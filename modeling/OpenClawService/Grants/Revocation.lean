import OpenClawService.Grants.History

/-! Revocation is final as long as no call stores a refresh of a token that was
deleted after the call had loaded it. -/
namespace OpenClaw.Grants
open Interleaving

section Revocation
variable [Library] {ι : Type} [DecidableEq ι] {settings : Settings} {connectionId : String} {jobs : ι → Job}

/-- Once a revocation has returned, nothing is stored before the next authorization. -/
def RevocationFinal (connectionId : String) (jobs : ι → Job) (c : ServiceConfig ι (Except Exc Unit)) : Prop :=
  ∀ j, (jobs j).revokes = true → c.pool j = .done (.ok ()) → ¬ Reauthorized connectionId jobs j c.shared.log →
    c.shared.redis.hashes (TokenStore.key connectionId) = []

/-- No call is about to store the refresh of a token that was deleted since. -/
def Timely (connectionId : String) (jobs : ι → Job) (c : ServiceConfig ι (Except Exc Unit)) : Option ι → Prop
  | some i => match c.pool i with
    | .await (.redis (.hset ..)) _ => (jobs i).authorizes = false → ¬ Lapsed connectionId jobs i c.shared.log
    | _ => True
  | none => True

structure Cleared (settings : Settings) (connectionId : String) (jobs : ι → Job) (w : World ι) : Prop where
  absent : phase settings connectionId jobs w.log j = .revoked → ¬ Reauthorized connectionId jobs j w.log →
    w.redis.hashes (TokenStore.key connectionId) = []
  hands : (phase settings connectionId jobs w.log i).inHand = some current → ¬ Lapsed connectionId jobs i w.log →
    phase settings connectionId jobs w.log j = .revoked → Reauthorized connectionId jobs j w.log

namespace Cleared
variable {w w' : World ι} {i : ι} {op : Op} {answer : op.Answer} {command : Command} {env : Environment ι}

/-- A step that is no news for the connection and stores nothing after a revocation. -/
theorem quiet (inv : Cleared settings connectionId jobs w) {redis : Redis ι} {entry : Entry ι}
    (absent : ∀ j, phase settings connectionId jobs w.log j = .revoked → ¬ Reauthorized connectionId jobs j w.log →
      redis.hashes (TokenStore.key connectionId) = [])
    (hand : ∀ j, (phase settings connectionId jobs (entry :: w.log) j).inHand = (phase settings connectionId jobs w.log j).inHand)
    (revoked : ∀ j, phase settings connectionId jobs (entry :: w.log) j = .revoked ↔ phase settings connectionId jobs w.log j = .revoked)
    (unauthorized : ¬ Authorized connectionId jobs entry) (undeleted : ∀ j, ¬ Deletes connectionId j entry)
    (unloaded : ∀ j, ¬ Loads connectionId j entry) : Cleared settings connectionId jobs ⟨redis, entry :: w.log⟩ := by
  have reauthorized (j : ι) : Reauthorized connectionId jobs j (entry :: w.log) ↔ Reauthorized connectionId jobs j w.log :=
    Since.skip unauthorized (undeleted j)
  have lapsed (j : ι) : Lapsed connectionId jobs j (entry :: w.log) ↔ Lapsed connectionId jobs j w.log :=
    Since.skip (fun ⟨j, deletes⟩ => undeleted j deletes) (fun resets => resets.elim unauthorized (unloaded j))
  constructor
  case absent =>
    intro j ended none
    exact absent j ((revoked j).mp ended) ((reauthorized j).not.mp none)
  case hands =>
    intro i current j held kept ended
    rw [hand] at held
    exact (reauthorized j).mpr (inv.hands held ((lapsed i).not.mp kept) ((revoked j).mp ended))

/-- Whoever loads a token finds it authorized since every revocation. -/
theorem loads (inv : Cleared settings connectionId jobs w) :
    Cleared settings connectionId jobs ⟨w.redis, .call i (.redis (.hgetall (TokenStore.key connectionId)))
      (w.redis.hashes (TokenStore.key connectionId)) :: w.log⟩ := by
  have reauthorized (j : ι) : Reauthorized connectionId jobs j (.call i (.redis (.hgetall (TokenStore.key connectionId)))
      (w.redis.hashes (TokenStore.key connectionId)) :: w.log) ↔ Reauthorized connectionId jobs j w.log := Since.skip id id
  constructor
  case absent =>
    intro j ended none
    exact inv.absent ((revoked_kept (by simp) _).mp ended) ((reauthorized j).not.mp none)
  case hands =>
    intro k current j held kept ended
    rw [reauthorized]
    rcases eq_or_ne k i with rfl | other
    · by_contra none
      have empty := inv.absent ((revoked_kept (by simp) _).mp ended) none
      rw [phase_own] at held
      cases at_phase : phase settings connectionId jobs w.log k with
      | calling a =>
        rw [at_phase] at held
        have found := inHand_loaded held
        rw [empty] at found
        cases found
      | _ =>
        rw [at_phase] at held
        cases held
    · rw [phase_other other] at held
      have lapsed : Lapsed connectionId jobs k (.call i (.redis (.hgetall (TokenStore.key connectionId)))
          (w.redis.hashes (TokenStore.key connectionId)) :: w.log) ↔ Lapsed connectionId jobs k w.log :=
        Since.skip (fun ⟨_, deletes⟩ => deletes) (fun resets => resets.elim id fun loads => other loads.worker.symm)
      exact inv.hands held (lapsed.not.mp kept) ((revoked_kept (by simp) _).mp ended)

/-- A step that touches neither the token nor the history of the connection. -/
theorem aside (inv : Cleared settings connectionId jobs w) {redis : Redis ι}
    (hashes : redis.hashes (TokenStore.key connectionId) = w.redis.hashes (TokenStore.key connectionId))
    (unstored : ∀ mapping, op ≠ .redis (.hset (TokenStore.key connectionId) mapping))
    (undeleted : ∀ k, op ≠ .redis (.delHash k)) (unloaded : ∀ k, op ≠ .redis (.hgetall k)) :
    Cleared settings connectionId jobs ⟨redis, .call i op answer :: w.log⟩ := by
  exact inv.quiet (fun j ended none => hashes.trans (inv.absent ended none)) (inHand_kept unloaded) (revoked_kept undeleted)
    (unauthorized_of unstored) (fun _ => undeleted_of undeleted) (fun _ => unloaded_of unloaded)

/-- A call that is in time stores only what every revocation has seen authorized. -/
theorem stores (inv : Cleared settings connectionId jobs w) {redis : Redis ι} (unauthorized : (jobs i).authorizes = false)
    (hand : (phase settings connectionId jobs w.log i).inHand = some current) (timely : ¬ Lapsed connectionId jobs i w.log) :
    Cleared settings connectionId jobs ⟨redis, .call i (.redis (.hset (TokenStore.key connectionId) mapping)) () :: w.log⟩ := by
  refine inv.quiet (fun j ended none => (none (inv.hands hand timely ended)).elim) (inHand_kept (by simp))
    (revoked_kept (by simp)) ?_ (fun _ => id) (fun _ => id)
  rintro ⟨authorizes, _⟩
  rw [unauthorized] at authorizes
  cases authorizes

theorem authorized (redis : Redis ι) (authorizes : (jobs i).authorizes = true) :
    Cleared settings connectionId jobs ⟨redis, .call i (.redis (.hset (TokenStore.key connectionId) mapping)) () :: w.log⟩ where
  absent _ none := (none (Or.inl ⟨authorizes, rfl⟩)).elim
  hands _ _ _ := Or.inl ⟨authorizes, rfl⟩

theorem deletes {redis : Redis ι} (empty : redis.hashes (TokenStore.key connectionId) = []) :
    Cleared settings connectionId jobs ⟨redis, .call i (.redis (.delHash (TokenStore.key connectionId))) () :: w.log⟩ where
  absent _ _ := empty
  hands _ kept _ := (kept (Or.inl ⟨i, rfl, rfl⟩)).elim

theorem served (inv : Cleared settings connectionId jobs w) (fits : Fits (jobs i) (phase settings connectionId jobs w.log i))
    (admitted : admits settings connectionId (jobs i) (phase settings connectionId jobs w.log i) op)
    (timely : ∀ k mapping, op = .redis (.hset k mapping) → (jobs i).authorizes = false → ¬ Lapsed connectionId jobs i w.log)
    (served : Served env i w op answer w') : Cleared settings connectionId jobs w' := by
  cases served with
  | outside allowed => exact inv.aside rfl (by simp) (by simp) (by simp)
  | redis command =>
    cases command with
    | hgetall k =>
      by_cases same : k = TokenStore.key connectionId
      · rw [same]
        exact inv.loads
      · have phases (j : ι) : phase settings connectionId jobs (.call i (.redis (.hgetall k)) (w.redis.hashes k) :: w.log) j =
            phase settings connectionId jobs w.log j := phase_astray same admitted j
        exact inv.quiet (fun _ => inv.absent) (fun j => congrArg Phase.inHand (phases j))
          (fun j => Iff.of_eq (congrArg (· = Phase.revoked) (phases j))) id (fun _ => id) (fun _ loads => same loads.2)
    | hset k mapping =>
      rcases admits_hset admitted with ⟨a, manager, token, calling, job, rfl, renewed, rfl⟩ | ⟨at_phase, target, token, rfl, rfl⟩
      · have unauthorized : (jobs i).authorizes = false := by rw [job]; rfl
        obtain ⟨current, _, hand, _⟩ := renewed
        have held : (phase settings connectionId jobs w.log i).inHand = some current := by rw [calling]; exact hand
        exact inv.stores unauthorized held (timely _ _ rfl unauthorized)
      · by_cases same : TokenStore.key target = TokenStore.key connectionId
        · rw [same]
          rw [at_phase] at fits
          exact authorized _ fits
        · refine inv.aside (w.redis.exec_hashes i ?_) ?_ (by simp) (by simp)
          · exact fun modifies => same (Option.some.inj modifies)
          · rintro mapping stores
            simp only [Op.redis.injEq, Command.hset.injEq] at stores
            exact same stores.1
    | delHash k =>
      obtain ⟨_, rfl⟩ := admits_delHash admitted
      exact deletes (Function.update_self ..)
    | _ => exact inv.aside (w.redis.exec_hashes i nofun) (by simp) (by simp) (by simp)

theorem drifted (inv : Cleared settings connectionId jobs w) (drifted : Drifted env w w') :
    Cleared settings connectionId jobs w' := by
  cases drifted with
  | expire | invoice =>
    exact inv.quiet (fun _ => inv.absent) (fun _ => rfl) (fun _ => Iff.rfl) id (fun _ => id) (fun _ => id)

theorem start (redis : Redis ι) : Cleared settings connectionId jobs ⟨redis, []⟩ := by
  constructor
  case absent =>
    intro j ended
    replace ended : (jobs j).start = .revoked := ended
    cases job : jobs j <;> simp [job, Job.start] at ended
  case hands =>
    intro i current j held
    replace held : (jobs i).start.inHand = some current := held
    cases job : jobs i <;> simp [job, Job.start, Phase.inHand, Contention.Account.inHand] at held

end Cleared

theorem revocation_final {env : Environment ι} {redis : Redis ι} {c : ServiceConfig ι (Except Exc Unit)}
    (run : Run (system env) (Timely connectionId jobs) ⟨⟨redis, []⟩, traffic settings connectionId jobs⟩ c) :
    RevocationFinal connectionId jobs c := by
  have reached : Cleared settings connectionId jobs c.shared ∧ Conformant settings connectionId jobs c := by
    apply Conforming.run (tracks env _ _) ?_ ?_ run (.start redis) (conformant_start redis)
    · intro c i op resume answer w inv _ timely pending admitted served
      refine ⟨trivial, inv.served (fits_phase c.shared.log i) admitted ?_ served⟩
      rintro k mapping rfl
      simpa only [Timely, pending] using timely
    · intro c w inv _ drifted
      exact inv.drifted drifted
  intro j revokes returned none
  obtain ⟨inv, conforming⟩ := reached
  have ended : Ended (jobs j) (.ok ()) (phase settings connectionId jobs c.shared.log j) := conforming.finished returned
  exact inv.absent ((ended revokes).mp rfl) none

end Revocation

section Runs
local instance : Library := .sample

def stale : TokenSet :=
  { accessToken := "a0", expiresAt := 0, refreshToken := some "r0", xeroTenantId := some "tenant" }

def answers : (call : Outside) → call.Answer
  | .uuid4 => "owner"
  | .refreshToken .. => .ok (.obj [("access_token", .str "a1"), ("refresh_token", .str "r1"), ("expires_at", .num 1 0)])
  | call => call.silence

/-- A call for a token on one side, on the other a revocation. -/
def disconnecting : Bool → Job
  | true => .call .xero
  | false => .revokeXero

def disconnected : ServiceConfig Bool (Except Exc Unit) :=
  ⟨⟨{ Redis.empty with hashes := fun _ => TokenStore.toMapping stale }, []⟩, traffic .sample "acme" disconnecting⟩

/-- The call takes the lock, loads the stale token once more and refreshes it. -/
def refreshed : List (Move Bool) :=
  [.redis true, .outside true answers, .outside true answers, .redis true, .redis true, .outside true answers,
    .outside true answers]

def revoked : List (Move Bool) := [.redis false, .outside false answers, .redis false]

/-- The call stores the new token before the revocation begins. -/
theorem revocation_in_time :
    ((refreshed ++ Move.redis true :: revoked).foldl play disconnected).shared.redis.hashes (TokenStore.key "acme") = [] := by
  have legal : LegalAlong (.free Bool) (Timely "acme" disconnecting) disconnected (refreshed ++ Move.redis true :: revoked) := by
    refine ⟨trivial, ⟨trivial, trivial⟩, ⟨trivial, trivial⟩, trivial, trivial, ⟨trivial, trivial⟩, ⟨trivial, trivial⟩, ?_,
      trivial, ⟨trivial, trivial⟩, trivial, trivial⟩
    -- The token that is stored was loaded two steps before, and nothing was deleted.
    intro _ lapsed
    obtain ⟨_, deletes⟩ | ⟨_, ⟨_, deletes⟩ | ⟨_, ⟨_, deletes⟩ | ⟨unloaded, _⟩⟩⟩ := lapsed
    · exact deletes
    · exact deletes
    · exact deletes
    · exact unloaded (Or.inr ⟨rfl, rfl⟩)
  refine revocation_final (plays_run legal) false rfl rfl ?_
  rintro (authorized | ⟨undeleted, _⟩)
  · exact authorized
  · exact undeleted ⟨rfl, rfl⟩

/-- The revocation returns between the refresh and its store: the new token stays. -/
theorem revocation_undone : ∃ c, Reaches (system (.free Bool)) disconnected c ∧ ¬ RevocationFinal "acme" disconnecting c := by
  refine ⟨(refreshed ++ revoked ++ [Move.redis true]).foldl play disconnected, plays_run (free_legal ..), fun final => ?_⟩
  have absent := final false rfl rfl ?_
  · cases absent
  · rintro (authorized | ⟨_, authorized | ⟨undeleted, _⟩⟩)
    · exact absurd authorized.1 (by decide)
    · exact authorized
    · exact undeleted ⟨rfl, rfl⟩

end Runs
end OpenClaw.Grants
