import OpenClawService.Contention.Calls
import OpenClawService.Grants.Revocation

/-! The lineage of the stored token. After an authorization it is the token of
the newest one, or refreshed from it, as long as no call stores the refresh of
a token that an authorization has replaced since. -/
namespace OpenClaw.Grants
open Interleaving

section Lineage
variable [Library] {ι : Type} [DecidableEq ι] {settings : Settings} {connectionId : String} {jobs : ι → Job}
  {log : List (Entry ι)}

/-- Some authorization has stored a token for the connection. -/
def Reconnected (connectionId : String) (jobs : ι → Job) (log : List (Entry ι)) : Prop :=
  ∃ entry ∈ log, Authorized connectionId jobs entry

/-- An authorization stores this token, as it is read back. -/
def GrantsToken (connectionId : String) (jobs : ι → Job) : Entry ι → TokenSet → Prop
  | .call i (.redis (.hset k mapping)) _, token => (jobs i).authorizes = true ∧ k = TokenStore.key connectionId ∧
      TokenStore.decode mapping = .ok (some token)
  | _, _ => False

/-- The provider refreshes the one token into the other. -/
def Refreshes (settings : Settings) (jobs : ι → Job) (current : TokenSet) : Entry ι → TokenSet → Prop
  | .call i (.outside call) answer, token => ∃ manager issued, jobs i = .call manager ∧
      manager.Renews settings current ⟨call, answer⟩ issued ∧ token = TokenStore.kept issued
  | _, _ => False

/-- The token is the one that the newest authorization stored, or refreshed from it. -/
def Belongs (settings : Settings) (connectionId : String) (jobs : ι → Job) : List (Entry ι) → TokenSet → Prop
  | [], _ => False
  | entry :: rest, token => GrantsToken connectionId jobs entry token ∨ (¬ Authorized connectionId jobs entry ∧
      (Belongs settings connectionId jobs rest token ∨
        ∃ current, Belongs settings connectionId jobs rest current ∧ Refreshes settings jobs current entry token))

omit [DecidableEq ι] in
theorem Belongs.later {entry : Entry ι} (belongs : Belongs settings connectionId jobs log token)
    (unauthorized : ¬ Authorized connectionId jobs entry) : Belongs settings connectionId jobs (entry :: log) token :=
  Or.inr ⟨unauthorized, Or.inl belongs⟩

omit [DecidableEq ι] in
theorem Belongs.before {entry : Entry ι} (belongs : Belongs settings connectionId jobs (entry :: log) token)
    (ungranted : ¬ GrantsToken connectionId jobs entry token) (unrefreshed : ∀ current, ¬ Refreshes settings jobs current entry token) :
    ¬ Authorized connectionId jobs entry ∧ Belongs settings connectionId jobs log token := by
  obtain granted | ⟨unauthorized, belongs | ⟨current, _, refreshes⟩⟩ := belongs
  · exact (ungranted granted).elim
  · exact ⟨unauthorized, belongs⟩
  · exact (unrefreshed current refreshes).elim

omit [DecidableEq ι] in
theorem Belongs.granted {i : ι} (authorizes : (jobs i).authorizes = true) : Belongs settings connectionId jobs
    (.call i (.redis (.hset (TokenStore.key connectionId) (TokenStore.toMapping token))) () :: log) (TokenStore.kept token) := by
  refine Or.inl ⟨authorizes, rfl, ?_⟩
  have decoded := TokenStore.decode_merge [] token
  rwa [Redis.merge, List.filter_nil, List.append_nil] at decoded

omit [Library] [DecidableEq ι] in
theorem Reconnected.before {entry : Entry ι} (reconnected : Reconnected connectionId jobs (entry :: log))
    (unauthorized : ¬ Authorized connectionId jobs entry) : Reconnected connectionId jobs log := by
  obtain ⟨earlier, listed, authorized⟩ := reconnected
  rcases List.mem_cons.mp listed with rfl | listed
  · exact (unauthorized authorized).elim
  · exact ⟨earlier, listed, authorized⟩

/-- Once an authorization has stored its token, the stored token belongs to the newest one. -/
def GrantKept (settings : Settings) (connectionId : String) (jobs : ι → Job) (w : World ι) : Prop :=
  Reconnected connectionId jobs w.log → ∃ token,
    TokenStore.decode (w.redis.hashes (TokenStore.key connectionId)) = .ok (some token) ∧
      Belongs settings connectionId jobs w.log token

omit [DecidableEq ι] in
theorem GrantKept.later {redis : Redis ι} {entry : Entry ι} (kept : GrantKept settings connectionId jobs ⟨redis, log⟩)
    (unauthorized : ¬ Authorized connectionId jobs entry) : GrantKept settings connectionId jobs ⟨redis, entry :: log⟩ := by
  intro reconnected
  obtain ⟨token, decoded, belongs⟩ := kept (reconnected.before unauthorized)
  exact ⟨token, decoded, belongs.later unauthorized⟩

/-- No call is about to store the refresh of a token that an authorization has replaced. -/
def Current (connectionId : String) (jobs : ι → Job) (c : ServiceConfig ι (Except Exc Unit)) : Option ι → Prop
  | some i => match c.pool i with
    | .await (.redis (.hset ..)) _ => (jobs i).authorizes = false → ¬ Overtaken connectionId jobs i c.shared.log
    | _ => True
  | none => True

/-- A load and an answer of the refresh client are all that a refresh is made of. -/
theorem renewed_kept {op : Op} {answer : op.Answer} {manager : Contention.Manager} {a : Contention.Account} (unloaded : ∀ k, op ≠ .redis (.hgetall k))
    (unasked : ∀ call, op = .outside call → Contention.refreshes call = false)
    (renewed : Contention.Renewed settings manager (Contention.advance connectionId a op answer) token) :
    Contention.Renewed settings manager a token := by
  cases op with
  | redis command =>
    have kept : (Contention.advance connectionId a (.redis command) answer).inHand = a.inHand :=
      Contention.Account.redis_inHand fun k same => unloaded k (congrArg Op.redis same)
    simpa only [Contention.Renewed, kept, Contention.Account.redis_renewals] using renewed
  | outside call =>
    cases call with
    | now => simpa only [Contention.Renewed, Contention.advance, Contention.Account.timed_inHand, Contention.Account.timed_renewals]
        using renewed
    | http | refreshToken => cases unasked _ rfl
    | _ => exact renewed

theorem renewed_before {i j : ι} {op : Op} {answer : op.Answer} {manager : Contention.Manager}
    (unloaded : ∀ k, op ≠ .redis (.hgetall k))
    (unasked : ∀ a, phase settings connectionId jobs log i = .calling a → ∀ call, op = .outside call →
      Contention.refreshes call = false)
    (calling : phase settings connectionId jobs (.call i op answer :: log) j = .calling a)
    (renewed : Contention.Renewed settings manager a token) :
    ∃ a', phase settings connectionId jobs log j = .calling a' ∧ Contention.Renewed settings manager a' token := by
  rcases eq_or_ne j i with rfl | other
  · rw [phase_own] at calling
    obtain ⟨a', at_phase, rfl⟩ := calling_advance calling
    exact ⟨a', at_phase, renewed_kept unloaded (unasked a' at_phase) renewed⟩
  · rw [phase_other other] at calling
    exact ⟨a, calling, renewed⟩

structure Descended (settings : Settings) (connectionId : String) (jobs : ι → Job) (w : World ι) : Prop where
  stored : GrantKept settings connectionId jobs w
  hands : (phase settings connectionId jobs w.log i).inHand = some current → ¬ Overtaken connectionId jobs i w.log →
    Reconnected connectionId jobs w.log → Belongs settings connectionId jobs w.log current
  renewed : phase settings connectionId jobs w.log i = .calling a → jobs i = .call manager →
    Contention.Renewed settings manager a token → ¬ Overtaken connectionId jobs i w.log →
    Reconnected connectionId jobs w.log → Belongs settings connectionId jobs w.log (TokenStore.kept token)

namespace Descended
variable {w w' : World ι} {i : ι} {op : Op} {answer : op.Answer} {env : Environment ι}

/-- A step that is no news for the connection and keeps the lineage of what is stored. -/
theorem quiet (inv : Descended settings connectionId jobs w) {redis : Redis ι} {entry : Entry ι}
    (stored : Reconnected connectionId jobs w.log → ∃ token,
      TokenStore.decode (redis.hashes (TokenStore.key connectionId)) = .ok (some token) ∧
        Belongs settings connectionId jobs w.log token)
    (hand : ∀ j, (phase settings connectionId jobs (entry :: w.log) j).inHand = (phase settings connectionId jobs w.log j).inHand)
    (renewed : ∀ j a manager token, phase settings connectionId jobs (entry :: w.log) j = .calling a →
      Contention.Renewed settings manager a token → ∃ a', phase settings connectionId jobs w.log j = .calling a' ∧
        Contention.Renewed settings manager a' token)
    (unauthorized : ¬ Authorized connectionId jobs entry) (unloaded : ∀ j, ¬ Loads connectionId j entry) :
    Descended settings connectionId jobs ⟨redis, entry :: w.log⟩ := by
  have overtaken (j : ι) : Overtaken connectionId jobs j (entry :: w.log) ↔ Overtaken connectionId jobs j w.log :=
    Since.skip unauthorized (unloaded j)
  constructor
  case stored => exact GrantKept.later stored unauthorized
  case hands =>
    intro i current held kept reconnected
    rw [hand] at held
    exact (inv.hands held ((overtaken i).not.mp kept) (reconnected.before unauthorized)).later unauthorized
  case renewed =>
    intro i a manager token calling job issued kept reconnected
    obtain ⟨a', before, issued⟩ := renewed i a manager token calling issued
    exact (inv.renewed before job issued ((overtaken i).not.mp kept) (reconnected.before unauthorized)).later unauthorized

/-- A step that touches neither the token nor the history of the connection. -/
theorem aside (inv : Descended settings connectionId jobs w) {redis : Redis ι}
    (hashes : redis.hashes (TokenStore.key connectionId) = w.redis.hashes (TokenStore.key connectionId))
    (unstored : ∀ mapping, op ≠ .redis (.hset (TokenStore.key connectionId) mapping))
    (unloaded : ∀ k, op ≠ .redis (.hgetall k))
    (unasked : ∀ a, phase settings connectionId jobs w.log i = .calling a → ∀ call, op = .outside call →
      Contention.refreshes call = false) :
    Descended settings connectionId jobs ⟨redis, .call i op answer :: w.log⟩ := by
  refine inv.quiet ?_ (inHand_kept unloaded) (fun _ _ _ _ => renewed_before unloaded unasked) (unauthorized_of unstored)
    (fun _ => unloaded_of unloaded)
  rw [hashes]
  exact inv.stored

/-- Whoever loads a token finds one of the newest authorization. -/
theorem loads (inv : Descended settings connectionId jobs w)
    (first : ∀ a, phase settings connectionId jobs w.log i = .calling a → a.renewals = []) :
    Descended settings connectionId jobs ⟨w.redis, .call i (.redis (.hgetall (TokenStore.key connectionId)))
      (w.redis.hashes (TokenStore.key connectionId)) :: w.log⟩ := by
  have unauthorized : ¬ Authorized connectionId jobs (.call i (.redis (.hgetall (TokenStore.key connectionId)))
      (w.redis.hashes (TokenStore.key connectionId))) := id
  have overtaken {k : ι} (other : k ≠ i) : Overtaken connectionId jobs k (.call i (.redis (.hgetall (TokenStore.key connectionId)))
      (w.redis.hashes (TokenStore.key connectionId)) :: w.log) ↔ Overtaken connectionId jobs k w.log :=
    Since.skip unauthorized (fun loads => other loads.worker.symm)
  constructor
  case stored => exact inv.stored.later unauthorized
  case hands =>
    intro k current held kept reconnected
    rcases eq_or_ne k i with rfl | other
    · rw [phase_own] at held
      cases at_phase : phase settings connectionId jobs w.log k with
      | calling a =>
        rw [at_phase] at held
        obtain ⟨token, decoded, belongs⟩ := inv.stored (reconnected.before unauthorized)
        rw [inHand_loaded held] at decoded
        cases decoded
        exact belongs.later unauthorized
      | _ =>
        rw [at_phase] at held
        cases held
    · rw [phase_other other] at held
      exact (inv.hands held ((overtaken other).not.mp kept) (reconnected.before unauthorized)).later unauthorized
  case renewed =>
    intro k a manager token calling job renewed kept reconnected
    rcases eq_or_ne k i with rfl | other
    · rw [phase_own] at calling
      obtain ⟨a', at_phase, rfl⟩ := calling_advance calling
      obtain ⟨_, _, _, one, _⟩ := renewed
      have none : a'.renewals = [] := first a' at_phase
      rw [Contention.Account.redis_renewals, none] at one
      cases one
    · rw [phase_other other] at calling
      exact (inv.renewed calling job renewed ((overtaken other).not.mp kept) (reconnected.before unauthorized)).later unauthorized

/-- The refresh of a token belongs where the token does. -/
theorem asks (inv : Descended settings connectionId jobs w) {call : Outside} {answer : call.Answer}
    (refreshes : Contention.refreshes call = true) (calling : phase settings connectionId jobs w.log i = .calling a)
    (first : a.renewals = []) :
    Descended settings connectionId jobs ⟨w.redis, .call i (.outside call) answer :: w.log⟩ := by
  have unauthorized : ¬ Authorized connectionId jobs (.call i (.outside call) answer) := id
  have overtaken (k : ι) : Overtaken connectionId jobs k (.call i (.outside call) answer :: w.log) ↔
      Overtaken connectionId jobs k w.log := Since.skip unauthorized id
  have own : phase settings connectionId jobs (.call i (.outside call) answer :: w.log) i = .calling (a.renewed call answer) := by
    rw [phase_own, calling]
    cases call with
    | http | refreshToken => rfl
    | _ => cases refreshes
  constructor
  case stored => exact inv.stored.later unauthorized
  case hands =>
    intro k current held kept reconnected
    rw [inHand_kept (by simp)] at held
    exact (inv.hands held ((overtaken k).not.mp kept) (reconnected.before unauthorized)).later unauthorized
  case renewed =>
    intro k b manager token busy job renewed kept reconnected
    rcases eq_or_ne k i with rfl | other
    · rw [own] at busy
      cases busy
      obtain ⟨current, event, hand, one, renews⟩ := renewed
      have this : event = ⟨call, answer⟩ := by simpa [Contention.Account.renewed, first] using one.symm
      subst this
      have held : (phase settings connectionId jobs w.log k).inHand = some current := by rw [calling]; exact hand
      have belongs := inv.hands held ((overtaken k).not.mp kept) (reconnected.before unauthorized)
      exact Or.inr ⟨unauthorized, Or.inr ⟨current, belongs, manager, token, job, renews, rfl⟩⟩
    · rw [phase_other other] at busy
      exact (inv.renewed busy job renewed ((overtaken k).not.mp kept) (reconnected.before unauthorized)).later unauthorized

/-- A call stores only what belongs to the newest authorization. -/
theorem stores (inv : Descended settings connectionId jobs w) (calling : phase settings connectionId jobs w.log i = .calling a)
    (job : jobs i = .call manager) (renewed : Contention.Renewed settings manager a token)
    (kept : ¬ Overtaken connectionId jobs i w.log) {redis : Redis ι}
    (written : redis.hashes (TokenStore.key connectionId) =
      Redis.merge (w.redis.hashes (TokenStore.key connectionId)) (TokenStore.toMapping token)) :
    Descended settings connectionId jobs
      ⟨redis, .call i (.redis (.hset (TokenStore.key connectionId) (TokenStore.toMapping token))) () :: w.log⟩ := by
  refine inv.quiet (fun reconnected => ?_) (inHand_kept (by simp)) (fun _ _ _ _ => renewed_before (by simp) (by simp)) ?_
    (fun _ => id)
  · exact ⟨TokenStore.kept token, by rw [written, TokenStore.decode_merge], inv.renewed calling job renewed kept reconnected⟩
  · rintro ⟨authorizes, _⟩
    rw [job] at authorizes
    cases authorizes

theorem authorizes (authorizes : (jobs i).authorizes = true) {redis : Redis ι}
    (written : redis.hashes (TokenStore.key connectionId) =
      Redis.merge (w.redis.hashes (TokenStore.key connectionId)) (TokenStore.toMapping token)) :
    Descended settings connectionId jobs
      ⟨redis, .call i (.redis (.hset (TokenStore.key connectionId) (TokenStore.toMapping token))) () :: w.log⟩ where
  stored _ := ⟨TokenStore.kept token, by rw [written, TokenStore.decode_merge], .granted authorizes⟩
  hands _ kept := (kept (Or.inl ⟨authorizes, rfl⟩)).elim
  renewed _ _ _ kept := (kept (Or.inl ⟨authorizes, rfl⟩)).elim

theorem served (inv : Descended settings connectionId jobs w) (unrevoked : (jobs i).revokes = false)
    (fits : Fits (jobs i) (phase settings connectionId jobs w.log i))
    (admitted : admits settings connectionId (jobs i) (phase settings connectionId jobs w.log i) op)
    (kept : ∀ k mapping, op = .redis (.hset k mapping) → (jobs i).authorizes = false → ¬ Overtaken connectionId jobs i w.log)
    (served : Served env i w op answer w') : Descended settings connectionId jobs w' := by
  cases served with
  | @outside call answer allowed =>
    cases refreshes : Contention.refreshes call with
    | true =>
      cases at_phase : phase settings connectionId jobs w.log i with
      | calling a =>
        rw [at_phase] at admitted
        obtain ⟨_, _, admitted⟩ := admits_calling admitted
        have licensed : a.renewals = [] := by
          cases call with
          | http | refreshToken => exact admitted.1.first
          | _ => cases refreshes
        exact inv.asks refreshes at_phase licensed
      | _ => exact inv.aside rfl (by simp) (by simp) (fun _ calling => nomatch at_phase.symm.trans calling)
    | false =>
      refine inv.aside rfl (by simp) (by simp) ?_
      rintro _ _ _ ⟨⟩
      exact refreshes
  | redis command =>
    cases command with
    | hgetall k =>
      by_cases same : k = TokenStore.key connectionId
      · rw [same]
        refine inv.loads fun a calling => ?_
        rw [calling] at admitted
        obtain ⟨_, _, _, first⟩ := admits_calling admitted
        exact first
      · have phases (j : ι) : phase settings connectionId jobs (.call i (.redis (.hgetall k)) (w.redis.hashes k) :: w.log) j =
            phase settings connectionId jobs w.log j := phase_astray same admitted j
        exact inv.quiet inv.stored (fun j => congrArg Phase.inHand (phases j))
          (fun j a _ _ calling renewed => ⟨a, (phases j).symm.trans calling, renewed⟩) id (fun _ loads => same loads.2)
    | hset k mapping =>
      rcases admits_hset admitted with ⟨a, manager, token, calling, job, rfl, renewed, rfl⟩ | ⟨at_phase, target, token, rfl, rfl⟩
      · refine inv.stores calling job renewed (kept _ _ rfl ?_) (Function.update_self ..)
        rw [job]
        rfl
      · rw [at_phase] at fits
        by_cases same : TokenStore.key target = TokenStore.key connectionId
        · rw [same]
          exact authorizes fits (Function.update_self ..)
        · refine inv.aside (w.redis.exec_hashes i ?_) ?_ (by simp) (by simp)
          · exact fun modifies => same (Option.some.inj modifies)
          · rintro mapping stores
            simp only [Op.redis.injEq, Command.hset.injEq] at stores
            exact same stores.1
    | delHash k =>
      obtain ⟨at_phase, _⟩ := admits_delHash admitted
      rw [at_phase] at fits
      cases unrevoked.symm.trans fits
    | _ => exact inv.aside (w.redis.exec_hashes i nofun) (by simp) (by simp) (by simp)

theorem drifted (inv : Descended settings connectionId jobs w) (drifted : Drifted env w w') :
    Descended settings connectionId jobs w' := by
  cases drifted with
  | expire | invoice => exact inv.quiet inv.stored (fun _ => rfl) (fun _ a _ _ calling renewed => ⟨a, calling, renewed⟩) id (fun _ => id)

theorem start (redis : Redis ι) : Descended settings connectionId jobs ⟨redis, []⟩ where
  stored := by
    rintro ⟨_, listed, _⟩
    cases listed
  hands _ _ := by
    rintro ⟨_, listed, _⟩
    cases listed
  renewed _ _ _ _ := by
    rintro ⟨_, listed, _⟩
    cases listed

end Descended

/-- Any number of calls and authorizations, as long as no call stores the refresh of a replaced token. -/
theorem grant_kept {env : Environment ι} {redis : Redis ι} {c : ServiceConfig ι (Except Exc Unit)}
    (unrevoked : ∀ i, (jobs i).revokes = false)
    (run : Run (system env) (Current connectionId jobs) ⟨⟨redis, []⟩, traffic settings connectionId jobs⟩ c) :
    GrantKept settings connectionId jobs c.shared := by
  have reached : Descended settings connectionId jobs c.shared ∧ Conformant settings connectionId jobs c := by
    apply Conforming.run (tracks env _ _) ?_ ?_ run (.start redis) (conformant_start redis)
    · intro c i op resume answer w inv _ current pending admitted served
      refine ⟨trivial, inv.served (unrevoked i) (fits_phase c.shared.log i) admitted ?_ served⟩
      rintro k mapping rfl
      simpa only [Current, pending] using current
    · intro c w inv _ drifted
      exact inv.drifted drifted
  exact reached.1.stored

end Lineage

section Runs
local instance : Library := .sample

/-- A call for a token on one side, on the other a callback that authorizes the connection again. -/
def reconnecting : Bool → Job
  | true => .call .xero
  | false => .callback "code" "state"

def consents : (call : Outside) → call.Answer
  | .fetchToken .. => .ok (.obj [("access_token", .str "a2"), ("refresh_token", .str "r2"), ("expires_at", .num 0 0)])
  | call => call.silence

def reconnected : ServiceConfig Bool (Except Exc Unit) :=
  ⟨⟨{ Redis.empty with
      strings := fun key => if key = "oauth:state:state" then some "acme" else none
      hashes := fun _ => TokenStore.toMapping stale }, []⟩, traffic .sample "acme" reconnecting⟩

/-- The callback takes the state, exchanges the code, looks for the tenant and stores its token. -/
def authorized : List (Move Bool) :=
  [.redis false, .redis false, .redis false, .outside false consents, .outside false consents, .redis false]

/-- The call stores what it has and releases the lock. -/
def released : List (Move Bool) := [.redis true, .redis true, .redis true, .redis true]

/-- The call has found its token stale, and the callback has ended. -/
def reauthorized : ServiceConfig Bool (Except Exc Unit) := (refreshed.take 2 ++ authorized).foldl play reconnected

/-- The callback ends before the load under the lock: its own token is refreshed. -/
theorem grant_refreshed :
    GrantKept .sample "acme" reconnecting ((refreshed.drop 2 ++ released).foldl play reauthorized).shared := by
  have first : LegalAlong (.free Bool) (Current "acme" reconnecting) reconnected (refreshed.take 2 ++ authorized) :=
    ⟨trivial, ⟨trivial, trivial⟩, trivial, trivial, trivial, ⟨trivial, trivial⟩, ⟨trivial, trivial⟩, nofun, trivial⟩
  have second : LegalAlong (.free Bool) (Current "acme" reconnecting) reauthorized (refreshed.drop 2 ++ released) := by
    refine ⟨⟨trivial, trivial⟩, trivial, trivial, ⟨trivial, trivial⟩, ⟨trivial, trivial⟩, ?_, trivial, trivial, trivial, trivial⟩
    -- The token that is stored was loaded two steps before.
    intro _ overtaken
    obtain authorized | ⟨_, authorized | ⟨_, authorized | ⟨unloaded, _⟩⟩⟩ := overtaken
    · exact authorized
    · exact authorized
    · exact authorized
    · exact unloaded ⟨rfl, rfl⟩
  refine grant_kept (fun i => ?_) ((plays_run first).trans (plays_run second))
  cases i <;> rfl

/-- The callback ends between the refresh and its store: the older grant is stored over the newer one. -/
theorem grant_lost : ∃ c, Reaches (system (.free Bool)) reconnected c ∧ (∀ i, ∃ result, c.pool i = .done result) ∧
    ¬ GrantKept .sample "acme" reconnecting c.shared := by
  refine ⟨(refreshed ++ authorized ++ released).foldl play reconnected, plays_run (free_legal ..), fun i => ?_, fun kept => ?_⟩
  · cases i <;> exact ⟨_, rfl⟩
  · obtain ⟨token, decoded, belongs⟩ := kept ⟨_, List.mem_of_getElem? (i := 4) rfl, rfl, rfl⟩
    cases decoded
    -- The call's four last requests neither authorize nor refresh; before them the callback has stored its token.
    iterate 3 replace belongs := (belongs.before nofun fun _ => nofun).2
    replace belongs := (belongs.before (fun granted => nomatch granted.1) fun _ => nofun).2
    obtain ⟨_, _, same⟩ | ⟨unauthorized, _⟩ := belongs
    · have texts : "a2" = "a1" := congrArg TokenSet.accessToken (Option.some.inj (Except.ok.inj same))
      exact absurd texts (by decide)
    · exact unauthorized ⟨rfl, rfl⟩

end Runs
end OpenClaw.Grants
