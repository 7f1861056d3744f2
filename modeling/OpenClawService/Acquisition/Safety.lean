import OpenClawService.Acquisition.Rereads
import OpenClawService.Contention.Programs
import OpenClawService.Credentials.Jobs

/-! Calls for valid Xero tokens among all the other requests of the service: a call
fails as documented exactly when no load under the lock finds the token gone. -/
namespace OpenClaw.Acquisition
open Interleaving

/-- A call for the token of a connection, or any request of the service. -/
inductive Caller where
  | acquire (connectionId : String)
  | request (job : Credentials.Job)

section Runs
variable [Library] {ι : Type} {settings : Settings} {callers : ι → Caller} {connectionId : String} {redis : Redis ι}

def Caller.run (settings : Settings) : Caller → Async (Option TokenSet)
  | .acquire connectionId => some <$> XeroTokenManager.getValidToken settings connectionId
  | .request job => (fun _ => none) <$> job.run settings

def traffic (settings : Settings) (callers : ι → Caller) : ι → Prog Op Op.Answer (Except Exc (Option TokenSet)) :=
  fun i => ((callers i).run settings).run

/-- What a call promises: a documented result, which is a missing connection where the token is gone. -/
structure Promised (lost : Bool) (result : Except Exc α) : Prop where
  documented : Documented result
  missing : lost = true → ∃ text, result = .error (.connectionMissingError text)

omit [Library] in
theorem Ends.promised_iff {result : Except Exc α} (ends : Ends result a) : Promised a.lost result ↔ a.lost = false := by
  constructor
  · intro promised
    by_contra lost
    have raised := promised.documented
    rw [ends.lost (by simpa using lost)] at raised
    exact raised
  · intro kept
    exact ⟨ends.kept kept, fun lost => by simp [kept] at lost⟩

/-- The result of a call for this connection is that of the manager. -/
def Caller.post (connectionId : String) : Caller → Except Exc (Option TokenSet) → Account → Prop
  | .acquire other, result, a => other = connectionId → Ends result a
  | .request _, _, _ => True

omit [Library] in
theorem Ends.found {result : Except Exc α} {f : α → β} (ends : Ends result a) : Ends (f <$> result) a where
  lost gone := by rw [ends.lost gone]; rfl
  kept present := by
    have documented := ends.kept present
    cases result with
    | ok value => trivial
    | error exc => exact documented.raised

/-- A program that changes no tokens but to store some. -/
theorem stores_meets {program : Async α} (uses : program.run.Uses fun op => ∀ k mapping, op = .redis (.hset k mapping) →
      ∃ connectionId token, k = TokenStore.key connectionId ∧ mapping = TokenStore.toMapping token) :
    Meets (protocol connectionId) program {} (fun _ _ => True) := by
  refine Meets.of_uses uses ?_ (fun _ _ _ _ _ _ => trivial) trivial
  rintro a op _ stores
  cases op with
  | outside call => trivial
  | redis command =>
    cases command with
    | hset k mapping => exact stores k mapping rfl
    | _ => trivial

/-- A request asks for what its tokens allow, and so stores nothing but tokens. -/
theorem job_meets (job : Credentials.Job) : Meets (protocol connectionId) (job.run settings) {} (fun _ _ => True) := by
  have free (l : Credentials.Phase) (op : Op) (answer : op.Answer) : (Credentials.protocol settings job).expects l op answer := trivial
  refine stores_meets ((Conforms.uses free (Credentials.job_ends job)).mono ?_)
  rintro _ ⟨l, admitted⟩ k mapping rfl
  obtain ⟨connectionId, token, _, _, rfl, rfl, _⟩ := admitted
  exact ⟨connectionId, token, rfl, rfl⟩

/-- So does a call for the token of any connection. -/
theorem acquire_meets (other : String) : Meets (protocol connectionId) (XeroTokenManager.getValidToken settings other) {} (fun _ _ => True) := by
  have free (a : Contention.Account) (op : Op) (answer : op.Answer) :
    (Contention.protocol settings .xero other).expects a op answer := trivial
  refine stores_meets ((Conforms.uses free Contention.getValidToken_meets).mono ?_)
  rintro _ ⟨a, admitted⟩ k mapping rfl
  obtain ⟨rfl, _, _, token, _, rfl⟩ := admitted
  exact ⟨other, token, rfl, rfl⟩

theorem caller_meets (caller : Caller) : Meets (protocol connectionId) (caller.run settings) {} (caller.post connectionId) := by
  cases caller with
  | acquire other =>
    refine Meets.map_iff.mpr ?_
    rcases eq_or_ne other connectionId with rfl | apart
    · exact getValidToken_meets.mono fun _ _ ends _ => ends.found
    · exact (acquire_meets other).mono fun _ _ _ same => (apart same).elim
  | request job => exact Meets.map_iff.mpr (job_meets job)

variable [DecidableEq ι]

/-- Where each call stands, read off its own part of the log. -/
def account (connectionId : String) (log : List (Entry ι)) : ι → Account := view (fun _ => protocol connectionId) (fun _ => {}) log

/-- Every stored token can be read. -/
def Readable (redis : Redis ι) : Prop :=
  ∀ connectionId, ∃ token, TokenStore.decode (redis.hashes (TokenStore.key connectionId)) = .ok token

/-- Where the call loads the token of the connection with its lock held, there is one. -/
def Present (connectionId : String) (i : ι) (c : ServiceConfig ι (Except Exc (Option TokenSet))) : Option ι → Prop
  | none => True
  | some j => match c.pool j with
    | .await (.redis (.hgetall k)) _ => j = i → k = TokenStore.key connectionId →
      (account connectionId c.shared.log i).holding = true → c.shared.redis.hashes k ≠ []
    | _ => True

theorem Readable.exec {command : Command} (readable : Readable redis) (admitted : admits (.redis command)) :
    Readable (redis.exec i command).2 := by
  intro connectionId
  by_cases modifies : command.modifiesHash = some (TokenStore.key connectionId)
  · cases command with
    | hset k mapping =>
      obtain ⟨_, token, _, rfl⟩ := admitted
      cases modifies
      simp only [Redis.exec, Function.update_self]
      exact ⟨_, TokenStore.decode_merge _ token⟩
    | delHash k =>
      cases modifies
      simp only [Redis.exec, Function.update_self]
      exact ⟨none, rfl⟩
    | _ => cases modifies
  · rw [redis.exec_hashes i modifies]
    exact readable connectionId

variable {env : Environment ι} {c d : ServiceConfig ι (Except Exc (Option TokenSet))} {w w' : World ι} {i : ι}

theorem served {op : Op} {answer : op.Answer} (regular : env.Regular) (readable : Readable w.redis) (admitted : admits op)
    (served : Served env i w op answer w') : expects op answer ∧ Readable w'.redis := by
  cases served with
  | outside allowed => exact ⟨regular _ _ _ _ allowed, readable⟩
  | redis command =>
    refine ⟨?_, readable.exec admitted⟩
    cases command with
    | hgetall k =>
      rintro connectionId rfl
      exact readable connectionId
    | _ => trivial

/-- A token is lost in the one step that loads it when it is gone. -/
theorem kept_step {label : Option ι} (step : Step (system env) label c d) :
    (account connectionId d.shared.log i).lost = false ↔ (account connectionId c.shared.log i).lost = false ∧ Present connectionId i c label := by
  cases step with
  | drift drifted =>
    simp only [Present, and_true]
    cases drifted <;> rfl
  | @serve c j op resume answer w pending served =>
    simp only [Present, pending]
    by_cases same : j = i
    · subst same
      cases served with
      | @outside call answer allowed =>
        simp only [account, view_own, protocol_advance, and_true]
        rfl
      | redis command =>
        cases command with
        | hgetall k => by_cases own : k = TokenStore.key connectionId <;> simp [account, advance, Redis.exec, own]
        | setNx k | watch k => by_cases own : k = refreshLockKey connectionId <;> simp [account, advance, own]
        | _ => simp [account, advance]
    · have other : account connectionId w.log i = account connectionId c.shared.log i := by
        cases served <;> exact view_other _ _ _ (Ne.symm same) ..
      rw [other]
      simp only [same, false_imp_iff]
      split <;> simp

/-- A call for a token keeps its promise exactly when, whenever it loads the token
with the lock held, the token is there. -/
theorem acquires (regular : env.Regular) (readable : Readable redis) (run : Reaches (system env) ⟨⟨redis, []⟩, traffic settings callers⟩ c)
    (asked : callers i = .acquire connectionId) (ended : c.pool i = .done result) :
    Promised (account connectionId c.shared.log i).lost result ↔ Run (system env) (Present connectionId i) ⟨⟨redis, []⟩, traffic settings callers⟩ c := by
  have conforming : Conforming (fun _ => protocol connectionId) (fun w => account connectionId w.log) (fun i => (callers i).post connectionId)
      (⟨⟨redis, []⟩, traffic settings callers⟩ : ServiceConfig ι (Except Exc (Option TokenSet))) := fun i => caller_meets (callers i)
  have reached := Conforming.run (I := fun w => Readable w.redis) (tracks env _ _)
    (fun c i op resume answer w readable _ _ _ admitted step => served regular readable admitted step)
    (fun c w readable _ drifted => by cases drifted <;> exact readable) run readable conforming
  have ends : Ends result (account connectionId c.shared.log i) := by
    have post := reached.2.finished ended
    rw [asked] at post
    exact post rfl
  rw [ends.promised_iff]
  constructor
  · exact run.guarded (fun d => (account connectionId d.shared.log i).lost = false) fun c label d kept _ step => (kept_step step).mp kept
  · exact fun kept => kept.invariant (I := fun d => (account connectionId d.shared.log i).lost = false)
      (fun c label d kept present step => (kept_step step).mpr ⟨kept, present⟩) rfl

end Runs

section Revocation
local instance : Library := .sample

def stale : TokenSet :=
  { accessToken := "a0", expiresAt := 0, refreshToken := some "r0", xeroTenantId := some "tenant" }

/-- What the refresh endpoint returns. -/
def renewed : Json :=
  .obj [("access_token", .str "a1"), ("refresh_token", .str "r1"), ("expires_in", .num 1800 0), ("expires_at", .num 1 0)]

theorem renewed_dict : TokenDict renewed where
  accessToken := ⟨"a1", rfl⟩
  refreshToken := ⟨some "r1", rfl⟩
  tokenType := ⟨"Bearer", rfl⟩
  scope := ⟨none, rfl⟩
  expiresAt := Or.inr ⟨1, rfl, by decide, by decide⟩
  expiresIn := ⟨1800, rfl, by decide, by decide⟩

def answers : (call : Outside) → call.Answer
  | .uuid4 => "owner"
  | .refreshToken .. => .ok renewed
  | call => call.silence

theorem answers_allowed (worker : Bool) : (Move.outside worker answers).Allowed (.regular Bool) := by
  intro w call
  cases call with
  | now => exact ⟨by decide, by decide⟩
  | refreshToken => exact renewed_dict
  | _ => trivial

/-- A call for the token on one side, on the other a revocation. -/
def disconnecting : Bool → Caller
  | true => .acquire "acme"
  | false => .request (.revokeXero "acme")

def connected : ServiceConfig Bool (Except Exc (Option TokenSet)) :=
  ⟨⟨{ Redis.empty with hashes := fun _ => TokenStore.toMapping stale }, []⟩, traffic .sample disconnecting⟩

/-- The call finds the token stale, and wins the lock. -/
def contending : List (Move Bool) := [.redis true, .outside true answers, .outside true answers, .redis true]

def revoking : List (Move Bool) := [.redis false, .outside false answers, .redis false]

/-- The call refreshes, stores and releases the lock. -/
def refreshing : List (Move Bool) :=
  [.redis true, .outside true answers, .outside true answers, .redis true, .redis true, .redis true, .redis true]

theorem connected_readable : Readable (ι := Bool) { Redis.empty with hashes := fun _ => TokenStore.toMapping stale } :=
  fun _ => ⟨some stale, rfl⟩

theorem acquires_undisturbed :
    Promised false ((.ok (some ⟨"a1", 1000000, "Bearer", some "r1", none, some "tenant"⟩) : Except Exc (Option TokenSet))) := by
  have legal : LegalAlong (.regular Bool) (Present "acme" true) connected (contending ++ refreshing ++ revoking) := by
    refine ⟨nofun, ⟨trivial, by decide, by decide⟩, ⟨trivial, trivial⟩, trivial, ?_, ⟨trivial, by decide, by decide⟩,
      ⟨trivial, renewed_dict⟩, trivial, trivial, trivial, trivial, nofun, ⟨trivial, trivial⟩, trivial, trivial⟩
    -- Nothing has been deleted since the first load.
    rintro _ _ _ ⟨⟩
  have run : Reaches (system (.regular Bool)) connected ((contending ++ refreshing ++ revoking).foldl play connected) :=
    (plays_run legal).reaches
  exact (acquires Environment.regular_regular connected_readable run (i := true) rfl rfl).mpr (plays_run legal)

/-- The revocation comes between the lock and the load: the missing token is handed to the client. -/
theorem token_vanished : ∃ c, Reaches (system (.regular Bool)) connected c ∧ c.pool true = .done (.error vanished) ∧
    ¬ Promised (account "acme" c.shared.log true).lost (.error vanished : Except Exc (Option TokenSet)) := by
  refine ⟨(contending ++ revoking ++ List.replicate 4 (Move.redis true)).foldl play connected, plays_run (allowed_legal _ ?_), rfl,
    fun promised => promised.documented⟩
  intro move member
  simp only [contending, revoking, List.replicate, List.cons_append, List.nil_append, List.mem_cons, List.not_mem_nil, or_false] at member
  rcases member with rfl | rfl | rfl | rfl | rfl | rfl | rfl | rfl | rfl | rfl | rfl <;> first | trivial | exact answers_allowed _

end Revocation
end OpenClaw.Acquisition
