import OpenClawService.Connection.Request

/-! What a 401 costs. An API request that is answered 401 deletes the token that
its retry would need; without a 401 every request leaves a token stored. -/
namespace OpenClaw.Connection
open Interleaving

/-- Where a request stands. After `rejected` it deletes the token. -/
inductive Phase where
  | trying
  | answered
  | rejected
  | deleted
  deriving DecidableEq

def advance : Phase → (op : Op) → op.Answer → Phase
  | .trying, .outside (.http _), .ok response => if response.statusCode = 401 then .rejected else .answered
  | .trying, .outside (.http _), .error _ => .answered
  | .rejected, .redis (.delHash _), _ => .deleted
  | phase, _, _ => phase

/-- What the providers were asked, and their answers. -/
inductive Event where
  | api (request : HttpRequest) (answer : Except String HttpResponse)
  | refresh (refreshToken : String) (answer : Except String Json)

/-- The newest event comes first. -/
def events {ι : Type} : List (Entry ι) → List Event
  | [] => []
  | .call _ (.outside (.http request)) answer :: rest => .api request answer :: events rest
  | .call _ (.outside (.refreshToken _ _ refreshToken)) answer :: rest => .refresh refreshToken answer :: events rest
  | _ :: rest => events rest

def Event.apiAnswer : Event → Option (Except String HttpResponse)
  | .api _ answer => some answer
  | .refresh .. => none

def apiAnswers {ι : Type} (log : List (Entry ι)) : List (Except String HttpResponse) :=
  (events log).filterMap Event.apiAnswer

/-- The first API answer is 401. -/
def Unauthorized {ι : Type} (log : List (Entry ι)) : Prop :=
  ∃ response, (apiAnswers log).getLast? = some (.ok response) ∧ response.statusCode = 401

section Client
variable [Library] {settings : Settings} {connectionId : String}

def admits (connectionId : String) : Phase → Op → Prop
  | .trying, op => Tame connectionId op ∨ ∃ request, op = .outside (.http request)
  | .answered, _ => False
  | .rejected, op => op = .redis (.delHash (TokenStore.key connectionId))
  | .deleted, op => op = .redis (.hgetall (TokenStore.key connectionId))

/-- Once the token is deleted, the hash of the connection is empty. -/
def expects (connectionId : String) : Phase → (op : Op) → op.Answer → Prop
  | .deleted, .redis (.hgetall k), hash => k = TokenStore.key connectionId → hash = []
  | _, _, _ => True

def protocol (connectionId : String) : Protocol Op Op.Answer Phase :=
  ⟨admits connectionId, expects connectionId, advance⟩

@[simp] theorem protocol_admits : (protocol connectionId).admits = admits connectionId := rfl

@[simp] theorem protocol_expects : (protocol connectionId).expects = expects connectionId := rfl

@[simp] theorem protocol_advance : (protocol connectionId).advance = advance := rfl

def tokenMissing (connectionId : String) : Exc := .connectionMissingError ("No Xero token found for connection " ++
  Library.repr connectionId ++ ". The OAuth authorization flow must be completed first.")

/-- How a request may end. -/
def Ended (connectionId : String) (result : Except Exc Json) : Phase → Prop
  | .rejected => False
  | .deleted => result = .error (tokenMissing connectionId)
  | _ => True

theorem tame_trying (op : Op) (answer) (tame : Tame connectionId op) : advance .trying op answer = .trying := by
  cases op with
  | redis command => cases command <;> rfl
  | outside call =>
    cases call with
    | http request => exact tame.elim
    | _ => rfl

/-- The retry finds no token. -/
theorem getValidToken_deleted : Meets (protocol connectionId) (XeroTokenManager.getValidToken settings connectionId)
    .deleted (fun result l => result = .error (tokenMissing connectionId) ∧ l = .deleted) := by
  simp only [XeroTokenManager.getValidToken, TokenStore.load, Meets.bind_iff, Async.redis_meets, Meets.andThen_ok,
    Async.ofExcept_meets]
  refine ⟨rfl, fun hash empty => ?_⟩
  rw [empty rfl]
  exact ⟨rfl, rfl⟩

/-- On the first pass nothing is known of the token, and nothing needs to be. -/
theorem first_pass (call : XeroHttp.Call) :
    Pass (protocol connectionId) settings connectionId call true ⟨(· = .trying), fun _ _ => True, fun _ => True⟩
      (· = .deleted) (fun _ l => l = .trying ∨ l = .answered) where
  keeper := by
    apply tame_keeper
    · rintro l op rfl tame
      exact Or.inl tame
    · rintro l op answer rfl tame
      exact tame_trying op answer tame
  ask := by
    rintro l token tenantId rfl _ _
    refine ⟨Or.inr ⟨_, rfl⟩, fun answer _ => ?_⟩
    cases answer with
    | error text => exact Or.inr rfl
    | ok response =>
      simp only [Settles, protocol_advance, advance, and_true]
      by_cases unauthorized : response.statusCode = 401
      · simp only [unauthorized, if_true]
        exact ⟨rfl, fun _ _ => trivial⟩
      · simp [unauthorized]
  tenantless := by
    rintro l token rfl _ _ text
    exact Or.inl rfl
  raised := by
    rintro l exc rfl _
    exact Or.inl rfl

theorem request_ended (call : XeroHttp.Call) :
    Meets (protocol connectionId) (XeroHttp.request settings connectionId call) .trying (Ended connectionId) := by
  unfold XeroHttp.request
  rw [Meets.bind_iff]
  apply (attempt_meets (first_pass call) rfl).mono
  rintro result l (⟨rfl, _, rfl⟩ | ⟨outcome, rfl, settled⟩)
  · rw [Meets.andThen_ok, Meets.bind_iff, XeroHttp.attempt, Meets.bind_iff]
    apply getValidToken_deleted.mono
    rintro result l ⟨rfl, rfl⟩
    rfl
  · cases outcome <;> rcases settled with rfl | rfl <;> trivial

variable {ι : Type} [DecidableEq ι] {env : Environment ι} {w w' : World ι} {i j : ι} {op : Op} {answer : op.Answer}

def phase (connectionId : String) (log : List (Entry ι)) : ι → Phase :=
  view (fun _ => protocol connectionId) (fun _ => .trying) log

theorem phase_own : phase connectionId (.call i op answer :: w.log) i = advance (phase connectionId w.log i) op answer :=
  view_own ..

theorem phase_other (other : j ≠ i) :
    phase connectionId (.call i op answer :: w.log) j = phase connectionId w.log j := view_other _ _ _ other ..

omit [DecidableEq ι] in
def Stored (connectionId : String) (redis : Redis ι) : Prop :=
  ∃ token, TokenStore.decode (redis.hashes (TokenStore.key connectionId)) = .ok (some token)

/-- A refresh leaves a token stored where there was one. -/
theorem stored_tame (tame : Tame connectionId op) (served : Served env i w op answer w')
    (stored : Stored connectionId w.redis) : Stored connectionId w'.redis := by
  cases served with
  | outside allowed => exact stored
  | redis command =>
    by_cases modified : command.modifiesHash = some (TokenStore.key connectionId)
    · cases command with
      | hset k mapping =>
        obtain ⟨rfl, token, rfl⟩ := tame
        have written : (w.redis.exec i (.hset (TokenStore.key connectionId) (TokenStore.toMapping token))).2.hashes
            (TokenStore.key connectionId) = Redis.merge (w.redis.hashes (TokenStore.key connectionId))
              (TokenStore.toMapping token) := Function.update_self ..
        refine ⟨TokenStore.kept token, ?_⟩
        rw [written]
        exact TokenStore.decode_merge ..
      | delHash => exact tame.elim
      | _ => cases modified
    · rwa [Stored, w.redis.exec_hashes i modified]

/-- No API answer is 401. -/
def Authorized (env : Environment ι) : Prop :=
  ∀ w i request response, env.allows w i (.http request) (.ok response) → response.statusCode ≠ 401

/-- Without a 401 no request gets past its first attempt, and nobody deletes the token. -/
structure Intact (connectionId : String) (w : World ι) : Prop where
  stored : Stored connectionId w.redis
  first : ∀ i, phase connectionId w.log i = .trying ∨ phase connectionId w.log i = .answered

theorem Intact.served (intact : Intact connectionId w) (authorized : Authorized env)
    (admitted : admits connectionId (phase connectionId w.log i) op) (served : Served env i w op answer w') :
    Intact connectionId w' := by
  have trying : phase connectionId w.log i = .trying := by
    refine (intact.first i).resolve_right fun done => ?_
    rw [done] at admitted
    exact admitted
  have log : w'.log = .call i op answer :: w.log := by cases served <;> rfl
  rw [trying] at admitted
  rcases admitted with tame | ⟨request, rfl⟩
  · refine ⟨stored_tame tame served intact.stored, fun j => ?_⟩
    rw [log]
    rcases eq_or_ne j i with rfl | other
    · rw [phase_own, trying]
      exact Or.inl (tame_trying op answer tame)
    · rw [phase_other other]
      exact intact.first j
  · cases served with
    | outside allowed =>
      refine ⟨intact.stored, fun j => ?_⟩
      rcases eq_or_ne j i with rfl | other
      · rw [phase_own, trying]
        cases answer with
        | error text => exact Or.inr rfl
        | ok response =>
          right
          simp [advance, authorized w j request response allowed]
      · rw [phase_other other]
        exact intact.first j

theorem Intact.drifted (intact : Intact connectionId w) (drifted : Drifted env w w') : Intact connectionId w' := by
  cases drifted with
  | expire | invoice => exact ⟨intact.stored, intact.first⟩

/-- Any number of API requests on the connection. -/
def requests (settings : Settings) (connectionId : String) (calls : ι → XeroHttp.Call) :
    ι → Prog Op Op.Answer (Except Exc Json) :=
  fun i => (XeroHttp.request settings connectionId (calls i)).run

theorem authorized_stored {redis : Redis ι} {calls : ι → XeroHttp.Call} {c : ServiceConfig ι (Except Exc Json)}
    (authorized : Authorized env) (stored : Stored connectionId redis)
    (run : Reaches (system env) ⟨⟨redis, []⟩, requests settings connectionId calls⟩ c) :
    Stored connectionId c.shared.redis := by
  have reached : Intact connectionId c.shared ∧ Conforming (fun _ => protocol connectionId)
      (fun w => phase connectionId w.log) (fun _ => Ended connectionId) c := by
    apply Conforming.run (tracks env _ _) ?_ ?_ run ⟨stored, fun _ => Or.inl rfl⟩
    · exact fun i => request_ended (calls i)
    · intro c i op resume answer w intact _ _ _ admitted served
      refine ⟨?_, intact.served authorized admitted served⟩
      show expects connectionId (phase connectionId c.shared.log i) op answer
      rcases intact.first i with first | first <;> simp [first, expects]
    · intro c w intact _ drifted
      exact intact.drifted drifted
  exact reached.1.stored

end Client
end OpenClaw.Connection
