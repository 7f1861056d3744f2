import OpenClawService.UseCases.OAuth

/-! The two halves of the Xero authorization as requests that run side by side:
an authorization URL is built, or a callback presents a state. -/
namespace OpenClaw.Authorization
open Interleaving

/-- One request to the service. -/
inductive Job where
  | build (connectionId : String)
  | callback (code state : String)

/-- The state that a callback presents. -/
def Job.state : Job → Option String
  | .build _ => none
  | .callback _ state => some state

/-- The connection that an authorization URL is built for. -/
def Job.connectionId : Job → Option String
  | .build connectionId => some connectionId
  | .callback .. => none

def Job.run [Library] (settings : Settings) : Job → Async (AuthUrlResult ⊕ String)
  | .build connectionId => .inl <$> BuildXeroAuthorizationUrl.execute settings connectionId
  | .callback code state => .inr <$> HandleXeroOAuthCallback.execute settings code state

/-- Where a request stands. -/
inductive Phase where
  | building (connectionId : String)
  | drawn (connectionId state : String)
  | saved (connectionId state : String)
  | presenting (state : String)
  | watching (state : String)
  | read (state : String) (value : Option String)
  | refused (state : String)
  | won (state connectionId : String)
  | failed (state connectionId : String)
  | exchanged (state connectionId : String)
  | stored (state connectionId : String)

def Job.start : Job → Phase
  | .build connectionId => .building connectionId
  | .callback _ state => .presenting state

/-- The exchange of an authorization code. -/
def exchange (settings : Settings) (code : String) : Outside :=
  .fetchToken settings.xero XeroOAuth.tokenUrl code settings.xero.redirectUri

def admits (settings : Settings) (job : Job) : Phase → Op → Prop
  | .building _, op => op = .outside (.tokenUrlsafe 32)
  | .drawn connectionId state, op => ∃ ttl, op = .redis (.set (OAuthStateStore.key state) connectionId ttl)
  | .presenting state, op => op = .redis (.watch (OAuthStateStore.key state))
  | .watching state, op => op = .redis (.get (OAuthStateStore.key state))
  | .read _ none, op => op = .redis .unwatch
  | .read state (some _), op => op = .redis (.execDel (OAuthStateStore.key state))
  | .won .., op => ∃ code state, job = .callback code state ∧ op = .outside (exchange settings code)
  | .exchanged _ connectionId, op => (∃ request, op = .outside (.http request)) ∨ op = .outside .now ∨
      ∃ mapping, op = .redis (.hset (TokenStore.key connectionId) mapping)
  | _, _ => False

def advance : Phase → (op : Op) → op.Answer → Phase
  | .building connectionId, .outside (.tokenUrlsafe _), state => .drawn connectionId state
  | .drawn connectionId state, .redis (.set ..), _ => .saved connectionId state
  | .presenting state, .redis (.watch _), _ => .watching state
  | .watching state, .redis (.get _), value => .read state value
  | .read state _, .redis .unwatch, _ => .refused state
  | .read state (some connectionId), .redis (.execDel _), deleted =>
    if deleted = true then .won state connectionId else .refused state
  | .won state connectionId, .outside (.fetchToken ..), .ok _ => .exchanged state connectionId
  | .won state connectionId, .outside (.fetchToken ..), .error _ => .failed state connectionId
  | .exchanged state connectionId, .redis (.hset ..), _ => .stored state connectionId
  | phase, _, _ => phase

def protocol (settings : Settings) (job : Job) : Protocol Op Op.Answer Phase := ⟨admits settings job, fun _ _ _ => True, advance⟩

@[simp] theorem protocol_admits : (protocol settings job).admits = admits settings job := rfl

@[simp] theorem protocol_expects : (protocol settings job).expects l op answer := trivial

@[simp] theorem protocol_advance : (protocol settings job).advance = advance := rfl

def stateInvalid : Exc := .connectionMissingError
  "OAuth state is invalid or expired. Please restart the authorization flow."

/-- How a request may end. -/
inductive Ended : Except Exc (AuthUrlResult ⊕ String) → Phase → Prop where
  | built : Ended (.ok (.inl ⟨url, state⟩)) (.saved connectionId state)
  | refused : Ended (.error stateInvalid) (.refused state)
  | failed : Ended (.error (.providerUnavailableError text)) (.failed state connectionId)
  | unread (internal : exc.internal = true) : Ended (.error exc) (.exchanged state connectionId)
  | stored : Ended (.ok (.inr connectionId)) (.stored state connectionId)

variable [Library] {settings : Settings} {job : Job} {state connectionId : String}

theorem build_meets :
    Meets (protocol settings (.build connectionId)) (Job.run settings (.build connectionId)) (.building connectionId) Ended := by
  simp only [Job.run, BuildXeroAuthorizationUrl.execute, OAuthStateStore.save, Meets.map_iff, Meets.bind_iff,
    Async.outside_meets, Async.redis_meets, Meets.andThen_ok, Meets.pure_iff]
  exact ⟨rfl, fun state _ => ⟨⟨_, rfl⟩, fun _ _ => .built⟩⟩

omit [Library] in
/-- A pop ends with the connection id or refused, and tells which. -/
theorem pop_meets (state : String) :
    Meets (protocol settings job) (OAuthStateStore.pop state) (.presenting state)
      (fun result l => (result = .ok none ∧ l = .refused state) ∨
        ∃ connectionId, result = .ok (some connectionId) ∧ l = .won state connectionId) := by
  simp only [OAuthStateStore.pop, Meets.bind_iff, Async.redis_meets, Meets.andThen_ok]
  refine ⟨rfl, fun _ _ => ⟨rfl, fun value _ => ?_⟩⟩
  cases value with
  | none =>
    simp only [Meets.bind_iff, Async.redis_meets, Meets.andThen_ok, Meets.pure_iff]
    exact ⟨rfl, fun _ _ => by simp [advance]⟩
  | some connectionId =>
    simp only [Meets.bind_iff, Async.redis_meets, Meets.andThen_ok]
    refine ⟨rfl, fun deleted _ => ?_⟩
    cases deleted with
    | true => exact Or.inr ⟨connectionId, rfl, rfl⟩
    | false => exact Or.inl ⟨rfl, rfl⟩

omit [Library] in
/-- The tenant lookup never raises and writes nothing. -/
theorem fetchTenantId_meets (accessToken : String) :
    Meets (protocol settings job) (XeroOAuth.fetchTenantId accessToken) (.exchanged state connectionId)
      (fun result l => (∃ tenant, result = .ok tenant) ∧ l = .exchanged state connectionId) := by
  rw [XeroOAuth.fetchTenantId, Meets.tryCatch_iff, Meets.bind_iff, Async.http_meets]
  refine ⟨Or.inl ⟨_, rfl⟩, fun answer _ => ?_⟩
  cases answer with
  | error text => exact ⟨⟨.null, rfl⟩, rfl⟩
  | ok response =>
    simp only [Except.mapError, Meets.andThen_ok]
    by_cases success : response.isSuccess = true
    · simp only [success, if_true, Async.ofExcept_meets]
      cases response.parse >>= XeroOAuth.tenantOf with
      | ok tenant => exact ⟨⟨tenant, rfl⟩, rfl⟩
      | error error => exact ⟨⟨.null, rfl⟩, rfl⟩
    · simp only [success]
      exact ⟨⟨.null, rfl⟩, rfl⟩

/-- An exchange that has been answered yields a token, unless the answer cannot be read. -/
theorem rawToTokenSet_meets (raw tenant : Json) :
    Meets (protocol settings job) (XeroOAuth.rawToTokenSet raw tenant) (.exchanged state connectionId)
      (fun result l => Internal result ∧ l = .exchanged state connectionId) :=
  XeroOAuth.rawToTokenSet_meets (Or.inr (Or.inl rfl)) (fun _ => ⟨XeroOAuth.readTokenSet_internal, rfl⟩)
    fun _ _ => ⟨XeroOAuth.readTokenSet_internal, rfl⟩

theorem exchangeCode_meets (code : String) :
    Meets (protocol settings (.callback code state)) (XeroOAuth.exchangeCode settings code) (.won state connectionId)
      (fun result l => (∃ text, result = .error (.providerUnavailableError text) ∧ l = .failed state connectionId) ∨
        Internal result ∧ l = .exchanged state connectionId) := by
  simp only [XeroOAuth.exchangeCode, Meets.bind_iff, Async.outside_meets, Meets.andThen_ok, Async.raising_meets]
  refine ⟨⟨_, _, rfl, rfl⟩, fun answer _ => ?_⟩
  cases answer with
  | error text => exact Or.inl ⟨_, rfl, rfl⟩
  | ok raw =>
    simp only [Except.mapError, Meets.andThen_ok, Meets.bind_iff, Async.ofExcept_meets]
    cases access : raw.getItem "access_token" with
    | error exc =>
      rw [Meets.andThen_error]
      exact Or.inr ⟨.raised (Json.getItem_internal exc access), rfl⟩
    | ok accessToken =>
      rw [Meets.andThen_ok, Meets.bind_iff]
      apply (fetchTenantId_meets (Library.str accessToken)).mono
      rintro result l ⟨⟨tenant, rfl⟩, rfl⟩
      rw [Meets.andThen_ok]
      exact (rawToTokenSet_meets raw tenant).mono fun _ _ => Or.inr

theorem callback_meets (code state : String) :
    Meets (protocol settings (.callback code state)) (Job.run settings (.callback code state)) (.presenting state) Ended := by
  simp only [Job.run, HandleXeroOAuthCallback.execute, Meets.map_iff, Meets.bind_iff]
  apply (pop_meets state).mono
  rintro result l (⟨rfl, rfl⟩ | ⟨connectionId, rfl, rfl⟩)
  · exact .refused
  · simp only [Meets.andThen_ok, Meets.bind_iff]
    apply (exchangeCode_meets code).mono
    rintro result l (⟨text, rfl, rfl⟩ | ⟨internal, rfl⟩)
    · exact .failed
    · cases result with
      | error exc => exact .unread (internal exc rfl)
      | ok token =>
        simp only [Meets.andThen_ok, TokenStore.store, Meets.bind_iff, Async.redis_meets, Meets.pure_iff]
        exact ⟨Or.inr (Or.inr ⟨_, rfl⟩), fun _ _ => .stored⟩

theorem job_meets (job : Job) : Meets (protocol settings job) (job.run settings) job.start Ended := by
  cases job with
  | build connectionId => exact build_meets
  | callback code state => exact callback_meets code state

end OpenClaw.Authorization
