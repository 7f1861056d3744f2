import OpenClawService.Soundness.Expectations

/-! The token managers are typed: what they raise has a handler, but for a Xero refresh that
has lost its token under the lock and for a request that is not sent. -/
namespace OpenClaw.Api
open Interleaving
variable [Library] {settings : Settings} {route : Route} {l : Standing} {expected : Exc → Prop}

/-- The error handlers of the application are among what is expected. -/
abbrev Covers (expected : Exc → Prop) : Prop := ∀ exc, Handled exc → expected exc

theorem throw_sound {good : α → Prop} (holds : expected exc) : Sound settings route l good expected (throw exc : Async α) :=
  Ends.throw (Or.inl ⟨rfl, holds⟩)

theorem ofExcept_sound {outcome : Except Exc α} {good : α → Prop} (reads : Reads outcome good) :
    Sound settings route l good expected (Async.ofExcept outcome) := by
  obtain ⟨value, rfl, holds⟩ := reads
  exact ⟨rfl, holds⟩

/-- A call that is no HTTP request turns no standing on. -/
theorem outside_sound {sent : Outside} (plain : ∀ request, sent ≠ .http request) :
    Sound (α := no_index sent.Answer) settings route l (fun _ => True) expected (Async.outside sent) := by
  refine ⟨trivial, fun answer _ => ⟨?_, trivial⟩⟩
  cases sent with
  | http request => exact (plain request rfl).elim
  | _ => cases l <;> rfl

theorem raising_sound {answer : Except String α} {convert : String → Exc} {good : α → Prop} (converts : ∀ text, expected (convert text))
    (answered : ∀ value, answer = .ok value → good value) : Sound settings route l good expected (Async.raising convert answer) := by
  cases answer with
  | ok value => exact ⟨rfl, answered value rfl⟩
  | error text => exact Or.inl ⟨rfl, converts text⟩

omit [Library] in
theorem after_answer (request : HttpRequest) (response : HttpResponse) :
    l.after route.xero (.outside (.http request)) (.ok response) = l := by cases l <;> rfl

omit [Library] in
theorem after_sent {request : HttpRequest} (sent : request.sendable = true) (answer : Except String HttpResponse) :
    l.after route.xero (.outside (.http request)) answer = l := by
  cases answer with
  | ok response => exact after_answer request response
  | error text => simp only [Standing.after, sent, if_true]

/-- A request fails only if it is not sent. -/
theorem asked_sound {request : HttpRequest} {good : HttpResponse → Prop}
    (answered : ∀ response, Documented settings request (.ok response) → good response) :
    Sound settings route l good expected (Async.http request) := by
  rw [Sound, Ends, Async.http_meets]
  refine ⟨trivial, fun answer delivered => ?_⟩
  have documented : Documented settings request answer := delivered
  cases answer with
  | ok response =>
    have answer : l.after route.xero (.outside (.http request)) (.ok response) = l := after_answer request response
    exact ⟨answer, answered response documented⟩
  | error text =>
    cases sent : request.sendable with
    | true =>
      obtain ⟨_, same⟩ := documented.reached sent
      cases same
    | false =>
      have unsent : l.after route.xero (.outside (.http request)) (.error text) = .unsent := by
        simp only [Standing.after, sent, Bool.false_eq_true, if_false]
      exact Or.inr (Or.inr ⟨unsent, text, rfl⟩)

/-- A provider whose successes are documented. -/
theorem http_sound {request : HttpRequest} {shape : Shape} (documented : ∀ answer, Documented settings request answer → Shaped shape answer) :
    Sound settings route l (fun response => response.isSuccess = true → Reads response.parse fun body => shape.accepts body = true)
      expected (Async.http request) := by
  refine asked_sound fun response given success => ?_
  obtain ⟨body, read, accepted⟩ := documented _ given response rfl success
  exact ⟨body, by rw [HttpResponse.parse, read], accepted⟩

theorem clock_sound : Sound settings route l Clocked expected (Async.outside .now) := by
  refine ⟨trivial, fun now clocked => ⟨?_, clocked⟩⟩
  cases l <;> rfl

theorem expired_sound (token : TokenSet) (bufferSeconds : Int) :
    Sound settings route l (fun _ => True) expected (token.isExpiredOrNear bufferSeconds) :=
  clock_sound.bind fun _ _ => .pure trivial

/-- Outside the lock a missing token is a result like any other. -/
theorem load_sound (connectionId : String) : Sound settings route .free (fun _ => True) expected (TokenStore.load connectionId) := by
  rw [Sound, Ends, TokenStore.load_meets]
  refine ⟨trivial, fun hash delivered => ?_⟩
  obtain ⟨token, decoded⟩ := delivered connectionId rfl
  rw [decoded]
  exact ⟨rfl, trivial⟩

/-- Commands that no standing turns on. -/
theorem write_sound {command : Command} (unseen : ∀ answer, l.after route.xero (.redis command) answer = l)
    (deposited : deposits route (.redis command)) :
    Sound (α := no_index command.Reply) settings route l (fun _ => True) expected (Async.redis command) :=
  ⟨deposited, fun answer _ => ⟨unseen answer, trivial⟩⟩

theorem store_sound (connectionId : String) (token : TokenSet) :
    Sound settings route l (fun _ => True) expected (TokenStore.store connectionId token) :=
  write_sound (fun _ => by cases l <;> rfl) trivial

theorem delete_sound (connectionId : String) : Sound settings route l (fun _ => True) expected (TokenStore.delete connectionId) :=
  write_sound (fun _ => by cases l <;> rfl) trivial

/-! The refresh lock. -/

/-- Where the body of the lock begins. -/
def Standing.entered (route : Route) (key : String) (acquired : Bool) : Standing :=
  if acquired = true ∧ route.xero.map refreshLockKey = some key then .held else .free

/-- Where its release ends. -/
def Standing.left : Standing → Standing
  | .held => .free
  | standing => standing

omit [Library] in
theorem Standing.left_entered (key : String) (acquired : Bool) : (Standing.entered route key acquired).left = .free := by
  unfold Standing.entered
  split <;> rfl

theorem aexit_left (key : String) {context : Lock.Context} (taken : context.acquired = false → l ≠ .held) :
    Meets (typing settings route) (Lock.aexit key context) l (fun result l' => result = .ok () ∧ l' = l.left) := by
  unfold Lock.aexit
  cases acquired : context.acquired with
  | false =>
    have away := taken acquired
    cases l with
    | held => exact (away rfl).elim
    | _ => exact ⟨rfl, rfl⟩
  | true =>
    simp only [if_true, Meets.bind_iff, Async.redis_meets, Meets.andThen_ok]
    refine ⟨trivial, fun _ _ => ⟨trivial, fun current _ => ?_⟩⟩
    split
    · simp only [Meets.bind_iff, Async.redis_meets, Meets.andThen_ok, Meets.pure_iff]
      refine ⟨trivial, fun deleted _ => ⟨trivial, ?_⟩⟩
      cases l <;> rfl
    · refine ⟨trivial, fun _ _ => ⟨rfl, ?_⟩⟩
      cases l <;> rfl

/-- The lock is left however its body ends. -/
theorem acquire_sound {key : String} {ttlSeconds : Nat} {good : α → Prop} {body : Bool → Async α}
    (held : ∀ acquired, Sound settings route (.entered route key acquired) good expected (body acquired)) :
    Sound settings route .free good expected (Lock.acquire key ttlSeconds body) := by
  unfold Lock.acquire Lock.aenter
  simp only [Sound, Ends, Meets.bind_iff, Async.outside_meets, Async.redis_meets, Meets.andThen_ok, Meets.pure_iff, Async.outcome_meets]
  refine ⟨trivial, fun token _ => ⟨trivial, fun acquired _ => ?_⟩⟩
  have entered : (Standing.free.after route.xero (.outside .uuid4) token).after route.xero (.redis (.setNx key token ttlSeconds)) acquired =
      .entered route key acquired := by
    cases acquired with
    | false => rfl
    | true =>
      simp only [Standing.entered, true_and]
      rfl
  have inside : Meets (typing settings route) (body acquired)
      ((Standing.free.after route.xero (.outside .uuid4) token).after route.xero (.redis (.setNx key token ttlSeconds)) acquired)
      (Ended (.entered route key acquired) good (Foreseen expected (.entered route key acquired))) := by
    rw [entered]
    exact held acquired
  apply inside.mono
  intro result l' ended
  have taken (refused : acquired = false) : l' ≠ .held := by
    subst refused
    rintro rfl
    cases result with
    | ok value => cases ended.1
    | error exc => rcases ended with ⟨same, _⟩ | ⟨same, _⟩ | ⟨same, _⟩ <;> cases same
  apply Meets.mono (aexit_left key taken)
  rintro _ l'' ⟨rfl, rfl⟩
  rw [Meets.andThen_ok, Async.ofExcept_meets]
  cases result with
  | ok value =>
    obtain ⟨rfl, holds⟩ := ended
    exact ⟨Standing.left_entered key acquired, holds⟩
  | error exc =>
    rcases ended with ⟨rfl, holds⟩ | ⟨rfl, lost⟩ | ⟨rfl, unsent⟩
    · exact Or.inl ⟨Standing.left_entered key acquired, holds⟩
    · exact Or.inr (Or.inl ⟨rfl, lost⟩)
    · exact Or.inr (Or.inr ⟨rfl, unsent⟩)

omit [Library] in
theorem Standing.entered_xero (own : route.xero = some connectionId) :
    Standing.entered route (refreshLockKey connectionId) true = .held := if_pos ⟨rfl, by rw [own]; rfl⟩

omit [Library] in
theorem Standing.entered_other (other : route.xero = none) (key : String) (acquired : Bool) : Standing.entered route key acquired = .free :=
  if_neg (by rw [other]; exact fun both => nomatch both.2)

/-! The Xero token manager. -/
section Xero
variable {connectionId : String} (covers : Covers expected)

theorem usable_sound (token : Option TokenSet) :
    Sound settings route l (fun _ => True) expected (XeroTokenManager.usable settings token) := by
  cases token with
  | none => exact .pure trivial
  | some token =>
    refine (expired_sound token _).bind fun expired _ => ?_
    cases expired <;> exact .pure trivial

theorem rawToTokenSet_sound {raw : Json} (dict : TokenDict raw) (tenant : Option String) :
    Sound settings route l (fun _ => True) expected (XeroOAuth.rawToTokenSet raw (.ofText tenant)) := by
  have still (instant : Int) : l.after route.xero (.outside .now) instant = l := by cases l <;> rfl
  exact dict.rawToTokenSet_meets trivial (fun _ _ _ => ⟨rfl, trivial⟩) fun now clocked => ⟨clocked, fun _ _ => ⟨still now, trivial⟩⟩

include covers

theorem xeroRefresh_sound (token : TokenSet) : Sound settings route l (fun _ => True) expected (XeroOAuth.refreshToken settings (some token)) := by
  unfold XeroOAuth.refreshToken
  cases held : token.refreshToken.bind orNone with
  | none =>
    simp only [held]
    exact throw_sound (covers _ rfl)
  | some refreshToken =>
    simp only [held]
    have failed (text : String) : expected (XeroOAuth.refreshFailure text) := by
      unfold XeroOAuth.refreshFailure
      split <;> exact covers _ rfl
    have asked : Sound settings route l (fun answer => ∀ raw, answer = .ok raw → TokenDict raw) expected
        (Async.outside (.refreshToken settings.xero XeroOAuth.tokenUrl refreshToken)) := by
      refine ⟨trivial, fun answer delivered => ⟨by cases l <;> rfl, ?_⟩⟩
      rintro raw rfl
      exact delivered
    exact asked.bind fun answer read => (raising_sound failed read).bind fun raw dict => rawToTokenSet_sound dict _

/-- The token may be gone when the lock is held; then the refresh fails at its first attribute. -/
theorem refreshHeld_sound (own : route.xero = some connectionId) :
    Sound settings route .held (fun _ => True) expected (XeroTokenManager.refreshHeld settings connectionId) := by
  have renew (token : TokenSet) : Sound settings route .held (fun _ => True) expected
      (XeroTokenManager.refreshHeld.renew settings connectionId (some token)) :=
    (xeroRefresh_sound covers token).bind fun renewed _ => (store_sound connectionId renewed).bind fun _ _ => .pure trivial
  rw [Sound, Ends, XeroTokenManager.refreshHeld, Meets.bind_iff, TokenStore.load_meets]
  refine ⟨trivial, fun hash delivered => ?_⟩
  obtain ⟨token, decoded⟩ := delivered connectionId rfl
  cases hash with
  | nil =>
    have lost : Standing.held.after route.xero (.redis (.hgetall (TokenStore.key connectionId))) [] = .lost := by
      simp [Standing.after, own]
    cases decoded
    exact Or.inr (Or.inl ⟨lost, rfl⟩)
  | cons entry rest =>
    rw [TokenStore.decode, List.isEmpty_cons, if_neg Bool.false_ne_true] at decoded ⊢
    obtain ⟨current, read, rfl⟩ := map_ok decoded
    rw [read]
    have still : Sound settings route .held (fun _ => True) expected (do
        if ← current.isExpiredOrNear settings.refreshBufferSeconds then
          XeroTokenManager.refreshHeld.renew settings connectionId (some current)
        else return current) := by
      refine (expired_sound current _).bind fun expired _ => ?_
      cases expired with
      | true => exact renew current
      | false => exact .pure trivial
    exact still

theorem refreshAttempts_sound (own : route.xero = some connectionId) (attempts : Nat) :
    Sound settings route .free (fun _ => True) expected (XeroTokenManager.refreshAttempts settings connectionId attempts) := by
  induction attempts with
  | zero => exact throw_sound (covers _ rfl)
  | succ attempts ih =>
    have held (acquired : Bool) : Sound settings route (.entered route (refreshLockKey connectionId) acquired) (fun _ => True) expected
        (if acquired then some <$> XeroTokenManager.refreshHeld settings connectionId else pure none) := by
      cases acquired with
      | true =>
        rw [Standing.entered_xero own]
        exact (refreshHeld_sound covers own).map fun _ _ => trivial
      | false => exact .pure trivial
    refine (acquire_sound held).bind fun refreshed _ => ?_
    cases refreshed with
    | some token => exact .pure trivial
    | none =>
      have slept : Sound settings route .free (fun _ => True) expected (Async.outside (.sleep contentionSleepMilliseconds)) :=
        outside_sound nofun
      refine slept.bind fun _ _ => (load_sound connectionId).bind fun token _ => (usable_sound token).bind fun usable _ => ?_
      cases usable with
      | some token => exact .pure trivial
      | none => exact ih

theorem getValidToken_sound (own : route.xero = some connectionId) :
    Sound settings route .free (fun _ => True) expected (XeroTokenManager.getValidToken settings connectionId) := by
  refine (load_sound connectionId).bind fun loaded _ => ?_
  cases loaded with
  | none => exact throw_sound (covers _ rfl)
  | some token =>
    refine (expired_sound token _).bind fun expired _ => ?_
    cases expired with
    | true => exact refreshAttempts_sound covers own _
    | false => exact .pure trivial

theorem request_sound (own : route.xero = some connectionId) (call : XeroHttp.Call) : Sound settings route .free
    (fun body => call.body.accepts body = true) expected (XeroHttp.request settings connectionId call) := by
  have attempt (first : Bool) : Sound settings route .free (fun read => ∀ body ∈ read, call.body.accepts body = true) expected
      (XeroHttp.attempt settings connectionId call first) := by
    refine (getValidToken_sound covers own).bind fun token _ => ?_
    cases token.xeroTenantId with
    | none => exact throw_sound (covers _ rfl)
    | some tenantId =>
      refine (http_sound fun answer documented => documented.xero call token.accessToken tenantId rfl).bind fun response shaped => ?_
      split
      · exact (delete_sound connectionId).bind fun _ _ => .pure nofun
      · split
        · exact throw_sound (covers _ rfl)
        · rename_i success
          refine (ofExcept_sound (shaped (by simpa using success))).map fun body accepted => ?_
          rintro other ⟨⟩
          exact accepted
  refine (attempt true).bind fun read shaped => ?_
  cases read with
  | some body => exact .pure (shaped body rfl)
  | none =>
    refine (attempt false).bind fun read shaped => ?_
    cases read with
    | some body => exact .pure (shaped body rfl)
    | none => exact throw_sound (covers _ rfl)

end Xero

/-! The Microsoft token manager and the Graph client. -/
section Graph
variable {connectionId : String} (covers : Covers expected)

/-- The token endpoint answers with JSON, whether it issues a token or refuses one. -/
theorem tokenEndpoint_sound {request : HttpRequest} (endpoint : request.url = MSDeviceCode.tokenUrl settings) :
    Sound settings route l (fun response => Reads response.parse fun body =>
      (if response.isSuccess then tokenBody else refusalBody).accepts body = true) expected (Async.http request) := by
  refine asked_sound fun response documented => ?_
  obtain ⟨body, read, accepted⟩ := documented.issued endpoint response rfl
  exact ⟨body, by rw [HttpResponse.parse, read], accepted⟩

theorem parseTokenSet_sound {body : Json} (accepted : tokenBody.accepts body = true) :
    Sound settings route l (fun _ => True) expected (MSDeviceCode.parseTokenSet body) :=
  clock_sound.bind fun _ clocked => ofExcept_sound (readTokenSet_reads accepted clocked)

theorem cachedToken_sound (force : Bool) : Sound settings route .free (fun _ => True) expected
    (MSTokenManager.cachedToken settings connectionId force) := by
  unfold MSTokenManager.cachedToken
  split
  · exact .pure trivial
  · exact (load_sound connectionId).bind fun token _ => usable_sound token

include covers

theorem graphRefresh_sound (token : TokenSet) : Sound settings route l (fun _ => True) expected (MSDeviceCode.refreshToken settings token) := by
  unfold MSDeviceCode.refreshToken
  cases token.refreshToken with
  | none => exact throw_sound (covers _ rfl)
  | some refreshToken =>
    have endpoint : (MSDeviceCode.refreshRequest settings refreshToken).url = MSDeviceCode.tokenUrl settings := rfl
    refine (tokenEndpoint_sound endpoint).bind fun response read => ?_
    cases success : response.isSuccess with
    | false =>
      rw [success, if_neg Bool.false_ne_true] at read
      refine (ofExcept_sound read).bind fun body accepted => (ofExcept_sound (refusal_reads accepted)).bind fun error _ => ?_
      refine throw_sound ?_
      unfold MSDeviceCode.refreshFailure
      split
      · exact covers _ rfl
      · split <;> exact covers _ rfl
    | true =>
      rw [success, if_pos rfl] at read
      exact (ofExcept_sound read).bind fun body accepted => parseTokenSet_sound accepted

theorem graphHeld_sound (force : Bool) : Sound settings route .free (fun _ => True) expected
    (MSTokenManager.refreshHeld settings connectionId force) := by
  refine (cachedToken_sound force).bind fun cached _ => ?_
  cases cached with
  | some cached => exact .pure trivial
  | none =>
    refine (load_sound connectionId).bind fun current _ => ?_
    cases current with
    | none => exact throw_sound (covers _ rfl)
    | some current =>
      exact (graphRefresh_sound covers current).bind fun renewed _ => (store_sound connectionId renewed).bind fun _ _ => .pure trivial

theorem graphAttempts_sound (other : route.xero = none) (force : Bool) (attempts : Nat) : Sound settings route .free (fun _ => True)
    expected (MSTokenManager.refreshAttempts settings connectionId force attempts) := by
  induction attempts with
  | zero => exact throw_sound (covers _ rfl)
  | succ attempts ih =>
    have held (acquired : Bool) : Sound settings route (.entered route (refreshLockKey connectionId) acquired) (fun _ => True) expected
        (if acquired then some <$> MSTokenManager.refreshHeld settings connectionId force else pure none) := by
      rw [Standing.entered_other other]
      cases acquired with
      | true => exact (graphHeld_sound covers force).map fun _ _ => trivial
      | false => exact .pure trivial
    refine (acquire_sound held).bind fun refreshed _ => ?_
    cases refreshed with
    | some token => exact .pure trivial
    | none =>
      have slept : Sound settings route .free (fun _ => True) expected (Async.outside (.sleep contentionSleepMilliseconds)) :=
        outside_sound nofun
      refine slept.bind fun _ _ => (cachedToken_sound force).bind fun cached _ => ?_
      cases cached with
      | some cached => exact .pure trivial
      | none => exact ih

theorem getToken_sound (other : route.xero = none) (force : Bool) :
    Sound settings route .free (fun _ => True) expected (MSTokenManager.getToken settings connectionId force) := by
  unfold MSTokenManager.getToken
  split
  · exact graphAttempts_sound covers other force _
  · refine (load_sound connectionId).bind fun cached _ => ?_
    cases cached with
    | none => exact throw_sound (covers _ rfl)
    | some cached =>
      refine (expired_sound cached _).bind fun expired _ => ?_
      cases expired with
      | true => exact graphAttempts_sound covers other force _
      | false => exact .pure trivial

theorem postToChannel_sound (other : route.xero = none) (teamId channelId : String) (payload : Json) :
    Sound settings route .free (fun body => messageBody.accepts body = true) expected
      (MSGraph.postToChannel settings connectionId teamId channelId payload) := by
  have attempt (first : Bool) : Sound settings route .free (fun read => ∀ body ∈ read, messageBody.accepts body = true) expected
      (MSGraph.attempt settings connectionId teamId channelId payload first) := by
    refine (getToken_sound covers other _).bind fun token _ => ?_
    refine (http_sound fun answer documented => documented.graph teamId channelId payload token rfl).bind fun response shaped => ?_
    split
    · exact .pure nofun
    · split
      · exact throw_sound (covers _ rfl)
      · rename_i success
        refine (ofExcept_sound (shaped (by simpa using success))).map fun body accepted => ?_
        rintro other ⟨⟩
        exact accepted
  refine (attempt true).bind fun read shaped => ?_
  cases read with
  | some body => exact .pure (shaped body rfl)
  | none =>
    refine (attempt false).bind fun read shaped => ?_
    cases read with
    | some body => exact .pure (shaped body rfl)
    | none => exact throw_sound (covers _ rfl)

end Graph
end OpenClaw.Api
