import OpenClawService.Api.Conduct

/-! Every route keeps to its conduct. The token managers and the clients are walked once
for all routes that use them. -/
namespace OpenClaw.Api
open Interleaving
variable [Library] {settings : Settings} {proper : Json → Prop} {route : Route} {p : Phase} {connectionId : String}

omit [Library] in
/-- A route with a connection has no state and no approval. -/
theorem connected (own : route.connection = some connectionId) : route.approval = none ∧ route.presented = none := by
  cases route <;> first | exact ⟨rfl, rfl⟩ | cases own

theorem local_returns (sent : Outside) (within : Local sent) :
    Returns (α := no_index sent.Answer) (conduct settings proper route) p (fun _ => True) (Async.outside sent) := by
  refine ⟨Or.inl within, fun answer _ => ⟨?_, fun _ _ => trivial⟩⟩
  rfl

theorem outside_returns {sent : Outside} (traffic : Traffic settings p route sent) :
    Returns (α := no_index sent.Answer) (conduct settings proper route) p (expects proper (.outside sent)) (Async.outside sent) := by
  refine ⟨Or.inr traffic, fun answer expected => ⟨rfl, ?_⟩⟩
  rintro value ⟨⟩
  exact expected

/-- A response whose body is proper, if it is JSON. -/
def Answered (proper : Json → Prop) (response : HttpResponse) : Prop := ∀ body, response.parse = .ok body → proper body

theorem http_returns {request : HttpRequest} (traffic : Traffic settings p route (.http request)) :
    Returns (conduct settings proper route) p (Answered proper) (Async.http request) := by
  refine (outside_returns traffic).bind fun answer expected => ⟨rfl, ?_⟩
  cases answer with
  | error text => nofun
  | ok response =>
    rintro value ⟨⟩ body parsed
    unfold HttpResponse.parse at parsed
    split at parsed
    · rename_i read
      cases parsed
      exact expected _ read
    · cases parsed

theorem ofExcept_returns {outcome : Except Exc α} {good : α → Prop} (succeeded : ∀ value, outcome = .ok value → good value) :
    Returns (conduct settings proper route) p good (Async.ofExcept outcome) := ⟨rfl, succeeded⟩

theorem ofExcept_stays {outcome : Except Exc α} :
    Returns (conduct settings proper route) p (fun _ => True) (Async.ofExcept outcome) := ofExcept_returns fun _ _ => trivial

theorem raising_stays {answer : Except String α} {convert : String → Exc} :
    Returns (conduct settings proper route) p (fun _ => True) (Async.raising convert answer) := ofExcept_stays

theorem expired_returns (token : TokenSet) (bufferSeconds : Int) :
    Returns (conduct settings proper route) p (fun _ => True) (token.isExpiredOrNear bufferSeconds) :=
  (local_returns .now trivial).bind fun _ _ => .pure trivial

/-! The token of the route's connection, and its lock. -/
section Connection
variable (own : route.connection = some connectionId)
include own

theorem load_returns : Returns (conduct settings proper route) p (fun _ => True) (TokenStore.load connectionId) := by
  rw [Returns, TokenStore.load_meets]
  refine ⟨Or.inl ⟨connectionId, own, rfl⟩, fun hash _ => ⟨?_, fun _ _ => trivial⟩⟩
  rw [conduct_advance, advance, (connected own).1]
  rfl

theorem store_returns (token : TokenSet) :
    Returns (conduct settings proper route) p (fun _ => True) (TokenStore.store connectionId token) :=
  ⟨Or.inl ⟨connectionId, token, Or.inl own, rfl, rfl⟩, fun _ _ => ⟨rfl, fun _ _ => trivial⟩⟩

theorem delete_returns : Returns (conduct settings proper route) p (fun _ => True) (TokenStore.delete connectionId) :=
  ⟨⟨connectionId, own, rfl⟩, fun _ _ => ⟨rfl, fun _ _ => trivial⟩⟩

theorem aexit_returns (idle : p.watched = none) (context : Lock.Context) : Returns (conduct settings proper route) p (fun _ => True)
    (Lock.aexit (refreshLockKey connectionId) context) := by
  have back {q : Phase} (same : q.popped = p.popped ∧ q.loaded = p.loaded) : { q with watched := none } = p := by
    cases p
    cases q
    obtain ⟨rfl, rfl⟩ := same
    cases idle
    rfl
  unfold Lock.aexit
  cases context.acquired with
  | false => exact .pure trivial
  | true =>
    simp only [if_true, Returns, Meets.bind_iff, Async.redis_meets, Meets.andThen_ok]
    refine ⟨⟨idle, Or.inl ⟨connectionId, own, rfl⟩⟩, fun _ _ => ⟨rfl, fun current _ => ?_⟩⟩
    split
    · rename_i held
      simp only [Meets.bind_iff, Async.redis_meets, Meets.andThen_ok, Meets.pure_iff]
      refine ⟨⟨context.ownerToken, by rw [held]; rfl⟩, fun deleted _ => ⟨?_, fun _ _ => trivial⟩⟩
      cases deleted with
      | false => exact back ⟨rfl, rfl⟩
      | true =>
        have unpopped (q : Phase) : q.pops route (refreshLockKey connectionId) = q.popped := by
          rw [Phase.pops, (connected own).2]
          rfl
        simp only [conduct_advance, advance, unpopped]
        exact back ⟨rfl, rfl⟩
    · exact ⟨Option.some_ne_none _, fun _ _ => ⟨back ⟨rfl, rfl⟩, fun _ _ => trivial⟩⟩

theorem acquire_returns (idle : p.watched = none) {good : α → Prop} {body : Bool → Async α}
    (held : ∀ acquired, Returns (conduct settings proper route) p good (body acquired)) :
    Returns (conduct settings proper route) p good (Lock.acquire (refreshLockKey connectionId) lockTtlSeconds body) := by
  have entered : Returns (conduct settings proper route) p (fun _ => True)
      (Lock.aenter (refreshLockKey connectionId) lockTtlSeconds) := by
    refine (local_returns .uuid4 trivial).bind fun token _ => ?_
    have set : Returns (conduct settings proper route) p (fun _ => True)
        (Async.redis (.setNx (refreshLockKey connectionId) token lockTtlSeconds)) :=
      ⟨⟨rfl, connectionId, own, rfl⟩, fun _ _ => ⟨rfl, fun _ _ => trivial⟩⟩
    exact set.bind fun _ _ => .pure trivial
  refine entered.bind fun context _ => ?_
  rw [Returns, Meets.bind_iff, Async.outcome_meets]
  apply Meets.mono (held context.acquired)
  rintro outcome l ⟨rfl, holds⟩
  exact (aexit_returns own idle context).bind fun _ _ => ofExcept_returns holds

omit own in
theorem usable_returns (token : Option TokenSet) :
    Returns (conduct settings proper route) p (fun _ => True) (XeroTokenManager.usable settings token) := by
  cases token with
  | none => exact .pure trivial
  | some token =>
    refine (expired_returns token _).bind fun expired _ => ?_
    cases expired <;> exact .pure trivial

/-! The Xero client. -/
section Xero
variable (renews : ∀ refreshToken, Traffic settings p route (.refreshToken settings.xero XeroOAuth.tokenUrl refreshToken))
include renews

omit renews own in
theorem rawToTokenSet_returns (raw tenant : Json) :
    Returns (conduct settings proper route) p (fun _ => True) (XeroOAuth.rawToTokenSet raw tenant) :=
  XeroOAuth.rawToTokenSet_meets (Or.inl trivial) (fun _ => ⟨rfl, fun _ _ => trivial⟩) fun _ _ => ⟨rfl, fun _ _ => trivial⟩

omit own in
theorem xeroRefresh_returns (token : Option TokenSet) :
    Returns (conduct settings proper route) p (fun _ => True) (XeroOAuth.refreshToken settings token) := by
  unfold XeroOAuth.refreshToken
  cases token with
  | none => exact .throw _
  | some token =>
    cases held : token.refreshToken.bind orNone with
    | none =>
      simp only [held]
      exact .throw _
    | some refreshToken =>
      simp only [held]
      refine (outside_returns (renews refreshToken)).bind fun answer _ => raising_stays.bind ?_
      intro raw _
      exact rawToTokenSet_returns raw _

theorem refreshHeld_returns :
    Returns (conduct settings proper route) p (fun _ => True) (XeroTokenManager.refreshHeld settings connectionId) := by
  have renew (token : Option TokenSet) :
      Returns (conduct settings proper route) p (fun _ => True) (XeroTokenManager.refreshHeld.renew settings connectionId token) :=
    (xeroRefresh_returns renews token).bind fun renewed _ => (store_returns own renewed).bind fun _ _ => .pure trivial
  refine (load_returns own).bind fun token _ => ?_
  cases token with
  | none => exact renew none
  | some current =>
    refine (expired_returns current _).bind fun expired _ => ?_
    cases expired with
    | true => exact renew (some current)
    | false => exact .pure trivial

theorem refreshAttempts_returns (idle : p.watched = none) (attempts : Nat) :
    Returns (conduct settings proper route) p (fun _ => True) (XeroTokenManager.refreshAttempts settings connectionId attempts) := by
  induction attempts with
  | zero => exact .throw _
  | succ attempts ih =>
    have held (acquired : Bool) : Returns (conduct settings proper route) p (fun _ => True)
        (if acquired then some <$> XeroTokenManager.refreshHeld settings connectionId else pure none) := by
      cases acquired with
      | true => exact (refreshHeld_returns own renews).map fun _ _ => trivial
      | false => exact .pure trivial
    refine (acquire_returns own idle held).bind fun refreshed _ => ?_
    cases refreshed with
    | some token => exact .pure trivial
    | none =>
      refine (local_returns (.sleep _) trivial).bind fun _ _ => (load_returns own).bind fun token _ =>
        (usable_returns token).bind fun usable _ => ?_
      cases usable with
      | some token => exact .pure trivial
      | none => exact ih

theorem getValidToken_returns (idle : p.watched = none) :
    Returns (conduct settings proper route) p (fun _ => True) (XeroTokenManager.getValidToken settings connectionId) := by
  refine (load_returns own).bind fun loaded _ => ?_
  cases loaded with
  | none => exact .throw _
  | some token =>
    refine (expired_returns token _).bind fun expired _ => ?_
    cases expired with
    | true => exact refreshAttempts_returns own renews idle _
    | false => exact .pure trivial

theorem attempt_returns (idle : p.watched = none) {call : XeroHttp.Call} (first : Bool)
    (asks : ∀ token tenantId, Traffic settings p route (.http (call.request token tenantId))) :
    Returns (conduct settings proper route) p (fun body => ∀ value ∈ body, proper value)
      (XeroHttp.attempt settings connectionId call first) := by
  refine (getValidToken_returns own renews idle).bind fun token _ => ?_
  cases token.xeroTenantId with
  | none => exact .throw _
  | some tenantId =>
    refine (http_returns (asks token.accessToken tenantId)).bind fun response answered => ?_
    split
    · exact (delete_returns own).bind fun _ _ => .pure nofun
    · split
      · exact .throw _
      · refine (ofExcept_returns answered).map fun value proper => ?_
        rintro other ⟨⟩
        exact proper

theorem request_returns (idle : p.watched = none) {call : XeroHttp.Call}
    (asks : ∀ token tenantId, Traffic settings p route (.http (call.request token tenantId))) :
    Returns (conduct settings proper route) p proper (XeroHttp.request settings connectionId call) := by
  refine (attempt_returns own renews idle true asks).bind fun body read => ?_
  cases body with
  | some body => exact .pure (read body rfl)
  | none =>
    refine (attempt_returns own renews idle false asks).bind fun body read => ?_
    cases body with
    | some body => exact .pure (read body rfl)
    | none => exact .throw _

end Xero

/-! The Graph client. -/
section Graph
variable (renews : ∀ refreshToken, Traffic settings p route (.http (MSDeviceCode.refreshRequest settings refreshToken)))

omit own in
theorem parseTokenSet_returns (body : Json) :
    Returns (conduct settings proper route) p (fun _ => True) (MSDeviceCode.parseTokenSet body) :=
  (local_returns .now trivial).bind fun _ _ => ofExcept_returns fun _ _ => trivial

theorem cachedToken_returns (force : Bool) :
    Returns (conduct settings proper route) p (fun _ => True) (MSTokenManager.cachedToken settings connectionId force) := by
  unfold MSTokenManager.cachedToken
  split
  · exact .pure trivial
  · exact (load_returns own).bind fun token _ => usable_returns token

include renews

omit own in
theorem graphRefresh_returns (token : TokenSet) :
    Returns (conduct settings proper route) p (fun _ => True) (MSDeviceCode.refreshToken settings token) := by
  unfold MSDeviceCode.refreshToken
  cases token.refreshToken with
  | none => exact .throw _
  | some refreshToken =>
    refine (http_returns (renews refreshToken)).bind fun response _ => ?_
    have body : Returns (conduct settings proper route) p (fun _ => True) (Async.ofExcept response.parse) :=
      ofExcept_returns fun _ _ => trivial
    split
    · exact body.bind fun _ _ => ofExcept_stays.bind fun _ _ => .throw _
    · exact body.bind fun _ _ => parseTokenSet_returns _

theorem held_returns (force : Bool) :
    Returns (conduct settings proper route) p (fun _ => True) (MSTokenManager.refreshHeld settings connectionId force) := by
  refine (cachedToken_returns own force).bind fun cached _ => ?_
  cases cached with
  | some cached => exact .pure trivial
  | none =>
    refine (load_returns own).bind fun current _ => ?_
    cases current with
    | none => exact .throw _
    | some current =>
      exact (graphRefresh_returns renews current).bind fun renewed _ => (store_returns own renewed).bind fun _ _ => .pure trivial

theorem attempts_returns (idle : p.watched = none) (force : Bool) (attempts : Nat) : Returns (conduct settings proper route) p
    (fun _ => True) (MSTokenManager.refreshAttempts settings connectionId force attempts) := by
  induction attempts with
  | zero => exact .throw _
  | succ attempts ih =>
    have held (acquired : Bool) : Returns (conduct settings proper route) p (fun _ => True)
        (if acquired then some <$> MSTokenManager.refreshHeld settings connectionId force else pure none) := by
      cases acquired with
      | true => exact (held_returns own renews force).map fun _ _ => trivial
      | false => exact .pure trivial
    refine (acquire_returns own idle held).bind fun refreshed _ => ?_
    cases refreshed with
    | some token => exact .pure trivial
    | none =>
      refine (local_returns (.sleep _) trivial).bind fun _ _ => (cachedToken_returns own force).bind fun cached _ => ?_
      cases cached with
      | some cached => exact .pure trivial
      | none => exact ih

theorem getToken_returns (idle : p.watched = none) (force : Bool) :
    Returns (conduct settings proper route) p (fun _ => True) (MSTokenManager.getToken settings connectionId force) := by
  unfold MSTokenManager.getToken
  split
  · exact attempts_returns own renews idle force _
  · refine (load_returns own).bind fun cached _ => ?_
    cases cached with
    | none => exact .throw _
    | some cached =>
      refine (expired_returns cached _).bind fun expired _ => ?_
      cases expired with
      | true => exact attempts_returns own renews idle force _
      | false => exact .pure trivial

theorem postToChannel_returns (idle : p.watched = none) {teamId channelId : String} {payload : Json}
    (posts : ∀ token, Traffic settings p route (.http (MSGraph.postRequest teamId channelId payload token))) :
    Returns (conduct settings proper route) p proper (MSGraph.postToChannel settings connectionId teamId channelId payload) := by
  have attempt (first : Bool) : Returns (conduct settings proper route) p (fun body => ∀ value ∈ body, proper value)
      (MSGraph.attempt settings connectionId teamId channelId payload first) := by
    refine (getToken_returns own renews idle _).bind fun token _ => (http_returns (posts token)).bind fun response answered => ?_
    split
    · exact .pure nofun
    · split
      · exact .throw _
      · refine (ofExcept_returns answered).map fun value proper => ?_
        rintro other ⟨⟩
        exact proper
  refine (attempt true).bind fun body read => ?_
  cases body with
  | some body => exact .pure (read body rfl)
  | none =>
    refine (attempt false).bind fun body read => ?_
    cases body with
    | some body => exact .pure (read body rfl)
    | none => exact .throw _

end Graph
end Connection
end OpenClaw.Api
