import OpenClawService.Adapters.Lock
import OpenClawService.Adapters.Stores

/-! The Xero adapters: the OAuth client over Authlib, the rotation-safe token
manager and the HTTP client with its retry on 401. -/
namespace OpenClaw
open Interleaving
variable [Library]

/-- `needle in text`. -/
def contains (needle text : String) : Bool := decide (needle.toList <:+: text.toList)

/-- `text[:length]`. -/
def clip (length : Nat) (text : String) : String := String.ofList (text.toList.take length)

/-- `response.json()`. -/
def HttpResponse.parse (response : HttpResponse) : Except Exc Json :=
  match response.json with
  | some value => .ok value
  | none => .error .jsonDecodeError

omit [Library] in
theorem HttpResponse.parse_internal {response : HttpResponse} : Internal response.parse := by
  unfold HttpResponse.parse
  split
  · exact .ok
  · exact .raised rfl

def bearer (token : String) : String × String := ("Authorization", "Bearer " ++ token)

/-- `await http_client.request(...)`; a transport failure is raised. -/
def Async.http (request : HttpRequest) : Async HttpResponse := do
  Async.raising .transport (← Async.outside (.http request))

omit [Library] in
theorem Async.http_meets {P : Protocol Op Op.Answer L} {request : HttpRequest} {post : Except Exc HttpResponse → L → Prop} :
    Meets P (Async.http request) l post ↔ P.admits l (.outside (.http request)) ∧
      ∀ answer, P.expects l (.outside (.http request)) answer →
        post (Except.mapError Exc.transport answer) (P.advance l (.outside (.http request)) answer) := by
  simp only [Async.http, Meets.bind_iff, Async.outside_meets, Meets.andThen_ok, Async.raising_meets]

/-- The clock reading and the comparison of `TokenSet.is_expired_or_near`. -/
def TokenSet.isExpiredOrNear (token : TokenSet) (bufferSeconds : Int) : Async Bool := do
  return token.expiredOrNear bufferSeconds (← Async.outside .now)

omit [Library] in
theorem TokenSet.isExpiredOrNear_meets {P : Protocol Op Op.Answer L} {post : Except Exc Bool → L → Prop} {token : TokenSet}
    {bufferSeconds : Int} : Meets P (token.isExpiredOrNear bufferSeconds) l post ↔ P.admits l (.outside .now) ∧
      ∀ now, P.expects l (.outside .now) now →
        post (.ok (token.expiredOrNear bufferSeconds now)) (P.advance l (.outside .now) now) := by
  simp only [TokenSet.isExpiredOrNear, Meets.bind_iff, Async.outside_meets, Meets.andThen_ok, Meets.pure_iff]

omit [Library] in
theorem TokenSet.isExpiredOrNear_trace (token : TokenSet) (bufferSeconds now : Int) :
    (token.isExpiredOrNear bufferSeconds).run.Trace [⟨.outside .now, now⟩] (.done (.ok (token.expiredOrNear bufferSeconds now))) :=
  .cons .nil

namespace XeroOAuth

def tokenUrl := "https://identity.xero.com/connect/token"
def authorizeUrl := "https://login.xero.com/identity/connect/authorize"
def revokeUrl := "https://identity.xero.com/connect/revocation"
def connectionsUrl := "https://api.xero.com/connections"

def buildAuthorizationUrl (settings : Settings) (state : String) : String :=
  Library.createAuthorizationUrl settings.xero authorizeUrl state

/-- The token set of an answer, once its expiry is known. A field that Redis refuses to
encode fails here, and not only when the token is stored. -/
def issuedTokenSet (raw xeroTenantId : Json) (expiresAt : Int) : Except Exc TokenSet := do
  let accessToken ← raw.getItem "access_token" >>= Json.asText
  let refreshToken ← raw.get "refresh_token" .null >>= Json.asOptionalText
  let tokenType ← raw.get "token_type" (.str "Bearer") >>= Json.asText
  let scope ← raw.get "scope" .null >>= Json.asOptionalText
  let xeroTenantId ← xeroTenantId.asOptionalText
  return { accessToken, refreshToken, expiresAt, tokenType, scope, xeroTenantId }

/-- Without an `expires_at` the expiry is counted from the clock. -/
def rawToTokenSet (raw xeroTenantId : Json) : Async TokenSet := do
  let expiresAtUnix ← Async.ofExcept (raw.get "expires_at" .null)
  if expiresAtUnix.isNone then do
    let expiresIn ← Async.ofExcept (raw.get "expires_in" (.num 1800 0) >>= Json.toInt)
    let now ← Async.outside .now
    Async.ofExcept (secondsAfter now expiresIn >>= issuedTokenSet raw xeroTenantId)
  else Async.ofExcept (fromTimestamp expiresAtUnix >>= issuedTokenSet raw xeroTenantId)

/-- The expiry that an answer gives while the clock stands at `now`. -/
def expiryOf (raw : Json) (now : Int) : Except Exc Int :=
  raw.get "expires_at" .null >>= fun expiresAtUnix =>
    if expiresAtUnix.isNone then raw.get "expires_in" (.num 1800 0) >>= Json.toInt >>= secondsAfter now
    else fromTimestamp expiresAtUnix

def readTokenSet (raw xeroTenantId : Json) (now : Int) : Except Exc TokenSet :=
  expiryOf raw now >>= issuedTokenSet raw xeroTenantId

theorem issuedTokenSet_internal {raw tenant : Json} : Internal (issuedTokenSet raw tenant expiresAt) := by
  refine .bind (.bind Json.getItem_internal fun _ => Json.asText_internal) fun _ => ?_
  refine .bind (.bind Json.get_internal fun _ => Json.asOptionalText_internal) fun _ => ?_
  refine .bind (.bind Json.get_internal fun _ => Json.asText_internal) fun _ => ?_
  exact .bind (.bind Json.get_internal fun _ => Json.asOptionalText_internal) fun _ => .bind Json.asOptionalText_internal fun _ => .ok

theorem expiryOf_internal {raw : Json} : Internal (expiryOf raw now) := by
  refine .bind Json.get_internal fun stamp => ?_
  split
  · exact .bind (.bind Json.get_internal fun _ => Json.toInt_internal) fun _ => secondsAfter_internal
  · exact fromTimestamp_internal

theorem readTokenSet_internal {raw tenant : Json} : Internal (readTokenSet raw tenant now) :=
  .bind expiryOf_internal fun _ => issuedTokenSet_internal

/-- What is read of an answer, beside its expiry. -/
theorem readTokenSet_fields {raw tenant : Json} (read : readTokenSet raw tenant now = .ok token) :
    (raw.getItem "access_token" >>= Json.asText) = .ok token.accessToken ∧
      (raw.get "refresh_token" .null >>= Json.asOptionalText) = .ok token.refreshToken ∧
      tenant.asOptionalText = .ok token.xeroTenantId := by
  obtain ⟨expiresAt, _, read⟩ := bind_ok read
  unfold issuedTokenSet at read
  obtain ⟨accessToken, access, read⟩ := bind_ok read
  obtain ⟨refreshToken, refresh, read⟩ := bind_ok read
  obtain ⟨tokenType, _, read⟩ := bind_ok read
  obtain ⟨scope, _, read⟩ := bind_ok read
  obtain ⟨xeroTenantId, tenanted, read⟩ := bind_ok read
  cases read
  exact ⟨access, refresh, tenanted⟩

/-- The clock is read once at most. -/
theorem rawToTokenSet_meets {P : Protocol Op Op.Answer L} {post : Except Exc TokenSet → L → Prop}
    (clock : P.admits l (.outside .now)) (given : ∀ now, post (readTokenSet raw tenant now) l)
    (timed : ∀ now, P.expects l (.outside .now) now → post (readTokenSet raw tenant now) (P.advance l (.outside .now) now)) :
    Meets P (rawToTokenSet raw tenant) l post := by
  rw [rawToTokenSet, Meets.bind_iff, Async.ofExcept_meets]
  cases found : raw.get "expires_at" .null with
  | error exc =>
    simpa only [Meets.andThen_error, readTokenSet, expiryOf, found, error_bind] using given 0
  | ok stamp =>
    have expiry (now : Int) : expiryOf raw now = if stamp.isNone then
        raw.get "expires_in" (.num 1800 0) >>= Json.toInt >>= secondsAfter now else fromTimestamp stamp := by
      rw [expiryOf, found, ok_bind]
    rw [Meets.andThen_ok]
    split
    · rename_i absent
      simp only [absent, if_true] at expiry
      rw [Meets.bind_iff, Async.ofExcept_meets]
      cases lasting : raw.get "expires_in" (.num 1800 0) >>= Json.toInt with
      | error exc => simpa only [Meets.andThen_error, readTokenSet, expiry, lasting, error_bind] using given 0
      | ok seconds =>
        rw [Meets.andThen_ok, Meets.bind_iff, Async.outside_meets]
        refine ⟨clock, fun now expected => ?_⟩
        simpa only [Meets.andThen_ok, Async.ofExcept_meets, readTokenSet, expiry, lasting, ok_bind] using timed now expected
    · rename_i present
      rw [Async.ofExcept_meets]
      simpa only [readTokenSet, expiry, if_neg present] using given 0

/-- `connections[0].get("tenantId")` of a non-empty answer. -/
def tenantOf (connections : Json) : Except Exc Json :=
  if connections.truthy then do
    let first ← connections.head
    first.get "tenantId" .null
  else .ok .null

/-- Every failure of the lookup leaves the tenant unset. -/
def fetchTenantId (accessToken : String) : Async Json :=
  tryCatch (do
    let response ← Async.http { method := "GET", url := connectionsUrl, headers := [bearer accessToken] }
    if response.isSuccess then Async.ofExcept (response.parse >>= tenantOf) else return .null)
    (fun _ => pure .null)

def exchangeCode (settings : Settings) (code : String) : Async TokenSet := do
  let raw ← Async.raising (fun text => .providerUnavailableError ("Xero token exchange failed: " ++ text))
    (← Async.outside (.fetchToken settings.xero tokenUrl code settings.xero.redirectUri))
  let accessToken ← Async.ofExcept (raw.getItem "access_token")
  let tenantId ← fetchTenantId (Library.str accessToken)
  rawToTokenSet raw tenantId

/-- Texts that mark the refresh token as rejected rather than the provider as down. -/
def rejects (text : String) : Bool :=
  let msg := text.toLower
  contains "invalid_grant" msg || contains "unauthorized" msg || contains "401" msg

def refreshFailure (text : String) : Exc :=
  if rejects text then
    .connectionExpiredError
      ("Xero refresh token rejected (connection must be re-authorized): " ++ text)
  else .providerUnavailableError ("Xero token refresh failed: " ++ text)

/-- A missing token set fails at its first attribute. -/
def refreshToken (settings : Settings) : Option TokenSet → Async TokenSet
  | none => throw (.attributeError "refresh_token")
  | some tokenSet => match tokenSet.refreshToken.bind orNone with
    | none => throw (.connectionExpiredError "Cannot refresh Xero token: no refresh_token stored.")
    | some refreshToken => do
      let raw ← Async.raising refreshFailure
        (← Async.outside (.refreshToken settings.xero tokenUrl refreshToken))
      rawToTokenSet raw (.ofText tokenSet.xeroTenantId)

/-- Best effort: the answer and any failure are only logged. -/
def revokeToken (settings : Settings) (tokenSet : TokenSet) : Async Unit :=
  tryCatch (do
    let _ ← Async.http { method := "POST", url := revokeUrl, data := [("token", tokenSet.accessToken)]
                         auth := some (settings.xero.clientId, settings.xero.clientSecret) }
    return ())
    (fun _ => pure ())

end XeroOAuth

def lockTtlSeconds : Nat := 30
def contentionRetries : Nat := 5
def contentionSleepMilliseconds : Nat := 100

/-- Both token managers lock this key for a refresh. -/
def refreshLockKey (connectionId : String) : String := "lock:refresh:" ++ connectionId

namespace XeroTokenManager
variable (settings : Settings) (connectionId : String)

/-- The critical section: double-check, refresh, store. -/
def refreshHeld : Async TokenSet := do
  let token ← TokenStore.load connectionId
  match token with
  | some current =>
    if ← current.isExpiredOrNear settings.refreshBufferSeconds then renew token else return current
  | none => renew token
where
  renew (token : Option TokenSet) : Async TokenSet := do
    let newToken ← XeroOAuth.refreshToken settings token
    TokenStore.store connectionId newToken
    return newToken

/-- `token and not token.is_expired_or_near(buffer)`, for a loaded token. -/
def usable : Option TokenSet → Async (Option TokenSet)
  | none => return none
  | some token => do
    if ← token.isExpiredOrNear settings.refreshBufferSeconds then return none else return some token

def refreshAttempts : Nat → Async TokenSet
  | 0 => throw (.lockTimeoutError ("Could not acquire Xero refresh lock for connection " ++
      Library.repr connectionId ++ " after " ++ toString contentionRetries ++ " attempts."))
  | attempts + 1 => do
    let refreshed ← Lock.acquire (refreshLockKey connectionId) lockTtlSeconds fun acquired =>
      if acquired then some <$> refreshHeld settings connectionId else pure none
    match refreshed with
    | some token => return token
    | none => do
      Async.outside (.sleep contentionSleepMilliseconds)
      match ← usable settings (← TokenStore.load connectionId) with
      | some token => return token
      | none => refreshAttempts attempts

def refreshUnderLock : Async TokenSet := refreshAttempts settings connectionId contentionRetries

def getValidToken : Async TokenSet := do
  match ← TokenStore.load connectionId with
  | none => throw (.connectionMissingError ("No Xero token found for connection " ++
      Library.repr connectionId ++ ". The OAuth authorization flow must be completed first."))
  | some token =>
    if ← token.isExpiredOrNear settings.refreshBufferSeconds then
      refreshUnderLock settings connectionId
    else return token

end XeroTokenManager

/-- The port of the Xero use cases. -/
structure XeroClient where
  createInvoice : String → Json → Async Json
  updateInvoiceStatus : String → String → String → Async Json
  getInvoice : String → String → Async Json
  listContacts : String → Option String → Async Json
  listAccounts : String → Option String → Async Json
  listTaxRates : String → Option String → Async Json

namespace XeroHttp
variable (settings : Settings)

def apiBase := "https://api.xero.com/api.xro/2.0"

/-- The part of a request that the retry repeats. -/
structure Call where
  method : String
  url : String
  json : Option Json := none
  params : List (String × String) := []

def Call.request (call : Call) (accessToken tenantId : String) : HttpRequest where
  method := call.method
  url := call.url
  headers := [bearer accessToken, ("Xero-tenant-ID", tenantId), ("Accept", "application/json")]
  json := call.json
  params := call.params

/-- One pass of the loop; `none` continues to the next one. On the first 401
the source deletes the token, meaning to force a refresh. -/
def attempt (connectionId : String) (call : Call) (first : Bool) : Async (Option Json) := do
  let token ← XeroTokenManager.getValidToken settings connectionId
  match token.xeroTenantId with
  | none => throw (.providerUnavailableError ("Xero tenant ID is not set for connection " ++
      Library.repr connectionId ++ ". Re-run the OAuth flow to populate it."))
  | some tenantId => do
    let response ← Async.http (call.request token.accessToken tenantId)
    if response.statusCode = 401 ∧ first then
      TokenStore.delete connectionId
      return none
    else if !response.isSuccess then
      throw (.providerUnavailableError ("Xero API returned " ++ toString response.statusCode ++ ": " ++
        clip 300 response.text))
    else some <$> Async.ofExcept response.parse

def request (connectionId : String) (call : Call) : Async Json := do
  match ← attempt settings connectionId call true with
  | some body => return body
  | none => do
    match ← attempt settings connectionId call false with
    | some body => return body
    | none => throw (.providerUnavailableError ("Xero API returned 401 after token refresh (connection=" ++
        Library.repr connectionId ++ ", url=" ++ Library.repr call.url ++ ")"))

def createCall (payload : Json) : Call :=
  { method := "POST", url := apiBase ++ "/Invoices", json := some payload }

def updateCall (invoiceId status : String) : Call :=
  { method := "POST", url := apiBase ++ "/Invoices/" ++ invoiceId
    json := some (.obj [("Invoices", .arr [.obj [("InvoiceID", .str invoiceId), ("Status", .str status)]])]) }

def getCall (invoiceId : String) : Call :=
  { method := "GET", url := apiBase ++ "/Invoices/" ++ invoiceId }

/-- A filtered list; an absent or empty filter sends no parameters. -/
def listCall (path : String) (filter : String → String) (value : Option String) : Call :=
  { method := "GET", url := apiBase ++ path
    params := match value.bind orNone with
      | some text => [("where", filter text)]
      | none => [] }

def nameFilter (search : String) : String := "Name.Contains(\"" ++ search ++ "\")"

def statusFilter (status : String) : String := "Status==\"" ++ Library.upper status ++ "\""

def client : XeroClient where
  createInvoice connectionId payload := request settings connectionId (createCall payload)
  updateInvoiceStatus connectionId invoiceId status :=
    request settings connectionId (updateCall invoiceId status)
  getInvoice connectionId invoiceId := request settings connectionId (getCall invoiceId)
  listContacts connectionId search :=
    request settings connectionId (listCall "/Contacts" nameFilter search)
  listAccounts connectionId status :=
    request settings connectionId (listCall "/Accounts" statusFilter status)
  listTaxRates connectionId status :=
    request settings connectionId (listCall "/TaxRates" statusFilter status)

end XeroHttp
end OpenClaw
