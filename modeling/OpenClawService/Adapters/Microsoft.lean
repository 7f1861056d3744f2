import OpenClawService.Adapters.Xero

/-! The Microsoft adapters: the device code client, the token manager with its
forced refresh, and the Graph client that retries once on 401. -/
namespace OpenClaw
variable [Library]

namespace MSDeviceCode
variable (settings : Settings)

def host := "https://login.microsoftonline.com/"

def deviceCodeUrl : String := host ++ settings.msTenantId ++ "/oauth2/v2.0/devicecode"

def tokenUrl : String := host ++ settings.msTenantId ++ "/oauth2/v2.0/token"

/-- The text of a refusal that no error code explains. -/
def unexpected (what : String) (response : HttpResponse) : Exc :=
  .providerUnavailableError (what ++ " returned " ++ toString response.statusCode ++ ": " ++
    clip 300 response.text)

def startDeviceCodeFlow : Async Json := do
  let response ← Async.http
    { method := "POST", url := deviceCodeUrl settings
      data := [("client_id", settings.msClientId), ("scope", settings.msGraphScopes)] }
  if !response.isSuccess then throw (unexpected "Azure device code endpoint" response)
  else Async.ofExcept response.parse

/-- The token set of an answer, at a reading of the clock. -/
def readTokenSet (body : Json) (now : Int) : Except Exc TokenSet := do
  let expiresIn ← body.getItem "expires_in" >>= Json.toInt
  let expiresAt ← secondsAfter now expiresIn
  let accessToken ← body.getItem "access_token" >>= Json.asText
  let tokenType ← body.get "token_type" (.str "Bearer") >>= Json.asText
  let refreshToken ← body.get "refresh_token" .null >>= Json.asOptionalText
  let scope ← body.get "scope" .null >>= Json.asOptionalText
  return { accessToken, expiresAt, tokenType, refreshToken, scope }

theorem readTokenSet_internal {body : Json} : Internal (readTokenSet body now) := by
  refine .bind (.bind Json.getItem_internal fun _ => Json.toInt_internal) fun _ => .bind secondsAfter_internal fun _ => ?_
  refine .bind (.bind Json.getItem_internal fun _ => Json.asText_internal) fun _ => ?_
  refine .bind (.bind Json.get_internal fun _ => Json.asText_internal) fun _ => ?_
  refine .bind (.bind Json.get_internal fun _ => Json.asOptionalText_internal) fun _ => ?_
  exact .bind (.bind Json.get_internal fun _ => Json.asOptionalText_internal) fun _ => .ok

def parseTokenSet (body : Json) : Async TokenSet := do
  let now ← Async.outside .now
  Async.ofExcept (readTokenSet body now)

def pollRequest (deviceCode : String) : HttpRequest :=
  { method := "POST", url := tokenUrl settings
    data := [("grant_type", "urn:ietf:params:oauth:grant-type:device_code"),
      ("client_id", settings.msClientId), ("device_code", deviceCode)] }

/-- What the error code of a refused poll means. -/
def pollFailure (error : Json) (response : HttpResponse) : Exc :=
  if error.isText "authorization_pending" then .deviceCodePending "authorization_pending"
  else if error.isText "slow_down" then .deviceCodePending "slow_down"
  else if error.isText "expired_token" then
    .deviceCodeExpired "Device code has expired. Start a new flow."
  else if error.isText "authorization_declined" then
    .connectionExpiredError "User declined the Microsoft authorization request."
  else unexpected "Azure token endpoint" response

def pollDeviceCode (deviceCode : String) : Async TokenSet := do
  let response ← Async.http (pollRequest settings deviceCode)
  let body ← Async.ofExcept response.parse
  if response.isSuccess then parseTokenSet body
  else do
    let error ← Async.ofExcept (body.get "error" (.str ""))
    throw (pollFailure error response)

def refreshRequest (refreshToken : String) : HttpRequest :=
  { method := "POST", url := tokenUrl settings
    data := [("grant_type", "refresh_token"), ("client_id", settings.msClientId),
      ("refresh_token", refreshToken), ("scope", settings.msGraphScopes)] }

/-- What the error code of a refused refresh means. -/
def refreshFailure (error : Json) (response : HttpResponse) : Exc :=
  let rejected (code : String) : Exc := .connectionExpiredError ("Microsoft refresh token rejected (" ++
    code ++ "). The operator must re-authorize via device code flow.")
  if error.isText "invalid_grant" then rejected "invalid_grant"
  else if error.isText "interaction_required" then rejected "interaction_required"
  else unexpected "Microsoft token refresh" response

def refreshToken (tokenSet : TokenSet) : Async TokenSet := do
  match tokenSet.refreshToken with
  | none => throw (.connectionExpiredError ("No Microsoft refresh token stored. " ++
      "The device code authorization flow must be completed first."))
  | some refreshToken => do
    let response ← Async.http (refreshRequest settings refreshToken)
    if !response.isSuccess then do
      let body ← Async.ofExcept response.parse
      let error ← Async.ofExcept (body.get "error" (.str ""))
      throw (refreshFailure error response)
    else do
      parseTokenSet (← Async.ofExcept response.parse)

end MSDeviceCode

namespace MSTokenManager
variable (settings : Settings) (connectionId : String)

def missing : Exc := .connectionMissingError ("No Microsoft token found for connection " ++
  Library.repr connectionId ++ ". Complete the device code authorization flow first.")

/-- A load that may settle the call; a forced refresh makes none. -/
def cachedToken (force : Bool) : Async (Option TokenSet) := do
  if force then return none
  else XeroTokenManager.usable settings (← TokenStore.load connectionId)

/-- The critical section: double-check, load again for the refresh token, refresh, store. -/
def refreshHeld (force : Bool) : Async String := do
  match ← cachedToken settings connectionId force with
  | some cached => return cached.accessToken
  | none => do
    match ← TokenStore.load connectionId with
    | none => throw (missing connectionId)
    | some current => do
      let newToken ← MSDeviceCode.refreshToken settings current
      TokenStore.store connectionId newToken
      return newToken.accessToken

def refreshAttempts (force : Bool) : Nat → Async String
  | 0 => throw (.lockTimeoutError ("Could not acquire MS refresh lock for " ++
      Library.repr connectionId ++ " after " ++ toString contentionRetries ++ " attempts"))
  | attempts + 1 => do
    let refreshed ← Lock.acquire (refreshLockKey connectionId) lockTtlSeconds fun acquired =>
      if acquired then some <$> refreshHeld settings connectionId force else pure none
    match refreshed with
    | some token => return token
    | none => do
      Async.outside (.sleep contentionSleepMilliseconds)
      match ← cachedToken settings connectionId force with
      | some cached => return cached.accessToken
      | none => refreshAttempts force attempts

def refreshUnderLock (force : Bool) : Async String :=
  refreshAttempts settings connectionId force contentionRetries

def getToken (force : Bool) : Async String := do
  if force then refreshUnderLock settings connectionId force
  else do
    match ← TokenStore.load connectionId with
    | none => throw (missing connectionId)
    | some cached =>
      if ← cached.isExpiredOrNear settings.refreshBufferSeconds then
        refreshUnderLock settings connectionId force
      else return cached.accessToken

end MSTokenManager

/-- The port of the Teams use cases. -/
structure TeamsClient where
  sendMessage : String → TeamsMessage → Async Json
  sendAdaptiveCard : String → TeamsApprovalCard → Async Json

namespace MSGraph
variable (settings : Settings)

def graphBase := "https://graph.microsoft.com/v1.0"

omit [Library] in
def textBlock (text : String) (style : List (String × Json)) : Json :=
  .obj ([("type", .str "TextBlock"), ("text", .str text)] ++ style)

omit [Library] in
def openUrl (title url : String) : Json :=
  .obj [("type", .str "Action.OpenUrl"), ("title", .str title), ("url", .str url)]

omit [Library] in
/-- Schema 1.4; the fact set is left out when there is no metadata. -/
def buildApprovalCard (card : TeamsApprovalCard) : Json :=
  let facts := card.metadata.map fun (k, v) => Json.obj [("title", .str k), ("value", .str v)]
  .obj [("type", .str "AdaptiveCard"),
    ("$schema", .str "http://adaptivecards.io/schemas/adaptive-card.json"),
    ("version", .str "1.4"),
    ("body", .arr ([textBlock card.title [("weight", .str "Bolder"), ("size", .str "Medium")],
        textBlock card.description [("wrap", .bool true)]] ++
      if facts.isEmpty then [] else [.obj [("type", .str "FactSet"), ("facts", .arr facts)]])),
    ("actions", .arr [openUrl "Approve" card.approveUrl, openUrl "Reject" card.rejectUrl])]

omit [Library] in
def messagePayload (message : TeamsMessage) : Json :=
  .obj [("body", .obj [("contentType", .str message.contentType), ("content", .str message.bodyContent)])]

def cardPayload (card : TeamsApprovalCard) (attachmentId : String) : Json :=
  .obj [("body", .obj [("contentType", .str "html"),
      ("content", .str ("<attachment id=\"" ++ attachmentId ++ "\"></attachment>"))]),
    ("attachments", .arr [.obj [("id", .str attachmentId),
      ("contentType", .str "application/vnd.microsoft.card.adaptive"), ("contentUrl", .null),
      ("content", .str (Library.dumps (buildApprovalCard card)))]])]

omit [Library] in
def channelUrl (teamId channelId : String) : String :=
  graphBase ++ "/teams/" ++ teamId ++ "/channels/" ++ channelId ++ "/messages"

omit [Library] in
def postRequest (teamId channelId : String) (payload : Json) (token : String) : HttpRequest :=
  { method := "POST", url := channelUrl teamId channelId, headers := [bearer token], json := some payload }

/-- One pass of the loop; only the second one forces a refresh. -/
def attempt (connectionId teamId channelId : String) (payload : Json) (first : Bool) :
    Async (Option Json) := do
  let token ← MSTokenManager.getToken settings connectionId (!first)
  let response ← Async.http (postRequest teamId channelId payload token)
  if response.statusCode = 401 ∧ first then return none
  else if !response.isSuccess then
    throw (MSDeviceCode.unexpected "Microsoft Graph" response)
  else some <$> Async.ofExcept response.parse

def postToChannel (connectionId teamId channelId : String) (payload : Json) : Async Json := do
  match ← attempt settings connectionId teamId channelId payload true with
  | some body => return body
  | none => do
    match ← attempt settings connectionId teamId channelId payload false with
    | some body => return body
    | none => throw (.providerUnavailableError (
        "Microsoft Graph returned 401 after token re-acquisition (connection=" ++
        Library.repr connectionId ++ ", team=" ++ Library.repr teamId ++ ")"))

def sendMessage (connectionId : String) (message : TeamsMessage) : Async Json :=
  postToChannel settings connectionId message.teamId message.channelId (messagePayload message)

def sendAdaptiveCard (connectionId : String) (card : TeamsApprovalCard) : Async Json := do
  let attachmentId ← Async.outside .uuid4
  postToChannel settings connectionId card.teamId card.channelId (cardPayload card attachmentId)

def client : TeamsClient where
  sendMessage := sendMessage settings
  sendAdaptiveCard := sendAdaptiveCard settings

end MSGraph
end OpenClaw
