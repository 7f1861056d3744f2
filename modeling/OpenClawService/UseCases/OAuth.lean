import OpenClawService.Adapters.Microsoft

/-! The connections: the Xero authorization round trip, the Microsoft device
code flow, and the status and revocation of either kind. -/
namespace OpenClaw
variable [Library]

def BuildXeroAuthorizationUrl.execute (settings : Settings) (connectionId : String) :
    Async AuthUrlResult := do
  let state ← Async.outside (.tokenUrlsafe 32)
  OAuthStateStore.save state connectionId settings.oauthStateTtlSeconds
  return ⟨XeroOAuth.buildAuthorizationUrl settings state, state⟩

/-- The connection id that the state was saved with is the key of the token. -/
def HandleXeroOAuthCallback.execute (settings : Settings) (code state : String) : Async String := do
  match ← OAuthStateStore.pop state with
  | none => throw (.connectionMissingError
      "OAuth state is invalid or expired. Please restart the authorization flow.")
  | some connectionId => do
    let tokenSet ← XeroOAuth.exchangeCode settings code
    TokenStore.store connectionId tokenSet
    return connectionId

def GetConnectionStatus.execute (settings : Settings) (connectionId : String) :
    Async ConnectionStatus := do
  match ← TokenStore.load connectionId with
  | none => return ⟨"missing"⟩
  | some token =>
    if ← token.isExpiredOrNear settings.refreshBufferSeconds then return ⟨"expired"⟩
    else return ⟨"valid"⟩

/-- With a `revokeToken` the provider is told first; its failure is swallowed there. -/
def RevokeConnection.execute (revokeToken : Option (TokenSet → Async Unit)) (connectionId : String) :
    Async Unit := do
  match ← TokenStore.load connectionId, revokeToken with
  | some token, some revoke => do
    revoke token
    TokenStore.delete connectionId
  | _, _ => TokenStore.delete connectionId

def InitiateMSDeviceCodeFlow.execute (settings : Settings) : Async DeviceCodeResult := do
  let body ← MSDeviceCode.startDeviceCodeFlow settings
  Async.ofExcept (do
    let _ ← body.get "user_code" .null
    let deviceCode ← body.getItem "device_code"
    let userCode ← body.getItem "user_code"
    let verificationUri ← body.getItem "verification_uri"
    let expiresIn ← (← body.get "expires_in" (.num 900 0)).toInt
    let interval ← (← body.get "interval" (.num 5 0)).toInt
    let message ← body.get "message" (.str "")
    return { deviceCode, userCode, verificationUri, expiresIn, interval, message })

def PollMSDeviceCodeFlow.execute (settings : Settings) (connectionId deviceCode : String) :
    Async String := do
  let tokenSet ← MSDeviceCode.pollDeviceCode settings deviceCode
  TokenStore.store connectionId tokenSet
  return connectionId

end OpenClaw
