import OpenClawService.Connection.Graph
import OpenClawService.Connection.Request
import OpenClawService.UseCases.OAuth
import OpenClawService.UseCases.Teams

/-! Which provider a token comes from and where it goes. Every request that
may touch a token is a job; its automaton remembers the tokens that the job
has seen and the connection that it works on. -/
namespace OpenClaw.Credentials
open Interleaving

inductive Provider where
  | microsoft
  | xero
  deriving DecidableEq

def Provider.hosts : Provider → List String
  | .microsoft => ["https://login.microsoftonline.com/", "https://graph.microsoft.com/"]
  | .xero => ["https://identity.xero.com/", "https://api.xero.com/"]

def AtHost (provider : Provider) (url : String) : Prop := ∃ host ∈ provider.hosts, host.toList <+: url.toList

/-- The call presents the token to the url, as a bearer or in the form. -/
def Sends : Outside → (token url : String) → Prop
  | .http request, token, url => request.url = url ∧ (bearer token ∈ request.headers ∨
      ("token", token) ∈ request.data ∨ ("refresh_token", token) ∈ request.data)
  | .refreshToken _ target refreshToken, token, url => target = url ∧ refreshToken = token
  | _, _, _ => False

/-- The access token and the refresh token of a token set. -/
def secrets (token : TokenSet) : List String := token.accessToken :: token.refreshToken.toList

/-- The requests of the service that read, write or send tokens. -/
inductive Job where
  | authorize (connectionId : String)
  | callback (code state : String)
  | initiate
  | poll (connectionId deviceCode : String)
  | status (connectionId : String)
  | revokeXero (connectionId : String)
  | revokeMicrosoft (connectionId : String)
  | createInvoice (connectionId : String) (invoice : XeroInvoice) (key : String)
  | submitInvoice (connectionId invoiceId key : String)
  | voidInvoice (connectionId invoiceId key : String)
  | getInvoice (connectionId invoiceId : String)
  | listContacts (connectionId : String) (search : Option String)
  | listAccounts (connectionId : String) (status : Option String)
  | listTaxRates (connectionId : String) (status : Option String)
  | sendMessage (connectionId : String) (message : TeamsMessage) (key : Option String)
  | sendApprovalCard (connectionId : String) (card : TeamsApprovalCard) (key : Option String)

namespace Job

/-- The provider that the job talks to with a token. -/
def provider : Job → Option Provider
  | .status .. | .revokeMicrosoft .. => none
  | .initiate | .poll .. | .sendMessage .. | .sendApprovalCard .. => some .microsoft
  | _ => some .xero

/-- The connection id that the job is called with, for use with its provider. -/
def connection : Job → Option String
  | .callback .. | .initiate | .status .. | .revokeMicrosoft .. => none
  | .authorize connectionId | .poll connectionId .. | .revokeXero connectionId | .createInvoice connectionId ..
  | .submitInvoice connectionId .. | .voidInvoice connectionId .. | .getInvoice connectionId ..
  | .listContacts connectionId .. | .listAccounts connectionId .. | .listTaxRates connectionId ..
  | .sendMessage connectionId .. | .sendApprovalCard connectionId .. => some connectionId

/-- The key of the state that a callback presents. -/
def stateKey : Job → Option String
  | .callback _ state => some (OAuthStateStore.key state)
  | _ => none

variable [Library]

/-- The result of a job says nothing about tokens. -/
def run (settings : Settings) : Job → Async Unit
  | .authorize connectionId => (fun _ => ()) <$> BuildXeroAuthorizationUrl.execute settings connectionId
  | .callback code state => (fun _ => ()) <$> HandleXeroOAuthCallback.execute settings code state
  | .initiate => (fun _ => ()) <$> InitiateMSDeviceCodeFlow.execute settings
  | .poll connectionId deviceCode => (fun _ => ()) <$> PollMSDeviceCodeFlow.execute settings connectionId deviceCode
  | .status connectionId => (fun _ => ()) <$> GetConnectionStatus.execute settings connectionId
  | .revokeXero connectionId => RevokeConnection.execute (some (XeroOAuth.revokeToken settings)) connectionId
  | .revokeMicrosoft connectionId => RevokeConnection.execute none connectionId
  | .createInvoice connectionId invoice key => (fun _ => ()) <$> CreateXeroDraftInvoice.execute (XeroHttp.client settings)
      settings.idempotencyTtlSeconds connectionId invoice key
  | .submitInvoice connectionId invoiceId key => (fun _ => ()) <$> SubmitXeroInvoice.execute (XeroHttp.client settings)
      settings.idempotencyTtlSeconds connectionId invoiceId key
  | .voidInvoice connectionId invoiceId key => (fun _ => ()) <$> VoidXeroInvoice.execute (XeroHttp.client settings)
      settings.idempotencyTtlSeconds connectionId invoiceId key
  | .getInvoice connectionId invoiceId =>
    (fun _ => ()) <$> GetXeroInvoice.execute (XeroHttp.client settings) connectionId invoiceId
  | .listContacts connectionId search =>
    (fun _ => ()) <$> ListXeroContacts.execute (XeroHttp.client settings) connectionId search
  | .listAccounts connectionId wanted =>
    (fun _ => ()) <$> ListXeroAccounts.execute (XeroHttp.client settings) connectionId wanted
  | .listTaxRates connectionId wanted =>
    (fun _ => ()) <$> ListXeroTaxRates.execute (XeroHttp.client settings) connectionId wanted
  | .sendMessage connectionId message key => (fun _ => ()) <$> SendTeamsMessage.execute (MSGraph.client settings)
      settings.idempotencyTtlSeconds connectionId message key
  | .sendApprovalCard connectionId card key => (fun _ => ()) <$> SendTeamsApprovalCard.execute (MSGraph.client settings)
      settings.idempotencyTtlSeconds connectionId card key

end Job

/-- The tokens a job has seen, and the connection it works on. -/
structure Phase where
  known : List String
  connection : Option String

def Phase.learn (p : Phase) (tokens : List String) : Phase := { p with known := tokens ++ p.known }

section Protocol
variable [Library]

/-- The tokens in the answer of a token endpoint, as they are presented. -/
def bodySecrets (body : Json) : List String :=
  (match body.getItem "access_token" with
    | .ok token => [Library.str token]
    | .error _ => []) ++
  match body.get "refresh_token" .null >>= Json.asOptionalText with
    | .ok token => token.toList
    | .error _ => []

/-- The tokens that a provider issues with an answer of its token endpoint. -/
def issues (settings : Settings) : Provider → (op : Op) → op.Answer → List String
  | .xero, .outside (.fetchToken ..), .ok raw => bodySecrets raw
  | .xero, .outside (.refreshToken ..), .ok raw => bodySecrets raw
  | .microsoft, .outside (.http request), .ok response =>
    if request.url = MSDeviceCode.tokenUrl settings ∧ response.isSuccess = true then
      match response.json with
      | some body => bodySecrets body
      | none => []
    else []
  | _, _, _ => []

/-- The tokens of a stored hash. -/
def held (hash : List (String × String)) : List String :=
  match TokenStore.decode hash with
  | .ok (some token) => secrets token
  | _ => []

def advance (settings : Settings) (job : Job) (p : Phase) : (op : Op) → op.Answer → Phase
  | .redis (.hgetall _), hash => match job.provider with
    | some _ => p.learn (held hash)
    | none => p
  | .redis (.get k), value => if job.stateKey = some k then { p with connection := value } else p
  | .outside call, answer => match job.provider with
    | some provider => p.learn (issues settings provider (.outside call) answer)
    | none => p
  | _, _ => p

def admits (job : Job) (p : Phase) : Op → Prop
  | .redis (.set k value _) => (∃ state, k = OAuthStateStore.key state) ∧ p.connection = some value ∧
      job.provider = some .xero
  | .redis (.setNx k _ _) => ∃ connectionId, k = refreshLockKey connectionId
  | .redis (.hgetall k) => job.provider = none ∨ ∃ connectionId, p.connection = some connectionId ∧
      k = TokenStore.key connectionId
  | .redis (.hset k mapping) => ∃ connectionId token, p.connection = some connectionId ∧ job.provider ≠ none ∧
      k = TokenStore.key connectionId ∧ mapping = TokenStore.toMapping token ∧ ∀ text ∈ secrets token, text ∈ p.known
  | .outside call => ∀ token url, Sends call token url → token ∈ p.known ∧ ∃ provider, job.provider = some provider ∧
      AtHost provider url
  | _ => True

def protocol (settings : Settings) (job : Job) : Protocol Op Op.Answer Phase :=
  ⟨admits job, fun _ _ _ => True, advance settings job⟩

variable {settings : Settings} {job : Job}

@[simp] theorem protocol_admits : (protocol settings job).admits = admits job := rfl

@[simp] theorem protocol_advance : (protocol settings job).advance = advance settings job := rfl

end Protocol
end OpenClaw.Credentials
