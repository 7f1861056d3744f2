import OpenClawService.Credentials.Protocol
import OpenClawService.Isolation.Agreement

/-! Which keys belong to one connection. A request either stays within them or
keeps out of them; what an authorization stores decides where its callback belongs.
The entries of the idempotency store belong to nobody. -/
namespace OpenClaw.Isolation
open Interleaving Credentials

/-- What a request answers. -/
inductive Response where
  | authorization (result : AuthUrlResult)
  | connected (connectionId : String)
  | device (result : DeviceCodeResult)
  | status (result : ConnectionStatus)
  | revoked
  | invoice (result : XeroInvoiceResult)
  | contacts (results : List XeroContactResult)
  | accounts (results : List XeroAccountResult)
  | taxRates (results : List XeroTaxRateResult)
  | message (result : MessageResult)

/-- The connection id that a request carries. -/
def target : Job → Option String
  | .callback .. | .initiate => none
  | .authorize connectionId | .poll connectionId .. | .status connectionId | .revokeXero connectionId
  | .revokeMicrosoft connectionId | .createInvoice connectionId .. | .submitInvoice connectionId ..
  | .voidInvoice connectionId .. | .getInvoice connectionId .. | .listContacts connectionId ..
  | .listAccounts connectionId .. | .listTaxRates connectionId .. | .sendMessage connectionId ..
  | .sendApprovalCard connectionId .. => some connectionId

/-- A connection, with the states issued for it. -/
structure Territory where
  connectionId : String
  states : String → Prop

def IsEntry (key : String) : Prop := ∃ operation given, key = idempotencyKey operation given

section Territory
variable (own : Territory) (mine : Prop)

/-- The lock of a connection, which is the territory's own or not. -/
def OnLock (key : String) : Prop := ∃ connectionId, key = refreshLockKey connectionId ∧ (connectionId = own.connectionId ↔ mine)

def OnState (key : String) : Prop := ∃ state, key = OAuthStateStore.key state ∧ (own.states state ↔ mine)

def OnToken (key : String) : Prop := ∃ connectionId, key = TokenStore.key connectionId ∧ (connectionId = own.connectionId ↔ mine)

/-- Every key is on its side, save those of entries. A saved state is on the side of the connection that it is saved for. -/
def admits : Op → Prop
  | .redis (.hset key _) | .redis (.hgetall key) | .redis (.delHash key) => OnToken own mine key
  | .redis (.getJson key) | .redis (.setJson key ..) => IsEntry key
  | .redis (.setNx key ..) => OnLock own mine key
  | .redis (.set key value _) => (∃ state, key = OAuthStateStore.key state) ∧ (value = own.connectionId ↔ mine)
  | .redis (.get key) | .redis (.watch key) | .redis (.execDel key) => OnLock own mine key ∨ OnState own mine key
  | .redis .unwatch | .outside _ => True

/-- A state on one side was saved for a connection on that side. -/
def expects : (op : Op) → op.Answer → Prop
  | .redis (.get key), value => OnState own mine key → ∀ connectionId, value = some connectionId →
      (connectionId = own.connectionId ↔ mine)
  | _, _ => True

def protocol : Protocol Op Op.Answer Unit := ⟨fun _ => admits own mine, fun _ => expects own mine, fun _ _ _ => ()⟩

@[simp] theorem protocol_admits : (protocol own mine).admits l = admits own mine := rfl

@[simp] theorem protocol_expects : (protocol own mine).expects l = expects own mine := rfl

/-- The request and all that it touches are on one side. -/
structure Sided (job : Job) : Prop where
  target : target job = some connectionId → (connectionId = own.connectionId ↔ mine)
  state {code state : String} : job = .callback code state → (own.states state ↔ mine)

end Territory

variable [Library]

/-- A request with its answer. -/
def respond (settings : Settings) : Job → Async Response
  | .authorize connectionId => .authorization <$> BuildXeroAuthorizationUrl.execute settings connectionId
  | .callback code state => .connected <$> HandleXeroOAuthCallback.execute settings code state
  | .initiate => .device <$> InitiateMSDeviceCodeFlow.execute settings
  | .poll connectionId deviceCode => .connected <$> PollMSDeviceCodeFlow.execute settings connectionId deviceCode
  | .status connectionId => .status <$> GetConnectionStatus.execute settings connectionId
  | .revokeXero connectionId =>
    (fun _ => .revoked) <$> RevokeConnection.execute (some (XeroOAuth.revokeToken settings)) connectionId
  | .revokeMicrosoft connectionId => (fun _ => .revoked) <$> RevokeConnection.execute none connectionId
  | .createInvoice connectionId invoice key => .invoice <$> CreateXeroDraftInvoice.execute (XeroHttp.client settings)
      settings.idempotencyTtlSeconds connectionId invoice key
  | .submitInvoice connectionId invoiceId key => .invoice <$> SubmitXeroInvoice.execute (XeroHttp.client settings)
      settings.idempotencyTtlSeconds connectionId invoiceId key
  | .voidInvoice connectionId invoiceId key => .invoice <$> VoidXeroInvoice.execute (XeroHttp.client settings)
      settings.idempotencyTtlSeconds connectionId invoiceId key
  | .getInvoice connectionId invoiceId => .invoice <$> GetXeroInvoice.execute (XeroHttp.client settings) connectionId invoiceId
  | .listContacts connectionId search =>
    .contacts <$> ListXeroContacts.execute (XeroHttp.client settings) connectionId search
  | .listAccounts connectionId wanted =>
    .accounts <$> ListXeroAccounts.execute (XeroHttp.client settings) connectionId wanted
  | .listTaxRates connectionId wanted =>
    .taxRates <$> ListXeroTaxRates.execute (XeroHttp.client settings) connectionId wanted
  | .sendMessage connectionId message key => .message <$> SendTeamsMessage.execute (MSGraph.client settings)
      settings.idempotencyTtlSeconds connectionId message key
  | .sendApprovalCard connectionId card key => .message <$> SendTeamsApprovalCard.execute (MSGraph.client settings)
      settings.idempotencyTtlSeconds connectionId card key

end OpenClaw.Isolation
