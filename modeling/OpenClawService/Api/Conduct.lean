import OpenClawService.Api.Routes
import OpenClawService.Interleaving.Returning

/-! What each route may do: the keys that it reads and writes, what it writes there, and
the calls that leave the service. A key is watched before it is read, and deleted
only after it was found; a popped state tells whose token a callback stores. The record
of an approval is loaded once. -/
namespace OpenClaw.Api
open Interleaving

namespace Route

/-- The connection whose token the route uses. -/
def connection : Route → Option String
  | .sendMessage connectionId .. | .sendApproval connectionId .. | .createInvoice connectionId ..
  | .getInvoice _ connectionId | .submitInvoice _ connectionId _ | .voidInvoice _ connectionId _
  | .listContacts connectionId _ | .listAccounts connectionId _ | .listTaxRates connectionId _
  | .msDeviceCodePoll connectionId _ | .getConnectionStatus connectionId
  | .revokeXeroConnection connectionId | .revokeMsConnection connectionId => some connectionId
  | _ => none

/-- The entry of the idempotency store. -/
def entry : Route → Option String
  | .sendMessage _ _ key => (key.bind orNone).map (idempotencyKey opSendMessage)
  | .sendApproval _ _ key => (key.bind orNone).map (idempotencyKey opSendApproval)
  | .createInvoice _ _ key => (key.bind orNone).map (idempotencyKey opCreateInvoice)
  | .submitInvoice _ _ key => (key.bind orNone).map (idempotencyKey opSubmitInvoice)
  | .voidInvoice _ _ key => (key.bind orNone).map (idempotencyKey opVoidInvoice)
  | _ => none

def approval : Route → Option String
  | .registerApproval body => some body.approvalId
  | .showApprovePage approvalId | .showRejectPage approvalId | .recordDecision approvalId .. => some approvalId
  | _ => none

/-- The state that a callback presents. -/
def presented : Route → Option String
  | .xeroCallback _ state => some state
  | _ => none

/-- The connection that a state is issued for. -/
def issues : Route → Option String
  | .xeroAuthorize connectionId => some connectionId
  | _ => none

end Route

/-- Calls that do not leave the service. -/
def Local : Outside → Prop
  | .now | .uuid4 | .tokenUrlsafe _ | .sleep _ => True
  | _ => False

/-- What a request remembers of its own awaits: the key that it watches with what it read
there, the connection of the state that it popped, and the approval that it loaded. -/
structure Phase where
  watched : Option (String × Option String) := none
  popped : Option String := none
  loaded : Option (Except Exc (Option ApprovalRequest)) := none

section Traffic
variable [Library] (settings : Settings)

def XeroTraffic (calls : XeroHttp.Call → Prop) (sent : Outside) : Prop :=
  (∃ refreshToken, sent = .refreshToken settings.xero XeroOAuth.tokenUrl refreshToken) ∨
    ∃ call token tenantId, calls call ∧ sent = .http (call.request token tenantId)

def GraphTraffic (teamId channelId : String) (payloads : Json → Prop) (sent : Outside) : Prop :=
  (∃ refreshToken, sent = .http (MSDeviceCode.refreshRequest settings refreshToken)) ∨
    ∃ payload token, payloads payload ∧ sent = .http (MSGraph.postRequest teamId channelId payload token)

/-- An approval that is loaded and pending, under a decision that the form accepts. -/
def Deciding (p : Phase) (decision : String) (note : Option String) (approval : ApprovalRequest) : Prop :=
  p.loaded = some (.ok (some approval)) ∧ approval.status = "pending" ∧ Pages.formError decision note = none

/-- The calls of a route that leave the service. -/
def Traffic (p : Phase) : Route → Outside → Prop
  | .sendMessage _ message _ =>
    GraphTraffic settings message.teamId message.channelId (· = MSGraph.messagePayload message)
  | .sendApproval _ card _ =>
    GraphTraffic settings card.teamId card.channelId fun payload => ∃ attachmentId, payload = MSGraph.cardPayload card attachmentId
  | .createInvoice _ invoice _ => XeroTraffic settings fun call => (∃ invoiceId, call = XeroHttp.getCall invoiceId) ∨
      ∃ payload, invoicePayload invoice = .ok payload ∧ call = XeroHttp.createCall (.obj [("Invoices", .arr [payload])])
  | .getInvoice invoiceId _ => XeroTraffic settings (· = XeroHttp.getCall invoiceId)
  | .submitInvoice invoiceId _ _ => XeroTraffic settings (· = XeroHttp.updateCall invoiceId "AUTHORISED")
  | .voidInvoice invoiceId _ _ => XeroTraffic settings (· = XeroHttp.updateCall invoiceId "VOIDED")
  | .listContacts _ search => XeroTraffic settings (· = XeroHttp.listCall "/Contacts" XeroHttp.nameFilter search)
  | .listAccounts _ status => XeroTraffic settings (· = XeroHttp.listCall "/Accounts" XeroHttp.statusFilter status)
  | .listTaxRates _ status => XeroTraffic settings (· = XeroHttp.listCall "/TaxRates" XeroHttp.statusFilter status)
  | .xeroCallback code _ => fun sent =>
    sent = .fetchToken settings.xero XeroOAuth.tokenUrl code settings.xero.redirectUri ∨
      ∃ token, sent = .http { method := "GET", url := XeroOAuth.connectionsUrl, headers := [bearer token] }
  | .msDeviceCodeInitiate _ => (· = .http { method := "POST", url := MSDeviceCode.deviceCodeUrl settings
                                            data := [("client_id", settings.msClientId), ("scope", settings.msGraphScopes)] })
  | .msDeviceCodePoll _ deviceCode => (· = .http (MSDeviceCode.pollRequest settings deviceCode))
  | .revokeXeroConnection _ => fun sent => ∃ token, sent = .http
      { method := "POST", url := XeroOAuth.revokeUrl, data := [("token", token)]
        auth := some (settings.xero.clientId, settings.xero.clientSecret) }
  | .recordDecision _ decision note => fun sent => ∃ approval, Deciding p decision note approval ∧
      sent = .http (Webhook.notification settings approval decision (Pages.cleanNote note))
  | .health => fun sent => sent = .ping ∨ sent = .http { method := "GET", url := discoveryUrl settings }
  | _ => fun _ => False

/-- The records that a route saves: a registration where nothing was, a decision over what was pending. -/
def Saves (p : Phase) (approval : ApprovalRequest) : Route → Prop
  | .registerApproval body => p.loaded = some (.ok none) ∧ ∃ now, approval = RegisterApproval.pending body now
  | .recordDecision _ decision note => ∃ found now result, Deciding p decision note found ∧
      approval = RecordDecision.resolved found decision (Pages.cleanNote note) "web_form" now result
  | _ => False

end Traffic

section Protocol
variable [Library] (settings : Settings) (proper : Json → Prop) (route : Route)

/-- The keys that a route watches. -/
def Watches (k : String) : Prop :=
  (∃ connectionId, route.connection = some connectionId ∧ k = refreshLockKey connectionId) ∨
    ∃ state, route.presented = some state ∧ k = OAuthStateStore.key state

/-- The connections whose token a route stores. -/
def Phase.owns (p : Phase) (connectionId : String) : Prop :=
  route.connection = some connectionId ∨ route.presented.isSome = true ∧ p.popped = some connectionId

def admits (p : Phase) : Op → Prop
  | .redis (.hgetall k) => (∃ connectionId, route.connection = some connectionId ∧ k = TokenStore.key connectionId) ∨
      p.loaded = none ∧ ∃ approvalId, route.approval = some approvalId ∧ k = ApprovalStore.key approvalId
  | .redis (.hset k mapping) =>
      (∃ connectionId token, p.owns route connectionId ∧ k = TokenStore.key connectionId ∧ mapping = TokenStore.toMapping token) ∨
      ∃ approval, Saves p approval route ∧ k = ApprovalStore.key approval.approvalId ∧ mapping = ApprovalStore.toMapping approval
  | .redis (.delHash k) => ∃ connectionId, route.connection = some connectionId ∧ k = TokenStore.key connectionId
  | .redis (.getJson k) => route.entry = some k
  | .redis (.setJson k value ttl) => route.entry = some k ∧ proper value ∧ ttl = settings.idempotencyTtlSeconds
  | .redis (.setNx k _ ttl) => ttl = lockTtlSeconds ∧
      ∃ connectionId, route.connection = some connectionId ∧ k = refreshLockKey connectionId
  | .redis (.set k value ttl) => route.issues = some value ∧ ttl = settings.oauthStateTtlSeconds ∧
      ∃ state, k = OAuthStateStore.key state
  | .redis (.watch k) => p.watched = none ∧ Watches route k
  | .redis (.get k) => p.watched = some (k, none)
  | .redis .unwatch => p.watched ≠ none
  | .redis (.execDel k) => ∃ value, p.watched = some (k, some value)
  | .outside sent => Local sent ∨ Traffic settings p route sent

/-- What a popped state was saved for. -/
def Phase.pops (p : Phase) (k : String) : Option String :=
  if route.presented.map OAuthStateStore.key = some k then p.watched.bind Prod.snd else p.popped

def advance (p : Phase) : (op : Op) → op.Answer → Phase
  | .redis (.watch k), _ => { p with watched := some (k, none) }
  | .redis (.get k), value => { p with watched := some (k, value) }
  | .redis .unwatch, _ => { p with watched := none }
  | .redis (.execDel k), true => { p with watched := none, popped := p.pops route k }
  | .redis (.execDel _), false => { p with watched := none }
  | .redis (.hgetall k), hash =>
    if route.approval.map ApprovalStore.key = some k then { p with loaded := some (ApprovalStore.decode hash) } else p
  | _, _ => p

/-- The bodies of the answers are JSON as it is read. -/
def expects : (op : Op) → op.Answer → Prop
  | .outside (.http _), .ok response => ∀ body, response.json = some body → proper body
  | _, _ => True

def conduct : Protocol Op Op.Answer Phase := ⟨admits settings proper route, fun _ => expects proper, advance route⟩

@[simp] theorem conduct_admits : (conduct settings proper route).admits = admits settings proper route := rfl

@[simp] theorem conduct_expects : (conduct settings proper route).expects p = expects proper := rfl

@[simp] theorem conduct_advance : (conduct settings proper route).advance = advance route := rfl

/-- What is read out of a proper value, and what is cached, is proper. -/
structure Closed : Prop where
  text (text : String) : proper (.str text)
  item : proper (.arr (element :: rest)) → proper element
  field : proper (.obj fields) → fields.lookup name = some value → proper value
  message : proper messageId → proper (MessageResult.mk messageId).cached
  invoice : proper invoiceId → proper status → proper (XeroInvoiceResult.mk invoiceId status).cached

end Protocol
end OpenClaw.Api
