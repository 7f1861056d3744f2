import OpenClawService.Adapters.Envelopes
import OpenClawService.Adapters.Pages
import OpenClawService.UseCases.OAuth
import OpenClawService.UseCases.Teams

/-! The API as its callers meet it: the routes with the parts of a request that
they read, the key that guards most of them, the checks before a use case is
asked, and the answer to its result or its exception. -/
namespace OpenClaw.Api

inductive Route where
  | sendMessage (connectionId : String) (message : TeamsMessage) (idempotencyKey : Option String)
  | sendApproval (connectionId : String) (card : TeamsApprovalCard) (idempotencyKey : Option String)
  | createInvoice (connectionId : String) (invoice : XeroInvoice) (idempotencyKey : Option String)
  | getInvoice (invoiceId connectionId : String)
  | submitInvoice (invoiceId connectionId : String) (idempotencyKey : Option String)
  | voidInvoice (invoiceId connectionId : String) (idempotencyKey : Option String)
  | listContacts (connectionId : String) (search : Option String)
  | listAccounts (connectionId : String) (status : Option String)
  | listTaxRates (connectionId : String) (status : Option String)
  | xeroAuthorize (connectionId : String)
  | xeroCallback (code state : String)
  | msDeviceCodeInitiate (connectionId : String)
  | msDeviceCodePoll (connectionId deviceCode : String)
  | getConnectionStatus (connectionId : String)
  | revokeXeroConnection (connectionId : String)
  | revokeMsConnection (connectionId : String)
  | registerApproval (body : Registration)
  | showApprovePage (approvalId : String)
  | showRejectPage (approvalId : String)
  | recordDecision (approvalId decision : String) (note : Option String)
  | health

/-- A request, with the two headers that are read for every route. -/
structure Inbound where
  requestId : Option String
  authorization : Option String
  route : Route

structure AppSettings extends Settings where
  internalApiKey : String

inductive Body where
  | json (value : Json)
  | page (page : Pages.Page)
  | text (value : String)
  | empty

structure Reply where
  statusCode : Nat
  body : Body

/-- A reply with the `X-Request-ID` header, if it has one. -/
structure Response extends Reply where
  requestId : Option String

/-- What FastAPI does for a request: the credentials that `HTTPBearer` reads in a header, what
pydantic says of a form without its field and of a text or a list that is too short, and the
float that it takes a value for. -/
class FastApi where
  credentials : String → Option String
  missing : String
  stringTooShort : String
  listTooShort : String
  float : Json → Option Json

/-- A small installation to run examples with. -/
def AppSettings.sample : AppSettings := { Settings.sample with internalApiKey := "key" }

@[reducible] def FastApi.sample : FastApi where
  credentials header := if "Bearer ".toList <+: header.toList then some (String.ofList (header.toList.drop 7)) else none
  missing := "Field required"
  stringTooShort := "String should have at least 1 character"
  listTooShort := "List should have at least 1 item after validation, not 0"
  float
    | .num mantissa exponent => some (.num mantissa exponent)
    | _ => none

/-! The API key. -/

def verifyApiKey [FastApi] (settings : AppSettings) (authorization : Option String) : Bool :=
  authorization.bind FastApi.credentials == some settings.internalApiKey

/-- The routes whose router or decorator asks for the key. -/
def Route.guarded : Route → Bool
  | .xeroCallback .. | .showApprovePage _ | .showRejectPage _ | .recordDecision .. | .health => false
  | _ => true

/-! Errors. -/

/-- `_STATUS_TO_ERROR`. -/
def statusToError : List (Nat × String) :=
  [(400, "bad_request"), (401, "unauthorized"), (403, "forbidden"), (404, "not_found"), (405, "method_not_allowed"),
    (409, "conflict"), (422, "validation_error"), (429, "too_many_requests"), (500, "internal_error"),
    (502, "bad_gateway"), (503, "service_unavailable")]

def httpException (statusCode : Nat) (detail : String) : Reply :=
  ⟨statusCode, .json (errorBody ((statusToError.lookup statusCode).getD "http_error") detail)⟩

/-- The message of the first field that is refused, once the body has the fields and types
of its model. An empty field of a form counts as missing. -/
def validation [FastApi] : Route → Option String
  | .createInvoice _ invoice _ => if invoice.lineItems = [] then some FastApi.listTooShort else none
  | .registerApproval body => if Pages.accepts body then none else some FastApi.stringTooShort
  | .recordDecision _ decision _ => if decision = "" then some FastApi.missing else none
  | _ => none

/-! Response models. FastApi's error is a `ValueError` whose text nobody reads. -/

/-- A `str` field takes a string only. -/
def textField : Json → Except Exc Json
  | .str text => .ok (.str text)
  | _ => .error (.valueError "string_type")

def optionalField (field : Json → Except Exc Json) : Json → Except Exc Json
  | .null => .ok .null
  | value => field value

def floatField [FastApi] (value : Json) : Except Exc Json :=
  match FastApi.float value with
  | some float => .ok float
  | none => .error (.valueError "float_type")

def invoiceResponse (result : XeroInvoiceResult) : Except Exc Json := do
  return .obj [("invoice_id", ← textField result.invoiceId), ("status", ← textField result.status)]

def messageResponse (result : MessageResult) : Except Exc Json := do
  return .obj [("message_id", ← textField result.messageId)]

def contactResponse (result : XeroContactResult) : Except Exc Json := do
  return .obj [("contact_id", ← textField result.contactId), ("name", ← textField result.name),
    ("email", ← optionalField textField result.email)]

def accountResponse (result : XeroAccountResult) : Except Exc Json := do
  return .obj [("account_id", ← textField result.accountId), ("code", ← textField result.code),
    ("name", ← textField result.name), ("type", ← textField result.type), ("status", ← textField result.status)]

def taxRateResponse [FastApi] (result : XeroTaxRateResult) : Except Exc Json := do
  return .obj [("name", ← textField result.name), ("tax_type", ← textField result.taxType),
    ("status", ← textField result.status), ("effective_rate", ← optionalField floatField result.effectiveRate)]

def listResponse (name : String) (response : α → Except Exc Json) (results : List α) : Except Exc Json := do
  return .obj [(name, .arr (← results.mapM response))]

def deviceCodeInitiateResponse (connectionId : String) (result : DeviceCodeResult) : Except Exc Json := do
  return .obj [("connection_id", .str connectionId), ("device_code", ← textField result.deviceCode),
    ("user_code", ← textField result.userCode), ("verification_uri", ← textField result.verificationUri),
    ("expires_in", .num result.expiresIn 0), ("interval", .num result.interval 0), ("message", ← textField result.message)]

/-- The body of `DeviceCodePollResponse` and of `ConnectionStatusResponse`. -/
def connectionResponse (connectionId status : String) : Json :=
  .obj [("connection_id", .str connectionId), ("status", .str status)]

def callbackBody (connectionId : String) : Json :=
  .obj [("status", .str "ok"), ("connection_id", .str connectionId),
    ("detail", .str "Xero authorization complete. Token stored.")]

section Handlers
variable [Library]

def approvalRegisteredResponse (approval : ApprovalRequest) : Json :=
  .obj [("approvalId", .str approval.approvalId), ("status", .str approval.status),
    ("invoiceCaseId", .str approval.invoiceCaseId), ("invoiceNumber", .str approval.invoiceNumber),
    ("supplierName", .str approval.supplierName), ("createdAt", .str (Library.isoformat approval.createdAt))]

/-! The routes. -/

/-- A result in its response model. -/
def modelled (statusCode : Nat) (response : α → Except Exc Json) (program : Async α) : Async Reply := do
  return ⟨statusCode, .json (← Async.ofExcept (response (← program)))⟩

/-- `if not idempotency_key: raise HTTPException(status_code=400, ...)`. -/
def keyed (idempotencyKey : Option String) (purpose : String) (program : String → Async Reply) : Async Reply :=
  match idempotencyKey.bind orNone with
  | none => pure (httpException 400 ("Idempotency-Key header is required for invoice " ++ purpose ++ "."))
  | some key => program key

/-- The page with its status; a page without one is a success. -/
def paged (program : Async Pages.Page) : Async Reply := do
  match ← program with
  | .failed message statusCode => return ⟨statusCode, .page (.failed message statusCode)⟩
  | page => return ⟨200, .page page⟩

def pollReply (settings : Settings) (connectionId deviceCode : String) : Async Reply :=
  tryCatch (do
    let connectionId ← PollMSDeviceCodeFlow.execute settings connectionId deviceCode
    return ⟨200, .json (connectionResponse connectionId "authorized")⟩) fun exc =>
    match pollStatus exc with
    | some status => return ⟨200, .json (connectionResponse connectionId status)⟩
    | none => throw exc

def registerReply (body : Registration) : Async Reply :=
  tryCatch (do
    let approval ← RegisterApproval.execute body
    return ⟨201, .json (approvalRegisteredResponse approval)⟩) fun
    | .duplicateApprovalError text => return httpException 409 text
    | exc => throw exc

omit [Library] in
def discoveryUrl (settings : Settings) : String :=
  "https://login.microsoftonline.com/" ++ settings.msTenantId ++ "/v2.0/.well-known/openid-configuration"

omit [Library] in
/-- Neither probe raises; together they are a status that is always answered with 200. -/
def healthReply (settings : Settings) : Async Reply := do
  let redis := match ← Async.outside .ping with
    | .ok () => "ok"
    | .error _ => "error"
  let msGraph := match ← Async.outside (.http { method := "GET", url := discoveryUrl settings }) with
    | .ok response => if response.statusCode = 200 then "ok" else "error"
    | .error _ => "error"
  let overall := if redis = "error" ∨ msGraph = "error" then "degraded" else "ok"
  return ⟨200, .json (.obj [("status", .str overall), ("redis", .str redis), ("ms_graph", .str msGraph)])⟩

variable [FastApi]

def handle (settings : Settings) : Route → Async Reply
  | .sendMessage connectionId message key => modelled 200 messageResponse
      (SendTeamsMessage.execute (MSGraph.client settings) settings.idempotencyTtlSeconds connectionId message key)
  | .sendApproval connectionId card key => modelled 200 messageResponse
      (SendTeamsApprovalCard.execute (MSGraph.client settings) settings.idempotencyTtlSeconds connectionId card key)
  | .createInvoice connectionId invoice key => keyed key "creation" fun key => modelled 201 invoiceResponse
      (CreateXeroDraftInvoice.execute (XeroHttp.client settings) settings.idempotencyTtlSeconds connectionId invoice key)
  | .getInvoice invoiceId connectionId => modelled 200 invoiceResponse
      (GetXeroInvoice.execute (XeroHttp.client settings) connectionId invoiceId)
  | .submitInvoice invoiceId connectionId key => keyed key "submission" fun key => modelled 200 invoiceResponse
      (SubmitXeroInvoice.execute (XeroHttp.client settings) settings.idempotencyTtlSeconds connectionId invoiceId key)
  | .voidInvoice invoiceId connectionId key => keyed key "voiding" fun key => modelled 200 invoiceResponse
      (VoidXeroInvoice.execute (XeroHttp.client settings) settings.idempotencyTtlSeconds connectionId invoiceId key)
  | .listContacts connectionId search => modelled 200 (listResponse "contacts" contactResponse)
      (ListXeroContacts.execute (XeroHttp.client settings) connectionId search)
  | .listAccounts connectionId status => modelled 200 (listResponse "accounts" accountResponse)
      (ListXeroAccounts.execute (XeroHttp.client settings) connectionId status)
  | .listTaxRates connectionId status => modelled 200 (listResponse "tax_rates" taxRateResponse)
      (ListXeroTaxRates.execute (XeroHttp.client settings) connectionId status)
  | .xeroAuthorize connectionId => modelled 200 (fun (result : AuthUrlResult) =>
        .ok (.obj [("authorization_url", .str result.authorizationUrl), ("state", .str result.state)]))
      (BuildXeroAuthorizationUrl.execute settings connectionId)
  | .xeroCallback code state => modelled 200 (fun connectionId => .ok (callbackBody connectionId))
      (HandleXeroOAuthCallback.execute settings code state)
  | .msDeviceCodeInitiate connectionId => modelled 200 (deviceCodeInitiateResponse connectionId)
      (InitiateMSDeviceCodeFlow.execute settings)
  | .msDeviceCodePoll connectionId deviceCode => pollReply settings connectionId deviceCode
  | .getConnectionStatus connectionId => modelled 200
      (fun (result : ConnectionStatus) => .ok (connectionResponse connectionId result.status))
      (GetConnectionStatus.execute settings connectionId)
  | .revokeXeroConnection connectionId =>
    (fun _ => ⟨204, .empty⟩) <$> RevokeConnection.execute (some (XeroOAuth.revokeToken settings)) connectionId
  | .revokeMsConnection connectionId => (fun _ => ⟨204, .empty⟩) <$> RevokeConnection.execute none connectionId
  | .registerApproval body => registerReply body
  | .showApprovePage approvalId => paged (Pages.renderDecisionPage approvalId "approve")
  | .showRejectPage approvalId => paged (Pages.renderDecisionPage approvalId "reject")
  | .recordDecision approvalId decision note => paged (Pages.recordDecision settings approvalId decision note)
  | .health => healthReply settings

/-- The key is asked for first, then the body is checked. -/
def admitted (settings : AppSettings) (inbound : Inbound) : Except Reply Route :=
  if inbound.route.guarded && !verifyApiKey settings inbound.authorization then
    .error (httpException 401 "Missing or invalid API key")
  else match validation inbound.route with
    | some detail => .error (httpException 422 detail)
    | none => .ok inbound.route

def answer (settings : AppSettings) (inbound : Inbound) : Async Reply :=
  match admitted settings inbound with
  | .error reply => pure reply
  | .ok route => handle settings.toSettings route

omit [Library] [FastApi] in
/-- An exception without a handler passes the middleware, and the server answers without its header. -/
def finish (requestId : String) : Except Exc Reply → Response
  | .ok reply => ⟨reply, some requestId⟩
  | .error exc => match envelope exc with
    | some (statusCode, body) => ⟨⟨statusCode, .json body⟩, some requestId⟩
    | none => ⟨⟨500, .text "Internal Server Error"⟩, none⟩

/-- `request.headers.get("X-Request-ID") or str(uuid.uuid4())`, then the route. -/
def respond (settings : AppSettings) (inbound : Inbound) : Async Response := do
  let requestId ← match inbound.requestId.bind orNone with
    | some given => pure given
    | none => Async.outside .uuid4
  return finish requestId (← Async.outcome (answer settings inbound))

end Handlers
end OpenClaw.Api
