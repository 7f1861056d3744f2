import OpenClawService.Python

/-! The immutable value objects of the core: tokens, approvals, invoices,
Teams messages, and the results of the use cases. Dates and decimals are kept
as the text that the payloads carry. -/
namespace OpenClaw

structure TokenSet where
  accessToken : String
  expiresAt : Int
  tokenType : String := "Bearer"
  refreshToken : Option String := none
  scope : Option String := none
  xeroTenantId : Option String := none
  deriving DecidableEq

/-- `expires_at <= now + timedelta(seconds=buffer_seconds)`, at a reading of the clock. -/
def TokenSet.expiredOrNear (token : TokenSet) (bufferSeconds now : Int) : Bool :=
  decide (token.expiresAt ≤ now + bufferSeconds * 1000000)

structure ApprovalRequest where
  approvalId : String
  invoiceCaseId : String
  pdfPath : String
  invoiceNumber : String
  supplierName : String
  approveUrl : String
  rejectUrl : String
  status : String
  createdAt : Int
  decision : Option String := none
  note : Option String := none
  decidedAt : Option Int := none
  decisionSource : Option String := none
  webhookSentAt : Option Int := none
  webhookResult : Option String := none
  deriving DecidableEq

structure XeroLineItem where
  description : String
  quantity : String
  unitAmount : String
  accountCode : String
  taxType : Option String := none
  deriving DecidableEq

structure XeroInvoice where
  contactId : String
  lineItems : List XeroLineItem
  dueDate : String
  currencyCode : String
  reference : Option String := none
  deriving DecidableEq

structure TeamsMessage where
  teamId : String
  channelId : String
  bodyContent : String
  contentType : String := "html"
  deriving DecidableEq

structure TeamsApprovalCard where
  teamId : String
  channelId : String
  title : String
  description : String
  approveUrl : String
  rejectUrl : String
  metadata : List (String × String) := []
  deriving DecidableEq

structure MessageResult where
  messageId : Json

structure XeroInvoiceResult where
  invoiceId : Json
  status : Json

structure XeroContactResult where
  contactId : Json
  name : Json
  email : Json

structure XeroAccountResult where
  accountId : Json
  code : Json
  name : Json
  type : Json
  status : Json

structure XeroTaxRateResult where
  name : Json
  taxType : Json
  status : Json
  effectiveRate : Json

structure AuthUrlResult where
  authorizationUrl : String
  state : String
  deriving DecidableEq

structure ConnectionStatus where
  status : String
  deriving DecidableEq

structure DeviceCodeResult where
  deviceCode : Json
  userCode : Json
  verificationUri : Json
  expiresIn : Int
  interval : Int
  message : Json

structure HttpRequest where
  method : String
  url : String
  headers : List (String × String) := []
  json : Option Json := none
  data : List (String × String) := []
  params : List (String × String) := []
  auth : Option (String × String) := none

/-- `json` is `none` when `response.json()` fails. -/
structure HttpResponse where
  statusCode : Nat
  text : String
  json : Option Json

def HttpResponse.isSuccess (response : HttpResponse) : Bool :=
  decide (200 ≤ response.statusCode ∧ response.statusCode ≤ 299)

/-- The configuration that the use cases and adapters read. -/
structure Settings where
  msTenantId : String
  msClientId : String
  msGraphScopes : String
  xero : Session
  refreshBufferSeconds : Int
  oauthStateTtlSeconds : Nat
  idempotencyTtlSeconds : Nat
  openclawWebhookUrl : String
  hookToken : String

/-- A small installation to run examples with. -/
def Settings.sample : Settings where
  msTenantId := "tenant"
  msClientId := "ms-client"
  msGraphScopes := "offline_access"
  xero := ⟨"xero-client", "secret", "offline_access", "https://example.test/callback"⟩
  refreshBufferSeconds := 0
  oauthStateTtlSeconds := 600
  idempotencyTtlSeconds := 86400
  openclawWebhookUrl := "http://localhost:18789"
  hookToken := "hook"

/-- A call of a provider port that a use case holds only by its interface. -/
inductive PortCall where
  | createInvoice (connectionId : String) (payload : Json)
  | updateInvoiceStatus (connectionId invoiceId status : String)
  | getInvoice (connectionId invoiceId : String)
  | listContacts (connectionId : String) (search : Option String)
  | listAccounts (connectionId : String) (status : Option String)
  | listTaxRates (connectionId : String) (status : Option String)
  | sendMessage (connectionId : String) (message : TeamsMessage)
  | sendAdaptiveCard (connectionId : String) (card : TeamsApprovalCard)

/-- The calls that change something at the provider. -/
def PortCall.writes : PortCall → Bool
  | .createInvoice .. | .updateInvoiceStatus .. | .sendMessage .. | .sendAdaptiveCard .. => true
  | _ => false

end OpenClaw
