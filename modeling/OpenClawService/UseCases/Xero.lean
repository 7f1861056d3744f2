import OpenClawService.Adapters.Xero

/-! The invoice use cases over the Xero port. A write is skipped when a result
is cached under its idempotency key; a creation also asks Xero whether the
cached invoice still stands. -/
namespace OpenClaw
variable [Library]

def opCreateInvoice := "create_xero_invoice"
def opSubmitInvoice := "submit_xero_invoice"
def opVoidInvoice := "void_xero_invoice"

def idempotencyKey (operation key : String) : String := "idempotency:" ++ operation ++ ":" ++ key

def invalidInvoiceStatuses : List String := ["DELETED", "VOIDED"]

def invoiceType := "ACCPAY"

def lineItemPayload (item : XeroLineItem) : Json :=
  .obj ([("Description", .str item.description), ("Quantity", .str item.quantity),
      ("UnitAmount", .str item.unitAmount), ("AccountCode", .str item.accountCode)] ++
    match item.taxType.bind orNone with
    | some taxType => [("TaxType", .str taxType)]
    | none => [])

/-- The assembled body, whose type is then checked once more. -/
def invoicePayload (invoice : XeroInvoice) : Except Exc Json := do
  let payload : Json := .obj ([("Type", .str invoiceType),
      ("Contact", .obj [("ContactID", .str invoice.contactId)]), ("DueDate", .str invoice.dueDate),
      ("CurrencyCode", .str invoice.currencyCode), ("Status", .str "DRAFT")] ++
    (match invoice.reference.bind orNone with
      | some reference => [("Reference", .str reference)]
      | none => []) ++
    [("LineItems", .arr (invoice.lineItems.map lineItemPayload))])
  let type ← payload.getItem "Type"
  if type.isText invoiceType then return payload
  else throw (.valueError ("Invoice payload type must be " ++ Library.repr invoiceType ++ ", got " ++
    Library.reprValue type ++
    ". ACCREC (Sales invoices) must never be created through this service."))

/-- `response["Invoices"][0]`. -/
def firstInvoice (response : Json) : Except Exc Json := do
  (← response.getItem "Invoices").head

def extractInvoiceResult (response : Json) : Except Exc XeroInvoiceResult := do
  let inv ← firstInvoice response
  return ⟨← inv.getItem "InvoiceID", ← inv.getItem "Status"⟩

/-- The result as it is cached, and the result read back from the cache. -/
def XeroInvoiceResult.cached (result : XeroInvoiceResult) : Json :=
  .obj [("invoice_id", result.invoiceId), ("status", result.status)]

def XeroInvoiceResult.ofCached (cached : Json) : Except Exc XeroInvoiceResult := do
  return ⟨← cached.getItem "invoice_id", ← cached.getItem "status"⟩

/-- `if cached:`, which takes an empty entry for an absent one. -/
def IdempotencyStore.hit (key : String) : Async (Option Json) := do
  return (← get key).filter Json.truthy

namespace CreateXeroDraftInvoice

/-- The status at Xero, or `None` when the client reports the provider unavailable. -/
def liveStatus (client : XeroClient) (connectionId : String) (invoiceId : Json) : Async Json :=
  tryCatch (do
    let verification ← client.getInvoice connectionId (Library.str invoiceId)
    Async.ofExcept (firstInvoice verification >>= Json.getItem "Status"))
    fun
      | .providerUnavailableError _ => return .null
      | error => throw error

/-- `live_status is not None and live_status not in _INVALID_INVOICE_STATUSES`. -/
def stands : Json → Except Exc Bool
  | .null => .ok false
  | status => do return !(← status.memberOf invalidInvoiceStatuses)

/-- The cached result, if the invoice it names still stands. -/
def replay (client : XeroClient) (connectionId : String) (cached : Json) :
    Async (Option XeroInvoiceResult) := do
  let invoiceId ← Async.ofExcept (cached.getItem "invoice_id")
  let status ← liveStatus client connectionId invoiceId
  if ← Async.ofExcept (stands status) then
    return some ⟨invoiceId, ← Async.ofExcept (cached.getItem "status")⟩
  else return none

/-- A returned type other than ACCPAY is refused after the invoice exists. -/
def accepted (response : Json) : Except Exc XeroInvoiceResult := do
  let result ← extractInvoiceResult response
  let returnedType ← (← firstInvoice response).get "Type" .null
  if returnedType.isText invoiceType then return result
  else throw (.providerUnavailableError ("Xero created invoice with type " ++
    Library.reprValue returnedType ++ " instead of " ++ Library.repr invoiceType ++
    ". Manual review required — invoice_id=" ++ Library.str result.invoiceId))

def create (client : XeroClient) (ttlSeconds : Nat) (connectionId : String) (invoice : XeroInvoice)
    (key : String) : Async XeroInvoiceResult := do
  let payload ← Async.ofExcept (invoicePayload invoice)
  let response ← client.createInvoice connectionId (.obj [("Invoices", .arr [payload])])
  let result ← Async.ofExcept (accepted response)
  IdempotencyStore.set key result.cached ttlSeconds
  return result

def execute (client : XeroClient) (ttlSeconds : Nat) (connectionId : String) (invoice : XeroInvoice)
    (key : String) : Async XeroInvoiceResult := do
  let idemKey := idempotencyKey opCreateInvoice key
  match ← IdempotencyStore.hit idemKey with
  | some cached => do
    match ← replay client connectionId cached with
    | some result => return result
    | none => create client ttlSeconds connectionId invoice idemKey
  | none => create client ttlSeconds connectionId invoice idemKey

end CreateXeroDraftInvoice

/-- The two status transitions differ in their operation name and target status. -/
def transition (operation status : String) (client : XeroClient) (ttlSeconds : Nat)
    (connectionId invoiceId key : String) : Async XeroInvoiceResult := do
  let idemKey := idempotencyKey operation key
  match ← IdempotencyStore.hit idemKey with
  | some cached => Async.ofExcept (XeroInvoiceResult.ofCached cached)
  | none => do
    let response ← client.updateInvoiceStatus connectionId invoiceId status
    let result ← Async.ofExcept (extractInvoiceResult response)
    IdempotencyStore.set idemKey result.cached ttlSeconds
    return result

/-- Xero's name for a submitted invoice is AUTHORISED. -/
def SubmitXeroInvoice.execute := transition opSubmitInvoice "AUTHORISED"

def VoidXeroInvoice.execute := transition opVoidInvoice "VOIDED"

def GetXeroInvoice.execute (client : XeroClient) (connectionId invoiceId : String) :
    Async XeroInvoiceResult := do
  Async.ofExcept (extractInvoiceResult (← client.getInvoice connectionId invoiceId))

/-- The records that a list response carries under `key`, each one converted. -/
def listed (key : String) (convert : Json → Except Exc α) (response : Json) : Except Exc (List α) := do
  (← (← response.get key (.arr [])).elements).mapM convert

def ListXeroContacts.execute (client : XeroClient) (connectionId : String) (search : Option String) :
    Async (List XeroContactResult) := do
  let response ← client.listContacts connectionId search
  Async.ofExcept (listed "Contacts" (fun c => do
    let email ← c.get "EmailAddress" .null
    return ⟨← c.getItem "ContactID", ← c.get "Name" (.str ""), if email.truthy then email else .null⟩)
    response)

def ListXeroAccounts.execute (client : XeroClient) (connectionId : String) (status : Option String) :
    Async (List XeroAccountResult) := do
  let response ← client.listAccounts connectionId status
  Async.ofExcept (listed "Accounts" (fun a => do
    return ⟨← a.getItem "AccountID", ← a.get "Code" (.str ""), ← a.get "Name" (.str ""),
      ← a.get "Type" (.str ""), ← a.get "Status" (.str "")⟩) response)

def ListXeroTaxRates.execute (client : XeroClient) (connectionId : String) (status : Option String) :
    Async (List XeroTaxRateResult) := do
  let response ← client.listTaxRates connectionId status
  Async.ofExcept (listed "TaxRates" (fun t => do
    return ⟨← t.get "Name" (.str ""), ← t.get "TaxType" (.str ""), ← t.get "Status" (.str ""),
      ← t.get "EffectiveRate" .null⟩) response)

end OpenClaw
