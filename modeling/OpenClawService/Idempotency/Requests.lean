import OpenClawService.UseCases.Teams

/-! The five writing requests as one type: what each asks of its provider, what
it makes of the answer, and what it caches under its key. -/
namespace OpenClaw.Idempotency
variable [Library]

inductive Request where
  | createInvoice (connectionId : String) (invoice : XeroInvoice) (key : String)
  | submitInvoice (connectionId invoiceId key : String)
  | voidInvoice (connectionId invoiceId key : String)
  | sendMessage (connectionId : String) (message : TeamsMessage) (key : Option String)
  | sendApprovalCard (connectionId : String) (card : TeamsApprovalCard) (key : Option String)

inductive Result where
  | invoice (result : XeroInvoiceResult)
  | message (result : MessageResult)

/-- A call of a provider port, whose exceptions are those of its client. -/
def call (call : PortCall) : Async Json := do
  Async.ofExcept (← Async.outside (.port call))

def xeroPort : XeroClient where
  createInvoice connectionId payload := call (.createInvoice connectionId payload)
  updateInvoiceStatus connectionId invoiceId status := call (.updateInvoiceStatus connectionId invoiceId status)
  getInvoice connectionId invoiceId := call (.getInvoice connectionId invoiceId)
  listContacts connectionId search := call (.listContacts connectionId search)
  listAccounts connectionId status := call (.listAccounts connectionId status)
  listTaxRates connectionId status := call (.listTaxRates connectionId status)

def teamsPort : TeamsClient where
  sendMessage connectionId message := call (.sendMessage connectionId message)
  sendAdaptiveCard connectionId card := call (.sendAdaptiveCard connectionId card)

namespace Request

def execute (ttlSeconds : Nat) : Request → Async Result
  | .createInvoice connectionId invoice key =>
    .invoice <$> CreateXeroDraftInvoice.execute xeroPort ttlSeconds connectionId invoice key
  | .submitInvoice connectionId invoiceId key =>
    .invoice <$> SubmitXeroInvoice.execute xeroPort ttlSeconds connectionId invoiceId key
  | .voidInvoice connectionId invoiceId key =>
    .invoice <$> VoidXeroInvoice.execute xeroPort ttlSeconds connectionId invoiceId key
  | .sendMessage connectionId message key =>
    .message <$> SendTeamsMessage.execute teamsPort ttlSeconds connectionId message key
  | .sendApprovalCard connectionId card key =>
    .message <$> SendTeamsApprovalCard.execute teamsPort ttlSeconds connectionId card key

def operation : Request → String
  | .createInvoice .. => opCreateInvoice
  | .submitInvoice .. => opSubmitInvoice
  | .voidInvoice .. => opVoidInvoice
  | .sendMessage .. => opSendMessage
  | .sendApprovalCard .. => opSendApproval

/-- The caller's key; a Teams request may go without, and an empty one is none. -/
def key : Request → Option String
  | .createInvoice _ _ key | .submitInvoice _ _ key | .voidInvoice _ _ key => some key
  | .sendMessage _ _ key | .sendApprovalCard _ _ key => key.bind orNone

def idemKey (request : Request) : Option String := request.key.map (idempotencyKey request.operation)

/-- The write that the request stands for. -/
def write : Request → Except Exc PortCall
  | .createInvoice connectionId invoice _ => do
    return .createInvoice connectionId (.obj [("Invoices", .arr [← invoicePayload invoice])])
  | .submitInvoice connectionId invoiceId _ => .ok (.updateInvoiceStatus connectionId invoiceId "AUTHORISED")
  | .voidInvoice connectionId invoiceId _ => .ok (.updateInvoiceStatus connectionId invoiceId "VOIDED")
  | .sendMessage connectionId message _ => .ok (.sendMessage connectionId message)
  | .sendApprovalCard connectionId card _ => .ok (.sendAdaptiveCard connectionId card)

/-- The result that the code makes of the answer to the write. -/
def accept : Request → Json → Except Exc Result
  | .createInvoice .., response => .invoice <$> CreateXeroDraftInvoice.accepted response
  | .submitInvoice .., response | .voidInvoice .., response => .invoice <$> extractInvoiceResult response
  | .sendMessage .., response | .sendApprovalCard .., response =>
    (fun id => .message ⟨id⟩) <$> response.getItem "id"

/-- The result that the code makes of a cached entry. -/
def ofCached : Request → Json → Except Exc Result
  | .createInvoice .., cached | .submitInvoice .., cached | .voidInvoice .., cached =>
    .invoice <$> XeroInvoiceResult.ofCached cached
  | .sendMessage .., cached | .sendApprovalCard .., cached => .message <$> MessageResult.ofCached cached

end Request

omit [Library] in
def Result.cached : Result → Json
  | .invoice result => result.cached
  | .message result => result.cached

omit [Library] in
theorem Result.cached_truthy (result : Result) : result.cached.truthy = true := by
  cases result <;> rfl

omit [Library] in
/-- Texts before and after their first colon. -/
theorem colon_inj {operation other key key' : List Char} (left : ':' ∉ operation) (right : ':' ∉ other)
    (same : operation ++ ':' :: key = other ++ ':' :: key') : operation = other ∧ key = key' := by
  rcases List.append_eq_append_iff.mp same with ⟨rest, longer, tail⟩ | ⟨rest, longer, tail⟩
  · cases rest with
    | nil => exact ⟨by simpa using longer.symm, by simpa using tail⟩
    | cons c rest =>
      obtain rfl := (List.cons.inj tail).1
      exact (right (by simp [longer])).elim
  · cases rest with
    | nil => exact ⟨by simpa using longer, by simpa using tail.symm⟩
    | cons c rest =>
      obtain rfl := (List.cons.inj tail).1
      exact (left (by simp [longer])).elim

omit [Library] in
/-- The operations share no key of the store. -/
theorem idempotencyKey_inj (left : ':' ∉ operation.toList) (right : ':' ∉ other.toList)
    (same : idempotencyKey operation key = idempotencyKey other key') : operation = other ∧ key = key' := by
  have texts := congrArg String.toList same
  simp only [idempotencyKey, String.toList_append, List.append_assoc] at texts
  obtain ⟨operations, keys⟩ := colon_inj left right (List.append_cancel_left texts)
  exact ⟨String.toList_injective operations, String.toList_injective keys⟩

omit [Library] in
theorem Request.operation_plain (request : Request) : ':' ∉ request.operation.toList := by
  cases request <;> simp [Request.operation, opCreateInvoice, opSubmitInvoice, opVoidInvoice, opSendMessage, opSendApproval]

/-- What a request has made of an answer is what it reads back from the cache. -/
theorem Request.ofCached_cached {request : Request} (accepted : request.accept response = .ok result) :
    request.ofCached result.cached = .ok result := by
  cases request with
  | createInvoice | submitInvoice | voidInvoice =>
    obtain ⟨made, _, rfl⟩ := map_ok accepted
    rfl
  | sendMessage | sendApprovalCard =>
    obtain ⟨id, _, rfl⟩ := map_ok accepted
    rfl

/-- The assembled payload passes its own check. -/
theorem invoicePayload_ok (invoice : XeroInvoice) : ∃ payload, invoicePayload invoice = .ok payload := ⟨_, rfl⟩

theorem Request.write_ok (request : Request) : ∃ call, request.write = .ok call ∧ call.writes = true := by
  cases request with
  | createInvoice connectionId invoice key =>
    obtain ⟨payload, assembled⟩ := invoicePayload_ok invoice
    exact ⟨_, by rw [Request.write, assembled]; rfl, rfl⟩
  | _ => exact ⟨_, rfl, rfl⟩

end OpenClaw.Idempotency
