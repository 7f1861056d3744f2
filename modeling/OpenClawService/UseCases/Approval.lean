import OpenClawService.Adapters.Webhook

/-! The approval flow: an approval is registered, looked up, and resolved by a
human decision that is announced to the agent before it is saved. -/
namespace OpenClaw
variable [Library]

/-- The arguments of a registration. -/
structure Registration where
  approvalId : String
  invoiceCaseId : String
  pdfPath : String
  invoiceNumber : String
  supplierName : String
  approveUrl : String
  rejectUrl : String
  deriving DecidableEq

namespace RegisterApproval

/-- The fields that make a retry identical. -/
def identical (existing : ApprovalRequest) (request : Registration) : Bool :=
  existing.invoiceCaseId == request.invoiceCaseId &&
    existing.invoiceNumber == request.invoiceNumber && existing.supplierName == request.supplierName

def pending (request : Registration) (now : Int) : ApprovalRequest where
  approvalId := request.approvalId
  invoiceCaseId := request.invoiceCaseId
  pdfPath := request.pdfPath
  invoiceNumber := request.invoiceNumber
  supplierName := request.supplierName
  approveUrl := request.approveUrl
  rejectUrl := request.rejectUrl
  status := "pending"
  createdAt := now

def execute (request : Registration) : Async ApprovalRequest := do
  match ← ApprovalStore.load request.approvalId with
  | some existing =>
    if identical existing request then return existing
    else throw (.duplicateApprovalError ("An approval with approvalId=" ++
      Library.repr request.approvalId ++ " already exists with a different payload."))
  | none => do
    let approval := pending request (← Async.outside .now)
    ApprovalStore.save approval
    return approval

end RegisterApproval

def approvalMissing (approvalId : String) : Exc :=
  .approvalNotFoundError ("No approval found for approvalId=" ++ Library.repr approvalId)

def GetApproval.execute (approvalId : String) : Async ApprovalRequest := do
  match ← ApprovalStore.load approvalId with
  | none => throw (approvalMissing approvalId)
  | some approval => return approval

namespace RecordDecision

def decisions : List String := ["approved", "needs_changes", "rejected"]

/-- The checks that come before anything is announced. -/
def check (decision : String) (note : Option String) : Except Exc Unit :=
  if decision ∉ decisions then
    .error (.invalidDecisionError ("Invalid decision " ++ Library.repr decision ++
      ". Must be 'approved', 'needs_changes', or 'rejected'."))
  else if decision = "needs_changes" ∧ ((note.bind orNone).map strip).bind orNone = none then
    .error (.invalidDecisionError "A note is required when decision is 'needs_changes'.")
  else .ok ()

omit [Library] in
def resolved (approval : ApprovalRequest) (decision : String) (note : Option String)
    (decisionSource : String) (now : Int) (webhookResult : String) : ApprovalRequest :=
  { approval with
    status := "resolved"
    decision := some decision
    note := (note.bind orNone).map strip
    decidedAt := some now
    decisionSource := some decisionSource
    webhookSentAt := some now
    webhookResult := some webhookResult }

def execute (settings : Settings) (approvalId decision : String) (note : Option String)
    (decisionSource : String) : Async ApprovalRequest := do
  match ← ApprovalStore.load approvalId with
  | none => throw (approvalMissing approvalId)
  | some approval =>
    if approval.status ≠ "pending" then return approval
    else do
      Async.ofExcept (check decision note)
      let now ← Async.outside .now
      let webhookResult ← Webhook.notifyDecision settings approval decision note
      let updated := resolved approval decision note decisionSource now webhookResult
      ApprovalStore.save updated
      return updated

end RecordDecision
end OpenClaw
