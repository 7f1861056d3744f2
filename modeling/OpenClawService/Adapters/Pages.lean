import OpenClawService.UseCases.Approval
import OpenClawService.Text.Markup
import OpenClawService.Text.Url

/-! The approval routes: what a registration must carry, the pages that a browser
is shown, and the form that it sends back. -/
namespace OpenClaw.Pages
variable [Library]

omit [Library] in
/-- `Field(min_length=1)` on every field of the body. -/
def accepts (body : Registration) : Bool :=
  [body.approvalId, body.invoiceCaseId, body.pdfPath, body.invoiceNumber, body.supplierName, body.approveUrl,
    body.rejectUrl].all (· != "")

inductive Page where
  | confirm (approval : ApprovalRequest) (action : String)
  | decided (approval : ApprovalRequest) (justDecided : Bool)
  | failed (message : String) (statusCode : Nat)

/-- An approval that is no longer pending is shown with its final status. -/
def renderDecisionPage (approvalId action : String) : Async Page := do
  let found ← tryCatch (some <$> GetApproval.execute approvalId) fun
    | .approvalNotFoundError _ => return none
    | error => throw error
  match found with
  | none => return .failed "Approval request not found." 404
  | some approval =>
    if approval.status ≠ "pending" then return .decided approval false else return .confirm approval action

omit [Library] in
/-- `note.strip() if note else None`. -/
def cleanNote (note : Option String) : Option String := (note.bind orNone).map strip

omit [Library] in
/-- The checks of the form, before the use case is asked. -/
def formError (decision : String) (note : Option String) : Option String :=
  if decision ∉ RecordDecision.decisions then some "Invalid decision value."
  else if decision = "needs_changes" ∧ (cleanNote note).bind orNone = none then
    some "A note is required when requesting changes."
  else none

def recordDecision (settings : Settings) (approvalId decision : String) (note : Option String) : Async Page := do
  match formError decision note with
  | some message => return .failed message 400
  | none => tryCatch (do
      return .decided (← RecordDecision.execute settings approvalId decision (cleanNote note) "web_form") true) fun
    | .approvalNotFoundError _ => return .failed "Approval request not found." 404
    | .invalidDecisionError text => return .failed text 400
    | error => throw error

omit [Library]

/-- The opening tag of the decision form. The template writes the id as escaped text. -/
def formTag (approval : ApprovalRequest) (action : String) : String :=
  "<form method=\"POST\" action=\"/approvals/" ++
  String.ofList (Text.escapeMarkup approval.approvalId.toList) ++ "/decision\"" ++
  if action = "approve" then ">" else "\n            id=\"reject-form\" novalidate>"

/-- The action of a form, which is the second attribute of its tag. -/
def formAction (tag : String) : String :=
  String.ofList (Text.unescapeMarkup 0 ((tag.toList.splitOn '"').getD 3 []))

/-- The parameter of a public route: the one segment before the last of three. -/
def routeParameter (last : String) (target : String) : Option String :=
  match Text.requestPath target.toList with
  | [[], approvals, parameter, path] =>
    if approvals = "approvals".toList ∧ path = last.toList ∧ parameter ≠ [] then some (String.ofList parameter) else none
  | _ => none

end OpenClaw.Pages
