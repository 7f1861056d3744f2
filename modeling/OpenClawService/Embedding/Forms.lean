import OpenClawService.Adapters.Pages
import OpenClawService.Interleaving.Trace
import Mathlib.Data.Set.Insert

/-! The way from a confirmation page back to its approval. The form's action names
the approval by its id, which the server reads back when the id is a plain segment. -/
namespace OpenClaw.Embedding
open Text Pages Interleaving

/-- The action that a form states. -/
def decisionPath (approvalId : String) : List (List Char) :=
  [[], "approvals".toList, approvalId.toList, "decision".toList]

/-- The template's escaping is undone when the page is read. -/
theorem formAction_formTag (approval : ApprovalRequest) (action : String) :
    (formAction (formTag approval action)).toList = ['/'].intercalate (decisionPath approval.approvalId) := by
  have value : escapeMarkup (['/'].intercalate (decisionPath approval.approvalId)) =
      "/approvals/".toList ++ escapeMarkup approval.approvalId.toList ++ "/decision".toList := by
    have written : ['/'].intercalate (decisionPath approval.approvalId) =
        "/approvals/".toList ++ approval.approvalId.toList ++ "/decision".toList := by
      simp [decisionPath]
    have before : escapeMarkup "/approvals/".toList = "/approvals/".toList := by decide
    have after : escapeMarkup "/decision".toList = "/decision".toList := by decide
    rw [written, escapeMarkup_append, escapeMarkup_append, before, after]
  have opening : "<form method=\"POST\" action=\"/approvals/".toList =
      "<form method=".toList ++ '"' :: ("POST".toList ++ '"' :: (" action=".toList ++ '"' :: "/approvals/".toList)) := by decide
  have closing : "/decision\"".toList = "/decision".toList ++ ['"'] := by decide
  obtain ⟨rest, tag⟩ : ∃ rest, (formTag approval action).toList = "<form method=".toList ++ '"' :: ("POST".toList ++ '"' ::
      (" action=".toList ++ '"' :: (escapeMarkup (['/'].intercalate (decisionPath approval.approvalId)) ++ '"' :: rest))) := by
    unfold formTag
    generalize (if action = "approve" then ">" else "\n            id=\"reject-form\" novalidate>") = ending
    refine ⟨ending.toList, ?_⟩
    simp only [String.toList_append, String.toList_ofList, opening, closing, value, List.append_assoc, List.cons_append, List.nil_append]
  have method : '"' ∉ "<form method=".toList := by decide
  have post : '"' ∉ "POST".toList := by decide
  have name : '"' ∉ " action=".toList := by decide
  rw [formAction, tag, List.splitOn_append_cons_self_of_not_mem method, List.splitOn_append_cons_self_of_not_mem post,
    List.splitOn_append_cons_self_of_not_mem name, List.splitOn_append_cons_self_of_not_mem (quote_not_mem_escapeMarkup _)]
  exact (String.toList_ofList ..).trans (unescapeMarkup_escapeMarkup _)

theorem decisionPath_plain {approvalId : String} : (∀ segment ∈ decisionPath approvalId, Plain segment) ↔ Plain approvalId.toList := by
  have empty : Plain [] := ⟨List.not_mem_nil, List.not_mem_nil, List.not_mem_nil, by decide⟩
  have approvals : Plain "approvals".toList := ⟨by decide, by decide, by decide, by decide⟩
  have decision : Plain "decision".toList := ⟨by decide, by decide, by decide, by decide⟩
  simp only [decisionPath, List.forall_mem_cons, empty, approvals, decision, true_and, List.not_mem_nil, false_implies,
    implies_true, and_true]

/-- The route finds its parameter in exactly one path. -/
theorem routeParameter_eq_some {last target approvalId : String} : routeParameter last target = some approvalId ↔
    requestPath target.toList = [[], "approvals".toList, approvalId.toList, last.toList] ∧ approvalId ≠ "" := by
  unfold routeParameter
  split
  · rename_i approvals parameter path found
    rw [found]
    by_cases matched : approvals = "approvals".toList ∧ path = last.toList ∧ parameter ≠ []
    · obtain ⟨rfl, rfl, filled⟩ := matched
      simp only [true_and, ne_eq, filled, not_false_eq_true, and_self, if_true, Option.some.injEq, List.cons.injEq, and_true]
      constructor
      · rintro rfl
        simpa using filled
      · rintro ⟨rfl, _⟩
        exact String.ofList_toList
    · rw [if_neg matched]
      simp only [reduceCtorEq, false_iff, List.cons.injEq, true_and, and_true, not_and]
      rintro ⟨rfl, rfl, rfl⟩ filled
      exact matched ⟨rfl, rfl, by simpa using filled⟩
  · rename_i other
    simp only [reduceCtorEq, false_iff, not_and]
    intro found
    exact (other _ _ _ found).elim

/-- The approval whose decision a form submits. -/
def submitted (approval : ApprovalRequest) (action : String) : Option String :=
  routeParameter "decision" (formAction (formTag approval action))

theorem submitted_iff (approval : ApprovalRequest) (action : String) (named : approval.approvalId ≠ "") :
    submitted approval action = some approval.approvalId ↔ Plain approval.approvalId.toList := by
  have path : [[], "approvals".toList, approval.approvalId.toList, "decision".toList] = decisionPath approval.approvalId := rfl
  have filled : decisionPath approval.approvalId ≠ [] := by simp [decisionPath]
  rw [submitted, routeParameter_eq_some, formAction_formTag, path, requestPath_iff filled, decisionPath_plain]
  exact and_iff_left named

section Pages
variable [Library]

/-- The page of a link, when the approval's hash is as given. -/
def Rendered (hash : List (String × String)) (approvalId action : String) (page : Page) : Prop :=
  (renderDecisionPage approvalId action).run.Trace [⟨.redis (.hgetall (ApprovalStore.key approvalId)), hash⟩] (.done (.ok page))

/-- What a registration stores is rendered as a confirmation page of that approval. -/
theorem rendered_registered (before : List (String × String)) (request : Registration) (now : Int) (action : String) :
    Rendered (Redis.merge before (ApprovalStore.toMapping (RegisterApproval.pending request now))) request.approvalId action
      (.confirm (RegisterApproval.pending request now) action) := by
  have decoded : ApprovalStore.decode (Redis.merge before (ApprovalStore.toMapping (RegisterApproval.pending request now))) =
      .ok (some (RegisterApproval.pending request now)) :=
    ApprovalStore.decode_merge before (RegisterApproval.pending request now) (by simp [RegisterApproval.pending])
  have got : (GetApproval.execute request.approvalId).run.Trace _ (.done (.ok (RegisterApproval.pending request now))) :=
    (ApprovalStore.load_trace decoded).andThen .nil
  unfold Rendered renderDecisionPage
  exact (Prog.Trace.uncaught (Prog.Trace.map got)).andThen .nil

/-- Every confirmation page of a registered approval submits the decision of that
approval, and no two of them the decision of one. -/
structure Returning (ids : Set String) : Prop where
  returns : ∀ request before now action approval, accepts request = true → request.approvalId ∈ ids →
    Rendered (Redis.merge before (ApprovalStore.toMapping (RegisterApproval.pending request now))) request.approvalId action
      (.confirm approval action) → submitted approval action = some request.approvalId
  apart : ∀ approval other action action', approval.approvalId ∈ ids → other.approvalId ∈ ids →
    approval.approvalId ≠ other.approvalId → ∀ reached, submitted approval action = some reached → submitted other action' ≠ some reached

/-- The pages return to their approvals exactly when every id is a plain segment. -/
theorem forms_returning (ids : Set String) (named : "" ∉ ids) : Returning ids ↔ ∀ approvalId ∈ ids, Plain approvalId.toList := by
  constructor
  · intro returning approvalId member
    have filled : approvalId ≠ "" := fun empty => named (empty ▸ member)
    let request : Registration := ⟨approvalId, "case", "path", "number", "supplier", "approve", "reject"⟩
    have accepted : accepts request = true := by simp [accepts, request, filled]
    have returned := returning.returns request [] 0 "approve" _ accepted member (rendered_registered [] request 0 "approve")
    exact (submitted_iff (RegisterApproval.pending request 0) "approve" filled).mp returned
  · intro plain
    have returns (approval : ApprovalRequest) (action : String) (member : approval.approvalId ∈ ids) :
        submitted approval action = some approval.approvalId :=
      (submitted_iff approval action fun empty => named (empty ▸ member)).mpr (plain _ member)
    constructor
    · intro request before now action approval _ member rendered
      have same := (rendered_registered before request now action).unique rendered
      cases same
      exact returns (RegisterApproval.pending request now) action member
    · intro approval other action action' member member' different reached first second
      rw [returns approval action member] at first
      rw [returns other action' member'] at second
      exact different (Option.some.inj (first.trans second.symm))

end Pages

section Samples
local instance rendering : Library := .sample

theorem forms_plain : Returning {"appr-1", "appr-2"} := by
  refine (forms_returning _ (by simp)).mpr ?_
  rintro approvalId (rfl | rfl)
  · exact ⟨by decide, by decide, by decide, by decide⟩
  · exact ⟨by decide, by decide, by decide, by decide⟩

/-- An id that reads as an escape. -/
def escaped : Registration := ⟨"%61", "case", "path", "number", "supplier", "approve", "reject"⟩

/-- Its approval has a page, whose form submits the decision of another one. -/
theorem forms_crossed : routeParameter "approve" "/approvals/%2561/approve" = some "%61" ∧
    submitted (RegisterApproval.pending escaped 0) "approve" = some "a" ∧ ¬ Returning {"a", "%61"} := by
  have crossed : submitted (RegisterApproval.pending escaped 0) "approve" = some "a" := by decide
  refine ⟨by decide, crossed, fun returning => ?_⟩
  have listed : escaped.approvalId ∈ ({"a", "%61"} : Set String) := Or.inr rfl
  have returned := returning.returns escaped [] 0 "approve" _ (by decide) listed (rendered_registered [] escaped 0 "approve")
  exact absurd (crossed.symm.trans returned) (by decide)

end Samples
end OpenClaw.Embedding
