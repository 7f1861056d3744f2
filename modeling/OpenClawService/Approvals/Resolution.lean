import OpenClawService.Approvals.Shapes
import OpenClawService.Storage.Solo

/-! A decision made while nobody else writes: what the agent is told, what the
caller is given, and what is loaded afterwards. The three take the note
differently, and agree on notes that leave nothing to trim. -/
namespace OpenClaw.Approvals
open ApprovalStore

/-- The requests sent, the newest first. -/
def sent {ι : Type} : List (Entry ι) → List HttpRequest
  | [] => []
  | .call _ (.outside (.http request)) _ :: rest => request :: sent rest
  | _ :: rest => sent rest

/-- The returned record has the decision and the note that are announced, and is
what is loaded afterwards. -/
structure Agree (decision : String) (note : Option String) (returned : ApprovalRequest)
    (loaded : Except Exc ApprovalRequest) : Prop where
  decision : returned.decision = some decision
  note : returned.note = note
  stored : loaded = .ok returned

/-- A note, if any, has text and no space around it. -/
def Settled (note : Option String) : Prop := ∀ text, note = some text → text ≠ "" ∧ strip text = text

theorem settled_iff {note : Option String} : Settled note ↔
    (note.bind orNone).map strip = note ∧ ((note.bind orNone).map strip).bind orNone = (note.bind orNone).map strip := by
  cases note with
  | none => exact ⟨fun _ => ⟨rfl, rfl⟩, fun _ text absent => by cases absent⟩
  | some text =>
    by_cases empty : text = ""
    · simp [Settled, orNone, empty]
    · have filled : ((some text).bind orNone).map strip = some (strip text) := by simp [orNone, empty]
      rw [filled]
      constructor
      · intro settled
        rw [(settled text rfl).2]
        exact ⟨rfl, if_neg empty⟩
      · rintro ⟨trimmed, _⟩ text' same
        cases same
        exact ⟨empty, Option.some.inj trimmed⟩

section Decision
variable [Library] {ι : Type} [DecidableEq ι] {reply : (call : Outside) → call.Answer} {worker : ι} {settings : Settings}
  {decision decisionSource : String} {note : Option String} {approval : ApprovalRequest}

/-- What is left of the use case once it has loaded a pending approval and checked the decision. -/
def resolving (settings : Settings) (approval : ApprovalRequest) (decision : String) (note : Option String)
    (decisionSource : String) : Async ApprovalRequest := do
  let now ← Async.outside .now
  let webhookResult ← Webhook.notifyDecision settings approval decision note
  let updated := RecordDecision.resolved approval decision note decisionSource now webhookResult
  save updated
  return updated

theorem execute_pending (approvalId : String) (pending : approval.status = "pending")
    (valid : RecordDecision.check decision note = .ok ()) : ∃ next,
    RecordDecision.execute settings approvalId decision note decisionSource = load approvalId >>= next ∧
      next (some approval) = resolving settings approval decision note decisionSource := by
  refine ⟨_, rfl, ?_⟩
  dsimp only
  rw [if_neg (not_not_intro pending), valid]
  rfl

theorem execute_solo {w : World ι} (decoded : decode (w.redis.hashes (key approval.approvalId)) = .ok (some approval))
    (pending : approval.status = "pending") (valid : RecordDecision.check decision note = .ok ()) :
    solo reply worker w (RecordDecision.execute settings approval.approvalId decision note decisionSource).run =
      solo reply worker (solo reply worker w (load approval.approvalId).run).1
        (resolving settings approval decision note decisionSource).run := by
  have loaded : (solo reply worker w (load approval.approvalId).run).2 = .ok (some approval) := decoded
  obtain ⟨next, steps, rest⟩ : ∃ next, RecordDecision.execute settings approval.approvalId decision note decisionSource = _ ∧ _ :=
    execute_pending approval.approvalId pending valid
  rw [steps, ExceptT.run_bind, solo_bind, loaded, ← rest]

/-- The record that the decision writes. -/
def outcome (reply : (call : Outside) → call.Answer) (settings : Settings) (approval : ApprovalRequest) (decision : String)
    (note : Option String) (decisionSource : String) : ApprovalRequest :=
  RecordDecision.resolved approval decision note decisionSource (reply .now)
    (Webhook.webhookResult (reply (.http (Webhook.notification settings approval decision note))))

theorem resolving_hashes (w : World ι) :
    (solo reply worker w (resolving settings approval decision note decisionSource).run).1.redis.hashes (key approval.approvalId) =
      Redis.merge (w.redis.hashes (key approval.approvalId))
        (toMapping (outcome reply settings approval decision note decisionSource)) :=
  Function.update_self ..

omit [Library] in
/-- What is read back of the record is the record, when no text in it is empty. -/
theorem outcome_kept (decided : orNone decision = some decision) (sourced : decisionSource ≠ "") :
    kept (outcome reply settings approval decision note decisionSource) = outcome reply settings approval decision note decisionSource ↔
      ((note.bind orNone).map strip).bind orNone = (note.bind orNone).map strip := by
  have answered := webhookResult_filled (reply (.http (Webhook.notification settings approval decision note)))
  have filled {text : String} (filled : text ≠ "") : orNone text = some text := if_neg filled
  constructor
  · intro same
    exact congrArg ApprovalRequest.note same
  · intro same
    simp only [kept, outcome, RecordDecision.resolved, Option.bind_some, decided, filled sourced, filled answered, same]

theorem get_solo {w : World ι} (decoded : decode (w.redis.hashes (key approvalId)) = .ok (some approval)) :
    (solo reply worker w (GetApproval.execute approvalId).run).2 = .ok approval := by
  have loaded : (solo reply worker w (load approvalId).run).2 = .ok (some approval) := decoded
  have steps : (GetApproval.execute approvalId).run = (load approvalId).run >>= _ := rfl
  rw [steps, solo_bind, loaded]
  rfl

variable (reply worker settings decisionSource) in
/-- What is announced, returned and then loaded. -/
theorem execute_then_get {w : World ι} (decoded : decode (w.redis.hashes (key approval.approvalId)) = .ok (some approval))
    (pending : approval.status = "pending") (valid : RecordDecision.check decision note = .ok ()) : ∃ after,
    solo reply worker w (RecordDecision.execute settings approval.approvalId decision note decisionSource).run =
      (after, .ok (outcome reply settings approval decision note decisionSource)) ∧
    sent after.log = Webhook.notification settings approval decision note :: sent w.log ∧
    (solo reply worker after (GetApproval.execute approval.approvalId).run).2 =
      .ok (kept (outcome reply settings approval decision note decisionSource)) := by
  let started := (solo reply worker w (load approval.approvalId).run).1
  let after := (solo reply worker started (resolving settings approval decision note decisionSource).run).1
  have merged : after.redis.hashes (key approval.approvalId) = Redis.merge (started.redis.hashes (key approval.approvalId))
      (toMapping (outcome reply settings approval decision note decisionSource)) := resolving_hashes started
  refine ⟨after, execute_solo decoded pending valid, rfl, get_solo ?_⟩
  rw [merged]
  exact decode_merge _ _ (by simp [outcome, RecordDecision.resolved])

/-- The one announcement carries the decision and the note as they were passed; the
returned record has both, and is loaded back, exactly when the note is settled. -/
theorem resolution_agrees (w : World ι) (decoded : decode (w.redis.hashes (key approval.approvalId)) = .ok (some approval))
    (pending : approval.status = "pending") (valid : RecordDecision.check decision note = .ok ()) (sourced : decisionSource ≠ "") :
    ∃ after returned,
      solo reply worker w (RecordDecision.execute settings approval.approvalId decision note decisionSource).run = (after, .ok returned) ∧
      sent after.log = Webhook.notification settings approval decision note :: sent w.log ∧
      (Agree decision note returned (solo reply worker after (GetApproval.execute approval.approvalId).run).2 ↔ Settled note) := by
  obtain ⟨after, executed, announced, loaded⟩ := execute_then_get reply worker settings decisionSource decoded pending valid
  have same : kept (outcome reply settings approval decision note decisionSource) = _ ↔ _ := outcome_kept (decision_kept valid) sourced
  refine ⟨after, _, executed, announced, ?_⟩
  rw [loaded, settled_iff, ← same]
  constructor
  · intro agree
    exact ⟨agree.note, Except.ok.inj agree.stored⟩
  · rintro ⟨trimmed, unchanged⟩
    exact ⟨rfl, trimmed, congrArg _ unchanged⟩

end Decision

section Samples
local instance resolved : Library := .sample

/-- The record as its registration leaves it, with nobody else about. -/
def registeredWorld : World Unit := ⟨{ Redis.empty with hashes := fun _ => toMapping undecided }, []⟩

theorem undecided_decode : decode (toMapping undecided) = .ok (some undecided) :=
  decode_merge [] undecided (by simp [undecided, RegisterApproval.pending])

theorem resolution_agrees_changes : ∃ after returned,
    solo Outside.silence () registeredWorld (RecordDecision.execute .sample "a1" "needs_changes" (some "Line 2") "web_form").run =
      (after, .ok returned) ∧
    sent after.log = [Webhook.notification .sample undecided "needs_changes" (some "Line 2")] ∧
    Agree "needs_changes" (some "Line 2") returned (solo Outside.silence () after (GetApproval.execute "a1").run).2 := by
  have trimmed : strip "Line 2" = "Line 2" := by decide
  have valid : RecordDecision.check "needs_changes" (some "Line 2") = .ok () := by
    simp [RecordDecision.check, RecordDecision.decisions, orNone, trimmed]
  obtain ⟨after, returned, executed, announced, agree⟩ :=
    resolution_agrees registeredWorld undecided_decode rfl valid (by decide : "web_form" ≠ "")
  refine ⟨after, returned, executed, announced, agree.mpr fun text same => ?_⟩
  cases same
  exact ⟨by decide, trimmed⟩

/-- A blank note is announced as it is, returned as an empty one, and loaded as none. -/
theorem resolution_blank : ∃ after returned loaded,
    solo Outside.silence () registeredWorld (RecordDecision.execute .sample "a1" "approved" (some " ") "web_form").run =
      (after, .ok returned) ∧
    sent after.log = [Webhook.notification .sample undecided "approved" (some " ")] ∧
    (solo Outside.silence () after (GetApproval.execute "a1").run).2 = .ok loaded ∧
    returned.note = some "" ∧ loaded.note = none ∧
    ¬ Agree "approved" (some " ") returned (solo Outside.silence () after (GetApproval.execute "a1").run).2 := by
  have valid : RecordDecision.check "approved" (some " ") = .ok () := by
    simp [RecordDecision.check, RecordDecision.decisions]
  obtain ⟨after, executed, announced, loaded⟩ :=
    execute_then_get Outside.silence () .sample "web_form" (w := registeredWorld) undecided_decode rfl valid
  have empty : (outcome Outside.silence .sample undecided "approved" (some " ") "web_form").note = some "" := by decide
  refine ⟨after, _, _, executed, announced, loaded, empty, by decide, fun agree => ?_⟩
  exact absurd (empty.symm.trans agree.note) (by decide)

end Samples
end OpenClaw.Approvals
