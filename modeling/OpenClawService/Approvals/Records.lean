import OpenClawService.Approvals.Decisions

/-! What an approval record looks like: as the old format left it, and as a
registration or a decision writes it. -/
namespace OpenClaw.Approvals
open ApprovalStore

/-- Any record: it names its approval, and has a decision exactly when it is resolved. -/
structure WellFormed (approvalId : String) (approval : ApprovalRequest) : Prop where
  named : approval.approvalId = approvalId
  lifecycle : (approval.status = "pending" ∧ approval.decision = none) ∨
    (approval.status = "resolved" ∧ ∃ decision ∈ RecordDecision.decisions, approval.decision = some decision)

/-- A record that the use cases have written. -/
structure Complete (approval : ApprovalRequest) : Prop where
  pending : approval.status = "pending" → approval.note = none ∧ approval.decidedAt = none ∧
    approval.decisionSource = none ∧ approval.webhookSentAt = none ∧ approval.webhookResult = none
  resolved : approval.status = "resolved" → approval.decidedAt.isSome = true ∧ approval.webhookSentAt.isSome = true ∧
    (∃ webhookResult, approval.webhookResult = some webhookResult ∧ webhookResult ≠ "") ∧
    (∀ note, approval.note = some note → note ≠ "" ∧ strip note = note) ∧
    (approval.decision = some "needs_changes" → approval.note.isSome = true)

/-- Nothing is left to strip. -/
theorem strip_strip (text : String) : strip (strip text) = strip text := by
  have trimmed : ((text.toList.dropWhile isSpace).rdropWhile isSpace).dropWhile isSpace =
      (text.toList.dropWhile isSpace).rdropWhile isSpace := by
    refine List.dropWhile_eq_self_iff.mpr fun filled => ?_
    -- What is kept is a prefix of a list that starts with no space.
    have kept := List.rdropWhile_prefix isSpace (l := text.toList.dropWhile isSpace)
    rw [kept.getElem filled]
    exact List.dropWhile_get_zero_not isSpace text.toList (filled.trans_le kept.length_le)
  simp only [strip, String.toList_ofList, trimmed, List.rdropWhile_idempotent]

section Records
variable [Library] {approvalId : String} {hash : List (String × String)}

/-- A record of the old format: the status is the decision, and there is no field for one. -/
structure Legacy (approvalId : String) (hash : List (String × String)) : Prop where
  status : ∃ status ∈ ["pending", "approved", "rejected"], hash.lookup "status" = some status
  undecided : (hash.lookup "decision").bind orNone = none
  named : hash.lookup "approval_id" = some approvalId
  fields : ∀ field ∈ ["invoice_case_id", "pdf_path", "invoice_number", "supplier_name", "approve_url", "reject_url"],
    (hash.lookup field).isSome = true
  created : ∃ text, hash.lookup "created_at" = some text ∧ (Library.fromisoformat text).isSome = true
  instants : ∀ field ∈ ["decided_at", "webhook_sent_at"], ∀ text, (hash.lookup field).bind orNone = some text →
    (Library.fromisoformat text).isSome = true

omit [Library] in
theorem dictItem_present {key : String} (present : (hash.lookup key).isSome = true) : ∃ value, dictItem hash key = .ok value := by
  obtain ⟨value, found⟩ := Option.isSome_iff_exists.mp present
  exact ⟨value, by rw [dictItem, found]⟩

theorem parseInstant_present {text : String} (read : (Library.fromisoformat text).isSome = true) :
    ∃ instant, parseInstant text = .ok instant := by
  obtain ⟨instant, found⟩ := Option.isSome_iff_exists.mp read
  exact ⟨instant, by rw [parseInstant, found]⟩

theorem optionalInstant_present {field : String}
    (read : ∀ text, (hash.lookup field).bind orNone = some text → (Library.fromisoformat text).isSome = true) :
    ∃ instant, optionalInstant hash field = .ok instant := by
  unfold optionalInstant
  cases present : (hash.lookup field).bind orNone with
  | none => exact ⟨none, rfl⟩
  | some text =>
    obtain ⟨instant, parsed⟩ := parseInstant_present (read text present)
    exact ⟨some instant, by simp [parsed]⟩

/-- A record of the old format is read as one of today's. -/
theorem Legacy.decodes (legacy : Legacy approvalId hash) :
    ∃ approval, decode hash = .ok (some approval) ∧ WellFormed approvalId approval := by
  obtain ⟨status, listed, stated⟩ := legacy.status
  have filled : hash.isEmpty = false := by
    cases hash with
    | nil => cases stated
    | cons => rfl
  have read : dictItem hash "status" = .ok status := by rw [dictItem, stated]
  have named : dictItem hash "approval_id" = .ok approvalId := by rw [dictItem, legacy.named]
  obtain ⟨invoiceCaseId, caseId⟩ := dictItem_present (legacy.fields "invoice_case_id" (by simp))
  obtain ⟨pdfPath, path⟩ := dictItem_present (legacy.fields "pdf_path" (by simp))
  obtain ⟨invoiceNumber, number⟩ := dictItem_present (legacy.fields "invoice_number" (by simp))
  obtain ⟨supplierName, name⟩ := dictItem_present (legacy.fields "supplier_name" (by simp))
  obtain ⟨approveUrl, approve⟩ := dictItem_present (legacy.fields "approve_url" (by simp))
  obtain ⟨rejectUrl, reject⟩ := dictItem_present (legacy.fields "reject_url" (by simp))
  obtain ⟨text, created, instant⟩ := legacy.created
  have creation : dictItem hash "created_at" = .ok text := by rw [dictItem, created]
  obtain ⟨createdAt, parsed⟩ := parseInstant_present instant
  obtain ⟨decidedAt, decided⟩ := optionalInstant_present (legacy.instants "decided_at" (by simp))
  obtain ⟨webhookSentAt, sent⟩ := optionalInstant_present (legacy.instants "webhook_sent_at" (by simp))
  have decoded : decode hash = .ok (some
      { approvalId, invoiceCaseId, pdfPath, invoiceNumber, supplierName, approveUrl, rejectUrl,
        status := (migrated status hash).1, decision := (migrated status hash).2, note := (hash.lookup "note").bind orNone,
        createdAt, decidedAt, decisionSource := (hash.lookup "decision_source").bind orNone, webhookSentAt,
        webhookResult := (hash.lookup "webhook_result").bind orNone }) := by
    rw [decode, filled, if_neg Bool.false_ne_true, fromMapping, read, named, caseId, path, number, name, approve, reject,
      creation, decided, sent]
    simp only [ok_bind, parsed]
    rfl
  refine ⟨_, decoded, rfl, ?_⟩
  simp only [List.mem_cons, List.not_mem_nil, or_false] at listed
  rcases listed with rfl | rfl | rfl
  · exact Or.inl ⟨by simp [migrated], by simp [migrated, legacy.undecided]⟩
  · exact Or.inr ⟨by simp [migrated], "approved", by simp [RecordDecision.decisions], by simp [migrated]⟩
  · exact Or.inr ⟨by simp [migrated], "rejected", by simp [RecordDecision.decisions], by simp [migrated]⟩

/-- What a registration writes. -/
theorem pending_decodes (request : Registration) (now : Int) :
    decode (Redis.merge hash (toMapping (RegisterApproval.pending request now))) = .ok (some (RegisterApproval.pending request now)) ∧
      WellFormed request.approvalId (RegisterApproval.pending request now) ∧ Complete (RegisterApproval.pending request now) := by
  refine ⟨decode_merge _ _ (by simp [RegisterApproval.pending]), ⟨rfl, Or.inl ⟨rfl, rfl⟩⟩, ?_, ?_⟩
  · exact fun _ => ⟨rfl, rfl, rfl, rfl, rfl⟩
  · intro resolved
    simp [RegisterApproval.pending] at resolved

theorem valid_decision (valid : RecordDecision.check decision note = .ok ()) : decision ∈ RecordDecision.decisions := by
  by_contra unknown
  simp [RecordDecision.check, unknown] at valid

/-- Changes are asked for with a note. -/
theorem valid_note (valid : RecordDecision.check "needs_changes" note = .ok ()) :
    ((note.bind orNone).map strip).bind orNone ≠ none := by
  intro missing
  rw [RecordDecision.check, if_neg (by simp [RecordDecision.decisions]), if_pos ⟨rfl, missing⟩] at valid
  cases valid

omit [Library] in
/-- A note is kept without its surrounding space, and only if anything is left of it. -/
theorem kept_note {given : Option String} (kept : ((given.bind orNone).map strip).bind orNone = some note) :
    note ≠ "" ∧ strip note = note := by
  obtain ⟨trimmed, stripped, filled⟩ := Option.bind_eq_some_iff.mp kept
  obtain ⟨text, _, rfl⟩ := Option.map_eq_some_iff.mp stripped
  unfold orNone at filled
  split at filled
  · cases filled
  · cases filled
    exact ⟨‹_›, strip_strip text⟩

/-- What a decision writes. -/
theorem resolved_decodes (named : approval.approvalId = approvalId) (valid : RecordDecision.check decision note = .ok ())
    (answered : webhookResult ≠ "") (decisionSource : String) (now : Int) :
    ∃ after, decode (Redis.merge hash (toMapping (RecordDecision.resolved approval decision note decisionSource now webhookResult))) =
      .ok (some after) ∧ WellFormed approvalId after ∧ Complete after := by
  refine ⟨_, decode_merge _ _ (by simp [RecordDecision.resolved]), ⟨named, Or.inr ⟨rfl, decision, valid_decision valid, ?_⟩⟩, ?_, ?_⟩
  · exact decision_kept valid
  · intro pending
    simp [kept, RecordDecision.resolved] at pending
  · intro _
    refine ⟨rfl, rfl, ⟨webhookResult, by simp [kept, RecordDecision.resolved, orNone, answered], answered⟩, ?_, ?_⟩
    · exact fun note present => kept_note present
    · intro changes
      have asked : orNone decision = some "needs_changes" := changes
      obtain rfl := orNone_eq_some asked
      exact Option.isSome_iff_ne_none.mpr (valid_note valid)

end Records
end OpenClaw.Approvals
