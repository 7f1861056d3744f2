import OpenClawService.Storage.Solo

/-! Saving over what a key already holds. HSET merges, so a record is read back
exactly because its mapping writes every field that the decoder reads. -/
namespace OpenClaw.Storage
variable [Library]

/-- No optional text of the record is empty. -/
structure FilledApproval (approval : ApprovalRequest) : Prop where
  decision : approval.decision ≠ some ""
  note : approval.note ≠ some ""
  decisionSource : approval.decisionSource ≠ some ""
  webhookResult : approval.webhookResult ≠ some ""

structure FilledToken (token : TokenSet) : Prop where
  refreshToken : token.refreshToken ≠ some ""
  scope : token.scope ≠ some ""
  xeroTenantId : token.xeroTenantId ≠ some ""

omit [Library] in
theorem bind_orNone {value : Option String} (filled : value ≠ some "") : value.bind orNone = value := by
  cases value with
  | none => rfl
  | some text =>
    rw [ne_eq, Option.some.injEq] at filled
    exact if_neg filled

omit [Library] in
theorem FilledApproval.kept (filled : FilledApproval approval) : ApprovalStore.kept approval = approval := by
  simp only [ApprovalStore.kept, bind_orNone filled.decision, bind_orNone filled.note, bind_orNone filled.decisionSource,
    bind_orNone filled.webhookResult]

omit [Library] in
theorem FilledToken.kept (filled : FilledToken token) : TokenStore.kept token = token := by
  simp only [TokenStore.kept, bind_orNone filled.refreshToken, bind_orNone filled.scope, bind_orNone filled.xeroTenantId]

/-- The record of a hash, if it has one. -/
theorem decode_fields {hash : List (String × String)} (decoded : ApprovalStore.decode hash = .ok (some approval)) :
    ∃ status, hash.lookup "status" = some status ∧ (approval.status, approval.decision) = ApprovalStore.migrated status hash ∧
      approval.note = (hash.lookup "note").bind orNone ∧ approval.decisionSource = (hash.lookup "decision_source").bind orNone ∧
      approval.webhookResult = (hash.lookup "webhook_result").bind orNone := by
  unfold ApprovalStore.decode at decoded
  split at decoded
  · cases decoded
  obtain ⟨approval', decoded, same⟩ := map_ok decoded
  cases same
  unfold ApprovalStore.fromMapping at decoded
  obtain ⟨status, stated, decoded⟩ := bind_ok decoded
  obtain ⟨approvalId, _, decoded⟩ := bind_ok decoded
  obtain ⟨invoiceCaseId, _, decoded⟩ := bind_ok decoded
  obtain ⟨pdfPath, _, decoded⟩ := bind_ok decoded
  obtain ⟨invoiceNumber, _, decoded⟩ := bind_ok decoded
  obtain ⟨supplierName, _, decoded⟩ := bind_ok decoded
  obtain ⟨approveUrl, _, decoded⟩ := bind_ok decoded
  obtain ⟨rejectUrl, _, decoded⟩ := bind_ok decoded
  obtain ⟨creation, _, decoded⟩ := bind_ok decoded
  obtain ⟨createdAt, _, decoded⟩ := bind_ok decoded
  obtain ⟨decidedAt, _, decoded⟩ := bind_ok decoded
  obtain ⟨webhookSentAt, _, decoded⟩ := bind_ok decoded
  cases decoded
  refine ⟨status, ?_, rfl, rfl, rfl, rfl⟩
  unfold dictItem at stated
  split at stated
  · cases stated
    assumption
  · cases stated

/-- A decoded record is as a save leaves it: no empty text, and no status of the old format. -/
theorem kept_of_decode {hash : List (String × String)} (decoded : ApprovalStore.decode hash = .ok (some approval)) :
    ApprovalStore.kept approval = approval ∧ approval.status ≠ "approved" ∧ approval.status ≠ "rejected" := by
  obtain ⟨status, _, moved, note, source, webhook⟩ := decode_fields decoded
  have current : approval.decision.bind orNone = approval.decision ∧ approval.status ≠ "approved" ∧ approval.status ≠ "rejected" := by
    unfold ApprovalStore.migrated at moved
    split at moved
    · obtain ⟨state, decision⟩ := Prod.mk.inj moved
      rename_i old
      rw [state, decision]
      rcases old with rfl | rfl <;> simp [orNone]
    · obtain ⟨state, decision⟩ := Prod.mk.inj moved
      rename_i today
      rw [state, decision, bind_orNone_idem]
      exact ⟨rfl, not_or.mp today⟩
  refine ⟨?_, current.2⟩
  simp only [ApprovalStore.kept, current.1]
  rw [note, source, webhook, bind_orNone_idem, bind_orNone_idem, bind_orNone_idem, ← note, ← source, ← webhook]

section Stores
variable {ι : Type} [DecidableEq ι] (reply : (call : Outside) → call.Answer) (worker : ι)

/-- The record of a key, saved over its own hash and loaded again. -/
def resave (approvalId : String) : Async (Option ApprovalRequest) := do
  match ← ApprovalStore.load approvalId with
  | some approval => do
    Async.redis (.hset (ApprovalStore.key approvalId) (ApprovalStore.toMapping approval))
    ApprovalStore.load approvalId
  | none => return none

/-- Loading after saving gives what was saved, whatever the keys held before. -/
structure SavesExactly (w : World ι) : Prop where
  approvals : ∀ approval, FilledApproval approval → approval.status ∈ ["pending", "resolved"] →
    (solo reply worker w (do ApprovalStore.save approval; ApprovalStore.load approval.approvalId).run).2 = .ok (some approval)
  tokens : ∀ connectionId token, FilledToken token →
    (solo reply worker w (do TokenStore.store connectionId token; TokenStore.load connectionId).run).2 = .ok (some token)
  resaved : ∀ approvalId approval, (solo reply worker w (ApprovalStore.load approvalId).run).2 = .ok (some approval) →
    (solo reply worker w (resave approvalId).run).2 = .ok (some approval)
  decided : ∀ approvalId approval, (solo reply worker w (ApprovalStore.load approvalId).run).2 = .ok (some approval) →
    ∀ decision ∈ ["approved", "rejected"], (w.redis.hashes (ApprovalStore.key approvalId)).lookup "status" = some decision →
      approval.status = "resolved" ∧ approval.decision = some decision

theorem load_solo (w : World ι) (approvalId : String) : (solo reply worker w (ApprovalStore.load approvalId).run).2 =
    ApprovalStore.decode (w.redis.hashes (ApprovalStore.key approvalId)) := rfl

theorem save_solo (w : World ι) (approvalId : String) (mapping : List (String × String)) :
    (solo reply worker w (do Async.redis (.hset (ApprovalStore.key approvalId) mapping); ApprovalStore.load approvalId).run).2 =
      ApprovalStore.decode (Redis.merge (w.redis.hashes (ApprovalStore.key approvalId)) mapping) :=
  congrArg ApprovalStore.decode (Function.update_self ..)

theorem store_solo (w : World ι) (connectionId : String) (token : TokenSet) :
    (solo reply worker w (do TokenStore.store connectionId token; TokenStore.load connectionId).run).2 =
      .ok (some (TokenStore.kept token)) := by
  rw [← TokenStore.decode_merge (w.redis.hashes (TokenStore.key connectionId))]
  exact congrArg TokenStore.decode (Function.update_self ..)

theorem resave_solo (w : World ι) (approvalId : String)
    (decoded : ApprovalStore.decode (w.redis.hashes (ApprovalStore.key approvalId)) = .ok (some approval)) :
    (solo reply worker w (resave approvalId).run).2 =
      ApprovalStore.decode (Redis.merge (w.redis.hashes (ApprovalStore.key approvalId)) (ApprovalStore.toMapping approval)) := by
  have loaded : (solo reply worker w (ApprovalStore.load approvalId).run).2 = .ok (some approval) := decoded
  have steps : (resave approvalId).run = (ApprovalStore.load approvalId).run >>= _ := rfl
  rw [steps, solo_bind, loaded]
  exact save_solo reply worker _ approvalId _

theorem saves_exactly (w : World ι) : SavesExactly reply worker w := by
  constructor
  · intro approval filled listed
    have current : approval.status ≠ "approved" ∧ approval.status ≠ "rejected" := by
      simp only [List.mem_cons, List.not_mem_nil, or_false] at listed
      rcases listed with status | status <;> simp [status]
    refine (save_solo reply worker w approval.approvalId _).trans ?_
    rw [ApprovalStore.decode_merge _ _ current, filled.kept]
  · intro connectionId token filled
    rw [store_solo, filled.kept]
  · intro approvalId approval loaded
    have decoded := (load_solo reply worker w approvalId).symm.trans loaded
    obtain ⟨kept, current⟩ := kept_of_decode decoded
    rw [resave_solo reply worker w approvalId decoded, ApprovalStore.decode_merge _ _ current, kept]
  · intro approvalId approval loaded decision listed stated
    obtain ⟨status, found, moved, _⟩ := decode_fields ((load_solo reply worker w approvalId).symm.trans loaded)
    cases found.symm.trans stated
    simp only [List.mem_cons, List.not_mem_nil, or_false] at listed
    rw [ApprovalStore.migrated, if_pos listed] at moved
    exact Prod.mk.inj moved

end Stores
end OpenClaw.Storage
