import OpenClawService.Approvals.Shapes
import OpenClawService.Interleaving.Trace

/-! Registering an approval again: the stored record decides, and of it only the
case, the number and the supplier are compared. -/
namespace OpenClaw.Approvals
open Interleaving ApprovalStore

/-- All that a registration submits for its approval. -/
structure SamePayload (first second : Registration) : Prop where
  invoiceCaseId : first.invoiceCaseId = second.invoiceCaseId
  pdfPath : first.pdfPath = second.pdfPath
  invoiceNumber : first.invoiceNumber = second.invoiceNumber
  supplierName : first.supplierName = second.supplierName
  approveUrl : first.approveUrl = second.approveUrl
  rejectUrl : first.rejectUrl = second.rejectUrl

section Registration
variable [Library] {ι : Type} [DecidableEq ι] {settings : Settings} {ids : ι → String} {jobs : ι → Job} {env : Environment ι}

/-- Only this worker moves. -/
def Alone (i : ι) (_ : ServiceConfig ι (Except Exc ApprovalRequest)) (label : Option ι) : Prop :=
  ∀ j, label = some j → j = i

/-- Only decisions move. -/
def Deciding (jobs : ι → Job) (_ : ServiceConfig ι (Except Exc ApprovalRequest)) (label : Option ι) : Prop :=
  ∀ j, label = some j → ∃ decision note decisionSource, jobs j = .decide decision note decisionSource

/-- Two registrations of one approval, one after the other, with decisions in between. -/
structure Repeated (settings : Settings) (ids : ι → String) (jobs : ι → Job) (env : Environment ι) (redis : Redis ι)
    (i j : ι) (first second : Registration) (before after : ServiceConfig ι (Except Exc ApprovalRequest))
    (result : Except Exc ApprovalRequest) : Prop where
  registers : jobs i = .register first ∧ jobs j = .register second
  same : ids j = ids i
  ran : ∃ c d outcome, Reaches (system env) ⟨⟨redis, []⟩, traffic settings ids jobs⟩ c ∧ c.pool i = traffic settings ids jobs i ∧
    Run (system env) (Alone i) c d ∧ d.pool i = .done outcome ∧ Run (system env) (Deciding jobs) d before
  unbegun : before.pool j = traffic settings ids jobs j
  reran : Run (system env) (Alone j) before after
  ended : after.pool j = .done result

/-- The repeat succeeds exactly when the payloads are the same, leaves the record
alone, and returns it with the path that was submitted. -/
structure AcceptsRepeat (first second : Registration) (before after : List (String × String))
    (result : Except Exc ApprovalRequest) : Prop where
  accepts : (∃ approval, result = .ok approval) ↔ SamePayload first second
  refuses : ¬ SamePayload first second → ∃ text, result = .error (.duplicateApprovalError text)
  unchanged : after = before
  returned : result = .ok approval → decode before = .ok (some approval) ∧ approval.pdfPath = second.pdfPath

/-- The stored record tells the second payload from the first, or agrees with both. -/
def Told (stored : ApprovalRequest) (first second : Registration) : Prop :=
  if RegisterApproval.identical stored second then SamePayload first second ∧ stored.pdfPath = second.pdfPath
  else ¬ SamePayload first second

/-- A registration that finds a record only loads it. -/
theorem register_found (request : Registration) : ∃ resume,
    (RegisterApproval.execute request).run = .await (.redis (.hgetall (key request.approvalId))) resume ∧
      ∀ hash stored, decode hash = .ok (some stored) → ∃ text, resume hash =
        .done (if RegisterApproval.identical stored request then .ok stored else .error (.duplicateApprovalError text)) := by
  refine ⟨_, rfl, fun hash stored decoded => ?_⟩
  have outcome (next : Prog Op Op.Answer (Except Exc ApprovalRequest))
      (traced : (RegisterApproval.execute request).run.Trace [⟨.redis (.hgetall (key request.approvalId)), hash⟩] next) :
      _ = next := Prog.Trace.unique (.cons .nil) traced
  cases same : RegisterApproval.identical stored request with
  | true =>
    refine ⟨"", outcome _ (Prog.Trace.andThen (load_trace decoded) ?_)⟩
    simp only [same, if_true]
    exact .nil
  | false =>
    refine ⟨"An approval with approvalId=" ++ Library.repr request.approvalId ++ " already exists with a different payload.",
      outcome _ (Prog.Trace.andThen (load_trace decoded) ?_)⟩
    simp only [same]
    exact .nil

/-- On its own, such a registration changes nothing and ends by the comparison. -/
theorem alone_found {request : Registration} {j : ι} {before after : ServiceConfig ι (Except Exc ApprovalRequest)}
    (unbegun : before.pool j = (RegisterApproval.execute request).run)
    (decoded : decode (before.shared.redis.hashes (key request.approvalId)) = .ok (some stored))
    (run : Run (system env) (Alone j) before after) (ended : after.pool j = .done result) :
    after.shared.redis.hashes (key request.approvalId) = before.shared.redis.hashes (key request.approvalId) ∧ ∃ text,
      result = if RegisterApproval.identical stored request then .ok stored else .error (.duplicateApprovalError text) := by
  obtain ⟨resume, asks, answers⟩ := register_found request
  obtain ⟨text, answered⟩ := answers _ _ decoded
  have reached : after.shared.redis.hashes (key request.approvalId) = before.shared.redis.hashes (key request.approvalId) ∧
      (after.pool j = .await (.redis (.hgetall (key request.approvalId))) resume ∨
        after.pool j = .done (if RegisterApproval.identical stored request then .ok stored else .error (.duplicateApprovalError text))) := by
    refine run.invariant (I := fun c => c.shared.redis.hashes (key request.approvalId) =
        before.shared.redis.hashes (key request.approvalId) ∧
      (c.pool j = .await (.redis (.hgetall (key request.approvalId))) resume ∨
        c.pool j = .done (if RegisterApproval.identical stored request then .ok stored else .error (.duplicateApprovalError text))))
      ?_ ⟨rfl, Or.inl (unbegun.trans asks)⟩
    rintro c label d ⟨same, at_point⟩ alone step
    cases step with
    | drift drifted =>
      cases drifted with
      | expire | invoice => exact ⟨same, at_point⟩
    | @serve c k op resume' answer s pending served =>
      obtain rfl := alone k rfl
      rcases at_point with waits | done
      · cases pending.symm.trans waits
        cases served with
        | redis =>
          refine ⟨same, Or.inr ((Function.update_self ..).trans ?_)⟩
          show resume (c.shared.redis.hashes (key request.approvalId)) = _
          rw [same, answered]
      · cases done.symm.trans pending
  obtain ⟨same, waits | done⟩ := reached
  · cases ended.symm.trans waits
  · cases ended.symm.trans done
    exact ⟨same, text, rfl⟩

/-- A registration that has ended leaves a record behind. -/
theorem registered_present {c : ServiceConfig ι (Except Exc ApprovalRequest)} {i : ι} {request : Registration}
    (shapes : Shapes settings ids jobs c.shared) (job : jobs i = .register request)
    (ended : Ended (jobs i) outcome (stage settings ids jobs c.shared.log i)) : c.shared.redis.hashes (key (ids i)) ≠ [] := by
  apply shapes.present
  rw [job] at ended
  generalize stage settings ids jobs c.shared.log i = p at ended ⊢
  cases ended with
  | found decoded _ =>
    rintro rfl
    cases decoded
  | failed closed =>
    rintro rfl
    exact closed rfl
  | registered => trivial

/-- The repeat does what the payloads call for exactly when the stored record tells them apart. -/
theorem repeat_told {redis : Redis ι} {before after : ServiceConfig ι (Except Exc ApprovalRequest)}
    (legacy : ∀ approvalId, redis.hashes (key approvalId) = [] ∨ Legacy approvalId (redis.hashes (key approvalId)))
    (repeated : Repeated settings ids jobs env redis i j first second before after result) :
    ∃ stored, decode (before.shared.redis.hashes (key (ids i))) = .ok (some stored) ∧
      (AcceptsRepeat first second (before.shared.redis.hashes (key (ids i))) (after.shared.redis.hashes (key (ids i))) result ↔
        Told stored first second) := by
  obtain ⟨registers, registers'⟩ := repeated.registers
  obtain ⟨c, d, outcome, run, _, alone, ended, deciding⟩ := repeated.ran
  obtain ⟨shapes, conforming⟩ := shapes_run legacy ((run.trans alone.reaches).trans deciding.reaches)
  have present := registered_present shapes registers (conforming.finished (deciding.done ended))
  obtain ⟨stored, decoded, _⟩ := (shapes.stored (ids i)).resolve_left present
  refine ⟨stored, decoded, ?_⟩
  have unbegun : before.pool j = (RegisterApproval.execute { second with approvalId := ids i }).run := by
    rw [repeated.unbegun, traffic, registers', repeated.same, Job.run]
  obtain ⟨same, text, rfl⟩ := alone_found unbegun decoded repeated.reran repeated.ended
  have compared : RegisterApproval.identical stored { second with approvalId := ids i } = RegisterApproval.identical stored second := rfl
  rw [compared, Told]
  cases RegisterApproval.identical stored second with
  | true =>
    simp only [if_true]
    constructor
    · intro accepted
      exact ⟨accepted.accepts.mp ⟨stored, rfl⟩, (accepted.returned rfl).2⟩
    · rintro ⟨payload, path⟩
      refine ⟨⟨fun _ => payload, fun _ => ⟨stored, rfl⟩⟩, fun different => (different payload).elim, same, ?_⟩
      rintro approval ⟨⟩
      exact ⟨decoded, path⟩
  | false =>
    simp only [Bool.false_eq_true, if_false]
    constructor
    · intro accepted payload
      obtain ⟨approval, accepted⟩ := accepted.accepts.mpr payload
      cases accepted
    · intro different
      refine ⟨⟨?_, fun payload => (different payload).elim⟩, fun _ => ⟨text, rfl⟩, same, ?_⟩
      · rintro ⟨_, ⟨⟩⟩
      · rintro approval ⟨⟩

end Registration

section Retries
local instance retried : Library := .sample

/-- Two registrations of one approval, and a decision. -/
def submitted (second : Registration) : Fin 3 → Job
  | 0 => .register (request "first.pdf")
  | 1 => .register second
  | 2 => .decide "approved" none "web_form"

def submitting (second : Registration) : ServiceConfig (Fin 3) (Except Exc ApprovalRequest) :=
  ⟨⟨Redis.empty, []⟩, traffic .sample (fun _ => "a1") (submitted second)⟩

/-- The first registration and the decision, as in `resolution`. -/
def settled (second : Registration) : ServiceConfig (Fin 3) (Except Exc ApprovalRequest) :=
  resolution.foldl play (submitting second)

theorem resubmitted (second : Registration) {result : Except Exc ApprovalRequest}
    (ended : (play (settled second) (.redis 1)).pool 1 = .done result) :
    Repeated .sample (fun _ => "a1") (submitted second) (.free (Fin 3)) Redis.empty 0 1 (request "first.pdf") second
      (settled second) (play (settled second) (.redis 1)) result where
  registers := ⟨rfl, rfl⟩
  same := rfl
  ran := by
    have registering (j : Fin 3) (same : some 0 = some j) : j = 0 := (Option.some.inj same).symm
    have deciding (j : Fin 3) (same : some 2 = some j) :
        ∃ decision note decisionSource, submitted second j = .decide decision note decisionSource := by
      cases same
      exact ⟨_, _, _, rfl⟩
    have first : LegalAlong (.free (Fin 3)) (Alone 0) (submitting second) (resolution.take 3) :=
      ⟨registering, ⟨registering, trivial⟩, registering, trivial⟩
    have rest : LegalAlong (.free (Fin 3)) (Deciding (submitted second)) ((resolution.take 3).foldl play (submitting second))
        (resolution.drop 3) :=
      ⟨deciding, ⟨deciding, trivial⟩, ⟨deciding, trivial⟩, deciding, trivial⟩
    have whole : (resolution.drop 3).foldl play ((resolution.take 3).foldl play (submitting second)) = settled second := by
      rw [← List.foldl_append, List.take_append_drop, settled]
    exact ⟨submitting second, (resolution.take 3).foldl play (submitting second), _, .refl _, rfl, plays_run first, rfl,
      whole ▸ plays_run rest⟩
  unbegun := rfl
  reran := play_run _ (.redis 1) fun _ same => (Option.some.inj same).symm
  ended := ended

/-- Another supplier is told apart. -/
def renamed : Registration := { request "first.pdf" with supplierName := "Other" }

theorem repeat_refused : ∃ result, (play (settled renamed) (.redis 1)).pool 1 = .done result ∧
    AcceptsRepeat (request "first.pdf") renamed ((settled renamed).shared.redis.hashes (key "a1"))
      ((play (settled renamed) (.redis 1)).shared.redis.hashes (key "a1")) result := by
  refine ⟨_, rfl, ?_⟩
  obtain ⟨stored, decoded, told⟩ := repeat_told (fun _ => Or.inl rfl) (resubmitted renamed rfl)
  cases decoded
  refine told.mpr fun same => ?_
  exact absurd same.supplierName (by decide)

/-- Another path is not: the repeat is accepted with the path of the first registration. -/
theorem repeat_misplaced : ∃ result, Repeated .sample (fun _ => "a1") (submitted (request "second.pdf")) (.free (Fin 3)) Redis.empty
      0 1 (request "first.pdf") (request "second.pdf") (settled (request "second.pdf"))
      (play (settled (request "second.pdf")) (.redis 1)) result ∧
    ¬ AcceptsRepeat (request "first.pdf") (request "second.pdf") ((settled (request "second.pdf")).shared.redis.hashes (key "a1"))
      ((play (settled (request "second.pdf")) (.redis 1)).shared.redis.hashes (key "a1")) result := by
  refine ⟨_, resubmitted _ rfl, fun accepted => ?_⟩
  have same := accepted.accepts.mp ⟨_, rfl⟩
  exact absurd same.pdfPath (by decide)

end Retries
end OpenClaw.Approvals
