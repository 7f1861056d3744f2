import OpenClawService.UseCases.Approval

/-! The calls on one approval. Each of them loads the record; a registration
saves a new one when there is none, and a decision on a pending one is
announced before it is saved. -/
namespace OpenClaw.Approvals
open Interleaving ApprovalStore

inductive Job where
  | register (request : Registration)
  | get
  | decide (decision : String) (note : Option String) (decisionSource : String)

/-- Where a call stands, with what it has loaded. -/
inductive Phase where
  | asked
  | read (hash : List (String × String))
  | timed (hash : List (String × String)) (now : Int)
  | announced (hash : List (String × String)) (now : Int) (webhookResult : String)
  | saved (mapping : List (String × String))

/-- The hash that a call holds while it has still to save. -/
def Phase.inHand : Phase → Option (List (String × String))
  | .timed hash _ | .announced hash _ _ => some hash
  | _ => none

def advance : Phase → (op : Op) → op.Answer → Phase
  | .asked, .redis (.hgetall _), hash => .read hash
  | .read hash, .outside .now, now => .timed hash now
  | .timed hash now, .outside (.http _), answer => .announced hash now (Webhook.webhookResult answer)
  | .timed _ _, .redis (.hset _ mapping), _ | .announced _ _ _, .redis (.hset _ mapping), _ => .saved mapping
  | phase, _, _ => phase

variable [Library] {settings : Settings} {approvalId : String}

/-- Any of the calls, on the one approval. -/
def Job.run (settings : Settings) (approvalId : String) : Job → Async ApprovalRequest
  | .register request => RegisterApproval.execute { request with approvalId }
  | .get => GetApproval.execute approvalId
  | .decide decision note decisionSource => RecordDecision.execute settings approvalId decision note decisionSource

/-- The hash holds a record that a decision may resolve. -/
def Pending (hash : List (String × String)) (approval : ApprovalRequest) : Prop :=
  decode hash = .ok (some approval) ∧ approval.status = "pending"

/-- The call goes on to save when it loads the hash. -/
def Job.Open (hash : List (String × String)) : Job → Prop
  | .register _ => decode hash = .ok none
  | .get => False
  | .decide decision note _ => (∃ approval, Pending hash approval) ∧ RecordDecision.check decision note = .ok ()

/-- What a call may do next with the hash in hand. -/
def Job.next (settings : Settings) (approvalId : String) (job : Job) : Phase → Op → Prop
  | .read _, op => op = .outside .now
  | .timed _ now, op => match job with
    | .register request => op = .redis (.hset (key approvalId)
        (toMapping (RegisterApproval.pending { request with approvalId } now)))
    | .get => False
    | .decide decision note _ => ∃ approval, op = .outside (.http (Webhook.notification settings approval decision note))
  | .announced hash now webhookResult, op => match job with
    | .decide decision note decisionSource => ∃ approval, Pending hash approval ∧
        op = .redis (.hset (key approval.approvalId)
          (toMapping (RecordDecision.resolved approval decision note decisionSource now webhookResult)))
    | _ => False
  | _, _ => False

def admits (settings : Settings) (approvalId : String) (job : Job) : Phase → Op → Prop
  | .asked, op => op = .redis (.hgetall (key approvalId))
  | .read hash, op => job.Open hash ∧ job.next settings approvalId (.read hash) op
  | .timed hash now, op => job.Open hash ∧ job.next settings approvalId (.timed hash now) op
  | .announced hash now webhookResult, op =>
    job.Open hash ∧ job.next settings approvalId (.announced hash now webhookResult) op
  | .saved _, _ => False

def protocol (settings : Settings) (approvalId : String) (job : Job) : Protocol Op Op.Answer Phase :=
  ⟨admits settings approvalId job, fun _ _ _ => True, advance⟩

@[simp] theorem protocol_admits : (protocol settings approvalId job).admits = admits settings approvalId job := rfl

@[simp] theorem protocol_expects : (protocol settings approvalId job).expects l op answer := trivial

@[simp] theorem protocol_advance : (protocol settings approvalId job).advance = advance := rfl

/-- How a call may end. A decision that is returned is the call's own, or was found resolved. -/
inductive Ended : Job → Except Exc ApprovalRequest → Phase → Prop where
  | found {hash : List (String × String)} (decoded : decode hash = .ok (some approval))
      (closed : ∀ decision note decisionSource, job = .decide decision note decisionSource →
        approval.status ≠ "pending") : Ended job (.ok approval) (.read hash)
  | failed {hash : List (String × String)} (closed : ¬ job.Open hash) : Ended job (.error error) (.read hash)
  | registered : Ended (.register request) (.ok approval) (.saved (toMapping approval))
  | decided (pending : approval.status = "pending") : Ended (.decide decision note decisionSource)
      (.ok (RecordDecision.resolved approval decision note decisionSource now webhookResult))
      (.saved (toMapping (RecordDecision.resolved approval decision note decisionSource now webhookResult)))

theorem register_meets (request : Registration) :
    Meets (protocol settings approvalId (.register request)) (Job.run settings approvalId (.register request)) .asked
      (Ended (.register request)) := by
  simp only [Job.run, RegisterApproval.execute, load, Meets.bind_iff, Async.redis_meets, Meets.andThen_ok,
    Async.ofExcept_meets]
  refine ⟨rfl, fun hash _ => ?_⟩
  cases decoded : decode hash with
  | error error => exact .failed (by simp [Job.Open, decoded])
  | ok found =>
    cases found with
    | some existing =>
      simp only [Meets.andThen_ok]
      split
      · exact .found decoded (by simp)
      · exact .failed (by simp [Job.Open, decoded])
    | none =>
      simp only [Meets.andThen_ok, save, Meets.bind_iff, Async.outside_meets, Async.redis_meets, Meets.pure_iff]
      exact ⟨⟨decoded, rfl⟩, fun now _ => ⟨⟨decoded, rfl⟩, fun _ _ => .registered⟩⟩

theorem get_meets : Meets (protocol settings approvalId .get) (Job.run settings approvalId .get) .asked (Ended .get) := by
  simp only [Job.run, GetApproval.execute, load, Meets.bind_iff, Async.redis_meets, Meets.andThen_ok,
    Async.ofExcept_meets]
  refine ⟨rfl, fun hash _ => ?_⟩
  cases decoded : decode hash with
  | error error => exact .failed id
  | ok found =>
    cases found with
    | none => exact .failed id
    | some approval => exact .found decoded (by simp)

theorem decide_meets (decision : String) (note : Option String) (decisionSource : String) :
    Meets (protocol settings approvalId (.decide decision note decisionSource))
      (Job.run settings approvalId (.decide decision note decisionSource)) .asked
      (Ended (.decide decision note decisionSource)) := by
  simp only [Job.run, RecordDecision.execute, load, Meets.bind_iff, Async.redis_meets, Meets.andThen_ok,
    Async.ofExcept_meets]
  refine ⟨rfl, fun hash _ => ?_⟩
  cases decoded : decode hash with
  | error error => exact .failed (by simp [Job.Open, Pending, decoded])
  | ok found =>
    cases found with
    | none => exact .failed (by simp [Job.Open, Pending, decoded])
    | some approval =>
      simp only [Meets.andThen_ok]
      by_cases pending : approval.status = "pending"
      · rw [if_neg (not_not.mpr pending)]
        simp only [Meets.bind_iff, Async.ofExcept_meets]
        cases valid : RecordDecision.check decision note with
        | error error => exact .failed (by simp [Job.Open, valid])
        | ok stored =>
          simp only [Meets.andThen_ok, Webhook.notifyDecision, save, Meets.bind_iff, Async.outside_meets,
            Async.redis_meets, Meets.pure_iff]
          have opened : (Job.decide decision note decisionSource).Open hash := ⟨⟨approval, decoded, pending⟩, valid⟩
          exact ⟨⟨opened, rfl⟩, fun now _ => ⟨⟨opened, approval, rfl⟩, fun answer _ =>
            ⟨⟨opened, approval, ⟨decoded, pending⟩, rfl⟩, fun _ _ => .decided pending⟩⟩⟩
      · rw [if_pos pending]
        exact .found decoded fun _ _ _ _ => pending

theorem job_meets (job : Job) :
    Meets (protocol settings approvalId job) (job.run settings approvalId) .asked (Ended job) := by
  cases job with
  | register request => exact register_meets request
  | get => exact get_meets
  | decide decision note decisionSource => exact decide_meets decision note decisionSource

end OpenClaw.Approvals
