import OpenClawService.Approvals.Protocol

/-! The lifecycle of one approval: with every save made over the record that it
was made from, a record keeps its registration and, once resolved, everything. -/
namespace OpenClaw.Approvals
open Interleaving ApprovalStore

/-- What a record keeps of its registration. -/
def registered (approval : ApprovalRequest) : Registration × Int :=
  (⟨approval.approvalId, approval.invoiceCaseId, approval.pdfPath, approval.invoiceNumber, approval.supplierName,
    approval.approveUrl, approval.rejectUrl⟩, approval.createdAt)

structure Forward (before after : ApprovalRequest) : Prop where
  registered : registered after = registered before
  final : before.status = "resolved" → after = before

theorem Forward.refl (approval : ApprovalRequest) : Forward approval approval := ⟨rfl, fun _ => rfl⟩

theorem Forward.trans (first : Forward before between) (second : Forward between after) : Forward before after := by
  constructor
  · rw [second.registered, first.registered]
  · intro resolved
    have same := first.final resolved
    subst same
    exact second.final resolved

section Lifecycle
variable [Library] {ι : Type} [DecidableEq ι] {settings : Settings} {approvalId : String} {jobs : ι → Job}

/-- Any number of calls on the approval. -/
def calls (settings : Settings) (approvalId : String) (jobs : ι → Job) :
    ι → Prog Op Op.Answer (Except Exc ApprovalRequest) :=
  fun i => ((jobs i).run settings approvalId).run

def phase (settings : Settings) (approvalId : String) (jobs : ι → Job) (log : List (Entry ι)) : ι → Phase :=
  view (fun i => protocol settings approvalId (jobs i)) (fun _ => .asked) log

/-- Who is about to save the record holds the hash as it is stored. -/
def Unmoved (settings : Settings) (approvalId : String) (jobs : ι → Job)
    (c : ServiceConfig ι (Except Exc ApprovalRequest)) : Option ι → Prop
  | none => True
  | some i => match c.pool i with
    | .await (.redis (.hset target _)) _ => target = key approvalId →
        (phase settings approvalId jobs c.shared.log i).inHand = some (c.shared.redis.hashes (key approvalId))
    | _ => True

/-- The stored record names the approval. -/
def Named (approvalId : String) (hash : List (String × String)) : Prop :=
  ∀ approval, decode hash = .ok (some approval) → approval.approvalId = approvalId

def Conformant (settings : Settings) (approvalId : String) (jobs : ι → Job)
    (c : ServiceConfig ι (Except Exc ApprovalRequest)) : Prop :=
  Conforming (fun i => protocol settings approvalId (jobs i)) (fun w => phase settings approvalId jobs w.log)
    (fun i => Ended (jobs i)) c

theorem conformant_start (redis : Redis ι) :
    Conformant settings approvalId jobs ⟨⟨redis, []⟩, calls settings approvalId jobs⟩ :=
  fun i => job_meets (jobs i)

/-- No call deletes a record. -/
theorem undeleted {job : Job} {p : Phase} : ¬ admits settings approvalId job p (.redis (.delHash k)) := by
  intro admitted
  cases p with
  | asked => cases admitted
  | saved => exact admitted
  | read => cases admitted.2
  | timed loaded now =>
    cases job with
    | register => cases admitted.2
    | get => exact admitted.2
    | decide =>
      obtain ⟨approval, same⟩ := admitted.2
      cases same
  | announced loaded now webhookResult =>
    cases job with
    | register | get => exact admitted.2
    | decide =>
      obtain ⟨approval, _, same⟩ := admitted.2
      cases same

/-- A save over the hash that it was made from. -/
theorem save_forward {job : Job} {p : Phase} {hash mapping : List (String × String)} (named : Named approvalId hash)
    (admitted : admits settings approvalId job p (.redis (.hset (key approvalId) mapping)))
    (unmoved : p.inHand = some hash) :
    ∃ after, decode (Redis.merge hash mapping) = .ok (some after) ∧ after.approvalId = approvalId ∧
      ∀ before, decode hash = .ok (some before) → Forward before after := by
  cases p with
  | asked | read | saved => cases unmoved
  | timed loaded now =>
    cases unmoved
    obtain ⟨opened, next⟩ := admitted
    cases job with
    | get => exact opened.elim
    | decide decision note decisionSource =>
      obtain ⟨approval, same⟩ := next
      cases same
    | register request =>
      simp only [Job.next, Op.redis.injEq, Command.hset.injEq, true_and] at next
      subst next
      have absent : decode hash = .ok none := opened
      refine ⟨_, decode_merge _ _ (by simp [RegisterApproval.pending]), rfl, fun before existing => ?_⟩
      rw [absent] at existing
      cases existing
  | announced loaded now webhookResult =>
    cases unmoved
    obtain ⟨opened, next⟩ := admitted
    cases job with
    | register | get => exact next.elim
    | decide decision note decisionSource =>
      obtain ⟨approval, ⟨decoded, pending⟩, same⟩ := next
      simp only [Op.redis.injEq, Command.hset.injEq] at same
      obtain ⟨_, rfl⟩ := same
      refine ⟨_, decode_merge _ _ (by simp [RecordDecision.resolved]), named approval decoded, fun before existing => ?_⟩
      rw [decoded] at existing
      cases existing
      exact ⟨rfl, fun resolved => by simp [pending] at resolved⟩

/-- The record as it was at the start of a run has only moved forward. -/
structure Evolved (approvalId : String) (start hash : List (String × String)) : Prop where
  named : Named approvalId hash
  forward : decode start = .ok (some before) → ∃ after, decode hash = .ok (some after) ∧ Forward before after

theorem forward_run {env : Environment ι} {c d : ServiceConfig ι (Except Exc ApprovalRequest)}
    (conformant : Conformant settings approvalId jobs c)
    (named : Named approvalId (c.shared.redis.hashes (key approvalId)))
    (run : Run (system env) (Unmoved settings approvalId jobs) c d) :
    Evolved approvalId (c.shared.redis.hashes (key approvalId)) (d.shared.redis.hashes (key approvalId)) ∧
      Conformant settings approvalId jobs d := by
  apply Conforming.run (I := fun w => Evolved approvalId (c.shared.redis.hashes (key approvalId))
    (w.redis.hashes (key approvalId))) (tracks env _ _) ?_ ?_ run ⟨named, fun found => ⟨_, found, .refl _⟩⟩ conformant
  · intro c i op resume answer w evolved _ unmoved pending admitted served
    refine ⟨trivial, ?_⟩
    cases served with
    | outside allowed => exact evolved
    | redis command =>
      by_cases saves : command.modifiesHash = some (key approvalId)
      · cases command with
        | hset target mapping =>
          cases saves
          simp only [Unmoved, pending] at unmoved
          obtain ⟨after, decoded, name, forward⟩ := save_forward evolved.named admitted (unmoved trivial)
          have written : (c.shared.redis.exec i (.hset (key approvalId) mapping)).2.hashes (key approvalId) =
              Redis.merge (c.shared.redis.hashes (key approvalId)) mapping := Function.update_self ..
          constructor
          · intro approval found
            rw [written, decoded] at found
            cases found
            exact name
          · intro before existing
            obtain ⟨between, found, first⟩ := evolved.forward existing
            rw [written]
            exact ⟨after, decoded, first.trans (forward between found)⟩
        | delHash => exact (undeleted admitted).elim
        | _ => cases saves
      · rw [c.shared.redis.exec_hashes i saves]
        exact evolved
  · intro c w evolved _ drifted
    cases drifted with
    | expire | invoice => exact evolved

theorem lifecycle_forward {redis : Redis ι} {env : Environment ι} {c d : ServiceConfig ι (Except Exc ApprovalRequest)}
    (named : Named approvalId (redis.hashes (key approvalId)))
    (run : Run (system env) (Unmoved settings approvalId jobs) ⟨⟨redis, []⟩, calls settings approvalId jobs⟩ c)
    (later : Run (system env) (Unmoved settings approvalId jobs) c d)
    (existing : decode (c.shared.redis.hashes (key approvalId)) = .ok (some before)) :
    ∃ after, decode (d.shared.redis.hashes (key approvalId)) = .ok (some after) ∧ Forward before after := by
  obtain ⟨evolved, conformant⟩ := forward_run (conformant_start redis) named run
  obtain ⟨evolved', _⟩ := forward_run conformant evolved.named later
  exact evolved'.forward existing

end Lifecycle

section Stale
local instance : Library := .sample

def request (pdfPath : String) : Registration :=
  ⟨"a1", "case", pdfPath, "INV-1", "Supplier", "https://example.test/approve", "https://example.test/reject"⟩

/-- Two registrations of one approval, and a decision. -/
def filed : Fin 3 → Job
  | 0 => .register (request "first.pdf")
  | 1 => .register (request "second.pdf")
  | 2 => .decide "approved" none "web_form"

def filing : ServiceConfig (Fin 3) (Except Exc ApprovalRequest) :=
  ⟨⟨Redis.empty, []⟩, calls .sample "a1" filed⟩

/-- The registration is saved and the decision made. -/
def resolution : List (Move (Fin 3)) :=
  [.redis 0, .outside 0 Outside.silence, .redis 0, .redis 2, .outside 2 Outside.silence, .outside 2 Outside.silence,
    .redis 2]

theorem lifecycle_resolved : ∃ after,
    decode ((resolution.foldl play filing).shared.redis.hashes (key "a1")) = .ok (some after) ∧
      Forward (RegisterApproval.pending (request "first.pdf") 0) after := by
  have legal : LegalAlong (.free (Fin 3)) (Unmoved .sample "a1" filed) filing resolution :=
    ⟨trivial, ⟨trivial, trivial⟩, fun _ => rfl, trivial, ⟨trivial, trivial⟩, ⟨trivial, trivial⟩, fun _ => rfl, trivial⟩
  have named : Named "a1" ((Redis.empty : Redis (Fin 3)).hashes (key "a1")) := by
    rintro approval ⟨⟩
  have registration : Run (system (.free (Fin 3))) (Unmoved .sample "a1" filed) filing
      ((resolution.take 3).foldl play filing) :=
    plays_run ⟨legal.1, legal.2.1, legal.2.2.1, trivial⟩
  have decision : Run (system (.free (Fin 3))) (Unmoved .sample "a1" filed)
      ((resolution.take 3).foldl play filing) ((resolution.drop 3).foldl play ((resolution.take 3).foldl play filing)) :=
    plays_run legal.2.2.2
  exact lifecycle_forward named registration decision rfl

/-- The other registration loads before the first one saves, and saves after the decision. -/
def early : List (Move (Fin 3)) := .redis 1 :: resolution

def late : List (Move (Fin 3)) := [.outside 1 Outside.silence, .redis 1]

/-- It overwrites the resolved record with its own pending one. -/
theorem lifecycle_reverted : ∃ c d before after,
    Reaches (system (.free (Fin 3))) filing c ∧ Reaches (system (.free (Fin 3))) c d ∧
      decode (c.shared.redis.hashes (key "a1")) = .ok (some before) ∧ before.status = "resolved" ∧
      decode (d.shared.redis.hashes (key "a1")) = .ok (some after) ∧ after.status = "pending" ∧
      registered after ≠ registered before := by
  refine ⟨early.foldl play filing, late.foldl play (early.foldl play filing), _, _,
    plays_run (free_legal ..), plays_run (free_legal ..), rfl, rfl, rfl, rfl, ?_⟩
  decide

end Stale
end OpenClaw.Approvals
