import OpenClawService.Approvals.Records

/-! Every stored approval is well formed, whatever calls on whatever approvals
interleave, and complete once one of them has written it. -/
namespace OpenClaw.Approvals
open Interleaving ApprovalStore

section Shapes
variable [Library] {ι : Type} [DecidableEq ι] {settings : Settings} {ids : ι → String} {jobs : ι → Job}

/-- Any number of calls, each on its own approval. -/
def traffic (settings : Settings) (ids : ι → String) (jobs : ι → Job) : ι → Prog Op Op.Answer (Except Exc ApprovalRequest) :=
  fun i => ((jobs i).run settings (ids i)).run

def stage (settings : Settings) (ids : ι → String) (jobs : ι → Job) (log : List (Entry ι)) : ι → Phase :=
  view (fun i => protocol settings (ids i) (jobs i)) (fun _ => .asked) log

/-- Some call has written the record. -/
def Written (approvalId : String) (log : List (Entry ι)) : Prop :=
  ∃ i mapping, .call i (.redis (.hset (key approvalId) mapping)) () ∈ log

/-- There is no record, or a well-formed one. -/
def Sound (approvalId : String) (hash : List (String × String)) (written : Prop) : Prop :=
  hash = [] ∨ ∃ approval, decode hash = .ok (some approval) ∧ WellFormed approvalId approval ∧ (written → Complete approval)

/-- The call has found a record, or has saved one. -/
def Phase.Found : Phase → Prop
  | .read hash | .timed hash _ | .announced hash _ _ => hash ≠ []
  | .saved _ => True
  | .asked => False

structure Shapes (settings : Settings) (ids : ι → String) (jobs : ι → Job) (w : World ι) : Prop where
  stored (approvalId : String) : Sound approvalId (w.redis.hashes (key approvalId)) (Written approvalId w.log)
  held {hash : List (String × String)} : (stage settings ids jobs w.log i).loaded = some hash → Sound (ids i) hash False
  answered {hash : List (String × String)} : stage settings ids jobs w.log i = .announced hash now webhookResult → webhookResult ≠ ""
  present : (stage settings ids jobs w.log i).Found → w.redis.hashes (key (ids i)) ≠ []

omit [Library] [DecidableEq ι] in
theorem webhookResult_filled (answer : Except String HttpResponse) : Webhook.webhookResult answer ≠ "" := by
  intro empty
  have texts := congrArg String.toList empty
  unfold Webhook.webhookResult at texts
  split at texts
  · split at texts <;> simp at texts
  · simp at texts

omit [DecidableEq ι] in
theorem merge_filled (hash : List (String × String)) (approval : ApprovalRequest) : Redis.merge hash (toMapping approval) ≠ [] := by
  simp [Redis.merge, toMapping]

namespace Shapes
variable {w w' : World ι} {i : ι} {op : Op} {answer : op.Answer} {env : Environment ι}

theorem advanced (inv : Shapes settings ids jobs w) {redis : Redis ι}
    (stored : ∀ approvalId, Sound approvalId (redis.hashes (key approvalId)) (Written approvalId (.call i op answer :: w.log)))
    (filled : ∀ approvalId, w.redis.hashes (key approvalId) ≠ [] → redis.hashes (key approvalId) ≠ [])
    (held : ∀ hash, (advance (stage settings ids jobs w.log i) op answer).loaded = some hash → Sound (ids i) hash False)
    (answered : ∀ hash now webhookResult, advance (stage settings ids jobs w.log i) op answer = .announced hash now webhookResult →
      webhookResult ≠ "")
    (present : (advance (stage settings ids jobs w.log i) op answer).Found → redis.hashes (key (ids i)) ≠ []) :
    Shapes settings ids jobs ⟨redis, .call i op answer :: w.log⟩ := by
  have own : stage settings ids jobs (.call i op answer :: w.log) i = advance (stage settings ids jobs w.log i) op answer :=
    view_own ..
  have beside {j : ι} (other : j ≠ i) : stage settings ids jobs (.call i op answer :: w.log) j = stage settings ids jobs w.log j :=
    view_other _ _ _ other ..
  constructor
  case stored => exact stored
  case held =>
    intro j hash loaded
    rcases eq_or_ne j i with rfl | other
    · rw [own] at loaded
      exact held hash loaded
    · rw [beside other] at loaded
      exact inv.held loaded
  case answered =>
    intro j now webhookResult hash announced
    rcases eq_or_ne j i with rfl | other
    · rw [own] at announced
      exact answered hash now webhookResult announced
    · rw [beside other] at announced
      exact inv.answered announced
  case present =>
    intro j found
    rcases eq_or_ne j i with rfl | other
    · rw [own] at found
      exact present found
    · rw [beside other] at found
      exact filled _ (inv.present found)

omit [Library] [DecidableEq ι] in
theorem written_before {approvalId : String} {log : List (Entry ι)} {entry : Entry ι}
    (unwritten : ∀ i mapping, entry ≠ .call i (.redis (.hset (key approvalId) mapping)) ())
    (written : Written approvalId (entry :: log)) : Written approvalId log := by
  obtain ⟨i, mapping, listed⟩ := written
  rcases List.mem_cons.mp listed with rfl | listed
  · exact (unwritten i mapping rfl).elim
  · exact ⟨i, mapping, listed⟩

omit [Library] [DecidableEq ι] in
theorem key_inj : key approvalId = key other ↔ approvalId = other := by
  simp [key]

/-- A step that stores nothing. -/
theorem quiet (inv : Shapes settings ids jobs w) (unwritten : ∀ k mapping, op ≠ .redis (.hset k mapping)) {redis : Redis ι}
    (hashes : ∀ approvalId, redis.hashes (key approvalId) = w.redis.hashes (key approvalId))
    (held : ∀ hash, (advance (stage settings ids jobs w.log i) op answer).loaded = some hash → Sound (ids i) hash False)
    (answered : ∀ hash now webhookResult, advance (stage settings ids jobs w.log i) op answer = .announced hash now webhookResult →
      webhookResult ≠ "")
    (present : (advance (stage settings ids jobs w.log i) op answer).Found → w.redis.hashes (key (ids i)) ≠ []) :
    Shapes settings ids jobs ⟨redis, .call i op answer :: w.log⟩ := by
  refine inv.advanced (fun approvalId => ?_) (fun approvalId filled => by rwa [hashes]) held answered (by rwa [hashes])
  rw [hashes]
  rcases inv.stored approvalId with empty | ⟨approval, decoded, formed, complete⟩
  · exact Or.inl empty
  · refine Or.inr ⟨approval, decoded, formed, fun written => complete (written_before ?_ written)⟩
    rintro j mapping ⟨⟩
    exact unwritten _ _ rfl

/-- A step that stores a complete record of its approval. -/
theorem saves (inv : Shapes settings ids jobs w) {record : ApprovalRequest} {redis : Redis ι}
    (written : redis.hashes = Function.update w.redis.hashes (key (ids i)) (Redis.merge (w.redis.hashes (key (ids i))) (toMapping record)))
    (complete : ∃ approval, decode (Redis.merge (w.redis.hashes (key (ids i))) (toMapping record)) = .ok (some approval) ∧
      WellFormed (ids i) approval ∧ Complete approval)
    (saved : advance (stage settings ids jobs w.log i) (.redis (.hset (key (ids i)) (toMapping record))) () = .saved (toMapping record)) :
    Shapes settings ids jobs ⟨redis, .call i (.redis (.hset (key (ids i)) (toMapping record))) () :: w.log⟩ := by
  have own : redis.hashes (key (ids i)) = Redis.merge (w.redis.hashes (key (ids i))) (toMapping record) := by
    rw [written, Function.update_self]
  have beside {approvalId : String} (other : approvalId ≠ ids i) : redis.hashes (key approvalId) = w.redis.hashes (key approvalId) := by
    rw [written, Function.update_of_ne (key_inj.not.mpr other)]
  refine inv.advanced (fun approvalId => ?_) (fun approvalId before => ?_) ?_ ?_ ?_
  · rcases eq_or_ne approvalId (ids i) with rfl | other
    · obtain ⟨approval, decoded, formed, complete⟩ := complete
      rw [own]
      exact Or.inr ⟨approval, decoded, formed, fun _ => complete⟩
    · rw [beside other]
      rcases inv.stored approvalId with empty | ⟨approval, decoded, formed, complete⟩
      · exact Or.inl empty
      · refine Or.inr ⟨approval, decoded, formed, fun written => complete (written_before ?_ written)⟩
        intro j mapping same
        simp only [Entry.call.injEq, Op.redis.injEq, Command.hset.injEq] at same
        exact other (key_inj.mp same.2.1.1).symm
  · rcases eq_or_ne approvalId (ids i) with rfl | other
    · rw [own]
      exact merge_filled _ _
    · rwa [beside other]
  · intro hash loaded
    rw [saved] at loaded
    cases loaded
  · intro hash now webhookResult announced
    rw [saved] at announced
    cases announced
  · rw [own]
    exact fun _ => merge_filled _ _

theorem served (inv : Shapes settings ids jobs w)
    (admitted : admits settings (ids i) (jobs i) (stage settings ids jobs w.log i) op) (served : Served env i w op answer w') :
    Shapes settings ids jobs w' := by
  cases at_stage : stage settings ids jobs w.log i with
  | asked =>
    rw [at_stage] at admitted
    subst admitted
    cases served with
    | redis =>
      refine inv.quiet (by simp) (fun _ => rfl) ?_ ?_ ?_ <;> simp only [at_stage, advance]
      · rintro hash ⟨⟩
        rcases inv.stored (ids i) with empty | ⟨approval, decoded, formed, _⟩
        · exact Or.inl empty
        · exact Or.inr ⟨approval, decoded, formed, False.elim⟩
      · exact nofun
      · exact id
  | read hash =>
    rw [at_stage] at admitted
    obtain ⟨_, rfl⟩ := admitted
    cases served with
    | outside allowed =>
      refine inv.quiet (by simp) (fun _ => rfl) ?_ ?_ ?_ <;> simp only [at_stage, advance]
      · rintro hash ⟨⟩
        exact inv.held (by rw [at_stage]; rfl)
      · exact nofun
      · exact fun found => inv.present (by rw [at_stage]; exact found)
  | timed hash now =>
    rw [at_stage] at admitted
    obtain ⟨opened, next⟩ := admitted
    cases job : jobs i with
    | get =>
      rw [job] at opened
      exact opened.elim
    | register request =>
      rw [job] at next
      obtain rfl := next
      cases served with
      | redis => exact inv.saves rfl ⟨_, pending_decodes _ now⟩ (by rw [at_stage]; rfl)
    | decide decision note decisionSource =>
      rw [job] at next
      obtain ⟨approval, rfl⟩ := next
      cases served with
      | outside allowed =>
        refine inv.quiet (by simp) (fun _ => rfl) ?_ ?_ ?_ <;> simp only [at_stage, advance]
        · rintro hash ⟨⟩
          exact inv.held (by rw [at_stage]; rfl)
        · rintro hash now webhookResult ⟨⟩
          exact webhookResult_filled _
        · exact fun found => inv.present (by rw [at_stage]; exact found)
  | announced hash now webhookResult =>
    rw [at_stage] at admitted
    obtain ⟨opened, next⟩ := admitted
    cases job : jobs i with
    | get | register =>
      rw [job] at next
      exact next.elim
    | decide decision note decisionSource =>
      rw [job] at next opened
      obtain ⟨approval, ⟨decoded, _⟩, rfl⟩ := next
      have named : approval.approvalId = ids i := by
        have sound : Sound (ids i) hash False := inv.held (by rw [at_stage]; rfl)
        rcases sound with rfl | ⟨_, found, formed, _⟩
        · cases decoded
        · rw [decoded] at found
          cases found
          exact formed.named
      rw [named] at served
      cases served with
      | redis =>
        exact inv.saves rfl (resolved_decodes named opened.2 (inv.answered at_stage) decisionSource now)
          (by rw [at_stage]; rfl)
  | saved mapping =>
    rw [at_stage] at admitted
    exact admitted.elim

theorem drifted (inv : Shapes settings ids jobs w) (drifted : Drifted env w w') : Shapes settings ids jobs w' := by
  cases drifted with
  | expire | invoice =>
    refine ⟨fun approvalId => ?_, inv.held, inv.answered, inv.present⟩
    rcases inv.stored approvalId with empty | ⟨approval, decoded, formed, complete⟩
    · exact Or.inl empty
    · exact Or.inr ⟨approval, decoded, formed, fun written => complete (written_before (by simp) written)⟩

theorem start {redis : Redis ι} (legacy : ∀ approvalId, redis.hashes (key approvalId) = [] ∨ Legacy approvalId (redis.hashes (key approvalId))) :
    Shapes settings ids jobs ⟨redis, []⟩ := by
  refine ⟨fun approvalId => ?_, nofun, nofun, False.elim⟩
  rcases legacy approvalId with empty | legacy
  · exact Or.inl empty
  · obtain ⟨approval, decoded, formed⟩ := legacy.decodes
    refine Or.inr ⟨approval, decoded, formed, ?_⟩
    rintro ⟨_, _, listed⟩
    cases listed

end Shapes

theorem conformant (redis : Redis ι) :
    Conforming (fun i => protocol settings (ids i) (jobs i)) (fun w => stage settings ids jobs w.log) (fun i => Ended (jobs i))
      (⟨⟨redis, []⟩, traffic settings ids jobs⟩ : ServiceConfig ι (Except Exc ApprovalRequest)) :=
  fun i => job_meets (jobs i)

theorem shapes_run {redis : Redis ι} {env : Environment ι} {c : ServiceConfig ι (Except Exc ApprovalRequest)}
    (legacy : ∀ approvalId, redis.hashes (key approvalId) = [] ∨ Legacy approvalId (redis.hashes (key approvalId)))
    (run : Reaches (system env) ⟨⟨redis, []⟩, traffic settings ids jobs⟩ c) :
    Shapes settings ids jobs c.shared ∧ Conforming (fun i => protocol settings (ids i) (jobs i))
      (fun w => stage settings ids jobs w.log) (fun i => Ended (jobs i)) c :=
  Conforming.run (tracks env _ _) (fun _ _ _ _ _ _ inv _ _ _ admitted served => ⟨trivial, inv.served admitted served⟩)
    (fun _ _ inv _ drifted => inv.drifted drifted) run (.start legacy) (conformant redis)

/-- In every state each stored approval decodes to a well-formed record, which is
complete when one of the calls has written it. -/
theorem approvals_well_formed {redis : Redis ι} {env : Environment ι} {c : ServiceConfig ι (Except Exc ApprovalRequest)}
    (legacy : ∀ approvalId, redis.hashes (key approvalId) = [] ∨ Legacy approvalId (redis.hashes (key approvalId)))
    (run : Reaches (system env) ⟨⟨redis, []⟩, traffic settings ids jobs⟩ c) (approvalId : String)
    (stored : c.shared.redis.hashes (key approvalId) ≠ []) :
    ∃ approval, decode (c.shared.redis.hashes (key approvalId)) = .ok (some approval) ∧ WellFormed approvalId approval ∧
      (Written approvalId c.shared.log → Complete approval) :=
  ((shapes_run legacy run).1.stored approvalId).resolve_left stored

end Shapes

section Filed
local instance filedBy : Library := .sample

/-- The registration and the decision leave a complete record. -/
theorem approvals_well_formed_resolved :
    ∃ approval, decode ((resolution.foldl play filing).shared.redis.hashes (key "a1")) = .ok (some approval) ∧
      WellFormed "a1" approval ∧ (Written "a1" (resolution.foldl play filing).shared.log → Complete approval) := by
  have run : Reaches (system (.free (Fin 3))) ⟨⟨Redis.empty, []⟩, traffic .sample (fun _ => "a1") filed⟩
      (resolution.foldl play filing) := plays_run (free_legal ..)
  exact approvals_well_formed (fun _ => Or.inl rfl) run "a1" nofun

end Filed
end OpenClaw.Approvals
