import OpenClawService.Approvals.Lifecycle

/-! Decisions on one approval: where none of them loads the record while another
is on its way to save, one decision is announced, stored and returned. -/
namespace OpenClaw.Approvals
open Interleaving ApprovalStore

structure Decision where
  decision : String
  note : Option String
  decisionSource : String

def Decision.job (made : Decision) : Job := .decide made.decision made.note made.decisionSource

/-- The webhook calls, with the worker of each. -/
def announcements {ι : Type} : List (Entry ι) → List (ι × HttpRequest)
  | [] => []
  | .call i (.outside (.http request)) _ :: rest => (i, request) :: announcements rest
  | _ :: rest => announcements rest

/-- The hash that a call has loaded and not yet saved over. -/
def Phase.loaded : Phase → Option (List (String × String))
  | .read hash | .timed hash _ | .announced hash _ _ => some hash
  | _ => none

section Decisions
variable [Library] {ι : Type} [DecidableEq ι] {settings : Settings} {approvalId : String} {decisions : ι → Decision}

/-- The call has loaded a record that it is going to save over. -/
def Busy (job : Job) (p : Phase) : Prop :=
  ∃ hash, p.loaded = some hash ∧ job.Open hash

def decided (settings : Settings) (approvalId : String) (decisions : ι → Decision) (log : List (Entry ι)) : ι → Phase :=
  phase settings approvalId (fun i => (decisions i).job) log

/-- A valid decision loads the record only while no other is on its way to save. -/
def Serial (settings : Settings) (approvalId : String) (decisions : ι → Decision)
    (c : ServiceConfig ι (Except Exc ApprovalRequest)) : Option ι → Prop
  | none => True
  | some i => match c.pool i with
    | .await (.redis (.hgetall _)) _ => RecordDecision.check (decisions i).decision (decisions i).note = .ok () →
        ∀ j, ¬ Busy (decisions j).job (decided settings approvalId decisions c.shared.log j)
    | _ => True

structure Inv (settings : Settings) (approvalId : String) (decisions : ι → Decision) (w : World ι) : Prop where
  recorded : ∃ approval, decode (w.redis.hashes (key approvalId)) = .ok (some approval) ∧
    approval.approvalId = approvalId
  held : Busy (decisions i).job (decided settings approvalId decisions w.log i) →
    (decided settings approvalId decisions w.log i).loaded = some (w.redis.hashes (key approvalId))
  alone : Busy (decisions i).job (decided settings approvalId decisions w.log i) →
    Busy (decisions j).job (decided settings approvalId decisions w.log j) → i = j
  opened : (decided settings approvalId decisions w.log i).inHand = some loaded → (decisions i).job.Open loaded
  found : decided settings approvalId decisions w.log i = .read loaded → decode loaded = .ok (some approval) →
    approval.status ≠ "pending" → loaded = w.redis.hashes (key approvalId)
  saved : decided settings approvalId decisions w.log i = .saved mapping →
    ∃ approval, decode (w.redis.hashes (key approvalId)) = .ok (some approval) ∧
      approval.status = "resolved" ∧ approval.decision = some (decisions i).decision
  announced : announcements w.log = [] ∨ ∃ i approval, announcements w.log =
      [(i, Webhook.notification settings approval (decisions i).decision (decisions i).note)] ∧
    ((∃ hash now webhookResult, decided settings approvalId decisions w.log i = .announced hash now webhookResult) ∨
      ∃ mapping, decided settings approvalId decisions w.log i = .saved mapping)

section Phases
variable {log : List (Entry ι)} {i j : ι} {op : Op} {answer : op.Answer}

theorem decided_own : decided settings approvalId decisions (.call i op answer :: log) i =
    advance (decided settings approvalId decisions log i) op answer := view_own ..

theorem decided_other (other : j ≠ i) : decided settings approvalId decisions (.call i op answer :: log) j =
    decided settings approvalId decisions log j := view_other _ _ _ other ..

omit [Library] [DecidableEq ι] in
theorem announcements_other (other : ∀ request, op ≠ .outside (.http request)) :
    announcements (.call i op answer :: log) = announcements log := by
  cases op with
  | redis command => rfl
  | outside call =>
    cases call with
    | http request => exact (other request rfl).elim
    | _ => rfl

omit [DecidableEq ι] in
/-- What a decision loaded to save over is a pending record. -/
theorem pending_of_open {made : Decision} {loaded : List (String × String)} (opened : made.job.Open loaded) :
    (∃ approval, Pending loaded approval) ∧ RecordDecision.check made.decision made.note = .ok () := opened

omit [Library] in
theorem inHand_loaded {p : Phase} (inHand : p.inHand = some loaded) : p.loaded = some loaded := by
  cases p <;> simp_all [Phase.inHand, Phase.loaded]

omit [DecidableEq ι] in
/-- A valid decision is kept by the hash. -/
theorem decision_kept (valid : RecordDecision.check decision note = .ok ()) : orNone decision = some decision := by
  by_cases empty : decision = ""
  · subst empty
    simp [RecordDecision.check, RecordDecision.decisions] at valid
  · simp [orNone, empty]

end Phases

namespace Inv
variable {w w' : World ι} {i j : ι} {op : Op} {answer : op.Answer} {env : Environment ι} {p : Phase}

/-- A call that has found its record open is busy. -/
theorem busy (inv : Inv settings approvalId decisions w)
    (inHand : (decided settings approvalId decisions w.log i).inHand = some loaded) :
    Busy (decisions i).job (decided settings approvalId decisions w.log i) := ⟨loaded, inHand_loaded inHand, inv.opened inHand⟩

/-- A stored record that a busy call is to save over has not been decided. -/
theorem busy_unsaved (inv : Inv settings approvalId decisions w)
    (busy : Busy (decisions i).job (decided settings approvalId decisions w.log i)) :
    decided settings approvalId decisions w.log j ≠ .saved mapping := by
  intro saved
  have held := inv.held busy
  obtain ⟨loaded, found, opened⟩ := busy
  rw [held, Option.some.injEq] at found
  subst found
  obtain ⟨⟨approval, decoded, pending⟩, _⟩ := pending_of_open opened
  obtain ⟨stored, decoded', resolved, _⟩ := inv.saved saved
  rw [decoded] at decoded'
  cases decoded'
  rw [pending] at resolved
  contradiction

/-- A step before the announcement. -/
theorem quiet (inv : Inv settings approvalId decisions w)
    (moved : advance (decided settings approvalId decisions w.log i) op answer = p)
    (unannounced : ∀ request, op ≠ .outside (.http request))
    (loads : p.loaded = some (w.redis.hashes (key approvalId)) ∨ ¬ Busy (decisions i).job p)
    (alone : Busy (decisions i).job p → ∀ j, j ≠ i → ¬ Busy (decisions j).job (decided settings approvalId decisions w.log j))
    (opened : ∀ loaded, p.inHand = some loaded → (decisions i).job.Open loaded)
    (found : ∀ loaded approval, p = .read loaded → decode loaded = .ok (some approval) → approval.status ≠ "pending" →
      loaded = w.redis.hashes (key approvalId))
    (unsaved : ∀ mapping, p ≠ .saved mapping)
    (before : (∀ mapping, decided settings approvalId decisions w.log i ≠ .saved mapping) ∧
      ∀ hash now webhookResult, decided settings approvalId decisions w.log i ≠ .announced hash now webhookResult) :
    Inv settings approvalId decisions ⟨w.redis, .call i op answer :: w.log⟩ := by
  have own : decided settings approvalId decisions (.call i op answer :: w.log) i = p := decided_own.trans moved
  constructor
  case recorded => exact inv.recorded
  case held =>
    intro j busy
    rcases eq_or_ne j i with rfl | other
    · rw [own] at busy ⊢
      exact loads.resolve_right (not_not.mpr busy)
    · rw [decided_other other] at busy ⊢
      exact inv.held busy
  case alone =>
    intro j k first second
    rcases eq_or_ne j i with rfl | other
    · rcases eq_or_ne k j with rfl | other'
      · rfl
      · rw [own] at first
        rw [decided_other other'] at second
        exact (alone first k other' second).elim
    · rw [decided_other other] at first
      rcases eq_or_ne k i with rfl | other'
      · rw [own] at second
        exact (alone second j other first).elim
      · rw [decided_other other'] at second
        exact inv.alone first second
  case opened =>
    intro j loaded inHand
    rcases eq_or_ne j i with rfl | other
    · rw [own] at inHand
      exact opened loaded inHand
    · rw [decided_other other] at inHand
      exact inv.opened inHand
  case found =>
    intro j loaded approval read
    rcases eq_or_ne j i with rfl | other
    · rw [own] at read
      exact found loaded approval read
    · rw [decided_other other] at read
      exact inv.found read
  case saved =>
    intro j mapping saved
    rcases eq_or_ne j i with rfl | other
    · rw [own] at saved
      exact (unsaved mapping saved).elim
    · rw [decided_other other] at saved
      exact inv.saved saved
  case announced =>
    rw [announcements_other unannounced]
    rcases inv.announced with none | ⟨k, approval, one, at_phase⟩
    · exact Or.inl none
    · refine Or.inr ⟨k, approval, one, ?_⟩
      have other : k ≠ i := by
        rintro rfl
        rcases at_phase with ⟨_, _, _, at_phase⟩ | ⟨_, at_phase⟩
        · exact before.2 _ _ _ at_phase
        · exact before.1 _ at_phase
      rw [decided_other other]
      exact at_phase

/-- The one busy call announces its decision, and nobody has before. -/
theorem announce {outcome : Except String HttpResponse} (inv : Inv settings approvalId decisions w)
    (timed : decided settings approvalId decisions w.log i = .timed loaded now) :
    Inv settings approvalId decisions
      ⟨w.redis, .call i (.outside (.http (Webhook.notification settings approval (decisions i).decision
        (decisions i).note))) outcome :: w.log⟩ := by
  have own : decided settings approvalId decisions (.call i (.outside (.http (Webhook.notification settings approval
      (decisions i).decision (decisions i).note))) outcome :: w.log) i =
      .announced loaded now (Webhook.webhookResult outcome) := by
    rw [decided_own, timed]
    rfl
  have opened : (decisions i).job.Open loaded := inv.opened (by rw [timed, Phase.inHand])
  have busy : Busy (decisions i).job (decided settings approvalId decisions w.log i) := inv.busy (by rw [timed, Phase.inHand])
  have stays (j : ι) (still : Busy (decisions j).job (decided settings approvalId decisions (.call i (.outside
      (.http (Webhook.notification settings approval (decisions i).decision (decisions i).note))) outcome :: w.log) j)) :
      Busy (decisions j).job (decided settings approvalId decisions w.log j) := by
    rcases eq_or_ne j i with rfl | other
    · exact busy
    · rwa [decided_other other] at still
  constructor
  case recorded => exact inv.recorded
  case held =>
    intro j still
    have before := inv.held (stays j still)
    rcases eq_or_ne j i with rfl | other
    · rw [own]
      rwa [timed] at before
    · rwa [decided_other other]
  case alone => exact fun first second => inv.alone (stays _ first) (stays _ second)
  case opened =>
    intro j hash inHand
    rcases eq_or_ne j i with rfl | other
    · rw [own] at inHand
      cases inHand
      exact opened
    · rw [decided_other other] at inHand
      exact inv.opened inHand
  case found =>
    intro j hash found read
    rcases eq_or_ne j i with rfl | other
    · rw [own] at read
      cases read
    · rw [decided_other other] at read
      exact inv.found read
  case saved =>
    intro j mapping saved
    rcases eq_or_ne j i with rfl | other
    · rw [own] at saved
      cases saved
    · rw [decided_other other] at saved
      exact inv.saved saved
  case announced =>
    have none : announcements w.log = [] := by
      rcases inv.announced with none | ⟨k, other, _, ⟨hash, now', webhookResult, announced⟩ | ⟨mapping, saved⟩⟩
      · exact none
      · have same : k = i := inv.alone (inv.busy (by rw [announced, Phase.inHand])) busy
        rw [same, timed] at announced
        cases announced
      · exact (inv.busy_unsaved busy saved).elim
    refine Or.inr ⟨i, approval, ?_, Or.inl ⟨_, _, _, own⟩⟩
    rw [announcements, none]

/-- The announced decision is saved. -/
theorem save (inv : Inv settings approvalId decisions w)
    (announced : decided settings approvalId decisions w.log i = .announced loaded now webhookResult)
    (pending : Pending loaded approval) {redis : Redis ι}
    (written : redis.hashes (key approvalId) = Redis.merge (w.redis.hashes (key approvalId)) (toMapping
      (RecordDecision.resolved approval (decisions i).decision (decisions i).note (decisions i).decisionSource now
        webhookResult))) :
    Inv settings approvalId decisions ⟨redis, .call i (.redis (.hset (key approval.approvalId) (toMapping
      (RecordDecision.resolved approval (decisions i).decision (decisions i).note (decisions i).decisionSource now
        webhookResult)))) () :: w.log⟩ := by
  generalize made : RecordDecision.resolved approval (decisions i).decision (decisions i).note
    (decisions i).decisionSource now webhookResult = resolved at written ⊢
  have own : decided settings approvalId decisions
      (.call i (.redis (.hset (key approval.approvalId) (toMapping resolved))) () :: w.log) i =
      .saved (toMapping resolved) := by
    rw [decided_own, announced]
    rfl
  have opened : (decisions i).job.Open loaded := inv.opened (by rw [announced, Phase.inHand])
  have busy : Busy (decisions i).job (decided settings approvalId decisions w.log i) := inv.busy (by rw [announced, Phase.inHand])
  have current : loaded = w.redis.hashes (key approvalId) := by
    have held := inv.held busy
    rw [announced] at held
    exact Option.some.inj held
  have idle (j : ι) : ¬ Busy (decisions j).job (decided settings approvalId decisions
      (.call i (.redis (.hset (key approval.approvalId) (toMapping resolved))) () :: w.log) j) := by
    intro still
    rcases eq_or_ne j i with rfl | other
    · rw [own] at still
      obtain ⟨hash, loaded, _⟩ := still
      cases loaded
    · rw [decided_other other] at still
      exact other (inv.alone still busy)
  have stored : decode (redis.hashes (key approvalId)) = .ok (some (kept resolved)) := by
    rw [written]
    exact decode_merge _ _ (by simp [← made, RecordDecision.resolved])
  have named : approval.approvalId = approvalId := by
    obtain ⟨before, decoded, name⟩ := inv.recorded
    rw [← current, pending.1] at decoded
    cases decoded
    exact name
  constructor
  case recorded => exact ⟨_, stored, by rw [← made]; exact named⟩
  case held => exact fun still => (idle _ still).elim
  case alone => exact fun still => (idle _ still).elim
  case opened =>
    intro j hash inHand
    rcases eq_or_ne j i with rfl | other
    · rw [own] at inHand
      cases inHand
    · rw [decided_other other] at inHand
      exact inv.opened inHand
  case found =>
    intro j hash found read decoded unpending
    rcases eq_or_ne j i with rfl | other
    · rw [own] at read
      cases read
    · rw [decided_other other] at read
      have same := inv.found read decoded unpending
      rw [same, ← current, pending.1] at decoded
      cases decoded
      exact (unpending pending.2).elim
  case saved =>
    intro j mapping saved
    rcases eq_or_ne j i with rfl | other
    · refine ⟨_, stored, by rw [← made]; rfl, ?_⟩
      rw [← made]
      exact decision_kept (pending_of_open opened).2
    · rw [decided_other other] at saved
      exact (inv.busy_unsaved busy saved).elim
  case announced =>
    rcases inv.announced with none | ⟨k, other, one, at_phase⟩
    · exact Or.inl none
    · refine Or.inr ⟨k, other, one, Or.inr ?_⟩
      rcases at_phase with ⟨hash, now', result, at_phase⟩ | ⟨mapping, saved⟩
      · have same : k = i := inv.alone (inv.busy (by rw [at_phase, Phase.inHand])) busy
        rw [same]
        exact ⟨_, own⟩
      · exact (inv.busy_unsaved busy saved).elim

theorem served (inv : Inv settings approvalId decisions w)
    (serial : op = .redis (.hgetall (key approvalId)) →
      RecordDecision.check (decisions i).decision (decisions i).note = .ok () →
      ∀ j, ¬ Busy (decisions j).job (decided settings approvalId decisions w.log j))
    (admitted : admits settings approvalId (decisions i).job (decided settings approvalId decisions w.log i) op)
    (served : Served env i w op answer w') : Inv settings approvalId decisions w' := by
  cases at_phase : decided settings approvalId decisions w.log i with
  | asked =>
    rw [at_phase] at admitted
    obtain rfl := admitted
    cases served with
    | redis =>
      apply inv.quiet (p := .read (w.redis.hashes (key approvalId)))
      case moved =>
        rw [at_phase]
        rfl
      case loads => exact Or.inl rfl
      case alone =>
        rintro ⟨loaded, _, opened⟩ j _
        exact serial rfl (pending_of_open opened).2 j
      case found =>
        rintro loaded approval ⟨⟩ _ _
        rfl
      all_goals simp [at_phase, Phase.inHand]
  | read loaded =>
    rw [at_phase] at admitted
    obtain ⟨opened, rfl⟩ := admitted
    have busy : Busy (decisions i).job (decided settings approvalId decisions w.log i) :=
      ⟨loaded, by rw [at_phase, Phase.loaded], opened⟩
    have held := inv.held busy
    cases served with
    | outside allowed =>
      apply inv.quiet (p := .timed loaded answer)
      case moved =>
        rw [at_phase]
        rfl
      case loads =>
        rw [at_phase] at held
        exact Or.inl held
      case alone => exact fun _ j other still => other (inv.alone still busy)
      case opened =>
        rintro hash ⟨⟩
        exact opened
      all_goals simp [at_phase]
  | timed loaded now =>
    rw [at_phase] at admitted
    obtain ⟨_, approval, rfl⟩ := admitted
    cases served with
    | outside allowed => exact inv.announce at_phase
  | announced loaded now webhookResult =>
    rw [at_phase] at admitted
    obtain ⟨_, approval, pending, rfl⟩ := admitted
    have held := inv.held (inv.busy (by rw [at_phase, Phase.inHand]))
    rw [at_phase, Phase.loaded, Option.some.injEq] at held
    obtain ⟨stored, decoded, named⟩ := inv.recorded
    rw [← held, pending.1] at decoded
    cases decoded
    cases served with
    | redis =>
      apply inv.save at_phase pending
      rw [named]
      exact Function.update_self ..
  | saved mapping =>
    rw [at_phase] at admitted
    exact admitted.elim

theorem drifted (inv : Inv settings approvalId decisions w) (drifted : Drifted env w w') :
    Inv settings approvalId decisions w' := by
  cases drifted with
  | expire | invoice =>
    exact ⟨inv.recorded, inv.held, inv.alone, inv.opened, inv.found, inv.saved, inv.announced⟩

theorem start {redis : Redis ι} (recorded : decode (redis.hashes (key approvalId)) = .ok (some approval))
    (named : approval.approvalId = approvalId) : Inv settings approvalId decisions ⟨redis, []⟩ where
  recorded := ⟨approval, recorded, named⟩
  held busy := by
    obtain ⟨loaded, asked, _⟩ := busy
    cases asked
  alone busy := by
    obtain ⟨loaded, asked, _⟩ := busy
    cases asked
  opened inHand := by cases inHand
  found read := by cases read
  saved saved := by cases saved
  announced := Or.inl rfl

/-- What is announced is one call's decision, which is about to be saved or has been. -/
theorem announced_by (inv : Inv settings approvalId decisions w) {request : HttpRequest} (member : (i, request) ∈ announcements w.log) :
    (∃ approval, request = Webhook.notification settings approval (decisions i).decision (decisions i).note) ∧
      ((∃ hash now webhookResult, decided settings approvalId decisions w.log i = .announced hash now webhookResult) ∨
        ∃ mapping, decided settings approvalId decisions w.log i = .saved mapping) := by
  rcases inv.announced with none | ⟨k, approval, one, at_phase⟩
  · rw [none] at member
    cases member
  · rw [one, List.mem_singleton, Prod.mk.injEq] at member
    obtain ⟨rfl, rfl⟩ := member
    exact ⟨⟨approval, rfl⟩, at_phase⟩

theorem announced_once (inv : Inv settings approvalId decisions w) : (announcements w.log).length ≤ 1 := by
  rcases inv.announced with none | ⟨k, approval, one, _⟩
  · simp [none]
  · simp [one]

/-- The stored record holds the decision that was saved. -/
theorem settled (inv : Inv settings approvalId decisions w) {stored : ApprovalRequest}
    (decoded : decode (w.redis.hashes (key approvalId)) = .ok (some stored))
    (saved : decided settings approvalId decisions w.log i = .saved mapping) : stored.decision = some (decisions i).decision := by
  obtain ⟨approval, found, _, same⟩ := inv.saved saved
  rw [decoded] at found
  cases found
  exact same

/-- No call is busy with a stored record that is not pending. -/
theorem idle_of (inv : Inv settings approvalId decisions w) {stored : ApprovalRequest}
    (decoded : decode (w.redis.hashes (key approvalId)) = .ok (some stored)) (unpending : stored.status ≠ "pending") :
    ¬ Busy (decisions i).job (decided settings approvalId decisions w.log i) := by
  intro busy
  have held := inv.held busy
  obtain ⟨loaded, same, opened⟩ := busy
  rw [held, Option.some.injEq] at same
  subst same
  obtain ⟨⟨approval, found, pending⟩, _⟩ := pending_of_open opened
  rw [decoded] at found
  cases found
  exact unpending pending

/-- A call that returns a record returns the stored decision, and leaves no call busy. -/
theorem agreed (inv : Inv settings approvalId decisions w) {stored returned : ApprovalRequest}
    (decoded : decode (w.redis.hashes (key approvalId)) = .ok (some stored))
    (ending : Ended (decisions j).job (.ok returned) (decided settings approvalId decisions w.log j)) :
    returned.decision = stored.decision ∧ ∀ i, ¬ Busy (decisions i).job (decided settings approvalId decisions w.log i) := by
  generalize at_phase : decided settings approvalId decisions w.log j = p at ending
  generalize made : (decisions j).job = job at ending
  cases ending with
  | found read closed =>
    have unpending := closed _ _ _ made.symm
    rw [inv.found at_phase read unpending, decoded] at read
    cases read
    exact ⟨rfl, fun i => inv.idle_of decoded unpending⟩
  | registered => cases made
  | decided =>
    cases made
    exact ⟨(inv.settled decoded at_phase).symm, fun i busy => inv.busy_unsaved busy at_phase⟩

end Inv

theorem decision_run {redis : Redis ι} {env : Environment ι} {c : ServiceConfig ι (Except Exc ApprovalRequest)}
    (recorded : decode (redis.hashes (key approvalId)) = .ok (some approval)) (named : approval.approvalId = approvalId)
    (run : Run (system env) (Serial settings approvalId decisions)
      ⟨⟨redis, []⟩, calls settings approvalId fun i => (decisions i).job⟩ c) :
    Inv settings approvalId decisions c.shared ∧ Conformant settings approvalId (fun i => (decisions i).job) c := by
  apply Conforming.run (tracks env _ _) ?_ ?_ run (.start recorded named) (conformant_start redis)
  · intro c i op resume answer w inv _ serial pending admitted served
    refine ⟨trivial, inv.served ?_ admitted served⟩
    rintro rfl
    simpa only [Serial, pending] using serial
  · intro c w inv _ drifted
    exact inv.drifted drifted

theorem decision_once {redis : Redis ι} {env : Environment ι} {c : ServiceConfig ι (Except Exc ApprovalRequest)}
    (recorded : decode (redis.hashes (key approvalId)) = .ok (some approval))
    (named : approval.approvalId = approvalId)
    (run : Run (system env) (Serial settings approvalId decisions)
      ⟨⟨redis, []⟩, calls settings approvalId fun i => (decisions i).job⟩ c) :
    (announcements c.shared.log).length ≤ 1 ∧
    (∀ i request, (i, request) ∈ announcements c.shared.log → ∃ approval,
      request = Webhook.notification settings approval (decisions i).decision (decisions i).note) ∧
    ∃ stored, decode (c.shared.redis.hashes (key approvalId)) = .ok (some stored) ∧
      (∀ j returned, c.pool j = .done (.ok returned) → returned.decision = stored.decision) ∧
      (∀ i request j returned, (i, request) ∈ announcements c.shared.log → c.pool j = .done (.ok returned) →
        returned.decision = some (decisions i).decision) ∧
      ∀ i request result, (i, request) ∈ announcements c.shared.log → c.pool i = .done result →
        stored.decision = some (decisions i).decision := by
  obtain ⟨inv, conformant⟩ := decision_run recorded named run
  obtain ⟨stored, decoded, _⟩ := inv.recorded
  have ending {j : ι} {result : Except Exc ApprovalRequest} (ended : c.pool j = .done result) :
      Ended (decisions j).job result (decided settings approvalId decisions c.shared.log j) := conformant.finished ended
  refine ⟨inv.announced_once, fun i request member => (inv.announced_by member).1, stored, decoded,
    fun j returned ended => (inv.agreed decoded (ending ended)).1, ?_, ?_⟩
  · intro i request j returned member ended
    obtain ⟨same, idle⟩ := inv.agreed decoded (ending ended)
    rcases (inv.announced_by member).2 with ⟨hash, now, webhookResult, at_phase⟩ | ⟨mapping, saved⟩
    · refine (idle i ⟨hash, ?_, inv.opened ?_⟩).elim
      · rw [at_phase, Phase.loaded]
      · rw [at_phase, Phase.inHand]
    · rw [same, inv.settled decoded saved]
  · intro i request result member ended
    rcases (inv.announced_by member).2 with ⟨hash, now, webhookResult, at_phase⟩ | ⟨mapping, saved⟩
    · have unfinished := ending ended
      rw [at_phase] at unfinished
      cases unfinished
    · exact inv.settled decoded saved

end Decisions

section Overlap
local instance : Library := .sample

/-- The record as its registration leaves it. -/
def undecided : ApprovalRequest := RegisterApproval.pending (request "first.pdf") 0

/-- The approve and the reject link are both followed. -/
def links : Bool → Decision
  | true => ⟨"approved", none, "web_form"⟩
  | false => ⟨"rejected", none, "web_form"⟩

def followed : ServiceConfig Bool (Except Exc ApprovalRequest) :=
  ⟨⟨{ Redis.empty with hashes := fun _ => toMapping undecided }, []⟩, calls .sample "a1" fun i => (links i).job⟩

/-- One decision after the other. -/
def inTurn : List (Move Bool) :=
  [.redis true, .outside true Outside.silence, .outside true Outside.silence, .redis true, .redis false]

theorem decision_in_turn : (announcements (inTurn.foldl play followed).shared.log).length = 1 ∧
    ∃ stored, decode ((inTurn.foldl play followed).shared.redis.hashes (key "a1")) = .ok (some stored) ∧
      ∀ j returned, (inTurn.foldl play followed).pool j = .done (.ok returned) → returned.decision = stored.decision := by
  have run : Run (system (.free Bool)) (Serial .sample "a1" links) followed (inTurn.foldl play followed) := by
    apply plays_run
    refine ⟨?_, ⟨trivial, trivial⟩, ⟨trivial, trivial⟩, trivial, ?_, trivial⟩
    · rintro _ j ⟨loaded, ⟨⟩, _⟩
    · rintro _ (_ | _) ⟨loaded, ⟨⟩, _⟩
  have recorded : decode (followed.shared.redis.hashes (key "a1")) = .ok (some undecided) := rfl
  obtain ⟨_, _, stored, decoded, agreed, _⟩ := decision_once recorded rfl run
  exact ⟨rfl, stored, decoded, agreed⟩

/-- Both load the record before either has saved. -/
def overlap : List (Move Bool) :=
  [.redis true, .redis false, .outside true Outside.silence, .outside false Outside.silence,
    .outside true Outside.silence, .outside false Outside.silence, .redis true, .redis false]

/-- Two decisions are announced, and the first caller is told one that is not stored. -/
theorem decision_announced_twice : ∃ c returned stored, Reaches (system (.free Bool)) followed c ∧
    (announcements c.shared.log).length = 2 ∧ c.pool true = .done (.ok returned) ∧
    decode (c.shared.redis.hashes (key "a1")) = .ok (some stored) ∧
    returned.decision = some "approved" ∧ stored.decision = some "rejected" :=
  ⟨overlap.foldl play followed, _, _, plays_run (free_legal ..), rfl, rfl, rfl, rfl, rfl⟩

end Overlap
end OpenClaw.Approvals
