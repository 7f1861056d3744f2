import OpenClawService.Approvals.Shapes
import OpenClawService.Interleaving.Torn

/-! Decisions taken one after the other, with saves that fail and calls that are
cut off: what is announced has not been saved yet. -/
namespace OpenClaw.Approvals
open Interleaving ApprovalStore

section Announcements
variable [Library] {ι : Type} [DecidableEq ι] {settings : Settings} {ids : ι → String} {decisions : ι → Decision}
  {env : Environment ι}

/-- Any number of decisions, each on its own approval; a retry is one more of them. -/
def deciding (settings : Settings) (ids : ι → String) (decisions : ι → Decision) : ι → Prog Op Op.Answer (Except Exc ApprovalRequest) :=
  traffic settings ids fun i => (decisions i).job

/-- A save that fails and a call that is cut off both end in an exception. -/
def Broken (result : Except Exc ApprovalRequest) : Prop := ∃ exc, result = .error exc

/-- A call moves while every other one has ended or is yet to begin. -/
def InTurn (settings : Settings) (ids : ι → String) (decisions : ι → Decision) (c : ServiceConfig ι (Except Exc ApprovalRequest)) :
    Option ι → Prop
  | none => True
  | some i => ∀ j, j ≠ i → c.pool j = deciding settings ids decisions j ∨ ∃ result, c.pool j = .done result

/-- No decision that passes the checks finds a pending record. -/
def Needless (ids : ι → String) (decisions : ι → Decision) (c : ServiceConfig ι (Except Exc ApprovalRequest)) : Option ι → Prop
  | none => True
  | some i => match c.pool i with
    | .await (.redis (.hgetall _)) _ => RecordDecision.check (decisions i).decision (decisions i).note = .ok () →
        ∀ approval, ¬ Pending (c.shared.redis.hashes (key (ids i))) approval
    | _ => True

/-- The call is about to announce its decision. -/
def Announcing (c : ServiceConfig ι (Except Exc ApprovalRequest)) (i : ι) : Prop :=
  ∃ request resume, c.pool i = .await (.outside (.http request)) resume

/-- What is announced is already stored. -/
def Ordered (ids : ι → String) (decisions : ι → Decision) (c : ServiceConfig ι (Except Exc ApprovalRequest)) : Prop :=
  ∀ i, Announcing c i → ∃ stored, decode (c.shared.redis.hashes (key (ids i))) = .ok (some stored) ∧
    stored.status = "resolved" ∧ stored.decision = some (decisions i).decision

structure Persisted (ids : ι → String) (decisions : ι → Decision) (c : ServiceConfig ι (Except Exc ApprovalRequest)) : Prop where
  ordered : Ordered ids decisions c
  accepted {request : HttpRequest} {answer : Except String HttpResponse} :
    .call i (.outside (.http request)) answer ∈ c.shared.log → Webhook.webhookResult answer = "ok" → c.pool i = .done result →
      ∀ approval, ¬ Pending (c.shared.redis.hashes (key (ids i))) approval
  once (approvalId : String) : ((announcements c.shared.log).filter fun made => ids made.1 = approvalId).length ≤ 1

/-- A call that is under way holds the record as it is stored. -/
structure UnderWay (settings : Settings) (ids : ι → String) (decisions : ι → Decision)
    (c : ServiceConfig ι (Except Exc ApprovalRequest)) : Prop where
  conforming : Conforming (fun i => protocol settings (ids i) (decisions i).job)
    (fun w => stage settings ids (fun i => (decisions i).job) w.log) (fun _ _ _ => True) c
  current {op : Op} {resume : op.Answer → Prog Op Op.Answer (Except Exc ApprovalRequest)} {hash : List (String × String)} :
    c.pool i = .await op resume → (stage settings ids (fun i => (decisions i).job) c.shared.log i).loaded = some hash →
      c.shared.redis.hashes (key (ids i)) = hash

omit [DecidableEq ι] in
theorem deciding_asks (settings : Settings) (ids : ι → String) (decisions : ι → Decision) (i : ι) :
    ∃ resume, deciding settings ids decisions i = .await (.redis (.hgetall (key (ids i)))) resume := ⟨_, rfl⟩

omit [DecidableEq ι] in
/-- What a decision asks for tells where it stands. -/
theorem decide_admits {approvalId : String} {made : Decision} {p : Phase} {op : Op}
    (admitted : admits settings approvalId made.job p op) :
    (p = .asked ∧ op = .redis (.hgetall (key approvalId))) ∨
    (∃ hash, p = .read hash ∧ made.job.Open hash ∧ op = .outside .now) ∨
    (∃ hash now approval, p = .timed hash now ∧ made.job.Open hash ∧
      op = .outside (.http (Webhook.notification settings approval made.decision made.note))) ∨
    ∃ hash now webhookResult approval, p = .announced hash now webhookResult ∧ made.job.Open hash ∧
      op = .redis (.hset (key approval.approvalId)
        (toMapping (RecordDecision.resolved approval made.decision made.note made.decisionSource now webhookResult))) := by
  cases p with
  | asked => exact Or.inl ⟨rfl, admitted⟩
  | read hash => exact Or.inr (Or.inl ⟨hash, rfl, admitted⟩)
  | timed hash now =>
    obtain ⟨opened, approval, same⟩ := admitted
    exact Or.inr (Or.inr (Or.inl ⟨hash, now, approval, rfl, opened, same⟩))
  | announced hash now webhookResult =>
    obtain ⟨opened, approval, _, same⟩ := admitted
    exact Or.inr (Or.inr (Or.inr ⟨hash, now, webhookResult, approval, rfl, opened, same⟩))
  | saved => exact admitted.elim

namespace UnderWay
variable {c d : ServiceConfig ι (Except Exc ApprovalRequest)} {i j : ι}

theorem start (redis : Redis ι) : UnderWay settings ids decisions ⟨⟨redis, []⟩, deciding settings ids decisions⟩ where
  conforming i := (job_meets (decisions i).job).mono fun _ _ _ => trivial
  current := nofun

/-- Out of turn, only a call that has not loaded anything waits. -/
theorem idle (under : UnderWay settings ids decisions c) (turn : InTurn settings ids decisions c (some i)) (other : j ≠ i)
    {op : Op} {resume : op.Answer → Prog Op Op.Answer (Except Exc ApprovalRequest)} (pending : c.pool j = .await op resume) :
    stage settings ids (fun i => (decisions i).job) c.shared.log j = .asked := by
  rcases turn j other with unbegun | ⟨result, ended⟩
  · obtain ⟨resume', asks⟩ := deciding_asks settings ids decisions j
    rcases decide_admits (under.conforming.admitted (unbegun.trans asks)) with
      ⟨asked, _⟩ | ⟨_, _, _, ⟨⟩⟩ | ⟨_, _, _, _, _, ⟨⟩⟩ | ⟨_, _, _, _, _, _, ⟨⟩⟩
    exact asked
  · cases pending.symm.trans ended

/-- What the call in turn has loaded is what it was answered. -/
theorem moved (under : UnderWay settings ids decisions c) {op : Op} {answer : op.Answer} {w : World ι}
    {resume : op.Answer → Prog Op Op.Answer (Except Exc ApprovalRequest)} (pending : c.pool i = .await op resume)
    (served : Served env i c.shared op answer w) {hash : List (String × String)}
    (loaded : (stage settings ids (fun i => (decisions i).job) w.log i).loaded = some hash) : w.redis.hashes (key (ids i)) = hash := by
  have own : stage settings ids (fun i => (decisions i).job) w.log i =
      advance (stage settings ids (fun i => (decisions i).job) c.shared.log i) op answer := by
    cases served <;> exact view_own ..
  rw [own] at loaded
  rcases decide_admits (under.conforming.admitted pending) with ⟨at_stage, rfl⟩ | ⟨known, at_stage, _, rfl⟩ |
    ⟨known, now, approval, at_stage, _, rfl⟩ | ⟨known, now, webhookResult, approval, at_stage, _, rfl⟩
  all_goals rw [at_stage] at loaded; cases served
  case inl.redis => exact Option.some.inj loaded
  case inr.inl.outside => exact under.current pending (by rw [at_stage]; exact loaded)
  case inr.inr.inl.outside => exact under.current pending (by rw [at_stage]; exact loaded)
  case inr.inr.inr.redis => cases loaded

theorem torn (under : UnderWay settings ids decisions c) (turn : InTurn settings ids decisions c label)
    (step : TornStep (system env) Broken label c d) : UnderWay settings ids decisions d := by
  refine ⟨under.conforming.torn (tracks env _ _) (fun _ _ _ _ => trivial) (fun _ _ _ _ => trivial) step, ?_⟩
  have aside {i j : ι} {op asked : Op} {answer : asked.Answer} {w : World ι}
      {resume : op.Answer → Prog Op Op.Answer (Except Exc ApprovalRequest)} (turn : InTurn settings ids decisions c (some i))
      (other : j ≠ i) (pending : c.pool j = .await op resume) (served : Served env i c.shared asked answer w) :
      stage settings ids (fun i => (decisions i).job) w.log j = .asked := by
    rw [← under.idle turn other pending]
    exact (tracks env (fun i => protocol settings (ids i) (decisions i).job) fun _ => Phase.asked).others served other
  intro j op resume hash pending loaded
  cases step with
  | step step =>
    cases step with
    | drift drifted =>
      cases drifted with
      | expire | invoice => exact under.current pending loaded
    | @serve _ i asked next answer w waits served =>
      rcases eq_or_ne j i with rfl | other
      · exact under.moved waits served loaded
      · rw [aside turn other ((Function.update_of_ne other ..).symm.trans pending) served] at loaded
        cases loaded
  | @cut i result _ asked next waits ended =>
    rcases eq_or_ne j i with rfl | other
    · cases (Function.update_self ..).symm.trans pending
    · exact under.current ((Function.update_of_ne other ..).symm.trans pending) loaded
  | @late i w result _ asked next answer waits served ended =>
    rcases eq_or_ne j i with rfl | other
    · cases (Function.update_self ..).symm.trans pending
    · rw [aside turn other ((Function.update_of_ne other ..).symm.trans pending) served] at loaded
      cases loaded

/-- An announcement is made on a record that is still pending. -/
theorem unsaved (under : UnderWay settings ids decisions c) (announcing : Announcing c i) :
    ∃ approval, Pending (c.shared.redis.hashes (key (ids i))) approval := by
  obtain ⟨request, resume, pending⟩ := announcing
  rcases decide_admits (under.conforming.admitted pending) with
    ⟨_, ⟨⟩⟩ | ⟨_, _, _, ⟨⟩⟩ | ⟨hash, now, approval, at_stage, opened, _⟩ | ⟨_, _, _, _, _, _, ⟨⟩⟩
  rw [under.current pending (by rw [at_stage]; rfl)]
  exact (pending_of_open opened).1

theorem ordered_iff (under : UnderWay settings ids decisions c) : Ordered ids decisions c ↔ ∀ i, ¬ Announcing c i := by
  constructor
  · intro ordered i announcing
    obtain ⟨stored, decoded, resolved, _⟩ := ordered i announcing
    obtain ⟨approval, found, pending⟩ := under.unsaved announcing
    rw [decoded] at found
    cases found
    rw [pending] at resolved
    contradiction
  · exact fun none i announcing => (none i announcing).elim

end UnderWay

/-- No call has anything to save, and nothing has been announced. -/
structure Silent (settings : Settings) (ids : ι → String) (decisions : ι → Decision) (w : World ι) : Prop where
  closed {hash : List (String × String)} : (stage settings ids (fun i => (decisions i).job) w.log i).loaded = some hash →
    ¬ (decisions i).job.Open hash
  silent : announcements w.log = []

omit [Library] [DecidableEq ι] in
theorem announcements_mem {log : List (Entry ι)} {request : HttpRequest} {answer : Except String HttpResponse}
    (listed : .call i (.outside (.http request)) answer ∈ log) : (i, request) ∈ announcements log := by
  induction log with
  | nil => cases listed
  | cons entry rest ih =>
    rcases List.mem_cons.mp listed with rfl | listed
    · exact List.mem_cons_self
    · have before := ih listed
      unfold announcements
      split
      · exact absurd ‹_› (by simp)
      · rename_i same
        cases same
        exact List.mem_cons_of_mem _ before
      · rename_i same
        cases same
        exact before

namespace Silent
variable {c d : ServiceConfig ι (Except Exc ApprovalRequest)} {i j : ι}

theorem start (redis : Redis ι) : Silent settings ids decisions ⟨redis, []⟩ := ⟨nofun, rfl⟩

/-- The only request that is left to a call is to load its record. -/
theorem served (quiet : Silent settings ids decisions c.shared) (under : UnderWay settings ids decisions c)
    (needless : Needless ids decisions c (some i)) {op : Op} {answer : op.Answer} {w : World ι}
    {resume : op.Answer → Prog Op Op.Answer (Except Exc ApprovalRequest)} (pending : c.pool i = .await op resume)
    (served : Served env i c.shared op answer w) : Silent settings ids decisions w := by
  have closed {hash : List (String × String)} (loaded : (stage settings ids (fun i => (decisions i).job) c.shared.log i).loaded = some hash)
      (opened : (decisions i).job.Open hash) : False := quiet.closed loaded opened
  rcases decide_admits (under.conforming.admitted pending) with ⟨at_stage, rfl⟩ | ⟨hash, at_stage, opened, _⟩ |
    ⟨hash, _, _, at_stage, opened, _⟩ | ⟨hash, _, _, _, at_stage, opened, _⟩
  case inr.inl | inr.inr.inl | inr.inr.inr => exact (closed (by rw [at_stage]; rfl) opened).elim
  cases served with
  | redis =>
    simp only [Needless, pending] at needless
    refine ⟨?_, quiet.silent⟩
    intro j hash loaded opened
    rcases eq_or_ne j i with rfl | other
    · rw [stage, view_own] at loaded
      change (advance (stage settings ids (fun i => (decisions i).job) c.shared.log j) _ _).loaded = _ at loaded
      rw [at_stage] at loaded
      cases loaded
      obtain ⟨⟨approval, pending⟩, valid⟩ := pending_of_open opened
      exact needless valid approval pending
    · rw [stage, view_other _ _ _ other] at loaded
      exact quiet.closed loaded opened

theorem torn (quiet : Silent settings ids decisions c.shared) (under : UnderWay settings ids decisions c)
    (needless : Needless ids decisions c label) (step : TornStep (system env) Broken label c d) :
    Silent settings ids decisions d.shared := by
  cases step with
  | step step =>
    cases step with
    | drift drifted =>
      cases drifted with
      | expire | invoice => exact ⟨quiet.closed, quiet.silent⟩
    | serve waits served => exact quiet.served under needless waits served
  | cut => exact quiet
  | late waits served ended => exact quiet.served under needless waits served

theorem persisted (quiet : Silent settings ids decisions c.shared) (under : UnderWay settings ids decisions c) :
    Persisted ids decisions c := by
  constructor
  case ordered =>
    refine under.ordered_iff.mpr ?_
    rintro i ⟨request, resume, pending⟩
    rcases decide_admits (under.conforming.admitted pending) with
      ⟨_, ⟨⟩⟩ | ⟨_, _, _, ⟨⟩⟩ | ⟨hash, now, approval, at_stage, opened, _⟩ | ⟨_, _, _, _, _, _, ⟨⟩⟩
    exact quiet.closed (by rw [at_stage]; rfl) opened
  case accepted =>
    intro i result request answer listed
    have announced := announcements_mem listed
    rw [quiet.silent] at announced
    cases announced
  case once =>
    intro approvalId
    rw [quiet.silent]
    exact Nat.zero_le _

end Silent

/-- At every moment what is announced is stored exactly when nothing is being
announced, and a run keeps its promises when no decision is needed. -/
theorem announced_unsaved {redis : Redis ι} {c : ServiceConfig ι (Except Exc ApprovalRequest)} :
    (TornRun (system env) Broken (InTurn settings ids decisions) ⟨⟨redis, []⟩, deciding settings ids decisions⟩ c →
      (Ordered ids decisions c ↔ ∀ i, ¬ Announcing c i)) ∧
    (TornRun (system env) Broken (fun c label => InTurn settings ids decisions c label ∧ Needless ids decisions c label)
      ⟨⟨redis, []⟩, deciding settings ids decisions⟩ c → Persisted ids decisions c) := by
  constructor
  · intro run
    have under : UnderWay settings ids decisions c :=
      run.invariant (fun _ _ _ under turn step => under.torn turn step) (.start redis)
    exact under.ordered_iff
  · intro run
    have reached : UnderWay settings ids decisions c ∧ Silent settings ids decisions c.shared := by
      refine run.invariant (I := fun c => UnderWay settings ids decisions c ∧ Silent settings ids decisions c.shared) ?_
        ⟨.start redis, .start redis⟩
      rintro c label d ⟨under, quiet⟩ ⟨turn, needless⟩ step
      exact ⟨under.torn turn step, quiet.torn under needless step⟩
    exact reached.2.persisted reached.1

end Announcements

section Failures
local instance announced : Library := .sample

/-- The links are followed one after the other. -/
def following (record : ApprovalRequest) : ServiceConfig Bool (Except Exc ApprovalRequest) :=
  ⟨⟨{ Redis.empty with hashes := fun _ => toMapping record }, []⟩, deciding .sample (fun _ => "a1") links⟩

/-- The call fails at the await that it has come to. -/
def failing (c : ServiceConfig Bool (Except Exc ApprovalRequest)) (i : Bool) : ServiceConfig Bool (Except Exc ApprovalRequest) :=
  ⟨c.shared, Function.update c.pool i (.done (.error (.transport "connection lost")))⟩

def approved : ApprovalRequest := RecordDecision.resolved undecided "approved" none "web_form" 0 "ok"

/-- On a resolved record the reject link is cut off, and the approve link shows what is stored. -/
theorem announced_unneeded : Persisted (fun _ => "a1") links (play (failing (following approved) false) (.redis true)) ∧
    (play (failing (following approved) false) (.redis true)).pool true = .done (.ok approved) := by
  have settled (approval : ApprovalRequest) : ¬ Pending (toMapping approved) approval := by
    rintro ⟨decoded, pending⟩
    have known : decode (toMapping approved) = .ok (some approved) := rfl
    rw [known] at decoded
    cases decoded
    exact absurd pending (by decide)
  have cut : TornRun (system (.free Bool)) Broken (fun c label => InTurn .sample (fun _ => "a1") links c label ∧
      Needless (fun _ => "a1") links c label) (following approved) (failing (following approved) false) :=
    Relation.ReflTransGen.refl.tail ⟨some false, ⟨fun _ _ => Or.inl rfl, fun _ => settled⟩, .cut rfl ⟨_, rfl⟩⟩
  have run := cut.snoc (some true)
    ⟨fun | false, _ => Or.inr ⟨_, rfl⟩ | true, other => (other rfl).elim, fun _ => settled⟩ (.step (.serve rfl (Served.redis _)))
  exact ⟨announced_unsaved.2 run, rfl⟩

/-- The agent accepts whatever it is sent. -/
def accepting : (call : Outside) → call.Answer
  | .http _ => .ok ⟨200, "", none⟩
  | call => Outside.silence call

/-- The approval is accepted by the agent, but not saved. -/
def unsaved : ServiceConfig Bool (Except Exc ApprovalRequest) :=
  failing ([.redis true, .outside true accepting, .outside true accepting].foldl play (following undecided)) true

/-- The reject link is followed next. -/
def again : List (Move Bool) := [.redis false, .outside false accepting, .outside false accepting]

/-- The first decision is announced before it is stored and then lost, and another one is announced. -/
theorem announced_lost :
    TornRun (system (.free Bool)) Broken (InTurn .sample (fun _ => "a1") links) (following undecided) unsaved ∧
    ¬ Persisted (fun _ => "a1") links unsaved ∧
    TornRun (system (.free Bool)) Broken (InTurn .sample (fun _ => "a1") links) unsaved (again.foldl play unsaved) ∧
    (announcements (again.foldl play unsaved).shared.log).length = 2 := by
  have begins (c : ServiceConfig Bool (Except Exc ApprovalRequest))
      (unbegun : c.pool false = deciding .sample (fun _ => "a1") links false) : InTurn .sample (fun _ => "a1") links c (some true) := by
    rintro (_ | _) other
    · exact Or.inl unbegun
    · exact (other rfl).elim
  have opening : TornRun (system (.free Bool)) Broken (InTurn .sample (fun _ => "a1") links) (following undecided)
      ([.redis true, .outside true accepting, .outside true accepting].foldl play (following undecided)) := by
    refine (plays_run ?_).whole Broken
    exact ⟨begins _ rfl, ⟨begins _ rfl, trivial⟩, ⟨begins _ rfl, trivial⟩, trivial⟩
  have ended (c : ServiceConfig Bool (Except Exc ApprovalRequest)) (finished : ∃ result, c.pool true = .done result) :
      InTurn .sample (fun _ => "a1") links c (some false) := by
    rintro (_ | _) other
    · exact (other rfl).elim
    · exact Or.inr finished
  refine ⟨opening.snoc (some true) ?_ (.cut rfl ⟨_, rfl⟩), ?_, ?_, rfl⟩
  · exact begins _ rfl
  · intro persisted
    have listed : .call true (.outside (.http (Webhook.notification .sample undecided "approved" none))) (.ok ⟨200, "", none⟩) ∈
        unsaved.shared.log := List.mem_cons_self
    exact persisted.accepted listed rfl rfl undecided ⟨rfl, rfl⟩
  · refine (plays_run ?_).whole Broken
    exact ⟨ended _ ⟨_, rfl⟩, ⟨ended _ ⟨_, rfl⟩, trivial⟩, ⟨ended _ ⟨_, rfl⟩, trivial⟩, trivial⟩

end Failures
end OpenClaw.Approvals
