import OpenClawService.Api.Authority

/-! What the caller of an approval route is told. Whatever else the service does, a route
finds no record or a well-formed one, and its answer is the one that the route is documented
with for what it found. None is a server error. -/
namespace OpenClaw.Api
open Interleaving Approvals

/-- The approval and the action of a page. -/
def Route.shows : Route → Option (String × String)
  | .showApprovePage approvalId => some (approvalId, "approve")
  | .showRejectPage approvalId => some (approvalId, "reject")
  | _ => none

/-- A page with the status that it is answered with. -/
def pageReply : Pages.Page → Reply
  | .failed message statusCode => ⟨statusCode, .page (.failed message statusCode)⟩
  | page => ⟨200, .page page⟩

/-- What an approval route replies, by the record that it has loaded. -/
inductive Told [Library] : Route → Option ApprovalRequest → Reply → Prop
  | registered {body : Registration} (now : Int) :
      Told (.registerApproval body) none ⟨201, .json (approvalRegisteredResponse (RegisterApproval.pending body now))⟩
  | again {body : Registration} {approval : ApprovalRequest} (same : RegisterApproval.identical approval body = true) :
      Told (.registerApproval body) (some approval) ⟨201, .json (approvalRegisteredResponse approval)⟩
  | conflicting {body : Registration} {approval : ApprovalRequest} (differs : RegisterApproval.identical approval body = false) :
      Told (.registerApproval body) (some approval) (httpException 409
        ("An approval with approvalId=" ++ Library.repr body.approvalId ++ " already exists with a different payload."))
  | confirming {route : Route} {approval : ApprovalRequest} (page : route.shows = some (approvalId, action))
      (pending : approval.status = "pending") : Told route (some approval) ⟨200, .page (.confirm approval action)⟩
  | decided {route : Route} {approval : ApprovalRequest} (page : route.shows = some (approvalId, action))
      (resolved : approval.status = "resolved") : Told route (some approval) ⟨200, .page (.decided approval false)⟩
  | absent {route : Route} (page : route.shows = some (approvalId, action)) :
      Told route none ⟨404, .page (.failed "Approval request not found." 404)⟩
  | deciding {approval : ApprovalRequest} (form : Pages.formError decision note = none) (pending : approval.status = "pending")
      (now : Int) (webhookResult : String) : Told (.recordDecision approvalId decision note) (some approval) ⟨200, .page (.decided
        (RecordDecision.resolved approval decision (Pages.cleanNote note) "web_form" now webhookResult) true)⟩
  | recorded {approval : ApprovalRequest} (form : Pages.formError decision note = none) (resolved : approval.status = "resolved") :
      Told (.recordDecision approvalId decision note) (some approval) ⟨200, .page (.decided approval true)⟩
  | unknown (form : Pages.formError decision note = none) :
      Told (.recordDecision approvalId decision note) none ⟨404, .page (.failed "Approval request not found." 404)⟩

/-- The key is missing, or what was sent is out of order. -/
inductive Refused [Library] [FastApi] (settings : AppSettings) (inbound : Inbound) : Reply → Prop
  | locked (guarded : inbound.route.guarded = true) (unkeyed : ¬ Keyed settings inbound) :
      Refused settings inbound (httpException 401 "Missing or invalid API key")
  | invalid (opened : inbound.route.guarded = true → Keyed settings inbound) (invalid : validation inbound.route = some detail) :
      Refused settings inbound (httpException 422 detail)
  | malformed (asked : inbound.route = .recordDecision approvalId decision note) (refused : Pages.formError decision note = some message) :
      Refused settings inbound ⟨400, .page (.failed message 400)⟩

/-- What a caller receives: a refusal, or what the route has to say about the record that was found. -/
structure Received [Library] [FastApi] (settings : AppSettings) (inbound : Inbound) (finds : Option ApprovalRequest → Prop)
    (response : Response) : Prop where
  reply : Refused settings inbound response.toReply ∨ (inbound.route.guarded = true → Keyed settings inbound) ∧
    validation inbound.route = none ∧ ∃ found, finds found ∧ Told inbound.route found response.toReply
  identified : response.requestId.isSome = true
  echoed : ∀ given, inbound.requestId.bind orNone = some given → response.requestId = some given

/-- The record, if it is there, of the one hash that the worker has loaded for the approval. -/
def Found [Library] {ι : Type} (log : List (Entry ι)) (i : ι) (approvalId : String) (found : Option ApprovalRequest) : Prop :=
  (∀ approval, found = some approval → WellFormed approvalId approval) ∧ ∃ hash, ApprovalStore.decode hash = .ok found ∧
    ∀ other, .call i (.redis (.hgetall (ApprovalStore.key approvalId))) other ∈ log ↔ other = hash

theorem Received.mono [Library] [FastApi] {settings : AppSettings} {inbound : Inbound} {finds finds' : Option ApprovalRequest → Prop}
    {response : Response} (received : Received settings inbound finds response) (implied : ∀ found, finds found → finds' found) :
    Received settings inbound finds' response :=
  ⟨received.reply.imp_right fun ⟨opened, valid, found, finds, told⟩ => ⟨opened, valid, found, implied found finds, told⟩,
    received.identified, received.echoed⟩

section Conclusions
variable [Library] {settings : Settings} {proper : Json → Prop} {route : Route} {p : Phase}

/-- There was no record, or a well-formed one. -/
def Legible (approvalId : String) (p : Phase) : Prop := ∀ outcome, p.loaded = some outcome →
  outcome = .ok none ∨ ∃ approval, outcome = .ok (some approval) ∧ WellFormed approvalId approval

/-- What the request remembers of its approval. -/
def Phase.recalls (p : Phase) (found : Option ApprovalRequest) : Prop := p.loaded = some (.ok found)

omit [Library] in
theorem After.legible {α : Type} {told : Option ApprovalRequest → Except Exc α → Prop} {result : Except Exc α} (after : After told result p)
    (legible : Legible approvalId p) : ∃ found, p.recalls found ∧ told found result ∧
      ∀ approval, found = some approval → WellFormed approvalId approval := by
  rcases after with ⟨exc, loaded⟩ | ⟨found, loaded, told⟩
  · rcases legible _ loaded with same | ⟨_, same, _⟩ <;> cases same
  · refine ⟨found, loaded, told, ?_⟩
    rcases legible _ loaded with same | ⟨approval, same, formed⟩
    · cases same
      exact nofun
    · cases same
      rintro _ ⟨⟩
      exact formed

omit [Library] in
/-- A well-formed record that is not pending is resolved. -/
theorem settled_resolved {approval : ApprovalRequest} (formed : WellFormed approvalId approval) (settled : approval.status ≠ "pending") :
    approval.status = "resolved" := by
  rcases formed.lifecycle with ⟨pending, _⟩ | ⟨resolved, _⟩
  · exact (settled pending).elim
  · exact resolved

theorem registerReply_told {body : Registration} (fresh : p.loaded = none) :
    Meets (conduct settings proper (.registerApproval body)) (registerReply body) p (fun result l => Legible body.approvalId l →
      ∃ reply, result = .ok reply ∧ ∃ found, l.recalls found ∧ Told (.registerApproval body) found reply) := by
  unfold registerReply
  rw [Meets.tryCatch_iff, Meets.bind_iff]
  apply (register_meets fresh).mono
  rintro (exc | approval) l after
  · have refused (legible : Legible body.approvalId l) : ∃ text, exc = .duplicateApprovalError text ∧
        ∃ found, l.recalls found ∧ Told (.registerApproval body) found (httpException 409 text) := by
      obtain ⟨found, loaded, same, _⟩ := after.legible legible
      cases found with
      | none =>
        obtain ⟨now, same⟩ := same
        cases same
      | some existing =>
        rw [registered] at same
        split at same
        · cases same
        · rename_i differs
          cases same
          exact ⟨_, rfl, _, loaded, .conflicting (Bool.eq_false_iff.mpr differs)⟩
    cases exc with
    | duplicateApprovalError text =>
      intro legible
      obtain ⟨_, same, told⟩ := refused legible
      cases same
      exact ⟨_, rfl, told⟩
    | _ => exact fun legible => (refused legible).elim fun _ same => (by cases same.1)
  · intro legible
    obtain ⟨found, loaded, same, _⟩ := after.legible legible
    refine ⟨_, rfl, found, loaded, ?_⟩
    cases found with
    | none =>
      obtain ⟨now, same⟩ := same
      cases same
      exact .registered now
    | some existing =>
      rw [registered] at same
      split at same
      · rename_i identical
        cases same
        exact .again identical
      · cases same

theorem pageReply_told (shows : route.shows = some (approvalId, action)) (own : route.approval = some approvalId) (fresh : p.loaded = none) :
    Meets (conduct settings proper route) (paged (Pages.renderDecisionPage approvalId action)) p (fun result l =>
      Legible approvalId l → ∃ reply, result = .ok reply ∧ ∃ found, l.recalls found ∧ Told route found reply) := by
  unfold paged
  rw [Meets.bind_iff]
  apply (page_meets own fresh).mono
  rintro (exc | page) l after
  · intro legible
    obtain ⟨found, _, same, _⟩ := after.legible legible
    cases found <;> cases same
  · rw [Meets.andThen_ok]
    have told (legible : Legible approvalId l) : ∃ found, l.recalls found ∧ Told route found (pageReply page) := by
      obtain ⟨found, loaded, same, formed⟩ := after.legible legible
      refine ⟨found, loaded, ?_⟩
      cases found with
      | none =>
        cases same
        exact .absent shows
      | some approval =>
        rw [shown] at same
        split at same
        · cases same
          exact .decided shows (settled_resolved (formed approval rfl) ‹_›)
        · cases same
          exact .confirming shows (not_not.mp ‹_›)
    cases page <;> exact fun legible => ⟨_, rfl, told legible⟩

omit [Library] in
/-- A decision leaves its record well formed. -/
theorem resolved_formed {approval : ApprovalRequest} (formed : WellFormed approvalId approval) (form : Pages.formError decision note = none)
    (decisionSource : String) (now : Int) (webhookResult : String) :
    WellFormed approvalId (RecordDecision.resolved approval decision note' decisionSource now webhookResult) := by
  have known : decision ∈ RecordDecision.decisions := by
    by_contra unknown
    rw [Pages.formError, if_pos unknown] at form
    cases form
  exact ⟨formed.named, Or.inr ⟨rfl, decision, known, rfl⟩⟩

omit [Library] in
/-- What the hash keeps of a well-formed record is well formed. -/
theorem kept_formed {approval : ApprovalRequest} (formed : WellFormed approvalId approval) :
    WellFormed approvalId (ApprovalStore.kept approval) := by
  refine ⟨formed.named, ?_⟩
  rcases formed.lifecycle with ⟨pending, undecided⟩ | ⟨resolved, decision, known, decided⟩
  · exact Or.inl ⟨pending, by rw [ApprovalStore.kept, undecided]; rfl⟩
  · have filled : decision ≠ "" := by
      rintro rfl
      simp [RecordDecision.decisions] at known
    exact Or.inr ⟨resolved, decision, known, by simp [ApprovalStore.kept, decided, orNone, filled]⟩

theorem decisionReply_told {approvalId decision : String} {note : Option String} (fresh : p.loaded = none) :
    Meets (conduct settings proper (.recordDecision approvalId decision note)) (paged (Pages.recordDecision settings approvalId decision note)) p
      (fun result l => Legible approvalId l → ∃ reply, result = .ok reply ∧
        ((∃ message, Pages.formError decision note = some message ∧ reply = ⟨400, .page (.failed message 400)⟩) ∨
          ∃ found, l.recalls found ∧ Told (.recordDecision approvalId decision note) found reply)) := by
  unfold paged
  rw [Meets.bind_iff]
  apply (decision_meets fresh).mono
  cases form : Pages.formError decision note with
  | some message =>
    rintro _ l rfl legible
    exact ⟨_, rfl, Or.inl ⟨message, rfl, rfl⟩⟩
  | none =>
    rintro (exc | page) l after
    · intro legible
      obtain ⟨found, _, same, _⟩ := after.legible legible
      cases found with
      | none => cases same
      | some approval =>
        rw [decided] at same
        split at same
        · cases same
        · obtain ⟨_, _, same⟩ := same
          cases same
    · rw [Meets.andThen_ok]
      have told (legible : Legible approvalId l) :
          ∃ found, l.recalls found ∧ Told (.recordDecision approvalId decision note) found (pageReply page) := by
        obtain ⟨found, loaded, same, formed⟩ := after.legible legible
        refine ⟨found, loaded, ?_⟩
        cases found with
        | none =>
          cases same
          exact .unknown form
        | some approval =>
          rw [decided] at same
          split at same
          · cases same
            exact .recorded form (settled_resolved (formed approval rfl) ‹_›)
          · rename_i pending
            obtain ⟨now, webhookResult, same⟩ := same
            cases same
            exact .deciding form (not_not.mp pending) now webhookResult
      cases page <;> exact fun legible => ⟨_, rfl, Or.inr (told legible)⟩

end Conclusions

section Doors
variable [Library] [FastApi] {settings : AppSettings} {proper : Json → Prop} {inbound : Inbound} {p : Phase}

/-- What a request that was let through is told, by what it remembers. -/
def Answers (settings : AppSettings) (inbound : Inbound) (p : Phase) (reply : Reply) : Prop :=
  Refused settings inbound reply ∨ (inbound.route.guarded = true → Keyed settings inbound) ∧
    validation inbound.route = none ∧ ∃ found, p.recalls found ∧ Told inbound.route found reply

theorem handle_told (own : inbound.route.approval = some approvalId) (opened : inbound.route.guarded = true → Keyed settings inbound)
    (valid : validation inbound.route = none) (fresh : p.loaded = none) :
    Meets (conduct settings.toSettings proper inbound.route) (handle settings.toSettings inbound.route) p
      (fun result l => Legible approvalId l → ∃ reply, result = .ok reply ∧ Answers settings inbound l reply) := by
  cases asked : inbound.route with
  | registerApproval body =>
    rw [asked] at own opened valid
    cases own
    refine (registerReply_told fresh).mono fun result l told legible => ?_
    obtain ⟨reply, same, told⟩ := told legible
    exact ⟨reply, same, Or.inr (by rw [asked]; exact ⟨opened, valid, told⟩)⟩
  | showApprovePage _ | showRejectPage _ =>
    rw [asked] at own opened valid
    cases own
    refine (pageReply_told rfl rfl fresh).mono fun result l told legible => ?_
    obtain ⟨reply, same, told⟩ := told legible
    exact ⟨reply, same, Or.inr (by rw [asked]; exact ⟨opened, valid, told⟩)⟩
  | recordDecision _ decision note =>
    rw [asked] at own opened valid
    cases own
    refine (decisionReply_told fresh).mono fun result l told legible => ?_
    obtain ⟨reply, same, ⟨message, refused, rfl⟩ | told⟩ := told legible
    · exact ⟨_, same, Or.inl (.malformed asked refused)⟩
    · exact ⟨reply, same, Or.inr (by rw [asked]; exact ⟨opened, valid, told⟩)⟩
  | _ =>
    rw [asked] at own
    cases own

theorem respond_received (own : inbound.route.approval = some approvalId) : Meets (protocol settings proper inbound) (respond settings inbound) {}
    (fun result l => Legible approvalId l → ∃ response, result = .ok response ∧ Received settings inbound l.recalls response) := by
  have answered : Meets (protocol settings proper inbound) (answer settings inbound) {}
      (fun result l => Legible approvalId l → ∃ reply, result = .ok reply ∧ Answers settings inbound l reply) := by
    unfold answer
    cases checked : admitted settings inbound with
    | error reply =>
      refine fun _ => ⟨reply, rfl, Or.inl ?_⟩
      unfold admitted at checked
      split at checked
      · rename_i locked
        cases checked
        simp only [Bool.and_eq_true, Bool.not_eq_true'] at locked
        exact .locked locked.1 (by simp [Keyed, locked.2])
      · rename_i unlocked
        simp only [Bool.and_eq_true, Bool.not_eq_true', not_and, Bool.not_eq_false] at unlocked
        split at checked
        · rename_i invalid
          cases checked
          exact .invalid unlocked invalid
        · cases checked
    | ok route =>
      obtain ⟨rfl, opened, valid⟩ := admitted_ok checked
      exact let_through checked (handle_told own opened valid rfl)
  have finished (requestId : String) (known : ∀ given, inbound.requestId.bind orNone = some given → requestId = given) :
      Meets (protocol settings proper inbound) (do return finish requestId (← Async.outcome (answer settings inbound))) {}
        (fun result l => Legible approvalId l → ∃ response, result = .ok response ∧ Received settings inbound l.recalls response) := by
    rw [Meets.bind_iff, Async.outcome_meets]
    refine answered.mono fun result l told legible => ?_
    obtain ⟨reply, rfl, said⟩ := told legible
    exact ⟨_, rfl, said, rfl, fun given present => congrArg some (known given present)⟩
  unfold respond
  cases present : inbound.requestId.bind orNone with
  | some given => exact finished given fun other same => Option.some.inj (present.symm.trans same)
  | none =>
    refine ⟨Or.inl ⟨.uuid4, rfl, trivial⟩, fun requestId _ => finished requestId fun other same => ?_⟩
    cases present.symm.trans same

end Doors

section Runs
variable [Library] [FastApi] {ι : Type} [DecidableEq ι] {settings : AppSettings} {inbounds : ι → Inbound} {redis : Redis ι}
  {env : Environment ι} {w w' : World ι} {i : ι} {c : ServiceConfig ι (Except Exc Response)}

/-- What a request remembers is the one hash that it has loaded. -/
structure Loads (log : List (Entry ι)) (i : ι) (approvalId : String) (p : Phase) : Prop where
  unread : p.loaded = none → ∀ hash, .call i (.redis (.hgetall (ApprovalStore.key approvalId))) hash ∉ log
  read {outcome : Except Exc (Option ApprovalRequest)} : p.loaded = some outcome → ∃ hash, ApprovalStore.decode hash = outcome ∧
    ∀ other, .call i (.redis (.hgetall (ApprovalStore.key approvalId))) other ∈ log ↔ other = hash

/-- Every record is well formed, and every record that a request has loaded was. -/
structure Filed (settings : AppSettings) (inbounds : ι → Inbound) (w : World ι) : Prop where
  stored (approvalId : String) : w.redis.hashes (ApprovalStore.key approvalId) = [] ∨ ∃ approval,
    ApprovalStore.decode (w.redis.hashes (ApprovalStore.key approvalId)) = .ok (some approval) ∧ WellFormed approvalId approval
  loaded (i : ι) (approvalId : String) : (inbounds i).route.approval = some approvalId → Legible approvalId (phasesOf settings inbounds w.log i)
  loads (i : ι) (approvalId : String) : (inbounds i).route.approval = some approvalId →
    Loads w.log i approvalId (phasesOf settings inbounds w.log i)

omit [FastApi] [DecidableEq ι] in
/-- Nothing else is loaded. -/
theorem Loads.later {entry : Entry ι} {p p' : Phase} (loads : Loads log i approvalId p) (same : p'.loaded = p.loaded)
    (apart : ∀ hash, entry ≠ .call i (.redis (.hgetall (ApprovalStore.key approvalId))) hash) :
    Loads (entry :: log) i approvalId p' := by
  have listed (hash : List (String × String)) : .call i (.redis (.hgetall (ApprovalStore.key approvalId))) hash ∈ entry :: log ↔
      .call i (.redis (.hgetall (ApprovalStore.key approvalId))) hash ∈ log := by
    rw [List.mem_cons, or_iff_right (apart hash).symm]
  constructor
  · intro unread hash
    rw [listed]
    exact loads.unread (same ▸ unread) hash
  · intro outcome read
    simp only [listed]
    exact loads.read (same ▸ read)

omit [FastApi] [DecidableEq ι] in
theorem Loads.first {log : List (Entry ι)} {p p' : Phase} {hash : List (String × String)} (loads : Loads log i approvalId p)
    (unread : p.loaded = none) (read : p'.loaded = some (ApprovalStore.decode hash)) :
    Loads (.call i (.redis (.hgetall (ApprovalStore.key approvalId))) hash :: log) i approvalId p' := by
  refine ⟨fun still => ?_, fun {outcome} loaded => ?_⟩
  · rw [read] at still
    cases still
  · cases read.symm.trans loaded
    refine ⟨hash, rfl, fun other => ?_⟩
    rw [List.mem_cons, or_iff_left (loads.unread unread other)]
    simp

omit [Library] [FastApi] [DecidableEq ι] in
/-- What saves an approval is a route about one. -/
theorem saves_own {route : Route} (saves : Saves p approval route) : ∃ approvalId, route.approval = some approvalId := by
  cases route with
  | registerApproval body => exact ⟨_, rfl⟩
  | recordDecision approvalId decision note => exact ⟨_, rfl⟩
  | _ => exact saves.elim

omit [FastApi] in
/-- What a route saves is well formed, over whatever the hash held. -/
theorem saved_formed {route : Route} {approval : ApprovalRequest} (own : route.approval = some approvalId) (legible : Legible approvalId p)
    (saves : Saves p approval route) (hash : List (String × String)) : approval.approvalId = approvalId ∧ ∃ after,
      ApprovalStore.decode (Redis.merge hash (ApprovalStore.toMapping approval)) = .ok (some after) ∧ WellFormed approvalId after := by
  cases route with
  | registerApproval body =>
    cases own
    obtain ⟨_, now, rfl⟩ := saves
    exact ⟨rfl, _, (pending_decodes body now).imp_right And.left⟩
  | recordDecision _ decision note =>
    cases own
    obtain ⟨found, now, webhookResult, ⟨loaded, _, form⟩, rfl⟩ := saves
    rcases legible _ loaded with same | ⟨approval, same, formed⟩
    · cases same
    · cases same
      exact ⟨formed.named, _, ApprovalStore.decode_merge _ _ (by simp [RecordDecision.resolved]), kept_formed (resolved_formed formed form ..)⟩
  | _ => exact saves.elim

namespace Filed

theorem command (filed : Filed settings inbounds w) {command : Command}
    (permitted : permits settings (fun _ => True) (inbounds i) (phasesOf settings inbounds w.log i) (.redis command)) :
    Filed settings inbounds ⟨(w.redis.exec i command).2, .call i (.redis command) (w.redis.exec i command).1 :: w.log⟩ := by
  obtain ⟨allowed, _⟩ := permitted_redis permitted
  constructor
  case stored =>
    intro approvalId
    rcases approval_source allowed approvalId with same | ⟨approval, saves, rfl, merged⟩
    · rw [same]
      exact filed.stored approvalId
    · obtain ⟨approvalId, own⟩ := saves_own saves
      obtain ⟨rfl, saved⟩ := saved_formed own (filed.loaded i approvalId own) saves (w.redis.hashes (ApprovalStore.key approval.approvalId))
      rw [merged]
      exact Or.inr saved
  case loaded =>
    intro j approvalId own
    rcases eq_or_ne j i with rfl | other
    · rw [phasesOf, phases, view_own]
      cases command with
      | hgetall k =>
        -- Only reading the record itself says what it is.
        intro outcome found
        change (if _ then _ else _ : Phase).loaded = _ at found
        split at found
        · rename_i same
          rw [own, Option.map_some, Option.some.injEq] at same
          subst same
          cases found
          rcases filed.stored approvalId with empty | stored
          · refine Or.inl ?_
            rw [Redis.exec, empty]
            rfl
          · exact Or.inr stored
        · exact filed.loaded j approvalId own outcome found
      | execDel k =>
        have kept : (advance (inbounds j).route (phasesOf settings inbounds w.log j) (.redis (.execDel k))
            (w.redis.exec j (.execDel k)).1).loaded = (phasesOf settings inbounds w.log j).loaded := by
          cases (w.redis.exec j (.execDel k)).1 <;> rfl
        intro outcome found
        exact filed.loaded j approvalId own outcome (kept ▸ found)
      | _ => exact filed.loaded j approvalId own
    · rw [phasesOf, phases, view_other _ _ _ other]
      exact filed.loaded j approvalId own
  case loads =>
    intro j approvalId own
    have before := filed.loads j approvalId own
    rcases eq_or_ne j i with rfl | other
    · rw [phasesOf, phases, view_own]
      cases command with
      | hgetall k =>
        change Loads _ j approvalId (if _ then _ else _)
        split
        · rename_i same
          rw [own, Option.map_some, Option.some.injEq] at same
          subst same
          rcases allowed with ⟨_, _, same⟩ | ⟨unread, _⟩
          · simp [token_key, approval_key] at same
          · exact before.first unread rfl
        · rename_i apart
          refine before.later rfl fun hash same => apart ?_
          cases same
          rw [own, Option.map_some]
      | execDel k =>
        refine before.later ?_ (by simp)
        show (advance (inbounds j).route (phasesOf settings inbounds w.log j) (.redis (.execDel k)) (w.redis.exec j (.execDel k)).1).loaded =
          (phasesOf settings inbounds w.log j).loaded
        cases (w.redis.exec j (.execDel k)).1 <;> rfl
      | _ => exact before.later rfl (by simp)
    · rw [phasesOf, phases, view_other _ _ _ other]
      exact before.later rfl fun hash same => other (by cases same; rfl)

/-- A call leaves the store alone, and no phase loads anything with it. -/
theorem outside (filed : Filed settings inbounds w) (i : ι) {call : Outside} (answer : call.Answer) :
    Filed settings inbounds ⟨w.redis, .call i (.outside call) answer :: w.log⟩ := by
  have still (j : ι) : (phasesOf settings inbounds (.call i (.outside call) answer :: w.log) j).loaded =
      (phasesOf settings inbounds w.log j).loaded := by
    rcases eq_or_ne j i with rfl | other
    · rw [phasesOf, phases, view_own]
      rfl
    · rw [phasesOf, phases, view_other _ _ _ other]
      rfl
  refine ⟨filed.stored, fun j approvalId own => ?_, fun j approvalId own => (filed.loads j approvalId own).later (still j) (by simp)⟩
  rw [Legible, still]
  exact filed.loaded j approvalId own

theorem drifted (filed : Filed settings inbounds w) (drifted : Drifted env w w') : Filed settings inbounds w' := by
  cases drifted <;> exact ⟨filed.stored, filed.loaded, fun j approvalId own => (filed.loads j approvalId own).later rfl nofun⟩

/-- At the beginning nothing is loaded. -/
theorem start (stored : ∀ approvalId, redis.hashes (ApprovalStore.key approvalId) = [] ∨ ∃ approval,
    ApprovalStore.decode (redis.hashes (ApprovalStore.key approvalId)) = .ok (some approval) ∧ WellFormed approvalId approval) :
    Filed settings inbounds ⟨redis, []⟩ where
  stored := stored
  loaded i approvalId own outcome found := by cases found
  loads i approvalId own := ⟨fun _ _ => List.not_mem_nil, nofun⟩

/-- What a request remembers, the log tells. -/
theorem found (filed : Filed settings inbounds w) (own : (inbounds i).route.approval = some approvalId)
    (recalls : (phasesOf settings inbounds w.log i).recalls record) : Found w.log i approvalId record := by
  constructor
  · rintro approval rfl
    rcases filed.loaded i approvalId own _ recalls with same | ⟨_, same, formed⟩
    · cases same
    · cases same
      exact formed
  · exact (filed.loads i approvalId own).read recalls

end Filed

/-- Over records that are read, every request about an approval gets the answer that its route is
documented with for the record that it has loaded, whatever other requests do in between. -/
theorem approvals_answered (legacy : ∀ approvalId, redis.hashes (ApprovalStore.key approvalId) = [] ∨
      Legacy approvalId (redis.hashes (ApprovalStore.key approvalId)))
    (run : Reaches (system env) ⟨⟨redis, []⟩, requests settings inbounds⟩ c) (own : (inbounds i).route.approval = some approvalId)
    (finished : c.pool i = .done result) : ∃ response, result = .ok response ∧
      Received settings (inbounds i) (Found c.shared.log i approvalId) response := by
  let post (i : ι) (result : Except Exc Response) (l : Phase) : Prop := ∀ approvalId, (inbounds i).route.approval = some approvalId →
    Legible approvalId l → ∃ response, result = .ok response ∧ Received settings (inbounds i) l.recalls response
  have meets (i : ι) : Meets (protocol settings (fun _ => True) (inbounds i)) (respond settings (inbounds i)) {} (post i) := by
    cases own : (inbounds i).route.approval with
    | none => exact (respond_meets anything_closed).mono fun _ _ _ _ same => (by rw [own] at same; cases same)
    | some approvalId =>
      refine (respond_received own).mono fun result l told other same => ?_
      obtain rfl := Option.some.inj (own.symm.trans same)
      exact told
  obtain ⟨filed, conforming⟩ := meetings_run anything_delivers meets (fun w i op answer w' filed permitted served => by
    cases served with
    | redis command => exact filed.command permitted
    | outside => exact filed.outside i _) (fun _ _ filed drifted => Filed.drifted filed drifted)
    (Filed.start fun approvalId => (legacy approvalId).imp_right Legacy.decodes) run
  have ended := conforming i
  rw [finished] at ended
  obtain ⟨response, same, received⟩ := ended approvalId own (filed.loaded i approvalId own)
  exact ⟨response, same, received.mono fun found recalls => filed.found own recalls⟩

end Runs

section Desk
local instance openedBy : Library := .sample
local instance checkedBy : FastApi := .sample

def otherInvoice : Registration := { request "first.pdf" with invoiceNumber := "other" }

/-- A registration, one with another invoice, a decision, and the page of an approval that is not there. -/
def visits : Fin 4 → Inbound
  | 0 => ⟨some "r0", some "Bearer key", .registerApproval (request "first.pdf")⟩
  | 1 => ⟨some "r1", some "Bearer key", .registerApproval otherInvoice⟩
  | 2 => ⟨none, none, .recordDecision "a1" "approved" none⟩
  | 3 => ⟨some "r3", none, .showRejectPage "a2"⟩

def visiting : ServiceConfig (Fin 4) (Except Exc Response) := ⟨⟨Redis.empty, []⟩, requests .sample visits⟩

def desk : List (Move (Fin 4)) :=
  [.outside 2 Outside.silence, .redis 0, .outside 0 Outside.silence, .redis 0, .redis 2, .outside 2 Outside.silence, .redis 3,
    .outside 2 Outside.silence, .redis 1, .redis 2]

theorem approvals_answered_desk : ∃ conflict page, (desk.foldl play visiting).pool 1 = .done (.ok conflict) ∧
    Received .sample (visits 1) (Found (desk.foldl play visiting).shared.log 1 "a1") conflict ∧
    (desk.foldl play visiting).pool 2 = .done (.ok page) ∧
    Received .sample (visits 2) (Found (desk.foldl play visiting).shared.log 2 "a1") page := by
  have run : Reaches (system (.free _)) visiting (desk.foldl play visiting) := plays_run (free_legal _ _)
  have answered {i : Fin 4} {response : Response} (own : (visits i).route.approval = some "a1")
      (finished : (desk.foldl play visiting).pool i = .done (.ok response)) :
      Received .sample (visits i) (Found (desk.foldl play visiting).shared.log i "a1") response := by
    obtain ⟨other, same, received⟩ := approvals_answered (fun _ => Or.inl rfl) run own finished
    cases same
    exact received
  exact ⟨_, _, rfl, answered rfl rfl, rfl, answered rfl rfl⟩

end Desk
end OpenClaw.Api
