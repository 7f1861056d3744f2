import OpenClawService.Api.Replies
import OpenClawService.Soundness.Routes

/-! Any number of requests over a store that can be read and providers that keep to their
documentation: none of them is answered with a bare server error, unless a concurrent request
has deleted the token that it was about to refresh or it has asked for what is not sent. -/
namespace OpenClaw.Api
open Interleaving

/-- The reply is known, and the response carries the request id. -/
structure Conventional (inbound : Inbound) (response : Response) : Prop where
  known : Known inbound.route response.toReply
  identified : response.requestId.isSome = true
  echoed : ∀ given, inbound.requestId.bind orNone = some given → response.requestId = some given

section Doors
variable [Library] [FastApi] {settings : AppSettings} {inbound : Inbound}

omit [Library] [FastApi] in
/-- Exceptions with a handler are answered in the envelope. -/
theorem handled_known {exc : Exc} {route : Route} (handled : Handled exc) (requestId : String) :
    Known route (finish requestId (.error exc)).toReply ∧ (finish requestId (.error exc)).requestId = some requestId := by
  cases exc with
  | connectionMissingError text | connectionExpiredError text | providerUnavailableError text | lockTimeoutError text =>
    exact ⟨.error _ text (by simp), rfl⟩
  | _ => cases handled

theorem answer_sound (floats : Floats) (configured : urlAccepted (discoveryUrl settings.toSettings) = true)
    (other : inbound.route.approval = none) :
    Sound settings.toSettings inbound.route .free (Known inbound.route) Handled (answer settings inbound) := by
  unfold answer
  cases checked : admitted settings inbound with
  | error reply =>
    refine .pure ?_
    unfold admitted at checked
    split at checked
    · cases checked
      exact httpException_known _ (by simp)
    · split at checked
      · cases checked
        exact httpException_known _ (by simp)
      · cases checked
  | ok route =>
    obtain ⟨rfl, _⟩ := admitted_ok checked
    exact handle_sound floats configured other

theorem respond_sound (floats : Floats) (configured : urlAccepted (discoveryUrl settings.toSettings) = true)
    (other : inbound.route.approval = none) :
    Meets (typing settings.toSettings inbound.route) (respond settings inbound) .free fun result l =>
      ∃ response, result = .ok response ∧ (l = .lost ∨ l = .unsent ∨ Conventional inbound response) := by
  have finished (requestId : String) (known : ∀ given, inbound.requestId.bind orNone = some given → requestId = given) :
      Meets (typing settings.toSettings inbound.route) (do return finish requestId (← Async.outcome (answer settings inbound))) .free
        fun result l => ∃ response, result = .ok response ∧ (l = .lost ∨ l = .unsent ∨ Conventional inbound response) := by
    rw [Meets.bind_iff, Async.outcome_meets]
    apply Meets.mono (answer_sound floats configured other)
    rintro (exc | reply) l ended
    · refine ⟨_, rfl, ?_⟩
      rcases ended with ⟨_, handled⟩ | ⟨lost, _⟩ | ⟨unsent, _⟩
      · obtain ⟨replied, same⟩ := handled_known handled requestId
        exact Or.inr (Or.inr ⟨replied, by rw [same]; rfl, fun given present => by rw [same, known given present]⟩)
      · exact Or.inl lost
      · exact Or.inr (Or.inl unsent)
    · exact ⟨_, rfl, Or.inr (Or.inr ⟨ended.2, rfl, fun given present => congrArg some (known given present)⟩)⟩
  unfold respond
  cases present : inbound.requestId.bind orNone with
  | some given => exact finished given fun other same => Option.some.inj (present.symm.trans same)
  | none =>
    refine ⟨trivial, fun requestId _ => finished requestId fun other same => ?_⟩
    cases present.symm.trans same

omit [Library] [FastApi] in
theorem approval_uncached {route : Route} (own : route.approval = some approvalId) : route.entry = none := by
  cases route <;> first | rfl | cases own

/-- What a request about an approval does is typed because of the keys that it keeps to. -/
theorem respond_apart (own : inbound.route.approval = some approvalId) :
    Meets (typing settings.toSettings inbound.route) (respond settings inbound) .free fun _ _ => True := by
  have uncached := approval_uncached own
  have deposited (p : Phase) (op : Op) (permitted : permits settings (fun _ => True) inbound p op) : deposits inbound.route op := by
    cases op with
    | outside call => trivial
    | redis command =>
      cases command with
      | setJson k value ttl =>
        rcases permitted with ⟨_, same, _⟩ | ⟨_, entry, _⟩
        · cases same
        · cases uncached.symm.trans entry
      | _ => trivial
  have uses : (respond settings inbound).run.Uses fun op => ∃ p, permits settings (fun _ => True) inbound p op :=
    Conforms.uses (fun _ _ _ => anything_expected _ _) (respond_meets anything_closed)
  apply Conforms.of_uses uses
  · rintro l op _ ⟨p, permitted⟩
    exact deposited p op permitted
  · exact fun _ _ _ _ _ _ => trivial
  · trivial

end Doors

section Traces
variable {ι : Type} [DecidableEq ι]

/-- The request has taken the refresh lock of the connection and not left it since. -/
def Holding (connectionId : String) (i : ι) (log : List (Entry ι)) : Prop :=
  ∃ newer older token ttl, log = newer ++ .call i (.redis (.setNx (refreshLockKey connectionId) token ttl)) true :: older ∧
    .call i (.redis .unwatch) () ∉ newer ∧ ∀ k deleted, .call i (.redis (.execDel k)) deleted ∉ newer

/-- The request has found no token of the connection while it held the lock. -/
def Lost (connectionId : String) (i : ι) (log : List (Entry ι)) : Prop :=
  ∃ newer older, log = newer ++ .call i (.redis (.hgetall (TokenStore.key connectionId))) [] :: older ∧ Holding connectionId i older

omit [DecidableEq ι] in
theorem Lost.later {log : List (Entry ι)} (lost : Lost connectionId i log) (entry : Entry ι) : Lost connectionId i (entry :: log) := by
  obtain ⟨newer, older, rfl, holding⟩ := lost
  exact ⟨entry :: newer, older, rfl, holding⟩

omit [DecidableEq ι] in
theorem Holding.later {log : List (Entry ι)} (holding : Holding connectionId i log) {entry : Entry ι}
    (unwatches : entry ≠ .call i (.redis .unwatch) ()) (deletes : ∀ k deleted, entry ≠ .call i (.redis (.execDel k)) deleted) :
    Holding connectionId i (entry :: log) := by
  obtain ⟨newer, older, token, ttl, rfl, unwatched, kept⟩ := holding
  refine ⟨entry :: newer, older, token, ttl, rfl, ?_, fun k deleted => ?_⟩
  · rw [List.mem_cons, not_or]
    exact ⟨unwatches.symm, unwatched⟩
  · rw [List.mem_cons, not_or]
    exact ⟨(deletes k deleted).symm, kept k deleted⟩

/-- The request has failed to reach a provider with something that may not be sent. -/
def Unsent (i : ι) (log : List (Entry ι)) : Prop :=
  ∃ (request : HttpRequest) (text : String), request.sendable = false ∧ .call i (.outside (.http request)) (.error text) ∈ log

/-- What the log tells of a standing. -/
def Tells (own : Option String) (i : ι) (log : List (Entry ι)) : Standing → Prop
  | .free => True
  | .held => ∃ connectionId, own = some connectionId ∧ Holding connectionId i log
  | .lost => ∃ connectionId, own = some connectionId ∧ Lost connectionId i log
  | .unsent => Unsent i log

omit [DecidableEq ι] in
theorem Tells.later {log : List (Entry ι)} {standing : Standing} (tells : Tells own i log standing) {entry : Entry ι}
    (unwatches : entry ≠ .call i (.redis .unwatch) ()) (deletes : ∀ k deleted, entry ≠ .call i (.redis (.execDel k)) deleted) :
    Tells own i (entry :: log) standing := by
  cases standing with
  | free => trivial
  | held =>
    obtain ⟨connectionId, same, holding⟩ := tells
    exact ⟨connectionId, same, holding.later unwatches deletes⟩
  | lost =>
    obtain ⟨connectionId, same, lost⟩ := tells
    exact ⟨connectionId, same, lost.later entry⟩
  | unsent =>
    obtain ⟨request, text, refused, listed⟩ := tells
    exact ⟨request, text, refused, List.mem_cons_of_mem _ listed⟩

omit [DecidableEq ι] in
/-- An await that leaves no lock. -/
theorem Tells.kept {log : List (Entry ι)} {standing : Standing} (tells : Tells own i log standing) {op : Op} {answer : op.Answer}
    (unwatches : op ≠ .redis .unwatch) (deletes : ∀ k, op ≠ .redis (.execDel k)) : Tells own i (.call i op answer :: log) standing := by
  apply tells.later
  · intro same
    cases same
    exact unwatches rfl
  · intro k deleted same
    cases same
    exact deletes k rfl

omit [DecidableEq ι] in
/-- A call outside the store. -/
theorem Tells.called {log : List (Entry ι)} {standing : Standing} (tells : Tells own i log standing) (call : Outside) (answer : call.Answer) :
    Tells own i (.call i (.outside call) answer :: log) (standing.after own (.outside call) answer) := by
  have kept (answer : call.Answer) : Tells own i (.call i (.outside call) answer :: log) standing := tells.kept (by simp) (by simp)
  cases call with
  | http request =>
    cases answer with
    | ok response => cases standing <;> exact kept (.ok response)
    | error text =>
      simp only [Standing.after]
      split
      · exact kept (.error text)
      · rename_i refused
        exact ⟨request, text, Bool.eq_false_iff.mpr refused, List.mem_cons_self⟩
  | _ => cases standing <;> exact kept answer

omit [DecidableEq ι] in
/-- A command of the store. -/
theorem Tells.commanded {log : List (Entry ι)} {standing : Standing} (tells : Tells own i log standing) (command : Command)
    (answer : command.Reply) : Tells own i (.call i (.redis command) answer :: log) (standing.after own (.redis command) answer) := by
  cases standing with
  | lost =>
    have still : Standing.lost.after own (.redis command) answer = .lost := by cases command <;> rfl
    obtain ⟨connectionId, same, lost⟩ := tells
    rw [still]
    exact ⟨connectionId, same, lost.later _⟩
  | unsent =>
    have still : Standing.unsent.after own (.redis command) answer = .unsent := by cases command <;> rfl
    obtain ⟨request, text, refused, listed⟩ := tells
    rw [still]
    exact ⟨request, text, refused, List.mem_cons_of_mem _ listed⟩
  | free =>
    cases command with
    | setNx k token ttl =>
      cases answer with
      | false => trivial
      | true =>
        simp only [Standing.after]
        split
        · rename_i taken
          obtain ⟨connectionId, rfl, rfl⟩ := Option.map_eq_some_iff.mp taken
          exact ⟨connectionId, rfl, [], log, token, ttl, rfl, List.not_mem_nil, fun _ _ => List.not_mem_nil⟩
        · trivial
    | _ => trivial
  | held =>
    cases command with
    | unwatch | execDel k => trivial
    | hgetall k =>
      cases answer with
      | nil =>
        simp only [Standing.after]
        split
        · rename_i loaded
          obtain ⟨connectionId, rfl, rfl⟩ := Option.map_eq_some_iff.mp loaded
          obtain ⟨other, same, holding⟩ := tells
          cases same
          exact ⟨connectionId, rfl, [], log, rfl, holding⟩
        · exact tells.kept (by simp) (by simp)
      | cons entry rest => exact tells.kept (by simp) (by simp)
    | _ => exact tells.kept (by simp) (by simp)

omit [DecidableEq ι] in
/-- One await of the request. -/
theorem Tells.awaited {log : List (Entry ι)} {standing : Standing} (tells : Tells own i log standing) (op : Op) (answer : op.Answer) :
    Tells own i (.call i op answer :: log) (standing.after own op answer) := by
  cases op with
  | outside call => exact tells.called call answer
  | redis command => exact tells.commanded command answer

variable [Library]

/-- Where the requests are with their locks. -/
abbrev standings (settings : AppSettings) (inbounds : ι → Inbound) : List (Entry ι) → ι → Standing :=
  view (fun i => typing settings.toSettings (inbounds i).route) fun _ => .free

theorem standings_tell (settings : AppSettings) (inbounds : ι → Inbound) (log : List (Entry ι)) (i : ι) :
    Tells (inbounds i).route.xero i log (standings settings inbounds log i) := by
  induction log with
  | nil => trivial
  | cons entry rest ih =>
    cases entry with
    | expired | invoice => exact ih.later (by simp) (by simp)
    | call j op answer =>
      rcases eq_or_ne i j with rfl | other
      · rw [standings, view_own]
        exact ih.awaited op answer
      · rw [standings, view_other _ _ _ other]
        refine ih.later ?_ fun k deleted => ?_ <;>
          · intro same
            cases same
            exact other rfl

end Traces
end OpenClaw.Api
