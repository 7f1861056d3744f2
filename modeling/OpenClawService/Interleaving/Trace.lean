import OpenClawService.Interleaving.Raising

/-! Traces of one program: the requests that it makes and the answers that it
gets, the oldest first. What conforms to a protocol does so after every trace. -/
namespace Interleaving

variable {E : Type} {A : E → Type} {L : Type}

/-- After these requests and answers the program has got as far as `later`. -/
inductive Prog.Trace : Prog E A α → List ((request : E) × A request) → Prog E A α → Prop where
  | nil : Trace program [] program
  | cons {request : E} {resume : A request → Prog E A α} {answer : A request} (rest : Trace (resume answer) events later) :
      Trace (.await request resume) (⟨request, answer⟩ :: events) later

namespace Prog.Trace
variable {program later later' : Prog E A α} {events events' : List ((request : E) × A request)}

theorem append (first : program.Trace events later) (second : later.Trace events' later') :
    program.Trace (events ++ events') later' := by
  induction first with
  | nil => exact second
  | cons rest ih => exact .cons (ih second)

/-- The answers determine how far the program has got. -/
theorem rest (first : program.Trace events later) (whole : program.Trace (events ++ events') later') : later.Trace events' later' := by
  induction first with
  | nil => exact whole
  | cons _ ih =>
    cases whole with
    | cons rest => exact ih rest

theorem unique (first : program.Trace events later) (second : program.Trace events later') : later = later' := by
  have ended : later.Trace [] later' := rest first (by rwa [List.append_nil])
  cases ended
  rfl

theorem bind {next : α → Prog E A β} (trace : program.Trace events later) : (program >>= next).Trace events (later >>= next) := by
  induction trace with
  | nil => exact .nil
  | cons rest ih => exact .cons ih

/-- A program that may raise is traced through its first half to the second. -/
theorem andThen {program : ExceptT ε (Prog E A) α} {next : α → ExceptT ε (Prog E A) β} {later : Prog E A (Except ε β)}
    (first : program.run.Trace events (.done (.ok result))) (second : (next result).run.Trace events' later) :
    (program >>= next).run.Trace (events ++ events') later :=
  append (bind first) second

/-- The second half is not reached while the first one waits. -/
theorem pending {program : ExceptT ε (Prog E A) α} (next : α → ExceptT ε (Prog E A) β) {request : E}
    {resume : A request → Prog E A (Except ε α)}
    (trace : program.run.Trace events (.await request resume)) :
    ∃ resume', (program >>= next).run.Trace events (.await request resume') := ⟨_, bind trace⟩

/-- Nor is it after an exception. -/
theorem raised {program : ExceptT ε (Prog E A) α} (next : α → ExceptT ε (Prog E A) β)
    (trace : program.run.Trace events (.done (.error error))) : (program >>= next).run.Trace events (.done (.error error)) :=
  bind trace

theorem map {program : ExceptT ε (Prog E A) α} {f : α → β} (trace : program.run.Trace events (.done (.ok result))) :
    (f <$> program).run.Trace events (.done (.ok (f result))) :=
  bind trace

/-- A body that does not raise leaves its handler out. -/
theorem uncaught {program : ExceptT ε (Prog E A) α} {handler : ε → ExceptT ε (Prog E A) α}
    (trace : program.run.Trace events (.done (.ok result))) :
    (tryCatch program handler).run.Trace events (.done (.ok result)) :=
  bind trace

/-- A trace can be cut anywhere. -/
theorem cut (trace : program.Trace (events ++ events') later) : ∃ middle, program.Trace events middle ∧ middle.Trace events' later := by
  induction events generalizing program with
  | nil => exact ⟨program, .nil, trace⟩
  | cons event events ih =>
    cases trace with
    | cons rest =>
      obtain ⟨middle, first, second⟩ := ih rest
      exact ⟨middle, .cons first, second⟩

/-- What was asked and answered within a trace was awaited there. -/
theorem asked {request : E} {answer : A request} (trace : program.Trace (events ++ ⟨request, answer⟩ :: events') later) :
    ∃ resume, program.Trace events (.await request resume) ∧ (resume answer).Trace events' later := by
  obtain ⟨middle, first, second⟩ := cut trace
  cases second with
  | cons rest => exact ⟨_, first, rest⟩

end Prog.Trace

theorem Prog.Uses.andThen {allowed : E → Prop} {program : ExceptT ε (Prog E A) α} {next : α → ExceptT ε (Prog E A) β}
    (first : program.run.Uses allowed) (rest : ∀ result, (next result).run.Uses allowed) : (program >>= next).run.Uses allowed := by
  induction program using Prog.rec with
  | done result =>
    cases result with
    | error error => trivial
    | ok result => exact rest result
  | await request resume ih => exact ⟨first.1, fun answer => ih answer (first.2 answer)⟩

/-- A trace leads to nothing that the program does not use. -/
theorem Prog.Uses.trace {allowed : E → Prop} {program later : Prog E A α} {events : List ((request : E) × A request)}
    (uses : program.Uses allowed) (trace : program.Trace events later) : later.Uses allowed := by
  induction trace with
  | nil => exact uses
  | cons _ ih => exact ih (uses.2 _)

/-- How far a sequence of two programs has got: it waits within the first one, has
been raised out of it, or has passed into the second. -/
inductive Halves (program : ExceptT ε (Prog E A) α) (next : α → ExceptT ε (Prog E A) β) :
    List ((request : E) × A request) → Prog E A (Except ε β) → Prop where
  | waiting {events : List ((request : E) × A request)} {request : E} {resume : A request → Prog E A (Except ε α)}
      (first : program.run.Trace events (.await request resume)) :
      Halves program next events (.await request fun answer => (ExceptT.mk (resume answer) >>= next).run)
  | raised {events : List ((request : E) × A request)} {error : ε} (first : program.run.Trace events (.done (.error error))) :
      Halves program next events (.done (.error error))
  | passed {events events' : List ((request : E) × A request)} {result : α} {later : Prog E A (Except ε β)}
      (first : program.run.Trace events (.done (.ok result))) (second : (next result).run.Trace events' later) :
      Halves program next (events ++ events') later

theorem Prog.Trace.halves {program : ExceptT ε (Prog E A) α} {next : α → ExceptT ε (Prog E A) β}
    {events : List ((request : E) × A request)} {later : Prog E A (Except ε β)}
    (trace : (program >>= next).run.Trace events later) : Halves program next events later := by
  induction program using Prog.rec generalizing events with
  | done result =>
    cases result with
    | error error =>
      cases trace
      exact .raised .nil
    | ok result => exact .passed .nil trace
  | await request resume ih =>
    cases trace with
    | nil => exact .waiting .nil
    | cons rest =>
      cases ih _ rest with
      | waiting first => exact .waiting (.cons first)
      | raised first => exact .raised (.cons first)
      | passed first second => exact .passed (.cons first) second

/-- Where a trace leads in the protocol. -/
def Protocol.after (P : Protocol E A L) (l : L) (events : List ((request : E) × A request)) : L :=
  events.foldl (fun l event => P.advance l event.1 event.2) l

/-- What holds after some events, and did not before them, began to hold with one of them. -/
theorem Protocol.origin (P : Protocol E A L) (fact : L → Prop) {l : L} {events : List ((request : E) × A request)}
    (absent : ¬ fact l) (holds : fact (P.after l events)) : ∃ before request answer after,
      events = before ++ ⟨request, answer⟩ :: after ∧ ¬ fact (P.after l before) ∧ fact (P.advance (P.after l before) request answer) := by
  induction events generalizing l with
  | nil => exact (absent holds).elim
  | cons event events ih =>
    obtain ⟨request, answer⟩ := event
    by_cases now : fact (P.advance l request answer)
    · exact ⟨[], request, answer, events, rfl, absent, now⟩
    · obtain ⟨before, request', answer', after, rfl, later⟩ := ih now holds
      exact ⟨⟨request, answer⟩ :: before, request', answer', after, rfl, later⟩

namespace Conforms
variable {P : Protocol E A L}

theorem trace (free : ∀ l request answer, P.expects l request answer) {program later : Prog E A α}
    (conforms : Conforms P program l post) (trace : program.Trace events later) :
    Conforms P later (P.after l events) post := by
  induction trace generalizing l with
  | nil => exact conforms
  | cons rest ih => exact ih (conforms.2 _ (free ..))

/-- What was asked within a trace was admitted where it was asked. -/
theorem trace_admits (free : ∀ l request answer, P.expects l request answer) {program later : Prog E A α} {request : E}
    {answer : A request} (conforms : Conforms P program l post)
    (trace : program.Trace (events ++ ⟨request, answer⟩ :: events') later) : P.admits (P.after l events) request := by
  obtain ⟨resume, asked, _⟩ := trace.asked
  exact (conforms.trace free asked).1

/-- What every admitted step keeps holds after every trace. -/
theorem trace_invariant {I : L → Prop} (free : ∀ l request answer, P.expects l request answer)
    (kept : ∀ l request answer, I l → P.admits l request → I (P.advance l request answer)) {program later : Prog E A α}
    (conforms : Conforms P program l post) (trace : program.Trace events later) (initial : I l) : I (P.after l events) := by
  induction trace generalizing l with
  | nil => exact initial
  | cons rest ih => exact ih (conforms.2 _ (free ..)) (kept l _ _ initial conforms.1)

end Conforms
end Interleaving
