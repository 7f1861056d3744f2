import OpenClawService.Interleaving.Protocol
import Mathlib.Logic.Function.Basic
import Mathlib.Logic.Relation

/-! Pools of programs over one shared state. A step answers the pending
request of one worker, or lets the shared state drift on its own. Invariants
are proved over protocols and hold in every reachable configuration. -/
namespace Interleaving

structure System (ι E : Type) (A : E → Type) (S : Type) where
  serve : ι → S → (request : E) → A request → S → Prop
  drift : S → S → Prop

structure Config (ι E : Type) (A : E → Type) (S α : Type) where
  shared : S
  pool : ι → Prog E A α

variable {ι E S α L : Type} {A : E → Type} [DecidableEq ι]

/-- The label names the worker that moves; a drift has none. -/
inductive Step (sys : System ι E A S) : Option ι → Config ι E A S α → Config ι E A S α → Prop where
  | serve {c : Config ι E A S α} {i : ι} {request : E} {resume : A request → Prog E A α}
      {answer : A request} {s : S} (pending : c.pool i = .await request resume)
      (served : sys.serve i c.shared request answer s) :
      Step sys (some i) c ⟨s, Function.update c.pool i (resume answer)⟩
  | drift {c : Config ι E A S α} {s : S} (drifted : sys.drift c.shared s) :
      Step sys none c ⟨s, c.pool⟩

/-- Runs whose every step is taken in a configuration that meets `guard`. -/
def Run (sys : System ι E A S) (guard : Config ι E A S α → Option ι → Prop) :
    Config ι E A S α → Config ι E A S α → Prop :=
  Relation.ReflTransGen (fun c c' => ∃ label, guard c label ∧ Step sys label c c')

abbrev Reaches (sys : System ι E A S) : Config ι E A S α → Config ι E A S α → Prop :=
  Run sys (fun _ _ => True)

namespace Run
variable {sys : System ι E A S} {guard : Config ι E A S α → Option ι → Prop}
  {c d e : Config ι E A S α}

theorem refl (c : Config ι E A S α) : Run sys guard c c := Relation.ReflTransGen.refl

theorem snoc (run : Run sys guard c d) (met : guard d label) (step : Step sys label d e) :
    Run sys guard c e := Relation.ReflTransGen.tail run ⟨label, met, step⟩

theorem trans (first : Run sys guard c d) (second : Run sys guard d e) : Run sys guard c e :=
  Relation.ReflTransGen.trans first second

theorem weaken {looser : Config ι E A S α → Option ι → Prop} (run : Run sys guard c d)
    (implied : ∀ c label, guard c label → looser c label) : Run sys looser c d :=
  Relation.ReflTransGen.mono (fun c _ ⟨label, met, step⟩ => ⟨label, implied c label met, step⟩) _ _ run

theorem reaches (run : Run sys guard c d) : Reaches sys c d := run.weaken fun _ _ _ => trivial

theorem invariant {I : Config ι E A S α → Prop}
    (preserved : ∀ c label d, I c → guard c label → Step sys label c d → I d)
    (run : Run sys guard c d) (initial : I c) : I d := by
  induction run with
  | refl => exact initial
  | tail _ last ih =>
    obtain ⟨label, met, step⟩ := last
    exact preserved _ label _ ih met step

/-- A guard that can be told from where a run has got to holds all along it. -/
theorem guarded {stricter : Config ι E A S α → Option ι → Prop} (kept : Config ι E A S α → Prop)
    (back : ∀ c label d, kept d → guard c label → Step sys label c d → kept c ∧ stricter c label)
    (run : Run sys guard c d) (final : kept d) : Run sys stricter c d := by
  induction run with
  | refl => exact .refl c
  | tail _ last ih =>
    obtain ⟨label, met, step⟩ := last
    obtain ⟨before, allowed⟩ := back _ label _ final met step
    exact (ih before).snoc allowed step

/-- A worker that is done stays so. -/
theorem done (run : Run sys guard c d) (ended : c.pool i = .done result) : d.pool i = .done result := by
  refine run.invariant (I := fun c => c.pool i = .done result) ?_ ended
  intro c label d ended _ step
  cases step with
  | drift drifted => exact ended
  | @serve c j request resume answer s pending served =>
    have other : i ≠ j := by
      rintro rfl
      cases ended.symm.trans pending
    exact (Function.update_of_ne other ..).trans ended

end Run

/-- `view` reads off the shared state where each worker is in its own protocol. -/
structure Tracks (sys : System ι E A S) (P : ι → Protocol E A L) (view : S → ι → L) : Prop where
  own : sys.serve i s request answer s' → view s' i = (P i).advance (view s i) request answer
  others : sys.serve i s request answer s' → j ≠ i → view s' j = view s j
  drift : sys.drift s s' → view s' j = view s j

omit [DecidableEq ι] in
/-- Two protocols are tracked side by side. -/
theorem Tracks.prod {sys : System ι E A S} {P : ι → Protocol E A L} {Q : ι → Protocol E A M} {view : S → ι → L} {view' : S → ι → M}
    (first : Tracks sys P view) (second : Tracks sys Q view') :
    Tracks sys (fun i => (P i).prod (Q i)) (fun s i => (view s i, view' s i)) where
  own served := Prod.ext (first.own served) (second.own served)
  others served other := Prod.ext (first.others served other) (second.others served other)
  drift drifted := Prod.ext (first.drift drifted) (second.drift drifted)

/-- Every worker is at a point of a program that conforms to its protocol. -/
def Conforming (P : ι → Protocol E A L) (view : S → ι → L) (post : ι → α → L → Prop)
    (c : Config ι E A S α) : Prop :=
  ∀ i, Conforms (P i) (c.pool i) (view c.shared i) (post i)

namespace Conforming
variable {sys : System ι E A S} {P : ι → Protocol E A L} {view : S → ι → L} {post : ι → α → L → Prop}
  {c d : Config ι E A S α}

omit [DecidableEq ι] in
theorem admitted (conforming : Conforming P view post c) (pending : c.pool i = .await request resume) :
    (P i).admits (view c.shared i) request := by
  have conforms := conforming i
  rw [pending] at conforms
  exact conforms.1

omit [DecidableEq ι] in
theorem finished (conforming : Conforming P view post c) (ended : c.pool i = .done result) :
    post i result (view c.shared i) := by
  have conforms := conforming i
  rwa [ended] at conforms

theorem served (tracks : Tracks sys P view) (conforming : Conforming P view post c)
    (pending : c.pool i = .await request resume) (served : sys.serve i c.shared request answer s)
    (expected : (P i).expects (view c.shared i) request answer) :
    Conforming P view post ⟨s, Function.update c.pool i (resume answer)⟩ := by
  intro j
  by_cases same : j = i
  · subst same
    have conforms := conforming j
    rw [pending] at conforms
    simpa only [Function.update_self, tracks.own served] using conforms.2 answer expected
  · simpa only [Function.update_of_ne same, tracks.others served same] using conforming j

/-- The rule every safety proof uses: admitted requests get the expected
answers and keep the invariant, so it holds along every run of the pool. -/
theorem run (tracks : Tracks sys P view) {guard : Config ι E A S α → Option ι → Prop} {I : S → Prop}
    (serves : ∀ c i request resume answer s, I c.shared → Conforming P view post c →
      guard c (some i) → c.pool i = .await request resume → (P i).admits (view c.shared i) request →
      sys.serve i c.shared request answer s → (P i).expects (view c.shared i) request answer ∧ I s)
    (drifts : ∀ c s, I c.shared → guard c none → sys.drift c.shared s → I s)
    (path : Run sys guard c d) (initial : I c.shared) (conforming : Conforming P view post c) :
    I d.shared ∧ Conforming P view post d := by
  refine path.invariant (I := fun c => I c.shared ∧ Conforming P view post c) ?_ ⟨initial, conforming⟩
  rintro c label d ⟨holds, conforming⟩ met step
  cases step with
  | @serve c i request resume answer s pending served =>
    obtain ⟨expected, kept⟩ := serves c i request resume answer s holds conforming met pending
      (conforming.admitted pending) served
    exact ⟨kept, conforming.served tracks pending served expected⟩
  | drift drifted =>
    refine ⟨drifts c _ holds met drifted, fun j => ?_⟩
    simpa only [tracks.drift drifted] using conforming j

end Conforming
end Interleaving
