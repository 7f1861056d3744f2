import OpenClawService.Interleaving.Pool

/-! Runs in which a worker may be cut off. At any of its requests it ends with a
broken result, whether what it asked for has been done or not. -/
namespace Interleaving

variable {ι E S α L : Type} {A : E → Type} [DecidableEq ι]

inductive TornStep (sys : System ι E A S) (broken : α → Prop) : Option ι → Config ι E A S α → Config ι E A S α → Prop where
  | step {c d : Config ι E A S α} (step : Step sys label c d) : TornStep sys broken label c d
  | cut {c : Config ι E A S α} {request : E} {resume : A request → Prog E A α} (pending : c.pool i = .await request resume)
      (ended : broken result) : TornStep sys broken (some i) c ⟨c.shared, Function.update c.pool i (.done result)⟩
  | late {c : Config ι E A S α} {request : E} {resume : A request → Prog E A α} {answer : A request}
      (pending : c.pool i = .await request resume) (served : sys.serve i c.shared request answer s) (ended : broken result) :
      TornStep sys broken (some i) c ⟨s, Function.update c.pool i (.done result)⟩

def TornRun (sys : System ι E A S) (broken : α → Prop) (guard : Config ι E A S α → Option ι → Prop) :
    Config ι E A S α → Config ι E A S α → Prop :=
  Relation.ReflTransGen (fun c d => ∃ label, guard c label ∧ TornStep sys broken label c d)

/-- A run in which no worker is cut off. -/
theorem Run.whole {sys : System ι E A S} {guard : Config ι E A S α → Option ι → Prop} {c d : Config ι E A S α}
    (run : Run sys guard c d) (broken : α → Prop) : TornRun sys broken guard c d :=
  Relation.ReflTransGen.mono (fun _ _ ⟨label, met, step⟩ => ⟨label, met, .step step⟩) _ _ run

namespace TornRun
variable {sys : System ι E A S} {broken : α → Prop} {guard : Config ι E A S α → Option ι → Prop}
  {c d e : Config ι E A S α}

theorem snoc (run : TornRun sys broken guard c d) (label : Option ι) (met : guard d label) (step : TornStep sys broken label d e) :
    TornRun sys broken guard c e := Relation.ReflTransGen.tail run ⟨label, met, step⟩

theorem invariant {I : Config ι E A S α → Prop}
    (preserved : ∀ c label d, I c → guard c label → TornStep sys broken label c d → I d)
    (run : TornRun sys broken guard c d) (initial : I c) : I d := by
  induction run with
  | refl => exact initial
  | tail _ last ih =>
    obtain ⟨label, met, step⟩ := last
    exact preserved _ label _ ih met step

end TornRun

namespace Conforming
variable {sys : System ι E A S} {P : ι → Protocol E A L} {view : S → ι → L} {post : ι → α → L → Prop} {broken : α → Prop}
  {c d : Config ι E A S α}

/-- A worker that is cut off has nothing more to conform to than its end. -/
theorem torn (tracks : Tracks sys P view) (free : ∀ i l request answer, (P i).expects l request answer)
    (ends : ∀ i result l, broken result → post i result l) (conforming : Conforming P view post c)
    (step : TornStep sys broken label c d) : Conforming P view post d := by
  cases step with
  | step step =>
    cases step with
    | serve pending served => exact conforming.served tracks pending served (free ..)
    | drift drifted =>
      intro j
      simpa only [tracks.drift drifted] using conforming j
  | @cut i result _ request resume pending ended =>
    intro j
    rcases eq_or_ne j i with rfl | other
    · simpa only [Function.update_self, Conforms.done_iff] using ends j result _ ended
    · simpa only [Function.update_of_ne other] using conforming j
  | @late i s result _ request resume answer pending served ended =>
    intro j
    rcases eq_or_ne j i with rfl | other
    · simpa only [Function.update_self, Conforms.done_iff] using ends j result _ ended
    · simpa only [Function.update_of_ne other, tracks.others served other] using conforming j

end Conforming
end Interleaving
