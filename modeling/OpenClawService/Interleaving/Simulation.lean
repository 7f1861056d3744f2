import OpenClawService.Interleaving.Pool

/-! One system stands for another: whatever the lower one answers to an admitted
request, the upper one may answer as well, and the two stay related. Then so does every
run of a pool whose programs conform, and what holds of the upper runs holds of the lower. -/
namespace Interleaving
variable {ι E S T α L : Type} {A : E → Type} [DecidableEq ι]

/-- The upper system follows the lower one step by step, for requests that are admitted. -/
structure Simulates (lower : System ι E A S) (upper : System ι E A T) (P : ι → Protocol E A L) (view : T → ι → L)
    (related : S → T → Prop) : Prop where
  serve : related s t → (P i).admits (view t i) request → lower.serve i s request answer s' →
    (P i).expects (view t i) request answer ∧ ∃ t', upper.serve i t request answer t' ∧ related s' t'
  drift : related s t → lower.drift s s' → ∃ t', upper.drift t t' ∧ related s' t'

namespace Simulates
variable {lower : System ι E A S} {upper : System ι E A T} {P : ι → Protocol E A L} {view : T → ι → L} {related : S → T → Prop}
  {post : ι → α → L → Prop} {c d : Config ι E A S α}

/-- The upper configuration has the same programs over a related state. -/
structure Follows (upper : System ι E A T) (P : ι → Protocol E A L) (view : T → ι → L) (related : S → T → Prop)
    (post : ι → α → L → Prop) (start : Config ι E A T α) (d : Config ι E A S α) (t : T) : Prop where
  reached : Reaches upper start ⟨t, d.pool⟩
  related : related d.shared t
  conforming : Conforming P view post ⟨t, d.pool⟩

theorem step (simulates : Simulates lower upper P view related) (tracks : Tracks upper P view) {start : Config ι E A T α} {t : T}
    (follows : Follows upper P view related post start c t) (step : Step lower label c d) :
    ∃ t', Follows upper P view related post start d t' := by
  cases step with
  | @serve c i request resume answer s pending served =>
    have admitted := follows.conforming.admitted pending
    obtain ⟨expected, t', served', related⟩ := simulates.serve follows.related admitted served
    exact ⟨t', follows.reached.snoc trivial (.serve pending served'), related,
      follows.conforming.served tracks pending served' expected⟩
  | drift drifted =>
    obtain ⟨t', drifted', related⟩ := simulates.drift follows.related drifted
    refine ⟨t', follows.reached.snoc trivial (.drift drifted'), related, fun i => ?_⟩
    rw [tracks.drift drifted']
    exact follows.conforming i

theorem run (simulates : Simulates lower upper P view related) (tracks : Tracks upper P view) {t : T}
    (initial : related c.shared t) (conforming : Conforming P view post ⟨t, c.pool⟩) (run : Reaches lower c d) :
    ∃ t', Follows upper P view related post ⟨t, c.pool⟩ d t' :=
  run.invariant (I := fun d => ∃ t', Follows upper P view related post ⟨t, c.pool⟩ d t')
    (fun _ _ _ ⟨_, follows⟩ _ stepped => simulates.step tracks follows stepped) ⟨t, .refl _, initial, conforming⟩

end Simulates
end Interleaving
