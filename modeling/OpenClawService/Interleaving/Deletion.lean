import OpenClawService.Interleaving.Pool

/-! Deleting workers from a run. Where their steps leave alone what the other
workers can see, the others take the same steps without them. -/
namespace Interleaving

variable {ι E S α L : Type} {A : E → Type} [DecidableEq ι] {sys : System ι E A S} {P : ι → Protocol E A L}
  {view : S → ι → L} {post : ι → α → L → Prop} {guard : Config ι E A S α → Option ι → Prop} {deleted : ι → Bool}
  {I : S → Prop} {agrees : S → S → Prop} {c d : Config ι E A S α}

/-- Only workers that are not deleted move. -/
def Without (deleted : ι → Bool) (_ : Config ι E A S α) (label : Option ι) : Prop :=
  ∀ i, label = some i → deleted i = false

/-- A step of a deleted worker is not seen, and any other can be taken without it. -/
structure Unwinds (sys : System ι E A S) (P : ι → Protocol E A L) (view : S → ι → L)
    (guard : Config ι E A S α → Option ι → Prop) (deleted : ι → Bool) (I : S → Prop) (agrees : S → S → Prop) : Prop where
  hidden {c : Config ι E A S α} {request : E} {resume : A request → Prog E A α} {answer : A request} {s other : S} :
    I c.shared → guard c (some i) → deleted i = true → c.pool i = .await request resume →
      (P i).admits (view c.shared i) request → sys.serve i c.shared request answer s → agrees c.shared other → agrees s other
  shown {c : Config ι E A S α} {request : E} {resume : A request → Prog E A α} {answer : A request} {s other : S} :
    I c.shared → guard c (some i) → deleted i = false → c.pool i = .await request resume →
      (P i).admits (view c.shared i) request → sys.serve i c.shared request answer s → agrees c.shared other →
        ∃ next, sys.serve i other request answer next ∧ agrees s next
  drifts {s t other : S} : I s → agrees s other → sys.drift s t → agrees t other ∨ ∃ next, sys.drift other next ∧ agrees t next

/-- The configuration of a run without the deleted workers, in which the others are where they are. -/
structure Deleted (sys : System ι E A S) (deleted : ι → Bool) (agrees : S → S → Prop) (c d d' : Config ι E A S α) : Prop where
  run : Run sys (Without deleted) c d'
  agree : agrees d.shared d'.shared
  same : deleted i = false → d'.pool i = d.pool i

namespace Deleted
variable {d' : Config ι E A S α}

theorem skip (before : Deleted sys deleted agrees c d d') (gone : deleted i = true) (agree : agrees s d'.shared)
    (next : Prog E A α) : Deleted sys deleted agrees c ⟨s, Function.update d.pool i next⟩ d' := by
  refine ⟨before.run, agree, fun {j} kept => ?_⟩
  have other : j ≠ i := by
    rintro rfl
    rw [gone] at kept
    cases kept
  exact (before.same kept).trans (Function.update_of_ne other ..).symm

theorem follow (before : Deleted sys deleted agrees c d d') (kept : deleted i = false) {request : E} {answer : A request}
    {resume : A request → Prog E A α} (pending : d.pool i = .await request resume)
    (served : sys.serve i d'.shared request answer t) (agree : agrees s t) :
    Deleted sys deleted agrees c ⟨s, Function.update d.pool i (resume answer)⟩
      ⟨t, Function.update d'.pool i (resume answer)⟩ := by
  refine ⟨before.run.snoc ?_ (.serve ((before.same kept).trans pending) served), agree, fun {j} here => ?_⟩
  · rintro j ⟨⟩
    exact kept
  · rcases eq_or_ne j i with rfl | other
    · simp only [Function.update_self]
    · simp only [Function.update_of_ne other, before.same here]

end Deleted

/-- The run that is left when the steps of the deleted workers are left out. -/
theorem Conforming.deletes (tracks : Tracks sys P view) (unwinds : Unwinds sys P view guard deleted I agrees)
    (serves : ∀ c i request resume answer s, I c.shared → Conforming P view post c →
      guard c (some i) → c.pool i = .await request resume → (P i).admits (view c.shared i) request →
      sys.serve i c.shared request answer s → (P i).expects (view c.shared i) request answer ∧ I s)
    (drifts : ∀ c s, I c.shared → guard c none → sys.drift c.shared s → I s)
    (path : Run sys guard c d) (initial : I c.shared) (conforming : Conforming P view post c) (agree : agrees c.shared c.shared) :
    ∃ d', Deleted sys deleted agrees c d d' := by
  have reached : (I d.shared ∧ Conforming P view post d) ∧ ∃ d', Deleted sys deleted agrees c d d' := by
    refine path.invariant (I := fun d => (I d.shared ∧ Conforming P view post d) ∧ ∃ d', Deleted sys deleted agrees c d d') ?_
      ⟨⟨initial, conforming⟩, c, .refl c, agree, fun _ => rfl⟩
    rintro e label d ⟨⟨holds, conforming⟩, e', before⟩ met step
    cases step with
    | @serve e i request resume answer s pending served =>
      have admitted := conforming.admitted pending
      obtain ⟨expected, kept⟩ := serves e i request resume answer s holds conforming met pending admitted served
      refine ⟨⟨kept, conforming.served tracks pending served expected⟩, ?_⟩
      cases side : deleted i with
      | true => exact ⟨e', before.skip side (unwinds.hidden holds met side pending admitted served before.agree) _⟩
      | false =>
        obtain ⟨t, served', agree⟩ := unwinds.shown holds met side pending admitted served before.agree
        exact ⟨_, before.follow side pending served' agree⟩
    | drift drifted =>
      refine ⟨⟨drifts e _ holds met drifted, fun j => ?_⟩, ?_⟩
      · simpa only [tracks.drift drifted] using conforming j
      · rcases unwinds.drifts holds before.agree drifted with agree | ⟨t, drifted', agree⟩
        · exact ⟨e', before.run, agree, before.same⟩
        · exact ⟨⟨t, e'.pool⟩, before.run.snoc (by rintro j ⟨⟩) (.drift drifted'), agree, before.same⟩
  exact reached.2

end Interleaving
