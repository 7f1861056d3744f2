import OpenClawService.Interleaving.Pool
import OpenClawService.Interleaving.Raising
import Mathlib.Algebra.Order.Monoid.Canonical.Defs

/-! What programs spend: every request costs an amount of an ordered monoid, a bound for
the whole program follows from those of its parts, and in a pool a worker is within the
bound of its program at every moment, not only when it ends. -/
namespace Interleaving
variable {E : Type} {A : E → Type} {M ε : Type} [AddCommMonoid M] [PartialOrder M] [IsOrderedAddMonoid M] [CanonicallyOrderedAdd M]

/-- Everything is allowed, and what it costs is added up. -/
def meter (weigh : E → M) : Protocol E A M where
  admits _ _ := True
  expects _ _ _ := True
  advance spent request _ := spent + weigh request

section Meter
omit [PartialOrder M] [IsOrderedAddMonoid M] [CanonicallyOrderedAdd M]
variable {weigh : E → M}

@[simp] theorem meter_admits : (meter weigh : Protocol E A M).admits spent request := trivial

@[simp] theorem meter_expects {answer : A request} : (meter weigh).expects spent request answer := trivial

@[simp] theorem meter_advance {answer : A request} : (meter weigh).advance spent request answer = spent + weigh request := rfl

end Meter

/-- Every path ends with no more spent on top than the bound for its result. -/
def Costs (weigh : E → M) (bound : Except ε α → M) (program : ExceptT ε (Prog E A) α) : Prop :=
  ∀ spent, Meets (meter weigh) program spent fun result total => total ≤ spent + bound result

/-- The same bound for every result. -/
abbrev Within (weigh : E → M) (bound : M) (program : ExceptT ε (Prog E A) α) : Prop := Costs weigh (fun _ => bound) program

namespace Costs
variable {weigh : E → M} {bound : Except ε α → M} {program : ExceptT ε (Prog E A) α}

omit [CanonicallyOrderedAdd M] in
theorem mono {larger : Except ε α → M} (costs : Costs weigh bound program) (le : ∀ result, bound result ≤ larger result) :
    Costs weigh larger program :=
  fun spent => (costs spent).mono fun result _ within => within.trans (add_le_add_right (le result) spent)

omit [IsOrderedAddMonoid M] in
theorem ended (outcome : Except ε α) : Costs weigh bound (ExceptT.mk (.done outcome : Prog E A (Except ε α))) :=
  fun _ => le_self_add

omit [IsOrderedAddMonoid M] in
theorem pure (value : α) : Costs weigh bound (Pure.pure value : ExceptT ε (Prog E A) α) := ended (.ok value)

omit [IsOrderedAddMonoid M] in
theorem throw (error : ε) : Costs weigh bound (MonadExcept.throw error : ExceptT ε (Prog E A) α) := ended (.error error)

omit [IsOrderedAddMonoid M] [CanonicallyOrderedAdd M] in
theorem request (asked : E) : Within weigh (weigh asked) (ExceptT.lift (Prog.request asked) : ExceptT ε (Prog E A) (A asked)) :=
  fun _ => ⟨trivial, fun _ _ => le_rfl⟩

omit [CanonicallyOrderedAdd M] in
/-- What is spent in the second half is spent on top of the first. -/
theorem bind {next : α → ExceptT ε (Prog E A) β} {rest : α → Except ε β → M} {whole : Except ε β → M} (first : Costs weigh bound program)
    (second : ∀ value, Costs weigh (rest value) (next value)) (ok : ∀ value result, bound (.ok value) + rest value result ≤ whole result)
    (error : ∀ error, bound (.error error) ≤ whole (.error error)) : Costs weigh whole (program >>= next) := by
  intro spent
  rw [Meets.bind_iff]
  refine (first spent).mono ?_
  rintro (failed | value) halfway within
  · exact within.trans (add_le_add_right (error failed) spent)
  · refine (second value halfway).mono fun result total within' => within'.trans ?_
    calc halfway + rest value result ≤ spent + bound (.ok value) + rest value result := add_le_add_left within _
      _ = spent + (bound (.ok value) + rest value result) := add_assoc ..
      _ ≤ spent + whole result := add_le_add_right (ok value result) spent

omit [CanonicallyOrderedAdd M] in
theorem map {f : α → β} {whole : Except ε β → M} (costs : Costs weigh bound program) (le : ∀ result, bound result ≤ whole (f <$> result)) :
    Costs weigh whole (f <$> program) := by
  intro spent
  rw [Meets.map_iff]
  exact (costs spent).mono fun result _ within => within.trans (add_le_add_right (le result) spent)

end Costs

namespace Within
variable {weigh : E → M} {a b : M} {program : ExceptT ε (Prog E A) α}

omit [CanonicallyOrderedAdd M] in
theorem mono (within : Within weigh a program) (le : a ≤ b) : Within weigh b program := Costs.mono within fun _ => le

theorem bind {next : α → ExceptT ε (Prog E A) β} (first : Within weigh a program) (rest : ∀ value, Within weigh b (next value)) :
    Within weigh (a + b) (program >>= next) := Costs.bind first rest (fun _ _ => le_rfl) fun _ => le_self_add

omit [CanonicallyOrderedAdd M] in
theorem map {f : α → β} (within : Within weigh a program) : Within weigh a (f <$> program) := Costs.map within fun _ => le_rfl

theorem tryCatch {handler : ε → ExceptT ε (Prog E A) α} (body : Within weigh a program) (handled : ∀ error, Within weigh b (handler error)) :
    Within weigh (a + b) (MonadExcept.tryCatch program handler) := by
  intro spent
  rw [Meets.tryCatch_iff]
  refine (body spent).mono ?_
  rintro (error | value) halfway within
  · refine (handled error halfway).mono fun _ total within' => within'.trans ?_
    rw [← add_assoc]
    exact add_le_add_left within b
  · exact within.trans (add_le_add_right le_self_add spent)

end Within

omit [IsOrderedAddMonoid M] in
/-- A program that stays below a bound on every path is below it already. -/
theorem Conforms.spent [inhabited : ∀ request, Nonempty (A request)] {weigh : E → M} {program : Prog E A α} {spent limit : M}
    (conforms : Conforms (meter weigh) program spent fun _ total => total ≤ limit) : spent ≤ limit := by
  induction program generalizing spent with
  | done result => exact conforms
  | await request resume ih =>
    obtain ⟨answer⟩ := inhabited request
    exact le_self_add.trans (ih answer (conforms.2 answer trivial))

omit [IsOrderedAddMonoid M] in
/-- No worker of a pool ever spends more than its program may. -/
theorem Conforming.spent {ι S : Type} [DecidableEq ι] [∀ request, Nonempty (A request)] {weigh : E → M} {sys : System ι E A S} {view : S → ι → M}
    {bound : ι → M} {pool : ι → ExceptT ε (Prog E A) α} {s : S} {d : Config ι E A S (Except ε α)}
    (tracks : Tracks sys (fun _ => meter weigh) view) (within : ∀ i, Within weigh (bound i) (pool i)) (initial : ∀ i, view s i = 0)
    (run : Reaches sys ⟨s, fun i => (pool i).run⟩ d) (i : ι) : view d.shared i ≤ bound i := by
  have conforming : Conforming (fun _ => meter weigh) view (fun i _ total => total ≤ bound i) (⟨s, fun i => (pool i).run⟩ : Config ι E A S _) := by
    intro i
    have start := within i 0
    simpa only [initial, zero_add, Meets] using start
  have kept := Conforming.run (I := fun _ => True) tracks (fun _ _ _ _ _ _ _ _ _ _ _ _ => ⟨trivial, trivial⟩)
    (fun _ _ _ _ _ => trivial) run trivial conforming
  exact (kept.2 i).spent

end Interleaving
