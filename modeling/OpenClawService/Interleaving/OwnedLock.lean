import Mathlib.Logic.Function.Basic

/-! A lock cell whose holder is known by a token that it drew itself. The
release watches the cell, compares the token and deletes the cell only if
nobody touched it since. Workers and tokens are arbitrary. -/
namespace Interleaving.OwnedLock

/-- Where a worker stands between two acquisitions. -/
inductive Point (T : Type) where
  | outside (drawn : Option T)
  | inside (token : T)
  | watching (token : T)
  | compared (token : T) (owned : Bool)
  deriving DecidableEq

namespace Point

/-- The token that the worker may claim or has claimed. -/
def token : Point T → Option T
  | .outside drawn => drawn
  | .inside token | .watching token | .compared token _ => some token

/-- The worker has the token in the cell for as long as nobody takes it away. -/
def Holds : Point T → T → Prop
  | .outside _, _ => False
  | .inside token, t | .watching token, t => token = t
  | .compared token owned, t => token = t ∧ owned = true

/-- The worker relies on its watch of the cell. -/
def Releasing : Point T → Prop
  | .watching _ | .compared .. => True
  | _ => False

/-- The worker neither has the lock nor is leaving it. -/
def Away (point : Point T) : Prop := ∃ drawn, point = .outside drawn

theorem Holds.token {point : Point T} (holds : point.Holds t) : point.token = some t := by
  cases point with
  | outside drawn => exact holds.elim
  | inside token | watching token => exact congrArg some holds
  | compared token owned => exact congrArg some holds.1

end Point

/-- `intact` says that the cell is as the worker's last watch found it, and
`lease` is the token of a worker that neither released it nor ran out of time. -/
@[ext] structure State (ι T : Type) where
  cell : Option T
  intact : ι → Prop
  point : ι → Point T
  drawn : ι → T → Prop
  lease : ι → Option T

variable {ι T : Type} [DecidableEq ι] [DecidableEq T]

/-- The watches that workers other than `i` rely on see the cell unchanged. -/
def Undisturbed (s : State ι T) (i : ι) (intact : ι → Prop) : Prop :=
  ∀ j, j ≠ i → (s.point j).Releasing → (intact j ↔ s.intact j)

/-- The cell was modified, so no release that is under way can go through. -/
def Broken (s : State ι T) (intact : ι → Prop) : Prop :=
  ∀ j, (s.point j).Releasing → ¬ intact j

inductive Step (s : State ι T) : State ι T → Prop where
  /-- A worker outside a release may watch other cells. -/
  | quiet (undisturbed : ∀ j, (s.point j).Releasing → (intact j ↔ s.intact j)) :
      Step s { s with intact }
  | draw (fresh : ∀ j, ¬ s.drawn j t) (ready : s.point i = .outside drawn) :
      Step s { s with
        point := Function.update s.point i (.outside (some t))
        drawn := fun j u => s.drawn j u ∨ j = i ∧ u = t }
  /-- A token drawn for another purpose. -/
  | spend (fresh : ∀ j, ¬ s.drawn j t) :
      Step s { s with drawn := fun j u => s.drawn j u ∨ j = i ∧ u = t }
  | acquire (ready : s.point i = .outside (some t)) (free : s.cell = none) (broken : Broken s intact) :
      Step s { s with
        cell := some t
        intact
        point := Function.update s.point i (.inside t)
        lease := Function.update s.lease i (some t) }
  | denied (ready : s.point i = .outside (some t)) :
      Step s { s with point := Function.update s.point i (.outside none) }
  | watch (entered : s.point i = .inside t) (watched : intact i) (undisturbed : Undisturbed s i intact) :
      Step s { s with intact, point := Function.update s.point i (.watching t) }
  | compare (watching : s.point i = .watching t) :
      Step s { s with point := Function.update s.point i (.compared t (decide (s.cell = some t))) }
  | release (owned : s.point i = .compared t true) (unchanged : s.intact i) (broken : Broken s intact) :
      Step s { s with
        cell := none
        intact
        point := Function.update s.point i (.outside none)
        lease := Function.update s.lease i none }
  | aborted (owned : s.point i = .compared t true) (changed : ¬ s.intact i)
      (undisturbed : Undisturbed s i intact) :
      Step s { s with intact, point := Function.update s.point i (.outside none) }
  | passed (foreign : s.point i = .compared t false) (undisturbed : Undisturbed s i intact) :
      Step s { s with intact, point := Function.update s.point i (.outside none) }
  | expire (broken : Broken s intact) : Step s { s with cell := none, intact, lease := fun _ => none }

/-- What holds of one worker: it drew its token, its lease is the token in the
cell, and a release that goes through is one of that token. -/
structure Sound (cell : Option T) (intact : Prop) (drawn : T → Prop) (lease : Option T)
    (point : Point T) : Prop where
  mine : point.token = some t → drawn t
  leased : lease = some t → cell = some t ∧ point.Holds t
  changed : point.Releasing → ¬ intact → point.token = some t → cell ≠ some t
  owned : point = .compared t true → intact → cell = some t
  foreign : point = .compared t false → cell ≠ some t

namespace Sound
variable {cell : Option T} {drawn drawn' : T → Prop} {lease : Option T} {point : Point T}

omit [DecidableEq T]

theorem outside (claimed : ∀ t, token = some t → drawn t) (free : lease = none) :
    Sound cell intact drawn lease (.outside token) where
  mine := claimed _
  leased := by simp [free]
  changed releasing := releasing.elim
  owned := by simp
  foreign := by simp

theorem undisturbed (sound : Sound cell intact drawn lease point)
    (same : point.Releasing → (intact' ↔ intact)) : Sound cell intact' drawn lease point where
  mine := sound.mine
  leased := sound.leased
  changed releasing broken := sound.changed releasing (mt (same releasing).mpr broken)
  owned compared unbroken := by
    have releasing : point.Releasing := by rw [compared]; trivial
    exact sound.owned compared ((same releasing).mp unbroken)
  foreign := sound.foreign

theorem drew (sound : Sound cell intact drawn lease point) (more : ∀ t, drawn t → drawn' t) :
    Sound cell intact drawn' lease point where
  mine claimed := more _ (sound.mine claimed)
  leased := sound.leased
  changed := sound.changed
  owned := sound.owned
  foreign := sound.foreign

theorem emptied (sound : Sound cell intact drawn lease point) (broken : point.Releasing → ¬ intact') :
    Sound none intact' drawn none point where
  mine := sound.mine
  leased := by simp
  changed := by simp
  owned compared unbroken := (broken (by rw [compared]; trivial) unbroken).elim
  foreign := by simp

/-- Another worker puts its own token into the empty cell. -/
theorem taken (sound : Sound none intact drawn lease point) (broken : point.Releasing → ¬ intact')
    (foreign : ¬ drawn t) : Sound (some t) intact' drawn lease point where
  mine := sound.mine
  leased leased := by simpa using (sound.leased leased).1
  changed releasing _ claimed same := by
    have mine := sound.mine claimed
    exact foreign (Option.some.inj same ▸ mine)
  owned compared unbroken := (broken (by rw [compared]; trivial) unbroken).elim
  foreign compared same := by
    have claimed : point.token = some t := by rw [compared, Option.some.inj same]; rfl
    exact foreign (sound.mine claimed)

end Sound

/-- The lock invariant. -/
structure Inv (s : State ι T) : Prop where
  unique : s.drawn i t → s.drawn j t → i = j
  owner : s.cell = some t → ∃ i, s.lease i = some t
  sound : ∀ i, Sound s.cell (s.intact i) (s.drawn i) (s.lease i) (s.point i)

namespace Inv
variable {s s' : State ι T}

omit [DecidableEq ι] [DecidableEq T]

theorem initial (empty : s.cell = none) (undrawn : ∀ i t, ¬ s.drawn i t)
    (outside : ∀ i, s.point i = .outside none) (free : ∀ i, s.lease i = none) : Inv s where
  unique drawn := (undrawn _ _ drawn).elim
  owner := by simp [empty]
  sound i := by
    rw [outside]
    exact .outside (by simp) (free i)

/-- The token in the cell is claimed by the one worker that drew it. -/
theorem cell_owner (inv : Inv s) (cell : s.cell = some t) (drawn : s.drawn i t) :
    s.lease i = some t := by
  obtain ⟨j, leased⟩ := inv.owner cell
  have holds := ((inv.sound j).leased leased).2
  have same : i = j := inv.unique drawn ((inv.sound j).mine holds.token)
  rwa [same]

/-- Mutual exclusion of the leases. -/
theorem exclusive (inv : Inv s) (first : s.lease i = some t) (second : s.lease j = some u) : i = j := by
  obtain ⟨cell, holds⟩ := (inv.sound i).leased first
  obtain ⟨cell', holds'⟩ := (inv.sound j).leased second
  have same : t = u := Option.some.inj (cell.symm.trans cell')
  exact inv.unique ((inv.sound i).mine holds.token) ((inv.sound j).mine (same ▸ holds'.token))

theorem unheld (inv : Inv s) (unheld : ∀ t, ¬ (s.point i).Holds t) : s.lease i = none := by
  cases leased : s.lease i with
  | none => rfl
  | some t => exact (unheld t ((inv.sound i).leased leased).2).elim

theorem emptied (inv : Inv s) (broken : Broken s intact) :
    Inv { s with cell := none, intact, lease := fun _ => none } where
  unique := inv.unique
  owner := by simp
  sound j := (inv.sound j).emptied (broken j)

variable [DecidableEq ι]

/-- One worker moves on, the cell and the leases stay. -/
theorem moved (inv : Inv s) (undisturbed : Undisturbed s i intact)
    (sound : Sound s.cell (intact i) (s.drawn i) (s.lease i) point) :
    Inv { s with intact, point := Function.update s.point i point } where
  unique := inv.unique
  owner := inv.owner
  sound j := by
    rcases eq_or_ne j i with rfl | other
    · simpa only [Function.update_self] using sound
    · simpa only [Function.update_of_ne other] using
        (inv.sound j).undisturbed (undisturbed j other)

theorem drew (inv : Inv s) (fresh : ∀ j, ¬ s.drawn j t)
    (sound : Sound s.cell (s.intact i) (fun u => s.drawn i u ∨ u = t) (s.lease i) point) :
    Inv { s with
      point := Function.update s.point i point
      drawn := fun j u => s.drawn j u ∨ j = i ∧ u = t } where
  unique {j u k} first second := by
    rcases first with first | ⟨rfl, rfl⟩ <;> rcases second with second | ⟨rfl, same⟩
    · exact inv.unique first second
    · exact (fresh j (same ▸ first)).elim
    · exact (fresh k second).elim
    · rfl
  owner := inv.owner
  sound j := by
    rcases eq_or_ne j i with rfl | other
    · simpa only [Function.update_self, true_and] using sound
    · simpa only [Function.update_of_ne other] using (inv.sound j).drew fun _ => Or.inl

theorem acquired (inv : Inv s) (ready : s.point i = .outside (some t)) (free : s.cell = none)
    (broken : Broken s intact) :
    Inv { s with
      cell := some t
      intact
      point := Function.update s.point i (.inside t)
      lease := Function.update s.lease i (some t) } where
  unique := inv.unique
  owner {u} same := ⟨i, by simpa only [Function.update_self] using same⟩
  sound j := by
    have mine : s.drawn i t := (inv.sound i).mine (by rw [ready]; rfl)
    rcases eq_or_ne j i with rfl | other
    · simp only [Function.update_self]
      exact ⟨fun same => Option.some.inj same ▸ mine, fun same => ⟨same, Option.some.inj same⟩,
        fun releasing => releasing.elim, by simp, by simp⟩
    · simp only [Function.update_of_ne other]
      have sound := inv.sound j
      rw [free] at sound
      exact sound.taken (broken j) fun drawn => other (inv.unique drawn mine)

/-- The owner deletes its token; nobody else has a lease at that moment. -/
theorem released (inv : Inv s) (leased : s.lease i = some t) (broken : Broken s intact) :
    Inv { s with
      cell := none
      intact
      point := Function.update s.point i (.outside none)
      lease := Function.update s.lease i none } where
  unique := inv.unique
  owner := by simp
  sound j := by
    rcases eq_or_ne j i with rfl | other
    · simp only [Function.update_self]
      exact .outside (by simp) rfl
    · simp only [Function.update_of_ne other]
      have free : s.lease j = none := by
        cases claimed : s.lease j with
        | none => rfl
        | some u => exact (other (inv.exclusive claimed leased)).elim
      rw [free]
      exact (inv.sound j).emptied (broken j)

/-- A worker without the token in the cell leaves. -/
theorem left (inv : Inv s) (undisturbed : Undisturbed s i intact) (free : s.lease i = none) :
    Inv { s with intact, point := Function.update s.point i (.outside none) } :=
  inv.moved undisturbed (.outside (by simp) free)

theorem step [DecidableEq T] (inv : Inv s) (step : Step s s') : Inv s' := by
  cases step with
  | quiet undisturbed =>
    exact ⟨inv.unique, inv.owner, fun j => (inv.sound j).undisturbed (undisturbed j)⟩
  | @draw t i d fresh ready =>
    apply inv.drew fresh
    apply Sound.outside
    · exact fun u same => Or.inr (Option.some.inj same).symm
    · exact inv.unheld (by simp [ready, Point.Holds])
  | @spend t i fresh =>
    have drew := inv.drew (i := i) fresh ((inv.sound i).drew fun _ => Or.inl)
    simpa only [Function.update_eq_self] using drew
  | acquire ready free broken => exact inv.acquired ready free broken
  | denied ready => exact inv.left (fun _ _ _ => Iff.rfl) (inv.unheld (by simp [ready, Point.Holds]))
  | @watch i intact t entered watched undisturbed =>
    have sound := inv.sound i
    rw [entered] at sound
    apply inv.moved undisturbed
    exact ⟨sound.mine, sound.leased, fun _ broken => (broken watched).elim, by simp, by simp⟩
  | @compare i t watching =>
    have sound := inv.sound i
    rw [watching] at sound
    refine inv.moved (fun _ _ _ => Iff.rfl) ⟨sound.mine, ?_, sound.changed, ?_, ?_⟩
    · intro u leased
      obtain ⟨cell, holds⟩ := sound.leased leased
      exact ⟨cell, holds, by simpa [show t = u from holds] using cell⟩
    · intro u compared _
      simp only [Point.compared.injEq, decide_eq_true_eq] at compared
      rw [← compared.1]
      exact compared.2
    · intro u compared
      simp only [Point.compared.injEq, decide_eq_false_iff_not] at compared
      rw [← compared.1]
      exact compared.2
  | @release i t intact owned unchanged broken =>
    have cell := (inv.sound i).owned owned unchanged
    have drawn := (inv.sound i).mine (by rw [owned]; rfl)
    exact inv.released (inv.cell_owner cell drawn) broken
  | @aborted i t intact owned changed undisturbed =>
    apply inv.left undisturbed
    cases leased : s.lease i with
    | none => rfl
    | some u =>
      obtain ⟨cell, holds⟩ := (inv.sound i).leased leased
      have releasing : (s.point i).Releasing := by rw [owned]; trivial
      exact ((inv.sound i).changed releasing changed holds.token cell).elim
  | passed foreign undisturbed =>
    exact inv.left undisturbed (inv.unheld (by simp [foreign, Point.Holds]))
  | expire broken => exact inv.emptied broken

end Inv
end Interleaving.OwnedLock
