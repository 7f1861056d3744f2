import OpenClawService.Interleaving.Raising

/-! Programs that leave a protocol where they found it, and what their results can
be relied on to be. An exception says nothing. -/
namespace Interleaving
variable {E : Type} {A : E → Type} {L ε : Type}

/-- Every path conforms and comes back to where it began; a result is good. -/
def Returns (P : Protocol E A L) (l : L) (good : α → Prop) (program : ExceptT ε (Prog E A) α) : Prop :=
  Meets P program l fun result l' => l' = l ∧ ∀ value, result = .ok value → good value

namespace Returns
variable {P : Protocol E A L} {l : L} {good : α → Prop} {program : ExceptT ε (Prog E A) α}

theorem pure (holds : good value) : Returns P l good (Pure.pure value : ExceptT ε (Prog E A) α) := by
  refine ⟨rfl, ?_⟩
  rintro other ⟨⟩
  exact holds

theorem throw (error : ε) : Returns P l good (MonadExcept.throw error : ExceptT ε (Prog E A) α) := ⟨rfl, nofun⟩

theorem stays (returns : Returns P l good program) : Meets.Stays P l program := Meets.mono returns fun _ _ ended => ended.1

theorem bind {next : α → ExceptT ε (Prog E A) β} {good' : β → Prop} (first : Returns P l good program)
    (rest : ∀ value, good value → Returns P l good' (next value)) : Returns P l good' (program >>= next) := by
  rw [Returns, Meets.bind_iff]
  apply Meets.mono first
  rintro (error | value) l' ⟨rfl, holds⟩
  · exact ⟨rfl, nofun⟩
  · exact rest value (holds value rfl)

theorem map {f : α → β} {good' : β → Prop} (returns : Returns P l good program) (mapped : ∀ value, good value → good' (f value)) :
    Returns P l good' (f <$> program) := by
  rw [Returns, Meets.map_iff]
  apply Meets.mono returns
  rintro result l' ⟨same, holds⟩
  refine ⟨same, ?_⟩
  cases result with
  | error error => nofun
  | ok value =>
    rintro image ⟨⟩
    exact mapped value (holds value rfl)

theorem tryCatch {handler : ε → ExceptT ε (Prog E A) α} (body : Returns P l good program)
    (handled : ∀ error, Returns P l good (handler error)) : Returns P l good (MonadExcept.tryCatch program handler) := by
  rw [Returns, Meets.tryCatch_iff]
  apply Meets.mono body
  rintro (error | value) l' ⟨rfl, holds⟩
  · exact handled error
  · exact ⟨rfl, holds⟩

end Returns
end Interleaving
