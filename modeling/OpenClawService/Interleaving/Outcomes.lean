import OpenClawService.Interleaving.Raising

/-! Programs whose exceptions are accounted for like their results: a result leaves the
protocol where it was, an exception where its own condition says. -/
namespace Interleaving
variable {E : Type} {A : E → Type} {L ε : Type}

/-- A good result in the old place, or an exception that is foreseen in the new one. -/
def Ended (l : L) (good : α → Prop) (foreseen : ε → L → Prop) : Except ε α → L → Prop
  | .ok value, l' => l' = l ∧ good value
  | .error error, l' => foreseen error l'

/-- Every path conforms and ends so. -/
def Ends (P : Protocol E A L) (l : L) (good : α → Prop) (foreseen : ε → L → Prop) (program : ExceptT ε (Prog E A) α) : Prop :=
  Meets P program l (Ended l good foreseen)

namespace Ends
variable {P : Protocol E A L} {l : L} {good : α → Prop} {foreseen : ε → L → Prop} {program : ExceptT ε (Prog E A) α}

theorem pure (holds : good value) : Ends P l good foreseen (Pure.pure value : ExceptT ε (Prog E A) α) := ⟨rfl, holds⟩

theorem throw (holds : foreseen error l) : Ends P l good foreseen (MonadExcept.throw error : ExceptT ε (Prog E A) α) := holds

theorem bind {next : α → ExceptT ε (Prog E A) β} {good' : β → Prop} (first : Ends P l good foreseen program)
    (rest : ∀ value, good value → Ends P l good' foreseen (next value)) : Ends P l good' foreseen (program >>= next) := by
  rw [Ends, Meets.bind_iff]
  apply Meets.mono first
  rintro (error | value) l' ended
  · exact ended
  · obtain ⟨rfl, holds⟩ := ended
    exact rest value holds

theorem map {f : α → β} {good' : β → Prop} (ends : Ends P l good foreseen program)
    (mapped : ∀ value, good value → good' (f value)) : Ends P l good' foreseen (f <$> program) := by
  rw [Ends, Meets.map_iff]
  apply Meets.mono ends
  rintro (error | value) l' ended
  · exact ended
  · exact ⟨ended.1, mapped value ended.2⟩

theorem tryCatch {handler : ε → ExceptT ε (Prog E A) α} {further : ε → L → Prop} (body : Ends P l good foreseen program)
    (handled : ∀ error l', foreseen error l' → Meets P (handler error) l' (Ended l good further)) :
    Ends P l good further (MonadExcept.tryCatch program handler) := by
  rw [Ends, Meets.tryCatch_iff]
  apply Meets.mono body
  rintro (error | value) l' ended
  · exact handled error l' ended
  · exact ended

end Ends
end Interleaving
