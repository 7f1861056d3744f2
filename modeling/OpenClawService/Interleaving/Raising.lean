import OpenClawService.Interleaving.Protocol

/-! Conformance of programs that may raise. The rules below walk a program one
statement at a time; the postcondition sees the result or the exception. -/
namespace Interleaving

variable {E : Type} {A : E → Type} {L ε : Type} {P : Protocol E A L}

/-- Every path of the program conforms and ends in `post`, raising or not. -/
def Meets (P : Protocol E A L) (program : ExceptT ε (Prog E A) α) (l : L)
    (post : Except ε α → L → Prop) : Prop :=
  Conforms P program.run l post

namespace Meets

theorem mono {program : ExceptT ε (Prog E A) α} (meets : Meets P program l post)
    (weaker : ∀ result l, post result l → post' result l) : Meets P program l post' :=
  Conforms.mono meets weaker

@[simp] theorem mk_done_iff {outcome : Except ε α} :
    Meets P (ExceptT.mk (.done outcome : Prog E A (Except ε α))) l post ↔ post outcome l := Iff.rfl

@[simp] theorem pure_iff {post : Except ε α → L → Prop} :
    Meets P (pure result : ExceptT ε (Prog E A) α) l post ↔ post (.ok result) l := Iff.rfl

@[simp] theorem throw_iff {post : Except ε α → L → Prop} :
    Meets P (throw error : ExceptT ε (Prog E A) α) l post ↔ post (.error error) l := Iff.rfl

/-- What is left to show after the first half of a `bind`. -/
def andThen (P : Protocol E A L) (next : α → ExceptT ε (Prog E A) β)
    (post : Except ε β → L → Prop) : Except ε α → L → Prop
  | .ok result, l => Meets P (next result) l post
  | .error error, l => post (.error error) l

@[simp] theorem andThen_ok {next : α → ExceptT ε (Prog E A) β} :
    andThen P next post (.ok result) l ↔ Meets P (next result) l post := Iff.rfl

@[simp] theorem andThen_error {next : α → ExceptT ε (Prog E A) β} :
    andThen P next post (.error error) l ↔ post (.error error) l := Iff.rfl

@[simp] theorem bind_iff {program : ExceptT ε (Prog E A) α} {next : α → ExceptT ε (Prog E A) β} :
    Meets P (program >>= next) l post ↔ Meets P program l (andThen P next post) := by
  have unfolded : (program >>= next).run = program.run >>= fun
      | .ok result => (next result).run
      | .error error => .done (.error error) := rfl
  rw [Meets, unfolded, Conforms.bind_iff, Meets]
  have same : (fun result l => Conforms P (match result with
      | .ok result => (next result).run
      | .error error => .done (.error error)) l post) = andThen P next post := by
    funext result l
    cases result <;> rfl
  rw [same]

theorem bind_assoc {program : ExceptT ε (Prog E A) α} {next : α → ExceptT ε (Prog E A) β} {last : β → ExceptT ε (Prog E A) γ} :
    Meets P (program >>= fun result => next result >>= last) l post ↔ Meets P ((program >>= next) >>= last) l post := by
  simp only [bind_iff]
  have same : andThen P (fun result => next result >>= last) post = andThen P next (andThen P last post) := by
    funext result l
    cases result with
    | error error => rfl
    | ok result => simp only [andThen_ok, bind_iff]
  rw [same]

@[simp] theorem map_iff {program : ExceptT ε (Prog E A) α} {f : α → β} :
    Meets P (f <$> program) l post ↔ Meets P program l (fun result l => post (f <$> result) l) := by
  have unfolded : (f <$> program).run = program.run >>= fun
      | .ok result => .done (.ok (f result))
      | .error error => .done (.error error) := rfl
  rw [Meets, unfolded, Conforms.bind_iff, Meets]
  have same : (fun result l => Conforms P (match result with
      | .ok result => (.done (.ok (f result)) : Prog E A (Except ε β))
      | .error error => .done (.error error)) l post) =
      fun result l => post (f <$> result) l := by
    funext result l
    cases result <;> rfl
  rw [same]

@[simp] theorem request_iff {request : E} {post : Except ε (A request) → L → Prop} :
    Meets P (ExceptT.lift (Prog.request request)) l post ↔ P.admits l request ∧
      ∀ answer, P.expects l request answer → post (.ok answer) (P.advance l request answer) :=
  Iff.rfl

/-- What is left to show after the body of a `try`. -/
def orElse (P : Protocol E A L) (handler : ε → ExceptT ε (Prog E A) α)
    (post : Except ε α → L → Prop) : Except ε α → L → Prop
  | .ok result, l => post (.ok result) l
  | .error error, l => Meets P (handler error) l post

@[simp] theorem orElse_ok {handler : ε → ExceptT ε (Prog E A) α} :
    orElse P handler post (.ok result) l ↔ post (.ok result) l := Iff.rfl

@[simp] theorem orElse_error {handler : ε → ExceptT ε (Prog E A) α} :
    orElse P handler post (.error error) l ↔ Meets P (handler error) l post := Iff.rfl

@[simp] theorem tryCatch_iff {program : ExceptT ε (Prog E A) α} {handler : ε → ExceptT ε (Prog E A) α} :
    Meets P (tryCatch program handler) l post ↔ Meets P program l (orElse P handler post) := by
  have unfolded : (tryCatch program handler).run = program.run >>= fun
      | .ok result => .done (.ok result)
      | .error error => (handler error).run := rfl
  rw [Meets, unfolded, Conforms.bind_iff, Meets]
  have same : (fun result l => Conforms P (match result with
      | .ok result => (.done (.ok result) : Prog E A (Except ε α))
      | .error error => (handler error).run) l post) = orElse P handler post := by
    funext result l
    cases result <;> rfl
  rw [same]

/-- A condition that both halves keep, raising or not. -/
theorem bind_keeps {program : ExceptT ε (Prog E A) α} {next : α → ExceptT ε (Prog E A) β} {kept : L → Prop}
    (first : Meets P program l (fun _ l => kept l))
    (rest : ∀ result l, kept l → Meets P (next result) l (fun _ l => kept l)) :
    Meets P (program >>= next) l (fun _ l => kept l) := by
  rw [bind_iff]
  apply first.mono
  rintro (error | result) l holds
  · exact holds
  · exact rest result l holds

theorem tryCatch_keeps {program : ExceptT ε (Prog E A) α} {handler : ε → ExceptT ε (Prog E A) α} {kept : L → Prop}
    (body : Meets P program l (fun _ l => kept l))
    (handled : ∀ error l, kept l → Meets P (handler error) l (fun _ l => kept l)) :
    Meets P (tryCatch program handler) l (fun _ l => kept l) := by
  rw [tryCatch_iff]
  apply body.mono
  rintro (error | result) l holds
  · exact handled error l holds
  · exact holds

/-- Every path of the program conforms and ends where it began. -/
def Stays (P : Protocol E A L) (l : L) (program : ExceptT ε (Prog E A) α) : Prop :=
  Meets P program l (fun _ l' => l' = l)

namespace Stays

theorem bind {program : ExceptT ε (Prog E A) α} {next : α → ExceptT ε (Prog E A) β} (first : Stays P l program)
    (rest : ∀ result, Stays P l (next result)) : Stays P l (program >>= next) := by
  refine bind_keeps first ?_
  rintro result l' rfl
  exact rest result

theorem tryCatch {program : ExceptT ε (Prog E A) α} {handler : ε → ExceptT ε (Prog E A) α} (body : Stays P l program)
    (handled : ∀ error, Stays P l (handler error)) : Stays P l (MonadExcept.tryCatch program handler) := by
  refine tryCatch_keeps body ?_
  rintro error l' rfl
  exact handled error

end Stays

/-- Programs that only make requests the protocol ignores meet its invariant. -/
theorem of_uses {program : ExceptT ε (Prog E A) α} {allowed : E → Prop} (uses : program.run.Uses allowed)
    {inside : L → Prop} (admitted : ∀ l request, inside l → allowed request → P.admits l request)
    (kept : ∀ l request answer, inside l → allowed request → P.expects l request answer →
      inside (P.advance l request answer)) (entered : inside l) :
    Meets P program l (fun _ l => inside l) :=
  Conforms.of_uses uses admitted kept entered

end Meets
end Interleaving
