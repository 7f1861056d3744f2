import OpenClawService.Interleaving.Program

/-! What one worker may ask for, as an automaton over its own requests and
answers. A program conforms when every request it makes is admitted, whatever
the answers are, so long as they are the expected ones. Conformance composes
along `bind`, and pools are then reasoned about through the automata alone. -/
namespace Interleaving

structure Protocol (E : Type) (A : E → Type) (L : Type) where
  admits : L → E → Prop
  expects : L → (request : E) → A request → Prop
  advance : L → (request : E) → A request → L

/-- Two protocols kept to side by side. -/
def Protocol.prod (P : Protocol E A L) (Q : Protocol E A M) : Protocol E A (L × M) where
  admits l request := P.admits l.1 request ∧ Q.admits l.2 request
  expects l request answer := P.expects l.1 request answer ∧ Q.expects l.2 request answer
  advance l request answer := (P.advance l.1 request answer, Q.advance l.2 request answer)

variable {E : Type} {A : E → Type} {L : Type}

def Conforms (P : Protocol E A L) : Prog E A α → L → (α → L → Prop) → Prop
  | .done result, l, post => post result l
  | .await request resume, l, post => P.admits l request ∧
      ∀ answer, P.expects l request answer →
        Conforms P (resume answer) (P.advance l request answer) post

namespace Conforms
variable {P : Protocol E A L}

@[simp] theorem done_iff : Conforms P (.done result : Prog E A α) l post ↔ post result l := Iff.rfl

@[simp] theorem await_iff {resume : A request → Prog E A α} :
    Conforms P (.await request resume) l post ↔ P.admits l request ∧
      ∀ answer, P.expects l request answer →
        Conforms P (resume answer) (P.advance l request answer) post := Iff.rfl

theorem mono {program : Prog E A α} (conforms : Conforms P program l post)
    (weaker : ∀ result l, post result l → post' result l) : Conforms P program l post' := by
  induction program generalizing l with
  | done result => exact weaker result l conforms
  | await request resume ih =>
    obtain ⟨admitted, rest⟩ := conforms
    exact ⟨admitted, fun answer expected => ih answer (rest answer expected)⟩

@[simp] theorem bind_iff {program : Prog E A α} {next : α → Prog E A β} :
    Conforms P (program >>= next) l post ↔
      Conforms P program l (fun result l => Conforms P (next result) l post) := by
  induction program generalizing l with
  | done result => rfl
  | await request resume ih =>
    simp only [Prog.await_bind, await_iff, ih]

/-- Programs that only make requests the protocol ignores conform everywhere. -/
theorem of_uses {program : Prog E A α} {allowed : E → Prop} (uses : program.Uses allowed)
    {inside : L → Prop} (admitted : ∀ l request, inside l → allowed request → P.admits l request)
    (kept : ∀ l request answer, inside l → allowed request → P.expects l request answer →
      inside (P.advance l request answer)) (entered : inside l) :
    Conforms P program l (fun _ l => inside l) := by
  induction program generalizing l with
  | done result => exact entered
  | await request resume ih =>
    obtain ⟨permitted, rest⟩ := uses
    exact ⟨admitted l request entered permitted, fun answer expected =>
      ih answer (rest answer) (kept l request answer entered permitted expected)⟩

/-- Where any answer may come, a program that conforms asks only for what is admitted somewhere. -/
theorem uses {program : Prog E A α} (free : ∀ l request answer, P.expects l request answer) (conforms : Conforms P program l post) :
    program.Uses (fun request => ∃ l, P.admits l request) := by
  induction program generalizing l with
  | done result => trivial
  | await request resume ih =>
    obtain ⟨admitted, rest⟩ := conforms
    exact ⟨⟨l, admitted⟩, fun answer => ih answer (rest answer (free l request answer))⟩

/-- A list of programs run in sequence conforms when each of them returns to
the states it may start from. -/
theorem sequence {programs : List (Prog E A α)} {idle : L → Prop}
    (each : ∀ program ∈ programs, ∀ l, idle l → Conforms P program l (fun _ l => idle l))
    (entered : idle l) : Conforms P (Prog.sequence programs) l (fun _ l => idle l) := by
  induction programs generalizing l with
  | nil => exact entered
  | cons program rest ih =>
    simp only [Prog.sequence, bind_iff, done_iff]
    refine (each program List.mem_cons_self l entered).mono fun result l idle => ?_
    exact ih (fun other member => each other (List.mem_cons_of_mem _ member)) idle

/-- A program that conforms to two protocols keeps to both side by side. -/
theorem prod {Q : Protocol E A M} {program : Prog E A α} {post : α → L → Prop} {post' : α → M → Prop}
    (first : Conforms P program l post) (second : Conforms Q program m post') :
    Conforms (P.prod Q) program (l, m) (fun result both => post result both.1 ∧ post' result both.2) := by
  induction program generalizing l m with
  | done result => exact ⟨first, second⟩
  | await request resume ih =>
    obtain ⟨admitted, rest⟩ := first
    obtain ⟨admitted', rest'⟩ := second
    exact ⟨⟨admitted, admitted'⟩, fun answer expected => ih answer (rest answer expected.1) (rest' answer expected.2)⟩

/-- Conformance is kept by a map of protocols that admits more, expects no
less and advances in step. -/
theorem map {L' : Type} {P' : Protocol E A L'} {post : α → L' → Prop} (f : L → L')
    (admitted : ∀ l request, P.admits l request → P'.admits (f l) request)
    (expected : ∀ l request answer, P'.expects (f l) request answer → P.expects l request answer)
    (advanced : ∀ l request answer, P.admits l request →
      f (P.advance l request answer) = P'.advance (f l) request answer)
    {program : Prog E A α} (conforms : Conforms P program l (fun result l => post result (f l))) :
    Conforms P' program (f l) post := by
  induction program generalizing l with
  | done result => exact conforms
  | await request resume ih =>
    obtain ⟨permitted, rest⟩ := conforms
    refine ⟨admitted l request permitted, fun answer accepted => ?_⟩
    have next := ih answer (rest answer (expected l request answer accepted))
    rwa [advanced l request answer permitted] at next

/-- A program keeps to every protocol that has nothing to say about what it asks for. -/
theorem still {L' : Type} {P' : Protocol E A L'} {l' : L'} {post : α → L → Prop} {program : Prog E A α}
    (admitted : ∀ l request, P.admits l request → P'.admits l' request)
    (expected : ∀ l request answer, P'.expects l' request answer → P.expects l request answer)
    (unmoved : ∀ l request answer, P.admits l request → P'.advance l' request answer = l')
    (conforms : Conforms P program l post) : Conforms P' program l' (fun _ reached => reached = l') := by
  have forgotten : Conforms P program l (fun _ _ => l' = l') := conforms.mono fun _ _ _ => rfl
  have mapped : Conforms P' program ((fun _ => l') l) (fun _ reached => reached = l') :=
    Conforms.map (fun _ => l') admitted expected (fun l request answer permitted => (unmoved l request answer permitted).symm) forgotten
  exact mapped

end Conforms
end Interleaving
