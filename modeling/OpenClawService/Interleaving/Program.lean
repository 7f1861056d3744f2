/-! Sequential programs whose every await is a request answered from outside.
A program is its tree of requests and continuations, so one definition serves
every interleaving, every environment and every choice of answers. -/
namespace Interleaving

inductive Prog (E : Type) (A : E → Type) (α : Type) : Type where
  | done (result : α)
  | await (request : E) (resume : A request → Prog E A α)

namespace Prog
variable {E : Type} {A : E → Type}

def bind (program : Prog E A α) (next : α → Prog E A β) : Prog E A β :=
  match program with
  | .done result => next result
  | .await request resume => .await request (fun answer => (resume answer).bind next)

instance : Monad (Prog E A) where
  pure := .done
  bind := bind

@[simp] theorem pure_eq (result : α) : (pure result : Prog E A α) = .done result := rfl

@[simp] theorem done_bind (result : α) (next : α → Prog E A β) :
    (Prog.done result >>= next) = next result := rfl

@[simp] theorem await_bind (request : E) (resume : A request → Prog E A α) (next : α → Prog E A β) :
    (Prog.await request resume >>= next) = .await request (fun answer => resume answer >>= next) := rfl

/-- One request, whose answer is the result. -/
def request (e : E) : Prog E A (A e) := .await e .done

/-- Runs the programs one after the other and keeps every result. -/
def sequence : List (Prog E A α) → Prog E A (List α)
  | [] => .done []
  | program :: rest => program >>= fun result => sequence rest >>= fun results =>
      .done (result :: results)

/-- No request of the program, on any path, is outside `allowed`. -/
def Uses (allowed : E → Prop) : Prog E A α → Prop
  | .done _ => True
  | .await request resume => allowed request ∧ ∀ answer, (resume answer).Uses allowed

theorem Uses.mono {allowed permitted : E → Prop} {program : Prog E A α} (uses : program.Uses allowed)
    (weaker : ∀ request, allowed request → permitted request) : program.Uses permitted := by
  induction program with
  | done result => trivial
  | await request resume ih => exact ⟨weaker request uses.1, fun answer => ih answer (uses.2 answer)⟩

end Prog
end Interleaving
