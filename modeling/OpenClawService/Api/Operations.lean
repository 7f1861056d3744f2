import OpenClawService.Api.Conduct
import OpenClawService.Idempotency.Requests

/-! Routes by the operation under which they cache. The operation is part of the entry, so
routes that share an entry have it in common. -/
namespace OpenClaw.Api

namespace Route

def operation : Route → Option String
  | .sendMessage .. => some opSendMessage
  | .sendApproval .. => some opSendApproval
  | .createInvoice .. => some opCreateInvoice
  | .submitInvoice .. => some opSubmitInvoice
  | .voidInvoice .. => some opVoidInvoice
  | _ => none

end Route

variable {route other : Route}

theorem entry_operation (entered : route.entry = some k) :
    ∃ operation key, route.operation = some operation ∧ k = idempotencyKey operation key ∧ ':' ∉ operation.toList := by
  have named {operation : String} {given : Option String} (found : given.map (idempotencyKey operation) = some k) :
      ∃ key, k = idempotencyKey operation key := by
    obtain ⟨key, _, rfl⟩ := Option.map_eq_some_iff.mp found
    exact ⟨key, rfl⟩
  cases route with
  | sendMessage | sendApproval | createInvoice | submitInvoice | voidInvoice =>
    obtain ⟨key, rfl⟩ := named entered
    exact ⟨_, key, rfl, rfl, by decide⟩
  | _ => cases entered

theorem operation_same (left : route.entry = some k) (right : other.entry = some k) : route.operation = other.operation := by
  obtain ⟨operation, key, own, rfl, plain⟩ := entry_operation left
  obtain ⟨operation', key', own', same, plain'⟩ := entry_operation right
  obtain ⟨rfl, _⟩ := Idempotency.idempotencyKey_inj plain plain' same
  exact own.trans own'.symm

end OpenClaw.Api
