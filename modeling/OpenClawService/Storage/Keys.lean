import OpenClawService.Adapters.Stores
import OpenClawService.UseCases.Teams

/-! The five kinds of keys. Each has its own prefix, and already the first character
of a key tells its kind. -/
namespace OpenClaw

inductive Kind where
  | token
  | approval
  | entry
  | state
  | lock
  deriving DecidableEq

namespace Kind

def label : Kind → String
  | .token => "token:"
  | .approval => "approval:"
  | .entry => "idempotency:"
  | .state => "oauth:state:"
  | .lock => "lock:refresh:"

def key (kind : Kind) (name : String) : String := kind.label ++ name

def initial : Kind → Char
  | .token => 't'
  | .approval => 'a'
  | .entry => 'i'
  | .state => 'o'
  | .lock => 'l'

theorem key_initial (kind : Kind) (name : String) : (kind.key name).toList.head? = some kind.initial := by
  cases kind <;> rw [key, String.toList_append] <;> rfl

/-- A key has one kind and one name. -/
@[simp] theorem key_inj {kind other : Kind} {name name' : String} : kind.key name = other.key name' ↔ kind = other ∧ name = name' := by
  constructor
  · intro same
    have initials := congrArg (fun k => k.toList.head?) same
    rw [key_initial, key_initial, Option.some.injEq] at initials
    obtain rfl : kind = other := by cases kind <;> cases other <;> first | rfl | exact absurd initials (by decide)
    exact ⟨rfl, by simpa [key] using same⟩
  · rintro ⟨rfl, rfl⟩
    rfl

end Kind

theorem token_key (connectionId : String) : TokenStore.key connectionId = Kind.token.key connectionId := rfl

theorem approval_key (approvalId : String) : ApprovalStore.key approvalId = Kind.approval.key approvalId := rfl

theorem state_key (state : String) : OAuthStateStore.key state = Kind.state.key state := rfl

theorem lock_key (connectionId : String) : refreshLockKey connectionId = Kind.lock.key connectionId := rfl

theorem entry_key (operation key : String) : idempotencyKey operation key = Kind.entry.key (operation ++ ":" ++ key) := by
  simp only [idempotencyKey, Kind.key, Kind.label, String.append_assoc]

end OpenClaw
