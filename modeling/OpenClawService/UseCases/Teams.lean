import OpenClawService.Adapters.Microsoft
import OpenClawService.UseCases.Xero

/-! The Teams use cases: one sent message, or the cached id of the first one
when the caller gives a key. -/
namespace OpenClaw

def opSendMessage := "send_teams_message"
def opSendApproval := "send_teams_approval_card"

/-- `{"message_id": result.message_id}`. -/
def MessageResult.cached (result : MessageResult) : Json := .obj [("message_id", result.messageId)]

def MessageResult.ofCached (cached : Json) : Except Exc MessageResult := do
  return ⟨← cached.getItem "message_id"⟩

/-- Both use cases around the call that sends; an empty key is no key. -/
def sendOnce (operation : String) (ttlSeconds : Nat) (key : Option String) (send : Async Json) :
    Async MessageResult := do
  match key.bind orNone with
  | none => do
    return ⟨← Async.ofExcept ((← send).getItem "id")⟩
  | some key => do
    let idemKey := idempotencyKey operation key
    match ← IdempotencyStore.hit idemKey with
    | some cached => Async.ofExcept (MessageResult.ofCached cached)
    | none => do
      let result : MessageResult := ⟨← Async.ofExcept ((← send).getItem "id")⟩
      IdempotencyStore.set idemKey result.cached ttlSeconds
      return result

def SendTeamsMessage.execute (client : TeamsClient) (ttlSeconds : Nat) (connectionId : String)
    (message : TeamsMessage) (key : Option String) : Async MessageResult :=
  sendOnce opSendMessage ttlSeconds key (client.sendMessage connectionId message)

def SendTeamsApprovalCard.execute (client : TeamsClient) (ttlSeconds : Nat) (connectionId : String)
    (card : TeamsApprovalCard) (key : Option String) : Async MessageResult :=
  sendOnce opSendApproval ttlSeconds key (client.sendAdaptiveCard connectionId card)

end OpenClaw
