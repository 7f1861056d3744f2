import OpenClawService.Service
import OpenClawService.Storage.JsonText

/-! Redis as it is: one keyspace of texts and hashes, commands that refuse a value of
the wrong type, and connections whose WATCH is a flag that any change of the key sets. A
cached result is its JSON text. -/
namespace OpenClaw
open Interleaving

inductive Value where
  | text (content : String)
  | hash (fields : List (String × String))

/-- A value, and whether it has a time to live. -/
structure Slot where
  value : Value
  expires : Bool

/-- The connection of a client: the keys that it watches, and whether one was touched. -/
structure Client where
  watching : List String := []
  dirty : Bool := false

/-- Whoever watches a key that changes is told. -/
def Client.told (key : String) (client : Client) : Client :=
  if key ∈ client.watching then { client with dirty := true } else client

structure Keyspace (ι : Type) where
  slots : String → Option Slot
  clients : ι → Client

namespace Keyspace
variable {ι : Type}

def empty : Keyspace ι := ⟨fun _ => none, fun _ => {}⟩

def touch (keyspace : Keyspace ι) (key : String) : Keyspace ι :=
  { keyspace with clients := fun i => Client.told key (keyspace.clients i) }

def put (keyspace : Keyspace ι) (key : String) (slot : Slot) : Keyspace ι :=
  { keyspace.touch key with slots := Function.update keyspace.slots key (some slot) }

/-- DEL of a missing key touches nothing. -/
def del (keyspace : Keyspace ι) (key : String) : Keyspace ι :=
  match keyspace.slots key with
  | none => keyspace
  | some _ => { keyspace.touch key with slots := Function.update keyspace.slots key none }

variable [DecidableEq ι]

/-- The connection is as new. -/
def forget (keyspace : Keyspace ι) (worker : ι) : Keyspace ι :=
  { keyspace with clients := Function.update keyspace.clients worker ⟨[], false⟩ }

def watch (keyspace : Keyspace ι) (worker : ι) (key : String) : Keyspace ι :=
  let client := keyspace.clients worker
  { keyspace with clients := Function.update keyspace.clients worker { client with watching := key :: client.watching } }

/-- The reply that the client library hands on; without one it raises: WRONGTYPE, a mapping
without a field, or a text that is no JSON. -/
def exec [Library] [Json.Numerals] (keyspace : Keyspace ι) (worker : ι) : (command : Command) → Option (command.Reply × Keyspace ι)
  | .get key => match keyspace.slots key with
    | none => some (none, keyspace)
    | some ⟨.text content, _⟩ => some (some content, keyspace)
    | some ⟨.hash _, _⟩ => none
  | .set key value _ => some ((), keyspace.put key ⟨.text value, true⟩)
  | .setNx key value _ =>
    if (keyspace.slots key).isNone then some (true, keyspace.put key ⟨.text value, true⟩) else some (false, keyspace)
  | .getJson key => match keyspace.slots key with
    | none => some (none, keyspace)
    | some ⟨.text content, _⟩ => (Json.loads content).map fun value => (some value, keyspace)
    | some ⟨.hash _, _⟩ => none
  | .setJson key value _ => some ((), keyspace.put key ⟨.text (Json.dumps value), true⟩)
  | .hset key mapping =>
    if mapping = [] then none
    else match keyspace.slots key with
      | none => some ((), keyspace.put key ⟨.hash (Redis.merge [] mapping), false⟩)
      | some ⟨.hash fields, expires⟩ => some ((), keyspace.put key ⟨.hash (Redis.merge fields mapping), expires⟩)
      | some ⟨.text _, _⟩ => none
  | .hgetall key => match keyspace.slots key with
    | none => some ([], keyspace)
    | some ⟨.hash fields, _⟩ => some (fields, keyspace)
    | some ⟨.text _, _⟩ => none
  | .delHash key => some ((), keyspace.del key)
  | .watch key => some ((), keyspace.watch worker key)
  | .unwatch => some ((), keyspace.forget worker)
  | .execDel key =>
    if (keyspace.clients worker).dirty then some (false, keyspace.forget worker)
    else some (true, (keyspace.forget worker).del key)

end Keyspace

/-- What the world outside the server may do, given what has happened. -/
structure Surroundings (ι : Type) where
  allows : List (Entry ι) → ι → (call : Outside) → call.Answer → Prop
  expires : List (Entry ι) → String → Prop
  changes : List (Entry ι) → String → String → Prop

/-- The same, for a world that stores what it stores in another way. -/
def Surroundings.environment {ι : Type} (around : Surroundings ι) : Environment ι :=
  ⟨fun w => around.allows w.log, fun w => around.expires w.log, fun w => around.changes w.log⟩

structure Server (ι : Type) where
  keyspace : Keyspace ι
  log : List (Entry ι)

section Server
variable [Library] [Json.Numerals] {ι : Type} [DecidableEq ι]

inductive Server.Served (around : Surroundings ι) (i : ι) (s : Server ι) : (op : Op) → op.Answer → Server ι → Prop where
  | redis {command : Command} {reply : command.Reply} {keyspace : Keyspace ι}
      (executed : s.keyspace.exec i command = some (reply, keyspace)) :
      Served around i s (.redis command) reply ⟨keyspace, .call i (.redis command) reply :: s.log⟩
  | outside {call : Outside} {answer : call.Answer} (allowed : around.allows s.log i call answer) :
      Served around i s (.outside call) answer ⟨s.keyspace, .call i (.outside call) answer :: s.log⟩

inductive Server.Drifted (around : Surroundings ι) (s : Server ι) : Server ι → Prop where
  | expire {key : String} {slot : Slot} (present : s.keyspace.slots key = some slot) (mortal : slot.expires = true)
      (allowed : around.expires s.log key) : Drifted around s ⟨s.keyspace.del key, .expired key :: s.log⟩
  | invoice {invoiceId status : String} (allowed : around.changes s.log invoiceId status) :
      Drifted around s ⟨s.keyspace, .invoice invoiceId status :: s.log⟩

def server (around : Surroundings ι) : System ι Op Op.Answer (Server ι) :=
  ⟨fun i s op answer s' => Server.Served around i s op answer s', Server.Drifted around⟩

end Server
end OpenClaw
