import OpenClawService.Api.Conduct
import OpenClawService.Keyspace.Commands
import OpenClawService.Storage.Keys

/-! What the keyspace stands for: each kind of key holds its kind of value, and a
connection watches what its request remembers to watch. Every command that a request
may send is answered, and answered alike. -/
namespace OpenClaw
open Interleaving Api
variable [Library] [Json.Numerals] {ι : Type}

/-- Locks and states are watched. -/
def Kind.watched : Kind → Prop
  | .lock | .state => True
  | _ => False

/-- The slot of a key holds what the store has under it. -/
def Stands (redis : Redis ι) (k : String) (slot : Option Slot) : Kind → Prop
  | .lock | .state => slot = (redis.strings k).map fun value => ⟨.text value, true⟩
  | .entry => slot = none ∧ redis.caches k = none ∨
      ∃ content value, slot = some ⟨.text content, true⟩ ∧ redis.caches k = some value ∧ Json.loads content = some value
  | .token | .approval => slot = if redis.hashes k = [] then none else some ⟨.hash (redis.hashes k), false⟩

/-- The connection is as the request remembers it; it is dirty when the key was touched
since, and else the key still holds what was read. -/
def Attends (redis : Redis ι) (i : ι) (client : Client) (p : Phase) : Prop :=
  match p.watched with
  | none => client = ⟨[], false⟩
  | some (k, found) => ∃ seen, redis.watched i = some (k, seen) ∧ client.watching = [k] ∧ seen ≤ redis.touched k ∧
      (client.dirty = false ↔ redis.touched k = seen) ∧ (∃ kind : Kind, kind.watched ∧ ∃ name, k = kind.key name) ∧
      ∀ value, found = some value → redis.touched k = seen → redis.strings k = some value

structure Represents (phase : ι → Phase) (keyspace : Keyspace ι) (redis : Redis ι) : Prop where
  slots (kind : Kind) (name : String) : Stands redis (kind.key name) (keyspace.slots (kind.key name)) kind
  foreign (k : String) : (∀ (kind : Kind) name, k ≠ kind.key name) → keyspace.slots k = none
  clients (i : ι) : Attends redis i (keyspace.clients i) (phase i)

/-- An empty store is represented by an empty keyspace. -/
theorem empty_represents : Represents (fun _ => {}) (Keyspace.empty : Keyspace ι) Redis.empty := by
  refine ⟨fun kind name => ?_, fun _ _ => rfl, fun _ => rfl⟩
  cases kind <;> first | rfl | exact Or.inl ⟨rfl, rfl⟩

section Frames
variable {redis redis' : Redis ι} {k : String} {slot : Option Slot} {kind : Kind}

/-- A slot stands for what the store has under its own key. -/
theorem Stands.frame (stands : Stands redis k slot kind) (strings : redis'.strings k = redis.strings k)
    (caches : redis'.caches k = redis.caches k) (hashes : redis'.hashes k = redis.hashes k) : Stands redis' k slot kind := by
  cases kind <;> simpa only [Stands, strings, caches, hashes] using stands

omit [Library] [Json.Numerals] in
theorem told_other {client : Client} {key : String} (unwatched : key ∉ client.watching) : client.told key = client := if_neg unwatched

omit [Library] [Json.Numerals] in
theorem told_watching (client : Client) (key : String) : (client.told key).watching = client.watching := by
  unfold Client.told
  split <;> rfl

omit [Library] [Json.Numerals] in
/-- A string key is modified: whoever watches it will not go on. -/
theorem Attends.write {i : ι} {client : Client} {p : Phase} (attends : Attends redis i client p) (key : String) (value : Option String) :
    Attends (redis.write key value) i (client.told key) p := by
  unfold Attends at attends ⊢
  cases watching : p.watched with
  | none =>
    simp only [watching] at attends ⊢
    subst attends
    rfl
  | some entry =>
    obtain ⟨k, found⟩ := entry
    simp only [watching] at attends ⊢
    obtain ⟨seen, watched, alone, before, clean, kind, held⟩ := attends
    refine ⟨seen, watched, by rw [told_watching, alone], ?_, ?_, kind, ?_⟩
    · rcases eq_or_ne k key with rfl | other
      · rw [Redis.write_touched]
        omega
      · rwa [Redis.write_touched_ne redis other]
    · rcases eq_or_ne k key with rfl | other
      · rw [Redis.write_touched, Client.told, if_pos (by rw [alone]; exact List.mem_singleton_self _)]
        exact ⟨fun dirty => (by cases dirty), fun same => by omega⟩
      · rw [Redis.write_touched_ne redis other, told_other (by rw [alone]; simpa using other.symm)]
        exact clean
    · rcases eq_or_ne k key with rfl | other
      · intro value' _ same
        rw [Redis.write_touched] at same
        omega
      · rw [Redis.write_touched_ne redis other, Redis.write_strings_ne redis other]
        exact held

omit [Library] [Json.Numerals] in
theorem Attends.frame {i : ι} {client : Client} {p : Phase} (attends : Attends redis i client p)
    (strings : redis'.strings = redis.strings) (touched : redis'.touched = redis.touched) (watched : redis'.watched i = redis.watched i) :
    Attends redis' i client p := by
  unfold Attends at attends ⊢
  cases watching : p.watched with
  | none => simpa only [watching] using attends
  | some entry => simpa only [watching, strings, touched, watched] using attends

omit [Library] [Json.Numerals] in
theorem Attends.unwatched {i : ι} {client : Client} {p : Phase} (attends : Attends redis i client p) {kind : Kind} (unwatched : ¬ kind.watched)
    (name : String) : kind.key name ∉ client.watching := by
  unfold Attends at attends
  cases watching : p.watched with
  | none =>
    simp only [watching] at attends
    subst attends
    exact List.not_mem_nil
  | some entry =>
    obtain ⟨k, found⟩ := entry
    simp only [watching] at attends
    obtain ⟨seen, _, alone, _, _, ⟨other, watched, name', rfl⟩, _⟩ := attends
    rw [alone, List.mem_singleton, Kind.key_inj]
    rintro ⟨rfl, _⟩
    exact unwatched watched

omit [Library] [Json.Numerals] in
/-- A key that nobody may watch is modified. -/
theorem Attends.aside {i : ι} {client : Client} {p : Phase} (attends : Attends redis i client p) {kind : Kind} (unwatched : ¬ kind.watched)
    (name : String) (strings : redis'.strings = redis.strings) (touched : redis'.touched = redis.touched)
    (watched : redis'.watched i = redis.watched i) : Attends redis' i (client.told (kind.key name)) p := by
  have kept : client.told (kind.key name) = client := told_other (attends.unwatched unwatched name)
  rw [kept]
  exact attends.frame strings touched watched

end Frames

section Changes
variable {phase : ι → Phase} {keyspace : Keyspace ι} {redis redis' : Redis ι}

/-- One key changes, on both sides. -/
theorem Represents.update (represents : Represents phase keyspace redis) {kind : Kind} {name : String} {slot : Option Slot}
    {clients : ι → Client} (own : Stands redis' (kind.key name) slot kind)
    (beside : ∀ k, k ≠ kind.key name →
      redis'.strings k = redis.strings k ∧ redis'.caches k = redis.caches k ∧ redis'.hashes k = redis.hashes k)
    (attend : ∀ i, Attends redis' i (clients i) (phase i)) :
    Represents phase ⟨Function.update keyspace.slots (kind.key name) slot, clients⟩ redis' := by
  refine ⟨fun other name' => ?_, fun k foreign => ?_, attend⟩ <;> dsimp only
  · rcases eq_or_ne (other.key name') (kind.key name) with same | apart
    · obtain ⟨rfl, rfl⟩ := Kind.key_inj.mp same
      rwa [Function.update_self]
    · obtain ⟨strings, caches, hashes⟩ := beside _ apart
      rw [Function.update_of_ne apart]
      exact (represents.slots other name').frame strings caches hashes
  · rw [Function.update_of_ne (foreign kind name)]
    exact represents.foreign k foreign

/-- A lock or a state is set. -/
theorem Represents.put_text (represents : Represents phase keyspace redis) {kind : Kind} (watched : kind.watched) (name value : String) :
    Represents phase (keyspace.put (kind.key name) ⟨.text value, true⟩) (redis.write (kind.key name) (some value)) := by
  refine represents.update ?_ (fun k other => ⟨Redis.write_strings_ne redis other, rfl, rfl⟩) fun i => (represents.clients i).write _ _
  cases kind <;> first | exact watched.elim | simp [Stands]

/-- A lock or a state goes, by a command or because its time is over. -/
theorem Represents.del_text (represents : Represents phase keyspace redis) {kind : Kind} (watched : kind.watched) (name : String)
    (present : keyspace.slots (kind.key name) = some slot) :
    Represents phase (keyspace.del (kind.key name)) (redis.write (kind.key name) none) := by
  rw [Keyspace.del, present]
  refine represents.update ?_ (fun k other => ⟨Redis.write_strings_ne redis other, rfl, rfl⟩) fun i => (represents.clients i).write _ _
  cases kind <;> first | exact watched.elim | simp [Stands]

/-- A result is cached as the text that is read back as the result. -/
theorem Represents.put_entry (represents : Represents phase keyspace redis) (name : String) (loaded : Json.Loaded value) :
    Represents phase (keyspace.put (Kind.entry.key name) ⟨.text (Json.dumps value), true⟩)
      { redis with caches := Function.update redis.caches (Kind.entry.key name) (some value) } := by
  refine represents.update ?_ (fun k other => ⟨rfl, Function.update_of_ne other .., rfl⟩) fun i => ?_
  · exact Or.inr ⟨Json.dumps value, value, rfl, Function.update_self .., Json.loads_dumps loaded⟩
  · exact (represents.clients i).aside (show ¬ Kind.entry.watched from fun watched => watched) name rfl rfl rfl

omit [Library] [Json.Numerals] in
theorem unwatched_hash {kind : Kind} (hashed : kind = .token ∨ kind = .approval) : ¬ kind.watched := by
  rcases hashed with rfl | rfl <;> exact fun watched => watched

/-- A hash is written. -/
theorem Represents.put_hash (represents : Represents phase keyspace redis) {kind : Kind} (hashed : kind = .token ∨ kind = .approval)
    (name : String) {hash : List (String × String)} (filled : hash ≠ []) :
    Represents phase (keyspace.put (kind.key name) ⟨.hash hash, false⟩)
      { redis with hashes := Function.update redis.hashes (kind.key name) hash } := by
  refine represents.update ?_ (fun k other => ⟨rfl, rfl, Function.update_of_ne other ..⟩) fun i => ?_
  · rcases hashed with rfl | rfl <;> simp [Stands, filled]
  · exact (represents.clients i).aside (unwatched_hash hashed) name rfl rfl rfl

/-- A token is deleted, if there is one. -/
theorem Represents.del_token (represents : Represents phase keyspace redis) (name : String) :
    Represents phase (keyspace.del (Kind.token.key name))
      { redis with hashes := Function.update redis.hashes (Kind.token.key name) [] } := by
  have stands := represents.slots .token name
  unfold Keyspace.del
  split
  · rename_i absent
    have emptied : redis.hashes (Kind.token.key name) = [] := by
      by_contra filled
      rw [absent, Stands, if_neg filled] at stands
      cases stands
    have same : Function.update redis.hashes (Kind.token.key name) [] = redis.hashes := by rw [← emptied, Function.update_eq_self]
    rwa [same]
  · refine represents.update ?_ (fun k other => ⟨rfl, rfl, Function.update_of_ne other ..⟩) fun i => ?_
    · simp [Stands]
    · exact (represents.clients i).aside (show ¬ Kind.token.watched from fun watched => watched) name rfl rfl rfl

variable [DecidableEq ι]

/-- One request and its connection move on, and the store stays. -/
theorem Represents.attend (represents : Represents phase keyspace redis) {i : ι} {client : Client} {p : Phase}
    {watched : Option (String × Nat)} (own : Attends { redis with watched := Function.update redis.watched i watched } i client p) :
    Represents (Function.update phase i p) { keyspace with clients := Function.update keyspace.clients i client }
      { redis with watched := Function.update redis.watched i watched } := by
  refine ⟨fun kind name => (represents.slots kind name).frame rfl rfl rfl, represents.foreign, fun j => ?_⟩
  dsimp only
  rcases eq_or_ne j i with rfl | other
  · rwa [Function.update_self, Function.update_self]
  · rw [Function.update_of_ne other, Function.update_of_ne other]
    exact (represents.clients j).frame rfl rfl (Function.update_of_ne other ..)

/-- A request remembers more than its connection knows of. -/
theorem Represents.remember (represents : Represents phase keyspace redis) {i : ι} {p : Phase}
    (own : Attends redis i (keyspace.clients i) p) : Represents (Function.update phase i p) keyspace redis := by
  refine ⟨represents.slots, represents.foreign, fun j => ?_⟩
  rcases eq_or_ne j i with rfl | other
  · rwa [Function.update_self]
  · rw [Function.update_of_ne other]
    exact represents.clients j

end Changes
end OpenClaw
