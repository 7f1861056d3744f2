import OpenClawService.Python
import Mathlib.Logic.Function.Basic

/-! The Redis keyspace and the commands the service sends. Keys that hold
strings, cached JSON results and hashes never meet (their prefixes differ), so
each kind has its own map. The idempotency cache is kept parsed: what
`json.loads` returns is what `json.dumps` was given. -/
namespace OpenClaw

/-- `touched` counts the modifications of a string key, deletion and expiry
included; a watcher remembers the count it saw, as WATCH does. -/
structure Redis (ι : Type) where
  strings : String → Option String
  caches : String → Option Json
  hashes : String → List (String × String)
  touched : String → Nat
  watched : ι → Option (String × Nat)

inductive Command where
  | get (key : String)
  | set (key value : String) (ex : Nat)
  | setNx (key value : String) (ex : Nat)
  | getJson (key : String)
  | setJson (key : String) (value : Json) (ex : Nat)
  | hset (key : String) (mapping : List (String × String))
  | hgetall (key : String)
  | delHash (key : String)
  | watch (key : String)
  | unwatch
  | execDel (key : String)

@[reducible] def Command.Reply : Command → Type
  | .get _ => Option String
  | .set .. => Unit
  | .setNx .. => Bool
  | .getJson _ => Option Json
  | .setJson .. => Unit
  | .hset .. => Unit
  | .hgetall _ => List (String × String)
  | .delHash _ => Unit
  | .watch _ => Unit
  | .unwatch => Unit
  | .execDel _ => Bool

namespace Redis
variable {ι : Type}

/-- A server without keys, and nobody watching. -/
def empty : Redis ι := ⟨fun _ => none, fun _ => none, fun _ => [], fun _ => 0, fun _ => none⟩

/-- HSET merges: fields it does not name keep their values. -/
def merge (hash mapping : List (String × String)) : List (String × String) :=
  mapping ++ hash.filter (fun field => (mapping.lookup field.1).isNone)

/-- A string key is set or, with `none`, removed. -/
def write (redis : Redis ι) (key : String) (value : Option String) : Redis ι :=
  { redis with
    strings := Function.update redis.strings key value
    touched := Function.update redis.touched key (redis.touched key + 1) }

/-- A key with a TTL runs out. -/
def expire (redis : Redis ι) (key : String) : Redis ι :=
  { redis.write key none with caches := Function.update redis.caches key none }

variable [DecidableEq ι]

/-- EXEC aborts when the watched key was touched since WATCH, and the watch
ends either way. -/
def exec (redis : Redis ι) (worker : ι) : (command : Command) → command.Reply × Redis ι
  | .get key => (redis.strings key, redis)
  | .set key value _ => ((), redis.write key (some value))
  | .setNx key value _ =>
    if redis.strings key = none then (true, redis.write key (some value)) else (false, redis)
  | .getJson key => (redis.caches key, redis)
  | .setJson key value _ =>
    ((), { redis with caches := Function.update redis.caches key (some value) })
  | .hset key mapping =>
    ((), { redis with hashes := Function.update redis.hashes key (merge (redis.hashes key) mapping) })
  | .hgetall key => (redis.hashes key, redis)
  | .delHash key => ((), { redis with hashes := Function.update redis.hashes key [] })
  | .watch key =>
    ((), { redis with watched := Function.update redis.watched worker (some (key, redis.touched key)) })
  | .unwatch => ((), { redis with watched := Function.update redis.watched worker none })
  | .execDel key =>
    let rest := { redis with watched := Function.update redis.watched worker none }
    match redis.watched worker with
    | some (watched, seen) =>
      if redis.touched watched = seen then (true, rest.write key none) else (false, rest)
    | none => (true, rest.write key none)

end Redis

/-- The string key that a command may modify. -/
def Command.modifies : Command → Option String
  | .set key _ _ | .setNx key _ _ | .execDel key => some key
  | _ => none

/-- The hash key that a command may modify. -/
def Command.modifiesHash : Command → Option String
  | .hset key _ | .delHash key => some key
  | _ => none

/-- The cached result that a command may modify. -/
def Command.modifiesCache : Command → Option String
  | .setJson key _ _ => some key
  | _ => none

/-- Commands that set or end a watch of their worker. -/
def Command.watches : Command → Bool
  | .watch _ | .unwatch | .execDel _ => true
  | _ => false

namespace Redis
variable {ι : Type} (redis : Redis ι)

@[simp] theorem write_strings (key : String) (value : Option String) :
    (redis.write key value).strings key = value := Function.update_self ..

@[simp] theorem write_touched (key : String) (value : Option String) :
    (redis.write key value).touched key = redis.touched key + 1 := Function.update_self ..

theorem write_strings_ne (other : key ≠ k) :
    (redis.write k value).strings key = redis.strings key := Function.update_of_ne other ..

theorem write_touched_ne (other : key ≠ k) :
    (redis.write k value).touched key = redis.touched key := Function.update_of_ne other ..

variable [DecidableEq ι] (worker : ι) {command : Command}

theorem exec_strings (other : command.modifies ≠ some key) :
    (redis.exec worker command).2.strings key = redis.strings key ∧
      (redis.exec worker command).2.touched key = redis.touched key := by
  cases command with
  | set k value ex =>
    have ne : key ≠ k := fun same => other (congrArg some same.symm)
    exact ⟨write_strings_ne redis ne, write_touched_ne redis ne⟩
  | setNx k value ex | execDel k =>
    have ne : key ≠ k := fun same => other (congrArg some same.symm)
    simp only [exec]
    split <;> (try split) <;> simp [write_strings_ne _ ne, write_touched_ne _ ne]
  | _ => exact ⟨rfl, rfl⟩

theorem exec_hashes (other : command.modifiesHash ≠ some key) :
    (redis.exec worker command).2.hashes key = redis.hashes key := by
  cases command with
  | hset k mapping | delHash k =>
    exact Function.update_of_ne (fun same => other (congrArg some same.symm)) ..
  | setNx k value ex | execDel k =>
    simp only [exec]
    split <;> (try split) <;> rfl
  | _ => rfl

theorem exec_caches (other : command.modifiesCache ≠ some key) :
    (redis.exec worker command).2.caches key = redis.caches key := by
  cases command with
  | setJson k value ex =>
    exact Function.update_of_ne (fun same => other (congrArg some same.symm)) ..
  | setNx k value ex | execDel k =>
    simp only [exec]
    split <;> (try split) <;> rfl
  | _ => rfl

theorem exec_watched (quiet : command.watches = false) :
    (redis.exec worker command).2.watched = redis.watched := by
  cases command with
  | watch | unwatch | execDel => contradiction
  | setNx k value ex =>
    simp only [exec]
    split <;> rfl
  | _ => rfl

theorem exec_watched_other (other : j ≠ worker) :
    (redis.exec worker command).2.watched j = redis.watched j := by
  cases command with
  | watch | unwatch => exact Function.update_of_ne other ..
  | execDel k =>
    simp only [exec]
    split <;> (try split) <;> simp [write, Function.update_of_ne other]
  | setNx k value ex =>
    simp only [exec]
    split <;> rfl
  | _ => rfl

theorem execDel_intact (watched : redis.watched worker = some (k, seen)) (unchanged : redis.touched k = seen) :
    redis.exec worker (.execDel key) =
      (true, { redis with watched := Function.update redis.watched worker none }.write key none) := by
  simp only [exec, watched, if_pos unchanged]

theorem execDel_changed (watched : redis.watched worker = some (k, seen)) (changed : redis.touched k ≠ seen) :
    redis.exec worker (.execDel key) =
      (false, { redis with watched := Function.update redis.watched worker none }) := by
  simp only [exec, watched, if_neg changed]

/-- No worker remembers more modifications of a key than there were. -/
def WellWatched : Prop := ∀ j key seen, redis.watched j = some (key, seen) → seen ≤ redis.touched key

omit redis in
omit [DecidableEq ι] in
theorem empty_wellWatched : (empty : Redis ι).WellWatched := by
  intro j key seen watched
  contradiction

theorem exec_touched (key : String) : redis.touched key ≤ (redis.exec worker command).2.touched key := by
  by_cases modified : command.modifies = some key
  · cases command with
    | set k value ex =>
      cases modified
      simp [exec]
    | setNx k value ex | execDel k =>
      cases modified
      simp only [exec]
      split <;> (try split) <;> simp
    | _ => contradiction
  · exact (exec_strings redis worker modified).2.ge

theorem exec_wellWatched (sane : redis.WellWatched) : (redis.exec worker command).2.WellWatched := by
  intro j key seen watched
  have grown : redis.touched key ≤ (redis.exec worker command).2.touched key :=
    exec_touched redis worker key
  rcases eq_or_ne j worker with rfl | other
  · cases command with
    | watch k =>
      simp only [exec, Function.update_self, Option.some.injEq, Prod.mk.injEq] at watched
      obtain ⟨rfl, rfl⟩ := watched
      exact le_refl _
    | unwatch => simp [exec] at watched
    | execDel k =>
      simp only [exec] at watched
      split at watched <;> (try split at watched) <;> simp [write] at watched
    | _ =>
      rw [exec_watched redis _ rfl] at watched
      exact (sane _ _ _ watched).trans grown
  · rw [exec_watched_other redis worker other] at watched
    exact (sane _ _ _ watched).trans grown

omit [DecidableEq ι] in
theorem expire_wellWatched (sane : redis.WellWatched) (key : String) : (redis.expire key).WellWatched := by
  intro j k seen watched
  have before := sane j k seen watched
  rcases eq_or_ne k key with rfl | other
  · simp only [expire, write_touched]
    omega
  · simpa only [expire, write_touched_ne redis other] using before

end Redis
end OpenClaw
