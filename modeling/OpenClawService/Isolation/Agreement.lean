import OpenClawService.Redis

/-! Two servers that agree on a part of the keyspace. A command within the part
has the same reply on both and keeps them in agreement; one beside it is not seen.
What is cached is not part of it: who may read a result depends on who has stored it. -/
namespace OpenClaw

/-- Some keys of each kind, and the clients whose watches count. -/
structure Part (ι : Type) where
  strings : String → Prop
  hashes : String → Prop
  clients : ι → Prop

/-- What the command reads and writes is in the part. -/
def Command.Within {ι : Type} (part : Part ι) : Command → Prop
  | .get key | .set key .. | .setNx key .. | .watch key | .execDel key => part.strings key
  | .hset key _ | .hgetall key | .delHash key => part.hashes key
  | .getJson _ | .setJson .. | .unwatch => True

/-- What the command writes is not. -/
structure Command.Beside {ι : Type} (part : Part ι) (command : Command) : Prop where
  strings : command.modifies = some key → ¬ part.strings key
  hashes : command.modifiesHash = some key → ¬ part.hashes key

namespace Redis
variable {ι : Type}

structure Agree (part : Part ι) (redis other : Redis ι) : Prop where
  strings : part.strings key → other.strings key = redis.strings key ∧ other.touched key = redis.touched key
  hashes : part.hashes key → other.hashes key = redis.hashes key
  watched : part.clients i → other.watched i = redis.watched i

namespace Agree
variable {part : Part ι} {redis other : Redis ι} {key : String} {command : Command} {worker : ι}

theorem refl : Agree part redis redis := ⟨fun _ => ⟨rfl, rfl⟩, fun _ => rfl, fun _ => rfl⟩

theorem write (agree : Agree part redis other) (value : Option String) (inside : part.strings key) :
    Agree part (redis.write key value) (other.write key value) := by
  refine ⟨fun {k} known => ?_, agree.hashes, agree.watched⟩
  rcases eq_or_ne k key with rfl | apart
  · simp only [write_strings, write_touched, (agree.strings inside).2, and_self]
  · simpa only [write_strings_ne _ apart, write_touched_ne _ apart] using agree.strings known

variable [DecidableEq ι]

theorem watch (agree : Agree part redis other) (value : Option (String × Nat)) :
    Agree part { redis with watched := Function.update redis.watched worker value }
      { other with watched := Function.update other.watched worker value } := by
  refine ⟨agree.strings, agree.hashes, fun {i} known => ?_⟩
  rcases eq_or_ne i worker with rfl | apart
  · simp only [Function.update_self]
  · simpa only [Function.update_of_ne apart] using agree.watched known

omit [DecidableEq ι] in
theorem hash (agree : Agree part redis other) (value : List (String × String)) :
    Agree part { redis with hashes := Function.update redis.hashes key value }
      { other with hashes := Function.update other.hashes key value } := by
  refine ⟨agree.strings, fun {k} known => ?_, agree.watched⟩
  rcases eq_or_ne k key with rfl | apart
  · simp only [Function.update_self]
  · simpa only [Function.update_of_ne apart] using agree.hashes known

/-- EXEC decides by the key that its client watches. -/
theorem execDel (agree : Agree part redis other) (client : part.clients worker)
    (watching : ∀ key seen, redis.watched worker = some (key, seen) → part.strings key) (inside : part.strings key) :
    (other.exec worker (.execDel key)).1 = (redis.exec worker (.execDel key)).1 ∧
      Agree part (redis.exec worker (.execDel key)).2 (other.exec worker (.execDel key)).2 := by
  have rest : Agree part { redis with watched := Function.update redis.watched worker none }
      { other with watched := Function.update other.watched worker none } := agree.watch none
  cases watched : redis.watched worker with
  | none =>
    have watched' := (agree.watched client).trans watched
    simp only [exec, watched, watched', true_and]
    exact rest.write none inside
  | some watch =>
    obtain ⟨k, seen⟩ := watch
    have watched' := (agree.watched client).trans watched
    have touched := (agree.strings (watching k seen watched)).2
    by_cases unchanged : redis.touched k = seen
    · rw [execDel_intact redis worker watched unchanged, execDel_intact other worker watched' (touched.trans unchanged)]
      exact ⟨rfl, rest.write none inside⟩
    · rw [execDel_changed redis worker watched unchanged, execDel_changed other worker watched' (by rwa [touched])]
      exact ⟨rfl, rest⟩

/-- A command within the part is answered alike, where what it reads is cached alike. -/
theorem exec (agree : Agree part redis other) (client : part.clients worker)
    (watching : ∀ key seen, redis.watched worker = some (key, seen) → part.strings key) (within : command.Within part)
    (cached : ∀ key, command = .getJson key → other.caches key = redis.caches key) :
    (other.exec worker command).1 = (redis.exec worker command).1 ∧
      Agree part (redis.exec worker command).2 (other.exec worker command).2 := by
  cases command with
  | get key => exact ⟨(agree.strings within).1, agree⟩
  | set key value ex => exact ⟨rfl, agree.write _ within⟩
  | setNx key value ex =>
    have same := (agree.strings within).1
    simp only [Redis.exec, same]
    split
    · exact ⟨rfl, agree.write _ within⟩
    · exact ⟨rfl, agree⟩
  | getJson key => exact ⟨cached key rfl, agree⟩
  | setJson key value ex => exact ⟨rfl, agree.strings, agree.hashes, agree.watched⟩
  | hset key mapping =>
    simp only [Redis.exec, agree.hashes within]
    exact ⟨trivial, agree.hash _⟩
  | hgetall key => exact ⟨agree.hashes within, agree⟩
  | delHash key => exact ⟨rfl, agree.hash _⟩
  | watch key =>
    simp only [Redis.exec, (agree.strings within).2]
    exact ⟨trivial, agree.watch _⟩
  | unwatch => exact ⟨rfl, agree.watch _⟩
  | execDel key => exact agree.execDel client watching within

/-- A command beside the part is not seen in it. -/
theorem beside (agree : Agree part redis other) (client : ¬ part.clients worker) (beside : command.Beside part) :
    Agree part (redis.exec worker command).2 other := by
  constructor
  case strings =>
    intro key known
    obtain ⟨string, touched⟩ := redis.exec_strings worker fun modified => beside.strings modified known
    rw [string, touched]
    exact agree.strings known
  case hashes =>
    intro key known
    rw [redis.exec_hashes worker fun modified => beside.hashes modified known]
    exact agree.hashes known
  case watched =>
    intro i known
    have apart : i ≠ worker := by
      rintro rfl
      exact client known
    rw [redis.exec_watched_other worker apart]
    exact agree.watched known

omit [DecidableEq ι] in
theorem expire (agree : Agree part redis other) (key : String) : Agree part (redis.expire key) (other.expire key) := by
  refine ⟨fun {k} known => ?_, agree.hashes, agree.watched⟩
  rcases eq_or_ne k key with rfl | apart
  · simp only [Redis.expire, write_strings, write_touched, (agree.strings known).2, and_self]
  · simpa only [Redis.expire, write_strings_ne _ apart, write_touched_ne _ apart] using agree.strings known

omit [DecidableEq ι] in
/-- A key runs out that is not in the part. -/
theorem expire_beside (agree : Agree part redis other) (outside : ¬ part.strings key) : Agree part (redis.expire key) other := by
  refine ⟨fun {k} known => ?_, agree.hashes, agree.watched⟩
  have apart : k ≠ key := by
    rintro rfl
    exact outside known
  simpa only [Redis.expire, write_strings_ne _ apart, write_touched_ne _ apart] using agree.strings known

end Agree
end Redis
end OpenClaw
