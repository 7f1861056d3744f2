import OpenClawService.Redis

/-! Where a value in Redis comes from: it was there before the command, or the command
put it there. -/
namespace OpenClaw.Redis
variable {ι : Type} [DecidableEq ι] {redis : Redis ι} {i : ι} {command : Command} {key : String}

theorem string_source (found : (redis.exec i command).2.strings key = some value) :
    redis.strings key = some value ∨ ∃ ttl, command = .set key value ttl ∨ command = .setNx key value ttl := by
  by_cases modifies : command.modifies = some key
  · cases command with
    | set k v ttl =>
      cases modifies
      rw [exec, write_strings] at found
      cases found
      exact Or.inr ⟨ttl, Or.inl rfl⟩
    | setNx k v ttl =>
      cases modifies
      rw [exec] at found
      split at found
      · rw [write_strings] at found
        cases found
        exact Or.inr ⟨ttl, Or.inr rfl⟩
      · exact Or.inl found
    | execDel k =>
      cases modifies
      simp only [exec] at found
      split at found
      · split at found
        · rw [write_strings] at found
          cases found
        · exact Or.inl found
      · rw [write_strings] at found
        cases found
    | _ => cases modifies
  · rw [(exec_strings redis i modifies).1] at found
    exact Or.inl found

theorem hash_source (redis : Redis ι) (i : ι) (command : Command) (key : String) :
    (redis.exec i command).2.hashes key = redis.hashes key ∨
      (∃ mapping, command = .hset key mapping ∧ (redis.exec i command).2.hashes key = merge (redis.hashes key) mapping) ∨
      command = .delHash key ∧ (redis.exec i command).2.hashes key = [] := by
  by_cases modifies : command.modifiesHash = some key
  · cases command with
    | hset k mapping =>
      cases modifies
      exact Or.inr (Or.inl ⟨mapping, rfl, by simp [exec]⟩)
    | delHash k =>
      cases modifies
      exact Or.inr (Or.inr ⟨rfl, by simp [exec]⟩)
    | _ => cases modifies
  · exact Or.inl (exec_hashes redis i modifies)

theorem cache_source (redis : Redis ι) (i : ι) (command : Command) (key : String) :
    (redis.exec i command).2.caches key = redis.caches key ∨
      ∃ value ttl, command = .setJson key value ttl ∧ (redis.exec i command).2.caches key = some value := by
  by_cases modifies : command.modifiesCache = some key
  · cases command with
    | setJson k value ttl =>
      cases modifies
      exact Or.inr ⟨value, ttl, rfl, by simp [exec]⟩
    | _ => cases modifies
  · exact Or.inl (exec_caches redis i modifies)

omit [DecidableEq ι] in
theorem expire_source (found : (redis.expire expired).strings key = some value) : redis.strings key = some value := by
  rcases eq_or_ne key expired with rfl | other
  · rw [expire, write_strings] at found
    cases found
  · rwa [expire, write_strings_ne redis other] at found

end OpenClaw.Redis
