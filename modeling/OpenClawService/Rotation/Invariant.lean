import OpenClawService.Locking.Critical
import OpenClawService.Rotation.Stages

/-! The invariant of the refresh: one worker at a time is inside the lock, it
works on the hash as it is, and the current refresh token was never accepted. -/
namespace OpenClaw.Rotation
open Interleaving
variable [Library] {ι : Type} [DecidableEq ι]

/-- What the environment of a refresh is assumed to do: owner tokens are fresh,
critical sections end before the TTL, and an accepted refresh is answered with a token
dictionary whose refresh token was not accepted before. `spent` is the history before the run. -/
structure Rotating (connectionId : String) (spent : List String) (env : Environment ι) : Prop where
  tokens : Lock.FreshTokens env
  unhurried : Lock.Unhurried (refreshLockKey connectionId) env
  regular : env.Regular
  rotates : env.allows w i (.refreshToken session url refreshToken) (.ok raw) →
    refreshOf raw = some newRefresh → newRefresh ∉ refreshToken :: accepted w.log ∧ newRefresh ∉ spent

structure Inv (settings : Settings) (connectionId : String) (spent : List String) (initial : TokenSet)
    (w : World ι) : Prop where
  lock : Lock.Ready (refreshLockKey connectionId) w
  held : Lock.Held (refreshLockKey connectionId) w
  loaded (hash : List (String × String)) : (stage settings connectionId w.log i).hash = some hash →
    w.redis.hashes (TokenStore.key connectionId) = hash
  settled : (∀ i, ¬ (stage settings connectionId w.log i).Issuing) →
    ∃ token, TokenStore.decode (w.redis.hashes (TokenStore.key connectionId)) = .ok (some token) ∧
      Current initial w.log token
  issuing : stage settings connectionId w.log i = .issued raw tenant →
    lastIssue w.log = some raw ∧ tenant = initial.xeroTenantId
  unspent : currentRefresh initial w.log = some refreshToken →
    refreshToken ∉ accepted w.log ∧ refreshToken ∉ spent
  once : (accepted w.log).Nodup

namespace Inv
variable {settings : Settings} {connectionId : String} {spent : List String} {initial : TokenSet}
  {env : Environment ι} {w w' : World ι} {i j : ι}

/-- Only one worker is at a stage. -/
theorem alone (inv : Inv settings connectionId spent initial w)
    (first : stage settings connectionId w.log i ≠ .away) (second : stage settings connectionId w.log j ≠ .away) :
    i = j := by
  obtain ⟨token, inside⟩ := (stage_inside w.log i).mp first
  obtain ⟨token', inside'⟩ := (stage_inside w.log j).mp second
  exact Lock.alone inv.lock inv.held inside inside'

/-- A step that neither refreshes nor stores. -/
theorem quiet (inv : Inv settings connectionId spent initial w) {redis : Redis ι}
    (lock : Lock.Ready (refreshLockKey connectionId) ⟨redis, .call i op answer :: w.log⟩)
    (held : Lock.Held (refreshLockKey connectionId) ⟨redis, .call i op answer :: w.log⟩)
    (hashes : redis.hashes (TokenStore.key connectionId) = w.redis.hashes (TokenStore.key connectionId))
    (kept : Kept (w.redis.hashes (TokenStore.key connectionId)) (stage settings connectionId w.log i)
      (advance connectionId (stage settings connectionId w.log i) op answer))
    (same : accepted (.call i op answer :: w.log) = accepted w.log)
    (issue : lastIssue (.call i op answer :: w.log) = lastIssue w.log) :
    Inv settings connectionId spent initial ⟨redis, .call i op answer :: w.log⟩ := by
  have stages (j : ι) : Kept (w.redis.hashes (TokenStore.key connectionId)) (stage settings connectionId w.log j)
      (stage settings connectionId (.call i op answer :: w.log) j) := by
    rcases eq_or_ne j i with rfl | other
    · rw [stage_own]
      exact kept
    · rw [stage_other other]
      exact .refl ..
  have issuing (j : ι) (idle : ¬ (stage settings connectionId (.call i op answer :: w.log) j).Issuing) :
      ¬ (stage settings connectionId w.log j).Issuing := by
    intro before
    cases at_issue : stage settings connectionId w.log j with
    | issued raw tenant =>
      rw [(stages j).issued.mpr at_issue] at idle
      exact idle trivial
    | _ =>
      rw [at_issue] at before
      exact before
  refine ⟨lock, held, ?_, ?_, ?_, ?_, ?_⟩
  · intro j hash found
    rw [hashes]
    rcases (stages j).hash hash found with before | now
    · exact inv.loaded hash before
    · exact now.symm
  · intro idle
    rw [hashes]
    obtain ⟨token, decoded, current⟩ := inv.settled fun j => issuing j (idle j)
    refine ⟨token, decoded, ?_⟩
    rw [Current, issue]
    exact current
  · intro j raw tenant at_issue
    rw [issue]
    exact inv.issuing ((stages j).issued.mp at_issue)
  · intro refreshToken current
    rw [same]
    apply inv.unspent
    rwa [currentRefresh, issue] at current
  · rw [same]
    exact inv.once

variable {hash : List (String × String)}

/-- With a worker at a stage, nobody else has anything to store. -/
theorem idle_beside (inv : Inv settings connectionId spent initial w)
    (staged : stage settings connectionId w.log i ≠ .away) (other : j ≠ i) :
    stage settings connectionId w.log j = .away := by
  by_contra present
  exact other (inv.alone present staged)

/-- Whoever is about to refresh has the current token in hand. -/
theorem timed_current (inv : Inv settings connectionId spent initial w)
    (timed : stage settings connectionId w.log i = .timed hash now)
    (renewable : Renewable settings refreshToken hash now) :
    w.redis.hashes (TokenStore.key connectionId) = hash ∧
      ∃ token, TokenStore.decode hash = .ok (some token) ∧ Current initial w.log token ∧
        token.refreshToken = some refreshToken := by
  have staged : stage settings connectionId w.log i ≠ .away := by simp [timed]
  have idle (j : ι) : ¬ (stage settings connectionId w.log j).Issuing := by
    rcases eq_or_ne j i with rfl | other
    · simp [timed, Stage.Issuing]
    · simp [inv.idle_beside staged other, Stage.Issuing]
  have hash_now := inv.loaded (i := i) hash (by simp [timed, Stage.hash])
  obtain ⟨token, decoded, current⟩ := inv.settled idle
  obtain ⟨token', decoded', refresh, _⟩ := renewable
  rw [hash_now, decoded'] at decoded
  cases decoded
  exact ⟨hash_now, token, decoded', current, refresh⟩

/-- The provider accepts the refresh of the one worker that asks for it. -/
theorem accept (inv : Inv settings connectionId spent initial w) (rotating : Rotating connectionId spent env)
    (tenant : initial.xeroTenantId.bind orNone = initial.xeroTenantId)
    (lock : Lock.Ready (refreshLockKey connectionId)
      ⟨w.redis, .call i (.outside (.refreshToken session url refreshToken)) (.ok raw) :: w.log⟩)
    (held : Lock.Held (refreshLockKey connectionId)
      ⟨w.redis, .call i (.outside (.refreshToken session url refreshToken)) (.ok raw) :: w.log⟩)
    (timed : stage settings connectionId w.log i = .timed hash now)
    (renewable : Renewable settings refreshToken hash now)
    (allowed : env.allows w i (.refreshToken session url refreshToken) (.ok raw)) :
    Inv settings connectionId spent initial
      ⟨w.redis, .call i (.outside (.refreshToken session url refreshToken)) (.ok raw) :: w.log⟩ := by
  have staged : stage settings connectionId w.log i ≠ .away := by simp [timed]
  obtain ⟨_, token, decoded, current, refresh⟩ := inv.timed_current timed renewable
  obtain ⟨unspent, unspent'⟩ := inv.unspent (current.refreshToken.symm.trans refresh)
  have issued : stage settings connectionId
      (.call i (.outside (.refreshToken session url refreshToken)) (.ok raw) :: w.log) i =
      .issued raw initial.xeroTenantId := by
    rw [stage_own, timed]
    simp only [advance, tenantOf, decoded, current.tenant tenant]
  refine ⟨lock, held, ?_, fun idle => ?_, ?_, ?_, List.nodup_cons.mpr ⟨unspent, inv.once⟩⟩
  · intro j hash' found
    rcases eq_or_ne j i with rfl | other
    · simp [issued, Stage.hash] at found
    · rw [stage_other other] at found
      exact inv.loaded hash' found
  · have none := idle i
    rw [issued] at none
    exact (none trivial).elim
  · intro j raw' tenant' at_issue
    rcases eq_or_ne j i with rfl | other
    · rw [issued] at at_issue
      cases at_issue
      exact ⟨rfl, rfl⟩
    · rw [stage_other other, inv.idle_beside staged other] at at_issue
      contradiction
  · intro newRefresh next
    exact rotating.rotates allowed next

/-- The one worker with an accepted refresh stores it. -/
theorem store (inv : Inv settings connectionId spent initial w) {redis : Redis ι}
    (lock : Lock.Ready (refreshLockKey connectionId)
      ⟨redis, .call i (.redis (.hset (TokenStore.key connectionId) (TokenStore.toMapping newToken))) () :: w.log⟩)
    (held : Lock.Held (refreshLockKey connectionId)
      ⟨redis, .call i (.redis (.hset (TokenStore.key connectionId) (TokenStore.toMapping newToken))) () :: w.log⟩)
    (at_issue : stage settings connectionId w.log i = .issued raw tenant) (issued : Issued raw tenant newToken)
    (stored : redis.hashes (TokenStore.key connectionId) =
      Redis.merge (w.redis.hashes (TokenStore.key connectionId)) (TokenStore.toMapping newToken)) :
    Inv settings connectionId spent initial
      ⟨redis, .call i (.redis (.hset (TokenStore.key connectionId) (TokenStore.toMapping newToken))) () :: w.log⟩ := by
  have staged : stage settings connectionId w.log i ≠ .away := by simp [at_issue]
  obtain ⟨last, rfl⟩ := inv.issuing at_issue
  have entered : stage settings connectionId
      (.call i (.redis (.hset (TokenStore.key connectionId) (TokenStore.toMapping newToken))) () :: w.log) i =
      .entered := by
    rw [stage_own, at_issue]
    simp [advance]
  refine ⟨lock, held, ?_, fun _ => ?_, ?_, inv.unspent, inv.once⟩
  · intro j hash found
    rcases eq_or_ne j i with rfl | other
    · simp [entered, Stage.hash] at found
    · simp [stage_other other, inv.idle_beside staged other, Stage.hash] at found
  · refine ⟨TokenStore.kept newToken, ?_, ?_⟩
    · rw [stored]
      exact TokenStore.decode_merge ..
    · simp only [Current, lastIssue, last]
      exact ⟨newToken, issued, rfl⟩
  · intro j raw' tenant' at_issue'
    rcases eq_or_ne j i with rfl | other
    · rw [entered] at at_issue'
      contradiction
    · rw [stage_other other, inv.idle_beside staged other] at at_issue'
      contradiction

theorem served (inv : Inv settings connectionId spent initial w) (rotating : Rotating connectionId spent env)
    (tenant : initial.xeroTenantId.bind orNone = initial.xeroTenantId)
    (locked : Lock.admits (refreshLockKey connectionId) (Lock.point (refreshLockKey connectionId) w.log i) op)
    (admitted : admits settings connectionId (stage settings connectionId w.log i) op)
    (served : Served env i w op answer w') : Inv settings connectionId spent initial w' := by
  have lock := inv.lock.served rotating.tokens locked served
  have held := inv.held.served inv.lock locked served
  cases served with
  | @outside call answer allowed =>
    by_cases refreshing : ∃ session url refreshToken, call = .refreshToken session url refreshToken
    · obtain ⟨session, url, refreshToken, rfl⟩ := refreshing
      obtain ⟨hash, now, timed, renewable⟩ := admitted
      cases answer with
      | ok raw => exact inv.accept rotating tenant lock held timed renewable allowed
      | error text =>
        apply inv.quiet lock held rfl ?_ rfl rfl
        rw [timed]
        exact ⟨by simp [advance], by simp [advance, Stage.hash]⟩
    · simp only [not_exists] at refreshing
      apply inv.quiet lock held rfl (outside_kept _ refreshing)
      · cases call with
        | refreshToken session url refreshToken => exact (refreshing session url refreshToken rfl).elim
        | _ => rfl
      · cases call with
        | refreshToken session url refreshToken => exact (refreshing session url refreshToken rfl).elim
        | _ => rfl
  | redis command =>
    by_cases stores : command.modifiesHash = some (TokenStore.key connectionId)
    · obtain ⟨raw, tenant, newToken, at_issue, issued, rfl⟩ := admitted.1 stores
      exact inv.store lock held at_issue issued (Function.update_self ..)
    · exact inv.quiet lock held (w.redis.exec_hashes i stores)
        (redis_kept (stage_inside w.log i) locked admitted stores i) rfl rfl

theorem drifted (inv : Inv settings connectionId spent initial w) (rotating : Rotating connectionId spent env)
    (drifted : Drifted env w w') : Inv settings connectionId spent initial w' := by
  have lock := inv.lock.drifted drifted
  have held := inv.held.drifted rotating.unhurried drifted
  cases drifted with
  | expire | invoice => exact ⟨lock, held, inv.loaded, inv.settled, inv.issuing, inv.unspent, inv.once⟩

theorem start {redis : Redis ι} (free : redis.strings (refreshLockKey connectionId) = none)
    (sane : redis.WellWatched)
    (stored : TokenStore.decode (redis.hashes (TokenStore.key connectionId)) = .ok (some initial))
    (unspent : ∀ refreshToken, initial.refreshToken = some refreshToken → refreshToken ∉ spent) :
    Inv settings connectionId spent initial ⟨redis, []⟩ where
  lock := .initial free sane
  held _ _ inside := by contradiction
  loaded _ found := by contradiction
  settled _ := ⟨initial, stored, rfl⟩
  issuing at_issue := by contradiction
  unspent current := ⟨List.not_mem_nil, unspent _ current⟩
  once := List.nodup_nil

end Inv

end OpenClaw.Rotation
