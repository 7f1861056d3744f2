import OpenClawService.Rotation.Invariant

/-! Rotation safety of the Xero refresh: with any number of workers asking for a
valid token, no refresh token is spent twice and none is lost. -/
namespace OpenClaw.Rotation
open Interleaving

section Safety
variable [Library] {ι : Type} [DecidableEq ι]

/-- Any number of workers, each with any number of calls for the one connection. -/
def callers (settings : Settings) (connectionId : String) (calls : ι → Nat) :
    ι → Prog Op Op.Answer (List (Except Exc TokenSet)) :=
  fun i => .sequence (.replicate (calls i) (XeroTokenManager.getValidToken settings connectionId).run)

/-- No worker inside the lock still has its token in the key. -/
def Unheld (connectionId : String) (w : World ι) : Prop :=
  ∀ i token, Lock.point (refreshLockKey connectionId) w.log i = .inside token →
    w.redis.strings (refreshLockKey connectionId) ≠ some token

theorem rotation_safety {settings : Settings} {connectionId : String} {spent : List String} {calls : ι → Nat}
    {redis : Redis ι} {env : Environment ι} {c : ServiceConfig ι (List (Except Exc TokenSet))}
    (rotating : Rotating connectionId spent env)
    (free : redis.strings (refreshLockKey connectionId) = none) (sane : redis.WellWatched)
    (stored : TokenStore.decode (redis.hashes (TokenStore.key connectionId)) = .ok (some initial))
    (unspent : ∀ refreshToken, initial.refreshToken = some refreshToken → refreshToken ∉ spent)
    (run : Reaches (system env) ⟨⟨redis, []⟩, callers settings connectionId calls⟩ c) :
    (∀ i session url refreshToken resume,
      c.pool i = .await (.outside (.refreshToken session url refreshToken)) resume →
        refreshToken ∉ accepted c.shared.log ∧ refreshToken ∉ spent ∧
        ∃ token now, Lock.point (refreshLockKey connectionId) c.shared.log i = .inside token ∧
          c.shared.redis.strings (refreshLockKey connectionId) = some token ∧
          stage settings connectionId c.shared.log i =
            .timed (c.shared.redis.hashes (TokenStore.key connectionId)) now ∧
          Renewable settings refreshToken (c.shared.redis.hashes (TokenStore.key connectionId)) now) ∧
    (Unheld connectionId c.shared →
      ∃ token, TokenStore.decode (c.shared.redis.hashes (TokenStore.key connectionId)) = .ok (some token) ∧
        Current initial c.shared.log token) ∧
    (accepted c.shared.log).Nodup := by
  have tenant : initial.xeroTenantId.bind orNone = initial.xeroTenantId :=
    congrArg TokenSet.xeroTenantId (TokenStore.kept_of_decode stored)
  have reached : Inv settings connectionId spent initial c.shared ∧ Conforming (fun _ => protocol settings connectionId)
      (fun w => view (fun _ => protocol settings connectionId) (fun _ => (.outside none, .away)) w.log)
      (fun _ _ l => Resting l) c := by
    apply Conforming.run (tracks env _ _) ?_ ?_ run (.start free sane stored unspent)
    · intro i
      apply Conforms.sequence
      · intro program member l resting
        rw [List.eq_of_mem_replicate member]
        exact getValidToken_meets resting
      · exact ⟨⟨none, rfl⟩, rfl⟩
    · intro c i op resume answer w inv _ _ _ admitted served
      rw [protocol, view_prod] at admitted
      refine ⟨⟨trivial, ?_⟩, inv.served rotating tenant admitted.1 admitted.2 served⟩
      cases served with
      | redis => trivial
      | outside allowed => exact rotating.regular _ _ _ _ allowed
    · intro c w inv _ drifted
      exact inv.drifted rotating drifted
  obtain ⟨inv, conforming⟩ := reached
  refine ⟨?_, fun unheld => inv.settled fun i issuing => ?_, inv.once⟩
  · intro i session url refreshToken resume pending
    have admitted := conforming.admitted pending
    rw [protocol, view_prod] at admitted
    obtain ⟨hash, now, (timed : stage settings connectionId c.shared.log i = .timed hash now), renewable⟩ :=
      admitted.2
    obtain ⟨rfl, token, _, current, refresh⟩ := inv.timed_current timed renewable
    obtain ⟨unspent, unspent'⟩ := inv.unspent (current.refreshToken.symm.trans refresh)
    have staged : stage settings connectionId c.shared.log i ≠ .away := by simp [timed]
    obtain ⟨owner, inside⟩ := (stage_inside c.shared.log i).mp staged
    exact ⟨unspent, unspent', owner, now, inside, inv.held i owner inside, timed, renewable⟩
  · have staged : stage settings connectionId c.shared.log i ≠ .away := by
      rintro away
      rw [away] at issuing
      exact issuing
    obtain ⟨owner, inside⟩ := (stage_inside c.shared.log i).mp staged
    exact unheld i owner inside (inv.held i owner inside)

end Safety

/-- The environment that does anything the assumptions allow. -/
def careful [Library] (spent : List String) : Environment Bool where
  allows w _ call answer := match call, answer with
    | .uuid4, token => ∀ j, ¬ Lock.Drawn w.log j token
    | .now, now => Clocked now
    | .refreshToken _ _ refreshToken, .ok raw => TokenDict raw ∧ ∀ newRefresh, refreshOf raw = some newRefresh →
        newRefresh ∉ refreshToken :: accepted w.log ∧ newRefresh ∉ spent
    | _, _ => True
  expires w key := ∀ i token, Lock.point key w.log i = .inside token → w.redis.strings key ≠ some token
  changes _ _ _ := True

theorem careful_rotating [Library] : Rotating connectionId spent (careful spent) where
  tokens _ _ _ allowed := allowed
  unhurried _ i token allowed := allowed i token
  regular _ _ call answer allowed := by
    cases call with
    | now => exact allowed
    | refreshToken => cases answer with
      | error text => trivial
      | ok raw => exact allowed.1
    | _ => trivial
  rotates allowed := allowed.2 _

section Contention
local instance : Library := .sample

def stale : TokenSet :=
  { accessToken := "a0", expiresAt := 0, refreshToken := some "r0", xeroTenantId := some "tenant" }

def fresh : Json :=
  .obj [("access_token", .str "a1"), ("refresh_token", .str "r1"), ("expires_in", .num 1800 0), ("expires_at", .num 1 0)]

theorem fresh_dict : TokenDict fresh where
  accessToken := ⟨"a1", rfl⟩
  refreshToken := ⟨some "r1", rfl⟩
  tokenType := ⟨"Bearer", rfl⟩
  scope := ⟨none, rfl⟩
  expiresAt := Or.inr ⟨1, rfl, by decide, by decide⟩
  expiresIn := ⟨1800, rfl, by decide, by decide⟩

def answers (token : String) : (call : Outside) → call.Answer
  | .uuid4 => token
  | .refreshToken .. => .ok fresh
  | call => call.silence

/-- Two workers are about to ask for the token of one connection, which has expired. -/
def asked : ServiceConfig Bool (List (Except Exc TokenSet)) :=
  ⟨⟨{ Redis.empty with hashes := fun _ => TokenStore.toMapping stale }, []⟩, callers .sample "acme" fun _ => 1⟩

/-- Both see the stale token and try the lock; one refreshes, the other finds the new token. -/
def schedule : List (Move Bool) :=
  [.redis true, .redis false, .outside true (answers "a"), .outside false (answers "b"),
    .outside true (answers "a"), .outside false (answers "b"), .redis true, .redis false,
    .redis true, .outside true (answers "a"), .outside true (answers "a"), .redis true, .redis true,
    .redis true, .redis true, .outside false (answers "b"), .redis false, .outside false (answers "b")]

theorem rotation_contended : accepted (schedule.foldl play asked).shared.log = ["r0"] ∧
    ∃ token, TokenStore.decode ((schedule.foldl play asked).shared.redis.hashes "token:acme") =
      .ok (some token) ∧ Current stale (schedule.foldl play asked).shared.log token := by
  refine ⟨rfl, ?_⟩
  have clocked : Clocked 0 := ⟨by decide, by decide⟩
  have run : Reaches (system (careful [])) asked (schedule.foldl play asked) := by
    apply plays_run
    refine ⟨trivial, trivial, ⟨trivial, clocked⟩, ⟨trivial, clocked⟩, ⟨trivial, ?_⟩, ⟨trivial, ?_⟩, trivial,
      trivial, trivial, ⟨trivial, clocked⟩, ⟨trivial, fresh_dict, ?_⟩, trivial, trivial, trivial, trivial,
      ⟨trivial, trivial⟩, trivial, ⟨trivial, clocked⟩, trivial⟩
    · exact fun j drawn => absurd (Lock.drawn_tokens drawn) (by decide)
    · exact fun j drawn => absurd (Lock.drawn_tokens drawn) (by decide)
    · rintro newRefresh ⟨⟩
      exact ⟨by decide, by decide⟩
  refine (rotation_safety careful_rotating rfl ?_ rfl ?_ run).2.1 ?_
  · intro j key seen watched
    contradiction
  · simp
  · intro i token _
    have free : (schedule.foldl play asked).shared.redis.strings (refreshLockKey "acme") = none := rfl
    simp [free]

end Contention
end OpenClaw.Rotation
