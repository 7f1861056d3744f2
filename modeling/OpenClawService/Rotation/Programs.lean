import OpenClawService.Locking.Ownership
import OpenClawService.Rotation.Protocol

/-! `XeroTokenManager.get_valid_token` keeps to the refresh protocol on every path. -/
namespace OpenClaw.Rotation
open Interleaving
variable [Library] {settings : Settings} {connectionId : String}

@[simp] theorem protocol_admits :
    (protocol settings connectionId).admits l op ↔
      Lock.admits (refreshLockKey connectionId) l.1 op ∧ admits settings connectionId l.2 op := Iff.rfl

theorem protocol_expects (expected : (protocol settings connectionId).expects l op answer) : expects op answer := expected.2

@[simp] theorem protocol_advance :
    (protocol settings connectionId).advance l op answer =
      (Lock.advance (refreshLockKey connectionId) l.1 op answer, advance connectionId l.2 op answer) := rfl

/-- Between two calls the worker is out of the lock and has nothing in hand. -/
def Resting (l : OwnedLock.Point String × Stage) : Prop := l.1.Away ∧ l.2 = .away

/-- Inside the lock with nothing left to store. -/
def Settled (token : String) (l : OwnedLock.Point String × Stage) : Prop :=
  l.1 = .inside token ∧ ¬ l.2.Issuing

variable {hash : List (String × String)} {raw : Json} {tenant : Option String}

theorem rawToTokenSet_meets (dict : TokenDict raw) :
    Meets (protocol settings connectionId) (XeroOAuth.rawToTokenSet raw (.ofText tenant)) (.inside token, .issued raw tenant)
      (fun result l => (∃ newToken, result = .ok newToken ∧ Issued raw tenant newToken) ∧
        l = (.inside token, .issued raw tenant)) := by
  apply dict.rawToTokenSet_meets
  · exact ⟨trivial, trivial⟩
  · exact fun now newToken read => ⟨⟨newToken, rfl, now, read⟩, rfl⟩
  · exact fun now expected => ⟨protocol_expects expected, fun newToken read => ⟨⟨newToken, rfl, now, read⟩, rfl⟩⟩

theorem store_meets (issued : Issued raw tenant newToken) :
    Meets (protocol settings connectionId) (TokenStore.store connectionId newToken)
      (.inside token, .issued raw tenant) (fun result l => result = .ok () ∧ l = (.inside token, .entered)) := by
  have admitted : admits settings connectionId (.issued raw tenant)
      (.redis (.hset (TokenStore.key connectionId) (TokenStore.toMapping newToken))) :=
    ⟨fun _ => ⟨raw, tenant, newToken, rfl, issued, rfl⟩, by simp⟩
  simp [TokenStore.store, admitted, Lock.admits, Lock.advance, advance, Command.modifies]

/-- A refresh ends with a token still to be stored, or with nothing accepted. -/
def Refreshed (token : String) : Except Exc TokenSet → OwnedLock.Point String × Stage → Prop
  | .ok newToken, l => ∃ raw tenant, Issued raw tenant newToken ∧ l = (.inside token, .issued raw tenant)
  | .error _, l => Settled token l

theorem refreshToken_meets (decoded : TokenStore.decode hash = .ok (some current))
    (expired : current.expiredOrNear settings.refreshBufferSeconds now = true) :
    Meets (protocol settings connectionId) (XeroOAuth.refreshToken settings (some current))
      (.inside token, .timed hash now) (Refreshed token) := by
  unfold XeroOAuth.refreshToken
  cases present : current.refreshToken.bind orNone with
  | none =>
    simp only [present]
    exact ⟨rfl, id⟩
  | some refreshToken =>
    obtain ⟨text, held, kept⟩ := Option.bind_eq_some_iff.mp present
    rw [orNone_eq_some kept] at held
    have admitted : admits settings connectionId (.timed hash now)
        (.outside (.refreshToken settings.xero XeroOAuth.tokenUrl refreshToken)) :=
      ⟨hash, now, rfl, current, decoded, held, expired⟩
    simp only [present, Meets.bind_iff, Async.outside_meets, Meets.andThen_ok, Async.raising_meets]
    refine ⟨⟨trivial, admitted⟩, fun answer expected => ?_⟩
    cases answer with
    | error text => exact ⟨rfl, id⟩
    | ok raw =>
      have dict : TokenDict raw := protocol_expects expected
      have tenant : tenantOf hash = current.xeroTenantId := by simp only [tenantOf, decoded]
      simp only [Except.mapError, Meets.andThen_ok, protocol_advance, advance, tenant]
      apply (rawToTokenSet_meets dict).mono
      rintro result l ⟨⟨newToken, rfl, issued⟩, rfl⟩
      exact ⟨raw, current.xeroTenantId, issued, rfl⟩

theorem renew_meets (decoded : TokenStore.decode hash = .ok (some current))
    (expired : current.expiredOrNear settings.refreshBufferSeconds now = true) :
    Meets (protocol settings connectionId)
      (XeroTokenManager.refreshHeld.renew settings connectionId (some current))
      (.inside token, .timed hash now) (fun _ l => Settled token l) := by
  unfold XeroTokenManager.refreshHeld.renew
  rw [Meets.bind_iff]
  apply (refreshToken_meets decoded expired).mono
  rintro (error | newToken) l refreshed
  · exact refreshed
  · obtain ⟨raw, tenant, issued, rfl⟩ := refreshed
    rw [Meets.andThen_ok, Meets.bind_iff]
    apply (store_meets issued).mono
    rintro result l ⟨rfl, rfl⟩
    exact ⟨rfl, id⟩

/-- The critical section, entered with the lock just taken. -/
theorem refreshHeld_meets :
    Meets (protocol settings connectionId) (XeroTokenManager.refreshHeld settings connectionId)
      (.inside token, .entered) (fun _ l => Settled token l) := by
  rw [XeroTokenManager.refreshHeld, Meets.bind_iff, TokenStore.load_meets]
  refine ⟨by simp [Lock.admits, admits, Command.modifies, Command.modifiesHash], fun hash _ => ?_⟩
  simp only [protocol_advance, Lock.advance, advance, if_true]
  cases decoded : TokenStore.decode hash with
  | error error => exact ⟨rfl, id⟩
  | ok token =>
    cases token with
    | none => exact ⟨rfl, id⟩
    | some current =>
      simp only [Meets.andThen_ok, Meets.bind_iff, TokenSet.isExpiredOrNear_meets]
      refine ⟨⟨trivial, trivial⟩, fun now _ => ?_⟩
      simp only [protocol_advance, Lock.advance, advance]
      by_cases expired : current.expiredOrNear settings.refreshBufferSeconds now = true
      · simp only [expired, if_true]
        exact renew_meets decoded expired
      · simp only [expired]
        exact ⟨rfl, id⟩

/-- The release, reached with nothing left to store. -/
theorem aexit_meets (settled : Settled token l) :
    Meets (protocol settings connectionId) (Lock.aexit (refreshLockKey connectionId) ⟨token, true⟩) l
      (fun result l => result = .ok () ∧ Resting l) := by
  obtain ⟨point, stage⟩ := l
  obtain ⟨rfl, idle⟩ := settled
  simp only [Lock.aexit, if_true, Meets.bind_iff, Async.redis_meets, Meets.andThen_ok]
  refine ⟨⟨by simp [Lock.admits, Command.modifies], by simp [Command.modifiesHash], fun _ => idle⟩,
    fun _ _ => ?_⟩
  simp only [protocol_advance, Lock.advance, advance, if_true]
  refine ⟨⟨rfl, by simp [admits, Command.modifiesHash]⟩, fun current _ => ?_⟩
  by_cases owned : current = some token
  · simp [owned, admits, Lock.admits, Lock.advance, advance, Command.modifiesHash, Resting, OwnedLock.Point.Away]
  · simp [owned, admits, Lock.admits, Lock.advance, advance, Command.modifiesHash, Resting, OwnedLock.Point.Away]

/-- One attempt at the lock, with the refresh as its body. -/
theorem acquire_meets (resting : Resting l) :
    Meets (protocol settings connectionId)
      (Lock.acquire (refreshLockKey connectionId) lockTtlSeconds fun acquired =>
        if acquired then some <$> XeroTokenManager.refreshHeld settings connectionId else pure none)
      l (fun _ l => Resting l) := by
  obtain ⟨point, stage⟩ := l
  obtain ⟨⟨drawn, rfl⟩, rfl⟩ := resting
  simp only [Lock.acquire, Lock.aenter, Meets.bind_iff, Async.outside_meets, Async.redis_meets,
    Meets.andThen_ok, Meets.pure_iff, Async.outcome_meets]
  refine ⟨⟨trivial, trivial⟩, fun token _ => ⟨⟨fun _ => ⟨token, _, rfl, rfl⟩, ?_⟩, fun acquired _ => ?_⟩⟩
  · simp [admits, Command.modifiesHash]
  · simp only [protocol_advance, Lock.advance, advance, if_true]
    cases acquired with
    | false => exact ⟨⟨none, rfl⟩, rfl⟩
    | true =>
      simp only [if_true, Meets.map_iff]
      apply refreshHeld_meets.mono
      intro result l settled
      apply (aexit_meets settled).mono
      rintro _ l ⟨rfl, resting⟩
      exact resting

/-- Loading the token outside the lock and looking at the clock. -/
theorem load_meets (resting : Resting l) :
    Meets (protocol settings connectionId) (TokenStore.load connectionId) l (fun _ l => Resting l) := by
  obtain ⟨point, stage⟩ := l
  obtain ⟨⟨drawn, rfl⟩, rfl⟩ := resting
  simp [TokenStore.load, Lock.admits, Lock.advance, admits, advance, Command.modifies, Command.modifiesHash,
    Resting, OwnedLock.Point.Away]

theorem expired_meets (resting : Resting l) (token : TokenSet) (bufferSeconds : Int) :
    Meets (protocol settings connectionId) (token.isExpiredOrNear bufferSeconds) l (fun _ l => Resting l) := by
  obtain ⟨point, stage⟩ := l
  obtain ⟨⟨drawn, rfl⟩, rfl⟩ := resting
  simp [TokenSet.isExpiredOrNear, Lock.admits, Lock.advance, admits, advance, Resting, OwnedLock.Point.Away]

theorem usable_meets (resting : Resting l) (token : Option TokenSet) :
    Meets (protocol settings connectionId) (XeroTokenManager.usable settings token) l (fun _ l => Resting l) := by
  cases token with
  | none => exact resting
  | some token =>
    apply (expired_meets resting token _).bind_keeps
    intro expired l resting
    cases expired <;> exact resting

theorem sleep_meets (resting : Resting l) :
    Meets (protocol settings connectionId) (Async.outside (.sleep milliseconds)) l (fun _ l => Resting l) := by
  obtain ⟨point, stage⟩ := l
  obtain ⟨⟨drawn, rfl⟩, rfl⟩ := resting
  simp [Lock.admits, Lock.advance, admits, advance, Resting, OwnedLock.Point.Away]

/-- Every attempt starts and ends at rest, so any number of them does. -/
theorem refreshAttempts_meets (attempts : Nat) (resting : Resting l) :
    Meets (protocol settings connectionId) (XeroTokenManager.refreshAttempts settings connectionId attempts) l
      (fun _ l => Resting l) := by
  induction attempts generalizing l with
  | zero => exact resting
  | succ attempts ih =>
    apply (acquire_meets resting).bind_keeps
    intro refreshed l resting
    cases refreshed with
    | some token => exact resting
    | none =>
      apply (sleep_meets resting).bind_keeps
      intro _ l resting
      apply (load_meets resting).bind_keeps
      intro loaded l resting
      apply (usable_meets resting loaded).bind_keeps
      intro usable l resting
      cases usable with
      | some token => exact resting
      | none => exact ih resting

theorem getValidToken_meets (resting : Resting l) :
    Meets (protocol settings connectionId) (XeroTokenManager.getValidToken settings connectionId) l
      (fun _ l => Resting l) := by
  apply (load_meets resting).bind_keeps
  intro loaded l resting
  cases loaded with
  | none => exact resting
  | some token =>
    apply (expired_meets resting token _).bind_keeps
    intro expired l resting
    cases expired with
    | true => exact refreshAttempts_meets _ resting
    | false => exact resting

end OpenClaw.Rotation
