import OpenClawService.Contention.Protocol

/-! What the loop is made of: a load with its check, an attempt on the lock with
its release, and the refresh of the token in hand. -/
namespace OpenClaw.Contention
open Interleaving
variable [Library] {settings : Settings} {manager : Manager} {connectionId : String} {a : Account}

/-! Only the end of the loop gives up on the lock. -/

omit [Library] in
/-- The outcome is not a `LockTimeoutError`. -/
def Calm (outcome : Except Exc α) : Prop := ∀ text, outcome ≠ .error (.lockTimeoutError text)

omit [Library] in
theorem calm {outcome : Except Exc α} (internal : Internal outcome) : Calm outcome := fun _ => internal.ne rfl

/-! Loads. -/

theorem load_meets (first : a.renewals = []) : Meets (protocol settings manager connectionId) (TokenStore.load connectionId) a
    (fun result a' => ∃ hash, result = TokenStore.decode hash ∧ a' = a.loaded result) := by
  rw [TokenStore.load_meets]
  exact ⟨⟨rfl, first⟩, fun hash _ => ⟨hash, rfl, if_pos rfl⟩⟩

theorem expired_meets (token : TokenSet) (bufferSeconds : Int) :
    Meets (protocol settings manager connectionId) (token.isExpiredOrNear bufferSeconds) a
      (fun result a' => ∃ now, result = .ok (token.expiredOrNear bufferSeconds now) ∧ a' = a.timed now) := by
  rw [TokenSet.isExpiredOrNear_meets]
  exact ⟨trivial, fun now _ => ⟨now, rfl, rfl⟩⟩

/-- What a load with its check adds to the account. -/
inductive Checked (settings : Settings) (a : Account) : Except Exc (Option TokenSet) → Load → Prop where
  | failed (found : load.found = .error exc) (calm : Calm load.found) : Checked settings a (.error exc) load
  | stale (stale : load.stale settings.refreshBufferSeconds = true) : Checked settings a (.ok none) load
  | valid (valid : load.Valid settings.refreshBufferSeconds token) : Checked settings a (.ok (some token)) load

theorem check_meets (first : a.renewals = []) : Meets (protocol settings manager connectionId) (do
      XeroTokenManager.usable settings (← TokenStore.load connectionId)) a
    (fun result a' => ∃ load : Load, a' = { a with loads := load :: a.loads } ∧ load.inside = a.holding ∧
      load.waited = a.waited ∧ Checked settings a result load) := by
  rw [Meets.bind_iff]
  apply (load_meets first).mono
  rintro result a' ⟨hash, decoded, rfl⟩
  cases result with
  | error exc =>
    exact ⟨_, rfl, rfl, rfl, .failed rfl (decoded ▸ calm TokenStore.decode_internal)⟩
  | ok found =>
    rw [Meets.andThen_ok]
    cases found with
    | none => exact ⟨_, rfl, rfl, rfl, .stale rfl⟩
    | some token =>
      simp only [XeroTokenManager.usable, Meets.bind_iff]
      apply (expired_meets token settings.refreshBufferSeconds).mono
      rintro result a' ⟨now, rfl, rfl⟩
      rw [Meets.andThen_ok]
      cases near : token.expiredOrNear settings.refreshBufferSeconds now with
      | true => exact ⟨⟨a.holding, a.waited, .ok (some token), some now⟩, rfl, rfl, rfl, .stale near⟩
      | false => exact ⟨⟨a.holding, a.waited, .ok (some token), some now⟩, rfl, rfl, rfl, .valid ⟨rfl, now, rfl, near⟩⟩

namespace Account

omit [Library] in
@[simp] theorem timed_holding : (a.timed now).holding = a.holding := by
  unfold timed
  split <;> rfl

omit [Library] in
@[simp] theorem timed_attempts : (a.timed now).attempts = a.attempts := by
  unfold timed
  split <;> rfl

omit [Library] in
@[simp] theorem timed_renewals : (a.timed now).renewals = a.renewals := by
  unfold timed
  split <;> rfl

omit [Library] in
@[simp] theorem timed_written : (a.timed now).written = a.written := by
  unfold timed
  split <;> rfl

/-- No command renews. -/
theorem redis_renewals {command : Command} {reply : command.Reply} :
    (advance connectionId a (.redis command) reply).renewals = a.renewals := by
  cases command with
  | setNx | watch | hgetall | hset =>
    simp only [advance]
    split <;> rfl
  | _ => rfl

/-- Only a load changes what is in hand. -/
theorem redis_inHand {command : Command} {reply : command.Reply} (unloaded : ∀ k, command ≠ .hgetall k) :
    (advance connectionId a (.redis command) reply).inHand = a.inHand := by
  cases command with
  | hgetall k => exact (unloaded k rfl).elim
  | setNx | watch | hset =>
    simp only [advance]
    split <;> rfl
  | _ => rfl

omit [Library] in
@[simp] theorem timed_inHand : (a.timed now).inHand = a.inHand := by
  unfold timed
  split
  · rename_i inside waited found rest loads
    simp only [inHand, loads]
    cases inside <;> rcases found with exc | _ | token <;> rfl
  · rfl

end Account

/-! The lock. -/

/-- The release says nothing but that the lock is no longer held. -/
theorem acquire_meets {body : Bool → Async α} (mid : Except Exc α → Account → Prop) {post : Except Exc α → Account → Prop}
    (idle : a.holding = false) (unwon : true ∉ a.attempts)
    (held : Meets (protocol settings manager connectionId) (body true) (a.attempted true) mid)
    (missed : Meets (protocol settings manager connectionId) (body false) (a.attempted false) post)
    (release : ∀ result a', mid result a' → post result a'.released) :
    Meets (protocol settings manager connectionId) (Lock.acquire (refreshLockKey connectionId) lockTtlSeconds body) a post := by
  simp only [Lock.acquire, Lock.aenter, Meets.bind_iff, Async.outside_meets, Async.redis_meets, Meets.andThen_ok, Meets.pure_iff,
    Async.outcome_meets, protocol_advance, advance, if_true]
  refine ⟨trivial, fun ownerToken _ => ⟨⟨rfl, rfl, idle, unwon⟩, fun acquired _ => ?_⟩⟩
  cases acquired with
  | false =>
    refine missed.mono fun result a' ended => ?_
    simpa only [Lock.aexit, Bool.false_eq_true, if_false, Meets.pure_iff, Meets.andThen_ok, Async.ofExcept_meets] using ended
  | true =>
    refine held.mono fun result a' ended => ?_
    simp only [Lock.aexit, if_true, Meets.bind_iff, Async.redis_meets, Meets.andThen_ok, protocol_advance, advance]
    refine ⟨rfl, fun _ _ => ⟨rfl, fun current _ => ?_⟩⟩
    split
    · simp only [Meets.bind_iff, Async.redis_meets, Meets.andThen_ok, Meets.pure_iff, Async.ofExcept_meets]
      exact ⟨rfl, fun _ _ => release result a' ended⟩
    · simp only [Async.redis_meets, Meets.andThen_ok, Async.ofExcept_meets]
      exact ⟨trivial, fun _ _ => release result a' ended⟩

/-! The refresh. -/

/-- Under the lock, with nothing refreshed and nothing written. -/
structure Critical (a : Account) : Prop where
  holding : a.holding = true
  won : true ∈ a.attempts
  first : a.renewals = []
  unwritten : a.written = none

omit [Library] in
theorem Critical.timed (critical : Critical a) (now : Int) : Critical (a.timed now) := by
  constructor
  · simpa using critical.holding
  · simpa using critical.won
  · simpa using critical.first
  · simpa using critical.unwritten

/-- How the critical section goes on after the refresh client returns. -/
structure Refreshed (settings : Settings) (manager : Manager) (result : Except Exc TokenSet) (a : Account) : Prop where
  holding : a.holding = true
  won : true ∈ a.attempts
  unwritten : a.written = none
  renewed : result = .ok token → Renewed settings manager a token
  calm : Calm result

theorem Refreshed.timed {result : Except Exc TokenSet} (refreshed : Refreshed settings manager result a) (now : Int) :
    Refreshed settings manager result (a.timed now) := by
  constructor
  · simpa using refreshed.holding
  · simpa using refreshed.won
  · simpa using refreshed.unwritten
  · intro token succeeded
    simpa only [Renewed, Account.timed_inHand, Account.timed_renewals] using refreshed.renewed succeeded
  · exact refreshed.calm

/-- An answer that renews the token in hand. -/
theorem Critical.renews {call : Outside} {answer : call.Answer} (critical : Critical a) (hand : a.inHand = some current)
    (renews : manager.Renews settings current ⟨call, answer⟩ token) :
    Refreshed settings manager (.ok token) (a.renewed call answer) where
  holding := critical.holding
  won := critical.won
  unwritten := critical.unwritten
  renewed := by
    rintro token ⟨⟩
    exact ⟨current, _, hand, congrArg _ critical.first, renews⟩
  calm := nofun

/-- How the critical section ends. -/
structure Closed (returned : α → Account → Prop) (result : Except Exc α) (a : Account) : Prop where
  won : true ∈ a.attempts
  returned : result = .ok value → returned value a
  unwritten : result = .error exc → a.written = none
  calm : Calm result

omit [Library] in
theorem Closed.ended {result : Except Exc α} {returned : α → Account → Prop} (closed : Closed returned result a)
    (stays : ∀ value, returned value a → returned value a.released) : Ended settings manager returned result a.released := by
  constructor
  · exact fun succeeded => stays _ (closed.returned succeeded)
  · exact closed.unwritten
  · intro _
    constructor
    · rintro ⟨text, rfl⟩
      exact (closed.calm text rfl).elim
    · intro exhausted
      exact (exhausted.starving.unwon closed.won).elim
  · exact fun _ starving => (starving.unwon closed.won).elim

/-- An exception before anything is written. -/
theorem Critical.fails {exc : Exc} (critical : Critical a) (calm : ∀ text, exc ≠ .lockTimeoutError text) :
    Refreshed settings manager (.error exc) a where
  holding := critical.holding
  won := critical.won
  unwritten := critical.unwritten
  renewed := nofun
  calm text same := calm text (Except.error.inj same)

end OpenClaw.Contention
