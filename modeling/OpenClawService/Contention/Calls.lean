import OpenClawService.Contention.Programs

/-! What one call for a token does, whatever the loads, the attempts on the lock
and the clock readings give. -/
namespace OpenClaw.Contention
open Interleaving

/-- The calls of the refresh client. -/
def refreshes : Outside → Bool
  | .http _ | .refreshToken .. => true
  | _ => false

section Calls
variable [Library] {settings : Settings} {manager : Manager} {connectionId : String}

/-- The account of the requests and answers, the oldest first. -/
def account (connectionId : String) (events : List ((op : Op) × op.Answer)) : Account :=
  events.foldl (fun a event => advance connectionId a event.1 event.2) {}

/-- The contract of a call, over all its traces. -/
structure Contends (settings : Settings) (manager : Manager) (connectionId : String) (returned : α → Account → Prop)
    (program : Async α) : Prop where
  asks : program.run.Trace events (.await (.outside call) resume) → refreshes call = true →
    Licensed settings manager (account connectionId events) ∧ ∃ current refreshToken,
      (account connectionId events).inHand = some current ∧ current.refreshToken = some refreshToken ∧
      call = manager.refresh settings refreshToken
  once : program.run.Trace events later →
    (account connectionId events).renewals.length ≤ 1 ∧ (account connectionId events).attempts.count true ≤ 1
  stores : program.run.Trace events (.await (.redis (.hset k mapping)) resume) → k = TokenStore.key connectionId ∧
    (account connectionId events).holding = true ∧
    ∃ token, Renewed settings manager (account connectionId events) token ∧ mapping = TokenStore.toMapping token
  returned : program.run.Trace events (.done (.ok value)) → returned value (account connectionId events)
  timeout : program.run.Trace events (.done result) →
    ((∃ text, result = .error (.lockTimeoutError text)) ↔ Exhausted settings (account connectionId events))
  persists : program.run.Trace events (.done result) → Starving settings (account connectionId events) →
    Exhausted settings (account connectionId events)
  unwritten : program.run.Trace events (.done (.error exc)) → (account connectionId events).written = none

omit [Library] in
theorem timed_once {a : Account} (once : a.renewals.length ≤ 1 ∧ a.attempts.count true ≤ 1) (now : Int) :
    (a.timed now).renewals.length ≤ 1 ∧ (a.timed now).attempts.count true ≤ 1 := by
  simpa only [Account.timed_renewals, Account.timed_attempts] using once

/-- A refresh is the first one, and only a lock that was never won is tried. -/
theorem once_kept {a : Account} {op : Op} {answer : op.Answer} (once : a.renewals.length ≤ 1 ∧ a.attempts.count true ≤ 1)
    (admitted : admits settings manager connectionId a op) :
    (advance connectionId a op answer).renewals.length ≤ 1 ∧ (advance connectionId a op answer).attempts.count true ≤ 1 := by
  cases op with
  | redis command =>
    cases command with
    | setNx k value ttl =>
      obtain ⟨rfl, _, _, unwon⟩ := admitted
      rw [advance, if_pos rfl]
      refine ⟨once.1, ?_⟩
      simp only [Account.attempted, List.count_cons, List.count_eq_zero.mpr unwon]
      split <;> simp
    | watch | hgetall | hset =>
      simp only [advance]
      split <;> exact once
    | _ => exact once
  | outside call =>
    cases call with
    | now => exact timed_once once _
    | http | refreshToken =>
      obtain ⟨licensed, _⟩ := admitted
      refine ⟨?_, once.2⟩
      simp [advance, Account.renewed, licensed.first]
    | _ => exact once

theorem contends {program : Async α} {returned : α → Account → Prop} (unforced : manager.forced = false)
    (meets : Meets (protocol settings manager connectionId) program {} (Ended settings manager returned)) :
    Contends settings manager connectionId returned program := by
  have free (a : Account) (op : Op) (answer : op.Answer) : (protocol settings manager connectionId).expects a op answer := trivial
  have reached {events later} (trace : program.run.Trace events later) :
      Conforms (protocol settings manager connectionId) later (account connectionId events) (Ended settings manager returned) :=
    Conforms.trace free meets trace
  constructor
  case asks =>
    intro events call resume trace asked
    have admitted := (reached trace).1
    cases call with
    | http | refreshToken => exact admitted
    | _ => cases asked
  case once =>
    intro events later trace
    have kept (a : Account) (op : Op) (answer : op.Answer) (once : a.renewals.length ≤ 1 ∧ a.attempts.count true ≤ 1)
        (admitted : admits settings manager connectionId a op) : (advance connectionId a op answer).renewals.length ≤ 1 ∧
          (advance connectionId a op answer).attempts.count true ≤ 1 := once_kept once admitted
    have initial : ({} : Account).renewals.length ≤ 1 ∧ ({} : Account).attempts.count true ≤ 1 := by simp
    exact Conforms.trace_invariant free kept meets trace initial
  case stores =>
    intro events k mapping resume trace
    obtain ⟨own, holding, _, renewed⟩ := (reached trace).1
    exact ⟨own, holding, renewed⟩
  case returned =>
    intro events value trace
    exact (reached trace).returned rfl
  case timeout =>
    intro events result trace
    exact (reached trace).timeout unforced
  case persists =>
    intro events result trace
    exact (reached trace).persists unforced
  case unwritten =>
    intro events exc trace
    exact (reached trace).unwritten rfl

/-- A load of the token, with its check. -/
def check (connectionId : String) (hash : List (String × String)) (now : Int) : List ((op : Op) × op.Answer) :=
  [⟨.redis (.hgetall (TokenStore.key connectionId)), hash⟩] ++ [⟨.outside .now, now⟩]

/-- An attempt on a taken lock. -/
def refusal (connectionId owner : String) : List ((op : Op) × op.Answer) :=
  [⟨.outside .uuid4, owner⟩, ⟨.redis (.setNx (refreshLockKey connectionId) owner lockTtlSeconds), false⟩]

def pause : List ((op : Op) × op.Answer) := [⟨.outside (.sleep contentionSleepMilliseconds), ()⟩]

def vainRound (connectionId owner : String) (hash : List (String × String)) (now : Int) : List ((op : Op) × op.Answer) :=
  refusal connectionId owner ++ (pause ++ check connectionId hash now)

def vainCall (connectionId owner : String) (hash : List (String × String)) (now : Int) : List ((op : Op) × op.Answer) :=
  check connectionId hash now ++ (List.replicate contentionRetries (vainRound connectionId owner hash now)).flatten

omit [Library] in
/-- Whoever does not get the lock leaves the block at once. -/
theorem refusal_trace (owner : String) {body : Bool → Async (Option α)} (idle : body false = pure none) :
    (Lock.acquire (refreshLockKey connectionId) lockTtlSeconds body).run.Trace (refusal connectionId owner) (.done (.ok none)) := by
  have entered : (Lock.aenter (refreshLockKey connectionId) lockTtlSeconds).run.Trace (refusal connectionId owner)
      (.done (.ok ⟨owner, false⟩)) := .cons (.cons .nil)
  rw [← List.append_nil (refusal connectionId owner)]
  refine .andThen entered ?_
  rw [idle]
  exact .nil

omit [Library] in
theorem pause_trace : (Async.outside (.sleep contentionSleepMilliseconds)).run.Trace pause (.done (.ok ())) := .cons .nil

section Vain
variable {hash : List (String × String)} {token : TokenSet} {now : Int} (owner : String)
  (decoded : TokenStore.decode hash = .ok (some token)) (near : token.expiredOrNear settings.refreshBufferSeconds now = true)
include near

omit [Library] in
theorem near_trace : (token.isExpiredOrNear settings.refreshBufferSeconds).run.Trace [⟨.outside .now, now⟩] (.done (.ok true)) := by
  simpa only [near] using token.isExpiredOrNear_trace settings.refreshBufferSeconds now

omit [Library] in
theorem useless_trace : (XeroTokenManager.usable settings (some token)).run.Trace [⟨.outside .now, now⟩] (.done (.ok none)) :=
  .andThen (near_trace near) .nil

include decoded

/-- Every round in vain is followed by the next one, and the last one by the timeout. -/
theorem xero_rounds (attempts : Nat) : ∃ text, (XeroTokenManager.refreshAttempts settings connectionId attempts).run.Trace
    (List.replicate attempts (vainRound connectionId owner hash now)).flatten (.done (.error (.lockTimeoutError text))) := by
  induction attempts with
  | zero => exact ⟨_, .nil⟩
  | succ attempts ih =>
    obtain ⟨text, later⟩ := ih
    refine ⟨text, ?_⟩
    simp only [List.replicate_succ, List.flatten_cons, vainRound, check, List.append_assoc]
    refine .andThen (refusal_trace owner rfl) (.andThen pause_trace ?_)
    exact .andThen (TokenStore.load_trace decoded) (.andThen (useless_trace near) later)

theorem microsoft_rounds (attempts : Nat) : ∃ text, (MSTokenManager.refreshAttempts settings connectionId false attempts).run.Trace
    (List.replicate attempts (vainRound connectionId owner hash now)).flatten (.done (.error (.lockTimeoutError text))) := by
  induction attempts with
  | zero => exact ⟨_, .nil⟩
  | succ attempts ih =>
    obtain ⟨text, later⟩ := ih
    refine ⟨text, ?_⟩
    have cached : (MSTokenManager.cachedToken settings connectionId false).run.Trace (check connectionId hash now)
        (.done (.ok none)) := .andThen (TokenStore.load_trace decoded) (useless_trace near)
    simp only [List.replicate_succ, List.flatten_cons, vainRound, List.append_assoc]
    exact .andThen (refusal_trace owner rfl) (.andThen pause_trace (.andThen cached later))

/-- Both managers give up after five attempts. -/
theorem vainCall_ends : (∃ text, (XeroTokenManager.getValidToken settings connectionId).run.Trace
      (vainCall connectionId owner hash now) (.done (.error (.lockTimeoutError text)))) ∧
    ∃ text, (MSTokenManager.getToken settings connectionId false).run.Trace
      (vainCall connectionId owner hash now) (.done (.error (.lockTimeoutError text))) := by
  simp only [vainCall, check, List.append_assoc]
  constructor
  · obtain ⟨text, rounds⟩ := xero_rounds owner decoded near contentionRetries
    exact ⟨text, .andThen (TokenStore.load_trace decoded) (.andThen (near_trace near) rounds)⟩
  · obtain ⟨text, rounds⟩ := microsoft_rounds owner decoded near contentionRetries
    exact ⟨text, .andThen (TokenStore.load_trace decoded) (.andThen (near_trace near) rounds)⟩

end Vain

/-! A call that wins the lock and refreshes the token. -/

def admission (connectionId owner : String) : List ((op : Op) × op.Answer) :=
  [⟨.outside .uuid4, owner⟩, ⟨.redis (.setNx (refreshLockKey connectionId) owner lockTtlSeconds), true⟩]

def release (connectionId owner : String) (intact : Bool) : List ((op : Op) × op.Answer) :=
  [⟨.redis (.watch (refreshLockKey connectionId)), ()⟩, ⟨.redis (.get (refreshLockKey connectionId)), some owner⟩,
    ⟨.redis (.execDel (refreshLockKey connectionId)), intact⟩]

/-- A refresh of the stored token, with the store of the new one. -/
def renewal (settings : Settings) (connectionId : String) (hash : List (String × String)) (refreshToken : String)
    (response : HttpResponse) (now : Int) (renewed : TokenSet) : List ((op : Op) × op.Answer) :=
  [⟨.redis (.hgetall (TokenStore.key connectionId)), hash⟩] ++
    ([⟨.outside (.http (MSDeviceCode.refreshRequest settings refreshToken)), .ok response⟩, ⟨.outside .now, now⟩] ++
      [⟨.redis (.hset (TokenStore.key connectionId) (TokenStore.toMapping renewed)), ()⟩])

/-- A call that loses the lock once and then renews the token. -/
def contendedCall (settings : Settings) (connectionId owner : String) (intact : Bool) (hash : List (String × String))
    (refreshToken : String) (response : HttpResponse) (now : Int) (renewed : TokenSet) : List ((op : Op) × op.Answer) :=
  check connectionId hash now ++ (vainRound connectionId owner hash now ++ (admission connectionId owner ++
    (check connectionId hash now ++ renewal settings connectionId hash refreshToken response now renewed ++
      release connectionId owner intact)))

omit [Library] in
theorem locked_trace (owner : String) (intact : Bool) {body : Bool → Async α} {events : List ((op : Op) × op.Answer)}
    (ran : (body true).run.Trace events (.done (.ok result))) :
    (Lock.acquire (refreshLockKey connectionId) lockTtlSeconds body).run.Trace
      (admission connectionId owner ++ (events ++ release connectionId owner intact)) (.done (.ok result)) := by
  have entered : (Lock.aenter (refreshLockKey connectionId) lockTtlSeconds).run.Trace (admission connectionId owner)
      (.done (.ok ⟨owner, true⟩)) := .cons (.cons .nil)
  have outcome : (Async.outcome (body true)).run.Trace events (.done (.ok (.ok result))) := .bind ran
  have freed : (if (some owner : Option String) = some owner then do
      let _ ← Async.redis (.execDel (refreshLockKey connectionId))
      return () else Async.redis .unwatch : Async Unit).run.Trace
      [⟨.redis (.execDel (refreshLockKey connectionId)), intact⟩] (.done (.ok ())) := by
    rw [if_pos rfl]
    exact .cons .nil
  have left : (Lock.aexit (refreshLockKey connectionId) ⟨owner, true⟩).run.Trace (release connectionId owner intact)
      (.done (.ok ())) := .cons (.cons freed)
  rw [← List.append_nil (release connectionId owner intact)]
  exact .andThen entered (.andThen outcome (.andThen left .nil))

theorem renewal_trace {force : Bool} {hash : List (String × String)} {events : List ((op : Op) × op.Answer)} {token : TokenSet}
    {response : HttpResponse} {body : Json} {now : Int} {renewed : TokenSet}
    (due : (MSTokenManager.cachedToken settings connectionId force).run.Trace events (.done (.ok none)))
    (decoded : TokenStore.decode hash = .ok (some token)) (held : token.refreshToken = some refreshToken)
    (success : response.isSuccess = true) (parsed : response.parse = .ok body)
    (read : MSDeviceCode.readTokenSet body now = .ok renewed) :
    (MSTokenManager.refreshHeld settings connectionId force).run.Trace
      (events ++ renewal settings connectionId hash refreshToken response now renewed) (.done (.ok renewed.accessToken)) := by
  have answered : (Async.http (MSDeviceCode.refreshRequest settings refreshToken)).run.Trace
      [⟨.outside (.http (MSDeviceCode.refreshRequest settings refreshToken)), .ok response⟩] (.done (.ok response)) := .cons .nil
  have timed : (MSDeviceCode.parseTokenSet body).run.Trace [⟨.outside .now, now⟩] (.done (.ok renewed)) := by
    refine .cons ?_
    have same : (Async.ofExcept (MSDeviceCode.readTokenSet body now)).run.Trace [] (.done (.ok renewed)) := by
      rw [read]
      exact .nil
    exact same
  have refreshed : (MSDeviceCode.refreshToken settings token).run.Trace
      ([⟨.outside (.http (MSDeviceCode.refreshRequest settings refreshToken)), .ok response⟩] ++ [⟨.outside .now, now⟩])
      (.done (.ok renewed)) := by
    rw [MSDeviceCode.refreshToken, held]
    refine .andThen answered ?_
    rw [success, parsed]
    exact timed
  have stored : (TokenStore.store connectionId renewed).run.Trace
      [⟨.redis (.hset (TokenStore.key connectionId) (TokenStore.toMapping renewed)), ()⟩] (.done (.ok ())) := .cons .nil
  refine .andThen due (.andThen (TokenStore.load_trace decoded) (.andThen refreshed ?_))
  rw [← List.append_nil [_]]
  exact .andThen stored .nil

/-- The lock is lost once and then won. -/
theorem contended_trace {hash : List (String × String)} {token : TokenSet} {response : HttpResponse} {body : Json} {now : Int}
    {renewed : TokenSet} (owner : String) (intact : Bool) (decoded : TokenStore.decode hash = .ok (some token))
    (near : token.expiredOrNear settings.refreshBufferSeconds now = true) (held : token.refreshToken = some refreshToken)
    (success : response.isSuccess = true) (parsed : response.parse = .ok body)
    (read : MSDeviceCode.readTokenSet body now = .ok renewed) :
    (MSTokenManager.getToken settings connectionId false).run.Trace
      (contendedCall settings connectionId owner intact hash refreshToken response now renewed) (.done (.ok renewed.accessToken)) := by
  have cached : (MSTokenManager.cachedToken settings connectionId false).run.Trace (check connectionId hash now)
      (.done (.ok none)) := .andThen (TokenStore.load_trace decoded) (useless_trace near)
  have renews : (some <$> MSTokenManager.refreshHeld settings connectionId false).run.Trace _ _ :=
    .map (renewal_trace cached decoded held success parsed read)
  have won (attempts : Nat) : (MSTokenManager.refreshAttempts settings connectionId false (attempts + 1)).run.Trace
      ((admission connectionId owner ++ (check connectionId hash now ++
        renewal settings connectionId hash refreshToken response now renewed ++ release connectionId owner intact)) ++ [])
      (.done (.ok renewed.accessToken)) := .andThen (locked_trace owner intact renews) .nil
  have lost : (MSTokenManager.refreshAttempts settings connectionId false contentionRetries).run.Trace _ _ :=
    .andThen (refusal_trace owner rfl) (.andThen pause_trace (.andThen cached (won 3)))
  simp only [contendedCall, check, vainRound, List.append_assoc, List.append_nil] at lost ⊢
  exact .andThen (TokenStore.load_trace decoded) (.andThen (near_trace near) lost)

end Calls

section Samples
local instance contending : Library := .sample

/-- A token that is near its expiry from the start. -/
def dated : TokenSet := { accessToken := "a0", expiresAt := 0, refreshToken := some "r0" }

/-- The answer to its refresh, and the token in it. -/
def renewing : HttpResponse :=
  ⟨200, "", some (.obj [("access_token", .str "a1"), ("refresh_token", .str "r1"), ("expires_in", .num 2 0)])⟩

def undated : TokenSet := { accessToken := "a1", expiresAt := 2000000, refreshToken := some "r1" }

end Samples
end OpenClaw.Contention
