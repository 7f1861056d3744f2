import OpenClawService.Adapters.Microsoft
import OpenClawService.Interleaving.Trace

/-! The contention loop of the two token managers, as an account of one call: its
lock attempts, its loads with the clock readings after them, its refreshes, and
what it has written. -/
namespace OpenClaw.Contention
open Interleaving

/-- The manager that is asked for a token; the Microsoft one may be forced to refresh. -/
inductive Manager where
  | xero
  | microsoft (force : Bool)

def Manager.forced : Manager → Bool
  | .xero => false
  | .microsoft force => force

/-- One load of the stored token, with the first reading of the clock after it. -/
structure Load where
  inside : Bool
  waited : Bool
  found : Except Exc (Option TokenSet)
  clock : Option Int := none

/-- The load found nothing, or a token that was near its expiry when it was checked. -/
def Load.stale (bufferSeconds : Int) (load : Load) : Bool :=
  match load.found, load.clock with
  | .ok none, _ => true
  | .ok (some token), some now => token.expiredOrNear bufferSeconds now
  | _, _ => false

/-- The load found the token, which was not near its expiry when it was checked. -/
def Load.Valid (bufferSeconds : Int) (load : Load) (token : TokenSet) : Prop :=
  load.found = .ok (some token) ∧ ∃ now, load.clock = some now ∧ token.expiredOrNear bufferSeconds now = false

theorem Load.Valid.fresh (valid : Load.Valid bufferSeconds load token) : load.stale bufferSeconds = false := by
  obtain ⟨found, now, clock, fresh⟩ := valid
  simpa only [Load.stale, found, clock] using fresh

/-- The newest attempt, load and refresh come first. The lock is held from a
won attempt until its release begins. -/
structure Account where
  holding : Bool := false
  waited : Bool := false
  attempts : List Bool := []
  loads : List Load := []
  renewals : List ((call : Outside) × call.Answer) := []
  written : Option (List (String × String)) := none

namespace Account

def attempted (a : Account) (acquired : Bool) : Account :=
  { a with holding := acquired, waited := false, attempts := acquired :: a.attempts }

def released (a : Account) : Account := { a with holding := false }

def slept (a : Account) : Account := { a with waited := true }

def loaded (a : Account) (found : Except Exc (Option TokenSet)) : Account :=
  { a with loads := ⟨a.holding, a.waited, found, none⟩ :: a.loads }

def timed (a : Account) (now : Int) : Account :=
  match a.loads with
  | ⟨inside, waited, found, none⟩ :: rest => { a with loads := ⟨inside, waited, found, some now⟩ :: rest }
  | _ => a

def renewed (a : Account) (call : Outside) (answer : call.Answer) : Account :=
  { a with renewals := ⟨call, answer⟩ :: a.renewals }

def stored (a : Account) (mapping : List (String × String)) : Account := { a with written := some mapping }

/-- The token that the latest load found, if it was made with the lock held. -/
def inHand (a : Account) : Option TokenSet :=
  match a.loads with
  | ⟨true, _, .ok (some token), _⟩ :: _ => some token
  | _ => none

end Account

section Protocol
variable [Library]

/-- Only the lock and the token of the connection count. -/
def advance (connectionId : String) (a : Account) : (op : Op) → op.Answer → Account
  | .redis (.setNx k ..), acquired => if k = refreshLockKey connectionId then a.attempted acquired else a
  | .redis (.watch k), _ => if k = refreshLockKey connectionId then a.released else a
  | .redis (.hgetall k), hash => if k = TokenStore.key connectionId then a.loaded (TokenStore.decode hash) else a
  | .redis (.hset k mapping), _ => if k = TokenStore.key connectionId then a.stored mapping else a
  | .outside (.sleep _), _ => a.slept
  | .outside .now, now => a.timed now
  | .outside (.http request), answer => a.renewed (.http request) answer
  | .outside (.refreshToken session url refreshToken), answer => a.renewed (.refreshToken session url refreshToken) answer
  | _, _ => a

/-- The call of the refresh client. -/
def Manager.refresh (settings : Settings) : Manager → (refreshToken : String) → Outside
  | .xero, refreshToken => .refreshToken settings.xero XeroOAuth.tokenUrl refreshToken
  | .microsoft _, refreshToken => .http (MSDeviceCode.refreshRequest settings refreshToken)

/-- The new token of a successful refresh of the one in hand. -/
def Manager.Renews (settings : Settings) : Manager → TokenSet → (call : Outside) × call.Answer → TokenSet → Prop
  | .xero, current, ⟨.refreshToken _ _ refreshToken, .ok raw⟩, token => current.refreshToken = some refreshToken ∧
      ∃ now, XeroOAuth.readTokenSet raw (.ofText current.xeroTenantId) now = .ok token
  | .microsoft _, current, ⟨.http request, .ok response⟩, token => ∃ refreshToken body now,
      current.refreshToken = some refreshToken ∧ request = MSDeviceCode.refreshRequest settings refreshToken ∧
      response.isSuccess = true ∧ response.parse = .ok body ∧ MSDeviceCode.readTokenSet body now = .ok token
  | _, _, _, _ => False

/-- The token is the one in hand after its only refresh. -/
def Renewed (settings : Settings) (manager : Manager) (a : Account) (token : TokenSet) : Prop :=
  ∃ current event, a.inHand = some current ∧ a.renewals = [event] ∧ manager.Renews settings current event token

/-- The lock is held, nothing has been refreshed, and a load under the lock has
found no usable token. -/
structure Licensed (settings : Settings) (manager : Manager) (a : Account) : Prop where
  first : a.renewals = []
  holding : a.holding = true
  stale : manager.forced = false → ∃ load ∈ a.loads, load.inside = true ∧ load.stale settings.refreshBufferSeconds = true

def admits (settings : Settings) (manager : Manager) (connectionId : String) (a : Account) : Op → Prop
  | .outside .now | .outside .uuid4 | .outside (.sleep _) | .redis .unwatch => True
  | .redis (.hgetall k) => k = TokenStore.key connectionId ∧ a.renewals = []
  | .redis (.setNx k _ ttl) => k = refreshLockKey connectionId ∧ ttl = lockTtlSeconds ∧ a.holding = false ∧ true ∉ a.attempts
  | .redis (.watch k) | .redis (.get k) | .redis (.execDel k) => k = refreshLockKey connectionId
  | .redis (.hset k mapping) => k = TokenStore.key connectionId ∧ a.holding = true ∧ a.written = none ∧
      ∃ token, Renewed settings manager a token ∧ mapping = TokenStore.toMapping token
  | .outside call => Licensed settings manager a ∧ ∃ current refreshToken, a.inHand = some current ∧
      current.refreshToken = some refreshToken ∧ call = manager.refresh settings refreshToken
  | _ => False

def protocol (settings : Settings) (manager : Manager) (connectionId : String) : Protocol Op Op.Answer Account :=
  ⟨admits settings manager connectionId, fun _ _ _ => True, advance connectionId⟩

variable {settings : Settings} {manager : Manager} {connectionId : String}

@[simp] theorem protocol_admits : (protocol settings manager connectionId).admits = admits settings manager connectionId := rfl

@[simp] theorem protocol_expects : (protocol settings manager connectionId).expects a op answer := trivial

@[simp] theorem protocol_advance : (protocol settings manager connectionId).advance = advance connectionId := rfl

/-- A returned token was loaded and not near its expiry, or it is the refreshed one and written. -/
def Returned (settings : Settings) (manager : Manager) (token : TokenSet) (a : Account) : Prop :=
  (∃ load rest, a.loads = load :: rest ∧ load.Valid settings.refreshBufferSeconds token) ∨
    (a.written = some (TokenStore.toMapping token) ∧ Renewed settings manager a token)

/-- The first load found a token near its expiry, all five attempts on the lock
failed, and each of the five loads after a wait found no usable token. -/
structure Exhausted (settings : Settings) (a : Account) : Prop where
  attempts : a.attempts = List.replicate contentionRetries false
  loads : a.loads.length = contentionRetries + 1
  stale : ∀ load ∈ a.loads, load.stale settings.refreshBufferSeconds = true
  waited : ∀ load ∈ a.loads.dropLast, load.waited = true
  first : ∃ first token, a.loads.getLast? = some first ∧ first.found = .ok (some token)

/-- The first load found a token, and neither an attempt on the lock nor a load has helped since. -/
structure Starving (settings : Settings) (a : Account) : Prop where
  unwon : true ∉ a.attempts
  stale : ∀ load ∈ a.loads, load.stale settings.refreshBufferSeconds = true
  first : ∃ first token, a.loads.getLast? = some first ∧ first.found = .ok (some token)

omit [Library] in
theorem Exhausted.starving (exhausted : Exhausted settings a) : Starving settings a :=
  ⟨by simp [exhausted.attempts], exhausted.stale, exhausted.first⟩

/-- How a call may end. Who starves goes on until all attempts are made. -/
structure Ended (settings : Settings) (manager : Manager) (returned : α → Account → Prop) (result : Except Exc α)
    (a : Account) : Prop where
  returned : result = .ok value → returned value a
  unwritten : result = .error exc → a.written = none
  timeout : manager.forced = false → ((∃ text, result = .error (.lockTimeoutError text)) ↔ Exhausted settings a)
  persists : manager.forced = false → Starving settings a → Exhausted settings a

end Protocol
end OpenClaw.Contention
