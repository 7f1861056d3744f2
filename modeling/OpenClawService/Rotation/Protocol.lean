import OpenClawService.Adapters.TokenAnswers
import OpenClawService.Locking.Protocol

/-! The refresh protocol of one Xero connection on top of its lock: a refresh is
asked for only with the near-expired token that was loaded inside the lock, and
an accepted refresh is stored before the lock is released. -/
namespace OpenClaw.Rotation
open Interleaving
variable [Library]

/-- What a worker inside the lock has done so far. -/
inductive Stage where
  | away
  | entered
  | loaded (hash : List (String × String))
  | timed (hash : List (String × String)) (now : Int)
  | issued (raw : Json) (xeroTenantId : Option String)

/-- The provider has accepted a refresh that is not stored yet. -/
def Stage.Issuing : Stage → Prop
  | .issued .. => True
  | _ => False

/-- The hash that the worker read inside the lock and still relies on. -/
def Stage.hash : Stage → Option (List (String × String))
  | .loaded hash | .timed hash _ => some hash
  | _ => none

/-- The token set that an accepted refresh leads to. -/
def Issued (raw : Json) (xeroTenantId : Option String) (token : TokenSet) : Prop :=
  ∃ now, XeroOAuth.readTokenSet raw (.ofText xeroTenantId) now = .ok token

/-- The stored token allows a refresh with this refresh token. -/
def Renewable (settings : Settings) (refreshToken : String) (hash : List (String × String)) (now : Int) : Prop :=
  ∃ token, TokenStore.decode hash = .ok (some token) ∧ token.refreshToken = some refreshToken ∧
    token.expiredOrNear settings.refreshBufferSeconds now = true

/-- The tenant of a stored token, which a refresh carries over. -/
def tenantOf (hash : List (String × String)) : Option String :=
  match TokenStore.decode hash with
  | .ok (some token) => token.xeroTenantId
  | _ => none

variable (settings : Settings) (connectionId : String)

def admits (stage : Stage) : Op → Prop
  | .outside (.refreshToken _ _ refreshToken) =>
    ∃ hash now, stage = .timed hash now ∧ Renewable settings refreshToken hash now
  | .redis command =>
    (command.modifiesHash = some (TokenStore.key connectionId) →
      ∃ raw tenant token, stage = .issued raw tenant ∧ Issued raw tenant token ∧
        command = .hset (TokenStore.key connectionId) (TokenStore.toMapping token)) ∧
    (command = .watch (refreshLockKey connectionId) → ¬ stage.Issuing)
  | _ => True

def advance (stage : Stage) : (op : Op) → op.Answer → Stage
  | .redis (.setNx k _ _), acquired =>
    if k = refreshLockKey connectionId then if acquired = true then .entered else .away else stage
  | .redis (.watch k), _ => if k = refreshLockKey connectionId then .away else stage
  | .redis (.hgetall k), hash => match stage with
    | .entered | .loaded _ | .timed .. => if k = TokenStore.key connectionId then .loaded hash else stage
    | other => other
  | .redis (.hset k _), _ => match stage with
    | .issued .. => if k = TokenStore.key connectionId then .entered else stage
    | other => other
  | .outside .now, now => match stage with
    | .loaded hash => .timed hash now
    | other => other
  | .outside (.refreshToken ..), answer => match stage, answer with
    | .timed hash _, .ok raw => .issued raw (tenantOf hash)
    | .timed .., .error _ => .entered
    | other, _ => other
  | _, _ => stage

/-- An accepted refresh can be read. -/
def expects : (op : Op) → op.Answer → Prop
  | .outside call, answer => call.Regular answer
  | .redis _, _ => True

def stages : Protocol Op Op.Answer Stage :=
  ⟨admits settings connectionId, fun _ => expects, advance connectionId⟩

@[simp] theorem stages_admits : (stages settings connectionId).admits = admits settings connectionId := rfl

@[simp] theorem stages_advance : (stages settings connectionId).advance = advance connectionId := rfl

/-- The lock's protocol and the stages inside it, side by side. -/
def protocol : Protocol Op Op.Answer (OwnedLock.Point String × Stage) :=
  (Lock.protocol (refreshLockKey connectionId)).prod (stages settings connectionId)

end OpenClaw.Rotation
