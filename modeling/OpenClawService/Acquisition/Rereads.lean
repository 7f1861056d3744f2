import OpenClawService.Adapters.TokenAnswers

/-! One call for a valid Xero token, as far as its loads under the refresh lock go:
it ends as documented unless one of them finds that the token is gone. -/
namespace OpenClaw.Acquisition
open Interleaving

/-- The results that the managers document. -/
def Documented : Except Exc α → Prop
  | .ok _ | .error (.connectionMissingError _) | .error (.connectionExpiredError _) | .error (.lockTimeoutError _)
  | .error (.providerUnavailableError _) => True
  | .error _ => False

/-- The lock is held from a won attempt until its release begins; the token is
lost with a load under the lock that finds none. -/
structure Account where
  holding : Bool := false
  lost : Bool := false

/-- Only the lock and the token of the connection count. -/
def advance (connectionId : String) (a : Account) : (op : Op) → op.Answer → Account
  | .redis (.setNx k ..), acquired => if k = refreshLockKey connectionId then { a with holding := acquired } else a
  | .redis (.watch k), _ => if k = refreshLockKey connectionId then { a with holding := false } else a
  | .redis (.hgetall k), hash => if k = TokenStore.key connectionId then { a with lost := a.lost || a.holding && hash.isEmpty } else a
  | _, _ => a

/-- A lost token is asked for like a stored one. -/
def vanished : Exc := .attributeError "refresh_token"

/-- How a call may end. -/
structure Ends (result : Except Exc α) (a : Account) : Prop where
  lost : a.lost = true → result = .error vanished
  kept : a.lost = false → Documented result

variable [Library] {settings : Settings} {connectionId : String} {holding : Bool} {a : Account}

/-- Only tokens are stored. -/
def admits : Op → Prop
  | .redis (.hset k mapping) => ∃ connectionId token, k = TokenStore.key connectionId ∧ mapping = TokenStore.toMapping token
  | _ => True

/-- A token that is loaded can be read, and so can one that the refresh endpoint returns. -/
def expects : (op : Op) → op.Answer → Prop
  | .redis (.hgetall k), hash => ∀ connectionId, k = TokenStore.key connectionId → ∃ token, TokenStore.decode hash = .ok token
  | .outside call, answer => call.Regular answer
  | _, _ => True

def protocol (connectionId : String) : Protocol Op Op.Answer Account := ⟨fun _ => admits, fun _ => expects, advance connectionId⟩

@[simp] theorem protocol_admits : (protocol connectionId).admits a = admits := rfl

@[simp] theorem protocol_advance : (protocol connectionId).advance = advance connectionId := rfl

theorem load_meets (holding : Bool) : Meets (protocol connectionId) (TokenStore.load connectionId) ⟨holding, false⟩
    (fun result a => ∃ token, result = .ok token ∧ a = ⟨holding, holding && token.isNone⟩) := by
  rw [TokenStore.load_meets]
  refine ⟨trivial, fun hash readable => ?_⟩
  obtain ⟨token, decoded⟩ : ∃ token, TokenStore.decode hash = .ok token := readable connectionId rfl
  refine ⟨token, decoded, ?_⟩
  have absent : hash.isEmpty = token.isNone := by
    unfold TokenStore.decode at decoded
    split at decoded
    · rename_i empty
      cases decoded
      exact empty
    · rename_i filled
      obtain ⟨token', _, rfl⟩ := map_ok decoded
      simpa using filled
  simp only [protocol_advance, advance, if_true, absent, Bool.false_or]

theorem expired_meets (token : TokenSet) (bufferSeconds : Int) : Meets (protocol connectionId)
    (token.isExpiredOrNear bufferSeconds) a (fun result a' => (∃ near, result = .ok near) ∧ a' = a) := by
  rw [TokenSet.isExpiredOrNear_meets]
  exact ⟨trivial, fun now _ => ⟨⟨_, rfl⟩, rfl⟩⟩

/-- The refresh of a token that is there. -/
theorem refreshToken_meets (token : TokenSet) : Meets (protocol connectionId) (XeroOAuth.refreshToken settings (some token)) a
    (fun result a' => Documented result ∧ a' = a) := by
  unfold XeroOAuth.refreshToken
  cases present : token.refreshToken.bind orNone with
  | none =>
    simp only [present]
    exact ⟨trivial, rfl⟩
  | some refreshToken =>
    simp only [present, Meets.bind_iff, Async.outside_meets, Meets.andThen_ok, Async.raising_meets]
    refine ⟨trivial, fun answer expected => ?_⟩
    cases answer with
    | error text =>
      simp only [Except.mapError, Meets.andThen_error, XeroOAuth.refreshFailure]
      split <;> exact ⟨trivial, rfl⟩
    | ok raw =>
      have dict : TokenDict raw := expected
      simp only [Except.mapError, Meets.andThen_ok]
      apply dict.rawToTokenSet_meets trivial
      · exact fun now token _ => ⟨trivial, rfl⟩
      · exact fun now clocked => ⟨clocked, fun token _ => ⟨trivial, rfl⟩⟩

omit [Library] in
theorem Ends.documented {result : Except Exc α} (kept : a.lost = false) (documented : Documented result) : Ends result a :=
  ⟨fun lost => by simp [kept] at lost, fun _ => documented⟩

omit [Library] in
theorem Documented.raised {exc : Exc} (documented : Documented (.error exc : Except Exc α)) : Documented (.error exc : Except Exc β) := by
  cases exc <;> exact documented

theorem renew_meets (token : TokenSet) : Meets (protocol connectionId)
    (XeroTokenManager.refreshHeld.renew settings connectionId (some token)) ⟨true, false⟩
    (fun result a => Ends result a ∧ a.holding = true) := by
  unfold XeroTokenManager.refreshHeld.renew
  rw [Meets.bind_iff]
  apply (refreshToken_meets token).mono
  rintro (exc | newToken) a ⟨documented, rfl⟩
  · exact ⟨Ends.documented rfl documented.raised, rfl⟩
  · exact ⟨⟨connectionId, newToken, rfl, rfl⟩, fun _ _ => ⟨.documented rfl trivial, rfl⟩⟩

/-- The critical section: the loaded token is renewed even where there is none. -/
theorem held_meets : Meets (protocol connectionId) (XeroTokenManager.refreshHeld settings connectionId) ⟨true, false⟩
    (fun result a => Ends result a ∧ a.holding = true) := by
  unfold XeroTokenManager.refreshHeld
  rw [Meets.bind_iff]
  apply (load_meets true).mono
  rintro result a ⟨token, rfl, rfl⟩
  rw [Meets.andThen_ok]
  cases token with
  | none => exact ⟨⟨fun _ => rfl, nofun⟩, rfl⟩
  | some current =>
    simp only [Meets.bind_iff]
    apply (expired_meets current _).mono
    rintro result a ⟨⟨near, rfl⟩, rfl⟩
    rw [Meets.andThen_ok]
    cases near with
    | true => exact renew_meets current
    | false => exact ⟨.documented rfl trivial, rfl⟩

/-- The release keeps what the section has found out. -/
theorem aexit_meets (context : Lock.Context) (lost : Bool) : Meets (protocol connectionId)
    (Lock.aexit (refreshLockKey connectionId) context) ⟨context.acquired, lost⟩
    (fun result a => result = .ok () ∧ a = ⟨false, lost⟩) := by
  unfold Lock.aexit
  cases context.acquired with
  | false => exact ⟨rfl, rfl⟩
  | true =>
    simp only [if_true, Meets.bind_iff, Async.redis_meets, Meets.andThen_ok, protocol_advance, advance]
    refine ⟨trivial, fun _ _ => ⟨trivial, fun current _ => ?_⟩⟩
    split
    · simp only [Meets.bind_iff, Async.redis_meets, Meets.andThen_ok, Meets.pure_iff, protocol_advance, advance]
      exact ⟨trivial, fun _ _ => ⟨trivial, trivial⟩⟩
    · exact ⟨trivial, fun _ _ => ⟨rfl, rfl⟩⟩

/-- One attempt on the lock: it is in vain, or ends the call. -/
theorem attempt_meets : Meets (protocol connectionId)
    (Lock.acquire (refreshLockKey connectionId) lockTtlSeconds fun acquired =>
      if acquired then some <$> XeroTokenManager.refreshHeld settings connectionId else pure none) {}
    (fun result a => (result = .ok none ∧ a = {}) ∨ ∃ outcome, result = some <$> outcome ∧ Ends outcome a) := by
  unfold Lock.acquire Lock.aenter
  simp only [Meets.bind_iff, Async.outside_meets, Async.redis_meets, Meets.andThen_ok, Meets.pure_iff, Async.outcome_meets]
  refine ⟨trivial, fun ownerToken _ => ⟨trivial, fun acquired _ => ?_⟩⟩
  have released {result : Except Exc (Option TokenSet)} {a : Account} {post : Except Exc (Option TokenSet) → Account → Prop}
      (holding : a.holding = acquired) (ended : post result ⟨false, a.lost⟩) :
      Meets (protocol connectionId) (Lock.aexit (refreshLockKey connectionId) ⟨ownerToken, acquired⟩) a
        (Meets.andThen (protocol connectionId) (fun _ => Async.ofExcept result) post) := by
    obtain ⟨holding', lost⟩ := a
    cases holding
    apply (aexit_meets ⟨ownerToken, holding'⟩ lost).mono
    rintro _ _ ⟨rfl, rfl⟩
    exact ended
  have entered : (protocol connectionId).advance {} (.redis (.setNx (refreshLockKey connectionId) ownerToken lockTtlSeconds)) acquired =
      ⟨acquired, false⟩ := if_pos rfl
  cases acquired with
  | false =>
    rw [if_neg Bool.false_ne_true, Meets.pure_iff]
    apply released (congrArg Account.holding entered)
    exact Or.inl ⟨rfl, congrArg (fun a => (⟨false, a.lost⟩ : Account)) entered⟩
  | true =>
    rw [if_pos rfl, Meets.map_iff]
    refine (entered ▸ held_meets.mono ?_)
    rintro outcome a ⟨ends, holding⟩
    exact released holding (Or.inr ⟨outcome, rfl, ends.lost, ends.kept⟩)

theorem attempts_meets (attempts : Nat) : Meets (protocol connectionId)
    (XeroTokenManager.refreshAttempts settings connectionId attempts) {} Ends := by
  induction attempts with
  | zero => exact .documented rfl trivial
  | succ attempts ih =>
    unfold XeroTokenManager.refreshAttempts
    rw [Meets.bind_iff]
    apply attempt_meets.mono
    rintro result a (⟨rfl, rfl⟩ | ⟨outcome, rfl, ends⟩)
    · simp only [Meets.andThen_ok, Meets.bind_iff, Async.outside_meets]
      refine ⟨trivial, fun _ _ => ?_⟩
      apply (load_meets false).mono
      rintro result a ⟨token, rfl, rfl⟩
      rw [Meets.andThen_ok]
      cases token with
      | none => exact ih
      | some token =>
        simp only [XeroTokenManager.usable, Meets.bind_iff]
        apply (expired_meets token _).mono
        rintro result a ⟨⟨near, rfl⟩, rfl⟩
        rw [Meets.andThen_ok]
        cases near with
        | true => exact ih
        | false => exact .documented rfl trivial
    · cases outcome with
      | error exc => exact ends
      | ok token => exact ends

theorem getValidToken_meets :
    Meets (protocol connectionId) (XeroTokenManager.getValidToken settings connectionId) {} Ends := by
  unfold XeroTokenManager.getValidToken
  rw [Meets.bind_iff]
  apply (load_meets false).mono
  rintro result a ⟨token, rfl, rfl⟩
  rw [Meets.andThen_ok]
  cases token with
  | none => exact .documented rfl trivial
  | some token =>
    simp only [Meets.bind_iff]
    apply (expired_meets token _).mono
    rintro result a ⟨⟨near, rfl⟩, rfl⟩
    rw [Meets.andThen_ok]
    cases near with
    | true => exact attempts_meets _
    | false => exact .documented rfl trivial

end OpenClaw.Acquisition
