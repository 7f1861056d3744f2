import OpenClawService.Rotation.Programs

/-! What the log of a run tells about the refresh: which refresh tokens were
accepted, which token is current, and where each worker stands. -/
namespace OpenClaw.Rotation
open Interleaving
variable [Library] {ι : Type} [DecidableEq ι]

section Log

omit [DecidableEq ι]

/-- The refresh token of an answer, as the store keeps it. -/
def refreshOf (raw : Json) : Option String :=
  match raw.get "refresh_token" .null >>= Json.asOptionalText with
  | .ok refreshToken => refreshToken.bind orNone
  | .error _ => none

omit [Library] in
/-- Refresh tokens that the provider has accepted, the newest first. -/
def accepted : List (Entry ι) → List String
  | [] => []
  | .call _ (.outside (.refreshToken _ _ refreshToken)) (.ok _) :: rest => refreshToken :: accepted rest
  | _ :: rest => accepted rest

omit [Library] in
/-- What the provider issued last. -/
def lastIssue : List (Entry ι) → Option Json
  | [] => none
  | .call _ (.outside (.refreshToken ..)) (.ok raw) :: _ => some raw
  | _ :: rest => lastIssue rest

/-- The token is the last one issued, as the store keeps it, or still the initial one. -/
def Current (initial : TokenSet) (log : List (Entry ι)) (token : TokenSet) : Prop :=
  match lastIssue log with
  | none => token = initial
  | some raw => ∃ newToken, Issued raw initial.xeroTenantId newToken ∧ token = TokenStore.kept newToken

/-- The refresh token that the provider would accept next. -/
def currentRefresh (initial : TokenSet) (log : List (Entry ι)) : Option String :=
  match lastIssue log with
  | none => initial.refreshToken
  | some raw => refreshOf raw

theorem Current.refreshToken {log : List (Entry ι)} (current : Current initial log token) :
    token.refreshToken = currentRefresh initial log := by
  unfold Current currentRefresh at *
  cases issue : lastIssue log with
  | none =>
    simp only [issue] at current ⊢
    rw [current]
  | some raw =>
    simp only [issue] at current ⊢
    obtain ⟨newToken, ⟨now, read⟩, rfl⟩ := current
    rw [refreshOf, (XeroOAuth.readTokenSet_fields read).2.1]
    rfl

theorem Current.tenant {log : List (Entry ι)} (current : Current initial log token)
    (kept : initial.xeroTenantId.bind orNone = initial.xeroTenantId) :
    token.xeroTenantId = initial.xeroTenantId := by
  unfold Current at current
  cases issue : lastIssue log with
  | none =>
    simp only [issue] at current
    rw [current]
  | some raw =>
    simp only [issue] at current
    obtain ⟨newToken, ⟨now, read⟩, rfl⟩ := current
    have carried := (XeroOAuth.readTokenSet_fields read).2.2
    rw [Json.asOptionalText_ofText] at carried
    rw [TokenStore.kept, ← Except.ok.inj carried]
    exact kept

end Log

/-- Where the workers stand in the refresh protocol. -/
def stage (settings : Settings) (connectionId : String) (log : List (Entry ι)) : ι → Stage :=
  view (fun _ => stages settings connectionId) (fun _ => .away) log

section Stages
variable {settings : Settings} {connectionId : String}

theorem stage_own (i : ι) (op answer) (log : List (Entry ι)) :
    stage settings connectionId (.call i op answer :: log) i =
      advance connectionId (stage settings connectionId log i) op answer := view_own ..

theorem stage_other (other : j ≠ i) (op answer) (log : List (Entry ι)) :
    stage settings connectionId (.call i op answer :: log) j = stage settings connectionId log j :=
  view_other _ _ _ other ..

omit [DecidableEq ι] in
/-- Only the lock's own traffic takes a worker in or out of the stages. -/
theorem advance_away (quiet : ∀ k token ttl, op ≠ .redis (.setNx k token ttl)) (unwatched : ∀ k, op ≠ .redis (.watch k))
    (answer) : advance connectionId s op answer = .away ↔ s = .away := by
  cases op with
  | outside call =>
    cases call with
    | now => cases s <;> simp [advance]
    | refreshToken => cases s <;> cases answer <;> simp [advance]
    | _ => rfl
  | redis command =>
    cases command with
    | setNx k token ttl => exact (quiet k token ttl rfl).elim
    | watch k => exact (unwatched k rfl).elim
    | hgetall | hset =>
      cases s <;> simp only [advance] <;> first | rfl | (split <;> simp)
    | _ => rfl

omit [Library] in
theorem lock_inside (quiet : ∀ k token ttl, op ≠ .redis (.setNx k token ttl)) (unwatched : ∀ k, op ≠ .redis (.watch k))
    (answer) : Lock.advance key p op answer = .inside token ↔ p = .inside token := by
  cases op with
  | outside call => cases call <;> cases p <;> simp [Lock.advance]
  | redis command =>
    cases command with
    | setNx k token ttl => exact (quiet k token ttl rfl).elim
    | watch k => exact (unwatched k rfl).elim
    | _ => cases p <;> simp [Lock.advance]

theorem advance_inside (sync : s ≠ .away ↔ ∃ token, p = .inside token) (op : Op) (answer) :
    advance connectionId s op answer ≠ .away ↔
      ∃ token, Lock.advance (refreshLockKey connectionId) p op answer = .inside token := by
  by_cases lock : (∃ k token ttl, op = .redis (.setNx k token ttl)) ∨ ∃ k, op = .redis (.watch k)
  · rcases lock with ⟨k, token, ttl, rfl⟩ | ⟨k, rfl⟩
    · simp only [advance, Lock.advance]
      split
      · cases answer <;> simp
      · exact sync
    · simp only [advance]
      split <;> cases p <;> simp [Lock.advance, *]
  · simp only [not_or, not_exists] at lock
    rw [ne_eq, advance_away lock.1 lock.2]
    simp only [lock_inside lock.1 lock.2]
    exact sync

/-- A worker is at some stage exactly while it is inside the lock. -/
theorem stage_inside (log : List (Entry ι)) (i : ι) :
    stage settings connectionId log i ≠ .away ↔
      ∃ token, Lock.point (refreshLockKey connectionId) log i = .inside token := by
  induction log with
  | nil => simp [stage, Lock.point, view]
  | cons entry rest ih =>
    cases entry with
    | expired | invoice => exact ih
    | call j op answer =>
      rcases eq_or_ne i j with rfl | other
      · rw [stage, Lock.point, view_own, view_own]
        exact advance_inside ih op answer
      · rw [stage, Lock.point, view_other _ _ _ other, view_other _ _ _ other]
        exact ih

/-- A stage that neither accepts nor stores anything and reads the hash as it is. -/
structure Kept (now : List (String × String)) (before after : Stage) : Prop where
  issued : after = .issued raw tenant ↔ before = .issued raw tenant
  hash (hash : List (String × String)) : after.hash = some hash → before.hash = some hash ∨ hash = now

omit [Library] in
theorem Kept.refl (now : List (String × String)) (s : Stage) : Kept now s s := ⟨Iff.rfl, fun _ => Or.inl⟩

omit [Library] in
theorem Kept.away (now : List (String × String)) (idle : ¬ s.Issuing) : Kept now s .away where
  issued {raw tenant} := by
    constructor
    · simp
    · rintro rfl
      exact (idle trivial).elim
  hash _ found := by simp [Stage.hash] at found

theorem outside_kept {call : Outside} {answer : call.Answer} (now : List (String × String))
    (other : ∀ session url refreshToken, call ≠ .refreshToken session url refreshToken) :
    Kept now s (advance connectionId s (.outside call) answer) := by
  cases call with
  | now =>
    cases s with
    | loaded hash => exact ⟨by simp [advance], fun _ found => Or.inl found⟩
    | _ => exact .refl ..
  | refreshToken session url refreshToken => exact (other session url refreshToken rfl).elim
  | _ => exact .refl ..

theorem redis_kept {redis : Redis ι} {p : OwnedLock.Point String} {command : Command}
    (sync : s ≠ .away ↔ ∃ token, p = .inside token)
    (locked : Lock.admits (refreshLockKey connectionId) p (.redis command))
    (admitted : admits settings connectionId s (.redis command))
    (other : command.modifiesHash ≠ some (TokenStore.key connectionId)) (i : ι) :
    Kept (redis.hashes (TokenStore.key connectionId)) s
      (advance connectionId s (.redis command) (redis.exec i command).1) := by
  cases command with
  | setNx k token ttl =>
    simp only [advance]
    split
    · rename_i same
      have outside : s = .away := by
        by_contra present
        obtain ⟨inside, rfl⟩ := sync.mp present
        exact locked (congrArg some same)
      rw [outside]
      split <;> exact ⟨by simp, by simp [Stage.hash]⟩
    · exact .refl ..
  | watch k =>
    simp only [advance]
    split
    · rename_i same
      exact .away _ (admitted.2 (by rw [same]))
    · exact .refl ..
  | hgetall k =>
    cases s with
    | entered | loaded | timed =>
      simp only [advance]
      split
      · rename_i same
        exact ⟨by simp, fun hash found => Or.inr (by simpa [Stage.hash, Redis.exec, same] using found.symm)⟩
      · exact .refl ..
    | away | issued => exact .refl ..
  | hset k mapping =>
    cases s with
    | issued raw tenant =>
      have different : k ≠ TokenStore.key connectionId := fun same => other (congrArg some same)
      simp only [advance, if_neg different]
      exact .refl ..
    | _ => exact .refl ..
  | _ => exact .refl ..

end Stages

end OpenClaw.Rotation
