import OpenClawService.Contention.Steps

/-! The two token managers, each from its critical section outwards. -/
namespace OpenClaw.Contention
open Interleaving
variable [Library] {settings : Settings} {manager : Manager} {connectionId : String} {a : Account}

/-! Refreshing and storing. -/

/-- The refreshed token is stored while the lock is still held. -/
theorem store_meets {result : Except Exc TokenSet} (refreshed : Refreshed settings manager result a)
    (succeeded : result = .ok token) :
    Meets (protocol settings manager connectionId) (TokenStore.store connectionId token) a
      (fun result a' => result = .ok () ∧ true ∈ a'.attempts ∧ a'.written = some (TokenStore.toMapping token) ∧
        Renewed settings manager a' token) := by
  have renewed : Renewed settings manager a token := refreshed.renewed succeeded
  refine ⟨⟨rfl, refreshed.holding, refreshed.unwritten, token, renewed, rfl⟩, fun _ _ => ?_⟩
  simp only [protocol_advance, advance, if_true]
  exact ⟨rfl, refreshed.won, rfl, renewed⟩

theorem xero_refresh_meets (critical : Critical a) (licensed : Licensed settings .xero a) {current : Option TokenSet}
    (hand : ∀ token, current = some token → a.inHand = some token) :
    Meets (protocol settings .xero connectionId) (XeroOAuth.refreshToken settings current) a
      (Refreshed settings .xero) := by
  unfold XeroOAuth.refreshToken
  cases current with
  | none => exact critical.fails (by simp)
  | some current =>
    cases present : current.refreshToken.bind orNone with
    | none =>
      simp only [present]
      exact critical.fails (by simp)
    | some refreshToken =>
      obtain ⟨text, held, kept⟩ := Option.bind_eq_some_iff.mp present
      rw [orNone_eq_some kept] at held
      simp only [present, Meets.bind_iff, Async.outside_meets, Meets.andThen_ok, Async.raising_meets]
      refine ⟨⟨licensed, current, refreshToken, hand current rfl, held, rfl⟩, fun answer _ => ?_⟩
      cases answer with
      | error text =>
        simp only [Except.mapError, Meets.andThen_error, XeroOAuth.refreshFailure]
        split
        · exact ⟨critical.holding, critical.won, critical.unwritten, by simp, by simp [Calm]⟩
        · exact ⟨critical.holding, critical.won, critical.unwritten, by simp, by simp [Calm]⟩
      | ok raw =>
        have read (now : Int) : Refreshed settings .xero (XeroOAuth.readTokenSet raw (.ofText current.xeroTenantId) now)
            (a.renewed (.refreshToken settings.xero XeroOAuth.tokenUrl refreshToken) (.ok raw)) := by
          cases read : XeroOAuth.readTokenSet raw (.ofText current.xeroTenantId) now with
          | ok token => exact critical.renews (hand current rfl) ⟨held, now, read⟩
          | error exc =>
            have calm : Calm (.error exc : Except Exc TokenSet) := calm (read ▸ XeroOAuth.readTokenSet_internal)
            exact ⟨critical.holding, critical.won, critical.unwritten, by simp, calm⟩
        exact XeroOAuth.rawToTokenSet_meets trivial read fun now _ => (read now).timed now

theorem microsoft_refresh_meets {force : Bool} (critical : Critical a) (licensed : Licensed settings (.microsoft force) a)
    {current : TokenSet} (hand : a.inHand = some current) :
    Meets (protocol settings (.microsoft force) connectionId) (MSDeviceCode.refreshToken settings current) a
      (Refreshed settings (.microsoft force)) := by
  unfold MSDeviceCode.refreshToken
  cases held : current.refreshToken with
  | none => exact critical.fails (by simp)
  | some refreshToken =>
    rw [Meets.bind_iff, Async.http_meets]
    refine ⟨⟨licensed, current, refreshToken, hand, held, rfl⟩, fun answer _ => ?_⟩
    have fails {exc : Exc} (calm : ∀ text, exc ≠ .lockTimeoutError text) : Refreshed settings (.microsoft force) (.error exc)
        (a.renewed (.http (MSDeviceCode.refreshRequest settings refreshToken)) answer) :=
      ⟨critical.holding, critical.won, critical.unwritten, by simp, fun text same => calm text (Except.error.inj same)⟩
    cases answer with
    | error text => exact fails (by simp)
    | ok response =>
      simp only [Except.mapError, Meets.andThen_ok]
      by_cases success : response.isSuccess = true
      · simp only [success, Bool.not_true, Bool.false_eq_true, if_false, Meets.bind_iff, Async.ofExcept_meets]
        cases parsed : response.parse with
        | error exc => exact fails fun text same => HttpResponse.parse_internal.ne rfl (same ▸ parsed)
        | ok body =>
          simp only [Meets.andThen_ok, MSDeviceCode.parseTokenSet, Meets.bind_iff, Async.outside_meets, Async.ofExcept_meets]
          refine ⟨trivial, fun now _ => ?_⟩
          cases read : MSDeviceCode.readTokenSet body now with
          | error exc => exact (fails fun text same => MSDeviceCode.readTokenSet_internal.ne rfl (same ▸ read)).timed now
          | ok token =>
            have renewed : Refreshed settings (.microsoft force) (.ok token)
                (a.renewed (.http (MSDeviceCode.refreshRequest settings refreshToken)) (.ok response)) :=
              critical.renews hand ⟨refreshToken, body, now, held, rfl, success, parsed, read⟩
            exact renewed.timed now
      · simp only [success, Bool.not_false, if_true, Meets.bind_iff, Async.ofExcept_meets]
        cases parsed : response.parse with
        | error exc => exact fails fun text same => HttpResponse.parse_internal.ne rfl (same ▸ parsed)
        | ok body =>
          rw [Meets.andThen_ok, Meets.bind_iff, Async.ofExcept_meets]
          cases got : body.get "error" (.str "") with
          | error exc => exact fails fun text same => Json.get_internal.ne rfl (same ▸ got)
          | ok error =>
            refine fails fun text => ?_
            simp only [MSDeviceCode.refreshFailure, MSDeviceCode.unexpected]
            split
            · simp
            · split <;> simp

/-! The critical sections. -/

omit [Library] in
theorem Critical.loaded (critical : Critical a) (found : Except Exc (Option TokenSet)) : Critical (a.loaded found) :=
  ⟨critical.holding, critical.won, critical.first, critical.unwritten⟩

omit [Library] in
theorem loaded_inHand (holding : a.holding = true) (token : TokenSet) : (a.loaded (.ok (some token))).inHand = some token := by
  simp [Account.loaded, Account.inHand, holding]

omit [Library] in
/-- The exception of a load closes the section. -/
theorem Critical.closes {returned : α → Account → Prop} {exc : Exc} (critical : Critical a) (calm : ∀ text, exc ≠ .lockTimeoutError text) :
    Closed returned (.error exc) a :=
  ⟨critical.won, nofun, fun _ => critical.unwritten, fun text same => calm text (Except.error.inj same)⟩

/-- The exception of a refresh closes the section. -/
theorem Refreshed.closes {returned : α → Account → Prop} {exc : Exc} (refreshed : Refreshed settings manager (.error exc) a) :
    Closed returned (.error exc) a :=
  ⟨refreshed.won, nofun, fun _ => refreshed.unwritten, fun text same => refreshed.calm text (congrArg _ (Except.error.inj same))⟩

theorem xero_renew_meets (critical : Critical a) (licensed : Licensed settings .xero a) {current : Option TokenSet}
    (hand : ∀ token, current = some token → a.inHand = some token) :
    Meets (protocol settings .xero connectionId) (XeroTokenManager.refreshHeld.renew settings connectionId current) a
      (Closed (Returned settings .xero)) := by
  unfold XeroTokenManager.refreshHeld.renew
  rw [Meets.bind_iff]
  apply (xero_refresh_meets critical licensed hand).mono
  rintro (exc | token) a₁ refreshed
  · exact refreshed.closes
  · rw [Meets.andThen_ok, Meets.bind_iff]
    apply (store_meets refreshed rfl).mono
    rintro result a₂ ⟨rfl, won, renewed⟩
    refine ⟨won, ?_, nofun, nofun⟩
    rintro token ⟨⟩
    exact Or.inr renewed

theorem xero_held_meets (critical : Critical a) :
    Meets (protocol settings .xero connectionId) (XeroTokenManager.refreshHeld settings connectionId) a
      (Closed (Returned settings .xero)) := by
  unfold XeroTokenManager.refreshHeld
  rw [Meets.bind_iff]
  apply (load_meets critical.first).mono
  rintro result a₁ ⟨hash, decoded, rfl⟩
  cases result with
  | error exc => exact (critical.loaded _).closes fun text same => TokenStore.decode_internal.ne rfl (same ▸ decoded.symm)
  | ok found =>
    rw [Meets.andThen_ok]
    cases found with
    | none =>
      refine xero_renew_meets (critical.loaded _) ⟨critical.first, critical.holding, fun _ => ?_⟩ (by simp)
      exact ⟨_, List.mem_cons_self, critical.holding, rfl⟩
    | some token =>
      simp only [Meets.bind_iff]
      apply (expired_meets token _).mono
      rintro result a₂ ⟨now, rfl, rfl⟩
      rw [Meets.andThen_ok]
      have critical' := (critical.loaded (.ok (some token))).timed now
      have loads : ((a.loaded (.ok (some token))).timed now).loads =
          ⟨a.holding, a.waited, .ok (some token), some now⟩ :: a.loads := rfl
      split
      · rename_i near
        refine xero_renew_meets critical' ⟨critical'.first, critical'.holding, fun _ => ?_⟩ ?_
        · have member : (⟨a.holding, a.waited, .ok (some token), some now⟩ : Load) ∈
              ((a.loaded (.ok (some token))).timed now).loads := loads ▸ List.mem_cons_self
          exact ⟨_, member, critical.holding, near⟩
        · rintro token ⟨⟩
          rw [Account.timed_inHand, loaded_inHand critical.holding]
      · rename_i near
        refine ⟨critical'.won, ?_, by simp, by simp [Calm]⟩
        rintro token ⟨⟩
        exact Or.inl ⟨_, _, loads, rfl, now, rfl, by simpa using near⟩

/-- An access token that was returned for such a token. -/
def ReturnedText (settings : Settings) (manager : Manager) (text : String) (a : Account) : Prop :=
  ∃ token, Returned settings manager token a ∧ token.accessToken = text

/-- The access token of a token that was refreshed and written. -/
def RenewedText (settings : Settings) (manager : Manager) (text : String) (a : Account) : Prop :=
  ∃ token, a.written = some (TokenStore.toMapping token) ∧ Renewed settings manager a token ∧ token.accessToken = text

theorem RenewedText.returned (renewed : RenewedText settings manager text a) : ReturnedText settings manager text a := by
  obtain ⟨token, written, renewed, same⟩ := renewed
  exact ⟨token, Or.inr ⟨written, renewed⟩, same⟩

omit [Library] in
theorem Closed.mono {returned returned' : α → Account → Prop} {result : Except Exc α} (closed : Closed returned result a)
    (weaker : ∀ value, returned value a → returned' value a) : Closed returned' result a :=
  ⟨closed.won, fun succeeded => weaker _ (closed.returned succeeded), closed.unwritten, closed.calm⟩

omit [Library] in
theorem Ended.mono {returned returned' : α → Account → Prop} {result : Except Exc α} (ended : Ended settings manager returned result a)
    (weaker : ∀ value, returned value a → returned' value a) : Ended settings manager returned' result a :=
  ⟨fun succeeded => weaker _ (ended.returned succeeded), ended.unwritten, ended.timeout, ended.persists⟩

/-- From the second load on. -/
theorem microsoft_renew_meets {force : Bool} (critical : Critical a)
    (stale : force = false → ∃ load ∈ a.loads, load.inside = true ∧ load.stale settings.refreshBufferSeconds = true) :
    Meets (protocol settings (.microsoft force) connectionId) (do
        match ← TokenStore.load connectionId with
        | none => throw (MSTokenManager.missing connectionId)
        | some current => do
          let newToken ← MSDeviceCode.refreshToken settings current
          TokenStore.store connectionId newToken
          return newToken.accessToken) a
      (Closed (RenewedText settings (.microsoft force))) := by
  rw [Meets.bind_iff]
  apply (load_meets critical.first).mono
  rintro result a₁ ⟨hash, decoded, rfl⟩
  have critical' := critical.loaded result
  cases result with
  | error exc => exact critical'.closes fun text same => TokenStore.decode_internal.ne rfl (same ▸ decoded.symm)
  | ok found =>
    rw [Meets.andThen_ok]
    cases found with
    | none => exact critical'.closes (by simp [MSTokenManager.missing])
    | some current =>
      have licensed : Licensed settings (.microsoft force) (a.loaded (.ok (some current))) := by
        refine ⟨critical.first, critical.holding, fun unforced => ?_⟩
        obtain ⟨load, member, found⟩ := stale unforced
        exact ⟨load, List.mem_cons_of_mem _ member, found⟩
      simp only [Meets.bind_iff]
      apply (microsoft_refresh_meets critical' licensed (loaded_inHand critical.holding current)).mono
      rintro (exc | token) a₂ refreshed
      · exact refreshed.closes
      · rw [Meets.andThen_ok, Meets.bind_iff]
        apply (store_meets refreshed rfl).mono
        rintro result a₃ ⟨rfl, won, written, renewed⟩
        refine ⟨won, ?_, by simp, by simp [Calm]⟩
        rintro text ⟨⟩
        exact ⟨token, written, renewed, rfl⟩

/-- A forced call makes no check: what it returns is refreshed. -/
theorem microsoft_forced_meets (critical : Critical a) :
    Meets (protocol settings (.microsoft true) connectionId) (MSTokenManager.refreshHeld settings connectionId true) a
      (Closed (RenewedText settings (.microsoft true))) := by
  unfold MSTokenManager.refreshHeld MSTokenManager.cachedToken
  rw [if_pos rfl, Meets.bind_iff, Meets.pure_iff, Meets.andThen_ok]
  exact microsoft_renew_meets critical nofun

theorem microsoft_held_meets (critical : Critical a) :
    Meets (protocol settings (.microsoft false) connectionId) (MSTokenManager.refreshHeld settings connectionId false) a
      (Closed (ReturnedText settings (.microsoft false))) := by
  unfold MSTokenManager.refreshHeld MSTokenManager.cachedToken
  rw [if_neg Bool.false_ne_true, Meets.bind_iff]
  apply (check_meets critical.first).mono
  rintro result a₁ ⟨load, rfl, inside, _, checked⟩
  have critical' : Critical { a with loads := load :: a.loads } :=
    ⟨critical.holding, critical.won, critical.first, critical.unwritten⟩
  cases checked with
  | failed found calm => exact critical'.closes fun text same => calm text (same ▸ found)
  | stale stale =>
    rw [Meets.andThen_ok]
    refine (microsoft_renew_meets critical' fun _ => ?_).mono fun _ _ closed => closed.mono fun _ => RenewedText.returned
    exact ⟨load, List.mem_cons_self, inside.trans critical.holding, stale⟩
  | valid valid =>
    rw [Meets.andThen_ok]
    refine ⟨critical.won, ?_, nofun, nofun⟩
    rintro text ⟨⟩
    exact ⟨_, Or.inl ⟨load, _, rfl, valid⟩, rfl⟩

/-! The loop. -/

/-- After so many rounds in vain; a forced call has loaded nothing. -/
structure Waiting (settings : Settings) (manager : Manager) (rounds : Nat) (a : Account) : Prop where
  idle : a.holding = false
  first : a.renewals = []
  unwritten : a.written = none
  attempts : a.attempts = List.replicate rounds false
  length : manager.forced = false → a.loads.length = rounds + 1
  stale : ∀ load ∈ a.loads, load.stale settings.refreshBufferSeconds = true
  waited : ∀ load ∈ a.loads.dropLast, load.waited = true
  found : manager.forced = false → ∃ first token, a.loads.getLast? = some first ∧ first.found = .ok (some token)

omit [Library] in
theorem Waiting.exhausted (waiting : Waiting settings manager contentionRetries a) (unforced : manager.forced = false) :
    Exhausted settings a :=
  ⟨waiting.attempts, waiting.length unforced, waiting.stale, waiting.waited, waiting.found unforced⟩

omit [Library] in
/-- A load that has helped. -/
theorem unstarved {load : Load} (listed : load ∈ a.loads) (fresh : load.stale settings.refreshBufferSeconds = false) :
    ¬ Starving settings a := fun starving => by
  have stale := starving.stale load listed
  rw [fresh] at stale
  cases stale

omit [Library] in
/-- A call that ends otherwise, with a load that is not stale. -/
theorem ended_calm {returned : α → Account → Prop} {result : Except Exc α} (calm : Calm result)
    (unstarved : ¬ Starving settings a) (unwritten : a.written = none) (good : ∀ value, result = .ok value → returned value a) :
    Ended settings manager returned result a where
  returned := good _
  unwritten _ := unwritten
  timeout _ := ⟨fun ⟨text, same⟩ => (calm text same).elim, fun exhausted => (unstarved exhausted.starving).elim⟩
  persists _ starving := (unstarved starving).elim

/-- One attempt on the lock, in a round. -/
theorem round_meets {held : Async α} {go : Option α → Async α} {returned : α → Account → Prop}
    (waiting : Waiting settings manager rounds a) (exit : ∀ value, go (some value) = pure value)
    (stays : ∀ value a, returned value a → returned value a.released)
    (closes : ∀ a, Critical a → Meets (protocol settings manager connectionId) held a (Closed returned))
    (goes : Meets (protocol settings manager connectionId) (go none) (a.attempted false) (Ended settings manager returned)) :
    Meets (protocol settings manager connectionId) (do
        let refreshed ← Lock.acquire (refreshLockKey connectionId) lockTtlSeconds fun acquired =>
          if acquired then some <$> held else pure none
        go refreshed) a
      (Ended settings manager returned) := by
  rw [Meets.bind_iff]
  have critical : Critical (a.attempted true) := ⟨rfl, List.mem_cons_self, waiting.first, waiting.unwritten⟩
  have unwon : true ∉ a.attempts := by simp [waiting.attempts]
  apply acquire_meets (fun result a' => ∃ outcome, result = some <$> outcome ∧ Closed returned outcome a') waiting.idle unwon
  · rw [if_pos rfl, Meets.map_iff]
    exact (closes _ critical).mono fun outcome a' closed => ⟨outcome, rfl, closed⟩
  · rw [if_neg Bool.false_ne_true, Meets.pure_iff, Meets.andThen_ok]
    exact goes
  · rintro result a' ⟨outcome, rfl, closed⟩
    have ended : Ended settings manager returned outcome a'.released := closed.ended fun value => stays value a'
    cases outcome with
    | error exc => exact ended
    | ok value =>
      show Meets _ (go (some value)) _ _
      rw [exit value]
      exact ended

/-- The check that follows a wait ends the call, or leads to the next round. -/
theorem Waiting.checked {returned : α → Account → Prop} {exit : TokenSet → α} {go : Option TokenSet → Async α}
    {result : Except Exc (Option TokenSet)} {load : Load} (waiting : Waiting settings manager rounds a)
    (unforced : manager.forced = false) (waited : load.waited = true)
    (checked : Checked settings (a.attempted false).slept result load) (exits : ∀ token, go (some token) = pure (exit token))
    (valid : ∀ token a load rest, a.loads = load :: rest → load.Valid settings.refreshBufferSeconds token → returned (exit token) a)
    (goes : ∀ a, Waiting settings manager (rounds + 1) a →
      Meets (protocol settings manager connectionId) (go none) a (Ended settings manager returned)) :
    Meets.andThen (protocol settings manager connectionId) go (Ended settings manager returned) result
      { (a.attempted false).slept with loads := load :: a.loads } := by
  cases checked with
  | failed found calm =>
    have fresh : load.stale settings.refreshBufferSeconds = false := by simp [Load.stale, found]
    exact ended_calm (fun text same => calm text (found.trans (congrArg _ (Except.error.inj same))))
      (unstarved List.mem_cons_self fresh) waiting.unwritten (by simp)
  | valid found =>
    rw [Meets.andThen_ok, exits, Meets.pure_iff]
    refine ended_calm (fun _ same => by cases same) (unstarved List.mem_cons_self found.fresh) waiting.unwritten ?_
    rintro value ⟨⟩
    exact valid _ _ load _ rfl found
  | stale stale =>
    have length : a.loads.length = rounds + 1 := waiting.length unforced
    refine goes _ ⟨rfl, waiting.first, waiting.unwritten, ?_, ?_, ?_, ?_, ?_⟩
    · exact congrArg _ waiting.attempts
    · intro _
      simp [length]
    · exact List.forall_mem_cons.mpr ⟨stale, waiting.stale⟩
    · have nonempty : a.loads ≠ [] := by
        intro empty
        simp [empty] at length
      rw [List.dropLast_cons_of_ne_nil nonempty]
      exact List.forall_mem_cons.mpr ⟨waited, waiting.waited⟩
    · intro _
      obtain ⟨first, token, last, found⟩ := waiting.found unforced
      refine ⟨first, token, ?_, found⟩
      rw [List.getLast?_cons, last]
      rfl

theorem xero_attempts_meets (attempts : Nat) (waiting : Waiting settings .xero rounds a)
    (total : rounds + attempts = contentionRetries) :
    Meets (protocol settings .xero connectionId) (XeroTokenManager.refreshAttempts settings connectionId attempts) a
      (Ended settings .xero (Returned settings .xero)) := by
  induction attempts generalizing rounds a with
  | zero =>
    obtain rfl : rounds = contentionRetries := total
    exact ⟨nofun, fun _ => waiting.unwritten, fun _ => ⟨fun _ => waiting.exhausted rfl, fun _ => ⟨_, rfl⟩⟩, fun _ _ => waiting.exhausted rfl⟩
  | succ attempts ih =>
    unfold XeroTokenManager.refreshAttempts
    refine round_meets waiting (fun _ => rfl) (fun _ _ => id) (fun _ => xero_held_meets) ?_
    rw [Meets.bind_iff, Async.outside_meets]
    refine ⟨trivial, fun _ _ => ?_⟩
    rw [Meets.andThen_ok, Meets.bind_assoc, Meets.bind_iff]
    have first : (a.attempted false).slept.renewals = [] := waiting.first
    apply (check_meets first).mono
    rintro result a₁ ⟨load, rfl, _, waited, checked⟩
    refine waiting.checked rfl waited checked (fun _ => rfl) ?_ fun a waiting => ih waiting (by omega)
    exact fun token a load rest loads valid => Or.inl ⟨load, rest, loads, valid⟩

theorem forced_attempts_meets (attempts : Nat) (waiting : Waiting settings (.microsoft true) rounds a)
    (total : rounds + attempts = contentionRetries) :
    Meets (protocol settings (.microsoft true) connectionId)
      (MSTokenManager.refreshAttempts settings connectionId true attempts) a
      (Ended settings (.microsoft true) (RenewedText settings (.microsoft true))) := by
  induction attempts generalizing rounds a with
  | zero => exact ⟨nofun, fun _ => waiting.unwritten, nofun, nofun⟩
  | succ attempts ih =>
    unfold MSTokenManager.refreshAttempts
    refine round_meets waiting (fun _ => rfl) (fun _ _ => id) (fun _ => microsoft_forced_meets) ?_
    rw [Meets.bind_iff, Async.outside_meets]
    refine ⟨trivial, fun _ _ => ?_⟩
    rw [Meets.andThen_ok]
    have later : Waiting settings (.microsoft true) (rounds + 1) (a.attempted false).slept :=
      ⟨rfl, waiting.first, waiting.unwritten, congrArg _ waiting.attempts, nofun, waiting.stale, waiting.waited, nofun⟩
    exact ih later (by omega)

theorem microsoft_attempts_meets (attempts : Nat) (waiting : Waiting settings (.microsoft false) rounds a)
    (total : rounds + attempts = contentionRetries) :
    Meets (protocol settings (.microsoft false) connectionId)
      (MSTokenManager.refreshAttempts settings connectionId false attempts) a
      (Ended settings (.microsoft false) (ReturnedText settings (.microsoft false))) := by
  induction attempts generalizing rounds a with
  | zero =>
    obtain rfl : rounds = contentionRetries := total
    exact ⟨nofun, fun _ => waiting.unwritten, fun unforced => ⟨fun _ => waiting.exhausted unforced, fun _ => ⟨_, rfl⟩⟩, fun unforced _ => waiting.exhausted unforced⟩
  | succ attempts ih =>
    unfold MSTokenManager.refreshAttempts
    refine round_meets waiting (fun _ => rfl) (fun _ _ => id) (fun _ => microsoft_held_meets) ?_
    rw [Meets.bind_iff, Async.outside_meets]
    refine ⟨trivial, fun _ _ => ?_⟩
    rw [Meets.andThen_ok, MSTokenManager.cachedToken, if_neg Bool.false_ne_true, Meets.bind_iff]
    have first : (a.attempted false).slept.renewals = [] := waiting.first
    apply (check_meets first).mono
    rintro result a₁ ⟨load, rfl, _, waited, checked⟩
    refine waiting.checked rfl waited checked (fun _ => rfl) ?_ fun a waiting => ih waiting (by omega)
    exact fun token a load rest loads valid => ⟨token, Or.inl ⟨load, rest, loads, valid⟩, rfl⟩

/-! The calls. -/

omit [Library] in
/-- A first load that has found nothing. -/
theorem missing_ended {returned : α → Account → Prop} {exc : Exc} (calm : ∀ text, exc ≠ .lockTimeoutError text) :
    Ended settings manager returned (.error exc) (({} : Account).loaded (.ok none)) := by
  refine ended_calm (fun text same => calm text (Except.error.inj same)) (fun starving => ?_) rfl nofun
  obtain ⟨first, token, last, found⟩ := starving.first
  cases last
  cases found

/-- The first load, of a call that is not forced. -/
theorem first_meets {returned : α → Account → Prop} {go : Option TokenSet → Async α} {exit : TokenSet → α} {refreshes : Async α}
    (missing : Meets (protocol settings manager connectionId) (go none) (({} : Account).loaded (.ok none))
      (Ended settings manager returned))
    (found : ∀ token, go (some token) = (do
      if ← token.isExpiredOrNear settings.refreshBufferSeconds then refreshes else return exit token))
    (valid : ∀ token a load rest, a.loads = load :: rest → load.Valid settings.refreshBufferSeconds token → returned (exit token) a)
    (goes : ∀ a, Waiting settings manager 0 a →
      Meets (protocol settings manager connectionId) refreshes a (Ended settings manager returned)) :
    Meets (protocol settings manager connectionId) (do go (← TokenStore.load connectionId)) {}
      (Ended settings manager returned) := by
  rw [Meets.bind_iff]
  apply (load_meets rfl).mono
  rintro result a₁ ⟨hash, decoded, rfl⟩
  cases result with
  | error exc =>
    refine ended_calm (fun text same => ?_) (unstarved List.mem_cons_self rfl) rfl nofun
    exact TokenStore.decode_internal.ne rfl (decoded.symm.trans (congrArg _ (Except.error.inj same)))
  | ok loaded =>
    rw [Meets.andThen_ok]
    cases loaded with
    | none => exact missing
    | some token =>
      rw [found, Meets.bind_iff]
      apply (expired_meets token _).mono
      rintro result a₂ ⟨now, rfl, rfl⟩
      rw [Meets.andThen_ok]
      split
      · rename_i near
        refine goes _ ⟨rfl, rfl, rfl, rfl, fun _ => rfl, ?_, List.forall_mem_nil _, fun _ => ⟨_, token, rfl, rfl⟩⟩
        exact List.forall_mem_singleton.mpr near
      · rename_i near
        have found : Load.Valid settings.refreshBufferSeconds ⟨false, false, .ok (some token), some now⟩ token :=
          ⟨rfl, now, rfl, by simpa using near⟩
        refine ended_calm (fun _ same => by cases same) (unstarved List.mem_cons_self found.fresh) rfl ?_
        rintro value ⟨⟩
        exact valid token _ _ _ rfl found

theorem getValidToken_meets : Meets (protocol settings .xero connectionId)
    (XeroTokenManager.getValidToken settings connectionId) {} (Ended settings .xero (Returned settings .xero)) := by
  unfold XeroTokenManager.getValidToken
  refine first_meets ?_ (fun _ => rfl) ?_ fun a waiting => xero_attempts_meets _ waiting rfl
  · exact missing_ended (by simp)
  · exact fun token a load rest loads valid => Or.inl ⟨load, rest, loads, valid⟩

theorem forced_meets : Meets (protocol settings (.microsoft true) connectionId)
    (MSTokenManager.getToken settings connectionId true) {}
    (Ended settings (.microsoft true) (RenewedText settings (.microsoft true))) :=
  forced_attempts_meets _ ⟨rfl, rfl, rfl, rfl, nofun, List.forall_mem_nil _, List.forall_mem_nil _, nofun⟩ rfl

theorem getToken_meets {force : Bool} : Meets (protocol settings (.microsoft force) connectionId)
    (MSTokenManager.getToken settings connectionId force) {}
    (Ended settings (.microsoft force) (ReturnedText settings (.microsoft force))) := by
  cases force with
  | true => exact forced_meets.mono fun _ _ ended => ended.mono fun _ => RenewedText.returned
  | false =>
    unfold MSTokenManager.getToken
    rw [if_neg Bool.false_ne_true]
    refine first_meets ?_ (fun _ => rfl) ?_ fun a waiting => microsoft_attempts_meets _ waiting rfl
    · exact missing_ended (by simp [MSTokenManager.missing])
    · exact fun token a load rest loads valid => ⟨token, Or.inl ⟨load, rest, loads, valid⟩, rfl⟩

end OpenClaw.Contention
