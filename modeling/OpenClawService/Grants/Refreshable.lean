import OpenClawService.Grants.History

/-! A Microsoft connection can be refreshed for as long as every answer to a
refresh carries a refresh token: the answer replaces the stored token whole. -/
namespace OpenClaw.Grants
open Interleaving

section Refreshable
variable [Library] {ι : Type} {settings : Settings} {connectionId : String} {force : ι → Bool} {log : List (Entry ι)}

/-- A token with a refresh token is stored. -/
def Refreshable (connectionId : String) (redis : Redis ι) : Prop :=
  ∃ token refreshToken, TokenStore.decode (redis.hashes (TokenStore.key connectionId)) = .ok (some token) ∧
    token.refreshToken = some refreshToken

/-- The refresh token that an answer carries. -/
def offered (body : Json) : Option String :=
  (body.get "refresh_token" .null >>= Json.asOptionalText).toOption.join.bind orNone

/-- The latest answer of the token endpoint to the worker. -/
def answered [DecidableEq ι] (i : ι) : List (Entry ι) → Option Json
  | [] => none
  | .call j (.outside (.http _)) answer :: rest => if j = i then answer.toOption.bind HttpResponse.json else answered i rest
  | _ :: rest => answered i rest

/-- After a refresh the stored token has the refresh token of the answer, or else the one before. -/
def RefreshKept (body : Json) (before after : TokenSet) : Prop :=
  after.refreshToken = (offered body).or before.refreshToken ∧ after.refreshToken.isSome = true

/-- Any number of calls for a Microsoft token, forced or not. -/
def calls (force : ι → Bool) (i : ι) : Job := .call (.microsoft (force i))

/-- The answer that is about to be stored carries a refresh token. -/
def Offering [DecidableEq ι] (c : ServiceConfig ι (Except Exc Unit)) : Option ι → Prop
  | some i => match c.pool i with
    | .await (.redis (.hset ..)) _ => ∃ body, answered i c.shared.log = some body ∧ (offered body).isSome = true
    | _ => True
  | none => True

/-- The new token has what the answer carries. -/
theorem offered_token {body : Json} (read : MSDeviceCode.readTokenSet body now = .ok token) :
    (TokenStore.kept token).refreshToken = offered body := by
  unfold MSDeviceCode.readTokenSet at read
  obtain ⟨expiresIn, _, read⟩ := bind_ok read
  obtain ⟨expiresAt, _, read⟩ := bind_ok read
  obtain ⟨accessToken, _, read⟩ := bind_ok read
  obtain ⟨tokenType, _, read⟩ := bind_ok read
  obtain ⟨refreshToken, carried, read⟩ := bind_ok read
  obtain ⟨scope, _, read⟩ := bind_ok read
  cases read
  simp [TokenStore.kept, offered, carried, Except.toOption]

variable [DecidableEq ι]

/-- The answer that a call has refreshed with is the latest one to it. -/
theorem answered_renewed {i : ι} {request : HttpRequest} {response : HttpResponse} {rest : List ((call : Outside) × call.Answer)}
    (calling : phase settings connectionId (calls force) log i = .calling a)
    (renewals : a.renewals = ⟨.http request, .ok response⟩ :: rest) : answered i log = response.json := by
  induction log generalizing a rest with
  | nil =>
    cases calling
    cases renewals
  | cons entry log ih =>
    cases entry with
    | expired | invoice => exact ih calling renewals
    | call j op answer =>
      rcases eq_or_ne j i with rfl | other
      · rw [phase_own] at calling
        obtain ⟨a', before, rfl⟩ := calling_advance calling
        cases op with
        | redis command => exact ih before (Contention.Account.redis_renewals.symm.trans renewals)
        | outside call =>
          cases call with
          | now => exact ih before (Contention.Account.timed_renewals.symm.trans renewals)
          | http request' =>
            cases renewals
            exact if_pos rfl
          | refreshToken => cases renewals
          | _ => exact ih before renewals
      · rw [phase_other other.symm] at calling
        have skipped : answered i (.call j op answer :: log) = answered i log := by
          cases op with
          | redis command => rfl
          | outside call =>
            cases call with
            | http => exact if_neg other
            | _ => rfl
        rw [skipped]
        exact ih calling renewals

/-- What a call is about to store, and the answer that it comes from. -/
theorem storing {i : ι} (redis : Redis ι) (admitted : admits settings connectionId (calls force i)
      (phase settings connectionId (calls force) log i) (.redis (.hset k mapping))) :
    ∃ body after, k = TokenStore.key connectionId ∧ answered i log = some body ∧ after.refreshToken = offered body ∧
      TokenStore.decode ((redis.exec i (.hset k mapping)).2.hashes (TokenStore.key connectionId)) = .ok (some after) := by
  have fits : Fits (calls force i) (phase settings connectionId (calls force) log i) := fits_phase log i
  rcases admits_hset admitted with ⟨a, manager, token, at_phase, job, rfl, ⟨current, event, _, one, renews⟩, rfl⟩ | ⟨at_phase, _⟩
  · cases job
    obtain ⟨call, answer⟩ := event
    cases call with
    | http request =>
      cases answer with
      | ok response =>
        obtain ⟨_, body, now, _, _, _, parsed, read⟩ := renews
        have carried : response.json = some body := by
          unfold HttpResponse.parse at parsed
          split at parsed <;> cases parsed
          assumption
        refine ⟨body, TokenStore.kept token, rfl, (answered_renewed at_phase one).trans carried, offered_token read, ?_⟩
        have written : (redis.exec i (.hset (TokenStore.key connectionId) (TokenStore.toMapping token))).2.hashes
            (TokenStore.key connectionId) = Redis.merge (redis.hashes (TokenStore.key connectionId)) (TokenStore.toMapping token) :=
          Function.update_self ..
        rw [written, TokenStore.decode_merge]
      | error => cases renews
    | _ => cases renews
  · rw [at_phase] at fits
    cases fits

/-- A call deletes nothing and stores only under its own connection. -/
theorem unstoring {i : ι} (redis : Redis ι) {command : Command} (admitted : admits settings connectionId (calls force i)
      (phase settings connectionId (calls force) log i) (.redis command)) (other : ∀ k mapping, command ≠ .hset k mapping) :
    (redis.exec i command).2.hashes (TokenStore.key connectionId) = redis.hashes (TokenStore.key connectionId) := by
  refine redis.exec_hashes i fun modifies => ?_
  cases command with
  | hset k mapping => exact other k mapping rfl
  | delHash k =>
    have fits : Fits (calls force i) (phase settings connectionId (calls force) log i) := fits_phase log i
    rw [(admits_delHash admitted).1] at fits
    cases fits
  | _ => cases modifies

/-- In every run that keeps to the condition the connection stays refreshable, and
any store that is about to happen keeps the refresh token exactly under the condition. -/
theorem refresh_kept {env : Environment ι} {redis : Redis ι} {c : ServiceConfig ι (Except Exc Unit)}
    (refreshable : Refreshable connectionId redis)
    (run : Run (system env) Offering ⟨⟨redis, []⟩, traffic settings connectionId (calls force)⟩ c) :
    Refreshable connectionId c.shared.redis ∧
      ∀ i k mapping resume, c.pool i = .await (.redis (.hset k mapping)) resume → ∃ body before after,
        answered i c.shared.log = some body ∧
        TokenStore.decode (c.shared.redis.hashes (TokenStore.key connectionId)) = .ok (some before) ∧
        TokenStore.decode ((c.shared.redis.exec i (.hset k mapping)).2.hashes (TokenStore.key connectionId)) = .ok (some after) ∧
        (RefreshKept body before after ↔ Offering c (some i)) := by
  have reached : Refreshable connectionId c.shared.redis ∧ Conformant settings connectionId (calls force) c := by
    apply Conforming.run (I := fun w => Refreshable connectionId w.redis) (tracks env _ _) ?_ ?_ run refreshable
      (conformant_start redis)
    · intro c i op resume answer w stored _ offering pending admitted served
      refine ⟨trivial, ?_⟩
      cases served with
      | outside => exact stored
      | redis command =>
        by_cases stores : ∃ k mapping, command = .hset k mapping
        · obtain ⟨k, mapping, rfl⟩ := stores
          simp only [Offering, pending] at offering
          obtain ⟨body, seen, carried⟩ := offering
          obtain ⟨body', after, rfl, answer, carries, decoded⟩ := storing c.shared.redis admitted
          obtain rfl := Option.some.inj (seen.symm.trans answer)
          obtain ⟨refreshToken, same⟩ := Option.isSome_iff_exists.mp carried
          exact ⟨after, refreshToken, decoded, carries.trans same⟩
        · simp only [not_exists] at stores
          obtain ⟨token, refreshToken, decoded, kept⟩ := stored
          exact ⟨token, refreshToken, by rw [unstoring c.shared.redis admitted stores]; exact decoded, kept⟩
    · intro c w stored _ drifted
      cases drifted with
      | expire | invoice => exact stored
  obtain ⟨stored, conforming⟩ := reached
  refine ⟨stored, fun i k mapping resume pending => ?_⟩
  obtain ⟨before, refreshToken, decoded, present⟩ := stored
  obtain ⟨body, after, _, answer, carries, decoded'⟩ := storing c.shared.redis (conforming.admitted pending)
  refine ⟨body, before, after, answer, decoded, decoded', ?_⟩
  simp only [Offering, pending, answer, Option.some.injEq, RefreshKept, carries, present]
  cases carried : offered body with
  | none => simp [carried]
  | some text => simp [carried]

end Refreshable

section Runs
local instance sampled : Library := .sample

def renewable : TokenSet := { accessToken := "a0", expiresAt := 0, refreshToken := some "r0" }

/-- One call, not forced. -/
def expiring : ServiceConfig Unit (Except Exc Unit) :=
  ⟨⟨{ Redis.empty with hashes := fun _ => TokenStore.toMapping renewable }, []⟩, traffic .sample "acme" (calls fun _ => false)⟩

theorem expiring_refreshable : Refreshable "acme" expiring.shared.redis := ⟨renewable, "r0", rfl, rfl⟩

/-- Azure answers with an access token and, perhaps, a refresh token. -/
def grants (refreshToken : List (String × Json)) : (call : Outside) → call.Answer
  | .http _ => .ok ⟨200, "", some (.obj ([("access_token", .str "a1"), ("expires_in", .num 1 0)] ++ refreshToken))⟩
  | call => call.silence

/-- The call loads the token, takes the lock, loads it twice more and has it refreshed. -/
def answering (refreshToken : List (String × Json)) : List (Move Unit) :=
  [.redis (), .outside () Outside.silence, .outside () Outside.silence, .redis (), .redis (), .outside () Outside.silence,
    .redis (), .outside () (grants refreshToken), .outside () Outside.silence, .redis ()]

theorem refresh_kept_rotated :
    Refreshable "acme" ((answering [("refresh_token", .str "r1")]).foldl play expiring).shared.redis := by
  have legal : LegalAlong (.free Unit) Offering expiring (answering [("refresh_token", .str "r1")]) :=
    ⟨trivial, ⟨trivial, trivial⟩, ⟨trivial, trivial⟩, trivial, trivial, ⟨trivial, trivial⟩, trivial, ⟨trivial, trivial⟩,
      ⟨trivial, trivial⟩, ⟨_, rfl, rfl⟩, trivial⟩
  exact (refresh_kept expiring_refreshable (plays_run legal)).1

/-- Azure keeps the refresh token valid and does not repeat it: it is lost. -/
theorem refresh_token_lost : Refreshable "acme" expiring.shared.redis ∧ ∃ c, Reaches (system (.free Unit)) expiring c ∧
    ¬ Refreshable "acme" c.shared.redis := by
  refine ⟨expiring_refreshable, (answering []).foldl play expiring, plays_run (free_legal ..), ?_⟩
  rintro ⟨token, refreshToken, decoded, kept⟩
  cases decoded
  cases kept

end Runs
end OpenClaw.Grants
