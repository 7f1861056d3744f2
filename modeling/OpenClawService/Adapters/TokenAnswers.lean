import OpenClawService.Adapters.Microsoft

/-! What the token endpoints are documented to answer, and that the service reads it. An
answer of another kind fails with an exception that nobody maps. -/
namespace OpenClaw
open Interleaving

/-- A clock that reads no year before 1970 or after 9000. -/
def Clocked (now : Int) : Prop := 0 ≤ now ∧ now ≤ 221845392000000000

/-- No documented lifetime leaves the calendar. -/
def Lasting (seconds : Int) : Prop := 0 ≤ seconds ∧ seconds ≤ 1000000000

theorem secondsAfter_lasting (clocked : Clocked now) (lasting : Lasting seconds) :
    secondsAfter now seconds = .ok (now + seconds * 1000000) := by
  obtain ⟨early, late⟩ := clocked
  obtain ⟨positive, bounded⟩ := lasting
  rw [secondsAfter, if_pos]
  simp only [representable, decide_eq_true_eq]
  omega

/-- The dictionary that Authlib returns: the texts, a lifetime, and the instant that Authlib
computes from it. -/
structure TokenDict (raw : Json) : Prop where
  accessToken : ∃ text, raw.getItem "access_token" = .ok (.str text)
  refreshToken : ∃ text, raw.get "refresh_token" .null = .ok (.ofText text)
  tokenType : ∃ text, raw.get "token_type" (.str "Bearer") = .ok (.str text)
  scope : ∃ text, raw.get "scope" .null = .ok (.ofText text)
  expiresAt : raw.get "expires_at" .null = .ok .null ∨
    ∃ seconds, raw.get "expires_at" .null = .ok (.num seconds 0) ∧ 0 ≤ seconds ∧ seconds ≤ 253402300799
  expiresIn : ∃ seconds, raw.get "expires_in" (.num 1800 0) = .ok (.num seconds 0) ∧ Lasting seconds

namespace TokenDict
variable {raw : Json}

theorem fromTimestamp_whole (early : 0 ≤ seconds) (late : seconds ≤ 253402300799) :
    fromTimestamp (.num seconds 0) = .ok (seconds * 1000000) := by
  have whole : roundHalfEven (seconds * 1000000) (10 ^ 0) = seconds * 1000000 := by simp [roundHalfEven]
  simp only [fromTimestamp, whole, calendar]
  rw [if_pos]
  simp only [representable, decide_eq_true_eq]
  omega

variable [Library]

theorem issued (dict : TokenDict raw) (tenant : Option String) (expiresAt : Int) :
    ∃ token, XeroOAuth.issuedTokenSet raw (.ofText tenant) expiresAt = .ok token := by
  obtain ⟨accessToken, access⟩ := dict.accessToken
  obtain ⟨refreshToken, refresh⟩ := dict.refreshToken
  obtain ⟨tokenType, type⟩ := dict.tokenType
  obtain ⟨scope, granted⟩ := dict.scope
  simp only [XeroOAuth.issuedTokenSet, access, refresh, type, granted, ok_bind, Json.asText, Json.asOptionalText_ofText]
  exact ⟨_, rfl⟩

/-- The clock is read where the answer gives no instant of its own. -/
theorem rawToTokenSet_meets {P : Protocol Op Op.Answer L} {tenant : Option String} {post : Except Exc TokenSet → L → Prop}
    (dict : TokenDict raw) (clock : P.admits l (.outside .now))
    (given : ∀ now token, XeroOAuth.readTokenSet raw (.ofText tenant) now = .ok token → post (.ok token) l)
    (timed : ∀ now, P.expects l (.outside .now) now → Clocked now ∧
      ∀ token, XeroOAuth.readTokenSet raw (.ofText tenant) now = .ok token → post (.ok token) (P.advance l (.outside .now) now)) :
    Meets P (XeroOAuth.rawToTokenSet raw (.ofText tenant)) l post := by
  rw [XeroOAuth.rawToTokenSet, Meets.bind_iff, Async.ofExcept_meets]
  rcases dict.expiresAt with absent | ⟨seconds, stamp, early, late⟩
  · obtain ⟨seconds, lifetime, lasting⟩ := dict.expiresIn
    have whole : Json.toInt (.num seconds 0) = .ok seconds := by simp [Json.toInt]
    rw [absent, Meets.andThen_ok, if_pos (show Json.null.isNone = true from rfl), Meets.bind_iff, Async.ofExcept_meets, lifetime,
      ok_bind, whole, Meets.andThen_ok, Meets.bind_iff, Async.outside_meets]
    refine ⟨clock, fun now expected => ?_⟩
    obtain ⟨clocked, kept⟩ := timed now expected
    obtain ⟨token, issued⟩ := dict.issued tenant (now + seconds * 1000000)
    have read : XeroOAuth.readTokenSet raw (.ofText tenant) now = .ok token := by
      simp only [XeroOAuth.readTokenSet, XeroOAuth.expiryOf, absent, lifetime, ok_bind, Json.isNone, if_true, whole,
        secondsAfter_lasting clocked lasting, issued]
    rw [Meets.andThen_ok, Async.ofExcept_meets, secondsAfter_lasting clocked lasting, ok_bind, issued]
    exact kept token read
  · obtain ⟨token, issued⟩ := dict.issued tenant (seconds * 1000000)
    have read : XeroOAuth.readTokenSet raw (.ofText tenant) 0 = .ok token := by
      simp only [XeroOAuth.readTokenSet, XeroOAuth.expiryOf, stamp, ok_bind, Json.isNone, Bool.false_eq_true, if_false,
        fromTimestamp_whole early late, issued]
    rw [stamp, Meets.andThen_ok, if_neg (show ¬ (Json.num seconds 0).isNone = true from Bool.false_ne_true), Async.ofExcept_meets,
      fromTimestamp_whole early late, ok_bind, issued]
    exact given 0 token read

end TokenDict

/-- The clock and the refresh endpoint of Xero answer as they are documented to. -/
def Outside.Regular : (call : Outside) → call.Answer → Prop
  | .now, instant => Clocked instant
  | .refreshToken .., .ok raw => TokenDict raw
  | _, _ => True

def Environment.Regular (env : Environment ι) : Prop := ∀ w i call answer, env.allows w i call answer → call.Regular answer

/-- The environment that does anything else. -/
def Environment.regular (ι : Type) : Environment ι := ⟨fun _ _ => Outside.Regular, fun _ _ => True, fun _ _ _ => True⟩

theorem Environment.regular_regular : (Environment.regular ι).Regular := fun _ _ _ _ => id

end OpenClaw
