import OpenClawService.Connection.Keeper

/-! One request of the Xero HTTP client, seen from any protocol: two passes at
most, the second of them after a first answer of 401 and the deletion of the token. -/
namespace OpenClaw.Connection
open Interleaving
variable [Library] {L : Type}

/-- What the answer of the API leads to: on the first pass a 401 deletes the token and goes on. -/
def Settles (P : Protocol Op Op.Answer L) (connectionId : String) (first : Bool) (again : L → Prop)
    (final : Except Exc Json → L → Prop) (l : L) : Except String HttpResponse → Prop
  | .error text => final (.error (.transport text)) l
  | .ok response =>
    if response.statusCode = 401 ∧ first = true then
      P.admits l (.redis (.delHash (TokenStore.key connectionId))) ∧
        ∀ reply, P.expects l (.redis (.delHash (TokenStore.key connectionId))) reply →
          again (P.advance l (.redis (.delHash (TokenStore.key connectionId))) reply)
    else if response.isSuccess then final response.parse l
    else ∀ text, final (.error (.providerUnavailableError text)) l

/-- The rules of one pass. -/
structure Pass (P : Protocol Op Op.Answer L) (settings : Settings) (connectionId : String) (call : XeroHttp.Call)
    (first : Bool) (s : Stance L) (again : L → Prop) (final : Except Exc Json → L → Prop) : Prop where
  keeper : Keeper P settings connectionId s
  ask : s.inside l → s.trusted l token → token.xeroTenantId = some tenantId →
    P.admits l (.outside (.http (call.request token.accessToken tenantId))) ∧
    ∀ answer, P.expects l (.outside (.http (call.request token.accessToken tenantId))) answer →
      Settles P connectionId first again final
        (P.advance l (.outside (.http (call.request token.accessToken tenantId))) answer) answer
  tenantless : s.inside l → s.trusted l token → token.xeroTenantId = none →
    ∀ text, final (.error (.providerUnavailableError text)) l
  raised : s.inside l → (∀ text, exc = .providerUnavailableError text → s.failing l) → final (.error exc) l

variable {P : Protocol Op Op.Answer L} {settings : Settings} {connectionId : String} {call : XeroHttp.Call}
  {s retry : Stance L} {l : L} {final : Except Exc Json → L → Prop} {again : L → Prop}

omit [Library] in
/-- A pass ends the request, or goes on to the next one after its first 401. -/
def Passed (first : Bool) (again : L → Prop) (final : Except Exc Json → L → Prop) (result : Except Exc (Option Json))
    (l : L) : Prop :=
  (result = .ok none ∧ first = true ∧ again l) ∨ ∃ outcome, result = some <$> outcome ∧ final outcome l

theorem attempt_meets (pass : Pass P settings connectionId call first s again final) (inside : s.inside l) :
    Meets P (XeroHttp.attempt settings connectionId call first) l (Passed first again final) := by
  unfold XeroHttp.attempt
  rw [Meets.bind_iff]
  apply (pass.keeper.getValidToken_meets inside).mono
  rintro (exc | token) l₁ yields
  · refine Or.inr ⟨.error exc, rfl, pass.raised yields.keeps.inside ?_⟩
    rintro text rfl
    exact yields.2
  obtain ⟨kept, trusted⟩ := yields
  rw [Meets.andThen_ok]
  cases tenant : token.xeroTenantId with
  | none => exact Or.inr ⟨.error _, rfl, pass.tenantless kept.inside trusted tenant _⟩
  | some tenantId =>
    obtain ⟨admitted, answered⟩ := pass.ask kept.inside trusted tenant
    rw [Meets.bind_iff, Async.http_meets]
    refine ⟨admitted, fun answer expected => ?_⟩
    have settles := answered answer expected
    cases answer with
    | error text => exact Or.inr ⟨.error _, rfl, settles⟩
    | ok response =>
      simp only [Except.mapError, Meets.andThen_ok]
      simp only [Settles] at settles
      by_cases unauthorized : response.statusCode = 401 ∧ first = true
      · rw [if_pos unauthorized] at settles ⊢
        simp only [TokenStore.delete, Meets.bind_iff, Async.redis_meets, Meets.andThen_ok, Meets.pure_iff]
        exact ⟨settles.1, fun reply expected => Or.inl ⟨rfl, unauthorized.2, settles.2 reply expected⟩⟩
      · rw [if_neg unauthorized] at settles ⊢
        by_cases success : response.isSuccess = true
        · simp only [success, if_true] at settles
          simp only [success, Bool.not_true, Bool.false_eq_true, if_false, Meets.map_iff, Async.ofExcept_meets]
          exact Or.inr ⟨_, rfl, settles⟩
        · simp only [success] at settles ⊢
          exact Or.inr ⟨.error _, rfl, settles _⟩

/-- The whole request, by the rules of its two passes. -/
theorem request_meets (first : Pass P settings connectionId call true s retry.inside final)
    (second : Pass P settings connectionId call false retry again final) (inside : s.inside l) :
    Meets P (XeroHttp.request settings connectionId call) l final := by
  unfold XeroHttp.request
  rw [Meets.bind_iff]
  apply (attempt_meets first inside).mono
  rintro result l₁ (⟨rfl, _, retried⟩ | ⟨outcome, rfl, ended⟩)
  · rw [Meets.andThen_ok, Meets.bind_iff]
    apply (attempt_meets second retried).mono
    rintro result l₂ (⟨_, absurd, _⟩ | ⟨outcome, rfl, ended⟩)
    · cases absurd
    · cases outcome with
      | ok body => exact ended
      | error exc => exact ended
  · cases outcome with
    | ok body => exact ended
    | error exc => exact ended

end OpenClaw.Connection
