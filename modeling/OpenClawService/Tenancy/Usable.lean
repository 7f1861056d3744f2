import OpenClawService.Adapters.Xero
import OpenClawService.Interleaving.Trace
import OpenClawService.UseCases.OAuth

/-! A connection that is reported valid can be used, provided that every
authorization has found its tenant: a request needs one, the status asks for none. -/
namespace OpenClaw.Tenancy
open Interleaving

section Usable
variable [Library] {settings : Settings} {connectionId : String}

/-- One load of the stored token and one reading of the clock. -/
def instant (connectionId : String) (hash : List (String × String)) (now : Int) : List ((op : Op) × op.Answer) :=
  [⟨.redis (.hgetall (TokenStore.key connectionId)), hash⟩, ⟨.outside .now, now⟩]

/-- The status of the connection at that instant. -/
def Reports (settings : Settings) (connectionId : String) (hash : List (String × String)) (now : Int) (status : String) : Prop :=
  (GetConnectionStatus.execute settings connectionId).run.Trace (instant connectionId hash now) (.done (.ok ⟨status⟩))

/-- A request at that instant gets as far as being sent. -/
def Sends (settings : Settings) (connectionId : String) (call : XeroHttp.Call) (hash : List (String × String)) (now : Int) : Prop :=
  ∃ accessToken tenantId resume, (XeroHttp.request settings connectionId call).run.Trace (instant connectionId hash now)
    (.await (.outside (.http (call.request accessToken tenantId))) resume)

/-- Whenever the connection is reported valid, any request at the same instant is sent. -/
def Usable (settings : Settings) (connectionId : String) (hash : List (String × String)) : Prop :=
  ∀ now call, Reports settings connectionId hash now "valid" → Sends settings connectionId call hash now

theorem status_trace {hash : List (String × String)} (decoded : TokenStore.decode hash = .ok (some token)) :
    Reports settings connectionId hash now
      (if token.expiredOrNear settings.refreshBufferSeconds now then "expired" else "valid") := by
  refine Prog.Trace.andThen (TokenStore.load_trace decoded) (Prog.Trace.andThen (token.isExpiredOrNear_trace _ now) ?_)
  cases token.expiredOrNear settings.refreshBufferSeconds now <;> exact .nil

/-- Only a token that is not near its expiry is reported valid. -/
theorem reports_valid {hash : List (String × String)} (reports : Reports settings connectionId hash now "valid") :
    ∃ token, TokenStore.decode hash = .ok (some token) ∧ token.expiredOrNear settings.refreshBufferSeconds now = false := by
  unfold Reports GetConnectionStatus.execute at reports
  cases decoded : TokenStore.decode hash with
  | error exc => cases Prog.Trace.rest (Prog.Trace.raised _ (TokenStore.load_trace decoded)) reports
  | ok found =>
    cases found with
    | none => cases Prog.Trace.rest (Prog.Trace.andThen (TokenStore.load_trace decoded) .nil) reports
    | some token =>
      refine ⟨token, rfl, ?_⟩
      cases near : token.expiredOrNear settings.refreshBufferSeconds now with
      | false => rfl
      | true =>
        have same := Prog.Trace.unique reports (status_trace decoded)
        simp [near] at same

/-- A valid token is handed out at once. -/
theorem getValidToken_trace {hash : List (String × String)} (decoded : TokenStore.decode hash = .ok (some token))
    (fresh : token.expiredOrNear settings.refreshBufferSeconds now = false) :
    (XeroTokenManager.getValidToken settings connectionId).run.Trace (instant connectionId hash now) (.done (.ok token)) := by
  refine Prog.Trace.andThen (TokenStore.load_trace decoded) (Prog.Trace.andThen (token.isExpiredOrNear_trace _ now) ?_)
  rw [fresh]
  exact .nil

/-- A request with a valid token is sent exactly when the token has a tenant. -/
theorem sends_iff {call : XeroHttp.Call} {hash : List (String × String)} (decoded : TokenStore.decode hash = .ok (some token))
    (fresh : token.expiredOrNear settings.refreshBufferSeconds now = false) :
    Sends settings connectionId call hash now ↔ token.xeroTenantId.isSome = true := by
  have handed : (XeroTokenManager.getValidToken settings connectionId).run.Trace (instant connectionId hash now)
    (.done (.ok token)) := getValidToken_trace decoded fresh
  obtain ⟨accessToken, expiresAt, tokenType, refreshToken, scope, tenant⟩ := token
  cases tenant with
  | some tenantId =>
    have waiting : ∃ resume, (XeroHttp.attempt settings connectionId call true).run.Trace (instant connectionId hash now)
        (.await (.outside (.http (call.request accessToken tenantId))) resume) := ⟨_, Prog.Trace.andThen handed .nil⟩
    obtain ⟨resume, waiting⟩ := waiting
    obtain ⟨resume', sent⟩ := Prog.Trace.pending _ waiting
    exact ⟨fun _ => rfl, fun _ => ⟨_, _, resume', sent⟩⟩
  | none =>
    have refused : ∃ exc, (XeroHttp.attempt settings connectionId call true).run.Trace (instant connectionId hash now)
        (.done (.error exc)) := ⟨_, Prog.Trace.andThen handed .nil⟩
    obtain ⟨exc, refused⟩ := refused
    refine ⟨?_, nofun⟩
    rintro ⟨accessToken, tenantId, resume, sent⟩
    cases Prog.Trace.unique (Prog.Trace.raised _ refused) sent

/-- What makes a connection usable: the stored token, if there is one, has a tenant. -/
theorem usable_iff {hash : List (String × String)} : Usable settings connectionId hash ↔
    ∀ token, TokenStore.decode hash = .ok (some token) → token.xeroTenantId.isSome = true := by
  constructor
  · intro usable token decoded
    -- Every token is valid early enough.
    have fresh : token.expiredOrNear settings.refreshBufferSeconds
        (token.expiresAt - settings.refreshBufferSeconds * 1000000 - 1) = false := by
      simp only [TokenSet.expiredOrNear, decide_eq_false_iff_not]
      omega
    have valid : Reports settings connectionId hash (token.expiresAt - settings.refreshBufferSeconds * 1000000 - 1) _ :=
      status_trace decoded
    rw [fresh] at valid
    exact (sends_iff decoded fresh).mp (usable _ ⟨"GET", "", none, []⟩ valid)
  · intro tenanted now call valid
    obtain ⟨token, decoded, fresh⟩ := reports_valid valid
    exact (sends_iff decoded fresh).mpr (tenanted token decoded)

end Usable
end OpenClaw.Tenancy
