import OpenClawService.Connection.Outward
import OpenClawService.Contention.Programs
import OpenClawService.UseCases.OAuth

/-! The writers of one stored token: calls for a token that refresh it,
authorizations that replace it and revocations that delete it. Only the calls
take the refresh lock. -/
namespace OpenClaw.Grants
open Interleaving

inductive Job where
  | call (manager : Contention.Manager)
  | callback (code state : String)
  | poll (deviceCode : String)
  | revokeXero
  | revokeMicrosoft

def Job.authorizes : Job → Bool
  | .callback .. | .poll _ => true
  | _ => false

def Job.revokes : Job → Bool
  | .revokeXero | .revokeMicrosoft => true
  | _ => false

/-- Where a job stands. A call keeps its account. -/
inductive Phase where
  | calling (account : Contention.Account)
  | authorizing
  | revoking
  | revoked

def Job.start : Job → Phase
  | .call _ => .calling {}
  | .callback .. | .poll _ => .authorizing
  | .revokeXero | .revokeMicrosoft => .revoking

variable [Library] {settings : Settings} {connectionId : String}

/-- Any of the jobs; a callback works on the connection that its state was saved for. -/
def Job.run (settings : Settings) (connectionId : String) : Job → Async Unit
  | .call .xero => (fun _ => ()) <$> XeroTokenManager.getValidToken settings connectionId
  | .call (.microsoft force) => (fun _ => ()) <$> MSTokenManager.getToken settings connectionId force
  | .callback code state => (fun _ => ()) <$> HandleXeroOAuthCallback.execute settings code state
  | .poll deviceCode => (fun _ => ()) <$> PollMSDeviceCodeFlow.execute settings connectionId deviceCode
  | .revokeXero => RevokeConnection.execute (some (XeroOAuth.revokeToken settings)) connectionId
  | .revokeMicrosoft => RevokeConnection.execute none connectionId

def advance (connectionId : String) : Phase → (op : Op) → op.Answer → Phase
  | .calling account, op, answer => .calling (Contention.advance connectionId account op answer)
  | .revoking, .redis (.delHash _), _ => .revoked
  | phase, _, _ => phase

/-- An authorization writes whole tokens and deletes none. -/
def Authorizes : Op → Prop
  | .redis (.hset k mapping) => ∃ connectionId token, k = TokenStore.key connectionId ∧ mapping = TokenStore.toMapping token
  | .redis (.delHash _) => False
  | _ => True

def Revokes (connectionId : String) : Op → Prop
  | .redis (.hset ..) => False
  | .redis (.delHash k) => k = TokenStore.key connectionId
  | _ => True

def admits (settings : Settings) (connectionId : String) : Job → Phase → Op → Prop
  | .call manager, .calling account, op => Contention.admits settings manager connectionId account op
  | _, .authorizing, op => Authorizes op
  | _, .revoking, op => Revokes connectionId op
  | _, _, _ => False

def protocol (settings : Settings) (connectionId : String) (job : Job) : Protocol Op Op.Answer Phase :=
  ⟨admits settings connectionId job, fun _ _ _ => True, advance connectionId⟩

@[simp] theorem protocol_admits : (protocol settings connectionId job).admits = admits settings connectionId job := rfl

@[simp] theorem protocol_expects : (protocol settings connectionId job).expects l op answer := trivial

@[simp] theorem protocol_advance : (protocol settings connectionId job).advance = advance connectionId := rfl

/-- A revocation ends well exactly when it has deleted the token. -/
def Ended (job : Job) (result : Except Exc Unit) (phase : Phase) : Prop :=
  job.revokes = true → (result = .ok () ↔ phase = .revoked)

/-- A call keeps its account here as it does alone. -/
theorem call_meets {manager : Contention.Manager} {program : Async α} {post : Except Exc α → Contention.Account → Prop}
    (meets : Meets (Contention.protocol settings manager connectionId) program {} post) :
    Meets (protocol settings connectionId (.call manager)) program (.calling {}) (fun _ _ => True) := by
  have ends : Meets (Contention.protocol settings manager connectionId) program {} (fun _ _ => True) :=
    meets.mono fun _ _ _ => trivial
  refine Conforms.map Phase.calling ?_ ?_ ?_ ends
  · exact fun _ _ admitted => admitted
  · exact fun _ _ _ _ => trivial
  · exact fun _ _ _ _ => rfl

open Meets (Stays)

section Authorizations
variable {job : Job} (authorizes : job.authorizes = true)
include authorizes

theorem redis_stays {command : Command} (free : Authorizes (.redis command)) :
    Stays (protocol settings connectionId job) .authorizing (Async.redis command) := by
  refine ⟨?_, fun _ _ => rfl⟩
  cases job with
  | call | revokeXero | revokeMicrosoft => cases authorizes
  | callback | poll => exact free

theorem authorizing_outward : Connection.Outward (protocol settings connectionId job) .authorizing := by
  refine fun call => ⟨?_, fun _ _ => rfl⟩
  cases job with
  | call | revokeXero | revokeMicrosoft => cases authorizes
  | callback | poll => trivial

theorem store_stays (target : String) (token : TokenSet) :
    Stays (protocol settings connectionId job) .authorizing (TokenStore.store target token) :=
  redis_stays authorizes ⟨target, token, rfl, rfl⟩

theorem pop_stays (state : String) : Stays (protocol settings connectionId job) .authorizing (OAuthStateStore.pop state) := by
  refine .bind (redis_stays authorizes trivial) fun _ => .bind (redis_stays authorizes trivial) fun value => ?_
  cases value with
  | none => exact .bind (redis_stays authorizes trivial) fun _ => rfl
  | some connectionId =>
    refine .bind (redis_stays authorizes trivial) fun deleted => ?_
    cases deleted <;> rfl

theorem callback_stays (code state : String) :
    Stays (protocol settings connectionId job) .authorizing (HandleXeroOAuthCallback.execute settings code state) := by
  refine .bind (pop_stays authorizes state) fun popped => ?_
  cases popped with
  | none => rfl
  | some target =>
    refine .bind ((authorizing_outward authorizes).exchangeCode code) fun token => ?_
    exact .bind (store_stays authorizes target token) fun _ => rfl

theorem poll_stays (target deviceCode : String) :
    Stays (protocol settings connectionId job) .authorizing (PollMSDeviceCodeFlow.execute settings target deviceCode) := by
  refine .bind ((authorizing_outward authorizes).pollDeviceCode deviceCode) fun token => ?_
  exact .bind (store_stays authorizes target token) fun _ => rfl

end Authorizations

section Revocations
variable {job : Job} (revokes : job.revokes = true)
include revokes

theorem load_stays : Stays (protocol settings connectionId job) .revoking (TokenStore.load connectionId) := by
  refine .bind ⟨?_, fun _ _ => rfl⟩ fun _ => rfl
  cases job with
  | call | callback | poll => cases revokes
  | revokeXero | revokeMicrosoft => trivial

theorem revoking_outward : Connection.Outward (protocol settings connectionId job) .revoking := by
  refine fun call => ⟨?_, fun _ _ => rfl⟩
  cases job with
  | call | callback | poll => cases revokes
  | revokeXero | revokeMicrosoft => trivial

theorem delete_meets : Meets (protocol settings connectionId job) (TokenStore.delete connectionId) .revoking (Ended job) := by
  refine ⟨?_, fun _ _ _ => ⟨fun _ => rfl, fun _ => rfl⟩⟩
  cases job with
  | call | callback | poll => cases revokes
  | revokeXero | revokeMicrosoft => rfl

theorem revoke_meets (told : Option (TokenSet → Async Unit))
    (stays : ∀ revoke token, told = some revoke → Stays (protocol settings connectionId job) .revoking (revoke token)) :
    Meets (protocol settings connectionId job) (RevokeConnection.execute told connectionId) .revoking (Ended job) := by
  unfold RevokeConnection.execute
  rw [Meets.bind_iff]
  apply (load_stays revokes).mono
  rintro (exc | token) l rfl
  · exact fun _ => ⟨nofun, nofun⟩
  · rw [Meets.andThen_ok]
    split
    · rename_i token revoke
      rw [Meets.bind_iff]
      apply (stays revoke token rfl).mono
      rintro (exc | _) l rfl
      · exact fun _ => ⟨nofun, nofun⟩
      · exact delete_meets revokes
    · exact delete_meets revokes

end Revocations

theorem job_meets (job : Job) : Meets (protocol settings connectionId job) (job.run settings connectionId) job.start (Ended job) := by
  cases job with
  | call manager =>
    cases manager with
    | xero => exact Meets.map_iff.mpr ((call_meets Contention.getValidToken_meets).mono fun _ _ _ => nofun)
    | microsoft force => exact Meets.map_iff.mpr ((call_meets Contention.getToken_meets).mono fun _ _ _ => nofun)
  | callback code state => exact Meets.map_iff.mpr ((callback_stays rfl code state).mono fun _ _ _ => nofun)
  | poll deviceCode => exact Meets.map_iff.mpr ((poll_stays rfl connectionId deviceCode).mono fun _ _ _ => nofun)
  | revokeXero =>
    refine revoke_meets rfl _ ?_
    rintro revoke token ⟨⟩
    exact (revoking_outward rfl).revokeToken settings token
  | revokeMicrosoft => exact revoke_meets rfl none nofun

end OpenClaw.Grants
