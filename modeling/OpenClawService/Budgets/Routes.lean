import OpenClawService.Api.Authority
import OpenClawService.Budgets.Tokens

/-! What a request costs. Whatever the providers answer and whatever the other requests do,
a request has spent at no moment more than the budget of its route, and one that is not
admitted spends nothing. -/
namespace OpenClaw
open Interleaving Async

section Passes
variable [Library] (settings : Settings) (connectionId : String)

/-- The first pass may delete the token. -/
theorem XeroHttp.attempt_spends (call : Call) (first : Bool) :
    Spends (spend ((if first then 1 else 0) + 17) 2 1 500) (attempt settings connectionId call first) := by
  refine (XeroTokenManager.getValidToken_spends settings connectionId).bind fun token => ?_
  cases token.xeroTenantId with
  | none => exact Costs.throw _
  | some tenantId =>
    have sent : Spends (spend 0 1 0 0) (Async.http (call.request token.accessToken tenantId)) := http_ordinary _ rfl
    refine sent.bind fun response => ?_
    by_cases again : response.statusCode = 401 ∧ first = true
    · rw [if_pos again, again.2]
      exact (redis_spends _ (by rfl)).bind fun _ => Costs.pure _
    · rw [if_neg again]
      cases response.isSuccess with
      | true => exact Within.map (Costs.ended _)
      | false => exact Costs.throw _

theorem XeroHttp.request_spends (call : Call) : Spends (spend 35 4 2 1000) (request settings connectionId call) := by
  have pass : Spends (spend 18 2 1 500) (attempt settings connectionId call true) := attempt_spends settings connectionId call true
  have again : Spends (spend 17 2 1 500) (attempt settings connectionId call false) := attempt_spends settings connectionId call false
  refine pass.bind fun answered => ?_
  cases answered with
  | some body => exact Costs.pure _
  | none =>
    refine again.bind fun answered => ?_
    cases answered with
    | some body => exact Costs.pure _
    | none => exact Costs.throw _

theorem MSGraph.attempt_spends (teamId channelId : String) (payload : Json) (first : Bool) :
    Spends (spend (if first then 18 else 12) 2 1 500) (attempt settings connectionId teamId channelId payload first) := by
  have passed (token : String) : Spends (spend 0 1 0 0) (do
      let response ← Async.http (postRequest teamId channelId payload token)
      if response.statusCode = 401 ∧ first then return none
      else if !response.isSuccess then
        throw (MSDeviceCode.unexpected "Microsoft Graph" response)
      else some <$> Async.ofExcept response.parse) := by
    refine (http_ordinary _ rfl).andFree fun response => ?_
    split
    · exact Costs.pure _
    · split
      · exact Costs.throw _
      · exact Within.map (Costs.ended _)
  cases first with
  | true => exact (MSTokenManager.getToken_spends settings connectionId false).bind passed
  | false => exact (MSTokenManager.getToken_spends settings connectionId true).bind passed

theorem MSGraph.postToChannel_spends (teamId channelId : String) (payload : Json) :
    Spends (spend 30 4 2 1000) (postToChannel settings connectionId teamId channelId payload) := by
  have pass : Spends (spend 18 2 1 500) (attempt settings connectionId teamId channelId payload true) :=
    attempt_spends settings connectionId teamId channelId payload true
  have again : Spends (spend 12 2 1 500) (attempt settings connectionId teamId channelId payload false) :=
    attempt_spends settings connectionId teamId channelId payload false
  refine pass.bind fun answered => ?_
  cases answered with
  | some body => exact Costs.pure _
  | none =>
    refine again.bind fun answered => ?_
    cases answered with
    | some body => exact Costs.pure _
    | none => exact Costs.throw _

end Passes

section UseCases
variable [Library] (settings : Settings)

omit [Library] in
theorem IdempotencyStore.hit_spends (key : String) : Spends (spend 1 0 0 0) (hit key) :=
  Spends.bind (redis_spends _ (by rfl)) fun _ => Costs.pure _

omit [Library] in
theorem sendOnce_spends (operation : String) (ttlSeconds : Nat) (key : Option String) {send : Async Json}
    (sends : Spends (spend 30 4 2 1000) send) :
    Spends (spend 32 4 2 1000) (sendOnce operation ttlSeconds key send) := by
  unfold sendOnce
  cases key.bind orNone with
  | none => exact Spends.bind sends fun _ => (ofExcept_spends _).bind fun _ => Costs.pure _
  | some key =>
    refine (IdempotencyStore.hit_spends _).bind fun found => ?_
    cases found with
    | some cached => exact Costs.ended _
    | none => exact Spends.bind sends fun _ => (ofExcept_spends _).bind fun _ => (redis_spends _ (by rfl)).bind fun _ => Costs.pure _

namespace CreateXeroDraftInvoice

theorem create_spends (ttlSeconds : Nat) (connectionId : String) (invoice : XeroInvoice) (key : String) :
    Spends (spend 36 4 2 1000) (create (XeroHttp.client settings) ttlSeconds connectionId invoice key) :=
  (ofExcept_spends _).bind fun _ => (XeroHttp.request_spends settings connectionId _).bind fun _ =>
    (ofExcept_spends _).bind fun _ => (redis_spends _ (by rfl)).bind fun _ => Costs.pure _

theorem replay_spends (connectionId : String) (cached : Json) :
    Spends (spend 35 4 2 1000) (replay (XeroHttp.client settings) connectionId cached) := by
  have looked (invoiceId : Json) : Spends (spend 35 4 2 1000) (liveStatus (XeroHttp.client settings) connectionId invoiceId) := by
    have tried : Spends (spend 35 4 2 1000) (do
        let verification ← (XeroHttp.client settings).getInvoice connectionId (Library.str invoiceId)
        Async.ofExcept (firstInvoice verification >>= Json.getItem "Status")) :=
      (XeroHttp.request_spends settings connectionId _).bind fun _ => Costs.ended _
    refine tried.tryCatch fun error => ?_
    split
    · exact Costs.pure _
    · exact Costs.throw _
  refine (ofExcept_spends _).bind fun invoiceId => (looked invoiceId).bind fun status => (ofExcept_spends _).bind fun stand => ?_
  split
  · exact (ofExcept_spends _).bind fun _ => Costs.pure _
  · exact Costs.pure _

theorem execute_spends (ttlSeconds : Nat) (connectionId : String) (invoice : XeroInvoice) (key : String) :
    Spends (spend 72 8 4 2000) (execute (XeroHttp.client settings) ttlSeconds connectionId invoice key) := by
  have created := create_spends settings ttlSeconds connectionId invoice (idempotencyKey opCreateInvoice key)
  refine (IdempotencyStore.hit_spends _).bind fun found => ?_
  cases found with
  | none => exact created.less (by omega) (by omega) (by omega) (by omega)
  | some cached =>
    refine (replay_spends settings connectionId cached).bind fun result => ?_
    cases result with
    | some result => exact Costs.pure _
    | none => exact created

end CreateXeroDraftInvoice

theorem transition_spends (operation status : String) (ttlSeconds : Nat) (connectionId invoiceId key : String) :
    Spends (spend 37 4 2 1000) (transition operation status (XeroHttp.client settings) ttlSeconds connectionId invoiceId key) := by
  refine (IdempotencyStore.hit_spends _).bind fun found => ?_
  cases found with
  | some cached => exact Costs.ended _
  | none =>
    exact (XeroHttp.request_spends settings connectionId _).bind fun _ => (ofExcept_spends _).bind fun _ =>
      (redis_spends _ (by rfl)).bind fun _ => Costs.pure _

omit [Library] in
/-- The answer is only logged. -/
theorem XeroOAuth.revokeToken_spends (token : TokenSet) : Spends (spend 0 1 0 0) (revokeToken settings token) := by
  have told : Spends (spend 0 1 0 0) (do
      let _ ← Async.http { method := "POST", url := revokeUrl, data := [("token", token.accessToken)]
                           auth := some (settings.xero.clientId, settings.xero.clientSecret) }
      return ()) := Spends.bind (http_ordinary _ rfl) fun _ => Costs.pure _
  exact told.tryCatch fun _ => Costs.pure _

omit [Library] in
theorem XeroOAuth.fetchTenantId_spends (accessToken : String) : Spends (spend 0 1 0 0) (fetchTenantId accessToken) := by
  have looked : Spends (spend 0 1 0 0) (do
      let response ← Async.http { method := "GET", url := connectionsUrl, headers := [bearer accessToken] }
      if response.isSuccess then Async.ofExcept (response.parse >>= tenantOf) else return .null) := by
    refine Spends.bind (http_ordinary _ rfl) fun response => ?_
    split
    · exact Costs.ended _
    · exact Costs.pure _
  exact looked.tryCatch fun _ => Costs.pure _

omit [Library] in
theorem OAuthStateStore.pop_spends (state : String) : Spends (spend 5 0 0 0) (pop state) := by
  refine Spends.bind (redis_spends (.watch (key state)) rfl) fun _ => Spends.bind (redis_spends (.get (key state)) rfl) fun found => ?_
  cases found with
  | none =>
    have left : Spends (spend 1 0 0 0) (do Async.redis .unwatch; return (none : Option String)) := (redis_spends _ (by rfl)).bind fun _ => Costs.pure _
    exact left.less (by omega) le_rfl le_rfl le_rfl
  | some value =>
    refine Spends.bind (execDel_spends (key state)) fun won => ?_
    split <;> exact Costs.pure _

/-- The code and the tenant are asked for. -/
theorem HandleXeroOAuthCallback.execute_spends (code state : String) : Spends (spend 6 2 0 0) (execute settings code state) := by
  refine (OAuthStateStore.pop_spends state).bind fun found => ?_
  cases found with
  | none => exact Costs.throw _
  | some connectionId =>
    have exchanged : Spends (spend 0 2 0 0) (XeroOAuth.exchangeCode settings code) :=
      Spends.bind (outside_spends (.fetchToken ..)) fun _ => (ofExcept_spends _).bind fun _ => (ofExcept_spends _).bind fun _ =>
        (XeroOAuth.fetchTenantId_spends _).bind fun _ => XeroOAuth.rawToTokenSet_spends _ _
    exact exchanged.bind fun _ => (redis_spends _ (by rfl)).bind fun _ => Costs.pure _

theorem GetConnectionStatus.execute_spends (connectionId : String) : Spends (spend 1 0 0 0) (execute settings connectionId) := by
  refine (TokenStore.load_spends connectionId).bind fun token => ?_
  cases token with
  | none => exact Costs.pure _
  | some token =>
    refine (TokenSet.isExpiredOrNear_spends _ _).bind fun near => ?_
    split <;> exact Costs.pure _

theorem RevokeConnection.execute_spends (revokeToken : Option (TokenSet → Async Unit)) (connectionId : String)
    (tells : ∀ revoke token, revokeToken = some revoke → Spends (spend 0 b 0 0) (revoke token)) :
    Spends (spend 2 b 0 0) (execute revokeToken connectionId) := by
  refine (TokenStore.load_spends connectionId).bind fun token => ?_
  cases token with
  | none => exact (redis_spends _ (by rfl)).less le_rfl (Nat.zero_le _) le_rfl le_rfl
  | some token =>
    cases given : revokeToken with
    | none => exact (redis_spends _ (by rfl)).less le_rfl (Nat.zero_le _) le_rfl le_rfl
    | some revoke =>
      have both : Spends (spend (1 + 0) (0 + b) (0 + 0) (0 + 0)) (do
          revoke token
          TokenStore.delete connectionId) := (tells revoke token given).bind fun _ => redis_spends _ (by rfl)
      rwa [Nat.zero_add] at both

theorem PollMSDeviceCodeFlow.execute_spends (connectionId deviceCode : String) :
    Spends (spend 1 1 0 0) (execute settings connectionId deviceCode) := by
  have polled : Spends (spend 0 1 0 0) (MSDeviceCode.pollDeviceCode settings deviceCode) := by
    have asked : Spends (spend 0 1 0 0) (Async.http (MSDeviceCode.pollRequest settings deviceCode)) := http_ordinary _ rfl
    refine asked.bind fun response => (ofExcept_spends _).bind fun body => ?_
    split
    · exact MSDeviceCode.parseTokenSet_spends _
    · exact (ofExcept_spends _).bind fun _ => Costs.throw _
  exact polled.bind fun _ => (redis_spends _ (by rfl)).bind fun _ => Costs.pure _

theorem InitiateMSDeviceCodeFlow.execute_spends : Spends (spend 0 1 0 0) (execute settings) := by
  have started : Spends (spend 0 1 0 0) (MSDeviceCode.startDeviceCodeFlow settings) := by
    have asked : Spends (spend 0 1 0 0) (Async.http
        { method := "POST", url := MSDeviceCode.deviceCodeUrl settings
          data := [("client_id", settings.msClientId), ("scope", settings.msGraphScopes)] }) := http_ordinary _ rfl
    refine asked.bind fun response => ?_
    split
    · exact Costs.throw _
    · exact Costs.ended _
  exact started.bind fun _ => Costs.ended _

theorem RegisterApproval.execute_spends (request : Registration) : Spends (spend 2 0 0 0) (execute request) := by
  refine (ApprovalStore.load_spends request.approvalId).bind fun existing => ?_
  cases existing with
  | none => exact Spends.bind (outside_spends .now) fun _ => (redis_spends _ (by rfl)).bind fun _ => Costs.pure _
  | some existing =>
    show Spends _ (if identical existing request then pure existing else throw _)
    split
    · exact Costs.pure _
    · exact Costs.throw _

theorem GetApproval.execute_spends (approvalId : String) : Spends (spend 1 0 0 0) (execute approvalId) := by
  refine (ApprovalStore.load_spends approvalId).bind fun found => ?_
  cases found with
  | none => exact Costs.throw _
  | some approval => exact Costs.pure _

theorem RecordDecision.execute_spends (approvalId decision : String) (note : Option String) (decisionSource : String) :
    Spends (spend 2 1 0 0) (execute settings approvalId decision note decisionSource) := by
  refine (ApprovalStore.load_spends approvalId).bind fun found => ?_
  cases found with
  | none => exact Costs.throw _
  | some approval =>
    show Spends _ (if approval.status ≠ "pending" then pure approval else _)
    split
    · exact Costs.pure _
    · have sent : Spends (spend 0 1 0 0) (Async.outside (.http (Webhook.notification settings approval decision note))) := outside_spends _
      have told : Spends (spend 0 1 0 0) (Webhook.notifyDecision settings approval decision note) := sent.bind fun _ => Costs.pure _
      exact (ofExcept_spends _).bind fun _ => Spends.bind (outside_spends .now) fun _ =>
        told.bind fun _ => (redis_spends _ (by rfl)).bind fun _ => Costs.pure _

end UseCases

namespace Api

/-- What a request on the route may cost. -/
def Route.budget : Route → Spending
  | .sendMessage .. | .sendApproval .. => spend 32 4 2 1000
  | .createInvoice .. => spend 72 8 4 2000
  | .submitInvoice .. | .voidInvoice .. => spend 37 4 2 1000
  | .getInvoice .. | .listContacts .. | .listAccounts .. | .listTaxRates .. => spend 35 4 2 1000
  | .xeroAuthorize _ | .getConnectionStatus _ | .showApprovePage _ | .showRejectPage _ => spend 1 0 0 0
  | .xeroCallback .. => spend 6 2 0 0
  | .msDeviceCodeInitiate _ => spend 0 1 0 0
  | .msDeviceCodePoll .. | .health => spend 1 1 0 0
  | .revokeXeroConnection _ | .recordDecision .. => spend 2 1 0 0
  | .revokeMsConnection _ | .registerApproval _ => spend 2 0 0 0

/-- A request that is refused costs nothing. -/
def budget [FastApi] (settings : AppSettings) (inbound : Inbound) : Spending :=
  match admitted settings inbound with
  | .error _ => 0
  | .ok route => route.budget

section Handlers
variable [Library] {program : Async α}

omit [Library] in
theorem modelled_spends {response : α → Except Exc Json} (spends : Spends bound program) :
    Spends bound (modelled statusCode response program) :=
  spends.andFree fun _ => Spends.andFree (Costs.ended _) fun _ => Costs.pure _

omit [Library] in
theorem keyed_spends {program : String → Async Reply} (spends : ∀ key, Spends bound (program key)) :
    Spends bound (keyed key purpose program) := by
  unfold keyed
  split
  · exact Costs.pure _
  · exact spends _

omit [Library] in
theorem paged_spends {program : Async Pages.Page} (spends : Spends bound program) : Spends bound (paged program) := by
  refine spends.andFree fun page => ?_
  cases page <;> exact Costs.pure _

theorem renderDecisionPage_spends (approvalId action : String) : Spends (spend 1 0 0 0) (Pages.renderDecisionPage approvalId action) := by
  refine Spends.bind (show Spends (spend 1 0 0 0) _ from Spends.tryCatch (GetApproval.execute_spends approvalId).map fun error => ?_)
    fun approval => ?_
  · split
    · exact Costs.pure _
    · exact Costs.throw _
  cases approval with
  | none => exact Costs.pure _
  | some approval =>
    show Spends _ (if approval.status ≠ "pending" then pure _ else pure _)
    split <;> exact Costs.pure _

theorem recordDecision_spends (settings : Settings) (approvalId decision : String) (note : Option String) :
    Spends (spend 2 1 0 0) (Pages.recordDecision settings approvalId decision note) := by
  unfold Pages.recordDecision
  split
  · exact Costs.pure _
  · have recorded : Spends (spend 2 1 0 0) (do
        return Pages.Page.decided (← RecordDecision.execute settings approvalId decision (Pages.cleanNote note) "web_form") true) :=
      (RecordDecision.execute_spends settings approvalId decision _ _).bind fun _ => Costs.pure _
    refine recorded.tryCatch fun error => ?_
    split
    · exact Costs.pure _
    · exact Costs.pure _
    · exact Costs.throw _

theorem pollReply_spends (settings : Settings) (connectionId deviceCode : String) :
    Spends (spend 1 1 0 0) (pollReply settings connectionId deviceCode) := by
  have polled : Spends (spend 1 1 0 0) (do
      let connectionId ← PollMSDeviceCodeFlow.execute settings connectionId deviceCode
      return (⟨200, .json (connectionResponse connectionId "authorized")⟩ : Reply)) :=
    (PollMSDeviceCodeFlow.execute_spends settings connectionId deviceCode).bind fun _ => Costs.pure _
  refine polled.tryCatch fun error => ?_
  split
  · exact Costs.pure _
  · exact Costs.throw _

theorem registerReply_spends (body : Registration) : Spends (spend 2 0 0 0) (registerReply body) := by
  have registered : Spends (spend 2 0 0 0) (do
      let approval ← RegisterApproval.execute body
      return (⟨201, .json (approvalRegisteredResponse approval)⟩ : Reply)) :=
    (RegisterApproval.execute_spends body).bind fun _ => Costs.pure _
  refine registered.tryCatch fun error => ?_
  split
  · exact Costs.pure _
  · exact Costs.throw _

omit [Library] in
theorem healthReply_spends (settings : Settings) : Spends (spend 1 1 0 0) (healthReply settings) := by
  have pinged : Spends (spend 1 0 0 0) (Async.outside .ping) := outside_spends _
  have probed : Spends (spend 0 1 0 0) (Async.outside (.http { method := "GET", url := discoveryUrl settings })) := outside_spends _
  exact pinged.bind fun _ => probed.bind fun _ => Costs.pure _

variable [FastApi]

theorem handle_spends (settings : Settings) (route : Route) : Spends route.budget (handle settings route) := by
  cases route with
  | sendMessage => exact modelled_spends (sendOnce_spends _ _ _ (MSGraph.postToChannel_spends settings _ _ _ _))
  | sendApproval =>
    refine modelled_spends (sendOnce_spends _ _ _ (Spends.bind (outside_spends .uuid4) fun _ => ?_))
    exact MSGraph.postToChannel_spends settings _ _ _ _
  | createInvoice => exact keyed_spends fun _ => modelled_spends (CreateXeroDraftInvoice.execute_spends settings _ _ _ _)
  | submitInvoice | voidInvoice => exact keyed_spends fun _ => modelled_spends (transition_spends settings _ _ _ _ _ _)
  | getInvoice | listContacts | listAccounts | listTaxRates =>
    exact modelled_spends (Spends.bind (XeroHttp.request_spends settings _ _) fun _ => Costs.ended _)
  | xeroAuthorize =>
    refine modelled_spends (Spends.bind (outside_spends (.tokenUrlsafe 32)) fun _ => ?_)
    exact (redis_spends _ (by rfl)).bind fun _ => Costs.pure _
  | xeroCallback => exact modelled_spends (HandleXeroOAuthCallback.execute_spends settings _ _)
  | msDeviceCodeInitiate => exact modelled_spends (InitiateMSDeviceCodeFlow.execute_spends settings)
  | msDeviceCodePoll => exact pollReply_spends settings _ _
  | getConnectionStatus => exact modelled_spends (GetConnectionStatus.execute_spends settings _)
  | revokeXeroConnection =>
    refine Within.map (RevokeConnection.execute_spends _ _ ?_)
    rintro revoke token ⟨⟩
    exact XeroOAuth.revokeToken_spends settings token
  | revokeMsConnection => exact Within.map (RevokeConnection.execute_spends _ _ fun _ _ => nofun)
  | registerApproval => exact registerReply_spends _
  | showApprovePage | showRejectPage => exact paged_spends (renderDecisionPage_spends _ _)
  | recordDecision => exact paged_spends (recordDecision_spends settings _ _ _)
  | health => exact healthReply_spends settings

theorem respond_spends (settings : AppSettings) (inbound : Inbound) : Spends (budget settings inbound) (respond settings inbound) := by
  have answered : Spends (budget settings inbound) (answer settings inbound) := by
    unfold answer budget
    cases admitted settings inbound with
    | error reply => exact Costs.pure _
    | ok route => exact handle_spends _ route
  have finished (requestId : String) : Spends (budget settings inbound) (do return finish requestId (← Async.outcome (answer settings inbound))) :=
    (Within.bind (outcome_spends answered) fun _ => Costs.pure _).mono (add_zero _).le
  have free : Spends 0 (Async.outside .uuid4) := (outside_spends .uuid4).mono fun charge => by cases charge <;> exact le_rfl
  unfold respond
  cases inbound.requestId.bind orNone with
  | some given => exact finished given
  | none => exact (Within.bind free finished).mono (zero_add _).le

end Handlers

section Runs
variable [Library] [FastApi] {ι : Type} [DecidableEq ι]

instance (op : Op) : Nonempty op.Answer := by
  cases op with
  | redis command => exact ⟨(Redis.empty.exec () command).1⟩
  | outside call => exact ⟨call.silence⟩

/-- No request is ever beyond its budget. -/
theorem within_budget {settings : AppSettings} {inbounds : ι → Inbound} {env : Environment ι} {redis : Redis ι}
    {c : ServiceConfig ι (Except Exc Response)} (run : Reaches (system env) ⟨⟨redis, []⟩, requests settings inbounds⟩ c) (i : ι) :
    expense i c.shared.log ≤ budget settings (inbounds i) := by
  rw [← view_expense]
  exact Conforming.spent (tracks env _ _) (fun i => respond_spends settings (inbounds i)) (fun _ => rfl) run i

end Runs

section Consent
local instance : Library := .sample
local instance : FastApi := .sample

/-- A callback that succeeds spends all that it may. -/
theorem within_budget_of_consent : ∃ c, Reaches (system (.free (Fin 3))) consenting c ∧
    expense 1 c.shared.log = budget .sample (consents 1) ∧ expense 2 c.shared.log ≤ budget .sample (consents 2) ∧ budget .sample (consents 2) = 0 := by
  have run : Reaches (system (.free _)) consenting (consent.foldl play consenting) := plays_run (free_legal _ _)
  refine ⟨_, run, ?_, within_budget run 2, rfl⟩
  funext charge
  cases charge <;> decide

end Consent
end Api
end OpenClaw
