import OpenClawService.Api.Requests

/-! Requests as they come in: what is refused makes no call, and what is let through
keeps to the conduct of its route. -/
namespace OpenClaw.Api
open Interleaving
variable [Library] [FastApi] {proper : Json → Prop}

section Handle
variable {settings : Settings} {route : Route} {p : Phase}

omit [FastApi] in
theorem modelled_meets {program : Async α} {response : α → Except Exc Json} (statusCode : Nat)
    (meets : Meets (conduct settings proper route) program p (fun _ _ => True)) :
    Meets (conduct settings proper route) (modelled statusCode response program) p (fun _ _ => True) :=
  Meets.bind_keeps meets fun value l _ => by
    rw [Meets.bind_iff, Async.ofExcept_meets]
    cases response value <;> trivial

omit [FastApi] in
theorem runs {program : Async α} {good : α → Prop} (returns : Returns (conduct settings proper route) p good program) :
    Meets (conduct settings proper route) program p (fun _ _ => True) := Meets.mono returns fun _ _ _ => trivial

omit [FastApi] in
theorem keyed_meets {program : String → Async Reply} {given : Option String} (purpose : String)
    (meets : ∀ key, given.bind orNone = some key → Meets (conduct settings proper route) (program key) p (fun _ _ => True)) :
    Meets (conduct settings proper route) (keyed given purpose program) p (fun _ _ => True) := by
  unfold keyed
  cases present : given.bind orNone with
  | none => trivial
  | some key => exact meets key present

omit [FastApi] in
theorem paged_meets {program : Async Pages.Page} (meets : Meets (conduct settings proper route) program p (fun _ _ => True)) :
    Meets (conduct settings proper route) (paged program) p (fun _ _ => True) :=
  Meets.bind_keeps meets fun page l _ => by cases page <;> trivial

omit [FastApi] in
/-- A list or a single invoice is one request. -/
theorem asked_meets (idle : p.watched = none) {connectionId : String} {call : XeroHttp.Call} {convert : Json → Except Exc α}
    (own : route.connection = some connectionId) (traffic : Traffic settings p route = XeroTraffic settings (· = call)) :
    Meets (conduct settings proper route)
      (XeroHttp.request settings connectionId call >>= fun response => Async.ofExcept (convert response)) p (fun _ _ => True) := by
  have asked : Returns (conduct settings proper route) p proper (XeroHttp.request settings connectionId call) := by
    refine request_returns own (fun refreshToken => ?_) idle fun token tenantId => ?_
    · rw [traffic]
      exact Or.inl ⟨refreshToken, rfl⟩
    · rw [traffic]
      exact Or.inr ⟨call, token, tenantId, rfl, rfl⟩
  exact runs (asked.bind fun _ _ => ofExcept_stays)

omit [Library] [FastApi] in
theorem entered {given : Option String} (present : given.bind orNone = some key) (operation : String) :
    (given.bind orNone).map (idempotencyKey operation) = some (idempotencyKey operation key) := by rw [present, Option.map_some]

/-- Every route keeps to its conduct. -/
theorem handle_meets (closed : Closed proper) (idle : p.watched = none) (fresh : p.loaded = none) :
    Meets (conduct settings proper route) (handle settings route) p (fun _ _ => True) := by
  cases route with
  | sendMessage connectionId message key =>
    have sends : Returns (conduct settings proper (.sendMessage connectionId message key)) p proper
        (MSGraph.sendMessage settings connectionId message) := by
      refine postToChannel_returns rfl ?_ idle fun token => Or.inr ⟨_, token, rfl, rfl⟩
      exact fun refreshToken => Or.inl ⟨refreshToken, rfl⟩
    exact modelled_meets _ (runs (sendOnce_returns closed sends rfl))
  | sendApproval connectionId card key =>
    have sends : Returns (conduct settings proper (.sendApproval connectionId card key)) p proper
        (MSGraph.sendAdaptiveCard settings connectionId card) := by
      refine (local_returns .uuid4 trivial).bind fun attachmentId _ => ?_
      refine postToChannel_returns rfl ?_ idle fun token => Or.inr ⟨_, token, ⟨attachmentId, rfl⟩, rfl⟩
      exact fun refreshToken => Or.inl ⟨refreshToken, rfl⟩
    exact modelled_meets _ (runs (sendOnce_returns closed sends rfl))
  | createInvoice connectionId invoice key =>
    exact keyed_meets _ fun key present => modelled_meets _ (runs (create_returns closed idle present rfl))
  | submitInvoice invoiceId connectionId key | voidInvoice invoiceId connectionId key =>
    exact keyed_meets _ fun key present =>
      modelled_meets _ (runs (transition_returns closed idle rfl (entered present _) fun _ => rfl))
  | getInvoice invoiceId connectionId => exact modelled_meets _ (asked_meets idle rfl rfl)
  | listContacts connectionId search => exact modelled_meets _ (asked_meets idle rfl rfl)
  | listAccounts connectionId status => exact modelled_meets _ (asked_meets idle rfl rfl)
  | listTaxRates connectionId status => exact modelled_meets _ (asked_meets idle rfl rfl)
  | xeroAuthorize connectionId => exact modelled_meets _ (runs (authorize_returns rfl))
  | xeroCallback code state => exact modelled_meets _ (callback_meets idle)
  | msDeviceCodeInitiate connectionId => exact modelled_meets _ (runs initiate_returns)
  | msDeviceCodePoll connectionId deviceCode =>
    refine Meets.tryCatch_keeps (Meets.bind_keeps (runs poll_returns) fun _ _ _ => trivial) fun exc l _ => ?_
    cases pollStatus exc <;> trivial
  | getConnectionStatus connectionId => exact modelled_meets _ (runs (status_returns rfl))
  | revokeXeroConnection connectionId =>
    refine Meets.map_iff.mpr (runs (revoke_returns rfl ?_))
    rintro revoke ⟨⟩ token
    exact revokeToken_returns token
  | revokeMsConnection connectionId => exact Meets.map_iff.mpr (runs (revoke_returns rfl nofun))
  | registerApproval body =>
    refine Meets.tryCatch_keeps (Meets.bind_keeps ((register_meets fresh).mono fun _ _ _ => trivial) fun _ _ _ => trivial) fun exc l _ => ?_
    cases exc <;> trivial
  | showApprovePage approvalId | showRejectPage approvalId => exact paged_meets ((page_meets rfl fresh).mono fun _ _ _ => trivial)
  | recordDecision approvalId decision note => exact paged_meets ((decision_meets fresh).mono fun _ _ _ => trivial)
  | health => exact ⟨Or.inr (Or.inl rfl), fun _ _ => ⟨Or.inr (Or.inr rfl), fun _ _ => trivial⟩⟩

end Handle

variable {settings : AppSettings} {inbound : Inbound}

/-- What a request may do: nothing, if it is refused. -/
def permits (settings : AppSettings) (proper : Json → Prop) (inbound : Inbound) (p : Phase) (op : Op) : Prop :=
  (∃ sent, op = .outside sent ∧ Local sent) ∨
    (∃ route, admitted settings inbound = .ok route) ∧ admits settings.toSettings proper inbound.route p op

def protocol (settings : AppSettings) (proper : Json → Prop) (inbound : Inbound) : Protocol Op Op.Answer Phase :=
  ⟨permits settings proper inbound, fun _ => expects proper, advance inbound.route⟩

omit [Library] in
theorem admitted_ok (let_through : admitted settings inbound = .ok route) :
    route = inbound.route ∧ (inbound.route.guarded = true → verifyApiKey settings inbound.authorization = true) ∧
      validation inbound.route = none := by
  unfold admitted at let_through
  split at let_through
  · cases let_through
  · rename_i unlocked
    simp only [Bool.and_eq_true, Bool.not_eq_true', not_and, Bool.not_eq_false] at unlocked
    split at let_through
    · cases let_through
    · rename_i valid
      cases let_through
      exact ⟨rfl, unlocked, valid⟩

/-- What is let through keeps to the conduct of its route. -/
theorem let_through {program : Async α} {p : Phase} {post : Except Exc α → Phase → Prop} (checked : admitted settings inbound = .ok route)
    (meets : Meets (conduct settings.toSettings proper inbound.route) program p post) : Meets (protocol settings proper inbound) program p post := by
  have allowed (p : Phase) (op : Op) (granted : (conduct settings.toSettings proper inbound.route).admits p op) :
      (protocol settings proper inbound).admits (id p) op := Or.inr ⟨⟨_, checked⟩, granted⟩
  have lifted : Conforms (protocol settings proper inbound) program.run (id p) post :=
    Conforms.map id allowed (fun _ _ _ expected => expected) (fun _ _ _ _ => rfl) meets
  exact lifted

theorem answer_meets (closed : Closed proper) :
    Meets (protocol settings proper inbound) (answer settings inbound) {} (fun _ _ => True) := by
  unfold answer
  cases checked : admitted settings inbound with
  | error reply => trivial
  | ok route =>
    obtain ⟨rfl, _⟩ := admitted_ok checked
    exact let_through checked (handle_meets closed rfl rfl)

theorem respond_meets (closed : Closed proper) :
    Meets (protocol settings proper inbound) (respond settings inbound) {} (fun _ _ => True) := by
  have answered (requestId : String) : Meets (protocol settings proper inbound)
      (do return finish requestId (← Async.outcome (answer settings inbound))) {} (fun _ _ => True) := by
    rw [Meets.bind_iff, Async.outcome_meets]
    exact (answer_meets closed).mono fun _ _ _ => trivial
  unfold respond
  cases inbound.requestId.bind orNone with
  | some given => exact answered given
  | none => exact ⟨Or.inl ⟨.uuid4, rfl, trivial⟩, fun requestId _ => answered requestId⟩

end OpenClaw.Api
