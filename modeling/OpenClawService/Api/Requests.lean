import OpenClawService.Api.Walk
import OpenClawService.Approvals.Records

/-! The use cases behind the routes keep to the conduct of their route. -/
namespace OpenClaw.Api
open Interleaving
variable [Library] {settings : Settings} {proper : Json → Prop} {route : Route} {p : Phase} {connectionId key : String}

/-! What is cached was read out of an answer. -/
section Results
variable (closed : Closed proper)
include closed

omit [Library] in
theorem getItem_proper (read : Json.getItem name value = .ok found) (whole : proper value) : proper found := by
  unfold Json.getItem at read
  split at read
  · split at read
    · rename_i listed
      cases read
      exact closed.field whole listed
    · cases read
  · cases read

omit [Library] in
theorem firstInvoice_proper (read : firstInvoice response = .ok found) (whole : proper response) : proper found := by
  obtain ⟨invoices, items, read⟩ := bind_ok read
  have inside := getItem_proper closed items whole
  unfold Json.head at read
  split at read
  · cases read
  · cases read
    exact closed.item inside
  · split at read
    · cases read
    · cases read
      exact closed.text _
  · cases read
  · cases read

omit [Library] in
theorem extractInvoiceResult_proper (read : extractInvoiceResult response = .ok result) (whole : proper response) :
    proper result.cached := by
  obtain ⟨invoice, first, read⟩ := bind_ok read
  obtain ⟨invoiceId, ids, read⟩ := bind_ok read
  obtain ⟨status, statuses, read⟩ := bind_ok read
  cases read
  have inside := firstInvoice_proper closed first whole
  exact closed.invoice (getItem_proper closed ids inside) (getItem_proper closed statuses inside)

theorem accepted_proper (read : CreateXeroDraftInvoice.accepted response = .ok result) (whole : proper response) :
    proper result.cached := by
  obtain ⟨result', extracted, read⟩ := bind_ok read
  obtain ⟨invoice, _, read⟩ := bind_ok read
  obtain ⟨returned, _, read⟩ := bind_ok read
  split at read
  · cases read
    exact extractInvoiceResult_proper closed extracted whole
  · cases read

end Results

/-! The writing use cases, around the entry of their key. -/
section Entry
variable (entered : route.entry = some key)
include entered

theorem hit_returns : Returns (conduct settings proper route) p (fun _ => True) (IdempotencyStore.hit key) := by
  have get : Returns (conduct settings proper route) p (fun _ => True) (IdempotencyStore.get key) :=
    ⟨entered, fun _ _ => ⟨rfl, fun _ _ => trivial⟩⟩
  exact get.bind fun _ _ => .pure trivial

theorem set_returns {result : Json} (whole : proper result) : Returns (conduct settings proper route) p (fun _ => True)
    (IdempotencyStore.set key result settings.idempotencyTtlSeconds) :=
  ⟨⟨entered, whole, rfl⟩, fun _ _ => ⟨rfl, fun _ _ => trivial⟩⟩

end Entry

section Writing
variable (closed : Closed proper) (idle : p.watched = none)
include closed idle

theorem create_returns {invoice : XeroInvoice} {given : Option String} (keyed : given.bind orNone = some key)
    (same : route = .createInvoice connectionId invoice given) : Returns (conduct settings proper route) p (fun _ => True)
      (CreateXeroDraftInvoice.execute (XeroHttp.client settings) settings.idempotencyTtlSeconds connectionId invoice key) := by
  subst same
  have entered : Route.entry (.createInvoice connectionId invoice given) = some (idempotencyKey opCreateInvoice key) := by
    rw [Route.entry, keyed]
    rfl
  have asked {call : XeroHttp.Call} (asks : ∀ token tenantId, Traffic settings p (.createInvoice connectionId invoice given)
      (.http (call.request token tenantId))) :
      Returns (conduct settings proper (.createInvoice connectionId invoice given)) p proper
        (XeroHttp.request settings connectionId call) := by
    refine request_returns rfl ?_ idle asks
    exact fun refreshToken => Or.inl ⟨refreshToken, rfl⟩
  have created : Returns (conduct settings proper (.createInvoice connectionId invoice given)) p (fun _ => True)
      (CreateXeroDraftInvoice.create (XeroHttp.client settings) settings.idempotencyTtlSeconds connectionId invoice
        (idempotencyKey opCreateInvoice key)) := by
    refine (ofExcept_returns fun payload built => built).bind fun payload built => ?_
    refine (asked fun token tenantId => Or.inr ⟨_, token, tenantId, Or.inr ⟨payload, built, rfl⟩, rfl⟩).bind fun response whole => ?_
    refine (ofExcept_returns fun result read => accepted_proper closed read whole).bind fun result whole => ?_
    exact (set_returns entered whole).bind fun _ _ => .pure trivial
  refine (hit_returns entered).bind fun cached _ => ?_
  cases cached with
  | none => exact created
  | some cached =>
    have live (invoiceId : Json) : Returns (conduct settings proper (.createInvoice connectionId invoice given)) p (fun _ => True)
        (CreateXeroDraftInvoice.liveStatus (XeroHttp.client settings) connectionId invoiceId) := by
      refine .tryCatch ?_ fun exc => ?_
      · refine (asked fun token tenantId => Or.inr ⟨_, token, tenantId, Or.inl ⟨Library.str invoiceId, rfl⟩, rfl⟩).bind fun _ _ => ?_
        exact ofExcept_returns fun _ _ => trivial
      · cases exc <;> first | exact .pure trivial | exact .throw _
    have replayed : Returns (conduct settings proper (.createInvoice connectionId invoice given)) p (fun _ => True)
        (CreateXeroDraftInvoice.replay (XeroHttp.client settings) connectionId cached) := by
      refine ofExcept_stays.bind fun invoiceId _ => (live invoiceId).bind fun status _ =>
        ofExcept_stays.bind fun stands _ => ?_
      split
      · exact ofExcept_stays.bind fun _ _ => .pure trivial
      · exact .pure trivial
    refine replayed.bind fun result _ => ?_
    cases result with
    | some result => exact .pure trivial
    | none => exact created

theorem transition_returns {operation status invoiceId : String} (own : route.connection = some connectionId)
    (entered : route.entry = some (idempotencyKey operation key))
    (traffic : ∀ p, Traffic settings p route = XeroTraffic settings (· = XeroHttp.updateCall invoiceId status)) :
    Returns (conduct settings proper route) p (fun _ => True)
      (transition operation status (XeroHttp.client settings) settings.idempotencyTtlSeconds connectionId invoiceId key) := by
  refine (hit_returns entered).bind fun cached _ => ?_
  cases cached with
  | some cached => exact ofExcept_returns fun _ _ => trivial
  | none =>
    have asked : Returns (conduct settings proper route) p proper
        (XeroHttp.request settings connectionId (XeroHttp.updateCall invoiceId status)) := by
      refine request_returns own (fun refreshToken => ?_) idle fun token tenantId => ?_
      · rw [traffic]
        exact Or.inl ⟨refreshToken, rfl⟩
      · rw [traffic]
        exact Or.inr ⟨_, token, tenantId, rfl, rfl⟩
    refine asked.bind fun response whole => ?_
    refine (ofExcept_returns fun result read => extractInvoiceResult_proper closed read whole).bind fun result whole => ?_
    exact (set_returns entered whole).bind fun _ _ => .pure trivial

omit idle in
theorem sendOnce_returns {operation : String} {given : Option String} {send : Async Json}
    (sends : Returns (conduct settings proper route) p proper send)
    (entered : route.entry = (given.bind orNone).map (idempotencyKey operation)) :
    Returns (conduct settings proper route) p (fun _ => True) (sendOnce operation settings.idempotencyTtlSeconds given send) := by
  have identified {body : Json} (whole : proper body) : Returns (conduct settings proper route) p
      (fun messageId => proper (MessageResult.mk messageId).cached) (Async.ofExcept (body.getItem "id")) :=
    ofExcept_returns fun messageId read => closed.message (getItem_proper closed read whole)
  unfold sendOnce
  cases keyed : given.bind orNone with
  | none => exact sends.bind fun _ whole => (identified whole).bind fun _ _ => .pure trivial
  | some key =>
    rw [keyed] at entered
    refine (hit_returns entered).bind fun cached _ => ?_
    cases cached with
    | some cached => exact ofExcept_returns fun _ _ => trivial
    | none =>
      exact sends.bind fun _ whole => (identified whole).bind fun _ whole => (set_returns entered whole).bind fun _ _ => .pure trivial

end Writing

/-! The connections. -/

theorem authorize_returns (issued : route.issues = some connectionId) :
    Returns (conduct settings proper route) p (fun _ => True) (BuildXeroAuthorizationUrl.execute settings connectionId) := by
  refine (local_returns (.tokenUrlsafe 32) trivial).bind fun state _ => ?_
  have saved : Returns (conduct settings proper route) p (fun _ => True)
      (OAuthStateStore.save state connectionId settings.oauthStateTtlSeconds) :=
    ⟨⟨issued, rfl, state, rfl⟩, fun _ _ => ⟨rfl, fun _ _ => trivial⟩⟩
  exact saved.bind fun _ _ => .pure trivial

/-- What a callback pops is what it then owns. -/
theorem pop_meets {state : String} (presented : route.presented = some state) (idle : p.watched = none) :
    Meets (conduct settings proper route) (OAuthStateStore.pop state) p
      (fun result l => ∀ connectionId, result = .ok (some connectionId) → l.owns route connectionId) := by
  simp only [OAuthStateStore.pop, Meets.bind_iff, Async.redis_meets, Meets.andThen_ok]
  refine ⟨⟨idle, Or.inr ⟨state, presented, rfl⟩⟩, fun _ _ => ⟨rfl, fun value _ => ?_⟩⟩
  cases value with
  | none => exact ⟨Option.some_ne_none _, fun _ _ _ same => by cases same⟩
  | some connectionId =>
    refine ⟨⟨connectionId, rfl⟩, fun deleted _ => ?_⟩
    cases deleted with
    | false =>
      intro other same
      cases same
    | true =>
      rintro other ⟨⟩
      refine Or.inr ⟨by rw [presented]; rfl, ?_⟩
      simp only [conduct_advance, advance, Phase.pops, presented, Option.map_some, if_true, Option.bind_some]

theorem exchangeCode_returns {code state : String} : Returns (conduct settings proper (.xeroCallback code state)) p
    (fun _ => True) (XeroOAuth.exchangeCode settings code) := by
  have fetched : Traffic settings p (.xeroCallback code state)
      (.fetchToken settings.xero XeroOAuth.tokenUrl code settings.xero.redirectUri) := Or.inl rfl
  have asked (token : String) : Traffic settings p (.xeroCallback code state)
      (.http { method := "GET", url := XeroOAuth.connectionsUrl, headers := [bearer token] }) := Or.inr ⟨token, rfl⟩
  refine (outside_returns fetched).bind fun answer _ => raising_stays.bind fun raw _ => ofExcept_stays.bind fun accessToken _ => ?_
  have tenant : Returns (conduct settings proper (.xeroCallback code state)) p (fun _ => True)
      (XeroOAuth.fetchTenantId (Library.str accessToken)) := by
    refine .tryCatch ((http_returns (asked (Library.str accessToken))).bind fun response _ => ?_) fun _ => .pure trivial
    split
    · exact ofExcept_returns fun _ _ => trivial
    · exact .pure trivial
  exact tenant.bind fun tenantId _ => rawToTokenSet_returns raw tenantId

theorem callback_meets {code state : String} (idle : p.watched = none) :
    Meets (conduct settings proper (.xeroCallback code state)) (HandleXeroOAuthCallback.execute settings code state) p
      (fun _ _ => True) := by
  unfold HandleXeroOAuthCallback.execute
  rw [Meets.bind_iff]
  apply (pop_meets rfl idle).mono
  rintro (exc | popped) l owned
  · trivial
  rw [Meets.andThen_ok]
  cases popped with
  | none => trivial
  | some connectionId =>
    dsimp only
    rw [Meets.bind_iff]
    apply exchangeCode_returns.stays.mono
    rintro (exc | token) l' rfl
    · trivial
    exact ⟨Or.inl ⟨connectionId, token, owned connectionId rfl, rfl, rfl⟩, fun _ _ => trivial⟩

theorem initiate_returns {connectionId : String} : Returns (conduct settings proper (.msDeviceCodeInitiate connectionId)) p
    (fun _ => True) (InitiateMSDeviceCodeFlow.execute settings) := by
  have started : Returns (conduct settings proper (.msDeviceCodeInitiate connectionId)) p (fun _ => True)
      (MSDeviceCode.startDeviceCodeFlow settings) := by
    refine (http_returns (by rfl)).bind fun response _ => ?_
    split
    · exact .throw _
    · exact ofExcept_returns fun _ _ => trivial
  exact started.bind fun _ _ => ofExcept_returns fun _ _ => trivial

theorem poll_returns {deviceCode : String} : Returns (conduct settings proper (.msDeviceCodePoll connectionId deviceCode)) p
    (fun _ => True) (PollMSDeviceCodeFlow.execute settings connectionId deviceCode) := by
  have polled : Returns (conduct settings proper (.msDeviceCodePoll connectionId deviceCode)) p (fun _ => True)
      (MSDeviceCode.pollDeviceCode settings deviceCode) := by
    refine (http_returns (by rfl)).bind fun response _ => ofExcept_stays.bind fun body _ => ?_
    split
    · exact parseTokenSet_returns _
    · exact ofExcept_stays.bind fun _ _ => .throw _
  exact polled.bind fun token _ => (store_returns rfl token).bind fun _ _ => .pure trivial

theorem status_returns (own : route.connection = some connectionId) :
    Returns (conduct settings proper route) p (fun _ => True) (GetConnectionStatus.execute settings connectionId) := by
  refine (load_returns own).bind fun token _ => ?_
  cases token with
  | none => exact .pure trivial
  | some token =>
    refine (expired_returns token _).bind fun expired _ => ?_
    cases expired <;> exact .pure trivial

theorem revoke_returns (own : route.connection = some connectionId) {revokeToken : Option (TokenSet → Async Unit)}
    (revokes : ∀ revoke ∈ revokeToken, ∀ token, Returns (conduct settings proper route) p (fun _ => True) (revoke token)) :
    Returns (conduct settings proper route) p (fun _ => True) (RevokeConnection.execute revokeToken connectionId) := by
  refine (load_returns own).bind fun token _ => ?_
  cases token with
  | none => exact delete_returns own
  | some token =>
    cases revokeToken with
    | none => exact delete_returns own
    | some revoke => exact (revokes revoke rfl token).bind fun _ _ => delete_returns own

theorem revokeToken_returns {connectionId : String} (token : TokenSet) :
    Returns (conduct settings proper (.revokeXeroConnection connectionId)) p (fun _ => True) (XeroOAuth.revokeToken settings token) := by
  have told : Traffic settings p (.revokeXeroConnection connectionId) (.http
      { method := "POST", url := XeroOAuth.revokeUrl, data := [("token", token.accessToken)]
        auth := some (settings.xero.clientId, settings.xero.clientSecret) }) := ⟨token.accessToken, rfl⟩
  exact .tryCatch ((http_returns told).bind fun _ _ => .pure trivial) fun _ => .pure trivial

/-! The approvals. -/

/-- The loaded record is remembered as it is. -/
theorem approval_meets {approvalId : String} (own : route.approval = some approvalId) (fresh : p.loaded = none) :
    Meets (conduct settings proper route) (ApprovalStore.load approvalId) p
      (fun result l => l = { p with loaded := some result }) := by
  simp only [ApprovalStore.load, Meets.bind_iff, Async.redis_meets, Meets.andThen_ok, Async.ofExcept_meets]
  refine ⟨Or.inr ⟨fresh, approvalId, own, rfl⟩, fun hash _ => ?_⟩
  simp only [conduct_advance, advance, own, Option.map_some, if_true]

/-- What follows from the record that was loaded, if it could be read. -/
def After (told : Option ApprovalRequest → Except Exc α → Prop) (result : Except Exc α) (l : Phase) : Prop :=
  (∃ exc, l.loaded = some (.error exc)) ∨ ∃ found, l.loaded = some (.ok found) ∧ told found result

/-- A registration is a new record, or one that is there already. -/
def registered (body : Registration) : Option ApprovalRequest → Except Exc ApprovalRequest → Prop
  | none, result => ∃ now, result = .ok (RegisterApproval.pending body now)
  | some existing, result => result = if RegisterApproval.identical existing body then .ok existing else
      .error (.duplicateApprovalError ("An approval with approvalId=" ++ Library.repr body.approvalId ++
        " already exists with a different payload."))

theorem register_meets {body : Registration} (fresh : p.loaded = none) :
    Meets (conduct settings proper (.registerApproval body)) (RegisterApproval.execute body) p (After (registered body)) := by
  unfold RegisterApproval.execute
  rw [Meets.bind_iff]
  apply (approval_meets rfl fresh).mono
  rintro (exc | existing) l rfl
  · exact Or.inl ⟨exc, rfl⟩
  rw [Meets.andThen_ok]
  cases existing with
  | some existing =>
    dsimp only
    split
    · exact Or.inr ⟨some existing, rfl, (if_pos ‹_›).symm⟩
    · exact Or.inr ⟨some existing, rfl, (if_neg ‹_›).symm⟩
  | none =>
    dsimp only
    rw [Meets.bind_iff, Async.outside_meets]
    refine ⟨Or.inl trivial, fun now _ => ?_⟩
    rw [Meets.andThen_ok, Meets.bind_iff]
    exact ⟨Or.inr ⟨RegisterApproval.pending body now, ⟨rfl, now, rfl⟩, rfl, rfl⟩, fun _ _ => Or.inr ⟨none, rfl, now, rfl⟩⟩

omit [Library] in
/-- A pending approval is shown with the form, another one with its decision. -/
def shown (action : String) : Option ApprovalRequest → Except Exc Pages.Page → Prop
  | none, result => result = .ok (.failed "Approval request not found." 404)
  | some approval, result => result = .ok (if approval.status ≠ "pending" then .decided approval false else .confirm approval action)

theorem page_meets {approvalId action : String} (own : route.approval = some approvalId) (fresh : p.loaded = none) :
    Meets (conduct settings proper route) (Pages.renderDecisionPage approvalId action) p (After (shown action)) := by
  unfold Pages.renderDecisionPage
  rw [Meets.bind_iff, Meets.tryCatch_iff, Meets.map_iff]
  unfold GetApproval.execute
  rw [Meets.bind_iff]
  apply (approval_meets own fresh).mono
  rintro (exc | found) l rfl
  · have unread (result : Except Exc Pages.Page) : After (shown action) result { p with loaded := some (.error exc) } := Or.inl ⟨exc, rfl⟩
    cases exc <;> exact unread _
  · cases found with
    | none => exact Or.inr ⟨none, rfl, rfl⟩
    | some approval =>
      show Meets (conduct settings proper route) (if approval.status ≠ "pending" then pure (.decided approval false)
        else pure (.confirm approval action)) { p with loaded := some (.ok (some approval)) } (After (shown action))
      split
      · exact Or.inr ⟨some approval, rfl, congrArg Except.ok (if_pos ‹_›).symm⟩
      · exact Or.inr ⟨some approval, rfl, congrArg Except.ok (if_neg ‹_›).symm⟩

omit [Library] in
/-- A form that is in order finds its approval pending, or decided before. -/
def decided (decision : String) (note : Option String) : Option ApprovalRequest → Except Exc Pages.Page → Prop
  | none, result => result = .ok (.failed "Approval request not found." 404)
  | some approval, result => if approval.status ≠ "pending" then result = .ok (.decided approval true) else
      ∃ now webhookResult,
        result = .ok (.decided (RecordDecision.resolved approval decision (Pages.cleanNote note) "web_form" now webhookResult) true)

omit [Library] in
/-- A note that was stripped is not stripped further. -/
theorem cleanNote_stripped (note : Option String) :
    (((Pages.cleanNote note).bind orNone).map strip).bind orNone = (Pages.cleanNote note).bind orNone := by
  unfold Pages.cleanNote
  cases note.bind orNone with
  | none => rfl
  | some text =>
    by_cases blank : strip text = ""
    · simp [orNone, blank]
    · simp [orNone, blank, Approvals.strip_strip]

/-- What the form lets through, the use case does. -/
theorem checked_form (form : Pages.formError decision note = none) : RecordDecision.check decision (Pages.cleanNote note) = .ok () := by
  unfold Pages.formError at form
  split at form
  · cases form
  · split at form
    · cases form
    · rename_i known noted
      rw [RecordDecision.check, if_neg known, cleanNote_stripped, if_neg noted]

theorem decision_meets {approvalId decision : String} {note : Option String} (fresh : p.loaded = none) :
    Meets (conduct settings proper (.recordDecision approvalId decision note)) (Pages.recordDecision settings approvalId decision note) p
      (fun result l => match Pages.formError decision note with
        | some message => result = .ok (.failed message 400)
        | none => After (decided decision note) result l) := by
  unfold Pages.recordDecision
  cases refused : Pages.formError decision note with
  | some message => rfl
  | none =>
    dsimp only
    rw [Meets.tryCatch_iff, Meets.bind_iff]
    unfold RecordDecision.execute
    rw [Meets.bind_iff]
    apply (approval_meets rfl fresh).mono
    rintro (exc | found) l rfl
    · have unread (result : Except Exc Pages.Page) : After (decided decision note) result { p with loaded := some (.error exc) } :=
        Or.inl ⟨exc, rfl⟩
      cases exc <;> exact unread _
    rw [Meets.andThen_ok]
    cases found with
    | none => exact Or.inr ⟨none, rfl, rfl⟩
    | some found =>
      dsimp only
      split
      · rename_i settled
        refine Or.inr ⟨some found, rfl, ?_⟩
        rw [decided, if_pos settled]
      · rename_i pending
        have deciding (loaded : Phase) (same : loaded.loaded = some (.ok (some found))) : Deciding loaded decision note found :=
          ⟨same, not_not.mp pending, refused⟩
        rw [Meets.bind_iff, Async.ofExcept_meets, checked_form refused]
        simp only [Meets.andThen_ok, Webhook.notifyDecision, Meets.bind_iff, Async.outside_meets, Meets.pure_iff]
        refine ⟨Or.inl trivial, fun now _ => ⟨Or.inr ⟨found, deciding _ rfl, rfl⟩, fun answer _ => ?_⟩⟩
        refine ⟨Or.inr ⟨_, ⟨found, now, Webhook.webhookResult answer, deciding _ rfl, rfl⟩, rfl, rfl⟩, fun _ _ => ?_⟩
        refine Or.inr ⟨some found, rfl, ?_⟩
        rw [decided, if_neg pending]
        exact ⟨now, _, rfl⟩

end OpenClaw.Api
