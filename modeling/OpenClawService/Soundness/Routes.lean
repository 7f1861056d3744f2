import OpenClawService.Api.Requests
import OpenClawService.Soundness.Tokens

/-! The use cases are typed, and so are the routes: with what they may expect, each of them
ends in its success or in an error of the application's envelope. -/
namespace OpenClaw.Api
open Interleaving

section UseCases
variable [Library] {settings : Settings} {route : Route} {expected : Exc → Prop} {connectionId : String}

/-- A call whose failure is caught where it is made. -/
theorem http_caught {l : Standing} {request : HttpRequest} (sent : request.sendable = true) :
    Ends (typing settings route) l (fun response => Documented settings request (.ok response)) (fun _ l' => l' = l) (Async.http request) := by
  rw [Ends, Async.http_meets]
  refine ⟨trivial, fun answer delivered => ?_⟩
  have still : l.after route.xero (.outside (.http request)) answer = l := after_sent sent answer
  cases answer with
  | error text => exact still
  | ok response => exact ⟨still, delivered⟩

theorem caught_sound {l : Standing} {program : Async α} {fallback : α} {good : α → Prop}
    (ends : Ends (typing settings route) l good (fun _ l' => l' = l) program) (holds : good fallback) :
    Sound settings route l good expected (tryCatch program fun _ => pure fallback) :=
  ends.tryCatch fun _ _ same => ⟨same, holds⟩

/-! The OAuth use cases. -/

theorem fetchTenantId_sound (visible : Visible accessToken) : Sound settings route .free (fun tenantId => ∃ text, tenantId = .ofText text)
    expected (XeroOAuth.fetchTenantId accessToken) := by
  let request : HttpRequest := { method := "GET", url := XeroOAuth.connectionsUrl, headers := [bearer accessToken] }
  have sent : request.sendable = true := by
    have addressed : urlAccepted XeroOAuth.connectionsUrl = true := by decide
    simp [request, HttpRequest.sendable, headerAccepted_bearer visible, addressed]
  refine caught_sound ((http_caught sent).bind fun response documented => ?_) ⟨none, rfl⟩
  split
  · rename_i success
    obtain ⟨body, read, accepted⟩ := documented.connections rfl response rfl success
    obtain ⟨tenantId, found, named⟩ := tenantOf_reads accepted
    rw [HttpResponse.parse, read, ok_bind, found]
    exact ⟨rfl, named⟩
  · exact .pure ⟨none, rfl⟩

theorem revokeToken_sound (token : TokenSet) : Sound settings route .free (fun _ => True) expected (XeroOAuth.revokeToken settings token) := by
  have addressed : urlAccepted XeroOAuth.revokeUrl = true := by decide
  have sent : ({ method := "POST", url := XeroOAuth.revokeUrl, data := [("token", token.accessToken)]
                 auth := some (settings.xero.clientId, settings.xero.clientSecret) } : HttpRequest).sendable = true := by
    simp [HttpRequest.sendable, addressed]
  exact caught_sound ((http_caught sent).bind fun _ _ => .pure trivial) trivial

theorem pop_sound (state : String) : Sound settings route .free (fun _ => True) expected (OAuthStateStore.pop state) := by
  have watched : Sound settings route .free (fun _ => True) expected (Async.redis (.watch (OAuthStateStore.key state))) :=
    write_sound (fun _ => rfl) trivial
  have read : Sound settings route .free (fun _ => True) expected (Async.redis (.get (OAuthStateStore.key state))) :=
    write_sound (fun _ => rfl) trivial
  have left : Sound settings route .free (fun _ => True) expected (Async.redis .unwatch) := write_sound (fun _ => rfl) trivial
  have deleted : Sound settings route .free (fun _ => True) expected (Async.redis (.execDel (OAuthStateStore.key state))) :=
    write_sound (fun _ => rfl) trivial
  refine watched.bind fun _ _ => read.bind fun value _ => ?_
  cases value with
  | none => exact left.bind fun _ _ => .pure trivial
  | some connectionId =>
    refine deleted.bind fun done _ => ?_
    cases done <;> exact .pure trivial

theorem authorize_sound (connectionId : String) :
    Sound settings route .free (fun _ => True) expected (BuildXeroAuthorizationUrl.execute settings connectionId) := by
  have drawn : Sound settings route .free (fun _ => True) expected (Async.outside (.tokenUrlsafe 32)) := outside_sound nofun
  refine drawn.bind fun state _ => ?_
  have saved : Sound settings route .free (fun _ => True) expected
      (OAuthStateStore.save state connectionId settings.oauthStateTtlSeconds) := write_sound (fun _ => rfl) trivial
  exact saved.bind fun _ _ => .pure trivial

theorem status_sound : Sound settings route .free (fun _ => True) expected (GetConnectionStatus.execute settings connectionId) := by
  refine (load_sound connectionId).bind fun token _ => ?_
  cases token with
  | none => exact .pure trivial
  | some token =>
    refine (expired_sound token _).bind fun expired _ => ?_
    cases expired <;> exact .pure trivial

theorem revoke_sound {revokeToken : Option (TokenSet → Async Unit)}
    (revokes : ∀ revoke ∈ revokeToken, ∀ token, Sound settings route .free (fun _ => True) expected (revoke token)) :
    Sound settings route .free (fun _ => True) expected (RevokeConnection.execute revokeToken connectionId) := by
  refine (load_sound connectionId).bind fun token _ => ?_
  cases token with
  | none => exact delete_sound connectionId
  | some token =>
    cases revokeToken with
    | none => exact delete_sound connectionId
    | some revoke => exact (revokes revoke rfl token).bind fun _ _ => delete_sound connectionId

theorem pollDeviceCode_sound (deviceCode : String) (covers : Covers expected)
    (polls : ∀ exc, (pollStatus exc).isSome = true → expected exc) :
    Sound settings route .free (fun _ => True) expected (MSDeviceCode.pollDeviceCode settings deviceCode) := by
  have endpoint : (MSDeviceCode.pollRequest settings deviceCode).url = MSDeviceCode.tokenUrl settings := rfl
  refine (tokenEndpoint_sound endpoint).bind fun response read => (ofExcept_sound read).bind fun body accepted => ?_
  cases success : response.isSuccess with
  | true =>
    rw [success, if_pos rfl] at accepted
    exact parseTokenSet_sound accepted
  | false =>
    rw [success, if_neg Bool.false_ne_true] at accepted
    refine (ofExcept_sound (refusal_reads accepted)).bind fun error _ => throw_sound ?_
    unfold MSDeviceCode.pollFailure
    split
    · exact polls _ rfl
    · split
      · exact polls _ rfl
      · split
        · exact polls _ rfl
        · split <;> exact covers _ rfl

section Handled
variable (covers : Covers expected)
include covers

theorem exchangeCode_sound (code : String) : Sound settings route .free (fun _ => True) expected (XeroOAuth.exchangeCode settings code) := by
  have asked : Sound settings route .free (fun answer => ∀ raw, answer = .ok raw →
        TokenDict raw ∧ ∀ text, raw.getItem "access_token" = .ok (.str text) → Visible text) expected
      (Async.outside (.fetchToken settings.xero XeroOAuth.tokenUrl code settings.xero.redirectUri)) := by
    refine ⟨trivial, fun answer delivered => ⟨rfl, ?_⟩⟩
    rintro raw rfl
    exact delivered
  have refused (text : String) : expected (.providerUnavailableError ("Xero token exchange failed: " ++ text)) := covers _ rfl
  refine asked.bind fun answer read => (raising_sound refused read).bind fun raw issued => ?_
  obtain ⟨dict, shown⟩ := issued
  obtain ⟨text, found⟩ := dict.accessToken
  have accessToken : Reads (raw.getItem "access_token") fun accessToken => accessToken = .str text := ⟨_, found, rfl⟩
  refine (ofExcept_sound accessToken).bind fun accessToken same => ?_
  subst same
  rw [Library.str_text]
  refine (fetchTenantId_sound (shown text found)).bind fun tenantId named => ?_
  obtain ⟨tenant, rfl⟩ := named
  exact rawToTokenSet_sound dict tenant

theorem callback_sound (code state : String) :
    Sound settings route .free (fun _ => True) expected (HandleXeroOAuthCallback.execute settings code state) := by
  refine (pop_sound state).bind fun popped _ => ?_
  cases popped with
  | none => exact throw_sound (covers _ rfl)
  | some connectionId =>
    exact (exchangeCode_sound covers code).bind fun token _ => (store_sound connectionId token).bind fun _ _ => .pure trivial

theorem initiate_sound : Sound settings route .free DeviceCodeResult.Sound expected (InitiateMSDeviceCodeFlow.execute settings) := by
  have started : Sound settings route .free (fun body => deviceCodeBody.accepts body = true) expected
      (MSDeviceCode.startDeviceCodeFlow settings) := by
    refine (http_sound fun answer documented => documented.started rfl).bind fun response shaped => ?_
    split
    · exact throw_sound (covers _ rfl)
    · rename_i success
      exact ofExcept_sound (shaped (by simpa using success))
  exact started.bind fun body accepted => ofExcept_sound (deviceCode_reads accepted)

end Handled

/-! The idempotent use cases. -/

theorem hit_sound (key : String) : Sound settings route .free (fun cached => ∀ entry ∈ cached, route.entryShape.accepts entry = true)
    expected (IdempotencyStore.hit key) := by
  have read : Sound settings route .free (fun cached => ∀ entry ∈ cached, route.entryShape.accepts entry = true) expected
      (IdempotencyStore.get key) := by
    refine ⟨trivial, fun cached delivered => ⟨rfl, ?_⟩⟩
    rintro entry ⟨⟩
    exact delivered
  refine read.bind fun cached shaped => .pure ?_
  intro entry kept
  exact shaped entry (Option.mem_filter_iff.mp kept).1

theorem set_sound {value : Json} (shaped : route.entryShape.accepts value = true) (key : String) (ttlSeconds : Nat) :
    Sound settings route .free (fun _ => True) expected (IdempotencyStore.set key value ttlSeconds) := write_sound (fun _ => rfl) shaped

theorem sendOnce_sound {send : Async Json} (shape : route.entryShape = messageEntry)
    (sends : Sound settings route .free (fun body => messageBody.accepts body = true) expected send)
    (operation : String) (ttlSeconds : Nat) (key : Option String) :
    Sound settings route .free MessageResult.Sound expected (sendOnce operation ttlSeconds key send) := by
  have sent : Sound settings route .free MessageResult.Sound expected (do
      return (⟨← Async.ofExcept ((← send).getItem "id")⟩ : MessageResult)) :=
    sends.bind fun body accepted => (ofExcept_sound (sentId_reads accepted)).bind fun id sound => .pure sound
  unfold sendOnce
  cases key.bind orNone with
  | none => exact sent
  | some key =>
    refine (hit_sound _).bind fun cached shaped => ?_
    rw [shape] at shaped
    cases cached with
    | some entry => exact ofExcept_sound (message_ofCached (shaped entry rfl))
    | none =>
      refine sends.bind fun body accepted => (ofExcept_sound (sentId_reads accepted)).bind fun id sound => ?_
      have cached : route.entryShape.accepts (MessageResult.mk id).cached = true := by
        rw [shape]
        exact MessageResult.Sound.cached sound
      exact (set_sound cached _ _).bind fun _ _ => .pure sound

/-! The Xero use cases. -/
section Invoices
variable (covers : Covers expected) (own : route.xero = some connectionId)

omit [Library] in
theorem invoices_body {call : XeroHttp.Call} {rest : String} (addressed : call.url = XeroHttp.apiBase ++ ("/Invoices" ++ rest)) :
    call.body = invoicesBody := by
  have other (path : String) (differs : path.toList[1]? ≠ some 'I') : call.url ≠ XeroHttp.apiBase ++ path := by
    rw [addressed]
    intro same
    have paths := congrArg String.toList ((String.append_right_inj _).mp same)
    simp [← paths] at differs
  rw [XeroHttp.Call.body, if_neg (other _ (by decide)), if_neg (other _ (by decide)), if_neg (other _ (by decide))]

omit [Library] in
theorem createCall_body (payload : Json) : (XeroHttp.createCall payload).body = invoicesBody := by
  have addressed : (XeroHttp.createCall payload).url = XeroHttp.apiBase ++ ("/Invoices" ++ "") := rfl
  exact invoices_body addressed

omit [Library] in
theorem named_body {call : XeroHttp.Call} (invoiceId : String) (addressed : call.url = XeroHttp.apiBase ++ "/Invoices/" ++ invoiceId) :
    call.body = invoicesBody := by
  have joined : "/Invoices/" = "/Invoices" ++ "/" := rfl
  rw [joined, String.append_assoc, String.append_assoc] at addressed
  exact invoices_body addressed

include covers own

/-- A call whose body is known. -/
theorem called_sound {call : XeroHttp.Call} (known : call.body = shape) :
    Sound settings route .free (fun body => shape.accepts body = true) expected (XeroHttp.request settings connectionId call) := by
  subst known
  exact request_sound covers own call

theorem getInvoice_sound (invoiceId : String) : Sound settings route .free (fun body => invoicesBody.accepts body = true) expected
    ((XeroHttp.client settings).getInvoice connectionId invoiceId) := called_sound covers own (named_body invoiceId rfl)

theorem getResult_sound (invoiceId : String) : Sound settings route .free XeroInvoiceResult.Sound expected
    (GetXeroInvoice.execute (XeroHttp.client settings) connectionId invoiceId) :=
  (getInvoice_sound covers own invoiceId).bind fun _ accepted => ofExcept_sound (extractInvoiceResult_reads accepted)

/-- A provider that is unavailable has no status. -/
theorem liveStatus_sound (invoiceId : Json) : Sound settings route .free (fun status => (Shape.nullable .text).accepts status = true) expected
    (CreateXeroDraftInvoice.liveStatus (XeroHttp.client settings) connectionId invoiceId) := by
  have verified : Sound settings route .free (fun status => (Shape.nullable .text).accepts status = true) expected (do
      let verification ← (XeroHttp.client settings).getInvoice connectionId (Library.str invoiceId)
      Async.ofExcept (firstInvoice verification >>= Json.getItem "Status")) := by
    refine (getInvoice_sound covers own _).bind fun body accepted => ofExcept_sound ((status_reads accepted).mono ?_)
    intro status given
    obtain ⟨content, rfl⟩ := Shape.text_str given
    rfl
  unfold CreateXeroDraftInvoice.liveStatus
  refine verified.tryCatch fun exc l' raised => ?_
  cases exc with
  | providerUnavailableError text =>
    rcases raised with ⟨rfl, _⟩ | ⟨_, other⟩ | ⟨_, _, other⟩
    · exact ⟨rfl, rfl⟩
    · cases other
    · cases other
  | _ => exact raised

omit [Library] covers own in
theorem stands_reads {status : Json} (given : (Shape.nullable .text).accepts status = true) :
    Reads (CreateXeroDraftInvoice.stands status) fun _ => True := by
  rcases Shape.nullable_inner given with rfl | given
  · exact ⟨false, rfl, trivial⟩
  · obtain ⟨content, rfl⟩ := Shape.text_str given
    exact ⟨_, rfl, trivial⟩

theorem replay_sound {cached : Json} (shaped : invoiceEntry.accepts cached = true) :
    Sound settings route .free (fun found => ∀ result ∈ found, result.Sound) expected
      (CreateXeroDraftInvoice.replay (XeroHttp.client settings) connectionId cached) := by
  have invoiceId : Reads (cached.getItem "invoice_id") fun field => Shape.text.accepts field = true :=
    Shape.getItem_required shaped (by simp)
  have status : Reads (cached.getItem "status") fun field => Shape.text.accepts field = true := Shape.getItem_required shaped (by simp)
  refine (ofExcept_sound invoiceId).bind fun id first => (liveStatus_sound covers own id).bind fun live given =>
    (ofExcept_sound (stands_reads given)).bind fun standing _ => ?_
  cases standing with
  | false => exact .pure nofun
  | true =>
    refine (ofExcept_sound status).bind fun kept second => .pure ?_
    rintro result ⟨⟩
    exact ⟨first, second⟩

omit covers own in
theorem invoicePayload_reads (invoice : XeroInvoice) : Reads (invoicePayload invoice) fun _ => True := by
  simp [Reads, invoicePayload, Json.getItem, Json.isText, pure, Except.pure]

omit own in
/-- A created invoice of another type is an error that has a handler. -/
theorem accepted_sound {body : Json} (accepted : invoicesBody.accepts body = true) :
    Sound settings route .free XeroInvoiceResult.Sound expected (Async.ofExcept (CreateXeroDraftInvoice.accepted body)) := by
  obtain ⟨result, extracted, sound⟩ := extractInvoiceResult_reads accepted
  obtain ⟨invoice, first, fields⟩ := firstInvoice_reads accepted
  have type : Reads (invoice.get "Type" .null) fun field => Shape.anything.accepts field = true := Shape.get_optional fields (by simp) rfl
  obtain ⟨returned, read, _⟩ := type
  rw [CreateXeroDraftInvoice.accepted, extracted, first]
  simp only [ok_bind, read]
  split
  · exact ⟨rfl, sound⟩
  · exact Or.inl ⟨rfl, covers _ rfl⟩

section Cached
variable (shape : route.entryShape = invoiceEntry)
include shape

theorem create_sound (ttlSeconds : Nat) (invoice : XeroInvoice) (key : String) : Sound settings route .free XeroInvoiceResult.Sound expected
    (CreateXeroDraftInvoice.create (XeroHttp.client settings) ttlSeconds connectionId invoice key) := by
  refine (ofExcept_sound (invoicePayload_reads invoice)).bind fun payload _ => ?_
  refine (called_sound covers own (createCall_body _)).bind fun body accepted => (accepted_sound covers accepted).bind fun result sound => ?_
  have cached : route.entryShape.accepts result.cached = true := by
    rw [shape]
    exact XeroInvoiceResult.Sound.cached sound
  exact (set_sound cached _ _).bind fun _ _ => .pure sound

theorem createInvoice_sound (ttlSeconds : Nat) (invoice : XeroInvoice) (key : String) :
    Sound settings route .free XeroInvoiceResult.Sound expected
      (CreateXeroDraftInvoice.execute (XeroHttp.client settings) ttlSeconds connectionId invoice key) := by
  refine (hit_sound _).bind fun cached shaped => ?_
  rw [shape] at shaped
  cases cached with
  | none => exact create_sound covers own shape ..
  | some entry =>
    refine (replay_sound covers own (shaped entry rfl)).bind fun found sound => ?_
    cases found with
    | some result => exact .pure (sound result rfl)
    | none => exact create_sound covers own shape ..

theorem transition_sound (operation status : String) (ttlSeconds : Nat) (invoiceId key : String) :
    Sound settings route .free XeroInvoiceResult.Sound expected
      (transition operation status (XeroHttp.client settings) ttlSeconds connectionId invoiceId key) := by
  refine (hit_sound _).bind fun cached shaped => ?_
  rw [shape] at shaped
  cases cached with
  | some entry => exact ofExcept_sound (invoice_ofCached (shaped entry rfl))
  | none =>
    refine (called_sound covers own (named_body invoiceId rfl)).bind fun body accepted => ?_
    refine (ofExcept_sound (extractInvoiceResult_reads accepted)).bind fun result sound => ?_
    have cached : route.entryShape.accepts result.cached = true := by
      rw [shape]
      exact XeroInvoiceResult.Sound.cached sound
    exact (set_sound cached _ _).bind fun _ _ => .pure sound

end Cached

/-- A list is a request whose answer is converted. -/
theorem listed_sound {call : XeroHttp.Call} {key : String} {item : Shape} {convert : Json → Except Exc α} {good : α → Prop}
    (body : call.body = .record [] [(key, .list 0 item)]) (each : ∀ value, item.accepts value = true → Reads (convert value) good) :
    Sound settings route .free (fun results => ∀ result ∈ results, good result) expected (do
      let response ← XeroHttp.request settings connectionId call
      Async.ofExcept (listed key convert response)) :=
  (called_sound covers own body).bind fun _ accepted => ofExcept_sound (listed_reads accepted each)

end Invoices

end UseCases

/-! The routes. -/

/-- The status of a success. -/
def Route.success : Route → Nat
  | .createInvoice .. | .registerApproval _ => 201
  | .revokeXeroConnection _ | .revokeMsConnection _ => 204
  | _ => 200

/-- A success of the route, an error in the envelope, or an error page. -/
inductive Known (route : Route) : Reply → Prop
  | success {reply : Reply} (status : reply.statusCode = route.success) : Known route reply
  | error (error detail : String) (listed : statusCode ∈ [400, 401, 404, 409, 422, 502, 503]) :
      Known route ⟨statusCode, .json (errorBody error detail)⟩
  | page (message : String) (listed : statusCode ∈ [400, 404]) : Known route ⟨statusCode, .page (.failed message statusCode)⟩

theorem httpException_known {route : Route} (detail : String) (listed : statusCode ∈ [400, 401, 404, 409, 422, 502, 503]) :
    Known route (httpException statusCode detail) := .error _ detail listed

section Handle
variable [Library] [FastApi] {settings : Settings} {route : Route}

omit [FastApi] in
theorem modelled_sound {program : Async α} {good : α → Prop} {response : α → Except Exc Json} (statusCode : Nat)
    (runs : Sound settings route .free good Handled program) (reads : ∀ value, good value → Reads (response value) fun _ => True)
    (status : statusCode = route.success) : Sound settings route .free (Known route) Handled (modelled statusCode response program) :=
  runs.bind fun value holds => (ofExcept_sound (reads value holds)).bind fun _ _ => .pure (.success status)

omit [FastApi] in
theorem keyed_sound {program : String → Async Reply} {given : Option String} (purpose : String)
    (runs : ∀ key, Sound settings route .free (Known route) Handled (program key)) :
    Sound settings route .free (Known route) Handled (keyed given purpose program) := by
  unfold keyed
  cases given.bind orNone with
  | none => exact .pure (httpException_known _ (by simp))
  | some key => exact runs key

omit [Library] [FastApi] in
theorem covers_handled : Covers Handled := fun _ => id

omit [Library] [FastApi] in
theorem contacts_body (filter : String → String) (value : Option String) :
    (XeroHttp.listCall "/Contacts" filter value).body = contactsBody := if_pos rfl

omit [Library] [FastApi] in
theorem accounts_body (filter : String → String) (value : Option String) :
    (XeroHttp.listCall "/Accounts" filter value).body = accountsBody := by
  have other : XeroHttp.apiBase ++ "/Accounts" ≠ XeroHttp.apiBase ++ "/Contacts" := by decide
  rw [XeroHttp.Call.body, XeroHttp.listCall, if_neg other, if_pos rfl]

omit [Library] [FastApi] in
theorem taxRates_body (filter : String → String) (value : Option String) :
    (XeroHttp.listCall "/TaxRates" filter value).body = taxRatesBody := by
  have other : XeroHttp.apiBase ++ "/TaxRates" ≠ XeroHttp.apiBase ++ "/Contacts" := by decide
  have another : XeroHttp.apiBase ++ "/TaxRates" ≠ XeroHttp.apiBase ++ "/Accounts" := by decide
  rw [XeroHttp.Call.body, XeroHttp.listCall, if_neg other, if_neg another, if_pos rfl]

omit [FastApi] in
/-- The two exceptions of a poll have answers of their own. -/
theorem pollReply_sound (success : route.success = 200) (connectionId deviceCode : String) :
    Sound settings route .free (Known route) Handled (pollReply settings connectionId deviceCode) := by
  have polled : Sound settings route .free (Known route) (fun exc => Handled exc ∨ (pollStatus exc).isSome = true) (do
      let connectionId ← PollMSDeviceCodeFlow.execute settings connectionId deviceCode
      return ⟨200, .json (connectionResponse connectionId "authorized")⟩) := by
    have stored : Sound settings route .free (fun _ => True) (fun exc => Handled exc ∨ (pollStatus exc).isSome = true)
        (PollMSDeviceCodeFlow.execute settings connectionId deviceCode) :=
      (pollDeviceCode_sound deviceCode (fun _ => Or.inl) fun _ => Or.inr).bind fun token _ =>
        (store_sound connectionId token).bind fun _ _ => .pure trivial
    exact stored.bind fun _ _ => .pure (.success success.symm)
  refine polled.tryCatch fun exc l' raised => ?_
  cases status : pollStatus exc with
  | some text =>
    rcases raised with ⟨rfl, _⟩ | ⟨_, rfl⟩ | ⟨_, _, rfl⟩
    · exact ⟨rfl, .success success.symm⟩
    · cases status
    · cases status
  | none =>
    rcases raised with ⟨same, handled | polls⟩ | gone
    · exact Or.inl ⟨same, handled⟩
    · rw [status] at polls
      cases polls
    · exact Or.inr gone

/-- A route that is not about an approval. -/
theorem handle_sound (floats : Floats) (configured : urlAccepted (discoveryUrl settings) = true) (other : route.approval = none) :
    Sound settings route .free (Known route) Handled (handle settings route) := by
  cases route with
  | sendMessage connectionId message key =>
    have sends : Sound settings (.sendMessage connectionId message key) .free (fun body => messageBody.accepts body = true) Handled
        (MSGraph.sendMessage settings connectionId message) := postToChannel_sound covers_handled rfl ..
    exact modelled_sound 200 (sendOnce_sound rfl sends ..) (fun _ => messageResponse_reads) rfl
  | sendApproval connectionId card key =>
    have drawn : Sound settings (.sendApproval connectionId card key) .free (fun _ => True) Handled (Async.outside .uuid4) := outside_sound nofun
    have sends : Sound settings (.sendApproval connectionId card key) .free (fun body => messageBody.accepts body = true) Handled
        (MSGraph.sendAdaptiveCard settings connectionId card) := drawn.bind fun _ _ => postToChannel_sound covers_handled rfl ..
    exact modelled_sound 200 (sendOnce_sound rfl sends ..) (fun _ => messageResponse_reads) rfl
  | createInvoice connectionId invoice key =>
    exact keyed_sound _ fun key => modelled_sound 201 (createInvoice_sound covers_handled rfl rfl ..) (fun _ => invoiceResponse_reads) rfl
  | submitInvoice invoiceId connectionId key | voidInvoice invoiceId connectionId key =>
    exact keyed_sound _ fun key => modelled_sound 200 (transition_sound covers_handled rfl rfl ..) (fun _ => invoiceResponse_reads) rfl
  | getInvoice invoiceId connectionId =>
    exact modelled_sound 200 (getResult_sound covers_handled rfl invoiceId) (fun _ => invoiceResponse_reads) rfl
  | listContacts connectionId search =>
    have read : Sound settings (.listContacts connectionId search) .free (fun results => ∀ result ∈ results, result.Sound) Handled
        (ListXeroContacts.execute (XeroHttp.client settings) connectionId search) :=
      listed_sound covers_handled rfl (contacts_body XeroHttp.nameFilter search) fun _ => contact_reads
    exact modelled_sound 200 read (fun _ sound => listResponse_reads (fun result listed => contactResponse_reads (sound result listed)) _) rfl
  | listAccounts connectionId status =>
    have read : Sound settings (.listAccounts connectionId status) .free (fun results => ∀ result ∈ results, result.Sound) Handled
        (ListXeroAccounts.execute (XeroHttp.client settings) connectionId status) :=
      listed_sound covers_handled rfl (accounts_body XeroHttp.statusFilter status) fun _ => account_reads
    exact modelled_sound 200 read (fun _ sound => listResponse_reads (fun result listed => accountResponse_reads (sound result listed)) _) rfl
  | listTaxRates connectionId status =>
    have read : Sound settings (.listTaxRates connectionId status) .free (fun results => ∀ result ∈ results, result.Sound) Handled
        (ListXeroTaxRates.execute (XeroHttp.client settings) connectionId status) :=
      listed_sound covers_handled rfl (taxRates_body XeroHttp.statusFilter status) fun _ => taxRate_reads
    exact modelled_sound 200 read
      (fun _ sound => listResponse_reads (fun result listed => taxRateResponse_reads floats (sound result listed)) _) rfl
  | xeroAuthorize connectionId => exact modelled_sound 200 (authorize_sound connectionId) (fun _ _ => ⟨_, rfl, trivial⟩) rfl
  | xeroCallback code state => exact modelled_sound 200 (callback_sound covers_handled code state) (fun _ _ => ⟨_, rfl, trivial⟩) rfl
  | msDeviceCodeInitiate connectionId =>
    exact modelled_sound 200 (initiate_sound covers_handled) (fun _ sound => deviceCodeInitiateResponse_reads sound connectionId) rfl
  | msDeviceCodePoll connectionId deviceCode => exact pollReply_sound rfl connectionId deviceCode
  | getConnectionStatus connectionId => exact modelled_sound 200 status_sound (fun _ _ => ⟨_, rfl, trivial⟩) rfl
  | revokeXeroConnection connectionId =>
    refine (revoke_sound ?_).map fun _ _ => .success rfl
    rintro revoke ⟨⟩ token
    exact revokeToken_sound token
  | revokeMsConnection connectionId =>
    refine (revoke_sound ?_).map fun _ _ => .success rfl
    rintro revoke ⟨⟩
  | health =>
    have pinged : Sound settings .health .free (fun _ => True) Handled (Async.outside .ping) := ⟨trivial, fun _ _ => ⟨rfl, trivial⟩⟩
    have sent : ({ method := "GET", url := discoveryUrl settings } : HttpRequest).sendable = true := by
      simp [HttpRequest.sendable, configured]
    have probed : Sound settings .health .free (fun _ => True) Handled
        (Async.outside (.http { method := "GET", url := discoveryUrl settings })) := ⟨trivial, fun _ _ => ⟨after_sent sent _, trivial⟩⟩
    exact pinged.bind fun _ _ => probed.bind fun _ _ => .pure (.success rfl)
  | registerApproval | showApprovePage | showRejectPage | recordDecision => cases other

end Handle
end OpenClaw.Api
