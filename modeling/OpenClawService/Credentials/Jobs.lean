import OpenClawService.Credentials.Programs

/-! The jobs, one use case at a time. -/
namespace OpenClaw.Credentials
open Interleaving Connection
variable [Library] {settings : Settings} {job : Job} {connectionId : String} {l : Phase}

/-- The job keeps to its automaton and to its connection. -/
abbrev Keeps (settings : Settings) (job : Job) (connectionId : String) (program : Async α) (l : Phase) : Prop :=
  Meets (protocol settings job) program l (fun _ l => l.connection = some connectionId)

/-! The Xero client. -/

theorem pass {call : XeroHttp.Call} (talks : job.provider = some .xero) (at_host : AtHost .xero call.url) (first : Bool) :
    Pass (protocol settings job) settings connectionId call first (working connectionId)
      (working connectionId).inside (fun _ l => l.connection = some connectionId) where
  keeper := keeper talks
  ask := by
    intro l token tenantId inside trusted _
    refine ⟨?_, fun answer _ => ?_⟩
    · rintro text url ⟨rfl, sent⟩
      have same : text = token.accessToken := by
        simpa [XeroHttp.Call.request, bearer_inj, bearer] using sent
      exact ⟨trusted text (by simp [secrets, same]), .xero, talks, at_host⟩
    · have kept : (working connectionId).inside (advance settings job l
          (.outside (.http (call.request token.accessToken tenantId))) answer) := (outside_keeps inside).inside
      cases answer with
      | error text => exact kept
      | ok response =>
        simp only [Settles]
        split
        · exact ⟨trivial, fun _ _ => kept⟩
        · split
          · exact kept
          · exact fun _ => kept
  tenantless inside _ _ _ := inside
  raised inside _ := inside

theorem request_keeps {call : XeroHttp.Call} (talks : job.provider = some .xero) (at_host : AtHost .xero call.url)
    (inside : l.connection = some connectionId) :
    Keeps settings job connectionId (XeroHttp.request settings connectionId call) l :=
  request_meets (pass talks at_host true) (pass talks at_host false) inside

/-! The use cases over the Xero client. -/

theorem hit_keeps (inside : l.connection = some connectionId) (key : String) :
    Keeps settings job connectionId (IdempotencyStore.hit key) l := by
  simp only [Keeps, IdempotencyStore.hit, IdempotencyStore.get, Meets.bind_iff, Async.redis_meets, Meets.andThen_ok,
    Meets.pure_iff]
  exact ⟨trivial, fun _ _ => inside⟩

theorem set_keeps (inside : l.connection = some connectionId) (key : String) (result : Json) (ttlSeconds : Nat) :
    Keeps settings job connectionId (IdempotencyStore.set key result ttlSeconds) l :=
  ⟨trivial, fun _ _ => inside⟩

theorem create_keeps (talks : job.provider = some .xero) (inside : l.connection = some connectionId) (ttlSeconds : Nat)
    (invoice : XeroInvoice) (key : String) :
    Keeps settings job connectionId
      (CreateXeroDraftInvoice.create (XeroHttp.client settings) ttlSeconds connectionId invoice key) l := by
  refine Meets.bind_keeps inside fun payload l inside => ?_
  refine Meets.bind_keeps (request_keeps talks createCall_at_host inside) fun response l inside => ?_
  refine Meets.bind_keeps inside fun result l inside => ?_
  exact Meets.bind_keeps (set_keeps inside ..) fun _ l inside => inside

theorem createInvoice_keeps (talks : job.provider = some .xero) (inside : l.connection = some connectionId)
    (ttlSeconds : Nat) (invoice : XeroInvoice) (key : String) :
    Keeps settings job connectionId
      (CreateXeroDraftInvoice.execute (XeroHttp.client settings) ttlSeconds connectionId invoice key) l := by
  refine Meets.bind_keeps (hit_keeps inside _) fun cached l inside => ?_
  cases cached with
  | none => exact create_keeps talks inside ..
  | some cached =>
    refine Meets.bind_keeps ?_ fun replayed l inside => ?_
    · refine Meets.bind_keeps inside fun invoiceId l inside => ?_
      refine Meets.bind_keeps ?_ fun status l inside => ?_
      · refine Meets.tryCatch_keeps ?_ fun exc l inside => ?_
        · exact Meets.bind_keeps (request_keeps talks getCall_at_host inside) fun _ l inside => inside
        · cases exc <;> exact inside
      · refine Meets.bind_keeps inside fun stands l inside => ?_
        split
        · exact Meets.bind_keeps inside fun _ l inside => inside
        · exact inside
    · cases replayed with
      | some result => exact inside
      | none => exact create_keeps talks inside ..

theorem transition_keeps (talks : job.provider = some .xero) (inside : l.connection = some connectionId)
    (operation status : String) (ttlSeconds : Nat) (invoiceId key : String) :
    Keeps settings job connectionId
      (transition operation status (XeroHttp.client settings) ttlSeconds connectionId invoiceId key) l := by
  refine Meets.bind_keeps (hit_keeps inside _) fun cached l inside => ?_
  cases cached with
  | some cached => exact inside
  | none =>
    refine Meets.bind_keeps (request_keeps talks updateCall_at_host inside) fun response l inside => ?_
    refine Meets.bind_keeps inside fun result l inside => ?_
    exact Meets.bind_keeps (set_keeps inside ..) fun _ l inside => inside

/-- One call of the client, whose answer is only converted. -/
theorem lookup_keeps {call : XeroHttp.Call} (talks : job.provider = some .xero) (at_host : AtHost .xero call.url)
    (inside : l.connection = some connectionId) (convert : Json → Except Exc α) :
    Keeps settings job connectionId (do
      let response ← XeroHttp.request settings connectionId call
      Async.ofExcept (convert response)) l :=
  Meets.bind_keeps (request_keeps talks at_host inside) fun _ _ inside => inside

/-! The use cases over the Graph client. -/

theorem post_keeps (talks : job.provider = some .microsoft) (inside : l.connection = some connectionId)
    (teamId channelId : String) (payload : Json) :
    Keeps settings job connectionId (MSGraph.postToChannel settings connectionId teamId channelId payload) l := by
  have posts : GraphKeeper.Posts (protocol settings job) (working connectionId) teamId channelId payload := by
    intro l token inside trusted
    refine ⟨?_, fun answer _ => outside_keeps inside⟩
    rintro text url ⟨rfl, sent⟩
    have same : text = token.accessToken := by simpa [MSGraph.postRequest, bearer_inj] using sent
    exact ⟨trusted text (by simp [secrets, same]), .microsoft, talks, microsoft_graph ..⟩
  exact ((graphKeeper talks).postToChannel_meets posts inside).mono fun _ _ yields => yields.keeps.inside

theorem sendOnce_keeps {send : Async Json}
    (sends : ∀ l, l.connection = some connectionId → Keeps settings job connectionId send l)
    (inside : l.connection = some connectionId) (operation : String) (ttlSeconds : Nat) (key : Option String) :
    Keeps settings job connectionId (sendOnce operation ttlSeconds key send) l := by
  unfold sendOnce
  cases key.bind orNone with
  | none =>
    refine Meets.bind_keeps (sends l inside) fun response l inside => ?_
    exact Meets.bind_keeps inside fun _ l inside => inside
  | some key =>
    refine Meets.bind_keeps (hit_keeps inside _) fun cached l inside => ?_
    cases cached with
    | some cached => exact inside
    | none =>
      refine Meets.bind_keeps (sends l inside) fun response l inside => ?_
      refine Meets.bind_keeps inside fun id l inside => ?_
      exact Meets.bind_keeps (set_keeps inside ..) fun _ l inside => inside

theorem sendAdaptiveCard_keeps (talks : job.provider = some .microsoft) (inside : l.connection = some connectionId)
    (card : TeamsApprovalCard) :
    Keeps settings job connectionId (MSGraph.sendAdaptiveCard settings connectionId card) l := by
  have drawn : Keeps settings job connectionId (Async.outside .uuid4) l :=
    ⟨fun _ _ sends => sends.elim, fun _ _ => (outside_keeps inside).inside⟩
  exact Meets.bind_keeps drawn fun _ l inside => post_keeps talks inside ..

/-! The connections. -/

/-- A job whose end is not asked about. -/
abbrev Ends (settings : Settings) (job : Job) (program : Async α) (l : Phase) : Prop :=
  Meets (protocol settings job) program l (fun _ _ => True)

theorem ends {program : Async α} {post : Except Exc α → Phase → Prop} (meets : Meets (protocol settings job) program l post) :
    Ends settings job program l := meets.mono fun _ _ _ => trivial

theorem http_ends {request : HttpRequest} (silent : ∀ token url, ¬ Sends (.http request) token url) :
    Ends settings job (Async.http request) l := by
  rw [Ends, Async.http_meets]
  exact ⟨fun token url sends => (silent token url sends).elim, fun _ _ => trivial⟩

theorem authorize_ends (talks : job.provider = some .xero) (inside : l.connection = some connectionId) :
    Ends settings job (BuildXeroAuthorizationUrl.execute settings connectionId) l := by
  simp only [Ends, BuildXeroAuthorizationUrl.execute, OAuthStateStore.save, Meets.bind_iff, Async.outside_meets,
    Meets.andThen_ok, Async.redis_meets, Meets.pure_iff]
  refine ⟨fun _ _ sends => sends.elim, fun state _ => ⟨⟨⟨state, rfl⟩, ?_, talks⟩, fun _ _ => trivial⟩⟩
  exact (outside_keeps inside).inside

theorem initiate_ends : Ends settings job (InitiateMSDeviceCodeFlow.execute settings) l := by
  refine Meets.bind_keeps ?_ fun body l _ => trivial
  refine Meets.bind_keeps (http_ends ?_) fun response l _ => ?_
  · simp [Sends]
  · split <;> trivial

/-- A poll stores what the token endpoint answers. -/
theorem poll_ends (talks : job.provider = some .microsoft) (inside : l.connection = some connectionId) (deviceCode : String) :
    Ends settings job (PollMSDeviceCodeFlow.execute settings connectionId deviceCode) l := by
  have silent (token url : String) : ¬ Sends (.http (MSDeviceCode.pollRequest settings deviceCode)) token url := by
    simp [Sends, MSDeviceCode.pollRequest]
  have polled : Meets (protocol settings job) (MSDeviceCode.pollDeviceCode settings deviceCode) l
      ((working connectionId).Yields (fun token l => (working connectionId).trusted l token) l) := by
    rw [MSDeviceCode.pollDeviceCode, Meets.bind_iff, Async.http_meets]
    refine ⟨fun token url sends => (silent token url sends).elim, fun answer _ => ?_⟩
    have kept : (working connectionId).Keeps l (advance settings job l
        (.outside (.http (MSDeviceCode.pollRequest settings deviceCode))) answer) := outside_keeps inside
    cases answer with
    | error text => exact kept
    | ok response =>
      simp only [Except.mapError, Meets.andThen_ok, Meets.bind_iff, Async.ofExcept_meets]
      cases parsed : response.parse with
      | error exc => exact (GraphKeeper.raised kept.inside trivial exc).after kept
      | ok body =>
        rw [Meets.andThen_ok]
        split
        · rename_i success
          exact ((graphKeeper talks).parseTokenSet_meets kept.inside fun now token read =>
            known_read talks rfl success parsed read).mono fun _ _ later => later.after kept
        · rw [Meets.bind_iff, Async.ofExcept_meets]
          cases body.get "error" (.str "") with
          | error exc => exact (GraphKeeper.raised kept.inside trivial exc).after kept
          | ok error => exact (GraphKeeper.raised kept.inside trivial _).after kept
  have stored : Meets (protocol settings job) (PollMSDeviceCodeFlow.execute settings connectionId deviceCode) l
      ((working connectionId).Yields (fun _ _ => True) l) := by
    apply Stance.Yields.bind polled
    intro token l₁ kept₁ trusted
    apply Stance.Yields.bind ((graphKeeper talks).store_meets kept₁.inside trusted)
    intro _ l₂ kept₂ _
    exact ⟨.refl kept₂.inside, trivial⟩
  exact ends stored

theorem status_ends (silent : job.provider = none) : Ends settings job (GetConnectionStatus.execute settings connectionId) l := by
  refine Meets.bind_keeps ?_ fun token l _ => ?_
  · exact Meets.bind_keeps ⟨Or.inl silent, fun _ _ => trivial⟩ fun _ _ _ => trivial
  · cases token with
    | none => trivial
    | some token =>
      refine Meets.bind_keeps ?_ fun expired l _ => ?_
      · exact Meets.bind_keeps ⟨fun _ _ sends => sends.elim, fun _ _ => trivial⟩ fun _ _ _ => trivial
      · split <;> trivial

theorem delete_ends : Ends settings job (TokenStore.delete connectionId) l := ⟨trivial, fun _ _ => trivial⟩

theorem revokeMicrosoft_ends (silent : job.provider = none) :
    Ends settings job (RevokeConnection.execute none connectionId) l := by
  refine Meets.bind_keeps ?_ fun token l _ => ?_
  · exact Meets.bind_keeps ⟨Or.inl silent, fun _ _ => trivial⟩ fun _ _ _ => trivial
  · cases token <;> exact delete_ends

theorem revokeXero_ends (talks : job.provider = some .xero) (inside : l.connection = some connectionId) :
    Ends settings job (RevokeConnection.execute (some (XeroOAuth.revokeToken settings)) connectionId) l := by
  unfold RevokeConnection.execute
  rw [Ends, Meets.bind_iff]
  apply ((keeper talks).load_meets inside).mono
  rintro (exc | token) l₁ yields
  · trivial
  cases token with
  | none => exact delete_ends
  | some token =>
    refine Meets.bind_keeps ?_ fun _ l _ => delete_ends
    refine Meets.tryCatch_keeps ?_ fun _ _ _ => trivial
    rw [Meets.bind_iff, Async.http_meets]
    refine ⟨?_, fun answer _ => ?_⟩
    · rintro text url ⟨rfl, sent⟩
      have same : text = token.accessToken := by simpa using sent
      exact ⟨yields.2 token rfl text (by simp [secrets, same]), .xero, talks, xero_revoke⟩
    · cases answer <;> trivial

/-! The callback. -/

omit [Library] in
/-- The connection id that a pop returns is the one that the state was saved with. -/
theorem pop_meets [Library] (code state : String) :
    Meets (protocol settings (.callback code state)) (OAuthStateStore.pop state) l
      (fun result l => ∀ connectionId, result = .ok (some connectionId) → l.connection = some connectionId) := by
  have own : (Job.callback code state).stateKey = some (OAuthStateStore.key state) := rfl
  simp only [OAuthStateStore.pop, Meets.bind_iff, Async.redis_meets, Meets.andThen_ok]
  refine ⟨trivial, fun _ _ => ⟨trivial, fun value _ => ?_⟩⟩
  simp only [protocol_advance, advance, own, if_true]
  cases value with
  | none => exact ⟨trivial, fun _ _ other same => by cases same⟩
  | some connectionId =>
    simp only [Meets.bind_iff, Async.redis_meets, Meets.andThen_ok]
    refine ⟨trivial, fun deleted _ => ?_⟩
    cases deleted with
    | false =>
      intro other same
      cases same
    | true =>
      rintro other ⟨⟩
      rfl

/-- The tenant lookup presents a token that has just been issued. -/
theorem fetchTenantId_meets (talks : job.provider = some .xero) (inside : l.connection = some connectionId)
    (known : accessToken ∈ l.known) :
    Meets (protocol settings job) (XeroOAuth.fetchTenantId accessToken) l
      ((working connectionId).Yields (fun _ _ => True) l) := by
  rw [XeroOAuth.fetchTenantId, Meets.tryCatch_iff, Meets.bind_iff, Async.http_meets]
  refine ⟨?_, fun answer _ => ?_⟩
  · rintro text url ⟨rfl, sent⟩
    have same : text = accessToken := by simpa [bearer_inj] using sent
    exact ⟨same ▸ known, .xero, talks, xero_connections⟩
  · have kept (value : Json) : (working connectionId).Yields (fun _ _ => True) l (.ok value) (advance settings job l
        (.outside (.http { method := "GET", url := XeroOAuth.connectionsUrl, headers := [bearer accessToken] })) answer) :=
      ⟨outside_keeps inside, trivial⟩
    cases answer with
    | error text => exact kept .null
    | ok response =>
      simp only [Except.mapError, Meets.andThen_ok]
      split
      · rw [Async.ofExcept_meets]
        cases response.parse >>= XeroOAuth.tenantOf with
        | ok tenant => exact kept tenant
        | error exc => exact kept .null
      · exact kept .null

/-- An exchange yields the token set of its answer. -/
theorem exchangeCode_meets (talks : job.provider = some .xero) (inside : l.connection = some connectionId) (code : String) :
    Meets (protocol settings job) (XeroOAuth.exchangeCode settings code) l
      ((working connectionId).Yields (fun token l => (working connectionId).trusted l token) l) := by
  simp only [XeroOAuth.exchangeCode, Meets.bind_iff, Async.outside_meets, Meets.andThen_ok, Async.raising_meets]
  refine ⟨fun _ _ sends => sends.elim, fun answer _ => ?_⟩
  have kept : (working connectionId).Keeps l (advance settings job l
      (.outside (.fetchToken settings.xero XeroOAuth.tokenUrl code settings.xero.redirectUri)) answer) := outside_keeps inside
  cases answer with
  | error text => exact ⟨kept, trivial⟩
  | ok raw =>
    have issued : ∀ text ∈ bodySecrets raw, text ∈ (advance settings job l
        (.outside (.fetchToken settings.xero XeroOAuth.tokenUrl code settings.xero.redirectUri)) (.ok raw)).known := by
      intro text member
      simp only [advance, talks]
      exact List.mem_append_left _ member
    simp only [Except.mapError, Meets.andThen_ok]
    rw [Meets.bind_iff, Async.ofExcept_meets]
    cases access : raw.getItem "access_token" with
    | error exc => exact (GraphKeeper.raised kept.inside trivial exc).after kept
    | ok accessToken =>
      rw [Meets.andThen_ok]
      have looked : Meets (protocol settings job) (XeroOAuth.fetchTenantId (Library.str accessToken)) _ _ :=
        fetchTenantId_meets talks kept.inside (issued _ (by simp [bodySecrets, access]))
      apply (Stance.Yields.bind looked ?_).mono fun _ _ later => later.after kept
      intro tenant l' later _
      refine (holder (by simp [talks])).rawToTokenSet_meets later.inside fun now token read => ?_
      exact later.trusted fun text member => issued text (bodySecrets_readXero read text member)

theorem callback_ends (code state : String) :
    Ends settings (.callback code state) (HandleXeroOAuthCallback.execute settings code state) l := by
  have talks : (Job.callback code state).provider = some .xero := rfl
  unfold HandleXeroOAuthCallback.execute
  rw [Ends, Meets.bind_iff]
  apply (pop_meets code state).mono
  rintro (exc | popped) l₁ found
  · trivial
  cases popped with
  | none => trivial
  | some connectionId =>
    have keeping : Keeper (protocol settings (.callback code state)) settings connectionId (working connectionId) :=
      keeper talks
    have stored : Meets (protocol settings (.callback code state)) (do
        let tokenSet ← XeroOAuth.exchangeCode settings code
        TokenStore.store connectionId tokenSet
        return connectionId) l₁ ((working connectionId).Yields (fun _ _ => True) l₁) := by
      apply Stance.Yields.bind (exchangeCode_meets talks (found connectionId rfl) code)
      intro token l₂ kept₂ trusted
      apply Stance.Yields.bind (keeping.store_meets kept₂.inside trusted)
      intro _ l₃ kept₃ _
      exact ⟨.refl kept₃.inside, trivial⟩
    exact ends stored

theorem map_ends {program : Async α} {f : α → β} (meets : Ends settings job program l) :
    Ends settings job (f <$> program) l := Meets.map_iff.mpr meets

/-- Every job keeps to its automaton. -/
theorem job_ends (job : Job) : Ends settings job (job.run settings) ⟨[], job.connection⟩ := by
  cases job with
  | authorize connectionId => exact map_ends (authorize_ends rfl rfl)
  | callback code state => exact map_ends (callback_ends code state)
  | initiate => exact map_ends initiate_ends
  | poll connectionId deviceCode => exact map_ends (poll_ends rfl rfl deviceCode)
  | status connectionId => exact map_ends (status_ends rfl)
  | revokeXero connectionId => exact revokeXero_ends rfl rfl
  | revokeMicrosoft connectionId => exact revokeMicrosoft_ends rfl
  | createInvoice connectionId invoice key => exact map_ends (ends (createInvoice_keeps rfl rfl ..))
  | submitInvoice connectionId invoiceId key => exact map_ends (ends (transition_keeps rfl rfl ..))
  | voidInvoice connectionId invoiceId key => exact map_ends (ends (transition_keeps rfl rfl ..))
  | getInvoice connectionId invoiceId => exact map_ends (ends (lookup_keeps rfl getCall_at_host rfl _))
  | listContacts connectionId search => exact map_ends (ends (lookup_keeps rfl listCall_at_host rfl _))
  | listAccounts connectionId wanted => exact map_ends (ends (lookup_keeps rfl listCall_at_host rfl _))
  | listTaxRates connectionId wanted => exact map_ends (ends (lookup_keeps rfl listCall_at_host rfl _))
  | sendMessage connectionId message key =>
    exact map_ends (ends (sendOnce_keeps (fun _ inside => post_keeps rfl inside ..) rfl ..))
  | sendApprovalCard connectionId card key =>
    exact map_ends (ends (sendOnce_keeps (fun _ inside => sendAdaptiveCard_keeps rfl inside ..) rfl ..))

end OpenClaw.Credentials
