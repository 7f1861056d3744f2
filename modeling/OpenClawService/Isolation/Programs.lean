import OpenClawService.Connection.Outward
import OpenClawService.Isolation.Protocol

/-! Every request keeps to its side of the keyspace, one use case at a time. -/
namespace OpenClaw.Isolation
open Interleaving Connection Credentials
open Meets (Stays)
variable [Library] {own : Territory} {mine : Prop} {settings : Settings} {connectionId : String} {α : Type}

/-- Nothing is asked of the tokens. -/
def quiet : Stance Unit := ⟨fun _ => True, fun _ _ => True, fun _ => True⟩

omit [Library] in
theorem quiet_keeps : quiet.Keeps l l' := ⟨trivial, id, id⟩

omit [Library] in
theorem stays_of {program : Async α} {post : Except Exc α → Unit → Prop} (meets : Meets (protocol own mine) program () post) :
    Stays (protocol own mine) () program := meets.mono fun _ _ _ => rfl

omit [Library] in
theorem redis_stays {command : Command} (admitted : admits own mine (.redis command)) :
    Stays (protocol own mine) () (Async.redis command) := ⟨admitted, fun _ _ => rfl⟩

omit [Library] in
theorem outward : Outward (protocol own mine) () := fun _ => ⟨trivial, fun _ _ => rfl⟩

omit [Library] in
theorem map_stays {program : Async α} {f : α → β} (stays : Stays (protocol own mine) () program) :
    Stays (protocol own mine) () (f <$> program) := Meets.map_iff.mpr stays

/-! The token managers, on a connection that is on its side. -/

theorem holder (side : connectionId = own.connectionId ↔ mine) : Holder (protocol own mine) connectionId quiet where
  plain := by
    intro l op _ plain
    refine ⟨?_, fun _ _ => quiet_keeps⟩
    cases op with
    | outside call => trivial
    | redis command =>
      cases command with
      | setNx key value ex => exact ⟨connectionId, plain, side⟩
      | get key | watch key | execDel key => exact Or.inl ⟨connectionId, plain, side⟩
      | unwatch => trivial
      | _ => exact plain.elim
  load _ := ⟨⟨connectionId, rfl, side⟩, fun _ _ => ⟨quiet_keeps, fun _ _ => trivial⟩⟩
  store _ _ := ⟨⟨connectionId, rfl, side⟩, fun _ _ => quiet_keeps⟩

theorem keeper (side : connectionId = own.connectionId ↔ mine) : Keeper (protocol own mine) settings connectionId quiet where
  toHolder := holder side
  refresh _ _ _ := ⟨trivial, fun _ _ => ⟨quiet_keeps, fun _ _ _ _ _ => trivial, fun _ _ _ => trivial⟩⟩

theorem graphKeeper (side : connectionId = own.connectionId ↔ mine) :
    GraphKeeper (protocol own mine) settings connectionId quiet where
  toHolder := holder side
  renew _ _ _ := ⟨trivial, fun _ _ => ⟨quiet_keeps, fun _ _ _ _ _ _ _ _ => trivial⟩⟩
  unavailable := id

theorem pass {call : XeroHttp.Call} {first : Bool} (side : connectionId = own.connectionId ↔ mine) :
    Pass (protocol own mine) settings connectionId call first quiet quiet.inside (fun _ _ => True) where
  keeper := keeper side
  ask _ _ _ := by
    refine ⟨trivial, fun answer _ => ?_⟩
    cases answer with
    | error text => trivial
    | ok response =>
      simp only [Settles]
      split
      · exact ⟨⟨connectionId, rfl, side⟩, fun _ _ => trivial⟩
      · split
        · trivial
        · exact fun _ => trivial
  tenantless _ _ _ _ := trivial
  raised _ _ := trivial

theorem request_stays {call : XeroHttp.Call} (side : connectionId = own.connectionId ↔ mine) :
    Stays (protocol own mine) () (XeroHttp.request settings connectionId call) :=
  stays_of (request_meets (pass side) (pass side) trivial)

theorem post_stays (side : connectionId = own.connectionId ↔ mine) (teamId channelId : String) (payload : Json) :
    Stays (protocol own mine) () (MSGraph.postToChannel settings connectionId teamId channelId payload) :=
  stays_of ((graphKeeper side).postToChannel_meets (fun _ _ _ _ => ⟨trivial, fun _ _ => quiet_keeps⟩) trivial)

theorem load_stays (side : connectionId = own.connectionId ↔ mine) :
    Stays (protocol own mine) () (TokenStore.load connectionId) :=
  stays_of ((holder side).load_meets trivial)

theorem store_stays (side : connectionId = own.connectionId ↔ mine) (token : TokenSet) :
    Stays (protocol own mine) () (TokenStore.store connectionId token) :=
  redis_stays ⟨connectionId, rfl, side⟩

omit [Library] in
theorem delete_stays (side : connectionId = own.connectionId ↔ mine) :
    Stays (protocol own mine) () (TokenStore.delete connectionId) := redis_stays ⟨connectionId, rfl, side⟩

/-! The writing requests, which share their entries with all others. -/

omit [Library] in
theorem hit_stays (operation key : String) :
    Stays (protocol own mine) () (IdempotencyStore.hit (idempotencyKey operation key)) :=
  .bind (redis_stays ⟨operation, key, rfl⟩) fun _ => rfl

omit [Library] in
theorem set_stays (operation key : String) (result : Json) (ttlSeconds : Nat) :
    Stays (protocol own mine) () (IdempotencyStore.set (idempotencyKey operation key) result ttlSeconds) :=
  redis_stays ⟨operation, key, rfl⟩

theorem create_stays (side : connectionId = own.connectionId ↔ mine) (ttlSeconds : Nat) (invoice : XeroInvoice) (key : String) :
    Stays (protocol own mine) () (CreateXeroDraftInvoice.create (XeroHttp.client settings) ttlSeconds connectionId invoice
      (idempotencyKey opCreateInvoice key)) :=
  .bind rfl fun _ => .bind (request_stays side) fun _ => .bind rfl fun _ => .bind (set_stays ..) fun _ => rfl

theorem createInvoice_stays (side : connectionId = own.connectionId ↔ mine) (ttlSeconds : Nat) (invoice : XeroInvoice)
    (key : String) : Stays (protocol own mine) ()
      (CreateXeroDraftInvoice.execute (XeroHttp.client settings) ttlSeconds connectionId invoice key) := by
  refine .bind (hit_stays ..) fun cached => ?_
  cases cached with
  | none => exact create_stays side ..
  | some cached =>
    have live (invoiceId : Json) : Stays (protocol own mine) ()
        (CreateXeroDraftInvoice.liveStatus (XeroHttp.client settings) connectionId invoiceId) := by
      refine .tryCatch (.bind (request_stays side) fun _ => rfl) fun exc => ?_
      cases exc <;> exact rfl
    have replayed : Stays (protocol own mine) ()
        (CreateXeroDraftInvoice.replay (XeroHttp.client settings) connectionId cached) := by
      refine .bind rfl fun invoiceId => .bind (live invoiceId) fun status => .bind rfl fun stands => ?_
      split
      · exact .bind rfl fun _ => rfl
      · exact rfl
    refine .bind replayed fun result => ?_
    cases result with
    | some result => exact rfl
    | none => exact create_stays side ..

theorem transition_stays (side : connectionId = own.connectionId ↔ mine) (operation status : String) (ttlSeconds : Nat)
    (invoiceId key : String) : Stays (protocol own mine) ()
      (transition operation status (XeroHttp.client settings) ttlSeconds connectionId invoiceId key) := by
  refine .bind (hit_stays ..) fun cached => ?_
  cases cached with
  | some cached => exact rfl
  | none =>
    exact .bind (request_stays side) fun _ => .bind rfl fun _ => .bind (set_stays ..) fun _ => rfl

omit [Library] in
theorem sendOnce_stays {send : Async Json} (sends : Stays (protocol own mine) () send) (operation : String) (ttlSeconds : Nat)
    (key : Option String) : Stays (protocol own mine) () (sendOnce operation ttlSeconds key send) := by
  unfold sendOnce
  cases key.bind orNone with
  | none => exact .bind sends fun _ => .bind rfl fun _ => rfl
  | some key =>
    refine .bind (hit_stays ..) fun cached => ?_
    cases cached with
    | some cached => exact rfl
    | none => exact .bind sends fun _ => .bind rfl fun _ => .bind (set_stays ..) fun _ => rfl

/-! The connections. -/

theorem authorize_stays (side : connectionId = own.connectionId ↔ mine) :
    Stays (protocol own mine) () (BuildXeroAuthorizationUrl.execute settings connectionId) :=
  .bind (outward _) fun state => .bind (redis_stays ⟨⟨state, rfl⟩, side⟩) fun _ => rfl

omit [Library] in
/-- What a callback pops is a connection on the side of its state. -/
theorem pop_meets {state : String} (side : own.states state ↔ mine) : Meets (protocol own mine) (OAuthStateStore.pop state) ()
    (fun result _ => ∀ connectionId, result = .ok (some connectionId) → (connectionId = own.connectionId ↔ mine)) := by
  have onState : OnState own mine (OAuthStateStore.key state) := ⟨state, rfl, side⟩
  simp only [OAuthStateStore.pop, Meets.bind_iff, Async.redis_meets, Meets.andThen_ok]
  refine ⟨Or.inr onState, fun _ _ => ⟨Or.inr onState, fun value known => ?_⟩⟩
  cases value with
  | none => exact ⟨trivial, fun _ _ other same => by cases same⟩
  | some connectionId =>
    refine ⟨Or.inr onState, fun deleted _ => ?_⟩
    cases deleted with
    | false =>
      intro other same
      cases same
    | true =>
      rintro other ⟨⟩
      exact known onState connectionId rfl

theorem callback_stays {code state : String} (side : own.states state ↔ mine) :
    Stays (protocol own mine) () (HandleXeroOAuthCallback.execute settings code state) := by
  unfold HandleXeroOAuthCallback.execute
  rw [Stays, Meets.bind_iff]
  apply (pop_meets side).mono
  rintro (exc | popped) _ found
  · rfl
  cases popped with
  | none => rfl
  | some connectionId =>
    have stored : Stays (protocol own mine) () (do
        let tokenSet ← XeroOAuth.exchangeCode settings code
        TokenStore.store connectionId tokenSet
        return connectionId) :=
      .bind (outward.exchangeCode code) fun token => .bind (store_stays (found connectionId rfl) token) fun _ => rfl
    exact stored

theorem initiate_stays : Stays (protocol own mine) () (InitiateMSDeviceCodeFlow.execute settings) :=
  .bind outward.startDeviceCodeFlow fun _ => rfl

theorem poll_stays (side : connectionId = own.connectionId ↔ mine) (deviceCode : String) :
    Stays (protocol own mine) () (PollMSDeviceCodeFlow.execute settings connectionId deviceCode) :=
  .bind (outward.pollDeviceCode deviceCode) fun token => .bind (store_stays side token) fun _ => rfl

theorem status_stays (side : connectionId = own.connectionId ↔ mine) :
    Stays (protocol own mine) () (GetConnectionStatus.execute settings connectionId) := by
  refine .bind (load_stays side) fun token => ?_
  cases token with
  | none => rfl
  | some token =>
    refine .bind (.bind (outward _) fun _ => rfl) fun expired => ?_
    split <;> rfl

theorem revoke_stays (side : connectionId = own.connectionId ↔ mine) {revokeToken : Option (TokenSet → Async Unit)}
    (revokes : ∀ revoke ∈ revokeToken, ∀ token, Stays (protocol own mine) () (revoke token)) :
    Stays (protocol own mine) () (RevokeConnection.execute revokeToken connectionId) := by
  refine .bind (load_stays side) fun token => ?_
  cases token with
  | none => exact delete_stays side
  | some token =>
    cases revokeToken with
    | none => exact delete_stays side
    | some revoke => exact .bind (revokes revoke rfl token) fun _ => delete_stays side

/-- Every request keeps to its side. -/
theorem respond_stays {job : Job} (sided : Sided own mine job) : Stays (protocol own mine) () (respond settings job) := by
  cases job with
  | authorize connectionId => exact map_stays (authorize_stays (sided.target rfl))
  | callback code state => exact map_stays (callback_stays (sided.state rfl))
  | initiate => exact map_stays initiate_stays
  | poll connectionId deviceCode => exact map_stays (poll_stays (sided.target rfl) deviceCode)
  | status connectionId => exact map_stays (status_stays (sided.target rfl))
  | revokeXero connectionId =>
    refine map_stays (revoke_stays (sided.target rfl) ?_)
    rintro revoke ⟨⟩ token
    exact outward.revokeToken settings token
  | revokeMicrosoft connectionId => exact map_stays (revoke_stays (sided.target rfl) nofun)
  | createInvoice connectionId invoice key => exact map_stays (createInvoice_stays (sided.target rfl) ..)
  | submitInvoice connectionId invoiceId key | voidInvoice connectionId invoiceId key =>
    exact map_stays (transition_stays (sided.target rfl) ..)
  | getInvoice connectionId invoiceId =>
    exact map_stays (.bind (request_stays (sided.target rfl)) fun _ => rfl)
  | listContacts connectionId search | listAccounts connectionId wanted | listTaxRates connectionId wanted =>
    exact map_stays (.bind (request_stays (sided.target rfl)) fun _ => rfl)
  | sendMessage connectionId message key =>
    exact map_stays (sendOnce_stays (post_stays (sided.target rfl) ..) ..)
  | sendApprovalCard connectionId card key =>
    exact map_stays (sendOnce_stays (.bind (outward _) fun _ => post_stays (sided.target rfl) ..) ..)

end OpenClaw.Isolation
