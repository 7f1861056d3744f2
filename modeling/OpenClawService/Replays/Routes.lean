import OpenClawService.Replays.Recollection

/-! The writing routes answer from the entry of their key: from what they found there, or
from what they have put there. -/
namespace OpenClaw.Api
open Interleaving
variable [Library] {settings : Settings} {route : Route} {memory : Recall} {connectionId : String}

theorem admits_uncached {proper : Json → Prop} {p : Phase} {op : Op} (unkeyed : route.entry = none)
    (allowed : admits settings proper route p op) : Uncached op := by
  cases op with
  | outside call => trivial
  | redis command =>
    cases command with
    | getJson k => cases unkeyed.symm.trans allowed
    | setJson k value ttl => cases unkeyed.symm.trans allowed.1
    | _ => trivial

/-- What keeps to the conduct of a route without an entry touches none. -/
theorem uncached_of {twin : Route} {program : Async α} {post : Except Exc α → Phase → Prop} (unkeyed : twin.entry = none)
    (meets : Meets (conduct settings (fun _ => True) twin) program {} post) : program.run.Uses Uncached := by
  refine (Conforms.uses (fun _ => anything_expected) meets).mono ?_
  rintro op ⟨p, allowed⟩
  exact admits_uncached unkeyed allowed

/-- A call of the client, as a route without a key makes it. -/
theorem request_uncached (twin : Route) {call : XeroHttp.Call} (unkeyed : twin.entry = none) (own : twin.connection = some connectionId)
    (renews : ∀ refreshToken, Traffic settings {} twin (.refreshToken settings.xero XeroOAuth.tokenUrl refreshToken))
    (asks : ∀ token tenantId, Traffic settings {} twin (.http (call.request token tenantId))) :
    (XeroHttp.request settings connectionId call).run.Uses Uncached := by
  have returns : Returns (conduct settings (fun _ => True) twin) {} (fun _ => True) (XeroHttp.request settings connectionId call) :=
    request_returns own renews rfl asks
  exact uncached_of unkeyed returns

/-- The two transitions, and the routes that they belong to. -/
theorem transition_uncached (twin : Route) {invoiceId status : String} (unkeyed : twin.entry = none)
    (own : twin.connection = some connectionId)
    (traffic : Traffic settings {} twin = XeroTraffic settings (· = XeroHttp.updateCall invoiceId status)) :
    ((XeroHttp.client settings).updateInvoiceStatus connectionId invoiceId status).run.Uses Uncached := by
  refine request_uncached twin unkeyed own (fun refreshToken => ?_) fun token tenantId => ?_
  · rw [traffic]
    exact Or.inl ⟨refreshToken, rfl⟩
  · rw [traffic]
    exact Or.inr ⟨_, token, tenantId, rfl, rfl⟩

theorem create_uncached {invoice : XeroInvoice} {payload : Json} (built : invoicePayload invoice = .ok payload) :
    ((XeroHttp.client settings).createInvoice connectionId (.obj [("Invoices", .arr [payload])])).run.Uses Uncached := by
  refine request_uncached (.createInvoice connectionId invoice none) rfl rfl (fun refreshToken => ?_) fun token tenantId => ?_
  · exact Or.inl ⟨refreshToken, rfl⟩
  · exact Or.inr ⟨_, token, tenantId, Or.inr ⟨payload, built, rfl⟩, rfl⟩

theorem sendMessage_uncached (message : TeamsMessage) : (MSGraph.sendMessage settings connectionId message).run.Uses Uncached := by
  have returns : Returns (conduct settings (fun _ => True) (.sendMessage connectionId message none)) {} (fun _ => True)
      (MSGraph.sendMessage settings connectionId message) := by
    refine postToChannel_returns rfl ?_ rfl fun token => Or.inr ⟨_, token, rfl, rfl⟩
    exact fun refreshToken => Or.inl ⟨refreshToken, rfl⟩
  exact uncached_of rfl returns

theorem sendAdaptiveCard_uncached (card : TeamsApprovalCard) : (MSGraph.sendAdaptiveCard settings connectionId card).run.Uses Uncached := by
  have returns : Returns (conduct settings (fun _ => True) (.sendApproval connectionId card none)) {} (fun _ => True)
      (MSGraph.sendAdaptiveCard settings connectionId card) := by
    refine (local_returns .uuid4 trivial).bind fun attachmentId _ => ?_
    refine postToChannel_returns rfl ?_ rfl fun token => Or.inr ⟨_, token, ⟨attachmentId, rfl⟩, rfl⟩
    exact fun refreshToken => Or.inl ⟨refreshToken, rfl⟩
  exact uncached_of rfl returns

/-! The use cases. -/

omit [Library] in
/-- A step that touches no entry, on the way to what is written. -/
theorem step_recollects {read : Json → Except Exc β} {program : Async α} {next : α → Async β} (uncached : program.run.Uses Uncached)
    (opened : memory.Open route) (rest : ∀ value, Meets (recollection route) (next value) memory (Recollected read)) :
    Meets (recollection route) (program >>= next) memory (Recollected read) := by
  rw [Meets.bind_iff]
  apply Meets.mono (uncached_stays uncached opened)
  rintro (exc | value) _ rfl
  · exact .error opened.unwritten exc
  · exact rest value

omit [Library] in
/-- What is read out of an answer, which may raise. -/
theorem read_recollects {read : Json → Except Exc β} {outcome : Except Exc α} {next : α → Async β} (opened : memory.Open route)
    (rest : ∀ value, outcome = .ok value → Meets (recollection route) (next value) memory (Recollected read)) :
    Meets (recollection route) (Async.ofExcept outcome >>= next) memory (Recollected read) := by
  rw [Meets.bind_iff, Async.ofExcept_meets]
  cases outcome with
  | error exc => exact .error opened.unwritten exc
  | ok value => exact rest value rfl

omit [Library] in
theorem sendOnce_recollects {send : Async Json} {given : Option String} (uncached : send.run.Uses Uncached)
    (present : given.bind orNone = some key) (operation : String) (ttlSeconds : Nat) :
    Meets (recollection route) (sendOnce operation ttlSeconds given send) .fresh (Recollected MessageResult.ofCached) := by
  unfold sendOnce
  rw [present]
  refine hit_recollects _ (fun cached => .found _ cached) ?_
  exact step_recollects uncached .missed fun body => read_recollects .missed fun id _ => store_recollects .missed rfl ..

theorem transition_recollects {status invoiceId : String}
    (uncached : ((XeroHttp.client settings).updateInvoiceStatus connectionId invoiceId status).run.Uses Uncached)
    (operation : String) (ttlSeconds : Nat) (key : String) :
    Meets (recollection route) (transition operation status (XeroHttp.client settings) ttlSeconds connectionId invoiceId key) .fresh
      (Recollected XeroInvoiceResult.ofCached) := by
  refine hit_recollects _ (fun cached => .found _ cached) ?_
  exact step_recollects uncached .missed fun body => read_recollects .missed fun result _ => store_recollects .missed rfl ..

theorem create_recollects (opened : memory.Open route) (ttlSeconds : Nat) (invoice : XeroInvoice) (key : String) :
    Meets (recollection route) (CreateXeroDraftInvoice.create (XeroHttp.client settings) ttlSeconds connectionId invoice key) memory
      (Recollected XeroInvoiceResult.ofCached) :=
  read_recollects opened fun _ built => step_recollects (create_uncached built) opened fun _ =>
    read_recollects opened fun _ _ => store_recollects opened rfl ..

theorem liveStatus_uncached (invoiceId : Json) :
    (CreateXeroDraftInvoice.liveStatus (XeroHttp.client settings) connectionId invoiceId).run.Uses Uncached := by
  let twin : Route := .getInvoice (Library.str invoiceId) connectionId
  have asked : Returns (conduct settings (fun _ => True) twin) {} (fun _ => True)
      ((XeroHttp.client settings).getInvoice connectionId (Library.str invoiceId)) := by
    refine request_returns rfl (fun refreshToken => ?_) rfl fun token tenantId => ?_
    · exact Or.inl ⟨refreshToken, rfl⟩
    · exact Or.inr ⟨_, token, tenantId, rfl, rfl⟩
  have verified : Returns (conduct settings (fun _ => True) twin) {} (fun _ => True)
      (CreateXeroDraftInvoice.liveStatus (XeroHttp.client settings) connectionId invoiceId) := by
    refine .tryCatch (asked.bind fun _ _ => ofExcept_returns fun _ _ => trivial) fun exc => ?_
    cases exc <;> first | exact .pure trivial | exact .throw _
  exact uncached_of rfl verified

/-- A verification writes nothing, and what it lets stand is read from the entry. -/
theorem replay_meets (verifies : route.verifies = true) (cached : Json) :
    Meets (recollection route) (CreateXeroDraftInvoice.replay (XeroHttp.client settings) connectionId cached) (.found cached)
      (fun result memory => memory = .found cached ∧
        ∀ found, result = .ok (some found) → XeroInvoiceResult.ofCached cached = .ok found) := by
  unfold CreateXeroDraftInvoice.replay
  rw [Meets.bind_iff, Async.ofExcept_meets]
  cases named : cached.getItem "invoice_id" with
  | error exc => exact ⟨rfl, nofun⟩
  | ok invoiceId =>
    rw [Meets.andThen_ok, Meets.bind_iff]
    apply Meets.mono (uncached_stays (liveStatus_uncached invoiceId) (.found verifies cached))
    rintro (exc | status) _ rfl
    · exact ⟨rfl, nofun⟩
    · rw [Meets.andThen_ok, Meets.bind_iff, Async.ofExcept_meets]
      cases CreateXeroDraftInvoice.stands status with
      | error exc => exact ⟨rfl, nofun⟩
      | ok standing =>
        cases standing with
        | false => exact ⟨rfl, nofun⟩
        | true =>
          simp only [Meets.andThen_ok, if_true, Meets.bind_iff, Async.ofExcept_meets]
          cases kept : cached.getItem "status" with
          | error exc => exact ⟨rfl, nofun⟩
          | ok status =>
            refine ⟨rfl, ?_⟩
            rintro _ ⟨⟩
            rw [XeroInvoiceResult.ofCached, named, kept]
            rfl

/-- A found invoice that stands is answered from the entry; one that does not is created again. -/
theorem createInvoice_recollects (verifies : route.verifies = true) (ttlSeconds : Nat) (invoice : XeroInvoice) (key : String) :
    Meets (recollection route) (CreateXeroDraftInvoice.execute (XeroHttp.client settings) ttlSeconds connectionId invoice key) .fresh
      (Recollected XeroInvoiceResult.ofCached) := by
  refine hit_recollects _ (fun cached => ?_) (create_recollects .missed ..)
  have opened : (Recall.found cached).Open route := .found verifies cached
  simp only [Meets.bind_iff]
  apply Meets.mono (replay_meets verifies cached)
  rintro (exc | found) _ ⟨rfl, stands⟩
  · exact .error opened.unwritten exc
  · cases found with
    | none => exact create_recollects opened ..
    | some result =>
      have read := Recollected.found XeroInvoiceResult.ofCached cached
      rw [stands result rfl] at read
      exact read

/-! The routes. -/

/-- A result in its response model, or the exception. -/
def replied (statusCode : Nat) (response : α → Except Exc Json) (result : Except Exc α) : Except Exc Reply := do
  return ⟨statusCode, .json (← response (← result))⟩

/-- The success that the cached result of an operation is answered with. -/
def replay (operation : String) (value : Json) : Except Exc Reply :=
  if operation = opSendMessage ∨ operation = opSendApproval then replied 200 messageResponse (MessageResult.ofCached value)
  else replied (if operation = opCreateInvoice then 201 else 200) invoiceResponse (XeroInvoiceResult.ofCached value)

omit [Library] in
theorem modelled_recollects {program : Async α} {read : Json → Except Exc α} (statusCode : Nat) (response : α → Except Exc Json)
    (recollects : Meets (recollection route) program .fresh (Recollected read)) :
    Meets (recollection route) (modelled statusCode response program) .fresh
      (Recollected fun value => replied statusCode response (read value)) := by
  unfold modelled
  rw [Meets.bind_iff]
  apply Meets.mono recollects
  intro result memory recollected
  have answered : Recollected (fun value => replied statusCode response (read value)) (replied statusCode response result) memory :=
    recollected.bind fun value => response value >>= fun body => .ok (⟨statusCode, .json body⟩ : Reply)
  cases result with
  | error exc => exact answered
  | ok value =>
    rw [Meets.andThen_ok, Meets.bind_iff, Async.ofExcept_meets]
    rw [replied, ok_bind] at answered
    cases modelled : response value with
    | error exc =>
      rw [modelled] at answered
      exact answered
    | ok body =>
      rw [modelled] at answered
      exact answered

variable [FastApi]

/-- The routes with an entry. -/
theorem handle_recollects (entered : route.entry = some k) (own : route.operation = some operation) :
    Meets (recollection route) (handle settings route) .fresh (Recollected (replay operation)) := by
  cases route with
  | sendMessage connectionId message given =>
    cases own
    obtain ⟨key, present, _⟩ := Option.map_eq_some_iff.mp entered
    exact modelled_recollects 200 messageResponse (sendOnce_recollects (sendMessage_uncached message) present ..)
  | sendApproval connectionId card given =>
    cases own
    obtain ⟨key, present, _⟩ := Option.map_eq_some_iff.mp entered
    exact modelled_recollects 200 messageResponse (sendOnce_recollects (sendAdaptiveCard_uncached card) present ..)
  | createInvoice connectionId invoice given =>
    cases own
    obtain ⟨key, present, _⟩ := Option.map_eq_some_iff.mp entered
    rw [handle, keyed, present]
    exact modelled_recollects 201 invoiceResponse (createInvoice_recollects rfl ..)
  | submitInvoice invoiceId connectionId given =>
    cases own
    obtain ⟨key, present, _⟩ := Option.map_eq_some_iff.mp entered
    rw [handle, keyed, present]
    exact modelled_recollects 200 invoiceResponse
      (transition_recollects (transition_uncached (.submitInvoice invoiceId connectionId none) rfl rfl rfl) ..)
  | voidInvoice invoiceId connectionId given =>
    cases own
    obtain ⟨key, present, _⟩ := Option.map_eq_some_iff.mp entered
    rw [handle, keyed, present]
    exact modelled_recollects 200 invoiceResponse
      (transition_recollects (transition_uncached (.voidInvoice invoiceId connectionId none) rfl rfl rfl) ..)
  | _ => cases own

end OpenClaw.Api
