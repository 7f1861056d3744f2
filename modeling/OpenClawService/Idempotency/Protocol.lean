import OpenClawService.Idempotency.Requests

/-! One writing request as an automaton: it reads its cached result, or writes
once and caches what it made of the answer. Where the provider is sure, calls
succeed and what was created still stands. -/
namespace OpenClaw.Idempotency
open Interleaving

inductive Phase where
  | fresh
  | found (cached : Json)
  | missed
  | written (response : Json)
  | stored (response : Json)

/-- A verification that finds the created invoice standing. -/
def Stands (answer : Except Exc Json) : Prop :=
  ∃ response status, answer = .ok response ∧ (firstInvoice response >>= Json.getItem "Status") = .ok status ∧
    CreateXeroDraftInvoice.stands status = .ok true

section Protocol
variable [Library]

def MayWrite (sure : Prop) (request : Request) : Phase → Prop
  | .fresh => request.idemKey = none
  | .missed => True
  | .found _ => ¬ sure
  | _ => False

def advance (p : Phase) : (op : Op) → op.Answer → Phase
  | .redis (.getJson _), cached => match cached.filter Json.truthy with
    | some value => .found value
    | none => .missed
  | .redis (.setJson ..), _ => match p with
    | .written response => .stored response
    | p => p
  | .outside (.port call), .ok response => if call.writes then .written response else p
  | _, _ => p

def admits (sure : Prop) (request : Request) (p : Phase) : Op → Prop
  | .redis (.getJson k) => p = .fresh ∧ request.idemKey = some k
  | .redis (.setJson k value _) => request.idemKey = some k ∧ ∃ response result, p = .written response ∧
      request.accept response = .ok result ∧ value = result.cached
  | .outside (.port call) =>
    if call.writes then MayWrite sure request p ∧ request.write = .ok call else ∃ cached, p = .found cached
  | _ => False

def expects (sure : Prop) (request : Request) (_ : Phase) : (op : Op) → op.Answer → Prop
  | .redis (.getJson _), cached => sure → ∀ value, cached = some value → ∃ result, request.ofCached value = .ok result
  | .outside (.port call), answer => sure →
    if call.writes then ∃ response result, answer = .ok response ∧ request.accept response = .ok result else Stands answer
  | _, _ => True

def protocol (sure : Prop) (request : Request) : Protocol Op Op.Answer Phase :=
  ⟨admits sure request, expects sure request, advance⟩

variable {sure : Prop} {request : Request} {p : Phase}

@[simp] theorem protocol_admits : (protocol sure request).admits = admits sure request := rfl

@[simp] theorem protocol_expects : (protocol sure request).expects = expects sure request := rfl

@[simp] theorem protocol_advance : (protocol sure request).advance = advance := rfl

/-- Who is not sure expects nothing. -/
theorem unsure_expects (p : Phase) {op : Op} {answer : op.Answer} : expects False request p op answer := by
  unfold expects
  split
  · exact fun holds => holds.elim
  · exact fun holds => holds.elim
  · trivial

/-- Where a result comes from. -/
def Told (request : Request) (result : Result) (p : Phase) : Prop :=
  (∃ cached, p = .found cached ∧ request.ofCached cached = .ok result) ∨
    ∃ response, (p = .written response ∧ request.idemKey = none ∨ p = .stored response) ∧ request.accept response = .ok result

def Answered (sure : Prop) (request : Request) (outcome : Except Exc Result) (p : Phase) : Prop :=
  (sure → ∃ result, outcome = .ok result) ∧ ∀ result, outcome = .ok result → Told request result p

theorem answered_ok (told : Told request result p) : Answered sure request (.ok result) p := by
  refine ⟨fun _ => ⟨result, rfl⟩, ?_⟩
  rintro other ⟨⟩
  exact told

theorem answered_error (unsure : ¬ sure) : Answered sure request (.error exc) p :=
  ⟨fun holds => (unsure holds).elim, nofun⟩

end Protocol

section Walk
variable [Library] {sure : Prop} {request : Request} {p : Phase} {α β : Type} {idemKey : String} {ttlSeconds : Nat}

/-- The post of a use case whose result is one of the five requests'. -/
abbrev Answers (sure : Prop) (request : Request) (wrap : β → Result) (outcome : Except Exc β) (p : Phase) : Prop :=
  Answered sure request (wrap <$> outcome) p

theorem call_meets {write : PortCall} (writes : request.write = .ok write) (may : MayWrite sure request p) :
    Meets (protocol sure request) (call write) p (fun
      | .ok response, l => l = .written response ∧ (sure → ∃ result, request.accept response = .ok result)
      | .error _, _ => ¬ sure) := by
  obtain ⟨known, found, writing⟩ := request.write_ok
  rw [writes] at found
  cases found
  simp only [call, Meets.bind_iff, Async.outside_meets, Meets.andThen_ok, Async.ofExcept_meets]
  refine ⟨by simp [admits, writing, may, writes], fun answer expected => ?_⟩
  simp only [protocol_expects, expects, writing, if_true] at expected
  cases answer with
  | error exc =>
    intro holds
    obtain ⟨response, result, refused, _⟩ := expected holds
    cases refused
  | ok response =>
    refine ⟨by simp [advance, writing], fun holds => ?_⟩
    obtain ⟨other, result, answered, good⟩ := expected holds
    cases answered
    exact ⟨result, good⟩

/-- What is made of the answer is cached and returned. -/
theorem kept_meets {outcome : Except Exc α} {give : α → β} {wrap : β → Result} {encode : β → Json}
    (keyed : request.idemKey = some idemKey) (same : (fun x => wrap (give x)) <$> outcome = request.accept response)
    (encoded : ∀ result, encode result = (wrap result).cached)
    (good : sure → ∃ result, request.accept response = .ok result) :
    Meets (protocol sure request) (Async.ofExcept outcome >>= fun x =>
      IdempotencyStore.set idemKey (encode (give x)) ttlSeconds >>= fun _ => pure (give x)) (.written response)
      (Answers sure request wrap) := by
  rw [Meets.bind_iff, Async.ofExcept_meets]
  cases outcome with
  | error exc =>
    refine answered_error fun holds => ?_
    obtain ⟨result, accepted⟩ := good holds
    rw [← same] at accepted
    cases accepted
  | ok x =>
    have accepted : request.accept response = .ok (wrap (give x)) := same.symm
    simp only [IdempotencyStore.set, Meets.andThen_ok, Meets.bind_iff, Async.redis_meets, Meets.pure_iff]
    refine ⟨⟨keyed, response, _, rfl, accepted, encoded _⟩, fun _ _ => ?_⟩
    exact answered_ok (Or.inr ⟨response, Or.inr rfl, accepted⟩)

/-- The write of a request with a key, from its call to its result. -/
theorem wrote_meets {write : PortCall} {outcome : Json → Except Exc α} {give : α → β} {wrap : β → Result} {encode : β → Json}
    (keyed : request.idemKey = some idemKey) (writes : request.write = .ok write) (may : MayWrite sure request p)
    (accepts : ∀ response, request.accept response = (fun x => wrap (give x)) <$> outcome response)
    (encoded : ∀ result, encode result = (wrap result).cached) :
    Meets (protocol sure request) (call write >>= fun response => Async.ofExcept (outcome response) >>= fun x =>
      IdempotencyStore.set idemKey (encode (give x)) ttlSeconds >>= fun _ => pure (give x)) p
      (Answers sure request wrap) := by
  rw [Meets.bind_iff]
  apply (call_meets writes may).mono
  rintro (exc | response) l answered
  · exact answered_error answered
  · obtain ⟨rfl, good⟩ := answered
    exact kept_meets keyed (accepts response).symm encoded good

/-- Without a key nothing is cached. -/
theorem unkept_meets {outcome : Except Exc α} {give : α → β} {wrap : β → Result} (unkeyed : request.idemKey = none)
    (same : (fun x => wrap (give x)) <$> outcome = request.accept response)
    (good : sure → ∃ result, request.accept response = .ok result) :
    Meets (protocol sure request) (Async.ofExcept outcome >>= fun x => pure (give x)) (.written response)
      (Answers sure request wrap) := by
  rw [Meets.bind_iff, Async.ofExcept_meets]
  cases outcome with
  | error exc =>
    refine answered_error fun holds => ?_
    obtain ⟨result, accepted⟩ := good holds
    rw [← same] at accepted
    cases accepted
  | ok x => exact answered_ok (Or.inr ⟨response, Or.inl ⟨rfl, unkeyed⟩, same.symm⟩)

/-- A cached result is read back. -/
theorem recalled_meets {outcome : Except Exc β} {wrap : β → Result} (same : wrap <$> outcome = request.ofCached cached)
    (good : sure → ∃ result, request.ofCached cached = .ok result) :
    Meets (protocol sure request) (Async.ofExcept outcome) (.found cached) (Answers sure request wrap) := by
  rw [Async.ofExcept_meets]
  cases outcome with
  | error exc =>
    refine answered_error fun holds => ?_
    obtain ⟨result, recalled⟩ := good holds
    rw [← same] at recalled
    cases recalled
  | ok result => exact answered_ok (Or.inl ⟨cached, rfl, same.symm⟩)

/-- Reading the cache, and going on with what it holds. -/
theorem hit_meets {next : Option Json → Async β} {post : Except Exc β → Phase → Prop}
    (keyed : request.idemKey = some idemKey)
    (found : ∀ cached, (sure → ∃ result, request.ofCached cached = .ok result) →
      Meets (protocol sure request) (next (some cached)) (.found cached) post)
    (missed : Meets (protocol sure request) (next none) .missed post) :
    Meets (protocol sure request) (IdempotencyStore.hit idemKey >>= next) .fresh post := by
  simp only [IdempotencyStore.hit, IdempotencyStore.get, Meets.bind_iff, Async.redis_meets, Meets.andThen_ok, Meets.pure_iff]
  refine ⟨⟨rfl, keyed⟩, fun answer expected => ?_⟩
  simp only [protocol_advance, advance]
  cases holds : answer.filter Json.truthy with
  | none => exact missed
  | some cached =>
    obtain ⟨stored, _⟩ := Option.filter_eq_some_iff.mp holds
    exact found cached fun holds => expected holds cached stored

theorem transition_meets {operation status connectionId invoiceId key : String}
    (keyed : request.idemKey = some (idempotencyKey operation key))
    (writes : request.write = .ok (.updateInvoiceStatus connectionId invoiceId status))
    (accepts : ∀ response, request.accept response = .invoice <$> extractInvoiceResult response)
    (recalls : ∀ cached, request.ofCached cached = .invoice <$> XeroInvoiceResult.ofCached cached) :
    Meets (protocol sure request) (transition operation status xeroPort ttlSeconds connectionId invoiceId key) .fresh
      (Answers sure request .invoice) := by
  apply hit_meets keyed
  · exact fun cached good => recalled_meets (recalls cached).symm good
  · have may : MayWrite sure request .missed := trivial
    exact wrote_meets keyed writes may accepts fun _ => rfl

theorem sendOnce_meets {operation : String} {key : Option String} {write : PortCall}
    (keyed : request.idemKey = (key.bind orNone).map (idempotencyKey operation)) (writes : request.write = .ok write)
    (accepts : ∀ response, request.accept response = (fun id => .message ⟨id⟩) <$> response.getItem "id")
    (recalls : ∀ cached, request.ofCached cached = .message <$> MessageResult.ofCached cached) :
    Meets (protocol sure request) (sendOnce operation ttlSeconds key (call write)) .fresh (Answers sure request .message) := by
  unfold sendOnce
  cases given : key.bind orNone with
  | none =>
    have unkeyed : request.idemKey = none := by rw [keyed, given]; rfl
    have may : MayWrite sure request .fresh := unkeyed
    show Meets _ (call _ >>= _) _ _
    rw [Meets.bind_iff]
    apply (call_meets writes may).mono
    rintro (exc | response) l answered
    · exact answered_error answered
    · obtain ⟨rfl, good⟩ := answered
      exact unkept_meets unkeyed (accepts response).symm good
  | some key =>
    have keyed : request.idemKey = some (idempotencyKey operation key) := by rw [keyed, given]; rfl
    apply hit_meets keyed
    · exact fun cached good => recalled_meets (recalls cached).symm good
    · have may : MayWrite sure request .missed := trivial
      exact wrote_meets keyed writes may accepts fun _ => rfl

/-- The live status, read while the cached result is at hand. -/
theorem liveStatus_meets {connectionId : String} {invoiceId : Json} :
    Meets (protocol sure request) (CreateXeroDraftInvoice.liveStatus xeroPort connectionId invoiceId) (.found cached)
      (fun outcome l => l = .found cached ∧
        (sure → ∃ status, outcome = .ok status ∧ CreateXeroDraftInvoice.stands status = .ok true)) := by
  have reads : (PortCall.getInvoice connectionId (Library.str invoiceId)).writes = false := rfl
  simp only [CreateXeroDraftInvoice.liveStatus, xeroPort, call, Meets.tryCatch_iff, Meets.bind_iff, Async.outside_meets,
    Meets.andThen_ok, Async.ofExcept_meets]
  refine ⟨by simp [admits, reads], fun answer expected => ?_⟩
  simp only [protocol_expects, expects, reads, Bool.false_eq_true, if_false] at expected
  have still : advance (.found cached) (.outside (.port (.getInvoice connectionId (Library.str invoiceId)))) answer =
      .found cached := by cases answer <;> rfl
  rw [protocol_advance, still]
  cases answer with
  | error exc =>
    have unsure : ¬ sure := by
      intro holds
      obtain ⟨response, status, refused, _⟩ := expected holds
      cases refused
    rw [Meets.andThen_error, Meets.orElse_error]
    cases exc <;> exact ⟨rfl, fun holds => (unsure holds).elim⟩
  | ok response =>
    rw [Meets.andThen_ok, Async.ofExcept_meets]
    cases read : firstInvoice response >>= Json.getItem "Status" with
    | error exc =>
      have unsure : ¬ sure := by
        intro holds
        obtain ⟨other, status, answered, reported, _⟩ := expected holds
        cases answered
        rw [read] at reported
        cases reported
      rw [Meets.orElse_error]
      cases exc <;> exact ⟨rfl, fun holds => (unsure holds).elim⟩
    | ok status =>
      refine ⟨rfl, fun holds => ?_⟩
      obtain ⟨other, status', answered, reported, stands⟩ := expected holds
      cases answered
      rw [read] at reported
      cases reported
      exact ⟨status, rfl, stands⟩

/-- A replayed result is the cached one; a sure provider always lets it stand. -/
theorem replay_meets {connectionId : String} (good : sure → ∃ result, XeroInvoiceResult.ofCached cached = .ok result) :
    Meets (protocol sure request) (CreateXeroDraftInvoice.replay xeroPort connectionId cached) (.found cached)
      (fun outcome l => l = .found cached ∧ ((∃ result, outcome = .ok (some result) ∧
        XeroInvoiceResult.ofCached cached = .ok result) ∨ ¬ sure ∧ ∀ result, outcome ≠ .ok (some result))) := by
  unfold CreateXeroDraftInvoice.replay
  rw [Meets.bind_iff, Async.ofExcept_meets]
  cases named : cached.getItem "invoice_id" with
  | error exc =>
    refine ⟨rfl, Or.inr ⟨fun holds => ?_, by simp⟩⟩
    obtain ⟨result, read⟩ := good holds
    rw [XeroInvoiceResult.ofCached, named] at read
    cases read
  | ok invoiceId =>
    rw [Meets.andThen_ok, Meets.bind_iff]
    apply liveStatus_meets.mono
    rintro (exc | live) l ⟨rfl, alive⟩
    · refine ⟨rfl, Or.inr ⟨fun holds => ?_, by simp⟩⟩
      obtain ⟨status, refused, _⟩ := alive holds
      cases refused
    rw [Meets.andThen_ok, Meets.bind_iff, Async.ofExcept_meets]
    have standing (outcome : Except Exc Bool) (seen : CreateXeroDraftInvoice.stands live = outcome) (holds : sure) :
        outcome = .ok true := by
      obtain ⟨status, same, stands⟩ := alive holds
      cases same
      exact seen.symm.trans stands
    cases seen : CreateXeroDraftInvoice.stands live with
    | error exc =>
      refine ⟨rfl, Or.inr ⟨fun holds => ?_, by simp⟩⟩
      cases standing _ seen holds
    | ok stands =>
      cases stands with
      | false =>
        refine ⟨rfl, Or.inr ⟨fun holds => ?_, by simp⟩⟩
        cases standing _ seen holds
      | true =>
        simp only [Meets.andThen_ok, if_true, Meets.bind_iff, Async.ofExcept_meets]
        cases stated : cached.getItem "status" with
        | error exc =>
          refine ⟨rfl, Or.inr ⟨fun holds => ?_, by simp⟩⟩
          obtain ⟨result, read⟩ := good holds
          rw [XeroInvoiceResult.ofCached, named, stated] at read
          cases read
        | ok status =>
          refine ⟨rfl, Or.inl ⟨⟨invoiceId, status⟩, rfl, ?_⟩⟩
          rw [XeroInvoiceResult.ofCached, named, stated]
          rfl

theorem create_meets {connectionId key : String} {invoice : XeroInvoice} (request_is : request = .createInvoice connectionId invoice key)
    (may : MayWrite sure request p) :
    Meets (protocol sure request) (CreateXeroDraftInvoice.create xeroPort ttlSeconds connectionId invoice
      (idempotencyKey opCreateInvoice key)) p (Answers sure request .invoice) := by
  subst request_is
  obtain ⟨payload, assembled⟩ := invoicePayload_ok invoice
  unfold CreateXeroDraftInvoice.create
  rw [assembled, Meets.bind_iff, Async.ofExcept_meets, Meets.andThen_ok]
  exact wrote_meets rfl (by rw [Request.write, assembled]; rfl) may (fun _ => rfl) fun _ => rfl

/-- Every request keeps to its protocol, and answers with what it was told. -/
theorem execute_meets (request : Request) :
    Meets (protocol sure request) (request.execute ttlSeconds) .fresh (Answered sure request) := by
  cases request with
  | createInvoice connectionId invoice key =>
    rw [Request.execute, Meets.map_iff]
    apply hit_meets rfl
    · intro cached good
      have readable (holds : sure) : ∃ result, XeroInvoiceResult.ofCached cached = .ok result := by
        obtain ⟨result, read⟩ := good holds
        obtain ⟨result', read, _⟩ := map_ok read
        exact ⟨result', read⟩
      show Meets _ (CreateXeroDraftInvoice.replay _ _ _ >>= _) _ _
      rw [Meets.bind_iff]
      apply (replay_meets readable).mono
      rintro (exc | replayed) l ⟨rfl, found⟩
      · rcases found with ⟨result, absurd, _⟩ | ⟨unsure, _⟩
        · cases absurd
        · exact answered_error unsure
      · rcases found with ⟨result, same, read⟩ | ⟨unsure, none⟩
        · cases same
          exact answered_ok (Or.inl ⟨cached, rfl, by rw [Request.ofCached, read]; rfl⟩)
        · cases replayed with
          | some result => exact (none result rfl).elim
          | none => exact create_meets rfl unsure
    · have may : MayWrite sure (.createInvoice connectionId invoice key) .missed := trivial
      exact create_meets rfl may
  | submitInvoice | voidInvoice =>
    rw [Request.execute, Meets.map_iff]
    exact transition_meets rfl rfl (fun _ => rfl) fun _ => rfl
  | sendMessage | sendApprovalCard =>
    rw [Request.execute, Meets.map_iff]
    exact sendOnce_meets rfl rfl (fun _ => rfl) fun _ => rfl

end Walk
end OpenClaw.Idempotency
