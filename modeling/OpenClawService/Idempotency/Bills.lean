import Mathlib.Data.List.Forall2
import OpenClawService.Idempotency.Answers

/-! Only bills get through: what is sent to be created is a bill, and what is
cached or returned of a creation has been reported as one. The operations share
the key space of the store, and no key of it. -/
namespace OpenClaw.Idempotency
open Interleaving

/-- A line of a bill says what the item says, each thing once: its tax type where it has one. -/
def Line (item : XeroLineItem) (line : Json) : Prop :=
  ∃ fields, line = .obj fields ∧ (fields.map Prod.fst).Nodup ∧
    ("Description", .str item.description) ∈ fields ∧ ("Quantity", .str item.quantity) ∈ fields ∧
    ("UnitAmount", .str item.unitAmount) ∈ fields ∧ ("AccountCode", .str item.accountCode) ∈ fields ∧
    ∀ tax, ("TaxType", tax) ∈ fields ↔ ∃ taxType, item.taxType = some taxType ∧ taxType ≠ "" ∧ tax = .str taxType

/-- Exactly one invoice: a bill in draft, with a line for each item, in order. -/
def Bill (invoice : XeroInvoice) (payload : Json) : Prop :=
  ∃ fields lines, payload = .obj [("Invoices", .arr [.obj fields])] ∧ (fields.map Prod.fst).Nodup ∧
    ("Type", .str "ACCPAY") ∈ fields ∧ ("Status", .str "DRAFT") ∈ fields ∧
    ("LineItems", .arr lines) ∈ fields ∧ List.Forall₂ Line invoice.lineItems lines

/-- The answer to a creation that carries a bill of this id. -/
def OfBill (response invoiceId : Json) : Prop :=
  ∃ inv, firstInvoice response = .ok inv ∧ inv.getItem "InvoiceID" = .ok invoiceId ∧ inv.getItem "Type" = .ok (.str "ACCPAY")

/-- Xero has reported the invoice as a bill, in some answer to a creation. -/
def Reported {ι : Type} (log : List (Entry ι)) (invoiceId : Json) : Prop :=
  ∃ i connectionId payload response, .call i (.outside (.port (.createInvoice connectionId payload))) (.ok response) ∈ log ∧
    OfBill response invoiceId

/-- The type that the answer reports is missing, or not that of a bill. -/
def Refused (response : Json) : Prop :=
  ∀ inv, firstInvoice response = .ok inv → inv.getItem "Type" ≠ .ok (.str "ACCPAY")

section Bills
variable [Library] {ι : Type} [DecidableEq ι] {requests : ι → Request} {env : Environment ι}

structure OnlyBills (requests : ι → Request) (c : ServiceConfig ι (Except Exc Result)) : Prop where
  sent {connectionId : String} {payload : Json} {resume : Except Exc Json → Prog Op Op.Answer (Except Exc Result)} :
    c.pool i = .await (.outside (.port (.createInvoice connectionId payload))) resume →
      ∃ invoice key, requests i = .createInvoice connectionId invoice key ∧ Bill invoice payload
  readable {value : Json} : c.shared.redis.caches (idempotencyKey opCreateInvoice key) = some value →
    ∃ invoiceId, value.getItem "invoice_id" = .ok invoiceId ∧ Reported c.shared.log invoiceId
  returned : requests i = .createInvoice connectionId invoice key → c.pool i = .done (.ok result) →
    ∃ invoiceId status, result = .invoice ⟨invoiceId, status⟩ ∧ Reported c.shared.log invoiceId
  refused {connectionId : String} {payload response : Json} :
    .call i (.outside (.port (.createInvoice connectionId payload))) (.ok response) ∈ c.shared.log → Refused response →
      (∃ exc, c.pool i = .done (.error exc)) ∧ ∀ key value ex, .call i (.redis (.setJson key value ex)) () ∉ c.shared.log

omit [DecidableEq ι]

omit [Library] in
theorem lineItemPayload_line (item : XeroLineItem) : Line item (lineItemPayload item) := by
  refine ⟨_, rfl, ?_, ?_⟩
  · cases item.taxType.bind orNone <;> simp
  · refine ⟨by simp, by simp, by simp, by simp, fun tax => ?_⟩
    cases given : item.taxType with
    | none => simp
    | some taxType =>
      by_cases empty : taxType = ""
      · simp [empty, orNone]
      · simp [empty, orNone]

/-- The payload of the source is a bill. -/
theorem invoicePayload_bill {invoice : XeroInvoice} {payload : Json} (assembled : invoicePayload invoice = .ok payload) :
    Bill invoice (.obj [("Invoices", .arr [payload])]) := by
  cases assembled
  have lines : List.Forall₂ Line invoice.lineItems (invoice.lineItems.map lineItemPayload) :=
    List.forall₂_map_right_iff.mpr (List.forall₂_same.mpr fun item _ => lineItemPayload_line item)
  refine ⟨_, _, rfl, ?_, ?_, ?_, ?_, lines⟩
  · cases invoice.reference.bind orNone <;> simp
  all_goals cases invoice.reference.bind orNone <;> simp [invoiceType]

omit [Library] in
theorem isText_iff {value : Json} : value.isText text = true ↔ value = .str text := by
  cases value <;> simp [Json.isText]

/-- What the code makes of an answer is the id of a bill. -/
theorem accepted_bill {response : Json} {result : XeroInvoiceResult}
    (accepted : CreateXeroDraftInvoice.accepted response = .ok result) : OfBill response result.invoiceId := by
  obtain ⟨extracted, extracts, rest⟩ := bind_ok accepted
  obtain ⟨inv, first, rest⟩ := bind_ok rest
  obtain ⟨type, typed, rest⟩ := bind_ok rest
  split at rest
  case isFalse => cases rest
  case isTrue billed =>
    cases rest
    obtain ⟨inv', first', rest⟩ := bind_ok extracts
    cases first.symm.trans first'
    obtain ⟨invoiceId, named, rest⟩ := bind_ok rest
    obtain ⟨status, stated, rest⟩ := bind_ok rest
    cases rest
    refine ⟨inv, first, named, ?_⟩
    rw [isText_iff] at billed
    subst billed
    cases inv with
    | obj fields =>
      simp only [Json.get, Except.ok.injEq] at typed
      cases found : fields.lookup "Type" with
      | none => simp [found] at typed
      | some value =>
        simp only [found, Option.getD_some, invoiceType] at typed
        simp only [Json.getItem, found, typed]
    | _ => cases typed

end Bills

section Traced
variable [Library] {ι : Type} [DecidableEq ι] {requests : ι → Request} {env : Environment ι} {w w' : World ι} {i : ι}

/-- The log tells where each request stands, and the requests fill the cache. -/
structure Traced (requests : ι → Request) (w : World ι) : Prop where
  keyed {value : Json} : w.redis.caches loaded = some value → ∃ i, (requests i).idemKey = some loaded
  answered {i : ι} {call : PortCall} {response : Json} : .call i (.outside (.port call)) (.ok response) ∈ w.log → call.writes = true →
    (requests i).write = .ok call ∧ (phase False requests w.log i).response = some response
  stored {i : ι} {value : Json} : .call i (.redis (.setJson key value ex)) () ∈ w.log →
    ∃ response result, phase False requests w.log i = .stored response ∧ (requests i).accept response = .ok result

namespace Traced

/-- A step after which its own worker is where its part of the log says. -/
theorem extend (traced : Traced requests w) {op : Op} {answer : op.Answer} (log : w'.log = .call i op answer :: w.log)
    (keyed : ∀ loaded value, w'.redis.caches loaded = some value → ∃ i, (requests i).idemKey = some loaded)
    (answered : ∀ call response, .call i (.outside (.port call)) (.ok response) ∈ w'.log → call.writes = true →
      (requests i).write = .ok call ∧ (advance (phase False requests w.log i) op answer).response = some response)
    (stored : ∀ key value ex, .call i (.redis (.setJson key value ex)) () ∈ w'.log → ∃ response result,
      advance (phase False requests w.log i) op answer = .stored response ∧ (requests i).accept response = .ok result) :
    Traced requests w' := by
  constructor
  case keyed => exact keyed _ _
  case answered =>
    intro j call response listed writes
    rcases eq_or_ne j i with rfl | other
    · rw [log, phase_own]
      exact answered call response listed writes
    · rw [log, listed_other other] at listed
      rw [log, phase_other other]
      exact traced.answered listed writes
  case stored =>
    intro key ex j value listed
    rcases eq_or_ne j i with rfl | other
    · rw [log, phase_own]
      exact stored key value ex listed
    · rw [log, listed_other other] at listed
      rw [log, phase_other other]
      exact traced.stored listed

/-- A request that has been answered no write has stored nothing. -/
theorem unstored (traced : Traced requests w) (unanswered : (phase False requests w.log i).response = none) :
    (.call i (.redis (.setJson key value ex)) () : Entry ι) ∉ w.log := by
  intro listed
  obtain ⟨response, result, at_phase, _⟩ := traced.stored listed
  rw [at_phase] at unanswered
  cases unanswered

theorem unwritten (traced : Traced requests w) {call : PortCall} {response : Json}
    (unanswered : (phase False requests w.log i).response = none) (writes : call.writes = true) :
    .call i (.outside (.port call)) (.ok response) ∉ w.log := by
  intro listed
  obtain ⟨_, answered⟩ := traced.answered listed writes
  rw [unanswered] at answered
  cases answered

/-- A step of a request that has been answered no write before it, and stores nothing. -/
theorem fresh (traced : Traced requests w) {op : Op} {answer : op.Answer} (log : w'.log = .call i op answer :: w.log)
    (unanswered : (phase False requests w.log i).response = none) (caches : w'.redis.caches = w.redis.caches)
    (stores : ∀ key value ex, op ≠ .redis (.setJson key value ex))
    (answers : ∀ call response, (.call i op answer : Entry ι) = .call i (.outside (.port call)) (.ok response) → call.writes = true →
      (requests i).write = .ok call ∧ (advance (phase False requests w.log i) op answer).response = some response) :
    Traced requests w' := by
  apply traced.extend log
  · intro _ _ cached
    rw [caches] at cached
    exact traced.keyed cached
  · intro call response listed writes
    rw [log] at listed
    rcases List.mem_cons.mp listed with same | listed
    · exact answers call response same.symm writes
    · exact (traced.unwritten unanswered writes listed).elim
  · intro key value ex listed
    rw [log] at listed
    rcases List.mem_cons.mp listed with same | listed
    · cases same
      exact (stores key value ex rfl).elim
    · exact (traced.unstored unanswered listed).elim

theorem served (traced : Traced requests w) {op : Op} {answer : op.Answer}
    (admitted : admits False (requests i) (phase False requests w.log i) op) (served : Served env i w op answer w') :
    Traced requests w' := by
  cases served with
  | redis command =>
    cases command with
    | getJson k =>
      obtain ⟨fresh, _⟩ := admitted
      have unanswered : (phase False requests w.log i).response = none := by rw [fresh]; rfl
      exact traced.fresh rfl unanswered rfl (by simp) (by simp)
    | setJson k value ex =>
      obtain ⟨keyed, response, result, at_phase, accepted, rfl⟩ := admitted
      have next : advance (phase False requests w.log i) (.redis (.setJson k result.cached ex)) () = .stored response := by
        rw [at_phase]
        rfl
      apply traced.extend rfl
      · intro loaded value cached
        by_cases same : loaded = k
        · subst same
          exact ⟨i, keyed⟩
        · simp only [Redis.exec, Function.update_of_ne same] at cached
          exact traced.keyed cached
      · intro call response' listed writes
        rcases List.mem_cons.mp listed with same | listed
        · cases same
        · obtain ⟨write, answered⟩ := traced.answered listed writes
          rw [at_phase] at answered
          exact ⟨write, (congrArg Phase.response next).trans answered⟩
      · exact fun _ _ _ _ => ⟨response, result, next, accepted⟩
    | _ => exact admitted.elim
  | @outside call answer allowed =>
    cases call with
    | port call =>
      cases writes : call.writes with
      | true =>
        simp only [admits, writes, if_true] at admitted
        have unanswered : (phase False requests w.log i).response = none := by
          obtain ⟨may, _⟩ := admitted
          cases at_phase : phase False requests w.log i <;> rw [at_phase] at may <;> first | rfl | exact may.elim
        refine traced.fresh rfl unanswered rfl (by simp) fun call' response same _ => ?_
        cases same
        simp only [advance, writes, if_true]
        exact ⟨admitted.2, rfl⟩
      | false =>
        have still : advance (phase False requests w.log i) (.outside (.port call)) answer = phase False requests w.log i := by
          cases answer <;> simp [advance, writes]
        apply traced.extend rfl
        · exact fun _ _ cached => traced.keyed cached
        · intro call' response listed writes'
          rw [still]
          rcases List.mem_cons.mp listed with same | listed
          · cases same
            rw [writes] at writes'
            cases writes'
          · exact traced.answered listed writes'
        · intro key value ex listed
          rw [still]
          rcases List.mem_cons.mp listed with same | listed
          · cases same
          · exact traced.stored listed
    | _ => exact admitted.elim

theorem drifted (traced : Traced requests w) (drifted : Drifted env w w') : Traced requests w' := by
  cases drifted with
  | @expire key present allowed =>
    refine ⟨?_, fun listed => traced.answered (by simpa using listed), fun listed => traced.stored (by simpa using listed)⟩
    intro loaded value cached
    by_cases same : loaded = key
    · subst same
      simp [Redis.expire] at cached
    · simp only [Redis.expire, Function.update_of_ne same] at cached
      exact traced.keyed cached
  | invoice allowed =>
    exact ⟨traced.keyed, fun listed => traced.answered (by simpa using listed), fun listed => traced.stored (by simpa using listed)⟩

end Traced
omit [DecidableEq ι] in
/-- Only a creation asks for one, and it sends a bill. -/
theorem write_creates {request : Request} (writes : request.write = .ok (.createInvoice connectionId payload)) :
    ∃ invoice key, request = .createInvoice connectionId invoice key ∧ Bill invoice payload := by
  cases request with
  | createInvoice known invoice key =>
    obtain ⟨body, assembled, same⟩ := bind_ok writes
    cases same
    exact ⟨invoice, key, rfl, invoicePayload_bill assembled⟩
  | _ => cases writes

omit [Library] [DecidableEq ι] in
/-- The keys of creations are the creations' own, whatever the callers' keys are. -/
theorem idemKey_creates {request : Request} (keyed : request.idemKey = some (idempotencyKey opCreateInvoice key)) :
    ∃ connectionId invoice, request = .createInvoice connectionId invoice key := by
  obtain ⟨known, given, same⟩ := Option.map_eq_some_iff.mp keyed
  have plain : ':' ∉ opCreateInvoice.toList := by simp [opCreateInvoice]
  obtain ⟨operations, rfl⟩ := idempotencyKey_inj request.operation_plain plain same
  cases request with
  | createInvoice connectionId invoice key' =>
    cases given
    exact ⟨connectionId, invoice, rfl⟩
  | _ => simp [Request.operation, opCreateInvoice, opSubmitInvoice, opVoidInvoice, opSendMessage, opSendApproval] at operations

omit [DecidableEq ι] in
theorem accept_bill {response : Json} (accepted : (Request.createInvoice connectionId invoice key).accept response = .ok result) :
    ∃ invoiceId status, result = .invoice ⟨invoiceId, status⟩ ∧ OfBill response invoiceId := by
  obtain ⟨made, done, rfl⟩ := map_ok accepted
  exact ⟨made.invoiceId, made.status, rfl, accepted_bill done⟩

omit [DecidableEq ι] in
theorem backed_bill {log : List (Entry ι)} (backed : Backed log (.createInvoice connectionId invoice key) result) :
    ∃ invoiceId status, result = .invoice ⟨invoiceId, status⟩ ∧ Reported log invoiceId := by
  obtain ⟨i, write, response, writes, answered, accepted⟩ := backed
  obtain ⟨invoiceId, status, rfl, billed⟩ := accept_bill accepted
  obtain ⟨payload, _, same⟩ := bind_ok writes
  cases same
  exact ⟨invoiceId, status, rfl, i, connectionId, _, response, answered, billed⟩

omit [DecidableEq ι] in
/-- What is cached under the key of a creation names a bill. -/
theorem vouched_bill {log : List (Entry ι)} {value : Json} (vouched : Vouched requests log (idempotencyKey opCreateInvoice key) value i) :
    ∃ invoiceId status, value = (Result.invoice ⟨invoiceId, status⟩).cached ∧ Reported log invoiceId := by
  obtain ⟨result, keyed, rfl, backed⟩ := vouched
  obtain ⟨connectionId, invoice, created⟩ := idemKey_creates keyed
  rw [created] at backed
  obtain ⟨invoiceId, status, rfl, reported⟩ := backed_bill backed
  exact ⟨invoiceId, status, rfl, reported⟩

theorem traced_run {ttlSeconds : Nat} {redis : Redis ι} {c : ServiceConfig ι (Except Exc Result)}
    (empty : ∀ key, redis.caches key = none) (run : Reaches (system env) (running requests ttlSeconds redis) c) :
    Traced requests c.shared := by
  refine (Conforming.run (I := Traced requests) (tracks env _ _) ?_ (fun _ _ traced _ drifted => traced.drifted drifted) run ?_
    (running_conforms requests ttlSeconds redis)).1
  · intro c j op resume answer w traced _ _ _ admitted served
    refine ⟨unsure_expects (phase False requests c.shared.log j), traced.served admitted served⟩
  · refine ⟨fun cached => ?_, nofun, nofun⟩
    cases (empty _).symm.trans cached

/-- A request whose write has been answered with what it does not accept is over. -/
theorem unaccepted_raised {c : ServiceConfig ι (Except Exc Result)}
    (conforming : Conforming (fun i => protocol False (requests i)) (fun w => phase False requests w.log)
      (fun i => Answered False (requests i)) c) (written : (phase False requests c.shared.log i).response = some response)
    (unaccepted : ∀ result, (requests i).accept response ≠ .ok result) : ∃ exc, c.pool i = .done (.error exc) := by
  cases at_point : c.pool i with
  | await op resume =>
    have admitted : admits False (requests i) (phase False requests c.shared.log i) op := conforming.admitted at_point
    generalize phase False requests c.shared.log i = p at admitted written
    cases op with
    | redis command =>
      cases command with
      | getJson k =>
        obtain ⟨rfl, _⟩ := admitted
        cases written
      | setJson k value ex =>
        obtain ⟨_, response', result, rfl, accepted, _⟩ := admitted
        cases written
        exact (unaccepted result accepted).elim
      | _ => exact admitted.elim
    | outside call =>
      cases call with
      | port call =>
        simp only [admits] at admitted
        split at admitted
        · cases p <;> first | exact admitted.1.elim | cases written
        · obtain ⟨cached, rfl⟩ := admitted
          cases written
      | _ => exact admitted.elim
  | done result =>
    cases result with
    | error exc => exact ⟨exc, rfl⟩
    | ok result =>
      have told : Answered False (requests i) (.ok result) (phase False requests c.shared.log i) := conforming.finished at_point
      rcases told.2 result rfl with ⟨cached, at_phase, _⟩ | ⟨response', at_phase | at_phase, accepted⟩
      · rw [at_phase] at written
        cases written
      · rw [at_phase.1] at written
        cases written
        exact (unaccepted result accepted).elim
      · rw [at_phase] at written
        cases written
        exact (unaccepted result accepted).elim

/-- Whatever requests interleave, with whatever keys and whatever Xero answers, only
bills are asked for, cached and returned as created. -/
theorem only_bills {ttlSeconds : Nat} {redis : Redis ι} {c : ServiceConfig ι (Except Exc Result)}
    (empty : ∀ key, redis.caches key = none) (run : Reaches (system env) (running requests ttlSeconds redis) c) :
    OnlyBills requests c := by
  have unguarded : Run (system env) (fun d label => False → Matching requests d label) (running requests ttlSeconds redis) c :=
    run.weaken fun _ _ _ => False.elim
  obtain ⟨honest, conforming⟩ := honest_run (fun _ key _ => empty key) unguarded
  have traced := traced_run empty run
  constructor
  case sent =>
    intro i connectionId payload resume pending
    have admitted := conforming.admitted pending
    exact write_creates admitted.2
  case readable =>
    intro key value cached
    obtain ⟨i, keyed⟩ := traced.keyed cached
    obtain ⟨_, _, vouched⟩ := honest.cached i _ value keyed cached
    obtain ⟨invoiceId, status, rfl, reported⟩ := vouched_bill vouched
    exact ⟨invoiceId, rfl, reported⟩
  case returned =>
    intro i connectionId invoice key result created ended
    have told : Answered False (requests i) (.ok result) (phase False requests c.shared.log i) := conforming.finished ended
    rcases told.2 result rfl with ⟨cached, at_phase, recalled⟩ | ⟨response, at_phase, accepted⟩
    · obtain ⟨loaded, _, keyed, vouched, _⟩ := honest.found i cached at_phase
      rw [created] at keyed recalled
      cases keyed
      obtain ⟨invoiceId, status, rfl, reported⟩ := vouched_bill vouched
      cases recalled
      exact ⟨invoiceId, status, rfl, reported⟩
    · have written : (phase False requests c.shared.log i).response = some response := by
        rcases at_phase with ⟨at_phase, _⟩ | at_phase <;> rw [at_phase] <;> rfl
      obtain ⟨write, writes, answered⟩ := honest.written i response written
      rw [created] at writes accepted
      exact backed_bill ⟨i, write, response, writes, answered, accepted⟩
  case refused =>
    intro i connectionId payload response listed refused
    obtain ⟨writes, written⟩ := traced.answered listed rfl
    obtain ⟨invoice, key, created, _⟩ := write_creates writes
    have unaccepted (result : Result) : (requests i).accept response ≠ .ok result := by
      intro accepted
      rw [created] at accepted
      obtain ⟨invoiceId, status, _, inv, first, _, billed⟩ := accept_bill accepted
      exact refused inv first billed
    refine ⟨unaccepted_raised conforming written unaccepted, fun key value ex listed => ?_⟩
    obtain ⟨response', result, at_phase, accepted⟩ := traced.stored listed
    rw [at_phase] at written
    cases written
    exact unaccepted result accepted

end Traced

section Sales
local instance selling : Library := .sample

/-- A bill of two lines, one of them taxed. -/
def stationery : XeroInvoice :=
  ⟨"contact", [⟨"paper", "10", "4.50", "429", some "INPUT2"⟩, ⟨"ink", "2", "30.00", "429", none⟩], "2024-01-31", "EUR", none⟩

/-- Two creations with one key. -/
def billing : ServiceConfig Bool (Except Exc Result) :=
  running (fun _ => .createInvoice "acme" stationery "submit_xero_invoice:k") 60 .empty

def reporting (invoiceId type : String) : (call : Outside) → call.Answer
  | .port _ => .ok (.obj [("Invoices", .arr [.obj [("InvoiceID", .str invoiceId), ("Status", .str "DRAFT"), ("Type", .str type)]])])
  | call => call.silence

/-- Xero reports a sales invoice first, and then a bill. -/
def reports : List (Move Bool) :=
  [.redis false, .outside false (reporting "i1" "ACCREC"), .redis true, .outside true (reporting "i2" "ACCPAY"), .redis true]

/-- The first creation raises, and only the bill is cached. -/
theorem only_bills_reported : OnlyBills (fun _ => .createInvoice "acme" stationery "submit_xero_invoice:k")
      (reports.foldl play billing) ∧
    (reports.foldl play billing).shared.redis.caches (idempotencyKey opCreateInvoice "submit_xero_invoice:k") =
      some (.obj [("invoice_id", .str "i2"), ("status", .str "DRAFT")]) := by
  have run : Reaches (system (.free Bool)) billing (reports.foldl play billing) := plays_run (free_legal ..)
  exact ⟨only_bills (fun _ => rfl) run, rfl⟩

end Sales
end OpenClaw.Idempotency
