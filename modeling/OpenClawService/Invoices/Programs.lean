import OpenClawService.Invoices.Protocol

/-! `CreateXeroDraftInvoice.execute` over the real client keeps to its protocol. -/
namespace OpenClaw.Invoices
open Interleaving Connection CreateXeroDraftInvoice
variable [Library] {settings : Settings} {connectionId key : String} {invoiceId : String} {l : Phase}

theorem settled_working (working : l.Working) : Settled l := by
  rintro response result rfl
  exact working.elim

/-- A call that keeps an account of its doubts. -/
def doubting (inside : Phase → Prop) : Stance Phase where
  inside := inside
  trusted l token := token.xeroTenantId = none → l.MayCreate
  failing := Phase.MayCreate

/-- The verification on its first or second pass. -/
abbrev verification (invoiceId : String) (retried : Bool) : Stance Phase :=
  doubting fun l => ∃ doubted, l = .verifying invoiceId retried doubted

abbrev creation : Stance Phase := doubting Phase.MayCreate

omit [Library] in
theorem mayCreate_working (may : l.MayCreate) : l.Working := by
  cases l with
  | verifying | creating => trivial
  | _ => exact may.elim

omit [Library] in
/-- Doubts only ever grow. -/
theorem mayCreate_doubt (may : l.MayCreate) (doubts : Bool) : (l.doubt doubts).MayCreate := by
  cases l with
  | verifying invoiceId retried doubted =>
    have before : doubted = true := may
    simp [Phase.doubt, Phase.MayCreate, before]
  | _ => exact may

omit [Library] in
theorem mayCreate_retry (may : l.MayCreate) : l.retry.MayCreate := by
  cases l <;> exact may

omit [Library] in
theorem doubt_true (working : l.Working) : (l.doubt true).MayCreate := by
  cases l with
  | verifying => simp [Phase.doubt, Phase.MayCreate]
  | creating => trivial
  | _ => exact working.elim

theorem advance_plain {op : Op} (plain : Plain connectionId op) (answer) : advance l op answer = l := by
  cases op with
  | redis command =>
    cases command with
    | getJson | setJson | delHash | hgetall | hset => exact plain.elim
    | _ => rfl
  | outside call =>
    cases call with
    | http | refreshToken => exact plain.elim
    | _ => rfl

theorem admits_plain {op : Op} (plain : Plain connectionId op) (working : l.Working) : admits connectionId key l op := by
  have tame : Tame connectionId op := plain.tame
  cases op with
  | redis command =>
    cases command with
    | getJson | setJson | delHash | hgetall => exact plain.elim
    | _ => exact ⟨working, tame⟩
  | outside call =>
    cases call with
    | http => exact plain.elim
    | _ => exact ⟨working, tame⟩

theorem doubting_keeper {inside : Phase → Prop} (working : ∀ l, inside l → l.Working)
    (closed : ∀ l doubts, inside l → inside (l.doubt doubts)) :
    Keeper (protocol connectionId key) settings connectionId (doubting inside) := by
  have doubted {l : Phase} (doubts : Bool) (within : inside l) : (doubting inside).Keeps l (l.doubt doubts) :=
    ⟨closed l doubts within, fun known absent => mayCreate_doubt (known absent) doubts, fun may => mayCreate_doubt may doubts⟩
  constructor
  case toHolder =>
    constructor
    case plain =>
      intro l op within plain
      refine ⟨admits_plain plain (working l within), fun answer _ => ?_⟩
      rw [protocol_advance, advance_plain plain]
      exact .refl within
    case load =>
      intro l within
      refine ⟨⟨working l within, rfl⟩, fun hash _ => ⟨doubted _ within, ?_⟩⟩
      intro token decoded absent
      have lost : tenantless hash = true := by simp [tenantless, decoded, absent]
      simp only [protocol_advance, advance, lost]
      exact doubt_true (working l within)
    case store =>
      intro l token within _
      exact ⟨⟨working l within, rfl, token, rfl⟩, fun _ _ => .refl within⟩
  case refresh =>
    intro l token refreshToken within trusted _
    refine ⟨⟨working l within, trivial⟩, fun answer _ => ?_⟩
    cases answer with
    | ok raw =>
      refine ⟨.refl within, ?_, by simp⟩
      rintro other now renewed ⟨⟩ read absent
      have carried := (XeroOAuth.readTokenSet_fields read).2.2
      rw [Json.asOptionalText_ofText, absent] at carried
      exact trusted (Except.ok.inj carried)
    | error text =>
      refine ⟨doubted _ within, by simp, ?_⟩
      rintro other ⟨⟩ unrejected
      simp only [protocol_advance, advance, unrejected, Bool.not_false]
      exact doubt_true (working l within)

/-- How a verification ends. -/
def Verified (invoiceId : String) (result : Except Exc Json) (l : Phase) : Prop :=
  (∃ retried doubted, l = .verifying invoiceId retried doubted) ∧
    (∀ text, result = .error (.providerUnavailableError text) → l.MayCreate) ∧
    ∀ body status, result = .ok body → (firstInvoice body >>= Json.getItem "Status") = .ok status →
      stands status = .ok false → l.MayCreate

omit [Library] in
theorem verified_raised (inside : (verification invoiceId retried).inside l)
    (failing : ∀ text, exc = .providerUnavailableError text → l.MayCreate) :
    Verified invoiceId (.error exc) l := by
  obtain ⟨doubted, rfl⟩ := inside
  refine ⟨⟨retried, doubted, rfl⟩, ?_, by simp⟩
  rintro text ⟨⟩
  exact failing text rfl

/-- The answer of the API to the verification. -/
theorem verification_settles {again : Phase → Prop} {answer : Except String HttpResponse}
    (goes_on : ∀ doubted, again (.verifying invoiceId true doubted))
    (inside : (verification invoiceId (!first)).inside l) :
    Settles (protocol connectionId key) connectionId first again (Verified invoiceId)
      (advance l (.outside (.http ((XeroHttp.getCall invoiceId).request accessToken tenantId))) answer) answer := by
  cases answer with
  | error text => exact verified_raised inside (by simp)
  | ok response =>
    obtain ⟨doubted, rfl⟩ := inside
    have get : ((XeroHttp.getCall invoiceId).request accessToken tenantId).method ≠ "POST" := by
      simp [XeroHttp.getCall, XeroHttp.Call.request]
    simp only [Settles, advance, get, if_false, Phase.doubt, Phase.retried]
    by_cases unauthorized : response.statusCode = 401 ∧ first = true
    · rw [if_pos unauthorized]
      exact ⟨trivial, fun _ _ => goes_on _⟩
    · rw [if_neg unauthorized]
      by_cases success : response.isSuccess = true
      · rw [if_pos success]
        refine ⟨⟨_, _, rfl⟩, ?_, ?_⟩
        · intro text failed
          unfold HttpResponse.parse at failed
          split at failed <;> cases failed
        · intro body status parsed read fallen
          have seen : gone (!first) response = true := by
            rw [gone, if_pos success, reported, parsed, ok_bind, read]
            simp only [fallen]
          simp [Phase.MayCreate, seen]
      · rw [if_neg success]
        intro text
        have seen : gone (!first) response = true := by
          rw [gone, if_neg success]
          cases first <;> simp_all
        refine ⟨⟨_, _, rfl⟩, fun _ _ => by simp [Phase.MayCreate, seen], by simp⟩

theorem getInvoice_meets :
    Meets (protocol connectionId key) (XeroHttp.request settings connectionId (XeroHttp.getCall invoiceId))
      (.verifying invoiceId false false) (Verified invoiceId) := by
  have pass (first : Bool) (again : Phase → Prop) (goes_on : ∀ doubted, again (.verifying invoiceId true doubted)) :
      Pass (protocol connectionId key) settings connectionId (XeroHttp.getCall invoiceId) first
        (verification invoiceId (!first)) again (Verified invoiceId) := by
    refine ⟨doubting_keeper ?_ ?_, ?_, ?_, ?_⟩
    · rintro l ⟨doubted, rfl⟩
      trivial
    · rintro l doubts ⟨doubted, rfl⟩
      exact ⟨_, rfl⟩
    · intro l token tenantId inside trusted _
      refine ⟨Or.inl ?_, fun answer _ => verification_settles goes_on inside⟩
      obtain ⟨doubted, rfl⟩ := inside
      exact ⟨invoiceId, _, doubted, token.accessToken, tenantId, rfl, rfl⟩
    · intro l token inside trusted absent text
      exact verified_raised inside fun _ _ => trusted absent
    · intro l exc inside failing
      exact verified_raised inside failing
  have first := pass true (verification invoiceId true).inside fun doubted => ⟨doubted, rfl⟩
  exact request_meets first (pass false (fun _ => True) fun _ => trivial) ⟨false, rfl⟩

omit [Library] in
/-- Reading an answer blames no provider. -/
theorem status_available : (firstInvoice body >>= Json.getItem "Status") ≠ .error (.providerUnavailableError text) := by
  intro failed
  have item {key : String} {value : Json} : value.getItem key ≠ .error (.providerUnavailableError text) := by
    unfold Json.getItem
    split <;> (try split) <;> simp
  have head {value : Json} : value.head ≠ .error (.providerUnavailableError text) := by
    unfold Json.head
    split <;> (try split) <;> simp
  rcases bind_failed failed with failed | ⟨_, _, failed⟩
  · rcases bind_failed failed with failed | ⟨_, _, failed⟩
    · exact item failed
    · exact head failed
  · exact item failed

/-- The live status takes the invoice for gone only where the call has come to doubt it. -/
theorem liveStatus_meets :
    Meets (protocol connectionId key) (liveStatus (XeroHttp.client settings) connectionId (.str invoiceId))
      (.verifying invoiceId false false) (fun result l => (∃ retried doubted, l = .verifying invoiceId retried doubted) ∧
        ∀ status, result = .ok status → stands status = .ok false → l.MayCreate) := by
  simp only [liveStatus, XeroHttp.client, Library.str_text, Meets.tryCatch_iff, Meets.bind_iff]
  apply getInvoice_meets.mono
  rintro (exc | body) l ⟨verifying, failing, fallen⟩
  · rw [Meets.andThen_error, Meets.orElse_error]
    cases exc with
    | providerUnavailableError text => exact ⟨verifying, fun _ _ _ => failing text rfl⟩
    | _ => exact ⟨verifying, by simp⟩
  · rw [Meets.andThen_ok, Async.ofExcept_meets]
    cases read : firstInvoice body >>= Json.getItem "Status" with
    | ok status =>
      refine ⟨verifying, ?_⟩
      rintro other ⟨⟩ gone
      exact fallen body status rfl read gone
    | error exc =>
      rw [Meets.orElse_error]
      cases exc with
      | providerUnavailableError text => exact (status_available read).elim
      | _ => exact ⟨verifying, by simp⟩

theorem replay_meets :
    Meets (protocol connectionId key) (replay (XeroHttp.client settings) connectionId
      (XeroInvoiceResult.cached ⟨.str invoiceId, status⟩)) (.verifying invoiceId false false)
      (fun result l => l.Working ∧ (result = .ok none → l.MayCreate)) := by
  have named : (XeroInvoiceResult.cached ⟨.str invoiceId, status⟩).getItem "invoice_id" = .ok (.str invoiceId) := rfl
  simp only [replay, named, Meets.bind_iff, Async.ofExcept_meets, Meets.andThen_ok]
  apply liveStatus_meets.mono
  rintro (exc | live) l ⟨⟨retried, doubted, rfl⟩, fallen⟩
  · exact ⟨trivial, by simp⟩
  · rw [Meets.andThen_ok]
    cases standing : stands live with
    | error exc => exact ⟨trivial, by simp⟩
    | ok standing' =>
      cases standing' with
      | true => exact ⟨trivial, by simp⟩
      | false => exact ⟨trivial, fun _ => fallen live rfl standing⟩

/-- What a creation leaves behind. -/
def Posted : Except Exc Json → Phase → Prop
  | .ok body, l => ∃ response, l = .created response ∧ response.parse = .ok body
  | .error _, l => Settled l

theorem creation_pass (first : Bool) (payload : Json) :
    Pass (protocol connectionId key) settings connectionId (XeroHttp.createCall payload) first creation
      Phase.MayCreate Posted := by
  refine ⟨doubting_keeper (fun _ => mayCreate_working) fun _ doubts may => mayCreate_doubt may doubts, ?_, ?_, ?_⟩
  · intro l token tenantId may trusted _
    refine ⟨Or.inr ⟨may, payload, token.accessToken, tenantId, rfl⟩, fun answer _ => ?_⟩
    cases answer with
    | error text => exact settled_working (mayCreate_working may)
    | ok response =>
      have post : ((XeroHttp.createCall payload).request token.accessToken tenantId).method = "POST" := rfl
      simp only [Settles, protocol_advance, advance, post, if_true]
      by_cases unauthorized : response.statusCode = 401 ∧ first = true
      · have failed : response.isSuccess = false := by simp [HttpResponse.isSuccess, unauthorized.1]
        rw [if_pos unauthorized, failed, if_neg Bool.false_ne_true]
        exact ⟨mayCreate_working may, fun _ _ => mayCreate_retry may⟩
      · rw [if_neg unauthorized]
        by_cases success : response.isSuccess = true
        · rw [if_pos success, if_pos success]
          cases parsed : response.parse with
          | ok body => exact ⟨response, rfl, parsed⟩
          | error exc =>
            rintro other result ⟨⟩ done
            rw [made, parsed] at done
            cases done
        · rw [if_neg success, if_neg success]
          exact fun _ => settled_working (mayCreate_working may)
  · intro l token may _ _ _
    exact settled_working (mayCreate_working may)
  · intro l exc may _
    exact settled_working (mayCreate_working may)

theorem create_meets (may : l.MayCreate) (ttlSeconds : Nat) (invoice : XeroInvoice) :
    Meets (protocol connectionId key) (create (XeroHttp.client settings) ttlSeconds connectionId invoice key) l
      (fun _ l => Settled l) := by
  have settled := settled_working (mayCreate_working may)
  unfold create
  rw [Meets.bind_iff, Async.ofExcept_meets]
  cases invoicePayload invoice with
  | error exc => exact settled
  | ok payload =>
    rw [Meets.andThen_ok, Meets.bind_iff]
    apply (request_meets (creation_pass true _) (creation_pass false _) may).mono
    rintro (exc | body) l₁ posted
    · exact posted
    obtain ⟨response, rfl, parsed⟩ := posted
    have same : made response = accepted body := by rw [made, parsed, ok_bind]
    rw [Meets.andThen_ok, Meets.bind_iff, Async.ofExcept_meets]
    cases accepting : accepted body with
    | error exc =>
      rintro other result ⟨⟩ done
      rw [same, accepting] at done
      cases done
    | ok result =>
      simp only [IdempotencyStore.set, Meets.andThen_ok, Meets.bind_iff, Async.redis_meets, Meets.pure_iff]
      refine ⟨⟨rfl, response, result, rfl, same.trans accepting, rfl⟩, fun _ _ => ?_⟩
      rintro other result ⟨⟩

/-- One call: what the cache holds is verified, and only a doubted or absent result leads to a creation. -/
theorem execute_meets (settled : Settled l) (ttlSeconds : Nat) (invoice : XeroInvoice) (loaded : String) :
    Meets (protocol connectionId (idempotencyKey opCreateInvoice loaded))
      (execute (XeroHttp.client settings) ttlSeconds connectionId invoice loaded) l (fun _ l => Settled l) := by
  simp only [execute, IdempotencyStore.hit, IdempotencyStore.get, Meets.bind_iff, Async.redis_meets, Meets.andThen_ok,
    Meets.pure_iff]
  refine ⟨⟨rfl, settled⟩, fun answer expected => ?_⟩
  cases answer with
  | none =>
    have creating : Phase.MayCreate .creating := trivial
    exact create_meets creating ttlSeconds invoice
  | some cached =>
    obtain ⟨invoiceId, status, rfl⟩ := expected cached rfl
    show Meets _ (replay _ _ _ >>= _) (Phase.verifying invoiceId false false) _
    rw [Meets.bind_iff]
    apply replay_meets.mono
    rintro (exc | found) l₁ ⟨working, may⟩
    · exact settled_working working
    cases found with
    | some result => exact settled_working working
    | none => exact create_meets (may rfl) ttlSeconds invoice

end OpenClaw.Invoices
