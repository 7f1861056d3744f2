import OpenClawService.Connection.Retry
import OpenClawService.Invoices.Invariant

/-! One live invoice per key. The calls are made one after the other by one
worker; the others may do anything that leaves the cached result alone. -/
namespace OpenClaw.Invoices
open Interleaving Connection CreateXeroDraftInvoice

section Safety
variable [Library] {ι : Type} [DecidableEq ι] {minted : HttpResponse → String} {me : ι} {connectionId key : String}
  {env : Environment ι} {w w' : World ι} {i : ι} {op : Op} {answer : op.Answer}

omit [Library] in
/-- Awaits that leave the cached result alone. -/
def Leaves (key : String) : Op → Prop
  | .redis command => command.modifiesCache ≠ some key
  | .outside _ => True

omit [Library] in
def bystander (key : String) : Protocol Op Op.Answer Phase := ⟨fun _ => Leaves key, fun _ _ _ => True, fun p _ _ => p⟩

def protocols (me : ι) (connectionId key : String) (i : ι) : Protocol Op Op.Answer Phase :=
  if i = me then protocol connectionId key else bystander key

def phase (me : ι) (connectionId key : String) (log : List (Entry ι)) : ι → Phase :=
  view (protocols me connectionId key) (fun _ => .idle) log

theorem phase_me : phase me connectionId key (.call me op answer :: w.log) me =
    advance (phase me connectionId key w.log me) op answer := by
  rw [phase, view_own, protocols, if_pos rfl]
  rfl

theorem phase_other (other : i ≠ me) :
    phase me connectionId key (.call i op answer :: w.log) me = phase me connectionId key w.log me :=
  view_other _ _ _ other.symm ..

/-- What is taken of Xero and of the TTL: an invoice that is alive is not
reported as deleted or voided, and the cached result does not run out. -/
structure Faithful (minted : HttpResponse → String) (me : ι) (key : String) (env : Environment ι) : Prop where
  lasts : ∀ w, ¬ env.expires w key
  truthful : ∀ w invoiceId accessToken tenantId response status,
    env.allows w me (.http ((XeroHttp.getCall invoiceId).request accessToken tenantId)) (.ok response) →
    response.isSuccess = true → reported response = .ok status → stands status = .ok false →
    ¬ Live minted me w.log invoiceId

/-- No answer about a live invoice passes for an unavailable provider, and every
creation answers for its invoice. A 401 counts as an answer on the first pass. -/
structure Steady (minted : HttpResponse → String) (me : ι) (connectionId key : String) (env : Environment ι) : Prop where
  verified : ∀ w invoiceId accessToken tenantId response,
    env.allows w me (.http ((XeroHttp.getCall invoiceId).request accessToken tenantId)) (.ok response) →
    Live minted me w.log invoiceId →
    response.isSuccess = true ∨ response.statusCode = 401 ∧ (phase me connectionId key w.log me).retried = false
  refreshed : ∀ w session url refreshToken text invoiceId,
    env.allows w me (.refreshToken session url refreshToken) (.error text) → Live minted me w.log invoiceId →
    XeroOAuth.rejects text = true
  answered : ∀ w request response, env.allows w me (.http request) (.ok response) → request.method = "POST" →
    response.isSuccess = true → ∃ status, made response = .ok ⟨.str (minted response), status⟩

/-- While an invoice is alive, `me` finds no stored token without a tenant. -/
def Tenanted (minted : HttpResponse → String) (me : ι) (connectionId : String) (c : ServiceConfig ι α)
    (label : Option ι) : Prop :=
  label = some me → ∀ invoiceId, Live minted me c.shared.log invoiceId →
    tenantless (c.shared.redis.hashes (TokenStore.key connectionId)) = false

omit [Library] [DecidableEq ι] in
theorem live_other (other : i ≠ me) (live : Live minted me (.call i op answer :: w.log) invoiceId) :
    Live minted me w.log invoiceId := by
  apply live.earlier
  intro mints
  unfold Mints at mints
  split at mints
  · rename_i same
    cases same
    exact other mints.1
  · exact mints

theorem Single.other {p : Phase} (single : Single minted me key w p) (other : i ≠ me) (leaves : Leaves key op)
    (served : Served env i w op answer w') : Single minted me key w' p := by
  cases served with
  | redis command => exact single.unmoved (w.redis.exec_caches i leaves) fun _ live => live_other other live
  | outside allowed => exact single.unmoved rfl fun _ live => live_other other live

omit [DecidableEq ι] in
theorem Single.drifted {p : Phase} (single : Single minted me key w p) (faithful : Faithful minted me key env)
    (drifted : Drifted env w w') : Single minted me key w' p := by
  cases drifted with
  | expire present allowed =>
    apply single.unmoved
    · refine Function.update_of_ne ?_ ..
      rintro rfl
      exact faithful.lasts w allowed
    · exact fun _ live => live.earlier id
  | invoice allowed => exact single.unmoved rfl fun _ live => live.earlier id

/-- The answers of a verification, and what is made of them. -/
theorem Single.verifies {answer : Except String HttpResponse}
    (single : Single minted me key w (.verifying invoiceId retried doubted)) (faithful : Faithful minted me key env)
    (steady : Steady minted me connectionId key env)
    (at_phase : phase me connectionId key w.log me = .verifying invoiceId retried doubted)
    (allowed : env.allows w me (.http ((XeroHttp.getCall invoiceId).request accessToken tenantId)) answer)
    (dies : ∀ invoiceId, Live minted me w'.log invoiceId → Live minted me w.log invoiceId)
    (redis : w'.redis = w.redis) :
    Single minted me key w' (advance (.verifying invoiceId retried doubted)
      (.outside (.http ((XeroHttp.getCall invoiceId).request accessToken tenantId))) answer) := by
  have caches : w'.redis.caches key = w.redis.caches key := by rw [redis]
  cases answer with
  | error text => exact single.unmoved caches dies
  | ok response =>
    have get : ((XeroHttp.getCall invoiceId).request accessToken tenantId).method ≠ "POST" := by
      simp [XeroHttp.getCall, XeroHttp.Call.request]
    rw [advance, if_neg get]
    refine single.doubt caches dies ?_
    intro taken _ other live
    obtain rfl := single.verified live
    have answered := steady.verified w _ _ _ _ allowed live
    rw [at_phase] at answered
    rw [gone] at taken
    by_cases success : response.isSuccess = true
    · rw [if_pos success] at taken
      split at taken
      · rename_i status report
        split at taken
        · rename_i fallen
          exact faithful.truthful w _ _ _ _ _ allowed success report fallen live
        · cases taken
      · cases taken
    · rw [if_neg success] at taken
      obtain ⟨unauthorized, first⟩ := answered.resolve_left success
      have first' : retried = false := first
      simp [Phase.retried, unauthorized, first'] at taken

/-- The answers of a creation. -/
theorem Single.creates {p : Phase} {answer : Except String HttpResponse} (single : Single minted me key w p)
    (steady : Steady minted me connectionId key env) (may : p.MayCreate) (post : request.method = "POST")
    (allowed : env.allows w me (.http request) answer) :
    Single minted me key ⟨w.redis, .call me (.outside (.http request)) answer :: w.log⟩
      (advance p (.outside (.http request)) answer) := by
  cases answer with
  | error text => exact single.unmoved rfl fun _ live => live.earlier id
  | ok response =>
    rw [advance, if_pos post]
    by_cases success : response.isSuccess = true
    · rw [if_pos success]
      refine single.created may rfl ?_ (steady.answered w _ _ allowed post success)
      rintro invoiceId (⟨_, _, _, minted⟩ | ⟨live, _⟩)
      · exact Or.inl minted
      · exact Or.inr live
    · rw [if_neg success]
      refine single.unmoved rfl fun _ live => live.earlier ?_
      rintro ⟨_, _, succeeded, _⟩
      exact success succeeded

theorem Single.redis {p : Phase} {command : Command} (single : Single minted me key w p)
    (tenanted : ∀ invoiceId, Live minted me w.log invoiceId →
      tenantless (w.redis.hashes (TokenStore.key connectionId)) = false)
    (admitted : admits connectionId key p (.redis command)) :
    Single minted me key ⟨(w.redis.exec me command).2, .call me (.redis command) (w.redis.exec me command).1 :: w.log⟩
      (advance p (.redis command) (w.redis.exec me command).1) := by
  have dies (invoiceId : String)
      (live : Live minted me (.call me (.redis command) (w.redis.exec me command).1 :: w.log) invoiceId) :
      Live minted me w.log invoiceId := live.earlier id
  cases command with
  | getJson k =>
    obtain ⟨rfl, settled⟩ := admitted
    exact single.opened settled rfl dies
  | setJson k value ex =>
    obtain ⟨rfl, response, result, created, done, rfl⟩ := admitted
    exact single.stored created done (Function.update_self ..) dies
  | delHash k => exact single.retry rfl dies
  | hgetall k =>
    obtain ⟨_, rfl⟩ := admitted
    apply single.doubt
    · rfl
    · exact dies
    · intro lost _ invoiceId live
      exact Bool.false_ne_true ((tenanted invoiceId live).symm.trans lost)
  | _ => exact single.unmoved (w.redis.exec_caches me nofun) dies

theorem Single.expected {p : Phase} {command : Command} (single : Single minted me key w p)
    (admitted : admits connectionId key p (.redis command)) : expects p (.redis command) (w.redis.exec me command).1 := by
  cases command with
  | getJson k =>
    obtain ⟨rfl, _⟩ := admitted
    exact fun value cached => single.shaped cached
  | _ => trivial

theorem Single.outside {p : Phase} {call : Outside} {answer : call.Answer} (single : Single minted me key w p)
    (faithful : Faithful minted me key env) (steady : Steady minted me connectionId key env)
    (at_phase : phase me connectionId key w.log me = p) (allowed : env.allows w me call answer)
    (admitted : admits connectionId key p (.outside call)) :
    Single minted me key ⟨w.redis, .call me (.outside call) answer :: w.log⟩ (advance p (.outside call) answer) := by
  cases call with
  | http request =>
    rcases admitted with ⟨invoiceId, retried, doubted, accessToken, tenantId, rfl, rfl⟩ | ⟨may, payload, _, _, rfl⟩
    · refine single.verifies faithful steady at_phase allowed ?_ rfl
      rintro other (mints | ⟨live, _⟩)
      · cases answer with
        | error text => exact mints.elim
        | ok response => exact (by simp [XeroHttp.getCall, XeroHttp.Call.request, Mints] at mints)
      · exact live
    · exact single.creates steady may rfl allowed
  | refreshToken session url refreshToken =>
    cases answer with
    | ok raw => exact single.unmoved rfl fun _ live => live.earlier id
    | error text =>
      apply single.doubt
      · rfl
      · exact fun _ live => live.earlier id
      · intro taken _ invoiceId live
        simp [steady.refreshed w _ _ _ _ _ allowed live] at taken
  | _ => exact single.unmoved rfl fun _ live => live.earlier id

omit [Library] [DecidableEq ι] in
/-- The method of the API request that a worker is making. -/
def asking : Prog Op Op.Answer α → Option String
  | .await (.outside (.http request)) _ => some request.method
  | _ => none

omit [Library] [DecidableEq ι] in
/-- `me` is asking Xero for a new invoice. -/
abbrev Creating (me : ι) (c : ServiceConfig ι α) : Prop := asking (c.pool me) = some "POST"

/-- The calls on one key, one after the other. -/
def creations (settings : Settings) (connectionId : String) (invoice : XeroInvoice) (loaded : String) (calls : Nat) :
    Prog Op Op.Answer (List (Except Exc XeroInvoiceResult)) :=
  .sequence (.replicate calls
    (execute (XeroHttp.client settings) settings.idempotencyTtlSeconds connectionId invoice loaded).run)

theorem creations_conform (settings : Settings) (invoice : XeroInvoice) (loaded : String) (calls : Nat) :
    Conforms (protocol connectionId (idempotencyKey opCreateInvoice loaded))
      (creations settings connectionId invoice loaded calls) .idle (fun _ l => Settled l) := by
  apply Conforms.sequence
  · intro program member l settled
    rw [List.eq_of_mem_replicate member]
    exact execute_meets settled _ invoice loaded
  · rintro response result ⟨⟩

theorem sequential_conforms {pool : ι → Prog Op Op.Answer (List (Except Exc XeroInvoiceResult))}
    (sequential : pool me = creations settings connectionId invoice loaded calls)
    (others : ∀ i, i ≠ me → (pool i).Uses (Leaves (idempotencyKey opCreateInvoice loaded))) :
    Conforms (protocols me connectionId (idempotencyKey opCreateInvoice loaded) i) (pool i) .idle (fun _ _ => True) := by
  by_cases same : i = me
  · subst same
    rw [protocols, if_pos rfl, sequential]
    exact (creations_conform settings invoice loaded calls).mono fun _ _ _ => trivial
  · rw [protocols, if_neg same]
    exact Conforms.of_uses (others i same) (fun _ _ _ leaves => leaves) (fun _ _ _ _ _ _ => trivial) trivial

/-- The own awaits answer the phase they are made in, and those of the others leave it. -/
theorem Single.served {c : ServiceConfig ι α} (single : Single minted me key c.shared (phase me connectionId key c.shared.log me))
    (faithful : Faithful minted me key env) (steady : Steady minted me connectionId key env)
    (tenanted : Tenanted minted me connectionId c (some i))
    (admitted : (protocols me connectionId key i).admits (phase me connectionId key c.shared.log i) op)
    (served : Served env i c.shared op answer w) :
    (protocols me connectionId key i).expects (phase me connectionId key c.shared.log i) op answer ∧
      Single minted me key w (phase me connectionId key w.log me) := by
  by_cases same : i = me
  · subst same
    rw [protocols, if_pos rfl] at admitted ⊢
    cases served with
    | redis command =>
      refine ⟨single.expected admitted, ?_⟩
      rw [phase_me]
      exact single.redis (tenanted rfl) admitted
    | outside allowed =>
      refine ⟨trivial, ?_⟩
      rw [phase_me]
      exact single.outside faithful steady rfl allowed admitted
  · rw [protocols, if_neg same] at admitted ⊢
    refine ⟨trivial, ?_⟩
    have log : w.log = .call i op answer :: c.shared.log := by cases served <;> rfl
    rw [log, phase_other same]
    exact single.other same admitted served

theorem single_run {redis : Redis ι} {c : ServiceConfig ι α} {pool : ι → Prog Op Op.Answer α}
    (faithful : Faithful minted me key env) (steady : Steady minted me connectionId key env)
    (entered : Single minted me key ⟨redis, []⟩ .idle)
    (conforming : ∀ i, Conforms (protocols me connectionId key i) (pool i) .idle fun _ _ => True)
    (run : Run (system env) (Tenanted minted me connectionId) ⟨⟨redis, []⟩, pool⟩ c) :
    Single minted me key c.shared (phase me connectionId key c.shared.log me) ∧
      Conforming (protocols me connectionId key) (fun w => phase me connectionId key w.log) (fun _ _ _ => True) c := by
  apply Conforming.run (I := fun w => Single minted me key w (phase me connectionId key w.log me)) (tracks env _ _)
    ?_ ?_ run entered conforming
  · intro c i op resume answer w single _ tenanted _ admitted served
    exact single.served faithful steady tenanted admitted served
  · intro c w single _ drifted
    have same : phase me connectionId key w.log = phase me connectionId key c.shared.log := by cases drifted <;> rfl
    rw [same]
    exact single.drifted faithful drifted

/-- Steady answers are enough: no creation is ever asked for while an invoice
created under the key is alive. -/
theorem created_singly {settings : Settings} {invoice : XeroInvoice} {loaded : String} {calls : Nat} {redis : Redis ι}
    {pool : ι → Prog Op Op.Answer (List (Except Exc XeroInvoiceResult))}
    {c : ServiceConfig ι (List (Except Exc XeroInvoiceResult))}
    (faithful : Faithful minted me (idempotencyKey opCreateInvoice loaded) env)
    (steady : Steady minted me connectionId (idempotencyKey opCreateInvoice loaded) env)
    (sequential : pool me = creations settings connectionId invoice loaded calls)
    (others : ∀ i, i ≠ me → (pool i).Uses (Leaves (idempotencyKey opCreateInvoice loaded)))
    (fresh : redis.caches (idempotencyKey opCreateInvoice loaded) = none)
    (run : Run (system env) (Tenanted minted me connectionId) ⟨⟨redis, []⟩, pool⟩ c)
    (creating : Creating me c) :
    ∀ invoiceId, ¬ Live minted me c.shared.log invoiceId := by
  have entered : Single minted me (idempotencyKey opCreateInvoice loaded) (⟨redis, []⟩ : World ι) .idle := by
    constructor
    case shaped => simp [fresh]
    case single => exact fun _ live => live.elim
    case subject => rintro invoiceId retried doubted ⟨⟩
    case free => exact fun may => may.elim
    case posted => rintro response ⟨⟩
  obtain ⟨single, conforming⟩ := single_run faithful steady entered
    (fun _ => sequential_conforms sequential others) run
  unfold Creating asking at creating
  split at creating
  case h_2 => cases creating
  rename_i request resume pending
  have admitted := conforming.admitted pending
  rw [protocols, if_pos rfl] at admitted
  rcases admitted with ⟨_, _, _, _, _, _, rfl⟩ | ⟨may, _⟩
  · simp [XeroHttp.getCall, XeroHttp.Call.request] at creating
  · exact fun invoiceId => single.free may

/-- Xero as far as these calls see it. A steady one fails no verification and
no refresh, and reports every creation in full. -/
def xero (minted : HttpResponse → String) (me : ι) (steady : Prop) : Environment ι where
  allows w _ call answer := match call, answer with
    | .http request, .ok response =>
      if request.method = "POST" then
        steady → response.isSuccess = true → ∃ status, made response = .ok ⟨.str (minted response), status⟩
      else (steady → response.isSuccess = true) ∧ ∀ status, response.isSuccess = true → reported response = .ok status →
        stands status = .ok false → ∀ invoiceId, ¬ Live minted me w.log invoiceId
    | .refreshToken .., .error _ => ¬ steady
    | _, _ => True
  expires _ _ := False
  changes _ _ _ := True

variable {steady : Prop}

omit [DecidableEq ι] in
theorem xero_post (post : request.method = "POST") : (xero minted me steady).allows w i (.http request) (.ok response) ↔
    (steady → response.isSuccess = true → ∃ status, made response = .ok ⟨.str (minted response), status⟩) := by
  simp only [xero, if_pos post]

omit [DecidableEq ι] in
theorem xero_get : (xero minted me steady).allows w i (.http ((XeroHttp.getCall invoiceId).request accessToken tenantId))
    (.ok response) ↔ (steady → response.isSuccess = true) ∧ ∀ status, response.isSuccess = true →
      reported response = .ok status → stands status = .ok false → ∀ invoiceId, ¬ Live minted me w.log invoiceId := by
  have get : ((XeroHttp.getCall invoiceId).request accessToken tenantId).method ≠ "POST" := by
    simp [XeroHttp.getCall, XeroHttp.Call.request]
  simp only [xero, if_neg get]

omit [DecidableEq ι] in
theorem xero_faithful : Faithful minted me key (xero minted me steady) where
  lasts _ expires := expires
  truthful _ invoiceId _ _ _ status allowed success report fallen :=
    (xero_get.mp allowed).2 status success report fallen invoiceId

theorem xero_steady : Steady minted me connectionId key (xero minted me True) where
  verified _ _ _ _ _ allowed _ := Or.inl ((xero_get.mp allowed).1 trivial)
  refreshed _ _ _ _ _ _ allowed _ := (allowed trivial).elim
  answered _ _ _ allowed post success := (xero_post post).mp allowed trivial success

end Safety

section Runs
local instance : Library := .sample

def draft : XeroInvoice := ⟨"contact", [⟨"Paper", "1", "10.00", "400", none⟩], "2024-01-31", "EUR", none⟩

/-- Two calls with the same key. -/
def drafting : ServiceConfig Unit (List (Except Exc XeroInvoiceResult)) :=
  ⟨⟨connected Unit, []⟩, fun _ => creations .sample "acme" draft "k" 2⟩

def body (status : String) : Json :=
  .obj [("Invoices", .arr [.obj [("InvoiceID", .str "i1"), ("Status", .str status), ("Type", .str "ACCPAY")]])]

/-- Xero keeps the id of the invoice in the text of its answer. -/
def replying (statusCode : Nat) (status : String) : (call : Outside) → call.Answer
  | .http _ => .ok ⟨statusCode, "i1", some (body status)⟩
  | call => call.silence

/-- The first call creates the invoice and caches it. -/
def drafted : List (Move Unit) :=
  [.redis (), .redis (), .outside () Outside.silence, .outside () (replying 200 "DRAFT"), .redis ()]

/-- The second call verifies it, and asks for another one. -/
def redrafted (statusCode : Nat) (status : String) : List (Move Unit) :=
  [.redis (), .redis (), .outside () Outside.silence, .outside () (replying statusCode status), .redis (),
    .outside () Outside.silence]


/-- The invoice is deleted between the two calls. -/
def deleted : List (Move Unit) := drafted ++ .invoice "i1" "DELETED" :: redrafted 200 "DELETED"

/-- The stored token of the runs has a tenant. -/
theorem connected_tenanted {c : ServiceConfig Unit α} (hashes : c.shared.redis.hashes = (connected Unit).hashes) :
    Tenanted HttpResponse.text () "acme" c label := by
  have tenant : tenantless (TokenStore.toMapping valid) = false := rfl
  intro _ _ _
  rw [hashes]
  exact tenant

theorem created_again : Creating () (deleted.foldl play drafting) ∧
    ∀ invoiceId, ¬ Live HttpResponse.text () (deleted.foldl play drafting).shared.log invoiceId := by
  have creating : Creating () (deleted.foldl play drafting) := by decide
  have sequential : drafting.pool () = creations .sample "acme" draft "k" 2 := rfl
  have fresh : (connected Unit).caches (idempotencyKey opCreateInvoice "k") = none := rfl
  refine ⟨creating, created_singly xero_faithful xero_steady sequential (fun _ other => (other rfl).elim) fresh
    ?_ creating⟩
  refine plays_run ⟨connected_tenanted rfl, connected_tenanted rfl, ⟨connected_tenanted rfl, trivial⟩,
    ⟨connected_tenanted rfl, (xero_post rfl).mpr fun _ _ => ⟨.str "DRAFT", rfl⟩⟩, connected_tenanted rfl,
    ⟨connected_tenanted rfl, trivial⟩, connected_tenanted rfl, connected_tenanted rfl, ⟨connected_tenanted rfl, trivial⟩,
    ⟨connected_tenanted rfl, xero_get.mpr ⟨fun _ => rfl, ?_⟩⟩, connected_tenanted rfl,
    ⟨connected_tenanted rfl, trivial⟩, trivial⟩
  intro status _ _ _ invoiceId live
  have opened : Live HttpResponse.text () _ invoiceId := ((live.earlier id).earlier id).earlier id
  obtain ⟨kept, alive⟩ := opened.resolve_left id
  rcases kept.earlier id with ⟨_, _, _, named⟩ | ⟨before, _⟩
  · exact alive ⟨named, List.mem_cons_self⟩
  · exact ((before.earlier id).earlier id).earlier id

/-- The verification of the live invoice is answered with 503, and another one is asked for. -/
theorem created_twice : Faithful HttpResponse.text () (idempotencyKey opCreateInvoice "k") (xero HttpResponse.text () False) ∧
    ∃ c, Reaches (system (xero HttpResponse.text () False)) drafting c ∧ Creating () c ∧
      Live HttpResponse.text () c.shared.log "i1" := by
  refine ⟨xero_faithful, (drafted ++ redrafted 503 "").foldl play drafting, ?_, rfl, ?_⟩
  · refine plays_run ⟨trivial, trivial, ⟨trivial, trivial⟩, ⟨trivial, (xero_post rfl).mpr nofun⟩, trivial, trivial, trivial,
      ⟨trivial, trivial⟩, ⟨trivial, xero_get.mpr ⟨nofun, ?_⟩⟩, trivial, ⟨trivial, trivial⟩, trivial⟩
    intro status success
    cases success
  · iterate 7 refine Or.inr ⟨?_, id⟩
    exact Or.inl ⟨rfl, rfl, rfl, rfl⟩

end Runs
end OpenClaw.Invoices
