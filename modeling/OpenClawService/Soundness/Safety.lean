import OpenClawService.Api.Operations
import OpenClawService.Soundness.Runs

/-! The store stays readable: whatever requests interleave, each of them finds tokens that
decode, entries that its operation caches and records that are well formed, because
each of them leaves such behind. So the answers of a run are conventional. -/
namespace OpenClaw.Api
open Interleaving Approvals

section Told
variable [Library] [FastApi] {settings : AppSettings} {inbound : Inbound} {response : Response}

omit [Library] [FastApi] in
theorem shows_success {route : Route} (page : route.shows = some asked) : route.success = 200 := by
  cases route <;> first | rfl | cases page

omit [FastApi] in
theorem told_known {route : Route} {reply : Reply} (told : Told route found reply) : Known route reply := by
  cases told with
  | registered | again | deciding | recorded => exact .success rfl
  | conflicting => exact httpException_known _ (by simp)
  | confirming page | decided page => exact .success (shows_success page).symm
  | absent | unknown => exact .page _ (by simp)

theorem refused_known (refused : Refused settings inbound reply) : Known inbound.route reply := by
  cases refused with
  | locked | invalid => exact httpException_known _ (by simp)
  | malformed => exact .page _ (by simp)

theorem received_conventional (received : Received settings inbound finds response) : Conventional inbound response := by
  refine ⟨?_, received.identified, received.echoed⟩
  rcases received.reply with refused | ⟨_, _, found, _, told⟩
  · exact refused_known refused
  · exact told_known told

end Told

/-- What the operation caches. -/
def operationShape (operation : String) : Shape :=
  if operation = opSendMessage ∨ operation = opSendApproval then messageEntry else invoiceEntry

theorem entryShape_operation {route : Route} (own : route.operation = some operation) : route.entryShape = operationShape operation := by
  cases route with
  | sendMessage | sendApproval | createInvoice | submitInvoice | voidInvoice =>
    cases own
    rfl
  | _ => cases own

/-- Routes that share an entry cache the same kind of thing. -/
theorem entryShape_same {route other : Route} (left : route.entry = some k) (right : other.entry = some k) :
    route.entryShape = other.entryShape := by
  obtain ⟨operation, _, own, _⟩ := entry_operation left
  rw [entryShape_operation own, entryShape_operation ((operation_same left right).symm.trans own)]

section Store
variable [Library] [FastApi] {ι : Type} [DecidableEq ι] {settings : AppSettings} {inbounds : ι → Inbound} {redis : Redis ι}
  {env : Environment ι} {w w' : World ι} {i : ι} {c : ServiceConfig ι (Except Exc Response)}

/-- Every token decodes, and every entry has the shape that its routes answer from. -/
structure Readable (redis : Redis ι) : Prop where
  tokens (connectionId : String) : ∃ token, TokenStore.decode (redis.hashes (TokenStore.key connectionId)) = .ok token
  entries {route : Route} {k : String} {value : Json} : route.entry = some k → redis.caches k = some value →
    route.entryShape.accepts value = true

omit [FastApi] [DecidableEq ι] in
theorem Readable.expire (readable : Readable redis) (key : String) : Readable (redis.expire key) := by
  refine ⟨readable.tokens, fun {route k value} entered found => ?_⟩
  rcases eq_or_ne k key with rfl | other
  · simp [Redis.expire, Redis.write] at found
  · exact readable.entries entered ((Function.update_of_ne other ..).symm.trans found)

omit [FastApi] in
/-- What a route writes can be read back by every other. -/
theorem Readable.command (readable : Readable redis) {route : Route} {p : Phase} {command : Command}
    (allowed : admits settings.toSettings (fun _ => True) route p (.redis command)) (deposited : deposits route (.redis command)) :
    Readable (redis.exec i command).2 := by
  constructor
  case tokens =>
    intro connectionId
    rcases redis.hash_source i command (TokenStore.key connectionId) with same | ⟨mapping, rfl, merged⟩ | ⟨_, emptied⟩
    · rw [same]
      exact readable.tokens connectionId
    · rcases allowed with ⟨_, token, _, _, rfl⟩ | ⟨approval, _, same, _⟩
      · rw [merged]
        exact ⟨_, TokenStore.decode_merge ..⟩
      · simp [token_key, approval_key] at same
    · rw [emptied]
      exact ⟨none, rfl⟩
  case entries =>
    intro other k value entered found
    rcases redis.cache_source i command k with same | ⟨written, ttl, rfl, stored⟩
    · rw [same] at found
      exact readable.entries entered found
    · obtain ⟨own, _⟩ := allowed
      cases stored.symm.trans found
      rw [entryShape_same entered own]
      exact deposited

omit [FastApi] in
/-- What the store owes a reader it gives. -/
theorem Readable.delivers (readable : Readable redis) {route : Route} {p : Phase} {command : Command}
    (allowed : admits settings.toSettings (fun _ => True) route p (.redis command)) :
    delivers settings.toSettings route (.redis command) (redis.exec i command).1 := by
  cases command with
  | hgetall k =>
    rintro connectionId rfl
    exact readable.tokens connectionId
  | getJson k =>
    cases found : redis.caches k with
    | none => simp [Redis.exec, found, Api.delivers]
    | some value =>
      simp only [Redis.exec, found]
      exact readable.entries allowed found
  | _ => trivial

/-- The clock and the providers that the environment stands for answer as they are documented to. -/
def Documenting (settings : Settings) (env : Environment ι) : Prop :=
  ∀ w i call answer, env.allows w i call answer → Reliable settings call answer

/-- What a request may do, and what it may expect. -/
abbrev typed (settings : AppSettings) (inbound : Inbound) : Protocol Op Op.Answer (Phase × Standing) :=
  (protocol settings (fun _ => True) inbound).prod (typing settings.toSettings inbound.route)

/-- A request ends with an answer, which is conventional unless it has lost its token or failed to send something. -/
def Concluded (inbound : Inbound) (result : Except Exc Response) (l : Phase × Standing) : Prop :=
  (∀ approvalId, inbound.route.approval = some approvalId → Legible approvalId l.1) →
    ∃ response, result = .ok response ∧ (l.2 = .lost ∨ l.2 = .unsent ∨ Conventional inbound response)

theorem respond_concluded (floats : Floats) (configured : urlAccepted (discoveryUrl settings.toSettings) = true) (inbound : Inbound) :
    Meets (typed settings inbound) (respond settings inbound) ({}, .free) (Concluded inbound) := by
  cases own : inbound.route.approval with
  | none =>
    refine Conforms.mono ((respond_meets anything_closed).prod (respond_sound floats configured own)) ?_
    rintro result l ⟨_, ended⟩ _
    exact ended
  | some approvalId =>
    refine Conforms.mono ((respond_received own).prod (respond_apart own)) ?_
    rintro result l ⟨told, _⟩ legible
    obtain ⟨response, same, received⟩ := told (legible approvalId own)
    exact ⟨response, same, Or.inr (Or.inr (received_conventional received))⟩

/-- Where a request is in its conduct, and with its lock. -/
abbrev places (settings : AppSettings) (inbounds : ι → Inbound) (w : World ι) (i : ι) : Phase × Standing :=
  (phasesOf settings inbounds w.log i, standings settings inbounds w.log i)

/-- Over a readable store every request is at a point of a typed program, and leaves the store readable. -/
theorem readable_run (floats : Floats) (configured : urlAccepted (discoveryUrl settings.toSettings) = true) (documenting : Documenting settings.toSettings env) (readable : Readable redis)
    (filed : Filed settings inbounds ⟨redis, []⟩) (run : Reaches (system env) ⟨⟨redis, []⟩, requests settings inbounds⟩ c) :
    (Readable c.shared.redis ∧ Filed settings inbounds c.shared) ∧
      Conforming (fun i => typed settings (inbounds i)) (places settings inbounds) (fun i => Concluded (inbounds i)) c := by
  have tracked : Tracks (system env) (fun i => typed settings (inbounds i)) (places settings inbounds) := (tracks env _ _).prod (tracks env _ _)
  refine Conforming.run tracked (I := fun w => Readable w.redis ∧ Filed settings inbounds w) ?_ ?_ run ⟨readable, filed⟩
    fun i => respond_concluded floats configured (inbounds i)
  · rintro c i op resume answer w ⟨readable, filed⟩ _ _ _ ⟨permitted, deposited⟩ served
    cases served with
    | redis command =>
      obtain ⟨allowed, _⟩ := permitted_redis permitted
      exact ⟨⟨trivial, readable.delivers allowed⟩, readable.command allowed deposited, filed.command permitted⟩
    | outside answered =>
      exact ⟨⟨served_expected anything_delivers (.outside answered), documenting _ _ _ _ answered⟩, readable, filed.outside i _⟩
  · rintro c w ⟨readable, filed⟩ _ drifted
    refine ⟨?_, filed.drifted drifted⟩
    cases drifted with
    | expire => exact readable.expire _
    | invoice => exact readable

/-- Over a store that can be read, and with providers that keep to their documentation, every
request is answered, and conventionally, unless it finds its Xero token gone while it holds
the refresh lock or fails over an HTTP request that may not be sent. The store can still be
read then. -/
theorem answers_conventional (floats : Floats) (configured : urlAccepted (discoveryUrl settings.toSettings) = true) (documenting : Documenting settings.toSettings env) (readable : Readable redis)
    (records : ∀ approvalId, redis.hashes (ApprovalStore.key approvalId) = [] ∨ ∃ approval,
      ApprovalStore.decode (redis.hashes (ApprovalStore.key approvalId)) = .ok (some approval) ∧ WellFormed approvalId approval)
    (run : Reaches (system env) ⟨⟨redis, []⟩, requests settings inbounds⟩ c) : Readable c.shared.redis ∧
      ∀ i result, c.pool i = .done result → ∃ response, result = .ok response ∧ (Conventional (inbounds i) response ∨
        (∃ connectionId, (inbounds i).route.xero = some connectionId ∧ Lost connectionId i c.shared.log) ∨ Unsent i c.shared.log) := by
  obtain ⟨⟨still, filed⟩, conforming⟩ := readable_run floats configured documenting readable (.start records) run
  refine ⟨still, fun i result finished => ?_⟩
  have told : Tells (inbounds i).route.xero i c.shared.log (places settings inbounds c.shared i).2 := standings_tell ..
  obtain ⟨response, same, lost | unsent | conventional⟩ :=
    conforming.finished finished fun approvalId own => filed.loaded i approvalId own
  · rw [lost] at told
    exact ⟨response, same, Or.inr (Or.inl told)⟩
  · rw [unsent] at told
    exact ⟨response, same, Or.inr (Or.inr told)⟩
  · exact ⟨response, same, Or.inl conventional⟩

end Store

section Office
local instance storedBy : Library := .sample
local instance readBy : FastApi := .sample

/-- What is documented, and anything from the clock and the random sources. -/
inductive Allowed : (call : Outside) → call.Answer → Prop
  | now {instant : Int} (clocked : Clocked instant) : Allowed .now instant
  | uuid4 (text : String) : Allowed .uuid4 text
  | tokenUrlsafe (text : String) : Allowed (.tokenUrlsafe nbytes) text
  | http {asked : HttpRequest} {answer : Except String HttpResponse} (documented : Documented .sample asked answer) : Allowed (.http asked) answer

def office : Environment (Fin 3) := ⟨fun _ _ call answer => Allowed call answer, fun _ _ => True, fun _ _ _ => True⟩

/-- A device code that nobody has entered yet, a connection without a token, and a caller without the key. -/
def callers : Fin 3 → Inbound
  | 0 => ⟨some "r0", some "Bearer key", .msDeviceCodePoll "c" "code"⟩
  | 1 => ⟨some "r1", some "Bearer key", .sendMessage "c" { teamId := "team", channelId := "channel", bodyContent := "hello" } none⟩
  | 2 => ⟨none, none, .revokeMsConnection "c"⟩

def refusal : HttpResponse := ⟨400, "", some (.obj [("error", .str "authorization_pending")])⟩

def refuses : (call : Outside) → call.Answer
  | .http _ => .ok refusal
  | call => call.silence

theorem refusal_documented (deviceCode : String) : Documented .sample (MSDeviceCode.pollRequest .sample deviceCode) (.ok refusal) where
  reached _ := ⟨refusal, rfl⟩
  connections same := absurd (show MSDeviceCode.tokenUrl .sample = XeroOAuth.connectionsUrl from same) (by decide)
  xero call token tenantId same := by cases congrArg HttpRequest.headers same
  graph teamId channelId payload token same := by cases congrArg HttpRequest.headers same
  issued _ response same := by
    cases same
    exact ⟨_, rfl, rfl⟩
  started same := absurd ((String.append_right_inj _).mp same) (by decide)

def opening : ServiceConfig (Fin 3) (Except Exc Response) := ⟨⟨Redis.empty, []⟩, requests .sample callers⟩

def morning : List (Move (Fin 3)) := [.outside 0 refuses, .redis 1, .outside 2 refuses]

theorem answers_conventional_morning : ∃ pending absent refused, (morning.foldl play opening).pool 0 = .done (.ok pending) ∧
    Conventional (callers 0) pending ∧ (morning.foldl play opening).pool 1 = .done (.ok absent) ∧ Conventional (callers 1) absent ∧
    (morning.foldl play opening).pool 2 = .done (.ok refused) ∧ Conventional (callers 2) refused := by
  have legal : LegalAlong office (fun _ _ => True) opening morning :=
    ⟨⟨trivial, .http (refusal_documented "code")⟩, trivial, ⟨trivial, .uuid4 ""⟩, trivial⟩
  have run : Reaches (system office) opening (morning.foldl play opening) := plays_run legal
  have documenting : Documenting AppSettings.sample.toSettings office := by
    rintro w i call answer (clocked | _ | _ | documented)
    · exact clocked
    · trivial
    · trivial
    · exact documented
  have floats : Floats := fun _ _ => rfl
  have configured : urlAccepted (discoveryUrl AppSettings.sample.toSettings) = true := by decide
  have sent (i : Fin 3) : ¬ Unsent i (morning.foldl play opening).shared.log := by
    rintro ⟨request, text, _, _ | ⟨_, _ | ⟨_, _ | ⟨_, listed⟩⟩⟩⟩
    cases listed
  have readable : Readable (Redis.empty : Redis (Fin 3)) := ⟨fun _ => ⟨none, rfl⟩, fun _ found => by cases found⟩
  have answered {i : Fin 3} {response : Response} (other : (callers i).route.xero = none)
      (finished : (morning.foldl play opening).pool i = .done (.ok response)) : Conventional (callers i) response := by
    obtain ⟨_, same, conventional | ⟨connectionId, own, _⟩ | unsent⟩ :=
      (answers_conventional floats configured documenting readable (fun _ => Or.inl rfl) run).2 i _ finished
    · cases same
      exact conventional
    · cases other.symm.trans own
    · exact (sent i unsent).elim
  exact ⟨_, _, _, rfl, answered rfl rfl, rfl, answered rfl rfl, rfl, answered rfl rfl⟩

end Office
end OpenClaw.Api
