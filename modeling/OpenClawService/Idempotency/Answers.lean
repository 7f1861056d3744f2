import OpenClawService.Idempotency.Protocol
import OpenClawService.Idempotency.Reads

/-! What an answer stands for. Any number of writing requests run against one
store, in any order or at the same time; a success is always the answer to a
write of the same parameters, as long as nobody reads what others have cached. -/
namespace OpenClaw.Idempotency
open Interleaving

/-- A result that the provider gave to a write with the request's own parameters. -/
def Backed [Library] {ι : Type} (log : List (Entry ι)) (request : Request) (result : Result) : Prop :=
  ∃ i write response, request.write = .ok write ∧ .call i (.outside (.port write)) (.ok response) ∈ log ∧
    request.accept response = .ok result

/-- Who is about to read a cached result has the same parameters as the request that stored it. -/
abbrev Matching {ι : Type} (requests : ι → Request) : ServiceConfig ι (Except Exc Result) → Option ι → Prop :=
  Reading fun writing reader => requests writing = requests reader

section Answers
variable [Library] {ι : Type} [DecidableEq ι] {requests : ι → Request} {env : Environment ι} {w w' : World ι} {i j : ι}
  {op : Op} {answer : op.Answer}

omit [DecidableEq ι] in
theorem Backed.later {entry : Entry ι} (backed : Backed log request result) : Backed (entry :: log) request result := by
  obtain ⟨i, write, response, writes, answered, accepted⟩ := backed
  exact ⟨i, write, response, writes, List.mem_cons_of_mem _ answered, accepted⟩

/-- The runs of the requests, each one made by a worker of its own. -/
def running (requests : ι → Request) (ttlSeconds : Nat) (redis : Redis ι) : ServiceConfig ι (Except Exc Result) :=
  ⟨⟨redis, []⟩, fun i => ((requests i).execute ttlSeconds).run⟩

def phase (sure : Prop) (requests : ι → Request) (log : List (Entry ι)) : ι → Phase :=
  view (fun i => protocol sure (requests i)) (fun _ => .fresh) log

theorem phase_own {sure : Prop} : phase sure requests (.call i op answer :: w.log) i =
    advance (phase sure requests w.log i) op answer := view_own ..

theorem phase_other {sure : Prop} (other : j ≠ i) :
    phase sure requests (.call i op answer :: w.log) j = phase sure requests w.log j := view_other _ _ _ other ..

omit [Library] in
/-- The answer to the write of a call that has made one. -/
def Phase.response : Phase → Option Json
  | .written response | .stored response => some response
  | _ => none

/-- An entry is the backed result of this request, which has its key. -/
def Vouched (requests : ι → Request) (log : List (Entry ι)) (loaded : String) (value : Json) (i : ι) : Prop :=
  ∃ result, (requests i).idemKey = some loaded ∧ value = result.cached ∧ Backed log (requests i) result

/-- Entries are vouched for by who has stored them; who has read one may stand in, if all reads match. -/
structure Honest (matching : Prop) (requests : ι → Request) (w : World ι) : Prop where
  cached : ∀ i loaded value, (requests i).idemKey = some loaded → w.redis.caches loaded = some value →
    ∃ j, writer loaded w.log = some j ∧ Vouched requests w.log loaded value j
  found : ∀ i value, phase False requests w.log i = .found value → ∃ loaded j, (requests i).idemKey = some loaded ∧
    Vouched requests w.log loaded value j ∧ (matching → requests j = requests i)
  written : ∀ i response, (phase False requests w.log i).response = some response →
    ∃ write, (requests i).write = .ok write ∧ .call i (.outside (.port write)) (.ok response) ∈ w.log

omit [DecidableEq ι] in
theorem Vouched.later {entry : Entry ι} (vouched : Vouched requests log loaded value i) :
    Vouched requests (entry :: log) loaded value i := by
  obtain ⟨result, keyed, same, backed⟩ := vouched
  exact ⟨result, keyed, same, backed.later⟩

variable {matching : Prop}

/-- A step after which everybody but its own worker is where they were. -/
theorem Honest.extend (honest : Honest matching requests w) (log : w'.log = .call i op answer :: w.log)
    (cached : ∀ k loaded value, (requests k).idemKey = some loaded → w'.redis.caches loaded = some value →
      ∃ j, writer loaded w'.log = some j ∧ Vouched requests w'.log loaded value j)
    (found : ∀ value, advance (phase False requests w.log i) op answer = .found value → ∃ loaded j,
      (requests i).idemKey = some loaded ∧ Vouched requests w'.log loaded value j ∧ (matching → requests j = requests i))
    (written : ∀ response, (advance (phase False requests w.log i) op answer).response = some response →
      ∃ write, (requests i).write = .ok write ∧ .call i (.outside (.port write)) (.ok response) ∈ w'.log) :
    Honest matching requests w' := by
  constructor
  case cached => exact cached
  case found =>
    intro j value at_phase
    rcases eq_or_ne j i with rfl | other
    · rw [log, phase_own] at at_phase
      exact found value at_phase
    · rw [log, phase_other other] at at_phase
      obtain ⟨loaded, k, keyed, vouched, same⟩ := honest.found j value at_phase
      rw [log]
      exact ⟨loaded, k, keyed, vouched.later, same⟩
  case written =>
    intro j response at_phase
    rcases eq_or_ne j i with rfl | other
    · rw [log, phase_own] at at_phase
      exact written response at_phase
    · rw [log, phase_other other] at at_phase
      obtain ⟨write, writes, answered⟩ := honest.written j response at_phase
      rw [log]
      exact ⟨write, writes, List.mem_cons_of_mem _ answered⟩

theorem Honest.kept_cached (honest : Honest matching requests w) (log : w'.log = entry :: w.log) (redis : w'.redis = w.redis)
    (unwritten : ∀ loaded, writer loaded (entry :: w.log) = writer loaded w.log) : ∀ k loaded value, (requests k).idemKey = some loaded →
      w'.redis.caches loaded = some value → ∃ j, writer loaded w'.log = some j ∧ Vouched requests w'.log loaded value j := by
  intro k loaded value keyed cached
  rw [redis] at cached
  rw [log, unwritten]
  obtain ⟨j, stored, vouched⟩ := honest.cached k loaded value keyed cached
  exact ⟨j, stored, vouched.later⟩

omit [Library] [DecidableEq ι] in
theorem port_found {p : Phase} {call : PortCall} {answer : Except Exc Json}
    (found : advance p (.outside (.port call)) answer = .found value) : p = .found value := by
  cases answer with
  | error exc => exact found
  | ok response =>
    simp only [advance] at found
    split at found
    · cases found
    · exact found

omit [Library] [DecidableEq ι] in
theorem port_written {p : Phase} {call : PortCall} {answer : Except Exc Json}
    (written : (advance p (.outside (.port call)) answer).response = some response) :
    p.response = some response ∨ call.writes = true ∧ answer = .ok response := by
  cases answer with
  | error exc => exact Or.inl written
  | ok body =>
    simp only [advance] at written
    split at written
    · rename_i writing
      cases written
      exact Or.inr ⟨writing, rfl⟩
    · exact Or.inl written

theorem Honest.served (honest : Honest matching requests w) (admitted : admits False (requests i) (phase False requests w.log i) op)
    (matched : matching → ∀ k j, op = .redis (.getJson k) → w.redis.caches k ≠ none → writer k w.log = some j → requests j = requests i)
    (served : Served env i w op answer w') : Honest matching requests w' := by
  cases served with
  | redis command =>
    cases command with
    | getJson k =>
      obtain ⟨fresh, keyed⟩ := admitted
      apply honest.extend
      case log => rfl
      case cached => exact honest.kept_cached rfl rfl fun _ => rfl
      case found =>
        intro value found
        have cached : w.redis.caches k = some value := by
          simp only [advance, Redis.exec] at found
          cases holds : (w.redis.caches k).filter Json.truthy with
          | none =>
            rw [holds] at found
            cases found
          | some cached =>
            rw [holds] at found
            cases found
            exact (Option.filter_eq_some_iff.mp holds).1
        obtain ⟨j, stored, vouched⟩ := honest.cached i k value keyed cached
        exact ⟨k, j, keyed, vouched.later, fun holds => matched holds k j rfl (by simp [cached]) stored⟩
      case written =>
        intro response written
        simp only [advance] at written
        split at written <;> cases written
    | setJson k value ex =>
      obtain ⟨keyed, response, result, at_phase, accepted, rfl⟩ := admitted
      obtain ⟨write, writes, answered⟩ := honest.written i response (by rw [at_phase]; rfl)
      have backed : Backed w.log (requests i) result := ⟨i, write, response, writes, answered, accepted⟩
      apply honest.extend rfl
      · intro j loaded value keyed' cached
        by_cases same : loaded = k
        · subst same
          simp only [Redis.exec, Function.update_self, Option.some.injEq] at cached
          exact ⟨i, writer_set, result, keyed, cached.symm, backed.later⟩
        · simp only [Redis.exec, Function.update_of_ne same] at cached
          obtain ⟨first, stored, vouched⟩ := honest.cached j loaded value keyed' cached
          exact ⟨first, (if_neg (Ne.symm same)).trans stored, vouched.later⟩
      · intro value found
        rw [at_phase] at found
        cases found
      · intro other written
        rw [at_phase] at written
        cases written
        exact ⟨write, writes, List.mem_cons_of_mem _ answered⟩
    | _ => exact admitted.elim
  | @outside call answer allowed =>
    cases call with
    | port call =>
      apply honest.extend
      case log => rfl
      case cached => exact honest.kept_cached rfl rfl fun _ => rfl
      case found =>
        intro value found
        obtain ⟨loaded, j, keyed, vouched, same⟩ := honest.found i value (port_found found)
        exact ⟨loaded, j, keyed, vouched.later, same⟩
      case written =>
        intro response written
        rcases port_written written with before | ⟨writing, rfl⟩
        · obtain ⟨write, writes, answered⟩ := honest.written i response before
          exact ⟨write, writes, List.mem_cons_of_mem _ answered⟩
        · simp only [admits, writing, if_true] at admitted
          exact ⟨call, admitted.2, List.mem_cons_self⟩
    | _ => exact admitted.elim

theorem Honest.drifted (honest : Honest matching requests w) (drifted : Drifted env w w') : Honest matching requests w' := by
  have written (entry : Entry ι) (j : ι) (response : Json)
      (at_phase : (phase False requests w.log j).response = some response) : ∃ write, (requests j).write = .ok write ∧
        .call j (.outside (.port write)) (.ok response) ∈ entry :: w.log := by
    obtain ⟨write, writes, answered⟩ := honest.written j response at_phase
    exact ⟨write, writes, List.mem_cons_of_mem _ answered⟩
  have found (entry : Entry ι) (i : ι) (value : Json) (at_phase : phase False requests w.log i = .found value) : ∃ loaded j,
      (requests i).idemKey = some loaded ∧ Vouched requests (entry :: w.log) loaded value j ∧ (matching → requests j = requests i) := by
    obtain ⟨loaded, j, keyed, vouched, same⟩ := honest.found i value at_phase
    exact ⟨loaded, j, keyed, vouched.later, same⟩
  cases drifted with
  | @expire key present allowed =>
    refine ⟨?_, found _, written _⟩
    intro j loaded value keyed cached
    by_cases same : loaded = key
    · subst same
      simp [Redis.expire] at cached
    · simp only [Redis.expire, Function.update_of_ne same] at cached
      obtain ⟨first, stored, vouched⟩ := honest.cached j loaded value keyed cached
      exact ⟨first, stored, vouched.later⟩
  | invoice allowed =>
    refine ⟨?_, found _, written _⟩
    intro j loaded value keyed cached
    obtain ⟨first, stored, vouched⟩ := honest.cached j loaded value keyed cached
    exact ⟨first, stored, vouched.later⟩

theorem running_conforms (requests : ι → Request) (ttlSeconds : Nat) (redis : Redis ι) :
    Conforming (fun i => protocol False (requests i)) (fun w => phase False requests w.log) (fun i => Answered False (requests i))
      (running requests ttlSeconds redis) := fun j => execute_meets (requests j)

theorem honest_run {ttlSeconds : Nat} {redis : Redis ι} {c : ServiceConfig ι (Except Exc Result)}
    (uncached : ∀ i loaded, (requests i).idemKey = some loaded → redis.caches loaded = none)
    (run : Run (system env) (fun d label => matching → Matching requests d label) (running requests ttlSeconds redis) c) :
    Honest matching requests c.shared ∧ Conforming (fun i => protocol False (requests i))
      (fun w => phase False requests w.log) (fun i => Answered False (requests i)) c := by
  apply Conforming.run (tracks env _ _) ?_ ?_ run ?_ (running_conforms requests ttlSeconds redis)
  · intro c j op resume answer w honest _ guard pending admitted served
    refine ⟨unsure_expects (phase False requests c.shared.log j), honest.served admitted ?_ served⟩
    rintro holds k first rfl
    exact fun present stored => (guard holds).read pending present stored
  · intro c w honest _ drifted
    exact honest.drifted drifted
  · constructor
    case cached =>
      intro j loaded value keyed cached
      have none : redis.caches loaded = some value := cached
      rw [uncached j loaded keyed] at none
      cases none
    case found | written => intro j value at_phase; cases at_phase

/-- Where every cached result that is read was stored for the same parameters, whoever is
answered has been answered for a write of their own parameters. -/
theorem answered_backed {ttlSeconds : Nat} {redis : Redis ι} {c : ServiceConfig ι (Except Exc Result)}
    (uncached : ∀ i loaded, (requests i).idemKey = some loaded → redis.caches loaded = none)
    (run : Run (system env) (Matching requests) (running requests ttlSeconds redis) c) (answered : c.pool i = .done (.ok result)) :
    Backed c.shared.log (requests i) result := by
  have guarded : Run (system env) (fun d label => True → Matching requests d label) (running requests ttlSeconds redis) c :=
    run.weaken fun _ _ matched _ => matched
  obtain ⟨honest, conforming⟩ := honest_run uncached guarded
  have told : Answered False (requests i) (.ok result) (phase False requests c.shared.log i) := conforming.finished answered
  rcases told.2 result rfl with ⟨cached, at_phase, recalled⟩ | ⟨response, at_phase, accepted⟩
  · obtain ⟨loaded, j, keyed, ⟨first, keyed', rfl, backed⟩, same⟩ := honest.found i cached at_phase
    rw [same trivial] at backed
    obtain ⟨_, _, _, _, _, accepted⟩ := id backed
    rw [Request.ofCached_cached accepted] at recalled
    cases recalled
    exact backed
  · have written : (phase False requests c.shared.log i).response = some response := by
      rcases at_phase with ⟨at_phase, _⟩ | at_phase <;> rw [at_phase] <;> rfl
    obtain ⟨write, writes, done⟩ := honest.written i response written
    exact ⟨i, write, response, writes, done, accepted⟩

end Answers

section Submissions
local instance : Library := .sample

/-- Two submissions with one key, of the same invoice or of two. -/
def submitting (first second : String) : ServiceConfig Bool (Except Exc Result) :=
  running (fun again => .submitInvoice "acme" (if again then second else first) "k") 60 .empty

def submitted : (call : Outside) → call.Answer
  | .port (.updateInvoiceStatus _ invoiceId status) =>
    .ok (.obj [("Invoices", .arr [.obj [("InvoiceID", .str invoiceId), ("Status", .str status)]])])
  | call => call.silence

/-- The first one is answered by Xero, the second one from the cache. -/
def bothSubmitted : List (Move Bool) := [.redis false, .outside false submitted, .redis false, .redis true]

/-- The first result expires before the key is used for another invoice. -/
def submittedAnew : List (Move Bool) :=
  [.redis false, .outside false submitted, .redis false, .expire "idempotency:submit_xero_invoice:k", .redis true,
    .outside true submitted, .redis true]

theorem submitted_twice : Backed (submittedAnew.foldl play (submitting "i1" "i2")).shared.log
    (.submitInvoice "acme" "i2" "k") (.invoice ⟨.str "i2", .str "AUTHORISED"⟩) := by
  have answered : (submittedAnew.foldl play (submitting "i1" "i2")).pool true =
      .done (.ok (.invoice ⟨.str "i2", .str "AUTHORISED"⟩)) := rfl
  have legal : LegalAlong (.free Bool) (Matching fun again => .submitInvoice "acme" (if again then "i2" else "i1") "k")
      (submitting "i1" "i2") submittedAnew :=
    ⟨fun cached => (cached rfl).elim, ⟨trivial, trivial⟩, trivial, ⟨trivial, trivial⟩, fun cached => (cached rfl).elim,
      ⟨trivial, trivial⟩, trivial, trivial⟩
  exact answered_backed (fun _ _ _ => rfl) (plays_run legal) answered

/-- The second invoice is reported as submitted, with the id of the first, and Xero was never asked. -/
theorem submitted_unasked : ∃ c, Reaches (system (.free Bool)) (submitting "i1" "i2") c ∧
    c.pool true = .done (.ok (.invoice ⟨.str "i1", .str "AUTHORISED"⟩)) ∧
    ∀ result, ¬ Backed c.shared.log (.submitInvoice "acme" "i2" "k") result := by
  refine ⟨bothSubmitted.foldl play (submitting "i1" "i2"), plays_run (free_legal ..), rfl, ?_⟩
  rintro result ⟨i, write, response, writes, answered, _⟩
  cases writes
  have log : ∃ cached value ex reply, (bothSubmitted.foldl play (submitting "i1" "i2")).shared.log =
      [.call true (.redis (.getJson "idempotency:submit_xero_invoice:k")) cached,
        .call false (.redis (.setJson "idempotency:submit_xero_invoice:k" value ex)) (),
        .call false (.outside (.port (.updateInvoiceStatus "acme" "i1" "AUTHORISED"))) reply,
        .call false (.redis (.getJson "idempotency:submit_xero_invoice:k")) none] := ⟨_, _, _, _, rfl⟩
  obtain ⟨cached, value, ex, reply, log⟩ := log
  simp [log] at answered

end Submissions
end OpenClaw.Idempotency
