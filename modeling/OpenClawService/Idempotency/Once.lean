import OpenClawService.Idempotency.Answers

/-! One write for many calls of the same request. A call that reads the cache
after another has stored its result never writes; and where no call reads it
while another is on the way from its empty read to its store, there is one write. -/
namespace OpenClaw.Idempotency
open Interleaving

namespace Phase

/-- Between the empty read and the store. -/
def Open : Phase → Prop
  | .missed | .written _ => True
  | _ => False

end Phase

section Log
variable {ι : Type}

def isWrite : Entry ι → Bool
  | .call _ (.outside (.port call)) _ => call.writes
  | _ => false

/-- How often a write endpoint of the provider was called. -/
def writes (log : List (Entry ι)) : Nat := log.countP isWrite

/-- Some call has stored its result. -/
def IsStored (loaded : String) (log : List (Entry ι)) : Prop :=
  ∃ j value ex, .call j (.redis (.setJson loaded value ex)) () ∈ log

/-- The call has read the cache after another one had stored its result. -/
def Late (loaded : String) (i : ι) : List (Entry ι) → Prop
  | .call j (.redis (.getJson k)) _ :: rest => (j = i ∧ k = loaded ∧ IsStored loaded rest) ∨ Late loaded i rest
  | _ :: rest => Late loaded i rest
  | [] => False

def Wrote (i : ι) (log : List (Entry ι)) : Prop :=
  ∃ write answer, .call i (.outside (.port write)) answer ∈ log ∧ write.writes = true

end Log

section Once
variable [Library] {ι : Type} [DecidableEq ι] {request : Request} {loaded : String} {env : Environment ι} {w w' : World ι}
  {i j : ι} {op : Op} {answer : op.Answer}

/-- Every call of the provider succeeds, the created invoice stands whenever
it is verified, and the cached entry does not expire. -/
structure Sure (env : Environment ι) (request : Request) (loaded : String) : Prop where
  lasts : ∀ w, ¬ env.expires w loaded
  succeeds : ∀ w i write answer, env.allows w i (.port write) answer → write.writes = true →
    ∃ response result, answer = .ok response ∧ request.accept response = .ok result
  stands : ∀ w i read answer, env.allows w i (.port read) answer → read.writes = false → Stands answer

abbrev surePhase (request : Request) (log : List (Entry ι)) : ι → Phase := phase True (fun _ => request) log

/-- What holds of any calls of one request, however they overlap. -/
structure Cached (request : Request) (loaded : String) (w : World ι) : Prop where
  readable : ∀ value, w.redis.caches loaded = some value → ∃ result, value = result.cached ∧ request.ofCached value = .ok result
  stored : IsStored loaded w.log → w.redis.caches loaded ≠ none
  late : ∀ i, Late loaded i w.log → ∃ value, surePhase request w.log i = .found value
  wrote : ∀ i, Wrote i w.log → ∃ response, (surePhase request w.log i).response = some response

omit [Library] [DecidableEq ι] in
theorem late_other (other : j ≠ i) (late : Late loaded j (.call i op answer :: log)) : Late loaded j log := by
  unfold Late at late
  split at late
  · rename_i same
    cases same
    exact late.resolve_left fun own => other own.1.symm
  · rename_i same
    cases same
    exact late
  · rename_i same
    cases same

omit [Library] [DecidableEq ι] in
theorem wrote_other (other : j ≠ i) (wrote : Wrote j (.call i op answer :: log)) : Wrote j log := by
  obtain ⟨write, reply, member, writing⟩ := wrote
  exact ⟨write, reply, (listed_other other).mp member, writing⟩

/-- A step of one call leaves the account of the others alone. -/
theorem Cached.extend (cached : Cached request loaded w) (log : w'.log = .call i op answer :: w.log)
    (readable : ∀ value, w'.redis.caches loaded = some value →
      ∃ result, value = result.cached ∧ request.ofCached value = .ok result)
    (stored : IsStored loaded w'.log → w'.redis.caches loaded ≠ none)
    (late : Late loaded i w'.log → ∃ value, advance (surePhase request w.log i) op answer = .found value)
    (wrote : Wrote i w'.log → ∃ response, (advance (surePhase request w.log i) op answer).response = some response) :
    Cached request loaded w' := by
  refine ⟨readable, stored, fun j later => ?_, fun j written => ?_⟩
  · rcases eq_or_ne j i with rfl | other
    · rw [log, surePhase, phase_own]
      exact late later
    · rw [log] at later ⊢
      rw [surePhase, phase_other other]
      exact cached.late j (late_other other later)
  · rcases eq_or_ne j i with rfl | other
    · rw [log, surePhase, phase_own]
      exact wrote written
    · rw [log] at written ⊢
      rw [surePhase, phase_other other]
      exact cached.wrote j (wrote_other other written)

omit [Library] [DecidableEq ι] in
theorem isStored_other (other : ∀ value ex, op ≠ .redis (.setJson loaded value ex))
    (stored : IsStored loaded (.call i op answer :: log)) : IsStored loaded log := by
  obtain ⟨j, value, ex, member⟩ := stored
  rcases List.mem_cons.mp member with same | member
  · cases same
    exact (other value ex rfl).elim
  · exact ⟨j, value, ex, member⟩

omit [Library] [DecidableEq ι] in
theorem wrote_unless (other : ∀ write, op = .outside (.port write) → write.writes = false)
    (wrote : Wrote i (.call i op answer :: log)) : Wrote i log := by
  obtain ⟨write, reply, member, writing⟩ := wrote
  rcases List.mem_cons.mp member with same | member
  · cases same
    rw [other write rfl] at writing
    cases writing
  · exact ⟨write, reply, member, writing⟩

/-- The cache is read. -/
theorem Cached.read {k : String} (cached : Cached request loaded w) (keyed : request.idemKey = some loaded)
    (admitted : admits True request (surePhase request w.log i) (.redis (.getJson k))) :
    Cached request loaded ⟨w.redis, .call i (.redis (.getJson k)) (w.redis.caches k) :: w.log⟩ := by
  obtain ⟨fresh, same⟩ := admitted
  obtain rfl := Option.some.inj (same.symm.trans keyed)
  apply cached.extend
  case log => rfl
  case readable => exact cached.readable
  case stored => exact fun stored => cached.stored (isStored_other (by simp) stored)
  case late =>
    rintro (⟨_, _, stored⟩ | late)
    · cases holds : w.redis.caches k with
      | none => exact (cached.stored stored holds).elim
      | some value =>
        obtain ⟨result, rfl, _⟩ := cached.readable value holds
        exact ⟨result.cached, by simp [advance, Option.filter, result.cached_truthy]⟩
    · obtain ⟨value, found⟩ := cached.late i late
      rw [fresh] at found
      cases found
  case wrote =>
    intro wrote
    obtain ⟨response, written⟩ := cached.wrote i (wrote_unless (by simp) wrote)
    rw [fresh] at written
    cases written

/-- A result is stored. -/
theorem Cached.store {k : String} {value : Json} {ex : Nat} (cached : Cached request loaded w)
    (keyed : request.idemKey = some loaded)
    (admitted : admits True request (surePhase request w.log i) (.redis (.setJson k value ex))) :
    Cached request loaded ⟨(w.redis.exec i (.setJson k value ex)).2, .call i (.redis (.setJson k value ex)) () :: w.log⟩ := by
  obtain ⟨same, response, result, written, accepted, rfl⟩ := admitted
  obtain rfl := Option.some.inj (same.symm.trans keyed)
  have holds : (w.redis.exec i (.setJson k result.cached ex)).2.caches k = some result.cached := Function.update_self ..
  apply cached.extend
  case log => rfl
  case readable =>
    intro value stored
    rw [holds] at stored
    cases stored
    exact ⟨result, rfl, Request.ofCached_cached accepted⟩
  case stored => simp [holds]
  case late =>
    intro late
    obtain ⟨value, found⟩ := cached.late i late
    rw [written] at found
    cases found
  case wrote =>
    intro _
    rw [written]
    exact ⟨response, rfl⟩

omit [Library] in
/-- A call that may write has found nothing in the cache. -/
theorem mayWrite_missed {p : Phase} (keyed : request.idemKey = some loaded) (may : MayWrite True request p) : p = .missed := by
  cases p with
  | missed => rfl
  | fresh =>
    have unkeyed : request.idemKey = none := may
    rw [keyed] at unkeyed
    cases unkeyed
  | found => exact (may trivial).elim
  | _ => exact may.elim

/-- The answer to a call of the provider. -/
theorem Cached.port {call : PortCall} {answer : Except Exc Json} (cached : Cached request loaded w)
    (keyed : request.idemKey = some loaded) (sure : Sure env request loaded)
    (admitted : admits True request (surePhase request w.log i) (.outside (.port call)))
    (allowed : env.allows w i (.port call) answer) :
    Cached request loaded ⟨w.redis, .call i (.outside (.port call)) answer :: w.log⟩ := by
  by_cases writing : call.writes = true
  · simp only [admits, writing, if_true] at admitted
    have missed := mayWrite_missed keyed admitted.1
    obtain ⟨response, result, rfl, _⟩ := sure.succeeds w i call answer allowed writing
    apply cached.extend
    case log => rfl
    case readable => exact cached.readable
    case stored => exact fun stored => cached.stored (isStored_other (by simp) stored)
    case late =>
      intro late
      obtain ⟨value, found⟩ := cached.late i late
      rw [missed] at found
      cases found
    case wrote => exact fun _ => ⟨response, by simp [advance, writing, Phase.response]⟩
  · have reading : call.writes = false := by simpa using writing
    have still : advance (surePhase request w.log i) (.outside (.port call)) answer = surePhase request w.log i := by
      cases answer <;> simp [advance, reading]
    apply cached.extend
    case log => rfl
    case readable => exact cached.readable
    case stored => exact fun stored => cached.stored (isStored_other (by simp) stored)
    case late =>
      intro late
      rw [still]
      exact cached.late i late
    case wrote =>
      intro wrote
      rw [still]
      refine cached.wrote i (wrote_unless ?_ wrote)
      rintro write ⟨⟩
      exact reading

theorem Cached.expected (cached : Cached request loaded w) (keyed : request.idemKey = some loaded)
    (sure : Sure env request loaded) (admitted : admits True request (surePhase request w.log i) op)
    (served : Served env i w op answer w') : expects True request (surePhase request w.log i) op answer := by
  cases served with
  | redis command =>
    cases command with
    | getJson k =>
      obtain ⟨_, same⟩ := admitted
      obtain rfl := Option.some.inj (same.symm.trans keyed)
      intro _ value holds
      obtain ⟨result, _, read⟩ := cached.readable value holds
      exact ⟨result, read⟩
    | _ => trivial
  | @outside call answer allowed =>
    cases call with
    | port call =>
      intro _
      split
      · rename_i writing
        exact sure.succeeds w i call answer allowed writing
      · rename_i reading
        exact sure.stands w i call answer allowed (by simpa using reading)
    | _ => trivial

theorem Cached.served (cached : Cached request loaded w) (keyed : request.idemKey = some loaded)
    (sure : Sure env request loaded) (admitted : admits True request (surePhase request w.log i) op)
    (served : Served env i w op answer w') : Cached request loaded w' := by
  cases served with
  | redis command =>
    cases command with
    | getJson k => exact cached.read keyed admitted
    | setJson k value ex => exact cached.store keyed admitted
    | _ => exact admitted.elim
  | @outside call answer allowed =>
    cases call with
    | port call => exact cached.port keyed sure admitted allowed
    | _ => exact admitted.elim

theorem Cached.drifted (cached : Cached request loaded w) (sure : Sure env request loaded) (drifted : Drifted env w w') :
    Cached request loaded w' := by
  have uncalled {entry : Entry ι} (other : ∀ i op answer, entry ≠ .call i op answer)
      (stored : IsStored loaded (entry :: w.log)) : IsStored loaded w.log := by
    obtain ⟨j, value, ex, member⟩ := stored
    exact ⟨j, value, ex, (List.mem_cons.mp member).resolve_left fun same => other _ _ _ same.symm⟩
  have unwritten {entry : Entry ι} (other : ∀ i op answer, entry ≠ .call i op answer) (i : ι)
      (wrote : Wrote i (entry :: w.log)) : Wrote i w.log := by
    obtain ⟨write, reply, member, writing⟩ := wrote
    exact ⟨write, reply, (List.mem_cons.mp member).resolve_left fun same => other _ _ _ same.symm, writing⟩
  cases drifted with
  | @expire key present allowed =>
    have other : loaded ≠ key := by
      rintro rfl
      exact sure.lasts w allowed
    have same : (w.redis.expire key).caches loaded = w.redis.caches loaded := Function.update_of_ne other ..
    refine ⟨?_, ?_, cached.late, fun i wrote => cached.wrote i (unwritten (by simp) i wrote)⟩
    · simpa only [same] using cached.readable
    · rw [same]
      exact fun stored => cached.stored (uncalled (by simp) stored)
  | invoice allowed =>
    exact ⟨cached.readable, fun stored => cached.stored (uncalled (by simp) stored), cached.late,
      fun i wrote => cached.wrote i (unwritten (by simp) i wrote)⟩

/-- No call reads the cache while another, having found nothing there, has
still to store its result. -/
def Apart (request : Request) (c : ServiceConfig ι α) : Option ι → Prop
  | some i => match c.pool i with
    | .await (.redis (.getJson _)) _ => ∀ j, ¬ (surePhase request c.shared.log j).Open
    | _ => True
  | none => True

/-- How far the one write has come. -/
inductive Stage (request : Request) (loaded : String) (w : World ι) : Prop where
  | unread (uncached : w.redis.caches loaded = none) (unwritten : writes w.log = 0)
    (fresh : ∀ j, surePhase request w.log j = .fresh)
  | missed (i : ι) (uncached : w.redis.caches loaded = none) (unwritten : writes w.log = 0)
    (own : surePhase request w.log i = .missed) (others : ∀ j, j ≠ i → surePhase request w.log j = .fresh)
  | written (i : ι) (response : Json) (uncached : w.redis.caches loaded = none) (once : writes w.log = 1)
    (own : surePhase request w.log i = .written response) (others : ∀ j, j ≠ i → surePhase request w.log j = .fresh)
  | stored (result : Result) (cached : w.redis.caches loaded = some result.cached) (once : writes w.log = 1)
    (recalled : request.ofCached result.cached = .ok result)
    (each : ∀ j, surePhase request w.log j = .fresh ∨ surePhase request w.log j = .found result.cached ∨
      ∃ response, surePhase request w.log j = .stored response ∧ request.accept response = .ok result)

theorem Stage.writes_le (stage : Stage request loaded w) : writes w.log ≤ 1 := by
  cases stage <;> omega

theorem surePhase_own : surePhase request (.call i op answer :: w.log) i = advance (surePhase request w.log i) op answer :=
  phase_own

theorem surePhase_other (other : j ≠ i) :
    surePhase request (.call i op answer :: w.log) j = surePhase request w.log j := phase_other other

/-- A step that neither writes nor changes the cache, and leaves all phases as they were. -/
theorem Stage.unmoved (stage : Stage request loaded w) (caches : w'.redis.caches loaded = w.redis.caches loaded)
    (log : writes w'.log = writes w.log) (phases : surePhase request w'.log = surePhase request w.log) :
    Stage request loaded w' := by
  cases stage with
  | unread uncached unwritten fresh => exact .unread (caches.trans uncached) (log.trans unwritten) (by rwa [phases])
  | missed i uncached unwritten own others =>
    exact .missed i (caches.trans uncached) (log.trans unwritten) (by rwa [phases]) (by rwa [phases])
  | written i response uncached once own others =>
    exact .written i response (caches.trans uncached) (log.trans once) (by rwa [phases]) (by rwa [phases])
  | stored result cached once recalled each =>
    exact .stored result (caches.trans cached) (log.trans once) recalled (by rwa [phases])

theorem Stage.read {k : String} (stage : Stage request loaded w) (keyed : request.idemKey = some loaded)
    (admitted : admits True request (surePhase request w.log i) (.redis (.getJson k)))
    (apart : ∀ j, ¬ (surePhase request w.log j).Open) :
    Stage request loaded ⟨w.redis, .call i (.redis (.getJson k)) (w.redis.caches k) :: w.log⟩ := by
  obtain ⟨_, same⟩ := admitted
  obtain rfl := Option.some.inj (same.symm.trans keyed)
  cases stage with
  | unread uncached unwritten fresh =>
    refine .missed i uncached unwritten ?_ fun j other => ?_
    · rw [surePhase_own, uncached]
      rfl
    · rw [surePhase_other other]
      exact fresh j
  | missed reader uncached unwritten own others => exact (apart reader (by rw [own]; trivial)).elim
  | written writer response uncached once own others => exact (apart writer (by rw [own]; trivial)).elim
  | stored result cached once recalled each =>
    refine .stored result cached once recalled fun j => ?_
    rcases eq_or_ne j i with rfl | other
    · right
      left
      rw [surePhase_own]
      simp [advance, cached, Option.filter, result.cached_truthy]
    · rw [surePhase_other other]
      exact each j

theorem Stage.store {k : String} {value : Json} {ex : Nat} (stage : Stage request loaded w)
    (keyed : request.idemKey = some loaded)
    (admitted : admits True request (surePhase request w.log i) (.redis (.setJson k value ex))) :
    Stage request loaded ⟨(w.redis.exec i (.setJson k value ex)).2, .call i (.redis (.setJson k value ex)) () :: w.log⟩ := by
  obtain ⟨same, response, result, at_phase, accepted, rfl⟩ := admitted
  obtain rfl := Option.some.inj (same.symm.trans keyed)
  cases stage with
  | unread uncached unwritten fresh => simp [fresh i] at at_phase
  | missed reader uncached unwritten own others =>
    rcases eq_or_ne i reader with rfl | other
    · simp [own] at at_phase
    · simp [others i other] at at_phase
  | written writer response' uncached once own others =>
    rcases eq_or_ne i writer with rfl | other
    · refine .stored result (Function.update_self ..) once (Request.ofCached_cached accepted) fun j => ?_
      rcases eq_or_ne j i with rfl | other
      · right
        right
        rw [surePhase_own, at_phase]
        exact ⟨response, rfl, accepted⟩
      · rw [surePhase_other other]
        exact Or.inl (others j other)
    · simp [others i other] at at_phase
  | stored result' cached once recalled each =>
    rcases each i with fresh | found | ⟨response', stored, _⟩
    · simp [fresh] at at_phase
    · simp [found] at at_phase
    · simp [stored] at at_phase

theorem Stage.port {call : PortCall} {answer : Except Exc Json} (stage : Stage request loaded w)
    (keyed : request.idemKey = some loaded) (sure : Sure env request loaded)
    (admitted : admits True request (surePhase request w.log i) (.outside (.port call)))
    (allowed : env.allows w i (.port call) answer) :
    Stage request loaded ⟨w.redis, .call i (.outside (.port call)) answer :: w.log⟩ := by
  by_cases writing : call.writes = true
  · simp only [admits, writing, if_true] at admitted
    have missed := mayWrite_missed keyed admitted.1
    obtain ⟨response, result, rfl, _⟩ := sure.succeeds w i call answer allowed writing
    cases stage with
    | unread uncached unwritten fresh => simp [fresh i] at missed
    | missed reader uncached unwritten own others =>
      rcases eq_or_ne i reader with rfl | other
      · refine .written i response uncached ?_ ?_ fun j other => ?_
        · have counted : isWrite (Entry.call i (.outside (.port call)) (.ok response)) = true := writing
          rw [writes, List.countP_cons_of_pos counted]
          exact congrArg Nat.succ unwritten
        · rw [surePhase_own]
          simp [advance, writing]
        · rw [surePhase_other other]
          exact others j other
      · simp [others i other] at missed
    | written writer response' uncached once own others =>
      rcases eq_or_ne i writer with rfl | other
      · simp [own] at missed
      · simp [others i other] at missed
    | stored result' cached once recalled each =>
      rcases each i with fresh | found | ⟨response', stored, _⟩
      · simp [fresh] at missed
      · simp [found] at missed
      · simp [stored] at missed
  · have reading : call.writes = false := by simpa using writing
    apply stage.unmoved
    · rfl
    · have uncounted : ¬ isWrite (Entry.call i (.outside (.port call)) answer) = true := writing
      exact List.countP_cons_of_neg uncounted
    · funext j
      rcases eq_or_ne j i with rfl | other
      · rw [surePhase_own]
        cases answer <;> simp [advance, reading]
      · exact surePhase_other other

theorem Stage.served (stage : Stage request loaded w) (keyed : request.idemKey = some loaded)
    (sure : Sure env request loaded) (admitted : admits True request (surePhase request w.log i) op)
    (apart : ∀ k, op = .redis (.getJson k) → ∀ j, ¬ (surePhase request w.log j).Open)
    (served : Served env i w op answer w') : Stage request loaded w' := by
  cases served with
  | redis command =>
    cases command with
    | getJson k => exact stage.read keyed admitted (apart k rfl)
    | setJson k value ex => exact stage.store keyed admitted
    | _ => exact admitted.elim
  | @outside call answer allowed =>
    cases call with
    | port call => exact stage.port keyed sure admitted allowed
    | _ => exact admitted.elim

theorem Stage.drifted (stage : Stage request loaded w) (sure : Sure env request loaded) (drifted : Drifted env w w') :
    Stage request loaded w' := by
  cases drifted with
  | @expire key present allowed =>
    have other : loaded ≠ key := by
      rintro rfl
      exact sure.lasts w allowed
    exact stage.unmoved (Function.update_of_ne other ..) (List.countP_cons_of_neg (by simp [isWrite])) rfl
  | invoice allowed => exact stage.unmoved rfl (List.countP_cons_of_neg (by simp [isWrite])) rfl

/-- A result that a call was told is the one in the cache. -/
theorem Stage.told (stage : Stage request loaded w) (keyed : request.idemKey = some loaded)
    (told : Told request result (surePhase request w.log i)) :
    w.redis.caches loaded = some result.cached ∧ request.ofCached result.cached = .ok result := by
  have silent {p : Phase} (told : Told request result p) : p ≠ .fresh ∧ p ≠ .missed ∧ ∀ response, p ≠ .written response := by
    rcases told with ⟨cached, rfl, _⟩ | ⟨response, ⟨_, unkeyed⟩ | rfl, _⟩
    · simp
    · rw [keyed] at unkeyed
      cases unkeyed
    · simp
  obtain ⟨unfresh, unmissed, unwritten⟩ := silent told
  cases stage with
  | unread _ _ fresh => exact (unfresh (fresh i)).elim
  | missed reader _ _ own others =>
    rcases eq_or_ne i reader with rfl | other
    · exact (unmissed own).elim
    · exact (unfresh (others i other)).elim
  | written writer response _ _ own others =>
    rcases eq_or_ne i writer with rfl | other
    · exact (unwritten response own).elim
    · exact (unfresh (others i other)).elim
  | stored kept cached _ recalled each =>
    have same : kept = result := by
      rcases each i with fresh | found | ⟨response, stored, accepted⟩
      · exact (unfresh fresh).elim
      · rw [found] at told
        rcases told with ⟨cached', same, read⟩ | ⟨response, ⟨absurd, _⟩ | absurd, _⟩
        · cases same
          rw [recalled] at read
          exact Except.ok.inj read
        · cases absurd
        · cases absurd
      · rw [stored] at told
        rcases told with ⟨cached', absurd, _⟩ | ⟨response', ⟨absurd, _⟩ | same, accepted'⟩
        · cases absurd
        · cases absurd
        · cases same
          rw [accepted] at accepted'
          exact Except.ok.inj accepted'
    subst same
    exact ⟨cached, recalled⟩

/-- Calls of one request, each with its own worker. -/
abbrev repeating (request : Request) (ttlSeconds : Nat) (redis : Redis ι) : ServiceConfig ι (Except Exc Result) :=
  running (fun _ => request) ttlSeconds redis

variable {ttlSeconds : Nat} {redis : Redis ι} {c : ServiceConfig ι (Except Exc Result)}

theorem cached_initial (uncached : redis.caches loaded = none) : Cached request loaded (⟨redis, []⟩ : World ι) := by
  constructor
  case readable => simp [uncached]
  case stored => rintro ⟨j, value, ex, member⟩; cases member
  case late => exact fun _ late => late.elim
  case wrote => rintro i ⟨write, reply, member, _⟩; cases member

/-- Every reached state is accounted for, whatever the calls' order. -/
theorem reached_cached {guard : ServiceConfig ι (Except Exc Result) → Option ι → Prop}
    (keyed : request.idemKey = some loaded) (sure : Sure env request loaded) (uncached : redis.caches loaded = none)
    (run : Run (system env) guard (repeating request ttlSeconds redis) c) :
    Cached request loaded c.shared ∧ Conforming (fun _ => protocol True request)
      (fun w => surePhase request w.log) (fun _ => Answered True request) c := by
  apply Conforming.run (tracks env _ _) ?_ ?_ run (cached_initial uncached)
  · exact fun _ => execute_meets request
  · intro c i op resume answer w cached _ _ _ admitted served
    exact ⟨cached.expected keyed sure admitted served, cached.served keyed sure admitted served⟩
  · intro c w cached _ drifted
    exact cached.drifted sure drifted

theorem reached_stage (keyed : request.idemKey = some loaded) (sure : Sure env request loaded)
    (uncached : redis.caches loaded = none)
    (run : Run (system env) (Apart request) (repeating request ttlSeconds redis) c) : Stage request loaded c.shared := by
  have reached : (Cached request loaded c.shared ∧ Stage request loaded c.shared) ∧
      Conforming (fun _ => protocol True request) (fun w => surePhase request w.log) (fun _ => Answered True request) c := by
    apply Conforming.run (I := fun w => Cached request loaded w ∧ Stage request loaded w) (tracks env _ _) ?_ ?_ run
      ⟨cached_initial uncached, .unread uncached rfl fun _ => rfl⟩
    · exact fun _ => execute_meets request
    · rintro c i op resume answer w ⟨cached, stage⟩ _ apart pending admitted served
      refine ⟨cached.expected keyed sure admitted served, cached.served keyed sure admitted served,
        stage.served keyed sure admitted ?_ served⟩
      rintro k rfl
      simp only [Apart, pending] at apart
      exact apart
    · rintro c w ⟨cached, stage⟩ _ drifted
      exact ⟨cached.drifted sure drifted, stage.drifted sure drifted⟩
  exact reached.1.2

/-- Calls of one request with a key: a late reader never writes, and calls that
keep apart write once and all return one result. -/
theorem written_once (keyed : request.idemKey = some loaded) (sure : Sure env request loaded)
    (uncached : redis.caches loaded = none) :
    (∀ c, Reaches (system env) (repeating request ttlSeconds redis) c → ∀ i, Late loaded i c.shared.log →
      ¬ Wrote i c.shared.log) ∧
    ∀ c, Run (system env) (Apart request) (repeating request ttlSeconds redis) c → writes c.shared.log ≤ 1 ∧
      ∀ i j first second, c.pool i = .done first → c.pool j = .done second →
        ∃ result, first = .ok result ∧ second = .ok result := by
  refine ⟨fun c run i late wrote => ?_, fun c run => ?_⟩
  · obtain ⟨cached, _⟩ := reached_cached keyed sure uncached run
    obtain ⟨value, found⟩ := cached.late i late
    obtain ⟨response, written⟩ := cached.wrote i wrote
    rw [found] at written
    cases written
  · have stage := reached_stage keyed sure uncached run
    obtain ⟨_, conforming⟩ := reached_cached keyed sure uncached run
    refine ⟨stage.writes_le, fun i j first second ended ended' => ?_⟩
    obtain ⟨answered, told⟩ : Answered True request first (surePhase request c.shared.log i) := conforming.finished ended
    obtain ⟨answered', told'⟩ : Answered True request second (surePhase request c.shared.log j) := conforming.finished ended'
    obtain ⟨result, rfl⟩ := answered trivial
    obtain ⟨result', rfl⟩ := answered' trivial
    obtain ⟨cached, recalled⟩ := stage.told keyed (told result rfl)
    obtain ⟨cached', recalled'⟩ := stage.told keyed (told' result' rfl)
    rw [Option.some.inj (cached.symm.trans cached'), recalled'] at recalled
    cases recalled
    exact ⟨result, rfl, rfl⟩

/-- A provider whose calls all succeed, over a store that keeps the entry. -/
def succeeding (ι : Type) (request : Request) (loaded : String) : Environment ι where
  allows _ _ call answer := match call with
    | .port call =>
      if call.writes then ∃ response result, answer = .ok response ∧ request.accept response = .ok result else Stands answer
    | _ => True
  expires _ key := key ≠ loaded
  changes _ _ _ := True

omit [DecidableEq ι] in
theorem succeeding_sure : Sure (succeeding ι request loaded) request loaded where
  lasts _ expires := expires rfl
  succeeds _ _ write answer allowed writing := by simpa only [succeeding, writing, if_true] using allowed
  stands _ _ read answer allowed reading := by
    simpa only [succeeding, reading, Bool.false_eq_true, if_false] using allowed

end Once

section Overlap
local instance : Library := .sample

def drafting : Request := .createInvoice "acme" ⟨"contact", [], "2024-01-31", "EUR", none⟩ "k"

def invoiceBody (invoiceId : String) : Json :=
  .obj [("Invoices", .arr [.obj [("InvoiceID", .str invoiceId), ("Status", .str "DRAFT"), ("Type", .str "ACCPAY")]])]

def invoiced (invoiceId : String) : (call : Outside) → call.Answer
  | .port _ => .ok (invoiceBody invoiceId)
  | call => call.silence

/-- Two calls, the second of them on its own after the first or during it. -/
def twoDrafts : ServiceConfig Bool (Except Exc Result) := repeating drafting 60 .empty

def inTurn : List (Move Bool) :=
  [.redis false, .outside false (invoiced "i1"), .redis false, .redis true, .outside true (invoiced "i1")]

def overlapping : List (Move Bool) :=
  [.redis false, .redis true, .outside false (invoiced "i1"), .outside true (invoiced "i2"), .redis false, .redis true]

theorem drafted_once : ¬ Wrote true (inTurn.foldl play twoDrafts).shared.log ∧
    writes (inTurn.foldl play twoDrafts).shared.log ≤ 1 ∧
    ∃ result, (inTurn.foldl play twoDrafts).pool false = .done (.ok result) ∧
      (inTurn.foldl play twoDrafts).pool true = .done (.ok result) := by
  have keyed : drafting.idemKey = some "idempotency:create_xero_invoice:k" := rfl
  have sure : Sure (succeeding Bool drafting "idempotency:create_xero_invoice:k") drafting
      "idempotency:create_xero_invoice:k" := succeeding_sure
  have uncached : (Redis.empty : Redis Bool).caches "idempotency:create_xero_invoice:k" = none := rfl
  have run : Run (system (succeeding Bool drafting "idempotency:create_xero_invoice:k")) (Apart drafting) twoDrafts
      (inTurn.foldl play twoDrafts) := by
    refine plays_run ⟨fun _ => id, ⟨trivial, _, _, rfl, rfl⟩, trivial, ?_, ⟨trivial, _, _, rfl, rfl, rfl⟩, trivial⟩
    intro j
    cases j <;> exact id
  have late : Late "idempotency:create_xero_invoice:k" true (inTurn.foldl play twoDrafts).shared.log :=
    Or.inl ⟨rfl, rfl, _, _, _, List.mem_cons_self⟩
  obtain ⟨quiet, once⟩ := written_once keyed sure uncached
  obtain ⟨bounded, alike⟩ := once _ run
  obtain ⟨result, first, second⟩ := alike false true _ _ rfl rfl
  exact ⟨quiet _ run.reaches true late, bounded, result, congrArg Prog.done first, congrArg Prog.done second⟩

/-- Both calls find nothing cached, and both create an invoice. -/
theorem drafted_twice : Sure (succeeding Bool drafting "idempotency:create_xero_invoice:k") drafting
      "idempotency:create_xero_invoice:k" ∧ drafting.idemKey = some "idempotency:create_xero_invoice:k" ∧
    ∃ c, Reaches (system (succeeding Bool drafting "idempotency:create_xero_invoice:k")) twoDrafts c ∧
      writes c.shared.log = 2 ∧ ∃ first second, c.pool false = .done (.ok (.invoice ⟨.str "i1", first⟩)) ∧
        c.pool true = .done (.ok (.invoice ⟨.str "i2", second⟩)) := by
  refine ⟨succeeding_sure, rfl, overlapping.foldl play twoDrafts, ?_, rfl, _, _, rfl, rfl⟩
  have answered (invoiceId : String) : ∃ response result,
      (Except.ok (invoiceBody invoiceId) : Except Exc Json) = .ok response ∧ drafting.accept response = .ok result :=
    ⟨_, _, rfl, rfl⟩
  exact plays_run ⟨trivial, trivial, ⟨trivial, answered "i1"⟩, ⟨trivial, answered "i2"⟩, trivial, trivial, trivial⟩

end Overlap
end OpenClaw.Idempotency
