import OpenClawService.Replays.Routes
import OpenClawService.Storage.Sources

/-! Replies under an idempotency key are replays of one another. Whatever else the service
does in between, a success is answered from a value that was in the entry at the
beginning, or that one request has put there and answered itself. -/
namespace OpenClaw.Api
open Interleaving

section Doors
variable [Library] [FastApi] {settings : AppSettings} {inbound : Inbound}

/-- What a request with an entry answers: a success goes back to a value, and what it has
written it answers. -/
def Accounted (route : Route) (result : Except Exc Response) (memory : Recall) : Prop :=
  ∀ operation, route.operation = some operation → route.entry ≠ none → ∃ response, result = .ok response ∧
    (response.statusCode < 400 → ∃ value, memory.value = some value ∧ replay operation value = .ok response.toReply) ∧
    ∀ value reply, memory = .kept value → replay operation value = .ok reply → response.toReply = reply

omit [Library] [FastApi] in
theorem refused_status (requestId : String) (exc : Exc) : 400 ≤ (finish requestId (.error exc)).statusCode := by
  cases exc <;> simp [finish, envelope]

omit [Library] [FastApi] in
/-- The middleware adds nothing but the id. -/
theorem Recollected.accounted {route : Route} {result : Except Exc Reply} {memory : Recall} {operation : String}
    (recollected : Recollected (replay operation) result memory) (own : route.operation = some operation) (requestId : String) :
    Accounted route (.ok (finish requestId result)) memory := by
  intro other same _
  obtain rfl := Option.some.inj (own.symm.trans same)
  refine ⟨_, rfl, fun success => ?_, fun value reply kept replayed => ?_⟩
  · cases result with
    | error exc => exact absurd success (by simpa using refused_status requestId exc)
    | ok reply => exact recollected.backed reply rfl
  · rw [recollected.settled value kept, replayed]
    rfl

omit [Library] [FastApi] in
theorem refused_accounted {route : Route} {reply : Reply} (refused : 400 ≤ reply.statusCode) (requestId : String) :
    Accounted route (.ok (finish requestId (.ok reply))) .fresh := by
  intro operation _ _
  refine ⟨_, rfl, fun success => absurd refused (Nat.not_le.mpr success), ?_⟩
  -- It has written nothing.
  intro value answered kept
  cases kept

omit [Library] in
theorem admitted_refused {reply : Reply} (refused : admitted settings inbound = .error reply) : 400 ≤ reply.statusCode := by
  unfold admitted at refused
  split at refused
  · cases refused
    simp [httpException]
  · split at refused
    · cases refused
      simp [httpException]
    · cases refused

/-- A request with an entry. -/
theorem keyed_accounted (entered : inbound.route.entry = some k) (requestId : String) : Meets (recollection inbound.route)
    (do return finish requestId (← Async.outcome (answer settings inbound))) .fresh (Accounted inbound.route) := by
  obtain ⟨operation, _, own, _⟩ := entry_operation entered
  rw [Meets.bind_iff, Async.outcome_meets]
  unfold answer
  cases checked : admitted settings inbound with
  | error reply => exact refused_accounted (admitted_refused checked) requestId
  | ok route =>
    obtain ⟨rfl, _⟩ := admitted_ok checked
    apply Meets.mono (handle_recollects entered own)
    intro result memory recollected
    exact recollected.accounted own requestId

theorem permits_uncached {p : Phase} {op : Op} (unkeyed : inbound.route.entry = none)
    (permitted : permits settings (fun _ => True) inbound p op) : Uncached op := by
  rcases permitted with ⟨sent, rfl, _⟩ | ⟨_, allowed⟩
  · trivial
  · exact admits_uncached unkeyed allowed

theorem respond_accounted (inbound : Inbound) :
    Meets (recollection inbound.route) (respond settings inbound) .fresh (Accounted inbound.route) := by
  cases entered : inbound.route.entry with
  | none =>
    have unmoved (p : Phase) (op : Op) (answer : op.Answer) (permitted : permits settings (fun _ => True) inbound p op) :
        Recall.fresh.after op answer = .fresh := Recall.after_uncached (permits_uncached entered permitted) answer
    have started : Conforms (recollection inbound.route) (respond settings inbound).run .fresh (fun _ memory => memory = .fresh) :=
      Conforms.still (fun _ _ _ => Or.inl entered) (fun _ _ _ _ => anything_expected _ _) unmoved (respond_meets anything_closed)
    exact started.mono fun _ _ _ _ _ keyed => (keyed entered).elim
  | some k =>
    unfold respond
    cases inbound.requestId.bind orNone with
    | some given => exact keyed_accounted entered given
    | none => exact ⟨Or.inr trivial, fun requestId _ => keyed_accounted entered requestId⟩

end Doors

section Record
variable {ι : Type} [DecidableEq ι] {inbounds : ι → Inbound} {redis : Redis ι} {w : World ι} {i : ι}

/-- How far each request has got with its entry. -/
abbrev recalls (inbounds : ι → Inbound) : List (Entry ι) → ι → Recall :=
  view (fun i => recollection (inbounds i).route) fun _ => .fresh

/-- The entry held the value at the beginning, or a request of its operation has put it there. -/
def Traced (inbounds : ι → Inbound) (redis : Redis ι) (log : List (Entry ι)) (k : String) (value : Json) : Prop :=
  redis.caches k = some value ∨
    ∃ j ttl, (inbounds j).route.entry = some k ∧ .call j (.redis (.setJson k value ttl)) () ∈ log

omit [DecidableEq ι] in
theorem Traced.later {log : List (Entry ι)} (traced : Traced inbounds redis log k value) (entry : Entry ι) :
    Traced inbounds redis (entry :: log) k value := by
  rcases traced with initial | ⟨j, ttl, entered, listed⟩
  · exact Or.inl initial
  · exact Or.inr ⟨j, ttl, entered, List.mem_cons_of_mem _ listed⟩

/-- Nothing but its entry has been asked for, and nothing else will be. -/
def Recall.Settled (route : Route) (memory : Recall) : Prop := memory = .fresh ∨ route.verifies = false ∧ ∃ value, memory = .found value

/-- Where the entries and the recalls get their values, and what the replays leave alone. -/
structure Recorded (inbounds : ι → Inbound) (redis : Redis ι) (w : World ι) : Prop where
  entries (k : String) (value : Json) : w.redis.caches k = some value → Traced inbounds redis w.log k value
  found (i : ι) (k : String) (value : Json) : (inbounds i).route.entry = some k → recalls inbounds w.log i = .found value →
    Traced inbounds redis w.log k value
  kept (i : ι) (k : String) (value : Json) : (inbounds i).route.entry = some k → recalls inbounds w.log i = .kept value →
    ∃ ttl, .call i (.redis (.setJson k value ttl)) () ∈ w.log
  stored (i : ι) (k : String) (value : Json) (ttl : Nat) : .call i (.redis (.setJson k value ttl)) () ∈ w.log →
    (inbounds i).route.entry = some k ∧ recalls inbounds w.log i = .kept value
  quiet (i : ι) : (inbounds i).route.entry ≠ none → (recalls inbounds w.log i).Settled (inbounds i).route →
    ∀ sent answer, .call i (.outside sent) answer ∈ w.log → Local sent

/-- Before its first lookup a request is settled like after it. -/
theorem Recall.Settled.before {route : Route} {memory : Recall} {op : Op} {answer : op.Answer}
    (settled : (memory.after op answer).Settled route) : memory.Settled route := by
  rcases memory.after_cases op answer with stays | ⟨_, _, _, _, kept⟩ | ⟨fresh, _⟩
  · rwa [stays] at settled
  · rw [kept] at settled
    rcases settled with same | ⟨_, _, same⟩ <;> cases same
  · exact Or.inl fresh

theorem Recall.Settled.asks {route : Route} {memory : Recall} {sent : Outside} (settled : memory.Settled route)
    (asked : Asks route memory (.outside sent)) : Local sent := by
  rcases settled with rfl | ⟨final, value, rfl⟩
  · exact asked
  · exact absurd (asked.symm.trans final) (by decide)

namespace Recorded

theorem start : Recorded inbounds redis ⟨redis, []⟩ where
  entries _ _ := Or.inl
  found i k value _ found := by cases found
  kept i k value _ kept := by cases kept
  stored i k value ttl listed := by cases listed
  quiet i _ _ sent answer listed := by cases listed

section Await
variable {op : Op} {answer : op.Answer} (recorded : Recorded inbounds redis w)
include recorded

theorem found_after {k : String} {value : Json} (entered : (inbounds i).route.entry = some k)
    (read : ∀ k' value, op = .redis (.getJson k') → HEq answer (some value) → k' = k ∧ w.redis.caches k = some value)
    (same : (recalls inbounds w.log i).after op answer = .found value) : Traced inbounds redis w.log k value := by
  rcases (recalls inbounds w.log i).after_cases op answer with
    stays | ⟨_, _, _, _, kept⟩ | ⟨_, k', cached, looked, delivered, missed | ⟨_, rfl, found⟩⟩
  · exact recorded.found i k value entered (stays.symm.trans same)
  · cases kept.symm.trans same
  · cases missed.symm.trans same
  · cases found.symm.trans same
    exact recorded.entries k value (read k' value looked delivered).2

theorem kept_after {k : String} {value : Json} (entered : (inbounds i).route.entry = some k)
    (wrote : ∀ k' value ttl, op = .redis (.setJson k' value ttl) → k' = k)
    (same : (recalls inbounds w.log i).after op answer = .kept value) :
    ∃ ttl, .call i (.redis (.setJson k value ttl)) () ∈ (.call i op answer :: w.log : List (Entry ι)) := by
  rcases (recalls inbounds w.log i).after_cases op answer with
    stays | ⟨k', _, ttl, rfl, kept⟩ | ⟨_, _, _, _, _, missed | ⟨_, _, found⟩⟩
  · obtain ⟨ttl, listed⟩ := recorded.kept i k value entered (stays.symm.trans same)
    exact ⟨ttl, List.mem_cons_of_mem _ listed⟩
  · cases kept.symm.trans same
    obtain rfl := wrote _ _ _ rfl
    exact ⟨ttl, List.mem_cons_self⟩
  · cases missed.symm.trans same
  · cases found.symm.trans same

end Await

/-- What one await of a request adds. -/
theorem awaited (recorded : Recorded inbounds redis w) {op : Op} {answer : op.Answer} {after : Redis ι}
    (asked : (inbounds i).route.entry = none ∨ Asks (inbounds i).route (recalls inbounds w.log i) op)
    (looked : ∀ k, op = .redis (.getJson k) → (inbounds i).route.entry = some k)
    (wrote : ∀ k value ttl, op = .redis (.setJson k value ttl) → (inbounds i).route.entry = some k)
    (cached : ∀ k value, after.caches k = some value → w.redis.caches k = some value ∨ ∃ ttl, op = .redis (.setJson k value ttl))
    (read : ∀ k value, op = .redis (.getJson k) → HEq answer (some value) → w.redis.caches k = some value) :
    Recorded inbounds redis ⟨after, .call i op answer :: w.log⟩ := by
  constructor
  case entries =>
    intro k value found
    rcases cached k value found with before | ⟨ttl, rfl⟩
    · exact (recorded.entries k value before).later _
    · exact Or.inr ⟨i, ttl, wrote k value ttl rfl, List.mem_cons_self⟩
  case found =>
    intro j k value entered same
    rcases eq_or_ne j i with rfl | other
    · rw [recalls, view_own] at same
      refine (recorded.found_after entered (fun k' value asks delivered => ?_) same).later _
      obtain rfl := Option.some.inj ((looked k' asks).symm.trans entered)
      exact ⟨rfl, read k' value asks delivered⟩
    · rw [recalls, view_other _ _ _ other] at same
      exact (recorded.found j k value entered same).later _
  case kept =>
    intro j k value entered same
    rcases eq_or_ne j i with rfl | other
    · rw [recalls, view_own] at same
      exact recorded.kept_after entered (fun k' value ttl writes => Option.some.inj ((wrote k' value ttl writes).symm.trans entered)) same
    · rw [recalls, view_other _ _ _ other] at same
      obtain ⟨ttl, listed⟩ := recorded.kept j k value entered same
      exact ⟨ttl, List.mem_cons_of_mem _ listed⟩
  case stored =>
    intro j k value ttl listed
    rcases eq_or_ne j i with rfl | other
    · rw [recalls, view_own]
      rcases List.mem_cons.mp listed with same | listed
      · cases same
        exact ⟨wrote k value ttl rfl, Recall.after_write ..⟩
      · -- Whoever has written its entry awaits nothing more.
        obtain ⟨entered, same⟩ := recorded.stored j k value ttl listed
        rcases asked with unkeyed | asks
        · cases unkeyed.symm.trans entered
        · rw [same] at asks
          cases asks
    · rw [recalls, view_other _ _ _ other]
      exact recorded.stored j k value ttl ((listed_other other).mp listed)
  case quiet =>
    intro j entered settled sent reply listed
    rcases eq_or_ne j i with rfl | other
    · rw [recalls, view_own] at settled
      rcases List.mem_cons.mp listed with same | listed
      · cases same
        exact settled.before.asks (asked.resolve_left entered)
      · exact recorded.quiet j entered settled.before sent reply listed
    · rw [recalls, view_other _ _ _ other] at settled
      exact recorded.quiet j entered settled sent reply ((listed_other other).mp listed)

end Recorded

end Record

section Runs
variable [Library] [FastApi] {ι : Type} [DecidableEq ι] {settings : AppSettings} {inbounds : ι → Inbound} {redis : Redis ι}
  {env : Environment ι} {w w' : World ι} {i : ι} {c : ServiceConfig ι (Except Exc Response)}

omit [DecidableEq ι] in
theorem permitted_entry {p : Phase} {inbound : Inbound} {command : Command}
    (permitted : permits settings (fun _ => True) inbound p (.redis command)) :
    (∀ k, command = .getJson k → inbound.route.entry = some k) ∧
      ∀ k value ttl, command = .setJson k value ttl → inbound.route.entry = some k := by
  rcases permitted with ⟨_, same, _⟩ | ⟨_, allowed⟩
  · cases same
  · constructor
    · rintro k rfl
      exact allowed
    · rintro k value ttl rfl
      exact allowed.1

namespace Recorded

theorem served (recorded : Recorded inbounds redis w) {p : Phase} {op : Op} {answer : op.Answer}
    (permitted : permits settings (fun _ => True) (inbounds i) p op)
    (asked : (inbounds i).route.entry = none ∨ Asks (inbounds i).route (recalls inbounds w.log i) op)
    (served : Served env i w op answer w') : Recorded inbounds redis w' := by
  cases served with
  | redis command =>
    obtain ⟨looked, wrote⟩ := permitted_entry permitted
    refine recorded.awaited asked (fun k same => looked k (Op.redis.inj same))
      (fun k value ttl same => wrote k value ttl (Op.redis.inj same)) ?_ ?_
    · intro k value found
      rcases w.redis.cache_source i command k with same | ⟨_, ttl, rfl, stored⟩
      · exact Or.inl (same.symm.trans found)
      · cases stored.symm.trans found
        exact Or.inr ⟨ttl, rfl⟩
    · rintro k value same delivered
      obtain rfl := Op.redis.inj same
      exact eq_of_heq delivered
  | outside allowed => exact recorded.awaited asked nofun nofun (fun _ _ => Or.inl) nofun

omit [Library] [FastApi] in
theorem drifted (recorded : Recorded inbounds redis w) (drifted : Drifted env w w') : Recorded inbounds redis w' := by
  have added {entry : Entry ι} {after : Redis ι} (uncalled : ∀ j op answer, .call j op answer ≠ entry)
      (still : recalls inbounds (entry :: w.log) = recalls inbounds w.log)
      (fewer : ∀ k value, after.caches k = some value → w.redis.caches k = some value) :
      Recorded inbounds redis ⟨after, entry :: w.log⟩ := by
    have before {j : ι} {op : Op} {answer : op.Answer} (listed : .call j op answer ∈ entry :: w.log) : .call j op answer ∈ w.log :=
      (List.mem_cons.mp listed).resolve_left (uncalled j op answer)
    constructor
    case entries => exact fun k value found => (recorded.entries k value (fewer k value found)).later _
    case found =>
      intro j k value entered same
      rw [still] at same
      exact (recorded.found j k value entered same).later _
    case kept =>
      intro j k value entered same
      rw [still] at same
      obtain ⟨ttl, listed⟩ := recorded.kept j k value entered same
      exact ⟨ttl, List.mem_cons_of_mem _ listed⟩
    case stored =>
      intro j k value ttl listed
      rw [still]
      exact recorded.stored j k value ttl (before listed)
    case quiet =>
      intro j entered settled sent reply listed
      rw [still] at settled
      exact recorded.quiet j entered settled sent reply (before listed)
  cases drifted with
  | @expire key present allowed =>
    refine added (by simp) rfl fun k value found => ?_
    rcases eq_or_ne k key with rfl | other
    · simp [Redis.expire, Redis.write] at found
    · exact (Function.update_of_ne other ..).symm.trans found
  | invoice => exact added (by simp) rfl fun _ _ => id

end Recorded

/-- Each request keeps to its conduct, and accounts for its entry. -/
theorem recorded_run (run : Reaches (system env) ⟨⟨redis, []⟩, requests settings inbounds⟩ c) : Recorded inbounds redis c.shared ∧
    Conforming (fun i => (protocol settings (fun _ => True) (inbounds i)).prod (recollection (inbounds i).route))
      (fun w i => (phases settings (fun _ => True) inbounds w.log i, recalls inbounds w.log i))
      (fun i result l => Accounted (inbounds i).route result l.2) c := by
  have tracked := (tracks env (fun i => protocol settings (fun _ => True) (inbounds i)) fun _ => {}).prod
    (tracks env (fun i => recollection (inbounds i).route) fun _ => .fresh)
  refine Conforming.run tracked (I := fun w => Recorded inbounds redis w) ?_ (fun _ _ recorded _ => recorded.drifted) run .start fun i => ?_
  · rintro c i op resume answer w recorded _ _ _ ⟨permitted, asked⟩ served
    exact ⟨⟨anything_expected _ _, trivial⟩, recorded.served permitted asked served⟩
  · refine Conforms.mono ((respond_meets anything_closed).prod (respond_accounted (inbounds i))) ?_
    rintro result l ⟨_, accounted⟩
    exact accounted

/-- A success under a key is the reply to a value that the entry held at the beginning, or that
one request has put there; that request replies the same. Unless the request has put it there
itself or was to create an invoice, it has made no call that leaves the service. -/
theorem replays_agree (run : Reaches (system env) ⟨⟨redis, []⟩, requests settings inbounds⟩ c) (entered : (inbounds i).route.entry = some k)
    (finished : c.pool i = .done (.ok response)) (success : response.statusCode < 400) :
    ∃ operation value, (inbounds i).route.operation = some operation ∧ replay operation value = .ok response.toReply ∧
      (redis.caches k = some value ∨ ∃ j ttl, (inbounds j).route.entry = some k ∧
        .call j (.redis (.setJson k value ttl)) () ∈ c.shared.log ∧ ∀ result, c.pool j = .done result →
          ∃ first, result = .ok first ∧ first.toReply = response.toReply) ∧
      ((inbounds i).route.verifies = false → (∃ ttl, .call i (.redis (.setJson k value ttl)) () ∈ c.shared.log) ∨
        ∀ sent answer, .call i (.outside sent) answer ∈ c.shared.log → Local sent) := by
  obtain ⟨recorded, conforming⟩ := recorded_run run
  obtain ⟨operation, _, own, _⟩ := entry_operation entered
  obtain ⟨_, same, backed, _⟩ := conforming.finished finished operation own (by simp [entered])
  cases same
  obtain ⟨value, known, replayed⟩ := backed success
  have agrees {j : ι} {ttl : Nat} (shared : (inbounds j).route.entry = some k)
      (listed : .call j (.redis (.setJson k value ttl)) () ∈ c.shared.log) (result : Except Exc Response)
      (ended : c.pool j = .done result) : ∃ first, result = .ok first ∧ first.toReply = response.toReply := by
    have alike : (inbounds j).route.operation = some operation := (operation_same shared entered).trans own
    obtain ⟨first, same, _, settled⟩ := conforming.finished ended operation alike (by simp [shared])
    exact ⟨first, same, settled value _ (recorded.stored j k value ttl listed).2 replayed⟩
  have held : recalls inbounds c.shared.log i = .found value ∨ recalls inbounds c.shared.log i = .kept value := Recall.value_cases known
  refine ⟨operation, value, own, replayed, ?_, fun final => ?_⟩
  · have traced : Traced inbounds redis c.shared.log k value := by
      rcases held with found | kept
      · exact recorded.found i k value entered found
      · obtain ⟨ttl, listed⟩ := recorded.kept i k value entered kept
        exact Or.inr ⟨i, ttl, entered, listed⟩
    rcases traced with initial | ⟨j, ttl, shared, listed⟩
    · exact Or.inl initial
    · exact Or.inr ⟨j, ttl, shared, listed, agrees shared listed⟩
  · rcases held with found | kept
    · exact Or.inr (recorded.quiet i (by simp [entered]) (Or.inr ⟨final, value, found⟩))
    · exact Or.inl (recorded.kept i k value entered kept)

end Runs

section Twice
local instance sentBy : Library := .sample
local instance repliedBy : FastApi := .sample

def messaging : TokenSet := { accessToken := "a0", expiresAt := 1000000, refreshToken := some "r0" }

/-- One message under one key, sent twice. -/
def sender (requestId : String) : Inbound :=
  ⟨some requestId, some "Bearer key",
    .sendMessage "ms" { teamId := "team", channelId := "channel", bodyContent := "hello" } (some "k")⟩

def senders : Fin 3 → Inbound
  | 0 => sender "r0"
  | _ => sender "r1"

def sending : ServiceConfig (Fin 3) (Except Exc Response) :=
  ⟨⟨{ Redis.empty with hashes := fun _ => TokenStore.toMapping messaging }, []⟩, requests .sample senders⟩

def posted : (call : Outside) → call.Answer
  | .http _ => .ok ⟨201, "", some (.obj [("id", .str "m1")])⟩
  | call => call.silence

def twice : List (Move (Fin 3)) := [.redis 0, .redis 0, .outside 0 posted, .outside 0 posted, .redis 0, .redis 1]

/-- The second request is answered as the first one was. -/
theorem replays_agree_twice : ∃ second, (twice.foldl play sending).pool 1 = .done (.ok second) ∧ ∃ j value ttl,
    .call j (.redis (.setJson (idempotencyKey opSendMessage "k") value ttl)) () ∈ (twice.foldl play sending).shared.log ∧
      ∀ result, (twice.foldl play sending).pool j = .done result → ∃ first, result = .ok first ∧ first.toReply = second.toReply := by
  have run : Reaches (system (.free _)) sending (twice.foldl play sending) := plays_run (free_legal _ _)
  have entered : (senders 1).route.entry = some (idempotencyKey opSendMessage "k") := rfl
  have finished : ∃ second, (twice.foldl play sending).pool 1 = .done (.ok second) ∧ second.statusCode < 400 := ⟨_, rfl, by decide⟩
  obtain ⟨second, ended, success⟩ := finished
  obtain ⟨_, value, _, _, initial | ⟨j, ttl, _, listed, agrees⟩, _⟩ := replays_agree run entered ended success
  · cases initial
  · exact ⟨second, ended, j, value, ttl, listed, agrees⟩

end Twice
end OpenClaw.Api
