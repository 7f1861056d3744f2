import OpenClawService.Connection.Retry
import OpenClawService.Idempotency.Reads
import OpenClawService.Interleaving.Deletion
import OpenClawService.Isolation.Programs

/-! Connections do not interfere: without the requests on one connection, every other
request takes the same steps, as long as none reads a cached result of that connection. -/
namespace OpenClaw.Isolation
open Interleaving Credentials
open Idempotency (writer writer_set writer_redis Reading)

section Runs
variable [Library] {ι : Type} [DecidableEq ι] {settings : Settings} {jobs : ι → Job} {connectionId : String} {deleted : ι → Bool}

/-- Any number of requests, whose clients watch nothing yet. -/
def serving (settings : Settings) (jobs : ι → Job) (redis : Redis ι) : ServiceConfig ι (Except Exc Response) :=
  ⟨⟨{ redis with watched := fun _ => none }, []⟩, fun i => (respond settings (jobs i)).run⟩

/-- The state was stored for the connection at the start, or has been saved for it. -/
def Issued (connectionId : String) (redis : Redis ι) (log : List (Entry ι)) (state : String) : Prop :=
  redis.strings (OAuthStateStore.key state) = some connectionId ∨
    ∃ i ex, .call i (.redis (.set (OAuthStateStore.key state) connectionId ex)) () ∈ log

/-- The request names the connection, or presents a state that was issued for it. -/
def MadeOn (connectionId : String) (redis : Redis ι) (log : List (Entry ι)) (job : Job) : Prop :=
  target job = some connectionId ∨ ∃ code state, job = .callback code state ∧ Issued connectionId redis log state

/-- The locks of other connections, and the states that were issued for them. -/
def OfOthers (connectionId : String) (redis : Redis ι) (log : List (Entry ι)) (key : String) : Prop :=
  (∃ other, other ≠ connectionId ∧ key = refreshLockKey other) ∨
    ∃ state, ¬ Issued connectionId redis log state ∧ key = OAuthStateStore.key state

/-- What is left of a log without the calls of the deleted requests: the same keys run out,
save some that are missing then. -/
inductive Remains (deleted : ι → Bool) (others : String → Prop) : List (Entry ι) → List (Entry ι) → Prop
  | nil : Remains deleted others [] []
  | kept (here : deleted i = false) : Remains deleted others log rest →
      Remains deleted others (.call i op answer :: log) (.call i op answer :: rest)
  | gone (away : deleted i = true) : Remains deleted others log rest → Remains deleted others (.call i op answer :: log) rest
  | expired : Remains deleted others log rest → Remains deleted others (.expired key :: log) (.expired key :: rest)
  | missing (apart : ¬ others key) : Remains deleted others log rest → Remains deleted others (.expired key :: log) rest
  | invoice : Remains deleted others log rest →
      Remains deleted others (.invoice invoiceId status :: log) (.invoice invoiceId status :: rest)

omit [Library] [DecidableEq ι] in
/-- Nothing is added. -/
theorem Remains.sublist {log rest : List (Entry ι)} (remains : Remains deleted others log rest) : rest.Sublist log := by
  induction remains with
  | nil => exact .slnil
  | kept _ _ ih | expired _ ih | invoice _ ih => exact ih.cons_cons _
  | gone _ _ ih | missing _ _ ih => exact ih.cons _

/-- What the other requests do and leave behind is the same in both runs. -/
structure Undisturbed (connectionId : String) (redis : Redis ι) (deleted : ι → Bool)
    (c without : ServiceConfig ι (Except Exc Response)) : Prop where
  responses : deleted i = false → without.pool i = c.pool i
  calls : Remains deleted (OfOthers connectionId redis c.shared.log) c.shared.log without.shared.log
  tokens : other ≠ connectionId →
    without.shared.redis.hashes (TokenStore.key other) = c.shared.redis.hashes (TokenStore.key other)
  locks : other ≠ connectionId →
    without.shared.redis.strings (refreshLockKey other) = c.shared.redis.strings (refreshLockKey other)

/-- Whoever reads a cached result that a deleted request has stored is deleted too. -/
abbrev Parting (deleted : ι → Bool) : ServiceConfig ι (Except Exc Response) → Option ι → Prop :=
  Reading fun writing reader => deleted reader = false → deleted writing = false

/-- The keys that are not of the territory. -/
def beyond (own : Territory) (deleted : ι → Bool) : Part ι where
  strings key := OnLock own False key ∨ OnState own False key
  hashes := OnToken own False
  clients i := deleted i = false

/-- A state is saved for the connection that it belongs to. -/
def Saving (own : Territory) (c : ServiceConfig ι (Except Exc Response)) : Option ι → Prop
  | none => True
  | some i => match c.pool i with
    | .await (.redis (.set key value _)) _ => ∀ state, key = OAuthStateStore.key state → (own.states state ↔ value = own.connectionId)
    | _ => True

section Keys
variable {own : Territory} {command : Command}

omit [Library] [DecidableEq ι]

theorem lock_inj : refreshLockKey first = refreshLockKey second ↔ first = second := by
  simp [refreshLockKey]

theorem token_inj : TokenStore.key first = TokenStore.key second ↔ first = second := by
  simp [TokenStore.key]

theorem lock_state : refreshLockKey connectionId ≠ OAuthStateStore.key state := by
  intro same
  have texts := congrArg String.toList same
  simp [refreshLockKey, OAuthStateStore.key] at texts

/-- Every lock and every state is on one side. -/
theorem strings_apart {key : String} (ours : OnLock own True key ∨ OnState own True key) :
    ¬ (OnLock own False key ∨ OnState own False key) := by
  rintro (⟨theirs, rfl, apart⟩ | ⟨theirs, rfl, apart⟩)
  · rcases ours with ⟨connectionId, same, near⟩ | ⟨state, same, _⟩
    · rw [lock_inj] at same
      subst same
      exact apart.mp (near.mpr trivial)
    · exact lock_state same
  · rcases ours with ⟨connectionId, same, _⟩ | ⟨state, same, near⟩
    · exact lock_state same.symm
    · rw [OAuthStateStore.key_inj] at same
      subst same
      exact apart.mp (near.mpr trivial)

theorem tokens_apart {key : String} (ours : OnToken own True key) : ¬ OnToken own False key := by
  rintro ⟨theirs, rfl, apart⟩
  obtain ⟨connectionId, same, near⟩ := ours
  rw [token_inj] at same
  subst same
  exact apart.mp (near.mpr trivial)

/-- What is saved is on the side of the connection that it is saved for. -/
def Saves (own : Territory) : Command → Prop
  | .set key value _ => ∀ state, key = OAuthStateStore.key state → (own.states state ↔ value = own.connectionId)
  | _ => True

theorem admits_within (admitted : admits own False (.redis command)) (saves : Saves own command) :
    command.Within (beyond own deleted) := by
  cases command with
  | set key value ex =>
    obtain ⟨⟨state, rfl⟩, side⟩ := admitted
    exact Or.inr ⟨state, rfl, (saves state rfl).trans side⟩
  | setNx key value ex => exact Or.inl admitted
  | getJson | setJson | unwatch => trivial
  | _ => exact admitted

theorem admits_beside (admitted : admits own True (.redis command)) (saves : Saves own command) :
    command.Beside (beyond own deleted) := by
  constructor
  case strings =>
    intro k modified
    apply strings_apart
    cases command with
    | set key value ex =>
      cases modified
      obtain ⟨⟨state, rfl⟩, side⟩ := admitted
      exact Or.inr ⟨state, rfl, (saves state rfl).trans side⟩
    | setNx key value ex =>
      cases modified
      exact Or.inl admitted
    | execDel key =>
      cases modified
      exact admitted
    | _ => cases modified
  case hashes =>
    intro k modified
    cases command with
    | hset | delHash =>
      cases modified
      exact tokens_apart admitted
    | _ => cases modified

/-- No lock and no state is an entry. -/
theorem entry_apart {key : String} (keyed : IsEntry key) : ¬ (beyond own deleted : Part ι).strings key := by
  obtain ⟨operation, given, rfl⟩ := keyed
  rintro (⟨connectionId, same, _⟩ | ⟨state, same, _⟩)
  · have texts := congrArg String.toList same
    simp [idempotencyKey, refreshLockKey] at texts
  · have texts := congrArg String.toList same
    simp [idempotencyKey, OAuthStateStore.key] at texts

end Keys

section Steps
variable {own : Territory} {i : ι} {w w' other : World ι} {op : Op} {answer : op.Answer} {env : Environment ι}

/-- Stored states are on the side of their connection, and the others watch their own keys. -/
structure Settled (own : Territory) (deleted : ι → Bool) (w : World ι) : Prop where
  states : w.redis.strings (OAuthStateStore.key state) = some value → (own.states state ↔ value = own.connectionId)
  watching {i : ι} : w.redis.watched i = some (key, seen) → deleted i = false → (beyond own deleted).strings key
  entries {i : ι} : writer loaded w.log = some i → IsEntry loaded

/-- What the requests that are not deleted can see, given who has stored the entries. -/
structure Seen (own : Territory) (deleted : ι → Bool) (w other : World ι) : Prop where
  redis : w.redis.Agree (beyond own deleted) other.redis
  readable : (∀ i : ι, writer loaded w.log = some i → deleted i = false) → other.redis.caches loaded = w.redis.caches loaded
  absent : w.redis.caches loaded = none → other.redis.caches loaded = none
  log : Remains deleted (beyond own deleted).strings w.log other.log

/-- The side of a worker. -/
abbrev side (own : Territory) (deleted : ι → Bool) (i : ι) : Protocol Op Op.Answer Unit := protocol own (deleted i = true)

omit [Library] [DecidableEq ι] in
/-- An await whose command saves a state in its place. -/
theorem saves_of {c : ServiceConfig ι (Except Exc Response)} {resume : command.Reply → Prog Op Op.Answer (Except Exc Response)}
    (saving : Saving own c (some i)) (pending : c.pool i = .await (.redis command) resume) : Saves own command := by
  simp only [Saving, pending] at saving
  cases command <;> exact saving

omit [Library] [DecidableEq ι] in
theorem stores_of {command : Command} (stores : command.modifiesCache = some loaded) : ∃ value ex, command = .setJson loaded value ex := by
  cases command with
  | setJson key value ex =>
    cases stores
    exact ⟨value, ex, rfl⟩
  | _ => cases stores

omit [Library] in
theorem hidden (gone : deleted i = true) (admitted : (side own deleted i).admits () op)
    (saves : ∀ command, op = .redis command → Saves own command) (served : Served env i w op answer w')
    (seen : Seen own deleted w other) : Seen own deleted w' other := by
  have admitted : admits own True op := by
    simpa only [side, protocol_admits, gone] using admitted
  cases served with
  | outside allowed => exact ⟨seen.redis, seen.readable, seen.absent, .gone gone seen.log⟩
  | redis command =>
    refine ⟨seen.redis.beside ?_ (admits_beside admitted (saves command rfl)), fun {loaded} unread => ?_, fun {loaded} missing => ?_,
      .gone gone seen.log⟩
    · simp [beyond, gone]
    · by_cases stores : command.modifiesCache = some loaded
      · obtain ⟨value, ex, rfl⟩ := stores_of stores
        cases gone.symm.trans (unread i writer_set)
      · rw [writer_redis stores] at unread
        rw [w.redis.exec_caches i stores]
        exact seen.readable unread
    · by_cases stores : command.modifiesCache = some loaded
      · obtain ⟨value, ex, rfl⟩ := stores_of stores
        simp [Redis.exec] at missing
      · rw [w.redis.exec_caches i stores] at missing
        exact seen.absent missing

omit [Library] in
theorem shown (kept : deleted i = false) (settled : Settled own deleted w) (admitted : (side own deleted i).admits () op)
    (saves : ∀ command, op = .redis command → Saves own command)
    (reads : ∀ key j, op = .redis (.getJson key) → w.redis.caches key ≠ none → writer key w.log = some j → deleted j = false)
    (served : Served env i w op answer w') (seen : Seen own deleted w other) :
    ∃ next, Served (.free ι) i other op answer next ∧ Seen own deleted w' next := by
  have admitted : admits own False op := by
    simpa only [side, protocol_admits, kept, Bool.false_eq_true] using admitted
  cases served with
  | outside allowed => exact ⟨_, .outside trivial, seen.redis, seen.readable, seen.absent, .kept kept seen.log⟩
  | redis command =>
    have cached (key : String) (reading : command = .getJson key) : other.redis.caches key = w.redis.caches key := by
      subst reading
      by_cases present : w.redis.caches key = none
      · rw [present, seen.absent present]
      · exact seen.readable fun j stored => reads key j rfl present stored
    obtain ⟨same, agree⟩ := seen.redis.exec kept (fun _ _ watched => settled.watching watched kept)
      (admits_within admitted (saves command rfl)) cached
    refine ⟨⟨(other.redis.exec i command).2, .call i (.redis command) (w.redis.exec i command).1 :: other.log⟩, ?_, agree,
      fun {loaded} unread => ?_, fun {loaded} missing => ?_, .kept kept seen.log⟩
    · rw [← same]
      exact .redis command
    · by_cases stores : command.modifiesCache = some loaded
      · obtain ⟨value, ex, rfl⟩ := stores_of stores
        simp only [Redis.exec, Function.update_self]
      · rw [writer_redis stores] at unread
        rw [w.redis.exec_caches i stores, other.redis.exec_caches i stores]
        exact seen.readable unread
    · by_cases stores : command.modifiesCache = some loaded
      · obtain ⟨value, ex, rfl⟩ := stores_of stores
        simp [Redis.exec] at missing
      · rw [w.redis.exec_caches i stores] at missing
        rw [other.redis.exec_caches i stores]
        exact seen.absent missing

omit [Library] [DecidableEq ι] in
/-- A key runs out in both runs. Where the other one does not have it, it is none of the others'. -/
theorem drift_seen (settled : Settled own deleted w) (drifted : Drifted env w w') (seen : Seen own deleted w other) :
    Seen own deleted w' other ∨ ∃ next, Drifted (.free ι) other next ∧ Seen own deleted w' next := by
  cases drifted with
  | invoice allowed => exact Or.inr ⟨_, .invoice trivial, seen.redis, seen.readable, seen.absent, .invoice seen.log⟩
  | @expire key present allowed =>
    have expired (loaded : String) : (w.redis.expire key).caches loaded = if loaded = key then none else w.redis.caches loaded := by
      simp only [Redis.expire, Function.update_apply]
    by_cases held : (other.redis.strings key).isSome ∨ (other.redis.caches key).isSome
    · refine Or.inr ⟨_, .expire held trivial, seen.redis.expire key, fun {loaded} unread => ?_, fun {loaded} missing => ?_,
        .expired seen.log⟩
      · simp only [Redis.expire, Function.update_apply]
        split
        · rfl
        · exact seen.readable unread
      · simp only [Redis.expire, Function.update_apply] at missing ⊢
        split
        · rfl
        · next apart => exact seen.absent (by simpa only [apart, if_false] using missing)
    · simp only [not_or, Bool.not_eq_true, Option.isSome_eq_false_iff, Option.isNone_iff_eq_none] at held
      have outside : ¬ (beyond own deleted).strings key := by
        intro inside
        rw [← (seen.redis.strings inside).1, held.1] at present
        have unread : ¬ ∀ i, writer key w.log = some i → deleted i = false := by
          intro unread
          rw [← seen.readable unread, held.2] at present
          simp at present
        simp only [not_forall] at unread
        obtain ⟨i, stored, _⟩ := unread
        exact entry_apart (settled.entries stored) inside
      refine Or.inl ⟨seen.redis.expire_beside outside, fun {loaded} unread => ?_, fun {loaded} missing => ?_,
        .missing outside seen.log⟩
      · simp only [Redis.expire, Function.update_apply]
        split
        · next same => exact same ▸ held.2
        · exact seen.readable unread
      · rcases eq_or_ne loaded key with rfl | apart
        · exact held.2
        · simp only [Redis.expire, Function.update_of_ne apart] at missing
          exact seen.absent missing

namespace Settled

omit [Library] in
/-- A string that is stored at the key of a state was there, or has been saved. -/
theorem stored {redis : Redis ι} (admitted : admits own mine (.redis command))
    (found : (redis.exec i command).2.strings (OAuthStateStore.key state) = some value) :
    redis.strings (OAuthStateStore.key state) = some value ∨ ∃ ex, command = .set (OAuthStateStore.key state) value ex := by
  by_cases modified : command.modifies = some (OAuthStateStore.key state)
  · cases command with
    | set key text ex =>
      cases modified
      simp only [Redis.exec, Redis.write_strings, Option.some.injEq] at found
      exact Or.inr ⟨ex, by rw [found]⟩
    | setNx key text ex =>
      cases modified
      obtain ⟨connectionId, same, _⟩ := admitted
      exact (lock_state same.symm).elim
    | execDel key =>
      cases modified
      simp only [Redis.exec] at found
      split at found <;> (try split at found) <;> first | exact Or.inl found | simp at found
    | _ => cases modified
  · rw [(redis.exec_strings i modified).1] at found
    exact Or.inl found

omit [Library] in
theorem served (settled : Settled own deleted w) (admitted : (side own deleted i).admits () op)
    (saves : ∀ command, op = .redis command → Saves own command) (served : Served env i w op answer w') :
    Settled own deleted w' := by
  cases served with
  | outside allowed => exact ⟨settled.states, settled.watching, settled.entries⟩
  | redis command =>
    constructor
    case entries =>
      intro loaded j stored
      by_cases stores : command.modifiesCache = some loaded
      · obtain ⟨value, ex, rfl⟩ := stores_of stores
        simp only [side, protocol_admits] at admitted
        exact admitted
      · rw [writer_redis stores] at stored
        exact settled.entries stored
    case states =>
      intro state value found
      rcases stored admitted found with found | ⟨ex, rfl⟩
      · exact settled.states found
      · exact saves _ rfl state rfl
    case watching =>
      intro key seen j watched kept
      rcases eq_or_ne j i with rfl | other
      · have admitted : admits own False (.redis command) := by
          simpa only [side, protocol_admits, kept, Bool.false_eq_true] using admitted
        cases command with
        | watch k =>
          simp only [Redis.exec, Function.update_self, Option.some.injEq, Prod.mk.injEq] at watched
          obtain ⟨rfl, _⟩ := watched
          exact admitted
        | unwatch => simp [Redis.exec] at watched
        | execDel k =>
          simp only [Redis.exec] at watched
          split at watched <;> (try split at watched) <;> simp [Redis.write] at watched
        | _ =>
          rw [w.redis.exec_watched _ rfl] at watched
          exact settled.watching watched kept
      · rw [w.redis.exec_watched_other i other] at watched
        exact settled.watching watched kept

omit [Library] [DecidableEq ι] in
theorem drifted (settled : Settled own deleted w) (drifted : Drifted env w w') : Settled own deleted w' := by
  cases drifted with
  | invoice allowed => exact ⟨settled.states, settled.watching, settled.entries⟩
  | @expire key present allowed =>
    refine ⟨fun {state value} found => ?_, settled.watching, settled.entries⟩
    rcases eq_or_ne (OAuthStateStore.key state) key with rfl | other
    · simp [Redis.expire] at found
    · simp only [Redis.expire, Redis.write_strings_ne _ other] at found
      exact settled.states found

omit [Library] in
/-- What is read of a state is on its side. -/
theorem expected (settled : Settled own deleted w) (served : Served env i w op answer w') :
    (side own deleted i).expects () op answer := by
  cases served with
  | outside allowed => trivial
  | redis command =>
    cases command with
    | get key =>
      rintro ⟨state, rfl, apart⟩ connectionId found
      exact (settled.states found).symm.trans apart
    | _ => trivial

end Settled

end Steps

/-- The territory of the connection in a run. -/
def territory (connectionId : String) (redis : Redis ι) (log : List (Entry ι)) : Territory where
  connectionId := connectionId
  states := Issued connectionId redis log

section Territories
variable {redis : Redis ι} {log : List (Entry ι)}

omit [Library] [DecidableEq ι]

/-- The keys beyond the territory of a connection are those of the others. -/
theorem beyond_iff {key : String} :
    (beyond (territory connectionId redis log) deleted).strings key ↔ OfOthers connectionId redis log key := by
  simp only [beyond, OnLock, OnState, OfOthers, territory, iff_false, and_comm]

/-- Every request is on one side. -/
theorem sided (deletes : ∀ i, deleted i = true ↔ MadeOn connectionId redis log (jobs i)) (i : ι) :
    Sided (territory connectionId redis log) (deleted i = true) (jobs i) := by
  constructor
  case target =>
    intro named targeted
    rw [deletes]
    constructor
    · rintro rfl
      exact Or.inl targeted
    · rintro (same | ⟨code, state, callback, _⟩)
      · exact Option.some.inj (targeted.symm.trans same)
      · rw [callback] at targeted
        cases targeted
  case state =>
    intro code state callback
    rw [deletes]
    constructor
    · exact fun issued => Or.inr ⟨code, state, callback, issued⟩
    · rintro (targeted | ⟨code', state', same, issued⟩)
      · rw [callback] at targeted
        cases targeted
      · rw [callback] at same
        cases same
        exact issued

variable (distinct : ∀ state first second, Issued first redis log state → Issued second redis log state → first = second)
include distinct

/-- An issued state belongs to the connection that it was issued for. -/
theorem issued_iff {state : String} (issued : Issued value redis log state) :
    Issued connectionId redis log state ↔ value = connectionId := by
  constructor
  · exact fun known => distinct state value connectionId issued known
  · rintro rfl
    exact issued

theorem settled_start : Settled (territory connectionId redis log) deleted ⟨{ redis with watched := fun _ => none }, []⟩ :=
  ⟨fun found => issued_iff distinct (Or.inl found), nofun, nofun⟩

end Territories

/-- Every state that is saved in a run is issued in it. -/
theorem saving_run {redis : Redis ι} {c : ServiceConfig ι (Except Exc Response)} {env : Environment ι}
    (distinct : ∀ state first second, Issued first redis c.shared.log state → Issued second redis c.shared.log state → first = second)
    (run : Run (system env) (Parting deleted) (serving settings jobs redis) c) :
    Run (system env) (fun d label => Saving (territory connectionId redis c.shared.log) d label ∧ Parting deleted d label)
      (serving settings jobs redis) c := by
  refine run.guarded (fun d => ∀ entry ∈ d.shared.log, entry ∈ c.shared.log) ?_ fun _ listed => listed
  intro d label e listed parting step
  cases step with
  | drift drifted => cases drifted <;> exact ⟨fun entry member => listed entry (List.mem_cons_of_mem _ member), trivial, parting⟩
  | @serve d i op resume answer w pending served =>
    have before : ∀ entry ∈ d.shared.log, entry ∈ c.shared.log := by
      cases served <;> exact fun entry member => listed entry (List.mem_cons_of_mem _ member)
    refine ⟨before, ?_, parting⟩
    simp only [Saving, pending]
    cases op with
    | outside call => trivial
    | redis command =>
      cases command with
      | set key value ex =>
        rintro state rfl
        cases served with
        | redis => exact issued_iff distinct (Or.inr ⟨i, ex, listed _ List.mem_cons_self⟩)
      | _ => trivial

/-- Without the requests on one connection, all other requests are answered alike, make the same
calls and leave the same tokens and locks, if none reads what a request on that connection has cached. -/
theorem connections_apart {redis : Redis ι} {c : ServiceConfig ι (Except Exc Response)}
    (distinct : ∀ state first second, Issued first redis c.shared.log state → Issued second redis c.shared.log state → first = second)
    (deletes : ∀ i, deleted i = true ↔ MadeOn connectionId redis c.shared.log (jobs i))
    (run : Run (system (.free ι)) (Parting deleted) (serving settings jobs redis) c) :
    ∃ without, Run (system (.free ι)) (Without deleted) (serving settings jobs redis) without ∧
      Undisturbed connectionId redis deleted c without := by
  let own := territory connectionId redis c.shared.log
  have unwinds : Unwinds (α := Except Exc Response) (system (.free ι)) (side own deleted) (fun _ _ => ())
      (fun d label => Saving own d label ∧ Parting deleted d label) deleted (Settled own deleted) (Seen own deleted) := by
    constructor
    case hidden =>
      rintro i d op resume answer w other _ ⟨saving, _⟩ gone pending admitted served seen
      refine hidden gone admitted ?_ served seen
      rintro command rfl
      exact saves_of saving pending
    case shown =>
      rintro i d op resume answer w other settled ⟨saving, parting⟩ kept pending admitted served seen
      refine shown kept settled admitted ?_ ?_ served seen
      · rintro command rfl
        exact saves_of saving pending
      · rintro key j rfl present stored
        exact parting.read pending present stored kept
    case drifts => exact fun settled seen drifted => drift_seen settled drifted seen
  have unit_tracks : Tracks (system (.free ι)) (side own deleted) (fun _ _ => ()) := ⟨fun _ => rfl, fun _ _ => rfl, fun _ => rfl⟩
  have conforming : Conforming (side own deleted) (fun _ _ => ()) (fun _ _ _ => True) (serving settings jobs redis) := by
    intro i
    exact (respond_stays (sided deletes i)).mono fun _ _ _ => trivial
  have start : Settled own deleted (serving settings jobs redis).shared := settled_start distinct
  obtain ⟨without, left⟩ := Conforming.deletes unit_tracks unwinds (fun d i op resume answer w settled _ guard pending admitted served => by
      refine ⟨settled.expected served, settled.served admitted ?_ served⟩
      rintro command rfl
      exact saves_of guard.1 pending)
    (fun d w settled _ drifted => settled.drifted drifted) (saving_run distinct run) start conforming ⟨.refl, fun _ => rfl, id, .nil⟩
  refine ⟨without, left.run, fun kept => left.same kept, ?_, fun {other} apart => ?_, fun {other} apart => ?_⟩
  · have others : (beyond own deleted).strings = OfOthers connectionId redis c.shared.log := funext fun _ => propext beyond_iff
    exact others ▸ left.agree.log
  · exact left.agree.redis.hashes ⟨other, rfl, iff_false_intro apart⟩
  · exact (left.agree.redis.strings (Or.inl ⟨other, rfl, iff_false_intro apart⟩)).1

end Runs

section Submissions
local instance serviced : Library := .sample

/-- A submission on each of two connections, with one key. -/
def submissions : Bool → Job
  | true => .submitInvoice "beta" "i9" "k"
  | false => .submitInvoice "acme" "i1" "k"

def submitting : ServiceConfig Bool (Except Exc Response) :=
  serving .sample submissions (Connection.connected Bool)

def authorised (invoiceId : String) : (call : Outside) → call.Answer
  | .http _ => .ok ⟨200, "", some (.obj [("Invoices", .arr [.obj [("InvoiceID", .str invoiceId), ("Status", .str "AUTHORISED")]])])⟩
  | call => call.silence

/-- A submission that finds nothing cached. -/
def submitted (i : Bool) (invoiceId : String) : List (Move Bool) :=
  [.redis i, .redis i, .outside i Outside.silence, .outside i (authorised invoiceId), .redis i]

/-- The result of the submission on `beta` has expired when its key is used again. -/
def reused : List (Move Bool) :=
  submitted true "i9" ++ .expire (idempotencyKey opSubmitInvoice "k") :: submitted false "i1"

/-- No state is saved. -/
def Stateless (log : List (Entry Bool)) : Bool :=
  log.all fun
    | .call _ (.redis (.set ..)) _ => false
    | _ => true

theorem unissued {log : List (Entry Bool)} (stateless : Stateless log = true) :
    ¬ Issued connectionId (Connection.connected Bool) log state := by
  rintro (stored | ⟨i, ex, saved⟩)
  · cases stored
  · cases List.all_eq_true.mp stateless _ saved

theorem made_on_beta {log : List (Entry Bool)} (i : Bool) :
    id i = true ↔ MadeOn "beta" (Connection.connected Bool) log (submissions i) := by
  cases i with
  | true => exact ⟨fun _ => Or.inl rfl, fun _ => rfl⟩
  | false =>
    refine ⟨nofun, ?_⟩
    rintro (targeted | ⟨_, _, callback, _⟩)
    · simp [submissions, target] at targeted
    · cases callback

/-- Once the result has expired, the submission on `acme` is the same without the one on `beta`. -/
theorem submitted_apart : ∃ without, Run (system (.free Bool)) (Without id) submitting without ∧
    Undisturbed "beta" (Connection.connected Bool) id (reused.foldl play submitting) without := by
  have stateless : Stateless (reused.foldl play submitting).shared.log = true := rfl
  have legal : LegalAlong (.free Bool) (Parting id) submitting reused :=
    ⟨fun cached => (cached rfl).elim, trivial, ⟨trivial, trivial⟩, ⟨trivial, trivial⟩, trivial, ⟨trivial, trivial⟩,
      fun cached => (cached rfl).elim, trivial, ⟨trivial, trivial⟩, ⟨trivial, trivial⟩, trivial, trivial⟩
  exact connections_apart (fun _ _ _ issued => (unissued stateless issued).elim) made_on_beta (plays_run legal)

/-- What the first read of the submission on `acme` finds without the one on `beta`. -/
theorem uncached {without : ServiceConfig Bool (Except Exc Response)}
    (run : Run (system (.free Bool)) (Without id) submitting without) :
    without.pool false = submitting.pool false ∨
      .call false (.redis (.getJson (idempotencyKey opSubmitInvoice "k"))) none ∈ without.shared.log := by
  have reached : (without.pool false = submitting.pool false ∧ ∀ key, without.shared.redis.caches key = none) ∨
      .call false (.redis (.getJson (idempotencyKey opSubmitInvoice "k"))) none ∈ without.shared.log := by
    refine run.invariant (I := fun d => (d.pool false = submitting.pool false ∧ ∀ key, d.shared.redis.caches key = none) ∨
      .call false (.redis (.getJson (idempotencyKey opSubmitInvoice "k"))) none ∈ d.shared.log) ?_ (Or.inl ⟨rfl, fun _ => rfl⟩)
    rintro c label d (⟨unread, empty⟩ | read) kept step
    · cases step with
      | drift drifted =>
        refine Or.inl ⟨unread, fun k => ?_⟩
        cases drifted with
        | invoice => exact empty k
        | @expire key =>
          rcases eq_or_ne k key with rfl | other
          · simp [Redis.expire]
          · simp [Redis.expire, Function.update_of_ne other, empty k]
      | @serve c i op resume answer w pending served =>
        have moving : i = false := kept i rfl
        subst moving
        rw [unread] at pending
        cases pending
        cases served with
        | redis => exact Or.inr (by simp [Redis.exec, empty])
    · refine Or.inr ?_
      cases step with
      | drift drifted => cases drifted <;> exact List.mem_cons_of_mem _ read
      | serve pending served => cases served <;> exact List.mem_cons_of_mem _ read
  exact reached.imp_left And.left

/-- With the same key, the submission on `acme` is answered with the invoice of `beta`.
Without the submission on `beta` it never is. -/
theorem submitted_across : ∃ c, Reaches (system (.free Bool)) submitting c ∧
    (∀ state first second, Issued first (Connection.connected Bool) c.shared.log state →
      Issued second (Connection.connected Bool) c.shared.log state → first = second) ∧
    (∀ i, id i = true ↔ MadeOn "beta" (Connection.connected Bool) c.shared.log (submissions i)) ∧
    ∀ without, Run (system (.free Bool)) (Without id) submitting without →
      ¬ Undisturbed "beta" (Connection.connected Bool) id c without := by
  have stateless : Stateless ((submitted true "i9" ++ [Move.redis false]).foldl play submitting).shared.log = true := rfl
  refine ⟨(submitted true "i9" ++ [Move.redis false]).foldl play submitting, plays_run (free_legal ..),
    fun _ _ _ issued => (unissued stateless issued).elim, made_on_beta, fun without run undisturbed => ?_⟩
  rcases uncached run with unread | read
  · have ended := (undisturbed.responses rfl).symm.trans unread
    cases ended
  · have found := undisturbed.calls.sublist.subset read
    have log : ∃ cached value ex request reply instant token, ((submitted true "i9" ++ [Move.redis false]).foldl play submitting).shared.log =
        [.call false (.redis (.getJson (idempotencyKey opSubmitInvoice "k"))) (some cached),
          .call true (.redis (.setJson (idempotencyKey opSubmitInvoice "k") value ex)) (),
          .call true (.outside (.http request)) reply,
          .call true (.outside .now) instant,
          .call true (.redis (.hgetall (TokenStore.key "beta"))) token,
          .call true (.redis (.getJson (idempotencyKey opSubmitInvoice "k"))) none] := ⟨_, _, _, _, _, _, _, rfl⟩
    obtain ⟨cached, value, ex, request, reply, instant, token, log⟩ := log
    rw [log] at found
    simp at found

end Submissions
end OpenClaw.Isolation
