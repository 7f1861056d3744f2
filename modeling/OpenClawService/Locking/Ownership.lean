import OpenClawService.Locking.Protocol

/-! Workers that take one lock again and again, with any bodies. Expiry may
strike at any moment; the key then tells who may still release it. -/
namespace OpenClaw.Lock
open Interleaving

/-- Awaits of a body that leave the lock alone. -/
def Apart (key : String) (op : Op) : Prop :=
  ∀ command, op = .redis command → command.modifies ≠ some key ∧ command ≠ .watch key

theorem Apart.admitted (apart : Apart key op) {p : OwnedLock.Point String} (idle : ¬ p.Releasing) :
    admits key p op := by
  cases op with
  | outside call =>
    cases p with
    | watching | compared => exact (idle trivial).elim
    | _ => trivial
  | redis command =>
    obtain ⟨quiet, _⟩ := apart command rfl
    cases p with
    | watching | compared => exact (idle trivial).elim
    | outside drawn => exact fun modified => (quiet modified).elim
    | inside token => exact quiet

theorem Apart.inside (apart : Apart key op) (answer) :
    advance key (.inside token) op answer = .inside token := by
  cases op with
  | outside call => cases call <;> rfl
  | redis command =>
    obtain ⟨quiet, unwatched⟩ := apart command rfl
    exact advance_quiet quiet id (fun watch => (unwatched watch).elim) answer

theorem Apart.outside (apart : Apart key op) (answer) :
    (advance key (.outside drawn) op answer).Away := by
  cases op with
  | outside call => cases call <;> exact ⟨_, rfl⟩
  | redis command =>
    obtain ⟨quiet, unwatched⟩ := apart command rfl
    exact ⟨_, advance_quiet quiet id (fun watch => (unwatched watch).elim) answer⟩

theorem body_inside {body : Async α} (apart : body.run.Uses (Apart key)) :
    Meets (protocol key) body (.inside token) (fun _ l => l = .inside token) := by
  apply Meets.of_uses apart
  · rintro l op rfl apart
    exact apart.admitted id
  · rintro l op answer rfl apart _
    exact apart.inside answer
  · rfl

theorem body_outside {body : Async α} (apart : body.run.Uses (Apart key)) :
    Meets (protocol key) body (.outside drawn) (fun _ l => l.Away) := by
  apply Meets.of_uses apart
  · rintro l op ⟨drawn, rfl⟩ apart
    exact apart.admitted id
  · rintro l op answer ⟨drawn, rfl⟩ apart _
    exact apart.outside answer
  · exact ⟨drawn, rfl⟩

theorem aexit_meets (token : String) :
    Meets (protocol key) (aexit key ⟨token, true⟩) (.inside token)
      (fun result l => result = .ok () ∧ l.Away) := by
  simp only [aexit, if_true, Meets.bind_iff, Async.redis_meets, Meets.andThen_ok]
  refine ⟨by simp [admits, Command.modifies], fun _ _ => ?_⟩
  simp only [protocol_advance, advance, if_true]
  refine ⟨rfl, fun current _ => ?_⟩
  by_cases owned : current = some token
  · simp [owned, admits, advance, OwnedLock.Point.Away]
  · simp [owned, admits, advance, OwnedLock.Point.Away]

/-- The release is reached however the body ends, and always leaves the lock. -/
theorem acquire_meets {body : Bool → Async α} (apart : ∀ acquired, (body acquired).run.Uses (Apart key)) :
    Meets (protocol key) (acquire key ttl body) (.outside drawn) (fun _ l => l.Away) := by
  simp only [acquire, aenter, Meets.bind_iff, Async.outside_meets, Async.redis_meets, Meets.andThen_ok,
    Meets.pure_iff, Async.outcome_meets]
  refine ⟨trivial, fun token _ => ⟨fun _ => ⟨token, ttl, rfl, rfl⟩, fun acquired _ => ?_⟩⟩
  cases acquired with
  | false =>
    simp only [protocol_advance, advance, if_true, Bool.false_eq_true, if_false]
    apply (body_outside (apart false)).mono
    intro result l away
    simpa [aexit] using away
  | true =>
    simp only [protocol_advance, advance, if_true]
    apply (body_inside (apart true)).mono
    rintro result l rfl
    apply (aexit_meets token).mono
    rintro _ l ⟨rfl, left⟩
    exact left

variable {ι : Type} [DecidableEq ι]

/-- Every worker runs its list of critical sections, each with its TTL. -/
def workers (key : String) (sections : ι → List (Nat × (Bool → Async α))) :
    ι → Prog Op Op.Answer (List (Except Exc α)) :=
  fun i => .sequence ((sections i).map fun critical => (acquire key critical.1 critical.2).run)

/-- The answer to the worker's last SET NX on the key. -/
def lastAttempt (key : String) (i : ι) : List (Entry ι) → Option Bool
  | [] => none
  | .call j (.redis (.setNx k _ _)) acquired :: rest =>
    if j = i ∧ k = key then some acquired else lastAttempt key i rest
  | _ :: rest => lastAttempt key i rest

theorem refused_outside {log : List (Entry ι)} (refused : lastAttempt key i log = some false) :
    (point key log i).Away := by
  induction log with
  | nil => contradiction
  | cons entry rest ih =>
    cases entry with
    | expired | invoice => exact ih refused
    | call j op answer =>
      rcases eq_or_ne i j with rfl | other
      · rw [point, view_own]
        cases op with
        | outside call =>
          obtain ⟨drawn, standing⟩ := ih refused
          rw [← point, standing]
          cases call <;> exact ⟨_, rfl⟩
        | redis command =>
          cases command with
          | setNx k token ttl =>
            by_cases same : k = key
            · have denied : answer = false := by simpa [lastAttempt, same] using refused
              exact ⟨none, by simp [advance, same, denied]⟩
            · obtain ⟨drawn, standing⟩ := ih (by simpa [lastAttempt, same] using refused)
              rw [← point, standing]
              exact ⟨drawn, by simp [advance, same]⟩
          | _ =>
            obtain ⟨drawn, standing⟩ := ih refused
            rw [← point, standing]
            exact ⟨drawn, rfl⟩
      · rw [point, view_other _ _ _ other]
        apply ih
        cases op with
        | outside call => exact refused
        | redis command =>
          cases command with
          | setNx k token ttl => simpa [lastAttempt, other.symm] using refused
          | _ => exact refused

/-- No attempt on the key among the entries. -/
def Untried (key : String) (log : List (Entry ι)) : Prop :=
  ∀ j token ttl acquired, Entry.call j (.redis (.setNx key token ttl)) acquired ∉ log

/-- What the lock promises in a configuration, whatever happened so far. -/
structure Safe (key : String) (env : Environment ι) (c : ServiceConfig ι α) : Prop where
  /-- A live lock is in the key, and the key holds nothing else. -/
  live : c.shared.redis.strings key = some token ↔ ∃ i, lease key i c.shared.log = some token
  /-- It disappears only by the release of the worker that drew it, or by its TTL. -/
  removed : Step (system env) label c d → c.shared.redis.strings key = some token →
    d.shared.redis.strings key ≠ some token →
    d.shared.log = .expired key :: c.shared.log ∨
      ∃ i, label = some i ∧ d.shared.log = .call i (.redis (.execDel key)) true :: c.shared.log ∧
        lease key i c.shared.log = some token ∧ ∀ j, Drawn c.shared.log j token → j = i
  /-- At most one worker has an unexpired lock, in its body or in its release. -/
  exclusive : lease key i c.shared.log = some token → lease key j c.shared.log = some token' → i = j
  /-- An owner whose lock lives on does not turn away from its release. -/
  recognised : lease key i c.shared.log = some token →
    point key c.shared.log i ≠ .compared token' false
  /-- Its EXEC deletes the key, and the next SET NX by anyone then succeeds. -/
  released : lease key i c.shared.log = some token → c.pool i = .await (.redis (.execDel key)) resume →
    Step (system env) (some i) c d → d.shared.redis.strings key = none ∧
      ∀ e newer, Reaches (system env) d e → e.shared.log = newer ++ d.shared.log → Untried key newer →
        ∀ j token ttl, (e.shared.redis.exec j (.setNx key token ttl)).1 = true
  /-- Out of the lock, the key carries none of the worker's tokens. -/
  left : (point key c.shared.log i).Away → Drawn c.shared.log i token →
    c.shared.redis.strings key ≠ some token
  ended : c.pool i = .done results → (point key c.shared.log i).Away
  /-- A refused worker modifies nothing until it tries again. -/
  refused : lastAttempt key i c.shared.log = some false → Step (system env) (some i) c d →
    (∀ token ttl resume, c.pool i ≠ .await (.redis (.setNx key token ttl)) resume) →
    d.shared.redis.strings key = c.shared.redis.strings key ∧
      d.shared.redis.touched key = c.shared.redis.touched key

section Promises
variable {key : String} {env : Environment ι} {w w' : World ι} {i : ι}

/-- The one way in which an answered await removes a token from the key. -/
theorem removed_by (ready : Ready key w) (admitted : admits key (point key w.log i) op)
    (served : Served env i w op answer w') (before : w.redis.strings key = some token)
    (after : w'.redis.strings key ≠ some token) :
    w'.log = .call i (.redis (.execDel key)) true :: w.log ∧ lease key i w.log = some token ∧
      Drawn w.log i token := by
  cases served with
  | outside allowed => exact (after before).elim
  | redis command =>
    have modified : command.modifies = some key := by
      by_contra quiet
      exact after ((w.redis.exec_strings i quiet).1.trans before)
    cases standing : point key w.log i with
    | outside drawn =>
      rw [standing] at admitted
      obtain ⟨other, ttl, rfl, rfl⟩ := admitted modified
      simp [Redis.exec, before] at after
    | inside other =>
      rw [standing] at admitted
      exact (admitted modified).elim
    | watching other =>
      rw [standing] at admitted
      cases admitted
      exact (after before).elim
    | compared other owned =>
      rw [standing] at admitted
      cases owned with
      | false =>
        cases admitted
        contradiction
      | true =>
        cases admitted
        obtain ⟨seen, watched⟩ := ready.watch (i := i) (by rw [standing]; trivial)
        have sound := ready.lock.sound i
        by_cases unchanged : w.redis.touched key = seen
        · have cell : w.redis.strings key = some other :=
            sound.owned standing (by simp only [state, watched, unchanged])
          have same : token = other := Option.some.inj (before.symm.trans cell)
          have drawn : Drawn w.log i token := sound.mine (by simp only [same, state, standing]; rfl)
          refine ⟨?_, ready.lock.cell_owner before drawn, drawn⟩
          simp only [Redis.execDel_intact _ i watched unchanged]
        · simp [Redis.execDel_changed _ i watched unchanged, before] at after

/-- The EXEC of a worker whose lock lives on finds the key as it was watched. -/
theorem exec_owned (ready : Ready key w) (admitted : admits key (point key w.log i) (.redis (.execDel key)))
    (leased : lease key i w.log = some token) :
    (w.redis.exec i (.execDel key)).2.strings key = none := by
  obtain ⟨cell, holds⟩ := (ready.lock.sound i).leased leased
  cases standing : point key w.log i with
  | outside drawn =>
    rw [standing] at admitted
    obtain ⟨_, _, attempt, _⟩ := admitted rfl
    contradiction
  | inside other =>
    rw [standing] at admitted
    exact (admitted rfl).elim
  | watching other =>
    rw [standing] at admitted
    cases admitted
  | compared other owned =>
    have releasing : ((state key w).point i).Releasing := by simp only [state, standing]; trivial
    obtain ⟨seen, watched⟩ := ready.watch releasing
    have unchanged : w.redis.touched key = seen := by
      by_contra changed
      refine (ready.lock.sound i).changed releasing ?_ holds.token cell
      simp only [state, watched, Option.some.injEq, Prod.mk.injEq, true_and]
      exact fun same => changed same.symm
    rw [Redis.execDel_intact _ i watched unchanged]
    exact Redis.write_strings ..

/-- An absent key stays absent until somebody tries to take the lock. -/
theorem vacant_served (admitted : admits key (point key w.log i) op) (served : Served env i w op answer w')
    (vacant : w.redis.strings key = none) :
    w'.redis.strings key = none ∨ ∃ token ttl, op = .redis (.setNx key token ttl) := by
  cases served with
  | outside allowed => exact Or.inl vacant
  | redis command =>
    by_cases modified : command.modifies = some key
    · cases standing : point key w.log i with
      | outside drawn =>
        rw [standing] at admitted
        obtain ⟨token, ttl, rfl, _⟩ := admitted modified
        exact Or.inr ⟨token, ttl, rfl⟩
      | inside token =>
        rw [standing] at admitted
        exact (admitted modified).elim
      | watching token =>
        rw [standing] at admitted
        cases admitted
        exact Or.inl vacant
      | compared token owned =>
        rw [standing] at admitted
        cases owned with
        | false =>
          cases admitted
          exact Or.inl vacant
        | true =>
          cases admitted
          left
          simp only [Redis.exec]
          split <;> (try split) <;> simp [vacant]
    · exact Or.inl ((w.redis.exec_strings i modified).1.trans vacant)

omit [DecidableEq ι] in
theorem vacant_drifted (drifted : Drifted env w w') (vacant : w.redis.strings key = none) :
    w'.redis.strings key = none := by
  cases drifted with
  | @expire k present allowed =>
    rcases eq_or_ne key k with rfl | other
    · exact Redis.write_strings ..
    · exact (Redis.write_strings_ne _ other).trans vacant
  | invoice allowed => exact vacant

end Promises

section Runs
variable {key : String} {env : Environment ι} {c d e : ServiceConfig ι α}
  {post : ι → α → OwnedLock.Point String → Prop}

/-- Every worker of the pool keeps to the lock's protocol from here on. -/
abbrev Keeps (key : String) (post : ι → α → OwnedLock.Point String → Prop) (c : ServiceConfig ι α) : Prop :=
  Conforming (fun _ => protocol key) (fun w => point key w.log) post c

theorem keeps_run (fresh : FreshTokens env) (ready : Ready key c.shared) (keeps : Keeps key post c)
    (run : Reaches (system env) c d) : Ready key d.shared ∧ Keeps key post d := by
  apply Conforming.run (tracks env (fun _ => protocol key) (fun _ => .outside none)) ?_ ?_ run ready keeps
  · intro c i request resume answer s ready _ _ _ admitted served
    exact ⟨trivial, ready.served fresh admitted served⟩
  · intro c s ready _ drifted
    exact ready.drifted drifted

omit [DecidableEq ι] in
theorem Untried.of_cons (untried : Untried key (entry :: log : List (Entry ι))) : Untried key log :=
  fun j token ttl acquired member => untried j token ttl acquired (List.mem_cons_of_mem _ member)

/-- Until somebody tries the lock again, it stays free. -/
theorem stays_free (fresh : FreshTokens env) (ready : Ready key d.shared) (keeps : Keeps key post d)
    (vacant : d.shared.redis.strings key = none) (run : Reaches (system env) d e)
    (log : e.shared.log = newer ++ d.shared.log) (untried : Untried key newer) :
    e.shared.redis.strings key = none := by
  have free := Conforming.run (tracks env (fun _ => protocol key) (fun _ => .outside none))
    (I := fun w => Ready key w ∧
      ∃ newer, w.log = newer ++ d.shared.log ∧ (Untried key newer → w.redis.strings key = none))
    ?_ ?_ run ⟨ready, [], rfl, fun _ => vacant⟩ keeps
  · obtain ⟨⟨_, newer', log', free⟩, _⟩ := free
    have same : newer' = newer := List.append_cancel_right (log'.symm.trans log)
    exact free (same ▸ untried)
  · rintro c i op resume answer s ⟨ready, newer, log, free⟩ _ _ _ admitted served
    refine ⟨trivial, ready.served fresh admitted served, .call i op answer :: newer, ?_, fun untried => ?_⟩
    · cases served <;> simp [log]
    · rcases vacant_served admitted served (free untried.of_cons) with vacant | ⟨token, ttl, rfl⟩
      · exact vacant
      · exact (untried i token ttl answer List.mem_cons_self).elim
  · rintro c s ⟨ready, newer, log, free⟩ _ drifted
    refine ⟨ready.drifted drifted, ?_⟩
    cases drifted with
    | @expire k present allowed =>
      exact ⟨.expired k :: newer, by simp [log], fun untried =>
        vacant_drifted (.expire present allowed) (free untried.of_cons)⟩
    | @invoice invoiceId status allowed =>
      exact ⟨.invoice invoiceId status :: newer, by simp [log], fun untried => free untried.of_cons⟩

end Runs

theorem workers_keep {sections : ι → List (Nat × (Bool → Async α))}
    (apart : ∀ i, ∀ critical ∈ sections i, ∀ acquired, (critical.2 acquired).run.Uses (Apart key)) :
    Keeps key (fun _ _ l => l.Away) ⟨⟨redis, []⟩, workers key sections⟩ := by
  intro i
  apply Conforms.sequence
  · intro program member l idle
    obtain ⟨critical, listed, rfl⟩ := List.mem_map.mp member
    obtain ⟨drawn, rfl⟩ := idle
    exact acquire_meets (apart i critical listed)
  · exact ⟨none, rfl⟩

theorem Ready.initial (vacant : redis.strings key = none) (sane : redis.WellWatched) :
    Ready key (⟨redis, []⟩ : World ι) where
  lock := .initial vacant (by simp [state, Drawn]) (fun _ => rfl) (fun _ => rfl)
  sane := sane
  watch releasing := releasing.elim

theorem lock_ownership {sections : ι → List (Nat × (Bool → Async α))}
    (apart : ∀ i, ∀ critical ∈ sections i, ∀ acquired, (critical.2 acquired).run.Uses (Apart key))
    (fresh : FreshTokens env) (vacant : redis.strings key = none) (sane : redis.WellWatched)
    (run : Reaches (system env) ⟨⟨redis, []⟩, workers key sections⟩ c) : Safe key env c := by
  obtain ⟨ready, keeps⟩ := keeps_run fresh (.initial vacant sane) (workers_keep apart) run
  constructor
  case live =>
    intro token
    exact ⟨ready.lock.owner, fun ⟨i, leased⟩ => ((ready.lock.sound i).leased leased).1⟩
  case removed =>
    intro label d token step before after
    cases step with
    | serve pending served =>
      rename_i i request resume answer s
      obtain ⟨log, leased, drawn⟩ := removed_by ready (keeps.admitted pending) served before after
      exact Or.inr ⟨i, rfl, log, leased, fun j other => ready.lock.unique other drawn⟩
    | drift drifted =>
      cases drifted with
      | @expire k present allowed =>
        rcases eq_or_ne key k with rfl | other
        · exact Or.inl rfl
        · exact (after ((Redis.write_strings_ne _ other).trans before)).elim
      | invoice allowed => exact (after before).elim
  case exclusive =>
    intro i token j token' first second
    exact ready.lock.exclusive first second
  case recognised =>
    intro i token token' leased compared
    have holds : (point key c.shared.log i).Holds token := ((ready.lock.sound i).leased leased).2
    rw [compared] at holds
    exact Bool.noConfusion holds.2
  case released =>
    intro i token resume d leased pending step
    have deleted : d.shared.redis.strings key = none := by
      cases step with
      | serve pending' served =>
        cases pending.symm.trans pending'
        cases served
        exact exec_owned ready (keeps.admitted pending) leased
    obtain ⟨ready', keeps'⟩ := keeps_run fresh ready keeps ((Run.refl c).snoc trivial step)
    refine ⟨deleted, fun e newer path log untried j token ttl => ?_⟩
    have free := stays_free fresh ready' keeps' deleted path log untried
    simp [Redis.exec, free]
  case left =>
    rintro i token ⟨drawn, standing⟩ mine carried
    have holds : (point key c.shared.log i).Holds token :=
      ((ready.lock.sound i).leased (ready.lock.cell_owner carried mine)).2
    rw [standing] at holds
    exact holds
  case ended =>
    intro i results ended
    exact keeps.finished ended
  case refused =>
    intro i d refused step other
    obtain ⟨drawn, standing⟩ := refused_outside refused
    cases step with
    | serve pending served =>
      have admitted := keeps.admitted pending
      cases served with
      | outside allowed => exact ⟨rfl, rfl⟩
      | redis command =>
        rw [standing] at admitted
        apply Redis.exec_strings
        intro modified
        obtain ⟨token, ttl, rfl, _⟩ := admitted modified
        exact other token ttl _ pending

/-- The outside that may do anything but draw a token twice. -/
def contention : Environment Bool where
  allows w _ call answer := match call, answer with
    | .uuid4, token => ∀ j, ¬ Drawn w.log j token
    | _, _ => True
  expires _ _ := True
  changes _ _ _ := True

def draws (token : String) : (call : Outside) → call.Answer
  | .uuid4 => token
  | call => call.silence

/-- Two workers with an empty critical section each, before anything happened. -/
def idle : ServiceConfig Bool (List (Except Exc Unit)) :=
  ⟨⟨.empty, []⟩, workers "lock" fun _ => [(30, fun _ => pure ())]⟩

/-- One worker takes the lock, the other is refused, and the first one is about to release it. -/
def contended : ServiceConfig Bool (List (Except Exc Unit)) :=
  [Move.outside true (draws "a"), .outside false (draws "b"), .redis true, .redis false, .redis true,
    .redis true].foldl play idle

theorem lock_contended : contended.shared.redis.strings "lock" = some "a" ∧
    lastAttempt "lock" false contended.shared.log = some false ∧ Safe "lock" contention contended := by
  refine ⟨rfl, rfl, lock_ownership (fun i critical listed acquired => ?_) (fun w i token allowed => allowed)
    rfl Redis.empty_wellWatched (plays_run ?_)⟩
  · cases List.mem_singleton.mp listed
    trivial
  · have first : ∀ j, ¬ Drawn ([] : List (Entry Bool)) j "a" := by simp [Drawn]
    have second : ∀ j, ¬ Drawn [Entry.call true (.outside .uuid4) "a"] j "b" := by simp [Drawn]
    exact ⟨⟨trivial, first⟩, ⟨trivial, second⟩, trivial, trivial, trivial, trivial, trivial⟩

end OpenClaw.Lock
