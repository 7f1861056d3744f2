import OpenClawService.Adapters.Lock
import OpenClawService.Interleaving.OwnedLock

/-! The lock protocol of one Redis key, and its refinement of the owned lock:
whatever programs the workers run, as long as they keep to the protocol, each
answered await is a step of the abstract lock or leaves it alone. -/
namespace OpenClaw.Lock
open Interleaving OwnedLock

/-- Requests by which a worker may touch the key, at each of its points. -/
def admits (key : String) : Point String → Op → Prop
  | .outside drawn, .redis command =>
    command.modifies = some key → ∃ token ttl, command = .setNx key token ttl ∧ drawn = some token
  | .inside _, .redis command => command.modifies ≠ some key
  | .watching _, op => op = .redis (.get key)
  | .compared _ true, op => op = .redis (.execDel key)
  | .compared _ false, op => op = .redis .unwatch
  | _, .outside _ => True

def advance (key : String) (point : Point String) : (op : Op) → op.Answer → Point String
  | .outside .uuid4, token => match point with
    | .outside _ => .outside (some token)
    | held => held
  | .redis (.setNx k token _), acquired =>
    if k = key then if acquired = true then .inside token else .outside none else point
  | .redis (.watch k), _ => match point with
    | .inside token => if k = key then .watching token else point
    | other => other
  | .redis (.get _), current => match point with
    | .watching token => .compared token (decide (current = some token))
    | other => other
  | .redis (.execDel _), _ | .redis .unwatch, _ => match point with
    | .compared .. => .outside none
    | other => other
  | _, _ => point

def protocol (key : String) : Protocol Op Op.Answer (Point String) :=
  ⟨admits key, fun _ _ _ => True, advance key⟩

@[simp] theorem protocol_admits : (protocol key).admits = admits key := rfl

@[simp] theorem protocol_expects : (protocol key).expects l op answer := trivial

@[simp] theorem protocol_advance : (protocol key).advance = advance key := rfl

variable {ι : Type} [DecidableEq ι]

/-- Where each worker stands with the lock on `key`. -/
def point (key : String) (log : List (Entry ι)) : ι → Point String :=
  view (fun _ => protocol key) (fun _ => .outside none) log

/-- The token of the worker's last acquisition, unless it has released the lock
or the TTL has run out since. -/
def lease (key : String) (i : ι) : List (Entry ι) → Option String
  | [] => none
  | .call j (.redis (.setNx k token _)) acquired :: rest =>
    if j = i ∧ k = key ∧ acquired = true then some token else lease key i rest
  | .call j (.redis (.execDel k)) deleted :: rest =>
    if j = i ∧ k = key ∧ deleted = true then none else lease key i rest
  | .expired k :: rest => if k = key then none else lease key i rest
  | _ :: rest => lease key i rest

/-- The worker has drawn the token. -/
def Drawn (log : List (Entry ι)) (i : ι) (token : String) : Prop :=
  Entry.call i (.outside .uuid4) token ∈ log

/-- The tokens that anybody has drawn. -/
def tokens : List (Entry ι) → List String
  | [] => []
  | .call _ (.outside .uuid4) token :: rest => token :: tokens rest
  | _ :: rest => tokens rest

omit [DecidableEq ι] in
theorem drawn_tokens {log : List (Entry ι)} (drawn : Drawn log i token) : token ∈ tokens log := by
  induction log with
  | nil => contradiction
  | cons entry rest ih =>
    rcases List.mem_cons.mp drawn with same | before
    · subst same
      exact List.mem_cons_self
    · have found := ih before
      unfold tokens
      split
      · contradiction
      · rename_i same
        cases same
        exact List.mem_cons_of_mem _ found
      · rename_i same
        cases same
        exact found

/-- The abstract lock that a world shows on `key`. -/
def state (key : String) (w : World ι) : State ι String where
  cell := w.redis.strings key
  intact i := w.redis.watched i = some (key, w.redis.touched key)
  point := point key w.log
  drawn := Drawn w.log
  lease i := lease key i w.log

/-- No environment answer of `uuid4` was ever given before. -/
def FreshTokens (env : Environment ι) : Prop :=
  ∀ w i token, env.allows w i .uuid4 token → ∀ j, ¬ Drawn w.log j token

section Quiet
variable {key : String} {command : Command}

/-- Commands that are no part of the lock's own traffic. -/
theorem advance_quiet (quiet : command.modifies ≠ some key) {p : Point String} (idle : ¬ p.Releasing)
    (unwatched : command = .watch key → ∀ token, p ≠ .inside token) (answer) :
    advance key p (.redis command) answer = p := by
  cases command with
  | setNx k token ttl =>
    have other : k ≠ key := fun same => quiet (congrArg some same)
    simp [advance, other]
  | watch k =>
    cases p with
    | inside token =>
      have other : k ≠ key := fun same => unwatched (congrArg _ same) token rfl
      simp [advance, other]
    | _ => rfl
  | get k | execDel k | unwatch =>
    cases p with
    | watching token | compared token owned => exact (idle trivial).elim
    | _ => rfl
  | _ => rfl

theorem lease_quiet (quiet : command.modifies ≠ some key) (i j : ι) (answer) (log : List (Entry ι)) :
    lease key j (.call i (.redis command) answer :: log) = lease key j log := by
  cases command with
  | setNx k token ttl | execDel k =>
    have other : k ≠ key := fun same => quiet (congrArg some same)
    simp [lease, other]
  | _ => rfl

end Quiet

/-- The invariant of a world: the abstract one, and every worker in a release
watches this key. -/
structure Ready (key : String) (w : World ι) : Prop where
  lock : Inv (state key w)
  sane : w.redis.WellWatched
  watch : (point key w.log i).Releasing → ∃ seen, w.redis.watched i = some (key, seen)

section Simulation
variable {key : String} {env : Environment ι} {w w' : World ι} {i : ι}

theorem state_call (redis : Redis ι) (log : List (Entry ι)) (i : ι) (op answer) :
    state key ⟨redis, .call i op answer :: log⟩ =
      { cell := redis.strings key
        intact := fun j => redis.watched j = some (key, redis.touched key)
        point := Function.update (point key log) i (advance key (point key log i) op answer)
        drawn := Drawn (.call i op answer :: log)
        lease := fun j => lease key j (.call i op answer :: log) } := by
  rw [state, point, view_call]
  rfl

omit [DecidableEq ι] in
theorem drawn_other (other : op ≠ .outside .uuid4) (i : ι) (answer) (log : List (Entry ι)) :
    Drawn (.call i op answer :: log) = Drawn log := by
  funext j token
  simp only [Drawn, List.mem_cons, eq_iff_iff, or_iff_right_iff_imp]
  intro same
  cases same
  exact (other rfl).elim

omit [DecidableEq ι] in
@[simp] theorem drawn_expired (log : List (Entry ι)) : Drawn (.expired k :: log) = Drawn log := by
  funext j token
  simp [Drawn]

omit [DecidableEq ι] in
@[simp] theorem drawn_invoice (log : List (Entry ι)) :
    Drawn (.invoice invoiceId status :: log) = Drawn log := by
  funext j token
  simp [Drawn]

omit [DecidableEq ι] in
theorem drawn_uuid4 (i : ι) (token : String) (log : List (Entry ι)) :
    Drawn (.call i (.outside .uuid4) token :: log) = fun j u => Drawn log j u ∨ j = i ∧ u = token := by
  funext j u
  simp only [Drawn, List.mem_cons, Entry.call.injEq, heq_eq_eq, true_and, eq_iff_iff]
  exact or_comm

theorem unwatched_subset {redis : Redis ι} (i j : ι) (seen : Nat)
    (watched : Function.update redis.watched i none j = some (key, seen)) :
    redis.watched j = some (key, seen) := by
  rcases eq_or_ne j i with rfl | other
  · simp at watched
  · rwa [Function.update_of_ne other] at watched

omit [DecidableEq ι] in
/-- After a modification of the key no remembered count is the current one. -/
theorem broken_by (sane : w.redis.WellWatched) {redis : Redis ι}
    (touched : redis.touched key = w.redis.touched key + 1)
    (watched : ∀ j seen, redis.watched j = some (key, seen) → w.redis.watched j = some (key, seen)) (j : ι) :
    redis.watched j ≠ some (key, redis.touched key) := by
  intro current
  have bound := sane j key _ (watched j _ current)
  omega

/-- An answer that moves no point and touches no key of the lock. -/
theorem quiet_step {redis : Redis ι} (other : op ≠ .outside .uuid4)
    (still : advance key (point key w.log i) op answer = point key w.log i)
    (kept : ∀ j, lease key j (.call i op answer :: w.log) = lease key j w.log)
    (cell : redis.strings key = w.redis.strings key)
    (watched : ∀ j, (point key w.log j).Releasing →
      (redis.watched j = some (key, redis.touched key) ↔ w.redis.watched j = some (key, w.redis.touched key))) :
    Step (state key w) (state key ⟨redis, .call i op answer :: w.log⟩) := by
  rw [state_call, still, Function.update_eq_self, drawn_other other, cell]
  simp only [kept]
  exact .quiet (s := state key w) watched

theorem outside_step (fresh : FreshTokens env) {call : Outside} {answer : call.Answer}
    (allowed : env.allows w i call answer) :
    Step (state key w) (state key ⟨w.redis, .call i (.outside call) answer :: w.log⟩) := by
  by_cases drawing : call = .uuid4
  · subst drawing
    have unused := fresh w i answer allowed
    rw [state_call, drawn_uuid4]
    cases standing : point key w.log i with
    | outside drawn => exact .draw (s := state key w) unused standing
    | inside | watching | compared =>
      simp only [advance]
      rw [← standing, Function.update_eq_self]
      exact .spend (s := state key w) unused
  · have still : advance key (point key w.log i) (.outside call) answer = point key w.log i := by
      cases call with
      | uuid4 => contradiction
      | _ => rfl
    exact quiet_step (by simpa using drawing) still (fun _ => rfl) rfl (fun _ _ => Iff.rfl)

/-- Commands on other keys, and reads, by a worker that is not in a release. -/
theorem other_step (idle : ¬ (point key w.log i).Releasing) (quiet : command.modifies ≠ some key)
    (unwatched : command = .watch key → ∀ token, point key w.log i ≠ .inside token) :
    Step (state key w) (state key ⟨(w.redis.exec i command).2,
      .call i (.redis command) (w.redis.exec i command).1 :: w.log⟩) := by
  obtain ⟨cell, touched⟩ := w.redis.exec_strings i quiet
  refine quiet_step (by simp) (advance_quiet quiet idle unwatched _)
    (fun j => lease_quiet quiet i j _ _) cell fun j releasing => ?_
  have other : j ≠ i := fun same => idle (same ▸ releasing)
  rw [w.redis.exec_watched_other i other, touched]

/-- SET NX sets the absent key, and does nothing to a present one. -/
theorem attempt_step (ready : Ready key w) (standing : point key w.log i = .outside (some token)) :
    Step (state key w) (state key ⟨(w.redis.exec i (.setNx key token ttl)).2,
      .call i (.redis (.setNx key token ttl)) (w.redis.exec i (.setNx key token ttl)).1 :: w.log⟩) := by
  rw [state_call, drawn_other (by simp)]
  by_cases free : w.redis.strings key = none
  · have leases : (fun j => lease key j (.call i (.redis (.setNx key token ttl)) true :: w.log)) =
        Function.update (fun j => lease key j w.log) i (some token) := by
      funext j
      rcases eq_or_ne j i with rfl | other
      · simp [lease]
      · simp [lease, other, other.symm]
    have broken := broken_by ready.sane (w.redis.write_touched key (some token)) (fun _ _ same => same)
    simp only [Redis.exec, if_pos free, leases, Redis.write_strings]
    simp only [advance, if_true]
    exact .acquire (s := state key w) standing free (fun j _ => broken j)
  · have leases : (fun j => lease key j (.call i (.redis (.setNx key token ttl)) false :: w.log)) =
        fun j => lease key j w.log := by
      funext j
      simp [lease]
    simp only [Redis.exec, if_neg free, leases]
    simp only [advance, if_true, Bool.false_eq_true, if_false]
    exact .denied (s := state key w) standing

theorem watch_step (standing : point key w.log i = .inside token) :
    Step (state key w) (state key ⟨(w.redis.exec i (.watch key)).2,
      .call i (.redis (.watch key)) () :: w.log⟩) := by
  rw [state_call, drawn_other (by simp)]
  simp only [Redis.exec, advance, standing, if_true]
  refine .watch (s := state key w) standing (Function.update_self ..) fun j other _ => ?_
  rw [Function.update_of_ne other]
  rfl

theorem compare_step (standing : point key w.log i = .watching token) :
    Step (state key w) (state key ⟨w.redis, .call i (.redis (.get key)) (w.redis.strings key) :: w.log⟩) := by
  rw [state_call, drawn_other (by simp)]
  simp only [advance, standing]
  exact .compare (s := state key w) standing

/-- EXEC deletes the key when nobody touched it since WATCH, and aborts otherwise. -/
theorem exec_step (ready : Ready key w) (standing : point key w.log i = .compared token true) :
    Step (state key w) (state key ⟨(w.redis.exec i (.execDel key)).2,
      .call i (.redis (.execDel key)) (w.redis.exec i (.execDel key)).1 :: w.log⟩) := by
  obtain ⟨seen, watched⟩ := ready.watch (i := i) (by rw [standing]; trivial)
  rw [state_call, drawn_other (by simp)]
  by_cases unchanged : w.redis.touched key = seen
  · have leases : (fun j => lease key j (.call i (.redis (.execDel key)) true :: w.log)) =
        Function.update (fun j => lease key j w.log) i none := by
      funext j
      rcases eq_or_ne j i with rfl | other
      · simp [lease]
      · simp [lease, other, other.symm]
    have intact : (state key w).intact i := by simp only [state, watched, unchanged]
    have broken := broken_by ready.sane
      (Redis.write_touched { w.redis with watched := Function.update w.redis.watched i none } key none)
      (unwatched_subset i)
    simp only [Redis.execDel_intact _ i watched unchanged, leases, Redis.write_strings, advance, standing]
    exact .release (s := state key w) standing intact (fun j _ => broken j)
  · have leases : (fun j => lease key j (.call i (.redis (.execDel key)) false :: w.log)) =
        fun j => lease key j w.log := by
      funext j
      simp [lease]
    simp only [Redis.execDel_changed _ i watched unchanged, leases, advance, standing]
    refine .aborted (s := state key w) standing ?_ fun j other _ => ?_
    · simp only [state, watched, Option.some.injEq, Prod.mk.injEq, true_and]
      exact fun same => unchanged same.symm
    · rw [Function.update_of_ne other]
      rfl

theorem pass_step (standing : point key w.log i = .compared token false) :
    Step (state key w) (state key ⟨(w.redis.exec i .unwatch).2, .call i (.redis .unwatch) () :: w.log⟩) := by
  rw [state_call, drawn_other (by simp)]
  simp only [Redis.exec, advance, standing]
  refine .passed (s := state key w) standing fun j other _ => ?_
  rw [Function.update_of_ne other]
  rfl

theorem served_step (ready : Ready key w) (fresh : FreshTokens env)
    (admitted : admits key (point key w.log i) op) (served : Served env i w op answer w') :
    Step (state key w) (state key w') := by
  cases served with
  | outside allowed => exact outside_step fresh allowed
  | redis command =>
    cases standing : point key w.log i with
    | outside drawn =>
      rw [standing] at admitted
      by_cases modified : command.modifies = some key
      · obtain ⟨token, ttl, rfl, rfl⟩ := admitted modified
        exact attempt_step ready standing
      · exact other_step (by rw [standing]; exact id) modified (by simp [standing])
    | inside token =>
      rw [standing] at admitted
      by_cases watches : command = .watch key
      · subst watches
        exact watch_step standing
      · exact other_step (by rw [standing]; exact id) admitted (fun same => (watches same).elim)
    | watching token =>
      rw [standing] at admitted
      cases admitted
      exact compare_step standing
    | compared token owned =>
      rw [standing] at admitted
      cases owned with
      | true =>
        cases admitted
        exact exec_step ready standing
      | false =>
        cases admitted
        exact pass_step standing

theorem drifted_step (sane : w.redis.WellWatched) (drifted : Drifted env w w') :
    state key w' = state key w ∨ Step (state key w) (state key w') := by
  cases drifted with
  | @expire k present allowed =>
    rcases eq_or_ne k key with rfl | other
    · right
      have broken := broken_by sane (Redis.write_touched w.redis k none) (fun _ _ same => same)
      have step := OwnedLock.Step.expire (s := state k w) (fun j _ => broken j)
      simpa [state, Redis.expire, point, lease] using step
    · left
      simp only [state, Redis.expire, Redis.write_strings_ne _ other.symm,
        Redis.write_touched_ne _ other.symm, point, view_expired, lease, if_neg other, drawn_expired]
      rfl
  | invoice allowed =>
    left
    simp only [state, point, view_invoice, lease, drawn_invoice]

omit [DecidableEq ι] in
theorem outside_releasing {call : Outside} {answer : call.Answer} {p : Point String}
    (releasing : (advance key p (.outside call) answer).Releasing) : p.Releasing := by
  cases p with
  | watching | compared => trivial
  | outside | inside => cases call <;> exact releasing.elim

/-- A worker that is in a release after a step watches the key by then. -/
theorem release_watched (ready : Ready key w) (admitted : admits key (point key w.log i) (.redis command))
    (releasing : (advance key (point key w.log i) (.redis command) (w.redis.exec i command).1).Releasing) :
    ∃ seen, (w.redis.exec i command).2.watched i = some (key, seen) := by
  cases standing : point key w.log i with
  | outside drawn =>
    rw [standing] at releasing
    cases command with
    | setNx k token ttl =>
      simp only [advance] at releasing
      split at releasing <;> (try split at releasing) <;> exact releasing.elim
    | _ => exact releasing.elim
  | inside token =>
    rw [standing] at admitted releasing
    cases command with
    | setNx k token ttl =>
      simp only [advance] at releasing
      split at releasing <;> (try split at releasing) <;> exact releasing.elim
    | watch k =>
      simp only [advance] at releasing
      split at releasing
      · rename_i same
        exact ⟨_, by rw [same]; exact Function.update_self ..⟩
      · exact releasing.elim
    | _ => exact releasing.elim
  | watching token =>
    rw [standing] at admitted
    cases admitted
    exact ready.watch (by rw [standing]; trivial)
  | compared token owned =>
    rw [standing] at admitted releasing
    cases owned <;> cases admitted <;> exact releasing.elim

end Simulation

namespace Ready
variable {key : String} {env : Environment ι} {w w' : World ι} {i : ι}

theorem served (ready : Ready key w) (fresh : FreshTokens env) (admitted : admits key (point key w.log i) op)
    (served : Served env i w op answer w') : Ready key w' := by
  refine ⟨ready.lock.step (served_step ready fresh admitted served), ?_, ?_⟩
  · cases served with
    | outside allowed => exact ready.sane
    | redis command => exact w.redis.exec_wellWatched i ready.sane
  · intro j releasing
    rcases eq_or_ne j i with rfl | other
    · cases served with
      | outside allowed =>
        rw [point, view_own] at releasing
        exact ready.watch (outside_releasing releasing)
      | redis command =>
        rw [point, view_own] at releasing
        exact release_watched ready admitted releasing
    · cases served with
      | outside allowed =>
        rw [point, view_other _ _ _ other] at releasing
        exact ready.watch releasing
      | redis command =>
        rw [point, view_other _ _ _ other] at releasing
        rw [w.redis.exec_watched_other i other]
        exact ready.watch releasing

theorem drifted (ready : Ready key w) (drifted : Drifted env w w') : Ready key w' := by
  refine ⟨?_, ?_, ?_⟩
  · rcases drifted_step ready.sane drifted with same | step
    · rw [same]
      exact ready.lock
    · exact ready.lock.step step
  · cases drifted with
    | expire present allowed => exact w.redis.expire_wellWatched ready.sane _
    | invoice allowed => exact ready.sane
  · intro j releasing
    cases drifted with
    | expire | invoice => exact ready.watch releasing

end Ready
end OpenClaw.Lock
