import OpenClawService.Api.Runs
import OpenClawService.Interleaving.Simulation
import OpenClawService.Keyspace.Representation

/-! The service on Redis as it is: every run of API requests over one keyspace of typed
values, with JSON texts for the cached results, is a run over the store of separate maps,
and no command of it is ever refused. -/
namespace OpenClaw
open Interleaving Api

section Refinement
variable [Library] [Json.Numerals] {ι : Type}

theorem loaded_closed : Closed Json.Loaded where
  text text := .str text
  item loaded := by
    cases loaded with
    | arr each => exact each _ List.mem_cons_self
  field loaded listed := by
    cases loaded with
    | obj _ each =>
      obtain ⟨before, after, rfl, _⟩ := List.lookup_eq_some_iff.mp listed
      exact each (_, _) (List.mem_append_right _ List.mem_cons_self)
  message loaded := .obj (by simp) (by simpa using loaded)
  invoice loaded status := .obj (by simp) (by simpa using ⟨loaded, status⟩)

omit [Library] [Json.Numerals] in
theorem entry_kind {route : Route} (entered : route.entry = some k) : ∃ name, k = Kind.entry.key name := by
  have named {operation : String} {given : Option String} (found : given.map (idempotencyKey operation) = some k) :
      ∃ name, k = Kind.entry.key name := by
    obtain ⟨key, _, rfl⟩ := Option.map_eq_some_iff.mp found
    exact ⟨_, entry_key operation key⟩
  cases route <;> first | exact named entered | cases entered

omit [Library] [Json.Numerals] in
theorem Attends.congr {redis : Redis ι} {i : ι} {client : Client} {p q : Phase} (attends : Attends redis i client p)
    (same : q.watched = p.watched) : Attends redis i client q := by
  unfold Attends
  rw [same]
  exact attends

section Commands
variable [DecidableEq ι] {settings : Settings} {route : Route} {phase : ι → Phase} {keyspace : Keyspace ι} {redis : Redis ι} {i : ι}

/-- The command is answered as the store answers it, and the keyspace goes on standing for the store. -/
def Matched (route : Route) (phase : ι → Phase) (keyspace : Keyspace ι) (redis : Redis ι) (i : ι) (command : Command) : Prop :=
  ∃ keyspace', keyspace.exec i command = some ((redis.exec i command).1, keyspace') ∧
    Represents (Function.update phase i (advance route (phase i) (.redis command) (redis.exec i command).1)) keyspace'
      (redis.exec i command).2

theorem Represents.still (represents : Represents phase keyspace redis) {p : Phase} (still : p = phase i) :
    Represents (Function.update phase i p) keyspace redis := by
  rw [still, Function.update_eq_self]
  exact represents

omit [DecidableEq ι] in
theorem text_slot (represents : Represents phase keyspace redis) {kind : Kind} (watched : kind.watched) (name : String) :
    keyspace.slots (kind.key name) = (redis.strings (kind.key name)).map fun value => ⟨.text value, true⟩ := by
  have stands := represents.slots kind name
  cases kind <;> first | exact watched.elim | exact stands

omit [DecidableEq ι] in
theorem hash_slot (represents : Represents phase keyspace redis) {kind : Kind} (hashed : kind = .token ∨ kind = .approval) (name : String) :
    keyspace.slots (kind.key name) =
      if redis.hashes (kind.key name) = [] then none else some ⟨.hash (redis.hashes (kind.key name)), false⟩ := by
  rcases hashed with rfl | rfl
  · exact represents.slots .token name
  · exact represents.slots .approval name

theorem matched_get (represents : Represents phase keyspace redis)
    (allowed : admits settings Json.Loaded route (phase i) (.redis (.get k))) : Matched route phase keyspace redis i (.get k) := by
  have attends := represents.clients i
  simp only [admits] at allowed
  simp only [Attends, allowed] at attends
  obtain ⟨seen, watched, alone, before, clean, ⟨kind, watchable, name, rfl⟩, _⟩ := attends
  refine ⟨keyspace, ?_, represents.remember ?_⟩
  · rw [Keyspace.exec, text_slot represents watchable name]
    cases held : redis.strings (kind.key name) <;> simp [Redis.exec, held]
  · simp only [Attends, advance, Redis.exec]
    exact ⟨seen, watched, alone, before, clean, ⟨kind, watchable, name, rfl⟩, fun value found _ => found⟩

theorem matched_set (represents : Represents phase keyspace redis)
    (allowed : admits settings Json.Loaded route (phase i) (.redis (.set k value ttl))) :
    Matched route phase keyspace redis i (.set k value ttl) := by
  obtain ⟨_, _, state, rfl⟩ := allowed
  rw [state_key]
  exact ⟨_, rfl, (represents.put_text (show Kind.state.watched from trivial) state value).still rfl⟩

theorem matched_setNx (represents : Represents phase keyspace redis)
    (allowed : admits settings Json.Loaded route (phase i) (.redis (.setNx k value ttl))) :
    Matched route phase keyspace redis i (.setNx k value ttl) := by
  obtain ⟨_, connectionId, _, rfl⟩ := allowed
  rw [lock_key]
  have watchable : Kind.lock.watched := trivial
  cases held : redis.strings (Kind.lock.key connectionId) with
  | none =>
    refine ⟨keyspace.put (Kind.lock.key connectionId) ⟨.text value, true⟩, ?_, ?_⟩
    · simp [Keyspace.exec, text_slot represents watchable, Redis.exec, held]
    · simp only [Redis.exec, held, if_true]
      exact (represents.put_text watchable connectionId value).still rfl
  | some owner =>
    refine ⟨keyspace, ?_, ?_⟩
    · simp [Keyspace.exec, text_slot represents watchable, Redis.exec, held]
    · simp only [Redis.exec, held, reduceCtorEq, if_false]
      exact represents.still rfl

theorem matched_getJson (represents : Represents phase keyspace redis)
    (allowed : admits settings Json.Loaded route (phase i) (.redis (.getJson k))) : Matched route phase keyspace redis i (.getJson k) := by
  obtain ⟨name, rfl⟩ := entry_kind allowed
  refine ⟨keyspace, ?_, represents.still rfl⟩
  rcases represents.slots .entry name with ⟨absent, uncached⟩ | ⟨content, value, present, cached, read⟩
  · simp [Keyspace.exec, Redis.exec, absent, uncached]
  · simp [Keyspace.exec, Redis.exec, present, cached, read]

theorem matched_setJson (represents : Represents phase keyspace redis)
    (allowed : admits settings Json.Loaded route (phase i) (.redis (.setJson k value ttl))) :
    Matched route phase keyspace redis i (.setJson k value ttl) := by
  obtain ⟨entered, loaded, _⟩ := allowed
  obtain ⟨name, rfl⟩ := entry_kind entered
  exact ⟨_, rfl, (represents.put_entry name loaded).still rfl⟩

theorem matched_hash (represents : Represents phase keyspace redis) {kind : Kind} (hashed : kind = .token ∨ kind = .approval) (name : String)
    (filled : mapping ≠ []) : Matched route phase keyspace redis i (.hset (kind.key name) mapping) := by
  have merged (hash : List (String × String)) : Redis.merge hash mapping ≠ [] := by simp [Redis.merge, filled]
  have written : keyspace.exec i (.hset (kind.key name) mapping) =
      some ((), keyspace.put (kind.key name) ⟨.hash (Redis.merge (redis.hashes (kind.key name)) mapping), false⟩) := by
    rw [Keyspace.exec, if_neg filled, hash_slot represents hashed name]
    by_cases empty : redis.hashes (kind.key name) = [] <;> simp [empty]
  exact ⟨_, written, (represents.put_hash hashed name (merged _)).still rfl⟩

theorem matched_hset (represents : Represents phase keyspace redis)
    (allowed : admits settings Json.Loaded route (phase i) (.redis (.hset k mapping))) :
    Matched route phase keyspace redis i (.hset k mapping) := by
  rcases allowed with ⟨connectionId, token, _, rfl, rfl⟩ | ⟨approval, _, rfl, rfl⟩
  · exact matched_hash represents (Or.inl rfl) connectionId (by simp [TokenStore.toMapping])
  · exact matched_hash represents (Or.inr rfl) approval.approvalId (by simp [ApprovalStore.toMapping])

theorem matched_hgetall (represents : Represents phase keyspace redis)
    (allowed : admits settings Json.Loaded route (phase i) (.redis (.hgetall k))) : Matched route phase keyspace redis i (.hgetall k) := by
  have read {kind : Kind} (hashed : kind = .token ∨ kind = .approval) (name : String) :
      keyspace.exec i (.hgetall (kind.key name)) = some (redis.hashes (kind.key name), keyspace) := by
    rw [Keyspace.exec, hash_slot represents hashed name]
    by_cases empty : redis.hashes (kind.key name) = [] <;> simp [empty]
  have found : keyspace.exec i (.hgetall k) = some (redis.hashes k, keyspace) := by
    rcases allowed with ⟨connectionId, _, rfl⟩ | ⟨_, approvalId, _, rfl⟩
    · exact read (Or.inl rfl) connectionId
    · exact read (Or.inr rfl) approvalId
  refine ⟨keyspace, found, represents.remember ((represents.clients i).congr ?_)⟩
  simp only [advance]
  split <;> rfl

theorem matched_delHash (represents : Represents phase keyspace redis)
    (allowed : admits settings Json.Loaded route (phase i) (.redis (.delHash k))) : Matched route phase keyspace redis i (.delHash k) := by
  obtain ⟨connectionId, _, rfl⟩ := allowed
  exact ⟨_, rfl, (represents.del_token connectionId).still rfl⟩

theorem matched_watch (represents : Represents phase keyspace redis)
    (allowed : admits settings Json.Loaded route (phase i) (.redis (.watch k))) : Matched route phase keyspace redis i (.watch k) := by
  obtain ⟨idle, watches⟩ := allowed
  have watchable : ∃ kind : Kind, kind.watched ∧ ∃ name, k = kind.key name := by
    rcases watches with ⟨connectionId, _, rfl⟩ | ⟨state, _, rfl⟩
    · exact ⟨.lock, trivial, connectionId, rfl⟩
    · exact ⟨.state, trivial, state, rfl⟩
  have attends := represents.clients i
  simp only [Attends, idle] at attends
  refine ⟨_, rfl, represents.attend ?_⟩
  simp only [Attends, advance, attends]
  exact ⟨redis.touched k, Function.update_self .., trivial, le_refl _, by simp, watchable, fun _ found => (by cases found)⟩

theorem matched_unwatch (represents : Represents phase keyspace redis) : Matched route phase keyspace redis i .unwatch :=
  ⟨_, rfl, represents.attend rfl⟩

theorem matched_execDel (represents : Represents phase keyspace redis)
    (allowed : admits settings Json.Loaded route (phase i) (.redis (.execDel k))) : Matched route phase keyspace redis i (.execDel k) := by
  obtain ⟨value, watching⟩ := allowed
  have attends := represents.clients i
  simp only [Attends, watching] at attends
  obtain ⟨seen, watched, _, _, clean, ⟨kind, watchable, name, rfl⟩, held⟩ := attends
  have forgotten {p : Phase} (idle : p.watched = none) : Represents (Function.update phase i p) (keyspace.forget i)
      { redis with watched := Function.update redis.watched i none } := by
    apply represents.attend
    simp only [Attends, idle]
  by_cases intact : redis.touched (kind.key name) = seen
  · rw [Matched, redis.execDel_intact i watched intact]
    have present := text_slot represents watchable name
    rw [held value rfl intact] at present
    refine ⟨_, by rw [Keyspace.exec, if_neg (by simp [clean.mpr intact])], ?_⟩
    exact (forgotten rfl).del_text watchable name present
  · rw [Matched, redis.execDel_changed i watched intact]
    have dirty : (keyspace.clients i).dirty = true := by
      rw [← Bool.not_eq_false]
      exact fun undisturbed => intact (clean.mp undisturbed)
    exact ⟨_, by rw [Keyspace.exec, if_pos dirty], forgotten rfl⟩

/-- Every command that a request may send is answered, and answered alike. -/
theorem matched (represents : Represents phase keyspace redis) {command : Command}
    (allowed : admits settings Json.Loaded route (phase i) (.redis command)) : Matched route phase keyspace redis i command := by
  cases command with
  | get k => exact matched_get represents allowed
  | set k value ttl => exact matched_set represents allowed
  | setNx k value ttl => exact matched_setNx represents allowed
  | getJson k => exact matched_getJson represents allowed
  | setJson k value ttl => exact matched_setJson represents allowed
  | hset k mapping => exact matched_hset represents allowed
  | hgetall k => exact matched_hgetall represents allowed
  | delHash k => exact matched_delHash represents allowed
  | watch k => exact matched_watch represents allowed
  | unwatch => exact matched_unwatch represents
  | execDel k => exact matched_execDel represents allowed

omit [DecidableEq ι] in
/-- A key whose time is over goes on both sides. -/
theorem Represents.expire (represents : Represents phase keyspace redis) (present : keyspace.slots k = some slot)
    (mortal : slot.expires = true) : ((redis.strings k).isSome ∨ (redis.caches k).isSome) ∧
      Represents phase (keyspace.del k) (redis.expire k) := by
  obtain ⟨kind, name, rfl⟩ : ∃ (kind : Kind) (name : String), k = kind.key name := by
    by_contra foreign
    simp only [not_exists] at foreign
    rw [represents.foreign k foreign] at present
    cases present
  have texts (watchable : kind.watched) : (redis.strings (kind.key name)).isSome ∧
      Represents phase (keyspace.del (kind.key name)) (redis.expire (kind.key name)) := by
    have slots := text_slot represents watchable name
    rw [present] at slots
    refine ⟨by cases held : redis.strings (kind.key name) <;> simp_all, ?_⟩
    have deleted := represents.del_text watchable name present
    refine ⟨fun other name' => ?_, deleted.foreign, fun j => (deleted.clients j).frame rfl rfl rfl⟩
    have stands := deleted.slots other name'
    rcases eq_or_ne (other.key name') (kind.key name) with same | apart
    · obtain ⟨rfl, rfl⟩ := Kind.key_inj.mp same
      cases other <;> first | exact watchable.elim | exact stands
    · exact stands.frame rfl (Function.update_of_ne apart ..) rfl
  have immortal (hashed : kind = .token ∨ kind = .approval) : False := by
    have slots := hash_slot represents hashed name
    rw [present] at slots
    split at slots
    · cases slots
    · cases slots
      cases mortal
  cases kind with
  | lock | state => exact ⟨Or.inl (texts trivial).1, (texts trivial).2⟩
  | token => exact (immortal (Or.inl rfl)).elim
  | approval => exact (immortal (Or.inr rfl)).elim
  | entry =>
    rcases represents.slots .entry name with ⟨absent, _⟩ | ⟨content, value, _, cached, _⟩
    · rw [absent] at present
      cases present
    · refine ⟨Or.inr (by rw [cached]; rfl), ?_⟩
      rw [Keyspace.del, present]
      refine represents.update ?_ (fun k other => ⟨Redis.write_strings_ne redis other, Function.update_of_ne other .., rfl⟩) fun j => ?_
      · exact Or.inl ⟨rfl, Function.update_self ..⟩
      · exact ((represents.clients j).write _ none).frame rfl rfl rfl

end Commands

section Runs
variable [FastApi] [DecidableEq ι] {settings : AppSettings} {inbounds : ι → Inbound} {around : Surroundings ι}

/-- A server stands for a world with the same log. -/
def Refines (settings : AppSettings) (inbounds : ι → Inbound) (s : Server ι) (w : World ι) : Prop :=
  s.log = w.log ∧ Represents (phases settings Json.Loaded inbounds w.log) s.keyspace w.redis

theorem refines_step (delivers : Delivers Json.Loaded around.environment) :
    Simulates (server around) (system around.environment) (fun i => protocol settings Json.Loaded (inbounds i))
      (fun w => phases settings Json.Loaded inbounds w.log) (Refines settings inbounds) where
  serve := by
    rintro s w i op answer s' ⟨logs, represents⟩ permitted served
    cases served with
    | @redis command reply keyspace executed =>
      have allowed : admits settings.toSettings Json.Loaded (inbounds i).route (phases settings Json.Loaded inbounds w.log i)
          (.redis command) := by
        rcases permitted with ⟨sent, same, _⟩ | ⟨_, allowed⟩
        · cases same
        · exact allowed
      obtain ⟨keyspace', answered, represents'⟩ := matched represents allowed
      cases executed.symm.trans answered
      refine ⟨trivial, _, .redis command, congrArg _ logs, ?_⟩
      rwa [phases, view_call]
    | @outside call answer allowed =>
      rw [logs] at allowed
      have served : Served around.environment i w (.outside call) answer _ := .outside allowed
      refine ⟨served_expected delivers served, _, served, congrArg _ logs, ?_⟩
      rw [phases, view_call]
      exact represents.still rfl
  drift := by
    rintro s w s' ⟨logs, represents⟩ drifted
    cases drifted with
    | expire present mortal allowed =>
      rw [logs] at allowed
      obtain ⟨held, gone⟩ := represents.expire present mortal
      exact ⟨_, .expire held allowed, congrArg _ logs, gone⟩
    | invoice allowed =>
      rw [logs] at allowed
      exact ⟨_, .invoice allowed, congrArg _ logs, represents⟩

/-- The JSON of a response is what is read in its text. -/
def Parses (env : Environment ι) : Prop :=
  ∀ w i request response, env.allows w i (.http request) (.ok response) → response.json = Json.loads response.text

omit [FastApi] [DecidableEq ι] in
theorem Parses.delivers {env : Environment ι} (parses : Parses env) : Delivers Json.Loaded env := by
  intro w i request response body allowed read
  rw [parses w i request response allowed] at read
  exact Json.loads_loaded read

/-- What a run over the keyspace comes to. -/
structure Realized (settings : AppSettings) (inbounds : ι → Inbound) (around : Surroundings ι) (redis : Redis ι)
    (d : Config ι Op Op.Answer (Server ι) (Except Exc Response)) : Prop where
  run : ∃ redis', Reaches (system around.environment) ⟨⟨redis, []⟩, requests settings inbounds⟩ ⟨⟨redis', d.shared.log⟩, d.pool⟩ ∧
    Represents (phases settings Json.Loaded inbounds d.shared.log) d.shared.keyspace redis'
  answered (i : ι) (command : Command) (resume : command.Reply → Prog Op Op.Answer (Except Exc Response)) :
    d.pool i = .await (.redis command) resume → (d.shared.keyspace.exec i command).isSome = true

/-- Every run over the keyspace is one over the store, and no command is refused. -/
theorem keyspace_realizes {keyspace : Keyspace ι} {redis : Redis ι} {d : Config ι Op Op.Answer (Server ι) (Except Exc Response)}
    (parses : Parses around.environment) (represents : Represents (fun _ => {}) keyspace redis)
    (run : Reaches (server around) ⟨⟨keyspace, []⟩, requests settings inbounds⟩ d) : Realized settings inbounds around redis d := by
  have conforming : Conforming (fun i => protocol settings Json.Loaded (inbounds i))
      (fun (w : World ι) => phases settings Json.Loaded inbounds w.log) (fun _ _ _ => True)
      ⟨⟨redis, []⟩, requests settings inbounds⟩ := fun i => respond_meets loaded_closed
  have start : Refines settings inbounds ⟨keyspace, []⟩ ⟨redis, []⟩ := ⟨rfl, represents⟩
  obtain ⟨⟨redis', log⟩, follows⟩ := (refines_step parses.delivers).run (tracks around.environment _ _) start conforming run
  obtain ⟨logs, stands⟩ := follows.related
  have same : log = d.shared.log := logs.symm
  subst same
  refine ⟨⟨redis', follows.reached, stands⟩, fun i command resume pending => ?_⟩
  rcases follows.conforming.admitted pending with ⟨sent, same, _⟩ | ⟨_, allowed⟩
  · cases same
  · obtain ⟨keyspace', answered, _⟩ := matched stands allowed
    rw [answered]
    rfl

end Runs
end Refinement

section Replay
local instance : Library := .sample
local instance : FastApi := .sample
local instance : Json.Numerals := .sample

/-- A message that was sent before, and the key that it was sent under. -/
def resent : Fin 3 → Inbound
  | 0 => ⟨some "r0", some "Bearer key", .sendMessage "ms" ⟨"team", "channel", "hello", "html"⟩ (some "k1")⟩
  | _ => ⟨some "r1", none, .health⟩

def sentBefore : Json := .obj [("message_id", .str "m\n1")]

def sentKey : String := Kind.entry.key (opSendMessage ++ ":" ++ "k1")

def sentStore : Redis (Fin 3) :=
  { Redis.empty with caches := Function.update (fun _ => none) sentKey (some sentBefore) }

def sentKeyspace : Keyspace (Fin 3) := Keyspace.empty.put sentKey ⟨.text (Json.dumps sentBefore), true⟩

/-- Whatever happens, but the JSON of a response is read in its text. -/
def reading (ι : Type) : Surroundings ι where
  allows _ _ call answer := match call, answer with
    | .http _, .ok response => response.json = Json.loads response.text
    | _, _ => True
  expires _ _ := True
  changes _ _ _ := True

/-- The second request is answered from the text that the first one left. -/
theorem keyspace_realizes_resent : Parses (reading (Fin 3)).environment ∧
    Represents (fun _ => {}) sentKeyspace sentStore ∧
    ∃ d, Reaches (server (reading (Fin 3))) ⟨⟨sentKeyspace, []⟩, requests .sample resent⟩ d ∧
      d.pool 0 = .done (.ok ⟨⟨200, .json (.obj [("message_id", .str "m\n1")])⟩, some "r0"⟩) ∧
      Realized .sample resent (reading (Fin 3)) sentStore d := by
  have loaded : Json.Loaded sentBefore := .obj (by decide) (by simpa using Json.Loaded.str "m\n1")
  have parses : Parses (reading (Fin 3)).environment := fun _ _ _ _ allowed => allowed
  have represents : Represents (fun _ => {}) sentKeyspace sentStore := empty_represents.put_entry _ loaded
  have executed : sentKeyspace.exec (0 : Fin 3) (.getJson sentKey) = some (some sentBefore, sentKeyspace) := by
    simp [Keyspace.exec, sentKeyspace, Keyspace.put, Json.loads_dumps loaded]
  have step : Reaches (server (reading (Fin 3))) ⟨⟨sentKeyspace, []⟩, requests .sample resent⟩ ⟨⟨sentKeyspace, _⟩, _⟩ :=
    (Run.refl _).snoc trivial (.serve rfl (Server.Served.redis executed))
  exact ⟨parses, represents, _, step, rfl, keyspace_realizes parses represents step⟩

end Replay
end OpenClaw
