import OpenClawService.Authorization.Steps

/-! The state of an authorization is consumed once, and the token goes to the
connection that the state was issued for. -/
namespace OpenClaw.Authorization
open Interleaving OAuthStateStore

/-- The callback has asked for the token of its code. -/
def Exchanged {ι : Type} (settings : Settings) (jobs : ι → Job) (log : List (Entry ι)) (i : ι) : Prop :=
  ∃ code state answer, jobs i = .callback code state ∧ Entry.call i (.outside (exchange settings code)) answer ∈ log

/-- Where what the log tells is on record. -/
structure Recorded {ι : Type} [DecidableEq ι] (settings : Settings) (jobs : ι → Job) (log : List (Entry ι)) : Prop where
  issuer : Issued log state connectionId → ∃ i, phase jobs log i = .saved connectionId state
  writer : Entry.call i (.redis command) answer ∈ log → command.modifiesHash = some k →
    ∃ state connectionId, phase jobs log i = .stored state connectionId ∧ k = TokenStore.key connectionId
  exchanged : (phase jobs log i).settled = some (state, connectionId) → Exchanged settings jobs log i
  stored : phase jobs log i = .stored state connectionId →
    ∃ mapping, Entry.call i (.redis (.hset (TokenStore.key connectionId) mapping)) () ∈ log

/-- What a callback does that got the connection of its state: it exchanges its code, and ends
with the token stored and the connection returned, or with the failure of the exchange. -/
def Redeems {ι : Type} (settings : Settings) (jobs : ι → Job) (log : List (Entry ι)) (i : ι) (connectionId : String) :
    Prog Op Op.Answer (Except Exc (AuthUrlResult ⊕ String)) → Prop
  | .await op _ => (∃ code state, jobs i = .callback code state ∧ op = .outside (exchange settings code)) ∨
      Exchanged settings jobs log i ∧ ((∃ request, op = .outside (.http request)) ∨ op = .outside .now ∨
        ∃ mapping, op = .redis (.hset (TokenStore.key connectionId) mapping))
  | .done (.ok result) => result = .inr connectionId ∧
      ∃ mapping, Entry.call i (.redis (.hset (TokenStore.key connectionId) mapping)) () ∈ log
  | .done (.error exc) => Exchanged settings jobs log i ∧ ∀ text, exc ≠ .connectionMissingError text

/-- What the authorization promises of a configuration. -/
structure Consumed {ι : Type} [DecidableEq ι] (settings : Settings) (jobs : ι → Job)
    (c : ServiceConfig ι (Except Exc (AuthUrlResult ⊕ String))) : Prop where
  /-- A state yields at most one exchange. -/
  exchanged : (exchanges jobs c.shared.log).Nodup
  /-- Only callbacks of issued states exchange their code. -/
  known : c.pool i = .await (.outside (.fetchToken session url code redirectUri)) resume →
    ∃ state connectionId, (jobs i).state = some state ∧ Issued c.shared.log state connectionId
  /-- A state is issued for one connection, to whoever built its URL. -/
  bound : Issued c.shared.log state connectionId → Issued c.shared.log state other → connectionId = other
  issuer : Issued c.shared.log state connectionId →
    ∃ i url, jobs i = .build connectionId ∧ c.pool i = .done (.ok (.inl ⟨url, state⟩))
  /-- The token store is written by callbacks that succeed, and under the right connection. -/
  written : Entry.call i (.redis command) answer ∈ c.shared.log → command.modifiesHash = some k →
    ∃ state connectionId, (jobs i).state = some state ∧ Issued c.shared.log state connectionId ∧
      k = TokenStore.key connectionId ∧ c.pool i = .done (.ok (.inr connectionId))
  unwritten : c.pool i = .done (.error error) → Entry.call i (.redis command) answer ∈ c.shared.log →
    command.modifiesHash = none
  /-- Of the pops of an unexpired state, one gets the connection once none is under way. -/
  redeemed : Issued c.shared.log state connectionId → .expired (key state) ∉ c.shared.log →
    (∃ i, Late i state c.shared.log) → (∀ i, (phase jobs c.shared.log i).popping ≠ some state) →
    ∃ i, (jobs i).state = some state ∧ Redeems settings jobs c.shared.log i connectionId (c.pool i) ∧
      ∀ j, j ≠ i → (jobs j).state = some state → phase jobs c.shared.log j ≠ .presenting state →
        c.pool j = .done (.error stateInvalid)

section Safety
variable {ι : Type} [DecidableEq ι] {settings : Settings} {jobs : ι → Job} {log : List (Entry ι)} {i : ι} {op : Op}

omit [DecidableEq ι] in
theorem Exchanged.later (exchanged : Exchanged settings jobs log i) (entry : Entry ι) : Exchanged settings jobs (entry :: log) i := by
  obtain ⟨code, state, answer, job, member⟩ := exchanged
  exact ⟨code, state, answer, job, List.mem_cons_of_mem _ member⟩

/-- Only the exchange settles a callback. -/
theorem Phase.advance_settled {p : Phase} {answer : op.Answer} (settled : (advance p op answer).settled = some (state, connectionId)) :
    p.settled = some (state, connectionId) ∨ p = .won state connectionId := by
  unfold advance at settled
  split at settled <;> (try split at settled) <;> simp_all [Phase.settled]

theorem Phase.advance_becomes_stored {p : Phase} {answer : op.Answer} (stored : advance p op answer = .stored state connectionId) :
    p = .stored state connectionId ∨ p = .exchanged state connectionId ∧ ∃ k mapping, op = .redis (.hset k mapping) := by
  unfold advance at stored
  split at stored <;> (try split at stored) <;> simp_all

theorem Recorded.served (recorded : Recorded settings jobs log) (admitted : admits settings (jobs i) (phase jobs log i) op)
    (answer : op.Answer) : Recorded settings jobs (.call i op answer :: log) := by
  constructor
  case issuer =>
    rintro state connectionId ⟨j, ttl, member⟩
    rcases List.mem_cons.mp member with same | before
    · cases same
      refine ⟨i, ?_⟩
      rw [phase_own]
      cases at_phase : phase jobs log i with
      | drawn other drawn =>
        rw [at_phase] at admitted
        obtain ⟨ttl, same⟩ := admitted
        simp only [Op.redis.injEq, Command.set.injEq, key_inj] at same
        obtain ⟨rfl, rfl, _⟩ := same
        rfl
      | read _ value =>
        rw [at_phase] at admitted
        cases value <;> cases admitted
      | _ =>
        rw [at_phase] at admitted
        simp [admits] at admitted
    · obtain ⟨k, saved⟩ := recorded.issuer ⟨j, ttl, before⟩
      refine ⟨k, ?_⟩
      rcases eq_or_ne k i with rfl | other
      · rw [phase_own, saved, Phase.advance_saved]
      · rw [phase_other other, saved]
  case writer =>
    intro j command reply k member modifies
    rcases List.mem_cons.mp member with same | before
    · cases same
      rw [phase_own]
      cases at_phase : phase jobs log i with
      | exchanged state connectionId =>
        rw [at_phase] at admitted
        simp only [admits, reduceCtorEq, exists_false, false_or] at admitted
        obtain ⟨mapping, same⟩ := admitted
        cases same
        cases modifies
        exact ⟨state, connectionId, rfl, rfl⟩
      | read _ value =>
        rw [at_phase] at admitted
        cases value <;> (cases admitted; cases modifies)
      | drawn =>
        rw [at_phase] at admitted
        obtain ⟨ttl, same⟩ := admitted
        cases same
        cases modifies
      | presenting | watching =>
        rw [at_phase] at admitted
        cases admitted
        cases modifies
      | _ =>
        rw [at_phase] at admitted
        simp [admits] at admitted
    · obtain ⟨state, connectionId, stored, same⟩ := recorded.writer before modifies
      refine ⟨state, connectionId, ?_, same⟩
      rcases eq_or_ne j i with rfl | other
      · rw [phase_own, stored, Phase.advance_stored]
      · rw [phase_other other, stored]
  case exchanged =>
    intro j state connectionId settled
    rcases eq_or_ne j i with rfl | other
    · rw [phase_own] at settled
      rcases Phase.advance_settled settled with before | won
      · exact (recorded.exchanged before).later _
      · rw [won] at admitted
        obtain ⟨code, presented, job, rfl⟩ := admitted
        exact ⟨code, presented, answer, job, List.mem_cons_self⟩
    · rw [phase_other other] at settled
      exact (recorded.exchanged settled).later _
  case stored =>
    intro j state connectionId stored
    have older (found : ∃ mapping, Entry.call j (.redis (.hset (TokenStore.key connectionId) mapping)) () ∈ log) :
        ∃ mapping, Entry.call j (.redis (.hset (TokenStore.key connectionId) mapping)) () ∈ Entry.call i op answer :: log := by
      obtain ⟨mapping, member⟩ := found
      exact ⟨mapping, List.mem_cons_of_mem _ member⟩
    rcases eq_or_ne j i with rfl | other
    · rw [phase_own] at stored
      rcases Phase.advance_becomes_stored stored with before | ⟨exchanged, k, mapping, rfl⟩
      · exact older (recorded.stored before)
      · rw [exchanged] at admitted
        rcases admitted with ⟨request, same⟩ | same | ⟨mapping', same⟩
        · cases same
        · cases same
        · cases same
          exact ⟨mapping, List.mem_cons_self⟩
    · rw [phase_other other] at stored
      exact older (recorded.stored stored)

theorem Recorded.drifted {w w' : World ι} (recorded : Recorded settings jobs w.log) (drifted : Drifted env w w') :
    Recorded settings jobs w'.log := by
  cases drifted with
  | expire | invoice =>
    constructor
    case issuer =>
      intro state connectionId issued
      rw [issued_drift fun _ _ _ same => by cases same] at issued
      exact recorded.issuer issued
    case writer =>
      intro i command answer k member
      simp only [List.mem_cons, reduceCtorEq, false_or] at member
      exact recorded.writer member
    case exchanged => exact fun settled => (recorded.exchanged settled).later _
    case stored =>
      intro i state connectionId stored
      obtain ⟨mapping, member⟩ := recorded.stored stored
      exact ⟨mapping, List.mem_cons_of_mem _ member⟩

variable [Library] {c : ServiceConfig ι (Except Exc (AuthUrlResult ⊕ String))}

/-- Any number of requests, each of which builds a URL or handles a callback. -/
def requests (settings : Settings) (jobs : ι → Job) : ι → Prog Op Op.Answer (Except Exc (AuthUrlResult ⊕ String)) :=
  fun i => ((jobs i).run settings).run

omit [Library] in
/-- A request with nothing left to do has ended. -/
theorem ended_of_idle (conforming : Conforming (fun i => protocol settings (jobs i)) (fun w => phase jobs w.log) (fun _ => Ended) c)
    (idle : ∀ op, ¬ admits settings (jobs i) (phase jobs c.shared.log i) op) :
    ∃ result, c.pool i = .done result ∧ Ended result (phase jobs c.shared.log i) := by
  cases ended : c.pool i with
  | done result => exact ⟨result, rfl, conforming.finished ended⟩
  | await op resume => exact (idle op (conforming.admitted ended)).elim

theorem consumed_run {redis : Redis ι} {env : Environment ι} (fresh : FreshStates env)
    (unsaved : ∀ state, redis.strings (key state) = none) (sane : redis.WellWatched)
    (run : Reaches (system env) ⟨⟨redis, []⟩, requests settings jobs⟩ c) :
    (Inv jobs c.shared ∧ Recorded settings jobs c.shared.log) ∧
      Conforming (fun i => protocol settings (jobs i)) (fun w => phase jobs w.log) (fun _ => Ended) c := by
  have tracked : Tracks (system env) (fun i => protocol settings (jobs i)) (fun w => phase jobs w.log) := by
    simpa only [view_protocol] using tracks env (fun i => protocol settings (jobs i)) (fun i => (jobs i).start)
  apply Conforming.run (I := fun w => Inv jobs w ∧ Recorded settings jobs w.log) tracked ?_ ?_ run ⟨.start unsaved sane, ?_⟩
  · exact fun i => job_meets (jobs i)
  · rintro c i op resume answer w ⟨inv, recorded⟩ _ _ _ admitted served
    refine ⟨trivial, inv.served fresh admitted served, ?_⟩
    cases served with
    | redis | outside => exact recorded.served admitted _
  · rintro c w ⟨inv, recorded⟩ _ drifted
    exact ⟨inv.drifted drifted, recorded.drifted drifted⟩
  · constructor
    · rintro state connectionId ⟨_, _, member⟩
      exact absurd member List.not_mem_nil
    · exact fun member => absurd member List.not_mem_nil
    · intro i state connectionId settled
      cases job : jobs i <;> simp [phase, view, job, Job.start, Phase.settled] at settled
    · intro i state connectionId stored
      cases job : jobs i <;> simp [phase, view, job, Job.start] at stored

section Reached
variable {c : ServiceConfig ι (Except Exc (AuthUrlResult ⊕ String))}
  (conforming : Conforming (fun i => protocol settings (jobs i)) (fun w => phase jobs w.log) (fun _ => Ended) c)

omit [Library] in
/-- A callback that has redeemed its state presents it, and it was issued. -/
theorem redeemed_issued (inv : Inv jobs w) (redeemed : (phase jobs w.log i).redeemed = some (state, connectionId)) :
    (jobs i).state = some state ∧ Issued w.log state connectionId := by
  refine ⟨?_, ((inv.sound i).redeemed redeemed).1⟩
  rw [← phase_presented jobs w.log i]
  cases at_phase : phase jobs w.log i <;> rw [at_phase] at redeemed <;> cases redeemed <;> rfl

include conforming

omit [Library] in
theorem written_by (inv : Inv jobs c.shared) (recorded : Recorded settings jobs c.shared.log) {command : Command} {answer : command.Reply}
    (member : Entry.call i (.redis command) answer ∈ c.shared.log) (modifies : command.modifiesHash = some k) :
    ∃ state connectionId, (jobs i).state = some state ∧ Issued c.shared.log state connectionId ∧
      k = TokenStore.key connectionId ∧ c.pool i = .done (.ok (.inr connectionId)) := by
  obtain ⟨state, connectionId, stored, rfl⟩ := recorded.writer member modifies
  obtain ⟨presents, issued⟩ := redeemed_issued inv (i := i) (by rw [stored, Phase.redeemed])
  refine ⟨state, connectionId, presents, issued, rfl, ?_⟩
  obtain ⟨result, done, ended⟩ := ended_of_idle conforming (i := i) (by simp [stored, admits])
  rw [stored] at ended
  cases ended
  exact done

omit [Library] in
theorem exchanging_won (pending : c.pool i = .await (.outside (.fetchToken session url code redirectUri)) resume) :
    ∃ state connectionId, phase jobs c.shared.log i = .won state connectionId := by
  have admitted : admits settings (jobs i) (phase jobs c.shared.log i) (.outside (.fetchToken session url code redirectUri)) :=
    conforming.admitted pending
  cases at_phase : phase jobs c.shared.log i with
  | won state connectionId => exact ⟨state, connectionId, rfl⟩
  | read _ value =>
    rw [at_phase] at admitted
    cases value <;> cases admitted
  | _ =>
    rw [at_phase] at admitted
    simp [admits] at admitted

omit [Library] in
theorem issued_by (recorded : Recorded settings jobs c.shared.log) (issued : Issued c.shared.log state connectionId) :
    ∃ i url, jobs i = .build connectionId ∧ c.pool i = .done (.ok (.inl ⟨url, state⟩)) := by
  obtain ⟨i, saved⟩ := recorded.issuer issued
  obtain ⟨result, done, ended⟩ := ended_of_idle conforming (i := i) (by simp [saved, admits])
  have builds := phase_builds jobs c.shared.log i
  rw [saved] at ended builds
  cases ended with
  | built =>
    cases job : jobs i with
    | callback => simp [job, Job.connectionId, Phase.builds] at builds
    | build other =>
      simp only [job, Job.connectionId, Phase.builds, Option.some.injEq] at builds
      subst builds
      exact ⟨i, _, job, done⟩

omit [Library] in
/-- A callback that has begun and neither holds its state nor has redeemed it was refused. -/
theorem refused_of (presents : (jobs i).state = some state) (started : phase jobs c.shared.log i ≠ .presenting state)
    (unpopping : (phase jobs c.shared.log i).popping ≠ some state)
    (unredeemed : ∀ connectionId, (phase jobs c.shared.log i).redeemed ≠ some (state, connectionId)) :
    c.pool i = .done (.error stateInvalid) := by
  rw [← phase_presented jobs c.shared.log i] at presents
  have refused : phase jobs c.shared.log i = .refused state := by
    cases at_phase : phase jobs c.shared.log i with
    | building | drawn | saved =>
      rw [at_phase] at presents
      cases presents
    | presenting =>
      rw [at_phase] at presents
      cases presents
      exact (started at_phase).elim
    | watching | read =>
      rw [at_phase] at presents
      cases presents
      exact (unpopping (by rw [at_phase, Phase.popping])).elim
    | refused =>
      rw [at_phase] at presents
      cases presents
      rfl
    | won | failed | exchanged | stored =>
      rw [at_phase] at presents
      cases presents
      exact (unredeemed _ (by rw [at_phase, Phase.redeemed])).elim
  obtain ⟨result, done, ended⟩ := ended_of_idle conforming (i := i) (by simp [refused, admits])
  rw [refused] at ended
  cases ended
  exact done

omit [Library] in
/-- A callback that has redeemed its state goes on, or has gone on, to the exchange. -/
theorem redeems_of (recorded : Recorded settings jobs c.shared.log)
    (redeemed : (phase jobs c.shared.log i).redeemed = some (state, connectionId)) :
    Redeems settings jobs c.shared.log i connectionId (c.pool i) := by
  have asked (settled : (phase jobs c.shared.log i).settled = some (state, connectionId)) :
    Exchanged settings jobs c.shared.log i := recorded.exchanged settled
  cases standing : c.pool i with
  | await op resume =>
    have admitted : admits settings (jobs i) (phase jobs c.shared.log i) op := conforming.admitted standing
    cases at_phase : phase jobs c.shared.log i with
    | won =>
      rw [at_phase] at admitted
      exact Or.inl admitted
    | exchanged =>
      rw [at_phase] at admitted asked redeemed
      cases redeemed
      exact Or.inr ⟨asked rfl, admitted⟩
    | failed | stored =>
      rw [at_phase] at admitted
      exact admitted.elim
    | _ =>
      rw [at_phase] at redeemed
      cases redeemed
  | done result =>
    have ended : Ended result (phase jobs c.shared.log i) := conforming.finished standing
    generalize at_phase : phase jobs c.shared.log i = p at ended redeemed asked
    cases ended with
    | built | refused => cases redeemed
    | failed =>
      cases redeemed
      exact ⟨asked rfl, nofun⟩
    | unread internal =>
      cases redeemed
      refine ⟨asked rfl, ?_⟩
      rintro text rfl
      cases internal
    | stored =>
      cases redeemed
      exact ⟨rfl, recorded.stored at_phase⟩

end Reached

omit [Library] in
/-- An unexpired state has been redeemed, once a pop of it has begun and none is under way. -/
theorem redeemed_once {w : World ι} (inv : Inv jobs w) (issued : Issued w.log state connectionId)
    (unexpired : .expired (key state) ∉ w.log) (late : Late i state w.log)
    (unpopping : ∀ i, (phase jobs w.log i).popping ≠ some state) :
    ∃ winner, (phase jobs w.log winner).redeemed = some (state, connectionId) := by
  by_contra untaken
  have unredeemed (j : ι) (other : String) : (phase jobs w.log j).redeemed ≠ some (state, other) := by
    intro found
    obtain rfl := inv.unique issued ((inv.sound j).redeemed found).1
    exact untaken ⟨j, found⟩
  obtain ⟨waiting, _⟩ := (inv.live issued unexpired unredeemed).2 i late
  rcases waiting with watching | read
  · exact unpopping i (by rw [watching, Phase.popping])
  · exact unpopping i (by rw [read, Phase.popping])

theorem consumed_once {redis : Redis ι} {env : Environment ι} (fresh : FreshStates env)
    (unsaved : ∀ state, redis.strings (key state) = none) (sane : redis.WellWatched)
    (run : Reaches (system env) ⟨⟨redis, []⟩, requests settings jobs⟩ c) : Consumed settings jobs c := by
  obtain ⟨⟨inv, recorded⟩, conforming⟩ := consumed_run fresh unsaved sane run
  constructor
  case exchanged => exact inv.once
  case known =>
    intro i session url code redirectUri resume pending
    obtain ⟨state, connectionId, won⟩ := exchanging_won conforming pending
    exact ⟨state, connectionId, redeemed_issued inv (by rw [won, Phase.redeemed])⟩
  case bound => exact inv.unique
  case issuer => exact issued_by conforming recorded
  case written => exact written_by conforming inv recorded
  case unwritten =>
    intro i error command answer failed member
    cases modifies : command.modifiesHash with
    | none => rfl
    | some k =>
      obtain ⟨_, _, _, _, _, succeeded⟩ := written_by conforming inv recorded member modifies
      rw [failed] at succeeded
      cases succeeded
  case redeemed =>
    rintro state connectionId issued unexpired ⟨i, late⟩ unpopping
    obtain ⟨winner, won⟩ := redeemed_once inv issued unexpired late unpopping
    refine ⟨winner, (redeemed_issued inv won).1, redeems_of conforming recorded won, fun j apart presents started => ?_⟩
    exact refused_of conforming presents started (unpopping j) fun other found => apart (inv.winner found won)

end Safety

/-- The environment that does anything, but draws no state twice. -/
def fresh (ι : Type) : Environment ι where
  allows w _ call answer := match call, answer with
    | .tokenUrlsafe _, state => ¬ Drawn w.log state
    | _, _ => True
  expires _ _ := True
  changes _ _ _ := True

section Replay
local instance : Library := .sample

/-- One authorization, whose callback is called twice. -/
def visits : Fin 3 → Job
  | 0 => .build ""
  | 1 | 2 => .callback "code" "state"

def replies : (call : Outside) → call.Answer
  | .tokenUrlsafe _ => "state"
  | .fetchToken .. => .ok (.obj [("access_token", .str "a1"), ("refresh_token", .str "r1"), ("expires_at", .num 1 0)])
  | call => call.silence

def visited : ServiceConfig (Fin 3) (Except Exc (AuthUrlResult ⊕ String)) :=
  ⟨⟨Redis.empty, []⟩, requests .sample visits⟩

/-- Both callbacks read the state before either takes it. -/
def replay : List (Move (Fin 3)) :=
  [.outside 0 replies, .redis 0, .redis 1, .redis 2, .redis 1, .redis 2, .redis 1, .redis 2,
    .outside 1 replies, .outside 1 replies, .redis 1]

theorem state_replayed : exchanges visits (replay.foldl play visited).shared.log = ["state"] ∧
    (replay.foldl play visited).pool 2 = .done (.error stateInvalid) ∧
    Consumed .sample visits (replay.foldl play visited) := by
  have run : Reaches (system (fresh _)) visited (replay.foldl play visited) := by
    apply plays_run
    refine ⟨⟨trivial, ?_⟩, trivial, trivial, trivial, trivial, trivial, trivial, trivial,
      ⟨trivial, trivial⟩, ⟨trivial, trivial⟩, trivial, trivial⟩
    rintro ⟨j, nbytes, member⟩
    exact List.not_mem_nil member
  exact ⟨rfl, rfl, consumed_once (fun _ _ _ _ allowed => allowed) (fun _ => rfl) Redis.empty_wellWatched run⟩

end Replay
end OpenClaw.Authorization
