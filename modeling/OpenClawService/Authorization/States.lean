import OpenClawService.Authorization.Protocol

/-! What the log of an authorization tells: which states were drawn and saved,
where each request stands, and who asked for a token. -/
namespace OpenClaw.Authorization
open Interleaving OAuthStateStore
variable {ι : Type}

/-- The state was saved for the connection. -/
def Issued (log : List (Entry ι)) (state connectionId : String) : Prop :=
  ∃ j ttl, Entry.call j (.redis (.set (key state) connectionId ttl)) () ∈ log

def Drawn (log : List (Entry ι)) (state : String) : Prop :=
  ∃ j nbytes, Entry.call j (.outside (.tokenUrlsafe nbytes)) state ∈ log

/-- The worker began its pop when the state had been saved. -/
def Late (i : ι) (state : String) : List (Entry ι) → Prop
  | [] => False
  | .call j (.redis (.watch k)) _ :: rest =>
    Late i state rest ∨ j = i ∧ k = key state ∧ ∃ connectionId, Issued rest state connectionId
  | _ :: rest => Late i state rest

/-- The states whose callbacks asked for a token, once for each request. -/
def exchanges (jobs : ι → Job) : List (Entry ι) → List String
  | [] => []
  | .call i (.outside (.fetchToken ..)) _ :: rest => (jobs i).state.toList ++ exchanges jobs rest
  | _ :: rest => exchanges jobs rest

/-- No state is ever drawn twice. -/
def FreshStates (env : Environment ι) : Prop :=
  ∀ w i nbytes state, env.allows w i (.tokenUrlsafe nbytes) state → ¬ Drawn w.log state

namespace Phase

/-- The state that a callback presents, and what it got for it. -/
def redeemed : Phase → Option (String × String)
  | .won state connectionId | .failed state connectionId | .exchanged state connectionId
  | .stored state connectionId => some (state, connectionId)
  | _ => none

/-- The callback has asked for a token. -/
def settled : Phase → Option (String × String)
  | .failed state connectionId | .exchanged state connectionId | .stored state connectionId =>
    some (state, connectionId)
  | _ => none

/-- The state of a pop that is under way. -/
def popping : Phase → Option String
  | .watching state | .read state _ => some state
  | _ => none

/-- The state that a callback was called with. -/
def presented : Phase → Option String
  | .building _ | .drawn .. | .saved .. => none
  | .presenting state | .watching state | .read state _ | .refused state | .won state _ | .failed state _
  | .exchanged state _ | .stored state _ => some state

/-- The connection that a state is built for. -/
def builds : Phase → Option String
  | .building connectionId | .drawn connectionId _ | .saved connectionId _ => some connectionId
  | _ => none

theorem settled_redeemed {p : Phase} (found : p.settled = some (state, connectionId)) :
    p.redeemed = some (state, connectionId) := by
  cases p <;> simp_all [redeemed, settled]

theorem advance_presented (p : Phase) (op : Op) (answer) :
    (advance p op answer).presented = p.presented := by
  unfold advance
  split <;> (try split) <;> rfl

theorem advance_builds (p : Phase) (op : Op) (answer) : (advance p op answer).builds = p.builds := by
  unfold advance
  split <;> (try split) <;> rfl

/-- A request that is over stays where it ended. -/
theorem advance_saved (connectionId state : String) (op : Op) (answer) :
    advance (.saved connectionId state) op answer = .saved connectionId state := by
  cases op with
  | redis command => cases command <;> rfl
  | outside call => cases call <;> rfl

theorem advance_stored (state connectionId : String) (op : Op) (answer) :
    advance (.stored state connectionId) op answer = .stored state connectionId := by
  cases op with
  | redis command => cases command <;> rfl
  | outside call => cases call <;> rfl

end Phase

variable [DecidableEq ι]

def phase (jobs : ι → Job) (log : List (Entry ι)) : ι → Phase :=
  view (fun _ => ⟨fun _ _ => True, fun _ _ _ => True, advance⟩) (fun i => (jobs i).start) log

theorem view_protocol (settings : Settings) (jobs : ι → Job) :
    view (fun i => protocol settings (jobs i)) (fun i => (jobs i).start) = phase jobs := by
  refine view_congr ?_ _
  exact fun _ => rfl

section Log
variable {log : List (Entry ι)} {i j : ι} {op : Op} {answer : op.Answer}

omit [DecidableEq ι] in
theorem issued_other (other : ∀ k value ttl, op ≠ .redis (.set k value ttl)) :
    Issued (.call i op answer :: log) = Issued log := by
  funext state connectionId
  simp only [Issued, List.mem_cons, eq_iff_iff]
  constructor
  · rintro ⟨j, ttl, same | found⟩
    · cases same
      exact (other _ _ _ rfl).elim
    · exact ⟨j, ttl, found⟩
  · rintro ⟨j, ttl, found⟩
    exact ⟨j, ttl, Or.inr found⟩

omit [DecidableEq ι] in
theorem issued_set : Issued (.call i (.redis (.set (key saved) value ttl)) () :: log) state connectionId ↔
    (state = saved ∧ connectionId = value) ∨ Issued log state connectionId := by
  simp only [Issued, List.mem_cons]
  constructor
  · rintro ⟨j, ttl, same | found⟩
    · simp only [Entry.call.injEq, Op.redis.injEq, Command.set.injEq, key_inj] at same
      exact Or.inl ⟨same.2.1.1, same.2.1.2.1⟩
    · exact Or.inr ⟨j, ttl, found⟩
  · rintro (⟨rfl, rfl⟩ | ⟨j, ttl, found⟩)
    · exact ⟨i, ttl, Or.inl rfl⟩
    · exact ⟨j, ttl, Or.inr found⟩

omit [DecidableEq ι] in
theorem issued_drift {entry : Entry ι} (drift : ∀ j op answer, entry ≠ .call j op answer) :
    Issued (entry :: log) = Issued log := by
  funext state connectionId
  simp [Issued, fun j op answer => (drift j op answer).symm]

omit [DecidableEq ι] in
theorem drawn_drift {entry : Entry ι} (drift : ∀ j op answer, entry ≠ .call j op answer) :
    Drawn (entry :: log) = Drawn log := by
  funext state
  simp [Drawn, fun j op answer => (drift j op answer).symm]

omit [DecidableEq ι] in
theorem drawn_other (other : ∀ nbytes, op ≠ .outside (.tokenUrlsafe nbytes)) :
    Drawn (.call i op answer :: log) = Drawn log := by
  funext state
  simp only [Drawn, List.mem_cons, eq_iff_iff]
  constructor
  · rintro ⟨j, nbytes, same | found⟩
    · cases same
      exact (other _ rfl).elim
    · exact ⟨j, nbytes, found⟩
  · rintro ⟨j, nbytes, found⟩
    exact ⟨j, nbytes, Or.inr found⟩

omit [DecidableEq ι] in
theorem drawn_tokenUrlsafe {nbytes : Nat} {drawn : String} :
    Drawn (.call i (.outside (.tokenUrlsafe nbytes)) drawn :: log) state ↔ state = drawn ∨ Drawn log state := by
  simp only [Drawn, List.mem_cons]
  constructor
  · rintro ⟨j, n, same | found⟩
    · cases same
      exact Or.inl rfl
    · exact Or.inr ⟨j, n, found⟩
  · rintro (rfl | ⟨j, n, found⟩)
    · exact ⟨i, nbytes, Or.inl rfl⟩
    · exact ⟨j, n, Or.inr found⟩

omit [DecidableEq ι] in
theorem late_other (other : ∀ k, op ≠ .redis (.watch k)) :
    Late j state (.call i op answer :: log) ↔ Late j state log := by
  cases op with
  | outside call => rfl
  | redis command =>
    cases command with
    | watch k => exact (other k rfl).elim
    | _ => rfl

omit [DecidableEq ι] in
/-- Without a save there is nothing to be late for. -/
theorem late_issued (late : Late i state log) : ∃ connectionId, Issued log state connectionId := by
  induction log with
  | nil => exact late.elim
  | cons entry rest ih =>
    have older (found : ∃ connectionId, Issued rest state connectionId) :
        ∃ connectionId, Issued (entry :: rest) state connectionId := by
      obtain ⟨connectionId, j, ttl, member⟩ := found
      exact ⟨connectionId, j, ttl, List.mem_cons_of_mem _ member⟩
    cases entry with
    | expired | invoice => exact older (ih late)
    | call j op answer =>
      cases op with
      | outside call => exact older (ih late)
      | redis command =>
        cases command with
        | watch k =>
          rcases late with late | ⟨_, _, found⟩
          · exact older (ih late)
          · exact older found
        | _ => exact older (ih late)

omit [DecidableEq ι] in
theorem exchanges_other {jobs : ι → Job}
    (other : ∀ session url code redirectUri, op ≠ .outside (.fetchToken session url code redirectUri)) :
    exchanges jobs (.call i op answer :: log) = exchanges jobs log := by
  cases op with
  | redis command => rfl
  | outside call =>
    cases call with
    | fetchToken session url code redirectUri => exact (other _ _ _ _ rfl).elim
    | _ => rfl

theorem phase_own {jobs : ι → Job} :
    phase jobs (.call i op answer :: log) i = advance (phase jobs log i) op answer := view_own ..

theorem phase_other {jobs : ι → Job} (other : j ≠ i) :
    phase jobs (.call i op answer :: log) j = phase jobs log j := view_other _ _ _ other ..

/-- A callback presents its own state all along. -/
theorem phase_presented (jobs : ι → Job) (log : List (Entry ι)) (i : ι) :
    (phase jobs log i).presented = (jobs i).state := by
  refine view_keeps (I := fun p : Phase => p.presented = (jobs i).state) _ _ log ?_ fun p op answer kept => ?_
  · cases jobs i <;> simp [Job.start, Job.state, Phase.presented]
  · exact (Phase.advance_presented p op answer).trans kept

theorem phase_builds (jobs : ι → Job) (log : List (Entry ι)) (i : ι) :
    (phase jobs log i).builds = (jobs i).connectionId := by
  refine view_keeps (I := fun p : Phase => p.builds = (jobs i).connectionId) _ _ log ?_ fun p op answer kept => ?_
  · cases jobs i <;> simp [Job.start, Job.connectionId, Phase.builds]
  · exact (Phase.advance_builds p op answer).trans kept

end Log

end OpenClaw.Authorization
