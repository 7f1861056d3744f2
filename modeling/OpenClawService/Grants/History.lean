import OpenClawService.Grants.Protocol

/-! What the log tells of one connection: its authorizations, its deletions, and
which of them a call has not seen. -/
namespace OpenClaw.Grants
open Interleaving

/-- Something has happened after the newest entry that resets it. -/
def Since {ι : Type} (happens resets : Entry ι → Prop) : List (Entry ι) → Prop
  | [] => False
  | entry :: rest => happens entry ∨ (¬ resets entry ∧ Since happens resets rest)

/-- An entry that neither happens nor resets is no news. -/
theorem Since.skip {ι : Type} {happens resets : Entry ι → Prop} {log : List (Entry ι)} {entry : Entry ι} (quiet : ¬ happens entry) (kept : ¬ resets entry) :
    Since happens resets (entry :: log) ↔ Since happens resets log := by
  simp only [Since, quiet, kept, false_or, not_false_eq_true, true_and]

section History
variable {ι : Type} {connectionId : String} {jobs : ι → Job}

/-- An authorization stores its token for the connection. -/
def Authorized (connectionId : String) (jobs : ι → Job) : Entry ι → Prop
  | .call i (.redis (.hset k _)) _ => (jobs i).authorizes = true ∧ k = TokenStore.key connectionId
  | _ => False

/-- The worker deletes the token of the connection. -/
def Deletes (connectionId : String) (i : ι) : Entry ι → Prop
  | .call j (.redis (.delHash k)) _ => j = i ∧ k = TokenStore.key connectionId
  | _ => False

/-- The worker loads the token of the connection. -/
def Loads (connectionId : String) (i : ι) : Entry ι → Prop
  | .call j (.redis (.hgetall k)) _ => j = i ∧ k = TokenStore.key connectionId
  | _ => False

/-- An authorization has stored a token after the worker deleted the one before. -/
def Reauthorized (connectionId : String) (jobs : ι → Job) (i : ι) : List (Entry ι) → Prop :=
  Since (Authorized connectionId jobs) (Deletes connectionId i)

/-- The token was deleted after the worker loaded it, and not authorized again. -/
def Lapsed (connectionId : String) (jobs : ι → Job) (i : ι) : List (Entry ι) → Prop :=
  Since (fun entry => ∃ j, Deletes connectionId j entry)
    (fun entry => Authorized connectionId jobs entry ∨ Loads connectionId i entry)

/-- An authorization has stored a token after the worker loaded one. -/
def Overtaken (connectionId : String) (jobs : ι → Job) (i : ι) : List (Entry ι) → Prop :=
  Since (Authorized connectionId jobs) (Loads connectionId i)

theorem Loads.worker (loads : Loads connectionId j (.call i op answer)) : i = j := by
  unfold Loads at loads
  split at loads
  · rename_i same
    cases same
    exact loads.1
  · exact loads.elim

theorem unauthorized_of {i : ι} {op : Op} {answer : op.Answer}
    (unstored : ∀ mapping, op ≠ .redis (.hset (TokenStore.key connectionId) mapping)) :
    ¬ Authorized connectionId jobs (.call i op answer) := by
  intro authorized
  unfold Authorized at authorized
  split at authorized
  · rename_i same
    cases same
    exact unstored _ (by rw [authorized.2])
  · exact authorized

theorem undeleted_of {i : ι} {op : Op} {answer : op.Answer} (undeleted : ∀ k, op ≠ .redis (.delHash k)) :
    ¬ Deletes connectionId j (.call i op answer) := by
  intro deletes
  unfold Deletes at deletes
  split at deletes
  · rename_i same
    cases same
    exact undeleted _ rfl
  · exact deletes

theorem unloaded_of {i : ι} {op : Op} {answer : op.Answer} (unloaded : ∀ k, op ≠ .redis (.hgetall k)) :
    ¬ Loads connectionId j (.call i op answer) := by
  intro loads
  unfold Loads at loads
  split at loads
  · rename_i same
    cases same
    exact unloaded _ rfl
  · exact loads

end History

section Phases
variable [Library] {ι : Type} [DecidableEq ι] {settings : Settings} {connectionId : String} {jobs : ι → Job}
  {log : List (Entry ι)} {i j : ι} {op : Op} {answer : op.Answer}

/-- Any number of jobs on the connection. -/
def traffic (settings : Settings) (connectionId : String) (jobs : ι → Job) : ι → Prog Op Op.Answer (Except Exc Unit) :=
  fun i => ((jobs i).run settings connectionId).run

def phase (settings : Settings) (connectionId : String) (jobs : ι → Job) (log : List (Entry ι)) : ι → Phase :=
  view (fun i => protocol settings connectionId (jobs i)) (fun i => (jobs i).start) log

theorem phase_own : phase settings connectionId jobs (.call i op answer :: log) i =
    advance connectionId (phase settings connectionId jobs log i) op answer := view_own ..

theorem phase_other (other : j ≠ i) : phase settings connectionId jobs (.call i op answer :: log) j =
    phase settings connectionId jobs log j := view_other _ _ _ other ..

def Conformant (settings : Settings) (connectionId : String) (jobs : ι → Job) (c : ServiceConfig ι (Except Exc Unit)) : Prop :=
  Conforming (fun i => protocol settings connectionId (jobs i)) (fun w => phase settings connectionId jobs w.log)
    (fun i => Ended (jobs i)) c

theorem conformant_start (redis : Redis ι) :
    Conformant settings connectionId jobs ⟨⟨redis, []⟩, traffic settings connectionId jobs⟩ := fun i => job_meets (jobs i)

/-- The kind of job that each phase belongs to. -/
def Fits (job : Job) : Phase → Prop
  | .calling _ => ∃ manager, job = .call manager
  | .authorizing => job.authorizes = true
  | .revoking | .revoked => job.revokes = true

theorem fits_advance {job : Job} {p : Phase} (fits : Fits job p) : Fits job (advance connectionId p op answer) := by
  cases p with
  | revoking =>
    cases op with
    | redis command => cases command <;> exact fits
    | outside call => exact fits
  | _ => exact fits

theorem fits_phase (log : List (Entry ι)) (i : ι) : Fits (jobs i) (phase settings connectionId jobs log i) := by
  refine view_keeps (I := Fits (jobs i)) _ _ log ?_ fun p op answer fits => fits_advance fits
  cases jobs i with
  | call manager => exact ⟨manager, rfl⟩
  | _ => rfl

theorem admits_calling {job : Job} (admitted : admits settings connectionId job (.calling a) op) :
    ∃ manager, job = .call manager ∧ Contention.admits settings manager connectionId a op := by
  cases job with
  | call manager => exact ⟨manager, rfl, admitted⟩
  | _ => cases admitted

/-- A token is stored by a call that has renewed it, or by an authorization. -/
theorem admits_hset {job : Job} {p : Phase} (admitted : admits settings connectionId job p (.redis (.hset k mapping))) :
    (∃ a manager token, p = .calling a ∧ job = .call manager ∧ k = TokenStore.key connectionId ∧
      Contention.Renewed settings manager a token ∧ mapping = TokenStore.toMapping token) ∨
    (p = .authorizing ∧ ∃ target token, k = TokenStore.key target ∧ mapping = TokenStore.toMapping token) := by
  cases p with
  | calling a =>
    obtain ⟨manager, job, own, _, _, token, renewed, whole⟩ := admits_calling admitted
    exact Or.inl ⟨a, manager, token, rfl, job, own, renewed, whole⟩
  | authorizing =>
    have authorizes : Authorizes (.redis (.hset k mapping)) := by
      cases job <;> exact admitted
    exact Or.inr ⟨rfl, authorizes⟩
  | _ => cases job <;> exact admitted.elim

/-- Only a revocation deletes a token, which is the connection's own. -/
theorem admits_delHash {job : Job} {p : Phase} (admitted : admits settings connectionId job p (.redis (.delHash k))) :
    p = .revoking ∧ k = TokenStore.key connectionId := by
  cases p with
  | calling a =>
    obtain ⟨_, _, denied⟩ := admits_calling admitted
    exact denied.elim
  | revoking =>
    have revokes : Revokes connectionId (.redis (.delHash k)) := by
      cases job <;> exact admitted
    exact ⟨rfl, revokes⟩
  | _ => cases job <;> exact admitted.elim

/-- Only its deletion ends a revocation. -/
theorem revoked_advance {p : Phase} (undeleted : ∀ k, op ≠ .redis (.delHash k)) :
    advance connectionId p op answer = .revoked ↔ p = .revoked := by
  cases p with
  | revoking =>
    cases op with
    | redis command =>
      cases command with
      | delHash k => exact (undeleted k rfl).elim
      | _ => exact Iff.rfl
    | outside call => exact Iff.rfl
  | revoked => exact Iff.rfl
  | _ => exact ⟨nofun, nofun⟩

theorem revoked_kept (undeleted : ∀ k, op ≠ .redis (.delHash k)) (j : ι) :
    phase settings connectionId jobs (.call i op answer :: log) j = .revoked ↔ phase settings connectionId jobs log j = .revoked := by
  rcases eq_or_ne j i with rfl | other
  · rw [phase_own, revoked_advance undeleted]
  · rw [phase_other other]

/-- A job is in a call only when it was before. -/
theorem calling_advance {p : Phase} (calling : advance connectionId p op answer = .calling a) :
    ∃ a', p = .calling a' ∧ a = Contention.advance connectionId a' op answer := by
  cases p with
  | calling a' =>
    cases calling
    exact ⟨a', rfl, rfl⟩
  | revoking =>
    cases op with
    | redis command => cases command <;> cases calling
    | outside => cases calling
  | _ => cases calling

/-- Only calls load with a purpose, and they load their own token. -/
theorem phase_astray {hash : List (String × String)} (other : k ≠ TokenStore.key connectionId)
    (admitted : admits settings connectionId (jobs i) (phase settings connectionId jobs log i) (.redis (.hgetall k))) (j : ι) :
    phase settings connectionId jobs (.call i (.redis (.hgetall k)) hash :: log) j = phase settings connectionId jobs log j := by
  rcases eq_or_ne j i with rfl | beside
  · rw [phase_own]
    cases at_phase : phase settings connectionId jobs log j with
    | calling a =>
      rw [at_phase] at admitted
      obtain ⟨_, _, own, _⟩ := admits_calling admitted
      exact (other own).elim
    | _ => rfl
  · rw [phase_other beside]

/-- The token in hand of a call. -/
def Phase.inHand : Phase → Option TokenSet
  | .calling account => account.inHand
  | _ => none

/-- Only a load changes what a call has in hand. -/
theorem inHand_advance {p : Phase} (unloaded : ∀ k, op ≠ .redis (.hgetall k)) : (advance connectionId p op answer).inHand = p.inHand := by
  cases p with
  | calling a =>
    cases op with
    | redis command =>
      exact Contention.Account.redis_inHand fun k same => unloaded k (congrArg Op.redis same)
    | outside call =>
      cases call with
      | now => exact Contention.Account.timed_inHand
      | _ => rfl
  | revoking =>
    cases op with
    | redis command => cases command <;> rfl
    | outside call => rfl
  | _ => rfl

theorem inHand_kept (unloaded : ∀ k, op ≠ .redis (.hgetall k)) (j : ι) :
    (phase settings connectionId jobs (.call i op answer :: log) j).inHand = (phase settings connectionId jobs log j).inHand := by
  rcases eq_or_ne j i with rfl | other
  · rw [phase_own, inHand_advance unloaded]
  · rw [phase_other other]

omit [Library] [DecidableEq ι] in
/-- A call has a token in hand only when its load has found one. -/
theorem inHand_loaded [Library] {a : Contention.Account} {hash : List (String × String)}
    (hand : (Contention.advance connectionId a (.redis (.hgetall (TokenStore.key connectionId))) hash).inHand = some current) :
    TokenStore.decode hash = .ok (some current) := by
  rw [Contention.advance, if_pos rfl] at hand
  generalize TokenStore.decode hash = found at hand ⊢
  cases holding : a.holding with
  | false => simp [Contention.Account.inHand, Contention.Account.loaded, holding] at hand
  | true =>
    rcases found with exc | _ | token
    · simp [Contention.Account.inHand, Contention.Account.loaded] at hand
    · simp [Contention.Account.inHand, Contention.Account.loaded] at hand
    · simpa [Contention.Account.inHand, Contention.Account.loaded, holding] using hand

end Phases
end OpenClaw.Grants
