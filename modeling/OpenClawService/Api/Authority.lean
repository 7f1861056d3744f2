import OpenClawService.Api.Runs
import OpenClawService.Storage.Sources

/-! What the service stores goes back to the API key: it was there at the beginning, a
request with the key put it there, or a callback did that presents a state which a request
with the key was given. Only a decision needs no key, and it writes over an approval. -/
namespace OpenClaw.Api
open Interleaving

/-- A stored approval names its own key. -/
def Named [Library] {ι : Type} (redis : Redis ι) : Prop :=
  ∀ approvalId approval, ApprovalStore.decode (redis.hashes (ApprovalStore.key approvalId)) = .ok (some approval) →
    approval.approvalId = approvalId

section Authority
variable [FastApi] {ι : Type} (settings : AppSettings) (inbounds : ι → Inbound) (redis : Redis ι)

/-- The state was stored for the connection, or a request with the key has stored it. -/
def Issued (log : List (Entry ι)) (state connectionId : String) : Prop :=
  redis.strings (OAuthStateStore.key state) = some connectionId ∨ ∃ i ttl, Keyed settings (inbounds i) ∧
    (inbounds i).route = .xeroAuthorize connectionId ∧
    .call i (.redis (.set (OAuthStateStore.key state) connectionId ttl)) () ∈ log

/-- A request of the pool that may store or delete a token of the connection. -/
def Holds (log : List (Entry ι)) (connectionId : String) : Prop :=
  ∃ i, Keyed settings (inbounds i) ∧ (inbounds i).route.connection = some connectionId ∨
    ∃ code state, (inbounds i).route = .xeroCallback code state ∧ Issued settings inbounds redis log state connectionId

/-- What the store holds, traced back. -/
structure Provenance (w : World ι) : Prop where
  tokens (connectionId : String) : w.redis.hashes (TokenStore.key connectionId) ≠ redis.hashes (TokenStore.key connectionId) →
    Holds settings inbounds redis w.log connectionId
  states (state connectionId : String) : w.redis.strings (OAuthStateStore.key state) = some connectionId →
    Issued settings inbounds redis w.log state connectionId
  locks (connectionId owner : String) : w.redis.strings (refreshLockKey connectionId) = some owner →
    redis.strings (refreshLockKey connectionId) = some owner ∨
      ∃ i, Keyed settings (inbounds i) ∧ (inbounds i).route.connection = some connectionId
  entries (k : String) (value : Json) : w.redis.caches k = some value → redis.caches k = some value ∨
    ∃ i, Keyed settings (inbounds i) ∧ (inbounds i).route.entry = some k
  approvals (approvalId : String) : w.redis.hashes (ApprovalStore.key approvalId) ≠ [] →
    redis.hashes (ApprovalStore.key approvalId) ≠ [] ∨
      ∃ i body, Keyed settings (inbounds i) ∧ (inbounds i).route = .registerApproval body ∧ body.approvalId = approvalId
  decisions (approvalId : String) : w.redis.hashes (ApprovalStore.key approvalId) ≠ redis.hashes (ApprovalStore.key approvalId) →
    (∃ i body, Keyed settings (inbounds i) ∧ (inbounds i).route = .registerApproval body ∧ body.approvalId = approvalId) ∨
      ∃ i decision note, (inbounds i).route = .recordDecision approvalId decision note
  hashes (k : String) : w.redis.hashes k ≠ redis.hashes k →
    ∃ name, k = TokenStore.key name ∨ k = ApprovalStore.key name
  strings (k value : String) : w.redis.strings k = some value → redis.strings k = some value ∨
    ∃ name, k = OAuthStateStore.key name ∨ k = refreshLockKey name

end Authority

section Run
variable [Library] [FastApi] {ι : Type} [DecidableEq ι] {settings : AppSettings} {inbounds : ι → Inbound} {redis : Redis ι}
  {env : Environment ι} {w w' : World ι} {i : ι}

abbrev phasesOf (settings : AppSettings) (inbounds : ι → Inbound) : List (Entry ι) → ι → Phase :=
  phases settings (fun _ => True) inbounds

/-- Where the phases of the requests got what they remember. -/
structure Remembers (settings : AppSettings) (inbounds : ι → Inbound) (redis : Redis ι) (w : World ι) : Prop where
  watched (i : ι) (state connectionId : String) :
    (phasesOf settings inbounds w.log i).watched = some (OAuthStateStore.key state, some connectionId) →
    Issued settings inbounds redis w.log state connectionId
  popped (i : ι) (connectionId : String) : (phasesOf settings inbounds w.log i).popped = some connectionId →
    ∃ state, (inbounds i).route.presented = some state ∧ Issued settings inbounds redis w.log state connectionId
  named : Named w.redis
  loaded (i : ι) (approvalId : String) (approval : ApprovalRequest) : (inbounds i).route.approval = some approvalId →
    (phasesOf settings inbounds w.log i).loaded = some (.ok (some approval)) →
    approval.approvalId = approvalId ∧ w.redis.hashes (ApprovalStore.key approvalId) ≠ []

omit [Library] [DecidableEq ι] in
theorem Issued.later {log : List (Entry ι)} (issued : Issued settings inbounds redis log state connectionId) (entry : Entry ι) :
    Issued settings inbounds redis (entry :: log) state connectionId := by
  rcases issued with stored | ⟨j, ttl, keyed, route, listed⟩
  · exact Or.inl stored
  · exact Or.inr ⟨j, ttl, keyed, route, List.mem_cons_of_mem _ listed⟩

omit [Library] [DecidableEq ι] in
theorem Holds.later {log : List (Entry ι)} (holds : Holds settings inbounds redis log connectionId) (entry : Entry ι) :
    Holds settings inbounds redis (entry :: log) connectionId := by
  obtain ⟨j, keyed | ⟨code, state, route, issued⟩⟩ := holds
  · exact ⟨j, Or.inl keyed⟩
  · exact ⟨j, Or.inr ⟨code, state, route, issued.later entry⟩⟩

omit [DecidableEq ι] in
/-- A Redis command is only sent by a request that was let through. -/
theorem permitted_redis {command : Command} {p : Phase} (permitted : permits settings (fun _ => True) (inbounds i) p (.redis command)) :
    admits settings.toSettings (fun _ => True) (inbounds i).route p (.redis command) ∧
      ((inbounds i).route.guarded = true → Keyed settings (inbounds i)) := by
  rcases permitted with ⟨sent, same, _⟩ | ⟨⟨route, checked⟩, allowed⟩
  · cases same
  · exact ⟨allowed, (admitted_ok checked).2.1⟩

omit [Library] [FastApi] in
theorem saved_current {route : Route} {p : Phase} (saves : Saves p approval route) :
    approval.status ≠ "approved" ∧ approval.status ≠ "rejected" := by
  cases route with
  | registerApproval body =>
    obtain ⟨_, now, rfl⟩ := saves
    exact ⟨by simp [RegisterApproval.pending], by simp [RegisterApproval.pending]⟩
  | recordDecision approvalId decision note =>
    obtain ⟨found, now, result, _, rfl⟩ := saves
    exact ⟨by simp [RecordDecision.resolved], by simp [RecordDecision.resolved]⟩
  | _ => exact saves.elim

/-- An approval is saved by its registration, or by a decision about one that the store already had. -/
theorem saved_origin (remembers : Remembers settings inbounds redis w)
    (saves : Saves (phasesOf settings inbounds w.log i) approval (inbounds i).route) :
    (∃ body, (inbounds i).route = .registerApproval body ∧ body.approvalId = approval.approvalId) ∨
      (∃ decision note, (inbounds i).route = .recordDecision approval.approvalId decision note) ∧
        w.redis.hashes (ApprovalStore.key approval.approvalId) ≠ [] := by
  cases route : (inbounds i).route with
  | registerApproval body =>
    rw [route] at saves
    obtain ⟨_, now, rfl⟩ := saves
    exact Or.inl ⟨body, rfl, rfl⟩
  | recordDecision approvalId decision note =>
    rw [route] at saves
    obtain ⟨found, now, result, ⟨loaded, _, _⟩, rfl⟩ := saves
    obtain ⟨rfl, present⟩ := remembers.loaded i approvalId found (by rw [route]; rfl) loaded
    exact Or.inr ⟨⟨decision, note, rfl⟩, present⟩
  | _ =>
    rw [route] at saves
    exact saves.elim

section Command
variable {command : Command} (remembers : Remembers settings inbounds redis w)
  (allowed : admits settings.toSettings (fun _ => True) (inbounds i).route (phasesOf settings inbounds w.log i) (.redis command))
include allowed

/-- A command that writes a token is sent by a request that holds the connection. -/
theorem holds_of_token (remembers : Remembers settings inbounds redis w)
    (keyed : (inbounds i).route.guarded = true → Keyed settings (inbounds i))
    (modifies : command.modifiesHash = some (TokenStore.key connectionId)) : Holds settings inbounds redis w.log connectionId := by
  have owned (own : (inbounds i).route.connection = some connectionId) : Holds settings inbounds redis w.log connectionId :=
    ⟨i, Or.inl ⟨keyed (connection_guarded own), own⟩⟩
  cases command with
  | hset k mapping =>
    cases modifies
    rcases allowed with ⟨other, token, owns, same, _⟩ | ⟨approval, _, same, _⟩
    · simp only [token_key, Kind.key_inj, true_and] at same
      subst same
      rcases owns with own | ⟨_, popped⟩
      · exact owned own
      · obtain ⟨state, presented, issued⟩ := remembers.popped i _ popped
        cases route : (inbounds i).route with
        | xeroCallback code other =>
          rw [route] at presented
          cases presented
          exact ⟨i, Or.inr ⟨code, _, route, issued⟩⟩
        | _ =>
          rw [route] at presented
          cases presented
    · simp [token_key, approval_key] at same
  | delHash k =>
    cases modifies
    obtain ⟨other, own, same⟩ := allowed
    simp only [token_key, Kind.key_inj, true_and] at same
    subst same
    exact owned own
  | _ => cases modifies

/-- A stored approval is written over, never deleted. -/
theorem approval_source (approvalId : String) : (w.redis.exec i command).2.hashes (ApprovalStore.key approvalId) =
      w.redis.hashes (ApprovalStore.key approvalId) ∨
    ∃ approval, Saves (phasesOf settings inbounds w.log i) approval (inbounds i).route ∧ approval.approvalId = approvalId ∧
      (w.redis.exec i command).2.hashes (ApprovalStore.key approvalId) =
        Redis.merge (w.redis.hashes (ApprovalStore.key approvalId)) (ApprovalStore.toMapping approval) := by
  rcases w.redis.hash_source i command (ApprovalStore.key approvalId) with same | ⟨mapping, rfl, merged⟩ | ⟨rfl, emptied⟩
  · exact Or.inl same
  · rcases allowed with ⟨other, token, _, same, _⟩ | ⟨approval, saves, same, rfl⟩
    · simp [token_key, approval_key] at same
    · simp only [approval_key, Kind.key_inj, true_and] at same
      exact Or.inr ⟨approval, saves, same.symm, merged⟩
  · obtain ⟨other, _, same⟩ := allowed
    simp [token_key, approval_key] at same

end Command

theorem Provenance.command (provenance : Provenance settings inbounds redis w) (remembers : Remembers settings inbounds redis w)
    {command : Command}
    (permitted : permits settings (fun _ => True) (inbounds i) (phasesOf settings inbounds w.log i) (.redis command)) :
    Provenance settings inbounds redis ⟨(w.redis.exec i command).2, .call i (.redis command) (w.redis.exec i command).1 :: w.log⟩ := by
  obtain ⟨allowed, keyed⟩ := permitted_redis permitted
  constructor
  case tokens =>
    intro connectionId changed
    by_cases modifies : command.modifiesHash = some (TokenStore.key connectionId)
    · exact (holds_of_token allowed remembers keyed modifies).later _
    · rw [w.redis.exec_hashes i modifies] at changed
      exact (provenance.tokens connectionId changed).later _
  case states =>
    intro state connectionId found
    rcases Redis.string_source found with before | ⟨ttl, rfl | rfl⟩
    · exact (provenance.states state connectionId before).later _
    · obtain ⟨issues, _⟩ := allowed
      cases route : (inbounds i).route with
      | xeroAuthorize other =>
        rw [route] at issues
        cases issues
        exact Or.inr ⟨i, ttl, keyed (by rw [route]; rfl), route, List.mem_cons_self⟩
      | _ =>
        rw [route] at issues
        cases issues
    · obtain ⟨_, other, _, same⟩ := allowed
      simp [state_key, lock_key] at same
  case locks =>
    intro connectionId owner found
    rcases Redis.string_source found with before | ⟨ttl, rfl | rfl⟩
    · exact provenance.locks connectionId owner before
    · obtain ⟨_, _, other, same⟩ := allowed
      simp [state_key, lock_key] at same
    · obtain ⟨_, other, own, same⟩ := allowed
      simp only [lock_key, Kind.key_inj, true_and] at same
      subst same
      exact Or.inr ⟨i, keyed (connection_guarded own), own⟩
  case entries =>
    intro k value found
    rcases w.redis.cache_source i command k with same | ⟨stored, ttl, rfl, _⟩
    · rw [same] at found
      exact provenance.entries k value found
    · have guarded : (inbounds i).route.guarded = true := by
        cases route : (inbounds i).route <;> first | rfl | (rw [route] at allowed; cases allowed.1)
      exact Or.inr ⟨i, keyed guarded, allowed.1⟩
  case approvals =>
    intro approvalId present
    rcases approval_source allowed approvalId with same | ⟨approval, saves, rfl, _⟩
    · rw [same] at present
      exact provenance.approvals approvalId present
    · rcases saved_origin remembers saves with ⟨body, route, same⟩ | ⟨_, before⟩
      · exact Or.inr ⟨i, body, keyed (by rw [route]; rfl), route, same⟩
      · exact provenance.approvals _ before
  case decisions =>
    intro approvalId changed
    rcases approval_source allowed approvalId with same | ⟨approval, saves, rfl, _⟩
    · rw [same] at changed
      exact provenance.decisions approvalId changed
    · rcases saved_origin remembers saves with ⟨body, route, same⟩ | ⟨decision, _⟩
      · exact Or.inl ⟨i, body, keyed (by rw [route]; rfl), route, same⟩
      · exact Or.inr ⟨i, decision⟩
  case hashes =>
    intro k changed
    rcases w.redis.hash_source i command k with same | ⟨mapping, rfl, _⟩ | ⟨rfl, _⟩
    · rw [same] at changed
      exact provenance.hashes k changed
    · rcases allowed with ⟨connectionId, token, _, same, _⟩ | ⟨approval, _, same, _⟩
      · exact ⟨connectionId, Or.inl same⟩
      · exact ⟨approval.approvalId, Or.inr same⟩
    · obtain ⟨connectionId, _, same⟩ := allowed
      exact ⟨connectionId, Or.inl same⟩
  case strings =>
    intro k value found
    rcases Redis.string_source found with before | ⟨ttl, rfl | rfl⟩
    · exact provenance.strings k value before
    · obtain ⟨_, _, state, same⟩ := allowed
      exact Or.inr ⟨state, Or.inl same⟩
    · obtain ⟨_, connectionId, _, same⟩ := allowed
      exact Or.inr ⟨connectionId, Or.inr same⟩

omit [Library] [DecidableEq ι] in
theorem Provenance.later {redis' : Redis ι} (provenance : Provenance settings inbounds redis w) (entry : Entry ι)
    (strings : ∀ k value, redis'.strings k = some value → w.redis.strings k = some value)
    (caches : ∀ k value, redis'.caches k = some value → w.redis.caches k = some value)
    (hashes : redis'.hashes = w.redis.hashes) : Provenance settings inbounds redis ⟨redis', entry :: w.log⟩ := by
  constructor
  case tokens =>
    intro connectionId changed
    rw [hashes] at changed
    exact (provenance.tokens connectionId changed).later entry
  case states => exact fun state connectionId found => (provenance.states state connectionId (strings _ _ found)).later entry
  case locks => exact fun connectionId owner found => provenance.locks connectionId owner (strings _ _ found)
  case entries => exact fun k value found => provenance.entries k value (caches _ _ found)
  case approvals =>
    intro approvalId present
    rw [hashes] at present
    exact provenance.approvals approvalId present
  case decisions =>
    intro approvalId changed
    rw [hashes] at changed
    exact provenance.decisions approvalId changed
  case hashes =>
    intro k changed
    rw [hashes] at changed
    exact provenance.hashes k changed
  case strings => exact fun k value found => provenance.strings k value (strings _ _ found)

/-- What a command may leave in the phase of its request. -/
theorem Remembers.advanced (remembers : Remembers settings inbounds redis w) {op : Op} {answer : op.Answer} {redis' : Redis ι}
    (watched : ∀ state connectionId,
      (advance (inbounds i).route (phasesOf settings inbounds w.log i) op answer).watched =
        some (OAuthStateStore.key state, some connectionId) → Issued settings inbounds redis w.log state connectionId)
    (popped : ∀ connectionId,
      (advance (inbounds i).route (phasesOf settings inbounds w.log i) op answer).popped = some connectionId →
        ∃ state, (inbounds i).route.presented = some state ∧ Issued settings inbounds redis w.log state connectionId)
    (named : Named redis')
    (present : ∀ approvalId, w.redis.hashes (ApprovalStore.key approvalId) ≠ [] → redis'.hashes (ApprovalStore.key approvalId) ≠ [])
    (loaded : ∀ approvalId approval, (inbounds i).route.approval = some approvalId →
      (advance (inbounds i).route (phasesOf settings inbounds w.log i) op answer).loaded = some (.ok (some approval)) →
        approval.approvalId = approvalId ∧ w.redis.hashes (ApprovalStore.key approvalId) ≠ []) :
    Remembers settings inbounds redis ⟨redis', .call i op answer :: w.log⟩ := by
  have own : phasesOf settings inbounds (.call i op answer :: w.log) i =
      advance (inbounds i).route (phasesOf settings inbounds w.log i) op answer := view_own ..
  have beside {j : ι} (other : j ≠ i) : phasesOf settings inbounds (.call i op answer :: w.log) j =
      phasesOf settings inbounds w.log j := view_other _ _ _ other ..
  constructor
  case watched =>
    intro j state connectionId found
    rcases eq_or_ne j i with rfl | other
    · exact (watched state connectionId (own ▸ found)).later _
    · exact (remembers.watched j state connectionId (beside other ▸ found)).later _
  case popped =>
    intro j connectionId found
    rcases eq_or_ne j i with rfl | other
    · obtain ⟨state, presented, issued⟩ := popped connectionId (own ▸ found)
      exact ⟨state, presented, issued.later _⟩
    · obtain ⟨state, presented, issued⟩ := remembers.popped j connectionId (beside other ▸ found)
      exact ⟨state, presented, issued.later _⟩
  case named => exact named
  case loaded =>
    intro j approvalId approval about found
    rcases eq_or_ne j i with rfl | other
    · obtain ⟨same, before⟩ := loaded approvalId approval about (own ▸ found)
      exact ⟨same, present approvalId before⟩
    · obtain ⟨same, before⟩ := remembers.loaded j approvalId approval about (beside other ▸ found)
      exact ⟨same, present approvalId before⟩

/-- Awaits that leave the phase and the approvals alone. -/
theorem Remembers.quiet (remembers : Remembers settings inbounds redis w) {op : Op} {answer : op.Answer} {redis' : Redis ι}
    (still : advance (inbounds i).route (phasesOf settings inbounds w.log i) op answer = phasesOf settings inbounds w.log i)
    (named : Named redis')
    (present : ∀ approvalId, w.redis.hashes (ApprovalStore.key approvalId) ≠ [] → redis'.hashes (ApprovalStore.key approvalId) ≠ []) :
    Remembers settings inbounds redis ⟨redis', .call i op answer :: w.log⟩ := by
  apply remembers.advanced _ _ named present
  · rw [still]
    exact remembers.loaded i
  · rw [still]
    exact remembers.watched i
  · rw [still]
    exact remembers.popped i

/-- An event of the environment, which is no await of any request. -/
theorem Remembers.beside (remembers : Remembers settings inbounds redis w) {entry : Entry ι} {redis' : Redis ι}
    (same : phasesOf settings inbounds (entry :: w.log) = phasesOf settings inbounds w.log) (hashes : redis'.hashes = w.redis.hashes) :
    Remembers settings inbounds redis ⟨redis', entry :: w.log⟩ := by
  constructor
  case watched =>
    intro j state connectionId found
    exact (remembers.watched j state connectionId (same ▸ found)).later entry
  case popped =>
    intro j connectionId found
    obtain ⟨state, presented, issued⟩ := remembers.popped j connectionId (same ▸ found)
    exact ⟨state, presented, issued.later entry⟩
  case named =>
    intro approvalId approval decoded
    rw [hashes] at decoded
    exact remembers.named approvalId approval decoded
  case loaded =>
    intro j approvalId approval about found
    rw [hashes]
    exact remembers.loaded j approvalId approval about (same ▸ found)

theorem Remembers.command (provenance : Provenance settings inbounds redis w) (remembers : Remembers settings inbounds redis w)
    {command : Command}
    (permitted : permits settings (fun _ => True) (inbounds i) (phasesOf settings inbounds w.log i) (.redis command)) :
    Remembers settings inbounds redis ⟨(w.redis.exec i command).2, .call i (.redis command) (w.redis.exec i command).1 :: w.log⟩ := by
  obtain ⟨allowed, _⟩ := permitted_redis permitted
  have named : Named (w.redis.exec i command).2 := by
    intro approvalId approval decoded
    rcases approval_source allowed approvalId with same | ⟨saved, saves, rfl, merged⟩
    · rw [same] at decoded
      exact remembers.named approvalId approval decoded
    · rw [merged, ApprovalStore.decode_merge _ _ (saved_current saves)] at decoded
      cases decoded
      rfl
  have present (approvalId : String) (before : w.redis.hashes (ApprovalStore.key approvalId) ≠ []) :
      (w.redis.exec i command).2.hashes (ApprovalStore.key approvalId) ≠ [] := by
    rcases approval_source allowed approvalId with same | ⟨saved, _, _, merged⟩
    · rwa [same]
    · rw [merged]
      simp [Redis.merge, ApprovalStore.toMapping]
  have unread {state connectionId : String} {k : String} (found : some (k, none) = some (OAuthStateStore.key state, some connectionId)) :
      Issued settings inbounds redis w.log state connectionId := by cases found
  have unwatched {state connectionId : String} (found : none = some (OAuthStateStore.key state, some connectionId)) :
      Issued settings inbounds redis w.log state connectionId := by cases found
  cases command with
  | watch k => exact remembers.advanced (fun _ _ => unread) (remembers.popped i) named present (remembers.loaded i)
  | unwatch => exact remembers.advanced (fun _ _ => unwatched) (remembers.popped i) named present (remembers.loaded i)
  | get k =>
    refine remembers.advanced ?_ (remembers.popped i) named present (remembers.loaded i)
    intro state connectionId found
    simp only [advance, Redis.exec, Option.some.injEq, Prod.mk.injEq] at found
    obtain ⟨rfl, found⟩ := found
    exact provenance.states state connectionId found
  | execDel k =>
    cases (w.redis.exec i (.execDel k)).1 with
    | false => exact remembers.advanced (fun _ _ => unwatched) (remembers.popped i) named present (remembers.loaded i)
    | true =>
      refine remembers.advanced (fun _ _ => unwatched) ?_ named present (remembers.loaded i)
      intro connectionId found
      simp only [advance, Phase.pops] at found
      split at found
      · rename_i presents
        obtain ⟨state, presented, rfl⟩ := Option.map_eq_some_iff.mp presents
        obtain ⟨value, watching⟩ := allowed
        rw [watching] at found
        cases found
        exact ⟨state, presented, remembers.watched i state connectionId watching⟩
      · exact remembers.popped i connectionId found
  | hgetall k =>
    refine remembers.advanced ?_ ?_ named present ?_
    · intro state connectionId found
      simp only [advance] at found
      split at found <;> exact remembers.watched i state connectionId found
    · intro connectionId found
      simp only [advance] at found
      split at found <;> exact remembers.popped i connectionId found
    · intro approvalId approval about found
      simp only [advance, Redis.exec] at found
      split at found
      · rename_i own
        rw [about, Option.map_some, Option.some.injEq] at own
        subst own
        have decoded := Option.some.inj found
        refine ⟨remembers.named approvalId approval decoded, fun empty => ?_⟩
        rw [empty] at decoded
        cases decoded
      · exact remembers.loaded i approvalId approval about found
  | _ => exact remembers.quiet rfl named present

/-- At the beginning the phases remember nothing. -/
theorem Remembers.start (named : Named redis) : Remembers settings inbounds redis ⟨redis, []⟩ where
  watched i state connectionId found := by cases found
  popped i connectionId found := by cases found
  named := named
  loaded i approvalId approval own found := by cases found

/-- Whatever requests come in, with whatever headers, what is stored goes back to the key. -/
theorem provenance_run (named : Named redis) {c : ServiceConfig ι (Except Exc Response)}
    (run : Reaches (system env) ⟨⟨redis, []⟩, requests settings inbounds⟩ c) : Provenance settings inbounds redis c.shared := by
  have initial : Provenance settings inbounds redis ⟨redis, []⟩ ∧ Remembers settings inbounds redis ⟨redis, []⟩ :=
    ⟨⟨fun _ changed => absurd rfl changed, fun _ _ => Or.inl, fun _ _ => Or.inl, fun _ _ => Or.inl, fun _ => Or.inl,
        fun _ changed => absurd rfl changed, fun _ changed => absurd rfl changed, fun _ _ => Or.inl⟩, .start named⟩
  refine (requests_run (I := fun w => Provenance settings inbounds redis w ∧ Remembers settings inbounds redis w) anything_closed
    anything_delivers ?_ ?_ initial run).1.1
  · rintro w i op answer w' ⟨provenance, remembers⟩ permitted served
    cases served with
    | redis command => exact ⟨provenance.command remembers permitted, remembers.command provenance permitted⟩
    | outside allowed =>
      exact ⟨provenance.later _ (fun _ _ => id) (fun _ _ => id) rfl, remembers.quiet rfl remembers.named fun _ => id⟩
  · rintro w w' ⟨provenance, remembers⟩ drifted
    cases drifted with
    | @expire key =>
      refine ⟨provenance.later _ (fun _ _ => Redis.expire_source) (fun k value found => ?_) rfl, ?_⟩
      · rcases eq_or_ne k key with rfl | other
        · simp [Redis.expire] at found
        · simpa [Redis.expire, Redis.write, Function.update_of_ne other] using found
      · exact remembers.beside rfl rfl
    | invoice => exact ⟨provenance.later _ (fun _ _ => id) (fun _ _ => id) rfl, remembers.beside rfl rfl⟩

end Run

section Consent
local instance : Library := .sample
local instance : FastApi := .sample

/-- An authorization with the key, its callback without, and a stranger who asks for an invoice. -/
def consents : Fin 3 → Inbound
  | 0 => ⟨some "r0", some "Bearer key", .xeroAuthorize "acme"⟩
  | 1 => ⟨some "r1", none, .xeroCallback "code" "state"⟩
  | 2 => ⟨some "r2", some "Bearer guess", .getInvoice "i1" "acme"⟩

def consenting : ServiceConfig (Fin 3) (Except Exc Response) := ⟨⟨Redis.empty, []⟩, requests .sample consents⟩

def consentReplies : (call : Outside) → call.Answer
  | .tokenUrlsafe _ => "state"
  | .fetchToken .. => .ok (.obj [("access_token", .str "a1"), ("refresh_token", .str "r1"), ("expires_at", .num 1 0)])
  | call => call.silence

/-- The callback takes the state and stores the token that it is given for it. -/
def consent : List (Move (Fin 3)) :=
  [.outside 0 consentReplies, .redis 0, .redis 1, .redis 1, .redis 1, .outside 1 consentReplies, .outside 1 consentReplies, .redis 1]

theorem provenance_of_consent : Named (Redis.empty : Redis (Fin 3)) ∧
    (consent.foldl play consenting).shared.redis.hashes (TokenStore.key "acme") ≠ [] ∧
    Provenance .sample consents Redis.empty (consent.foldl play consenting).shared := by
  have named : Named (Redis.empty : Redis (Fin 3)) := fun _ _ decoded => by cases decoded
  have run : Reaches (system (.free _)) consenting (consent.foldl play consenting) := plays_run (free_legal _ _)
  exact ⟨named, by decide, provenance_run named run⟩

end Consent
end OpenClaw.Api
