import OpenClawService.Credentials.Jobs

/-! No token leaves for a foreign host. A token that is stored for a connection,
or seen by a job, was issued by the provider that the connection is used with,
so long as no connection id is used with both. -/
namespace OpenClaw.Credentials
open Interleaving

/-- Some job uses the connection id with the provider. -/
def Uses (jobs : ι → Job) (connectionId : String) (provider : Provider) : Prop :=
  ∃ i, (jobs i).connection = some connectionId ∧ (jobs i).provider = some provider

/-- No connection id is used with both providers. -/
def Separate (jobs : ι → Job) : Prop :=
  ∀ connectionId p q, Uses jobs connectionId p → Uses jobs connectionId q → p = q

section Safety
variable [Library] {ι : Type} {settings : Settings} {jobs : ι → Job} {log : List (Entry ι)}

/-- The tokens that a provider issues with an entry of the log. -/
def granted (settings : Settings) (provider : Provider) : Entry ι → List String
  | .call _ op answer => issues settings provider op answer
  | _ => []

def Issued (settings : Settings) (provider : Provider) (log : List (Entry ι)) (token : String) : Prop :=
  token ∈ log.flatMap (granted settings provider)

instance : Decidable (Issued settings provider log token) := inferInstanceAs (Decidable (_ ∈ _))

/-- The token was issued by this provider, and by no other. -/
def IssuedOnly (settings : Settings) (provider : Provider) (log : List (Entry ι)) (token : String) : Prop :=
  Issued settings provider log token ∧ ∀ other, Issued settings other log token → other = provider

theorem Issued.later (issued : Issued settings provider log token) (entry : Entry ι) :
    Issued settings provider (entry :: log) token := by
  simp only [Issued, List.flatMap_cons, List.mem_append]
  exact Or.inr issued

theorem Issued.answered {i : ι} {op : Op} {answer : op.Answer} (member : token ∈ issues settings provider op answer) :
    Issued settings provider (.call i op answer :: log) token := by
  simp only [Issued, List.flatMap_cons, List.mem_append]
  exact Or.inl member

/-- Any number of requests to the service. -/
def requests (settings : Settings) (jobs : ι → Job) : ι → Prog Op Op.Answer (Except Exc Unit) :=
  fun i => ((jobs i).run settings).run

variable [DecidableEq ι]

def phase (settings : Settings) (jobs : ι → Job) (log : List (Entry ι)) : ι → Phase :=
  view (fun i => protocol settings (jobs i)) (fun i => ⟨[], (jobs i).connection⟩) log

/-- What is known of every stored token, saved state and running job. -/
structure Sealed (settings : Settings) (jobs : ι → Job) (w : World ι) : Prop where
  stored : TokenStore.decode (w.redis.hashes (TokenStore.key connectionId)) = .ok (some token) →
    ∃ provider, Uses jobs connectionId provider ∧ ∀ text ∈ secrets token, Issued settings provider w.log text
  saved : w.redis.strings (OAuthStateStore.key state) = some connectionId → Uses jobs connectionId .xero
  connected : (jobs i).provider = some provider → (phase settings jobs w.log i).connection = some connectionId →
    Uses jobs connectionId provider
  known : (jobs i).provider = some provider → text ∈ (phase settings jobs w.log i).known →
    Issued settings provider w.log text

namespace Sealed
variable {w w' : World ι} {i : ι} {op : Op} {answer : op.Answer} {command : Command} {env : Environment ι}

omit [DecidableEq ι] [Library] in
theorem secrets_kept (member : text ∈ secrets (TokenStore.kept token)) : text ∈ secrets token := by
  simp only [secrets, TokenStore.kept, List.mem_cons, Option.mem_toList, Option.bind_eq_some_iff] at member ⊢
  rcases member with access | ⟨stored, refresh, kept⟩
  · exact Or.inl access
  · unfold orNone at kept
    split at kept
    · cases kept
    · cases kept
      exact Or.inr refresh

omit [DecidableEq ι] in
theorem held_decoded {hash : List (String × String)} (member : text ∈ held hash) :
    ∃ token, TokenStore.decode hash = .ok (some token) ∧ text ∈ secrets token := by
  unfold held at member
  split at member
  · rename_i token decoded
    exact ⟨token, decoded, member⟩
  · cases member

/-- A served await settles the phase of its own worker and leaves the others where they are. -/
theorem advanced (inv : Sealed settings jobs w) {redis : Redis ι}
    (stored : ∀ connectionId token, TokenStore.decode (redis.hashes (TokenStore.key connectionId)) = .ok (some token) →
      ∃ provider, Uses jobs connectionId provider ∧ ∀ text ∈ secrets token, Issued settings provider w.log text)
    (saved : ∀ state connectionId, redis.strings (OAuthStateStore.key state) = some connectionId →
      Uses jobs connectionId .xero)
    (connected : ∀ provider connectionId, (jobs i).provider = some provider →
      (advance settings (jobs i) (phase settings jobs w.log i) op answer).connection = some connectionId →
      Uses jobs connectionId provider)
    (known : ∀ provider text, (jobs i).provider = some provider →
      text ∈ (advance settings (jobs i) (phase settings jobs w.log i) op answer).known →
      Issued settings provider (.call i op answer :: w.log) text) :
    Sealed settings jobs ⟨redis, .call i op answer :: w.log⟩ := by
  have own : phase settings jobs (.call i op answer :: w.log) i =
      advance settings (jobs i) (phase settings jobs w.log i) op answer := view_own ..
  have beside {j : ι} (other : j ≠ i) : phase settings jobs (.call i op answer :: w.log) j = phase settings jobs w.log j :=
    view_other _ _ _ other ..
  constructor
  case stored =>
    intro connectionId token decoded
    obtain ⟨provider, uses, issued⟩ := stored connectionId token decoded
    exact ⟨provider, uses, fun text member => (issued text member).later _⟩
  case saved => exact saved _ _
  case connected =>
    intro j provider connectionId talks connection
    rcases eq_or_ne j i with rfl | other
    · rw [own] at connection
      exact connected provider connectionId talks connection
    · rw [beside other] at connection
      exact inv.connected talks connection
  case known =>
    intro j provider text talks member
    rcases eq_or_ne j i with rfl | other
    · rw [own] at member
      exact known provider text talks member
    · rw [beside other] at member
      exact (inv.known talks member).later _

/-- A command stores tokens that its job has seen, under its own connection. -/
theorem stored_exec (inv : Sealed settings jobs w) (admitted : admits (jobs i) (phase settings jobs w.log i) (.redis command))
    (decoded : TokenStore.decode ((w.redis.exec i command).2.hashes (TokenStore.key connectionId)) = .ok (some token)) :
    ∃ provider, Uses jobs connectionId provider ∧ ∀ text ∈ secrets token, Issued settings provider w.log text := by
  rcases TokenStore.decode_exec decoded with stored | ⟨mapping, rfl, written⟩
  · exact inv.stored stored
  · obtain ⟨other, fresh, connection, talks, same, rfl, known⟩ := admitted
    obtain rfl : connectionId = other := by simpa [TokenStore.key] using same
    obtain ⟨provider, talking⟩ := Option.ne_none_iff_exists'.mp talks
    simp only [TokenStore.decode_merge, Except.ok.injEq, Option.some.injEq] at written
    subst written
    exact ⟨provider, inv.connected talking connection, fun text member =>
      inv.known talking (known text (secrets_kept member))⟩

theorem saved_exec (inv : Sealed settings jobs w) (admitted : admits (jobs i) (phase settings jobs w.log i) (.redis command))
    (present : (w.redis.exec i command).2.strings (OAuthStateStore.key state) = some connectionId) :
    Uses jobs connectionId .xero := by
  by_cases modifies : command.modifies = some (OAuthStateStore.key state)
  · cases command with
    | set k value ex =>
      cases modifies
      obtain ⟨_, connection, talks⟩ := admitted
      simp only [Redis.exec, Redis.write_strings, Option.some.injEq] at present
      subst present
      exact inv.connected talks connection
    | setNx k value ex =>
      cases modifies
      obtain ⟨locked, same⟩ := admitted
      have texts := congrArg String.toList same
      simp [OAuthStateStore.key, refreshLockKey] at texts
    | execDel k =>
      cases modifies
      simp only [Redis.exec] at present
      split at present
      · split at present
        · simp at present
        · exact inv.saved present
      · simp at present
    | _ => cases modifies
  · rw [(w.redis.exec_strings i modifies).1] at present
    exact inv.saved present

/-- A job turns to another connection only with the value of its state. -/
theorem connected_exec (inv : Sealed settings jobs w) (talks : (jobs i).provider = some provider)
    (connection : (advance settings (jobs i) (phase settings jobs w.log i) (.redis command)
      (w.redis.exec i command).1).connection = some connectionId) : Uses jobs connectionId provider := by
  cases command with
  | get k =>
    simp only [advance] at connection
    split at connection
    · rename_i presented
      cases job : jobs i with
      | callback code state =>
        rw [job] at presented talks
        cases presented
        cases talks
        exact inv.saved connection
      | _ => simp [job, Job.stateKey] at presented
    · exact inv.connected talks connection
  | hgetall k =>
    simp only [advance, talks] at connection
    exact inv.connected talks connection
  | _ => exact inv.connected talks connection

/-- A job that loads a token works on its connection with the provider that issued it. -/
theorem known_exec (inv : Sealed settings jobs w) (separate : Separate jobs)
    (admitted : admits (jobs i) (phase settings jobs w.log i) (.redis command)) (talks : (jobs i).provider = some provider)
    (member : text ∈ (advance settings (jobs i) (phase settings jobs w.log i) (.redis command)
      (w.redis.exec i command).1).known) : Issued settings provider w.log text := by
  cases command with
  | get k =>
    simp only [advance] at member
    split at member <;> exact inv.known talks member
  | hgetall k =>
    simp only [advance, talks, Phase.learn, List.mem_append] at member
    rcases member with loaded | before
    · rcases admitted with silent | ⟨connectionId, connection, rfl⟩
      · rw [silent] at talks
        cases talks
      · obtain ⟨token, decoded, member⟩ := held_decoded loaded
        obtain ⟨issuer, uses, issued⟩ := inv.stored decoded
        obtain rfl := separate connectionId issuer provider uses (inv.connected talks connection)
        exact issued text member
    · exact inv.known talks before
  | _ => exact inv.known talks member

theorem served (inv : Sealed settings jobs w) (separate : Separate jobs)
    (admitted : admits (jobs i) (phase settings jobs w.log i) op) (served : Served env i w op answer w') :
    Sealed settings jobs w' := by
  cases served with
  | redis command =>
    apply inv.advanced
    case stored => exact fun _ _ => inv.stored_exec admitted
    case saved => exact fun _ _ => inv.saved_exec admitted
    case connected => exact fun _ _ => inv.connected_exec
    case known => exact fun _ _ talks member => (inv.known_exec separate admitted talks member).later _
  | @outside call answer allowed =>
    apply inv.advanced
    case stored => exact fun _ _ => inv.stored
    case saved => exact fun _ _ => inv.saved
    case connected =>
      intro provider connectionId talks connection
      simp only [advance, talks] at connection
      exact inv.connected talks connection
    case known =>
      intro provider text talks member
      simp only [advance, talks, Phase.learn, List.mem_append] at member
      rcases member with fresh | before
      · exact .answered fresh
      · exact (inv.known talks before).later _

theorem drifted (inv : Sealed settings jobs w) (drifted : Drifted env w w') : Sealed settings jobs w' := by
  have moved {redis : Redis ι} (entry : Entry ι) (hashes : redis.hashes = w.redis.hashes)
      (strings : ∀ k value, redis.strings k = some value → w.redis.strings k = some value)
      (phases : phase settings jobs (entry :: w.log) = phase settings jobs w.log) :
      Sealed settings jobs ⟨redis, entry :: w.log⟩ := by
    constructor
    case stored =>
      intro connectionId token decoded
      rw [hashes] at decoded
      obtain ⟨provider, uses, issued⟩ := inv.stored decoded
      exact ⟨provider, uses, fun text member => (issued text member).later _⟩
    case saved => exact fun present => inv.saved (strings _ _ present)
    case connected =>
      rw [phases]
      exact inv.connected
    case known =>
      rw [phases]
      exact fun talks member => (inv.known talks member).later _
  cases drifted with
  | @expire key present allowed =>
    refine moved _ rfl ?_ (view_expired ..)
    intro k value found
    rcases eq_or_ne k key with rfl | other
    · simp [Redis.expire] at found
    · simpa only [Redis.expire, Redis.write_strings_ne _ other] using found
  | invoice allowed => exact moved _ rfl (fun _ _ => id) (view_invoice ..)

theorem start : Sealed settings jobs ⟨.empty, []⟩ where
  stored decoded := by simp [Redis.empty, TokenStore.decode] at decoded
  saved present := by simp [Redis.empty] at present
  connected := by
    intro i provider connectionId talks connection
    exact ⟨i, connection, talks⟩
  known := by
    intro i provider text talks member
    simp [phase, view] at member

end Sealed

/-- A token goes to a host of the provider that issued it, and so, if no other
provider has issued the same one, to no foreign host. -/
theorem credentials_kept {env : Environment ι} {c : ServiceConfig ι (Except Exc Unit)} (separate : Separate jobs)
    (run : Reaches (system env) ⟨⟨.empty, []⟩, requests settings jobs⟩ c)
    (pending : c.pool i = .await (.outside call) resume) (sends : Sends call token url) :
    (∃ home, Issued settings home c.shared.log token ∧ AtHost home url) ∧
      ∀ provider, IssuedOnly settings provider c.shared.log token → AtHost provider url := by
  have reached : Sealed settings jobs c.shared ∧ Conforming (fun i => protocol settings (jobs i))
      (fun w => phase settings jobs w.log) (fun _ _ _ => True) c := by
    apply Conforming.run (tracks env _ _) ?_ ?_ run .start
    · exact fun i => job_ends (jobs i)
    · intro c i op resume answer w inv _ _ _ admitted served
      exact ⟨trivial, inv.served separate admitted served⟩
    · exact fun c w inv _ drifted => inv.drifted drifted
  obtain ⟨inv, conforming⟩ := reached
  obtain ⟨known, home, talks, at_home⟩ := conforming.admitted pending token url sends
  have issued : Issued settings home c.shared.log token := inv.known talks known
  refine ⟨⟨home, issued, at_home⟩, fun provider only => ?_⟩
  obtain rfl := only.2 home issued
  exact at_home

end Safety

section Shared
local instance : Library := .sample

/-- An answer of the Microsoft token endpoint, and the rest of what the jobs below await. -/
def answers : (call : Outside) → call.Answer
  | .http request => if request.url = MSDeviceCode.tokenUrl .sample then
      .ok ⟨200, "", some (.obj [("access_token", .str "m1"), ("refresh_token", .str "m2"), ("expires_in", .num 2 0)])⟩
    else .error "unreachable"
  | .tokenUrlsafe _ => "s1"
  | .fetchToken .. => .ok (.obj [("access_token", .str "x1"), ("refresh_token", .str "x2"), ("expires_in", .num 2 0)])
  | call => call.silence

/-- A device code is polled for, and a message is posted with the token. -/
def teams : Bool → Job
  | false => .poll "acme" "d1"
  | true => .sendMessage "acme" ⟨"t1", "c1", "hello", "html"⟩ none

def polled : List (Move Bool) :=
  [.outside false answers, .outside false answers, .redis false, .redis true, .outside true answers]

theorem teams_separate : Separate teams := by
  rintro connectionId p q ⟨i, _, talks⟩ ⟨j, _, other⟩
  cases i <;> cases j <;> (cases talks; cases other; rfl)

theorem credentials_kept_teams : IssuedOnly .sample .microsoft
      (polled.foldl play ⟨⟨.empty, []⟩, requests .sample teams⟩).shared.log "m1" ∧
    AtHost .microsoft (MSGraph.channelUrl "t1" "c1") := by
  have run : Reaches (system (.free Bool)) ⟨⟨.empty, []⟩, requests .sample teams⟩
      (polled.foldl play ⟨⟨.empty, []⟩, requests .sample teams⟩) := plays_run (free_legal ..)
  have only : IssuedOnly .sample .microsoft
      (polled.foldl play ⟨⟨.empty, []⟩, requests .sample teams⟩).shared.log "m1" := by
    refine ⟨by decide, fun other => ?_⟩
    cases other with
    | microsoft => exact fun _ => rfl
    | xero => exact fun issued => absurd issued (by decide)
  have sends : Sends (.http (MSGraph.postRequest "t1" "c1" (MSGraph.messagePayload ⟨"t1", "c1", "hello", "html"⟩) "m1"))
      "m1" (MSGraph.channelUrl "t1" "c1") := ⟨rfl, Or.inl List.mem_cons_self⟩
  have posting : ∃ resume, (polled.foldl play ⟨⟨.empty, []⟩, requests .sample teams⟩).pool true =
      .await (.outside (.http (MSGraph.postRequest "t1" "c1"
        (MSGraph.messagePayload ⟨"t1", "c1", "hello", "html"⟩) "m1"))) resume := ⟨_, rfl⟩
  obtain ⟨resume, pending⟩ := posting
  exact ⟨only, (credentials_kept teams_separate run pending sends).2 .microsoft only⟩

/-- A connection id of Xero is used to post a message. -/
def crossed : Fin 3 → Job
  | 0 => .authorize "acme"
  | 1 => .callback "code" "s1"
  | 2 => .sendMessage "acme" ⟨"t1", "c1", "hello", "html"⟩ none

def crossing : List (Move (Fin 3)) :=
  [.outside 0 answers, .redis 0, .redis 1, .redis 1, .redis 1, .outside 1 answers, .outside 1 answers,
    .outside 1 answers, .redis 1, .redis 2, .outside 2 answers]

/-- Microsoft Graph is sent the access token that Xero has issued. -/
theorem credentials_crossed : ∃ c resume, Reaches (system (.free (Fin 3))) ⟨⟨.empty, []⟩, requests .sample crossed⟩ c ∧
    c.pool 2 = .await (.outside (.http (MSGraph.postRequest "t1" "c1"
      (MSGraph.messagePayload ⟨"t1", "c1", "hello", "html"⟩) "x1"))) resume ∧
    IssuedOnly .sample .xero c.shared.log "x1" ∧ ¬ AtHost .xero (MSGraph.channelUrl "t1" "c1") := by
  refine ⟨crossing.foldl play ⟨⟨.empty, []⟩, requests .sample crossed⟩, _, plays_run (free_legal ..), rfl, ?_, ?_⟩
  · refine ⟨by decide, fun other => ?_⟩
    cases other with
    | xero => exact fun _ => rfl
    | microsoft => exact fun issued => absurd issued (by decide)
  · rintro ⟨host, listed, begins⟩
    simp only [Provider.hosts, List.mem_cons, List.not_mem_nil, or_false] at listed
    rcases listed with rfl | rfl <;> exact absurd begins (by decide)

end Shared
end OpenClaw.Credentials
