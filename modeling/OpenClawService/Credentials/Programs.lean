import OpenClawService.Credentials.Protocol

/-! Every job keeps to its automaton: it sends only tokens that it has seen, and
only to its own provider. -/
namespace OpenClaw.Credentials
open Interleaving Connection

section Hosts

theorem AtHost.append (at_host : AtHost provider base) (rest : String) : AtHost provider (base ++ rest) := by
  obtain ⟨host, listed, begins⟩ := at_host
  refine ⟨host, listed, begins.trans ?_⟩
  rw [String.toList_append]
  exact List.prefix_append ..

theorem xero_token : AtHost .xero XeroOAuth.tokenUrl := by
  simp [AtHost, Provider.hosts, XeroOAuth.tokenUrl]

theorem xero_revoke : AtHost .xero XeroOAuth.revokeUrl := by
  simp [AtHost, Provider.hosts, XeroOAuth.revokeUrl]

theorem xero_connections : AtHost .xero XeroOAuth.connectionsUrl := by
  simp [AtHost, Provider.hosts, XeroOAuth.connectionsUrl]

theorem xero_api : AtHost .xero XeroHttp.apiBase := by
  simp [AtHost, Provider.hosts, XeroHttp.apiBase]

theorem createCall_at_host : AtHost .xero (XeroHttp.createCall payload).url := xero_api.append _

theorem updateCall_at_host : AtHost .xero (XeroHttp.updateCall invoiceId status).url := (xero_api.append _).append _

theorem getCall_at_host : AtHost .xero (XeroHttp.getCall invoiceId).url := (xero_api.append _).append _

theorem listCall_at_host : AtHost .xero (XeroHttp.listCall path filter value).url := xero_api.append _

theorem microsoft_login (settings : Settings) (rest : String) :
    AtHost .microsoft (MSDeviceCode.host ++ settings.msTenantId ++ rest) := by
  refine AtHost.append (AtHost.append ?_ _) _
  simp [AtHost, Provider.hosts, MSDeviceCode.host]

theorem microsoft_graph (teamId channelId : String) : AtHost .microsoft (MSGraph.channelUrl teamId channelId) := by
  refine AtHost.append (AtHost.append (AtHost.append (AtHost.append (AtHost.append ?_ _) _) _) _) _
  simp [AtHost, Provider.hosts, MSGraph.graphBase]

theorem bearer_inj : bearer token = bearer other ↔ token = other := by
  simp [bearer]

end Hosts

section Rules
variable [Library] {settings : Settings} {job : Job} {connectionId : String} {l : Phase}

/-- The job works on its connection and has seen the tokens that it trusts. -/
def working (connectionId : String) : Stance Phase where
  inside l := l.connection = some connectionId
  trusted l token := ∀ text ∈ secrets token, text ∈ l.known
  failing _ := True

omit [Library] in
theorem learn_keeps (inside : (working connectionId).inside l) (tokens : List String) :
    (working connectionId).Keeps l (l.learn tokens) :=
  ⟨inside, fun known text member => List.mem_append_right _ (known text member), id⟩

omit [Library] in
theorem lock_apart (job : Job) : job.stateKey ≠ some (refreshLockKey connectionId) := by
  cases job with
  | callback code state =>
    intro same
    have texts := congrArg String.toList (Option.some.inj same)
    simp [OAuthStateStore.key, refreshLockKey] at texts
  | _ =>
    intro same
    cases same

/-- An await outside that sends no token. -/
theorem outside_keeps (inside : (working connectionId).inside l) {call : Outside} {answer : call.Answer} :
    (working connectionId).Keeps l (advance settings job l (.outside call) answer) := by
  simp only [advance]
  split
  · exact learn_keeps inside _
  · exact .refl inside

theorem holder (talks : job.provider ≠ none) : Holder (protocol settings job) connectionId (working connectionId) where
  plain := by
    intro l op inside plain
    cases op with
    | redis command =>
      cases command with
      | setNx k value ex => exact ⟨⟨connectionId, plain⟩, fun _ _ => .refl inside⟩
      | get k =>
        have same : k = refreshLockKey connectionId := plain
        subst same
        refine ⟨trivial, fun answer _ => ?_⟩
        simp only [protocol_advance, advance, if_neg (lock_apart job)]
        exact .refl inside
      | watch | unwatch | execDel => exact ⟨trivial, fun _ _ => .refl inside⟩
      | _ => exact plain.elim
    | outside call =>
      cases call with
      | now | uuid4 | sleep => exact ⟨fun _ _ sends => sends.elim, fun _ _ => outside_keeps inside⟩
      | _ => exact plain.elim
  load := by
    intro l inside
    refine ⟨Or.inr ⟨connectionId, inside, rfl⟩, fun hash _ => ?_⟩
    obtain ⟨provider, talking⟩ := Option.ne_none_iff_exists'.mp talks
    simp only [protocol_advance, advance, talking]
    refine ⟨learn_keeps inside _, fun token decoded text member => List.mem_append_left _ ?_⟩
    simpa only [held, decoded] using member
  store := by
    intro l token inside trusted
    exact ⟨⟨connectionId, token, inside, talks, rfl, rfl, trusted⟩, fun _ _ => .refl inside⟩

theorem bodySecrets_read {body : Json} (read : MSDeviceCode.readTokenSet body now = .ok token) :
    ∀ text ∈ secrets token, text ∈ bodySecrets body := by
  unfold MSDeviceCode.readTokenSet at read
  obtain ⟨expiresIn, _, read⟩ := bind_ok read
  obtain ⟨expiresAt, _, read⟩ := bind_ok read
  obtain ⟨accessToken, access, read⟩ := bind_ok read
  obtain ⟨tokenType, _, read⟩ := bind_ok read
  obtain ⟨refreshToken, refresh, read⟩ := bind_ok read
  obtain ⟨scope, _, read⟩ := bind_ok read
  cases read
  obtain ⟨value, present, text⟩ := bind_ok access
  simp [secrets, bodySecrets, present, Json.str_of_asText text, refresh]

theorem bodySecrets_readXero {raw tenant : Json} (read : XeroOAuth.readTokenSet raw tenant now = .ok token) :
    ∀ text ∈ secrets token, text ∈ bodySecrets raw := by
  obtain ⟨access, refresh, _⟩ := XeroOAuth.readTokenSet_fields read
  obtain ⟨value, present, text⟩ := bind_ok access
  simp [secrets, bodySecrets, present, Json.str_of_asText text, refresh]

theorem keeper (talks : job.provider = some .xero) :
    Keeper (protocol settings job) settings connectionId (working connectionId) where
  toHolder := holder (by simp [talks])
  refresh := by
    intro l token refreshToken inside trusted stored
    refine ⟨?_, fun answer _ => ⟨outside_keeps inside, ?_, fun _ _ _ => trivial⟩⟩
    · rintro text url ⟨rfl, rfl⟩
      exact ⟨trusted refreshToken (by simp [secrets, stored]), .xero, talks, xero_token⟩
    · rintro raw now renewed rfl read text member
      simp only [protocol_advance, advance, talks]
      exact List.mem_append_left _ (bodySecrets_readXero read text member)

/-- The tokens of an answer of the token endpoint are known from then on. -/
theorem known_read {request : HttpRequest} {response : HttpResponse} (talks : job.provider = some .microsoft)
    (asked : request.url = MSDeviceCode.tokenUrl settings) (success : response.isSuccess = true)
    (parsed : response.parse = .ok body) (read : MSDeviceCode.readTokenSet body now = .ok token) :
    (working connectionId).trusted (advance settings job l (.outside (.http request)) (.ok response)) token := by
  have present : response.json = some body := by
    unfold HttpResponse.parse at parsed
    split at parsed
    · rename_i value present
      cases parsed
      exact present
    · cases parsed
  intro text member
  simp only [advance, talks]
  refine List.mem_append_left _ ?_
  simp only [issues, asked, success, and_self, if_true, present]
  exact bodySecrets_read read text member

theorem graphKeeper (talks : job.provider = some .microsoft) :
    GraphKeeper (protocol settings job) settings connectionId (working connectionId) where
  toHolder := holder (by simp [talks])
  renew := by
    intro l token refreshToken inside trusted stored
    refine ⟨?_, fun answer _ => ⟨outside_keeps inside, ?_⟩⟩
    · rintro text url ⟨rfl, sent⟩
      have same : text = refreshToken := by simpa [MSDeviceCode.refreshRequest] using sent
      exact ⟨trusted text (by simp [secrets, stored, same]), .microsoft, talks, microsoft_login ..⟩
    · rintro response body now renewed rfl success parsed read
      exact known_read talks rfl success parsed read
  unavailable _ := trivial

end Rules
end OpenClaw.Credentials
