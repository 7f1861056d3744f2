import OpenClawService.Contention.Calls

/-! One pass of the clients: a token is acquired, the request is sent with it, and
the answer decides alone how the pass ends. -/
namespace OpenClaw.Exchanges
open Interleaving Contention

/-- Anything but a request over HTTP. -/
def NoHttp (op : Op) : Prop := ∀ request, op ≠ .outside (.http request)

/-- A program that sends one request waits for no other. -/
theorem http_first {next : HttpResponse → Async α} (quiet : ∀ response, (next response).run.Uses NoHttp)
    {resume : (Outside.http asked).Answer → Prog Op Op.Answer (Except Exc α)}
    (trace : (Async.http request >>= next).run.Trace events (.await (.outside (.http asked)) resume)) :
    events = [] ∧ asked = request ∧ ∀ response, resume (.ok response) = (next response).run := by
  cases trace with
  | nil => exact ⟨rfl, rfl, fun _ => rfl⟩
  | cons rest =>
    rename_i answer
    have silent : (Async.raising Exc.transport answer >>= next).run.Uses NoHttp := by
      cases answer with
      | error text => trivial
      | ok response => exact quiet response
    exact ((silent.trace rest).1 asked rfl).elim

section Renewals
variable [Library] {settings : Settings} {manager : Manager} {connectionId : String}

/-- Only a refresh renews. -/
theorem advance_renewals {a : Account} {op : Op} {answer : op.Answer} {call : Outside} {reply : call.Answer}
    (absent : ⟨call, reply⟩ ∉ a.renewals) (renewed : ⟨call, reply⟩ ∈ (advance connectionId a op answer).renewals) :
    (⟨op, answer⟩ : (op : Op) × op.Answer) = ⟨.outside call, reply⟩ := by
  cases op with
  | redis command => exact (absent (Account.redis_renewals ▸ renewed)).elim
  | outside asked =>
    cases asked with
    | now => exact (absent (Account.timed_renewals ▸ renewed)).elim
    | http request | refreshToken session url text =>
      rcases List.mem_cons.mp renewed with fresh | earlier
      · cases fresh
        rfl
      · exact (absent earlier).elim
    | _ => exact (absent renewed).elim

/-- What a refresh among the events has granted is what the command stores. -/
def Granted (settings : Settings) (manager : Manager) (connectionId : String) (events : List ((op : Op) × op.Answer))
    (command : Command) : Prop :=
  ∃ (call : Outside) (answer : call.Answer) (current token : TokenSet), ⟨.outside call, answer⟩ ∈ events ∧
    manager.Renews settings current ⟨call, answer⟩ token ∧ command = .hset (TokenStore.key connectionId) (TokenStore.toMapping token)

/-- Of the token store only the token of the connection is changed, and to what has been granted. -/
def Changes (settings : Settings) (manager : Manager) (connectionId : String) (events : List ((op : Op) × op.Answer)) : Prop :=
  ∀ earlier command answer later, events = earlier ++ ⟨.redis command, answer⟩ :: later →
    command.modifiesHash = none ∨ Granted settings manager connectionId earlier command

/-- A call for a token changes nothing else. -/
theorem changes_trace {program : Async α} {post : Except Exc α → Account → Prop} {events : List ((op : Op) × op.Answer)}
    {later : Prog Op Op.Answer (Except Exc α)} (meets : Meets (protocol settings manager connectionId) program {} post)
    (trace : program.run.Trace events later) : Changes settings manager connectionId events := by
  have free (a : Account) (op : Op) (answer : op.Answer) : (protocol settings manager connectionId).expects a op answer := trivial
  rintro earlier command answer rest rfl
  have admitted : admits settings manager connectionId _ (.redis command) := Conforms.trace_admits free meets trace
  cases command with
  | hset k mapping =>
    obtain ⟨rfl, _, _, token, ⟨current, ⟨call, reply⟩, _, renewals, renews⟩, rfl⟩ := admitted
    have member : (⟨call, reply⟩ : (call : Outside) × call.Answer) ∈ ((protocol settings manager connectionId).after {} earlier).renewals := by
      rw [renewals]
      exact List.mem_singleton_self _
    obtain ⟨before, op, answer', between, rfl, absent, renewed⟩ :=
      (protocol settings manager connectionId).origin (fun a => ⟨call, reply⟩ ∈ a.renewals) (by simp) member
    cases advance_renewals absent renewed
    exact Or.inr ⟨call, reply, current, token, by simp, renews, rfl⟩
  | delHash k => exact admitted.elim
  | _ => exact Or.inl rfl

theorem Granted.later {events : List ((op : Op) × op.Answer)} {command : Command}
    (granted : Granted settings manager connectionId events command) (earlier : List ((op : Op) × op.Answer)) :
    Granted settings manager connectionId (earlier ++ events) command := by
  obtain ⟨call, answer, current, token, listed, renews, stored⟩ := granted
  exact ⟨call, answer, current, token, List.mem_append_right _ listed, renews, stored⟩

theorem Changes.append {events events' : List ((op : Op) × op.Answer)} (first : Changes settings manager connectionId events)
    (second : Changes settings manager connectionId events') : Changes settings manager connectionId (events ++ events') := by
  intro earlier command answer later split
  rcases List.append_eq_append_iff.mp split with ⟨between, rfl, rest⟩ | ⟨between, rfl, rest⟩
  · exact (second between command answer later rest).imp id fun granted => granted.later events
  · cases between with
    | nil =>
      refine (second [] command answer later rest.symm).imp id fun granted => ?_
      simpa using granted.later earlier
    | cons event between =>
      cases rest
      exact first earlier command answer between rfl

end Renewals

section Graph
variable [Library] {settings : Settings} {connectionId teamId channelId : String} {payload : Json}

/-- How a pass ends after the answer to its POST; only the first one gives way to another. -/
def concluded (first : Bool) : Except String HttpResponse → Except Exc (Option Json)
  | .error text => .error (.transport text)
  | .ok response =>
    if response.statusCode = 401 ∧ first then .ok none
    else if !response.isSuccess then .error (MSDeviceCode.unexpected "Microsoft Graph" response)
    else some <$> response.parse

omit [Library] in
theorem concluded_refused {response : HttpResponse} {first : Bool} (refused : response.isSuccess = false)
    (last : ¬ (response.statusCode = 401 ∧ first)) :
    concluded first (.ok response) = .error (MSDeviceCode.unexpected "Microsoft Graph" response) := by
  rw [concluded, if_neg last, if_pos (by simp [refused])]

omit [Library] in
/-- Another pass is made only after 401. -/
theorem concluded_again {response : HttpResponse} {first : Bool} (again : concluded first (.ok response) = .ok none) :
    response.statusCode = 401 ∧ first = true := by
  rw [concluded] at again
  split at again
  · assumption
  · split at again
    · cases again
    · obtain ⟨body, _, absent⟩ := map_ok again
      cases absent

omit [Library] in
theorem concluded_body {response : HttpResponse} {first : Bool} {body : Json}
    (returned : concluded first (.ok response) = .ok (some body)) : response.isSuccess = true ∧ response.parse = .ok body := by
  rw [concluded] at returned
  split at returned
  · cases returned
  · split at returned
    · cases returned
    · rename_i success
      obtain ⟨body', parsed, same⟩ := map_ok returned
      cases same
      exact ⟨by simpa using success, parsed⟩

/-- How far a pass has got. -/
inductive Pass (settings : Settings) (connectionId teamId channelId : String) (payload : Json) (first : Bool) :
    List ((op : Op) × op.Answer) → Prog Op Op.Answer (Except Exc (Option Json)) → Prop where
  | acquiring {events : List ((op : Op) × op.Answer)} {op : Op} {resume : op.Answer → Prog Op Op.Answer (Except Exc String)}
      {resume' : op.Answer → Prog Op Op.Answer (Except Exc (Option Json))}
      (token : (MSTokenManager.getToken settings connectionId (!first)).run.Trace events (.await op resume)) :
      Pass settings connectionId teamId channelId payload first events (.await op resume')
  | tokenless {events : List ((op : Op) × op.Answer)} {exc : Exc}
      (token : (MSTokenManager.getToken settings connectionId (!first)).run.Trace events (.done (.error exc))) :
      Pass settings connectionId teamId channelId payload first events (.done (.error exc))
  | posting {events : List ((op : Op) × op.Answer)} {text : String}
      (token : (MSTokenManager.getToken settings connectionId (!first)).run.Trace events (.done (.ok text))) :
      Pass settings connectionId teamId channelId payload first events
        (.await (.outside (.http (MSGraph.postRequest teamId channelId payload text))) fun answer => .done (concluded first answer))
  | answered {events : List ((op : Op) × op.Answer)} {text : String} {answer : Except String HttpResponse}
      (token : (MSTokenManager.getToken settings connectionId (!first)).run.Trace events (.done (.ok text))) :
      Pass settings connectionId teamId channelId payload first
        (events ++ [⟨.outside (.http (MSGraph.postRequest teamId channelId payload text)), answer⟩]) (.done (concluded first answer))

omit [Library] in
/-- After the token, a pass asks for nothing but the POST. -/
theorem posts_once (text : String) (first : Bool) : (do
      let response ← Async.http (MSGraph.postRequest teamId channelId payload text)
      if response.statusCode = 401 ∧ first then return none
      else if !response.isSuccess then throw (MSDeviceCode.unexpected "Microsoft Graph" response)
      else some <$> Async.ofExcept response.parse : Async (Option Json)).run =
    .await (.outside (.http (MSGraph.postRequest teamId channelId payload text))) fun answer => .done (concluded first answer) := by
  refine congrArg (Prog.await _) (funext fun answer => ?_)
  cases answer with
  | error text => rfl
  | ok response =>
    have answered : (if response.statusCode = 401 ∧ first then return none
        else if !response.isSuccess then throw (MSDeviceCode.unexpected "Microsoft Graph" response)
        else some <$> Async.ofExcept response.parse : Async (Option Json)).run = .done (concluded first (.ok response)) := by
      dsimp only [concluded]
      by_cases again : response.statusCode = 401 ∧ first
      · rw [if_pos again, if_pos again]
        rfl
      · rw [if_neg again, if_neg again]
        by_cases refused : (!response.isSuccess) = true
        · rw [if_pos refused, if_pos refused]
          rfl
        · rw [if_neg refused, if_neg refused]
          cases response.parse <;> rfl
    exact answered

theorem attempt_pass {first : Bool} {later : Prog Op Op.Answer (Except Exc (Option Json))}
    (trace : (MSGraph.attempt settings connectionId teamId channelId payload first).run.Trace events later) :
    Pass settings connectionId teamId channelId payload first events later := by
  cases trace.halves with
  | waiting token => exact .acquiring token
  | raised token => exact .tokenless token
  | @passed before rest text later token posted =>
    rw [posts_once] at posted
    cases posted with
    | nil =>
      rw [List.append_nil]
      exact .posting token
    | cons ended =>
      cases ended
      exact .answered token

omit [Library] in
/-- The hosts differ. -/
theorem channel_apart : MSGraph.channelUrl teamId channelId ≠ MSDeviceCode.tokenUrl settings := by
  intro same
  have eighth := congrArg (fun url : String => url.toList[8]?) same
  simp [MSDeviceCode.tokenUrl, MSDeviceCode.host, MSGraph.channelUrl, MSGraph.graphBase] at eighth

/-- Acquiring a token sends nothing but refreshes. -/
theorem getToken_refreshes {force : Bool} {events : List ((op : Op) × op.Answer)} {later : Prog Op Op.Answer (Except Exc String)}
    (trace : (MSTokenManager.getToken settings connectionId force).run.Trace events later) :
    (∀ request resume, later = .await (.outside (.http request)) resume →
      ∃ refreshToken, request = MSDeviceCode.refreshRequest settings refreshToken) ∧
      ∀ request answer, ⟨.outside (.http request), answer⟩ ∈ events →
        ∃ refreshToken, request = MSDeviceCode.refreshRequest settings refreshToken := by
  have free (a : Account) (op : Op) (answer : op.Answer) : (protocol settings (.microsoft force) connectionId).expects a op answer := trivial
  have refresh {a : Account} {request : HttpRequest} (admitted : admits settings (.microsoft force) connectionId a (.outside (.http request))) :
      ∃ refreshToken, request = MSDeviceCode.refreshRequest settings refreshToken := by
    obtain ⟨_, _, refreshToken, _, _, same⟩ := admitted
    cases same
    exact ⟨refreshToken, rfl⟩
  constructor
  · rintro request resume rfl
    exact refresh (Conforms.trace free getToken_meets trace).1
  · intro request answer member
    obtain ⟨before, after, rfl⟩ := List.append_of_mem member
    exact refresh (Conforms.trace_admits free getToken_meets trace)

end Graph

section Xero
variable [Library] {settings : Settings} {connectionId : String} {call : XeroHttp.Call}

/-- A token is acquired without any request over HTTP. -/
theorem getValidToken_quiet {events : List ((op : Op) × op.Answer)} {later : Prog Op Op.Answer (Except Exc TokenSet)}
    (trace : (XeroTokenManager.getValidToken settings connectionId).run.Trace events later) :
    (∀ request resume, later ≠ .await (.outside (.http request)) resume) ∧
      ∀ request answer, ⟨.outside (.http request), answer⟩ ∉ events := by
  have free (a : Account) (op : Op) (answer : op.Answer) : (protocol settings .xero connectionId).expects a op answer := trivial
  have other (a : Account) (request : HttpRequest) : ¬ admits settings .xero connectionId a (.outside (.http request)) := by
    rintro ⟨_, _, _, _, _, same⟩
    cases same
  constructor
  · rintro request resume rfl
    exact other _ request (Conforms.trace free getValidToken_meets trace).1
  · intro request answer member
    obtain ⟨before, after, rfl⟩ := List.append_of_mem member
    exact other _ request (Conforms.trace_admits free getValidToken_meets trace)

/-- How a pass goes on after the answer to its request; after 401 the first one deletes the token. -/
def heard (connectionId : String) (first : Bool) : Except String HttpResponse → Prog Op Op.Answer (Except Exc (Option Json))
  | .error text => .done (.error (.transport text))
  | .ok response =>
    if response.statusCode = 401 ∧ first then
      .await (.redis (.delHash (TokenStore.key connectionId))) fun _ => .done (.ok none)
    else if !response.isSuccess then
      .done (.error (.providerUnavailableError ("Xero API returned " ++ toString response.statusCode ++ ": " ++ clip 300 response.text)))
    else .done (some <$> response.parse)

omit [Library] in
/-- Whatever was refused is unavailable, but for the 401 of a first pass. -/
theorem heard_refused (connectionId : String) {response : HttpResponse} {first : Bool} (refused : response.isSuccess = false)
    (last : ¬ (response.statusCode = 401 ∧ first)) : ∃ text,
    heard connectionId first (.ok response) = .done (.error (.providerUnavailableError text)) := by
  rw [heard, if_neg last, if_pos (by simp [refused])]
  exact ⟨_, rfl⟩

omit [Library] in
/-- Another pass is made only after the token has been deleted. -/
theorem heard_again {answer : Except String HttpResponse} {first : Bool} {events : List ((op : Op) × op.Answer)}
    (trace : (heard connectionId first answer).Trace events (.done (.ok none))) :
    ∃ reply, events = [⟨.redis (.delHash (TokenStore.key connectionId)), reply⟩] := by
  cases answer with
  | error text => cases trace
  | ok response =>
    rw [heard] at trace
    split at trace
    · cases trace with
      | cons rest =>
        cases rest
        exact ⟨_, rfl⟩
    · split at trace
      · cases trace
      · generalize parsed : some <$> response.parse = outcome at trace
        cases trace
        obtain ⟨body, _, absent⟩ := map_ok parsed
        cases absent

/-- How far a pass has got. -/
inductive XeroPass (settings : Settings) (connectionId : String) (call : XeroHttp.Call) (first : Bool) :
    List ((op : Op) × op.Answer) → Prog Op Op.Answer (Except Exc (Option Json)) → Prop where
  | acquiring {events : List ((op : Op) × op.Answer)} {op : Op} {resume : op.Answer → Prog Op Op.Answer (Except Exc TokenSet)}
      {resume' : op.Answer → Prog Op Op.Answer (Except Exc (Option Json))}
      (token : (XeroTokenManager.getValidToken settings connectionId).run.Trace events (.await op resume)) :
      XeroPass settings connectionId call first events (.await op resume')
  | tokenless {events : List ((op : Op) × op.Answer)} {exc : Exc} : XeroPass settings connectionId call first events (.done (.error exc))
  | asking {events : List ((op : Op) × op.Answer)} {token : TokenSet} {tenantId : String}
      (acquired : (XeroTokenManager.getValidToken settings connectionId).run.Trace events (.done (.ok token))) :
      XeroPass settings connectionId call first events
        (.await (.outside (.http (call.request token.accessToken tenantId))) (heard connectionId first))
  | answered {events events' : List ((op : Op) × op.Answer)} {token : TokenSet} {tenantId : String} {answer : Except String HttpResponse}
      {later : Prog Op Op.Answer (Except Exc (Option Json))}
      (acquired : (XeroTokenManager.getValidToken settings connectionId).run.Trace events (.done (.ok token)))
      (rest : (heard connectionId first answer).Trace events' later) : XeroPass settings connectionId call first
        (events ++ ⟨.outside (.http (call.request token.accessToken tenantId)), answer⟩ :: events') later

omit [Library] in
/-- After the token, a pass asks for nothing but its request and the deletion. -/
theorem asks_once (connectionId accessToken tenantId : String) (first : Bool) : (do
      let response ← Async.http (call.request accessToken tenantId)
      if response.statusCode = 401 ∧ first then
        TokenStore.delete connectionId
        return none
      else if !response.isSuccess then
        throw (.providerUnavailableError ("Xero API returned " ++ toString response.statusCode ++ ": " ++
          clip 300 response.text))
      else some <$> Async.ofExcept response.parse : Async (Option Json)).run =
    .await (.outside (.http (call.request accessToken tenantId))) (heard connectionId first) := by
  refine congrArg (Prog.await _) (funext fun answer => ?_)
  cases answer with
  | error text => rfl
  | ok response =>
    have answered : (if response.statusCode = 401 ∧ first then do
          TokenStore.delete connectionId
          return none
        else if !response.isSuccess then
          throw (.providerUnavailableError ("Xero API returned " ++ toString response.statusCode ++ ": " ++
            clip 300 response.text))
        else some <$> Async.ofExcept response.parse : Async (Option Json)).run = heard connectionId first (.ok response) := by
      dsimp only [heard]
      by_cases again : response.statusCode = 401 ∧ first
      · rw [if_pos again, if_pos again]
        rfl
      · rw [if_neg again, if_neg again]
        by_cases refused : (!response.isSuccess) = true
        · rw [if_pos refused, if_pos refused]
          rfl
        · rw [if_neg refused, if_neg refused]
          cases response.parse <;> rfl
    exact answered

theorem attempt_xeroPass {first : Bool} {events : List ((op : Op) × op.Answer)} {later : Prog Op Op.Answer (Except Exc (Option Json))}
    (trace : (XeroHttp.attempt settings connectionId call first).run.Trace events later) :
    XeroPass settings connectionId call first events later := by
  cases trace.halves with
  | waiting token => exact .acquiring token
  | raised token => exact .tokenless
  | @passed before rest token later acquired asked =>
    cases tenant : token.xeroTenantId with
    | none =>
      simp only [tenant] at asked
      cases asked
      exact .tokenless
    | some tenantId =>
      simp only [tenant, asks_once] at asked
      cases asked with
      | nil =>
        rw [List.append_nil]
        exact .asking acquired
      | cons ended => exact .answered acquired ended

end Xero
end OpenClaw.Exchanges
