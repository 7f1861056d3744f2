import OpenClawService.Exchanges.Passes
import OpenClawService.UseCases.Teams

/-! Posting to a channel. At most two POSTs are made, the second one only after the
first was answered 401 and with a token that the call has refreshed and stored since. -/
namespace OpenClaw.Exchanges
open Interleaving Contention

/-- The answered requests other than those to the token endpoint, the oldest first. -/
def posts (settings : Settings) (events : List ((op : Op) × op.Answer)) : List (HttpRequest × Except String HttpResponse) :=
  events.filterMap fun
    | ⟨.outside (.http request), answer⟩ => if request.url = MSDeviceCode.tokenUrl settings then none else some (request, answer)
    | _ => none

/-- The answer is a response with status 401. -/
def unauthorized : Except String HttpResponse → Bool
  | .ok response => response.statusCode == 401
  | .error _ => false

def succeeded : Except String HttpResponse → Bool
  | .ok response => response.isSuccess
  | .error _ => false

section Posts
variable {settings : Settings} {teamId channelId : String} {events events' : List ((op : Op) × op.Answer)}

@[simp] theorem posts_nil : posts settings [] = [] := rfl

@[simp] theorem posts_append : posts settings (events ++ events') = posts settings events ++ posts settings events' :=
  List.filterMap_append

@[simp] theorem posts_post (payload : Json) (text : String) (answer : Except String HttpResponse) :
    posts settings [⟨.outside (.http (MSGraph.postRequest teamId channelId payload text)), answer⟩] =
      [(MSGraph.postRequest teamId channelId payload text, answer)] := by
  simp [posts, MSGraph.postRequest, channel_apart]

theorem posts_eq_nil (renewing : ∀ request answer, ⟨.outside (.http request), answer⟩ ∈ events →
    ∃ refreshToken, request = MSDeviceCode.refreshRequest settings refreshToken) : posts settings events = [] := by
  refine List.filterMap_eq_nil_iff.mpr fun event member => ?_
  split
  · obtain ⟨refreshToken, rfl⟩ := renewing _ _ member
    exact if_pos rfl
  · rfl

end Posts

section Refreshed
variable [Library] {settings : Settings} {connectionId : String}

/-- Within these events the lock is won, the token in store is refreshed under it and
the answer stored, still under the lock; the text is the access token of the answer. -/
def Obtained (settings : Settings) (connectionId : String) (events : List ((op : Op) × op.Answer)) (text : String) : Prop :=
  ∃ before refreshToken response between token after body now,
    events = (before ++ ⟨.outside (.http (MSDeviceCode.refreshRequest settings refreshToken)), .ok response⟩ :: between) ++
      ⟨.redis (.hset (TokenStore.key connectionId) (TokenStore.toMapping token)), ()⟩ :: after ∧
    (account connectionId before).holding = true ∧
    (account connectionId (before ++ ⟨.outside (.http (MSDeviceCode.refreshRequest settings refreshToken)), .ok response⟩ :: between)).holding = true ∧
    response.isSuccess = true ∧ response.parse = .ok body ∧ MSDeviceCode.readTokenSet body now = .ok token ∧ token.accessToken = text

/-- Only a store writes. -/
theorem advance_written {a : Account} {op : Op} {answer : op.Answer} (unwritten : a.written ≠ some mapping)
    (written : (advance connectionId a op answer).written = some mapping) : op = .redis (.hset (TokenStore.key connectionId) mapping) := by
  cases op with
  | redis command =>
    cases command with
    | hset k mapping' =>
      simp only [advance] at written
      split at written
      · rename_i own
        cases written
        rw [own]
      · exact (unwritten written).elim
    | setNx | watch | hgetall =>
      simp only [advance] at written
      split at written <;> exact (unwritten written).elim
    | _ => exact (unwritten written).elim
  | outside call =>
    cases call with
    | now => exact (unwritten (Account.timed_written.symm.trans written)).elim
    | _ => exact (unwritten written).elim

theorem toMapping_accessToken {token token' : TokenSet} (same : TokenStore.toMapping token = TokenStore.toMapping token') :
    token.accessToken = token'.accessToken := by
  simp only [TokenStore.toMapping, List.cons.injEq, Prod.mk.injEq] at same
  exact same.1.2

theorem forced_obtains {events : List ((op : Op) × op.Answer)}
    (trace : (MSTokenManager.getToken settings connectionId true).run.Trace events (.done (.ok text))) :
    Obtained settings connectionId events text := by
  let P := protocol settings (.microsoft true) connectionId
  have free (a : Account) (op : Op) (answer : op.Answer) : P.expects a op answer := trivial
  obtain ⟨token, written, _, same⟩ := (Conforms.trace free forced_meets trace).returned rfl
  -- The store, and the refresh before it, are both under the lock.
  obtain ⟨stored, op, answer, after, rfl, unwritten, writes⟩ :=
    P.origin (fun a => a.written = some (TokenStore.toMapping token)) (by simp) written
  obtain rfl := advance_written unwritten writes
  obtain ⟨_, holding', _, token', ⟨current, event, _, renewals, renews⟩, mapping⟩ := Conforms.trace_admits free forced_meets trace
  obtain ⟨call, reply⟩ := event
  have member : (⟨call, reply⟩ : (call : Outside) × call.Answer) ∈ (P.after {} stored).renewals := by
    rw [renewals]
    exact List.mem_singleton_self _
  obtain ⟨before, op, answer', between, rfl, absent, renewed⟩ :=
    P.origin (fun a => ⟨call, reply⟩ ∈ a.renewals) (by simp) member
  have refresh := advance_renewals absent renewed
  cases refresh
  rw [List.append_assoc, List.cons_append] at trace
  cases call with
  | http request =>
    cases reply with
    | error failed => exact renews.elim
    | ok response =>
      have licensed : Licensed settings (.microsoft true) _ := (Conforms.trace_admits free forced_meets trace).1
      obtain ⟨refreshToken, body, now, _, rfl, success, parsed, read⟩ := renews
      refine ⟨before, refreshToken, response, between, token', after, body, now, ?_, licensed.holding, holding', success, parsed, read, ?_⟩
      · rw [mapping]
      · exact (toMapping_accessToken mapping).symm.trans same
  | _ => exact renews.elim

end Refreshed

/-! A call, as one pass or two. -/

/-- What a pass leads to: a body is returned, anything else goes on or is raised. -/
structure Leads (pass : Prog Op Op.Answer (Except Exc (Option Json))) (call : Prog Op Op.Answer (Except Exc Json)) : Prop where
  waits : call = .await op resume → ∃ resume', pass = .await op resume'
  returns : call = .done (.ok body) → pass = .done (.ok (some body))

section Calls
variable [Library] {settings : Settings} {connectionId teamId channelId : String} {payload : Json}

/-- How far a call has got. -/
inductive Posted (settings : Settings) (connectionId teamId channelId : String) (payload : Json) :
    List ((op : Op) × op.Answer) → Prog Op Op.Answer (Except Exc Json) → Prop where
  | once {events : List ((op : Op) × op.Answer)} {pass : Prog Op Op.Answer (Except Exc (Option Json))}
      {call : Prog Op Op.Answer (Except Exc Json)} (first : Pass settings connectionId teamId channelId payload true events pass)
      (leads : Leads pass call) : Posted settings connectionId teamId channelId payload events call
  | twice {events events' : List ((op : Op) × op.Answer)} {pass : Prog Op Op.Answer (Except Exc (Option Json))}
      {call : Prog Op Op.Answer (Except Exc Json)}
      (first : Pass settings connectionId teamId channelId payload true events (.done (.ok none)))
      (second : Pass settings connectionId teamId channelId payload false events' pass) (leads : Leads pass call) :
      Posted settings connectionId teamId channelId payload (events ++ events') call

theorem postToChannel_posted {events : List ((op : Op) × op.Answer)} {call : Prog Op Op.Answer (Except Exc Json)}
    (trace : (MSGraph.postToChannel settings connectionId teamId channelId payload).run.Trace events call) :
    Posted settings connectionId teamId channelId payload events call := by
  cases trace.halves with
  | waiting first => exact .once (attempt_pass first) ⟨by rintro op resume ⟨⟩; exact ⟨_, rfl⟩, nofun⟩
  | raised first => exact .once (attempt_pass first) ⟨nofun, nofun⟩
  | @passed _ _ result _ first rest =>
    cases result with
    | some body =>
      cases rest
      rw [List.append_nil]
      exact .once (attempt_pass first) ⟨nofun, by rintro body ⟨⟩; rfl⟩
    | none =>
      cases rest.halves with
      | waiting second => exact .twice (attempt_pass first) (attempt_pass second) ⟨by rintro op resume ⟨⟩; exact ⟨_, rfl⟩, nofun⟩
      | raised second => exact .twice (attempt_pass first) (attempt_pass second) ⟨nofun, nofun⟩
      | @passed _ _ result _ second rest =>
        cases result with
        | some body =>
          cases rest
          rw [List.append_nil]
          exact .twice (attempt_pass first) (attempt_pass second) ⟨nofun, by rintro body ⟨⟩; rfl⟩
        | none =>
          cases rest
          rw [List.append_nil]
          exact .twice (attempt_pass first) (attempt_pass second) ⟨nofun, nofun⟩

theorem token_unposted {force : Bool} {events : List ((op : Op) × op.Answer)} {later : Prog Op Op.Answer (Except Exc String)}
    (trace : (MSTokenManager.getToken settings connectionId force).run.Trace events later) : posts settings events = [] :=
  posts_eq_nil (getToken_refreshes trace).2

namespace Pass
variable {first : Bool} {events : List ((op : Op) × op.Answer)} {pass : Prog Op Op.Answer (Except Exc (Option Json))}

/-- A pass that waits for an answer waits for that of a refresh or of its POST. -/
theorem asks {request : HttpRequest} {resume : (Outside.http request).Answer → Prog Op Op.Answer (Except Exc (Option Json))}
    (reached : Pass settings connectionId teamId channelId payload first events (.await (.outside (.http request)) resume)) :
    (∃ refreshToken, request = MSDeviceCode.refreshRequest settings refreshToken) ∨
      posts settings events = [] ∧ ∃ text, request = MSGraph.postRequest teamId channelId payload text ∧
        (MSTokenManager.getToken settings connectionId (!first)).run.Trace events (.done (.ok text)) := by
  cases reached with
  | acquiring token => exact Or.inl ((getToken_refreshes token).1 _ _ rfl)
  | posting token => exact Or.inr ⟨token_unposted token, _, rfl, token⟩

theorem single (reached : Pass settings connectionId teamId channelId payload first events pass) :
    (posts settings events).length ≤ 1 := by
  cases reached with
  | acquiring token | tokenless token | posting token => simp [token_unposted token]
  | answered token => simp [token_unposted token]

/-- A pass that has ended well was answered. -/
theorem answers (reached : Pass settings connectionId teamId channelId payload first events (.done (.ok found))) :
    ∃ before text response, events = before ++ [⟨.outside (.http (MSGraph.postRequest teamId channelId payload text)), .ok response⟩] ∧
      posts settings before = [] ∧ concluded first (.ok response) = .ok found := by
  generalize ended : (Prog.done (.ok found) : Prog Op Op.Answer (Except Exc (Option Json))) = pass at reached
  cases reached with
  | acquiring | tokenless | posting => cases ended
  | @answered before text answer token =>
    have concludes := Prog.done.inj ended
    cases answer with
    | error failed => cases concludes
    | ok response => exact ⟨before, text, response, rfl, token_unposted token, concludes.symm⟩

end Pass

/-- What a call sends, over all its traces: refreshes, and at most two POSTs of the same
payload to the channel, the second one only after 401 and with a token obtained since;
at most one is answered otherwise; and a body that is returned is that of the last. -/
structure Delivers (settings : Settings) (connectionId teamId channelId : String) (payload : Json) (call : Async Json) : Prop where
  few : call.run.Trace events later → (posts settings events).length ≤ 2 ∧
    (posts settings events).countP (!unauthorized ·.2) ≤ 1
  asks : call.run.Trace events (.await (.outside (.http request)) resume) →
    (∃ refreshToken, request = MSDeviceCode.refreshRequest settings refreshToken) ∨
    ∃ text, request = MSGraph.postRequest teamId channelId payload text ∧ (posts settings events = [] ∨
      ∃ before first answer between,
        events = before ++ ⟨.outside (.http (MSGraph.postRequest teamId channelId payload first)), answer⟩ :: between ∧
        posts settings before = [] ∧ posts settings between = [] ∧ unauthorized answer = true ∧
        Obtained settings connectionId between text)
  returned : call.run.Trace events (.done (.ok body)) → ∃ earlier post response,
    posts settings events = earlier ++ [(post, .ok response)] ∧ response.isSuccess = true ∧ response.parse = .ok body ∧
      earlier.countP (succeeded ·.2) = 0

/-- The events of a first pass that gives way to a second one. -/
theorem first_refused {events : List ((op : Op) × op.Answer)}
    (first : Pass settings connectionId teamId channelId payload true events (.done (.ok none))) :
    ∃ before text response, events = before ++ [⟨.outside (.http (MSGraph.postRequest teamId channelId payload text)), .ok response⟩] ∧
      posts settings before = [] ∧ response.statusCode = 401 := by
  obtain ⟨before, text, response, split, unposted, concludes⟩ := first.answers
  exact ⟨before, text, response, split, unposted, (concluded_again concludes).1⟩

theorem postToChannel_delivers : Delivers settings connectionId teamId channelId payload
    (MSGraph.postToChannel settings connectionId teamId channelId payload) where
  few trace := by
    cases postToChannel_posted trace with
    | once first leads =>
      have single : (posts settings _).length ≤ 1 := first.single
      exact ⟨single.trans (by decide), List.countP_le_length.trans single⟩
    | twice first second leads =>
      obtain ⟨before, text, response, rfl, unposted, status⟩ := first_refused first
      have single : (posts settings _).length ≤ 1 := second.single
      have refused : unauthorized (.ok response) = true := by simp [unauthorized, status]
      have counted := (List.countP_le_length (p := (!unauthorized ·.2))).trans single
      simp only [posts_append, unposted, posts_post, List.nil_append, List.length_append, List.length_singleton, List.countP_append,
        List.countP_singleton, refused]
      exact ⟨Nat.add_le_add_left single 1, by simpa using counted⟩
  asks trace := by
    cases postToChannel_posted trace with
    | once first leads =>
      obtain ⟨resume', rfl⟩ := leads.waits rfl
      rcases first.asks with renewing | ⟨unposted, text, same, _⟩
      · exact Or.inl renewing
      · exact Or.inr ⟨text, same, Or.inl unposted⟩
    | twice first second leads =>
      obtain ⟨resume', rfl⟩ := leads.waits rfl
      obtain ⟨before, text, response, rfl, unposted, status⟩ := first_refused first
      rcases second.asks with renewing | ⟨unposted', text', same, token⟩
      · exact Or.inl renewing
      · have refused : unauthorized (.ok response) = true := by simp [unauthorized, status]
        exact Or.inr ⟨text', same, Or.inr ⟨before, text, _, _, List.append_assoc .., unposted, unposted', refused, forced_obtains token⟩⟩
  returned trace := by
    cases postToChannel_posted trace with
    | once first leads =>
      cases leads.returns rfl
      obtain ⟨before, text, response, rfl, unposted, concludes⟩ := first.answers
      obtain ⟨success, parsed⟩ := concluded_body concludes
      exact ⟨[], MSGraph.postRequest teamId channelId payload text, response, by simp [unposted], success, parsed, rfl⟩
    | twice first second leads =>
      cases leads.returns rfl
      obtain ⟨before, text, response, rfl, unposted, status⟩ := first_refused first
      obtain ⟨between, text', response', rfl, unposted', concludes⟩ := second.answers
      obtain ⟨success, parsed⟩ := concluded_body concludes
      refine ⟨_, _, response', by simp only [posts_append, unposted, unposted', posts_post, List.nil_append]; rfl, success, parsed, ?_⟩
      simp [succeeded, HttpResponse.isSuccess, status]

end Calls

/-! The use cases around a call. -/

section Caching
variable [Library] {settings : Settings} {connectionId teamId channelId : String} {payload : Json}

/-- What a use case relies on when it caches the result of a call. -/
structure Sends (settings : Settings) (call : Async Json) : Prop where
  uncached : ¬ call.run.Trace events (.await (.redis (.setJson k value ex)) resume)
  delivered : call.run.Trace events (.done (.ok body)) → (posts settings events).countP (succeeded ·.2) = 1

theorem postToChannel_sends : Sends settings (MSGraph.postToChannel settings connectionId teamId channelId payload) where
  uncached trace := by
    have free {force : Bool} (a : Account) (op : Op) (answer : op.Answer) :
      (protocol settings (.microsoft force) connectionId).expects a op answer := trivial
    have awaits {first : Bool} {events k value ex resume} (pass : Pass settings connectionId teamId channelId payload first events
        (.await (.redis (.setJson k value ex)) resume)) : False := by
      cases pass with
      | acquiring token => exact (Conforms.trace free getToken_meets token).1
    cases postToChannel_posted trace with
    | once first leads =>
      obtain ⟨_, rfl⟩ := leads.waits rfl
      exact awaits first
    | twice first second leads =>
      obtain ⟨_, rfl⟩ := leads.waits rfl
      exact awaits second
  delivered trace := by
    obtain ⟨earlier, post, response, split, success, _, refused⟩ := postToChannel_delivers.returned trace
    rw [split, List.countP_append, refused]
    simp [succeeded, success]

omit [Library] in
theorem ofExcept_events {outcome : Except Exc α} {events : List ((op : Op) × op.Answer)} {later : Prog Op Op.Answer (Except Exc α)}
    (trace : (Async.ofExcept outcome).run.Trace events later) : events = [] := by
  cases trace
  rfl

omit [Library] in
theorem hit_unposted {events : List ((op : Op) × op.Answer)} {later : Prog Op Op.Answer (Except Exc (Option Json))}
    (trace : (IdempotencyStore.hit k).run.Trace events later) : posts settings events = [] := by
  cases trace with
  | nil => rfl
  | cons rest =>
    cases rest
    rfl

omit [Library] in
theorem sendOnce_caches {call : Async Json} (sends : Sends settings call) {events : List ((op : Op) × op.Answer)}
    {resume : (Command.setJson k value ex).Reply → Prog Op Op.Answer (Except Exc MessageResult)}
    (trace : (sendOnce operation ttlSeconds key call).run.Trace events (.await (.redis (.setJson k value ex)) resume)) :
    (posts settings events).countP (succeeded ·.2) = 1 := by
  unfold sendOnce at trace
  cases keyed : key.bind orNone with
  | none =>
    simp only [keyed] at trace
    cases trace.halves with
    | waiting first => exact (sends.uncached first).elim
    | passed _ second =>
      cases second.halves with
      | waiting first => cases first
      | passed _ third => cases third
  | some key =>
    simp only [keyed] at trace
    cases trace.halves with
    | waiting first =>
      cases first with
      | cons rest => cases rest
    | @passed _ _ found _ first second =>
      have unposted : posts settings _ = [] := hit_unposted first
      rw [posts_append, unposted, List.nil_append]
      cases found with
      | some cached => cases second
      | none =>
        cases second.halves with
        | waiting call => exact (sends.uncached call).elim
        | passed call third =>
          have delivered := sends.delivered call
          cases third.halves with
          | waiting read => cases read
          | passed read fourth =>
            obtain rfl := ofExcept_events read
            cases fourth with
            | nil => simpa using delivered
            | cons rest => cases rest

theorem sendAdaptiveCard_sends (card : TeamsApprovalCard) :
    Sends settings (MSGraph.sendAdaptiveCard settings connectionId card) where
  uncached trace := by
    cases trace.halves with
    | waiting first =>
      cases first with
      | cons rest => cases rest
    | passed first second => exact postToChannel_sends.uncached second
  delivered trace := by
    cases trace.halves with
    | passed first second =>
      cases first with
      | cons rest =>
        cases rest
        have delivered : (posts settings _).countP (succeeded ·.2) = 1 := postToChannel_sends.delivered second
        simpa [posts] using delivered

/-- Teams delivery, over all traces of a call and of the use cases around it: a result
is cached only when exactly one POST was answered 2xx. -/
structure Delivery (settings : Settings) : Prop where
  posting : ∀ connectionId teamId channelId payload,
    Delivers settings connectionId teamId channelId payload (MSGraph.postToChannel settings connectionId teamId channelId payload)
  messages : ∀ ttlSeconds connectionId message key,
    (SendTeamsMessage.execute (MSGraph.client settings) ttlSeconds connectionId message key).run.Trace events
      (.await (.redis (.setJson k value ex)) resume) →
    (posts settings events).countP (succeeded ·.2) = 1
  cards : ∀ ttlSeconds connectionId card key,
    (SendTeamsApprovalCard.execute (MSGraph.client settings) ttlSeconds connectionId card key).run.Trace events
      (.await (.redis (.setJson k value ex)) resume) →
    (posts settings events).countP (succeeded ·.2) = 1

theorem delivery (settings : Settings) : Delivery settings where
  posting _ _ _ _ := postToChannel_delivers
  messages _ _ _ _ trace := sendOnce_caches postToChannel_sends trace
  cards _ _ card _ trace := sendOnce_caches (sendAdaptiveCard_sends card) trace

end Caching

/-! A message that is posted twice. -/

section Redelivery
variable [Library] {settings : Settings} {connectionId teamId channelId : String} {payload : Json}

/-- A forced refresh that wins the lock at once. -/
def forcedCall (settings : Settings) (connectionId owner : String) (hash : List (String × String)) (refreshToken : String)
    (response : HttpResponse) (now : Int) (renewed : TokenSet) : List ((op : Op) × op.Answer) :=
  admission connectionId owner ++ (renewal settings connectionId hash refreshToken response now renewed ++ release connectionId owner true)

theorem forced_trace {hash : List (String × String)} {token : TokenSet} {response : HttpResponse} {body : Json} {now : Int}
    {renewed : TokenSet} (owner : String) (decoded : TokenStore.decode hash = .ok (some token))
    (held : token.refreshToken = some refreshToken) (success : response.isSuccess = true) (parsed : response.parse = .ok body)
    (read : MSDeviceCode.readTokenSet body now = .ok renewed) : (MSTokenManager.getToken settings connectionId true).run.Trace
      (forcedCall settings connectionId owner hash refreshToken response now renewed) (.done (.ok renewed.accessToken)) := by
  have renews : (some <$> MSTokenManager.refreshHeld settings connectionId true).run.Trace _ _ :=
    .map (renewal_trace .nil decoded held success parsed read)
  rw [← List.append_nil (forcedCall ..)]
  exact .andThen (locked_trace owner true renews) .nil

/-- The answer to the POST of a pass. -/
theorem pass_trace {first : Bool} {events : List ((op : Op) × op.Answer)} {answer : HttpResponse} {found : Option Json}
    (token : (MSTokenManager.getToken settings connectionId (!first)).run.Trace events (.done (.ok text)))
    (concludes : concluded first (.ok answer) = .ok found) :
    (MSGraph.attempt settings connectionId teamId channelId payload first).run.Trace
      (events ++ [⟨.outside (.http (MSGraph.postRequest teamId channelId payload text)), .ok answer⟩]) (.done (.ok found)) := by
  refine .andThen token ?_
  rw [posts_once]
  refine .cons ?_
  rw [concludes]
  exact .nil

end Redelivery

section Samples
local instance posting : Library := .sample

def renewable : TokenSet := { accessToken := "a0", expiresAt := 2000000, refreshToken := some "r0" }

def unwelcome : HttpResponse := ⟨401, "", none⟩

def created : HttpResponse := ⟨201, "", some (.obj [("id", .str "m1")])⟩

def greeting : Json := .obj [("body", .str "hello")]

/-- The token is refused and renewed under the lock. -/
def renewedCall : List ((op : Op) × op.Answer) :=
  (check "acme" (TokenStore.toMapping renewable) 0 ++
      [⟨.outside (.http (MSGraph.postRequest "team" "channel" greeting "a0")), .ok unwelcome⟩]) ++
    forcedCall .sample "acme" "w" (TokenStore.toMapping renewable) "r0" renewing 0 undated

/-- Then the message is posted once more, with the new one. -/
def redelivery : List ((op : Op) × op.Answer) :=
  renewedCall ++ [⟨.outside (.http (MSGraph.postRequest "team" "channel" greeting "a1")), .ok created⟩]

theorem redelivery_trace : (MSGraph.postToChannel .sample "acme" "team" "channel" greeting).run.Trace redelivery
    (.done (.ok (.obj [("id", .str "m1")]))) := by
  have decoded : TokenStore.decode (TokenStore.toMapping renewable) = .ok (some renewable) := rfl
  have cached : (MSTokenManager.getToken .sample "acme" false).run.Trace (check "acme" (TokenStore.toMapping renewable) 0)
      (.done (.ok "a0")) := .andThen (TokenStore.load_trace decoded) (.andThen (renewable.isExpiredOrNear_trace 0 0) .nil)
  have parsed : renewing.parse = .ok _ := rfl
  have read : MSDeviceCode.readTokenSet (.obj [("access_token", .str "a1"), ("refresh_token", .str "r1"), ("expires_in", .num 2 0)]) 0 =
    .ok undated := rfl
  have forced : (MSTokenManager.getToken .sample "acme" true).run.Trace
      (forcedCall .sample "acme" "w" (TokenStore.toMapping renewable) "r0" renewing 0 undated) (.done (.ok "a1")) :=
    forced_trace "w" decoded rfl rfl parsed read
  have first : (MSGraph.attempt .sample "acme" "team" "channel" greeting true).run.Trace _ _ :=
    pass_trace cached (show concluded true (.ok unwelcome) = .ok none from rfl)
  have second : (MSGraph.attempt .sample "acme" "team" "channel" greeting false).run.Trace _ _ :=
    pass_trace forced (show concluded false (.ok created) = .ok _ from rfl)
  have whole : (MSGraph.postToChannel .sample "acme" "team" "channel" greeting).run.Trace _ (.done (.ok (.obj [("id", .str "m1")]))) :=
    .andThen first (.andThen second .nil)
  rw [List.append_nil, ← List.append_assoc] at whole
  exact whole

/-- The second POST is made with the token of that refresh. -/
theorem delivery_redelivered : (posts .sample redelivery).map (·.2) = [.ok unwelcome, .ok created] ∧
    ∃ between, between <:+ renewedCall ∧ Obtained .sample "acme" between "a1" := by
  refine ⟨rfl, ?_⟩
  obtain ⟨resume, sent, _⟩ := redelivery_trace.asked
  rcases ((delivery .sample).posting "acme" "team" "channel" greeting).asks sent with ⟨refreshToken, same⟩ | ⟨text, same, unposted | again⟩
  · cases congrArg HttpRequest.json same
  · cases unposted
  · obtain ⟨before, first, answer, between, split, _, _, _, obtained⟩ := again
    have named : "Bearer " ++ "a1" = "Bearer " ++ text := by simpa [MSGraph.postRequest, bearer] using congrArg HttpRequest.headers same
    obtain rfl := (String.append_right_inj _).mp named
    rw [split]
    exact ⟨between, (List.suffix_cons _ between).trans (List.suffix_append before _), obtained⟩

end Samples
end OpenClaw.Exchanges
