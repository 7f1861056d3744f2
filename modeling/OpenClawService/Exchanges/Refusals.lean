import OpenClawService.Adapters.Envelopes
import OpenClawService.Exchanges.Passes

/-! The answers of a provider that refuse an exchange, and the exceptions that they
end in. Two of the exchanges read the body of a refusal, and only an object can be read. -/
namespace OpenClaw.Exchanges
open Interleaving Contention

/-- The calls that hear from a provider. -/
inductive Exchange where
  | startDeviceCodeFlow
  | pollDeviceCode (deviceCode : String)
  | refreshToken (token : TokenSet) (held : String)
  | postToChannel (connectionId teamId channelId : String) (payload : Json)
  | xeroRequest (connectionId : String) (call : XeroHttp.Call)

namespace Exchange

@[reducible] def Result : Exchange → Type
  | .pollDeviceCode _ | .refreshToken .. => TokenSet
  | _ => Json

/-- The program; a refresh is made with the token's refresh token. -/
def program [Library] (settings : Settings) : (exchange : Exchange) → Async exchange.Result
  | .startDeviceCodeFlow => MSDeviceCode.startDeviceCodeFlow settings
  | .pollDeviceCode deviceCode => MSDeviceCode.pollDeviceCode settings deviceCode
  | .refreshToken token held => MSDeviceCode.refreshToken settings { token with refreshToken := some held }
  | .postToChannel connectionId teamId channelId payload => MSGraph.postToChannel settings connectionId teamId channelId payload
  | .xeroRequest connectionId call => XeroHttp.request settings connectionId call

/-- A request of the exchange itself, not the renewal of the token that it needs. -/
def Own (settings : Settings) : Exchange → HttpRequest → Prop
  | .postToChannel .., request => request.url ≠ MSDeviceCode.tokenUrl settings
  | _, _ => True

/-- The exchange itself has asked for nothing within these events. -/
def Unasked (settings : Settings) (exchange : Exchange) (events : List ((op : Op) × op.Answer)) : Prop :=
  ∀ request answer, ⟨.outside (.http request), answer⟩ ∈ events → ¬ exchange.Own settings request

/-- What the caller of the route receives. -/
def received (exchange : Exchange) (exc : Exc) : Bool :=
  (envelope exc).isSome || match exchange with
    | .pollDeviceCode _ => (pollStatus exc).isSome
    | _ => false

end Exchange

/-- The errors of a refusal. -/
def Domain : Exc → Prop
  | .deviceCodePending _ | .deviceCodeExpired _ | .connectionExpiredError _ | .providerUnavailableError _ => True
  | _ => False

/-- The codes by which a grant is rejected or declined. -/
def rejections : List String := ["invalid_grant", "interaction_required", "authorization_declined"]

/-- The exception fits the refusal, and reaches the caller as one of the known answers. -/
structure Fits (exchange : Exchange) (response : HttpResponse) (exc : Exc) : Prop where
  domain : Domain exc
  received : exchange.received exc = true
  rejected : exc = .connectionExpiredError text → ∃ fields code, response.json = some (.obj fields) ∧
    fields.lookup "error" = some (.str code) ∧ code ∈ rejections

section Refusals
variable [Library]

/-- Of the token store the events have changed nothing, unless a refresh has granted a new
token to a connection that the exchange acquires one from. -/
def Exchange.Keeps (settings : Settings) (events : List ((op : Op) × op.Answer)) : Exchange → Prop
  | .postToChannel connectionId .. => Changes settings (.microsoft true) connectionId events
  | .xeroRequest connectionId _ => Changes settings .xero connectionId events
  | _ => events = []

/-- The refusal ends the exchange with a fitting exception, and the token store is left as it was. -/
structure Surfaced (settings : Settings) (exchange : Exchange) (before after : List ((op : Op) × op.Answer))
    (response : HttpResponse) (result : Except Exc exchange.Result) : Prop where
  raised : ∃ exc, result = .error exc ∧ Fits exchange response exc
  kept : exchange.Keeps settings before
  unchanged : ⟨.redis command, answer⟩ ∈ after → command.modifiesHash = none

/-- After these events the refusal surfaces whenever it is final: whenever the exchange
ends without having asked for anything else of its own. -/
def Surfaces (settings : Settings) (exchange : Exchange) (before : List ((op : Op) × op.Answer)) (response : HttpResponse) : Prop :=
  ∀ request after result, (exchange.program settings).run.Trace (before ++ ⟨.outside (.http request), .ok response⟩ :: after) (.done result) →
    exchange.Own settings request → exchange.Unasked settings after → Surfaced settings exchange before after response result

/-- A body that is read is an object, and no 401 has made the exchange start over. -/
def Exchange.Orderly (settings : Settings) (before : List ((op : Op) × op.Answer)) (response : HttpResponse) : Exchange → Prop
  | .startDeviceCodeFlow => True
  | .pollDeviceCode _ | .refreshToken .. => ∃ fields, response.json = some (.obj fields)
  | .postToChannel connectionId teamId channelId payload =>
    response.statusCode = 401 → ¬ (Exchange.postToChannel connectionId teamId channelId payload).Unasked settings before
  | .xeroRequest connectionId call => response.statusCode ≠ 401 ∧ (Exchange.xeroRequest connectionId call).Unasked settings before

variable {settings : Settings} {response : HttpResponse} {before : List ((op : Op) × op.Answer)} {asked : HttpRequest}

omit [Library] in
theorem unavailable_fits (exchange : Exchange) (text : String) : Fits exchange response (.providerUnavailableError text) where
  domain := trivial
  received := rfl
  rejected := nofun

omit [Library] in
theorem error_fits {exchange : Exchange} {exc : Exc} :
    (∃ exc', (.error exc : Except Exc α) = .error exc' ∧ Fits exchange response exc') ↔ Fits exchange response exc := by
  constructor
  · rintro ⟨_, ⟨⟩, fits⟩
    exact fits
  · exact fun fits => ⟨exc, rfl, fits⟩

/-- What the exchange waits for decides how every final answer is met. -/
theorem surfaces_iff {exchange : Exchange} {resume : (Outside.http asked).Answer → Prog Op Op.Answer (Except Exc exchange.Result)}
    (trace : (exchange.program settings).run.Trace before (.await (.outside (.http asked)) resume)) (own : exchange.Own settings asked) :
    Surfaces settings exchange before response ↔ ∀ after result, (resume (.ok response)).Trace after (.done result) →
      exchange.Unasked settings after → Surfaced settings exchange before after response result := by
  constructor
  · exact fun surfaces after result rest unasked => surfaces asked after result (trace.append (.cons rest)) own unasked
  · intro surfaced request after result whole _ unasked
    obtain ⟨resume', first, rest⟩ := whole.asked
    cases trace.unique first
    exact surfaced after result rest unasked

/-- An exchange that ends with the answer. -/
theorem ended_surfaces {exchange : Exchange} {resume : (Outside.http asked).Answer → Prog Op Op.Answer (Except Exc exchange.Result)}
    {outcome : Except Exc exchange.Result}
    (trace : (exchange.program settings).run.Trace before (.await (.outside (.http asked)) resume)) (own : exchange.Own settings asked)
    (ended : resume (.ok response) = .done outcome) :
    Surfaces settings exchange before response ↔
      (∃ exc, outcome = .error exc ∧ Fits exchange response exc) ∧ exchange.Keeps settings before := by
  rw [surfaces_iff trace own, ended]
  constructor
  · intro surfaced
    have at_once := surfaced [] outcome .nil (by simp [Exchange.Unasked])
    exact ⟨at_once.raised, at_once.kept⟩
  · rintro ⟨raised, kept⟩ after result rest _
    cases rest
    exact ⟨raised, kept, nofun⟩

/-- An exchange of one request. -/
theorem single_surfaces {exchange : Exchange} {resume : (Outside.http asked).Answer → Prog Op Op.Answer (Except Exc exchange.Result)}
    {request : HttpRequest} {next : HttpResponse → Async exchange.Result} {outcome : Except Exc exchange.Result}
    (trace : (exchange.program settings).run.Trace before (.await (.outside (.http asked)) resume)) (own : exchange.Own settings asked)
    (steps : exchange.program settings = Async.http request >>= next) (quiet : ∀ response, (next response).run.Uses NoHttp)
    (untouched : exchange.Keeps settings []) (ended : (next response).run = .done outcome) :
    Surfaces settings exchange before response ↔ ∃ exc, outcome = .error exc ∧ Fits exchange response exc := by
  have sent := trace
  rw [steps] at sent
  obtain ⟨rfl, rfl, resumed⟩ := http_first quiet sent
  rw [ended_surfaces trace own ((resumed response).trans ended), and_iff_left untouched]

/-- How a refusal ends that is told apart by the error code of its body. -/
def refusal (failure : Json → HttpResponse → Exc) (response : HttpResponse) : Exc :=
  match response.json with
  | none => .jsonDecodeError
  | some (.obj fields) => failure ((fields.lookup "error").getD (.str "")) response
  | some _ => .attributeError "get"

omit [Library] in
/-- It fits exactly when the body is an object, if every failure fits the code it was given. -/
theorem refusal_fits {exchange : Exchange} {failure : Json → HttpResponse → Exc}
    (fits : ∀ fields, response.json = some (.obj fields) → Fits exchange response (failure ((fields.lookup "error").getD (.str "")) response)) :
    Fits exchange response (refusal failure response) ↔ ∃ fields, response.json = some (.obj fields) := by
  constructor
  · intro fits
    have domain := fits.domain
    unfold refusal at domain
    split at domain
    · exact domain.elim
    · exact ⟨_, ‹_›⟩
    · exact domain.elim
  · rintro ⟨fields, parsed⟩
    have same : refusal failure response = failure ((fields.lookup "error").getD (.str "")) response := by
      simp only [refusal, parsed]
    rw [same]
    exact fits fields parsed

omit [Library] in
theorem ofExcept_quiet {outcome : Except Exc α} : (Async.ofExcept outcome).run.Uses NoHttp := trivial

theorem parseTokenSet_quiet (body : Json) : (MSDeviceCode.parseTokenSet body).run.Uses NoHttp :=
  ⟨by simp [NoHttp], fun _ => trivial⟩

theorem start_surfaces {resume : (Outside.http asked).Answer → Prog Op Op.Answer (Except Exc Json)} (refused : response.isSuccess = false)
    (trace : (Exchange.startDeviceCodeFlow.program settings).run.Trace before (.await (.outside (.http asked)) resume)) :
    Surfaces settings .startDeviceCodeFlow before response := by
  have fits : Fits .startDeviceCodeFlow response (MSDeviceCode.unexpected "Azure device code endpoint" response) := unavailable_fits _ _
  refine (single_surfaces trace trivial rfl (fun response => ?_) rfl ?_).mpr (error_fits.mpr fits)
  · by_cases failed : (!response.isSuccess) = true
    · rw [if_pos failed]
      trivial
    · rw [if_neg failed]
      exact ofExcept_quiet
  · rw [if_pos (by simp [refused])]
    rfl

omit [Library] in
/-- A body without a code has the empty one. -/
theorem error_code {fields : List (String × Json)} (coded : ((fields.lookup "error").getD (.str "")).isText code = true)
    (filled : code ≠ "") : fields.lookup "error" = some (.str code) := by
  cases found : fields.lookup "error" with
  | none =>
    rw [found] at coded
    exact (filled (by simpa [Json.isText] using coded.symm)).elim
  | some error =>
    rw [found] at coded
    cases error with
    | str text => simpa [Json.isText] using coded
    | _ => cases coded

omit [Library] in
theorem expired_fits {exchange : Exchange} {fields : List (String × Json)} (parsed : response.json = some (.obj fields))
    (coded : ((fields.lookup "error").getD (.str "")).isText code = true) (listed : code ∈ rejections) (text : String) :
    Fits exchange response (.connectionExpiredError text) where
  domain := trivial
  received := rfl
  rejected _ := by
    refine ⟨fields, code, parsed, error_code coded ?_, listed⟩
    rintro rfl
    exact absurd listed (by decide)

omit [Library] in
theorem pollFailure_fits {fields : List (String × Json)} (parsed : response.json = some (.obj fields)) (deviceCode : String) :
    Fits (.pollDeviceCode deviceCode) response (MSDeviceCode.pollFailure ((fields.lookup "error").getD (.str "")) response) := by
  unfold MSDeviceCode.pollFailure
  split
  · exact ⟨trivial, rfl, nofun⟩
  split
  · exact ⟨trivial, rfl, nofun⟩
  split
  · exact ⟨trivial, rfl, nofun⟩
  split
  · rename_i declined
    exact expired_fits parsed declined (by decide) _
  · exact unavailable_fits _ _

omit [Library] in
theorem refreshFailure_fits {fields : List (String × Json)} (parsed : response.json = some (.obj fields)) (token : TokenSet)
    (held : String) : Fits (.refreshToken token held) response
      (MSDeviceCode.refreshFailure ((fields.lookup "error").getD (.str "")) response) := by
  unfold MSDeviceCode.refreshFailure
  dsimp only
  split
  · rename_i rejected
    exact expired_fits parsed rejected (by decide) _
  split
  · rename_i required
    exact expired_fits parsed required (by decide) _
  · exact unavailable_fits _ _

omit [Library] in
/-- Reading the code of a refusal. -/
theorem refusal_ends (failure : Json → HttpResponse → Exc) (response : HttpResponse) : (do
      let body ← Async.ofExcept response.parse
      let error ← Async.ofExcept (body.get "error" (.str ""))
      throw (failure error response) : Async α).run = .done (.error (refusal failure response)) := by
  cases parsed : response.json with
  | none =>
    simp only [HttpResponse.parse, parsed, refusal]
    rfl
  | some body =>
    simp only [HttpResponse.parse, parsed, refusal]
    cases body <;> rfl

theorem poll_surfaces {deviceCode : String} {resume : (Outside.http asked).Answer → Prog Op Op.Answer (Except Exc TokenSet)}
    (refused : response.isSuccess = false)
    (trace : ((Exchange.pollDeviceCode deviceCode).program settings).run.Trace before (.await (.outside (.http asked)) resume)) :
    Surfaces settings (.pollDeviceCode deviceCode) before response ↔ ∃ fields, response.json = some (.obj fields) := by
  rw [← refusal_fits fun fields parsed => pollFailure_fits parsed deviceCode]
  refine (single_surfaces trace trivial rfl (fun response => ?_) rfl ?_).trans error_fits
  · refine .andThen ofExcept_quiet fun body => ?_
    split
    · exact parseTokenSet_quiet body
    · exact .andThen ofExcept_quiet fun _ => trivial
  · simp only [refused, Bool.false_eq_true, if_false]
    exact refusal_ends MSDeviceCode.pollFailure response

theorem refresh_surfaces {token : TokenSet} {held : String} {resume : (Outside.http asked).Answer → Prog Op Op.Answer (Except Exc TokenSet)}
    (refused : response.isSuccess = false)
    (trace : ((Exchange.refreshToken token held).program settings).run.Trace before (.await (.outside (.http asked)) resume)) :
    Surfaces settings (.refreshToken token held) before response ↔ ∃ fields, response.json = some (.obj fields) := by
  rw [← refusal_fits fun fields parsed => refreshFailure_fits parsed token held]
  refine (single_surfaces trace trivial rfl (fun response => ?_) rfl ?_).trans error_fits
  · split
    · exact .andThen ofExcept_quiet fun _ => .andThen ofExcept_quiet fun _ => trivial
    · exact .andThen ofExcept_quiet fun body => parseTokenSet_quiet body
  · simp only [refused, Bool.not_false, if_true]
    exact refusal_ends MSDeviceCode.refreshFailure response

/-- A pass waits for an answer from Xero only with a token in hand, and before it has asked for anything. -/
theorem XeroPass.waits {connectionId : String} {call : XeroHttp.Call} {first : Bool}
    {resume : (Outside.http asked).Answer → Prog Op Op.Answer (Except Exc (Option Json))}
    (reached : XeroPass settings connectionId call first before (.await (.outside (.http asked)) resume)) :
    resume = heard connectionId first ∧
      ∃ token, (XeroTokenManager.getValidToken settings connectionId).run.Trace before (.done (.ok token)) := by
  generalize waiting : (Prog.await (.outside (.http asked)) resume : Prog Op Op.Answer (Except Exc (Option Json))) = pass at reached
  cases reached with
  | acquiring token =>
    cases waiting
    exact ((getValidToken_quiet token).1 _ _ rfl).elim
  | tokenless => cases waiting
  | asking acquired =>
    cases waiting
    exact ⟨rfl, _, acquired⟩
  | @answered _ _ _ _ answer _ acquired rest =>
    subst waiting
    cases answer with
    | error text => cases rest
    | ok response =>
      rw [heard] at rest
      split at rest
      · cases rest with
        | cons rest => cases rest
      · split at rest <;> cases rest

/-- Another pass is made only after the token has been deleted. -/
theorem XeroPass.again {connectionId : String} {call : XeroHttp.Call} {first : Bool}
    (reached : XeroPass settings connectionId call first before (.done (.ok none))) : ∃ earlier request answer reply,
      before = earlier ++ [⟨.outside (.http request), answer⟩, ⟨.redis (.delHash (TokenStore.key connectionId)), reply⟩] := by
  cases reached with
  | answered acquired rest =>
    obtain ⟨reply, rfl⟩ := heard_again rest
    exact ⟨_, _, _, reply, rfl⟩

/-- A 401 deletes the token, and the next pass finds none. -/
theorem xero_surfaces {connectionId : String} {call : XeroHttp.Call}
    {resume : (Outside.http asked).Answer → Prog Op Op.Answer (Except Exc Json)} (refused : response.isSuccess = false)
    (trace : ((Exchange.xeroRequest connectionId call).program settings).run.Trace before (.await (.outside (.http asked)) resume)) :
    Surfaces settings (.xeroRequest connectionId call) before response ↔
      response.statusCode ≠ 401 ∧ (Exchange.xeroRequest connectionId call).Unasked settings before := by
  cases trace.halves with
  | waiting first =>
    obtain ⟨rfl, token, acquired⟩ := (attempt_xeroPass first).waits
    have unasked : (Exchange.xeroRequest connectionId call).Unasked settings before :=
      fun request answer member => ((getValidToken_quiet acquired).2 request answer member).elim
    by_cases status : response.statusCode = 401
    · refine iff_of_false (fun surfaces => ?_) fun orderly => orderly.1 status
      have deleted : heard connectionId true (.ok response) =
          .await (.redis (.delHash (TokenStore.key connectionId))) fun _ => .done (.ok none) := if_pos ⟨status, rfl⟩
      have missing : ∃ text, (XeroHttp.attempt settings connectionId call false).run.Trace
          [⟨.redis (.hgetall (TokenStore.key connectionId)), []⟩] (.done (.error (.connectionMissingError text))) := ⟨_, .cons .nil⟩
      obtain ⟨text, missing⟩ := missing
      have surfaced := (surfaces_iff trace trivial).mp surfaces
      rw [deleted] at surfaced
      obtain ⟨_, same, fits⟩ := (surfaced [⟨.redis (.delHash (TokenStore.key connectionId)), ()⟩,
        ⟨.redis (.hgetall (TokenStore.key connectionId)), []⟩] _ (.cons (missing.raised _)) (by simp [Exchange.Unasked])).raised
      cases same
      exact fits.domain
    · obtain ⟨text, ended⟩ := heard_refused connectionId refused fun again => status again.1
      have fits : Fits (.xeroRequest connectionId call) response (.providerUnavailableError text) := unavailable_fits _ text
      refine iff_of_true ((ended_surfaces trace trivial ?_).mpr ⟨error_fits.mpr fits, changes_trace getValidToken_meets acquired⟩)
        ⟨status, unasked⟩
      rw [ended]
      rfl
  | @passed _ _ result _ first second =>
    cases result with
    | some body => cases second
    | none =>
      cases second.halves with
      | waiting again =>
        obtain ⟨rfl, token, acquired⟩ := (attempt_xeroPass again).waits
        obtain ⟨earlier, request, answer, reply, rfl⟩ := (attempt_xeroPass first).again
        refine iff_of_false (fun surfaces => ?_) fun orderly => orderly.2 request answer (by simp) trivial
        obtain ⟨text, ended⟩ := heard_refused connectionId refused fun again => Bool.false_ne_true again.2
        have surfaced := (surfaces_iff trace trivial).mp surfaces
        rw [ended] at surfaced
        have kept : Changes settings .xero connectionId _ := (surfaced [] _ .nil (by simp [Exchange.Unasked])).kept
        rcases kept (earlier ++ [⟨.outside (.http request), answer⟩]) _ reply _ (by simp; rfl) with unmodified | granted
        · cases unmodified
        · obtain ⟨_, _, _, _, _, _, stored⟩ := granted
          cases stored
      | @passed _ _ result _ again third =>
        cases result <;> cases third

/-! A channel post. -/
section Posts
variable {connectionId teamId channelId : String} {payload : Json}

/-- A pass waits for an answer from Graph only with a token in hand. -/
theorem Pass.waits {first : Bool} {resume : (Outside.http asked).Answer → Prog Op Op.Answer (Except Exc (Option Json))}
    (reached : Pass settings connectionId teamId channelId payload first before (.await (.outside (.http asked)) resume))
    (own : asked.url ≠ MSDeviceCode.tokenUrl settings) : (∀ answer, resume answer = .done (concluded first answer)) ∧
      ∃ text, (MSTokenManager.getToken settings connectionId (!first)).run.Trace before (.done (.ok text)) := by
  cases reached with
  | acquiring token =>
    obtain ⟨refreshToken, rfl⟩ := (getToken_refreshes token).1 _ _ rfl
    exact (own rfl).elim
  | posting token => exact ⟨fun _ => rfl, _, token⟩

/-- Another pass is made only after a POST. -/
theorem Pass.again {first : Bool} (reached : Pass settings connectionId teamId channelId payload first before (.done (.ok none))) :
    ∃ earlier text answer, before = earlier ++ [⟨.outside (.http (MSGraph.postRequest teamId channelId payload text)), answer⟩] ∧
      (MSTokenManager.getToken settings connectionId (!first)).run.Trace earlier (.done (.ok text)) := by
  generalize ended : (Prog.done (.ok none) : Prog Op Op.Answer (Except Exc (Option Json))) = pass at reached
  cases reached with
  | acquiring | tokenless | posting => cases ended
  | @answered earlier text answer token => exact ⟨earlier, text, answer, rfl, token⟩

theorem getToken_unasked {force : Bool} {later : Prog Op Op.Answer (Except Exc String)}
    (trace : (MSTokenManager.getToken settings connectionId force).run.Trace before later) :
    (Exchange.postToChannel connectionId teamId channelId payload).Unasked settings before := by
  intro request answer member own
  obtain ⟨refreshToken, rfl⟩ := (getToken_refreshes trace).2 request answer member
  exact own rfl

/-- It makes no difference to a renewal whether it is forced. -/
theorem Changes.forced {force : Bool} (changes : Changes settings (.microsoft force) connectionId before) :
    Changes settings (.microsoft true) connectionId before := by
  intro earlier command answer later split
  refine (changes earlier command answer later split).imp id ?_
  rintro ⟨call, answer, current, token, listed, renews, stored⟩
  refine ⟨call, answer, current, token, listed, ?_, stored⟩
  cases call with
  | http request => cases answer <;> exact renews
  | _ => exact renews.elim

/-- A forced refresh that never gets the lock. -/
theorem forced_rounds (owner : String) (attempts : Nat) : ∃ text, (MSTokenManager.refreshAttempts settings connectionId true attempts).run.Trace
    (List.replicate attempts (Contention.refusal connectionId owner ++ pause)).flatten (.done (.error (.lockTimeoutError text))) := by
  induction attempts with
  | zero => exact ⟨_, .nil⟩
  | succ attempts ih =>
    obtain ⟨text, later⟩ := ih
    refine ⟨text, ?_⟩
    simp only [List.replicate_succ, List.flatten_cons, List.append_assoc]
    exact .andThen (refusal_trace owner rfl) (.andThen pause_trace (.andThen .nil later))

/-- The second pass may fail to get a token. -/
theorem post_surfaces {resume : (Outside.http asked).Answer → Prog Op Op.Answer (Except Exc Json)} (refused : response.isSuccess = false)
    (trace : ((Exchange.postToChannel connectionId teamId channelId payload).program settings).run.Trace before
      (.await (.outside (.http asked)) resume)) (own : asked.url ≠ MSDeviceCode.tokenUrl settings) :
    Surfaces settings (.postToChannel connectionId teamId channelId payload) before response ↔
      (response.statusCode = 401 → ¬ (Exchange.postToChannel connectionId teamId channelId payload).Unasked settings before) := by
  cases trace.halves with
  | waiting first =>
    obtain ⟨resumed, text, acquired⟩ := (attempt_pass first).waits own
    have unasked : (Exchange.postToChannel connectionId teamId channelId payload).Unasked settings before := getToken_unasked acquired
    by_cases status : response.statusCode = 401
    · refine iff_of_false (fun surfaces => ?_) fun orderly => orderly status unasked
      have again : concluded true (.ok response) = .ok none := if_pos ⟨status, rfl⟩
      obtain ⟨text, rounds⟩ := forced_rounds "w" contentionRetries
      have tokenless : (MSTokenManager.getToken settings connectionId true).run.Trace _ (.done (.error (.lockTimeoutError text))) := rounds
      have failed : (MSGraph.attempt settings connectionId teamId channelId payload false).run.Trace _
        (.done (.error (.lockTimeoutError text))) := Prog.Trace.raised _ tokenless
      have surfaced := (surfaces_iff trace own).mp surfaces
      rw [resumed, again] at surfaced
      obtain ⟨_, same, fits⟩ := (surfaced _ _ (failed.raised _) (getToken_unasked tokenless)).raised
      cases same
      exact fits.domain
    · have ended : concluded true (.ok response) = _ := concluded_refused refused fun again => status again.1
      have fits : Fits (.postToChannel connectionId teamId channelId payload) response (MSDeviceCode.unexpected "Microsoft Graph" response) :=
        unavailable_fits _ _
      have kept : Changes settings (.microsoft true) connectionId before := (changes_trace getToken_meets acquired).forced
      refine iff_of_true ((ended_surfaces trace own ?_).mpr ⟨error_fits.mpr fits, kept⟩) fun unauthorized => (status unauthorized).elim
      rw [resumed, ended]
      rfl
  | @passed _ _ result _ first second =>
    cases result with
    | some body => cases second
    | none =>
      cases second.halves with
      | waiting again =>
        obtain ⟨resumed, text, acquired⟩ := (attempt_pass again).waits own
        obtain ⟨earlier, text', answer, rfl, acquired'⟩ := (attempt_pass first).again
        have ended : concluded false (.ok response) = _ := concluded_refused refused fun again => Bool.false_ne_true again.2
        have fits : Fits (.postToChannel connectionId teamId channelId payload) response
          (MSDeviceCode.unexpected "Microsoft Graph" response) := unavailable_fits _ _
        have posted : Changes settings (.microsoft true) connectionId
            [⟨.outside (.http (MSGraph.postRequest teamId channelId payload text')), answer⟩] := by
          rintro (_ | ⟨event, rest⟩) command reply later split
          · cases split
          · cases rest <;> cases split
        have kept := ((changes_trace getToken_meets acquired').forced.append posted).append (changes_trace getToken_meets acquired).forced
        refine iff_of_true ((ended_surfaces trace own ?_).mpr ⟨error_fits.mpr fits, kept⟩) fun _ unasked => ?_
        · rw [resumed, ended]
          rfl
        · exact unasked _ answer (List.mem_append_left _ (List.mem_append_right _ List.mem_cons_self)) channel_apart
      | @passed _ _ result _ again third =>
        cases result <;> cases third

end Posts

/-- Wherever an exchange waits for an answer of its own, a refusal surfaces exactly if a
body that is read is an object and no 401 has made the exchange start over. -/
theorem refusals_surface (settings : Settings) (exchange : Exchange) (response : HttpResponse) (refused : response.isSuccess = false)
    {resume : (Outside.http asked).Answer → Prog Op Op.Answer (Except Exc exchange.Result)}
    (trace : (exchange.program settings).run.Trace before (.await (.outside (.http asked)) resume)) (own : exchange.Own settings asked) :
    Surfaces settings exchange before response ↔ exchange.Orderly settings before response := by
  cases exchange with
  | startDeviceCodeFlow => exact iff_of_true (start_surfaces refused trace) trivial
  | pollDeviceCode deviceCode => exact poll_surfaces refused trace
  | refreshToken token held => exact refresh_surfaces refused trace
  | postToChannel connectionId teamId channelId payload => exact post_surfaces refused trace own
  | xeroRequest connectionId call => exact xero_surfaces refused trace

end Refusals

section Samples
local instance refusing : Library := .sample

/-- A refresh that is answered by an error code. -/
def rejected : HttpResponse := ⟨400, "", some (.obj [("error", .str "invalid_grant")])⟩

theorem rejected_surfaces : Surfaces .sample (.refreshToken ⟨"a1", 0, "Bearer", none, none, none⟩ "r1") [] rejected :=
  (refusals_surface .sample (.refreshToken ⟨"a1", 0, "Bearer", none, none, none⟩ "r1") rejected rfl .nil trivial).mpr ⟨_, rfl⟩

/-- The page of a proxy. -/
def outage : HttpResponse := ⟨503, "<html>Service Unavailable</html>", none⟩

/-- A poll that meets an outage raises an error of the parser, which has no envelope. -/
theorem outage_unmapped : (MSDeviceCode.pollDeviceCode .sample "device").run.Trace
      [⟨.outside (.http (MSDeviceCode.pollRequest .sample "device")), .ok outage⟩] (.done (.error .jsonDecodeError)) ∧
    Exchange.received (.pollDeviceCode "device") .jsonDecodeError = false ∧
    ¬ Surfaces .sample (.pollDeviceCode "device") [] outage := by
  refine ⟨.cons .nil, rfl, fun surfaces => ?_⟩
  obtain ⟨fields, parsed⟩ := (poll_surfaces rfl .nil).mp surfaces
  cases parsed

end Samples
end OpenClaw.Exchanges
