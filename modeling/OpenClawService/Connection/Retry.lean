import OpenClawService.Connection.Unauthorized

/-! One request on its own, to its end: it is retried and keeps the connection
exactly when its first answer is not 401. -/
namespace OpenClaw.Connection
open Interleaving

/-- The outcome that the last answer decides: a 2xx body, or an unavailable provider. -/
def Decided : Except String HttpResponse → Except Exc Json → Prop
  | .ok response, result =>
    if response.isSuccess then result = response.parse else ∃ text, result = .error (.providerUnavailableError text)
  | .error text, result => result = .error (.transport text)

/-- After the 401 there is one accepted refresh, and the call is sent once more
with the new access token. -/
def Retried [Library] {ι : Type} (call : XeroHttp.Call) (log : List (Entry ι)) (result : Except Exc Json) : Prop :=
  ∃ raw accessToken tenantId second refreshToken first response earlier,
    (raw.getItem "access_token" >>= Json.asText) = .ok accessToken ∧
    events log = .api (call.request accessToken tenantId) second :: .refresh refreshToken (.ok raw) ::
      .api first (.ok response) :: earlier ∧ Decided second result

/-- The token endpoint accepts every refresh. -/
def Accepting {ι : Type} (env : Environment ι) : Prop :=
  ∀ w i session url refreshToken answer, env.allows w i (.refreshToken session url refreshToken) answer →
    ∃ raw, answer = .ok raw

/-- What the API has answered to a request at each point. -/
def Answered : Phase → List (Except String HttpResponse) → Prop
  | .trying, answers => answers = []
  | .answered, answers => ∃ answer, answers = [answer] ∧ ∀ response, answer = .ok response → response.statusCode ≠ 401
  | .rejected, answers | .deleted, answers => ∃ response, answers = [.ok response] ∧ response.statusCode = 401

section Log
variable {ι : Type} {log : List (Entry ι)} {i : ι} {op : Op} {answer : op.Answer}

@[simp] theorem apiAnswers_api {outcome : Except String HttpResponse} :
    apiAnswers (.call i (.outside (.http request)) outcome :: log) = outcome :: apiAnswers log := rfl

theorem apiAnswers_other (other : ∀ request, op ≠ .outside (.http request)) :
    apiAnswers (.call i op answer :: log) = apiAnswers log := by
  cases op with
  | redis command => rfl
  | outside call =>
    cases call with
    | http request => exact (other request rfl).elim
    | _ => rfl

/-- A retry is a second answer of the API. -/
theorem Retried.answers [Library] (retried : Retried call log result) : 2 ≤ (apiAnswers log).length := by
  obtain ⟨raw, accessToken, tenantId, second, refreshToken, first, response, earlier, _, same, _⟩ := retried
  simp [apiAnswers, same, Event.apiAnswer, List.filterMap_cons]

end Log

section Lone
variable [Library] {settings : Settings} {connectionId : String} {env : Environment Unit} {w w' : World Unit}
  {op : Op} {answer : op.Answer}

structure Lone (connectionId : String) (w : World Unit) : Prop where
  kept : phase connectionId w.log () ≠ .deleted → Stored connectionId w.redis
  gone : phase connectionId w.log () = .deleted → w.redis.hashes (TokenStore.key connectionId) = []
  answered : Answered (phase connectionId w.log ()) (apiAnswers w.log)

theorem Lone.served (lone : Lone connectionId w) (admitted : admits connectionId (phase connectionId w.log ()) op)
    (served : Served env () w op answer w') :
    expects connectionId (phase connectionId w.log ()) op answer ∧ Lone connectionId w' := by
  have log : w'.log = .call () op answer :: w.log := by cases served <;> rfl
  have own : phase connectionId w'.log () = advance (phase connectionId w.log ()) op answer := by
    rw [log]
    exact phase_own
  have before := lone.answered
  cases at_phase : phase connectionId w.log () with
  | trying =>
    rw [at_phase] at admitted own before
    refine ⟨trivial, ?_⟩
    have stored := lone.kept (by simp [at_phase])
    rcases admitted with tame | ⟨request, rfl⟩
    · rw [tame_trying op answer tame] at own
      refine ⟨fun _ => stored_tame tame served stored, by simp [own], ?_⟩
      rw [own, log, apiAnswers_other]
      · exact before
      · rintro request rfl
        exact tame
    · cases served with
      | outside allowed =>
        have none : apiAnswers w.log = [] := before
        cases answer with
        | error text =>
          refine ⟨fun _ => stored, by simp [own, advance], ?_⟩
          rw [own]
          exact ⟨_, by rw [apiAnswers_api, none], by simp⟩
        | ok response =>
          by_cases unauthorized : response.statusCode = 401
          · simp only [advance, unauthorized, if_true] at own
            refine ⟨fun _ => stored, by simp [own], ?_⟩
            rw [own]
            exact ⟨response, by rw [apiAnswers_api, none], unauthorized⟩
          · simp only [advance, unauthorized, if_false] at own
            refine ⟨fun _ => stored, by simp [own], ?_⟩
            rw [own]
            refine ⟨_, by rw [apiAnswers_api, none], ?_⟩
            rintro other ⟨⟩
            exact unauthorized
  | answered =>
    rw [at_phase] at admitted
    exact admitted.elim
  | rejected =>
    rw [at_phase] at admitted own before
    obtain rfl := admitted
    refine ⟨trivial, ?_⟩
    have deleted : phase connectionId w'.log () = .deleted := own
    cases served with
    | redis =>
      refine ⟨fun still => (still deleted).elim, fun _ => Function.update_self .., ?_⟩
      rw [deleted]
      exact before
  | deleted =>
    rw [at_phase] at admitted own before
    obtain rfl := admitted
    have gone := lone.gone at_phase
    have still : phase connectionId w'.log () = .deleted := own
    cases served with
    | redis =>
      refine ⟨fun _ => gone, fun other => (other still).elim, fun _ => gone, ?_⟩
      rw [still]
      exact before

theorem Lone.drifted (lone : Lone connectionId w) (drifted : Drifted env w w') : Lone connectionId w' := by
  cases drifted with
  | expire | invoice => exact ⟨lone.kept, lone.gone, lone.answered⟩

/-- Every run of one request is lone, and the request is where its phase says. -/
theorem lone_run {call : XeroHttp.Call} {redis : Redis Unit} {c : ServiceConfig Unit (Except Exc Json)}
    (stored : Stored connectionId redis)
    (run : Reaches (system env) ⟨⟨redis, []⟩, requests settings connectionId fun _ => call⟩ c) :
    Lone connectionId c.shared ∧ Conforming (fun _ => protocol connectionId)
      (fun w => phase connectionId w.log) (fun _ => Ended connectionId) c := by
  apply Conforming.run (tracks env _ _) ?_ ?_ run ⟨fun _ => stored, fun gone => (by cases gone), rfl⟩
  · exact fun _ => request_ended call
  · intro c i op resume answer w lone _ _ _ admitted served
    exact lone.served admitted served
  · intro c w lone _ drifted
    exact lone.drifted drifted

/-- Without a 401 any number of requests keep the connection; a request on its own
keeps it, and makes its retry, exactly then. -/
theorem unauthorized_retry :
    (∀ (ι : Type) [DecidableEq ι] (calls : ι → XeroHttp.Call) (redis : Redis ι) (env : Environment ι)
      (c : ServiceConfig ι (Except Exc Json)), Authorized env → Stored connectionId redis →
      Reaches (system env) ⟨⟨redis, []⟩, requests settings connectionId calls⟩ c → Stored connectionId c.shared.redis) ∧
    ∀ (call : XeroHttp.Call) (redis : Redis Unit) (env : Environment Unit) (c : ServiceConfig Unit (Except Exc Json))
      (result : Except Exc Json), Stored connectionId redis →
      Reaches (system env) ⟨⟨redis, []⟩, requests settings connectionId fun _ => call⟩ c → c.pool () = .done result →
      (((Accepting env → Unauthorized c.shared.log → Retried call c.shared.log result) ∧
        Stored connectionId c.shared.redis) ↔ ¬ Unauthorized c.shared.log) ∧
      (Unauthorized c.shared.log → result = .error (tokenMissing connectionId) ∧ ¬ Retried call c.shared.log result) := by
  refine ⟨fun ι _ calls redis env c authorized stored run => authorized_stored authorized stored run, ?_⟩
  intro call redis env c result stored run done
  obtain ⟨lone, conforming⟩ := lone_run stored run
  have ended : Ended connectionId result (phase connectionId c.shared.log ()) := conforming.finished done
  have answered := lone.answered
  cases at_phase : phase connectionId c.shared.log () with
  | trying =>
    rw [at_phase] at answered
    have none : apiAnswers c.shared.log = [] := answered
    have authorized : ¬ Unauthorized c.shared.log := by simp [Unauthorized, none]
    refine ⟨⟨fun _ => authorized, fun _ => ⟨fun _ found => (authorized found).elim, ?_⟩⟩,
      fun found => (authorized found).elim⟩
    exact lone.kept (by simp [at_phase])
  | answered =>
    rw [at_phase] at answered
    obtain ⟨answer, one, fine⟩ := answered
    have authorized : ¬ Unauthorized c.shared.log := by
      rintro ⟨response, last, unauthorized⟩
      simp only [one, List.getLast?_singleton, Option.some.injEq] at last
      exact fine response last unauthorized
    refine ⟨⟨fun _ => authorized, fun _ => ⟨fun _ found => (authorized found).elim, ?_⟩⟩,
      fun found => (authorized found).elim⟩
    exact lone.kept (by simp [at_phase])
  | rejected =>
    rw [at_phase] at ended
    exact ended.elim
  | deleted =>
    rw [at_phase] at answered ended
    obtain ⟨response, one, status⟩ := answered
    have unauthorized : Unauthorized c.shared.log := ⟨response, by simp [one], status⟩
    have lost : ¬ Stored connectionId c.shared.redis := by
      rintro ⟨token, decoded⟩
      rw [lone.gone at_phase] at decoded
      cases decoded
    have once : ¬ Retried call c.shared.log result := by
      intro retried
      have two := retried.answers
      simp [one] at two
    exact ⟨⟨fun both => (lost both.2).elim, fun authorized => (authorized unauthorized).elim⟩,
      fun _ => ⟨ended, once⟩⟩

end Lone

/-- The environment in which every refresh is accepted and no API answer is `refused`. -/
def granting (ι : Type) (refused : Nat → Bool) : Environment ι where
  allows _ _ call answer := match call, answer with
    | .refreshToken .., .error _ => False
    | .http _, .ok response => refused response.statusCode = false
    | _, _ => True
  expires _ _ := True
  changes _ _ _ := True

theorem granting_accepting : Accepting (granting ι refused) := by
  intro w i session url refreshToken answer allowed
  cases answer with
  | ok raw => exact ⟨raw, rfl⟩
  | error text => exact allowed.elim

section Rejection
local instance : Library := .sample

def valid : TokenSet :=
  { accessToken := "a0", expiresAt := 1000000, refreshToken := some "r0", xeroTenantId := some "tenant" }

def connected (ι : Type) : Redis ι := { Redis.empty with hashes := fun _ => TokenStore.toMapping valid }

theorem connected_stored : Stored "acme" (connected ι) := ⟨valid, rfl⟩

def answering (statusCode : Nat) : (call : Outside) → call.Answer
  | .http _ => .ok ⟨statusCode, "{}", some (.obj [])⟩
  | call => call.silence

/-- One look at an invoice. -/
def looking (ι : Type) : ServiceConfig ι (Except Exc Json) :=
  ⟨⟨connected ι, []⟩, requests .sample "acme" fun _ => XeroHttp.getCall "i1"⟩

/-- The token is loaded and valid, the API is asked, and the request goes on. -/
def look (statusCode : Nat) : List (Move Unit) :=
  [.redis (), .outside () Outside.silence, .outside () (answering statusCode), .redis (), .redis ()]

theorem retry_unneeded : Stored "acme" ((look 200).foldl play (looking Unit)).shared.redis ∧
    ¬ Unauthorized ((look 200).foldl play (looking Unit)).shared.log := by
  have run : Reaches (system (granting Unit (· == 401))) (looking Unit) ((look 200).foldl play (looking Unit)) :=
    plays_run ⟨trivial, ⟨trivial, trivial⟩, ⟨trivial, rfl⟩, trivial, trivial, trivial⟩
  have authorized : Authorized (granting Unit (· == 401)) := by
    intro w i request response allowed
    simpa [granting] using allowed
  have kept := unauthorized_retry.1 Unit _ _ _ _ authorized connected_stored run
  have fine := (unauthorized_retry.2 _ _ _ _ _ connected_stored run rfl).1.mp
    ⟨fun _ unauthorized => absurd unauthorized ?_, kept⟩
  · exact ⟨kept, fine⟩
  · rintro ⟨response, last, status⟩
    cases last
    contradiction

/-- The endpoint would accept the stored refresh token, but the connection is gone before it is asked. -/
theorem retry_lost : Accepting (granting Unit fun _ => false) ∧ Stored "acme" (connected Unit) ∧
    ∃ c, Reaches (system (granting Unit fun _ => false)) (looking Unit) c ∧ Unauthorized c.shared.log ∧
      c.pool () = .done (.error (tokenMissing "acme")) ∧
      TokenStore.decode (c.shared.redis.hashes (TokenStore.key "acme")) = .ok none := by
  refine ⟨granting_accepting, connected_stored, (look 401).foldl play (looking Unit), ?_, ⟨_, rfl, rfl⟩, rfl, rfl⟩
  exact plays_run ⟨trivial, ⟨trivial, trivial⟩, ⟨trivial, rfl⟩, trivial, trivial, trivial⟩

end Rejection
end OpenClaw.Connection
