import OpenClawService.Api.Dispatch
import OpenClawService.Storage.Keys

/-! Any number of API requests at once, over a store and an environment that may be
anything. Invariants are proved from what a request is permitted at its phase. -/
namespace OpenClaw.Api
open Interleaving
variable [Library] [FastApi] {ι : Type} [DecidableEq ι]

/-- One request for each worker. -/
def requests (settings : AppSettings) (inbounds : ι → Inbound) : ι → Prog Op Op.Answer (Except Exc Response) :=
  fun i => (respond settings (inbounds i)).run

/-- Where each request is, by its own part of the log. -/
def phases (settings : AppSettings) (proper : Json → Prop) (inbounds : ι → Inbound) (log : List (Entry ι)) : ι → Phase :=
  view (fun i => protocol settings proper (inbounds i)) (fun _ => {}) log

/-- The JSON that the environment delivers is as it is read. -/
def Delivers (proper : Json → Prop) (env : Environment ι) : Prop :=
  ∀ w i request response body, env.allows w i (.http request) (.ok response) → response.json = some body → proper body

variable {settings : AppSettings} {proper : Json → Prop} {inbounds : ι → Inbound} {env : Environment ι}
  {c : ServiceConfig ι (Except Exc Response)}

omit [Library] [FastApi] in
theorem served_expected (delivers : Delivers proper env) {w w' : World ι} {i : ι} {op : Op} {answer : op.Answer}
    (served : Served env i w op answer w') : expects proper op answer := by
  cases served with
  | redis command => trivial
  | @outside call answer allowed =>
    cases call with
    | http request =>
      cases answer with
      | ok response => exact fun body read => delivers w i request response body allowed read
      | error text => trivial
    | _ => trivial

/-- What every permitted step keeps holds in every state that the requests reach, and they
end as each of them meets it. -/
theorem meetings_run (delivers : Delivers proper env) {I : World ι → Prop}
    {post : ι → Except Exc Response → Phase → Prop}
    (meets : ∀ i, Meets (protocol settings proper (inbounds i)) (respond settings (inbounds i)) {} (post i))
    (serves : ∀ w i op answer w', I w → permits settings proper (inbounds i) (phases settings proper inbounds w.log i) op →
      Served env i w op answer w' → I w')
    (drifts : ∀ w w', I w → Drifted env w w' → I w') {redis : Redis ι} (initial : I ⟨redis, []⟩)
    (run : Reaches (system env) ⟨⟨redis, []⟩, requests settings inbounds⟩ c) :
    I c.shared ∧ Conforming (fun i => protocol settings proper (inbounds i)) (fun w => phases settings proper inbounds w.log) post c := by
  refine Conforming.run (tracks env _ _) ?_ (fun c s holds _ drifted => drifts c.shared s holds drifted) run initial meets
  intro c i op resume answer w holds _ _ _ permitted served
  exact ⟨served_expected delivers served, serves c.shared i op answer w holds permitted served⟩

theorem requests_run (closed : Closed proper) (delivers : Delivers proper env) {I : World ι → Prop}
    (serves : ∀ w i op answer w', I w → permits settings proper (inbounds i) (phases settings proper inbounds w.log i) op →
      Served env i w op answer w' → I w')
    (drifts : ∀ w w', I w → Drifted env w w' → I w') {redis : Redis ι} (initial : I ⟨redis, []⟩)
    (run : Reaches (system env) ⟨⟨redis, []⟩, requests settings inbounds⟩ c) :
    I c.shared ∧ Conforming (fun i => protocol settings proper (inbounds i)) (fun w => phases settings proper inbounds w.log)
      (fun _ _ _ => True) c :=
  meetings_run delivers (fun _ => respond_meets closed) serves drifts initial run

omit [Library] [FastApi] in
/-- Nothing is asked of the JSON. -/
theorem anything_closed : Closed fun _ => True := ⟨fun _ => trivial, fun _ => trivial, fun _ _ => trivial, fun _ => trivial, fun _ _ => trivial⟩

omit [Library] [FastApi] in
theorem anything_expected (op : Op) (answer : op.Answer) : expects (fun _ => True) op answer := by
  cases op with
  | redis command => trivial
  | outside call =>
    cases call with
    | http request => cases answer <;> first | trivial | exact fun _ _ => trivial
    | _ => trivial

omit [Library] [FastApi] [DecidableEq ι] in
theorem anything_delivers : Delivers (fun _ => True) env := fun _ _ _ _ _ _ _ => trivial

/-- Every call of a request is one of its route's. -/
def Routed (settings : AppSettings) (inbounds : ι → Inbound) (w : World ι) : Prop :=
  ∀ i (sent : Outside) (answer : sent.Answer), .call i (.outside sent) answer ∈ w.log →
    Local sent ∨ ∃ p, Traffic settings.toSettings p (inbounds i).route sent

theorem routed_run {redis : Redis ι} (run : Reaches (system env) ⟨⟨redis, []⟩, requests settings inbounds⟩ c) :
    Routed settings inbounds c.shared := by
  refine (requests_run anything_closed anything_delivers (I := Routed settings inbounds) ?_ ?_ nofun run).1
  · intro w i op answer w' routed permitted served j sent reply listed
    cases served with
    | redis command => exact routed j sent reply ((List.mem_cons.mp listed).resolve_left (by simp))
    | outside allowed =>
      rcases List.mem_cons.mp listed with same | listed
      · cases same
        rcases permitted with ⟨_, same, within⟩ | ⟨_, within | traffic⟩
        · cases same
          exact Or.inl within
        · exact Or.inl within
        · exact Or.inr ⟨_, traffic⟩
      · exact routed j sent reply listed
  · intro w w' routed drifted j sent reply listed
    cases drifted with
    | expire | invoice => exact routed j sent reply ((List.mem_cons.mp listed).resolve_left (by simp))

/-- The request carries the API key. -/
def Keyed (settings : AppSettings) (inbound : Inbound) : Prop := verifyApiKey settings inbound.authorization = true

omit [Library] [FastApi] in
theorem connection_guarded {route : Route} (own : route.connection = some connectionId) : route.guarded = true := by
  cases route <;> first | rfl | cases own

end OpenClaw.Api
