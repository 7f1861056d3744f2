import OpenClawService.Interleaving.Outcomes
import OpenClawService.Api.Conduct
import OpenClawService.Soundness.Bodies

/-! What the service may expect of its store and of its providers, and what it owes the
store in turn. A Xero refresh that finds no token under its lock is kept account of, and so
is a request that the HTTP client does not send. -/
namespace OpenClaw
open Interleaving

/-! What the HTTP client sends. -/

/-- httpx refuses a URL that is too long or has a control character. -/
def urlAccepted (url : String) : Bool := decide (url.length ≤ 65536) && url.toList.all fun c => decide (32 ≤ c.toNat ∧ c.toNat ≠ 127)

/-- Printable ASCII, without a blank at either end. -/
def headerAccepted (value : String) : Bool :=
  value.toList.all (fun c => decide (32 ≤ c.toNat ∧ c.toNat ≤ 126)) && decide (value.toList.head? ≠ some ' ') &&
    decide (value.toList.getLast? ≠ some ' ')

/-- The query is escaped, each byte in three characters at most. -/
def HttpRequest.sendable (request : HttpRequest) : Bool :=
  urlAccepted request.url && request.headers.all (fun header => headerAccepted header.2) &&
    decide ((request.params.map fun param => 3 * (param.1.utf8ByteSize + param.2.utf8ByteSize) + 2).sum ≤ 65536)

/-- Visible ASCII, as a bearer token is. -/
def Visible (text : String) : Prop := text ≠ "" ∧ ∀ c ∈ text.toList, 33 ≤ c.toNat ∧ c.toNat ≤ 126

theorem headerAccepted_bearer (visible : Visible text) : headerAccepted (bearer text).2 = true := by
  obtain ⟨filled, printable⟩ := visible
  have present : text.toList ≠ [] := by simpa using filled
  have last := printable _ (List.getLast_mem present)
  have begins : "Bearer ".toList.head? = some 'B' := rfl
  have shown : ("Bearer " ++ text).toList = "Bearer ".toList ++ text.toList := String.toList_append
  simp only [headerAccepted, bearer, shown, Bool.and_eq_true, List.all_append, List.head?_append, List.getLast?_append,
    List.getLast?_eq_getLast_of_ne_nil present, begins, decide_eq_true_eq, Option.some_or]
  refine ⟨⟨⟨by decide, List.all_eq_true.mpr fun c listed => ?_⟩, by simp⟩, fun blank => ?_⟩
  · have := printable c listed
    exact decide_eq_true (by omega)
  · rw [Option.some.inj blank] at last
    exact absurd last (by decide)

/-- The body of a success of this call. -/
def XeroHttp.Call.body (call : Call) : Shape :=
  if call.url = apiBase ++ "/Contacts" then contactsBody
  else if call.url = apiBase ++ "/Accounts" then accountsBody
  else if call.url = apiBase ++ "/TaxRates" then taxRatesBody
  else invoicesBody

/-- The body of a success has the shape. -/
def Shaped (shape : Shape) (answer : Except String HttpResponse) : Prop :=
  ∀ response, answer = .ok response → response.isSuccess = true → ∃ body, response.json = some body ∧ shape.accepts body = true

namespace Api

/-- The providers are reached by every request that can be sent, and answer as they are documented to. -/
structure Documented (settings : Settings) (request : HttpRequest) (answer : Except String HttpResponse) : Prop where
  reached : request.sendable = true → ∃ response, answer = .ok response
  xero (call : XeroHttp.Call) (token tenantId : String) : request = call.request token tenantId → Shaped call.body answer
  connections : request.url = XeroOAuth.connectionsUrl → Shaped connectionsBody answer
  graph (teamId channelId : String) (payload : Json) (token : String) :
    request = MSGraph.postRequest teamId channelId payload token → Shaped messageBody answer
  issued : request.url = MSDeviceCode.tokenUrl settings → ∀ response, answer = .ok response → ∃ body, response.json = some body ∧
    (if response.isSuccess then tokenBody else refusalBody).accepts body = true
  started : request.url = MSDeviceCode.deviceCodeUrl settings → Shaped deviceCodeBody answer

/-- What the clock, the providers and Authlib may be relied on for. -/
def Reliable (settings : Settings) : (call : Outside) → call.Answer → Prop
  | .now, instant => Clocked instant
  | .http request, answer => Documented settings request answer
  | .fetchToken .., .ok raw => TokenDict raw ∧ ∀ text, raw.getItem "access_token" = .ok (.str text) → Visible text
  | .refreshToken .., .ok raw => TokenDict raw
  | _, _ => True

namespace Route

/-- What the route caches. -/
def entryShape : Route → Shape
  | .sendMessage .. | .sendApproval .. => messageEntry
  | _ => invoiceEntry

/-- The connection whose Xero token the route asks for. -/
def xero : Route → Option String
  | .createInvoice connectionId .. | .getInvoice _ connectionId | .submitInvoice _ connectionId _ | .voidInvoice _ connectionId _
  | .listContacts connectionId _ | .listAccounts connectionId _ | .listTaxRates connectionId _ => some connectionId
  | _ => none

end Route

/-- Where a request is with the refresh lock of its Xero token, or that it has failed to send something. -/
inductive Standing where
  | free
  | held
  | lost
  | unsent
  deriving DecidableEq

/-- The lock is taken and left again; meanwhile the token may turn out to be gone. -/
def Standing.after (own : Option String) : Standing → (op : Op) → op.Answer → Standing
  | standing, .outside (.http request), .error _ => if request.sendable then standing else .unsent
  | .free, .redis (.setNx k _ _), true => if own.map refreshLockKey = some k then .held else .free
  | .held, .redis (.hgetall k), [] => if own.map TokenStore.key = some k then .lost else .held
  | .held, .redis (.execDel _), _ => .free
  | .held, .redis .unwatch, _ => .free
  | standing, _, _ => standing

section Typing
variable [Library] (settings : Settings) (route : Route)

/-- The store owes its readers what it was given. -/
def delivers : (op : Op) → op.Answer → Prop
  | .redis (.hgetall k), hash => ∀ connectionId, k = TokenStore.key connectionId → ∃ token, TokenStore.decode hash = .ok token
  | .redis (.getJson _), some value => route.entryShape.accepts value = true
  | .outside call, answer => Reliable settings call answer
  | _, _ => True

/-- What is cached can be answered from. -/
def deposits : Op → Prop
  | .redis (.setJson _ value _) => route.entryShape.accepts value = true
  | _ => True

def typing : Protocol Op Op.Answer Standing := ⟨fun _ => deposits route, fun _ => delivers settings route, Standing.after route.xero⟩

omit [Library] in
/-- Exceptions that an error handler of the application answers. -/
def Handled (exc : Exc) : Prop := (envelope exc).isSome = true

/-- What a token lost under the lock ends in, what a request that is not sent does, or one of the other exceptions. -/
def Foreseen (expected : Exc → Prop) (l : Standing) (exc : Exc) (l' : Standing) : Prop :=
  l' = l ∧ expected exc ∨ l' = .lost ∧ exc = .attributeError "refresh_token" ∨ l' = .unsent ∧ ∃ text, exc = .transport text

/-- The program is typed: what it expects is enough for a good result or an expected exception. -/
abbrev Sound (l : Standing) (good : α → Prop) (expected : Exc → Prop) (program : Async α) : Prop :=
  Ends (typing settings route) l good (Foreseen expected l) program

end Typing
end Api
end OpenClaw
