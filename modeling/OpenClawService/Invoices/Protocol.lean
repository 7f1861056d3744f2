import OpenClawService.Connection.Request
import OpenClawService.UseCases.Xero

/-! The creation of one invoice, again and again under one key. A call that finds
a cached result verifies the invoice at Xero, and creates another one only when
it has come to doubt that the first still stands. -/
namespace OpenClaw.Invoices
open Interleaving Connection CreateXeroDraftInvoice

/-- Where a call stands. A verification remembers whether it is on its second
pass, and whether anything made it doubt the cached invoice. -/
inductive Phase where
  | idle
  | verifying (invoiceId : String) (retried doubted : Bool)
  | creating
  | created (response : HttpResponse)

namespace Phase

def Working : Phase → Prop
  | .verifying .. | .creating => True
  | _ => False

/-- The call may ask Xero for a new invoice. -/
def MayCreate : Phase → Prop
  | .verifying _ _ doubted => doubted = true
  | .creating => True
  | _ => False

def doubt (doubts : Bool) : Phase → Phase
  | .verifying invoiceId retried doubted => .verifying invoiceId retried (doubted || doubts)
  | p => p

def retry : Phase → Phase
  | .verifying invoiceId _ doubted => .verifying invoiceId true doubted
  | p => p

def retried : Phase → Bool
  | .verifying _ retried _ => retried
  | _ => false

end Phase

/-- What a call starts with, once it has read the cache. -/
def opened : Option Json → Phase
  | some cached => match cached.getItem "invoice_id" with
    | .ok (.str invoiceId) => .verifying invoiceId false false
    | _ => .idle
  | none => .creating

/-- The status that a verification answer reports. -/
def reported (response : HttpResponse) : Except Exc Json :=
  response.parse >>= firstInvoice >>= Json.getItem "Status"

/-- The answer of a verification takes the invoice for gone: by its status, or
because the client makes an unavailable provider of it. -/
def gone (retried : Bool) (response : HttpResponse) : Bool :=
  if response.isSuccess then
    match reported response with
    | .ok status => match stands status with
      | .ok false => true
      | _ => false
    | .error _ => false
  else !(decide (response.statusCode = 401) && !retried)

section Protocol
variable [Library]

/-- A stored token without a tenant, with which the client cannot ask Xero. -/
def tenantless (hash : List (String × String)) : Bool :=
  match TokenStore.decode hash with
  | .ok (some token) => token.xeroTenantId.isNone
  | _ => false

def advance (p : Phase) : (op : Op) → op.Answer → Phase
  | .redis (.getJson _), cached => opened cached
  | .redis (.setJson ..), _ => .idle
  | .redis (.delHash _), _ => p.retry
  | .redis (.hgetall _), hash => p.doubt (tenantless hash)
  | .outside (.refreshToken ..), .error text => p.doubt (!XeroOAuth.rejects text)
  | .outside (.http request), .ok response =>
    if request.method = "POST" then if response.isSuccess then .created response else p
    else p.doubt (gone p.retried response)
  | _, _ => p

/-- The result that the code makes of the answer to a creation. -/
def made (response : HttpResponse) : Except Exc XeroInvoiceResult := response.parse >>= accepted

/-- A call has nothing left to cache. -/
def Settled (p : Phase) : Prop := ∀ response result, p = .created response → made response ≠ .ok result

def admits (connectionId key : String) (p : Phase) : Op → Prop
  | .redis (.getJson k) => k = key ∧ Settled p
  | .redis (.setJson k value _) => k = key ∧ ∃ response result, p = .created response ∧ made response = .ok result ∧
      value = result.cached
  | .redis (.delHash _) => p.Working
  | .redis (.hgetall k) => p.Working ∧ k = TokenStore.key connectionId
  | .outside (.http request) =>
    (∃ invoiceId retried doubted accessToken tenantId, p = .verifying invoiceId retried doubted ∧
      request = (XeroHttp.getCall invoiceId).request accessToken tenantId) ∨
    p.MayCreate ∧ ∃ payload accessToken tenantId, request = (XeroHttp.createCall payload).request accessToken tenantId
  | op => p.Working ∧ Tame connectionId op

/-- The cache holds results of this code, whose invoice ids are text. -/
def expects (_ : Phase) : (op : Op) → op.Answer → Prop
  | .redis (.getJson _), cached => ∀ value, cached = some value →
      ∃ invoiceId status, value = XeroInvoiceResult.cached ⟨.str invoiceId, status⟩
  | _, _ => True

def protocol (connectionId key : String) : Protocol Op Op.Answer Phase :=
  ⟨admits connectionId key, expects, advance⟩

variable {connectionId key : String}

@[simp] theorem protocol_admits : (protocol connectionId key).admits = admits connectionId key := rfl

@[simp] theorem protocol_expects : (protocol connectionId key).expects = expects := rfl

@[simp] theorem protocol_advance : (protocol connectionId key).advance = advance := rfl

end Protocol
end OpenClaw.Invoices
