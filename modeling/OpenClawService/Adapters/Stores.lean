import OpenClawService.Interleaving.Trace
import OpenClawService.Service

/-! The Redis stores: token hashes, approval hashes, cached results and OAuth
states, each with its key and codec. -/
namespace OpenClaw
open Interleaving
variable [Library]

/-- `datetime.fromisoformat`. -/
def parseInstant (text : String) : Except Exc Int :=
  match Library.fromisoformat text with
  | some instant => .ok instant
  | none => .error (.valueError text)

theorem parseInstant_internal : Internal (parseInstant text) := by
  unfold parseInstant
  split
  · exact .ok
  · exact .raised rfl

/-- `datetime.fromisoformat(data[key]) if data.get(key) else None`. -/
def optionalInstant (data : List (String × String)) (key : String) : Except Exc (Option Int) :=
  match (data.lookup key).bind orNone with
  | some text => some <$> parseInstant text
  | none => .ok none

/-- `value.isoformat() if value else ""`. -/
def instantText (instant : Option Int) : String := orAbsent (instant.map Library.isoformat)

namespace TokenStore

omit [Library] in
def key (connectionId : String) : String := "token:" ++ connectionId

def toMapping (token : TokenSet) : List (String × String) :=
  [("access_token", token.accessToken), ("refresh_token", orAbsent token.refreshToken),
    ("expires_at", Library.isoformat token.expiresAt), ("token_type", token.tokenType),
    ("scope", orAbsent token.scope), ("xero_tenant_id", orAbsent token.xeroTenantId)]

def fromMapping (data : List (String × String)) : Except Exc TokenSet := do
  let accessToken ← dictItem data "access_token"
  let refreshToken ← dictItem data "refresh_token"
  let expiresAt ← parseInstant (← dictItem data "expires_at")
  let scope ← dictItem data "scope"
  let xeroTenantId ← dictItem data "xero_tenant_id"
  return { accessToken, refreshToken := orNone refreshToken, expiresAt,
           tokenType := (data.lookup "token_type").getD "Bearer",
           scope := orNone scope, xeroTenantId := orNone xeroTenantId }

/-- HGETALL of a missing key is empty. -/
def decode (data : List (String × String)) : Except Exc (Option TokenSet) :=
  if data.isEmpty then .ok none else some <$> fromMapping data

omit [Library] in
/-- What the hash keeps of a token: an empty optional field counts as absent. -/
def kept (token : TokenSet) : TokenSet :=
  { token with
    refreshToken := token.refreshToken.bind orNone
    scope := token.scope.bind orNone
    xeroTenantId := token.xeroTenantId.bind orNone }

/-- A decoded token has no empty optional field. -/
theorem kept_of_decode {data : List (String × String)} (decoded : decode data = .ok (some token)) :
    kept token = token := by
  unfold decode at decoded
  split at decoded
  · cases decoded
  · obtain ⟨token', decoded, same⟩ := map_ok decoded
    cases same
    unfold fromMapping at decoded
    obtain ⟨accessToken, _, decoded⟩ := bind_ok decoded
    obtain ⟨refreshToken, _, decoded⟩ := bind_ok decoded
    obtain ⟨expiry, _, decoded⟩ := bind_ok decoded
    obtain ⟨expiresAt, _, decoded⟩ := bind_ok decoded
    obtain ⟨scope, _, decoded⟩ := bind_ok decoded
    obtain ⟨xeroTenantId, _, decoded⟩ := bind_ok decoded
    cases decoded
    simp [kept]

theorem decode_internal {data : List (String × String)} : Internal (decode data) := by
  unfold decode
  split
  · exact .ok
  · refine .map (.bind dictItem_internal fun _ => .bind dictItem_internal fun _ => .bind dictItem_internal fun _ => ?_)
    exact .bind parseInstant_internal fun _ => .bind dictItem_internal fun _ => .bind dictItem_internal fun _ => .ok

/-- The codec: a stored token is read back, whatever the hash held before. -/
theorem decode_merge (hash : List (String × String)) (token : TokenSet) :
    decode (Redis.merge hash (toMapping token)) = .ok (some (kept token)) := by
  simp [decode, Redis.merge, toMapping, fromMapping, dictItem, parseInstant, List.lookup_cons,
    Library.fromisoformat_isoformat, kept]

/-- A token that is stored after a command was stored before it, or the command writes it. -/
theorem decode_exec {ι : Type} [DecidableEq ι] {redis : Redis ι} {i : ι} {command : Command}
    (decoded : decode ((redis.exec i command).2.hashes (key connectionId)) = .ok (some token)) :
    decode (redis.hashes (key connectionId)) = .ok (some token) ∨ ∃ mapping, command = .hset (key connectionId) mapping ∧
      decode (Redis.merge (redis.hashes (key connectionId)) mapping) = .ok (some token) := by
  by_cases modifies : command.modifiesHash = some (key connectionId)
  · cases command with
    | hset k mapping =>
      cases modifies
      simp only [Redis.exec, Function.update_self] at decoded
      exact Or.inr ⟨mapping, rfl, decoded⟩
    | delHash k =>
      cases modifies
      simp [Redis.exec, decode] at decoded
    | _ => cases modifies
  · rw [redis.exec_hashes i modifies] at decoded
    exact Or.inl decoded

def store (connectionId : String) (token : TokenSet) : Async Unit :=
  Async.redis (.hset (key connectionId) (toMapping token))

def load (connectionId : String) : Async (Option TokenSet) := do
  Async.ofExcept (decode (← Async.redis (.hgetall (key connectionId))))

theorem load_meets {P : Protocol Op Op.Answer L} {post : Except Exc (Option TokenSet) → L → Prop} :
    Meets P (load connectionId) l post ↔ P.admits l (.redis (.hgetall (key connectionId))) ∧
      ∀ hash, P.expects l (.redis (.hgetall (key connectionId))) hash →
        post (decode hash) (P.advance l (.redis (.hgetall (key connectionId))) hash) := by
  simp only [load, Meets.bind_iff, Async.redis_meets, Meets.andThen_ok, Async.ofExcept_meets]

theorem load_trace {hash : List (String × String)} {outcome : Except Exc (Option TokenSet)} (decoded : decode hash = outcome) :
    (load connectionId).run.Trace [⟨.redis (.hgetall (key connectionId)), hash⟩] (.done outcome) := by
  subst decoded
  exact .cons .nil

omit [Library] in
def delete (connectionId : String) : Async Unit := Async.redis (.delHash (key connectionId))

end TokenStore

namespace ApprovalStore

omit [Library] in
def key (approvalId : String) : String := "approval:" ++ approvalId

def toMapping (approval : ApprovalRequest) : List (String × String) :=
  [("approval_id", approval.approvalId), ("invoice_case_id", approval.invoiceCaseId),
    ("pdf_path", approval.pdfPath), ("invoice_number", approval.invoiceNumber),
    ("supplier_name", approval.supplierName), ("approve_url", approval.approveUrl),
    ("reject_url", approval.rejectUrl), ("status", approval.status),
    ("decision", orAbsent approval.decision), ("note", orAbsent approval.note),
    ("created_at", Library.isoformat approval.createdAt),
    ("decided_at", instantText approval.decidedAt),
    ("decision_source", orAbsent approval.decisionSource),
    ("webhook_sent_at", instantText approval.webhookSentAt),
    ("webhook_result", orAbsent approval.webhookResult)]

/-- Records of the old format carry the decision in the status field. -/
def migrated (rawStatus : String) (data : List (String × String)) : String × Option String :=
  if rawStatus = "approved" ∨ rawStatus = "rejected" then ("resolved", some rawStatus)
  else (rawStatus, (data.lookup "decision").bind orNone)

def fromMapping (data : List (String × String)) : Except Exc ApprovalRequest := do
  let rawStatus ← dictItem data "status"
  let (status, decision) := migrated rawStatus data
  let approvalId ← dictItem data "approval_id"
  let invoiceCaseId ← dictItem data "invoice_case_id"
  let pdfPath ← dictItem data "pdf_path"
  let invoiceNumber ← dictItem data "invoice_number"
  let supplierName ← dictItem data "supplier_name"
  let approveUrl ← dictItem data "approve_url"
  let rejectUrl ← dictItem data "reject_url"
  let createdAt ← parseInstant (← dictItem data "created_at")
  let decidedAt ← optionalInstant data "decided_at"
  let webhookSentAt ← optionalInstant data "webhook_sent_at"
  return { approvalId, invoiceCaseId, pdfPath, invoiceNumber, supplierName, approveUrl, rejectUrl,
           status, decision, note := (data.lookup "note").bind orNone, createdAt, decidedAt,
           decisionSource := (data.lookup "decision_source").bind orNone, webhookSentAt,
           webhookResult := (data.lookup "webhook_result").bind orNone }

def decode (data : List (String × String)) : Except Exc (Option ApprovalRequest) :=
  if data.isEmpty then .ok none else some <$> fromMapping data

omit [Library] in
/-- What the hash keeps of a record: an empty optional field counts as absent. -/
def kept (approval : ApprovalRequest) : ApprovalRequest :=
  { approval with
    decision := approval.decision.bind orNone
    note := approval.note.bind orNone
    decisionSource := approval.decisionSource.bind orNone
    webhookResult := approval.webhookResult.bind orNone }

theorem optionalInstant_text {data : List (String × String)} {instant : Option Int}
    (stored : data.lookup field = some (instantText instant)) : optionalInstant data field = .ok instant := by
  unfold optionalInstant
  cases instant with
  | none => simp [stored, instantText, orAbsent, orNone]
  | some instant =>
    simp [stored, instantText, orAbsent, orNone, Library.isoformat_nonempty, parseInstant,
      Library.fromisoformat_isoformat]

/-- The codec: a saved record is read back, whatever the hash held before. -/
theorem decode_merge (hash : List (String × String)) (approval : ApprovalRequest)
    (current : approval.status ≠ "approved" ∧ approval.status ≠ "rejected") :
    decode (Redis.merge hash (toMapping approval)) = .ok (some (kept approval)) := by
  have decided : optionalInstant (Redis.merge hash (toMapping approval)) "decided_at" = .ok approval.decidedAt :=
    optionalInstant_text (by simp [Redis.merge, toMapping, List.lookup_cons])
  have sent : optionalInstant (Redis.merge hash (toMapping approval)) "webhook_sent_at" =
      .ok approval.webhookSentAt := optionalInstant_text (by simp [Redis.merge, toMapping, List.lookup_cons])
  have filled : (Redis.merge hash (toMapping approval)).isEmpty = false := by simp [Redis.merge, toMapping]
  rw [decode, filled, if_neg Bool.false_ne_true, fromMapping, decided, sent]
  simp [Redis.merge, toMapping, dictItem, List.lookup_cons, migrated, current, parseInstant,
    Library.fromisoformat_isoformat, kept]

def save (approval : ApprovalRequest) : Async Unit :=
  Async.redis (.hset (key approval.approvalId) (toMapping approval))

def load (approvalId : String) : Async (Option ApprovalRequest) := do
  Async.ofExcept (decode (← Async.redis (.hgetall (key approvalId))))

theorem load_trace {hash : List (String × String)} {outcome : Except Exc (Option ApprovalRequest)} (decoded : decode hash = outcome) :
    (load approvalId).run.Trace [⟨.redis (.hgetall (key approvalId)), hash⟩] (.done outcome) := by
  subst decoded
  exact .cons .nil

end ApprovalStore

omit [Library]

namespace IdempotencyStore

def get (key : String) : Async (Option Json) := Async.redis (.getJson key)

def set (key : String) (result : Json) (ttlSeconds : Nat) : Async Unit :=
  Async.redis (.setJson key result ttlSeconds)

end IdempotencyStore

namespace OAuthStateStore

def key (state : String) : String := "oauth:state:" ++ state

@[simp] theorem key_inj : key state = key other ↔ state = other := by
  simp [key]

def save (state connectionId : String) (ttlSeconds : Nat) : Async Unit :=
  Async.redis (.set (key state) connectionId ttlSeconds)

/-- A WatchError counts as consumed; the unused pipeline unwatches on exit. -/
def pop (state : String) : Async (Option String) := do
  Async.redis (.watch (key state))
  match ← Async.redis (.get (key state)) with
  | none => do
    Async.redis .unwatch
    return none
  | some value => do
    if ← Async.redis (.execDel (key state)) then return some value else return none

end OAuthStateStore

end OpenClaw
