import OpenClawService.Adapters.TokenAnswers
import OpenClawService.Api.Routes
import OpenClawService.Soundness.Shapes

/-! The bodies that the providers are documented to send, those that the service caches, and
the results that are read out of them. Nothing that reads such a body raises. -/
namespace OpenClaw
open Shape

/-- The outcome is a value, and a good one. -/
def Reads (outcome : Except Exc α) (good : α → Prop) : Prop := ∃ value, outcome = .ok value ∧ good value

namespace Reads
variable {outcome : Except Exc α} {good : α → Prop}

theorem pure (holds : good value) : Reads (Pure.pure value : Except Exc α) good := ⟨value, rfl, holds⟩

theorem bind {next : α → Except Exc β} {good' : β → Prop} (reads : Reads outcome good)
    (rest : ∀ value, good value → Reads (next value) good') : Reads (outcome >>= next) good' := by
  obtain ⟨value, rfl, holds⟩ := reads
  exact rest value holds

theorem mono {weaker : α → Prop} (reads : Reads outcome good) (implied : ∀ value, good value → weaker value) : Reads outcome weaker :=
  reads.imp fun value found => ⟨found.1, implied value found.2⟩

/-- What is read of each item is read of all. -/
theorem mapM {items : List α} {convert : α → Except Exc β} {good : β → Prop} (each : ∀ item ∈ items, Reads (convert item) good) :
    Reads (items.mapM convert) fun results => ∀ result ∈ results, good result := by
  induction items with
  | nil => exact ⟨[], rfl, nofun⟩
  | cons item rest ih =>
    rw [List.mapM_cons]
    refine (each item List.mem_cons_self).bind fun first holds => ?_
    refine (ih fun other listed => each other (List.mem_cons_of_mem _ listed)).bind fun results all => .pure ?_
    rintro result listed
    rcases List.mem_cons.mp listed with rfl | listed
    · exact holds
    · exact all result listed

end Reads

/-! The providers. -/

def tokenBody : Shape :=
  .record [("access_token", .text), ("expires_in", .within 1000000000)]
    [("token_type", .text), ("refresh_token", .nullable .text), ("scope", .nullable .text)]

/-- The connections that a token of Xero is good for. -/
def connectionsBody : Shape := .list 0 (.record [("tenantId", .text)] [])

/-- A refusal of the Microsoft token endpoint. -/
def refusalBody : Shape := .record [] [("error", .anything)]

def deviceCodeBody : Shape :=
  .record [("device_code", .text), ("user_code", .text), ("verification_uri", .text)]
    [("expires_in", .integer), ("interval", .integer), ("message", .text)]

/-- A message as Graph returns it. -/
def messageBody : Shape := .record [("id", .text)] []

def invoicesBody : Shape :=
  .record [("Invoices", .list 1 (.record [("InvoiceID", .text), ("Status", .text)] [("Type", .anything)]))] []

def contactsBody : Shape :=
  .record [] [("Contacts", .list 0 (.record [("ContactID", .text)] [("EmailAddress", .nullable .text), ("Name", .text)]))]

def accountsBody : Shape :=
  .record [] [("Accounts", .list 0 (.record [("AccountID", .text)]
    [("Code", .text), ("Name", .text), ("Type", .text), ("Status", .text)]))]

def taxRatesBody : Shape :=
  .record [] [("TaxRates", .list 0 (.record []
    [("Name", .text), ("TaxType", .text), ("Status", .text), ("EffectiveRate", .nullable .number)]))]

/-! The cache. -/

def messageEntry : Shape := .record [("message_id", .text)] []

def invoiceEntry : Shape := .record [("invoice_id", .text), ("status", .text)] []

/-! Results that their response models accept. -/

def MessageResult.Sound (result : MessageResult) : Prop := text.accepts result.messageId = true

def XeroInvoiceResult.Sound (result : XeroInvoiceResult) : Prop :=
  text.accepts result.invoiceId = true ∧ text.accepts result.status = true

def XeroContactResult.Sound (result : XeroContactResult) : Prop :=
  text.accepts result.contactId = true ∧ text.accepts result.name = true ∧ (nullable text).accepts result.email = true

def XeroAccountResult.Sound (result : XeroAccountResult) : Prop :=
  text.accepts result.accountId = true ∧ text.accepts result.code = true ∧ text.accepts result.name = true ∧
    text.accepts result.type = true ∧ text.accepts result.status = true

def XeroTaxRateResult.Sound (result : XeroTaxRateResult) : Prop :=
  text.accepts result.name = true ∧ text.accepts result.taxType = true ∧ text.accepts result.status = true ∧
    (nullable number).accepts result.effectiveRate = true

def DeviceCodeResult.Sound (result : DeviceCodeResult) : Prop :=
  text.accepts result.deviceCode = true ∧ text.accepts result.userCode = true ∧ text.accepts result.verificationUri = true ∧
    text.accepts result.message = true

section Readers
variable [Library] {body : Json}

theorem asText_reads (accepted : text.accepts value = true) : Reads value.asText fun _ => True := by
  obtain ⟨content, rfl⟩ := text_str accepted
  exact ⟨content, rfl, trivial⟩

theorem toInt_reads (accepted : integer.accepts value = true) : Reads value.toInt fun _ => True := by
  obtain ⟨amount, rfl⟩ := integer_num accepted
  exact ⟨_, rfl, trivial⟩

theorem asOptionalText_reads (accepted : (nullable text).accepts value = true) : Reads value.asOptionalText fun _ => True := by
  rcases nullable_inner accepted with rfl | accepted
  · exact ⟨none, rfl, trivial⟩
  · obtain ⟨content, rfl⟩ := text_str accepted
    exact ⟨some content, rfl, trivial⟩

theorem toInt_lasting (accepted : (within 1000000000).accepts value = true) : Reads value.toInt Lasting := by
  obtain ⟨amount, rfl, lasting⟩ := within_num accepted
  exact ⟨amount, by simp [Json.toInt], lasting⟩

theorem readTokenSet_reads (accepted : tokenBody.accepts body = true) (clocked : Clocked now) :
    Reads (MSDeviceCode.readTokenSet body now) fun _ => True := by
  have expiresIn : Reads (body.getItem "expires_in") fun field => (within 1000000000).accepts field = true :=
    getItem_required accepted (by simp)
  have accessToken : Reads (body.getItem "access_token") fun field => text.accepts field = true := getItem_required accepted (by simp)
  have tokenType : Reads (body.get "token_type" (.str "Bearer")) fun field => text.accepts field = true :=
    get_optional accepted (by simp) rfl
  have refreshToken : Reads (body.get "refresh_token" .null) fun field => (nullable text).accepts field = true :=
    get_optional accepted (by simp) rfl
  have scope : Reads (body.get "scope" .null) fun field => (nullable text).accepts field = true := get_optional accepted (by simp) rfl
  refine (expiresIn.bind fun _ => toInt_lasting).bind fun seconds lasting => ?_
  rw [secondsAfter_lasting clocked lasting]
  refine (accessToken.bind fun _ => asText_reads).bind fun _ _ => ?_
  refine (tokenType.bind fun _ => asText_reads).bind fun _ _ => (refreshToken.bind fun _ => asOptionalText_reads).bind fun _ _ => ?_
  exact (scope.bind fun _ => asOptionalText_reads).bind fun _ _ => .pure trivial

omit [Library] in
theorem refusal_reads (accepted : refusalBody.accepts body = true) : Reads (body.get "error" (.str "")) fun _ => True := by
  have error : Reads (body.get "error" (.str "")) fun field => anything.accepts field = true := get_optional accepted (by simp) rfl
  exact error.mono fun _ _ => trivial

omit [Library] in
theorem tenantOf_reads (accepted : connectionsBody.accepts body = true) :
    Reads (XeroOAuth.tenantOf body) fun tenantId => ∃ text, tenantId = .ofText text := by
  obtain ⟨connections, rfl, _, each⟩ := list_items accepted
  cases connections with
  | nil => exact ⟨_, rfl, none, rfl⟩
  | cons first rest =>
    obtain ⟨tenantId, read, given⟩ := get_required (each first List.mem_cons_self) List.mem_cons_self .null
    obtain ⟨text, rfl⟩ := text_str given
    exact ⟨_, read, some text, rfl⟩

omit [Library] in
theorem firstInvoice_reads (accepted : invoicesBody.accepts body = true) : Reads (firstInvoice body) fun invoice =>
    (record [("InvoiceID", text), ("Status", text)] [("Type", anything)]).accepts invoice = true := by
  have invoices : Reads (body.getItem "Invoices") fun field =>
      (list 1 (record [("InvoiceID", text), ("Status", text)] [("Type", anything)])).accepts field = true :=
    getItem_required accepted (by simp)
  exact invoices.bind fun _ => head_list

omit [Library] in
theorem status_reads (accepted : invoicesBody.accepts body = true) :
    Reads (firstInvoice body >>= Json.getItem "Status") fun status => text.accepts status = true :=
  (firstInvoice_reads accepted).bind fun _ invoice => getItem_required invoice (by simp)

omit [Library] in
theorem extractInvoiceResult_reads (accepted : invoicesBody.accepts body = true) :
    Reads (extractInvoiceResult body) XeroInvoiceResult.Sound := by
  refine (firstInvoice_reads accepted).bind fun invoice fields => ?_
  have invoiceId : Reads (invoice.getItem "InvoiceID") fun field => text.accepts field = true := getItem_required fields (by simp)
  have status : Reads (invoice.getItem "Status") fun field => text.accepts field = true := getItem_required fields (by simp)
  exact invoiceId.bind fun _ first => status.bind fun _ second => .pure ⟨first, second⟩

omit [Library] in
theorem sentId_reads (accepted : messageBody.accepts body = true) : Reads (body.getItem "id") fun id => text.accepts id = true :=
  getItem_required accepted (by simp)

omit [Library] in
theorem contact_reads (accepted : (record [("ContactID", text)] [("EmailAddress", nullable text), ("Name", text)]).accepts body = true) :
    Reads (do
      let email ← body.get "EmailAddress" .null
      return (⟨← body.getItem "ContactID", ← body.get "Name" (.str ""), if email.truthy then email else .null⟩ : XeroContactResult))
      XeroContactResult.Sound := by
  have email : Reads (body.get "EmailAddress" .null) fun field => (nullable text).accepts field = true := get_optional accepted (by simp) rfl
  have contactId : Reads (body.getItem "ContactID") fun field => text.accepts field = true := getItem_required accepted (by simp)
  have name : Reads (body.get "Name" (.str "")) fun field => text.accepts field = true := get_optional accepted (by simp) rfl
  refine email.bind fun email given => contactId.bind fun _ first => name.bind fun _ second => .pure ⟨first, second, ?_⟩
  split
  · exact given
  · rfl

omit [Library] in
theorem account_reads (accepted : (record [("AccountID", text)]
      [("Code", text), ("Name", text), ("Type", text), ("Status", text)]).accepts body = true) :
    Reads (do
      return (⟨← body.getItem "AccountID", ← body.get "Code" (.str ""), ← body.get "Name" (.str ""),
        ← body.get "Type" (.str ""), ← body.get "Status" (.str "")⟩ : XeroAccountResult)) XeroAccountResult.Sound := by
  have accountId : Reads (body.getItem "AccountID") fun field => text.accepts field = true := getItem_required accepted (by simp)
  have code : Reads (body.get "Code" (.str "")) fun field => text.accepts field = true := get_optional accepted (by simp) rfl
  have name : Reads (body.get "Name" (.str "")) fun field => text.accepts field = true := get_optional accepted (by simp) rfl
  have type : Reads (body.get "Type" (.str "")) fun field => text.accepts field = true := get_optional accepted (by simp) rfl
  have status : Reads (body.get "Status" (.str "")) fun field => text.accepts field = true := get_optional accepted (by simp) rfl
  exact accountId.bind fun _ first => code.bind fun _ second => name.bind fun _ third => type.bind fun _ fourth =>
    status.bind fun _ fifth => .pure ⟨first, second, third, fourth, fifth⟩

omit [Library] in
theorem taxRate_reads (accepted : (record []
      [("Name", text), ("TaxType", text), ("Status", text), ("EffectiveRate", nullable number)]).accepts body = true) :
    Reads (do
      return (⟨← body.get "Name" (.str ""), ← body.get "TaxType" (.str ""), ← body.get "Status" (.str ""),
        ← body.get "EffectiveRate" .null⟩ : XeroTaxRateResult)) XeroTaxRateResult.Sound := by
  have name : Reads (body.get "Name" (.str "")) fun field => text.accepts field = true := get_optional accepted (by simp) rfl
  have taxType : Reads (body.get "TaxType" (.str "")) fun field => text.accepts field = true := get_optional accepted (by simp) rfl
  have status : Reads (body.get "Status" (.str "")) fun field => text.accepts field = true := get_optional accepted (by simp) rfl
  have rate : Reads (body.get "EffectiveRate" .null) fun field => (nullable number).accepts field = true :=
    get_optional accepted (by simp) rfl
  exact name.bind fun _ first => taxType.bind fun _ second => status.bind fun _ third => rate.bind fun _ fourth =>
    .pure ⟨first, second, third, fourth⟩

omit [Library] in
/-- A list response is converted item by item. -/
theorem listed_reads {key : String} {item : Shape} {convert : Json → Except Exc α} {good : α → Prop}
    (accepted : (record [] [(key, list 0 item)]).accepts body = true)
    (each : ∀ value, item.accepts value = true → Reads (convert value) good) :
    Reads (listed key convert body) fun results => ∀ result ∈ results, good result := by
  have field : Reads (body.get key (.arr [])) fun field => (list 0 item).accepts field = true :=
    get_optional accepted List.mem_cons_self (by simp [accepts])
  have elements (value : Json) (given : (list 0 item).accepts value = true) :
      Reads value.elements fun items => ∀ value ∈ items, item.accepts value = true := by
    obtain ⟨items, rfl, _, each⟩ := list_items given
    exact ⟨items, rfl, each⟩
  exact field.bind fun value given => (elements value given).bind fun items all => Reads.mapM fun value listed => each value (all value listed)

theorem deviceCode_reads (accepted : deviceCodeBody.accepts body = true) : Reads (do
    let _ ← body.get "user_code" .null
    let deviceCode ← body.getItem "device_code"
    let userCode ← body.getItem "user_code"
    let verificationUri ← body.getItem "verification_uri"
    let expiresIn ← (← body.get "expires_in" (.num 900 0)).toInt
    let interval ← (← body.get "interval" (.num 5 0)).toInt
    let message ← body.get "message" (.str "")
    return ({ deviceCode, userCode, verificationUri, expiresIn, interval, message } : DeviceCodeResult)) DeviceCodeResult.Sound := by
  have shown : Reads (body.get "user_code" .null) fun field => text.accepts field = true := get_required accepted (by simp) _
  have deviceCode : Reads (body.getItem "device_code") fun field => text.accepts field = true := getItem_required accepted (by simp)
  have userCode : Reads (body.getItem "user_code") fun field => text.accepts field = true := getItem_required accepted (by simp)
  have uri : Reads (body.getItem "verification_uri") fun field => text.accepts field = true := getItem_required accepted (by simp)
  have expiresIn : Reads (body.get "expires_in" (.num 900 0)) fun field => integer.accepts field = true :=
    get_optional accepted (by simp) rfl
  have interval : Reads (body.get "interval" (.num 5 0)) fun field => integer.accepts field = true :=
    get_optional accepted (by simp) rfl
  have message : Reads (body.get "message" (.str "")) fun field => text.accepts field = true := get_optional accepted (by simp) rfl
  refine shown.bind fun _ _ => deviceCode.bind fun _ first => userCode.bind fun _ second => uri.bind fun _ third => ?_
  refine expiresIn.bind fun _ given => (toInt_reads given).bind fun _ _ => interval.bind fun _ given => ?_
  exact (toInt_reads given).bind fun _ _ => message.bind fun _ fourth => .pure ⟨first, second, third, fourth⟩

/-! What is cached is read back. -/

omit [Library] in
theorem MessageResult.Sound.cached (sound : result.Sound) : messageEntry.accepts (MessageResult.cached result) = true := by
  simpa [messageEntry, MessageResult.cached, accepts, acceptsFields, MessageResult.Sound] using sound

omit [Library] in
theorem message_ofCached (accepted : messageEntry.accepts body = true) : Reads (MessageResult.ofCached body) MessageResult.Sound := by
  have messageId : Reads (body.getItem "message_id") fun field => text.accepts field = true := getItem_required accepted (by simp)
  exact messageId.bind fun _ sound => .pure sound

omit [Library] in
theorem XeroInvoiceResult.Sound.cached (sound : result.Sound) : invoiceEntry.accepts (XeroInvoiceResult.cached result) = true := by
  simpa [invoiceEntry, XeroInvoiceResult.cached, accepts, acceptsFields, List.lookup_cons, XeroInvoiceResult.Sound] using sound

omit [Library] in
theorem invoice_ofCached (accepted : invoiceEntry.accepts body = true) :
    Reads (XeroInvoiceResult.ofCached body) XeroInvoiceResult.Sound := by
  have invoiceId : Reads (body.getItem "invoice_id") fun field => text.accepts field = true := getItem_required accepted (by simp)
  have status : Reads (body.getItem "status") fun field => text.accepts field = true := getItem_required accepted (by simp)
  exact invoiceId.bind fun _ first => status.bind fun _ second => .pure ⟨first, second⟩

end Readers

/-! Response models. -/
namespace Api

theorem textField_reads (accepted : text.accepts value = true) : Reads (textField value) fun _ => True := by
  obtain ⟨content, rfl⟩ := text_str accepted
  exact ⟨_, rfl, trivial⟩

theorem optionalField_reads {field : Json → Except Exc Json} (accepted : (nullable shape).accepts value = true)
    (given : ∀ value, shape.accepts value = true → Reads (field value) fun _ => True) :
    Reads (optionalField field value) fun _ => True := by
  unfold optionalField
  split
  · exact .pure trivial
  · rename_i present
    rcases nullable_inner accepted with absent | accepted
    · exact (present absent).elim
    · exact given value accepted

theorem messageResponse_reads (sound : result.Sound) : Reads (messageResponse result) fun _ => True :=
  (textField_reads sound).bind fun _ _ => .pure trivial

theorem invoiceResponse_reads (sound : result.Sound) : Reads (invoiceResponse result) fun _ => True :=
  (textField_reads sound.1).bind fun _ _ => (textField_reads sound.2).bind fun _ _ => .pure trivial

theorem contactResponse_reads (sound : result.Sound) : Reads (contactResponse result) fun _ => True := by
  obtain ⟨contactId, name, email⟩ := sound
  refine (textField_reads contactId).bind fun _ _ => (textField_reads name).bind fun _ _ => ?_
  exact (optionalField_reads email fun _ => textField_reads).bind fun _ _ => .pure trivial

theorem accountResponse_reads (sound : result.Sound) : Reads (accountResponse result) fun _ => True := by
  obtain ⟨accountId, code, name, type, status⟩ := sound
  refine (textField_reads accountId).bind fun _ _ => (textField_reads code).bind fun _ _ => (textField_reads name).bind fun _ _ => ?_
  exact (textField_reads type).bind fun _ _ => (textField_reads status).bind fun _ _ => .pure trivial

/-- FastApi takes any number for a float. -/
def Floats [FastApi] : Prop := ∀ mantissa exponent, (FastApi.float (.num mantissa exponent)).isSome = true

theorem taxRateResponse_reads [FastApi] (floats : Floats) (sound : result.Sound) : Reads (taxRateResponse result) fun _ => True := by
  obtain ⟨name, taxType, status, rate⟩ := sound
  have float (value : Json) (accepted : number.accepts value = true) : Reads (floatField value) fun _ => True := by
    obtain ⟨mantissa, exponent, rfl⟩ := number_num accepted
    obtain ⟨float, found⟩ := Option.isSome_iff_exists.mp (floats mantissa exponent)
    exact ⟨float, by rw [floatField, found], trivial⟩
  refine (textField_reads name).bind fun _ _ => (textField_reads taxType).bind fun _ _ => (textField_reads status).bind fun _ _ => ?_
  exact (optionalField_reads rate float).bind fun _ _ => .pure trivial

theorem listResponse_reads {response : α → Except Exc Json} {results : List α}
    (each : ∀ result ∈ results, Reads (response result) fun _ => True) (name : String) :
    Reads (listResponse name response results) fun _ => True :=
  (Reads.mapM each).bind fun _ _ => .pure trivial

theorem deviceCodeInitiateResponse_reads (sound : result.Sound) (connectionId : String) :
    Reads (deviceCodeInitiateResponse connectionId result) fun _ => True := by
  obtain ⟨deviceCode, userCode, uri, message⟩ := sound
  refine (textField_reads deviceCode).bind fun _ _ => (textField_reads userCode).bind fun _ _ => (textField_reads uri).bind fun _ _ => ?_
  exact (textField_reads message).bind fun _ _ => .pure trivial

end Api
end OpenClaw
