import Mathlib.Algebra.Group.Int.Defs
import Mathlib.Algebra.Group.Nat.Defs
import Mathlib.Data.List.DropRight
import Mathlib.Data.List.Infix

/-! Python values and exceptions as the service meets them: parsed JSON, the
domain errors with their texts, and the library functions whose results are
only ever compared, stored or printed. Instants are microseconds in UTC. -/
namespace OpenClaw

/-- What `json.loads` returns. A number is `mantissa * 10 ^ -exponent`. -/
inductive Json where
  | null
  | bool (value : Bool)
  | num (mantissa : Int) (exponent : Nat)
  | str (value : String)
  | arr (items : List Json)
  | obj (fields : List (String × Json))

/-- Raised exceptions, with `str(exc)` where the source gives a text. -/
inductive Exc where
  | connectionMissingError (text : String)
  | connectionExpiredError (text : String)
  | providerUnavailableError (text : String)
  | lockTimeoutError (text : String)
  | approvalNotFoundError (text : String)
  | duplicateApprovalError (text : String)
  | invalidDecisionError (text : String)
  | deviceCodePending (text : String)
  | deviceCodeExpired (text : String)
  | keyError (key : String)
  | indexError
  | typeError
  | attributeError (name : String)
  | valueError (text : String)
  | overflowError
  | dataError
  | jsonDecodeError
  | transport (text : String)
  deriving DecidableEq

@[simp] theorem ok_bind (value : α) (next : α → Except Exc β) : (Except.ok value >>= next) = next value := rfl

@[simp] theorem error_bind (error : Exc) (next : α → Except Exc β) :
    ((Except.error error : Except Exc α) >>= next) = .error error := rfl

/-- Both halves of a computation that succeeds. -/
theorem bind_ok {outcome : Except Exc α} {next : α → Except Exc β} (done : (outcome >>= next) = .ok result) :
    ∃ value, outcome = .ok value ∧ next value = .ok result := by
  cases outcome with
  | error error => contradiction
  | ok value => exact ⟨value, rfl, done⟩

/-- The half of a computation that fails. -/
theorem bind_failed {outcome : Except Exc α} {next : α → Except Exc β} (failed : (outcome >>= next) = .error exc) :
    outcome = .error exc ∨ ∃ value, outcome = .ok value ∧ next value = .error exc := by
  cases outcome with
  | error error => exact Or.inl (congrArg Except.error (Except.error.inj failed))
  | ok value => exact Or.inr ⟨value, rfl, failed⟩

theorem map_failed {outcome : Except Exc α} {f : α → β} (failed : f <$> outcome = .error exc) :
    outcome = .error exc := by
  cases outcome with
  | error error => exact congrArg Except.error (Except.error.inj failed)
  | ok value => cases failed

theorem map_ok {outcome : Except Exc α} {f : α → β} (done : f <$> outcome = .ok result) :
    ∃ value, outcome = .ok value ∧ f value = result := by
  cases outcome with
  | error error => contradiction
  | ok value => exact ⟨value, rfl, Except.ok.inj done⟩

/-- Raised by Python, by the JSON decoder or by Redis's encoder, and not by the service itself. -/
def Exc.internal : Exc → Bool
  | .keyError _ | .indexError | .typeError | .attributeError _ | .valueError _ | .overflowError | .dataError
  | .jsonDecodeError => true
  | _ => false

/-- A computation that raises no error of the service. -/
def Internal (outcome : Except Exc α) : Prop := ∀ exc, outcome = .error exc → exc.internal = true

namespace Internal

theorem ok {value : α} : Internal (.ok value) := by simp [Internal]

theorem raised {exc : Exc} (internal : exc.internal = true) : Internal (.error exc : Except Exc α) := by
  rintro _ ⟨⟩
  exact internal

theorem bind {outcome : Except Exc α} {next : α → Except Exc β} (first : Internal outcome) (rest : ∀ value, Internal (next value)) :
    Internal (outcome >>= next) := by
  intro exc failed
  rcases bind_failed failed with failed | ⟨value, _, failed⟩
  · exact first exc failed
  · exact rest value exc failed

theorem map {outcome : Except Exc α} {f : α → β} (internal : Internal outcome) : Internal (f <$> outcome) :=
  fun exc failed => internal exc (map_failed failed)

/-- No error of the service comes out of it. -/
theorem ne {outcome : Except Exc α} (internal : Internal outcome) (own : exc.internal = false) : outcome ≠ .error exc := by
  intro failed
  rw [internal exc failed] at own
  cases own

end Internal

/-- One OAuth client session: the registered application and its scopes. -/
structure Session where
  clientId : String
  clientSecret : String
  scope : String
  redirectUri : String
  deriving DecidableEq

/-- Functions of Python's library and of Authlib that the service calls and
whose text it never inspects. -/
class Library where
  repr : String → String
  reprValue : Json → String
  upper : String → String
  int : String → Option Int
  dumps : Json → String
  str : Json → String
  str_text : ∀ text, str (.str text) = text
  isoformat : Int → String
  fromisoformat : String → Option Int
  fromisoformat_isoformat : ∀ instant, fromisoformat (isoformat instant) = some instant
  isoformat_nonempty : ∀ instant, isoformat instant ≠ ""
  createAuthorizationUrl : Session → String → String → String

namespace Json

/-- `value[key]` with a string key. -/
def getItem (key : String) : Json → Except Exc Json
  | .obj fields => match fields.lookup key with
    | some value => .ok value
    | none => .error (.keyError key)
  | _ => .error .typeError

/-- `value[0]`. -/
def head : Json → Except Exc Json
  | .arr [] => .error .indexError
  | .arr (item :: _) => .ok item
  | .str text => match text.toList with
    | [] => .error .indexError
    | c :: _ => .ok (.str (String.singleton c))
  | .obj _ => .error (.keyError "0")
  | _ => .error .typeError

/-- `value.get(key, default)`. -/
def get (key : String) (value default : Json) : Except Exc Json :=
  match value with
  | .obj fields => .ok ((fields.lookup key).getD default)
  | _ => .error (.attributeError "get")

/-- What `for item in value` runs over. -/
def elements : Json → Except Exc (List Json)
  | .arr items => .ok items
  | .str text => .ok (text.toList.map fun c => .str (String.singleton c))
  | .obj fields => .ok (fields.map fun field => .str field.1)
  | _ => .error .typeError

/-- The truth value of `if value:`. -/
def truthy : Json → Bool
  | .null => false
  | .bool value => value
  | .num mantissa _ => mantissa != 0
  | .str text => text != ""
  | .arr items => !items.isEmpty
  | .obj fields => !fields.isEmpty

/-- `value == text` for a string `text`. -/
def isText (text : String) : Json → Bool
  | .str value => value == text
  | _ => false

/-- `value in texts` for a frozenset of strings: membership hashes the value. -/
def memberOf (texts : List String) : Json → Except Exc Bool
  | .arr _ | .obj _ => .error .typeError
  | .str value => .ok (texts.contains value)
  | _ => .ok false

/-- `int(value)`. -/
def toInt [Library] : Json → Except Exc Int
  | .num mantissa exponent => .ok (mantissa.tdiv (10 ^ exponent))
  | .bool value => .ok (if value then 1 else 0)
  | .str text => match Library.int text with
    | some value => .ok value
    | none => .error (.valueError text)
  | _ => .error .typeError

/-- The text that Redis encodes for a value; it refuses the others. -/
def asText [Library] : Json → Except Exc String
  | .str text => .ok text
  | .num mantissa exponent => .ok (Library.str (.num mantissa exponent))
  | _ => .error .dataError

/-- An optional text field of a body: every false value but "" counts as `None`. -/
def asOptionalText [Library] : Json → Except Exc (Option String)
  | .str text => .ok (some text)
  | value => if value.truthy then some <$> value.asText else .ok none

/-- A text or `None`. -/
def ofText : Option String → Json
  | some text => .str text
  | none => .null

@[simp] theorem asOptionalText_ofText [Library] (text : Option String) : (ofText text).asOptionalText = .ok text := by
  cases text <;> rfl

/-- `value is None`. -/
def isNone : Json → Bool
  | .null => true
  | _ => false

variable {value : Json}

theorem getItem_internal : Internal (value.getItem key) := by
  unfold getItem
  split
  · split
    · exact .ok
    · exact .raised rfl
  · exact .raised rfl

theorem get_internal {default : Json} : Internal (value.get key default) := by
  unfold get
  split
  · exact .ok
  · exact .raised rfl

theorem toInt_internal [Library] : Internal value.toInt := by
  unfold toInt
  split
  · exact .ok
  · exact .ok
  · split
    · exact .ok
    · exact .raised rfl
  · exact .raised rfl

theorem str_of_asText [Library] {value : Json} (read : value.asText = .ok text) : Library.str value = text := by
  unfold asText at read
  split at read
  · rw [Library.str_text]
    exact Except.ok.inj read
  · exact Except.ok.inj read
  · cases read

theorem asText_internal [Library] : Internal value.asText := by
  unfold asText
  split
  · exact .ok
  · exact .ok
  · exact .raised rfl

theorem asOptionalText_internal [Library] : Internal value.asOptionalText := by
  unfold asOptionalText
  split
  · exact .ok
  · split
    · exact .map asText_internal
    · exact .ok

end Json

/-! Instants. A `datetime` holds the years from 1 to 9999. -/

def representable (instant : Int) : Bool := decide (-62135596800000000 ≤ instant ∧ instant ≤ 253402300799999999)

/-- `instant + timedelta(seconds=seconds)`. -/
def secondsAfter (instant seconds : Int) : Except Exc Int :=
  if representable (instant + seconds * 1000000) then .ok (instant + seconds * 1000000) else .error .overflowError

theorem secondsAfter_internal : Internal (secondsAfter instant seconds) := by
  unfold secondsAfter
  split
  · exact .ok
  · exact .raised rfl

/-- The whole number next to a fraction, and the even one of two. -/
def roundHalfEven (numerator : Int) (denominator : Nat) : Int :=
  let whole := numerator / denominator
  let twice := 2 * (numerator % denominator)
  if twice < denominator ∨ twice = denominator ∧ whole % 2 = 0 then whole else whole + 1

/-- The instant of a timestamp. -/
def calendar (instant : Int) : Except Exc Int :=
  if representable instant then .ok instant else .error (.valueError "year is out of range")

/-- `datetime.fromtimestamp(value, tz=timezone.utc)`. -/
def fromTimestamp : Json → Except Exc Int
  | .num mantissa exponent => calendar (roundHalfEven (mantissa * 1000000) (10 ^ exponent))
  | .bool value => .ok (if value then 1000000 else 0)
  | _ => .error .typeError

theorem fromTimestamp_internal {value : Json} : Internal (fromTimestamp value) := by
  unfold fromTimestamp
  split
  · unfold calendar
    split
    · exact .ok
    · exact .raised rfl
  · exact .ok
  · exact .raised rfl

/-- `text or None`, where the empty string is false. -/
def orNone (text : String) : Option String := if text = "" then none else some text

/-- `value or ""`, the absent-field sentinel of the Redis codecs. -/
def orAbsent (value : Option String) : String := value.getD ""

@[simp] theorem orNone_orAbsent (value : Option String) :
    orNone (orAbsent value) = value.bind orNone := by
  cases value <;> rfl

theorem orNone_eq_some (found : orNone text = some value) : text = value := by
  unfold orNone at found
  split at found
  · contradiction
  · exact Option.some.inj found

@[simp] theorem bind_orNone_idem (value : Option String) :
    (value.bind orNone).bind orNone = value.bind orNone := by
  cases value with
  | none => rfl
  | some text =>
    by_cases empty : text = "" <;> simp [orNone, empty]

@[simp] theorem orNone_idem (text : String) : (orNone text).bind orNone = orNone text := by
  by_cases empty : text = "" <;> simp [orNone, empty]

/-- The white space that `str.strip` removes. -/
def isSpace (c : Char) : Bool :=
  let n := c.toNat
  (9 ≤ n && n ≤ 13) || (28 ≤ n && n ≤ 32) || n == 0x85 || n == 0xa0 || n == 0x1680 ||
    (0x2000 ≤ n && n ≤ 0x200a) || n == 0x2028 || n == 0x2029 || n == 0x202f || n == 0x205f || n == 0x3000

/-- `text.strip()`. -/
def strip (text : String) : String :=
  String.ofList ((text.toList.dropWhile isSpace).rdropWhile isSpace)

/-- `data[key]` on a flat dictionary. -/
def dictItem (data : List (String × String)) (key : String) : Except Exc String :=
  match data.lookup key with
  | some value => .ok value
  | none => .error (.keyError key)

theorem dictItem_internal : Internal (dictItem data key) := by
  unfold dictItem
  split
  · exact .ok
  · exact .raised rfl

namespace Library

/-- Instants of the first seconds of the epoch, with their ISO texts. -/
def firstSeconds : List (Int × String) :=
  [(0, "1970-01-01T00:00:00+00:00"), (1000000, "1970-01-01T00:00:01+00:00"),
    (2000000, "1970-01-01T00:00:02+00:00")]

/-- A tally of an instant outside the table. -/
def tally (instant : Int) : String :=
  String.ofList ((if instant < 0 then '-' else '+') :: List.replicate instant.natAbs '|')

def untally (text : String) : Option Int :=
  match text.toList with
  | '-' :: marks => some (-marks.length)
  | '+' :: marks => some marks.length
  | _ => none

theorem untally_tally (instant : Int) : untally (tally instant) = some instant := by
  unfold untally tally
  by_cases negative : instant < 0
  · simp only [negative, if_true, String.toList_ofList, List.length_replicate, Option.some.injEq]
    omega
  · simp only [negative, if_false, String.toList_ofList, List.length_replicate, Option.some.injEq]
    omega

theorem tally_plain (instant : Int) : ∀ entry ∈ firstSeconds, entry.2 ≠ tally instant := by
  intro entry listed same
  have first := congrArg (fun text => text.toList.head?) same
  by_cases negative : instant < 0 <;>
    simp only [firstSeconds, List.mem_cons, List.not_mem_nil, or_false] at listed <;>
    rcases listed with rfl | rfl | rfl <;>
    simp [tally, negative] at first

def isoText (instant : Int) : String := (firstSeconds.lookup instant).getD (tally instant)

def ofIsoText (text : String) : Option Int :=
  match firstSeconds.find? (fun entry => entry.2 == text) with
  | some entry => some entry.1
  | none => untally text

theorem ofIsoText_isoText (instant : Int) : ofIsoText (isoText instant) = some instant := by
  by_cases listed : instant = 0 ∨ instant = 1000000 ∨ instant = 2000000
  · rcases listed with rfl | rfl | rfl <;> rfl
  · simp only [not_or] at listed
    have absent : firstSeconds.lookup instant = none := by
      simp [firstSeconds, List.lookup_cons, beq_false_of_ne, listed]
    have unlisted : firstSeconds.find? (fun entry => entry.2 == tally instant) = none := by
      rw [List.find?_eq_none]
      intro entry member same
      exact tally_plain instant entry member (by simpa using same)
    rw [isoText, absent, Option.getD_none, ofIsoText, unlisted]
    exact untally_tally instant

/-- A library to run examples with. It agrees with Python's on plain texts, on
whole numbers and on the instants of the table. -/
@[reducible] def sample : Library where
  repr text := "'" ++ text ++ "'"
  reprValue
    | .null => "None"
    | .str text => "'" ++ text ++ "'"
    | _ => "..."
  upper := String.toUpper
  int := String.toInt?
  dumps
    | .str text => "\"" ++ text ++ "\""
    | _ => "{}"
  str
    | .str text => text
    | .num mantissa 0 => toString mantissa
    | _ => "..."
  str_text _ := rfl
  isoformat := isoText
  fromisoformat := ofIsoText
  fromisoformat_isoformat := ofIsoText_isoText
  isoformat_nonempty instant empty := by
    have read := ofIsoText_isoText instant
    rw [empty] at read
    contradiction
  createAuthorizationUrl session url state :=
    url ++ "?response_type=code&client_id=" ++ session.clientId ++ "&state=" ++ state

end Library

end OpenClaw
