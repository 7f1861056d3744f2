import OpenClawService.Domain

/-! Shapes of JSON bodies, as data that a body can be checked against: a shape says what the
readers of a body rely on, and no more. -/
namespace OpenClaw

inductive Shape where
  | anything
  | text
  | integer
  | within (bound : Int)
  | number
  | nullable (inner : Shape)
  | list (least : Nat) (item : Shape)
  | record (required optional : List (String × Shape))

mutual

/-- The value has all that the shape names. -/
def Shape.accepts : Shape → Json → Bool
  | .anything, _ => true
  | .text, .str _ => true
  | .integer, .num _ 0 => true
  | .within bound, .num amount 0 => decide (0 ≤ amount ∧ amount ≤ bound)
  | .number, .num _ _ => true
  | .nullable _, .null => true
  | .nullable inner, value => inner.accepts value
  | .list least item, .arr items => decide (least ≤ items.length) && items.all fun value => item.accepts value
  | .record required optional, .obj fields => Shape.acceptsFields false required fields && Shape.acceptsFields true optional fields
  | _, _ => false

def Shape.acceptsFields (absent : Bool) : List (String × Shape) → List (String × Json) → Bool
  | [], _ => true
  | (name, shape) :: rest, fields => (match fields.lookup name with
    | none => absent
    | some value => shape.accepts value) && Shape.acceptsFields absent rest fields

end

namespace Shape
variable {value : Json} {required optional : List (String × Shape)} {shape : Shape}

theorem acceptsFields_lookup {absent : Bool} {fields : List (String × Json)} {specs : List (String × Shape)}
    (accepted : acceptsFields absent specs fields = true) (listed : (name, shape) ∈ specs) :
    (fields.lookup name = none ∧ absent = true) ∨ ∃ value, fields.lookup name = some value ∧ shape.accepts value = true := by
  induction specs with
  | nil => cases listed
  | cons spec rest ih =>
    obtain ⟨other, wanted⟩ := spec
    rw [acceptsFields, Bool.and_eq_true] at accepted
    rcases List.mem_cons.mp listed with same | listed
    · cases same
      have first := accepted.1
      cases found : fields.lookup name with
      | none =>
        rw [found] at first
        exact Or.inl ⟨rfl, first⟩
      | some value =>
        rw [found] at first
        exact Or.inr ⟨value, rfl, first⟩
    · exact ih accepted.2 listed

theorem record_fields (accepted : (record required optional).accepts value = true) :
    ∃ fields, value = .obj fields ∧ acceptsFields false required fields = true ∧ acceptsFields true optional fields = true := by
  cases value with
  | obj fields =>
    rw [accepts, Bool.and_eq_true] at accepted
    exact ⟨fields, rfl, accepted⟩
  | _ => exact (Bool.false_ne_true accepted).elim

/-- A required field can be read. -/
theorem getItem_required (accepted : (record required optional).accepts value = true) (listed : (name, shape) ∈ required) :
    ∃ field, value.getItem name = .ok field ∧ shape.accepts field = true := by
  obtain ⟨fields, rfl, has, _⟩ := record_fields accepted
  rcases acceptsFields_lookup has listed with ⟨_, absent⟩ | ⟨field, found, accepted⟩
  · cases absent
  · exact ⟨field, by rw [Json.getItem, found], accepted⟩

/-- An optional field can be read with a default of its shape. -/
theorem get_optional (accepted : (record required optional).accepts value = true) (listed : (name, shape) ∈ optional)
    {fallback : Json} (spare : shape.accepts fallback = true) : ∃ field, value.get name fallback = .ok field ∧ shape.accepts field = true := by
  obtain ⟨fields, rfl, _, has⟩ := record_fields accepted
  rcases acceptsFields_lookup has listed with ⟨missing, _⟩ | ⟨field, found, accepted⟩
  · exact ⟨fallback, by rw [Json.get, missing, Option.getD_none], spare⟩
  · exact ⟨field, by rw [Json.get, found, Option.getD_some], accepted⟩

/-- So can a required one. -/
theorem get_required (accepted : (record required optional).accepts value = true) (listed : (name, shape) ∈ required) (default : Json) :
    ∃ field, value.get name default = .ok field ∧ shape.accepts field = true := by
  obtain ⟨fields, rfl, has, _⟩ := record_fields accepted
  rcases acceptsFields_lookup has listed with ⟨_, absent⟩ | ⟨field, found, accepted⟩
  · cases absent
  · exact ⟨field, by rw [Json.get, found, Option.getD_some], accepted⟩

theorem list_items (accepted : (list least shape).accepts value = true) :
    ∃ items, value = .arr items ∧ least ≤ items.length ∧ ∀ item ∈ items, shape.accepts item = true := by
  cases value with
  | arr items =>
    rw [accepts, Bool.and_eq_true, decide_eq_true_eq, List.all_eq_true] at accepted
    exact ⟨items, rfl, accepted⟩
  | _ => exact (Bool.false_ne_true accepted).elim

/-- The first item of a list that has one. -/
theorem head_list (accepted : (list 1 shape).accepts value = true) : ∃ item, value.head = .ok item ∧ shape.accepts item = true := by
  obtain ⟨items, rfl, filled, each⟩ := list_items accepted
  cases items with
  | nil => simp at filled
  | cons item rest => exact ⟨item, rfl, each item List.mem_cons_self⟩

theorem text_str (accepted : text.accepts value = true) : ∃ content, value = .str content := by
  cases value with
  | str content => exact ⟨content, rfl⟩
  | _ => exact (Bool.false_ne_true accepted).elim

theorem number_num (accepted : number.accepts value = true) : ∃ mantissa exponent, value = .num mantissa exponent := by
  cases value with
  | num mantissa exponent => exact ⟨mantissa, exponent, rfl⟩
  | _ => exact (Bool.false_ne_true accepted).elim

theorem integer_num (accepted : integer.accepts value = true) : ∃ amount, value = .num amount 0 := by
  cases value with
  | num mantissa exponent =>
    cases exponent with
    | zero => exact ⟨mantissa, rfl⟩
    | succ exponent => exact (Bool.false_ne_true accepted).elim
  | _ => exact (Bool.false_ne_true accepted).elim

theorem within_num (accepted : (within bound).accepts value = true) : ∃ amount, value = .num amount 0 ∧ 0 ≤ amount ∧ amount ≤ bound := by
  cases value with
  | num mantissa exponent =>
    cases exponent with
    | zero => exact ⟨mantissa, rfl, of_decide_eq_true accepted⟩
    | succ exponent => exact (Bool.false_ne_true accepted).elim
  | _ => exact (Bool.false_ne_true accepted).elim

theorem nullable_inner (accepted : (nullable shape).accepts value = true) : value = .null ∨ shape.accepts value = true := by
  cases value with
  | null => exact Or.inl rfl
  | _ => exact Or.inr accepted

end Shape
end OpenClaw
