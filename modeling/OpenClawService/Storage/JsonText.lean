import OpenClawService.Python
import OpenClawService.Text.Numeral
import OpenClawService.Text.Quoted

/-! JSON as text: what `json.dumps` writes with its defaults, and what `json.loads`
reads. The value of a numeral is the library's; the rest is read here. -/
namespace OpenClaw.Json
open Text

/-- How numbers are read. What `str` writes for a number that was read is read as the same number. -/
class Numerals [Library] where
  value : List Char → Option (Int × Nat)
  numeral_text : value text = some (mantissa, exponent) → IsNumeral (Library.str (.num mantissa exponent)).toList
  value_text : value text = some (mantissa, exponent) →
    value (Library.str (.num mantissa exponent)).toList = some (mantissa, exponent)

section Writing
variable [Library]

mutual
/-- The text of a value, with `", "` and `": "` for separators. -/
def write : Json → List Char
  | .null => "null".toList
  | .bool true => "true".toList
  | .bool false => "false".toList
  | .num mantissa exponent => (Library.str (.num mantissa exponent)).toList
  | .str text => quoted text.toList
  | .arr items => '[' :: writeItems items ++ [']']
  | .obj fields => '{' :: writeFields fields ++ ['}']

def writeItems : List Json → List Char
  | [] => []
  | [item] => write item
  | item :: next :: rest => write item ++ ',' :: ' ' :: writeItems (next :: rest)

def writeFields : List (String × Json) → List Char
  | [] => []
  | [(name, value)] => quoted name.toList ++ ':' :: ' ' :: write value
  | (name, value) :: next :: rest => quoted name.toList ++ ':' :: ' ' :: write value ++ ',' :: ' ' :: writeFields (next :: rest)
end

def dumps (value : Json) : String := String.ofList (write value)

end Writing

section Reading

def isBlank (c : Char) : Bool := c == ' ' || c == '\t' || c == '\n' || c == '\r'

def skipBlank (text : List Char) : List Char := text.dropWhile isBlank

/-- A later field of the same name takes the place of the earlier one. -/
def setField (fields : List (String × Json)) (field : String × Json) : List (String × Json) :=
  if (fields.lookup field.1).isSome then fields.map fun old => if old.1 = field.1 then field else old else fields ++ [field]

def dict (fields : List (String × Json)) : List (String × Json) := fields.foldl setField []

def keywords : List (List Char × Json) := [("null".toList, .null), ("true".toList, .bool true), ("false".toList, .bool false)]

def keyword (text : List Char) : Option (Json × List Char) :=
  keywords.findSome? fun (name, value) => (name.isPrefixOf? text).map (value, ·)

variable [Library] [Numerals]

def number (text : List Char) : Option (Json × List Char) := do
  let (found, rest) ← numeral text
  let (mantissa, exponent) ← Numerals.value found
  return (.num mantissa exponent, rest)

mutual
def readValue : (fuel : Nat) → List Char → Option (Json × List Char)
  | 0, _ => none
  | fuel + 1, text => match text with
    | '"' :: rest => (readQuoted 0 rest).map fun (value, rest) => (.str (String.ofList value), rest)
    | '[' :: rest => match skipBlank rest with
      | ']' :: rest => some (.arr [], rest)
      | rest => (readItems fuel rest).map fun (items, rest) => (.arr items, rest)
    | '{' :: rest => match skipBlank rest with
      | '}' :: rest => some (.obj [], rest)
      | rest => (readFields fuel rest).map fun (fields, rest) => (.obj (dict fields), rest)
    | text => keyword text <|> number text

/-- The items up to the closing bracket. -/
def readItems : (fuel : Nat) → List Char → Option (List Json × List Char)
  | 0, _ => none
  | fuel + 1, text => do
    let (item, rest) ← readValue fuel text
    match skipBlank rest with
    | ']' :: rest => some ([item], rest)
    | ',' :: rest => (readItems fuel (skipBlank rest)).map fun (items, rest) => (item :: items, rest)
    | _ => none

/-- The fields up to the closing brace. -/
def readFields : (fuel : Nat) → List Char → Option (List (String × Json) × List Char)
  | fuel + 1, '"' :: text => do
    let (name, rest) ← readQuoted 0 text
    match skipBlank rest with
    | ':' :: rest => do
      let (value, rest) ← readValue fuel (skipBlank rest)
      match skipBlank rest with
      | '}' :: rest => some ([(String.ofList name, value)], rest)
      | ',' :: rest =>
        (readFields fuel (skipBlank rest)).map fun (fields, rest) => ((String.ofList name, value) :: fields, rest)
      | _ => none
    | _ => none
  | _, _ => none
end

/-- The whole text is one value, but for blanks around it. Python reads `NaN` and `Infinity`
too, which are no JSON and which the service never writes. -/
def loads (text : String) : Option Json :=
  match readValue (2 * text.toList.length + 1) (skipBlank text.toList) with
  | some (value, rest) => if skipBlank rest = [] then some value else none
  | none => none

end Reading

/-! What is read, and what is read again. -/
section Rereading
variable [Library] [Numerals]

/-- A value as `json.loads` builds it: its numbers are the ones read from their own
texts, and no object has two fields of a name. -/
inductive Loaded : Json → Prop where
  | null : Loaded .null
  | bool (value : Bool) : Loaded (.bool value)
  | num (read : Numerals.value (Library.str (.num mantissa exponent)).toList = some (mantissa, exponent))
      (numeric : IsNumeral (Library.str (.num mantissa exponent)).toList) : Loaded (.num mantissa exponent)
  | str (text : String) : Loaded (.str text)
  | arr {items : List Json} (each : ∀ item ∈ items, Loaded item) : Loaded (.arr items)
  | obj {fields : List (String × Json)} (distinct : (fields.map Prod.fst).Nodup) (each : ∀ field ∈ fields, Loaded field.2) :
      Loaded (.obj fields)

omit [Numerals] [Library] in
theorem skipBlank_length (text : List Char) : (skipBlank text).length ≤ text.length := List.length_dropWhile_le _ _

omit [Numerals] [Library] in
theorem skipBlank_of_head (visible : isBlank c = false) (rest : List Char) : skipBlank (c :: rest) = c :: rest :=
  List.dropWhile_cons_of_neg (by simp [visible])

omit [Numerals] [Library] in
/-- Fields of different names stay as they are. -/
theorem dict_of_nodup {fields : List (String × Json)} (distinct : (fields.map Prod.fst).Nodup) : dict fields = fields := by
  have added {taken rest : List (String × Json)} (distinct : ((taken ++ rest).map Prod.fst).Nodup) :
      rest.foldl setField taken = taken ++ rest := by
    induction rest generalizing taken with
    | nil => simp
    | cons field rest ih =>
      have fresh : taken.lookup field.1 = none := by
        rw [List.lookup_eq_none_iff]
        intro old listed
        rw [bne_iff_ne]
        intro same
        rw [List.map_append, List.map_cons, List.nodup_append] at distinct
        exact distinct.2.2 _ (List.mem_map_of_mem listed) _ List.mem_cons_self same.symm
      rw [List.foldl_cons, setField, fresh, if_neg (by simp)]
      rw [ih (by simpa using distinct), List.append_assoc]
      rfl
  exact added (by simpa using distinct)

theorem readValue_atom (unquoted : c ≠ '"') (unbracketed : c ≠ '[') (unbraced : c ≠ '{') (fuel : Nat) (text : List Char) :
    readValue (fuel + 1) (c :: text) = (keyword (c :: text) <|> number (c :: text)) := by
  rw [readValue]
  · rintro rest ⟨⟩
    exact unquoted rfl
  · rintro rest ⟨⟩
    exact unbracketed rfl
  · rintro rest ⟨⟩
    exact unbraced rfl

/-- What a written value may begin with. -/
structure Heads (c : Char) : Prop where
  visible : isBlank c = false
  unclosed : c ≠ ']' ∧ c ≠ '}'

omit [Numerals] [Library] in
/-- A number begins with none of the characters that begin or end something else. -/
theorem numeral_other (mark : Char) (numeric : numeral (c :: text) = some (found, rest)) (digitless : mark.isDigit = false)
    (unsigned : mark ≠ '-') : c ≠ mark := by
  rintro rfl
  rcases numeral_head numeric with rfl | digit
  · exact unsigned rfl
  · rw [digitless] at digit
    cases digit

theorem write_head (loaded : Loaded value) : ∃ c rest, write value = c :: rest ∧ Heads c := by
  cases loaded with
  | null | str | arr | obj => exact ⟨_, _, rfl, by decide, by decide⟩
  | bool value => cases value <;> exact ⟨_, _, rfl, by decide, by decide⟩
  | @num mantissa exponent read numeric =>
    rw [write]
    cases text : (Library.str (.num mantissa exponent)).toList with
    | nil =>
      rw [text] at numeric
      cases numeric
    | cons c rest =>
      rw [text] at numeric
      have other (mark : Char) := numeral_other mark numeric
      refine ⟨c, rest, rfl, ?_, other _ (by decide) (by decide), other _ (by decide) (by decide)⟩
      simp only [isBlank, Bool.or_eq_false_iff, beq_eq_false_iff_ne]
      exact ⟨⟨⟨other _ (by decide) (by decide), other _ (by decide) (by decide)⟩, other _ (by decide) (by decide)⟩,
        other _ (by decide) (by decide)⟩

theorem skipBlank_write (loaded : Loaded value) (rest : List Char) : skipBlank (write value ++ rest) = write value ++ rest := by
  obtain ⟨c, later, written, heads⟩ := write_head loaded
  rw [written, List.cons_append, skipBlank_of_head heads.visible]

omit [Numerals] [Library] in
theorem keyword_numeral (numeric : numeral (c :: text) = some (found, rest)) : keyword (c :: text) = none := by
  have other (mark : Char) := numeral_other mark numeric
  have named (mark : Char) (digitless : mark.isDigit = false) (unsigned : mark ≠ '-') : (mark == c) = false :=
    beq_eq_false_iff_ne.mpr fun same => other mark digitless unsigned same.symm
  simp [keyword, keywords, List.isPrefixOf?, named 'n' (by decide) (by decide), named 't' (by decide) (by decide),
    named 'f' (by decide) (by decide)]

theorem readValue_number (read : Numerals.value (Library.str (.num mantissa exponent)).toList = some (mantissa, exponent))
    (numeric : IsNumeral (Library.str (.num mantissa exponent)).toList) (stops : Stops rest) (fuel : Nat) :
    readValue (fuel + 1) ((Library.str (.num mantissa exponent)).toList ++ rest) = some (.num mantissa exponent, rest) := by
  have whole := numeric.read stops
  cases text : (Library.str (.num mantissa exponent)).toList with
  | nil =>
    rw [text] at numeric
    cases numeric
  | cons c later =>
    rw [text] at numeric whole read
    have other (mark : Char) := numeral_other mark numeric
    rw [List.cons_append] at whole ⊢
    rw [readValue_atom (other _ (by decide) (by decide)) (other _ (by decide) (by decide)) (other _ (by decide) (by decide)),
      keyword_numeral whole]
    simp only [number, whole, read, Option.bind_eq_bind, Option.bind_some, Option.pure_def]
    rfl

omit [Numerals] [Library] in
theorem stops_of_mark (outside : inNumeral c = false) (rest : List Char) : Stops (c :: rest) := by
  rintro head ⟨⟩
  exact outside

/-- A value that is read back from its text, whatever follows it. -/
def ReadsBack (value : Json) : Prop :=
  ∀ fuel rest, (write value).length ≤ fuel → Stops rest → readValue fuel (write value ++ rest) = some (value, rest)

theorem readItems_write (each : ∀ item ∈ items, Loaded item ∧ ReadsBack item) (filled : items ≠ [])
    (enough : (writeItems items).length + 1 ≤ fuel) (rest : List Char) :
    readItems fuel (writeItems items ++ ']' :: rest) = some (items, rest) := by
  induction items generalizing fuel with
  | nil => exact absurd rfl filled
  | cons item items ih =>
    obtain ⟨_, back⟩ := each item List.mem_cons_self
    obtain ⟨fuel, rfl⟩ : ∃ smaller, fuel = smaller + 1 := ⟨fuel - 1, by omega⟩
    cases items with
    | nil =>
      rw [writeItems] at enough ⊢
      rw [readItems, back fuel _ (by omega) (stops_of_mark (by decide) rest)]
      rfl
    | cons next items =>
      have later : ∀ item ∈ next :: items, Loaded item ∧ ReadsBack item := fun item listed => each item (List.mem_cons_of_mem _ listed)
      rw [writeItems, List.length_append, List.length_cons, List.length_cons] at enough
      have tail := ih later nofun (show (writeItems (next :: items)).length + 1 ≤ fuel by omega)
      obtain ⟨c, behind, written, heads⟩ := write_head (later next List.mem_cons_self).1
      have head : skipBlank (writeItems (next :: items) ++ ']' :: rest) = writeItems (next :: items) ++ ']' :: rest := by
        cases items <;> rw [writeItems, written] <;> exact skipBlank_of_head heads.visible _
      have blank : skipBlank (' ' :: (writeItems (next :: items) ++ ']' :: rest)) = writeItems (next :: items) ++ ']' :: rest := head
      have read := back fuel (',' :: ' ' :: (writeItems (next :: items) ++ ']' :: rest)) (by omega) (stops_of_mark (by decide) _)
      simp only [writeItems, List.append_assoc, List.cons_append, readItems, read, Option.bind_eq_bind, Option.bind_some,
        skipBlank_of_head (show isBlank ',' = false by decide), blank, tail, Option.map_some]

theorem readFields_write (each : ∀ field ∈ fields, Loaded field.2 ∧ ReadsBack field.2) (filled : fields ≠ [])
    (enough : (writeFields fields).length + 1 ≤ fuel) (rest : List Char) :
    readFields fuel (writeFields fields ++ '}' :: rest) = some (fields, rest) := by
  induction fields generalizing fuel with
  | nil => exact absurd rfl filled
  | cons field fields ih =>
    obtain ⟨name, value⟩ := field
    obtain ⟨loaded, back⟩ : Loaded value ∧ ReadsBack value := each (name, value) List.mem_cons_self
    obtain ⟨fuel, rfl⟩ : ∃ smaller, fuel = smaller + 1 := ⟨fuel - 1, by omega⟩
    have skip (behind : List Char) : skipBlank (' ' :: (write value ++ behind)) = write value ++ behind := skipBlank_write loaded behind
    cases fields with
    | nil =>
      rw [writeFields, List.length_append, List.length_cons, List.length_cons] at enough
      have read := back fuel ('}' :: rest) (by omega) (stops_of_mark (by decide) rest)
      simp only [writeFields, quoted, List.append_assoc, List.cons_append, List.nil_append, readFields, readQuoted_flatMap,
        Option.bind_eq_bind, Option.bind_some, skipBlank_of_head (show isBlank ':' = false by decide), skip, read,
        skipBlank_of_head (show isBlank '}' = false by decide), String.ofList_toList]
    | cons next fields =>
      have later : ∀ field ∈ next :: fields, Loaded field.2 ∧ ReadsBack field.2 :=
        fun field listed => each field (List.mem_cons_of_mem _ listed)
      rw [writeFields] at enough
      simp only [List.length_append, List.length_cons] at enough
      have tail := ih later nofun (show (writeFields (next :: fields)).length + 1 ≤ fuel by omega)
      have blank : skipBlank (' ' :: (writeFields (next :: fields) ++ '}' :: rest)) = writeFields (next :: fields) ++ '}' :: rest := by
        cases fields <;> rfl
      have read := back fuel (',' :: ' ' :: (writeFields (next :: fields) ++ '}' :: rest)) (by omega) (stops_of_mark (by decide) _)
      simp only [writeFields, quoted, List.append_assoc, List.cons_append, List.nil_append, readFields, readQuoted_flatMap,
        Option.bind_eq_bind, Option.bind_some, skipBlank_of_head (show isBlank ':' = false by decide), skip, read,
        skipBlank_of_head (show isBlank ',' = false by decide), blank, tail, Option.map_some, String.ofList_toList]

/-- The induction is on how the value came about: the items and fields are read back one after the other. -/
theorem Loaded.readsBack (loaded : Loaded value) : ReadsBack value := by
  intro fuel rest enough stops
  induction loaded generalizing fuel rest with
  | null =>
    obtain ⟨fuel, rfl⟩ : ∃ smaller, fuel = smaller + 1 := ⟨fuel - 1, by simp [write] at enough; omega⟩
    rfl
  | bool value =>
    cases value <;>
    · obtain ⟨fuel, rfl⟩ : ∃ smaller, fuel = smaller + 1 := ⟨fuel - 1, by simp [write] at enough; omega⟩
      rfl
  | num read numeric =>
    have filled := (numeral_parts numeric).2
    rw [write] at enough ⊢
    obtain ⟨fuel, rfl⟩ : ∃ smaller, fuel = smaller + 1 := ⟨fuel - 1, by have := List.length_pos_iff.mpr filled; omega⟩
    exact readValue_number read numeric stops fuel
  | str text =>
    obtain ⟨fuel, rfl⟩ : ∃ smaller, fuel = smaller + 1 := ⟨fuel - 1, by simp [write, quoted] at enough; omega⟩
    simp only [write, quoted, List.cons_append, List.append_assoc, List.nil_append, readValue, readQuoted_flatMap,
      Option.map_some, String.ofList_toList]
  | @arr items each ih =>
    have both : ∀ item ∈ items, Loaded item ∧ ReadsBack item :=
      fun item listed => ⟨each item listed, fun fuel rest enough stops => ih item listed fuel rest enough stops⟩
    rw [write] at enough ⊢
    simp only [List.cons_append, List.length_cons, List.length_append, List.length_nil] at enough
    obtain ⟨fuel, rfl⟩ : ∃ smaller, fuel = smaller + 1 := ⟨fuel - 1, by omega⟩
    cases items with
    | nil => rfl
    | cons item items =>
      have inner := readItems_write both nofun (show (writeItems (item :: items)).length + 1 ≤ fuel by omega) rest
      obtain ⟨c, behind, written, heads⟩ := write_head (each item List.mem_cons_self)
      obtain ⟨later, same⟩ : ∃ later, writeItems (item :: items) ++ ']' :: rest = c :: later := by
        cases items <;> rw [writeItems, written] <;> exact ⟨_, rfl⟩
      rw [same] at inner
      simp only [List.cons_append, List.append_assoc, List.nil_append, same, readValue, skipBlank_of_head heads.visible]
      split
      · rename_i closed
        cases closed
        exact absurd rfl heads.unclosed.1
      · rw [inner]
        rfl
  | @obj fields distinct each ih =>
    have both : ∀ field ∈ fields, Loaded field.2 ∧ ReadsBack field.2 :=
      fun field listed => ⟨each field listed, fun fuel rest enough stops => ih field listed fuel rest enough stops⟩
    rw [write] at enough ⊢
    simp only [List.cons_append, List.length_cons, List.length_append, List.length_nil] at enough
    obtain ⟨fuel, rfl⟩ : ∃ smaller, fuel = smaller + 1 := ⟨fuel - 1, by omega⟩
    cases fields with
    | nil => rfl
    | cons field fields =>
      have inner := readFields_write both nofun (show (writeFields (field :: fields)).length + 1 ≤ fuel by omega) rest
      obtain ⟨later, same⟩ : ∃ later, writeFields (field :: fields) ++ '}' :: rest = '"' :: later := by
        cases fields <;> exact ⟨_, rfl⟩
      rw [same] at inner
      simp only [List.cons_append, List.append_assoc, List.nil_append, same, readValue,
        skipBlank_of_head (show isBlank '"' = false by decide)]
      split
      · rename_i closed
        cases closed
      · rw [inner, Option.map_some, dict_of_nodup distinct]

omit [Numerals] [Library] in
theorem setField_names (fields : List (String × Json)) (field : String × Json) :
    (setField fields field).map Prod.fst =
      if (fields.lookup field.1).isSome then fields.map Prod.fst else fields.map Prod.fst ++ [field.1] := by
  unfold setField
  split
  · rw [List.map_map]
    apply List.map_congr_left
    intro old listed
    rw [Function.comp_apply]
    split
    · rename_i same
      exact same.symm
    · rfl
  · rw [List.map_append]
    rfl

omit [Numerals] [Library] in
theorem setField_distinct {fields : List (String × Json)} (field : String × Json)
    (distinct : (fields.map Prod.fst).Nodup) : ((setField fields field).map Prod.fst).Nodup := by
  rw [setField_names]
  split
  · exact distinct
  · rename_i fresh
    rw [List.nodup_append]
    refine ⟨distinct, by simp, ?_⟩
    rintro name listed other alone rfl
    rw [List.mem_singleton] at alone
    obtain ⟨old, stored, rfl⟩ := List.mem_map.mp listed
    have absent : fields.lookup field.1 = none := by rwa [Bool.not_eq_true, Option.isSome_eq_false_iff, Option.isNone_iff_eq_none] at fresh
    rw [List.lookup_eq_none_iff] at absent
    exact absurd alone.symm (by simpa using absent old stored)

omit [Numerals] [Library] in
theorem setField_mem (listed : old ∈ setField fields field) : old ∈ fields ∨ old = field := by
  unfold setField at listed
  split at listed
  · obtain ⟨before, stored, rfl⟩ := List.mem_map.mp listed
    split
    · exact Or.inr rfl
    · exact Or.inl stored
  · simpa using listed

omit [Numerals] [Library] in
/-- Whatever the fields, the object built from them has each name once and no field of its own. -/
theorem dict_facts (fields : List (String × Json)) : ((dict fields).map Prod.fst).Nodup ∧ ∀ field ∈ dict fields, field ∈ fields := by
  have added {taken rest : List (String × Json)} (distinct : (taken.map Prod.fst).Nodup) :
      ((rest.foldl setField taken).map Prod.fst).Nodup ∧ ∀ field ∈ rest.foldl setField taken, field ∈ taken ∨ field ∈ rest := by
    induction rest generalizing taken with
    | nil => exact ⟨distinct, fun field listed => Or.inl listed⟩
    | cons field rest ih =>
      obtain ⟨nodup, sources⟩ := ih (setField_distinct field distinct)
      refine ⟨nodup, fun old listed => ?_⟩
      rcases sources old listed with early | late
      · rcases setField_mem early with stored | rfl
        · exact Or.inl stored
        · exact Or.inr List.mem_cons_self
      · exact Or.inr (List.mem_cons_of_mem _ late)
  obtain ⟨nodup, sources⟩ := added (show (([] : List (String × Json)).map Prod.fst).Nodup from List.nodup_nil)
  exact ⟨nodup, fun field listed => (sources field listed).resolve_left (List.not_mem_nil)⟩

omit [Numerals] [Library] in
theorem keyword_loaded [Library] [Numerals] (read : keyword text = some (value, rest)) :
    Loaded value ∧ rest.length < text.length := by
  obtain ⟨⟨name, meant⟩, listed, found⟩ := List.exists_of_findSome?_eq_some read
  obtain ⟨later, behind, same⟩ := Option.map_eq_some_iff.mp found
  cases same
  have split : name ++ rest = text := List.append_eq_of_isPrefixOf?_eq_some behind
  subst split
  rw [List.length_append]
  simp only [keywords, List.mem_cons, Prod.mk.injEq, List.not_mem_nil, or_false] at listed
  rcases listed with ⟨rfl, rfl⟩ | ⟨rfl, rfl⟩ | ⟨rfl, rfl⟩
  · exact ⟨.null, Nat.lt_add_of_pos_left (by decide)⟩
  · exact ⟨.bool true, Nat.lt_add_of_pos_left (by decide)⟩
  · exact ⟨.bool false, Nat.lt_add_of_pos_left (by decide)⟩

theorem number_loaded (read : number text = some (value, rest)) : Loaded value ∧ rest.length < text.length := by
  obtain ⟨⟨found, later⟩, whole, next⟩ := Option.bind_eq_some_iff.mp read
  obtain ⟨⟨mantissa, exponent⟩, meant, same⟩ := Option.bind_eq_some_iff.mp next
  cases same
  obtain ⟨parts, filled⟩ := numeral_parts whole
  have long := List.length_pos_iff.mpr filled
  refine ⟨.num (Numerals.value_text meant) (Numerals.numeral_text meant), ?_⟩
  rw [← parts, List.length_append]
  omega

/-- What is read with so much fuel is a proper value, and takes a character at least. -/
structure Readings (fuel : Nat) : Prop where
  ofValue {text rest : List Char} {value : Json} (read : readValue fuel text = some (value, rest)) :
    Loaded value ∧ rest.length < text.length
  ofItems {text rest : List Char} {items : List Json} (read : readItems fuel text = some (items, rest)) :
    (∀ item ∈ items, Loaded item) ∧ rest.length < text.length
  ofFields {text rest : List Char} {fields : List (String × Json)} (read : readFields fuel text = some (fields, rest)) :
    (∀ field ∈ fields, Loaded field.2) ∧ rest.length < text.length

theorem readValue_succ (readings : Readings fuel) (read : readValue (fuel + 1) text = some (value, rest)) :
    Loaded value ∧ rest.length < text.length := by
  rw [Json.readValue.eq_def] at read
  dsimp only at read
  split at read
  · obtain ⟨⟨name, later⟩, quote, same⟩ := Option.map_eq_some_iff.mp read
    cases same
    have shorter := readQuoted_shorter quote
    exact ⟨.str _, by simp only [List.length_cons]; omega⟩
  · rename_i inside
    have blank := skipBlank_length inside
    split at read
    · rename_i later closed
      cases read
      rw [closed, List.length_cons] at blank
      exact ⟨.arr (by simp), by simp only [List.length_cons]; omega⟩
    · obtain ⟨⟨items, later⟩, found, same⟩ := Option.map_eq_some_iff.mp read
      cases same
      obtain ⟨each, shorter⟩ := readings.ofItems found
      exact ⟨.arr each, by simp only [List.length_cons]; omega⟩
  · rename_i inside
    have blank := skipBlank_length inside
    split at read
    · rename_i later closed
      cases read
      rw [closed, List.length_cons] at blank
      exact ⟨.obj (by simp) (by simp), by simp only [List.length_cons]; omega⟩
    · obtain ⟨⟨fields, later⟩, found, same⟩ := Option.map_eq_some_iff.mp read
      cases same
      obtain ⟨each, shorter⟩ := readings.ofFields found
      obtain ⟨distinct, sources⟩ := dict_facts fields
      exact ⟨.obj distinct fun field listed => each field (sources field listed), by simp only [List.length_cons]; omega⟩
  · rw [Option.orElse_eq_orElse, Option.orElse_eq_or, Option.or_eq_some_iff] at read
    rcases read with word | ⟨_, digits⟩
    · exact keyword_loaded word
    · exact number_loaded digits

theorem readItems_succ (readings : Readings fuel) (read : readItems (fuel + 1) text = some (items, rest)) :
    (∀ item ∈ items, Loaded item) ∧ rest.length < text.length := by
  rw [Json.readItems] at read
  obtain ⟨⟨item, behind⟩, first, read⟩ := Option.bind_eq_some_iff.mp read
  obtain ⟨loaded, shorter⟩ := readings.ofValue first
  have blank := skipBlank_length behind
  dsimp only at read
  split at read
  · rename_i later closed
    cases read
    rw [closed, List.length_cons] at blank
    exact ⟨by simpa using loaded, by omega⟩
  · rename_i later next
    rw [next, List.length_cons] at blank
    obtain ⟨⟨others, final⟩, found, same⟩ := Option.map_eq_some_iff.mp read
    cases same
    obtain ⟨each, less⟩ := readings.ofItems found
    have blanks := skipBlank_length later
    refine ⟨?_, by dsimp only; omega⟩
    rintro other (_ | ⟨_, listed⟩)
    · exact loaded
    · exact each other listed
  · cases read

theorem readFields_succ (readings : Readings fuel) (read : readFields (fuel + 1) text = some (fields, rest)) :
    (∀ field ∈ fields, Loaded field.2) ∧ rest.length < text.length := by
  rw [Json.readFields.eq_def] at read
  dsimp only at read
  split at read
  · rename_i smaller inside more
    cases more
    obtain ⟨⟨name, behind⟩, quote, read⟩ := Option.bind_eq_some_iff.mp read
    have less := readQuoted_shorter quote
    have blank := skipBlank_length behind
    dsimp only at read
    split at read
    · rename_i after colon
      rw [colon, List.length_cons] at blank
      have front := skipBlank_length after
      obtain ⟨⟨value, behind'⟩, first, read⟩ := Option.bind_eq_some_iff.mp read
      obtain ⟨loaded, shorter⟩ := readings.ofValue first
      have blank' := skipBlank_length behind'
      dsimp only at read
      split at read
      · rename_i later closed
        cases read
        rw [closed, List.length_cons] at blank'
        exact ⟨by simpa using loaded, by simp only [List.length_cons]; omega⟩
      · rename_i later next
        rw [next, List.length_cons] at blank'
        obtain ⟨⟨others, final⟩, found, same⟩ := Option.map_eq_some_iff.mp read
        cases same
        obtain ⟨each, fewer⟩ := readings.ofFields found
        have blanks := skipBlank_length later
        refine ⟨?_, by simp only [List.length_cons]; omega⟩
        rintro other (_ | ⟨_, listed⟩)
        · exact loaded
        · exact each other listed
      · cases read
    · cases read
  · cases read

theorem readings (fuel : Nat) : Readings fuel := by
  induction fuel with
  | zero => exact ⟨nofun, nofun, nofun⟩
  | succ fuel ih => exact ⟨readValue_succ ih, readItems_succ ih, readFields_succ ih⟩

/-- With enough fuel for texts of a size, more of it changes nothing. -/
structure Steady (size : Nat) : Prop where
  ofValue {text : List Char} (fuel more : Nat) (short : text.length ≤ size) (enough : 2 * size < fuel) (beyond : 2 * size < more) :
    readValue fuel text = readValue more text
  ofItems {text : List Char} (fuel more : Nat) (short : text.length ≤ size) (enough : 2 * size + 1 < fuel)
    (beyond : 2 * size + 1 < more) : readItems fuel text = readItems more text
  ofFields {text : List Char} (fuel more : Nat) (short : text.length ≤ size) (enough : 2 * size + 1 < fuel)
    (beyond : 2 * size + 1 < more) : readFields fuel text = readFields more text

theorem readValue_steady (steady : ∀ smaller < size, Steady smaller) {text : List Char} (fuel more : Nat)
    (short : text.length ≤ size) (enough : 2 * size < fuel) (beyond : 2 * size < more) :
    readValue fuel text = readValue more text := by
  obtain ⟨fuel, rfl⟩ : ∃ smaller, fuel = smaller + 1 := ⟨fuel - 1, by omega⟩
  obtain ⟨more, rfl⟩ : ∃ smaller, more = smaller + 1 := ⟨more - 1, by omega⟩
  rw [readValue.eq_def, readValue.eq_def (more + 1)]
  dsimp only
  split
  · rfl
  · rename_i inside
    rw [List.length_cons] at short
    have blank := skipBlank_length inside
    split
    · rfl
    · rw [(steady (size - 1) (by omega)).ofItems fuel more (by omega) (by omega) (by omega)]
  · rename_i inside
    rw [List.length_cons] at short
    have blank := skipBlank_length inside
    split
    · rfl
    · rw [(steady (size - 1) (by omega)).ofFields fuel more (by omega) (by omega) (by omega)]
  · rfl

theorem readItems_steady (steady : ∀ smaller < size, Steady smaller) {text : List Char} (fuel more : Nat)
    (short : text.length ≤ size) (enough : 2 * size + 1 < fuel) (beyond : 2 * size + 1 < more) :
    readItems fuel text = readItems more text := by
  obtain ⟨fuel, rfl⟩ : ∃ smaller, fuel = smaller + 1 := ⟨fuel - 1, by omega⟩
  obtain ⟨more, rfl⟩ : ∃ smaller, more = smaller + 1 := ⟨more - 1, by omega⟩
  rw [readItems, readItems, readValue_steady steady fuel more short (by omega) (by omega)]
  cases first : readValue more text with
  | none => rfl
  | some found =>
    obtain ⟨item, behind⟩ := found
    have shorter := ((readings more).ofValue first).2
    have blank := skipBlank_length behind
    simp only [Option.bind_eq_bind, Option.bind_some]
    split
    · rfl
    · rename_i later next
      have blanks := skipBlank_length later
      rw [next, List.length_cons] at blank
      rw [(steady (size - 1) (by omega)).ofItems fuel more (by omega) (by omega) (by omega)]
    · rfl

theorem readFields_steady (steady : ∀ smaller < size, Steady smaller) {text : List Char} (fuel more : Nat)
    (short : text.length ≤ size) (enough : 2 * size + 1 < fuel) (beyond : 2 * size + 1 < more) :
    readFields fuel text = readFields more text := by
  obtain ⟨fuel, rfl⟩ : ∃ smaller, fuel = smaller + 1 := ⟨fuel - 1, by omega⟩
  obtain ⟨more, rfl⟩ : ∃ smaller, more = smaller + 1 := ⟨more - 1, by omega⟩
  rw [readFields.eq_def, readFields.eq_def (more + 1)]
  dsimp only
  split
  · rename_i smaller inside one
    cases one
    rw [List.length_cons] at short
    cases quote : readQuoted 0 inside with
    | none => rfl
    | some found =>
      obtain ⟨name, behind⟩ := found
      have less := readQuoted_shorter quote
      have blank := skipBlank_length behind
      simp only [Option.bind_eq_bind, Option.bind_some]
      split
      · rename_i after colon
        rw [colon, List.length_cons] at blank
        have front := skipBlank_length after
        rw [(steady (size - 1) (by omega)).ofValue fuel more (by omega) (by omega) (by omega)]
        cases first : readValue more (skipBlank after) with
        | none => rfl
        | some found =>
          obtain ⟨value, behind'⟩ := found
          have shorter := ((readings more).ofValue first).2
          have blank' := skipBlank_length behind'
          simp only [Option.bind_some]
          split
          · rfl
          · rename_i later next
            have blanks := skipBlank_length later
            rw [next, List.length_cons] at blank'
            rw [(steady (size - 1) (by omega)).ofFields fuel more (by omega) (by omega) (by omega)]
          · rfl
      · rfl
  · rename_i unquoted
    split
    · exact (unquoted fuel _ rfl rfl).elim
    · rfl

theorem steady (size : Nat) : Steady size := by
  induction size using Nat.strongRecOn with
  | ind size ih => exact ⟨readValue_steady ih, readItems_steady ih, readFields_steady ih⟩

/-- The fuel is always enough. -/
theorem readValue_fuel (enough : 2 * text.length < fuel) : readValue fuel text = readValue (2 * text.length + 1) text :=
  (steady text.length).ofValue _ _ (le_refl _) enough (by omega)

/-- A text is read as the value that it begins with, given enough fuel, if only blanks follow. -/
theorem loads_iff {text : String} (enough : 2 * text.toList.length < fuel) : loads text = some value ↔
    ∃ rest, readValue fuel (skipBlank text.toList) = some (value, rest) ∧ skipBlank rest = [] := by
  have shorter := skipBlank_length text.toList
  rw [loads, readValue_fuel (show 2 * (skipBlank text.toList).length < 2 * text.toList.length + 1 by omega),
    readValue_fuel (show 2 * (skipBlank text.toList).length < fuel by omega)]
  cases readValue (2 * (skipBlank text.toList).length + 1) (skipBlank text.toList) with
  | none => simp
  | some found =>
    obtain ⟨first, rest⟩ := found
    by_cases ended : skipBlank rest = [] <;> simp [ended]

theorem loads_loaded (read : loads text = some value) : Loaded value := by
  obtain ⟨rest, first, _⟩ := (loads_iff (Nat.lt_succ_self _)).mp read
  exact ((readings _).ofValue first).1

theorem loads_dumps (loaded : Loaded value) : loads (dumps value) = some value := by
  obtain ⟨c, rest, written, heads⟩ := write_head loaded
  have front : skipBlank (dumps value).toList = write value := by
    rw [dumps, String.toList_ofList, written, skipBlank_of_head heads.visible]
  have read := loaded.readsBack (2 * (dumps value).toList.length + 1) []
    (by rw [dumps, String.toList_ofList]; omega) (by rintro c ⟨⟩)
  rw [List.append_nil] at read
  refine (loads_iff (Nat.lt_succ_self _)).mpr ⟨[], ?_, rfl⟩
  rw [front, read]

end Rereading

section Sample
local instance : Library := .sample

theorem digit_read : ∀ digit < 10, IsNumeral (Library.str (.num (digit : Nat) 0)).toList ∧
    (Library.str (.num (digit : Nat) 0)).toList = [Char.ofNat (48 + digit)] := by
  unfold IsNumeral
  decide

def digitValue : List Char → Option (Int × Nat)
  | [c] => if c.isDigit then some ((c.toNat - 48 : Nat), 0) else none
  | _ => none

theorem digitValue_bound (read : digitValue text = some (mantissa, exponent)) :
    exponent = 0 ∧ ∃ digit < 10, mantissa = (digit : Nat) ∧ text = [Char.ofNat (48 + digit)] := by
  unfold digitValue at read
  split at read
  · rename_i c
    split at read
    · rename_i digit
      cases read
      simp only [Char.isDigit, Bool.and_eq_true, decide_eq_true_eq] at digit
      have low : 48 ≤ c.toNat := UInt32.le_iff_toNat_le.mp digit.1
      have high : c.toNat ≤ 57 := UInt32.le_iff_toNat_le.mp digit.2
      refine ⟨rfl, c.toNat - 48, by omega, rfl, ?_⟩
      rw [Nat.add_sub_cancel' low, Char.ofNat_toNat]
    · cases read
  · cases read

/-- Numbers of one digit, to run examples with. -/
@[reducible] def Numerals.sample : Numerals where
  value := digitValue
  numeral_text read := by
    obtain ⟨rfl, digit, small, rfl, _⟩ := digitValue_bound read
    exact (digit_read digit small).1
  value_text read := by
    obtain ⟨rfl, digit, small, rfl, same⟩ := digitValue_bound read
    rw [(digit_read digit small).2, ← same]
    exact read

end Sample
end OpenClaw.Json
