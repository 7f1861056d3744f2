/-! Text in HTML. The five characters with a meaning in markup are written as
character references; reading the references gives the text back. -/
namespace Text

/-- The reference that stands for a character, if the character needs one. -/
def reference : Char → Option (List Char)
  | '&' => some "amp;".toList
  | '<' => some "lt;".toList
  | '>' => some "gt;".toList
  | '\'' => some "#39;".toList
  | '"' => some "#34;".toList
  | _ => none

def escapeMarkup (text : List Char) : List Char :=
  text.flatMap fun c => match reference c with
    | some name => '&' :: name
    | none => [c]

theorem escapeMarkup_append (first second : List Char) :
    escapeMarkup (first ++ second) = escapeMarkup first ++ escapeMarkup second := List.flatMap_append

/-- The character whose reference begins the text. -/
def referenced (text : List Char) : Option (Char × Nat) :=
  ['&', '<', '>', '\'', '"'].findSome? fun c => match reference c with
    | some name => if name.isPrefixOf text then some (c, name.length) else none
    | none => none

/-- An ampersand that begins no reference stands for itself. -/
def unescapeMarkup : (skip : Nat) → List Char → List Char
  | _, [] => []
  | skip + 1, _ :: rest => unescapeMarkup skip rest
  | 0, c :: rest => match if c = '&' then referenced rest else none with
    | some (meant, length) => meant :: unescapeMarkup length rest
    | none => c :: unescapeMarkup 0 rest

theorem unescapeMarkup_skip (name rest : List Char) : unescapeMarkup name.length (name ++ rest) = unescapeMarkup 0 rest := by
  induction name with
  | nil => rfl
  | cons c name ih => exact ih

/-- Each of the references is told from the others. -/
theorem referenced_reference (needed : reference c = some name) (rest : List Char) :
    referenced (name ++ rest) = some (c, name.length) := by
  unfold reference at needed
  split at needed <;> cases needed <;> rfl

theorem unescapeMarkup_escapeMarkup (text : List Char) : unescapeMarkup 0 (escapeMarkup text) = text := by
  induction text with
  | nil => rfl
  | cons c rest ih =>
    rw [escapeMarkup, List.flatMap_cons, ← escapeMarkup]
    cases needed : reference c with
    | some name =>
      simp only [List.cons_append, unescapeMarkup, if_true, referenced_reference needed, unescapeMarkup_skip, ih]
    | none =>
      have other : c ≠ '&' := by
        rintro rfl
        cases needed
      simp only [List.cons_append, List.nil_append, unescapeMarkup, if_neg other, ih]

theorem reference_unquoted (needed : reference c = some name) : '"' ∉ name := by
  unfold reference at needed
  split at needed <;> cases needed <;> decide

/-- An escaped text ends no attribute value. -/
theorem quote_not_mem_escapeMarkup (text : List Char) : '"' ∉ escapeMarkup text := by
  rw [escapeMarkup, List.mem_flatMap]
  rintro ⟨c, _, quoted⟩
  cases needed : reference c with
  | some name =>
    rw [needed, List.mem_cons] at quoted
    exact quoted.elim (by decide) (reference_unquoted needed)
  | none =>
    rw [needed, List.mem_singleton] at quoted
    subst quoted
    cases needed

end Text
