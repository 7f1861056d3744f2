import Mathlib.Data.List.TakeWhile

/-! Numbers in JSON: a whole part, a fraction and an exponent, each as long as the
text allows. Text that cannot continue a number does not change where it ends. -/
namespace Text

def inNumeral (c : Char) : Bool := c.isDigit || c == '.' || c == 'e' || c == 'E' || c == '+' || c == '-'

/-- Nothing at the head of the text continues a number. -/
def Stops (text : List Char) : Prop := ∀ c ∈ text.head?, inNumeral c = false

def digitPart (text : List Char) : List Char × List Char := (text.takeWhile Char.isDigit, text.dropWhile Char.isDigit)

/-- A zero, or digits that begin with another one. -/
def wholePart : List Char → Option (List Char × List Char)
  | c :: rest => if c = '0' then some ([c], rest) else if c.isDigit then some (digitPart (c :: rest)) else none
  | [] => none

/-- Digits behind a mark; without a digit there is no such part. -/
def marked (mark rest text : List Char) : List Char × List Char :=
  if (digitPart rest).1 = [] then ([], text) else (mark ++ (digitPart rest).1, (digitPart rest).2)

def fractionPart : List Char → List Char × List Char
  | c :: rest => if c = '.' then marked [c] rest (c :: rest) else ([], c :: rest)
  | [] => ([], [])

def signPart : List Char → List Char × List Char
  | c :: rest => if c = '+' ∨ c = '-' then ([c], rest) else ([], c :: rest)
  | [] => ([], [])

def powerPart : List Char → List Char × List Char
  | c :: rest => if c = 'e' ∨ c = 'E' then marked (c :: (signPart rest).1) (signPart rest).2 (c :: rest) else ([], c :: rest)
  | [] => ([], [])

def unsigned (text : List Char) : Option (List Char × List Char) :=
  (wholePart text).map fun (whole, rest) =>
    (whole ++ (fractionPart rest).1 ++ (powerPart (fractionPart rest).2).1, (powerPart (fractionPart rest).2).2)

/-- The number at the head of a text. -/
def numeral : List Char → Option (List Char × List Char)
  | c :: rest => if c = '-' then (unsigned rest).map (Prod.map (c :: ·) id) else unsigned (c :: rest)
  | [] => none

def IsNumeral (text : List Char) : Prop := numeral text = some (text, [])

/-- A part that is read the same whatever follows. -/
def Settled (part : List Char → List Char × List Char) : Prop :=
  ∀ text rest, Stops rest → part (text ++ rest) = ((part text).1, (part text).2 ++ rest)

theorem Stops.other (stops : Stops (c :: rest)) (inside : inNumeral mark = true) : c ≠ mark := by
  rintro rfl
  rw [stops c rfl] at inside
  cases inside

theorem Stops.digit (stops : Stops (c :: rest)) : c.isDigit = false := by
  have outside := stops c rfl
  simp only [inNumeral, Bool.or_eq_false_iff] at outside
  exact outside.1.1.1.1.1

theorem digitPart_settled : Settled digitPart := by
  intro text rest stops
  induction text with
  | nil =>
    cases rest with
    | nil => rfl
    | cons c rest => simp [digitPart, stops.digit]
  | cons c text ih =>
    simp only [digitPart, Prod.mk.injEq] at ih
    by_cases digit : c.isDigit = true <;> simp [digitPart, digit, ih]

theorem marked_append (stops : Stops rest) (mark later text : List Char) :
    marked mark (later ++ rest) (text ++ rest) = ((marked mark later text).1, (marked mark later text).2 ++ rest) := by
  unfold marked
  rw [digitPart_settled later rest stops]
  dsimp only
  split <;> rfl

theorem wholePart_append (stops : Stops rest) (read : wholePart text = some (found, after)) :
    wholePart (text ++ rest) = some (found, after ++ rest) := by
  cases text with
  | nil => cases read
  | cons c text =>
    rw [wholePart] at read
    rw [List.cons_append, wholePart, ← List.cons_append, digitPart_settled _ rest stops]
    split at read
    · rename_i zero
      cases read
      rw [if_pos zero]
    · rename_i other
      split at read
      · rename_i digit
        cases read
        rw [if_neg other, if_pos digit]
        rfl
      · cases read

theorem fractionPart_settled : Settled fractionPart := by
  intro text rest stops
  cases text with
  | nil =>
    cases rest with
    | nil => rfl
    | cons c rest => rw [List.nil_append, fractionPart, if_neg (stops.other (by decide)), fractionPart, List.nil_append]
  | cons c text =>
    rw [List.cons_append, fractionPart, fractionPart]
    split
    · exact marked_append stops [c] text (c :: text)
    · rfl

theorem signPart_settled : Settled signPart := by
  intro text rest stops
  cases text with
  | nil =>
    cases rest with
    | nil => rfl
    | cons c rest =>
      have other : ¬ (c = '+' ∨ c = '-') := not_or.mpr ⟨stops.other (by decide), stops.other (by decide)⟩
      rw [List.nil_append, signPart, if_neg other, signPart, List.nil_append]
  | cons c text =>
    rw [List.cons_append, signPart, signPart]
    split <;> rfl

theorem powerPart_settled : Settled powerPart := by
  intro text rest stops
  cases text with
  | nil =>
    cases rest with
    | nil => rfl
    | cons c rest =>
      have other : ¬ (c = 'e' ∨ c = 'E') := not_or.mpr ⟨stops.other (by decide), stops.other (by decide)⟩
      rw [List.nil_append, powerPart, if_neg other, powerPart, List.nil_append]
  | cons c text =>
    rw [List.cons_append, powerPart, powerPart, signPart_settled text rest stops]
    split
    · exact marked_append stops (c :: (signPart text).1) (signPart text).2 (c :: text)
    · rfl

theorem unsigned_append (stops : Stops rest) (read : unsigned text = some (found, after)) :
    unsigned (text ++ rest) = some (found, after ++ rest) := by
  obtain ⟨⟨whole, later⟩, first, same⟩ := Option.map_eq_some_iff.mp read
  cases same
  rw [unsigned, wholePart_append stops first, Option.map_some]
  dsimp only
  rw [fractionPart_settled later rest stops, powerPart_settled _ rest stops]

theorem numeral_append (stops : Stops rest) (read : numeral text = some (found, after)) :
    numeral (text ++ rest) = some (found, after ++ rest) := by
  cases text with
  | nil => cases read
  | cons c text =>
    rw [numeral] at read
    rw [List.cons_append, numeral]
    split at read
    · rename_i negative
      obtain ⟨⟨positive, later⟩, first, same⟩ := Option.map_eq_some_iff.mp read
      cases same
      rw [if_pos negative, unsigned_append stops first]
      rfl
    · rename_i positive
      rw [if_neg positive]
      exact unsigned_append stops read

/-- What is read stands at the head of the text. -/
theorem marked_parts (mark later : List Char) (same : mark ++ later = text) :
    (marked mark later text).1 ++ (marked mark later text).2 = text := by
  unfold marked
  split
  · rfl
  · rw [List.append_assoc, ← same]
    exact congrArg (mark ++ ·) (List.takeWhile_append_dropWhile ..)

theorem fractionPart_parts (text : List Char) : (fractionPart text).1 ++ (fractionPart text).2 = text := by
  cases text with
  | nil => rfl
  | cons c text =>
    rw [fractionPart]
    split
    · exact marked_parts [c] text rfl
    · rfl

theorem signPart_parts (text : List Char) : (signPart text).1 ++ (signPart text).2 = text := by
  cases text with
  | nil => rfl
  | cons c text =>
    rw [signPart]
    split <;> rfl

theorem powerPart_parts (text : List Char) : (powerPart text).1 ++ (powerPart text).2 = text := by
  cases text with
  | nil => rfl
  | cons c text =>
    rw [powerPart]
    split
    · exact marked_parts _ _ (by rw [List.cons_append, signPart_parts])
    · rfl

theorem wholePart_parts (read : wholePart text = some (found, rest)) : found ++ rest = text ∧ found ≠ [] := by
  cases text with
  | nil => cases read
  | cons c text =>
    rw [wholePart] at read
    split at read
    · cases read
      exact ⟨rfl, nofun⟩
    · split at read
      · rename_i digit
        cases read
        exact ⟨List.takeWhile_append_dropWhile .., by simp [digit]⟩
      · cases read

theorem unsigned_parts (read : unsigned text = some (found, rest)) : found ++ rest = text ∧ found ≠ [] := by
  obtain ⟨⟨whole, later⟩, first, same⟩ := Option.map_eq_some_iff.mp read
  cases same
  obtain ⟨parts, filled⟩ := wholePart_parts first
  refine ⟨?_, by simp [filled]⟩
  rw [List.append_assoc, List.append_assoc, powerPart_parts, fractionPart_parts, parts]

theorem numeral_parts (read : numeral text = some (found, rest)) : found ++ rest = text ∧ found ≠ [] := by
  cases text with
  | nil => cases read
  | cons c text =>
    rw [numeral] at read
    split at read
    · obtain ⟨⟨positive, later⟩, first, same⟩ := Option.map_eq_some_iff.mp read
      cases same
      exact ⟨congrArg (c :: ·) (unsigned_parts first).1, nofun⟩
    · exact unsigned_parts read

/-- A number begins with a sign or a digit. -/
theorem numeral_head (read : numeral (c :: text) = some (found, rest)) : c = '-' ∨ c.isDigit = true := by
  rw [numeral] at read
  split at read
  · exact Or.inl ‹_›
  · obtain ⟨_, first, _⟩ := Option.map_eq_some_iff.mp read
    rw [wholePart] at first
    split at first
    · rename_i zero
      exact Or.inr (by rw [zero]; rfl)
    · split at first
      · exact Or.inr ‹_›
      · cases first

theorem IsNumeral.read (numeric : IsNumeral text) (stops : Stops rest) : numeral (text ++ rest) = some (text, rest) :=
  numeral_append stops numeric

end Text
