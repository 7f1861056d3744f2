import Mathlib.Data.List.Infix

/-! Percent-encoded text. An escape stands for one byte; the bytes of adjacent
escapes are read as UTF-8, and what is not UTF-8 gives replacement characters,
one for each maximal part of a sequence. No text grows when it is decoded, and
only a text without escapes keeps its length. -/
namespace Text

/-- The value of a hexadecimal digit. -/
def hexDigit (c : Char) : Option Nat :=
  if '0' ≤ c ∧ c ≤ '9' then some (c.toNat - 48)
  else if 'A' ≤ c ∧ c ≤ 'F' then some (c.toNat - 55)
  else if 'a' ≤ c ∧ c ≤ 'f' then some (c.toNat - 87)
  else none

/-- The byte of an escape at the head of a text. -/
def escape : List Char → Option Nat
  | c :: high :: low :: _ => if c = '%' then do return 16 * (← hexDigit high) + (← hexDigit low) else none
  | _ => none

/-- Nowhere in the text does an escape begin. -/
def Unescaped (text : List Char) : Prop := ∀ rest ∈ text.tails, escape rest = none

instance unescapedDecidable : Decidable (Unescaped text) := inferInstanceAs (Decidable (∀ rest ∈ text.tails, escape rest = none))

inductive Piece where
  | byte (value : Nat)
  | char (c : Char)

/-- Percent signs that begin no escape stand for themselves. -/
def pieces : (skip : Nat) → List Char → List Piece
  | _, [] => []
  | skip + 1, _ :: rest => pieces skip rest
  | 0, c :: rest => match escape (c :: rest) with
    | some value => .byte value :: pieces 2 rest
    | none => .char c :: pieces 0 rest

/-- A sequence whose first bytes have been read: how many are to come after the
next one, the bounds of that one, and the value so far. -/
structure Sequence where
  more : Nat
  lowest : Nat
  highest : Nat
  value : Nat

def replacement : Char := Char.ofNat 0xFFFD

/-- The first byte of a character. -/
def lead (byte : Nat) : List Char × Option Sequence :=
  if byte < 0x80 then ([Char.ofNat byte], none)
  else if byte < 0xC2 then ([replacement], none)
  else if byte < 0xE0 then ([], some ⟨0, 0x80, 0xBF, byte - 0xC0⟩)
  else if byte = 0xE0 then ([], some ⟨1, 0xA0, 0xBF, 0⟩)
  else if byte = 0xED then ([], some ⟨1, 0x80, 0x9F, 0xD⟩)
  else if byte < 0xF0 then ([], some ⟨1, 0x80, 0xBF, byte - 0xE0⟩)
  else if byte = 0xF0 then ([], some ⟨2, 0x90, 0xBF, 0⟩)
  else if byte < 0xF4 then ([], some ⟨2, 0x80, 0xBF, byte - 0xF0⟩)
  else if byte = 0xF4 then ([], some ⟨2, 0x80, 0x8F, 4⟩)
  else ([replacement], none)

/-- A byte that does not continue the sequence ends it and leads the next character. -/
def feed (byte : Nat) : Option Sequence → List Char × Option Sequence
  | none => lead byte
  | some sequence =>
    if sequence.lowest ≤ byte ∧ byte ≤ sequence.highest then
      let value := sequence.value * 64 + (byte - 0x80)
      match sequence.more with
      | 0 => ([Char.ofNat value], none)
      | more + 1 => ([], some ⟨more, 0x80, 0xBF, value⟩)
    else (replacement :: (lead byte).1, (lead byte).2)

/-- What an unfinished sequence leaves. -/
def flush : Option Sequence → List Char
  | none => []
  | some _ => [replacement]

def decode : Option Sequence → List Piece → List Char
  | sequence, [] => flush sequence
  | sequence, .byte value :: rest => (feed value sequence).1 ++ decode (feed value sequence).2 rest
  | sequence, .char c :: rest => flush sequence ++ c :: decode none rest

def percentDecode (text : List Char) : List Char := decode none (pieces 0 text)

example : percentDecode "%C3%A9%2fx%zz%E2%82".toList = "é/x%zz".toList ++ [replacement] := by decide

/-! Lengths. -/

/-- How many pieces are escapes. -/
def escapes : List Piece → Nat
  | [] => 0
  | .byte _ :: rest => escapes rest + 1
  | .char _ :: rest => escapes rest

theorem escape_long (found : escape text = some value) : 3 ≤ text.length := by
  unfold escape at found
  split at found
  · simp
  · cases found

theorem pieces_length {skip : Nat} {text : List Char} (fits : skip ≤ text.length) :
    (pieces skip text).length + 2 * escapes (pieces skip text) + skip = text.length := by
  induction text generalizing skip with
  | nil =>
    obtain rfl : skip = 0 := Nat.le_zero.mp fits
    rfl
  | cons c rest ih =>
    cases skip with
    | succ skip =>
      have shorter := ih (Nat.le_of_succ_le_succ fits)
      simp only [pieces, List.length_cons]
      omega
    | zero =>
      rw [pieces]
      cases found : escape (c :: rest) with
      | none =>
        have shorter := ih (Nat.zero_le _)
        simp only [escapes, List.length_cons]
        omega
      | some value =>
        have long := escape_long found
        have shorter := @ih 2 (by simpa using long)
        simp only [escapes, List.length_cons]
        omega

theorem lead_length (byte : Nat) : (lead byte).1.length + (flush (lead byte).2).length ≤ 1 := by
  unfold lead
  repeat' split
  all_goals simp [flush]

theorem feed_length (byte : Nat) (sequence : Option Sequence) :
    (feed byte sequence).1.length + (flush (feed byte sequence).2).length ≤ 1 + (flush sequence).length := by
  have leads := lead_length byte
  unfold feed
  repeat' split
  all_goals simp [flush] at leads ⊢
  all_goals omega

theorem decode_length (text : List Piece) (sequence : Option Sequence) :
    (decode sequence text).length ≤ (flush sequence).length + text.length := by
  induction text generalizing sequence with
  | nil => exact Nat.le_refl _
  | cons piece rest ih =>
    cases piece with
    | byte value =>
      have fed := feed_length value sequence
      have later := ih (feed value sequence).2
      simp only [decode, List.length_append, List.length_cons]
      omega
    | char c =>
      have later : (decode none rest).length ≤ 0 + rest.length := ih none
      simp only [decode, List.length_append, List.length_cons]
      omega

/-- Every escape makes the text shorter. -/
theorem percentDecode_length (text : List Char) :
    (percentDecode text).length + 2 * escapes (pieces 0 text) ≤ text.length := by
  have split := pieces_length (Nat.zero_le text.length)
  have decoded := decode_length (pieces 0 text) none
  simp only [flush, List.length_nil, percentDecode] at decoded ⊢
  omega

/-! Texts without escapes. -/

theorem unescaped_cons : Unescaped (c :: rest) ↔ escape (c :: rest) = none ∧ Unescaped rest := by
  simp only [Unescaped, List.tails_cons, List.forall_mem_cons]

theorem pieces_of_unescaped (unescaped : Unescaped text) : pieces 0 text = text.map .char := by
  induction text with
  | nil => rfl
  | cons c rest ih =>
    obtain ⟨first, later⟩ := unescaped_cons.mp unescaped
    rw [pieces, first, List.map_cons]
    exact congrArg _ (ih later)

theorem escapes_pos (escaped : ¬ Unescaped text) : 0 < escapes (pieces 0 text) := by
  induction text with
  | nil => exact (escaped (by simp [Unescaped, escape])).elim
  | cons c rest ih =>
    rw [pieces]
    cases found : escape (c :: rest) with
    | some value => exact Nat.succ_pos _
    | none => exact ih fun later => escaped (unescaped_cons.mpr ⟨found, later⟩)

theorem decode_chars (text : List Char) : decode none (text.map .char) = text := by
  induction text with
  | nil => rfl
  | cons c rest ih => exact congrArg (c :: ·) ih

theorem percentDecode_of_unescaped (unescaped : Unescaped text) : percentDecode text = text := by
  rw [percentDecode, pieces_of_unescaped unescaped, decode_chars]

/-- Only a text without escapes keeps its length. -/
theorem unescaped_of_length (same : text.length ≤ (percentDecode text).length) : Unescaped text := by
  by_contra escaped
  have shorter := percentDecode_length text
  have some := escapes_pos escaped
  omega

theorem percentDecode_length_le (text : List Char) : (percentDecode text).length ≤ text.length := by
  have shorter := percentDecode_length text
  omega

/-- An escape in a part of a text is one in the whole. -/
theorem escape_append (found : escape text = some value) (more : List Char) : escape (text ++ more) = some value := by
  unfold escape at found
  split at found
  · exact found
  · cases found

theorem Unescaped.part (unescaped : Unescaped (before ++ text ++ after)) : Unescaped text := by
  intro rest suffix
  cases found : escape rest with
  | none => rfl
  | some value =>
    have kept : rest ++ after <:+ before ++ text ++ after := by
      obtain ⟨start, rfl⟩ := (List.mem_tails _ _).mp suffix
      exact ⟨before ++ start, by simp⟩
    have clash := unescaped _ ((List.mem_tails _ _).mpr kept)
    rw [escape_append found] at clash
    cases clash

/-! A mark that is no part of an escape keeps what is before it from what is after it. -/

/-- Not a digit of an escape. -/
def Separates (mark : Char) : Prop := hexDigit mark = none

theorem escape_separated (separates : Separates mark) (c : Char) (text after : List Char) :
    escape (c :: text ++ mark :: after) = escape (c :: text) := by
  rw [Separates] at separates
  match text with
  | [] => cases after <;> simp [escape, separates]
  | [_] => simp [escape, separates]
  | _ :: _ :: _ => rfl

theorem pieces_separated (mark_literal : mark ≠ '%') (separates : Separates mark) {skip : Nat} {text : List Char}
    (fits : skip ≤ text.length) (after : List Char) :
    pieces skip (text ++ mark :: after) = pieces skip text ++ .char mark :: pieces 0 after := by
  induction text generalizing skip with
  | nil =>
    obtain rfl : skip = 0 := Nat.le_zero.mp fits
    have unescaped : escape (mark :: after) = none := by
      unfold escape
      split
      · rename_i same
        cases same
        exact if_neg mark_literal
      · rfl
    show pieces 0 (mark :: after) = .char mark :: pieces 0 after
    rw [pieces, unescaped]
  | cons c rest ih =>
    cases skip with
    | succ skip => exact ih (Nat.le_of_succ_le_succ fits)
    | zero =>
      have same := escape_separated separates c rest after
      rw [List.cons_append] at same
      rw [List.cons_append, pieces, pieces, same]
      cases found : escape (c :: rest) with
      | none => exact congrArg _ (ih (Nat.zero_le _))
      | some value =>
        have long := escape_long found
        exact congrArg _ (@ih 2 (by simpa using long))

theorem decode_append_char (text : List Piece) (sequence : Option Sequence) (c : Char) (after : List Piece) :
    decode sequence (text ++ .char c :: after) = decode sequence text ++ c :: decode none after := by
  induction text generalizing sequence with
  | nil => rfl
  | cons piece rest ih => cases piece <;> simp [decode, ih]

theorem percentDecode_separated (mark_literal : mark ≠ '%') (separates : Separates mark) (text after : List Char) :
    percentDecode (text ++ mark :: after) = percentDecode text ++ mark :: percentDecode after := by
  rw [percentDecode, pieces_separated mark_literal separates (Nat.zero_le _), decode_append_char]
  rfl

/-- Decoding goes through a list of texts one by one. -/
theorem percentDecode_intercalate (mark_literal : mark ≠ '%') (separates : Separates mark) (texts : List (List Char)) :
    percentDecode ([mark].intercalate texts) = [mark].intercalate (texts.map percentDecode) := by
  induction texts with
  | nil => rfl
  | cons text rest ih =>
    cases rest with
    | nil => simp
    | cons next rest =>
      rw [List.intercalate_cons_cons, List.append_assoc, List.singleton_append, percentDecode_separated mark_literal separates, ih]
      simp

end Text
