import OpenClawService.Text.Percent

/-! String literals of JSON, written in printable ASCII: any other character becomes
one escape, or the two of a surrogate pair. A reader takes these escapes, the short
ones, and every character that needs none. -/
namespace Text

/-- The letters of the short escapes, with what they mean. -/
def shortEscapes : List (Char × Char) :=
  [('"', '"'), ('\\', '\\'), ('b', Char.ofNat 8), ('f', Char.ofNat 12), ('n', '\n'), ('r', '\r'), ('t', '\t')]

def hexChar (digit : Nat) : Char := Char.ofNat (if digit < 10 then 48 + digit else 87 + digit)

/-- The four digits of a code unit. -/
def unitDigits (unit : Nat) : List Char :=
  [hexChar (unit / 4096), hexChar (unit / 256 % 16), hexChar (unit / 16 % 16), hexChar (unit % 16)]

def unitEscape (unit : Nat) : List Char := '\\' :: 'u' :: unitDigits unit

def quoteChar (c : Char) : List Char :=
  match shortEscapes.find? (·.2 == c) with
  | some (letter, _) => ['\\', letter]
  | none =>
    if 32 ≤ c.toNat ∧ c.toNat ≤ 126 then [c]
    else if c.toNat < 0x10000 then unitEscape c.toNat
    else unitEscape (0xd800 + (c.toNat - 0x10000) / 0x400) ++ unitEscape (0xdc00 + (c.toNat - 0x10000) % 0x400)

def quoted (text : List Char) : List Char := '"' :: text.flatMap quoteChar ++ ['"']

def readUnit : List Char → Option Nat
  | a :: b :: c :: d :: _ => do
    return 4096 * (← hexDigit a) + 256 * (← hexDigit b) + 16 * (← hexDigit c) + (← hexDigit d)
  | _ => none

/-- A second escape right behind the first one, of the lower half of a pair. -/
def readLow : List Char → Option Nat
  | '\\' :: 'u' :: digits => (readUnit digits).filter fun unit => 0xdc00 ≤ unit ∧ unit ≤ 0xdfff
  | _ => none

/-- The character after a backslash, and how much of the text it takes. Half a pair is no character. -/
def escapeAt : List Char → Option (Char × Nat)
  | 'u' :: digits => do
    let unit ← readUnit digits
    if 0xd800 ≤ unit ∧ unit ≤ 0xdbff then
      let low ← readLow (digits.drop 4)
      return (Char.ofNat (0x10000 + (unit - 0xd800) * 0x400 + (low - 0xdc00)), 11)
    else if 0xdc00 ≤ unit ∧ unit ≤ 0xdfff then none
    else return (Char.ofNat unit, 5)
  | letter :: _ => ((('/', '/') :: shortEscapes).lookup letter).map (·, 1)
  | [] => none

/-- What stands before the closing quote, and what follows it. -/
def readQuoted : (skip : Nat) → List Char → Option (List Char × List Char)
  | _, [] => none
  | skip + 1, _ :: rest => readQuoted skip rest
  | 0, c :: rest =>
    if c = '"' then some ([], rest)
    else if c = '\\' then
      match escapeAt rest with
      | some (meant, taken) => (readQuoted taken rest).map (Prod.map (meant :: ·) id)
      | none => none
    else if c.toNat < 32 then none
    else (readQuoted 0 rest).map (Prod.map (c :: ·) id)

theorem readQuoted_skip (taken rest : List Char) : readQuoted taken.length (taken ++ rest) = readQuoted 0 rest := by
  induction taken with
  | nil => rfl
  | cons c taken ih => exact ih

theorem hexDigit_hexChar (small : digit < 16) : hexDigit (hexChar digit) = some digit := by
  have all : ∀ digit < 16, hexDigit (hexChar digit) = some digit := by decide
  exact all digit small

theorem readUnit_unitDigits (small : unit < 65536) (rest : List Char) : readUnit (unitDigits unit ++ rest) = some unit := by
  have first := hexDigit_hexChar (show unit / 4096 < 16 by omega)
  have second := hexDigit_hexChar (show unit / 256 % 16 < 16 by omega)
  have third := hexDigit_hexChar (show unit / 16 % 16 < 16 by omega)
  have fourth := hexDigit_hexChar (show unit % 16 < 16 by omega)
  simp only [unitDigits, List.cons_append, readUnit, first, second, third, fourth, Option.bind_eq_bind, Option.bind_some,
    Option.pure_def, Option.some.injEq]
  omega

/-- A character outside the surrogates is one code unit or a pair of them. -/
theorem char_range (c : Char) : c.toNat < 0xd800 ∨ 0xdfff < c.toNat ∧ c.toNat < 0x110000 := c.valid

theorem escapeAt_single (unpaired : unit < 0xd800 ∨ 0xdfff < unit) (small : unit < 65536) (rest : List Char) :
    escapeAt ('u' :: unitDigits unit ++ rest) = some (Char.ofNat unit, 5) := by
  have high : ¬ (0xd800 ≤ unit ∧ unit ≤ 0xdbff) := by omega
  have low : ¬ (0xdc00 ≤ unit ∧ unit ≤ 0xdfff) := by omega
  simp only [List.cons_append, escapeAt, readUnit_unitDigits small, Option.bind_eq_bind, Option.bind_some, if_neg high,
    if_neg low, Option.pure_def]

theorem escapeAt_pair (unit second : Nat) (high : 0xd800 ≤ unit ∧ unit ≤ 0xdbff) (low : 0xdc00 ≤ second ∧ second ≤ 0xdfff) (rest : List Char) :
    escapeAt ('u' :: unitDigits unit ++ (unitEscape second ++ rest)) =
      some (Char.ofNat (0x10000 + (unit - 0xd800) * 0x400 + (second - 0xdc00)), 11) := by
  have behind : (unitDigits unit ++ (unitEscape second ++ rest)).drop 4 = unitEscape second ++ rest := rfl
  have next : readLow (unitEscape second ++ rest) = some second := by
    simp only [unitEscape, List.cons_append, readLow, readUnit_unitDigits (show second < 65536 by omega), Option.filter,
      low, and_self, decide_true, if_true]
  simp only [List.cons_append, escapeAt, readUnit_unitDigits (show unit < 65536 by omega), Option.bind_eq_bind,
    Option.bind_some, if_pos high, behind, next, Option.pure_def]

theorem readQuoted_escape {rest : List Char} (taken : List Char) (escaped : escapeAt (taken ++ rest) = some (c, taken.length)) :
    readQuoted 0 ('\\' :: taken ++ rest) = (readQuoted 0 rest).map (Prod.map (c :: ·) id) := by
  rw [List.cons_append, readQuoted, if_neg (by decide), if_pos rfl, escaped]
  simp only [readQuoted_skip]

theorem escapeAt_short (listed : (letter, c) ∈ shortEscapes) (rest : List Char) : escapeAt (letter :: rest) = some (c, 1) := by
  simp only [shortEscapes, List.mem_cons, Prod.mk.injEq, List.not_mem_nil, or_false] at listed
  rcases listed with ⟨rfl, rfl⟩ | ⟨rfl, rfl⟩ | ⟨rfl, rfl⟩ | ⟨rfl, rfl⟩ | ⟨rfl, rfl⟩ | ⟨rfl, rfl⟩ | ⟨rfl, rfl⟩ <;> rfl

/-- Reading one written character gives it back and goes on behind it. -/
theorem readQuoted_quoteChar (c : Char) (rest : List Char) :
    readQuoted 0 (quoteChar c ++ rest) = (readQuoted 0 rest).map (Prod.map (c :: ·) id) := by
  unfold quoteChar
  cases found : shortEscapes.find? (·.2 == c) with
  | some entry =>
    obtain ⟨letter, meant⟩ := entry
    obtain rfl : meant = c := by simpa using List.find?_some found
    exact readQuoted_escape [letter] (escapeAt_short (List.mem_of_find?_eq_some found) rest)
  | none =>
    have plain : ∀ entry ∈ shortEscapes, (entry.2 == c) = false := by simpa using List.find?_eq_none.mp found
    have unquoted : c ≠ '"' := by
      rintro rfl
      exact absurd (plain ('"', '"') (by decide)) (by decide)
    have unslashed : c ≠ '\\' := by
      rintro rfl
      exact absurd (plain ('\\', '\\') (by decide)) (by decide)
    have range := char_range c
    dsimp only
    split
    · have visible : ¬ c.toNat < 32 := by omega
      rw [List.cons_append, List.nil_append, readQuoted, if_neg unquoted, if_neg unslashed, if_neg visible]
    · split
      · have escaped := escapeAt_single (by omega) (show c.toNat < 65536 by omega) rest
        rw [Char.ofNat_toNat] at escaped
        exact readQuoted_escape ('u' :: unitDigits c.toNat) escaped
      · have escaped := escapeAt_pair (0xd800 + (c.toNat - 0x10000) / 0x400)
          (0xdc00 + (c.toNat - 0x10000) % 0x400) (by omega) (by omega) rest
        have same : 0x10000 + (0xd800 + (c.toNat - 0x10000) / 0x400 - 0xd800) * 0x400 +
            (0xdc00 + (c.toNat - 0x10000) % 0x400 - 0xdc00) = c.toNat := by omega
        rw [same, Char.ofNat_toNat, ← List.append_assoc] at escaped
        have read := readQuoted_escape ('u' :: unitDigits (0xd800 + (c.toNat - 0x10000) / 0x400) ++
          unitEscape (0xdc00 + (c.toNat - 0x10000) % 0x400)) escaped
        exact read

theorem readQuoted_flatMap (text rest : List Char) : readQuoted 0 (text.flatMap quoteChar ++ '"' :: rest) = some (text, rest) := by
  induction text with
  | nil => rfl
  | cons c text ih =>
    rw [List.flatMap_cons, List.append_assoc, readQuoted_quoteChar, ih]
    rfl

/-- A literal is read to its end. -/
theorem readQuoted_shorter {skip : Nat} {text : List Char} (read : readQuoted skip text = some (value, rest)) :
    rest.length < text.length := by
  fun_induction readQuoted skip text generalizing value with
  | case1 => cases read
  | case2 skip c later ih =>
    have shorter := ih read
    simp only [List.length_cons]
    omega
  | case3 later =>
    cases read
    simp
  | case4 later _ meant taken escaped ih =>
    obtain ⟨⟨value', rest'⟩, found, same⟩ := Option.map_eq_some_iff.mp read
    cases same
    have shorter := ih found
    simp only [List.length_cons]
    omega
  | case5 => cases read
  | case6 => cases read
  | case7 c later _ _ _ ih =>
    obtain ⟨⟨value', rest'⟩, found, same⟩ := Option.map_eq_some_iff.mp read
    cases same
    have shorter := ih found
    simp only [List.length_cons]
    omega

end Text
