import OpenClawService.Text.Url

/-! Expressions with string literals between double quotes, in which a backslash
may escape a character. A text put between quotes as it is comes back as the value
of one literal exactly when nothing in it is a quote or begins an escape. -/
namespace Text

variable {denotes : Char → Option Char}

/-- The texts outside and inside the literals in turn, beginning and ending outside;
`denotes` tells what a backslash before a character stands for. Without its closing
quote a literal cannot be read. -/
def literals (denotes : Char → Option Char) : (inside : Bool) → List Char → Option (List (List Char))
  | false, [] => some [[]]
  | true, [] => none
  | false, c :: rest =>
    if c = '"' then (literals denotes true rest).map ([] :: ·)
    else (literals denotes false rest).map (List.modifyHead (c :: ·))
  | true, [c] => if c = '"' then some [[], []] else none
  | true, c :: next :: rest =>
    if c = '"' then (literals denotes false (next :: rest)).map ([] :: ·)
    else match if c = '\\' then denotes next else none with
      | some value => (literals denotes true rest).map (List.modifyHead (value :: ·))
      | none => (literals denotes true (next :: rest)).map (List.modifyHead (c :: ·))

/-- An escape at the head of a text. -/
def begins (denotes : Char → Option Char) : List Char → Bool
  | c :: next :: _ => c == '\\' && (denotes next).isSome
  | _ => false

/-- Between quotes, every character of the text stands for itself. -/
structure Verbatim (denotes : Char → Option Char) (text : List Char) : Prop where
  unquoted : '"' ∉ text
  unescaped : ∀ rest ∈ (text ++ ['"']).tails, begins denotes rest = false

theorem verbatim_cons : Verbatim denotes (c :: text) ↔
    c ≠ '"' ∧ begins denotes (c :: text ++ ['"']) = false ∧ Verbatim denotes text := by
  constructor
  · rintro ⟨unquoted, unescaped⟩
    rw [List.mem_cons, not_or] at unquoted
    rw [List.cons_append, List.tails_cons, List.forall_mem_cons] at unescaped
    exact ⟨fun same => unquoted.1 same.symm, unescaped.1, unquoted.2, unescaped.2⟩
  · rintro ⟨other, first, unquoted, unescaped⟩
    refine ⟨?_, ?_⟩
    · rw [List.mem_cons, not_or]
      exact ⟨fun same => other same.symm, unquoted⟩
    · rw [List.cons_append, List.tails_cons, List.forall_mem_cons]
      exact ⟨first, unescaped⟩

theorem modifyHead_some {parts : Option (List (List Char))}
    (read : parts.map (List.modifyHead (c :: ·)) = some ((d :: text) :: rest)) : c = d ∧ parts = some (text :: rest) := by
  obtain ⟨list, found, same⟩ := Option.map_eq_some_iff.mp read
  cases list with
  | nil => cases same
  | cons first later =>
    rw [List.modifyHead_cons] at same
    cases same
    exact ⟨rfl, found⟩

theorem extent_modifyHead (c : Char) (parts : List (List Char)) : extent (parts.modifyHead (c :: ·)) ≤ extent parts + 1 := by
  cases parts with
  | nil => simp
  | cons first later =>
    simp only [List.modifyHead_cons, extent_cons, List.length_cons]
    omega

/-- What is read is no longer than the text. -/
theorem literals_extent {inside : Bool} {text : List Char} (read : literals denotes inside text = some parts) :
    extent parts ≤ text.length + 1 := by
  have quoted {text : List Char} {inside : Bool} (ih : ∀ parts, literals denotes inside text = some parts → extent parts ≤ text.length + 1)
      {parts : List (List Char)} (read : (literals denotes inside text).map ([] :: ·) = some parts) : extent parts ≤ text.length + 2 := by
    obtain ⟨later, found, rfl⟩ := Option.map_eq_some_iff.mp read
    have shorter := ih later found
    simp only [extent_cons, List.length_nil]
    omega
  have plain {text : List Char} {inside : Bool} (ih : ∀ parts, literals denotes inside text = some parts → extent parts ≤ text.length + 1)
      {c : Char} {parts : List (List Char)} (read : (literals denotes inside text).map (List.modifyHead (c :: ·)) = some parts) :
      extent parts ≤ text.length + 2 := by
    obtain ⟨later, found, rfl⟩ := Option.map_eq_some_iff.mp read
    exact (extent_modifyHead c later).trans (Nat.succ_le_succ (ih later found))
  fun_induction literals denotes inside text generalizing parts with
  | case1 =>
    cases read
    exact Nat.le_refl _
  | case2 => cases read
  | case3 rest ih => exact quoted (fun parts => ih) read
  | case4 c rest other ih => exact plain (fun parts => ih) read
  | case5 =>
    cases read
    exact Nat.le_refl _
  | case6 => cases read
  | case7 next rest ih => exact quoted (fun parts => ih) read
  | case8 c next rest other value escaped ih => exact (plain (fun parts => ih) read).trans (Nat.le_succ _)
  | case9 c next rest other unescaped ih => exact plain (fun parts => ih) read

theorem literals_outside (unquoted : '"' ∉ before) (text : List Char) :
    literals denotes false (before ++ '"' :: text) = (literals denotes true text).map (before :: ·) := by
  induction before with
  | nil => rw [List.nil_append, literals, if_pos rfl]
  | cons c rest ih =>
    rw [List.mem_cons, not_or] at unquoted
    rw [List.cons_append, literals, if_neg (Ne.symm unquoted.1), ih unquoted.2, Option.map_map]
    rfl

theorem literals_unquoted (unquoted : '"' ∉ text) : literals denotes false text = some [text] := by
  induction text with
  | nil => rfl
  | cons c rest ih =>
    rw [List.mem_cons, not_or] at unquoted
    rw [literals, if_neg (Ne.symm unquoted.1), ih unquoted.2]
    rfl

/-- Up to its closing quote, a literal is read as the text itself. -/
theorem literals_inside (unquoted : '"' ∉ after) (text : List Char) :
    literals denotes true (text ++ '"' :: after) = some [text, after] ↔ Verbatim denotes text := by
  induction text with
  | nil =>
    refine ⟨fun _ => ⟨List.not_mem_nil, by simp [begins]⟩, fun _ => ?_⟩
    cases after with
    | nil => rfl
    | cons next rest => rw [List.nil_append, literals, if_pos rfl, literals_unquoted unquoted, Option.map_some]
  | cons c text ih =>
    -- Another character follows: the next one of the text, or the closing quote.
    obtain ⟨next, rest, later⟩ : ∃ next rest, text ++ '"' :: after = next :: rest :=
      List.exists_cons_of_ne_nil (by simp)
    have first : begins denotes (c :: text ++ ['"']) = (c == '\\' && (denotes next).isSome) := by
      cases text with
      | nil =>
        cases later
        rfl
      | cons d text =>
        cases later
        rfl
    have kept (read : literals denotes true (next :: rest) = some [text, after]) :
        (literals denotes true (next :: rest)).map (List.modifyHead (c :: ·)) = some [c :: text, after] := by
      rw [read]
      rfl
    rw [verbatim_cons, ← ih, first, List.cons_append, later, literals]
    by_cases quote : c = '"'
    · simp [quote]
    · rw [if_neg quote]
      by_cases backslash : c = '\\'
      · rw [if_pos backslash]
        cases escaped : denotes next with
        | none =>
          refine ⟨fun read => ⟨quote, by simp, (modifyHead_some read).2⟩, fun verbatim => kept verbatim.2.2⟩
        | some value =>
          -- An escape makes the value shorter than the text.
          refine ⟨fun read => ?_, fun verbatim => by simp [backslash] at verbatim⟩
          have shorter := literals_extent (modifyHead_some read).2
          have whole := congrArg List.length later
          simp only [extent_cons, extent_nil, List.length_append, List.length_cons] at shorter whole
          omega
      · rw [if_neg backslash]
        refine ⟨fun read => ⟨quote, by simp [backslash], (modifyHead_some read).2⟩, fun verbatim => kept verbatim.2.2⟩

/-- A text between quotes is read as one literal of that value exactly when it is verbatim. -/
theorem literals_iff (opening : '"' ∉ before) (closing : '"' ∉ after) (text : List Char) :
    literals denotes false (before ++ '"' :: text ++ '"' :: after) = some [before, text, after] ↔ Verbatim denotes text := by
  rw [List.append_assoc, List.cons_append, literals_outside opening, ← literals_inside closing]
  constructor
  · intro read
    obtain ⟨parts, found, same⟩ := Option.map_eq_some_iff.mp read
    cases same
    exact found
  · intro read
    rw [read, Option.map_some]

end Text
