/-! Texts of several lines. Readers differ in what ends a line; all of them take a
newline for an end, and no reader takes a visible character for one. -/
namespace Text

/-- Control characters and the separators of lines and paragraphs. -/
def mayEndLine (c : Char) : Bool :=
  let n := c.toNat
  n < 32 || (0x7f ≤ n && n ≤ 0x9f) || n == 0x2028 || n == 0x2029

/-- What a reader takes for the end of a line. -/
structure LineEnds where
  ends : Char → Bool
  newline : ends '\n' = true
  visible : ∀ c, mayEndLine c = false → ends c = false

/-- The reader that knows no end but the newline. -/
def LineEnds.newlines : LineEnds where
  ends := (· == '\n')
  newline := rfl
  visible c visible := by
    rw [beq_eq_false_iff_ne]
    rintro rfl
    cases visible

namespace LineEnds
variable (reader : LineEnds)

def lines (text : List Char) : List (List Char) := text.splitOnP reader.ends

/-- The text has no end of a line. -/
def Single (text : List Char) : Prop := ∀ c ∈ text, reader.ends c = false

theorem single_of_visible (visible : text.all (!mayEndLine ·) = true) : reader.Single text := by
  intro c member
  exact reader.visible c (by simpa using List.all_eq_true.mp visible c member)

theorem Single.append {reader : LineEnds} (first : reader.Single text) (second : reader.Single text') :
    reader.Single (text ++ text') := by
  intro c member
  exact (List.mem_append.mp member).elim (first c) (second c)

theorem Single.newline_not_mem {reader : LineEnds} (single : reader.Single text) : '\n' ∉ text := by
  intro member
  have broken := reader.newline
  rw [single _ member] at broken
  cases broken

theorem lines_ne_nil (text : List Char) : reader.lines text ≠ [] := List.splitOnP_ne_nil _ _

theorem lines_single (single : reader.Single text) : reader.lines text = [text] := List.splitOnP_eq_singleton single

/-- A line that is ended by a newline. -/
theorem lines_first (single : reader.Single text) (rest : List Char) :
    reader.lines (text ++ '\n' :: rest) = text :: reader.lines rest :=
  List.splitOnP_append_cons_of_forall_mem single _ reader.newline rest

theorem lines_newline (text rest : List Char) : reader.lines (text ++ '\n' :: rest) = reader.lines text ++ reader.lines rest :=
  List.splitOnP_append_cons _ _ reader.newline

/-- Text before the first line makes that line longer. -/
theorem lines_append (single : reader.Single before) (text : List Char) :
    reader.lines (before ++ text) = (reader.lines text).modifyHead (before ++ ·) := by
  induction before with
  | nil => cases parts : reader.lines text <;> simp [parts]
  | cons c rest ih =>
    obtain ⟨first, later⟩ := List.forall_mem_cons.mp single
    rw [List.cons_append, lines, List.splitOnP_cons_eq_if_modifyHead, first, if_neg Bool.false_ne_true, ← lines, ih later]
    cases parts : reader.lines text <;> rfl

end LineEnds
end Text
