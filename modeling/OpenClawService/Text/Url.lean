import OpenClawService.Text.Percent
import Mathlib.Algebra.GroupWithZero.Nat
import Mathlib.Data.List.TakeWhile

/-! URLs, by the generic syntax: a fragment, a query, and a path of segments from
which dot segments are removed before each one is decoded. Texts joined by slashes
are read back as they were exactly when each of them is a segment of its own. -/
namespace Text

/-- The text before the first mark, and what follows the mark if there is one. -/
def cut (mark : Char) (text : List Char) : List Char × Option (List Char) :=
  (text.takeWhile (· != mark), if mark ∈ text then some (text.dropWhile (· != mark)).tail else none)

theorem takeWhile_marked (unmarked : mark ∉ before) (after : List Char) :
    (before ++ mark :: after).takeWhile (· != mark) = before := by
  rw [List.takeWhile_append_of_pos, List.takeWhile_cons_of_neg (by simp), List.append_nil]
  intro c member
  simpa using fun same : c = mark => unmarked (same ▸ member)

theorem cut_of_not_mem (unmarked : mark ∉ text) : cut mark text = (text, none) := by
  have whole : text.takeWhile (· != mark) = text := by
    rw [List.takeWhile_eq_self_iff]
    intro c member
    simpa using fun same : c = mark => unmarked (same ▸ member)
  simp only [cut, whole, unmarked, if_false]

theorem not_mem_of_cut (uncut : (cut mark text).2 = none) : mark ∉ text := by
  intro marked
  simp [cut, marked] at uncut

theorem cut_length (mark : Char) (text : List Char) : (cut mark text).1.length ≤ text.length :=
  (List.takeWhile_prefix _).length_le

theorem not_mem_of_length (long : text.length ≤ (cut mark text).1.length) : mark ∉ text := by
  intro marked
  have whole : text.takeWhile (· != mark) = text := (List.takeWhile_prefix _).eq_of_length_le long
  have stops := List.takeWhile_eq_self_iff.mp whole mark marked
  simp at stops

/-- A segment that is removed. -/
def Dots (segment : List Char) : Prop := segment = ['.'] ∨ segment = ['.', '.']

instance dotsDecidable (segment : List Char) : Decidable (Dots segment) := inferInstanceAs (Decidable (_ ∨ _))

/-- Two dots take the segment before them away too. -/
def keep (kept : List (List Char)) (segment : List Char) : List (List Char) :=
  if segment = ['.'] then kept else if segment = ['.', '.'] then kept.tail else segment :: kept

/-- The segments that are left; dots at the end leave an empty one. -/
def removeDots (kept : List (List Char)) : List (List Char) → List (List Char)
  | [] => kept.reverse
  | [last] => (if Dots last then [] :: keep kept last else keep kept last).reverse
  | segment :: next :: rest => removeDots (keep kept segment) (next :: rest)

structure Address where
  scheme : List Char
  authority : List Char
  segments : List (List Char)
  query : Option (List Char)
  fragment : Option (List Char)
  deriving DecidableEq

/-- An absolute URL with an authority, read from its end marks inwards. -/
def Address.read (url : List Char) : Address :=
  let (main, fragment) := cut '#' url
  let (hierarchy, query) := cut '?' main
  let scheme := hierarchy.takeWhile (· != ':')
  let rest := hierarchy.drop (scheme.length + 3)
  let authority := rest.takeWhile (· != '/')
  let path := rest.drop (authority.length + 1)
  ⟨scheme, authority, (removeDots [] (path.splitOn '/')).map percentDecode, query, fragment⟩

/-- The path of a request target, as a server sees it: decoded as a whole and
then divided, so that an escaped slash divides it too. -/
def requestPath (target : List Char) : List (List Char) :=
  (percentDecode (cut '?' (cut '#' target).1).1).splitOn '/'

/-- A scheme with the authority that an absolute URL names. -/
structure Origin where
  scheme : List Char
  authority : List Char
  schemed : ':' ∉ scheme
  hosted : '/' ∉ authority
  unmarked : ∀ c ∈ scheme ++ authority, c ≠ '?' ∧ c ≠ '#'

/-- The texts, joined by slashes under the origin. -/
def Origin.url (origin : Origin) (texts : List (List Char)) : List Char :=
  origin.scheme ++ [':', '/', '/'] ++ origin.authority ++ '/' :: ['/'].intercalate texts

/-- No part of the text has a meaning of its own in a path. -/
structure Plain (text : List Char) : Prop where
  undivided : '/' ∉ text
  queryless : '?' ∉ text
  fragmentless : '#' ∉ text
  unescaped : Unescaped text

/-- The text is a segment, and not one that is removed. -/
structure Proper (text : List Char) : Prop extends Plain text where
  kept : ¬ Dots text

/-! Lengths. Every step of reading a path keeps or shortens it. -/

/-- The length of the texts, each with a mark after it. -/
def extent (texts : List (List Char)) : Nat := (texts.map fun text => text.length + 1).sum

@[simp] theorem extent_nil : extent [] = 0 := rfl

@[simp] theorem extent_cons : extent (text :: texts) = text.length + 1 + extent texts := by
  simp [extent]

@[simp] theorem extent_append (first second : List (List Char)) : extent (first ++ second) = extent first + extent second := by
  simp [extent]

@[simp] theorem extent_reverse (texts : List (List Char)) : extent texts.reverse = extent texts := by
  simp [extent, List.sum_reverse]

theorem extent_tail (texts : List (List Char)) : extent texts.tail ≤ extent texts := by
  cases texts with
  | nil => exact Nat.le_refl _
  | cons text rest => simp

theorem extent_intercalate (mark : Char) (filled : texts ≠ []) : ([mark].intercalate texts).length + 1 = extent texts := by
  induction texts with
  | nil => contradiction
  | cons text rest ih =>
    cases rest with
    | nil => simp
    | cons next rest =>
      have shorter := ih (List.cons_ne_nil _ _)
      simp only [List.intercalate_cons_cons, List.length_append, List.length_singleton, extent_cons] at shorter ⊢
      omega

theorem extent_splitOn (mark : Char) (text : List Char) : extent (text.splitOn mark) = text.length + 1 := by
  rw [← extent_intercalate mark (List.splitOn_ne_nil _ _), List.intercalate_splitOn]

theorem keep_extent (kept : List (List Char)) (segment : List Char) :
    extent (keep kept segment) ≤ extent kept + (segment.length + 1) ∧
      (Dots segment → extent (keep kept segment) + 2 ≤ extent kept + (segment.length + 1)) := by
  have shorter := extent_tail kept
  unfold keep
  split
  · rename_i one
    subst one
    simp
  · split
    · rename_i two
      subst two
      simp only [List.length_cons, List.length_nil]
      exact ⟨by omega, fun _ => by omega⟩
    · rename_i one two
      refine ⟨?_, fun dots => (dots.elim one two).elim⟩
      rw [extent_cons]
      omega

/-- Nothing grows, and what is removed is missed. -/
theorem removeDots_extent (kept segments : List (List Char)) :
    extent (removeDots kept segments) ≤ extent kept + extent segments ∧
      ((∃ segment ∈ segments, Dots segment) → extent (removeDots kept segments) < extent kept + extent segments) := by
  induction segments generalizing kept with
  | nil => simp [removeDots]
  | cons segment rest ih =>
    obtain ⟨kept_le, dots_lt⟩ := keep_extent kept segment
    cases rest with
    | nil =>
      rw [removeDots, extent_reverse]
      by_cases dots : Dots segment
      · have lost := dots_lt dots
        simp only [if_pos dots, extent_cons, extent_nil, List.length_nil]
        exact ⟨by omega, fun _ => by omega⟩
      · simp only [if_neg dots, extent_cons, extent_nil, List.mem_singleton, exists_eq_left]
        exact ⟨by omega, fun dotted => (dots dotted).elim⟩
    | cons next rest =>
      obtain ⟨rest_le, rest_lt⟩ := ih (keep kept segment)
      rw [removeDots, extent_cons]
      refine ⟨by omega, ?_⟩
      rintro ⟨dotted, member, dots⟩
      rcases List.mem_cons.mp member with rfl | later
      · have lost := dots_lt dots
        omega
      · have lost := rest_lt ⟨dotted, later, dots⟩
        omega

theorem removeDots_of_none {segments : List (List Char)} (undotted : ∀ segment ∈ segments, ¬ Dots segment) (kept : List (List Char)) :
    removeDots kept segments = kept.reverse ++ segments := by
  have keeps (kept : List (List Char)) {segment : List Char} (undotted : ¬ Dots segment) :
      keep kept segment = segment :: kept := by
    rw [Dots, not_or] at undotted
    rw [keep, if_neg undotted.1, if_neg undotted.2]
  induction segments generalizing kept with
  | nil => simp [removeDots]
  | cons segment rest ih =>
    obtain ⟨first, later⟩ := List.forall_mem_cons.mp undotted
    cases rest with
    | nil => simp [removeDots, first, keeps]
    | cons next rest =>
      rw [removeDots, ih later, keeps kept first]
      simp

theorem decode_extent (texts : List (List Char)) : extent (texts.map percentDecode) ≤ extent texts ∧
    (extent texts ≤ extent (texts.map percentDecode) → ∀ text ∈ texts, Unescaped text) := by
  induction texts with
  | nil => simp
  | cons text rest ih =>
    have shorter := percentDecode_length_le text
    simp only [List.map_cons, extent_cons, List.forall_mem_cons]
    refine ⟨by omega, fun same => ⟨unescaped_of_length (by omega), ih.2 (by omega)⟩⟩

/-! Reading what was joined. -/

theorem slashless_of_splitOn (mark : Char) (text : List Char) : ∀ segment ∈ text.splitOn mark, mark ∉ segment := by
  induction text with
  | nil => simp
  | cons c rest ih =>
    rw [List.splitOn_cons_eq_if_modifyHead]
    split
    · exact List.forall_mem_cons.mpr ⟨List.not_mem_nil, ih⟩
    · rename_i other
      cases parts : rest.splitOn mark with
      | nil => exact (List.splitOn_ne_nil _ _ parts).elim
      | cons first later =>
        rw [parts] at ih
        obtain ⟨clean, others⟩ := List.forall_mem_cons.mp ih
        refine List.forall_mem_cons.mpr ⟨?_, others⟩
        rw [List.mem_cons, not_or]
        exact ⟨fun same => other (by simp [same]), clean⟩

theorem map_percentDecode {texts : List (List Char)} (unescaped : ∀ text ∈ texts, Unescaped text) : texts.map percentDecode = texts :=
  (List.map_congr_left fun text member => percentDecode_of_unescaped (unescaped text member)).trans (List.map_id _)

/-- The texts are what their path is divided into and decoded to, exactly when each is a segment that is kept. -/
theorem segments_iff (filled : texts ≠ []) :
    (removeDots [] ((['/'].intercalate texts).splitOn '/')).map percentDecode = texts ↔
      ∀ text ∈ texts, '/' ∉ text ∧ ¬ Dots text ∧ Unescaped text := by
  constructor
  · intro read
    have whole : extent ((['/'].intercalate texts).splitOn '/') = extent texts := by
      rw [extent_splitOn, extent_intercalate _ filled]
    obtain ⟨removed_le, removed_lt⟩ := removeDots_extent [] ((['/'].intercalate texts).splitOn '/')
    obtain ⟨decoded_le, unescaped⟩ := decode_extent (removeDots [] ((['/'].intercalate texts).splitOn '/'))
    rw [read] at decoded_le unescaped
    simp only [extent_nil, Nat.zero_add, whole] at removed_le removed_lt
    -- The texts are as long as their path, so nothing was removed from it and nothing decoded.
    have undotted : ∀ segment ∈ (['/'].intercalate texts).splitOn '/', ¬ Dots segment := fun segment member dots => by
      have lost := removed_lt ⟨segment, member, dots⟩
      omega
    have unescaped := unescaped removed_le
    rw [removeDots_of_none undotted, List.reverse_nil, List.nil_append] at read unescaped
    rw [map_percentDecode unescaped] at read
    rw [read] at undotted unescaped
    have divided := slashless_of_splitOn '/' (['/'].intercalate texts)
    rw [read] at divided
    exact fun text member => ⟨divided text member, undotted text member, unescaped text member⟩
  · intro proper
    rw [List.splitOn_intercalate '/' (fun text member => (proper text member).1) filled,
      removeDots_of_none (fun text member => (proper text member).2.1), List.reverse_nil, List.nil_append,
      map_percentDecode fun text member => (proper text member).2.2]

theorem mem_intercalate {c mark : Char} (other : c ≠ mark) : c ∈ [mark].intercalate texts ↔ ∃ text ∈ texts, c ∈ text := by
  induction texts with
  | nil => simp
  | cons text rest ih =>
    cases rest with
    | nil => simp
    | cons next rest =>
      rw [List.intercalate_cons_cons, List.append_assoc, List.mem_append, List.singleton_append, List.mem_cons, ih]
      simp [other]

theorem infix_intercalate (mark : Char) {texts : List (List Char)} (member : text ∈ texts) : text <:+: [mark].intercalate texts := by
  induction texts with
  | nil => cases member
  | cons first rest ih =>
    cases rest with
    | nil =>
      obtain rfl := List.mem_singleton.mp member
      simp
    | cons next rest =>
      rw [List.intercalate_cons_cons]
      rcases List.mem_cons.mp member with rfl | later
      · exact ((List.prefix_append _ _).trans (List.prefix_append _ _)).isInfix
      · exact (ih later).trans (List.suffix_append _ _).isInfix

namespace Origin
variable (origin : Origin)

theorem mem_url {c : Char} (mark : c = '?' ∨ c = '#') : c ∈ origin.url texts ↔ ∃ text ∈ texts, c ∈ text := by
  have clean : c ∉ origin.scheme ∧ c ∉ origin.authority := by
    refine ⟨fun member => ?_, fun member => ?_⟩
    · obtain ⟨first, second⟩ := origin.unmarked c (List.mem_append_left _ member)
      exact mark.elim first second
    · obtain ⟨first, second⟩ := origin.unmarked c (List.mem_append_right _ member)
      exact mark.elim first second
  have slash : c ≠ '/' := by rcases mark with rfl | rfl <;> decide
  have colon : c ≠ ':' := by rcases mark with rfl | rfl <;> decide
  simp [url, clean, slash, colon, mem_intercalate slash]

/-- What is read of a URL without a query and a fragment. -/
theorem read_unmarked (queryless : '?' ∉ origin.url texts) (fragmentless : '#' ∉ origin.url texts) :
    Address.read (origin.url texts) = ⟨origin.scheme, origin.authority,
      (removeDots [] ((['/'].intercalate texts).splitOn '/')).map percentDecode, none, none⟩ := by
  have scheme : (origin.url texts).takeWhile (· != ':') = origin.scheme := by
    simpa [url] using takeWhile_marked origin.schemed _
  have rest : (origin.url texts).drop (origin.scheme.length + 3) = origin.authority ++ '/' :: ['/'].intercalate texts := by
    simp [url]
  have authority : (origin.authority ++ '/' :: ['/'].intercalate texts).takeWhile (· != '/') = origin.authority :=
    takeWhile_marked origin.hosted _
  have path : (origin.authority ++ '/' :: ['/'].intercalate texts).drop (origin.authority.length + 1) =
      ['/'].intercalate texts := by
    simp
  simp only [Address.read, cut_of_not_mem fragmentless, cut_of_not_mem queryless, scheme, rest, authority, path]

/-- The URL addresses the texts, and nothing else, exactly when each of them is a proper segment. -/
theorem read_url_iff (filled : texts ≠ []) :
    Address.read (origin.url texts) = ⟨origin.scheme, origin.authority, texts, none, none⟩ ↔ ∀ text ∈ texts, Proper text := by
  constructor
  · intro read
    have fragmentless : '#' ∉ origin.url texts := not_mem_of_cut (congrArg Address.fragment read)
    have queryless : '?' ∉ origin.url texts := by
      have uncut := congrArg Address.query read
      simp only [Address.read, cut_of_not_mem fragmentless] at uncut
      exact not_mem_of_cut uncut
    rw [origin.read_unmarked queryless fragmentless] at read
    have segments := (segments_iff filled).mp (congrArg Address.segments read)
    rw [origin.mem_url (by simp)] at fragmentless queryless
    intro text member
    obtain ⟨undivided, kept, unescaped⟩ := segments text member
    exact ⟨⟨undivided, fun marked => queryless ⟨text, member, marked⟩, fun marked => fragmentless ⟨text, member, marked⟩, unescaped⟩, kept⟩
  · intro proper
    have queryless : '?' ∉ origin.url texts := by
      rw [origin.mem_url (by simp)]
      exact fun ⟨text, member, marked⟩ => (proper text member).queryless marked
    have fragmentless : '#' ∉ origin.url texts := by
      rw [origin.mem_url (by simp)]
      exact fun ⟨text, member, marked⟩ => (proper text member).fragmentless marked
    rw [origin.read_unmarked queryless fragmentless, (segments_iff filled).mpr]
    exact fun text member => ⟨(proper text member).undivided, (proper text member).kept, (proper text member).unescaped⟩

end Origin

/-- A server finds the texts in the path that they make up exactly when each of them is plain. -/
theorem requestPath_iff (filled : texts ≠ []) :
    requestPath (['/'].intercalate texts) = texts ↔ ∀ text ∈ texts, Plain text := by
  have marked {c : Char} (other : c ≠ '/') : c ∈ ['/'].intercalate texts ↔ ∃ text ∈ texts, c ∈ text := mem_intercalate other
  constructor
  · intro found
    have divided : ∀ text ∈ texts, '/' ∉ text := by
      rw [← found]
      exact slashless_of_splitOn _ _
    have whole := congrArg (['/'].intercalate ·) found
    simp only [requestPath, List.intercalate_splitOn] at whole
    -- The path is as long as the target, so nothing was cut off from it and nothing decoded.
    have total := congrArg List.length whole
    have first := cut_length '#' (['/'].intercalate texts)
    have second := cut_length '?' (cut '#' (['/'].intercalate texts)).1
    have third := percentDecode_length_le (cut '?' (cut '#' (['/'].intercalate texts)).1).1
    have fragmentless : '#' ∉ ['/'].intercalate texts := not_mem_of_length (by omega)
    simp only [cut_of_not_mem fragmentless] at second third total
    have queryless : '?' ∉ ['/'].intercalate texts := not_mem_of_length (by omega)
    simp only [cut_of_not_mem queryless] at total
    have unescaped : Unescaped (['/'].intercalate texts) := unescaped_of_length total.ge
    rw [marked (by decide)] at fragmentless queryless
    intro text member
    refine ⟨divided text member, fun query => queryless ⟨text, member, query⟩, fun fragment => fragmentless ⟨text, member, fragment⟩, ?_⟩
    obtain ⟨before, after, same⟩ := infix_intercalate '/' member
    rw [← same] at unescaped
    exact unescaped.part
  · intro plain
    have fragmentless : '#' ∉ ['/'].intercalate texts := by
      rw [marked (by decide)]
      exact fun ⟨text, member, fragment⟩ => (plain text member).fragmentless fragment
    have queryless : '?' ∉ ['/'].intercalate texts := by
      rw [marked (by decide)]
      exact fun ⟨text, member, query⟩ => (plain text member).queryless query
    have separates : Separates '/' := rfl
    rw [requestPath, cut_of_not_mem fragmentless, cut_of_not_mem queryless, percentDecode_intercalate (by decide) separates,
      map_percentDecode fun text member => (plain text member).unescaped,
      List.splitOn_intercalate '/' (fun text member => (plain text member).undivided) filled]

end Text
