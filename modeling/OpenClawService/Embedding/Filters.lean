import OpenClawService.Adapters.Xero
import OpenClawService.Text.Literal
import Mathlib.Data.Set.Insert

/-! The `where` expressions of the Xero lists. A search or a status is put between
double quotes as it is, so the filter asks for it when it is verbatim. -/
namespace OpenClaw.Embedding
open Text

/-- The only parameter of the call is a filter that is read as these texts outside and inside of its literals. -/
def Filters (denotes : Char → Option Char) (call : XeroHttp.Call) (parts : List String) : Prop :=
  ∃ expression, call.params = [("where", expression)] ∧ literals denotes false expression.toList = some (parts.map String.toList)

section Lists
variable [Library] {denotes : Char → Option Char}

omit [Library] in
theorem listCall_filters {path value : String} {filter : String → String} {parts : List String} (filled : value ≠ "") :
    Filters denotes (XeroHttp.listCall path filter (some value)) parts ↔
      literals denotes false (filter value).toList = some (parts.map String.toList) := by
  simp [Filters, XeroHttp.listCall, orNone, filled]

omit [Library] in
/-- What stands between the quotes of a filter is read back exactly when it is verbatim. -/
theorem quoted_read {before after opened closed : String} (outside : '"' ∉ before.toList) (outside' : '"' ∉ after.toList)
    (opens : opened.toList = before.toList ++ ['"']) (closes : closed.toList = '"' :: after.toList) (text : String) :
    literals denotes false (opened ++ text ++ closed).toList = some ([before, text, after].map String.toList) ↔
      Verbatim denotes text.toList := by
  rw [← literals_iff outside outside', String.toList_append, String.toList_append, opens, closes]
  simp

omit [Library] in
theorem nameFilter_read (search : String) : literals denotes false (XeroHttp.nameFilter search).toList =
    some (["Name.Contains(", search, ")"].map String.toList) ↔ Verbatim denotes search.toList :=
  quoted_read (by decide) (by decide) (by decide) (by decide) search

theorem statusFilter_read (status : String) : literals denotes false (XeroHttp.statusFilter status).toList =
    some (["Status==", Library.upper status, ""].map String.toList) ↔ Verbatim denotes (Library.upper status).toList :=
  quoted_read (by decide) (by decide) (by decide) (by decide) (Library.upper status)

/-- The filters mean what was asked, and different searches are told apart. -/
structure Faithful (denotes : Char → Option Char) (searches statuses : Set String) : Prop where
  contacts : ∀ search ∈ searches, Filters denotes (XeroHttp.listCall "/Contacts" XeroHttp.nameFilter (some search))
    ["Name.Contains(", search, ")"]
  accounts : ∀ status ∈ statuses, Filters denotes (XeroHttp.listCall "/Accounts" XeroHttp.statusFilter (some status))
    ["Status==", Library.upper status, ""]
  taxRates : ∀ status ∈ statuses, Filters denotes (XeroHttp.listCall "/TaxRates" XeroHttp.statusFilter (some status))
    ["Status==", Library.upper status, ""]
  apart : ∀ search ∈ searches, ∀ other ∈ searches, search ≠ other →
    literals denotes false (XeroHttp.nameFilter search).toList ≠ literals denotes false (XeroHttp.nameFilter other).toList

/-- Whatever a backslash denotes, the filters are faithful exactly when what they embed is verbatim. -/
theorem filters_faithful (denotes : Char → Option Char) (searches statuses : Set String) (searched : "" ∉ searches)
    (stated : "" ∉ statuses) : Faithful denotes searches statuses ↔
      (∀ search ∈ searches, Verbatim denotes search.toList) ∧
        ∀ status ∈ statuses, Verbatim denotes (Library.upper status).toList := by
  have search_filled (search : String) (member : search ∈ searches) : search ≠ "" := fun empty => searched (empty ▸ member)
  have status_filled (status : String) (member : status ∈ statuses) : status ≠ "" := fun empty => stated (empty ▸ member)
  constructor
  · intro faithful
    refine ⟨fun search member => ?_, fun status member => ?_⟩
    · exact (nameFilter_read search).mp ((listCall_filters (search_filled search member)).mp (faithful.contacts search member))
    · exact (statusFilter_read status).mp ((listCall_filters (status_filled status member)).mp (faithful.accounts status member))
  · rintro ⟨verbatim, upper⟩
    have read (search : String) (member : search ∈ searches) := (nameFilter_read search).mpr (verbatim search member)
    refine ⟨fun search member => ?_, fun status member => ?_, fun status member => ?_, ?_⟩
    · exact (listCall_filters (search_filled search member)).mpr (read search member)
    · exact (listCall_filters (status_filled status member)).mpr ((statusFilter_read status).mpr (upper status member))
    · exact (listCall_filters (status_filled status member)).mpr ((statusFilter_read status).mpr (upper status member))
    · intro search member other member' different same
      rw [read search member, read other member', Option.some.injEq, (List.map_injective_iff.mpr fun _ _ => String.toList_inj.mp).eq_iff] at same
      simp only [List.cons.injEq, true_and, and_true] at same
      exact different same

end Lists

section Samples
local instance filtered : Library := .sample

/-- A backslash escapes a double quote and another backslash. -/
def backslashed (c : Char) : Option Char := if c = '"' ∨ c = '\\' then some c else none

theorem plain_filters : Faithful backslashed {"Smith & Sons (UK)"} {"active"} := by
  refine (filters_faithful _ _ _ (by simp) (by simp)).mpr ⟨?_, ?_⟩
  · rintro search rfl
    exact ⟨by decide, by decide⟩
  · rintro status rfl
    have upper : (Library.upper "active").toList = "ACTIVE".toList := by simp [Library.upper, String.toUpper]
    rw [upper]
    exact ⟨by decide, by decide⟩

/-- A search with quotes becomes a compound condition. -/
theorem compound_filter : Filters backslashed (XeroHttp.listCall "/Contacts" XeroHttp.nameFilter (some "x\") OR Name.Contains(\"y"))
      ["Name.Contains(", "x", ") OR Name.Contains(", "y", ")"] ∧
    ¬ Faithful backslashed {"x\") OR Name.Contains(\"y"} ∅ := by
  have compound : Filters backslashed (XeroHttp.listCall "/Contacts" XeroHttp.nameFilter (some "x\") OR Name.Contains(\"y"))
      ["Name.Contains(", "x", ") OR Name.Contains(", "y", ")"] := ⟨_, rfl, by decide⟩
  refine ⟨compound, fun faithful => ?_⟩
  have verbatim := (nameFilter_read _).mp ((listCall_filters (by decide)).mp (faithful.contacts _ rfl))
  exact absurd verbatim.unquoted (by decide)

end Samples
end OpenClaw.Embedding
