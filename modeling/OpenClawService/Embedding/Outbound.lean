import OpenClawService.Adapters.Microsoft
import OpenClawService.Text.Url
import Mathlib.Data.Set.Insert

/-! The URLs that the provider clients build. Identifiers are put into them as
they are, so a URL addresses the named object when they are proper segments. -/
namespace OpenClaw.Embedding
open Text

def graphOrigin : Origin := ⟨"https".toList, "graph.microsoft.com".toList, by simp, by simp, by simp⟩

def xeroOrigin : Origin := ⟨"https".toList, "api.xero.com".toList, by simp, by simp, by simp⟩

/-- The URL is read as these segments at the origin, without a query and a fragment. -/
def Addresses (origin : Origin) (url : String) (segments : List String) : Prop :=
  Address.read url.toList = ⟨origin.scheme, origin.authority, segments.map String.toList, none, none⟩

def messagesPath (teamId channelId : String) : List String := ["v1.0", "teams", teamId, "channels", channelId, "messages"]

def invoicePath (invoiceId : String) : List String := ["api.xro", "2.0", "Invoices", invoiceId]

theorem channelUrl_eq (teamId channelId : String) :
    (MSGraph.channelUrl teamId channelId).toList = graphOrigin.url ((messagesPath teamId channelId).map String.toList) := by
  simp [MSGraph.channelUrl, MSGraph.graphBase, Origin.url, graphOrigin, messagesPath]

theorem invoiceUrl_eq (invoiceId : String) :
    (XeroHttp.apiBase ++ "/Invoices/" ++ invoiceId).toList = xeroOrigin.url ((invoicePath invoiceId).map String.toList) := by
  simp [XeroHttp.apiBase, Origin.url, xeroOrigin, invoicePath]

theorem messagesPath_proper {teamId channelId : String} :
    (∀ segment ∈ (messagesPath teamId channelId).map String.toList, Proper segment) ↔ Proper teamId.toList ∧ Proper channelId.toList := by
  have version : Proper "v1.0".toList := ⟨⟨by decide, by decide, by decide, by decide⟩, by decide⟩
  have teams : Proper "teams".toList := ⟨⟨by decide, by decide, by decide, by decide⟩, by decide⟩
  have channels : Proper "channels".toList := ⟨⟨by decide, by decide, by decide, by decide⟩, by decide⟩
  have messages : Proper "messages".toList := ⟨⟨by decide, by decide, by decide, by decide⟩, by decide⟩
  simp only [messagesPath, List.map_cons, List.map_nil, List.forall_mem_cons, version, teams, channels, messages, true_and,
    List.not_mem_nil, false_implies, implies_true, and_true]

theorem invoicePath_proper {invoiceId : String} :
    (∀ segment ∈ (invoicePath invoiceId).map String.toList, Proper segment) ↔ Proper invoiceId.toList := by
  have api : Proper "api.xro".toList := ⟨⟨by decide, by decide, by decide, by decide⟩, by decide⟩
  have version : Proper "2.0".toList := ⟨⟨by decide, by decide, by decide, by decide⟩, by decide⟩
  have invoices : Proper "Invoices".toList := ⟨⟨by decide, by decide, by decide, by decide⟩, by decide⟩
  simp only [invoicePath, List.map_cons, List.map_nil, List.forall_mem_cons, api, version, invoices, true_and,
    List.not_mem_nil, false_implies, implies_true, and_true]

theorem channel_addressed (teamId channelId : String) :
    Addresses graphOrigin (MSGraph.channelUrl teamId channelId) (messagesPath teamId channelId) ↔
      Proper teamId.toList ∧ Proper channelId.toList := by
  rw [Addresses, channelUrl_eq, graphOrigin.read_url_iff (by simp [messagesPath]), messagesPath_proper]

theorem invoice_addressed (invoiceId : String) :
    Addresses xeroOrigin (XeroHttp.apiBase ++ "/Invoices/" ++ invoiceId) (invoicePath invoiceId) ↔ Proper invoiceId.toList := by
  rw [Addresses, invoiceUrl_eq, xeroOrigin.read_url_iff (by simp [invoicePath]), invoicePath_proper]

/-- Segments that one URL is read as are the same. -/
theorem Addresses.unique {segments others : List String} (first : Addresses origin url segments) (second : Addresses origin url others) :
    segments = others := by
  rw [Addresses] at first second
  have same := congrArg Address.segments (first.symm.trans second)
  exact List.map_injective_iff.mpr (fun _ _ => String.toList_inj.mp) same

/-- Every request to a channel and about an invoice goes to the named object. -/
structure Exact (channels : Set (String × String)) (invoices : Set String) : Prop where
  posted : ∀ pair ∈ channels, ∀ payload token,
    Addresses graphOrigin (MSGraph.postRequest pair.1 pair.2 payload token).url (messagesPath pair.1 pair.2)
  apart : ∀ pair ∈ channels, ∀ other ∈ channels, pair ≠ other → MSGraph.channelUrl pair.1 pair.2 ≠ MSGraph.channelUrl other.1 other.2
  fetched : ∀ invoiceId ∈ invoices, Addresses xeroOrigin (XeroHttp.getCall invoiceId).url (invoicePath invoiceId)
  updated : ∀ invoiceId ∈ invoices, ∀ status, Addresses xeroOrigin (XeroHttp.updateCall invoiceId status).url (invoicePath invoiceId)

/-- Identifiers are addressed exactly when each one is a proper segment. -/
theorem addressing_exact (channels : Set (String × String)) (invoices : Set String) :
    Exact channels invoices ↔ (∀ pair ∈ channels, Proper pair.1.toList ∧ Proper pair.2.toList) ∧
      ∀ invoiceId ∈ invoices, Proper invoiceId.toList := by
  constructor
  · intro exact_
    refine ⟨fun pair member => ?_, fun invoiceId member => ?_⟩
    · exact (channel_addressed _ _).mp (exact_.posted pair member .null "")
    · exact (invoice_addressed _).mp (exact_.fetched invoiceId member)
  · rintro ⟨proper, proper'⟩
    have addressed (pair : String × String) (member : pair ∈ channels) :
        Addresses graphOrigin (MSGraph.channelUrl pair.1 pair.2) (messagesPath pair.1 pair.2) :=
      (channel_addressed _ _).mpr (proper pair member)
    refine ⟨fun pair member _ _ => addressed pair member, fun pair member other member' different same => different ?_, ?_, ?_⟩
    · have path : messagesPath pair.1 pair.2 = messagesPath other.1 other.2 :=
        (addressed pair member).unique (same ▸ addressed other member')
      simp only [messagesPath, List.cons.injEq, true_and, and_true] at path
      exact Prod.ext path.1 path.2
    · exact fun invoiceId member => (invoice_addressed _).mpr (proper' invoiceId member)
    · exact fun invoiceId member _ => (invoice_addressed _).mpr (proper' invoiceId member)

/-- A team that is named by a path leads to the channel of another team. -/
theorem misaddressed : Addresses graphOrigin (MSGraph.channelUrl "x/../finance" "general") (messagesPath "finance" "general") ∧
    ¬ Exact {("x/../finance", "general")} ∅ := by
  refine ⟨by unfold Addresses; decide, fun exact_ => ?_⟩
  have proper := (channel_addressed _ _).mp (exact_.posted _ rfl .null "")
  exact absurd proper.1.undivided (by decide)

end OpenClaw.Embedding
