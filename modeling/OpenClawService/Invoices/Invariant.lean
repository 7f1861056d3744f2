import OpenClawService.Invoices.Programs

/-! The invariant of the creations: whatever is alive at Xero is named by the
cache, or was created by the call that is about to cache it. -/
namespace OpenClaw.Invoices
open Interleaving Connection CreateXeroDraftInvoice
variable {ι : Type} {minted : HttpResponse → String} {me : ι}

/-- The invoice that a creation of `me` brings about, by the id that stands behind the answer. -/
def Mints (minted : HttpResponse → String) (me : ι) (invoiceId : String) : Entry ι → Prop
  | .call i (.outside (.http request)) (.ok response) =>
    i = me ∧ request.method = "POST" ∧ response.isSuccess = true ∧ minted response = invoiceId
  | _ => False

def Ends (invoiceId : String) : Entry ι → Prop
  | .invoice changed status => changed = invoiceId ∧ status ∈ invalidInvoiceStatuses
  | _ => False

/-- An invoice created by `me` and since then neither deleted nor voided. -/
def Live (minted : HttpResponse → String) (me : ι) : List (Entry ι) → String → Prop
  | [], _ => False
  | entry :: rest, invoiceId => Mints minted me invoiceId entry ∨ Live minted me rest invoiceId ∧ ¬ Ends invoiceId entry

theorem Live.earlier {entry : Entry ι} (live : Live minted me (entry :: log) invoiceId)
    (mints : ¬ Mints minted me invoiceId entry) : Live minted me log invoiceId :=
  (live.resolve_left mints).1

section Invariant
variable [Library] {connectionId key : String} {w w' : World ι} {p : Phase}

structure Single (minted : HttpResponse → String) (me : ι) (key : String) (w : World ι) (p : Phase) : Prop where
  shaped : w.redis.caches key = some value → ∃ invoiceId status, value = XeroInvoiceResult.cached ⟨.str invoiceId, status⟩
  single : (∀ response, p ≠ .created response) → Live minted me w.log invoiceId →
    ∃ status, w.redis.caches key = some (XeroInvoiceResult.cached ⟨.str invoiceId, status⟩)
  subject : p = .verifying invoiceId retried doubted →
    ∃ status, w.redis.caches key = some (XeroInvoiceResult.cached ⟨.str invoiceId, status⟩)
  free : p.MayCreate → ¬ Live minted me w.log invoiceId
  posted : p = .created response → (∀ invoiceId, Live minted me w.log invoiceId → minted response = invoiceId) ∧
    ∃ status, made response = .ok ⟨.str (minted response), status⟩

/-- A call that has settled is not about to cache anything. -/
theorem Single.uncreated (single : Single minted me key w p) (settled : Settled p) : ∀ response, p ≠ .created response := by
  intro response created
  obtain ⟨status, done⟩ := (single.posted created).2
  exact settled response _ created done

/-- The only invoice that can be alive during a verification is the verified one. -/
theorem Single.verified (single : Single minted me key w (.verifying invoiceId retried doubted))
    (live : Live minted me w.log other) : other = invoiceId := by
  obtain ⟨status, cached⟩ := single.single (by simp) live
  obtain ⟨status', cached'⟩ := single.subject rfl
  rw [cached] at cached'
  simp only [XeroInvoiceResult.cached, Option.some.injEq, Json.obj.injEq, List.cons.injEq, Prod.mk.injEq, Json.str.injEq,
    true_and] at cached'
  exact cached'.1

/-- A step that leaves the cache alone and creates nothing, and after which a new doubt is justified. -/
theorem Single.doubt (single : Single minted me key w p) (caches : w'.redis.caches key = w.redis.caches key)
    (fewer : ∀ invoiceId, Live minted me w'.log invoiceId → Live minted me w.log invoiceId) {doubts : Bool}
    (justified : doubts = true → p.Working → ∀ invoiceId, ¬ Live minted me w.log invoiceId) :
    Single minted me key w' (p.doubt doubts) := by
  cases p with
  | verifying invoiceId retried doubted =>
    constructor
    case shaped =>
      rw [caches]
      exact single.shaped
    case single =>
      intro other _ live
      rw [caches]
      exact single.single (by simp) (fewer other live)
    case subject =>
      rintro other retried' doubted' ⟨⟩
      rw [caches]
      exact single.subject rfl
    case free =>
      intro other may live
      cases doubts with
      | true => exact justified rfl trivial other (fewer other live)
      | false =>
        have before : doubted = true := by simpa [Phase.doubt, Phase.MayCreate] using may
        exact single.free before (fewer other live)
    case posted => rintro response ⟨⟩
  | idle | creating | created =>
    constructor
    case shaped =>
      rw [caches]
      exact single.shaped
    case single =>
      intro other uncreated live
      rw [caches]
      exact single.single uncreated (fewer other live)
    case subject => rintro other retried doubted ⟨⟩
    case free => exact fun may live => single.free may (fewer _ live)
    case posted => exact fun created => ⟨fun other live => (single.posted created).1 other (fewer other live),
      (single.posted created).2⟩

/-- A step that leaves the cache alone, creates nothing and raises no doubt. -/
theorem Single.unmoved (single : Single minted me key w p) (caches : w'.redis.caches key = w.redis.caches key)
    (fewer : ∀ invoiceId, Live minted me w'.log invoiceId → Live minted me w.log invoiceId) :
    Single minted me key w' p := by
  have same : p.doubt false = p := by
    cases p <;> simp [Phase.doubt]
  have kept : Single minted me key w' (p.doubt false) := single.doubt caches fewer (by simp)
  rwa [same] at kept

omit [Library] in
theorem retry_created : p.retry = .created response ↔ p = .created response := by
  cases p <;> simp [Phase.retry]

omit [Library] in
theorem retry_mayCreate : p.retry.MayCreate ↔ p.MayCreate := by
  cases p <;> rfl

/-- The second pass of a request is one with the first. -/
theorem Single.retry (single : Single minted me key w p) (caches : w'.redis.caches key = w.redis.caches key)
    (log : ∀ invoiceId, Live minted me w'.log invoiceId → Live minted me w.log invoiceId) :
    Single minted me key w' p.retry := by
  have kept := single.unmoved caches log
  constructor
  case shaped => exact kept.shaped
  case single =>
    intro invoiceId uncreated
    exact kept.single fun response created => uncreated response (retry_created.mpr created)
  case subject =>
    intro invoiceId retried doubted verifying
    cases p with
    | verifying invoiceId' retried' doubted' =>
      cases verifying
      exact kept.subject rfl
    | _ => cases verifying
  case free => exact fun may => kept.free (retry_mayCreate.mp may)
  case posted => exact fun created => kept.posted (retry_created.mp created)

/-- A call opens with what the cache holds. -/
theorem Single.opened (single : Single minted me key w p) (settled : Settled p)
    (caches : w'.redis.caches key = w.redis.caches key)
    (fewer : ∀ invoiceId, Live minted me w'.log invoiceId → Live minted me w.log invoiceId) :
    Single minted me key w' (opened (w.redis.caches key)) := by
  have cached (invoiceId : String) (live : Live minted me w'.log invoiceId) :=
    single.single (single.uncreated settled) (fewer invoiceId live)
  cases holds : w.redis.caches key with
  | none =>
    have dead (invoiceId : String) : ¬ Live minted me w'.log invoiceId := by
      intro live
      obtain ⟨status, found⟩ := cached invoiceId live
      rw [holds] at found
      cases found
    constructor
    case shaped => simp [caches, holds]
    case single => exact fun _ live => (dead _ live).elim
    case free => exact fun _ => dead _
    case subject | posted => simp [Invoices.opened]
  | some value =>
    obtain ⟨invoiceId, status, rfl⟩ := single.shaped holds
    have verifying : Invoices.opened (some (XeroInvoiceResult.cached ⟨.str invoiceId, status⟩)) =
        .verifying invoiceId false false := rfl
    rw [verifying]
    constructor
    case shaped =>
      rw [caches]
      exact single.shaped
    case single =>
      intro other _ live
      rw [caches]
      exact cached other live
    case subject =>
      rintro other retried doubted ⟨⟩
      exact ⟨status, caches.trans holds⟩
    case free => exact fun may => (Bool.false_ne_true may).elim
    case posted => rintro response ⟨⟩

/-- A creation that answers for its invoice, where nothing was alive. -/
theorem Single.created (single : Single minted me key w p) (may : p.MayCreate)
    (caches : w'.redis.caches key = w.redis.caches key)
    (mints : ∀ invoiceId, Live minted me w'.log invoiceId → minted response = invoiceId ∨ Live minted me w.log invoiceId)
    (reported : ∃ status, made response = .ok ⟨.str (minted response), status⟩) :
    Single minted me key w' (.created response) := by
  constructor
  case shaped =>
    rw [caches]
    exact single.shaped
  case single => exact fun uncreated => (uncreated response rfl).elim
  case subject => rintro invoiceId retried doubted ⟨⟩
  case free => exact fun may => may.elim
  case posted =>
    rintro other ⟨⟩
    exact ⟨fun invoiceId live => (mints invoiceId live).resolve_right (single.free may), reported⟩

/-- The result of a creation is cached. -/
theorem Single.stored (single : Single minted me key w p) (created : p = .created response)
    (done : made response = .ok result) (caches : w'.redis.caches key = some result.cached)
    (fewer : ∀ invoiceId, Live minted me w'.log invoiceId → Live minted me w.log invoiceId) :
    Single minted me key w' .idle := by
  obtain ⟨only, status, reported⟩ := single.posted created
  rw [reported] at done
  cases done
  constructor
  case shaped =>
    intro value cached
    rw [caches] at cached
    cases cached
    exact ⟨_, _, rfl⟩
  case single =>
    intro invoiceId _ live
    obtain rfl := only invoiceId (fewer invoiceId live)
    exact ⟨status, caches⟩
  case subject => rintro invoiceId retried doubted ⟨⟩
  case free => exact fun may => may.elim
  case posted => rintro response ⟨⟩

end Invariant
end OpenClaw.Invoices
