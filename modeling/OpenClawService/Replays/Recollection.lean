import OpenClawService.Api.Operations
import OpenClawService.Api.Runs

/-! How far a writing request has got with the entry of its key, and what it answers. A
request looks its entry up first; what it answers is what it found there, or what it has
written there itself. -/
namespace OpenClaw.Api
open Interleaving

inductive Recall where
  | fresh
  | missed
  | found (value : Json)
  | kept (value : Json)

namespace Recall

/-- The value that a request has found or written. -/
def value : Recall → Option Json
  | .found value | .kept value => some value
  | _ => none

/-- An empty entry is taken for an absent one. -/
def after : Recall → (op : Op) → op.Answer → Recall
  | .fresh, .redis (.getJson _), some value => if value.truthy then .found value else .missed
  | .fresh, .redis (.getJson _), none => .missed
  | _, .redis (.setJson _ value _), _ => .kept value
  | memory, _, _ => memory

end Recall

@[simp] theorem Recall.after_write (memory : Recall) (k : String) (value : Json) (ttl : Nat) :
    memory.after (.redis (.setJson k value ttl)) () = .kept value := by cases memory <;> rfl

theorem Recall.value_cases {memory : Recall} (known : memory.value = some stored) : memory = .found stored ∨ memory = .kept stored := by
  cases memory with
  | fresh | missed => cases known
  | found => exact Or.inl (congrArg Recall.found (Option.some.inj known))
  | kept => exact Or.inr (congrArg Recall.kept (Option.some.inj known))

/-- Neither reads nor writes an entry. -/
def Uncached : Op → Prop
  | .redis (.getJson _) | .redis (.setJson ..) => False
  | _ => True

/-- A found invoice is verified at Xero, and may have to be created again. -/
def Route.verifies : Route → Bool
  | .createInvoice .. => true
  | _ => false

/-- Nothing leaves the service before the entry was looked up, and nothing is looked up
afterwards. Another result than an invoice to be created is final. -/
def Asks (route : Route) : Recall → Op → Prop
  | .fresh, .redis (.getJson _) => True
  | .fresh, .outside sent => Local sent
  | .fresh, .redis _ => False
  | .missed, .redis (.getJson _) => False
  | .missed, _ => True
  | .found _, .redis (.getJson _) => False
  | .found _, _ => route.verifies = true
  | .kept _, _ => False

/-- A request without an entry does as it likes. -/
def recollection (route : Route) : Protocol Op Op.Answer Recall :=
  ⟨fun memory op => route.entry = none ∨ Asks route memory op, fun _ _ _ => True, Recall.after⟩

@[simp] theorem recollection_advance (route : Route) : (recollection route).advance = Recall.after := rfl

/-- A result is what `read` makes of the value that was found or written; what was written is
always answered. -/
structure Recollected (read : Json → Except Exc α) (result : Except Exc α) (memory : Recall) : Prop where
  backed : ∀ value, result = .ok value → ∃ stored, memory.value = some stored ∧ read stored = .ok value
  settled : ∀ stored, memory = .kept stored → result = read stored

/-- Before the entry is written an exception is nothing to remember. -/
theorem Recollected.error {read : Json → Except Exc α} {memory : Recall} (unwritten : ∀ stored, memory ≠ .kept stored) (exc : Exc) :
    Recollected read (.error exc) memory := ⟨nofun, fun stored same => (unwritten stored same).elim⟩

theorem Recollected.found (read : Json → Except Exc α) (stored : Json) : Recollected read (read stored) (.found stored) :=
  ⟨fun _ same => ⟨stored, rfl, same⟩, nofun⟩

theorem Recollected.kept {read : Json → Except Exc α} (same : read stored = .ok value) :
    Recollected read (.ok value) (.kept stored) := by
  refine ⟨?_, ?_⟩
  · rintro _ ⟨⟩
    exact ⟨stored, rfl, same⟩
  · rintro _ ⟨⟩
    exact same.symm

/-- What is done with a result is done with what is read. -/
theorem Recollected.bind {read : Json → Except Exc α} {memory : Recall} {result : Except Exc α}
    (recollected : Recollected read result memory) (next : α → Except Exc β) :
    Recollected (fun stored => read stored >>= next) (result >>= next) memory := by
  refine ⟨?_, ?_⟩
  · intro value same
    cases result with
    | error exc => cases same
    | ok first =>
      obtain ⟨stored, known, reads⟩ := recollected.backed first rfl
      exact ⟨stored, known, by rw [reads]; exact same⟩
  · intro stored same
    rw [recollected.settled stored same]

section Programs
variable {route : Route} {memory : Recall}

/-- The request may go on and write. -/
inductive Recall.Open (route : Route) : Recall → Prop
  | missed : Open route .missed
  | found (verifies : route.verifies = true) (value : Json) : Open route (.found value)

theorem Recall.Open.unwritten (opened : memory.Open route) (stored : Json) : memory ≠ .kept stored := by
  rintro rfl
  cases opened

theorem Recall.Open.asks (opened : memory.Open route) {op : Op} (onward : ∀ k, op ≠ .redis (.getJson k)) : Asks route memory op := by
  cases opened with
  | missed =>
    cases op with
    | outside call => trivial
    | redis command => cases command <;> first | trivial | exact (onward _ rfl).elim
  | found verifies value =>
    cases op with
    | outside call => exact verifies
    | redis command => cases command <;> first | exact verifies | exact (onward _ rfl).elim

theorem Recall.after_uncached {op : Op} (uncached : Uncached op) (answer : op.Answer) : memory.after op answer = memory := by
  cases op with
  | outside call => cases memory <;> rfl
  | redis command => cases command <;> first | exact uncached.elim | (cases memory <;> rfl)

/-- What an await can do to a memory: nothing, or it writes the entry, or it looks it up for the first time. -/
theorem Recall.after_cases (memory : Recall) (op : Op) (answer : op.Answer) : memory.after op answer = memory ∨
    (∃ k value ttl, op = .redis (.setJson k value ttl) ∧ memory.after op answer = .kept value) ∨
    memory = .fresh ∧ ∃ k cached, op = .redis (.getJson k) ∧ HEq answer (cached : Option Json) ∧
      (memory.after op answer = .missed ∨ ∃ value, cached = some value ∧ memory.after op answer = .found value) := by
  cases op with
  | outside call => exact Or.inl (by cases memory <;> rfl)
  | redis command =>
    cases command with
    | setJson k value ttl => exact Or.inr (Or.inl ⟨k, value, ttl, rfl, memory.after_write k value ttl⟩)
    | getJson k =>
      cases memory with
      | fresh =>
        refine Or.inr (Or.inr ⟨rfl, k, answer, rfl, HEq.rfl, ?_⟩)
        cases answer with
        | none => exact Or.inl rfl
        | some value =>
          cases truthy : value.truthy with
          | false => exact Or.inl (by simp [Recall.after, truthy])
          | true => exact Or.inr ⟨value, rfl, by simp [Recall.after, truthy]⟩
      | _ => exact Or.inl rfl
    | _ => exact Or.inl (by cases memory <;> rfl)

theorem uncached_stays {program : Async α} (uncached : program.run.Uses Uncached) (opened : memory.Open route) :
    Meets.Stays (recollection route) memory program := by
  refine Meets.of_uses uncached ?_ ?_ rfl
  · rintro _ op rfl apart
    refine Or.inr (opened.asks ?_)
    rintro k rfl
    exact apart
  · rintro _ op answer rfl apart _
    exact Recall.after_uncached apart answer

/-- What is computed is written, and answered. -/
theorem store_recollects {read : Json → Except Exc α} {written : α → Json} (opened : memory.Open route)
    {value : α} (same : read (written value) = .ok value) (key : String) (ttlSeconds : Nat) :
    Meets (recollection route) (do IdempotencyStore.set key (written value) ttlSeconds; return value) memory (Recollected read) := by
  have writes : Asks route memory (.redis (.setJson key (written value) ttlSeconds)) := opened.asks nofun
  refine ⟨Or.inr writes, fun _ _ => ?_⟩
  rw [recollection_advance, Recall.after_write]
  exact .kept same

/-- A lookup, and what follows when nothing was found. -/
theorem hit_recollects {read : Json → Except Exc α} {next : Option Json → Async α} (key : String)
    (hit : ∀ value, Meets (recollection route) (next (some value)) (.found value) (Recollected read))
    (miss : Meets (recollection route) (next none) .missed (Recollected read)) :
    Meets (recollection route) (IdempotencyStore.hit key >>= next) .fresh (Recollected read) := by
  simp only [IdempotencyStore.hit, IdempotencyStore.get, Meets.bind_iff, Async.redis_meets, Meets.andThen_ok, Meets.pure_iff,
    recollection_advance]
  refine ⟨Or.inr trivial, fun cached _ => ?_⟩
  cases cached with
  | none => exact miss
  | some value =>
    cases truthy : value.truthy with
    | false => simpa only [Option.filter_some, truthy, Recall.after, Bool.false_eq_true, if_false] using miss
    | true => simpa only [Option.filter_some, truthy, Recall.after, if_true] using hit value

end Programs
end OpenClaw.Api
