import OpenClawService.Locking.Ownership

/-! Critical sections that end before the TTL of their lock: a worker inside the
lock then has its token in the key for the whole section, so it is alone there. -/
namespace OpenClaw.Lock
open Interleaving
variable {ι : Type} [DecidableEq ι] {key : String} {env : Environment ι} {w w' : World ι} {i j : ι}

/-- The lock never expires while its owner is inside. -/
def Unhurried (key : String) (env : Environment ι) : Prop :=
  ∀ w i token, env.expires w key → point key w.log i = .inside token → w.redis.strings key ≠ some token

/-- Whoever is inside has the lock. -/
def Held (key : String) (w : World ι) : Prop :=
  ∀ i token, point key w.log i = .inside token → w.redis.strings key = some token

/-- Two workers are never inside at once. -/
theorem alone (ready : Ready key w) (held : Held key w) (first : point key w.log i = .inside token)
    (second : point key w.log j = .inside token') : i = j := by
  have same : token = token' := Option.some.inj ((held i token first).symm.trans (held j token' second))
  have drawn : Drawn w.log i token := (ready.lock.sound i).mine (by simp only [state, first]; rfl)
  have drawn' : Drawn w.log j token := (ready.lock.sound j).mine (by simp only [state, second, same]; rfl)
  exact ready.lock.unique drawn drawn'

omit [DecidableEq ι] in
/-- The one way to get inside. -/
theorem entered_by {p : OwnedLock.Point String} (entered : advance key p op answer = .inside token) :
    p = .inside token ∨ ∃ ttl, op = .redis (.setNx key token ttl) := by
  cases op with
  | outside call =>
    cases call with
    | uuid4 =>
      cases p with
      | outside drawn => contradiction
      | _ => exact Or.inl entered
    | _ => exact Or.inl entered
  | redis command =>
    cases command with
    | setNx k value ttl =>
      simp only [advance] at entered
      split at entered
      · rename_i same
        split at entered
        · cases entered
          exact Or.inr ⟨ttl, by rw [same]⟩
        · contradiction
      · exact Or.inl entered
    | watch k =>
      cases p with
      | inside other =>
        simp only [advance] at entered
        split at entered
        · contradiction
        · exact Or.inl entered
      | _ => exact Or.inl entered
    | get | execDel | unwatch =>
      cases p with
      | inside other => exact Or.inl entered
      | _ => contradiction
    | _ => exact Or.inl entered

namespace Held

theorem served (held : Held key w) (ready : Ready key w) (admitted : admits key (point key w.log i) op)
    (served : Served env i w op answer w') : Held key w' := by
  intro j token inside
  have kept (before : point key w.log j = .inside token) : w'.redis.strings key = some token := by
    by_contra after
    obtain ⟨log, _, drawn⟩ := removed_by ready admitted served (held j token before) after
    have same : j = i := ready.lock.unique ((ready.lock.sound j).mine (by simp only [state, before]; rfl)) drawn
    rw [same] at before
    rw [before] at admitted
    cases served with
    | outside allowed => cases log
    | redis command =>
      simp only [List.cons.injEq, Entry.call.injEq, Op.redis.injEq] at log
      obtain ⟨⟨_, rfl, _⟩, _⟩ := log
      exact admitted rfl
  rcases eq_or_ne j i with rfl | other
  · cases served with
    | outside allowed =>
      rw [point, view_own] at inside
      rcases entered_by inside with before | ⟨ttl, attempt⟩
      · exact kept before
      · contradiction
    | redis command =>
      rw [point, view_own] at inside
      rcases entered_by inside with before | ⟨ttl, attempt⟩
      · exact kept before
      · cases attempt
        by_cases free : w.redis.strings key = none
        · simp [Redis.exec, free]
        · simp [Redis.exec, free, advance] at inside
  · cases served with
    | outside allowed | redis command =>
      rw [point, view_other _ _ _ other] at inside
      exact kept inside

theorem drifted (held : Held key w) (unhurried : Unhurried key env) (drifted : Drifted env w w') :
    Held key w' := by
  intro j token inside
  cases drifted with
  | @expire k present allowed =>
    have before := held j token inside
    rcases eq_or_ne key k with rfl | other
    · exact (unhurried w j token allowed inside before).elim
    · exact (Redis.write_strings_ne _ other).trans before
  | invoice allowed => exact held j token inside

end Held
end OpenClaw.Lock
