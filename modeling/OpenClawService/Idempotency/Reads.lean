import OpenClawService.Service

/-! Who has stored the cached results that are read. A result carries nothing
of the request that it was stored for, so only the log can tell. -/
namespace OpenClaw.Idempotency
open Interleaving
variable {ι : Type} {log : List (Entry ι)} {loaded : String} {i : ι}

/-- Who has stored the entry last. -/
def writer (loaded : String) : List (Entry ι) → Option ι
  | [] => none
  | .call i (.redis (.setJson key _ _)) _ :: rest => if key = loaded then some i else writer loaded rest
  | _ :: rest => writer loaded rest

/-- Whoever is about to read a cached result may read what its writer has stored. -/
def Reading (may : ι → ι → Prop) (c : ServiceConfig ι α) : Option ι → Prop
  | none => True
  | some reader => match c.pool reader with
    | .await (.redis (.getJson key)) _ =>
      c.shared.redis.caches key ≠ none → ∀ writing, writer key c.shared.log = some writing → may writing reader
    | _ => True

@[simp] theorem writer_set {answer : (Op.redis (.setJson loaded value ex)).Answer} :
    writer loaded (.call i (.redis (.setJson loaded value ex)) answer :: log) = some i := if_pos rfl

theorem writer_redis {command : Command} {answer : command.Reply} (other : command.modifiesCache ≠ some loaded) :
    writer loaded (.call i (.redis command) answer :: log) = writer loaded log := by
  cases command with
  | setJson key value ex => exact if_neg fun same => other (congrArg some same)
  | _ => rfl

theorem Reading.read {may : ι → ι → Prop} {c : ServiceConfig ι α} {resume : Option Json → Prog Op Op.Answer α}
    (reading : Reading may c (some i)) (pending : c.pool i = .await (.redis (.getJson loaded)) resume)
    (present : c.shared.redis.caches loaded ≠ none) (stored : writer loaded c.shared.log = some writing) : may writing i := by
  simp only [Reading, pending] at reading
  exact reading present writing stored

end OpenClaw.Idempotency
