import OpenClawService.Adapters.Stores
import OpenClawService.Interleaving.Trace

/-! One program run from its first request to its end while nothing else moves:
Redis answers by its own semantics, and the world outside by a fixed reply. -/
namespace OpenClaw
open Interleaving

variable {ι : Type} [DecidableEq ι] (reply : (call : Outside) → call.Answer) (worker : ι)

/-- The world after the program, and its result. -/
def solo : World ι → Prog Op Op.Answer α → World ι × α
  | w, .done result => (w, result)
  | w, .await (.redis command) resume =>
    let (answer, redis) := w.redis.exec worker command
    solo ⟨redis, .call worker (.redis command) answer :: w.log⟩ (resume answer)
  | w, .await (.outside call) resume =>
    solo ⟨w.redis, .call worker (.outside call) (reply call) :: w.log⟩ (resume (reply call))

@[simp] theorem solo_done (w : World ι) (result : α) : solo reply worker w (.done result : Prog Op Op.Answer α) = (w, result) := rfl

theorem solo_bind (w : World ι) (program : Prog Op Op.Answer α) (next : α → Prog Op Op.Answer β) :
    solo reply worker w (program >>= next) =
      solo reply worker (solo reply worker w program).1 (next (solo reply worker w program).2) := by
  induction program generalizing w with
  | done result => rfl
  | await request resume ih =>
    cases request with
    | redis command => exact ih _ _
    | outside call => exact ih _ _

end OpenClaw
