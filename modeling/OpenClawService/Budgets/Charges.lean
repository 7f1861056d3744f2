import OpenClawService.Interleaving.Meter
import OpenClawService.Adapters.Microsoft
import Mathlib.Algebra.GroupWithZero.Nat
import Mathlib.Algebra.Order.Group.Nat
import Mathlib.Algebra.Order.Pi

/-! What the awaits of the service cost, and what the two token managers spend at most: a
bounded number of commands to Redis, one refresh, and a bounded wait for the lock. -/
namespace OpenClaw
open Interleaving

/-- Commands to Redis, calls to a provider, those of them that spend a refresh token, and
milliseconds of sleep. -/
inductive Charge where
  | command
  | traffic
  | refresh
  | wait
  deriving DecidableEq

abbrev Spending := Charge → Nat

def spend (commands traffic refreshes wait : Nat) : Spending
  | .command => commands
  | .traffic => traffic
  | .refresh => refreshes
  | .wait => wait

theorem spend_add : spend a b c d + spend a' b' c' d' = spend (a + a') (b + b') (c + c') (d + d') := by
  funext charge
  cases charge <;> rfl

theorem spend_le : spend a b c d ≤ spend a' b' c' d' ↔ a ≤ a' ∧ b ≤ b' ∧ c ≤ c' ∧ d ≤ d' :=
  ⟨fun le => ⟨le .command, le .traffic, le .refresh, le .wait⟩, fun le charge => by
    cases charge
    exacts [le.1, le.2.1, le.2.2.1, le.2.2.2]⟩

/-- A token request that presents a refresh token. -/
def HttpRequest.refreshes (request : HttpRequest) : Bool := request.data.lookup "grant_type" == some "refresh_token"

/-- The commands that redis-py sends: the release of a watched key is a transaction, of MULTI,
DEL and EXEC. -/
def Command.size : Command → Nat
  | .execDel _ => 3
  | _ => 1

def Op.weight : Op → Spending
  | .redis command => spend command.size 0 0 0
  | .outside call => match call with
    | .http request => spend 0 1 (if request.refreshes then 1 else 0) 0
    | .fetchToken .. => spend 0 1 0 0
    | .refreshToken .. => spend 0 1 1 0
    | .sleep milliseconds => spend 0 0 0 milliseconds
    | .ping => spend 1 0 0 0
    | .now | .uuid4 | .tokenUrlsafe _ | .port _ => spend 0 0 0 0

/-- What the worker has spent. -/
def expense [DecidableEq ι] (i : ι) : List (Entry ι) → Spending
  | [] => 0
  | .call worker op _ :: rest => if worker = i then expense i rest + op.weight else expense i rest
  | .expired _ :: rest | .invoice .. :: rest => expense i rest

theorem view_expense [DecidableEq ι] (log : List (Entry ι)) (i : ι) : view (fun _ => meter Op.weight) (fun _ => 0) log i = expense i log := by
  induction log with
  | nil => rfl
  | cons entry rest ih =>
    cases entry with
    | call worker op answer => simp only [view, expense, ih, meter_advance]
    | expired | invoice => exact ih

namespace Async

/-- The program spends at most this much, on every path. -/
abbrev Spends (bound : Spending) (program : Async α) : Prop := Within Op.weight bound program

namespace Spends

/-- The first part is added last, so that what is left for the rest is read off the whole. -/
theorem bind {program : Async α} {next : α → Async β} (first : Spends (spend a b c d) program)
    (rest : ∀ value, Spends (spend a' b' c' d') (next value)) : Spends (spend (a' + a) (b' + b) (c' + c) (d' + d)) (program >>= next) := by
  rw [← spend_add, add_comm]
  exact Within.bind first rest

/-- What is free adds nothing. -/
theorem andFree {program : Async α} {next : α → Async β} (first : Spends bound program) (rest : ∀ value, Spends 0 (next value)) :
    Spends bound (program >>= next) := (Within.bind first rest).mono (add_zero _).le

theorem tryCatch {program : Async α} {handler : Exc → Async α} (body : Spends (spend a b c d) program)
    (handled : ∀ error, Spends (spend a' b' c' d') (handler error)) :
    Spends (spend (a' + a) (b' + b) (c' + c) (d' + d)) (MonadExcept.tryCatch program handler) := by
  rw [← spend_add, add_comm]
  exact Within.tryCatch body handled

/-- The bound is a bound for less. -/
theorem less {program : Async α} (spends : Spends (spend a b c d) program) (command : a ≤ a') (traffic : b ≤ b')
    (refresh : c ≤ c') (wait : d ≤ d') :
    Spends (spend a' b' c' d') program := Within.mono spends (spend_le.mpr ⟨command, traffic, refresh, wait⟩)

end Spends

theorem redis_spends (command : Command) (single : command.size = 1) : Spends (spend 1 0 0 0) (redis command) := by
  rw [← single]
  exact Costs.request _

theorem execDel_spends (key : String) : Spends (spend 3 0 0 0) (redis (.execDel key)) := Costs.request _

theorem outside_spends (call : Outside) : Spends (Op.outside call).weight (outside call) := Costs.request _

theorem ofExcept_spends (outcome : Except Exc α) : Spends (spend 0 0 0 0) (ofExcept outcome) := Costs.ended outcome

/-- One call to a provider, which may present a refresh token. -/
theorem http_spends (request : HttpRequest) : Spends (spend 0 1 (if request.refreshes then 1 else 0) 0) (http request) :=
  Spends.andFree (outside_spends (.http request)) fun _ => Costs.ended _

theorem outcome_spends {program : Async α} (spends : Spends bound program) : Spends bound (outcome program) :=
  fun spent => outcome_meets.mpr (spends spent)

theorem http_ordinary (request : HttpRequest) (ordinary : request.refreshes = false) : Spends (spend 0 1 0 0) (http request) := by
  have spends := http_spends request
  rwa [ordinary] at spends

end Async
open Async

theorem TokenSet.isExpiredOrNear_spends (token : TokenSet) (bufferSeconds : Int) :
    Spends (spend 0 0 0 0) (token.isExpiredOrNear bufferSeconds) := (outside_spends .now).map

section Stores
variable [Library]

theorem TokenStore.load_spends (connectionId : String) : Spends (spend 1 0 0 0) (TokenStore.load connectionId) :=
  (redis_spends _ (by rfl)).bind fun _ => ofExcept_spends _

theorem ApprovalStore.load_spends (approvalId : String) : Spends (spend 1 0 0 0) (ApprovalStore.load approvalId) :=
  (redis_spends _ (by rfl)).bind fun _ => ofExcept_spends _

end Stores

/-- A lock that is not free costs one command; one that is taken costs six, and the work done under it. -/
def lockBound (held : Spending) : Except Exc (Option α) → Spending
  | .ok none => spend 1 0 0 0
  | _ => spend 6 0 0 0 + held

theorem Lock.aexit_spends (key : String) (context : Context) :
    Spends (if context.acquired then spend 5 0 0 0 else spend 0 0 0 0) (Lock.aexit key context) := by
  unfold Lock.aexit
  split
  · have last (current : Option String) : Spends (spend 3 0 0 0)
        (if current = some context.ownerToken then do let _ ← redis (.execDel key); return () else redis .unwatch) := by
      split
      · exact (execDel_spends _).bind fun _ => ofExcept_spends _
      · exact (redis_spends _ (by rfl)).less (by omega) le_rfl le_rfl le_rfl
    exact (redis_spends (.watch key) rfl).bind fun _ => (redis_spends (.get key) rfl).bind last
  · exact Costs.pure ()

theorem Lock.acquire_costs {body : Async α} (within : Spends held body) (key : String) (ttlSeconds : Nat) :
    Costs Op.weight (lockBound held) (Lock.acquire key ttlSeconds fun acquired => if acquired then some <$> body else pure none) := by
  intro spent
  simp only [Lock.acquire, Lock.aenter, Meets.bind_iff, Async.outside_meets, Async.redis_meets, Meets.andThen_ok, Meets.pure_iff,
    Async.outcome_meets, meter_admits, meter_expects, meter_advance, true_and, forall_const]
  intro ownerToken acquired
  cases acquired with
  | false => exact add_assoc .. |>.trans_le (add_le_add_right (spend_add.trans_le le_rfl) spent)
  | true =>
    simp only [if_true, Meets.map_iff]
    refine (within _).mono fun result total body => ?_
    refine (Lock.aexit_spends _ _ total).mono fun left final exit => ?_
    have bound : final ≤ spent + (spend 6 0 0 0 + held) := by
      intro charge
      have first := body charge
      have second := exit charge
      cases charge <;> simp [Op.weight, Command.size, spend] at first second ⊢ <;> omega
    rcases left with error | _ <;> rcases result with _ | _ <;> exact bound

/-- Who finds the lock taken tries something else. -/
theorem Lock.retry_spends {body : Async α} {next : Option α → Async β} (held : Spends (spend a b c d) body)
    (settled : ∀ value, Spends (spend 0 0 0 0) (next (some value))) (contended : Spends (spend a' b' c' d') (next none))
    (fits : a + 5 ≤ a' ∧ b ≤ b' ∧ c ≤ c' ∧ d ≤ d') (key : String) (ttlSeconds : Nat) : Spends (spend (a' + 1) b' c' d')
      (Lock.acquire key ttlSeconds (fun acquired => if acquired then some <$> body else pure none) >>= next) := by
  have second (refreshed : Option α) : Costs Op.weight (fun _ => if refreshed.isSome then spend 0 0 0 0 else spend a' b' c' d')
      (next refreshed) := by
    cases refreshed with
    | some value => exact settled value
    | none => exact contended
  refine Costs.bind (Lock.acquire_costs held key ttlSeconds) second (fun refreshed _ => ?_) fun _ => ?_
  · cases refreshed with
    | some value | none =>
      simp only [lockBound, Option.isSome, Bool.false_eq_true, if_true, if_false, spend_add, spend_le]
      omega
  · simp only [lockBound, spend_add, spend_le]
    omega

end OpenClaw
