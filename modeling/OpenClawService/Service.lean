import OpenClawService.Domain
import OpenClawService.Redis
import OpenClawService.Interleaving.Pool
import OpenClawService.Interleaving.Raising

/-! The awaits of the service, and the world that answers them. Redis answers
by its own semantics; what the clock, the random sources and the providers
answer, and when keys expire, is up to an environment that a theorem fixes as
far as it needs. The log keeps every answered await, the newest first. -/
namespace OpenClaw
open Interleaving

inductive Outside where
  | now
  | uuid4
  | tokenUrlsafe (nbytes : Nat)
  | sleep (milliseconds : Nat)
  | ping
  | http (request : HttpRequest)
  | fetchToken (session : Session) (url code redirectUri : String)
  | refreshToken (session : Session) (url refreshToken : String)
  | port (call : PortCall)

/-- A raised exception of a library call is known by its text. Authlib returns the body of a
token endpoint as it was parsed. -/
@[reducible] def Outside.Answer : Outside → Type
  | .now => Int
  | .uuid4 => String
  | .tokenUrlsafe _ => String
  | .sleep _ => Unit
  | .ping => Except String Unit
  | .http _ => Except String HttpResponse
  | .fetchToken .. => Except String Json
  | .refreshToken .. => Except String Json
  | .port _ => Except Exc Json

inductive Op where
  | redis (command : Command)
  | outside (call : Outside)

@[reducible] def Op.Answer : Op → Type
  | .redis command => command.Reply
  | .outside call => call.Answer

/-- A coroutine of the service: awaits, and a result or a raised exception. -/
abbrev Async (α : Type) := ExceptT Exc (Prog Op Op.Answer) α

namespace Async

def redis (command : Command) : Async command.Reply := ExceptT.lift (Prog.request (Op.redis command))

def outside (call : Outside) : Async call.Answer := ExceptT.lift (Prog.request (Op.outside call))

def ofExcept (outcome : Except Exc α) : Async α := ExceptT.mk (pure outcome)

/-- The outcome of a block whose exit code runs in either case. -/
def outcome (program : Async α) : Async (Except Exc α) :=
  ExceptT.mk (program.run >>= fun result => pure (.ok result))

/-- A library call whose exception the caller converts itself. -/
def raising (convert : String → Exc) (answer : Except String α) : Async α :=
  ofExcept (answer.mapError convert)

variable {P : Protocol Op Op.Answer L}

@[simp] theorem redis_meets {post : Except Exc command.Reply → L → Prop} :
    Meets (α := no_index command.Reply) P (Async.redis command) l post ↔ P.admits l (.redis command) ∧
      ∀ answer, P.expects l (.redis command) answer →
        post (.ok answer) (P.advance l (.redis command) answer) := Iff.rfl

@[simp] theorem outside_meets {post : Except Exc call.Answer → L → Prop} :
    Meets (α := no_index call.Answer) P (Async.outside call) l post ↔ P.admits l (.outside call) ∧
      ∀ answer, P.expects l (.outside call) answer →
        post (.ok answer) (P.advance l (.outside call) answer) := Iff.rfl

@[simp] theorem ofExcept_meets {outcome : Except Exc α} :
    Meets P (ofExcept outcome) l post ↔ post outcome l := Iff.rfl

@[simp] theorem raising_meets {answer : Except String α} :
    Meets P (raising convert answer) l post ↔ post (answer.mapError convert) l := Iff.rfl

@[simp] theorem outcome_meets {program : Async α} :
    Meets P (outcome program) l post ↔ Meets P program l (fun result l => post (.ok result) l) :=
  Conforms.bind_iff

end Async

inductive Entry (ι : Type) where
  | call (worker : ι) (op : Op) (answer : op.Answer)
  | expired (key : String)
  | invoice (invoiceId status : String)

structure World (ι : Type) where
  redis : Redis ι
  log : List (Entry ι)

/-- What the world outside Redis may do, given all that has happened. -/
structure Environment (ι : Type) where
  allows : World ι → ι → (call : Outside) → call.Answer → Prop
  expires : World ι → String → Prop
  changes : World ι → String → String → Prop

/-- The environment that may do anything at any moment. -/
def Environment.free (ι : Type) : Environment ι :=
  ⟨fun _ _ _ _ => True, fun _ _ => True, fun _ _ _ => True⟩

variable {ι : Type} [DecidableEq ι]

inductive Served (env : Environment ι) (i : ι) (w : World ι) :
    (op : Op) → op.Answer → World ι → Prop where
  | redis (command : Command) : Served env i w (.redis command) (w.redis.exec i command).1
      ⟨(w.redis.exec i command).2, .call i (.redis command) (w.redis.exec i command).1 :: w.log⟩
  | outside {call : Outside} {answer : call.Answer} (allowed : env.allows w i call answer) :
      Served env i w (.outside call) answer ⟨w.redis, .call i (.outside call) answer :: w.log⟩

inductive Drifted (env : Environment ι) (w : World ι) : World ι → Prop where
  | expire {key : String} (present : (w.redis.strings key).isSome ∨ (w.redis.caches key).isSome)
      (allowed : env.expires w key) : Drifted env w ⟨w.redis.expire key, .expired key :: w.log⟩
  | invoice {invoiceId status : String} (allowed : env.changes w invoiceId status) :
      Drifted env w ⟨w.redis, .invoice invoiceId status :: w.log⟩

def system (env : Environment ι) : System ι Op Op.Answer (World ι) :=
  ⟨fun i w op answer w' => Served env i w op answer w', Drifted env⟩

abbrev ServiceConfig (ι α : Type) := Config ι Op Op.Answer (World ι) α

/-- Where a worker is in its protocol, read off its own part of the log. -/
def view (P : ι → Protocol Op Op.Answer L) (start : ι → L) : List (Entry ι) → ι → L
  | [] => start
  | .call worker op answer :: rest => fun i =>
    if worker = i then (P i).advance (view P start rest i) op answer else view P start rest i
  | .expired _ :: rest => view P start rest
  | .invoice .. :: rest => view P start rest

@[simp] theorem view_own (P : ι → Protocol Op Op.Answer L) (start : ι → L) (log : List (Entry ι)) (i : ι) (op answer) :
    view P start (.call i op answer :: log) i = (P i).advance (view P start log i) op answer :=
  if_pos rfl

theorem view_other (P : ι → Protocol Op Op.Answer L) (start : ι → L) (log : List (Entry ι)) {i j : ι} (other : j ≠ i)
    (op answer) : view P start (.call i op answer :: log) j = view P start log j :=
  if_neg other.symm

/-- What a protocol admits does not matter to where its workers are. -/
theorem view_congr {P Q : ι → Protocol Op Op.Answer L} (same : ∀ i, (P i).advance = (Q i).advance) (start : ι → L) :
    view P start = view Q start := by
  funext log
  induction log with
  | nil => rfl
  | cons entry rest ih =>
    cases entry with
    | call worker op answer =>
      funext i
      simp only [view, ih, same]
    | expired | invoice => exact ih

theorem view_call (P : ι → Protocol Op Op.Answer L) (start : ι → L) (log : List (Entry ι)) (i : ι) (op answer) :
    view P start (.call i op answer :: log) =
      Function.update (view P start log) i ((P i).advance (view P start log i) op answer) := by
  funext j
  rcases eq_or_ne j i with rfl | other
  · rw [view_own, Function.update_self]
  · rw [view_other P start log other, Function.update_of_ne other]

omit [DecidableEq ι] in
/-- A step of one worker adds no call of another. -/
theorem listed_other {log : List (Entry ι)} {op asked : Op} {answer : op.Answer} {reply : asked.Answer} (other : j ≠ i) :
    .call j asked reply ∈ (.call i op answer :: log : List (Entry ι)) ↔ .call j asked reply ∈ log := by
  constructor
  · intro listed
    rcases List.mem_cons.mp listed with same | listed
    · cases same
      exact (other rfl).elim
    · exact listed
  · exact List.mem_cons_of_mem _

/-- What every answer keeps of a worker's state holds of it after every log. -/
theorem view_keeps (P : ι → Protocol Op Op.Answer L) (start : ι → L) (log : List (Entry ι)) {i : ι} {I : L → Prop}
    (begins : I (start i)) (advances : ∀ l op answer, I l → I ((P i).advance l op answer)) : I (view P start log i) := by
  induction log with
  | nil => exact begins
  | cons entry rest ih =>
    cases entry with
    | expired | invoice => exact ih
    | call j op answer =>
      rcases eq_or_ne i j with rfl | other
      · rw [view_own]
        exact advances _ _ _ ih
      · rw [view_other _ _ _ other]
        exact ih

@[simp] theorem view_expired (P : ι → Protocol Op Op.Answer L) (start : ι → L) (log : List (Entry ι)) (key : String) :
    view P start (.expired key :: log) = view P start log := rfl

@[simp] theorem view_invoice (P : ι → Protocol Op Op.Answer L) (start : ι → L) (log : List (Entry ι))
    (invoiceId status : String) :
    view P start (.invoice invoiceId status :: log) = view P start log := rfl

@[simp] theorem view_prod (P : ι → Protocol Op Op.Answer L) (Q : ι → Protocol Op Op.Answer M) (start : ι → L) (begin : ι → M)
    (log : List (Entry ι)) :
    view (fun i => (P i).prod (Q i)) (fun i => (start i, begin i)) log = fun i => (view P start log i, view Q begin log i) := by
  induction log with
  | nil => rfl
  | cons entry rest ih =>
    cases entry with
    | expired | invoice => exact ih
    | call worker op answer =>
      funext i
      simp only [view, ih]
      split <;> rfl

theorem tracks (env : Environment ι) (P : ι → Protocol Op Op.Answer L) (start : ι → L) :
    Tracks (system env) P (fun w => view P start w.log) where
  own served := by cases served <;> exact view_own ..
  others served other := by cases served <;> exact view_other _ _ _ other ..
  drift drifted := by cases drifted <;> rfl

/-- Answers of an outside that has nothing to say. -/
def Outside.silence : (call : Outside) → call.Answer
  | .now => 0
  | .uuid4 | .tokenUrlsafe _ => ""
  | .sleep _ => ()
  | .ping | .http _ | .fetchToken .. | .refreshToken .. => .error ""
  | .port _ => .ok .null

/-! Schedules. A move that finds nothing to do leaves the configuration as it is. -/

-- The workers of a small pool are numbered. The instance that `Fin` asks for is one
-- constant here, so that no list of moves carries a proof of its own.
instance numbered : @NeZero Nat Zero.ofOfNat0 3 := ⟨Nat.succ_ne_zero 2⟩

inductive Move (ι : Type) where
  | redis (worker : ι)
  | outside (worker : ι) (reply : (call : Outside) → call.Answer)
  | expire (key : String)
  | invoice (invoiceId status : String)

def play (c : ServiceConfig ι α) : Move ι → ServiceConfig ι α
  | .redis i => match c.pool i with
    | .await (.redis command) resume =>
      let (reply, redis) := c.shared.redis.exec i command
      ⟨⟨redis, .call i (.redis command) reply :: c.shared.log⟩, Function.update c.pool i (resume reply)⟩
    | _ => c
  | .outside i reply => match c.pool i with
    | .await (.outside call) resume =>
      ⟨⟨c.shared.redis, .call i (.outside call) (reply call) :: c.shared.log⟩,
        Function.update c.pool i (resume (reply call))⟩
    | _ => c
  | .expire key =>
    if (c.shared.redis.strings key).isSome ∨ (c.shared.redis.caches key).isSome then
      ⟨⟨c.shared.redis.expire key, .expired key :: c.shared.log⟩, c.pool⟩
    else c
  | .invoice invoiceId status =>
    ⟨⟨c.shared.redis, .invoice invoiceId status :: c.shared.log⟩, c.pool⟩

/-- The environment allows the move, and the run condition holds before it. -/
def Legal (env : Environment ι) (guard : ServiceConfig ι α → Option ι → Prop)
    (c : ServiceConfig ι α) : Move ι → Prop
  | .redis i => guard c (some i)
  | .outside i reply => guard c (some i) ∧ match c.pool i with
    | .await (.outside call) _ => env.allows c.shared i call (reply call)
    | _ => True
  | .expire key => guard c none ∧ env.expires c.shared key
  | .invoice invoiceId status => guard c none ∧ env.changes c.shared invoiceId status

def LegalAlong (env : Environment ι) (guard : ServiceConfig ι α → Option ι → Prop) :
    ServiceConfig ι α → List (Move ι) → Prop
  | _, [] => True
  | c, move :: rest => Legal env guard c move ∧ LegalAlong env guard (play c move) rest

theorem play_run {env : Environment ι} {guard : ServiceConfig ι α → Option ι → Prop}
    (c : ServiceConfig ι α) (move : Move ι) (legal : Legal env guard c move) :
    Run (system env) guard c (play c move) := by
  cases move with
  | redis i =>
    simp only [play]
    split
    · rename_i command resume pending
      exact (Run.refl c).snoc legal (.serve pending (Served.redis command))
    · exact .refl c
  | outside i reply =>
    obtain ⟨met, allowed⟩ := legal
    simp only [play]
    split
    · rename_i call resume pending
      rw [pending] at allowed
      exact (Run.refl c).snoc met (.serve pending (Served.outside allowed))
    · exact .refl c
  | expire key =>
    simp only [play]
    split
    · rename_i present
      exact (Run.refl c).snoc legal.1 (.drift (Drifted.expire present legal.2))
    · exact .refl c
  | invoice invoiceId status => exact (Run.refl c).snoc legal.1 (.drift (Drifted.invoice legal.2))

theorem plays_run {env : Environment ι} {guard : ServiceConfig ι α → Option ι → Prop}
    {c : ServiceConfig ι α} {moves : List (Move ι)} (legal : LegalAlong env guard c moves) :
    Run (system env) guard c (moves.foldl play c) := by
  induction moves generalizing c with
  | nil => exact .refl c
  | cons move rest ih => exact (play_run c move legal.1).trans (ih legal.2)

/-- What the move needs from the outside is allowed at any moment. -/
def Move.Allowed (env : Environment ι) : Move ι → Prop
  | .redis _ => True
  | .outside i reply => ∀ w call, env.allows w i call (reply call)
  | .expire key => ∀ w, env.expires w key
  | .invoice invoiceId status => ∀ w, env.changes w invoiceId status

theorem allowed_legal {env : Environment ι} (c : ServiceConfig ι α) {moves : List (Move ι)}
    (allowed : ∀ move ∈ moves, move.Allowed env) : LegalAlong env (fun _ _ => True) c moves := by
  induction moves generalizing c with
  | nil => trivial
  | cons move rest ih =>
    have first : move.Allowed env := allowed move List.mem_cons_self
    refine ⟨?_, ih _ fun later member => allowed later (List.mem_cons_of_mem _ member)⟩
    cases move with
    | redis => trivial
    | expire | invoice => exact ⟨trivial, first _⟩
    | outside i reply =>
      refine ⟨trivial, ?_⟩
      split
      · exact first ..
      · trivial

/-- Every schedule is legal where anything may happen. -/
theorem free_legal (c : ServiceConfig ι α) (moves : List (Move ι)) :
    LegalAlong (.free ι) (fun _ _ => True) c moves := by
  refine allowed_legal c fun move _ => ?_
  cases move with
  | redis => trivial
  | expire => exact fun _ => trivial
  | outside => exact fun _ _ => trivial
  | invoice => exact fun _ => trivial

end OpenClaw
