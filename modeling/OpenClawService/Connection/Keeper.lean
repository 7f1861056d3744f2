import OpenClawService.Adapters.Xero

/-! What asking for a valid Xero token means to any protocol: which awaits it
makes, and what its result can be trusted to be. A protocol that keeps its own
account of tokens meets the rules below; the walk through the code is done once. -/
namespace OpenClaw.Connection
open Interleaving

/-- An account of tokens: where the rules apply, which tokens are trusted, and
whether the provider may be reported unavailable. -/
structure Stance (L : Type) where
  inside : L → Prop
  trusted : L → TokenSet → Prop
  failing : L → Prop

namespace Stance
variable {L : Type} {s : Stance L}

/-- Nothing that was known is lost. -/
structure Keeps (s : Stance L) (l l' : L) : Prop where
  inside : s.inside l'
  trusted : s.trusted l token → s.trusted l' token
  failing : s.failing l → s.failing l'

theorem Keeps.refl (inside : s.inside l) : s.Keeps l l := ⟨inside, id, id⟩

theorem Keeps.trans (first : s.Keeps l l') (second : s.Keeps l' l'') : s.Keeps l l'' :=
  ⟨second.inside, fun known => second.trusted (first.trusted known), fun known => second.failing (first.failing known)⟩

/-- A result that is good, or an exception; an unavailable provider is accounted for. -/
def Yields (s : Stance L) (good : α → L → Prop) (l : L) : Except Exc α → L → Prop
  | .ok value, l' => s.Keeps l l' ∧ good value l'
  | .error (.providerUnavailableError _), l' => s.Keeps l l' ∧ s.failing l'
  | .error _, l' => s.Keeps l l'

theorem Yields.keeps {result : Except Exc α} (yields : s.Yields good l result l') : s.Keeps l l' := by
  cases result with
  | ok value => exact yields.1
  | error error =>
    cases error with
    | providerUnavailableError text => exact yields.1
    | _ => exact yields

theorem Yields.after {result : Except Exc α} (kept : s.Keeps l l') (yields : s.Yields good l' result l'') :
    s.Yields good l result l'' := by
  cases result with
  | ok value => exact ⟨kept.trans yields.1, yields.2⟩
  | error error =>
    cases error with
    | providerUnavailableError text => exact ⟨kept.trans yields.1, yields.2⟩
    | _ => exact kept.trans yields

/-- An exception is the same whatever the result would have been. -/
theorem Yields.raised {α β : Type} {good : α → L → Prop} {other : β → L → Prop} {exc : Exc}
    (yields : s.Yields good l (.error exc) l') : s.Yields other l (.error exc) l' := by
  cases exc <;> exact yields

theorem Yields.later {result : Except Exc α} (yields : s.Yields good l result l') (kept : s.Keeps l' l'')
    (stays : ∀ value, good value l' → good value l'') : s.Yields good l result l'' := by
  cases result with
  | ok value => exact ⟨yields.1.trans kept, stays value yields.2⟩
  | error error =>
    cases error with
    | providerUnavailableError text => exact ⟨yields.1.trans kept, kept.failing yields.2⟩
    | _ => exact yields.trans kept

theorem Yields.bind {P : Protocol Op Op.Answer L} {α β : Type} {good : α → L → Prop} {good' : β → L → Prop}
    {program : Async α} {next : α → Async β} (first : Meets P program l (s.Yields good l))
    (rest : ∀ value l', s.Keeps l l' → good value l' → Meets P (next value) l' (s.Yields good' l')) :
    Meets P (program >>= next) l (s.Yields good' l) := by
  rw [Meets.bind_iff]
  apply first.mono
  rintro (error | value) l' yields
  · exact yields.raised
  · exact (rest value l' yields.1 yields.2).mono fun _ _ later => later.after yields.1

end Stance

/-- Awaits of a refresh that deal with its lock and with the clock. -/
def Plain (connectionId : String) : Op → Prop
  | .outside .now | .outside .uuid4 | .outside (.sleep _) | .redis .unwatch => True
  | .redis (.setNx k _ _) | .redis (.watch k) | .redis (.get k) | .redis (.execDel k) =>
    k = refreshLockKey connectionId
  | _ => False

variable [Library]

/-- The rules of the token store and of the refresh lock: every await is admitted and accounted for. -/
structure Holder {L : Type} (P : Protocol Op Op.Answer L) (connectionId : String) (s : Stance L) : Prop where
  plain : s.inside l → Plain connectionId op → P.admits l op ∧ ∀ answer, P.expects l op answer →
    s.Keeps l (P.advance l op answer)
  load : s.inside l → P.admits l (.redis (.hgetall (TokenStore.key connectionId))) ∧
    ∀ hash, P.expects l (.redis (.hgetall (TokenStore.key connectionId))) hash →
      s.Keeps l (P.advance l (.redis (.hgetall (TokenStore.key connectionId))) hash) ∧
      ∀ token, TokenStore.decode hash = .ok (some token) →
        s.trusted (P.advance l (.redis (.hgetall (TokenStore.key connectionId))) hash) token
  store : s.inside l → s.trusted l token →
    P.admits l (.redis (.hset (TokenStore.key connectionId) (TokenStore.toMapping token))) ∧
    ∀ answer, P.expects l (.redis (.hset (TokenStore.key connectionId) (TokenStore.toMapping token))) answer →
      s.Keeps l (P.advance l (.redis (.hset (TokenStore.key connectionId) (TokenStore.toMapping token))) answer)

/-- The rules of a Xero refresh. -/
structure Keeper {L : Type} (P : Protocol Op Op.Answer L) (settings : Settings) (connectionId : String)
    (s : Stance L) : Prop extends Holder P connectionId s where
  refresh : s.inside l → s.trusted l token → token.refreshToken = some refreshToken →
    P.admits l (.outside (.refreshToken settings.xero XeroOAuth.tokenUrl refreshToken)) ∧
    ∀ answer, P.expects l (.outside (.refreshToken settings.xero XeroOAuth.tokenUrl refreshToken)) answer →
      s.Keeps l (P.advance l (.outside (.refreshToken settings.xero XeroOAuth.tokenUrl refreshToken)) answer) ∧
      (∀ raw now renewed, answer = .ok raw → XeroOAuth.readTokenSet raw (.ofText token.xeroTenantId) now = .ok renewed →
        s.trusted (P.advance l (.outside (.refreshToken settings.xero XeroOAuth.tokenUrl refreshToken)) answer) renewed) ∧
      ∀ text, answer = .error text → XeroOAuth.rejects text = false →
        s.failing (P.advance l (.outside (.refreshToken settings.xero XeroOAuth.tokenUrl refreshToken)) answer)

/-- A token set, if there is one, is trusted. -/
def Stance.Trusts {L : Type} (s : Stance L) (token : Option TokenSet) (l : L) : Prop :=
  ∀ held, token = some held → s.trusted l held

omit [Library] in
theorem Stance.Trusts.stays {L : Type} {s : Stance L} {token : Option TokenSet} {l l' : L} (kept : s.Keeps l l')
    (trusts : s.Trusts token l) : s.Trusts token l' := fun held found => kept.trusted (trusts held found)

namespace Holder
variable {L : Type} {P : Protocol Op Op.Answer L} {connectionId : String} {s : Stance L} {l : L} {α : Type}

theorem plain_meets (holder : Holder P connectionId s) (inside : s.inside l) {call : Outside}
    (plain : Plain connectionId (.outside call)) :
    Meets P (Async.outside call) l (s.Yields (fun _ _ => True) l) := by
  obtain ⟨admitted, kept⟩ := holder.plain inside plain
  exact ⟨admitted, fun answer expected => ⟨kept answer expected, trivial⟩⟩

theorem redis_meets (holder : Holder P connectionId s) (inside : s.inside l) {command : Command}
    (plain : Plain connectionId (.redis command)) :
    Meets P (Async.redis command) l (s.Yields (fun _ _ => True) l) := by
  obtain ⟨admitted, kept⟩ := holder.plain inside plain
  exact ⟨admitted, fun answer expected => ⟨kept answer expected, trivial⟩⟩

theorem load_meets (holder : Holder P connectionId s) (inside : s.inside l) :
    Meets P (TokenStore.load connectionId) l (s.Yields s.Trusts l) := by
  obtain ⟨admitted, loaded⟩ := holder.load inside
  rw [TokenStore.load_meets]
  refine ⟨admitted, fun hash expected => ?_⟩
  obtain ⟨kept, trusted⟩ := loaded hash expected
  cases decoded : TokenStore.decode hash with
  | ok token =>
    refine ⟨kept, ?_⟩
    rintro held rfl
    exact trusted held decoded
  | error error =>
    cases error with
    | providerUnavailableError text => exact (TokenStore.decode_internal.ne rfl decoded).elim
    | _ => exact kept

theorem store_meets (holder : Holder P connectionId s) (inside : s.inside l) (trusted : s.trusted l token) :
    Meets P (TokenStore.store connectionId token) l (s.Yields (fun _ _ => True) l) := by
  obtain ⟨admitted, kept⟩ := holder.store inside trusted
  exact ⟨admitted, fun answer expected => ⟨kept answer expected, trivial⟩⟩

theorem expired_meets (holder : Holder P connectionId s) (inside : s.inside l) (token : TokenSet)
    (bufferSeconds : Int) : Meets P (token.isExpiredOrNear bufferSeconds) l (s.Yields (fun _ _ => True) l) := by
  have clock : Plain connectionId (.outside .now) := trivial
  apply Stance.Yields.bind (holder.plain_meets inside clock)
  intro now l' kept _
  exact ⟨.refl kept.inside, trivial⟩

theorem aexit_meets (holder : Holder P connectionId s) (inside : s.inside l) (context : Lock.Context) :
    Meets P (Lock.aexit (refreshLockKey connectionId) context) l (s.Yields (fun _ _ => True) l) := by
  unfold Lock.aexit
  cases context.acquired with
  | false => exact ⟨.refl inside, trivial⟩
  | true =>
    have watch : Plain connectionId (.redis (.watch (refreshLockKey connectionId))) := rfl
    have get : Plain connectionId (.redis (.get (refreshLockKey connectionId))) := rfl
    have execDel : Plain connectionId (.redis (.execDel (refreshLockKey connectionId))) := rfl
    have unwatch : Plain connectionId (.redis .unwatch) := trivial
    apply Stance.Yields.bind (holder.redis_meets inside watch)
    intro _ l₁ kept₁ _
    apply Stance.Yields.bind (holder.redis_meets kept₁.inside get)
    intro current l₂ kept₂ _
    split
    · apply Stance.Yields.bind (holder.redis_meets kept₂.inside execDel)
      intro _ l₃ kept₃ _
      exact ⟨.refl kept₃.inside, trivial⟩
    · exact holder.redis_meets kept₂.inside unwatch

/-- The lock hands on what its body yields. -/
theorem acquire_meets (holder : Holder P connectionId s) (inside : s.inside l) {body : Bool → Async α}
    {good : α → L → Prop} (stays : ∀ value l l', s.Keeps l l' → good value l → good value l')
    (held : ∀ acquired l', s.inside l' → Meets P (body acquired) l' (s.Yields good l')) :
    Meets P (Lock.acquire (refreshLockKey connectionId) lockTtlSeconds body) l (s.Yields good l) := by
  have uuid4 : Plain connectionId (.outside .uuid4) := trivial
  have setNx (token : String) : Plain connectionId (.redis (.setNx (refreshLockKey connectionId) token lockTtlSeconds)) :=
    rfl
  have entered : Meets P (Lock.aenter (refreshLockKey connectionId) lockTtlSeconds) l (s.Yields (fun _ _ => True) l) := by
    apply Stance.Yields.bind (holder.plain_meets inside uuid4)
    intro token l₁ kept₁ _
    apply Stance.Yields.bind (holder.redis_meets kept₁.inside (setNx token))
    intro _ l₂ kept₂ _
    exact ⟨.refl kept₂.inside, trivial⟩
  apply Stance.Yields.bind entered
  intro context l₁ kept₁ _
  rw [Meets.bind_iff, Async.outcome_meets]
  apply (held context.acquired l₁ kept₁.inside).mono
  intro result l₂ yields
  rw [Meets.andThen_ok, Meets.bind_iff]
  apply (holder.aexit_meets yields.keeps.inside context).mono
  rintro (exc | _) l₃ left
  · exact left.raised.after yields.keeps
  · rw [Meets.andThen_ok, Async.ofExcept_meets]
    exact yields.later left.1 fun value => stays value _ _ left.1

theorem usable_meets (holder : Holder P connectionId s) (inside : s.inside l) (trusts : s.Trusts token l) :
    Meets P (XeroTokenManager.usable settings token) l (s.Yields s.Trusts l) := by
  cases token with
  | none => exact ⟨.refl inside, trusts⟩
  | some token =>
    apply Stance.Yields.bind (holder.expired_meets inside token _)
    intro expired l' kept _
    cases expired with
    | true => exact ⟨.refl kept.inside, nofun⟩
    | false =>
      refine ⟨.refl kept.inside, ?_⟩
      rintro held ⟨⟩
      exact kept.trusted (trusts token rfl)

theorem rawToTokenSet_meets (holder : Holder P connectionId s) (inside : s.inside l)
    (issued : ∀ now token, XeroOAuth.readTokenSet raw tenant now = .ok token → s.trusted l token) :
    Meets P (XeroOAuth.rawToTokenSet raw tenant) l (s.Yields (fun token l => s.trusted l token) l) := by
  have clock : Plain connectionId (.outside .now) := trivial
  obtain ⟨admitted, kept⟩ := holder.plain inside clock
  have yields {l' : L} (kept : s.Keeps l l') (now : Int) :
      s.Yields (fun token l => s.trusted l token) l (XeroOAuth.readTokenSet raw tenant now) l' := by
    cases read : XeroOAuth.readTokenSet raw tenant now with
    | error exc =>
      cases exc with
      | providerUnavailableError text => exact (XeroOAuth.readTokenSet_internal.ne rfl read).elim
      | _ => exact kept
    | ok token => exact ⟨kept, kept.trusted (issued now token read)⟩
  exact XeroOAuth.rawToTokenSet_meets admitted (fun now => yields (.refl inside) now)
    fun now expected => yields (kept now expected) now

end Holder

namespace Keeper
variable {L : Type} {P : Protocol Op Op.Answer L} {settings : Settings} {connectionId : String} {s : Stance L} {l : L}

theorem refreshToken_meets (keeper : Keeper P settings connectionId s) (inside : s.inside l)
    (trusted : s.Trusts token l) :
    Meets P (XeroOAuth.refreshToken settings token) l (s.Yields (fun token l => s.trusted l token) l) := by
  unfold XeroOAuth.refreshToken
  cases token with
  | none => exact Stance.Keeps.refl inside
  | some current =>
    cases present : current.refreshToken.bind orNone with
    | none =>
      simp only [present]
      exact Stance.Keeps.refl inside
    | some refreshToken =>
      obtain ⟨text, held, kept⟩ := Option.bind_eq_some_iff.mp present
      rw [orNone_eq_some kept] at held
      obtain ⟨admitted, answered⟩ := keeper.refresh inside (trusted current rfl) held
      simp only [present, Meets.bind_iff, Async.outside_meets, Meets.andThen_ok, Async.raising_meets]
      refine ⟨admitted, fun answer expected => ?_⟩
      obtain ⟨kept, issued, failed⟩ := answered answer expected
      cases answer with
      | ok raw =>
        exact (keeper.rawToTokenSet_meets kept.inside fun now token read => issued raw now token rfl read).mono
          fun _ _ later => later.after kept
      | error text =>
        simp only [Except.mapError, Meets.andThen_error, XeroOAuth.refreshFailure]
        by_cases rejected : XeroOAuth.rejects text = true
        · simp only [rejected, if_true]
          exact kept
        · simp only [rejected]
          exact ⟨kept, failed text rfl (by simpa using rejected)⟩

theorem refreshHeld_meets (keeper : Keeper P settings connectionId s) (inside : s.inside l) :
    Meets P (XeroTokenManager.refreshHeld settings connectionId) l (s.Yields (fun token l => s.trusted l token) l) := by
  have renew {l : L} (token : Option TokenSet) (inside : s.inside l) (trusted : s.Trusts token l) :
      Meets P (XeroTokenManager.refreshHeld.renew settings connectionId token) l
        (s.Yields (fun token l => s.trusted l token) l) := by
    apply Stance.Yields.bind (keeper.refreshToken_meets inside trusted)
    intro newToken l' kept issued
    apply Stance.Yields.bind (keeper.store_meets kept.inside issued)
    intro _ l'' kept' _
    exact ⟨.refl kept'.inside, kept'.trusted issued⟩
  apply Stance.Yields.bind (keeper.load_meets inside)
  intro token l' kept trusted
  cases token with
  | none => exact renew none kept.inside trusted
  | some current =>
    apply Stance.Yields.bind (keeper.expired_meets kept.inside current _)
    intro expired l'' kept' _
    cases expired with
    | true =>
      refine renew (some current) kept'.inside ?_
      rintro held ⟨⟩
      exact kept'.trusted (trusted current rfl)
    | false => exact ⟨.refl kept'.inside, kept'.trusted (trusted current rfl)⟩

theorem refreshAttempts_meets (keeper : Keeper P settings connectionId s) (attempts : Nat) (inside : s.inside l) :
    Meets P (XeroTokenManager.refreshAttempts settings connectionId attempts) l
      (s.Yields (fun token l => s.trusted l token) l) := by
  induction attempts generalizing l with
  | zero => exact Stance.Keeps.refl inside
  | succ attempts ih =>
    unfold XeroTokenManager.refreshAttempts
    have held (acquired : Bool) (l' : L) (inside : s.inside l') : Meets P
        (if acquired then some <$> XeroTokenManager.refreshHeld settings connectionId else pure none) l'
        (s.Yields s.Trusts l') := by
      cases acquired with
      | false => exact ⟨.refl inside, nofun⟩
      | true =>
        rw [if_pos rfl, Meets.map_iff]
        apply (keeper.refreshHeld_meets inside).mono
        rintro (exc | token) l'' yields
        · exact yields.raised
        · refine ⟨yields.1, ?_⟩
          rintro held ⟨⟩
          exact yields.2
    apply Stance.Yields.bind (keeper.acquire_meets inside (fun _ _ _ kept trusts => trusts.stays kept) held)
    intro refreshed l₁ kept₁ trusts
    cases refreshed with
    | some token => exact ⟨.refl kept₁.inside, trusts token rfl⟩
    | none =>
      have sleep : Plain connectionId (.outside (.sleep contentionSleepMilliseconds)) := trivial
      apply Stance.Yields.bind (keeper.plain_meets kept₁.inside sleep)
      intro _ l₂ kept₂ _
      apply Stance.Yields.bind (keeper.load_meets kept₂.inside)
      intro loaded l₃ kept₃ trusts
      apply Stance.Yields.bind (keeper.usable_meets kept₃.inside trusts)
      intro usable l₄ kept₄ trusts
      cases usable with
      | some token => exact ⟨.refl kept₄.inside, trusts token rfl⟩
      | none => exact ih kept₄.inside

/-- The one fact about `get_valid_token` that its callers use. -/
theorem getValidToken_meets (keeper : Keeper P settings connectionId s) (inside : s.inside l) :
    Meets P (XeroTokenManager.getValidToken settings connectionId) l (s.Yields (fun token l => s.trusted l token) l) := by
  apply Stance.Yields.bind (keeper.load_meets inside)
  intro loaded l₁ kept₁ trusts
  cases loaded with
  | none => exact Stance.Keeps.refl kept₁.inside
  | some token =>
    apply Stance.Yields.bind (keeper.expired_meets kept₁.inside token _)
    intro expired l₂ kept₂ _
    cases expired with
    | true => exact keeper.refreshAttempts_meets _ kept₂.inside
    | false => exact ⟨.refl kept₂.inside, kept₂.trusted (trusts token rfl)⟩

end Keeper

/-- Awaits that leave the caches alone, call no API and delete no token. -/
def Tame (connectionId : String) : Op → Prop
  | .outside (.http _) | .redis (.delHash _) | .redis (.setJson ..) => False
  | .redis (.hset k mapping) => k = TokenStore.key connectionId ∧ ∃ token, mapping = TokenStore.toMapping token
  | _ => True

theorem Plain.tame {op : Op} (plain : Plain connectionId op) : Tame connectionId op := by
  cases op with
  | redis command =>
    cases command with
    | hset | delHash | setJson => exact plain.elim
    | _ => trivial
  | outside call =>
    cases call with
    | http request => exact plain.elim
    | _ => trivial

/-- A protocol that ignores tame awaits keeps no account of tokens. -/
theorem tame_keeper {L : Type} {P : Protocol Op Op.Answer L} {settings : Settings} {connectionId : String}
    {inside : L → Prop} (admitted : ∀ l op, inside l → Tame connectionId op → P.admits l op)
    (kept : ∀ l op answer, inside l → Tame connectionId op → inside (P.advance l op answer)) :
    Keeper P settings connectionId ⟨inside, fun _ _ => True, fun _ => True⟩ := by
  have tame (l : L) (op : Op) (within : inside l) (tame : Tame connectionId op) : P.admits l op ∧ ∀ answer,
      P.expects l op answer → Stance.Keeps ⟨inside, fun _ _ => True, fun _ => True⟩ l (P.advance l op answer) :=
    ⟨admitted l op within tame, fun answer _ => ⟨kept l op answer within tame, id, id⟩⟩
  constructor
  case toHolder =>
    refine ⟨fun within plain => tame _ _ within plain.tame, ?_, fun within _ => tame _ _ within ⟨rfl, _, rfl⟩⟩
    intro l within
    obtain ⟨admitted, kept⟩ := tame l (.redis (.hgetall (TokenStore.key connectionId))) within trivial
    exact ⟨admitted, fun hash expected => ⟨kept hash expected, fun _ _ => trivial⟩⟩
  case refresh =>
    intro l token refreshToken within _ _
    obtain ⟨admitted, kept⟩ :=
      tame l (.outside (.refreshToken settings.xero XeroOAuth.tokenUrl refreshToken)) within trivial
    exact ⟨admitted, fun answer expected => ⟨kept answer expected, fun _ _ _ _ _ => trivial, fun _ _ _ => trivial⟩⟩

end OpenClaw.Connection
