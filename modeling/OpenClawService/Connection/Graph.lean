import OpenClawService.Adapters.Microsoft
import OpenClawService.Connection.Keeper

/-! What asking for a Microsoft token and posting to a channel mean to any
protocol, by the rules of the token store and one more for the refresh. -/
namespace OpenClaw.Connection
open Interleaving
variable [Library]

/-- The rules of a Microsoft refresh. -/
structure GraphKeeper {L : Type} (P : Protocol Op Op.Answer L) (settings : Settings) (connectionId : String)
    (s : Stance L) : Prop extends Holder P connectionId s where
  renew : s.inside l → s.trusted l token → token.refreshToken = some refreshToken →
    P.admits l (.outside (.http (MSDeviceCode.refreshRequest settings refreshToken))) ∧
    ∀ answer, P.expects l (.outside (.http (MSDeviceCode.refreshRequest settings refreshToken))) answer →
      s.Keeps l (P.advance l (.outside (.http (MSDeviceCode.refreshRequest settings refreshToken))) answer) ∧
      ∀ response body now renewed, answer = .ok response → response.isSuccess = true → response.parse = .ok body →
        MSDeviceCode.readTokenSet body now = .ok renewed →
        s.trusted (P.advance l (.outside (.http (MSDeviceCode.refreshRequest settings refreshToken))) answer) renewed
  unavailable : s.inside l → s.failing l

/-- The access token of a trusted token set. -/
def Stance.Access {L : Type} (s : Stance L) (text : String) (l : L) : Prop :=
  ∃ token, s.trusted l token ∧ token.accessToken = text

omit [Library] in
theorem Stance.Access.stays {L : Type} {s : Stance L} {text : String} {l l' : L} (kept : s.Keeps l l')
    (access : s.Access text l) : s.Access text l' := by
  obtain ⟨token, trusted, same⟩ := access
  exact ⟨token, kept.trusted trusted, same⟩

namespace GraphKeeper
variable {L : Type} {P : Protocol Op Op.Answer L} {settings : Settings} {connectionId : String} {s : Stance L} {l : L}
  {α : Type} {good : α → L → Prop}

omit [Library] in
/-- An exception ends in the account it was raised in. -/
theorem raised (inside : s.inside l) (failing : s.failing l) (exc : Exc) : s.Yields good l (.error exc) l := by
  cases exc with
  | providerUnavailableError text => exact ⟨.refl inside, failing⟩
  | _ => exact .refl inside

theorem ofExcept_meets (keeper : GraphKeeper P settings connectionId s) (inside : s.inside l) {outcome : Except Exc α}
    (succeeded : ∀ value, outcome = .ok value → good value l) : Meets P (Async.ofExcept outcome) l (s.Yields good l) := by
  rw [Async.ofExcept_meets]
  cases outcome with
  | ok value => exact ⟨.refl inside, succeeded value rfl⟩
  | error exc => exact raised inside (keeper.unavailable inside) exc

theorem parseTokenSet_meets (keeper : GraphKeeper P settings connectionId s) (inside : s.inside l)
    (trusted : ∀ now token, MSDeviceCode.readTokenSet body now = .ok token → s.trusted l token) :
    Meets P (MSDeviceCode.parseTokenSet body) l (s.Yields (fun token l => s.trusted l token) l) := by
  have clock : Plain connectionId (.outside .now) := trivial
  apply Stance.Yields.bind (keeper.plain_meets inside clock)
  intro now l' kept _
  exact keeper.ofExcept_meets kept.inside fun token read => kept.trusted (trusted now token read)

theorem refreshToken_meets (keeper : GraphKeeper P settings connectionId s) (inside : s.inside l)
    (trusted : s.trusted l token) :
    Meets P (MSDeviceCode.refreshToken settings token) l (s.Yields (fun token l => s.trusted l token) l) := by
  unfold MSDeviceCode.refreshToken
  cases held : token.refreshToken with
  | none => exact Stance.Keeps.refl inside
  | some refreshToken =>
    obtain ⟨admitted, answered⟩ := keeper.renew inside trusted held
    rw [Meets.bind_iff, Async.http_meets]
    refine ⟨admitted, fun answer expected => ?_⟩
    obtain ⟨kept, issued⟩ := answered answer expected
    cases answer with
    | error text => exact kept
    | ok response =>
      simp only [Except.mapError, Meets.andThen_ok]
      by_cases success : response.isSuccess = true
      · simp only [success, Bool.not_true, Bool.false_eq_true, if_false, Meets.bind_iff, Async.ofExcept_meets]
        cases parsed : response.parse with
        | error exc => exact (raised kept.inside (keeper.unavailable kept.inside) exc).after kept
        | ok body =>
          exact (keeper.parseTokenSet_meets kept.inside fun now token read =>
            issued response body now token rfl success parsed read).mono fun _ _ later => later.after kept
      · simp only [success, Bool.not_false, if_true, Meets.bind_iff, Async.ofExcept_meets]
        cases response.parse with
        | error exc => exact (raised kept.inside (keeper.unavailable kept.inside) exc).after kept
        | ok body =>
          rw [Meets.andThen_ok, Meets.bind_iff, Async.ofExcept_meets]
          cases body.get "error" (.str "") with
          | error exc => exact (raised kept.inside (keeper.unavailable kept.inside) exc).after kept
          | ok error => exact (raised kept.inside (keeper.unavailable kept.inside) _).after kept

theorem cachedToken_meets (keeper : GraphKeeper P settings connectionId s) (inside : s.inside l) (force : Bool) :
    Meets P (MSTokenManager.cachedToken settings connectionId force) l (s.Yields s.Trusts l) := by
  cases force with
  | true => exact ⟨.refl inside, nofun⟩
  | false =>
    apply Stance.Yields.bind (keeper.load_meets inside)
    intro loaded l' kept trusts
    exact keeper.usable_meets kept.inside trusts

theorem refreshHeld_meets (keeper : GraphKeeper P settings connectionId s) (inside : s.inside l) (force : Bool) :
    Meets P (MSTokenManager.refreshHeld settings connectionId force) l (s.Yields s.Access l) := by
  apply Stance.Yields.bind (keeper.cachedToken_meets inside force)
  intro cached l₁ kept₁ trusts
  cases cached with
  | some token => exact ⟨.refl kept₁.inside, token, trusts token rfl, rfl⟩
  | none =>
    apply Stance.Yields.bind (keeper.load_meets kept₁.inside)
    intro loaded l₂ kept₂ trusts
    cases loaded with
    | none => exact Stance.Keeps.refl kept₂.inside
    | some current =>
      apply Stance.Yields.bind (keeper.refreshToken_meets kept₂.inside (trusts current rfl))
      intro renewed l₃ kept₃ trusted
      apply Stance.Yields.bind (keeper.store_meets kept₃.inside trusted)
      intro _ l₄ kept₄ _
      exact ⟨.refl kept₄.inside, renewed, kept₄.trusted trusted, rfl⟩

theorem refreshAttempts_meets (keeper : GraphKeeper P settings connectionId s) (force : Bool) (attempts : Nat)
    (inside : s.inside l) :
    Meets P (MSTokenManager.refreshAttempts settings connectionId force attempts) l (s.Yields s.Access l) := by
  induction attempts generalizing l with
  | zero => exact Stance.Keeps.refl inside
  | succ attempts ih =>
    unfold MSTokenManager.refreshAttempts
    have held (acquired : Bool) (l' : L) (inside : s.inside l') : Meets P
        (if acquired then some <$> MSTokenManager.refreshHeld settings connectionId force else pure none) l'
        (s.Yields (fun found l => ∀ text, found = some text → s.Access text l) l') := by
      cases acquired with
      | false => exact ⟨.refl inside, nofun⟩
      | true =>
        rw [if_pos rfl, Meets.map_iff]
        apply (keeper.refreshHeld_meets inside force).mono
        rintro (exc | text) l'' yields
        · exact yields.raised
        · refine ⟨yields.1, ?_⟩
          rintro other ⟨⟩
          exact yields.2
    apply Stance.Yields.bind (keeper.acquire_meets inside
      (fun _ _ _ kept access text found => (access text found).stays kept) held)
    intro refreshed l₁ kept₁ access
    cases refreshed with
    | some text => exact ⟨.refl kept₁.inside, access text rfl⟩
    | none =>
      have sleep : Plain connectionId (.outside (.sleep contentionSleepMilliseconds)) := trivial
      apply Stance.Yields.bind (keeper.plain_meets kept₁.inside sleep)
      intro _ l₂ kept₂ _
      apply Stance.Yields.bind (keeper.cachedToken_meets kept₂.inside force)
      intro cached l₃ kept₃ trusts
      cases cached with
      | some token => exact ⟨.refl kept₃.inside, token, trusts token rfl, rfl⟩
      | none => exact ih kept₃.inside

theorem getToken_meets (keeper : GraphKeeper P settings connectionId s) (inside : s.inside l) (force : Bool) :
    Meets P (MSTokenManager.getToken settings connectionId force) l (s.Yields s.Access l) := by
  cases force with
  | true => exact keeper.refreshAttempts_meets true _ inside
  | false =>
    apply Stance.Yields.bind (keeper.load_meets inside)
    intro loaded l₁ kept₁ trusts
    cases loaded with
    | none => exact Stance.Keeps.refl kept₁.inside
    | some cached =>
      apply Stance.Yields.bind (keeper.expired_meets kept₁.inside cached _)
      intro expired l₂ kept₂ _
      cases expired with
      | true => exact keeper.refreshAttempts_meets false _ kept₂.inside
      | false => exact ⟨.refl kept₂.inside, cached, kept₂.trusted (trusts cached rfl), rfl⟩

/-- Posting with a trusted access token is admitted and loses nothing. -/
def Posts (P : Protocol Op Op.Answer L) (s : Stance L) (teamId channelId : String) (payload : Json) : Prop :=
  ∀ l token, s.inside l → s.trusted l token →
    P.admits l (.outside (.http (MSGraph.postRequest teamId channelId payload token.accessToken))) ∧
    ∀ answer, P.expects l (.outside (.http (MSGraph.postRequest teamId channelId payload token.accessToken))) answer →
      s.Keeps l (P.advance l (.outside (.http (MSGraph.postRequest teamId channelId payload token.accessToken))) answer)

theorem attempt_meets (keeper : GraphKeeper P settings connectionId s) {payload : Json}
    (posts : Posts P s teamId channelId payload) (inside : s.inside l) (first : Bool) :
    Meets P (MSGraph.attempt settings connectionId teamId channelId payload first) l (s.Yields (fun _ _ => True) l) := by
  apply Stance.Yields.bind (keeper.getToken_meets inside _)
  rintro text l₁ kept₁ ⟨token, trusted, rfl⟩
  obtain ⟨admitted, answered⟩ := posts l₁ token kept₁.inside trusted
  rw [Meets.bind_iff, Async.http_meets]
  refine ⟨admitted, fun answer expected => ?_⟩
  have kept₂ := answered answer expected
  cases answer with
  | error text => exact kept₂
  | ok response =>
    simp only [Except.mapError, Meets.andThen_ok]
    split
    · exact ⟨kept₂, trivial⟩
    · split
      · rw [Meets.throw_iff]
        exact (raised kept₂.inside (keeper.unavailable kept₂.inside) _).after kept₂
      · rw [Meets.map_iff, Async.ofExcept_meets]
        cases response.parse with
        | error exc => exact (raised kept₂.inside (keeper.unavailable kept₂.inside) exc).after kept₂
        | ok body => exact ⟨kept₂, trivial⟩

theorem postToChannel_meets (keeper : GraphKeeper P settings connectionId s) {payload : Json}
    (posts : Posts P s teamId channelId payload) (inside : s.inside l) :
    Meets P (MSGraph.postToChannel settings connectionId teamId channelId payload) l (s.Yields (fun _ _ => True) l) := by
  apply Stance.Yields.bind (keeper.attempt_meets posts inside true)
  intro body l₁ kept₁ _
  cases body with
  | some body => exact ⟨.refl kept₁.inside, trivial⟩
  | none =>
    apply Stance.Yields.bind (keeper.attempt_meets posts kept₁.inside false)
    intro body l₂ kept₂ _
    cases body with
    | some body => exact ⟨.refl kept₂.inside, trivial⟩
    | none => exact ⟨.refl kept₂.inside, keeper.unavailable kept₂.inside⟩

end GraphKeeper
end OpenClaw.Connection
