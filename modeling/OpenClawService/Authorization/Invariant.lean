import OpenClawService.Authorization.States

/-! The invariant of the authorization: a saved state stays in its key until it
expires or one callback takes it, and whoever takes it is the only one. -/
namespace OpenClaw.Authorization
open Interleaving OAuthStateStore
variable {ι : Type} [DecidableEq ι]

/-- What holds of one request. -/
structure Sound (redis : Redis ι) (log : List (Entry ι)) (i : ι) (p : Phase) : Prop where
  drawn : p = .drawn connectionId state → Drawn log state ∧ ∀ other, ¬ Issued log state other
  watch : p.popping = some state → ∃ seen, redis.watched i = some (key state, seen)
  held : p = .read state (some connectionId) → Issued log state connectionId
  intact : p = .read state value → redis.watched i = some (key state, redis.touched (key state)) →
    redis.strings (key state) = value
  redeemed : p.redeemed = some (state, connectionId) →
    Issued log state connectionId ∧ redis.strings (key state) = none

/-- A pop begun after the save is still under way and will go through. -/
def Waiting (redis : Redis ι) (log : List (Entry ι)) (state connectionId : String) (i : ι) (p : Phase) : Prop :=
  Late i state log → (p = .watching state ∨ p = .read state (some connectionId)) ∧
    redis.watched i = some (key state, redis.touched (key state))

structure Inv (jobs : ι → Job) (w : World ι) : Prop where
  sane : w.redis.WellWatched
  issued : Issued w.log state connectionId → Drawn w.log state
  unique : Issued w.log state connectionId → Issued w.log state other → connectionId = other
  held : w.redis.strings (key state) = some connectionId → Issued w.log state connectionId
  sound : ∀ i, Sound w.redis w.log i (phase jobs w.log i)
  drawer : phase jobs w.log i = .drawn connectionId state → phase jobs w.log j = .drawn other state → i = j
  winner : (phase jobs w.log i).redeemed = some (state, connectionId) →
    (phase jobs w.log j).redeemed = some (state, other) → i = j
  live : Issued w.log state connectionId → .expired (key state) ∉ w.log →
    (∀ i other, (phase jobs w.log i).redeemed ≠ some (state, other)) →
    w.redis.strings (key state) = some connectionId ∧
      ∀ i, Waiting w.redis w.log state connectionId i (phase jobs w.log i)
  once : (exchanges jobs w.log).Nodup
  settled : state ∈ exchanges jobs w.log → ∃ i connectionId, (phase jobs w.log i).settled = some (state, connectionId)

omit [DecidableEq ι] in
/-- A request looks only at the keys and at its own watch, and sees when a key is taken. -/
theorem Sound.kept {redis redis' : Redis ι} {log log' : List (Entry ι)} {i : ι} {p : Phase} (sound : Sound redis log i p)
    (sane : redis.WellWatched) (watched : redis'.watched i = redis.watched i)
    (keys : ∀ state, redis'.strings (key state) = redis.strings (key state) ∧
        redis'.touched (key state) = redis.touched (key state) ∨
      redis'.strings (key state) = none ∧ redis.touched (key state) < redis'.touched (key state))
    (issued : Issued log' = Issued log) (drawn : ∀ state, Drawn log state → Drawn log' state) : Sound redis' log' i p := by
  constructor
  case drawn =>
    intro connectionId state found
    rw [issued]
    exact ⟨drawn state (sound.drawn found).1, (sound.drawn found).2⟩
  case watch =>
    rw [watched]
    exact sound.watch
  case held =>
    rw [issued]
    exact sound.held
  case intact =>
    intro state value found unchanged
    rw [watched] at unchanged
    rcases keys state with ⟨same, still⟩ | ⟨_, moved⟩
    · rw [still] at unchanged
      rw [same, sound.intact found unchanged]
    · have seen : redis'.touched (key state) ≤ redis.touched (key state) := sane _ _ _ unchanged
      omega
  case redeemed =>
    intro state connectionId found
    rw [issued]
    refine ⟨(sound.redeemed found).1, ?_⟩
    rcases keys state with ⟨same, _⟩ | ⟨gone, _⟩
    · rw [same, (sound.redeemed found).2]
    · exact gone

omit [DecidableEq ι] in
/-- A request that holds no watch and no drawn state. -/
theorem Sound.passed {redis : Redis ι} {log : List (Entry ι)} {i : ι} {p : Phase} (unpopping : p.popping = none)
    (idle : ∀ connectionId state, p ≠ .drawn connectionId state)
    (redeemed : ∀ state connectionId, p.redeemed = some (state, connectionId) →
      Issued log state connectionId ∧ redis.strings (key state) = none) : Sound redis log i p := by
  constructor
  case drawn => exact fun drawn => (idle _ _ drawn).elim
  case watch => simp [unpopping]
  case held =>
    rintro state connectionId rfl
    contradiction
  case intact =>
    rintro state value rfl
    contradiction
  case redeemed => exact redeemed _ _

omit [DecidableEq ι] in
/-- A request that has not drawn a state sees it saved as another change of its key. -/
theorem Sound.saved {redis : Redis ι} {log : List (Entry ι)} {i j : ι} {p : Phase} (sound : Sound redis log i p)
    (sane : redis.WellWatched) (unissued : ∀ other, ¬ Issued log state other) (undrawn : ∀ other, p ≠ .drawn other state) :
    Sound (redis.write (key state) (some connectionId)) (.call j (.redis (.set (key state) connectionId ttl)) () :: log) i p := by
  have elsewhere {k : String} (other : k ≠ state) :
      (redis.write (key state) (some connectionId)).strings (key k) = redis.strings (key k) ∧
        (redis.write (key state) (some connectionId)).touched (key k) = redis.touched (key k) :=
    ⟨Redis.write_strings_ne _ (by simpa using other), Redis.write_touched_ne _ (by simpa using other)⟩
  constructor
  case drawn =>
    intro other k found
    rw [drawn_other fun _ same => by cases same]
    refine ⟨(sound.drawn found).1, fun a issued => ?_⟩
    rcases issued_set.mp issued with ⟨rfl, rfl⟩ | issued
    · exact undrawn other found
    · exact (sound.drawn found).2 a issued
  case watch => exact sound.watch
  case held =>
    intro k other found
    exact issued_set.mpr (Or.inr (sound.held found))
  case intact =>
    intro k value found unchanged
    rcases eq_or_ne k state with rfl | apart
    · have seen := sane _ _ _ unchanged
      simp only [Redis.write_touched] at seen
      omega
    · rw [(elsewhere apart).2] at unchanged
      rw [(elsewhere apart).1, sound.intact found unchanged]
  case redeemed =>
    intro k other found
    obtain ⟨issued, gone⟩ := sound.redeemed found
    refine ⟨issued_set.mpr (Or.inr issued), ?_⟩
    have apart : k ≠ state := by
      rintro rfl
      exact unissued _ issued
    rw [(elsewhere apart).1, gone]

namespace Inv
variable {jobs : ι → Job} {w w' : World ι} {i j : ι} {op : Op} {answer : op.Answer} {env : Environment ι}

/-- A step that draws nothing leaves at most one request with each drawn state. -/
theorem drawer_beside (inv : Inv jobs w) {connectionId other : String}
    (idle : ∀ connectionId state, phase jobs (.call i op answer :: w.log) i ≠ .drawn connectionId state)
    (first : phase jobs (.call i op answer :: w.log) j = .drawn connectionId state)
    (second : phase jobs (.call i op answer :: w.log) k = .drawn other state) : j = k := by
  have beside : j ≠ i := by
    rintro rfl
    exact idle _ _ first
  have beside' : k ≠ i := by
    rintro rfl
    exact idle _ _ second
  rw [phase_other beside] at first
  rw [phase_other beside'] at second
  exact inv.drawer first second

/-- A request that has asked for its token has done so after every step of another. -/
theorem settled_beside (inv : Inv jobs w) (unsettled : (phase jobs w.log i).settled = none)
    (asked : state ∈ exchanges jobs w.log) :
    ∃ j connectionId, (phase jobs (.call i op answer :: w.log) j).settled = some (state, connectionId) := by
  obtain ⟨j, connectionId, past⟩ := inv.settled asked
  have beside : j ≠ i := by
    rintro rfl
    rw [unsettled] at past
    cases past
  exact ⟨j, connectionId, by rw [phase_other beside, past]⟩

/-- A step that leaves every key as it is, and moves one request on. -/
theorem advanced (inv : Inv jobs w) {redis : Redis ι} (sane : redis.WellWatched)
    (strings : redis.strings = w.redis.strings) (touched : redis.touched = w.redis.touched)
    (watched : ∀ j, j ≠ i → redis.watched j = w.redis.watched j)
    (unsaved : ∀ k value ttl, op ≠ .redis (.set k value ttl))
    (late : ∀ j, j ≠ i → ∀ state, Late j state (.call i op answer :: w.log) ↔ Late j state w.log)
    (moved : advance (phase jobs w.log i) op answer = p) (sound : Sound redis (.call i op answer :: w.log) i p)
    (alone : ∀ connectionId state, p = .drawn connectionId state → ¬ Drawn w.log state)
    (redeemed : p.redeemed = (phase jobs w.log i).redeemed)
    (waiting : ∀ state connectionId, w.redis.strings (key state) = some connectionId →
      Waiting w.redis w.log state connectionId i (phase jobs w.log i) →
      Waiting redis (.call i op answer :: w.log) state connectionId i p)
    (once : (exchanges jobs (.call i op answer :: w.log)).Nodup)
    (settled : ∀ state ∈ exchanges jobs (.call i op answer :: w.log), state ∈ exchanges jobs w.log ∨
      ∃ connectionId, p.settled = some (state, connectionId))
    (progress : ∀ found, (phase jobs w.log i).settled = some found → p.settled = some found) :
    Inv jobs ⟨redis, .call i op answer :: w.log⟩ := by
  have issue : Issued (.call i op answer :: w.log) = Issued w.log := issued_other unsaved
  have draw (state : String) (found : Drawn w.log state) : Drawn (.call i op answer :: w.log) state := by
    obtain ⟨j, nbytes, member⟩ := found
    exact ⟨j, nbytes, List.mem_cons_of_mem _ member⟩
  have own : phase jobs (.call i op answer :: w.log) i = p := phase_own.trans moved
  have redeem (j : ι) : (phase jobs (.call i op answer :: w.log) j).redeemed = (phase jobs w.log j).redeemed := by
    rcases eq_or_ne j i with rfl | other
    · rw [own, redeemed]
    · rw [phase_other other]
  constructor
  case sane => exact sane
  case issued =>
    intro state connectionId issued
    rw [issue] at issued
    exact draw state (inv.issued issued)
  case unique =>
    intro state connectionId other first second
    rw [issue] at first second
    exact inv.unique first second
  case held =>
    intro state connectionId present
    rw [issue]
    exact inv.held (by rw [← strings, present])
  case sound =>
    intro j
    rcases eq_or_ne j i with rfl | other
    · rw [own]
      exact sound
    · rw [phase_other other]
      exact (inv.sound j).kept inv.sane (watched j other) (fun _ => Or.inl ⟨congrFun strings _, congrFun touched _⟩) issue draw
  case drawer =>
    intro j connectionId state k other first second
    rcases eq_or_ne j i with rfl | beside
    · rcases eq_or_ne k j with rfl | beside'
      · rfl
      · rw [own] at first
        rw [phase_other beside'] at second
        exact (alone _ _ first ((inv.sound k).drawn second).1).elim
    · rw [phase_other beside] at first
      rcases eq_or_ne k i with rfl | beside'
      · rw [own] at second
        exact (alone _ _ second ((inv.sound j).drawn first).1).elim
      · rw [phase_other beside'] at second
        exact inv.drawer first second
  case winner =>
    intro j state connectionId k other first second
    rw [redeem] at first second
    exact inv.winner first second
  case live =>
    intro state connectionId issued unexpired unredeemed
    simp only [issue, List.mem_cons, reduceCtorEq, false_or, redeem] at issued unexpired unredeemed
    obtain ⟨present, before⟩ := inv.live issued unexpired unredeemed
    refine ⟨by rw [strings, present], fun j => ?_⟩
    rcases eq_or_ne j i with rfl | other
    · rw [own]
      exact waiting state connectionId present (before j)
    · rw [phase_other other, Waiting, late j other, watched j other, touched]
      exact before j
  case once => exact once
  case settled =>
    intro state found
    rcases settled state found with before | ⟨connectionId, now⟩
    · obtain ⟨j, connectionId, past⟩ := inv.settled before
      rcases eq_or_ne j i with rfl | other
      · exact ⟨j, connectionId, by rw [own, progress _ past]⟩
      · exact ⟨j, connectionId, by rw [phase_other other, past]⟩
    · exact ⟨i, connectionId, by rw [own, now]⟩

/-- A step of a callback that holds no watch on a saved state any more, and
asks for no token. -/
theorem passed (inv : Inv jobs w) {redis : Redis ι} (sane : redis.WellWatched)
    (strings : redis.strings = w.redis.strings) (touched : redis.touched = w.redis.touched)
    (watched : ∀ j, j ≠ i → redis.watched j = w.redis.watched j)
    (unsaved : ∀ k value ttl, op ≠ .redis (.set k value ttl)) (unwatched : ∀ k, op ≠ .redis (.watch k))
    (unasked : ∀ session url code redirectUri, op ≠ .outside (.fetchToken session url code redirectUri))
    (past : ∀ state connectionId, w.redis.strings (key state) = some connectionId →
      ¬ ((phase jobs w.log i = .watching state ∨ phase jobs w.log i = .read state (some connectionId)) ∧
        w.redis.watched i = some (key state, w.redis.touched (key state))))
    (moved : advance (phase jobs w.log i) op answer = p) (unpopping : p.popping = none)
    (idle : ∀ connectionId state, p ≠ .drawn connectionId state)
    (redeemed : p.redeemed = (phase jobs w.log i).redeemed)
    (progress : ∀ found, (phase jobs w.log i).settled = some found → p.settled = some found) :
    Inv jobs ⟨redis, .call i op answer :: w.log⟩ := by
  have asked : exchanges jobs (.call i op answer :: w.log) = exchanges jobs w.log := exchanges_other unasked
  apply inv.advanced sane strings touched watched unsaved (fun j _ state => late_other unwatched) moved
  case sound =>
    apply Sound.passed unpopping idle
    intro state connectionId found
    rw [redeemed] at found
    rw [issued_other unsaved, strings]
    exact (inv.sound i).redeemed found
  case alone => exact fun _ _ drawn => (idle _ _ drawn).elim
  case redeemed => exact redeemed
  case waiting =>
    intro state connectionId present waiting late
    rw [late_other unwatched] at late
    exact (past state connectionId present (waiting late)).elim
  case once =>
    rw [asked]
    exact inv.once
  case settled =>
    intro state found
    rw [asked] at found
    exact Or.inl found
  case progress => exact progress

end Inv
end OpenClaw.Authorization
