import OpenClawService.Authorization.Invariant

/-! Each step of a request, and each expiry, keeps the invariant. -/
namespace OpenClaw.Authorization.Inv
open Interleaving OAuthStateStore
variable {ι : Type} [DecidableEq ι] {jobs : ι → Job} {w w' : World ι} {i j : ι} {op : Op} {answer : op.Answer}
  {env : Environment ι}

/-- The drawn state is saved under its connection. -/
theorem save (inv : Inv jobs w) (drawn : phase jobs w.log i = .drawn connectionId state) {redis : Redis ι}
    (sane : redis.WellWatched) (written : redis = w.redis.write (key state) (some connectionId)) :
    Inv jobs ⟨redis, .call i (.redis (.set (key state) connectionId ttl)) () :: w.log⟩ := by
  obtain ⟨known, unissued⟩ := (inv.sound i).drawn drawn
  have own : phase jobs (.call i (.redis (.set (key state) connectionId ttl)) () :: w.log) i =
      .saved connectionId state := by
    rw [phase_own, drawn]
    rfl
  have draw : Drawn (.call i (.redis (.set (key state) connectionId ttl)) () :: w.log) = Drawn w.log :=
    drawn_other fun _ same => by cases same
  have redeem (j : ι) :
      (phase jobs (.call i (.redis (.set (key state) connectionId ttl)) () :: w.log) j).redeemed =
        (phase jobs w.log j).redeemed := by
    rcases eq_or_ne j i with rfl | other
    · rw [own, drawn]
      rfl
    · rw [phase_other other]
  have elsewhere {k : String} (other : k ≠ state) : redis.strings (key k) = w.redis.strings (key k) ∧
      redis.touched (key k) = w.redis.touched (key k) := by
    rw [written]
    exact ⟨Redis.write_strings_ne _ (by simpa using other), Redis.write_touched_ne _ (by simpa using other)⟩
  have watched : redis.watched = w.redis.watched := by rw [written, Redis.write]
  constructor
  case sane => exact sane
  case issued =>
    intro k other issued
    rw [draw]
    rcases issued_set.mp issued with ⟨rfl, rfl⟩ | before
    · exact known
    · exact inv.issued before
  case unique =>
    intro k a b first second
    rcases issued_set.mp first with ⟨rfl, rfl⟩ | before
    · rcases issued_set.mp second with ⟨_, rfl⟩ | before'
      · rfl
      · exact (unissued _ before').elim
    · rcases issued_set.mp second with ⟨rfl, rfl⟩ | before'
      · exact (unissued _ before).elim
      · exact inv.unique before before'
  case held =>
    intro k other present
    rw [issued_set]
    rcases eq_or_ne k state with rfl | apart
    · simp only [written, Redis.write_strings, Option.some.injEq] at present
      exact Or.inl ⟨rfl, present.symm⟩
    · exact Or.inr (inv.held (by rw [← (elsewhere apart).1, present]))
  case sound =>
    intro j
    rcases eq_or_ne j i with rfl | beside
    · rw [own]
      constructor <;> (intros; simp_all [Phase.popping, Phase.redeemed])
    · rw [phase_other beside, written]
      exact (inv.sound j).saved inv.sane unissued fun other found => beside (inv.drawer found drawn)
  case drawer => exact inv.drawer_beside (by simp [own])
  case winner =>
    intro j k a l b first second
    rw [redeem] at first second
    exact inv.winner first second
  case live =>
    intro k a issued unexpired unredeemed
    simp only [List.mem_cons, reduceCtorEq, false_or, redeem] at unexpired unredeemed
    rcases issued_set.mp issued with ⟨rfl, rfl⟩ | before
    · refine ⟨by rw [written, Redis.write_strings], fun j late => ?_⟩
      rw [late_other fun _ same => by cases same] at late
      obtain ⟨other, before⟩ := late_issued late
      exact (unissued _ before).elim
    · have apart : k ≠ state := by
        rintro rfl
        exact unissued _ before
      obtain ⟨present, waiting⟩ := inv.live before unexpired unredeemed
      refine ⟨by rw [(elsewhere apart).1, present], fun j late => ?_⟩
      rw [late_other fun _ same => by cases same] at late
      have waited := waiting j late
      rw [watched, (elsewhere apart).2]
      rcases eq_or_ne j i with rfl | beside
      · simp [drawn] at waited
      · rwa [phase_other beside]
  case once => exact inv.once
  case settled => exact inv.settled_beside (by simp [drawn, Phase.settled])

/-- One callback takes the state out of its key. -/
theorem win (inv : Inv jobs w) (read : phase jobs w.log i = .read state (some connectionId))
    (intact : w.redis.watched i = some (key state, w.redis.touched (key state))) {redis : Redis ι}
    (sane : redis.WellWatched)
    (written : redis = { w.redis with watched := Function.update w.redis.watched i none }.write (key state) none) :
    Inv jobs ⟨redis, .call i (.redis (.execDel (key state))) true :: w.log⟩ := by
  have issue : Issued (.call i (.redis (.execDel (key state))) true :: w.log) = Issued w.log :=
    issued_other fun _ _ _ same => by cases same
  have draw : Drawn (.call i (.redis (.execDel (key state))) true :: w.log) = Drawn w.log :=
    drawn_other fun _ same => by cases same
  have own : phase jobs (.call i (.redis (.execDel (key state))) true :: w.log) i = .won state connectionId := by
    rw [phase_own, read]
    rfl
  have present : w.redis.strings (key state) = some connectionId := (inv.sound i).intact read intact
  have gone : redis.strings (key state) = none := by rw [written, Redis.write_strings]
  have elsewhere {k : String} (other : k ≠ state) : redis.strings (key k) = w.redis.strings (key k) ∧
      redis.touched (key k) = w.redis.touched (key k) := by
    rw [written, Redis.write_strings_ne _ (by simpa using other), Redis.write_touched_ne _ (by simpa using other)]
    exact ⟨rfl, rfl⟩
  have watched (j : ι) (other : j ≠ i) : redis.watched j = w.redis.watched j := by
    rw [written, Redis.write]
    exact Function.update_of_ne other ..
  have untaken (j : ι) (a : String) : (phase jobs w.log j).redeemed ≠ some (state, a) := by
    intro found
    have taken := ((inv.sound j).redeemed found).2
    rw [present] at taken
    cases taken
  -- Of this state, the callback is the only taker.
  have taker {j : ι} {k a : String}
      (found : (phase jobs (.call i (.redis (.execDel (key state))) true :: w.log) j).redeemed = some (k, a)) :
      (j = i ∧ k = state) ∨ k ≠ state ∧ (phase jobs w.log j).redeemed = some (k, a) := by
    rcases eq_or_ne j i with rfl | beside
    · simp only [own, Phase.redeemed, Option.some.injEq, Prod.mk.injEq] at found
      exact Or.inl ⟨rfl, found.1.symm⟩
    · rw [phase_other beside] at found
      refine Or.inr ⟨?_, found⟩
      rintro rfl
      exact untaken j a found
  constructor
  case sane => exact sane
  case issued =>
    intro k a issued
    rw [issue] at issued
    rw [draw]
    exact inv.issued issued
  case unique =>
    intro k a b first second
    rw [issue] at first second
    exact inv.unique first second
  case held =>
    intro k a found
    rw [issue]
    rcases eq_or_ne k state with rfl | apart
    · rw [gone] at found
      cases found
    · exact inv.held (by rw [← (elsewhere apart).1, found])
  case sound =>
    intro j
    rcases eq_or_ne j i with rfl | beside
    · rw [own]
      constructor
      case redeemed =>
        intro k a found
        simp only [Phase.redeemed, Option.some.injEq, Prod.mk.injEq] at found
        obtain ⟨rfl, rfl⟩ := found
        rw [issue]
        exact ⟨(inv.sound j).held read, gone⟩
      all_goals (intros; simp_all [Phase.popping])
    · rw [phase_other beside]
      refine (inv.sound j).kept inv.sane (watched j beside) (fun k => ?_) issue (fun _ => by rw [draw]; exact id)
      rcases eq_or_ne k state with rfl | apart
      · exact Or.inr ⟨gone, by simp [written]⟩
      · exact Or.inl (elsewhere apart)
  case drawer => exact inv.drawer_beside (by simp [own])
  case winner =>
    intro j k a l b first second
    rcases taker first with ⟨rfl, rfl⟩ | ⟨apart, before⟩
    · rcases taker second with ⟨rfl, _⟩ | ⟨apart, _⟩
      · rfl
      · exact (apart rfl).elim
    · rcases taker second with ⟨_, rfl⟩ | ⟨_, before'⟩
      · exact (apart rfl).elim
      · exact inv.winner before before'
  case live =>
    intro k a issued unexpired unredeemed
    simp only [issue, List.mem_cons, reduceCtorEq, false_or] at issued unexpired
    have apart : k ≠ state := by
      rintro rfl
      exact unredeemed i connectionId (by rw [own, Phase.redeemed])
    have unredeemed' (j : ι) (b : String) : (phase jobs w.log j).redeemed ≠ some (k, b) := by
      rcases eq_or_ne j i with rfl | beside
      · simp [read, Phase.redeemed]
      · rw [← phase_other beside]
        exact unredeemed j b
    obtain ⟨found, waiting⟩ := inv.live issued unexpired unredeemed'
    refine ⟨by rw [(elsewhere apart).1, found], fun j late => ?_⟩
    rw [late_other fun _ same => by cases same] at late
    have waited := waiting j late
    rcases eq_or_ne j i with rfl | beside
    · simp only [read, reduceCtorEq, Phase.read.injEq, false_or] at waited
      exact (apart waited.1.1.symm).elim
    · rwa [phase_other beside, watched j beside, (elsewhere apart).2]
  case once => exact inv.once
  case settled => exact inv.settled_beside (by simp [read, Phase.settled])

/-- The winner asks for a token, for the first and only time. -/
theorem exchange {response : Except String Json} (inv : Inv jobs w)
    (won : phase jobs w.log i = .won state connectionId)
    (moved : advance (phase jobs w.log i) (.outside (.fetchToken session url code redirectUri)) response = p)
    (unpopping : p.popping = none) (idle : ∀ connectionId state, p ≠ .drawn connectionId state)
    (redeemed : p.redeemed = some (state, connectionId)) (settled : p.settled = some (state, connectionId)) :
    Inv jobs ⟨w.redis, .call i (.outside (.fetchToken session url code redirectUri)) response :: w.log⟩ := by
  have own : (jobs i).state = some state := by
    rw [← phase_presented jobs w.log i, won]
    rfl
  have asked : exchanges jobs (.call i (.outside (.fetchToken session url code redirectUri)) response :: w.log) =
      state :: exchanges jobs w.log := by
    simp only [exchanges, own]
    rfl
  apply inv.advanced inv.sane rfl rfl (fun _ _ => rfl) (fun _ _ _ same => by cases same)
    (fun _ _ _ => late_other fun _ same => by cases same) moved
  case sound =>
    apply Sound.passed unpopping idle
    intro k a found
    rw [redeemed] at found
    rw [issued_other fun _ _ _ same => by cases same]
    exact (inv.sound i).redeemed (by rw [won, ← found, Phase.redeemed])
  case alone => exact fun _ _ drawn => (idle _ _ drawn).elim
  case redeemed => rw [redeemed, won, Phase.redeemed]
  case waiting =>
    intro k a present waiting late
    rw [late_other fun _ same => by cases same] at late
    rw [won] at waiting
    obtain ⟨now, _⟩ := waiting late
    simp at now
  case once =>
    rw [asked]
    refine List.nodup_cons.mpr ⟨fun before => ?_, inv.once⟩
    obtain ⟨j, a, past⟩ := inv.settled before
    have winner := inv.winner (Phase.settled_redeemed past) (by rw [won, Phase.redeemed])
    rw [winner, won] at past
    cases past
  case settled =>
    intro k found
    rw [asked, List.mem_cons] at found
    rcases found with rfl | before
    · exact Or.inr ⟨connectionId, settled⟩
    · exact Or.inl before
  case progress => simp [won, Phase.settled]

/-- A fresh state is drawn. -/
theorem draw (inv : Inv jobs w) (building : phase jobs w.log i = .building connectionId)
    (fresh : ¬ Drawn w.log state) :
    Inv jobs ⟨w.redis, .call i (.outside (.tokenUrlsafe nbytes)) state :: w.log⟩ := by
  have moved : advance (phase jobs w.log i) (.outside (.tokenUrlsafe nbytes)) state =
      .drawn connectionId state := by rw [building, advance]
  apply inv.advanced inv.sane rfl rfl (fun _ _ => rfl) (fun _ _ _ same => by cases same)
    (fun _ _ _ => late_other fun _ same => by cases same) moved
  case sound =>
    constructor
    case drawn =>
      rintro a k ⟨⟩
      rw [issued_other fun _ _ _ same => by cases same]
      exact ⟨drawn_tokenUrlsafe.mpr (Or.inl rfl), fun other issued => fresh (inv.issued issued)⟩
    all_goals (intros; simp_all [Phase.popping, Phase.redeemed])
  case alone =>
    rintro a k ⟨⟩
    exact fresh
  case redeemed => simp only [building, Phase.redeemed]
  case waiting =>
    intro k a _ waiting late
    rw [late_other fun _ same => by cases same] at late
    rw [building] at waiting
    obtain ⟨now, _⟩ := waiting late
    simp at now
  case once => exact inv.once
  case settled => exact fun _ => Or.inl
  case progress => simp [building, Phase.settled]

/-- A callback begins to watch the key of its state. -/
theorem watch (inv : Inv jobs w) (presenting : phase jobs w.log i = .presenting state) :
    Inv jobs ⟨(w.redis.exec i (.watch (key state))).2, .call i (.redis (.watch (key state))) () :: w.log⟩ := by
  have moved : advance (phase jobs w.log i) (.redis (.watch (key state))) () = .watching state := by
    rw [presenting, advance]
  have watched : (w.redis.exec i (.watch (key state))).2.watched i =
      some (key state, w.redis.touched (key state)) := Function.update_self ..
  apply inv.advanced (w.redis.exec_wellWatched i inv.sane) rfl rfl
    (fun _ other => Redis.exec_watched_other _ _ other) (fun _ _ _ same => by cases same) ?_ moved
  case sound =>
    constructor
    case watch =>
      rintro k ⟨⟩
      exact ⟨_, watched⟩
    all_goals (intros; simp_all [Phase.redeemed])
  case alone => exact fun _ _ drawn => by cases drawn
  case redeemed => simp only [presenting, Phase.redeemed]
  case waiting =>
    intro k a _ waiting late
    rcases late with before | ⟨_, same, _⟩
    · rw [presenting] at waiting
      obtain ⟨now, _⟩ := waiting before
      simp at now
    · rw [key_inj] at same
      subst same
      exact ⟨Or.inl rfl, watched⟩
  case once => exact inv.once
  case settled => exact fun _ => Or.inl
  case progress => simp [presenting, Phase.settled]
  intro j other k
  simp only [Late, other.symm, false_and, or_false]

/-- A callback reads the value of its state. -/
theorem read (inv : Inv jobs w) (watching : phase jobs w.log i = .watching state) :
    Inv jobs ⟨w.redis, .call i (.redis (.get (key state))) (w.redis.strings (key state)) :: w.log⟩ := by
  have moved : advance (phase jobs w.log i) (.redis (.get (key state))) (w.redis.strings (key state)) =
      .read state (w.redis.strings (key state)) := by rw [watching, advance]
  have issue : Issued (.call i (.redis (.get (key state))) (w.redis.strings (key state)) :: w.log) =
      Issued w.log := issued_other fun _ _ _ same => by cases same
  apply inv.advanced inv.sane rfl rfl (fun _ _ => rfl) (fun _ _ _ same => by cases same)
    (fun _ _ _ => late_other fun _ same => by cases same) moved
  case sound =>
    constructor
    case drawn => exact fun drawn => by cases drawn
    case watch =>
      rintro k ⟨⟩
      exact (inv.sound i).watch (by rw [watching, Phase.popping])
    case held =>
      intro k a found
      simp only [Phase.read.injEq] at found
      obtain ⟨rfl, present⟩ := found
      rw [issue]
      exact inv.held present
    case intact =>
      rintro k value ⟨⟩ _
      rfl
    case redeemed => exact fun found => by cases found
  case alone => exact fun _ _ drawn => by cases drawn
  case redeemed => simp only [watching, Phase.redeemed]
  case waiting =>
    intro k a present waiting late
    rw [late_other fun _ same => by cases same] at late
    obtain ⟨now, unchanged⟩ := waiting late
    simp only [watching, Phase.watching.injEq, reduceCtorEq, or_false] at now
    subst now
    rw [present]
    exact ⟨Or.inr rfl, unchanged⟩
  case once => exact inv.once
  case settled => exact fun _ => Or.inl
  case progress => simp [watching, Phase.settled]

theorem served (inv : Inv jobs w) (fresh : FreshStates env) (admitted : admits settings (jobs i) (phase jobs w.log i) op)
    (served : Served env i w op answer w') : Inv jobs w' := by
  cases at_phase : phase jobs w.log i with
  | building connectionId =>
    rw [at_phase] at admitted
    obtain rfl := admitted
    cases served with
    | outside allowed => exact inv.draw at_phase (fresh _ _ _ _ allowed)
  | drawn connectionId state =>
    rw [at_phase] at admitted
    obtain ⟨ttl, rfl⟩ := admitted
    cases served with
    | redis => exact inv.save at_phase (w.redis.exec_wellWatched i inv.sane) rfl
  | presenting state =>
    rw [at_phase] at admitted
    obtain rfl := admitted
    cases served with
    | redis => exact inv.watch at_phase
  | watching state =>
    rw [at_phase] at admitted
    obtain rfl := admitted
    cases served with
    | redis => exact inv.read at_phase
  | read state value =>
    rw [at_phase] at admitted
    cases value with
    | none =>
      obtain rfl := admitted
      cases served with
      | redis =>
        apply inv.passed (p := .refused state) (w.redis.exec_wellWatched i inv.sane) rfl rfl
          (fun _ other => Redis.exec_watched_other _ _ other) (by simp) (by simp) (by simp)
        · simp [at_phase]
        all_goals simp [at_phase, advance, Phase.popping, Phase.redeemed, Phase.settled]
    | some connectionId =>
      obtain rfl := admitted
      obtain ⟨seen, watched⟩ := (inv.sound i).watch (by rw [at_phase, Phase.popping])
      cases served with
      | redis =>
        have sane : (w.redis.exec i (.execDel (key state))).2.WellWatched := w.redis.exec_wellWatched i inv.sane
        by_cases unchanged : w.redis.touched (key state) = seen
        · rw [w.redis.execDel_intact i watched unchanged] at sane ⊢
          exact inv.win at_phase (by rw [watched, unchanged]) sane rfl
        · rw [w.redis.execDel_changed i watched unchanged] at sane ⊢
          apply inv.passed (p := .refused state) sane rfl rfl (fun _ other => Function.update_of_ne other ..)
            (by simp) (by simp) (by simp)
          · rintro k a _ ⟨now, intact⟩
            rw [watched, Option.some.injEq, Prod.mk.injEq] at intact
            obtain ⟨same, rfl⟩ := intact
            rw [key_inj] at same
            subst same
            exact unchanged rfl
          all_goals simp [at_phase, advance, Phase.popping, Phase.redeemed, Phase.settled]
  | won state connectionId =>
    rw [at_phase] at admitted
    obtain ⟨code, state', _, rfl⟩ := admitted
    cases served with
    | outside allowed =>
      cases answer with
      | ok raw =>
        exact inv.exchange (p := .exchanged state connectionId) at_phase (by rw [at_phase, advance]) rfl
          (by simp) rfl rfl
      | error text =>
        exact inv.exchange (p := .failed state connectionId) at_phase (by rw [at_phase, advance]) rfl
          (by simp) rfl rfl
  | exchanged state connectionId =>
    rw [at_phase] at admitted
    rcases admitted with ⟨request, rfl⟩ | rfl | ⟨mapping, rfl⟩
    · cases served with
      | outside allowed =>
        apply inv.passed (p := .exchanged state connectionId) inv.sane rfl rfl (fun _ _ => rfl)
          (by simp) (by simp) (by simp)
        all_goals simp [at_phase, advance, Phase.popping, Phase.redeemed, Phase.settled]
    · cases served with
      | outside allowed =>
        apply inv.passed (p := .exchanged state connectionId) inv.sane rfl rfl (fun _ _ => rfl)
          (by simp) (by simp) (by simp)
        all_goals simp [at_phase, advance, Phase.popping, Phase.redeemed, Phase.settled]
    · cases served with
      | redis =>
        apply inv.passed (p := .stored state connectionId) (w.redis.exec_wellWatched i inv.sane) rfl rfl
          (fun _ _ => rfl) (by simp) (by simp) (by simp)
        all_goals simp [at_phase, advance, Phase.popping, Phase.redeemed, Phase.settled]
  | saved | refused | failed | stored =>
    rw [at_phase] at admitted
    exact admitted.elim

/-- A drift leaves every state in its key, or takes it out and says so. -/
theorem drift (inv : Inv jobs w) {redis : Redis ι} {log : List (Entry ι)} (sane : redis.WellWatched)
    (watched : redis.watched = w.redis.watched)
    (keys : ∀ state, redis.strings (key state) = w.redis.strings (key state) ∧
        redis.touched (key state) = w.redis.touched (key state) ∨
      redis.strings (key state) = none ∧ w.redis.touched (key state) < redis.touched (key state) ∧
        Entry.expired (key state) ∈ log)
    (older : ∀ entry ∈ w.log, entry ∈ log) (issue : Issued log = Issued w.log) (draw : Drawn log = Drawn w.log)
    (late : ∀ i state, Late i state log ↔ Late i state w.log) (asked : exchanges jobs log = exchanges jobs w.log)
    (phases : phase jobs log = phase jobs w.log) : Inv jobs ⟨redis, log⟩ := by
  constructor
  case sane => exact sane
  case issued =>
    intro state connectionId issued
    rw [issue] at issued
    rw [draw]
    exact inv.issued issued
  case unique =>
    intro state connectionId other first second
    rw [issue] at first second
    exact inv.unique first second
  case held =>
    intro state connectionId present
    rw [issue]
    rcases keys state with ⟨same, _⟩ | ⟨gone, _, _⟩
    · exact inv.held (by rw [← same, present])
    · rw [gone] at present
      cases present
  case sound =>
    intro i
    rw [phases]
    refine (inv.sound i).kept inv.sane (congrFun watched i) (fun state => ?_) issue (fun _ => by rw [draw]; exact id)
    exact (keys state).imp_right fun ⟨gone, moved, _⟩ => ⟨gone, moved⟩
  case drawer =>
    rw [phases]
    exact inv.drawer
  case winner =>
    rw [phases]
    exact inv.winner
  case live =>
    intro state connectionId issued unexpired unredeemed
    rw [issue] at issued
    rw [phases] at unredeemed ⊢
    rcases keys state with ⟨same, still⟩ | ⟨_, _, expired⟩
    · obtain ⟨present, waiting⟩ := inv.live issued (fun member => unexpired (older _ member)) unredeemed
      refine ⟨by rw [same, present], fun i => ?_⟩
      rw [Waiting, late i, watched, still]
      exact waiting i
    · exact (unexpired expired).elim
  case once =>
    rw [asked]
    exact inv.once
  case settled =>
    rw [asked, phases]
    exact inv.settled

theorem drifted (inv : Inv jobs w) (drifted : Drifted env w w') : Inv jobs w' := by
  cases drifted with
  | invoice =>
    exact inv.drift inv.sane rfl (fun _ => Or.inl ⟨rfl, rfl⟩) (fun _ => List.mem_cons_of_mem _)
      (issued_drift fun _ _ _ same => by cases same) (drawn_drift fun _ _ _ same => by cases same) (fun _ _ => Iff.rfl) rfl rfl
  | @expire expired =>
    apply inv.drift (w.redis.expire_wellWatched inv.sane expired) rfl ?_ (fun _ => List.mem_cons_of_mem _)
      (issued_drift fun _ _ _ same => by cases same) (drawn_drift fun _ _ _ same => by cases same) (fun _ _ => Iff.rfl) rfl rfl
    intro state
    rcases eq_or_ne (key state) expired with rfl | other
    · exact Or.inr ⟨Redis.write_strings .., by simp [Redis.expire], List.mem_cons_self ..⟩
    · have still : (w.redis.write expired none).touched (key state) = w.redis.touched (key state) :=
        Redis.write_touched_ne _ other
      exact Or.inl ⟨Redis.write_strings_ne _ other, still⟩

theorem start {redis : Redis ι} (unsaved : ∀ state, redis.strings (key state) = none) (sane : redis.WellWatched) :
    Inv jobs ⟨redis, []⟩ := by
  have begun (i : ι) : phase jobs [] i = (jobs i).start := rfl
  have unredeemed (i : ι) : (phase jobs [] i).redeemed = none := by
    rw [begun]
    cases jobs i <;> rfl
  have undrawn (i : ι) (connectionId state : String) : phase jobs [] i ≠ .drawn connectionId state := by
    rw [begun]
    cases jobs i <;> simp [Job.start]
  have unissued (state connectionId : String) : ¬ Issued ([] : List (Entry ι)) state connectionId := by
    rintro ⟨_, _, member⟩
    cases member
  constructor
  case sane => exact sane
  case issued => exact fun issued => (unissued _ _ issued).elim
  case unique => exact fun issued => (unissued _ _ issued).elim
  case held =>
    intro state connectionId present
    rw [unsaved] at present
    cases present
  case sound =>
    intro i
    apply Sound.passed
    · rw [begun]
      cases jobs i <;> rfl
    · exact undrawn i
    · intro state connectionId found
      rw [unredeemed] at found
      cases found
  case drawer => exact fun first => (undrawn _ _ _ first).elim
  case winner =>
    intro i state connectionId j other first
    rw [unredeemed] at first
    cases first
  case live => exact fun issued => (unissued _ _ issued).elim
  case once => exact List.nodup_nil
  case settled => exact fun found => absurd found List.not_mem_nil

end OpenClaw.Authorization.Inv
