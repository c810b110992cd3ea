import TradeControl.TrackedLives

namespace TradeControl

open Foundation

variable {candles : List Candle} {cfg : DetectorConfig}

/-- The bar of the last print below `bound`: the signal the latch is on. -/
def latchedBar (candles : List Candle) (cfg : DetectorConfig) : Nat → Option Nat
  | 0 => none
  | bar + 1 =>
    match detectAt candles bar cfg.detect with
    | some _ => some bar
    | none => latchedBar candles cfg bar

theorem latchedBar_lt {bound bar : Nat} (latched : latchedBar candles cfg bound = some bar) : bar < bound := by
  induction bound with
  | zero => cases latched
  | succ bound ih =>
    rw [latchedBar] at latched
    cases printed : detectAt candles bound cfg.detect with
    | some d =>
      rw [printed] at latched
      cases latched
      omega
    | none =>
      rw [printed] at latched
      have below := ih latched
      omega

/-- The latched bar printed, and no bar after it has. -/
theorem latchedBar_last {bound bar : Nat} (latched : latchedBar candles cfg bound = some bar) :
    (detectAt candles bar cfg.detect).isSome ∧
      ∀ later, bar < later → later < bound → detectAt candles later cfg.detect = none := by
  induction bound with
  | zero => cases latched
  | succ bound ih =>
    rw [latchedBar] at latched
    cases printed : detectAt candles bound cfg.detect with
    | some d =>
      rw [printed] at latched
      cases latched
      exact ⟨by rw [printed]; rfl, fun later after before => by omega⟩
    | none =>
      rw [printed] at latched
      obtain ⟨prints, silent⟩ := ih latched
      refine ⟨prints, fun later after before => ?_⟩
      rcases Nat.lt_or_ge later bound with earlier | last
      · exact silent later after earlier
      · have same : later = bound := by omega
        rw [same, printed]

theorem le_latchedBar {bound bar : Nat} (prints : (detectAt candles bar cfg.detect).isSome)
    (below : bar < bound) : ∃ last, latchedBar candles cfg bound = some last ∧ bar ≤ last := by
  induction bound with
  | zero => omega
  | succ bound ih =>
    rw [latchedBar]
    cases printed : detectAt candles bound cfg.detect with
    | some d => exact ⟨bound, rfl, by omega⟩
    | none =>
      have other : bar ≠ bound := by
        rintro rfl
        rw [printed] at prints
        cases prints
      exact ih (by omega)

theorem printAt_isSome {bar : Nat} (prints : (detectAt candles bar cfg.detect).isSome) :
    ∃ t, printAt candles cfg bar = some t := by
  obtain ⟨d, detected⟩ := Option.isSome_iff_exists.mp prints
  exact ⟨_, by rw [printAt, detected]; rfl⟩

/-- The signal of `print`'s bar turns valid on `bar`. -/
def Tracked.TurnsValid (print : Tracked) (candles : List Candle) (cfg : DetectorConfig) (bar : Nat) : Prop :=
  ∃ elapsed, bar = print.signalBar + elapsed + 1 ∧
    (print.lived candles cfg elapsed).state ≠ .valid ∧ (print.lived candles cfg (elapsed + 1)).state = .valid

/-- A signal turns valid on the bar its confirm window closes, after a push and no strike. -/
theorem Tracked.turnsValid_iff {print : Tracked} {bar : Nat} (fresh : print.life = .waiting false)
    (inRange : bar < candles.length) :
    print.TurnsValid candles cfg bar ↔
      bar = print.signalBar + cfg.confirmBars ∧
        Confirms cfg.confirmBars (print.pushAt candles) (print.strikeAt candles cfg) := by
  unfold TurnsValid
  constructor
  · rintro ⟨elapsed, rfl, before, after⟩
    rw [← life_confirmed_iff, lived_life cfg fresh (by omega)] at after
    rw [Ne, ← life_confirmed_iff, lived_life cfg fresh (by omega)] at before
    obtain ⟨last, confirms⟩ := Life.turns_confirmed_iff.mp ⟨after, before⟩
    exact ⟨by omega, confirms⟩
  · rintro ⟨rfl, confirms⟩
    obtain ⟨tick, pos, le, -⟩ := confirms.pushed
    obtain ⟨elapsed, last⟩ : ∃ elapsed, elapsed + 1 = cfg.confirmBars := ⟨cfg.confirmBars - 1, by omega⟩
    obtain ⟨after, before⟩ := Life.turns_confirmed_iff.mpr ⟨last, confirms⟩
    refine ⟨elapsed, by omega, ?_, ?_⟩
    · rw [Ne, ← life_confirmed_iff, lived_life cfg fresh (by omega)]
      exact before
    · rw [← life_confirmed_iff, lived_life cfg fresh (by omega)]
      exact after

/-- The loop raises its alert exactly for a signal that turns valid. -/
theorem updateEach_justValid (update : Tracked → Tracked) (latchSignalBar : Option Nat)
    (tracked : List Tracked) (latch : Option Latch) (justValid : Bool) :
    (updateEach update latchSignalBar tracked latch justValid).2.2 = true ↔
      justValid = true ∨ ∃ t ∈ tracked, (update t).state ≠ t.state ∧ (update t).state = .valid := by
  induction tracked generalizing latch justValid with
  | nil => simp only [updateEach, List.not_mem_nil, false_and, exists_false, or_false]
  | cons t rest ih =>
    rw [updateEach]
    dsimp only
    rw [ih]
    simp only [Bool.or_eq_true, Bool.and_eq_true, decide_eq_true_eq, List.exists_mem_cons_iff, or_assoc]

theorem updateEach_noLatch (update : Tracked → Tracked) (latchSignalBar : Option Nat)
    (tracked : List Tracked) (justValid : Bool) :
    (updateEach update latchSignalBar tracked none justValid).2.1 = none := by
  induction tracked generalizing justValid with
  | nil => rfl
  | cons t rest ih =>
    rw [updateEach]
    simp only [Option.map_none, ite_self]
    exact ih _

/-- The loop leaves the latch confirmed exactly when its own signal stands valid. -/
theorem updateEach_confirmed {update : Tracked → Tracked} {latched : Tracked} {tracked : List Tracked}
    (own : ∀ t ∈ tracked, t.signalBar = latched.signalBar → t = latched)
    (waits : (update latched).state = .pending → latched.state = .pending) {l : Latch} {justValid : Bool}
    (right : l.confirmed = decide (latched.state = .valid) ∨
      l.confirmed = decide ((update latched).state = .valid))
    (seen : latched ∈ tracked ∨ l.confirmed = decide ((update latched).state = .valid)) :
    ∃ l', (updateEach update (some latched.signalBar) tracked (some l) justValid).2.1 = some l' ∧
      l'.confirmed = decide ((update latched).state = .valid) := by
  induction tracked generalizing l justValid with
  | nil =>
    rcases seen with member | settled
    · cases member
    · exact ⟨l, rfl, settled⟩
  | cons t rest ih =>
    have own' : ∀ t ∈ rest, t.signalBar = latched.signalBar → t = latched :=
      fun t member => own t (List.mem_cons_of_mem _ member)
    rw [updateEach]
    by_cases itself : t.signalBar = latched.signalBar
    · rw [own t (List.mem_cons_self ..) itself]
      dsimp only
      have settled : ∃ l' : Latch, (if (decide ((update latched).state ≠ latched.state) &&
            decide (some latched.signalBar = some latched.signalBar) &&
            decide ((update latched).state = .valid)) = true then
            Option.map (fun l => { l with confirmed := true }) (some l)
          else if (decide ((update latched).state ≠ latched.state) &&
            decide (some latched.signalBar = some latched.signalBar) &&
            decide ((update latched).state = .invalid)) = true then
            Option.map (fun l => { l with confirmed := false }) (some l)
          else some l) = some l' ∧ l'.confirmed = decide ((update latched).state = .valid) := by
        by_cases changed : (update latched).state = latched.state
        · refine ⟨l, ?_, ?_⟩
          · simp [changed]
          · rcases right with old | new
            · rw [old, changed]
            · exact new
        · cases moved : (update latched).state with
          | valid => exact ⟨{ l with confirmed := true }, by simp [moved ▸ changed], rfl⟩
          | invalid => exact ⟨{ l with confirmed := false }, by simp [moved ▸ changed], rfl⟩
          | pending => exact absurd (by rw [moved, waits moved]) changed
      obtain ⟨l', same, settled⟩ := settled
      rw [same]
      exact ih own' (.inr settled) (.inr settled)
    · have other : ¬(some latched.signalBar = some t.signalBar) := fun same =>
        itself (Option.some.inj same).symm
      simp only [other, decide_false, Bool.and_false, Bool.false_and, Bool.false_eq_true, ↓reduceIte]
      refine ih own' right ?_
      rcases seen with member | settled
      · rcases List.mem_cons.mp member with rfl | later
        · exact absurd rfl itself
        · exact .inl later
      · exact .inr settled

theorem Tracked.atBar_pending {t : Tracked} {bar : Nat} (waits : (t.atBar candles cfg bar).state = .pending) :
    t.state = .pending := by
  unfold Tracked.atBar at waits
  cases found : candles[bar]? with
  | none =>
    rw [found] at waits
    exact waits
  | some c =>
    rw [found] at waits
    dsimp only at waits
    by_cases alive : t.state = .invalid
    · rw [Tracked.update, if_pos alive] at waits
      exact waits
    · rw [Tracked.update_alive alive] at waits
      dsimp only [Tracked.resolved] at waits
      cases standing : t.state with
      | pending => rfl
      | invalid => exact absurd standing alive
      | valid =>
        split at waits
        · cases waits
        · simp [standing] at waits

/-- A bar's own print is the one tracked under that bar. -/
theorem trackedBefore_own {bound bar : Nat} {print t : Tracked} (printed : printAt candles cfg bar = some print)
    (tracked : t ∈ trackedBefore candles cfg bound) (own : t.signalBar = bar) :
    t = print.lived candles cfg (bound - 1 - bar) := by
  obtain ⟨bar', print', -, printed', rfl⟩ := mem_trackedBefore.mp tracked
  rw [Tracked.lived_signalBar, printAt_signalBar printed'] at own
  subst own
  rw [printed] at printed'
  cases printed'
  rfl

theorem lived_atBar {bound bar : Nat} {print : Tracked} (printed : printAt candles cfg bar = some print)
    (before : bar < bound) :
    (print.lived candles cfg (bound - 1 - bar)).atBar candles cfg bound =
      print.lived candles cfg (bound - bar) := by
  obtain ⟨elapsed, rfl⟩ : ∃ elapsed, bound = bar + elapsed + 1 := ⟨bound - bar - 1, by omega⟩
  have past : bar + elapsed + 1 - 1 - bar = elapsed := by omega
  have now : bar + elapsed + 1 - bar = elapsed + 1 := by omega
  rw [past, now, Tracked.lived, printAt_signalBar printed]

/-- The replay before a bar: every print as far as it has lived, and the latch on the last of them,
confirmed exactly when that signal stands valid. -/
structure Replay.Latched (run : Replay) (candles : List Candle) (cfg : DetectorConfig) (bound : Nat) :
    Prop where
  tracked : run.tracked = trackedBefore candles cfg bound
  signalBar : run.latchSignalBar = latchedBar candles cfg bound
  unlatched : latchedBar candles cfg bound = none → run.latch = none
  confirmed : ∀ bar print, latchedBar candles cfg bound = some bar → printAt candles cfg bar = some print →
    ∃ l, run.latch = some l ∧
      l.confirmed = decide ((print.lived candles cfg (bound - 1 - bar)).state = .valid)

theorem updateTracked_eq {bar : Nat} (inRange : bar < candles.length) (tracked : List Tracked)
    (latch : Option Latch) (latchSignalBar : Option Nat) (justValid : Bool) :
    updateTracked tracked bar candles cfg (detectAt candles bar cfg.detect) latch latchSignalBar justValid =
      updateEach (fun t => t.atBar candles cfg bar) latchSignalBar tracked latch justValid := by
  have found : candles[bar]? = some candles[bar] := List.getElem?_eq_getElem inRange
  unfold updateTracked Tracked.atBar
  rw [found]

/-- A bar without a print moves the tracked signals and settles the latch. -/
theorem replayTurn_silent {run : Replay} {bar : Nat} {atr : Option Rat} (inRange : bar < candles.length)
    (silent : detectAt candles bar cfg.detect = none) :
    replayTurn candles cfg atr run bar =
      let done := updateEach (fun t => t.atBar candles cfg bar) run.latchSignalBar run.tracked run.latch false
      ({ run with tracked := done.1, latch := done.2.1 }, done.2.2) := by
  have moved : updateTracked run.tracked bar candles cfg (detectAt candles bar cfg.detect) run.latch
      run.latchSignalBar false = _ := updateTracked_eq inRange _ _ _ _
  unfold replayTurn
  rw [silent] at moved ⊢
  dsimp only
  rw [moved]

/-- A print takes the latch and raises the alert. -/
theorem replayTurn_prints {run : Replay} {bar : Nat} {atr : Option Rat} {d : Detected}
    (printed : detectAt candles bar cfg.detect = some d) :
    replayTurn candles cfg atr run bar =
      ({ tracked := run.tracked.map (fun t => t.atBar candles cfg bar) ++ [d.track atr bar]
         latch := some (d.latch atr)
         latchSignalBar := some bar }, true) := by
  have aged := updateTracked_tracked run.tracked bar candles cfg run.latch run.latchSignalBar false
  unfold replayTurn
  rw [printed] at aged ⊢
  dsimp only
  rw [aged]

theorem Replay.Latched.next {run : Replay} {bound : Nat} (latched : run.Latched candles cfg bound)
    (inRange : bound < candles.length) :
    (replayTurn candles cfg (atrAt candles cfg bound) run bound).1.Latched candles cfg (bound + 1) := by
  have grown := trackedBefore_succ candles cfg bound
  cases printed : detectAt candles bound cfg.detect with
  | some d =>
    have print : printAt candles cfg bound = some (d.track (atrAt candles cfg bound) bound) := by
      rw [printAt, printed]
      rfl
    have last : latchedBar candles cfg (bound + 1) = some bound := by rw [latchedBar, printed]
    rw [replayTurn_prints printed]
    refine ⟨?_, last.symm, fun none => ?_, ?_⟩
    · rw [grown, print, ← latched.tracked]
      rfl
    · rw [last] at none
      cases none
    · intro bar print' latched' printed'
      rw [last] at latched'
      cases latched'
      rw [print] at printed'
      cases printed'
      refine ⟨d.latch (atrAt candles cfg bound), rfl, ?_⟩
      rw [Nat.add_sub_cancel, Nat.sub_self]
      rfl
  | none =>
    have silent : printAt candles cfg bound = none := by rw [printAt, printed]; rfl
    have same : latchedBar candles cfg (bound + 1) = latchedBar candles cfg bound := by
      rw [latchedBar, printed]
    rw [replayTurn_silent inRange printed]
    dsimp only
    refine ⟨?_, ?_, ?_, ?_⟩
    · rw [updateEach_tracked, grown, silent, latched.tracked, Option.toList_none, List.append_nil]
    · rw [same]
      exact latched.signalBar
    · intro none
      rw [same] at none
      rw [latched.unlatched none]
      exact updateEach_noLatch _ _ _ _
    · intro bar print latched' printed'
      rw [same] at latched'
      have before := latchedBar_lt latched'
      obtain ⟨l, held, right⟩ := latched.confirmed bar print latched' printed'
      obtain ⟨current, here⟩ : ∃ current, current = print.lived candles cfg (bound - 1 - bar) := ⟨_, rfl⟩
      have onBar : current.signalBar = bar := by
        rw [here, Tracked.lived_signalBar, printAt_signalBar printed']
      rw [latched.tracked, latched.signalBar, latched', held, Nat.add_sub_cancel, ← lived_atBar printed' before,
        ← here]
      dsimp only
      nth_rewrite 1 [← onBar]
      refine updateEach_confirmed ?_ ?_ (.inl ?_) (.inl ?_)
      · intro t member own
        rw [here]
        exact trackedBefore_own printed' member (own.trans onBar)
      · exact Tracked.atBar_pending
      · rw [here]
        exact right
      · rw [here]
        exact mem_trackedBefore.mpr ⟨bar, print, before, printed', rfl⟩

theorem replayed_latched {bound : Nat} (inRange : bound ≤ candles.length) :
    (replayed candles cfg bound).Latched candles cfg bound := by
  induction bound with
  | zero => exact ⟨rfl, rfl, fun _ => rfl, fun bar print none => by cases none⟩
  | succ bound ih =>
    rw [replayed_succ]
    exact (ih (by omega)).next (by omega)

end TradeControl
