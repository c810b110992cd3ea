import TradeControl.LatchRuns

namespace TradeControl

open Foundation

variable {candles : List Candle} {cfg : DetectorConfig}

/-- A tracked signal that a bar turns valid is a print that turns valid on it. -/
theorem turnsValid_tracked {bar : Nat} :
    (∃ t ∈ trackedBefore candles cfg bar, (t.atBar candles cfg bar).state ≠ t.state ∧
        (t.atBar candles cfg bar).state = .valid) ↔
      ∃ earlier print, printAt candles cfg earlier = some print ∧ print.TurnsValid candles cfg bar := by
  constructor
  · rintro ⟨t, tracked, changed, valid⟩
    obtain ⟨earlier, print, before, printed, rfl⟩ := mem_trackedBefore.mp tracked
    rw [lived_atBar printed before] at changed valid
    refine ⟨earlier, print, printed, bar - 1 - earlier, ?_, fun already => ?_, ?_⟩
    · have onBar := printAt_signalBar printed
      omega
    · rw [already, valid] at changed
      exact changed rfl
    · have next : bar - 1 - earlier + 1 = bar - earlier := by omega
      rw [next]
      exact valid
  · rintro ⟨earlier, print, printed, elapsed, rfl, before, after⟩
    rw [printAt_signalBar printed]
    have past : earlier + elapsed + 1 - 1 - earlier = elapsed := by omega
    have now : earlier + elapsed + 1 - earlier = elapsed + 1 := by omega
    have moved : _ = print.lived candles cfg (earlier + elapsed + 1 - earlier) :=
      lived_atBar printed (by omega)
    rw [past, now] at moved
    refine ⟨print.lived candles cfg elapsed, ?_, ?_, ?_⟩
    · exact mem_trackedBefore.mpr ⟨earlier, print, by omega, printed, by rw [past]⟩
    · rw [moved, after]
      exact before.symm
    · rw [moved]
      exact after

/-- The alert of a bar: its own print, or any tracked signal that turns valid on it. -/
theorem replayTurn_fires {bar : Nat} {atr : Option Rat} (inRange : bar < candles.length) :
    (replayTurn candles cfg atr (replayed candles cfg bar) bar).2 = true ↔
      (detectAt candles bar cfg.detect).isSome ∨ detectAt candles bar cfg.detect = none ∧
        ∃ earlier print, printAt candles cfg earlier = some print ∧ print.TurnsValid candles cfg bar := by
  cases printed : detectAt candles bar cfg.detect with
  | some d =>
    rw [replayTurn_prints printed]
    simp only [Option.isSome_some, true_or]
  | none =>
    rw [replayTurn_silent inRange printed]
    dsimp only
    rw [updateEach_justValid, (replayed_latched inRange.le).tracked, turnsValid_tracked]
    simp only [Bool.false_eq_true, Option.isSome_none, false_or, true_and]

/-- What a latched signal says of itself is so: its state is its own print's, the flag is up exactly
when that is valid, and the alert fires exactly when it printed or turned valid on the as-of bar. -/
structure LatchedSignal.Truthful (l : LatchedSignal) (candles : List Candle) (cfg : DetectorConfig)
    (asOf : Nat) (print : Tracked) : Prop where
  state : l.state = (print.lived candles cfg (asOf - print.signalBar)).state
  confirmed : l.signalConfirmed = true ↔ l.state = .valid
  fires : l.fires = true ↔ print.signalBar = asOf ∨ print.TurnsValid candles cfg asOf

/-- The answer of a bar is about the last print up to it. -/
theorem latchedSignalAt_latched {asOf bar : Nat} {print : Tracked} (inRange : asOf < candles.length)
    (latched : latchedBar candles cfg (asOf + 1) = some bar) (printed : printAt candles cfg bar = some print) :
    ∃ l, latchedSignalAt candles asOf cfg = some l ∧
      l.state = (print.lived candles cfg (asOf - print.signalBar)).state ∧
      (l.signalConfirmed = true ↔ l.state = .valid) ∧
      l.fires = (replayTurn candles cfg (atrAt candles cfg asOf) (replayed candles cfg asOf) asOf).2 := by
  have run : (replayed candles cfg (asOf + 1)).Latched candles cfg (asOf + 1) := replayed_latched inRange
  obtain ⟨latch, held, right⟩ := run.confirmed bar print latched printed
  have bound := latchedBar_lt latched
  have onBar := printAt_signalBar printed
  have signal := run.signalBar
  rw [latched] at signal
  have found := find_trackedBefore bound printed
  rw [← run.tracked, Nat.add_sub_cancel] at found
  rw [Nat.add_sub_cancel] at right
  obtain ⟨candle, atBar⟩ : ∃ candle, candles[bar]? = some candle :=
    ⟨_, List.getElem?_eq_getElem (by omega : bar < candles.length)⟩
  rw [latchedSignalAt_eq cfg inRange, emit, held, signal]
  dsimp only
  rw [atBar]
  dsimp only
  rw [found, onBar]
  refine ⟨_, rfl, rfl, ?_, rfl⟩
  simp only [Option.map_some, Option.getD_some, right, decide_eq_true_eq]

theorem latchedSignalAt_none {asOf : Nat} (inRange : asOf < candles.length)
    (unlatched : latchedBar candles cfg (asOf + 1) = none) : latchedSignalAt candles asOf cfg = none := by
  have run : (replayed candles cfg (asOf + 1)).Latched candles cfg (asOf + 1) := replayed_latched inRange
  rw [latchedSignalAt_eq cfg inRange, emit, run.unlatched unlatched]

/-- The latch tells the truth of a bar: what it answers is true of the last print up to the bar. -/
def LatchTruth (candles : List Candle) (cfg : DetectorConfig) (asOf : Nat) : Prop :=
  ∀ l, latchedSignalAt candles asOf cfg = some l →
    ∃ bar print, latchedBar candles cfg (asOf + 1) = some bar ∧ printAt candles cfg bar = some print ∧
      l.Truthful candles cfg asOf print

/-- A signal whose window closes confirmed on the as-of bar, where nothing prints, has been taken off
the latch by a print in between. -/
structure Overtaken (candles : List Candle) (cfg : DetectorConfig) (asOf : Nat) : Prop where
  inRange : asOf < candles.length
  silent : detectAt candles asOf cfg.detect = none
  overtaken : ∃ bar print later, bar + cfg.confirmBars = asOf ∧ printAt candles cfg bar = some print ∧
    Confirms cfg.confirmBars (print.pushAt candles) (print.strikeAt candles cfg) ∧
    bar < later ∧ later < asOf ∧ (detectAt candles later cfg.detect).isSome

/-- The latch tells the truth of a bar unless an overtaken signal turns valid on it. -/
theorem latchTruth_iff (candles : List Candle) (cfg : DetectorConfig) (asOf : Nat) :
    LatchTruth candles cfg asOf ↔ ¬Overtaken candles cfg asOf := by
  constructor
  · rintro truth ⟨inRange, silent, bar, print, later, closes, printed, confirms, after, before, prints⟩
    obtain ⟨last, latched, upTo⟩ := le_latchedBar prints (by omega : later < asOf + 1)
    obtain ⟨print', printed'⟩ := printAt_isSome (latchedBar_last latched).1
    obtain ⟨l, answered, -, -, fires⟩ := latchedSignalAt_latched inRange latched printed'
    have turns : print.TurnsValid candles cfg asOf :=
      (Tracked.turnsValid_iff (printAt_fresh printed) inRange).mpr
        ⟨by rw [printAt_signalBar printed]; omega, confirms⟩
    have fired : l.fires = true := by
      rw [fires, replayTurn_fires inRange]
      exact .inr ⟨silent, bar, print, printed, turns⟩
    obtain ⟨_, _, latched'', printed'', truthful⟩ := truth l answered
    cases latched.symm.trans latched''
    cases printed'.symm.trans printed''
    have onBar := printAt_signalBar printed'
    rcases truthful.fires.mp fired with now | turns'
    · have prints := (latchedBar_last latched).1
      rw [← onBar, now, silent] at prints
      cases prints
    · obtain ⟨closes', -⟩ := (Tracked.turnsValid_iff (printAt_fresh printed') inRange).mp turns'
      omega
  · intro clear l answered
    by_cases inRange : asOf < candles.length
    · cases latched : latchedBar candles cfg (asOf + 1) with
      | none =>
        rw [latchedSignalAt_none inRange latched] at answered
        cases answered
      | some bar =>
        obtain ⟨prints, silent⟩ := latchedBar_last latched
        obtain ⟨print, printed⟩ := printAt_isSome prints
        obtain ⟨l', answered', state, confirmed, fires⟩ := latchedSignalAt_latched inRange latched printed
        cases answered.symm.trans answered'
        refine ⟨bar, print, rfl, printed, state, confirmed, ?_⟩
        rw [fires, replayTurn_fires inRange]
        have onBar := printAt_signalBar printed
        cases now : detectAt candles asOf cfg.detect with
        | some d =>
          rw [latchedBar, now] at latched
          cases latched
          exact ⟨fun _ => .inl onBar, fun _ => .inl rfl⟩
        | none =>
          have earlierBar : print.signalBar ≠ asOf := by
            rintro same
            rw [← onBar, same, now] at prints
            cases prints
          simp only [Option.isSome_none, Bool.false_eq_true, false_or, true_and, earlierBar]
          refine ⟨?_, fun turns => ⟨bar, print, printed, turns⟩⟩
          rintro ⟨earlier, print', printed', turns⟩
          obtain ⟨closes, confirms⟩ :=
            (Tracked.turnsValid_iff (printAt_fresh printed') inRange).mp turns
          rw [printAt_signalBar printed'] at closes
          rcases Nat.lt_trichotomy earlier bar with overtaken | rfl | after
          · have last := latchedBar_lt latched
            have inside : bar < asOf := by omega
            exact absurd ⟨inRange, now, earlier, print', bar, closes.symm, printed', confirms, overtaken,
              inside, prints⟩ clear
          · cases printed.symm.trans printed'
            exact turns
          · obtain ⟨elapsed, bound, -, -⟩ := turns
            rw [printAt_signalBar printed'] at bound
            have quiet := silent earlier after (by omega)
            obtain ⟨d, detected, -⟩ := Option.map_eq_some_iff.mp printed'
            rw [quiet] at detected
            cases detected
    · rw [latchedSignalAt, if_pos (by omega)] at answered
      cases answered

/-- Two bullish prints on neighbouring bars, and a push that confirms the first. -/
def overtakenBars : List Candle :=
  [{ time := seconds 0, o := 10, h := 10, l := 5, c := 10 },
   { time := seconds 3600, o := 9, h := 10, l := 4, c := 10 },
   { time := seconds 7200, o := 10, h := 13, l := 9, c := 12 },
   { time := seconds 10800, o := 10, h := 13, l := 9, c := 12 }]

/-- The alert fires for the overtaken print while the latched one is still pending. -/
theorem overtaken_latchUntrue : ¬LatchTruth overtakenBars (DetectorConfig.pineDefaults .h1) 3 := by
  intro truth
  have answer : (latchedSignalAt overtakenBars 3 (DetectorConfig.pineDefaults .h1)).any
      (fun l => l.fires && decide (l.state = .pending)) = true := by decide +kernel
  obtain ⟨l, answered, said⟩ := (Option.any_eq_true _ _).mp answer
  obtain ⟨fired, pending⟩ := Bool.and_eq_true_iff.mp said
  obtain ⟨bar, print, latched, printed, truthful⟩ := truth l answered
  have last : latchedBar overtakenBars (DetectorConfig.pineDefaults .h1) 4 = some 2 := by decide +kernel
  have here : bar = 2 := Option.some.inj (latched.symm.trans last)
  have onBar : print.signalBar = 2 := by rw [printAt_signalBar printed, here]
  rcases truthful.fires.mp fired with now | ⟨elapsed, next, -, valid⟩
  · omega
  · have elapsed' : elapsed = 0 := by omega
    have state := truthful.state
    rw [onBar, of_decide_eq_true pending] at state
    rw [elapsed', ← state] at valid
    cases valid

end TradeControl
