import TradeControl.Foundation.Confirming
import TradeControl.SignalMachine

namespace TradeControl

open Foundation

/-- One bar of either replay, given the average a print on it is measured against:
the state after it, and whether the alert fires. -/
def replayTurn (candles : List Candle) (cfg : DetectorConfig) (atr : Option Rat) (run : Replay)
    (bar : Nat) : Replay × Bool :=
  let printed := detectAt candles bar cfg.detect
  let (tracked, latch, justValid) :=
    updateTracked run.tracked bar candles cfg printed run.latch run.latchSignalBar false
  match printed with
  | none => ({ run with tracked, latch }, justValid)
  | some d =>
    ({ tracked := tracked ++ [d.track atr bar], latch := some (d.latch atr), latchSignalBar := some bar },
      true)

/-- The average over the candles up to a bar, as the reference recomputes it. -/
def atrAt (candles : List Candle) (cfg : DetectorConfig) (bar : Nat) : Option Rat :=
  wilderAtr (candles.take (bar + 1)) (atrLengthFor cfg.granularity)

/-- The replay before bar `bound`. -/
def replayed (candles : List Candle) (cfg : DetectorConfig) (bound : Nat) : Replay :=
  countedRun (fun run bar => (replayTurn candles cfg (atrAt candles cfg bar) run bar).1) {} bound

theorem replayed_succ (candles : List Candle) (cfg : DetectorConfig) (bound : Nat) :
    replayed candles cfg (bound + 1) =
      (replayTurn candles cfg (atrAt candles cfg bound) (replayed candles cfg bound) bound).1 :=
  countedRun_succ _ _ _

theorem latchedSignalAtBar_turn (candles : List Candle) (asOf : Nat) (cfg : DetectorConfig)
    (run : Replay) (fired : Bool) (bar : Nat) :
    latchedSignalAtBar candles asOf cfg (run, fired) bar =
      ((replayTurn candles cfg (atrAt candles cfg bar) run bar).1,
        fired || (decide (bar = asOf) && (replayTurn candles cfg (atrAt candles cfg bar) run bar).2)) := by
  unfold latchedSignalAtBar replayTurn
  dsimp only
  cases detectAt candles bar cfg.detect with
  | none => rfl
  | some d => 
    by_cases last : bar = asOf
    · simp [last, atrAt]
    · simp [last, atrAt]

/-- Bars before the as-of bar leave its alert unfired. -/
theorem latchedSignalAtBar_before (candles : List Candle) (asOf : Nat) (cfg : DetectorConfig)
    {bound : Nat} (before : bound ≤ asOf) :
    countedRun (latchedSignalAtBar candles asOf cfg) ({}, false) bound =
      (replayed candles cfg bound, false) := by
  induction bound with
  | zero => rfl
  | succ bound ih =>
    have earlier : bound ≠ asOf := by omega
    rw [countedRun_succ, ih (by omega), latchedSignalAtBar_turn, replayed_succ]
    simp only [earlier, decide_false, Bool.false_and, Bool.or_false]

/-- The reference answer of a bar, read off the replay. -/
theorem latchedSignalAt_eq {candles : List Candle} {asOf : Nat} (cfg : DetectorConfig)
    (inRange : asOf < candles.length) :
    latchedSignalAt candles asOf cfg =
      emit candles cfg (replayed candles cfg (asOf + 1))
        (replayTurn candles cfg (atrAt candles cfg asOf) (replayed candles cfg asOf) asOf).2 := by
  have within : ¬candles.length ≤ asOf := by omega
  rw [latchedSignalAt, if_neg within, countedRun_succ, latchedSignalAtBar_before candles asOf cfg le_rfl,
    latchedSignalAtBar_turn, replayed_succ]
  simp only [decide_true, Bool.true_and, Bool.false_or]

theorem latchedSignalHistoryBar_turn {candles : List Candle} {bar : Nat} {candle : Candle}
    (cfg : DetectorConfig) (past : HistoryRun) (found : candles[bar]? = some candle) :
    latchedSignalHistoryBar candles cfg past bar =
      let atr := past.atr.next (atrLengthFor cfg.granularity) bar candle
      let turn := replayTurn candles cfg atr.atrRunning past.run bar
      { run := turn.1, atr, out := past.out ++ [emit candles cfg turn.1 turn.2] } := by
  unfold latchedSignalHistoryBar replayTurn
  cases printed : detectAt candles bar cfg.detect with
  | none => simp only [found]
  | some d => simp only [found]

/-- The one-pass run between two bars: the replay's state and the average so far. -/
structure HistoryRun.Follows (past : HistoryRun) (candles : List Candle) (cfg : DetectorConfig)
    (bound : Nat) : Prop where
  run : past.run = replayed candles cfg bound
  atr : past.atr.Follows (atrLengthFor cfg.granularity) (candles.take bound)

/-- One bar of the one-pass run keeps step with the replay and answers as the reference does. -/
theorem HistoryRun.Follows.next {past : HistoryRun} {candles : List Candle} {cfg : DetectorConfig}
    {bound : Nat} (follows : past.Follows candles cfg bound) (below : bound < candles.length) :
    (latchedSignalHistoryBar candles cfg past bound).Follows candles cfg (bound + 1) ∧
      (latchedSignalHistoryBar candles cfg past bound).out =
        past.out ++ [latchedSignalAt candles bound cfg] := by
  have found : candles[bound]? = some candles[bound] := List.getElem?_eq_getElem below
  have grown : candles.take bound ++ [candles[bound]] = candles.take (bound + 1) :=
    List.take_append_getElem below
  have length : (candles.take bound).length = bound := by
    rw [List.length_take]
    omega
  have average := follows.atr.next candles[bound]
  rw [grown, length] at average
  have sameAtr : (past.atr.next (atrLengthFor cfg.granularity) bound candles[bound]).atrRunning =
      atrAt candles cfg bound := average.atrRunning
  rw [latchedSignalHistoryBar_turn cfg past found]
  dsimp only
  rw [sameAtr, follows.run, ← replayed_succ, latchedSignalAt_eq cfg below]
  exact ⟨⟨rfl, average⟩, rfl⟩

theorem latchedSignalHistory_follows (candles : List Candle) (cfg : DetectorConfig) {bound : Nat}
    (inRange : bound ≤ candles.length) :
    (countedRun (latchedSignalHistoryBar candles cfg) {} bound).Follows candles cfg bound := by
  refine countedRun_invariant (fun turn past => HistoryRun.Follows past candles cfg turn)
    ⟨rfl, RunningAtr.follows_start _⟩ fun turn past below follows => ?_
  exact (follows.next (by omega)).1

/-- The one-pass history is the reference replay of every bar, one slot a candle. -/
theorem latchedSignalHistory_eachBar (candles : List Candle) (cfg : DetectorConfig) :
    (latchedSignalHistory candles cfg).length = candles.length ∧
      latchedSignalHistory candles cfg =
        (List.range candles.length).map fun bar => latchedSignalAt candles bar cfg := by
  have answers : latchedSignalHistory candles cfg =
      (List.range candles.length).map fun bar => latchedSignalAt candles bar cfg := by
    refine countedRun_answers rfl fun bar below => ?_
    have follows := latchedSignalHistory_follows candles cfg below.le
    exact (follows.next below).2
  refine ⟨?_, answers⟩
  rw [answers, List.length_map, List.length_range]

/-- The signal a bar prints, as it enters the tracked list. -/
def printAt (candles : List Candle) (cfg : DetectorConfig) (bar : Nat) : Option Tracked :=
  (detectAt candles bar cfg.detect).map fun d => d.track (atrAt candles cfg bar) bar

/-- What bar `bar` does to a tracked signal. -/
def Tracked.atBar (t : Tracked) (candles : List Candle) (cfg : DetectorConfig) (bar : Nat) : Tracked :=
  match candles[bar]? with
  | none => t
  | some c => t.update bar c cfg.confirmBars
      (opposerGoldenFor candles bar cfg (detectAt candles bar cfg.detect) t.direction)

/-- A signal after the `elapsed` bars that follow its print. -/
def Tracked.lived (t : Tracked) (candles : List Candle) (cfg : DetectorConfig) : Nat → Tracked
  | 0 => t
  | elapsed + 1 => (t.lived candles cfg elapsed).atBar candles cfg (t.signalBar + elapsed + 1)

/-- The tracked list before bar `bound`: each print, as far as it has lived. -/
def trackedBefore (candles : List Candle) (cfg : DetectorConfig) (bound : Nat) : List Tracked :=
  (List.range bound).filterMap fun bar =>
    (printAt candles cfg bar).map fun t => t.lived candles cfg (bound - 1 - bar)

theorem updateEach_tracked (update : Tracked → Tracked) (latchSignalBar : Option Nat)
    (tracked : List Tracked) (latch : Option Latch) (justValid : Bool) :
    (updateEach update latchSignalBar tracked latch justValid).1 = tracked.map update := by
  induction tracked generalizing latch justValid with
  | nil => rfl
  | cons t rest ih =>
    rw [updateEach, List.map_cons]
    exact congrArg (update t :: ·) (ih _ _)

/-- Tracked signals move independently of each other and of the latch. -/
theorem updateTracked_tracked (tracked : List Tracked) (bar : Nat) (candles : List Candle)
    (cfg : DetectorConfig) (latch : Option Latch) (latchSignalBar : Option Nat) (justValid : Bool) :
    (updateTracked tracked bar candles cfg (detectAt candles bar cfg.detect) latch latchSignalBar
      justValid).1 = tracked.map fun t => t.atBar candles cfg bar := by
  unfold updateTracked Tracked.atBar
  cases candles[bar]? with
  | none => simp
  | some c => exact updateEach_tracked _ _ _ _ _

/-- A bar changes only where a signal stands and whether it has broken out. -/
theorem Tracked.update_data (t : Tracked) (bar : Nat) (c : Candle) (confirmBars : Nat)
    (opposer : Option Bool) : ∃ state broke, t.update bar c confirmBars opposer = { t with state, broke } := by
  unfold Tracked.update
  split
  · exact ⟨t.state, t.broke, rfl⟩
  · exact ⟨_, _, rfl⟩

theorem Tracked.atBar_data (t : Tracked) (candles : List Candle) (cfg : DetectorConfig) (bar : Nat) :
    ∃ state broke, t.atBar candles cfg bar = { t with state, broke } := by
  unfold Tracked.atBar
  split
  · exact ⟨t.state, t.broke, rfl⟩
  · exact t.update_data _ _ _ _

theorem Tracked.lived_data (t : Tracked) (candles : List Candle) (cfg : DetectorConfig) (elapsed : Nat) :
    ∃ state broke, t.lived candles cfg elapsed = { t with state, broke } := by
  induction elapsed with
  | zero => exact ⟨t.state, t.broke, rfl⟩
  | succ elapsed ih =>
    obtain ⟨state, broke, same⟩ := ih
    obtain ⟨state', broke', moved⟩ :=
      (t.lived candles cfg elapsed).atBar_data candles cfg (t.signalBar + elapsed + 1)
    refine ⟨state', broke', ?_⟩
    rw [lived, moved, same]

@[simp] theorem Tracked.lived_signalBar (t : Tracked) (candles : List Candle) (cfg : DetectorConfig)
    (elapsed : Nat) : (t.lived candles cfg elapsed).signalBar = t.signalBar := by
  obtain ⟨_, _, same⟩ := t.lived_data candles cfg elapsed
  rw [same]

theorem printAt_signalBar {candles : List Candle} {cfg : DetectorConfig} {bar : Nat} {t : Tracked}
    (printed : printAt candles cfg bar = some t) : t.signalBar = bar := by
  obtain ⟨d, _, rfl⟩ := Option.map_eq_some_iff.mp printed
  rfl

theorem printAt_inRange {candles : List Candle} {cfg : DetectorConfig} {bar : Nat} {t : Tracked}
    (printed : printAt candles cfg bar = some t) : bar < candles.length := by
  obtain ⟨d, detected, _⟩ := Option.map_eq_some_iff.mp printed
  exact detectAt_inRange detected

/-- One bar ages every tracked signal and adds the bar's own print. -/
theorem trackedBefore_succ (candles : List Candle) (cfg : DetectorConfig) (bar : Nat) :
    trackedBefore candles cfg (bar + 1) =
      (trackedBefore candles cfg bar).map (fun t => t.atBar candles cfg bar) ++
        (printAt candles cfg bar).toList := by
  have aged : (List.range bar).filterMap (fun p =>
      (printAt candles cfg p).map fun t => t.lived candles cfg (bar + 1 - 1 - p)) =
      (trackedBefore candles cfg bar).map fun t => t.atBar candles cfg bar := by
    rw [trackedBefore, List.map_filterMap]
    refine List.filterMap_congr fun p below => ?_
    have before : p < bar := List.mem_range.mp below
    rw [Option.map_map]
    cases printed : printAt candles cfg p with
    | none => rfl
    | some t =>
      have elapsed : bar + 1 - 1 - p = (bar - 1 - p) + 1 := by omega
      have onBar : t.signalBar + (bar - 1 - p) + 1 = bar := by
        have := printAt_signalBar printed
        omega
      rw [Option.map_some, Option.map_some, elapsed, Tracked.lived, onBar]
      rfl
  rw [trackedBefore, List.range_succ, List.filterMap_append, aged]
  congr 1
  cases printed : printAt candles cfg bar with
  | none => simp [printed]
  | some t => simp [printed, Tracked.lived]

/-- A tracked signal is a print that has lived up to now. -/
theorem mem_trackedBefore {candles : List Candle} {cfg : DetectorConfig} {bound : Nat} {t : Tracked} :
    t ∈ trackedBefore candles cfg bound ↔
      ∃ bar print, bar < bound ∧ printAt candles cfg bar = some print ∧
        t = print.lived candles cfg (bound - 1 - bar) := by
  rw [trackedBefore, List.mem_filterMap]
  constructor
  · rintro ⟨bar, below, found⟩
    obtain ⟨print, printed, rfl⟩ := Option.map_eq_some_iff.mp found
    exact ⟨bar, print, List.mem_range.mp below, printed, rfl⟩
  · rintro ⟨bar, print, below, printed, rfl⟩
    exact ⟨bar, List.mem_range.mpr below, by rw [printed]; rfl⟩

/-- The print a bar of the past left in the tracked list is found under its bar. -/
theorem find_trackedBefore {candles : List Candle} {cfg : DetectorConfig} {bound bar : Nat}
    {print : Tracked} (below : bar < bound) (printed : printAt candles cfg bar = some print) :
    (trackedBefore candles cfg bound).find? (fun t => t.signalBar == bar) =
      some (print.lived candles cfg (bound - 1 - bar)) := by
  have member := mem_trackedBefore.mpr ⟨bar, print, below, printed, rfl⟩
  have itself : (print.lived candles cfg (bound - 1 - bar)).signalBar = bar := by
    rw [Tracked.lived_signalBar, printAt_signalBar printed]
  cases found : (trackedBefore candles cfg bound).find? (fun t => t.signalBar == bar) with
  | none =>
    have missing := List.find?_eq_none.mp found _ member
    exact absurd (beq_iff_eq.mpr itself) missing
  | some t =>
    have onBar : t.signalBar = bar := by simpa using List.find?_some found
    obtain ⟨bar', print', _, printed', rfl⟩ := mem_trackedBefore.mp (List.mem_of_find?_eq_some found)
    rw [Tracked.lived_signalBar, printAt_signalBar printed'] at onBar
    subst onBar
    rw [printed] at printed'
    cases printed'
    rfl

/-- A tracked signal as a waiting, confirmed or dead life. -/
def Tracked.life (t : Tracked) : Life :=
  match t.state with
  | .pending => .waiting t.broke
  | .valid => .confirmed
  | .invalid => .dead

theorem Tracked.life_confirmed_iff (t : Tracked) : t.life = .confirmed ↔ t.state = .valid := by
  unfold Tracked.life
  cases t.state <;> simp

theorem printAt_fresh {candles : List Candle} {cfg : DetectorConfig} {bar : Nat} {t : Tracked}
    (printed : printAt candles cfg bar = some t) : t.life = .waiting false := by
  obtain ⟨d, _, rfl⟩ := Option.map_eq_some_iff.mp printed
  rfl

/-- An opposing print refutes a signal that golden-protect does not cover. -/
def Tracked.opposedBy (t : Tracked) : Option Bool → Bool
  | none => false
  | some oppGolden => !(t.golden && !oppGolden)

/-- What refutes a signal on a bar: a breach, or inside the window an unprotected opposer. -/
def Tracked.struck (t : Tracked) (c : Candle) (confirmBars elapsed : Nat) (opposer : Option Bool) : Bool :=
  t.breached c || (decide (elapsed ≤ confirmBars) && t.opposedBy opposer)

/-- Where the window leaves a signal that nothing strikes. -/
def Tracked.resolved (t : Tracked) (c : Candle) (confirmBars elapsed : Nat) : SigState × Bool :=
  let broke := t.broke || (decide (t.state = .pending ∧ elapsed ≤ confirmBars) && t.pushed c)
  (if t.state = .pending ∧ confirmBars ≤ elapsed then if broke then .valid else .invalid else t.state,
    broke)

/-- The update's rules in their order come to: a strike refutes, else the window resolves. -/
theorem Tracked.update_alive {t : Tracked} (alive : t.state ≠ .invalid) (bar : Nat) (c : Candle)
    (confirmBars : Nat) (opposer : Option Bool) :
    let elapsed := bar - t.signalBar
    t.update bar c confirmBars opposer =
      { t with
        state := if t.struck c confirmBars elapsed opposer then .invalid
          else (t.resolved c confirmBars elapsed).1
        broke := (t.resolved c confirmBars elapsed).2 } := by
  unfold Tracked.update Tracked.struck
  rw [if_neg alive]
  dsimp only
  congr 1
  change _ = if _ then SigState.invalid else (t.resolved c confirmBars (bar - t.signalBar)).1
  by_cases breach : t.breached c
  · cases opposer <;> simp [breach]
  · cases opposer with
    | none => simp [breach, opposedBy, resolved]
    | some oppGolden =>
      by_cases inside : bar - t.signalBar ≤ confirmBars
      · cases shielded : t.golden && !oppGolden
        · simp [breach, opposedBy, inside, shielded]
        · simp [breach, opposedBy, inside, shielded, resolved]
      · simp [breach, inside, resolved]

/-- One update is one tick of the signal's life. -/
theorem Tracked.update_life (t : Tracked) (bar : Nat) (c : Candle) (confirmBars : Nat)
    (opposer : Option Bool) :
    (t.update bar c confirmBars opposer).life =
      t.life.tick confirmBars (bar - t.signalBar) (t.pushed c)
        (t.struck c confirmBars (bar - t.signalBar) opposer) := by
  by_cases dead : t.state = .invalid
  · have still : t.update bar c confirmBars opposer = t := by rw [Tracked.update, if_pos dead]
    rw [still, Tracked.life, dead]
    rfl
  · rw [Tracked.update_alive dead]
    generalize bar - t.signalBar = elapsed
    generalize t.struck c confirmBars elapsed opposer = struck
    cases standing : t.state with
    | invalid => exact absurd standing dead
    | valid => cases struck <;> simp [Tracked.life, Tracked.resolved, Life.tick, standing]
    | pending =>
      by_cases closed : confirmBars ≤ elapsed
      · by_cases pushed : t.broke = true ∨ elapsed ≤ confirmBars ∧ t.pushed c = true <;>
          cases struck <;> simp [Tracked.life, Tracked.resolved, Life.tick, standing, closed, pushed]
      · cases struck <;> simp [Tracked.life, Tracked.resolved, Life.tick, standing, closed]

/-- The bar `elapsed` bars after a signal's print trades beyond the signal's extreme. -/
def Tracked.pushAt (t : Tracked) (candles : List Candle) (elapsed : Nat) : Bool :=
  candles[t.signalBar + elapsed]?.any t.pushed

/-- The bar `elapsed` bars after a signal's print refutes the signal. -/
def Tracked.strikeAt (t : Tracked) (candles : List Candle) (cfg : DetectorConfig) (elapsed : Nat) :
    Bool :=
  let bar := t.signalBar + elapsed
  candles[bar]?.any fun c => t.struck c cfg.confirmBars elapsed
    (opposerGoldenFor candles bar cfg (detectAt candles bar cfg.detect) t.direction)

/-- A signal lives by its own pushes and strikes, whatever else is tracked. -/
theorem Tracked.lived_life {t : Tracked} {candles : List Candle} (cfg : DetectorConfig) {elapsed : Nat}
    (fresh : t.life = .waiting false) (inRange : t.signalBar + elapsed < candles.length) :
    (t.lived candles cfg elapsed).life =
      Life.after cfg.confirmBars (t.pushAt candles) (t.strikeAt candles cfg) elapsed := by
  induction elapsed with
  | zero => exact fresh
  | succ elapsed ih =>
    obtain ⟨state, broke, same⟩ := t.lived_data candles cfg elapsed
    have found : candles[t.signalBar + (elapsed + 1)]? = some candles[t.signalBar + (elapsed + 1)] :=
      List.getElem?_eq_getElem inRange
    have ticks : t.signalBar + elapsed + 1 - t.signalBar = elapsed + 1 := by omega
    rw [Tracked.lived, Life.after, ← ih (by omega), Tracked.atBar, Nat.add_assoc, found]
    dsimp only
    rw [Tracked.update_life, Tracked.lived_signalBar, Nat.add_sub_cancel_left, Tracked.pushAt,
      Tracked.strikeAt, found, same]
    rfl

end TradeControl
