import TradeControl.DetectMirror
import TradeControl.TrackedLives

namespace TradeControl

open Foundation

theorem trueRange_mirror (c : Candle) (prevClose : Option Rat) :
    trueRange c.mirror (prevClose.map (- ·)) = trueRange c prevClose := by
  have range : -c.l - -c.h = c.h - c.l := neg_sub_neg c.l c.h
  cases prevClose with
  | none => exact range
  | some pc =>
    simp only [trueRange, Option.map_some, Candle.mirror, range, negDistance]
    exact max_right_comm _ _ _

theorem trueRanges_mirror (candles : List Candle) (prevClose : Option Rat) :
    trueRanges (prevClose.map (- ·)) (candles.map Candle.mirror) = trueRanges prevClose candles := by
  induction candles generalizing prevClose with
  | nil => rfl
  | cons c rest ih =>
    have next := ih (some c.c)
    rw [List.map_cons, trueRanges, trueRanges, trueRange_mirror, ← next]
    rfl

/-- The average range of mirrored candles is the same average. -/
theorem wilderAtr_mirror (candles : List Candle) (length : Nat) :
    wilderAtr (candles.map Candle.mirror) length = wilderAtr candles length := by
  have ranges := trueRanges_mirror candles none
  rw [Option.map_none] at ranges
  simp only [wilderAtr, List.length_map, ranges]

theorem atrAt_mirror (candles : List Candle) (cfg : DetectorConfig) (bar : Nat) :
    atrAt (candles.map Candle.mirror) cfg bar = atrAt candles cfg bar := by
  rw [atrAt, atrAt, ← List.map_take, wilderAtr_mirror]

def Tracked.mirror (t : Tracked) : Tracked :=
  { t with direction := t.direction.opposite, high := -t.low, low := -t.high, bandAnchor := -t.bandAnchor }

def Latch.mirror (l : Latch) : Latch :=
  { l with direction := l.direction.opposite, high := -l.low, low := -l.high, bandAnchor := -l.bandAnchor }

def Replay.mirror (run : Replay) : Replay :=
  { tracked := run.tracked.map Tracked.mirror
    latch := run.latch.map Latch.mirror
    latchSignalBar := run.latchSignalBar }

/-- The same latched signal, the other way up. -/
def LatchedSignal.mirror (s : LatchedSignal) : LatchedSignal :=
  { s with
    direction := s.direction.opposite
    signalHigh := -s.signalLow
    signalLow := -s.signalHigh
    bandAnchor := -s.bandAnchor
    recentHigh := s.recentLow.map (- ·)
    recentLow := s.recentHigh.map (- ·) }

theorem Detected.mirror_track (d : Detected) (atr : Option Rat) (bar : Nat) :
    d.mirror.track atr bar = (d.track atr bar).mirror := rfl

theorem Detected.mirror_latch (d : Detected) (atr : Option Rat) : d.mirror.latch atr = (d.latch atr).mirror := rfl

theorem Tracked.pushed_mirror (t : Tracked) (c : Candle) : t.mirror.pushed c.mirror = t.pushed c := by
  rcases t with ⟨direction⟩
  cases direction <;> simp only [Tracked.pushed, Tracked.mirror, Candle.mirror, Direction.opposite, neg_lt_neg_iff]

theorem Tracked.breached_mirror (t : Tracked) (c : Candle) : t.mirror.breached c.mirror = t.breached c := by
  rcases t with ⟨direction⟩
  cases direction <;>
    simp only [Tracked.breached, Tracked.mirror, Candle.mirror, Direction.opposite, neg_lt_neg_iff]

theorem opposerGoldenFor_mirror (candles : List Candle) (bar : Nat) (cfg : DetectorConfig)
    (printed : Option Detected) (dir : Direction) :
    opposerGoldenFor (candles.map Candle.mirror) bar cfg (printed.map Detected.mirror) dir.opposite =
      opposerGoldenFor candles bar cfg printed dir := by
  cases printed with
  | none => rfl
  | some d =>
    have opposed : d.mirror.direction ≠ dir.opposite ↔ d.direction ≠ dir :=
      not_congr Direction.opposite_eq_iff
    simp only [opposerGoldenFor, Option.map_some, opposed, ← List.map_take, wilderAtr_mirror]
    rfl

theorem Tracked.update_mirror (t : Tracked) (bar : Nat) (c : Candle) (confirmBars : Nat)
    (opposer : Option Bool) :
    t.mirror.update bar c.mirror confirmBars opposer = (t.update bar c confirmBars opposer).mirror := by
  have pushed := Tracked.pushed_mirror t c
  have breached := Tracked.breached_mirror t c
  unfold Tracked.update
  rw [pushed, breached]
  by_cases dead : t.state = .invalid
  · have mirrorDead : t.mirror.state = .invalid := dead
    rw [if_pos mirrorDead, if_pos dead]
  · have mirrorAlive : t.mirror.state ≠ .invalid := dead
    rw [if_neg mirrorAlive, if_neg dead]
    rfl

theorem updateEach_mirror {update update' : Tracked → Tracked}
    (mirrored : ∀ t, update' t.mirror = (update t).mirror) (latchSignalBar : Option Nat)
    (tracked : List Tracked) (latch : Option Latch) (justValid : Bool) :
    updateEach update' latchSignalBar (tracked.map Tracked.mirror) (latch.map Latch.mirror) justValid =
      ((updateEach update latchSignalBar tracked latch justValid).1.map Tracked.mirror,
        (updateEach update latchSignalBar tracked latch justValid).2.1.map Latch.mirror,
        (updateEach update latchSignalBar tracked latch justValid).2.2) := by
  induction tracked generalizing latch justValid with
  | nil => rfl
  | cons t rest ih =>
    have state : (update' t.mirror).state = (update t).state := by
      rw [mirrored]
      rfl
    have confirmed : ∀ mark : Bool, (latch.map Latch.mirror).map (fun l => { l with confirmed := mark }) =
        (latch.map fun l => { l with confirmed := mark }).map Latch.mirror := by
      intro mark
      cases latch <;> rfl
    have signalBar : t.mirror.signalBar = t.signalBar := rfl
    have before : t.mirror.state = t.state := rfl
    rw [List.map_cons, updateEach, updateEach]
    dsimp only
    rw [state, signalBar, before, confirmed, confirmed, ← apply_ite, ← apply_ite, ih, mirrored]
    rfl

theorem updateTracked_mirror (tracked : List Tracked) (bar : Nat) (candles : List Candle) (cfg : DetectorConfig)
    (printed : Option Detected) (latch : Option Latch) (latchSignalBar : Option Nat) (justValid : Bool) :
    updateTracked (tracked.map Tracked.mirror) bar (candles.map Candle.mirror) cfg (printed.map Detected.mirror)
        (latch.map Latch.mirror) latchSignalBar justValid =
      ((updateTracked tracked bar candles cfg printed latch latchSignalBar justValid).1.map Tracked.mirror,
        (updateTracked tracked bar candles cfg printed latch latchSignalBar justValid).2.1.map Latch.mirror,
        (updateTracked tracked bar candles cfg printed latch latchSignalBar justValid).2.2) := by
  unfold updateTracked
  rw [List.getElem?_map]
  cases candles[bar]? with
  | none => rfl
  | some c =>
    refine updateEach_mirror (fun t => ?_) latchSignalBar tracked latch justValid
    have opposer := opposerGoldenFor_mirror candles bar cfg printed t.direction
    rw [← Tracked.update_mirror, ← opposer]
    rfl

theorem replayTurn_mirror (candles : List Candle) (cfg : DetectorConfig) (atr : Option Rat) (run : Replay)
    (bar : Nat) :
    replayTurn (candles.map Candle.mirror) cfg atr run.mirror bar =
      ((replayTurn candles cfg atr run bar).1.mirror, (replayTurn candles cfg atr run bar).2) := by
  unfold replayTurn
  dsimp only [Replay.mirror]
  rw [detectAt_mirror, updateTracked_mirror]
  cases detectAt candles bar cfg.detect with
  | none => rfl
  | some d =>
    simp only [Option.map_some, Detected.mirror_track, Detected.mirror_latch, List.map_append, List.map_cons,
      List.map_nil]

/-- The replay of mirrored candles is the mirrored replay. -/
theorem replayed_mirror (candles : List Candle) (cfg : DetectorConfig) (bound : Nat) :
    replayed (candles.map Candle.mirror) cfg bound = (replayed candles cfg bound).mirror := by
  induction bound with
  | zero => rfl
  | succ bound ih => rw [replayed_succ, replayed_succ, ih, atrAt_mirror, replayTurn_mirror]

theorem highest_mirror (candles : List Candle) (best : Rat) :
    (candles.map Candle.mirror).foldl (fun hi c => max hi c.h) (-best) =
      -candles.foldl (fun lo c => min lo c.l) best := by
  induction candles generalizing best with
  | nil => rfl
  | cons c rest ih =>
    have step : max (-best) c.mirror.h = -min best c.l := max_neg_neg best c.l
    rw [List.map_cons, List.foldl_cons, List.foldl_cons, step, ih]

theorem lowest_mirror (candles : List Candle) (best : Rat) :
    (candles.map Candle.mirror).foldl (fun lo c => min lo c.l) (-best) =
      -candles.foldl (fun hi c => max hi c.h) best := by
  induction candles generalizing best with
  | nil => rfl
  | cons c rest ih =>
    have step : min (-best) c.mirror.l = -max best c.h := min_neg_neg best c.h
    rw [List.map_cons, List.foldl_cons, List.foldl_cons, step, ih]

theorem recentExtremes_mirror (candles : List Candle) (signalBar lookback : Nat) :
    recentExtremes (candles.map Candle.mirror) signalBar lookback =
      ((recentExtremes candles signalBar lookback).2.map (- ·),
        (recentExtremes candles signalBar lookback).1.map (- ·)) := by
  unfold recentExtremes
  split
  · rfl
  · rw [← List.map_take, ← List.map_drop]
    cases (candles.take signalBar).drop (signalBar - lookback) with
    | nil => rfl
    | cons first rest =>
      have high := highest_mirror rest first.l
      have low := lowest_mirror rest first.h
      simp only [List.map_cons, Option.map_some, ← high, ← low]
      rfl

theorem emit_mirror (candles : List Candle) (cfg : DetectorConfig) (run : Replay) (fires : Bool) :
    emit (candles.map Candle.mirror) cfg run.mirror fires =
      (emit candles cfg run fires).map LatchedSignal.mirror := by
  have state : ∀ bar, ((run.tracked.map Tracked.mirror).find? fun t => t.signalBar == bar).map (·.state) =
      (run.tracked.find? fun t => t.signalBar == bar).map (·.state) := by
    intro bar
    rw [List.find?_map, Option.map_map]
    rfl
  rcases run with ⟨tracked, latch, latchSignalBar⟩
  unfold emit
  dsimp only [Replay.mirror] at state ⊢
  cases latch with
  | none => rfl
  | some latch =>
    cases latchSignalBar with
    | none => rfl
    | some signalBar =>
      simp only [Option.map_some, List.getElem?_map, recentExtremes_mirror, state]
      cases candles[signalBar]? with
      | none => rfl
      | some signalCandle => rfl

/-- The latched signal of mirrored candles is the mirrored latched signal. -/
theorem latchedSignalAt_mirror (candles : List Candle) (asOf : Nat) (cfg : DetectorConfig) :
    latchedSignalAt (candles.map Candle.mirror) asOf cfg =
      (latchedSignalAt candles asOf cfg).map LatchedSignal.mirror := by
  by_cases inRange : asOf < candles.length
  · have mirrorInRange : asOf < (candles.map Candle.mirror).length := by rwa [List.length_map]
    rw [latchedSignalAt_eq cfg inRange, latchedSignalAt_eq cfg mirrorInRange, replayed_mirror, replayed_mirror,
      atrAt_mirror, replayTurn_mirror, emit_mirror]
  · have beyond : candles.length ≤ asOf := by omega
    rw [latchedSignalAt, latchedSignalAt, List.length_map, if_pos beyond, if_pos beyond]
    rfl

/-- The detector and its state machine are symmetric in direction: mirrored candles print the mirrored
pattern on every bar and latch the mirrored signal, and no bar satisfies a pattern of each direction. -/
theorem detector_mirrors (candles : List Candle) (cfg : DetectorConfig) :
    (∀ i flags, detectAt (candles.map Candle.mirror) i flags =
        (detectAt candles i flags).map Detected.mirror) ∧
      (∀ asOf, latchedSignalAt (candles.map Candle.mirror) asOf cfg =
        (latchedSignalAt candles asOf cfg).map LatchedSignal.mirror) ∧
      ∀ i flags, (satisfies candles i flags .long && satisfies candles i flags .short) = false :=
  ⟨detectAt_mirror candles, fun asOf => latchedSignalAt_mirror candles asOf cfg, satisfies_oneWay candles⟩

end TradeControl
