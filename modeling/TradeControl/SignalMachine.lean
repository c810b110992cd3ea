import TradeControl.CandleMetrics
import TradeControl.DetectPatterns
import TradeControl.Foundation.Loops

namespace TradeControl

open Foundation

structure DetectorConfig where
  detect : DetectFlags
  confirmBars : Nat
  slLookback : Nat
  granularity : Granularity

def DetectorConfig.pineDefaults (granularity : Granularity) : DetectorConfig :=
  { detect := {}, confirmBars := 2, slLookback := 5, granularity }

inductive SigState
  | pending
  | valid
  | invalid
  deriving DecidableEq

/-- The latched signal as of a bar, and whether the pattern alert fires on that bar. -/
structure LatchedSignal where
  direction : Direction
  kind : SignalKind
  signalHigh : Rat
  signalLow : Rat
  signalRange : Rat
  signalStartTime : Int
  signalBarTime : Int
  golden : Bool
  signalConfirmed : Bool
  bandAnchor : Rat
  atr : Option Rat
  recentHigh : Option Rat
  recentLow : Option Rat
  state : SigState
  fires : Bool
  deriving DecidableEq

/-- One printed signal on its way through the confirm window. -/
structure Tracked where
  direction : Direction
  high : Rat
  low : Rat
  range : Rat
  kind : SignalKind
  startTime : Int
  bandAnchor : Rat
  atr : Option Rat
  signalBar : Nat
  state : SigState
  golden : Bool
  broke : Bool
  deriving DecidableEq

/-- The latch carried across bars. -/
structure Latch where
  direction : Direction
  kind : SignalKind
  high : Rat
  low : Rat
  range : Rat
  startTime : Int
  bandAnchor : Rat
  golden : Bool
  confirmed : Bool
  atr : Option Rat
  deriving DecidableEq

/-- A signal prints golden when its size reaches the average range of its bar. -/
def printsGolden (atr : Option Rat) (d : Detected) : Bool := atr.any d.isGolden

def Detected.track (d : Detected) (atr : Option Rat) (bar : Nat) : Tracked :=
  { direction := d.direction
    high := d.geometry.high
    low := d.geometry.low
    range := d.geometry.range
    kind := d.geometry.kind
    startTime := d.geometry.startTime
    bandAnchor := d.geometry.bandAnchor
    atr
    signalBar := bar
    state := .pending
    golden := printsGolden atr d
    broke := false }

def Detected.latch (d : Detected) (atr : Option Rat) : Latch :=
  { direction := d.direction
    kind := d.geometry.kind
    high := d.geometry.high
    low := d.geometry.low
    range := d.geometry.range
    startTime := d.geometry.startTime
    bandAnchor := d.geometry.bandAnchor
    golden := printsGolden atr d
    confirmed := false
    atr }

/-- Price trades beyond the signal's extreme. -/
def Tracked.pushed (t : Tracked) (c : Candle) : Bool :=
  match t.direction with
  | .long => t.high < c.h
  | .short => c.l < t.low

/-- Price trades through the signal's opposite extreme. -/
def Tracked.breached (t : Tracked) (c : Candle) : Bool :=
  match t.direction with
  | .long => c.l < t.low
  | .short => t.high < c.h

/-- Whether this bar's print opposes a signal of direction `dir`, and if so whether it is golden. -/
def opposerGoldenFor (candles : List Candle) (bar : Nat) (cfg : DetectorConfig)
    (printed : Option Detected) (dir : Direction) : Option Bool :=
  match printed with
  | none => none
  | some d =>
    if d.direction ≠ dir then
      some (printsGolden (wilderAtr (candles.take (bar + 1)) (atrLengthFor cfg.granularity)) d)
    else none

/-- One signal's update on a bar: a push is remembered, the window's end resolves it, and a
breach or an unprotected opposing print refutes it. -/
def Tracked.update (t : Tracked) (bar : Nat) (c : Candle) (confirmBars : Nat)
    (opposer : Option Bool) : Tracked :=
  if t.state = .invalid then t
  else
    let barsElapsed := bar - t.signalBar
    let broke := t.broke || (decide (t.state = .pending ∧ barsElapsed ≤ confirmBars) && t.pushed c)
    let resolved :=
      if t.state = .pending ∧ confirmBars ≤ barsElapsed then
        if broke then SigState.valid else .invalid
      else t.state
    let standing := if t.breached c then SigState.invalid else resolved
    let newState :=
      match opposer with
      | none => standing
      | some oppGolden =>
        if barsElapsed ≤ confirmBars ∧ standing ≠ .invalid ∧ !(t.golden && !oppGolden) then .invalid
        else standing
    { t with broke, state := newState }

/-- The loop over the tracked signals, in print order, with the latch and the alert it keeps. -/
def updateEach (update : Tracked → Tracked) (latchSignalBar : Option Nat) :
    List Tracked → Option Latch → Bool → List Tracked × Option Latch × Bool
  | [], latch, justValid => ([], latch, justValid)
  | t :: rest, latch, justValid =>
    let moved := update t
    let isLatched := decide (latchSignalBar = some t.signalBar)
    let changed := decide (moved.state ≠ t.state)
    let latch' :=
      if changed && isLatched && decide (moved.state = .valid) then
        latch.map fun l => { l with confirmed := true }
      else if changed && isLatched && decide (moved.state = .invalid) then
        latch.map fun l => { l with confirmed := false }
      else latch
    let justValid' := justValid || (changed && decide (moved.state = .valid))
    let (rest', done) := updateEach update latchSignalBar rest latch' justValid'
    (moved :: rest', done)

def updateTracked (tracked : List Tracked) (bar : Nat) (candles : List Candle) (cfg : DetectorConfig)
    (printed : Option Detected) (latch : Option Latch) (latchSignalBar : Option Nat)
    (justValid : Bool) : List Tracked × Option Latch × Bool :=
  match candles[bar]? with
  | none => (tracked, latch, justValid)
  | some c =>
    updateEach (fun t => t.update bar c cfg.confirmBars
      (opposerGoldenFor candles bar cfg printed t.direction)) latchSignalBar tracked latch justValid

/-- The highest high and lowest low of the `lookback` bars before the signal bar. -/
def recentExtremes (candles : List Candle) (signalBar lookback : Nat) : Option Rat × Option Rat :=
  if signalBar = 0 ∨ lookback = 0 then (none, none)
  else
    match (candles.take signalBar).drop (signalBar - lookback) with
    | [] => (none, none)
    | first :: rest =>
      (some (rest.foldl (fun hi c => max hi c.h) first.h),
        some (rest.foldl (fun lo c => min lo c.l) first.l))

/-- The replay's state between two bars. -/
structure Replay where
  tracked : List Tracked := []
  latch : Option Latch := none
  latchSignalBar : Option Nat := none

/-- The tail of the replay: the latched signal of one bar. -/
def emit (candles : List Candle) (cfg : DetectorConfig) (run : Replay) (fires : Bool) :
    Option LatchedSignal :=
  match run.latch, run.latchSignalBar with
  | some latch, some signalBar =>
    match candles[signalBar]? with
    | none => none
    | some signalCandle =>
      let (recentHigh, recentLow) := recentExtremes candles signalBar cfg.slLookback
      let state := ((run.tracked.find? fun t => t.signalBar == signalBar).map (·.state)).getD .pending
      some
        { direction := latch.direction
          kind := latch.kind
          signalHigh := latch.high
          signalLow := latch.low
          signalRange := latch.range
          signalStartTime := latch.startTime
          signalBarTime := signalCandle.time
          golden := latch.golden
          signalConfirmed := latch.confirmed
          bandAnchor := latch.bandAnchor
          atr := latch.atr
          recentHigh
          recentLow
          state
          fires }
  | _, _ => none

/-- One bar of the reference replay, which recomputes the average on every print. -/
def latchedSignalAtBar (candles : List Candle) (asOf : Nat) (cfg : DetectorConfig)
    (run : Replay × Bool) (bar : Nat) : Replay × Bool :=
  let (run, firedOnAsOf) := run
  let printed := detectAt candles bar cfg.detect
  let (tracked, latch, justValid) :=
    updateTracked run.tracked bar candles cfg printed run.latch run.latchSignalBar false
  let (run, firedOnAsOf) : Replay × Bool :=
    match printed with
    | none => ({ run with tracked, latch }, firedOnAsOf)
    | some d =>
      let atr := wilderAtr (candles.take (bar + 1)) (atrLengthFor cfg.granularity)
      ({ tracked := tracked ++ [d.track atr bar], latch := some (d.latch atr), latchSignalBar := some bar },
        firedOnAsOf || decide (bar = asOf))
  (run, firedOnAsOf || (decide (bar = asOf) && justValid))

def latchedSignalAt (candles : List Candle) (asOf : Nat) (cfg : DetectorConfig) : Option LatchedSignal :=
  if candles.length ≤ asOf then none
  else
    let (run, firedOnAsOf) := countedRun (latchedSignalAtBar candles asOf cfg) ({}, false) (asOf + 1)
    emit candles cfg run firedOnAsOf

/-- The state of the one-pass history: the replay, the carried average, the answers so far. -/
structure HistoryRun where
  run : Replay := {}
  atr : RunningAtr := {}
  out : List (Option LatchedSignal) := []

def latchedSignalHistoryBar (candles : List Candle) (cfg : DetectorConfig) (past : HistoryRun)
    (bar : Nat) : HistoryRun :=
  match candles[bar]? with
  | none => past
  | some candle =>
    let atr := past.atr.next (atrLengthFor cfg.granularity) bar candle
    let printed := detectAt candles bar cfg.detect
    let (tracked, latch, justValid) :=
      updateTracked past.run.tracked bar candles cfg printed past.run.latch past.run.latchSignalBar false
    let (run, fired) : Replay × Bool :=
      match printed with
      | none => ({ past.run with tracked, latch }, justValid)
      | some d =>
        ({ tracked := tracked ++ [d.track atr.atrRunning bar], latch := some (d.latch atr.atrRunning),
           latchSignalBar := some bar }, true)
    { run, atr, out := past.out ++ [emit candles cfg run fired] }

/-- Every bar's latched signal, in one forward pass. -/
def latchedSignalHistory (candles : List Candle) (cfg : DetectorConfig) : List (Option LatchedSignal) :=
  (countedRun (latchedSignalHistoryBar candles cfg) {} candles.length).out

structure SignalCriteria where
  dir : Direction
  kind : Option SignalKind := none
  requireGolden : Bool := false
  notBefore : Option Int := none
  after : Option Int := none

def SignalCriteria.admits (crit : SignalCriteria) (t : Tracked) (printTime : Int) : Bool :=
  let matchesDir := decide (t.direction = crit.dir) && crit.kind.all fun k => decide (t.kind = k)
  let inScope := crit.notBefore.all fun floor => decide (floor ≤ printTime)
  let afterWatermark := crit.after.all fun watermark => decide (watermark < printTime)
  let goldenOk := !crit.requireGolden || t.golden
  matchesDir && inScope && afterWatermark && goldenOk

/-- The state of the first-confirmed scan between two bars. -/
structure Scan where
  tracked : List Tracked := []
  firstConfirmedBar : Option Nat := none
  confirmedOn : Option Nat := none

/-- Whether a tracked signal may claim the winner slot. -/
def claims (candles : List Candle) (crit : SignalCriteria) (acceptsPattern : Int → Int → Bool)
    (t : Tracked) : Bool :=
  match candles[t.signalBar]? with
  | none => false
  | some print => crit.admits t print.time && acceptsPattern t.startTime print.time

def firstConfirmedAtBar (candles : List Candle) (cfg : DetectorConfig) (crit : SignalCriteria)
    (acceptsPattern : Int → Int → Bool) (scan : Scan) (bar : Nat) : Scan :=
  let printed := detectAt candles bar cfg.detect
  let wasValid := scan.tracked.map fun t => decide (t.state = .valid)
  let (tracked, _) := updateTracked scan.tracked bar candles cfg printed none none false
  let fresh := (tracked.zip wasValid).find? fun (t, was) =>
    decide (t.state = .valid) && !was && claims candles crit acceptsPattern t
  let scan := { scan with tracked }
  let scan :=
    match scan.firstConfirmedBar, fresh with
    | none, some (t, _) => { scan with firstConfirmedBar := some t.signalBar, confirmedOn := some bar }
    | _, _ => scan
  match printed with
  | none => scan
  | some d =>
    let atr := wilderAtr (candles.take (bar + 1)) (atrLengthFor cfg.granularity)
    { scan with tracked := scan.tracked ++ [d.track atr bar] }

/-- The winner's own signal, confirmed, in the state it has by now. -/
def Tracked.confirmedSignal (t : Tracked) (candles : List Candle) (cfg : DetectorConfig)
    (fires : Bool) : Option LatchedSignal :=
  match candles[t.signalBar]? with
  | none => none
  | some signalCandle =>
    let (recentHigh, recentLow) := recentExtremes candles t.signalBar cfg.slLookback
    some
      { direction := t.direction
        kind := t.kind
        signalHigh := t.high
        signalLow := t.low
        signalRange := t.range
        signalStartTime := t.startTime
        signalBarTime := signalCandle.time
        golden := t.golden
        signalConfirmed := true
        bandAnchor := t.bandAnchor
        atr := t.atr
        recentHigh
        recentLow
        state := t.state
        fires }

/-- The earliest-printing claimable signal that has confirmed by `asOf`. -/
def firstConfirmedSignalMatchingAt (candles : List Candle) (asOf : Nat) (cfg : DetectorConfig)
    (crit : SignalCriteria) (acceptsPattern : Int → Int → Bool) : Option LatchedSignal :=
  if candles.length ≤ asOf then none
  else
    let scan := countedRun (firstConfirmedAtBar candles cfg crit acceptsPattern) {} (asOf + 1)
    match scan.firstConfirmedBar with
    | none => none
    | some winnerBar =>
      match scan.tracked.find? fun t => t.signalBar == winnerBar with
      | none => none
      | some t => t.confirmedSignal candles cfg (decide (scan.confirmedOn = some asOf))

def firstConfirmedSignalAt (candles : List Candle) (asOf : Nat) (cfg : DetectorConfig)
    (crit : SignalCriteria) : Option LatchedSignal :=
  firstConfirmedSignalMatchingAt candles asOf cfg crit fun _ _ => true

def minLookbackBars (cfg : DetectorConfig) : Nat := 3 + cfg.slLookback + cfg.confirmBars + 2

def detectorLookbackBars (cfg : DetectorConfig) (granularity : Granularity) : Nat :=
  max (minLookbackBars cfg) (atrLengthFor granularity + 2)

/-- The inclusive lower bound of the scan: the explicit floor, else the shared lookback. -/
def confirmedScanFloor (window : List Int) (asOf : Nat) (cfg : DetectorConfig)
    (granularity : Granularity) (explicit : Option Int) : Option Int :=
  match explicit with
  | some floor => some floor
  | none =>
    let asOf := min asOf (window.length - 1)
    window[asOf - detectorLookbackBars cfg granularity]?

end TradeControl
