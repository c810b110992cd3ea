import Mathlib.Data.List.Basic
import TradeControl.CandleMetrics

namespace TradeControl

def tweezerWickThreshold : Rat := 35 / 100

structure SignalGeometry where
  high : Rat
  low : Rat
  range : Rat
  kind : SignalKind
  startTime : Int
  bandAnchor : Rat
  deriving DecidableEq

/-- A pattern that printed on a bar, with the size its golden test compares. -/
structure Detected where
  direction : Direction
  geometry : SignalGeometry
  size : Rat
  deriving DecidableEq

def Detected.isGolden (d : Detected) (atr : Rat) : Bool := atr ≤ d.size

structure DirFlags where
  doubleTweezer : Bool
  tweezer : Bool
  pinbar : Bool
  regular : Bool
  floating : Bool

def DirFlags.any (f : DirFlags) : Bool :=
  f.doubleTweezer || f.tweezer || f.pinbar || f.regular || f.floating

structure DetectFlags where
  pinbars : Bool := true
  tweezers : Bool := true
  doubleTweezers : Bool := true
  regularEngulfers : Bool := true
  floatingEngulfers : Bool := true
  similarityPct : Rat := 20

def pinbar (dir : Direction) (m : CandleMetrics) : Option CandleMetrics → Bool
  | none => false
  | some pm =>
    match dir with
    | .long => m.top25 ≤ m.bodyTop ∧ m.midpoint ≤ m.bodyBottom ∧
        m.range * (1 / 2) ≤ m.lowerWick ∧ m.low < pm.low
    | .short => m.bodyBottom ≤ m.bottom25 ∧ m.bodyTop ≤ m.midpoint ∧
        m.range * (1 / 2) ≤ m.upperWick ∧ pm.high < m.high

def pinbarTweezerLeg (dir : Direction) (m : CandleMetrics) : Bool :=
  m.validCandle &&
    match dir with
    | .long => m.top25 ≤ m.bodyTop ∧ m.midpoint ≤ m.bodyBottom ∧
        m.range * tweezerWickThreshold ≤ m.lowerWick
    | .short => m.bodyBottom ≤ m.bottom25 ∧ m.bodyTop ≤ m.midpoint ∧
        m.range * tweezerWickThreshold ≤ m.upperWick

/-- The bar before the whole pattern sits outside the pattern's shared extreme. -/
def twinPivot (dir : Direction) (patternExtreme : Rat) : Option CandleMetrics → Bool
  | none => false
  | some before => before.validCandle &&
      match dir with
      | .long => patternExtreme < before.low
      | .short => before.high < patternExtreme

/-- `(double tweezer, tweezer)`: the double shadows the plain one. -/
def tweezers (dir : Direction) (m : CandleMetrics) (pm pm2 pm3 : Option CandleMetrics)
    (flags : DetectFlags) : Bool × Bool :=
  match pm with
  | none => (false, false)
  | some pm =>
    let curLeg := pinbarTweezerLeg dir m
    let prevLeg := pinbarTweezerLeg dir pm
    let pairRange := max m.range pm.range
    let hasPair : Bool := 0 < pairRange
    let pairThresh := pairRange * flags.similarityPct * (1 / 100)
    let highsClose : Bool := hasPair ∧ |m.high - pm.high| ≤ pairThresh
    let lowsClose : Bool := hasPair ∧ |m.low - pm.low| ≤ pairThresh
    let validPair := hasPair && pm.validCandle && highsClose && lowsClose
    let pairExtreme := match dir with
      | .long => min m.low pm.low
      | .short => max m.high pm.high
    let pairPivot := twinPivot dir pairExtreme pm2
    let double := match pm2 with
      | none => false
      | some pm2 =>
        let prev2Leg := pinbarTweezerLeg dir pm2
        let tripleRange := max (max m.range pm.range) pm2.range
        let hasTriple : Bool := 0 < tripleRange
        let tripleThresh := tripleRange * flags.similarityPct * (1 / 100)
        let tripleHighs : Bool := hasTriple ∧ |m.high - pm.high| ≤ tripleThresh ∧
          |pm.high - pm2.high| ≤ tripleThresh
        let tripleLows : Bool := hasTriple ∧ |m.low - pm.low| ≤ tripleThresh ∧
          |pm.low - pm2.low| ≤ tripleThresh
        let validTriple := hasTriple && pm.validCandle && pm2.validCandle && tripleHighs && tripleLows
        let tripleExtreme := match dir with
          | .long => min (min m.low pm.low) pm2.low
          | .short => max (max m.high pm.high) pm2.high
        let triplePivot := twinPivot dir tripleExtreme pm3
        flags.doubleTweezers && validTriple && triplePivot && curLeg && prevLeg && prev2Leg
    let tweezer := flags.tweezers && validPair && pairPivot && curLeg && prevLeg && !double
    (double, tweezer)

def regularEngulfer (dir : Direction) (m : CandleMetrics) : Option CandleMetrics → Bool
  | none => false
  | some pm => pm.validCandle &&
      match dir with
      | .long => pm.isBearish ∧ m.isBullish ∧ m.opened ≤ pm.close ∧ pm.high < m.close ∧ m.closeInTop25
      | .short => pm.isBullish ∧ m.isBearish ∧ pm.close ≤ m.opened ∧ m.close < pm.low ∧
          m.closeInBottom25

def floatingEngulfer (dir : Direction) (m : CandleMetrics) : Option CandleMetrics → Bool
  | none => false
  | some pm => pm.validCandle &&
      match dir with
      | .long => pm.isBullish ∧ m.isBullish ∧ pm.high < m.close ∧ m.closeInTop25
      | .short => pm.isBearish ∧ m.isBearish ∧ m.close < pm.low ∧ m.closeInBottom25

def dirFlags (dir : Direction) (m : CandleMetrics) (pm pm2 pm3 : Option CandleMetrics)
    (flags : DetectFlags) : DirFlags :=
  let pinbar := flags.pinbars && pinbar dir m pm
  let (doubleTweezer, tweezer) := tweezers dir m pm pm2 pm3 flags
  { doubleTweezer
    tweezer
    pinbar := pinbar && !tweezer && !doubleTweezer
    regular := flags.regularEngulfers && regularEngulfer dir m pm
    floating := flags.floatingEngulfers && floatingEngulfer dir m pm }

/-- The printed signal of the winning direction: extremes, size, kind and start by priority. -/
def build (dir : Direction) (f : DirFlags) (cur : Candle) (prev prev2 : Option Candle)
    (m : CandleMetrics) (pm pm2 : Option CandleMetrics) : Detected :=
  let ph := (pm.map (·.high)).getD m.high
  let pl := (pm.map (·.low)).getD m.low
  let p2h := (pm2.map (·.high)).getD m.high
  let p2l := (pm2.map (·.low)).getD m.low
  let prevRange := (pm.map (·.range)).getD 0
  let prev2Range := (pm2.map (·.range)).getD 0
  let (high, low, size, kind) :=
    if f.doubleTweezer then
      (max (max m.high ph) p2h, min (min m.low pl) p2l, m.range + prevRange + prev2Range,
        SignalKind.doubleTweezer)
    else if f.tweezer then
      (max m.high ph, min m.low pl, m.range + prevRange, SignalKind.tweezer)
    else if f.floating then
      (max m.high ph, min m.low pl, max m.high ph - min m.low pl, SignalKind.floatingEngulfer)
    else if f.regular then
      (max m.high ph, min m.low pl, m.range, SignalKind.regularEngulfer)
    else (m.high, m.low, m.range, SignalKind.pinbar)
  let startTime :=
    if f.doubleTweezer then (prev2.map (·.time)).getD cur.time
    else if f.tweezer || f.regular || f.floating then (prev.map (·.time)).getD cur.time
    else cur.time
  let origin :=
    if kind = .regularEngulfer ∨ kind = .floatingEngulfer then prev.getD cur else cur
  { direction := dir
    geometry :=
      { high, low, range := high - low, kind, startTime, bandAnchor := bandAnchor kind dir origin cur }
    size }

/-- The candle `back` bars before bar `i`. -/
def barBefore (candles : List Candle) (i back : Nat) : Option Candle :=
  if back ≤ i then candles[i - back]? else none

/-- The highest-priority signal that prints on bar `i`. -/
def detectAt (candles : List Candle) (i : Nat) (flags : DetectFlags) : Option Detected :=
  match candles[i]? with
  | none => none
  | some cur =>
    let m := CandleMetrics.of cur
    if !m.validCandle then none
    else
      let prev := barBefore candles i 1
      let prev2 := barBefore candles i 2
      let prev3 := barBefore candles i 3
      let pm := prev.map CandleMetrics.of
      let pm2 := prev2.map CandleMetrics.of
      let pm3 := prev3.map CandleMetrics.of
      let bull := dirFlags .long m pm pm2 pm3 flags
      let bear := dirFlags .short m pm pm2 pm3 flags
      if bull.any then some (build .long bull cur prev prev2 m pm pm2)
      else if bear.any then some (build .short bear cur prev prev2 m pm pm2)
      else none

/-- A print reads its own bar and the three before it, and nothing else. -/
theorem detectAt_congr {candles candles' : List Candle} {i i' : Nat} (flags : DetectFlags)
    (cur : candles[i]? = candles'[i']?)
    (before : ∀ back, 1 ≤ back → back ≤ 3 → barBefore candles i back = barBefore candles' i' back) :
    detectAt candles i flags = detectAt candles' i' flags := by
  have prev := before 1 (by omega) (by omega)
  have prev2 := before 2 (by omega) (by omega)
  have prev3 := before 3 (by omega) (by omega)
  simp only [detectAt, cur, prev, prev2, prev3]

theorem detectAt_inRange {candles : List Candle} {i : Nat} {flags : DetectFlags} {d : Detected}
    (printed : detectAt candles i flags = some d) : i < candles.length := by
  by_contra beyond
  have missing : candles[i]? = none := List.getElem?_eq_none (by omega)
  simp only [detectAt, missing] at printed
  cases printed

/-- Candles after a bar do not change what printed on it. -/
theorem detectAt_take {candles : List Candle} {i bound : Nat} (below : i < bound)
    (flags : DetectFlags) : detectAt (candles.take bound) i flags = detectAt candles i flags := by
  refine detectAt_congr flags (List.getElem?_take_of_lt below) fun back _ _ => ?_
  unfold barBefore
  split
  · exact List.getElem?_take_of_lt (by omega)
  · rfl

end TradeControl
