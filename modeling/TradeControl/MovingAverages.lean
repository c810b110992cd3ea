import Mathlib.Algebra.Field.Rat
import TradeControl.TradePlan

namespace TradeControl

def MovingAverage.historyBars (average : MovingAverage) : Nat :=
  match average.kind with
  | .sma => average.period
  | .ema => average.period * 10

/-- The average's value on a bar, from the closes up to it. -/
def MovingAverage.valueAt (average : MovingAverage) (candles : List Candle) (index : Nat) :
    Option Rat :=
  if index + 1 < average.historyBars ∨ candles.length < index + 1 then none
  else
    let tail := (candles.take (index + 1)).drop (index + 1 - average.historyBars)
    let seed := ((tail.take average.period).map (·.c)).sum / average.period
    let alpha : Rat := 2 / (average.period + 1)
    some ((tail.drop average.period).foldl (fun ema bar => ema + alpha * (bar.c - ema)) seed)

def MovingAverage.touchesAt (average : MovingAverage) (candles : List Candle) (index : Nat) : Bool :=
  candles[index]?.any fun bar =>
    (average.valueAt candles index).any fun value => bar.l ≤ value ∧ value ≤ bar.h

/-- Whether some bar from `start` to `print` matches; both ends have to be in the window. -/
def patternMatches (candles : List Candle) (start print : Int) (matchesAt : Nat → Bool) : Bool :=
  candles.any (·.time == start) && candles.any (·.time == print) &&
    (List.range candles.length).any fun index =>
      candles[index]?.any fun bar => decide (start ≤ bar.time ∧ bar.time ≤ print) && matchesAt index

def MovingAverage.touchesPattern (average : MovingAverage) (candles : List Candle)
    (start print : Int) : Bool :=
  patternMatches candles start print (average.touchesAt candles)

def MovingAverage.offsideAt (average : MovingAverage) (candles : List Candle)
    (direction : Direction) (index : Nat) : Bool :=
  (average.valueAt candles index).any fun value =>
    candles[index]?.any fun bar =>
      match direction with
      | .short => value ≤ bar.h
      | .long => bar.l ≤ value

def MovingAverage.offsidePattern (average : MovingAverage) (candles : List Candle)
    (start print : Int) (direction : Direction) : Bool :=
  patternMatches candles start print (average.offsideAt candles direction)

def EntryConditions.patternTouches (conditions : EntryConditions) (candles : List Candle)
    (start print : Int) : Bool :=
  conditions.mustTouch.isEmpty ||
    conditions.mustTouch.any fun average => average.touchesPattern candles start print

def EntryConditions.patternQualifies (conditions : EntryConditions) (candles : List Candle)
    (start print : Int) (direction : Direction) : Bool :=
  conditions.patternTouches candles start print &&
    (conditions.beOffside.isEmpty ||
      conditions.beOffside.any fun average => average.offsidePattern candles start print direction)

/-- The first two of the `standard_set`. -/
def fastAverage : MovingAverage := { kind := .ema, period := 9 }

def slowAverage : MovingAverage := { kind := .sma, period := 20 }

def relationAt (candles : List Candle) (index : Nat) : Option Ordering := do
  let fast ← fastAverage.valueAt candles index
  let slow ← slowAverage.valueAt candles index
  return compare fast slow

/-- `i.checked_sub(1).and_then(relation)`. -/
def atPrevious {α : Type} (relation : Nat → Option α) (index : Nat) : Option α :=
  if index = 0 then none else relation (index - 1)

def favorableAt (candles : List Candle) (index : Nat) (direction : Direction) : Bool :=
  let favorable := match direction with
    | .long => Ordering.gt
    | .short => .lt
  relationAt candles index = some favorable

def adverseOrder : Direction → Ordering
  | .long => .lt
  | .short => .gt

/-- The relation turned against the trade on this bar. -/
def turnsAdverse (relation : Nat → Option Ordering) (index : Nat) (direction : Direction) : Bool :=
  decide (relation index = some (adverseOrder direction)) &&
    (atPrevious relation index).any (· ≠ adverseOrder direction)

def adverseCrossAt (candles : List Candle) (index : Nat) (direction : Direction) : Bool :=
  turnsAdverse (relationAt candles) index direction

def closeRelation (average : MovingAverage) (candles : List Candle) (index : Nat) :
    Option Ordering := do
  let bar ← candles[index]?
  let value ← average.valueAt candles index
  return compare bar.c value

def averageBreakAt (candles : List Candle) (index : Nat) (average : MovingAverage)
    (direction : Direction) : Bool :=
  turnsAdverse (closeRelation average candles) index direction

def readyAt (candles : List Candle) (index : Nat) : Bool :=
  (atPrevious (relationAt candles) index).isSome && (relationAt candles index).isSome

def averageReadyAt (candles : List Candle) (index : Nat) (average : MovingAverage) : Bool :=
  (atPrevious (average.valueAt candles) index).isSome && (average.valueAt candles index).isSome

/-- `has_ma_veto`: some rule watches an average, so its history is more than nothing. -/
def TradePlan.hasMaVeto (plan : TradePlan) : Bool := plan.rules.any (·.trigger.isAdverseMa)

def TradePlan.maVetoReadyAt (plan : TradePlan) (candles : List Candle) (index : Nat) : Bool :=
  plan.rules.all fun rule =>
    match rule.trigger with
    | .adverseMaCross _ => readyAt candles index
    | .adverseMaBreak average _ => averageReadyAt candles index average
    | _ => true

/-- An average on a bar reads nothing after it. -/
theorem MovingAverage.valueAt_take (average : MovingAverage) (candles : List Candle)
    {index bound : Nat} (below : index < bound) :
    average.valueAt (candles.take bound) index = average.valueAt candles index := by
  have sameTail : (candles.take bound).take (index + 1) = candles.take (index + 1) := by
    rw [List.take_take, Nat.min_eq_left (by omega)]
  have sameShort : (candles.take bound).length < index + 1 ↔ candles.length < index + 1 := by
    rw [List.length_take]
    omega
  simp only [valueAt, sameTail, sameShort]

theorem getElem?_take_of_below {candles : List Candle} {index bound : Nat} (below : index < bound) :
    (candles.take bound)[index]? = candles[index]? := List.getElem?_take_of_lt below

theorem relationAt_take (candles : List Candle) {index bound : Nat} (below : index < bound) :
    relationAt (candles.take bound) index = relationAt candles index := by
  simp only [relationAt, MovingAverage.valueAt_take _ _ below]

theorem closeRelation_take (average : MovingAverage) (candles : List Candle) {index bound : Nat}
    (below : index < bound) :
    closeRelation average (candles.take bound) index = closeRelation average candles index := by
  simp only [closeRelation, MovingAverage.valueAt_take _ _ below, getElem?_take_of_below below]

theorem atPrevious_congr {α : Type} {relation relation' : Nat → Option α} {index bound : Nat}
    (below : index < bound) (agree : ∀ i, i < bound → relation i = relation' i) :
    atPrevious relation index = atPrevious relation' index := by
  simp only [atPrevious, agree (index - 1) (by omega)]

theorem turnsAdverse_congr {relation relation' : Nat → Option Ordering} {index bound : Nat}
    (direction : Direction) (below : index < bound)
    (agree : ∀ i, i < bound → relation i = relation' i) :
    turnsAdverse relation index direction = turnsAdverse relation' index direction := by
  simp only [turnsAdverse, agree index below, atPrevious_congr below agree]

end TradeControl
