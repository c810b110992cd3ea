import Mathlib.Algebra.Order.Group.Unbundled.Abs
import Mathlib.Algebra.Order.Ring.Unbundled.Rat
import Mathlib.Data.List.Basic
import Mathlib.Data.List.Pairwise
import TradeControl.Intent

namespace TradeControl

/-- A closed mid-price candle, stamped with its open time. -/
structure Candle where
  time : Int
  o : Rat
  h : Rat
  l : Rat
  c : Rat
  deriving DecidableEq

inductive Granularity
  | m1 | m5 | m15 | h1 | h4 | d1
  deriving DecidableEq

def Granularity.seconds : Granularity → Int
  | .m1 => 60
  | .m5 => 5 * 60
  | .m15 => 15 * 60
  | .h1 => 60 * 60
  | .h4 => 4 * 60 * 60
  | .d1 => 24 * 60 * 60

inductive SignalKind
  | pinbar
  | tweezer
  | regularEngulfer
  | floatingEngulfer
  | doubleTweezer
  deriving DecidableEq

structure CandleMetrics where
  high : Rat
  low : Rat
  opened : Rat
  close : Rat
  range : Rat
  bodySize : Rat
  bodyTop : Rat
  bodyBottom : Rat
  upperWick : Rat
  lowerWick : Rat
  top25 : Rat
  bottom25 : Rat
  midpoint : Rat
  closePosition : Option Rat
  validCandle : Bool
  isBullish : Bool
  isBearish : Bool

def CandleMetrics.of (c : Candle) : CandleMetrics :=
  let range := c.h - c.l
  let bodySize := |c.c - c.o|
  let bodyTop := max c.o c.c
  let bodyBottom := min c.o c.c
  { high := c.h
    low := c.l
    opened := c.o
    close := c.c
    range
    bodySize
    bodyTop
    bodyBottom
    upperWick := c.h - bodyTop
    lowerWick := bodyBottom - c.l
    top25 := c.h - range * (1 / 4)
    bottom25 := c.l + range * (1 / 4)
    midpoint := c.l + range * (1 / 2)
    closePosition := if 0 < range then some ((c.c - c.l) / range) else none
    validCandle := 0 < range ∧ 0 < bodySize
    isBullish := c.o < c.c
    isBearish := c.c < c.o }

def CandleMetrics.closeInTop25 (m : CandleMetrics) : Bool :=
  m.closePosition.any fun position => 3 / 4 ≤ position

def CandleMetrics.closeInBottom25 (m : CandleMetrics) : Bool :=
  m.closePosition.any fun position => position ≤ 1 / 4

/-- The price a reversal close tests against the drawn bands: an engulfer's first open,
the middle of the rejecting wick otherwise. -/
def bandAnchor (kind : SignalKind) (dir : Direction) (origin print : Candle) : Rat :=
  match kind with
  | .regularEngulfer | .floatingEngulfer => origin.o
  | .pinbar | .tweezer | .doubleTweezer =>
    let bodyTop := max print.o print.c
    let bodyBot := min print.o print.c
    match dir with
    | .short => bodyTop + (print.h - bodyTop) / 2
    | .long => bodyBot - (bodyBot - print.l) / 2

/-- Candles come in the order of their times. -/
def Ascending (candles : List Candle) : Prop := candles.Pairwise fun earlier later => earlier.time < later.time

theorem Ascending.index_le {candles : List Candle} (ascending : Ascending candles) {i j : Nat} {a b : Candle}
    (atI : candles[i]? = some a) (atJ : candles[j]? = some b) (le : a.time ≤ b.time) : i ≤ j := by
  by_contra later
  obtain ⟨boundI, rfl⟩ := List.getElem?_eq_some_iff.mp atI
  obtain ⟨boundJ, rfl⟩ := List.getElem?_eq_some_iff.mp atJ
  have order := List.pairwise_iff_getElem.mp ascending j i boundJ boundI (by omega)
  omega

theorem Ascending.index_eq {candles : List Candle} (ascending : Ascending candles) {i j : Nat} {a b : Candle}
    (atI : candles[i]? = some a) (atJ : candles[j]? = some b) (same : a.time = b.time) : i = j :=
  le_antisymm (ascending.index_le atI atJ same.le) (ascending.index_le atJ atI same.ge)

def atrLengthForBarMinutes (barMinutes : Int) : Nat :=
  if barMinutes ≤ 15 then 96
  else if barMinutes ≤ 60 then 24
  else if barMinutes ≤ 240 then 36
  else if barMinutes ≤ 1440 then 24
  else if barMinutes ≤ 10080 then 52
  else 24

def atrLengthFor (granularity : Granularity) : Nat := atrLengthForBarMinutes (granularity.seconds / 60)

def trueRange (cur : Candle) : Option Rat → Rat
  | none => cur.h - cur.l
  | some pc => max (max (cur.h - cur.l) |cur.h - pc|) |cur.l - pc|

/-- The true range of every candle, the first after `prevClose`. -/
def trueRanges : Option Rat → List Candle → List Rat
  | _, [] => []
  | prevClose, c :: rest => trueRange c prevClose :: trueRanges (some c.c) rest

/-- Wilder's recurrence over one more true range. -/
def wilderStep (length : Nat) (atr tr : Rat) : Rat := (atr * (length - 1) + tr) / length

def wilderAtr (candles : List Candle) (length : Nat) : Option Rat :=
  if length = 0 ∨ candles.length < length then none
  else
    let trs := trueRanges none candles
    let seed := (trs.take length).foldl (· + ·) (0 : Rat) / length
    some ((trs.drop length).foldl (wilderStep length) seed)

theorem wilderAtr_cold {candles : List Candle} {length : Nat}
    (short : length = 0 ∨ candles.length < length) : wilderAtr candles length = none := by
  rw [wilderAtr, if_pos short]

theorem wilderAtr_warm {candles : List Candle} {length : Nat} (positive : length ≠ 0)
    (long : length ≤ candles.length) : wilderAtr candles length =
      some (((trueRanges none candles).drop length).foldl (wilderStep length)
        (((trueRanges none candles).take length).foldl (· + ·) 0 / length)) := by
  have whole : ¬(length = 0 ∨ candles.length < length) := by omega
  rw [wilderAtr, if_neg whole]

/-- The average carried from bar to bar instead of recomputed. -/
structure RunningAtr where
  prevClose : Option Rat := none
  seedSum : Rat := 0
  atrRunning : Option Rat := none

def RunningAtr.next (run : RunningAtr) (length bar : Nat) (candle : Candle) : RunningAtr :=
  let tr := trueRange candle run.prevClose
  let run := { run with prevClose := some candle.c }
  if length = 0 then { run with atrRunning := none }
  else if bar + 1 < length then { run with seedSum := run.seedSum + tr }
  else if bar + 1 = length then
    let seedSum := run.seedSum + tr
    { run with seedSum, atrRunning := some (seedSum / length) }
  else
    match run.atrRunning with
    | none => run
    | some prev => { run with atrRunning := some (wilderStep length prev tr) }

/-- The close a list of candles leaves behind. -/
def lastClose (candles : List Candle) : Option Rat := candles.getLast?.map (·.c)

theorem trueRanges_length (candles : List Candle) (prevClose : Option Rat) :
    (trueRanges prevClose candles).length = candles.length := by
  induction candles generalizing prevClose with
  | nil => rfl
  | cons c rest ih => rw [trueRanges, List.length_cons, List.length_cons, ih]

theorem trueRanges_snoc (candles : List Candle) (candle : Candle) (prevClose : Option Rat) :
    trueRanges prevClose (candles ++ [candle]) =
      trueRanges prevClose candles ++ [trueRange candle ((lastClose candles).or prevClose)] := by
  induction candles generalizing prevClose with
  | nil => rfl
  | cons c rest ih =>
    rw [List.cons_append, trueRanges, ih, trueRanges, List.cons_append]
    have last : (lastClose (c :: rest)).or prevClose = (lastClose rest).or (some c.c) := by
      cases rest with
      | nil => rfl
      | cons next later => simp [lastClose, List.getLast?_cons]
    rw [last]

/-- What the carried average knows after the candles so far. -/
structure RunningAtr.Follows (run : RunningAtr) (length : Nat) (candles : List Candle) : Prop where
  prevClose : run.prevClose = lastClose candles
  seedSum : candles.length < length → run.seedSum = (trueRanges none candles).foldl (· + ·) (0 : Rat)
  atrRunning : run.atrRunning = wilderAtr candles length

theorem RunningAtr.follows_start (length : Nat) : RunningAtr.Follows {} length [] := by
  refine ⟨rfl, fun _ => rfl, ?_⟩
  exact (wilderAtr_cold (by simp only [List.length_nil]; omega)).symm

/-- Carried over one more candle, the average is still the one recomputed from the start. -/
theorem RunningAtr.Follows.next {run : RunningAtr} {length : Nat} {candles : List Candle}
    (follows : run.Follows length candles) (candle : Candle) :
    (run.next length candles.length candle).Follows length (candles ++ [candle]) := by
  have range : trueRanges none (candles ++ [candle]) =
      trueRanges none candles ++ [trueRange candle run.prevClose] := by
    rw [trueRanges_snoc, Option.or_none, follows.prevClose]
  have count := trueRanges_length candles none
  have grown : (candles ++ [candle]).length = candles.length + 1 := by simp
  have close : some candle.c = lastClose (candles ++ [candle]) := by simp [lastClose]
  unfold RunningAtr.next
  dsimp only
  split
  · next zero => exact ⟨close, fun below => absurd below (by omega), (wilderAtr_cold (.inl zero)).symm⟩
  next positive =>
  split
  · next warming =>
    refine ⟨close, fun _ => ?_, ?_⟩
    · rw [range, List.foldl_append, ← follows.seedSum (by omega)]
      rfl
    · rw [follows.atrRunning, wilderAtr_cold (by omega), wilderAtr_cold (by omega)]
  next warmed =>
  split
  · next seeded =>
    refine ⟨close, fun below => absurd below (by omega), ?_⟩
    have full : (trueRanges none candles ++ [trueRange candle run.prevClose]).length ≤ length := by
      rw [List.length_append, count]
      exact seeded.le
    rw [wilderAtr_warm positive (by omega), range, List.take_of_length_le full,
      List.drop_of_length_le full, List.foldl_append, ← follows.seedSum (by omega)]
    rfl
  · next past =>
    have long : length ≤ candles.length := by omega
    have le : length ≤ (trueRanges none candles).length := by omega
    rw [follows.atrRunning, wilderAtr_warm positive long]
    refine ⟨close, fun below => absurd below (by omega), ?_⟩
    rw [wilderAtr_warm positive (by omega), range, List.take_append_of_le_length le,
      List.drop_append_of_le_length le, List.foldl_append]
    rfl

end TradeControl
