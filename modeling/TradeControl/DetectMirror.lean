import Mathlib.Algebra.Order.Group.MinMax
import Mathlib.Tactic.FieldSimp
import Mathlib.Tactic.Linarith
import Mathlib.Tactic.Ring
import TradeControl.DetectPatterns

namespace TradeControl

def Direction.opposite : Direction → Direction
  | .long => .short
  | .short => .long

@[simp] theorem Direction.opposite_opposite (dir : Direction) : dir.opposite.opposite = dir := by
  cases dir <;> rfl

theorem Direction.opposite_eq_iff {dir dir' : Direction} : dir.opposite = dir'.opposite ↔ dir = dir' := by
  cases dir <;> cases dir' <;> simp [Direction.opposite]

/-- The candle reflected about zero: what was a rise is a fall of the same size. -/
def Candle.mirror (c : Candle) : Candle :=
  { time := c.time, o := -c.o, h := -c.l, l := -c.h, c := -c.c }

/-- The metrics a reflected candle has. -/
def CandleMetrics.mirror (m : CandleMetrics) : CandleMetrics :=
  { high := -m.low
    low := -m.high
    opened := -m.opened
    close := -m.close
    range := m.range
    bodySize := m.bodySize
    bodyTop := -m.bodyBottom
    bodyBottom := -m.bodyTop
    upperWick := m.lowerWick
    lowerWick := m.upperWick
    top25 := -m.bottom25
    bottom25 := -m.top25
    midpoint := -m.midpoint
    closePosition := m.closePosition.map (1 - ·)
    validCandle := m.validCandle
    isBullish := m.isBearish
    isBearish := m.isBullish }

@[simp] theorem CandleMetrics.mirror_high (m : CandleMetrics) : m.mirror.high = -m.low := rfl

@[simp] theorem CandleMetrics.mirror_low (m : CandleMetrics) : m.mirror.low = -m.high := rfl

@[simp] theorem CandleMetrics.mirror_range (m : CandleMetrics) : m.mirror.range = m.range := rfl

@[simp] theorem CandleMetrics.mirror_validCandle (m : CandleMetrics) :
    m.mirror.validCandle = m.validCandle := rfl

theorem CandleMetrics.of_mirror (c : Candle) :
    CandleMetrics.of c.mirror = (CandleMetrics.of c).mirror := by
  have range : -c.l - -c.h = c.h - c.l := by ring
  have body : |-c.c - -c.o| = |c.c - c.o| := by
    rw [neg_sub_neg, abs_sub_comm]
  have top : max (-c.o) (-c.c) = -min c.o c.c := max_neg_neg c.o c.c
  have bottom : min (-c.o) (-c.c) = -max c.o c.c := min_neg_neg c.o c.c
  have position : (if 0 < c.h - c.l then some ((-c.c - -c.h) / (c.h - c.l)) else none) =
      (if 0 < c.h - c.l then some ((c.c - c.l) / (c.h - c.l)) else none).map (1 - ·) := by
    split
    · next wide =>
      have nonzero : c.h - c.l ≠ 0 := ne_of_gt wide
      rw [Option.map_some, Option.some_inj]
      field_simp
      ring
    · rfl
  simp only [CandleMetrics.of, CandleMetrics.mirror, Candle.mirror, CandleMetrics.mk.injEq, range, body,
    top, bottom, position, neg_lt_neg_iff, true_and, and_true]
  refine ⟨?_, ?_, ?_, ?_, ?_⟩ <;> ring

theorem CandleMetrics.closeInBottom25_mirror (m : CandleMetrics) : m.mirror.closeInBottom25 = m.closeInTop25 := by
  have quartile : ∀ position : Rat, 1 - position ≤ 1 / 4 ↔ 3 / 4 ≤ position := by
    intro position
    constructor <;> intro <;> linarith
  simp only [CandleMetrics.closeInBottom25, CandleMetrics.closeInTop25, CandleMetrics.mirror, Option.any_map,
    quartile]

theorem CandleMetrics.closeInTop25_mirror (m : CandleMetrics) : m.mirror.closeInTop25 = m.closeInBottom25 := by
  have quartile : ∀ position : Rat, 3 / 4 ≤ 1 - position ↔ position ≤ 1 / 4 := by
    intro position
    constructor <;> intro <;> linarith
  simp only [CandleMetrics.closeInBottom25, CandleMetrics.closeInTop25, CandleMetrics.mirror, Option.any_map,
    quartile]

theorem pinbar_mirror (dir : Direction) (m : CandleMetrics) (pm : Option CandleMetrics) :
    pinbar dir.opposite m.mirror (pm.map CandleMetrics.mirror) = pinbar dir m pm := by
  cases pm with
  | none => rfl
  | some pm =>
    cases dir <;>
      simp only [Option.map_some, pinbar, Direction.opposite, CandleMetrics.mirror, neg_le_neg_iff, neg_lt_neg_iff]

theorem pinbarTweezerLeg_mirror (dir : Direction) (m : CandleMetrics) :
    pinbarTweezerLeg dir.opposite m.mirror = pinbarTweezerLeg dir m := by
  cases dir <;> simp only [pinbarTweezerLeg, Direction.opposite, CandleMetrics.mirror, neg_le_neg_iff]

theorem twinPivot_mirror (dir : Direction) (patternExtreme : Rat) (before : Option CandleMetrics) :
    twinPivot dir.opposite (-patternExtreme) (before.map CandleMetrics.mirror) =
      twinPivot dir patternExtreme before := by
  cases before with
  | none => rfl
  | some before =>
    cases dir <;> simp only [Option.map_some, twinPivot, Direction.opposite, CandleMetrics.mirror, neg_lt_neg_iff]

theorem regularEngulfer_mirror (dir : Direction) (m : CandleMetrics) (pm : Option CandleMetrics) :
    regularEngulfer dir.opposite m.mirror (pm.map CandleMetrics.mirror) = regularEngulfer dir m pm := by
  cases pm with
  | none => rfl
  | some pm =>
    cases dir <;>
      simp only [Option.map_some, regularEngulfer, Direction.opposite, CandleMetrics.closeInTop25_mirror,
        CandleMetrics.closeInBottom25_mirror] <;>
      simp only [CandleMetrics.mirror, neg_le_neg_iff, neg_lt_neg_iff]

theorem floatingEngulfer_mirror (dir : Direction) (m : CandleMetrics) (pm : Option CandleMetrics) :
    floatingEngulfer dir.opposite m.mirror (pm.map CandleMetrics.mirror) = floatingEngulfer dir m pm := by
  cases pm with
  | none => rfl
  | some pm =>
    cases dir <;>
      simp only [Option.map_some, floatingEngulfer, Direction.opposite, CandleMetrics.closeInTop25_mirror,
        CandleMetrics.closeInBottom25_mirror] <;>
      simp only [CandleMetrics.mirror, neg_lt_neg_iff]

/-- Two highs are as far apart as the mirrored lows. -/
theorem negDistance (a b : Rat) : |-a - -b| = |a - b| := by
  rw [neg_sub_neg, abs_sub_comm]

theorem tweezers_mirror (dir : Direction) (m : CandleMetrics) (pm pm2 pm3 : Option CandleMetrics)
    (flags : DetectFlags) :
    tweezers dir.opposite m.mirror (pm.map CandleMetrics.mirror) (pm2.map CandleMetrics.mirror)
        (pm3.map CandleMetrics.mirror) flags = tweezers dir m pm pm2 pm3 flags := by
  have leg := pinbarTweezerLeg_mirror dir
  have pivot := twinPivot_mirror dir
  cases pm with
  | none => rfl
  | some pm =>
    cases pm2 with
    | none =>
      simp only [tweezers, Option.map_some, Option.map_none, twinPivot, Bool.and_false, Bool.false_and]
    | some pm2 =>
      have pairPivot := fun pairExtreme => pivot pairExtreme (some pm2)
      rw [Option.map_some] at pairPivot
      unfold tweezers
      cases dir with
      | long =>
        simp only [Direction.opposite] at leg pivot pairPivot
        simp only [Option.map_some, Direction.opposite, leg, CandleMetrics.mirror_high, CandleMetrics.mirror_low,
          CandleMetrics.mirror_range, CandleMetrics.mirror_validCandle, negDistance, max_neg_neg, pivot, pairPivot]
        ac_rfl
      | short =>
        simp only [Direction.opposite] at leg pivot pairPivot
        simp only [Option.map_some, Direction.opposite, leg, CandleMetrics.mirror_high, CandleMetrics.mirror_low,
          CandleMetrics.mirror_range, CandleMetrics.mirror_validCandle, negDistance, min_neg_neg, pivot, pairPivot]
        ac_rfl

theorem dirFlags_mirror (dir : Direction) (m : CandleMetrics) (pm pm2 pm3 : Option CandleMetrics)
    (flags : DetectFlags) :
    dirFlags dir.opposite m.mirror (pm.map CandleMetrics.mirror) (pm2.map CandleMetrics.mirror)
        (pm3.map CandleMetrics.mirror) flags = dirFlags dir m pm pm2 pm3 flags := by
  simp only [dirFlags, pinbar_mirror, tweezers_mirror, regularEngulfer_mirror, floatingEngulfer_mirror]

/-- What every pattern of a direction asks of the printing bar itself: a body in its own half,
or a close in its own quarter. -/
def CandleMetrics.Leans (m : CandleMetrics) : Direction → Prop
  | .long => m.midpoint ≤ m.bodyBottom ∨ m.isBullish = true ∧ m.closeInTop25 = true
  | .short => m.bodyTop ≤ m.midpoint ∨ m.isBearish = true ∧ m.closeInBottom25 = true

theorem pinbar_leans {dir : Direction} {m : CandleMetrics} {pm : Option CandleMetrics}
    (printed : pinbar dir m pm = true) : m.Leans dir := by
  cases pm with
  | none => simp [pinbar] at printed
  | some pm =>
    cases dir <;> simp only [pinbar, decide_eq_true_eq] at printed <;> exact .inl printed.2.1

theorem pinbarTweezerLeg_leans {dir : Direction} {m : CandleMetrics}
    (leg : pinbarTweezerLeg dir m = true) : m.Leans dir := by
  cases dir <;> simp only [pinbarTweezerLeg, Bool.and_eq_true, decide_eq_true_eq] at leg <;>
    exact .inl leg.2.2.1

theorem regularEngulfer_leans {dir : Direction} {m : CandleMetrics} {pm : Option CandleMetrics}
    (printed : regularEngulfer dir m pm = true) : m.Leans dir := by
  cases pm with
  | none => simp [regularEngulfer] at printed
  | some pm =>
    cases dir <;> simp only [regularEngulfer, Bool.and_eq_true, decide_eq_true_eq] at printed <;>
      exact .inr ⟨printed.2.2.1, printed.2.2.2.2.2⟩

theorem floatingEngulfer_leans {dir : Direction} {m : CandleMetrics} {pm : Option CandleMetrics}
    (printed : floatingEngulfer dir m pm = true) : m.Leans dir := by
  cases pm with
  | none => simp [floatingEngulfer] at printed
  | some pm =>
    cases dir <;> simp only [floatingEngulfer, Bool.and_eq_true, decide_eq_true_eq] at printed <;>
      exact .inr ⟨printed.2.2.1, printed.2.2.2.2⟩

/-- Either tweezer has the printing bar as a leg. -/
theorem tweezers_leg {dir : Direction} {m : CandleMetrics} {pm pm2 pm3 : Option CandleMetrics}
    {flags : DetectFlags} (printed : (tweezers dir m pm pm2 pm3 flags).1 = true ∨
      (tweezers dir m pm pm2 pm3 flags).2 = true) : pinbarTweezerLeg dir m = true := by
  cases pm with
  | none => simp [tweezers] at printed
  | some pm =>
    cases pm2 with
    | none =>
      simp only [tweezers, Bool.and_eq_true] at printed
      rcases printed with absent | pair
      · cases absent
      · exact pair.1.1.2
    | some pm2 =>
      simp only [tweezers, Bool.and_eq_true] at printed
      rcases printed with triple | pair
      · exact triple.1.1.2
      · exact pair.1.1.2

theorem dirFlags_leans {dir : Direction} {m : CandleMetrics} {pm pm2 pm3 : Option CandleMetrics}
    {flags : DetectFlags} (printed : (dirFlags dir m pm pm2 pm3 flags).any = true) : m.Leans dir := by
  simp only [dirFlags, DirFlags.any, Bool.or_eq_true, Bool.and_eq_true] at printed
  rcases printed with (((double | tweezer) | pinbar) | regular) | floating
  · exact pinbarTweezerLeg_leans (tweezers_leg (.inl double))
  · exact pinbarTweezerLeg_leans (tweezers_leg (.inr tweezer))
  · exact pinbar_leans pinbar.1.1.2
  · exact regularEngulfer_leans regular.2
  · exact floatingEngulfer_leans floating.2

/-- A valid candle leans one way at most. -/
theorem CandleMetrics.leans_oneWay {c : Candle} (valid : (CandleMetrics.of c).validCandle = true)
    (up : (CandleMetrics.of c).Leans .long) (down : (CandleMetrics.of c).Leans .short) : False := by
  simp only [CandleMetrics.of, decide_eq_true_eq] at valid
  obtain ⟨wide, body⟩ := valid
  have apart : c.o ≠ c.c := by
    intro same
    rw [same, sub_self, abs_zero] at body
    exact absurd body (lt_irrefl 0)
  have topOpen := le_max_left c.o c.c
  have topClose := le_max_right c.o c.c
  have bottomOpen := min_le_left c.o c.c
  have bottomClose := min_le_right c.o c.c
  simp only [CandleMetrics.Leans, CandleMetrics.of, CandleMetrics.closeInTop25, CandleMetrics.closeInBottom25,
    if_pos wide, Option.any_some, decide_eq_true_eq, le_div_iff₀ wide, div_le_iff₀ wide] at up down
  rcases up with upperBody | ⟨rise, upperClose⟩
  · rcases down with lowerBody | ⟨fall, lowerClose⟩
    · exact apart (by linarith)
    · linarith
  · rcases down with lowerBody | ⟨fall, lowerClose⟩
    · linarith
    · exact absurd rise (lt_asymm fall)

def SignalGeometry.mirror (g : SignalGeometry) : SignalGeometry :=
  { g with high := -g.low, low := -g.high, bandAnchor := -g.bandAnchor }

/-- The same pattern of the same size, printed the other way up. -/
def Detected.mirror (d : Detected) : Detected :=
  { d with direction := d.direction.opposite, geometry := d.geometry.mirror }

theorem bandAnchor_mirror (kind : SignalKind) (dir : Direction) (origin print : Candle) :
    bandAnchor kind dir.opposite origin.mirror print.mirror = -bandAnchor kind dir origin print := by
  have wick : bandAnchor .pinbar dir.opposite origin.mirror print.mirror =
      -bandAnchor .pinbar dir origin print := by
    cases dir with
    | long =>
      simp only [bandAnchor, Direction.opposite, Candle.mirror, max_neg_neg]
      ring
    | short =>
      simp only [bandAnchor, Direction.opposite, Candle.mirror, min_neg_neg]
      ring
  cases kind with
  | regularEngulfer => rfl
  | floatingEngulfer => rfl
  | pinbar => exact wick
  | tweezer => exact wick
  | doubleTweezer => exact wick

theorem build_mirror (dir : Direction) (f : DirFlags) (cur : Candle) (prev prev2 : Option Candle)
    (m : CandleMetrics) (pm pm2 : Option CandleMetrics) :
    build dir.opposite f cur.mirror (prev.map Candle.mirror) (prev2.map Candle.mirror) m.mirror
        (pm.map CandleMetrics.mirror) (pm2.map CandleMetrics.mirror) =
      (build dir f cur prev prev2 m pm pm2).mirror := by
  have highs : ∀ before : Option CandleMetrics, ((before.map CandleMetrics.mirror).map (·.high)).getD (-m.low) =
      -(before.map (·.low)).getD m.low := by
    intro before
    cases before <;> rfl
  have lows : ∀ before : Option CandleMetrics, ((before.map CandleMetrics.mirror).map (·.low)).getD (-m.high) =
      -(before.map (·.high)).getD m.high := by
    intro before
    cases before <;> rfl
  have ranges : ∀ before : Option CandleMetrics, (before.map CandleMetrics.mirror).map (·.range) =
      before.map (·.range) := by
    intro before
    cases before <;> rfl
  have times : ∀ before : Option Candle, (before.map Candle.mirror).map (·.time) = before.map (·.time) := by
    intro before
    cases before <;> rfl
  have origin : (prev.map Candle.mirror).getD cur.mirror = (prev.getD cur).mirror := by
    cases prev <;> rfl
  unfold build
  simp only [CandleMetrics.mirror_high, CandleMetrics.mirror_low, CandleMetrics.mirror_range, highs, lows, ranges,
    times, origin, max_neg_neg, min_neg_neg]
  rcases f with ⟨double, tweezer, pinbar, regular, floating⟩
  have time : cur.mirror.time = cur.time := rfl
  cases double <;> cases tweezer <;> cases floating <;> cases regular <;>
    simp only [↓reduceIte, Bool.false_eq_true, Bool.or_false, Bool.or_true, Bool.or_self, reduceCtorEq, or_self,
      or_true, or_false, time, bandAnchor_mirror, neg_sub_neg, Detected.mirror, SignalGeometry.mirror]

theorem barBefore_mirror (candles : List Candle) (i back : Nat) :
    barBefore (candles.map Candle.mirror) i back = (barBefore candles i back).map Candle.mirror := by
  unfold barBefore
  split
  · exact List.getElem?_map
  · rfl

theorem metricsBefore_mirror (candles : List Candle) (i back : Nat) :
    (barBefore (candles.map Candle.mirror) i back).map CandleMetrics.of =
      ((barBefore candles i back).map CandleMetrics.of).map CandleMetrics.mirror := by
  rw [barBefore_mirror, Option.map_map, Option.map_map]
  congr 1
  funext before
  exact CandleMetrics.of_mirror before

/-- The patterns of one direction on bar `i`, whose candle is `cur`. -/
def patternsOn (candles : List Candle) (i : Nat) (cur : Candle) (flags : DetectFlags) (dir : Direction) :
    DirFlags :=
  dirFlags dir (.of cur) ((barBefore candles i 1).map .of) ((barBefore candles i 2).map .of)
    ((barBefore candles i 3).map .of) flags

/-- Bar `i` satisfies some pattern of direction `dir`. -/
def satisfies (candles : List Candle) (i : Nat) (flags : DetectFlags) (dir : Direction) : Bool :=
  match candles[i]? with
  | none => false
  | some cur => (CandleMetrics.of cur).validCandle && (patternsOn candles i cur flags dir).any

/-- No bar satisfies a bullish and a bearish pattern at once. -/
theorem satisfies_oneWay (candles : List Candle) (i : Nat) (flags : DetectFlags) :
    (satisfies candles i flags .long && satisfies candles i flags .short) = false := by
  unfold satisfies
  cases candles[i]? with
  | none => rfl
  | some cur =>
    simp only [← Bool.not_eq_true, Bool.and_eq_true]
    rintro ⟨⟨valid, up⟩, _, down⟩
    exact CandleMetrics.leans_oneWay valid (dirFlags_leans up) (dirFlags_leans down)

/-- What bar `i` prints in one direction. -/
def printOn (candles : List Candle) (i : Nat) (cur : Candle) (flags : DetectFlags) (dir : Direction) : Detected :=
  build dir (patternsOn candles i cur flags dir) cur (barBefore candles i 1) (barBefore candles i 2) (.of cur)
    ((barBefore candles i 1).map .of) ((barBefore candles i 2).map .of)

/-- The bullish side is asked first. -/
theorem detectAt_found {candles : List Candle} {i : Nat} {cur : Candle} (flags : DetectFlags)
    (found : candles[i]? = some cur) :
    detectAt candles i flags =
      if satisfies candles i flags .long then some (printOn candles i cur flags .long)
      else if satisfies candles i flags .short then some (printOn candles i cur flags .short)
      else none := by
  simp only [detectAt, satisfies, found]
  cases (CandleMetrics.of cur).validCandle with
  | false => rfl
  | true =>
    simp only [Bool.not_true, Bool.false_eq_true, ↓reduceIte, Bool.true_and]
    rfl

theorem patternsOn_mirror (candles : List Candle) (i : Nat) (cur : Candle) (flags : DetectFlags)
    (dir : Direction) :
    patternsOn (candles.map Candle.mirror) i cur.mirror flags dir.opposite =
      patternsOn candles i cur flags dir := by
  rw [patternsOn, CandleMetrics.of_mirror, metricsBefore_mirror, metricsBefore_mirror, metricsBefore_mirror,
    dirFlags_mirror]
  rfl

theorem satisfies_mirror (candles : List Candle) (i : Nat) (flags : DetectFlags) (dir : Direction) :
    satisfies (candles.map Candle.mirror) i flags dir.opposite = satisfies candles i flags dir := by
  unfold satisfies
  rw [List.getElem?_map]
  cases candles[i]? with
  | none => rfl
  | some cur =>
    simp only [Option.map_some, patternsOn_mirror, CandleMetrics.of_mirror, CandleMetrics.mirror_validCandle]

theorem printOn_mirror (candles : List Candle) (i : Nat) (cur : Candle) (flags : DetectFlags)
    (dir : Direction) :
    printOn (candles.map Candle.mirror) i cur.mirror flags dir.opposite =
      (printOn candles i cur flags dir).mirror := by
  rw [printOn, patternsOn_mirror, metricsBefore_mirror, metricsBefore_mirror, barBefore_mirror, barBefore_mirror,
    CandleMetrics.of_mirror, build_mirror]
  rfl

/-- Mirrored candles print the mirrored pattern on every bar. -/
theorem detectAt_mirror (candles : List Candle) (i : Nat) (flags : DetectFlags) :
    detectAt (candles.map Candle.mirror) i flags = (detectAt candles i flags).map Detected.mirror := by
  cases found : candles[i]? with
  | none => simp only [detectAt, List.getElem?_map, found, Option.map_none]
  | some cur =>
    have mirrorFound : (candles.map Candle.mirror)[i]? = some cur.mirror := by
      rw [List.getElem?_map, found, Option.map_some]
    have oneWay := satisfies_oneWay candles i flags
    have up := satisfies_mirror candles i flags .short
    have down := satisfies_mirror candles i flags .long
    have printUp := printOn_mirror candles i cur flags .short
    have printDown := printOn_mirror candles i cur flags .long
    simp only [Direction.opposite] at up down printUp printDown
    rw [detectAt_found flags found, detectAt_found flags mirrorFound, up, down, printUp, printDown]
    cases long : satisfies candles i flags .long with
    | false =>
      cases satisfies candles i flags .short <;> rfl
    | true =>
      rw [long, Bool.true_and] at oneWay
      rw [oneWay]
      rfl

end TradeControl
