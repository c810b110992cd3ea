import Mathlib.Data.List.Find
import TradeControl.EvaluatePlan
import TradeControl.FirstConfirmed
import TradeControl.MovingAverages

namespace TradeControl

open Foundation

section
variable {candles : List Candle} {cfg : DetectorConfig} {bar bound : Nat}

theorem take_take_of_below (below : bar < bound) :
    (candles.take bound).take (bar + 1) = candles.take (bar + 1) := by
  rw [List.take_take, Nat.min_eq_left (by omega)]

theorem atrAt_take (below : bar < bound) : atrAt (candles.take bound) cfg bar = atrAt candles cfg bar := by
  unfold atrAt
  rw [take_take_of_below below]

theorem opposerGoldenFor_take (below : bar < bound) (printed : Option Detected) (dir : Direction) :
    opposerGoldenFor (candles.take bound) bar cfg printed dir =
      opposerGoldenFor candles bar cfg printed dir := by
  unfold opposerGoldenFor
  rw [take_take_of_below below]

theorem updateTracked_take (below : bar < bound) (tracked : List Tracked) (printed : Option Detected)
    (latch : Option Latch) (latchSignalBar : Option Nat) (justValid : Bool) :
    updateTracked tracked bar (candles.take bound) cfg printed latch latchSignalBar justValid =
      updateTracked tracked bar candles cfg printed latch latchSignalBar justValid := by
  simp only [updateTracked, getElem?_take_of_below below, opposerGoldenFor_take below]

theorem recentExtremes_take (below : bar < bound) (lookback : Nat) :
    recentExtremes (candles.take bound) bar lookback = recentExtremes candles bar lookback := by
  unfold recentExtremes
  rw [List.take_take, Nat.min_eq_left below.le]

theorem replayTurn_take (below : bar < bound) (run : Replay) :
    replayTurn (candles.take bound) cfg (atrAt (candles.take bound) cfg bar) run bar =
      replayTurn candles cfg (atrAt candles cfg bar) run bar := by
  simp only [replayTurn, detectAt_take below, updateTracked_take below, atrAt_take below]

theorem replayed_take (within : bar ≤ bound) :
    replayed (candles.take bound) cfg bar = replayed candles cfg bar :=
  countedRun_congr fun turn run below => by rw [replayTurn_take (by omega)]

/-- The latch holds a signal of an earlier bar. -/
theorem replayed_latch (candles : List Candle) (cfg : DetectorConfig) {signalBar : Nat}
    (latched : (replayed candles cfg bar).latchSignalBar = some signalBar) : signalBar < bar := by
  have each : ∀ signalBar, (replayed candles cfg bar).latchSignalBar = some signalBar → signalBar < bar := by
    refine countedRun_invariant
      (fun turn (run : Replay) => ∀ signalBar, run.latchSignalBar = some signalBar → signalBar < turn)
      (fun _ latched => by cases latched) fun turn run _ earlier signalBar latched => ?_
    dsimp only [replayTurn] at latched
    split at latched
    · have := earlier signalBar latched
      omega
    · cases latched
      omega
  exact each signalBar latched

/-- A bar's latched signal reads nothing after the bar. -/
theorem latchedSignalAt_take (below : bar < bound) (inRange : bar < candles.length) :
    latchedSignalAt (candles.take bound) bar cfg = latchedSignalAt candles bar cfg := by
  have inPrefix : bar < (candles.take bound).length := by
    rw [List.length_take]
    omega
  rw [latchedSignalAt_eq cfg inPrefix, latchedSignalAt_eq cfg inRange, replayed_take (by omega),
    replayed_take (by omega), replayTurn_take below]
  unfold emit
  cases (replayed candles cfg (bar + 1)).latch with
  | none => rfl
  | some latch =>
    cases latched : (replayed candles cfg (bar + 1)).latchSignalBar with
    | none => rfl
    | some signalBar =>
      have early := replayed_latch candles cfg latched
      simp only [getElem?_take_of_below (by omega : signalBar < bound),
        recentExtremes_take (by omega : signalBar < bound)]

theorem printAt_take (below : bar < bound) :
    printAt (candles.take bound) cfg bar = printAt candles cfg bar := by
  unfold printAt
  rw [detectAt_take below, atrAt_take below]

theorem Tracked.atBar_take (t : Tracked) (below : bar < bound) :
    t.atBar (candles.take bound) cfg bar = t.atBar candles cfg bar := by
  simp only [Tracked.atBar, getElem?_take_of_below below, detectAt_take below, opposerGoldenFor_take below]

/-- Two readings of a pattern agree on what prints up to a bar. -/
def AcceptsAlike (candles : List Candle) (asOf : Nat) (accepts accepts' : Int → Int → Bool) : Prop :=
  ∀ bar c, bar ≤ asOf → candles[bar]? = some c → ∀ start, accepts start c.time = accepts' start c.time

theorem turnsClaimable_take {crit : SignalCriteria} {accepts accepts' : Int → Int → Bool} {asOf : Nat}
    (alike : AcceptsAlike candles asOf accepts accepts') (reached : bar ≤ asOf) (below : asOf < bound)
    {t : Tracked} (early : t.signalBar ≤ bar) :
    turnsClaimable (candles.take bound) cfg crit accepts' bar t =
      turnsClaimable candles cfg crit accepts bar t := by
  obtain ⟨state, broke, moved⟩ := t.atBar_data candles cfg bar
  have sameClaims : claims (candles.take bound) crit accepts' (t.atBar candles cfg bar) =
      claims candles crit accepts (t.atBar candles cfg bar) := by
    rw [moved]
    unfold claims
    rw [getElem?_take_of_below (by omega : t.signalBar < bound)]
    cases found : candles[t.signalBar]? with
    | none => rfl
    | some c =>
      dsimp only
      rw [alike t.signalBar c (by omega) found]
  unfold turnsClaimable
  rw [t.atBar_take (by omega)]
  dsimp only
  rw [sameClaims]

theorem scanBefore_take {crit : SignalCriteria} {accepts accepts' : Int → Int → Bool} {asOf turn : Nat}
    (alike : AcceptsAlike candles asOf accepts accepts') (reached : turn ≤ asOf + 1) (below : asOf < bound) :
    scanBefore (candles.take bound) cfg crit accepts' turn = scanBefore candles cfg crit accepts turn := by
  induction turn with
  | zero => rfl
  | succ turn ih =>
    have moved : ∀ t : Tracked, t.atBar (candles.take bound) cfg turn = t.atBar candles cfg turn :=
      fun t => t.atBar_take (by omega)
    have fresh : (scanBefore candles cfg crit accepts turn).tracked.find?
        (turnsClaimable (candles.take bound) cfg crit accepts' turn) =
          (scanBefore candles cfg crit accepts turn).tracked.find?
            (turnsClaimable candles cfg crit accepts turn) := by
      rw [scanBefore_tracked]
      refine List.find?_congr fun t member => ?_
      obtain ⟨p, print, past, printed, rfl⟩ := mem_trackedBefore.mp member
      refine turnsClaimable_take alike (by omega) below ?_
      rw [Tracked.lived_signalBar, printAt_signalBar printed]
      omega
    have before := ih (by omega)
    unfold scanBefore at before fresh ⊢
    rw [countedRun_succ, countedRun_succ, before, firstConfirmedAtBar_eq, firstConfirmedAtBar_eq, fresh,
      printAt_take (by omega)]
    simp only [moved]

/-- The first-confirmed scan as of a bar reads nothing after the bar. -/
theorem firstConfirmedSignalMatchingAt_take {crit : SignalCriteria} {accepts accepts' : Int → Int → Bool}
    (alike : AcceptsAlike candles bar accepts accepts') (below : bar < bound)
    (inRange : bar < candles.length) :
    firstConfirmedSignalMatchingAt (candles.take bound) bar cfg crit accepts' =
      firstConfirmedSignalMatchingAt candles bar cfg crit accepts := by
  have inPrefix : ¬(candles.take bound).length ≤ bar := by
    rw [List.length_take]
    omega
  have scanned : countedRun (firstConfirmedAtBar (candles.take bound) cfg crit accepts') {} (bar + 1) =
      scanBefore candles cfg crit accepts (bar + 1) := scanBefore_take alike le_rfl below
  unfold firstConfirmedSignalMatchingAt
  rw [if_neg inPrefix, if_neg (by omega), scanned]
  change _ = (scanBefore candles cfg crit accepts (bar + 1)).signalAt candles cfg bar
  unfold Scan.signalAt
  dsimp only
  cases (scanBefore candles cfg crit accepts (bar + 1)).firstConfirmedBar with
  | none => rfl
  | some winnerBar =>
    dsimp only
    cases found : (scanBefore candles cfg crit accepts (bar + 1)).tracked.find?
        fun t : Tracked => t.signalBar == winnerBar with
    | none => rfl
    | some t =>
      have member := List.mem_of_find?_eq_some found
      rw [scanBefore_tracked] at member
      obtain ⟨p, print, past, printed, rfl⟩ := mem_trackedBefore.mp member
      have early : (print.lived candles cfg (bar + 1 - 1 - p)).signalBar < bound := by
        rw [Tracked.lived_signalBar, printAt_signalBar printed]
        omega
      simp only [Tracked.confirmedSignal, getElem?_take_of_below early, recentExtremes_take early]

theorem confirmedScanFloor_take (below : bar < bound) (inRange : bar < candles.length)
    (granularity : Granularity) (explicit : Option Int) :
    confirmedScanFloor ((candles.take bound).map (·.time)) bar cfg granularity explicit =
      confirmedScanFloor (candles.map (·.time)) bar cfg granularity explicit := by
  cases explicit with
  | some floor => rfl
  | none =>
    have inPrefix : min bar (((candles.take bound).map (·.time)).length - 1) = bar := by
      rw [List.length_map, List.length_take]
      omega
    have inWhole : min bar ((candles.map (·.time)).length - 1) = bar := by
      rw [List.length_map]
      omega
    simp only [confirmedScanFloor, inPrefix, inWhole, List.getElem?_map]
    rw [getElem?_take_of_below (by omega)]

end

end TradeControl

namespace TradeControl

/-- A trigger that measures how far past its line a cross reaches. -/
def Trigger.readsBuffer : Trigger → Bool
  | .horizontalCross _ _ _ | .priceValueCross _ _ _ | .trendlineCross _ _ _ _ _ _ => true
  | _ => false

/-- What the evaluator takes from a whole window comes out, on the window's bar `bar`, as over the
window cut after that bar, as far as the plan has a use for it. -/
structure Settled (plan : TradePlan) (window : List Candle) (bar : Nat) (candle : Candle) : Prop where
  buffer : plan.rules.any (·.trigger.readsBuffer) = true →
    resolveCrossBuffer plan window = resolveCrossBuffer plan (window.take (bar + 1))
  golden : plan.bcrRequireGolden = true → plan.rules.any (fun rule => isBreakAndClose rule || isRetest rule) = true →
    barIsGolden candle window plan.granularity = barIsGolden candle (window.take (bar + 1)) plan.granularity
  lines : ∀ rule ∈ plan.rules, ∀ a b extendForward barSeconds dir event,
    rule.trigger = .trendlineCross a b extendForward barSeconds dir event →
      linePriceAt a b candle extendForward barSeconds window =
        linePriceAt a b candle extendForward barSeconds (window.take (bar + 1))
  retrace : ∀ line, plan.entryConditions.retrace = some line →
    linePriceAt line.a line.b candle true plan.granularity.seconds window =
      linePriceAt line.a line.b candle true plan.granularity.seconds (window.take (bar + 1))
  tolerance : ∀ rule, plan.rules.find? isRetest = some rule → ∀ breakAt,
    retestTolerance plan rule breakAt candle window =
      retestTolerance plan rule breakAt candle (window.take (bar + 1))
  average : (plan.rules.find? isPullback).isSome = true →
    wilderAtr window (atrLengthFor plan.granularity) =
      wilderAtr (window.take (bar + 1)) (atrLengthFor plan.granularity)

section
variable {plan : TradePlan} {window : List Candle} {bar : Nat} {candle : Candle}

theorem Ascending.take (ascending : Ascending window) (bound : Nat) : Ascending (window.take bound) :=
  ascending.sublist (List.take_sublist bound window)

/-- A bar of an ascending window is found under its own time. -/
theorem windowIndex_of (ascending : Ascending window) (found : window[bar]? = some candle) :
    windowIndex window candle.time = some bar := by
  obtain ⟨inRange, rfl⟩ := List.getElem?_eq_some_iff.mp found
  refine List.findIdx?_eq_some_iff_getElem.mpr ⟨inRange, by simp, fun earlier before same => ?_⟩
  have less := List.pairwise_iff_getElem.mp ascending earlier bar (by omega) inRange before
  have equal : window[earlier].time = window[bar].time := by simpa using same
  omega

theorem getElem?_cut (found : window[bar]? = some candle) :
    (window.take (bar + 1))[bar]? = some candle :=
  (getElem?_take_of_below (Nat.lt_succ_self bar)).trans found

theorem windowIndex_cut (ascending : Ascending window) (found : window[bar]? = some candle) :
    windowIndex (window.take (bar + 1)) candle.time = some bar :=
  windowIndex_of (ascending.take _) (getElem?_cut found)

theorem head?_cut (window : List Candle) (bar : Nat) : (window.take (bar + 1)).head? = window.head? := by
  cases window with
  | nil => rfl
  | cons first rest => rfl

/-- A filter that stops at a bar's time sees nothing after the bar. -/
theorem filter_cut (ascending : Ascending window) (found : window[bar]? = some candle)
    {test : Candle → Bool} (stops : ∀ c, test c = true → c.time ≤ candle.time) :
    (window.take (bar + 1)).filter test = window.filter test := by
  have later : (window.drop (bar + 1)).filter test = [] := by
    refine List.filter_eq_nil_iff.mpr fun c member passes => ?_
    obtain ⟨index, at_⟩ := List.mem_iff_getElem?.mp member
    rw [List.getElem?_drop] at at_
    have := ascending.index_le at_ found (stops c passes)
    omega
  have split := congrArg (List.filter test) (List.take_append_drop (bar + 1) window)
  rw [List.filter_append, later, List.append_nil] at split
  exact split

theorem bodyExtreme_cut (ascending : Ascending window) (found : window[bar]? = some candle)
    (armedAt : Int) (dir : Direction) :
    bodyExtreme (window.take (bar + 1)) armedAt candle.time dir =
      bodyExtreme window armedAt candle.time dir := by
  unfold bodyExtreme
  rw [filter_cut ascending found]
  intro c passes
  have within : armedAt ≤ c.time ∧ c.time ≤ candle.time := by simpa using passes
  exact within.2

theorem effectiveBreakAt_cut (plan : TradePlan) (state : PlanState) (window : List Candle) (bar : Nat) :
    effectiveBreakAt plan state (window.take (bar + 1)) = effectiveBreakAt plan state window := by
  unfold effectiveBreakAt
  rw [head?_cut]

theorem patternMatches_iff {candles : List Candle} {start print : Int} {matchesAt : Nat → Bool} :
    patternMatches candles start print matchesAt = true ↔
      (∃ (i : Nat) (c : Candle), candles[i]? = some c ∧ c.time = start) ∧
        (∃ (i : Nat) (c : Candle), candles[i]? = some c ∧ c.time = print) ∧
        ∃ (i : Nat) (c : Candle), candles[i]? = some c ∧ start ≤ c.time ∧ c.time ≤ print ∧ matchesAt i = true := by
  have anywhere : ∀ time : Int, candles.any (·.time == time) = true ↔
      ∃ (i : Nat) (c : Candle), candles[i]? = some c ∧ c.time = time := by
    intro time
    simp only [List.any_eq_true, List.mem_iff_getElem?, beq_iff_eq]
    constructor
    · rintro ⟨c, ⟨i, at_⟩, same⟩
      exact ⟨i, c, at_, same⟩
    · rintro ⟨i, c, at_, same⟩
      exact ⟨c, ⟨i, at_⟩, same⟩
  unfold patternMatches
  rw [Bool.and_eq_true, Bool.and_eq_true, anywhere, anywhere, and_assoc]
  refine and_congr_right fun _ => and_congr_right fun _ => ?_
  simp only [List.any_eq_true, List.mem_range, Option.any_eq_true, Bool.and_eq_true, decide_eq_true_eq]
  constructor
  · rintro ⟨i, _, c, at_, ⟨after, before⟩, meets⟩
    exact ⟨i, c, at_, after, before, meets⟩
  · rintro ⟨i, c, at_, after, before, meets⟩
    exact ⟨i, (List.getElem?_eq_some_iff.mp at_).1, c, at_, ⟨after, before⟩, meets⟩

/-- A pattern that has printed by a bar reads nothing after the bar. -/
theorem patternMatches_cut (ascending : Ascending window) (found : window[bar]? = some candle)
    {start print : Int} (printed : print ≤ candle.time) {matchesAt matchesAt' : Nat → Bool}
    (agree : ∀ i, i < bar + 1 → matchesAt' i = matchesAt i) :
    patternMatches (window.take (bar + 1)) start print matchesAt' =
      patternMatches window start print matchesAt := by
  have early : ∀ {i : Nat} {c : Candle}, window[i]? = some c → c.time ≤ print →
      (window.take (bar + 1))[i]? = some c ∧ i < bar + 1 := by
    intro i c at_ before
    have := ascending.index_le at_ found (before.trans printed)
    exact ⟨(getElem?_take_of_below (by omega)).trans at_, by omega⟩
  have back : ∀ {i : Nat} {c : Candle}, (window.take (bar + 1))[i]? = some c →
      window[i]? = some c ∧ i < bar + 1 := by
    intro i c at_
    obtain ⟨inRange, _⟩ := List.getElem?_eq_some_iff.mp at_
    have below : i < bar + 1 := by
      rw [List.length_take] at inRange
      omega
    exact ⟨(getElem?_take_of_below below).symm.trans at_, below⟩
  rw [Bool.eq_iff_iff, patternMatches_iff, patternMatches_iff]
  constructor
  · rintro ⟨⟨i, c, at_, same⟩, ⟨i', c', at', same'⟩, k, d, atK, after, before, meets⟩
    obtain ⟨atK', below⟩ := back atK
    exact ⟨⟨i, c, (back at_).1, same⟩, ⟨i', c', (back at').1, same'⟩, k, d, atK', after, before,
      (agree k below).symm.trans meets⟩
  · rintro ⟨⟨i, c, at_, same⟩, ⟨i', c', at', same'⟩, k, d, atK, after, before, meets⟩
    obtain ⟨atK', below⟩ := early atK before
    have first := (early at_ (by omega)).1
    have last := (early at' same'.le).1
    exact ⟨⟨i, c, first, same⟩, ⟨i', c', last, same'⟩, k, d, atK', after, before,
      (agree k below).trans meets⟩

theorem MovingAverage.touchesAt_take (average : MovingAverage) {index bound : Nat} (below : index < bound) :
    average.touchesAt (window.take bound) index = average.touchesAt window index := by
  simp only [touchesAt, getElem?_take_of_below below, average.valueAt_take window below]

theorem MovingAverage.offsideAt_take (average : MovingAverage) (direction : Direction)
    {index bound : Nat} (below : index < bound) :
    average.offsideAt (window.take bound) direction index = average.offsideAt window direction index := by
  simp only [offsideAt, getElem?_take_of_below below, average.valueAt_take window below]

theorem patternQualifies_cut (ascending : Ascending window) (found : window[bar]? = some candle)
    (conditions : EntryConditions) (start : Int) {print : Int} (printed : print ≤ candle.time)
    (direction : Direction) :
    conditions.patternQualifies (window.take (bar + 1)) start print direction =
      conditions.patternQualifies window start print direction := by
  have touches : ∀ average : MovingAverage,
      average.touchesPattern (window.take (bar + 1)) start print = average.touchesPattern window start print :=
    fun average => patternMatches_cut ascending found printed fun _ below => average.touchesAt_take below
  have offsides : ∀ average : MovingAverage,
      average.offsidePattern (window.take (bar + 1)) start print direction =
        average.offsidePattern window start print direction :=
    fun average => patternMatches_cut ascending found printed fun _ below =>
      average.offsideAt_take direction below
  simp only [EntryConditions.patternQualifies, EntryConditions.patternTouches, touches, offsides]

theorem favorableAt_take (direction : Direction) {index bound : Nat} (below : index < bound) :
    favorableAt (window.take bound) index direction = favorableAt window index direction := by
  simp only [favorableAt, relationAt_take window below]

theorem maVetoReadyAt_take (plan : TradePlan) {index bound : Nat} (below : index < bound) :
    plan.maVetoReadyAt (window.take bound) index = plan.maVetoReadyAt window index := by
  have relations : ∀ i, i < bound → relationAt (window.take bound) i = relationAt window i :=
    fun i below => relationAt_take window below
  have ready : readyAt (window.take bound) index = readyAt window index := by
    simp only [readyAt, relations index below, atPrevious_congr below relations]
  have averages : ∀ average, averageReadyAt (window.take bound) index average =
      averageReadyAt window index average := by
    intro average
    have values : ∀ i, i < bound → average.valueAt (window.take bound) i = average.valueAt window i :=
      fun i below => average.valueAt_take window below
    simp only [averageReadyAt, values index below, atPrevious_congr below values]
  unfold TradePlan.maVetoReadyAt
  simp only [ready, averages]

/-- The signal of a bar printed on that bar or before it. -/
theorem latchedSignalAt_printed {cfg : DetectorConfig} {signal : LatchedSignal}
    (inRange : bar < window.length) (shown : latchedSignalAt window bar cfg = some signal) :
    ∃ (i : Nat) (c : Candle), i ≤ bar ∧ window[i]? = some c ∧ signal.signalBarTime = c.time := by
  rw [latchedSignalAt_eq cfg inRange] at shown
  unfold emit at shown
  cases latch : (replayed window cfg (bar + 1)).latch with
  | none =>
    rw [latch] at shown
    cases shown
  | some latch' =>
    cases latched : (replayed window cfg (bar + 1)).latchSignalBar with
    | none =>
      rw [latch, latched] at shown
      cases shown
    | some signalBar =>
      have early := replayed_latch window cfg latched
      rw [latch, latched] at shown
      dsimp only at shown
      cases at_ : window[signalBar]? with
      | none =>
        rw [at_] at shown
        cases shown
      | some c =>
        rw [at_] at shown
        cases shown
        exact ⟨signalBar, c, by omega, at_, rfl⟩

theorem firstConfirmedSignalMatchingAt_printed {cfg : DetectorConfig} {crit : SignalCriteria}
    {accepts : Int → Int → Bool} {signal : LatchedSignal} (inRange : bar < window.length)
    (shown : firstConfirmedSignalMatchingAt window bar cfg crit accepts = some signal) :
    ∃ (i : Nat) (c : Candle), i ≤ bar ∧ window[i]? = some c ∧ signal.signalBarTime = c.time := by
  rcases firstConfirmedSignalMatchingAt_earliest inRange with ⟨nothing, _⟩ | ⟨p, print, closed, claimable, _, result⟩
  · rw [nothing] at shown
    cases shown
  · rw [result] at shown
    unfold Tracked.confirmedSignal at shown
    rw [Tracked.lived_signalBar, printAt_signalBar claimable.printed] at shown
    cases at_ : window[p]? with
    | none =>
      rw [at_] at shown
      cases shown
    | some c =>
      rw [at_] at shown
      cases shown
      exact ⟨p, c, by omega, at_, rfl⟩

/-- A pattern enter's reading of its bar takes nothing from the bars after it. -/
theorem evalPineEntry_cut (ascending : Ascending window) (found : window[bar]? = some candle)
    (cfg : DetectorConfig) (pattern : Option SignalKind) (dir : Direction)
    (confirmedFirst needsGolden : Bool) (confirmedFloor confirmedAfter : Option Int) (printOnly : Bool)
    (conditions : Option EntryConditions) :
    evalPineEntry candle (window.take (bar + 1)) cfg pattern dir confirmedFirst needsGolden
        confirmedFloor confirmedAfter printOnly conditions =
      evalPineEntry candle window cfg pattern dir confirmedFirst needsGolden confirmedFloor
        confirmedAfter printOnly conditions := by
  have inRange : bar < window.length := (List.getElem?_eq_some_iff.mp found).1
  let qualifies (candles : List Candle) (start print : Int) : Bool :=
    conditions.all fun conditions => conditions.patternQualifies candles start print dir
  have alike : ∀ print, print ≤ candle.time → ∀ start,
      qualifies (window.take (bar + 1)) start print = qualifies window start print := by
    intro print printed start
    cases conditions with
    | none => rfl
    | some conditions => exact patternQualifies_cut ascending found conditions start printed dir
  have onTime : ∀ {i : Nat} {c : Candle}, i ≤ bar → window[i]? = some c → c.time ≤ candle.time := by
    intro i c early at_
    by_contra later
    have := ascending.index_le found at_ (by omega)
    have same : i = bar := by omega
    subst same
    rw [found] at at_
    cases at_
    omega
  have accepts : AcceptsAlike window bar (qualifies window) (qualifies (window.take (bar + 1))) :=
    fun i c early at_ start => (alike c.time (onTime early at_) start).symm
  unfold evalPineEntry
  rw [windowIndex_cut ascending found, windowIndex_of ascending found]
  dsimp only [Option.bind_eq_bind, Option.bind_some]
  rw [confirmedScanFloor_take (Nat.lt_succ_self bar) inRange,
    firstConfirmedSignalMatchingAt_take accepts (Nat.lt_succ_self bar) inRange,
    latchedSignalAt_take (Nat.lt_succ_self bar) inRange]
  have checked : ∀ sig : LatchedSignal,
      (∃ (i : Nat) (c : Candle), i ≤ bar ∧ window[i]? = some c ∧ sig.signalBarTime = c.time) →
        (conditions.all fun conditions => conditions.patternQualifies (window.take (bar + 1))
          sig.signalStartTime sig.signalBarTime dir) =
        conditions.all fun conditions => conditions.patternQualifies window
          sig.signalStartTime sig.signalBarTime dir := by
    rintro sig ⟨i, c, early, at_, same⟩
    exact alike sig.signalBarTime (same ▸ onTime early at_) sig.signalStartTime
  split
  · refine Option.bind_congr fun sig shown => ?_
    simp only [checked sig (firstConfirmedSignalMatchingAt_printed inRange shown)]
  · refine Option.bind_congr fun sig shown => ?_
    simp only [checked sig (latchedSignalAt_printed inRange shown)]

end

end TradeControl
