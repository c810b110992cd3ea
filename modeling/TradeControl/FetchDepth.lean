import TradeControl.FirstConfirmed
import TradeControl.Foundation.LeastChoices

namespace TradeControl

open Foundation

/-- What an enter asks of the confirmed-first choice when it has no setup floor of its own. -/
structure ConfirmedChoice where
  dir : Direction
  kind : Option SignalKind := none
  requireGolden : Bool := false
  after : Option Int := none
  acceptsPattern : Int → Int → Bool := fun _ _ => true

/-- The criteria of a choice at a bar of a window, floored at the shared lookback. -/
def ConfirmedChoice.criteria (choice : ConfirmedChoice) (candles : List Candle) (asOf : Nat)
    (cfg : DetectorConfig) : SignalCriteria :=
  { dir := choice.dir
    kind := choice.kind
    requireGolden := choice.requireGolden
    notBefore := confirmedScanFloor (candles.map (·.time)) asOf cfg cfg.granularity none
    after := choice.after }

/-- The signal a choice comes to at a bar of a window. -/
def ConfirmedChoice.signal (choice : ConfirmedChoice) (candles : List Candle) (asOf : Nat)
    (cfg : DetectorConfig) : Option LatchedSignal :=
  firstConfirmedSignalMatchingAt candles asOf cfg (choice.criteria candles asOf cfg)
    choice.acceptsPattern

/-- The pattern a signal shows and whether it is golden. -/
structure SignalPattern where
  direction : Direction
  geometry : SignalGeometry
  golden : Bool
  deriving DecidableEq

/-- What an entry takes from a signal. -/
structure SeenSignal where
  signalBarTime : Int
  pattern : SignalPattern
  fires : Bool
  deriving DecidableEq

def LatchedSignal.seen (signal : LatchedSignal) : SeenSignal :=
  { signalBarTime := signal.signalBarTime
    pattern :=
      { direction := signal.direction
        geometry :=
          { high := signal.signalHigh, low := signal.signalLow, range := signal.signalRange,
            kind := signal.kind, startTime := signal.signalStartTime, bandAnchor := signal.bandAnchor }
        golden := signal.golden }
    fires := signal.fires }

def Tracked.pattern (t : Tracked) : SignalPattern :=
  { direction := t.direction
    geometry :=
      { high := t.high, low := t.low, range := t.range, kind := t.kind, startTime := t.startTime,
        bandAnchor := t.bandAnchor }
    golden := t.golden }

/-- What bar `p` of a window offers a choice: the pattern it prints, when the choice admits the
print and the bars after it confirm it by `asOf`. -/
def ConfirmedChoice.offer (choice : ConfirmedChoice) (candles : List Candle) (asOf : Nat)
    (cfg : DetectorConfig) (p : Nat) : Option SignalPattern :=
  match printAt candles cfg p with
  | none => none
  | some print =>
    if p + cfg.confirmBars ≤ asOf ∧
        claims candles (choice.criteria candles asOf cfg) choice.acceptsPattern print = true ∧
        print.ConfirmsInWindow candles cfg then
      some print.pattern
    else none

/-- On the first bar that offers a signal in a window or in its suffix, both offer one, with
one pattern and one golden verdict. -/
def ConfirmedChoice.FirstOfferAgrees (choice : ConfirmedChoice) (candles : List Candle)
    (dropped asOf : Nat) (cfg : DetectorConfig) : Prop :=
  let deep p := choice.offer candles asOf cfg (dropped + p)
  let shallow p := choice.offer (candles.drop dropped) (asOf - dropped) cfg p
  ∀ p, (∀ q < p, deep q = none ∧ shallow q = none) → deep p = shallow p

section
variable {choice : ConfirmedChoice} {candles : List Candle} {asOf : Nat} {cfg : DetectorConfig}

theorem ConfirmedChoice.offer_eq_some {p : Nat} {pattern : SignalPattern} :
    choice.offer candles asOf cfg p = some pattern ↔
      p + cfg.confirmBars ≤ asOf ∧ ∃ print, print.pattern = pattern ∧
        Claimable candles cfg (choice.criteria candles asOf cfg) choice.acceptsPattern p print := by
  unfold ConfirmedChoice.offer
  cases printed : printAt candles cfg p with
  | none =>
    refine ⟨fun no => by simp at no, fun offered => ?_⟩
    obtain ⟨_, print, _, claimable⟩ := offered
    exact absurd claimable.printed (by simp [printed])
  | some print =>
    dsimp only
    constructor
    · intro offered
      split at offered
      · next all => 
        cases offered
        exact ⟨all.1, print, rfl, printed, all.2.1, all.2.2⟩
      · cases offered
    · rintro ⟨closed, print', rfl, claimable⟩
      have same := claimable.printed
      rw [printed] at same
      cases same
      rw [if_pos ⟨closed, claimable.admitted, claimable.confirms⟩]

theorem ConfirmedChoice.offer_inRange {p : Nat} {pattern : SignalPattern}
    (offered : choice.offer candles asOf cfg p = some pattern) : p < candles.length := by
  obtain ⟨_, print, _, claimable⟩ := offer_eq_some.mp offered
  exact printAt_inRange claimable.printed

/-- A first offer as the signal an entry would see. -/
def seenFrom (candles : List Candle) (asOf : Nat) (cfg : DetectorConfig)
    (offered : Nat × SignalPattern) : SeenSignal :=
  { signalBarTime := (candles[offered.1]?.map (·.time)).getD 0
    pattern := offered.2
    fires := decide (asOf = offered.1 + cfg.confirmBars) }

/-- The choice comes to the first offer of its window. -/
theorem ConfirmedChoice.signal_firstOffer (choice : ConfirmedChoice) (cfg : DetectorConfig)
    (inRange : asOf < candles.length) :
    ∃ found, IsFirst (choice.offer candles asOf cfg) found ∧
      (choice.signal candles asOf cfg).map LatchedSignal.seen = found.map (seenFrom candles asOf cfg) := by
  rcases firstConfirmedSignalMatchingAt_earliest inRange with ⟨result, free⟩ | found
  · refine ⟨none, fun p => ?_, by rw [signal, result]; rfl⟩
    cases offered : choice.offer candles asOf cfg p with
    | none => rfl
    | some pattern =>
      obtain ⟨closed, print, _, claimable⟩ := offer_eq_some.mp offered
      exact absurd claimable (free p print closed)
  · obtain ⟨p, print, closed, claimable, first, result⟩ := found
    refine ⟨some (p, print.pattern), ⟨offer_eq_some.mpr ⟨closed, print, rfl, claimable⟩, ?_⟩, ?_⟩
    · intro q before
      cases offered : choice.offer candles asOf cfg q with
      | none => rfl
      | some pattern =>
        obtain ⟨_, other, _, claimable'⟩ := offer_eq_some.mp offered
        exact absurd claimable' (first q other before)
    · have onBar := printAt_signalBar claimable.printed
      have inWindow : p < candles.length := printAt_inRange claimable.printed
      obtain ⟨state, broke, same⟩ := print.lived_data candles cfg (asOf - p)
      rw [signal, result, same]
      unfold Tracked.confirmedSignal seenFrom
      rw [onBar, Option.map_some, List.getElem?_eq_getElem inWindow]
      rfl

/-- The fallback floor is the time of the bar one lookback before the as-of bar. -/
theorem confirmedScanFloor_lookback (cfg : DetectorConfig) (inRange : asOf < candles.length) :
    confirmedScanFloor (candles.map (·.time)) asOf cfg cfg.granularity none =
      (candles[asOf - detectorLookbackBars cfg cfg.granularity]?).map (·.time) := by
  have within : min asOf ((candles.map (·.time)).length - 1) = asOf := by
    rw [List.length_map]
    omega
  rw [confirmedScanFloor, within, List.getElem?_map]

/-- No signal older than the lookback is offered. -/
theorem ConfirmedChoice.offer_recent {p : Nat} (ascending : Ascending candles)
    (inRange : asOf < candles.length) (old : p < asOf - detectorLookbackBars cfg cfg.granularity) :
    choice.offer candles asOf cfg p = none := by
  cases offered : choice.offer candles asOf cfg p with
  | none => rfl
  | some pattern =>
    obtain ⟨_, print, _, claimable⟩ := offer_eq_some.mp offered
    have floorAt : candles[asOf - detectorLookbackBars cfg cfg.granularity]? =
        some candles[asOf - detectorLookbackBars cfg cfg.granularity] := List.getElem?_eq_getElem (by omega)
    have printInRange : p < candles.length := printAt_inRange claimable.printed
    have printBar : candles[p]? = some candles[p] := List.getElem?_eq_getElem printInRange
    have admitted := claimable.admitted
    unfold claims at admitted
    rw [printAt_signalBar claimable.printed, printBar] at admitted
    simp only [SignalCriteria.admits, criteria, confirmedScanFloor_lookback cfg inRange, floorAt,
      Option.map_some, Option.all_some, Bool.and_eq_true, decide_eq_true_eq] at admitted
    have recent := ascending.index_le floorAt printBar admitted.1.1.1.2
    omega

/-- A suffix that reaches back a lookback views the first offer of the whole window as its own. -/
theorem ConfirmedChoice.signal_drop_firstOffers (choice : ConfirmedChoice) (dropped : Nat)
    (cfg : DetectorConfig) (ascending : Ascending candles) (inRange : asOf < candles.length)
    (reaches : dropped + detectorLookbackBars cfg cfg.granularity ≤ asOf) :
    ∃ found shallowFound, IsFirst (fun p => choice.offer candles asOf cfg (dropped + p)) found ∧
      IsFirst (choice.offer (candles.drop dropped) (asOf - dropped) cfg) shallowFound ∧
      (choice.signal candles asOf cfg).map LatchedSignal.seen =
        found.map (seenFrom (candles.drop dropped) (asOf - dropped) cfg) ∧
      (choice.signal (candles.drop dropped) (asOf - dropped) cfg).map LatchedSignal.seen =
        shallowFound.map (seenFrom (candles.drop dropped) (asOf - dropped) cfg) := by
  have within : asOf - dropped < (candles.drop dropped).length := by
    rw [List.length_drop]
    omega
  obtain ⟨found, first, deep⟩ := choice.signal_firstOffer cfg inRange
  obtain ⟨shallowFound, shallowFirst, shallow⟩ := choice.signal_firstOffer cfg within
  obtain ⟨rest, restFirst, rfl⟩ := first.skip fun p (below : p < dropped) =>
    ConfirmedChoice.offer_recent ascending inRange (by omega)
  have sameView : seenFrom candles asOf cfg ∘ (fun offered => (dropped + offered.1, offered.2)) =
      seenFrom (candles.drop dropped) (asOf - dropped) cfg := by
    funext offered
    have fires : asOf = dropped + offered.1 + cfg.confirmBars ↔
        asOf - dropped = offered.1 + cfg.confirmBars := by omega
    simp only [Function.comp_apply, seenFrom, List.getElem?_drop, fires]
  refine ⟨rest, shallowFound, restFirst, shallowFirst, ?_, shallow⟩
  rw [deep, Option.map_map, sameView]

/-- Three bars into a suffix, its prints are those of the whole window. -/
theorem detectAt_drop (candles : List Candle) {dropped bar : Nat} (deep : 3 ≤ bar) (flags : DetectFlags) :
    detectAt candles (dropped + bar) flags = detectAt (candles.drop dropped) bar flags := by
  refine detectAt_congr flags List.getElem?_drop.symm fun back _ within => ?_
  have place : dropped + bar - back = dropped + (bar - back) := by omega
  rw [barBefore, barBefore, if_pos (by omega), if_pos (by omega), List.getElem?_drop, place]

/-- A window and its suffix reach one golden verdict on a bar's print. -/
def GoldenAgrees (candles : List Candle) (dropped : Nat) (cfg : DetectorConfig) (bar : Nat) : Prop :=
  ∀ d, detectAt (candles.drop dropped) bar cfg.detect = some d →
    printsGolden (atrAt candles cfg (dropped + bar)) d =
      printsGolden (atrAt (candles.drop dropped) cfg bar) d

theorem Tracked.confirmsInWindow_drop {t t' : Tracked} {dropped : Nat}
    (sameBar : t.signalBar = dropped + t'.signalBar) (samePattern : t.pattern = t'.pattern)
    (deep : 3 ≤ t'.signalBar)
    (golden : ∀ bar, t'.signalBar < bar → bar ≤ t'.signalBar + cfg.confirmBars →
      GoldenAgrees candles dropped cfg bar) :
    t.ConfirmsInWindow candles cfg ↔ t'.ConfirmsInWindow (candles.drop dropped) cfg := by
  have direction : t.direction = t'.direction := congrArg SignalPattern.direction samePattern
  have high : t.high = t'.high := congrArg (·.geometry.high) samePattern
  have low : t.low = t'.low := congrArg (·.geometry.low) samePattern
  have sameGolden : t.golden = t'.golden := congrArg SignalPattern.golden samePattern
  have pushed : t.pushed = t'.pushed := funext fun c => by
    simp only [Tracked.pushed, direction, high, low]
  have breached : t.breached = t'.breached := funext fun c => by
    simp only [Tracked.breached, direction, high, low]
  have places : ∀ bar, t.signalBar < bar → bar ≤ t.signalBar + cfg.confirmBars →
      ∃ bar', bar = dropped + bar' ∧ t'.signalBar < bar' ∧ bar' ≤ t'.signalBar + cfg.confirmBars :=
    fun bar late inside => ⟨bar - dropped, by omega, by omega, by omega⟩
  have prints : ∀ bar, t'.signalBar < bar → detectAt candles (dropped + bar) cfg.detect =
      detectAt (candles.drop dropped) bar cfg.detect := fun bar late => detectAt_drop candles (by omega) _
  constructor
  · rintro ⟨⟨bar, c, late, inside, found, push⟩, unbreached, unopposed⟩
    obtain ⟨bar, rfl, late', inside'⟩ := places bar late inside
    refine ⟨⟨bar, c, late', inside', List.getElem?_drop.trans found, pushed ▸ push⟩, ?_, ?_⟩
    · intro bar c late inside found
      exact breached ▸ unbreached _ c (by omega) (by omega) (List.getElem?_drop.symm.trans found)
    · intro bar d late inside detected opposes
      have spared := unopposed _ d (by omega) (by omega) ((prints bar late).trans detected)
        (direction ▸ opposes)
      exact ⟨sameGolden ▸ spared.1, golden bar late inside d detected ▸ spared.2⟩
  · rintro ⟨⟨bar, c, late, inside, found, push⟩, unbreached, unopposed⟩
    refine ⟨⟨dropped + bar, c, by omega, by omega, List.getElem?_drop.symm.trans found,
      pushed ▸ push⟩, ?_, ?_⟩
    · intro bar c late inside found
      obtain ⟨bar, rfl, late', inside'⟩ := places bar late inside
      exact breached ▸ unbreached bar c late' inside' (List.getElem?_drop.trans found)
    · intro bar d late inside detected opposes
      obtain ⟨bar, rfl, late', inside'⟩ := places bar late inside
      rw [prints bar late'] at detected
      have spared := unopposed bar d late' inside' detected (direction ▸ opposes)
      exact ⟨sameGolden ▸ spared.1, golden bar late' inside' d detected ▸ spared.2⟩

/-- A suffix that reaches back one lookback asks the same criteria. -/
theorem ConfirmedChoice.criteria_drop (choice : ConfirmedChoice) {dropped : Nat}
    (reaches : dropped + detectorLookbackBars cfg cfg.granularity ≤ asOf)
    (inRange : asOf < candles.length) :
    choice.criteria (candles.drop dropped) (asOf - dropped) cfg = choice.criteria candles asOf cfg := by
  have within : asOf - dropped < (candles.drop dropped).length := by
    rw [List.length_drop]
    omega
  have sameBar : dropped + (asOf - dropped - detectorLookbackBars cfg cfg.granularity) =
      asOf - detectorLookbackBars cfg cfg.granularity := by omega
  rw [criteria, criteria, confirmedScanFloor_lookback cfg within, confirmedScanFloor_lookback cfg inRange,
    List.getElem?_drop, sameBar]

/-- Where the golden verdicts agree, so do the offers of a bar. -/
theorem ConfirmedChoice.offer_drop (choice : ConfirmedChoice) {dropped p : Nat}
    (reaches : dropped + detectorLookbackBars cfg cfg.granularity ≤ asOf)
    (inRange : asOf < candles.length) (deep : 3 ≤ p)
    (golden : ∀ bar, 3 ≤ bar → dropped + bar ≤ asOf → GoldenAgrees candles dropped cfg bar) :
    choice.offer candles asOf cfg (dropped + p) =
      choice.offer (candles.drop dropped) (asOf - dropped) cfg p := by
  have prints : detectAt candles (dropped + p) cfg.detect = detectAt (candles.drop dropped) p cfg.detect :=
    detectAt_drop candles deep _
  have closed : dropped + p + cfg.confirmBars ≤ asOf ↔ p + cfg.confirmBars ≤ asOf - dropped := by omega
  unfold ConfirmedChoice.offer printAt
  rw [prints, choice.criteria_drop reaches inRange]
  cases detected : detectAt (candles.drop dropped) p cfg.detect with
  | none => rfl
  | some d =>
    dsimp only [Option.map_some]
    by_cases settled : dropped + p + cfg.confirmBars ≤ asOf
    · have sameGolden := golden p deep (by omega) d detected
      have samePattern : (d.track (atrAt candles cfg (dropped + p)) (dropped + p)).pattern =
          (d.track (atrAt (candles.drop dropped) cfg p) p).pattern := by
        simp only [Tracked.pattern, Detected.track, sameGolden]
      have sameClaims : claims candles (choice.criteria candles asOf cfg) choice.acceptsPattern
            (d.track (atrAt candles cfg (dropped + p)) (dropped + p)) =
          claims (candles.drop dropped) (choice.criteria candles asOf cfg) choice.acceptsPattern
            (d.track (atrAt (candles.drop dropped) cfg p) p) := by
        simp only [claims, Detected.track, SignalCriteria.admits, List.getElem?_drop, sameGolden]
        rfl
      have sameWindow :
          (d.track (atrAt candles cfg (dropped + p)) (dropped + p)).ConfirmsInWindow candles cfg ↔
            (d.track (atrAt (candles.drop dropped) cfg p) p).ConfirmsInWindow (candles.drop dropped) cfg := by
        refine Tracked.confirmsInWindow_drop rfl samePattern deep fun bar late inside => ?_
        have after : p < bar := late
        have before : bar ≤ p + cfg.confirmBars := inside
        exact golden bar (by omega) (by omega)
      simp only [closed, sameClaims, sameWindow, samePattern]
    · rw [if_neg fun all => settled all.1, if_neg fun all => settled (closed.mpr all.1)]

/-- A suffix that reaches back a lookback and a pattern's depth comes to the same signal wherever
it reaches the same golden verdicts. -/
theorem ConfirmedChoice.signal_drop_of_golden (choice : ConfirmedChoice) (candles : List Candle)
    (dropped asOf : Nat) (cfg : DetectorConfig) (ascending : Ascending candles)
    (inRange : asOf < candles.length)
    (reaches : dropped + 3 + detectorLookbackBars cfg cfg.granularity ≤ asOf)
    (golden : ∀ bar, 3 ≤ bar → dropped + bar ≤ asOf → GoldenAgrees candles dropped cfg bar) :
    (choice.signal candles asOf cfg).map LatchedSignal.seen =
      (choice.signal (candles.drop dropped) (asOf - dropped) cfg).map LatchedSignal.seen := by
  have within : asOf - dropped < (candles.drop dropped).length := by
    rw [List.length_drop]
    omega
  have ascendingDrop : Ascending (candles.drop dropped) := ascending.sublist (List.drop_sublist _ _)
  obtain ⟨rest, shallowFound, restFirst, shallowFirst, deep, shallow⟩ :=
    choice.signal_drop_firstOffers dropped cfg ascending inRange (by omega)
  have sameFirst : rest = shallowFound := by
    refine (restFirst.eq_iff shallowFirst).mpr fun p _ => ?_
    rcases Nat.lt_or_ge p (asOf - dropped - detectorLookbackBars cfg cfg.granularity) with old | recent
    · rw [ConfirmedChoice.offer_recent ascendingDrop within old,
        ConfirmedChoice.offer_recent ascending inRange (by omega)]
    · exact choice.offer_drop (by omega) inRange (by omega) golden
  rw [deep, shallow, sameFirst]

end

/-- A flat day behind a golden pinbar that confirms, and a wide bar before it all. -/
def wideThenFlat : List Candle :=
  ⟨0, 400, 500, 90, 100⟩ ::
    (((List.range 24).map fun hour => ⟨3600 * (hour + 1), 100, 100, 100, 100⟩) ++
      [⟨3600 * 25, 99, 100, 90, 100⟩, ⟨3600 * 26, 100, 101, 100, 100⟩, ⟨3600 * 27, 100, 100, 100, 100⟩])

def goldenLong : ConfirmedChoice := { dir := .long, requireGolden := true }

end TradeControl
