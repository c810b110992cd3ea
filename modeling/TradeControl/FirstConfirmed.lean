import TradeControl.TrackedLives

namespace TradeControl

open Foundation

/-- The confirm window of a signal, read off the candles: a push inside it, no breach inside
it, and no opposing print inside it that golden-protect lets through. -/
structure Tracked.ConfirmsInWindow (t : Tracked) (candles : List Candle) (cfg : DetectorConfig) :
    Prop where
  pushed : ∃ bar c, t.signalBar < bar ∧ bar ≤ t.signalBar + cfg.confirmBars ∧
    candles[bar]? = some c ∧ t.pushed c = true
  unbreached : ∀ bar c, t.signalBar < bar → bar ≤ t.signalBar + cfg.confirmBars →
    candles[bar]? = some c → t.breached c = false
  unopposed : ∀ bar d, t.signalBar < bar → bar ≤ t.signalBar + cfg.confirmBars →
    detectAt candles bar cfg.detect = some d → d.direction ≠ t.direction →
      t.golden = true ∧ printsGolden (atrAt candles cfg bar) d = false

theorem Tracked.ConfirmsInWindow.opens {t : Tracked} {candles : List Candle} {cfg : DetectorConfig}
    (confirms : t.ConfirmsInWindow candles cfg) : 0 < cfg.confirmBars := by
  obtain ⟨bar, c, late, inside, _⟩ := confirms.pushed
  omega

/-- Inside the window, a bar spares a signal when it neither breaches nor opposes it. -/
theorem Tracked.strikeAt_spares {t : Tracked} {candles : List Candle} {cfg : DetectorConfig}
    {elapsed : Nat} (inside : elapsed ≤ cfg.confirmBars) :
    t.strikeAt candles cfg elapsed = false ↔
      (∀ c, candles[t.signalBar + elapsed]? = some c → t.breached c = false) ∧
        ∀ d, detectAt candles (t.signalBar + elapsed) cfg.detect = some d → d.direction ≠ t.direction →
          t.golden = true ∧ printsGolden (atrAt candles cfg (t.signalBar + elapsed)) d = false := by
  unfold Tracked.strikeAt
  dsimp only
  cases found : candles[t.signalBar + elapsed]? with
  | none =>
    have silent : detectAt candles (t.signalBar + elapsed) cfg.detect = none := by
      simp only [detectAt, found]
    simp [silent]
  | some c =>
    cases detected : detectAt candles (t.signalBar + elapsed) cfg.detect with
    | none => simp [struck, opposerGoldenFor, opposedBy]
    | some d =>
      by_cases opposes : d.direction = t.direction
      · simp [struck, opposerGoldenFor, opposedBy, opposes]
      · simp [struck, opposerGoldenFor, opposedBy, opposes, inside, atrAt]

theorem Tracked.pushAt_iff {t : Tracked} {candles : List Candle} {elapsed : Nat} :
    t.pushAt candles elapsed = true ↔
      ∃ c, candles[t.signalBar + elapsed]? = some c ∧ t.pushed c = true :=
  Option.any_eq_true _ _

/-- The window in the signal's own ticks is the window on the candles. -/
theorem Tracked.confirms_iff (t : Tracked) (candles : List Candle) (cfg : DetectorConfig) :
    Confirms cfg.confirmBars (t.pushAt candles) (t.strikeAt candles cfg) ↔
      t.ConfirmsInWindow candles cfg := by
  have ticks : ∀ bar, t.signalBar < bar → bar ≤ t.signalBar + cfg.confirmBars →
      ∃ tick, 0 < tick ∧ tick ≤ cfg.confirmBars ∧ bar = t.signalBar + tick :=
    fun bar late inside => ⟨bar - t.signalBar, by omega, by omega, by omega⟩
  constructor
  · rintro ⟨⟨tick, pos, inside, push⟩, unstruck⟩
    obtain ⟨c, found, pushed⟩ := pushAt_iff.mp push
    refine ⟨⟨_, c, by omega, by omega, found, pushed⟩, ?_, ?_⟩
    · intro bar c late inside found
      obtain ⟨tick, pos, within, rfl⟩ := ticks bar late inside
      exact ((strikeAt_spares within).mp (unstruck tick pos within)).1 c found
    · intro bar d late inside detected
      obtain ⟨tick, pos, within, rfl⟩ := ticks bar late inside
      exact ((strikeAt_spares within).mp (unstruck tick pos within)).2 d detected
  · rintro ⟨⟨bar, c, late, inside, found, pushed⟩, unbreached, unopposed⟩
    obtain ⟨tick, pos, within, rfl⟩ := ticks bar late inside
    refine ⟨⟨tick, pos, within, pushAt_iff.mpr ⟨c, found, pushed⟩⟩, fun tick pos within => ?_⟩
    exact (strikeAt_spares within).mpr ⟨fun c => unbreached _ c (by omega) (by omega),
      fun d => unopposed _ d (by omega) (by omega)⟩

instance (t : Tracked) (candles : List Candle) (cfg : DetectorConfig) :
    Decidable (t.ConfirmsInWindow candles cfg) := decidable_of_iff _ (t.confirms_iff candles cfg)

/-- The first-confirmed scan before bar `bound`. -/
def scanBefore (candles : List Candle) (cfg : DetectorConfig) (crit : SignalCriteria)
    (acceptsPattern : Int → Int → Bool) (bound : Nat) : Scan :=
  countedRun (firstConfirmedAtBar candles cfg crit acceptsPattern) {} bound

/-- A tracked signal that turns valid on `bar` and may claim the winner slot. -/
def turnsClaimable (candles : List Candle) (cfg : DetectorConfig) (crit : SignalCriteria)
    (acceptsPattern : Int → Int → Bool) (bar : Nat) (t : Tracked) : Bool :=
  let moved := t.atBar candles cfg bar
  decide (moved.state = .valid) && !decide (t.state = .valid) && claims candles crit acceptsPattern moved

/-- One bar of the scan: the tracked signals move, and the first of them to turn claimable
takes the slot if it is still free. -/
theorem firstConfirmedAtBar_eq (candles : List Candle) (cfg : DetectorConfig)
    (crit : SignalCriteria) (acceptsPattern : Int → Int → Bool) (scan : Scan) (bar : Nat) :
    firstConfirmedAtBar candles cfg crit acceptsPattern scan bar =
      let fresh := if scan.firstConfirmedBar = none then
        scan.tracked.find? (turnsClaimable candles cfg crit acceptsPattern bar) else none
      { tracked := scan.tracked.map (fun t => t.atBar candles cfg bar) ++ (printAt candles cfg bar).toList
        firstConfirmedBar := (fresh.map (·.signalBar)).or scan.firstConfirmedBar
        confirmedOn := (fresh.map fun _ => bar).or scan.confirmedOn } := by
  have fresh (wanted : Tracked × Bool → Bool)
      (turns : ∀ t : Tracked, wanted (t.atBar candles cfg bar, decide (t.state = .valid)) =
        turnsClaimable candles cfg crit acceptsPattern bar t) :
      (List.zip (scan.tracked.map fun t => t.atBar candles cfg bar)
        (scan.tracked.map fun t => decide (t.state = .valid))).find? wanted =
      (scan.tracked.find? (turnsClaimable candles cfg crit acceptsPattern bar)).map fun t =>
        (t.atBar candles cfg bar, decide (t.state = .valid)) := by
    rw [List.zip_map', List.find?_map]
    exact congrArg (fun wanted => (scan.tracked.find? wanted).map _) (funext turns)
  have onBar : ∀ t : Tracked, (t.atBar candles cfg bar).signalBar = t.signalBar := fun t => by
    obtain ⟨_, _, same⟩ := t.atBar_data candles cfg bar
    rw [same]
  unfold firstConfirmedAtBar printAt
  dsimp only
  rw [updateTracked_tracked, fresh _ fun _ => rfl]
  cases scan.firstConfirmedBar with
  | some winner => cases detectAt candles bar cfg.detect <;> simp [atrAt]
  | none =>
    cases scan.tracked.find? (turnsClaimable candles cfg crit acceptsPattern bar) with
    | none => cases detectAt candles bar cfg.detect <;> simp [atrAt]
    | some t => cases detectAt candles bar cfg.detect <;> simp [atrAt, onBar]

theorem scanBefore_tracked (candles : List Candle) (cfg : DetectorConfig) (crit : SignalCriteria)
    (acceptsPattern : Int → Int → Bool) (bound : Nat) :
    (scanBefore candles cfg crit acceptsPattern bound).tracked = trackedBefore candles cfg bound := by
  induction bound with
  | zero => rfl
  | succ bound ih =>
    rw [scanBefore, countedRun_succ, firstConfirmedAtBar_eq, trackedBefore_succ, ← ih]
    rfl

/-- A print turns valid on one bar only, the last of its window, and only if the window
confirms it. -/
theorem lived_turnsValid_iff {candles : List Candle} {cfg : DetectorConfig} {p bar : Nat}
    {print : Tracked} (printed : printAt candles cfg p = some print)
    (past : p < bar) (inRange : bar < candles.length) :
    (print.lived candles cfg (bar - p)).state = .valid ∧
        (print.lived candles cfg (bar - 1 - p)).state ≠ .valid ↔
      bar = p + cfg.confirmBars ∧ print.ConfirmsInWindow candles cfg := by
  have onBar := printAt_signalBar printed
  have fresh := printAt_fresh printed
  obtain ⟨elapsed, rfl⟩ : ∃ elapsed, bar = p + (elapsed + 1) := ⟨bar - p - 1, by omega⟩
  have now : p + (elapsed + 1) - p = elapsed + 1 := by omega
  have before : p + (elapsed + 1) - 1 - p = elapsed := by omega
  have window : elapsed + 1 = cfg.confirmBars ↔ p + (elapsed + 1) = p + cfg.confirmBars := by omega
  rw [now, before, ← Tracked.life_confirmed_iff, Ne, ← Tracked.life_confirmed_iff,
    Tracked.lived_life cfg fresh (by omega), Tracked.lived_life cfg fresh (by omega),
    ← Tracked.confirms_iff, ← window]
  exact Life.turns_confirmed_iff

/-- A signal that may claim the winner slot: the criteria admit its print and its own window
confirms it. -/
structure Claimable (candles : List Candle) (cfg : DetectorConfig) (crit : SignalCriteria)
    (acceptsPattern : Int → Int → Bool) (p : Nat) (print : Tracked) : Prop where
  printed : printAt candles cfg p = some print
  admitted : claims candles crit acceptsPattern print = true
  confirms : print.ConfirmsInWindow candles cfg

section
variable {candles : List Candle} {cfg : DetectorConfig} {crit : SignalCriteria}
  {acceptsPattern : Int → Int → Bool} {p : Nat} {print : Tracked}

theorem claims_lived (print : Tracked) (elapsed : Nat) :
    claims candles crit acceptsPattern (print.lived candles cfg elapsed) =
      claims candles crit acceptsPattern print := by
  obtain ⟨_, _, same⟩ := print.lived_data candles cfg elapsed
  rw [same]
  rfl

/-- What the scan takes on a bar is a claimable signal whose window closes there. -/
theorem turnsClaimable_iff {bar : Nat}
    (printed : printAt candles cfg p = some print) (past : p < bar) (inRange : bar < candles.length) :
    turnsClaimable candles cfg crit acceptsPattern bar (print.lived candles cfg (bar - 1 - p)) = true ↔
      bar = p + cfg.confirmBars ∧ Claimable candles cfg crit acceptsPattern p print := by
  have moved : (print.lived candles cfg (bar - 1 - p)).atBar candles cfg bar =
      print.lived candles cfg (bar - p) := by
    have elapsed : bar - p = (bar - 1 - p) + 1 := by omega
    have onBar : print.signalBar + (bar - 1 - p) + 1 = bar := by
      have := printAt_signalBar printed
      omega
    rw [elapsed, Tracked.lived, onBar]
  have turns := lived_turnsValid_iff printed past inRange
  simp only [turnsClaimable, moved, claims_lived, Bool.and_eq_true, decide_eq_true_eq,
    Bool.not_eq_true', decide_eq_false_iff_not]
  rw [turns, and_assoc]
  exact and_congr_right fun _ => 
    ⟨fun both => ⟨printed, both.2, both.1⟩, fun claimable => ⟨claimable.confirms, claimable.admitted⟩⟩

/-- The scan before bar `bound`: the slot is free while no window of a claimable signal has
closed, and once taken it holds the earliest-printing one, on the bar its window closed. -/
structure Scan.Settled (scan : Scan) (candles : List Candle) (cfg : DetectorConfig)
    (crit : SignalCriteria) (acceptsPattern : Int → Int → Bool) (bound : Nat) : Prop where
  free : scan.firstConfirmedBar = none → ∀ p print, p + cfg.confirmBars < bound →
    ¬Claimable candles cfg crit acceptsPattern p print
  taken : ∀ p, scan.firstConfirmedBar = some p → p + cfg.confirmBars < bound ∧
    (∃ print, Claimable candles cfg crit acceptsPattern p print) ∧
    (∀ q print, q < p → ¬Claimable candles cfg crit acceptsPattern q print) ∧
    scan.confirmedOn = some (p + cfg.confirmBars)

theorem Scan.Settled.next {scan : Scan} {bar : Nat}
    (inRange : bar < candles.length) (tracked : scan.tracked = trackedBefore candles cfg bar)
    (settled : scan.Settled candles cfg crit acceptsPattern bar) :
    (firstConfirmedAtBar candles cfg crit acceptsPattern scan bar).Settled candles cfg crit
      acceptsPattern (bar + 1) := by
  rw [firstConfirmedAtBar_eq, tracked]
  cases slot : scan.firstConfirmedBar with
  | some winner =>
    obtain ⟨closed, claimable, first, on⟩ := settled.taken winner slot
    refine ⟨fun free => by simp at free, fun p taken => ?_⟩
    simp only [reduceCtorEq, if_false, Option.map_none, Option.none_or, Option.some.injEq] at taken
    subst taken
    exact ⟨by omega, claimable, first, by simpa using on⟩
  | none =>
    cases fresh : (trackedBefore candles cfg bar).find?
        (turnsClaimable candles cfg crit acceptsPattern bar) with
    | none =>
      refine ⟨fun _ p print closed claimable => ?_, fun p taken => by simp at taken⟩
      rcases Nat.lt_or_ge (p + cfg.confirmBars) bar with before | now
      · exact settled.free slot p print before claimable
      · have opens := claimable.confirms.opens
        have past : p < bar := by omega
        have member := mem_trackedBefore.mpr ⟨p, print, past, claimable.printed, rfl⟩
        exact List.find?_eq_none.mp fresh _ member
          ((turnsClaimable_iff claimable.printed past inRange).mpr ⟨by omega, claimable⟩)
    | some t =>
      obtain ⟨p, print, past, printed, rfl⟩ := mem_trackedBefore.mp (List.mem_of_find?_eq_some fresh)
      obtain ⟨now, claimable⟩ :=
        (turnsClaimable_iff printed past inRange).mp (List.find?_some fresh)
      have onBar : print.signalBar = p := printAt_signalBar printed
      refine ⟨fun free => by simp at free, fun p' taken => ?_⟩
      simp only [if_true, Option.map_some, Option.some_or, Option.some.injEq,
        Tracked.lived_signalBar, onBar] at taken
      subst taken
      refine ⟨by omega, ⟨print, claimable⟩, fun q other before => ?_, by simp [now]⟩
      exact settled.free slot q other (by omega)

theorem scanBefore_settled {bound : Nat}
    (inRange : bound ≤ candles.length) :
    (scanBefore candles cfg crit acceptsPattern bound).Settled candles cfg crit acceptsPattern bound := by
  induction bound with
  | zero => exact ⟨fun _ _ _ below => by omega, fun p taken => by cases taken⟩
  | succ bound ih =>
    rw [scanBefore, countedRun_succ]
    exact (ih (by omega)).next (by omega) (scanBefore_tracked ..)

/-- The signal that a scan latched, as it stands at a bar. -/
def Scan.signalAt (scan : Scan) (candles : List Candle) (cfg : DetectorConfig) (asOf : Nat) : Option LatchedSignal :=
  match scan.firstConfirmedBar with
  | none => none
  | some winnerBar =>
    match scan.tracked.find? fun t => t.signalBar == winnerBar with
    | none => none
    | some t => t.confirmedSignal candles cfg (decide (scan.confirmedOn = some asOf))

/-- The scan returns the earliest-printing claimable signal whose window has closed, in the
state it has reached by the as-of bar, and fires on the bar its window closed. -/
theorem firstConfirmedSignalMatchingAt_earliest {asOf : Nat}
    (inRange : asOf < candles.length) :
    (firstConfirmedSignalMatchingAt candles asOf cfg crit acceptsPattern = none ∧
      ∀ p print, p + cfg.confirmBars ≤ asOf → ¬Claimable candles cfg crit acceptsPattern p print) ∨
    ∃ p print, p + cfg.confirmBars ≤ asOf ∧ Claimable candles cfg crit acceptsPattern p print ∧
      (∀ q other, q < p → ¬Claimable candles cfg crit acceptsPattern q other) ∧
      firstConfirmedSignalMatchingAt candles asOf cfg crit acceptsPattern =
        (print.lived candles cfg (asOf - p)).confirmedSignal candles cfg
          (decide (asOf = p + cfg.confirmBars)) := by
  have settled : (scanBefore candles cfg crit acceptsPattern (asOf + 1)).Settled candles cfg crit
    acceptsPattern (asOf + 1) := scanBefore_settled inRange
  have within : ¬candles.length ≤ asOf := by omega
  have result : firstConfirmedSignalMatchingAt candles asOf cfg crit acceptsPattern =
      (scanBefore candles cfg crit acceptsPattern (asOf + 1)).signalAt candles cfg asOf := by
    rw [firstConfirmedSignalMatchingAt, if_neg within]
    rfl
  rw [result, Scan.signalAt, scanBefore_tracked]
  cases slot : (scanBefore candles cfg crit acceptsPattern (asOf + 1)).firstConfirmedBar with
  | none => exact .inl ⟨rfl, fun p print closed => settled.free slot p print (by omega)⟩
  | some p =>
    obtain ⟨closed, ⟨print, claimable⟩, first, on⟩ := settled.taken p slot
    refine .inr ⟨p, print, by omega, claimable, first, ?_⟩
    have elapsed : asOf + 1 - 1 - p = asOf - p := by omega
    have found := find_trackedBefore (by omega : p < asOf + 1) claimable.printed
    dsimp only
    rw [found, on, elapsed]
    simp only [Option.some.injEq, eq_comm]

/-- A returned signal carries everything its print carried, confirmed; only its lifecycle state
is that of the as-of bar. -/
def LatchedSignal.Reports (signal : LatchedSignal) (candles : List Candle) (cfg : DetectorConfig)
    (print : Tracked) : Prop :=
  ∃ state, ({ print with state } : Tracked).confirmedSignal candles cfg signal.fires = some signal

theorem confirmedSignal_reports (printed : printAt candles cfg p = some print) (elapsed : Nat)
    (fires : Bool) : ∃ signal, (print.lived candles cfg elapsed).confirmedSignal candles cfg fires =
      some signal ∧ signal.Reports candles cfg print ∧ signal.fires = fires := by
  obtain ⟨state, broke, same⟩ := print.lived_data candles cfg elapsed
  have inRange : print.signalBar < candles.length := by
    rw [printAt_signalBar printed]
    exact printAt_inRange printed
  have shape : ∃ signal, (print.lived candles cfg elapsed).confirmedSignal candles cfg fires =
      some signal ∧ signal.fires = fires := by
    unfold Tracked.confirmedSignal
    rw [Tracked.lived_signalBar, List.getElem?_eq_getElem inRange]
    exact ⟨_, rfl, rfl⟩
  obtain ⟨signal, found, onFire⟩ := shape
  refine ⟨signal, found, ⟨state, ?_⟩, onFire⟩
  rw [onFire, ← found, same]
  rfl

end

/-- A signal tracked by the scan turns valid on a bar. -/
def TurnsValid (candles : List Candle) (cfg : DetectorConfig) (crit : SignalCriteria) (p bar : Nat) :
    Prop :=
  let valid bound := ∃ t ∈ (scanBefore candles cfg crit (fun _ _ => true) bound).tracked,
    t.signalBar = p ∧ t.state = .valid
  valid (bar + 1) ∧ ¬valid bar

theorem tracked_valid_iff {candles : List Candle} {cfg : DetectorConfig} (crit : SignalCriteria)
    {p bound : Nat} {print : Tracked} (printed : printAt candles cfg p = some print) :
    (∃ t ∈ (scanBefore candles cfg crit (fun _ _ => true) bound).tracked,
        t.signalBar = p ∧ t.state = .valid) ↔
      p < bound ∧ (print.lived candles cfg (bound - 1 - p)).state = .valid := by
  rw [scanBefore_tracked]
  constructor
  · rintro ⟨t, member, onBar, valid⟩
    obtain ⟨q, other, below, printed', rfl⟩ := mem_trackedBefore.mp member
    rw [Tracked.lived_signalBar, printAt_signalBar printed'] at onBar
    subst onBar
    rw [printed] at printed'
    cases printed'
    exact ⟨below, valid⟩
  · rintro ⟨below, valid⟩
    refine ⟨_, mem_trackedBefore.mpr ⟨p, print, below, printed, rfl⟩, ?_, valid⟩
    rw [Tracked.lived_signalBar, printAt_signalBar printed]

/-- A print turns valid exactly on the last bar of a window that confirms it. -/
theorem turnsValid_iff {candles : List Candle} {cfg : DetectorConfig} (crit : SignalCriteria)
    {p bar : Nat} {print : Tracked}
    (printed : printAt candles cfg p = some print) (inRange : bar < candles.length) :
    TurnsValid candles cfg crit p bar ↔
      bar = p + cfg.confirmBars ∧ print.ConfirmsInWindow candles cfg := by
  have fresh : print.state ≠ .valid := by
    obtain ⟨d, _, rfl⟩ := Option.map_eq_some_iff.mp printed
    exact fun no => SigState.noConfusion no
  unfold TurnsValid
  dsimp only
  rw [tracked_valid_iff crit printed, tracked_valid_iff crit printed]
  rcases Nat.lt_trichotomy bar p with before | rfl | past
  · exact ⟨fun turns => absurd turns.1.1 (by omega), fun window => absurd window.1 (by omega)⟩
  · have elapsed : bar + 1 - 1 - bar = 0 := by omega
    rw [elapsed]
    refine ⟨fun turns => absurd turns.1.2 fresh, fun window => ?_⟩
    have opens := window.2.opens
    omega
  · rw [← lived_turnsValid_iff printed past inRange, Nat.add_sub_cancel]
    constructor
    · rintro ⟨⟨_, valid⟩, before⟩
      exact ⟨valid, fun already => before ⟨past, already⟩⟩
    · rintro ⟨valid, before⟩
      exact ⟨⟨by omega, valid⟩, fun already => before already.2⟩

/-- Confirmation is the window's verdict, reached on its last bar, and the scan for the first
confirmed signal returns the earliest-printing admitted signal so confirmed: the same one from
then on, firing on that bar alone. -/
theorem firstConfirmed_byWindow (candles : List Candle) (cfg : DetectorConfig) (crit : SignalCriteria) :
    (∀ p print, printAt candles cfg p = some print → ∀ bar, bar < candles.length →
      (TurnsValid candles cfg crit p bar ↔
        bar = p + cfg.confirmBars ∧ print.ConfirmsInWindow candles cfg)) ∧
    ∀ asOf, asOf < candles.length →
      (firstConfirmedSignalAt candles asOf cfg crit = none ∧ ∀ p print, p + cfg.confirmBars ≤ asOf →
        ¬Claimable candles cfg crit (fun _ _ => true) p print) ∨
      ∃ p print, p + cfg.confirmBars ≤ asOf ∧ Claimable candles cfg crit (fun _ _ => true) p print ∧
        (∀ q other, q < p → ¬Claimable candles cfg crit (fun _ _ => true) q other) ∧
        ∀ later, asOf ≤ later → later < candles.length →
          ∃ signal, firstConfirmedSignalAt candles later cfg crit = some signal ∧
            signal.Reports candles cfg print ∧ (signal.fires = true ↔ later = p + cfg.confirmBars) := by
  refine ⟨fun p print printed bar inRange => turnsValid_iff crit printed inRange,
    fun asOf inRange => ?_⟩
  rcases firstConfirmedSignalMatchingAt_earliest inRange with none | found
  · exact .inl none
  · obtain ⟨p, print, closed, claimable, first, _⟩ := found
    refine .inr ⟨p, print, closed, claimable, first, fun later after within => ?_⟩
    rcases firstConfirmedSignalMatchingAt_earliest within with ⟨_, free⟩ | found
    · exact absurd claimable (free p print (by omega))
    · obtain ⟨p', print', _, claimable', first', result⟩ := found
      have same : p' = p := by
        rcases Nat.lt_trichotomy p' p with before | same | after
        · exact absurd claimable' (first p' print' before)
        · exact same
        · exact absurd claimable (first' p print after)
      subst same
      have samePrint : print' = print := by
        have printed := claimable'.printed
        rw [claimable.printed] at printed
        exact (Option.some.inj printed).symm
      subst samePrint
      obtain ⟨signal, found, reports, fires⟩ := confirmedSignal_reports claimable.printed (later - p') _
      refine ⟨signal, result.trans found, reports, ?_⟩
      rw [fires, decide_eq_true_eq]

/-- A long pinbar on the second bar, pushed on the third. -/
def pinbarCandles : List Candle :=
  [⟨0, 100, 110, 90, 105⟩, ⟨3600, 95, 100, 80, 98⟩, ⟨7200, 98, 105, 95, 102⟩, ⟨10800, 100, 100, 100, 100⟩]

def pinbarPrint : Tracked :=
  { direction := .long, high := 100, low := 80, range := 20, kind := .pinbar, startTime := 3600,
    bandAnchor := 175 / 2, atr := none, signalBar := 1, state := .pending, golden := false, broke := false }

theorem pinbarPrint_printed : printAt pinbarCandles (.pineDefaults .h1) 1 = some pinbarPrint := by
  decide +kernel

theorem pinbarPrint_confirms : pinbarPrint.ConfirmsInWindow pinbarCandles (.pineDefaults .h1) := by
  decide +kernel

theorem firstConfirmed_byWindow_pinbar :
    TurnsValid pinbarCandles (.pineDefaults .h1) { dir := .long } 1 3 ∧
      ∃ signal, firstConfirmedSignalAt pinbarCandles 3 (.pineDefaults .h1) { dir := .long } = some signal := by
  have window := firstConfirmed_byWindow pinbarCandles (.pineDefaults .h1) { dir := .long }
  refine ⟨(window.1 1 _ pinbarPrint_printed 3 (by decide)).mpr ⟨rfl, pinbarPrint_confirms⟩, ?_⟩
  rcases window.2 3 (by decide) with ⟨_, free⟩ | ⟨p, print, _, _, _, found⟩
  · exact absurd ⟨pinbarPrint_printed, by decide +kernel, pinbarPrint_confirms⟩ (free 1 _ (by decide))
  · obtain ⟨signal, result, _⟩ := found 3 le_rfl (by decide)
    exact ⟨signal, result⟩

end TradeControl
