import TradeControl.BreakevenReplay
import TradeControl.FillPrefixes
import TradeControl.TickGrid

namespace TradeControl

/-! The replay walks the stop of a position twice: to find the widens, and to score the exit against them. -/

/-- The stop that a walk holds as a bar opens, and whether the position ends on the bar. -/
structure HeldStop where
  time : Int
  level : Rat
  exits : Bool
  deriving DecidableEq

/-- A widen that still stands, and the bar that it opened on. -/
structure StandingWiden where
  openedAt : Int
  widenedStop : Rat

def SimOutcome.exitAt : SimOutcome → Option Int
  | .neverFilled | .filledOpen _ _ => none
  | .stoppedOut _ _ exitAt _ | .tookProfit _ _ exitAt _ => some exitAt

section
variable (calendar : ReplayCalendar) (call : FillCall) (widenTriggerPips : Rat) (barSeconds : Int)

def FillCall.endsOn (bar : PathBar) (stop : Rat) : Bool := call.reachesStop bar stop || call.reachesTarget bar

/-- The stops of `widen_episodes_at_resolved`, on the bars that it looks at. -/
def FillCall.scannedStops (entryPrice : Rat) : InForceStop → List SpreadWiden → List PathBar → List HeldStop
  | _, _, [] => []
  | stop, episodes, bar :: later =>
    let exits := call.endsOn bar (stopOnBar (episodes.map (·.span)) bar.time stop.level)
    { time := bar.time, level := stop.level, exits } ::
      if exits then []
      else if episodes.getLast?.any fun widen => widen.span.unrestored bar.time then
        FillCall.scannedStops entryPrice stop episodes later
      else match call.widenPips calendar widenTriggerPips barSeconds stop.level bar with
      | none => FillCall.scannedStops entryPrice (call.armOnOrdinaryBar stop entryPrice bar) episodes later
      | some pips =>
        FillCall.scannedStops entryPrice stop
          (episodes ++ [call.openWiden calendar barSeconds stop.level pips bar later]) later

/-- Without a positive pip size nothing is looked at. -/
def FillCall.scannedFrom (fill : Fill) : List HeldStop :=
  if call.pipSize ≤ 0 then []
  else
    call.scannedStops calendar widenTriggerPips barSeconds fill.entryPrice { level := call.resolved.stopLoss } []
      fill.rest

/-- The stops of the exit loop of `simulate_fill_resolved_zoom`, on the bars that it looks at. -/
def FillCall.scoredStops (spans : List WidenedSpan) (fill : Fill) (barLen : Int) :
    List Candle → Rat → List PathBar → List HeldStop
  | _, _, [] => []
  | past, activeStop, bar :: later =>
    let exits := call.endsOn bar (stopOnBar spans bar.time activeStop)
    let window := past ++ [bar.mid]
    { time := bar.time, level := activeStop, exits } ::
      if exits then []
      else FillCall.scoredStops spans fill barLen window
        (call.armActiveStop spans fill barLen window bar activeStop) later

/-- The close arms break-even, and the stop stays off the fill all the same: the move is noise. -/
def FillCall.refusesArm (fill : Fill) (barLen : Int) (window : List Candle) (bar : PathBar) (level : Rat) : Bool :=
  decide (level ≠ fill.entryPrice) && (call.crossStop bar fill.entryPrice level).isNone &&
    call.breakeven.any fun rule =>
      rule.closeArms call.resolved.direction (rule.armsAt fill.entryPrice call.resolved.takeProfit) bar.mid.c &&
        breakevenIsNoise window fill.entryPrice (atrLengthForBarMinutes (barLen / nanosPerMinute))

/-- Bar by bar until the position ends: no widen opens closer to the price than the stop it widens, and no bar
outside the widens, with another after it, arms a move that is noise. -/
def FillCall.armsUnrefused (fill : Fill) (barLen : Int) :
    List Candle → Rat → Option StandingWiden → List PathBar → Bool
  | _, _, _, [] => true
  | past, level, opened, bar :: later =>
    let window := past ++ [bar.mid]
    match opened.filter fun widen => !call.restores calendar widen.openedAt bar with
    | some widen =>
      call.endsOn bar widen.widenedStop || FillCall.armsUnrefused fill barLen window level (some widen) later
    | none =>
      call.endsOn bar level ||
        match call.widenPips calendar widenTriggerPips barSeconds level bar with
        | some pips =>
          let widened := widenedStop call.resolved.direction level pips call.pipSize
          !call.resolved.direction.tighter widened level &&
            FillCall.armsUnrefused fill barLen window level
              (some { openedAt := bar.time, widenedStop := widened }) later
        | none =>
          (later.isEmpty || !call.refusesArm fill barLen window bar level) &&
            FillCall.armsUnrefused fill barLen window (call.armActiveStop [] fill barLen window bar level) none later

end

section
variable (calendar : ReplayCalendar) (call : FillCall) (fill : Fill)

def FillCall.replayTrigger : Rat := calendar.elevatedThresholdPips (call.key calendar)

def FillCall.episodes : List SpreadWiden :=
  call.episodesFrom calendar (call.replayTrigger calendar) (barSecondsOf call.candles) fill

def FillCall.scanned : List HeldStop :=
  call.scannedFrom calendar (call.replayTrigger calendar) (barSecondsOf call.candles) fill

def FillCall.scored : List HeldStop :=
  call.scoredStops (call.widenedSpans calendar (barSecondsOf call.candles) fill) fill (inferBarLen fill.rest) []
    call.resolved.stopLoss fill.rest

/-- Both walks hold one stop on every bar until the exit, and the widens are those of that stop. -/
structure StopWalksAgree : Prop where
  stops : call.scanned calendar fill = call.scored calendar fill
  originals : ∀ episode ∈ call.episodes calendar fill,
    { time := episode.effectiveFrom, level := episode.originalStop, exits := false } ∈ call.scored calendar fill
  away : ∀ episode ∈ call.episodes calendar fill,
    call.resolved.direction.tighter episode.widenedStop episode.originalStop = false
  beforeExit : ∀ {Memory : Type} (source : SubBars Memory) (memory : Memory) (exitAt : Int),
    (simulateFillResolvedZoom calendar call source memory).1.exitAt = some exitAt →
      ∀ episode ∈ call.episodes calendar fill, episode.effectiveFrom < exitAt
  untilExit : ∀ {Memory : Type} (source : SubBars Memory) (memory : Memory), ∀ bar ∈ fill.rest,
    (∀ exitAt, (simulateFillResolvedZoom calendar call source memory).1.exitAt = some exitAt →
      bar.time ≤ exitAt) → ∃ held ∈ call.scanned calendar fill, held.time = bar.time

end

section
variable {calendar : ReplayCalendar} {call : FillCall} {widenTriggerPips entryPrice : Rat} {barSeconds barLen : Int}
  {bar : PathBar} {bars later : List PathBar} {stop : InForceStop} {episodes : List SpreadWiden}
  {fill : Fill} {spans : List WidenedSpan} {window past : List Candle} {level : Rat}

theorem crossStop_some {newStop : Rat} (crosses : call.crossStop bar entryPrice level = some newStop) :
    newStop = entryPrice ∧ level ≠ entryPrice := by
  unfold FillCall.crossStop at crosses
  split at crosses
  · cases crosses
  split at crosses
  · cases crosses
  obtain ⟨index, _, crosses⟩ := Option.bind_eq_some_iff.mp crosses
  split at crosses
  · cases crosses
  obtain ⟨_, _, tightens⟩ := Option.bind_eq_some_iff.mp crosses
  obtain ⟨same, closer⟩ := tightenToFill_some tightens
  refine ⟨same, fun there => ?_⟩
  rw [there] at closer
  exact not_tighter_self _ _ closer

theorem armActiveStop_covered (covered : breakevenArmable spans bar.time = false) :
    call.armActiveStop spans fill barLen window bar level = level := by
  unfold FillCall.armActiveStop
  rw [covered]
  cases call.breakeven <;> rfl

theorem armActiveStop_ordinary (armable : breakevenArmable spans bar.time = true) :
    call.armActiveStop spans fill barLen window bar level = call.armActiveStop [] fill barLen window bar level := by
  have bare : breakevenArmable [] bar.time = true := rfl
  unfold FillCall.armActiveStop
  rw [armable, bare]

/-- An armed stop is at the fill, and stays there. -/
theorem armOnOrdinaryBar_armed (atFill : stop.armed = true → stop.level = entryPrice)
    (armed : (call.armOnOrdinaryBar stop entryPrice bar).armed = true) :
    (call.armOnOrdinaryBar stop entryPrice bar).level = entryPrice := by
  unfold FillCall.armOnOrdinaryBar at armed ⊢
  cases crosses : call.crossStop bar entryPrice stop.level with
  | some newStop =>
    obtain ⟨rfl, _⟩ := crossStop_some crosses
    rw [crosses] at armed
    cases ruled : call.breakeven with
    | none => rfl
    | some rule =>
      dsimp only
      rw [considerArm_level]
      split <;> rfl
  | none =>
    rw [crosses] at armed
    cases ruled : call.breakeven with
    | none =>
      rw [ruled] at armed
      exact atFill armed
    | some rule =>
      rw [ruled] at armed
      dsimp only at armed ⊢
      rw [considerArm_armed] at armed
      rw [considerArm_level]
      split
      · rfl
      · cases before : stop.armed with
        | true => exact atFill before
        | false => simp_all

/-- On a bar outside the widens the scan moves its stop as the exit loop does, but for a move that is noise. -/
theorem armOnOrdinaryBar_level (atFill : stop.armed = true → stop.level = fill.entryPrice) :
    (call.armOnOrdinaryBar stop fill.entryPrice bar).level =
        call.armActiveStop [] fill barLen window bar stop.level ↔
      call.refusesArm fill barLen window bar stop.level = false := by
  unfold FillCall.armOnOrdinaryBar FillCall.armActiveStop FillCall.refusesArm
  have bare : breakevenArmable [] bar.time = true := rfl
  cases ruled : call.breakeven with
  | none =>
    cases crosses : call.crossStop bar fill.entryPrice stop.level <;> simp [bare]
  | some rule =>
    dsimp only
    rw [bare]
    cases crosses : call.crossStop bar fill.entryPrice stop.level with
    | some newStop =>
      obtain ⟨rfl, _⟩ := crossStop_some crosses
      simp [considerArm_level]
    | none =>
      dsimp only
      rw [considerArm_level]
      cases closes : rule.closeArms call.resolved.direction
          (rule.armsAt fill.entryPrice call.resolved.takeProfit) bar.mid.c with
      | false => simp [closes]
      | true =>
        cases noise : breakevenIsNoise window fill.entryPrice (atrLengthForBarMinutes (barLen / nanosPerMinute)) with
        | false =>
          cases before : stop.armed with
          | true => simp [atFill before]
          | false => simp
        | true =>
          cases before : stop.armed with
          | true => simp [atFill before]
          | false =>
            simp only [Bool.not_false, Bool.and_self, if_true, closes, Option.isNone_none, Option.any_some,
              Bool.and_true, Option.getD_none, decide_eq_false_iff_not, not_not]
            exact eq_comm

/-- What the widens make of a bar: the stop for a level, and whether break-even may arm. -/
structure ShieldsAs (episodes : List SpreadWiden) (bar : Int) (shield : Option Rat) : Prop where
  stop : ∀ level, stopOnBar (episodes.map (·.span)) bar level = shield.getD level
  armable : breakevenArmable (episodes.map (·.span)) bar = shield.isNone

theorem shieldsAs_none {time : Int} (over_ : ∀ episode ∈ episodes, episode.span.unrestored time = false) :
    ShieldsAs episodes time none := by
  have uncovered : ∀ span ∈ episodes.map (·.span), ¬span.covers time = true := by
    intro span member covers
    obtain ⟨episode, listed, rfl⟩ := List.mem_map.mp member
    unfold WidenedSpan.covers at covers
    rw [over_ episode listed, Bool.and_false] at covers
    cases covers
  refine ⟨fun level => ?_, ?_⟩
  · unfold stopOnBar
    rw [List.find?_eq_none.mpr uncovered]
    rfl
  · unfold breakevenArmable
    rw [List.any_eq_false.mpr uncovered]
    rfl

theorem shieldsAs_last {time : Int} {before : List SpreadWiden} {last : SpreadWiden}
    (over_ : ∀ episode ∈ before, episode.span.unrestored time = false) (covers : last.span.covers time = true) :
    ShieldsAs (before ++ [last]) time (some last.widenedStop) := by
  induction before with
  | nil =>
    refine ⟨fun level => ?_, ?_⟩
    · rw [List.nil_append, List.map_cons, List.map_nil, stopOnBar_cons, covers]
      rfl
    · rw [List.nil_append, List.map_cons, List.map_nil, breakevenArmable_cons, covers]
      rfl
  | cons first before ih =>
    obtain ⟨stop, armable⟩ := ih fun episode listed => over_ episode (List.mem_cons_of_mem _ listed)
    have uncovered : first.span.covers time = false := by
      unfold WidenedSpan.covers
      rw [over_ first List.mem_cons_self, Bool.and_false]
    refine ⟨fun level => ?_, ?_⟩
    · rw [List.cons_append, List.map_cons, stopOnBar_cons, uncovered]
      exact stop level
    · rw [List.cons_append, List.map_cons, breakevenArmable_cons, uncovered]
      exact armable

/-- The widens that the scan is still to find open later than the bar. -/
theorem spansAgree_scan (ascending : (bar :: later).Pairwise fun earlier later => earlier.time < later.time)
    (stop : InForceStop) (episodes : List SpreadWiden) :
    SpansAgree bar.time (episodes.map (·.span))
      ((call.episodeScan calendar widenTriggerPips barSeconds entryPrice stop episodes later).map (·.span)) := by
  have kept : ∃ extra, call.episodeScan calendar widenTriggerPips barSeconds entryPrice stop episodes later =
      episodes ++ extra ∧ ∀ widen ∈ extra, ∃ bar ∈ later, widen.effectiveFrom = bar.time :=
    episodeScan_keeps later stop episodes
  obtain ⟨extra, split, opened⟩ := kept
  rw [split]
  refine spansAgree_of_later (List.forall₂_same.mpr fun widen _ => ⟨rfl, rfl, fun _ _ => rfl⟩) ?_
  intro widen member
  obtain ⟨found, listed, time⟩ := opened widen member
  rw [time]
  exact (List.pairwise_cons.mp ascending).1 found listed

/-- Where the scan is, with the level of the widen that stands. -/
structure ScanHolds (calendar : ReplayCalendar) (call : FillCall) (episodes : List SpreadWiden)
    (bars : List PathBar) (opened : Option StandingWiden) : Prop where
  at_ : ScanAt calendar call episodes bars (opened.map (·.openedAt))
  level : ∀ widen ∈ opened, ∃ last, episodes.getLast? = some last ∧ last.widenedStop = widen.widenedStop

section
variable {opened : Option StandingWiden} {widen : StandingWiden}

theorem standing_map (opened : Option StandingWiden) (bar : PathBar) :
    (opened.filter fun widen => !call.restores calendar widen.openedAt bar).map (·.openedAt) =
      call.standing calendar (opened.map (·.openedAt)) bar := by
  unfold FillCall.standing
  cases opened with
  | none => rfl
  | some widen =>
    cases restores : call.restores calendar widen.openedAt bar <;> simp [Option.filter, restores]

/-- A widen that stands on a bar is the last one, and it stands on. -/
theorem ScanHolds.stands (holds : ScanHolds calendar call episodes (bar :: later) opened)
    (ascending : (bar :: later).Pairwise fun earlier later => earlier.time < later.time)
    (standing : (opened.filter fun widen => !call.restores calendar widen.openedAt bar) = some widen) :
    (episodes.getLast?.any fun last => last.span.unrestored bar.time) = true ∧
      ShieldsAs episodes bar.time (some widen.widenedStop) ∧ ScanHolds calendar call episodes later (some widen) := by
  obtain ⟨rfl, unreleased⟩ := Option.filter_eq_some_iff.mp standing
  rw [Bool.not_eq_true'] at unreleased
  have stands := holds.at_.standing ascending
  rw [← standing_map, standing] at stands
  obtain ⟨last, isLast, level⟩ := holds.level widen rfl
  refine ⟨stands.symm, ?_, holds.at_.next unreleased, holds.level⟩
  cases holds.at_ with
  | @widened before found _ split over_ from_ restored =>
    rw [split, List.getLast?_concat] at isLast
    cases isLast
    have covers : last.span.covers bar.time = true := by
      unfold WidenedSpan.covers
      rw [unrestored_iff ascending restored, unreleased, Bool.not_false, Bool.and_true]
      exact decide_eq_true (from_ bar List.mem_cons_self)
    rw [split, ← level]
    exact shieldsAs_last (fun episode listed => over_ episode listed bar List.mem_cons_self) covers

theorem ScanHolds.calm (holds : ScanHolds calendar call episodes (bar :: later) opened)
    (ascending : (bar :: later).Pairwise fun earlier later => earlier.time < later.time)
    (free : (opened.filter fun widen => !call.restores calendar widen.openedAt bar) = none) :
    (episodes.getLast?.any fun last => last.span.unrestored bar.time) = false ∧
      ShieldsAs episodes bar.time none ∧
      (∀ episode ∈ episodes, ∀ found ∈ bar :: later, episode.span.unrestored found.time = false) := by
  have none' : call.standing calendar (opened.map (·.openedAt)) bar = none := by
    rw [← standing_map, free]
    rfl
  have stands := holds.at_.standing ascending
  rw [none'] at stands
  have calmed := holds.at_.calmed ascending none'
  exact ⟨stands.symm, shieldsAs_none fun episode listed => calmed episode listed bar List.mem_cons_self, calmed⟩

/-- A widen that opens stands on its own bar and on those after it. -/
theorem ScanHolds.opens
    (ascending : (bar :: later).Pairwise fun earlier later => earlier.time < later.time)
    (calmed : ∀ episode ∈ episodes, ∀ found ∈ bar :: later, episode.span.unrestored found.time = false)
    (level pips : Rat) :
    ShieldsAs (episodes ++ [call.openWiden calendar barSeconds level pips bar later]) bar.time
        (some (widenedStop call.resolved.direction level pips call.pipSize)) ∧
      ScanHolds calendar call (episodes ++ [call.openWiden calendar barSeconds level pips bar later]) later
        (some
          { openedAt := bar.time, widenedStop := widenedStop call.resolved.direction level pips call.pipSize }) := by
  have covers : (call.openWiden calendar barSeconds level pips bar later).span.covers bar.time = true := by
    unfold WidenedSpan.covers WidenedSpan.unrestored
    rw [Bool.and_eq_true, Option.all_eq_true]
    exact ⟨decide_eq_true le_rfl, fun restoredAt restored =>
      decide_eq_true (restoreBar_later ascending restored)⟩
  refine ⟨shieldsAs_last (fun episode listed => calmed episode listed bar List.mem_cons_self) covers, ?_, ?_⟩
  · exact .widened rfl
      (fun episode listed found member => calmed episode listed found (List.mem_cons_of_mem _ member))
      (fun found member => ((List.pairwise_cons.mp ascending).1 found member).le) rfl
  · intro widen same
    cases same
    exact ⟨_, List.getLast?_concat .., rfl⟩

/-- The widens found later shield the bar as those found so far. -/
theorem ShieldsAs.scan {shield : Option Rat} {found : List SpreadWiden}
    (shields : ShieldsAs episodes bar.time shield)
    (ascending : (bar :: later).Pairwise fun earlier later => earlier.time < later.time)
    (scan : call.episodeScan calendar widenTriggerPips barSeconds entryPrice stop episodes later = found) :
    ShieldsAs found bar.time shield := by
  have same : SpansAgree bar.time (episodes.map (·.span)) (found.map (·.span)) := by
    rw [← scan]
    exact spansAgree_scan ascending stop episodes
  have onBar := same bar.time le_rfl
  exact ⟨fun level => (onBar.1 level).symm.trans (shields.stop level), onBar.2.symm.trans shields.armable⟩

/-- A stop further from the price is not reached where a closer one is not. -/
theorem endsOn_away {widened : Rat} (away : call.resolved.direction.tighter widened level = false)
    (lives : call.endsOn bar level = false) : call.endsOn bar widened = false := by
  unfold FillCall.endsOn FillCall.reachesStop PathBar.bookReaches at lives ⊢
  cases direction : call.resolved.direction with
  | long =>
    simp only [direction, Direction.tighter, Direction.stopApproach, bookFor, Bool.or_eq_false_iff,
      decide_eq_false_iff_not, not_le, not_lt] at away lives ⊢
    exact ⟨decide_eq_false (not_le.mpr (away.trans_lt lives.1)), lives.2⟩
  | short =>
    simp only [direction, Direction.tighter, Direction.stopApproach, bookFor, Bool.or_eq_false_iff,
      decide_eq_false_iff_not, not_le, not_lt] at away lives ⊢
    exact ⟨decide_eq_false (not_le.mpr (lives.1.trans_le away)), lives.2⟩

/-- From a bar on the two walks hold one stop, and no widen is closer to the price than the stop it widens,
exactly if no move is refused as noise. -/
theorem scannedStops_iff {found : List SpreadWiden} (holds : ScanHolds calendar call episodes bars opened)
    (ascending : bars.Pairwise fun earlier later => earlier.time < later.time)
    (atFill : stop.armed = true → stop.level = fill.entryPrice)
    (away : ∀ episode ∈ episodes,
      call.resolved.direction.tighter episode.widenedStop episode.originalStop = false)
    (scan : call.episodeScan calendar widenTriggerPips barSeconds fill.entryPrice stop episodes bars = found) :
    (call.scannedStops calendar widenTriggerPips barSeconds fill.entryPrice stop episodes bars =
        call.scoredStops (found.map (·.span)) fill barLen past stop.level bars ∧
      ∀ episode ∈ found, call.resolved.direction.tighter episode.widenedStop episode.originalStop = false) ↔
      call.armsUnrefused calendar widenTriggerPips barSeconds fill barLen past stop.level opened bars = true := by
  induction bars generalizing stop episodes opened past with
  | nil =>
    rw [FillCall.episodeScan] at scan
    subst scan
    exact iff_of_true ⟨rfl, away⟩ rfl
  | cons bar later ih =>
    have onward := (List.pairwise_cons.mp ascending).2
    rw [FillCall.scannedStops, FillCall.scoredStops, FillCall.armsUnrefused]
    rw [FillCall.episodeScan] at scan
    change (if call.endsOn bar _ = true then _ else _) = found at scan
    dsimp only
    cases standing : opened.filter fun widen => !call.restores calendar widen.openedAt bar with
    | some widen =>
      obtain ⟨unrestored, shields, next⟩ := holds.stands ascending standing
      rw [shields.stop, Option.getD_some] at scan ⊢
      rw [unrestored] at scan ⊢
      dsimp only
      cases ends : call.endsOn bar widen.widenedStop with
      | true =>
        rw [ends, if_pos rfl] at scan
        subst scan
        rw [shields.stop, Option.getD_some, ends]
        exact iff_of_true ⟨rfl, away⟩ rfl
      | false =>
        rw [ends, if_neg Bool.false_ne_true, if_pos rfl] at scan
        have later' := shields.scan ascending scan
        rw [later'.stop, Option.getD_some, ends, armActiveStop_covered later'.armable]
        simp only [Bool.false_eq_true, if_false, if_true, List.cons.injEq, true_and, Bool.false_or]
        exact ih next onward atFill away scan
    | none =>
      obtain ⟨restored, shields, calmed⟩ := holds.calm ascending standing
      rw [shields.stop, Option.getD_none] at scan ⊢
      rw [restored] at scan ⊢
      dsimp only
      cases ends : call.endsOn bar stop.level with
      | true =>
        rw [ends, if_pos rfl] at scan
        subst scan
        rw [shields.stop, Option.getD_none, ends]
        exact iff_of_true ⟨rfl, away⟩ rfl
      | false =>
        rw [ends, if_neg Bool.false_ne_true, if_neg Bool.false_ne_true] at scan
        cases widens : call.widenPips calendar widenTriggerPips barSeconds stop.level bar with
        | some pips =>
          rw [widens] at scan
          dsimp only at scan ⊢
          obtain ⟨opens, next⟩ := ScanHolds.opens ascending calmed stop.level pips
          have later' := opens.scan ascending scan
          cases closer : call.resolved.direction.tighter
              (widenedStop call.resolved.direction stop.level pips call.pipSize) stop.level with
          | true =>
            refine iff_of_false (fun both => ?_) (by simp)
            have kept : call.openWiden calendar barSeconds stop.level pips bar later ∈ found := by
              rw [← scan]
              exact episodeScan_kept (List.mem_append_right _ List.mem_cons_self)
            exact absurd closer (Bool.eq_false_iff.mp (both.2 _ kept))
          | false =>
            have away' : ∀ episode ∈ episodes ++ [call.openWiden calendar barSeconds stop.level pips bar later],
                call.resolved.direction.tighter episode.widenedStop episode.originalStop = false := by
              intro episode listed
              rcases List.mem_append.mp listed with known | opened
              · exact away episode known
              · rw [List.mem_singleton.mp opened]
                exact closer
            rw [later'.stop, Option.getD_some, endsOn_away closer ends, armActiveStop_covered later'.armable]
            simp only [Bool.false_eq_true, if_false, List.cons.injEq, true_and, Bool.false_or, Bool.not_false,
              Bool.true_and]
            exact ih next onward atFill away' scan
        | none =>
          rw [widens] at scan
          dsimp only at scan ⊢
          have next : ScanHolds calendar call episodes later none :=
            ⟨.calm fun episode listed found member => calmed episode listed found (List.mem_cons_of_mem _ member),
              fun _ opened => by cases opened⟩
          have later' := shields.scan ascending scan
          have moved : (call.armOnOrdinaryBar stop fill.entryPrice bar).level =
                call.armActiveStop [] fill barLen (past ++ [bar.mid]) bar stop.level ↔
              call.refusesArm fill barLen (past ++ [bar.mid]) bar stop.level = false :=
            armOnOrdinaryBar_level atFill
          rw [later'.stop, Option.getD_none, ends, armActiveStop_ordinary later'.armable]
          simp only [Bool.false_eq_true, if_false, List.cons.injEq, true_and, Bool.false_or]
          cases refused : call.refusesArm fill barLen (past ++ [bar.mid]) bar stop.level with
          | false =>
            rw [← moved.mpr refused]
            simp only [Bool.not_false, Bool.or_true, Bool.true_and]
            exact ih next onward (armOnOrdinaryBar_armed atFill) away scan
          | true =>
            cases later with
            | nil =>
              rw [FillCall.episodeScan] at scan
              subst scan
              exact iff_of_true ⟨rfl, away⟩ rfl
            | cons second rest =>
              refine iff_of_false (fun both => ?_) (by simp)
              have heads := both.1
              rw [FillCall.scannedStops, FillCall.scoredStops] at heads
              have same := congrArg HeldStop.level (List.cons.inj heads).1
              rw [moved.mp same] at refused
              cases refused

end

/-- A widen opens on a bar that the position lives through, from the stop that the scan holds as the bar opens. -/
theorem scannedStops_original {episode : SpreadWiden}
    (member : episode ∈ call.episodeScan calendar widenTriggerPips barSeconds entryPrice stop episodes bars) :
    episode ∈ episodes ∨ { time := episode.effectiveFrom, level := episode.originalStop, exits := false } ∈
      call.scannedStops calendar widenTriggerPips barSeconds entryPrice stop episodes bars := by
  induction bars generalizing stop episodes with
  | nil => exact .inl member
  | cons bar later ih =>
    rw [FillCall.episodeScan] at member
    change episode ∈ (if call.endsOn bar _ = true then _ else _) at member
    rw [FillCall.scannedStops]
    cases ends : call.endsOn bar (stopOnBar (episodes.map (·.span)) bar.time stop.level) with
    | true =>
      rw [ends] at member
      exact .inl member
    | false =>
      rw [ends, if_neg Bool.false_ne_true] at member
      rw [if_neg Bool.false_ne_true]
      split at member
      next unrestored =>
        rw [if_pos unrestored]
        exact (ih member).imp_right (List.mem_cons_of_mem _)
      next restored =>
        rw [if_neg restored]
        cases widens : call.widenPips calendar widenTriggerPips barSeconds stop.level bar with
        | none =>
          rw [widens] at member
          exact (ih member).imp_right (List.mem_cons_of_mem _)
        | some pips =>
          rw [widens] at member
          rcases ih member with known | held
          · rcases List.mem_append.mp known with known | opened
            · exact .inl known
            · rw [List.mem_singleton.mp opened]
              exact .inr List.mem_cons_self
          · exact .inr (List.mem_cons_of_mem _ held)

section
variable {Memory : Type} {source : SubBars Memory} {memory : Memory}

theorem exitLoop_step : call.exitLoop source spans fill barLen past level (bar :: later) memory =
    if call.endsOn bar (stopOnBar spans bar.time level) then
      call.exitLoop source spans fill barLen past level [bar] memory
    else call.exitLoop source spans fill barLen (past ++ [bar.mid])
      (call.armActiveStop spans fill barLen (past ++ [bar.mid]) bar level) later memory := by
  unfold FillCall.endsOn
  rw [FillCall.exitLoop, FillCall.exitLoop]
  dsimp only
  cases call.reachesStop bar (stopOnBar spans bar.time level) <;> cases call.reachesTarget bar <;> rfl

theorem exitLoop_ends (ends : call.endsOn bar (stopOnBar spans bar.time level) = true) :
    (call.exitLoop source spans fill barLen past level [bar] memory).1.exitAt = some bar.time := by
  unfold FillCall.endsOn at ends
  rw [FillCall.exitLoop]
  dsimp only
  cases stopped : call.reachesStop bar (stopOnBar spans bar.time level) <;>
    cases reached : call.reachesTarget bar
  · rw [stopped, reached] at ends
    cases ends
  · rfl
  · rfl
  · unfold FillCall.zoomAmbiguousBar
    dsimp only
    split
    · rfl
    · dsimp only
      split <;> rfl

/-- The exit loop ends the position on the last bar that it looks at, where one ends it. -/
theorem scoredStops_exit (ascending : bars.Pairwise fun earlier later => earlier.time < later.time) {exitAt : Int}
    (exits : (call.exitLoop source spans fill barLen past level bars memory).1.exitAt = some exitAt) :
    (∃ bar ∈ bars, bar.time = exitAt) ∧ ∀ held ∈ call.scoredStops spans fill barLen past level bars,
      held.exits = false → held.time < exitAt := by
  induction bars generalizing past level with
  | nil => cases exits
  | cons bar later ih =>
    have onward := List.pairwise_cons.mp ascending
    rw [exitLoop_step] at exits
    rw [FillCall.scoredStops]
    cases ends : call.endsOn bar (stopOnBar spans bar.time level) with
    | true =>
      rw [ends, if_pos rfl, exitLoop_ends ends] at exits
      cases exits
      refine ⟨⟨bar, List.mem_cons_self, rfl⟩, fun held listed lives => ?_⟩
      rw [if_pos rfl] at listed
      rw [List.mem_singleton.mp listed] at lives
      cases lives
    | false =>
      rw [ends, if_neg Bool.false_ne_true] at exits
      obtain ⟨⟨last, listed, rfl⟩, before⟩ := ih onward.2 exits
      refine ⟨⟨last, List.mem_cons_of_mem _ listed, rfl⟩, fun held member lives => ?_⟩
      rw [if_neg Bool.false_ne_true] at member
      rcases List.mem_cons.mp member with rfl | member
      · exact onward.1 last listed
      · exact before held member lives

/-- The exit loop looks at every bar up to the one that ends the position. -/
theorem scoredStops_until (ascending : bars.Pairwise fun earlier later => earlier.time < later.time)
    (member : bar ∈ bars)
    (inTime : ∀ exitAt, (call.exitLoop source spans fill barLen past level bars memory).1.exitAt = some exitAt →
      bar.time ≤ exitAt) :
    ∃ held ∈ call.scoredStops spans fill barLen past level bars, held.time = bar.time := by
  induction bars generalizing past level with
  | nil => cases member
  | cons first later ih =>
    have onward := List.pairwise_cons.mp ascending
    rw [FillCall.scoredStops]
    rcases List.mem_cons.mp member with rfl | listed
    · exact ⟨_, List.mem_cons_self, rfl⟩
    · cases ends : call.endsOn first (stopOnBar spans first.time level) with
      | true =>
        have after := onward.1 bar listed
        have reached := inTime first.time (by rw [exitLoop_step, if_pos ends, exitLoop_ends ends])
        omega
      | false =>
        have inTime' := inTime
        rw [exitLoop_step, ends, if_neg Bool.false_ne_true] at inTime'
        obtain ⟨held, looked, time⟩ := ih onward.2 listed inTime'
        exact ⟨held, List.mem_cons_of_mem _ looked, time⟩

end

/-- The two walks of a filled position agree exactly if the scan walks at all and no move that the exit loop
refuses as noise comes into it. -/
theorem stopWalksAgree_iff (found : findFill calendar call = some fill)
    (ascending : call.candles.Pairwise fun earlier later => earlier.time < later.time) :
    StopWalksAgree calendar call fill ↔
      (fill.rest = [] ∨ 0 < call.pipSize) ∧
        call.armsUnrefused calendar (call.replayTrigger calendar) (barSecondsOf call.candles) fill
          (inferBarLen fill.rest) [] call.resolved.stopLoss none fill.rest = true := by
  have ascending' : fill.rest.Pairwise fun earlier later => earlier.time < later.time :=
    ascending.sublist (fillWith_suffix found).sublist
  have outcome : ∀ {Memory : Type} (source : SubBars Memory) (memory : Memory),
      simulateFillResolvedZoom calendar call source memory =
        call.exitLoop source (call.widenedSpans calendar (barSecondsOf call.candles) fill) fill
          (inferBarLen fill.rest) [] call.resolved.stopLoss fill.rest memory := by
    intro Memory source memory
    unfold simulateFillResolvedZoom
    rewrite [found]
    rfl
  by_cases positive : 0 < call.pipSize
  · have walked : call.scanned calendar fill =
        call.scannedStops calendar (call.replayTrigger calendar) (barSecondsOf call.candles) fill.entryPrice
          { level := call.resolved.stopLoss } [] fill.rest := if_neg (not_le.mpr positive)
    have scan : call.episodeScan calendar (call.replayTrigger calendar) (barSecondsOf call.candles) fill.entryPrice
        { level := call.resolved.stopLoss } [] fill.rest = call.episodes calendar fill :=
      (if_neg (not_le.mpr positive)).symm
    have holds : ScanHolds calendar call [] fill.rest none := ⟨.calm nofun, nofun⟩
    have steps : (call.scanned calendar fill = call.scored calendar fill ∧ ∀ episode ∈ call.episodes calendar fill,
        call.resolved.direction.tighter episode.widenedStop episode.originalStop = false) ↔
          call.armsUnrefused calendar (call.replayTrigger calendar) (barSecondsOf call.candles) fill
            (inferBarLen fill.rest) [] call.resolved.stopLoss none fill.rest = true := by
      rw [walked]
      exact scannedStops_iff holds ascending' nofun nofun scan
    constructor
    · intro agree
      exact ⟨.inr positive, steps.mp ⟨agree.stops, agree.away⟩⟩
    · rintro ⟨_, unrefused⟩
      obtain ⟨stops, away⟩ := steps.mpr unrefused
      have originals : ∀ episode ∈ call.episodes calendar fill,
          { time := episode.effectiveFrom, level := episode.originalStop, exits := false } ∈
            call.scored calendar fill := by
        intro episode member
        rw [← scan] at member
        rw [← stops, walked]
        exact (scannedStops_original member).resolve_left nofun
      refine ⟨stops, originals, away, ?_, ?_⟩
      · intro Memory source memory exitAt exits episode member
        rw [outcome] at exits
        exact (scoredStops_exit ascending' exits).2 _ (originals episode member) rfl
      · intro Memory source memory bar member inTime
        rw [outcome] at inTime
        rw [stops]
        exact scoredStops_until ascending' member inTime
  · have unwalked : call.scanned calendar fill = [] := if_pos (not_lt.mp positive)
    have unwidened : call.episodes calendar fill = [] := if_pos (not_lt.mp positive)
    cases path : fill.rest with
    | nil =>
      have unscored : call.scored calendar fill = [] := by
        unfold FillCall.scored
        rw [path]
        rfl
      refine iff_of_true ⟨unwalked.trans unscored.symm, ?_, ?_, ?_, ?_⟩ ⟨.inl rfl, rfl⟩
      · rw [unwidened]
        nofun
      · rw [unwidened]
        nofun
      · rw [unwidened]
        nofun
      · rw [path]
        nofun
    | cons bar later =>
      refine iff_of_false (fun agree => ?_) (fun both => ?_)
      · have same := unwalked.symm.trans agree.stops
        unfold FillCall.scored at same
        rw [path, FillCall.scoredStops] at same
        cases same
      · rcases both.1 with empty | positive'
        · cases empty
        · exact positive positive'

end

/-- A bar that stays at 160, so many seconds in. -/
def aloftBar (opened : Int) (spread : Rat) : PathBar where
  mid := { time := seconds opened, o := 160, h := 160, l := 160, c := 160 }
  bidC := 160 - spread / 2
  askC := 160 + spread / 2
  bidL := 160 - spread / 2
  bidH := 160 - spread / 2
  askL := 160 + spread / 2
  askH := 160 + spread / 2

/-- A long that break-even arms on its first bar, before the spread hours. -/
def aloftLong : FillCall :=
  { lateLong 3 with
    breakeven := some {}
    signedBreakeven := some {}
    shellTime := seconds (18 * 3600)
    candles := [aloftBar (18 * 3600) 3, aloftBar (19 * 3600) 3, aloftBar (21 * 3600) 6, aloftBar (22 * 3600) 6,
      aloftBar (23 * 3600) 3] }

theorem stopWalksAgree_aloft :
    StopWalksAgree lateCalendar aloftLong (lateFill aloftLong) ∧
      (aloftLong.episodes lateCalendar (lateFill aloftLong)).map (·.originalStop) = [100] :=
  ⟨(stopWalksAgree_iff rfl (by decide +kernel)).mpr ⟨.inr (by decide +kernel), by decide +kernel⟩,
    by decide +kernel⟩

/-- No spread hours are known, and the close edge is twenty-five hours in. -/
def edgeCalendar : ReplayCalendar where
  rows _ := none
  lookupKey := id
  isNyCloseEdge now := now == seconds (25 * 3600)
  elevatedThresholdPips _ := 8

/-- A bar that swings down to a low and closes, so many hours in. -/
def swingBar (close low spread : Rat) (hour : Nat) : PathBar where
  mid := { time := seconds (hour * 3600), o := 100, h := 103, l := low, c := close }
  bidC := close - spread / 2
  askC := close + spread / 2
  bidL := low - 1 / 2
  bidH := 102
  askL := low + 1 / 2
  askH := 104

/-- A long that swings by thirty points, with its target four points away. -/
def swingingLong : FillCall :=
  { lateLong 3 with
    resolved := { (lateLong 3).resolved with takeProfit := 104 }
    breakeven := some {}
    signedBreakeven := some {}
    shellTime := 0
    candles := (List.range 23).map (swingBar 100 73 1) ++ [swingBar 102 73 1 23, swingBar 100 73 1 24,
      swingBar 100 48 10 25] }

/-- The close of the twenty-fourth bar is two points past the fill: the scan moves its stop there, and ends on the
next bar; the exit loop refuses the move as noise, and is stopped out on the bar after, whose widen the scan never
gets to. -/
theorem swingingLong_apart :
    findFill edgeCalendar swingingLong = some (lateFill swingingLong) ∧
      ((swingingLong.scanned edgeCalendar (lateFill swingingLong)).drop 24).map (·.level) = [100] ∧
      ((swingingLong.scored edgeCalendar (lateFill swingingLong)).drop 24).map (·.level) = [50, 50] ∧
      swingingLong.episodes edgeCalendar (lateFill swingingLong) = [] ∧
      (swingingLong.widenPips edgeCalendar 8 3600 50 (swingBar 100 48 10 25)).isSome = true ∧
      (simulateFillResolvedZoom edgeCalendar swingingLong (servedBy fun _ _ => []) ()).1 =
        .stoppedOut 0 100 (seconds (25 * 3600)) 50 ∧
      ¬StopWalksAgree edgeCalendar swingingLong (lateFill swingingLong) := by
  have scans : ((swingingLong.scanned edgeCalendar (lateFill swingingLong)).drop 24).map (·.level) = [100] := by
    decide +kernel
  have scores : ((swingingLong.scored edgeCalendar (lateFill swingingLong)).drop 24).map (·.level) = [50, 50] := by
    decide +kernel
  have none_ : (swingingLong.episodes edgeCalendar (lateFill swingingLong)).length = 0 := by decide +kernel
  refine ⟨rfl, scans, scores, List.length_eq_zero_iff.mp none_, by decide +kernel, by decide +kernel, ?_⟩
  intro agree
  rw [agree.stops, scores] at scans
  cases scans

end TradeControl
