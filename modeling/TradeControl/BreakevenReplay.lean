import TradeControl.BreakevenLatch
import TradeControl.EpisodeEnds

namespace TradeControl

/-- The stop after a decision, the noise floor aside. -/
def BreakevenDecision.moved (decision : BreakevenDecision) (level : Rat) : Rat :=
  match decision with
  | .amend newStop _ _ | .blocked (.insideNoise newStop _ _ _) => newStop
  | .hold | .blocked .noFillTime => level

/-- The live watcher's view: the bars that have closed and the stop at the broker. -/
structure LiveStop where
  seen : List Candle := []
  level : Rat

/-- The watcher decides again when a bar has closed. -/
def LiveStop.closed (spreads : SpreadCalendar) (inputs : BreakevenInputs) (live : LiveStop) (bar : Candle) :
    LiveStop :=
  let seen := live.seen ++ [bar]
  let now := bar.time + seconds inputs.snapshot.granularity.seconds
  { seen
    level := (decideForAccount spreads { inputs with currentStop := live.level } seen now).moved live.level }

/-- The stop that live reaches over a history. -/
def BreakevenInputs.liveStop (spreads : SpreadCalendar) (inputs : BreakevenInputs) (bars : List Candle) :
    LiveStop :=
  bars.foldl (LiveStop.closed spreads inputs) { level := inputs.currentStop }

/-- The stop that the replay reaches over a history, under the gate of its widens. -/
def BreakevenInputs.replayStop (inputs : BreakevenInputs) (spans : List WidenedSpan) (bars : List Candle) :
    InForceStop :=
  let rule := inputs.snapshot.rule
  let armsAt := rule.armsAt inputs.targetEntry inputs.snapshot.takeProfit
  bars.foldl (fun stop bar => stop.considerArm (breakevenArmable spans bar.time) rule inputs.direction armsAt
    bar.c inputs.targetEntry) { level := inputs.currentStop }

/-- A bar closed past the level that break-even arms at. -/
def BreakevenInputs.arms (inputs : BreakevenInputs) (bar : Candle) : Bool :=
  inputs.snapshot.rule.closeArms inputs.direction
    (inputs.snapshot.rule.armsAt inputs.targetEntry inputs.snapshot.takeProfit) bar.c

/-- Live refuses the bars that the replay refuses, and both hold the same stop after every bar. -/
structure ArmsAlike (spreads : SpreadCalendar) (inputs : BreakevenInputs) (spans : List WidenedSpan)
    (bars : List Candle) : Prop where
  refused : ∀ bar ∈ bars, spreads.isSpreadHour (spreads.lookupKey inputs.instrument) bar.time = true ↔
    breakevenArmable spans bar.time = false
  level : ∀ seen, seen <+: bars →
    (inputs.liveStop spreads seen).level = (inputs.replayStop spans seen).level

section
variable {spreads : SpreadCalendar} {inputs : BreakevenInputs} {fillAt : Int} {bars : List Candle}

theorem moved_eq (filled : inputs.fill.openedAt = some fillAt) (candles : List Candle) (now : Int) (level : Rat) :
    (decideForAccount spreads inputs candles now).moved level =
      if (decideForAccount spreads inputs candles now).isArmed then inputs.targetEntry else level := by
  rcases decideForAccount_filled filled candles now with ⟨_, held⟩ | ⟨_, best, _, decided⟩
  · rw [held]
    rfl
  · rw [decided]
    unfold BreakevenInputs.verdict
    split
    next block violates =>
      obtain ⟨_, _, _, rfl⟩ := noiseViolation_inside violates
      rfl
    · rfl

theorem liveStop_snoc (spreads : SpreadCalendar) (inputs : BreakevenInputs) (earlier : List Candle) (bar : Candle) :
    inputs.liveStop spreads (earlier ++ [bar]) = (inputs.liveStop spreads earlier).closed spreads inputs bar := by
  unfold BreakevenInputs.liveStop
  rw [List.foldl_append, List.foldl_cons, List.foldl_nil]

theorem liveStop_seen (spreads : SpreadCalendar) (inputs : BreakevenInputs) (bars : List Candle) :
    (inputs.liveStop spreads bars).seen = bars := by
  induction bars using List.reverseRecOn with
  | nil => rfl
  | append_singleton earlier bar ih =>
    rw [liveStop_snoc, LiveStop.closed]
    dsimp only
    rw [ih]

/-- A bar that live arms break-even on. -/
def BreakevenInputs.liveArms (spreads : SpreadCalendar) (inputs : BreakevenInputs) (bar : Candle) : Bool :=
  !spreads.isSpreadHour (spreads.lookupKey inputs.instrument) bar.time && inputs.arms bar

/-- Over bars that have all closed since the fill, some bar arms or the stop is there. -/
theorem armed_iff_any {now : Int} {candles : List Candle} (level : Rat)
    (closed : ∀ bar ∈ candles, fillAt < bar.time + seconds inputs.snapshot.granularity.seconds ∧
      bar.time + seconds inputs.snapshot.granularity.seconds ≤ now) :
    ({ inputs with currentStop := level } : BreakevenInputs).Armed spreads fillAt candles now ↔
      candles.any (inputs.liveArms spreads) = true ∧ inputs.direction.tighter inputs.targetEntry level = true := by
  rw [List.any_eq_true]
  constructor
  · rintro ⟨trigger, ⟨candle, member, _, _, calm, reached⟩, short⟩
    refine ⟨⟨candle, member, ?_⟩, short⟩
    unfold BreakevenInputs.liveArms
    have calm' : spreads.isSpreadHour (spreads.lookupKey inputs.instrument) candle.time = false := calm
    rw [calm']
    exact closeArms_iff.mpr ⟨trigger, reached⟩
  · rintro ⟨⟨candle, member, arms⟩, short⟩
    unfold BreakevenInputs.liveArms at arms
    rw [Bool.and_eq_true, Bool.not_eq_true'] at arms
    obtain ⟨trigger, reached⟩ := closeArms_iff.mp arms.2
    obtain ⟨after, before⟩ := closed candle member
    exact ⟨trigger, ⟨candle, member, after, before, arms.1, reached⟩, short⟩

/-- Live's stop is at the entry once some bar outside the spread hours has armed it. -/
theorem liveStop_level (filled : inputs.fill.openedAt = some fillAt)
    (lossSide : inputs.direction.tighter inputs.targetEntry inputs.currentStop = true)
    (ascending : bars.Pairwise fun earlier later => earlier.time < later.time)
    (afterFill : ∀ bar ∈ bars, fillAt < bar.time + seconds inputs.snapshot.granularity.seconds) :
    (inputs.liveStop spreads bars).level =
      if bars.any (inputs.liveArms spreads) then inputs.targetEntry else inputs.currentStop := by
  induction bars using List.reverseRecOn with
  | nil => rfl
  | append_singleton earlier bar ih =>
    rw [List.pairwise_append] at ascending
    have before := ih ascending.1 fun other listed => afterFill other (List.mem_append_left _ listed)
    have closed : ∀ other ∈ earlier ++ [bar],
        fillAt < other.time + seconds inputs.snapshot.granularity.seconds ∧
          other.time + seconds inputs.snapshot.granularity.seconds ≤
            bar.time + seconds inputs.snapshot.granularity.seconds := by
      intro other listed
      refine ⟨afterFill other listed, ?_⟩
      rcases List.mem_append.mp listed with listed | last
      · have := ascending.2.2 other listed bar List.mem_cons_self
        omega
      · rw [List.mem_singleton.mp last]
    rw [liveStop_snoc]
    unfold LiveStop.closed
    dsimp only
    rw [liveStop_seen]
    have filled' : ({ inputs with currentStop := (inputs.liveStop spreads earlier).level } : BreakevenInputs).fill.openedAt =
        some fillAt := filled
    rw [moved_eq filled']
    simp only [isArmed_iff filled', armed_iff_any _ closed]
    rw [before]
    cases armed : earlier.any (inputs.liveArms spreads) with
    | true =>
      rw [if_pos rfl, if_neg fun both => not_tighter_self _ _ both.2]
      simp [armed]
    | false =>
      rw [if_neg Bool.false_ne_true]
      simp only [lossSide, and_true]

theorem considerArm_armed (stop : InForceStop) (gate : Bool) (rule : Breakeven) (direction : Direction)
    (level close entry : Rat) :
    (stop.considerArm gate rule direction level close entry).armed =
      (stop.armed || (gate && rule.closeArms direction level close)) := by
  unfold InForceStop.considerArm
  cases gate <;> cases armed : stop.armed <;> cases closes : rule.closeArms direction level close <;> simp [armed]

theorem considerArm_level (stop : InForceStop) (gate : Bool) (rule : Breakeven) (direction : Direction)
    (level close entry : Rat) :
    (stop.considerArm gate rule direction level close entry).level =
      if !stop.armed && (gate && rule.closeArms direction level close) then entry else stop.level := by
  unfold InForceStop.considerArm
  cases gate <;> cases stop.armed <;> cases rule.closeArms direction level close <;> simp

/-- The replay's stop is at the entry once some bar outside the widens has armed it. -/
theorem replayStop_level (inputs : BreakevenInputs) (spans : List WidenedSpan) (bars : List Candle) :
    (inputs.replayStop spans bars).armed = (bars.any fun bar => breakevenArmable spans bar.time && inputs.arms bar) ∧
      (inputs.replayStop spans bars).level =
        if bars.any fun bar => breakevenArmable spans bar.time && inputs.arms bar then inputs.targetEntry
        else inputs.currentStop := by
  induction bars using List.reverseRecOn with
  | nil => exact ⟨rfl, rfl⟩
  | append_singleton earlier bar ih =>
    unfold BreakevenInputs.replayStop at ih ⊢
    dsimp only at ih ⊢
    rw [List.foldl_append, List.foldl_cons, List.foldl_nil, considerArm_armed, considerArm_level]
    rw [ih.1, ih.2, List.any_append, List.any_cons, List.any_nil, Bool.or_false]
    refine ⟨rfl, ?_⟩
    change (if !_ && (_ && inputs.arms bar) then _ else _) = _
    cases earlier.any fun bar => breakevenArmable spans bar.time && inputs.arms bar <;> simp

/-- Over a history since the fill both hold the same stops where they refuse the same bars. -/
theorem armsAlike_iff {spans : List WidenedSpan} (filled : inputs.fill.openedAt = some fillAt)
    (lossSide : inputs.direction.tighter inputs.targetEntry inputs.currentStop = true)
    (ascending : bars.Pairwise fun earlier later => earlier.time < later.time)
    (afterFill : ∀ bar ∈ bars, fillAt < bar.time + seconds inputs.snapshot.granularity.seconds) :
    ArmsAlike spreads inputs spans bars ↔
      ∀ bar ∈ bars, spreads.isSpreadHour (spreads.lookupKey inputs.instrument) bar.time = true ↔
        breakevenArmable spans bar.time = false := by
  refine ⟨ArmsAlike.refused, fun refused => ⟨refused, fun seen part => ?_⟩⟩
  have same : seen.any (inputs.liveArms spreads) =
      seen.any fun bar => breakevenArmable spans bar.time && inputs.arms bar := by
    have agree : ∀ bar ∈ seen, inputs.liveArms spreads bar = (breakevenArmable spans bar.time && inputs.arms bar) := by
      intro bar listed
      have same := refused bar (part.subset listed)
      unfold BreakevenInputs.liveArms
      cases spread : spreads.isSpreadHour (spreads.lookupKey inputs.instrument) bar.time <;>
        cases armable : breakevenArmable spans bar.time <;> simp_all
    rw [Bool.eq_iff_iff, List.any_eq_true, List.any_eq_true]
    exact exists_congr fun bar => and_congr_right fun listed => by rw [agree bar listed]
  rw [liveStop_level filled lossSide (ascending.sublist part.sublist)
    fun bar listed => afterFill bar (part.subset listed), (replayStop_level inputs spans seen).2, same]

end

section
variable (calendar : ReplayCalendar) (call : FillCall) (widenTriggerPips : Rat) (barSeconds : Int)

/-- A bar that widens a stop: a spread hour or its lead falls in it, or it opens on the close edge with the
spread at the trigger. -/
def FillCall.widensOn (bar : PathBar) : Bool :=
  (calendar.widenInstant (call.key calendar) bar.time barSeconds).isSome ||
    (calendar.isNyCloseEdge bar.time && decide (widenTriggerPips ≤ call.spreadPips bar))

/-- The widen of an earlier bar that still stands on a bar. -/
def FillCall.standing (opened : Option Int) (bar : PathBar) : Option Int :=
  opened.filter fun widenAt => !call.restores calendar widenAt bar

/-- Bar by bar, after the bar an earlier widen was opened on: a bar on which it stands opens in a spread hour, and
another one widens exactly if it does. -/
def FillCall.WidensInSpreadHours : Option Int → List PathBar → Prop
  | _, [] => True
  | opened, bar :: later =>
    match call.standing calendar opened bar with
    | some widenAt =>
      calendar.spreads.isSpreadHour (call.key calendar) bar.time = true ∧
        FillCall.WidensInSpreadHours (some widenAt) later
    | none =>
      (call.widensOn calendar widenTriggerPips barSeconds bar =
          calendar.spreads.isSpreadHour (call.key calendar) bar.time) ∧
        FillCall.WidensInSpreadHours
          (if call.widensOn calendar widenTriggerPips barSeconds bar then some bar.time else none) later

/-- The bars that the position lives through, as the scan walks them. -/
def FillCall.heldBars (entryPrice : Rat) : InForceStop → List SpreadWiden → List PathBar → List PathBar
  | _, _, [] => []
  | stop, episodes, bar :: later =>
    let inForce := stopOnBar (episodes.map (·.span)) bar.time stop.level
    if call.reachesStop bar inForce || call.reachesTarget bar then []
    else if episodes.getLast?.any fun widen => widen.span.unrestored bar.time then
      bar :: FillCall.heldBars entryPrice stop episodes later
    else match call.widenPips calendar widenTriggerPips barSeconds stop.level bar with
    | none => bar :: FillCall.heldBars entryPrice (call.armOnOrdinaryBar stop entryPrice bar) episodes later
    | some pips =>
      bar :: FillCall.heldBars entryPrice stop
        (episodes ++ [call.openWiden calendar barSeconds stop.level pips bar later]) later

/-- The history of a position after its fill. -/
def FillCall.history (fill : Fill) : List PathBar :=
  call.heldBars calendar widenTriggerPips barSeconds fill.entryPrice { level := call.resolved.stopLoss } [] fill.rest

/-- What live knows of the position that the replay fills. -/
def FillCall.liveInputs (rule : Breakeven) (granularity : Granularity) (fill : Fill) (openedAt : Int) :
    BreakevenInputs where
  snapshot := { rule, entryPrice := fill.entryPrice, takeProfit := call.resolved.takeProfit, granularity }
  instrument := call.intent.instrument
  direction := call.resolved.direction
  fill := { entryPrice := some fill.entryPrice, openedAt := some openedAt }
  currentStop := call.resolved.stopLoss

end

section
variable {calendar : ReplayCalendar} {call : FillCall} {widenTriggerPips entryPrice : Rat} {barSeconds : Int}
  {bar : PathBar} {bars later : List PathBar} {stop : InForceStop} {episodes : List SpreadWiden}
  {opened : Option Int}

theorem widenPips_isSome (level : Rat) :
    (call.widenPips calendar widenTriggerPips barSeconds level bar).isSome =
      call.widensOn calendar widenTriggerPips barSeconds bar := by
  unfold FillCall.widenPips FillCall.widensOn
  dsimp only
  cases calendar.widenInstant (call.key calendar) bar.time barSeconds with
  | some answer => simp
  | none =>
    cases calendar.isNyCloseEdge bar.time with
    | false => simp
    | true =>
      by_cases wide : widenTriggerPips ≤ call.spreadPips bar
      · simp [wide]
      · simp [wide]

/-- Where the scan is: every episode is over for the bars ahead, or all but the last, which stands until its
restore among them. -/
inductive ScanAt (calendar : ReplayCalendar) (call : FillCall) (episodes : List SpreadWiden)
    (bars : List PathBar) : Option Int → Prop
  | calm (over_ : ∀ episode ∈ episodes, ∀ bar ∈ bars, episode.span.unrestored bar.time = false) :
      ScanAt calendar call episodes bars none
  | widened {before : List SpreadWiden} {last : SpreadWiden} {widenAt : Int} (split : episodes = before ++ [last])
      (over_ : ∀ episode ∈ before, ∀ bar ∈ bars, episode.span.unrestored bar.time = false)
      (from_ : ∀ bar ∈ bars, last.effectiveFrom ≤ bar.time)
      (restored : last.restoredAt = call.restoreBar calendar widenAt bars) :
      ScanAt calendar call episodes bars (some widenAt)

theorem restoreBar_later {widenAt restoredAt : Int}
    (ascending : (bar :: bars).Pairwise fun earlier later => earlier.time < later.time)
    (restored : call.restoreBar calendar widenAt bars = some restoredAt) : bar.time < restoredAt := by
  obtain ⟨found, listed, rfl⟩ := Option.map_eq_some_iff.mp restored
  exact (List.pairwise_cons.mp ascending).1 found (List.mem_of_find?_eq_some listed)

/-- An episode that lasts until the first restore among a bar and the later ones stands on the bar unless the bar
restores it. -/
theorem unrestored_iff {widenAt : Int} {episode : SpreadWiden}
    (ascending : (bar :: later).Pairwise fun earlier later => earlier.time < later.time)
    (restored : episode.restoredAt = call.restoreBar calendar widenAt (bar :: later)) :
    episode.span.unrestored bar.time = !call.restores calendar widenAt bar := by
  unfold WidenedSpan.unrestored SpreadWiden.span
  dsimp only
  rw [restored]
  unfold FillCall.restoreBar
  cases restores : call.restores calendar widenAt bar with
  | true => simp [restores]
  | false =>
    rw [List.find?_cons_of_neg (by simp [restores])]
    cases found : later.find? (call.restores calendar widenAt) with
    | none => rfl
    | some other =>
      have after := (List.pairwise_cons.mp ascending).1 other (List.mem_of_find?_eq_some found)
      simp [after]

/-- A widen stands on a bar exactly if the last episode has not been restored by it. -/
theorem ScanAt.standing (at_ : ScanAt calendar call episodes (bar :: later) opened)
    (ascending : (bar :: later).Pairwise fun earlier later => earlier.time < later.time) :
    (call.standing calendar opened bar).isSome =
      episodes.getLast?.any fun widen => widen.span.unrestored bar.time := by
  cases at_ with
  | calm over_ =>
    cases last : episodes.getLast? with
    | none => rfl
    | some episode => exact (over_ episode (List.mem_of_getLast? last) bar List.mem_cons_self).symm
  | widened split over_ from_ restored =>
    rw [split, List.getLast?_concat, Option.any_some, unrestored_iff ascending restored]
    unfold FillCall.standing
    cases restores : call.restores calendar _ bar <;> simp [Option.filter, restores]

/-- Where no widen stands on a bar, every episode is over from it on. -/
theorem ScanAt.calmed (at_ : ScanAt calendar call episodes (bar :: later) opened)
    (ascending : (bar :: later).Pairwise fun earlier later => earlier.time < later.time)
    (free : call.standing calendar opened bar = none) :
    ∀ episode ∈ episodes, ∀ found ∈ bar :: later, episode.span.unrestored found.time = false := by
  cases at_ with
  | calm over_ => exact over_
  | @widened before last widenAt split over_ from_ restored =>
    have restores : call.restores calendar widenAt bar = true := by
      unfold FillCall.standing at free
      cases restores : call.restores calendar widenAt bar with
      | true => rfl
      | false => simp [Option.filter, restores] at free
    intro episode listed found member
    rw [split] at listed
    rcases List.mem_append.mp listed with earlier | isLast
    · exact over_ episode earlier found member
    · rw [List.mem_singleton.mp isLast]
      unfold FillCall.restoreBar at restored
      rw [List.find?_cons_of_pos restores] at restored
      have reached : bar.time ≤ found.time := by
        rcases List.mem_cons.mp member with rfl | after
        · exact le_rfl
        · exact ((List.pairwise_cons.mp ascending).1 found after).le
      simp [WidenedSpan.unrestored, SpreadWiden.span, restored, reached]

/-- A widen that stands on a bar stands for the bars after it until one restores it. -/
theorem ScanAt.next {widenAt : Int} (at_ : ScanAt calendar call episodes (bar :: later) (some widenAt))
    (stands : call.restores calendar widenAt bar = false) :
    ScanAt calendar call episodes later (some widenAt) := by
  cases at_ with
  | widened split over_ from_ restored =>
    refine .widened split (fun episode listed found member => over_ episode listed found (List.mem_cons_of_mem _ member))
      (fun found member => from_ found (List.mem_cons_of_mem _ member)) ?_
    unfold FillCall.restoreBar at restored ⊢
    rw [List.find?_cons_of_neg (by simp [stands])] at restored
    exact restored

theorem episodeScan_kept {episode : SpreadWiden} (member : episode ∈ episodes) :
    episode ∈ call.episodeScan calendar widenTriggerPips barSeconds entryPrice stop episodes bars := by
  induction bars generalizing stop episodes with
  | nil => exact member
  | cons bar later ih =>
    rw [FillCall.episodeScan]
    split
    · exact member
    split
    · exact ih member
    split
    · exact ih member
    · exact ih (List.mem_append_left _ member)

/-- The episodes that a scan over later bars adds leave a bar as it was. -/
theorem episodeScan_covers_iff
    (ascending : (bar :: later).Pairwise fun earlier later => earlier.time < later.time) :
    breakevenArmable ((call.episodeScan calendar widenTriggerPips barSeconds entryPrice stop episodes later).map
        (·.span)) bar.time = false ↔
      ∃ episode ∈ episodes, episode.span.covers bar.time = true := by
  unfold breakevenArmable
  rw [Bool.not_eq_false', List.any_map, List.any_eq_true]
  constructor
  · rintro ⟨episode, member, covers⟩
    rcases episodeScan_opened member with known | ⟨before, found, after, level, pips, split, rfl⟩
    · exact ⟨episode, known, covers⟩
    · have listed : found ∈ later := by
        rw [split]
        exact List.mem_append_right _ List.mem_cons_self
      have onward := (List.pairwise_cons.mp ascending).1 found listed
      have reached : found.time ≤ bar.time :=
        of_decide_eq_true (Bool.and_eq_true _ _ ▸ (covers : (_ && _) = true) : _ ∧ _).1
      omega
  · rintro ⟨episode, member, covers⟩
    exact ⟨episode, episodeScan_kept member, covers⟩

/-- Along a scan the bars that a widen is in force on open in a spread hour, and no others, exactly if the widens
keep to the spread hours. -/
theorem heldBars_armable_iff (at_ : ScanAt calendar call episodes bars opened)
    (ascending : bars.Pairwise fun earlier later => earlier.time < later.time) :
    (∀ bar ∈ call.heldBars calendar widenTriggerPips barSeconds entryPrice stop episodes bars,
        calendar.spreads.isSpreadHour (call.key calendar) bar.time = true ↔
          breakevenArmable ((call.episodeScan calendar widenTriggerPips barSeconds entryPrice stop episodes bars).map
            (·.span)) bar.time = false) ↔
      call.WidensInSpreadHours calendar widenTriggerPips barSeconds opened
        (call.heldBars calendar widenTriggerPips barSeconds entryPrice stop episodes bars) := by
  induction bars generalizing stop episodes opened with
  | nil => exact iff_of_true (fun _ member => by cases member) trivial
  | cons bar later ih =>
    have onward := (List.pairwise_cons.mp ascending).2
    have stands := at_.standing ascending
    rw [FillCall.heldBars, FillCall.episodeScan]
    split
    · exact iff_of_true (fun _ member => by cases member) trivial
    split
    next unrestored =>
      rw [unrestored] at stands
      obtain ⟨widenAt, standing⟩ := Option.isSome_iff_exists.mp stands
      obtain ⟨rfl, unreleased⟩ := Option.filter_eq_some_iff.mp standing
      have covered : ∃ episode ∈ episodes, episode.span.covers bar.time = true := by
        cases at_ with
        | widened split over_ from_ restored =>
          refine ⟨_, by rw [split]; exact List.mem_append_right _ List.mem_cons_self, ?_⟩
          unfold WidenedSpan.covers
          rw [unrestored_iff ascending restored, unreleased, Bool.and_true]
          exact decide_eq_true (from_ bar List.mem_cons_self)
      rw [List.forall_mem_cons, episodeScan_covers_iff ascending, ih (at_.next (by simpa using unreleased)) onward,
        FillCall.WidensInSpreadHours, standing]
      exact and_congr_left' (iff_true_right covered)
    next over_ =>
      have free : call.standing calendar opened bar = none := by
        rw [← Option.not_isSome_iff_eq_none, stands]
        exact over_
      have calmed := at_.calmed ascending free
      have uncovered : ¬∃ episode ∈ episodes, episode.span.covers bar.time = true := by
        rintro ⟨episode, listed, covers⟩
        unfold WidenedSpan.covers at covers
        rw [calmed episode listed bar List.mem_cons_self, Bool.and_false] at covers
        cases covers
      have widens : (call.widenPips calendar widenTriggerPips barSeconds stop.level bar).isSome =
          call.widensOn calendar widenTriggerPips barSeconds bar := widenPips_isSome stop.level
      cases widened : call.widenPips calendar widenTriggerPips barSeconds stop.level bar with
      | none =>
        rw [widened] at widens
        have at_' : ScanAt calendar call episodes later none :=
          .calm fun episode listed found member => calmed episode listed found (List.mem_cons_of_mem _ member)
        rw [List.forall_mem_cons, episodeScan_covers_iff ascending, ih at_' onward, FillCall.WidensInSpreadHours,
          free, ← widens]
        refine and_congr ?_ Iff.rfl
        rw [iff_false_right uncovered, Bool.not_eq_true]
        exact eq_comm
      | some pips =>
        rw [widened] at widens
        have at_' : ScanAt calendar call
            (episodes ++ [call.openWiden calendar barSeconds stop.level pips bar later]) later (some bar.time) :=
          .widened rfl
            (fun episode listed found member => calmed episode listed found (List.mem_cons_of_mem _ member))
            (fun found member => ((List.pairwise_cons.mp ascending).1 found member).le) rfl
        have covered : ∃ episode ∈ episodes ++ [call.openWiden calendar barSeconds stop.level pips bar later],
            episode.span.covers bar.time = true := by
          refine ⟨_, List.mem_append_right _ List.mem_cons_self, ?_⟩
          unfold WidenedSpan.covers WidenedSpan.unrestored
          rw [Bool.and_eq_true, Option.all_eq_true]
          exact ⟨decide_eq_true le_rfl, fun restoredAt restored =>
            decide_eq_true (restoreBar_later ascending restored)⟩
        rw [List.forall_mem_cons, episodeScan_covers_iff ascending, ih at_' onward, FillCall.WidensInSpreadHours,
          free, ← widens]
        refine and_congr ?_ Iff.rfl
        rw [iff_true_right covered]
        exact eq_comm

theorem heldBars_sublist :
    (call.heldBars calendar widenTriggerPips barSeconds entryPrice stop episodes bars).Sublist bars := by
  induction bars generalizing stop episodes with
  | nil => exact .slnil
  | cons bar later ih =>
    rw [FillCall.heldBars]
    split
    · exact List.nil_sublist _
    split
    · exact ih.cons_cons bar
    split
    · exact ih.cons_cons bar
    · exact ih.cons_cons bar

/-- Live and the replay hold one stop over a position's history, refusing the same bars, exactly if the widens of
the replay keep to the bars that open in a spread hour. -/
theorem liveStop_eq_replayStop_iff {rule : Breakeven} {granularity : Granularity} {fill : Fill} {openedAt : Int}
    (positive : 0 < call.pipSize)
    (ascending : fill.rest.Pairwise fun earlier later => earlier.time < later.time)
    (afterFill : ∀ bar ∈ fill.rest, openedAt < bar.time + seconds granularity.seconds)
    (lossSide : call.resolved.direction.tighter fill.entryPrice call.resolved.stopLoss = true) :
    ArmsAlike calendar.spreads (call.liveInputs rule granularity fill openedAt)
        ((call.episodesFrom calendar widenTriggerPips barSeconds fill).map (·.span))
        ((call.history calendar widenTriggerPips barSeconds fill).map (·.mid)) ↔
      call.WidensInSpreadHours calendar widenTriggerPips barSeconds none
        (call.history calendar widenTriggerPips barSeconds fill) := by
  have part : (call.history calendar widenTriggerPips barSeconds fill).Sublist fill.rest := heldBars_sublist
  rw [@armsAlike_iff calendar.spreads (call.liveInputs rule granularity fill openedAt) openedAt _ _ rfl lossSide
    (List.pairwise_map.mpr (ascending.sublist part)) (List.forall_mem_map.mpr fun bar listed =>
      afterFill bar (part.subset listed)), List.forall_mem_map]
  unfold FillCall.episodesFrom
  rw [if_neg (not_le.mpr positive)]
  exact heldBars_armable_iff (.calm fun _ member => by cases member) ascending

end

/-- The late long fills as its order fires. -/
def lateFill (call : FillCall) : Fill where
  fillAt := call.shellTime
  entryPrice := 100
  rest := call.candles

theorem liveStop_eq_replayStop_recovered :
    ArmsAlike lateCalendar.spreads ((lateLong 3).liveInputs {} .h1 (lateFill (lateLong 3)) (seconds (21 * 3600)))
        (((lateLong 3).episodesFrom lateCalendar 8 3600 (lateFill (lateLong 3))).map (·.span))
        (((lateLong 3).history lateCalendar 8 3600 (lateFill (lateLong 3))).map (·.mid)) ↔
      (lateLong 3).WidensInSpreadHours lateCalendar 8 3600 none
        ((lateLong 3).history lateCalendar 8 3600 (lateFill (lateLong 3))) :=
  liveStop_eq_replayStop_iff (by decide +kernel) (by decide +kernel) (by decide +kernel) (by decide +kernel)

/-- The bar of the hour before the spread hours, that runs most of the way to the target. -/
def leadBar : PathBar where
  mid := { time := seconds (20 * 3600), o := 100, h := 160, l := 100, c := 160 }
  bidC := 159
  askC := 161
  bidL := 99
  bidH := 159
  askL := 101
  askH := 161

def leadLong : FillCall := { lateLong 3 with shellTime := seconds (20 * 3600), candles := [leadBar] }

/-- The lead of the spread hours starts at half past eight: the bar that opened at eight arms break-even live, and
the replay refuses it. -/
theorem leadLong_apart :
    (leadLong.history lateCalendar 8 3600 (lateFill leadLong)).map (·.mid) = [leadBar.mid] ∧
      lateCalendar.spreads.isSpreadHour (leadLong.key lateCalendar) leadBar.time = false ∧
      breakevenArmable ((leadLong.episodesFrom lateCalendar 8 3600 (lateFill leadLong)).map (·.span))
        leadBar.time = false ∧
      ((leadLong.liveInputs {} .h1 (lateFill leadLong) (seconds (20 * 3600))).liveStop lateCalendar.spreads
        [leadBar.mid]).level = 100 ∧
      ((leadLong.liveInputs {} .h1 (lateFill leadLong) (seconds (20 * 3600))).replayStop
        ((leadLong.episodesFrom lateCalendar 8 3600 (lateFill leadLong)).map (·.span)) [leadBar.mid]).level = 50 ∧
      ¬ ArmsAlike lateCalendar.spreads (leadLong.liveInputs {} .h1 (lateFill leadLong) (seconds (20 * 3600)))
        ((leadLong.episodesFrom lateCalendar 8 3600 (lateFill leadLong)).map (·.span)) [leadBar.mid] := by
  refine ⟨by decide +kernel, by decide +kernel, by decide +kernel, by decide +kernel, by decide +kernel, ?_⟩
  intro alike
  have refusedLive := (alike.refused leadBar.mid List.mem_cons_self).mpr (by decide +kernel)
  exact absurd refusedLive (by decide +kernel)

end TradeControl
