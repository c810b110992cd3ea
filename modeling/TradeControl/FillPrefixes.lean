import TradeControl.EpisodeEnds

namespace TradeControl

/-! What the simulator makes of a path stands on every longer path, once the bar lengths are given. -/

/-- The lengths that the simulator infers from its path: for the fill's spread hours, for the widens,
and for what it reads after the fill. -/
structure BarLengths where
  fillSeconds : Int
  widenSeconds : Int
  barLen : Int

def servedBy (subBars : Int → Int → List PathBar) : SubBars Unit where
  ask start finish memory := (subBars start finish, memory)

section
variable (calendar : ReplayCalendar) (call : FillCall)

def FillCall.inferredLengths : BarLengths where
  fillSeconds := barSecondsOf call.fillPath
  widenSeconds := barSecondsOf call.candles
  barLen := ((findFill calendar call).map fun fill => inferBarLen fill.rest).getD 0

def FillCall.simulateAt (lengths : BarLengths) (subBars : Int → Int → List PathBar) : SimOutcome :=
  match call.fillWith calendar lengths.fillSeconds with
  | none => .neverFilled
  | some fill =>
    (call.exitLoop (servedBy subBars) (call.widenedSpans calendar lengths.widenSeconds fill) fill
      lengths.barLen [] call.resolved.stopLoss fill.rest ()).1

theorem simulateFillResolvedZoom_eq (subBars : Int → Int → List PathBar) :
    (simulateFillResolvedZoom calendar call (servedBy subBars) ()).1 =
      call.simulateAt calendar (call.inferredLengths calendar) subBars := by
  unfold simulateFillResolvedZoom FillCall.simulateAt FillCall.inferredLengths
  change _ = match findFill calendar call with
    | none => _
    | some fill => _
  cases findFill calendar call with
  | none => rfl
  | some fill => rfl

/-- The call over a longer path. -/
def FillCall.extend (later : List PathBar) : FillCall := { call with candles := call.candles ++ later }

end

section
variable {calendar : ReplayCalendar} {call : FillCall} {later : List PathBar}

theorem fillPath_extend :
    ∃ more, (call.extend later).fillPath = call.fillPath ++ more ∧ ∀ bar ∈ more, bar ∈ later := by
  unfold FillCall.fillPath
  change ∃ more, (if call.signedBreakeven.any (·.hasMaVeto) then
    (call.candles ++ later).dropWhile fun bar => bar.time < call.shellTime else call.candles ++ later) = _ ∧ _
  split
  · rw [List.dropWhile_append]
    split
    next emptied =>
      refine ⟨later.dropWhile fun bar => bar.time < call.shellTime, ?_,
        fun bar member => (List.dropWhile_suffix _).subset member⟩
      rw [List.isEmpty_iff.mp emptied, List.nil_append]
    next => exact ⟨later, rfl, fun _ member => member⟩
  · exact ⟨later, rfl, fun _ member => member⟩

theorem truncated_initial {resolved : Resolved} {window longer : List PathBar} (initial : window <+: longer) :
    truncateAtPreFillSlBreach resolved window <+: truncateAtPreFillSlBreach resolved longer := by
  unfold truncateAtPreFillSlBreach
  cases breach : window.findIdx? fun bar => breachDetected resolved.direction
      (barAdverseExtreme resolved.direction bar.mid.h bar.mid.l) resolved.stopLoss with
  | some index =>
    rw [initial.findIdx?_eq_some breach]
    exact initial.take _
  | none =>
    dsimp only
    split
    next index found =>
      obtain ⟨more, rfl⟩ := initial
      rw [List.findIdx?_append, breach, Option.none_or] at found
      obtain ⟨shifted, _, rfl⟩ := Option.map_eq_some_iff.mp found
      have whole : window.take (shifted + window.length + 1) = window := List.take_of_length_le (by omega)
      have past : shifted + window.length + 1 - window.length = shifted + 1 := by omega
      rw [List.take_append, whole, past]
      exact List.prefix_append ..
    next => exact initial

theorem fillWindow_initial {bars longer : List PathBar} (initial : bars <+: longer) :
    call.fillWindow bars <+: call.fillWindow longer := by
  unfold FillCall.fillWindow
  refine truncated_initial ?_
  split
  · exact (initial.drop 1).take _
  · exact initial.drop 1

/-- A fill on a path is the fill on every longer one. -/
theorem fillWith_extend {barSeconds : Int} {fill : Fill} (found : call.fillWith calendar barSeconds = some fill) :
    ∃ more, (call.extend later).fillWith calendar barSeconds = some { fill with rest := fill.rest ++ more } ∧
      ∀ bar ∈ more, bar ∈ later := by
  obtain ⟨more, path, inLater⟩ : ∃ more, (call.extend later).fillPath = call.fillPath ++ more ∧
    ∀ bar ∈ more, bar ∈ later := fillPath_extend
  refine ⟨more, ?_, inLater⟩
  have resting : ∀ trigger : Rat,
      (((call.fillWindow call.fillPath).findIdx? (call.fillsOn calendar barSeconds)).bind
      fun index => Fill.onFirst trigger ((call.fillPath.drop 1).drop index)) = some fill →
      (((call.fillWindow (call.fillPath ++ more)).findIdx? (call.fillsOn calendar barSeconds)).bind
      fun index => Fill.onFirst trigger (((call.fillPath ++ more).drop 1).drop index)) =
        some { fill with rest := fill.rest ++ more } := by
    intro trigger found
    obtain ⟨index, reached, taken⟩ := Option.bind_eq_some_iff.mp found
    rw [(fillWindow_initial (List.prefix_append ..)).findIdx?_eq_some reached, Option.bind_some]
    cases dropped : (call.fillPath.drop 1).drop index with
    | nil =>
      rw [dropped] at taken
      cases taken
    | cons bar rest =>
      rw [dropped] at taken
      cases taken
      have long : 1 + index < call.fillPath.length := by
        have left : ((call.fillPath.drop 1).drop index).length = (bar :: rest).length := by rw [dropped]
        rw [List.drop_drop, List.length_drop, List.length_cons] at left
        omega
      rw [List.drop_drop] at dropped ⊢
      rw [List.drop_append_of_le_length (by omega), dropped]
      rfl
  have resolved : (call.extend later).resolved = call.resolved := rfl
  unfold FillCall.fillWith at found ⊢
  rw [path, resolved]
  cases entry : call.resolved.entry with
  | market price =>
    rw [entry] at found
    cases found
    rfl
  | stop trigger =>
    rw [entry] at found
    exact resting trigger found
  | limit trigger =>
    rw [entry] at found
    exact resting trigger found

theorem maVetoAt_take (rule : Breakeven) (candles : List Candle) {index bound : Nat} (below : index < bound)
    (direction : Direction) :
    rule.maVetoAt (candles.take bound) index direction = rule.maVetoAt candles index direction := by
  unfold Breakeven.maVetoAt adverseCrossAt averageBreakAt
  rw [turnsAdverse_congr direction below fun i inside => relationAt_take candles inside,
    turnsAdverse_congr direction below fun i inside => closeRelation_take longAverage candles inside]

/-- A cross on a bar reads nothing after it. -/
theorem crossStop_extend {bar : PathBar} (member : bar ∈ call.candles) (fill stop : Rat) :
    (call.extend later).crossStop bar fill stop = call.crossStop bar fill stop := by
  have shellTime : (call.extend later).shellTime = call.shellTime := rfl
  have breakeven : (call.extend later).breakeven = call.breakeven := rfl
  have resolved : (call.extend later).resolved = call.resolved := rfl
  unfold FillCall.crossStop
  rw [shellTime, breakeven, resolved]
  split
  · rfl
  cases call.breakeven.filter (·.hasMaVeto) with
  | none => rfl
  | some rule =>
    have mids : (call.extend later).candles.map (·.mid) = call.candles.map (·.mid) ++ later.map (·.mid) :=
      List.map_append
    obtain ⟨index, found⟩ : ∃ index, (call.candles.map (·.mid)).findIdx? (·.time == bar.time) = some index := by
      refine Option.isSome_iff_exists.mp (List.findIdx?_isSome.trans ?_)
      exact List.any_eq_true.mpr ⟨bar.mid, List.mem_map_of_mem member, beq_self_eq_true _⟩
    have below : index < (call.candles.map (·.mid)).length :=
      (List.findIdx?_eq_some_iff_getElem.mp found).1
    have same := maVetoAt_take rule (call.candles.map (·.mid) ++ later.map (·.mid)) below call.resolved.direction
    rw [List.take_left] at same
    dsimp only
    rw [mids, (List.prefix_append _ _).findIdx?_eq_some found, found, Option.bind_some, Option.bind_some,
      same]

end

/-- Two widens that stand alike on every bar up to `last`. -/
structure SpreadWiden.AgreesTo (last : Int) (a b : SpreadWiden) : Prop where
  effectiveFrom : a.effectiveFrom = b.effectiveFrom
  widenedStop : a.widenedStop = b.widenedStop
  unrestored : ∀ time ≤ last, a.span.unrestored time = b.span.unrestored time

/-- The spans hold the same stop on every bar up to `last`. -/
def SpansAgree (last : Int) (spans others : List WidenedSpan) : Prop :=
  ∀ time ≤ last, (∀ unshielded, stopOnBar spans time unshielded = stopOnBar others time unshielded) ∧
    breakevenArmable spans time = breakevenArmable others time

section
variable {last : Int} {episodes others extra : List SpreadWiden} {a b : SpreadWiden}

theorem SpreadWiden.AgreesTo.covers (agrees : a.AgreesTo last b) {time : Int} (inTime : time ≤ last) :
    a.span.covers time = b.span.covers time := by
  unfold WidenedSpan.covers
  rw [agrees.unrestored time inTime]
  exact congrArg (fun from' => decide (from' ≤ time) && b.span.unrestored time) agrees.effectiveFrom

theorem stopOnBar_cons (span : WidenedSpan) (spans : List WidenedSpan) (time : Int) (unshielded : Rat) :
    stopOnBar (span :: spans) time unshielded =
      if span.covers time then span.widenedStop else stopOnBar spans time unshielded := by
  unfold stopOnBar
  rw [List.find?_cons]
  cases span.covers time with
  | true => rfl
  | false => rfl

theorem breakevenArmable_cons (span : WidenedSpan) (spans : List WidenedSpan) (time : Int) :
    breakevenArmable (span :: spans) time = (!span.covers time && breakevenArmable spans time) := by
  unfold breakevenArmable
  rw [List.any_cons, Bool.not_or]

/-- Widens that open later change nothing up to `last`. -/
theorem spansAgree_of_later (agree : List.Forall₂ (SpreadWiden.AgreesTo last) episodes others)
    (late : ∀ widen ∈ extra, last < widen.effectiveFrom) :
    SpansAgree last (episodes.map (·.span)) ((others ++ extra).map (·.span)) := by
  intro time inTime
  induction agree with
  | nil =>
    have uncovered : ∀ span ∈ extra.map (·.span), ¬ span.covers time = true := by
      intro span member covered
      obtain ⟨widen, opened, rfl⟩ := List.mem_map.mp member
      have after := late widen opened
      have begun : widen.effectiveFrom ≤ time := of_decide_eq_true (Bool.and_eq_true_iff.mp covered).1
      omega
    refine ⟨fun unshielded => ?_, ?_⟩
    · unfold stopOnBar
      rw [List.nil_append, List.find?_eq_none.mpr uncovered]
      rfl
    · unfold breakevenArmable
      rw [List.nil_append, List.any_eq_false.mpr uncovered]
      rfl
  | cons agrees _ ih =>
    refine ⟨fun unshielded => ?_, ?_⟩
    · rw [List.map_cons, List.cons_append, List.map_cons, stopOnBar_cons, stopOnBar_cons,
        agrees.covers inTime, ih.1 unshielded]
      exact ite_congr rfl (fun _ => agrees.widenedStop) fun _ => rfl
    · rw [List.map_cons, List.cons_append, List.map_cons, breakevenArmable_cons, breakevenArmable_cons,
        agrees.covers inTime, ih.2]

end

section
variable {calendar : ReplayCalendar} {call : FillCall} {later bars more : List PathBar} {last : Int}
  {widenTriggerPips entryPrice : Rat} {barSeconds : Int} {stop : InForceStop}
  {episodes others : List SpreadWiden}

/-- The scan keeps the widens that it has, and opens others on its bars. -/
theorem episodeScan_keeps (bars : List PathBar) (stop : InForceStop) (episodes : List SpreadWiden) :
    ∃ extra, call.episodeScan calendar widenTriggerPips barSeconds entryPrice stop episodes bars =
      episodes ++ extra ∧ ∀ widen ∈ extra, ∃ bar ∈ bars, widen.effectiveFrom = bar.time := by
  have nothing : ∃ extra, episodes = episodes ++ extra ∧
      ∀ widen ∈ extra, ∃ bar ∈ bars, widen.effectiveFrom = bar.time :=
    ⟨[], (List.append_nil episodes).symm, by simp⟩
  induction bars generalizing stop episodes with
  | nil => exact nothing
  | cons bar rest ih =>
    have further : ∀ stop : InForceStop, ∃ extra,
        call.episodeScan calendar widenTriggerPips barSeconds entryPrice stop episodes rest =
          episodes ++ extra ∧ ∀ widen ∈ extra, ∃ bar' ∈ bar :: rest, widen.effectiveFrom = bar'.time := by
      intro stop
      obtain ⟨extra, split, opened⟩ := ih stop episodes ⟨[], (List.append_nil episodes).symm, by simp⟩
      refine ⟨extra, split, fun widen member => ?_⟩
      obtain ⟨found, inRest, time⟩ := opened widen member
      exact ⟨found, List.mem_cons_of_mem _ inRest, time⟩
    rw [FillCall.episodeScan]
    split
    · exact nothing
    split
    · exact further stop
    split
    · exact further _
    next pips _ =>
      obtain ⟨extra, split, opened⟩ := ih stop
        (episodes ++ [call.openWiden calendar barSeconds stop.level pips bar rest])
        ⟨[], (List.append_nil _).symm, by simp⟩
      refine ⟨call.openWiden calendar barSeconds stop.level pips bar rest :: extra, ?_, ?_⟩
      · rw [split, List.append_assoc]
        rfl
      · rintro widen (_ | ⟨_, member⟩)
        · exact ⟨bar, List.mem_cons_self, rfl⟩
        · obtain ⟨found, inRest, time⟩ := opened widen member
          exact ⟨found, List.mem_cons_of_mem _ inRest, time⟩

/-- Bars that open after `last` restore no widen by then. -/
theorem restoreBar_append (late : ∀ bar ∈ more, last < bar.time) (widenAt : Int) {time : Int}
    (inTime : time ≤ last) :
    (call.restoreBar calendar widenAt bars).all (time < ·) =
      (call.restoreBar calendar widenAt (bars ++ more)).all (time < ·) := by
  unfold FillCall.restoreBar
  rw [List.find?_append]
  cases bars.find? (call.restores calendar widenAt) with
  | some bar => rfl
  | none =>
    rw [Option.none_or]
    cases restored : more.find? (call.restores calendar widenAt) with
    | none => rfl
    | some bar =>
      have after := late bar (List.mem_of_find?_eq_some restored)
      simp only [Option.map_none, Option.all_none, Option.map_some, Option.all_some]
      exact (decide_eq_true (by omega)).symm

theorem openWiden_agrees (late : ∀ bar ∈ more, last < bar.time) (level pips : Rat) (bar : PathBar) :
    (call.openWiden calendar barSeconds level pips bar bars).AgreesTo last
      ((call.extend later).openWiden calendar barSeconds level pips bar (bars ++ more)) :=
  ⟨rfl, rfl, fun _ inTime => restoreBar_append late bar.time inTime⟩

theorem armOnOrdinaryBar_extend {bar : PathBar} (member : bar ∈ call.candles) :
    (call.extend later).armOnOrdinaryBar stop entryPrice bar = call.armOnOrdinaryBar stop entryPrice bar := by
  unfold FillCall.armOnOrdinaryBar
  rw [crossStop_extend member]
  rfl

theorem lastUnrestored_congr (agree : List.Forall₂ (SpreadWiden.AgreesTo last) episodes others) {time : Int}
    (inTime : time ≤ last) :
    (others.getLast?.any fun widen => widen.span.unrestored time) =
      episodes.getLast?.any fun widen => widen.span.unrestored time := by
  have reversed := List.rel_reverse agree
  rw [List.getLast?_eq_head?_reverse, List.getLast?_eq_head?_reverse]
  generalize episodes.reverse = back at reversed ⊢
  generalize others.reverse = back' at reversed ⊢
  cases reversed with
  | nil => rfl
  | cons agrees _ => exact (agrees.unrestored time inTime).symm

/-- Over a longer path the scan finds the widens that it found, and others that open later. -/
theorem episodeScan_extend (inPath : ∀ bar ∈ bars, bar ∈ call.candles) (within : ∀ bar ∈ bars, bar.time ≤ last)
    (late : ∀ bar ∈ more, last < bar.time) (stop : InForceStop)
    (agree : List.Forall₂ (SpreadWiden.AgreesTo last) episodes others) :
    ∃ same extra, (call.extend later).episodeScan calendar widenTriggerPips barSeconds entryPrice stop others
        (bars ++ more) = same ++ extra ∧
      List.Forall₂ (SpreadWiden.AgreesTo last)
        (call.episodeScan calendar widenTriggerPips barSeconds entryPrice stop episodes bars) same ∧
      ∀ widen ∈ extra, last < widen.effectiveFrom := by
  induction bars generalizing stop episodes others with
  | nil =>
    obtain ⟨extra, split, opened⟩ := episodeScan_keeps more stop others
    refine ⟨others, extra, split, agree, fun widen member => ?_⟩
    obtain ⟨bar, inMore, time⟩ := opened widen member
    rw [time]
    exact late bar inMore
  | cons bar rest ih =>
    have inTime := within bar List.mem_cons_self
    have further : ∀ (stop : InForceStop) {episodes others : List SpreadWiden},
        List.Forall₂ (SpreadWiden.AgreesTo last) episodes others → ∃ same extra,
        (call.extend later).episodeScan calendar widenTriggerPips barSeconds entryPrice stop others
            (rest ++ more) = same ++ extra ∧
          List.Forall₂ (SpreadWiden.AgreesTo last)
            (call.episodeScan calendar widenTriggerPips barSeconds entryPrice stop episodes rest) same ∧
          ∀ widen ∈ extra, last < widen.effectiveFrom :=
      fun stop {_ _} agree => ih (fun bar member => inPath bar (List.mem_cons_of_mem _ member))
        (fun bar member => within bar (List.mem_cons_of_mem _ member)) stop agree
    have force : stopOnBar (others.map (·.span)) bar.time stop.level =
        stopOnBar (episodes.map (·.span)) bar.time stop.level := by
      have none : ∀ widen ∈ ([] : List SpreadWiden), last < widen.effectiveFrom := nofun
      have spans := spansAgree_of_later agree none
      rw [List.append_nil] at spans
      exact ((spans bar.time inTime).1 stop.level).symm
    have stopReached : (call.extend later).reachesStop bar (stopOnBar (episodes.map (·.span)) bar.time stop.level) =
        call.reachesStop bar (stopOnBar (episodes.map (·.span)) bar.time stop.level) := rfl
    have targetReached : (call.extend later).reachesTarget bar = call.reachesTarget bar := rfl
    have widened : (call.extend later).widenPips calendar widenTriggerPips barSeconds stop.level bar =
        call.widenPips calendar widenTriggerPips barSeconds stop.level bar := rfl
    rw [List.cons_append, FillCall.episodeScan, FillCall.episodeScan, force, stopReached, targetReached, widened,
      lastUnrestored_congr agree inTime, armOnOrdinaryBar_extend (inPath bar List.mem_cons_self)]
    split
    · exact ⟨others, [], (List.append_nil others).symm, agree, nofun⟩
    split
    · exact further stop agree
    cases call.widenPips calendar widenTriggerPips barSeconds stop.level bar with
    | none => exact further (call.armOnOrdinaryBar stop entryPrice bar) agree
    | some pips =>
      exact further stop (List.rel_append agree (.cons (openWiden_agrees late stop.level pips bar) .nil))

end

def SimOutcome.fill : SimOutcome → Option (Int × Rat)
  | .neverFilled => none
  | .filledOpen fillAt entryPrice | .stoppedOut fillAt entryPrice _ _ | .tookProfit fillAt entryPrice _ _ =>
    some (fillAt, entryPrice)

/-- What an earlier look at an order saw is still so: its fill, and its exit. -/
def SimOutcome.StandsIn (early late : SimOutcome) : Prop :=
  match early with
  | .neverFilled => True
  | .filledOpen fillAt entryPrice => late.fill = some (fillAt, entryPrice)
  | exited => late = exited

theorem SimOutcome.standsIn_refl (outcome : SimOutcome) : outcome.StandsIn outcome := by
  cases outcome with
  | neverFilled => trivial
  | filledOpen => rfl
  | stoppedOut => rfl
  | tookProfit => rfl

section
variable {calendar : ReplayCalendar} {call : FillCall} {later bars more : List PathBar} {last : Int}
  {spans others : List WidenedSpan} {fill : Fill} {barLen : Int} {source : SubBars Unit}

theorem exitLoop_fill (past : List Candle) (activeStop : Rat) (bars : List PathBar) :
    (call.exitLoop source spans fill barLen past activeStop bars ()).1.fill =
      some (fill.fillAt, fill.entryPrice) := by
  induction bars generalizing past activeStop with
  | nil => rfl
  | cons bar rest ih =>
    unfold FillCall.exitLoop
    dsimp only
    split
    · rfl
    · rfl
    · unfold FillCall.zoomAmbiguousBar
      dsimp only
      split
      · rfl
      · split
        · rfl
        · rfl
    · exact ih _ _

theorem stopFirst_extend (effectiveStop : Rat) (subBars : List PathBar) :
    (call.extend later).stopFirst effectiveStop subBars = call.stopFirst effectiveStop subBars := by
  induction subBars with
  | nil => rfl
  | cons sub rest ih =>
    rw [FillCall.stopFirst, ih, FillCall.stopFirst]
    rfl

theorem zoomAmbiguousBar_extend (rest : List PathBar) (bar : PathBar) (effectiveStop : Rat) :
    (call.extend later).zoomAmbiguousBar source { fill with rest } barLen bar effectiveStop () =
      call.zoomAmbiguousBar source fill barLen bar effectiveStop () := by
  unfold FillCall.zoomAmbiguousBar
  dsimp only
  rw [stopFirst_extend]
  rfl

/-- The exit loop over a longer path sees what it saw. -/
theorem exitLoop_extend (inPath : ∀ bar ∈ bars, bar ∈ call.candles) (within : ∀ bar ∈ bars, bar.time ≤ last)
    (agree : SpansAgree last spans others) (rest : List PathBar) (past : List Candle) (activeStop : Rat) :
    (call.exitLoop source spans fill barLen past activeStop bars ()).1.StandsIn
      ((call.extend later).exitLoop source others { fill with rest } barLen past activeStop
        (bars ++ more) ()).1 := by
  induction bars generalizing past activeStop with
  | nil => exact exitLoop_fill past activeStop more
  | cons bar bars ih =>
    obtain ⟨stops, armable⟩ := agree bar.time (within bar List.mem_cons_self)
    have armed : (call.extend later).armActiveStop others { fill with rest } barLen (past ++ [bar.mid]) bar
        activeStop = call.armActiveStop spans fill barLen (past ++ [bar.mid]) bar activeStop := by
      unfold FillCall.armActiveStop
      rw [armable, crossStop_extend (inPath bar List.mem_cons_self)]
      rfl
    have next := ih (fun bar member => inPath bar (List.mem_cons_of_mem _ member))
      (fun bar member => within bar (List.mem_cons_of_mem _ member)) (past ++ [bar.mid])
      (call.armActiveStop spans fill barLen (past ++ [bar.mid]) bar activeStop)
    have stopReached : (call.extend later).reachesStop bar (stopOnBar spans bar.time activeStop) =
        call.reachesStop bar (stopOnBar spans bar.time activeStop) := rfl
    have targetReached : (call.extend later).reachesTarget bar = call.reachesTarget bar := rfl
    rw [List.cons_append, FillCall.exitLoop, FillCall.exitLoop]
    dsimp only
    rw [← stops activeStop, stopReached, targetReached, armed, zoomAmbiguousBar_extend]
    cases call.reachesStop bar (stopOnBar spans bar.time activeStop) with
    | true =>
      cases call.reachesTarget bar with
      | true => exact SimOutcome.standsIn_refl _
      | false => exact SimOutcome.standsIn_refl _
    | false =>
      cases call.reachesTarget bar with
      | true => exact SimOutcome.standsIn_refl _
      | false => exact next

end

section
variable {calendar : ReplayCalendar} {call : FillCall} {later : List PathBar}
  {subBars : Int → Int → List PathBar} {one two : BarLengths}

/-- Over a longer path, and with the same lengths, an order is seen as it was. -/
theorem simulateAt_extend (lengths : BarLengths) (subBars : Int → Int → List PathBar)
    (ascending : (call.candles ++ later).Pairwise fun earlier later => earlier.time < later.time) :
    (call.simulateAt calendar lengths subBars).StandsIn
      ((call.extend later).simulateAt calendar lengths subBars) := by
  cases later with
  | nil =>
    have same : call.extend [] = call := by
      unfold FillCall.extend
      rw [List.append_nil]
    rw [same]
    exact SimOutcome.standsIn_refl _
  | cons next rest =>
    have split := List.pairwise_append.mp ascending
    have within : ∀ bar ∈ call.candles, bar.time ≤ next.time - 1 := by
      intro bar member
      have before := split.2.2 bar member next List.mem_cons_self
      omega
    have late : ∀ bar ∈ next :: rest, next.time - 1 < bar.time := by
      rintro bar (_ | ⟨_, member⟩)
      · omega
      · have after := (List.pairwise_cons.mp split.2.1).1 bar member
        omega
    unfold FillCall.simulateAt
    cases found : call.fillWith calendar lengths.fillSeconds with
    | none => trivial
    | some fill =>
      obtain ⟨more, longer, inLater⟩ : ∃ more,
          (call.extend (next :: rest)).fillWith calendar lengths.fillSeconds =
            some { fill with rest := fill.rest ++ more } ∧ ∀ bar ∈ more, bar ∈ next :: rest :=
        fillWith_extend found
      have inPath : ∀ bar ∈ fill.rest, bar ∈ call.candles := (fillWith_suffix found).subset
      have inTime : ∀ bar ∈ fill.rest, bar.time ≤ next.time - 1 :=
        fun bar member => within bar (inPath bar member)
      have agree : SpansAgree (next.time - 1) (call.widenedSpans calendar lengths.widenSeconds fill)
          ((call.extend (next :: rest)).widenedSpans calendar lengths.widenSeconds
            { fill with rest := fill.rest ++ more }) := by
        unfold FillCall.widenedSpans FillCall.episodesFrom
        change SpansAgree _ (List.map _ (if call.pipSize ≤ 0 then _ else _))
          (List.map _ (if call.pipSize ≤ 0 then _ else _))
        split
        · exact fun _ _ => ⟨fun _ => rfl, rfl⟩
        · obtain ⟨same, extra, split, agrees, opened⟩ := episodeScan_extend inPath inTime
            (fun bar member => late bar (inLater bar member)) { level := call.resolved.stopLoss } .nil
          have spans := spansAgree_of_later agrees opened
          rw [← split] at spans
          exact spans
      rw [longer]
      exact exitLoop_extend inPath inTime agree (fill.rest ++ more) [] call.resolved.stopLoss

/-- What the finer bars say of a bar that reaches both its levels. -/
def FillCall.zoomedStopFirst (call : FillCall) (subBars : Int → Int → List PathBar) (barLen : Int)
    (bar : PathBar) (stop : Rat) : Bool :=
  decide (barLen ≤ 0) || call.stopFirst stop (subBars bar.time (bar.time + barLen))

/-- Every widen that the scan judges is judged alike. -/
def FillCall.ScansAlike (calendar : ReplayCalendar) (call : FillCall) (widenTriggerPips : Rat) (one two : Int)
    (entryPrice : Rat) : InForceStop → List SpreadWiden → List PathBar → Prop
  | _, _, [] => True
  | stop, episodes, bar :: later =>
    let inForce := stopOnBar (episodes.map (·.span)) bar.time stop.level
    if call.reachesStop bar inForce || call.reachesTarget bar then True
    else if episodes.getLast?.any fun widen => widen.span.unrestored bar.time then
      FillCall.ScansAlike calendar call widenTriggerPips one two entryPrice stop episodes later
    else
      calendar.widenInstant (call.key calendar) bar.time one =
          calendar.widenInstant (call.key calendar) bar.time two ∧
        match call.widenPips calendar widenTriggerPips one stop.level bar with
        | none =>
          FillCall.ScansAlike calendar call widenTriggerPips one two entryPrice
            (call.armOnOrdinaryBar stop entryPrice bar) episodes later
        | some pips =>
          FillCall.ScansAlike calendar call widenTriggerPips one two entryPrice stop
            (episodes ++ [call.openWiden calendar one stop.level pips bar later]) later

/-- Every bar that the exit loop comes to arms the same stop, or ends the position at the same level. -/
def FillCall.StepsAlike (call : FillCall) (subBars : Int → Int → List PathBar) (spans : List WidenedSpan)
    (fill : Fill) (one two : Int) : List Candle → Rat → List PathBar → Prop
  | _, _, [] => True
  | past, activeStop, bar :: later =>
    let effectiveStop := stopOnBar spans bar.time activeStop
    let window := past ++ [bar.mid]
    match call.reachesStop bar effectiveStop, call.reachesTarget bar with
    | true, true =>
      call.zoomedStopFirst subBars one bar effectiveStop = call.zoomedStopFirst subBars two bar effectiveStop
    | false, false =>
      call.armActiveStop spans fill one window bar activeStop =
          call.armActiveStop spans fill two window bar activeStop ∧
        FillCall.StepsAlike call subBars spans fill one two window
          (call.armActiveStop spans fill one window bar activeStop) later
    | _, _ => True

/-- Every decision that the simulator makes by a bar length comes out alike under both. -/
structure FillCall.LengthsAgree (calendar : ReplayCalendar) (call : FillCall)
    (subBars : Int → Int → List PathBar) (one two : BarLengths) : Prop where
  fills : (∀ price, call.resolved.entry ≠ .market price) → ∀ before bar after,
    call.fillWindow call.fillPath = before ++ bar :: after →
    (∀ earlier ∈ before, call.fillsOn calendar one.fillSeconds earlier = false) →
    call.fillsOn calendar one.fillSeconds bar = call.fillsOn calendar two.fillSeconds bar
  widens : 0 < call.pipSize → ∀ fill ∈ call.fillWith calendar one.fillSeconds,
    call.ScansAlike calendar (calendar.elevatedThresholdPips (call.key calendar)) one.widenSeconds
      two.widenSeconds fill.entryPrice { level := call.resolved.stopLoss } [] fill.rest
  steps : ∀ fill ∈ call.fillWith calendar one.fillSeconds,
    call.StepsAlike subBars (call.widenedSpans calendar one.widenSeconds fill) fill one.barLen two.barLen []
      call.resolved.stopLoss fill.rest

/-- Two tests that agree on every entry up to the first that passes find the same one. -/
theorem findIdx?_congr {α : Type} {entries : List α} {p q : α → Bool}
    (same : ∀ before entry after, entries = before ++ entry :: after →
      (∀ earlier ∈ before, p earlier = false) → p entry = q entry) : entries.findIdx? p = entries.findIdx? q := by
  induction entries with
  | nil => rfl
  | cons first rest ih =>
    rw [List.findIdx?_cons, List.findIdx?_cons, ← same [] first rest rfl nofun]
    cases passes : p first with
    | true => rfl
    | false =>
      rw [ih fun before entry after split earlier => same (first :: before) entry after (by rw [split]; rfl) ?_]
      rintro other (_ | ⟨_, member⟩)
      · exact passes
      · exact earlier other member

theorem truncateAtPreFillSlBreach_subset {resolved : Resolved} {bars : List PathBar} {bar : PathBar}
    (member : bar ∈ truncateAtPreFillSlBreach resolved bars) : bar ∈ bars := by
  unfold truncateAtPreFillSlBreach at member
  split at member
  · exact List.mem_of_mem_take member
  · exact member

theorem fillWindow_subset {bars : List PathBar} {bar : PathBar} (member : bar ∈ call.fillWindow bars) :
    bar ∈ bars := by
  have unexpired := truncateAtPreFillSlBreach_subset member
  split at unexpired
  · exact List.mem_of_mem_drop (List.mem_of_mem_take unexpired)
  · exact List.mem_of_mem_drop unexpired

theorem fillWith_congr (agree : call.LengthsAgree calendar subBars one two) :
    call.fillWith calendar one.fillSeconds = call.fillWith calendar two.fillSeconds := by
  unfold FillCall.fillWith
  dsimp only
  cases entry : call.resolved.entry with
  | market price => rfl
  | stop trigger =>
    dsimp only
    rw [findIdx?_congr (agree.fills fun price market => nomatch entry.symm.trans market)]
  | limit trigger =>
    dsimp only
    rw [findIdx?_congr (agree.fills fun price market => nomatch entry.symm.trans market)]

theorem zoomAmbiguousBar_eq (fill : Fill) (barLen : Int) (bar : PathBar) (stop : Rat) :
    call.zoomAmbiguousBar (servedBy subBars) fill barLen bar stop () =
      (if call.zoomedStopFirst subBars barLen bar stop then
        .stoppedOut fill.fillAt fill.entryPrice bar.time stop
      else .tookProfit fill.fillAt fill.entryPrice bar.time call.resolved.takeProfit, ()) := by
  unfold FillCall.zoomAmbiguousBar FillCall.zoomedStopFirst
  by_cases unknown : barLen ≤ 0
  · rw [if_pos unknown, decide_eq_true unknown]
    rfl
  · rw [if_neg unknown, decide_eq_false unknown, Bool.false_or]
    rfl

theorem episodeScan_congr {widenTriggerPips entryPrice : Rat} {bars : List PathBar} {one two : Int}
    {stop : InForceStop} {episodes : List SpreadWiden}
    (alike : call.ScansAlike calendar widenTriggerPips one two entryPrice stop episodes bars) :
    call.episodeScan calendar widenTriggerPips one entryPrice stop episodes bars =
      call.episodeScan calendar widenTriggerPips two entryPrice stop episodes bars := by
  induction bars generalizing stop episodes with
  | nil => rfl
  | cons bar rest ih =>
    rw [FillCall.ScansAlike] at alike
    rw [FillCall.episodeScan, FillCall.episodeScan]
    split
    · rfl
    next walked =>
      rw [if_neg walked] at alike
      split
      next unrestored =>
        rw [if_pos unrestored] at alike
        exact ih alike
      next restored =>
        rw [if_neg restored] at alike
        obtain ⟨instant, further⟩ := alike
        have pips : call.widenPips calendar widenTriggerPips one stop.level bar =
            call.widenPips calendar widenTriggerPips two stop.level bar := by
          unfold FillCall.widenPips
          rw [instant]
        have opens : ∀ pips, call.openWiden calendar one stop.level pips bar rest =
            call.openWiden calendar two stop.level pips bar rest := by
          intro pips
          unfold FillCall.openWiden
          rw [instant]
        rw [← pips]
        cases judged : call.widenPips calendar widenTriggerPips one stop.level bar with
        | none =>
          rw [judged] at further
          exact ih further
        | some widened =>
          rw [judged] at further
          dsimp only
          rw [← opens]
          exact ih further

theorem exitLoop_congr {spans : List WidenedSpan} {fill : Fill} {bars : List PathBar} {one two : Int}
    {past : List Candle} {activeStop : Rat}
    (alike : call.StepsAlike subBars spans fill one two past activeStop bars) :
    call.exitLoop (servedBy subBars) spans fill one past activeStop bars () =
      call.exitLoop (servedBy subBars) spans fill two past activeStop bars () := by
  induction bars generalizing past activeStop with
  | nil => rfl
  | cons bar rest ih =>
    rw [FillCall.StepsAlike] at alike
    rw [FillCall.exitLoop, FillCall.exitLoop]
    dsimp only at alike ⊢
    cases reachesStop : call.reachesStop bar (stopOnBar spans bar.time activeStop) with
    | true =>
      cases reachesTarget : call.reachesTarget bar with
      | true =>
        rw [reachesStop, reachesTarget] at alike
        dsimp only
        rw [zoomAmbiguousBar_eq, zoomAmbiguousBar_eq, alike]
      | false => rfl
    | false =>
      cases reachesTarget : call.reachesTarget bar with
      | true => rfl
      | false =>
        rw [reachesStop, reachesTarget] at alike
        dsimp only
        rw [← alike.1]
        exact ih alike.2

/-- Lengths that decide alike give the same outcome. -/
theorem simulateAt_congr (agree : call.LengthsAgree calendar subBars one two) :
    call.simulateAt calendar one subBars = call.simulateAt calendar two subBars := by
  unfold FillCall.simulateAt
  cases found : call.fillWith calendar one.fillSeconds with
  | none =>
    rw [fillWith_congr agree] at found
    rw [found]
  | some fill =>
    have spans : call.widenedSpans calendar one.widenSeconds fill =
        call.widenedSpans calendar two.widenSeconds fill := by
      unfold FillCall.widenedSpans FillCall.episodesFrom
      split
      · rfl
      next positive => rw [episodeScan_congr (agree.widens (not_le.mp positive) fill found)]
    have walked := exitLoop_congr (agree.steps fill found)
    rw [fillWith_congr agree] at found
    rw [found]
    dsimp only
    rw [walked, spans]

end

end TradeControl
