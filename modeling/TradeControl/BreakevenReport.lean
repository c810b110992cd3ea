import TradeControl.Foundation.LeastChoices
import TradeControl.StopWalks

namespace TradeControl

open Foundation

/-! The line of the journal that names the bar on which the stop went to break-even. -/

/-- A bar as it closes, with the bars since the fill up to it. -/
structure Closing where
  window : List Candle
  bar : PathBar

def closings : List Candle → List PathBar → List Closing
  | _, [] => []
  | past, bar :: later => { window := past ++ [bar.mid], bar } :: closings (past ++ [bar.mid]) later

section
variable (calendar : ReplayCalendar) (call : FillCall) (spans : List WidenedSpan) (fill : Fill) (barLen : Int)

/-- The stop that the exit loop of `simulate_fill_resolved_zoom` holds after each bar that the position lives
through. -/
def FillCall.closedStops : List Candle → Rat → List PathBar → List (Int × Rat)
  | _, _, [] => []
  | past, activeStop, bar :: later =>
    let window := past ++ [bar.mid]
    if call.endsOn bar (stopOnBar spans bar.time activeStop) then []
    else
      let next := call.armActiveStop spans fill barLen window bar activeStop
      (bar.time, next) :: FillCall.closedStops window next later

/-- The bar that first moves the stop of the simulated position off the one that it was placed with. -/
def FillCall.movedAt : Option Int :=
  (findFill calendar call).bind fun fill =>
    ((call.closedStops (call.widenedSpans calendar (barSecondsOf call.candles) fill) fill (inferBarLen fill.rest) []
      call.resolved.stopLoss fill.rest).find? fun stop => stop.2 ≠ call.resolved.stopLoss).map (·.1)

/-- The loop of `breakeven_armed_at_resolved` over the bars from the fill on. -/
def FillCall.armingBar (rule : Breakeven) : List PathBar → Option Int
  | [] => none
  | bar :: later =>
    let placed := call.resolved.stopLoss
    let level := rule.armsAt fill.entryPrice call.resolved.takeProfit
    if call.reachesStop bar placed || call.reachesTarget bar then none
    else if breakevenArmable spans bar.time &&
        ((call.crossStop bar fill.entryPrice placed).isSome ||
          rule.closeArms call.resolved.direction level bar.mid.c) then some bar.time
    else FillCall.armingBar rule later

def breakevenArmedAtResolved : Option Int :=
  call.signedBreakeven.bind fun rule =>
    (findFill calendar call).bind fun fill =>
      call.armingBar (call.widenedSpans calendar (barSecondsOf call.candles) fill) fill rule fill.rest

def FillCall.closesPast (rule : Breakeven) (bar : PathBar) : Bool :=
  rule.closeArms call.resolved.direction (rule.armsAt fill.entryPrice call.resolved.takeProfit) bar.mid.c

def FillCall.crosses (bar : PathBar) : Bool := (call.crossStop bar fill.entryPrice call.resolved.stopLoss).isSome

/-- The report takes the bar for one that arms break-even: by the rule as signed, whatever the floor says. -/
def FillCall.reportsOn (closing : Closing) : Bool :=
  breakevenArmable spans closing.bar.time &&
    call.signedBreakeven.any fun rule => call.crosses fill closing.bar || call.closesPast fill rule closing.bar

/-- The bar moves the placed stop: by the rule of the bracket, to a fill that is not noise. -/
def FillCall.movesOn (closing : Closing) : Bool :=
  breakevenArmable spans closing.bar.time &&
    (call.crosses fill closing.bar || call.breakeven.any fun rule =>
      call.closesPast fill rule closing.bar && decide (fill.entryPrice ≠ call.resolved.stopLoss) &&
        !breakevenIsNoise closing.window fill.entryPrice (atrLengthForBarMinutes (barLen / nanosPerMinute)))

/-- The position ends on the bar, with the placed stop under the widens. -/
def FillCall.endsWidened (closing : Closing) : Bool :=
  call.endsOn closing.bar (stopOnBar spans closing.bar.time call.resolved.stopLoss)

def FillCall.endsPlaced (closing : Closing) : Bool := call.endsOn closing.bar call.resolved.stopLoss

/-- Bar by bar: the first one that either rule arms on moves the stop and is reported. Before that, a bar that
reaches the placed stop under a widen that has moved it is followed by none that moves it. -/
def FillCall.reportsMoves : List Closing → Bool
  | [] => true
  | closing :: later =>
    if call.endsPlaced closing then
      silentUntil (call.endsWidened spans) (call.movesOn spans fill barLen) (closing :: later)
    else if call.endsWidened spans closing then
      silentUntil call.endsPlaced (call.reportsOn spans fill) (closing :: later)
    else if call.reportsOn spans fill closing || call.movesOn spans fill barLen closing then
      call.reportsOn spans fill closing && call.movesOn spans fill barLen closing
    else FillCall.reportsMoves later

end

section
variable {calendar : ReplayCalendar} {call : FillCall} {spans : List WidenedSpan} {fill : Fill} {barLen : Int}
  {bars : List PathBar} {past : List Candle}

theorem closings_time {closing : Closing} (member : closing ∈ closings past bars) :
    ∃ bar ∈ bars, closing.bar = bar := by
  induction bars generalizing past with
  | nil => cases member
  | cons bar later ih =>
    rcases List.mem_cons.mp member with rfl | listed
    · exact ⟨bar, List.mem_cons_self, rfl⟩
    · obtain ⟨found, known, same⟩ := ih listed
      exact ⟨found, List.mem_cons_of_mem _ known, same⟩

theorem movesOn_iff {closing : Closing} :
    call.movesOn spans fill barLen closing = true ↔
      call.armActiveStop spans fill barLen closing.window closing.bar call.resolved.stopLoss ≠
        call.resolved.stopLoss := by
  unfold FillCall.movesOn
  cases armable : breakevenArmable spans closing.bar.time with
  | false =>
    rw [armActiveStop_covered armable]
    exact iff_of_false Bool.false_ne_true fun moved => moved rfl
  | true =>
    unfold FillCall.armActiveStop FillCall.crosses FillCall.closesPast
    rw [armable]
    cases crosses : call.crossStop closing.bar fill.entryPrice call.resolved.stopLoss with
    | some newStop =>
      obtain ⟨rfl, off⟩ := crossStop_some crosses
      have moved : fill.entryPrice ≠ call.resolved.stopLoss := off.symm
      cases ruled : call.breakeven <;> simp [moved]
    | none =>
      cases ruled : call.breakeven with
      | none => simp
      | some rule =>
        cases closes : rule.closeArms call.resolved.direction
            (rule.armsAt fill.entryPrice call.resolved.takeProfit) closing.bar.mid.c with
        | false => simp [closes]
        | true =>
          cases noise : breakevenIsNoise closing.window fill.entryPrice
              (atrLengthForBarMinutes (barLen / nanosPerMinute)) <;> simp [closes, noise]

/-- The exit loop first moves the placed stop on the first bar that moves it, unless the position ends first. -/
theorem closedStops_find (past : List Candle) (bars : List PathBar) :
    ((call.closedStops spans fill barLen past call.resolved.stopLoss bars).find? fun stop =>
        stop.2 ≠ call.resolved.stopLoss).map (·.1) =
      (firstUnless (call.endsWidened spans) (call.movesOn spans fill barLen) (closings past bars)).map
        (·.bar.time) := by
  induction bars generalizing past with
  | nil => rfl
  | cons bar later ih =>
    have endsSame : call.endsOn bar (stopOnBar spans bar.time call.resolved.stopLoss) =
        call.endsWidened spans { window := past ++ [bar.mid], bar } := rfl
    rw [FillCall.closedStops, closings, firstUnless, endsSame]
    cases call.endsWidened spans { window := past ++ [bar.mid], bar } with
    | true => rfl
    | false =>
      rw [if_neg Bool.false_ne_true, if_neg Bool.false_ne_true]
      cases moves : call.movesOn spans fill barLen { window := past ++ [bar.mid], bar } with
      | true =>
        have moved := movesOn_iff.mp moves
        dsimp only at moved ⊢
        rw [List.find?_cons_of_pos (by simpa using moved)]
        rfl
      | false =>
        have same := not_not.mp (mt movesOn_iff.mpr (Bool.eq_false_iff.mp moves))
        dsimp only at same ⊢
        rw [same, List.find?_cons_of_neg (by simp), if_neg Bool.false_ne_true]
        exact ih (past ++ [bar.mid])

theorem armingBar_eq (rule : Breakeven) (signed : call.signedBreakeven = some rule) (past : List Candle)
    (bars : List PathBar) :
    call.armingBar spans fill rule bars =
      (firstUnless call.endsPlaced (call.reportsOn spans fill) (closings past bars)).map (·.bar.time) := by
  induction bars generalizing past with
  | nil => rfl
  | cons bar later ih =>
    have placed : (call.reachesStop bar call.resolved.stopLoss || call.reachesTarget bar) =
        call.endsPlaced { window := past ++ [bar.mid], bar } := rfl
    have reports : (breakevenArmable spans bar.time &&
        ((call.crossStop bar fill.entryPrice call.resolved.stopLoss).isSome ||
          rule.closeArms call.resolved.direction (rule.armsAt fill.entryPrice call.resolved.takeProfit) bar.mid.c)) =
        call.reportsOn spans fill { window := past ++ [bar.mid], bar } := by
      unfold FillCall.reportsOn
      rw [signed]
      rfl
    rw [FillCall.armingBar, closings, firstUnless, placed, reports, ih (past ++ [bar.mid])]
    cases call.endsPlaced { window := past ++ [bar.mid], bar } with
    | true => rfl
    | false => cases call.reportsOn spans fill { window := past ++ [bar.mid], bar } <;> rfl

theorem silent_unsigned (unsigned : call.signedBreakeven = none) (closings : List Closing) :
    firstUnless call.endsPlaced (call.reportsOn spans fill) closings = none := by
  have quiet : ∀ closing, call.reportsOn spans fill closing = false := by
    intro closing
    unfold FillCall.reportsOn
    rw [unsigned, Option.any_none, Bool.and_false]
  cases first : firstUnless call.endsPlaced (call.reportsOn spans fill) closings with
  | none => rfl
  | some found =>
    have hit := (firstUnless_mem first).2.2
    rw [quiet] at hit
    cases hit

/-- Over bars in order, the report names the bar that the simulated stop first moves on exactly if what it reports
is what moves. -/
theorem firstUnless_eq_iff (ascending : bars.Pairwise fun earlier later => earlier.time < later.time) :
    (firstUnless call.endsPlaced (call.reportsOn spans fill) (closings past bars)).map (·.bar.time) =
        (firstUnless (call.endsWidened spans) (call.movesOn spans fill barLen) (closings past bars)).map
          (·.bar.time) ↔
      call.reportsMoves spans fill barLen (closings past bars) = true := by
  induction bars generalizing past with
  | nil => exact iff_of_true rfl rfl
  | cons bar later ih =>
    have onward := List.pairwise_cons.mp ascending
    have after : ∀ closing ∈ closings (past ++ [bar.mid]) later, bar.time < closing.bar.time := by
      intro closing member
      obtain ⟨found, listed, same⟩ := closings_time member
      rw [same]
      exact onward.1 found listed
    rw [closings, FillCall.reportsMoves]
    cases placed : call.endsPlaced { window := past ++ [bar.mid], bar } with
    | true =>
      rw [if_pos rfl, ← firstUnless_eq_none, firstUnless, placed, if_pos rfl, Option.map_none, eq_comm,
        Option.map_eq_none_iff]
    | false =>
      rw [if_neg Bool.false_ne_true]
      cases widened : call.endsWidened spans { window := past ++ [bar.mid], bar } with
      | true =>
        rw [if_pos rfl, ← firstUnless_eq_none]
        rw [firstUnless.eq_2 (call.endsWidened spans), widened, if_pos rfl, Option.map_none, Option.map_eq_none_iff]
      | false =>
        rw [if_neg Bool.false_ne_true, firstUnless, firstUnless, placed, widened, if_neg Bool.false_ne_true,
          if_neg Bool.false_ne_true]
        cases reports : call.reportsOn spans fill { window := past ++ [bar.mid], bar } <;>
          cases moves : call.movesOn spans fill barLen { window := past ++ [bar.mid], bar }
        · exact ih onward.2
        · exact iff_of_false (firstUnless_key_ne after) Bool.false_ne_true
        · exact iff_of_false (fun same => firstUnless_key_ne after same.symm) Bool.false_ne_true
        · exact iff_of_true rfl rfl

/-- The bar of the journal's break-even line is the one on which the simulated stop first moves, exactly if the
report takes for an arming what moves the stop. -/
theorem breakevenArmedAtResolved_iff
    (ascending : call.candles.Pairwise fun earlier later => earlier.time < later.time) :
    breakevenArmedAtResolved calendar call = call.movedAt calendar ↔
      ∀ fill ∈ findFill calendar call,
        call.reportsMoves (call.widenedSpans calendar (barSecondsOf call.candles) fill) fill
          (inferBarLen fill.rest) (closings [] fill.rest) = true := by
  unfold breakevenArmedAtResolved FillCall.movedAt
  cases found : findFill calendar call with
  | none =>
    refine iff_of_true ?_ nofun
    cases call.signedBreakeven <;> rfl
  | some fill =>
    have ascending' : fill.rest.Pairwise fun earlier later => earlier.time < later.time :=
      ascending.sublist (fillWith_suffix found).sublist
    simp only [Option.mem_some_iff, forall_eq']
    rw [Option.bind_some, closedStops_find, ← firstUnless_eq_iff ascending']
    cases signed : call.signedBreakeven with
    | none => rw [Option.bind_none, silent_unsigned signed, Option.map_none]
    | some rule => rw [Option.bind_some, Option.bind_some, armingBar_eq rule signed]

end

theorem breakevenArmedAtResolved_aloft :
    breakevenArmedAtResolved lateCalendar aloftLong = aloftLong.movedAt lateCalendar ∧
      aloftLong.movedAt lateCalendar = some (seconds (18 * 3600)) := by
  refine ⟨(breakevenArmedAtResolved_iff (by decide +kernel)).mpr fun fill found => ?_, by decide +kernel⟩
  cases found
  decide +kernel

/-- A long whose stop is widened at nine, dips past its placed stop at ten, and is most of the way to its target at
eleven. -/
def dippedLong : FillCall :=
  { aloftLong with
    shellTime := seconds (21 * 3600)
    candles := [flatBar (21 * 3600) 6, { flatBar (22 * 3600) 6 with bidL := 45 }, aloftBar (23 * 3600) 3] }

/-- The report names a bar whose move the simulator refuses as noise, and leaves out one that moves the stop after
the widened stop has outlived a dip past the placed one. -/
theorem breakevenArmedAtResolved_drifts :
    breakevenArmedAtResolved edgeCalendar swingingLong = some (seconds (23 * 3600)) ∧
      swingingLong.movedAt edgeCalendar = none ∧
      breakevenArmedAtResolved lateCalendar dippedLong = none ∧
      dippedLong.movedAt lateCalendar = some (seconds (23 * 3600)) := by
  refine ⟨?_, ?_, ?_, ?_⟩ <;> decide +kernel

end TradeControl
