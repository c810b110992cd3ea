import TradeControl.EvaluatePlan
import TradeControl.Foundation.GuardedReach
import TradeControl.RuleMemory

namespace TradeControl

/-- A price lies on the side of the line that a cross in this direction comes from. -/
def CrossDir.near (dir : CrossDir) (level price : Rat) : Bool :=
  match dir with
  | .up => decide (price < level)
  | .down => decide (level < price)
  | .either => false

/-- A close lies at or past the far edge of the zone about the line. -/
def CrossDir.past (dir : CrossDir) (level depth close : Rat) : Bool :=
  match dir with
  | .up => decide (level + depth ≤ close)
  | .down => decide (close ≤ level - depth)
  | .either => false

/-- Of two prices the one deeper on the near side. -/
def CrossDir.nearer (dir : CrossDir) (price price' : Rat) : Rat :=
  match dir with
  | .up => min price price'
  | .down => max price price'
  | .either => price

theorem CrossDir.near_nearer (dir : CrossDir) (level price price' : Rat) :
    dir.near level (dir.nearer price price') = (dir.near level price || dir.near level price') := by
  cases dir with
  | up => simp only [near, nearer, min_lt_iff, Bool.decide_or]
  | down => simp only [near, nearer, lt_max_iff, Bool.decide_or]
  | either => rfl

/-- A close past the far edge is not on the near side. -/
theorem CrossDir.not_near_of_past {dir : CrossDir} {level depth close : Rat} (deep : 0 ≤ depth)
    (past : dir.past level depth close = true) : dir.near level close = false := by
  cases dir with
  | up =>
    simp only [CrossDir.past, decide_eq_true_eq] at past
    simp only [near, decide_eq_false_iff_not, not_lt]
    exact (le_add_of_nonneg_right deep).trans past
  | down =>
    simp only [CrossDir.past, decide_eq_true_eq] at past
    simp only [near, decide_eq_false_iff_not, not_lt]
    exact past.trans (sub_le_self level deep)
  | either => rfl

theorem reseatedOrigin_eq (dir : CrossDir) (level origin : Rat) (candle : Candle) :
    reseatedOrigin dir level origin candle =
      if dir.near level origin = false ∧ (dir.near level candle.o || dir.near level candle.c) = true then
        some (dir.nearer candle.o candle.c)
      else none := by
  cases dir with
  | up => simp [reseatedOrigin, CrossDir.near, CrossDir.nearer]
  | down => simp [reseatedOrigin, CrossDir.near, CrossDir.nearer]
  | either => simp [reseatedOrigin, CrossDir.near]

/-- A settled close crosses the line when its origin is near and the close is past the zone. -/
theorem levelCrossed_settled (level : Rat) (dir : CrossDir) (candle : Candle) (origin : Rat)
    (prevClose : Option Rat) (buffer : CrossBuffer) (directed : dir ≠ .either) :
    levelCrossed level dir .onClose candle { origin := some origin, prevClose, settled := true } buffer =
      (dir.near level origin && dir.past level (buffer.depthAt level) candle.c) := by
  cases dir with
  | up => simp [levelCrossed, CrossDir.picks, CrossDir.near, CrossDir.past]
  | down => simp [levelCrossed, CrossDir.picks, CrossDir.near, CrossDir.past]
  | either => exact absurd rfl directed

/-- A cross that is judged on the close is a cross of its line's price on the bar. -/
theorem evalTrigger_onClose {trigger : Trigger} {dir : CrossDir} (directional : trigger.onCloseDir = some dir)
    (candle : Candle) (refs : OnCloseRefs) (window : List Candle) (buffer : CrossBuffer) :
    evalTrigger trigger candle refs window buffer =
      (oncloseLevelAt trigger candle window).any fun level =>
        levelCrossed level dir .onClose candle refs buffer := by
  unfold Trigger.onCloseDir at directional
  split at directional
  · cases directional
    rfl
  · cases directional
    rfl
  · cases directional
    rfl
  · cases directional

theorem onCloseDir_usesClose {trigger : Trigger} {dir : CrossDir}
    (directional : trigger.onCloseDir = some dir) : triggerUsesClose trigger = true := by
  simp [triggerUsesClose, directional]

/-- A reference price with the side of the line it was on, on its own bar. -/
structure Seat where
  price : Rat
  near : Bool
  deriving DecidableEq

/-- The seat a price takes on a bar; where the line has no price it is on no side. -/
def Seat.take (dir : CrossDir) (line : Option Rat) (price : Rat) : Seat :=
  { price, near := line.any fun level => dir.near level price }

/-- A rule without an origin takes the bar's open for it. -/
def Seat.opened (dir : CrossDir) (line : Option Rat) (candle : Candle) (seat : Option Seat) : Seat :=
  seat.getD (.take dir line candle.o)

/-- An origin on the far side gives way to an open or close of the bar on the near side. -/
def Seat.reseated (seat : Seat) (dir : CrossDir) (line : Option Rat) (candle : Candle) : Seat :=
  match line with
  | none => seat
  | some level =>
    if dir.near level seat.price = false ∧ (dir.near level candle.o || dir.near level candle.c) = true then
      { price := dir.nearer candle.o candle.c, near := true }
    else seat

variable {seat : Seat} {dir : CrossDir} {level : Rat} {candle : Candle}

/-- Where a bar finds a far origin far, the seat it leaves was near or the bar opens or closes near. -/
theorem Seat.reseated_near
    (dips : dir.near level candle.o = true ∨ dir.near level candle.c = true →
      seat.near = false → dir.near level seat.price = false) :
    (seat.reseated dir (some level) candle).near = true ↔
      seat.near = true ∨ dir.near level candle.o = true ∨ dir.near level candle.c = true := by
  unfold Seat.reseated
  dsimp only
  by_cases moved : dir.near level seat.price = false ∧
      (dir.near level candle.o || dir.near level candle.c) = true
  · rw [if_pos moved]
    exact ⟨fun _ => .inr (Bool.or_eq_true_iff.mp moved.2), fun _ => rfl⟩
  · rw [if_neg moved]
    refine ⟨.inl, ?_⟩
    rintro (near | dipped)
    · exact near
    · by_contra far
      exact moved ⟨dips dipped (by simpa using far), Bool.or_eq_true_iff.mpr dipped⟩

theorem Seat.reseated_kept (kept : dir.near level seat.price = seat.near) :
    dir.near level (seat.reseated dir (some level) candle).price =
      (seat.reseated dir (some level) candle).near := by
  unfold Seat.reseated
  dsimp only
  by_cases moved : dir.near level seat.price = false ∧
      (dir.near level candle.o || dir.near level candle.c) = true
  · rw [if_pos moved]
    exact (dir.near_nearer ..).trans moved.2
  · rw [if_neg moved]
    exact kept

/-- On a bar that does not close near, the origin it leaves is near if the one it found is or it opens near. -/
theorem Seat.reseated_price_near (closes : dir.near level candle.c = false) :
    dir.near level (seat.reseated dir (some level) candle).price = true ↔
      dir.near level seat.price = true ∨ dir.near level candle.o = true := by
  unfold Seat.reseated
  dsimp only
  by_cases moved : dir.near level seat.price = false ∧
      (dir.near level candle.o || dir.near level candle.c) = true
  · rw [if_pos moved, CrossDir.near_nearer]
    simp only [moved.1, closes, Bool.or_false, Bool.false_eq_true, false_or]
  · rw [if_neg moved]
    refine ⟨.inl, ?_⟩
    rintro (near | opens)
    · exact near
    · by_contra far
      exact moved ⟨by simpa using far, by rw [opens, Bool.true_or]⟩

variable {rule : ConditionRule}

/-- What a rule remembers over a bar is its seat's price. -/
theorem reseated_originOpen (directional : rule.trigger.onCloseDir = some dir) (settled : isEnter rule = false)
    (candle : Candle) (window : List Candle) (memory : RuleMemory) {seat : Option Seat}
    (remembers : memory.originOpen = seat.map (·.price)) :
    ((memory.opened rule candle).reseated rule candle window).originOpen =
      some ((Seat.opened dir (oncloseLevelAt rule.trigger candle window) candle seat).reseated dir
        (oncloseLevelAt rule.trigger candle window) candle).price := by
  have origin : (memory.opened rule candle).originOpen =
      some (Seat.opened dir (oncloseLevelAt rule.trigger candle window) candle seat).price := by
    unfold RuleMemory.opened
    cases seat with
    | none => simp [remembers, onCloseDir_usesClose directional, Seat.opened, Seat.take]
    | some seat => simp [remembers, Seat.opened]
  unfold RuleMemory.reseated RuleMemory.dippedOrigin
  simp only [settled, directional, origin, Bool.false_eq_true, ↓reduceIte, Option.bind_eq_bind,
    Option.bind_some]
  cases line : oncloseLevelAt rule.trigger candle window with
  | none => exact origin.trans (by rw [line]; rfl)
  | some level =>
    rw [line] at origin
    simp only [Option.bind_some, reseatedOrigin_eq, Seat.reseated]
    by_cases dips : dir.near level (Seat.opened dir (some level) candle seat).price = false ∧
        (dir.near level candle.o || dir.near level candle.c) = true
    · rw [if_pos dips, if_pos dips]
    · rw [if_neg dips, if_neg dips]
      exact origin

end TradeControl

namespace TradeControl

open Foundation

/-- A bar a rule is evaluated on, with the window its line is drawn in and the zone about it. -/
structure EvaluatedBar where
  candle : Candle
  window : List Candle
  buffer : CrossBuffer

variable (env : EngineEnv) (rule : ConditionRule) (granularity : Granularity) (dir : CrossDir)

def EvaluatedBar.line (bar : EvaluatedBar) : Option Rat := oncloseLevelAt rule.trigger bar.candle bar.window

/-- One evaluation of the rule: whether it hits, and the state after it. -/
def EvaluatedBar.fire (bar : EvaluatedBar) (state : PlanState) : Bool × PlanState :=
  fireRule env rule state bar.candle bar.window bar.buffer granularity

/-- The state after the rule has been evaluated on some bars. -/
def fireBars (state : PlanState) (bars : List EvaluatedBar) : PlanState :=
  bars.foldl (fun state bar => (bar.fire env rule granularity state).2) state

/-- The seat of the origin after a bar. -/
def EvaluatedBar.seat (bar : EvaluatedBar) (seat : Option Seat) : Option Seat :=
  some ((Seat.opened dir (bar.line rule) bar.candle seat).reseated dir (bar.line rule) bar.candle)

/-- A bar that opens or closes near the line finds an origin taken on the far side still there. -/
def DipsFar (seat : Option Seat) (bar : EvaluatedBar) : Prop :=
  ∀ level, bar.line rule = some level →
    dir.near level bar.candle.o = true ∨ dir.near level bar.candle.c = true →
    (Seat.opened dir (bar.line rule) bar.candle seat).near = false →
    dir.near level (Seat.opened dir (bar.line rule) bar.candle seat).price = false

/-- A bar that closes past the zone, and does not open near, finds the origin on the side of the line it was
on on its own bar. -/
def SideKept (seat : Option Seat) (bar : EvaluatedBar) : Prop :=
  ∀ level, bar.line rule = some level → dir.past level (bar.buffer.depthAt level) bar.candle.c = true →
    dir.near level bar.candle.o = false →
    dir.near level (Seat.opened dir (bar.line rule) bar.candle seat).price =
      (Seat.opened dir (bar.line rule) bar.candle seat).near

/-- The seat of an origin that was recorded before the first evaluation, on the arming bar. -/
def armedSeat (armed : Option EvaluatedBar) : Option Seat :=
  armed.map fun bar => .take dir (bar.line rule) bar.candle.o

/-- A bar whose open or close is on the near side of its own line. -/
def EvaluatedBar.Near (bar : EvaluatedBar) : Prop :=
  ∃ level, bar.line rule = some level ∧
    (dir.near level bar.candle.o = true ∨ dir.near level bar.candle.c = true)

/-- Some reference before a bar was on the near side of the line on its own bar: the open the rule was
armed on, or the open or close of a bar it was evaluated on. -/
def NearBefore (armed : Option EvaluatedBar) (before : List EvaluatedBar) : Prop :=
  (∃ bar level, armed = some bar ∧ bar.line rule = some level ∧ dir.near level bar.candle.o = true) ∨
    ∃ bar ∈ before, bar.Near rule dir

/-- The operator's contract for one bar of a run. -/
def MeetsContract (state : PlanState) (armed : Option EvaluatedBar) (before : List EvaluatedBar)
    (bar : EvaluatedBar) : Prop :=
  (bar.fire env rule granularity (fireBars env rule granularity state before)).1 = true ↔
    ∃ level, bar.line rule = some level ∧
      dir.past level (bar.buffer.depthAt level) bar.candle.c = true ∧
      (NearBefore rule dir armed before ∨ dir.near level bar.candle.o = true)

variable {env rule granularity dir}

/-- The rule's memory after a bar holds the price of the origin's seat. -/
theorem fire_originOpen (directional : rule.trigger.onCloseDir = some dir) (settled : isEnter rule = false)
    (bar : EvaluatedBar) {state : PlanState} {seat : Option Seat}
    (remembers : state.originOpen rule.ruleId = seat.map (·.price)) :
    (bar.fire env rule granularity state).2.originOpen rule.ruleId = (bar.seat rule dir seat).map (·.price) := by
  have seated := reseated_originOpen directional settled bar.candle bar.window
    (state.memory rule.ruleId) remembers
  rw [EvaluatedBar.fire, fireRule_eq]
  simp only [PlanState.remember, Function.update_self]
  unfold RuleMemory.fireRule RuleMemory.closed
  dsimp only
  split
  · exact seated
  · exact seated

theorem fireBars_originOpen (directional : rule.trigger.onCloseDir = some dir) (settled : isEnter rule = false)
    (bars : List EvaluatedBar) {state : PlanState} {seat : Option Seat}
    (remembers : state.originOpen rule.ruleId = seat.map (·.price)) :
    (fireBars env rule granularity state bars).originOpen rule.ruleId =
      (bars.foldl (fun seat bar => bar.seat rule dir seat) seat).map (·.price) := by
  induction bars generalizing state seat with
  | nil => exact remembers
  | cons bar rest ih => exact ih (fire_originOpen directional settled bar remembers)

/-- A bar hits when the origin it leaves is near its line and it closes past the zone. -/
theorem fire_hit (directional : rule.trigger.onCloseDir = some dir) (directed : dir ≠ .either)
    (settled : isEnter rule = false) (bar : EvaluatedBar) {state : PlanState} {seat : Option Seat}
    (remembers : state.originOpen rule.ruleId = seat.map (·.price)) :
    (bar.fire env rule granularity state).1 = true ↔ ∃ level, bar.line rule = some level ∧
      dir.past level (bar.buffer.depthAt level) bar.candle.c = true ∧
      dir.near level ((Seat.opened dir (bar.line rule) bar.candle seat).reseated dir (bar.line rule)
        bar.candle).price = true := by
  have seated := reseated_originOpen directional settled bar.candle bar.window
    (state.memory rule.ruleId) remembers
  have close : rule.trigger.isWickCross = false := by
    simp [Trigger.isWickCross, onCloseDir_usesClose directional]
  rw [EvaluatedBar.fire, fireRule_eq]
  unfold RuleMemory.fireRule
  simp only [close, Bool.false_and, Bool.not_false, Bool.and_true, settled, evalTrigger_onClose directional,
    seated, levelCrossed_settled _ _ _ _ _ _ directed]
  rw [Option.any_eq_true]
  simp only [Bool.and_eq_true, EvaluatedBar.line, and_comm]

end TradeControl

namespace TradeControl

open Foundation

variable {env : EngineEnv} {rule : ConditionRule} {granularity : Granularity} {dir : CrossDir}

/-- The origin a bar leaves was near on its own bar if it was before or the bar is near. -/
theorem DipsFar.near {bar : EvaluatedBar} {seat : Option Seat} (dips : DipsFar rule dir seat bar) :
    (bar.seat rule dir seat).any (·.near) = true ↔
      (Seat.opened dir (bar.line rule) bar.candle seat).near = true ∨ bar.Near rule dir := by
  unfold EvaluatedBar.seat EvaluatedBar.Near
  cases line : bar.line rule with
  | none => simp [Seat.reseated]
  | some level =>
    have far := dips level line
    rw [line] at far
    simp only [Option.any_some, Seat.reseated_near far, Option.some.injEq, exists_eq_left']

theorem opened_near_open {bar : EvaluatedBar} {seat : Option Seat} {level : Rat}
    (line : bar.line rule = some level) :
    (Seat.opened dir (bar.line rule) bar.candle seat).near = true ∨ dir.near level bar.candle.o = true ↔
      seat.any (·.near) = true ∨ dir.near level bar.candle.o = true := by
  cases seat with
  | some seat => rfl
  | none => simp [Seat.opened, Seat.take, line]

/-- A bar's own open, taken for the origin, is near only if the bar is. -/
theorem opened_near {bar : EvaluatedBar} {seat : Option Seat} :
    (Seat.opened dir (bar.line rule) bar.candle seat).near = true ∨ bar.Near rule dir ↔
      seat.any (·.near) = true ∨ bar.Near rule dir := by
  cases seat with
  | some seat => rfl
  | none =>
    simp only [Seat.opened, Option.getD_none, Seat.take, Option.any_eq_true, Option.any_none,
      Bool.false_eq_true, false_or, or_iff_right_iff_imp]
    rintro ⟨level, line, near⟩
    exact ⟨level, line, .inl near⟩

/-- Along a run whose dips find far origins far, the origin's seat is near once some reference was. -/
theorem seats_near {bars : List EvaluatedBar} {seat : Option Seat}
    (dips : Along (fun seat bar => bar.seat rule dir seat) (DipsFar rule dir) seat bars) :
    (bars.foldl (fun seat bar => bar.seat rule dir seat) seat).any (·.near) = true ↔
      seat.any (·.near) = true ∨ ∃ bar ∈ bars, bar.Near rule dir := by
  induction bars generalizing seat with
  | nil => simp only [List.foldl_nil, List.not_mem_nil, false_and, exists_false, or_false]
  | cons bar rest ih =>
    rw [List.foldl_cons, ih dips.2, dips.1.near, opened_near, List.exists_mem_cons_iff, or_assoc]

theorem armedSeat_near {armed : Option EvaluatedBar} :
    (armedSeat rule dir armed).any (·.near) = true ↔
      ∃ bar level, armed = some bar ∧ bar.line rule = some level ∧ dir.near level bar.candle.o = true := by
  cases armed with
  | none => simp [armedSeat]
  | some bar => simp [armedSeat, Seat.take, Option.any_eq_true]

/-- After bars whose dips find far origins far, a bar meets the operator's contract exactly when it finds
the origin on the side it was on on its own bar. -/
theorem meetsContract_iff (directional : rule.trigger.onCloseDir = some dir) (directed : dir ≠ .either)
    (settled : isEnter rule = false) {state : PlanState} {armed : Option EvaluatedBar}
    (first : state.originOpen rule.ruleId = armed.map (·.candle.o)) {before : List EvaluatedBar}
    {bar : EvaluatedBar} (deep : ∀ level, bar.line rule = some level → 0 ≤ bar.buffer.depthAt level)
    (dips : Along (fun seat bar => bar.seat rule dir seat) (DipsFar rule dir) (armedSeat rule dir armed)
      before) :
    MeetsContract env rule granularity dir state armed before bar ↔
      SideKept rule dir (before.foldl (fun seat bar => bar.seat rule dir seat) (armedSeat rule dir armed)) bar := by
  have seated : state.originOpen rule.ruleId = (armedSeat rule dir armed).map (·.price) := by
    rw [first]
    cases armed with
    | none => rfl
    | some bar => rfl
  have known := (seats_near dips).trans (or_congr_left armedSeat_near)
  have remembers : (fireBars env rule granularity state before).originOpen rule.ruleId = _ :=
    fireBars_originOpen directional settled before seated
  rw [MeetsContract, fire_hit directional directed settled bar remembers]
  generalize before.foldl (fun seat bar => bar.seat rule dir seat) (armedSeat rule dir armed) = seat at known ⊢
  unfold SideKept
  cases line : bar.line rule with
  | none => simp
  | some level =>
    have opened : (Seat.opened dir (bar.line rule) bar.candle seat).near = true ∨ _ ↔ _ ∨ _ :=
      opened_near_open line
    rw [line, known] at opened
    change _ ↔ NearBefore rule dir armed before ∨ dir.near level bar.candle.o = true at opened
    simp only [Option.some.injEq, exists_eq_left', forall_eq']
    by_cases past : dir.past level (bar.buffer.depthAt level) bar.candle.c = true
    · have closes := CrossDir.not_near_of_past (deep level line) past
      rw [Seat.reseated_price_near closes, ← opened]
      cases opens : dir.near level bar.candle.o with
      | true => simp
      | false => simp [past]
    · simp [past]

/-- An origin, if there is one, is on the side of a horizontal line it was taken on. -/
def OnOwnSide (dir : CrossDir) (level : Rat) (seat : Option Seat) : Prop :=
  ∀ held ∈ seat, dir.near level held.price = held.near

theorem OnOwnSide.opened {level : Rat} {seat : Option Seat} (own : OnOwnSide dir level seat) (candle : Candle) :
    dir.near level (Seat.opened dir (some level) candle seat).price =
      (Seat.opened dir (some level) candle seat).near := by
  cases seat with
  | none => rfl
  | some held => exact own held rfl

/-- A horizontal line has every origin on the side it was taken on. -/
theorem horizontal_kept {level : Rat} (flat : ∀ bar : EvaluatedBar, bar.line rule = some level)
    {seat : Option Seat} (own : OnOwnSide dir level seat) (before : List EvaluatedBar) (bar : EvaluatedBar) :
    Along (fun seat bar => bar.seat rule dir seat) (DipsFar rule dir) seat before ∧
      SideKept rule dir (before.foldl (fun seat bar => bar.seat rule dir seat) seat) bar := by
  induction before generalizing seat with
  | nil =>
    refine ⟨trivial, fun level' line _ _ => ?_⟩
    cases (flat bar).symm.trans line
    rw [flat bar]
    exact own.opened bar.candle
  | cons first rest ih =>
    have own' : OnOwnSide dir level (first.seat rule dir seat) := by
      intro held same
      unfold EvaluatedBar.seat at same
      rw [flat first] at same
      cases same
      exact Seat.reseated_kept (own.opened first.candle)
    obtain ⟨later, here⟩ := ih own'
    refine ⟨⟨fun level' line _ far => ?_, later⟩, here⟩
    cases (flat first).symm.trans line
    rw [flat first] at far ⊢
    rw [own.opened first.candle, far]

theorem armedSeat_onOwnSide {level : Rat} (flat : ∀ bar : EvaluatedBar, bar.line rule = some level)
    (armed : Option EvaluatedBar) : OnOwnSide dir level (armedSeat rule dir armed) := by
  intro held same
  obtain ⟨bar, -, rfl⟩ := Option.map_eq_some_iff.mp same
  simp only [Seat.take, flat bar, Option.any_some]

/-- A break upward through a line that rises two an hour. -/
def risingBreak : ConditionRule where
  ruleId := "break"
  trigger := .trendlineCross { atEpoch := 0, price := 9 } { atEpoch := 3600, price := 11 } true 3600 .up .onClose
  intent :=
    { id := "plan-1", notAfter := seconds 72000, action := .prep, instrument := "INDEX" }
  kind := .prepBreakAndClose

/-- Two hourly bars that open and close above the line each at its own time. -/
def aboveBars : List Candle :=
  [{ time := 0, o := 10, h := 11, l := 10, c := 21 / 2 },
    { time := seconds 3600, o := 23 / 2, h := 12, l := 11, c := 12 }]

def aboveBar (count : Nat) : EvaluatedBar where
  candle := aboveBars.getD count { time := 0, o := 0, h := 0, l := 0, c := 0 }
  window := aboveBars.take (count + 1)
  buffer := { pct := 0, atrAbs := 0 }

end TradeControl
