import TradeControl.PlanOnce

namespace TradeControl

open Foundation Relation

/-- A control rule on the clock, and nothing but a control. -/
def isTimedControl (rule : ConditionRule) : Bool :=
  isControlRule rule && !isEnter rule &&
    match rule.trigger with
    | .timeReached _ => true
    | _ => false

def timedControls (plan : TradePlan) : List ConditionRule := plan.rules.filter isTimedControl

/-- What the control rules on the clock have fired. -/
def timedFires (plan : TradePlan) (fired : List FiredIntent) : List FiredIntent :=
  fired.filter fun fire => fire.ruleId ∈ (timedControls plan).map (·.ruleId)

/-- The control rules on the clock, and the news windows, see nothing of the change. -/
structure ControlsKept (plan : TradePlan) (before after : PlanTurn) : Prop where
  latched : ∀ rule ∈ timedControls plan,
    rule.ruleId ∈ after.state.fired ↔ rule.ruleId ∈ before.state.fired
  fires : timedFires plan after.fired = timedFires plan before.fired
  windows : after.state.openNewsWindows = before.state.openNewsWindows

section
variable {plan : TradePlan} {candle : Candle} {started : Phase}

theorem ControlsKept.refl (turn : PlanTurn) : ControlsKept plan turn turn :=
  ⟨fun _ _ => Iff.rfl, rfl, rfl⟩

theorem ControlsKept.trans {first second third : PlanTurn} (one : ControlsKept plan first second)
    (two : ControlsKept plan second third) : ControlsKept plan first third :=
  ⟨fun rule member => (two.latched rule member).trans (one.latched rule member),
    two.fires.trans one.fires, two.windows.trans one.windows⟩

/-- A change of the state that neither latches nor touches the news windows. -/
theorem ControlsKept.silent {before after : PlanTurn} (latches : after.state.fired = before.state.fired)
    (fired : after.fired = before.fired)
    (windows : after.state.openNewsWindows = before.state.openNewsWindows) :
    ControlsKept plan before after :=
  ⟨fun rule _ => by rw [latches], by rw [fired], windows⟩

theorem timedControls_ne (ids : plan.DistinctIds) {rule timed : ConditionRule}
    (member : rule ∈ plan.rules) (notTimed : isTimedControl rule = false)
    (listed : timed ∈ timedControls plan) : timed.ruleId ≠ rule.ruleId := by
  obtain ⟨member', isTimed⟩ := List.mem_filter.mp listed
  intro same
  rw [ids.rule_eq member' member same, notTimed] at isTimed
  cases isTimed

/-- What fires under other ids is not among the timed controls' fires. -/
theorem timedFires_append (plan : TradePlan) (fired news : List FiredIntent)
    (other : ∀ fire ∈ news, ∀ timed ∈ timedControls plan, fire.ruleId ≠ timed.ruleId) :
    timedFires plan (fired ++ news) = timedFires plan fired := by
  have none : timedFires plan news = [] := by
    refine List.filter_eq_nil_iff.mpr fun fire listed named => ?_
    obtain ⟨timed, member, same⟩ := List.mem_map.mp (of_decide_eq_true named)
    exact other fire listed timed member same.symm
  unfold timedFires at none ⊢
  rw [List.filter_append, none, List.append_nil]

/-- A rule that is no timed control may fire and latch. -/
theorem ControlsKept.pushed (ids : plan.DistinctIds) {before : PlanTurn} {state : PlanState}
    {rule : ConditionRule} (candle : Candle) (signal : Option LatchedSignal)
    (member : rule ∈ plan.rules) (notTimed : isTimedControl rule = false)
    (latches : state.fired = before.state.fired ∨ state.fired = insert rule.ruleId before.state.fired)
    (windows : state.openNewsWindows = before.state.openNewsWindows) :
    ControlsKept plan before ({ before with state }.pushFire rule candle signal) where
  latched := fun timed listed => by
    have differ := timedControls_ne ids member notTimed listed
    rcases latches with same | latched
    · simp [PlanTurn.pushFire, same]
    · simp [PlanTurn.pushFire, latched, differ]
  fires := by
    refine timedFires_append plan before.fired _ fun fire listed timed named => ?_
    obtain rfl := List.mem_singleton.mp listed
    exact (timedControls_ne ids member notTimed named).symm
  windows := windows

theorem isTimedControl_of_kind {rule : ConditionRule} {kind : RuleKind}
    (role : resolvedKind rule = kind) (other : kind ≠ .control) : isTimedControl rule = false := by
  simp [isTimedControl, isControlRule, role, other]

theorem isTimedControl_of_guard {rule : ConditionRule} (guard : isGuard rule = true) :
    isTimedControl rule = false := by
  have role : resolvedKind rule = .setupInvalidation ∨ resolvedKind rule = .perPositionClose := by
    simpa [isGuard] using guard
  rcases role with role | role
  · exact isTimedControl_of_kind role (by decide)
  · exact isTimedControl_of_kind role (by decide)

theorem isTimedControl_of_pullback {rule : ConditionRule} (pullback : isPullback rule = true) :
    isTimedControl rule = false := by
  unfold isPullback at pullback
  split at pullback
  next pattern => simp [isTimedControl, pattern]
  next => cases pullback

theorem isTimedControl_of_enter {rule : ConditionRule} (enter : isEnter rule = true) :
    isTimedControl rule = false := by
  simp [isTimedControl, enter]

theorem PlanState.afterEntry_latches (state : PlanState) (rule : ConditionRule)
    (signal : Option LatchedSignal) :
    ((state.afterEntry plan rule signal).fired = state.fired ∨
      (state.afterEntry plan rule signal).fired = insert rule.ruleId state.fired) ∧
    (state.afterEntry plan rule signal).openNewsWindows = state.openNewsWindows := by
  have latched : ∀ first : PlanState, first.fired = state.fired →
      first.openNewsWindows = state.openNewsWindows → ∀ last : PlanState,
      last = (if rule.fireMode = .once ∧ !isMultiShot rule then
        { first with
          fired := insert rule.ruleId first.fired
          phase :=
            if !plan.hasMaVeto ∧ !plan.entryConditions.requireMaAlignment then .done else first.phase }
      else first) →
      (last.fired = state.fired ∨ last.fired = insert rule.ruleId state.fired) ∧
        last.openNewsWindows = state.openNewsWindows := by
    rintro first fired windows last rfl
    split
    · exact ⟨.inr (by rw [fired]), windows⟩
    · exact ⟨.inl fired, windows⟩
  unfold afterEntry
  dsimp only
  cases signal with
  | none => exact latched state rfl rfl _ rfl
  | some sig =>
    refine latched _ ?_ ?_ _ rfl
    · dsimp only
      split
      · rfl
      · rfl
    · dsimp only
      split
      · rfl
      · rfl

theorem SpineMove.controlsKept (ids : plan.DistinctIds) {before after : PlanTurn}
    (move : SpineMove plan candle started before after) : ControlsKept plan before after := by
  cases move with
  | remembered memory =>
    obtain ⟨origin, close, rfl⟩ := memory
    exact .silent rfl rfl rfl
  | prepared => exact .silent rfl rfl rfl
  | unbroken => exact .silent rfl rfl rfl
  | broke watching found =>
    have breaks := List.find?_some found
    have notTimed := isTimedControl_of_kind (by simpa [isBreakAndClose] using breaks) (by decide)
    exact .pushed ids candle none (List.mem_of_find?_eq_some found) notTimed (.inr rfl) rfl
  | retested found =>
    have retest := List.find?_some found
    have notTimed := isTimedControl_of_kind (by simpa [isRetest] using retest) (by decide)
    exact .pushed ids candle none (List.mem_of_find?_eq_some found) notTimed (.inl rfl) rfl
  | pulledBack found =>
    have notTimed := isTimedControl_of_pullback (List.find?_some found)
    exact .pushed ids candle none (List.mem_of_find?_eq_some found) notTimed (.inl rfl) rfl
  | declined => exact .silent rfl rfl rfl
  | @entered rule signal watching named found =>
    have member := List.mem_of_find?_eq_some found
    have notTimed := isTimedControl_of_enter (ids.enter_of_named named member)
    obtain ⟨latches, windows⟩ := before.state.afterEntry_latches rule signal
    exact .pushed ids candle signal member notTimed latches windows

theorem SpineMoves.controlsKept (ids : plan.DistinctIds) {before after : PlanTurn}
    (moves : ReflTransGen (SpineMove plan candle started) before after) :
    ControlsKept plan before after :=
  moves_within (ControlsKept plan) .refl (fun one two => one.trans two)
    (fun _ _ move => move.controlsKept ids) moves

end

section
variable (env : EngineEnv) {plan : TradePlan} (candle : Candle) (window : List Candle)
  (cfg : DetectorConfig) (now : Int)

theorem evaluateGuard_controlsKept (ids : plan.DistinctIds) {rule : ConditionRule}
    (member : rule ∈ plan.rules) (scan : GuardScan) :
    ControlsKept plan scan.turn (evaluateGuard env plan candle window cfg scan rule).turn := by
  unfold evaluateGuard
  split
  · exact .refl scan.turn
  next eligible =>
    have guard : isGuard rule = true := by
      by_contra notGuard
      exact eligible (.inl (by simpa using notGuard))
    split
    · exact .refl scan.turn
    dsimp only
    obtain ⟨origin, close, same⟩ :=
      guardSignal_remembers env plan candle window cfg rule scan.turn.state
    rw [same]
    split
    · exact .silent rfl rfl rfl
    next signal _ =>
      exact .pushed ids candle signal member (isTimedControl_of_guard guard) (.inr rfl) rfl

theorem evaluateGuards_controlsKept (ids : plan.DistinctIds) (turn : PlanTurn) :
    ControlsKept plan turn (evaluateGuards env plan candle window cfg turn) := by
  let Kept (before after : GuardScan) : Prop := ControlsKept plan before.turn after.turn
  have folded : ReflTransGen Kept { turn }
      (plan.rules.foldl (evaluateGuard env plan candle window cfg) { turn }) :=
    foldl_moves (fun rule member scan => .single
      (evaluateGuard_controlsKept env candle window cfg ids member scan)) { turn }
  have kept : Kept { turn } _ :=
    moves_within Kept (fun _ => .refl _) (fun one two => one.trans two) (fun _ _ move => move) folded
  unfold evaluateGuards
  dsimp only
  split
  · exact kept.trans (.silent rfl rfl rfl)
  · exact kept

/-- Once its controls have been looked at, the rest of a candle is hidden from them. -/
theorem evaluateBar_controlsKept (ids : plan.DistinctIds) (turn : PlanTurn) :
    ControlsKept plan
      (evaluateControls env plan candle window (controlClockFor candle plan.granularity now) turn)
      (evaluateBar env plan window now turn candle) := by
  unfold evaluateBar evaluateWatch
  dsimp only
  have guarded := evaluateGuards_controlsKept env candle window
    (DetectorConfig.pineDefaults plan.granularity) ids
    (evaluateControls env plan candle window (controlClockFor candle plan.granularity now) turn)
  generalize evaluateGuards env plan candle window (DetectorConfig.pineDefaults plan.granularity)
    (evaluateControls env plan candle window (controlClockFor candle plan.granularity now) turn) =
      watched at guarded ⊢
  refine guarded.trans ?_
  split
  · exact .silent rfl rfl rfl
  have aligned : ControlsKept plan watched
      { watched with
        fired := watched.fired ++ (maAlignmentControl plan watched.state candle window).toList } := by
    refine ⟨fun _ _ => Iff.rfl, ?_, rfl⟩
    refine timedFires_append plan watched.fired _ fun fire listed timed named => ?_
    have alignment := maAlignmentControl_isAlignment plan watched.state candle window fire listed
    exact ids.not_alignment (List.mem_filter.mp named).1 alignment
  refine aligned.trans ?_
  split
  · exact .silent rfl rfl rfl
  obtain ⟨retraced, first⟩ := stampRetrace_prepared env plan candle window watched.state
  obtain ⟨touched, second⟩ := stampMaTouch_prepared env plan candle window
    { watched.state with retraceSeenAt := retraced }
  rw [first, second]
  let prepared : PlanTurn :=
    { watched with
      fired := watched.fired ++ (maAlignmentControl plan watched.state candle window).toList
      state := { watched.state with retraceSeenAt := retraced, maTouchSeenAt := touched } }
  have spun := SpineMoves.controlsKept ids (evaluateSpine_moves env plan candle window
    (DetectorConfig.pineDefaults plan.granularity) prepared)
  have begun : ControlsKept plan
      { watched with
        fired := watched.fired ++ (maAlignmentControl plan watched.state candle window).toList }
      prepared := .silent rfl rfl rfl
  exact (begun.trans spun).trans (.silent rfl rfl rfl)

end

end TradeControl
