import TradeControl.EvaluatePlan

namespace TradeControl

@[reducible] def PlanState.stamped (state : PlanState) (expiresAt : Int) : PlanState :=
  { state with expiresAt }

/-- A turn whose plan state expires at another instant. -/
@[reducible] def PlanTurn.stamped (turn : PlanTurn) (expiresAt : Int) : PlanTurn :=
  { turn with state := turn.state.stamped expiresAt }

/-- A fold whose every step leaves the expiry alone does so as a whole. -/
theorem foldl_stamped {Item : Type} {step : PlanTurn → Item → PlanTurn} (expiresAt : Int)
    (each : ∀ turn item, step (turn.stamped expiresAt) item = (step turn item).stamped expiresAt)
    (items : List Item) (turn : PlanTurn) :
    items.foldl step (turn.stamped expiresAt) = (items.foldl step turn).stamped expiresAt := by
  induction items generalizing turn with
  | nil => rfl
  | cons item rest ih => rw [List.foldl_cons, each, ih, List.foldl_cons]

section
variable (env : EngineEnv) (plan : TradePlan) (rule : ConditionRule) (candle : Candle)
  (window : List Candle) (expiresAt : Int)

theorem PlanState.recordOriginOpen_stamped (state : PlanState) :
    (state.stamped expiresAt).recordOriginOpen rule candle =
      (state.recordOriginOpen rule candle).stamped expiresAt := by
  unfold recordOriginOpen
  split
  · rfl
  · rfl

theorem PlanState.recordLastClose_stamped (state : PlanState) :
    (state.stamped expiresAt).recordLastClose rule candle =
      (state.recordLastClose rule candle).stamped expiresAt := by
  unfold recordLastClose
  split
  · rfl
  · rfl

theorem PlanState.reseatOriginOnDip_stamped (state : PlanState) :
    (state.stamped expiresAt).reseatOriginOnDip rule candle window =
      (state.reseatOriginOnDip rule candle window).stamped expiresAt := by
  unfold reseatOriginOnDip
  dsimp only
  split
  · rfl
  · rfl

theorem fireRule_stamped (state : PlanState) (buffer : CrossBuffer) (granularity : Granularity) :
    fireRule env rule (state.stamped expiresAt) candle window buffer granularity =
      ((fireRule env rule state candle window buffer granularity).1,
        (fireRule env rule state candle window buffer granularity).2.stamped expiresAt) := by
  unfold fireRule
  rw [PlanState.recordOriginOpen_stamped, PlanState.reseatOriginOnDip_stamped]
  dsimp only
  rw [PlanState.recordLastClose_stamped]
  rfl

theorem controlRuleFires_stamped (state : PlanState) (buffer : CrossBuffer) (now : Int)
    (granularity : Granularity) :
    controlRuleFires env rule (state.stamped expiresAt) candle window buffer now granularity =
      ((controlRuleFires env rule state candle window buffer now granularity).1,
        (controlRuleFires env rule state candle window buffer now granularity).2.stamped expiresAt) := by
  unfold controlRuleFires
  split
  · rfl
  · exact fireRule_stamped env rule candle window expiresAt state buffer granularity

theorem evaluateControl_stamped (now : Int) (turn : PlanTurn) :
    evaluateControl env plan candle window now (turn.stamped expiresAt) rule =
      (evaluateControl env plan candle window now turn rule).stamped expiresAt := by
  unfold evaluateControl
  dsimp only
  rw [controlRuleFires_stamped]
  split
  · rfl
  · split
    · rfl
    · rfl

theorem evaluateControls_stamped (now : Int) (turn : PlanTurn) :
    evaluateControls env plan candle window now (turn.stamped expiresAt) =
      (evaluateControls env plan candle window now turn).stamped expiresAt :=
  foldl_stamped expiresAt
    (fun turn rule => evaluateControl_stamped env plan rule candle window expiresAt now turn) plan.rules turn

theorem guardSignal_stamped (state : PlanState) (cfg : DetectorConfig) :
    guardSignal env plan rule (state.stamped expiresAt) candle window cfg =
      ((guardSignal env plan rule state candle window cfg).1,
        (guardSignal env plan rule state candle window cfg).2.stamped expiresAt) := by
  unfold guardSignal
  split
  · rfl
  split
  · split
    · rfl
    · rfl
  · rw [fireRule_stamped]

@[reducible] def GuardScan.stamped (scan : GuardScan) (expiresAt : Int) : GuardScan :=
  { scan with turn := scan.turn.stamped expiresAt }

theorem evaluateGuard_stamped (cfg : DetectorConfig) (scan : GuardScan) :
    evaluateGuard env plan candle window cfg (scan.stamped expiresAt) rule =
      (evaluateGuard env plan candle window cfg scan rule).stamped expiresAt := by
  unfold evaluateGuard
  dsimp only
  rw [guardSignal_stamped]
  split
  · rfl
  split
  · rfl
  dsimp only
  split
  · rfl
  · rfl

theorem evaluateGuards_stamped (cfg : DetectorConfig) (turn : PlanTurn) :
    evaluateGuards env plan candle window cfg (turn.stamped expiresAt) =
      (evaluateGuards env plan candle window cfg turn).stamped expiresAt := by
  have folded : ∀ (rules : List ConditionRule) (scan : GuardScan),
      rules.foldl (evaluateGuard env plan candle window cfg) (scan.stamped expiresAt) =
        (rules.foldl (evaluateGuard env plan candle window cfg) scan).stamped expiresAt := by
    intro rules
    induction rules with
    | nil => exact fun _ => rfl
    | cons rule rest ih =>
      intro scan
      rw [List.foldl_cons, evaluateGuard_stamped, ih, List.foldl_cons]
  unfold evaluateGuards
  have scanned := folded plan.rules { turn }
  dsimp only [GuardScan.stamped] at scanned ⊢
  rw [scanned]
  split
  · rfl
  · rfl

theorem evaluateWatch_stamped (cfg : DetectorConfig) (now : Int) (turn : PlanTurn) :
    evaluateWatch env plan candle window cfg now (turn.stamped expiresAt) =
      (evaluateWatch env plan candle window cfg now turn).stamped expiresAt := by
  unfold evaluateWatch
  rw [evaluateControls_stamped, evaluateGuards_stamped]

theorem evaluateBreakAndClose_stamped (turn : PlanTurn) :
    evaluateBreakAndClose env plan candle window (turn.stamped expiresAt) =
      (evaluateBreakAndClose env plan candle window turn).stamped expiresAt := by
  unfold evaluateBreakAndClose
  dsimp only
  split
  · rfl
  split
  · rfl
  split
  · rfl
  rw [fireRule_stamped]
  dsimp only
  split
  · rfl
  · rfl

theorem effectiveBreakAt_stamped (state : PlanState) :
    effectiveBreakAt plan (state.stamped expiresAt) window = effectiveBreakAt plan state window := rfl

theorem stampRetest_stamped (turn : PlanTurn) :
    stampRetest env plan candle window (turn.stamped expiresAt) =
      (stampRetest env plan candle window turn).stamped expiresAt := by
  unfold stampRetest
  rw [effectiveBreakAt_stamped]
  cases effectiveBreakAt plan turn.state window with
  | none => rfl
  | some breakAt =>
    cases plan.rules.find? isRetest with
    | none => rfl
    | some rule =>
      dsimp only
      split
      · rfl
      rw [PlanState.recordOriginOpen_stamped, PlanState.reseatOriginOnDip_stamped]
      generalize (turn.state.recordOriginOpen rule candle).reseatOriginOnDip rule candle window = state
      have refs : (state.stamped expiresAt).refsOf rule true = state.refsOf rule true := rfl
      rw [refs]
      unfold PlanState.recordLastClose
      split
      · split
        · rfl
        · rfl
      · split
        · rfl
        · rfl

theorem stampPullback_stamped (turn : PlanTurn) :
    stampPullback env plan candle window (turn.stamped expiresAt) =
      (stampPullback env plan candle window turn).stamped expiresAt := by
  unfold stampPullback
  rw [effectiveBreakAt_stamped]
  dsimp only
  split
  · rfl
  split
  · rfl
  split
  · split
    · rfl
    split
    · rfl
    split
    · rfl
    · rfl
  · rfl

theorem stampMaTouch_stamped (state : PlanState) :
    stampMaTouch env plan candle window (state.stamped expiresAt) =
      (stampMaTouch env plan candle window state).stamped expiresAt := by
  unfold stampMaTouch
  dsimp only
  split
  · rfl
  split
  · rfl
  split
  · rfl
  split
  · rfl
  · rfl

theorem stampRetrace_stamped (state : PlanState) :
    stampRetrace env plan candle window (state.stamped expiresAt) =
      (stampRetrace env plan candle window state).stamped expiresAt := by
  unfold stampRetrace
  cases plan.entryConditions.retrace with
  | none => rfl
  | some line =>
    dsimp only
    split
    · rfl
    cases linePriceAt line.a line.b candle true plan.granularity.seconds window with
    | none => rfl
    | some level =>
      cases plan.direction with
      | long =>
        dsimp only
        split
        · rfl
        · rfl
      | short =>
        dsimp only
        split
        · rfl
        · rfl

theorem entrySignal_stamped (state : PlanState) (cfg : DetectorConfig) :
    entrySignal env plan rule (state.stamped expiresAt) candle window cfg =
      ((entrySignal env plan rule state candle window cfg).1,
        (entrySignal env plan rule state candle window cfg).2.stamped expiresAt) := by
  unfold entrySignal
  split
  · rfl
  · rw [fireRule_stamped]

theorem PlanState.afterEntry_stamped (state : PlanState) (signal : Option LatchedSignal) :
    (state.stamped expiresAt).afterEntry plan rule signal =
      (state.afterEntry plan rule signal).stamped expiresAt := by
  unfold afterEntry
  dsimp only
  cases signal with
  | none =>
    dsimp only
    split
    · rfl
    · rfl
  | some sig =>
    dsimp only
    split
    · split
      · rfl
      · rfl
    · split
      · rfl
      · rfl

theorem evaluateOneEntry_stamped (cfg : DetectorConfig) (turn : PlanTurn) :
    evaluateOneEntry env plan candle window cfg rule (turn.stamped expiresAt) =
      (evaluateOneEntry env plan candle window cfg rule turn).stamped expiresAt := by
  have watched : entryWatched env plan (turn.state.stamped expiresAt) rule candle window =
      entryWatched env plan turn.state rule candle window := rfl
  unfold evaluateOneEntry
  dsimp only
  rw [watched, entrySignal_stamped]
  split
  · rfl
  dsimp only
  split
  · rfl
  next signal _ =>
    have floor : ∀ state : PlanState, belowSignalFloor (state.stamped expiresAt) signal =
        belowSignalFloor state signal := fun _ => rfl
    have milestones : ∀ state : PlanState,
        enterPrepMilestonesSatisfied plan (state.stamped expiresAt) rule candle.time =
          enterPrepMilestonesSatisfied plan state rule candle.time := fun _ => rfl
    simp only [floor, milestones]
    split
    · rfl
    split
    · rfl
    split
    · rfl
    · rw [PlanState.afterEntry_stamped]
      rfl

theorem evaluateEntries_stamped (cfg : DetectorConfig) (ruleIds : List String) (turn : PlanTurn) :
    evaluateEntries env plan candle window cfg ruleIds (turn.stamped expiresAt) =
      (evaluateEntries env plan candle window cfg ruleIds turn).stamped expiresAt := by
  induction ruleIds generalizing turn with
  | nil => rfl
  | cons ruleId rest ih =>
    unfold evaluateEntries
    dsimp only
    split
    · exact ih turn
    split
    · exact ih turn
    · rw [evaluateOneEntry_stamped]
      split
      · rfl
      · exact ih _

theorem evaluateSpine_stamped (cfg : DetectorConfig) (turn : PlanTurn) :
    evaluateSpine env plan candle window cfg (turn.stamped expiresAt) =
      (evaluateSpine env plan candle window cfg turn).stamped expiresAt := by
  unfold evaluateSpine
  dsimp only
  split
  · exact evaluateBreakAndClose_stamped env plan candle window expiresAt turn
  · have broken :
        (if isMultiEnter plan then
            evaluateBreakAndClose env plan candle window (turn.stamped expiresAt)
          else turn.stamped expiresAt) =
        (if isMultiEnter plan then evaluateBreakAndClose env plan candle window turn
          else turn).stamped expiresAt := by
      rw [evaluateBreakAndClose_stamped]
      split
      · rfl
      · rfl
    rw [broken, stampRetest_stamped, stampPullback_stamped]
    exact evaluateEntries_stamped env plan candle window expiresAt cfg _ _
  · rfl

/-- A bar does not look at the state's expiry. -/
theorem evaluateBar_stamped (now : Int) (turn : PlanTurn) :
    evaluateBar env plan window now (turn.stamped expiresAt) candle =
      (evaluateBar env plan window now turn candle).stamped expiresAt := by
  unfold evaluateBar
  dsimp only
  rw [evaluateWatch_stamped]
  generalize evaluateWatch env plan candle window (DetectorConfig.pineDefaults plan.granularity) now
    turn = watched
  have aligned : maAlignmentControl plan (watched.state.stamped expiresAt) candle window =
      maAlignmentControl plan watched.state candle window := rfl
  rw [aligned]
  dsimp only
  split
  · rfl
  split
  · rfl
  · rw [stampRetrace_stamped, stampMaTouch_stamped]
    have spine := evaluateSpine_stamped env plan candle window expiresAt
      (DetectorConfig.pineDefaults plan.granularity)
      { watched with
        fired := watched.fired ++ (maAlignmentControl plan watched.state candle window).toList
        state := stampMaTouch env plan candle window (stampRetrace env plan candle window watched.state) }
    dsimp only [PlanTurn.stamped] at spine
    rw [spine]

end

end TradeControl
