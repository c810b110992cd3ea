import TradeControl.EvaluatePlan
import TradeControl.Foundation.GuardedReach
import TradeControl.SpineMoves

namespace TradeControl

/-- A turn as the end of a longer run: what fired earlier stands before what it fired. -/
@[reducible] def PlanTurn.since (earlier turn : PlanTurn) : PlanTurn :=
  { turn with
    fired := earlier.fired ++ turn.fired
    entryDeclines := earlier.entryDeclines ++ turn.entryDeclines }

theorem PlanTurn.since_start (run : PlanTurn) (state : PlanState) :
    run.since { state } = { run with state } := by
  simp [since]

theorem PlanTurn.since_pushFire (earlier turn : PlanTurn) (rule : ConditionRule) (candle : Candle)
    (signal : Option LatchedSignal) :
    earlier.since (turn.pushFire rule candle signal) =
      (earlier.since turn).pushFire rule candle signal := by
  simp [since, pushFire]

/-- A fold whose every step leaves what came before alone does so as a whole. -/
theorem foldl_since {Item : Type} {step : PlanTurn → Item → PlanTurn} (earlier : PlanTurn)
    (each : ∀ turn item, step (earlier.since turn) item = earlier.since (step turn item))
    (items : List Item) (turn : PlanTurn) :
    items.foldl step (earlier.since turn) = earlier.since (items.foldl step turn) := by
  induction items generalizing turn with
  | nil => rfl
  | cons item rest ih => rw [List.foldl_cons, each, ih, List.foldl_cons]

section
variable (env : EngineEnv) (plan : TradePlan) (candle : Candle) (window : List Candle)
  (cfg : DetectorConfig) (now : Int) (earlier turn : PlanTurn)

theorem evaluateControl_since (rule : ConditionRule) :
    evaluateControl env plan candle window now (earlier.since turn) rule =
      earlier.since (evaluateControl env plan candle window now turn rule) := by
  unfold evaluateControl
  dsimp only
  split
  · rfl
  · split
    · rw [PlanTurn.since_pushFire]
    · rfl

theorem evaluateControls_since :
    evaluateControls env plan candle window now (earlier.since turn) =
      earlier.since (evaluateControls env plan candle window now turn) :=
  foldl_since earlier (evaluateControl_since env plan candle window now earlier) plan.rules turn

@[reducible] def GuardScan.since (earlier : PlanTurn) (scan : GuardScan) : GuardScan :=
  { scan with turn := earlier.since scan.turn }

theorem evaluateGuard_since (scan : GuardScan) (rule : ConditionRule) :
    evaluateGuard env plan candle window cfg (scan.since earlier) rule =
      (evaluateGuard env plan candle window cfg scan rule).since earlier := by
  unfold evaluateGuard
  dsimp only
  split
  · rfl
  split
  · rfl
  split
  · rfl
  · simp only [PlanTurn.pushFire, List.append_assoc]

theorem evaluateGuards_since :
    evaluateGuards env plan candle window cfg (earlier.since turn) =
      earlier.since (evaluateGuards env plan candle window cfg turn) := by
  have folded : ∀ (rules : List ConditionRule) (scan : GuardScan),
      rules.foldl (evaluateGuard env plan candle window cfg) (scan.since earlier) =
        (rules.foldl (evaluateGuard env plan candle window cfg) scan).since earlier := by
    intro rules
    induction rules with
    | nil => exact fun _ => rfl
    | cons rule rest ih =>
      intro scan
      rw [List.foldl_cons, evaluateGuard_since, ih, List.foldl_cons]
  unfold evaluateGuards
  have scanned := folded plan.rules { turn }
  dsimp only [GuardScan.since] at scanned ⊢
  rw [scanned]
  split
  · rfl
  · rfl

theorem evaluateWatch_since :
    evaluateWatch env plan candle window cfg now (earlier.since turn) =
      earlier.since (evaluateWatch env plan candle window cfg now turn) := by
  unfold evaluateWatch
  rw [evaluateControls_since, evaluateGuards_since]

theorem evaluateBreakAndClose_since :
    evaluateBreakAndClose env plan candle window (earlier.since turn) =
      earlier.since (evaluateBreakAndClose env plan candle window turn) := by
  unfold evaluateBreakAndClose
  dsimp only
  split
  · rfl
  split
  · rfl
  split
  · rfl
  split
  · rw [PlanTurn.since_pushFire]
  · rfl

theorem stampRetest_since :
    stampRetest env plan candle window (earlier.since turn) =
      earlier.since (stampRetest env plan candle window turn) := by
  unfold stampRetest
  dsimp only
  split
  · split
    · rfl
    split
    · simp only [PlanTurn.pushFire, PlanTurn.since, List.append_assoc]
    · rfl
  · rfl

theorem stampPullback_since :
    stampPullback env plan candle window (earlier.since turn) =
      earlier.since (stampPullback env plan candle window turn) := by
  unfold stampPullback
  dsimp only
  split
  · rfl
  split
  · rfl
  split
  · split
    · rfl
    split
    · rfl
    split
    · rw [PlanTurn.since_pushFire]
    · rfl
  · rfl

theorem evaluateOneEntry_since (rule : ConditionRule) :
    evaluateOneEntry env plan candle window cfg rule (earlier.since turn) =
      earlier.since (evaluateOneEntry env plan candle window cfg rule turn) := by
  unfold evaluateOneEntry
  dsimp only
  split
  · rfl
  split
  · rfl
  split
  · rfl
  split
  · simp only [PlanTurn.since, List.append_assoc]
  split
  · rfl
  · rw [PlanTurn.since_pushFire]

theorem evaluateEntries_since (ruleIds : List String) :
    evaluateEntries env plan candle window cfg ruleIds (earlier.since turn) =
      earlier.since (evaluateEntries env plan candle window cfg ruleIds turn) := by
  induction ruleIds generalizing turn with
  | nil => rfl
  | cons ruleId rest ih =>
    unfold evaluateEntries
    dsimp only
    split
    · exact ih turn
    split
    · exact ih turn
    · rw [evaluateOneEntry_since]
      split
      · rfl
      · exact ih _

theorem evaluateSpine_since :
    evaluateSpine env plan candle window cfg (earlier.since turn) =
      earlier.since (evaluateSpine env plan candle window cfg turn) := by
  unfold evaluateSpine
  dsimp only
  split
  · exact evaluateBreakAndClose_since env plan candle window earlier turn
  · have broken :
        (if isMultiEnter plan then evaluateBreakAndClose env plan candle window (earlier.since turn)
          else earlier.since turn) =
        earlier.since (if isMultiEnter plan then evaluateBreakAndClose env plan candle window turn
          else turn) := by
      rw [evaluateBreakAndClose_since]
      split
      · rfl
      · rfl
    rw [broken, stampRetest_since, stampPullback_since]
    exact evaluateEntries_since env plan candle window cfg earlier _ _
  · rfl

/-- A bar judges by the state alone: what fired and was declined before it is only carried along. -/
theorem evaluateBar_since :
    evaluateBar env plan window now (earlier.since turn) candle =
      earlier.since (evaluateBar env plan window now turn candle) := by
  unfold evaluateBar
  dsimp only
  rw [evaluateWatch_since]
  dsimp only
  split
  · rfl
  split
  · simp only [PlanTurn.since, List.append_assoc]
  · have carried : ∀ turn : PlanTurn, ∀ fires state,
        { earlier.since turn with fired := (earlier.since turn).fired ++ fires, state } =
          earlier.since { turn with fired := turn.fired ++ fires, state } := by
      intro turn fires state
      simp [PlanTurn.since]
    rw [carried, evaluateSpine_since]

theorem evaluateBars_since (candles : List Candle) :
    evaluateBars env plan window now candles (earlier.since turn) =
      earlier.since (evaluateBars env plan window now candles turn) := by
  induction candles generalizing turn with
  | nil => rfl
  | cons candle rest ih =>
    unfold evaluateBars
    rw [evaluateBar_since]
    dsimp only
    split
    · rfl
    · exact ih _

end

open Foundation Relation

def alignmentRuleIds : List String := ["ma-alignment-resume", "ma-alignment-pause"]

/-- The alignment's pause or release, which no rule of the plan fires. -/
def FiredIntent.IsAlignment (plan : TradePlan) (fire : FiredIntent) : Prop :=
  plan.entryConditions.requireMaAlignment = true ∧ fire.ruleId ∈ alignmentRuleIds ∧
    fire.intent.action ≠ .enter

theorem maAlignmentControl_isAlignment (plan : TradePlan) (state : PlanState) (candle : Candle)
    (window : List Candle) :
    ∀ fire ∈ (maAlignmentControl plan state candle window).toList, fire.IsAlignment plan := by
  intro fire member
  unfold maAlignmentControl at member
  split at member
  · simp at member
  next required =>
    simp only [Option.mem_toList, Option.map_eq_some_iff] at member
    obtain ⟨entry, _, rfl⟩ := member
    refine ⟨by simpa using required, ?_, ?_⟩
    · dsimp only
      split
      · decide
      · decide
    · dsimp only
      split
      · decide
      · decide

/-- What one candle does: its watch, the alignment's control and, unless the plan is done or its
entries are blocked, its spine; then the watermark. -/
inductive BarRuns (plan : TradePlan) (candle : Candle) (turn : PlanTurn) : PlanTurn → Prop
  | idle {watched : PlanTurn} {align : List FiredIntent}
      (watch : ReflTransGen (WatchMove plan candle true) { turn } { turn := watched })
      (aligned : ∀ fire ∈ align, fire.IsAlignment plan)
      (stopped : watched.state.phase = .done ∨ watched.state.entriesBlocked = true) :
      BarRuns plan candle turn
        { watched with
          fired := watched.fired ++ align
          state := { watched.state with watermark := some candle.time } }
  | advanced {watched after : PlanTurn} {align : List FiredIntent}
      (watch : ReflTransGen (WatchMove plan candle true) { turn } { turn := watched })
      (aligned : ∀ fire ∈ align, fire.IsAlignment plan)
      (alive : watched.state.phase ≠ .done) (unblocked : watched.state.entriesBlocked = false)
      (spine : ReflTransGen (SpineMove plan candle watched.state.phase)
        { watched with fired := watched.fired ++ align } after) :
      BarRuns plan candle turn
        { after with state := { after.state with watermark := some candle.time } }

theorem evaluateBar_runs (env : EngineEnv) (plan : TradePlan) (window : List Candle) (now : Int)
    (turn : PlanTurn) (candle : Candle) :
    BarRuns plan candle turn (evaluateBar env plan window now turn candle) := by
  unfold evaluateBar
  dsimp only
  have watch := evaluateWatch_moves env plan candle window
    (DetectorConfig.pineDefaults plan.granularity) now turn
  generalize evaluateWatch env plan candle window (DetectorConfig.pineDefaults plan.granularity)
    now turn = watched at watch ⊢
  split
  next finished =>
    have none : ∀ fire ∈ ([] : List FiredIntent), fire.IsAlignment plan := by simp
    simpa using BarRuns.idle watch none (.inl finished)
  next alive =>
    have aligned := maAlignmentControl_isAlignment plan watched.state candle window
    generalize (maAlignmentControl plan watched.state candle window).toList = align at aligned ⊢
    split
    next blocked => exact .idle watch aligned (.inr blocked)
    next open_ =>
      obtain ⟨retraced, first⟩ := stampRetrace_prepared env plan candle window watched.state
      obtain ⟨touched, second⟩ := stampMaTouch_prepared env plan candle window
        { watched.state with retraceSeenAt := retraced }
      rw [first, second]
      have prepared : ReflTransGen (SpineMove plan candle watched.state.phase)
          { watched with fired := watched.fired ++ align }
          { watched with
            fired := watched.fired ++ align
            state := { watched.state with retraceSeenAt := retraced, maTouchSeenAt := touched } } :=
        .single (.prepared retraced touched)
      have spine := evaluateSpine_moves env plan candle window
        (DetectorConfig.pineDefaults plan.granularity)
        { watched with
          fired := watched.fired ++ align
          state := { watched.state with retraceSeenAt := retraced, maTouchSeenAt := touched } }
      exact .advanced watch aligned alive (by simpa using open_) (prepared.trans spine)

/-- One tick of the cron: freshly closed bars with the window they are judged in, or the clock alone. -/
inductive PlanTick
  | bars (newCandles window : List Candle) (now expiresAt : Int)
  | controls (lastCandle : Candle) (now expiresAt : Int)

def PlanTick.eval (env : EngineEnv) (plan : TradePlan) (prior : PlanState) : PlanTick → PlanEval
  | .bars newCandles window now expiresAt =>
    evaluatePlan env plan prior newCandles window now expiresAt
  | .controls lastCandle now expiresAt =>
    evaluateControlsOnly env plan prior lastCandle now expiresAt

/-- The run after one more tick: the state it leaves, with all that has fired and been declined. -/
def PlanTurn.tick (env : EngineEnv) (plan : TradePlan) (run : PlanTurn) (tick : PlanTick) : PlanTurn :=
  let eval := tick.eval env plan run.state
  { state := eval.newState
    fired := run.fired ++ eval.fired
    entryDeclines := run.entryDeclines ++ eval.entryDeclines }

/-- The candles lie past the watermark, in the order of their times. -/
def FreshCandles (state : PlanState) (candles : List Candle) : Prop :=
  Ascending candles ∧ ∀ candle ∈ candles, ∀ mark, state.watermark = some mark → mark < candle.time

def PlanTick.Fresh (run : PlanTurn) : PlanTick → Prop
  | .bars newCandles _ _ _ => FreshCandles run.state newCandles
  | .controls _ _ _ => True

/-- What a new expiry stamp, a run of control rules and a candle each carry over, on any turn. -/
structure CarriedOver (plan : TradePlan) (inv : PlanTurn → Prop) : Prop where
  stamped : ∀ turn expiresAt, inv turn → inv { turn with state := { turn.state with expiresAt } }
  controls : ∀ {turn after : PlanTurn} {candle : Candle},
    ReflTransGen (WatchMove plan candle false) { turn } { turn := after } → inv turn → inv after
  bar : ∀ {turn after : PlanTurn} {candle : Candle},
    (∀ mark, turn.state.watermark = some mark → mark < candle.time) →
      BarRuns plan candle turn after → inv turn → inv after

theorem BarRuns.watermark {plan : TradePlan} {candle : Candle} {turn after : PlanTurn}
    (runs : BarRuns plan candle turn after) : after.state.watermark = some candle.time := by
  cases runs with
  | idle => rfl
  | advanced => rfl

theorem evaluateBars_carriedOver {env : EngineEnv} {plan : TradePlan} {inv : PlanTurn → Prop}
    (carried : CarriedOver plan inv) (window : List Candle) (now : Int) {candles : List Candle}
    {turn : PlanTurn} (fresh : FreshCandles turn.state candles) (initial : inv turn) :
    inv (evaluateBars env plan window now candles turn) := by
  induction candles generalizing turn with
  | nil => exact initial
  | cons candle rest ih =>
    obtain ⟨ascending, past⟩ := fresh
    obtain ⟨first, ascending⟩ := List.pairwise_cons.mp ascending
    have runs := evaluateBar_runs env plan window now turn candle
    have next := carried.bar (past candle (by simp)) runs initial
    have mark := runs.watermark
    unfold evaluateBars
    dsimp only
    split
    · exact next
    · refine ih ⟨ascending, fun later member mark' same => ?_⟩ next
      rw [mark] at same
      cases same
      exact first later member

section
variable (env : EngineEnv) (plan : TradePlan) (run : PlanTurn) (window : List Candle)
  (now expiresAt : Int)

/-- A tick goes on from the run, under its new expiry. -/
theorem PlanTurn.tick_bars (newCandles : List Candle) :
    run.tick env plan (.bars newCandles window now expiresAt) =
      evaluateBars env plan window now newCandles
        { run with state := { run.state with expiresAt } } := by
  rw [← since_start, evaluateBars_since]
  rfl

theorem PlanTurn.tick_controls (lastCandle : Candle) :
    run.tick env plan (.controls lastCandle now expiresAt) =
      evaluateControls env plan lastCandle [lastCandle] now
        { run with state := { run.state with expiresAt } } := by
  rw [← since_start, evaluateControls_since]
  rfl

end

/-- The tick rule: what is carried over everywhere is carried over a tick. -/
theorem PlanTurn.tick_carriedOver {env : EngineEnv} {plan : TradePlan} {inv : PlanTurn → Prop}
    (carried : CarriedOver plan inv) {run : PlanTurn} {tick : PlanTick} (fresh : tick.Fresh run)
    (initial : inv run) : inv (run.tick env plan tick) := by
  cases tick with
  | bars newCandles window now expiresAt =>
    rw [tick_bars]
    exact evaluateBars_carriedOver carried window now fresh (carried.stamped run expiresAt initial)
  | controls lastCandle now expiresAt =>
    rw [tick_controls]
    exact carried.controls (evaluateControls_moves env plan lastCandle [lastCandle] now _)
      (carried.stamped run expiresAt initial)

def runTicks (env : EngineEnv) (plan : TradePlan) (start : PlanTurn) (ticks : List PlanTick) :
    PlanTurn :=
  ticks.foldl (PlanTurn.tick env plan) start

/-- Every tick brings candles past the watermark it finds. -/
def FreshTicks (env : EngineEnv) (plan : TradePlan) (start : PlanTurn) (ticks : List PlanTick) : Prop :=
  Along (PlanTurn.tick env plan) (fun run tick => tick.Fresh run) start ticks

/-- The run rule: what is carried over everywhere is carried over a run. -/
theorem runTicks_carriedOver {env : EngineEnv} {plan : TradePlan} {inv : PlanTurn → Prop}
    (carried : CarriedOver plan inv) {ticks : List PlanTick} {start : PlanTurn}
    (fresh : FreshTicks env plan start ticks) (initial : inv start) :
    inv (runTicks env plan start ticks) := by
  induction ticks generalizing start with
  | nil => exact initial
  | cons tick rest ih =>
    exact ih fresh.2 (PlanTurn.tick_carriedOver carried fresh.1 initial)

end TradeControl
