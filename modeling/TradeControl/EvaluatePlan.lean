import TradeControl.Hold
import TradeControl.PlanSpine

namespace TradeControl

def prepStepRetest : String := "retest"

def prepStepBreakAndClose : String := "break-and-close"

def prepStepPullback : String := "pullback"

/-- `ma_alignment::satisfied`. -/
def maAlignmentSatisfied (plan : TradePlan) (bar : Int) (window : List Candle) : Bool :=
  !plan.entryConditions.requireMaAlignment ||
    (windowIndex window bar).any fun i => favorableAt window i plan.direction

/-- `ma_alignment::control`: the named pause or its release, refreshed on every close. -/
def maAlignmentControl (plan : TradePlan) (state : PlanState) (candle : Candle)
    (window : List Candle) : Option FiredIntent :=
  if !plan.entryConditions.requireMaAlignment then none
  else (plan.rules.find? isEnter).map fun entry =>
    let favorable := !state.entriesBlocked && maAlignmentSatisfied plan candle.time window
    let ruleId := "ma-alignment-" ++ if favorable then "resume" else "pause"
    { ruleId
      intent :=
        { entry.intent with
          id := plan.tradeId ++ "-" ++ ruleId
          action := if favorable then .resume else .pause
          tradeId := some plan.tradeId
          blackoutId := some alignmentPauseId
          reason := some "requires favorable 9 EMA / 20 SMA alignment"
          notBefore := none }
      candle }

/-- `ma_enablement::satisfied`. -/
def maEnablementSatisfied (plan : TradePlan) (state : PlanState) : Bool :=
  plan.entryConditions.enableOnMaTouch.isEmpty || state.maTouchSeenAt.isSome

/-- `ma_enablement::signal_floor`. -/
def signalFloor (state : PlanState) : Option Int :=
  latest [state.retraceSeenAt, state.maTouchSeenAt]

/-- `ma_enablement::stamp`. -/
def stampMaTouch (env : EngineEnv) (plan : TradePlan) (candle : Candle) (window : List Candle)
    (state : PlanState) : PlanState :=
  let averages := plan.entryConditions.enableOnMaTouch
  let start := latest [plan.armedAt, plan.replayStart.map seconds]
  if averages.isEmpty ∨ state.maTouchSeenAt.isSome then state
  else if (start.any fun start => candle.time < start) ∨ env.suppressPlan plan candle.time then state
  else match windowIndex window candle.time with
    | none => state
    | some index =>
      if averages.any fun average => average.touchesAt window index then
        { state with maTouchSeenAt := some candle.time }
      else state

/-- `entry_conditions::stamp_retrace`. -/
def stampRetrace (env : EngineEnv) (plan : TradePlan) (candle : Candle) (window : List Candle)
    (state : PlanState) : PlanState :=
  match plan.entryConditions.retrace with
  | none => state
  | some line =>
    if state.retraceSeenAt.isSome ∨
        (plan.armedAt.any fun armed => candle.time + seconds plan.granularity.seconds ≤ armed) ∨
        env.suppressPlan plan candle.time then state
    else match linePriceAt line.a line.b candle true plan.granularity.seconds window with
      | none => state
      | some level =>
        let reached : Bool :=
          match plan.direction with
          | .short => level ≤ candle.c
          | .long => candle.c ≤ level
        if reached then { state with retraceSeenAt := some candle.time } else state

/-- Which milestones gate an enter: its own preps when the plan has several enters, the
plan's prep rules when it has one. -/
def requiredMilestones (plan : TradePlan) (intent : RuleIntent) : Bool × Bool :=
  if isMultiEnter plan then
    (requiresStep intent.requiresPreps prepStepRetest,
      requiresStep intent.requiresPreps prepStepPullback)
  else (plan.rules.any isRetest, plan.rules.any isPullback)

def enterPrepMilestonesSatisfied (plan : TradePlan) (state : PlanState) (rule : ConditionRule)
    (entryTime : Int) : Bool :=
  match requiredMilestones plan rule.intent with
  | (false, false) => true
  | (true, true) => retestSatisfied plan state entryTime || pullbackSatisfied plan state entryTime
  | (true, false) => retestSatisfied plan state entryTime
  | (false, true) => pullbackSatisfied plan state entryTime

/-- The floor a confirmed signal has to print at or after. -/
def confirmedSetupFloor (plan : TradePlan) (state : PlanState) (rule : ConditionRule) : Option Int :=
  let breakFloor :=
    if requiresStep rule.intent.requiresPreps prepStepBreakAndClose then state.breakCloseAt else none
  latest [breakFloor, signalFloor state, plan.replayStart.map seconds]

def Trigger.isPinePattern : Trigger → Bool
  | .pinePattern _ _ => true
  | _ => false

def EntryConditions.readsAverages (conditions : EntryConditions) : Bool :=
  !conditions.mustTouch.isEmpty || !conditions.beOffside.isEmpty || !conditions.enableOnMaTouch.isEmpty

/-- The gates an enter passes before its trigger is looked at. -/
def entryWatched (env : EngineEnv) (plan : TradePlan) (state : PlanState) (rule : ConditionRule)
    (candle : Candle) (window : List Candle) : Bool :=
  maAlignmentSatisfied plan candle.time window &&
    (!plan.hasMaVeto || (windowIndex window candle.time).any fun i => plan.maVetoReadyAt window i) &&
    (plan.entryConditions.retrace.isNone || state.retraceSeenAt.isSome) &&
    maEnablementSatisfied plan state &&
    (!plan.entryConditions.readsAverages || rule.trigger.isPinePattern) &&
    plan.replayStart.all (fun start => start ≤ timestamp candle.time) &&
    !env.suppressPlan plan candle.time

/-- Whether an enter's trigger fires on a candle, and with what signal. -/
def entrySignal (env : EngineEnv) (plan : TradePlan) (rule : ConditionRule) (state : PlanState)
    (candle : Candle) (window : List Candle) (cfg : DetectorConfig) :
    Option (Option LatchedSignal) × PlanState :=
  match rule.trigger with
  | .pinePattern pattern dir =>
    ((evalPineEntry candle window cfg pattern dir rule.intent.needsConfirmed rule.intent.needsGolden
        (confirmedSetupFloor plan state rule) state.lastConfirmedEnterAt
        (!rule.intent.needsConfirmed) (some plan.entryConditions)).map some, state)
  | _ =>
    let (hit, state) := fireRule env rule state candle window (resolveCrossBuffer plan window)
      plan.granularity
    (if hit then some none else none, state)

/-- A signal from before the latest preparation cannot qualify by confirming later. -/
def belowSignalFloor (state : PlanState) (signal : Option LatchedSignal) : Bool :=
  signal.any fun sig => (signalFloor state).any fun floor => sig.signalBarTime < floor

def entryDispatchable (env : EngineEnv) (plan : TradePlan) (rule : ConditionRule) (candle : Candle) :
    Option LatchedSignal → Except DeclineReason Unit
  | none => .ok ()
  | some sig => pineEntryDispatchable env rule.intent candle sig plan.pipSize

def isMultiShot (rule : ConditionRule) : Bool := rule.intent.maxRetries ≠ .static 0

/-- The state after an enter fired: the signal it consumed, and for a single shot the end of
the entry, or of the plan. -/
def PlanState.afterEntry (state : PlanState) (plan : TradePlan) (rule : ConditionRule)
    (signal : Option LatchedSignal) : PlanState :=
  let state :=
    match signal with
    | some sig =>
      if rule.intent.needsConfirmed ∧ isMultiShot rule then
        { state with lastConfirmedEnterAt := some sig.signalBarTime }
      else state
    | none => state
  if rule.fireMode = .once ∧ !isMultiShot rule then
    { state with
      fired := insert rule.ruleId state.fired
      phase :=
        if !plan.hasMaVeto ∧ !plan.entryConditions.requireMaAlignment then .done else state.phase }
  else state

def evaluateOneEntry (env : EngineEnv) (plan : TradePlan) (candle : Candle) (window : List Candle)
    (cfg : DetectorConfig) (rule : ConditionRule) (turn : PlanTurn) : PlanTurn :=
  if !entryWatched env plan turn.state rule candle window then turn
  else
    let (signal, state) := entrySignal env plan rule turn.state candle window cfg
    match signal with
    | none => { turn with state }
    | some signal =>
      if belowSignalFloor state signal then { turn with state }
      else match entryDispatchable env plan rule candle signal with
        | .error reason =>
          { turn with
            state
            entryDeclines :=
              turn.entryDeclines ++ [{ bar := candle.time, ruleId := rule.ruleId, reason }] }
        | .ok _ =>
          if !enterPrepMilestonesSatisfied plan state rule candle.time then { turn with state }
          else
            { turn with state := state.afterEntry plan rule signal }.pushFire rule candle signal

/-- The loop over the enter rules' ids; a single shot that ends the plan ends it. -/
def evaluateEntries (env : EngineEnv) (plan : TradePlan) (candle : Candle) (window : List Candle)
    (cfg : DetectorConfig) : List String → PlanTurn → PlanTurn
  | [], turn => turn
  | ruleId :: rest, turn =>
    if ruleId ∈ turn.state.fired then evaluateEntries env plan candle window cfg rest turn
    else match plan.rules.find? fun rule => rule.ruleId = ruleId with
      | none => evaluateEntries env plan candle window cfg rest turn
      | some rule =>
        let turn := evaluateOneEntry env plan candle window cfg rule turn
        if turn.state.phase = .done then turn
        else evaluateEntries env plan candle window cfg rest turn

def enterRuleIds (plan : TradePlan) : List String := (plan.rules.filter isEnter).map (·.ruleId)

def evaluateEntry (env : EngineEnv) (plan : TradePlan) (candle : Candle) (window : List Candle)
    (cfg : DetectorConfig) (turn : PlanTurn) : PlanTurn :=
  evaluateEntries env plan candle window cfg (enterRuleIds plan) turn

def initialPhase (plan : TradePlan) : Phase :=
  if isMultiEnter plan then .awaitEntry
  else if plan.rules.any isBreakAndClose then .awaitBreakAndClose
  else .awaitEntry

/-- The bar that was forming when the plan was armed. -/
def armingBar (plan : TradePlan) (candles : List Candle) : Option Candle :=
  plan.armedAt.bind fun armedAt =>
    candles.find? fun c =>
      c.time ≤ armedAt ∧ armedAt < c.time + seconds plan.granularity.seconds

/-- The newest of the candles, the later of equals. -/
def newestCandle (candles : List Candle) : Option Candle :=
  candles.foldl (fun best c =>
    match best with
    | none => some c
    | some b => if b.time ≤ c.time then some c else some b) none

/-- A fresh plan's state: nothing has fired, the newest bar is processed, the arming bar sets
the origins. -/
def seedPlanState (plan : TradePlan) (candles : List Candle) (expiresAt : Int) : PlanState :=
  let state := PlanState.seed (initialPhase plan) expiresAt
  match newestCandle candles with
  | none => state
  | some newest =>
    let state := { state with watermark := some newest.time }
    let state :=
      match armingBar plan candles with
      | none => state
      | some arming => plan.rules.foldl (fun state rule => state.recordOriginOpen rule arming) state
    plan.rules.foldl (fun state rule => state.recordLastClose rule newest) state

/-- The sequential spine's turn on a candle. -/
def evaluateSpine (env : EngineEnv) (plan : TradePlan) (candle : Candle) (window : List Candle)
    (cfg : DetectorConfig) (turn : PlanTurn) : PlanTurn :=
  match turn.state.phase with
  | .awaitBreakAndClose => evaluateBreakAndClose env plan candle window turn
  | .awaitEntry =>
    let turn := if isMultiEnter plan then evaluateBreakAndClose env plan candle window turn else turn
    let turn := stampRetest env plan candle window turn
    let turn := stampPullback env plan candle window turn
    evaluateEntry env plan candle window cfg turn
  | .done => turn

/-- The watch over a candle: its control rules by its own clock, then its guards. -/
def evaluateWatch (env : EngineEnv) (plan : TradePlan) (candle : Candle) (window : List Candle)
    (cfg : DetectorConfig) (now : Int) (turn : PlanTurn) : PlanTurn :=
  evaluateGuards env plan candle window cfg
    (evaluateControls env plan candle window (controlClockFor candle plan.granularity now) turn)

/-- One candle's turn. -/
def evaluateBar (env : EngineEnv) (plan : TradePlan) (window : List Candle) (now : Int)
    (turn : PlanTurn) (candle : Candle) : PlanTurn :=
  let cfg := DetectorConfig.pineDefaults plan.granularity
  let processed (turn : PlanTurn) : PlanTurn :=
    { turn with state := { turn.state with watermark := some candle.time } }
  let turn := evaluateWatch env plan candle window cfg now turn
  if turn.state.phase = .done then processed turn
  else
    let turn :=
      { turn with fired := turn.fired ++ (maAlignmentControl plan turn.state candle window).toList }
    if turn.state.entriesBlocked then processed turn
    else
      let state := stampMaTouch env plan candle window
        (stampRetrace env plan candle window turn.state)
      processed (evaluateSpine env plan candle window cfg { turn with state })

/-- The loop over the new candles; a plan that is done leaves the rest alone. -/
def evaluateBars (env : EngineEnv) (plan : TradePlan) (window : List Candle) (now : Int) :
    List Candle → PlanTurn → PlanTurn
  | [], turn => turn
  | candle :: rest, turn =>
    let turn := evaluateBar env plan window now turn candle
    if turn.state.phase = .done then turn else evaluateBars env plan window now rest turn

structure PlanEval where
  fired : List FiredIntent
  newState : PlanState
  done : Bool
  warnings : List AnchorWarning
  entryDeclines : List EntryDecline

def PlanTurn.toEval (turn : PlanTurn) (warnings : List AnchorWarning) : PlanEval :=
  { fired := turn.fired
    newState := turn.state
    done := turn.state.phase = .done
    warnings
    entryDeclines := turn.entryDeclines }

/-- Evaluates a plan against the candles that have closed since its watermark. -/
def evaluatePlan (env : EngineEnv) (plan : TradePlan) (prior : PlanState)
    (newCandles window : List Candle) (now expiresAt : Int) : PlanEval :=
  (evaluateBars env plan window now newCandles { state := { prior with expiresAt } }).toEval
    (trendlineAnchorWarnings plan window)

/-- Runs only the control rules, against the wall clock. -/
def evaluateControlsOnly (env : EngineEnv) (plan : TradePlan) (prior : PlanState)
    (lastCandle : Candle) (now expiresAt : Int) : PlanEval :=
  (evaluateControls env plan lastCandle [lastCandle] now
    { state := { prior with expiresAt } }).toEval []

/-- No scripts and no spread hours. -/
def calmEngine : EngineEnv :=
  { rules :=
      { naturals := fun _ _ => .error .parse
        rationals := fun _ _ _ _ => .error .parse
        booleans := fun _ _ _ _ => .error .parse }
    spreads := { schedule := fun _ => none, lookupKey := id, isNyCloseEdge := fun _ => false }
    spreadLookupKey := fun instrument _ => instrument }

end TradeControl
