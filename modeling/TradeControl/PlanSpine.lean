import TradeControl.FireRule

namespace TradeControl

/-- The candle pattern's signal on a bar of the window, for a rule that asks for `dir`. -/
def evalPineEntry (candle : Candle) (window : List Candle) (cfg : DetectorConfig)
    (pattern : Option SignalKind) (dir : Direction) (confirmedFirst needsGolden : Bool)
    (confirmedFloor confirmedAfter : Option Int) (printOnly : Bool)
    (conditions : Option EntryConditions) : Option LatchedSignal := do
  let idx ← windowIndex window candle.time
  let qualifies (start print : Int) : Bool :=
    conditions.all fun conditions => conditions.patternQualifies window start print dir
  let sig ←
    if confirmedFirst then
      let scanFloor :=
        confirmedScanFloor (window.map (·.time)) idx cfg cfg.granularity confirmedFloor
      let crit : SignalCriteria :=
        { dir, kind := pattern, requireGolden := needsGolden, notBefore := scanFloor,
          after := confirmedAfter }
      firstConfirmedSignalMatchingAt window idx cfg crit qualifies
    else latchedSignalAt window idx cfg
  if !sig.fires then none
  else if sig.direction ≠ dir then none
  else if !pattern.all fun want => sig.kind = want then none
  else if printOnly ∧ !confirmedFirst ∧ sig.signalBarTime ≠ candle.time then none
  else if !qualifies sig.signalStartTime sig.signalBarTime then none
  else return sig

def priceInAnyBand (price : Rat) (bands : List (Rat × Rat)) : Option (Rat × Rat) :=
  bands.find? fun (lo, hi) => lo ≤ price ∧ price ≤ hi

/-- A reversal close passes when no window is asked for, or one that is asked for holds. -/
def closeWindowsPass (intent : RuleIntent) (sig : LatchedSignal) (openNewsWindows : Finset String) :
    Bool :=
  let wantsNews := intent.insideWindow.contains .news
  let wantsPrice := intent.insideWindow.contains .price
  let newsPassed := wantsNews && decide (openNewsWindows ≠ ∅)
  let pricePassed := wantsPrice && (priceInAnyBand sig.bandAnchor intent.srBands).isSome
  newsPassed || pricePassed || !(wantsNews || wantsPrice)

def evalPineGuard (intent : RuleIntent) (candle : Candle) (window : List Candle)
    (cfg : DetectorConfig) (pattern : Option SignalKind) (dir : Direction)
    (openNewsWindows : Finset String) : Option LatchedSignal := do
  let sig ← evalPineEntry candle window cfg pattern dir false false none none false none
  if !closeWindowsPass intent sig openNewsWindows then none
  else if intent.needsGolden ∧ !sig.golden then none
  else if intent.needsConfirmed ∧ !sig.signalConfirmed then none
  else return sig

/-- `Shell::from_candle`. -/
def Shell.ofCandle (candle : Candle) : Shell :=
  { time := candle.time, openPrice := some candle.o, high := candle.h, low := candle.l,
    close := candle.c }

/-- `Shell::from_candle_and_signal`. -/
def Shell.ofCandleAndSignal (candle : Candle) (sig : LatchedSignal) : Shell :=
  { Shell.ofCandle candle with
    signalHigh := some sig.signalHigh
    signalLow := some sig.signalLow
    golden := some sig.golden
    signalConfirmed := some sig.signalConfirmed
    atr := sig.atr
    recentHigh := sig.recentHigh
    recentLow := sig.recentLow }

/-- Whether a fired pattern enter would be accepted: its quality flags and its bracket. -/
def pineEntryDispatchable (env : EngineEnv) (intent : RuleIntent) (candle : Candle)
    (sig : LatchedSignal) (pipSize : Rat) : Except DeclineReason Unit :=
  if intent.needsGolden ∧ !sig.golden then .error .notGolden
  else if intent.needsConfirmed ∧ !sig.signalConfirmed then .error .notConfirmed
  else
    match Resolved.fromIntent env.rules intent.toIntent (.ofCandleAndSignal candle sig) pipSize
        (intent.tickSize.getD pipSize) with
    | .ok _ => .ok ()
    | .error error => .error (.resolve error)

/-- The wall clock a candle's control rules are judged by: its close, never ahead of `now`. -/
def controlClockFor (candle : Candle) (granularity : Granularity) (now : Int) : Int :=
  min (candle.time + seconds granularity.seconds) now

def controlRuleFires (env : EngineEnv) (rule : ConditionRule) (state : PlanState) (candle : Candle)
    (window : List Candle) (buffer : CrossBuffer) (now : Int) (granularity : Granularity) :
    Bool × PlanState :=
  match rule.trigger with
  | .timeReached atEpoch => (decide (atEpoch ≤ timestamp now), state)
  | _ => fireRule env rule state candle window buffer granularity

/-- The news windows after a control rule fired. -/
def newsWindowsAfter (rule : ConditionRule) (openNewsWindows : Finset String) : Finset String :=
  match rule.intent.newsId, rule.intent.action with
  | some newsId, .newsStart => insert newsId openNewsWindows
  | some newsId, .newsEnd => openNewsWindows.erase newsId
  | _, _ => openNewsWindows

/-- One control rule's turn on a candle. -/
def evaluateControl (env : EngineEnv) (plan : TradePlan) (candle : Candle) (window : List Candle)
    (now : Int) (turn : PlanTurn) (rule : ConditionRule) : PlanTurn :=
  if !isControlRule rule ∨ rule.ruleId ∈ turn.state.fired then turn
  else
    let (fires, state) := controlRuleFires env rule turn.state candle window
      (resolveCrossBuffer plan window) now plan.granularity
    if fires then
      { turn with
        state :=
          { state with
            fired := insert rule.ruleId state.fired
            openNewsWindows := newsWindowsAfter rule state.openNewsWindows } }.pushFire rule candle
    else { turn with state }

def evaluateControls (env : EngineEnv) (plan : TradePlan) (candle : Candle) (window : List Candle)
    (now : Int) (turn : PlanTurn) : PlanTurn :=
  plan.rules.foldl (evaluateControl env plan candle window now) turn

/-- A setup invalidation is armed in every phase, a per-position close once there may be a position. -/
def armedInRule (rule : ConditionRule) (phase : Phase) (entriesBlocked : Bool) : Bool :=
  guardIsTerminal rule || decide (phase = .awaitEntry) || entriesBlocked

/-- A bar an average's guard does not judge: it closed before the arm or the replay's start. -/
def beforeArm (plan : TradePlan) (candle : Candle) : Bool :=
  plan.armedAt.any (fun arm => candle.time + seconds plan.granularity.seconds ≤ arm) ||
    plan.replayStart.any fun start => timestamp candle.time + plan.granularity.seconds ≤ start

/-- Whether a guard fires on a candle, and with what signal. -/
def guardSignal (env : EngineEnv) (plan : TradePlan) (rule : ConditionRule) (state : PlanState)
    (candle : Candle) (window : List Candle) (cfg : DetectorConfig) :
    Option (Option LatchedSignal) × PlanState :=
  if rule.trigger.isAdverseMa ∧ beforeArm plan candle then (none, state)
  else match rule.trigger with
    | .pinePattern pattern dir =>
      if env.suppressIntent rule.intent candle.time plan.granularity then (none, state)
      else
        ((evalPineGuard rule.intent candle window cfg pattern dir state.openNewsWindows).map some,
          state)
    | _ =>
      let (hit, state) := fireRule env rule state candle window (resolveCrossBuffer plan window)
        plan.granularity
      (if hit then some none else none, state)

/-- The scan over a bar's guards, and whether one that ends the plan has fired. -/
structure GuardScan where
  turn : PlanTurn
  terminalFired : Bool := false

/-- One guard's turn on a candle. -/
def evaluateGuard (env : EngineEnv) (plan : TradePlan) (candle : Candle) (window : List Candle)
    (cfg : DetectorConfig) (scan : GuardScan) (rule : ConditionRule) : GuardScan :=
  if !isGuard rule ∨ rule.ruleId ∈ scan.turn.state.fired then scan
  else if !armedInRule rule scan.turn.state.phase scan.turn.state.entriesBlocked then scan
  else
    let (signal, state) := guardSignal env plan rule scan.turn.state candle window cfg
    match signal with
    | none => { scan with turn := { scan.turn with state } }
    | some signal =>
      let blocks := guardIsTerminal rule && !vetoRetiresPlan rule
      { turn :=
          { scan.turn with
            state :=
              { state with
                fired := insert rule.ruleId state.fired
                entriesBlocked := state.entriesBlocked || blocks } }.pushFire rule candle signal
        terminalFired := scan.terminalFired || (guardIsTerminal rule && vetoRetiresPlan rule) }

def evaluateGuards (env : EngineEnv) (plan : TradePlan) (candle : Candle) (window : List Candle)
    (cfg : DetectorConfig) (turn : PlanTurn) : PlanTurn :=
  let scan := plan.rules.foldl (evaluateGuard env plan candle window cfg) { turn }
  if scan.terminalFired then
    { scan.turn with state := { scan.turn.state with phase := .done } }
  else scan.turn

/-- The break-and-close prep: it fires once, dates the break and lets the entry be watched. -/
def evaluateBreakAndClose (env : EngineEnv) (plan : TradePlan) (candle : Candle)
    (window : List Candle) (turn : PlanTurn) : PlanTurn :=
  match plan.rules.find? isBreakAndClose with
  | none => { turn with state := { turn.state with phase := .awaitEntry } }
  | some rule =>
    if rule.ruleId ∈ turn.state.fired then turn
    else if plan.bcrRequireGolden ∧ !barIsGolden candle window plan.granularity then turn
    else
      let (hit, state) := fireRule env rule turn.state candle window
        (resolveCrossBuffer plan window) plan.granularity
      if hit then
        { turn with
          state :=
            { state with
              fired := insert rule.ruleId state.fired
              breakCloseAt := some candle.time
              phase := .awaitEntry } }.pushFire rule candle
      else { turn with state }

/-- The edge a retest is measured from; a plan without a break rule broke before its window. -/
def effectiveBreakAt (plan : TradePlan) (state : PlanState) (window : List Candle) : Option Int :=
  match state.breakCloseAt with
  | some breakAt => some breakAt
  | none =>
    if hasBreakAndClose plan then none
    else window.head?.map fun c => c.time - seconds 1

def barsSinceBreak (window : List Candle) (breakAt : Int) (candle : Candle) : Nat :=
  (window.filter fun c => breakAt < c.time ∧ c.time ≤ candle.time).length

/-- How near the line a retest may stay: nothing on the first bar, the line's drift on later ones. -/
def retestTolerance (plan : TradePlan) (retestRule : ConditionRule) (breakAt : Int)
    (candle : Candle) (window : List Candle) : Rat :=
  let bars := barsSinceBreak window breakAt candle
  if bars ≤ 1 then 0
  else if (wilderAtr window (atrLengthFor plan.granularity)).isNone then 0
  else ((bars : Rat) - 1) * plan.retestAtrStep * |necklineSlope retestRule window|

/-- A near-side touch: the wick comes within `tol` of the line. -/
def nearlyCrossed (level : Rat) (dir : CrossDir) (candle : Candle) (tol : Rat) : Bool :=
  match dir with
  | .down => candle.l ≤ level + tol
  | .up => level - tol ≤ candle.h
  | .either => candle.l ≤ level + tol ∧ level - tol ≤ candle.h

def retestCrossed (trigger : Trigger) (candle : Candle) (refs : OnCloseRefs) (window : List Candle)
    (buffer : CrossBuffer) (tol : Rat) : Bool :=
  if tol ≤ 0 then evalTrigger trigger candle refs window buffer
  else
    let loosely (level : Rat) (dir : CrossDir) : BarEvent → Bool
      | .intrabar => nearlyCrossed level dir candle tol
      | .onClose => levelCrossed level dir .onClose candle refs buffer
    match trigger with
    | .horizontalCross level dir bar | .priceValueCross level dir bar => loosely level dir bar
    | .trendlineCross a b extendForward barSeconds dir bar =>
      (linePriceAt a b candle extendForward barSeconds window).any fun level => loosely level dir bar
    | _ => evalTrigger trigger candle refs window buffer

def stampRetest (env : EngineEnv) (plan : TradePlan) (candle : Candle) (window : List Candle)
    (turn : PlanTurn) : PlanTurn :=
  match effectiveBreakAt plan turn.state window, plan.rules.find? isRetest with
  | some breakAt, some rule =>
    if candle.time ≤ breakAt then turn
    else
      let tol := retestTolerance plan rule breakAt candle window
      let spreadHour := env.suppressPlan plan candle.time
      let state := (turn.state.recordOriginOpen rule candle).reseatOriginOnDip rule candle window
      let goldenOk := !plan.bcrRequireGolden || barIsGolden candle window plan.granularity
      let stamps := goldenOk && !spreadHour && state.retestSeenAt.isNone &&
        retestCrossed rule.trigger candle (state.refsOf rule true) window
          (resolveCrossBuffer plan window) tol
      let turn : PlanTurn :=
        if stamps then
          { turn with state := { state with retestSeenAt := some candle.time } }.pushFire rule candle
        else { turn with state }
      { turn with state := turn.state.recordLastClose rule candle }
  | _, _ => turn

def retestSatisfied (plan : TradePlan) (state : PlanState) (entryTime : Int) : Bool :=
  match state.breakCloseAt, state.retestSeenAt with
  | some breakAt, some seen => breakAt < seen ∧ seen ≤ entryTime
  | none, some seen => !hasBreakAndClose plan ∧ seen ≤ entryTime
  | _, none => false

def extremeBody (candle : Candle) : Direction → Rat
  | .long => max candle.o candle.c
  | .short => min candle.o candle.c

def triggerBody (candle : Candle) : Direction → Rat
  | .long => min candle.o candle.c
  | .short => max candle.o candle.c

def further : Direction → Rat → Rat → Rat
  | .long => max
  | .short => min

/-- The running body extreme of the bars from `armedAt` to `upTo`. -/
def bodyExtreme (window : List Candle) (armedAt upTo : Int) (dir : Direction) : Option Rat :=
  match (window.filter fun c => armedAt ≤ c.time ∧ c.time ≤ upTo).map (extremeBody · dir) with
  | [] => none
  | first :: rest => some (rest.foldl (further dir) first)

/-- `pullback::triggered`. -/
def pullbackTriggered (anchorOpen : Rat) (window : List Candle) (armedAt : Int) (atr atrMult : Rat)
    (dir : Direction) (candle : Candle) : Bool :=
  if atr ≤ 0 ∨ atrMult ≤ 0 then false
  else
    let running :=
      match bodyExtreme window armedAt candle.time dir with
      | some extreme => further dir extreme anchorOpen
      | none => anchorOpen
    let distance := atrMult * atr
    let body := triggerBody candle dir
    match dir with
    | .long => body ≤ running - distance
    | .short => running + distance ≤ body

def stampPullback (env : EngineEnv) (plan : TradePlan) (candle : Candle) (window : List Candle)
    (turn : PlanTurn) : PlanTurn :=
  if turn.state.pullbackSeenAt.isSome then turn
  else match plan.rules.find? isPullback with
    | none => turn
    | some rule =>
      match rule.trigger, plan.armedAt, effectiveBreakAt plan turn.state window with
      | .pullbackFromArm anchorOpen atrMult dir, some armedAt, some breakAt =>
        if candle.time ≤ breakAt ∨ env.suppressPlan plan candle.time then turn
        else match wilderAtr window (atrLengthFor plan.granularity) with
          | none => turn
          | some atr =>
            if pullbackTriggered anchorOpen window armedAt atr atrMult dir candle then
              { turn with
                state := { turn.state with pullbackSeenAt := some candle.time } }.pushFire rule candle
            else turn
      | _, _, _ => turn

def pullbackSatisfied (plan : TradePlan) (state : PlanState) (entryTime : Int) : Bool :=
  match state.breakCloseAt, state.pullbackSeenAt with
  | some breakAt, some seen => breakAt < seen ∧ seen ≤ entryTime
  | none, some seen => !hasBreakAndClose plan ∧ seen ≤ entryTime
  | _, none => false

end TradeControl
