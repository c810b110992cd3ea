import TradeControl.FireRule

namespace TradeControl.EngineV2

inductive FactValue
  | atTime (time : Int)
  | flag (on : Bool)
  | num (number : Rat)
  deriving DecidableEq

/-- The facts of one plan by line and kind, and each rule's private scratch by rule and kind. -/
structure Facts where
  entries : String × String → Option FactValue := fun _ => none
  scratch : String × String → Option FactValue := fun _ => none

def Facts.setNamed (facts : Facts) (line kind : String) (value : FactValue) : Facts :=
  { facts with entries := Function.update facts.entries (line, kind) (some value) }

def Facts.isSetNamed (facts : Facts) (line kind : String) : Bool := (facts.entries (line, kind)).isSome

def Facts.atNamed (facts : Facts) (line kind : String) : Option Int :=
  match facts.entries (line, kind) with
  | some (.atTime time) => some time
  | _ => none

def Facts.flagNamed (facts : Facts) (line kind : String) : Option Bool :=
  match facts.entries (line, kind) with
  | some (.flag on) => some on
  | _ => none

def Facts.setScratchNamed (facts : Facts) (ruleId kind : String) (value : FactValue) : Facts :=
  { facts with scratch := Function.update facts.scratch (ruleId, kind) (some value) }

def Facts.numScratchNamed (facts : Facts) (ruleId kind : String) : Option Rat :=
  match facts.scratch (ruleId, kind) with
  | some (.num number) => some number
  | _ => none

def breakCloseName : String := "break_close"

def retestName : String := "retest"

def entryOutcomeName : String := "entry_outcome"

def lastCloseName : String := "last_close"

def invalidatedName : String := "invalidated"

def pausedName : String := "paused"

/-- The slot of the facts about the whole plan. -/
def planScope : String := "__plan__"

def necklineName : String := "neckline"

def tooHighName : String := "too_high"

def tooLowName : String := "too_low"

def expiryName : String := "expiry"

structure Line where
  name : String
  a : LinePoint
  b : LinePoint

structure PriceLevel where
  name : String
  price : Rat

structure TimeMarker where
  name : String
  atEpoch : Int

structure NewsWindow where
  start : Int
  stop : Int

def NewsWindow.contains (window : NewsWindow) (t : Int) : Bool := window.start ≤ t ∧ t < window.stop

inductive EntryMechanism
  | stop
  | limit
  | market

inductive RuleKind
  | breakAndClose
  | retest
  | enter
  | invalidateHigh
  | invalidateLow
  | expiry
  | pause
  deriving DecidableEq

/-- A rule as plan data; `preps` and `mechanism` are an enter's. -/
structure PlanRule where
  id : String
  kind : RuleKind
  intent : RuleIntent
  bar : BarEvent
  dir : CrossDir
  preps : List (String × List String) := []
  mechanism : EntryMechanism := .stop

structure TradePlan where
  granularity : Granularity
  lines : List Line := []
  levels : List PriceLevel := []
  markers : List TimeMarker := []
  pauseWindows : List NewsWindow := []
  rules : List PlanRule
  crossBufferPct : Rat := 0
  retestAtrStep : Rat := 75 / 1000

def TradePlan.line (plan : TradePlan) (name : String) : Option Line :=
  plan.lines.find? fun line => line.name == name

def TradePlan.level (plan : TradePlan) (name : String) : Option PriceLevel :=
  plan.levels.find? fun level => level.name == name

def TradePlan.marker (plan : TradePlan) (name : String) : Option TimeMarker :=
  plan.markers.find? fun marker => marker.name == name

/-- What a rule asks the driver to do. -/
inductive Effect
  | fire (fired : FiredIntent)
  | writeFact (line kind : String) (value : FactValue)
  | writeScratch (ruleId kind : String) (value : FactValue)
  | placeOrder (fired : FiredIntent) (mechanism : EntryMechanism) (triggerPrice : Option Rat)
      (candleClose : Rat)
  | invalidate (ruleId : String)

/-- What a rule reads; the current bar is the window's last. -/
structure World where
  now : Int
  window : List Candle
  facts : Facts
  plan : TradePlan

def World.current (w : World) : Option Candle := w.window.getLast?

/-- A cross by the previous close: the bar that passes the far edge of the buffered line. -/
def levelCrossed (level : Rat) (dir : CrossDir) (bar : BarEvent) (candle : Candle)
    (prevClose : Option Rat) (bufferPct : Rat) : Bool :=
  let buffer := level * bufferPct / 100
  match bar with
  | .intrabar =>
    decide (candle.l ≤ level ∧ level ≤ candle.h) &&
      match dir with
      | .either => true
      | .up => level + buffer ≤ candle.h
      | .down => candle.l ≤ level - buffer
  | .onClose =>
    match prevClose with
    | none => false
    | some prev =>
      let upper := level + buffer
      let lower := level - buffer
      dir.picks (prev < upper ∧ upper ≤ candle.c) (lower < prev ∧ candle.c ≤ lower)

/-- The averages' triggers are not matched by the source; no rule here is built with one. -/
def evalTrigger (trigger : Trigger) (candle : Candle) (prevClose : Option Rat) (window : List Candle)
    (bufferPct : Rat) : Bool :=
  match trigger with
  | .horizontalCross level dir bar | .priceValueCross level dir bar =>
    levelCrossed level dir bar candle prevClose bufferPct
  | .trendlineCross a b extendForward barSeconds dir bar =>
    (linePriceAt a b candle extendForward barSeconds window).any fun level =>
      levelCrossed level dir bar candle prevClose bufferPct
  | .timeReached atEpoch => atEpoch ≤ timestamp candle.time
  | .mwEveryBar => true
  | .pinePattern _ _ | .pullbackFromArm _ _ _ | .adverseMaCross _ | .adverseMaBreak _ _ => false

def usesClose (bar : BarEvent) : Bool := bar = .onClose

/-- A horizontal level needs no window. -/
def evalLevel (level : Rat) (dir : CrossDir) (bar : BarEvent) (candle : Candle)
    (prevClose : Option Rat) (bufferPct : Rat) : Bool :=
  evalTrigger (.horizontalCross level dir bar) candle prevClose [] bufferPct

def evalTime (markerEpoch : Int) (candle : Candle) : Bool := markerEpoch ≤ timestamp candle.time

def PlanRule.triggerFor (rule : PlanRule) (line : Line) (barSeconds : Int) : Trigger :=
  .trendlineCross line.a line.b true barSeconds rule.dir rule.bar

def PlanRule.isSpreadHour (rule : PlanRule) (env : EngineEnv) (candle : Candle) : Bool :=
  env.spreads.isSpreadHour (env.spreadLookupKey rule.intent.instrument rule.intent.account) candle.time

def firedIntent (rule : PlanRule) (candle : Candle) : FiredIntent :=
  { ruleId := rule.id, intent := rule.intent, candle }

/-- The scratch an `OnClose` rule leaves for the next bar. -/
def PlanRule.recordLastClose (rule : PlanRule) (candle : Candle) : List Effect :=
  if usesClose rule.bar then [.writeScratch rule.id lastCloseName (.num candle.c)] else []

/-- `BreakAndClose::tick`. -/
def breakAndCloseTick (env : EngineEnv) (name : String) (rule : PlanRule) (w : World) : List Effect :=
  if w.facts.isSetNamed name breakCloseName then []
  else
    match w.current, w.plan.line name with
    | some candle, some line =>
      let trigger := rule.triggerFor line w.plan.granularity.seconds
      let prevClose := w.facts.numScratchNamed rule.id lastCloseName
      let hit := evalTrigger trigger candle prevClose w.window w.plan.crossBufferPct
      let effects := rule.recordLastClose candle
      if hit && !rule.isSpreadHour env candle then
        effects ++ [.writeFact name breakCloseName (.atTime candle.time), .fire (firedIntent rule candle)]
      else effects
    | _, _ => []

def nearlyCrossed (level : Rat) (dir : CrossDir) (candle : Candle) (tol : Rat) : Bool :=
  match dir with
  | .down => candle.l ≤ level + tol
  | .up => level - tol ≤ candle.h
  | .either => candle.l ≤ level + tol ∧ level - tol ≤ candle.h

def retestCrossed (trigger : Trigger) (candle : Candle) (prevClose : Option Rat) (window : List Candle)
    (bufferPct tol : Rat) : Bool :=
  if tol ≤ 0 then evalTrigger trigger candle prevClose window bufferPct
  else
    let loosely (level : Rat) (dir : CrossDir) : BarEvent → Bool
      | .intrabar => nearlyCrossed level dir candle tol
      | .onClose => levelCrossed level dir .onClose candle prevClose bufferPct
    match trigger with
    | .horizontalCross level dir bar | .priceValueCross level dir bar => loosely level dir bar
    | .trendlineCross a b extendForward barSeconds dir bar =>
      (linePriceAt a b candle extendForward barSeconds window).any fun level => loosely level dir bar
    | _ => evalTrigger trigger candle prevClose window bufferPct

/-- The near-side tolerance grows by a share of the average range a bar; `none` where that is unknown. -/
def retestTolerance (breakAt : Int) (candle : Candle) (window : List Candle) (plan : TradePlan) :
    Option Rat :=
  let barsSinceBreak := (window.filter fun c => breakAt < c.time ∧ c.time ≤ candle.time).length
  if barsSinceBreak ≤ 1 then some 0
  else (wilderAtr window (atrLengthFor plan.granularity)).map fun atr =>
    ((barsSinceBreak : Rat) - 1) * plan.retestAtrStep * atr

/-- `Retest::tick`. -/
def retestTick (env : EngineEnv) (name : String) (rule : PlanRule) (w : World) : List Effect :=
  if w.facts.isSetNamed name retestName then []
  else
    match w.facts.atNamed name breakCloseName, w.current, w.plan.line name with
    | some breakAt, some candle, some line =>
      if candle.time ≤ breakAt then []
      else
        let trigger := rule.triggerFor line w.plan.granularity.seconds
        let effects := rule.recordLastClose candle
        match retestTolerance breakAt candle w.window w.plan with
        | none => effects
        | some tol =>
          let prevClose := w.facts.numScratchNamed rule.id lastCloseName
          let crossed := retestCrossed trigger candle prevClose w.window w.plan.crossBufferPct tol
          if crossed && !rule.isSpreadHour env candle then
            effects ++ [.writeFact name retestName (.atTime candle.time)]
          else effects
    | _, _, _ => []

/-- `Invalidate::tick`. -/
def invalidateTick (env : EngineEnv) (name : String) (rule : PlanRule) (w : World) : List Effect :=
  if w.facts.isSetNamed planScope invalidatedName then []
  else
    match w.current, w.plan.level name with
    | some candle, some level =>
      let prevClose := w.facts.numScratchNamed rule.id lastCloseName
      let hit := evalLevel level.price rule.dir rule.bar candle prevClose w.plan.crossBufferPct
      let effects := rule.recordLastClose candle
      if hit && !rule.isSpreadHour env candle then effects ++ [.invalidate rule.id] else effects
    | _, _ => []

/-- `Expiry::tick`. -/
def expiryTick (name : String) (rule : PlanRule) (w : World) : List Effect :=
  if w.facts.isSetNamed planScope invalidatedName then []
  else
    match w.current, w.plan.marker name with
    | some candle, some marker => if evalTime marker.atEpoch candle then [.invalidate rule.id] else []
    | _, _ => []

/-- `Pause::tick`: the flag is written when it changes. -/
def pauseTick (w : World) : List Effect :=
  let pausedNow := w.plan.pauseWindows.any (·.contains w.now)
  let flagNow := (w.facts.flagNamed planScope pausedName).getD false
  if pausedNow = flagNow then [] else [.writeFact planScope pausedName (.flag pausedNow)]

/-- Every milestone has a time, each strictly after the one before. -/
def lineChainSatisfied (facts : Facts) (line : String) : Option Int → List String → Bool
  | _, [] => true
  | prev, kind :: rest =>
    match facts.atNamed line kind with
    | none => false
    | some time => prev.all (· < time) && lineChainSatisfied facts line (some time) rest

def PlanRule.prepsSatisfied (rule : PlanRule) (facts : Facts) : Bool :=
  rule.preps.all fun (line, kinds) => lineChainSatisfied facts line none kinds

/-- `Enter::tick`. -/
def enterTick (rule : PlanRule) (w : World) : List Effect :=
  if w.facts.isSetNamed rule.id entryOutcomeName then []
  else if w.facts.isSetNamed planScope invalidatedName then []
  else if w.facts.flagNamed planScope pausedName = some true then []
  else
    match w.current with
    | none => []
    | some candle =>
      if !rule.prepsSatisfied w.facts then []
      else [.placeOrder (firedIntent rule candle) rule.mechanism none candle.c]

def tickRule (env : EngineEnv) (rule : PlanRule) (w : World) : List Effect :=
  match rule.kind with
  | .breakAndClose => breakAndCloseTick env necklineName rule w
  | .retest => retestTick env necklineName rule w
  | .enter => enterTick rule w
  | .invalidateHigh => invalidateTick env tooHighName rule w
  | .invalidateLow => invalidateTick env tooLowName rule w
  | .expiry => expiryTick expiryName rule w
  | .pause => pauseTick w

/-- The driver's one place of writing; an order is kept on the latest bar only. -/
def apply (facts : Facts) (fires : List Effect) (latestBar : Bool) (now : Int) :
    List Effect → Facts × List Effect
  | [] => (facts, fires)
  | effect :: rest =>
    match effect with
    | .writeFact line kind value => apply (facts.setNamed line kind value) fires latestBar now rest
    | .writeScratch ruleId kind value => apply (facts.setScratchNamed ruleId kind value) fires latestBar now rest
    | .fire _ => apply facts (fires ++ [effect]) latestBar now rest
    | .placeOrder _ _ _ _ => apply facts (if latestBar then fires ++ [effect] else fires) latestBar now rest
    | .invalidate _ =>
      apply (facts.setNamed planScope invalidatedName (.atTime now)) (fires ++ [effect]) latestBar now rest

/-- One call of the driver: the window that ends with the bar, the wall clock, and whether the bar is the
newest there is. -/
structure BarTick where
  window : List Candle
  now : Int
  latestBar : Bool

/-- The loop over the plan's rules; each one's effects are applied before the next ticks. -/
def tickRules (env : EngineEnv) (plan : TradePlan) (tick : BarTick) :
    List PlanRule → Facts → List Effect → Facts × List Effect
  | [], facts, fires => (facts, fires)
  | rule :: rest, facts, fires =>
    let effects := tickRule env rule { now := tick.now, window := tick.window, facts, plan }
    let (facts, fires) := apply facts fires tick.latestBar tick.now effects
    tickRules env plan tick rest facts fires

def tickOnce (env : EngineEnv) (plan : TradePlan) (facts : Facts) (tick : BarTick) : Facts × List Effect :=
  if tick.window.isEmpty then (facts, []) else tickRules env plan tick plan.rules facts []

/-- The blackboard after a run of bars from an empty one. -/
def factsAfter (env : EngineEnv) (plan : TradePlan) (ticks : List BarTick) : Facts :=
  ticks.foldl (fun facts tick => (tickOnce env plan facts tick).1) {}

end TradeControl.EngineV2
