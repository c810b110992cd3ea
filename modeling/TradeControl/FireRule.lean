import Mathlib.Data.Finset.Basic
import Mathlib.Logic.Function.Basic
import TradeControl.MovingAverages
import TradeControl.Resolution
import TradeControl.SignalMachine
import TradeControl.SpreadHours
import TradeControl.TradePlan

namespace TradeControl

inductive Phase
  | awaitBreakAndClose
  | awaitEntry
  | done
  deriving DecidableEq

/-- What the evaluator remembers of a plan between two ticks. -/
structure PlanState where
  maTouchSeenAt : Option Int := none
  retraceSeenAt : Option Int := none
  watermark : Option Int := none
  phase : Phase
  fired : Finset String := ∅
  lastClose : String → Option Rat := fun _ => none
  originOpen : String → Option Rat := fun _ => none
  breakCloseAt : Option Int := none
  retestSeenAt : Option Int := none
  pullbackSeenAt : Option Int := none
  lastConfirmedEnterAt : Option Int := none
  openNewsWindows : Finset String := ∅
  entriesBlocked : Bool := false
  expiresAt : Int

def PlanState.seed (phase : Phase) (expiresAt : Int) : PlanState := { phase, expiresAt }

structure FiredIntent where
  ruleId : String
  intent : RuleIntent
  candle : Candle
  signal : Option LatchedSignal := none

inductive DeclineReason
  | notGolden
  | notConfirmed
  | resolve (error : ResolveError)
  deriving DecidableEq

/-- The shared wordings; a resolution's own text is its error's. -/
def DeclineReason.text : DeclineReason → Option String
  | .notGolden => "needs golden but signal is not golden"
  | .notConfirmed => "needs confirmation but signal is not confirmed"
  | .resolve _ => none

structure EntryDecline where
  bar : Int
  ruleId : String
  reason : DeclineReason

/-- What the evaluation of some bars has come to: the state so far, what fired and what was declined. -/
structure PlanTurn where
  state : PlanState
  fired : List FiredIntent := []
  entryDeclines : List EntryDecline := []

/-- `push_fire_signal`. -/
def PlanTurn.pushFire (turn : PlanTurn) (rule : ConditionRule) (candle : Candle)
    (signal : Option LatchedSignal := none) : PlanTurn :=
  { turn with
    fired := turn.fired ++ [{ ruleId := rule.ruleId, intent := rule.intent, candle, signal }] }

@[simp] theorem PlanTurn.pushFire_state (turn : PlanTurn) (rule : ConditionRule) (candle : Candle)
    (signal : Option LatchedSignal) : (turn.pushFire rule candle signal).state = turn.state := rfl

/-- The latest of the instants that are there. -/
def latest (instants : List (Option Int)) : Option Int := (instants.filterMap id).max?

/-- The rules the evaluator rests on: scripts, the spread hours, and the key an account's own
measurements of an instrument are filed under. -/
structure EngineEnv where
  rules : Rules
  spreads : SpreadCalendar
  spreadLookupKey : String → Option String → String

def spreadHourSuppressionMaxBarSeconds : Int := 60 * 60

def EngineEnv.suppressOnSpreadHour (env : EngineEnv) (key : String) (instant : Int)
    (granularity : Granularity) : Bool :=
  decide (granularity.seconds ≤ spreadHourSuppressionMaxBarSeconds) &&
    env.spreads.isSpreadHour key instant

/-- The spread clocks of the plan's accounts. -/
def EngineEnv.keys (env : EngineEnv) (plan : TradePlan) : List String :=
  let keys := (plan.rules.filter fun rule => rule.intent.instrument = plan.instrument).map
    fun rule => env.spreadLookupKey rule.intent.instrument rule.intent.account
  if keys.isEmpty then [plan.instrument] else keys

def EngineEnv.suppressPlan (env : EngineEnv) (plan : TradePlan) (instant : Int) : Bool :=
  (env.keys plan).any fun key => env.suppressOnSpreadHour key instant plan.granularity

def EngineEnv.suppressIntent (env : EngineEnv) (intent : RuleIntent) (instant : Int)
    (granularity : Granularity) : Bool :=
  env.suppressOnSpreadHour (env.spreadLookupKey intent.instrument intent.account) instant granularity

/-- The bar of the window with this open time. -/
def windowIndex (window : List Candle) (time : Int) : Option Nat :=
  window.findIdx? fun c => c.time == time

/-- The position of an epoch on the bars' own axis, outside the window by the nominal spacing. -/
def barIndexAt (epoch : Int) (window : List Candle) (barSeconds : Int) : Option Rat := do
  let first := timestamp (← window.head?).time
  let last := timestamp (← window.getLast?).time
  match window.findIdx? fun c => timestamp c.time == epoch with
  | some i => return i
  | none =>
    if epoch < first then
      if barSeconds ≤ 0 then none else return -(((first - epoch : Int) : Rat) / barSeconds)
    else if last < epoch then
      if barSeconds ≤ 0 then none
      else return ((window.length - 1 : Nat) : Rat) + ((epoch - last : Int) : Rat) / barSeconds
    else
      let hi ← window.findIdx? fun c => epoch < timestamp c.time
      let lo := hi - 1
      let loTime := timestamp (← window[lo]?).time
      let hiTime := timestamp (← window[hi]?).time
      return (lo : Rat) + ((epoch - loTime : Int) : Rat) / ((hiTime - loTime : Int) : Rat)

/-- A drawn line's price on a candle. -/
def linePriceAt (a b : LinePoint) (t : Candle) (extendForward : Bool) (barSeconds : Int)
    (window : List Candle) : Option Rat := do
  let ia ← barIndexAt a.atEpoch window barSeconds
  let ib ← barIndexAt b.atEpoch window barSeconds
  let it ← barIndexAt (timestamp t.time) window barSeconds
  if ib < it ∧ !extendForward then none
  else if ib - ia = 0 then return a.price
  else return a.price + (b.price - a.price) * ((it - ia) / (ib - ia))

/-- The retest line's price change from one bar to the next. -/
def necklineSlope (retestRule : ConditionRule) (window : List Candle) : Rat :=
  match retestRule.trigger with
  | .trendlineCross a b _ barSeconds _ _ =>
    match barIndexAt a.atEpoch window barSeconds, barIndexAt b.atEpoch window barSeconds with
    | some ia, some ib => if ib - ia = 0 then 0 else (b.price - a.price) / (ib - ia)
    | _, _ => 0
  | _ => 0

inductive AnchorResolution
  | inWindow
  | extrapolated
  | unresolvable
  deriving DecidableEq

def classifyAnchor (epoch : Int) (window : List Candle) (barSeconds : Int) : AnchorResolution :=
  match window.head?, window.getLast? with
  | some first, some last =>
    if timestamp first.time ≤ epoch ∧ epoch ≤ timestamp last.time then .inWindow
    else if barSeconds ≤ 0 then .unresolvable
    else .extrapolated
  | _, _ => .unresolvable

/-- A warning that a trendline's anchor lies outside the window, with what its text names. -/
structure AnchorWarning where
  ruleId : String
  label : String
  epoch : Int
  windowLength : Nat
  barSeconds : Int
  resolution : AnchorResolution
  deriving DecidableEq

def trendlineAnchorWarnings (plan : TradePlan) (window : List Candle) : List AnchorWarning :=
  plan.rules.flatMap fun rule =>
    match rule.trigger with
    | .trendlineCross a b _ barSeconds _ _ =>
      [("a", a), ("b", b)].filterMap fun (label, anchor) =>
        match classifyAnchor anchor.atEpoch window barSeconds with
        | .inWindow => none
        | resolution =>
          some { ruleId := rule.ruleId, label, epoch := anchor.atEpoch,
                 windowLength := window.length, barSeconds, resolution }
    | _ => []

/-- What an `OnClose` cross compares with, and whether a settled close or a transition is asked for. -/
structure OnCloseRefs where
  origin : Option Rat
  prevClose : Option Rat
  settled : Bool

/-- How far past a line a cross has to reach: a share of its price and an absolute distance. -/
structure CrossBuffer where
  pct : Rat
  atrAbs : Rat
  deriving DecidableEq

def CrossBuffer.depthAt (buffer : CrossBuffer) (level : Rat) : Rat :=
  level * buffer.pct / 100 + buffer.atrAbs

def resolveCrossBuffer (plan : TradePlan) (window : List Candle) : CrossBuffer :=
  { pct := plan.crossBufferPct
    atrAbs :=
      if plan.crossBufferAtr ≠ 0 then
        ((wilderAtr window (atrLengthFor plan.granularity)).map (plan.crossBufferAtr * ·)).getD 0
      else 0 }

/-- The bar's range reaches the window's average range; an average that is not there fails. -/
def barIsGolden (candle : Candle) (window : List Candle) (granularity : Granularity) : Bool :=
  (wilderAtr window (atrLengthFor granularity)).any fun atr => atr ≤ candle.h - candle.l

def CrossDir.picks (dir : CrossDir) (up down : Bool) : Bool :=
  match dir with
  | .up => up
  | .down => down
  | .either => up || down

def levelCrossed (level : Rat) (dir : CrossDir) (bar : BarEvent) (candle : Candle)
    (refs : OnCloseRefs) (buffer : CrossBuffer) : Bool :=
  let depth := buffer.depthAt level
  match bar with
  | .intrabar =>
    decide (candle.l ≤ level ∧ level ≤ candle.h) &&
      match dir with
      | .either => true
      | .up => level + depth ≤ candle.h
      | .down => candle.l ≤ level - depth
  | .onClose =>
    let upper := level + depth
    let lower := level - depth
    if refs.settled then
      match refs.origin with
      | none => false
      | some origin =>
        dir.picks (origin < level ∧ upper ≤ candle.c) (level < origin ∧ candle.c ≤ lower)
    else
      match refs.prevClose with
      | none => false
      | some prev => dir.picks (prev < upper ∧ upper ≤ candle.c) (lower < prev ∧ candle.c ≤ lower)

def evalTrigger (trigger : Trigger) (candle : Candle) (refs : OnCloseRefs) (window : List Candle)
    (buffer : CrossBuffer) : Bool :=
  match trigger with
  | .horizontalCross level dir bar | .priceValueCross level dir bar =>
    levelCrossed level dir bar candle refs buffer
  | .trendlineCross a b extendForward barSeconds dir bar =>
    (linePriceAt a b candle extendForward barSeconds window).any fun level =>
      levelCrossed level dir bar candle refs buffer
  | .adverseMaBreak average dir =>
    (windowIndex window candle.time).any fun i => averageBreakAt window i average dir
  | .adverseMaCross dir => (windowIndex window candle.time).any fun i => adverseCrossAt window i dir
  | .timeReached atEpoch => atEpoch ≤ timestamp candle.time
  | .mwEveryBar => true
  | .pinePattern _ _ => false
  | .pullbackFromArm _ _ _ => false

/-- The direction of a cross that is judged on the close. -/
def Trigger.onCloseDir : Trigger → Option CrossDir
  | .horizontalCross _ dir .onClose | .priceValueCross _ dir .onClose => some dir
  | .trendlineCross _ _ _ _ dir .onClose => some dir
  | _ => none

def triggerUsesClose (trigger : Trigger) : Bool := trigger.isAdverseMa || trigger.onCloseDir.isSome

def oncloseLevelAt (trigger : Trigger) (candle : Candle) (window : List Candle) : Option Rat :=
  match trigger with
  | .horizontalCross level _ .onClose | .priceValueCross level _ .onClose => some level
  | .trendlineCross a b extendForward barSeconds _ .onClose =>
    linePriceAt a b candle extendForward barSeconds window
  | _ => none

/-- The first open a close-reading rule saw stays its origin. -/
def PlanState.recordOriginOpen (state : PlanState) (rule : ConditionRule) (candle : Candle) :
    PlanState :=
  if triggerUsesClose rule.trigger ∧ (state.originOpen rule.ruleId).isNone then
    { state with originOpen := Function.update state.originOpen rule.ruleId (some candle.o) }
  else state

def PlanState.recordLastClose (state : PlanState) (rule : ConditionRule) (candle : Candle) :
    PlanState :=
  if triggerUsesClose rule.trigger then
    { state with lastClose := Function.update state.lastClose rule.ruleId (some candle.c) }
  else state

/-- The near-side origin a bar that dips back across the line gives a rule armed past it. -/
def reseatedOrigin (dir : CrossDir) (level origin : Rat) (candle : Candle) : Option Rat :=
  match dir with
  | .up =>
    if level ≤ origin ∧ (candle.o < level ∨ candle.c < level) then some (min candle.o candle.c)
    else none
  | .down =>
    if origin ≤ level ∧ (level < candle.o ∨ level < candle.c) then some (max candle.o candle.c)
    else none
  | .either => none

def PlanState.reseatOriginOnDip (state : PlanState) (rule : ConditionRule) (candle : Candle)
    (window : List Candle) : PlanState :=
  let moved : Option Rat := do
    if isEnter rule then none
    else
      let dir ← rule.trigger.onCloseDir
      let level ← oncloseLevelAt rule.trigger candle window
      let origin ← state.originOpen rule.ruleId
      reseatedOrigin dir level origin candle
  match moved with
  | none => state
  | some origin =>
    { state with originOpen := Function.update state.originOpen rule.ruleId (some origin) }

/-- A cross read from the wick: neither a close nor a clock. -/
def Trigger.isWickCross (trigger : Trigger) : Bool :=
  !triggerUsesClose trigger &&
    match trigger with
    | .timeReached _ => false
    | _ => true

def PlanState.refsOf (state : PlanState) (rule : ConditionRule) (settled : Bool) : OnCloseRefs :=
  { origin := state.originOpen rule.ruleId, prevClose := state.lastClose rule.ruleId, settled }

/-- Evaluates a rule's trigger on a candle and remembers what the next bar compares with. -/
def fireRule (env : EngineEnv) (rule : ConditionRule) (state : PlanState) (candle : Candle)
    (window : List Candle) (buffer : CrossBuffer) (granularity : Granularity) : Bool × PlanState :=
  let state := (state.recordOriginOpen rule candle).reseatOriginOnDip rule candle window
  let hit := evalTrigger rule.trigger candle (state.refsOf rule (!isEnter rule)) window buffer
  let state := state.recordLastClose rule candle
  (hit && !(rule.trigger.isWickCross && env.suppressIntent rule.intent candle.time granularity), state)

end TradeControl
