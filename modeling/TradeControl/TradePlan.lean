import Mathlib.Data.List.Infix
import TradeControl.CandleMetrics

namespace TradeControl

inductive VetoLevel
  | stopNextEntry
  | cancelPending
  | closePositions
  deriving DecidableEq

inductive EventWindow
  | news
  | price
  deriving DecidableEq

/-- The intent a rule embeds: the entry path's fields and those the plan evaluator reads. -/
structure RuleIntent extends Intent where
  account : Option String := none
  level : Option VetoLevel := none
  newsId : Option String := none
  insideWindow : List EventWindow := []
  srBands : List (Rat × Rat) := []
  blackoutId : Option String := none
  reason : Option String := none

def PrepReq.containsStep (req : PrepReq) (step : String) : Bool := req.alternatives.contains step

/-- `requires_preps.requires_step`. -/
def requiresStep (preps : List PrepReq) (step : String) : Bool := preps.any (·.containsStep step)

inductive AverageKind
  | ema
  | sma
  deriving DecidableEq

structure MovingAverage where
  kind : AverageKind
  period : Nat
  positive : 0 < period := by decide
  deriving DecidableEq

inductive CrossDir
  | up
  | down
  | either
  deriving DecidableEq

inductive BarEvent
  | intrabar
  | onClose
  deriving DecidableEq

inductive FireMode
  | once
  | everyBar
  deriving DecidableEq

/-- A drawn anchor: a Unix second and a price. -/
structure LinePoint where
  atEpoch : Int
  price : Rat
  deriving DecidableEq

inductive Trigger
  | adverseMaCross (dir : Direction)
  | adverseMaBreak (average : MovingAverage) (dir : Direction)
  | horizontalCross (level : Rat) (dir : CrossDir) (bar : BarEvent)
  | priceValueCross (level : Rat) (dir : CrossDir) (bar : BarEvent)
  | trendlineCross (a b : LinePoint) (extendForward : Bool) (barSeconds : Int) (dir : CrossDir)
      (bar : BarEvent)
  | timeReached (atEpoch : Int)
  | mwEveryBar
  | pinePattern (pattern : Option SignalKind) (dir : Direction)
  | pullbackFromArm (anchorOpen atrMult : Rat) (dir : Direction)
  deriving DecidableEq

inductive RuleKind
  | setupInvalidation
  | perPositionClose
  | control
  | prepBreakAndClose
  | prepRetest
  | prepPullback
  | prepExpire
  | enter
  | unspecified
  deriving DecidableEq

/-- One condition and the intent it fires. -/
structure ConditionRule where
  ruleId : String
  trigger : Trigger
  fireMode : FireMode := .once
  intent : RuleIntent
  kind : RuleKind := .unspecified

structure RetraceLine where
  a : LinePoint
  b : LinePoint
  deriving DecidableEq

structure EntryConditions where
  requireMaAlignment : Bool := false
  enableOnMaTouch : List MovingAverage := []
  mustTouch : List MovingAverage := []
  beOffside : List MovingAverage := []
  retrace : Option RetraceLine := none

/-- One signed trade: every condition it watches, and the constants they are judged with. -/
structure TradePlan where
  entryConditions : EntryConditions := {}
  tradeId : String
  instrument : String
  direction : Direction
  granularity : Granularity
  pipSize : Rat
  rules : List ConditionRule
  crossBufferPct : Rat := 0
  crossBufferAtr : Rat := 0
  bcrRequireGolden : Bool := false
  retestAtrStep : Rat := 75 / 1000
  replayStart : Option Int := none
  armedAt : Option Int := none

/-- `DateTime::timestamp`: whole seconds, rounded down. -/
def timestamp (instant : Int) : Int := instant / nanosPerSecond

def roleBreakAndClose : String := "prep-break-and-close"

def roleRetest : String := "prep-retest"

def holdsText (text part : String) : Bool := part.toList <:+: text.toList

/-- The role of a rule signed before rules carried one. -/
def legacyKind (rule : ConditionRule) : RuleKind :=
  if holdsText rule.ruleId roleBreakAndClose then .prepBreakAndClose
  else if holdsText rule.ruleId roleRetest then .prepRetest
  else match rule.intent.action with
    | .veto | .invalidate => .setupInvalidation
    | .close => .perPositionClose
    | .pause | .resume | .newsStart | .newsEnd => .control
    | .enter => .enter
    | _ => .unspecified

def resolvedKind (rule : ConditionRule) : RuleKind :=
  match rule.kind with
  | .unspecified => legacyKind rule
  | kind => kind

def isGuard (rule : ConditionRule) : Bool :=
  resolvedKind rule = .setupInvalidation ∨ resolvedKind rule = .perPositionClose

def guardIsTerminal (rule : ConditionRule) : Bool := resolvedKind rule = .setupInvalidation

def Trigger.isAdverseMa : Trigger → Bool
  | .adverseMaCross _ | .adverseMaBreak _ _ => true
  | _ => false

/-- Whether a fired setup invalidation ends the plan, or only keeps it from entering. -/
def vetoRetiresPlan (rule : ConditionRule) : Bool :=
  !rule.trigger.isAdverseMa && decide (rule.intent.level.getD .stopNextEntry ≠ .stopNextEntry)

def isControlRule (rule : ConditionRule) : Bool := resolvedKind rule = .control

def isBreakAndClose (rule : ConditionRule) : Bool := resolvedKind rule = .prepBreakAndClose

def isRetest (rule : ConditionRule) : Bool := resolvedKind rule = .prepRetest

def isPullback (rule : ConditionRule) : Bool :=
  match rule.trigger with
  | .pullbackFromArm _ _ _ => true
  | _ => false

def isEnter (rule : ConditionRule) : Bool := rule.intent.action = .enter

def enterRuleCount (plan : TradePlan) : Nat := (plan.rules.filter isEnter).length

def isMultiEnter (plan : TradePlan) : Bool := 1 < enterRuleCount plan

def hasBreakAndClose (plan : TradePlan) : Bool := plan.rules.any isBreakAndClose

end TradeControl
