import Mathlib.Algebra.Order.Group.Abs
import Mathlib.Algebra.Order.Ring.Rat
import Mathlib.Data.List.Sort
import TradeControl.Foundation.Picks
import TradeControl.Instant
import TradeControl.Intent

open Foundation

namespace TradeControl.AttemptResolution

inductive EventKind
  | execute
  | opened
  | close
  | cancel
  deriving DecidableEq

structure Event where
  kind : EventKind
  id : String
  instrument : String
  direction : Direction
  currency : String
  stake : Rat
  atTime : Int
  price : Option Rat
  deriving DecidableEq

structure Position where
  id : String
  orderId : String
  entryPrice : Option Rat
  openedAt : Option Int
  deriving DecidableEq

structure Evidence where
  pending : List String
  positions : List Position
  events : List Event
  historyComplete : Bool

inductive ExitReason
  | takeProfit
  | stopLoss
  | trailingStopLoss
  | other
  | unknown
  deriving DecidableEq

structure BrokerTradeExit where
  brokerTradeId : String
  exitOrderId : Option String
  transactionId : Option String
  closedAt : Option Int
  reason : ExitReason
  brokerReason : Option String
  entryPrice : Option Rat
  exitPrice : Option Rat
  expectedPrice : Option Rat
  realizedPl : Option Rat
  accountCurrency : Option String
  units : Option Rat
  quoteCurrency : Option String
  deriving DecidableEq

inductive AttemptState
  | pending
  | openPosition (brokerTradeId : String)
  | closedWin (realizedPl : Rat)
  | closedLossOrBreakeven (realizedPl : Rat)
  | closedConfirmed (exit : BrokerTradeExit)
  | cancelled
  | unknown
  deriving DecidableEq

structure Diagnostic where
  orderId : String
  storedPositionId : Option String
  resolvedPositionId : Option String
  state : String
  reason : String
  historyComplete : Bool
  positions : List Position
  candidates : List Event
  execution : Option Event

structure Observation where
  state : AttemptState
  diagnostic : Diagnostic

def executionSkewSeconds : Int := 2

def closedWithPl (realizedPl : Rat) : AttemptState :=
  if 0 < realizedPl then .closedWin realizedPl else .closedLossOrBreakeven realizedPl

def positionState (id : String) (isOpen : Bool) (exit : Option BrokerTradeExit) : AttemptState :=
  if isOpen then .openPosition id
  else match exit with
    | some exit =>
      match exit.realizedPl with
      | some pl => closedWithPl pl
      | none => .closedConfirmed exit
    | none => .unknown

def uniqueEvents (events : List Event) : List Event :=
  events.foldl (fun out event => if out.contains event then out else out ++ [event]) []

/-- The letters and digits of an instrument's name, in upper case. -/
def canonical (instrument : String) : List Char :=
  (instrument.toList.filter Char.isAlphanum).map Char.toUpper

/-- `num_milliseconds`. -/
def numMilliseconds (span : Int) : Int := span.tdiv 1000000

def potentiallyCompatible (execution opened : Event) : Bool :=
  canonical execution.instrument == canonical opened.instrument &&
    execution.currency != "" &&
    execution.currency == opened.currency &&
    execution.direction == opened.direction &&
    decide (0 < execution.stake) &&
    decide (|execution.stake - opened.stake| ≤ 1 / 100000000) &&
    decide ((numMilliseconds (execution.atTime - opened.atTime)).natAbs ≤ executionSkewSeconds * 1000) &&
    -- a missing price leaves a possible competitor
    match execution.price, opened.price with
    | some a, some b => decide (0 < a) && decide (0 < b) && decide (|a - b| ≤ a * (5 / 10000))
    | _, _ => true

def compatible (execution opened : Event) : Bool :=
  execution.price.isSome && opened.price.isSome && potentiallyCompatible execution opened

def isClose (id : String) (event : Event) : Bool := event.kind == .close && event.id == id

/-- The exit that a closing event of the activity history tells of. -/
def exitOf (id : String) (close : Event) : BrokerTradeExit where
  brokerTradeId := id
  exitOrderId := none
  transactionId := none
  closedAt := some close.atTime
  reason := .unknown
  brokerReason := some "activity-close-position"
  entryPrice := none
  exitPrice := close.price
  expectedPrice := none
  realizedPl := none
  accountCurrency := some close.currency
  units := none
  quoteCurrency := none

def closedState (id : String) (evidence : Evidence) : AttemptState :=
  positionState id false ((lastMaxBy (·.atTime) (evidence.events.filter (isClose id))).map (exitOf id))

def isExecutionOf (orderId : String) (event : Event) : Bool := event.kind == .execute && event.id == orderId

def isCandidate (execution event : Event) : Bool :=
  event.kind == .opened && potentiallyCompatible execution event

def isCompetitor (opened event : Event) : Bool :=
  event.kind == .execute && potentiallyCompatible event opened

/-- What is left of `resolve_inner` where neither the order nor a position id is known to the broker. -/
def resolveByActivity (orderId : String) (evidence : Evidence) (diagnostic : Diagnostic) :
    AttemptState × String × Diagnostic :=
  let events := uniqueEvents evidence.events
  let executions := events.filter (isExecutionOf orderId)
  match onlyOne executions with
  | none =>
    if executions.isEmpty && evidence.historyComplete &&
        events.any (fun event => event.kind == .cancel && event.id == orderId) then
      (.cancelled, "explicit-order-cancellation", diagnostic)
    else (.unknown, "execution-missing-or-conflicting", diagnostic)
  | some execution =>
    let candidates := events.filter (isCandidate execution)
    let diagnostic := { diagnostic with
      execution := some execution
      candidates := candidates.insertionSort (·.id ≤ ·.id) }
    if !evidence.historyComplete then (.unknown, "incomplete-activity-history", diagnostic)
    else match onlyOne candidates with
      | none => (.unknown, "position-missing-or-ambiguous", diagnostic)
      | some opened =>
        if !compatible execution opened then (.unknown, "match-price-unavailable", diagnostic)
        else if (events.filter (isCompetitor opened)).length != 1 then (.unknown, "competing-executions", diagnostic)
        else
          let diagnostic := { diagnostic with resolvedPositionId := some opened.id }
          if evidence.positions.any (·.id == opened.id) then
            (positionState opened.id true none, "activity-unique-match", diagnostic)
          else (closedState opened.id evidence, "activity-unique-match", diagnostic)

/-- The live position that the stored id, or with none stored the order's own id, points at. -/
def pointsAt (orderId : String) (positionId : Option String) (position : Position) : Bool :=
  positionId == some position.id || (positionId.isNone && position.orderId == orderId)

def resolveInner (orderId : String) (positionId : Option String) (evidence : Evidence) (diagnostic : Diagnostic) :
    AttemptState × String × Diagnostic :=
  if evidence.pending.any (· == orderId) then (.pending, "pending-order-id", diagnostic)
  else match evidence.positions.find? (pointsAt orderId positionId) with
    | some position =>
      (positionState position.id true none, "current-position-id",
        { diagnostic with resolvedPositionId := some position.id })
    | none =>
      match positionId with
      | some id =>
        (closedState id evidence, "stored-position-id", { diagnostic with resolvedPositionId := some id })
      | none => resolveByActivity orderId evidence diagnostic

def stateText : AttemptState → String
  | .pending => "pending"
  | .openPosition _ => "open"
  | .cancelled => "cancelled"
  | .unknown => "unknown"
  | _ => "closed"

def resolve (orderId : String) (positionId : Option String) (evidence : Evidence) : Observation :=
  let (state, reason, diagnostic) := resolveInner orderId positionId evidence {
    orderId := orderId
    storedPositionId := positionId
    resolvedPositionId := none
    state := ""
    reason := ""
    historyComplete := evidence.historyComplete
    positions := evidence.positions.insertionSort (·.id ≤ ·.id)
    candidates := []
    execution := none }
  { state := state, diagnostic := { diagnostic with state := stateText state, reason := reason } }

/-- The state and the position that an attempt is resolved to. -/
def outcome (orderId : String) (positionId : Option String) (evidence : Evidence) : AttemptState × Option String :=
  ((resolve orderId positionId evidence).state, (resolve orderId positionId evidence).diagnostic.resolvedPositionId)

end TradeControl.AttemptResolution
