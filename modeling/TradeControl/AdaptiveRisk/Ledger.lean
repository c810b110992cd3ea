import Mathlib.Data.Finset.Basic
import TradeControl.AdaptiveRisk.Policies
import TradeControl.Foundation.KeyedTotals

namespace TradeControl.AdaptiveRisk

open Foundation

/-- The firm's reference values of a trading day, captured at its boundary. -/
structure DayReference where
  day : TradingDay
  balance : Rat
  equity : Rat
  deriving DecidableEq

structure AccountSnapshot where
  accountId : String
  observedAt : Int
  quoteAt : Int
  balance : Rat
  equity : Rat
  connected : Bool
  complete : Bool
  sequence : Nat
  dayReference : DayReference
  balanceHigh : Rat
  equityHigh : Rat
  exposures : List Exposure
  /-- Requests proven to be fully absent. -/
  resolvedRequests : Finset String
  setupsReconciled : Bool

structure Reservation where
  requestId : String
  setupId : String
  risk : Rat
  volume : Rat
  createdAt : Int
  submitted : Bool
  deriving DecidableEq

/-- A fill or a charge; the volume is positive for an opening fill and negative for a closing one. -/
structure Execution where
  eventId : String
  setupId : String
  positionId : String
  occurredAt : Int
  volumeDelta : Rat
  netPnl : Rat
  deriving DecidableEq

structure SetupOutcome where
  setupId : String
  closedAt : Int
  netPnl : Rat
  deriving DecidableEq

structure RiskMetrics where
  blockedTrades : Nat := 0
  circuitBreakerActivations : Nat := 0
  reducedRiskSeconds : Int := 0
  reducedSince : Option Int := none
  deriving DecidableEq

/-- `u64::saturating_add(1)`. -/
def saturatingSucc (count : Nat) : Nat := min (count + 1) (2 ^ 64 - 1)

/-- What is remembered of an account, in memory and in its document. -/
structure RiskState where
  schema : Nat := 1
  accountId : String
  policy : RiskPolicy
  initialBalance : Rat
  balanceHigh : Rat
  equityHigh : Rat
  day : DayReference
  dailyLocked : Bool := false
  accountLocked : Bool := false
  consecutiveLosses : Nat := 0
  reservations : KeyedMap String Reservation := ∅
  attemptedRequests : Finset String := ∅
  executions : KeyedMap String Execution := ∅
  outcomes : KeyedMap String SetupOutcome := ∅
  lastSequence : Option Nat := none
  lastReconciledAt : Option Int := none
  needsReconciliation : Bool := true
  invalidatedAfter : Option Int := none
  metrics : RiskMetrics := {}

/-- Explicit enrolment of an account on a day. -/
def RiskState.enroll (zones : Zones) (accountId : String) (initialBalance : Rat) (day : DayReference)
    (policy : RiskPolicy) : Except String RiskState := do
  policy.validate zones
  ensure (accountId ≠ "" ∧ 0 < initialBalance ∧ 0 < day.balance ∧ 0 < day.equity ∧
    day.day.start < day.day.ending) "invalid enrollment"
  return {
    accountId
    policy
    initialBalance
    balanceHigh := max initialBalance day.balance
    equityHigh := max initialBalance day.equity
    day }

structure Thresholds where
  riskReference : Rat
  drawdownReference : Rat
  internalAccountFloor : Rat
  firmAccountFloor : Rat
  dailyReference : Rat
  internalDailyFloor : Rat
  firmDailyFloor : Rat

/-- A firm's formulas for its floors; they may fail. -/
abbrev LossRule := RiskPolicy → RiskState → AccountSnapshot → Except String Thresholds

section
variable (policy : RiskPolicy) (state : RiskState) (snapshot : AccountSnapshot)

def drawdownReferenceOf : Rat :=
  match policy.drawdownReference with
  | .staticInitialBalance => state.initialBalance
  | .trailingBalance => max (max state.balanceHigh snapshot.balanceHigh) snapshot.balance
  | .trailingEquity => max (max state.equityHigh snapshot.equityHigh) snapshot.equity

/-- What the account's percentages are taken of. -/
def lossAllowance : Rat :=
  if policy.trailingAllowanceTracksReference then drawdownReferenceOf policy state snapshot
  else state.initialBalance

def dailyReferenceOf : Rat :=
  match policy.dailyReference with
  | .balance => state.day.balance
  | .equity => state.day.equity
  | .higherOfBalanceAndEquity => max state.day.balance state.day.equity

/-- `StandardLossRule`. -/
def standardLossRule : LossRule := fun policy state snapshot =>
  let reference := drawdownReferenceOf policy state snapshot
  let allowance := lossAllowance policy state snapshot
  let daily := dailyReferenceOf policy state
  let firmAccount := reference - pct allowance policy.maxAccountLossPct
  let firmDaily := daily - pct daily policy.dailyLossLimitPct
  .ok {
    riskReference := state.initialBalance
    drawdownReference := reference
    internalAccountFloor :=
      max (reference - pct allowance policy.internalAccountStopPct)
        (firmAccount + pct allowance policy.safetyBufferPct)
    firmAccountFloor := firmAccount
    dailyReference := daily
    internalDailyFloor :=
      max (daily - pct daily policy.internalDailyStopPct)
        (firmDaily + pct daily policy.safetyBufferPct)
    firmDailyFloor := firmDaily }

end

/-- The latest of an instant and the instants that are there. -/
def latestOf (instant : Int) (others : List (Option Int)) : Int :=
  (others.filterMap id).foldl max instant

def RiskState.recordExecution (state : RiskState) (event : Execution) : Except String RiskState := do
  ensure (event.eventId ≠ "" ∧ event.setupId ≠ "" ∧ event.positionId ≠ "") "execution identity missing"
  match state.executions.lookup event.eventId with
  | some previous =>
    ensure (previous = event) "conflicting duplicate execution"
    return state
  | none =>
    ensure (event.setupId ∉ state.outcomes) "late execution for completed setup; rebuild reconciliation"
    return { state with executions := state.executions.insert event.eventId event }

/-- A new event invalidates what was observed up to it, whether it is taken or refused. -/
def RiskState.onExecution (state : RiskState) (event : Execution) : RiskState × Except String Unit :=
  let unseen := event.eventId ∉ state.executions
  let result := state.recordExecution event
  let state := match result with
    | .ok recorded => recorded
    | .error _ => state
  let state :=
    if unseen then
      { state with
        needsReconciliation := true
        invalidatedAfter :=
          some (latestOf event.occurredAt [state.invalidatedAfter, state.lastReconciledAt]) }
    else state
  match result with
  | .ok _ => (state, .ok ())
  | .error error => ({ state with needsReconciliation := true }, .error error)

/-- What an event changes: an unseen one is invalidating, a seen one at most asks for a
reconciliation. -/
structure ExecutionChange (s : RiskState) (event : Execution) (needs : Bool) (invalidated : Option Int) :
    Prop where
  unseen : event.eventId ∉ s.executions → needs = true ∧
    invalidated = some (latestOf event.occurredAt [s.invalidatedAfter, s.lastReconciledAt])
  seen : event.eventId ∈ s.executions → (s.needsReconciliation = true → needs = true) ∧
    invalidated = s.invalidatedAfter

theorem RiskState.recordExecution_frame {s s' : RiskState} {event : Execution}
    (recorded : s.recordExecution event = .ok s') : ∃ executions, s' = { s with executions } := by
  unfold recordExecution at recorded
  simp only [bind_ok, ensure_ok, exists_const] at recorded
  obtain ⟨_, recorded⟩ := recorded
  split at recorded
  · simp only [bind_ok, ensure_ok, pure_ok, exists_const] at recorded
    obtain ⟨_, rfl⟩ := recorded
    exact ⟨s.executions, rfl⟩
  · simp only [bind_ok, ensure_ok, pure_ok, exists_const] at recorded
    obtain ⟨_, rfl⟩ := recorded
    exact ⟨_, rfl⟩

theorem RiskState.onExecution_frame (s : RiskState) (event : Execution) :
    ∃ executions needs invalidated,
      (s.onExecution event).1 =
        { s with executions, needsReconciliation := needs, invalidatedAfter := invalidated } ∧
      ExecutionChange s event needs invalidated := by
  unfold onExecution
  dsimp only
  cases recorded : s.recordExecution event with
  | error error =>
    by_cases seen : event.eventId ∈ s.executions
    · exact ⟨s.executions, true, s.invalidatedAfter, by simp [seen],
        fun unseen => absurd seen unseen, fun _ => ⟨fun _ => rfl, rfl⟩⟩
    · exact ⟨s.executions, true, _, by simp [seen], fun _ => ⟨rfl, rfl⟩, fun seen' => absurd seen' seen⟩
  | ok s' =>
    obtain ⟨executions, rfl⟩ := recordExecution_frame recorded
    by_cases seen : event.eventId ∈ s.executions
    · exact ⟨executions, s.needsReconciliation, s.invalidatedAfter, by simp [seen],
        fun unseen => absurd seen unseen, fun _ => ⟨id, rfl⟩⟩
    · exact ⟨executions, true, _, by simp [seen], fun _ => ⟨rfl, rfl⟩, fun seen' => absurd seen' seen⟩

/-- The volumes of a setup's positions, which of them were opened, and the setup's net result. -/
structure SetupTally where
  volumes : KeyedMap String Rat := ∅
  opened : Finset String := ∅
  net : Rat := 0

def SetupTally.count (tally : SetupTally) (event : Execution) : SetupTally :=
  { volumes :=
      tally.volumes.insert event.positionId
        ((tally.volumes.lookup event.positionId).getD 0 + event.volumeDelta)
    opened := if 0 < event.volumeDelta then insert event.positionId tally.opened else tally.opened
    net := tally.net + event.netPnl }

/-- Outcomes in the order of their closes, those of one instant in the order of their setups. -/
def SetupOutcome.le (a b : SetupOutcome) : Bool :=
  decide (a.closedAt < b.closedAt ∨ a.closedAt = b.closedAt ∧ a.setupId ≤ b.setupId)

def lossesAfter (backoff : StreakBackoff) (losses : Nat) (outcome : SetupOutcome) : Nat :=
  if outcome.netPnl < 0 then min (losses + 1) (2 ^ 32 - 1)
  else if (0 < outcome.netPnl ∧ backoff.resetOnWin) ∨ (outcome.netPnl = 0 ∧ backoff.resetOnBreakEven) then 0
  else losses

def RiskState.rebuildStreak (state : RiskState) : RiskState :=
  let outcomes := (state.outcomes.entries.map Sigma.snd).mergeSort SetupOutcome.le
  { state with consecutiveLosses := outcomes.foldl (lossesAfter state.policy.streakBackoff) 0 }

def RiskState.closeSetup (state : RiskState) (setupId : String) (closedAt : Int) (terminal : Bool) :
    Except String RiskState := do
  ensure terminal "setup still has live members"
  let events := (state.executions.entries.map Sigma.snd).filter fun event => event.setupId = setupId
  ensure (events ≠ [] ∧ ∀ event ∈ events, event.occurredAt ≤ closedAt) "incomplete setup history"
  let tally := events.foldl SetupTally.count {}
  ensure (∀ position ∈ tally.volumes.entries, position.2 = 0 ∧ position.1 ∈ tally.opened)
    "setup positions not fully closed"
  let outcome : SetupOutcome := { setupId, closedAt, netPnl := tally.net }
  match state.outcomes.lookup setupId with
  | some previous =>
    ensure (previous = outcome) "conflicting setup outcome"
    return state
  | none => return { state with outcomes := state.outcomes.insert setupId outcome }.rebuildStreak

def RiskState.onSetupClosed (state : RiskState) (setupId : String) (closedAt : Int) (terminal : Bool) :
    RiskState × Except String Unit :=
  match state.closeSetup setupId closedAt terminal with
  | .ok state => (state, .ok ())
  | .error error => ({ state with needsReconciliation := true }, .error error)

theorem RiskState.onSetupClosed_frame (s : RiskState) (setupId : String) (closedAt : Int)
    (terminal : Bool) :
    ∃ outcomes losses needs,
      (s.onSetupClosed setupId closedAt terminal).1 =
        { s with outcomes, consecutiveLosses := losses, needsReconciliation := needs } ∧
      (s.needsReconciliation = true → needs = true) := by
  unfold onSetupClosed
  cases closed : s.closeSetup setupId closedAt terminal with
  | error error => exact ⟨s.outcomes, s.consecutiveLosses, true, rfl, fun _ => rfl⟩
  | ok s' =>
    unfold closeSetup at closed
    simp only [bind_ok, ensure_ok, exists_const] at closed
    obtain ⟨_, _, _, closed⟩ := closed
    split at closed
    · simp only [bind_ok, ensure_ok, pure_ok, exists_const] at closed
      obtain ⟨_, rfl⟩ := closed
      exact ⟨s.outcomes, s.consecutiveLosses, s.needsReconciliation, rfl, id⟩
    · cases pure_ok.mp closed
      exact ⟨_, _, s.needsReconciliation, rfl, id⟩

end TradeControl.AdaptiveRisk
