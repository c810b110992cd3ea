import TradeControl.AdaptiveRisk.Decisions

namespace TradeControl.AdaptiveRisk

open Foundation

/-- `LockedStore::save`: it is done, or it fails before or after the new document took the place of
the old one. -/
inductive Save
  | done
  | failed (replaced : Bool) (error : String)

/-- A locked account: the state in memory and the document that a later session loads. -/
structure RiskSession where
  state : RiskState
  document : RiskState

def RiskSession.persist (session : RiskSession) : Save → RiskSession × Except String Unit
  | .done => ({ session with document := session.state }, .ok ())
  | .failed replaced error =>
    ({ state := { session.state with needsReconciliation := true }
       document := if replaced then session.state else session.document }, .error error)

/-- The token of an approved request. -/
structure Authorization where
  accountId : String
  policy : RiskPolicy
  request : ProposedTrade
  decision : RiskDecision

/-- `LockedStore::load` and the checks of `RiskManager::begin`. -/
def beginSession (zones : Zones) (accountId : String) (policy : RiskPolicy) (document : RiskState) :
    Except String RiskSession := do
  ensure (document.schema = 1) "unsupported risk state schema"
  document.policy.validate zones
  ensure (document.accountId = accountId ∧ document.policy = policy)
    "risk account identity or policy changed; explicit migration required"
  return { state := { document with needsReconciliation := true }, document }

/-- A circuit breaker that closes now is counted. -/
def RiskMetrics.tripped (metrics : RiskMetrics) (closes : Bool) : RiskMetrics :=
  if closes then
    { metrics with circuitBreakerActivations := saturatingSucc metrics.circuitBreakerActivations }
  else metrics

def RiskState.latchStops (state : RiskState) (account daily : Bool) : RiskState :=
  { state with
    metrics :=
      (state.metrics.tripped (account && !state.accountLocked)).tripped (daily && !state.dailyLocked)
    accountLocked := state.accountLocked || account
    dailyLocked := state.dailyLocked || daily }

def RiskSession.latchStops (session : RiskSession) (account daily : Bool) (save : Save) :
    RiskSession × Except String Unit :=
  { session with state := session.state.latchStops account daily }.persist save

/-- The save's failure comes before the operation's own. -/
def RiskSession.settle (session : RiskSession) (result : Except String Unit) (save : Save) :
    RiskSession × Except String Unit :=
  match session.persist save with
  | (session, .ok _) => (session, result)
  | (session, .error error) => (session, .error error)

def RiskSession.onExecution (session : RiskSession) (event : Execution) (save : Save) :
    RiskSession × Except String Unit :=
  let (state, result) := session.state.onExecution event
  { session with state }.settle result save

def RiskSession.onSetupClosed (session : RiskSession) (setup : String) (closedAt : Int)
    (terminal : Bool) (save : Save) : RiskSession × Except String Unit :=
  let (state, result) := session.state.onSetupClosed setup closedAt terminal
  { session with state }.settle result save

/-- The later of two instants, where an absent one is the earliest. -/
def laterOf : Option Int → Option Int → Option Int
  | some a, some b => some (max a b)
  | some a, none => some a
  | none, b => b

def RiskState.disconnect (state : RiskState) : RiskState :=
  { state with
    invalidatedAfter := laterOf state.invalidatedAfter state.lastReconciledAt
    needsReconciliation := true }

def RiskSession.disconnect (session : RiskSession) (save : Save) : RiskSession × Except String Unit :=
  { session with state := session.state.disconnect }.persist save

section
variable (zones : Zones) (a : AccountSnapshot) (rule : LossRule) (now : Int)

/-- The checks a snapshot passes before a reconciliation changes anything. -/
def RiskState.verify (s : RiskState) : Except String Unit := do
  ensure a.connected "broker disconnected"
  validateSnapshot zones s.policy s a now
  ensure (s.day.day.start ≤ a.dayReference.day.start) "trading day moved backwards"
  ensure (a.dayReference.day = s.day.day → a.dayReference = s.day)
    "daily reference changed within trading day"
  ensure (∀ entry ∈ s.reservations.entries, entry.2.submitted = false ∨ entry.1 ∈ a.resolvedRequests ∨
    ∃ exposure ∈ a.exposures, exposure.requestId = some entry.1)
    "unresolved request; broker history reconciliation required"
  let _ ← reservedRisk s.policy s a

/-- The state under a verified snapshot: a new day's reference, without the resolved requests, and
the higher marks. -/
def RiskState.rolled (s : RiskState) : RiskState :=
  { s with
    day := if a.dayReference.day ≠ s.day.day then a.dayReference else s.day
    dailyLocked := if a.dayReference.day ≠ s.day.day then false else s.dailyLocked
    reservations := s.reservations.retain fun id _ => id ∉ a.resolvedRequests
    balanceHigh := max s.balanceHigh a.balanceHigh
    equityHigh := max s.equityHigh a.equityHigh }

/-- The stops the equity has come to are latched, and the snapshot is the one last seen. -/
def RiskState.stopped (s : RiskState) (floors : Thresholds) : RiskState :=
  { s.latchStops (decide (a.equity ≤ floors.internalAccountFloor))
      (decide (a.equity ≤ floors.internalDailyFloor)) with
    lastSequence := some a.sequence
    lastReconciledAt := some a.observedAt }

def RiskState.applyReconciliation (s : RiskState) : RiskState × Except String Unit :=
  match s.verify zones a now with
  | .error error => (s, .error error)
  | .ok _ =>
    let s := s.rolled a
    match rule s.policy s a with
    | .error error => (s, .error error)
    | .ok floors => (s.stopped a floors, .ok ())

/-- `metrics::snapshot`, as far as the tracking of reduced risk reads it. -/
def riskMultiplier (s : RiskState) : Except String Rat := do
  let f ← rule s.policy s a
  let drawdown ← lossPct f.drawdownReference a.equity
  let _ ← lossPct f.dailyReference a.equity
  let _ ← reservedRisk s.policy s a
  let ceiling ← div (s.policy.drawdownRiskPct drawdown) s.policy.baseRiskPct
  return if s.dailyLocked ∨ s.accountLocked then 0
    else min (s.policy.streakMultiplier s.consecutiveLosses) ceiling

def RiskMetrics.track (metrics : RiskMetrics) (multiplier : Rat) : RiskMetrics :=
  if multiplier < 1 then { metrics with reducedSince := some (metrics.reducedSince.getD now) }
  else match metrics.reducedSince with
    | none => metrics
    | some start =>
      { metrics with
        reducedSince := none
        reducedRiskSeconds :=
          min (metrics.reducedRiskSeconds + max (numSeconds (now - start)) 0) (2 ^ 63 - 1) }

def RiskState.trackReduced (s : RiskState) : RiskState :=
  match riskMultiplier a rule s with
  | .error _ => s
  | .ok multiplier => { s with metrics := s.metrics.track now multiplier }

def RiskSession.reconcile (session : RiskSession) (first second : Save) :
    RiskSession × Except String Unit :=
  match { session with state := { session.state with needsReconciliation := true } }.persist first with
  | (session, .error error) => (session, .error error)
  | (session, .ok _) =>
    match session.state.applyReconciliation zones a rule now with
    | (state, .error error) => ({ session with state }, .error error)
    | (state, .ok _) =>
      { session with
        state := { state with needsReconciliation := false }.trackReduced a rule now }.persist second

/-- The reservation a decision asks for. -/
def ProposedTrade.reservation (trade : ProposedTrade) (decision : RiskDecision) : Reservation :=
  { requestId := trade.requestId
    setupId := trade.setupId
    risk := decision.allowedRiskAmount
    volume := decision.maxVolume
    createdAt := now
    submitted := false }

/-- A request is attempted once, and its risk stays reserved. -/
def RiskState.reserve (s : RiskState) (trade : ProposedTrade) (decision : RiskDecision) : RiskState :=
  { s with
    attemptedRequests := insert trade.requestId s.attemptedRequests
    reservations := s.reservations.insert trade.requestId (trade.reservation now decision) }

def RiskMetrics.blocked (metrics : RiskMetrics) : RiskMetrics :=
  { metrics with blockedTrades := saturatingSucc metrics.blockedTrades }

def RiskSession.authorize (session : RiskSession) (trade : ProposedTrade) (save : Save) :
    RiskSession × Except String Authorization :=
  let decision := evaluateTrade zones session.state.policy a trade session.state rule now
  if !decision.approved then
    let state := { session.state with metrics := session.state.metrics.blocked }.trackReduced a rule now
    match { session with state }.persist save with
    | (session, .error error) => (session, .error error)
    | (session, .ok _) => (session, .error "risk blocked")
  else
    let state := (session.state.trackReduced a rule now).reserve now trade decision
    match { session with state }.persist save with
    | (session, .error error) => (session, .error error)
    | (session, .ok _) =>
      (session, .ok { accountId := state.accountId, policy := state.policy, request := trade, decision })

def RiskState.validateToken (s : RiskState) (authorization : Authorization) : Except String Unit := do
  ensure (authorization.accountId = s.accountId ∧ authorization.policy = s.policy)
    "authorization belongs to another account/policy"
  match s.reservations.lookup authorization.request.requestId with
  | none => .error "authorization missing"
  | some reservation =>
    ensure (reservation.setupId = authorization.request.setupId ∧
      reservation.risk = authorization.decision.allowedRiskAmount ∧
      reservation.volume = authorization.decision.maxVolume) "reservation does not match authorization"

/-- The terms a fresh quote may change. -/
def ProposedTrade.requoted (request refreshed : ProposedTrade) : ProposedTrade :=
  { request with
    estimate :=
      { request.estimate with
        price := refreshed.estimate.price
        conversion := refreshed.estimate.conversion
        costsPerUnit := refreshed.estimate.costsPerUnit
        fixedCosts := refreshed.estimate.fixedCosts } }

/-- The state as it would be had the request not been authorized. -/
def RiskState.without (s : RiskState) (requestId : String) : RiskState :=
  { s with
    reservations := s.reservations.erase requestId
    attemptedRequests := s.attemptedRequests.erase requestId }

/-- The order at the authorized volume is still within its authorization under fresh data. -/
def RiskState.recheck (s : RiskState) (authorization : Authorization) (refreshed : ProposedTrade) :
    Except String Unit := do
  let check := s.without authorization.request.requestId
  let result := evaluateTrade zones check.policy a refreshed check rule now
  let loss ← refreshed.estimate.loss authorization.decision.maxVolume
    check.policy.execution.slippageBufferPctOfRisk
  let freshRisk := loss * surcharge refreshed.overlapping check.policy.execution.overlapMultiplier
  ensure (result.approved ∧ authorization.decision.maxVolume ≤ result.maxVolume ∧
    freshRisk ≤ authorization.decision.allowedRiskAmount) "authorization expired or risk increased"

/-- The reservation is marked before the order is handed to the transport. -/
def RiskState.submit (s : RiskState) (requestId : String) : Except String RiskState :=
  match s.reservations.lookup requestId with
  | none => .error "authorization missing"
  | some reservation => do
    ensure (reservation.submitted = false) "request already submitted"
    return { s with
      reservations := s.reservations.insert requestId { reservation with submitted := true }
      needsReconciliation := true }

def RiskSession.beforeSubmit (session : RiskSession) (authorization : Authorization)
    (refreshed : ProposedTrade) (first second third : Save) : RiskSession × Except String Unit :=
  let admitted : Except String Unit := do
    session.state.validateToken authorization
    ensure (authorization.request.requoted refreshed = refreshed) "immutable order terms changed"
  match admitted with
  | .error error => (session, .error error)
  | .ok _ =>
    match session.reconcile zones a rule now first second with
    | (session, .error error) => (session, .error error)
    | (session, .ok _) =>
      match session.state.recheck zones a rule now authorization refreshed with
      | .error error => (session, .error error)
      | .ok _ =>
        match session.state.submit authorization.request.requestId with
        | .error error => (session, .error error)
        | .ok state => { session with state }.persist third

def RiskState.release (s : RiskState) (requestId : String) : RiskState :=
  { s with reservations := s.reservations.erase requestId, needsReconciliation := true }

def RiskSession.rejectedWithoutFill (session : RiskSession) (authorization : Authorization)
    (save : Save) : RiskSession × Except String Unit :=
  match session.state.validateToken authorization with
  | .error error => (session, .error error)
  | .ok _ =>
    { session with state := session.state.release authorization.request.requestId }.persist save

end

/-- A zone whose wall time is the instant's own. -/
def utcZones : Zones := fun _ =>
  { wallTime := id, single := some, wallTime_single := fun same => (Option.some.inj same).symm }

def dayReferenceOf (date : Int) : DayReference :=
  { day :=
      { start := date * dayLength + seconds 61200, ending := (date + 1) * dayLength + seconds 61200 }
    balance := 10000
    equity := 10000 }

/-- An account enrolled with 10000 on the first day. -/
def enrolledState : RiskState :=
  { accountId := "test"
    policy := {}
    initialBalance := 10000
    balanceHigh := 10000
    equityHigh := 10000
    day := dayReferenceOf 0 }

/-- Noon of a date's trading day. -/
def noonOf (date : Int) : Int := (date + 1) * dayLength + seconds 43200

/-- A flat account at noon. -/
def flatSnapshot (date : Int) : AccountSnapshot :=
  { accountId := "test"
    observedAt := noonOf date
    quoteAt := noonOf date
    balance := 10000
    equity := 10000
    connected := true
    complete := true
    sequence := 1
    dayReference := dayReferenceOf date
    balanceHigh := 10000
    equityHigh := 10000
    exposures := []
    resolvedRequests := ∅
    setupsReconciled := true }

/-- A unit bought at 100 with its stop at 99, for up to 100 of risk. -/
def hundredTrade (requestId : String) : ProposedTrade :=
  { instrumentId := "INDEX"
    overlapping := false
    requestId
    strategyId := "strategy"
    setupId := "s1"
    estimate :=
      { side := .buy
        price := 100
        stop := some 99
        contractSize := 1
        conversion := 1
        costsPerUnit := 0
        fixedCosts := 0
        isOpenPosition := false }
    volume := { min := 1/100, max := 1000000, step := 1/100 }
    requestedVolume := 1000000
    requestedRisk := 100 }

end TradeControl.AdaptiveRisk
