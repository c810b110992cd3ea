import TradeControl.Enter
import TradeControl.Hold
import TradeControl.World

namespace TradeControl

/-- How a promotion re-drives the entry path: a park that replaces a pulled order goes on
for that order, any other is the trade's first placement. -/
def promotionOrigin (order : StoredOrder) : EntryOrigin :=
  match order.replaces with
  | some oldBrokerOrderId => .replacing oldBrokerOrderId
  | none => .promotion

/-- What one tick observes for a record's park. -/
def promoteCheck (env : Env) (measured : Option Rat) (record : HeldTradeRecord) (parked : StoredOrder)
    (now : Int) : StoredCheck :=
  let key := env.spreads.lookupKey record.instrument
  let (expectedThisHour, expectedNextHour) := env.spreads.forecastFrac key now
  let target := slTarget { lastCandle := measured.getD 0, expectedThisHour, expectedNextHour }
    parked.originalSlDistance parked.originalSlDistance parked.tpDistance parked.minR
  { clearsMinR := target.action ≠ .belowMinR
    barTime := some now
    spreadHourOver := env.spreads.releasedAt key record.pipSize measured now
    marketOpen := env.marketOpen record.instrument now }

inductive PromoteOutcome
  | nothingParked
  | stillWaiting
  | promoted (result : ActionResult)
  | dropped (why : String)
  deriving DecidableEq

inductive PromoteError
  | readStoredOrder
  | clearDroppedOrder
  | clearExpiredOrder
  | willNotVerify
  | clearBeforePromote
  deriving DecidableEq

/-- The call that places a parked setup. -/
def StoredOrder.promotion (order : StoredOrder) (verified : Verified) (now : Int) : EnterCall where
  verified := verified
  now := now
  rawBody := some order.signedIntent
  granularity := none
  origin := promotionOrigin order

/-- `promote_stored_order`: the park is cleared before it is placed. `enterAns` is what the
placement meets. -/
def promoteStoredOrder (env : Env) (ans enterAns : Answers) (tradeId : String) (check : StoredCheck)
    (now : Int) (world : World) : World × Except PromoteError PromoteOutcome :=
  if !ans.store .readParked then (world, .error .readStoredOrder)
  else match world.store.storedOrder now tradeId with
  | none => (world, .ok .nothingParked)
  | some order =>
    match storedVerdict order now check with
    | .keepWaiting => (world, .ok .stillWaiting)
    | .drop =>
      match clearStoredOrder ans tradeId now world.store with
      | (store, true) => ({ world with store }, .ok (.dropped "past-drop-at"))
      | (store, false) => ({ world with store }, .error .clearDroppedOrder)
    | .promote =>
      match env.recover order.signedIntent now with
      | .unrecoverable => (world, .error .willNotVerify)
      | .expired =>
        match clearStoredOrder ans tradeId now world.store with
        | (store, true) => ({ world with store }, .ok (.dropped "window-closed"))
        | (store, false) => ({ world with store }, .error .clearExpiredOrder)
      | .ok verified =>
        match clearStoredOrder ans tradeId now world.store with
        | (store, false) => ({ world with store }, .error .clearBeforePromote)
        | (store, true) =>
          let (world, result) := runEnter env enterAns (order.promotion verified now) { world with store }
          (world, .ok (.promoted result))

structure RiskBudget where
  amount : Rat

/-- The stake that keeps the budget at risk over a stop distance. -/
def stakeFor (budget : RiskBudget) (slDistance : Rat) : Option Rat :=
  if slDistance ≤ 0 ∨ budget.amount ≤ 0 then none else some (budget.amount / slDistance)

/-- What to do with a resting order this candle. -/
inductive PendingAction
  | hold
  | adjust (slDistance stake : Rat)
  | demote
  deriving DecidableEq

def pendingAction (target : SlTarget) (currentSlDistance : Rat) (budget : RiskBudget) : PendingAction :=
  match target.action with
  | .belowMinR => .demote
  | .hold => .hold
  | .widen | .shrink =>
    let desired := target.desiredSlDistance
    if desired ≤ 0 ∨ sameDistance desired currentSlDistance then .hold
    else match stakeFor budget desired with
      | some stake => .adjust desired stake
      | none => .hold

/-- The drawn distances a demoted order is parked with. -/
structure ParkGeometry where
  originalSlDistance : Rat
  tpDistance : Rat
  minR : Rat
  deriving DecidableEq

inductive RepriceOutcome
  | held
  | repriced (result : ActionResult)
  | demoted
  | replaceFailed (result : ActionResult)
  | skipped (why : String)
  deriving DecidableEq

inductive RepriceError
  | getOrderBody
  | cancelOrder
  | park
  deriving DecidableEq

/-- The park of a pulled order, which its promotion goes on for. -/
def repricedPark (orderId : Nat) (signedIntent : String) (geometry : ParkGeometry)
    (shellTime expiresAt barSeconds now : Int) : StoredOrder where
  signedIntent := signedIntent
  reason := .belowMinR
  originalSlDistance := geometry.originalSlDistance
  tpDistance := geometry.tpDistance
  minR := geometry.minR
  storedAt := now
  dropAt := dropAt expiresAt barSeconds now
  shellTime := shellTime
  replaces := some orderId
  barSeconds := some barSeconds

/-- `park_below_min_r`. -/
def parkBelowMinR (ans : Answers) (order : BrokerOrder) (tradeId signedIntent : String)
    (verified : Verified) (geometry : ParkGeometry) (expiresAt barSeconds now : Int) (store : Store) :
    Store × Bool :=
  parkOrder ans tradeId order.instrument (verified.intent.pipSize.getD 0)
    (repricedPark order.id signedIntent geometry verified.shell.time expiresAt barSeconds now)
    expiresAt now store

/-- Park the pulled order and report `outcome`, unless the park is not written. -/
def parkRepriced (ans : Answers) (order : BrokerOrder) (tradeId signedIntent : String)
    (verified : Verified) (geometry : ParkGeometry) (expiresAt barSeconds now : Int)
    (outcome : RepriceOutcome) (world : World) : World × Except RepriceError RepriceOutcome :=
  match parkBelowMinR ans order tradeId signedIntent verified geometry expiresAt barSeconds now
      world.store with
  | (store, true) => ({ world with store }, .ok outcome)
  | (store, false) => ({ world with store }, .error .park)

/-- The call that places a re-priced order again. -/
def repriceCall (orderId : Nat) (signedIntent : String) (verified : Verified) (now : Int) : EnterCall where
  verified := verified
  now := now
  rawBody := some signedIntent
  granularity := none
  origin := .replacing orderId

/-- `reprice_pending_order`: recover the body, cancel, then place again or park.
`enterAns` is what the placement meets. -/
def repricePendingOrder (env : Env) (ans enterAns : Answers) (order : BrokerOrder) (action : PendingAction)
    (geometry : ParkGeometry) (expiresAt barSeconds now : Int) (world : World) :
    World × Except RepriceError RepriceOutcome :=
  if action = .hold then (world, .ok .held)
  else if !ans.store .getOrderBody then (world, .error .getOrderBody)
  else match world.store.orderBodies order.id, env.recoverBody (world.store.orderBodies order.id) now with
  | _, .expired => (world, .ok (.skipped "window-closed"))
  | none, _ | _, .unrecoverable => (world, .ok (.skipped "no-recoverable-body"))
  | some signedIntent, .ok verified =>
    let tradeId := verified.intent.tradeId.getD (toString order.id)
    match world.book.cancelOrder (ans.cancel order.id) order.id with
    | (book, .error _) => ({ world with book }, .error .cancelOrder)
    | (book, .ok ()) =>
      let park := parkRepriced ans order tradeId signedIntent verified geometry expiresAt barSeconds now
      if action = .demote then park .demoted { world with book }
      else
        let (world, result) := runEnter env enterAns (repriceCall order.id signedIntent verified now)
          { world with book }
        if result.isOk then (world, .ok (.repriced result))
        else park (.replaceFailed result) world

/-- The geometry of a resting order, read off its attempt row. -/
structure Geometry where
  originalSlDistance : Rat
  currentSlDistance : Rat
  tpDistance : Rat
  minR : Rat
  budget : RiskBudget
  barSeconds : Int

def geometryOf (attempt : EntryAttempt) (order : BrokerOrder) : Option Geometry := do
  let snapshot ← attempt.orderControl
  let placedStop ← attempt.stopLossPrice
  let currentSlDistance := |order.trigger - placedStop|
  if currentSlDistance ≤ 0 ∨ order.stake ≤ 0 then none
  else return {
    originalSlDistance := |order.trigger - snapshot.originalStopLoss|
    currentSlDistance := currentSlDistance
    tpDistance := |snapshot.takeProfitPrice - order.trigger|
    minR := snapshot.minR
    budget := { amount := order.stake * currentSlDistance }
    barSeconds := snapshot.barSeconds.getD defaultBarSeconds }

def spreadInputs (env : Env) (measured : Option Rat) (instrument : String) (now : Int) : SpreadInputs :=
  let (expectedThisHour, expectedNextHour) :=
    env.spreads.forecastFrac (env.spreads.lookupKey instrument) now
  { lastCandle := measured.getD 0, expectedThisHour, expectedNextHour }

/-- The stop target of a resting order, and what to do about it. -/
def Geometry.action (geometry : Geometry) (spreads : SpreadInputs) : PendingAction :=
  pendingAction
    (slTarget spreads geometry.originalSlDistance geometry.currentSlDistance geometry.tpDistance
      geometry.minR)
    geometry.currentSlDistance geometry.budget

/-- `reprice_one`: judge one resting order by its attempt row and act on the verdict. -/
def repriceOne (env : Env) (ans enterAns : Answers) (attempts : List EntryAttempt) (order : BrokerOrder)
    (now : Int) (world : World) : World × Option (String × Except RepriceError RepriceOutcome) :=
  match attempts.find? (·.brokerOrderId == order.id) with
  | none => (world, none)
  | some attempt =>
    match geometryOf attempt order with
    | none => (world, none)
    | some geometry =>
      let spreads := spreadInputs env ((ans.quote .reprice).map Quote.spread) order.instrument now
      match geometry.action spreads with
      | .hold => (world, none)
      | action =>
        let (world, outcome) := repricePendingOrder env ans enterAns order action
          { originalSlDistance := geometry.originalSlDistance, tpDistance := geometry.tpDistance,
            minR := geometry.minR } attempt.expiresAt geometry.barSeconds now world
        (world, some (attempt.tradeId, outcome))

end TradeControl
