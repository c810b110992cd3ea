import TradeControl.EntryGates
import TradeControl.Hold
import TradeControl.Recovery
import TradeControl.RetryGate

namespace TradeControl

def RetryGateOutcome.toExcept : RetryGateOutcome → Except ActionResult Nat
  | .proceed nextAttemptNo => .ok nextAttemptNo
  | .rejected status message outcome => .error (.rejected status message outcome)

/-- The retry gate owns this fire's dedup and is asked. -/
def EnterCall.gated (call : EnterCall) : Bool :=
  !call.origin.skipsRetryGate && call.intent.effectiveEntryDedup.needsRetryGate

/-- A park is a placement deferred, so it owes the question the retry gate asks a
placement, put read-only. -/
def dedupBeforePark (env : Env) (ans : Answers) (call : EnterCall) (world : World) :
    World × Option ActionResult :=
  if !call.gated then (world, none)
  else match evaluateAt env ans call.verified call.now .probe world with
  | (world, .proceed _) => (world, none)
  | (world, .rejected status message outcome) => (world, some (.rejected status message outcome))

def defaultBarSeconds : Int := 3600

/-- The parked form of this fire, with the geometry a promotion re-tests. -/
def EnterCall.storedOrder (call : EnterCall) (body : String) (reason : StoredReason)
    (slDistance tpDistance minR : Rat) : StoredOrder where
  signedIntent := body
  reason := reason
  originalSlDistance := slDistance
  tpDistance := tpDistance
  minR := minR
  storedAt := call.now
  dropAt := dropAt call.intent.notAfter (call.granularity.getD defaultBarSeconds) call.now
  shellTime := call.verified.shell.time
  replaces := call.origin.replacedOrderId
  barSeconds := call.granularity

/-- `park_stored_entry`: best effort, the suffix tells whether the park was written. -/
def parkStoredEntry (env : Env) (ans : Answers) (call : EnterCall) (reason : StoredReason)
    (tradeId instrument : String) (slDistance tpDistance minR : Rat) (store : Store) : Store × String :=
  match call.rawBody.or (env.reserialise call.intent) with
  | none => (store, "")
  | some body =>
    let order := call.storedOrder body reason slDistance tpDistance minR
    match parkOrder ans tradeId instrument (call.intent.pipSize.getD 0) order call.intent.notAfter
        call.now store with
    | (store, true) => (store, s!" stored until {order.dropAt}")
    | (store, false) => (store, "")

def Resolved.slDistance (resolved : Resolved) : Rat := |resolved.entry.referencePrice - resolved.stopLoss|

def Resolved.tpDistance (resolved : Resolved) : Rat :=
  |resolved.entry.referencePrice - resolved.takeProfit|

/-- Dedup, park and reject: how the gates above the retry gate defer a fire. -/
def deferEntry (env : Env) (ans : Answers) (call : EnterCall) (tradeId : String) (resolved : Resolved)
    (reason : StoredReason) (status : Nat) (body outcome : String) (world : World) :
    World × ActionResult :=
  match dedupBeforePark env ans call world with
  | (world, some rejection) => (world, rejection)
  | (world, none) =>
    let (store, parked) := parkStoredEntry env ans call reason tradeId resolved.instrument
      resolved.slDistance resolved.tpDistance resolved.minR world.store
    ({ world with store }, .rejected status body (outcome ++ parked))

def h4Seconds : Int := 14400

def spreadGateDefers (granularity : Option Int) : Bool := granularity.any (h4Seconds ≤ ·)

/-- The live spread is elevated inside an open blackout window. Every failed read
lets the entry through. -/
def spreadBlackedOut (env : Env) (ans : Answers) (call : EnterCall) (instrument : String)
    (store : Store) : Bool :=
  ans.store .blackoutWindow && (Foundation.readAt call.now store.spreadBlackoutWindow).isSome &&
    (ans.quote .spreadGate).any fun quote =>
      env.elevatedThresholdPips instrument < quote.spread / env.pipSizeFor call.intent

/-- The market-closed, market-hours and spread-blackout gates; a re-drive skips them. -/
def blackoutGates (env : Env) (ans : Answers) (call : EnterCall) (tradeId : String)
    (resolved : Resolved) (world : World) : World × Option ActionResult :=
  if call.origin.isReplacement then (world, none)
  else if env.sessionClosed resolved.instrument call.now then
    let (world, result) := deferEntry env ans call tradeId resolved .marketClosed 423
      "entry deferred: market closed — parked until the session opens" "rejected: market-closed" world
    (world, some result)
  else if env.marketHoursBlocked resolved.instrument call.now then
    (world, some (.rejected 423 "entry blocked: market-hours blackout" "rejected: market-blackout"))
  else if spreadBlackedOut env ans call resolved.instrument world.store then
    let body := "entry blocked: spread blackout — preventing entry for safety"
    if spreadGateDefers call.granularity then
      let (world, result) := deferEntry env ans call tradeId resolved .spreadHour 423 body
        "rejected: spread-blackout" world
      (world, some result)
    else (world, some (.rejected 423 body "rejected: spread-blackout"))
  else (world, none)

/-- The spread the stop floor is sized off: the mean of the last candles when the
plan's timeframe is known, the live quote otherwise. -/
def effectiveSpread (ans : Answers) (call : EnterCall) : Option Rat :=
  match call.granularity.bind fun _ => ans.candleSpread with
  | some mean => some mean
  | none => (ans.quote .spreadFloor).map Quote.spread

/-- The spread floor: the stop to place with, or a park and a rejection. -/
def spreadFloor (env : Env) (ans : Answers) (call : EnterCall) (tradeId : String) (resolved : Resolved)
    (world : World) : World × Except ActionResult Rat :=
  match effectiveSpread ans call with
  | none => (world, .ok resolved.stopLoss)
  | some spread =>
    match widenSlToSpreadFloor resolved.entry.referencePrice resolved.stopLoss resolved.takeProfit
        spread resolved.minR (env.tickSizeFor call.intent) with
    | .unchanged => (world, .ok resolved.stopLoss)
    | .widened newStopLoss _ _ => (world, .ok newStopLoss)
    | .reject .. =>
      let (world, result) := deferEntry env ans call tradeId resolved .belowMinR 422
        "entry blocked: SL too close to spread and widening would drop R below min_r"
        "rejected: sl-widen-below-min-r" world
      (world, .error result)

/-- The retry gate, last of all because it may cancel. -/
def retryGate (env : Env) (ans : Answers) (call : EnterCall) (world : World) :
    World × Except ActionResult (Option Nat) :=
  if call.gated then
    match evaluateAt env ans call.verified call.now .full world with
    | (world, outcome) => (world, outcome.toExcept.map some)
  else (world, .ok none)

/-- What one fire carries into its placement. -/
structure PlacementPlan where
  tradeId : String
  resolved : Resolved
  drawnStopLoss : Rat
  cancelAt : Option Int
  attemptNo : Option Nat

/-- The signed body of a placed order, kept for its re-drive. -/
def keepOrderBody (ans : Answers) (orderId : Nat) (body : Option String) (store : Store) : Store :=
  match body with
  | none => store
  | some body => if ans.store .putOrderBody then store.putOrderBody orderId body else store

/-- The bookkeeping of a placement that went through. -/
def recordPlaced (ans : Answers) (call : EnterCall) (plan : PlacementPlan) (orderId : Nat)
    (store : Store) : Store :=
  let store := match plan.attemptNo with
    | none => store
    | some attemptNo => recordPlacement ans call.verified call.now attemptNo orderId
        { direction := plan.resolved.direction
          stopLoss := plan.resolved.stopLoss
          cancelAt := plan.cancelAt
          orderControl := some
            { originalStopLoss := plan.drawnStopLoss
              takeProfitPrice := plan.resolved.takeProfit
              minR := plan.resolved.minR
              barSeconds := call.granularity } } store
  let store := match call.origin.replacedOrderId with
    | none => store
    | some oldOrderId =>
      if ans.store .setReplacement then
        store.setEntryAttemptReplacement plan.tradeId oldOrderId orderId (some plan.resolved.stopLoss)
      else store
  keepOrderBody ans orderId call.rawBody store

/-- Place, and record what the broker answered. -/
def placeStage (env : Env) (ans : Answers) (call : EnterCall) (plan : PlacementPlan) (world : World) :
    World × ActionResult :=
  let (book, placement) := placeWithRecovery ans plan.resolved call.intent.entryLevelVetos world.book
  let world := { world with book }
  match placement.answer with
  | .ok orderId =>
    if plan.resolved.dryRun then (world, .ok s!"dry-run: id={call.intent.id}")
    else
      ({ world with store := recordPlaced ans call plan orderId world.store },
        .ok s!"{placementVerb placement.entry}: order={orderId}")
  | .error .unitsBelowMinimum =>
    let (store, parked) := parkStoredEntry env ans call .belowMinSize plan.tradeId
      plan.resolved.instrument plan.resolved.slDistance plan.resolved.tpDistance plan.resolved.minR
      world.store
    ({ world with store },
      .rejected 422 "entry blocked: computed position size is below the broker minimum"
        s!"rejected: units-below-minimum{parked}")
  | .error (.ambiguousSuccess detail) =>
    (world, .ambiguousSuccess (outcomeForEntryFailure (.ambiguousSuccess detail) placement.skipReason))
  | .error error => (world, .failed (outcomeForEntryFailure error placement.skipReason))

/-- `run_enter` up to its placement: the plan its gates let through, or why they did not. -/
def runGates (env : Env) (ans : Answers) (call : EnterCall) (world : World) :
    World × Except ActionResult PlacementPlan :=
  match entryGates ans call world.store with
  | .error result => (world, .error result)
  | .ok tradeId =>
    match maybeUpdateMwState ans call world with
    | (world, .error result) => (world, .error result)
    | (world, .ok mw) =>
      match resolveEntry env call mw with
      | .error result => (world, .error result)
      | .ok (resolved, cancelAt) =>
        match blackoutGates env ans call tradeId resolved world with
        | (world, some result) => (world, .error result)
        | (world, none) =>
          match spreadFloor env ans call tradeId resolved world with
          | (world, .error result) => (world, .error result)
          | (world, .ok stopLoss) =>
            match retryGate env ans call world with
            | (world, .error result) => (world, .error result)
            | (world, .ok attemptNo) =>
              (world, .ok { tradeId, resolved := { resolved with stopLoss },
                            drawnStopLoss := resolved.stopLoss, cancelAt, attemptNo })

/-- `run_enter`. -/
def runEnter (env : Env) (ans : Answers) (call : EnterCall) (world : World) : World × ActionResult :=
  match runGates env ans call world with
  | (world, .error result) => (world, result)
  | (world, .ok plan) => placeStage env ans call plan world

end TradeControl
