import TradeControl.World

namespace TradeControl

inductive GateMode
  | full
  | probe
  deriving DecidableEq

inductive RetryGateOutcome
  | proceed (nextAttemptNo : Nat)
  | rejected (status : Nat) (message outcome : String)
  deriving DecidableEq

/-- `attempt_resolution::observe`: look the attempt up, and note the position id
the first time the broker tells it. -/
def observe (ans : Answers) (tradeId : String) (reply : LookupReply) (attempt : EntryAttempt)
    (world : World) : World × Except LookupError AttemptState :=
  let observed := world.book.lookupAttemptState reply attempt.brokerOrderId
  let recoveredId := match observed with
    | .ok (.openPosition id) | .ok (.closedConfirmed id) => some id
    | _ => none
  match attempt.brokerTradeId, recoveredId with
  | none, some id =>
    if ans.store .setBrokerTradeId then
      ({ world with
          store := world.store.setEntryAttemptBrokerTradeId tradeId attempt.attemptNo id }, observed)
    else (world, observed)
  | _, _ => (world, observed)

def brokerTransient : RetryGateOutcome := .rejected 503 "broker transient" "rejected: broker-transient"

def priorAttemptUnknown : RetryGateOutcome :=
  .rejected 412 "prior attempt state unknown" "rejected: prior-attempt-unknown"

/-- The position belongs to one of the trade's attempts. -/
def BrokerOrder.matchesAttempt (position : BrokerOrder) (attempt : EntryAttempt) : Bool :=
  attempt.brokerOrderId == position.id || attempt.brokerTradeId == some position.positionId

/-- `open_position_backstop`: an open position of the trade is found whatever the
attempt rows' own lookups say. -/
def openPositionBackstop (ans : Answers) (book : Book) (instrument : String)
    (attempts : List EntryAttempt) : Option RetryGateOutcome :=
  if !ans.positions then some brokerTransient
  else if book.orders.any fun order => order.status == .open &&
      order.instrument.toLower == instrument.toLower && attempts.any (order.matchesAttempt ·) then
    some (.rejected 412 "trade already open" "rejected: trade-already-open (backstop)")
  else none

/-- How the walk over the prior attempts ended: it may place, having superseded
some of them, or it may not. -/
inductive WalkEnd
  | passed (superseded : List Nat)
  | stopped (outcome : RetryGateOutcome)

/-- The cancel of a resting attempt failed: ask again and never stack on a doubt. -/
def afterFailedCancel (ans : Answers) (tradeId : String) (attempt : EntryAttempt) (world : World) :
    World × WalkEnd :=
  match observe ans tradeId (ans.relookup attempt.brokerOrderId) attempt world with
  | (world, .ok (.openPosition _)) =>
    (world, .stopped (.rejected 412 "trade already open (raced with cancel)"
      "rejected: raced-with-cancel"))
  | (world, .ok .unknown) | (world, .ok .pending) => (world, .stopped priorAttemptUnknown)
  | (world, .ok _) => (world, .passed [])
  | (world, .error .transient) => (world, .stopped brokerTransient)

/-- The walk's cancel arm: cancel the resting attempt and mark its row superseded. -/
def supersedeResting (ans : Answers) (tradeId : String) (attempt : EntryAttempt) (world : World) :
    World × WalkEnd :=
  match world.book.cancelOrder (ans.cancel attempt.brokerOrderId) attempt.brokerOrderId with
  | (book, .ok ()) =>
    let store := if ans.store .setSuperseded then
        world.store.setEntryAttemptSuperseded tradeId attempt.attemptNo
      else world.store
    ({ store, book }, .passed [attempt.attemptNo])
  | (book, .error _) => afterFailedCancel ans tradeId attempt { world with book }

/-- `evaluate_at`'s walk, over the attempts newest first. -/
def walkAttempts (ans : Answers) (mode : GateMode) (tradeId : String) (world : World) :
    List EntryAttempt → World × WalkEnd
  | [] => (world, .passed [])
  | attempt :: older =>
    match observe ans tradeId (ans.lookup attempt.brokerOrderId) attempt world with
    | (world, .ok .pending) =>
      match mode with
      | .probe =>
        (world, .stopped (.rejected 412 "order already resting" "rejected: order-resting"))
      | .full => supersedeResting ans tradeId attempt world
    | (world, .ok (.openPosition _)) =>
      (world, .stopped (.rejected 412 "trade already open" "rejected: trade-already-open"))
    | (world, .ok (.closedWin _)) | (world, .ok (.closedLossOrBreakeven _))
    | (world, .ok (.closedConfirmed _)) | (world, .ok .cancelled) =>
      walkAttempts ans mode tradeId world older
    | (world, .ok .unknown) => (world, .stopped priorAttemptUnknown)
    | (world, .error .transient) => (world, .stopped brokerTransient)

def nextAttemptNo (attempts : List EntryAttempt) : Nat :=
  (attempts.map (·.attemptNo)).foldr max 0 + 1

/-- The cap over the placements that were not superseded. -/
def capPlacements (maxRetries : Nat) (attempts : List EntryAttempt) (supersededNow : List Nat) :
    RetryGateOutcome :=
  let placed := attempts.countP fun row => !row.superseded && row.attemptNo ∉ supersededNow
  if maxRetries ≤ placed then
    .rejected 429 "retry cap reached" s!"rejected: retry-cap ({maxRetries})"
  else .proceed (nextAttemptNo attempts)

def gateStateError : RetryGateOutcome := .rejected 500 "state error" "rejected: state-error"

/-- `retry_gate::evaluate_at`. -/
def evaluateAt (env : Env) (ans : Answers) (verified : Verified) (now : Int) (mode : GateMode)
    (world : World) : World × RetryGateOutcome :=
  match env.rules.resolveNat verified.shell verified.intent.maxRetries with
  | .error error =>
    (world, .rejected 412 "max_retries script error"
      s!"rejected: max-retries-script-{error.kind}")
  | .ok maxRetries =>
    if maxRetries = 0 then
      (world, .rejected 412 "max_retries resolved to zero" "rejected: max-retries-zero")
    else match verified.intent.tradeId with
    | none => (world, .proceed 1)
    | some tradeId =>
      if !ans.store .isRetryFireSeen then (world, gateStateError)
      else if world.store.isRetryFireSeen now tradeId verified.shell.time then
        (world, .rejected 409 "replay (retry-fire)" "rejected: retry-fire-replay")
      else if !ans.store .listEntryAttempts then (world, gateStateError)
      else
        let attempts := world.store.listEntryAttempts tradeId
        match (if attempts.isEmpty then none
          else openPositionBackstop ans world.book verified.intent.instrument attempts) with
        | some outcome => (world, outcome)
        | none =>
          match walkAttempts ans mode tradeId world attempts.reverse with
          | (world, .stopped outcome) => (world, outcome)
          | (world, .passed superseded) => (world, capPlacements maxRetries attempts superseded)

/-- What a placement leaves on its attempt row besides its identity. -/
structure PlacementRecord where
  direction : Direction
  stopLoss : Rat
  cancelAt : Option Int
  orderControl : Option OrderControlSnapshot

/-- The attempt row of a placement. -/
def PlacementRecord.attempt (placement : PlacementRecord) (verified : Verified) (tradeId : String)
    (now : Int) (attemptNo brokerOrderId : Nat) : EntryAttempt where
  tradeId := tradeId
  instrument := verified.intent.instrument
  attemptNo := attemptNo
  brokerOrderId := brokerOrderId
  brokerTradeId := none
  direction := placement.direction
  placedAt := now
  shellTime := verified.shell.time
  expiresAt := now + seconds (replayTtlSeconds verified.intent.notAfter now)
  stopLossPrice := some placement.stopLoss
  adverseExtreme := none
  cancelAt := placement.cancelAt
  pipSize := verified.intent.pipSize
  blackoutClose := verified.intent.blackoutClose
  orderControl := placement.orderControl
  superseded := false

/-- `retry_gate::record_placement`. -/
def recordPlacement (ans : Answers) (verified : Verified) (now : Int) (attemptNo brokerOrderId : Nat)
    (placement : PlacementRecord) (store : Store) : Store :=
  match verified.intent.tradeId with
  | none => store
  | some tradeId =>
    let attempt := placement.attempt verified tradeId now attemptNo brokerOrderId
    let store := if ans.store .recordAttempt then store.recordEntryAttempt attempt else store
    if ans.store .markRetryFire then
      store.markRetryFireSeen now tradeId verified.shell.time
        (replayTtlSeconds verified.intent.notAfter now)
    else store

end TradeControl
