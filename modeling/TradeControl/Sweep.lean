import TradeControl.RetryGate

namespace TradeControl

/-- What the sweep meets besides the answers of every pass: whether an exit of the row's
order is on record, whether the account's broker closes by exact position id, whether that
broker names the client of the opening order, how a close goes, and what each closed
position realised. -/
structure SweepAnswers extends Answers where
  exitRecorded : Except String Bool := .ok false
  exactClose : Bool := false
  openingClient : Except String Bool := .ok true
  closesSymbol : Bool := true
  closesExact : Except String Unit := .ok ()
  realizedPl : Nat → Option Rat := fun _ => none

/-- What the broker answered about a resting order on the way to a delete of its row. -/
inductive BrokerAnswer
  | lookup (answer : Except LookupError AttemptState)
  | cancel (answer : Except CancelError Unit)
  deriving DecidableEq

structure SweepEnd where
  world : World
  heard : List BrokerAnswer := []
  result : Except String Unit := .ok ()

/-- A long is breached at or below its stop, a short at or above it. -/
def breachDetected (direction : Direction) (currentPrice stopLoss : Rat) : Bool :=
  match direction with
  | .long => currentPrice ≤ stopLoss
  | .short => stopLoss ≤ currentPrice

/-- The worst price seen against the trade: the first one seeds it. -/
def updateAdverseExtreme (direction : Direction) (prior : Option Rat) (observed : Rat) : Rat :=
  match prior, direction with
  | none, _ => observed
  | some prior, .long => min prior observed
  | some prior, .short => max prior observed

def barExpiryDue (cancelAt : Option Int) (now : Int) : Bool := cancelAt.any (· < now)

def Env.marketBlackoutDue (env : Env) (instrument : String) (now : Int) : Bool :=
  env.marketHoursBlocked instrument now

def LookupError.text : LookupError → String
  | .transient => "broker lookup failed (transient)"

def brokerAcquisitionFailed : Except String Unit := .error "broker acquisition failed"

/-- `sweep::same_instrument`: without separators, whatever the case. -/
def sameInstrument (left right : String) : Bool :=
  let bare := fun name : String =>
    (name.toList.filter fun letter => letter ≠ '/' ∧ letter ≠ '_').map Char.toLower
  bare left == bare right

/-- `sweep::blackout_target`: the one open position that is this row's fill. -/
def blackoutTarget (ans : SweepAnswers) (attempt : EntryAttempt) (requireSoleSymbol : Bool)
    (book : Book) : Except String (Option BrokerOrder) :=
  let identity : Except String (Option Nat) := match attempt.brokerTradeId with
    | some id => .ok (some id)
    | none =>
      match book.lookupAttemptState (ans.lookup attempt.brokerOrderId) attempt.brokerOrderId with
      | .error error => .error ("blackout fill lookup failed: " ++ error.text)
      | .ok (.openPosition id) => .ok (some id)
      | .ok .unknown => .error "blackout fill identity is unknown"
      | .ok _ => .ok none
  match identity with
  | .error text => .error text
  | .ok none => .ok none
  | .ok (some id) =>
    if !ans.positions then
      .error ("blackout position snapshot failed: " ++ LookupError.transient.text)
    else match book.openPositions.filter (·.positionId == id) with
      | [] => .ok none
      | [position] =>
        if !sameInstrument position.instrument attempt.instrument ||
            position.direction ≠ attempt.direction then
          .error "blackout position identity does not match tracked fill"
        else if requireSoleSymbol &&
            book.openPositions.countP (sameInstrument ·.instrument attempt.instrument) ≠ 1 then
          .error "blackout symbol close would affect another position"
        else .ok (some position)
      | _ => .error "blackout position identity does not match tracked fill"

def blackoutClosePosition (ans : SweepAnswers) (attempt : EntryAttempt) (world : World) :
    World × Except String Unit :=
  match blackoutTarget ans attempt true world.book with
  | .error text => (world, .error text)
  | .ok none => (world, .ok ())
  | .ok (some position) =>
    if ans.closesSymbol then
      ({ world with book := world.book.closePositions ans.realizedPl position.instrument }, .ok ())
    else (world, .error "blackout position closure failed")

/-- The broker that closes by position id first proves whose order opened it. -/
def blackoutCloseCtraderPosition (ans : SweepAnswers) (attempt : EntryAttempt) (world : World) :
    World × Except String Unit :=
  match blackoutTarget ans attempt false world.book with
  | .error text => (world, .error text)
  | .ok none => (world, .ok ())
  | .ok (some position) =>
    match ans.openingClient with
    | .error error => (world, .error ("blackout opening-order read failed: " ++ error))
    | .ok false => (world, .error "blackout opening order has no client identity")
    | .ok true =>
      match ans.closesExact with
      | .error error => (world, .error ("blackout exact-position closure failed: " ++ error))
      | .ok () =>
        ({ world with book := world.book.close position.id (ans.realizedPl position.id) }, .ok ())

/-- `sweep::market_blackout_act`: the resting order is the hold's, and the row stays. -/
def marketBlackoutAct (ans : SweepAnswers) (attempt : EntryAttempt) (world : World) :
    World × Except String Unit :=
  if attempt.blackoutClose ≠ .cancelAndClose then (world, .ok ())
  else match (if attempt.brokerTradeId.isSome then ans.exitRecorded else .ok false) with
    | .error error => (world, .error ("blackout closure exit-note read failed: " ++ error))
    | .ok true => (world, .ok ())
    | .ok false =>
      if !ans.acquire then (world, brokerAcquisitionFailed)
      else if ans.exactClose then blackoutCloseCtraderPosition ans attempt world
      else blackoutClosePosition ans attempt world

/-- `sweep::delete_row`: a failed delete is logged and no more. -/
def deleteRow (ans : SweepAnswers) (attempt : EntryAttempt) (store : Store) : Store :=
  if ans.store .deleteAttempt then store.deleteEntryAttempt attempt.tradeId attempt.attemptNo
  else store

/-- A cancel and then the delete of the row, whatever the cancel answered. -/
def cancelThenDelete (ans : SweepAnswers) (attempt : EntryAttempt) (world : World)
    (heard : List BrokerAnswer) : SweepEnd :=
  let (book, answer) := world.book.cancelOrder (ans.cancel attempt.brokerOrderId) attempt.brokerOrderId
  { world := { book, store := deleteRow ans attempt world.store }, heard := heard ++ [.cancel answer] }

/-- `sweep::cancel_and_delete`. -/
def cancelAndDelete (ans : SweepAnswers) (attempt : EntryAttempt) (world : World) : SweepEnd :=
  if !ans.acquire then { world, result := brokerAcquisitionFailed }
  else cancelThenDelete ans attempt world []

/-- `sweep::persist_adverse_extreme`. -/
def persistAdverseExtreme (ans : SweepAnswers) (attempt : EntryAttempt) (extreme : Rat)
    (store : Store) : Store :=
  if attempt.adverseExtreme = some extreme then store
  else if ans.store .setAdverseExtreme then
    store.setEntryAttemptAdverseExtreme attempt.tradeId attempt.attemptNo extreme
  else store

/-- `sweep::maybe_breach_cancel`: fold the quote into the running extreme, and judge that. -/
def maybeBreachCancel (ans : SweepAnswers) (attempt : EntryAttempt) (stopLoss : Rat) (world : World) :
    SweepEnd :=
  match observe ans.toAnswers attempt.tradeId (ans.lookup attempt.brokerOrderId) attempt world with
  | (world, .ok .pending) =>
    let heard := [.lookup (.ok .pending)]
    match ans.quote .sweep with
    | none => { world, heard, result := .error ("get_current_price: " ++ LookupError.transient.text) }
    | some quote =>
      let extreme := updateAdverseExtreme attempt.direction attempt.adverseExtreme quote.mid
      let world := { world with store := persistAdverseExtreme ans attempt extreme world.store }
      if breachDetected attempt.direction extreme stopLoss then
        cancelThenDelete ans attempt world heard
      else { world, heard }
  | (world, answer) => { world, heard := [.lookup answer] }

/-- `sweep::sweep_one`. -/
def sweepOne (env : Env) (ans : SweepAnswers) (now : Int) (attempt : EntryAttempt) (world : World) :
    SweepEnd :=
  let held (ending : World × Except String Unit) : SweepEnd :=
    { world := ending.1, result := ending.2 }
  if attempt.brokerTradeId.isSome then
    if env.marketBlackoutDue attempt.instrument now then held (marketBlackoutAct ans attempt world)
    else { world }
  else if attempt.expiresAt < now then cancelAndDelete ans attempt world
  else if barExpiryDue attempt.cancelAt now then cancelAndDelete ans attempt world
  else if env.marketBlackoutDue attempt.instrument now then held (marketBlackoutAct ans attempt world)
  else match attempt.stopLossPrice with
    | none => { world }
    | some stopLoss =>
      if !ans.acquire then { world, result := brokerAcquisitionFailed }
      else maybeBreachCancel ans attempt stopLoss world

end TradeControl
