import Mathlib.Algebra.Order.Ring.Abs
import Mathlib.Algebra.Order.Ring.Rat
import TradeControl.Broker
import TradeControl.CTrader.Wire
import TradeControl.Foundation.Asking

namespace TradeControl.CTrader

open Foundation

/-- What a market entry was authorized with. -/
structure Terms where
  account : Int
  symbol : Int
  volume : Int
  clientId : String
  direction : Direction
  stop : Rat
  target : Rat
  requestedPrice : Rat
  maxStopDistance : Rat
  /-- The positions open before the entry was sent. -/
  before : List Int

def account (payload : Json) (terms : Terms) : Except String Unit := do
  let id ← integer payload "ctidTraderAccountId"
  ensure (id = terms.account) "market evidence belongs to another account"

def isRejection (event : Json) : Prop := isEnum event "executionType" 7 "ORDER_REJECTED"

instance (event : Json) : Decidable (isRejection event) := inferInstanceAs (Decidable (isEnum _ _ _ _))

/-- A volume of the response, where it is there, raises what has been observed. -/
def observeVolume (terms : Terms) (observed : Int) (source : Json) (key : String) : Except String Int :=
  match source.get? key with
  | none => return observed
  | some _ => do
    let volume ← integer source key
    ensure (0 ≤ volume ∧ volume ≤ terms.volume) "invalid observed market fill volume"
    return max observed volume

/-- An open position raises it too. -/
def observePosition (observed : Int) (position : Json) : Except String Int :=
  if isEnum position "positionStatus" 1 "POSITION_STATUS_OPEN" then do
    let volume ← integer (position.field "tradeData") "volume"
    return max observed volume
  else return observed

def observedFill (event : Json) (terms : Terms) : Except String Int := do
  ensure ((event.get? "errorCode").isNone ∨ isRejection event)
    "market execution response contains contradictory error state"
  let observed :=
    if isEnum event "executionType" 3 "ORDER_FILLED" then terms.volume
    else if isEnum event "executionType" 11 "ORDER_PARTIAL_FILL" then 1
    else 0
  let observed ← observeVolume terms observed (event.field "order") "executedVolume"
  let observed ← observeVolume terms observed (event.field "deal") "filledVolume"
  let observed ← observePosition observed (event.field "position")
  ensure (observed ≤ terms.volume) "market response exceeds requested volume"
  ensure (¬ ((event.get? "errorCode").isSome ∨ isRejection event) ∨ observed = 0)
    "market rejection contradicts observed execution"
  return observed

def tradeData (data : Json) (terms : Terms) (volume : Int) : Except String Unit := do
  let symbol ← integer data "symbolId"
  ensure (symbol = terms.symbol) "market evidence symbol/side/volume mismatch"
  let side ← direction data
  ensure (side = terms.direction) "market evidence symbol/side/volume mismatch"
  let stated ← integer data "volume"
  ensure (stated = volume) "market evidence symbol/side/volume mismatch"

def rejectedIdentity (event : Json) (terms : Terms) : Except String Unit := do
  let order := event.field "order"
  match order.get? "clientOrderId" with
  | some client => ensure (client.asStr = some terms.clientId) "rejected market order belongs to another client ID"
  | none => pure ()
  match order.get? "tradeData" with
  | some _ => tradeData (order.field "tradeData") terms terms.volume
  | none => pure ()

/-- A volume that may be absent. -/
def volumeOrZero (source : Json) (key : String) : Except String Int :=
  match source.get? key with
  | some _ => integer source key
  | none => return 0

/-- What a detail shows to have been executed before the order's history is complete. -/
def observedDetail (detail : Json) (terms : Terms) : Except String Int := do
  arrayShape detail "deal"
  let declared ← volumeOrZero (detail.field "order") "executedVolume"
  let deals ← (array detail "deal").foldlM (fun total deal => do
    let volume ← volumeOrZero deal "filledVolume"
    ensure (0 ≤ volume) "invalid observed market deal volume"
    ensure (fitsI64 (total + volume)) "observed market fill overflow"
    return total + volume) 0
  ensure (0 ≤ declared ∧ declared ≤ terms.volume ∧ deals ≤ terms.volume)
    "observed market detail volume exceeds requested size"
  return max declared deals

/-- One of a terminal order's deals, with the ids seen and the volume so far. -/
def countDeal (order : Json) (id : Int) (terms : Terms) (counted : List Int × Int) (deal : Json) :
    Except String (List Int × Int) := do
  let filled ← integer deal "filledVolume"
  ensure (0 ≤ filled) "invalid market deal identity/volume"
  let owner ← integer deal "orderId"
  ensure (owner = id) "invalid market deal identity/volume"
  let symbol ← integer deal "symbolId"
  ensure (symbol = terms.symbol) "market deal has contradictory entry identity"
  let side ← direction deal
  ensure (side = terms.direction ∧ (deal.get? "closePositionDetail").all Json.isNull)
    "market deal has contradictory entry identity"
  if filled = 0 then return counted
  ensure (isEnum deal "dealStatus" 2 "FILLED" ∨ isEnum deal "dealStatus" 3 "PARTIALLY_FILLED")
    "unconfirmed market deal"
  let position ← integer deal "positionId"
  let ordered ← integer order "positionId"
  ensure (position = ordered) "market deal position/price/identity mismatch"
  let dealId ← integer deal "dealId"
  ensure (0 < dealId ∧ dealId ∉ counted.1) "market deal position/price/identity mismatch"
  let price ← number deal "executionPrice"
  ensure (0 < price) "market deal position/price/identity mismatch"
  ensure (fitsI64 (counted.2 + filled)) "market deal volume overflow"
  return (dealId :: counted.1, counted.2 + filled)

def dealVolume (detail order : Json) (id : Int) (terms : Terms) : Except String Int := do
  let counted ← (array detail "deal").foldlM (countDeal order id terms) ([], 0)
  return counted.2

def terminalStatuses : List (Int × String) :=
  [(2, "ORDER_STATUS_FILLED"), (3, "ORDER_STATUS_REJECTED"), (4, "ORDER_STATUS_EXPIRED"),
    (5, "ORDER_STATUS_CANCELLED")]

/-- The volume a terminal order executed; nothing for an order still working. -/
def terminal (detail : Json) (terms : Terms) (id : Int) : Except String (Option Int) := do
  let order := detail.field "order"
  let orderId ← integer order "orderId"
  ensure (orderId = id ∧ (order.field "clientOrderId").asStr = some terms.clientId ∧
    isEnum order "orderType" 1 "MARKET") "market order identity mismatch"
  tradeData (order.field "tradeData") terms terms.volume
  ensure ((order.get? "closingOrder").all fun flag => flag.asBool = some false)
    "market entry order is a closing order"
  if isEnum order "orderStatus" 1 "ORDER_STATUS_ACCEPTED" then return none
  ensure (isOneOf order "orderStatus" terminalStatuses) "unknown market order status"
  arrayShape detail "deal"
  let filled ← dealVolume detail order id terms
  match order.get? "executedVolume" with
  | some declared => do
    let volume ← integer (.object [("volume", declared)]) "volume"
    ensure (volume = filled) "market executed volume disagrees with its deals"
  | none => pure ()
  ensure (0 ≤ filled ∧ filled ≤ terms.volume) "invalid market executed volume"
  ensure (¬ isEnum order "orderStatus" 2 "ORDER_STATUS_FILLED" ∨ filled = terms.volume)
    "filled market order lacks its full executed volume"
  ensure (¬ isEnum order "orderStatus" 3 "ORDER_STATUS_REJECTED" ∨ filled = 0)
    "market rejection contradicts executed deals"
  return some filled

/-- Whether a row's id is this one; a row without an id is another's. -/
def hasId (row : Json) (key : String) (id : Int) : Prop := (integer row key).toOption = some id

instance (row : Json) (key : String) (id : Int) : Decidable (hasId row key id) :=
  inferInstanceAs (Decidable (_ = _))

def identity (position : Json) (terms : Terms) (id filled : Int) : Except String Unit := do
  let stated ← integer position "positionId"
  ensure (stated = id ∧ isEnum position "positionStatus" 1 "POSITION_STATUS_OPEN")
    "market position identity/status mismatch"
  tradeData (position.field "tradeData") terms filled
  let price ← number position "price"
  ensure (0 < price) "market position lacks actual fill price"

def positionRows (snapshot : Json) (id : Int) : List Json :=
  (array snapshot "position").filter fun row => hasId row "positionId" id

/-- The one new position of a fill. -/
def position (snapshot : Json) (terms : Terms) (order id filled : Int) : Except String Json := do
  account snapshot terms
  validateSnapshot snapshot
  ensure (∀ row ∈ array snapshot "order", ¬ hasId row "orderId" order)
    "market order remains pending after terminal fill"
  match positionRows snapshot id with
  | [row] => do
    ensure (0 < id ∧ id ∉ terms.before) "market fill has no unique new position"
    identity row terms id filled
    return row
  | _ => .error "market fill has no unique new position"

def sideSign : Direction → Rat
  | .long => 1
  | .short => -1

def fillGeometry (position : Json) (terms : Terms) : Except String Unit := do
  let price ← number position "price"
  let sign := sideSign terms.direction
  ensure (0 < (price - terms.stop) * sign ∧ 0 < (terms.target - price) * sign)
    "actual market fill is outside the requested absolute protection"
  let distance := (price - terms.stop) * sign
  ensure (0 < terms.maxStopDistance ∧ distance ≤ terms.maxStopDistance * (1 + 1 / 10 ^ 10))
    "market fill would exceed the authorized risk budget when restoring absolute SL"
  let stop ← number position "stopLoss"
  let target ← number position "takeProfit"
  ensure (0 < stop ∧ 0 < target ∧ 0 < (price - stop) * sign ∧ 0 < (target - price) * sign)
    "market position lacks valid initial relative protection"

def isProtected (position : Json) (terms : Terms) (id filled : Int) : Except String Unit := do
  identity position terms id filled
  fillGeometry position terms
  let stop ← number position "stopLoss"
  ensure (|stop - terms.stop| < 1 / 10 ^ 9) "market absolute SL/TP normalization was not confirmed"
  let target ← number position "takeProfit"
  ensure (|target - terms.target| < 1 / 10 ^ 9) "market absolute SL/TP normalization was not confirmed"

/-- What the broker's client answers a request with when it fails. -/
inductive RequestError
  | notSent (reason : String)
  | rejected (code : String)
  | unknown (reason : String)

inductive Request
  | read (kind response : Nat) (payload : Json)
  | mutate (kind : Nat) (payload : Json)
  | note (phase : String) (evidence : Json)

/-- The broker and the audit: what they answer may depend on all that was asked before. -/
structure Transport where
  read : List Request → Nat → Nat → Json → Except String Json
  mutate : List Request → Nat → Json → Except RequestError Json
  note : List Request → String → Json → Except String Unit
  /-- The budget for the proof ends while the next answer is awaited. -/
  late : List Request → Bool
  /-- The pauses between details of the order that fit into the budget. -/
  pauses : Nat
  errorText : RequestError → String

structure Placement where
  orderId : String
  size : Option Rat
  price : Option Rat
  deriving DecidableEq

/-- Why the proof of an entry did not come to an end. -/
inductive Unproven
  | timedOut
  | failed (reason : String)

abbrev Finalizing := Asking Request Unproven

section
variable (io : Transport)

/-- A check of the proof. -/
def checked {Result : Type} (result : Except String Result) : Finalizing Result :=
  Asking.check (result.mapError .failed)

/-- An answer, unless the budget ends before it comes. -/
def inTime {Result : Type} (answer : List Request → Except String Result) (asked : List Request) :
    Except Unproven Result :=
  if io.late asked then .error .timedOut else (answer asked).mapError .failed

def readIo (kind response : Nat) (payload : Json) : Finalizing Json :=
  Asking.ask (.read kind response payload) (inTime io fun asked => io.read asked kind response payload)

def mutateIo (kind : Nat) (payload : Json) : Finalizing Json :=
  Asking.ask (.mutate kind payload)
    (inTime io fun asked => (io.mutate asked kind payload).mapError io.errorText)

def noteIo (phase : String) (evidence : Json) : Finalizing Unit :=
  Asking.ask (.note phase evidence) fun asked => (io.note asked phase evidence).mapError .failed

inductive Completion
  | filled (placement : Placement)
  | rejected (reason : String)

def orderRequest (id : Int) : Json := .object [("orderId", .whole id)]

/-- The loop that reads the order until it is terminal. -/
def pollOrder (terms : Terms) (id : Int) : Nat → Int → Finalizing (Json × Int)
  | pauses, observed => do
    let detail ← readIo io 2181 2182 (orderRequest id)
    checked (account detail terms)
    noteIo io "market-order-detail" detail
    let ended ← checked (terminal detail terms id)
    let seen ← checked (observedDetail detail terms)
    match ended with
    | some filled => do
      checked (ensure (max observed seen ≤ filled) "terminal market detail contradicts observed execution")
      return (detail.field "order", filled)
    | none =>
      match pauses with
      | 0 => Asking.check (.error .timedOut)
      | pauses + 1 => pollOrder terms id pauses (max observed seen)

def snapshotRequest : Json := .object [("returnProtectionOrders", .bool false)]

/-- From an order that has executed to its position's verified protection. -/
def protectFill (terms : Terms) (id : Int) (order : Json) (filled : Int) : Finalizing Completion := do
  checked (ensure (filled = terms.volume)
    "market IOC partially executed; reconcile its protected position before another mutation")
  checked (ensure (isEnum order "orderStatus" 2 "ORDER_STATUS_FILLED")
    "executed market order lacks FILLED status; reconcile before another mutation")
  let positionId ← checked (integer order "positionId")
  checked (ensure (positionId ∉ terms.before) "market fill points at a pre-existing position")
  let snapshot ← readIo io 2124 2125 snapshotRequest
  let row ← checked (position snapshot terms id positionId filled)
  noteIo io "market-filled-position" (.object [("order", order), ("position", row)])
  checked (fillGeometry row terms)
  let payload := Json.object [("positionId", .whole positionId), ("stopLoss", .decimal terms.stop),
    ("takeProfit", .decimal terms.target)]
  noteIo io "market-protection-intent" payload
  let amended ← mutateIo io 2110 payload
  checked (account amended terms)
  noteIo io "market-protection-response" amended
  checked (ensure (amended.get? "errorCode").isNone "cTrader protection amendment rejected")
  checked (isProtected (amended.field "position") terms positionId filled)
  let verified ← readIo io 2124 2125 snapshotRequest
  noteIo io "market-protection-readback" verified
  let row ← checked (position verified terms id positionId filled)
  checked (isProtected row terms positionId filled)
  noteIo io "market-protection-verified" verified
  return .filled { orderId := toString id, size := some (filled / 100), price := some terms.requestedPrice }

def finalize (terms : Terms) (event : Json) : Finalizing Completion := do
  checked (account event terms)
  noteIo io "market-response" event
  let observed ← checked (observedFill event terms)
  if isRejection event then
    checked (rejectedIdentity event terms)
    return .rejected ((event.field "errorCode").asStr.getD "ORDER_REJECTED")
  let id ← checked (integer (event.field "order") "orderId")
  checked (ensure (0 < id) "market response has invalid order ID")
  let (order, filled) ← pollOrder io terms id io.pauses observed
  if filled = 0 then return .rejected "cTrader market order terminated without any execution"
  protectFill io terms id order filled

def reject (detail : String) : EntryError := .orderRejectedWithDetail detail

def unknown (clientId reason : String) : EntryError :=
  .ambiguousSuccess
    s!"cTrader market entry {clientId} may have executed: {reason}; reconcile the durable audit before another mutation"

def beforeSend (terms : Terms) (payload : Json) : Json :=
  .object [("request", payload), ("pre_position_ids", .array (terms.before.map .whole)),
    ("absolute_stop", .decimal terms.stop), ("absolute_target", .decimal terms.target),
    ("requested_reference_price", .decimal terms.requestedPrice),
    ("authorized_max_stop_distance", .decimal terms.maxStopDistance)]

/-- What the new order's request is answered with, when it is not accepted. -/
def submissionError (terms : Terms) : RequestError → EntryError
  | .notSent reason => reject s!"not submitted: {reason}"
  | .rejected code => reject code
  | .unknown reason => unknown terms.clientId reason

/-- What the caller is told of the proof. -/
def entryAnswer (terms : Terms) : Except Unproven Completion → Except EntryError Placement
  | .ok (.filled placement) => .ok placement
  | .ok (.rejected reason) => .error (reject reason)
  | .error (.failed error) => .error (unknown terms.clientId error)
  | .error .timedOut => .error (unknown terms.clientId "fill/protection verification timed out")

/-- `execute_with_timeout`: the answer to the caller and all that was asked. -/
def execute (terms : Terms) (payload : Json) : Except EntryError Placement × List Request :=
  let noted := [Request.note "market-before-send" (beforeSend terms payload)]
  match io.note [] "market-before-send" (beforeSend terms payload) with
  | .error error => (.error (reject s!"market entry not submitted: audit persistence failed: {error}"), noted)
  | .ok () =>
    let sent := noted ++ [.mutate 2106 payload]
    match io.mutate noted 2106 payload with
    | .error error => (.error (submissionError terms error), sent)
    | .ok event =>
      let (completed, asked) := finalize io terms event sent
      (entryAnswer terms completed, asked)

end

end TradeControl.CTrader
