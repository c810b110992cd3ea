import TradeControl.CTrader.Journals

namespace TradeControl.CTrader

open Foundation

section
variable (world : Surroundings)

/-- What a market entry asks for, as it happens to the account under a journal. -/
def requestEvent (events : List Event) (id : String) : Request → Event
  | .read _ _ _ => .looked
  | .mutate kind payload => .sent id (.openApi kind payload)
  | .note phase evidence => .wrote id { phase, evidence } (world.write events id { phase, evidence })

def requestEvents (start : List Event) (id : String) (asked : List Request) : List Event :=
  asked.foldl (fun events request => events ++ [requestEvent world events id request]) start

/-- `market::Api` within a companion write. -/
def auditedTransport (start : List Event) (id : String) : Transport where
  read asked kind response payload :=
    (world.read (requestEvents world start id asked) kind response payload).mapError world.errorText
  mutate asked kind payload := world.mutate (requestEvents world start id asked) kind payload
  note asked phase evidence :=
    if world.write (requestEvents world start id asked) id { phase, evidence } = .whole then .ok ()
    else .error "cTrader FIX journal append failed"
  late asked := world.late (requestEvents world start id asked)
  pauses := world.pauses
  errorText := world.errorText

def executeMarket (id : String) (terms : Terms) (payload : Json) : Journaled (Except EntryError Placement) :=
  fun events =>
    let (result, asked) := execute (auditedTransport world events id) terms payload
    (.ok result, requestEvents world events id asked)

def acceptedTypes : List (Int × String) := [(2, "ORDER_ACCEPTED"), (3, "ORDER_FILLED"), (11, "ORDER_PARTIAL_FILL")]

/-- `entry::response`. -/
def pendingResponse (event : Json) (cents : Int) (price : Rat) : Except EntryError Placement :=
  if (event.get? "errorCode").isSome ∨ isRejection event then
    .error (reject ((event.field "errorCode").asStr.getD "ORDER_REJECTED"))
  else if ¬ isOneOf event "executionType" acceptedTypes then
    .error (.ambiguousSuccess "unexpected cTrader execution response; reconcile before retry")
  else
    match integer (event.field "order") "orderId" with
    | .ok order => .ok { orderId := toString order, size := some (cents / 100), price := some price }
    | .error _ => .error (.ambiguousSuccess "accepted cTrader order response omitted order ID")

def pendingError : RequestError → EntryError
  | .rejected code => reject code
  | .notSent detail => reject s!"not submitted: {detail}"
  | .unknown detail => .ambiguousSuccess detail

/-- `entry::submit` of an order that rests. -/
def submitPending (id : String) (payload : Json) (cents : Int) (price : Rat) :
    Journaled (Except EntryError Placement) := do
  let answer ← send id (.openApi 2106 payload) fun events => world.mutate events 2106 payload
  return match answer with
    | .ok event => pendingResponse event cents price
    | .error error => .error (pendingError error)

def isRejected : Except EntryError Placement → Bool
  | .error (.orderRejectedWithDetail _) => true
  | _ => false

/-- The account's protection keeps the outcome of what was sent. -/
def keepOutcome (result : Except EntryError Placement) : Journaled (Except EntryError Placement) := do
  let kept ← (look fun events => world.keepOutcome events (isRejected result)).attempt
  return match kept with
    | .ok _ => result
    | .error error => .error (.ambiguousSuccess s!"prop risk outcome persistence: {error}")

/-- `entry::place_with_client_id`. -/
def placeWithClientId (id : String) : Journaled (Except EntryError Placement) := do
  let planned ← look fun events => .ok (world.plan events id)
  match planned with
  | .error error => return .error error
  | .ok (.market terms payload) =>
    let result ← executeMarket world id terms payload
    keepOutcome world result
  | .ok (.pending payload cents price) =>
    let result ← submitPending world id payload cents price
    keepOutcome world result

/-- What the journal says of an entry, and whether that settles it. -/
def entryReceipt (id : String) : Except EntryError Placement → Json × Bool
  | .ok placement =>
    (.object [("client_order_id", .text id), ("outcome", .text "accepted"), ("order_id", .text placement.orderId)], true)
  | .error (.ambiguousSuccess detail) =>
    (.object [("client_order_id", .text id), ("outcome", .text "unknown"), ("reason", .text detail)], false)
  | .error error =>
    (.object [("client_order_id", .text id), ("outcome", .text "not_placed"),
      ("reason", .text (world.entryErrorText error))], true)

/-- What the caller is told when the journal could not be written. -/
def unrecorded (id error : String) : Except EntryError Placement → EntryError
  | .ok placement =>
    let order := placement.orderId
    .ambiguousSuccess
      s!"Open API order {order} was confirmed, but audit persistence failed for {id}: {error}; reconcile before another mutation"
  | .error (.ambiguousSuccess detail) => .ambiguousSuccess s!"{detail}; audit persistence failed for {id}: {error}"
  | .error failure => failure

/-- `Hybrid::place_entry`. -/
def placeEntry (intent : List (String × Json)) : Journaled (Except EntryError Placement) := do
  let guarded ← (companionWrite world "open-api-entry" intent).attempt
  match guarded with
  | .error error => return .error (reject s!"Open API entry not sent: {error}")
  | .ok id =>
    let result ← placeWithClientId world id
    let recorded ← (recordOutcome world id (entryReceipt world id result).1 (entryReceipt world id result).2).attempt
    match recorded with
    | .ok _ => return result
    | .error error => return .error (unrecorded id error result)

def findRow (snapshot : Json) (list key : String) (id : Int) : Option Json :=
  (array snapshot list).find? fun row => hasId row key id

/-- What an id of an amendment stands for: a position or a pending order, if it is still there. -/
def resolveAmend (snapshot : Json) (detail : Option Json) (id : Int) : Except String (Option (Bool × Json)) := do
  let direct := findRow snapshot "position" "positionId" id
  let pending := findRow snapshot "order" "orderId" id
  let linked := detail.bind fun order => (integer order "positionId").toOption
  ensure (direct.isNone ∨ pending.isNone) "ambiguous cTrader ID matches position and pending order"
  match direct, pending with
  | some row, _ => do
    ensure (linked.all (· = id)) "ambiguous cTrader position/order numeric ID belongs to different positions"
    return some (true, row)
  | none, some row => return some (false, row)
  | none, none => return (linked.bind (findRow snapshot "position" "positionId")).map fun row => (true, row)

def preserved (source : Json) (keys : List String) : List (String × Json) :=
  keys.filterMap fun key => (source.get? key).map fun value => (key, value)

def amendPayload (source : Json) (isPosition : Bool) (stop : Rat) : Except String Json := do
  ensure (0 < stop) "invalid cTrader amended stop"
  let key := if isPosition then "positionId" else "orderId"
  let id ← integer source key
  return .object ([(key, .whole id), ("stopLoss", .decimal stop)] ++
    preserved source ["takeProfit", "guaranteedStopLoss", "trailingStopLoss"] ++
    preserved source (if isPosition then ["stopLossTriggerMethod"] else ["limitPrice", "stopPrice", "stopTriggerMethod"]))

/-- The broker's answer shows the stop where it was asked to be, and nothing else moved. -/
def confirmAmend (response source : Json) (isPosition : Bool) (stop : Rat) : Except String Unit := do
  let actual := response.field (if isPosition then "position" else "order")
  let key := if isPosition then "positionId" else "orderId"
  ensure (response.get? "errorCode").isNone "cTrader stop amendment not confirmed"
  let id ← integer actual key
  let own ← integer source key
  ensure (id = own ∧ ∃ level ∈ (number actual "stopLoss").toOption, |level - stop| < 1 / 10 ^ 9)
    "cTrader stop amendment not confirmed"
  ensure ((number actual "takeProfit").toOption = (number source "takeProfit").toOption)
    "cTrader amendment did not preserve take profit"

/-- The order's history row, unless the broker knows no such order. -/
def amendDetail (id : Int) (answer : Except RequestError Json) : Except String (Option Json) :=
  match answer with
  | .ok detail => do
    let orderId ← integer (detail.field "order") "orderId"
    ensure (orderId = id) "amend history order ID mismatch"
    return some (detail.field "order")
  | .error (.rejected code) =>
    if code = "ORDER_NOT_FOUND" then return none else .error (world.errorText (.rejected code))
  | .error error => .error (world.errorText error)

/-- `management::amend`: whether there was something to amend. -/
def amendOnce (journal : String) (id : Int) (stop : Rat) : Journaled Bool := do
  let snapshot ← look fun events => (world.read events 2124 2125 snapshotRequest).mapError world.errorText
  Asking.check (validateSnapshot snapshot)
  let detail ← look fun events => amendDetail world id (world.read events 2181 2182 (orderRequest id))
  let found ← Asking.check (resolveAmend snapshot detail id)
  match found with
  | none => return false
  | some (isPosition, source) => do
    look fun events => world.stopTightens events source stop
    let payload ← Asking.check (amendPayload source isPosition stop)
    let kind := if isPosition then 2110 else 2109
    let answer ← send journal (.openApi kind payload) fun events => world.mutate events kind payload
    let response ← Asking.check (answer.mapError world.errorText)
    Asking.check (confirmAmend response source isPosition stop)
    return true

def amendResult : Except String Bool → Except AmendError Unit
  | .ok true => .ok ()
  | .ok false => .error .notFound
  | .error _ => .error .transient

def amendmentConfirmed : Except AmendError Unit → Bool
  | .ok () => true
  | .error .notFound => true
  | .error .transient => false

/-- `Hybrid::amend_stop`. -/
def amendStop (matching : Bool) (id : String) (stop : Rat) : Journaled (Except AmendError Unit) := do
  if ¬ (matching ∧ 0 < stop) then return .error .transient
  match (parseI64 id).filter fun value => 0 < value with
  | none => return .error .notFound
  | some value =>
    let guarded ← (companionWrite world "open-api-amend-stop"
      [("position_or_order_id", .text id), ("new_stop", .decimal stop)]).attempt
    match guarded with
    | .error _ => return .error .transient
    | .ok journal =>
      let amended ← (amendOnce world journal value stop).attempt
      let result := amendResult amended
      let recorded ← (recordOutcome world journal
        (.object [("position_or_order_id", .text id), ("new_stop", .decimal stop),
          ("confirmed", .bool (amendmentConfirmed result))])
        (amendmentConfirmed result)).attempt
      match recorded with
      | .ok _ => return result
      | .error _ => return .error .transient

end

def pendingReport (report : Report) : Bool :=
  (report.status = .new || report.status = .partiallyFilled) && (report.limitPrice.isSome || report.stopPrice.isSome)

/-- `mapping::quantity`: the one side that a position is on. -/
def positionQuantity (position : FixPosition) : Except String (Direction × Rat) := do
  ensure (position.positionId ≠ "") "cTrader FIX position has no identity"
  ensure (0 ≤ position.longQuantity ∧ 0 ≤ position.shortQuantity) "cTrader FIX position quantity is invalid"
  if 0 < position.longQuantity ∧ ¬ 0 < position.shortQuantity then return (.long, position.longQuantity)
  if ¬ 0 < position.longQuantity ∧ 0 < position.shortQuantity then return (.short, position.shortQuantity)
  .error "cTrader FIX position must contain exactly one nonzero side"

def closeOrder (position : FixPosition) (id : String) : Except String CloseOrder := do
  let (direction, quantity) ← positionQuantity position
  return {
    clientOrderId := id
    symbolId := position.symbolId
    side := match direction with
      | .long => .sell
      | .short => .buy
    quantity
    positionId := position.positionId }

def confirmedClose (position : FixPosition) (report : Report) (remaining : List FixPosition) : Except String Unit := do
  let request ← closeOrder position "validation"
  ensure (report.positionId = some position.positionId ∧ report.symbolId = some position.symbolId ∧
    report.side = some request.side ∧ report.status = .filled ∧ report.execType = "F" ∧
    report.quantity = some request.quantity ∧ (∃ price ∈ report.averagePrice, 0 < price) ∧
    report.cumulativeQuantity = some request.quantity ∧ report.leavesQuantity = some 0)
    "cTrader FIX full close execution not confirmed; reconcile before retry"
  ensure (∀ actual ∈ remaining, actual.positionId ≠ position.positionId)
    "cTrader FIX position remains after close; reconcile before retry"

def accepted : MutationOutcome → Except String Report
  | .accepted report => .ok report
  | .rejected reason => .error s!"cTrader FIX management request rejected: {reason}"
  | .unknown id =>
    .error
      s!"cTrader FIX mutation {id} outcome is unknown; reconcile its durable audit evidence before further mutations"

section
variable (world : Surroundings)

/-- `Mutation::outcome`. -/
def recordAnswer (id : String) (answer : Except String MutationOutcome) : Journaled Unit := do
  match answer with
  | .ok outcome =>
    append world id { phase := "outcome", evidence := .object [("outcome", world.outcomeJson outcome)] }
    match outcome with
    | .rejected _ => resolve world id (.object [("rejected", .bool true)])
    | _ => return ()
  | .error _ =>
    append world id { phase := "not_sent", evidence := .object [("submitted", .bool false)] }
    resolve world id (.object [("submitted", .bool false)])

/-- Cancels one order, under a journal of its own that the caller is given as soon as it is there. -/
def cancelExact (order : Report) (journals : List String) : Journaled (Except String Unit × List String) := do
  match order.clientOrderId.filter (· ≠ "") with
  | none =>
    return (.error "cTrader FIX cancellation requires the broker's original client order ID; no mutation sent", journals)
  | some original =>
    let id ← look fun events => .ok (world.freshId events)
    let prepared ← (prepare world id [("operation", .text "cancel"), ("order_id", .text order.orderId),
      ("original_client_order_id", .text original)]).attempt
    match prepared with
    | .error error => return (.error error, journals)
    | .ok _ =>
      let request : CancelOrder := { clientOrderId := id, originalClientOrderId := original, orderId := order.orderId }
      let confirmed ← Asking.attempt do
        let answer ← send id (.cancel request) fun events => world.cancel events request
        recordAnswer world id answer
        let report ← Asking.check (answer >>= accepted)
        Asking.check (ensure (report.orderId = order.orderId ∧ report.status = .cancelled)
          "cTrader FIX cancellation is not positively confirmed; reconcile before retry")
        let remaining ← look world.orders
        append world id { phase := "verification", evidence := .object [("orders", world.ordersJson remaining)] }
        Asking.check (ensure (∀ row ∈ remaining, ¬ (row.orderId = order.orderId ∧ pendingReport row))
          "cTrader FIX order remains pending after cancellation; reconcile before retry")
        resolve world id (.object [("order_id", .text report.orderId), ("status", .text "cancelled")])
      return (confirmed, journals ++ [id])

/-- Closes one position, likewise. -/
def closeExact (position : FixPosition) (journals : List String) : Journaled (Except String Unit × List String) := do
  let id ← look fun events => .ok (world.freshId events)
  match closeOrder position id with
  | .error error => return (.error error, journals)
  | .ok request =>
    let prepared ← (prepare world id [("operation", .text "close"), ("position_id", .text position.positionId),
      ("symbol_id", .whole request.symbolId), ("quantity", .decimal request.quantity)]).attempt
    match prepared with
    | .error error => return (.error error, journals)
    | .ok _ =>
      let confirmed ← Asking.attempt do
        let answer ← send id (.place request) fun events => world.place events request
        recordAnswer world id answer
        let report ← Asking.check (answer >>= accepted)
        let remaining ← look world.positions
        append world id { phase := "verification", evidence := .object [("positions", world.positionsJson remaining)] }
        Asking.check (confirmedClose position report remaining)
        resolve world id
          (.object [("position_id", .text position.positionId), ("closing_order", world.reportJson report)])
      return (confirmed, journals ++ [id])

/-- `evidence::finish`: the logout goes into every journal of the operation; the first failure counts. -/
def recordLogout : List String → Journaled (Except String Unit)
  | [] => return .ok ()
  | id :: rest => do
    let recorded ← (append world id { phase := "logout", evidence := .object [] }).attempt
    let others ← recordLogout rest
    return recorded >>= fun _ => others

def finish {Result : Type} (journals : List String) (result : Except String Result) :
    Journaled (Except String Result) := do
  let recorded ← recordLogout world journals
  return recorded >>= fun _ => result

/-- `FixBroker::cancel`. -/
def cancelOrder (matching : Bool) (id : String) : Journaled (Except String Unit) := do
  Asking.check (ensure matching "cTrader FIX account mismatch")
  Asking.check (ensure (id ≠ "") "cTrader FIX cancel order ID is empty; no mutation sent")
  acquireLock world none
  look world.connect
  let orders ← (look world.orders).attempt
  match orders with
  | .error error => finish world [] (.error error)
  | .ok orders =>
    match orders.find? fun order => order.orderId = id && pendingReport order with
    | none => finish world [] (.error "cTrader FIX pending order not found; absence does not confirm cancellation")
    | some order =>
      let (result, journals) ← cancelExact world order []
      finish world journals result

/-- The orders of a bulk cancellation, one after the other, up to the first that fails. -/
def cancelEach : List Report → Nat → List String → Journaled (Nat × List String)
  | [], count, journals => return (count, journals)
  | order :: rest, count, journals => do
    let (result, journals) ← cancelExact world order journals
    match result with
    | .error _ => return (count, journals)
    | .ok _ => cancelEach rest (count + 1) journals

/-- `FixBroker::cancel_instrument`. -/
def cancelInstrument (instrument : String) : Journaled (Except String Nat) := do
  acquireLock world none
  let symbol ← look fun events => world.symbol events instrument
  look world.connect
  let orders ← (look world.orders).attempt
  match orders with
  | .error error => finish world [] (.error error)
  | .ok orders =>
    let selected := orders.filter fun order => order.symbolId = some symbol && pendingReport order
    let (count, journals) ← cancelEach world selected 0 []
    finish world journals (.ok count)

inductive CloseOutcome
  | nothingOpen
  | closed (count : Nat)

/-- The positions of a closing, one after the other, up to the first that fails. -/
def closeEach : List FixPosition → List String → Journaled (Except String Unit × List String)
  | [], journals => return (.ok (), journals)
  | position :: rest, journals => do
    let (result, journals) ← closeExact world position journals
    match result with
    | .error error => return (.error error, journals)
    | .ok _ => closeEach rest journals

/-- What a closing of all comes to. -/
def confirmFlat (symbol closed : Nat) (remaining : List FixPosition) : Except String CloseOutcome := do
  ensure (∀ position ∈ remaining, position.symbolId ≠ symbol)
    "cTrader FIX instrument is not flat after closing the observed positions"
  return .closed closed

/-- `FixBroker::close`. -/
def closeInstrument (instrument : String) : Journaled (Except String CloseOutcome) := do
  acquireLock world none
  let symbol ← look fun events => world.symbol events instrument
  look world.connect
  let positions ← (look world.positions).attempt
  match positions with
  | .error error => finish world [] (.error error)
  | .ok positions =>
    let selected := positions.filter fun position => position.symbolId = symbol
    if selected.isEmpty then finish world [] (.ok .nothingOpen)
    else
      let (result, journals) ← closeEach world selected []
      match result with
      | .error error => finish world journals (.error error)
      | .ok _ =>
        let remaining ← (look world.positions).attempt
        finish world journals (remaining >>= confirmFlat symbol selected.length)

end

end TradeControl.CTrader
