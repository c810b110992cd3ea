import Mathlib.Data.List.Basic
import TradeControl.Intent

namespace TradeControl

structure Quote where
  bid : Rat
  ask : Rat
  deriving DecidableEq

def Quote.spread (quote : Quote) : Rat := quote.ask - quote.bid

def Quote.mid (quote : Quote) : Rat := (quote.bid + quote.ask) / 2

inductive PendingEntryKind
  | stop
  | limit
  deriving DecidableEq

/-- Evidence a broker gives when it refuses a pending entry close to the market. -/
structure PendingEntryDistance where
  kind : PendingEntryKind
  direction : Direction
  triggerPrice : Rat
  quote : Quote
  minimumDistance : Rat
  deriving DecidableEq

inductive EntryError
  | accountFetch
  | currencyConversion (source target detail : String)
  | equityParse
  | riskCapExceeded
  | openPositionsCapExceeded
  | unitsBelowMinimum
  | contractSizeUnavailable
  | entryTooCloseToMarket
  | entryWithinMinimumDistance (distance : PendingEntryDistance)
  | marketRecoveryDeclined (reason : String)
  | orderRejected
  | orderRejectedWithDetail (detail : String)
  | ambiguousSuccess (detail : String)
  deriving DecidableEq

inductive ResolvedEntry
  | market (referencePrice : Rat)
  | stop (triggerPrice : Rat)
  | limit (triggerPrice : Rat)
  deriving DecidableEq

def ResolvedEntry.referencePrice : ResolvedEntry → Rat
  | .market price | .stop price | .limit price => price

inductive OrderStatus
  | resting
  | open
  | closed
  | cancelled
  deriving DecidableEq

/-- The order rests on the book or has become an open position. -/
def OrderStatus.live : OrderStatus → Bool
  | .resting | .open => true
  | .closed | .cancelled => false

/-- What the broker holds under one order id. `setup` is the setup identity the
entry request named. -/
structure BrokerOrder where
  id : Nat
  setup : String
  instrument : String
  direction : Direction
  trigger : Rat
  isStop : Bool
  stopLoss : Option Rat
  takeProfit : Option Rat
  stake : Rat
  positionId : Nat
  realizedPl : Option Rat := none
  status : OrderStatus
  deriving DecidableEq

def BrokerOrder.live (order : BrokerOrder) : Bool := order.status.live

/-- The broker's side: every order it ever accepted, each under an id of its own,
the next id it will issue, and how often an entry was submitted to it. -/
structure Book where
  orders : List BrokerOrder
  nextId : Nat
  submissions : Nat
  distinct : (orders.map (·.id)).Nodup
  issued : ∀ order ∈ orders, order.id < nextId

def Book.empty : Book where
  orders := []
  nextId := 0
  submissions := 0
  distinct := List.nodup_nil
  issued := by simp

instance : Inhabited Book := ⟨Book.empty⟩

def Book.order (book : Book) (id : Nat) : Option BrokerOrder :=
  book.orders.find? (·.id == id)

def Book.statusOf (book : Book) (id : Nat) : Option OrderStatus :=
  (book.order id).map (·.status)

/-- Rewrite orders in place; an order keeps its id. -/
def Book.rewrite (book : Book) (change : BrokerOrder → BrokerOrder)
    (keepsId : ∀ order, (change order).id = order.id) : Book where
  orders := book.orders.map change
  nextId := book.nextId
  submissions := book.submissions
  distinct := by
    have same : (·.id) ∘ change = (·.id) := funext keepsId
    rw [List.map_map, same]
    exact book.distinct
  issued := by
    intro order member
    obtain ⟨old, present, rfl⟩ := List.mem_map.mp member
    rw [keepsId]
    exact book.issued old present

/-- The order resting under this id, if any, ends in another status. -/
def BrokerOrder.settleIf (rule : BrokerOrder → Bool) (status : OrderStatus) (order : BrokerOrder) :
    BrokerOrder :=
  if order.status = .resting ∧ rule order then { order with status := status } else order

@[simp] theorem BrokerOrder.settleIf_id (rule : BrokerOrder → Bool) (status : OrderStatus)
    (order : BrokerOrder) : (order.settleIf rule status).id = order.id := by
  unfold settleIf
  split <;> rfl

def Book.settle (book : Book) (rule : BrokerOrder → Bool) (status : OrderStatus) : Book :=
  book.rewrite (·.settleIf rule status) (·.settleIf_id rule status)

/-- The order rests and now fills. -/
def Book.fill (book : Book) (id : Nat) : Book := book.settle (·.id == id) .open

/-- The order rests and the broker now drops it. -/
def Book.expire (book : Book) (id : Nat) : Book := book.settle (·.id == id) .cancelled

/-- The open position under this id closes. -/
def Book.close (book : Book) (id : Nat) (realizedPl : Option Rat) : Book :=
  book.rewrite
    (fun order => if order.id = id ∧ order.status = .open then
        { order with status := .closed, realizedPl }
      else order)
    (fun order => by split <;> rfl)

/-- Every open position on the instrument closes, each with its own result. -/
def Book.closePositions (book : Book) (realizedPl : Nat → Option Rat) (instrument : String) : Book :=
  book.rewrite
    (fun order => if order.instrument = instrument ∧ order.status = .open then
        { order with status := .closed, realizedPl := realizedPl order.id }
      else order)
    (fun order => by split <;> rfl)

def Book.liveOrders (book : Book) (setup : String) : List BrokerOrder :=
  book.orders.filter fun order => order.setup == setup && order.live

structure EntryRequest where
  setupId : String
  instrument : String
  direction : Direction
  entry : ResolvedEntry
  stopLoss : Rat
  takeProfit : Rat
  dryRun : Bool
  deriving DecidableEq

/-- How the broker meets a submission. An unreadable reply may hide an order. -/
inductive PlaceReply
  | rests (stake : Rat)
  | fills (stake : Rat)
  | refused (error : EntryError)
  | unreadable (hidden : Option OrderStatus) (detail : String)
  deriving DecidableEq

def EntryRequest.toOrder (request : EntryRequest) (id : Nat) (stake : Rat) (status : OrderStatus) :
    BrokerOrder where
  id := id
  setup := request.setupId
  instrument := request.instrument
  direction := request.direction
  trigger := request.entry.referencePrice
  isStop := match request.entry with
    | .stop _ => true
    | _ => false
  stopLoss := some request.stopLoss
  takeProfit := some request.takeProfit
  stake := stake
  positionId := id
  status := status

@[simp] theorem EntryRequest.toOrder_id (request : EntryRequest) (id : Nat) (stake : Rat)
    (status : OrderStatus) : (request.toOrder id stake status).id = id := rfl

def Book.accept (book : Book) (request : EntryRequest) (stake : Rat) (status : OrderStatus) : Book where
  orders := book.orders ++ [request.toOrder book.nextId stake status]
  nextId := book.nextId + 1
  submissions := book.submissions
  distinct := by
    have unused : ∀ order ∈ book.orders, order.id ≠ book.nextId :=
      fun order member => (book.issued order member).ne
    rw [List.map_append, List.nodup_append]
    refine ⟨book.distinct, by simp, ?_⟩
    intro id member
    obtain ⟨order, present, rfl⟩ := List.mem_map.mp member
    simpa using unused order present
  issued := by
    intro order member
    rcases List.mem_append.mp member with old | new
    · exact Nat.lt_succ_of_lt (book.issued order old)
    · rw [List.mem_singleton.mp new]
      exact Nat.lt_succ_self _

/-- `Broker::place_entry`: the id of the accepted order. A dry run is sized and
answered, and nothing is submitted. -/
def Book.placeEntry (book : Book) (reply : PlaceReply) (request : EntryRequest) :
    Book × Except EntryError Nat :=
  let submitted := { book with submissions := book.submissions + 1 }
  match reply, request.dryRun with
  | .refused error, _ => (submitted, .error error)
  | _, true => (submitted, .ok book.nextId)
  | .rests stake, false => (submitted.accept request stake .resting, .ok book.nextId)
  | .fills stake, false => (submitted.accept request stake .open, .ok book.nextId)
  | .unreadable (some status) detail, false =>
    (submitted.accept request 0 status, .error (.ambiguousSuccess detail))
  | .unreadable none detail, false => (submitted, .error (.ambiguousSuccess detail))

/-- How the broker meets a cancel of a resting order: it confirms; it answers an
error with the order left resting; it cancels and the answer is lost; or the order
filled first. -/
inductive CancelReply
  | confirmed
  | failed
  | lost
  | filledFirst
  deriving DecidableEq

inductive CancelError
  | transient
  deriving DecidableEq

def Book.cancelOrder (book : Book) (reply : CancelReply) (id : Nat) :
    Book × Except CancelError Unit :=
  match book.statusOf id, reply with
  | some .resting, .confirmed => (book.settle (·.id == id) .cancelled, .ok ())
  | some .resting, .failed => (book, .error .transient)
  | some .resting, .lost => (book.settle (·.id == id) .cancelled, .error .transient)
  | some .resting, .filledFirst => (book.settle (·.id == id) .open, .error .transient)
  | _, _ => (book, .error .transient)

/-- How the broker meets an amend of a live order's stop: it confirms; it answers an
error with the stop unmoved; or it moves the stop and the answer is lost. -/
inductive AmendReply
  | confirmed
  | failed
  | lost
  deriving DecidableEq

inductive AmendError
  | transient
  | notFound
  deriving DecidableEq

/-- Move the stop of the live order under this id. -/
def Book.moveStop (book : Book) (id : Nat) (level : Rat) : Book :=
  book.rewrite
    (fun order => if order.id = id ∧ order.live then { order with stopLoss := some level } else order)
    (fun order => by split <;> rfl)

/-- `Broker::amend_stop`. -/
def Book.amendStop (book : Book) (reply : AmendReply) (id : Nat) (level : Rat) :
    Book × Except AmendError Unit :=
  if !(book.order id).any BrokerOrder.live then (book, .error .notFound)
  else match reply with
    | .confirmed => (book.moveStop id level, .ok ())
    | .failed => (book, .error .transient)
    | .lost => (book.moveStop id level, .error .transient)

def Book.openPositions (book : Book) : List BrokerOrder :=
  book.orders.filter (·.status == .open)

inductive AttemptState
  | pending
  | openPosition (brokerTradeId : Nat)
  | closedWin (realizedPl : Rat)
  | closedLossOrBreakeven (realizedPl : Rat)
  | closedConfirmed (brokerTradeId : Nat)
  | cancelled
  | unknown
  deriving DecidableEq

inductive LookupError
  | transient
  deriving DecidableEq

/-- A truthful broker answers a lookup with the truth, with "unknown", or not at all. -/
inductive LookupReply
  | truth
  | unknown
  | transient
  deriving DecidableEq

def BrokerOrder.attemptState (order : BrokerOrder) : AttemptState :=
  match order.status with
  | .resting => .pending
  | .open => .openPosition order.positionId
  | .closed =>
    match order.realizedPl with
    | some pl => if 0 < pl then .closedWin pl else .closedLossOrBreakeven pl
    | none => .closedConfirmed order.positionId
  | .cancelled => .cancelled

/-- `Broker::lookup_attempt_state`. -/
def Book.lookupAttemptState (book : Book) (reply : LookupReply) (id : Nat) :
    Except LookupError AttemptState :=
  match reply with
  | .truth => .ok ((book.order id).elim .unknown BrokerOrder.attemptState)
  | .unknown => .ok .unknown
  | .transient => .error .transient

/-- `Broker::cancel_pending_for_instrument`, for the orders whose cancel goes through. -/
def Book.cancelPendingForInstrument (book : Book) (goesThrough : Nat → Bool) (instrument : String) :
    Book :=
  book.settle (fun order => order.instrument == instrument && goesThrough order.id) .cancelled

end TradeControl
