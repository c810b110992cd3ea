import Mathlib.Data.Finset.Basic
import Mathlib.Data.Rat.Lemmas
import Mathlib.Logic.Function.Basic
import TradeControl.Broker
import TradeControl.Instant

namespace TradeControl

inductive HoldReason
  | spreadHour
  | newsPause
  | marketHours
  | maAlignment
  deriving DecidableEq

/-- The reasons an order is held off the book for. -/
abbrev Holders := Finset HoldReason

inductive Release
  | emptied
  | stillHeld
  | notHeld
  deriving DecidableEq

def Holders.hold (holders : Holders) (reason : HoldReason) : Holders := insert reason holders

/-- `Holders::release`: an empty set answers "emptied" only when this call emptied it. -/
def Holders.release (holders : Holders) (reason : HoldReason) : Holders × Release :=
  if reason ∈ holders then
    let rest := holders.erase reason
    (rest, if rest = ∅ then .emptied else .stillHeld)
  else (holders, .notHeld)

inductive StoredReason
  | belowMinR
  | belowMinRForecast
  | belowMinSize
  | spreadHour
  | marketClosed
  deriving DecidableEq

def StoredReason.recheckedPerBar : StoredReason → Bool
  | .belowMinSize => true
  | .belowMinR | .belowMinRForecast | .spreadHour | .marketClosed => false

/-- A setup parked for a later placement. `replaces` names the broker order it was
pulled for, if it ever reached the broker. -/
structure StoredOrder where
  signedIntent : String
  reason : StoredReason
  originalSlDistance : Rat
  tpDistance : Rat
  minR : Rat
  storedAt : Int
  dropAt : Int
  shellTime : Int
  replaces : Option Nat
  barSeconds : Option Int
  deriving DecidableEq

def bucket (instant secs : Int) : Int := instant / nanosPerSecond / secs

def StoredOrder.isALaterBar (order : StoredOrder) (barTime : Option Int) : Bool :=
  match barTime, order.barSeconds with
  | some bar, some secs => 0 < secs && bucket order.shellTime secs < bucket bar secs
  | _, _ => false

def dropBarsBeforeExpiry : Int := 3

/-- Three bars before the window closes, never before the park itself. -/
def dropAt (expiry barSeconds storedAt : Int) : Int :=
  max (expiry - seconds (max barSeconds 0 * dropBarsBeforeExpiry)) storedAt

inductive StoredVerdict
  | promote
  | keepWaiting
  | drop
  deriving DecidableEq

structure StoredCheck where
  clearsMinR : Bool
  barTime : Option Int
  spreadHourOver : Bool
  marketOpen : Bool
  deriving DecidableEq

def storedVerdict (order : StoredOrder) (now : Int) (check : StoredCheck) : StoredVerdict :=
  if order.dropAt ≤ now then .drop
  else
    let promote := match order.reason with
      | .spreadHour => check.spreadHourOver
      | .marketClosed => check.marketOpen
      | reason =>
        if reason.recheckedPerBar then order.isALaterBar check.barTime else check.clearsMinR
    if promote then .promote else .keepWaiting

/-- The deadline wins over every promotable check. -/
theorem storedVerdict_drop_iff (order : StoredOrder) (now : Int) (check : StoredCheck) :
    storedVerdict order now check = .drop ↔ order.dropAt ≤ now := by
  unfold storedVerdict
  constructor
  · intro verdict
    by_contra early
    rw [if_neg early] at verdict
    dsimp only at verdict
    split_ifs at verdict
  · exact fun late => if_pos late

theorem before_dropAt_of_promote {order : StoredOrder} {now : Int} {check : StoredCheck}
    (verdict : storedVerdict order now check = .promote) : now < order.dropAt := by
  by_contra late
  rw [(storedVerdict_drop_iff order now check).mpr (not_lt.mp late)] at verdict
  cases verdict

structure RememberedStop where
  positionOrOrderId : Nat
  originalStop : Rat
  deriving DecidableEq

structure CancelledOrder where
  orderId : Nat
  signedIntent : String
  deriving DecidableEq

/-- The one row per trade that the stop widener, the order hold and order control
share. `applied` and `holders` belong to the first two, `storedOrders` to the last.
The trade id is the key of the row. -/
structure HeldTradeRecord where
  instrument : String
  applied : Bool
  holders : Holders
  openedAt : Int
  expiresAt : Int
  pipSize : Rat
  originalStops : List RememberedStop
  cancelledOrders : List CancelledOrder
  storedOrders : List StoredOrder
  deriving DecidableEq

/-- The record a first hold or park opens for a trade. -/
def HeldTradeRecord.fresh (instrument : String) (pipSize : Rat) (expiresAt now : Int) :
    HeldTradeRecord where
  instrument := instrument
  applied := false
  holders := ∅
  openedAt := now
  expiresAt := expiresAt
  pipSize := pipSize
  originalStops := []
  cancelledOrders := []
  storedOrders := []

open Foundation

/-- The geometry the order-control check judges a resting order against. -/
structure OrderControlSnapshot where
  originalStopLoss : Rat
  takeProfitPrice : Rat
  minR : Rat
  barSeconds : Option Int
  deriving DecidableEq

structure EntryAttempt where
  tradeId : String
  instrument : String
  attemptNo : Nat
  brokerOrderId : Nat
  brokerTradeId : Option Nat
  direction : Direction
  placedAt : Int
  shellTime : Int
  expiresAt : Int
  stopLossPrice : Option Rat
  adverseExtreme : Option Rat
  cancelAt : Option Int
  pipSize : Option Rat
  blackoutClose : BlackoutCloseAction := .cancelResting
  orderControl : Option OrderControlSnapshot
  superseded : Bool
  deriving DecidableEq

structure PauseEntry where
  blackoutId : String
  reason : Option String
  expiresAt : Int
  deriving DecidableEq

structure MwState where
  neckline : Rat
  rightShoulder : Option Rat
  updatedAt : Int
  expiresAt : Int
  deriving DecidableEq

/-- The tables the entry path and its passes share, for one account. -/
structure Store where
  pauses : String → List PauseEntry := fun _ => []
  cooldowns : String → Option (Expiring Int Unit) := fun _ => none
  preps : String × String → Option (Expiring Int Int) := fun _ => none
  vetos : String × String × String → Option (Expiring Int Unit) := fun _ => none
  seen : String → Option (Expiring Int Unit) := fun _ => none
  retryFires : String × Int → Option (Expiring Int Unit) := fun _ => none
  attempts : String → List EntryAttempt := fun _ => []
  held : String → Option (Expiring Int HeldTradeRecord) := fun _ => none
  mwStates : String → Option (Expiring Int MwState) := fun _ => none
  orderBodies : Nat → Option String := fun _ => none
  spreadBlackoutWindow : Option (Expiring Int Unit) := none

def Store.listPausesForTrade (store : Store) (now : Int) (tradeId : String) : List PauseEntry :=
  (store.pauses tradeId).filter (now < ·.expiresAt)

def Store.isCooledDown (store : Store) (now : Int) (instrument : String) : Bool :=
  (readAt now (store.cooldowns instrument)).isSome

def Store.getPrep (store : Store) (now : Int) (instrument step : String) : Option Int :=
  readAt now (store.preps (instrument, step))

def Store.isVetoed (store : Store) (now : Int) (tradeId instrument name : String) : Bool :=
  (readAt now (store.vetos (tradeId, instrument, name))).isSome

def Store.setVeto (store : Store) (now : Int) (tradeId instrument name : String) (ttl : Int) : Store :=
  let row := some ⟨(), controlExpiresAt now ttl⟩
  { store with vetos := Function.update store.vetos (tradeId, instrument, name) row }

def Store.isSeen (store : Store) (now : Int) (id : String) : Bool :=
  (readAt now (store.seen id)).isSome

/-- `mark_seen`: no floor on the time to live. -/
def Store.markSeen (store : Store) (now : Int) (id : String) (ttl : Int) : Store :=
  { store with seen := Function.update store.seen id (some ⟨(), now + seconds ttl⟩) }

def Store.isRetryFireSeen (store : Store) (now : Int) (tradeId : String) (shellTime : Int) : Bool :=
  (readAt now (store.retryFires (tradeId, shellTime))).isSome

def Store.markRetryFireSeen (store : Store) (now : Int) (tradeId : String) (shellTime ttl : Int) :
    Store :=
  let row := some ⟨(), controlExpiresAt now ttl⟩
  { store with retryFires := Function.update store.retryFires (tradeId, shellTime) row }

/-- Rows of one trade, in ascending attempt number. -/
def Store.listEntryAttempts (store : Store) (tradeId : String) : List EntryAttempt :=
  store.attempts tradeId

def Store.setAttempts (store : Store) (tradeId : String) (rows : List EntryAttempt) : Store :=
  { store with attempts := Function.update store.attempts tradeId rows }

@[simp] theorem Store.setAttempts_self (store : Store) (tradeId : String) (rows : List EntryAttempt) :
    (store.setAttempts tradeId rows).attempts tradeId = rows := Function.update_self ..

theorem Store.setAttempts_of_ne (store : Store) {tradeId other : String} (differs : other ≠ tradeId)
    (rows : List EntryAttempt) :
    (store.setAttempts tradeId rows).attempts other = store.attempts other :=
  Function.update_of_ne differs ..

/-- `record_entry_attempt`: insert in attempt order, or overwrite the row of that number. -/
def Store.recordEntryAttempt (store : Store) (attempt : EntryAttempt) : Store :=
  let rows := store.attempts attempt.tradeId
  store.setAttempts attempt.tradeId <|
    rows.filter (·.attemptNo < attempt.attemptNo) ++
      attempt :: rows.filter (attempt.attemptNo < ·.attemptNo)

def Store.updateAttempts (store : Store) (tradeId : String) (change : EntryAttempt → EntryAttempt) :
    Store :=
  store.setAttempts tradeId ((store.attempts tradeId).map change)

def Store.setEntryAttemptSuperseded (store : Store) (tradeId : String) (attemptNo : Nat) : Store :=
  store.updateAttempts tradeId fun row =>
    if row.attemptNo = attemptNo then { row with superseded := true } else row

def Store.setEntryAttemptBrokerTradeId (store : Store) (tradeId : String) (attemptNo brokerTradeId : Nat) :
    Store :=
  store.updateAttempts tradeId fun row =>
    if row.attemptNo = attemptNo then { row with brokerTradeId := some brokerTradeId } else row

/-- Re-point the row that names the old order at the new order and its stop. -/
def Store.setEntryAttemptReplacement (store : Store) (tradeId : String) (oldOrderId newOrderId : Nat)
    (newStopLoss : Option Rat) : Store :=
  store.updateAttempts tradeId fun row =>
    if row.brokerOrderId = oldOrderId then
      { row with brokerOrderId := newOrderId, stopLossPrice := newStopLoss }
    else row

def Store.setEntryAttemptAdverseExtreme (store : Store) (tradeId : String) (attemptNo : Nat)
    (adverseExtreme : Rat) : Store :=
  store.updateAttempts tradeId fun row =>
    if row.attemptNo = attemptNo then { row with adverseExtreme := some adverseExtreme } else row

def Store.deleteEntryAttempt (store : Store) (tradeId : String) (attemptNo : Nat) : Store :=
  store.setAttempts tradeId ((store.attempts tradeId).filter (·.attemptNo ≠ attemptNo))

def Store.getHeldTradeRecord (store : Store) (now : Int) (tradeId : String) : Option HeldTradeRecord :=
  readAt now (store.held tradeId)

def Store.upsertHeldTradeRecord (store : Store) (now : Int) (tradeId : String)
    (record : HeldTradeRecord) (ttl : Int) : Store :=
  let row := some ⟨record, controlExpiresAt now ttl⟩
  { store with held := Function.update store.held tradeId row }

def Store.clearHeldTradeRecord (store : Store) (tradeId : String) : Store :=
  { store with held := Function.update store.held tradeId none }

def Store.getMwState (store : Store) (now : Int) (tradeId : String) : Option MwState :=
  readAt now (store.mwStates tradeId)

def Store.upsertMwState (store : Store) (now : Int) (tradeId : String) (state : MwState) (ttl : Int) :
    Store :=
  let row := some ⟨state, controlExpiresAt now ttl⟩
  { store with mwStates := Function.update store.mwStates tradeId row }

def Store.clearMwState (store : Store) (tradeId : String) : Store :=
  { store with mwStates := Function.update store.mwStates tradeId none }

def Store.putOrderBody (store : Store) (orderId : Nat) (body : String) : Store :=
  { store with orderBodies := Function.update store.orderBodies orderId (some body) }

def Store.deleteOrderBody (store : Store) (orderId : Nat) : Store :=
  { store with orderBodies := Function.update store.orderBodies orderId none }

end TradeControl
