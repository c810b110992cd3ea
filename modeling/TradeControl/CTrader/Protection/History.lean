import Mathlib.Data.Finset.Insert
import Mathlib.Data.List.Sort
import TradeControl.AdaptiveRisk.Ledger
import TradeControl.AdaptiveRisk.SetupOutcomes
import TradeControl.CTrader.Wire
import TradeControl.Foundation.Collecting

namespace TradeControl.CTrader.Protection

open Foundation AdaptiveRisk

/-- `Decimal::from_str`. -/
def parseDecimal (text : String) : Option Rat :=
  let (sign, body) := readSign text.toList
  (readMantissa body).map fun (value, decimals) => sign * value / 10 ^ decimals

def number (v : Json) (key : String) : Except String Rat :=
  match v.get? key with
  | none => .error s!"missing broker field {key}"
  | some (.text text) => required (parseDecimal text) "Invalid decimal"
  | some (.whole value) => .ok value
  | some (.decimal value) => .ok value
  | some _ => .error s!"invalid decimal broker field {key}"

def money (v : Json) (key : String) : Except String Rat := do
  let digits ← integer v "moneyDigits"
  ensure (0 ≤ digits ∧ digits ≤ 12) "invalid money digits"
  let amount ← number v key
  return amount / 10 ^ digits.toNat

inductive FeeMode
  | perDeal
  | closeDetailIncludesOpening
  deriving DecidableEq

structure Costs where
  openingPerUnit : Rat
  closingPerUnit : Rat
  futureSwapPerUnit : Rat
  fixedPerOrder : Rat

structure PropAccount where
  accountId : Int
  /-- The path of the state directory is absolute. -/
  stateDirectoryIsAbsolute : Bool
  historyFrom : Int
  initialBalance : Rat
  rulebookVerified : Bool
  feesVerified : Bool
  feeMode : FeeMode
  commissionIsPositiveCost : Bool
  risk : RiskPolicy
  costs : List Costs

def PropAccount.validate (zones : Zones) (p : PropAccount) : Except String Unit := do
  p.risk.validate zones
  ensure (0 < p.accountId ∧ 0 < p.initialBalance ∧ p.rulebookVerified ∧ p.feesVerified)
    "verify purchased program rules and broker fee treatment before enabling prop risk"
  ensure (0 ≤ p.historyFrom / 1000000 ∧ p.stateDirectoryIsAbsolute) "invalid risk history start or state directory"
  ensure (∀ c ∈ p.costs, 0 ≤ c.openingPerUnit ∧ 0 ≤ c.closingPerUnit ∧ 0 ≤ c.futureSwapPerUnit ∧ 0 ≤ c.fixedPerOrder)
    "negative cost estimate"

def PropAccount.signedFee (p : PropAccount) (fee : Rat) : Rat :=
  if p.commissionIsPositiveCost then -fee else fee

def dealId (deal : Json) : Option Int := (integer deal "dealId").toOption

def orderId (order : Json) : Option Int := (integer order "orderId").toOption

def clientOrderId (order : Json) : Option String := (order.field "clientOrderId").asStr

/-- The setup that an order's label names. -/
def riskSetup (order : Json) : Option String :=
  ((order.field "tradeData").field "label").asStr.bind fun label =>
    ("risk:".toList.isPrefixOf? label.toList).map String.ofList

/-- An order that names its request and its setup; a later one counts. -/
def addSetup (setups : String → Option String) (order : Json) : String → Option String :=
  match clientOrderId order, riskSetup order with
  | some request, some setup => Function.update setups request (some setup)
  | _, _ => setups

def requestSetups (orders : List Json) : String → Option String := orders.foldl addSetup fun _ => none

def isFilled (deal : Json) : Prop :=
  isEnum deal "dealStatus" 2 "FILLED" ∨ isEnum deal "dealStatus" 3 "PARTIALLY_FILLED"

instance (deal : Json) : Decidable (isFilled deal) := inferInstanceAs (Decidable (_ ∨ _))

def closeDetail (deal : Json) : Option Json := deal.get? "closePositionDetail"

/-- The position of an opening deal and the request of its order. -/
def openingRequest (orders : List Json) (setups : String → Option String) (deal : Json) : Except String (Int × String) := do
  let id ← integer deal "orderId"
  let order ← required (orders.find? fun order => orderId order = some id) "opening order attribution missing"
  let request ← required (clientOrderId order) "unattributed account execution; reconciliation required"
  ensure ((setups request).any (· ≠ "")) "unprotected/manual account execution; reconciliation required"
  let pos ← integer deal "positionId"
  return (pos, request)

def identifyDeal (deal : Json) : Except String Int := do
  let id ← integer deal "dealId"
  ensure (0 < id) "invalid deal identity/filled volume"
  let volume ← integer deal "filledVolume"
  ensure (0 < volume) "invalid deal identity/filled volume"
  return id

section
variable (p : PropAccount)

/-- The volume and the net amount of a closing deal. -/
def closingAmounts (deal detail : Json) : Except String (Rat × Rat) := do
  let closed ← number detail "closedVolume"
  let volume ← number deal "filledVolume"
  ensure (closed = volume) "closing volume does not match executed volume"
  let fee ← match p.feeMode with
    | .closeDetailIncludesOpening => money detail "commission"
    | .perDeal => money deal "commission"
  let conversionFee ←
    if (detail.get? "pnlConversionFee").isSome then (money detail "pnlConversionFee").map abs else .ok 0
  let gross ← money detail "grossProfit"
  let swap ← money detail "swap"
  return (-closed, gross + swap + p.signedFee fee - conversionFee)

def openingAmounts (deal : Json) : Except String (Rat × Rat) := do
  let volume ← number deal "filledVolume"
  let pnl ← match p.feeMode with
    | .perDeal => (money deal "commission").map p.signedFee
    | .closeDetailIncludesOpening => .ok 0
  return (volume, pnl)

def dealAmounts (deal : Json) : Except String (Rat × Rat) :=
  match closeDetail deal with
  | some detail => closingAmounts p deal detail
  | none => openingAmounts p deal

def readExecution (setups : String → Option String) (requests : Int → Option String) (id : Int) (deal : Json) :
    Except String Execution := do
  let pos ← integer deal "positionId"
  let request ← required (requests pos) "closing deal has no reconstructable opening"
  let setupId ← required (setups request) "opening order setup identity missing"
  let (volume, netPnl) ← dealAmounts p deal
  ensure (volume ≠ 0) "zero filled deal"
  ensure ((closeDetail deal).isSome ∨ netPnl ≤ 0) "opening rebates require verified balance-policy support"
  let millis ← integer deal "executionTimestamp"
  return {
    eventId := toString id
    setupId
    positionId := toString pos
    occurredAt := millis * 1000000
    volumeDelta := volume / 100
    netPnl }

/-- The order of the balance path: by time, and by number where the times are equal. -/
def InBrokerOrder (a b : Execution) : Prop :=
  a.occurredAt < b.occurredAt ∨ a.occurredAt = b.occurredAt ∧
    (a.eventId.length < b.eventId.length ∨ a.eventId.length = b.eventId.length ∧ a.eventId ≤ b.eventId)

instance (a b : Execution) : Decidable (InBrokerOrder a b) := inferInstanceAs (Decidable (_ ∨ _))

/-- The balance as the events lead through it. -/
structure BalancePath where
  balance : Rat
  high : Rat
  boundaryBalance : Rat
  historicalDay : TradingDay
  dailyReference : Rat
  accountBreached : Bool := false
  dailyBreached : Finset Int := ∅

def PropAccount.accountFloor (high : Rat) : Rat :=
  let drawdownReference := match p.risk.drawdownReference with
    | .staticInitialBalance => p.initialBalance
    | _ => high
  let allowance := if p.risk.trailingAllowanceTracksReference then drawdownReference else p.initialBalance
  drawdownReference - allowance * p.risk.internalAccountStopPct / 100

def PropAccount.dailyFloor (dailyReference : Rat) : Rat :=
  dailyReference - dailyReference * p.risk.internalDailyStopPct / 100

/-- The balance that the broker states with a closing deal, which has to be the path's. -/
def checkpoint (deals : List Json) (id : Int) (balance : Rat) : Except String Rat :=
  match (deals.find? fun deal => dealId deal = some id).bind closeDetail with
  | some detail => do
    let actual ← money detail "balance"
    ensure (actual = balance) "execution ordering/net fees disagree with broker balance checkpoint"
    return actual
  | none => .ok balance

def takeEvent (zones : Zones) (deals : List Json) (boundary : Int) (path : BalancePath) (event : Execution) :
    Except String BalancePath := do
  let eventDay ← p.risk.calendar.dayAt zones event.occurredAt
  let dailyReference := if eventDay ≠ path.historicalDay then path.balance else path.dailyReference
  let balance := path.balance + event.netPnl
  let high := max path.high balance
  let id ← required (parseI64 event.eventId) "invalid digit found in string"
  let actual ← checkpoint deals id balance
  return {
    balance
    high := max high actual
    boundaryBalance := if event.occurredAt < boundary then balance else path.boundaryBalance
    historicalDay := eventDay
    dailyReference
    accountBreached := path.accountBreached || balance ≤ p.accountFloor high
    dailyBreached :=
      if balance ≤ p.dailyFloor dailyReference then insert eventDay.start path.dailyBreached else path.dailyBreached }

structure Ledger where
  events : List Execution
  positionRequests : Int → Option String
  orders : List Json
  requestSetups : String → Option String
  accountBreached : Bool
  dailyBreached : Finset Int
  high : Rat
  boundaryBalance : Rat

/-- The deals' requests and executions, in the broker's order. -/
def readDeals (deals orders : List Json) : Except String ((Int → Option String) × List Execution) := do
  let setups := requestSetups orders
  let filled := deals.filter isFilled
  let requests ← (filled.filter fun deal => (closeDetail deal).isNone).foldlM
    (assignOnce (openingRequest orders setups) "multiple setups share netted position") fun _ => none
  let (_, events) ← filled.foldlM
    (collectOnce identifyDeal (readExecution p setups requests) "duplicate broker deal") (∅, [])
  return (requests, events.insertionSort InBrokerOrder)

def normalize (zones : Zones) (deals orders : List Json) (boundary : Int) : Except String Ledger := do
  let (positionRequests, events) ← readDeals p deals orders
  let historicalDay ← p.risk.calendar.dayAt zones p.historyFrom
  let path ← events.foldlM (takeEvent p zones deals boundary) {
    balance := p.initialBalance
    high := p.initialBalance
    boundaryBalance := p.initialBalance
    historicalDay
    dailyReference := p.initialBalance }
  return {
    events
    positionRequests
    orders
    requestSetups := requestSetups orders
    accountBreached := path.accountBreached
    dailyBreached := path.dailyBreached
    high := path.high
    boundaryBalance := path.boundaryBalance }

end

/-- The open volume of each position of the history. -/
def historyQuantities (events : List Execution) : KeyedMap String Rat :=
  events.foldl (fun quantities event => KeyedMap.add quantities event.positionId event.volumeDelta) ∅

def readPosition (position : Json) : Except String (String × Rat) := do
  let id ← integer position "positionId"
  let volume ← number (position.field "tradeData") "volume"
  return (toString id, volume / 100)

/-- The open volume of each position as the broker has it. -/
def brokerQuantities (snapshot : Json) : Except String (KeyedMap String Rat) := do
  let rows ← (array snapshot "position").mapM readPosition
  return rows.foldl (fun broker row => broker.insert row.1 row.2) ∅

def verify (events : List Execution) (snapshot : Json) : Except String Unit := do
  let quantities := historyQuantities events
  let broker ← brokerQuantities snapshot
  ensure ((∀ entry ∈ quantities.entries, 0 ≤ entry.2 ∧ entry.2 = (broker.lookup entry.1).getD 0) ∧
    ∀ entry ∈ broker.entries, entry.1 ∈ quantities) "execution inventory disagrees with broker positions"

theorem historyQuantities_lookup (events : List Execution) (positionId : String) :
    (historyQuantities events).lookup positionId =
      if ∃ event ∈ events, event.positionId = positionId then some (volumeOf events positionId) else none := by
  unfold historyQuantities volumeOf
  rw [KeyedMap.lookup_foldl_add, AList.lookup_empty, Option.getD_none, zero_add]

/-- The history and the broker agree: no position was closed by more than it was opened, what is left
of each is what the broker has of it, and the broker has no others. -/
def InventoryAgrees (events : List Execution) (broker : KeyedMap String Rat) : Prop :=
  (∀ event ∈ events, 0 ≤ volumeOf events event.positionId ∧
    volumeOf events event.positionId = (broker.lookup event.positionId).getD 0) ∧
  ∀ positionId ∈ broker, ∃ event ∈ events, event.positionId = positionId

theorem verify_ok_iff {events : List Execution} {snapshot : Json} :
    verify events snapshot = .ok () ↔
      ∃ broker, brokerQuantities snapshot = .ok broker ∧ InventoryAgrees events broker := by
  unfold verify
  rw [bind_ok]
  refine exists_congr fun broker => and_congr_right fun _ => ?_
  rw [ensure_ok]
  unfold InventoryAgrees
  refine and_congr ⟨fun each event listed => ?_, ?_⟩ ⟨?_, ?_⟩
  · have held := historyQuantities_lookup events event.positionId
    rw [if_pos ⟨event, listed, rfl⟩] at held
    exact each ⟨event.positionId, _⟩ (AList.mem_lookup_iff.mp held)
  · rintro each ⟨positionId, volume⟩ listed
    have held := historyQuantities_lookup events positionId
    rw [AList.mem_lookup_iff.mpr listed] at held
    split at held
    next named =>
      obtain ⟨event, member, rfl⟩ := named
      cases held
      exact each event member
    next => cases held
  · intro known positionId listed
    obtain ⟨volume, held⟩ := KeyedMap.mem_iff.mp listed
    obtain ⟨volume', held'⟩ := KeyedMap.mem_iff.mp (known ⟨positionId, volume⟩ (AList.mem_lookup_iff.mp held))
    rw [historyQuantities_lookup] at held'
    split at held'
    next named => exact named
    next => cases held'
  · rintro known ⟨positionId, volume⟩ listed
    have there : positionId ∈ broker := KeyedMap.mem_iff.mpr ⟨volume, AList.mem_lookup_iff.mpr listed⟩
    refine KeyedMap.mem_iff.mpr ⟨volumeOf events positionId, ?_⟩
    rw [historyQuantities_lookup, if_pos (known positionId there)]
    rfl

end TradeControl.CTrader.Protection
