import TradeControl.CTrader.SizedEntries
import TradeControl.Foundation.Checked
import TradeControl.Foundation.StepGrid
import TradeControl.Recovery

namespace TradeControl

def PendingEntryDistance.signedDistance (distance : PendingEntryDistance) : Rat :=
  let executable := distance.quote.executable distance.direction
  match distance.kind, distance.direction with
  | .stop, .long | .limit, .short => distance.triggerPrice - executable
  | .stop, .short | .limit, .long => executable - distance.triggerPrice

def PendingEntryDistance.isRejected (distance : PendingEntryDistance) : Bool :=
  distance.isValid && (distance.signedDistance ≤ 0 ||
    distance.signedDistance + distance.tolerance < distance.minimumDistance)

namespace Adapters

open Foundation CTrader

/-! How each broker's adapter turns an entry's risk budget into the size it sends. -/

/-- An entry's request as the adapters take it. -/
structure RiskedRequest extends SizedRequest where
  contractMultiplier : Option Rat

/-- The ceiling that a percent budget can be held to before the account is read. -/
def checkPercentCap (risk : RiskBudget) (maxRiskPct : Rat) : Except EntryError Unit :=
  match risk with
  | .percent pct => demand (pct ≤ maxRiskPct) .riskCapExceeded
  | .amount _ | .units _ => .ok ()

namespace Oanda

/-- An instrument of the account. The two sizes are texts: here what they parse to. -/
structure InstrumentDetails where
  name : String
  displayPrecision : Int
  tradeUnitsPrecision : Int
  minimumTradeSize : Option Rat
  maximumOrderUnits : Option Rat

/-- The order rules of one instrument. -/
structure Spec where
  pricePlaces : Nat
  unitPlaces : Nat
  minimum : Rat
  maximum : Rat
  minimum_pos : 0 < minimum
  minimum_le : minimum ≤ maximum
  deriving DecidableEq

def Spec.fromDetails (details : InstrumentDetails) : Except EntryError Spec := do
  let minimum ← needed details.minimumTradeSize .orderRejected
  let maximum ← needed details.maximumOrderUnits .orderRejected
  if valid : (0 ≤ details.displayPrecision ∧ details.displayPrecision ≤ 8) ∧
      (0 ≤ details.tradeUnitsPrecision ∧ details.tradeUnitsPrecision ≤ 8) ∧ 0 < minimum ∧ minimum ≤ maximum then
    .ok { pricePlaces := details.displayPrecision.toNat, unitPlaces := details.tradeUnitsPrecision.toNat,
          minimum, maximum, minimum_pos := valid.2.2.1, minimum_le := valid.2.2.2 }
  else .error .orderRejected

/-- The nearest whole number, of two the even one. -/
def halfEven (value : Rat) : Int :=
  if Int.fract value < 1 / 2 ∨ Int.fract value = 1 / 2 ∧ ⌊value⌋ % 2 = 0 then ⌊value⌋ else ⌊value⌋ + 1

/-- The price that the text `{value:.places$}` stands for. -/
def Spec.price (spec : Spec) (value : Rat) : Rat :=
  halfEven (value * 10 ^ spec.pricePlaces) / 10 ^ spec.pricePlaces

def Spec.units (spec : Spec) (raw : Rat) : Except EntryError Rat :=
  let units : Rat := ⌊raw * 10 ^ spec.unitPlaces⌋ / 10 ^ spec.unitPlaces
  if units < spec.minimum then .error .unitsBelowMinimum
  else if spec.maximum < units then .error (.orderRejectedWithDetail "Size exceeds OANDA maximumOrderUnits")
  else .ok units

def signedUnits (units : Rat) (direction : Direction) : Rat :=
  match direction with
  | .long => units
  | .short => -units

def rawUnitsForBudget (budget entry stopLoss fxQuoteToAccount : Rat) : Rat :=
  let stopDistance := |entry - stopLoss|
  if stopDistance ≤ 0 ∨ budget ≤ 0 then 0
  else if fxQuoteToAccount ≤ 0 then 0
  else
    let units := budget / (stopDistance * fxQuoteToAccount)
    if units ≤ 0 then 0 else units

inductive OrderType
  | market
  | stop (price : Rat)
  | limit (price : Rat)

structure Order where
  instrument : String
  type : OrderType
  units : Rat
  stopLoss : Rat
  takeProfit : Rat

def build (req : RiskedRequest) (spec : Spec) (units : Rat) : Order where
  instrument := req.instrument
  type := match req.entry with
    | .market _ => .market
    | .stop triggerPrice => .stop (spec.price triggerPrice)
    | .limit triggerPrice => .limit (spec.price triggerPrice)
  units := signedUnits units req.direction
  stopLoss := spec.price req.stopLoss
  takeProfit := spec.price req.takeProfit

structure Account where
  openPositionCount : Nat
  nav : Option Rat
  currency : String

/-- The account's answers. -/
structure Client where
  getAccount : Option Account
  getInstrumentDetails : Option (List InstrumentDetails)
  resolveQuoteToAccountRate : String → String → Option Rat
  placeOrder : Order → Except EntryError String

def quoteCurrency (instrument : String) : String :=
  ((instrument.splitOn "_")[1]?).getD instrument

/-- What an order is sized from. -/
structure Sizing where
  spec : Spec
  equity : Rat
  referencePrice : Rat
  stopLoss : Rat
  fxRate : Rat
  deriving DecidableEq

section
variable (client : Client) (maxRiskPct : Rat) (maxOpenPositions : Nat) (req : RiskedRequest)

/-- The reads of `place_entry`. -/
def readSizing : Except EntryError Sizing := do
  checkPercentCap req.risk maxRiskPct
  let account ← needed client.getAccount .accountFetch
  demand (account.openPositionCount < maxOpenPositions) .openPositionsCapExceeded
  let equity ← needed account.nav .equityParse
  let details ← needed client.getInstrumentDetails .accountFetch
  let details ← needed (details.find? fun row => row.name = req.instrument) .orderRejected
  let spec ← Spec.fromDetails details
  let stopLoss := spec.price req.stopLoss
  let referencePrice := match req.entry with
    | .market referencePrice => referencePrice
    | .stop triggerPrice | .limit triggerPrice => spec.price triggerPrice
  demand (0 < |referencePrice - stopLoss|) .orderRejected
  let fxRate ← needed (client.resolveQuoteToAccountRate (quoteCurrency req.instrument) account.currency)
    .orderRejected
  return { spec, equity, referencePrice, stopLoss, fxRate }

def rawUnits (sizing : Sizing) : Except EntryError Rat :=
  let stopDistance := |sizing.referencePrice - sizing.stopLoss|
  let forBudget (budget : Rat) := rawUnitsForBudget budget sizing.referencePrice sizing.stopLoss sizing.fxRate
  match req.risk with
  | .percent pct => .ok (forBudget (sizing.equity * pct / 100))
  | .amount amount =>
    if sizing.equity ≤ 0 then .error .equityParse
    else if maxRiskPct < amount / sizing.equity * 100 then .error .riskCapExceeded
    else .ok (forBudget amount)
  | .units literal =>
    if sizing.equity ≤ 0 then .error .equityParse
    else if maxRiskPct < literal * stopDistance * sizing.fxRate / sizing.equity * 100 then .error .riskCapExceeded
    else .ok literal

/-- `place_entry` as far as the size it asks for. -/
def sizeEntry : Except EntryError (Sizing × Rat) := do
  let sizing ← readSizing client maxRiskPct maxOpenPositions req
  let raw ← rawUnits maxRiskPct req sizing
  let units ← sizing.spec.units raw
  return (sizing, units)

def placeEntry : Except EntryError CTrader.Placement := do
  let (sizing, units) ← sizeEntry client maxRiskPct maxOpenPositions req
  if req.dryRun then
    return { orderId := "dry-run-" ++ req.instrument, size := some units, price := some sizing.referencePrice }
  else
    let orderId ← client.placeOrder (build req sizing.spec units)
    return { orderId, size := some units, price := some sizing.referencePrice }

end

end Oanda

namespace Mt5

structure Rules where
  minVolumeRaw : Nat
  maxVolumeRaw : Nat
  volumeStepRaw : Nat
  stopsPoints : Int
  deriving DecidableEq

structure SymbolInfo where
  calcMode : Nat
  contractSize : Rat
  tickSize : Rat
  point : Rat
  profitCurrency : String
  rules : Rules
  deriving DecidableEq

/-- The unit that lots are counted in, and the counts that make a `Lots`. -/
structure LotUnit where
  scale : Nat
  scale_pos : 0 < scale
  fromRaw : Nat → Bool

def validateCalcMode (calcMode : Nat) : Except EntryError Unit :=
  demand (calcMode = 0 ∨ (2 ≤ calcMode ∧ calcMode ≤ 5) ∨ calcMode = 32 ∨ calcMode = 38) .contractSizeUnavailable

def lossPerLot (calcMode : Nat) (contractSize entry stop currencyRate : Rat) : Except EntryError Rat := do
  validateCalcMode calcMode
  demand (0 < contractSize ∧ 0 < entry ∧ 0 < stop ∧ 0 < currencyRate) .orderRejected
  let loss := |entry - stop| * contractSize * currencyRate
  demand (0 < loss) .orderRejected
  return loss

def quantity (risk : RiskBudget) (budget lossPerLot : Rat) : Rat :=
  match risk with
  | .units literal => literal
  | .percent _ | .amount _ => budget / lossPerLot

/-- The count of lot units that the budget buys. -/
def lots (unit : LotUnit) (risk : RiskBudget) (equity lossPerLot cap : Rat) (rules : Rules) :
    Except EntryError Nat :=
  if equity ≤ 0 then .error .equityParse
  else if lossPerLot ≤ 0 ∨ cap ≤ 0 then .error .orderRejected
  else
    let budget := budgetCash risk lossPerLot equity
    if budget ≤ 0 then .error .orderRejected
    else if cap + 1 / 10 ^ 10 < budget / equity * 100 then .error .riskCapExceeded
    else if rules.volumeStepRaw = 0 ∨ rules.minVolumeRaw = 0 ∨ rules.maxVolumeRaw < rules.minVolumeRaw then
      .error .orderRejected
    else
      let raw : Int := min ⌊quantity risk budget lossPerLot * unit.scale⌋ rules.maxVolumeRaw
      if raw < rules.minVolumeRaw ∨ 2 ^ 64 - 1 ≤ raw then .error .unitsBelowMinimum
      else
        let raw := raw.toNat / rules.volumeStepRaw * rules.volumeStepRaw
        if raw < rules.minVolumeRaw then .error .unitsBelowMinimum
        else if unit.fromRaw raw then .ok raw else .error .unitsBelowMinimum

inductive OrderKind
  | market
  | stop
  | limit
  deriving DecidableEq

/-- To the tick grid. No price stands on a grid without a tick. -/
def align (price : Rat) (symbol : SymbolInfo) : Except EntryError Rat :=
  if price ≤ 0 then .error .orderRejected
  else
    let tick := if 0 < symbol.tickSize then symbol.tickSize else symbol.point
    if tick = 0 then .error .orderRejected else .ok (roundHalfAwayInt (price / tick) * tick)

/-- A pending trigger as the broker would check it against the quote. -/
def pendingPrice (req : RiskedRequest) (symbol : SymbolInfo) (quote : Quote) (kind : PendingEntryKind)
    (triggerPrice : Rat) : Except EntryError Rat := do
  let price ← align triggerPrice symbol
  let snapshot : PendingEntryDistance :=
    { kind, direction := req.direction, triggerPrice := price, quote,
      minimumDistance := max symbol.rules.stopsPoints 0 * symbol.point }
  demand (snapshot.isValid = true) .orderRejected
  if snapshot.isRejected then
    .error (if snapshot.isNear then .entryWithinMinimumDistance snapshot else .entryTooCloseToMarket)
  else .ok price

def entryPrice (req : RiskedRequest) (symbol : SymbolInfo) (quote : Quote) : Except EntryError (OrderKind × Rat) :=
  match req.entry with
  | .market _ => .ok (.market, quote.executable req.direction)
  | .stop triggerPrice => (pendingPrice req symbol quote .stop triggerPrice).map (.stop, ·)
  | .limit triggerPrice => (pendingPrice req symbol quote .limit triggerPrice).map (.limit, ·)

def validateStops (side : Direction) (entry stopLoss takeProfit : Rat) : Except EntryError Unit :=
  match side with
  | .long => demand (stopLoss < entry ∧ entry < takeProfit) .orderRejected
  | .short => demand (entry < stopLoss ∧ takeProfit < entry) .orderRejected

structure Account where
  balance : Rat
  credit : Rat
  currency : String

structure Position where
  symbol : String
  profit : Rat
  swap : Rat
  commission : Rat

/-- The account's open trades; of a pending order its symbol. -/
structure Trades where
  positions : List Position
  orders : List String

structure Order where
  symbol : String
  side : Direction
  kind : OrderKind
  lots : Nat
  price : Option Rat
  stopLoss : Rat
  takeProfit : Rat
  deriving DecidableEq

inductive OutcomeState
  | placed
  | filled
  | completed
  | unchanged
  | rejected
  | unknown
  deriving DecidableEq

structure TradeResult where
  order : Nat
  volumeRaw : Nat

/-- What became of a submitted order; `detail` tells of one rejected or uncertain. -/
structure TradeOutcome where
  state : OutcomeState
  result : Option TradeResult
  detail : String

/-- The terminal's answers to one `place`; `freshQuote` is the later of its two quotes. -/
structure Trader where
  riskSnapshot : Option (Account × Trades)
  symbol : Option SymbolInfo
  quote : Option Quote
  rate : String → String → Except EntryError Rat
  freshQuote : Option Quote
  preview : Order → Except String Unit
  openOrder : Order → Except String TradeOutcome

def placement (unit : LotUnit) (outcome : TradeOutcome) (requested : Nat) (price : Rat) :
    Except EntryError CTrader.Placement := do
  demand (outcome.state ≠ .unknown) (.ambiguousSuccess outcome.detail)
  demand (outcome.state ≠ .rejected) (.orderRejectedWithDetail outcome.detail)
  let result ← needed outcome.result (.ambiguousSuccess "MT5 accepted entry without order identity")
  demand (result.order ≠ 0) (.ambiguousSuccess "MT5 accepted entry without order ticket")
  let raw := if outcome.state = .placed then requested else result.volumeRaw
  return { orderId := toString result.order, size := some (raw / unit.scale), price := some price }

/-- What an order is sized from: its prices as they are sent. -/
structure Sizing where
  symbol : SymbolInfo
  kind : OrderKind
  price : Rat
  stop : Rat
  take : Rat
  equity : Rat
  rate : Rat
  deriving DecidableEq

section
variable (unit : LotUnit) (trader : Trader) (cap : Rat) (maxPositions : Nat) (req : RiskedRequest)
  (marketBand : Option MarketEntryBand)

/-- The reads of `place`. A market rescue has its own fresh quote, held to the band. -/
def readSizing : Except EntryError Sizing := do
  let (account, trades) ← needed trader.riskSnapshot .accountFetch
  demand (trades.positions.length + trades.orders.length < maxPositions) .openPositionsCapExceeded
  demand (¬ (trades.positions.any (·.symbol = req.instrument) = true ∨
    trades.orders.contains req.instrument = true)) .openPositionsCapExceeded
  let symbol ← needed trader.symbol .orderRejected
  validateCalcMode symbol.calcMode
  let quote ← needed trader.quote .accountFetch
  let (kind, price) ← entryPrice req symbol quote
  let stop ← align req.stopLoss symbol
  let take ← align req.takeProfit symbol
  validateStops req.direction price stop take
  let equity := account.balance + account.credit +
    (trades.positions.map fun position => position.profit + position.swap + position.commission).sum
  let rate ← trader.rate symbol.profitCurrency account.currency
  let price ← match marketBand with
    | none => .ok price
    | some band => do
      let fresh ← needed trader.freshQuote .accountFetch
      let (_, price) ← entryPrice req symbol fresh
      band.check { req.toEntryRequest with stopLoss := stop, takeProfit := take } price
      .ok price
  return { symbol, kind, price, stop, take, equity, rate }

/-- `place` as far as the order it sends. -/
def sizeEntry : Except EntryError (Sizing × Order) := do
  let sizing ← readSizing trader maxPositions req marketBand
  let loss ← lossPerLot sizing.symbol.calcMode sizing.symbol.contractSize sizing.price sizing.stop sizing.rate
  let lots ← lots unit req.risk sizing.equity loss cap sizing.symbol.rules
  return (sizing,
    { symbol := req.instrument, side := req.direction, kind := sizing.kind, lots,
      price := if sizing.kind = .market then none else some sizing.price,
      stopLoss := sizing.stop, takeProfit := sizing.take })

def place : Except EntryError CTrader.Placement := do
  let (sizing, order) ← sizeEntry unit trader cap maxPositions req marketBand
  (trader.preview order).mapError fun error =>
    .orderRejectedWithDetail ("MT5 entry validation before submission: " ++ error)
  if req.dryRun then
    return { orderId := "dry-run", size := some (order.lots / unit.scale), price := some sizing.price }
  else
    let outcome ← (trader.openOrder order).mapError fun error =>
      .orderRejectedWithDetail ("MT5 entry rejected before transmission: " ++ error)
    placement unit outcome order.lots sizing.price

end

end Mt5

namespace Ibkr

/-- The exchange's order sizes for one contract. -/
structure SizeLimits where
  minSize : Rat
  sizeIncrement : Rat
  deriving DecidableEq

structure AccountSnapshot where
  equity : Rat
  openPositionCount : Nat
  fxQuoteToAccount : Rat
  limits : SizeLimits
  deriving DecidableEq

def mostContracts : Nat := 2 ^ 32 - 1

def usableMultiplier (multiplier : Option Rat) : Except EntryError Rat :=
  needed (multiplier.filter (0 < ·)) .contractSizeUnavailable

def contractsForBudget (budget stopDistance multiplier fxQuoteToAccount : Rat) : Nat :=
  if budget ≤ 0 ∨ stopDistance ≤ 0 ∨ multiplier ≤ 0 ∨ fxQuoteToAccount ≤ 0 then 0
  else (min ⌊budget / (stopDistance * multiplier * fxQuoteToAccount)⌋ mostContracts).toNat

def sizeEntry (risk : RiskBudget) (equity maxRiskPct stopDistance multiplier fxRate : Rat) :
    Except EntryError Nat :=
  if equity ≤ 0 then .error .equityParse
  else match risk with
  | .percent pct => .ok (contractsForBudget (equity * pct / 100) stopDistance multiplier fxRate)
  | .amount amount =>
    if maxRiskPct < amount / equity * 100 then .error .riskCapExceeded
    else .ok (contractsForBudget amount stopDistance multiplier fxRate)
  | .units literal =>
    if maxRiskPct < literal * stopDistance * multiplier * fxRate / equity * 100 then .error .riskCapExceeded
    else .ok (if literal ≤ 0 then 0 else (min ⌊literal⌋ mostContracts).toNat)

/-- A limit that the exchange does not tell, or not usably, is one contract. -/
def SizeLimits.increment (limits : SizeLimits) : Rat :=
  if 0 < limits.sizeIncrement then limits.sizeIncrement else 1

def SizeLimits.minimum (limits : SizeLimits) : Rat :=
  if 0 < limits.minSize then limits.minSize else 1

def fitToSizeGrid (contracts : Nat) (limits : SizeLimits) : Option Nat :=
  if contracts = 0 then none
  else
    let fitted := ⌊contracts / limits.increment⌋ * limits.increment
    if fitted < limits.minimum ∨ fitted ≤ 0 then none
    else some (min ⌊fitted⌋ mostContracts).toNat

/-- What an order is sized from. -/
structure Sizing where
  account : AccountSnapshot
  multiplier : Rat
  referencePrice : Rat
  stopDistance : Rat
  deriving DecidableEq

section
variable (snapshot : Except EntryError AccountSnapshot) (maxRiskPct : Rat) (maxOpenPositions : Nat)
  (req : RiskedRequest)

def readSizing : Except EntryError Sizing := do
  let multiplier ← usableMultiplier req.contractMultiplier
  checkPercentCap req.risk maxRiskPct
  let account ← snapshot
  demand (account.openPositionCount < maxOpenPositions) .openPositionsCapExceeded
  let referencePrice := req.entry.referencePrice
  let stopDistance := |referencePrice - req.stopLoss|
  demand (0 < stopDistance) .orderRejected
  return { account, multiplier, referencePrice, stopDistance }

/-- `place_entry_with` as far as the contracts. -/
def sizedContracts : Except EntryError (Sizing × Nat) := do
  let sizing ← readSizing snapshot maxRiskPct maxOpenPositions req
  let raw ← sizeEntry req.risk sizing.account.equity maxRiskPct sizing.stopDistance sizing.multiplier
    sizing.account.fxQuoteToAccount
  let contracts := (fitToSizeGrid raw sizing.account.limits).getD 0
  demand (contracts ≠ 0) .unitsBelowMinimum
  return (sizing, contracts)

/-- Sends no order yet: only a dry run comes to a placement. -/
def placeEntryWith : Except EntryError CTrader.Placement := do
  let (sizing, contracts) ← sizedContracts snapshot maxRiskPct maxOpenPositions req
  demand (req.dryRun = true) .orderRejected
  return { orderId := "dry-run-" ++ req.instrument, size := some contracts, price := some sizing.referencePrice }

end

end Ibkr

/-! ### Sizes against the authorised risk -/

/-- A size that loses no more than the budget asks for and the cap allows. -/
structure WithinRisk (risk : RiskBudget) (equity capPct loss size : Rat) : Prop where
  withinBudget : size * loss ≤ budgetCash risk loss equity
  withinCap : size * loss ≤ equity * capPct / 100
  withinUnits : ∀ literal, risk = .units literal → size ≤ literal

/-- And is the largest of the sizes that do. -/
structure FitsRisk (sizes : Set Rat) (risk : RiskBudget) (equity capPct loss size : Rat) : Prop
    extends WithinRisk risk equity capPct loss size where
  largest : IsGreatest {other ∈ sizes | other * loss ≤ budgetCash risk loss equity} size

theorem WithinRisk.of_budget {risk : RiskBudget} {equity capPct loss size : Rat} (costs : 0 < loss)
    (budget : size * loss ≤ budgetCash risk loss equity)
    (capped : budgetCash risk loss equity ≤ equity * capPct / 100) :
    WithinRisk risk equity capPct loss size where
  withinBudget := budget
  withinCap := budget.trans capped
  withinUnits literal same := by
    subst same
    exact le_of_mul_le_mul_right budget costs

/-- A percent of the equity that the cap allows is cash that it allows. -/
theorem capped_of_pct {budget equity capPct : Rat} (positive : 0 < equity) (within : budget / equity * 100 ≤ capPct) :
    budget ≤ equity * capPct / 100 := by
  have share := mul_le_mul_of_nonneg_left within positive.le
  have whole : equity * (budget / equity * 100) = budget * 100 := by
    field_simp
  rw [whole] at share
  exact (le_div_iff₀ (by norm_num)).mpr share

theorem checkPercentCap_ok {risk : RiskBudget} {maxRiskPct : Rat} {done : Unit} :
    checkPercentCap risk maxRiskPct = .ok done ↔ ∀ pct, risk = .percent pct → pct ≤ maxRiskPct := by
  cases risk with
  | percent pct =>
    unfold checkPercentCap
    rw [demand_ok]
    constructor
    · rintro within _ ⟨⟩
      exact within
    · exact fun all => all pct rfl
  | amount amount => exact ⟨fun _ _ same => (by cases same), fun _ => rfl⟩
  | units literal => exact ⟨fun _ _ same => (by cases same), fun _ => rfl⟩

theorem error_of_not_ok {Value : Type} {answer : Except EntryError Value} (never : ∀ value, answer ≠ .ok value) :
    ∃ error, answer = .error error := by
  cases answer with
  | error error => exact ⟨error, rfl⟩
  | ok value => exact absurd rfl (never value)

/-- A percent budget checked up front, or any other checked against the equity, is within the cap. -/
theorem capped_percent {pct equity maxRiskPct : Rat} (positive : 0 < equity) (within : pct ≤ maxRiskPct) :
    equity * pct / 100 ≤ equity * maxRiskPct / 100 :=
  div_le_div_of_nonneg_right (mul_le_mul_of_nonneg_left within positive.le) (by norm_num)

namespace Oanda

variable {client : Client} {maxRiskPct raw units : Rat} {maxOpenPositions : Nat} {req : RiskedRequest}
  {spec : Spec} {sizing : Sizing}

def Spec.step (spec : Spec) : Rat := 1 / 10 ^ spec.unitPlaces

theorem Spec.step_pos (spec : Spec) : 0 < spec.step := by
  unfold Spec.step
  positivity

/-- The units that the instrument takes. -/
def Spec.sizes (spec : Spec) : Set Rat := stepsBetween spec.minimum spec.maximum spec.step

/-- What one unit loses at the stop, in the account's currency. -/
def Sizing.loss (sizing : Sizing) : Rat := |sizing.referencePrice - sizing.stopLoss| * sizing.fxRate

theorem units_ok (ok : spec.units raw = .ok units) :
    units = wholeSteps raw spec.step ∧ spec.minimum ≤ units ∧ units ≤ spec.maximum := by
  have floored : (⌊raw * 10 ^ spec.unitPlaces⌋ : Rat) / 10 ^ spec.unitPlaces = wholeSteps raw spec.step := by
    unfold wholeSteps Spec.step
    rw [div_div_eq_mul_div, div_one, mul_one_div]
  unfold Spec.units at ok
  rw [floored] at ok
  dsimp only at ok
  split at ok
  · cases ok
  · next reached =>
    split at ok
    · cases ok
    · next within =>
      cases ok
      exact ⟨rfl, not_lt.mp reached, not_lt.mp within⟩

theorem rawUnitsForBudget_pos {budget entry stopLoss rate : Rat}
    (positive : 0 < rawUnitsForBudget budget entry stopLoss rate) :
    rawUnitsForBudget budget entry stopLoss rate = budget / (|entry - stopLoss| * rate) := by
  unfold rawUnitsForBudget at positive ⊢
  dsimp only at positive ⊢
  split
  · next spent =>
    rw [if_pos spent] at positive
    exact absurd positive (lt_irrefl 0)
  · next apart =>
    rw [if_neg apart] at positive
    split
    · next free =>
      rw [if_pos free] at positive
      exact absurd positive (lt_irrefl 0)
    · next costs =>
      rw [if_neg costs] at positive
      split
      · next nothing =>
        rw [if_pos nothing] at positive
        exact absurd positive (lt_irrefl 0)
      · rfl

theorem rawUnits_ok (ok : rawUnits maxRiskPct req sizing = .ok raw)
    (checked : ∀ pct, req.risk = .percent pct → pct ≤ maxRiskPct) (funded : 0 < sizing.equity)
    (costs : 0 < sizing.loss) (positive : 0 < raw) :
    raw = budgetCash req.risk sizing.loss sizing.equity / sizing.loss ∧
      budgetCash req.risk sizing.loss sizing.equity ≤ sizing.equity * maxRiskPct / 100 := by
  unfold rawUnits at ok
  dsimp only at ok
  cases risk : req.risk with
  | percent pct =>
    rw [risk] at ok
    cases ok
    exact ⟨rawUnitsForBudget_pos positive, capped_percent funded (checked pct risk)⟩
  | amount amount =>
    rw [risk] at ok
    dsimp only at ok
    rw [if_neg (not_le.mpr funded)] at ok
    split at ok
    · cases ok
    · next within =>
      cases ok
      exact ⟨rawUnitsForBudget_pos positive, capped_of_pct funded (not_lt.mp within)⟩
  | units literal =>
    rw [risk] at ok
    dsimp only at ok
    rw [if_neg (not_le.mpr funded)] at ok
    split at ok
    · cases ok
    · next within =>
      cases ok
      rw [mul_assoc] at within
      exact ⟨(mul_div_cancel_right₀ _ costs.ne').symm, capped_of_pct funded (not_lt.mp within)⟩

theorem readSizing_ok (ok : readSizing client maxRiskPct maxOpenPositions req = .ok sizing) :
    (∀ pct, req.risk = .percent pct → pct ≤ maxRiskPct) ∧ 0 < |sizing.referencePrice - sizing.stopLoss| := by
  unfold readSizing at ok
  simp only [bind_ok] at ok
  obtain ⟨_, capped, account, -, _, -, equity, -, rows, -, row, -, spec, -, _, apart, rate, -, made⟩ := ok
  cases made
  exact ⟨checkPercentCap_ok.mp capped, demand_ok.mp apart⟩

/-- The units asked for are the most of the instrument's sizes that the budget pays for. -/
theorem sizeEntry_fits (ok : sizeEntry client maxRiskPct maxOpenPositions req = .ok (sizing, units))
    (funded : 0 < sizing.equity) (rated : 0 < sizing.fxRate) :
    FitsRisk sizing.spec.sizes req.risk sizing.equity maxRiskPct sizing.loss units := by
  unfold sizeEntry at ok
  simp only [bind_ok] at ok
  obtain ⟨_, read, raw, sized, _, floored, made⟩ := ok
  cases made
  obtain ⟨checked, apart⟩ := readSizing_ok read
  obtain ⟨steps, reached, within⟩ := units_ok floored
  have costs : 0 < sizing.loss := mul_pos apart rated
  have positive : 0 < raw := by
    have below := wholeSteps_le raw sizing.spec.step_pos
    rw [← steps] at below
    exact sizing.spec.minimum_pos.trans_le (reached.trans below)
  obtain ⟨bought, capped⟩ := rawUnits_ok sized checked funded costs positive
  have capWithin : wholeSteps (min sizing.spec.maximum raw) sizing.spec.step = units := by
    rw [steps]
    exact wholeSteps_min sizing.spec.step_pos (steps ▸ within)
  rw [bought] at capWithin
  rw [← capWithin] at reached
  have largest := paid_isGreatest sizing.spec.step_pos costs reached
  rw [capWithin] at largest
  exact { WithinRisk.of_budget costs largest.1.2 capped with largest }

theorem sizeEntry_read (ok : sizeEntry client maxRiskPct maxOpenPositions req = .ok (sizing, units)) :
    readSizing client maxRiskPct maxOpenPositions req = .ok sizing := by
  unfold sizeEntry at ok
  simp only [bind_ok] at ok
  obtain ⟨_, read, _, -, _, -, made⟩ := ok
  cases made
  exact read

/-- The prices that an order is sized from are those that it sends. -/
structure Sizing.SentAs (sizing : Sizing) (order : Order) : Prop where
  stopLoss : order.stopLoss = sizing.stopLoss
  trigger : ∀ price, order.type = .stop price ∨ order.type = .limit price → sizing.referencePrice = price

theorem build_sent (read : readSizing client maxRiskPct maxOpenPositions req = .ok sizing) (units : Rat) :
    sizing.SentAs (build req sizing.spec units) := by
  unfold readSizing at read
  simp only [bind_ok] at read
  obtain ⟨_, -, account, -, _, -, equity, -, rows, -, row, -, spec, -, _, -, rate, -, made⟩ := read
  cases made
  refine ⟨rfl, fun price pending => ?_⟩
  unfold build at pending
  dsimp only at pending ⊢
  cases entry : req.entry with
  | market reference =>
    rw [entry] at pending
    rcases pending with pending | pending <;> cases pending
  | stop trigger =>
    rw [entry] at pending
    rcases pending with pending | pending <;> cases pending
    rfl
  | limit trigger =>
    rw [entry] at pending
    rcases pending with pending | pending <;> cases pending
    rfl

theorem sizeEntry_refuses (read : readSizing client maxRiskPct maxOpenPositions req = .ok sizing)
    (funded : 0 < sizing.equity) (rated : 0 < sizing.fxRate)
    (dear : ∀ size ∈ sizing.spec.sizes, budgetCash req.risk sizing.loss sizing.equity < size * sizing.loss) :
    ∃ error, sizeEntry client maxRiskPct maxOpenPositions req = .error error := by
  refine error_of_not_ok fun ⟨other, units⟩ ok => ?_
  obtain rfl : other = sizing := by
    have same := (sizeEntry_read ok).symm.trans read
    cases same
    rfl
  have fits := sizeEntry_fits ok funded rated
  exact absurd fits.withinBudget (not_le.mpr (dear _ fits.largest.1.1))

end Oanda

namespace Mt5

/-- The lots that the symbol takes. -/
def Rules.sizes (rules : Rules) (unit : LotUnit) : Set Rat :=
  stepsBetween (rules.minVolumeRaw / unit.scale : Rat) (rules.maxVolumeRaw / unit.scale)
    (rules.volumeStepRaw / unit.scale)

/-- What one lot loses at the stop, in the account's currency. -/
def Sizing.loss (sizing : Sizing) : Rat :=
  |sizing.price - sizing.stop| * sizing.symbol.contractSize * sizing.rate

variable {unit : LotUnit} {trader : Trader} {cap equity loss : Rat} {maxPositions raw : Nat} {req : RiskedRequest}
  {risk : RiskBudget} {rules : Rules} {band : Option MarketEntryBand} {sizing : Sizing} {order : Order}

/-- The whole steps of a count of lot units are those of the lots that it makes. -/
theorem steps_raw {step most : Nat} {quantity : Rat} (unit : LotUnit) (positive : 0 < step)
    (counted : 0 ≤ min ⌊quantity * unit.scale⌋ (most : Int)) :
    (((min ⌊quantity * unit.scale⌋ (most : Int)).toNat / step * step : Nat) : Rat) / unit.scale =
      wholeSteps (min ((most : Rat) / unit.scale) quantity) ((step : Rat) / unit.scale) := by
  have scaled : (0 : Rat) < unit.scale := Nat.cast_pos.mpr unit.scale_pos
  have stepped : (0 : Rat) < step := Nat.cast_pos.mpr positive
  have count : (((min ⌊quantity * unit.scale⌋ (most : Int)).toNat / step : Nat) : Int) =
      ⌊min ((most : Rat) / unit.scale) quantity / ((step : Rat) / unit.scale)⌋ := by
    refine eq_of_forall_le_iff fun steps => ?_
    have onQuantity : (steps : Rat) * (step / unit.scale) ≤ quantity ↔ steps * step ≤ ⌊quantity * unit.scale⌋ := by
      rw [Int.le_floor, ← mul_div_assoc, div_le_iff₀ scaled]
      push_cast
      rfl
    have onMost : (steps : Rat) * (step / unit.scale) ≤ most / unit.scale ↔ steps * step ≤ (most : Int) := by
      rw [← mul_div_assoc, div_le_div_iff_of_pos_right scaled]
      exact_mod_cast Iff.rfl
    rw [Int.le_floor, le_div_iff₀ (div_pos stepped scaled), le_min_iff, onQuantity, onMost, Int.natCast_ediv,
      Int.toNat_of_nonneg counted, Int.le_ediv_iff_mul_le (Int.natCast_pos.mpr positive), le_min_iff, and_comm]
  have cast := congrArg (Int.cast : Int → Rat) count
  rw [Int.cast_natCast] at cast
  unfold wholeSteps
  rw [← cast]
  push_cast
  ring

theorem quantity_eq (costs : 0 < loss) :
    quantity risk (budgetCash risk loss equity) loss = budgetCash risk loss equity / loss := by
  cases risk with
  | percent pct => rfl
  | amount amount => rfl
  | units literal => exact (mul_div_cancel_right₀ literal costs.ne').symm

theorem lots_ok (ok : lots unit risk equity loss cap rules = .ok raw) :
    FitsRisk (rules.sizes unit) risk equity (cap + 1 / 10 ^ 10) loss (raw / unit.scale) := by
  unfold lots at ok
  split at ok
  · cases ok
  next funded =>
  split at ok
  · cases ok
  next priced =>
  dsimp only at ok
  split at ok
  · cases ok
  next paid =>
  split at ok
  · cases ok
  next within =>
  split at ok
  · cases ok
  next ruled =>
  have costs : 0 < loss := not_le.mp (not_or.mp priced).1
  rw [quantity_eq costs] at ok
  split at ok
  · cases ok
  next counted =>
  split at ok
  · cases ok
  next reached =>
  split at ok
  next accepted =>
    cases ok
    have stepped : 0 < rules.volumeStepRaw := Nat.pos_of_ne_zero fun none => ruled (.inl none)
    have scaled : (0 : Rat) < unit.scale := Nat.cast_pos.mpr unit.scale_pos
    have bought : 0 ≤ min ⌊budgetCash risk loss equity / loss * unit.scale⌋ (rules.maxVolumeRaw : Int) := by
      omega
    have steps := steps_raw unit stepped bought
    have least : (rules.minVolumeRaw : Rat) / unit.scale ≤ wholeSteps _ _ :=
      steps ▸ div_le_div_of_nonneg_right (Nat.cast_le.mpr (not_lt.mp reached)) scaled.le
    have largest := paid_isGreatest (div_pos (Nat.cast_pos.mpr stepped) scaled) costs least
    rw [← steps] at largest
    exact { WithinRisk.of_budget costs largest.1.2
      (capped_of_pct (not_le.mp funded) (not_lt.mp within)) with largest }
  · cases ok

theorem lossPerLot_ok {calcMode : Nat} {contractSize entry stop rate : Rat}
    (ok : lossPerLot calcMode contractSize entry stop rate = .ok loss) :
    loss = |entry - stop| * contractSize * rate := by
  unfold lossPerLot at ok
  simp only [bind_ok] at ok
  obtain ⟨_, -, _, -, _, -, made⟩ := ok
  cases made
  rfl

/-- The lots sent are the most of the symbol's sizes that the budget pays for. -/
theorem sizeEntry_fits (ok : sizeEntry unit trader cap maxPositions req band = .ok (sizing, order)) :
    FitsRisk (sizing.symbol.rules.sizes unit) req.risk sizing.equity (cap + 1 / 10 ^ 10) sizing.loss
      (order.lots / unit.scale) := by
  unfold sizeEntry at ok
  simp only [bind_ok] at ok
  obtain ⟨_, -, loss, cost, count, sized, made⟩ := ok
  cases made
  have fits := lots_ok sized
  rw [lossPerLot_ok cost] at fits
  exact fits

/-- The prices that an order is sized from are those that it sends. -/
structure Sizing.SentAs (sizing : Sizing) (order : Order) : Prop where
  stopLoss : order.stopLoss = sizing.stop
  trigger : ∀ price, order.price = some price → sizing.price = price

theorem sizeEntry_sent (ok : sizeEntry unit trader cap maxPositions req band = .ok (sizing, order)) :
    readSizing trader maxPositions req band = .ok sizing ∧ sizing.SentAs order := by
  unfold sizeEntry at ok
  simp only [bind_ok] at ok
  obtain ⟨_, read, loss, -, count, -, made⟩ := ok
  cases made
  refine ⟨read, rfl, fun price pending => ?_⟩
  dsimp only at pending
  split at pending
  · cases pending
  · exact Option.some.inj pending

theorem sizeEntry_refuses (read : readSizing trader maxPositions req band = .ok sizing)
    (dear : ∀ size ∈ sizing.symbol.rules.sizes unit,
      budgetCash req.risk sizing.loss sizing.equity < size * sizing.loss) :
    ∃ error, sizeEntry unit trader cap maxPositions req band = .error error := by
  refine error_of_not_ok fun ⟨other, order⟩ ok => ?_
  obtain rfl : other = sizing := by
    have same := (sizeEntry_sent ok).1.symm.trans read
    cases same
    rfl
  have fits := sizeEntry_fits ok
  exact absurd fits.withinBudget (not_le.mpr (dear _ fits.largest.1.1))

end Mt5

namespace Ibkr

/-- What one contract loses at the stop, in the account's currency. -/
def Sizing.loss (sizing : Sizing) : Rat :=
  sizing.stopDistance * sizing.multiplier * sizing.account.fxQuoteToAccount

/-- The contracts that a budget buys, before the exchange's grid. -/
def contractsBought (risk : RiskBudget) (equity loss : Rat) : Int :=
  ⌊min (mostContracts : Rat) (budgetCash risk loss equity / loss)⌋

/-- The most of the exchange's increments within the contracts bought; it may be a fraction. -/
def Sizing.fitted (risk : RiskBudget) (sizing : Sizing) : Rat :=
  wholeSteps (contractsBought risk sizing.account.equity sizing.loss : Rat) sizing.account.limits.increment

/-- The sizes on the exchange's grid, as far as a count of contracts goes. -/
def SizeLimits.sizes (limits : SizeLimits) : Set Rat :=
  stepsBetween limits.minimum mostContracts limits.increment

/-- Those that are whole contracts. -/
def SizeLimits.wholeSizes (limits : SizeLimits) : Set Rat :=
  {size ∈ limits.sizes | ∃ contracts : Int, size = contracts}

variable {snapshot : Except EntryError AccountSnapshot} {maxRiskPct equity loss budget distance multiplier rate : Rat}
  {maxOpenPositions raw contracts : Nat} {req : RiskedRequest} {risk : RiskBudget} {limits : SizeLimits}
  {sizing : Sizing}

theorem increment_pos (limits : SizeLimits) : 0 < limits.increment := by
  unfold SizeLimits.increment
  split
  · assumption
  · exact one_pos

theorem minimum_pos (limits : SizeLimits) : 0 < limits.minimum := by
  unfold SizeLimits.minimum
  split
  · assumption
  · exact one_pos

theorem floor_min_most (amount : Rat) : min ⌊amount⌋ (mostContracts : Int) = ⌊min (mostContracts : Rat) amount⌋ := by
  refine eq_of_forall_le_iff fun count => ?_
  rw [Int.le_floor, le_min_iff, le_min_iff, Int.le_floor, and_comm]
  exact_mod_cast Iff.rfl

theorem contractsForBudget_pos (positive : contractsForBudget budget distance multiplier rate ≠ 0) :
    (contractsForBudget budget distance multiplier rate : Int) =
      ⌊min (mostContracts : Rat) (budget / (distance * multiplier * rate))⌋ := by
  unfold contractsForBudget at positive ⊢
  split
  · next unusable =>
    rw [if_pos unusable] at positive
    exact absurd rfl positive
  · next usable =>
    rw [if_neg usable] at positive
    rw [Int.toNat_of_nonneg (by omega), floor_min_most]

theorem sizeEntry_ok (ok : sizeEntry risk equity maxRiskPct distance multiplier rate = .ok raw)
    (checked : ∀ pct, risk = .percent pct → pct ≤ maxRiskPct) (costs : 0 < distance * multiplier * rate)
    (positive : raw ≠ 0) :
    (raw : Int) = contractsBought risk equity (distance * multiplier * rate) ∧
      budgetCash risk (distance * multiplier * rate) equity ≤ equity * maxRiskPct / 100 := by
  unfold sizeEntry at ok
  split at ok
  · cases ok
  next funded =>
  have funded := not_le.mp funded
  cases risk with
  | percent pct =>
    cases ok
    exact ⟨contractsForBudget_pos positive, capped_percent funded (checked pct rfl)⟩
  | amount amount =>
    dsimp only at ok
    split at ok
    · cases ok
    · next within =>
      cases ok
      exact ⟨contractsForBudget_pos positive, capped_of_pct funded (not_lt.mp within)⟩
  | units literal =>
    dsimp only at ok
    split at ok
    · cases ok
    · next within =>
      have literally : budgetCash (.units literal) (distance * multiplier * rate) equity =
          literal * distance * multiplier * rate := by
        unfold budgetCash
        ring
      refine ⟨?_, literally ▸ capped_of_pct funded (not_lt.mp within)⟩
      unfold contractsBought budgetCash
      dsimp only
      rw [mul_div_cancel_right₀ _ costs.ne']
      cases ok
      split at positive
      · exact absurd rfl positive
      · next usable =>
        rw [if_neg usable, Int.toNat_of_nonneg (by omega), floor_min_most]

theorem fitToSizeGrid_some (ok : fitToSizeGrid raw limits = some contracts) (most : raw ≤ mostContracts) :
    limits.minimum ≤ wholeSteps (raw : Rat) limits.increment ∧
      (contracts : Int) = ⌊wholeSteps (raw : Rat) limits.increment⌋ := by
  unfold fitToSizeGrid at ok
  split at ok
  · cases ok
  dsimp only at ok
  split at ok
  · cases ok
  · next reached =>
    obtain ⟨reached, positive⟩ := not_or.mp reached
    have below := wholeSteps_le (raw : Rat) (increment_pos limits)
    unfold wholeSteps at below ⊢
    cases ok
    have least : 0 ≤ ⌊(⌊(raw : Rat) / limits.increment⌋ : Rat) * limits.increment⌋ :=
      Int.floor_nonneg.mpr (not_le.mp positive).le
    have within : ⌊(⌊(raw : Rat) / limits.increment⌋ : Rat) * limits.increment⌋ ≤ mostContracts := by
      have whole := Int.floor_le_floor below
      rw [Int.floor_natCast] at whole
      omega
    exact ⟨not_lt.mp reached, by omega⟩

theorem readSizing_ok (ok : readSizing snapshot maxRiskPct maxOpenPositions req = .ok sizing) :
    (∀ pct, req.risk = .percent pct → pct ≤ maxRiskPct) ∧ 0 < sizing.multiplier ∧ 0 < sizing.stopDistance := by
  unfold readSizing at ok
  simp only [bind_ok] at ok
  obtain ⟨factor, usable, _, capped, account, -, _, -, _, apart, made⟩ := ok
  cases made
  have positive := (Option.filter_eq_some_iff.mp (needed_ok.mp usable)).2
  exact ⟨checkPercentCap_ok.mp capped, of_decide_eq_true positive, demand_ok.mp apart⟩

/-- The contracts lose no more than they may. They are the whole part of the most increments within the contracts
bought, and the most of the exchange's whole sizes where that part is itself one of its sizes. -/
theorem sizedContracts_fits (ok : sizedContracts snapshot maxRiskPct maxOpenPositions req = .ok (sizing, contracts))
    (rated : 0 < sizing.account.fxQuoteToAccount) :
    WithinRisk req.risk sizing.account.equity maxRiskPct sizing.loss contracts ∧
      sizing.account.limits.minimum ≤ sizing.fitted req.risk ∧
      (FitsRisk sizing.account.limits.wholeSizes req.risk sizing.account.equity maxRiskPct sizing.loss contracts ↔
        (⌊sizing.fitted req.risk⌋ : Rat) ∈ sizing.account.limits.sizes) := by
  unfold sizedContracts at ok
  simp only [bind_ok] at ok
  obtain ⟨_, read, raw, sized, _, positive, made⟩ := ok
  cases made
  have positive := demand_ok.mp positive
  cases fits : fitToSizeGrid raw sizing.account.limits with
  | none =>
    rw [fits] at positive
    exact absurd rfl positive
  | some contracts =>
    obtain ⟨checked, factor, apart⟩ := readSizing_ok read
    have costs : 0 < sizing.loss := mul_pos (mul_pos apart factor) rated
    have any : raw ≠ 0 := by
      rintro rfl
      cases fits
    obtain ⟨bought, capped⟩ := sizeEntry_ok sized checked costs any
    have bounded : contractsBought req.risk sizing.account.equity sizing.loss ≤ mostContracts :=
      Int.floor_le_iff.mpr ((min_le_left _ _).trans_lt (lt_add_one _))
    obtain ⟨reached, count⟩ := fitToSizeGrid_some fits (Int.ofNat_le.mp (bought.trans_le bounded))
    have boughtRat := congrArg (Int.cast : Int → Rat) bought
    rw [Int.cast_natCast] at boughtRat
    have fitted : wholeSteps (raw : Rat) sizing.account.limits.increment = sizing.fitted req.risk := by
      unfold Sizing.fitted
      rw [boughtRat]
      rfl
    rw [fitted] at reached count
    have countRat := congrArg (Int.cast : Int → Rat) count
    rw [Int.cast_natCast] at countRat
    have stepped := increment_pos sizing.account.limits
    have below : (contracts : Rat) ≤ raw :=
      countRat.trans_le ((Int.floor_le _).trans (fitted ▸ wholeSteps_le (raw : Rat) stepped))
    have paid : (contracts : Rat) * sizing.loss ≤ budgetCash req.risk sizing.loss sizing.account.equity :=
      (le_div_iff₀ costs).mp (below.trans (boughtRat.trans_le ((Int.floor_le _).trans (min_le_right _ _))))
    have within := WithinRisk.of_budget costs paid capped
    rw [Option.getD_some]
    refine ⟨within, reached, fun all => countRat ▸ all.largest.1.1.1, fun inSizes => { within with largest := ?_ }⟩
    rw [← countRat] at inSizes
    refine ⟨⟨⟨inSizes, contracts, (Int.cast_natCast contracts).symm⟩, paid⟩, ?_⟩
    rintro _ ⟨⟨⟨onGrid, -, most⟩, other, rfl⟩, affordable⟩
    have affords : other ≤ contractsBought req.risk sizing.account.equity sizing.loss :=
      Int.le_floor.mpr (le_min most ((le_div_iff₀ costs).mpr affordable))
    have onSteps : (other : Rat) ≤ sizing.fitted req.risk := by
      rw [← fitted, le_wholeSteps stepped onGrid, boughtRat]
      exact Int.cast_le.mpr affords
    rw [countRat]
    exact Int.cast_le.mpr (Int.le_floor.mpr onSteps)

theorem sizedContracts_read
    (ok : sizedContracts snapshot maxRiskPct maxOpenPositions req = .ok (sizing, contracts)) :
    readSizing snapshot maxRiskPct maxOpenPositions req = .ok sizing := by
  unfold sizedContracts at ok
  simp only [bind_ok] at ok
  obtain ⟨_, read, _, -, _, -, made⟩ := ok
  cases made
  exact read

theorem readSizing_sent (ok : readSizing snapshot maxRiskPct maxOpenPositions req = .ok sizing) :
    sizing.stopDistance = |req.entry.referencePrice - req.stopLoss| := by
  unfold readSizing at ok
  simp only [bind_ok] at ok
  obtain ⟨_, -, _, -, account, -, _, -, _, -, made⟩ := ok
  cases made
  rfl

theorem sizedContracts_refuses (read : readSizing snapshot maxRiskPct maxOpenPositions req = .ok sizing)
    (rated : 0 < sizing.account.fxQuoteToAccount)
    (short : ¬ (stepsBetween sizing.account.limits.minimum
      (contractsBought req.risk sizing.account.equity sizing.loss : Rat) sizing.account.limits.increment).Nonempty) :
    ∃ error, sizedContracts snapshot maxRiskPct maxOpenPositions req = .error error := by
  refine error_of_not_ok fun ⟨other, contracts⟩ ok => ?_
  obtain rfl : other = sizing := by
    have same := (sizedContracts_read ok).symm.trans read
    cases same
    rfl
  exact short ((stepsBetween_nonempty (increment_pos _)).mpr (sizedContracts_fits ok rated).2.1)

end Ibkr

/-- Three contracts' worth of risk on an instrument. -/
def threeContracts : RiskedRequest where
  setupId := "s"
  instrument := "ES"
  direction := .long
  entry := .stop 5700
  stopLoss := 5680
  takeProfit := 5740
  dryRun := true
  risk := .amount 3000
  onOversize := .capVolume
  contractMultiplier := some 50

/-- An exchange whose grid holds no whole number of contracts up to three. -/
def fractionalGrid : Ibkr.AccountSnapshot where
  equity := 300000
  openPositionCount := 0
  fxQuoteToAccount := 1
  limits := { minSize := 5 / 2, sizeIncrement := 7 / 10 }

def mt5Rules : Mt5.Rules where
  minVolumeRaw := 1000000
  maxVolumeRaw := 10000000000
  volumeStepRaw := 1000000
  stopsPoints := 0

def mt5Lots : Mt5.LotUnit where
  scale := 100000000
  scale_pos := by decide
  fromRaw raw := raw ≠ 0

def eurUsd : Oanda.InstrumentDetails where
  name := "EUR_USD"
  displayPrecision := 5
  tradeUnitsPrecision := 0
  minimumTradeSize := some 1
  maximumOrderUnits := some 100000000

/-- An account of 10000 dollars. -/
def dollarClient : Oanda.Client where
  getAccount := some { openPositionCount := 0, nav := some 10000, currency := "USD" }
  getInstrumentDetails := some [eurUsd]
  resolveQuoteToAccountRate _ _ := some 1
  placeOrder _ := .ok "1"

def eurUsdSymbol : Mt5.SymbolInfo where
  calcMode := 0
  contractSize := 100000
  tickSize := 1 / 100000
  point := 1 / 100000
  profitCurrency := "USD"
  rules := mt5Rules

def dollarTrader : Mt5.Trader where
  riskSnapshot := some ({ balance := 10000, credit := 0, currency := "USD" }, { positions := [], orders := [] })
  symbol := some eurUsdSymbol
  quote := some { bid := 109990 / 100000, ask := 109992 / 100000 }
  rate _ _ := .ok 1
  freshQuote := none
  preview _ := .ok ()
  openOrder _ := .ok { state := .placed, result := some { order := 1, volumeRaw := 0 }, detail := "" }

def onePercent (instrument : String) : RiskedRequest where
  setupId := "s"
  instrument := instrument
  direction := .long
  entry := .stop (11 / 10)
  stopLoss := 1095 / 1000
  takeProfit := 1115 / 1000
  dryRun := false
  risk := .percent 1
  onOversize := .capVolume
  contractMultiplier := none

def eurUsdSizing : Oanda.Sizing where
  spec := { pricePlaces := 5, unitPlaces := 0, minimum := 1, maximum := 100000000, minimum_pos := by decide +kernel,
            minimum_le := by decide +kernel }
  equity := 10000
  referencePrice := 11 / 10
  stopLoss := 1095 / 1000
  fxRate := 1

def eurUsdLots : Mt5.Sizing where
  symbol := eurUsdSymbol
  kind := .stop
  price := 11 / 10
  stop := 1095 / 1000
  take := 1115 / 1000
  equity := 10000
  rate := 1

def eurUsdOrder : Mt5.Order where
  symbol := "EURUSD"
  side := .long
  kind := .stop
  lots := 20000000
  price := some (11 / 10)
  stopLoss := 1095 / 1000
  takeProfit := 1115 / 1000

def esSizing : Ibkr.Sizing where
  account := { fractionalGrid with limits := { minSize := 1, sizeIncrement := 1 } }
  multiplier := 50
  referencePrice := 5700
  stopDistance := 20

end Adapters

end TradeControl
