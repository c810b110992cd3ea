import Mathlib.Data.Rat.Floor
import Mathlib.Tactic.FieldSimp
import Mathlib.Tactic.Linarith
import Mathlib.Tactic.Positivity
import Mathlib.Tactic.Ring
import TradeControl.CTrader.MarketEntry
import TradeControl.Foundation.StepGrid

namespace TradeControl.CTrader

open Foundation

/-! The volume that an entry's risk budget buys, and the stop distance that a fill of it may have. -/

inductive RiskBudget
  | percent (value : Rat)
  | amount (value : Rat)
  | units (value : Rat)

inductive OversizePolicy
  | capVolume
  | reject
  deriving DecidableEq

/-- An entry's request, with what it may risk. -/
structure SizedRequest extends EntryRequest where
  risk : RiskBudget
  onOversize : OversizePolicy

structure SizedEntry where
  cents : Int
  impliedPct : Rat
  maxStopDistance : Rat
  deriving DecidableEq

def isMarket : ResolvedEntry → Bool
  | .market _ => true
  | .stop _ | .limit _ => false

/-- The distances from a price to the stop and to the target. -/
def geometry (req : EntryRequest) (price : Rat) : Except EntryError (Rat × Rat) :=
  if ¬ (0 < price ∧ 0 < req.stopLoss ∧ 0 < req.takeProfit) then
    .error (reject "entry, stop and target must be finite positive prices")
  else
    let stop := (price - req.stopLoss) * sideSign req.direction
    let target := (req.takeProfit - price) * sideSign req.direction
    if stop ≤ 0 ∨ target ≤ 0 then
      .error (reject "stop/target are on the wrong side of executable entry price")
    else .ok (stop, target)

/-- `as i64`. -/
def clampI64 (value : Int) : Int := max (-2 ^ 63) (min value (2 ^ 63 - 1))

def relativeStop (stop : Rat) : Int := ⌈stop * 100000 - 1 / 10 ^ 7⌉

def relativeTarget (target : Rat) : Int := ⌊target * 100000 + 1 / 10 ^ 7⌋

def payload (account symbol volume : Int) (req : EntryRequest) (price : Rat) : Except EntryError Json :=
  match geometry req price with
  | .error error => .error error
  | .ok (stop, target) =>
    let placed : List (String × Json) := [("ctidTraderAccountId", .whole account), ("symbolId", .whole symbol),
      ("volume", .whole volume), ("tradeSide", .whole (if req.direction = .long then 1 else 2)),
      ("label", .text "trade-control")]
    match req.entry with
    | .market _ =>
      let relativeStopLoss := clampI64 (relativeStop stop)
      let relativeTakeProfit := clampI64 (relativeTarget target)
      if relativeStopLoss ≤ 0 ∨ relativeTakeProfit ≤ 0 then
        .error (reject "market protection distances below cTrader precision")
      else .ok (.object (placed ++ [("orderType", .whole 1), ("timeInForce", .whole 3),
        ("relativeStopLoss", .whole relativeStopLoss), ("relativeTakeProfit", .whole relativeTakeProfit)]))
    | .stop triggerPrice =>
      .ok (.object (placed ++ [("orderType", .whole 3), ("timeInForce", .whole 2),
        ("stopPrice", .decimal triggerPrice), ("stopLoss", .decimal req.stopLoss),
        ("takeProfit", .decimal req.takeProfit)]))
    | .limit triggerPrice =>
      .ok (.object (placed ++ [("orderType", .whole 2), ("timeInForce", .whole 2),
        ("limitPrice", .decimal triggerPrice), ("stopLoss", .decimal req.stopLoss),
        ("takeProfit", .decimal req.takeProfit)]))

def volume (units : Rat) (least most step : Int) : Except EntryError Int :=
  if units ≤ 0 ∨ least ≤ 0 ∨ most < least ∨ step ≤ 0 then
    .error (reject "invalid cTrader volume or symbol limits")
  else if 2 ^ 63 < ⌊units * 100⌋ then .error (reject "cTrader volume overflow")
  else
    let volume := min (clampI64 ⌊units * 100⌋ / step) (most / step) * step
    if volume < least then .error .unitsBelowMinimum else .ok volume

/-- The cash that a market fill's stop may cost: the budget's, and for units the cap's. -/
def requestedCash (risk : RiskBudget) (equity cap : Rat) : Except EntryError Rat :=
  match risk with
  | .percent percent => .ok (equity * percent / 100)
  | .amount amount => .ok amount
  | .units units => if 0 < units then .ok (equity * cap / 100) else .error (reject "invalid market unit budget")

def maxStopDistance (risk : RiskBudget) (equity conversion : Rat) (cents : Int) (cap : Rat) :
    Except EntryError Rat :=
  if ¬ (0 < equity ∧ 0 < conversion ∧ 0 < cap) ∨ cents ≤ 0 then
    .error (reject "invalid market risk snapshot")
  else match requestedCash risk equity cap with
  | .error error => .error error
  | .ok cash =>
    let distance := min cash (equity * cap / 100) / (cents / 100 * conversion)
    if cash ≤ 0 ∨ distance ≤ 0 then .error (reject "invalid market risk distance") else .ok distance

section
variable (req : SizedRequest) (raw : Json) (price equity rate cap : Rat)

/-- A market order's stop is sent in whole points, rounded up. -/
def effectiveDistance (entry : ResolvedEntry) (distance : Rat) : Rat :=
  if isMarket entry then relativeStop distance / 100000 else distance

def unitsFor (risk : RiskBudget) (equity riskPerUnit : Rat) : Rat :=
  match risk with
  | .percent percent => equity * percent / 100 / riskPerUnit
  | .amount amount => amount / riskPerUnit
  | .units units => units

def requestedPct (risk : RiskBudget) (equity riskPerUnit : Rat) : Rat :=
  match risk with
  | .percent percent => percent
  | .amount amount => amount / equity * 100
  | .units units => units * riskPerUnit / equity * 100

def calculate : Except EntryError SizedEntry := do
  if ¬ (0 < equity ∧ 0 < rate ∧ 0 < cap) then .error (reject "invalid cTrader sizing snapshot")
  else do
    let (distance, _) ← geometry req.toEntryRequest price
    let riskPerUnit := effectiveDistance req.entry distance * rate
    let units := unitsFor req.risk equity riskPerUnit
    let least ← (integer raw "minVolume").mapError reject
    let most ← (integer raw "maxVolume").mapError reject
    let step ← (integer raw "stepVolume").mapError reject
    let cents ← volume units least most step
    let implied := cents / 100 * riskPerUnit / equity * 100
    let requested := requestedPct req.risk equity riskPerUnit
    if requested ≤ 0 then .error (reject "risk budget must be finite and positive")
    else if cap + 1 / 10 ^ 10 < requested ∨ cap + 1 / 10 ^ 10 < implied then .error .riskCapExceeded
    else if most / step < clampI64 ⌊units * 100⌋ / step ∧ req.onOversize = .reject then
      .error (reject s!"cTrader volume exceeds symbol maximum; on_oversize=reject")
    else do
      let distance ← maxStopDistance req.risk equity rate cents cap
      return { cents, impliedPct := implied, maxStopDistance := distance }

end

/-- What a symbol's metadata says of its volumes. -/
structure SymbolLimits (raw : Json) (least most step : Int) : Prop where
  readsLeast : integer raw "minVolume" = .ok least
  readsMost : integer raw "maxVolume" = .ok most
  readsStep : integer raw "stepVolume" = .ok step
  least_pos : 0 < least
  least_le : least ≤ most
  step_pos : 0 < step

/-- The volumes that the symbol takes and the units pay for. -/
def affordable (units : Rat) (least most step : Int) : Set Rat :=
  stepsBetween (least : Rat) (min (most : Rat) (units * 100)) step

/-- A price of at most five decimals. -/
def OnGrid (price : Rat) : Prop := ∃ points : Int, price = points / 100000

/-- The cash that the budget asks for at a risk per unit. -/
def budgetCash (risk : RiskBudget) (riskPerUnit equity : Rat) : Rat :=
  match risk with
  | .percent percent => equity * percent / 100
  | .amount amount => amount
  | .units units => units * riskPerUnit

/-- The stop distance that an order's payload stands for. -/
def sentDistance (sent : Json) (entry : ResolvedEntry) (stop : Rat) : Rat :=
  if isMarket entry then (integer sent "relativeStopLoss").toOption.getD 0 / 100000 else stop

/-- A position that the broker opens at a price: a market order's protection is relative to it. -/
def openedBy (sent : Json) (req : EntryRequest) (price : Rat) : Json :=
  let sign := sideSign req.direction
  let points (key : String) : Rat := (integer sent key).toOption.getD 0 / 100000
  if isMarket req.entry then
    .object [("price", .decimal price), ("stopLoss", .decimal (price - points "relativeStopLoss" * sign)),
      ("takeProfit", .decimal (price + points "relativeTakeProfit" * sign))]
  else
    .object [("price", .decimal price), ("stopLoss", .decimal req.stopLoss), ("takeProfit", .decimal req.takeProfit)]

/-- The terms that a sized entry is sent under. -/
structure Terms.AuthorizedBy (terms : Terms) (req : EntryRequest) (sized : SizedEntry) : Prop where
  direction : terms.direction = req.direction
  stop : terms.stop = req.stopLoss
  target : terms.target = req.takeProfit
  maxStopDistance : terms.maxStopDistance = sized.maxStopDistance

section
variable {v : Json} {key : String} {value units equity rate cap riskPerUnit stop target price : Rat}
  {least most step cents : Int} {risk : RiskBudget} {entry : ResolvedEntry} {req : EntryRequest}

theorem fitsI64_of_integer {found : Int} (read : integer v key = .ok found) : fitsI64 found := by
  unfold integer at read
  split at read
  · next there =>
    cases read
    rcases Option.or_eq_some_iff.mp there with whole | ⟨-, text⟩
    · unfold Json.asI64 at whole
      split at whole
      · split at whole
        · next fits =>
          cases whole
          exact fits
        · cases whole
      · cases whole
    · obtain ⟨chars, -, parsed⟩ := Option.bind_eq_some_iff.mp text
      exact of_decide_eq_true (Option.filter_eq_some_iff.mp parsed).2
  · cases read

/-- The code's whole steps are the whole steps of what the symbol and the units both allow. -/
theorem volume_steps (units_pos : 0 < units) (fits : ⌊units * 100⌋ ≤ 2 ^ 63) (most_fits : most < 2 ^ 63)
    (step_pos : 0 < step) :
    ((min (clampI64 ⌊units * 100⌋ / step) (most / step) * step : Int) : Rat) =
      wholeSteps (min (most : Rat) (units * 100)) step := by
  have count : min (clampI64 ⌊units * 100⌋ / step) (most / step) =
      ⌊min (most : Rat) (units * 100) / step⌋ := by
    have raw_nonneg : 0 ≤ ⌊units * 100⌋ := Int.floor_nonneg.mpr (by positivity)
    refine eq_of_forall_le_iff fun steps => ?_
    have positive : (0 : Rat) < step := Int.cast_pos.mpr step_pos
    have onUnits : ((steps : Rat) * step ≤ units * 100) ↔ steps * step ≤ ⌊units * 100⌋ := by
      rw [Int.le_floor]
      push_cast
      rfl
    have onMost : ((steps : Rat) * step ≤ most) ↔ steps * step ≤ most := by
      rw [← Int.cast_mul]
      exact Int.cast_le
    rw [Int.le_floor, le_div_iff₀ positive, le_min_iff, le_min_iff, onUnits, onMost,
      Int.le_ediv_iff_mul_le step_pos, Int.le_ediv_iff_mul_le step_pos]
    unfold clampI64
    omega
  rw [count]
  unfold wholeSteps
  push_cast
  rfl

theorem volume_belowMinimum_iff (least_pos : 0 < least) (least_le : least ≤ most) (most_fits : most < 2 ^ 63)
    (step_pos : 0 < step) :
    volume units least most step = .error .unitsBelowMinimum ↔
      0 < units ∧ ⌊units * 100⌋ ≤ 2 ^ 63 ∧ ¬ (affordable units least most step).Nonempty := by
  unfold volume
  split
  · next invalid =>
    refine ⟨fun same => (by cases same), fun ⟨units_pos, _⟩ => ?_⟩
    rcases invalid with low | low | low | low
    · exact absurd units_pos (not_lt.mpr low)
    all_goals omega
  · next valid =>
    have units_pos : 0 < units := not_le.mp fun low => valid (.inl low)
    split
    · next large =>
      exact ⟨fun same => (by cases same), fun ⟨_, fits, _⟩ => absurd fits (not_le.mpr large)⟩
    · next fits =>
      have steps := volume_steps units_pos (not_lt.mp fits) most_fits step_pos
      have bound : (affordable units least most step).Nonempty ↔
          least ≤ min (clampI64 ⌊units * 100⌋ / step) (most / step) * step := by
        unfold affordable
        rw [stepsBetween_nonempty (Int.cast_pos.mpr step_pos), ← steps, Int.cast_le]
      rw [bound, and_iff_right units_pos, and_iff_right (not_lt.mp fits), not_le]
      dsimp only
      split
      · next low => exact ⟨fun _ => low, fun _ => rfl⟩
      · next high => exact ⟨fun same => (by cases same), fun low => absurd low high⟩

theorem volume_ok (most_fits : most < 2 ^ 63) (ok : volume units least most step = .ok cents) :
    0 < units ∧ 0 < cents ∧ IsGreatest (affordable units least most step) (cents : Rat) := by
  unfold volume at ok
  split at ok
  · cases ok
  · next valid =>
    have units_pos : 0 < units := not_le.mp fun low => valid (.inl low)
    have step_pos : 0 < step := not_le.mp fun low => valid (.inr (.inr (.inr low)))
    have least_pos : 0 < least := not_le.mp fun low => valid (.inr (.inl low))
    split at ok
    · cases ok
    · next fits =>
      dsimp only at ok
      split at ok
      · cases ok
      · next high =>
        cases ok
        have reached := not_lt.mp high
        refine ⟨units_pos, least_pos.trans_le reached, ?_⟩
        have steps := volume_steps units_pos (not_lt.mp fits) most_fits step_pos
        rw [steps]
        refine stepsBetween_isGreatest (Int.cast_pos.mpr step_pos) ?_
        rw [← steps]
        exact Int.cast_le.mpr reached

theorem sideSign_sq (direction : Direction) : sideSign direction * sideSign direction = 1 := by
  cases direction with
  | long => decide +kernel
  | short => decide +kernel

theorem geometry_ok (ok : geometry req price = .ok (stop, target)) :
    (0 < price ∧ 0 < req.stopLoss ∧ 0 < req.takeProfit) ∧ stop = (price - req.stopLoss) * sideSign req.direction ∧
      target = (req.takeProfit - price) * sideSign req.direction ∧ 0 < stop ∧ 0 < target := by
  unfold geometry at ok
  split at ok
  · cases ok
  · next positive =>
    dsimp only at ok
    split at ok
    · cases ok
    · next sides =>
      cases ok
      obtain ⟨stop_pos, target_pos⟩ := not_or.mp sides
      exact ⟨not_not.mp positive, rfl, rfl, not_le.mp stop_pos, not_le.mp target_pos⟩

/-- A distance between two prices of the grid, to either side, is whole points. -/
theorem OnGrid.distance {one other : Rat} (first : OnGrid one) (second : OnGrid other) (direction : Direction) :
    ∃ points : Int, (one - other) * sideSign direction * 100000 = points := by
  obtain ⟨m, rfl⟩ := first
  obtain ⟨n, rfl⟩ := second
  cases direction with
  | long =>
    refine ⟨m - n, ?_⟩
    unfold sideSign
    push_cast
    ring
  | short =>
    refine ⟨n - m, ?_⟩
    unfold sideSign
    push_cast
    ring

theorem points_pos {distance : Rat} {points : Int} (whole : distance * 100000 = points) (positive : 0 < distance) :
    0 < points := by
  have cast_pos : (0 : Rat) < points := whole ▸ by positivity
  exact_mod_cast cast_pos

theorem relativeStop_of_points {points : Int} (whole : stop * 100000 = points) : relativeStop stop = points := by
  unfold relativeStop
  rw [whole, Int.ceil_eq_iff]
  constructor
  · norm_num
  · norm_num

theorem relativeTarget_of_points {points : Int} (whole : target * 100000 = points) :
    relativeTarget target = points := by
  unfold relativeTarget
  rw [whole, Int.floor_eq_iff]
  constructor
  · norm_num
  · norm_num

/-- A budget pays for its units. -/
theorem unitsFor_mul (positive : riskPerUnit ≠ 0) :
    unitsFor risk equity riskPerUnit * riskPerUnit = budgetCash risk riskPerUnit equity := by
  cases risk with
  | percent percent => exact div_mul_cancel₀ _ positive
  | amount amount => exact div_mul_cancel₀ _ positive
  | units units => rfl

theorem budgetCash_eq (positive : equity ≠ 0) :
    budgetCash risk riskPerUnit equity = equity * requestedPct risk equity riskPerUnit / 100 := by
  cases risk with
  | percent percent => rfl
  | amount amount =>
    unfold budgetCash requestedPct
    field_simp
  | units units =>
    unfold budgetCash requestedPct
    field_simp

end

section
variable {req : SizedRequest} {raw sent position : Json} {price equity rate cap stop target cash fill : Rat}
  {least most step cents account symbol : Int} {sized : SizedEntry} {terms : Terms}

/-- What a unit of the entry risks, to the stop that is sent. -/
def riskPerUnit (req : SizedRequest) (stop rate : Rat) : Rat := effectiveDistance req.entry stop * rate

/-- `calculate` past the volume. -/
def finishSizing (req : SizedRequest) (equity rate cap riskPerUnit : Rat) (most step cents : Int) :
    Except EntryError SizedEntry :=
  let units := unitsFor req.risk equity riskPerUnit
  let implied := cents / 100 * riskPerUnit / equity * 100
  let requested := requestedPct req.risk equity riskPerUnit
  if requested ≤ 0 then .error (reject "risk budget must be finite and positive")
  else if cap + 1 / 10 ^ 10 < requested ∨ cap + 1 / 10 ^ 10 < implied then .error .riskCapExceeded
  else if most / step < clampI64 ⌊units * 100⌋ / step ∧ req.onOversize = .reject then
    .error (reject s!"cTrader volume exceeds symbol maximum; on_oversize=reject")
  else do
    let distance ← maxStopDistance req.risk equity rate cents cap
    return { cents, impliedPct := implied, maxStopDistance := distance }

theorem calculate_invalid {error : EntryError} (snapshot : 0 < equity ∧ 0 < rate ∧ 0 < cap)
    (invalid : geometry req.toEntryRequest price = .error error) :
    calculate req raw price equity rate cap = .error error := by
  unfold calculate
  rw [if_neg (not_not.mpr snapshot), invalid]
  rfl

theorem calculate_eq (snapshot : 0 < equity ∧ 0 < rate ∧ 0 < cap) (limits : SymbolLimits raw least most step)
    (bracket : geometry req.toEntryRequest price = .ok (stop, target)) :
    calculate req raw price equity rate cap =
      volume (unitsFor req.risk equity (riskPerUnit req stop rate)) least most step >>=
        finishSizing req equity rate cap (riskPerUnit req stop rate) most step := by
  unfold calculate
  rw [if_neg (not_not.mpr snapshot), bracket, limits.readsLeast, limits.readsMost, limits.readsStep]
  rfl

theorem geometry_notBelowMinimum {req : EntryRequest} :
    geometry req price ≠ .error .unitsBelowMinimum := by
  unfold geometry
  split
  · intro same
    cases same
  · dsimp only
    split
    · intro same
      cases same
    · intro same
      cases same

theorem finishSizing_notBelowMinimum {riskPerUnit : Rat} :
    finishSizing req equity rate cap riskPerUnit most step cents ≠ .error .unitsBelowMinimum := by
  intro same
  unfold finishSizing at same
  dsimp only at same
  split at same
  · cases same
  · split at same
    · cases same
    · split at same
      · cases same
      · cases most : maxStopDistance req.risk equity rate cents cap with
        | ok distance =>
          rw [most] at same
          cases same
        | error error =>
          rw [most] at same
          cases same
          unfold maxStopDistance requestedCash at most
          split at most
          · cases most
          · split at most
            · next unpaid =>
              cases most
              split at unpaid
              · cases unpaid
              · cases unpaid
              · split at unpaid
                · cases unpaid
                · cases unpaid
            · dsimp only at most
              split at most
              · cases most
              · cases most

theorem finishSizing_ok {riskPerUnit : Rat}
    (ok : finishSizing req equity rate cap riskPerUnit most step cents = .ok sized) :
    sized.cents = cents ∧ maxStopDistance req.risk equity rate cents cap = .ok sized.maxStopDistance := by
  unfold finishSizing at ok
  dsimp only at ok
  split at ok
  · cases ok
  · split at ok
    · cases ok
    · split at ok
      · cases ok
      · obtain ⟨distance, found, rest⟩ := bind_ok.mp ok
        cases rest
        exact ⟨rfl, found⟩

theorem maxStopDistance_ok {distance : Rat} (ok : maxStopDistance req.risk equity rate cents cap = .ok distance) :
    ∃ cash, requestedCash req.risk equity cap = .ok cash ∧
      distance = min cash (equity * cap / 100) / (cents / 100 * rate) ∧ 0 < distance := by
  unfold maxStopDistance at ok
  split at ok
  · cases ok
  · split at ok
    · cases ok
    · next cash found =>
      dsimp only at ok
      split at ok
      · cases ok
      · next positive =>
        cases ok
        exact ⟨cash, found, rfl, not_le.mp (not_or.mp positive).2⟩

/-- The units that a budget pays for cost no more than the cash that a fill may. -/
theorem budgetCash_le_requested {risk : RiskBudget} {riskPerUnit : Rat}
    (requested : requestedCash risk equity cap = .ok cash)
    (within : budgetCash risk riskPerUnit equity ≤ equity * cap / 100) :
    budgetCash risk riskPerUnit equity ≤ cash := by
  cases risk with
  | percent percent =>
    cases requested
    exact le_rfl
  | amount amount =>
    cases requested
    exact le_rfl
  | units units =>
    unfold requestedCash at requested
    dsimp only at requested
    split at requested
    · cases requested
      exact within
    · cases requested

theorem fillGeometry_ok : fillGeometry position terms = .ok () ↔ ∃ fill, number position "price" = .ok fill ∧
    (0 < (fill - terms.stop) * sideSign terms.direction ∧ 0 < (terms.target - fill) * sideSign terms.direction) ∧
      (0 < terms.maxStopDistance ∧
        (fill - terms.stop) * sideSign terms.direction ≤ terms.maxStopDistance * (1 + 1 / 10 ^ 10)) ∧
      ∃ stop, number position "stopLoss" = .ok stop ∧ ∃ target, number position "takeProfit" = .ok target ∧
        (0 < stop ∧ 0 < target ∧ 0 < (fill - stop) * sideSign terms.direction ∧
          0 < (target - fill) * sideSign terms.direction) := by
  unfold fillGeometry
  simp only [bind_ok, ensure_ok, exists_const]

theorem points_between {points : Int} (positive : 0 < points) : 0 < clampI64 points ∧ clampI64 points ≤ points := by
  unfold clampI64
  omega

theorem integer_whole {fields : List (String × Json)} {key : String} {value : Int}
    (there : Json.get? (.object fields) key = some (.whole value)) (fits : fitsI64 value) :
    integer (.object fields) key = .ok value := by
  unfold integer Json.field
  rw [there]
  dsimp only [Option.getD_some, Json.asI64]
  rw [if_pos fits]
  rfl

theorem clampI64_fits (value : Int) : fitsI64 (clampI64 value) := by
  unfold fitsI64 clampI64
  omega

/-- Every entry on the grid has a payload; a market order's distances are those of its bracket, in points. -/
theorem payload_ok {req : EntryRequest} (bracket : geometry req price = .ok (stop, target)) {up down : Int}
    (stopPoints : stop * 100000 = up) (targetPoints : target * 100000 = down) (account symbol volume : Int) :
    ∃ sent, payload account symbol volume req price = .ok sent ∧ (isMarket req.entry = true →
      integer sent "relativeStopLoss" = .ok (clampI64 up) ∧
        integer sent "relativeTakeProfit" = .ok (clampI64 down)) := by
  obtain ⟨-, -, -, stop_pos, target_pos⟩ := geometry_ok bracket
  have up_pos := points_pos stopPoints stop_pos
  have down_pos := points_pos targetPoints target_pos
  unfold payload
  rw [bracket]
  dsimp only
  cases req.entry with
  | market reference =>
    dsimp only
    rw [relativeStop_of_points stopPoints, relativeTarget_of_points targetPoints]
    have above := (points_between up_pos).1
    have below := (points_between down_pos).1
    rw [if_neg (by omega)]
    refine ⟨_, rfl, fun _ => ⟨?_, ?_⟩⟩
    · exact integer_whole rfl (clampI64_fits up)
    · exact integer_whole rfl (clampI64_fits down)
  | stop trigger => exact ⟨_, rfl, fun market => (by cases market)⟩
  | limit trigger => exact ⟨_, rfl, fun market => (by cases market)⟩

/-- A sized entry keeps to its budget and to the cap: as it is sent, when it fills at the quote, and at whatever
price it is accepted to have filled at. -/
structure BudgetKept (req : SizedRequest) (price equity rate cap stop : Rat) (sized : SizedEntry) (sent : Json)
    (terms : Terms) : Prop where
  sentRisk : sized.cents / 100 * (sentDistance sent req.entry stop * rate) ≤
    min (budgetCash req.risk (riskPerUnit req stop rate) equity) (equity * cap / 100)
  quotedFill : fillGeometry (openedBy sent req.toEntryRequest price) terms = .ok ()
  fillRisk : ∀ position fill cash, fillGeometry position terms = .ok () → number position "price" = .ok fill →
    requestedCash req.risk equity cap = .ok cash →
      sized.cents / 100 * ((fill - req.stopLoss) * sideSign req.direction * rate) ≤
        min cash (equity * cap / 100) * (1 + 1 / 10 ^ 10)

theorem number_decimal {v : Json} {key : String} {value : Rat} (there : v.get? key = some (.decimal value)) :
    number v key = .ok value := by
  unfold number Json.field
  rw [there]
  rfl

/-- A position at the quote lies within its protection, however the broker was told of it. -/
theorem openedBy_within {req : EntryRequest} (bracket : geometry req price = .ok (stop, target)) {up down : Int}
    (stopPoints : stop * 100000 = up) (targetPoints : target * 100000 = down)
    (points : isMarket req.entry = true → integer sent "relativeStopLoss" = .ok (clampI64 up) ∧
      integer sent "relativeTakeProfit" = .ok (clampI64 down)) :
    number (openedBy sent req price) "price" = .ok price ∧
      ∃ low, number (openedBy sent req price) "stopLoss" = .ok low ∧
        ∃ high, number (openedBy sent req price) "takeProfit" = .ok high ∧ 0 < low ∧ 0 < high ∧
          0 < (price - low) * sideSign req.direction ∧ 0 < (high - price) * sideSign req.direction := by
  obtain ⟨⟨price_pos, stopLoss_pos, takeProfit_pos⟩, stopIs, targetIs, stop_pos, target_pos⟩ := geometry_ok bracket
  unfold openedBy
  dsimp only
  cases market : isMarket req.entry with
  | false => exact ⟨number_decimal rfl, _, number_decimal rfl, _, number_decimal rfl, stopLoss_pos, takeProfit_pos,
      stopIs ▸ stop_pos, targetIs ▸ target_pos⟩
  | true =>
    obtain ⟨readsStop, readsTarget⟩ := points market
    rw [readsStop, readsTarget]
    refine ⟨number_decimal rfl, _, number_decimal rfl, _, number_decimal rfl, ?_⟩
    obtain ⟨above, upmost⟩ := points_between (points_pos stopPoints stop_pos)
    obtain ⟨above', upmost'⟩ := points_between (points_pos targetPoints target_pos)
    have some_stop : (0 : Rat) < clampI64 up := Int.cast_pos.mpr above
    have some_target : (0 : Rat) < clampI64 down := Int.cast_pos.mpr above'
    have least_stop : (clampI64 up : Rat) ≤ stop * 100000 := stopPoints ▸ Int.cast_le.mpr upmost
    have least_target : (clampI64 down : Rat) ≤ target * 100000 := targetPoints ▸ Int.cast_le.mpr upmost'
    change 0 < price - (clampI64 up : Rat) / 100000 * sideSign req.direction ∧
      0 < price + (clampI64 down : Rat) / 100000 * sideSign req.direction ∧
        0 < (price - (price - (clampI64 up : Rat) / 100000 * sideSign req.direction)) * sideSign req.direction ∧
          0 < (price + (clampI64 down : Rat) / 100000 * sideSign req.direction - price) * sideSign req.direction
    cases side : req.direction with
    | long =>
      rw [side] at stopIs targetIs
      unfold sideSign at stopIs targetIs ⊢
      refine ⟨?_, ?_, ?_, ?_⟩ <;> linarith
    | short =>
      rw [side] at stopIs targetIs
      unfold sideSign at stopIs targetIs ⊢
      refine ⟨?_, ?_, ?_, ?_⟩ <;> linarith

theorem effectiveDistance_of_points {entry : ResolvedEntry} {points : Int} (whole : stop * 100000 = points) :
    effectiveDistance entry stop = stop := by
  unfold effectiveDistance
  split
  · rw [relativeStop_of_points whole, ← whole]
    exact mul_div_cancel_right₀ _ (by norm_num)
  · rfl

/-- What is sent is no further than the bracket's own stop. -/
theorem sentDistance_le {entry : ResolvedEntry} {up down : Int} (stopPoints : stop * 100000 = up)
    (stop_pos : 0 < stop)
    (points : isMarket entry = true → integer sent "relativeStopLoss" = .ok (clampI64 up) ∧
      integer sent "relativeTakeProfit" = .ok (clampI64 down)) : sentDistance sent entry stop ≤ stop := by
  unfold sentDistance
  split
  · next market =>
    have least : (clampI64 up : Rat) ≤ stop * 100000 :=
      stopPoints ▸ Int.cast_le.mpr (points_between (points_pos stopPoints stop_pos)).2
    rw [(points market).1]
    change (clampI64 up : Rat) / 100000 ≤ stop
    linarith
  · exact le_rfl

/-- A distance that was authorized, at the entry's volume, costs no more than the cash. -/
theorem authorized_cost (rate_pos : 0 < rate) (cents_pos : 0 < cents) {distance allowed slack : Rat} :
    distance ≤ allowed / (cents / 100 * rate) * slack ↔ cents / 100 * (distance * rate) ≤ allowed * slack := by
  have unit_pos : (0 : Rat) < cents / 100 * rate := by
    have volume_pos : (0 : Rat) < cents := Int.cast_pos.mpr cents_pos
    positivity
  rw [div_mul_eq_mul_div, le_div_iff₀ unit_pos]
  constructor <;> intro within <;> linarith

/-- For every snapshot, budget and bracket on the grid: the units are below the minimum exactly if they are
units, and no volume of the symbol is within them; and what is sized within the cap is the largest such volume,
and keeps to its budget. -/
theorem calculate_keepsBudget (req : SizedRequest) (raw : Json) (price equity rate cap : Rat)
    (least most step : Int) (equity_pos : 0 < equity) (rate_pos : 0 < rate) (cap_pos : 0 < cap)
    (limits : SymbolLimits raw least most step) (priceGrid : OnGrid price) (stopGrid : OnGrid req.stopLoss)
    (targetGrid : OnGrid req.takeProfit) :
    (calculate req raw price equity rate cap = .error .unitsBelowMinimum ↔
        ∃ stop target, geometry req.toEntryRequest price = .ok (stop, target) ∧
          0 < unitsFor req.risk equity (riskPerUnit req stop rate) ∧
          ⌊unitsFor req.risk equity (riskPerUnit req stop rate) * 100⌋ ≤ 2 ^ 63 ∧
          ¬ (affordable (unitsFor req.risk equity (riskPerUnit req stop rate)) least most step).Nonempty) ∧
      ∀ sized, calculate req raw price equity rate cap = .ok sized →
        ∃ stop target, geometry req.toEntryRequest price = .ok (stop, target) ∧
          IsGreatest (affordable (unitsFor req.risk equity (riskPerUnit req stop rate)) least most step)
            (sized.cents : Rat) ∧
          (requestedPct req.risk equity (riskPerUnit req stop rate) ≤ cap →
            ∀ account symbol terms, terms.AuthorizedBy req.toEntryRequest sized →
              ∃ sent, payload account symbol sized.cents req.toEntryRequest price = .ok sent ∧
                BudgetKept req price equity rate cap stop sized sent terms) := by
  have snapshot : 0 < equity ∧ 0 < rate ∧ 0 < cap := ⟨equity_pos, rate_pos, cap_pos⟩
  have most_fits : most < 2 ^ 63 := (fitsI64_of_integer limits.readsMost).2
  cases bracket : geometry req.toEntryRequest price with
  | error error =>
    rw [calculate_invalid snapshot bracket]
    refine ⟨⟨fun same => ?_, fun ⟨_, _, same, _⟩ => (by cases same)⟩, fun sized ok => (by cases ok)⟩
    cases same
    exact absurd bracket geometry_notBelowMinimum
  | ok distances =>
    obtain ⟨stop, target⟩ := distances
    rw [calculate_eq snapshot limits bracket]
    have belowMinimum := @volume_belowMinimum_iff (unitsFor req.risk equity (riskPerUnit req stop rate)) least most
      step limits.least_pos limits.least_le most_fits limits.step_pos
    constructor
    · constructor
      · intro failed
        refine ⟨stop, target, rfl, belowMinimum.mp ?_⟩
        cases sized : volume (unitsFor req.risk equity (riskPerUnit req stop rate)) least most step with
        | error error =>
          rw [sized] at failed
          cases failed
          rfl
        | ok cents =>
          rw [sized] at failed
          exact absurd failed finishSizing_notBelowMinimum
      · rintro ⟨stop', target', same, none⟩
        cases same
        rw [belowMinimum.mpr none]
        rfl
    · intro sized ok
      obtain ⟨cents, bought, finished⟩ := bind_ok.mp ok
      obtain ⟨rfl, authorized⟩ := finishSizing_ok finished
      obtain ⟨units_pos, cents_pos, greatest⟩ := volume_ok most_fits bought
      refine ⟨stop, target, rfl, greatest, fun withinCap account symbol terms own => ?_⟩
      obtain ⟨-, stopIs, targetIs, stop_pos, target_pos⟩ := geometry_ok bracket
      obtain ⟨up, stopPoints⟩ := priceGrid.distance stopGrid req.direction
      obtain ⟨down, targetPoints⟩ := targetGrid.distance priceGrid req.direction
      rw [← stopIs] at stopPoints
      rw [← targetIs] at targetPoints
      obtain ⟨sent, submitted, points⟩ := payload_ok bracket stopPoints targetPoints account symbol sized.cents
      obtain ⟨fillPrice, within⟩ := openedBy_within bracket stopPoints targetPoints points
      obtain ⟨cash, requested, maxIs, max_pos⟩ := maxStopDistance_ok authorized
      have perUnit : riskPerUnit req stop rate = stop * rate :=
        congrArg (· * rate) (effectiveDistance_of_points stopPoints)
      have perUnit_pos : 0 < riskPerUnit req stop rate := by
        rw [perUnit]
        positivity
      have bought_le : (sized.cents : Rat) / 100 ≤ unitsFor req.risk equity (riskPerUnit req stop rate) := by
        have within := greatest.1.2.2.trans (min_le_right _ _)
        linarith
      have spent : (sized.cents : Rat) / 100 * (stop * rate) ≤
          budgetCash req.risk (riskPerUnit req stop rate) equity := by
        rw [← unitsFor_mul perUnit_pos.ne', ← perUnit]
        exact mul_le_mul_of_nonneg_right bought_le perUnit_pos.le
      have capped : budgetCash req.risk (riskPerUnit req stop rate) equity ≤ equity * cap / 100 := by
        rw [budgetCash_eq equity_pos.ne']
        have share := mul_le_mul_of_nonneg_left withinCap equity_pos.le
        linarith
      have allowed : (sized.cents : Rat) / 100 * (stop * rate) ≤ min cash (equity * cap / 100) :=
        le_min (spent.trans (budgetCash_le_requested requested capped)) (spent.trans capped)
      refine ⟨sent, submitted, ?_, ?_, ?_⟩
      · refine le_trans ?_ (le_min spent (spent.trans capped))
        have volume_pos : (0 : Rat) < sized.cents := Int.cast_pos.mpr cents_pos
        have shorter := sentDistance_le stopPoints stop_pos points
        gcongr
      · obtain ⟨low, readsLow, high, readsHigh, inside⟩ := within
        refine fillGeometry_ok.mpr ⟨price, fillPrice, ?_, ?_, low, readsLow, high, readsHigh, ?_⟩
        · rw [own.stop, own.target, own.direction, ← stopIs, ← targetIs]
          exact ⟨stop_pos, target_pos⟩
        · rw [own.stop, own.direction, own.maxStopDistance, ← stopIs]
          refine ⟨max_pos, ?_⟩
          rw [maxIs, authorized_cost rate_pos cents_pos]
          have cash_pos : 0 ≤ min cash (equity * cap / 100) := by
            refine le_trans ?_ allowed
            have volume_pos : (0 : Rat) < sized.cents := Int.cast_pos.mpr cents_pos
            positivity
          linarith
        · rw [own.direction]
          exact inside
      · intro position fill cash' accepted read requested'
        cases requested.symm.trans requested'
        obtain ⟨fill', read', -, ⟨-, near⟩, -⟩ := fillGeometry_ok.mp accepted
        cases read.symm.trans read'
        rw [own.stop, own.direction, own.maxStopDistance, maxIs, authorized_cost rate_pos cents_pos] at near
        exact near

end

/-- A market entry at 0.58365 with 52 points to its stop. -/
def audchf (risk : RiskBudget) : SizedRequest where
  setupId := "ihs-audchf"
  instrument := "AUDCHF"
  direction := .long
  entry := .market (58365 / 100000)
  stopLoss := 58313 / 100000
  takeProfit := 58576 / 100000
  dryRun := false
  risk
  onOversize := .capVolume

def audchfSymbol : Json :=
  .object [("minVolume", .whole 100000), ("maxVolume", .whole 1000000000), ("stepVolume", .whole 100000)]

theorem audchfSymbol_limits : SymbolLimits audchfSymbol 100000 1000000000 100000 :=
  ⟨rfl, rfl, rfl, by decide, by decide, by decide⟩

/-- What a budget of the entry is sized to, of a million at a rate of two. -/
def audchfSized (risk : RiskBudget) : Except EntryError SizedEntry :=
  calculate (audchf risk) audchfSymbol (58365 / 100000) 1000000 2 1

def audchfTerms (maxStopDistance : Rat) : Terms where
  account := 7
  symbol := 23
  volume := 100000
  clientId := "audchf-1"
  direction := .long
  stop := 58313 / 100000
  target := 58576 / 100000
  requestedPrice := 58365 / 100000
  maxStopDistance
  before := []

theorem calculate_keepsBudget_audchf :
    ∃ sized, audchfSized (.percent 1) = .ok sized ∧ sized.cents = 961500000 ∧
      ∃ sent, payload 7 23 sized.cents (audchf (.percent 1)).toEntryRequest (58365 / 100000) = .ok sent ∧
        BudgetKept (audchf (.percent 1)) (58365 / 100000) 1000000 2 1 (52 / 100000) sized sent
          (audchfTerms sized.maxStopDistance) := by
  obtain ⟨-, sizes⟩ := calculate_keepsBudget (audchf (.percent 1)) audchfSymbol (58365 / 100000) 1000000 2 1 100000
    1000000000 100000 (by decide +kernel) (by decide +kernel) (by decide +kernel) audchfSymbol_limits
    ⟨58365, by norm_num⟩ ⟨58313, by norm_num [audchf]⟩ ⟨58576, by norm_num [audchf]⟩
  cases sized : audchfSized (.percent 1) with
  | error error =>
    have fine : (audchfSized (.percent 1)).isOk = true := by decide +kernel
    rw [sized] at fine
    cases fine
  | ok entry =>
    have volume : (audchfSized (.percent 1)).map SizedEntry.cents = .ok 961500000 := by decide +kernel
    rw [sized] at volume
    obtain ⟨stop, target, bracket, -, keeps⟩ := sizes entry sized
    have known : geometry (audchf (.percent 1)).toEntryRequest (58365 / 100000) =
        .ok (52 / 100000, 211 / 100000) := by
      decide +kernel
    cases known.symm.trans bracket
    have withinCap : requestedPct (.percent 1) 1000000 (riskPerUnit (audchf (.percent 1)) (52 / 100000) 2) ≤ 1 := by
      decide +kernel
    obtain ⟨sent, submitted, kept⟩ := keeps withinCap 7 23 (audchfTerms entry.maxStopDistance) ⟨rfl, rfl, rfl, rfl⟩
    exact ⟨entry, rfl, Except.ok.inj volume, sent, submitted, kept⟩

/-- A budget of nothing is no volume that the symbol takes, and is not told to be below the minimum; and the stop
of a unit budget's fill may cost more than its units did at the quote. -/
theorem audchf_unitsAndFill :
    (audchfSized (.percent 0) ≠ .error .unitsBelowMinimum ∧
        geometry (audchf (.percent 0)).toEntryRequest (58365 / 100000) = .ok (52 / 100000, 211 / 100000) ∧
        ¬ (affordable (unitsFor (.percent 0) 1000000 (riskPerUnit (audchf (.percent 0)) (52 / 100000) 2)) 100000
          1000000000 100000).Nonempty) ∧
      audchfSized (.units 1000) =
          .ok { cents := 100000, impliedPct := 13 / 125000, maxStopDistance := 5 } ∧
        fillGeometry (openedBy (.object [("relativeStopLoss", .whole 52), ("relativeTakeProfit", .whole 211)])
          (audchf (.units 1000)).toEntryRequest (585 / 1000)) (audchfTerms 5) = .ok () ∧
        budgetCash (.units 1000) (riskPerUnit (audchf (.units 1000)) (52 / 100000) 2) 1000000 <
          100000 / 100 * ((585 / 1000 - 58313 / 100000) * 2) := by
  refine ⟨⟨by decide +kernel, by decide +kernel, ?_⟩, by decide +kernel, by decide +kernel, by decide +kernel⟩
  rintro ⟨line, -, above, below⟩
  have nothing : unitsFor (.percent 0) 1000000 (riskPerUnit (audchf (.percent 0)) (52 / 100000) 2) = 0 := by
    decide +kernel
  rw [nothing] at below
  have small := below.trans (min_le_right _ _)
  norm_num at above small
  linarith

end TradeControl.CTrader
