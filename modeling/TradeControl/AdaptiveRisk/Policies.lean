import Mathlib.Algebra.Order.Floor.Ring
import Mathlib.Data.Rat.Floor
import Mathlib.Tactic.Linarith
import Mathlib.Tactic.Positivity
import TradeControl.Foundation.Checked
import TradeControl.Instant

namespace TradeControl.AdaptiveRisk

open Foundation

/-- `checked_div`. -/
def div (a b : Rat) : Except String Rat :=
  if b = 0 then .error "invalid risk divisor or overflow" else .ok (a / b)

/-- A percentage of a reference. -/
def pct (reference percent : Rat) : Rat := reference * percent / 100

inductive Side
  | buy
  | sell
  deriving DecidableEq

/-- What a volume unit loses between its price and its stop, in account currency. -/
structure LossEstimate where
  side : Side
  price : Rat
  stop : Option Rat
  contractSize : Rat
  conversion : Rat
  costsPerUnit : Rat
  fixedCosts : Rat
  isOpenPosition : Bool
  deriving DecidableEq

def Side.distance (side : Side) (price stop : Rat) : Rat :=
  match side with
  | .buy => price - stop
  | .sell => stop - price

/-- The loss of one unit at its stop, with its costs and an allowance for slippage. -/
def LossEstimate.unitLoss (estimate : LossEstimate) (slippagePct : Rat) : Except String Rat :=
  match estimate.stop with
  | none => .error "protective stop missing"
  | some stop => do
    ensure (0 < estimate.price ∧ 0 < stop ∧ 0 < estimate.contractSize ∧ 0 < estimate.conversion ∧
      0 ≤ estimate.costsPerUnit ∧ 0 ≤ estimate.fixedCosts) "invalid loss estimate"
    let distance := estimate.side.distance estimate.price stop
    ensure (0 < distance) "protective stop crossed or on wrong side of entry/mark"
    let priceRisk := max distance 0 * estimate.contractSize * estimate.conversion
    let slipBasis := max priceRisk (estimate.price * estimate.contractSize * estimate.conversion / 10000)
    return priceRisk + estimate.costsPerUnit + pct slipBasis slippagePct

def LossEstimate.loss (estimate : LossEstimate) (volume slippagePct : Rat) : Except String Rat := do
  ensure (0 ≤ volume) "negative volume"
  let unitLoss ← estimate.unitLoss slippagePct
  return unitLoss * volume + estimate.fixedCosts

structure VolumeLimits where
  min : Rat
  max : Rat
  step : Rat
  deriving DecidableEq

/-- The largest whole number of volume steps whose loss stays within the budget. -/
def VolumeLimits.size (limits : VolumeLimits) (budget : Rat) (estimate : LossEstimate)
    (slip requested : Rat) : Except String Rat := do
  ensure (0 < limits.min ∧ limits.min ≤ limits.max ∧ 0 < limits.step ∧ 0 < requested)
    "invalid volume limits"
  let available := Max.max (budget - estimate.fixedCosts) 0
  let unitLoss ← estimate.unitLoss slip
  let affordable ← div available unitLoss
  let raw := Min.min (Min.min affordable limits.max) requested
  let steps ← div raw limits.step
  let volume := (⌊steps⌋ : Rat) * limits.step
  ensure (limits.min ≤ volume) "volume below broker minimum"
  let loss ← estimate.loss volume slip
  ensure (loss ≤ budget) "rounded risk exceeds budget"
  return volume

/-- A position or a pending order as the broker shows it. -/
structure Exposure where
  brokerId : String
  requestId : Option String
  volume : Rat
  estimate : LossEstimate
  overlapping : Bool

/-- The surcharge on exposure that overlaps other exposure. -/
def surcharge (overlapping : Bool) (overlap : Rat) : Rat := if overlapping then overlap else 1

def Exposure.risk (exposure : Exposure) (slip overlap : Rat) : Except String Rat := do
  ensure (0 < exposure.volume ∧ exposure.brokerId ≠ "") "invalid exposure identity/volume"
  let loss ← exposure.estimate.loss exposure.volume slip
  return loss * surcharge exposure.overlapping overlap

section
variable {estimate : LossEstimate} {slip : Rat}

theorem LossEstimate.unitLoss_pos {amount : Rat} (nonneg : 0 ≤ slip)
    (computed : estimate.unitLoss slip = .ok amount) : 0 < amount ∧ 0 ≤ estimate.fixedCosts := by
  unfold unitLoss at computed
  split at computed
  · cases computed
  · simp only [bind_ok, ensure_ok, pure_ok, exists_const] at computed
    obtain ⟨⟨price, _, contract, conversion, costs, fixed⟩, distance, rfl⟩ := computed
    refine ⟨?_, fixed⟩
    have risk : 0 < max (estimate.side.distance estimate.price _) 0 * estimate.contractSize *
        estimate.conversion := mul_pos (mul_pos (lt_max_of_lt_left distance) contract) conversion
    have slippage : 0 ≤ pct (max (max (estimate.side.distance estimate.price _) 0 *
        estimate.contractSize * estimate.conversion)
          (estimate.price * estimate.contractSize * estimate.conversion / 10000)) slip :=
      div_nonneg (mul_nonneg (le_max_of_le_left risk.le) nonneg) (by norm_num)
    linarith

/-- A loss grows with the volume and is no less than nothing. -/
theorem LossEstimate.loss_eq {volume amount : Rat} (computed : estimate.loss volume slip = .ok amount) :
    0 ≤ volume ∧ ∃ unit, estimate.unitLoss slip = .ok unit ∧ amount = unit * volume + estimate.fixedCosts := by
  unfold loss at computed
  simp only [bind_ok, ensure_ok, pure_ok, exists_const] at computed
  obtain ⟨volume, unit, known, rfl⟩ := computed
  exact ⟨volume, unit, known, rfl⟩

theorem LossEstimate.loss_nonneg {volume amount : Rat} (nonneg : 0 ≤ slip)
    (computed : estimate.loss volume slip = .ok amount) : 0 ≤ amount := by
  obtain ⟨volume, unit, known, rfl⟩ := loss_eq computed
  obtain ⟨positive, fixed⟩ := unitLoss_pos nonneg known
  exact add_nonneg (mul_nonneg positive.le volume) fixed

theorem LossEstimate.loss_mono {smaller larger less more : Rat} (nonneg : 0 ≤ slip)
    (le : smaller ≤ larger) (first : estimate.loss smaller slip = .ok less)
    (second : estimate.loss larger slip = .ok more) : less ≤ more := by
  obtain ⟨_, unit, known, rfl⟩ := loss_eq first
  obtain ⟨_, unit', known', rfl⟩ := loss_eq second
  cases known.symm.trans known'
  have positive := (unitLoss_pos nonneg known).1
  have := mul_le_mul_of_nonneg_left le positive.le
  linarith

/-- A volume that was sized for a budget is worth trading and loses no more than the budget. -/
theorem VolumeLimits.size_spec {limits : VolumeLimits} {budget requested volume : Rat}
    (sized : limits.size budget estimate slip requested = .ok volume) :
    0 < volume ∧ ∃ amount, estimate.loss volume slip = .ok amount ∧ amount ≤ budget := by
  unfold size at sized
  simp only [bind_ok, ensure_ok, pure_ok, exists_const] at sized
  obtain ⟨⟨positive, _⟩, _, _, _, _, _, _, least, amount, known, within, rfl⟩ := sized
  exact ⟨lt_of_lt_of_le positive least, amount, known, within⟩

theorem Exposure.risk_nonneg {exposure : Exposure} {overlap amount : Rat} (nonneg : 0 ≤ slip)
    (atLeastOne : 1 ≤ overlap) (computed : exposure.risk slip overlap = .ok amount) : 0 ≤ amount := by
  unfold risk at computed
  simp only [bind_ok, ensure_ok, pure_ok, exists_const] at computed
  obtain ⟨_, lost, known, rfl⟩ := computed
  refine mul_nonneg (LossEstimate.loss_nonneg nonneg known) ?_
  unfold surcharge
  split
  · linarith
  · norm_num

end

/-- A time zone's tables: the wall time of an instant, and the instant of a wall time that names
just one. -/
structure Timezone where
  wallTime : Int → Int
  single : Int → Option Int
  wallTime_single : ∀ {wall instant}, single wall = some instant → wallTime instant = wall

abbrev Zones := String → Timezone

/-- A trading day, from its start until before its end. -/
structure TradingDay where
  start : Int
  ending : Int
  deriving DecidableEq

structure TradingCalendar where
  timezone : String := "America/New_York"
  resetTime : Int := seconds 61200
  deriving DecidableEq

def dayLength : Int := seconds 86400

/-- The instant a date's trading day begins; an ambiguous or nonexistent one fails. -/
def TradingCalendar.boundary (zones : Zones) (calendar : TradingCalendar) (date : Int) :
    Except String Int :=
  match (zones calendar.timezone).single (date * dayLength + calendar.resetTime) with
  | some instant => .ok instant
  | none => .error "ambiguous or nonexistent daily reset"

def TradingCalendar.dayAt (zones : Zones) (calendar : TradingCalendar) (now : Int) :
    Except String TradingDay := do
  let wall := (zones calendar.timezone).wallTime now
  let date := if wall % dayLength < calendar.resetTime then wall / dayLength - 1 else wall / dayLength
  let start ← calendar.boundary zones date
  let ending ← calendar.boundary zones (date + 1)
  ensure (start ≤ now ∧ now < ending) "invalid trading day"
  return { start, ending }

def TradingCalendar.validate (zones : Zones) (calendar : TradingCalendar) : Except String Unit := do
  let _ ← calendar.dayAt zones 0
  return ()

inductive DrawdownReference
  | staticInitialBalance
  | trailingBalance
  | trailingEquity
  deriving DecidableEq

inductive DailyReference
  | balance
  | equity
  | higherOfBalanceAndEquity
  deriving DecidableEq

/-- A smaller base risk after so many losses in a row. -/
structure StreakBackoff where
  enabled : Bool := true
  resetOnWin : Bool := true
  resetOnBreakEven : Bool := false
  levels : List (Nat × Rat) := [(0, 1), (1, 3/4), (2, 1/2), (3, 1/4), (4, 1/10)]
  deriving DecidableEq

/-- A ceiling on the risk from so much drawdown on. -/
structure DrawdownBackoff where
  enabled : Bool := true
  levels : List (Rat × Rat) := [(0, 1), (5/2, 1/2), (7/2, 1/4), (9/2, 1/10), (5, 0)]
  deriving DecidableEq

structure ExecutionPolicy where
  slippageBufferPctOfRisk : Rat := 20
  maxDataAgeSeconds : Int := 5
  overlapMultiplier : Rat := 1
  deriving DecidableEq

structure RiskPolicy where
  version : String := "1"
  baseRiskPct : Rat := 1
  maxAccountLossPct : Rat := 6
  internalAccountStopPct : Rat := 5
  dailyLossLimitPct : Rat := 3
  internalDailyStopPct : Rat := 2
  safetyBufferPct : Rat := 1/4
  drawdownReference : DrawdownReference := .staticInitialBalance
  dailyReference : DailyReference := .balance
  trailingAllowanceTracksReference : Bool := false
  calendar : TradingCalendar := {}
  streakBackoff : StreakBackoff := {}
  drawdownBackoff : DrawdownBackoff := {}
  execution : ExecutionPolicy := {}
  deriving DecidableEq

/-- An internal stop, with the buffer, comes before the firm's limit. -/
def internalBelowFirm (internal buffer firm : Rat) : Except String Unit :=
  ensure (0 < internal ∧ firm ≤ 100 ∧ internal + buffer < firm)
    "internal stop plus buffer must be below firm limit"

/-- From level to level the threshold rises and the multiplier does not. -/
def tightens {Threshold : Type} [LT Threshold] (levels : List (Threshold × Rat)) : Prop :=
  levels.IsChain fun earlier later => earlier.1 < later.1 ∧ later.2 ≤ earlier.2

instance {Threshold : Type} [LT Threshold] [DecidableLT Threshold] (levels : List (Threshold × Rat)) :
    Decidable (tightens levels) := by
  unfold tightens
  infer_instance

def RiskPolicy.validate (zones : Zones) (policy : RiskPolicy) : Except String Unit := do
  ensure (policy.version ≠ "") "policy version required"
  ensure (0 < policy.execution.maxDataAgeSeconds) "data age must be positive"
  ensure (0 ≤ policy.execution.slippageBufferPctOfRisk ∧ policy.execution.slippageBufferPctOfRisk ≤ 1000)
    "invalid slippage buffer"
  ensure (1 ≤ policy.execution.overlapMultiplier ∧ policy.execution.overlapMultiplier ≤ 100)
    "overlap multiplier must be 1..100"
  ensure (0 < policy.baseRiskPct ∧ policy.baseRiskPct ≤ 100) "invalid base risk"
  ensure (0 ≤ policy.safetyBufferPct) "negative safety buffer"
  internalBelowFirm policy.internalDailyStopPct policy.safetyBufferPct policy.dailyLossLimitPct
  internalBelowFirm policy.internalAccountStopPct policy.safetyBufferPct policy.maxAccountLossPct
  let streak := policy.streakBackoff.levels
  ensure (∃ first ∈ streak.head?, first.1 = 0 ∧ first.2 ≤ 1) "streak schedule must start at zero"
  ensure ((∀ level ∈ streak, 0 ≤ level.2 ∧ level.2 ≤ 1) ∧ tightens streak)
    "streak schedule must tighten"
  let drawdown := policy.drawdownBackoff.levels
  ensure (∃ first ∈ drawdown.head?, first.1 = 0) "drawdown schedule must start at zero"
  ensure ((∀ level ∈ drawdown, 0 ≤ level.1 ∧ level.1 ≤ 100 ∧ 0 ≤ level.2 ∧ level.2 ≤ 100) ∧
    tightens drawdown) "drawdown schedule must tighten"
  policy.calendar.validate zones

/-- The value of the last level whose threshold is reached; before the first there is none. -/
def levelValue {Threshold : Type} [LE Threshold] [DecidableLE Threshold]
    (levels : List (Threshold × Rat)) (reached : Threshold) : Rat :=
  ((levels.reverse.find? fun level => level.1 ≤ reached).map Prod.snd).getD 0

def RiskPolicy.streakMultiplier (policy : RiskPolicy) (losses : Nat) : Rat :=
  if policy.streakBackoff.enabled then levelValue policy.streakBackoff.levels losses else 1

def RiskPolicy.drawdownRiskPct (policy : RiskPolicy) (drawdown : Rat) : Rat :=
  if policy.drawdownBackoff.enabled then levelValue policy.drawdownBackoff.levels drawdown
  else policy.baseRiskPct

/-- What the stops and the sizing rest on in a policy that passed its check. -/
structure RiskPolicy.Sound (policy : RiskPolicy) : Prop where
  slippage : 0 ≤ policy.execution.slippageBufferPctOfRisk
  overlap : 1 ≤ policy.execution.overlapMultiplier
  buffer : 0 ≤ policy.safetyBufferPct
  daily : policy.internalDailyStopPct + policy.safetyBufferPct < policy.dailyLossLimitPct
  account : policy.internalAccountStopPct + policy.safetyBufferPct < policy.maxAccountLossPct

theorem RiskPolicy.validate_sound {zones : Zones} {policy : RiskPolicy}
    (valid : policy.validate zones = .ok ()) : policy.Sound := by
  unfold validate internalBelowFirm at valid
  simp only [bind_ok, ensure_ok, exists_const] at valid
  obtain ⟨_, _, ⟨slippage, _⟩, ⟨overlap, _⟩, _, buffer, ⟨_, _, daily⟩, ⟨_, _, account⟩, _⟩ := valid
  exact ⟨slippage, overlap, buffer, daily, account⟩

/-- The calendar's day at an instant holds the instant. -/
theorem TradingCalendar.dayAt_mem {zones : Zones} {calendar : TradingCalendar} {now : Int}
    {day : TradingDay} (known : calendar.dayAt zones now = .ok day) :
    day.start ≤ now ∧ now < day.ending := by
  unfold dayAt at known
  simp only [bind_ok, ensure_ok, pure_ok, exists_const] at known
  obtain ⟨_, _, _, _, within, rfl⟩ := known
  exact within

/-- The dates' days begin at different instants: a day is told by its start. -/
theorem TradingCalendar.dayAt_start {zones : Zones} {calendar : TradingCalendar} {now now' : Int}
    {day day' : TradingDay} (known : calendar.dayAt zones now = .ok day)
    (known' : calendar.dayAt zones now' = .ok day') (same : day.start = day'.start) : day = day' := by
  have dated : ∀ {now day}, calendar.dayAt zones now = .ok day → ∃ date,
      calendar.boundary zones date = .ok day.start ∧ calendar.boundary zones (date + 1) = .ok day.ending := by
    intro now day known
    unfold dayAt at known
    simp only [bind_ok, ensure_ok, pure_ok, exists_const] at known
    obtain ⟨_, begins, _, ends, _, rfl⟩ := known
    exact ⟨_, begins, ends⟩
  have wall : ∀ {date instant}, calendar.boundary zones date = .ok instant →
      (zones calendar.timezone).wallTime instant = date * dayLength + calendar.resetTime := by
    intro date instant begins
    unfold boundary at begins
    split at begins
    next found =>
      cases begins
      exact (zones calendar.timezone).wallTime_single found
    · cases begins
  obtain ⟨date, begins, ends⟩ := dated known
  obtain ⟨date', begins', ends'⟩ := dated known'
  have walls := wall begins
  rw [same, wall begins'] at walls
  have dates : date = date' := by
    have length : dayLength = 86400000000000 := by decide
    rw [length] at walls
    omega
  subst dates
  have ending : day.ending = day'.ending := Except.ok.inj (ends.symm.trans ends')
  cases day
  cases day'
  exact TradingDay.mk.injEq .. |>.mpr ⟨same, ending⟩

end TradeControl.AdaptiveRisk
