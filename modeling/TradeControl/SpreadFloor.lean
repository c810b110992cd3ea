import Mathlib.Algebra.Order.Round
import Mathlib.Data.Rat.Floor

namespace TradeControl

/-- `f64::round`: to the nearest integer, halves away from zero. -/
def roundHalfAwayInt (x : Rat) : Int := if 0 ≤ x then ⌊x + 1 / 2⌋ else ⌈x - 1 / 2⌉

inductive RoundDir
  | nearest
  | down
  | up
  deriving DecidableEq

def stepEpsilon : Rat := 1 / 1000000000

/-- `round(-log10(tick))`, clamped to 0..12. -/
def tickDecimalPlaces (tick : Rat) : Nat :=
  ((List.range 13).find? fun places => 1 ≤ tick ^ 2 * 10 ^ (2 * places + 1)).getD 12

def roundHalfAway (value : Rat) (places : Nat) : Rat :=
  roundHalfAwayInt (value * 10 ^ places) / 10 ^ places

/-- Steps of the grid, with a count already next to a whole number taken as whole. -/
def gridSteps (price tick : Rat) : Rat :=
  let steps := price / tick
  let nearest : Rat := roundHalfAwayInt steps
  if |steps - nearest| ≤ stepEpsilon * max |steps| 1 then nearest else steps

def roundToTick (price tick : Rat) (dir : RoundDir) : Rat :=
  if tick ≤ 0 then price
  else
    let steps := gridSteps price tick
    let snapped : Int := match dir with
      | .nearest => roundHalfAwayInt steps
      | .down => ⌊steps⌋
      | .up => ⌈steps⌉
    roundHalfAway (snapped * tick) (tickDecimalPlaces tick)

def roundPrice (price tick : Rat) : Rat := roundToTick price tick .nearest

/-- Away from the entry: a stop is never tightened. -/
def roundStopLoss (stopLoss entry tick : Rat) : Rat :=
  roundToTick stopLoss tick (if stopLoss ≤ entry then .down else .up)

/-- Towards the entry: the advertised reward is never inflated. -/
def roundTakeProfit (takeProfit entry tick : Rat) : Rat :=
  roundToTick takeProfit tick (if entry ≤ takeProfit then .down else .up)

def minRFloor : Rat := 1

def slMinSpreadMultiple : Rat := 10

/-- The stop sits closer to the entry than ten spreads. -/
def slSpreadFloorViolation (slDistance spread : Rat) : Bool :=
  0 < spread && slDistance < slMinSpreadMultiple * spread

inductive SlWiden
  | unchanged
  | widened (newStopLoss newSlDistance newR : Rat)
  | reject (widenedStopLoss widenedSlDistance rAtWiden minR : Rat)
  deriving DecidableEq

/-- Move a stop the spread would swamp out to ten spreads, if the trade still
holds its reward ratio there. -/
def widenSlToSpreadFloor (entryPrice stopLoss takeProfit spread minR tickSize : Rat) : SlWiden :=
  if !slSpreadFloorViolation |entryPrice - stopLoss| spread then .unchanged
  else
    let rawDistance := slMinSpreadMultiple * spread
    let rawStopLoss :=
      if entryPrice ≤ stopLoss then entryPrice + rawDistance else entryPrice - rawDistance
    let newStopLoss := roundStopLoss rawStopLoss entryPrice tickSize
    let widenedDistance :=
      if newStopLoss = rawStopLoss then rawDistance else |entryPrice - newStopLoss|
    let tpDistance := |takeProfit - entryPrice|
    -- a stop on the entry has no reward ratio at all
    if 0 < widenedDistance ∧ minR ≤ tpDistance / widenedDistance then
      .widened newStopLoss widenedDistance (tpDistance / widenedDistance)
    else .reject newStopLoss widenedDistance (tpDistance / widenedDistance) minR

structure SpreadInputs where
  lastCandle : Rat
  expectedThisHour : Rat
  expectedNextHour : Rat
  deriving DecidableEq

def SpreadInputs.expected (spreads : SpreadInputs) : Rat :=
  max (max 0 spreads.expectedThisHour) spreads.expectedNextHour

def SpreadInputs.worst (spreads : SpreadInputs) : Rat :=
  max (max spreads.lastCandle 0) spreads.expected

inductive SlAction
  | widen
  | shrink
  | hold
  | belowMinR
  deriving DecidableEq

structure SlTarget where
  desiredSlDistance : Rat
  action : SlAction
  deriving DecidableEq

def relativeEpsilon : Rat := 1 / 1000000000

/-- Two distances the order-control passes treat as one. -/
def sameDistance (a b : Rat) : Bool := |a - b| ≤ relativeEpsilon * max (max |a| |b|) 1

def slTarget (spreads : SpreadInputs) (originalSlDistance currentSlDistance tpDistance minR : Rat) :
    SlTarget :=
  if originalSlDistance ≤ 0 then ⟨originalSlDistance, .hold⟩
  else
    let desired := max (slMinSpreadMultiple * spreads.worst) originalSlDistance
    if tpDistance / desired < minR then ⟨desired, .belowMinR⟩
    else if currentSlDistance ≤ 0 then ⟨desired, .hold⟩
    else if sameDistance desired currentSlDistance then ⟨desired, .hold⟩
    else ⟨desired, if currentSlDistance < desired then .widen else .shrink⟩

end TradeControl
