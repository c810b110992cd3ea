import TradeControl.SnapGeometry

namespace TradeControl

/-- The book's geometry of an M/W setup. -/
def MwParams.rawGeometry (direction : Direction) (mw : MwParams) : RawGeometry :=
  let (entry, stopLoss, takeProfit) := mwStaticPrices direction mw
  { pipSize := mw.pipSize, direction, entry := .stop entry, stopLoss, takeProfit, recoverEntry := none }

/-- The distance from the entry to the stop by the book: one R. -/
def MwParams.bookDistance (direction : Direction) (mw : MwParams) : Rat :=
  direction.sign * (mw.neckline - mw.firstPoint) + mw.spreadPips * mw.pipSize + 3 / 2 * mw.pipSize

/-- The setup resolves to an order whose stop is at least the book's distance away and whose target is one R. -/
def MwPlaced (rules : Rules) (intent : Intent) (shell : Shell) (direction : Direction) (mw : MwParams) (tick : Rat) :
    Prop :=
  ∃ resolved, Resolved.fromMwIntent rules intent shell mw tick = .ok resolved ∧
    mw.bookDistance direction ≤ |resolved.entry.referencePrice - resolved.stopLoss| ∧
    |resolved.takeProfit - resolved.entry.referencePrice| = |resolved.entry.referencePrice - resolved.stopLoss|

/-- The entry's move toward the stop is midway between the stop's move away and the target's move toward the entry,
and no more than the stop's. -/
structure RawGeometry.MovesEvenly (raw : RawGeometry) (tick : Rat) : Prop where
  entry : raw.entryMove tick ≤ raw.stopMove tick
  midway : raw.stopMove tick + raw.targetMove tick = 2 * raw.entryMove tick

/-- The price is on the grid if the snap takes it to be. -/
def OffDust (price tick : Rat) : Prop := TakenWhole (price / tick) → ∃ n : Int, price / tick = n

/-- In ticks, how far the entry is past its nearest line on the side of the target. -/
def RawGeometry.entryExcess (raw : RawGeometry) (tick : Rat) : Rat :=
  raw.direction.sign * (raw.price / tick) - roundHalfAwayInt (raw.direction.sign * (raw.price / tick))

/-- In ticks, how far the stop is past the line on the side away from the entry. -/
def RawGeometry.stopExcess (raw : RawGeometry) (tick : Rat) : Rat :=
  Int.fract (raw.direction.sign * (raw.stopLoss / tick))

section
variable {rules : Rules} {intent : Intent} {shell : Shell} {direction : Direction} {mw : MwParams} {tick : Rat}

theorem fromMwIntent_eq (given : intent.direction = some direction)
    (armed : mwArmed direction shell mw (mw.rawGeometry direction).price = true) :
    Resolved.fromMwIntent rules intent shell mw tick = (mw.rawGeometry direction).finish tick rules intent shell := by
  unfold Resolved.fromMwIntent
  rw [given]
  exact if_pos armed

theorem mwGeometry_risk : (mw.rawGeometry direction).risk = mw.bookDistance direction := by
  cases direction <;>
    simp only [RawGeometry.risk, MwParams.rawGeometry, mwStaticPrices, RawGeometry.price, ResolvedEntry.referencePrice,
      MwParams.bookDistance, Direction.sign] <;> ring

theorem mwGeometry_reward : (mw.rawGeometry direction).reward = mw.bookDistance direction := by
  cases direction <;>
    simp only [RawGeometry.reward, MwParams.rawGeometry, mwStaticPrices, RawGeometry.price, ResolvedEntry.referencePrice,
      MwParams.bookDistance, Direction.sign] <;> ring

theorem snappedRisk (raw : RawGeometry) (tick : Rat) :
    raw.direction.sign * (raw.snappedEntry tick - raw.snappedStop tick) =
      raw.risk - raw.entryMove tick + raw.stopMove tick := by
  unfold RawGeometry.risk RawGeometry.entryMove RawGeometry.stopMove
  ring

theorem snappedReward (raw : RawGeometry) (tick : Rat) :
    raw.direction.sign * (raw.snappedTarget tick - raw.snappedEntry tick) =
      raw.reward - raw.targetMove tick + raw.entryMove tick := by
  unfold RawGeometry.reward RawGeometry.entryMove RawGeometry.targetMove
  ring

/-- An armed setup is placed by the book exactly if its prices move evenly. -/
theorem mwPlaced_iff_movesEvenly (given : intent.direction = some direction) (defaultFloor : intent.minR = none)
    (far : 0 < mw.bookDistance direction)
    (armed : mwArmed direction shell mw (mw.rawGeometry direction).price = true)
    (oneMode : (intent.riskAmount.isSome && intent.sizeUnits.isSome) = false)
    (budget : checkRisk rules intent shell ((mw.rawGeometry direction).snapshot tick intent) mw.pipSize = .ok ()) :
    MwPlaced rules intent shell direction mw tick ↔ (mw.rawGeometry direction).MovesEvenly tick := by
  have risk := snappedRisk (mw.rawGeometry direction) tick
  have reward := snappedReward (mw.rawGeometry direction) tick
  rw [mwGeometry_risk] at risk
  rw [mwGeometry_reward] at reward
  unfold MwPlaced
  rw [fromMwIntent_eq given armed]
  constructor
  · rintro ⟨resolved, resolves, book, oneR⟩
    obtain ⟨ordered, minR, _, _, rfl⟩ := finish_ok_iff.mp resolves
    obtain ⟨riskSide, rewardSide⟩ := (ordered_iff _ _).mp ordered
    have stop := sign_mul_abs riskSide
    have target := sign_mul_abs rewardSide
    change _ ≤ |(mw.rawGeometry direction).snappedEntry tick - (mw.rawGeometry direction).snappedStop tick| at book
    change |(mw.rawGeometry direction).snappedTarget tick - (mw.rawGeometry direction).snappedEntry tick| =
      |(mw.rawGeometry direction).snappedEntry tick - (mw.rawGeometry direction).snappedStop tick| at oneR
    rw [stop, risk] at book
    rw [stop, target, risk, reward] at oneR
    exact ⟨by linarith, by linarith⟩
  · rintro ⟨entry, midway⟩
    have riskSide : 0 < direction.sign * ((mw.rawGeometry direction).snappedEntry tick -
        (mw.rawGeometry direction).snappedStop tick) := by
      change 0 < (mw.rawGeometry direction).direction.sign * _
      rw [risk]
      linarith
    have rewardSide : 0 < direction.sign * ((mw.rawGeometry direction).snappedTarget tick -
        (mw.rawGeometry direction).snappedEntry tick) := by
      change 0 < (mw.rawGeometry direction).direction.sign * _
      rw [reward]
      linarith
    have ordered : (mw.rawGeometry direction).Ordered tick := (ordered_iff _ _).mpr ⟨riskSide, rewardSide⟩
    have clears : (mw.rawGeometry direction).Clears tick minRFloor := by
      unfold RawGeometry.Clears minRFloor
      rw [mwGeometry_risk, mwGeometry_reward]
      linarith
    have floor : (mw.rawGeometry direction).effectiveMinR tick rules intent shell = .ok minRFloor := by
      unfold RawGeometry.effectiveMinR
      rw [defaultFloor]
    have stop : |(mw.rawGeometry direction).snappedEntry tick - (mw.rawGeometry direction).snappedStop tick| =
        mw.bookDistance direction - (mw.rawGeometry direction).entryMove tick +
          (mw.rawGeometry direction).stopMove tick := (sign_mul_abs riskSide).trans risk
    have target : |(mw.rawGeometry direction).snappedTarget tick - (mw.rawGeometry direction).snappedEntry tick| =
        mw.bookDistance direction - (mw.rawGeometry direction).targetMove tick +
          (mw.rawGeometry direction).entryMove tick := (sign_mul_abs rewardSide).trans reward
    refine ⟨_, finish_ok_iff.mpr ⟨ordered, minRFloor, ⟨oneMode, floor, le_rfl, budget⟩,
      (clears_iff ordered).mpr clears, rfl⟩, ?_, ?_⟩
    · change _ ≤ |(mw.rawGeometry direction).snappedEntry tick - (mw.rawGeometry direction).snappedStop tick|
      rw [stop]
      linarith
    · change |(mw.rawGeometry direction).snappedTarget tick - (mw.rawGeometry direction).snappedEntry tick| =
        |(mw.rawGeometry direction).snappedEntry tick - (mw.rawGeometry direction).snappedStop tick|
      rw [stop, target]
      linarith

theorem OffDust.snapSteps_down {price tick : Rat} (clean : OffDust price tick) :
    snapSteps .down (price / tick) = ⌊price / tick⌋ := by
  by_cases whole : TakenWhole (price / tick)
  · obtain ⟨n, steps⟩ := clean whole
    rw [steps, snapSteps_intCast, Int.floor_intCast]
  · exact if_neg whole

theorem OffDust.neg {price tick : Rat} (clean : OffDust price tick) : OffDust (-price) tick := by
  intro whole
  rw [neg_div] at whole
  obtain ⟨n, steps⟩ := clean (takenWhole_neg.mp whole)
  exact ⟨-n, by rw [neg_div, steps]; push_cast; rfl⟩

/-- Off the dust a snap down loses the fraction of a step. -/
theorem WholeTick.down_fract {price tick : Rat} (whole : WholeTick tick) (positive : 0 < tick)
    (clean : OffDust price tick) : price - roundToTick price tick .down = Int.fract (price / tick) * tick := by
  rw [whole.roundToTick_eq positive, clean.snapSteps_down, Int.fract, sub_mul, div_mul_cancel₀ _ positive.ne']

theorem WholeTick.up_fract {price tick : Rat} (whole : WholeTick tick) (positive : 0 < tick)
    (clean : OffDust price tick) : roundToTick price tick .up - price = Int.fract (-(price / tick)) * tick := by
  have down := clean.neg.snapSteps_down
  rw [neg_div] at down
  rw [whole.roundToTick_eq positive, snapSteps_up, down, Int.fract]
  push_cast
  rw [sub_mul, neg_mul, neg_mul, div_mul_cancel₀ _ positive.ne']
  ring

theorem roundPrice_value (whole : WholeTick tick) (positive : 0 < tick) (price : Rat) :
    roundPrice price tick = roundHalfAwayInt (price / tick) * tick := by
  unfold roundPrice
  rw [whole.roundToTick_eq positive]
  unfold snapSteps
  split <;> rfl

theorem roundPrice_near (whole : WholeTick tick) (positive : 0 < tick) (price : Rat) :
    |price - roundPrice price tick| ≤ tick / 2 := by
  have near := abs_sub_roundHalfAwayInt_le (price / tick)
  have offset : price - roundPrice price tick = (price / tick - roundHalfAwayInt (price / tick)) * tick := by
    rw [roundPrice_value whole positive, sub_mul, div_mul_cancel₀ _ positive.ne']
  rw [offset, abs_mul, abs_of_pos positive]
  have scaled := mul_le_mul_of_nonneg_right near positive.le
  linarith

theorem bookDistance_far (pips : 0 < mw.pipSize) (spread : 0 ≤ mw.spreadPips)
    (side : 0 < direction.sign * (mw.neckline - mw.firstPoint)) : mw.pipSize < mw.bookDistance direction := by
  have cost : 0 ≤ mw.spreadPips * mw.pipSize := mul_nonneg spread pips.le
  unfold MwParams.bookDistance
  linarith

theorem entryMove_eq (whole : WholeTick tick) (positive : 0 < tick) (raw : RawGeometry) :
    raw.entryMove tick = raw.entryExcess tick * tick := by
  have value := roundPrice_value whole positive raw.price
  unfold RawGeometry.entryMove RawGeometry.entryExcess
  rw [snappedEntry_eq, value]
  cases raw.direction with
  | long =>
    simp only [Direction.sign, one_mul]
    rw [sub_mul, div_mul_cancel₀ _ positive.ne']
  | short =>
    simp only [Direction.sign, neg_mul, one_mul]
    rw [roundHalfAwayInt_neg, sub_mul, neg_mul, div_mul_cancel₀ _ positive.ne']
    push_cast
    ring

theorem entryExcess_le (raw : RawGeometry) (tick : Rat) : raw.entryExcess tick ≤ 1 / 2 :=
  (abs_le.mp (abs_sub_roundHalfAwayInt_le _)).2

/-- The stop is on its side of the snapped entry too, and so is moved away from it. -/
theorem stopMove_eq (whole : WholeTick tick) (positive : 0 < tick) {raw : RawGeometry} (far : tick / 2 < raw.risk)
    (clean : OffDust raw.stopLoss tick) : raw.stopMove tick = raw.stopExcess tick * tick := by
  have near := abs_le.mp (roundPrice_near whole positive raw.price)
  rw [← snappedEntry_eq] at near
  unfold RawGeometry.risk at far
  unfold RawGeometry.stopMove RawGeometry.stopExcess RawGeometry.snappedStop roundStopLoss
  cases direction : raw.direction with
  | long =>
    simp only [direction, Direction.sign, one_mul] at far ⊢
    rw [if_pos (by linarith), whole.down_fract positive clean]
  | short =>
    simp only [direction, Direction.sign, neg_mul, one_mul, neg_sub] at far ⊢
    rw [if_neg (by linarith), whole.up_fract positive clean]

theorem targetMove_eq (whole : WholeTick tick) (positive : 0 < tick) {raw : RawGeometry} (far : tick / 2 < raw.reward)
    (clean : OffDust raw.takeProfit tick) :
    raw.targetMove tick = Int.fract (raw.direction.sign * (raw.takeProfit / tick)) * tick := by
  have near := abs_le.mp (roundPrice_near whole positive raw.price)
  rw [← snappedEntry_eq] at near
  unfold RawGeometry.reward at far
  unfold RawGeometry.targetMove RawGeometry.snappedTarget roundTakeProfit
  cases direction : raw.direction with
  | long =>
    simp only [direction, Direction.sign, one_mul] at far ⊢
    rw [if_pos (by linarith), whole.down_fract positive clean]
  | short =>
    simp only [direction, Direction.sign, neg_mul, one_mul, neg_sub] at far ⊢
    rw [if_neg (by linarith), whole.up_fract positive clean]

/-- A target at one R is past its line by twice the entry's excess less the stop's. -/
theorem targetExcess_eq {raw : RawGeometry} (oneR : raw.reward = raw.risk) (tick : Rat) :
    Int.fract (raw.direction.sign * (raw.takeProfit / tick)) =
      Int.fract (2 * raw.entryExcess tick - raw.stopExcess tick) := by
  have mirrored : raw.direction.sign * raw.takeProfit =
      2 * (raw.direction.sign * raw.price) - raw.direction.sign * raw.stopLoss := by
    unfold RawGeometry.reward RawGeometry.risk at oneR
    linarith
  have steps : raw.direction.sign * (raw.takeProfit / tick) =
      2 * raw.entryExcess tick - raw.stopExcess tick +
        ((2 * roundHalfAwayInt (raw.direction.sign * (raw.price / tick)) -
          ⌊raw.direction.sign * (raw.stopLoss / tick)⌋ : Int) : Rat) := by
    unfold RawGeometry.entryExcess RawGeometry.stopExcess Int.fract
    push_cast
    rw [← mul_div_assoc, mirrored]
    ring
  rw [steps, Int.fract_add_intCast]

/-- On the grid of a whole tick a target at one R moves evenly exactly if the stop is past its line by no less than
the entry and by no more than twice that. -/
theorem movesEvenly_iff (whole : WholeTick tick) (positive : 0 < tick) {raw : RawGeometry} (oneR : raw.reward = raw.risk)
    (far : tick / 2 < raw.risk) (stop : OffDust raw.stopLoss tick) (target : OffDust raw.takeProfit tick) :
    raw.MovesEvenly tick ↔
      raw.entryExcess tick ≤ raw.stopExcess tick ∧ raw.stopExcess tick ≤ 2 * raw.entryExcess tick := by
  have entryMove := entryMove_eq whole positive raw
  have stopMove := stopMove_eq whole positive far stop
  have targetMove := targetMove_eq whole positive (oneR ▸ far) target
  rw [targetExcess_eq oneR] at targetMove
  have half := entryExcess_le raw tick
  constructor
  · rintro ⟨entry, midway⟩
    rw [entryMove, stopMove] at entry
    rw [entryMove, stopMove, targetMove, ← add_mul, ← mul_assoc] at midway
    have past := Int.fract_nonneg (2 * raw.entryExcess tick - raw.stopExcess tick)
    have even := mul_right_cancel₀ positive.ne' midway
    exact ⟨le_of_mul_le_mul_right entry positive, by linarith⟩
  · rintro ⟨least, most⟩
    have kept : Int.fract (2 * raw.entryExcess tick - raw.stopExcess tick) =
        2 * raw.entryExcess tick - raw.stopExcess tick := Int.fract_eq_self.mpr ⟨by linarith, by linarith⟩
    rw [kept] at targetMove
    constructor
    · rw [entryMove, stopMove]
      exact mul_le_mul_of_nonneg_right least positive.le
    · rw [entryMove, stopMove, targetMove]
      ring

/-- An armed setup is placed by the book exactly if the grid moves its prices evenly. On the grid of a whole tick, and
off its dust, this is up to how far the entry and the stop are past their lines. -/
theorem mwPlaced_iff (pips : 0 < mw.pipSize) (spread : 0 ≤ mw.spreadPips)
    (side : 0 < direction.sign * (mw.neckline - mw.firstPoint)) (positive : 0 < tick) (fine : tick ≤ mw.pipSize)
    (given : intent.direction = some direction) (defaultFloor : intent.minR = none)
    (armed : mwArmed direction shell mw (mw.rawGeometry direction).price = true)
    (oneMode : (intent.riskAmount.isSome && intent.sizeUnits.isSome) = false)
    (budget : checkRisk rules intent shell ((mw.rawGeometry direction).snapshot tick intent) mw.pipSize = .ok ()) :
    (MwPlaced rules intent shell direction mw tick ↔ (mw.rawGeometry direction).MovesEvenly tick) ∧
      (WholeTick tick → OffDust (mw.rawGeometry direction).stopLoss tick →
        OffDust (mw.rawGeometry direction).takeProfit tick →
        (MwPlaced rules intent shell direction mw tick ↔
          (mw.rawGeometry direction).entryExcess tick ≤ (mw.rawGeometry direction).stopExcess tick ∧
            (mw.rawGeometry direction).stopExcess tick ≤ 2 * (mw.rawGeometry direction).entryExcess tick)) := by
  have far := bookDistance_far pips spread side
  have placed := mwPlaced_iff_movesEvenly given defaultFloor (pips.trans far) armed oneMode budget
  refine ⟨placed, fun whole stop target => placed.trans ?_⟩
  refine movesEvenly_iff whole positive (mwGeometry_reward.trans mwGeometry_risk.symm) ?_ stop target
  rw [mwGeometry_risk]
  linarith

end

/-- A double bottom a hundred pips below its neckline. -/
def doubleBottom (spreadPips : Rat) : MwParams where
  neckline := 11 / 10
  firstPoint := 109 / 100
  runupStart := 112 / 100
  rightShoulder := none
  spreadPips
  pipSize := 1 / 10000

def bottomLong (spreadPips : Rat) : Intent where
  id := "setup-1"
  notAfter := 0
  instrument := "EUR_USD"
  direction := some .long
  mw := some (doubleBottom spreadPips)

/-- A bar from the low of the bottom to just below its neckline. -/
def upBar : Shell where
  time := 0
  high := 10995 / 10000
  low := 109 / 100
  close := 1099 / 1000

/-- At a spread of twelve tenths of a pip all prices are on the grid of tenths. -/
theorem mwPlaced_evenSpread :
    MwPlaced scriptless (bottomLong (12 / 10)) upBar .long (doubleBottom (12 / 10)) (1 / 100000) := by
  have whole : WholeTick (1 / 100000) := ⟨1, by decide +kernel⟩
  have stop : OffDust ((doubleBottom (12 / 10)).rawGeometry .long).stopLoss (1 / 100000) :=
    fun _ => ⟨108984, by decide +kernel⟩
  have target : OffDust ((doubleBottom (12 / 10)).rawGeometry .long).takeProfit (1 / 100000) :=
    fun _ => ⟨111038, by decide +kernel⟩
  exact ((mwPlaced_iff (by decide +kernel) (by decide +kernel) (by decide +kernel) (by decide +kernel)
    (by decide +kernel) rfl rfl (by decide +kernel) rfl (by decide +kernel)).2 whole stop target).mpr (by decide +kernel)

/-- At thirteen tenths the entry and the stop are half a tick off, and the armed setup is rejected for its ratio. -/
theorem mwPlaced_oddSpread :
    mwArmed .long upBar (doubleBottom (13 / 10)) ((doubleBottom (13 / 10)).rawGeometry .long).price = true ∧
      Resolved.fromMwIntent scriptless (bottomLong (13 / 10)) upBar (doubleBottom (13 / 10)) (1 / 100000) =
        .error (.belowMinR (1027 / 1029) 1) ∧
      ¬ MwPlaced scriptless (bottomLong (13 / 10)) upBar .long (doubleBottom (13 / 10)) (1 / 100000) := by
  have rejected : Resolved.fromMwIntent scriptless (bottomLong (13 / 10)) upBar (doubleBottom (13 / 10)) (1 / 100000) =
      .error (.belowMinR (1027 / 1029) 1) := by decide +kernel
  refine ⟨by decide +kernel, rejected, ?_⟩
  rintro ⟨resolved, resolves, _⟩
  rw [rejected] at resolves
  cases resolves

end TradeControl
