import Mathlib.Tactic.FieldSimp
import Mathlib.Tactic.Linarith
import TradeControl.Reprice

namespace TradeControl

/-- The widest of ten of the worst spread and the drawn distance. -/
def neededDistance (spreads : SpreadInputs) (original : Rat) : Rat :=
  max (slMinSpreadMultiple * spreads.worst) original

section Verdicts

variable {spreads : SpreadInputs} {original current target minR : Rat}

theorem slTarget_belowMinR_iff :
    (slTarget spreads original current target minR).action = .belowMinR ↔
      0 < original ∧ target / neededDistance spreads original < minR := by
  unfold slTarget neededDistance
  by_cases degenerate : original ≤ 0
  · simp [degenerate]
  · rw [if_neg degenerate]
    dsimp only
    by_cases poor : target / max (slMinSpreadMultiple * spreads.worst) original < minR
    · rw [if_pos poor]
      simp only [poor, and_true, not_le.mp degenerate]
    · rw [if_neg poor]
      split
      · simp [poor]
      · split
        · simp [poor]
        · dsimp only
          split <;> simp [poor]

/-- A stop is only ever moved to the needed distance, where the trade still holds its reward ratio. -/
theorem slTarget_moves (moves : (slTarget spreads original current target minR).action = .widen ∨
      (slTarget spreads original current target minR).action = .shrink) :
    (slTarget spreads original current target minR).desiredSlDistance = neededDistance spreads original ∧
      0 < original ∧ minR ≤ target / neededDistance spreads original := by
  unfold slTarget at moves ⊢
  unfold neededDistance
  by_cases degenerate : original ≤ 0
  · simp [degenerate] at moves
  · rw [if_neg degenerate] at moves ⊢
    dsimp only at moves ⊢
    by_cases poor : target / max (slMinSpreadMultiple * spreads.worst) original < minR
    · simp [poor] at moves
    · rw [if_neg poor] at moves ⊢
      split
      · next unknown => simp [unknown] at moves
      · split
        · next known same => simp [same] at moves
        · exact ⟨rfl, not_le.mp degenerate, not_lt.mp poor⟩

theorem pendingAction_demote_iff {verdict : SlTarget} {budget : RiskBudget} :
    pendingAction verdict current budget = .demote ↔ verdict.action = .belowMinR := by
  unfold pendingAction
  cases verdict.action with
  | belowMinR | hold => simp
  | widen | shrink =>
    dsimp only
    split
    · simp
    · split <;> simp

/-- Stop and stake are moved together, at the risk of the budget. -/
theorem pendingAction_adjust {verdict : SlTarget} {budget : RiskBudget} {distance stake : Rat}
    (adjusts : pendingAction verdict current budget = .adjust distance stake) :
    (verdict.action = .widen ∨ verdict.action = .shrink) ∧ distance = verdict.desiredSlDistance ∧
      0 < distance ∧ stake * distance = budget.amount := by
  have sized (usable : ¬(verdict.desiredSlDistance ≤ 0 ∨ sameDistance verdict.desiredSlDistance current = true))
      {size : Rat} (sizing : stakeFor budget verdict.desiredSlDistance = some size) :
      0 < verdict.desiredSlDistance ∧ size * verdict.desiredSlDistance = budget.amount := by
    have positive := not_le.mp (not_or.mp usable).1
    refine ⟨positive, ?_⟩
    unfold stakeFor at sizing
    split at sizing
    · cases sizing
    · obtain rfl := Option.some.inj sizing
      exact div_mul_cancel₀ _ positive.ne'
  unfold pendingAction at adjusts
  cases action : verdict.action with
  | belowMinR | hold => simp [action] at adjusts
  | widen | shrink =>
    rw [action] at adjusts
    dsimp only at adjusts
    split at adjusts
    · cases adjusts
    next usable =>
      split at adjusts
      next size sizing =>
        obtain ⟨rfl, rfl⟩ := PendingAction.adjust.inj adjusts
        exact ⟨by simp, rfl, sized usable sizing⟩
      next => cases adjusts

end Verdicts

/-- A resting order is pulled exactly where the needed stop costs the reward ratio, and otherwise moved to that
stop at the risk it was placed with, or left alone. -/
theorem restingOrder_verdict {attempt : EntryAttempt} {order : BrokerOrder} {geometry : Geometry}
    (read : geometryOf attempt order = some geometry) (spreads : SpreadInputs) :
    (geometry.action spreads = .demote ↔ 0 < geometry.originalSlDistance ∧
        geometry.tpDistance / neededDistance spreads geometry.originalSlDistance < geometry.minR) ∧
      (∀ distance stake, geometry.action spreads = .adjust distance stake →
        distance = neededDistance spreads geometry.originalSlDistance ∧
          geometry.originalSlDistance ≤ distance ∧ geometry.minR ≤ geometry.tpDistance / distance ∧
          stake * distance = order.stake * geometry.currentSlDistance) ∧
      (geometry.action spreads = .demote ∨ (∃ distance stake, geometry.action spreads = .adjust distance stake) ∨
        geometry.action spreads = .hold) := by
  have budget : geometry.budget.amount = order.stake * geometry.currentSlDistance := by
    unfold geometryOf at read
    obtain ⟨snapshot, -, read⟩ := Option.bind_eq_some_iff.mp read
    obtain ⟨placedStop, -, read⟩ := Option.bind_eq_some_iff.mp read
    dsimp only at read
    split at read
    · cases read
    · obtain rfl := Option.some.inj read
      rfl
  refine ⟨pendingAction_demote_iff.trans slTarget_belowMinR_iff, ?_, ?_⟩
  · intro distance stake adjusts
    obtain ⟨moves, moved, -, risk⟩ := pendingAction_adjust adjusts
    obtain ⟨desired, -, ratio⟩ := slTarget_moves moves
    rw [desired] at moved
    subst moved
    exact ⟨rfl, le_max_right _ _, ratio, risk.trans budget⟩
  · cases verdict : geometry.action spreads with
    | hold => exact .inr (.inr rfl)
    | adjust distance stake => exact .inr (.inl ⟨distance, stake, rfl⟩)
    | demote => exact .inl rfl

def drawnRow : EntryAttempt where
  tradeId := "trade-1"
  instrument := "INDEX"
  attemptNo := 1
  brokerOrderId := 0
  brokerTradeId := none
  direction := .long
  placedAt := 0
  shellTime := 0
  expiresAt := 0
  stopLossPrice := some 90
  adverseExtreme := none
  cancelAt := none
  pipSize := none
  orderControl := some ⟨95, 140, 1, none⟩
  superseded := false

def drawnOrder : BrokerOrder where
  id := 0
  setup := "trade-1"
  instrument := "INDEX"
  direction := .long
  trigger := 100
  isStop := true
  stopLoss := some 90
  takeProfit := some 140
  stake := 3
  positionId := 0
  status := .resting

deriving instance DecidableEq for RiskBudget, Geometry

def drawnGeometry : Geometry where
  originalSlDistance := 5
  currentSlDistance := 10
  tpDistance := 40
  minR := 1
  budget := ⟨30⟩
  barSeconds := defaultBarSeconds

/-- Two points of spread: the stop goes out from ten points to twenty, at half the stake. -/
theorem restingOrder_verdict_widened :
    drawnGeometry.action ⟨2, 0, 1⟩ = .adjust 20 (3 / 2) ∧ (1 : Rat) ≤ 40 / 20 ∧ (3 / 2 : Rat) * 20 = 3 * 10 := by
  have read : geometryOf drawnRow drawnOrder = some drawnGeometry := by decide +kernel
  have adjusts : drawnGeometry.action ⟨2, 0, 1⟩ = .adjust 20 (3 / 2) := by decide +kernel
  obtain ⟨-, -, ratio, risk⟩ := (restingOrder_verdict read ⟨2, 0, 1⟩).2.1 20 (3 / 2) adjusts
  exact ⟨adjusts, ratio, risk⟩

section Scale

def SpreadInputs.scaled (factor : Rat) (spreads : SpreadInputs) : SpreadInputs :=
  ⟨factor * spreads.lastCandle, factor * spreads.expectedThisHour, factor * spreads.expectedNextHour⟩

/-- `SlTarget.r`; none where the drawn distance is degenerate. -/
def slTargetR (spreads : SpreadInputs) (original target : Rat) : Option Rat :=
  if original ≤ 0 then none else some (target / neededDistance spreads original)

/-- The verdict on prices in another unit is the verdict in that unit. -/
def ScalesAt (factor : Rat) (spreads : SpreadInputs) (original current target minR : Rat) : Prop :=
  slTarget (spreads.scaled factor) (factor * original) (factor * current) (factor * target) minR =
      ⟨factor * (slTarget spreads original current target minR).desiredSlDistance,
        (slTarget spreads original current target minR).action⟩ ∧
    slTargetR (spreads.scaled factor) (factor * original) (factor * target) = slTargetR spreads original target

variable {factor : Rat} {spreads : SpreadInputs} {original current target minR : Rat}

theorem neededDistance_scaled (positive : 0 < factor) :
    neededDistance (spreads.scaled factor) (factor * original) = factor * neededDistance spreads original := by
  have worst : (spreads.scaled factor).worst = factor * spreads.worst := by
    unfold SpreadInputs.worst SpreadInputs.expected SpreadInputs.scaled
    simp only [mul_max_of_nonneg _ _ positive.le, mul_zero]
  rw [neededDistance, worst, neededDistance, mul_max_of_nonneg _ _ positive.le, mul_left_comm]

/-- The two distances are one within a billionth of the larger of them and `unit`. -/
def WithinEpsilon (unit a b : Rat) : Prop := |a - b| ≤ relativeEpsilon * max (max |a| |b|) unit

instance (unit a b : Rat) : Decidable (WithinEpsilon unit a b) :=
  inferInstanceAs (Decidable (|a - b| ≤ relativeEpsilon * max (max |a| |b|) unit))

theorem sameDistance_iff (a b : Rat) : sameDistance a b = true ↔ WithinEpsilon 1 a b := by
  simp [sameDistance, WithinEpsilon]

theorem sameDistance_scaled_iff (positive : 0 < factor) (a b : Rat) :
    sameDistance (factor * a) (factor * b) = true ↔ WithinEpsilon (1 / factor) a b := by
  have bound : relativeEpsilon * max (max |factor * a| |factor * b|) 1 =
      factor * (relativeEpsilon * max (max |a| |b|) (1 / factor)) := by
    have unit : (1 : Rat) = factor * (1 / factor) := (mul_one_div_cancel positive.ne').symm
    rw [abs_mul, abs_mul, abs_of_pos positive, ← mul_max_of_nonneg _ _ positive.le]
    conv_lhs => rw [unit]
    rw [← mul_max_of_nonneg _ _ positive.le]
    exact mul_left_comm _ _ _
  have gap : |factor * a - factor * b| = factor * |a - b| := by
    rw [← mul_sub, abs_mul, abs_of_pos positive]
  rw [sameDistance_iff, WithinEpsilon, bound, gap, WithinEpsilon]
  exact mul_le_mul_iff_of_pos_left positive

/-- A drawn trade's verdict at the needed distance, without the report of that distance. -/
theorem slTarget_drawn (drawn : 0 < original) :
    slTarget spreads original current target minR =
      ⟨neededDistance spreads original,
        if target / neededDistance spreads original < minR then .belowMinR
        else if current ≤ 0 then .hold
        else if WithinEpsilon 1 (neededDistance spreads original) current then .hold
        else if current < neededDistance spreads original then .widen else .shrink⟩ := by
  unfold slTarget
  rw [if_neg (not_le.mpr drawn)]
  dsimp only
  rw [← neededDistance]
  simp only [sameDistance_iff]
  split
  · rfl
  · split
    · rfl
    · split <;> rfl

theorem slTarget_scaled (positive : 0 < factor) (drawn : 0 < original) :
    slTarget (spreads.scaled factor) (factor * original) (factor * current) (factor * target) minR =
      ⟨factor * neededDistance spreads original,
        if target / neededDistance spreads original < minR then .belowMinR
        else if current ≤ 0 then .hold
        else if WithinEpsilon (1 / factor) (neededDistance spreads original) current then .hold
        else if current < neededDistance spreads original then .widen else .shrink⟩ := by
  have ratio : factor * target / (factor * neededDistance spreads original) =
      target / neededDistance spreads original := mul_div_mul_left _ _ positive.ne'
  have sign : factor * current ≤ 0 ↔ current ≤ 0 := by
    rw [← not_lt, ← not_lt, mul_pos_iff_of_pos_left positive]
  have order : factor * current < factor * neededDistance spreads original ↔
      current < neededDistance spreads original := mul_lt_mul_iff_right₀ positive
  have within := sameDistance_scaled_iff positive (neededDistance spreads original) current
  rw [sameDistance_iff] at within
  rw [slTarget_drawn (mul_pos positive drawn), neededDistance_scaled positive, ratio]
  simp only [sign, within, order]

theorem slTargetR_scaled (positive : 0 < factor) (drawn : 0 < original) :
    slTargetR (spreads.scaled factor) (factor * original) (factor * target) = slTargetR spreads original target := by
  unfold slTargetR
  rw [if_neg (not_le.mpr drawn), if_neg (not_le.mpr (mul_pos positive drawn)), neededDistance_scaled positive,
    mul_div_mul_left _ _ positive.ne']

/-- The verdict follows the unit of price exactly where the stop is not compared, or the clamp of the comparison's
scale at one makes no difference. -/
theorem slTarget_scales_iff (positive : 0 < factor) (drawn : 0 < original) :
    ScalesAt factor spreads original current target minR ↔
      target / neededDistance spreads original < minR ∨ current ≤ 0 ∨
        (WithinEpsilon 1 (neededDistance spreads original) current ↔
          WithinEpsilon (1 / factor) (neededDistance spreads original) current) := by
  unfold ScalesAt
  rw [slTarget_scaled positive drawn, slTarget_drawn drawn, slTargetR_scaled positive drawn]
  simp only [and_true, SlTarget.mk.injEq, true_and]
  by_cases poor : target / neededDistance spreads original < minR
  · simp [poor]
  by_cases unknown : current ≤ 0
  · simp [poor, unknown]
  have moves (open' : Prop) [Decidable open'] :
      (if open' then SlAction.widen else .shrink) ≠ .hold := by
    split <;> simp
  simp only [poor, unknown, if_false, false_or]
  by_cases here : WithinEpsilon 1 (neededDistance spreads original) current
  · by_cases there : WithinEpsilon (1 / factor) (neededDistance spreads original) current
    · simp only [here, there, if_true]
    · simp only [here, there, if_true, if_false, moves, iff_false, not_true_eq_false]
  · by_cases there : WithinEpsilon (1 / factor) (neededDistance spreads original) current
    · simp only [here, there, if_true, if_false, (moves _).symm, iff_true]
    · simp only [here, there, if_false]

end Scale

/-- From points to cents nothing changes: both distances are far apart in either unit. -/
theorem slTarget_scales_cents : ScalesAt (1 / 100) ⟨2, 0, 0⟩ 2 1 60 1 :=
  (slTarget_scales_iff (by decide +kernel) (by decide +kernel)).mpr (by decide +kernel)

/-- In a coin quoted at a ten-billionth of the other the stop at half the needed distance counts as there. -/
theorem slTarget_scale_clamped : ¬ ScalesAt (1 / 10000000000) ⟨0, 0, 0⟩ 2 1 60 1 := by
  rintro ⟨same, -⟩
  exact absurd same (by decide +kernel)

end TradeControl
