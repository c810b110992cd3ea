import Mathlib.Algebra.Order.Floor.Ring
import Mathlib.Algebra.Order.Field.Basic
import Mathlib.Order.Bounds.Basic

namespace Foundation

section
variable {K : Type} [Field K] [LinearOrder K] [IsStrictOrderedRing K] [FloorRing K] {step : K}

/-- The whole numbers of steps. -/
def stepGrid (step : K) : Set K := Set.range fun count : Int => (count : K) * step

/-- The most whole steps within an amount. -/
def wholeSteps (amount step : K) : K := (⌊amount / step⌋ : K) * step

omit [IsStrictOrderedRing K] in
theorem wholeSteps_mem (amount step : K) : wholeSteps amount step ∈ stepGrid step :=
  ⟨⌊amount / step⌋, rfl⟩

theorem wholeSteps_le (amount : K) (positive : 0 < step) : wholeSteps amount step ≤ amount :=
  (le_div_iff₀ positive).mp (Int.floor_le _)

theorem wholeSteps_mono {amount amount' : K} (positive : 0 < step) (le : amount ≤ amount') :
    wholeSteps amount step ≤ wholeSteps amount' step := by
  have steps : ⌊amount / step⌋ ≤ ⌊amount' / step⌋ :=
    Int.floor_le_floor (div_le_div_of_nonneg_right le positive.le)
  exact mul_le_mul_of_nonneg_right (Int.cast_le.mpr steps) positive.le

/-- No line of the grid lies between an amount and its whole steps. -/
theorem le_wholeSteps {line amount : K} (positive : 0 < step) (onGrid : line ∈ stepGrid step) :
    line ≤ wholeSteps amount step ↔ line ≤ amount := by
  constructor
  · exact fun le => le.trans (wholeSteps_le amount positive)
  · intro le
    obtain ⟨count, rfl⟩ := onGrid
    have steps : count ≤ ⌊amount / step⌋ := Int.le_floor.mpr ((le_div_iff₀ positive).mpr le)
    exact mul_le_mul_of_nonneg_right (Int.cast_le.mpr steps) positive.le

/-- The lines of the grid from a least amount to a largest one. -/
def stepsBetween (least most step : K) : Set K := {line | line ∈ stepGrid step ∧ least ≤ line ∧ line ≤ most}

theorem stepsBetween_nonempty {least most : K} (positive : 0 < step) :
    (stepsBetween least most step).Nonempty ↔ least ≤ wholeSteps most step := by
  constructor
  · rintro ⟨line, onGrid, above, below⟩
    exact above.trans ((le_wholeSteps positive onGrid).mpr below)
  · exact fun reached => ⟨_, wholeSteps_mem most step, reached, wholeSteps_le most positive⟩

theorem stepsBetween_isGreatest {least most : K} (positive : 0 < step) (reached : least ≤ wholeSteps most step) :
    IsGreatest (stepsBetween least most step) (wholeSteps most step) :=
  ⟨⟨wholeSteps_mem most step, reached, wholeSteps_le most positive⟩,
    fun _ ⟨onGrid, _, below⟩ => (le_wholeSteps positive onGrid).mpr below⟩

theorem wholeSteps_min {amount most : K} (positive : 0 < step) (within : wholeSteps amount step ≤ most) :
    wholeSteps (min most amount) step = wholeSteps amount step := by
  apply le_antisymm
  · exact wholeSteps_mono positive (min_le_right most amount)
  · exact (le_wholeSteps positive (wholeSteps_mem amount step)).mpr
      (le_min within (wholeSteps_le amount positive))

/-- The most whole steps of an amount that a budget pays for, at a price for each unit of it. -/
theorem paid_isGreatest {least most budget price : K} (positive : 0 < step) (priced : 0 < price)
    (reached : least ≤ wholeSteps (min most (budget / price)) step) :
    IsGreatest {line ∈ stepsBetween least most step | line * price ≤ budget}
      (wholeSteps (min most (budget / price)) step) := by
  obtain ⟨⟨onGrid, above, below⟩, largest⟩ := stepsBetween_isGreatest positive reached
  refine ⟨⟨⟨onGrid, above, below.trans (min_le_left _ _)⟩, ?_⟩, ?_⟩
  · exact (le_div_iff₀ priced).mp (below.trans (min_le_right _ _))
  · rintro line ⟨⟨lineOnGrid, lineAbove, lineBelow⟩, paid⟩
    exact largest ⟨lineOnGrid, lineAbove, le_min lineBelow ((le_div_iff₀ priced).mpr paid)⟩

end

end Foundation
