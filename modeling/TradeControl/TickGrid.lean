import Mathlib.Tactic.FieldSimp
import Mathlib.Tactic.Linarith
import Mathlib.Tactic.Ring
import TradeControl.SpreadFloor

namespace TradeControl

theorem roundHalfAwayInt_intCast (n : Int) : roundHalfAwayInt (n : Rat) = n := by
  unfold roundHalfAwayInt
  split
  · rw [Int.floor_intCast_add, show ⌊(1 / 2 : Rat)⌋ = 0 by norm_num, add_zero]
  · rw [sub_eq_add_neg, Int.ceil_intCast_add, show ⌈(-(1 / 2) : Rat)⌉ = 0 by norm_num, add_zero]

theorem roundHalfAwayInt_neg (x : Rat) : roundHalfAwayInt (-x) = -roundHalfAwayInt x := by
  rcases lt_trichotomy x 0 with negative | rfl | positive
  · unfold roundHalfAwayInt
    rw [if_pos (by linarith), if_neg (by linarith), ← Int.floor_neg]
    congr 1
    ring
  · rw [neg_zero, show roundHalfAwayInt 0 = 0 from roundHalfAwayInt_intCast 0, neg_zero]
  · unfold roundHalfAwayInt
    rw [if_neg (by linarith), if_pos positive.le, ← Int.ceil_neg]
    congr 1
    ring

theorem abs_sub_roundHalfAwayInt_le (x : Rat) : |x - roundHalfAwayInt x| ≤ 1 / 2 := by
  unfold roundHalfAwayInt
  rw [abs_le]
  split
  · have below := Int.floor_le (x + 1 / 2)
    have above := Int.lt_floor_add_one (x + 1 / 2)
    constructor <;> linarith
  · have above := Int.le_ceil (x - 1 / 2)
    have below := Int.ceil_lt_add_one (x - 1 / 2)
    constructor <;> linarith

theorem roundHalfAwayInt_mono {x y : Rat} (le : x ≤ y) : roundHalfAwayInt x ≤ roundHalfAwayInt y := by
  unfold roundHalfAwayInt
  split
  · rw [if_pos (by linarith)]
    exact Int.floor_mono (by linarith)
  · rename_i negative
    split
    · rename_i positive
      have nonpos : ⌈x - 1 / 2⌉ ≤ 0 := Int.ceil_le.mpr (by push_cast; linarith)
      have nonneg : 0 ≤ ⌊y + 1 / 2⌋ := Int.floor_nonneg.mpr (by linarith)
      exact nonpos.trans nonneg
    · exact Int.ceil_mono (by linarith)

/-- A step count the snap takes for a whole number. -/
def TakenWhole (steps : Rat) : Prop := |steps - roundHalfAwayInt steps| ≤ stepEpsilon * max |steps| 1

instance (steps : Rat) : Decidable (TakenWhole steps) := inferInstanceAs (Decidable (_ ≤ _))

/-- The grid line a step count goes to. -/
def snapSteps (dir : RoundDir) (steps : Rat) : Int :=
  if TakenWhole steps then roundHalfAwayInt steps
  else match dir with
    | .nearest => roundHalfAwayInt steps
    | .down => ⌊steps⌋
    | .up => ⌈steps⌉

theorem roundToTick_eq {tick : Rat} (positive : 0 < tick) (price : Rat) (dir : RoundDir) :
    roundToTick price tick dir =
      roundHalfAway (snapSteps dir (price / tick) * tick) (tickDecimalPlaces tick) := by
  unfold roundToTick gridSteps snapSteps
  rw [if_neg (not_le.mpr positive)]
  dsimp only
  by_cases whole : TakenWhole (price / tick)
  · have close : |price / tick - roundHalfAwayInt (price / tick)| ≤ stepEpsilon * max |price / tick| 1 := whole
    rw [if_pos whole, if_pos close]
    cases dir
    · rw [roundHalfAwayInt_intCast]
    · rw [Int.floor_intCast]
    · rw [Int.ceil_intCast]
  · have far : ¬ |price / tick - roundHalfAwayInt (price / tick)| ≤ stepEpsilon * max |price / tick| 1 := whole
    rewrite [if_neg whole, if_neg far]
    cases dir <;> rfl

theorem takenWhole_intCast (n : Int) : TakenWhole n := by
  unfold TakenWhole
  rw [roundHalfAwayInt_intCast, sub_self, abs_zero]
  exact mul_nonneg (by norm_num [stepEpsilon]) (le_max_of_le_right zero_le_one)

theorem takenWhole_neg {steps : Rat} : TakenWhole (-steps) ↔ TakenWhole steps := by
  unfold TakenWhole
  rw [roundHalfAwayInt_neg, abs_neg]
  push_cast
  rw [show -steps - -(roundHalfAwayInt steps : Rat) = -(steps - roundHalfAwayInt steps) by ring, abs_neg]

@[simp]
theorem snapSteps_intCast (dir : RoundDir) (n : Int) : snapSteps dir n = n := by
  unfold snapSteps
  rw [if_pos (takenWhole_intCast n), roundHalfAwayInt_intCast]

theorem snapSteps_up (steps : Rat) : snapSteps .up steps = -snapSteps .down (-steps) := by
  unfold snapSteps
  by_cases whole : TakenWhole steps
  · rw [if_pos whole, if_pos (takenWhole_neg.mpr whole), roundHalfAwayInt_neg, neg_neg]
  · rw [if_neg whole, if_neg (mt takenWhole_neg.mp whole)]
    dsimp only
    rw [Int.floor_neg, neg_neg]

/-- A snap moves by less than a step. -/
theorem abs_snapSteps_sub_lt (dir : RoundDir) (steps : Rat) : |(snapSteps dir steps : Rat) - steps| < 1 := by
  have rounded := abs_sub_roundHalfAwayInt_le steps
  rw [abs_sub_comm] at rounded
  unfold snapSteps
  split
  · exact rounded.trans_lt (by norm_num)
  · cases dir
    · exact rounded.trans_lt (by norm_num)
    · have below := Int.floor_le steps
      have above := Int.lt_floor_add_one steps
      exact abs_lt.mpr ⟨by linarith, by linarith⟩
    · have above := Int.le_ceil steps
      have below := Int.ceil_lt_add_one steps
      exact abs_lt.mpr ⟨by linarith, by linarith⟩

theorem snapSteps_down_le (steps : Rat) (far : ¬ TakenWhole steps) : (snapSteps .down steps : Rat) ≤ steps := by
  rw [snapSteps, if_neg far]
  exact Int.floor_le steps

theorem floor_le_snapSteps_down (steps : Rat) : ⌊steps⌋ ≤ snapSteps .down steps := by
  have moved := abs_lt.mp (abs_snapSteps_sub_lt .down steps)
  have below := Int.floor_le steps
  have lower : ((⌊steps⌋ : Int) : Rat) < snapSteps .down steps + 1 := by linarith [moved.1]
  have bound : ⌊steps⌋ < snapSteps .down steps + 1 := by exact_mod_cast lower
  omega

theorem snapSteps_down_le_floor (steps : Rat) : snapSteps .down steps ≤ ⌊steps⌋ + 1 := by
  have moved := abs_lt.mp (abs_snapSteps_sub_lt .down steps)
  have above := Int.lt_floor_add_one steps
  have upper : (snapSteps .down steps : Rat) < (⌊steps⌋ : Rat) + 1 + 1 := by linarith [moved.2]
  have bound : snapSteps .down steps < ⌊steps⌋ + 1 + 1 := by exact_mod_cast upper
  omega

/-- Between a count taken for the whole number above it and that number, every count is. -/
theorem TakenWhole.up_to {steps later : Rat} (whole : TakenWhole steps) (le : steps ≤ later) {n : Int}
    (rounds : roundHalfAwayInt steps = n) (below : later ≤ n) :
    TakenWhole later ∧ roundHalfAwayInt later = n := by
  have lower := roundHalfAwayInt_mono le
  have upper := roundHalfAwayInt_mono below
  rw [roundHalfAwayInt_intCast] at upper
  have same : roundHalfAwayInt later = n := le_antisymm upper (rounds ▸ lower)
  refine ⟨?_, same⟩
  unfold TakenWhole at whole ⊢
  rw [same, abs_sub_comm, abs_of_nonneg (by linarith)]
  rw [rounds, abs_sub_comm, abs_of_nonneg (by linarith)] at whole
  have shrinks : max |steps| 1 ≤ max |later| 1 + (later - steps) := by
    refine max_le ?_ (by linarith [le_max_right |later| 1])
    have step : |steps| ≤ |later| + |steps - later| := by
      have triangle := abs_add_le later (steps - later)
      rwa [add_sub_cancel] at triangle
    rw [abs_sub_comm, abs_of_nonneg (by linarith : (0 : Rat) ≤ later - steps)] at step
    linarith [le_max_left |later| 1]
  have scaled := mul_le_mul_of_nonneg_left shrinks (by norm_num [stepEpsilon] : (0 : Rat) ≤ stepEpsilon)
  have small : stepEpsilon * (later - steps) ≤ later - steps := by
    have factor : stepEpsilon ≤ 1 := by norm_num [stepEpsilon]
    nlinarith
  rw [mul_add] at scaled
  linarith

theorem snapSteps_down_mono {steps later : Rat} (le : steps ≤ later) :
    snapSteps .down steps ≤ snapSteps .down later := by
  have floors := Int.floor_mono le
  have high := snapSteps_down_le_floor steps
  have low := floor_le_snapSteps_down later
  by_cases apart : ⌊steps⌋ < ⌊later⌋
  · omega
  · have same : ⌊later⌋ = ⌊steps⌋ := by omega
    by_cases stays : snapSteps .down steps ≤ ⌊steps⌋
    · omega
    · -- the earlier count was taken for the whole number above both
      have whole : TakenWhole steps := by
        by_contra far
        exact stays (by rw [snapSteps, if_neg far])
      have rounds : roundHalfAwayInt steps = ⌊steps⌋ + 1 := by
        have snapped : snapSteps .down steps = roundHalfAwayInt steps := by rw [snapSteps, if_pos whole]
        omega
      have below : later ≤ ((⌊steps⌋ + 1 : Int) : Rat) := by
        rw [← same]
        push_cast
        exact (Int.lt_floor_add_one later).le
      obtain ⟨wholeLater, roundsLater⟩ := whole.up_to le rounds below
      rw [snapSteps, if_pos whole, snapSteps, if_pos wholeLater, rounds, roundsLater]

theorem snapSteps_mono (dir : RoundDir) {steps later : Rat} (le : steps ≤ later) :
    snapSteps dir steps ≤ snapSteps dir later := by
  cases dir
  · have rounds (count : Rat) : snapSteps .nearest count = roundHalfAwayInt count := by
      unfold snapSteps
      split <;> rfl
    rw [rounds, rounds]
    exact roundHalfAwayInt_mono le
  · exact snapSteps_down_mono le
  · rw [snapSteps_up, snapSteps_up]
    exact neg_le_neg (snapSteps_down_mono (neg_le_neg le))

/-- The tick is a whole number of units of the decimal place it is scrubbed to. -/
def WholeTick (tick : Rat) : Prop := ∃ units : Int, tick * 10 ^ tickDecimalPlaces tick = units

/-- The scrub keeps what is on the grid of a whole tick. -/
theorem WholeTick.roundToTick_eq {tick : Rat} (whole : WholeTick tick) (positive : 0 < tick) (price : Rat)
    (dir : RoundDir) : roundToTick price tick dir = snapSteps dir (price / tick) * tick := by
  obtain ⟨units, scaled⟩ := whole
  rw [TradeControl.roundToTick_eq positive, roundHalfAway]
  have grid : (snapSteps dir (price / tick) : Rat) * tick * 10 ^ tickDecimalPlaces tick =
      ((snapSteps dir (price / tick) * units : Int) : Rat) := by
    rw [mul_assoc, scaled]
    push_cast
    ring
  rw [grid, roundHalfAwayInt_intCast, ← grid]
  field_simp

/-- A directional snap onto the multiples of `tick`. -/
structure SnapsToGrid (tick : Rat) : Prop where
  multiple : ∀ price dir, ∃ n : Int, roundToTick price tick dir = n * tick
  near : ∀ price dir, |roundToTick price tick dir - price| < tick
  idempotent : ∀ price dir again, roundToTick (roundToTick price tick dir) tick again = roundToTick price tick dir
  monotone : ∀ dir, Monotone fun price => roundToTick price tick dir

theorem WholeTick.snapsToGrid {tick : Rat} (whole : WholeTick tick) (positive : 0 < tick) :
    SnapsToGrid tick where
  multiple price dir := ⟨_, whole.roundToTick_eq positive price dir⟩
  near price dir := by
    have moved := abs_snapSteps_sub_lt dir (price / tick)
    have scaled : snapSteps dir (price / tick) * tick - price =
        (snapSteps dir (price / tick) - price / tick) * tick := by
      field_simp
    rw [whole.roundToTick_eq positive, scaled, abs_mul, abs_of_pos positive]
    exact mul_lt_of_lt_one_left positive moved
  idempotent price dir again := by
    rw [whole.roundToTick_eq positive _ again, whole.roundToTick_eq positive price dir,
      mul_div_assoc, div_self positive.ne', mul_one, snapSteps_intCast]
  monotone dir price later le := by
    have steps : snapSteps dir (price / tick) ≤ snapSteps dir (later / tick) :=
      snapSteps_mono dir (div_le_div_of_nonneg_right le positive.le)
    dsimp only
    rw [whole.roundToTick_eq positive, whole.roundToTick_eq positive]
    exact mul_le_mul_of_nonneg_right (by exact_mod_cast steps) positive.le

/-- Where the scrub does not keep the grid, the tick itself does not stay put. -/
theorem snapsToGrid_iff {tick : Rat} (positive : 0 < tick) : SnapsToGrid tick ↔ WholeTick tick := by
  refine ⟨fun snaps => ?_, fun whole => whole.snapsToGrid positive⟩
  obtain ⟨n, multiple⟩ := snaps.multiple tick .nearest
  have near := snaps.near tick .nearest
  have offset : (n : Rat) * tick - tick = (n - 1) * tick := by ring
  rw [multiple, offset, abs_mul, abs_of_pos positive] at near
  have close : |((n - 1 : Int) : Rat)| < 1 := by
    push_cast
    exact lt_of_mul_lt_mul_right (by rwa [one_mul]) positive.le
  have one : n = 1 := by
    have bound : |n - 1| < 1 := by exact_mod_cast close
    rw [Int.abs_lt_one_iff] at bound
    omega
  have stays : roundHalfAway (1 * tick) (tickDecimalPlaces tick) = tick := by
    have snapped : snapSteps .nearest (tick / tick) = 1 := by
      rw [div_self positive.ne']
      exact snapSteps_intCast .nearest 1
    have value := roundToTick_eq positive tick .nearest
    rw [snapped, multiple, one] at value
    simpa using value.symm
  rw [roundHalfAway, div_eq_iff (by positivity)] at stays
  exact ⟨_, stays.symm⟩

/-- How far a count taken for a whole number may be from it, in price. -/
def snapDust (price tick : Rat) : Rat := stepEpsilon * max |price| tick

theorem WholeTick.abs_sub_le_dust {tick price : Rat} (whole : WholeTick tick) (positive : 0 < tick)
    (dir : RoundDir) (taken : TakenWhole (price / tick)) :
    |roundToTick price tick dir - price| ≤ snapDust price tick := by
  have snapped : snapSteps dir (price / tick) = roundHalfAwayInt (price / tick) := if_pos taken
  unfold TakenWhole at taken
  have scaled := mul_le_mul_of_nonneg_right taken positive.le
  rw [mul_assoc, max_mul_of_nonneg _ _ positive.le, one_mul, ← abs_of_pos positive, ← abs_mul, ← abs_mul,
    abs_of_pos positive, sub_mul, div_mul_cancel₀ _ positive.ne', abs_sub_comm] at scaled
  rw [whole.roundToTick_eq positive, snapped]
  exact scaled

theorem WholeTick.down_le {tick price : Rat} (whole : WholeTick tick) (positive : 0 < tick)
    (far : ¬ TakenWhole (price / tick)) : roundToTick price tick .down ≤ price := by
  rw [whole.roundToTick_eq positive, ← le_div_iff₀ positive]
  exact snapSteps_down_le _ far

theorem WholeTick.le_up {tick price : Rat} (whole : WholeTick tick) (positive : 0 < tick)
    (far : ¬ TakenWhole (price / tick)) : price ≤ roundToTick price tick .up := by
  have below := snapSteps_down_le (-(price / tick)) (mt takenWhole_neg.mp far)
  rw [whole.roundToTick_eq positive, ← div_le_iff₀ positive, snapSteps_up]
  push_cast
  linarith

/-- A snap in a direction goes that way, but for the dust of a price taken to be on the grid. -/
theorem WholeTick.down_le_dust {tick : Rat} (whole : WholeTick tick) (positive : 0 < tick) (price : Rat) :
    roundToTick price tick .down ≤ price + snapDust price tick := by
  have dust : 0 ≤ snapDust price tick :=
    mul_nonneg (by norm_num [stepEpsilon]) (le_max_of_le_left (abs_nonneg price))
  by_cases taken : TakenWhole (price / tick)
  · have moved := (abs_le.mp (whole.abs_sub_le_dust positive .down taken)).2
    linarith
  · have below := whole.down_le positive taken
    linarith

theorem WholeTick.le_up_dust {tick : Rat} (whole : WholeTick tick) (positive : 0 < tick) (price : Rat) :
    price - snapDust price tick ≤ roundToTick price tick .up := by
  have dust : 0 ≤ snapDust price tick :=
    mul_nonneg (by norm_num [stepEpsilon]) (le_max_of_le_left (abs_nonneg price))
  by_cases taken : TakenWhole (price / tick)
  · have moved := (abs_le.mp (whole.abs_sub_le_dust positive .up taken)).1
    linarith
  · have above := whole.le_up positive taken
    linarith

def OnGrid (price tick : Rat) : Prop := ∃ n : Int, price = n * tick

theorem OnGrid.le_down {tick entry price : Rat} (grid : OnGrid entry tick) (whole : WholeTick tick)
    (positive : 0 < tick) (above : entry ≤ price) : entry ≤ roundToTick price tick .down := by
  obtain ⟨n, rfl⟩ := grid
  have snapped : snapSteps .down (n : Rat) ≤ snapSteps .down (price / tick) :=
    snapSteps_mono .down ((le_div_iff₀ positive).mpr above)
  rw [snapSteps_intCast] at snapped
  rw [whole.roundToTick_eq positive]
  exact mul_le_mul_of_nonneg_right (by exact_mod_cast snapped) positive.le

theorem OnGrid.up_le {tick entry price : Rat} (grid : OnGrid entry tick) (whole : WholeTick tick)
    (positive : 0 < tick) (below : price ≤ entry) : roundToTick price tick .up ≤ entry := by
  obtain ⟨n, rfl⟩ := grid
  have snapped : snapSteps .up (price / tick) ≤ snapSteps .up (n : Rat) :=
    snapSteps_mono .up ((div_le_iff₀ positive).mpr below)
  rw [snapSteps_intCast] at snapped
  rw [whole.roundToTick_eq positive]
  exact mul_le_mul_of_nonneg_right (by exact_mod_cast snapped) positive.le

section Levels

variable {tick : Rat} (whole : WholeTick tick) (positive : 0 < tick)
include whole positive

/-- A stop is not brought closer to the entry, but for dust. -/
theorem roundStopLoss_away (stop entry : Rat) :
    |entry - stop| ≤ |entry - roundStopLoss stop entry tick| + snapDust stop tick := by
  unfold roundStopLoss
  by_cases long : stop ≤ entry
  · have below := whole.down_le_dust positive stop
    rw [if_pos long, abs_of_nonneg (sub_nonneg.mpr long)]
    linarith [le_abs_self (entry - roundToTick stop tick .down)]
  · have above := whole.le_up_dust positive stop
    rw [if_neg long, abs_of_neg (by linarith)]
    linarith [neg_abs_le (entry - roundToTick stop tick .up)]

theorem roundStopLoss_away_of_far (stop entry : Rat) (far : ¬ TakenWhole (stop / tick)) :
    |entry - stop| ≤ |entry - roundStopLoss stop entry tick| := by
  unfold roundStopLoss
  by_cases long : stop ≤ entry
  · have below := whole.down_le positive far
    rw [if_pos long, abs_of_nonneg (sub_nonneg.mpr long)]
    linarith [le_abs_self (entry - roundToTick stop tick .down)]
  · have above := whole.le_up positive far
    rw [if_neg long, abs_of_neg (by linarith)]
    linarith [neg_abs_le (entry - roundToTick stop tick .up)]

/-- A target is not taken further from an entry on the grid, but for dust. -/
theorem roundTakeProfit_toward (takeProfit entry : Rat) (grid : OnGrid entry tick) :
    |entry - roundTakeProfit takeProfit entry tick| ≤ |entry - takeProfit| + snapDust takeProfit tick := by
  unfold roundTakeProfit
  by_cases long : entry ≤ takeProfit
  · have below := whole.down_le_dust positive takeProfit
    have above := grid.le_down whole positive long
    rw [if_pos long, abs_of_nonpos (sub_nonpos.mpr above), abs_of_nonpos (sub_nonpos.mpr long)]
    linarith
  · have short : takeProfit ≤ entry := (not_le.mp long).le
    have above := whole.le_up_dust positive takeProfit
    have below := grid.up_le whole positive short
    rw [if_neg long, abs_of_nonneg (sub_nonneg.mpr below), abs_of_nonneg (sub_nonneg.mpr short)]
    linarith

theorem roundTakeProfit_toward_of_far (takeProfit entry : Rat) (grid : OnGrid entry tick)
    (far : ¬ TakenWhole (takeProfit / tick)) :
    |entry - roundTakeProfit takeProfit entry tick| ≤ |entry - takeProfit| := by
  unfold roundTakeProfit
  by_cases long : entry ≤ takeProfit
  · have below := whole.down_le positive far
    have above := grid.le_down whole positive long
    rw [if_pos long, abs_of_nonpos (sub_nonpos.mpr above), abs_of_nonpos (sub_nonpos.mpr long)]
    linarith
  · have short : takeProfit ≤ entry := (not_le.mp long).le
    have above := whole.le_up positive far
    have below := grid.up_le whole positive short
    rw [if_neg long, abs_of_nonneg (sub_nonneg.mpr below), abs_of_nonneg (sub_nonneg.mpr short)]
    linarith

end Levels

/-- A level the snap takes for one on the grid may go to it either way; every other goes away from the
entry as a stop, and toward it as a target of an entry on the grid. -/
structure KeepsSide (tick : Rat) : Prop where
  stopLoss : ∀ stop entry, ¬ TakenWhole (stop / tick) → |entry - stop| ≤ |entry - roundStopLoss stop entry tick|
  stopLossDust : ∀ stop entry, |entry - stop| ≤ |entry - roundStopLoss stop entry tick| + snapDust stop tick
  takeProfit : ∀ target entry, OnGrid entry tick → ¬ TakenWhole (target / tick) →
    |entry - roundTakeProfit target entry tick| ≤ |entry - target|
  takeProfitDust : ∀ target entry, OnGrid entry tick →
    |entry - roundTakeProfit target entry tick| ≤ |entry - target| + snapDust target tick

/-- On a whole tick the rounding is a directional grid snap. -/
theorem roundToTick_directional {tick : Rat} (positive : 0 < tick) (whole : WholeTick tick) :
    SnapsToGrid tick ∧ KeepsSide tick :=
  ⟨(snapsToGrid_iff positive).mpr whole,
    { stopLoss := roundStopLoss_away_of_far whole positive
      stopLossDust := roundStopLoss_away whole positive
      takeProfit := roundTakeProfit_toward_of_far whole positive
      takeProfitDust := roundTakeProfit_toward whole positive }⟩

theorem roundToTick_directional_cent : SnapsToGrid (1 / 100) ∧ KeepsSide (1 / 100) :=
  roundToTick_directional (by norm_num) ⟨1, by decide +kernel⟩

/-- A stop a billionth of a step below a grid line is tightened to it, and a target less than a tick above an
entry off the grid passes it. -/
theorem roundToTick_dust :
    roundStopLoss (1 - 1 / 10 ^ 10) 2 1 = 1 ∧ |(2 : Rat) - 1| < |2 - (1 - 1 / 10 ^ 10)| ∧
      roundTakeProfit (8 / 10) (7 / 10) 1 = 0 ∧ |(7 / 10 : Rat) - 8 / 10| < |7 / 10 - 0| := by
  decide +kernel

end TradeControl
