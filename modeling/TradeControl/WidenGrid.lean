import TradeControl.TickGrid

namespace TradeControl

/-- The tick scrubs snaps, and the level is not taken for a grid line it only lies near. -/
def SnapExact (level tick : Rat) : Prop :=
  tick ≤ 0 ∨ WholeTick tick ∧ (TakenWhole (level / tick) → OnGrid level tick)

/-- Where a widened stop has to be. -/
def OnTick (level tick : Rat) : Prop := 0 < tick → OnGrid level tick

theorem WholeTick.roundToTick_grid {tick level : Rat} (whole : WholeTick tick) (positive : 0 < tick)
    (grid : OnGrid level tick) (dir : RoundDir) : roundToTick level tick dir = level := by
  obtain ⟨n, rfl⟩ := grid
  rw [whole.roundToTick_eq positive, mul_div_assoc, div_self positive.ne', mul_one, snapSteps_intCast]

/-- Down goes to the last grid line that is not above. -/
theorem SnapExact.down {level tick : Rat} (snaps : SnapExact level tick) :
    OnTick (roundToTick level tick .down) tick ∧ roundToTick level tick .down ≤ level ∧
      ∀ line, OnTick line tick → line ≤ level → line ≤ roundToTick level tick .down := by
  rcases snaps with none_ | ⟨whole, near⟩
  · have same : roundToTick level tick .down = level := if_pos none_
    rw [same]
    exact ⟨fun positive => absurd none_ (not_le.mpr positive), le_rfl, fun _ _ below => below⟩
  · by_cases positive : 0 < tick
    · refine ⟨fun _ => (whole.snapsToGrid positive).multiple level .down, ?_, ?_⟩
      · by_cases taken : TakenWhole (level / tick)
        · exact (whole.roundToTick_grid positive (near taken) .down).le
        · exact whole.down_le positive taken
      · exact fun line grid below => (grid positive).le_down whole positive below
    · have same : roundToTick level tick .down = level := if_pos (not_lt.mp positive)
      rw [same]
      exact ⟨fun above => absurd above positive, le_rfl, fun _ _ below => below⟩

/-- Up goes to the first grid line that is not below. -/
theorem SnapExact.up {level tick : Rat} (snaps : SnapExact level tick) :
    OnTick (roundToTick level tick .up) tick ∧ level ≤ roundToTick level tick .up ∧
      ∀ line, OnTick line tick → level ≤ line → roundToTick level tick .up ≤ line := by
  rcases snaps with none_ | ⟨whole, near⟩
  · have same : roundToTick level tick .up = level := if_pos none_
    rw [same]
    exact ⟨fun positive => absurd none_ (not_le.mpr positive), le_rfl, fun _ _ above => above⟩
  · by_cases positive : 0 < tick
    · refine ⟨fun _ => (whole.snapsToGrid positive).multiple level .up, ?_, ?_⟩
      · by_cases taken : TakenWhole (level / tick)
        · exact (whole.roundToTick_grid positive (near taken) .up).ge
        · exact whole.le_up positive taken
      · exact fun line grid above => (grid positive).up_le whole positive above
    · have same : roundToTick level tick .up = level := if_pos (not_lt.mp positive)
      rw [same]
      exact ⟨fun above => absurd above positive, le_rfl, fun _ _ above => above⟩

/-- Ten spreads from the entry, on the stop's side. -/
def rawWidenedStop (entry stop spread : Rat) : Rat :=
  if entry ≤ stop then entry + slMinSpreadMultiple * spread else entry - slMinSpreadMultiple * spread

/-- Two levels on one side of the entry; a stop on the entry counts as above it. -/
def SameSide (entry stop other : Rat) : Prop := if entry ≤ stop then entry < other else other < entry

/-- What the widened stop is: the nearest level to the entry that is on the grid, on the stop's side and ten
spreads away. -/
structure NearestWidened (entry stop spread tick level : Rat) : Prop where
  onTick : OnTick level tick
  side : SameSide entry stop level
  room : slMinSpreadMultiple * spread ≤ |entry - level|
  least : ∀ other, OnTick other tick → SameSide entry stop other → slMinSpreadMultiple * spread ≤ |entry - other| →
    |entry - level| ≤ |entry - other|

theorem nearestWidened {entry stop spread tick : Rat} (judgeable : 0 < spread)
    (snaps : SnapExact (rawWidenedStop entry stop spread) tick) :
    NearestWidened entry stop spread tick (roundStopLoss (rawWidenedStop entry stop spread) entry tick) := by
  have room : 0 < slMinSpreadMultiple * spread := mul_pos (by norm_num [slMinSpreadMultiple]) judgeable
  unfold rawWidenedStop roundStopLoss at *
  by_cases short : entry ≤ stop
  · rw [if_pos short] at snaps ⊢
    rw [if_neg (by linarith)]
    obtain ⟨onTick, above, first⟩ := snaps.up
    refine ⟨onTick, ?_, ?_, ?_⟩
    · rw [SameSide, if_pos short]
      linarith
    · rw [abs_of_neg (by linarith)]
      linarith
    · intro other grid side far
      rw [SameSide, if_pos short] at side
      rw [abs_of_neg (by linarith)] at far
      have beyond := first other grid (by linarith)
      rw [abs_of_neg (by linarith), abs_of_neg (by linarith)]
      linarith
  · rw [if_neg short] at snaps ⊢
    rw [if_pos (by linarith)]
    obtain ⟨onTick, below, last⟩ := snaps.down
    refine ⟨onTick, ?_, ?_, ?_⟩
    · rw [SameSide, if_neg short]
      linarith
    · rw [abs_of_pos (by linarith)]
      linarith
    · intro other grid side far
      rw [SameSide, if_neg short] at side
      rw [abs_of_pos (by linarith)] at far
      have beyond := last other grid (by linarith)
      rw [abs_of_pos (by linarith), abs_of_pos (by linarith)]
      linarith

theorem abs_sub_rawWidenedStop {entry stop spread : Rat} (judgeable : 0 < spread) :
    |entry - rawWidenedStop entry stop spread| = slMinSpreadMultiple * spread := by
  have room : 0 < slMinSpreadMultiple * spread := mul_pos (by norm_num [slMinSpreadMultiple]) judgeable
  unfold rawWidenedStop
  split
  · rw [sub_add_cancel_left, abs_neg, abs_of_pos room]
  · rw [sub_sub_cancel, abs_of_pos room]

theorem not_violation_iff {distance spread : Rat} (judgeable : 0 < spread) :
    slSpreadFloorViolation distance spread = false ↔ slMinSpreadMultiple * spread ≤ distance := by
  simp [slSpreadFloorViolation, judgeable]

/-- A stop inside the floor goes to the snapped level, if the reward ratio there allows it. -/
theorem widenSlToSpreadFloor_violated {entry stop target spread minR tick : Rat}
    (violated : slSpreadFloorViolation |entry - stop| spread = true) :
    widenSlToSpreadFloor entry stop target spread minR tick =
      let level := roundStopLoss (rawWidenedStop entry stop spread) entry tick
      if 0 < |entry - level| ∧ minR ≤ |target - entry| / |entry - level| then
        .widened level |entry - level| (|target - entry| / |entry - level|)
      else .reject level |entry - level| (|target - entry| / |entry - level|) minR := by
  have judgeable : 0 < spread := by
    simp only [slSpreadFloorViolation, Bool.and_eq_true, decide_eq_true_eq] at violated
    exact violated.1
  have raw : (if entry ≤ stop then entry + slMinSpreadMultiple * spread
      else entry - slMinSpreadMultiple * spread) = rawWidenedStop entry stop spread := rfl
  unfold widenSlToSpreadFloor
  rw [violated]
  dsimp only
  rw [raw]
  have distance : (if roundStopLoss (rawWidenedStop entry stop spread) entry tick =
        rawWidenedStop entry stop spread then slMinSpreadMultiple * spread
      else |entry - roundStopLoss (rawWidenedStop entry stop spread) entry tick|) =
      |entry - roundStopLoss (rawWidenedStop entry stop spread) entry tick| := by
    split
    · next same => rw [same, abs_sub_rawWidenedStop judgeable]
    · rfl
  rw [distance]
  rfl

section Outcomes

variable {entry stop target spread minR tick : Rat}
  (snaps : SnapExact (rawWidenedStop entry stop spread) tick)
include snaps

/-- A widened stop clears the floor and the reward ratio, and stands. -/
theorem widened_sound {level distance r : Rat}
    (widened : widenSlToSpreadFloor entry stop target spread minR tick = .widened level distance r) :
    SameSide entry stop level ∧ |entry - stop| < |entry - level| ∧ OnTick level tick ∧
      distance = |entry - level| ∧ slMinSpreadMultiple * spread ≤ distance ∧
      r = |target - entry| / distance ∧ minR ≤ r ∧
      widenSlToSpreadFloor entry level target spread minR tick = .unchanged := by
  cases violated : slSpreadFloorViolation |entry - stop| spread with
  | false => simp [widenSlToSpreadFloor, violated] at widened
  | true =>
    rw [widenSlToSpreadFloor_violated violated] at widened
    simp only [slSpreadFloorViolation, Bool.and_eq_true, decide_eq_true_eq] at violated
    obtain ⟨judgeable, short⟩ := violated
    have nearest := nearestWidened judgeable snaps
    dsimp only at widened
    split at widened
    · next kept =>
      obtain ⟨rfl, rfl, rfl⟩ := SlWiden.widened.inj widened
      refine ⟨nearest.side, short.trans_le nearest.room, nearest.onTick, rfl, nearest.room, rfl, kept.2, ?_⟩
      have clears := (not_violation_iff judgeable).mpr nearest.room
      simp [widenSlToSpreadFloor, clears]
    · cases widened

/-- A trade is turned away only where no stop on the grid could carry it. -/
theorem reject_optimal {level distance r floor : Rat}
    (rejected : widenSlToSpreadFloor entry stop target spread minR tick = .reject level distance r floor)
    {other : Rat} (grid : OnTick other tick) (side : SameSide entry stop other)
    (room : slMinSpreadMultiple * spread ≤ |entry - other|) : |target - entry| / |entry - other| < minR := by
  cases violated : slSpreadFloorViolation |entry - stop| spread with
  | false => simp [widenSlToSpreadFloor, violated] at rejected
  | true =>
    rw [widenSlToSpreadFloor_violated violated] at rejected
    simp only [slSpreadFloorViolation, Bool.and_eq_true, decide_eq_true_eq] at violated
    obtain ⟨judgeable, -⟩ := violated
    have nearest := nearestWidened judgeable snaps
    have least := nearest.least other grid side room
    have floorRoom : 0 < slMinSpreadMultiple * spread := mul_pos (by norm_num [slMinSpreadMultiple]) judgeable
    have positive := floorRoom.trans_le nearest.room
    dsimp only at rejected
    split at rejected
    · cases rejected
    · next refused =>
      have below := not_le.mp fun kept => refused ⟨positive, kept⟩
      exact (div_le_div_of_nonneg_left (abs_nonneg _) positive least).trans_lt below

end Outcomes

theorem unchanged_clears {entry stop target spread minR tick : Rat} (judgeable : 0 < spread)
    (unchanged : widenSlToSpreadFloor entry stop target spread minR tick = .unchanged) :
    slMinSpreadMultiple * spread ≤ |entry - stop| := by
  cases violated : slSpreadFloorViolation |entry - stop| spread with
  | false => exact (not_violation_iff judgeable).mp violated
  | true =>
    rw [widenSlToSpreadFloor_violated violated] at unchanged
    dsimp only at unchanged
    split at unchanged <;> cases unchanged

/-- What each verdict of the widening says of the stops there are. -/
def SlWiden.Sound (entry stop target spread minR tick : Rat) : SlWiden → Prop
  | .widened level distance r =>
    SameSide entry stop level ∧ |entry - stop| < |entry - level| ∧ OnTick level tick ∧
      distance = |entry - level| ∧ slMinSpreadMultiple * spread ≤ distance ∧
      r = |target - entry| / distance ∧ minR ≤ r ∧
      widenSlToSpreadFloor entry level target spread minR tick = .unchanged
  | .unchanged => slMinSpreadMultiple * spread ≤ |entry - stop|
  | .reject _ _ _ _ =>
    ∀ other, OnTick other tick → SameSide entry stop other → slMinSpreadMultiple * spread ≤ |entry - other| →
      |target - entry| / |entry - other| < minR

theorem widenSlToSpreadFloor_sound {entry stop target spread minR tick : Rat} (judgeable : 0 < spread)
    (snaps : SnapExact (rawWidenedStop entry stop spread) tick) :
    (widenSlToSpreadFloor entry stop target spread minR tick).Sound entry stop target spread minR tick := by
  cases verdict : widenSlToSpreadFloor entry stop target spread minR tick with
  | unchanged => exact unchanged_clears judgeable verdict
  | widened level distance r => exact widened_sound snaps verdict
  | reject level distance r floor => exact fun other grid side room => reject_optimal snaps verdict grid side room

theorem widenSlToSpreadFloor_sound_cent :
    (widenSlToSpreadFloor 2 (15 / 10) 12 (1 / 10) 1 (1 / 100)).Sound 2 (15 / 10) 12 (1 / 10) 1 (1 / 100) :=
  widenSlToSpreadFloor_sound (by norm_num)
    (.inr ⟨⟨1, by decide +kernel⟩, fun _ => ⟨100, by decide +kernel⟩⟩)

/-- A level a hair beyond a grid line is taken for the line, and the widened stop is inside the floor again. -/
theorem widened_dust :
    widenSlToSpreadFloor 2 (15 / 10) 12 (1 / 10 + 1 / 10 ^ 11) 1 1 = .widened 1 1 10 ∧
      (1 : Rat) < slMinSpreadMultiple * (1 / 10 + 1 / 10 ^ 11) ∧
      widenSlToSpreadFloor 2 1 12 (1 / 10 + 1 / 10 ^ 11) 1 1 ≠ .unchanged := by
  decide +kernel

end TradeControl
