import Mathlib.Data.Rat.Floor
import TradeControl.Foundation.RankedValues

namespace TradeControl

open Foundation

/-- One minute reduced to what the profile needs: the hour of its schedule's clock, its spread as a
fraction of the mid, and the mid. -/
structure MinuteBar where
  localHour : Nat
  spreadFrac : Rat
  midClose : Rat
  spread_nonneg : 0 ≤ spreadFrac
  mid_pos : 0 < midClose

def medMult : Rat := 3
def peakFrac : Rat := 3 / 5
def minInstrumentBars : Nat := 48
def minMaskHours : Nat := 12
def widenPercentile : Rat := 9 / 10
def flagPercentile : Rat := 3 / 4
def minHourMinutes : Nat := 20

inductive ReviewStatus
  | reviewed
  | insufficientData
  | maskNotComputable
  deriving DecidableEq

structure SpreadProfile where
  elevatedHours : Nat
  hourWidenFrac : Fin 24 → Rat
  vol : Rat
  medianRatio : Rat
  hourP90Frac : Fin 24 → Rat
  hourRatio : Fin 24 → Rat
  review : ReviewStatus
  nBars : Nat
  baselineLowPips : Rat
  baselineHighPips : Rat
  baselineMedianPips : Rat

def SpreadProfile.empty (nBars : Nat) : SpreadProfile where
  elevatedHours := 0
  hourWidenFrac _ := 0
  vol := 0
  medianRatio := 0
  hourP90Frac _ := 0
  hourRatio _ := 0
  review := .insufficientData
  nBars := nBars
  baselineLowPips := 0
  baselineHighPips := 0
  baselineMedianPips := 0

def hours : List (Fin 24) := List.finRange 24

def SpreadProfile.elevatedVec (profile : SpreadProfile) : List (Fin 24) :=
  hours.filter fun h => profile.elevatedHours.testBit h

/-- The percentile of some values; nothing stands for the NaN of no values. -/
def percentile (values : List Rat) (p : Rat) : Option Rat := quantile values p

def median (values : List Rat) : Option Rat := percentile values (1 / 2)

/-- One mid for each run of minutes in the same local hour. -/
def hourlyMids (lastHour : Option Nat) : List MinuteBar → List Rat
  | [] => []
  | b :: later =>
    if lastHour ≠ some b.localHour then b.midClose :: hourlyMids (some b.localHour) later
    else hourlyMids lastHour later

/-- The relative moves between neighbouring mids. -/
def returns (mids : List Rat) : List Rat :=
  ((mids.zip mids.tail).filter fun w => 0 < w.1).map fun w => |w.2 - w.1| / w.1

def byHour (bars : List MinuteBar) (h : Fin 24) : List Rat :=
  (bars.filter fun b => b.localHour = h.val).map (·.spreadFrac)

def hourFlag (bars : List MinuteBar) (h : Fin 24) : Option Rat :=
  if (byHour bars h).length < minHourMinutes then none else percentile (byHour bars h) flagPercentile

def hourP90 (bars : List MinuteBar) (h : Fin 24) : Rat :=
  if (byHour bars h).length < minHourMinutes then 0
  else (percentile (byHour bars h) widenPercentile).getD 0

/-- The spread of the whole window in pips: low, median and high. -/
def baselinePips (bars : List MinuteBar) (pipSize : Rat) : Rat × Rat × Rat :=
  if ¬ 0 < pipSize then (0, 0, 0)
  else
    let pips := bars.map fun b => b.spreadFrac * b.midClose / pipSize
    if pips.isEmpty then (0, 0, 0)
    else ((percentile pips (1 / 10)).getD 0, (percentile pips (1 / 2)).getD 0, (percentile pips (9 / 10)).getD 0)

/-- Whether an hour passes the gate on the median and the gate on the peak. -/
def elevates (flagRatio : Fin 24 → Option Rat) (medThreshold peakThreshold : Rat) (h : Fin 24) : Bool :=
  match flagRatio h with
  | some r => decide (medThreshold ≤ r) && decide (peakThreshold ≤ r)
  | none => false

def maskOf (elevated : Fin 24 → Bool) : Nat :=
  hours.foldl (fun mask h => if elevated h then mask ||| 1 <<< h.val else mask) 0

def applyGates (flagRatio : Fin 24 → Option Rat) (hourP90 : Fin 24 → Rat) (vol : Rat) (nBars : Nat)
    (baselineLowPips baselineMedianPips baselineHighPips : Rat) : SpreadProfile :=
  let maskLess : SpreadProfile :=
    { elevatedHours := 0
      hourWidenFrac := fun _ => 0
      vol := vol
      medianRatio := 0
      hourP90Frac := hourP90
      hourRatio := fun h => (flagRatio h).getD 0
      review := .maskNotComputable
      nBars := nBars
      baselineLowPips := baselineLowPips
      baselineHighPips := baselineHighPips
      baselineMedianPips := baselineMedianPips }
  let ratios := hours.filterMap flagRatio
  if ratios.length < minMaskHours then maskLess
  else
    match median ratios, ratios.max? with
    | some medianRatio, some peakRatio =>
      if ¬ 0 < medianRatio then maskLess
      else
        let elevated := elevates flagRatio (medMult * medianRatio) (peakFrac * peakRatio)
        { elevatedHours := maskOf elevated
          hourWidenFrac := fun h => if elevated h then hourP90 h else 0
          vol := vol
          medianRatio := medianRatio
          hourP90Frac := hourP90
          hourRatio := fun h => (flagRatio h).getD 0
          review := .reviewed
          nBars := nBars
          baselineLowPips := baselineLowPips
          baselineHighPips := baselineHighPips
          baselineMedianPips := baselineMedianPips }
    | _, _ => maskLess

def flagRatio (bars : List MinuteBar) (vol : Rat) (h : Fin 24) : Option Rat :=
  (hourFlag bars h).map fun m => if 0 < vol then m / vol else 0

def minuteProfile (bars : List MinuteBar) (pipSize : Rat) (minimumBars : Nat) (sparse : Bool) : SpreadProfile :=
  let n := bars.length
  if n < minimumBars then .empty n
  else
    let rets := returns (hourlyMids none bars)
    let vol := if sparse && rets.isEmpty then some 0 else median rets
    match vol with
    | none => .empty n
    | some vol =>
      if !sparse && decide (vol ≤ 0) then .empty n
      else
        let pips := baselinePips bars pipSize
        applyGates (flagRatio bars vol) (hourP90 bars) vol n pips.1 pips.2.1 pips.2.2

def profileFromMinutes (bars : List MinuteBar) (pipSize : Rat) : SpreadProfile :=
  minuteProfile bars pipSize (minInstrumentBars * minHourMinutes) false

def profileFromSparseMinutes (bars : List MinuteBar) (pipSize : Rat) : SpreadProfile :=
  minuteProfile bars pipSize minHourMinutes true

section
variable {flags : Fin 24 → Option Rat} {p90 : Fin 24 → Rat} {vol : Rat} {n : Nat} {low mid high : Rat}

theorem foldl_mask_testBit {elevated : Fin 24 → Bool} {listed : List (Fin 24)} {mask bit : Nat} :
    (listed.foldl (fun mask h => if elevated h then mask ||| 1 <<< h.val else mask) mask).testBit bit = true ↔
      mask.testBit bit = true ∨ ∃ h ∈ listed, h.val = bit ∧ elevated h = true := by
  induction listed generalizing mask with
  | nil => simp
  | cons first rest ih =>
    rw [List.foldl_cons, ih]
    cases up : elevated first with
    | true =>
      rw [if_pos rfl, Nat.testBit_or, Nat.shiftLeft_eq, one_mul, Nat.testBit_two_pow]
      simp [up, or_assoc]
    | false => simp [up]

theorem maskOf_testBit {elevated : Fin 24 → Bool} {bit : Nat} :
    (maskOf elevated).testBit bit = true ↔ ∃ h : Fin 24, h.val = bit ∧ elevated h = true := by
  unfold maskOf
  rw [foldl_mask_testBit]
  simp [hours]

/-- An hour is in the mask when the hours can be ranked and its ratio passes both gates. -/
theorem applyGates_testBit {bit : Nat} :
    (applyGates flags p90 vol n low mid high).elevatedHours.testBit bit = true ↔
      minMaskHours ≤ (hours.filterMap flags).length ∧
        ∃ medianRatio peakRatio, median (hours.filterMap flags) = some medianRatio ∧
          (hours.filterMap flags).max? = some peakRatio ∧ 0 < medianRatio ∧
          ∃ h : Fin 24, h.val = bit ∧ ∃ r, flags h = some r ∧
            medMult * medianRatio ≤ r ∧ peakFrac * peakRatio ≤ r := by
  have passes (med peak : Rat) (h : Fin 24) :
      elevates flags med peak h = true ↔ ∃ r, flags h = some r ∧ med ≤ r ∧ peak ≤ r := by
    unfold elevates
    cases flags h <;> simp
  unfold applyGates
  dsimp only
  by_cases few : (hours.filterMap flags).length < minMaskHours
  · rw [if_pos few]
    simp [Nat.not_le.mpr few]
  · rw [if_neg few]
    cases median (hours.filterMap flags) with
    | none => simp
    | some medianRatio =>
      cases (hours.filterMap flags).max? with
      | none => simp
      | some peakRatio =>
        by_cases positive : 0 < medianRatio
        · simp [positive, maskOf_testBit, passes, Nat.le_of_not_lt few]
        · simp [positive]

theorem max?_scale {factor : Rat} (positive : 0 < factor) (values : List Rat) :
    (values.map (factor * ·)).max? = values.max?.map (factor * ·) := by
  cases found : values.max? with
  | none =>
    rw [List.max?_eq_none_iff.mp found]
    rfl
  | some most =>
    obtain ⟨member, bound⟩ := List.max?_eq_some_iff.mp found
    refine List.max?_eq_some_iff.mpr ⟨List.mem_map_of_mem member, ?_⟩
    intro value image
    obtain ⟨other, member, rfl⟩ := List.mem_map.mp image
    exact mul_le_mul_of_nonneg_left (bound other member) positive.le

theorem elevates_scale {factor : Rat} (positive : 0 < factor) (med peak : Rat) :
    elevates (fun h => (flags h).map (factor * ·)) (factor * med) (factor * peak) = elevates flags med peak := by
  funext h
  unfold elevates
  dsimp only
  cases flags h with
  | none => rfl
  | some r => simp only [Option.map_some, mul_le_mul_iff_right₀ positive]

/-- A profile with the same mask whose hourly spreads are those of another by a factor. -/
structure SpreadProfile.ScaledBy (factor : Rat) (profile scaled : SpreadProfile) : Prop where
  mask : scaled.elevatedHours = profile.elevatedHours
  widen : ∀ h, scaled.hourWidenFrac h = factor * profile.hourWidenFrac h
  p90 : ∀ h, scaled.hourP90Frac h = factor * profile.hourP90Frac h

/-- The gates weigh the ratios against each other only. -/
theorem applyGates_scale {factor : Rat} (positive : 0 < factor) (low' mid' high' : Rat) :
    (applyGates flags p90 vol n low mid high).ScaledBy factor
      (applyGates (fun h => (flags h).map (factor * ·)) (fun h => factor * p90 h) vol n low' mid' high') := by
  have ratios : (hours.filterMap fun h => (flags h).map (factor * ·)) =
      (hours.filterMap flags).map (factor * ·) := List.map_filterMap.symm
  have middle : median ((hours.filterMap flags).map (factor * ·)) =
      (median (hours.filterMap flags)).map (factor * ·) := quantile_scale positive _ _
  unfold applyGates
  dsimp only
  rw [ratios, List.length_map, middle, max?_scale positive]
  by_cases few : (hours.filterMap flags).length < minMaskHours
  · rw [if_pos few, if_pos few]
    exact ⟨rfl, fun _ => (mul_zero factor).symm, fun _ => rfl⟩
  · rw [if_neg few, if_neg few]
    cases median (hours.filterMap flags) with
    | none => exact ⟨rfl, fun _ => (mul_zero factor).symm, fun _ => rfl⟩
    | some medianRatio =>
      cases (hours.filterMap flags).max? with
      | none => exact ⟨rfl, fun _ => (mul_zero factor).symm, fun _ => rfl⟩
      | some peakRatio =>
        simp only [Option.map_some, mul_pos_iff_of_pos_left positive]
        by_cases ranks : 0 < medianRatio
        · rw [if_neg (not_not.mpr ranks), if_neg (not_not.mpr ranks), mul_left_comm medMult,
            mul_left_comm peakFrac, elevates_scale positive]
          refine ⟨rfl, fun h => ?_, fun _ => rfl⟩
          dsimp only
          split
          · rfl
          · exact (mul_zero factor).symm
        · rw [if_pos ranks, if_pos ranks]
          exact ⟨rfl, fun _ => (mul_zero factor).symm, fun _ => rfl⟩

end

/-- The volatility that the hours of a series are measured by, when there are enough minutes for one. -/
def measuredVol (bars : List MinuteBar) (minimumBars : Nat) (sparse : Bool) : Option Rat :=
  if bars.length < minimumBars then none
  else
    let rets := returns (hourlyMids none bars)
    (if sparse && rets.isEmpty then some 0 else median rets).bind fun vol =>
      if !sparse && decide (vol ≤ 0) then none else some vol

section
variable {bars : List MinuteBar} {pipSize vol : Rat} {minimumBars : Nat} {sparse : Bool}

theorem minuteProfile_unmeasured (none_ : measuredVol bars minimumBars sparse = none) :
    minuteProfile bars pipSize minimumBars sparse = .empty bars.length := by
  unfold measuredVol at none_
  unfold minuteProfile
  dsimp only at none_ ⊢
  split
  next => rfl
  next enough =>
    rw [if_neg enough] at none_
    cases known : (if sparse && (returns (hourlyMids none bars)).isEmpty then some 0
      else median (returns (hourlyMids none bars))) with
    | none => rfl
    | some vol =>
      rw [known, Option.bind_some] at none_
      dsimp only
      split at none_
      next still => rw [if_pos still]
      next => cases none_

theorem minuteProfile_measured (known : measuredVol bars minimumBars sparse = some vol) :
    minuteProfile bars pipSize minimumBars sparse =
      applyGates (flagRatio bars vol) (hourP90 bars) vol bars.length (baselinePips bars pipSize).1
        (baselinePips bars pipSize).2.1 (baselinePips bars pipSize).2.2 := by
  unfold measuredVol at known
  unfold minuteProfile
  dsimp only at known ⊢
  split at known
  next => cases known
  next enough =>
    rw [if_neg enough]
    obtain ⟨vol', found, kept⟩ := Option.bind_eq_some_iff.mp known
    split at kept
    next => cases kept
    next moving =>
      cases kept
      rw [found]
      dsimp only
      rw [if_neg moving]

end

/-- The bar with its spread times a factor. -/
def MinuteBar.scaleSpread (factor : { k : Rat // 0 < k }) (bar : MinuteBar) : MinuteBar :=
  { bar with
    spreadFrac := factor.val * bar.spreadFrac
    spread_nonneg := mul_nonneg factor.property.le bar.spread_nonneg }

/-- The bar with its mid times a factor. -/
def MinuteBar.scaleMid (factor : { k : Rat // 0 < k }) (bar : MinuteBar) : MinuteBar :=
  { bar with
    midClose := factor.val * bar.midClose
    mid_pos := mul_pos factor.property bar.mid_pos }

section
variable (factor : { k : Rat // 0 < k }) (bars : List MinuteBar)

theorem hourlyMids_scaleSpread (lastHour : Option Nat) :
    hourlyMids lastHour (bars.map (·.scaleSpread factor)) = hourlyMids lastHour bars := by
  induction bars generalizing lastHour with
  | nil => rfl
  | cons first rest ih =>
    rw [List.map_cons, hourlyMids, hourlyMids, ih, ih]
    rfl

theorem hourlyMids_scaleMid (lastHour : Option Nat) :
    hourlyMids lastHour (bars.map (·.scaleMid factor)) = (hourlyMids lastHour bars).map (factor.val * ·) := by
  induction bars generalizing lastHour with
  | nil => rfl
  | cons first rest ih =>
    rw [List.map_cons, hourlyMids, hourlyMids, ih, ih, apply_ite (List.map _), List.map_cons]
    rfl

/-- Moves relative to the mid they start at do not tell a unit of price. -/
theorem returns_scale (mids : List Rat) : returns (mids.map (factor.val * ·)) = returns mids := by
  have positive := factor.property
  unfold returns
  rw [← List.map_tail, List.zip_map, List.filter_map, List.map_map]
  have kept : ((fun w : Rat × Rat => decide (0 < w.1)) ∘ Prod.map (factor.val * ·) (factor.val * ·)) =
      fun w => decide (0 < w.1) := by
    funext w
    simp only [Function.comp_apply, Prod.map_fst, mul_pos_iff_of_pos_left positive]
  have moved : ((fun w : Rat × Rat => |w.2 - w.1| / w.1) ∘ Prod.map (factor.val * ·) (factor.val * ·)) =
      fun w => |w.2 - w.1| / w.1 := by
    funext w
    simp only [Function.comp_apply, Prod.map_fst, Prod.map_snd]
    rw [← mul_sub, abs_mul, abs_of_pos positive, mul_div_mul_left _ _ positive.ne']
  rw [kept, moved]

theorem byHour_scaleSpread (h : Fin 24) :
    byHour (bars.map (·.scaleSpread factor)) h = (byHour bars h).map (factor.val * ·) := by
  unfold byHour
  rw [List.filter_map, List.map_map, List.map_map]
  rfl

theorem byHour_scaleMid (h : Fin 24) : byHour (bars.map (·.scaleMid factor)) h = byHour bars h := by
  unfold byHour
  rw [List.filter_map, List.map_map]
  rfl

theorem measuredVol_scaleSpread (minimumBars : Nat) (sparse : Bool) :
    measuredVol (bars.map (·.scaleSpread factor)) minimumBars sparse = measuredVol bars minimumBars sparse := by
  unfold measuredVol
  rw [List.length_map, hourlyMids_scaleSpread]

theorem measuredVol_scaleMid (minimumBars : Nat) (sparse : Bool) :
    measuredVol (bars.map (·.scaleMid factor)) minimumBars sparse = measuredVol bars minimumBars sparse := by
  unfold measuredVol
  rw [List.length_map, hourlyMids_scaleMid, returns_scale]

theorem flagRatio_scaleSpread (vol : Rat) :
    flagRatio (bars.map (·.scaleSpread factor)) vol =
      fun h => (flagRatio bars vol h).map (factor.val * ·) := by
  funext h
  have scaled := quantile_scale factor.property (byHour bars h) flagPercentile
  unfold flagRatio hourFlag percentile
  rw [byHour_scaleSpread, List.length_map, scaled]
  by_cases few : (byHour bars h).length < minHourMinutes
  · rw [if_pos few, if_pos few]
    rfl
  · rw [if_neg few, if_neg few, Option.map_map, Option.map_map]
    congr 1
    funext m
    by_cases moving : 0 < vol
    · simp only [Function.comp_apply, if_pos moving, mul_div_assoc]
    · simp only [Function.comp_apply, if_neg moving, mul_zero]

theorem hourP90_scaleSpread :
    hourP90 (bars.map (·.scaleSpread factor)) = fun h => factor.val * hourP90 bars h := by
  funext h
  have scaled := quantile_scale factor.property (byHour bars h) widenPercentile
  unfold hourP90 percentile
  rw [byHour_scaleSpread, List.length_map, scaled]
  split
  · rw [mul_zero]
  · cases quantile (byHour bars h) widenPercentile with
    | none => simp
    | some value => rfl

theorem minuteProfile_scaleSpread (pipSize : Rat) (minimumBars : Nat) (sparse : Bool) :
    (minuteProfile bars pipSize minimumBars sparse).ScaledBy factor.val
      (minuteProfile (bars.map (·.scaleSpread factor)) pipSize minimumBars sparse) := by
  have same := measuredVol_scaleSpread factor bars minimumBars sparse
  cases known : measuredVol bars minimumBars sparse with
  | none =>
    rw [minuteProfile_unmeasured known, minuteProfile_unmeasured (same.trans known)]
    exact ⟨rfl, fun _ => (mul_zero _).symm, fun _ => (mul_zero _).symm⟩
  | some vol =>
    rw [minuteProfile_measured known, minuteProfile_measured (same.trans known), List.length_map,
      flagRatio_scaleSpread, hourP90_scaleSpread]
    exact applyGates_scale factor.property _ _ _

theorem minuteProfile_scaleMid (pipSize : Rat) (minimumBars : Nat) (sparse : Bool) :
    (minuteProfile bars pipSize minimumBars sparse).ScaledBy 1
      (minuteProfile (bars.map (·.scaleMid factor)) pipSize minimumBars sparse) := by
  have same := measuredVol_scaleMid factor bars minimumBars sparse
  cases known : measuredVol bars minimumBars sparse with
  | none =>
    rw [minuteProfile_unmeasured known, minuteProfile_unmeasured (same.trans known)]
    exact ⟨rfl, fun _ => (mul_zero _).symm, fun _ => (mul_zero _).symm⟩
  | some vol =>
    have flags : flagRatio (bars.map (·.scaleMid factor)) vol = fun h => (flagRatio bars vol h).map (1 * ·) := by
      funext h
      unfold flagRatio hourFlag
      rw [byHour_scaleMid]
      simp only [one_mul, Option.map_id']
    have widens : hourP90 (bars.map (·.scaleMid factor)) = fun h => 1 * hourP90 bars h := by
      funext h
      unfold hourP90
      rw [byHour_scaleMid, one_mul]
    rw [minuteProfile_measured known, minuteProfile_measured (same.trans known), List.length_map, flags, widens]
    exact applyGates_scale one_pos _ _ _

end

section
variable {flags : Fin 24 → Option Rat} {p90 : Fin 24 → Rat} {vol : Rat} {n : Nat} {low mid high : Rat}

theorem applyGates_hourRatio (h : Fin 24) :
    (applyGates flags p90 vol n low mid high).hourRatio h = (flags h).getD 0 := by
  unfold applyGates
  dsimp only
  split
  · rfl
  · split
    · split
      · rfl
      · rfl
    · rfl

/-- With an hour in the mask, so is every hour whose ratio is no smaller. -/
theorem applyGates_upward {h other : Fin 24}
    (inMask : (applyGates flags p90 vol n low mid high).elevatedHours.testBit h.val = true)
    (larger : (applyGates flags p90 vol n low mid high).hourRatio h ≤
      (applyGates flags p90 vol n low mid high).hourRatio other) :
    (applyGates flags p90 vol n low mid high).elevatedHours.testBit other.val = true := by
  rw [applyGates_hourRatio, applyGates_hourRatio] at larger
  rw [applyGates_testBit] at inMask ⊢
  obtain ⟨enough, medianRatio, peakRatio, middle, peak, positive, hour, sameHour, r, known, overMed, overPeak⟩ :=
    inMask
  obtain rfl : hour = h := Fin.ext sameHour
  rw [known, Option.getD_some] at larger
  refine ⟨enough, medianRatio, peakRatio, middle, peak, positive, other, rfl, ?_⟩
  cases found : flags other with
  | none =>
    rw [found, Option.getD_none] at larger
    unfold medMult at overMed
    linarith
  | some ratio =>
    rw [found, Option.getD_some] at larger
    exact ⟨ratio, rfl, overMed.trans larger, overPeak.trans larger⟩

theorem applyGates_peak {h : Fin 24}
    (some_ : (applyGates flags p90 vol n low mid high).elevatedHours ≠ 0)
    (largest : ∀ other, (applyGates flags p90 vol n low mid high).hourRatio other ≤
      (applyGates flags p90 vol n low mid high).hourRatio h) :
    (applyGates flags p90 vol n low mid high).elevatedHours.testBit h.val = true := by
  obtain ⟨bit, isSet⟩ := Nat.exists_testBit_of_ne_zero some_
  obtain ⟨_, _, _, _, _, _, hour, rfl, _⟩ := applyGates_testBit.mp isSet
  exact applyGates_upward isSet (largest hour)

/-- Ratios that are not negative have fewer than half of them at the threshold on their median. -/
theorem overMedian_minority {ratios : List Rat} {medianRatio : Rat} (middle : median ratios = some medianRatio)
    (positive : 0 < medianRatio) (nonneg : ∀ r ∈ ratios, 0 ≤ r) :
    2 * ratios.countP (fun r => decide (medMult * medianRatio ≤ r)) < ratios.length := by
  have count : 0 < ratios.length := by
    cases ratios with
    | nil => cases middle
    | cons => exact Nat.succ_pos _
  have half : ratios.length / 2 < ratios.length := Nat.div_lt_self count one_lt_two
  have under : rankedAt ratios (ratios.length / 2) < medMult * medianRatio := by
    have atMost := middle_le_median middle nonneg
    unfold medMult
    linarith
  have down : ∀ a b : Rat, a ≤ b → decide (b < medMult * medianRatio) = true →
      decide (a < medMult * medianRatio) = true :=
    fun a b le held => decide_eq_true (le.trans_lt (of_decide_eq_true held))
  have most := (rankedAt_below_iff down half).mp (decide_eq_true under)
  have split := List.length_eq_countP_add_countP (fun r => decide (r < medMult * medianRatio)) (l := ratios)
  simp only [decide_eq_true_eq, not_lt] at split
  omega

theorem applyGates_minority (nonneg : ∀ h r, flags h = some r → 0 ≤ r)
    (some_ : (applyGates flags p90 vol n low mid high).elevatedHours ≠ 0) :
    2 * (applyGates flags p90 vol n low mid high).elevatedVec.length <
      (hours.filter fun h => (flags h).isSome).length := by
  obtain ⟨bit, isSet⟩ := Nat.exists_testBit_of_ne_zero some_
  obtain ⟨_, medianRatio, _, middle, _, positive, _⟩ := applyGates_testBit.mp isSet
  have ratios : ∀ r ∈ hours.filterMap flags, 0 ≤ r := by
    intro r member
    obtain ⟨h, _, known⟩ := List.mem_filterMap.mp member
    exact nonneg h r known
  have minority := overMedian_minority middle positive ratios
  have elevated : (applyGates flags p90 vol n low mid high).elevatedVec.length ≤
      (hours.filterMap flags).countP fun r => decide (medMult * medianRatio ≤ r) := by
    unfold SpreadProfile.elevatedVec
    rw [List.countP_filterMap, ← List.countP_eq_length_filter]
    refine List.countP_mono_left fun h _ inMask => ?_
    obtain ⟨_, medianRatio', _, middle', _, _, hour, sameHour, r, known, overMed, _⟩ :=
      applyGates_testBit.mp inMask
    obtain rfl : hour = h := Fin.ext sameHour
    cases middle.symm.trans middle'
    rw [known]
    exact decide_eq_true overMed
  rw [List.length_filterMap_eq_countP] at minority
  rw [← List.countP_eq_length_filter]
  omega

end

section
variable {bars : List MinuteBar} {minimumBars : Nat} {sparse : Bool}

theorem flagRatio_nonneg {vol r : Rat} {h : Fin 24} (known : flagRatio bars vol h = some r) : 0 ≤ r := by
  unfold flagRatio hourFlag at known
  obtain ⟨flag, found, rfl⟩ := Option.map_eq_some_iff.mp known
  split at found
  next => cases found
  next =>
    have spreads : ∀ spread ∈ byHour bars h, 0 ≤ spread := by
      intro spread member
      obtain ⟨bar, _, rfl⟩ := List.mem_map.mp member
      exact bar.spread_nonneg
    have flagged := quantile_nonneg (by norm_num [flagPercentile]) (by norm_num [flagPercentile]) found spreads
    split
    next moving => exact div_nonneg flagged moving.le
    next => exact le_rfl

/-- The hours with minutes enough to be ranked. -/
def rankedHours (bars : List MinuteBar) : List (Fin 24) :=
  hours.filter fun h => minHourMinutes ≤ (byHour bars h).length

theorem flagRatio_isSome (vol : Rat) (h : Fin 24) :
    (flagRatio bars vol h).isSome = decide (minHourMinutes ≤ (byHour bars h).length) := by
  unfold flagRatio hourFlag
  rw [Option.isSome_map]
  by_cases few : (byHour bars h).length < minHourMinutes
  · rw [if_pos few, decide_eq_false (Nat.not_le.mpr few)]
    rfl
  · have listed : (byHour bars h).isEmpty = false := by
      cases found : byHour bars h with
      | nil =>
        rw [found] at few
        exact absurd (by decide) few
      | cons => rfl
    rw [if_neg few, decide_eq_true (Nat.le_of_not_lt few)]
    unfold percentile quantile
    rw [listed]
    rfl

/-- The mask of a profile: with an hour every hour no less dear, with the dearest hour, and fewer than
half of the hours that can be ranked. -/
structure SpreadProfile.Minority (profile : SpreadProfile) (rankedHours : List (Fin 24)) : Prop where
  upward : ∀ h other : Fin 24, profile.elevatedHours.testBit h = true →
    profile.hourRatio h ≤ profile.hourRatio other → profile.elevatedHours.testBit other = true
  peak : ∀ h : Fin 24, (∀ other, profile.hourRatio other ≤ profile.hourRatio h) →
    profile.elevatedHours.testBit h = true
  fewer : 2 * profile.elevatedVec.length < rankedHours.length

theorem minuteProfile_minority {pipSize : Rat}
    (some_ : (minuteProfile bars pipSize minimumBars sparse).elevatedHours ≠ 0) :
    (minuteProfile bars pipSize minimumBars sparse).Minority (rankedHours bars) := by
  cases known : measuredVol bars minimumBars sparse with
  | none =>
    rw [minuteProfile_unmeasured known] at some_
    exact absurd rfl some_
  | some vol =>
    rw [minuteProfile_measured known] at some_ ⊢
    refine ⟨fun h other => applyGates_upward, fun h => applyGates_peak some_, ?_⟩
    have fewer := applyGates_minority (fun h r => flagRatio_nonneg) some_
    simp only [flagRatio_isSome] at fewer
    exact fewer

end

/-- A minute whose spread was raised by an amount, or that was left as it is. -/
def raisedMinute (minute : MinuteBar × Option { amount : Rat // 0 ≤ amount }) : MinuteBar :=
  match minute.2 with
  | none => minute.1
  | some amount =>
    { minute.1 with
      spreadFrac := minute.1.spreadFrac + amount.val
      spread_nonneg := add_nonneg minute.1.spread_nonneg amount.property }

section
variable {minutes : List (MinuteBar × Option { amount : Rat // 0 ≤ amount })} {h : Fin 24}

/-- The minutes of an hour, raised or not. -/
def minutesOf (minutes : List (MinuteBar × Option { amount : Rat // 0 ≤ amount })) (h : Fin 24) :
    List (MinuteBar × Option { amount : Rat // 0 ≤ amount }) :=
  minutes.filter fun minute => minute.1.localHour = h.val

theorem raisedMinute_localHour (minute : MinuteBar × Option { amount : Rat // 0 ≤ amount }) :
    (raisedMinute minute).localHour = minute.1.localHour := by
  unfold raisedMinute
  split <;> rfl

theorem byHour_raised : byHour (minutes.map raisedMinute) h =
    (minutesOf minutes h).map fun minute => (raisedMinute minute).spreadFrac := by
  unfold byHour minutesOf
  rw [List.filter_map, List.map_map]
  have sameHour : ((fun b : MinuteBar => decide (b.localHour = h.val)) ∘ raisedMinute) =
      fun minute => decide (minute.1.localHour = h.val) := by
    funext minute
    simp only [Function.comp_apply, raisedMinute_localHour]
  rw [sameHour]
  rfl

/-- Raising a quarter of an hour's minutes does not lift its flag statistic above what the others reach. -/
theorem percentile_resists {stat : Rat} (some_ : 0 < (minutesOf minutes h).length)
    (few : (minutesOf minutes h).countP (fun minute => minute.2.isSome) ≤ ((minutesOf minutes h).length - 1) / 4)
    (flagged : percentile (byHour (minutes.map raisedMinute) h) flagPercentile = some stat) :
    ∃ bar, (bar, none) ∈ minutesOf minutes h ∧ stat ≤ bar.spreadFrac := by
  rw [byHour_raised] at flagged
  generalize minutesOf minutes h = listed at some_ few flagged ⊢
  have split := List.length_eq_countP_add_countP (fun minute => minute.2.isSome) (l := listed)
  have kept : (listed.filter fun minute => ¬ minute.2.isSome).map (·.1.spreadFrac) ≠ [] := by
    intro empty
    have none_ : (listed.filter fun minute => ¬ minute.2.isSome).length = 0 := by
      rw [List.map_eq_nil_iff.mp empty]
      rfl
    rw [← List.countP_eq_length_filter] at none_
    omega
  obtain ⟨most, found⟩ := Option.ne_none_iff_exists'.mp (mt List.max?_eq_none_iff.mp kept)
  obtain ⟨member, bound⟩ := List.max?_eq_some_iff.mp found
  obtain ⟨⟨bar, raise⟩, unraised, rfl⟩ := List.mem_map.mp member
  obtain ⟨inHour, isNone⟩ := List.mem_filter.mp unraised
  obtain rfl : raise = none := by simpa using isNone
  refine ⟨bar, inHour, quantile_le (by norm_num [flagPercentile]) (by norm_num [flagPercentile]) flagged ?_⟩
  rw [List.length_map, List.countP_map]
  have quiet : listed.countP (fun minute => ¬ minute.2.isSome) ≤
      listed.countP ((fun other => decide (other ≤ bar.spreadFrac)) ∘
        fun minute => (raisedMinute minute).spreadFrac) := by
    refine List.countP_mono_left fun minute within stays => ?_
    obtain ⟨other, raise⟩ := minute
    obtain rfl : raise = none := by simpa using stays
    exact decide_eq_true (bound _ (List.mem_map.mpr ⟨(other, none), List.mem_filter.mpr ⟨within, stays⟩, rfl⟩))
  have rank : ⌈((listed.length - 1 : Nat) : Rat) * flagPercentile⌉₊ ≤
      (listed.length - 1) - (listed.length - 1) / 4 := by
    refine Nat.ceil_le.mpr ?_
    have quarter : (((listed.length - 1) / 4 : Nat) : Rat) * 4 ≤ ((listed.length - 1 : Nat) : Rat) := by
      exact_mod_cast Nat.div_mul_le_self _ _
    rw [Nat.cast_sub (Nat.div_le_self _ _)]
    unfold flagPercentile
    linarith
  omega

end

/-- The mask of a minute profile tells neither the unit of the spreads nor that of the prices, is a
minority of the hours, and is not moved by a short ramp. -/
theorem profileFromMinutes_laws (bars : List MinuteBar) (pipSize : Rat) :
    (∀ factor, (profileFromMinutes bars pipSize).ScaledBy factor.val
      (profileFromMinutes (bars.map (·.scaleSpread factor)) pipSize)) ∧
    (∀ factor, (profileFromMinutes bars pipSize).ScaledBy 1
      (profileFromMinutes (bars.map (·.scaleMid factor)) pipSize)) ∧
    ((profileFromMinutes bars pipSize).elevatedHours ≠ 0 →
      (profileFromMinutes bars pipSize).Minority (rankedHours bars)) ∧
    ∀ (minutes : List (MinuteBar × Option { amount : Rat // 0 ≤ amount })) (h : Fin 24) (stat : Rat),
      minutes.map (·.1) = bars → 0 < (minutesOf minutes h).length →
      (minutesOf minutes h).countP (fun minute => minute.2.isSome) ≤ ((minutesOf minutes h).length - 1) / 4 →
      percentile (byHour (minutes.map raisedMinute) h) flagPercentile = some stat →
      ∃ bar, (bar, none) ∈ minutesOf minutes h ∧ stat ≤ bar.spreadFrac :=
  ⟨fun factor => minuteProfile_scaleSpread factor bars _ _ _,
    fun factor => minuteProfile_scaleMid factor bars _ _ _, minuteProfile_minority,
    fun _ _ _ _ some_ few flagged => percentile_resists some_ few flagged⟩

/-- A minute of a day whose hour 21 is ten times as dear as the others. -/
def spikeMinute (h : Nat) : MinuteBar where
  localHour := h
  spreadFrac := if h = 21 then 1 / 100 else 1 / 1000
  midClose := if h % 2 = 0 then 100 else 101
  spread_nonneg := by split <;> norm_num
  mid_pos := by split <;> norm_num

/-- That day with the last four minutes of its hour 20 raised. -/
def rampDay : List (MinuteBar × Option { amount : Rat // 0 ≤ amount }) :=
  (List.range 24).flatMap fun h =>
    List.replicate 36 (spikeMinute h, none) ++
      List.replicate 4 (spikeMinute h, if h = 20 then some ⟨1 / 100, by norm_num⟩ else none)

theorem rampDay_laws : (profileFromMinutes (rampDay.map (·.1)) 0).Minority (rankedHours (rampDay.map (·.1))) ∧
    ∃ bar, (bar, none) ∈ minutesOf rampDay 20 ∧ 1 / 1000 ≤ bar.spreadFrac := by
  obtain ⟨_, _, minority, resists⟩ := profileFromMinutes_laws (rampDay.map (·.1)) 0
  refine ⟨minority (by decide +kernel), resists rampDay 20 _ rfl ?_ ?_ ?_⟩
  · decide +kernel
  · decide +kernel
  · decide +kernel

end TradeControl
