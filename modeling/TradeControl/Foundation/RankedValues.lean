import Mathlib.Algebra.Order.Floor.Semiring
import Mathlib.Algebra.Order.Field.Basic
import Mathlib.Data.List.GetD
import Mathlib.Data.List.InsertIdx
import Mathlib.Data.List.Sort
import Mathlib.Tactic.FieldSimp
import Mathlib.Tactic.Linarith
import Mathlib.Tactic.Ring

namespace Foundation

/-- The value of a rank, the smallest value having rank nought. -/
def rankedAt {K : Type} [LinearOrder K] [Zero K] (values : List K) (rank : Nat) : K :=
  (values.insertionSort (· ≤ ·)).getD rank 0

section
variable {K : Type} [LinearOrder K]

/-- In a list that ascends, what lies below a line comes first. -/
theorem getElem_below_iff {below : K → Bool} (down : ∀ a b, a ≤ b → below b = true → below a = true)
    {values : List K} (sorted : values.Pairwise (· ≤ ·)) {index : Nat} (inside : index < values.length) :
    below values[index] = true ↔ index < values.countP below := by
  induction values generalizing index with
  | nil => cases inside
  | cons first rest ih =>
    obtain ⟨least, later⟩ := List.pairwise_cons.mp sorted
    cases under : below first with
    | true =>
      rw [List.countP_cons_of_pos under]
      cases index with
      | zero => simpa using under
      | succ index =>
        rw [List.getElem_cons_succ, ih later (Nat.lt_of_succ_lt_succ inside)]
        omega
    | false =>
      have none : ∀ value ∈ first :: rest, ¬ below value = true := by
        intro value member held
        rcases List.mem_cons.mp member with rfl | member
        · rw [under] at held
          cases held
        · rw [down first value (least value member) held] at under
          cases under
      rw [List.countP_eq_zero.mpr none]
      exact ⟨fun held => absurd held (none _ (List.getElem_mem inside)), fun past => by cases past⟩

theorem inside_sorted {values : List K} {rank : Nat} (inside : rank < values.length) :
    rank < (values.insertionSort (· ≤ ·)).length := by
  rwa [List.length_insertionSort]

variable [Zero K]

theorem rankedAt_eq {values : List K} {rank : Nat} (inside : rank < (values.insertionSort (· ≤ ·)).length) :
    rankedAt values rank = (values.insertionSort (· ≤ ·))[rank] :=
  List.getD_eq_getElem _ _ inside

theorem rankedAt_mem {values : List K} {rank : Nat} (inside : rank < values.length) :
    rankedAt values rank ∈ values := by
  rw [rankedAt_eq (inside_sorted inside)]
  exact (List.mem_insertionSort (· ≤ ·)).mp (List.getElem_mem _)

/-- The value of a rank is below a line just when more values than the rank are. -/
theorem rankedAt_below_iff {below : K → Bool} (down : ∀ a b, a ≤ b → below b = true → below a = true)
    {values : List K} {rank : Nat} (inside : rank < values.length) :
    below (rankedAt values rank) = true ↔ rank < values.countP below := by
  rw [rankedAt_eq (inside_sorted inside), getElem_below_iff down (List.pairwise_insertionSort (· ≤ ·) values),
    (List.perm_insertionSort (· ≤ ·) values).countP_eq]

theorem rankedAt_mono {values : List K} {first second : Nat} (le : first ≤ second)
    (inside : second < values.length) : rankedAt values first ≤ rankedAt values second := by
  rw [rankedAt_eq (inside_sorted inside), rankedAt_eq (inside_sorted (le.trans_lt inside))]
  rcases Nat.eq_or_lt_of_le le with rfl | lt
  · exact le_rfl
  · exact List.pairwise_iff_getElem.mp (List.pairwise_insertionSort (· ≤ ·) values) first second _ _ lt

end

section
variable {K : Type} [Field K] [LinearOrder K] [IsStrictOrderedRing K]

theorem rankedAt_scale {factor : K} (positive : 0 < factor) (values : List K) (rank : Nat) :
    rankedAt (values.map (factor * ·)) rank = factor * rankedAt values rank := by
  have sorted : (values.map (factor * ·)).insertionSort (· ≤ ·) =
      (values.insertionSort (· ≤ ·)).map (factor * ·) :=
    (List.map_insertionSort (· ≤ ·) (· ≤ ·) (factor * ·) values
      fun _ _ _ _ => (mul_le_mul_iff_right₀ positive).symm).symm
  unfold rankedAt
  rw [sorted, List.getD_eq_getElem?_getD, List.getD_eq_getElem?_getD, List.getElem?_map]
  cases (values.insertionSort (· ≤ ·))[rank]? with
  | none => simp
  | some value => rfl

variable [FloorRing K]

/-- The value that a share of the way up the ranks leads to, in proportion between neighbours. -/
def quantile (values : List K) (share : K) : Option K :=
  if values.isEmpty then none
  else
    let rank := ((values.length - 1 : Nat) : K) * share
    let lo := ⌊rank⌋₊
    let hi := min (lo + 1) (values.length - 1)
    some (rankedAt values lo + (rankedAt values hi - rankedAt values lo) * (rank - lo))

theorem quantile_scale {factor : K} (positive : 0 < factor) (values : List K) (share : K) :
    quantile (values.map (factor * ·)) share = (quantile values share).map (factor * ·) := by
  unfold quantile
  cases values with
  | nil => rfl
  | cons first rest =>
    simp only [rankedAt_scale positive, List.length_map, List.isEmpty_map, List.isEmpty_cons,
      Bool.false_eq_true, if_false, Option.map_some]
    congr 1
    ring

/-- A share leads to a rank, and to the value between the two whole ranks about it. -/
theorem quantile_eq {values : List K} {share value : K} (start : 0 ≤ share) (within : share ≤ 1)
    (found : quantile values share = some value) :
    ∃ rank : K, rank = ((values.length - 1 : Nat) : K) * share ∧ 0 ≤ rank - ⌊rank⌋₊ ∧ rank - ⌊rank⌋₊ ≤ 1 ∧
      ⌈rank⌉₊ < values.length ∧
      value = rankedAt values ⌊rank⌋₊ +
        (rankedAt values ⌈rank⌉₊ - rankedAt values ⌊rank⌋₊) * (rank - ⌊rank⌋₊) := by
  unfold quantile at found
  split at found
  next => cases found
  next nonempty =>
  dsimp only at found
  rw [Option.some.injEq] at found
  refine ⟨_, rfl, ?_⟩
  generalize rankEq : ((values.length - 1 : Nat) : K) * share = rank at found ⊢
  have count : 0 < values.length := List.length_pos_iff.mpr (by simpa using nonempty)
  have nonneg : 0 ≤ rank := by
    rw [← rankEq]
    exact mul_nonneg (Nat.cast_nonneg _) start
  have last : ⌈rank⌉₊ ≤ values.length - 1 := by
    rw [← rankEq]
    exact Nat.ceil_le.mpr (mul_le_of_le_one_right (Nat.cast_nonneg _) within)
  have floorLe := Nat.floor_le nonneg
  have ltFloor := Nat.lt_floor_add_one rank
  refine ⟨by linarith, by linarith, by omega, ?_⟩
  rw [← found]
  rcases eq_or_lt_of_le floorLe with whole | between
  · -- at a whole rank the neighbour has no part in the value
    rw [sub_eq_zero.mpr whole.symm, mul_zero, mul_zero]
  · have next : ⌈rank⌉₊ = ⌊rank⌋₊ + 1 := by
      refine le_antisymm (Nat.ceil_le.mpr ?_) (Nat.lt_ceil.mpr between)
      push_cast
      exact ltFloor.le
    rw [show min (⌊rank⌋₊ + 1) (values.length - 1) = ⌈rank⌉₊ by omega]

/-- A bound that more values than the rank keep to holds of what the share leads to. -/
theorem quantile_le {values : List K} {share value bound : K} (start : 0 ≤ share) (within : share ≤ 1)
    (found : quantile values share = some value)
    (kept : ⌈((values.length - 1 : Nat) : K) * share⌉₊ < values.countP fun other => decide (other ≤ bound)) :
    value ≤ bound := by
  obtain ⟨rank, rankEq, least, most, inside, rfl⟩ := quantile_eq start within found
  rw [← rankEq] at kept
  have down : ∀ a b : K, a ≤ b → decide (b ≤ bound) = true → decide (a ≤ bound) = true :=
    fun a b le held => decide_eq_true (le.trans (of_decide_eq_true held))
  have under : rankedAt values ⌈rank⌉₊ ≤ bound :=
    of_decide_eq_true ((rankedAt_below_iff down inside).mpr kept)
  have order := rankedAt_mono (Nat.floor_le_ceil rank) inside
  have gap : 0 ≤ (rankedAt values ⌈rank⌉₊ - rankedAt values ⌊rank⌋₊) * (1 - (rank - ⌊rank⌋₊)) :=
    mul_nonneg (by linarith) (by linarith)
  linarith

theorem quantile_nonneg {values : List K} {share value : K} (start : 0 ≤ share) (within : share ≤ 1)
    (found : quantile values share = some value) (nonneg : ∀ other ∈ values, 0 ≤ other) : 0 ≤ value := by
  obtain ⟨rank, _, least, most, inside, rfl⟩ := quantile_eq start within found
  have first := nonneg _ (rankedAt_mem ((Nat.floor_le_ceil rank).trans_lt inside))
  have order := rankedAt_mono (Nat.floor_le_ceil rank) inside
  exact add_nonneg first (mul_nonneg (by linarith) least)

/-- Of values that are not negative, the upper of the middle ones is at most twice the median. -/
theorem middle_le_median {values : List K} {median : K} (found : quantile values (1 / 2) = some median)
    (nonneg : ∀ other ∈ values, 0 ≤ other) : rankedAt values (values.length / 2) ≤ 2 * median := by
  obtain ⟨rank, rankEq, _, _, inside, rfl⟩ := quantile_eq (by norm_num) (by norm_num) found
  have first := nonneg _ (rankedAt_mem ((Nat.floor_le_ceil rank).trans_lt inside))
  obtain ⟨half, even | odd⟩ := Nat.even_or_odd' (values.length - 1)
  · have whole : rank = half := by
      rw [rankEq, even]
      push_cast
      ring
    have floorEq : ⌊rank⌋₊ = half := by rw [whole, Nat.floor_natCast]
    have middle : values.length / 2 = half := by omega
    rw [floorEq] at first ⊢
    rw [middle, whole, sub_self, mul_zero]
    linarith
  · have between : rank = half + 1 / 2 := by
      rw [rankEq, odd]
      push_cast
      ring
    have floorEq : ⌊rank⌋₊ = half := by
      rw [Nat.floor_eq_iff (by rw [between]; positivity), between]
      constructor <;> linarith
    have ceilEq : ⌈rank⌉₊ = half + 1 := by
      rw [Nat.ceil_eq_iff (Nat.succ_ne_zero _), between]
      push_cast
      constructor <;> linarith
    have middle : values.length / 2 = half + 1 := by omega
    have part : rank - half = 1 / 2 := by rw [between]; ring
    rw [floorEq] at first ⊢
    rw [middle, ceilEq, part]
    linarith

end

section
variable {K : Type} [LinearOrder K] {values : List K} {value : K}

/-- The halving of a binary search, with `size` places left from `base` on. -/
def searchBase (values : List K) (value : K) : Nat → Nat → Nat → Nat
  | 0, base, _ => base
  | fuel + 1, base, size =>
    if size ≤ 1 then base
    else
      let half := size / 2
      let beyond := (values[base + half]?).any (value < ·)
      searchBase values value fuel (if beyond then base else base + half) (size - half)

/-- A binary search for a value comes to its place, or else to the place it is to be inserted at. -/
def binarySearch (values : List K) (value : K) : Except Nat Nat :=
  let base := searchBase values value values.length 0 values.length
  match values[base]? with
  | none => .error base
  | some found => if found = value then .ok base else .error (if found < value then base + 1 else base)

/-- What a halving keeps: past the places that are left everything is greater than the value, and the
first of them is the first of all or not greater. -/
structure Narrowed (values : List K) (value : K) (base size : Nat) : Prop where
  inside : base + size ≤ values.length
  beyond : ∀ place found, base + size ≤ place → values[place]? = some found → value < found
  reached : base = 0 ∨ ∃ found, values[base]? = some found ∧ found ≤ value

theorem getElem?_ascends (sorted : values.Pairwise (· ≤ ·)) {early late : Nat} {first last : K} (before : early ≤ late)
    (atEarly : values[early]? = some first) (atLate : values[late]? = some last) : first ≤ last := by
  obtain ⟨insideEarly, rfl⟩ := List.getElem?_eq_some_iff.mp atEarly
  obtain ⟨insideLate, rfl⟩ := List.getElem?_eq_some_iff.mp atLate
  rcases Nat.eq_or_lt_of_le before with rfl | before
  · exact le_rfl
  · exact List.pairwise_iff_getElem.mp sorted early late insideEarly insideLate before

theorem searchBase_narrowed (sorted : values.Pairwise (· ≤ ·)) {fuel base size : Nat} (some_ : 1 ≤ size)
    (enough : size ≤ fuel + 1) (narrowed : Narrowed values value base size) :
    Narrowed values value (searchBase values value fuel base size) 1 := by
  induction fuel generalizing base size with
  | zero =>
    have one : size = 1 := by omega
    rwa [one] at narrowed
  | succ fuel ih =>
    rw [searchBase]
    by_cases last : size ≤ 1
    · have one : size = 1 := by omega
      rw [if_pos last]
      rwa [one] at narrowed
    · rw [if_neg last]
      dsimp only
      have inside := narrowed.inside
      have middle : values[base + size / 2]? = some values[base + size / 2] := List.getElem?_eq_getElem (by omega)
      rw [middle, Option.any_some]
      by_cases above : value < values[base + size / 2]
      · rw [decide_eq_true above, if_pos rfl]
        refine ih (by omega) (by omega) ⟨by omega, fun place found after at_ => ?_, narrowed.reached⟩
        exact above.trans_le (getElem?_ascends sorted (by omega) middle at_)
      · rw [decide_eq_false above, if_neg (by decide)]
        have same : base + size / 2 + (size - size / 2) = base + size := by omega
        refine ih (by omega) (by omega) ⟨by omega, fun place found after at_ => ?_, ?_⟩
        · exact narrowed.beyond place found (by omega) at_
        · exact .inr ⟨_, middle, not_lt.mp above⟩

theorem searchBase_spec (sorted : values.Pairwise (· ≤ ·)) (some_ : values ≠ []) :
    Narrowed values value (searchBase values value values.length 0 values.length) 1 := by
  have inside : 0 < values.length := List.length_pos_iff.mpr some_
  refine searchBase_narrowed sorted inside (by omega) ⟨by omega, fun place found after at_ => ?_, .inl rfl⟩
  rw [List.getElem?_eq_none (by omega)] at at_
  cases at_

theorem binarySearch_ok {place : Nat} (found : binarySearch values value = .ok place) :
    values[place]? = some value := by
  unfold binarySearch at found
  dsimp only at found
  cases at_ : values[searchBase values value values.length 0 values.length]? with
  | none =>
    rw [at_] at found
    cases found
  | some other =>
    rw [at_] at found
    dsimp only at found
    by_cases same : other = value
    · rw [if_pos same] at found
      cases found
      rw [at_, same]
    · rw [if_neg same] at found
      cases found

/-- Where a sorted list does not hold the value, the search parts what is less from what is greater. -/
theorem binarySearch_error (sorted : values.Pairwise (· ≤ ·)) {place : Nat}
    (absent : binarySearch values value = .error place) :
    place ≤ values.length ∧ (∀ before found, before < place → values[before]? = some found → found < value) ∧
      ∀ after found, place ≤ after → values[after]? = some found → value < found := by
  rcases eq_or_ne values [] with rfl | some_
  · cases absent
    refine ⟨Nat.zero_le _, fun before found _ at_ => ?_, fun after found _ at_ => ?_⟩
    · rw [List.getElem?_nil] at at_
      cases at_
    · rw [List.getElem?_nil] at at_
      cases at_
  · have narrowed : Narrowed values value (searchBase values value values.length 0 values.length) 1 :=
      searchBase_spec sorted some_
    unfold binarySearch at absent
    dsimp only at absent
    generalize searchBase values value values.length 0 values.length = base at absent narrowed
    have inside := narrowed.inside
    have here : values[base]? = some values[base] := List.getElem?_eq_getElem (by omega)
    rw [here] at absent
    dsimp only at absent
    by_cases same : values[base] = value
    · rw [if_pos same] at absent
      cases absent
    · rw [if_neg same] at absent
      cases absent
      by_cases less : values[base] < value
      · rw [if_pos less]
        refine ⟨by omega, fun before found early at_ => ?_, fun after found late => narrowed.beyond after found late⟩
        exact (getElem?_ascends sorted (by omega) at_ here).trans_lt less
      · rw [if_neg less]
        have greater : value < values[base] := lt_of_le_of_ne (not_lt.mp less) (Ne.symm same)
        refine ⟨by omega, fun before found early _ => ?_, fun after found late at_ => ?_⟩
        · rcases narrowed.reached with first | ⟨other, at_, below⟩
          · omega
          · rw [here] at at_
            cases at_
            exact absurd below (not_le.mpr greater)
        · exact greater.trans_le (getElem?_ascends sorted late here at_)

end

theorem pairwise_insertIdx {α : Type} {R : α → α → Prop} {values : List α} {value : α} {place : Nat}
    (sorted : values.Pairwise R)
    (below : ∀ before found, before < place → values[before]? = some found → R found value)
    (above : ∀ after found, place ≤ after → values[after]? = some found → R value found) :
    (values.insertIdx place value).Pairwise R := by
  induction values generalizing place with
  | nil =>
    cases place with
    | zero => exact List.pairwise_singleton R value
    | succ place => exact List.Pairwise.nil
  | cons first rest ih =>
    obtain ⟨leads, later⟩ := List.pairwise_cons.mp sorted
    cases place with
    | zero =>
      refine List.pairwise_cons.mpr ⟨fun found member => ?_, sorted⟩
      obtain ⟨after, at_⟩ := List.mem_iff_getElem?.mp member
      exact above after found (Nat.zero_le after) at_
    | succ place =>
      rw [List.insertIdx_succ_cons]
      refine List.pairwise_cons.mpr ⟨fun found member => ?_, ?_⟩
      · rcases List.eq_or_mem_of_mem_insertIdx member with rfl | member
        · exact below 0 first (Nat.succ_pos place) rfl
        · exact leads found member
      · refine ih later (fun before found early at_ => ?_) fun after found late at_ => ?_
        · exact below (before + 1) found (Nat.succ_lt_succ early) at_
        · exact above (after + 1) found (Nat.succ_le_succ late) at_

end Foundation
