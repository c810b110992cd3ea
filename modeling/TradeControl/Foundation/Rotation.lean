import Mathlib.Data.List.Sort
import Mathlib.Algebra.BigOperators.Group.List.Basic
import Mathlib.Algebra.GroupWithZero.Nat

namespace Foundation

/-! Serving a queue from the front, a few at a time, where what was served goes behind the rest. -/

section
variable {Row Place : Type*} [LinearOrder Place] (place : Row → Place)

def inOrder (rows : List Row) : List Row := rows.insertionSort fun a b => place a ≤ place b

/-- How many rows stand before a place. -/
def ahead (rows : List Row) (mark : Place) : Nat := rows.countP fun row => decide (place row < mark)

variable {place} {rows : List Row} {row : Row} {count : Nat}

theorem mem_inOrder : row ∈ inOrder place rows ↔ row ∈ rows := (rows.perm_insertionSort _).mem_iff

/-- What a row that is not among the first has before it: all of these. -/
theorem before_of_notMem_take (distinct : (rows.map place).Nodup) (member : row ∈ rows)
    (later : row ∉ (inOrder place rows).take count) :
    ∀ first ∈ (inOrder place rows).take count, place first < place row := by
  have sorted : (inOrder place rows).Pairwise fun a b => place a ≤ place b := List.pairwise_insertionSort _ rows
  have apart : ((inOrder place rows).map place).Nodup :=
    ((rows.perm_insertionSort _).map place).nodup_iff.mpr distinct
  have remains : row ∈ (inOrder place rows).drop count := by
    rcases List.mem_append.mp ((List.take_append_drop count (inOrder place rows)).symm ▸ mem_inOrder.mpr member) with
      early | late
    · exact absurd early later
    · exact late
  intro first early
  rw [← List.take_append_drop count (inOrder place rows)] at sorted apart
  rw [List.map_append, List.nodup_append] at apart
  have within := (List.pairwise_append.mp sorted).2.2 first early row remains
  have differs := apart.2.2 _ (List.mem_map_of_mem early) _ (List.mem_map_of_mem remains)
  exact lt_of_le_of_ne within differs

theorem length_take_of_notMem (member : row ∈ rows) (later : row ∉ (inOrder place rows).take count) :
    ((inOrder place rows).take count).length = count := by
  rw [List.length_take, min_eq_left]
  by_contra short
  rw [List.take_of_length_le (by omega)] at later
  exact later (mem_inOrder.mpr member)

end

/-- Rows that a rewrite moves out of a count are those the count had before and no longer has. -/
theorem countP_moved {Row : Type*} {rows : List Row} {before after moved : Row → Bool}
    (each : ∀ row ∈ rows, after row = true ∨ moved row = true → before row = true)
    (apart : ∀ row ∈ rows, moved row = true → after row = false) :
    rows.countP after + rows.countP moved ≤ rows.countP before := by
  induction rows with
  | nil => exact le_refl 0
  | cons row rest ih =>
    have smaller := ih (fun row member => each row (List.mem_cons_of_mem _ member))
      (fun row member => apart row (List.mem_cons_of_mem _ member))
    have here := each row List.mem_cons_self
    have split := apart row List.mem_cons_self
    rw [List.countP_cons, List.countP_cons, List.countP_cons]
    cases left : after row with
    | true =>
      have kept := here (.inl left)
      cases went : moved row with
      | true => rw [split went] at left; cases left
      | false => simp only [kept, if_true, Bool.false_eq_true, if_false]; omega
    | false =>
      cases went : moved row with
      | true => simp only [here (.inr went), if_true, Bool.false_eq_true, if_false]; omega
      | false => simp only [Bool.false_eq_true, if_false]; split <;> omega

/-- Whoever loses `count` places in every round it is not served, and gains no more than arrive, is
served once the rounds outrun what is ahead and what arrives. -/
theorem served_within {State Round : Type*} {step : State → Round → State} (rank : State → Nat)
    (arrivals : Round → Nat) (served : State → Round → Prop) {inv : State → List Round → Prop} {count : Nat}
    (each : ∀ state round rest, inv state (round :: rest) → served state round ∨
      inv (step state round) rest ∧ rank (step state round) + count ≤ rank state + arrivals round)
    {start : State} {rounds : List Round} (initial : inv start rounds)
    (enough : rank start + (rounds.map arrivals).sum < count * rounds.length) :
    ∃ earlier round later, rounds = earlier ++ round :: later ∧ served (earlier.foldl step start) round := by
  induction rounds generalizing start with
  | nil =>
    rw [List.length_nil, Nat.mul_zero] at enough
    omega
  | cons round rest ih =>
    rcases each start round rest initial with now | ⟨next, smaller⟩
    · exact ⟨[], round, rest, rfl, now⟩
    · rw [List.map_cons, List.sum_cons, List.length_cons, Nat.mul_succ] at enough
      obtain ⟨earlier, served, later, split, reached⟩ := ih next (by omega)
      exact ⟨round :: earlier, served, later, by rw [split]; rfl, reached⟩

end Foundation
