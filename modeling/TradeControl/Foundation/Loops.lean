import Mathlib.Data.List.Basic
import Mathlib.Data.List.Range
import Mathlib.Logic.Relation

namespace Foundation

section
variable {Item : Type}

/-- An element of a list with one more at its end is that one or one of the others. -/
theorem snoc_split {items before after : List Item} {item event : Item}
    (same : items ++ [item] = before ++ event :: after) :
    (after = [] ∧ before = items ∧ event = item) ∨ ∃ rest, after = rest ++ [item] ∧ items = before ++ event :: rest := by
  rcases List.eq_nil_or_concat' after with rfl | ⟨rest, last, rfl⟩
  · obtain ⟨rfl, ends⟩ := List.append_inj' same rfl
    cases ends
    exact .inl ⟨rfl, rfl, rfl⟩
  · rw [← List.cons_append, ← List.append_assoc] at same
    obtain ⟨rfl, ends⟩ := List.append_inj' same rfl
    cases ends
    exact .inr ⟨rest, rfl, rfl⟩

/-- Somewhere in a list an item meets a condition on it and those before it. -/
def SomeStep (holds : List Item → Item → Prop) (items : List Item) : Prop :=
  ∃ before item after, items = before ++ item :: after ∧ holds before item

/-- Everywhere in a list. -/
def EachStep (holds : List Item → Item → Prop) (items : List Item) : Prop :=
  ∀ before item after, items = before ++ item :: after → holds before item

variable {holds : List Item → Item → Prop} {items : List Item} {item : Item}

theorem not_someStep_nil : ¬ SomeStep holds [] := by
  rintro ⟨before, item, after, same, -⟩
  simp at same

theorem someStep_snoc : SomeStep holds (items ++ [item]) ↔ SomeStep holds items ∨ holds items item := by
  constructor
  · rintro ⟨before, event, after, same, met⟩
    rcases snoc_split same with ⟨-, rfl, rfl⟩ | ⟨rest, -, rfl⟩
    · exact .inr met
    · exact .inl ⟨before, event, rest, rfl, met⟩
  · rintro (⟨before, event, after, rfl, met⟩ | met)
    · exact ⟨before, event, after ++ [item], by simp, met⟩
    · exact ⟨items, item, [], rfl, met⟩

theorem eachStep_nil : EachStep holds [] := by
  intro before item after same
  simp at same

theorem eachStep_snoc : EachStep holds (items ++ [item]) ↔ EachStep holds items ∧ holds items item := by
  constructor
  · intro each
    exact ⟨fun before event after same => each before event (after ++ [item]) (by simp [same]), each items item [] rfl⟩
  · rintro ⟨each, met⟩ before event after same
    rcases snoc_split same with ⟨-, rfl, rfl⟩ | ⟨rest, -, earlier⟩
    · exact met
    · exact each before event rest earlier

end

open Relation

variable {State Item : Type*} {Move : State → State → Prop}

/-- A loop whose turns are made of moves is made of moves. -/
theorem foldl_moves {turn : State → Item → State} {items : List Item}
    (each : ∀ item ∈ items, ∀ state, ReflTransGen Move state (turn state item)) (state : State) :
    ReflTransGen Move state (items.foldl turn state) := by
  induction items generalizing state with
  | nil => exact .refl
  | cons item rest ih =>
    have first := each item (by simp) state
    exact first.trans (ih (fun item member => each item (by simp [member])) _)

/-- What every move carries over, any number of moves carry over. -/
theorem moves_invariant (inv : State → Prop) {before after : State}
    (moves : ReflTransGen Move before after)
    (kept : ∀ before after, Move before after → inv before → inv after) (initial : inv before) :
    inv after := by
  induction moves with
  | refl => exact initial
  | tail _ move ih => exact kept _ _ move ih

/-- A preorder that holds across every move holds across any number of moves. -/
theorem moves_within (Rel : State → State → Prop) {before after : State}
    (refl : ∀ state, Rel state state)
    (trans : ∀ {first second third}, Rel first second → Rel second third → Rel first third)
    (within : ∀ before after, Move before after → Rel before after)
    (moves : ReflTransGen Move before after) : Rel before after := by
  induction moves with
  | refl => exact refl before
  | tail _ move ih => exact trans ih (within _ _ move)

end Foundation

namespace Foundation

variable {State State' Answer : Type*}

/-- The state a loop over the numbers below `bound` leaves. -/
def countedRun (step : State → Nat → State) (start : State) (bound : Nat) : State :=
  (List.range bound).foldl step start

@[simp] theorem countedRun_zero (step : State → Nat → State) (start : State) :
    countedRun step start 0 = start := rfl

@[simp] theorem countedRun_succ (step : State → Nat → State) (start : State) (bound : Nat) :
    countedRun step start (bound + 1) = step (countedRun step start bound) bound := by
  simp [countedRun, List.range_succ]

/-- The rule for loops: what holds before the first turn and is carried over each turn
holds when the loop is done. -/
theorem countedRun_invariant {step : State → Nat → State} {start : State} {bound : Nat}
    (inv : Nat → State → Prop) (first : inv 0 start)
    (kept : ∀ turn state, turn < bound → inv turn state → inv (turn + 1) (step state turn)) :
    inv bound (countedRun step start bound) := by
  induction bound with
  | zero => exact first
  | succ bound ih =>
    rw [countedRun_succ]
    have before := ih fun turn state below => kept turn state (by omega)
    exact kept bound _ (Nat.lt_succ_self bound) before

/-- A view of the state that each turn respects is the view of a loop of its own. -/
theorem countedRun_view {step : State → Nat → State} {step' : State' → Nat → State'}
    {start : State} {bound : Nat} (view : State → State')
    (respects : ∀ turn state, turn < bound → view (step state turn) = step' (view state) turn) :
    view (countedRun step start bound) = countedRun step' (view start) bound := by
  induction bound with
  | zero => rfl
  | succ bound ih =>
    rw [countedRun_succ, countedRun_succ, respects bound _ (Nat.lt_succ_self bound),
      ih fun turn state below => respects turn state (by omega)]

/-- Loops whose turns agree end alike. -/
theorem countedRun_congr {step step' : State → Nat → State} {start : State} {bound : Nat}
    (agree : ∀ turn state, turn < bound → step state turn = step' state turn) :
    countedRun step start bound = countedRun step' start bound :=
  countedRun_view id agree

/-- A loop that pushes one answer a turn ends with every turn's answer, in order. -/
theorem countedRun_answers {step : State → Nat → State} {start : State} {bound : Nat}
    {out : State → List Answer} {answer : Nat → Answer} (empty : out start = [])
    (pushes : ∀ turn, turn < bound → out (step (countedRun step start turn) turn) =
      out (countedRun step start turn) ++ [answer turn]) :
    out (countedRun step start bound) = (List.range bound).map answer := by
  induction bound with
  | zero => exact empty
  | succ bound ih =>
    rw [countedRun_succ, pushes bound (Nat.lt_succ_self bound),
      ih fun turn below => pushes turn (by omega), List.range_succ, List.map_append]
    rfl

end Foundation
