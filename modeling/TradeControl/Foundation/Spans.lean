import Mathlib.Data.List.Sort
import Mathlib.Data.Option.Basic
import Mathlib.Data.Prod.Lex
import Mathlib.Order.Basic
import Mathlib.Order.MinMax

namespace Foundation

/-- A stored value that stops being readable at `expiresAt`. -/
structure Expiring (Time Value : Type*) where
  value : Value
  expiresAt : Time
  deriving DecidableEq

section
variable {Time Value : Type*} [LinearOrder Time]

/-- What a reader at `now` sees of an optional row. -/
def readAt (now : Time) : Option (Expiring Time Value) → Option Value
  | some row => if now < row.expiresAt then some row.value else none
  | none => none

@[simp] theorem readAt_none (now : Time) :
    readAt now (none : Option (Expiring Time Value)) = none := rfl

@[simp] theorem readAt_some (now : Time) (row : Expiring Time Value) :
    readAt now (some row) = if now < row.expiresAt then some row.value else none := rfl

theorem readAt_eq_some {now : Time} {row : Option (Expiring Time Value)} {value : Value} :
    readAt now row = some value ↔ ∃ expiresAt, row = some ⟨value, expiresAt⟩ ∧ now < expiresAt := by
  constructor
  · intro seen
    obtain _ | ⟨stored, expiresAt⟩ := row
    · simp at seen
    · rw [readAt_some] at seen
      split at seen
      · next live =>
        obtain rfl : stored = value := Option.some.inj seen
        exact ⟨expiresAt, rfl, live⟩
      · cases seen
  · rintro ⟨expiresAt, rfl, live⟩
    exact if_pos live

/-- The row is readable through `bound`. -/
def Outlives (bound : Time) (row : Option (Expiring Time Value)) : Prop :=
  ∃ stored, row = some stored ∧ bound < stored.expiresAt

theorem Outlives.readAt_isSome {bound now : Time} {row : Option (Expiring Time Value)}
    (outlives : Outlives bound row) (within : now ≤ bound) : (readAt now row).isSome := by
  obtain ⟨stored, rfl, later⟩ := outlives
  simp [within.trans_lt later]

end

/-- The times from `start` on that come before `finish`. -/
structure Span (Time : Type*) where
  start : Time
  finish : Time
  deriving DecidableEq

/-- Adjacent equal entries taken once. -/
def dropRepeats {α : Type*} [DecidableEq α] : List α → List α
  | [] => []
  | [entry] => [entry]
  | entry :: next :: rest =>
    if entry = next then dropRepeats (next :: rest) else entry :: dropRepeats (next :: rest)

theorem mem_dropRepeats {α : Type*} [DecidableEq α] {entries : List α} {entry : α} :
    entry ∈ dropRepeats entries ↔ entry ∈ entries := by
  induction entries with
  | nil => exact Iff.rfl
  | cons first rest ih =>
    cases rest with
    | nil => exact Iff.rfl
    | cons next rest =>
      unfold dropRepeats
      split
      next same =>
        rw [ih, same]
        simp
      · simp only [List.mem_cons, ih]

section
variable {Time : Type*} [LinearOrder Time]

def Span.Holds (span : Span Time) (time : Time) : Prop := span.start ≤ time ∧ time < span.finish

instance (span : Span Time) (time : Time) : Decidable (span.Holds time) :=
  inferInstanceAs (Decidable (_ ∧ _))

def Span.ends (span : Span Time) : Time ×ₗ Time := toLex (span.start, span.finish)

def sortSpans (spans : List (Span Time)) : List (Span Time) :=
  spans.insertionSort fun a b => a.ends ≤ b.ends

/-- Spans in order merged into the one before them where they meet it. -/
def coalesceFrom (last : Span Time) : List (Span Time) → List (Span Time)
  | [] => [last]
  | span :: rest =>
    if span.start ≤ last.finish then
      coalesceFrom { last with finish := max last.finish span.finish } rest
    else last :: coalesceFrom span rest

def coalesce (spans : List (Span Time)) : List (Span Time) :=
  match sortSpans spans with
  | [] => []
  | first :: rest => coalesceFrom first rest

variable {spans : List (Span Time)} {span last : Span Time} {time : Time}

theorem mem_sortSpans : span ∈ sortSpans spans ↔ span ∈ spans :=
  (List.perm_insertionSort _ _).mem_iff

theorem sortSpans_starts (spans : List (Span Time)) :
    (sortSpans spans).Pairwise fun earlier later => earlier.start ≤ later.start := by
  have sorted := List.pairwise_insertionSort (fun a b : Span Time => a.ends ≤ b.ends) spans
  refine sorted.imp fun {earlier later} ordered => ?_
  rcases Prod.Lex.toLex_le_toLex.mp ordered with before | ⟨same, -⟩
  · exact before.le
  · exact same.le

/-- A merged span holds the times of both. -/
theorem merged_holds_iff (after : last.start ≤ span.start) (meets : span.start ≤ last.finish) :
    ({ last with finish := max last.finish span.finish } : Span Time).Holds time ↔
      last.Holds time ∨ span.Holds time := by
  unfold Span.Holds
  dsimp only
  rw [lt_max_iff]
  constructor
  · rintro ⟨begun, inLast | inSpan⟩
    · exact .inl ⟨begun, inLast⟩
    · rcases lt_or_ge time last.finish with inLast | past
      · exact .inl ⟨begun, inLast⟩
      · exact .inr ⟨meets.trans past, inSpan⟩
  · rintro (⟨begun, inLast⟩ | ⟨begun, inSpan⟩)
    · exact ⟨begun, .inl inLast⟩
    · exact ⟨after.trans begun, .inr inSpan⟩

theorem coalesceFrom_holds_iff (after : ∀ span ∈ spans, last.start ≤ span.start)
    (sorted : spans.Pairwise fun earlier later => earlier.start ≤ later.start) :
    (∃ span ∈ coalesceFrom last spans, span.Holds time) ↔
      last.Holds time ∨ ∃ span ∈ spans, span.Holds time := by
  induction spans generalizing last with
  | nil => simp [coalesceFrom]
  | cons first rest ih =>
    obtain ⟨ahead, sorted⟩ := List.pairwise_cons.mp sorted
    have behind : ∀ span ∈ rest,
        ({ last with finish := max last.finish first.finish } : Span Time).start ≤ span.start :=
      fun span member => after span (List.mem_cons_of_mem _ member)
    unfold coalesceFrom
    split
    next meets =>
      rw [ih behind sorted, merged_holds_iff (after first List.mem_cons_self) meets, or_assoc]
      simp only [List.mem_cons, exists_eq_or_imp]
    next =>
      simp only [List.mem_cons, exists_eq_or_imp, ih ahead sorted]

/-- Coalescing keeps the times that the spans hold. -/
theorem coalesce_holds_iff (spans : List (Span Time)) (time : Time) :
    (∃ span ∈ coalesce spans, span.Holds time) ↔ ∃ span ∈ spans, span.Holds time := by
  have same : (∃ span ∈ sortSpans spans, span.Holds time) ↔ ∃ span ∈ spans, span.Holds time :=
    exists_congr fun span => and_congr_left' mem_sortSpans
  rw [← same]
  have sorted := sortSpans_starts spans
  unfold coalesce
  cases order : sortSpans spans with
  | nil => exact Iff.rfl
  | cons first rest =>
    rw [order] at sorted
    obtain ⟨ahead, sorted⟩ := List.pairwise_cons.mp sorted
    dsimp only
    rw [coalesceFrom_holds_iff ahead sorted]
    simp only [List.mem_cons, exists_eq_or_imp]

end

end Foundation
