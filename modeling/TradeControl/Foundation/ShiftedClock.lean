import Mathlib.Data.List.Dedup
import TradeControl.Foundation.Picks

namespace Foundation

/-- What a clock shows that runs at an offset, and at another one from each change on. -/
def shiftedClock (offset : Int) : List (Int × Int) → Int → Int
  | [], time => time + offset
  | (change, later) :: rest, time => if time < change then time + offset else shiftedClock later rest time

/-- The changes come in order, and the spans between them start, and end, in order by the clock itself. -/
def SpansInOrder (offset : Int) : List (Int × Int) → Prop
  | [] => True
  | [_] => True
  | (change, later) :: (second, last) :: rest =>
    change < second ∧ change + later ≤ second + last ∧ change + offset ≤ second + later ∧
      SpansInOrder later ((second, last) :: rest)

/-- The only time that the clock shows a reading. -/
def soleReading (offset : Int) (changes : List (Int × Int)) (reading : Int) : Option Int :=
  onlyOne ((((offset :: changes.map (·.2)).map (reading - ·)).dedup).filter fun time =>
    decide (shiftedClock offset changes time = reading))

section
variable {offset change later start time reading : Int} {changes rest : List (Int × Int)}

theorem SpansInOrder.tail (inOrder : SpansInOrder offset ((change, later) :: rest)) : SpansInOrder later rest := by
  cases rest with
  | nil => trivial
  | cons second rest => exact inOrder.2.2.2

theorem shiftedClock_before (before : time < change) :
    shiftedClock offset ((change, later) :: rest) time = time + offset := if_pos before

theorem shiftedClock_from (reached : change ≤ time) :
    shiftedClock offset ((change, later) :: rest) time = shiftedClock later rest time := if_neg (not_lt.mpr reached)

/-- From a change on the clock shows nothing before what it showed there. -/
theorem SpansInOrder.start_le (inOrder : SpansInOrder offset ((change, later) :: rest)) (reached : change ≤ time) :
    change + later ≤ shiftedClock later rest time := by
  induction rest generalizing offset change later with
  | nil =>
    unfold shiftedClock
    omega
  | cons second rest ih =>
    obtain ⟨second, last⟩ := second
    obtain ⟨-, starts, -, others⟩ := inOrder
    by_cases before : time < second
    · rw [shiftedClock_before before]
      omega
    · rw [shiftedClock_from (not_lt.mp before)]
      exact starts.trans (ih others (not_lt.mp before))

/-- A reading that the span before a change would come to, and that the clock falls short of later, is shown
from the change on. -/
theorem SpansInOrder.again (inOrder : SpansInOrder offset ((change, later) :: rest))
    (ahead : reading < change + offset) (reached : change ≤ time) (short : shiftedClock later rest time ≤ reading) :
    ∃ again, change ≤ again ∧ shiftedClock later rest again = reading := by
  have least := inOrder.start_le reached
  refine ⟨reading - later, by omega, ?_⟩
  cases rest with
  | nil =>
    unfold shiftedClock
    omega
  | cons second rest =>
    obtain ⟨second, last⟩ := second
    obtain ⟨-, -, ends, -⟩ := inOrder
    rw [shiftedClock_before (by omega)]
    omega

/-- A reading that the span before a change would come to, and that the clock shows later, was shown before. -/
theorem SpansInOrder.already (inOrder : SpansInOrder offset ((change, later) :: rest))
    (from' : start ≤ change) (since : start + offset ≤ change + later) (ahead : reading < change + offset)
    (reached : change ≤ time)
    (shown : shiftedClock later rest time = reading) :
    ∃ already, start ≤ already ∧ already < time ∧
      shiftedClock offset ((change, later) :: rest) already = reading := by
  have here : change + later ≤ reading → ∃ already, start ≤ already ∧ already < time ∧
      shiftedClock offset ((change, later) :: rest) already = reading := by
    intro within
    refine ⟨reading - offset, by omega, by omega, ?_⟩
    rw [shiftedClock_before (by omega)]
    omega
  induction rest generalizing offset change later start with
  | nil =>
    unfold shiftedClock at shown
    exact here (by omega)
  | cons second rest ih =>
    obtain ⟨second, last⟩ := second
    have ⟨rises, starts, ends, others⟩ := inOrder
    by_cases before : time < second
    · rw [shiftedClock_before before] at shown
      exact here (by omega)
    · rw [shiftedClock_from (not_lt.mp before)] at shown
      obtain ⟨already, since', earlier, shown'⟩ := ih others rises.le starts (by omega) (not_lt.mp before) shown
        fun within => by
          refine ⟨reading - later, by omega, by omega, ?_⟩
          rw [shiftedClock_before (by omega)]
          omega
      refine ⟨already, from'.trans since', earlier, ?_⟩
      rw [shiftedClock_from since']
      exact shown'

/-- After the only time of a reading the clock stays ahead of it. -/
theorem SpansInOrder.ahead_after (inOrder : SpansInOrder offset changes)
    (shown : shiftedClock offset changes time = reading) (since : start ≤ time)
    (sole : ∀ other, start ≤ other → shiftedClock offset changes other = reading → other = time) {late : Int}
    (after : time < late) : reading < shiftedClock offset changes late := by
  induction changes generalizing offset start with
  | nil =>
    unfold shiftedClock at shown ⊢
    omega
  | cons first rest ih =>
    obtain ⟨change, later⟩ := first
    by_cases before : time < change
    · rw [shiftedClock_before before] at shown
      by_cases still : late < change
      · rw [shiftedClock_before still]
        omega
      · rw [shiftedClock_from (not_lt.mp still)]
        by_contra short
        obtain ⟨again, reached, shown'⟩ := inOrder.again (by omega) (not_lt.mp still) (not_lt.mp short)
        have same := sole again (by omega) ((shiftedClock_from reached).trans shown')
        omega
    · have reached := not_lt.mp before
      rw [shiftedClock_from reached] at shown
      rw [shiftedClock_from (by omega)]
      refine ih inOrder.tail shown (max_le since reached) fun other from' same => ?_
      have ⟨since', reached'⟩ := max_le_iff.mp from'
      exact sole other since' ((shiftedClock_from reached').trans same)

/-- Before the only time of a reading, from where the first span is known to start, the clock stays behind it. -/
theorem SpansInOrder.behind_since (inOrder : SpansInOrder offset changes)
    (shown : shiftedClock offset changes time = reading)
    (first : ∀ change later, changes.head? = some (change, later) →
      start ≤ change ∧ start + offset ≤ change + later)
    (sole : ∀ other, start ≤ other → shiftedClock offset changes other = reading → other = time) {early : Int}
    (since : start ≤ early) (before : early < time) : shiftedClock offset changes early < reading := by
  induction changes generalizing offset start with
  | nil =>
    unfold shiftedClock at shown ⊢
    omega
  | cons head rest ih =>
    obtain ⟨change, later⟩ := head
    obtain ⟨from', starts⟩ := first change later rfl
    by_cases inFirst : early < change
    · rw [shiftedClock_before inFirst]
      by_cases still : time < change
      · rw [shiftedClock_before still] at shown
        omega
      · rw [shiftedClock_from (not_lt.mp still)] at shown
        by_contra ahead
        obtain ⟨already, since', earlier, shown'⟩ :=
          inOrder.already from' starts (by omega) (not_lt.mp still) shown
        have same := sole already since' shown'
        omega
    · have reached := not_lt.mp inFirst
      rw [shiftedClock_from (by omega)] at shown
      rw [shiftedClock_from reached]
      refine ih inOrder.tail shown ?_ (fun other from'' same =>
        sole other (from'.trans from'') ((shiftedClock_from from'').trans same)) reached
      intro second last next
      cases rest with
      | nil => cases next
      | cons other others =>
        cases next
        exact ⟨inOrder.1.le, inOrder.2.1⟩

/-- Before the only time of a reading the clock stays behind it. -/
theorem SpansInOrder.behind_before (inOrder : SpansInOrder offset changes)
    (shown : shiftedClock offset changes time = reading)
    (sole : ∀ other, shiftedClock offset changes other = reading → other = time) {early : Int}
    (before : early < time) : shiftedClock offset changes early < reading := by
  cases changes with
  | nil => exact inOrder.behind_since shown (fun _ _ none => (by cases none)) (fun other _ => sole other) le_rfl before
  | cons head rest =>
    obtain ⟨change, later⟩ := head
    have since : min early (min change (change + later - offset)) ≤ early := min_le_left _ _
    refine inOrder.behind_since shown ?_ (fun other _ => sole other) since before
    rintro change' later' ⟨⟩
    omega

/-- A clock's sole reading is the only time of it. -/
theorem soleReading_iff : soleReading offset changes reading = some time ↔
    shiftedClock offset changes time = reading ∧
      ∀ other, shiftedClock offset changes other = reading → other = time := by
  have candidate : ∀ {time}, shiftedClock offset changes time = reading →
      time ∈ (offset :: changes.map (·.2)).map (reading - ·) := by
    intro time shown
    induction changes generalizing offset with
    | nil =>
      unfold shiftedClock at shown
      have equal : time = reading - offset := by omega
      exact List.mem_singleton.mpr equal
    | cons first rest ih =>
      obtain ⟨change, later⟩ := first
      by_cases before : time < change
      · rw [shiftedClock_before before] at shown
        have equal : time = reading - offset := by omega
        rw [equal]
        exact List.mem_cons_self
      · rw [shiftedClock_from (not_lt.mp before)] at shown
        exact List.mem_cons_of_mem _ (ih shown)
  unfold soleReading
  rw [onlyOne_filter_iff (List.nodup_dedup _)]
  simp only [List.mem_dedup, decide_eq_true_eq]
  constructor
  · rintro ⟨⟨-, shown⟩, sole⟩
    exact ⟨shown, fun other same => sole other (candidate same) same⟩
  · rintro ⟨shown, sole⟩
    exact ⟨⟨candidate shown, shown⟩, fun other _ same => sole other same⟩

end

end Foundation
