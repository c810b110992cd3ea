import Mathlib.Order.Nat
import Mathlib.Tactic.Push

namespace Foundation

/-- The life of a proposal that waits a window for a push and dies when it is struck. -/
inductive Life
  | waiting (pushed : Bool)
  | confirmed
  | dead
  deriving DecidableEq

/-- One tick of a life: a push inside the window is remembered, the last tick of the window
settles the wait, and a strike kills whatever it settled to. -/
def Life.tick (life : Life) (window elapsed : Nat) (push strike : Bool) : Life :=
  match life with
  | .dead => .dead
  | .confirmed => if strike then .dead else .confirmed
  | .waiting pushed =>
    let pushed := pushed || (decide (elapsed ≤ window) && push)
    if strike then .dead
    else if window ≤ elapsed then if pushed then .confirmed else .dead
    else .waiting pushed

/-- A life from its start through the ticks `1, …, elapsed`. -/
def Life.after (window : Nat) (push strike : Nat → Bool) : Nat → Life
  | 0 => .waiting false
  | elapsed + 1 => (Life.after window push strike elapsed).tick window (elapsed + 1)
      (push (elapsed + 1)) (strike (elapsed + 1))

/-- Pushed inside the window and never struck within it. -/
structure Confirms (window : Nat) (push strike : Nat → Bool) : Prop where
  pushed : ∃ tick, 0 < tick ∧ tick ≤ window ∧ push tick = true
  unstruck : ∀ tick, 0 < tick → tick ≤ window → strike tick = false

section
variable {window : Nat} {push strike : Nat → Bool}

theorem confirms_iff_all : Confirms window push strike ↔
    ((List.range window).any fun tick => push (tick + 1)) = true ∧
      ((List.range window).all fun tick => !strike (tick + 1)) = true := by
  simp only [List.any_eq_true, List.all_eq_true, List.mem_range, Bool.not_eq_true']
  constructor
  · rintro ⟨⟨tick, pos, le, hit⟩, unstruck⟩
    obtain ⟨before, rfl⟩ : ∃ before, tick = before + 1 := ⟨tick - 1, by omega⟩
    exact ⟨⟨before, by omega, hit⟩, fun before lt => unstruck _ (by omega) (by omega)⟩
  · rintro ⟨⟨before, lt, hit⟩, unstruck⟩
    refine ⟨⟨before + 1, by omega, by omega, hit⟩, fun tick pos le => ?_⟩
    obtain ⟨before, rfl⟩ : ∃ before, tick = before + 1 := ⟨tick - 1, by omega⟩
    exact unstruck before (by omega)

instance : Decidable (Confirms window push strike) := decidable_of_iff _ confirms_iff_all.symm

theorem exists_tick_succ (hit : Nat → Bool) (elapsed : Nat) :
    (∃ tick, 0 < tick ∧ tick ≤ elapsed + 1 ∧ hit tick = true) ↔
      (∃ tick, 0 < tick ∧ tick ≤ elapsed ∧ hit tick = true) ∨ hit (elapsed + 1) = true := by
  constructor
  · rintro ⟨tick, pos, le, struck⟩
    rcases Nat.lt_or_ge elapsed tick with last | earlier
    · have same : tick = elapsed + 1 := by omega
      exact .inr (same ▸ struck)
    · exact .inl ⟨tick, pos, earlier, struck⟩
  · rintro (⟨tick, pos, le, struck⟩ | struck)
    · exact ⟨tick, pos, by omega, struck⟩
    · exact ⟨elapsed + 1, by omega, le_rfl, struck⟩

/-- A strike is final. -/
theorem Life.after_struck {tick elapsed : Nat} (pos : 0 < tick) (le : tick ≤ elapsed)
    (struck : strike tick = true) : Life.after window push strike elapsed = .dead := by
  induction elapsed with
  | zero => omega
  | succ elapsed ih =>
    rw [after]
    rcases Nat.lt_or_ge elapsed tick with last | earlier
    · have same : tick = elapsed + 1 := by omega
      rw [← same, struck]
      cases Life.after window push strike elapsed <;> rfl
    · rw [ih earlier]
      rfl

/-- Before the window closes an unstruck life waits, with its pushes remembered. -/
theorem Life.after_inside {elapsed : Nat} (inside : elapsed < window)
    (unstruck : ∀ tick, 0 < tick → tick ≤ elapsed → strike tick = false) :
    ∃ pushed, Life.after window push strike elapsed = .waiting pushed ∧
      (pushed = true ↔ ∃ tick, 0 < tick ∧ tick ≤ elapsed ∧ push tick = true) := by
  induction elapsed with
  | zero =>
    refine ⟨false, rfl, ⟨fun no => (Bool.false_ne_true no).elim, ?_⟩⟩
    rintro ⟨tick, pos, le, _⟩
    omega
  | succ elapsed ih =>
    obtain ⟨pushed, waits, remembered⟩ :=
      ih (by omega) fun tick pos le => unstruck tick pos (by omega)
    have still : ¬window ≤ elapsed + 1 := by omega
    have within : elapsed + 1 ≤ window := by omega
    have spared := unstruck (elapsed + 1) (by omega) le_rfl
    refine ⟨pushed || push (elapsed + 1), ?_, ?_⟩
    · simp [after, waits, tick, spared, still, within]
    · rw [Bool.or_eq_true, remembered, exists_tick_succ]

/-- When the window closes an unstruck life is settled by whether it was pushed. -/
theorem Life.after_window (opens : 0 < window)
    (unstruck : ∀ tick, 0 < tick → tick ≤ window → strike tick = false) :
    ∃ pushed : Bool, Life.after window push strike window = (if pushed then .confirmed else .dead) ∧
      (pushed = true ↔ ∃ tick, 0 < tick ∧ tick ≤ window ∧ push tick = true) := by
  obtain ⟨elapsed, rfl⟩ : ∃ elapsed, window = elapsed + 1 := ⟨window - 1, by omega⟩
  obtain ⟨pushed, (waits : Life.after (elapsed + 1) push strike elapsed = _), remembered⟩ :=
    after_inside (Nat.lt_succ_self elapsed) fun tick pos le => unstruck tick pos (by omega)
  have spared := unstruck (elapsed + 1) (by omega) le_rfl
  refine ⟨pushed || push (elapsed + 1), ?_, ?_⟩
  · simp [after, waits, tick, spared]
  · rw [Bool.or_eq_true, remembered, exists_tick_succ]

/-- Past its window an unstruck life stays as the window left it. -/
theorem Life.after_settled {elapsed : Nat} (opens : 0 < window) (past : window ≤ elapsed)
    (unstruck : ∀ tick, 0 < tick → tick ≤ elapsed → strike tick = false) :
    Life.after window push strike elapsed = Life.after window push strike window := by
  induction elapsed, past using Nat.le_induction with
  | base => rfl
  | succ elapsed past ih =>
    have before := ih fun tick pos le => unstruck tick pos (by omega)
    have spared := unstruck (elapsed + 1) (by omega) le_rfl
    obtain ⟨pushed, settled, _⟩ :=
      after_window opens fun tick pos le => unstruck tick pos (by omega)
    rw [after, before, settled, spared]
    cases pushed <;> rfl

/-- An empty window confirms nothing. -/
theorem Life.after_shut (elapsed : Nat) : Life.after 0 push strike (elapsed + 1) = .dead := by
  induction elapsed with
  | zero => cases struck : strike 1 <;> simp [after, tick, struck]
  | succ elapsed ih =>
    rw [after, ih]
    rfl

/-- A life is confirmed at a tick exactly when its window has closed on a push and nothing
has struck it so far. -/
theorem Life.after_confirmed_iff {elapsed : Nat} :
    Life.after window push strike elapsed = .confirmed ↔
      window ≤ elapsed ∧ (∃ tick, 0 < tick ∧ tick ≤ window ∧ push tick = true) ∧
        ∀ tick, 0 < tick → tick ≤ elapsed → strike tick = false := by
  rcases Nat.eq_zero_or_pos window with rfl | opens
  · have unpushed : ¬∃ tick, 0 < tick ∧ tick ≤ 0 ∧ push tick = true := by
      rintro ⟨tick, pos, le, _⟩
      omega
    refine ⟨fun confirmed => ?_, fun closed => absurd closed.2.1 unpushed⟩
    cases elapsed with
    | zero => cases confirmed
    | succ elapsed => rw [after_shut] at confirmed; cases confirmed
  by_cases unstruck : ∀ tick, 0 < tick → tick ≤ elapsed → strike tick = false
  · rcases Nat.lt_or_ge elapsed window with inside | past
    · obtain ⟨pushed, waits, _⟩ := after_inside inside unstruck
      rw [waits]
      exact ⟨fun no => Life.noConfusion no, fun closed => absurd closed.1 (by omega)⟩
    · obtain ⟨pushed, settled, remembered⟩ :=
        after_window opens fun tick pos le => unstruck tick pos (by omega)
      rw [after_settled opens past unstruck, settled, ← remembered]
      cases pushed
      · exact ⟨fun no => Life.noConfusion no, fun closed => Bool.noConfusion closed.2.1⟩
      · exact ⟨fun _ => ⟨past, rfl, unstruck⟩, fun _ => rfl⟩
  · have struck := unstruck
    push Not at struck
    obtain ⟨tick, pos, le, hit⟩ := struck
    rw [after_struck pos le (by simpa using hit)]
    exact ⟨fun no => Life.noConfusion no, fun closed => absurd closed.2.2 unstruck⟩

/-- A life turns confirmed once, on the tick its window closes. -/
theorem Life.turns_confirmed_iff {elapsed : Nat} :
    Life.after window push strike (elapsed + 1) = .confirmed ∧
        Life.after window push strike elapsed ≠ .confirmed ↔
      elapsed + 1 = window ∧ Confirms window push strike := by
  rw [Ne, after_confirmed_iff, after_confirmed_iff]
  constructor
  · rintro ⟨⟨closed, pushed, unstruck⟩, fresh⟩
    have last : elapsed + 1 = window := by
      by_contra other
      exact fresh ⟨by omega, pushed, fun tick pos le => unstruck tick pos (by omega)⟩
    exact ⟨last, pushed, fun tick pos le => unstruck tick pos (by omega)⟩
  · rintro ⟨last, pushed, unstruck⟩
    exact ⟨⟨by omega, pushed, fun tick pos le => unstruck tick pos (by omega)⟩,
      fun closed => absurd closed.1 (by omega)⟩

end

end Foundation
