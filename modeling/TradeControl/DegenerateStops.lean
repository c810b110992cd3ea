import TradeControl.Foundation.Extended
import TradeControl.StopVerdicts

open Foundation

namespace TradeControl

namespace FloatStops

/-- Spread readings that may be infinite or no number at all. -/
structure SpreadInputs where
  lastCandle : Extended
  expectedThisHour : Extended
  expectedNextHour : Extended

def usable (spread : Extended) : Bool := spread.isFinite && (Extended.finite 0).lt spread

def SpreadInputs.expected (spreads : SpreadInputs) : Extended :=
  ([spreads.expectedThisHour, spreads.expectedNextHour].filter usable).foldl Extended.max (.finite 0)

def SpreadInputs.worst (spreads : SpreadInputs) : Extended :=
  let measured := if usable spreads.lastCandle then spreads.lastCandle else .finite 0
  measured.max spreads.expected

structure SlTarget where
  desiredSlDistance : Extended
  r : Extended
  action : SlAction

def degenerate (distance : Extended) : Bool := !distance.isFinite || distance.le (.finite 0)

def same (a b : Extended) : Bool :=
  let scale := (a.abs.max b.abs).max (.finite 1)
  (a.sub b).abs.le ((Extended.finite relativeEpsilon).mul scale)

def slTarget (spreads : SpreadInputs) (originalSlDistance currentSlDistance tpDistance minR : Extended) : SlTarget :=
  if degenerate originalSlDistance then ⟨originalSlDistance, .nan, .hold⟩
  else
    let desired := ((Extended.finite slMinSpreadMultiple).mul spreads.worst).max originalSlDistance
    let r := if tpDistance.isFinite && (Extended.finite 0).lt desired then tpDistance.div desired else .nan
    if !r.isFinite || r.lt minR then ⟨desired, r, .belowMinR⟩
    else if degenerate currentSlDistance then ⟨desired, r, .hold⟩
    else if same desired currentSlDistance then ⟨desired, r, .hold⟩
    else ⟨desired, r, if currentSlDistance.lt desired then .widen else .shrink⟩

structure RiskBudget where
  amount : Extended

def stakeFor (budget : RiskBudget) (slDistance : Extended) : Option Extended :=
  if degenerate slDistance then none
  else if degenerate budget.amount then none
  else some (budget.amount.div slDistance)

inductive PendingAction
  | hold
  | adjust (slDistance stake : Extended)
  | demote
  deriving DecidableEq

def pendingAction (target : SlTarget) (currentSlDistance : Extended) (budget : RiskBudget) : PendingAction :=
  match target.action with
  | .belowMinR => .demote
  | .hold => .hold
  | .widen | .shrink =>
    let desired := target.desiredSlDistance
    if degenerate desired then .hold
    else if same desired currentSlDistance then .hold
    else match stakeFor budget desired with
      | some stake => .adjust desired stake
      | none => .hold

section Finite

/-- A pass over exact distances, as the one over numbers sees it. -/
def SpreadInputs.exact (spreads : TradeControl.SpreadInputs) : SpreadInputs :=
  ⟨.finite spreads.lastCandle, .finite spreads.expectedThisHour, .finite spreads.expectedNextHour⟩

def PendingAction.exact : TradeControl.PendingAction → PendingAction
  | .hold => .hold
  | .adjust slDistance stake => .adjust (.finite slDistance) (.finite stake)
  | .demote => .demote

@[simp] theorem usable_finite (a : Rat) : usable (.finite a) = decide (0 < a) := rfl

@[simp] theorem degenerate_finite (a : Rat) : degenerate (.finite a) = decide (a ≤ 0) := rfl

@[simp] theorem same_finite (a b : Rat) : same (.finite a) (.finite b) = sameDistance a b := by
  simp [same, sameDistance]

theorem foldl_usable (a b : Rat) :
    (([Extended.finite a, .finite b].filter usable).foldl Extended.max (.finite 0)) =
      .finite (max (max 0 a) b) := by
  rcases lt_or_ge 0 a with first | first
  · rcases lt_or_ge 0 b with second | second
    · simp [first, second]
    · simp [first, second.not_gt, max_eq_right first.le, max_eq_left (second.trans first.le)]
  · rcases lt_or_ge 0 b with second | second
    · simp [first.not_gt, second, max_eq_left first]
    · simp [first.not_gt, second.not_gt, max_eq_left first, max_eq_left second]

theorem SpreadInputs.exact_worst (spreads : TradeControl.SpreadInputs) :
    (SpreadInputs.exact spreads).worst = .finite spreads.worst := by
  have expected : (SpreadInputs.exact spreads).expected = .finite spreads.expected := foldl_usable _ _
  have measured : (if usable (.finite spreads.lastCandle) then Extended.finite spreads.lastCandle else .finite 0) =
      .finite (max spreads.lastCandle 0) := by
    rcases lt_or_ge 0 spreads.lastCandle with some | none
    · simp [some, max_eq_left some.le]
    · simp [none.not_gt, max_eq_right none]
  exact (congrArg₂ Extended.max measured expected).trans (Extended.max_finite _ _)

/-- On numbers the decision is the exact one. -/
theorem slTarget_exact (spreads : TradeControl.SpreadInputs) (original current target minR : Rat) :
    let verdict := slTarget (SpreadInputs.exact spreads) (.finite original) (.finite current) (.finite target)
      (.finite minR)
    let exact := TradeControl.slTarget spreads original current target minR
    verdict.desiredSlDistance = .finite exact.desiredSlDistance ∧ verdict.action = exact.action ∧
      verdict.r = match slTargetR spreads original target with
        | some r => .finite r
        | none => .nan := by
  dsimp only
  by_cases undrawn : original ≤ 0
  · simp [slTarget, TradeControl.slTarget, slTargetR, undrawn]
  · have drawn : 0 < original := not_le.mp undrawn
    have positive : 0 < neededDistance spreads original := lt_max_of_lt_right drawn
    have desired : ((Extended.finite slMinSpreadMultiple).mul (SpreadInputs.exact spreads).worst).max
        (.finite original) = .finite (neededDistance spreads original) := by
      rw [SpreadInputs.exact_worst]
      simp [neededDistance]
    rw [slTarget_drawn drawn]
    unfold slTarget slTargetR
    rw [if_neg (by simpa using drawn), if_neg undrawn]
    dsimp only
    rw [desired]
    simp only [Extended.isFinite_finite, Extended.lt_finite, positive, decide_true, Bool.and_self, if_true,
      Extended.div_finite _ positive.ne', Bool.not_true, Bool.false_or, decide_eq_true_eq, degenerate_finite,
      same_finite, sameDistance_iff]
    by_cases poor : target / neededDistance spreads original < minR
    · simp [poor]
    · by_cases unknown : current ≤ 0
      · simp [poor, unknown]
      · by_cases within : WithinEpsilon 1 (neededDistance spreads original) current
        · simp [poor, unknown, within]
        · simp [poor, unknown, within]

theorem pendingAction_exact (spreads : TradeControl.SpreadInputs) (original current target minR amount : Rat) :
    pendingAction (slTarget (SpreadInputs.exact spreads) (.finite original) (.finite current) (.finite target)
        (.finite minR)) (.finite current) ⟨.finite amount⟩ =
      .exact (TradeControl.pendingAction (TradeControl.slTarget spreads original current target minR) current
        ⟨amount⟩) := by
  obtain ⟨desired, action, -⟩ := slTarget_exact spreads original current target minR
  unfold pendingAction TradeControl.pendingAction
  rw [action]
  generalize TradeControl.slTarget spreads original current target minR = verdict at desired ⊢
  have moved : (if degenerate (Extended.finite verdict.desiredSlDistance) then PendingAction.hold
      else if same (.finite verdict.desiredSlDistance) (.finite current) then .hold
      else match stakeFor ⟨.finite amount⟩ (.finite verdict.desiredSlDistance) with
        | some stake => .adjust (.finite verdict.desiredSlDistance) stake
        | none => .hold) =
      .exact (if verdict.desiredSlDistance ≤ 0 ∨ sameDistance verdict.desiredSlDistance current = true then .hold
        else match TradeControl.stakeFor ⟨amount⟩ verdict.desiredSlDistance with
          | some stake => .adjust verdict.desiredSlDistance stake
          | none => .hold) := by
    unfold stakeFor TradeControl.stakeFor
    by_cases unusable : verdict.desiredSlDistance ≤ 0
    · simp [unusable, PendingAction.exact]
    · by_cases within : sameDistance verdict.desiredSlDistance current = true
      · simp [unusable, within, PendingAction.exact]
      · by_cases riskless : amount ≤ 0
        · simp [unusable, within, riskless, PendingAction.exact]
        · simp [unusable, within, riskless, PendingAction.exact, Extended.div_finite _ (not_le.mp unusable).ne']
  dsimp only
  rw [desired]
  cases verdict.action with
  | belowMinR | hold => rfl
  | widen | shrink => exact moved

end Finite

end FloatStops

open FloatStops in
/-- An order whose drawn stop or target the documents call unjudgeable is held where it is exactly when the stop is
the unjudgeable one or the target can be judged: a target that is no number pulls the order. -/
theorem unjudgeable_held_iff (spreads : FloatStops.SpreadInputs) (original current target minR : Extended)
    (budget : FloatStops.RiskBudget) :
    (degenerate original = true ∨ target.isFinite = false →
        FloatStops.pendingAction (FloatStops.slTarget spreads original current target minR) current budget = .hold) ↔
      degenerate original = true ∨ target.isFinite = true := by
  unfold FloatStops.slTarget
  by_cases undrawn : degenerate original = true
  · simp [undrawn, FloatStops.pendingAction]
  · cases judged : target.isFinite with
    | true => simp [undrawn]
    | false => simp [undrawn, FloatStops.pendingAction]

/-- A target that is no number on a drawn stop of two: the order is pulled. -/
theorem unjudgeable_pulled :
    ¬ (FloatStops.degenerate (.finite 2) = true ∨ Extended.nan.isFinite = false →
        FloatStops.pendingAction
          (FloatStops.slTarget ⟨.finite 0, .finite 0, .finite 0⟩ (.finite 2) (.finite 2) .nan (.finite 1))
          (.finite 2) ⟨.finite 100⟩ = .hold) := by
  intro held
  exact absurd (held (.inr rfl)) (by decide +kernel)

end TradeControl
