import TradeControl.AdaptiveRisk.Decisions
import TradeControl.AdaptiveRisk.ReleasedOnProof
import TradeControl.Foundation.StepGrid

namespace TradeControl.AdaptiveRisk

open Foundation

/-- The smallest limit is at or below each. -/
theorem smallestLimit_le (first : Rat × RiskLimitReason) (others : List (Rat × RiskLimitReason)) :
    ∀ limit ∈ first :: others, (smallestLimit first others).1 ≤ limit.1 := by
  unfold smallestLimit
  induction others generalizing first with
  | nil => simp
  | cons next rest ih =>
    intro limit member
    rw [List.foldl_cons]
    split
    next lower =>
      rcases List.mem_cons.mp member with rfl | later
      · exact (ih next next List.mem_cons_self).trans lower.le
      · exact ih next limit later
    next notLower =>
      rcases List.mem_cons.mp member with rfl | later
      · exact ih limit limit List.mem_cons_self
      · rcases List.mem_cons.mp later with rfl | inRest
        · exact (ih first first List.mem_cons_self).trans (not_lt.mp notLower)
        · exact ih first limit (List.mem_cons_of_mem _ inRest)

/-- What an approved decision was sized by. -/
structure Sized (p : RiskPolicy) (a : AccountSnapshot) (t : ProposedTrade) (s : RiskState) (rule : LossRule)
    (decision : RiskDecision) (f : Thresholds) (reserved drawdown : Rat) : Prop where
  ruled : rule p s a = .ok f
  accountFloor : f.firmAccountFloor < f.internalAccountFloor
  dailyFloor : f.firmDailyFloor < f.internalDailyFloor
  tallied : reservedRisk p s a = .ok reserved
  drawn : lossPct f.drawdownReference a.equity = .ok drawdown
  volume : 0 < decision.maxVolume
  amount : ∃ lost, t.estimate.loss decision.maxVolume p.execution.slippageBufferPctOfRisk = .ok lost ∧
    decision.allowedRiskAmount = lost * surcharge t.overlapping p.execution.overlapMultiplier
  within : ∀ limit ∈ riskLimits p a t s f reserved drawdown,
    0 < limit.1 ∧ decision.allowedRiskAmount ≤ limit.1

section
variable {p : RiskPolicy} {a : AccountSnapshot} {t : ProposedTrade} {s : RiskState} {rule : LossRule}
  {decision : RiskDecision}

theorem surcharge_pos (sound : p.Sound) (overlapping : Bool) :
    0 < surcharge overlapping p.execution.overlapMultiplier := by
  have atLeastOne := sound.overlap
  unfold surcharge
  split
  · linarith
  · norm_num

theorem div_ok {a b c : Rat} : div a b = .ok c ↔ b ≠ 0 ∧ a / b = c := by
  unfold div
  split
  next zero => exact ⟨fun failed => (by cases failed), fun ⟨nonzero, _⟩ => absurd zero nonzero⟩
  next nonzero => exact ⟨fun same => ⟨nonzero, Except.ok.inj same⟩, fun ⟨_, same⟩ => congrArg Except.ok same⟩

theorem calculate_sized (sound : p.Sound) (calculated : calculate p a t s rule = .ok decision)
    (approved : decision.approved = true) : ∃ f reserved drawdown, Sized p a t s rule decision f reserved drawdown := by
  unfold calculate at calculated
  simp only [bind_ok, ensure_ok, exists_const] at calculated
  obtain ⟨f, ruled, ⟨_, _, _, account, daily⟩, reserved, tallied, drawdown, drawn, _, _, calculated⟩ := calculated
  split at calculated
  next first others limited =>
    split at calculated
    · cases pure_ok.mp calculated
      cases approved
    next positive =>
      obtain ⟨sizing, divided, calculated⟩ := bind_ok.mp calculated
      split at calculated
      · cases pure_ok.mp calculated
        cases approved
      next volume sized =>
        simp only [bind_ok, pure_ok] at calculated
        obtain ⟨lost, known, _, _, rfl⟩ := calculated
        obtain ⟨traded, lost', known', within⟩ := VolumeLimits.size_spec sized
        cases known.symm.trans known'
        have scaled := surcharge_pos sound t.overlapping
        have budgeted : lost * surcharge t.overlapping p.execution.overlapMultiplier ≤
            (smallestLimit first others).1 := by
          obtain ⟨_, rfl⟩ := div_ok.mp divided
          exact (le_div_iff₀ scaled).mp within
        refine ⟨f, reserved, drawdown, ruled, account, daily, tallied, drawn, traded, ⟨lost, known, rfl⟩,
          fun limit member => ?_⟩
        have below := smallestLimit_le first others limit (limited ▸ member)
        exact ⟨(not_le.mp positive).trans_le below, budgeted.trans below⟩
  next none =>
    cases none

/-- An approved amount leaves as much as it was sized to leave. -/
theorem Sized.headroom {f : Thresholds} {reserved drawdown : Rat}
    (sized : Sized p a t s rule decision f reserved drawdown) :
    f.internalAccountFloor ≤ a.equity - reserved - decision.allowedRiskAmount ∧
      f.internalDailyFloor ≤ a.equity - reserved - decision.allowedRiskAmount := by
  have left : ∀ {amount room : Rat}, 0 < max room 0 ∧ amount ≤ max room 0 → amount ≤ room := by
    rintro amount room ⟨positive, within⟩
    rcases lt_max_iff.mp positive with present | absurdly
    · exact within.trans (max_eq_left present.le).le
    · exact absurd absurdly (lt_irrefl 0)
  have account := left (sized.within (max (a.equity - f.internalAccountFloor - reserved) 0, .accountBudget)
    (by simp [riskLimits]))
  have daily := left (sized.within (max (a.equity - f.internalDailyFloor - reserved) 0, .dailyBudget)
    (by simp [riskLimits]))
  constructor
  · linarith
  · linarith

end

/-- The equity that a risk leaves is at or above both internal floors. -/
structure AboveFloors (a : AccountSnapshot) (f : Thresholds) (risk : Rat) : Prop where
  account : f.internalAccountFloor ≤ a.equity - risk
  daily : f.internalDailyFloor ≤ a.equity - risk

/-- The internal floors are above the firm's, by the safety buffer at least. -/
structure FloorsApart (s : RiskState) (a : AccountSnapshot) (f : Thresholds) : Prop where
  account : f.firmAccountFloor < f.internalAccountFloor
  accountBuffer : f.firmAccountFloor + pct (lossAllowance s.policy s a) s.policy.safetyBufferPct ≤
    f.internalAccountFloor
  daily : f.firmDailyFloor < f.internalDailyFloor
  dailyBuffer : f.firmDailyFloor + pct (dailyReferenceOf s.policy s) s.policy.safetyBufferPct ≤
    f.internalDailyFloor

/-- An amount within the ceilings on a trade's risk. -/
structure UnderCeilings (s : RiskState) (a : AccountSnapshot) (t : ProposedTrade) (f : Thresholds)
    (amount : Rat) : Prop where
  base : amount ≤ pct f.riskReference s.policy.baseRiskPct
  requested : amount ≤ t.requestedRisk
  streak : amount ≤ pct f.riskReference s.policy.baseRiskPct * s.policy.streakMultiplier s.consecutiveLosses
  drawdown : ∃ drawdown, lossPct f.drawdownReference a.equity = .ok drawdown ∧
    amount ≤ pct f.riskReference (s.policy.drawdownRiskPct drawdown)

/-- What is reserved with an authorized amount, and what it was held to. -/
structure AuthorizedWithin (s : RiskState) (a : AccountSnapshot) (t : ProposedTrade) (amount : Rat)
    (f : Thresholds) (reserved : Rat) : Prop where
  ruled : standardLossRule s.policy s a = .ok f
  tallied : reservedRisk s.policy s a = .ok reserved
  above : AboveFloors a f reserved
  apart : FloorsApart s a f
  under : UnderCeilings s a t f amount

/-- What an order that is submitted risks under fresh data: no more than its authorization at the
same volume, beside what is reserved for others. -/
structure SubmittedWithin (s : RiskState) (a : AccountSnapshot) (authorization : Authorization)
    (refreshed : ProposedTrade) (f : Thresholds) (others lost : Rat) : Prop where
  volume : ∃ r ∈ s.reservations.lookup authorization.request.requestId,
    r.volume = authorization.decision.maxVolume
  known : refreshed.estimate.loss authorization.decision.maxVolume
    s.policy.execution.slippageBufferPctOfRisk = .ok lost
  authorized : lost * surcharge refreshed.overlapping s.policy.execution.overlapMultiplier ≤
    authorization.decision.allowedRiskAmount
  ruled : standardLossRule s.policy s a = .ok f
  tallied : reservedRisk s.policy (s.without authorization.request.requestId) a = .ok others
  above : AboveFloors a f (others + lost * surcharge refreshed.overlapping s.policy.execution.overlapMultiplier)

section
variable {zones : Zones} {a : AccountSnapshot} {trade : ProposedTrade} {now : Int} {s : RiskState}

theorem reserve_within {decision : RiskDecision} {metrics : RiskMetrics}
    (unreserved : trade.requestId ∉ s.reservations)
    (admitted : Admitted zones s.policy a trade s standardLossRule now decision) :
    ∃ f reserved, AuthorizedWithin ({ s with metrics }.reserve now trade decision) a trade
      decision.allowedRiskAmount f reserved := by
  obtain ⟨f, reserved, drawdown, sized⟩ := calculate_sized admitted.sound admitted.calculated
    admitted.approved
  obtain ⟨lost, known, amount⟩ := sized.amount
  have nonneg : 0 ≤ decision.allowedRiskAmount := by
    rw [amount]
    exact mul_nonneg (LossEstimate.loss_nonneg admitted.sound.slippage known)
      (surcharge_pos admitted.sound _).le
  obtain ⟨reserved', tallied, atMost⟩ := reservedRisk_reserved admitted.sound sized.tallied
    (trade.reservation now decision) ({ s with metrics }.reserve now trade decision) nonneg sized.volume
    unreserved rfl
  obtain ⟨account, daily⟩ := sized.headroom
  have within := sized.within
  refine ⟨f, reserved', sized.ruled, tallied, ⟨?_, ?_⟩, ⟨sized.accountFloor, ?_, sized.dailyFloor, ?_⟩, ?_⟩
  · dsimp only [ProposedTrade.reservation] at atMost
    linarith
  · dsimp only [ProposedTrade.reservation] at atMost
    linarith
  · cases sized.ruled
    exact le_max_right _ _
  · cases sized.ruled
    exact le_max_right _ _
  · simp only [riskLimits, List.forall_mem_cons] at within
    obtain ⟨base, streak, drawdownCeiling, _⟩ := within
    exact ⟨base.2.trans (min_le_left _ _), base.2.trans (min_le_right _ _), streak.2, drawdown, sized.drawn,
      drawdownCeiling.2⟩

/-- Marking a request leaves what the others have reserved. -/
theorem submit_without {s s' : RiskState} {id : String} (marked : s.submit id = .ok s') :
    (s'.without id).reservations = (s.without id).reservations := by
  unfold RiskState.submit at marked
  split at marked
  · cases marked
  · simp only [bind_ok, ensure_ok, pure_ok, exists_const] at marked
    obtain ⟨_, rfl⟩ := marked
    exact AList.ext (List.kerase_cons_eq rfl)

/-- What a check right before the order is handed over makes sure of. -/
theorem recheck_within {after : RiskState} {authorization : Authorization} {refreshed : ProposedTrade}
    (rechecked : s.recheck zones a standardLossRule now authorization refreshed = .ok ())
    (marked : s.submit authorization.request.requestId = .ok after)
    (reserved : ∃ r ∈ after.reservations.lookup authorization.request.requestId,
      r.volume = authorization.decision.maxVolume) :
    ∃ f others lost, SubmittedWithin after a authorization refreshed f others lost := by
  unfold RiskState.recheck at rechecked
  simp only [bind_ok, ensure_ok] at rechecked
  obtain ⟨lost, known, approved, volume, authorized⟩ := rechecked
  have admitted := evaluateTrade_admitted approved
  generalize evaluateTrade zones _ a refreshed _ standardLossRule now = decision at approved volume admitted
  obtain ⟨f, others, drawdown, sized⟩ := calculate_sized admitted.sound admitted.calculated admitted.approved
  obtain ⟨most, known', amount⟩ := sized.amount
  have scaled := surcharge_pos admitted.sound refreshed.overlapping
  have atMost : lost * surcharge refreshed.overlapping s.policy.execution.overlapMultiplier ≤
      decision.allowedRiskAmount := by
    rw [amount]
    exact mul_le_mul_of_nonneg_right
      (LossEstimate.loss_mono admitted.sound.slippage volume known known') scaled.le
  obtain ⟨account, daily⟩ := sized.headroom
  have same := submit_without marked
  obtain ⟨_, _, _, frame⟩ := submit_spec (fun _ => False) marked
  obtain ⟨reservations, rfl⟩ : ∃ reservations, after = { s with reservations, needsReconciliation := true } :=
    ⟨_, frame⟩
  refine ⟨f, others, lost, reserved, known, authorized, sized.ruled, ?_, ⟨?_, ?_⟩⟩
  · have tallied := sized.tallied
    unfold reservedRisk at tallied ⊢
    rw [same]
    exact tallied
  · dsimp only
    linarith
  · dsimp only
    linarith

end

/-- Whether an account's operations keep the risk within the equity above its floors: what they
reserve when they authorize, and what they let go to the broker. -/
structure KeepsHeadroom (zones : Zones) (session : RiskSession) : Prop where
  authorize : ∀ a trade now save authorization,
    (session.authorize zones a standardLossRule now trade save).2 = .ok authorization →
      ∃ f reserved, AuthorizedWithin (session.authorize zones a standardLossRule now trade save).1.state a trade
        authorization.decision.allowedRiskAmount f reserved
  beforeSubmit : ∀ authorization refreshed a now first second third,
    (session.beforeSubmit zones a standardLossRule now authorization refreshed first second third).2 = .ok () →
      ∃ f others lost, SubmittedWithin
        (session.beforeSubmit zones a standardLossRule now authorization refreshed first second third).1.state a
          authorization refreshed f others lost

section
variable {zones : Zones} {session : RiskSession} {a : AccountSnapshot} {now : Int}

theorem authorize_within (attempted : ∀ id ∈ session.state.reservations, id ∈ session.state.attemptedRequests)
    {trade : ProposedTrade} {save : Save} {authorization : Authorization}
    (authorized : (session.authorize zones a standardLossRule now trade save).2 = .ok authorization) :
    ∃ f reserved, AuthorizedWithin (session.authorize zones a standardLossRule now trade save).1.state a trade
      authorization.decision.allowedRiskAmount f reserved := by
  have ends := authorize_ends zones a standardLossRule now session trade save
  generalize session.authorize zones a standardLossRule now trade save = result at ends authorized ⊢
  cases ends with
  | blocked => cases authorized
  | @reserved metrics decision admitted =>
    cases save with
    | failed replaced error => cases authorized
    | done =>
      cases authorized
      exact reserve_within (fun member => admitted.unattempted (attempted _ member)) admitted

theorem beforeSubmit_within {authorization : Authorization} {refreshed : ProposedTrade}
    {first second third : Save}
    (answered : (session.beforeSubmit zones a standardLossRule now authorization refreshed first second
      third).2 = .ok ()) :
    ∃ f others lost, SubmittedWithin
      (session.beforeSubmit zones a standardLossRule now authorization refreshed first second third).1.state a
        authorization refreshed f others lost := by
  have ends := beforeSubmit_ends zones a standardLossRule now session authorization refreshed first second third
  generalize session.beforeSubmit zones a standardLossRule now authorization refreshed first second third = result
    at ends answered ⊢
  cases ends with
  | refused => cases answered
  | unreconciled => cases answered
  | declined => cases answered
  | @submitted between state admits reconciled rechecked marked =>
    cases third with
    | failed replaced error => cases answered
    | done =>
      have moved := reconcile_requests zones a standardLossRule now session first second
      rw [reconciled] at moved
      obtain ⟨move, ⟨r, found, _⟩, _, _⟩ := submit_spec (fun _ => False) marked
      obtain ⟨r₀, held, terms, _⟩ := moved.drawn _ r found
      obtain ⟨r₀', held', _, _, volume⟩ := admits.token.reserved
      cases (Option.mem_def.mp held).symm.trans held'
      obtain ⟨r', inState, terms'⟩ := (move.kept _ r found).resolve_left not_false
      exact recheck_within rechecked marked ⟨r', inState, (terms'.2.2.trans terms.2.2).trans volume⟩

end

/-- In every run of an account's sessions, an authorization under the standard rule leaves the equity
above both floors with everything reserved, within every ceiling, and a submission adds to the
others' risk no more than was authorized and still leaves it above. -/
theorem riskRuns_headroom {zones : Zones} {accountId : String} {initialBalance : Rat} {day : DayReference}
    {policy : RiskPolicy} {state : RiskState}
    (enrolled : RiskState.enroll zones accountId initialBalance day policy = .ok state)
    {world : RiskWorld} (run : WorldRun zones { document := state } world) :
    KeepsHeadroom zones world.session := by
  have once := run.invariant (enroll_requestsOnce enrolled) requestsOnce_step
  exact ⟨fun _ _ _ _ _ authorized => authorize_within once.accounted.attempted authorized,
    fun _ _ _ _ _ _ _ answered => beforeSubmit_within answered⟩

theorem riskRuns_headroom_noon :
    (reconciledSession.session.authorize utcZones (flatSnapshot 0) standardLossRule (noonOf 0)
        (hundredTrade "r1") .done).2.toBool = true ∧
      KeepsHeadroom utcZones reconciledSession.session :=
  ⟨by decide +kernel, riskRuns_headroom enrolledState_enrolled reconciledSession_run⟩

/-- The limits and the request that the sizing works with. -/
def VolumeLimits.Accepts (limits : VolumeLimits) (requested : Rat) : Prop :=
  0 < limits.min ∧ limits.min ≤ limits.max ∧ 0 < limits.step ∧ 0 < requested

/-- The volumes a broker takes, no larger than the request, whose loss stays within the budget. -/
def VolumeLimits.affordable (limits : VolumeLimits) (budget : Rat) (estimate : LossEstimate)
    (slip requested : Rat) : Set Rat :=
  {volume | volume ∈ stepGrid limits.step ∧ limits.min ≤ volume ∧ volume ≤ Min.min limits.max requested ∧
    ∃ lost, estimate.loss volume slip = .ok lost ∧ lost ≤ budget}

section
variable {limits : VolumeLimits} {estimate : LossEstimate} {budget slip requested unit volume : Rat}

/-- What the sizing floors to the steps. -/
def VolumeLimits.raw (limits : VolumeLimits) (estimate : LossEstimate) (budget unit requested : Rat) : Rat :=
  Min.min (Min.min (Max.max (budget - estimate.fixedCosts) 0 / unit) limits.max) requested

theorem LossEstimate.fixedCosts_nonneg (known : estimate.unitLoss slip = .ok unit) : 0 ≤ estimate.fixedCosts := by
  unfold unitLoss at known
  cases stop : estimate.stop with
  | none =>
    rw [stop] at known
    cases known
  | some level =>
    rw [stop] at known
    simp only [bind_ok, ensure_ok, pure_ok, exists_const] at known
    exact known.1.2.2.2.2.2

theorem LossEstimate.loss_known (nonneg : 0 ≤ volume) (known : estimate.unitLoss slip = .ok unit) :
    estimate.loss volume slip = .ok (unit * volume + estimate.fixedCosts) := by
  unfold loss
  simp only [bind_ok, ensure_ok, pure_ok, exists_const]
  exact ⟨nonneg, unit, known, rfl⟩

/-- A volume's loss is within the budget when what the fixed costs leave buys it. -/
theorem LossEstimate.loss_within (known : estimate.unitLoss slip = .ok unit) (positive : 0 < unit)
    (traded : 0 < volume) :
    (∃ lost, estimate.loss volume slip = .ok lost ∧ lost ≤ budget) ↔
      volume ≤ Max.max (budget - estimate.fixedCosts) 0 / unit := by
  rw [le_div_iff₀ positive]
  have cost := mul_pos traded positive
  constructor
  · rintro ⟨lost, priced, within⟩
    rw [loss_known traded.le known] at priced
    cases priced
    exact le_max_of_le_left (by linarith)
  · intro bought
    refine ⟨_, loss_known traded.le known, ?_⟩
    rcases le_max_iff.mp bought with paid | free
    · linarith
    · exact absurd free cost.not_ge

theorem VolumeLimits.affordable_eq (accepted : limits.Accepts requested)
    (known : estimate.unitLoss slip = .ok unit) (positive : 0 < unit) :
    limits.affordable budget estimate slip requested =
      stepsBetween limits.min (limits.raw estimate budget unit requested) limits.step := by
  ext volume
  constructor
  · rintro ⟨onGrid, least, most, affords⟩
    have bought := (LossEstimate.loss_within known positive (accepted.1.trans_le least)).mp affords
    obtain ⟨largest, wanted⟩ := le_min_iff.mp most
    exact ⟨onGrid, least, le_min (le_min bought largest) wanted⟩
  · rintro ⟨onGrid, least, most⟩
    obtain ⟨inner, wanted⟩ := le_min_iff.mp most
    obtain ⟨bought, largest⟩ := le_min_iff.mp inner
    have affords := (LossEstimate.loss_within known positive (accepted.1.trans_le least)).mpr bought
    exact ⟨onGrid, least, le_min largest wanted, affords⟩

theorem VolumeLimits.size_known (sized : limits.size budget estimate slip requested = .ok volume) :
    limits.Accepts requested ∧ ∃ unit, estimate.unitLoss slip = .ok unit := by
  unfold size at sized
  simp only [bind_ok, ensure_ok, pure_ok, exists_const] at sized
  obtain ⟨accepted, unit, known, _⟩ := sized
  exact ⟨accepted, unit, known⟩

/-- The sizing answers with the whole steps in its raw volume when they come to the minimum; its check of
the rounded loss never fails. -/
theorem VolumeLimits.size_eq (accepted : limits.Accepts requested)
    (known : estimate.unitLoss slip = .ok unit) (positive : 0 < unit) :
    limits.size budget estimate slip requested = .ok volume ↔
      limits.min ≤ wholeSteps (limits.raw estimate budget unit requested) limits.step ∧
        wholeSteps (limits.raw estimate budget unit requested) limits.step = volume := by
  unfold size
  simp only [bind_ok, ensure_ok, pure_ok, exists_const, div_ok]
  constructor
  · rintro ⟨_, unit', known', _, ⟨_, rfl⟩, _, ⟨_, rfl⟩, least, _, _, _, rfl⟩
    cases known.symm.trans known'
    exact ⟨least, rfl⟩
  · rintro ⟨least, rfl⟩
    have inside := wholeSteps_le (limits.raw estimate budget unit requested) accepted.2.2.1
    have bought := inside.trans ((min_le_left _ _).trans (min_le_left _ _))
    obtain ⟨lost, priced, within⟩ :=
      (LossEstimate.loss_within known positive (accepted.1.trans_le least)).mpr bought
    exact ⟨accepted, unit, known, _, ⟨positive.ne', rfl⟩, _, ⟨accepted.2.2.1.ne', rfl⟩, least, lost, priced,
      within, rfl⟩

/-- A larger budget buys no smaller volume. -/
theorem size_mono {budget' volume' : Rat} (nonneg : 0 ≤ slip) (le : budget' ≤ budget)
    (sized : limits.size budget' estimate slip requested = .ok volume') :
    ∃ volume, limits.size budget estimate slip requested = .ok volume ∧ volume' ≤ volume := by
  obtain ⟨accepted, unit, known⟩ := VolumeLimits.size_known sized
  have positive := (LossEstimate.unitLoss_pos nonneg known).1
  obtain ⟨least, rfl⟩ := (VolumeLimits.size_eq accepted known positive).mp sized
  have wider : Max.max (budget' - estimate.fixedCosts) 0 ≤ Max.max (budget - estimate.fixedCosts) 0 :=
    max_le_max_right 0 (by linarith)
  have affords := div_le_div_of_nonneg_right wider positive.le
  have larger := wholeSteps_mono accepted.2.2.1 (min_le_min_right requested (min_le_min_right limits.max affords))
  exact ⟨_, (VolumeLimits.size_eq accepted known positive).mpr ⟨least.trans larger, rfl⟩, larger⟩

/-- The sizing answers just when some whole number of steps is affordable, and then with the largest. -/
theorem VolumeLimits.size_isGreatest (accepted : limits.Accepts requested)
    (known : estimate.unitLoss slip = .ok unit) (positive : 0 < unit) :
    ((∃ volume, limits.size budget estimate slip requested = .ok volume) ↔
      (limits.affordable budget estimate slip requested).Nonempty) ∧
    ∀ volume, limits.size budget estimate slip requested = .ok volume ↔
      IsGreatest (limits.affordable budget estimate slip requested) volume := by
  simp only [size_eq accepted known positive, affordable_eq accepted known positive,
    stepsBetween_nonempty accepted.2.2.1, exists_eq_right']
  refine ⟨trivial, fun volume => ⟨?_, fun greatest => ?_⟩⟩
  · rintro ⟨reached, rfl⟩
    exact stepsBetween_isGreatest accepted.2.2.1 reached
  · have reached := (stepsBetween_nonempty accepted.2.2.1).mp ⟨volume, greatest.1⟩
    exact ⟨reached, (stepsBetween_isGreatest accepted.2.2.1 reached).unique greatest⟩

end

/-- A long four above its stop, with a fee on each unit and a charge of three. -/
def quotedLoss : LossEstimate :=
  ⟨.buy, 104, some 100, 1, 1, 1, 3, false⟩

def tenthSteps : VolumeLimits := ⟨1 / 2, 20, 1 / 10⟩

theorem quotedLoss_isGreatest :
    IsGreatest (tenthSteps.affordable 61 quotedLoss 10 15) (107 / 10) :=
  ((VolumeLimits.size_isGreatest (by unfold VolumeLimits.Accepts; decide +kernel : tenthSteps.Accepts 15)
    (by decide +kernel : quotedLoss.unitLoss 10 = .ok (27 / 5)) (by norm_num)).2 _).mp (by decide +kernel)

end TradeControl.AdaptiveRisk
