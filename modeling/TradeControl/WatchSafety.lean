import TradeControl.PlanOnce

namespace TradeControl

open Foundation Relation

def FiredIntent.IsEnter (fire : FiredIntent) : Prop := fire.intent.action = .enter

/-- A fire of a setup invalidation; a pullback's trigger never fires as a guard. -/
def FiredIntent.Invalidates (plan : TradePlan) (fire : FiredIntent) : Prop :=
  ∃ rule ∈ plan.rules, guardIsTerminal rule = true ∧ isPullback rule = false ∧
    fire.ruleId = rule.ruleId

/-- The milestone was stamped strictly after the break and not after `entryTime`. -/
def StampedBy (plan : TradePlan) (state : PlanState) (seen : Option Int) (entryTime : Int) : Prop :=
  ∃ instant, seen = some instant ∧ AfterBreak plan state instant ∧ instant ≤ entryTime

/-- What the milestones say of an enter's fire: the one that gates it is stamped, and of two
alternatives at least one. -/
def MilestonesHeld (plan : TradePlan) (state : PlanState) (fire : FiredIntent) : Prop :=
  match requiredMilestones plan fire.intent with
  | (false, false) => True
  | (true, false) => StampedBy plan state state.retestSeenAt fire.candle.time
  | (false, true) => StampedBy plan state state.pullbackSeenAt fire.candle.time
  | (true, true) =>
    StampedBy plan state state.retestSeenAt fire.candle.time ∨
      StampedBy plan state state.pullbackSeenAt fire.candle.time

/-- A single enter that waits for a break fired strictly after it. -/
def BrokenBefore (plan : TradePlan) (state : PlanState) (time : Int) : Prop :=
  isMultiEnter plan = false → hasBreakAndClose plan = true →
    ∃ breakAt, state.breakCloseAt = some breakAt ∧ breakAt < time

/-- What holds of an enter's fire from then on. -/
structure EnterHeld (plan : TradePlan) (state : PlanState) (fire : FiredIntent) : Prop where
  broken : BrokenBefore plan state fire.candle.time
  milestones : MilestonesHeld plan state fire

section
variable {plan : TradePlan} {before after : PlanState}

theorem AfterBreak.grows {time : Int} (past : AfterBreak plan before time)
    (grown : before.Grows plan after) (dated : BreakDated plan before) : AfterBreak plan after time := by
  obtain ⟨later, has⟩ := past
  cases ruled : hasBreakAndClose plan with
  | false =>
    refine ⟨fun breakAt same => ?_, fun has => by rw [ruled] at has; cases has⟩
    rw [grown.ruled ruled] at same
    exact later breakAt same
  | true =>
    obtain ⟨breakAt, broke⟩ := Option.isSome_iff_exists.mp (has ruled)
    have kept := grown.broke dated breakAt broke
    refine ⟨fun breakAt' same => ?_, fun _ => by simp [kept]⟩
    rw [kept] at same
    cases same
    exact later breakAt broke

theorem StampedBy.grows {seen seen' : Option Int} {time : Int} (stamped : StampedBy plan before seen time)
    (kept : ∀ instant, seen = some instant → seen' = some instant)
    (grown : before.Grows plan after) (dated : BreakDated plan before) :
    StampedBy plan after seen' time := by
  obtain ⟨instant, same, past, le⟩ := stamped
  exact ⟨instant, kept instant same, past.grows grown dated, le⟩

theorem BrokenBefore.grows {time : Int} (broken : BrokenBefore plan before time)
    (grown : before.Grows plan after) (dated : BreakDated plan before) : BrokenBefore plan after time := by
  intro single has
  obtain ⟨breakAt, broke, less⟩ := broken single has
  exact ⟨breakAt, grown.broke dated breakAt broke, less⟩

theorem EnterHeld.grows {fire : FiredIntent} (held : EnterHeld plan before fire)
    (grown : before.Grows plan after) (dated : BreakDated plan before) : EnterHeld plan after fire := by
  refine ⟨held.broken.grows grown dated, ?_⟩
  have milestones := held.milestones
  unfold MilestonesHeld at milestones ⊢
  split
  · trivial
  next required =>
    rw [required] at milestones
    exact milestones.grows grown.retested grown dated
  next required =>
    rw [required] at milestones
    exact milestones.grows grown.pulledBack grown dated
  next required =>
    rw [required] at milestones
    rcases milestones with retested | pulledBack
    · exact .inl (retested.grows grown.retested grown dated)
    · exact .inr (pulledBack.grows grown.pulledBack grown dated)

end

theorem stampedBy_of_retest {plan : TradePlan} {state : PlanState} {entryTime : Int}
    (satisfied : retestSatisfied plan state entryTime = true) :
    StampedBy plan state state.retestSeenAt entryTime := by
  unfold retestSatisfied at satisfied
  split at satisfied
  next breakAt seen broke stamped =>
    have bounds : breakAt < seen ∧ seen ≤ entryTime := by simpa using satisfied
    refine ⟨seen, stamped, ⟨fun breakAt' same => ?_, fun _ => by simp [broke]⟩, bounds.2⟩
    rw [broke] at same
    cases same
    exact bounds.1
  next seen unbroken stamped =>
    have bounds : hasBreakAndClose plan = false ∧ seen ≤ entryTime := by simpa using satisfied
    refine ⟨seen, stamped, ⟨fun _ same => by simp [unbroken] at same, fun has => ?_⟩, bounds.2⟩
    rw [bounds.1] at has
    cases has
  next => cases satisfied

theorem stampedBy_of_pullback {plan : TradePlan} {state : PlanState} {entryTime : Int}
    (satisfied : pullbackSatisfied plan state entryTime = true) :
    StampedBy plan state state.pullbackSeenAt entryTime := by
  let asRetest : PlanState := { state with retestSeenAt := state.pullbackSeenAt }
  have stamped : StampedBy plan asRetest asRetest.retestSeenAt entryTime :=
    stampedBy_of_retest satisfied
  exact stamped

theorem milestonesHeld_of_satisfied {plan : TradePlan} {state : PlanState} {rule : ConditionRule}
    {candle : Candle} (signal : Option LatchedSignal)
    (satisfied : enterPrepMilestonesSatisfied plan state rule candle.time = true) :
    MilestonesHeld plan state { ruleId := rule.ruleId, intent := rule.intent, candle, signal } := by
  unfold enterPrepMilestonesSatisfied at satisfied
  unfold MilestonesHeld
  dsimp only
  split at satisfied
  next required => rw [required]; trivial
  next required =>
    rw [required]
    rcases Bool.or_eq_true_iff.mp satisfied with retested | pulledBack
    · exact .inl (stampedBy_of_retest retested)
    · exact .inr (stampedBy_of_pullback pulledBack)
  next required => rw [required]; exact stampedBy_of_retest satisfied
  next required => rw [required]; exact stampedBy_of_pullback satisfied

/-- A setup invalidation has stopped the entries, or is about to once the bar's guards are through. -/
def GuardScan.Stopped (scan : GuardScan) : Prop :=
  scan.turn.state.entriesBlocked = true ∨ scan.turn.state.phase = .done ∨ scan.terminalFired = true

/-- What holds between two bars and all through a bar's watch. -/
structure Watched (plan : TradePlan) (scan : GuardScan) : Prop where
  dated : BreakDated plan scan.turn.state
  entered : ∀ fire ∈ scan.turn.fired, fire.IsEnter → EnterHeld plan scan.turn.state fire ∧
    ∃ mark, scan.turn.state.watermark = some mark ∧ fire.candle.time ≤ mark
  invalidated : ∀ guard ∈ scan.turn.fired, guard.Invalidates plan → scan.Stopped ∧
    ∀ fire ∈ scan.turn.fired, fire.IsEnter → fire.candle.time < guard.candle.time
  opened : isMultiEnter plan = false → hasBreakAndClose plan = true →
    scan.turn.state.phase = .awaitEntry →
      ∃ breakAt mark, scan.turn.state.breakCloseAt = some breakAt ∧
        scan.turn.state.watermark = some mark ∧ breakAt ≤ mark

section
variable {plan : TradePlan} {candle : Candle} {guards : Bool}

/-- A rule of another role neither enters nor invalidates. -/
theorem TradePlan.WellRoled.not_invalidates (roles : plan.WellRoled) {rule : ConditionRule}
    (member : rule ∈ plan.rules) (role : guardIsTerminal rule = false ∨ isPullback rule = true)
    (signal : Option LatchedSignal) :
    ¬FiredIntent.Invalidates plan { ruleId := rule.ruleId, intent := rule.intent, candle, signal } := by
  rintro ⟨rule', member', terminal, notPullback, same⟩
  obtain rfl := roles.distinct.rule_eq member member' same
  rcases role with notTerminal | pullback
  · rw [notTerminal] at terminal
    cases terminal
  · rw [notPullback] at pullback
    cases pullback

theorem TradePlan.WellRoled.not_enter (roles : plan.WellRoled) {rule : ConditionRule}
    (member : rule ∈ plan.rules)
    (role : isControlRule rule = true ∨ isGuard rule = true ∨ isBreakAndClose rule = true ∨
      isRetest rule = true ∨ isPullback rule = true) (signal : Option LatchedSignal) :
    ¬FiredIntent.IsEnter { ruleId := rule.ruleId, intent := rule.intent, candle, signal } := by
  intro enters
  have enter : isEnter rule = true := by simpa [FiredIntent.IsEnter, isEnter] using enters
  obtain ⟨control, guard, breaks, retest, pullback⟩ := roles.entersOnly rule member enter
  rcases role with role | role | role | role | role
  · rw [control] at role; cases role
  · rw [guard] at role; cases role
  · rw [breaks] at role; cases role
  · rw [retest] at role; cases role
  · rw [pullback] at role; cases role

/-- The watch goes on over a move that fires nothing and stops what was stopped. -/
theorem Watched.quiet {before after : GuardScan} (watched : Watched plan before)
    (grown : before.turn.state.Grows plan after.turn.state)
    (fired : after.turn.fired = before.turn.fired)
    (phase : after.turn.state.phase = .awaitEntry → before.turn.state.phase = .awaitEntry)
    (stopped : before.Stopped → after.Stopped) : Watched plan after where
  dated := grown.dated watched.dated
  entered := fun fire member enters => by
    rw [fired] at member
    obtain ⟨held, mark, same, le⟩ := watched.entered fire member enters
    exact ⟨held.grows grown watched.dated, mark, grown.watermark.trans same, le⟩
  invalidated := fun guard member invalidates => by
    rw [fired] at member ⊢
    obtain ⟨stop, earlier⟩ := watched.invalidated guard member invalidates
    exact ⟨stopped stop, earlier⟩
  opened := fun single has open_ => by
    obtain ⟨breakAt, mark, broke, same, le⟩ := watched.opened single has (phase open_)
    exact ⟨breakAt, mark, grown.broke watched.dated breakAt broke, grown.watermark.trans same, le⟩

/-- The watch goes on over the fire of a rule that does not enter; one that invalidates stops it. -/
theorem Watched.fires {before after : GuardScan} (watched : Watched plan before)
    (grown : before.turn.state.Grows plan after.turn.state) {new : FiredIntent}
    (fired : after.turn.fired = before.turn.fired ++ [new]) (notEnter : ¬new.IsEnter)
    (phase : after.turn.state.phase = before.turn.state.phase)
    (stopped : before.Stopped → after.Stopped)
    (verdict : new.Invalidates plan → after.Stopped ∧
      ∀ mark, before.turn.state.watermark = some mark → mark < new.candle.time) :
    Watched plan after where
  dated := grown.dated watched.dated
  entered := fun fire member enters => by
    rw [fired, List.mem_append, List.mem_singleton] at member
    rcases member with old | rfl
    · obtain ⟨held, mark, same, le⟩ := watched.entered fire old enters
      exact ⟨held.grows grown watched.dated, mark, grown.watermark.trans same, le⟩
    · exact absurd enters notEnter
  invalidated := fun guard member invalidates => by
    rw [fired, List.mem_append, List.mem_singleton] at member
    have earlier : after.Stopped ∧
        ∀ fire ∈ before.turn.fired, fire.IsEnter → fire.candle.time < guard.candle.time := by
      rcases member with old | rfl
      · obtain ⟨stop, earlier⟩ := watched.invalidated guard old invalidates
        exact ⟨stopped stop, earlier⟩
      · obtain ⟨stop, past⟩ := verdict invalidates
        refine ⟨stop, fun fire listed enters => ?_⟩
        obtain ⟨_, mark, same, le⟩ := watched.entered fire listed enters
        have := past mark same
        omega
    refine ⟨earlier.1, fun fire listed enters => ?_⟩
    rw [fired, List.mem_append, List.mem_singleton] at listed
    rcases listed with old | rfl
    · exact earlier.2 fire old enters
    · exact absurd enters notEnter
  opened := fun single has open_ => by
    rw [phase] at open_
    obtain ⟨breakAt, mark, broke, same, le⟩ := watched.opened single has open_
    exact ⟨breakAt, mark, grown.broke watched.dated breakAt broke, grown.watermark.trans same, le⟩

theorem WatchMove.watched (roles : plan.WellRoled) {before after : GuardScan}
    (move : WatchMove plan candle guards before after)
    (fresh : guards = true → ∀ mark, before.turn.state.watermark = some mark → mark < candle.time)
    (watched : Watched plan before) : Watched plan after := by
  have grown := move.grows
  cases move with
  | remembered memory =>
    obtain ⟨origin, close, rfl⟩ := memory
    exact watched.quiet grown rfl id id
  | @control rule member control unlatched notPullback =>
    have notTerminal : guardIsTerminal rule = false := by
      have role : resolvedKind rule = .control := by simpa [isControlRule] using control
      simp [guardIsTerminal, role]
    refine watched.fires grown rfl (roles.not_enter member (.inl control) none) rfl id fun invalidates => ?_
    exact absurd invalidates (roles.not_invalidates member (.inl notTerminal) none)
  | @guard rule signal looked member guard unlatched notPullback =>
    have stops : before.Stopped → GuardScan.Stopped
        { turn :=
            { before.turn with
              state :=
                { before.turn.state with
                  fired := insert rule.ruleId before.turn.state.fired
                  entriesBlocked := before.turn.state.entriesBlocked ||
                    (guardIsTerminal rule && !vetoRetiresPlan rule) } }.pushFire rule candle signal
          terminalFired := before.terminalFired || (guardIsTerminal rule && vetoRetiresPlan rule) } := by
      rintro (blocked | done | terminal)
      · exact .inl (by simp [blocked])
      · exact .inr (.inl done)
      · exact .inr (.inr (by simp [terminal]))
    refine watched.fires grown rfl (roles.not_enter member (.inr (.inl guard)) signal) rfl stops
      fun invalidates => ⟨?_, fresh looked⟩
    obtain ⟨rule', member', terminal, _, same⟩ := invalidates
    obtain rfl := roles.distinct.rule_eq member member' same
    cases retires : vetoRetiresPlan rule with
    | true => exact .inr (.inr (by simp [terminal]))
    | false => exact .inl (by simp [PlanTurn.pushFire, terminal])
  | retired looked terminal =>
    refine watched.quiet grown rfl (fun open_ => ?_) fun _ => .inr (.inl rfl)
    cases open_

theorem WatchMoves.watched (roles : plan.WellRoled) {before after : GuardScan}
    (moves : ReflTransGen (WatchMove plan candle guards) before after)
    (fresh : guards = true → ∀ mark, before.turn.state.watermark = some mark → mark < candle.time)
    (watched : Watched plan before) : Watched plan after := by
  induction moves with
  | refl => exact watched
  | tail earlier move ih =>
    have grown := WatchMoves.grows earlier
    refine move.watched roles (fun looked mark same => fresh looked mark ?_) ih
    exact grown.watermark.symm.trans same

theorem Watched.aligned {turn : PlanTurn} (watched : Watched plan { turn }) (roles : plan.WellRoled)
    {align : List FiredIntent} (aligned : ∀ fire ∈ align, fire.IsAlignment plan) :
    Watched plan { turn := { turn with fired := turn.fired ++ align } } where
  dated := watched.dated
  entered := fun fire member enters => by
    rcases List.mem_append.mp member with old | new
    · exact watched.entered fire old enters
    · exact absurd enters (aligned fire new).2.2
  invalidated := fun guard member invalidates => by
    rcases List.mem_append.mp member with old | new
    · obtain ⟨stop, earlier⟩ := watched.invalidated guard old invalidates
      refine ⟨stop, fun fire listed enters => ?_⟩
      rcases List.mem_append.mp listed with old | new
      · exact earlier fire old enters
      · exact absurd enters (aligned fire new).2.2
    · obtain ⟨rule, listed, _, _, same⟩ := invalidates
      exact absurd same (roles.distinct.not_alignment listed (aligned guard new))
  opened := watched.opened

end

end TradeControl
