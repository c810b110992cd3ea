import TradeControl.PlanRuns

namespace TradeControl

open Foundation Relation

/-- Once the break has a date, the break rule is latched. -/
def BreakDated (plan : TradePlan) (state : PlanState) : Prop :=
  state.breakCloseAt.isSome →
    ∀ rule, plan.rules.find? isBreakAndClose = some rule → rule.ruleId ∈ state.fired

/-- What a move never takes back: the latches, the stamps and the block. -/
structure PlanState.Grows (plan : TradePlan) (before after : PlanState) : Prop where
  fired : before.fired ⊆ after.fired
  dated : BreakDated plan before → BreakDated plan after
  broke : BreakDated plan before → ∀ instant, before.breakCloseAt = some instant →
    after.breakCloseAt = some instant
  ruled : hasBreakAndClose plan = false → after.breakCloseAt = before.breakCloseAt
  retested : ∀ instant, before.retestSeenAt = some instant → after.retestSeenAt = some instant
  pulledBack : ∀ instant, before.pullbackSeenAt = some instant → after.pullbackSeenAt = some instant
  blocked : before.entriesBlocked = true → after.entriesBlocked = true
  watermark : after.watermark = before.watermark

section
variable {plan : TradePlan} {candle : Candle} {guards : Bool} {started : Phase}

theorem PlanState.Grows.refl (state : PlanState) : state.Grows plan state :=
  ⟨subset_rfl, id, fun _ _ => id, fun _ => rfl, fun _ => id, fun _ => id, id, rfl⟩

theorem PlanState.Grows.trans {first second third : PlanState} (one : first.Grows plan second)
    (two : second.Grows plan third) : first.Grows plan third where
  fired := one.fired.trans two.fired
  dated := fun dated => two.dated (one.dated dated)
  broke := fun dated instant broke => two.broke (one.dated dated) instant (one.broke dated instant broke)
  ruled := fun without => (two.ruled without).trans (one.ruled without)
  retested := fun instant seen => two.retested instant (one.retested instant seen)
  pulledBack := fun instant seen => two.pulledBack instant (one.pulledBack instant seen)
  blocked := fun blocked => two.blocked (one.blocked blocked)
  watermark := two.watermark.trans one.watermark

/-- A change that leaves the stamps alone and takes no latch away. -/
theorem PlanState.Grows.ofStamps {before after : PlanState} (fired : before.fired ⊆ after.fired)
    (broke : after.breakCloseAt = before.breakCloseAt)
    (retested : after.retestSeenAt = before.retestSeenAt)
    (pulledBack : after.pullbackSeenAt = before.pullbackSeenAt)
    (blocked : before.entriesBlocked = true → after.entriesBlocked = true)
    (watermark : after.watermark = before.watermark) : before.Grows plan after where
  fired := fired
  dated := fun dated => by
    unfold BreakDated
    rw [broke]
    exact fun some rule found => fired (dated some rule found)
  broke := fun _ instant same => broke.trans same
  ruled := fun _ => broke
  retested := fun instant same => retested.trans same
  pulledBack := fun instant same => pulledBack.trans same
  blocked := blocked
  watermark := watermark

theorem PlanState.Remembers.grows {before after : PlanState} (memory : before.Remembers after) :
    before.Grows plan after := by
  obtain ⟨origin, close, rfl⟩ := memory
  exact .ofStamps subset_rfl rfl rfl rfl id rfl

theorem WatchMove.grows {before after : GuardScan}
    (move : WatchMove plan candle guards before after) :
    before.turn.state.Grows plan after.turn.state := by
  cases move with
  | remembered memory => exact memory.grows
  | control => exact .ofStamps (Finset.subset_insert _ _) rfl rfl rfl id rfl
  | guard =>
    refine .ofStamps (Finset.subset_insert _ _) rfl rfl rfl (fun blocked => ?_) rfl
    simp [PlanTurn.pushFire, blocked]
  | retired => exact .ofStamps subset_rfl rfl rfl rfl id rfl

theorem PlanState.afterEntry_grows (state : PlanState) (rule : ConditionRule)
    (signal : Option LatchedSignal) : state.Grows plan (state.afterEntry plan rule signal) := by
  have consumed : ∀ consumedAt : Option Int,
      state.Grows plan { state with lastConfirmedEnterAt := consumedAt } :=
    fun _ => .ofStamps subset_rfl rfl rfl rfl id rfl
  have latched : ∀ state : PlanState, state.Grows plan
      (if rule.fireMode = .once ∧ !isMultiShot rule then
        { state with
          fired := insert rule.ruleId state.fired
          phase :=
            if !plan.hasMaVeto ∧ !plan.entryConditions.requireMaAlignment then .done else state.phase }
      else state) := by
    intro state
    split
    · exact .ofStamps (Finset.subset_insert _ _) rfl rfl rfl id rfl
    · exact .refl state
  unfold afterEntry
  dsimp only
  cases signal with
  | none => exact latched state
  | some sig =>
    refine PlanState.Grows.trans ?_ (latched _)
    dsimp only
    split
    · exact consumed _
    · exact .refl state

theorem SpineMove.grows {before after : PlanTurn} (move : SpineMove plan candle started before after) :
    before.state.Grows plan after.state := by
  cases move with
  | remembered memory => exact memory.grows
  | prepared => exact .ofStamps subset_rfl rfl rfl rfl id rfl
  | unbroken => exact .ofStamps subset_rfl rfl rfl rfl id rfl
  | @broke rule watching found fresh notPullback =>
    refine ⟨Finset.subset_insert _ _, fun _ _ other same => ?_, fun dated instant broke => ?_,
      fun without => ?_, fun _ => id, fun _ => id, id, rfl⟩
    · rw [found] at same
      cases same
      exact Finset.mem_insert_self _ _
    · exact absurd (dated (by simp [broke]) rule found) fresh
    · have has : hasBreakAndClose plan = true :=
        List.any_eq_true.mpr ⟨rule, List.mem_of_find?_eq_some found, List.find?_some found⟩
      rw [without] at has
      cases has
  | retested found unseen =>
    refine ⟨subset_rfl, id, fun _ _ => id, fun _ => rfl, fun instant seen => ?_, fun _ => id, id, rfl⟩
    rw [unseen] at seen
    cases seen
  | pulledBack found unseen =>
    refine ⟨subset_rfl, id, fun _ _ => id, fun _ => rfl, fun _ => id, fun instant seen => ?_, id, rfl⟩
    rw [unseen] at seen
    cases seen
  | declined => exact .refl _
  | @entered rule signal watching named found satisfied => exact before.state.afterEntry_grows rule signal

theorem WatchMoves.grows {before after : GuardScan}
    (moves : ReflTransGen (WatchMove plan candle guards) before after) :
    before.turn.state.Grows plan after.turn.state :=
  moves_within (fun before after : GuardScan => before.turn.state.Grows plan after.turn.state)
    (fun _ => .refl _) (fun one two => one.trans two) (fun _ _ move => move.grows) moves

theorem SpineMoves.grows {before after : PlanTurn}
    (moves : ReflTransGen (SpineMove plan candle started) before after) :
    before.state.Grows plan after.state :=
  moves_within (fun before after : PlanTurn => before.state.Grows plan after.state)
    (fun _ => .refl _) (fun one two => one.trans two) (fun _ _ move => move.grows) moves

/-- A candle grows the state and then sets the watermark. -/
theorem BarRuns.grows {turn after : PlanTurn} (runs : BarRuns plan candle turn after) :
    turn.state.Grows plan { after.state with watermark := turn.state.watermark } := by
  cases runs with
  | idle watch aligned stopped =>
    have grown := WatchMoves.grows watch
    exact grown.trans (.ofStamps subset_rfl rfl rfl rfl id grown.watermark.symm)
  | advanced watch aligned alive unblocked spine =>
    have watched := WatchMoves.grows watch
    have spun := SpineMoves.grows spine
    have grown := watched.trans spun
    exact grown.trans (.ofStamps subset_rfl rfl rfl rfl id grown.watermark.symm)

end

/-- Each stamp, once written, stays as it is, and the watermark does not go back. -/
structure PlanState.Precedes (before after : PlanState) : Prop where
  breakClose : ∀ instant, before.breakCloseAt = some instant → after.breakCloseAt = some instant
  retest : ∀ instant, before.retestSeenAt = some instant → after.retestSeenAt = some instant
  pullback : ∀ instant, before.pullbackSeenAt = some instant → after.pullbackSeenAt = some instant
  watermark : ∀ mark, before.watermark = some mark → ∃ mark', after.watermark = some mark' ∧ mark ≤ mark'

theorem PlanState.Precedes.refl (state : PlanState) : state.Precedes state :=
  ⟨fun _ => id, fun _ => id, fun _ => id, fun mark same => ⟨mark, same, le_rfl⟩⟩

theorem PlanState.Grows.precedes {plan : TradePlan} {first before after : PlanState}
    (grown : before.Grows plan after) (dated : BreakDated plan before) (earlier : first.Precedes before) :
    first.Precedes after where
  breakClose := fun instant same => grown.broke dated instant (earlier.breakClose instant same)
  retest := fun instant same => grown.retested instant (earlier.retest instant same)
  pullback := fun instant same => grown.pulledBack instant (earlier.pullback instant same)
  watermark := fun mark same => by
    obtain ⟨mark', later, le⟩ := earlier.watermark mark same
    exact ⟨mark', grown.watermark.trans later, le⟩

theorem precedes_carriedOver (plan : TradePlan) (first : PlanState) :
    CarriedOver plan fun turn => BreakDated plan turn.state ∧ first.Precedes turn.state where
  stamped := fun turn expiresAt ⟨dated, earlier⟩ =>
    ⟨dated, earlier.breakClose, earlier.retest, earlier.pullback, earlier.watermark⟩
  controls := fun moves ⟨dated, earlier⟩ =>
    have grown := WatchMoves.grows moves
    ⟨grown.dated dated, grown.precedes dated earlier⟩
  bar := fun {turn after candle} past runs ⟨dated, earlier⟩ => by
    have grown := runs.grows
    have precedes := grown.precedes dated earlier
    refine ⟨grown.dated dated, precedes.breakClose, precedes.retest, precedes.pullback,
      fun mark same => ⟨candle.time, runs.watermark, ?_⟩⟩
    obtain ⟨mark', later, le⟩ := earlier.watermark mark same
    exact le.trans (past mark' later).le

theorem foldl_remembers {Item : Type} {step : PlanState → Item → PlanState}
    (each : ∀ (state : PlanState) item, state.Remembers (step state item)) (items : List Item) (state : PlanState) :
    state.Remembers (items.foldl step state) := by
  induction items generalizing state with
  | nil => exact .refl state
  | cons item rest ih => exact (each state item).trans (ih _)

/-- A seeded state is the fresh one, with a watermark and the first things to compare with. -/
theorem seedPlanState_fresh (plan : TradePlan) (candles : List Candle) (expiresAt : Int) :
    ∃ watermark, PlanState.Remembers { PlanState.seed (initialPhase plan) expiresAt with watermark }
      (seedPlanState plan candles expiresAt) := by
  unfold seedPlanState
  dsimp only
  split
  · exact ⟨_, .refl _⟩
  next newest _ =>
    refine ⟨some newest.time, ?_⟩
    have closed := foldl_remembers
      (fun state (rule : ConditionRule) => recordLastClose_remembers state rule newest) plan.rules
    split
    · exact closed _
    next arming _ =>
      have opened := foldl_remembers
        (fun state (rule : ConditionRule) => recordOriginOpen_remembers state rule arming) plan.rules
      exact (opened _).trans (closed _)

theorem seedPlanState_undated (plan : TradePlan) (candles : List Candle) (expiresAt : Int) :
    (seedPlanState plan candles expiresAt).breakCloseAt = none := by
  obtain ⟨watermark, origin, close, same⟩ := seedPlanState_fresh plan candles expiresAt
  rw [same]
  rfl

/-- Every rule's latch is its own, and none is the alignment's. -/
def TradePlan.DistinctIds (plan : TradePlan) : Prop :=
  (plan.rules.map (·.ruleId) ++
    if plan.entryConditions.requireMaAlignment then alignmentRuleIds else []).Nodup

instance (plan : TradePlan) : Decidable plan.DistinctIds := inferInstanceAs (Decidable (List.Nodup _))

theorem TradePlan.DistinctIds.nodup {plan : TradePlan} (ids : plan.DistinctIds) :
    (plan.rules.map (·.ruleId)).Nodup :=
  (List.nodup_append.mp ids).1

theorem TradePlan.DistinctIds.rule_eq {plan : TradePlan} (ids : plan.DistinctIds)
    {rule rule' : ConditionRule} (member : rule ∈ plan.rules) (member' : rule' ∈ plan.rules)
    (same : rule.ruleId = rule'.ruleId) : rule = rule' :=
  List.inj_on_of_nodup_map ids.nodup member member' same

theorem TradePlan.DistinctIds.not_alignment {plan : TradePlan} (ids : plan.DistinctIds)
    {rule : ConditionRule} (member : rule ∈ plan.rules) {fire : FiredIntent}
    (aligned : fire.IsAlignment plan) : fire.ruleId ≠ rule.ruleId := by
  obtain ⟨required, listed, _⟩ := aligned
  have apart := (List.nodup_append.mp ids).2.2
  intro same
  refine apart rule.ruleId (List.mem_map_of_mem member) fire.ruleId ?_ same.symm
  rw [if_pos required]
  exact listed

/-- A rule named by an enter's id is that enter. -/
theorem TradePlan.DistinctIds.enter_of_named {plan : TradePlan} (ids : plan.DistinctIds)
    {rule : ConditionRule} (named : rule.ruleId ∈ enterRuleIds plan) (member : rule ∈ plan.rules) :
    isEnter rule = true := by
  obtain ⟨enter, listed, same⟩ := List.mem_map.mp named
  obtain ⟨member', enters⟩ := List.mem_filter.mp listed
  rw [← ids.rule_eq member' member same]
  exact enters

/-- Every rule has its own id, and an enter is nothing but an enter. -/
structure TradePlan.WellRoled (plan : TradePlan) : Prop where
  distinct : plan.DistinctIds
  entersOnly : ∀ rule ∈ plan.rules, isEnter rule = true →
    isControlRule rule = false ∧ isGuard rule = false ∧ isBreakAndClose rule = false ∧
      isRetest rule = false ∧ isPullback rule = false

/-- Where a rule's fire is remembered. -/
def Latched (state : PlanState) (rule : ConditionRule) : Prop :=
  if isPullback rule then state.pullbackSeenAt.isSome = true
  else if isRetest rule then state.retestSeenAt.isSome = true
  else rule.ruleId ∈ state.fired

theorem Latched.grows {plan : TradePlan} {before after : PlanState} {rule : ConditionRule}
    (latched : Latched before rule) (grown : before.Grows plan after) : Latched after rule := by
  unfold Latched at latched ⊢
  split
  next pullback =>
    rw [if_pos pullback] at latched
    obtain ⟨instant, same⟩ := Option.isSome_iff_exists.mp latched
    simp [grown.pulledBack instant same]
  next notPullback =>
    rw [if_neg notPullback] at latched
    split
    next retest =>
      rw [if_pos retest] at latched
      obtain ⟨instant, same⟩ := Option.isSome_iff_exists.mp latched
      simp [grown.retested instant same]
    next notRetest =>
      rw [if_neg notRetest] at latched
      exact grown.fired latched

theorem latched_iff_fired {state : PlanState} {rule : ConditionRule}
    (notPullback : isPullback rule = false) (notRetest : isRetest rule = false) :
    Latched state rule ↔ rule.ruleId ∈ state.fired := by
  simp [Latched, notPullback, notRetest]

def firesOf (rule : ConditionRule) (fired : List FiredIntent) : Nat :=
  fired.countP fun fire => fire.ruleId = rule.ruleId

/-- A rule that is not an enter has fired at most once, and not unless its latch says so. -/
def FiresOnce (plan : TradePlan) (turn : PlanTurn) : Prop :=
  ∀ rule ∈ plan.rules, isEnter rule = false →
    firesOf rule turn.fired ≤ 1 ∧ (0 < firesOf rule turn.fired → Latched turn.state rule)

theorem FiresOnce.grown {plan : TradePlan} {before after : PlanTurn} (once : FiresOnce plan before)
    (grown : before.state.Grows plan after.state) (same : after.fired = before.fired) :
    FiresOnce plan after := by
  intro rule member notEnter
  obtain ⟨le, latched⟩ := once rule member notEnter
  rw [same]
  exact ⟨le, fun fired => (latched fired).grows grown⟩

/-- A fire of a rule that is an enter, or that was not latched and is now. -/
theorem FiresOnce.pushed {plan : TradePlan} (roles : plan.WellRoled) {before : PlanTurn}
    {state : PlanState} (once : FiresOnce plan before) (grown : before.state.Grows plan state)
    {fresh : ConditionRule} (candle : Candle) (signal : Option LatchedSignal)
    (member : fresh ∈ plan.rules)
    (latches : isEnter fresh = false → ¬Latched before.state fresh ∧ Latched state fresh) :
    FiresOnce plan ({ before with state }.pushFire fresh candle signal) := by
  intro rule member' notEnter
  obtain ⟨le, latched⟩ := once rule member' notEnter
  have counted : firesOf rule ({ before with state }.pushFire fresh candle signal).fired =
      firesOf rule before.fired + if fresh.ruleId = rule.ruleId then 1 else 0 := by
    simp [firesOf, PlanTurn.pushFire, List.countP_append, List.countP_cons]
  rw [counted]
  by_cases same : fresh.ruleId = rule.ruleId
  · obtain rfl := roles.distinct.rule_eq member member' same
    obtain ⟨unlatched, nowLatched⟩ := latches notEnter
    have none : firesOf fresh before.fired = 0 := by
      by_contra some
      exact unlatched (latched (by omega))
    exact ⟨by simp [none], fun _ => nowLatched⟩
  · rw [if_neg same]
    exact ⟨le, fun fired => (latched fired).grows grown⟩

theorem FiresOnce.aligned {plan : TradePlan} (roles : plan.WellRoled) {turn : PlanTurn}
    (once : FiresOnce plan turn) {align : List FiredIntent}
    (aligned : ∀ fire ∈ align, fire.IsAlignment plan) :
    FiresOnce plan { turn with fired := turn.fired ++ align } := by
  intro rule member notEnter
  have none : firesOf rule align = 0 :=
    List.countP_eq_zero.mpr fun fire listed => by
      simpa using roles.distinct.not_alignment member (aligned fire listed)
  have counted : firesOf rule (turn.fired ++ align) = firesOf rule turn.fired := by
    unfold firesOf at none ⊢
    rw [List.countP_append, none]
    omega
  dsimp only
  rw [counted]
  exact once rule member notEnter

theorem isRetest_of_kind {rule : ConditionRule} {kind : RuleKind} (role : resolvedKind rule = kind)
    (other : kind ≠ .prepRetest) : isRetest rule = false := by
  simp [isRetest, role, other]

theorem isRetest_of_control {rule : ConditionRule} (control : isControlRule rule = true) :
    isRetest rule = false :=
  isRetest_of_kind (by simpa [isControlRule] using control) (by decide)

theorem isRetest_of_breakAndClose {rule : ConditionRule} (breaks : isBreakAndClose rule = true) :
    isRetest rule = false :=
  isRetest_of_kind (by simpa [isBreakAndClose] using breaks) (by decide)

theorem isRetest_of_guard {rule : ConditionRule} (guard : isGuard rule = true) :
    isRetest rule = false := by
  have role : resolvedKind rule = .setupInvalidation ∨ resolvedKind rule = .perPositionClose := by
    simpa [isGuard] using guard
  rcases role with role | role
  · exact isRetest_of_kind role (by decide)
  · exact isRetest_of_kind role (by decide)

section
variable {plan : TradePlan} {candle : Candle} {guards : Bool} {started : Phase}

theorem WatchMove.firesOnce (roles : plan.WellRoled) {before after : GuardScan}
    (move : WatchMove plan candle guards before after) (once : FiresOnce plan before.turn) :
    FiresOnce plan after.turn := by
  have grown := move.grows
  cases move with
  | remembered memory => exact once.grown grown rfl
  | control member control fresh notPullback =>
    refine once.pushed roles grown candle none member fun _ => ?_
    have notRetest := isRetest_of_control control
    rw [latched_iff_fired notPullback notRetest, latched_iff_fired notPullback notRetest]
    exact ⟨fresh, Finset.mem_insert_self _ _⟩
  | guard signal looked member guard fresh notPullback =>
    refine once.pushed roles grown candle signal member fun _ => ?_
    have notRetest := isRetest_of_guard guard
    rw [latched_iff_fired notPullback notRetest, latched_iff_fired notPullback notRetest]
    exact ⟨fresh, Finset.mem_insert_self _ _⟩
  | retired => exact once.grown grown rfl

theorem SpineMove.firesOnce (roles : plan.WellRoled) {before after : PlanTurn}
    (move : SpineMove plan candle started before after) (once : FiresOnce plan before) :
    FiresOnce plan after := by
  have grown := move.grows
  cases move with
  | remembered => exact once.grown grown rfl
  | prepared => exact once.grown grown rfl
  | unbroken => exact once.grown grown rfl
  | broke watching found fresh notPullback =>
    refine once.pushed roles grown candle none (List.mem_of_find?_eq_some found) fun _ => ?_
    have notRetest := isRetest_of_breakAndClose (List.find?_some found)
    rw [latched_iff_fired notPullback notRetest, latched_iff_fired notPullback notRetest]
    exact ⟨fresh, Finset.mem_insert_self _ _⟩
  | retested found unseen after notPullback =>
    refine once.pushed roles grown candle none (List.mem_of_find?_eq_some found) fun _ => ?_
    have retest := List.find?_some found
    simp [Latched, notPullback, retest, unseen]
  | pulledBack found unseen after =>
    refine once.pushed roles grown candle none (List.mem_of_find?_eq_some found) fun _ => ?_
    have pullback := List.find?_some found
    simp [Latched, pullback, unseen]
  | declined => exact once.grown grown rfl
  | entered signal watching named found satisfied =>
    have member := List.mem_of_find?_eq_some found
    refine once.pushed roles grown candle signal member fun notEnter => ?_
    rw [roles.distinct.enter_of_named named member] at notEnter
    cases notEnter

theorem WatchMoves.firesOnce (roles : plan.WellRoled) {before after : GuardScan}
    (moves : ReflTransGen (WatchMove plan candle guards) before after)
    (once : FiresOnce plan before.turn) : FiresOnce plan after.turn :=
  moves_invariant (fun scan : GuardScan => FiresOnce plan scan.turn) moves
    (fun _ _ move once => move.firesOnce roles once) once

theorem SpineMoves.firesOnce (roles : plan.WellRoled) {before after : PlanTurn}
    (moves : ReflTransGen (SpineMove plan candle started) before after)
    (once : FiresOnce plan before) : FiresOnce plan after :=
  moves_invariant (FiresOnce plan) moves (fun _ _ move once => move.firesOnce roles once) once

theorem firesOnce_carriedOver (roles : plan.WellRoled) : CarriedOver plan (FiresOnce plan) where
  stamped := fun _ _ once => once
  controls := fun moves once => WatchMoves.firesOnce roles moves once
  bar := fun _ runs once => by
    cases runs with
    | idle watch aligned => exact (WatchMoves.firesOnce roles watch once).aligned roles aligned
    | @advanced watched after align watch aligned alive unblocked spine =>
      have seen : FiresOnce plan { watched with fired := watched.fired ++ align } :=
        (WatchMoves.firesOnce roles watch once).aligned roles aligned
      have spun : FiresOnce plan after := SpineMoves.firesOnce roles spine seen
      exact spun

end

end TradeControl
