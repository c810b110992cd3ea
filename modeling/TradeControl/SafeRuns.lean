import TradeControl.WatchSafety

namespace TradeControl

open Foundation Relation

/-- What holds all through a bar's spine. -/
structure Spun (plan : TradePlan) (candle : Candle) (started : Phase) (turn : PlanTurn) : Prop where
  dated : BreakDated plan turn.state
  entered : ∀ fire ∈ turn.fired, fire.IsEnter →
    EnterHeld plan turn.state fire ∧ fire.candle.time ≤ candle.time
  clear : ∀ guard ∈ turn.fired, ¬guard.Invalidates plan
  started : started = .awaitEntry → BrokenBefore plan turn.state candle.time
  opened : isMultiEnter plan = false → hasBreakAndClose plan = true →
    turn.state.phase = .awaitEntry →
      ∃ breakAt, turn.state.breakCloseAt = some breakAt ∧ breakAt ≤ candle.time

section
variable {plan : TradePlan} {candle : Candle} {started : Phase}

/-- The spine goes on over a move whose fires invalidate nothing and whose enters hold. -/
theorem Spun.moved {before after : PlanTurn} (spun : Spun plan candle started before)
    (grown : before.state.Grows plan after.state) {news : List FiredIntent}
    (fired : after.fired = before.fired ++ news)
    (sound : ∀ new ∈ news, ¬new.Invalidates plan ∧
      (new.IsEnter → EnterHeld plan after.state new ∧ new.candle.time ≤ candle.time))
    (opened : hasBreakAndClose plan = true → after.state.phase = .awaitEntry →
      before.state.phase = .awaitEntry ∨ after.state.breakCloseAt = some candle.time) :
    Spun plan candle started after where
  dated := grown.dated spun.dated
  entered := fun fire member enters => by
    rw [fired] at member
    rcases List.mem_append.mp member with old | new
    · obtain ⟨held, le⟩ := spun.entered fire old enters
      exact ⟨held.grows grown spun.dated, le⟩
    · exact (sound fire new).2 enters
  clear := fun guard member => by
    rw [fired] at member
    rcases List.mem_append.mp member with old | new
    · exact spun.clear guard old
    · exact (sound guard new).1
  started := fun entry => (spun.started entry).grows grown spun.dated
  opened := fun single has open_ => by
    rcases opened has open_ with earlier | broke
    · obtain ⟨breakAt, broke, le⟩ := spun.opened single has earlier
      exact ⟨breakAt, grown.broke spun.dated breakAt broke, le⟩
    · exact ⟨candle.time, broke, le_rfl⟩

theorem PlanState.afterEntry_phase {state : PlanState} {rule : ConditionRule}
    {signal : Option LatchedSignal} (open_ : (state.afterEntry plan rule signal).phase = .awaitEntry) :
    state.phase = .awaitEntry := by
  have latched : ∀ state : PlanState,
      PlanState.phase (if rule.fireMode = .once ∧ !isMultiShot rule then
        { state with
          fired := insert rule.ruleId state.fired
          phase :=
            if !plan.hasMaVeto ∧ !plan.entryConditions.requireMaAlignment then .done else state.phase }
      else state) = .awaitEntry → state.phase = .awaitEntry := by
    intro state open_
    split at open_
    · dsimp only at open_
      split at open_
      · cases open_
      · exact open_
    · exact open_
  unfold afterEntry at open_
  have opened := latched _ open_
  cases signal with
  | none => exact opened
  | some sig =>
    dsimp only at opened
    split at opened
    · exact opened
    · exact opened

theorem guardIsTerminal_of_kind {rule : ConditionRule} {kind : RuleKind}
    (role : resolvedKind rule = kind) (other : kind ≠ .setupInvalidation) :
    guardIsTerminal rule = false := by
  simp [guardIsTerminal, role, other]

theorem guardIsTerminal_of_notGuard {rule : ConditionRule} (notGuard : isGuard rule = false) :
    guardIsTerminal rule = false := by
  simp only [isGuard, decide_eq_false_iff_not, not_or] at notGuard
  simp [guardIsTerminal, notGuard.1]

theorem SpineMove.spun (roles : plan.WellRoled) {before after : PlanTurn}
    (move : SpineMove plan candle started before after) (spun : Spun plan candle started before) :
    Spun plan candle started after := by
  have grown := move.grows
  have nothing : ∀ new ∈ ([] : List FiredIntent), ¬new.Invalidates plan ∧
      (new.IsEnter → EnterHeld plan after.state new ∧ new.candle.time ≤ candle.time) := by simp
  cases move with
  | remembered memory =>
    obtain ⟨origin, close, rfl⟩ := memory
    exact spun.moved grown (by simp) nothing fun _ => .inl
  | prepared => exact spun.moved grown (by simp) nothing fun _ => .inl
  | unbroken without =>
    refine spun.moved grown (by simp) nothing fun has => ?_
    rw [without] at has
    cases has
  | broke watching found fresh notPullback =>
    have member := List.mem_of_find?_eq_some found
    have breaks := List.find?_some found
    refine spun.moved grown rfl (fun new listed => ?_) fun _ _ => .inr rfl
    obtain rfl := List.mem_singleton.mp listed
    have notTerminal := guardIsTerminal_of_kind (by simpa [isBreakAndClose] using breaks) (by decide)
    refine ⟨roles.not_invalidates member (.inl notTerminal) none, fun enters => ?_⟩
    exact absurd enters (roles.not_enter member (.inr (.inr (.inl breaks))) none)
  | retested found unseen past notPullback =>
    have member := List.mem_of_find?_eq_some found
    have retest := List.find?_some found
    refine spun.moved grown rfl (fun new listed => ?_) fun _ => .inl
    obtain rfl := List.mem_singleton.mp listed
    have notTerminal := guardIsTerminal_of_kind (by simpa [isRetest] using retest) (by decide)
    refine ⟨roles.not_invalidates member (.inl notTerminal) none, fun enters => ?_⟩
    exact absurd enters (roles.not_enter member (.inr (.inr (.inr (.inl retest)))) none)
  | pulledBack found unseen past =>
    have member := List.mem_of_find?_eq_some found
    have pullback := List.find?_some found
    refine spun.moved grown rfl (fun new listed => ?_) fun _ => .inl
    obtain rfl := List.mem_singleton.mp listed
    refine ⟨roles.not_invalidates member (.inr pullback) none, fun enters => ?_⟩
    exact absurd enters (roles.not_enter member (.inr (.inr (.inr (.inr pullback)))) none)
  | declined => exact spun.moved grown (by simp) nothing fun _ => .inl
  | entered signal watching named found satisfied =>
    have member := List.mem_of_find?_eq_some found
    have enter := roles.distinct.enter_of_named named member
    obtain ⟨_, notGuard, _⟩ := roles.entersOnly _ member enter
    refine spun.moved grown rfl (fun new listed => ?_) fun _ open_ =>
      .inl (PlanState.afterEntry_phase open_)
    obtain rfl := List.mem_singleton.mp listed
    have notTerminal := guardIsTerminal_of_notGuard notGuard
    refine ⟨roles.not_invalidates member (.inl notTerminal) signal, fun _ => ⟨?_, le_rfl⟩⟩
    have held : EnterHeld plan before.state
        { ruleId := _, intent := _, candle, signal } :=
      ⟨spun.started watching, milestonesHeld_of_satisfied signal satisfied⟩
    exact held.grows grown spun.dated

theorem SpineMoves.spun (roles : plan.WellRoled) {before after : PlanTurn}
    (moves : ReflTransGen (SpineMove plan candle started) before after)
    (spun : Spun plan candle started before) : Spun plan candle started after :=
  moves_invariant (Spun plan candle started) moves (fun _ _ move spun => move.spun roles spun) spun

/-- A mark that is not behind the old one. -/
theorem Watched.marked {turn : PlanTurn} (watched : Watched plan { turn }) {time : Int}
    (past : ∀ mark, turn.state.watermark = some mark → mark ≤ time) :
    Watched plan { turn := { turn with state := { turn.state with watermark := some time } } } where
  dated := watched.dated
  entered := fun fire member enters => by
    obtain ⟨held, mark, same, le⟩ := watched.entered fire member enters
    exact ⟨⟨held.broken, held.milestones⟩, time, rfl, le.trans (past mark same)⟩
  invalidated := watched.invalidated
  opened := fun single has open_ => by
    obtain ⟨breakAt, mark, broke, same, le⟩ := watched.opened single has open_
    exact ⟨breakAt, time, broke, rfl, le.trans (past mark same)⟩

/-- A watch that ends with the plan open to entries starts the spine. -/
theorem Watched.spun {turn : PlanTurn} (watched : Watched plan { turn })
    (past : ∀ mark, turn.state.watermark = some mark → mark < candle.time)
    (alive : turn.state.phase ≠ .done) (unblocked : turn.state.entriesBlocked = false) :
    Spun plan candle turn.state.phase turn where
  dated := watched.dated
  entered := fun fire member enters => by
    obtain ⟨held, mark, same, le⟩ := watched.entered fire member enters
    exact ⟨held, le.trans (past mark same).le⟩
  clear := fun guard member invalidates => by
    obtain ⟨blocked | done | terminal, _⟩ := watched.invalidated guard member invalidates
    · exact absurd blocked (by simp [unblocked])
    · exact alive done
    · cases terminal
  started := fun entry single has => by
    obtain ⟨breakAt, mark, broke, same, le⟩ := watched.opened single has entry
    exact ⟨breakAt, broke, le.trans_lt (past mark same)⟩
  opened := fun single has entry => by
    obtain ⟨breakAt, mark, broke, same, le⟩ := watched.opened single has entry
    exact ⟨breakAt, broke, le.trans (past mark same).le⟩

theorem Spun.watched {turn : PlanTurn} (spun : Spun plan candle started turn) :
    Watched plan
      { turn := { turn with state := { turn.state with watermark := some candle.time } } } where
  dated := spun.dated
  entered := fun fire member enters => by
    obtain ⟨held, le⟩ := spun.entered fire member enters
    exact ⟨⟨held.broken, held.milestones⟩, candle.time, rfl, le⟩
  invalidated := fun guard member invalidates => absurd invalidates (spun.clear guard member)
  opened := fun single has entry => by
    obtain ⟨breakAt, broke, le⟩ := spun.opened single has entry
    exact ⟨breakAt, candle.time, broke, rfl, le⟩

theorem BarRuns.watched (roles : plan.WellRoled) {turn after : PlanTurn}
    (past : ∀ mark, turn.state.watermark = some mark → mark < candle.time)
    (runs : BarRuns plan candle turn after) (watched : Watched plan { turn }) :
    Watched plan { turn := after } := by
  cases runs with
  | @idle seen align watch aligned stopped =>
    have grown := WatchMoves.grows watch
    have kept := (WatchMoves.watched roles watch (fun _ => past) watched).aligned roles aligned
    exact kept.marked fun mark same => (past mark (grown.watermark.symm.trans same)).le
  | @advanced seen after align watch aligned alive unblocked spine =>
    have grown := WatchMoves.grows watch
    have kept := (WatchMoves.watched roles watch (fun _ => past) watched).aligned roles aligned
    have begun := kept.spun (fun mark same => past mark (grown.watermark.symm.trans same)) alive unblocked
    exact (SpineMoves.spun roles spine begun).watched

theorem watched_carriedOver (roles : plan.WellRoled) :
    CarriedOver plan fun turn => Watched plan { turn } where
  stamped := fun turn expiresAt watched =>
    { dated := watched.dated
      entered := fun fire member enters => by
        obtain ⟨held, marked⟩ := watched.entered fire member enters
        exact ⟨⟨held.broken, held.milestones⟩, marked⟩
      invalidated := watched.invalidated
      opened := watched.opened }
  controls := fun moves watched =>
    WatchMoves.watched roles moves (fun looked => by cases looked) watched
  bar := fun past runs watched => runs.watched roles past watched

theorem seedPlanState_watched (plan : TradePlan) (candles : List Candle) (expiresAt : Int) :
    Watched plan { turn := { state := seedPlanState plan candles expiresAt } } where
  dated := fun dated => by
    rw [seedPlanState_undated] at dated
    cases dated
  entered := fun _ member => by cases member
  invalidated := fun _ member => by cases member
  opened := fun single has entry => by
    obtain ⟨watermark, origin, close, same⟩ := seedPlanState_fresh plan candles expiresAt
    have phase : initialPhase plan = .awaitBreakAndClose := by
      unfold hasBreakAndClose at has
      simp [initialPhase, single, has]
    have entry : (seedPlanState plan candles expiresAt).phase = .awaitEntry := entry
    rw [same] at entry
    dsimp only [PlanState.seed] at entry
    rw [phase] at entry
    cases entry

end

/-- A run of a plan begins with its seeded state and nothing fired. -/
def TradePlan.seeded (plan : TradePlan) (candles : List Candle) (expiresAt : Int) : PlanTurn :=
  { state := seedPlanState plan candles expiresAt }

/-- The tick as it stands after its first `count` candles. -/
def PlanTick.cut (count : Nat) : PlanTick → PlanTick
  | .bars newCandles window now expiresAt => .bars (newCandles.take count) window now expiresAt
  | .controls lastCandle now expiresAt => .controls lastCandle now expiresAt

section
variable (env : EngineEnv) (plan : TradePlan) (window : List Candle) (now : Int)

/-- The loop over the candles is the loop over the rest, from where the first ones left it. -/
theorem evaluateBars_split (count : Nat) {candles : List Candle} (turn : PlanTurn)
    (fresh : FreshCandles turn.state candles) :
    ∃ rest, FreshCandles (evaluateBars env plan window now (candles.take count) turn).state rest ∧
      evaluateBars env plan window now candles turn =
        evaluateBars env plan window now rest
          (evaluateBars env plan window now (candles.take count) turn) := by
  induction candles generalizing turn count with
  | nil => exact ⟨[], ⟨.nil, by simp⟩, by simp [evaluateBars]⟩
  | cons candle later ih =>
    cases count with
    | zero => exact ⟨candle :: later, by simpa [evaluateBars] using fresh, by simp [evaluateBars]⟩
    | succ count =>
      obtain ⟨first, ascending⟩ := List.pairwise_cons.mp fresh.1
      have mark := (evaluateBar_runs env plan window now turn candle).watermark
      simp only [List.take_succ_cons, evaluateBars]
      split
      · exact ⟨[], ⟨.nil, by simp⟩, by simp [evaluateBars]⟩
      · refine ih count _ ⟨ascending, fun next member mark' same => ?_⟩
        rw [mark] at same
        cases same
        exact first next member

/-- What is carried over everywhere is carried over from the middle of a tick to its end. -/
theorem PlanTurn.tick_carriedOver_cut {env : EngineEnv} {plan : TradePlan} {inv : PlanTurn → Prop}
    (carried : CarriedOver plan inv) {run : PlanTurn} {tick : PlanTick} (count : Nat)
    (fresh : tick.Fresh run) (cut : inv (run.tick env plan (tick.cut count))) :
    inv (run.tick env plan tick) := by
  cases tick with
  | bars newCandles window now expiresAt =>
    obtain ⟨rest, later, same⟩ := evaluateBars_split env plan window now count
      { run with state := { run.state with expiresAt } } fresh
    rw [PlanTick.cut, tick_bars] at cut
    rw [tick_bars, same]
    exact evaluateBars_carriedOver carried window now later cut
  | controls lastCandle now expiresAt => exact cut

end

section
variable {env : EngineEnv} {plan : TradePlan} {start : PlanTurn}

theorem FreshTicks.split {before after : List PlanTick}
    (fresh : FreshTicks env plan start (before ++ after)) :
    FreshTicks env plan start before ∧ FreshTicks env plan (runTicks env plan start before) after := by
  induction before generalizing start with
  | nil => exact ⟨trivial, fresh⟩
  | cons tick rest ih =>
    obtain ⟨first, later⟩ := ih fresh.2
    exact ⟨⟨fresh.1, first⟩, later⟩

theorem runTicks_append (before after : List PlanTick) :
    runTicks env plan start (before ++ after) =
      runTicks env plan (runTicks env plan start before) after :=
  List.foldl_append

/-- A cut tick brings candles past the watermark when the tick does. -/
theorem PlanTick.Fresh.cut {run : PlanTurn} {tick : PlanTick} (fresh : tick.Fresh run) (count : Nat) :
    (tick.cut count).Fresh run := by
  cases tick with
  | bars newCandles window now expiresAt =>
    exact ⟨fresh.1.sublist (List.take_sublist _ _), fun candle member =>
      fresh.2 candle (List.mem_of_mem_take member)⟩
  | controls lastCandle now expiresAt => trivial

/-- What has been stamped at any moment of a run stays stamped so, and its watermark is not undercut. -/
theorem runTicks_precedes (dated : BreakDated plan start.state) {before after : List PlanTick}
    {tick : PlanTick} (count : Nat) (fresh : FreshTicks env plan start (before ++ tick :: after)) :
    (runTicks env plan start (before ++ [tick.cut count])).state.Precedes
      (runTicks env plan start (before ++ tick :: after)).state := by
  obtain ⟨earlier, ⟨here, later⟩⟩ := fresh.split
  simp only [runTicks_append]
  generalize same : runTicks env plan start before = reached at here later ⊢
  have reachedDated : BreakDated plan reached.state := by
    rw [← same]
    exact (runTicks_carriedOver (precedes_carriedOver plan start.state) earlier
      ⟨dated, .refl start.state⟩).1
  let middle := reached.tick env plan (tick.cut count)
  have middleDated : BreakDated plan middle.state :=
    (PlanTurn.tick_carriedOver (precedes_carriedOver plan reached.state) (here.cut count)
      ⟨reachedDated, .refl reached.state⟩).1
  have carried := precedes_carriedOver plan middle.state
  have ended := PlanTurn.tick_carriedOver_cut carried count here ⟨middleDated, .refl middle.state⟩
  exact (runTicks_carriedOver carried later ended).2

end

/-- What a run of a plan whose rules have their own ids and roles keeps to. -/
structure PlanTurn.Safe (plan : TradePlan) (run : PlanTurn) : Prop where
  invalidated : ∀ guard ∈ run.fired, guard.Invalidates plan →
    ∀ fire ∈ run.fired, fire.IsEnter → fire.candle.time < guard.candle.time
  entered : ∀ fire ∈ run.fired, fire.IsEnter → EnterHeld plan run.state fire
  once : ∀ rule ∈ plan.rules, isEnter rule = false → firesOf rule run.fired ≤ 1

/-- Every run of a plan from its seed, over any ticks of fresh candles and of the clock, stamps
each milestone once and never moves its watermark back. Where the plan's rules have their own
ids and roles, it enters on no bar from an invalidation on and after its break and milestones
only, and fires every other rule at most once. -/
theorem planRuns_safe (env : EngineEnv) (plan : TradePlan) (candles : List Candle) (expiresAt : Int)
    (ticks : List PlanTick) (fresh : FreshTicks env plan (plan.seeded candles expiresAt) ticks) :
    (∀ before tick after count, ticks = before ++ tick :: after →
      (runTicks env plan (plan.seeded candles expiresAt) (before ++ [tick.cut count])).state.Precedes
        (runTicks env plan (plan.seeded candles expiresAt) ticks).state) ∧
    (plan.WellRoled → (runTicks env plan (plan.seeded candles expiresAt) ticks).Safe plan) := by
  have watched := seedPlanState_watched plan candles expiresAt
  constructor
  · rintro before tick after count rfl
    exact runTicks_precedes watched.dated count fresh
  · intro roles
    have last := runTicks_carriedOver (watched_carriedOver roles) fresh watched
    have once := runTicks_carriedOver (firesOnce_carriedOver roles) fresh
      (fun rule _ _ => ⟨Nat.zero_le 1, fun fired => absurd fired (by simp [TradePlan.seeded, firesOf])⟩)
    exact ⟨fun guard member invalidates => (last.invalidated guard member invalidates).2,
      fun fire member enters => (last.entered fire member enters).1,
      fun rule member notEnter => (once rule member notEnter).1⟩

instance (fire : FiredIntent) : Decidable fire.IsEnter :=
  inferInstanceAs (Decidable (fire.intent.action = .enter))

instance (plan : TradePlan) (fire : FiredIntent) : Decidable (fire.Invalidates plan) :=
  inferInstanceAs (Decidable (∃ rule ∈ plan.rules, guardIsTerminal rule = true ∧
    isPullback rule = false ∧ fire.ruleId = rule.ruleId))

def bareIntent (action : Action) : RuleIntent where
  id := "plan-1"
  notAfter := seconds 72000
  action := action
  instrument := "INDEX"

/-- A rule that fires on any bar through 100. -/
def touchRule (ruleId : String) (kind : RuleKind) (action : Action) : ConditionRule where
  ruleId := ruleId
  trigger := .horizontalCross 100 .either .intrabar
  intent := bareIntent action
  kind := kind

def hourlyPlan (rules : List ConditionRule) : TradePlan where
  tradeId := "trade-1"
  instrument := "INDEX"
  direction := .long
  granularity := .h1
  pipSize := 1
  rules := rules

/-- A break, a retest, an enter and an invalidation at the same price. -/
def touchPlan : TradePlan :=
  hourlyPlan [touchRule "break" .prepBreakAndClose .prep, touchRule "retest" .prepRetest .prep,
    touchRule "enter" .enter .enter, touchRule "end" .setupInvalidation .invalidate]

def hourBar (hour : Int) : Candle := ⟨seconds (3600 * hour), 99, 101, 98, 100⟩

def hourlyTicks : List PlanTick :=
  [.bars [hourBar 1, hourBar 2] [hourBar 0, hourBar 1, hourBar 2] (seconds 10800) (seconds 72000),
    .controls (hourBar 2) (seconds 10860) (seconds 72000)]

/-- Two hourly bars and a look at the clock, for a plan seeded on the bar before them. -/
def hourlyRun (plan : TradePlan) : PlanTurn :=
  runTicks calmEngine plan (plan.seeded [hourBar 0] (seconds 72000)) hourlyTicks

theorem hourlyTicks_fresh {plan : TradePlan}
    (mark : (plan.seeded [hourBar 0] (seconds 72000)).state.watermark = some 0) :
    FreshTicks calmEngine plan (plan.seeded [hourBar 0] (seconds 72000)) hourlyTicks := by
  refine ⟨⟨?_, fun candle member mark' same => ?_⟩, trivial, trivial⟩
  · unfold Ascending
    decide
  · rw [mark] at same
    cases same
    revert candle
    decide

theorem planRuns_safe_touch : (hourlyRun touchPlan).Safe touchPlan :=
  (planRuns_safe calmEngine touchPlan [hourBar 0] (seconds 72000) hourlyTicks
    (hourlyTicks_fresh (by decide +kernel))).2 ⟨by decide +kernel, by decide +kernel⟩

/-- Two milestones for one enter; without an arm the pullback's is never looked at. -/
def eitherPlan : TradePlan :=
  hourlyPlan [touchRule "retest" .prepRetest .prep,
    { touchRule "pullback" .prepPullback .prep with trigger := .pullbackFromArm 100 1 .long },
    touchRule "enter" .enter .enter]

/-- A retest that carries the enter's id. -/
def sameIdPlan : TradePlan :=
  hourlyPlan [touchRule "enter" .prepRetest .prep, touchRule "enter" .enter .enter]

/-- An enter in a control's role beside an invalidation. -/
def enterInControlPlan : TradePlan :=
  hourlyPlan [touchRule "enter" .control .enter, touchRule "end" .setupInvalidation .invalidate]

/-- Of two milestones either lets an enter through; a rule that shares the enter's id fires again
and again, and an enter in another role fires beside an invalidation. -/
theorem planRuns_unsafe :
    (∃ fire ∈ (hourlyRun eitherPlan).fired, fire.IsEnter ∧
      requiredMilestones eitherPlan fire.intent = (true, true) ∧
      (hourlyRun eitherPlan).state.pullbackSeenAt = none) ∧
    (∃ rule ∈ sameIdPlan.rules, isEnter rule = false ∧
      1 < firesOf rule (hourlyRun sameIdPlan).fired) ∧
    (∃ guard ∈ (hourlyRun enterInControlPlan).fired, guard.Invalidates enterInControlPlan ∧
      ∃ fire ∈ (hourlyRun enterInControlPlan).fired, fire.IsEnter ∧
        guard.candle.time ≤ fire.candle.time) := by
  refine ⟨?_, ?_, ?_⟩
  · decide +kernel
  · decide +kernel
  · decide +kernel

end TradeControl
