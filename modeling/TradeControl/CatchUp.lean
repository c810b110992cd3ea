import TradeControl.ExpiryAside
import TradeControl.SafeRuns
import TradeControl.WindowCut

namespace TradeControl

section
variable (env : EngineEnv) {plan : TradePlan} {window : List Candle} {bar : Nat} {candle : Candle}
  (ascending : Ascending window) (found : window[bar]? = some candle)
  (settled : Settled plan window bar candle)

section
include ascending found settled

theorem evalTrigger_cut {rule : ConditionRule} (member : rule ∈ plan.rules) (refs : OnCloseRefs) :
    evalTrigger rule.trigger candle refs (window.take (bar + 1))
        (resolveCrossBuffer plan (window.take (bar + 1))) =
      evalTrigger rule.trigger candle refs window (resolveCrossBuffer plan window) := by
  have buffered : rule.trigger.readsBuffer = true →
      resolveCrossBuffer plan (window.take (bar + 1)) = resolveCrossBuffer plan window :=
    fun reads => (settled.buffer (List.any_eq_true.mpr ⟨rule, member, reads⟩)).symm
  have index := windowIndex_of ascending found
  have index' := windowIndex_cut ascending found
  have below := Nat.lt_succ_self bar
  cases trigger : rule.trigger with
  | horizontalCross level dir event =>
    rw [trigger] at buffered
    simp only [evalTrigger, buffered rfl]
  | priceValueCross level dir event =>
    rw [trigger] at buffered
    simp only [evalTrigger, buffered rfl]
  | trendlineCross a b extendForward barSeconds dir event =>
    rw [trigger] at buffered
    have line := settled.lines rule member a b extendForward barSeconds dir event trigger
    simp only [evalTrigger, buffered rfl, line]
  | adverseMaBreak average dir =>
    have relations : ∀ i, i < bar + 1 →
        closeRelation average (window.take (bar + 1)) i = closeRelation average window i :=
      fun i below => closeRelation_take average window below
    simp only [evalTrigger, index, index', Option.any_some, averageBreakAt,
      turnsAdverse_congr dir below relations]
  | adverseMaCross dir =>
    have relations : ∀ i, i < bar + 1 → relationAt (window.take (bar + 1)) i = relationAt window i :=
      fun i below => relationAt_take window below
    simp only [evalTrigger, index, index', Option.any_some, adverseCrossAt,
      turnsAdverse_congr dir below relations]
  | timeReached atEpoch => rfl
  | mwEveryBar => rfl
  | pinePattern pattern dir => rfl
  | pullbackFromArm anchorOpen atrMult dir => rfl

omit ascending found in
theorem oncloseLevelAt_cut {rule : ConditionRule} (member : rule ∈ plan.rules) :
    oncloseLevelAt rule.trigger candle (window.take (bar + 1)) =
      oncloseLevelAt rule.trigger candle window := by
  unfold oncloseLevelAt
  split
  · rfl
  · rfl
  next a b extendForward barSeconds dir trigger =>
    exact (settled.lines rule member a b extendForward barSeconds dir .onClose trigger).symm
  · rfl

omit ascending found in
theorem reseatOriginOnDip_cut {rule : ConditionRule} (member : rule ∈ plan.rules) (state : PlanState) :
    state.reseatOriginOnDip rule candle (window.take (bar + 1)) =
      state.reseatOriginOnDip rule candle window := by
  unfold PlanState.reseatOriginOnDip
  rw [oncloseLevelAt_cut settled member]

theorem fireRule_cut {rule : ConditionRule} (member : rule ∈ plan.rules) (state : PlanState) :
    fireRule env rule state candle (window.take (bar + 1))
        (resolveCrossBuffer plan (window.take (bar + 1))) plan.granularity =
      fireRule env rule state candle window (resolveCrossBuffer plan window) plan.granularity := by
  unfold fireRule
  rw [reseatOriginOnDip_cut settled member]
  dsimp only
  rw [evalTrigger_cut ascending found settled member]

theorem evaluateControl_cut (now : Int) (turn : PlanTurn) {rule : ConditionRule}
    (member : rule ∈ plan.rules) :
    evaluateControl env plan candle (window.take (bar + 1)) now turn rule =
      evaluateControl env plan candle window now turn rule := by
  have fires : controlRuleFires env rule turn.state candle (window.take (bar + 1))
      (resolveCrossBuffer plan (window.take (bar + 1))) now plan.granularity =
        controlRuleFires env rule turn.state candle window (resolveCrossBuffer plan window) now
          plan.granularity := by
    unfold controlRuleFires
    rw [fireRule_cut env ascending found settled member]
  unfold evaluateControl
  rw [fires]

theorem evaluateControls_cut (now : Int) (turn : PlanTurn) :
    evaluateControls env plan candle (window.take (bar + 1)) now turn =
      evaluateControls env plan candle window now turn :=
  List.foldl_ext _ _ turn fun turn _ member =>
    evaluateControl_cut env ascending found settled now turn member

theorem evaluateGuard_cut (cfg : DetectorConfig) (scan : GuardScan) {rule : ConditionRule}
    (member : rule ∈ plan.rules) :
    evaluateGuard env plan candle (window.take (bar + 1)) cfg scan rule =
      evaluateGuard env plan candle window cfg scan rule := by
  have signals : guardSignal env plan rule scan.turn.state candle (window.take (bar + 1)) cfg =
      guardSignal env plan rule scan.turn.state candle window cfg := by
    unfold guardSignal evalPineGuard
    rw [fireRule_cut env ascending found settled member]
    simp only [evalPineEntry_cut ascending found]
  unfold evaluateGuard
  rw [signals]

theorem evaluateGuards_cut (cfg : DetectorConfig) (turn : PlanTurn) :
    evaluateGuards env plan candle (window.take (bar + 1)) cfg turn =
      evaluateGuards env plan candle window cfg turn := by
  unfold evaluateGuards
  rw [List.foldl_ext _ _ ({ turn } : GuardScan) fun scan _ member =>
    evaluateGuard_cut env ascending found settled cfg scan member]

theorem evaluateWatch_cut (cfg : DetectorConfig) (now : Int) (turn : PlanTurn) :
    evaluateWatch env plan candle (window.take (bar + 1)) cfg now turn =
      evaluateWatch env plan candle window cfg now turn := by
  unfold evaluateWatch
  rw [evaluateControls_cut env ascending found settled, evaluateGuards_cut env ascending found settled]

omit ascending found in
theorem barIsGolden_cut {rule : ConditionRule} (member : rule ∈ plan.rules)
    (role : isBreakAndClose rule = true ∨ isRetest rule = true) :
    (plan.bcrRequireGolden && !barIsGolden candle (window.take (bar + 1)) plan.granularity) =
      (plan.bcrRequireGolden && !barIsGolden candle window plan.granularity) := by
  cases required : plan.bcrRequireGolden with
  | false => rfl
  | true =>
    have used : plan.rules.any (fun rule => isBreakAndClose rule || isRetest rule) = true :=
      List.any_eq_true.mpr ⟨rule, member, by simpa using role⟩
    rw [settled.golden required used]

theorem evaluateBreakAndClose_cut (turn : PlanTurn) :
    evaluateBreakAndClose env plan candle (window.take (bar + 1)) turn =
      evaluateBreakAndClose env plan candle window turn := by
  unfold evaluateBreakAndClose
  cases found' : plan.rules.find? isBreakAndClose with
  | none => rfl
  | some rule =>
    have member := List.mem_of_find?_eq_some found'
    have golden := barIsGolden_cut settled member (.inl (List.find?_some found'))
    have same : (plan.bcrRequireGolden = true ∧
        (!barIsGolden candle (window.take (bar + 1)) plan.granularity) = true) ↔
          (plan.bcrRequireGolden = true ∧ (!barIsGolden candle window plan.granularity) = true) := by
      rw [← Bool.and_eq_true, ← Bool.and_eq_true, golden]
    simp only [same, fireRule_cut env ascending found settled member]

theorem retestCrossed_cut {rule : ConditionRule} (member : rule ∈ plan.rules) (refs : OnCloseRefs)
    (tol : Rat) :
    retestCrossed rule.trigger candle refs (window.take (bar + 1))
        (resolveCrossBuffer plan (window.take (bar + 1))) tol =
      retestCrossed rule.trigger candle refs window (resolveCrossBuffer plan window) tol := by
  have strictly := evalTrigger_cut ascending found settled member refs
  have buffered : rule.trigger.readsBuffer = true →
      resolveCrossBuffer plan (window.take (bar + 1)) = resolveCrossBuffer plan window :=
    fun reads => (settled.buffer (List.any_eq_true.mpr ⟨rule, member, reads⟩)).symm
  unfold retestCrossed
  rw [strictly]
  split
  · rfl
  · dsimp only
    split
    next trigger =>
      rw [trigger] at buffered
      rw [buffered rfl]
    next trigger =>
      rw [trigger] at buffered
      rw [buffered rfl]
    next a b extendForward barSeconds dir event trigger =>
      rw [trigger] at buffered
      rw [buffered rfl, settled.lines rule member a b extendForward barSeconds dir event trigger]
    · rfl

theorem stampRetest_cut (turn : PlanTurn) :
    stampRetest env plan candle (window.take (bar + 1)) turn = stampRetest env plan candle window turn := by
  unfold stampRetest
  rw [effectiveBreakAt_cut]
  cases effectiveBreakAt plan turn.state window with
  | none => rfl
  | some breakAt =>
    cases found' : plan.rules.find? isRetest with
    | none => rfl
    | some rule =>
      have member := List.mem_of_find?_eq_some found'
      have golden : (!plan.bcrRequireGolden ||
          barIsGolden candle (window.take (bar + 1)) plan.granularity) =
            (!plan.bcrRequireGolden || barIsGolden candle window plan.granularity) := by
        have same := congrArg (!·) (barIsGolden_cut settled member (.inr (List.find?_some found')))
        simpa only [Bool.not_and, Bool.not_not] using same
      simp only [← settled.tolerance rule found', reseatOriginOnDip_cut settled member, golden,
        retestCrossed_cut ascending found settled member]

theorem stampPullback_cut (turn : PlanTurn) :
    stampPullback env plan candle (window.take (bar + 1)) turn =
      stampPullback env plan candle window turn := by
  unfold stampPullback
  rw [effectiveBreakAt_cut]
  cases found' : plan.rules.find? isPullback with
  | none => rfl
  | some rule =>
    have average := settled.average (by simp [found'])
    simp only [← average, pullbackTriggered, bodyExtreme_cut ascending found]

omit settled

theorem maAlignmentSatisfied_cut (plan : TradePlan) :
    maAlignmentSatisfied plan candle.time (window.take (bar + 1)) =
      maAlignmentSatisfied plan candle.time window := by
  simp only [maAlignmentSatisfied, windowIndex_cut ascending found, windowIndex_of ascending found,
    Option.any_some, favorableAt_take plan.direction (Nat.lt_succ_self bar)]

theorem maAlignmentControl_cut (plan : TradePlan) (state : PlanState) :
    maAlignmentControl plan state candle (window.take (bar + 1)) =
      maAlignmentControl plan state candle window := by
  simp only [maAlignmentControl, maAlignmentSatisfied_cut ascending found]

theorem stampMaTouch_cut (plan : TradePlan) (state : PlanState) :
    stampMaTouch env plan candle (window.take (bar + 1)) state = stampMaTouch env plan candle window state := by
  simp only [stampMaTouch, windowIndex_cut ascending found, windowIndex_of ascending found,
    MovingAverage.touchesAt_take _ (Nat.lt_succ_self bar)]

theorem entryWatched_cut (plan : TradePlan) (state : PlanState) (rule : ConditionRule) :
    entryWatched env plan state rule candle (window.take (bar + 1)) =
      entryWatched env plan state rule candle window := by
  simp only [entryWatched, maAlignmentSatisfied_cut ascending found, windowIndex_cut ascending found,
    windowIndex_of ascending found, Option.any_some, maVetoReadyAt_take plan (Nat.lt_succ_self bar)]

include settled

omit ascending found in
theorem stampRetrace_cut (state : PlanState) :
    stampRetrace env plan candle (window.take (bar + 1)) state = stampRetrace env plan candle window state := by
  unfold stampRetrace
  cases drawn : plan.entryConditions.retrace with
  | none => rfl
  | some line => simp only [settled.retrace line drawn]

theorem entrySignal_cut (cfg : DetectorConfig) (state : PlanState) {rule : ConditionRule}
    (member : rule ∈ plan.rules) :
    entrySignal env plan rule state candle (window.take (bar + 1)) cfg =
      entrySignal env plan rule state candle window cfg := by
  unfold entrySignal
  rw [fireRule_cut env ascending found settled member]
  simp only [evalPineEntry_cut ascending found]

theorem evaluateOneEntry_cut (cfg : DetectorConfig) (turn : PlanTurn) {rule : ConditionRule}
    (member : rule ∈ plan.rules) :
    evaluateOneEntry env plan candle (window.take (bar + 1)) cfg rule turn =
      evaluateOneEntry env plan candle window cfg rule turn := by
  unfold evaluateOneEntry
  rw [entryWatched_cut env ascending found, entrySignal_cut env ascending found settled cfg _ member]

theorem evaluateEntries_cut (cfg : DetectorConfig) (ruleIds : List String) (turn : PlanTurn) :
    evaluateEntries env plan candle (window.take (bar + 1)) cfg ruleIds turn =
      evaluateEntries env plan candle window cfg ruleIds turn := by
  induction ruleIds generalizing turn with
  | nil => rfl
  | cons ruleId rest ih =>
    unfold evaluateEntries
    cases found' : plan.rules.find? fun rule => rule.ruleId = ruleId with
    | none => simp only [ih]
    | some rule =>
      simp only [ih, evaluateOneEntry_cut env ascending found settled cfg _ (List.mem_of_find?_eq_some found')]

theorem evaluateSpine_cut (cfg : DetectorConfig) (turn : PlanTurn) :
    evaluateSpine env plan candle (window.take (bar + 1)) cfg turn =
      evaluateSpine env plan candle window cfg turn := by
  unfold evaluateSpine evaluateEntry
  simp only [evaluateBreakAndClose_cut env ascending found settled, stampRetest_cut env ascending found settled,
    stampPullback_cut env ascending found settled, evaluateEntries_cut env ascending found settled]

/-- A settled bar is judged over the whole window as over the window cut after it. -/
theorem evaluateBar_cut (now : Int) (turn : PlanTurn) :
    evaluateBar env plan (window.take (bar + 1)) now turn candle =
      evaluateBar env plan window now turn candle := by
  unfold evaluateBar
  simp only [evaluateWatch_cut env ascending found settled, maAlignmentControl_cut ascending found,
    stampRetrace_cut env settled, stampMaTouch_cut env ascending found,
    evaluateSpine_cut env ascending found settled]

end

end

/-- One call for each bar of the window from `bar` on, over the window cut after the bar and at the
bar's close; a plan that is done is not called again. -/
def evaluateLive (env : EngineEnv) (plan : TradePlan) (window : List Candle) (expiries : Nat → Int) :
    Nat → List Candle → PlanTurn → PlanTurn
  | _, [], run => run
  | bar, candle :: rest, run =>
    let run := run.tick env plan (.bars [candle] (window.take (bar + 1))
      (candle.time + seconds plan.granularity.seconds) (expiries bar))
    if run.state.phase = .done then run else evaluateLive env plan window expiries (bar + 1) rest run

theorem Ascending.le_last {window : List Candle} (ascending : Ascending window) {candle last : Candle}
    (member : candle ∈ window) (ends : window.getLast? = some last) : candle.time ≤ last.time := by
  obtain ⟨earlier, rfl⟩ := List.getLast?_eq_some_iff.mp ends
  rcases List.mem_append.mp member with before | same
  · exact (List.pairwise_append.mp ascending).2.2 candle before last (by simp) |>.le
  · rw [List.mem_singleton.mp same]

section
variable (env : EngineEnv) {plan : TradePlan} {window : List Candle}

/-- From a bar's close on, the bar is judged as at its close. -/
theorem evaluateBar_closed {candle : Candle} {now : Int}
    (closed : candle.time + seconds plan.granularity.seconds ≤ now) (turn : PlanTurn) :
    evaluateBar env plan window now turn candle =
      evaluateBar env plan window (candle.time + seconds plan.granularity.seconds) turn candle := by
  have clock : controlClockFor candle plan.granularity now =
      controlClockFor candle plan.granularity (candle.time + seconds plan.granularity.seconds) := by
    rw [controlClockFor, controlClockFor, min_self, min_eq_left closed]
  unfold evaluateBar evaluateWatch
  rw [clock]

theorem evaluateBars_single (now : Int) (turn : PlanTurn) (candle : Candle) :
    evaluateBars env plan window now [candle] turn = evaluateBar env plan window now turn candle := by
  simp only [evaluateBars, ite_self]

/-- The live call on a settled bar is the batch's turn on it, but for the expiry. -/
theorem liveCall_eq (ascending : Ascending window) {bar : Nat} {candle : Candle}
    (found : window[bar]? = some candle) (settled : Settled plan window bar candle) {now : Int}
    (closed : candle.time + seconds plan.granularity.seconds ≤ now) (expiresAt : Int) (run : PlanTurn) :
    run.tick env plan (.bars [candle] (window.take (bar + 1))
        (candle.time + seconds plan.granularity.seconds) expiresAt) =
      (evaluateBar env plan window now run candle).stamped expiresAt := by
  rw [PlanTurn.tick_bars, evaluateBars_single, evaluateBar_cut env ascending found settled,
    ← evaluateBar_closed env closed]
  exact evaluateBar_stamped env plan candle window expiresAt now run

/-- The live calls from `bar` on come to the batch's loop from there, but for the expiry. -/
theorem evaluateLive_stamped (ascending : Ascending window) (expiries : Nat → Int) {now : Int}
    (expiresAt : Int) {candles : List Candle} {bar : Nat} (dropped : window.drop bar = candles)
    (settled : ∀ later candle, bar ≤ later → window[later]? = some candle →
      Settled plan window later candle)
    (closed : ∀ candle ∈ candles, candle.time + seconds plan.granularity.seconds ≤ now)
    (run : PlanTurn) :
    (evaluateLive env plan window expiries bar candles run).stamped expiresAt =
      evaluateBars env plan window now candles (run.stamped expiresAt) := by
  induction candles generalizing bar run with
  | nil => rfl
  | cons candle rest ih =>
    have found : window[bar]? = some candle := by
      have first := congrArg (·[0]?) dropped
      simpa using first
    have later : window.drop (bar + 1) = rest := by
      rw [← List.tail_drop, dropped, List.tail_cons]
    have call := liveCall_eq env ascending found (settled bar candle le_rfl found)
      (closed candle (by simp)) (expiries bar) run
    have turn := evaluateBar_stamped env plan candle window expiresAt now run
    unfold evaluateLive evaluateBars
    rw [call, turn]
    dsimp only
    split
    · rfl
    · rw [ih later (fun next bar' past => settled next bar' (by omega))
        (fun next member => closed next (List.mem_cons_of_mem _ member))]

end

/-- Catching up over a batch of bars comes to what one call a bar would have come to, the expiry
aside, wherever what the evaluator takes from a whole window is settled on each new bar. -/
theorem evaluateLive_batch (env : EngineEnv) (plan : TradePlan) (prior : PlanState)
    (window : List Candle) (mark : Nat) (expiries : Nat → Int) (now expiresAt : Int)
    (ascending : Ascending window)
    (closed : ∀ last, window.getLast? = some last → last.time + seconds plan.granularity.seconds ≤ now)
    (settled : ∀ bar candle, mark ≤ bar → window[bar]? = some candle → Settled plan window bar candle) :
    let live := evaluateLive env plan window expiries mark (window.drop mark) { state := prior }
    let batch := evaluatePlan env plan prior (window.drop mark) window now expiresAt
    live.fired = batch.fired ∧ live.entryDeclines = batch.entryDeclines ∧
      { live.state with expiresAt } = batch.newState := by
  have each : ∀ candle ∈ window.drop mark, candle.time + seconds plan.granularity.seconds ≤ now := by
    intro candle member
    have inWindow := List.mem_of_mem_drop member
    have nonempty := List.ne_nil_of_mem inWindow
    have last := List.getLast?_eq_some_getLast nonempty
    have bound := closed _ last
    have before := ascending.le_last inWindow last
    omega
  have same := evaluateLive_stamped env ascending expiries expiresAt rfl settled each { state := prior }
  dsimp only [evaluatePlan, PlanTurn.toEval]
  rw [← same]
  exact ⟨rfl, rfl, rfl⟩

/-- A break and an enter at the same price. -/
def breakPlan : TradePlan :=
  hourlyPlan [touchRule "break" .prepBreakAndClose .prep, touchRule "enter" .enter .enter]

theorem evaluateLive_batch_break :
    let window := [hourBar 0, hourBar 1, hourBar 2]
    let prior := seedPlanState breakPlan [hourBar 0] (seconds 72000)
    let live := evaluateLive calmEngine breakPlan window (fun _ => seconds 72000) 1 (window.drop 1)
      { state := prior }
    let batch := evaluatePlan calmEngine breakPlan prior (window.drop 1) window (seconds 10860)
      (seconds 72060)
    live.fired = batch.fired ∧ live.entryDeclines = batch.entryDeclines ∧
      { live.state with expiresAt := seconds 72060 } = batch.newState := by
  have ascending : Ascending [hourBar 0, hourBar 1, hourBar 2] := by
    unfold Ascending
    decide
  have drawn : ∀ rule ∈ breakPlan.rules, rule.trigger = .horizontalCross 100 .either .intrabar := by
    intro rule member
    simp only [breakPlan, hourlyPlan, List.mem_cons, List.not_mem_nil, or_false] at member
    rcases member with rfl | rfl
    · rfl
    · rfl
  have retests : breakPlan.rules.find? isRetest = none := rfl
  refine evaluateLive_batch calmEngine breakPlan _ [hourBar 0, hourBar 1, hourBar 2] 1 _ _ _ ascending
    (fun last ends => ?_) (fun bar candle _ _ => ?_)
  · cases ends
    decide
  · exact
      { buffer := fun _ => rfl
        golden := fun required => absurd required (by decide)
        lines := fun rule member a b extendForward barSeconds dir event line =>
          absurd ((drawn rule member).symm.trans line) (by simp)
        retrace := fun line drawn => absurd drawn (by simp [breakPlan, hourlyPlan])
        tolerance := fun rule found => absurd (retests.symm.trans found) (by simp)
        average := fun found => absurd found (by decide +kernel) }

/-- A break through a rising line whose second point lies two bars ahead. -/
def risingPlan : TradePlan :=
  hourlyPlan
    [{ touchRule "break" .prepBreakAndClose .prep with
        trigger := .trendlineCross ⟨0, 100⟩ ⟨10800, 103⟩ true 3600 .either .intrabar }]

/-- The line's second point has a place between the bars once the bar after the gap is in the window. -/
theorem evaluateLive_ahead :
    let window := [hourBar 0, hourBar 1, hourBar 5]
    let prior := seedPlanState risingPlan [hourBar 0] (seconds 72000)
    (evaluateLive calmEngine risingPlan window (fun _ => seconds 72000) 1 (window.drop 1)
        { state := prior }).fired.length = 1 ∧
      (evaluatePlan calmEngine risingPlan prior (window.drop 1) window (seconds 21600)
        (seconds 72000)).fired.length = 0 := by
  decide +kernel

end TradeControl
