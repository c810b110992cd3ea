import TradeControl.ControlLooks
import TradeControl.SafeRuns

namespace TradeControl

open Foundation Relation

section
variable (env : EngineEnv) (plan : TradePlan)

/-- The looks of a batch's candles, each by the close or the wall clock, up to the one that ends the plan. -/
def barLooks (window : List Candle) (now : Int) : List Candle → PlanTurn → List ControlLook
  | [], _ => []
  | candle :: rest, turn =>
    let after := evaluateBar env plan window now turn candle
    { clock := controlClockFor candle plan.granularity now, candle } ::
      if after.state.phase = .done then [] else barLooks window now rest after

def PlanTick.looks (run : PlanTurn) : PlanTick → List ControlLook
  | .bars newCandles window now expiresAt =>
    barLooks env plan window now newCandles { run with state := { run.state with expiresAt } }
  | .controls lastCandle now _ => [{ clock := now, candle := lastCandle }]

/-- Every look at the control rules along a run, in order. -/
def runLooks : PlanTurn → List PlanTick → List ControlLook
  | _, [] => []
  | run, tick :: rest => tick.looks env plan run ++ runLooks (run.tick env plan tick) rest

end

section
variable {env : EngineEnv} {plan : TradePlan} {looks : List ControlLook}

theorem evaluateControls_clocked (env : EngineEnv) (ids : plan.DistinctIds) (candle : Candle) (window : List Candle)
    (clock : Int) {turn : PlanTurn} (clocked : Clocked plan looks turn) :
    Clocked plan (looks ++ [⟨clock, candle⟩]) (evaluateControls env plan candle window clock turn) :=
  clocked.looked (foldl_controls_looked env candle window clock ids (fun _ => id) ids.nodup turn)

theorem evaluateBars_clocked (ids : plan.DistinctIds) (window : List Candle) (now : Int)
    {candles : List Candle} {turn : PlanTurn} (clocked : Clocked plan looks turn) :
    Clocked plan (looks ++ barLooks env plan window now candles turn)
      (evaluateBars env plan window now candles turn) := by
  induction candles generalizing turn looks with
  | nil => simpa [barLooks, evaluateBars] using clocked
  | cons candle rest ih =>
    have looked := evaluateControls_clocked env ids candle window
      (controlClockFor candle plan.granularity now) clocked
    have next := looked.kept (evaluateBar_controlsKept env candle window now ids turn)
    unfold evaluateBars barLooks
    dsimp only
    split
    · exact next
    · rw [List.append_cons]
      exact ih next

theorem Clocked.stamped {turn : PlanTurn} (clocked : Clocked plan looks turn) (expiresAt : Int) :
    Clocked plan looks { turn with state := { turn.state with expiresAt } } :=
  ⟨clocked.latched, clocked.fires, clocked.windows⟩

theorem runTicks_clocked (ids : plan.DistinctIds) {ticks : List PlanTick} {run : PlanTurn}
    (clocked : Clocked plan looks run) :
    Clocked plan (looks ++ runLooks env plan run ticks) (runTicks env plan run ticks) := by
  induction ticks generalizing run looks with
  | nil => simpa [runLooks, runTicks] using clocked
  | cons tick rest ih =>
    have stepped : Clocked plan (looks ++ tick.looks env plan run) (run.tick env plan tick) := by
      cases tick with
      | bars newCandles window now expiresAt =>
        rw [PlanTurn.tick_bars]
        exact evaluateBars_clocked ids window now (clocked.stamped expiresAt)
      | controls lastCandle now expiresAt =>
        rw [PlanTurn.tick_controls]
        exact evaluateControls_clocked env ids lastCandle [lastCandle] now (clocked.stamped expiresAt)
    have ended := ih stepped
    rw [List.append_assoc] at ended
    exact ended

theorem seeded_clocked (plan : TradePlan) (candles : List Candle) (expiresAt : Int) :
    Clocked plan [] (plan.seeded candles expiresAt) := by
  obtain ⟨watermark, origin, close, same⟩ := seedPlanState_fresh plan candles expiresAt
  refine ⟨fun timed _ => ?_, rfl, fun _ => ?_⟩
  · unfold TradePlan.seeded
    rw [same]
    simp [PlanState.seed]
  · unfold TradePlan.seeded
    rw [same]
    rfl

end

/-- The instant of a rule on the clock. -/
def ConditionRule.instant (rule : ConditionRule) : Int :=
  match rule.trigger with
  | .timeReached atEpoch => atEpoch
  | _ => 0

theorem dueAt_iff {rule : ConditionRule} (timed : isTimedControl rule = true) (look : ControlLook) :
    dueAt look rule = true ↔ rule.instant ≤ timestamp look.clock := by
  simp only [isTimedControl, Bool.and_eq_true] at timed
  obtain ⟨_, onClock⟩ := timed
  split at onClock
  next atEpoch trigger => simp [dueAt, ConditionRule.instant, trigger]
  next => cases onClock

/-- `stop` closes the window that `start` opens. -/
def ConditionRule.Ends (stop start : ConditionRule) : Prop :=
  ∃ newsId, stop.Closes newsId ∧ start.Opens newsId

/-- Each news window is opened and closed on the clock, opened first in the list and by the clock. -/
structure TradePlan.NewsListed (plan : TradePlan) : Prop where
  onClock : plan.NewsOnClock
  listed : (timedControls plan).Pairwise fun earlier later => ¬earlier.Ends later
  dated : ∀ start ∈ timedControls plan, ∀ stop ∈ timedControls plan, stop.Ends start →
    start.instant ≤ stop.instant

def PlanTurn.HasFired (run : PlanTurn) (rule : ConditionRule) : Prop :=
  ∃ fire ∈ run.fired, fire.ruleId = rule.ruleId

/-- What a run owes its control rules on the clock, given its looks at them. -/
structure PlanTurn.ControlsOnTime (plan : TradePlan) (looks : List ControlLook) (run : PlanTurn) : Prop where
  once : ∀ rule ∈ timedControls plan, run.fired.filter (fun fire => fire.ruleId = rule.ruleId) =
    ((looks.find? (dueAt · rule)).map fun look => fireAt (rule, look)).toList
  ordered : ∀ (i j : Nat) (start stop : ConditionRule), plan.rules[i]? = some start →
    plan.rules[j]? = some stop → i < j → isTimedControl start = true → isTimedControl stop = true →
    start.instant ≤ stop.instant →
      run.fired.Pairwise fun earlier later =>
        ¬(earlier.ruleId = stop.ruleId ∧ later.ruleId = start.ruleId)
  windows : plan.NewsListed → ∀ newsId, newsId ∈ run.state.openNewsWindows ↔
    (∃ start ∈ timedControls plan, start.Opens newsId ∧ run.HasFired start) ∧
      ¬∃ stop ∈ timedControls plan, stop.Closes newsId ∧ run.HasFired stop

section
variable {plan : TradePlan} {looks : List ControlLook} {run : PlanTurn}

theorem timedControls_nodup (ids : plan.DistinctIds) : ((timedControls plan).map (·.ruleId)).Nodup :=
  ids.nodup.sublist (List.filter_sublist.map _)

theorem Clocked.once (ids : plan.DistinctIds) (clocked : Clocked plan looks run) {rule : ConditionRule}
    (listed : rule ∈ timedControls plan) :
    run.fired.filter (fun fire => fire.ruleId = rule.ruleId) =
      ((looks.find? (dueAt · rule)).map fun look => fireAt (rule, look)).toList := by
  have named : rule.ruleId ∈ (timedControls plan).map (·.ruleId) := List.mem_map_of_mem listed
  have within : run.fired.filter (fun fire => fire.ruleId = rule.ruleId) =
      (timedFires plan run.fired).filter (fun fire => fire.ruleId = rule.ruleId) := by
    unfold timedFires
    rw [List.filter_filter]
    refine List.filter_congr fun fire _ => ?_
    by_cases same : fire.ruleId = rule.ruleId
    · simp only [same, named, decide_true, Bool.and_self]
    · simp [same]
  have rang : (rings dueAt (timedControls plan) [] looks).filter
      ((fun fire : FiredIntent => decide (fire.ruleId = rule.ruleId)) ∘ fireAt) = _ :=
    rings_key (timedControls_nodup ids) listed [] looks
  rw [within, clocked.fires, List.filter_map, rang]
  cases looks.find? (dueAt · rule) with
  | none => rfl
  | some look => rfl

theorem Clocked.ordered (ids : plan.DistinctIds) (clocked : Clocked plan looks run) {i j : Nat}
    {start stop : ConditionRule} (atStart : plan.rules[i]? = some start)
    (atStop : plan.rules[j]? = some stop) (before : i < j) (timedStart : isTimedControl start = true)
    (timedStop : isTimedControl stop = true) (sooner : start.instant ≤ stop.instant) :
    run.fired.Pairwise fun earlier later =>
      ¬(earlier.ruleId = stop.ruleId ∧ later.ruleId = start.ruleId) := by
  let InOrder (a b : ConditionRule) : Prop := ¬(a.ruleId = stop.ruleId ∧ b.ruleId = start.ruleId)
  have inStart := List.mem_of_getElem? atStart
  have inStop := List.mem_of_getElem? atStop
  have rules : plan.rules.Nodup := ids.nodup.of_map
  have listed : (timedControls plan).Pairwise InOrder := by
    refine List.Pairwise.filter _ (List.pairwise_iff_getElem.mpr ?_)
    rintro k l withinK withinL less ⟨first, second⟩
    obtain ⟨withinI, rfl⟩ := List.getElem?_eq_some_iff.mp atStart
    obtain ⟨withinJ, rfl⟩ := List.getElem?_eq_some_iff.mp atStop
    have last := ids.rule_eq (List.getElem_mem withinK) inStop first
    have head := ids.rule_eq (List.getElem_mem withinL) inStart second
    rw [rules.getElem_inj_iff] at last head
    omega
  have kept : (rings dueAt (timedControls plan) [] looks).Pairwise fun first second =>
      InOrder first.1 second.1 := by
    refine rings_pairwise listed (fun a inA b inB disorder look due => ?_) [] looks
    obtain ⟨sameStop, sameStart⟩ := not_not.mp disorder
    obtain rfl := ids.rule_eq (List.mem_filter.mp inA).1 inStop sameStop
    obtain rfl := ids.rule_eq (List.mem_filter.mp inB).1 inStart sameStart
    rw [dueAt_iff timedStop] at due
    rw [dueAt_iff timedStart]
    omega
  have fired : ((rings dueAt (timedControls plan) [] looks).map fireAt).Pairwise fun earlier later =>
      ¬(earlier.ruleId = stop.ruleId ∧ later.ruleId = start.ruleId) := List.pairwise_map.mpr kept
  rw [← clocked.fires, timedFires, List.pairwise_filter] at fired
  have named : ∀ rule ∈ timedControls plan, rule.ruleId ∈ (timedControls plan).map (·.ruleId) :=
    fun rule listed => List.mem_map_of_mem listed
  refine fired.imp fun apart both => ?_
  refine apart (decide_eq_true ?_) (decide_eq_true ?_) both
  · rw [both.1]
    exact named stop (List.mem_filter.mpr ⟨inStop, timedStop⟩)
  · rw [both.2]
    exact named start (List.mem_filter.mpr ⟨inStart, timedStart⟩)

/-- A timed control has fired exactly if it is among the rings. -/
theorem Clocked.hasFired_iff (ids : plan.DistinctIds) (clocked : Clocked plan looks run)
    {rule : ConditionRule} (listed : rule ∈ timedControls plan) :
    run.HasFired rule ↔ ∃ look, (rule, look) ∈ rings dueAt (timedControls plan) [] looks := by
  have named : rule.ruleId ∈ (timedControls plan).map (·.ruleId) := List.mem_map_of_mem listed
  constructor
  · rintro ⟨fire, member, same⟩
    have timed : fire ∈ timedFires plan run.fired :=
      List.mem_filter.mpr ⟨member, by simpa [same] using named⟩
    rw [clocked.fires] at timed
    obtain ⟨⟨other, look⟩, rang, rfl⟩ := List.mem_map.mp timed
    have inRules := (List.mem_filter.mp (mem_rings rang).1).1
    obtain rfl := ids.rule_eq inRules (List.mem_filter.mp listed).1 same
    exact ⟨look, rang⟩
  · rintro ⟨look, rang⟩
    have timed : fireAt (rule, look) ∈ timedFires plan run.fired := by
      rw [clocked.fires]
      exact List.mem_map_of_mem rang
    exact ⟨fireAt (rule, look), (List.mem_filter.mp timed).1, rfl⟩

theorem Clocked.openWindows (ids : plan.DistinctIds) (clocked : Clocked plan looks run)
    (news : plan.NewsListed) (newsId : String) :
    newsId ∈ run.state.openNewsWindows ↔
      (∃ start ∈ timedControls plan, start.Opens newsId ∧ run.HasFired start) ∧
        ¬∃ stop ∈ timedControls plan, stop.Closes newsId ∧ run.HasFired stop := by
  have ordered : (rings dueAt (timedControls plan) [] looks).Pairwise fun earlier later =>
      ¬earlier.1.Ends later.1 := by
    refine rings_pairwise news.listed (fun stop inStop start inStart ends look due => ?_) [] looks
    have sooner := news.dated start inStart stop inStop (not_not.mp ends)
    rw [dueAt_iff (List.mem_filter.mp inStop).2] at due
    rw [dueAt_iff (List.mem_filter.mp inStart).2]
    omega
  have folded : newsId ∈ (rings dueAt (timedControls plan) [] looks).foldl newsAfterRing ∅ ↔ _ :=
    mem_foldl_windows (fun windows ring newsId => mem_newsWindowsAfter ring.1 windows newsId) newsId
      (ordered.imp fun apart closes opens => apart ⟨newsId, closes, opens⟩) ∅
  have rangs : ∀ effect : ConditionRule → Prop,
      (∃ ring ∈ rings dueAt (timedControls plan) [] looks, effect ring.1) ↔
        ∃ rule ∈ timedControls plan, effect rule ∧ run.HasFired rule := by
    intro effect
    constructor
    · rintro ⟨⟨rule, look⟩, rang, meets⟩
      have listed := (mem_rings rang).1
      exact ⟨rule, listed, meets, (clocked.hasFired_iff ids listed).mpr ⟨look, rang⟩⟩
    · rintro ⟨rule, listed, meets, fired⟩
      obtain ⟨look, rang⟩ := (clocked.hasFired_iff ids listed).mp fired
      exact ⟨(rule, look), rang, meets⟩
  rw [clocked.windows news.onClock, folded, rangs fun rule => rule.Opens newsId,
    rangs fun rule => rule.Closes newsId]
  simp only [Finset.notMem_empty, false_or]

end

/-- Along every run of a plan whose rules have their own ids, each control rule on the clock fires
at the first look that finds its instant come and never again, an earlier one listed first fires
first, and the open news windows are those started and not ended. -/
theorem planRuns_controlsOnTime (env : EngineEnv) (plan : TradePlan) (candles : List Candle)
    (expiresAt : Int) (ticks : List PlanTick) (ids : plan.DistinctIds) :
    (runTicks env plan (plan.seeded candles expiresAt) ticks).ControlsOnTime plan
      (runLooks env plan (plan.seeded candles expiresAt) ticks) := by
  have clocked : Clocked plan ([] ++ runLooks env plan (plan.seeded candles expiresAt) ticks)
      (runTicks env plan (plan.seeded candles expiresAt) ticks) :=
    runTicks_clocked ids (seeded_clocked plan candles expiresAt)
  rw [List.nil_append] at clocked
  exact ⟨fun rule listed => clocked.once ids listed,
    fun i j start stop atStart atStop before timedStart timedStop sooner =>
      clocked.ordered ids atStart atStop before timedStart timedStop sooner,
    fun news newsId => clocked.openWindows ids news newsId⟩

def clockRule (ruleId : String) (action : Action) (atEpoch : Int) (newsId : Option String) :
    ConditionRule where
  ruleId := ruleId
  trigger := .timeReached atEpoch
  intent := { bareIntent action with newsId }
  kind := .control

/-- A pause and, within it, a news window; the clock of `hourlyTicks` passes all but the resume. -/
def newsPlan : TradePlan :=
  hourlyPlan [clockRule "pause" .pause 3600 none, clockRule "news-start" .newsStart 7200 (some "cpi"),
    clockRule "news-end" .newsEnd 10830 (some "cpi"), clockRule "resume" .resume 14400 none]

instance (stop start : ConditionRule) : Decidable (stop.Ends start) :=
  decidable_of_iff (stop.intent.newsId.isSome = true ∧ stop.intent.newsId = start.intent.newsId ∧
      stop.intent.action = .newsEnd ∧ start.intent.action = .newsStart) <| by
    constructor
    · rintro ⟨named, same, ends, starts⟩
      obtain ⟨newsId, at_⟩ := Option.isSome_iff_exists.mp named
      exact ⟨newsId, ⟨at_, ends⟩, ⟨same.symm.trans at_, starts⟩⟩
    · rintro ⟨newsId, ⟨at_, ends⟩, ⟨at', starts⟩⟩
      exact ⟨by simp [at_], at_.trans at'.symm, ends, starts⟩

theorem newsPlan_listed : newsPlan.NewsListed where
  onClock := by
    unfold TradePlan.NewsOnClock
    decide
  listed := by decide
  dated := by decide

theorem planRuns_controlsOnTime_news :
    newsPlan.NewsListed ∧ (hourlyRun newsPlan).ControlsOnTime newsPlan
      (runLooks calmEngine newsPlan (newsPlan.seeded [hourBar 0] (seconds 72000)) hourlyTicks) :=
  ⟨newsPlan_listed, planRuns_controlsOnTime calmEngine newsPlan [hourBar 0] (seconds 72000) hourlyTicks
    (by decide)⟩

/-- A resume under the id of its pause. -/
def sharedIdPlan : TradePlan :=
  hourlyPlan [clockRule "window" .pause 3600 none, clockRule "window" .resume 7200 none]

/-- Two windows of one news id, the first of which ends inside the second. -/
def overlapPlan : TradePlan :=
  hourlyPlan [clockRule "start-1" .newsStart 3600 (some "cpi"), clockRule "start-2" .newsStart 5400 (some "cpi"),
    clockRule "end-1" .newsEnd 7200 (some "cpi"), clockRule "end-2" .newsEnd 14400 (some "cpi")]

/-- A rule that shares its id never fires once its instant has come, and a window is closed while
the second of its starts has no end yet. -/
theorem planRuns_controlsLate :
    ((runLooks calmEngine sharedIdPlan (sharedIdPlan.seeded [hourBar 0] (seconds 72000))
        hourlyTicks).any (dueAt · (clockRule "window" .resume 7200 none)) = true ∧
      (hourlyRun sharedIdPlan).fired.all (·.intent.action ≠ .resume) = true) ∧
    ((hourlyRun overlapPlan).fired.map (·.ruleId) = ["start-1", "start-2", "end-1"] ∧
      "cpi" ∉ (hourlyRun overlapPlan).state.openNewsWindows) := by
  refine ⟨⟨?_, ?_⟩, ?_, ?_⟩
  · decide +kernel
  · decide +kernel
  · decide +kernel
  · decide +kernel

end TradeControl
