import TradeControl.EvaluatePlan
import TradeControl.Foundation.Loops

namespace TradeControl

open Foundation Relation

/-- Only what the close-reading rules compare with has changed. -/
def PlanState.Remembers (before after : PlanState) : Prop :=
  ∃ originOpen lastClose, after = { before with originOpen, lastClose }

theorem PlanState.Remembers.refl (state : PlanState) : state.Remembers state := ⟨_, _, rfl⟩

theorem PlanState.Remembers.trans {first second third : PlanState} (one : first.Remembers second)
    (two : second.Remembers third) : first.Remembers third := by
  obtain ⟨origin, close, rfl⟩ := one
  obtain ⟨origin', close', rfl⟩ := two
  exact ⟨origin', close', rfl⟩

theorem recordOriginOpen_remembers (state : PlanState) (rule : ConditionRule) (candle : Candle) :
    state.Remembers (state.recordOriginOpen rule candle) := by
  unfold PlanState.recordOriginOpen
  split
  · exact ⟨_, _, rfl⟩
  · exact .refl state

theorem recordLastClose_remembers (state : PlanState) (rule : ConditionRule) (candle : Candle) :
    state.Remembers (state.recordLastClose rule candle) := by
  unfold PlanState.recordLastClose
  split
  · exact ⟨_, _, rfl⟩
  · exact .refl state

theorem reseatOriginOnDip_remembers (state : PlanState) (rule : ConditionRule) (candle : Candle)
    (window : List Candle) : state.Remembers (state.reseatOriginOnDip rule candle window) := by
  unfold PlanState.reseatOriginOnDip
  dsimp only
  split
  · exact .refl state
  · exact ⟨_, _, rfl⟩

/-- A rule's evaluation moves nothing but its cross memory, and a pullback rule never fires by it. -/
theorem fireRule_remembers (env : EngineEnv) (rule : ConditionRule) (state : PlanState)
    (candle : Candle) (window : List Candle) (buffer : CrossBuffer) (granularity : Granularity) :
    state.Remembers (fireRule env rule state candle window buffer granularity).2 := by
  have origin := recordOriginOpen_remembers state rule candle
  have seated := reseatOriginOnDip_remembers (state.recordOriginOpen rule candle) rule candle window
  exact (origin.trans seated).trans (recordLastClose_remembers _ rule candle)

theorem evalTrigger_pullback {rule : ConditionRule} (pullback : isPullback rule = true)
    (candle : Candle) (refs : OnCloseRefs) (window : List Candle) (buffer : CrossBuffer) :
    evalTrigger rule.trigger candle refs window buffer = false := by
  unfold isPullback at pullback
  split at pullback
  next pattern => rw [pattern]; rfl
  next => cases pullback

theorem fireRule_pullback {rule : ConditionRule} (pullback : isPullback rule = true)
    (env : EngineEnv) (state : PlanState) (candle : Candle) (window : List Candle)
    (buffer : CrossBuffer) (granularity : Granularity) :
    (fireRule env rule state candle window buffer granularity).1 = false := by
  simp only [fireRule, evalTrigger_pullback pullback, Bool.false_and]

/-- What a control rule may do on a candle, and a guard where the guards are looked at. -/
inductive WatchMove (plan : TradePlan) (candle : Candle) (guards : Bool) :
    GuardScan → GuardScan → Prop
  | remembered {scan : GuardScan} {state : PlanState} (memory : scan.turn.state.Remembers state) :
      WatchMove plan candle guards scan { scan with turn := { scan.turn with state } }
  | control {scan : GuardScan} {rule : ConditionRule} (member : rule ∈ plan.rules)
      (control : isControlRule rule = true) (fresh : rule.ruleId ∉ scan.turn.state.fired)
      (notPullback : isPullback rule = false) :
      WatchMove plan candle guards scan
        { scan with
          turn :=
            { scan.turn with
              state :=
                { scan.turn.state with
                  fired := insert rule.ruleId scan.turn.state.fired
                  openNewsWindows :=
                    newsWindowsAfter rule scan.turn.state.openNewsWindows } }.pushFire rule candle }
  | guard {scan : GuardScan} {rule : ConditionRule} (signal : Option LatchedSignal)
      (looked : guards = true) (member : rule ∈ plan.rules) (guard : isGuard rule = true)
      (fresh : rule.ruleId ∉ scan.turn.state.fired) (notPullback : isPullback rule = false) :
      WatchMove plan candle guards scan
        { turn :=
            { scan.turn with
              state :=
                { scan.turn.state with
                  fired := insert rule.ruleId scan.turn.state.fired
                  entriesBlocked := scan.turn.state.entriesBlocked ||
                    (guardIsTerminal rule && !vetoRetiresPlan rule) } }.pushFire rule candle signal
          terminalFired := scan.terminalFired || (guardIsTerminal rule && vetoRetiresPlan rule) }
  | retired {scan : GuardScan} (looked : guards = true) (terminal : scan.terminalFired = true) :
      WatchMove plan candle guards scan
        { turn := { scan.turn with state := { scan.turn.state with phase := .done } } }

variable (env : EngineEnv) (plan : TradePlan) (candle : Candle) (window : List Candle)
  (cfg : DetectorConfig) (now : Int)

theorem controlRuleFires_remembers (rule : ConditionRule) (state : PlanState) (buffer : CrossBuffer)
    (granularity : Granularity) :
    state.Remembers (controlRuleFires env rule state candle window buffer now granularity).2 := by
  unfold controlRuleFires
  split
  · exact .refl state
  · exact fireRule_remembers env rule state candle window buffer granularity

theorem controlRuleFires_pullback {rule : ConditionRule} (pullback : isPullback rule = true)
    (state : PlanState) (buffer : CrossBuffer) (granularity : Granularity) :
    (controlRuleFires env rule state candle window buffer now granularity).1 = false := by
  have fires := fireRule_pullback pullback env state candle window buffer granularity
  unfold controlRuleFires
  split
  next pattern => simp [isPullback, pattern] at pullback
  next => exact fires

theorem evaluateControl_moves {rule : ConditionRule} {guards : Bool} (member : rule ∈ plan.rules)
    (scan : GuardScan) :
    ReflTransGen (WatchMove plan candle guards) scan
      { scan with turn := evaluateControl env plan candle window now scan.turn rule } := by
  unfold evaluateControl
  split
  · exact .refl
  next eligible =>
    simp only [not_or, Bool.not_eq_true', Bool.not_eq_false] at eligible
    obtain ⟨control, fresh⟩ := eligible
    dsimp only
    have memory := controlRuleFires_remembers env candle window now rule scan.turn.state
      (resolveCrossBuffer plan window) plan.granularity
    split
    next fires =>
      have notPullback : isPullback rule = false := by
        by_contra pullback
        rw [controlRuleFires_pullback env candle window now (by simpa using pullback)] at fires
        cases fires
      refine (ReflTransGen.single (.remembered memory)).tail ?_
      obtain ⟨origin, close, same⟩ := memory
      have fresh' : rule.ruleId ∉ (controlRuleFires env rule scan.turn.state candle window
          (resolveCrossBuffer plan window) now plan.granularity).2.fired := by
        rw [same]
        exact fresh
      exact .control member control fresh' notPullback
    · exact .single (.remembered memory)

theorem guardSignal_remembers (rule : ConditionRule) (state : PlanState) :
    state.Remembers (guardSignal env plan rule state candle window cfg).2 := by
  unfold guardSignal
  split
  · exact .refl state
  split
  · split
    · exact .refl state
    · exact .refl state
  · exact fireRule_remembers env rule state candle window (resolveCrossBuffer plan window)
      plan.granularity

theorem guardSignal_pullback {rule : ConditionRule} (pullback : isPullback rule = true)
    (state : PlanState) : (guardSignal env plan rule state candle window cfg).1 = none := by
  have fires := fireRule_pullback pullback env state candle window (resolveCrossBuffer plan window)
    plan.granularity
  unfold guardSignal
  split
  · rfl
  split
  next pattern => simp [isPullback, pattern] at pullback
  next => simp [fires]

theorem evaluateGuard_moves {rule : ConditionRule} (member : rule ∈ plan.rules) (scan : GuardScan) :
    ReflTransGen (WatchMove plan candle true) scan
      (evaluateGuard env plan candle window cfg scan rule) := by
  unfold evaluateGuard
  split
  · exact .refl
  next eligible =>
    simp only [not_or, Bool.not_eq_true', Bool.not_eq_false] at eligible
    obtain ⟨guard, fresh⟩ := eligible
    split
    · exact .refl
    dsimp only
    have memory := guardSignal_remembers env plan candle window cfg rule scan.turn.state
    split
    next => exact .single (.remembered memory)
    next signal fires =>
      have notPullback : isPullback rule = false := by
        by_contra pullback
        rw [guardSignal_pullback env plan candle window cfg (by simpa using pullback)] at fires
        cases fires
      refine (ReflTransGen.single (.remembered memory)).tail ?_
      obtain ⟨origin, close, same⟩ := memory
      have fresh' : rule.ruleId ∉ (guardSignal env plan rule scan.turn.state candle window cfg).2.fired := by
        rw [same]
        exact fresh
      exact .guard signal rfl member guard fresh' notPullback

/-- The control rules' part of the watch is made of control moves. -/
theorem evaluateControls_moves {guards : Bool} (turn : PlanTurn) :
    ReflTransGen (WatchMove plan candle guards) { turn }
      { turn := evaluateControls env plan candle window now turn } := by
  let Watched (before after : PlanTurn) : Prop :=
    ReflTransGen (WatchMove plan candle guards) { turn := before } { turn := after }
  have folded : ReflTransGen Watched turn (evaluateControls env plan candle window now turn) :=
    foldl_moves (fun rule member turn => .single
      (evaluateControl_moves env plan candle window now member { turn })) turn
  exact moves_within Watched (fun _ => .refl) (fun one two => one.trans two)
    (fun _ _ moves => moves) folded

/-- A candle's watch is made of watch moves, and leaves no verdict hanging. -/
theorem evaluateWatch_moves (turn : PlanTurn) :
    ReflTransGen (WatchMove plan candle true) { turn }
      { turn := evaluateWatch env plan candle window cfg now turn } := by
  refine (evaluateControls_moves env plan candle window
    (controlClockFor candle plan.granularity now) turn).trans ?_
  unfold evaluateWatch evaluateGuards
  generalize evaluateControls env plan candle window
    (controlClockFor candle plan.granularity now) turn = watched
  have guards : ReflTransGen (WatchMove plan candle true) { turn := watched }
      (plan.rules.foldl (evaluateGuard env plan candle window cfg) { turn := watched }) :=
    foldl_moves (fun rule member scan =>
      evaluateGuard_moves env plan candle window cfg member scan) { turn := watched }
  dsimp only
  revert guards
  generalize plan.rules.foldl (evaluateGuard env plan candle window cfg) { turn := watched } = scan
  intro guards
  obtain ⟨turn, terminalFired⟩ := scan
  cases terminalFired with
  | true => exact guards.tail (.retired rfl rfl)
  | false => exact guards

end TradeControl

namespace TradeControl

open Foundation Relation

/-- The break, if the plan waits for one, lies strictly before `time`. -/
def AfterBreak (plan : TradePlan) (state : PlanState) (time : Int) : Prop :=
  (∀ breakAt, state.breakCloseAt = some breakAt → breakAt < time) ∧
    (hasBreakAndClose plan = true → state.breakCloseAt.isSome)

theorem afterBreak_of_effective {plan : TradePlan} {state : PlanState} {window : List Candle}
    {breakAt time : Int} (effective : effectiveBreakAt plan state window = some breakAt)
    (past : breakAt < time) : AfterBreak plan state time := by
  unfold effectiveBreakAt at effective
  split at effective
  next stamped broke =>
    cases effective
    refine ⟨fun breakAt' same => ?_, fun _ => by simp [broke]⟩
    rw [broke] at same
    cases same
    exact past
  next unbroken =>
    split at effective
    next => cases effective
    next without => exact ⟨fun _ same => by simp [unbroken] at same, fun has => absurd has without⟩

/-- What the spine of a plan may do on a candle, in the phase the candle started in. -/
inductive SpineMove (plan : TradePlan) (candle : Candle) (started : Phase) :
    PlanTurn → PlanTurn → Prop
  | remembered {turn : PlanTurn} {state : PlanState} (memory : turn.state.Remembers state) :
      SpineMove plan candle started turn { turn with state }
  | prepared {turn : PlanTurn} (retraceSeenAt maTouchSeenAt : Option Int) :
      SpineMove plan candle started turn
        { turn with state := { turn.state with retraceSeenAt, maTouchSeenAt } }
  | unbroken {turn : PlanTurn} (without : hasBreakAndClose plan = false) :
      SpineMove plan candle started turn
        { turn with state := { turn.state with phase := .awaitEntry } }
  | broke {turn : PlanTurn} {rule : ConditionRule}
      (watching : started = .awaitBreakAndClose ∨ isMultiEnter plan = true)
      (found : plan.rules.find? isBreakAndClose = some rule) (fresh : rule.ruleId ∉ turn.state.fired)
      (notPullback : isPullback rule = false) :
      SpineMove plan candle started turn
        ({ turn with
           state :=
             { turn.state with
               fired := insert rule.ruleId turn.state.fired
               breakCloseAt := some candle.time
               phase := .awaitEntry } }.pushFire rule candle)
  | retested {turn : PlanTurn} {rule : ConditionRule}
      (found : plan.rules.find? isRetest = some rule) (unseen : turn.state.retestSeenAt = none)
      (after : AfterBreak plan turn.state candle.time) (notPullback : isPullback rule = false) :
      SpineMove plan candle started turn
        ({ turn with
           state := { turn.state with retestSeenAt := some candle.time } }.pushFire rule candle)
  | pulledBack {turn : PlanTurn} {rule : ConditionRule}
      (found : plan.rules.find? isPullback = some rule) (unseen : turn.state.pullbackSeenAt = none)
      (after : AfterBreak plan turn.state candle.time) :
      SpineMove plan candle started turn
        ({ turn with
           state := { turn.state with pullbackSeenAt := some candle.time } }.pushFire rule candle)
  | declined {turn : PlanTurn} (decline : EntryDecline) :
      SpineMove plan candle started turn
        { turn with entryDeclines := turn.entryDeclines ++ [decline] }
  | entered {turn : PlanTurn} {rule : ConditionRule} (signal : Option LatchedSignal)
      (watching : started = .awaitEntry) (named : rule.ruleId ∈ enterRuleIds plan)
      (found : plan.rules.find? (fun named => named.ruleId = rule.ruleId) = some rule)
      (satisfied : enterPrepMilestonesSatisfied plan turn.state rule candle.time = true) :
      SpineMove plan candle started turn
        ({ turn with state := turn.state.afterEntry plan rule signal }.pushFire rule candle signal)

variable (env : EngineEnv) (plan : TradePlan) (candle : Candle) (window : List Candle)
  (cfg : DetectorConfig) {started : Phase}

theorem evaluateBreakAndClose_moves
    (watching : started = .awaitBreakAndClose ∨ isMultiEnter plan = true) (turn : PlanTurn) :
    ReflTransGen (SpineMove plan candle started) turn
      (evaluateBreakAndClose env plan candle window turn) := by
  unfold evaluateBreakAndClose
  split
  next missing =>
    have without : hasBreakAndClose plan = false := by
      rw [List.find?_eq_none] at missing
      simpa [hasBreakAndClose] using missing
    exact .single (.unbroken without)
  next rule found =>
    split
    · exact .refl
    next fresh =>
    split
    · exact .refl
    dsimp only
    have memory := fireRule_remembers env rule turn.state candle window
      (resolveCrossBuffer plan window) plan.granularity
    split
    next hit =>
      have notPullback : isPullback rule = false := by
        by_contra pullback
        rw [fireRule_pullback (by simpa using pullback)] at hit
        cases hit
      refine (ReflTransGen.single (.remembered memory)).tail ?_
      obtain ⟨origin, close, same⟩ := memory
      have fresh' : rule.ruleId ∉ (fireRule env rule turn.state candle window
          (resolveCrossBuffer plan window) plan.granularity).2.fired := by
        rw [same]
        exact fresh
      exact .broke watching found fresh' notPullback
    · exact .single (.remembered memory)

theorem retestCrossed_pullback {rule : ConditionRule} (pullback : isPullback rule = true)
    (refs : OnCloseRefs) (buffer : CrossBuffer) (tol : Rat) :
    retestCrossed rule.trigger candle refs window buffer tol = false := by
  have never := evalTrigger_pullback pullback candle refs window buffer
  unfold isPullback at pullback
  split at pullback
  next pattern =>
    rw [pattern] at never ⊢
    simp [retestCrossed, never]
  next => cases pullback

theorem AfterBreak.remembered {plan : TradePlan} {state state' : PlanState} {time : Int}
    (after : AfterBreak plan state time) (memory : state.Remembers state') :
    AfterBreak plan state' time := by
  obtain ⟨origin, close, rfl⟩ := memory
  exact after

theorem stampRetest_moves (turn : PlanTurn) :
    ReflTransGen (SpineMove plan candle started) turn
      (stampRetest env plan candle window turn) := by
  unfold stampRetest
  split
  next breakAt rule effective found =>
    split
    · exact .refl
    next past =>
    have after := afterBreak_of_effective effective (not_le.mp past)
    dsimp only
    have memory := (recordOriginOpen_remembers turn.state rule candle).trans
      (reseatOriginOnDip_remembers (turn.state.recordOriginOpen rule candle) rule candle window)
    generalize (turn.state.recordOriginOpen rule candle).reseatOriginOnDip rule candle window = state
      at memory ⊢
    split
    next stamps =>
      simp only [Bool.and_eq_true, Option.isNone_iff_eq_none] at stamps
      obtain ⟨⟨_, unseen⟩, crossed⟩ := stamps
      have notPullback : isPullback rule = false := by
        by_contra pullback
        rw [retestCrossed_pullback candle window (by simpa using pullback)] at crossed
        cases crossed
      have remembered : ReflTransGen (SpineMove plan candle started) turn { turn with state } :=
        .single (.remembered memory)
      refine (remembered.tail (.retested found unseen (after.remembered memory) notPullback)).tail ?_
      exact .remembered (recordLastClose_remembers _ rule candle)
    next =>
      exact .single (.remembered (memory.trans (recordLastClose_remembers state rule candle)))
  next => exact .refl

theorem stampPullback_moves (turn : PlanTurn) :
    ReflTransGen (SpineMove plan candle started) turn
      (stampPullback env plan candle window turn) := by
  unfold stampPullback
  split
  · exact .refl
  next unseen =>
  split
  · exact .refl
  next rule found =>
  split
  next anchorOpen atrMult dir armedAt breakAt trigger armed effective =>
    split
    · exact .refl
    next eligible =>
    split
    · exact .refl
    next atr warm =>
    split
    next =>
      have past : breakAt < candle.time := by
        by_contra late
        exact eligible (.inl (not_lt.mp late))
      have unseen : turn.state.pullbackSeenAt = none := by simpa using unseen
      exact .single (.pulledBack found unseen (afterBreak_of_effective effective past))
    · exact .refl
  next => exact .refl

theorem entrySignal_remembers (rule : ConditionRule) (state : PlanState) :
    state.Remembers (entrySignal env plan rule state candle window cfg).2 := by
  unfold entrySignal
  split
  · exact .refl state
  · exact fireRule_remembers env rule state candle window (resolveCrossBuffer plan window)
      plan.granularity

theorem evaluateOneEntry_moves {rule : ConditionRule} (watching : started = .awaitEntry)
    (named : rule.ruleId ∈ enterRuleIds plan)
    (found : plan.rules.find? (fun named => named.ruleId = rule.ruleId) = some rule)
    (turn : PlanTurn) :
    ReflTransGen (SpineMove plan candle started) turn
      (evaluateOneEntry env plan candle window cfg rule turn) := by
  unfold evaluateOneEntry
  split
  · exact .refl
  dsimp only
  have memory := entrySignal_remembers env plan candle window cfg rule turn.state
  generalize entrySignal env plan rule turn.state candle window cfg = answer at memory ⊢
  obtain ⟨signal, state⟩ := answer
  have remembered : ReflTransGen (SpineMove plan candle started) turn { turn with state } :=
    .single (.remembered memory)
  cases signal with
  | none => exact remembered
  | some signal =>
    dsimp only
    split
    · exact remembered
    split
    next reason _ => exact remembered.tail (.declined _)
    next =>
      split
      · exact remembered
      next satisfied =>
        have satisfied : enterPrepMilestonesSatisfied plan state rule candle.time = true := by
          simpa using satisfied
        exact remembered.tail (.entered signal watching named found satisfied)

theorem evaluateEntries_moves (watching : started = .awaitEntry) (ruleIds : List String)
    (named : ∀ ruleId ∈ ruleIds, ruleId ∈ enterRuleIds plan) (turn : PlanTurn) :
    ReflTransGen (SpineMove plan candle started) turn
      (evaluateEntries env plan candle window cfg ruleIds turn) := by
  induction ruleIds generalizing turn with
  | nil => exact .refl
  | cons ruleId rest ih =>
    have later := fun turn => ih (fun ruleId member => named ruleId (by simp [member])) turn
    unfold evaluateEntries
    split
    · exact later turn
    split
    · exact later turn
    next rule found =>
      have same : rule.ruleId = ruleId := by simpa using List.find?_some found
      subst same
      have entry := evaluateOneEntry_moves env plan candle window cfg watching
        (named rule.ruleId (by simp)) found turn
      dsimp only
      split
      · exact entry
      · exact entry.trans (later _)

theorem evaluateSpine_moves (turn : PlanTurn) :
    ReflTransGen (SpineMove plan candle turn.state.phase) turn
      (evaluateSpine env plan candle window cfg turn) := by
  unfold evaluateSpine
  split
  next phase => exact evaluateBreakAndClose_moves env plan candle window (.inl phase) turn
  next phase =>
    have broken : ReflTransGen (SpineMove plan candle turn.state.phase) turn
        (if isMultiEnter plan then evaluateBreakAndClose env plan candle window turn else turn) := by
      split
      next multi => exact evaluateBreakAndClose_moves env plan candle window (.inr multi) turn
      · exact .refl
    have retested := broken.trans (stampRetest_moves env plan candle window _)
    have pulledBack := retested.trans (stampPullback_moves env plan candle window _)
    exact pulledBack.trans (evaluateEntries_moves env plan candle window cfg phase
      (enterRuleIds plan) (fun _ named => named) _)
  next => exact .refl

theorem stampMaTouch_prepared (state : PlanState) :
    ∃ maTouchSeenAt, stampMaTouch env plan candle window state = { state with maTouchSeenAt } := by
  unfold stampMaTouch
  dsimp only
  split
  · exact ⟨_, rfl⟩
  split
  · exact ⟨_, rfl⟩
  split
  · exact ⟨_, rfl⟩
  split
  · exact ⟨_, rfl⟩
  · exact ⟨_, rfl⟩

theorem stampRetrace_prepared (state : PlanState) :
    ∃ retraceSeenAt, stampRetrace env plan candle window state = { state with retraceSeenAt } := by
  unfold stampRetrace
  split
  · exact ⟨_, rfl⟩
  split
  · exact ⟨_, rfl⟩
  split
  · exact ⟨_, rfl⟩
  dsimp only
  split
  · split
    · exact ⟨_, rfl⟩
    · exact ⟨_, rfl⟩
  · split
    · exact ⟨_, rfl⟩
    · exact ⟨_, rfl⟩

end TradeControl
