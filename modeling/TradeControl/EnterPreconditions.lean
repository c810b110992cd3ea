import TradeControl.StarvedSignals

namespace TradeControl

open Foundation Relation

/-- The gates an enter can be reported to wait on. -/
inductive EnterBlock
  | needsMaAlignment
  | needsEnablingMaTouch
  | needsRetracement
  | needsBreakAndClose
  | needsConfirmation
  | needsRetest
  deriving DecidableEq

/-- Whether the enter's scan, drawn from `state`, finds a confirmed signal by the bar. -/
def legHasConfirmedSignal (plan : TradePlan) (state : PlanState) (rule : ConditionRule) (bar : Int)
    (detectorWindow : List Candle) : Bool :=
  match rule.trigger with
  | .pinePattern pattern dir =>
    match windowIndex detectorWindow bar with
    | none => false
    | some idx =>
      let cfg := DetectorConfig.pineDefaults plan.granularity
      let crit : SignalCriteria :=
        { dir
          kind := pattern
          requireGolden := rule.intent.needsGolden
          notBefore := confirmedScanFloor (detectorWindow.map (·.time)) idx cfg plan.granularity
            (confirmedSetupFloor plan state rule)
          after := state.lastConfirmedEnterAt }
      (firstConfirmedSignalMatchingAt detectorWindow idx cfg crit fun start print =>
        plan.entryConditions.patternQualifies detectorWindow start print dir).isSome
  | _ => false

/-- The gates one enter is still waiting on; without a window its confirmation counts as one. -/
def enterBlocks (plan : TradePlan) (state : PlanState) (rule : ConditionRule) (bar : Int)
    (detectorWindow : Option (List Candle)) : List EnterBlock :=
  let gates : List (Bool × EnterBlock) :=
    [(plan.entryConditions.requireMaAlignment &&
        !detectorWindow.any (fun window => maAlignmentSatisfied plan bar window), .needsMaAlignment),
      (!maEnablementSatisfied plan state, .needsEnablingMaTouch),
      (plan.entryConditions.retrace.isSome && state.retraceSeenAt.isNone, .needsRetracement),
      (decide (state.phase = .awaitBreakAndClose) && hasBreakAndClose plan, .needsBreakAndClose),
      (rule.intent.needsConfirmed &&
        detectorWindow.all (fun window => !legHasConfirmedSignal plan state rule bar window),
        .needsConfirmation),
      (!enterPrepMilestonesSatisfied plan state rule bar, .needsRetest)]
  (gates.filter (·.1)).map (·.2)

/-- What each enter that has not latched is waiting on; an enter that waits on nothing is left out. -/
def enterPreconditionsByLeg (plan : TradePlan) (state : PlanState) (bar : Int)
    (detectorWindow : Option (List Candle)) : List (List EnterBlock) :=
  ((plan.rules.filter fun rule => isEnter rule && decide (rule.ruleId ∉ state.fired)).map fun rule =>
    enterBlocks plan state rule bar detectorWindow).filter (!·.isEmpty)

/-- A gate the report has a word for, the confirmation apart, is shut on a bar of the window. -/
def wordedGate (plan : TradePlan) (state : PlanState) (rule : ConditionRule) (bar : Int)
    (window : List Candle) : Bool :=
  !maAlignmentSatisfied plan bar window || !maEnablementSatisfied plan state ||
    (plan.entryConditions.retrace.isSome && state.retraceSeenAt.isNone) ||
    (decide (state.phase = .awaitBreakAndClose) && hasBreakAndClose plan) ||
    !enterPrepMilestonesSatisfied plan state rule bar

section
variable {plan : TradePlan} {state : PlanState} {rule : ConditionRule} {bar : Int} {window : List Candle}

theorem needsConfirmation_listed : .needsConfirmation ∈ enterBlocks plan state rule bar (some window) ↔
    rule.intent.needsConfirmed = true ∧ legHasConfirmedSignal plan state rule bar window = false := by
  simp [enterBlocks]

/-- An enter waits on nothing exactly if the worded gates are open and no confirmation is missing. -/
theorem enterBlocks_eq_nil : enterBlocks plan state rule bar (some window) = [] ↔
    wordedGate plan state rule bar window = false ∧
      (rule.intent.needsConfirmed = true → legHasConfirmedSignal plan state rule bar window = true) := by
  have aligned : (plan.entryConditions.requireMaAlignment && !maAlignmentSatisfied plan bar window) =
      !maAlignmentSatisfied plan bar window := by
    unfold maAlignmentSatisfied
    cases plan.entryConditions.requireMaAlignment with
    | false => rfl
    | true => simp
  simp only [enterBlocks, wordedGate, Option.any_some, Option.all_some, aligned, List.map_eq_nil_iff,
    List.filter_eq_nil_iff, List.mem_cons, List.not_mem_nil, or_false, forall_eq_or_imp, forall_eq,
    Bool.not_eq_true, Bool.or_eq_false_iff, Bool.and_eq_false_imp, Bool.not_eq_false']
  tauto

theorem enterBlocks_listed (member : rule ∈ plan.rules) (enters : isEnter rule = true)
    (unlatched : rule.ruleId ∉ state.fired)
    (waits : enterBlocks plan state rule bar (some window) ≠ []) :
    enterBlocks plan state rule bar (some window) ∈
      enterPreconditionsByLeg plan state bar (some window) := by
  refine List.mem_filter.mpr ⟨List.mem_map_of_mem (List.mem_filter.mpr ⟨member, ?_⟩), by simpa using waits⟩
  rw [enters, decide_eq_true unlatched]
  rfl

end

/-- What the enters of a bar leave behind as it was: every preparation, and what has latched, fired or
been declined. -/
structure EntryKept (before after : PlanTurn) : Prop where
  retraced : after.state.retraceSeenAt = before.state.retraceSeenAt
  touched : after.state.maTouchSeenAt = before.state.maTouchSeenAt
  broke : after.state.breakCloseAt = before.state.breakCloseAt
  retested : after.state.retestSeenAt = before.state.retestSeenAt
  pulledBack : after.state.pullbackSeenAt = before.state.pullbackSeenAt
  phase : after.state.phase = before.state.phase ∨ after.state.phase = .done
  latched : before.state.fired ⊆ after.state.fired
  fired : before.fired <+: after.fired
  declined : before.entryDeclines <+: after.entryDeclines

theorem EntryKept.refl (turn : PlanTurn) : EntryKept turn turn :=
  ⟨rfl, rfl, rfl, rfl, rfl, .inl rfl, Finset.Subset.refl _, List.prefix_refl _, List.prefix_refl _⟩

theorem EntryKept.trans {first second third : PlanTurn} (one : EntryKept first second)
    (two : EntryKept second third) : EntryKept first third where
  retraced := two.retraced.trans one.retraced
  touched := two.touched.trans one.touched
  broke := two.broke.trans one.broke
  retested := two.retested.trans one.retested
  pulledBack := two.pulledBack.trans one.pulledBack
  phase := by
    rcases two.phase with same | ended
    · rw [same]
      exact one.phase
    · exact .inr ended
  latched := one.latched.trans two.latched
  fired := one.fired.trans two.fired
  declined := one.declined.trans two.declined

theorem EntryKept.remembered {turn : PlanTurn} {state : PlanState} (memory : turn.state.Remembers state) :
    EntryKept turn { turn with state } := by
  obtain ⟨origin, close, rfl⟩ := memory
  exact ⟨rfl, rfl, rfl, rfl, rfl, .inl rfl, Finset.Subset.refl _, List.prefix_refl _, List.prefix_refl _⟩

section
variable (plan : TradePlan) (rule : ConditionRule) (signal : Option LatchedSignal)

/-- Consuming the signal comes first, the latch second. -/
theorem PlanState.afterEntry_eq (state : PlanState) :
    ∃ mark, state.afterEntry plan rule signal =
      if rule.fireMode = .once ∧ !isMultiShot rule then
        { state with
          lastConfirmedEnterAt := mark
          fired := insert rule.ruleId state.fired
          phase := if !plan.hasMaVeto ∧ !plan.entryConditions.requireMaAlignment then .done else state.phase }
      else { state with lastConfirmedEnterAt := mark } := by
  unfold afterEntry
  cases signal with
  | none => exact ⟨state.lastConfirmedEnterAt, rfl⟩
  | some sig =>
    by_cases moves : rule.intent.needsConfirmed = true ∧ isMultiShot rule = true
    · simp only [if_pos moves]
      exact ⟨some sig.signalBarTime, rfl⟩
    · simp only [if_neg moves]
      exact ⟨state.lastConfirmedEnterAt, rfl⟩

theorem EntryKept.entered (turn : PlanTurn) (candle : Candle) :
    EntryKept turn
      ({ turn with state := turn.state.afterEntry plan rule signal }.pushFire rule candle signal) := by
  obtain ⟨mark, same⟩ := turn.state.afterEntry_eq plan rule signal
  rw [same]
  split
  · refine ⟨rfl, rfl, rfl, rfl, rfl, ?_, Finset.subset_insert _ _, List.prefix_append _ _,
      List.prefix_refl _⟩
    dsimp only [PlanTurn.pushFire]
    split
    · exact .inr rfl
    · exact .inl rfl
  · exact ⟨rfl, rfl, rfl, rfl, rfl, .inl rfl, Finset.Subset.refl _, List.prefix_append _ _,
      List.prefix_refl _⟩

/-- Only a multi-shot that is confirmed first moves the mark. -/
theorem PlanState.afterEntry_mark (state : PlanState)
    (still : ∀ sig, signal = some sig → ¬(rule.intent.needsConfirmed = true ∧ isMultiShot rule = true)) :
    (state.afterEntry plan rule signal).lastConfirmedEnterAt = state.lastConfirmedEnterAt := by
  unfold afterEntry
  cases signal with
  | none =>
    dsimp only
    split
    · rfl
    · rfl
  | some sig =>
    dsimp only
    rw [if_neg (still sig rfl)]
    split
    · rfl
    · rfl

end

/-- A signal that fires for the enter, by its own criteria and the state it is asked in. -/
def EntryAsk.SignalFires (plan : TradePlan) (ask : EntryAsk) (signal : LatchedSignal) : Prop :=
  ∃ pattern dir, ask.rule.trigger = .pinePattern pattern dir ∧
    evalPineEntry ask.candle ask.window (DetectorConfig.pineDefaults plan.granularity) pattern dir
      ask.rule.intent.needsConfirmed ask.rule.intent.needsGolden
      (confirmedSetupFloor plan ask.turn.state ask.rule) ask.turn.state.lastConfirmedEnterAt
      (!ask.rule.intent.needsConfirmed) (some plan.entryConditions) = some signal

/-- A multi-shot that is confirmed first takes a signal, and moves the mark its next scan starts from. -/
structure EntryAsk.MovesMark (env : EngineEnv) (plan : TradePlan) (ask : EntryAsk) (signal : LatchedSignal) :
    Prop where
  confirmedFirst : ask.rule.intent.needsConfirmed = true
  multiShot : isMultiShot ask.rule = true
  watched : entryWatched env plan ask.turn.state ask.rule ask.candle ask.window = true
  fires : ask.SignalFires plan signal
  recent : belowSignalFloor ask.turn.state (some signal) = false
  dispatchable : entryDispatchable env plan ask.rule ask.candle (some signal) = .ok ()
  milestones : enterPrepMilestonesSatisfied plan ask.turn.state ask.rule ask.candle.time = true

section
variable {env : EngineEnv} {plan : TradePlan} {ask : EntryAsk} {signal : LatchedSignal}

theorem EntryAsk.SignalFires.answered (fires : ask.SignalFires plan signal) :
    entrySignal env plan ask.rule ask.turn.state ask.candle ask.window
      (DetectorConfig.pineDefaults plan.granularity) = (some (some signal), ask.turn.state) := by
  obtain ⟨pattern, dir, trigger, fires⟩ := fires
  simp only [entrySignal, trigger, fires, Option.map_some]

theorem EntryAsk.signalFires_of_answered {state : PlanState}
    (answered : entrySignal env plan ask.rule ask.turn.state ask.candle ask.window
      (DetectorConfig.pineDefaults plan.granularity) = (some (some signal), state)) :
    ask.SignalFires plan signal ∧ state = ask.turn.state := by
  unfold entrySignal at answered
  split at answered
  next pattern dir trigger =>
    simp only [Prod.mk.injEq, Option.map_eq_some_iff, Option.some.injEq, exists_eq_right] at answered
    exact ⟨⟨pattern, dir, trigger, answered.1⟩, answered.2.symm⟩
  next =>
    simp only [Prod.mk.injEq] at answered
    obtain ⟨hit, _⟩ := answered
    split at hit
    · cases hit
    · cases hit

theorem EntryAsk.answer_kept (env : EngineEnv) (plan : TradePlan) (ask : EntryAsk) :
    EntryKept ask.turn (ask.answer env plan) := by
  unfold EntryAsk.answer evaluateOneEntry
  split
  · exact .refl _
  dsimp only
  have memory := entrySignal_remembers env plan ask.candle ask.window
    (DetectorConfig.pineDefaults plan.granularity) ask.rule ask.turn.state
  generalize entrySignal env plan ask.rule ask.turn.state ask.candle ask.window
    (DetectorConfig.pineDefaults plan.granularity) = answer at memory ⊢
  obtain ⟨signal, state⟩ := answer
  have kept : EntryKept ask.turn { ask.turn with state } := .remembered memory
  cases signal with
  | none => exact kept
  | some signal =>
    dsimp only
    split
    · exact kept
    split
    · refine kept.trans ?_
      exact ⟨rfl, rfl, rfl, rfl, rfl, .inl rfl, Finset.Subset.refl _, List.prefix_refl _,
        List.prefix_append _ _⟩
    split
    · exact kept
    · exact kept.trans (.entered plan ask.rule signal { ask.turn with state } ask.candle)

theorem EntryAsk.answer_mark (still : ∀ signal, ¬ask.MovesMark env plan signal) :
    (ask.answer env plan).state.lastConfirmedEnterAt = ask.turn.state.lastConfirmedEnterAt := by
  unfold EntryAsk.answer evaluateOneEntry
  split
  · rfl
  next watched =>
  dsimp only
  have memory := entrySignal_remembers env plan ask.candle ask.window
    (DetectorConfig.pineDefaults plan.granularity) ask.rule ask.turn.state
  cases answered : entrySignal env plan ask.rule ask.turn.state ask.candle ask.window
    (DetectorConfig.pineDefaults plan.granularity) with
  | mk signal state =>
  rw [answered] at memory
  have same : state.lastConfirmedEnterAt = ask.turn.state.lastConfirmedEnterAt := by
    obtain ⟨origin, close, rfl⟩ := memory
    rfl
  cases signal with
  | none => exact same
  | some signal =>
    dsimp only
    split
    · exact same
    next recent =>
    split
    · exact same
    next dispatchable =>
    split
    · exact same
    next milestones =>
    refine (state.afterEntry_mark plan ask.rule signal fun sig taken moves => ?_).trans same
    subst taken
    obtain ⟨fires, rfl⟩ := signalFires_of_answered answered
    exact still sig ⟨moves.1, moves.2, by simpa using watched, fires, by simpa using recent,
      dispatchable, by simpa using milestones⟩

end

section
variable (env : EngineEnv) (plan : TradePlan) (candle : Candle) (window : List Candle)

/-- The bar's enters, asked by their ids from `turn` on. -/
def enterRound (ruleIds : List String) (turn : PlanTurn) : PlanTurn :=
  evaluateEntries env plan candle window (DetectorConfig.pineDefaults plan.granularity) ruleIds turn

/-- The loop passes an id by, or asks its enter and goes on unless the plan is done. -/
theorem enterRound_cons (ruleId : String) (turn : PlanTurn) :
    (∀ rest, enterRound env plan candle window (ruleId :: rest) turn =
        enterRound env plan candle window rest turn ∧
      entriesAsked env plan candle window (ruleId :: rest) turn =
        entriesAsked env plan candle window rest turn) ∨
    ∃ ask : EntryAsk, ask.turn = turn ∧ ∀ rest,
      enterRound env plan candle window (ruleId :: rest) turn =
        (if (ask.answer env plan).state.phase = .done then ask.answer env plan
          else enterRound env plan candle window rest (ask.answer env plan)) ∧
      entriesAsked env plan candle window (ruleId :: rest) turn =
        ask :: if (ask.answer env plan).state.phase = .done then []
          else entriesAsked env plan candle window rest (ask.answer env plan) := by
  by_cases latched : ruleId ∈ turn.state.fired
  · refine .inl fun rest => ⟨?_, ?_⟩
    · rw [enterRound, evaluateEntries, if_pos latched, enterRound]
    · rw [entriesAsked, if_pos latched]
  · cases found : plan.rules.find? fun rule => rule.ruleId = ruleId with
    | none =>
      refine .inl fun rest => ⟨?_, ?_⟩
      · rw [enterRound, evaluateEntries, if_neg latched, found, enterRound]
      · rw [entriesAsked, if_neg latched, found]
    | some rule =>
      refine .inr ⟨{ candle, window, rule, turn }, rfl, fun rest => ⟨?_, ?_⟩⟩
      · rw [enterRound, evaluateEntries, if_neg latched, found]
        rfl
      · rw [entriesAsked, if_neg latched, found]

variable {env plan candle window}

theorem enterRound_kept (ruleIds : List String) (turn : PlanTurn) :
    EntryKept turn (enterRound env plan candle window ruleIds turn) := by
  induction ruleIds generalizing turn with
  | nil => exact .refl turn
  | cons ruleId rest ih =>
    rcases enterRound_cons env plan candle window ruleId turn with passed | ⟨ask, rfl, asked⟩
    · rw [(passed rest).1]
      exact ih turn
    · rw [(asked rest).1]
      split
      · exact ask.answer_kept env plan
      · exact (ask.answer_kept env plan).trans (ih _)

/-- What the round has come to by one of its ids is kept to its end. -/
theorem enterRound_onward (first later : List String) (turn : PlanTurn) :
    EntryKept (enterRound env plan candle window first turn)
      (enterRound env plan candle window (first ++ later) turn) := by
  induction first generalizing turn with
  | nil => exact enterRound_kept later turn
  | cons ruleId rest ih =>
    rw [List.cons_append]
    rcases enterRound_cons env plan candle window ruleId turn with passed | ⟨ask, rfl, asked⟩
    · rw [(passed rest).1, (passed (rest ++ later)).1]
      exact ih turn
    · rw [(asked rest).1, (asked (rest ++ later)).1]
      split
      · exact .refl _
      · exact ih _

theorem entriesAsked_kept {ruleIds : List String} {turn : PlanTurn} {ask : EntryAsk}
    (member : ask ∈ entriesAsked env plan candle window ruleIds turn) :
    EntryKept (ask.answer env plan) (enterRound env plan candle window ruleIds turn) := by
  induction ruleIds generalizing turn with
  | nil => cases member
  | cons ruleId rest ih =>
    rcases enterRound_cons env plan candle window ruleId turn with passed | ⟨asked, rfl, answered⟩
    · rw [(passed rest).2] at member
      rw [(passed rest).1]
      exact ih member
    · rw [(answered rest).2] at member
      rw [(answered rest).1]
      rcases List.mem_cons.mp member with rfl | later
      · split
        · exact .refl _
        · exact enterRound_kept rest _
      · split at later
        · cases later
        next alive =>
          rw [if_neg alive]
          exact ih later

/-- The mark stays where it is on a round that no multi-shot takes a signal in. -/
theorem enterRound_mark {ruleIds : List String} {turn : PlanTurn}
    (still : ∀ ask ∈ entriesAsked env plan candle window ruleIds turn, ∀ signal,
      ¬ask.MovesMark env plan signal) :
    (enterRound env plan candle window ruleIds turn).state.lastConfirmedEnterAt =
      turn.state.lastConfirmedEnterAt := by
  induction ruleIds generalizing turn with
  | nil => rfl
  | cons ruleId rest ih =>
    rcases enterRound_cons env plan candle window ruleId turn with passed | ⟨ask, rfl, asked⟩
    · rw [(passed rest).2] at still
      rw [(passed rest).1]
      exact ih still
    · rw [(asked rest).2] at still
      rw [(asked rest).1]
      have first := ask.answer_mark (still ask (by simp))
      split
      · exact first
      next alive =>
        rw [if_neg alive] at still
        exact (ih fun later member => still later (by simp [member])).trans first

theorem enterRound_onward_mark {first later : List String} {turn : PlanTurn}
    (still : ∀ ask ∈ entriesAsked env plan candle window (first ++ later) turn, ∀ signal,
      ¬ask.MovesMark env plan signal) :
    (enterRound env plan candle window (first ++ later) turn).state.lastConfirmedEnterAt =
      (enterRound env plan candle window first turn).state.lastConfirmedEnterAt := by
  induction first generalizing turn with
  | nil => exact enterRound_mark still
  | cons ruleId rest ih =>
    rw [List.cons_append] at still ⊢
    rcases enterRound_cons env plan candle window ruleId turn with passed | ⟨ask, rfl, asked⟩
    · rw [(passed (rest ++ later)).2] at still
      rw [(passed rest).1, (passed (rest ++ later)).1]
      exact ih still
    · rw [(asked (rest ++ later)).2] at still
      rw [(asked rest).1, (asked (rest ++ later)).1]
      split
      · rfl
      next alive =>
        rw [if_neg alive] at still
        exact ih fun further member => still further (by simp [member])

/-- An enter is asked in its turn, unless it has latched or the plan is done by then. -/
theorem entriesAsked_reaches {rule : ConditionRule} {ruleIds : List String} (named : rule.ruleId ∈ ruleIds)
    (own : plan.rules.find? (fun other => other.ruleId = rule.ruleId) = some rule) {turn before : PlanTurn}
    (comes : enterRound env plan candle window (ruleIds.takeWhile (· ≠ rule.ruleId)) turn = before)
    (alive : before.state.phase ≠ .done) (unlatched : rule.ruleId ∉ before.state.fired) :
    { candle, window, rule, turn := before } ∈ entriesAsked env plan candle window ruleIds turn := by
  induction ruleIds generalizing turn with
  | nil => cases named
  | cons ruleId rest ih =>
    by_cases same : ruleId = rule.ruleId
    · have here : turn = before := by
        rw [List.takeWhile_cons_of_neg (by simp [same])] at comes
        exact comes
      subst here same
      rw [entriesAsked, if_neg unlatched, own]
      exact List.mem_cons_self ..
    · have later : rule.ruleId ∈ rest := (List.mem_cons.mp named).resolve_left (Ne.symm same)
      rw [List.takeWhile_cons_of_pos (by simp [same])] at comes
      rcases enterRound_cons env plan candle window ruleId turn with passed | ⟨ask, rfl, asked⟩
      · rw [(passed _).1] at comes
        rw [(passed _).2]
        exact ih later comes
      · rw [(asked _).1] at comes
        rw [(asked _).2]
        split at comes
        next ended =>
          rw [comes] at ended
          exact absurd ended alive
        next =>
          have reached := ih later comes
          rw [if_neg ‹_›]
          exact List.mem_cons_of_mem _ reached

end

end TradeControl
