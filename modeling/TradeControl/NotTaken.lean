import TradeControl.EnterPreconditions

namespace TradeControl

open Foundation Relation

/-- The turn a bar comes to its enters in, and the ids of those it asks. -/
structure EntryRound where
  turn : PlanTurn
  ruleIds : List String := []

/-- A bar as a run evaluates it, from the state it finds. -/
structure BarTurn where
  candle : Candle
  window : List Candle
  now : Int
  state : PlanState

section
variable (env : EngineEnv) (plan : TradePlan)

def spineRound (candle : Candle) (window : List Candle) (turn : PlanTurn) : EntryRound :=
  match turn.state.phase with
  | .awaitBreakAndClose => { turn := evaluateBreakAndClose env plan candle window turn }
  | .awaitEntry =>
    let turn := if isMultiEnter plan then evaluateBreakAndClose env plan candle window turn else turn
    { turn := stampPullback env plan candle window (stampRetest env plan candle window turn)
      ruleIds := enterRuleIds plan }
  | .done => { turn }

def BarTurn.round (bar : BarTurn) : EntryRound :=
  let turn := evaluateWatch env plan bar.candle bar.window
    (DetectorConfig.pineDefaults plan.granularity) bar.now { state := bar.state }
  if turn.state.phase = .done then { turn }
  else
    let turn :=
      { turn with
        fired := turn.fired ++ (maAlignmentControl plan turn.state bar.candle bar.window).toList }
    if turn.state.entriesBlocked then { turn }
    else
      let state := stampMaTouch env plan bar.candle bar.window
        (stampRetrace env plan bar.candle bar.window turn.state)
      spineRound env plan bar.candle bar.window { turn with state }

/-- What the bar fires and declines, and the state it leaves. -/
def BarTurn.outcome (bar : BarTurn) : PlanTurn :=
  evaluateBar env plan bar.window bar.now { state := bar.state } bar.candle

def BarTurn.asked (bar : BarTurn) : List EntryAsk :=
  entriesAsked env plan bar.candle bar.window (bar.round env plan).ruleIds (bar.round env plan).turn

/-- An enter, as the fire path finds it when its turn comes on the bar. -/
def BarTurn.ask (bar : BarTurn) (rule : ConditionRule) : EntryAsk :=
  { candle := bar.candle
    window := bar.window
    rule
    turn := enterRound env plan bar.candle bar.window
      ((bar.round env plan).ruleIds.takeWhile (· ≠ rule.ruleId)) (bar.round env plan).turn }

/-- What the enter is reported to wait on after the bar. -/
def BarTurn.leg (bar : BarTurn) (rule : ConditionRule) : List EnterBlock :=
  enterBlocks plan (bar.outcome env plan).state rule bar.candle.time (some bar.window)

/-- Some signal that the criteria of the asked enter admit has confirmed by the bar. -/
def EntryAsk.ConfirmedInScope (ask : EntryAsk) : Prop :=
  ∃ pattern dir idx p print, ask.rule.trigger = .pinePattern pattern dir ∧
    windowIndex ask.window ask.candle.time = some idx ∧
    p + (DetectorConfig.pineDefaults plan.granularity).confirmBars ≤ idx ∧
    Claimable ask.window (DetectorConfig.pineDefaults plan.granularity)
      (enterCriteria plan ask pattern dir idx) (enterQualifies plan ask dir) p print

/-- The report explains the bar: an enter whose signal fires there and which neither enters nor is
declined is listed with what it waits on, and one listed for its confirmation has none in scope. -/
structure BarTurn.Explained (bar : BarTurn) : Prop where
  listed : ∀ rule ∈ plan.rules, isEnter rule = true → rule.ruleId ∉ (bar.outcome env plan).state.fired →
    ∀ signal, (bar.ask env plan rule).SignalFires plan signal →
      (∀ taken, (bar.ask env plan rule).fire taken ∉ (bar.outcome env plan).fired) →
      (∀ reason, { bar := bar.candle.time, ruleId := rule.ruleId, reason } ∉
        (bar.outcome env plan).entryDeclines) →
      bar.leg env plan rule ≠ [] ∧ bar.leg env plan rule ∈
        enterPreconditionsByLeg plan (bar.outcome env plan).state bar.candle.time (some bar.window)
  truthful : ∀ rule ∈ plan.rules, isEnter rule = true → rule.ruleId ∉ (bar.outcome env plan).state.fired →
    .needsConfirmation ∈ bar.leg env plan rule → ¬(bar.ask env plan rule).ConfirmedInScope plan

/-- None of the gates the report has no word for holds the enter back. -/
structure BarTurn.LetsThrough (bar : BarTurn) (rule : ConditionRule) (signal : LatchedSignal) : Prop where
  turned : rule.ruleId ∈ (bar.round env plan).ruleIds
  alive : (bar.ask env plan rule).turn.state.phase ≠ .done
  own : plan.rules.find? (fun other => other.ruleId = rule.ruleId) = some rule
  vetoReady : plan.hasMaVeto = true →
    ∃ idx, windowIndex bar.window bar.candle.time = some idx ∧ plan.maVetoReadyAt bar.window idx = true
  started : ∀ start, plan.replayStart = some start → start ≤ timestamp bar.candle.time
  calm : env.suppressPlan plan bar.candle.time = false
  recent : belowSignalFloor (bar.ask env plan rule).turn.state (some signal) = false

/-- On the bar no wordless gate alone holds back a signal, and no multi-shot that is confirmed first
takes one. -/
structure BarTurn.Accounted (bar : BarTurn) : Prop where
  gates : ∀ rule ∈ plan.rules, isEnter rule = true →
    rule.ruleId ∉ (bar.ask env plan rule).turn.state.fired →
    ∀ signal, (bar.ask env plan rule).SignalFires plan signal → bar.LetsThrough env plan rule signal ∨
      wordedGate plan (bar.ask env plan rule).turn.state rule bar.candle.time bar.window = true
  still : ∀ ask ∈ bar.asked env plan, ∀ signal, ¬ask.MovesMark env plan signal

/-- The bars of a tick, each in the state it finds; a plan that is done leaves the rest alone. -/
def barsEvaluated (window : List Candle) (now : Int) : List Candle → PlanState → List BarTurn
  | [], _ => []
  | candle :: rest, state =>
    let bar : BarTurn := { candle, window, now, state }
    bar :: if (bar.outcome env plan).state.phase = .done then []
      else barsEvaluated window now rest (bar.outcome env plan).state

def PlanTick.evaluated (run : PlanTurn) : PlanTick → List BarTurn
  | .bars newCandles window now expiresAt =>
    barsEvaluated env plan window now newCandles { run.state with expiresAt }
  | .controls _ _ _ => []

end

section
variable (plan : TradePlan) (rule : ConditionRule) (bar : Int) (window : List Candle)
  {before after : PlanTurn}

/-- The worded gates stand after the enters as each enter found them. -/
theorem EntryKept.wordedGate_eq (kept : EntryKept before after)
    (waiting : before.state.phase = .awaitBreakAndClose → after.state.phase = .awaitBreakAndClose) :
    wordedGate plan after.state rule bar window = wordedGate plan before.state rule bar window := by
  have phase : after.state.phase = .awaitBreakAndClose ↔ before.state.phase = .awaitBreakAndClose := by
    refine ⟨fun waits => ?_, waiting⟩
    rcases kept.phase with same | ended
    · rw [← same, waits]
    · rw [ended] at waits
      cases waits
  simp only [wordedGate, maEnablementSatisfied, enterPrepMilestonesSatisfied, retestSatisfied,
    pullbackSatisfied, kept.retraced, kept.touched, kept.broke, kept.retested, kept.pulledBack, phase]

/-- Where the mark has not moved, the report scans what the fire path scanned. -/
theorem EntryKept.legHasConfirmedSignal_eq (kept : EntryKept before after)
    (still : after.state.lastConfirmedEnterAt = before.state.lastConfirmedEnterAt) :
    legHasConfirmedSignal plan after.state rule bar window =
      legHasConfirmedSignal plan before.state rule bar window := by
  simp only [legHasConfirmedSignal, confirmedSetupFloor, signalFloor, kept.retraced,
    kept.touched, kept.broke, still]

end

section
variable {plan : TradePlan} {window : List Candle} {ask : EntryAsk}

/-- The scan comes to a signal exactly if a claimable one has confirmed. -/
theorem firstConfirmedSignalMatchingAt_isSome {cfg : DetectorConfig} {crit : SignalCriteria}
    {accepts : Int → Int → Bool} {idx : Nat} (inRange : idx < window.length) :
    (firstConfirmedSignalMatchingAt window idx cfg crit accepts).isSome = true ↔
      ∃ p print, p + cfg.confirmBars ≤ idx ∧ Claimable window cfg crit accepts p print := by
  rcases firstConfirmedSignalMatchingAt_earliest inRange with
    ⟨nothing, free⟩ | ⟨p, print, closed, claimable, _, result⟩
  · rw [nothing]
    refine ⟨fun found => (Bool.false_ne_true found).elim, ?_⟩
    rintro ⟨p, print, closed, claimable⟩
    exact absurd claimable (free p print closed)
  · obtain ⟨signal, shown, _⟩ := confirmedSignal_reports claimable.printed (idx - p)
      (decide (idx = p + cfg.confirmBars))
    rw [result, shown]
    exact ⟨fun _ => ⟨p, print, closed, claimable⟩, fun _ => rfl⟩

/-- The report's scan finds a signal exactly if one in scope has confirmed. -/
theorem EntryAsk.legHasConfirmedSignal_iff :
    legHasConfirmedSignal plan ask.turn.state ask.rule ask.candle.time ask.window = true ↔
      ask.ConfirmedInScope plan := by
  unfold legHasConfirmedSignal EntryAsk.ConfirmedInScope
  cases trigger : ask.rule.trigger with
  | pinePattern pattern dir =>
    cases onBar : windowIndex ask.window ask.candle.time with
    | none => simp
    | some idx =>
      have scan : _ ↔ ∃ p print, _ ∧ Claimable ask.window (DetectorConfig.pineDefaults plan.granularity)
          (enterCriteria plan ask pattern dir idx) (enterQualifies plan ask dir) p print :=
        firstConfirmedSignalMatchingAt_isSome (windowIndex_inRange onBar)
      refine scan.trans ⟨?_, ?_⟩
      · rintro ⟨p, print, closed, claimable⟩
        exact ⟨pattern, dir, idx, p, print, rfl, rfl, closed, claimable⟩
      · rintro ⟨_, _, _, p, print, same, same', closed, claimable⟩
        cases same
        cases same'
        exact ⟨p, print, closed, claimable⟩
  | _ => simp

/-- A signal that fires for an enter that is confirmed first has confirmed. -/
theorem EntryAsk.SignalFires.confirmed {signal : LatchedSignal} (fires : ask.SignalFires plan signal)
    (first : ask.rule.intent.needsConfirmed = true) :
    legHasConfirmedSignal plan ask.turn.state ask.rule ask.candle.time ask.window = true := by
  obtain ⟨pattern, dir, trigger, fires⟩ := fires
  cases onBar : windowIndex ask.window ask.candle.time with
  | none =>
    rw [evalPineEntry, onBar] at fires
    cases fires
  | some idx =>
    rw [first, Bool.not_true, evalPineEntry_confirmed onBar, Option.filter_eq_some_iff] at fires
    have found : firstConfirmedSignalMatchingAt ask.window idx
        (DetectorConfig.pineDefaults plan.granularity) (enterCriteria plan ask pattern dir idx)
        (enterQualifies plan ask dir) = some signal := fires.1
    unfold enterCriteria enterQualifies at found
    unfold legHasConfirmedSignal
    simp only [trigger, onBar]
    exact Option.isSome_of_eq_some found

end

section
variable {env : EngineEnv} {plan : TradePlan}

/-- Before its enters, the spine of an entry goes on watching for it. -/
theorem SpineMoves.awaitEntry {candle : Candle} {before after : PlanTurn}
    (moves : ReflTransGen (SpineMove plan candle .done) before after)
    (watching : before.state.phase = .awaitEntry) : after.state.phase = .awaitEntry := by
  refine moves_within
    (fun before after : PlanTurn => before.state.phase = .awaitEntry → after.state.phase = .awaitEntry)
    (fun _ watching => watching) (fun one two watching => two (one watching))
    (fun before after move watching => ?_) moves watching
  cases move with
  | remembered memory =>
    obtain ⟨origin, close, rfl⟩ := memory
    exact watching
  | prepared => exact watching
  | unbroken => rfl
  | broke => rfl
  | retested => exact watching
  | pulledBack => exact watching
  | declined => exact watching
  | entered _ started => cases started

theorem spineRound_waiting {candle : Candle} {window : List Candle} {turn : PlanTurn}
    (waiting : (spineRound env plan candle window turn).turn.state.phase = .awaitBreakAndClose) :
    (spineRound env plan candle window turn).ruleIds = [] := by
  unfold spineRound at waiting ⊢
  split
  · rfl
  next watching =>
    rw [watching] at waiting
    have broken : ReflTransGen (SpineMove plan candle .done) turn
        (if isMultiEnter plan then evaluateBreakAndClose env plan candle window turn else turn) := by
      split
      next multi => exact evaluateBreakAndClose_moves env plan candle window (.inr multi) turn
      · exact .refl
    have moves := (broken.trans (stampRetest_moves env plan candle window _)).trans
      (stampPullback_moves env plan candle window _)
    have stays := SpineMoves.awaitEntry moves watching
    dsimp only at waiting
    rw [stays] at waiting
    cases waiting
  · rfl

variable {bar : BarTurn} {rule : ConditionRule}

/-- While the break is awaited no enter is asked. -/
theorem BarTurn.round_waiting (waiting : (bar.round env plan).turn.state.phase = .awaitBreakAndClose) :
    (bar.round env plan).ruleIds = [] := by
  unfold BarTurn.round at waiting ⊢
  dsimp only at waiting ⊢
  split
  · rfl
  next alive =>
    rw [if_neg alive] at waiting
    split
    · rfl
    next unblocked =>
      rw [if_neg unblocked] at waiting
      exact spineRound_waiting waiting

theorem evaluateSpine_round (candle : Candle) (window : List Candle) (turn : PlanTurn) :
    evaluateSpine env plan candle window (DetectorConfig.pineDefaults plan.granularity) turn =
      enterRound env plan candle window (spineRound env plan candle window turn).ruleIds
        (spineRound env plan candle window turn).turn := by
  unfold evaluateSpine spineRound
  cases turn.state.phase with
  | awaitBreakAndClose => rfl
  | awaitEntry => rfl
  | done => rfl

/-- A bar is its round of enters, and the watermark. -/
theorem BarTurn.outcome_eq : bar.outcome env plan =
    let after := enterRound env plan bar.candle bar.window (bar.round env plan).ruleIds
      (bar.round env plan).turn
    { after with state := { after.state with watermark := some bar.candle.time } } := by
  unfold BarTurn.outcome BarTurn.round evaluateBar
  dsimp only
  split
  · rfl
  split
  · rfl
  · rw [evaluateSpine_round]

/-- What an enter finds when its turn comes is kept to the end of the bar. -/
theorem BarTurn.ask_kept (bar : BarTurn) (rule : ConditionRule) :
    EntryKept (bar.ask env plan rule).turn (bar.outcome env plan) := by
  have onward : EntryKept (bar.ask env plan rule).turn
      (enterRound env plan bar.candle bar.window _ (bar.round env plan).turn) :=
    enterRound_onward _ ((bar.round env plan).ruleIds.dropWhile (· ≠ rule.ruleId)) _
  rw [List.takeWhile_append_dropWhile] at onward
  rw [outcome_eq]
  obtain ⟨retraced, touched, broke, retested, pulledBack, phase, latched, fired, declined⟩ := onward
  exact ⟨retraced, touched, broke, retested, pulledBack, phase, latched, fired, declined⟩

theorem BarTurn.asked_kept {ask : EntryAsk} (member : ask ∈ bar.asked env plan) :
    EntryKept (ask.answer env plan) (bar.outcome env plan) := by
  have onward := entriesAsked_kept member
  rw [outcome_eq]
  obtain ⟨retraced, touched, broke, retested, pulledBack, phase, latched, fired, declined⟩ := onward
  exact ⟨retraced, touched, broke, retested, pulledBack, phase, latched, fired, declined⟩

/-- An enter that finds the break awaited leaves it so. -/
theorem BarTurn.ask_waiting (waiting : (bar.ask env plan rule).turn.state.phase = .awaitBreakAndClose) :
    (bar.outcome env plan).state.phase = .awaitBreakAndClose := by
  have kept : EntryKept (bar.round env plan).turn (bar.ask env plan rule).turn := enterRound_kept _ _
  have first : (bar.round env plan).turn.state.phase = .awaitBreakAndClose := by
    rcases kept.phase with same | ended
    · rw [← same, waiting]
    · rw [ended] at waiting
      cases waiting
  rw [outcome_eq, bar.round_waiting first]
  exact first

theorem BarTurn.ask_mark (still : ∀ ask ∈ bar.asked env plan, ∀ signal, ¬ask.MovesMark env plan signal) :
    (bar.outcome env plan).state.lastConfirmedEnterAt =
      (bar.ask env plan rule).turn.state.lastConfirmedEnterAt := by
  have whole : (bar.round env plan).ruleIds.takeWhile (· ≠ rule.ruleId) ++
      (bar.round env plan).ruleIds.dropWhile (· ≠ rule.ruleId) = (bar.round env plan).ruleIds :=
    List.takeWhile_append_dropWhile
  unfold BarTurn.asked at still
  rw [← whole] at still
  have onward := enterRound_onward_mark still
  rw [whole] at onward
  rw [outcome_eq]
  exact onward

/-- On a bar that moves no mark, an enter whose signal fires is listed exactly if a gate the report has
a word for holds it back. -/
theorem BarTurn.leg_nonempty_iff
    (still : ∀ ask ∈ bar.asked env plan, ∀ signal, ¬ask.MovesMark env plan signal)
    {signal : LatchedSignal} (fires : (bar.ask env plan rule).SignalFires plan signal) :
    bar.leg env plan rule ≠ [] ↔
      wordedGate plan (bar.ask env plan rule).turn.state rule bar.candle.time bar.window = true := by
  have kept : EntryKept (bar.ask env plan rule).turn (bar.outcome env plan) := bar.ask_kept rule
  have gates := kept.wordedGate_eq plan rule bar.candle.time bar.window bar.ask_waiting
  have scans := kept.legHasConfirmedSignal_eq plan rule bar.candle.time bar.window (bar.ask_mark still)
  rw [BarTurn.leg, Ne, enterBlocks_eq_nil, gates, scans]
  have confirmed : rule.intent.needsConfirmed = true → legHasConfirmedSignal plan
      (bar.ask env plan rule).turn.state rule bar.candle.time bar.window = true := fires.confirmed
  rw [and_iff_left confirmed, Bool.not_eq_false]

/-- An enter that every gate lets through enters or is declined. -/
theorem EntryAsk.answered {ask : EntryAsk} {signal : LatchedSignal}
    (watched : entryWatched env plan ask.turn.state ask.rule ask.candle ask.window = true)
    (fires : ask.SignalFires plan signal) (recent : belowSignalFloor ask.turn.state (some signal) = false)
    (milestones : enterPrepMilestonesSatisfied plan ask.turn.state ask.rule ask.candle.time = true) :
    ask.fire signal ∈ (ask.answer env plan).fired ∨
      ∃ reason, { bar := ask.candle.time, ruleId := ask.rule.ruleId, reason } ∈
        (ask.answer env plan).entryDeclines := by
  unfold EntryAsk.answer evaluateOneEntry
  rw [watched, fires.answered]
  dsimp only
  rw [recent]
  cases entryDispatchable env plan ask.rule ask.candle (some signal) with
  | error reason => exact .inr ⟨reason, by simp⟩
  | ok =>
    rw [milestones]
    exact .inl (by simp [PlanTurn.pushFire, EntryAsk.fire])

/-- With the wordless gates open and no worded one shut, the enter's trigger is looked at. -/
theorem BarTurn.LetsThrough.watched {signal : LatchedSignal} (through : bar.LetsThrough env plan rule signal)
    (fires : (bar.ask env plan rule).SignalFires plan signal)
    (open_ : wordedGate plan (bar.ask env plan rule).turn.state rule bar.candle.time bar.window = false) :
    entryWatched env plan (bar.ask env plan rule).turn.state rule bar.candle bar.window = true := by
  obtain ⟨pattern, dir, trigger, _⟩ := fires
  have pine : rule.trigger.isPinePattern = true := by
    rw [show rule.trigger = .pinePattern pattern dir from trigger]
    rfl
  simp only [wordedGate, Bool.or_eq_false_iff, Bool.not_eq_false'] at open_
  obtain ⟨⟨⟨⟨aligned, enabled⟩, retraced⟩, _⟩, _⟩ := open_
  have ready : (!plan.hasMaVeto ||
      (windowIndex bar.window bar.candle.time).any fun i => plan.maVetoReadyAt bar.window i) = true := by
    cases veto : plan.hasMaVeto with
    | false => rfl
    | true =>
      obtain ⟨idx, onBar, ready⟩ := through.vetoReady veto
      rw [onBar]
      exact ready
  have seen : (plan.entryConditions.retrace.isNone ||
      (bar.ask env plan rule).turn.state.retraceSeenAt.isSome) = true := by
    cases line : plan.entryConditions.retrace with
    | none => rfl
    | some => simpa [line] using retraced
  have started : plan.replayStart.all (fun start => decide (start ≤ timestamp bar.candle.time)) = true := by
    cases from_ : plan.replayStart with
    | none => rfl
    | some start => simpa using through.started start from_
  unfold entryWatched
  rw [aligned, ready, seen, enabled, pine, started, through.calm]
  simp

/-- A bar on which every signal a wordless gate holds back is also held back by a worded one, and no
mark moves, is explained. -/
theorem BarTurn.Accounted.explained (accounted : bar.Accounted env plan) : bar.Explained env plan where
  listed := by
    intro rule member enters unlatched signal fires untaken undeclined
    have kept : EntryKept (bar.ask env plan rule).turn (bar.outcome env plan) := bar.ask_kept rule
    have before : rule.ruleId ∉ (bar.ask env plan rule).turn.state.fired := fun latched =>
      unlatched (kept.latched latched)
    have nonempty : bar.leg env plan rule ≠ [] := by
      rw [BarTurn.leg_nonempty_iff accounted.still fires]
      rcases accounted.gates rule member enters before signal fires with through | worded
      · by_contra shut
        have open_ := (Bool.not_eq_true _).mp shut
        have reached : bar.ask env plan rule ∈ bar.asked env plan :=
          entriesAsked_reaches through.turned through.own rfl through.alive before
        have ends := bar.asked_kept reached
        have milestones : enterPrepMilestonesSatisfied plan (bar.ask env plan rule).turn.state rule
            bar.candle.time = true := by
          simp only [wordedGate, Bool.or_eq_false_iff, Bool.not_eq_false'] at open_
          exact open_.2
        rcases EntryAsk.answered (through.watched fires open_) fires through.recent milestones with
          taken | ⟨reason, declined⟩
        · exact untaken signal (ends.fired.subset taken)
        · exact undeclined reason (ends.declined.subset declined)
      · exact worded
    exact ⟨nonempty, enterBlocks_listed member enters unlatched nonempty⟩
  truthful := by
    intro rule member enters unlatched waits inScope
    have kept : EntryKept (bar.ask env plan rule).turn (bar.outcome env plan) := bar.ask_kept rule
    have missing := (needsConfirmation_listed.mp waits).2
    rw [kept.legHasConfirmedSignal_eq plan rule bar.candle.time bar.window
      (bar.ask_mark accounted.still)] at missing
    have found : legHasConfirmedSignal plan (bar.ask env plan rule).turn.state rule bar.candle.time
        bar.window = true := EntryAsk.legHasConfirmedSignal_iff.mpr inScope
    rw [missing] at found
    cases found

/-- The report explains every bar of a run whose bars are all accounted for. -/
theorem planRuns_explained (env : EngineEnv) (plan : TradePlan) (start : PlanTurn) (ticks : List PlanTick)
    (accounted : Along (PlanTurn.tick env plan)
      (fun run tick => ∀ bar ∈ tick.evaluated env plan run, bar.Accounted env plan) start ticks) :
    Along (PlanTurn.tick env plan)
      (fun run tick => ∀ bar ∈ tick.evaluated env plan run, bar.Explained env plan) start ticks :=
  Along.mono (fun _ _ bars bar member => (bars bar member).explained) accounted

end

def pinbarEnter : ConditionRule := pinbarPlan.rules.head (by decide)

theorem pinbarPlan_rules : pinbarPlan.rules = [pinbarEnter] := rfl

/-- The bar comes to the enter with its entry watched for and no preparation asked of it. -/
def comesToEnter (env : EngineEnv) (bar : BarTurn) : Bool :=
  let round := bar.round env pinbarPlan
  decide (round.ruleIds = ["enter"] ∧ round.turn.state.phase = .awaitEntry) &&
    (signalFloor round.turn.state).isNone

/-- Where there are no spread hours, the one enter of the plan hears every signal it comes to. -/
theorem BarTurn.accounted_of_comesToEnter {bar : BarTurn} (comes : comesToEnter calmEngine bar = true) :
    bar.Accounted calmEngine pinbarPlan := by
  simp only [comesToEnter, Bool.and_eq_true, decide_eq_true_eq, Option.isNone_iff_eq_none] at comes
  obtain ⟨⟨ids, watching⟩, unfloored⟩ := comes
  have met : (bar.ask calmEngine pinbarPlan pinbarEnter).turn = (bar.round calmEngine pinbarPlan).turn := by
    rw [BarTurn.ask, ids]
    rfl
  refine ⟨fun rule member _ _ signal _ => .inl ?_, ?_⟩
  · obtain rfl : rule = pinbarEnter := by simpa [pinbarPlan_rules] using member
    refine ⟨?_, ?_, rfl, fun vetoed => ?_, fun start given => ?_, rfl, ?_⟩
    · rw [ids]
      exact List.mem_cons_self ..
    · rw [met, watching]
      exact Phase.noConfusion
    · exact absurd vetoed (by decide)
    · cases given
    · rw [met, belowSignalFloor, unfloored]
      rfl
  · intro ask asked signal moves
    have own : pinbarPlan.rules.find? (fun rule => rule.ruleId = "enter") = some pinbarEnter := rfl
    rw [BarTurn.asked, ids, entriesAsked, own] at asked
    split at asked
    · cases asked
    · rcases List.mem_cons.mp asked with rfl | later
      · have single : isMultiShot pinbarEnter = false := by decide
        exact Bool.noConfusion (single.symm.trans moves.multiShot)
      · split at later
        · cases later
        · cases later

/-- The bar that confirms the first pinbar, as the run comes to it. -/
def confirmingBar (env : EngineEnv) : BarTurn where
  candle := ⟨seconds 10800, 100, 100, 100, 100⟩
  window := twoPinbars.take 4
  now := seconds 14400
  state :=
    { (runTicks env pinbarPlan pinbarStart [barTick 1, barTick 2]).state with expiresAt := seconds 72000 }

/-- The signal the enter asks about on the bar. -/
def pinbarSignal (env : EngineEnv) (bar : BarTurn) : Option LatchedSignal :=
  let state := (bar.ask env pinbarPlan pinbarEnter).turn.state
  evalPineEntry bar.candle bar.window (DetectorConfig.pineDefaults .h1) none .long true false
    (confirmedSetupFloor pinbarPlan state pinbarEnter) state.lastConfirmedEnterAt false
    (some pinbarPlan.entryConditions)

/-- A signal confirms in a spread hour: nothing enters, nothing is declined, and nothing is listed. -/
theorem planRuns_unexplained :
    ¬Along (PlanTurn.tick shutThirdBar pinbarPlan)
      (fun run tick => ∀ bar ∈ tick.evaluated shutThirdBar pinbarPlan run,
        bar.Explained shutThirdBar pinbarPlan) pinbarStart [barTick 1, barTick 2, barTick 3] := by
  intro explained
  have last : (confirmingBar shutThirdBar).Explained shutThirdBar pinbarPlan :=
    explained.2.2.1 _ (List.mem_cons_self ..)
  have fires : (pinbarSignal shutThirdBar (confirmingBar shutThirdBar)).isSome = true := by decide +kernel
  have quiet : ((confirmingBar shutThirdBar).outcome shutThirdBar pinbarPlan).fired.isEmpty = true ∧
      ((confirmingBar shutThirdBar).outcome shutThirdBar pinbarPlan).entryDeclines.isEmpty = true := by
    decide +kernel
  have silent : pinbarEnter.ruleId ∉ ((confirmingBar shutThirdBar).outcome shutThirdBar pinbarPlan).state.fired ∧
      ((confirmingBar shutThirdBar).leg shutThirdBar pinbarPlan pinbarEnter).isEmpty = true := by
    decide +kernel
  obtain ⟨signal, fires⟩ := Option.isSome_iff_exists.mp fires
  have listed := last.listed pinbarEnter (List.mem_cons_self ..) rfl silent.1 signal
    ⟨none, .long, rfl, fires⟩
  refine (listed ?_ ?_).1 (List.isEmpty_iff.mp silent.2)
  · intro taken entered
    rw [List.isEmpty_iff.mp quiet.1] at entered
    cases entered
  · intro reason declined
    rw [List.isEmpty_iff.mp quiet.2] at declined
    cases declined

/-- With no spread hours the same bars are all accounted for. -/
theorem planRuns_explained_pinbars :
    Along (PlanTurn.tick calmEngine pinbarPlan)
      (fun run tick => ∀ bar ∈ tick.evaluated calmEngine pinbarPlan run,
        bar.Explained calmEngine pinbarPlan) pinbarStart [barTick 1, barTick 2, barTick 3] := by
  refine planRuns_explained calmEngine pinbarPlan pinbarStart _ ?_
  have comes : ∀ (run : PlanTurn) (tick : PlanTick),
      (tick.evaluated calmEngine pinbarPlan run).all (comesToEnter calmEngine) = true →
        ∀ bar ∈ tick.evaluated calmEngine pinbarPlan run, bar.Accounted calmEngine pinbarPlan :=
    fun run tick all bar member => BarTurn.accounted_of_comesToEnter (List.all_eq_true.mp all bar member)
  exact ⟨comes _ _ (by decide +kernel), comes _ _ (by decide +kernel), comes _ _ (by decide +kernel), trivial⟩

end TradeControl
