import TradeControl.EntriesAsked
import TradeControl.FirstConfirmed
import TradeControl.SafeRuns
import TradeControl.World

namespace TradeControl

open Foundation Relation

/-- The criteria a confirmed-first enter scans with. -/
def enterCriteria (plan : TradePlan) (ask : EntryAsk) (pattern : Option SignalKind) (dir : Direction)
    (idx : Nat) : SignalCriteria :=
  let cfg := DetectorConfig.pineDefaults plan.granularity
  { dir
    kind := pattern
    requireGolden := ask.rule.intent.needsGolden
    notBefore := confirmedScanFloor (ask.window.map (·.time)) idx cfg cfg.granularity
      (confirmedSetupFloor plan ask.turn.state ask.rule)
    after := ask.turn.state.lastConfirmedEnterAt }

def enterQualifies (plan : TradePlan) (ask : EntryAsk) (dir : Direction) (start print : Int) : Bool :=
  plan.entryConditions.patternQualifies ask.window start print dir

/-- A print of the window turns valid on bar `idx`. -/
def Tracked.TurnsValidOn (print : Tracked) (candles : List Candle) (cfg : DetectorConfig) (idx : Nat) :
    Prop :=
  (print.lived candles cfg (idx - print.signalBar)).state = .valid ∧
    (print.lived candles cfg (idx - 1 - print.signalBar)).state ≠ .valid

/-- A signal the enter's criteria admit turns valid on the asked bar, and passes every other gate. -/
structure ReadySignal (env : EngineEnv) (plan : TradePlan) (ask : EntryAsk)
    (pattern : Option SignalKind) (dir : Direction) (idx p : Nat) (print : Tracked)
    (signal : LatchedSignal) : Prop where
  onBar : windowIndex ask.window ask.candle.time = some idx
  earlier : p < idx
  printed : printAt ask.window (DetectorConfig.pineDefaults plan.granularity) p = some print
  admitted : claims ask.window (enterCriteria plan ask pattern dir idx)
    (enterQualifies plan ask dir) print = true
  turned : print.TurnsValidOn ask.window (DetectorConfig.pineDefaults plan.granularity) idx
  shown : (print.lived ask.window (DetectorConfig.pineDefaults plan.granularity)
    (idx - p)).confirmedSignal ask.window (DetectorConfig.pineDefaults plan.granularity) true = some signal
  watched : entryWatched env plan ask.turn.state ask.rule ask.candle ask.window = true
  recent : belowSignalFloor ask.turn.state (some signal) = false
  dispatchable : entryDispatchable env plan ask.rule ask.candle (some signal) = .ok ()
  milestones : enterPrepMilestonesSatisfied plan ask.turn.state ask.rule ask.candle.time = true

/-- No signal that printed before `p` is admitted by the enter's criteria and confirmed by its
own window. -/
def SlotFree (plan : TradePlan) (ask : EntryAsk) (pattern : Option SignalKind) (dir : Direction)
    (idx p : Nat) : Prop :=
  ∀ q < p, ∀ other, ¬Claimable ask.window (DetectorConfig.pineDefaults plan.granularity)
    (enterCriteria plan ask pattern dir idx) (enterQualifies plan ask dir) q other

def EntryAsk.fire (ask : EntryAsk) (signal : LatchedSignal) : FiredIntent :=
  { ruleId := ask.rule.ruleId, intent := ask.rule.intent, candle := ask.candle, signal := some signal }

/-- The asked enter fires, on this signal. -/
def EntryAsk.Fires (env : EngineEnv) (plan : TradePlan) (ask : EntryAsk) (signal : LatchedSignal) : Prop :=
  (ask.answer env plan).fired = ask.turn.fired ++ [ask.fire signal]

section
variable {env : EngineEnv} {plan : TradePlan} {ask : EntryAsk} {pattern : Option SignalKind}
  {dir : Direction} {idx p : Nat} {print : Tracked} {signal : LatchedSignal}

theorem windowIndex_inRange {window : List Candle} {time : Int} {idx : Nat}
    (onBar : windowIndex window time = some idx) : idx < window.length := by
  unfold windowIndex at onBar
  exact (List.findIdx?_eq_some_iff_getElem.mp onBar).1

theorem ReadySignal.window (ready : ReadySignal env plan ask pattern dir idx p print signal) :
    idx = p + (DetectorConfig.pineDefaults plan.granularity).confirmBars ∧
      Claimable ask.window (DetectorConfig.pineDefaults plan.granularity)
        (enterCriteria plan ask pattern dir idx) (enterQualifies plan ask dir) p print := by
  have turned := ready.turned
  unfold Tracked.TurnsValidOn at turned
  rw [printAt_signalBar ready.printed] at turned
  have turns := (lived_turnsValid_iff ready.printed ready.earlier (windowIndex_inRange ready.onBar)).mp turned
  exact ⟨turns.1, ready.printed, ready.admitted, turns.2⟩

/-- A print's own data is what the criteria ask of it. -/
theorem admitted_data {crit : SignalCriteria} {accepts : Int → Int → Bool} {window : List Candle}
    {cfg : DetectorConfig} (admitted : claims window crit accepts print = true)
    (shown : (print.lived window cfg (idx - p)).confirmedSignal window cfg true = some signal) :
    signal.fires = true ∧ signal.direction = crit.dir ∧ (crit.kind.all fun want => signal.kind = want) ∧
      accepts signal.signalStartTime signal.signalBarTime = true := by
  obtain ⟨state, broke, same⟩ := print.lived_data window cfg (idx - p)
  rw [same] at shown
  unfold Tracked.confirmedSignal at shown
  unfold claims at admitted
  dsimp only at shown
  cases onBar : window[print.signalBar]? with
  | none =>
    rw [onBar] at shown
    cases shown
  | some candle =>
    rw [onBar] at shown admitted
    cases shown
    simp only [SignalCriteria.admits, Bool.and_eq_true, decide_eq_true_eq] at admitted
    exact ⟨rfl, admitted.1.1.1.1.1, admitted.1.1.1.1.2, admitted.2⟩

/-- A confirmed-first enter takes what the scan comes to, if it fires and is what the enter asks. -/
theorem evalPineEntry_confirmed (onBar : windowIndex ask.window ask.candle.time = some idx) :
    evalPineEntry ask.candle ask.window (DetectorConfig.pineDefaults plan.granularity) pattern dir true
      ask.rule.intent.needsGolden (confirmedSetupFloor plan ask.turn.state ask.rule)
      ask.turn.state.lastConfirmedEnterAt false (some plan.entryConditions) =
    (firstConfirmedSignalMatchingAt ask.window idx (DetectorConfig.pineDefaults plan.granularity)
      (enterCriteria plan ask pattern dir idx) (enterQualifies plan ask dir)).filter fun sig =>
        sig.fires && decide (sig.direction = dir) && pattern.all (fun want => sig.kind = want) &&
          enterQualifies plan ask dir sig.signalStartTime sig.signalBarTime := by
  have scan : ∀ found, firstConfirmedSignalMatchingAt ask.window idx
      (DetectorConfig.pineDefaults plan.granularity) (enterCriteria plan ask pattern dir idx)
      (enterQualifies plan ask dir) = found → evalPineEntry ask.candle ask.window
        (DetectorConfig.pineDefaults plan.granularity) pattern dir true
        ask.rule.intent.needsGolden (confirmedSetupFloor plan ask.turn.state ask.rule)
        ask.turn.state.lastConfirmedEnterAt false (some plan.entryConditions) = found.filter fun sig =>
          sig.fires && decide (sig.direction = dir) && pattern.all (fun want => sig.kind = want) &&
            enterQualifies plan ask dir sig.signalStartTime sig.signalBarTime := by
    intro found scanned
    unfold enterCriteria enterQualifies at scanned
    unfold evalPineEntry
    simp only [onBar, Option.all_some, if_true, Option.bind_eq_bind, Option.bind_some]
    rw [scanned]
    cases found with
    | none => rfl
    | some sig =>
      simp only [Option.bind_some, Option.filter, enterQualifies]
      by_cases fires : sig.fires = true
      · by_cases same : sig.direction = dir
        · by_cases kind : pattern.all (fun want => decide (sig.kind = want)) = true
          · by_cases qualifies : plan.entryConditions.patternQualifies ask.window
                sig.signalStartTime sig.signalBarTime dir = true
            · simp [fires, same, kind, qualifies]
            · simp [fires, same, kind, qualifies]
          · simp [fires, same, kind]
        · simp [fires, same]
      · simp [fires]
  exact scan _ rfl

/-- With the slot free the scan comes to the ready signal, and the enter's own checks pass it. -/
theorem ReadySignal.taken (ready : ReadySignal env plan ask pattern dir idx p print signal)
    (free : SlotFree plan ask pattern dir idx p) :
    evalPineEntry ask.candle ask.window (DetectorConfig.pineDefaults plan.granularity) pattern dir true
      ask.rule.intent.needsGolden (confirmedSetupFloor plan ask.turn.state ask.rule)
      ask.turn.state.lastConfirmedEnterAt false (some plan.entryConditions) = some signal := by
  obtain ⟨closes, claimable⟩ := ready.window
  obtain ⟨fires, sameDir, sameKind, accepted⟩ := admitted_data ready.admitted ready.shown
  have scanned : firstConfirmedSignalMatchingAt ask.window idx
      (DetectorConfig.pineDefaults plan.granularity) (enterCriteria plan ask pattern dir idx)
      (enterQualifies plan ask dir) = some signal := by
    rcases firstConfirmedSignalMatchingAt_earliest (windowIndex_inRange ready.onBar) with
      ⟨_, nobody⟩ | ⟨q, other, _, claimable', first, result⟩
    · exact absurd claimable (nobody p print (by omega))
    · rcases Nat.lt_trichotomy q p with before | rfl | after
      · exact absurd claimable' (free q before other)
      · have same := claimable'.printed
        rw [ready.printed] at same
        cases same
        rw [result, decide_eq_true closes]
        exact ready.shown
      · exact absurd claimable (first p print after)
  rw [evalPineEntry_confirmed ready.onBar, scanned]
  have passes : (signal.fires && decide (signal.direction = dir) &&
      pattern.all (fun want => signal.kind = want) &&
      enterQualifies plan ask dir signal.signalStartTime signal.signalBarTime) = true := by
    simp only [Bool.and_eq_true, decide_eq_true_eq]
    exact ⟨⟨⟨fires, sameDir⟩, sameKind⟩, accepted⟩
  rw [Option.filter_some, if_pos passes]

/-- A signal that confirmed before it keeps the slot, and on this bar it does not fire. -/
theorem ReadySignal.shadowed (ready : ReadySignal env plan ask pattern dir idx p print signal)
    (shadow : ¬SlotFree plan ask pattern dir idx p) :
    evalPineEntry ask.candle ask.window (DetectorConfig.pineDefaults plan.granularity) pattern dir true
      ask.rule.intent.needsGolden (confirmedSetupFloor plan ask.turn.state ask.rule)
      ask.turn.state.lastConfirmedEnterAt false (some plan.entryConditions) = none := by
  obtain ⟨closes, _⟩ := ready.window
  simp only [SlotFree, not_forall, not_not] at shadow
  obtain ⟨q, before, other, claimable⟩ := shadow
  have quiet : ∀ found, firstConfirmedSignalMatchingAt ask.window idx
      (DetectorConfig.pineDefaults plan.granularity) (enterCriteria plan ask pattern dir idx)
      (enterQualifies plan ask dir) = some found → found.fires = false := by
    intro found scanned
    rcases firstConfirmedSignalMatchingAt_earliest (windowIndex_inRange ready.onBar) with
      ⟨nothing, _⟩ | ⟨r, winner, _, claimable', first, result⟩
    · rw [nothing] at scanned
      cases scanned
    · have earliest : r ≤ q := by
        by_contra later
        exact first q other (by omega) claimable
      have notNow : decide (idx = r + (DetectorConfig.pineDefaults plan.granularity).confirmBars) = false :=
        decide_eq_false (by omega)
      obtain ⟨shown, (same : (winner.lived ask.window (DetectorConfig.pineDefaults plan.granularity)
        (idx - r)).confirmedSignal _ _ false = some shown), _, fires⟩ :=
          confirmedSignal_reports claimable'.printed (idx - r) false
      rw [result, notNow, same] at scanned
      cases scanned
      exact fires
  rw [evalPineEntry_confirmed ready.onBar]
  cases scanned : firstConfirmedSignalMatchingAt ask.window idx
      (DetectorConfig.pineDefaults plan.granularity) (enterCriteria plan ask pattern dir idx)
      (enterQualifies plan ask dir) with
  | none => rfl
  | some found => simp [Option.filter_some, quiet found scanned]

/-- A ready signal fires exactly if the slot is free for it. -/
theorem ReadySignal.fires_iff (ready : ReadySignal env plan ask pattern dir idx p print signal)
    (trigger : ask.rule.trigger = .pinePattern pattern dir)
    (confirmed : ask.rule.intent.needsConfirmed = true) :
    ask.Fires env plan signal ↔ SlotFree plan ask pattern dir idx p := by
  have asked : ∀ found, evalPineEntry ask.candle ask.window
      (DetectorConfig.pineDefaults plan.granularity) pattern dir true ask.rule.intent.needsGolden
      (confirmedSetupFloor plan ask.turn.state ask.rule) ask.turn.state.lastConfirmedEnterAt false
      (some plan.entryConditions) = found →
    entrySignal env plan ask.rule ask.turn.state ask.candle ask.window
      (DetectorConfig.pineDefaults plan.granularity) = (found.map some, ask.turn.state) := by
    rintro found rfl
    simp only [entrySignal, trigger, confirmed, Bool.not_true]
  unfold EntryAsk.Fires EntryAsk.answer evaluateOneEntry
  rw [ready.watched]
  by_cases free : SlotFree plan ask pattern dir idx p
  · rw [asked (some signal) (ready.taken free)]
    simp [ready.recent, ready.dispatchable, ready.milestones, free, PlanTurn.pushFire, EntryAsk.fire]
  · rw [asked none (ready.shadowed free)]
    simp [free]

end

/-- Every confirmed-first enter the tick asks fires on each signal that is ready for it. -/
def PlanTick.Heard (env : EngineEnv) (plan : TradePlan) (run : PlanTurn) (tick : PlanTick) : Prop :=
  ∀ ask ∈ tick.asked env plan run, ∀ pattern dir idx p print signal,
    ask.rule.trigger = .pinePattern pattern dir → ask.rule.intent.needsConfirmed = true →
      ReadySignal env plan ask pattern dir idx p print signal →
        ask.Fires env plan signal ∧ ask.fire signal ∈ (run.tick env plan tick).fired

/-- Whenever a signal is ready for a confirmed-first enter, none that printed before it has
confirmed within the enter's criteria. -/
def PlanTick.SlotsFree (env : EngineEnv) (plan : TradePlan) (run : PlanTurn) (tick : PlanTick) : Prop :=
  ∀ ask ∈ tick.asked env plan run, ∀ pattern dir idx p print signal,
    ask.rule.trigger = .pinePattern pattern dir → ask.rule.intent.needsConfirmed = true →
      ReadySignal env plan ask pattern dir idx p print signal → SlotFree plan ask pattern dir idx p

theorem PlanTick.heard_iff (env : EngineEnv) (plan : TradePlan) (run : PlanTurn) (tick : PlanTick) :
    tick.Heard env plan run ↔ tick.SlotsFree env plan run := by
  constructor
  · intro heard ask asked pattern dir idx p print signal trigger confirmed ready
    have fires := (heard ask asked pattern dir idx p print signal trigger confirmed ready).1
    exact (ready.fires_iff trigger confirmed).mp fires
  · intro free ask asked pattern dir idx p print signal trigger confirmed ready
    have fires := (ready.fires_iff trigger confirmed).mpr
      (free ask asked pattern dir idx p print signal trigger confirmed ready)
    refine ⟨fires, (PlanTick.asked_fired asked).subset ?_⟩
    rw [fires]
    simp

/-- Along any run every ready signal is heard, exactly if none comes while an earlier one that
confirmed within the enter's criteria still holds the slot. -/
theorem planRuns_heard_iff (env : EngineEnv) (plan : TradePlan) (start : PlanTurn)
    (ticks : List PlanTick) :
    Along (PlanTurn.tick env plan) (fun run tick => tick.Heard env plan run) start ticks ↔
      Along (PlanTurn.tick env plan) (fun run tick => tick.SlotsFree env plan run) start ticks :=
  Along.congr (fun run tick => tick.heard_iff env plan run) ticks start

/-- Spread hours that shut the third hour's bar. -/
def shutThirdBar : EngineEnv :=
  { calmEngine with
    spreads := { calmEngine.spreads with isNyCloseEdge := fun instant => instant = seconds 10800 } }

/-- A confirmed-first enter on any pattern, with the bracket of `stopEntry`. -/
def pinbarPlan : TradePlan :=
  hourlyPlan
    [{ ruleId := "enter"
       trigger := .pinePattern none .long
       intent := { toIntent := { stopEntry with needsConfirmed := true, maxRetries := .static 0 } }
       kind := .enter }]

/-- Two pinbars, of the first hour and the fourth, each confirmed two bars on. -/
def twoPinbars : List Candle :=
  [⟨seconds 0, 100, 100, 100, 100⟩, ⟨seconds 3600, 99, 100, 90, 100⟩, ⟨seconds 7200, 100, 101, 100, 100⟩,
    ⟨seconds 10800, 100, 100, 100, 100⟩, ⟨seconds 14400, 99, 100, 90, 100⟩,
    ⟨seconds 18000, 100, 101, 100, 100⟩, ⟨seconds 21600, 100, 100, 100, 100⟩]

def barTick (bar : Nat) : PlanTick :=
  .bars twoPinbars[bar]?.toList (twoPinbars.take (bar + 1)) (seconds (3600 * (bar + 1))) (seconds 72000)

def pinbarStart : PlanTurn := pinbarPlan.seeded (twoPinbars.take 1) (seconds 72000)

def firstHours : List PlanTick := [barTick 1, barTick 2, barTick 3, barTick 4, barTick 5]

/-- The second pinbar as the enter meets it on the bar that confirms it. -/
def secondPinbarReady (ask : EntryAsk) : Bool :=
  let cfg := DetectorConfig.pineDefaults .h1
  decide (ask.rule.trigger = .pinePattern none .long) && ask.rule.intent.needsConfirmed &&
    decide (windowIndex ask.window ask.candle.time = some 6) &&
    entryWatched shutThirdBar pinbarPlan ask.turn.state ask.rule ask.candle ask.window &&
    enterPrepMilestonesSatisfied pinbarPlan ask.turn.state ask.rule ask.candle.time &&
    (printAt ask.window cfg 4).any fun print =>
      claims ask.window (enterCriteria pinbarPlan ask none .long 6) (enterQualifies pinbarPlan ask .long)
          print &&
        decide (print.signalBar = 4 ∧ (print.lived ask.window cfg 2).state = .valid ∧
          (print.lived ask.window cfg 1).state ≠ .valid) &&
        ((print.lived ask.window cfg 2).confirmedSignal ask.window cfg true).any fun signal =>
          !belowSignalFloor ask.turn.state (some signal) &&
            (entryDispatchable shutThirdBar pinbarPlan ask.rule ask.candle (some signal)).isOk

theorem secondPinbarReady_ready {ask : EntryAsk} (holds : secondPinbarReady ask = true) :
    ask.rule.trigger = .pinePattern none .long ∧ ask.rule.intent.needsConfirmed = true ∧
      ∃ print signal, ReadySignal shutThirdBar pinbarPlan ask none .long 6 4 print signal := by
  simp only [secondPinbarReady, Bool.and_eq_true, decide_eq_true_eq, Option.any_eq_true,
    Bool.not_eq_true'] at holds
  obtain ⟨⟨⟨⟨⟨trigger, confirmed⟩, onBar⟩, watched⟩, milestones⟩, print, printed, ⟨admitted, same, turned⟩,
    signal, shown, recent, dispatched⟩ := holds
  have dispatchable : entryDispatchable shutThirdBar pinbarPlan ask.rule ask.candle (some signal) = .ok () := by
    cases answer : entryDispatchable shutThirdBar pinbarPlan ask.rule ask.candle (some signal) with
    | ok => rfl
    | error reason =>
      rw [answer] at dispatched
      cases dispatched
  refine ⟨trigger, confirmed, print, signal, onBar, by omega, printed, admitted, ?_, shown, watched, recent,
    dispatchable, milestones⟩
  unfold Tracked.TurnsValidOn
  rw [same]
  exact turned

/-- The first pinbar is declined in its spread hour; the second, ready on a clear bar, is never heard. -/
theorem planRuns_unheard :
    ¬Along (PlanTurn.tick shutThirdBar pinbarPlan) (fun run tick => tick.Heard shutThirdBar pinbarPlan run)
      pinbarStart (firstHours ++ [barTick 6]) := by
  intro heard
  have last : (barTick 6).Heard shutThirdBar pinbarPlan
      (runTicks shutThirdBar pinbarPlan pinbarStart firstHours) := heard.2.2.2.2.2.1
  have met : ((barTick 6).asked shutThirdBar pinbarPlan
      (runTicks shutThirdBar pinbarPlan pinbarStart firstHours)).any secondPinbarReady = true := by
    decide +kernel
  have silent : ((runTicks shutThirdBar pinbarPlan pinbarStart firstHours).tick shutThirdBar pinbarPlan
      (barTick 6)).fired.isEmpty = true := by
    decide +kernel
  obtain ⟨ask, asked, holds⟩ := List.any_eq_true.mp met
  obtain ⟨trigger, confirmed, print, signal, ready⟩ := secondPinbarReady_ready holds
  have fired := (last ask asked none .long 6 4 print signal trigger confirmed ready).2
  rw [List.isEmpty_iff.mp silent] at fired
  cases fired

end TradeControl
