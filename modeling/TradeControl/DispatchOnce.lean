import TradeControl.EngineTick
import TradeControl.EntriesOnce
import TradeControl.SafeRuns

namespace TradeControl

open Foundation Relation

/-- A run of the evaluator, from a seed on, tick by tick with candles past the watermark. -/
def Evaluated (env : EngineEnv) (plan : TradePlan) (run : PlanTurn) : Prop :=
  ∃ candles expiresAt, GuardedReach (PlanTurn.tick env plan) (fun run tick => tick.Fresh run)
    { state := seedPlanState plan candles expiresAt } run

/-- No bar comes twice in one of the broker's windows. -/
def EngineAnswers.DistinctBars (ans : EngineAnswers) : Prop :=
  ∀ since, ∀ candles ∈ ans.candles since, (candles.map (·.time)).Nodup

/-- The tick evaluates fresh candles, and they finish the plan. -/
def EngineAnswers.Finishes (env : EngineEnv) (stored : StoredPlan) (ans : EngineAnswers) (now : Int)
    (world : EngineWorld) : Prop :=
  ∃ prior ∈ world.state, ∃ since ∈ prior.watermark, ∃ candles ∈ ans.candles since,
    ∃ window ∈ ans.detectorWindow (filterNewCandles candles since),
      (evaluatePlan env stored.plan prior (filterNewCandles candles since) window now
        (planStateExpiresAt now)).done = true

/-- How a tick ends, where a plan that is listed has this state. -/
inductive TickEnds (env : EngineEnv) (stored : StoredPlan) (ans : EngineAnswers) (now : Int)
    (world : EngineWorld) : EngineWorld → Prop
  | skipped : TickEnds env stored ans now world world
  | seeded (candles : List Candle)
      (bare : ∀ prior, world.state = some prior → ans.read = .missed ∧ ans.reread = .missed ∨ prior.watermark = none) :
      TickEnds env stored ans now world
        { world with state := some (seedPlanState stored.plan candles (planStateExpiresAt now)) }
  | evaluated {prior : PlanState} (tick : PlanTick) (held : world.state = some prior)
      (marked : prior.watermark.isSome) (fresh : ans.DistinctBars → tick.Fresh { state := prior })
      (finishes : (tick.eval env stored.plan prior).done = true → prior.phase = .done ∨
        ans.Finishes env stored now world) :
      TickEnds env stored ans now world (advanceAndDispatch stored ans (tick.eval env stored.plan prior) world)
  | silent {prior : PlanState} (eval : PlanEval) (held : world.state = some prior)
      (goesOn : eval.done = true → prior.phase = .done) :
      TickEnds env stored ans now world { world with evaluations := world.evaluations ++ [eval] }

/-- Control rules do not end a plan. -/
theorem evaluateControls_phase (env : EngineEnv) (plan : TradePlan) (candle : Candle) (window : List Candle)
    (now : Int) (turn : PlanTurn) :
    (evaluateControls env plan candle window now turn).state.phase = turn.state.phase := by
  have moves : ReflTransGen (WatchMove plan candle false) { turn }
      { turn := evaluateControls env plan candle window now turn } :=
    evaluateControls_moves env plan candle window now turn
  refine moves_within (fun before after : GuardScan => after.turn.state.phase = before.turn.state.phase)
    (fun _ => rfl) (fun one two => two.trans one) (fun before after move => ?_) moves
  cases move with
  | remembered memory =>
    obtain ⟨_, _, rfl⟩ := memory
    rfl
  | control => rfl
  | guard _ looked => cases looked
  | retired looked => cases looked

theorem evaluateControlsOnly_done {env : EngineEnv} {plan : TradePlan} {prior : PlanState} {lastCandle : Candle}
    {now expiresAt : Int} (done : (evaluateControlsOnly env plan prior lastCandle now expiresAt).done = true) :
    prior.phase = .done := by
  have same := evaluateControls_phase env plan lastCandle [lastCandle] now { state := { prior with expiresAt } }
  exact same.symm.trans (of_decide_eq_true done)

theorem filterNewCandles_fresh {candles : List Candle} {since : Int} {state : PlanState}
    (marked : state.watermark = some since) (distinct : (candles.map (·.time)).Nodup) :
    FreshCandles state (filterNewCandles candles since) := by
  unfold filterNewCandles
  have perm := List.perm_insertionSort (fun a b : Candle => a.time ≤ b.time) (candles.filter (since < ·.time))
  refine ⟨?_, ?_⟩
  · have sorted := List.pairwise_insertionSort (fun a b : Candle => a.time ≤ b.time) (candles.filter (since < ·.time))
    have apart := (perm.map (·.time)).nodup_iff.mpr ((List.filter_sublist.map _).nodup distinct)
    exact (sorted.and (List.pairwise_map.mp apart)).imp fun both => lt_of_le_of_ne both.1 both.2
  · intro candle member mark same
    rw [marked] at same
    cases same
    simpa using (List.mem_filter.mp (perm.subset member)).2

/-- A read that settles on nothing found nothing there, or missed it twice. -/
theorem readPlanStateSettled_none {ans : EngineAnswers} {state : Option PlanState}
    (settled : readPlanStateSettled ans state = .ok none) :
    ∀ prior, state = some prior → ans.read = .missed ∧ ans.reread = .missed := by
  rintro prior rfl
  unfold readPlanStateSettled at settled
  cases first : ans.read with
  | truth =>
    rw [first] at settled
    cases settled
  | failed =>
    rw [first] at settled
    cases settled
  | missed =>
    rw [first] at settled
    cases second : ans.reread with
    | truth =>
      rw [second] at settled
      cases settled
    | failed =>
      rw [second] at settled
      cases settled
    | missed => exact ⟨rfl, rfl⟩

theorem readPlanStateSettled_some {ans : EngineAnswers} {state : Option PlanState} {prior : PlanState}
    (settled : readPlanStateSettled ans state = .ok (some prior)) : state = some prior := by
  have found : ∀ reply : ReadReply, reply.get state = .ok (some prior) → state = some prior := by
    intro reply read
    cases reply with
    | truth => exact Except.ok.inj read
    | missed => cases Except.ok.inj read
    | failed => cases read
  unfold readPlanStateSettled at settled
  split at settled
  · cases settled
  next there =>
    cases settled
    exact found _ there
  · exact found _ settled

theorem seedFirstTick_ends (env : EngineEnv) (stored : StoredPlan) (ans : EngineAnswers) (now : Int)
    (world : EngineWorld)
    (bare : ∀ prior, world.state = some prior → ans.read = .missed ∧ ans.reread = .missed ∨ prior.watermark = none) :
    TickEnds env stored ans now world (seedFirstTick stored ans now world) := by
  unfold seedFirstTick
  split
  · exact .skipped
  next candles _ =>
    split
    · exact .seeded candles bare
    · exact .skipped

theorem tickOne_ends (env : EngineEnv) (stored : StoredPlan) (ans : EngineAnswers) (now : Int)
    (world : EngineWorld) : TickEnds env stored ans now world (tickOne env stored ans now world) := by
  unfold tickOne
  split
  · exact .skipped
  split
  · exact .skipped
  next settled =>
    split
    · exact seedFirstTick_ends env stored ans now world fun prior held =>
        .inl (readPlanStateSettled_none settled prior held)
    · exact .skipped
  next prior settled =>
    have held := readPlanStateSettled_some settled
    split
    · exact .skipped
    split
    next unmarked =>
      refine seedFirstTick_ends env stored ans now world fun other same => .inr ?_
      rw [held] at same
      cases same
      exact unmarked
    next since marked =>
      split
      · exact .skipped
      next candles fetched =>
        split
        next none_ =>
          unfold tickControlsOnly
          dsimp only
          split
          · exact .silent _ held evaluateControlsOnly_done
          · exact .evaluated (.controls _ now (planStateExpiresAt now)) held (by rw [marked]; rfl)
              (fun _ => trivial) (fun done => .inl (evaluateControlsOnly_done done))
        next first rest filtered =>
          split
          · exact .skipped
          next window read =>
            refine .evaluated (.bars (first :: rest) window now (planStateExpiresAt now)) held
              (by rw [marked]; rfl) (fun distinct => ?_) (fun done => .inr ?_)
            · have fresh := filterNewCandles_fresh marked (distinct since candles fetched)
              rw [filtered] at fresh
              exact fresh
            · refine ⟨prior, held, since, marked, candles, fetched, window, ?_, ?_⟩
              · rw [filtered]
                exact read
              · rw [filtered]
                exact done

/-- What is persisted and dispatched of an evaluation. -/
inductive AdvanceEnds (stored : StoredPlan) (ans : EngineAnswers) (eval : PlanEval) (world : EngineWorld) :
    EngineWorld → Prop
  | kept (stays : stored.shadow = true ∧ ans.paper = false ∨ eval.done = false) :
      AdvanceEnds stored ans eval world { world with evaluations := world.evaluations ++ [eval] }
  | advanced {dispatched : List FiredIntent} (goesOn : eval.done = false)
      (some_ : dispatched = world.dispatched ∨ dispatched = world.dispatched ++ eval.fired) :
      AdvanceEnds stored ans eval world
        { world with state := some eval.newState, evaluations := world.evaluations ++ [eval], dispatched }
  | finished {dispatched : List FiredIntent} (state : Option PlanState) (done : eval.done = true)
      (some_ : dispatched = world.dispatched ∨ dispatched = world.dispatched ++ eval.fired) :
      AdvanceEnds stored ans eval world
        { state
          registered := world.registered && !ans.clearPlan.lands
          evaluations := world.evaluations ++ [eval]
          dispatched }

theorem advanceAndDispatch_ends (stored : StoredPlan) (ans : EngineAnswers) (eval : PlanEval)
    (world : EngineWorld) : AdvanceEnds stored ans eval world (advanceAndDispatch stored ans eval world) := by
  unfold advanceAndDispatch persistPlanState
  dsimp only
  split
  next unpapered =>
    simp only [Bool.and_eq_true, Bool.not_eq_true'] at unpapered
    exact .kept (.inl ⟨unpapered.1.1, unpapered.2⟩)
  cases done : eval.done with
  | true =>
    rw [if_pos rfl]
    dsimp only
    split
    · exact .finished _ done (.inl rfl)
    · exact .finished _ done (.inr rfl)
  | false =>
    rw [if_neg Bool.false_ne_true]
    dsimp only
    cases put : ans.put with
    | ok =>
      split
      · exact .advanced done (.inl rfl)
      · exact .advanced done (.inr rfl)
    | failed => exact .kept (.inr done)
    | lost => exact .advanced done (.inl rfl)

/-- A plan that is still evaluated, and what came of it so far: nothing, or part of what a run of the
evaluator has fired whose state is the one on record. -/
inductive EngineWorld.Live (env : EngineEnv) (stored : StoredPlan) (world : EngineWorld) : Prop
  | unseeded (bare : world.state = none) (quiet : world.dispatched = [])
  | seeded {run : PlanTurn} (evaluated : Evaluated env stored.plan run) (held : world.state = some run.state)
      (dispatched : List.Sublist world.dispatched run.fired) (goesOn : run.state.phase ≠ .done)
      (unmarked : run.state.watermark = none → world.dispatched = [])

structure EngineWorld.Sound (env : EngineEnv) (stored : StoredPlan) (world : EngineWorld) : Prop where
  dispatched : ∃ run, Evaluated env stored.plan run ∧ List.Sublist world.dispatched run.fired
  live : world.registered = true → world.Live env stored ∧ ∀ eval ∈ world.evaluations, eval.done = false
  last : ∀ earlier eval later, world.evaluations = earlier ++ eval :: later → eval.done = true → later = []

/-- A tick of the cron at the plan. -/
structure EngineTick where
  ans : EngineAnswers
  now : Int

def EngineTick.step (env : EngineEnv) (stored : StoredPlan) (world : EngineWorld) (tick : EngineTick) :
    EngineWorld :=
  tickOne env stored tick.ans tick.now world

/-- The broker's windows have each bar once, a row that is there is not missed twice, and a tick that
finishes the plan gets to clear the plan's row. -/
structure EngineTick.Settles (env : EngineEnv) (stored : StoredPlan) (world : EngineWorld) (tick : EngineTick) :
    Prop where
  bars : tick.ans.DistinctBars
  read : world.state.isSome → ¬ (tick.ans.read = .missed ∧ tick.ans.reread = .missed)
  clears : tick.ans.Finishes env stored tick.now world →
    tick.ans.clearPlan.lands = true ∧ (stored.shadow = true → tick.ans.paper = true)

section
variable {env : EngineEnv} {stored : StoredPlan} {world : EngineWorld} {tick : EngineTick}

theorem marked_carriedOver (plan : TradePlan) : CarriedOver plan fun turn => turn.state.watermark.isSome where
  stamped := fun _ _ marked => marked
  controls := fun moves marked => by
    rw [(WatchMoves.grows moves).watermark]
    exact marked
  bar := fun _ runs _ => by
    rw [runs.watermark]
    rfl

theorem seedPlanState_goesOn (plan : TradePlan) (candles : List Candle) (expiresAt : Int) :
    (seedPlanState plan candles expiresAt).phase ≠ .done := by
  obtain ⟨_, _, _, same⟩ := seedPlanState_fresh plan candles expiresAt
  rw [same]
  change initialPhase plan ≠ .done
  unfold initialPhase
  split
  · simp
  · split
    · simp
    · simp

theorem PlanTick.eval_done (planTick : PlanTick) (env : EngineEnv) (plan : TradePlan) (prior : PlanState) :
    (planTick.eval env plan prior).done = decide ((planTick.eval env plan prior).newState.phase = .done) := by
  cases planTick with
  | bars => rfl
  | controls => rfl

theorem PlanTick.Fresh.ofState {planTick : PlanTick} {run : PlanTurn}
    (fresh : planTick.Fresh { state := run.state }) : planTick.Fresh run := by
  cases planTick with
  | bars => exact fresh
  | controls => exact fresh

/-- After evaluations that all went on, only the next can have been the end. -/
theorem last_of_goneOn {evaluations : List PlanEval} (goneOn : ∀ eval ∈ evaluations, eval.done = false)
    (eval : PlanEval) : ∀ earlier other later, evaluations ++ [eval] = earlier ++ other :: later →
      other.done = true → later = [] := by
  intro earlier other later split_ done
  rcases List.eq_nil_or_concat later with none_ | ⟨most, final, rfl⟩
  · exact none_
  · have same : evaluations ++ [eval] = (earlier ++ other :: most) ++ [final] := by
      rw [split_, List.concat_eq_append, List.append_assoc, List.cons_append]
    have before := (List.append_inj' same rfl).1
    rw [goneOn other (by rw [before]; simp)] at done
    cases done

theorem EngineWorld.Sound.step (sound : world.Sound env stored) (settles : tick.Settles env stored world) :
    (tick.step env stored world).Sound env stored := by
  unfold EngineTick.step
  cases listed : world.registered with
  | false =>
    have same : tickOne env stored tick.ans tick.now world = world := by
      unfold tickOne
      rw [listed, Bool.not_false, Bool.or_true, if_pos rfl]
    rw [same]
    exact sound
  | true =>
    obtain ⟨live, goneOn⟩ := sound.live listed
    have ends := tickOne_ends env stored tick.ans tick.now world
    generalize tickOne env stored tick.ans tick.now world = after at ends
    cases ends with
    | skipped => exact sound
    | seeded candles bare =>
      have quiet : world.dispatched = [] := by
        cases live with
        | unseeded _ quiet => exact quiet
        | @seeded run _ held _ _ unmarked =>
          rcases bare run.state held with missed | none_
          · exact absurd missed (settles.read (by rw [held]; rfl))
          · exact unmarked none_
      refine ⟨sound.dispatched, fun _ => ⟨?_, goneOn⟩, sound.last⟩
      have seed : Evaluated env stored.plan
          { state := seedPlanState stored.plan candles (planStateExpiresAt tick.now) } :=
        ⟨candles, planStateExpiresAt tick.now, .start⟩
      refine .seeded seed rfl ?_ (seedPlanState_goesOn _ _ _) fun _ => quiet
      dsimp only
      rw [quiet]
    | @silent prior eval held goesOn =>
      cases live with
      | unseeded bare =>
        rw [held] at bare
        cases bare
      | @seeded run evaluated holds dispatched going unmarked =>
        rw [held] at holds
        cases holds
        have open_ : eval.done = false := Bool.eq_false_iff.mpr fun done => going (goesOn done)
        refine ⟨sound.dispatched, fun _ => ⟨.seeded evaluated held dispatched going unmarked, ?_⟩,
          last_of_goneOn goneOn eval⟩
        intro other member
        rcases List.mem_append.mp member with earlier | new
        · exact goneOn other earlier
        · rw [List.mem_singleton.mp new]
          exact open_
    | @evaluated prior planTick held marked fresh finishes =>
      cases live with
      | unseeded bare =>
        rw [held] at bare
        cases bare
      | @seeded run evaluated holds dispatched going unmarked =>
        rw [held] at holds
        cases holds
        have freshRun := (fresh settles.bars).ofState
        have onwards : Evaluated env stored.plan (run.tick env stored.plan planTick) := by
          obtain ⟨candles, expiresAt, reach⟩ := evaluated
          exact ⟨candles, expiresAt, .next reach freshRun⟩
        have marked' : (run.tick env stored.plan planTick).state.watermark.isSome :=
          PlanTurn.tick_carriedOver (marked_carriedOver stored.plan) freshRun marked
        have done_iff := planTick.eval_done env stored.plan run.state
        have clears : (planTick.eval env stored.plan run.state).done = true →
            tick.ans.clearPlan.lands = true ∧ (stored.shadow = true → tick.ans.paper = true) :=
          fun done => settles.clears ((finishes done).resolve_left going)
        have more : ∀ {dispatched' : List FiredIntent},
            dispatched' = world.dispatched ∨
              dispatched' = world.dispatched ++ (planTick.eval env stored.plan run.state).fired →
            List.Sublist dispatched' (run.tick env stored.plan planTick).fired := by
          rintro dispatched' (rfl | rfl)
          · exact dispatched.trans (List.sublist_append_left ..)
          · exact dispatched.append (List.Sublist.refl _)
        have ends := advanceAndDispatch_ends stored tick.ans (planTick.eval env stored.plan run.state) world
        have last := last_of_goneOn goneOn (planTick.eval env stored.plan run.state)
        have open_ : (planTick.eval env stored.plan run.state).done = false →
            ∀ other ∈ world.evaluations ++ [planTick.eval env stored.plan run.state], other.done = false := by
          intro goesOn other member
          rcases List.mem_append.mp member with earlier | new
          · exact goneOn other earlier
          · rw [List.mem_singleton.mp new]
            exact goesOn
        generalize advanceAndDispatch stored tick.ans (planTick.eval env stored.plan run.state) world = after
          at ends ⊢
        cases ends with
        | kept stays =>
          have goesOn : (planTick.eval env stored.plan run.state).done = false := by
            rcases stays with ⟨shadow, unpapered⟩ | goesOn
            · refine Bool.eq_false_iff.mpr fun done => ?_
              rw [(clears done).2 shadow] at unpapered
              cases unpapered
            · exact goesOn
          exact ⟨sound.dispatched, fun _ => ⟨.seeded evaluated held dispatched going unmarked, open_ goesOn⟩, last⟩
        | advanced goesOn some_ =>
          refine ⟨⟨_, onwards, more some_⟩, fun _ => ⟨.seeded onwards rfl (more some_) ?_ ?_, open_ goesOn⟩, last⟩
          · rw [goesOn] at done_iff
            exact of_decide_eq_false done_iff.symm
          · intro none_
            rw [none_] at marked'
            cases marked'
        | finished state done some_ =>
          refine ⟨⟨_, onwards, more some_⟩, fun still => ?_, last⟩
          dsimp only at still
          rw [(clears done).1, Bool.not_true, Bool.and_false] at still
          cases still

theorem EngineWorld.Sound.start (env : EngineEnv) (stored : StoredPlan) : ({} : EngineWorld).Sound env stored where
  dispatched := ⟨_, ⟨[], 0, .start⟩, List.Sublist.refl _⟩
  live := fun _ => ⟨.unseeded rfl rfl, by simp⟩
  last := fun earlier eval later none_ => by simp at none_

theorem Evaluated.firedOnce {run : PlanTurn} (evaluated : Evaluated env stored.plan run)
    (roles : stored.plan.WellRoled) : FiredOnce stored.plan run := by
  obtain ⟨candles, expiresAt, reach⟩ := evaluated
  exact reach.invariant (FiredOnce.start _ _) fun _ _ once fresh => once.tick roles fresh

/-- However the store's reads and writes fail, where a finished plan's row is cleared and a state that
is there is not missed twice: what is dispatched is part of what one run of the evaluator fires, no
plan is evaluated after the evaluation that finished it and, in a plan whose rules keep their own ids
and whose enters have no other role, no rule is dispatched twice on a bar nor an enter that the
engine latches twice at all. -/
theorem engineTicks_dispatchOnce (env : EngineEnv) (stored : StoredPlan) (world : EngineWorld)
    (reach : GuardedReach (EngineTick.step env stored) (fun world tick => tick.Settles env stored world) {} world) :
    (∃ run, Evaluated env stored.plan run ∧ List.Sublist world.dispatched run.fired) ∧
    (∀ earlier eval later, world.evaluations = earlier ++ eval :: later → eval.done = true → later = []) ∧
    (stored.plan.WellRoled →
      (∀ ruleId bar, pairsOf ruleId bar world.dispatched ≤ 1) ∧
      ∀ rule ∈ stored.plan.rules, isEnter rule = true → SingleShot rule → firesOf rule world.dispatched ≤ 1) := by
  have sound := reach.invariant (EngineWorld.Sound.start env stored) fun _ _ sound settles => sound.step settles
  refine ⟨sound.dispatched, sound.last, fun roles => ?_⟩
  obtain ⟨run, evaluated, part⟩ := sound.dispatched
  have once := evaluated.firedOnce roles
  refine ⟨fun ruleId bar => ?_, fun rule member enters single => ?_⟩
  · exact part.countP_le.trans (once.pairsOf_le ruleId bar)
  · exact part.countP_le.trans (once.latched rule member enters single).1

end

/-- An enter that the engine latches, at one price. -/
def enterPlan : StoredPlan where
  plan := hourlyPlan [touchRule "enter" .enter .enter]

/-- The first tick seeds the plan on a bar. -/
def cronSeed : EngineTick where
  ans := { candles := fun _ => some [], seedCandles := some [hourBar 0] }
  now := seconds 3660

/-- A later tick finds the bars that have closed since. -/
def cronBar (hour : Int) (bars : List Candle) (clearState clearPlan : WriteReply) : EngineTick where
  ans := { candles := fun _ => some bars, seedCandles := some [hourBar 1], clearState, clearPlan }
  now := seconds (3600 * hour + 60)

def ticked (ticks : List EngineTick) : EngineWorld := ticks.foldl (EngineTick.step calmEngine enterPlan) {}

theorem enterPlan_wellRoled : enterPlan.plan.WellRoled :=
  ⟨by decide +kernel, by decide +kernel⟩

theorem cronSeed_settles : cronSeed.Settles calmEngine enterPlan {} where
  bars := by
    intro since candles listed
    cases Option.mem_some.mp listed
    simp
  read := by simp
  clears := by
    rintro ⟨prior, none_, _⟩
    cases none_

theorem cronBar_settles (bar : Candle) (world : EngineWorld) :
    (cronBar 2 [bar] .ok .ok).Settles calmEngine enterPlan world where
  bars := by
    intro since candles listed
    cases Option.mem_some.mp listed
    simp
  read := fun _ missed => nomatch missed.1
  clears := fun _ => ⟨rfl, fun shadow => nomatch shadow⟩

/-- The enter fires on the bar after the seed and is dispatched once. -/
theorem engineTicks_dispatchOnce_enter :
    pairsOf "enter" (seconds 3600) (ticked [cronSeed, cronBar 2 [hourBar 1] .ok .ok]).dispatched = 1 ∧
      firesOf (touchRule "enter" .enter .enter)
        (ticked [cronSeed, cronBar 2 [hourBar 1] .ok .ok]).dispatched ≤ 1 := by
  have seeded : GuardedReach (EngineTick.step calmEngine enterPlan)
      (fun world tick => tick.Settles calmEngine enterPlan world) {} (ticked [cronSeed]) :=
    .next .start cronSeed_settles
  have reach : GuardedReach (EngineTick.step calmEngine enterPlan)
      (fun world tick => tick.Settles calmEngine enterPlan world) {}
      (ticked [cronSeed, cronBar 2 [hourBar 1] .ok .ok]) :=
    .next seeded (cronBar_settles (hourBar 1) _)
  have counts := (engineTicks_dispatchOnce calmEngine enterPlan _ reach).2.2 enterPlan_wellRoled
  refine ⟨le_antisymm (counts.1 "enter" (seconds 3600)) ?_, ?_⟩
  · decide +kernel
  · exact counts.2 (touchRule "enter" .enter .enter) (List.mem_singleton_self _) rfl ⟨rfl, rfl⟩

/-- With the plan's row left behind the enter is dispatched twice: on the same bar, where its state is
left too, and on a later one, where it is seeded again. -/
theorem engineTicks_dispatchAgain :
    let bothLeft := cronBar 2 [hourBar 1] .failed .failed
    let planLeft := cronBar 2 [hourBar 1] .ok .failed
    let later := cronBar 3 [hourBar 2] .ok .ok
    pairsOf "enter" (seconds 3600) (ticked [cronSeed, bothLeft, bothLeft]).dispatched = 2 ∧
      firesOf (touchRule "enter" .enter .enter) (ticked [cronSeed, planLeft, later, later]).dispatched = 2 := by
  decide +kernel

end TradeControl
