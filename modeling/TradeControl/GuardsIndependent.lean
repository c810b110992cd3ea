import TradeControl.CloseRuns
import TradeControl.SafeRuns

namespace TradeControl

open Foundation Relation

variable (env : EngineEnv) (plan : TradePlan) (candle : Candle) (window : List Candle)

/-- What happens to a plan between two looks: a bar, a look at the clock, a new expiry. -/
inductive PlanEvent
  | bar (window : List Candle) (now : Int) (candle : Candle)
  | controls (lastCandle : Candle) (now : Int)
  | stamped (expiresAt : Int)

def PlanTurn.take (turn : PlanTurn) : PlanEvent → PlanTurn
  | .bar window now candle => evaluateBar env plan window now turn candle
  | .controls lastCandle now => evaluateControls env plan lastCandle [lastCandle] now turn
  | .stamped expiresAt => { turn with state := { turn.state with expiresAt } }

/-- A bar's turn as its guards find it. -/
def PlanTurn.atGuards (turn : PlanTurn) (now : Int) (candle : Candle) : PlanTurn :=
  evaluateControls env plan candle window (controlClockFor candle plan.granularity now) turn

theorem evaluateControls_spine (now : Int) (turn : PlanTurn) :
    (evaluateControls env plan candle window now turn).state.phase = turn.state.phase ∧
      (evaluateControls env plan candle window now turn).state.entriesBlocked = turn.state.entriesBlocked := by
  have moves : ReflTransGen (WatchMove plan candle false) { turn }
      { turn := evaluateControls env plan candle window now turn } :=
    evaluateControls_moves env plan candle window now turn
  refine moves_within (fun before after : GuardScan =>
    after.turn.state.phase = before.turn.state.phase ∧
      after.turn.state.entriesBlocked = before.turn.state.entriesBlocked)
    (fun _ => ⟨rfl, rfl⟩) ?_ ?_ moves
  · rintro first second third ⟨phase, blocked⟩ ⟨phase', blocked'⟩
    exact ⟨phase'.trans phase, blocked'.trans blocked⟩
  · intro before after move
    cases move with
    | remembered memory =>
      obtain ⟨originOpen, lastClose, rfl⟩ := memory
      exact ⟨rfl, rfl⟩
    | control => exact ⟨rfl, rfl⟩
    | guard _ looked => cases looked
    | retired looked => cases looked

/-- A bar's guards block no entries before the entry phase. -/
def Calm (turn : PlanTurn) : PlanEvent → Prop
  | .bar window now candle =>
    turn.state.phase = .awaitEntry ∨ ¬BlockerFires env plan candle window
      (DetectorConfig.pineDefaults plan.granularity) (turn.atGuards env plan window now candle).state
  | _ => True

/-- A bar's guards close a position. -/
def ClosesOn (turn : PlanTurn) (window : List Candle) (now : Int) (candle : Candle) : Prop :=
  Closes plan (turn.atGuards env plan window now candle).state
    (evaluateGuards env plan candle window (DetectorConfig.pineDefaults plan.granularity)
      (turn.atGuards env plan window now candle)).state

variable {env plan}

/-- Outside the entry phase a calm event blocks no entries, and closes nothing unless they were blocked. -/
theorem Calm.quiet (ids : (plan.rules.map (·.ruleId)).Nodup) {turn : PlanTurn} {event : PlanEvent}
    (calm : Calm env plan turn event) (early : turn.state.phase ≠ .awaitEntry)
    (unblocked : turn.state.entriesBlocked = false) :
    (turn.take env plan event).state.entriesBlocked = false ∧
      ∀ window now candle, event = .bar window now candle → ¬ClosesOn env plan turn window now candle := by
  cases event with
  | stamped expiresAt => exact ⟨unblocked, fun _ _ _ other => by cases other⟩
  | controls lastCandle now =>
    refine ⟨?_, fun _ _ _ other => by cases other⟩
    exact (evaluateControls_spine env plan lastCandle [lastCandle] now turn).2.trans unblocked
  | bar window now candle =>
    obtain ⟨phase, blocked⟩ := evaluateControls_spine env plan candle window
      (controlClockFor candle plan.granularity now) turn
    have early' : (turn.atGuards env plan window now candle).state.phase ≠ .awaitEntry := by
      rw [PlanTurn.atGuards, phase]
      exact early
    obtain ⟨still, closes⟩ := evaluateGuards_quiet env plan candle window
      (DetectorConfig.pineDefaults plan.granularity) ids early' (blocked.trans unblocked)
      (calm.resolve_left early)
    refine ⟨(evaluateBar_blocked env plan candle window now turn).trans still, ?_⟩
    intro window' now' candle' same
    cases same
    exact closes

/-- In a calm run a per-position close fires only once the spine has reached the entry phase. -/
theorem closesOn_reached (ids : (plan.rules.map (·.ruleId)).Nodup) {before : List PlanEvent}
    {start : PlanTurn} {window : List Candle} {now : Int} {candle : Candle}
    (unblocked : start.state.entriesBlocked = false)
    (calm : Along (PlanTurn.take env plan) (Calm env plan) start (before ++ [.bar window now candle]))
    (closes : ClosesOn env plan (before.foldl (PlanTurn.take env plan) start) window now candle) :
    ∃ reached, reached <+: before ∧
      (reached.foldl (PlanTurn.take env plan) start).state.phase = .awaitEntry := by
  induction before generalizing start with
  | nil =>
    by_contra never
    have early : start.state.phase ≠ .awaitEntry := fun entry => never ⟨[], List.prefix_rfl, entry⟩
    exact (calm.1.quiet ids early unblocked).2 window now candle rfl closes
  | cons event rest ih =>
    by_cases entry : start.state.phase = .awaitEntry
    · exact ⟨[], List.nil_prefix, entry⟩
    · have still := (calm.1.quiet ids entry unblocked).1
      obtain ⟨reached, earlier, entry'⟩ := ih still calm.2 closes
      exact ⟨event :: reached, (List.prefix_cons_inj event).mpr earlier, entry'⟩

variable (env plan)

/-- The guards of a bar are independent of the rules' order exactly where the order arms no close;
and in every run from the seed whose bars block no entries before the entry phase, a per-position
close fires only after the spine has reached it. -/
theorem guards_independent (ids : (plan.rules.map (·.ruleId)).Nodup) :
    (∀ candle window cfg turn, OrderFree env plan candle window cfg turn ↔
      ¬ArmedByOrder env plan candle window cfg turn.state) ∧
    ∀ candles expiresAt (before : List PlanEvent) window now candle,
      Along (PlanTurn.take env plan) (Calm env plan) (plan.seeded candles expiresAt)
        (before ++ [.bar window now candle]) →
      ClosesOn env plan (before.foldl (PlanTurn.take env plan) (plan.seeded candles expiresAt)) window now
        candle →
      ∃ reached, reached <+: before ∧
        (reached.foldl (PlanTurn.take env plan) (plan.seeded candles expiresAt)).state.phase =
          .awaitEntry := by
  refine ⟨fun candle window cfg turn => orderFree_iff env plan candle window cfg ids turn, ?_⟩
  intro candles expiresAt before window now candle calm closes
  refine closesOn_reached ids ?_ calm closes
  obtain ⟨watermark, origin, close, same⟩ := seedPlanState_fresh plan candles expiresAt
  rw [TradePlan.seeded, same]
  rfl

/-- A break, an invalidation that stops the next entry and a close, all at one price. -/
def stopAndClosePlan : TradePlan :=
  hourlyPlan [touchRule "break" .prepBreakAndClose .prep, touchRule "stop" .setupInvalidation .veto,
    touchRule "close" .perPositionClose .close]

theorem guards_independent_stopAndClose :
    OrderFree calmEngine stopAndClosePlan (hourBar 1) [hourBar 0, hourBar 1] (DetectorConfig.pineDefaults .h1)
        (stopAndClosePlan.seeded [hourBar 0] (seconds 72000)) ↔
      ¬ArmedByOrder calmEngine stopAndClosePlan (hourBar 1) [hourBar 0, hourBar 1]
        (DetectorConfig.pineDefaults .h1) (stopAndClosePlan.seeded [hourBar 0] (seconds 72000)).state :=
  (guards_independent calmEngine stopAndClosePlan (by decide)).1 ..

/-- While the break is awaited the close fires on the invalidation's bar, if it is listed after it. -/
theorem closes_byOrder :
    (stopAndClosePlan.seeded [hourBar 0] (seconds 72000)).state.phase = .awaitBreakAndClose ∧
      ¬OrderFree calmEngine stopAndClosePlan (hourBar 1) [hourBar 0, hourBar 1] (DetectorConfig.pineDefaults .h1)
        (stopAndClosePlan.seeded [hourBar 0] (seconds 72000)) ∧
      ClosesOn calmEngine stopAndClosePlan (stopAndClosePlan.seeded [hourBar 0] (seconds 72000))
        [hourBar 0, hourBar 1] (seconds 7200) (hourBar 1) := by
  refine ⟨by decide +kernel, fun free => ?_, ?_⟩
  · have swapped := (free [touchRule "break" .prepBreakAndClose .prep, touchRule "close" .perPositionClose .close,
      touchRule "stop" .setupInvalidation .veto] (.cons _ (.swap ..))).1
    have fired := congrArg (fun state : PlanState => decide ("close" ∈ state.fired)) swapped
    revert fired
    decide +kernel
  · refine ⟨touchRule "close" .perPositionClose .close, by simp [stopAndClosePlan, hourlyPlan], ?_⟩
    decide +kernel

end TradeControl
