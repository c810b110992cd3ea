import TradeControl.PlanRuns

namespace TradeControl

open Foundation Relation

/-- A bar's coming to an enter, with the turn it is asked in. -/
structure EntryAsk where
  candle : Candle
  window : List Candle
  rule : ConditionRule
  turn : PlanTurn

section
variable (env : EngineEnv) (plan : TradePlan)

/-- What the enter is asked, and what comes of it. -/
def EntryAsk.answer (ask : EntryAsk) : PlanTurn :=
  evaluateOneEntry env plan ask.candle ask.window (DetectorConfig.pineDefaults plan.granularity)
    ask.rule ask.turn

/-- The enters that the loop over their ids asks. -/
def entriesAsked (candle : Candle) (window : List Candle) : List String → PlanTurn → List EntryAsk
  | [], _ => []
  | ruleId :: rest, turn =>
    if ruleId ∈ turn.state.fired then entriesAsked candle window rest turn
    else match plan.rules.find? fun rule => rule.ruleId = ruleId with
      | none => entriesAsked candle window rest turn
      | some rule =>
        let ask : EntryAsk := { candle, window, rule, turn }
        let after := ask.answer env plan
        ask :: if after.state.phase = .done then [] else entriesAsked candle window rest after

def spineAsked (candle : Candle) (window : List Candle) (turn : PlanTurn) : List EntryAsk :=
  match turn.state.phase with
  | .awaitEntry =>
    let turn := if isMultiEnter plan then evaluateBreakAndClose env plan candle window turn else turn
    entriesAsked env plan candle window (enterRuleIds plan)
      (stampPullback env plan candle window (stampRetest env plan candle window turn))
  | _ => []

/-- The enters a candle asks, once its watch has left the plan open to entries. -/
def barAsked (window : List Candle) (now : Int) (turn : PlanTurn) (candle : Candle) : List EntryAsk :=
  let turn := evaluateWatch env plan candle window (DetectorConfig.pineDefaults plan.granularity) now turn
  if turn.state.phase = .done ∨ turn.state.entriesBlocked then []
  else
    spineAsked env plan candle window
      { turn with
        fired := turn.fired ++ (maAlignmentControl plan turn.state candle window).toList
        state := stampMaTouch env plan candle window (stampRetrace env plan candle window turn.state) }

def barsAsked (window : List Candle) (now : Int) : List Candle → PlanTurn → List EntryAsk
  | [], _ => []
  | candle :: rest, turn =>
    let after := evaluateBar env plan window now turn candle
    barAsked env plan window now turn candle ++
      if after.state.phase = .done then [] else barsAsked window now rest after

/-- Every enter that a tick asks, in order. -/
def PlanTick.asked (run : PlanTurn) : PlanTick → List EntryAsk
  | .bars newCandles window now expiresAt =>
    barsAsked env plan window now newCandles { run with state := { run.state with expiresAt } }
  | .controls _ _ _ => []

end

section
variable {env : EngineEnv} {plan : TradePlan} {candle : Candle} {window : List Candle} {started : Phase}

theorem SpineMoves.fired_extends {before after : PlanTurn}
    (moves : ReflTransGen (SpineMove plan candle started) before after) : before.fired <+: after.fired :=
  moves_within (fun before after : PlanTurn => before.fired <+: after.fired)
    (fun turn => List.prefix_refl turn.fired) (fun one two => one.trans two)
    (fun before after move => by
      cases move with
      | remembered => exact List.prefix_refl _
      | prepared => exact List.prefix_refl _
      | unbroken => exact List.prefix_refl _
      | broke => exact List.prefix_append _ _
      | retested => exact List.prefix_append _ _
      | pulledBack => exact List.prefix_append _ _
      | declined => exact List.prefix_refl _
      | entered => exact List.prefix_append _ _) moves

theorem WatchMoves.fired_extends {guards : Bool} {before after : GuardScan}
    (moves : ReflTransGen (WatchMove plan candle guards) before after) :
    before.turn.fired <+: after.turn.fired :=
  moves_within (fun before after : GuardScan => before.turn.fired <+: after.turn.fired)
    (fun scan => List.prefix_refl scan.turn.fired) (fun one two => one.trans two)
    (fun before after move => by
      cases move with
      | remembered => exact List.prefix_refl _
      | control => exact List.prefix_append _ _
      | guard => exact List.prefix_append _ _
      | retired => exact List.prefix_refl _) moves

theorem BarRuns.fired_extends {turn after : PlanTurn} (runs : BarRuns plan candle turn after) :
    turn.fired <+: after.fired := by
  cases runs with
  | idle watch => exact (WatchMoves.fired_extends watch).trans (List.prefix_append _ _)
  | advanced watch aligned alive unblocked spine =>
    have spun := SpineMoves.fired_extends spine
    exact ((WatchMoves.fired_extends watch).trans (List.prefix_append _ _)).trans spun

theorem evaluateBars_fired_extends (now : Int) (candles : List Candle) (turn : PlanTurn) :
    turn.fired <+: (evaluateBars env plan window now candles turn).fired := by
  induction candles generalizing turn with
  | nil => exact List.prefix_refl _
  | cons candle rest ih =>
    have first := (evaluateBar_runs env plan window now turn candle).fired_extends
    unfold evaluateBars
    dsimp only
    split
    · exact first
    · exact first.trans (ih _)

/-- What an asked enter fires is among what the loop over the enters fires. -/
theorem entriesAsked_fired {ruleIds : List String} (named : ∀ ruleId ∈ ruleIds, ruleId ∈ enterRuleIds plan)
    {turn : PlanTurn} {ask : EntryAsk} (asked : ask ∈ entriesAsked env plan candle window ruleIds turn) :
    (ask.answer env plan).fired <+: (evaluateEntries env plan candle window
      (DetectorConfig.pineDefaults plan.granularity) ruleIds turn).fired := by
  induction ruleIds generalizing turn with
  | nil => cases asked
  | cons ruleId rest ih =>
    have later : ∀ ruleId ∈ rest, ruleId ∈ enterRuleIds plan := fun ruleId member =>
      named ruleId (by simp [member])
    unfold entriesAsked at asked
    unfold evaluateEntries
    split
    next latched =>
      rw [if_pos latched] at asked
      exact ih later asked
    next unlatched =>
      rw [if_neg unlatched] at asked
      cases found : plan.rules.find? fun rule => rule.ruleId = ruleId with
      | none =>
        rw [found] at asked
        exact ih later asked
      | some rule =>
        rw [found] at asked
        dsimp only at asked ⊢
        have answered : evaluateOneEntry env plan candle window
            (DetectorConfig.pineDefaults plan.granularity) rule turn =
              ({ candle, window, rule, turn } : EntryAsk).answer env plan := rfl
        rw [answered]
        rcases List.mem_cons.mp asked with rfl | further
        · split
          · exact List.prefix_refl _
          · have moves := evaluateEntries_moves env plan candle window
              (DetectorConfig.pineDefaults plan.granularity) rfl rest later
              (EntryAsk.answer env plan { candle, window, rule, turn })
            exact SpineMoves.fired_extends moves
        · split at further
          · cases further
          next open_ =>
            rw [if_neg open_]
            exact ih later further

theorem barAsked_fired {now : Int} {turn : PlanTurn} {ask : EntryAsk}
    (asked : ask ∈ barAsked env plan window now turn candle) :
    (ask.answer env plan).fired <+: (evaluateBar env plan window now turn candle).fired := by
  unfold barAsked at asked
  unfold evaluateBar
  dsimp only at asked ⊢
  generalize evaluateWatch env plan candle window (DetectorConfig.pineDefaults plan.granularity)
    now turn = watched at asked ⊢
  split at asked
  · cases asked
  next open_ =>
    rw [if_neg fun done => open_ (.inl done), if_neg fun blocked => open_ (.inr blocked)]
    unfold spineAsked at asked
    unfold evaluateSpine
    split at asked
    next entry =>
      rw [entry]
      exact entriesAsked_fired (fun _ named => named) asked
    next => cases asked

theorem barsAsked_fired {now : Int} {candles : List Candle} {turn : PlanTurn} {ask : EntryAsk}
    (asked : ask ∈ barsAsked env plan window now candles turn) :
    (ask.answer env plan).fired <+: (evaluateBars env plan window now candles turn).fired := by
  induction candles generalizing turn with
  | nil => cases asked
  | cons candle rest ih =>
    unfold barsAsked at asked
    unfold evaluateBars
    dsimp only at asked ⊢
    rcases List.mem_append.mp asked with now_ | later
    · have fired := barAsked_fired now_
      split
      · exact fired
      · exact fired.trans (evaluateBars_fired_extends now rest _)
    · split at later
      · cases later
      next open_ =>
        rw [if_neg open_]
        exact ih later

/-- What an asked enter fires is among what its tick fires. -/
theorem PlanTick.asked_fired {run : PlanTurn} {tick : PlanTick} {ask : EntryAsk}
    (asked : ask ∈ tick.asked env plan run) :
    (ask.answer env plan).fired <+: (run.tick env plan tick).fired := by
  cases tick with
  | bars newCandles window now expiresAt =>
    rw [PlanTurn.tick_bars]
    exact barsAsked_fired asked
  | controls => cases asked

end

end TradeControl
