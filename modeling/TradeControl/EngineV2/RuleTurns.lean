import TradeControl.EngineV2.Driver
import TradeControl.Foundation.Turns

namespace TradeControl.EngineV2

variable (env : EngineEnv) (name : String) (rule : PlanRule) (w : World)

/-- A break is stamped, if at all, with the bar's time, while there is no break yet. -/
theorem breakAndCloseTick_shape :
    breakAndCloseTick env name rule w = [] ∨
      w.facts.isSetNamed name breakCloseName = false ∧ ∃ candle, w.current = some candle ∧
        (breakAndCloseTick env name rule w = rule.recordLastClose candle ∨
          breakAndCloseTick env name rule w =
            rule.recordLastClose candle ++
              [.writeFact name breakCloseName (.atTime candle.time), .fire (firedIntent rule candle)]) := by
  unfold breakAndCloseTick
  by_cases broken : w.facts.isSetNamed name breakCloseName
  · exact .inl (if_pos broken)
  · rw [if_neg broken]
    split
    · rename_i candle line current found
      refine .inr ⟨by simpa using broken, candle, current, ?_⟩
      dsimp only
      split
      · exact .inr rfl
      · exact .inl rfl
    · exact .inl rfl

/-- A retest is stamped with the time of a bar strictly after the break's. -/
theorem retestTick_shape :
    retestTick env name rule w = [] ∨
      w.facts.isSetNamed name retestName = false ∧ ∃ breakAt candle,
        w.facts.atNamed name breakCloseName = some breakAt ∧ w.current = some candle ∧
        breakAt < candle.time ∧
        (retestTick env name rule w = rule.recordLastClose candle ∨
          retestTick env name rule w =
            rule.recordLastClose candle ++ [.writeFact name retestName (.atTime candle.time)]) := by
  unfold retestTick
  by_cases tested : w.facts.isSetNamed name retestName
  · exact .inl (if_pos tested)
  · rw [if_neg tested]
    split
    · rename_i breakAt candle line broken current found
      by_cases early : candle.time ≤ breakAt
      · exact .inl (if_pos early)
      · rw [if_neg early]
        refine .inr ⟨by simpa using tested, breakAt, candle, broken, current, not_le.mp early, ?_⟩
        dsimp only
        split
        · exact .inl rfl
        · split
          · exact .inr rfl
          · exact .inl rfl
    · exact .inl rfl

theorem invalidateTick_shape :
    invalidateTick env name rule w = [] ∨
      w.facts.isSetNamed planScope invalidatedName = false ∧ ∃ candle, w.current = some candle ∧
        (invalidateTick env name rule w = rule.recordLastClose candle ∨
          invalidateTick env name rule w = rule.recordLastClose candle ++ [.invalidate rule.id]) := by
  unfold invalidateTick
  by_cases retired : w.facts.isSetNamed planScope invalidatedName
  · exact .inl (if_pos retired)
  · rw [if_neg retired]
    split
    · rename_i candle level current found
      refine .inr ⟨by simpa using retired, candle, current, ?_⟩
      dsimp only
      split
      · exact .inr rfl
      · exact .inl rfl
    · exact .inl rfl

theorem expiryTick_shape :
    expiryTick name rule w = [] ∨
      w.facts.isSetNamed planScope invalidatedName = false ∧
        expiryTick name rule w = [.invalidate rule.id] := by
  unfold expiryTick
  by_cases retired : w.facts.isSetNamed planScope invalidatedName
  · exact .inl (if_pos retired)
  · rw [if_neg retired]
    split
    · split
      · exact .inr ⟨by simpa using retired, rfl⟩
      · exact .inl rfl
    · exact .inl rfl

theorem pauseTick_shape :
    pauseTick w = [] ∨ ∃ on, pauseTick w = [.writeFact planScope pausedName (.flag on)] := by
  unfold pauseTick
  dsimp only
  split
  · exact .inl rfl
  · exact .inr ⟨_, rfl⟩

/-- An entry is asked for past every guard: not invalidated, not paused, every prep in order. -/
theorem enterTick_shape :
    enterTick rule w = [] ∨
      w.facts.isSetNamed planScope invalidatedName = false ∧
        w.facts.flagNamed planScope pausedName ≠ some true ∧ rule.prepsSatisfied w.facts = true ∧
        ∃ candle, w.current = some candle ∧
          enterTick rule w = [.placeOrder (firedIntent rule candle) rule.mechanism none candle.c] := by
  unfold enterTick
  by_cases settled : w.facts.isSetNamed rule.id entryOutcomeName
  · exact .inl (if_pos settled)
  by_cases retired : w.facts.isSetNamed planScope invalidatedName
  · exact .inl (by rw [if_neg settled, if_pos retired])
  by_cases paused : w.facts.flagNamed planScope pausedName = some true
  · exact .inl (by rw [if_neg settled, if_neg retired, if_pos paused])
  rw [if_neg settled, if_neg retired, if_neg paused]
  cases current : w.current with
  | none => exact .inl rfl
  | some candle =>
    dsimp only
    by_cases preps : rule.prepsSatisfied w.facts
    · exact .inr ⟨by simpa using retired, paused, preps, candle, rfl, by simp [preps]⟩
    · exact .inl (by simp [preps])

end TradeControl.EngineV2

namespace TradeControl.EngineV2

open Foundation

/-- The entry an effect writes on the blackboard. -/
def Effect.factKey : Effect → Option (String × String)
  | .writeFact line kind _ => some (line, kind)
  | .invalidate _ => some (planScope, invalidatedName)
  | _ => none

def Effect.writes (key : String × String) (effect : Effect) : Bool := effect.factKey == some key

/-- One effect on the blackboard. -/
def Facts.write (now : Int) (facts : Facts) : Effect → Facts
  | .writeFact line kind value => facts.setNamed line kind value
  | .writeScratch ruleId kind value => facts.setScratchNamed ruleId kind value
  | .invalidate _ => facts.setNamed planScope invalidatedName (.atTime now)
  | .fire _ | .placeOrder _ _ _ _ => facts

/-- What the driver hands back to its caller. -/
def Effect.returned (latestBar : Bool) : Effect → Bool
  | .fire _ | .invalidate _ => true
  | .placeOrder _ _ _ _ => latestBar
  | .writeFact _ _ _ | .writeScratch _ _ _ => false

theorem apply_eq (facts : Facts) (fires : List Effect) (latestBar : Bool) (now : Int)
    (effects : List Effect) :
    apply facts fires latestBar now effects =
      (effects.foldl (Facts.write now) facts, fires ++ effects.filter (Effect.returned latestBar)) := by
  induction effects generalizing facts fires with
  | nil => simp [apply]
  | cons effect rest ih =>
    cases effect <;> simp only [apply, ih, List.foldl_cons, Facts.write]
    case placeOrder => cases latestBar <;> simp [Effect.returned, List.filter_cons]
    all_goals simp [Effect.returned, List.filter_cons]

theorem Facts.write_entries_of_ne (now : Int) (facts : Facts) {effect : Effect} {key : String × String}
    (other : effect.factKey ≠ some key) : (facts.write now effect).entries key = facts.entries key := by
  cases effect with
  | writeFact line kind value => exact Function.update_of_ne (fun same => other (congrArg some same.symm)) _ _
  | invalidate ruleId => exact Function.update_of_ne (fun same => other (congrArg some same.symm)) _ _
  | fire | writeScratch | placeOrder => rfl

/-- The bar of a call, without its flag. -/
def BarTick.bar (tick : BarTick) : List Candle × Int := (tick.window, tick.now)

/-- The plan's rules taking turns on the blackboard, bar by bar. -/
def ruleTurns (env : EngineEnv) (plan : TradePlan) :
    Turns ((List Candle × Int) × PlanRule) Facts Effect where
  emit turn facts := tickRule env turn.2 { now := turn.1.2, window := turn.1.1, facts, plan }
  write turn facts effect := facts.write turn.1.2 effect

/-- The turns of a bar, in the plan's order; an empty window has none. -/
def TradePlan.turnsOn (plan : TradePlan) (bar : List Candle × Int) : List ((List Candle × Int) × PlanRule) :=
  if bar.1.isEmpty then [] else plan.rules.map fun rule => (bar, rule)

def TradePlan.turnsOf (plan : TradePlan) (ticks : List BarTick) : List ((List Candle × Int) × PlanRule) :=
  (ticks.map BarTick.bar).flatMap plan.turnsOn

/-- Every effect of a bar's rules, as the driver applies them. -/
def effectsOfRules (env : EngineEnv) (plan : TradePlan) (tick : BarTick) : List PlanRule → Facts → List Effect
  | [], _ => []
  | rule :: rest, facts =>
    let effects := tickRule env rule { now := tick.now, window := tick.window, facts, plan }
    effects ++ effectsOfRules env plan tick rest (apply facts [] tick.latestBar tick.now effects).1

/-- Every effect of a run, from the given blackboard on. -/
def effectsOfRun (env : EngineEnv) (plan : TradePlan) : List BarTick → Facts → List Effect
  | [], _ => []
  | tick :: rest, facts =>
    (if tick.window.isEmpty then [] else effectsOfRules env plan tick plan.rules facts) ++
      effectsOfRun env plan rest (tickOnce env plan facts tick).1

variable (env : EngineEnv) (plan : TradePlan)

theorem tickRules_eq (tick : BarTick) (rules : List PlanRule) (facts : Facts) (fires : List Effect) :
    tickRules env plan tick rules facts fires =
      ((ruleTurns env plan).after (rules.map fun rule => (tick.bar, rule)) facts,
        fires ++ ((ruleTurns env plan).trace (rules.map fun rule => (tick.bar, rule)) facts).filter
          (Effect.returned tick.latestBar)) := by
  induction rules generalizing facts fires with
  | nil => simp [tickRules, Turns.trace]
  | cons rule rest ih =>
    rw [tickRules, apply_eq]
    dsimp only
    rw [ih]
    simp only [List.map_cons, Turns.after_cons, Turns.trace, List.filter_append, List.append_assoc]
    rfl

theorem tickOnce_eq (facts : Facts) (tick : BarTick) :
    tickOnce env plan facts tick =
      ((ruleTurns env plan).after (plan.turnsOn tick.bar) facts,
        ((ruleTurns env plan).trace (plan.turnsOn tick.bar) facts).filter
          (Effect.returned tick.latestBar)) := by
  unfold tickOnce TradePlan.turnsOn
  by_cases empty : tick.window.isEmpty
  · simp [BarTick.bar, empty, Turns.trace]
  · simp [BarTick.bar, empty, tickRules_eq]

theorem effectsOfRules_eq (tick : BarTick) (rules : List PlanRule) (facts : Facts) :
    effectsOfRules env plan tick rules facts =
      (ruleTurns env plan).trace (rules.map fun rule => (tick.bar, rule)) facts := by
  induction rules generalizing facts with
  | nil => rfl
  | cons rule rest ih =>
    simp only [effectsOfRules, apply_eq, ih, List.map_cons, Turns.trace]
    rfl

theorem effectsOfRun_eq (ticks : List BarTick) (facts : Facts) :
    effectsOfRun env plan ticks facts = (ruleTurns env plan).trace (plan.turnsOf ticks) facts := by
  induction ticks generalizing facts with
  | nil => rfl
  | cons tick rest ih =>
    have here : (if tick.window.isEmpty then [] else effectsOfRules env plan tick plan.rules facts) =
        (ruleTurns env plan).trace (plan.turnsOn tick.bar) facts := by
      unfold TradePlan.turnsOn
      by_cases empty : tick.window.isEmpty
      · simp [BarTick.bar, empty, Turns.trace]
      · simp [BarTick.bar, empty, effectsOfRules_eq]
    rw [effectsOfRun, here, ih, tickOnce_eq]
    simp only [TradePlan.turnsOf, List.map_cons, List.flatMap_cons, Turns.trace_append]

theorem factsAfter_eq (ticks : List BarTick) :
    factsAfter env plan ticks = (ruleTurns env plan).after (plan.turnsOf ticks) {} := by
  unfold factsAfter TradePlan.turnsOf
  generalize ({} : Facts) = facts
  induction ticks generalizing facts with
  | nil => rfl
  | cons tick rest ih =>
    rw [List.foldl_cons, ih, tickOnce_eq, List.map_cons, List.flatMap_cons, Turns.after_append]

end TradeControl.EngineV2
