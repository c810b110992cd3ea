import TradeControl.PlanSpine

namespace TradeControl

/-- What one rule compares the next bar with. -/
structure RuleMemory where
  originOpen : Option Rat
  lastClose : Option Rat

def PlanState.memory (state : PlanState) (ruleId : String) : RuleMemory :=
  ⟨state.originOpen ruleId, state.lastClose ruleId⟩

def PlanState.remember (state : PlanState) (ruleId : String) (memory : RuleMemory) : PlanState :=
  { state with
    originOpen := Function.update state.originOpen ruleId memory.originOpen
    lastClose := Function.update state.lastClose ruleId memory.lastClose }

@[simp] theorem PlanState.remember_memory (state : PlanState) (ruleId : String) (memory : RuleMemory) :
    (state.remember ruleId memory).memory ruleId = memory := by
  simp [PlanState.memory, remember]

theorem PlanState.remember_memory_ne (state : PlanState) {ruleId other : String} (memory : RuleMemory)
    (apart : other ≠ ruleId) : (state.remember ruleId memory).memory other = state.memory other := by
  simp [PlanState.memory, remember, Function.update_of_ne apart]

@[simp] theorem PlanState.remember_self (state : PlanState) (ruleId : String) :
    state.remember ruleId (state.memory ruleId) = state := by
  simp [memory, remember]

@[simp] theorem PlanState.remember_remember (state : PlanState) (ruleId : String) (memory memory' : RuleMemory) :
    (state.remember ruleId memory).remember ruleId memory' = state.remember ruleId memory' := by
  simp [remember]

theorem PlanState.remember_comm (state : PlanState) {ruleId other : String} (memory memory' : RuleMemory)
    (apart : ruleId ≠ other) :
    (state.remember ruleId memory).remember other memory' =
      (state.remember other memory').remember ruleId memory := by
  simp only [remember]
  congr 1
  · exact Function.update_comm apart ..
  · exact Function.update_comm apart ..

/-- The first open a close-reading rule saw stays its origin. -/
def RuleMemory.opened (memory : RuleMemory) (rule : ConditionRule) (candle : Candle) : RuleMemory :=
  if triggerUsesClose rule.trigger ∧ memory.originOpen.isNone then
    { memory with originOpen := some candle.o }
  else memory

def RuleMemory.closed (memory : RuleMemory) (rule : ConditionRule) (candle : Candle) : RuleMemory :=
  if triggerUsesClose rule.trigger then { memory with lastClose := some candle.c } else memory

def RuleMemory.dippedOrigin (memory : RuleMemory) (rule : ConditionRule) (candle : Candle)
    (window : List Candle) : Option Rat := do
  if isEnter rule then none
  else
    let dir ← rule.trigger.onCloseDir
    let level ← oncloseLevelAt rule.trigger candle window
    let origin ← memory.originOpen
    reseatedOrigin dir level origin candle

/-- A bar that dips back across the line seats the origin of a rule armed past it anew. -/
def RuleMemory.reseated (memory : RuleMemory) (rule : ConditionRule) (candle : Candle)
    (window : List Candle) : RuleMemory :=
  match memory.dippedOrigin rule candle window with
  | none => memory
  | some origin => { memory with originOpen := some origin }

theorem PlanState.recordOriginOpen_eq (state : PlanState) (rule : ConditionRule) (candle : Candle) :
    state.recordOriginOpen rule candle =
      state.remember rule.ruleId ((state.memory rule.ruleId).opened rule candle) := by
  unfold recordOriginOpen RuleMemory.opened
  by_cases fresh : triggerUsesClose rule.trigger = true ∧ (state.originOpen rule.ruleId).isNone = true
  · simp only [PlanState.memory, fresh, and_self, ↓reduceIte, remember, Function.update_eq_self]
  · simp only [PlanState.memory, fresh, ↓reduceIte]
    exact (state.remember_self rule.ruleId).symm

theorem PlanState.recordLastClose_eq (state : PlanState) (rule : ConditionRule) (candle : Candle) :
    state.recordLastClose rule candle =
      state.remember rule.ruleId ((state.memory rule.ruleId).closed rule candle) := by
  unfold recordLastClose RuleMemory.closed
  split
  · simp only [PlanState.memory, remember, Function.update_eq_self]
  · exact (state.remember_self rule.ruleId).symm

theorem PlanState.reseatOriginOnDip_eq (state : PlanState) (rule : ConditionRule) (candle : Candle)
    (window : List Candle) :
    state.reseatOriginOnDip rule candle window =
      state.remember rule.ruleId ((state.memory rule.ruleId).reseated rule candle window) := by
  unfold reseatOriginOnDip RuleMemory.reseated
  change (match (state.memory rule.ruleId).dippedOrigin rule candle window with
    | none => state
    | some origin => { state with originOpen := Function.update state.originOpen rule.ruleId (some origin) }) = _
  cases (state.memory rule.ruleId).dippedOrigin rule candle window with
  | none => exact (state.remember_self rule.ruleId).symm
  | some origin => simp only [PlanState.memory, remember, Function.update_eq_self]

variable (env : EngineEnv) (rule : ConditionRule) (candle : Candle) (window : List Candle)
  (buffer : CrossBuffer) (granularity : Granularity)

/-- Whether a rule fires, given what it remembers, and what it then remembers. -/
def RuleMemory.fireRule (memory : RuleMemory) : Bool × RuleMemory :=
  let memory := (memory.opened rule candle).reseated rule candle window
  let refs : OnCloseRefs :=
    { origin := memory.originOpen, prevClose := memory.lastClose, settled := !isEnter rule }
  let hit := evalTrigger rule.trigger candle refs window buffer
  (hit && !(rule.trigger.isWickCross && env.suppressIntent rule.intent candle.time granularity),
    memory.closed rule candle)

/-- A rule's evaluation reads and writes its own memory only. -/
theorem fireRule_eq (state : PlanState) :
    fireRule env rule state candle window buffer granularity =
      (((state.memory rule.ruleId).fireRule env rule candle window buffer granularity).1,
        state.remember rule.ruleId
          ((state.memory rule.ruleId).fireRule env rule candle window buffer granularity).2) := by
  have seated : (state.recordOriginOpen rule candle).reseatOriginOnDip rule candle window =
      state.remember rule.ruleId
        (((state.memory rule.ruleId).opened rule candle).reseated rule candle window) := by
    rw [PlanState.reseatOriginOnDip_eq, PlanState.recordOriginOpen_eq, PlanState.remember_memory,
      PlanState.remember_remember]
  unfold TradeControl.fireRule RuleMemory.fireRule
  dsimp only
  rw [seated, PlanState.recordLastClose_eq, PlanState.remember_memory, PlanState.remember_remember]
  simp only [PlanState.refsOf, PlanState.remember, Function.update_self]

variable (plan : TradePlan) (cfg : DetectorConfig)

/-- Whether a guard fires and with what signal, given what it remembers, and what it then remembers. -/
def RuleMemory.guardSignal (memory : RuleMemory) (openNewsWindows : Finset String) :
    Option (Option LatchedSignal) × RuleMemory :=
  if rule.trigger.isAdverseMa ∧ beforeArm plan candle then (none, memory)
  else match rule.trigger with
    | .pinePattern pattern dir =>
      if env.suppressIntent rule.intent candle.time plan.granularity then (none, memory)
      else ((evalPineGuard rule.intent candle window cfg pattern dir openNewsWindows).map some, memory)
    | _ =>
      let (hit, memory) := memory.fireRule env rule candle window (resolveCrossBuffer plan window)
        plan.granularity
      (if hit then some none else none, memory)

theorem guardSignal_eq (state : PlanState) :
    guardSignal env plan rule state candle window cfg =
      (((state.memory rule.ruleId).guardSignal env rule candle window plan cfg state.openNewsWindows).1,
        state.remember rule.ruleId
          ((state.memory rule.ruleId).guardSignal env rule candle window plan cfg
            state.openNewsWindows).2) := by
  unfold TradeControl.guardSignal RuleMemory.guardSignal
  by_cases early : rule.trigger.isAdverseMa = true ∧ beforeArm plan candle = true
  · simp only [early, and_self, ↓reduceIte, PlanState.remember_self]
  · simp only [early, ↓reduceIte]
    cases rule.trigger with
    | pinePattern pattern dir =>
      by_cases rubbish : env.suppressIntent rule.intent candle.time plan.granularity
      · simp only [rubbish, ↓reduceIte, PlanState.remember_self]
      · simp only [rubbish, ↓reduceIte, PlanState.remember_self, Bool.false_eq_true]
    | _ => simp only [fireRule_eq]

end TradeControl
