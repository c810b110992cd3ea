import TradeControl.ControlsKept
import TradeControl.Foundation.Alarms

namespace TradeControl

open Foundation Relation

/-- One look at the control rules: the clock they are judged by and the candle they fire on. -/
structure ControlLook where
  clock : Int
  candle : Candle

/-- The look's clock has reached the rule's instant. -/
def dueAt (look : ControlLook) (rule : ConditionRule) : Bool :=
  match rule.trigger with
  | .timeReached atEpoch => atEpoch ≤ timestamp look.clock
  | _ => false

def fireAt (ring : ConditionRule × ControlLook) : FiredIntent :=
  { ruleId := ring.1.ruleId, intent := ring.1.intent, candle := ring.2.candle }

def ConditionRule.Opens (rule : ConditionRule) (newsId : String) : Prop :=
  rule.intent.newsId = some newsId ∧ rule.intent.action = .newsStart

def ConditionRule.Closes (rule : ConditionRule) (newsId : String) : Prop :=
  rule.intent.newsId = some newsId ∧ rule.intent.action = .newsEnd

theorem mem_newsWindowsAfter (rule : ConditionRule) (windows : Finset String) (newsId : String) :
    newsId ∈ newsWindowsAfter rule windows ↔
      (newsId ∈ windows ∨ rule.Opens newsId) ∧ ¬rule.Closes newsId := by
  unfold newsWindowsAfter ConditionRule.Opens ConditionRule.Closes
  split
  next other named starts =>
    simp only [named, starts, Finset.mem_insert, Option.some.injEq, and_true, reduceCtorEq, and_false,
      not_false_eq_true]
    rw [or_comm, eq_comm]
  next other named ends =>
    simp only [named, ends, Finset.mem_erase, Option.some.injEq, and_true, reduceCtorEq, and_false,
      or_false]
    rw [and_comm, ne_comm]
  next noStart noEnd =>
    constructor
    · exact fun member => ⟨.inl member, fun closes => noEnd newsId closes.1 closes.2⟩
    · rintro ⟨member | opens, _⟩
      · exact member
      · exact absurd opens.2 (noStart newsId opens.1)

/-- News windows are opened and closed by control rules on the clock alone. -/
def TradePlan.NewsOnClock (plan : TradePlan) : Prop :=
  ∀ rule ∈ plan.rules, isControlRule rule = true → isTimedControl rule = false →
    rule.intent.action ≠ .newsStart ∧ rule.intent.action ≠ .newsEnd

theorem TradePlan.NewsOnClock.untouched {plan : TradePlan} (onClock : plan.NewsOnClock)
    {rule : ConditionRule} (member : rule ∈ plan.rules) (control : isControlRule rule = true)
    (notTimed : isTimedControl rule = false) (windows : Finset String) :
    newsWindowsAfter rule windows = windows := by
  obtain ⟨noStart, noEnd⟩ := onClock rule member control notTimed
  ext newsId
  rw [mem_newsWindowsAfter]
  constructor
  · rintro ⟨member | opens, _⟩
    · exact member
    · exact absurd opens.2 noStart
  · exact fun member => ⟨.inl member, fun closes => noEnd closes.2⟩

def newsAfterRing (windows : Finset String) (ring : ConditionRule × ControlLook) : Finset String :=
  newsWindowsAfter ring.1 windows

/-- The timed controls a look lets fire, given the latches it finds. -/
def freshlyDue (look : ControlLook) (latched : Finset String) (rules : List ConditionRule) :
    List ConditionRule :=
  rules.filter fun rule => isTimedControl rule && (dueAt look rule && decide (rule.ruleId ∉ latched))

/-- What a look of `rules` does: the freshly due ones fire in their order, and latch. -/
structure Looked (plan : TradePlan) (look : ControlLook) (rules : List ConditionRule)
    (before after : PlanTurn) : Prop where
  latched : ∀ timed ∈ timedControls plan, timed.ruleId ∈ after.state.fired ↔
    timed.ruleId ∈ before.state.fired ∨ timed ∈ freshlyDue look before.state.fired rules
  fires : timedFires plan after.fired = timedFires plan before.fired ++
    (freshlyDue look before.state.fired rules).map fun rule => fireAt (rule, look)
  windows : plan.NewsOnClock → after.state.openNewsWindows =
    (freshlyDue look before.state.fired rules).foldl (fun windows rule => newsWindowsAfter rule windows)
      before.state.openNewsWindows

section
variable (env : EngineEnv) {plan : TradePlan} (candle : Candle) (window : List Candle) (clock : Int)

/-- A timed control's turn: it fires if its instant has come and it has not fired. -/
theorem evaluateControl_timed {rule : ConditionRule} (timed : isTimedControl rule = true)
    (turn : PlanTurn) :
    evaluateControl env plan candle window clock turn rule =
      if dueAt ⟨clock, candle⟩ rule = true ∧ rule.ruleId ∉ turn.state.fired then
        { turn with
          state :=
            { turn.state with
              fired := insert rule.ruleId turn.state.fired
              openNewsWindows :=
                newsWindowsAfter rule turn.state.openNewsWindows } }.pushFire rule candle
      else turn := by
  simp only [isTimedControl, Bool.and_eq_true] at timed
  obtain ⟨⟨control, _⟩, onClock⟩ := timed
  split at onClock
  next atEpoch trigger =>
    simp only [evaluateControl, controlRuleFires, dueAt, trigger, control, Bool.not_true,
      Bool.false_eq_true, false_or]
    by_cases latched : rule.ruleId ∈ turn.state.fired
    · simp [latched]
    · by_cases due : atEpoch ≤ timestamp clock
      · simp [latched, due]
      · simp [latched, due]
  next => cases onClock

theorem timedFires_timed {rule : ConditionRule} (member : rule ∈ plan.rules)
    (timed : isTimedControl rule = true) (fired : List FiredIntent) (candle : Candle) :
    timedFires plan (fired ++ [{ ruleId := rule.ruleId, intent := rule.intent, candle }]) =
      timedFires plan fired ++ [{ ruleId := rule.ruleId, intent := rule.intent, candle }] := by
  have named : rule.ruleId ∈ (timedControls plan).map (·.ruleId) :=
    List.mem_map_of_mem (List.mem_filter.mpr ⟨member, timed⟩)
  unfold timedFires
  rw [List.filter_append, List.filter_cons_of_pos (by simpa using named), List.filter_nil]

theorem Looked.nothing {look : ControlLook} {rules : List ConditionRule} {before after : PlanTurn}
    (none : freshlyDue look before.state.fired rules = [])
    (latched : ∀ timed ∈ timedControls plan,
      timed.ruleId ∈ after.state.fired ↔ timed.ruleId ∈ before.state.fired)
    (fires : timedFires plan after.fired = timedFires plan before.fired)
    (windows : plan.NewsOnClock → after.state.openNewsWindows = before.state.openNewsWindows) :
    Looked plan look rules before after :=
  ⟨by simpa [none] using latched, by simpa [none] using fires, by simpa [none] using windows⟩

/-- One control rule's turn is a look at that rule. -/
theorem evaluateControl_looked (ids : plan.DistinctIds) {rule : ConditionRule}
    (member : rule ∈ plan.rules) (turn : PlanTurn) :
    Looked plan ⟨clock, candle⟩ [rule] turn
      (evaluateControl env plan candle window clock turn rule) := by
  cases timed : isTimedControl rule with
  | true =>
    rw [evaluateControl_timed env candle window clock timed]
    split
    next fires =>
      have fresh : freshlyDue ⟨clock, candle⟩ turn.state.fired [rule] = [rule] := by
        simp [freshlyDue, timed, fires.1, fires.2]
      refine ⟨fun other listed => ?_, ?_, ?_⟩
      · have same : other.ruleId = rule.ruleId ↔ other = rule := by
          constructor
          · exact ids.rule_eq (List.mem_filter.mp listed).1 member
          · rintro rfl
            rfl
        simp only [PlanTurn.pushFire_state, Finset.mem_insert, fresh, List.mem_singleton, same]
        exact or_comm
      · rw [fresh]
        exact timedFires_timed member timed turn.fired candle
      · intro _
        rw [fresh]
        rfl
    next quiet =>
      have nobody : freshlyDue ⟨clock, candle⟩ turn.state.fired [rule] = [] := by
        simp only [freshlyDue, List.filter_eq_nil_iff, List.mem_singleton, Bool.and_eq_true,
          decide_eq_true_eq]
        rintro _ rfl fires
        exact quiet fires.2
      exact .nothing nobody (fun _ _ => Iff.rfl) rfl fun _ => rfl
  | false =>
    have nobody : freshlyDue ⟨clock, candle⟩ turn.state.fired [rule] = [] := by
      simp [freshlyDue, timed]
    unfold evaluateControl
    split
    · exact .nothing nobody (fun _ _ => Iff.rfl) rfl fun _ => rfl
    next eligible =>
      simp only [not_or, Bool.not_eq_true', Bool.not_eq_false] at eligible
      obtain ⟨control, _⟩ := eligible
      obtain ⟨origin, close, same⟩ := controlRuleFires_remembers env candle window clock rule turn.state
        (resolveCrossBuffer plan window) plan.granularity
      dsimp only
      rw [same]
      split
      · have kept : ControlsKept plan turn
            ({ turn with
               state :=
                 { turn.state with
                   originOpen := origin
                   lastClose := close
                   fired := insert rule.ruleId turn.state.fired } }.pushFire rule candle) :=
          .pushed ids candle none member timed (.inr rfl) rfl
        exact .nothing nobody kept.latched kept.fires fun onClock =>
          onClock.untouched member control timed _
      · exact .nothing nobody (fun _ _ => Iff.rfl) rfl fun _ => rfl

theorem Looked.cons {look : ControlLook} {rule : ConditionRule} {rest : List ConditionRule}
    {before middle after : PlanTurn} (members : ∀ timed ∈ rest, timed ∈ plan.rules)
    (apart : ∀ timed ∈ rest, timed.ruleId ≠ rule.ruleId)
    (first : Looked plan look [rule] before middle) (later : Looked plan look rest middle after) :
    Looked plan look (rule :: rest) before after := by
  have unmoved : freshlyDue look middle.state.fired rest = freshlyDue look before.state.fired rest := by
    refine List.filter_congr fun timed listed => ?_
    cases isTimed : isTimedControl timed with
    | false => rfl
    | true =>
      have kept := first.latched timed (List.mem_filter.mpr ⟨members timed listed, isTimed⟩)
      have absent : timed ∉ freshlyDue look before.state.fired [rule] := by
        intro fresh
        obtain rfl := List.mem_singleton.mp (List.mem_filter.mp fresh).1
        exact apart timed listed rfl
      simp only [kept, absent, or_false]
  have split : freshlyDue look before.state.fired (rule :: rest) =
      freshlyDue look before.state.fired [rule] ++ freshlyDue look before.state.fired rest :=
    List.filter_append [rule] rest
  refine ⟨fun timed listed => ?_, ?_, fun onClock => ?_⟩
  · rw [later.latched timed listed, first.latched timed listed, unmoved, split, List.mem_append, or_assoc]
  · rw [later.fires, first.fires, unmoved, split, List.map_append, List.append_assoc]
  · rw [later.windows onClock, first.windows onClock, unmoved, split, List.foldl_append]

theorem foldl_controls_looked (ids : plan.DistinctIds) {rules : List ConditionRule}
    (members : ∀ rule ∈ rules, rule ∈ plan.rules) (nodup : (rules.map (·.ruleId)).Nodup)
    (turn : PlanTurn) :
    Looked plan ⟨clock, candle⟩ rules turn
      (rules.foldl (evaluateControl env plan candle window clock) turn) := by
  induction rules generalizing turn with
  | nil => exact .nothing rfl (fun _ _ => Iff.rfl) rfl fun _ => rfl
  | cons rule rest ih =>
    obtain ⟨apart, nodup⟩ := List.nodup_cons.mp nodup
    have later : ∀ timed ∈ rest, timed ∈ plan.rules := fun timed listed => members timed (by simp [listed])
    have differ : ∀ timed ∈ rest, timed.ruleId ≠ rule.ruleId := fun timed listed same =>
      apart (List.mem_map.mpr ⟨timed, listed, same⟩)
    have first := evaluateControl_looked env candle window clock ids (members rule (by simp)) turn
    exact first.cons later differ (ih later nodup _)

end

/-- A turn's controls are where the looks so far have brought them. -/
structure Clocked (plan : TradePlan) (looks : List ControlLook) (turn : PlanTurn) : Prop where
  latched : ∀ timed ∈ timedControls plan,
    timed.ruleId ∈ turn.state.fired ↔ looks.any (dueAt · timed) = true
  fires : timedFires plan turn.fired = (rings dueAt (timedControls plan) [] looks).map fireAt
  windows : plan.NewsOnClock → turn.state.openNewsWindows =
    (rings dueAt (timedControls plan) [] looks).foldl newsAfterRing ∅

section
variable {plan : TradePlan} {looks : List ControlLook}

theorem Clocked.kept {before after : PlanTurn} (clocked : Clocked plan looks before)
    (kept : ControlsKept plan before after) : Clocked plan looks after :=
  ⟨fun timed listed => (kept.latched timed listed).trans (clocked.latched timed listed),
    kept.fires.trans clocked.fires, fun onClock => kept.windows.trans (clocked.windows onClock)⟩

theorem Clocked.freshlyDue {turn : PlanTurn} (clocked : Clocked plan looks turn) (look : ControlLook) :
    freshlyDue look turn.state.fired plan.rules = ringsAt dueAt (timedControls plan) looks look := by
  unfold TradeControl.freshlyDue ringsAt
  rw [timedControls, List.filter_filter]
  refine List.filter_congr fun rule member => ?_
  cases timed : isTimedControl rule with
  | false => simp
  | true =>
    have latched := clocked.latched rule (List.mem_filter.mpr ⟨member, timed⟩)
    have same : decide (rule.ruleId ∉ turn.state.fired) = !looks.any (dueAt · rule) := by
      cases past : looks.any (dueAt · rule) with
      | true => simpa using latched.mpr past
      | false =>
        rw [past] at latched
        simpa using latched
    rw [same, Bool.true_and, Bool.and_true]

theorem Clocked.looked {before after : PlanTurn} {look : ControlLook} (clocked : Clocked plan looks before)
    (looked : Looked plan look plan.rules before after) : Clocked plan (looks ++ [look]) after := by
  have rang := clocked.freshlyDue look
  have split : rings dueAt (timedControls plan) [] (looks ++ [look]) =
      rings dueAt (timedControls plan) [] looks ++
        (ringsAt dueAt (timedControls plan) looks look).map (·, look) := by
    simp [rings_append, rings]
  refine ⟨fun timed listed => ?_, ?_, fun onClock => ?_⟩
  · rw [looked.latched timed listed, clocked.latched timed listed, rang, mem_ringsAt, List.any_append]
    cases past : looks.any (dueAt · timed) with
    | true => simp
    | false =>
      have silent : ∀ before ∈ looks, dueAt before timed = false := by simpa using past
      simp only [listed, List.any_cons, List.any_nil, Bool.or_false, Bool.false_or, Bool.false_eq_true,
        true_and, false_or, and_iff_left_iff_imp]
      exact fun _ => silent
  · rw [looked.fires, clocked.fires, rang, split, List.map_append, List.map_map]
    rfl
  · rw [looked.windows onClock, clocked.windows onClock, rang, split, List.foldl_append, List.foldl_map]
    rfl

end

end TradeControl
