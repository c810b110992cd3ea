import Mathlib.Algebra.Order.Group.Multiset
import TradeControl.PlanOnce
import TradeControl.RuleMemory

namespace TradeControl

/-- A scan over guards, whatever the order they fired in. -/
structure GuardTally where
  state : PlanState
  fired : Multiset FiredIntent
  terminalFired : Bool

def GuardScan.tally (scan : GuardScan) : GuardTally :=
  ⟨scan.turn.state, scan.turn.fired, scan.terminalFired⟩

/-- What one look at a guard comes to: whether it fires and with what signal, and what it then remembers. -/
abbrev GuardLook := Option (Option LatchedSignal) × RuleMemory

/-- A setup invalidation that only keeps the plan from entering. -/
def blocksEntries (rule : ConditionRule) : Bool := guardIsTerminal rule && !vetoRetiresPlan rule

/-- The tally after a look at a guard, or after passing over it. -/
def GuardTally.look (tally : GuardTally) (candle : Candle) (rule : ConditionRule) :
    Option GuardLook → GuardTally
  | none => tally
  | some (none, memory) => { tally with state := tally.state.remember rule.ruleId memory }
  | some (some signal, memory) =>
    { state :=
        { tally.state.remember rule.ruleId memory with
          fired := insert rule.ruleId tally.state.fired
          entriesBlocked := tally.state.entriesBlocked || blocksEntries rule }
      fired := tally.fired + {{ ruleId := rule.ruleId, intent := rule.intent, candle, signal }}
      terminalFired := tally.terminalFired || (guardIsTerminal rule && vetoRetiresPlan rule) }

/-- Looks at two rules do not get in each other's way. -/
theorem GuardTally.look_comm (tally : GuardTally) (candle : Candle) {rule rule' : ConditionRule}
    (apart : rule.ruleId ≠ rule'.ruleId) (look look' : Option GuardLook) :
    (tally.look candle rule look).look candle rule' look' =
      (tally.look candle rule' look').look candle rule look := by
  have memories := fun memory memory' => tally.state.remember_comm memory memory' apart
  simp only [PlanState.remember, PlanState.mk.injEq, true_and, and_true] at memories
  rcases look with _ | ⟨_ | signal, memory⟩
  · rfl
  · rcases look' with _ | ⟨_ | signal', memory'⟩
    · rfl
    · simp only [GuardTally.look, PlanState.remember, memories memory memory']
    · simp only [GuardTally.look, PlanState.remember, memories memory memory']
  · rcases look' with _ | ⟨_ | signal', memory'⟩
    · rfl
    · simp only [GuardTally.look, PlanState.remember, memories memory memory']
    · simp only [GuardTally.look, PlanState.remember, memories memory memory',
        Finset.insert_comm rule'.ruleId, Bool.or_right_comm _ _ (blocksEntries rule'),
        Bool.or_right_comm _ _ (guardIsTerminal rule' && vetoRetiresPlan rule')]
      congr 1
      exact add_right_comm tally.fired _ _

/-- Two states alike in all that a look at this rule reads. -/
structure PlanState.AgreeOn (state state' : PlanState) (ruleId : String) : Prop where
  fired : ruleId ∈ state.fired ↔ ruleId ∈ state'.fired
  memory : state.memory ruleId = state'.memory ruleId
  news : state.openNewsWindows = state'.openNewsWindows

theorem PlanState.AgreeOn.refl (state : PlanState) (ruleId : String) : state.AgreeOn state ruleId :=
  ⟨Iff.rfl, rfl, rfl⟩

theorem PlanState.AgreeOn.trans {first second third : PlanState} {ruleId : String}
    (one : first.AgreeOn second ruleId) (two : second.AgreeOn third ruleId) : first.AgreeOn third ruleId :=
  ⟨one.fired.trans two.fired, one.memory.trans two.memory, one.news.trans two.news⟩

/-- A look at one rule leaves what the others read. -/
theorem GuardTally.look_agreeOn (tally : GuardTally) (candle : Candle) {rule : ConditionRule}
    (look : Option GuardLook) {other : String} (apart : other ≠ rule.ruleId) :
    tally.state.AgreeOn (tally.look candle rule look).state other := by
  rcases look with _ | ⟨_ | signal, memory⟩
  · exact .refl _ _
  · exact ⟨Iff.rfl, (tally.state.remember_memory_ne memory apart).symm, rfl⟩
  · refine ⟨?_, (tally.state.remember_memory_ne memory apart).symm, rfl⟩
    simp only [GuardTally.look, Finset.mem_insert, apart, false_or]

@[simp] theorem GuardTally.look_phase (tally : GuardTally) (candle : Candle) (rule : ConditionRule)
    (look : Option GuardLook) : (tally.look candle rule look).state.phase = tally.state.phase := by
  rcases look with _ | ⟨_ | signal, memory⟩
  · rfl
  · rfl
  · rfl

variable (env : EngineEnv) (plan : TradePlan) (candle : Candle) (window : List Candle)
  (cfg : DetectorConfig)

/-- The look at a rule in a state: nothing where it is no guard, has fired or is not armed. -/
def guardLook (armed : ConditionRule → Bool) (state : PlanState) (rule : ConditionRule) : Option GuardLook :=
  if !isGuard rule ∨ rule.ruleId ∈ state.fired ∨ !armed rule then none
  else
    some ((state.memory rule.ruleId).guardSignal env rule candle window plan cfg state.openNewsWindows)

theorem guardLook_congr (armed : ConditionRule → Bool) {state state' : PlanState} {rule : ConditionRule}
    (agree : state.AgreeOn state' rule.ruleId) :
    guardLook env plan candle window cfg armed state rule =
      guardLook env plan candle window cfg armed state' rule := by
  simp only [guardLook, agree.fired, agree.memory, agree.news]

/-- One guard's turn is one look at it, armed as the state of the moment says. -/
theorem evaluateGuard_tally (scan : GuardScan) (rule : ConditionRule) :
    (evaluateGuard env plan candle window cfg scan rule).tally =
      scan.tally.look candle rule (guardLook env plan candle window cfg
        (fun rule => armedInRule rule scan.turn.state.phase scan.turn.state.entriesBlocked)
        scan.turn.state rule) := by
  unfold evaluateGuard guardLook
  by_cases passed : (!isGuard rule) = true ∨ rule.ruleId ∈ scan.turn.state.fired
  · rw [if_pos passed, if_pos (or_assoc.mp (.inl passed))]
    rfl
  · rw [if_neg passed]
    by_cases unarmed : (!armedInRule rule scan.turn.state.phase scan.turn.state.entriesBlocked) = true
    · rw [if_pos unarmed, if_pos (or_assoc.mp (.inr unarmed))]
      rfl
    · rw [if_neg unarmed, if_neg (fun either => (or_assoc.mpr either).elim passed unarmed), guardSignal_eq]
      dsimp only
      rcases (scan.turn.state.memory rule.ruleId).guardSignal env rule candle window plan cfg
        scan.turn.state.openNewsWindows with ⟨_ | signal, memory⟩
      · rfl
      · rfl

end TradeControl

namespace TradeControl

variable (env : EngineEnv) (plan : TradePlan) (candle : Candle) (window : List Candle)
  (cfg : DetectorConfig)

theorem guardLook_armed {armed armed' : ConditionRule → Bool} {state : PlanState} {rule : ConditionRule}
    (same : armed rule = armed' rule) :
    guardLook env plan candle window cfg armed state rule =
      guardLook env plan candle window cfg armed' state rule := by
  simp only [guardLook, same]

theorem GuardTally.look_blocked (tally : GuardTally) (rule : ConditionRule) (look : Option GuardLook) :
    (tally.look candle rule look).state.entriesBlocked = true ↔
      tally.state.entriesBlocked = true ∨
        blocksEntries rule = true ∧ ∃ signal memory, look = some (some signal, memory) := by
  rcases look with _ | ⟨_ | signal, memory⟩
  · simp [GuardTally.look]
  · simp [GuardTally.look, PlanState.remember]
  · simp [GuardTally.look]

/-- The scan over some guards, as looks at them in the state it started from. -/
theorem scan_tally (base : PlanState) (armed : ConditionRule → Bool) (inv : GuardScan → Prop)
    {rules : List ConditionRule} (ids : (rules.map (·.ruleId)).Nodup)
    (each : ∀ rule ∈ rules, ∀ scan : GuardScan, inv scan → base.AgreeOn scan.turn.state rule.ruleId →
      (evaluateGuard env plan candle window cfg scan rule).tally =
          scan.tally.look candle rule (guardLook env plan candle window cfg armed base rule) ∧
        inv (evaluateGuard env plan candle window cfg scan rule))
    {scan : GuardScan} (initial : inv scan)
    (agree : ∀ rule ∈ rules, base.AgreeOn scan.turn.state rule.ruleId) :
    (rules.foldl (evaluateGuard env plan candle window cfg) scan).tally =
        rules.foldl (fun tally rule =>
          tally.look candle rule (guardLook env plan candle window cfg armed base rule)) scan.tally ∧
      inv (rules.foldl (evaluateGuard env plan candle window cfg) scan) := by
  induction rules generalizing scan with
  | nil => exact ⟨rfl, initial⟩
  | cons rule rest ih =>
    obtain ⟨apart, ids⟩ := List.nodup_cons.mp ids
    obtain ⟨tally, kept⟩ := each rule (List.mem_cons_self ..) scan initial (agree rule (List.mem_cons_self ..))
    have agree' : ∀ other ∈ rest,
        base.AgreeOn (evaluateGuard env plan candle window cfg scan rule).turn.state other.ruleId := by
      intro other member
      have other_ne : other.ruleId ≠ rule.ruleId := by
        intro same
        have listed : other.ruleId ∈ rest.map (·.ruleId) := List.mem_map_of_mem member
        rw [same] at listed
        exact apart listed
      have moved := scan.tally.look_agreeOn candle
        (guardLook env plan candle window cfg armed base rule) other_ne
      rw [← tally] at moved
      exact (agree other (List.mem_cons_of_mem _ member)).trans moved
    rw [List.foldl_cons, List.foldl_cons, ← tally]
    exact ih ids (fun other member => each other (List.mem_cons_of_mem _ member)) kept agree'

/-- An entry-blocking invalidation fires in this state. -/
def BlockerFires (state : PlanState) : Prop :=
  ∃ rule ∈ plan.rules, blocksEntries rule = true ∧
    ∃ signal memory, guardLook env plan candle window cfg (fun _ => true) state rule =
      some (some signal, memory)

/-- A per-position close that has not fired would do something if it were armed. -/
def CloseStirs (state : PlanState) : Prop :=
  ∃ rule ∈ plan.rules, guardIsTerminal rule = false ∧
    ∃ look, guardLook env plan candle window cfg (fun _ => true) state rule = some look ∧
      look ≠ (none, state.memory rule.ruleId)

/-- Before the entry phase an invalidation of this bar blocks the entries, and with that arms a close. -/
structure ArmedByOrder (state : PlanState) : Prop where
  early : state.phase ≠ .awaitEntry
  unblocked : state.entriesBlocked = false
  blocker : BlockerFires env plan candle window cfg state
  close : CloseStirs env plan candle window cfg state

/-- The rules that a look finds armed, whatever came before it on the bar. -/
def steadilyArmed (state : PlanState) (rule : ConditionRule) : Bool :=
  guardIsTerminal rule || decide (state.phase = .awaitEntry) || state.entriesBlocked

theorem evaluateGuard_phase (scan : GuardScan) (rule : ConditionRule) :
    (evaluateGuard env plan candle window cfg scan rule).turn.state.phase = scan.turn.state.phase := by
  have tally := evaluateGuard_tally env plan candle window cfg scan rule
  exact (congrArg (·.state.phase) tally).trans (scan.tally.look_phase ..)

/-- The entries are blocked after a guard's turn if they were, or if it fires and blocks them. -/
theorem evaluateGuard_blocked (scan : GuardScan) (rule : ConditionRule) :
    (evaluateGuard env plan candle window cfg scan rule).turn.state.entriesBlocked = true ↔
      scan.turn.state.entriesBlocked = true ∨ blocksEntries rule = true ∧
        ∃ signal memory, guardLook env plan candle window cfg (fun _ => true) scan.turn.state rule =
          some (some signal, memory) := by
  have tally := congrArg (·.state.entriesBlocked) (evaluateGuard_tally env plan candle window cfg scan rule)
  change (evaluateGuard env plan candle window cfg scan rule).turn.state.entriesBlocked = _ at tally
  rw [tally, GuardTally.look_blocked]
  refine or_congr_right (and_congr_right fun blocks => ?_)
  have armed : armedInRule rule scan.turn.state.phase scan.turn.state.entriesBlocked = true := by
    simp only [armedInRule, (Bool.and_eq_true_iff.mp blocks).1, Bool.true_or]
  have same : guardLook env plan candle window cfg
      (fun rule => armedInRule rule scan.turn.state.phase scan.turn.state.entriesBlocked) scan.turn.state rule =
        guardLook env plan candle window cfg (fun _ => true) scan.turn.state rule :=
    guardLook_armed env plan candle window cfg armed
  rw [same]

/-- A guard armed as the scan started is looked at as it would have been then. -/
theorem evaluateGuard_steady {state : PlanState} {scan : GuardScan} {rule : ConditionRule}
    (agree : state.AgreeOn scan.turn.state rule.ruleId)
    (armed : armedInRule rule scan.turn.state.phase scan.turn.state.entriesBlocked = steadilyArmed state rule) :
    (evaluateGuard env plan candle window cfg scan rule).tally =
      scan.tally.look candle rule
        (guardLook env plan candle window cfg (steadilyArmed state) state rule) := by
  rw [evaluateGuard_tally, guardLook_armed env plan candle window cfg armed,
    guardLook_congr env plan candle window cfg _ agree]

section
variable {env plan candle window cfg} {state : PlanState} {scan : GuardScan} {rule : ConditionRule}

/-- With every guard armed from the start, every guard stays armed. -/
theorem evaluateGuard_armed (agree : state.AgreeOn scan.turn.state rule.ruleId)
    (all : state.phase = .awaitEntry ∨ state.entriesBlocked = true)
    (still : scan.turn.state.phase = .awaitEntry ∨ scan.turn.state.entriesBlocked = true) :
    (evaluateGuard env plan candle window cfg scan rule).tally =
        scan.tally.look candle rule
          (guardLook env plan candle window cfg (steadilyArmed state) state rule) ∧
      ((evaluateGuard env plan candle window cfg scan rule).turn.state.phase = .awaitEntry ∨
        (evaluateGuard env plan candle window cfg scan rule).turn.state.entriesBlocked = true) := by
  refine ⟨evaluateGuard_steady env plan candle window cfg agree ?_, ?_⟩
  · have before : steadilyArmed state rule = true := by
      rcases all with entry | blocked
      · simp [steadilyArmed, entry]
      · simp [steadilyArmed, blocked]
    rw [before]
    rcases still with entry | blocked
    · simp [armedInRule, entry]
    · simp [armedInRule, blocked]
  · rw [evaluateGuard_phase, evaluateGuard_blocked]
    exact still.imp_right .inl

/-- With nothing blocking the entries before their phase, no close is armed and none blocks them. -/
theorem evaluateGuard_calm (agree : state.AgreeOn scan.turn.state rule.ruleId) (member : rule ∈ plan.rules)
    (early : state.phase ≠ .awaitEntry) (unblocked : state.entriesBlocked = false)
    (calm : ¬BlockerFires env plan candle window cfg state)
    (quiet : scan.turn.state.phase ≠ .awaitEntry ∧ scan.turn.state.entriesBlocked = false) :
    (evaluateGuard env plan candle window cfg scan rule).tally =
        scan.tally.look candle rule
          (guardLook env plan candle window cfg (steadilyArmed state) state rule) ∧
      (evaluateGuard env plan candle window cfg scan rule).turn.state.phase ≠ .awaitEntry ∧
      (evaluateGuard env plan candle window cfg scan rule).turn.state.entriesBlocked = false := by
  refine ⟨evaluateGuard_steady env plan candle window cfg agree ?_, ?_, ?_⟩
  · simp [armedInRule, steadilyArmed, early, unblocked, quiet.1, quiet.2]
  · rw [evaluateGuard_phase]
    exact quiet.1
  · rw [← Bool.not_eq_true, evaluateGuard_blocked]
    rintro (blocked | ⟨blocks, signal, memory, fires⟩)
    · rw [quiet.2] at blocked
      cases blocked
    · rw [← guardLook_congr env plan candle window cfg _ agree] at fires
      exact calm ⟨rule, member, blocks, signal, memory, fires⟩

/-- Where no close would do anything, it is one whether the order arms it. -/
theorem evaluateGuard_idle (agree : state.AgreeOn scan.turn.state rule.ruleId) (member : rule ∈ plan.rules)
    (early : state.phase ≠ .awaitEntry) (unblocked : state.entriesBlocked = false)
    (idle : ¬CloseStirs env plan candle window cfg state) :
    (evaluateGuard env plan candle window cfg scan rule).tally =
      scan.tally.look candle rule
        (guardLook env plan candle window cfg (steadilyArmed state) state rule) := by
  by_cases terminal : guardIsTerminal rule = true
  · refine evaluateGuard_steady env plan candle window cfg agree ?_
    simp only [armedInRule, steadilyArmed, terminal, Bool.true_or]
  · have passed : guardLook env plan candle window cfg (steadilyArmed state) state rule = none := by
      simp [guardLook, steadilyArmed, terminal, early, unblocked]
    rw [evaluateGuard_tally, passed]
    by_cases armed : armedInRule rule scan.turn.state.phase scan.turn.state.entriesBlocked = true
    · have now : guardLook env plan candle window cfg
          (fun rule => armedInRule rule scan.turn.state.phase scan.turn.state.entriesBlocked)
          scan.turn.state rule =
            guardLook env plan candle window cfg (fun _ => true) scan.turn.state rule :=
        guardLook_armed env plan candle window cfg armed
      rw [now, ← guardLook_congr env plan candle window cfg _ agree]
      cases looked : guardLook env plan candle window cfg (fun _ => true) state rule with
      | none => rfl
      | some look =>
        have unmoved : look = (none, state.memory rule.ruleId) := by
          by_contra stirs
          exact idle ⟨rule, member, by simpa using terminal, look, looked, stirs⟩
        rw [unmoved, agree.memory]
        exact congrArg (fun state => { scan.tally with state }) (scan.turn.state.remember_self rule.ruleId)
    · simp [guardLook, armed, GuardTally.look]

end

/-- Where no close is armed by the order, the scan comes to the looks in any order. -/
theorem guards_tally {turn : PlanTurn} (steady : ¬ArmedByOrder env plan candle window cfg turn.state)
    {rules : List ConditionRule} (perm : rules.Perm plan.rules) (ids : (rules.map (·.ruleId)).Nodup) :
    (rules.foldl (evaluateGuard env plan candle window cfg) { turn }).tally =
      rules.foldl (fun tally rule => tally.look candle rule
        (guardLook env plan candle window cfg (steadilyArmed turn.state) turn.state rule))
        (GuardScan.tally { turn }) := by
  have agree : ∀ rule ∈ rules, turn.state.AgreeOn turn.state rule.ruleId := fun _ _ => .refl _ _
  have scanned := fun inv => scan_tally env plan candle window cfg turn.state (steadilyArmed turn.state) inv ids
  by_cases all : turn.state.phase = .awaitEntry ∨ turn.state.entriesBlocked = true
  · refine (scanned (fun scan => scan.turn.state.phase = .awaitEntry ∨
      scan.turn.state.entriesBlocked = true) ?_ all agree).1
    intro rule member scan still same
    exact evaluateGuard_armed same all still
  · obtain ⟨early, unblocked⟩ := not_or.mp all
    rw [Bool.not_eq_true] at unblocked
    by_cases blocker : BlockerFires env plan candle window cfg turn.state
    · have idle : ¬CloseStirs env plan candle window cfg turn.state := fun stirs =>
        steady ⟨early, unblocked, blocker, stirs⟩
      refine (scanned (fun _ => True) ?_ trivial agree).1
      intro rule member scan _ same
      exact ⟨evaluateGuard_idle same (perm.mem_iff.mp member) early unblocked idle, trivial⟩
    · refine (scanned (fun scan => scan.turn.state.phase ≠ .awaitEntry ∧
        scan.turn.state.entriesBlocked = false) ?_ ⟨early, unblocked⟩ agree).1
      intro rule member scan quiet same
      exact evaluateGuard_calm same (perm.mem_iff.mp member) early unblocked blocker quiet

end TradeControl
