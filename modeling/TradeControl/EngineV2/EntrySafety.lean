import TradeControl.EngineV2.RuleTurns
import TradeControl.EvaluatePlan

namespace TradeControl.EngineV2

open Foundation

def breakKey : String × String := (necklineName, breakCloseName)

def retestKey : String × String := (necklineName, retestName)

def invalidatedKey : String × String := (planScope, invalidatedName)

def pausedKey : String × String := (planScope, pausedName)

/-- The facts that are stamped and stay. -/
def milestoneKeys : List (String × String) := [breakKey, retestKey, invalidatedKey]

/-- The one entry a kind of rule writes. -/
def RuleKind.factKey : RuleKind → Option (String × String)
  | .breakAndClose => some breakKey
  | .retest => some retestKey
  | .enter => none
  | .invalidateHigh | .invalidateLow | .expiry => some invalidatedKey
  | .pause => some pausedKey

theorem PlanRule.keys_recordLastClose (rule : PlanRule) (candle : Candle) :
    (rule.recordLastClose candle).filterMap Effect.factKey = [] := by
  unfold PlanRule.recordLastClose
  split <;> rfl

theorem invalidate_keys {env : EngineEnv} {rule : PlanRule} {w : World} (name : String) :
    (invalidateTick env name rule w).filterMap Effect.factKey = [] ∨ ∃ key,
      some invalidatedKey = some key ∧ (key ∈ milestoneKeys → w.facts.isSetNamed key.1 key.2 = false) ∧
      (invalidateTick env name rule w).filterMap Effect.factKey = [key] := by
  have recorded := rule.keys_recordLastClose
  rcases invalidateTick_shape env name rule w with
    shape | ⟨unset, candle, -, shape | shape⟩ <;> rw [shape]
  · exact .inl rfl
  · exact .inl (recorded candle)
  · refine .inr ⟨invalidatedKey, rfl, fun _ => unset, ?_⟩
    rw [List.filterMap_append, recorded candle]
    rfl

/-- A rule writes nothing, or its own kind's entry once; a milestone only while it is unset. -/
theorem tickRule_keys (env : EngineEnv) (rule : PlanRule) (w : World) :
    (tickRule env rule w).filterMap Effect.factKey = [] ∨ ∃ key, rule.kind.factKey = some key ∧
      (key ∈ milestoneKeys → w.facts.isSetNamed key.1 key.2 = false) ∧
      (tickRule env rule w).filterMap Effect.factKey = [key] := by
  have recorded := rule.keys_recordLastClose
  unfold tickRule
  cases rule.kind <;> dsimp only
  case breakAndClose =>
    rcases breakAndCloseTick_shape env necklineName rule w with
      shape | ⟨unset, candle, -, shape | shape⟩ <;> rw [shape]
    · exact .inl rfl
    · exact .inl (recorded candle)
    · refine .inr ⟨breakKey, rfl, fun _ => unset, ?_⟩
      rw [List.filterMap_append, recorded candle]
      rfl
  case retest =>
    rcases retestTick_shape env necklineName rule w with
      shape | ⟨unset, _, candle, -, -, -, shape | shape⟩ <;> rw [shape]
    · exact .inl rfl
    · exact .inl (recorded candle)
    · refine .inr ⟨retestKey, rfl, fun _ => unset, ?_⟩
      rw [List.filterMap_append, recorded candle]
      rfl
  case enter =>
    rcases enterTick_shape rule w with shape | ⟨-, -, -, candle, -, shape⟩ <;> rw [shape]
    · exact .inl rfl
    · exact .inl rfl
  case invalidateHigh => exact invalidate_keys tooHighName
  case invalidateLow => exact invalidate_keys tooLowName
  case expiry =>
    rcases expiryTick_shape expiryName rule w with shape | ⟨unset, shape⟩ <;>
      rw [shape]
    · exact .inl rfl
    · exact .inr ⟨invalidatedKey, rfl, fun _ => unset, rfl⟩
  case pause =>
    rcases pauseTick_shape w with shape | ⟨on, shape⟩ <;> rw [shape]
    · exact .inl rfl
    · exact .inr ⟨pausedKey, rfl, fun milestone => absurd milestone (by decide), rfl⟩

theorem tickRule_factKey {env : EngineEnv} {rule : PlanRule} {w : World} {effect : Effect}
    {key : String × String} (member : effect ∈ tickRule env rule w) (writes : effect.factKey = some key) :
    rule.kind.factKey = some key := by
  have listed : key ∈ (tickRule env rule w).filterMap Effect.factKey :=
    List.mem_filterMap.mpr ⟨effect, member, writes⟩
  rcases tickRule_keys env rule w with silent | ⟨own, kindKey, -, one⟩
  · simp [silent] at listed
  · rw [one, List.mem_singleton] at listed
    rw [kindKey, listed]

/-- A milestone's rule writes it once at most, and not at all where it is set. -/
theorem tickRule_writes_le {env : EngineEnv} {rule : PlanRule} {w : World} {key : String × String}
    (milestone : key ∈ milestoneKeys) :
    (tickRule env rule w).countP (Effect.writes key) ≤ if w.facts.isSetNamed key.1 key.2 then 0 else 1 := by
  have counted : (tickRule env rule w).countP (Effect.writes key) =
      ((tickRule env rule w).filterMap Effect.factKey).countP (· == key) := by
    rw [List.countP_filterMap]
    refine List.countP_congr fun effect _ => ?_
    cases keyed : effect.factKey <;> simp [Effect.writes, keyed]
  rw [counted]
  rcases tickRule_keys env rule w with silent | ⟨own, -, unset, one⟩
  · simp [silent]
  · rw [one]
    by_cases same : own = key
    · subst same
      simp [unset milestone]
    · simp [same]

section Runs

variable (env : EngineEnv) (plan : TradePlan)

theorem Facts.isSetNamed_write_of_writes {now : Int} {facts : Facts} {effect : Effect}
    {key : String × String} (writes : effect.writes key) :
    (facts.write now effect).isSetNamed key.1 key.2 := by
  have keyed : effect.factKey = some key := by simpa [Effect.writes] using writes
  cases effect with
  | writeFact line kind value =>
    obtain rfl := Option.some.inj keyed
    simp [Facts.write, Facts.setNamed, Facts.isSetNamed]
  | invalidate ruleId =>
    obtain rfl := Option.some.inj keyed
    simp [Facts.write, Facts.setNamed, Facts.isSetNamed]
  | fire | writeScratch | placeOrder => simp [Effect.factKey] at keyed

theorem Facts.isSetNamed_write {now : Int} {facts : Facts} {effect : Effect} {key : String × String}
    (already : facts.isSetNamed key.1 key.2) : (facts.write now effect).isSetNamed key.1 key.2 := by
  by_cases writes : effect.writes key
  · exact Facts.isSetNamed_write_of_writes writes
  · have kept := Facts.write_entries_of_ne now facts
      (fun same => writes (by simp [Effect.writes, same]) : effect.factKey ≠ some key)
    simpa only [Facts.isSetNamed, kept] using already

/-- Over a whole run a milestone is written at most once. -/
theorem milestone_once (ticks : List BarTick) {key : String × String} (milestone : key ∈ milestoneKeys) :
    (effectsOfRun env plan ticks {}).countP (Effect.writes key) ≤ 1 := by
  rw [effectsOfRun_eq]
  exact (ruleTurns env plan).count_trace_le (fun facts => facts.isSetNamed key.1 key.2)
    (fun _ _ _ writes => Facts.isSetNamed_write_of_writes writes)
    (fun _ _ _ already => Facts.isSetNamed_write already)
    (fun _ _ _ => tickRule_writes_le milestone) {}

/-- A milestone that some effect of a run wrote is set after it. -/
theorem isSetNamed_of_written (ticks : List BarTick) {key : String × String} {effect : Effect}
    (member : effect ∈ effectsOfRun env plan ticks {}) (writes : effect.writes key) :
    (factsAfter env plan ticks).isSetNamed key.1 key.2 := by
  rw [effectsOfRun_eq] at member
  rw [factsAfter_eq]
  exact (ruleTurns env plan).after_made (fun facts => facts.isSetNamed key.1 key.2)
    (fun _ _ _ writes => Facts.isSetNamed_write_of_writes writes)
    (fun _ _ _ already => Facts.isSetNamed_write already) member writes

/-- A rule's turn leaves every entry but its own kind's as it was. -/
theorem turn_entries_of_ne (facts : Facts) (bar : List Candle × Int) (rule : PlanRule)
    {key : String × String} (other : rule.kind.factKey ≠ some key) :
    ((ruleTurns env plan).turn facts (bar, rule)).entries key = facts.entries key :=
  (ruleTurns env plan).turn_frame (fun facts => facts.entries key) fun _ member _ =>
    Facts.write_entries_of_ne _ _ fun writes => other (tickRule_factKey member writes)

/-- A rule that writes no entry leaves them all. -/
theorem turn_entries_of_silent (facts : Facts) (bar : List Candle × Int) (rule : PlanRule)
    (silent : (tickRule env rule { now := bar.2, window := bar.1, facts, plan }).filterMap
      Effect.factKey = []) (key : String × String) :
    ((ruleTurns env plan).turn facts (bar, rule)).entries key = facts.entries key :=
  (ruleTurns env plan).turn_frame (fun facts => facts.entries key) fun effect member _ =>
    Facts.write_entries_of_ne _ _ fun writes =>
      absurd (silent ▸ List.mem_filterMap.mpr ⟨effect, member, writes⟩) List.not_mem_nil

end Runs

variable (env : EngineEnv) (plan : TradePlan)

/-- A retest follows a break. -/
def Facts.RetestLater (facts : Facts) : Prop :=
  ∀ retestAt, facts.atNamed necklineName retestName = some retestAt →
    ∃ breakAt, facts.atNamed necklineName breakCloseName = some breakAt ∧ breakAt < retestAt

theorem Facts.atNamed_congr {facts other : Facts} {line kind : String}
    (same : facts.entries (line, kind) = other.entries (line, kind)) :
    facts.atNamed line kind = other.atNamed line kind := by
  unfold Facts.atNamed
  rw [same]

theorem isSetNamed_of_atNamed {facts : Facts} {line kind : String} {time : Int}
    (stamp : facts.atNamed line kind = some time) : facts.isSetNamed line kind := by
  unfold Facts.atNamed at stamp
  split at stamp
  · rename_i entry
    simp [Facts.isSetNamed, entry]
  · cases stamp

theorem Facts.RetestLater.congr {facts other : Facts} (later : facts.RetestLater)
    (retest : other.entries retestKey = facts.entries retestKey)
    (broken : other.entries breakKey = facts.entries breakKey) : other.RetestLater := by
  intro retestAt stamp
  rw [Facts.atNamed_congr retest] at stamp
  obtain ⟨breakAt, break_stamp, before⟩ := later retestAt stamp
  exact ⟨breakAt, by rw [Facts.atNamed_congr broken, break_stamp], before⟩

/-- The break is written only while there is none, the retest only after the break's time. -/
theorem turn_retestLater (facts : Facts) (bar : List Candle × Int) (rule : PlanRule)
    (later : facts.RetestLater) : ((ruleTurns env plan).turn facts (bar, rule)).RetestLater := by
  have kept {key} (other : rule.kind.factKey ≠ some key) :=
    turn_entries_of_ne env plan facts bar rule other
  have untouched silent := later.congr
    (turn_entries_of_silent env plan facts bar rule silent retestKey)
    (turn_entries_of_silent env plan facts bar rule silent breakKey)
  cases kind : rule.kind
  case breakAndClose =>
    by_cases broken : facts.isSetNamed necklineName breakCloseName
    · refine untouched ?_
      simp [tickRule, kind, breakAndCloseTick, broken]
    · intro retestAt stamp
      rw [Facts.atNamed_congr (kept (by rw [kind]; decide))] at stamp
      obtain ⟨breakAt, break_stamp, -⟩ := later retestAt stamp
      exact absurd (isSetNamed_of_atNamed break_stamp) broken
  case retest =>
    have tick : tickRule env rule { now := bar.2, window := bar.1, facts, plan } =
        retestTick env necklineName rule { now := bar.2, window := bar.1, facts, plan } := by
      simp only [tickRule, kind]
    rcases retestTick_shape env necklineName rule { now := bar.2, window := bar.1, facts, plan } with
      shape | ⟨-, breakAt, candle, break_stamp, -, before, shape | shape⟩
    · exact untouched (by rw [tick, shape]; rfl)
    · exact untouched (by rw [tick, shape, rule.keys_recordLastClose])
    · intro retestAt stamp
      have stamped : ((ruleTurns env plan).turn facts (bar, rule)).atNamed necklineName retestName =
          some candle.time := by
        rw [Turns.turn, ruleTurns]
        dsimp only
        rw [tick, shape, List.foldl_append]
        simp [Facts.write, Facts.setNamed, Facts.atNamed]
      obtain rfl := Option.some.inj (stamped.symm.trans stamp)
      refine ⟨breakAt, ?_, before⟩
      rw [Facts.atNamed_congr (kept (by rw [kind]; decide)), break_stamp]
  all_goals exact later.congr (kept (by rw [kind]; decide)) (kept (by rw [kind]; decide))

theorem factsAfter_retestLater (ticks : List BarTick) : (factsAfter env plan ticks).RetestLater := by
  rw [factsAfter_eq]
  refine (ruleTurns env plan).after_invariant Facts.RetestLater
    (fun turn _ facts => turn_retestLater env plan facts turn.1 turn.2) ?_
  intro retestAt stamp
  simp [Facts.atNamed] at stamp

end TradeControl.EngineV2

namespace TradeControl.EngineV2

open Foundation

/-- Whose facts a kind of rule reads: the retest reads the break, the enter reads every other kind's. -/
def RuleKind.feeds : RuleKind → RuleKind → Bool
  | .breakAndClose, .retest => true
  | producer, .enter => producer != .enter
  | _, _ => false

/-- No rule is listed after one that reads what it writes. -/
def TradePlan.ProducersFirst (plan : TradePlan) : Prop :=
  plan.rules.Pairwise fun earlier later => later.kind.feeds earlier.kind = false

def TradePlan.hasPause (plan : TradePlan) : Bool := plan.rules.any (·.kind == .pause)

/-- The line has a time for each kind, strictly increasing. -/
def Facts.Stamped (facts : Facts) (line : String) (kinds : List String) : Prop :=
  ∃ times : List Int, kinds.map (facts.atNamed line) = times.map some ∧ times.Pairwise (· < ·)

theorem stamped_of_lineChain {facts : Facts} {line : String} {kinds : List String} (prev : Option Int)
    (satisfied : lineChainSatisfied facts line prev kinds = true) :
    ∃ times : List Int, kinds.map (facts.atNamed line) = times.map some ∧ times.Pairwise (· < ·) ∧
      ∀ time ∈ times, prev.all (· < time) = true := by
  induction kinds generalizing prev with
  | nil => exact ⟨[], rfl, .nil, by simp⟩
  | cons kind rest ih =>
    cases stamp : facts.atNamed line kind with
    | none => simp [lineChainSatisfied, stamp] at satisfied
    | some time =>
      simp only [lineChainSatisfied, stamp, Bool.and_eq_true] at satisfied
      obtain ⟨after, chain⟩ := satisfied
      obtain ⟨times, stamps, increasing, above⟩ := ih (some time) chain
      have later : ∀ next ∈ times, time < next := by simpa using above
      refine ⟨time :: times, by simp [stamp, stamps], List.pairwise_cons.mpr ⟨later, increasing⟩, ?_⟩
      intro next member
      rcases List.mem_cons.mp member with rfl | member
      · exact after
      · cases prev with
        | none => rfl
        | some first =>
          have start : first < time := by simpa using after
          simpa using start.trans (later next member)

theorem PlanRule.stamped_of_prepsSatisfied {rule : PlanRule} {facts : Facts}
    (satisfied : rule.prepsSatisfied facts = true) {line : String} {kinds : List String}
    (listed : (line, kinds) ∈ rule.preps) : facts.Stamped line kinds := by
  have chain := List.all_eq_true.mp satisfied _ listed
  obtain ⟨times, stamps, increasing, -⟩ := stamped_of_lineChain none chain
  exact ⟨times, stamps, increasing⟩

section Entries

variable (env : EngineEnv) (plan : TradePlan)

theorem feeds_enter {kind : RuleKind} (silent : kind.feeds .enter = false) : kind = .enter := by
  cases kind <;> first | rfl | simp [RuleKind.feeds] at silent

theorem tickRule_enter {rule : PlanRule} {w : World} (kind : rule.kind = .enter) :
    tickRule env rule w = enterTick rule w := by
  rw [tickRule, kind]

/-- An enter writes nothing. -/
theorem turn_enter (facts : Facts) (bar : List Candle × Int) {rule : PlanRule} (kind : rule.kind = .enter) :
    (ruleTurns env plan).turn facts (bar, rule) = facts := by
  unfold Turns.turn ruleTurns
  simp only [tickRule, kind]
  rcases enterTick_shape rule { now := bar.2, window := bar.1, facts, plan } with
    shape | ⟨-, -, -, candle, -, shape⟩ <;> rw [shape] <;> rfl

/-- Only an enter places. -/
theorem kind_of_placeOrder {rule : PlanRule} {w : World} {fired : FiredIntent}
    {mechanism : EntryMechanism} {price : Option Rat} {close : Rat}
    (member : .placeOrder fired mechanism price close ∈ tickRule env rule w) : rule.kind = .enter := by
  have scratch : ∀ candle, .placeOrder fired mechanism price close ∉ rule.recordLastClose candle := by
    intro candle
    unfold PlanRule.recordLastClose
    split <;> simp
  have caps : ∀ name, .placeOrder fired mechanism price close ∉ invalidateTick env name rule w := by
    intro name
    rcases invalidateTick_shape env name rule w with shape | ⟨-, candle, -, shape | shape⟩ <;>
      simp [shape, scratch]
  unfold tickRule at member
  cases kind : rule.kind <;> simp only [kind] at member
  case breakAndClose =>
    rcases breakAndCloseTick_shape env necklineName rule w with shape | ⟨-, candle, -, shape | shape⟩ <;>
      simp [shape, scratch] at member
  case retest =>
    rcases retestTick_shape env necklineName rule w with
      shape | ⟨-, _, candle, -, -, -, shape | shape⟩ <;> simp [shape, scratch] at member
  case invalidateHigh | invalidateLow => exact absurd member (caps _)
  case expiry =>
    rcases expiryTick_shape expiryName rule w with shape | ⟨-, shape⟩ <;> simp [shape] at member
  case pause =>
    rcases pauseTick_shape w with shape | ⟨on, shape⟩ <;> simp [shape] at member
  rfl

theorem Facts.flagNamed_congr {facts other : Facts} {line kind : String}
    (same : facts.entries (line, kind) = other.entries (line, kind)) :
    facts.flagNamed line kind = other.flagNamed line kind := by
  unfold Facts.flagNamed
  rw [same]

/-- The flag says whether the clock is inside a pause window. -/
def Facts.PausedAt (facts : Facts) (plan : TradePlan) (now : Int) : Prop :=
  (facts.flagNamed planScope pausedName).getD false = plan.pauseWindows.any (·.contains now)

theorem turn_pausedAt_of_pause (facts : Facts) (bar : List Candle × Int) {rule : PlanRule}
    (kind : rule.kind = .pause) : ((ruleTurns env plan).turn facts (bar, rule)).PausedAt plan bar.2 := by
  unfold Turns.turn ruleTurns
  simp only [tickRule, kind, pauseTick]
  by_cases same : plan.pauseWindows.any (·.contains bar.2) = (facts.flagNamed planScope pausedName).getD false
  · rw [if_pos same]
    exact same.symm
  · rw [if_neg same]
    simp [Facts.PausedAt, Facts.flagNamed, Facts.write, Facts.setNamed]

theorem turn_pausedAt {facts : Facts} {bar : List Candle × Int} (rule : PlanRule)
    (paused : facts.PausedAt plan bar.2) :
    ((ruleTurns env plan).turn facts (bar, rule)).PausedAt plan bar.2 := by
  by_cases kind : rule.kind = .pause
  · exact turn_pausedAt_of_pause env plan facts bar kind
  · have other : rule.kind.factKey ≠ some pausedKey := by
      cases own : rule.kind <;> first | exact absurd own kind | decide
    have kept := turn_entries_of_ne env plan facts bar rule other
    unfold Facts.PausedAt
    rw [Facts.flagNamed_congr kept]
    exact paused

/-- A turn of a bar with the rules listed before it and after it. -/
theorem turnsOn_split {bar : List Candle × Int} {earlier later : List ((List Candle × Int) × PlanRule)}
    {turn : (List Candle × Int) × PlanRule} (parts : plan.turnsOn bar = earlier ++ turn :: later) :
    ∃ before after, plan.rules = before ++ turn.2 :: after ∧ turn = (bar, turn.2) ∧
      earlier = before.map (fun rule => (bar, rule)) ∧ later = after.map (fun rule => (bar, rule)) := by
  unfold TradePlan.turnsOn at parts
  split at parts
  · simp at parts
  · obtain ⟨before, remaining, rules, first, second⟩ := List.map_eq_append_iff.mp parts
    obtain ⟨rule, after, split, here, rest⟩ := List.map_eq_cons_iff.mp second
    subst split here
    exact ⟨before, after, rules, rfl, first.symm, rest.symm⟩

/-- After an enter come enters only. -/
theorem enters_after_enter (ordered : plan.ProducersFirst) {before after : List PlanRule} {rule : PlanRule}
    (parts : plan.rules = before ++ rule :: after) (kind : rule.kind = .enter) :
    ∀ other ∈ after, other.kind = .enter := by
  intro other member
  unfold TradePlan.ProducersFirst at ordered
  rw [parts, List.pairwise_append, List.pairwise_cons] at ordered
  obtain ⟨-, ⟨fed, -⟩, -⟩ := ordered
  exact feeds_enter (by rw [← kind]; exact fed other member)

/-- Where a pause is listed, it is listed before every enter, and the enters find its flag up to date. -/
theorem pausedAt_after (ordered : plan.ProducersFirst) (listed : plan.hasPause = true)
    {before after : List PlanRule} {rule : PlanRule} (parts : plan.rules = before ++ rule :: after)
    (kind : rule.kind = .enter) (facts : Facts) (bar : List Candle × Int) :
    ((ruleTurns env plan).after (before.map fun rule => (bar, rule)) facts).PausedAt plan bar.2 := by
  obtain ⟨pause, member, isPause⟩ := List.any_eq_true.mp listed
  have pauses : pause.kind = .pause := by simpa using isPause
  have earlier : pause ∈ before := by
    rw [parts, List.mem_append, List.mem_cons] at member
    rcases member with here | rfl | late
    · exact here
    · rw [kind] at pauses
      cases pauses
    · have enters := enters_after_enter plan ordered parts kind pause late
      rw [pauses] at enters
      cases enters
  obtain ⟨first, rest, rfl⟩ := List.append_of_mem earlier
  rw [List.map_append, List.map_cons, Turns.after_append, Turns.after_cons]
  refine (ruleTurns env plan).after_invariant (fun facts => facts.PausedAt plan bar.2) ?_
    (turn_pausedAt_of_pause env plan _ bar pauses)
  intro turn member facts paused
  obtain ⟨other, -, rfl⟩ := List.mem_map.mp member
  exact turn_pausedAt env plan other paused

/-- An order is an enter's, asked for on the blackboard that the bar leaves. -/
theorem enter_of_placed (ordered : plan.ProducersFirst) {facts : Facts} {tick : BarTick}
    {fired : FiredIntent} {mechanism : EntryMechanism} {price : Option Rat} {close : Rat}
    (placed : .placeOrder fired mechanism price close ∈ (tickOnce env plan facts tick).2) :
    tick.latestBar = true ∧ ∃ rule ∈ plan.rules, rule.kind = .enter ∧
      .placeOrder fired mechanism price close ∈ enterTick rule
        { now := tick.now, window := tick.window, facts := (tickOnce env plan facts tick).1, plan } ∧
      (plan.hasPause = true → (tickOnce env plan facts tick).1.PausedAt plan tick.now) := by
  rw [tickOnce_eq] at placed ⊢
  obtain ⟨member, kept⟩ := List.mem_filter.mp placed
  obtain ⟨earlier, turn, later, parts, emitted⟩ := (ruleTurns env plan).exists_turn_of_mem_trace member
  obtain ⟨before, after, rules, turn_eq, rfl, rfl⟩ := turnsOn_split plan parts
  rw [turn_eq] at emitted
  have kind : turn.2.kind = .enter := kind_of_placeOrder env emitted
  have settled : (ruleTurns env plan).after (plan.turnsOn tick.bar) facts =
      (ruleTurns env plan).after (before.map fun rule => (tick.bar, rule)) facts := by
    rw [parts, Turns.after_append, Turns.after_cons, turn_eq, turn_enter env plan _ _ kind]
    refine (ruleTurns env plan).after_invariant (fun facts => facts = _) ?_ rfl
    intro next listed state same
    obtain ⟨other, member, rfl⟩ := List.mem_map.mp listed
    rw [turn_enter env plan _ _ (enters_after_enter plan ordered rules kind other member), same]
  refine ⟨kept, turn.2, by simp [rules], kind, ?_, ?_⟩
  · dsimp only
    rw [settled]
    exact tickRule_enter env kind ▸ emitted
  · intro listed
    dsimp only
    rw [settled]
    exact pausedAt_after env plan ordered listed rules kind facts tick.bar

end Entries

/-- What one bar of a run keeps for its orders: the newest bar only, after every prep in order, with no
invalidation up to it, and outside the pause windows where the plan lists the rule that watches them. -/
def OrderSafe (env : EngineEnv) (plan : TradePlan) (ticks : List BarTick) (tick : BarTick)
    (fired : FiredIntent) : Prop :=
  tick.latestBar = true ∧
    (∃ rule ∈ plan.rules, ∃ candle, rule.kind = .enter ∧ tick.window.getLast? = some candle ∧
      fired = firedIntent rule candle ∧
      ∀ line kinds, (line, kinds) ∈ rule.preps → (factsAfter env plan (ticks ++ [tick])).Stamped line kinds) ∧
    (∀ effect ∈ effectsOfRun env plan (ticks ++ [tick]) {}, effect.factKey ≠ some invalidatedKey) ∧
    (plan.hasPause = true → ∀ window ∈ plan.pauseWindows, window.contains tick.now = false)

theorem factsAfter_snoc (env : EngineEnv) (plan : TradePlan) (ticks : List BarTick) (tick : BarTick) :
    factsAfter env plan (ticks ++ [tick]) = (tickOnce env plan (factsAfter env plan ticks) tick).1 := by
  simp only [factsAfter, List.foldl_append, List.foldl_cons, List.foldl_nil]

/-- The blackboard does not depend on which bars are the newest. -/
theorem factsAfter_congr (env : EngineEnv) (plan : TradePlan) {ticks other : List BarTick}
    (same : ticks.map BarTick.bar = other.map BarTick.bar) :
    factsAfter env plan ticks = factsAfter env plan other := by
  rw [factsAfter_eq, factsAfter_eq, TradePlan.turnsOf, same, TradePlan.turnsOf]

theorem orderSafe_of_placed (env : EngineEnv) (plan : TradePlan) (ordered : plan.ProducersFirst)
    (ticks : List BarTick) (tick : BarTick) {fired : FiredIntent} {mechanism : EntryMechanism}
    {price : Option Rat} {close : Rat}
    (placed : .placeOrder fired mechanism price close ∈
      (tickOnce env plan (factsAfter env plan ticks) tick).2) :
    OrderSafe env plan ticks tick fired := by
  obtain ⟨newest, rule, listed, kind, asked, watched⟩ := enter_of_placed env plan ordered placed
  rw [← factsAfter_snoc] at asked watched
  rcases enterTick_shape rule ⟨tick.now, tick.window, factsAfter env plan (ticks ++ [tick]), plan⟩ with
    shape | ⟨valid, calm, satisfied, candle, current, shape⟩
  · simp [shape] at asked
  · rw [shape, List.mem_singleton] at asked
    obtain ⟨rfl, -⟩ := Effect.placeOrder.inj asked
    refine ⟨newest, ⟨rule, listed, candle, kind, current, rfl, ?_⟩, ?_, ?_⟩
    · exact fun line kinds prep => rule.stamped_of_prepsSatisfied satisfied prep
    · intro effect member written
      have set := isSetNamed_of_written env plan (ticks ++ [tick]) member
        (by simp [Effect.writes, written] : effect.writes invalidatedKey)
      exact absurd (valid.symm.trans set) (by decide)
    · intro pauses window member
      have flag := watched pauses
      unfold Facts.PausedAt at flag
      by_contra inside
      have some_window : plan.pauseWindows.any (·.contains tick.now) = true :=
        List.any_eq_true.mpr ⟨window, member, by simpa using inside⟩
      rw [some_window] at flag
      cases entry : (factsAfter env plan (ticks ++ [tick])).flagNamed planScope pausedName with
      | none => simp [entry] at flag
      | some on =>
        obtain rfl : on = true := by simpa [entry] using flag
        exact calm entry

/-- Over every run each milestone is written once, a retest comes after its break, the newest-bar flags do
not reach the blackboard, and an order is safe. -/
theorem blackboard_safe (env : EngineEnv) (plan : TradePlan) (ordered : plan.ProducersFirst)
    (ticks : List BarTick) :
    (∀ key ∈ milestoneKeys, (effectsOfRun env plan ticks {}).countP (Effect.writes key) ≤ 1) ∧
      (factsAfter env plan ticks).RetestLater ∧
      (∀ other : List BarTick, other.map BarTick.bar = ticks.map BarTick.bar →
        factsAfter env plan other = factsAfter env plan ticks) ∧
      ∀ tick fired mechanism price close,
        .placeOrder fired mechanism price close ∈ (tickOnce env plan (factsAfter env plan ticks) tick).2 →
        OrderSafe env plan ticks tick fired :=
  ⟨fun _ milestone => milestone_once env plan ticks milestone, factsAfter_retestLater env plan ticks,
    fun _ same => factsAfter_congr env plan same,
    fun tick _ _ _ _ placed => orderSafe_of_placed env plan ordered ticks tick placed⟩


section Watched

def lineEnter : PlanRule where
  id := "enter"
  kind := .enter
  intent := { id := "enter", notAfter := 1000, instrument := "EUR_USD" }
  bar := .onClose
  dir := .up
  preps := [(necklineName, [])]

def pauseRule : PlanRule := { lineEnter with id := "pause", kind := .pause, preps := [] }

def standoffPlan (rules : List PlanRule) : TradePlan where
  granularity := .h1
  pauseWindows := [⟨40, 100⟩]
  rules := rules

def standoffBar (now : Int) : BarTick where
  window := [⟨0, 1, 1, 1, 1⟩]
  now := now
  latestBar := true

theorem blackboard_safe_outsideNews :
    OrderSafe calmEngine (standoffPlan [pauseRule, lineEnter]) [standoffBar 50] (standoffBar 100)
      (firedIntent lineEnter ⟨0, 1, 1, 1, 1⟩) :=
  (blackboard_safe calmEngine (standoffPlan [pauseRule, lineEnter])
    (by unfold TradePlan.ProducersFirst; decide) [standoffBar 50]).2.2.2 (standoffBar 100) _ .stop none 1
    (List.mem_singleton.mpr rfl)

/-- Without the rule that watches the windows an order goes out inside one. -/
theorem unwatched_orders :
    (standoffPlan [lineEnter]).ProducersFirst ∧
      .placeOrder (firedIntent lineEnter ⟨0, 1, 1, 1, 1⟩) .stop none 1 ∈
        (tickOnce calmEngine (standoffPlan [lineEnter]) (factsAfter calmEngine (standoffPlan [lineEnter]) [])
          (standoffBar 50)).2 ∧
      ∃ window ∈ (standoffPlan [lineEnter]).pauseWindows, window.contains (standoffBar 50).now = true :=
  ⟨by unfold TradePlan.ProducersFirst; decide, List.mem_singleton.mpr rfl, ⟨40, 100⟩,
    List.mem_singleton.mpr rfl, by decide⟩

end Watched

end TradeControl.EngineV2
