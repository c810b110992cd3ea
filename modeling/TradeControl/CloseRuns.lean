import TradeControl.PlanRuns
import TradeControl.SteadyGuards

namespace TradeControl

variable (env : EngineEnv) (plan : TradePlan) (candle : Candle) (window : List Candle)
  (cfg : DetectorConfig)

/-- The bar's guards come to the same in any order of the rules: the same fires, the same state. -/
def OrderFree (turn : PlanTurn) : Prop :=
  ∀ rules : List ConditionRule, rules.Perm plan.rules →
    (evaluateGuards env { plan with rules } candle window cfg turn).state =
        (evaluateGuards env plan candle window cfg turn).state ∧
      (evaluateGuards env { plan with rules } candle window cfg turn).fired.Perm
        (evaluateGuards env plan candle window cfg turn).fired

/-- What a plan keeps of a bar's scan. -/
def GuardTally.kept (tally : GuardTally) : PlanState × Multiset FiredIntent :=
  (if tally.terminalFired then { tally.state with phase := .done } else tally.state, tally.fired)

theorem evaluateGuards_kept (rules : List ConditionRule) (turn : PlanTurn) :
    ((evaluateGuards env { plan with rules } candle window cfg turn).state,
      ((evaluateGuards env { plan with rules } candle window cfg turn).fired : Multiset FiredIntent)) =
        (rules.foldl (evaluateGuard env plan candle window cfg) { turn }).tally.kept := by
  have same : evaluateGuard env { plan with rules } candle window cfg =
      evaluateGuard env plan candle window cfg := rfl
  unfold evaluateGuards GuardTally.kept GuardScan.tally
  rw [same]
  dsimp only
  split
  · rfl
  · rfl

theorem orderFree_iff_kept (turn : PlanTurn) :
    OrderFree env plan candle window cfg turn ↔ ∀ rules : List ConditionRule, rules.Perm plan.rules →
      (rules.foldl (evaluateGuard env plan candle window cfg) { turn }).tally.kept =
        (plan.rules.foldl (evaluateGuard env plan candle window cfg) { turn }).tally.kept := by
  refine forall_congr' fun rules => imp_congr_right fun _ => ?_
  rw [← evaluateGuards_kept, ← evaluateGuards_kept, Prod.mk.injEq, Multiset.coe_eq_coe]

theorem evaluateGuard_agreeOn {rule : ConditionRule} {ruleId : String} (apart : ruleId ≠ rule.ruleId)
    (scan : GuardScan) :
    scan.turn.state.AgreeOn (evaluateGuard env plan candle window cfg scan rule).turn.state ruleId := by
  have moved := scan.tally.look_agreeOn candle (guardLook env plan candle window cfg
    (fun rule => armedInRule rule scan.turn.state.phase scan.turn.state.entriesBlocked)
    scan.turn.state rule) apart
  rw [← evaluateGuard_tally] at moved
  exact moved

/-- Looks at other rules leave what this rule's look reads. -/
theorem foldl_evaluateGuard_agreeOn {rules : List ConditionRule} {ruleId : String}
    (apart : ∀ rule ∈ rules, ruleId ≠ rule.ruleId) (scan : GuardScan) :
    scan.turn.state.AgreeOn (rules.foldl (evaluateGuard env plan candle window cfg) scan).turn.state ruleId := by
  induction rules generalizing scan with
  | nil => exact .refl _ _
  | cons rule rest ih =>
    have moved := evaluateGuard_agreeOn env plan candle window cfg (apart rule (List.mem_cons_self ..)) scan
    exact moved.trans (ih (fun other member => apart other (List.mem_cons_of_mem _ member)) _)

theorem GuardScan.kept_agreeOn (scan : GuardScan) (ruleId : String) :
    scan.turn.state.AgreeOn scan.tally.kept.1 ruleId := by
  unfold GuardTally.kept
  split
  · exact ⟨Iff.rfl, rfl, rfl⟩
  · exact .refl _ _

/-- Two rules of a plan can be listed first, in either order. -/
theorem listed_first {rules : List ConditionRule} {first second : ConditionRule} (member : first ∈ rules)
    (member' : second ∈ rules) (apart : first ≠ second) :
    ∃ rest, (first :: second :: rest).Perm rules ∧ (second :: first :: rest).Perm rules := by
  obtain ⟨before, after, rfl⟩ := List.append_of_mem member
  have others : second ∈ before ++ after := by
    simp only [List.mem_append, List.mem_cons] at member' ⊢
    rcases member' with earlier | rfl | later
    · exact .inl earlier
    · exact absurd rfl apart
    · exact .inr later
  obtain ⟨before', after', same⟩ := List.append_of_mem others
  have firstly : (first :: second :: (before' ++ after')).Perm (before ++ first :: after) := by
    refine (List.Perm.cons first ?_).trans List.perm_middle.symm
    rw [same]
    exact List.perm_middle.symm
  exact ⟨before' ++ after', firstly, (List.Perm.swap ..).trans firstly⟩

/-- A look leaves the memory it comes to, and the latch of a rule that fires. -/
theorem GuardTally.look_own (tally : GuardTally) (rule : ConditionRule) (look : GuardLook) :
    (tally.look candle rule (some look)).state.memory rule.ruleId = look.2 ∧
      (rule.ruleId ∈ (tally.look candle rule (some look)).state.fired ↔
        look.1.isSome = true ∨ rule.ruleId ∈ tally.state.fired) := by
  obtain ⟨_ | signal, memory⟩ := look
  · exact ⟨tally.state.remember_memory _ _, by simp [GuardTally.look, PlanState.remember]⟩
  · exact ⟨tally.state.remember_memory _ _, by simp [GuardTally.look]⟩

/-- A close listed before the invalidation that would arm it is passed over. -/
theorem close_first {turn : PlanTurn} {close : ConditionRule} {rest : List ConditionRule}
    (early : turn.state.phase ≠ .awaitEntry) (unblocked : turn.state.entriesBlocked = false)
    (perPosition : guardIsTerminal close = false) (apart : ∀ rule ∈ rest, close.ruleId ≠ rule.ruleId) :
    turn.state.AgreeOn
      ((close :: rest).foldl (evaluateGuard env plan candle window cfg) { turn }).turn.state close.ruleId := by
  have passed : (evaluateGuard env plan candle window cfg { turn } close).tally = GuardScan.tally { turn } := by
    rw [evaluateGuard_tally]
    simp [guardLook, armedInRule, early, unblocked, perPosition, GuardTally.look]
  have same : (evaluateGuard env plan candle window cfg { turn } close).turn.state = turn.state :=
    congrArg (·.state) passed
  have frame := foldl_evaluateGuard_agreeOn env plan candle window cfg apart
    (evaluateGuard env plan candle window cfg { turn } close)
  rw [same] at frame
  exact frame

/-- A close listed after an invalidation that blocks the entries is looked at. -/
theorem close_second {turn : PlanTurn} {blocker close : ConditionRule} {rest : List ConditionRule}
    {look : GuardLook} (blocks : blocksEntries blocker = true)
    (fires : ∃ signal memory, guardLook env plan candle window cfg (fun _ => true) turn.state blocker =
      some (some signal, memory))
    (looked : guardLook env plan candle window cfg (fun _ => true) turn.state close = some look)
    (other : close.ruleId ≠ blocker.ruleId) (apart : ∀ rule ∈ rest, close.ruleId ≠ rule.ruleId) :
    ∃ state : PlanState, state.memory close.ruleId = look.2 ∧
      (close.ruleId ∈ state.fired ↔ look.1.isSome = true ∨ close.ruleId ∈ turn.state.fired) ∧
      state.AgreeOn
        ((blocker :: close :: rest).foldl (evaluateGuard env plan candle window cfg) { turn }).turn.state
        close.ruleId := by
  obtain ⟨blocked, arrived⟩ : ∃ scan, scan = evaluateGuard env plan candle window cfg { turn } blocker :=
    ⟨_, rfl⟩
  have armed : blocked.turn.state.entriesBlocked = true := by
    rw [arrived, evaluateGuard_blocked]
    exact .inr ⟨blocks, fires⟩
  have agree : turn.state.AgreeOn blocked.turn.state close.ruleId := by
    rw [arrived]
    exact evaluateGuard_agreeOn env plan candle window cfg other { turn }
  have now : guardLook env plan candle window cfg
      (fun rule => armedInRule rule blocked.turn.state.phase blocked.turn.state.entriesBlocked)
      blocked.turn.state close = some look := by
    have all : armedInRule close blocked.turn.state.phase blocked.turn.state.entriesBlocked = true := by
      simp only [armedInRule, armed, Bool.or_true]
    rw [← looked, guardLook_congr env plan candle window cfg _ agree]
    exact guardLook_armed env plan candle window cfg all
  have tally := evaluateGuard_tally env plan candle window cfg blocked close
  rw [now] at tally
  obtain ⟨memory, latched⟩ := blocked.tally.look_own candle close look
  rw [← tally] at memory latched
  refine ⟨_, memory, latched.trans (or_congr_right agree.fired.symm), ?_⟩
  rw [List.foldl_cons, List.foldl_cons, ← arrived]
  exact foldl_evaluateGuard_agreeOn env plan candle window cfg apart _

/-- The guards of a bar are independent of the rules' order except where the order arms a close. -/
theorem orderFree_iff (ids : (plan.rules.map (·.ruleId)).Nodup) (turn : PlanTurn) :
    OrderFree env plan candle window cfg turn ↔ ¬ArmedByOrder env plan candle window cfg turn.state := by
  rw [orderFree_iff_kept]
  constructor
  · rintro free ⟨early, unblocked, ⟨blocker, member, blocks, fires⟩, stirred⟩
    obtain ⟨close, member', perPosition, look, looked, stirs⟩ := stirred
    have apart : blocker ≠ close := by
      rintro rfl
      rw [blocksEntries, perPosition] at blocks
      cases blocks
    have other : close.ruleId ≠ blocker.ruleId := fun same =>
      apart (List.inj_on_of_nodup_map ids member member' same.symm)
    obtain ⟨rest, firstly, secondly⟩ := listed_first member member' apart
    have distinct : ((close :: blocker :: rest).map (·.ruleId)).Nodup := (secondly.map _).nodup_iff.mpr ids
    have apart' : ∀ rule ∈ blocker :: rest, close.ruleId ≠ rule.ruleId := by
      intro rule listed same
      have again : rule.ruleId ∈ (blocker :: rest).map (·.ruleId) := List.mem_map_of_mem listed
      rw [← same] at again
      exact (List.nodup_cons.mp distinct).1 again
    have passed := close_first env plan candle window cfg early unblocked perPosition apart'
    obtain ⟨state, memory, latched, later⟩ := close_second env plan candle window cfg blocks fires looked other
      fun rule listed => apart' rule (List.mem_cons_of_mem _ listed)
    have same := congrArg Prod.fst ((free _ secondly).trans (free _ firstly).symm)
    have passed' := passed.trans (GuardScan.kept_agreeOn _ close.ruleId)
    have later' := later.trans (GuardScan.kept_agreeOn _ close.ruleId)
    have unfired : close.ruleId ∉ turn.state.fired := by
      intro fired
      simp [guardLook, fired] at looked
    have silent : look.1 = none := by
      rw [← Option.not_isSome_iff_eq_none]
      intro fired
      exact unfired (passed'.fired.mpr (same ▸ later'.fired.mp (latched.mpr (.inl fired))))
    have unmoved : look.2 = turn.state.memory close.ruleId := by
      rw [← memory, later'.memory, passed'.memory]
      exact congrArg (·.memory close.ruleId) same.symm
    exact stirs (Prod.ext silent unmoved)
  · intro steady rules perm
    have ids' : (rules.map (·.ruleId)).Nodup := (perm.map _).nodup_iff.mpr ids
    rw [guards_tally env plan candle window cfg steady perm ids',
      guards_tally env plan candle window cfg steady (.refl _) ids]
    congr 1
    refine perm.foldl_eq' (fun rule member rule' member' tally => ?_) _
    by_cases same : rule.ruleId = rule'.ruleId
    · rw [List.inj_on_of_nodup_map ids' member member' same]
    · exact tally.look_comm candle same _ _

end TradeControl

namespace TradeControl

open Foundation Relation

variable (env : EngineEnv) (plan : TradePlan) (candle : Candle) (window : List Candle)
  (cfg : DetectorConfig)

/-- A guard's turn latches that guard alone, and only where it is looked at. -/
theorem evaluateGuard_latches (scan : GuardScan) (rule : ConditionRule) {ruleId : String}
    (latched : ruleId ∈ (evaluateGuard env plan candle window cfg scan rule).turn.state.fired) :
    ruleId ∈ scan.turn.state.fired ∨ ruleId = rule.ruleId ∧
      armedInRule rule scan.turn.state.phase scan.turn.state.entriesBlocked = true := by
  have tally := congrArg (·.state.fired) (evaluateGuard_tally env plan candle window cfg scan rule)
  change (evaluateGuard env plan candle window cfg scan rule).turn.state.fired = _ at tally
  rw [tally] at latched
  by_cases armed : armedInRule rule scan.turn.state.phase scan.turn.state.entriesBlocked = true
  · rcases looked : guardLook env plan candle window cfg
        (fun rule => armedInRule rule scan.turn.state.phase scan.turn.state.entriesBlocked)
        scan.turn.state rule with _ | ⟨_ | signal, memory⟩
    · rw [looked] at latched
      exact .inl latched
    · rw [looked] at latched
      exact .inl latched
    · rw [looked] at latched
      rcases Finset.mem_insert.mp latched with own | before
      · exact .inr ⟨own, armed⟩
      · exact .inl before
  · have passed : guardLook env plan candle window cfg
        (fun rule => armedInRule rule scan.turn.state.phase scan.turn.state.entriesBlocked)
        scan.turn.state rule = none := by simp [guardLook, armed]
    rw [passed] at latched
    exact .inl latched

/-- A per-position close of the plan fires between two states. -/
def Closes (before after : PlanState) : Prop :=
  ∃ rule ∈ plan.rules, guardIsTerminal rule = false ∧
    rule.ruleId ∉ before.fired ∧ rule.ruleId ∈ after.fired

/-- A scan before the entry phase that has neither blocked the entries nor closed anything. -/
structure GuardScan.Quiet (scan : GuardScan) (plan : TradePlan) (before : PlanState) : Prop where
  early : scan.turn.state.phase ≠ .awaitEntry
  unblocked : scan.turn.state.entriesBlocked = false
  closes : ∀ rule ∈ plan.rules, guardIsTerminal rule = false →
    rule.ruleId ∈ scan.turn.state.fired → rule.ruleId ∈ before.fired

/-- Before the entry phase, with nothing blocking the entries, a bar's guards close no position. -/
theorem evaluateGuards_quiet (ids : (plan.rules.map (·.ruleId)).Nodup) {turn : PlanTurn}
    (early : turn.state.phase ≠ .awaitEntry) (unblocked : turn.state.entriesBlocked = false)
    (calm : ¬BlockerFires env plan candle window cfg turn.state) :
    (evaluateGuards env plan candle window cfg turn).state.entriesBlocked = false ∧
      ¬Closes plan turn.state (evaluateGuards env plan candle window cfg turn).state := by
  have agree : ∀ rule ∈ plan.rules, turn.state.AgreeOn turn.state rule.ruleId := fun _ _ => .refl _ _
  have initial : GuardScan.Quiet { turn } plan turn.state := ⟨early, unblocked, fun _ _ _ fired => fired⟩
  have done : (plan.rules.foldl (evaluateGuard env plan candle window cfg) { turn }).Quiet plan turn.state := by
    refine (scan_tally env plan candle window cfg turn.state (steadilyArmed turn.state)
      (fun scan => scan.Quiet plan turn.state) ids ?_ initial agree).2
    intro rule member scan quiet same
    obtain ⟨tally, early', unblocked'⟩ :=
      evaluateGuard_calm same member early unblocked calm ⟨quiet.early, quiet.unblocked⟩
    refine ⟨tally, early', unblocked', ?_⟩
    intro close member' perPosition latched
    rcases evaluateGuard_latches env plan candle window cfg scan rule latched with before | ⟨own, armed⟩
    · exact quiet.closes close member' perPosition before
    · rw [List.inj_on_of_nodup_map ids member' member own] at perPosition
      simp [armedInRule, perPosition, quiet.early, quiet.unblocked] at armed
  have state : (evaluateGuards env plan candle window cfg turn).state.entriesBlocked =
        (plan.rules.foldl (evaluateGuard env plan candle window cfg) { turn }).turn.state.entriesBlocked ∧
      (evaluateGuards env plan candle window cfg turn).state.fired =
        (plan.rules.foldl (evaluateGuard env plan candle window cfg) { turn }).turn.state.fired := by
    unfold evaluateGuards
    dsimp only
    split
    · exact ⟨rfl, rfl⟩
    · exact ⟨rfl, rfl⟩
  refine ⟨state.1.trans done.unblocked, ?_⟩
  rintro ⟨close, member, perPosition, fresh, latched⟩
  rw [state.2] at latched
  exact fresh (done.closes close member perPosition latched)

theorem PlanState.afterEntry_blocked (state : PlanState) (rule : ConditionRule) (signal : Option LatchedSignal) :
    (state.afterEntry plan rule signal).entriesBlocked = state.entriesBlocked := by
  have confirmed : ∀ state' : PlanState, state'.entriesBlocked = state.entriesBlocked →
      (if rule.fireMode = .once ∧ !isMultiShot rule then
        { state' with
          fired := insert rule.ruleId state'.fired
          phase :=
            if !plan.hasMaVeto ∧ !plan.entryConditions.requireMaAlignment then .done else state'.phase }
        else state').entriesBlocked = state.entriesBlocked := by
    intro state' same
    split
    · exact same
    · exact same
  unfold afterEntry
  refine confirmed _ ?_
  split
  · split
    · rfl
    · rfl
  · rfl

theorem SpineMove.blocked {started : Phase} {before after : PlanTurn}
    (move : SpineMove plan candle started before after) :
    after.state.entriesBlocked = before.state.entriesBlocked := by
  cases move with
  | remembered memory =>
    obtain ⟨originOpen, lastClose, rfl⟩ := memory
    rfl
  | entered signal =>
    rw [PlanTurn.pushFire_state]
    exact PlanState.afterEntry_blocked ..
  | _ => rfl

/-- Only a bar's guards block the entries. -/
theorem evaluateBar_blocked (now : Int) (turn : PlanTurn) :
    (evaluateBar env plan window now turn candle).state.entriesBlocked =
      (evaluateWatch env plan candle window (DetectorConfig.pineDefaults plan.granularity) now
        turn).state.entriesBlocked := by
  unfold evaluateBar
  dsimp only
  generalize evaluateWatch env plan candle window (DetectorConfig.pineDefaults plan.granularity) now turn = watched
  split
  · rfl
  split
  · rfl
  obtain ⟨retraced, first⟩ := stampRetrace_prepared env plan candle window watched.state
  obtain ⟨touched, second⟩ := stampMaTouch_prepared env plan candle window
    { watched.state with retraceSeenAt := retraced }
  rw [first, second]
  have spine := evaluateSpine_moves env plan candle window (DetectorConfig.pineDefaults plan.granularity)
    { watched with
      fired := watched.fired ++ (maAlignmentControl plan watched.state candle window).toList
      state := { watched.state with retraceSeenAt := retraced, maTouchSeenAt := touched } }
  exact moves_within (fun before after => after.state.entriesBlocked = before.state.entriesBlocked)
    (fun _ => rfl) (by intro _ _ _ one two; exact two.trans one) (fun _ _ move => move.blocked) spine

end TradeControl
