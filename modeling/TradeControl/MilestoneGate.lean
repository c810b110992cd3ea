import TradeControl.EntryGates
import TradeControl.Foundation.Collecting
import TradeControl.Foundation.LeastChoices
import TradeControl.SafeRuns
import TradeControl.World

namespace TradeControl

open Foundation

/-! The prep gate's walk over its slots, against the choices it stands for. -/

/-- The times at which a slot's alternatives are set. -/
def PrepReq.setTimes (slot : PrepReq) (setAt : String → Option Int) : List Int :=
  slot.alternatives.filterMap setAt

/-- One set alternative for each slot, at times that rise from slot to slot. -/
def SlotChoice (setAt : String → Option Int) (slots : List PrepReq) (times : List Int) : Prop :=
  List.Forall₂ (fun time slot => ∃ step ∈ slot.alternatives, setAt step = some time) times slots ∧
    times.Pairwise (· < ·)

section
variable {setAt : String → Option Int} {slots : List PrepReq} {prev : Option Int}

theorem PrepReq.mem_setTimes {slot : PrepReq} {time : Int} :
    time ∈ slot.setTimes setAt ↔ ∃ step ∈ slot.alternatives, setAt step = some time := by
  unfold PrepReq.setTimes
  exact List.mem_filterMap

theorem PrepReq.setTimes_eq_nil {slot : PrepReq} :
    slot.setTimes setAt = [] ↔ ∀ step ∈ slot.alternatives, setAt step = none := by
  unfold PrepReq.setTimes
  exact List.filterMap_eq_nil_iff

theorem slotChoice_iff {times : List Int} :
    SlotChoice setAt slots times ↔ Chosen none (slots.map fun slot => slot.setTimes setAt) times := by
  have listed : List.Forall₂ (fun time slot => ∃ step ∈ PrepReq.alternatives slot, setAt step = some time) times slots ↔
      List.Forall₂ (· ∈ ·) times (slots.map fun slot => slot.setTimes setAt) := by
    rw [List.forall₂_map_right_iff]
    refine ⟨fun chosen => chosen.imp fun _ _ => PrepReq.mem_setTimes.mpr, fun chosen => ?_⟩
    exact chosen.imp fun _ _ => PrepReq.mem_setTimes.mp
  unfold SlotChoice
  rw [listed]
  exact ⟨fun chosen => ⟨chosen.1, chosen.2⟩, fun chosen => ⟨chosen.listed, chosen.rising⟩⟩

/-- A slot resolves to its earliest alternative after the slot before. -/
theorem resolveSlot_eq (slot : PrepReq) : resolveSlot (slot.alternatives.map setAt) prev =
    match leastAfter prev (slot.setTimes setAt) with
    | some time => .satisfied time
    | none => if (slot.setTimes setAt).isEmpty then .missing else .outOfOrder := by
  have times : (slot.alternatives.map setAt).filterMap id = slot.setTimes setAt := by
    rw [List.filterMap_map]
    rfl
  have least : ((slot.setTimes setAt).filter fun setAt => prev.all (· < setAt)).min? =
      leastAfter prev (slot.setTimes setAt) := rfl
  unfold resolveSlot
  rw [times]
  dsimp only
  rewrite [least]
  cases leastAfter prev (slot.setTimes setAt) with
  | none => rfl
  | some time => rfl

end

section
variable {ans : Answers} {call : EnterCall} {store : Store}

/-- When the store holds the step to be set. -/
def EnterCall.prepSetAt (call : EnterCall) (store : Store) (step : String) : Option Int :=
  store.getPrep call.now call.intent.instrument step

theorem prepGate_cons (answered : ∀ step, ans.store (.getPrep step) = true) (prev : Option Int) (slot : PrepReq)
    (rest : List PrepReq) : prepGate ans call store prev (slot :: rest) =
      match leastAfter prev (slot.setTimes (call.prepSetAt store)) with
      | some time => prepGate ans call store (some time) rest
      | none =>
        let label := String.intercalate "|" slot.alternatives
        if (slot.setTimes (call.prepSetAt store)).isEmpty then
          some (.rejected 412 "missing prep" s!"rejected: missing-prep ({label})")
        else some (.rejected 412 "prep order violated" s!"rejected: prep-order-violated ({label})") := by
  have heard : ¬ (slot.alternatives.any fun step => !ans.store (.getPrep step)) = true := by
    rw [List.any_eq_true]
    rintro ⟨step, _, unheard⟩
    rw [answered step] at unheard
    cases unheard
  have looked : slot.alternatives.map (store.getPrep call.now call.intent.instrument) =
      slot.alternatives.map (call.prepSetAt store) := rfl
  rw [prepGate]
  dsimp only
  rw [if_neg heard, looked, resolveSlot_eq]
  cases leastAfter prev (slot.setTimes (call.prepSetAt store)) with
  | some time => rfl
  | none =>
    dsimp only
    cases (slot.setTimes (call.prepSetAt store)).isEmpty with
    | true => rfl
    | false => rfl

theorem prepGate_eq_none_iff (answered : ∀ step, ans.store (.getPrep step) = true) (prev : Option Int)
    (slots : List PrepReq) : prepGate ans call store prev slots = none ↔
      ∃ times, Chosen prev (slots.map fun slot => slot.setTimes (call.prepSetAt store)) times := by
  induction slots generalizing prev with
  | nil => exact ⟨fun _ => ⟨[], chosen_nil⟩, fun _ => rfl⟩
  | cons slot rest ih =>
    rw [prepGate_cons answered, List.map_cons, exists_chosen_cons]
    cases leastAfter prev (slot.setTimes (call.prepSetAt store)) with
    | some time =>
      dsimp only
      rw [ih]
      refine ⟨fun chosen => ⟨time, rfl, chosen⟩, ?_⟩
      rintro ⟨_, ⟨⟩, chosen⟩
      exact chosen
    | none =>
      refine ⟨fun passed => ?_, nofun⟩
      dsimp only at passed
      split at passed
      · cases passed
      · cases passed

/-- The slot that the walk calls missing is the first that has no choice, and none of its preps is set. -/
theorem prepGate_missing (answered : ∀ step, ans.store (.getPrep step) = true) {prev : Option Int}
    {slots : List PrepReq} {outcome : String}
    (missing : prepGate ans call store prev slots = some (.rejected 412 "missing prep" outcome)) :
    ∃ before slot after, slots = before ++ slot :: after ∧
      (∃ times, Chosen prev (before.map fun slot => slot.setTimes (call.prepSetAt store)) times) ∧
      (¬ ∃ times, Chosen prev ((before ++ [slot]).map fun slot => slot.setTimes (call.prepSetAt store)) times) ∧
      slot.setTimes (call.prepSetAt store) = [] := by
  induction slots generalizing prev with
  | nil => cases missing
  | cons slot rest ih =>
    rw [prepGate_cons answered] at missing
    cases least : leastAfter prev (slot.setTimes (call.prepSetAt store)) with
    | some time =>
      rw [least] at missing
      obtain ⟨before, found, after, split, chosen, stuck, unset⟩ := ih missing
      refine ⟨slot :: before, found, after, by rw [split]; rfl, ?_, ?_, unset⟩
      · rw [List.map_cons, exists_chosen_cons]
        exact ⟨time, least, chosen⟩
      · rw [List.cons_append, List.map_cons, exists_chosen_cons]
        rintro ⟨other, same, further⟩
        cases least.symm.trans same
        exact stuck further
    | none =>
      rw [least] at missing
      refine ⟨[], slot, rest, rfl, ⟨[], chosen_nil⟩, ?_, ?_⟩
      · rw [List.nil_append, List.map_cons, exists_chosen_cons, least]
        exact nofun
      · dsimp only at missing
        split at missing
        next empty => exact List.isEmpty_iff.mp empty
        next => simp at missing

theorem prepGate_passes_iff (answered : ∀ step, ans.store (.getPrep step) = true) (slots : List PrepReq) :
    prepGate ans call store none slots = none ↔
      ∃ times, SlotChoice (call.prepSetAt store) slots times := by
  simp only [slotChoice_iff]
  exact prepGate_eq_none_iff answered none slots

/-- The walk of the prep gate passes exactly if one set alternative can be chosen for each slot so that the
times rise, and it calls a prep missing only at the first slot with which no such choice is left, and then
nothing of that slot is set. -/
theorem prepGate_complete (answered : ∀ step, ans.store (.getPrep step) = true) :
    (prepGate ans call store none call.intent.requiresPreps = none ↔
      ∃ times, SlotChoice (call.prepSetAt store) call.intent.requiresPreps times) ∧
    ∀ outcome, prepGate ans call store none call.intent.requiresPreps =
        some (.rejected 412 "missing prep" outcome) →
      ∃ before slot after, call.intent.requiresPreps = before ++ slot :: after ∧
        (∃ times, SlotChoice (call.prepSetAt store) before times) ∧
        (¬ ∃ times, SlotChoice (call.prepSetAt store) (before ++ [slot]) times) ∧
        ∀ step ∈ slot.alternatives, call.prepSetAt store step = none := by
  refine ⟨prepGate_passes_iff answered _, fun outcome missing => ?_⟩
  simp only [slotChoice_iff]
  obtain ⟨before, slot, after, split, chosen, stuck, unset⟩ := prepGate_missing answered missing
  exact ⟨before, slot, after, split, chosen, stuck, PrepReq.setTimes_eq_nil.mp unset⟩

end

/-- The store after a break at 10 and a pullback at 20. -/
def pulledBackStore : Store where
  preps row :=
    if row.2 = "break-and-close" then some { value := 10, expiresAt := 100 }
    else if row.2 = "pullback" then some { value := 20, expiresAt := 100 }
    else none

/-- An enter that takes a retest or a pullback after the break. -/
def eitherEnter : EnterCall where
  verified :=
    { stopEntryAt 0 with
      intent := { stopEntry with requiresPreps := [.all "break-and-close", .any ["retest", "pullback"]] } }
  now := 30
  rawBody := none
  granularity := none
  origin := .fresh

theorem prepGate_complete_pulledBack :
    prepGate {} eitherEnter pulledBackStore none eitherEnter.intent.requiresPreps = none ∧
      ∃ times, SlotChoice (eitherEnter.prepSetAt pulledBackStore) eitherEnter.intent.requiresPreps times := by
  have passed : prepGate {} eitherEnter pulledBackStore none eitherEnter.intent.requiresPreps = none := by
    decide +kernel
  exact ⟨passed, (prepGate_complete fun _ => rfl).1.mp passed⟩

end TradeControl

namespace TradeControl

open Foundation Relation

/-! The engine's milestone gate, against the prep chain that its enters are signed with. -/

/-- When the plan saw the step. -/
def PlanState.stampOf (state : PlanState) (step : String) : Option Int :=
  if step = prepStepBreakAndClose then state.breakCloseAt
  else if step = prepStepRetest then state.retestSeenAt
  else if step = prepStepPullback then state.pullbackSeenAt
  else none

/-- Where the gate lets an enter through, each of its slots has a stamp, and the prep gate passes over preps
set at the stamps. -/
def PrepsEnforced (plan : TradePlan) (state : PlanState) (rule : ConditionRule) (entryTime : Int) : Prop :=
  enterPrepMilestonesSatisfied plan state rule entryTime = true →
    (∀ slot ∈ rule.intent.requiresPreps, ∃ step ∈ slot.alternatives, (state.stampOf step).isSome) ∧
      ∀ (ans : Answers) (call : EnterCall) (store : Store), (∀ step, ans.store (.getPrep step) = true) →
        call.intent.requiresPreps = rule.intent.requiresPreps →
        (∀ step, call.prepSetAt store step = state.stampOf step) →
        prepGate ans call store none call.intent.requiresPreps = none

/-- The gate waits for a milestone, and the slot takes each one that it waits for. -/
structure TakesMilestones (plan : TradePlan) (intent : RuleIntent) (slot : PrepReq) : Prop where
  waits : ((requiredMilestones plan intent).1 || (requiredMilestones plan intent).2) = true
  retest : (requiredMilestones plan intent).1 = true → prepStepRetest ∈ slot.alternatives
  pullback : (requiredMilestones plan intent).2 = true → prepStepPullback ∈ slot.alternatives

/-- An enter that the gate lets through comes after the break of its plan. -/
def AwaitsBreak (plan : TradePlan) (state : PlanState) (intent : RuleIntent) : Prop :=
  hasBreakAndClose plan = true ∧
    (((requiredMilestones plan intent).1 || (requiredMilestones plan intent).2) = true ∨
      isMultiEnter plan = false ∧ state.phase = .awaitEntry)

/-- The chains that the gate stands for: none; one slot that takes every milestone, or the break where it is
known to have come; and a slot with the break before one that takes every milestone. -/
def GateCovers (plan : TradePlan) (state : PlanState) (intent : RuleIntent) : Prop :=
  match intent.requiresPreps with
  | [] => True
  | [slot] =>
    TakesMilestones plan intent slot ∨
      prepStepBreakAndClose ∈ slot.alternatives ∧ AwaitsBreak plan state intent
  | [first, slot] =>
    prepStepBreakAndClose ∈ first.alternatives ∧ hasBreakAndClose plan = true ∧ TakesMilestones plan intent slot
  | _ => False

/-- A single enter is watched for only after the break that its plan waits for. -/
structure BreakFirst (plan : TradePlan) (state : PlanState) : Prop where
  dated : BreakDated plan state
  broken : isMultiEnter plan = false → hasBreakAndClose plan = true → state.phase = .awaitEntry →
    state.breakCloseAt.isSome

section
variable {plan : TradePlan} {candle : Candle} {guards : Bool} {started : Phase}

theorem BreakFirst.grows {before after : PlanState} (first : BreakFirst plan before)
    (grown : before.Grows plan after)
    (phase : hasBreakAndClose plan = true → after.phase = .awaitEntry →
      before.phase = .awaitEntry ∨ after.breakCloseAt.isSome) : BreakFirst plan after where
  dated := grown.dated first.dated
  broken := fun single has entry => by
    rcases phase has entry with earlier | broke
    · obtain ⟨breakAt, broke⟩ := Option.isSome_iff_exists.mp (first.broken single has earlier)
      rw [grown.broke first.dated breakAt broke]
      rfl
    · exact broke

theorem WatchMove.breakFirst {before after : GuardScan} (move : WatchMove plan candle guards before after)
    (first : BreakFirst plan before.turn.state) : BreakFirst plan after.turn.state := by
  refine first.grows move.grows fun _ entry => .inl ?_
  cases move with
  | remembered memory =>
    obtain ⟨origin, close, rfl⟩ := memory
    exact entry
  | control => exact entry
  | guard => exact entry
  | retired => cases entry

theorem SpineMove.breakFirst {before after : PlanTurn} (move : SpineMove plan candle started before after)
    (first : BreakFirst plan before.state) : BreakFirst plan after.state := by
  refine first.grows move.grows fun has entry => ?_
  cases move with
  | remembered memory =>
    obtain ⟨origin, close, rfl⟩ := memory
    exact .inl entry
  | prepared => exact .inl entry
  | unbroken without =>
    rw [without] at has
    cases has
  | broke => exact .inr rfl
  | retested => exact .inl entry
  | pulledBack => exact .inl entry
  | declined => exact .inl entry
  | entered => exact .inl (PlanState.afterEntry_phase entry)

theorem breakFirst_carriedOver : CarriedOver plan fun turn => BreakFirst plan turn.state where
  stamped := fun _ _ first => ⟨first.dated, first.broken⟩
  controls := fun moves first =>
    moves_invariant (fun scan : GuardScan => BreakFirst plan scan.turn.state) moves
      (fun _ _ move first => move.breakFirst first) first
  bar := fun {turn after candle} _ runs first => by
    have watched : ∀ {after : PlanTurn}, ReflTransGen (WatchMove plan candle true) { turn } { turn := after } →
        BreakFirst plan after.state := fun moves =>
      moves_invariant (fun scan : GuardScan => BreakFirst plan scan.turn.state) moves
        (fun _ _ move first => move.breakFirst first) first
    cases runs with
    | idle watch aligned stopped =>
      have kept := watched watch
      exact ⟨kept.dated, kept.broken⟩
    | advanced watch aligned alive unblocked spine =>
      have begun := watched watch
      have kept := moves_invariant (fun turn : PlanTurn => BreakFirst plan turn.state) spine
        (fun _ _ move first => move.breakFirst first) begun
      exact ⟨kept.dated, kept.broken⟩

end

section
variable {plan : TradePlan} {state : PlanState} {rule : ConditionRule} {entryTime : Int}

theorem stampOf_break : state.stampOf prepStepBreakAndClose = state.breakCloseAt := if_pos rfl

theorem stampOf_retest : state.stampOf prepStepRetest = state.retestSeenAt := by
  unfold PlanState.stampOf
  rw [if_neg (by decide), if_pos rfl]

theorem stampOf_pullback : state.stampOf prepStepPullback = state.pullbackSeenAt := by
  unfold PlanState.stampOf
  rw [if_neg (by decide), if_neg (by decide), if_pos rfl]

/-- What lets an enter through is a milestone that its slot takes, stamped after the break. -/
theorem taken_of_satisfied (satisfied : enterPrepMilestonesSatisfied plan state rule entryTime = true)
    {slot : PrepReq} (takes : TakesMilestones plan rule.intent slot) :
    ∃ step ∈ slot.alternatives, ∃ seen, state.stampOf step = some seen ∧ AfterBreak plan state seen := by
  obtain ⟨waits, retest, pullback⟩ := takes
  have retested : retestSatisfied plan state entryTime = true → prepStepRetest ∈ slot.alternatives →
      ∃ step ∈ slot.alternatives, ∃ seen, state.stampOf step = some seen ∧ AfterBreak plan state seen := by
    intro satisfied listed
    obtain ⟨seen, stamped, past, _⟩ := stampedBy_of_retest satisfied
    exact ⟨prepStepRetest, listed, seen, stampOf_retest.trans stamped, past⟩
  have pulledBack : pullbackSatisfied plan state entryTime = true → prepStepPullback ∈ slot.alternatives →
      ∃ step ∈ slot.alternatives, ∃ seen, state.stampOf step = some seen ∧ AfterBreak plan state seen := by
    intro satisfied listed
    obtain ⟨seen, stamped, past, _⟩ := stampedBy_of_pullback satisfied
    exact ⟨prepStepPullback, listed, seen, stampOf_pullback.trans stamped, past⟩
  unfold enterPrepMilestonesSatisfied at satisfied
  split at satisfied
  next required =>
    rw [required] at waits
    cases waits
  next required =>
    rw [required] at retest pullback
    rcases Bool.or_eq_true_iff.mp satisfied with seen | seen
    · exact retested seen (retest rfl)
    · exact pulledBack seen (pullback rfl)
  next required =>
    rw [required] at retest
    exact retested satisfied (retest rfl)
  next required =>
    rw [required] at pullback
    exact pulledBack satisfied (pullback rfl)

theorem broken_of_satisfied (first : BreakFirst plan state)
    (satisfied : enterPrepMilestonesSatisfied plan state rule entryTime = true)
    (awaits : AwaitsBreak plan state rule.intent) : ∃ breakAt, state.breakCloseAt = some breakAt := by
  obtain ⟨has, waits | ⟨single, entry⟩⟩ := awaits
  · have takes : TakesMilestones plan rule.intent (.any [prepStepRetest, prepStepPullback]) :=
      ⟨waits, fun _ => by decide, fun _ => by decide⟩
    obtain ⟨_, _, seen, _, past⟩ := taken_of_satisfied satisfied takes
    exact Option.isSome_iff_exists.mp (past.2 has)
  · exact Option.isSome_iff_exists.mp (first.broken single has entry)

/-- Where the chain is one that the gate stands for, an enter that it lets through has a choice of stamps. -/
theorem choice_of_covers (first : BreakFirst plan state) (covers : GateCovers plan state rule.intent)
    (satisfied : enterPrepMilestonesSatisfied plan state rule entryTime = true) :
    ∃ times, SlotChoice state.stampOf rule.intent.requiresPreps times := by
  unfold GateCovers at covers
  split at covers
  next none => exact ⟨[], by rw [none]; exact .nil, .nil⟩
  next slot single =>
    rw [single]
    rcases covers with takes | ⟨listed, awaits⟩
    · obtain ⟨step, listed, seen, stamped, _⟩ := taken_of_satisfied satisfied takes
      exact ⟨[seen], .cons ⟨step, listed, stamped⟩ .nil, List.pairwise_singleton _ _⟩
    · obtain ⟨breakAt, broke⟩ := broken_of_satisfied first satisfied awaits
      exact ⟨[breakAt], .cons ⟨_, listed, stampOf_break.trans broke⟩ .nil, List.pairwise_singleton _ _⟩
  next before slot pair =>
    rw [pair]
    obtain ⟨listed, has, takes⟩ := covers
    obtain ⟨step, taken, seen, stamped, past⟩ := taken_of_satisfied satisfied takes
    obtain ⟨breakAt, broke⟩ := Option.isSome_iff_exists.mp (past.2 has)
    refine ⟨[breakAt, seen], .cons ⟨_, listed, stampOf_break.trans broke⟩ (.cons ⟨step, taken, stamped⟩ .nil), ?_⟩
    exact List.pairwise_pair.mpr (past.1 breakAt broke)
  next => cases covers

theorem prepsEnforced_of_covers (first : BreakFirst plan state) (covers : GateCovers plan state rule.intent) :
    PrepsEnforced plan state rule entryTime := by
  intro satisfied
  obtain ⟨times, chosen⟩ := choice_of_covers first covers satisfied
  constructor
  · intro slot member
    obtain ⟨time, _, step, listed, stamped⟩ := forall₂_mem_right chosen.1 member
    exact ⟨step, listed, by rw [stamped]; rfl⟩
  · intro ans call store answered same stamps
    have looked : call.prepSetAt store = state.stampOf := funext stamps
    refine (prepGate_passes_iff answered _).mpr ⟨times, ?_⟩
    rw [looked, same]
    exact chosen

end

/-- In every state that a run of the plan comes to, where the chain of an enter is one that the gate stands
for, the gate lets it through only with a stamp for each slot, and the prep gate passes over those. -/
theorem milestoneGate_enforces (env : EngineEnv) (plan : TradePlan) (candles : List Candle) (expiresAt : Int)
    (ticks : List PlanTick) (fresh : FreshTicks env plan (plan.seeded candles expiresAt) ticks)
    (rule : ConditionRule) (entryTime : Int)
    (covers : GateCovers plan (runTicks env plan (plan.seeded candles expiresAt) ticks).state rule.intent) :
    PrepsEnforced plan (runTicks env plan (plan.seeded candles expiresAt) ticks).state rule entryTime := by
  have watched := seedPlanState_watched plan candles expiresAt
  have begun : BreakFirst plan (plan.seeded candles expiresAt).state := by
    refine ⟨watched.dated, fun single has entry => ?_⟩
    obtain ⟨breakAt, _, broke, _⟩ := watched.opened single has entry
    exact Option.isSome_iff_exists.mpr ⟨breakAt, broke⟩
  exact prepsEnforced_of_covers (runTicks_carriedOver breakFirst_carriedOver fresh begun) covers

/-- An enter on any bar through 100, signed with these preps. -/
def preppedEnter (preps : List PrepReq) : ConditionRule :=
  { touchRule "enter" .enter .enter with intent := { bareIntent .enter with requiresPreps := preps } }

/-- A break, a retest, and an enter that takes them in this order. -/
def chainPlan : TradePlan :=
  hourlyPlan [touchRule "break" .prepBreakAndClose .prep, touchRule "retest" .prepRetest .prep,
    preppedEnter [.all "break-and-close", .all "retest"]]

theorem milestoneGate_enforces_chain :
    PrepsEnforced chainPlan (hourlyRun chainPlan).state
      (preppedEnter [.all "break-and-close", .all "retest"]) (seconds 7200) :=
  milestoneGate_enforces calmEngine chainPlan [hourBar 0] (seconds 72000) hourlyTicks
    (hourlyTicks_fresh (by decide +kernel)) _ _
    ⟨by decide, by decide, ⟨by decide +kernel, fun _ => by decide, by decide +kernel⟩⟩

/-- Two enters, one free and one that takes a retest and a pullback, each in a slot of its own. -/
def bothPlan : TradePlan :=
  hourlyPlan [touchRule "retest" .prepRetest .prep,
    { touchRule "pullback" .prepPullback .prep with trigger := .pullbackFromArm 100 1 .long },
    preppedEnter [.all "retest", .all "pullback"], touchRule "free" .enter .enter]

/-- The retest alone lets the enter through, and the pullback's slot has no stamp. -/
theorem milestoneGate_eitherOfBoth :
    (∃ fire ∈ (hourlyRun bothPlan).fired, fire.IsEnter ∧
      fire.intent.requiresPreps = [.all "retest", .all "pullback"]) ∧
    ¬ PrepsEnforced bothPlan (hourlyRun bothPlan).state (preppedEnter [.all "retest", .all "pullback"])
      (seconds 7200) := by
  refine ⟨by decide +kernel, fun enforced => ?_⟩
  obtain ⟨stamped, _⟩ := enforced (by decide +kernel)
  obtain ⟨step, listed, seen⟩ := stamped (.all "pullback") (by decide +kernel)
  obtain rfl := List.mem_singleton.mp listed
  have unseen : (hourlyRun bothPlan).state.stampOf "pullback" = none := by decide +kernel
  rw [unseen] at seen
  cases seen

end TradeControl
