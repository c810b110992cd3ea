import Mathlib.Data.List.TakeWhile
import TradeControl.AdaptiveRisk.LedgerOrders
import TradeControl.AdaptiveRisk.Sessions

namespace TradeControl.AdaptiveRisk

open Foundation

/-- Ledgers of the same executions, outcomes and streak. -/
structure SameLedger (s s' : RiskState) : Prop where
  executions : ∀ eventId, s.executions.lookup eventId = s'.executions.lookup eventId
  outcomes : ∀ setupId, s.outcomes.lookup setupId = s'.outcomes.lookup setupId
  consecutiveLosses : s.consecutiveLosses = s'.consecutiveLosses

/-- A refused delivery leaves the ledger. -/
theorem RiskState.Refuses.sameLedger {s : RiskState} {delivery : Delivery} (refused : s.Refuses delivery) :
    SameLedger (s.deliver delivery) s := by
  cases delivery with
  | execution event =>
    obtain ⟨error, refused⟩ := refused
    have kept : ¬ (s.executions.lookup event.eventId = none ∧ s.Takes event) := by
      rintro ⟨unseen, admits⟩
      rw [(onExecution_taken unseen admits).2] at refused
      cases refused
    refine ⟨fun eventId => ?_, fun setupId => ?_, onExecution_losses⟩
    · exact congrArg _ (onExecution_kept kept)
    · exact congrArg _ onExecution_outcomes
  | closing setupId closedAt terminal =>
    obtain ⟨error, refused⟩ := refused
    have unsettled : ¬ ∃ outcome, s.outcomes.lookup setupId = none ∧
        outcomeOf (setupEvents s.executions setupId) setupId closedAt terminal = .ok outcome := by
      rintro ⟨outcome, found, settled⟩
      rw [onSetupClosed_taken found settled] at refused
      cases refused
    obtain ⟨needs, kept⟩ := onSetupClosed_kept unsettled
    unfold deliver
    dsimp only
    rw [kept]
    exact ⟨fun _ => rfl, fun _ => rfl, rfl⟩

theorem RiskState.Balanced.losses {s : RiskState} (balanced : s.Balanced) {sorted : List SetupOutcome}
    (inOrder : InOrder s.outcomes sorted) :
    s.consecutiveLosses = min (losingRun s.policy.streakBackoff sorted) (2 ^ 32 - 1) := by
  rw [balanced.streak]
  exact rebuildStreak_losses balanced.own inOrder

section
variable {start s s' : RiskState} {first second : List Delivery}

theorem RiskState.Delivered.executions_eq (delivered : start.Delivered first s) (delivered' : start.Delivered second s')
    (same : ∀ delivery, delivery ∈ first ↔ delivery ∈ second) (eventId : String) :
    s.executions.lookup eventId = s'.executions.lookup eventId := by
  refine Option.ext fun event => ?_
  rw [delivered.executions, delivered'.executions, same]

theorem RiskState.Settled.congr {outcome : SetupOutcome} (settled : s.Settled first outcome)
    (executions : ∀ eventId, s.executions.lookup eventId = s'.executions.lookup eventId)
    (listed : ∀ delivery ∈ first, delivery ∈ second) : s'.Settled second outcome := by
  obtain ⟨closedAt, terminal, closed, same⟩ := settled
  exact ⟨closedAt, terminal, listed _ closed, outcomeOf_perm (setupEvents_perm executions _) same⟩

theorem RiskState.Delivered.outcomes_eq (delivered : start.Delivered first s) (delivered' : start.Delivered second s')
    (same : ∀ delivery, delivery ∈ first ↔ delivery ∈ second) (setupId : String) :
    s.outcomes.lookup setupId = s'.outcomes.lookup setupId := by
  have executions := delivered.executions_eq delivered' same
  have settled : ∀ outcome, s.Settled first outcome ↔ s'.Settled second outcome := fun outcome =>
    ⟨fun here => here.congr executions fun _ listed => (same _).mp listed,
      fun there => there.congr (fun eventId => (executions eventId).symm) fun _ listed => (same _).mpr listed⟩
  refine Option.ext fun outcome => ?_
  rw [delivered.outcomes, delivered'.outcomes, settled]

theorem RiskState.Delivered.sameLedger (delivered : start.Delivered first s) (delivered' : start.Delivered second s')
    (same : ∀ delivery, delivery ∈ first ↔ delivery ∈ second) : SameLedger s s' := by
  have outcomes := delivered.outcomes_eq delivered' same
  refine ⟨delivered.executions_eq delivered' same, outcomes, ?_⟩
  have order := mergeSort_inOrder s.outcomes
  have order' := mergeSort_inOrder s'.outcomes
  rw [delivered.balanced.losses order, delivered'.balanced.losses order', delivered.policy, delivered'.policy,
    inOrder_unique delivered.balanced.own outcomes order order']

end

/-- Orders of the same deliveries leave one ledger, whose streak is the losing run of its
outcomes up to the counter's width; what is refused leaves the ledger. -/
theorem RiskState.deliverAll_converges {start : RiskState} (balanced : start.Balanced)
    {first second : List Delivery} (ordered : DeliveryOrder first) (ordered' : DeliveryOrder second)
    (same : ∀ delivery, delivery ∈ first ↔ delivery ∈ second) :
    SameLedger (start.deliverAll first) (start.deliverAll second) ∧
      (∀ sorted, InOrder (start.deliverAll first).outcomes sorted →
        (start.deliverAll first).consecutiveLosses =
          min (losingRun start.policy.streakBackoff sorted) (2 ^ 32 - 1)) ∧
      ∀ (s : RiskState) (delivery : Delivery), s.Refuses delivery → SameLedger (s.deliver delivery) s := by
  have delivered := balanced.deliverAll ordered
  have delivered' := balanced.deliverAll ordered'
  refine ⟨delivered.sameLedger delivered' same, fun sorted inOrder => ?_, fun s delivery => Refuses.sameLedger⟩
  rw [← delivered.policy]
  exact delivered.balanced.losses inOrder

/-- Executions of distinct ids and then one closing are in order. -/
theorem deliveryOrder_closingLast {events : List Execution} {setupId : String} {closedAt : Int} {terminal : Bool}
    (distinct : ∀ event ∈ events, ∀ event' ∈ events, event.eventId = event'.eventId → event = event') :
    DeliveryOrder (events.map .execution ++ [.closing setupId closedAt terminal]) where
  eventIds event event' listed listed' := by
    simp only [List.mem_append, List.mem_map, Delivery.execution.injEq, exists_eq_right, List.mem_singleton,
      reduceCtorEq, or_false] at listed listed'
    exact distinct event listed event' listed'
  closings setupId' closedAt₁ terminal₁ closedAt₂ terminal₂ listed listed' := by
    simp only [List.mem_append, List.mem_map, reduceCtorEq, and_false, exists_false, List.mem_singleton, false_or,
      Delivery.closing.injEq] at listed listed'
    obtain ⟨-, rfl, rfl⟩ := listed
    obtain ⟨-, rfl, rfl⟩ := listed'
    exact ⟨rfl, rfl⟩
  closedLast before after setupId' closedAt' terminal' split event later := by
    rcases List.append_eq_append_iff.mp split with ⟨rest, -, ends⟩ | ⟨rest, earlier, ends⟩
    · have lengths := congrArg List.length ends
      simp only [List.length_append, List.length_cons, List.length_nil] at lengths
      rw [List.eq_nil_of_length_eq_zero (by omega : after.length = 0)] at later
      cases later
    · cases rest with
      | nil =>
        cases ends
        cases later
      | cons closing rest =>
        cases ends
        have listed : Delivery.closing setupId' closedAt' terminal' ∈ events.map .execution := by
          rw [earlier]
          simp
        simp at listed

/-- A setup of one position, filled once and closed in two parts at a net loss. -/
def scaledOut : List Execution :=
  [{ eventId := "fill", setupId := "setup", positionId := "p1", occurredAt := 1, volumeDelta := 2, netPnl := -1 },
    { eventId := "half", setupId := "setup", positionId := "p1", occurredAt := 2, volumeDelta := -1, netPnl := 5 },
    { eventId := "rest", setupId := "setup", positionId := "p1", occurredAt := 3, volumeDelta := -1, netPnl := -6 }]

theorem enrolledState_balanced : enrolledState.Balanced where
  own := by
    intro setupId outcome held
    cases held
  streak := by
    unfold RiskState.rebuildStreak
    simp [enrolledState]

theorem RiskState.deliverAll_converges_scaledOut :
    (enrolledState.deliverAll (scaledOut.map .execution ++ [.closing "setup" 4 true])).consecutiveLosses = 1 ∧
    SameLedger (enrolledState.deliverAll (scaledOut.map .execution ++ [.closing "setup" 4 true]))
      (enrolledState.deliverAll ((scaledOut ++ scaledOut).reverse.map .execution ++ [.closing "setup" 4 true])) :=
  ⟨by decide +kernel, (deliverAll_converges enrolledState_balanced
    (deliveryOrder_closingLast (by decide +kernel)) (deliveryOrder_closingLast (by decide +kernel))
    (fun delivery => by simp)).1⟩

/-- A setup of the account that lost one. -/
def lostSetup (index : Nat) : SetupOutcome :=
  { setupId := String.ofList (List.replicate index 'a'), closedAt := 0, netPnl := -1 }

theorem lostSetup_injective {index index' : Nat} (same : (lostSetup index).setupId = (lostSetup index').setupId) :
    index = index' := by
  have lengths := congrArg (List.length ∘ String.toList) same
  simpa [lostSetup] using lengths

/-- A ledger of so many lost setups. -/
def lostLedger (count : Nat) : RiskState :=
  { enrolledState with
    outcomes :=
      { entries := (List.range count).map fun index => ⟨(lostSetup index).setupId, lostSetup index⟩
        nodupKeys := by
          unfold List.NodupKeys List.keys
          rw [List.map_map]
          exact List.nodup_range.map fun index index' same => lostSetup_injective same } }.rebuildStreak

theorem lostLedger_balanced (count : Nat) : (lostLedger count).Balanced where
  own := by
    intro setupId outcome held
    obtain ⟨index, -, same⟩ := List.mem_map.mp (AList.mem_lookup_iff.mp held)
    cases same
    rfl
  streak := rfl

theorem losingRun_lost {backoff : StreakBackoff} {outcomes : List SetupOutcome}
    (lost : ∀ outcome ∈ outcomes, outcome.netPnl < 0) : losingRun backoff outcomes = outcomes.length := by
  unfold losingRun
  have kept : ∀ outcome ∈ outcomes.reverse, ¬ backoff.Resets outcome := by
    rintro outcome listed (⟨won, -⟩ | ⟨even, -⟩)
    · exact absurd (lost outcome (List.mem_reverse.mp listed)) (not_lt.mpr won.le)
    · exact absurd (lost outcome (List.mem_reverse.mp listed)) (not_lt.mpr even.ge)
  rw [List.takeWhile_eq_self_iff.mpr fun outcome listed => decide_eq_true (kept outcome listed),
    List.countP_eq_length.mpr fun outcome listed => decide_eq_true (lost outcome (List.mem_reverse.mp listed)),
    List.length_reverse]

theorem lostLedger_losingRun (count : Nat) {sorted : List SetupOutcome} (inOrder : InOrder (lostLedger count).outcomes sorted) :
    losingRun (lostLedger count).policy.streakBackoff sorted = count := by
  have entries : sorted.Perm ((List.range count).map lostSetup) := by
    have perm := inOrder.1
    unfold lostLedger RiskState.rebuildStreak at perm
    rwa [List.map_map] at perm
  rw [losingRun_lost, entries.length_eq, List.length_map, List.length_range]
  intro outcome listed
  obtain ⟨index, -, rfl⟩ := List.mem_map.mp (entries.mem_iff.mp listed)
  exact (by decide +kernel : (-1 : Rat) < 0)

/-- The counter stops below a losing run of `2 ^ 32` setups. -/
theorem streak_saturates :
    ¬ ∀ (start : RiskState) (deliveries : List Delivery) (sorted : List SetupOutcome), start.Balanced →
      DeliveryOrder deliveries → InOrder (start.deliverAll deliveries).outcomes sorted →
      (start.deliverAll deliveries).consecutiveLosses = losingRun start.policy.streakBackoff sorted := by
  intro counts
  have balanced := lostLedger_balanced (2 ^ 32)
  have inOrder := mergeSort_inOrder (lostLedger (2 ^ 32)).outcomes
  have counted := counts (lostLedger (2 ^ 32)) [] _ balanced ⟨by simp, by simp, by simp⟩ inOrder
  have stopped := balanced.losses inOrder
  rw [lostLedger_losingRun _ inOrder] at counted stopped
  have same := counted.symm.trans stopped
  omega

end TradeControl.AdaptiveRisk
