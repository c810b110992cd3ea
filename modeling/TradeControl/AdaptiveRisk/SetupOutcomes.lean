import Mathlib.Algebra.BigOperators.Group.List.Lemmas
import TradeControl.AdaptiveRisk.Ledger

namespace TradeControl.AdaptiveRisk

open Foundation

/-- The executions of a setup, in the order of the map. -/
def setupEvents (executions : KeyedMap String Execution) (setupId : String) : List Execution :=
  (executions.entries.map Sigma.snd).filter fun event => event.setupId = setupId

/-- What a setup's executions make of its closing. -/
def outcomeOf (events : List Execution) (setupId : String) (closedAt : Int) (terminal : Bool) :
    Except String SetupOutcome := do
  ensure terminal "setup still has live members"
  ensure (events ≠ [] ∧ ∀ event ∈ events, event.occurredAt ≤ closedAt) "incomplete setup history"
  ensure (∀ position ∈ (events.foldl SetupTally.count {}).volumes.entries,
    position.2 = 0 ∧ position.1 ∈ (events.foldl SetupTally.count {}).opened) "setup positions not fully closed"
  return { setupId, closedAt, netPnl := (events.foldl SetupTally.count {}).net }

def volumeOf (events : List Execution) (positionId : String) : Rat :=
  ((events.filter (·.positionId = positionId)).map (·.volumeDelta)).sum

/-- Every position of the events was opened and ends flat. -/
def PositionsClosed (events : List Execution) : Prop :=
  ∀ event ∈ events, volumeOf events event.positionId = 0 ∧
    ∃ fill ∈ events, fill.positionId = event.positionId ∧ 0 < fill.volumeDelta

theorem RiskState.closeSetup_eq (s : RiskState) (setupId : String) (closedAt : Int) (terminal : Bool) :
    s.closeSetup setupId closedAt terminal =
      (outcomeOf (setupEvents s.executions setupId) setupId closedAt terminal >>= fun outcome =>
        match s.outcomes.lookup setupId with
        | some previous => do
          ensure (previous = outcome) "conflicting setup outcome"
          return s
        | none => return { s with outcomes := s.outcomes.insert setupId outcome }.rebuildStreak) := by
  unfold closeSetup outcomeOf
  simp only [bind_assoc, pure_bind]
  rfl

section
variable {tally : SetupTally} {events : List Execution}

theorem foldl_count_net : (events.foldl SetupTally.count tally).net = tally.net + (events.map (·.netPnl)).sum := by
  induction events generalizing tally with
  | nil => simp
  | cons event rest ih =>
    rw [List.foldl_cons, ih, List.map_cons, List.sum_cons]
    change tally.net + event.netPnl + _ = _
    ring

theorem foldl_count_opened {positionId : String} :
    positionId ∈ (events.foldl SetupTally.count tally).opened ↔
      positionId ∈ tally.opened ∨ ∃ fill ∈ events, fill.positionId = positionId ∧ 0 < fill.volumeDelta := by
  induction events generalizing tally with
  | nil => simp
  | cons event rest ih =>
    have first : positionId ∈ (tally.count event).opened ↔
        positionId ∈ tally.opened ∨ event.positionId = positionId ∧ 0 < event.volumeDelta := by
      unfold SetupTally.count
      dsimp only
      split
      next grows =>
        rw [Finset.mem_insert]
        exact ⟨fun either => either.elim (fun same => .inr ⟨same.symm, grows⟩) .inl,
          fun either => either.elim .inr fun both => .inl both.1.symm⟩
      next shrinks => simp [shrinks]
    rw [List.foldl_cons, ih, first]
    simp only [List.mem_cons, exists_eq_or_imp, or_assoc]

theorem foldl_count_volumes (positionId : String) :
    (events.foldl SetupTally.count tally).volumes.lookup positionId =
      if ∃ event ∈ events, event.positionId = positionId then
        some ((tally.volumes.lookup positionId).getD 0 + volumeOf events positionId)
      else tally.volumes.lookup positionId := by
  induction events generalizing tally with
  | nil => simp
  | cons event rest ih =>
    rw [List.foldl_cons, ih]
    by_cases own : event.positionId = positionId
    · have added : (tally.count event).volumes.lookup positionId =
          some ((tally.volumes.lookup positionId).getD 0 + event.volumeDelta) := by
        rw [← own]
        exact AList.lookup_insert _
      have total : volumeOf (event :: rest) positionId = event.volumeDelta + volumeOf rest positionId := by
        unfold volumeOf
        rw [List.filter_cons_of_pos (by simpa using own), List.map_cons, List.sum_cons]
      have here : ∃ fill ∈ event :: rest, fill.positionId = positionId := ⟨event, List.mem_cons_self, own⟩
      rw [added, total, if_pos here]
      by_cases again : ∃ fill ∈ rest, fill.positionId = positionId
      · rw [if_pos again, Option.getD_some, add_assoc]
      · have empty : volumeOf rest positionId = 0 := by
          unfold volumeOf
          rw [List.filter_eq_nil_iff.mpr fun other member same => again ⟨other, member, by simpa using same⟩]
          rfl
        rw [if_neg again, empty, add_zero]
    · have kept : (tally.count event).volumes.lookup positionId = tally.volumes.lookup positionId :=
        AList.lookup_insert_ne fun same => own same.symm
      have total : volumeOf (event :: rest) positionId = volumeOf rest positionId := by
        unfold volumeOf
        rw [List.filter_cons_of_neg (by simpa using own)]
      rw [kept, total]
      simp [own]

theorem tally_closed (events : List Execution) :
    (∀ position ∈ (events.foldl SetupTally.count {}).volumes.entries,
      position.2 = 0 ∧ position.1 ∈ (events.foldl SetupTally.count {}).opened) ↔ PositionsClosed events := by
  have volumes : ∀ positionId, (events.foldl SetupTally.count {}).volumes.lookup positionId = _ :=
    fun positionId => foldl_count_volumes positionId
  constructor
  · intro closed event member
    have counted := volumes event.positionId
    rw [if_pos ⟨event, member, rfl⟩] at counted
    obtain ⟨flat, opened⟩ := closed ⟨event.positionId, _⟩ (AList.mem_lookup_iff.mp counted)
    rcases foldl_count_opened.mp opened with none_ | fill
    · exact absurd none_ (Finset.notMem_empty _)
    · refine ⟨?_, fill⟩
      simpa using flat
  · rintro closed ⟨positionId, volume⟩ listed
    have counted := AList.mem_lookup_iff.mpr listed
    rw [volumes positionId] at counted
    split at counted
    next held =>
      obtain ⟨event, member, rfl⟩ := held
      obtain ⟨flat, fill⟩ := closed event member
      refine ⟨?_, foldl_count_opened.mpr (.inr fill)⟩
      rw [flat, add_zero] at counted
      exact (Option.some.inj counted).symm
    · cases counted

theorem outcomeOf_ok {setupId : String} {closedAt : Int} {terminal : Bool} {outcome : SetupOutcome} :
    outcomeOf events setupId closedAt terminal = .ok outcome ↔
      terminal = true ∧ (events ≠ [] ∧ ∀ event ∈ events, event.occurredAt ≤ closedAt) ∧ PositionsClosed events ∧
        { setupId, closedAt, netPnl := (events.map (·.netPnl)).sum } = outcome := by
  unfold outcomeOf
  simp only [bind_ok, ensure_ok, pure_ok, exists_const, tally_closed]
  rw [foldl_count_net, zero_add]

theorem outcomeOf_setupId {setupId : String} {closedAt : Int} {terminal : Bool} {outcome : SetupOutcome}
    (settled : outcomeOf events setupId closedAt terminal = .ok outcome) : outcome.setupId = setupId := by
  obtain ⟨-, -, -, rfl⟩ := outcomeOf_ok.mp settled
  rfl

/-- The order of the executions does not matter. -/
theorem outcomeOf_perm {events' : List Execution} (perm : events.Perm events') {setupId : String} {closedAt : Int}
    {terminal : Bool} {outcome : SetupOutcome}
    (settled : outcomeOf events setupId closedAt terminal = .ok outcome) :
    outcomeOf events' setupId closedAt terminal = .ok outcome := by
  obtain ⟨last, ⟨some_, past⟩, closed, same⟩ := outcomeOf_ok.mp settled
  refine outcomeOf_ok.mpr ⟨last, ⟨?_, ?_⟩, ?_, ?_⟩
  · rintro rfl
    exact some_ perm.eq_nil
  · exact fun event member => past event (perm.mem_iff.mpr member)
  · intro event member
    obtain ⟨flat, fill, listed, own, opens⟩ := closed event (perm.mem_iff.mpr member)
    refine ⟨?_, fill, perm.mem_iff.mp listed, own, opens⟩
    rw [← flat]
    exact ((perm.symm.filter _).map _).sum_eq
  · rw [← same, (perm.symm.map _).sum_eq]

end

/-- Maps with the same entries have the same executions of each setup. -/
theorem setupEvents_perm {executions executions' : KeyedMap String Execution}
    (same : ∀ eventId, executions.lookup eventId = executions'.lookup eventId) (setupId : String) :
    (setupEvents executions setupId).Perm (setupEvents executions' setupId) := by
  have entries : executions.entries.Perm executions'.entries :=
    List.lookup_ext executions.nodupKeys executions'.nodupKeys fun eventId event => by
      rw [show executions.entries.dlookup eventId = executions'.entries.dlookup eventId from same eventId]
  exact (entries.map _).filter _

/-- An execution of another setup leaves a setup's executions alone. -/
theorem setupEvents_insert {executions : KeyedMap String Execution} {event : Execution} {setupId : String}
    (fresh : event.eventId ∉ executions) (other : event.setupId ≠ setupId) :
    setupEvents (executions.insert event.eventId event) setupId = setupEvents executions setupId := by
  unfold setupEvents
  rw [AList.entries_insert_of_notMem fresh, List.map_cons, List.filter_cons_of_neg (by simpa using other)]

end TradeControl.AdaptiveRisk
