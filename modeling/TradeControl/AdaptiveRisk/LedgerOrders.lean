import TradeControl.AdaptiveRisk.SetupOutcomes

namespace TradeControl.AdaptiveRisk

open Foundation

/-- What the broker's adapter delivers to the ledger. -/
inductive Delivery
  | execution (event : Execution)
  | closing (setupId : String) (closedAt : Int) (terminal : Bool)
  deriving DecidableEq

def RiskState.deliver (s : RiskState) : Delivery → RiskState
  | .execution event => (s.onExecution event).1
  | .closing setupId closedAt terminal => (s.onSetupClosed setupId closedAt terminal).1

def RiskState.deliverAll (s : RiskState) (deliveries : List Delivery) : RiskState :=
  deliveries.foldl deliver s

/-- The answer to a delivery is an error. -/
def RiskState.Refuses (s : RiskState) : Delivery → Prop
  | .execution event => ∃ error, (s.onExecution event).2 = .error error
  | .closing setupId closedAt terminal => ∃ error, (s.onSetupClosed setupId closedAt terminal).2 = .error error

/-- Executions of distinct ids and one closing per setup, each closing after the setup's
executions; any of them may come again. -/
structure DeliveryOrder (deliveries : List Delivery) : Prop where
  eventIds : ∀ event event', .execution event ∈ deliveries → .execution event' ∈ deliveries →
    event.eventId = event'.eventId → event = event'
  closings : ∀ setupId closedAt terminal closedAt' terminal', .closing setupId closedAt terminal ∈ deliveries →
    .closing setupId closedAt' terminal' ∈ deliveries → closedAt = closedAt' ∧ terminal = terminal'
  closedLast : ∀ before after setupId closedAt terminal,
    deliveries = before ++ .closing setupId closedAt terminal :: after →
    ∀ event, .execution event ∈ after → event.setupId = setupId → .execution event ∈ before

/-- An execution that a ledger which has not seen it takes. -/
def RiskState.Takes (s : RiskState) (event : Execution) : Prop :=
  (event.eventId ≠ "" ∧ event.setupId ≠ "" ∧ event.positionId ≠ "") ∧ event.setupId ∉ s.outcomes

/-- The outcomes that deliveries to a ledger have settled. -/
def RiskState.Settled (s : RiskState) (deliveries : List Delivery) (outcome : SetupOutcome) : Prop :=
  ∃ closedAt terminal, .closing outcome.setupId closedAt terminal ∈ deliveries ∧
    outcomeOf (setupEvents s.executions outcome.setupId) outcome.setupId closedAt terminal = .ok outcome

theorem DeliveryOrder.init {deliveries : List Delivery} {last : Delivery}
    (ordered : DeliveryOrder (deliveries ++ [last])) : DeliveryOrder deliveries where
  eventIds event event' listed listed' :=
    ordered.eventIds event event' (List.mem_append_left _ listed) (List.mem_append_left _ listed')
  closings setupId closedAt terminal closedAt' terminal' listed listed' :=
    ordered.closings setupId closedAt terminal closedAt' terminal' (List.mem_append_left _ listed)
      (List.mem_append_left _ listed')
  closedLast before after setupId closedAt terminal split event later :=
    ordered.closedLast before (after ++ [last]) setupId closedAt terminal (by simp [split]) event
      (List.mem_append_left _ later)

/-- An execution that comes after its setup's closing has come before. -/
theorem DeliveryOrder.repeated {deliveries : List Delivery} {event : Execution} {closedAt : Int} {terminal : Bool}
    (ordered : DeliveryOrder (deliveries ++ [.execution event]))
    (closed : .closing event.setupId closedAt terminal ∈ deliveries) : .execution event ∈ deliveries := by
  obtain ⟨before, after, rfl⟩ := List.append_of_mem closed
  have earlier := ordered.closedLast before (after ++ [.execution event]) event.setupId closedAt terminal
    (by simp) event (by simp) rfl
  exact List.mem_append_left _ earlier

section
variable {s : RiskState} {event : Execution}

/-- A new execution that the ledger admits is recorded. -/
theorem RiskState.onExecution_taken (unseen : s.executions.lookup event.eventId = none) (admits : s.Takes event) :
    (s.onExecution event).1.executions = s.executions.insert event.eventId event ∧
      (s.onExecution event).2 = .ok () := by
  have recorded : s.recordExecution event =
      .ok { s with executions := s.executions.insert event.eventId event } := by
    unfold recordExecution
    rw [unseen]
    simp only [ensure, if_pos admits.1, if_pos admits.2]
    rfl
  unfold onExecution
  rw [recorded]
  dsimp only
  split <;> exact ⟨rfl, rfl⟩

/-- Any other execution leaves the executions as they are. -/
theorem RiskState.onExecution_kept
    (settled : ¬ (s.executions.lookup event.eventId = none ∧ s.Takes event)) :
    (s.onExecution event).1.executions = s.executions := by
  have kept : ∀ s', s.recordExecution event = .ok s' → s'.executions = s.executions := by
    intro s' recorded
    unfold recordExecution at recorded
    simp only [bind_ok, ensure_ok, exists_const] at recorded
    obtain ⟨named, recorded⟩ := recorded
    split at recorded
    · simp only [bind_ok, ensure_ok, pure_ok, exists_const] at recorded
      obtain ⟨_, rfl⟩ := recorded
      rfl
    next unseen =>
      simp only [bind_ok, ensure_ok, exists_const] at recorded
      exact absurd ⟨unseen, named, recorded.1⟩ settled
  unfold onExecution
  cases result : s.recordExecution event with
  | error error =>
    dsimp only
    split <;> rfl
  | ok s' =>
    dsimp only
    split <;> exact kept s' result

theorem RiskState.onExecution_policy : (s.onExecution event).1.policy = s.policy := by
  obtain ⟨executions, needs, invalidated, moved, -⟩ := s.onExecution_frame event
  rw [moved]

theorem RiskState.onExecution_outcomes : (s.onExecution event).1.outcomes = s.outcomes := by
  obtain ⟨executions, needs, invalidated, moved, -⟩ := s.onExecution_frame event
  rw [moved]

theorem RiskState.onExecution_losses : (s.onExecution event).1.consecutiveLosses = s.consecutiveLosses := by
  obtain ⟨executions, needs, invalidated, moved, -⟩ := s.onExecution_frame event
  rw [moved]

/-- The executions after one comes in: those before, and it where it is new and admitted. -/
theorem RiskState.onExecution_lookup {eventId : String} {held : Execution} :
    (s.onExecution event).1.executions.lookup eventId = some held ↔
      s.executions.lookup eventId = some held ∨
        s.executions.lookup eventId = none ∧ held = event ∧ event.eventId = eventId ∧ s.Takes event := by
  by_cases taken : s.executions.lookup event.eventId = none ∧ s.Takes event
  · obtain ⟨unseen, admits⟩ := taken
    rw [(onExecution_taken unseen admits).1]
    by_cases own : eventId = event.eventId
    · subst own
      rw [AList.lookup_insert, unseen]
      constructor
      · exact fun same => .inr ⟨rfl, (Option.some.inj same).symm, rfl, admits⟩
      · rintro (none_ | ⟨-, rfl, -⟩)
        · cases none_
        · rfl
    · rw [AList.lookup_insert_ne own]
      refine ⟨.inl, ?_⟩
      rintro (same | ⟨-, -, same, -⟩)
      · exact same
      · exact absurd same.symm own
  · rw [onExecution_kept taken]
    refine ⟨.inl, ?_⟩
    rintro (same | ⟨unseen, rfl, rfl, admits⟩)
    · exact same
    · exact absurd ⟨unseen, admits⟩ taken

end

section
variable {s : RiskState} {setupId : String} {closedAt : Int} {terminal : Bool}

/-- A closing that its setup's executions settle gives the setup's outcome. -/
theorem RiskState.onSetupClosed_taken {outcome : SetupOutcome} (unsettled : s.outcomes.lookup setupId = none)
    (settled : outcomeOf (setupEvents s.executions setupId) setupId closedAt terminal = .ok outcome) :
    s.onSetupClosed setupId closedAt terminal =
      ({ s with outcomes := s.outcomes.insert setupId outcome }.rebuildStreak, .ok ()) := by
  unfold onSetupClosed
  rw [closeSetup_eq, settled, unsettled]
  rfl

/-- Any other closing leaves all but the need to reconcile. -/
theorem RiskState.onSetupClosed_kept
    (unsettled : ¬ ∃ outcome, s.outcomes.lookup setupId = none ∧
      outcomeOf (setupEvents s.executions setupId) setupId closedAt terminal = .ok outcome) :
    ∃ needs, (s.onSetupClosed setupId closedAt terminal).1 = { s with needsReconciliation := needs } := by
  unfold onSetupClosed
  cases closed : s.closeSetup setupId closedAt terminal with
  | error error => exact ⟨true, rfl⟩
  | ok s' =>
    refine ⟨s.needsReconciliation, ?_⟩
    rw [closeSetup_eq] at closed
    obtain ⟨outcome, settled, closed⟩ := bind_ok.mp closed
    split at closed
    · simp only [bind_ok, ensure_ok, pure_ok, exists_const] at closed
      exact closed.2.symm
    next found => exact absurd ⟨outcome, found, settled⟩ unsettled

theorem RiskState.onSetupClosed_executions :
    (s.onSetupClosed setupId closedAt terminal).1.executions = s.executions := by
  obtain ⟨outcomes, losses, needs, moved, -⟩ := s.onSetupClosed_frame setupId closedAt terminal
  rw [moved]

theorem RiskState.onSetupClosed_policy : (s.onSetupClosed setupId closedAt terminal).1.policy = s.policy := by
  obtain ⟨outcomes, losses, needs, moved, -⟩ := s.onSetupClosed_frame setupId closedAt terminal
  rw [moved]

/-- The outcomes after a closing: those before, and the setup's where it is settled now. -/
theorem RiskState.onSetupClosed_lookup {key : String} {held : SetupOutcome} :
    (s.onSetupClosed setupId closedAt terminal).1.outcomes.lookup key = some held ↔
      s.outcomes.lookup key = some held ∨ s.outcomes.lookup key = none ∧ setupId = key ∧
        outcomeOf (setupEvents s.executions setupId) setupId closedAt terminal = .ok held := by
  by_cases taken : ∃ outcome, s.outcomes.lookup setupId = none ∧
      outcomeOf (setupEvents s.executions setupId) setupId closedAt terminal = .ok outcome
  · obtain ⟨outcome, unsettled, settled⟩ := taken
    rw [onSetupClosed_taken unsettled settled, settled]
    change (s.outcomes.insert setupId outcome).lookup key = some held ↔ _
    by_cases own : key = setupId
    · subst own
      rw [AList.lookup_insert, unsettled]
      constructor
      · exact fun same => .inr ⟨rfl, rfl, congrArg _ (Option.some.inj same)⟩
      · rintro (none_ | ⟨-, -, same⟩)
        · cases none_
        · rw [Except.ok.inj same]
    · rw [AList.lookup_insert_ne own]
      refine ⟨.inl, ?_⟩
      rintro (same | ⟨-, same, -⟩)
      · exact same
      · exact absurd same.symm own
  · obtain ⟨needs, kept⟩ := onSetupClosed_kept taken
    rw [kept]
    refine ⟨.inl, ?_⟩
    rintro (same | ⟨unsettled, rfl, settled⟩)
    · exact same
    · exact absurd ⟨held, unsettled, settled⟩ taken

end

/-- An outcome that ends a losing run under the policy's reset rules. -/
def StreakBackoff.Resets (backoff : StreakBackoff) (outcome : SetupOutcome) : Prop :=
  (0 < outcome.netPnl ∧ backoff.resetOnWin) ∨ (outcome.netPnl = 0 ∧ backoff.resetOnBreakEven)

instance (backoff : StreakBackoff) (outcome : SetupOutcome) : Decidable (backoff.Resets outcome) :=
  inferInstanceAs (Decidable (_ ∨ _))

/-- The losses since the last outcome that resets. -/
def losingRun (backoff : StreakBackoff) (outcomes : List SetupOutcome) : Nat :=
  (outcomes.reverse.takeWhile fun outcome => ¬ backoff.Resets outcome).countP fun outcome => outcome.netPnl < 0

/-- The order in which outcomes are replayed. -/
def SetupOutcome.Earlier (a b : SetupOutcome) : Prop :=
  a.closedAt < b.closedAt ∨ a.closedAt = b.closedAt ∧ a.setupId ≤ b.setupId

/-- The outcomes of a map, in the order of their replay. -/
def InOrder (outcomes : KeyedMap String SetupOutcome) (sorted : List SetupOutcome) : Prop :=
  sorted.Perm (outcomes.entries.map Sigma.snd) ∧ sorted.Pairwise SetupOutcome.Earlier

/-- Each outcome stands under its own setup. -/
def SelfKeyed (outcomes : KeyedMap String SetupOutcome) : Prop :=
  ∀ setupId outcome, outcomes.lookup setupId = some outcome → outcome.setupId = setupId

theorem foldl_lossesAfter (backoff : StreakBackoff) (outcomes : List SetupOutcome) :
    outcomes.foldl (lossesAfter backoff) 0 = min (losingRun backoff outcomes) (2 ^ 32 - 1) := by
  induction outcomes using List.reverseRecOn with
  | nil => rfl
  | append_singleton earlier last ih =>
    rw [List.foldl_append, List.foldl_cons, List.foldl_nil, ih]
    unfold losingRun lossesAfter
    rw [List.reverse_append, List.reverse_singleton, List.singleton_append, List.takeWhile_cons]
    by_cases lost : last.netPnl < 0
    · have kept : ¬ backoff.Resets last := by
        rintro (⟨won, -⟩ | ⟨even, -⟩)
        · exact absurd lost (not_lt.mpr won.le)
        · exact absurd lost (not_lt.mpr even.ge)
      rw [if_pos lost, if_pos (by simpa using kept), List.countP_cons_of_pos (by simpa using lost)]
      omega
    · rw [if_neg lost]
      change (if backoff.Resets last then 0 else _) = _
      by_cases resets : backoff.Resets last
      · rw [if_pos resets, if_neg (by simpa using resets)]
        rfl
      · rw [if_neg resets, if_pos (by simpa using resets), List.countP_cons_of_neg (by simpa using lost)]

theorem SetupOutcome.le_iff {a b : SetupOutcome} : SetupOutcome.le a b = true ↔ a.Earlier b := by
  unfold le Earlier
  simp

theorem SetupOutcome.earlier_trans {a b c : SetupOutcome} (first : a.Earlier b) (second : b.Earlier c) :
    a.Earlier c := by
  rcases first with before | ⟨same, names⟩
  · rcases second with before' | ⟨same', -⟩
    · exact .inl (before.trans before')
    · exact .inl (same' ▸ before)
  · rcases second with before' | ⟨same', names'⟩
    · exact .inl (same ▸ before')
    · exact .inr ⟨same.trans same', String.le_trans names names'⟩

theorem SetupOutcome.earlier_total (a b : SetupOutcome) : a.Earlier b ∨ b.Earlier a := by
  rcases lt_trichotomy a.closedAt b.closedAt with before | same | after
  · exact .inl (.inl before)
  · rcases String.le_total a.setupId b.setupId with names | names
    · exact .inl (.inr ⟨same, names⟩)
    · exact .inr (.inr ⟨same.symm, names⟩)
  · exact .inr (.inl after)

/-- Outcomes replayed both before and after each other are of one setup. -/
theorem SetupOutcome.earlier_antisymm {a b : SetupOutcome} (first : a.Earlier b) (second : b.Earlier a) :
    a.setupId = b.setupId := by
  rcases first with before | ⟨_, names⟩
  · rcases second with before' | ⟨same', -⟩
    · exact absurd before before'.asymm
    · exact absurd before same'.not_gt
  · rcases second with before' | ⟨_, names'⟩
    · simp_all
    · exact String.le_antisymm names names'

theorem mergeSort_inOrder (outcomes : KeyedMap String SetupOutcome) :
    InOrder outcomes ((outcomes.entries.map Sigma.snd).mergeSort SetupOutcome.le) := by
  refine ⟨List.mergeSort_perm _ _, ?_⟩
  have sorted : ((outcomes.entries.map Sigma.snd).mergeSort SetupOutcome.le).Pairwise
      fun a b => SetupOutcome.le a b = true := by
    refine List.pairwise_mergeSort ?_ ?_ _
    · intro a b c first second
      exact SetupOutcome.le_iff.mpr
        (SetupOutcome.earlier_trans (SetupOutcome.le_iff.mp first) (SetupOutcome.le_iff.mp second))
    · intro a b
      rw [Bool.or_eq_true, SetupOutcome.le_iff, SetupOutcome.le_iff]
      exact SetupOutcome.earlier_total a b
  exact sorted.imp fun before => SetupOutcome.le_iff.mp before

section
variable {outcomes outcomes' : KeyedMap String SetupOutcome}

theorem entries_perm (same : ∀ setupId, outcomes.lookup setupId = outcomes'.lookup setupId) :
    outcomes.entries.Perm outcomes'.entries :=
  List.lookup_ext outcomes.nodupKeys outcomes'.nodupKeys fun setupId outcome => by
    rw [show outcomes.entries.dlookup setupId = outcomes'.entries.dlookup setupId from same setupId]

/-- Maps of the same outcomes are replayed in one order. -/
theorem inOrder_unique (own : SelfKeyed outcomes) (same : ∀ setupId, outcomes.lookup setupId = outcomes'.lookup setupId)
    {sorted sorted' : List SetupOutcome} (inOrder : InOrder outcomes sorted) (inOrder' : InOrder outcomes' sorted') :
    sorted = sorted' := by
  have perm : sorted.Perm sorted' :=
    inOrder.1.trans (((entries_perm same).map Sigma.snd).trans inOrder'.1.symm)
  refine perm.eq_of_pairwise ?_ inOrder.2 inOrder'.2
  intro a b listed listed' first second
  have held : ∀ outcome ∈ sorted, outcomes.lookup outcome.setupId = some outcome := by
    intro outcome member
    obtain ⟨⟨setupId, outcome'⟩, entry, same'⟩ := List.mem_map.mp (inOrder.1.mem_iff.mp member)
    have found : outcomes.lookup setupId = some outcome' := AList.mem_lookup_iff.mpr entry
    cases same'
    rwa [own setupId _ found]
  have heldA := held a listed
  have heldB := held b (perm.mem_iff.mpr listed')
  rw [SetupOutcome.earlier_antisymm first second, heldB] at heldA
  exact (Option.some.inj heldA).symm

/-- The streak of a map is the losing run of its outcomes in order, up to the counter's width. -/
theorem RiskState.rebuildStreak_losses {s : RiskState} (own : SelfKeyed s.outcomes) {sorted : List SetupOutcome}
    (inOrder : InOrder s.outcomes sorted) :
    s.rebuildStreak.consecutiveLosses = min (losingRun s.policy.streakBackoff sorted) (2 ^ 32 - 1) := by
  rw [inOrder_unique own (fun _ => rfl) inOrder (mergeSort_inOrder s.outcomes)]
  exact foldl_lossesAfter _ _

end

/-- A ledger whose streak is the one its outcomes give. -/
structure RiskState.Balanced (s : RiskState) : Prop where
  own : SelfKeyed s.outcomes
  streak : s.consecutiveLosses = s.rebuildStreak.consecutiveLosses

theorem RiskState.Balanced.onSetupClosed {s : RiskState} {setupId : String} {closedAt : Int} {terminal : Bool}
    (balanced : s.Balanced) : (s.onSetupClosed setupId closedAt terminal).1.Balanced := by
  by_cases taken : ∃ outcome, s.outcomes.lookup setupId = none ∧
      outcomeOf (setupEvents s.executions setupId) setupId closedAt terminal = .ok outcome
  · obtain ⟨outcome, unsettled, settled⟩ := taken
    rw [onSetupClosed_taken unsettled settled]
    refine ⟨fun key held found => ?_, rfl⟩
    by_cases own : key = setupId
    · subst own
      cases (AList.lookup_insert s.outcomes).symm.trans found
      exact outcomeOf_setupId settled
    · exact balanced.own key held ((AList.lookup_insert_ne own).symm.trans found)
  · obtain ⟨needs, kept⟩ := onSetupClosed_kept taken
    rw [kept]
    exact ⟨balanced.own, balanced.streak⟩

/-- What a ledger holds once deliveries have come in: nothing but the deliveries decides it. -/
structure RiskState.Delivered (start : RiskState) (deliveries : List Delivery) (s : RiskState) : Prop where
  policy : s.policy = start.policy
  executions : ∀ eventId event, s.executions.lookup eventId = some event ↔
    start.executions.lookup eventId = some event ∨ start.executions.lookup eventId = none ∧
      .execution event ∈ deliveries ∧ event.eventId = eventId ∧ start.Takes event
  outcomes : ∀ setupId outcome, s.outcomes.lookup setupId = some outcome ↔
    start.outcomes.lookup setupId = some outcome ∨ start.outcomes.lookup setupId = none ∧
      outcome.setupId = setupId ∧ s.Settled deliveries outcome
  balanced : s.Balanced

theorem lookup_none_of_kept {Key Value : Type} [DecidableEq Key] {map map' : KeyedMap Key Value} {key : Key}
    (kept : ∀ value, map.lookup key = some value → map'.lookup key = some value) (none_ : map'.lookup key = none) :
    map.lookup key = none := by
  cases held : map.lookup key with
  | none => rfl
  | some value =>
    rw [kept value held] at none_
    cases none_

section
variable {start s : RiskState} {deliveries : List Delivery}

theorem RiskState.Balanced.delivered (balanced : start.Balanced) : start.Delivered [] start where
  policy := rfl
  executions eventId event := by simp
  outcomes setupId outcome := by
    unfold Settled
    simp
  balanced := balanced

theorem RiskState.Delivered.unsettled (delivered : start.Delivered deliveries s) {setupId : String}
    (none_ : s.outcomes.lookup setupId = none) : start.outcomes.lookup setupId = none :=
  lookup_none_of_kept (fun outcome held => (delivered.outcomes setupId outcome).mpr (.inl held)) none_

theorem RiskState.Delivered.unseen (delivered : start.Delivered deliveries s) {eventId : String}
    (none_ : s.executions.lookup eventId = none) : start.executions.lookup eventId = none :=
  lookup_none_of_kept (fun event held => (delivered.executions eventId event).mpr (.inl held)) none_

section
variable {event : Execution} (delivered : start.Delivered deliveries s)
  (ordered : DeliveryOrder (deliveries ++ [.execution event]))
  (unseen : s.executions.lookup event.eventId = none)
include delivered ordered unseen

/-- A new execution that the start admits is of a setup whose closing has not come. -/
theorem RiskState.Delivered.not_closed (admits : start.Takes event) {closedAt : Int} {terminal : Bool} :
    .closing event.setupId closedAt terminal ∉ deliveries := by
  intro closed
  have held := (delivered.executions event.eventId event).mpr
    (.inr ⟨delivered.unseen unseen, ordered.repeated closed, rfl, admits⟩)
  rw [unseen] at held
  cases held

theorem RiskState.Delivered.admits : s.Takes event ↔ start.Takes event := by
  constructor
  · rintro ⟨named, unsettled⟩
    exact ⟨named, AList.lookup_eq_none.mp (delivered.unsettled (AList.lookup_eq_none.mpr unsettled))⟩
  · intro admits
    refine ⟨admits.1, fun settled => ?_⟩
    obtain ⟨outcome, held⟩ := KeyedMap.mem_iff.mp settled
    rcases (delivered.outcomes event.setupId outcome).mp held with earlier | ⟨-, own, closedAt, terminal, closed, -⟩
    · exact admits.2 (KeyedMap.mem_iff.mpr ⟨outcome, earlier⟩)
    · rw [own] at closed
      exact delivered.not_closed ordered unseen admits closed

end

/-- An execution leaves the executions of the setups that have closed. -/
theorem RiskState.Delivered.setupEvents_execution (delivered : start.Delivered deliveries s) {event : Execution}
    (ordered : DeliveryOrder (deliveries ++ [.execution event])) {setupId : String} {closedAt : Int} {terminal : Bool}
    (closed : .closing setupId closedAt terminal ∈ deliveries) :
    setupEvents (s.onExecution event).1.executions setupId = setupEvents s.executions setupId := by
  by_cases taken : s.executions.lookup event.eventId = none ∧ s.Takes event
  · obtain ⟨unseen, admits⟩ := taken
    rw [(onExecution_taken unseen admits).1]
    refine setupEvents_insert (AList.lookup_eq_none.mp unseen) ?_
    rintro rfl
    exact delivered.not_closed ordered unseen ((delivered.admits ordered unseen).mp admits) closed
  · rw [onExecution_kept taken]

theorem RiskState.Delivered.settled_execution (delivered : start.Delivered deliveries s) {event : Execution}
    (ordered : DeliveryOrder (deliveries ++ [.execution event])) {outcome : SetupOutcome} :
    (s.onExecution event).1.Settled (deliveries ++ [.execution event]) outcome ↔ s.Settled deliveries outcome := by
  constructor
  · rintro ⟨closedAt, terminal, listed, settled⟩
    rcases List.mem_append.mp listed with closed | last
    · rw [delivered.setupEvents_execution ordered closed] at settled
      exact ⟨closedAt, terminal, closed, settled⟩
    · cases List.mem_singleton.mp last
  · rintro ⟨closedAt, terminal, closed, settled⟩
    rw [← delivered.setupEvents_execution ordered closed] at settled
    exact ⟨closedAt, terminal, List.mem_append_left _ closed, settled⟩

theorem RiskState.Delivered.execution (delivered : start.Delivered deliveries s) {event : Execution}
    (ordered : DeliveryOrder (deliveries ++ [.execution event])) :
    start.Delivered (deliveries ++ [.execution event]) (s.onExecution event).1 where
  policy := onExecution_policy.trans delivered.policy
  executions eventId held := by
    rw [onExecution_lookup, delivered.executions]
    constructor
    · rintro ((kept | ⟨unseen, listed, rest⟩) | ⟨unseen, rfl, rfl, admits⟩)
      · exact .inl kept
      · exact .inr ⟨unseen, List.mem_append_left _ listed, rest⟩
      · exact .inr ⟨delivered.unseen unseen, by simp, rfl, (delivered.admits ordered unseen).mp admits⟩
    · rintro (kept | ⟨unseen, listed, rfl, admits⟩)
      · exact .inl (.inl kept)
      rcases List.mem_append.mp listed with earlier | last
      · exact .inl (.inr ⟨unseen, earlier, rfl, admits⟩)
      cases List.mem_singleton.mp last
      cases found : s.executions.lookup event.eventId with
      | none => exact .inr ⟨rfl, rfl, rfl, (delivered.admits ordered found).mpr admits⟩
      | some previous =>
        rcases (delivered.executions _ _).mp found with kept | ⟨-, earlier, own, -⟩
        · rw [unseen] at kept
          cases kept
        · have same := ordered.eventIds previous event (List.mem_append_left _ earlier) listed own
          rw [same] at earlier
          exact .inl (.inr ⟨unseen, earlier, rfl, admits⟩)
  outcomes setupId outcome := by
    rw [onExecution_outcomes, delivered.outcomes, delivered.settled_execution ordered]
  balanced := by
    obtain ⟨executions, needs, invalidated, moved, -⟩ := s.onExecution_frame event
    rw [moved]
    exact ⟨delivered.balanced.own, delivered.balanced.streak⟩

theorem RiskState.Settled.append {outcome : SetupOutcome} {delivery : Delivery} (settled : s.Settled deliveries outcome) :
    s.Settled (deliveries ++ [delivery]) outcome := by
  obtain ⟨closedAt, terminal, closed, same⟩ := settled
  exact ⟨closedAt, terminal, List.mem_append_left _ closed, same⟩

theorem RiskState.Delivered.closing (delivered : start.Delivered deliveries s) {setupId : String} {closedAt : Int}
    {terminal : Bool} (ordered : DeliveryOrder (deliveries ++ [.closing setupId closedAt terminal])) :
    start.Delivered (deliveries ++ [.closing setupId closedAt terminal])
      (s.onSetupClosed setupId closedAt terminal).1 where
  policy := onSetupClosed_policy.trans delivered.policy
  executions eventId event := by
    rw [onSetupClosed_executions, delivered.executions]
    simp
  outcomes key outcome := by
    have settled : (s.onSetupClosed setupId closedAt terminal).1.Settled
        (deliveries ++ [.closing setupId closedAt terminal]) outcome ↔
        s.Settled (deliveries ++ [.closing setupId closedAt terminal]) outcome := by
      unfold Settled
      rw [onSetupClosed_executions]
    rw [onSetupClosed_lookup, settled]
    constructor
    · rintro (held | ⟨unsettled, rfl, same⟩)
      · rcases (delivered.outcomes key outcome).mp held with kept | ⟨none_, own, earlier⟩
        · exact .inl kept
        · exact .inr ⟨none_, own, earlier.append⟩
      · have own := outcomeOf_setupId same
        refine .inr ⟨delivered.unsettled unsettled, own, closedAt, terminal, ?_, ?_⟩
        · simp [own]
        · rwa [own]
    · rintro (kept | ⟨none_, rfl, closedAt', terminal', listed, same⟩)
      · exact .inl ((delivered.outcomes key outcome).mpr (.inl kept))
      rcases List.mem_append.mp listed with earlier | last
      · exact .inl ((delivered.outcomes outcome.setupId outcome).mpr
          (.inr ⟨none_, rfl, closedAt', terminal', earlier, same⟩))
      cases List.mem_singleton.mp last
      cases found : s.outcomes.lookup outcome.setupId with
      | none => exact .inr ⟨rfl, rfl, same⟩
      | some previous =>
        rcases (delivered.outcomes _ _).mp found with kept | ⟨-, own, closedAt', terminal', earlier, same'⟩
        · rw [none_] at kept
          cases kept
        · rw [own] at earlier same'
          obtain ⟨rfl, rfl⟩ := ordered.closings _ _ _ _ _ listed (List.mem_append_left _ earlier)
          rw [Except.ok.inj (same'.symm.trans same)]
          exact .inl rfl
  balanced := delivered.balanced.onSetupClosed

theorem RiskState.Balanced.deliverAll (balanced : start.Balanced) (ordered : DeliveryOrder deliveries) :
    start.Delivered deliveries (start.deliverAll deliveries) := by
  induction deliveries using List.reverseRecOn with
  | nil => exact balanced.delivered
  | append_singleton earlier last ih =>
    have delivered := ih ordered.init
    unfold RiskState.deliverAll
    rw [List.foldl_append]
    cases last with
    | execution event => exact delivered.execution ordered
    | closing setupId closedAt terminal => exact delivered.closing ordered

end

end TradeControl.AdaptiveRisk
