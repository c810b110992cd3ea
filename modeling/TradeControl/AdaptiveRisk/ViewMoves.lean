import TradeControl.AdaptiveRisk.RequestMoves
import TradeControl.AdaptiveRisk.SessionRuns

namespace TradeControl.AdaptiveRisk

open Foundation

/-- The day a state is in is a day of its own calendar. -/
def OnCalendar (zones : Zones) (s : RiskState) : Prop :=
  ∃ now, s.policy.calendar.dayAt zones now = .ok s.day.day

/-- A change of the state that keeps its locks, but the daily one if it is `unlocked`, and takes no
invalidation back. -/
structure ViewMove (zones : Zones) (unlocked : Prop) (s s' : RiskState) : Prop where
  policy : s'.policy = s.policy
  account : s.accountLocked = true → s'.accountLocked = true
  daily : s.dailyLocked = true → s'.dailyLocked = true ∨ unlocked
  invalidated : ∀ t ∈ s.invalidatedAfter, ∃ u ∈ s'.invalidatedAfter, t ≤ u
  calendar : OnCalendar zones s → OnCalendar zones s'

section
variable {zones : Zones} {unlocked : Prop} {s s' s'' : RiskState} {a : AccountSnapshot} {rule : LossRule}
  {now : Int}

theorem ViewMove.same (policy : s'.policy = s.policy) (account : s'.accountLocked = s.accountLocked)
    (daily : s'.dailyLocked = s.dailyLocked) (invalidated : s'.invalidatedAfter = s.invalidatedAfter)
    (day : s'.day = s.day) : ViewMove zones unlocked s s' :=
  ⟨policy, fun locked => account ▸ locked, fun locked => .inl (daily ▸ locked),
    fun t member => ⟨t, invalidated ▸ member, le_rfl⟩,
    fun ⟨now, known⟩ => ⟨now, by rw [policy, day]; exact known⟩⟩

theorem ViewMove.trans (first : ViewMove zones unlocked s s') (second : ViewMove zones unlocked s' s'') :
    ViewMove zones unlocked s s'' := by
  refine ⟨second.policy.trans first.policy, fun locked => second.account (first.account locked),
    fun locked => ?_, fun t member => ?_, fun known => second.calendar (first.calendar known)⟩
  · rcases first.daily locked with still | gone
    · exact second.daily still
    · exact .inr gone
  · obtain ⟨u, between, le⟩ := first.invalidated t member
    obtain ⟨v, last, le'⟩ := second.invalidated u between
    exact ⟨v, last, le.trans le'⟩

theorem le_latestOf (instant : Int) (others : List (Option Int)) :
    instant ≤ latestOf instant others ∧ ∀ other ∈ others, ∀ t ∈ other, t ≤ latestOf instant others := by
  have folded : ∀ (instants : List Int) (start : Int),
      start ≤ instants.foldl max start ∧ ∀ t ∈ instants, t ≤ instants.foldl max start := by
    intro instants
    induction instants with
    | nil => exact fun start => ⟨le_rfl, by simp⟩
    | cons first rest ih =>
      intro start
      obtain ⟨above, later⟩ := ih (max start first)
      refine ⟨(le_max_left _ _).trans above, fun t member => ?_⟩
      rcases List.mem_cons.mp member with rfl | member
      · exact (le_max_right _ _).trans above
      · exact later t member
  obtain ⟨above, later⟩ := folded (others.filterMap id) instant
  refine ⟨above, fun other member t present => later t ?_⟩
  exact List.mem_filterMap.mpr ⟨other, member, present⟩

theorem le_laterOf {first second : Option Int} :
    (∀ t ∈ first, ∃ u ∈ laterOf first second, t ≤ u) ∧ ∀ t ∈ second, ∃ u ∈ laterOf first second, t ≤ u := by
  cases first with
  | none => exact ⟨by simp, fun t present => ⟨t, present, le_rfl⟩⟩
  | some x =>
    cases second with
    | none => exact ⟨fun t present => ⟨t, present, le_rfl⟩, by simp⟩
    | some y => simp [laterOf]

theorem latchStops_view (s : RiskState) (account daily : Bool) :
    ViewMove zones unlocked s (s.latchStops account daily) := by
  refine ⟨rfl, fun locked => ?_, fun locked => .inl ?_, fun t member => ⟨t, member, le_rfl⟩, id⟩
  · simp [RiskState.latchStops, locked]
  · simp [RiskState.latchStops, locked]

theorem onExecution_view (s : RiskState) (event : Execution) :
    ViewMove zones unlocked s (s.onExecution event).1 := by
  obtain ⟨executions, needs, invalidated, same, change⟩ := s.onExecution_frame event
  rw [same]
  refine ⟨rfl, id, .inl, fun t member => ?_, id⟩
  by_cases seen : event.eventId ∈ s.executions
  · exact ⟨t, (change.seen seen).2 ▸ member, le_rfl⟩
  · obtain ⟨_, above⟩ := le_latestOf event.occurredAt [s.invalidatedAfter, s.lastReconciledAt]
    exact ⟨_, (change.unseen seen).2, above s.invalidatedAfter (by simp) t member⟩

theorem onSetupClosed_view (s : RiskState) (setupId : String) (closedAt : Int) (terminal : Bool) :
    ViewMove zones unlocked s (s.onSetupClosed setupId closedAt terminal).1 := by
  obtain ⟨outcomes, losses, needs, same, _⟩ := s.onSetupClosed_frame setupId closedAt terminal
  rw [same]
  exact .same rfl rfl rfl rfl rfl

theorem disconnect_view (s : RiskState) : ViewMove zones unlocked s s.disconnect :=
  ⟨rfl, id, .inl, le_laterOf.1, id⟩

/-- A snapshot lifts the daily lock for a day that begins later. -/
theorem rolled_view (s : RiskState) (onCalendar : OnCalendar zones s) (verified : Verified zones a now s) :
    ViewMove zones (s.day.day.start < a.dayReference.day.start) s (s.rolled a) := by
  obtain ⟨entered, known⟩ := onCalendar
  refine ⟨rfl, id, fun locked => ?_, fun t member => ⟨t, member, le_rfl⟩, fun _ => ?_⟩
  · by_cases sameDay : a.dayReference.day = s.day.day
    · exact .inl (by simp [RiskState.rolled, sameDay, locked])
    · refine .inr (lt_of_le_of_ne verified.onward fun sameStart => sameDay ?_)
      exact TradingCalendar.dayAt_start verified.valid.day known sameStart.symm
  · by_cases sameDay : a.dayReference.day = s.day.day
    · exact ⟨entered, by simpa [RiskState.rolled, sameDay] using known⟩
    · exact ⟨now, by simpa [RiskState.rolled, sameDay] using verified.valid.day⟩

theorem stopped_view (s : RiskState) (floors : Thresholds) :
    ViewMove zones unlocked s (s.stopped a floors) := by
  have latched : ViewMove zones unlocked s (s.latchStops _ _) :=
    latchStops_view s (decide (a.equity ≤ floors.internalAccountFloor))
      (decide (a.equity ≤ floors.internalDailyFloor))
  exact ⟨latched.policy, latched.account, latched.daily, latched.invalidated, latched.calendar⟩

theorem reconciled_view (onCalendar : OnCalendar zones s) (verified : Verified zones a now s.flagged)
    (floors : Thresholds) :
    ViewMove zones (s.day.day.start < a.dayReference.day.start) s.flagged (s.reconciled a rule now floors) := by
  have rolled := rolled_view s.flagged onCalendar verified
  obtain ⟨metrics, tracked⟩ := trackReduced_eq a rule now
    { (s.flagged.rolled a).stopped a floors with needsReconciliation := false }
  unfold RiskState.reconciled
  rw [tracked]
  exact (rolled.trans (stopped_view _ floors)).trans (.same rfl rfl rfl rfl rfl)

end

/-- What an operation does to the view of its session and to the document: a document that it wrote
lies between the views before and after it. -/
structure SessionMove (zones : Zones) (unlocked : Prop) (writes : Bool) (session after : RiskSession) :
    Prop where
  view : ViewMove zones unlocked session.state after.state
  unwritten : writes = false → after.document = session.document
  written : writes = true → ViewMove zones unlocked session.state after.document ∧
    ViewMove zones unlocked after.document after.state ∧
    after.document.invalidatedAfter = after.state.invalidatedAfter

def Save.replaces : Save → Bool
  | .done => true
  | .failed replaced _ => replaced

section
variable {zones : Zones} {unlocked : Prop} {a : AccountSnapshot} {rule : LossRule} {now : Int}
  {session between : RiskSession} {state : RiskState}

theorem SessionMove.idle (session : RiskSession) : SessionMove zones unlocked false session session :=
  ⟨.same rfl rfl rfl rfl rfl, fun _ => rfl, fun written => (by cases written)⟩

theorem flagged_view (s : RiskState) : ViewMove zones unlocked s s.flagged := .same rfl rfl rfl rfl rfl

theorem persist_move (session : RiskSession) (view : ViewMove zones unlocked session.state state)
    (save : Save) :
    SessionMove zones unlocked save.replaces session ({ session with state }.persist save).1 := by
  cases save with
  | done => exact ⟨view, fun unwritten => (by cases unwritten), fun _ => ⟨view, .same rfl rfl rfl rfl rfl, rfl⟩⟩
  | failed replaced error =>
    refine ⟨view.trans (flagged_view state), fun unwritten => ?_, fun written => ?_⟩
    · change replaced = false at unwritten
      subst unwritten
      rfl
    · change replaced = true at written
      subst written
      exact ⟨view, flagged_view state, rfl⟩

/-- A further change with its save, after the document was written. -/
theorem SessionMove.persisted (move : SessionMove zones unlocked true session between)
    (view : ViewMove zones unlocked between.state state)
    (invalidated : state.invalidatedAfter = between.state.invalidatedAfter) (save : Save) :
    SessionMove zones unlocked true session ({ between with state }.persist save).1 := by
  have last := persist_move between view save
  refine ⟨move.view.trans last.view, fun unwritten => (by cases unwritten), fun _ => ?_⟩
  cases replaces : save.replaces with
  | true =>
    obtain ⟨before, after, same⟩ := last.written replaces
    exact ⟨move.view.trans before, after, same⟩
  | false =>
    obtain ⟨before, after, same⟩ := move.written rfl
    rw [last.unwritten replaces]
    refine ⟨before, after.trans last.view, same.trans ?_⟩
    cases save with
    | done => exact invalidated.symm
    | failed replaced error => exact invalidated.symm

theorem reconcile_move (a : AccountSnapshot) (rule : LossRule) (now : Int)
    (onCalendar : OnCalendar zones session.state) (first second : Save) :
    SessionMove zones (session.state.day.day.start < a.dayReference.day.start) first.replaces session
      (session.reconcile zones a rule now first second).1 := by
  have ends := reconcile_ends zones a rule now session first second
  generalize session.reconcile zones a rule now first second = result at ends ⊢
  have flagged : SessionMove zones (session.state.day.day.start < a.dayReference.day.start) true session
      { state := session.state.flagged, document := session.state.flagged } :=
    persist_move session (flagged_view session.state) .done
  cases ends with
  | @unsaved replaced error failed =>
    rw [failed]
    exact persist_move session (flagged_view session.state) (.failed replaced error)
  | refused saved _ =>
    rw [saved]
    exact flagged
  | unruled saved checked _ =>
    rw [saved]
    have rolled := rolled_view session.state.flagged onCalendar (verify_verified checked)
    obtain ⟨before, _, _⟩ := flagged.written rfl
    exact ⟨flagged.view.trans rolled, fun unwritten => (by cases unwritten), fun _ => ⟨before, rolled, rfl⟩⟩
  | @applied floors saved checked _ =>
    rw [saved]
    refine flagged.persisted (reconciled_view onCalendar (verify_verified checked) floors) ?_ second
    obtain ⟨metrics, tracked⟩ := trackReduced_eq a rule now
      { (session.state.flagged.rolled a).stopped a floors with needsReconciliation := false }
    unfold RiskState.reconciled
    rw [tracked]
    rfl

theorem authorize_move (trade : ProposedTrade) (save : Save) :
    SessionMove zones unlocked save.replaces session (session.authorize zones a rule now trade save).1 := by
  have ends := authorize_ends zones a rule now session trade save
  generalize session.authorize zones a rule now trade save = result at ends ⊢
  cases ends with
  | @blocked metrics _ =>
    have view : ViewMove zones unlocked session.state { session.state with metrics } :=
      .same rfl rfl rfl rfl rfl
    exact persist_move session view save
  | @reserved metrics decision _ =>
    have view : ViewMove zones unlocked session.state
        ({ session.state with metrics }.reserve now trade decision) := .same rfl rfl rfl rfl rfl
    exact persist_move session view save

end

/-- Whether an operation's snapshot is of a later day than the state's. -/
def SessionOp.TurnsDay (s : RiskState) : SessionOp → Prop
  | .reconcile a _ _ _ _ | .beforeSubmit _ _ a _ _ _ _ _ => s.day.day.start < a.dayReference.day.start
  | _ => False

/-- Whether an operation comes to write the document. -/
def SessionOp.writes (s : RiskState) : SessionOp → Bool
  | .latchStops _ _ save | .onExecution _ save | .onSetupClosed _ _ _ save | .disconnect save
  | .authorize _ _ _ _ save => save.replaces
  | .reconcile _ _ _ first _ => first.replaces
  | .beforeSubmit authorization refreshed _ _ _ first _ _ =>
    decide (s.Admits authorization refreshed) && first.replaces
  | .rejectedWithoutFill authorization save =>
    decide (s.validateToken authorization = .ok ()) && save.replaces

section
variable {zones : Zones} {session : RiskSession}

theorem beforeSubmit_move {a : AccountSnapshot} {rule : LossRule} {now : Int}
    (onCalendar : OnCalendar zones session.state) (authorization : Authorization)
    (refreshed : ProposedTrade) (first second third : Save) :
    SessionMove zones (session.state.day.day.start < a.dayReference.day.start)
      (decide (session.state.Admits authorization refreshed) && first.replaces) session
      (session.beforeSubmit zones a rule now authorization refreshed first second third).1 := by
  have ends := beforeSubmit_ends zones a rule now session authorization refreshed first second third
  generalize session.beforeSubmit zones a rule now authorization refreshed first second third = result
    at ends ⊢
  have move := reconcile_move a rule now onCalendar first second
  cases ends with
  | refused barred =>
    rw [decide_eq_false barred]
    exact .idle session
  | unreconciled admits reconciled =>
    rw [decide_eq_true admits, Bool.true_and]
    rw [reconciled] at move
    exact move
  | declined admits reconciled =>
    rw [decide_eq_true admits, Bool.true_and]
    rw [reconciled] at move
    exact move
  | @submitted between state admits reconciled _ marked =>
    rw [decide_eq_true admits, Bool.true_and]
    have saved : first.replaces = true := by
      cases first with
      | done => rfl
      | failed replaced error => cases reconciled
    rw [saved] at move ⊢
    rw [reconciled] at move
    obtain ⟨_, _, _, same⟩ := submit_spec (fun _ => False) marked
    refine move.persisted ?_ ?_ third
    · rw [same]
      exact .same rfl rfl rfl rfl rfl
    · rw [same]

/-- What an operation does to its session's view and to the document. -/
theorem run_move (session : RiskSession) (onCalendar : OnCalendar zones session.state) (op : SessionOp) :
    SessionMove zones (op.TurnsDay session.state) (op.writes session.state) session
      (op.run zones session).1 := by
  cases op with
  | latchStops account daily save => exact persist_move session (latchStops_view _ account daily) save
  | onExecution event save =>
    change SessionMove _ _ _ session (session.onExecution event save).1
    rw [onExecution_eq]
    exact persist_move session (onExecution_view session.state event) save
  | onSetupClosed setup closedAt terminal save =>
    change SessionMove _ _ _ session (session.onSetupClosed setup closedAt terminal save).1
    rw [onSetupClosed_eq]
    exact persist_move session (onSetupClosed_view session.state setup closedAt terminal) save
  | disconnect save => exact persist_move session (disconnect_view _) save
  | reconcile a rule now first second => exact reconcile_move a rule now onCalendar first second
  | authorize a trade rule now save => exact authorize_move trade save
  | beforeSubmit authorization refreshed a rule now first second third =>
    exact beforeSubmit_move onCalendar authorization refreshed first second third
  | rejectedWithoutFill authorization save =>
    have ends := rejectedWithoutFill_ends session authorization save
    unfold SessionOp.run SessionOp.writes
    dsimp only [Prod.map, id_eq]
    generalize session.rejectedWithoutFill authorization save = result at ends ⊢
    cases ends with
    | refused barred =>
      rw [decide_eq_false barred]
      exact .idle session
    | released valid =>
      rw [decide_eq_true valid]
      have view : ViewMove zones False session.state
          (session.state.release authorization.request.requestId) := .same rfl rfl rfl rfl rfl
      exact persist_move session view save

end

end TradeControl.AdaptiveRisk
