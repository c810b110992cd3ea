import TradeControl.AdaptiveRisk.ReleasedOnProof
import TradeControl.AdaptiveRisk.RequestMoves
import TradeControl.AdaptiveRisk.SessionRuns
import TradeControl.AdaptiveRisk.ViewMoves

namespace TradeControl.AdaptiveRisk

open Foundation

/-- The state is reconciled, with a snapshot of this sequence and observation time. -/
structure RiskState.Seen (s : RiskState) (seen : Nat × Int) : Prop where
  reconciled : s.needsReconciliation = false
  sequence : s.lastSequence = some seen.1
  observed : s.lastReconciledAt = some seen.2

/-- What is noted of the reconciliations that returned `Ok` once an operation is done: an unseen
execution, a disconnection, a submission and a rejection make it void. -/
def SessionOp.notes (zones : Zones) (session : RiskSession) (noted : Option (Nat × Int)) :
    SessionOp → Option (Nat × Int)
  | .onExecution event _ => if event.eventId ∈ session.state.executions then noted else none
  | .disconnect _ => none
  | .reconcile a rule now first second =>
    match (session.reconcile zones a rule now first second).2 with
    | .ok _ => some (a.sequence, a.observedAt)
    | .error _ => noted
  | .beforeSubmit authorization refreshed a rule now first second third =>
    match (session.beforeSubmit zones a rule now authorization refreshed first second third).2 with
    | .ok _ => none
    | .error _ =>
      if session.state.Admits authorization refreshed ∧
          (session.reconcile zones a rule now first second).2 = .ok () then
        some (a.sequence, a.observedAt)
      else noted
  | .rejectedWithoutFill authorization save =>
    match (session.rejectedWithoutFill authorization save).2 with
    | .ok _ => none
    | .error _ => noted
  | _ => noted

section
variable {zones : Zones} {a : AccountSnapshot} {rule : LossRule} {now : Int} {session : RiskSession}
  {seen : Nat × Int} {noted : Option (Nat × Int)}

/-- A save that fails leaves nothing reconciled. -/
theorem persist_seen {save : Save} (last : (session.persist save).1.state.Seen seen) :
    save = .done ∧ session.state.Seen seen := by
  cases save with
  | done => exact ⟨rfl, last⟩
  | failed replaced error => cases last.reconciled

theorem reconcile_seen {first second : Save} {after : RiskSession} {answer : Except String Unit}
    (ran : session.reconcile zones a rule now first second = (after, answer)) (last : after.state.Seen seen) :
    answer = .ok () ∧ seen = (a.sequence, a.observedAt) := by
  have ends := reconcile_ends zones a rule now session first second
  generalize session.reconcile zones a rule now first second = result at ends ran
  cases ends with
  | unsaved =>
    cases ran
    cases last.reconciled
  | refused =>
    cases ran
    cases last.reconciled
  | unruled =>
    cases ran
    cases last.reconciled
  | @applied floors _ _ _ =>
    have ended : _ = after := congrArg Prod.fst ran
    rw [← ended] at last
    obtain ⟨rfl, marked⟩ := persist_seen last
    obtain ⟨metrics, tracked⟩ := trackReduced_eq a rule now
      { (session.state.flagged.rolled a).stopped a floors with needsReconciliation := false }
    dsimp only [RiskState.reconciled] at marked
    rw [tracked] at marked
    exact ⟨(congrArg Prod.snd ran).symm,
      Prod.ext (Option.some.inj marked.sequence).symm (Option.some.inj marked.observed).symm⟩

theorem onExecution_seen {event : Execution} {save : Save}
    (last : (session.onExecution event save).1.state.Seen seen) :
    event.eventId ∈ session.state.executions ∧ session.state.Seen seen := by
  rw [onExecution_eq] at last
  obtain ⟨_, last⟩ := persist_seen last
  obtain ⟨executions, needs, invalidated, same, change⟩ := session.state.onExecution_frame event
  rw [same] at last
  have reconciled : needs = false := last.reconciled
  by_cases known : event.eventId ∈ session.state.executions
  · refine ⟨known, ?_, last.sequence, last.observed⟩
    cases before : session.state.needsReconciliation with
    | false => rfl
    | true => cases reconciled.symm.trans ((change.seen known).1 before)
  · cases reconciled.symm.trans (change.unseen known).1

theorem onSetupClosed_seen {setup : String} {closedAt : Int} {terminal : Bool} {save : Save}
    (last : (session.onSetupClosed setup closedAt terminal save).1.state.Seen seen) :
    session.state.Seen seen := by
  rw [onSetupClosed_eq] at last
  obtain ⟨_, last⟩ := persist_seen last
  obtain ⟨outcomes, losses, needs, same, change⟩ := session.state.onSetupClosed_frame setup closedAt terminal
  rw [same] at last
  have reconciled : needs = false := last.reconciled
  refine ⟨?_, last.sequence, last.observed⟩
  cases before : session.state.needsReconciliation with
  | false => rfl
  | true => cases reconciled.symm.trans (change before)

theorem authorize_seen {trade : ProposedTrade} {save : Save}
    (last : (session.authorize zones a rule now trade save).1.state.Seen seen) :
    session.state.Seen seen := by
  have ends := authorize_ends zones a rule now session trade save
  generalize session.authorize zones a rule now trade save = result at ends last
  cases ends with
  | blocked =>
    obtain ⟨_, kept⟩ := persist_seen last
    exact ⟨kept.reconciled, kept.sequence, kept.observed⟩
  | reserved =>
    obtain ⟨_, kept⟩ := persist_seen last
    exact ⟨kept.reconciled, kept.sequence, kept.observed⟩

theorem beforeSubmit_seen {authorization : Authorization} {refreshed : ProposedTrade}
    {first second third : Save} (before : session.state.Seen seen → noted = some seen)
    (last : (session.beforeSubmit zones a rule now authorization refreshed first second
      third).1.state.Seen seen) :
    (SessionOp.beforeSubmit authorization refreshed a rule now first second third).notes zones session
      noted = some seen := by
  have ends := beforeSubmit_ends zones a rule now session authorization refreshed first second third
  unfold SessionOp.notes
  dsimp only
  generalize session.beforeSubmit zones a rule now authorization refreshed first second third = result
    at ends last ⊢
  cases ends with
  | refused barred =>
    rw [if_neg fun admitted => barred admitted.1]
    exact before last
  | unreconciled _ reconciled =>
    obtain ⟨done, _⟩ := reconcile_seen reconciled last
    cases done
  | declined admits reconciled =>
    obtain ⟨_, same⟩ := reconcile_seen reconciled last
    rw [if_pos ⟨admits, by rw [reconciled]⟩, same]
  | @submitted between state _ _ _ marked =>
    obtain ⟨_, kept⟩ := persist_seen last
    obtain ⟨_, _, _, same⟩ := submit_spec (fun _ => False) marked
    rw [same] at kept
    cases kept.reconciled

theorem rejectedWithoutFill_seen {authorization : Authorization} {save : Save}
    (before : session.state.Seen seen → noted = some seen)
    (last : (session.rejectedWithoutFill authorization save).1.state.Seen seen) :
    (SessionOp.rejectedWithoutFill authorization save).notes zones session noted = some seen := by
  have ends := rejectedWithoutFill_ends session authorization save
  unfold SessionOp.notes
  dsimp only
  generalize session.rejectedWithoutFill authorization save = result at ends last ⊢
  cases ends with
  | refused => exact before last
  | released =>
    obtain ⟨_, kept⟩ := persist_seen last
    cases kept.reconciled

/-- What is noted stays what the state shows, whatever the operation. -/
theorem run_seen (op : SessionOp) (before : session.state.Seen seen → noted = some seen)
    (last : (op.run zones session).1.state.Seen seen) : op.notes zones session noted = some seen := by
  cases op with
  | latchStops account daily save =>
    obtain ⟨_, kept⟩ := persist_seen last
    exact before ⟨kept.reconciled, kept.sequence, kept.observed⟩
  | onExecution event save =>
    obtain ⟨known, kept⟩ := onExecution_seen last
    unfold SessionOp.notes
    dsimp only
    rw [if_pos known]
    exact before kept
  | onSetupClosed setup closedAt terminal save => exact before (onSetupClosed_seen last)
  | disconnect save =>
    obtain ⟨_, kept⟩ := persist_seen last
    cases kept.reconciled
  | reconcile a rule now first second =>
    unfold SessionOp.run at last
    unfold SessionOp.notes
    dsimp only [Prod.map, id_eq] at last ⊢
    generalize ran : session.reconcile zones a rule now first second = result at last ⊢
    obtain ⟨done, same⟩ := reconcile_seen ran last
    rw [done, same]
  | authorize a trade rule now save => exact before (authorize_seen last)
  | beforeSubmit authorization refreshed a rule now first second third => exact beforeSubmit_seen before last
  | rejectedWithoutFill authorization save => exact rejectedWithoutFill_seen before last

end

/-- What an observer notes of a run: the sequence and observation time of the last reconciliation
that is not void, the instants that invalidate, and those among them that the document has. -/
structure Vigil where
  reconciled : Option (Nat × Int) := none
  recorded : List Int := []
  saved : List Int := []

/-- The instants that an operation's event invalidates. -/
def SessionOp.invalidates (s : RiskState) : SessionOp → List Int
  | .onExecution event _ =>
    if event.eventId ∈ s.executions then [] else event.occurredAt :: s.lastReconciledAt.toList
  | .disconnect _ => s.lastReconciledAt.toList
  | _ => []

/-- The notes after an event. With its session, what was not saved is forgotten. -/
def Vigil.next (zones : Zones) (world : RiskWorld) (vigil : Vigil) : WorldEvent → Vigil
  | .begin _ _ => if world.memory.isSome then vigil else { vigil with reconciled := none }
  | .drop => { vigil with recorded := vigil.saved }
  | .operate op =>
    let recorded := vigil.recorded ++ op.invalidates world.view
    { reconciled := op.notes zones world.session vigil.reconciled
      recorded
      saved := if op.writes world.view then recorded else vigil.saved }

/-- A run with the notes taken of it. -/
inductive WatchedRun (zones : Zones) (start : RiskWorld) : RiskWorld → Vigil → Prop
  | start : WatchedRun zones start start {}
  | next {world after : RiskWorld} {vigil : Vigil} {event : WorldEvent}
      (run : WatchedRun zones start world vigil) (step : WorldStep zones world event after) :
      WatchedRun zones start after (vigil.next zones world event)

/-- Every instant is known to lie within the invalidation of a state. -/
def Within (instants : List Int) (s : RiskState) : Prop :=
  ∀ t ∈ instants, ∃ u ∈ s.invalidatedAfter, t ≤ u

/-- What ties the notes to the account. -/
structure Watched (zones : Zones) (world : RiskWorld) (vigil : Vigil) : Prop where
  reconciled : ∀ s ∈ world.memory, ∀ seen, s.Seen seen → vigil.reconciled = some seen
  recorded : Within vigil.recorded world.view
  saved : Within vigil.saved world.document
  onCalendar : OnCalendar zones world.view
  savedOnCalendar : OnCalendar zones world.document
  locked : world.document.accountLocked = true → world.view.accountLocked = true

/-- What becomes of an account's locks: with its session, a lock that was not saved goes too. -/
structure LocksKept (world after : RiskWorld) (event : WorldEvent) : Prop where
  account : world.view.accountLocked = true →
    after.view.accountLocked = true ∨ (event = .drop ∧ world.document.accountLocked = false)
  accountSaved : world.document.accountLocked = true → after.document.accountLocked = true
  daily : world.view.dailyLocked = true → after.view.dailyLocked = true ∨
    (∃ op, event = .operate op ∧ op.TurnsDay world.view) ∨
    (event = .drop ∧ world.document.dailyLocked = false)

section
variable {zones : Zones} {world after : RiskWorld} {vigil : Vigil} {event : WorldEvent}
  {instants others : List Int} {s s' : RiskState}

theorem Within.moved {unlocked : Prop} (within : Within instants s) (move : ViewMove zones unlocked s s') :
    Within instants s' := by
  intro t member
  obtain ⟨u, invalidated, le⟩ := within t member
  obtain ⟨v, later, le'⟩ := move.invalidated u invalidated
  exact ⟨v, later, le.trans le'⟩

theorem Within.append (within : Within instants s) (more : Within others s) : Within (instants ++ others) s := by
  intro t member
  rcases List.mem_append.mp member with old | new
  · exact within t old
  · exact more t new

theorem Within.same (within : Within instants s) (same : s'.invalidatedAfter = s.invalidatedAfter) :
    Within instants s' := fun t member => same ▸ within t member

theorem persist_within (session : RiskSession) (save : Save) (within : Within instants session.state) :
    Within instants (session.persist save).1.state := by
  cases save with
  | done => exact within
  | failed replaced error => exact within

/-- An operation's state invalidates up to the instants of the operation's event. -/
theorem run_invalidates (session : RiskSession) (op : SessionOp) :
    Within (op.invalidates session.state) (op.run zones session).1.state := by
  have nothing : ∀ s, Within [] s := fun _ _ member => (by cases member)
  cases op with
  | onExecution event save =>
    change Within _ (session.onExecution event save).1.state
    rw [onExecution_eq]
    refine persist_within _ save ?_
    obtain ⟨executions, needs, invalidated, same, change⟩ := session.state.onExecution_frame event
    rw [same]
    unfold SessionOp.invalidates
    by_cases seen : event.eventId ∈ session.state.executions
    · dsimp only
      rw [if_pos seen]
      exact nothing _
    · dsimp only
      rw [if_neg seen]
      intro t member
      obtain ⟨above, others⟩ :=
        le_latestOf event.occurredAt [session.state.invalidatedAfter, session.state.lastReconciledAt]
      refine ⟨_, (change.unseen seen).2, ?_⟩
      rcases List.mem_cons.mp member with rfl | member
      · exact above
      · exact others session.state.lastReconciledAt (by simp) t (by simpa using member)
  | disconnect save =>
    refine persist_within { session with state := session.state.disconnect } save ?_
    intro t member
    exact le_laterOf.2 t (by simpa [SessionOp.invalidates] using member)
  | latchStops account daily save => exact nothing _
  | onSetupClosed setup closedAt terminal save => exact nothing _
  | reconcile a rule now first second => exact nothing _
  | authorize a trade rule now save => exact nothing _
  | beforeSubmit authorization refreshed a rule now first second third => exact nothing _
  | rejectedWithoutFill authorization save => exact nothing _

theorem view_unlocked (unlocked : world.memory = none) : world.view = world.document := by
  unfold RiskWorld.view
  rw [unlocked]
  rfl

theorem after_session (world : RiskWorld) (out : RiskSession × Except String Handed) :
    (world.after out).session = out.1 ∧ (world.after out).memory = some out.1.state := by
  obtain ⟨session, result⟩ := out
  unfold RiskWorld.after
  dsimp only
  split
  · exact ⟨rfl, rfl⟩
  · exact ⟨rfl, rfl⟩
  · exact ⟨rfl, rfl⟩

theorem mem_view {s : RiskState} (present : s ∈ world.memory) : world.view = s := by
  unfold RiskWorld.view
  rw [present]
  rfl

/-- The document after an operation: what it has of the notes, its day and its lock. -/
theorem Watched.document {unlocked : Prop} {writes : Bool} {ended : RiskSession}
    (watched : Watched zones world vigil) (move : SessionMove zones unlocked writes world.session ended)
    (within : Within instants ended.state) :
    Within (if writes then instants else vigil.saved) ended.document ∧ OnCalendar zones ended.document ∧
      (ended.document.accountLocked = true → ended.state.accountLocked = true) ∧
      (world.document.accountLocked = true → ended.document.accountLocked = true) := by
  cases writes with
  | false =>
    have same : ended.document = world.document := move.unwritten rfl
    rw [same]
    exact ⟨watched.saved, watched.savedOnCalendar, fun saved => move.view.account (watched.locked saved), id⟩
  | true =>
    obtain ⟨before, later, same⟩ := move.written rfl
    exact ⟨within.same same, before.calendar watched.onCalendar, later.account,
      fun saved => before.account (watched.locked saved)⟩

/-- An operation keeps the notes tied to the account, and its locks. -/
theorem watched_operated (watched : Watched zones world vigil) (locked : world.memory.isSome = true)
    (op : SessionOp) :
    Watched zones (world.after (op.run zones world.session)) (vigil.next zones world (.operate op)) ∧
      LocksKept world (world.after (op.run zones world.session)) (.operate op) := by
  have move := run_move world.session watched.onCalendar op
  have within := (watched.recorded.moved move.view).append (run_invalidates world.session op)
  obtain ⟨saved, calendar, lockSaved, lockKept⟩ := watched.document move within
  obtain ⟨s, present⟩ := Option.isSome_iff_exists.mp locked
  obtain ⟨session, memory⟩ := after_session world (op.run zones world.session)
  have view : (world.after (op.run zones world.session)).view = (op.run zones world.session).1.state :=
    congrArg RiskSession.state session
  have document : (world.after (op.run zones world.session)).document =
      (op.run zones world.session).1.document := congrArg RiskSession.document session
  refine ⟨⟨fun s' present' seen last => ?_, view ▸ within, document ▸ saved,
    view ▸ move.view.calendar watched.onCalendar, document ▸ calendar, ?_⟩, ⟨fun before => .inl ?_, ?_, fun before => ?_⟩⟩
  · cases memory.symm.trans present'
    exact run_seen op (fun before => watched.reconciled s present seen (mem_view present ▸ before)) last
  · rw [view, document]
    exact lockSaved
  · rw [view]
    exact move.view.account before
  · rw [document]
    exact lockKept
  · rw [view]
    exact (move.view.daily before).imp_right fun turns => .inl ⟨op, rfl, turns⟩

/-- A step keeps the notes tied to the account, and its locks. -/
theorem watched_step (step : WorldStep zones world event after) (watched : Watched zones world vigil) :
    Watched zones after (vigil.next zones world event) ∧ LocksKept world after event := by
  cases step with
  | @begun accountId policy session unlocked loaded =>
    unfold beginSession at loaded
    simp only [bind_ok, ensure_ok, pure_ok, exists_const] at loaded
    obtain ⟨_, _, _, _, rfl⟩ := loaded
    have same := view_unlocked unlocked
    have noted : vigil.next zones world (.begin accountId policy) = { vigil with reconciled := none } := by
      unfold Vigil.next
      rw [unlocked]
      rfl
    rw [noted]
    refine ⟨⟨fun s' present seen last => ?_, ?_, watched.saved, watched.savedOnCalendar,
      watched.savedOnCalendar, id⟩, ⟨fun before => .inl ?_, id, fun before => .inl ?_⟩⟩
    · cases present
      cases last.reconciled
    · exact (same ▸ watched.recorded : Within vigil.recorded world.document)
    · exact (same ▸ before : world.document.accountLocked = true)
    · exact (same ▸ before : world.document.dailyLocked = true)
  | @unbegun accountId policy =>
    refine ⟨?_, ⟨.inl, id, .inl⟩⟩
    unfold Vigil.next
    dsimp only
    split
    · exact watched
    next unlocked =>
      refine { watched with reconciled := fun s present => ?_ }
      exact absurd (by rw [present]; rfl) unlocked
  | dropped =>
    refine ⟨⟨fun _ present => (by cases present), watched.saved, watched.saved, watched.savedOnCalendar,
      watched.savedOnCalendar, id⟩, ⟨fun _ => ?_, id, fun _ => ?_⟩⟩
    · cases saved : world.document.accountLocked with
      | false => exact .inr ⟨rfl, rfl⟩
      | true => exact .inl saved
    · cases saved : world.document.dailyLocked with
      | false => exact .inr (.inr ⟨rfl, rfl⟩)
      | true => exact .inl saved
  | @operated op locked _ => exact watched_operated watched locked op

theorem WatchedRun.watched {start : RiskWorld} (run : WatchedRun zones start world vigil)
    (initial : Watched zones start {}) : Watched zones world vigil := by
  induction run with
  | start => exact initial
  | next _ step ih => exact (watched_step step ih).1

theorem enroll_watched {accountId : String} {initialBalance : Rat} {day : DayReference}
    {policy : RiskPolicy} {state : RiskState}
    (enrolled : RiskState.enroll zones accountId initialBalance day policy = .ok state)
    (onCalendar : ∃ now, policy.calendar.dayAt zones now = .ok day.day) :
    Watched zones { document := state } {} := by
  unfold RiskState.enroll at enrolled
  simp only [bind_ok, ensure_ok, pure_ok, exists_const] at enrolled
  obtain ⟨_, _, _, rfl⟩ := enrolled
  have nothing : ∀ s, Within [] s := fun _ _ member => (by cases member)
  exact ⟨fun _ present => (by cases present), nothing _, nothing _, onCalendar, onCalendar, id⟩

end

/-- What an approval shows: no void reconciliation, no later invalidation and no lock. -/
structure ApprovedFresh (vigil : Vigil) (s : RiskState) (a : AccountSnapshot) : Prop where
  reconciled : vigil.reconciled = some (a.sequence, a.observedAt)
  later : ∀ t ∈ vigil.recorded, t < a.observedAt
  accountOpen : s.accountLocked = false
  dailyOpen : s.dailyLocked = false

theorem authorize_fresh {zones : Zones} {world : RiskWorld} {vigil : Vigil}
    (watched : Watched zones world vigil) (locked : world.memory.isSome = true) {a : AccountSnapshot}
    {trade : ProposedTrade} {rule : LossRule} {now : Int} {save : Save} {authorization : Authorization}
    (authorized : (world.session.authorize zones a rule now trade save).2 = .ok authorization) :
    ApprovedFresh vigil world.view a := by
  have ends := authorize_ends zones a rule now world.session trade save
  generalize world.session.authorize zones a rule now trade save = result at ends authorized
  obtain ⟨s, present⟩ := Option.isSome_iff_exists.mp locked
  cases ends with
  | blocked => cases authorized
  | reserved admitted =>
    have view := mem_view present
    refine ⟨watched.reconciled s present _ ⟨?_, ?_, ?_⟩, fun t member => ?_, admitted.accountOpen,
      admitted.dailyOpen⟩
    · exact view ▸ admitted.reconciled
    · exact view ▸ admitted.sequence
    · exact view ▸ admitted.observed
    · obtain ⟨u, invalidated, le⟩ := watched.recorded t member
      exact le.trans_lt (admitted.valid.later u invalidated)

section
variable {session : RiskSession} {save : Save} {done : Unit}

theorem persist_answer {Answer : Type} {answer : Except String Answer} {given : Answer}
    (answered : save.answer answer = .ok given) :
    (session.persist save).1.document = (session.persist save).1.state := by
  cases save with
  | done => rfl
  | failed replaced error => cases answered

theorem persist_saved (answered : (session.persist save).2 = .ok done) :
    (session.persist save).1.document = (session.persist save).1.state := by
  rw [persist_snd] at answered
  exact persist_answer answered

theorem onExecution_saved {event : Execution} (answered : (session.onExecution event save).2 = .ok done) :
    (session.onExecution event save).1.document = (session.onExecution event save).1.state := by
  rw [onExecution_eq] at answered ⊢
  exact persist_answer answered

theorem onSetupClosed_saved {setup : String} {closedAt : Int} {terminal : Bool}
    (answered : (session.onSetupClosed setup closedAt terminal save).2 = .ok done) :
    (session.onSetupClosed setup closedAt terminal save).1.document =
      (session.onSetupClosed setup closedAt terminal save).1.state := by
  rw [onSetupClosed_eq] at answered ⊢
  exact persist_answer answered

theorem rejectedWithoutFill_saved {authorization : Authorization}
    (answered : (session.rejectedWithoutFill authorization save).2 = .ok done) :
    (session.rejectedWithoutFill authorization save).1.document =
      (session.rejectedWithoutFill authorization save).1.state := by
  have ends := rejectedWithoutFill_ends session authorization save
  generalize session.rejectedWithoutFill authorization save = result at ends answered ⊢
  cases ends with
  | refused => cases answered
  | released => exact persist_saved answered

variable {zones : Zones} {a : AccountSnapshot} {rule : LossRule} {now : Int}

theorem reconcile_saved {first second : Save}
    (answered : (session.reconcile zones a rule now first second).2 = .ok done) :
    (session.reconcile zones a rule now first second).1.document =
      (session.reconcile zones a rule now first second).1.state := by
  have ends := reconcile_ends zones a rule now session first second
  generalize session.reconcile zones a rule now first second = result at ends answered ⊢
  cases ends with
  | unsaved => cases answered
  | refused => cases answered
  | unruled => cases answered
  | applied => exact persist_saved answered

theorem authorize_saved {trade : ProposedTrade} {authorization : Authorization}
    (answered : (session.authorize zones a rule now trade save).2 = .ok authorization) :
    (session.authorize zones a rule now trade save).1.document =
      (session.authorize zones a rule now trade save).1.state := by
  have ends := authorize_ends zones a rule now session trade save
  generalize session.authorize zones a rule now trade save = result at ends answered ⊢
  cases ends with
  | blocked => cases answered
  | reserved => exact persist_answer answered

theorem beforeSubmit_saved {authorization : Authorization} {refreshed : ProposedTrade}
    {first second third : Save} {result : RiskSession × Except String Unit}
    (ran : session.beforeSubmit zones a rule now authorization refreshed first second third = result)
    (answered : result.2 = .ok done) : result.1.document = result.1.state := by
  have ends := beforeSubmit_ends zones a rule now session authorization refreshed first second third
  rw [ran] at ends
  cases ends with
  | refused => cases answered
  | unreconciled => cases answered
  | declined => cases answered
  | submitted => exact persist_saved answered

end

/-- An operation that returns `Ok` has saved what it leaves in memory. -/
theorem run_saved {zones : Zones} {session : RiskSession} {op : SessionOp} {handed : Handed}
    (answered : (op.run zones session).2 = .ok handed) :
    (op.run zones session).1.document = (op.run zones session).1.state := by
  have mapped : ∀ {Answer : Type} (answer : Except String Answer) {hand : Answer → Handed},
      answer.map hand = .ok handed → ∃ given, answer = .ok given := by
    intro Answer answer hand same
    cases answer with
    | error error => cases same
    | ok given => exact ⟨given, rfl⟩
  cases op with
  | latchStops account daily save =>
    obtain ⟨_, answered⟩ := mapped _ answered
    exact persist_saved answered
  | onExecution event save =>
    obtain ⟨_, answered⟩ := mapped (session.onExecution event save).2 answered
    exact onExecution_saved answered
  | onSetupClosed setup closedAt terminal save =>
    obtain ⟨_, answered⟩ := mapped (session.onSetupClosed setup closedAt terminal save).2 answered
    exact onSetupClosed_saved answered
  | disconnect save =>
    obtain ⟨_, answered⟩ := mapped _ answered
    exact persist_saved answered
  | reconcile a rule now first second =>
    obtain ⟨_, answered⟩ := mapped (session.reconcile zones a rule now first second).2 answered
    exact reconcile_saved answered
  | authorize a trade rule now save =>
    obtain ⟨_, answered⟩ := mapped (session.authorize zones a rule now trade save).2 answered
    exact authorize_saved answered
  | beforeSubmit authorization refreshed a rule now first second third =>
    obtain ⟨_, answered⟩ :=
      mapped (session.beforeSubmit zones a rule now authorization refreshed first second third).2 answered
    exact beforeSubmit_saved rfl answered
  | rejectedWithoutFill authorization save =>
    obtain ⟨_, answered⟩ := mapped (session.rejectedWithoutFill authorization save).2 answered
    exact rejectedWithoutFill_saved answered

/-- Over every run of the sessions of an account that was enrolled on a day of its own calendar: a
trade is authorized only in a view that is reconciled, not invalidated and not locked; and a lock
stays, but that a later day lifts the daily one, and that a session's end forgets what it failed to
save. -/
theorem watchedRuns_neverStale {zones : Zones} {accountId : String} {initialBalance : Rat}
    {day : DayReference} {policy : RiskPolicy} {state : RiskState}
    (enrolled : RiskState.enroll zones accountId initialBalance day policy = .ok state)
    (onCalendar : ∃ now, policy.calendar.dayAt zones now = .ok day.day)
    {world : RiskWorld} {vigil : Vigil} (run : WatchedRun zones { document := state } world vigil) :
    (∀ a trade rule now save authorization, world.memory.isSome = true →
      (world.session.authorize zones a rule now trade save).2 = .ok authorization →
        ApprovedFresh vigil world.view a) ∧
      ∀ event after, WorldStep zones world event after → LocksKept world after event ∧
        ∀ op handed, event = .operate op → (op.run zones world.session).2 = .ok handed →
          after.document = after.view := by
  have watched := run.watched (enroll_watched enrolled onCalendar)
  refine ⟨fun a trade rule now save authorization locked authorized => authorize_fresh watched locked authorized,
    fun event after step => ⟨(watched_step step watched).2, fun op handed same answered => ?_⟩⟩
  subst same
  cases step with
  | operated locked held =>
    obtain ⟨session, _⟩ := after_session world (op.run zones world.session)
    have view : (world.after (op.run zones world.session)).view = (op.run zones world.session).1.state :=
      congrArg RiskSession.state session
    have document : (world.after (op.run zones world.session)).document =
        (op.run zones world.session).1.document := congrArg RiskSession.document session
    rw [view, document]
    exact run_saved answered

theorem watchedRuns_neverStale_reconciled :
    let op := SessionOp.reconcile (flatSnapshot 0) standardLossRule (noonOf 0) .done .done
    let vigil := (Vigil.next utcZones { document := enrolledState } {} (.begin "test" {})).next utcZones
      firstSession (.operate op)
    (∀ a trade rule now save authorization, reconciledSession.memory.isSome = true →
      (reconciledSession.session.authorize utcZones a rule now trade save).2 = .ok authorization →
        ApprovedFresh vigil reconciledSession.view a) ∧
      ∀ event after, WorldStep utcZones reconciledSession event after →
        LocksKept reconciledSession after event ∧
          ∀ op handed, event = .operate op → (op.run utcZones reconciledSession.session).2 = .ok handed →
            after.document = after.view :=
  watchedRuns_neverStale enrolledState_enrolled ⟨noonOf 0, by decide +kernel⟩
    (.next (.next .start (.begun rfl (beginSession_ok rfl (by decide +kernel))))
      (.operated rfl fun _ token => (by cases token)))

/-- A lock, and an invalidation, that could not be saved are gone in the next session: the account
is open again, and a trade is authorized on the snapshot that the disconnection came after. -/
theorem watchedRuns_forget :
    let locked := firstSession.operated utcZones [.latchStops true false (.failed false "no space left")]
    let cut := reconciledSession.operated utcZones [.disconnect (.failed false "no space left")]
    let dropped : RiskWorld := { cut with memory := none }
    let again := ({ dropped with memory := some dropped.document.flagged } : RiskWorld).operated utcZones
      [.reconcile (flatSnapshot 0) standardLossRule (noonOf 0) .done .done,
        .authorize (flatSnapshot 0) (hundredTrade "r1") standardLossRule (noonOf 0) .done]
    (WorldRun utcZones { document := enrolledState } locked ∧ locked.view.accountLocked = true ∧
      WorldStep utcZones locked .drop { locked with memory := none } ∧
      ({ locked with memory := none } : RiskWorld).view.accountLocked = false) ∧
      WorldRun utcZones { document := enrolledState } again ∧
      cut.view.invalidatedAfter = some (flatSnapshot 0).observedAt ∧ again.authorized = ["r1"] := by
  refine ⟨⟨firstSession_run.operated rfl (by simp [SessionOp.token]), by decide +kernel, .dropped,
    by decide +kernel⟩, ?_, by decide +kernel, by decide +kernel⟩
  have cut : WorldRun utcZones { document := enrolledState }
      (reconciledSession.operated utcZones [.disconnect (.failed false "no space left")]) :=
    reconciledSession_run.operated rfl (by simp [SessionOp.token])
  refine WorldRun.operated (.next (.next cut .dropped) (.begun rfl (beginSession_ok ?_ ?_))) rfl
    (by simp [SessionOp.token])
  · decide +kernel
  · decide +kernel

end TradeControl.AdaptiveRisk
