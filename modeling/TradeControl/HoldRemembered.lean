import TradeControl.Foundation.GuardedReach
import TradeControl.ParksKept
import TradeControl.RecoverRows

namespace TradeControl

/-! The lifecycle ticks that follow the hold of one order, and the writes that keep its row. -/

/-- Who wrote a held row last: a hold of an order on this instrument, a tick that released some
of its reasons, or a tick that met an alignment pause. -/
inductive RowWrite
  | held (instrument : String)
  | narrowed
  | aligned
  deriving DecidableEq

/-- The time to live, in seconds, that such a write at `writtenAt` gives the record. -/
def RowWrite.ttl (env : Env) (record : HeldTradeRecord) (writtenAt : Int) : RowWrite → Int
  | .held instrument => holdTtl env instrument record writtenAt
  | .narrowed => env.spreads.blockTtlSeconds record.instrument record.openedAt
  | .aligned => max (numSeconds (record.expiresAt - writtenAt)) 1

/-- One turn of a lifecycle tick that may concern the trade, or a change of the pause table. -/
inductive LifecycleEvent
  | hold (ans : Answers) (order : BrokerOrder) (now : Int)
  | recover (ans : Answers) (redrives : Nat → Answers) (policy : ClearPolicy) (now : Int)
  | pause (pauses : String → List PauseEntry)

/-- The world, when and by whom the trade's row was last written, and whether the pulled order
has been handed to the restore. -/
structure HoldState where
  world : World
  lastWrite : RowWrite
  writtenAt : Int
  handed : Bool

/-- How often a turn hands this order to the restore. -/
def RecoverReport.handOvers (report : RecoverReport) (id : Nat) : Nat :=
  report.outcomes.countP (·.1 == id)

/-- The state with the world moved on: a row that changed was written now. -/
def HoldState.movedTo (state : HoldState) (tradeId : String) (world : World) (write : RowWrite) (now : Int)
    (handOvers : Nat) : HoldState where
  world := world
  lastWrite :=
    if world.store.held tradeId = state.world.store.held tradeId then state.lastWrite else write
  writtenAt :=
    if world.store.held tradeId = state.world.store.held tradeId then state.writtenAt else now
  handed := state.handed || handOvers ≠ 0

/-- The write of a recovery turn over this record. -/
def recoverWrite (ans : Answers) (tradeId : String) (now : Int) (store : Store) : RowWrite :=
  match (store.getHeldTradeRecord now tradeId).bind (protect ans tradeId now store) with
  | some (_, true) => .aligned
  | _ => .narrowed

def LifecycleEvent.step (env : Env) (tradeId : String) (id : Nat) (state : HoldState) :
    LifecycleEvent → HoldState
  | .hold ans order now =>
    state.movedTo tradeId (tryCancelOne env ans order now state.world).1 (.held order.instrument) now 0
  | .recover ans redrives policy now =>
    let (world, report) := recoverTurn env ans redrives policy tradeId now state.world
    state.movedTo tradeId world (recoverWrite ans tradeId now state.world.store) now (report.handOvers id)
  | .pause pauses =>
    { state with world := { state.world with store := { state.world.store with pauses } } }

/-- No store call fails, and the cancel pass lists orders that rest: another than the one
that was pulled. -/
def LifecycleEvent.Served (id : Nat) : LifecycleEvent → Prop
  | .hold ans order _ => (∀ call, ans.store call = true) ∧ order.id ≠ id
  | .recover ans _ _ _ => ∀ call, ans.store call = true
  | .pause _ => True

/-- What a recovery turn makes of a record it does not hand over: the row as it was, or one
written now that names as many pulled orders. -/
def RowKept (env : Env) (tradeId : String) (record : HeldTradeRecord) (write : RowWrite) (now : Int)
    (before after : Store) : Prop :=
  after.held tradeId = before.held tradeId ∨
    ∃ record' : HeldTradeRecord, record'.applied = record.applied ∧
      (∀ id, record'.pulls id = record.pulls id) ∧
      after.held tradeId = some ⟨record', controlExpiresAt now (write.ttl env record' now)⟩

theorem restoreRecord_handOvers (env : Env) {ans : Answers} (writes : ∀ call, ans.store call = true)
    (redrives : Nat → Answers) (policy : ClearPolicy) (tradeId : String) (record : HeldTradeRecord)
    (reason : RestoreReason) (now : Int) (world : World) (id : Nat) :
    (restoreRecord env ans redrives policy tradeId record reason now world).2.handOvers id =
        record.pulls id ∧
      (restoreRecord env ans redrives policy tradeId record reason now world).2.restored.isSome := by
  have turns := (restoreCancelledOrders_turns env redrives record now tradeId id 0
    record.cancelledOrders world).1
  refine ⟨turns, ?_⟩
  unfold restoreRecord finishRecover
  cases policy with
  | leaveForCaller => rfl
  | clearRecord =>
    dsimp only
    rw [(clearHold_row writes ..).1]
    rfl

/-- After a restore and the clear that belongs to it, the row names no pulled order. -/
theorem restoreRecord_cleared {env : Env} {ans : Answers} (writes : ∀ call, ans.store call = true)
    (redrives : Nat → Answers) (policy : ClearPolicy) {tradeId : String} (record : HeldTradeRecord)
    (reason : RestoreReason) {now : Int} {world : World} {id bound : Nat}
    (within : world.store.RowWithin now tradeId id bound) :
    ∀ row, (callerFinish ans policy tradeId now
        (restoreRecord env ans redrives policy tradeId record reason now world)).store.held tradeId =
      some row → row.value.pulls id = 0 := by
  have reported := (restoreRecord_handOvers env writes redrives policy tradeId record reason now world
    id).2
  have carried := (restoreCancelledOrders_turns env redrives record now tradeId id bound
    record.cancelledOrders world).2 within
  intro row stored
  unfold callerFinish at stored
  cases policy with
  | clearRecord =>
    unfold HeldTradeRecord.pulls
    rw [(clearHold_row writes ..).2 row stored]
    rfl
  | leaveForCaller =>
    dsimp only at stored
    have taken : (finishSystem2AndClear ans tradeId now (restoreRecord env ans redrives .leaveForCaller
        tradeId record reason now world).1).1.store.held tradeId = none :=
      finishSystem2AndClear_row writes carried
    rw [if_pos reported, taken] at stored
    cases stored

theorem protect_read {ans : Answers} (reads : ans.store .listPauses = true) (tradeId : String) (now : Int)
    (store : Store) (record : HeldTradeRecord) : protect ans tradeId now store record ≠ none := by
  unfold protect
  simp only [reads, Bool.not_true, Bool.false_eq_true, if_false]
  repeat' split
  all_goals simp

theorem stillHeld_iff_unemptied {env : Env} {ans : Answers} (reads : ∀ call, ans.store call = true)
    {tradeId : String} {record kept : HeldTradeRecord} {now : Int} {store : Store}
    (applied : record.applied = true) (pulled : record.cancelledOrders ≠ [])
    (unprotected : protect ans tradeId now store record = some (kept, false)) :
    record.StillHeld env (ans.quote .release) tradeId now store ↔
      (releaseSatisfied env ans tradeId record now store).2 = false := by
  have emptied := releaseSatisfied_emptied_iff env ans tradeId record now store
  constructor
  · rintro (⟨reason, member, holds⟩ | alignment)
    · by_contra all
      exact not_holds_of_released ((emptied.mp (by simpa using all)).2 reason member) holds
    · exact absurd alignment (no_alignment_of_unprotected pulled unprotected)
  · intro stays
    by_contra lifted
    have all : ∀ reason ∈ effectiveHolders record,
        reasonReleased env ans tradeId record now store reason = true := by
      intro reason member
      by_contra unreleased
      exact lifted (.inl ⟨reason, member, holds_of_not_released reads unreleased⟩)
    rw [emptied.mpr ⟨effectiveHolders_ne_empty applied, all⟩] at stays
    cases stays

/-- How a recovery turn with a readable, applied record that names pulled orders can end. -/
theorem recoverTurn_cases {env : Env} {ans : Answers} (writes : ∀ call, ans.store call = true)
    (redrives : Nat → Answers) (policy : ClearPolicy) {tradeId : String} {record : HeldTradeRecord}
    {now : Int} {world : World} (read : world.store.getHeldTradeRecord now tradeId = some record)
    (applied : record.applied = true) (pulled : record.cancelledOrders ≠ []) (id : Nat) :
    ((recoverTurn env ans redrives policy tradeId now world).2.handOvers id = record.pulls id ∧
      (∀ row, (recoverTurn env ans redrives policy tradeId now world).1.store.held tradeId = some row →
        row.value.pulls id = 0) ∧
      (¬ record.StillHeld env (ans.quote .release) tradeId now world.store ∨
        backstopDue record.openedAt now = true)) ∨
    (recoverTurn env ans redrives policy tradeId now world).2.handOvers id = 0 ∧
      record.StillHeld env (ans.quote .release) tradeId now world.store ∧
      RowKept env tradeId record (recoverWrite ans tradeId now world.store) now world.store
        (recoverTurn env ans redrives policy tradeId now world).1.store := by
  have unaligned : ∀ {held}, protect ans tradeId now world.store record = some (held, false) →
      recoverWrite ans tradeId now world.store = .narrowed := by
    intro held unprotected
    simp [recoverWrite, read, unprotected]
  have ended := recoverOne_cases env ans redrives policy tradeId record now world
  unfold recoverTurn
  rw [read]
  dsimp only
  generalize recoverOne env ans redrives policy tradeId record now world = ending at ended ⊢
  cases ended with
  | unapplied unapplied => rw [applied] at unapplied; cases unapplied
  | unread unread => exact absurd unread (protect_read (writes _) tradeId now world.store record)
  | @aligned held store aligned written =>
    rw [callerFinish_unrestored]
    refine .inr ⟨rfl, stillHeld_of_protected aligned, ?_⟩
    have write : recoverWrite ans tradeId now world.store = .aligned := by
      simp [recoverWrite, read, aligned]
    rw [write]
    rcases written with rfl | rfl
    · exact .inl rfl
    · refine .inr ⟨held, protect_applied aligned, fun id => ?_, held_upsert ..⟩
      unfold HeldTradeRecord.pulls
      rw [(protect_kept aligned).2.1]
  | @held kept narrowed store unprotected stays early same written =>
    rw [callerFinish_unrestored]
    refine .inr ⟨rfl, (stillHeld_iff_unemptied writes applied pulled unprotected).mpr stays, ?_⟩
    rw [unaligned unprotected]
    rcases written with rfl | rfl
    · exact .inl rfl
    · subst same
      exact .inr ⟨{ record with holders := (releaseSatisfied env ans tradeId record now world.store).1 },
        rfl, fun _ => rfl, held_upsert ..⟩
  | released unprotected emptied =>
    refine .inl ⟨(restoreRecord_handOvers env writes ..).1,
      restoreRecord_cleared writes redrives policy record .recovered (rowWithin_of_read read id),
      .inl fun stillHeld => ?_⟩
    rw [(stillHeld_iff_unemptied writes applied pulled unprotected).mp stillHeld] at emptied
    cases emptied
  | @forced kept narrowed store unprotected due same written =>
    have within : store.RowWithin now tradeId id (record.pulls id) := by
      rcases written with rfl | rfl
      · exact rowWithin_of_read read id
      · subst same
        exact rowWithin_upsert world.store now tradeId { record with holders := _ } _ id
    exact .inl ⟨(restoreRecord_handOvers env writes ..).1,
      restoreRecord_cleared writes redrives policy record .backstop within, .inr due⟩

open Foundation

/-- Until the pulled order is handed over, its record is readable at every turn, and a recovery
turn hands the order over just when nothing holds it or the backstop is due; afterwards no turn
hands it over again. -/
def LifecycleEvent.Remembers (env : Env) (tradeId : String) (id : Nat) (state : HoldState) :
    LifecycleEvent → Prop
  | .hold _ _ now => state.handed = false → 0 < state.world.store.pulls now tradeId id
  | .recover ans redrives policy now =>
    let handOvers := (recoverTurn env ans redrives policy tradeId now state.world).2.handOvers id
    if state.handed then handOvers = 0
    else ∃ record, state.world.store.getHeldTradeRecord now tradeId = some record ∧
      0 < record.pulls id ∧
      (handOvers = 1 ∧ (¬ record.StillHeld env (ans.quote .release) tradeId now state.world.store ∨
          backstopDue record.openedAt now = true) ∨
        handOvers = 0 ∧ record.StillHeld env (ans.quote .release) tradeId now state.world.store)
  | .pause _ => True

/-- The turn comes before the time to live of the row's last write is over, counted from that
write, unless the order has been handed over. -/
def LifecycleEvent.InTime (env : Env) (tradeId : String) (state : HoldState) : LifecycleEvent → Prop
  | .hold _ _ now | .recover _ _ _ now => state.handed = false →
    ∀ row, state.world.store.held tradeId = some row →
      now < controlExpiresAt state.writtenAt (state.lastWrite.ttl env row.value state.writtenAt)
  | .pause _ => True

/-- The row names the order and lasts as its last write says; once the order is handed over,
no row names it. -/
def HoldState.Tracks (env : Env) (tradeId : String) (id : Nat) (state : HoldState) : Prop :=
  if state.handed then ∀ row, state.world.store.held tradeId = some row → row.value.pulls id = 0
  else ∃ record : HeldTradeRecord, record.applied = true ∧ record.pulls id = 1 ∧
    state.world.store.held tradeId = some
      ⟨record, controlExpiresAt state.writtenAt (state.lastWrite.ttl env record state.writtenAt)⟩

/-- The row of an order that waits, as a turn before its expiry reads it. -/
theorem HoldState.Tracks.read {env : Env} {tradeId : String} {id : Nat} {state : HoldState}
    (tracks : state.Tracks env tradeId id) (waits : state.handed = false) (now : Int) :
    ∃ record : HeldTradeRecord, record.applied = true ∧ record.pulls id = 1 ∧
      state.world.store.held tradeId = some
        ⟨record, controlExpiresAt state.writtenAt (state.lastWrite.ttl env record state.writtenAt)⟩ ∧
      (now < controlExpiresAt state.writtenAt (state.lastWrite.ttl env record state.writtenAt) →
        state.world.store.getHeldTradeRecord now tradeId = some record) ∧
      (∀ record', state.world.store.getHeldTradeRecord now tradeId = some record' → record' = record ∧
        now < controlExpiresAt state.writtenAt (state.lastWrite.ttl env record state.writtenAt)) := by
  unfold HoldState.Tracks at tracks
  rw [waits] at tracks
  obtain ⟨record, applied, once, stored⟩ := tracks
  refine ⟨record, applied, once, stored, fun inTime => ?_, fun record' read => ?_⟩
  · exact readAt_eq_some.mpr ⟨_, stored, inTime⟩
  · obtain ⟨expiresAt, stored', live⟩ := readAt_eq_some.mp read
    rw [stored] at stored'
    cases stored'
    exact ⟨rfl, live⟩

theorem pulled_of_once {record : HeldTradeRecord} {id : Nat} (once : record.pulls id = 1) :
    record.cancelledOrders ≠ [] := by
  intro none
  simp [HeldTradeRecord.pulls, none] at once

/-- A row that waits goes on being tracked where a turn leaves it or writes it anew. -/
theorem HoldState.Tracks.moved {env : Env} {tradeId : String} {id : Nat} {state : HoldState}
    {world : World} {write : RowWrite} {now : Int}
    (waits : state.handed = false) (tracks : state.Tracks env tradeId id)
    (after : world.store.held tradeId = state.world.store.held tradeId ∨
      ∃ record : HeldTradeRecord, record.applied = true ∧ record.pulls id = 1 ∧
        world.store.held tradeId =
          some ⟨record, controlExpiresAt now (write.ttl env record now)⟩) :
    (state.movedTo tradeId world write now 0).Tracks env tradeId id := by
  unfold HoldState.Tracks HoldState.movedTo at *
  rw [waits] at tracks ⊢
  dsimp only
  by_cases same : world.store.held tradeId = state.world.store.held tradeId
  · simp only [if_pos same]
    obtain ⟨kept, applied, once, stored⟩ := tracks
    exact ⟨kept, applied, once, same.trans stored⟩
  · simp only [if_neg same]
    rcases after with unmoved | ⟨record, applied, once, written⟩
    · exact absurd unmoved same
    · exact ⟨record, applied, once, written⟩

/-- Once the order is handed over, no turn of the cancel pass names it again. -/
theorem tryCancelOne_unnamed {env : Env} {ans : Answers} {order : BrokerOrder} {now : Int}
    {world : World} {tradeId : String} {id : Nat} (differs : order.id ≠ id)
    (unnamed : ∀ row, world.store.held tradeId = some row → row.value.pulls id = 0) :
    ∀ row, (tryCancelOne env ans order now world).1.store.held tradeId = some row →
      row.value.pulls id = 0 := by
  intro row stored
  rcases tryCancelOne_row env ans order now world tradeId with
    same | ⟨record, -, names, written | ⟨cleared, -⟩⟩
  · exact unnamed row (by rwa [← same])
  · rw [written] at stored
    obtain rfl := Option.some.inj stored
    refine (names id (Ne.symm differs)).trans ?_
    unfold Store.pulls
    cases read : world.store.getHeldTradeRecord now tradeId with
    | none => rfl
    | some existing =>
      obtain ⟨_, found, _⟩ := readAt_eq_some.mp read
      exact unnamed _ found
  · rw [cleared] at stored
    cases stored

theorem hold_remembers {env : Env} {tradeId : String} {id : Nat} {state : HoldState} {ans : Answers}
    {order : BrokerOrder} {now : Int} (tracks : state.Tracks env tradeId id)
    (served : (LifecycleEvent.hold ans order now).Served id) :
    ((LifecycleEvent.hold ans order now).Remembers env tradeId id state ↔
        (LifecycleEvent.hold ans order now).InTime env tradeId state) ∧
      ((LifecycleEvent.hold ans order now).InTime env tradeId state →
        ((LifecycleEvent.hold ans order now).step env tradeId id state).Tracks env tradeId id) := by
  cases waits : state.handed with
  | true =>
    unfold LifecycleEvent.Remembers LifecycleEvent.InTime LifecycleEvent.step HoldState.movedTo
    simp only [waits, Bool.true_eq_false, false_imp_iff, true_and]
    intro _
    unfold HoldState.Tracks at tracks ⊢
    rw [waits, if_pos rfl] at tracks
    exact tryCancelOne_unnamed served.2 tracks
  | false =>
    obtain ⟨record, applied, once, stored, readable, onlyRead⟩ := tracks.read waits now
    constructor
    · constructor
      · intro remembers _ row found
        obtain rfl := Option.some.inj (stored.symm.trans found)
        have named := remembers waits
        unfold Store.pulls at named
        cases read : state.world.store.getHeldTradeRecord now tradeId with
        | none => rw [read] at named; cases named
        | some record' => exact (onlyRead record' read).2
      · intro inTime _
        have early := inTime waits _ stored
        unfold Store.pulls
        rw [readable early, Option.elim_some, once]
        exact Nat.one_pos
    · intro inTime
      have early := inTime waits _ stored
      have read := readable early
      refine HoldState.Tracks.moved waits tracks ?_
      rcases tryCancelOne_row env ans order now state.world tradeId with
        same | ⟨written, applied', names, after⟩
      · exact .inl same
      · have once' : written.pulls id = 1 := by
          rw [names id (Ne.symm served.2)]
          unfold Store.pulls
          rw [read]
          exact once
        rcases after with stored' | ⟨-, emptied⟩
        · exact .inr ⟨written, applied', once', stored'⟩
        · exact absurd emptied (pulled_of_once once')

/-- A turn with a record that does not name the order hands it over no more, and leaves no
row that names it. -/
theorem recoverTurn_unnamed (env : Env) {ans : Answers} (redrives : Nat → Answers) (policy : ClearPolicy)
    (writes : ∀ call, ans.store call = true) {tradeId : String} {now : Int} {world : World} {id : Nat}
    (unnamed : ∀ row, world.store.held tradeId = some row → row.value.pulls id = 0) :
    (recoverTurn env ans redrives policy tradeId now world).2.handOvers id = 0 ∧
      ∀ row, (recoverTurn env ans redrives policy tradeId now world).1.store.held tradeId = some row →
        row.value.pulls id = 0 := by
  unfold recoverTurn
  cases read : world.store.getHeldTradeRecord now tradeId with
  | none => exact ⟨rfl, unnamed⟩
  | some record =>
    dsimp only
    obtain ⟨expiresAt, stored, live⟩ := readAt_eq_some.mp read
    have absent : record.pulls id = 0 := unnamed _ stored
    have ended := recoverOne_cases env ans redrives policy tradeId record now world
    have upserted : ∀ (record' : HeldTradeRecord) ttl, record'.pulls id = 0 →
        ∀ row, (world.store.upsertHeldTradeRecord now tradeId record' ttl).held tradeId = some row →
          row.value.pulls id = 0 := by
      intro record' ttl none row found
      rw [held_upsert] at found
      obtain rfl := Option.some.inj found
      exact none
    generalize recoverOne env ans redrives policy tradeId record now world = ending at ended ⊢
    cases ended with
    | unapplied => rw [callerFinish_unrestored]; exact ⟨rfl, unnamed⟩
    | unread => rw [callerFinish_unrestored]; exact ⟨rfl, unnamed⟩
    | @aligned held store aligned written =>
      rw [callerFinish_unrestored]
      refine ⟨rfl, ?_⟩
      rcases written with rfl | rfl
      · exact unnamed
      · refine upserted held _ ?_
        unfold HeldTradeRecord.pulls
        rwa [(protect_kept aligned).2.1]
    | @held kept narrowed store unprotected stays early same written =>
      rw [callerFinish_unrestored]
      refine ⟨rfl, ?_⟩
      rcases written with rfl | rfl
      · exact unnamed
      · exact upserted narrowed _ (by rw [same]; exact absent)
    | released =>
      exact ⟨(restoreRecord_handOvers env writes ..).1.trans absent,
        restoreRecord_cleared writes redrives policy record .recovered (rowWithin_of_read read id)⟩
    | @forced kept narrowed store unprotected due same written =>
      have within : store.RowWithin now tradeId id (record.pulls id) := by
        rcases written with rfl | rfl
        · exact rowWithin_of_read read id
        · subst same
          exact rowWithin_upsert world.store now tradeId { record with holders := _ } _ id
      exact ⟨(restoreRecord_handOvers env writes ..).1.trans absent,
        restoreRecord_cleared writes redrives policy record .backstop within⟩

theorem recover_remembers {env : Env} {tradeId : String} {id : Nat} {state : HoldState} {ans : Answers}
    {redrives : Nat → Answers} {policy : ClearPolicy} {now : Int} (tracks : state.Tracks env tradeId id)
    (served : (LifecycleEvent.recover ans redrives policy now).Served id) :
    ((LifecycleEvent.recover ans redrives policy now).Remembers env tradeId id state ↔
        (LifecycleEvent.recover ans redrives policy now).InTime env tradeId state) ∧
      ((LifecycleEvent.recover ans redrives policy now).InTime env tradeId state →
        ((LifecycleEvent.recover ans redrives policy now).step env tradeId id state).Tracks env tradeId
          id) := by
  cases waits : state.handed with
  | true =>
    unfold HoldState.Tracks at tracks
    rw [waits, if_pos rfl] at tracks
    obtain ⟨none, unnamed⟩ := recoverTurn_unnamed env redrives policy served tracks
    unfold LifecycleEvent.Remembers LifecycleEvent.InTime LifecycleEvent.step HoldState.movedTo
    simp only [waits, Bool.true_eq_false, false_imp_iff, iff_true, forall_const, if_true]
    refine ⟨none, ?_⟩
    unfold HoldState.Tracks
    rwa [if_pos (by simp)]
  | false =>
    obtain ⟨record, applied, once, stored, readable, onlyRead⟩ := tracks.read waits now
    constructor
    · constructor
      · intro remembers _ row found
        obtain rfl := Option.some.inj (stored.symm.trans found)
        unfold LifecycleEvent.Remembers at remembers
        dsimp only at remembers
        rw [waits, if_neg Bool.false_ne_true] at remembers
        obtain ⟨record', read, -⟩ := remembers
        exact (onlyRead record' read).2
      · intro inTime
        have early := inTime waits _ stored
        have read := readable early
        unfold LifecycleEvent.Remembers
        dsimp only
        rw [waits, if_neg Bool.false_ne_true]
        refine ⟨record, read, by omega, ?_⟩
        rcases recoverTurn_cases served redrives policy read applied (pulled_of_once once) id with
          ⟨turns, -, lifted⟩ | ⟨none, stillHeld, -⟩
        · exact .inl ⟨turns.trans once, lifted⟩
        · exact .inr ⟨none, stillHeld⟩
    · intro inTime
      have early := inTime waits _ stored
      have read := readable early
      unfold LifecycleEvent.step
      dsimp only
      rcases recoverTurn_cases served redrives policy read applied (pulled_of_once once) id with
        ⟨turns, cleared, -⟩ | ⟨none, -, kept⟩
      · rw [turns, once]
        unfold HoldState.movedTo HoldState.Tracks
        rwa [if_pos (by simp)]
      · rw [none]
        refine HoldState.Tracks.moved waits tracks (kept.imp_right ?_)
        rintro ⟨record', applied', names, written⟩
        exact ⟨record', applied'.trans applied, (names _).trans once, written⟩

theorem LifecycleEvent.step_remembers {env : Env} {tradeId : String} {id : Nat} {state : HoldState}
    {event : LifecycleEvent} (tracks : state.Tracks env tradeId id) (served : event.Served id) :
    (event.Remembers env tradeId id state ↔ event.InTime env tradeId state) ∧
      (event.InTime env tradeId state → (event.step env tradeId id state).Tracks env tradeId id) := by
  cases event with
  | hold ans order now => exact hold_remembers tracks served
  | recover ans redrives policy now => exact recover_remembers tracks served
  | pause pauses => exact ⟨Iff.rfl, fun _ => tracks⟩

/-- The state a confirmed hold of an order leaves. -/
def HoldState.afterHold (env : Env) (ans : Answers) (order : BrokerOrder) (now : Int) (world : World) :
    HoldState where
  world := (tryCancelOne env ans order now world).1
  lastWrite := .held order.instrument
  writtenAt := now
  handed := false

/-- From the moment an order is pulled, its record is remembered through every sequence of
lifecycle turns exactly if each turn before the hand-over comes within the time to live of the
record's last write. -/
theorem hold_remembered_iff {env : Env} {ans : Answers} {order : BrokerOrder} {now : Int} {world : World}
    {verified : Verified}
    (recovered : env.recoverBody (world.store.orderBodies order.id) now = .ok verified)
    (once : world.store.pulls now (verified.intent.tradeId.getD (toString order.id)) order.id ≤ 1)
    (cancelled : (tryCancelOne env ans order now world).2 = .cancelled) {events : List LifecycleEvent}
    (served : ∀ event ∈ events, event.Served order.id) :
    let tradeId := verified.intent.tradeId.getD (toString order.id)
    Along (LifecycleEvent.step env tradeId order.id)
        (fun state event => event.Remembers env tradeId order.id state)
        (.afterHold env ans order now world) events ↔
      Along (LifecycleEvent.step env tradeId order.id) (fun state event => event.InTime env tradeId state)
        (.afterHold env ans order now world) events := by
  intro tradeId
  obtain ⟨record, applied, named, stored⟩ := tryCancelOne_cancelled recovered cancelled once
  have tracks : (HoldState.afterHold env ans order now world).Tracks env tradeId order.id :=
    ⟨record, applied, named, stored⟩
  exact Along.iff_of_invariant (fun _ _ tracks served => (LifecycleEvent.step_remembers tracks served).1)
    (fun _ _ tracks served remembers =>
      let ⟨agree, keeps⟩ := LifecycleEvent.step_remembers tracks served
      keeps (agree.mp remembers))
    tracks (Along.of_forall served _)

/-- Order 0 is pulled half-way through the shut hour; one tick finds the market shut, the next
finds it open. -/
def ticksToOpening : List LifecycleEvent :=
  [.recover {} (fun _ => quoted) .clearRecord (seconds 6000),
   .recover {} (fun _ => quoted) .clearRecord (seconds 7200)]

theorem hold_remembered_toOpening :
    let start := HoldState.afterHold shutSecondHour {} (stopEntryOrder 0) (seconds 5400)
      (stopEntryRests shutSecondHour)
    Along (LifecycleEvent.step shutSecondHour "trade-1" 0)
        (fun state event => event.Remembers shutSecondHour "trade-1" 0 state) start ticksToOpening ∧
      (ticksToOpening.foldl (LifecycleEvent.step shutSecondHour "trade-1" 0) start).handed = true := by
  have recovered : shutSecondHour.recoverBody ((stopEntryRests shutSecondHour).store.orderBodies 0)
      (seconds 5400) = .ok (stopEntryAt 0) := by
    have body : (stopEntryRests shutSecondHour).store.orderBodies 0 = some "first" := by decide +kernel
    rw [body]
    rfl
  have once : (stopEntryRests shutSecondHour).store.pulls (seconds 5400) "trade-1" 0 ≤ 1 := by
    decide +kernel
  have cancelled : (tryCancelOne shutSecondHour {} (stopEntryOrder 0) (seconds 5400)
      (stopEntryRests shutSecondHour)).2 = .cancelled := by decide +kernel
  have served : ∀ event ∈ ticksToOpening, event.Served 0 := by
    simp [ticksToOpening, LifecycleEvent.Served]
  have remembered := hold_remembered_iff recovered once cancelled served
  let start := HoldState.afterHold shutSecondHour {} (stopEntryOrder 0) (seconds 5400)
    (stopEntryRests shutSecondHour)
  let next := (LifecycleEvent.recover {} (fun _ => quoted) .clearRecord (seconds 6000)).step
    shutSecondHour "trade-1" 0 start
  have unwritten : next.writtenAt = seconds 5400 ∧ next.lastWrite = .held "INDEX" := by decide +kernel
  have first : ∀ row ∈ start.world.store.held "trade-1", seconds 6000 < controlExpiresAt (seconds 5400)
      (RowWrite.ttl shutSecondHour row.value (seconds 5400) (.held "INDEX")) := by decide +kernel
  have second : ∀ row ∈ next.world.store.held "trade-1", seconds 7200 < controlExpiresAt (seconds 5400)
      (RowWrite.ttl shutSecondHour row.value (seconds 5400) (.held "INDEX")) := by decide +kernel
  refine ⟨remembered.mpr ⟨fun _ => first, fun _ row found => ?_, trivial⟩, by decide +kernel⟩
  change seconds 7200 <
    controlExpiresAt next.writtenAt (next.lastWrite.ttl shutSecondHour row.value next.writtenAt)
  rw [unwritten.1, unwritten.2]
  exact second row found

/-- `twoBars` with its market shut from the second hour on, for two days. -/
def shutForWeekend : Env :=
  { twoBars with marketHoursBlocked := fun _ now => seconds 3600 ≤ now ∧ now < seconds 176400 }

/-- The record of an order held over a weekend lapses an hour into it. -/
theorem hold_forgotten : ¬ ∀ (env : Env) (ans : Answers) (order : BrokerOrder) (now : Int)
    (world : World) (verified : Verified) (events : List LifecycleEvent),
    env.recoverBody (world.store.orderBodies order.id) now = .ok verified →
    world.store.pulls now (verified.intent.tradeId.getD (toString order.id)) order.id ≤ 1 →
    (tryCancelOne env ans order now world).2 = .cancelled →
    (∀ event ∈ events, event.Served order.id) →
    Along (LifecycleEvent.step env (verified.intent.tradeId.getD (toString order.id)) order.id)
      (fun state event =>
        event.Remembers env (verified.intent.tradeId.getD (toString order.id)) order.id state)
      (.afterHold env ans order now world) events := by
  intro always
  have recovered : shutForWeekend.recoverBody ((stopEntryRests shutForWeekend).store.orderBodies 0)
      (seconds 3600) = .ok (stopEntryAt 0) := by
    have body : (stopEntryRests shutForWeekend).store.orderBodies 0 = some "first" := by decide +kernel
    rw [body]
    rfl
  obtain ⟨-, forgotten, -⟩ := always shutForWeekend {} (stopEntryOrder 0) (seconds 3600)
    (stopEntryRests shutForWeekend) (stopEntryAt 0)
    [.recover {} (fun _ => quoted) .clearRecord (seconds 5400),
     .recover {} (fun _ => quoted) .clearRecord (seconds 10800)]
    recovered (by decide +kernel) (by decide +kernel) (by simp [LifecycleEvent.Served])
  unfold LifecycleEvent.Remembers at forgotten
  dsimp only at forgotten
  rw [if_neg (by decide +kernel)] at forgotten
  obtain ⟨record, read, -⟩ := forgotten
  have readable := Option.isSome_iff_exists.mpr ⟨record, read⟩
  exact absurd readable (by decide +kernel)

end TradeControl
