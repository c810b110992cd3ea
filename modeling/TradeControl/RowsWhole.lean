import TradeControl.EnterLaws
import TradeControl.PgPool

namespace TradeControl

open Foundation

/-- What the readers of `key` find at a point of a run that started at `db`: its old row or the row of a
write that was started, and whoever acts on it acts on that row. -/
structure ReadWhole (db : PgDb) (events : List PoolEvent) (pool : Pool) (key : RowKey) : Prop where
  row : ∃ row, pool.db key = some row ∧ (db key = some row ∨ ∃ connection write,
    .starts connection write ∈ events ∧ write.upsert = ⟨key, row⟩)
  entryVetoed : ∀ {scope tradeId instrument name}, key = .veto scope tradeId instrument name →
    ∀ {account ans call}, InScope scope account →
      (readAt call.now (pool.whole db (.veto scope tradeId instrument name))).isSome →
      call.intent.instrument = instrument → name ∈ call.intent.vetos →
      entryGates ans call (pool.db.entryStore call.now account) ≠ .ok tradeId
  entryCooled : ∀ {scope instrument}, key = .cooldown scope instrument →
    ∀ {account ans call}, InScope scope account →
      (readAt call.now (pool.whole db (.cooldown scope instrument))).isSome →
      call.intent.instrument = instrument →
      ∀ tradeId, entryGates ans call (pool.db.entryStore call.now account) ≠ .ok tradeId
  prepSeen : ∀ {scope instrument step}, key = .prep scope instrument step →
    ∀ {account now}, InScope scope account →
      (readAt now (pool.whole db (.prep scope instrument step))).isSome →
      ((pool.db.entryStore now account).getPrep now instrument step).isSome
  prepBlocked : ∀ {scope instrument step}, key = .prepBlock scope instrument step →
    ∀ {account now}, InScope scope account →
      (readAt now (pool.whole db (.prepBlock scope instrument step))).isSome →
      pool.db.isPrepBlocked now account instrument step = true
  fireSeen : ∀ {account tradeId shellTime}, key = .retryFire account tradeId shellTime →
    ∀ {now}, (readAt now (pool.whole db (.retryFire account tradeId shellTime))).isSome →
      (pool.db.entryStore now account).isRetryFireSeen now tradeId shellTime = true
  mwSeen : ∀ {scope tradeId}, key = .mwState scope tradeId →
    ∀ {account now}, InScope scope account →
      (readAt now (pool.whole db (.mwState scope tradeId))).isSome →
      ((pool.db.entryStore now account).getMwState now tradeId).isSome
  planSettled : ∀ {account tradeId}, key = .planState account tradeId →
    ∀ ans later, ∃ state, settledRead ans pool.db (pool.run later).db account tradeId = .ok (some state)

/-- Every reader of a key that is not bare acts on its row. -/
theorem ReadWhole.of_row {db : PgDb} {events : List PoolEvent} {pool : Pool} {key : RowKey}
    (same : pool.db key = pool.whole db key)
    (found : ∃ row, pool.whole db key = some row ∧ (db key = some row ∨ ∃ connection write,
      .starts connection write ∈ events ∧ write.upsert = ⟨key, row⟩)) :
    ReadWhole db events pool key where
  row := by
    obtain ⟨row, whole, origin⟩ := found
    exact ⟨row, same.trans whole, origin⟩
  entryVetoed := by
    rintro scope tradeId instrument name rfl account ans call inScope live rfl listed gates
    rw [← same] at live
    have sees := scopedRead_sees (fun scope => pool.db (.veto scope tradeId call.intent.instrument name))
      inScope live
    have vetoed : (pool.db.entryStore call.now account).isVetoed call.now tradeId call.intent.instrument name =
        true := sees
    exact vetoGate_stops vetoed listed (entryGates_unvetoed gates)
  entryCooled := by
    rintro scope instrument rfl account ans call inScope live rfl tradeId gates
    rw [← same] at live
    have sees := scopedRead_sees (fun scope => pool.db (.cooldown scope call.intent.instrument))
      inScope live
    have cooled : (pool.db.entryStore call.now account).isCooledDown call.now call.intent.instrument = true :=
      (readAt_map_isSome call.now _ fun _ => ()).trans sees
    rw [entryGates_uncooled gates] at cooled
    cases cooled
  prepSeen := by
    rintro scope instrument step rfl account now inScope live
    rw [← same] at live
    have sees := scopedRead_sees (fun scope => pool.db (.prep scope instrument step)) inScope live
    exact (readAt_map_isSome now _ PrepRow.setAt).trans sees
  prepBlocked := by
    rintro scope instrument step rfl account now inScope live
    rw [← same] at live
    exact scopedRead_sees (fun scope => pool.db (.prepBlock scope instrument step)) inScope live
  fireSeen := by
    rintro account tradeId shellTime rfl now live
    rw [← same] at live
    exact live
  mwSeen := by
    rintro scope tradeId rfl account now inScope live
    rw [← same] at live
    have sees := scopedRead_sees (fun scope => pool.db (.mwState scope tradeId)) inScope live
    exact sees
  planSettled := by
    rintro account tradeId rfl ans later
    obtain ⟨state, whole, -⟩ := found
    refine ⟨state, ?_⟩
    rw [settledRead_eq, same, whole]
    rfl

theorem Pool.run_readWhole {db : PgDb} {key : RowKey} (standing : (db key).isSome) {events : List PoolEvent}
    (kept : deletedLast key (Pool.run { db } events).log = false) :
    ReadWhole db events (Pool.run { db } events) key := by
  obtain ⟨state, found⟩ := Pool.run_row standing events
  rw [kept] at state
  exact ReadWhole.of_row state found

/-- The exact condition: at every point of every run, a standing row is read whole unless the last statement
executed on its key is the first half of an upsert. -/
theorem upserts_whole_iff {db : PgDb} {key : RowKey} (standing : (db key).isSome) (events : List PoolEvent) :
    ReadWhole db events (Pool.run { db } events) key ↔
      deletedLast key (Pool.run { db } events).log = false := by
  constructor
  · rintro ⟨⟨row, present, -⟩, -⟩
    obtain ⟨state, -⟩ := Pool.run_row standing events
    by_contra deleted
    rw [Bool.not_eq_false] at deleted
    rw [state, deleted, if_pos rfl] at present
    cases present
  · exact Pool.run_readWhole standing

/-- A veto that is set again, stopped after its first statement: the standing veto is gone. -/
theorem resetVeto_bare :
    ¬∀ (db : PgDb) (key : RowKey) (events : List PoolEvent), (db key).isSome →
      ReadWhole db events (Pool.run { db } events) key := by
  intro whole
  let key := RowKey.veto (some "demo") "t1" "EUR_USD" "too-high"
  let db : PgDb := Function.update (fun _ => none) key (some ⟨(), seconds 7200⟩)
  let events := [PoolEvent.starts 0 (setVeto (some "demo") "t1" "EUR_USD" "too-high" (seconds 60) 7200),
    .commits 0, .stops 0]
  obtain ⟨row, present, -⟩ := (whole db key events rfl).row
  have bare : (Pool.run { db } events).db key = none := rfl
  rw [bare] at present
  cases present

theorem upserts_whole_iff_resetVeto :
    let key := RowKey.veto (some "demo") "t1" "EUR_USD" "too-high"
    let db : PgDb := Function.update (fun _ => none) key (some ⟨(), seconds 7200⟩)
    let events := [PoolEvent.starts 0 (setVeto (some "demo") "t1" "EUR_USD" "too-high" (seconds 60) 7200),
      .commits 0, .commits 0]
    ReadWhole db events (Pool.run { db } events) key :=
  (upserts_whole_iff rfl _).mpr rfl

/-- A live plan is taken for one that never ticked exactly when both reads of the tick meet its state
deleted and not yet inserted. -/
theorem settledRead_none_iff {db : PgDb} {account : Option String} {tradeId : String}
    (standing : (db (.planState account tradeId)).isSome) (events later : List PoolEvent) (ans : EngineAnswers) :
    settledRead ans (Pool.run { db } events).db (Pool.run { db } (events ++ later)).db account tradeId =
        .ok none ↔
      deletedLast (.planState account tradeId) (Pool.run { db } events).log = true ∧
        deletedLast (.planState account tradeId) (Pool.run { db } (events ++ later)).log = true := by
  obtain ⟨state, row, found, -⟩ := Pool.run_row standing events
  obtain ⟨state', row', found', -⟩ := Pool.run_row standing (events ++ later)
  rw [settledRead_eq, state, state', found, found']
  cases deletedLast (.planState account tradeId) (Pool.run { db } events).log <;>
    cases deletedLast (.planState account tradeId) (Pool.run { db } (events ++ later)).log <;> simp

/-- The state is replaced under the tick, which reads twice between the two statements. -/
theorem settledRead_none_iff_replaced :
    let state := PlanState.seed .awaitEntry (seconds 7200)
    let key := RowKey.planState (some "demo") "t1"
    let db : PgDb := Function.update (fun _ => none) key (some state)
    let events := [PoolEvent.starts 0 (putPlanState (some "demo") "t1" state), .commits 0]
    let ans : EngineAnswers := { candles := fun _ => none }
    settledRead ans (Pool.run { db } events).db (Pool.run { db } (events ++ [])).db (some "demo") "t1" = .ok none := by
  intro state key db events ans
  exact (settledRead_none_iff rfl events [] ans).mpr ⟨rfl, rfl⟩

/-- No commit of a write ends with a deletion of `key`, when the key is another's or the write is one
transaction. -/
theorem Write.commits_closed {write : Write} {key : RowKey}
    (transacted : write.upsert.key = key → ∃ upsert, write = .transacted upsert) {commit : List PgStatement}
    (sent : commit ∈ write.commits) : deletedLast key commit = false := by
  have other : write.upsert.key ≠ key → deletedLast key commit = false := by
    intro differs
    cases write with
    | pooled upsert =>
      simp only [Write.commits, List.mem_cons, List.not_mem_nil, or_false] at sent
      rcases sent with rfl | rfl <;> exact (deletedLast_append key [] _).trans (if_neg differs)
    | transacted upsert =>
      rw [Write.commits, List.mem_singleton] at sent
      subst sent
      have last := deletedLast_append key [RowStatement.delete upsert.key] (.insert upsert.key upsert.row)
      have first := deletedLast_append key [] (.delete upsert.key : PgStatement)
      exact (last.trans (if_neg differs)).trans (first.trans (if_neg differs))
  by_cases same : write.upsert.key = key
  · obtain ⟨upsert, rfl⟩ := transacted same
    rw [Write.commits, List.mem_singleton] at sent
    subst sent
    have last := deletedLast_append key [RowStatement.delete upsert.key] (.insert upsert.key upsert.row)
    exact last.trans (if_pos same)
  · exact other same

/-- A row that is only ever written in transactions, as a plan's own row is, is whole at every point of
every run. -/
theorem transacted_whole {db : PgDb} {key : RowKey} (standing : (db key).isSome) {events : List PoolEvent}
    (transacted : ∀ connection write, .starts connection write ∈ events → write.upsert.key = key →
      ∃ upsert, write = .transacted upsert) :
    ReadWhole db events (Pool.run { db } events) key := by
  refine Pool.run_readWhole standing ?_
  induction events using List.reverseRecOn with
  | nil => rfl
  | append_singleton events event ih =>
    have before := fun connection write started =>
      transacted connection write (List.mem_append_left [event] started)
    obtain ⟨statements, -, logged, origin, -⟩ := Pool.step_cases (Pool.run { db } events) event
    rw [Pool.run_snoc, logged]
    refine deletedLast_appendClosed (ih before) ?_
    rcases origin with rfl | ⟨connection, next⟩
    · rfl
    · obtain ⟨starter, write, started, sent⟩ := (Pool.sound_run db events).running connection statements next
      exact Write.commits_closed (before starter write started) sent

/-- A plan is replaced by itself. -/
theorem transacted_whole_replaced :
    let plan : TradePlan :=
      { tradeId := "t1", instrument := "EUR_USD", direction := .long, granularity := .h1, pipSize := 1 / 10000,
        rules := [] }
    let key := RowKey.tradePlan (some "demo") "t1"
    let db : PgDb := Function.update (fun _ => none) key (some plan)
    let events := [PoolEvent.starts 0 (putTradePlan (some "demo") "t1" plan), .commits 0]
    ReadWhole db events (Pool.run { db } events) key := by
  intro plan key db events
  refine transacted_whole rfl fun connection write started same => ?_
  simp only [events, List.mem_cons, PoolEvent.starts.injEq, reduceCtorEq, List.not_mem_nil, or_false] at started
  exact ⟨_, started.2⟩

end TradeControl
