import TradeControl.EngineTick
import TradeControl.EntryGates
import TradeControl.Foundation.RowLog

namespace TradeControl

open Foundation

/-- The key of a row: its table and its key columns. The account `none` is the global scope. -/
inductive RowKey
  | cooldown (account : Option String) (instrument : String)
  | prep (account : Option String) (instrument step : String)
  | veto (account : Option String) (tradeId instrument name : String)
  | prepBlock (account : Option String) (instrument step : String)
  | retryFire (account : Option String) (tradeId : String) (shellTime : Int)
  | mwState (account : Option String) (tradeId : String)
  | tradePlan (account : Option String) (tradeId : String)
  | planState (account : Option String) (tradeId : String)
  deriving DecidableEq

structure PrepRow where
  setAt : Int
  setterId : String

/-- The other columns of a row. The plan tables have no expiry. -/
abbrev RowKey.Row : RowKey → Type
  | .cooldown .. | .prepBlock .. => Expiring Int Int
  | .prep .. => Expiring Int PrepRow
  | .veto .. | .retryFire .. => Expiring Int Unit
  | .mwState .. => Expiring Int MwState
  | .tradePlan .. => TradePlan
  | .planState .. => PlanState

/-- The two accounts that one entry of a `COALESCE(account, '')` index stands for. -/
def twinAccount : Option String → Option String
  | none => some ""
  | some account => if account = "" then none else some account

/-- The other key that would collide with `key` in its table's unique index. -/
def RowKey.twin : RowKey → RowKey
  | .cooldown account instrument => .cooldown (twinAccount account) instrument
  | .prep account instrument step => .prep (twinAccount account) instrument step
  | .veto account tradeId instrument name => .veto (twinAccount account) tradeId instrument name
  | .prepBlock account instrument step => .prepBlock (twinAccount account) instrument step
  | .retryFire account tradeId shellTime => .retryFire (twinAccount account) tradeId shellTime
  | .mwState account tradeId => .mwState (twinAccount account) tradeId
  | .tradePlan account tradeId => .tradePlan (twinAccount account) tradeId
  | .planState account tradeId => .planState (twinAccount account) tradeId

abbrev PgDb := (key : RowKey) → Option key.Row

abbrev PgStatement := RowStatement RowKey RowKey.Row

/-- One statement; an insert that the unique index refuses is an error. -/
def PgDb.execute (db : PgDb) (statement : PgStatement) : Option PgDb :=
  match statement with
  | .delete _ => some (statement.apply db)
  | .insert key _ => if (db key).isSome || (db key.twin).isSome then none else some (statement.apply db)

/-- The statements of one transaction, all or none of them. -/
def PgDb.commit (db : PgDb) (statements : List PgStatement) : Option PgDb := statements.foldlM PgDb.execute db

structure Upsert where
  key : RowKey
  row : key.Row

/-- How an upsert is sent: statement by statement on the pool, or in one transaction. -/
inductive Write
  | pooled (upsert : Upsert)
  | transacted (upsert : Upsert)

def Write.upsert : Write → Upsert
  | .pooled upsert | .transacted upsert => upsert

/-- What a write commits, one after the other. -/
def Write.commits : Write → List (List PgStatement)
  | .pooled upsert => [[.delete upsert.key], [.insert upsert.key upsert.row]]
  | .transacted upsert => [[.delete upsert.key, .insert upsert.key upsert.row]]

def setCooldown (account : Option String) (instrument : String) (hours : Nat) (now : Int) : Write :=
  .pooled ⟨.cooldown account instrument, ⟨now, controlExpiresAt now (hours * 3600)⟩⟩

def setPrep (account : Option String) (instrument step : String) (setAt now ttlSeconds : Int)
    (setterId : String) : Write :=
  .pooled ⟨.prep account instrument step, ⟨⟨setAt, setterId⟩, controlExpiresAt now ttlSeconds⟩⟩

def setVeto (account : Option String) (tradeId instrument name : String) (now ttlSeconds : Int) : Write :=
  .pooled ⟨.veto account tradeId instrument name, ⟨(), controlExpiresAt now ttlSeconds⟩⟩

def blockPrep (account : Option String) (instrument step : String) (now ttlSeconds : Int) : Write :=
  .pooled ⟨.prepBlock account instrument step, ⟨now, controlExpiresAt now ttlSeconds⟩⟩

def markRetryFireSeen (account : Option String) (tradeId : String) (shellTime now ttlSeconds : Int) : Write :=
  .pooled ⟨.retryFire account tradeId shellTime, ⟨(), controlExpiresAt now ttlSeconds⟩⟩

def upsertMwState (account : Option String) (tradeId : String) (state : MwState) (now ttlSeconds : Int) :
    Write :=
  .pooled ⟨.mwState account tradeId, ⟨state, controlExpiresAt now ttlSeconds⟩⟩

def putPlanState (account : Option String) (tradeId : String) (state : PlanState) : Write :=
  .pooled ⟨.planState account tradeId, state⟩

def putTradePlan (account : Option String) (tradeId : String) (plan : TradePlan) : Write :=
  .transacted ⟨.tradePlan account tradeId, plan⟩

/-- The row a query with `account IS NULL OR account = $1` finds, the account's own before the global one. -/
def scopedRead {Value : Type} (now : Int) (account : Option String)
    (rows : Option String → Option (Expiring Int Value)) : Option (Expiring Int Value) :=
  let own := account.bind fun name => rows (some name)
  if (readAt now own).isSome then own else rows none

/-- The tables as the entry path of `account` reads them. -/
def PgDb.entryStore (db : PgDb) (now : Int) (account : Option String) : Store :=
  { cooldowns := fun instrument =>
      (scopedRead now account fun scope => db (.cooldown scope instrument)).map fun row => ⟨(), row.expiresAt⟩
    preps := fun (instrument, step) =>
      (scopedRead now account fun scope => db (.prep scope instrument step)).map fun row =>
        ⟨row.value.setAt, row.expiresAt⟩
    vetos := fun (tradeId, instrument, name) =>
      scopedRead now account fun scope => db (.veto scope tradeId instrument name)
    retryFires := fun (tradeId, shellTime) => db (.retryFire account tradeId shellTime)
    mwStates := fun tradeId => scopedRead now account fun scope => db (.mwState scope tradeId) }

def PgDb.isPrepBlocked (db : PgDb) (now : Int) (account : Option String) (instrument step : String) : Bool :=
  (readAt now (scopedRead now account fun scope => db (.prepBlock scope instrument step))).isSome

/-- What a tick finds of a plan's state when its first read meets `db` and a second one `later`. -/
def settledRead (ans : EngineAnswers) (db later : PgDb) (account : Option String) (tradeId : String) :
    Except Unit (Option PlanState) :=
  let key := RowKey.planState account tradeId
  let read := if (db key).isSome then ReadReply.truth else .missed
  readPlanStateSettled { ans with read, reread := .truth } ((db key).or (later key))

/-- A query of `account` reads the rows of `scope`. -/
def InScope (scope account : Option String) : Prop := scope = none ∨ scope = account

/-- A live row in scope is not overlooked. -/
theorem scopedRead_sees {Value : Type} {now : Int} {scope account : Option String}
    (rows : Option String → Option (Expiring Int Value)) (inScope : InScope scope account)
    (live : (readAt now (rows scope)).isSome) : (readAt now (scopedRead now account rows)).isSome := by
  unfold scopedRead
  dsimp only
  split
  · next own => exact own
  next missing =>
    rcases inScope with rfl | rfl
    · exact live
    · cases scope with
      | none => exact live
      | some name => exact absurd live missing

theorem readAt_map_isSome {Value Value' : Type} (now : Int) (row : Option (Expiring Int Value))
    (change : Value → Value') :
    (readAt now (row.map fun row => ⟨change row.value, row.expiresAt⟩)).isSome = (readAt now row).isSome := by
  cases row with
  | none => rfl
  | some row =>
    rw [Option.map_some, readAt_some, readAt_some]
    split <;> rfl

theorem settledRead_eq (ans : EngineAnswers) (db later : PgDb) (account : Option String) (tradeId : String) :
    settledRead ans db later account tradeId =
      .ok ((db (.planState account tradeId)).or (later (.planState account tradeId))) := by
  unfold settledRead readPlanStateSettled
  dsimp only
  cases db (.planState account tradeId) with
  | none => rfl
  | some state => rfl

/-- What one commit changes is what its statements do in order. -/
theorem PgDb.commit_replay {db after : PgDb} {statements : List PgStatement}
    (committed : db.commit statements = some after) : after = replayLog db statements := by
  induction statements generalizing db with
  | nil => exact (Option.some.inj committed).symm
  | cons statement rest ih =>
    rw [PgDb.commit, List.foldlM_cons] at committed
    obtain ⟨next, executed, later⟩ := Option.bind_eq_some_iff.mp committed
    have applied : next = statement.apply db := by
      cases statement with
      | delete key => exact (Option.some.inj executed).symm
      | insert key row =>
        unfold PgDb.execute at executed
        dsimp only at executed
        split at executed
        · cases executed
        · exact (Option.some.inj executed).symm
    subst applied
    exact ih later

/-- The database with what each connection has still to commit, and the statements executed so far. -/
structure Pool where
  db : PgDb
  running : Nat → List (List PgStatement) := fun _ => []
  log : List PgStatement := []

/-- A connection starts a write, commits the next part of it, or stops: its statement fails, the
connection is lost, the process dies. -/
inductive PoolEvent
  | starts (connection : Nat) (write : Write)
  | commits (connection : Nat)
  | stops (connection : Nat)

def Pool.setRunning (pool : Pool) (connection : Nat) (rest : List (List PgStatement)) : Pool :=
  { pool with running := Function.update pool.running connection rest }

def Pool.step (pool : Pool) : PoolEvent → Pool
  | .starts connection write =>
    if (pool.running connection).isEmpty then pool.setRunning connection write.commits else pool
  | .commits connection =>
    match pool.running connection with
    | [] => pool
    | statements :: rest =>
      match pool.db.commit statements with
      | none => pool.setRunning connection []
      | some db => { pool.setRunning connection rest with db, log := pool.log ++ statements }
  | .stops connection => pool.setRunning connection []

def Pool.run (pool : Pool) (events : List PoolEvent) : Pool := events.foldl Pool.step pool

/-- The tables of a store whose upserts are all-or-nothing: the old row until the new one is in. -/
def Pool.whole (start : PgDb) (pool : Pool) : PgDb := replayInserts start pool.log

theorem Pool.run_append (pool : Pool) (events later : List PoolEvent) :
    pool.run (events ++ later) = (pool.run events).run later := List.foldl_append

theorem Pool.run_snoc (pool : Pool) (events : List PoolEvent) (event : PoolEvent) :
    pool.run (events ++ [event]) = (pool.run events).step event := Pool.run_append pool events [event]

/-- What a step does: it executes the statements of one waiting commit or none, and leaves no commit
waiting that was not waiting before or comes with a write that starts. -/
theorem Pool.step_cases (pool : Pool) (event : PoolEvent) :
    ∃ statements, (pool.step event).db = replayLog pool.db statements ∧
      (pool.step event).log = pool.log ++ statements ∧
      (statements = [] ∨ ∃ connection, statements ∈ pool.running connection) ∧
      ∀ connection, ∀ commit ∈ (pool.step event).running connection,
        commit ∈ pool.running connection ∨
          ∃ write, event = .starts connection write ∧ commit ∈ write.commits := by
  have kept : ∀ {connection rest}, (∀ commit ∈ rest, commit ∈ pool.running connection ∨
        ∃ write, event = .starts connection write ∧ commit ∈ write.commits) →
      ∀ other, ∀ commit ∈ Function.update pool.running connection rest other,
        commit ∈ pool.running other ∨ ∃ write, event = .starts other write ∧ commit ∈ write.commits := by
    intro connection rest origin other commit member
    by_cases same : other = connection
    · subst same
      rw [Function.update_self] at member
      exact origin commit member
    · rw [Function.update_of_ne same] at member
      exact .inl member
  have idle : ∀ other, ∀ commit ∈ pool.running other, commit ∈ pool.running other ∨
      ∃ write, event = .starts other write ∧ commit ∈ write.commits := fun _ _ member => .inl member
  cases event with
  | starts connection write =>
    refine ⟨[], ?_⟩
    rw [List.append_nil, Pool.step]
    split
    · exact ⟨rfl, rfl, .inl rfl, kept fun commit member => .inr ⟨write, rfl, member⟩⟩
    · exact ⟨rfl, rfl, .inl rfl, idle⟩
  | commits connection =>
    rw [Pool.step]
    split
    · exact ⟨[], rfl, (List.append_nil _).symm, .inl rfl, idle⟩
    next statements rest waiting =>
      split
      · exact ⟨[], rfl, (List.append_nil _).symm, .inl rfl, kept fun commit absent => (by cases absent)⟩
      next db committed =>
        have next : statements ∈ pool.running connection := by
          rw [waiting]
          exact List.mem_cons_self ..
        refine ⟨statements, PgDb.commit_replay committed, rfl, .inr ⟨connection, next⟩, kept ?_⟩
        intro commit member
        rw [waiting]
        exact .inl (List.mem_cons_of_mem _ member)
  | stops connection =>
    exact ⟨[], rfl, (List.append_nil _).symm, .inl rfl, kept fun commit absent => (by cases absent)⟩

/-- The database is what the executed statements leave, and every statement sent or still to be sent
is one of a write that was started. -/
structure Pool.Sound (start : PgDb) (events : List PoolEvent) (pool : Pool) : Prop where
  replayed : pool.db = replayLog start pool.log
  logged : ∀ statement ∈ pool.log, ∃ connection write commit,
    .starts connection write ∈ events ∧ commit ∈ write.commits ∧ statement ∈ commit
  running : ∀ connection, ∀ commit ∈ pool.running connection, ∃ starter write,
    .starts starter write ∈ events ∧ commit ∈ write.commits

theorem Pool.sound_run (db : PgDb) (events : List PoolEvent) : (Pool.run { db } events).Sound db events := by
  induction events using List.reverseRecOn with
  | nil => exact ⟨rfl, fun _ absent => (by cases absent), fun _ _ absent => (by cases absent)⟩
  | append_singleton events event ih =>
    rw [Pool.run_snoc]
    have earlier : ∀ {started}, started ∈ events → started ∈ events ++ [event] := List.mem_append_left _
    obtain ⟨statements, stepped, logged, origin, waiting⟩ := Pool.step_cases (Pool.run { db } events) event
    refine ⟨?_, ?_, ?_⟩
    · rw [stepped, logged, replayLog_append, ih.replayed]
    · intro statement member
      rw [logged] at member
      rcases List.mem_append.mp member with old | new
      · obtain ⟨starter, write, commit, started, sent⟩ := ih.logged statement old
        exact ⟨starter, write, commit, earlier started, sent⟩
      · rcases origin with rfl | ⟨connection, next⟩
        · cases new
        · obtain ⟨starter, write, started, sent⟩ := ih.running connection statements next
          exact ⟨starter, write, statements, earlier started, sent, new⟩
    · intro connection commit member
      rcases waiting connection commit member with before | ⟨write, rfl, sent⟩
      · obtain ⟨starter, write, started, sent⟩ := ih.running connection commit before
        exact ⟨starter, write, earlier started, sent⟩
      · exact ⟨connection, write, List.mem_append_right _ (List.mem_singleton_self _), sent⟩

theorem Write.mem_commits_insert {write : Write} {commit : List PgStatement} {key : RowKey} {row : key.Row}
    (sent : commit ∈ write.commits) (inserts : .insert key row ∈ commit) : write.upsert = ⟨key, row⟩ := by
  cases write with
  | pooled upsert =>
    simp only [Write.commits, List.mem_cons, List.not_mem_nil, or_false] at sent
    rcases sent with rfl | rfl
    · simp at inserts
    · rw [List.mem_singleton] at inserts
      cases inserts
      rfl
  | transacted upsert =>
    simp only [Write.commits, List.mem_singleton] at sent
    subst sent
    simp only [List.mem_cons, reduceCtorEq, List.not_mem_nil, or_false, false_or] at inserts
    cases inserts
    rfl

/-- A key is whole or bare at every point of a run: bare exactly after a deletion, and else at the row
it had or at one that a started write carries. -/
theorem Pool.run_row {db : PgDb} {key : RowKey} (standing : (db key).isSome) (events : List PoolEvent) :
    (Pool.run { db } events).db key =
        (if deletedLast key (Pool.run { db } events).log then none
          else (Pool.run { db } events).whole db key) ∧
      ∃ row, (Pool.run { db } events).whole db key = some row ∧
        (db key = some row ∨ ∃ connection write, .starts connection write ∈ events ∧
          write.upsert = ⟨key, row⟩) := by
  have sound := Pool.sound_run db events
  obtain ⟨old, stands⟩ := Option.isSome_iff_exists.mp standing
  obtain ⟨row, found, origin⟩ := replayInserts_standing stands (Pool.run { db } events).log
  refine ⟨?_, row, found, ?_⟩
  · rw [sound.replayed, replayLog_key]
    rfl
  · rcases origin with rfl | inserted
    · exact .inl stands
    · obtain ⟨connection, write, commit, started, sent, inserts⟩ := sound.logged _ inserted
      exact .inr ⟨connection, write, started, Write.mem_commits_insert sent inserts⟩

end TradeControl
