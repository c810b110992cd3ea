import TradeControl.AttemptResolution
import TradeControl.Foundation.Checked
import TradeControl.Foundation.KeyedRows

namespace TradeControl.PositionTracking

open Foundation
open AttemptResolution (BrokerTradeExit)

/-! Reporting what became of the orders: which position a trade owns, and whether it is still open.
Instants are those of the database, whole microseconds. -/

structure OpenPosition where
  instrument : String
  direction : Direction
  stopLoss : Option Rat
  takeProfit : Option Rat
  positionId : String
  orderId : String
  stake : Rat
  entryPrice : Option Rat
  openedAt : Option Int
  deriving DecidableEq

structure PositionSnapshot where
  position : OpenPosition
  unrealizedPl : Option Rat
  currency : Option String
  deriving DecidableEq

/-- Which order a trade placed, and its position once that is known. -/
structure PositionLink where
  account : Option String
  tradeId : String
  instrument : String
  direction : Direction
  brokerOrderId : String
  brokerPositionId : Option String
  deriving DecidableEq

structure TrackedPosition where
  link : PositionLink
  snapshot : PositionSnapshot
  deriving DecidableEq

def PositionLink.matches (link : PositionLink) (position : OpenPosition) : Bool :=
  decide (link.instrument = position.instrument) && decide (link.direction = position.direction) &&
    match link.brokerPositionId with
    | some id => decide (id ≠ "" ∧ id = position.positionId)
    | none => decide (link.brokerOrderId ≠ "" ∧ link.brokerOrderId = position.orderId)

/-- The link that owns a position: none where the links that match it are of two trades. -/
def owner (links : List PositionLink) (position : OpenPosition) : Option PositionLink :=
  match links.filter (·.matches position) with
  | [] => none
  | link :: others =>
    if others.any fun other => decide (other.account ≠ link.account ∨ other.tradeId ≠ link.tradeId) then none
    else some link

def PositionLink.at (link : PositionLink) (positionId : String) : PositionLink :=
  { link with brokerPositionId := some positionId }

def matchPositions (links : List PositionLink) (positions : List PositionSnapshot) : List TrackedPosition :=
  positions.filterMap fun snapshot => (owner links snapshot.position).map fun link =>
    { link := link.at snapshot.position.positionId, snapshot }

/-- A broker's answers while a book is looked over; `turn` numbers the links, as one question may be
answered otherwise the next time. -/
structure Broker where
  positionSnapshots : Except String (List PositionSnapshot)
  lookupTradeExit : Nat → String → String → Option String → Except String (Option BrokerTradeExit)
  lookupAttemptState : Nat → String → String → Option String → Except String AttemptResolution.AttemptState

structure PositionCheck where
  observedAt : Int
  positions : List TrackedPosition
  exits : List (PositionLink × BrokerTradeExit)
  warnings : List String
  cancelled : List PositionLink

def PositionCheck.warn (check : PositionCheck) (link : PositionLink) (message : String) : PositionCheck :=
  { check with warnings := check.warnings ++ ["order " ++ link.brokerOrderId ++ ": " ++ message] }

def PositionCheck.recordExit (check : PositionCheck) (link : PositionLink) (exit : BrokerTradeExit) : PositionCheck :=
  if exit.brokerTradeId = "" ∨ link.brokerPositionId.any fun id => decide (id ≠ exit.brokerTradeId) then
    check.warn link "broker exit position ID conflicts with tracking"
  else { check with exits := check.exits ++ [(link.at exit.brokerTradeId, exit)] }

def unknownExit (id : String) (realizedPl : Rat) : BrokerTradeExit where
  brokerTradeId := id
  exitOrderId := none
  transactionId := none
  closedAt := none
  reason := .unknown
  brokerReason := none
  entryPrice := none
  exitPrice := none
  expectedPrice := none
  realizedPl := some realizedPl
  accountCurrency := none
  units := none
  quoteCurrency := none

/-- A closed order's answer that names no exit is that of the position already known, if any. -/
def PositionCheck.recordClosed (check : PositionCheck) (link : PositionLink) (realizedPl : Rat) : PositionCheck :=
  match link.brokerPositionId with
  | some id => check.recordExit link (unknownExit id realizedPl)
  | none => check.warn link "closed order has no broker position ID; cannot attribute its position"

def PositionCheck.recordCancelled (check : PositionCheck) (link : PositionLink) : PositionCheck :=
  match link.brokerPositionId with
  | none => { check with cancelled := check.cancelled ++ [link] }
  | some _ => check.warn link "filled position cannot be resolved as an unfilled cancellation"

/-- What the broker's word on an order makes of its link. -/
def PositionCheck.recordState (check : PositionCheck) (link : PositionLink) :
    Except String AttemptResolution.AttemptState → PositionLink × PositionCheck
  | .ok (.openPosition brokerTradeId) => (link.at brokerTradeId, check)
  | .ok (.closedConfirmed exit) => (link, check.recordExit link exit)
  | .ok (.closedWin realizedPl) | .ok (.closedLossOrBreakeven realizedPl) =>
    (link, check.recordClosed link realizedPl)
  | .error error => (link, check.warn link ("ownership/state lookup failed: " ++ error))
  | .ok .cancelled => (link, check.recordCancelled link)
  | .ok .pending | .ok .unknown => (link, check)

/-- One turn of `observe`'s loop. -/
def observeLink (broker : Broker) (snapshots : List PositionSnapshot) (turn : Nat) (link : PositionLink)
    (check : PositionCheck) : PositionLink × PositionCheck :=
  if snapshots.any fun snapshot => link.matches snapshot.position then (link, check)
  else
    match broker.lookupTradeExit turn link.instrument link.brokerOrderId link.brokerPositionId with
    | .ok (some exit) => (link, check.recordExit link exit)
    | .error error => (link, check.warn link ("exit lookup failed: " ++ error))
    | .ok none =>
      check.recordState link (broker.lookupAttemptState turn link.instrument link.brokerOrderId link.brokerPositionId)

def observeLinks (broker : Broker) (snapshots : List PositionSnapshot) :
    Nat → List PositionLink → PositionCheck → List PositionLink × PositionCheck
  | _, [], check => ([], check)
  | turn, link :: rest, check =>
    let (link, check) := observeLink broker snapshots turn link check
    let (links, check) := observeLinks broker snapshots (turn + 1) rest check
    (link :: links, check)

/-- A position that links of two trades claim is left to neither. -/
def conflictWarnings (links : List PositionLink) (positions : List TrackedPosition)
    (snapshots : List PositionSnapshot) : List String :=
  snapshots.filterMap fun snapshot =>
    if (links.any fun link => link.matches snapshot.position) ∧
        ¬ positions.any fun tracked => decide (tracked.snapshot.position.positionId = snapshot.position.positionId) then
      some ("position " ++ snapshot.position.positionId ++ " has conflicting trade owners; left unassigned")
    else none

def observe (broker : Broker) (links : List PositionLink) (observedAt : Int) :
    Except String (List PositionLink × PositionCheck) := do
  let snapshots ← broker.positionSnapshots
  let empty : PositionCheck := { observedAt, positions := [], exits := [], warnings := [], cancelled := [] }
  let (links, check) := observeLinks broker snapshots 0 links empty
  let positions := matchPositions links snapshots
  return (links, { check with
    positions
    warnings := check.warnings ++ conflictWarnings links positions snapshots })

/-- A row of `position_observations`; `link` and `snapshot` are its body. -/
structure ObservationRow where
  account : String
  positionId : String
  tradeId : String
  orderId : String
  observedAt : Int
  missing : Bool
  closedExit : Option BrokerTradeExit
  link : PositionLink
  snapshot : Option PositionSnapshot

def ObservationRow.key (row : ObservationRow) : String × String := (row.account, row.positionId)

/-- A row of `position_sync`. -/
structure SyncRow where
  account : String
  checkedAt : Int
  error : Option String

/-- A row of `position_links`. -/
structure LinkRow where
  account : String
  orderId : String
  tradeId : String
  link : PositionLink
  resolved : Bool

def LinkRow.key (row : LinkRow) : String × String := (row.account, row.orderId)

/-- A note that another pass leaves of a broker's exit. -/
structure ExitNote where
  account : Option String
  tradeId : String
  orderId : String

/-- `attempts` are the rows of the entry attempts, each as its link. -/
structure Tables where
  observations : List ObservationRow
  sync : List SyncRow
  links : List LinkRow
  exitNotes : List ExitNote
  attempts : List PositionLink

def accountKey (account : Option String) : String := account.getD ""

def Tables.noted (tables : Tables) (account tradeId orderId : String) : Bool :=
  tables.exitNotes.any fun note =>
    decide (accountKey note.account = account ∧ note.tradeId = tradeId ∧ note.orderId = orderId)

def Tables.closedFor (tables : Tables) (account tradeId orderId : String) : Bool :=
  tables.observations.any fun row =>
    decide (row.account = account ∧ row.tradeId = tradeId ∧ row.orderId = orderId) && row.closedExit.isSome

def Tables.activeLinks (tables : Tables) : List PositionLink :=
  (tables.observations.filter fun row =>
    !tables.noted row.account row.tradeId row.orderId && row.closedExit.isNone).map (·.link)

def PositionLink.sameOrder (link other : PositionLink) : Bool :=
  decide (link.account = other.account ∧ link.tradeId = other.tradeId ∧ link.brokerOrderId = other.brokerOrderId)

/-- A link joins the list, or the one of its order, which it may tell the position. -/
def appendLink (links : List PositionLink) (link : PositionLink) : Except String (List PositionLink) :=
  match links.find? (·.sameOrder link) with
  | none => .ok (links ++ [link])
  | some existing => do
    ensure (existing.instrument = link.instrument ∧ existing.direction = link.direction)
      ("conflicting instrument/direction for broker order " ++ link.brokerOrderId)
    ensure (∀ old ∈ existing.brokerPositionId, ∀ new ∈ link.brokerPositionId, old = new)
      ("conflicting position IDs for broker order " ++ link.brokerOrderId)
    return rewriteFirst (·.sameOrder link)
      (fun existing => { existing with
        brokerPositionId := existing.brokerPositionId.or link.brokerPositionId }) links

def Tables.candidateLinks (tables : Tables) : Except String (List PositionLink) := do
  let placements := tables.links.filter fun row =>
    !row.resolved && !tables.noted row.account row.tradeId row.orderId &&
      !tables.closedFor row.account row.tradeId row.orderId
  let attempts := tables.attempts.filter fun link =>
    !tables.noted (accountKey link.account) link.tradeId link.brokerOrderId &&
      !(tables.links.any fun row => decide (row.account = accountKey link.account ∧ row.tradeId = link.tradeId ∧
        row.orderId = link.brokerOrderId) && row.resolved) &&
      !tables.closedFor (accountKey link.account) link.tradeId link.brokerOrderId
  let links ← (placements.map (·.link)).foldlM appendLink tables.activeLinks
  attempts.foldlM appendLink links

/-- What one look at an account's broker hands to the tables. -/
structure Look where
  account : Option String
  now : Int
  positions : List TrackedPosition
  exits : List (PositionLink × BrokerTradeExit)
  warnings : List String

def PositionCheck.look (check : PositionCheck) (account : Option String) : Look where
  account := account
  now := check.observedAt
  positions := check.positions
  exits := check.exits
  warnings := check.warnings

def Look.accountKey (look : Look) : String := PositionTracking.accountKey look.account

def Look.seenRow (look : Look) (tracked : TrackedPosition) : ObservationRow where
  account := look.accountKey
  positionId := tracked.snapshot.position.positionId
  tradeId := tracked.link.tradeId
  orderId := tracked.link.brokerOrderId
  observedAt := look.now
  missing := false
  closedExit := none
  link := tracked.link
  snapshot := some tracked.snapshot

def Look.seeAgain (look : Look) (tracked : TrackedPosition) (old : ObservationRow) : Option ObservationRow :=
  if old.tradeId = tracked.link.tradeId ∧ old.observedAt ≤ look.now then
    some { old with
      link := tracked.link
      snapshot := some tracked.snapshot
      observedAt := look.now
      missing := false }
  else none

def Look.recordPosition (look : Look) (rows : List ObservationRow) (tracked : TrackedPosition) :
    Except String (List ObservationRow) := do
  ensure (tracked.link.account = look.account) "position account mismatch"
  required (insertOr ObservationRow.key (look.seeAgain tracked) (look.seenRow tracked) rows)
    "position ownership conflict or out-of-order observation"

def Look.closedRow (look : Look) (link : PositionLink) (exit : BrokerTradeExit) : ObservationRow where
  account := look.accountKey
  positionId := exit.brokerTradeId
  tradeId := link.tradeId
  orderId := link.brokerOrderId
  observedAt := look.now
  missing := false
  closedExit := some exit
  link := link
  snapshot := none

def ObservationRow.closeBy (link : PositionLink) (exit : BrokerTradeExit) (old : ObservationRow) :
    Option ObservationRow :=
  if old.tradeId = link.tradeId ∧ old.orderId = link.brokerOrderId then some { old with closedExit := some exit }
  else none

def Look.recordExit (look : Look) (rows : List ObservationRow) (entry : PositionLink × BrokerTradeExit) :
    Except String (List ObservationRow) := do
  ensure (entry.1.account = look.account) "exit account mismatch"
  ensure (entry.1.brokerPositionId = some entry.2.brokerTradeId) "exit position mismatch"
  required (insertOr ObservationRow.key (ObservationRow.closeBy entry.1 entry.2) (look.closedRow entry.1 entry.2) rows)
    "closed position ownership conflict"

def SyncRow.refresh (now : Int) (error : Option String) (old : SyncRow) : Option SyncRow :=
  if old.checkedAt ≤ now then some { old with checkedAt := now, error } else none

def writeSync (sync : List SyncRow) (account : String) (now : Int) (error : Option String) : List SyncRow :=
  (insertOr SyncRow.account (SyncRow.refresh now error) { account, checkedAt := now, error } sync).getD sync

def Tables.newer (tables : Tables) (account : String) (now : Int) : Bool :=
  tables.sync.any fun row => decide (row.account = account ∧ now < row.checkedAt)

def ObservationRow.markMissing (account : String) (now : Int) (row : ObservationRow) : ObservationRow :=
  if row.account = account ∧ row.observedAt ≤ now then { row with missing := true } else row

def Look.warning (look : Look) : Option String :=
  if look.warnings = [] then none else some ("; ".intercalate look.warnings)

/-- `storage::record`: all of the look in one transaction, or, behind a later look, none of it. -/
def Tables.record (tables : Tables) (look : Look) : Except String Tables :=
  if tables.newer look.accountKey look.now then .ok tables
  else do
    let marked := tables.observations.map (·.markMissing look.accountKey look.now)
    let seen ← look.positions.foldlM look.recordPosition marked
    let observations ← look.exits.foldlM look.recordExit seen
    return { tables with
      observations
      sync := writeSync tables.sync look.accountKey look.now look.warning }

def Tables.failure (tables : Tables) (account : Option String) (now : Int) (error : String) : Tables :=
  { tables with sync := writeSync tables.sync (accountKey account) now (some error) }

def PositionLink.row (link : PositionLink) (resolved : Bool) : LinkRow where
  account := accountKey link.account
  orderId := link.brokerOrderId
  tradeId := link.tradeId
  link := link
  resolved := resolved

/-- `position_links::record`. -/
def Tables.recordLink (tables : Tables) (link : PositionLink) : Except String Tables := do
  let links ← required (insertOr LinkRow.key (fun old => if old.link = link then some old else none) (link.row false)
    tables.links) "position link ownership conflict"
  return { tables with links }

def resolveCancelled (links : List LinkRow) (link : PositionLink) : Except String (List LinkRow) := do
  ensure (link.brokerPositionId = none) "a filled position cannot be resolved as an unfilled cancellation"
  required (insertOr LinkRow.key (fun old => if old.link = link then some { old with resolved := true } else none)
    (link.row true) links) "cancelled placement ownership conflict"

/-- `position_links::finish_cancelled`: a statement for each link, up to the first that fails. -/
def Tables.finishCancelled (tables : Tables) : List PositionLink → Tables × Option String
  | [] => (tables, none)
  | link :: rest =>
    match resolveCancelled tables.links link with
    | .ok links => Tables.finishCancelled { tables with links } rest
    | .error error => (tables, some error)

/-- One account's turn of `poll_inner`, over links that were read some time before. -/
def Tables.poll (tables : Tables) (account : Option String) (links : List PositionLink) (broker : Broker)
    (observedAt now : Int) : Tables :=
  match observe broker links observedAt with
  | .error error => tables.failure account now error
  | .ok (_, check) =>
    match tables.record (check.look account) with
    | .error error => tables.failure account now error
    | .ok recorded =>
      match recorded.finishCancelled check.cancelled with
      | (finished, none) => finished
      | (finished, some error) => finished.failure account now error

inductive PositionStatus
  | open
  | unconfirmed
  | closed
  deriving DecidableEq

/-- A row's status by what the looks recorded. -/
def ObservationRow.recordedStatus (row : ObservationRow) : PositionStatus :=
  if row.closedExit.isSome then .closed else if row.missing then .unconfirmed else .open

/-- The status `for_trade` tells: the note of another pass closes a row as well. -/
def Tables.status (tables : Tables) (row : ObservationRow) : PositionStatus :=
  if tables.noted row.account row.tradeId row.orderId then .closed else row.recordedStatus

/-- The tables with the looks they took in, oldest first. -/
structure History where
  tables : Tables
  looks : List Look

def History.start : History where
  tables := { observations := [], sync := [], links := [], exitNotes := [], attempts := [] }
  looks := []

/-- What reaches the tables, one transaction or statement at a time, from any number of workers. -/
inductive Event
  | look (look : Look)
  | failed (account : Option String) (now : Int) (error : String)
  | placed (link : PositionLink)
  | cancelled (link : PositionLink)
  | noted (note : ExitNote)
  | attempted (attempts : List PositionLink)

def History.take (history : History) (look : Look) : Except String Tables → History
  | .error _ => history
  | .ok tables =>
    { tables
      looks := if history.tables.newer look.accountKey look.now then history.looks else history.looks ++ [look] }

def History.step (history : History) : Event → History
  | .look look => history.take look (history.tables.record look)
  | .failed account now error => { history with tables := history.tables.failure account now error }
  | .placed link => { history with tables := (history.tables.recordLink link).toOption.getD history.tables }
  | .cancelled link => { history with tables := (history.tables.finishCancelled [link]).1 }
  | .noted note => { history with tables := { history.tables with exitNotes := history.tables.exitNotes ++ [note] } }
  | .attempted attempts => { history with tables := { history.tables with attempts } }

def run (events : List Event) : History := events.foldl History.step History.start

def Look.sees (look : Look) (positionId : String) : Bool :=
  look.positions.any fun tracked => decide (tracked.snapshot.position.positionId = positionId)

def Look.closes (look : Look) (positionId : String) : Bool :=
  look.exits.any fun entry => decide (entry.2.brokerTradeId = positionId)

def looksAt (looks : List Look) (account : String) : List Look :=
  looks.filter fun look => decide (look.accountKey = account)

/-- What the looks at an account tell of a position. Once an exit was proved it is closed; until then
it is open where the last look saw it, and unconfirmed where only an earlier one did. -/
def told (looks : List Look) (account positionId : String) : Option PositionStatus :=
  if (looksAt looks account).any (·.closes positionId) then some .closed
  else if (looksAt looks account).getLast?.any (·.sees positionId) then some .open
  else if (looksAt looks account).any (·.sees positionId) then some .unconfirmed
  else none

section
variable {look : Look} {rows after : List ObservationRow} {tables recorded : Tables} {wanted : String × String}

theorem seeAgain_some {tracked : TrackedPosition} {old new : ObservationRow}
    (seen : look.seeAgain tracked old = some new) :
    old.tradeId = tracked.link.tradeId ∧ old.observedAt ≤ look.now ∧ new = { old with
      link := tracked.link
      snapshot := some tracked.snapshot
      observedAt := look.now
      missing := false } := by
  unfold Look.seeAgain at seen
  split at seen
  · next holds =>
    cases seen
    exact ⟨holds.1, holds.2, rfl⟩
  · cases seen

theorem closeBy_some {link : PositionLink} {exit : BrokerTradeExit} {old new : ObservationRow}
    (closed : old.closeBy link exit = some new) :
    old.tradeId = link.tradeId ∧ old.orderId = link.brokerOrderId ∧ new = { old with closedExit := some exit } := by
  unfold ObservationRow.closeBy at closed
  split at closed
  · next holds =>
    cases closed
    exact ⟨holds.1, holds.2, rfl⟩
  · cases closed

theorem recordPosition_ok {tracked : TrackedPosition} :
    look.recordPosition rows tracked = .ok after ↔ tracked.link.account = look.account ∧
      insertOr ObservationRow.key (look.seeAgain tracked) (look.seenRow tracked) rows = some after := by
  unfold Look.recordPosition
  simp only [bind_ok, ensure_ok, required_ok, exists_and_left, exists_const]

theorem recordExit_ok {entry : PositionLink × BrokerTradeExit} :
    look.recordExit rows entry = .ok after ↔ entry.1.account = look.account ∧
      entry.1.brokerPositionId = some entry.2.brokerTradeId ∧
      insertOr ObservationRow.key (ObservationRow.closeBy entry.1 entry.2) (look.closedRow entry.1 entry.2) rows =
        some after := by
  unfold Look.recordExit
  simp only [bind_ok, ensure_ok, required_ok, exists_and_left, exists_const]

/-- A position that is recorded is there, not missing, and as closed as it was. -/
theorem recordPosition_rowAt {tracked : TrackedPosition} (done : look.recordPosition rows tracked = .ok after) :
    ∃ new : ObservationRow, new.missing = false ∧
      new.closedExit = (rowAt ObservationRow.key rows (look.seenRow tracked).key).bind (·.closedExit) ∧
      ∀ wanted, rowAt ObservationRow.key after wanted =
        if (look.seenRow tracked).key = wanted then some new else rowAt ObservationRow.key rows wanted := by
  obtain ⟨new, origin, left⟩ := insertOr_some (recordPosition_ok.mp done).2 fun old new updated => by
    rw [(seeAgain_some updated).2.2]
    rfl
  refine ⟨new, ?_, ?_, left⟩
  · rcases origin with ⟨-, rfl⟩ | ⟨old, -, updated⟩
    · rfl
    · rw [(seeAgain_some updated).2.2]
  · rcases origin with ⟨absent, rfl⟩ | ⟨old, present, updated⟩
    · rw [absent]
      rfl
    · rw [present, (seeAgain_some updated).2.2]
      rfl

/-- A position whose exit is recorded is there, and closed. -/
theorem recordExit_rowAt {entry : PositionLink × BrokerTradeExit} (done : look.recordExit rows entry = .ok after) :
    ∃ new : ObservationRow, new.closedExit = some entry.2 ∧
      ∀ wanted, rowAt ObservationRow.key after wanted =
        if (look.closedRow entry.1 entry.2).key = wanted then some new
        else rowAt ObservationRow.key rows wanted := by
  obtain ⟨new, origin, left⟩ := insertOr_some (recordExit_ok.mp done).2.2 fun old new updated => by
    rw [(closeBy_some updated).2.2]
    rfl
  refine ⟨new, ?_, left⟩
  rcases origin with ⟨-, rfl⟩ | ⟨old, -, updated⟩
  · rfl
  · rw [(closeBy_some updated).2.2]

/-- The status a row is read with by what the looks recorded. -/
def statusAt (rows : List ObservationRow) (wanted : String × String) : Option PositionStatus :=
  (rowAt ObservationRow.key rows wanted).map ObservationRow.recordedStatus

def PositionStatus.seenAgain : Option PositionStatus → Option PositionStatus
  | some .closed => some .closed
  | _ => some .open

def PositionStatus.unseen : PositionStatus → PositionStatus
  | .closed => .closed
  | _ => .unconfirmed

theorem recordPosition_status {tracked : TrackedPosition} (done : look.recordPosition rows tracked = .ok after) :
    statusAt after wanted = if (look.seenRow tracked).key = wanted then
      PositionStatus.seenAgain (statusAt rows wanted) else statusAt rows wanted := by
  obtain ⟨new, present, exit, left⟩ := recordPosition_rowAt done
  unfold statusAt
  rw [left]
  split
  · next own =>
    subst own
    cases before : rowAt ObservationRow.key rows (look.seenRow tracked).key with
    | none =>
      rw [before] at exit
      simp only [Option.map_some, Option.map_none, PositionStatus.seenAgain, ObservationRow.recordedStatus, exit,
        present, Option.bind_none, Option.isSome_none, Bool.false_eq_true, if_false]
    | some old =>
      rw [before] at exit
      have same : new.closedExit = old.closedExit := exit
      cases closed : old.closedExit with
      | none =>
        simp only [Option.map_some, ObservationRow.recordedStatus, same, closed, present, Option.isSome_none,
          Bool.false_eq_true, if_false]
        cases old.missing with
        | false => rfl
        | true => rfl
      | some =>
        simp only [Option.map_some, ObservationRow.recordedStatus, same, closed, Option.isSome_some, if_true,
          PositionStatus.seenAgain]
  · rfl

theorem recordExit_status {entry : PositionLink × BrokerTradeExit} (done : look.recordExit rows entry = .ok after) :
    statusAt after wanted = if (look.closedRow entry.1 entry.2).key = wanted then some .closed
      else statusAt rows wanted := by
  obtain ⟨new, exit, left⟩ := recordExit_rowAt done
  unfold statusAt
  rw [left]
  split
  · simp only [Option.map_some, ObservationRow.recordedStatus, exit, Option.isSome_some, if_true]
  · rfl

theorem seenAgain_seenAgain (status : Option PositionStatus) :
    PositionStatus.seenAgain (PositionStatus.seenAgain status) = PositionStatus.seenAgain status := by
  cases status with
  | none => rfl
  | some status => cases status <;> rfl

theorem recordPositions_status {positions : List TrackedPosition}
    (done : positions.foldlM look.recordPosition rows = .ok after) :
    statusAt after wanted = if positions.any fun tracked => decide ((look.seenRow tracked).key = wanted) then
      PositionStatus.seenAgain (statusAt rows wanted) else statusAt rows wanted := by
  induction positions generalizing rows with
  | nil =>
    cases done
    rfl
  | cons tracked rest ih =>
    rw [List.foldlM_cons, bind_ok] at done
    obtain ⟨next, first, later⟩ := done
    rw [ih later, recordPosition_status first, List.any_cons]
    by_cases own : (look.seenRow tracked).key = wanted
    · simp only [own, decide_true, Bool.true_or, if_true, seenAgain_seenAgain, ite_self]
    · simp only [own, decide_false, Bool.false_or, if_false]

theorem recordExits_status {exits : List (PositionLink × BrokerTradeExit)}
    (done : exits.foldlM look.recordExit rows = .ok after) :
    statusAt after wanted = if exits.any fun entry => decide ((look.closedRow entry.1 entry.2).key = wanted) then
      some .closed else statusAt rows wanted := by
  induction exits generalizing rows with
  | nil =>
    cases done
    rfl
  | cons entry rest ih =>
    rw [List.foldlM_cons, bind_ok] at done
    obtain ⟨next, first, later⟩ := done
    rw [ih later, recordExit_status first, List.any_cons]
    by_cases own : (look.closedRow entry.1 entry.2).key = wanted
    · simp only [own, decide_true, Bool.true_or, if_true, ite_self]
    · simp only [own, decide_false, Bool.false_or, if_false]

theorem markMissing_key (account : String) (now : Int) (row : ObservationRow) :
    (row.markMissing account now).key = row.key := by
  unfold ObservationRow.markMissing
  split
  · rfl
  · rfl

theorem markMissing_status_other {account : String} {now : Int} (other : wanted.1 ≠ account) :
    statusAt (rows.map (·.markMissing account now)) wanted = statusAt rows wanted := by
  unfold statusAt
  rw [rowAt_map (markMissing_key account now)]
  cases found : rowAt ObservationRow.key rows wanted with
  | none => rfl
  | some row =>
    have own : row.account = wanted.1 := congrArg Prod.fst (rowAt_key found)
    unfold ObservationRow.markMissing
    rw [Option.map_some, if_neg fun held => other (own.symm.trans held.1)]

theorem markMissing_status {account positionId : String} {now : Int}
    (before : ∀ row, rowAt ObservationRow.key rows (account, positionId) = some row → row.observedAt ≤ now) :
    statusAt (rows.map (·.markMissing account now)) (account, positionId) =
      (statusAt rows (account, positionId)).map PositionStatus.unseen := by
  unfold statusAt
  rw [rowAt_map (markMissing_key account now)]
  cases found : rowAt ObservationRow.key rows (account, positionId) with
  | none => rfl
  | some row =>
    have own : row.account = account := congrArg Prod.fst (rowAt_key found)
    have marked : row.markMissing account now = { row with missing := true } :=
      if_pos ⟨own, before row found⟩
    simp only [Option.map_some, marked, ObservationRow.recordedStatus]
    cases row.closedExit with
    | some => rfl
    | none =>
      cases row.missing with
      | false => rfl
      | true => rfl

/-- What a look that is taken in does: its rows, written over those of its account marked missing. -/
theorem record_ok (fresh : tables.newer look.accountKey look.now = false)
    (done : tables.record look = .ok recorded) :
    ∃ seen, look.positions.foldlM look.recordPosition
          (tables.observations.map (·.markMissing look.accountKey look.now)) = .ok seen ∧
      look.exits.foldlM look.recordExit seen = .ok recorded.observations ∧
      recorded.sync = writeSync tables.sync look.accountKey look.now look.warning := by
  unfold Tables.record at done
  rw [if_neg (by rw [fresh]; exact Bool.false_ne_true)] at done
  simp only [bind_ok, pure_ok] at done
  obtain ⟨seen, saw, observations, closed, rfl⟩ := done
  exact ⟨seen, saw, closed, rfl⟩

theorem key_eq_iff {row : ObservationRow} {account positionId : String} :
    row.key = (account, positionId) ↔ row.account = account ∧ row.positionId = positionId :=
  Prod.mk.injEq .. ▸ Iff.rfl

theorem record_status_other (fresh : tables.newer look.accountKey look.now = false)
    (done : tables.record look = .ok recorded) (other : wanted.1 ≠ look.accountKey) :
    statusAt recorded.observations wanted = statusAt tables.observations wanted := by
  obtain ⟨seen, saw, closed, -⟩ := record_ok fresh done
  have elsewhere : ∀ row : ObservationRow, row.account = look.accountKey → row.key ≠ wanted := by
    rintro row own rfl
    exact other own
  rw [recordExits_status closed, recordPositions_status saw, markMissing_status_other other]
  rw [if_neg, if_neg]
  · intro some
    obtain ⟨tracked, -, own⟩ := List.any_eq_true.mp some
    exact elsewhere _ rfl (of_decide_eq_true own)
  · intro some
    obtain ⟨entry, -, own⟩ := List.any_eq_true.mp some
    exact elsewhere _ rfl (of_decide_eq_true own)

theorem record_status {positionId : String} (fresh : tables.newer look.accountKey look.now = false)
    (done : tables.record look = .ok recorded)
    (before : ∀ row, rowAt ObservationRow.key tables.observations (look.accountKey, positionId) = some row →
      row.observedAt ≤ look.now) :
    statusAt recorded.observations (look.accountKey, positionId) =
      if look.closes positionId then some .closed
      else if look.sees positionId then
        PositionStatus.seenAgain (statusAt tables.observations (look.accountKey, positionId))
      else (statusAt tables.observations (look.accountKey, positionId)).map PositionStatus.unseen := by
  obtain ⟨seen, saw, closed, -⟩ := record_ok fresh done
  have closes : (look.exits.any fun entry =>
      decide ((look.closedRow entry.1 entry.2).key = (look.accountKey, positionId))) = look.closes positionId := by
    unfold Look.closes
    congr 1
    funext entry
    exact decide_eq_decide.mpr (key_eq_iff.trans (and_iff_right rfl))
  have sees : (look.positions.any fun tracked =>
      decide ((look.seenRow tracked).key = (look.accountKey, positionId))) = look.sees positionId := by
    unfold Look.sees
    congr 1
    funext tracked
    exact decide_eq_decide.mpr (key_eq_iff.trans (and_iff_right rfl))
  rw [recordExits_status closed, recordPositions_status saw, markMissing_status before, closes, sees]
  cases statusAt tables.observations (look.accountKey, positionId) with
  | none => rfl
  | some status => cases status <;> rfl

end

/-- What one more look tells. -/
theorem told_append (looks : List Look) (look : Look) (account positionId : String) :
    told (looks ++ [look]) account positionId =
      if look.accountKey = account then
        if look.closes positionId then some .closed
        else if look.sees positionId then PositionStatus.seenAgain (told looks account positionId)
        else (told looks account positionId).map PositionStatus.unseen
      else told looks account positionId := by
  unfold told looksAt
  rw [List.filter_append]
  by_cases own : look.accountKey = account
  · have here : [look].filter (fun look => decide (look.accountKey = account)) = [look] :=
      List.filter_cons_of_pos (decide_eq_true own)
    rw [if_pos own, here, List.getLast?_concat]
    simp only [List.any_append, List.any_cons, List.any_nil, Bool.or_false, Option.any_some]
    generalize looks.filter (fun look => decide (look.accountKey = account)) = earlier
    cases closed : earlier.any (·.closes positionId) with
    | true => cases look.closes positionId <;> cases look.sees positionId <;> rfl
    | false =>
      cases last : earlier.getLast?.any (·.sees positionId) with
      | true =>
        have some : earlier.any (·.sees positionId) = true := by
          cases found : earlier.getLast? with
          | none =>
            rw [found] at last
            cases last
          | some final =>
            rw [found] at last
            exact List.any_eq_true.mpr ⟨final, List.mem_of_getLast? found, last⟩
        cases look.closes positionId <;> cases look.sees positionId <;> simp [some, PositionStatus.seenAgain,
          PositionStatus.unseen]
      | false =>
        cases earlier.any (·.sees positionId) <;> cases look.closes positionId <;> cases look.sees positionId <;> rfl
  · have none : [look].filter (fun look => decide (look.accountKey = account)) = [] :=
      List.filter_cons_of_neg (by simpa using own)
    rw [if_neg own, none, List.append_nil]

/-- Instants of checks only grow. -/
def SyncRow.Advanced (old new : SyncRow) : Prop := old.checkedAt ≤ new.checkedAt

theorem refresh_some {now : Int} {error : Option String} {old new : SyncRow}
    (refreshed : old.refresh now error = some new) :
    old.checkedAt ≤ now ∧ new = { old with checkedAt := now, error } := by
  unfold SyncRow.refresh at refreshed
  split at refreshed
  · next holds =>
    cases refreshed
    exact ⟨holds, rfl⟩
  · cases refreshed

theorem writeSync_evolves (sync : List SyncRow) (account : String) (now : Int) (error : Option String) :
    Evolves SyncRow.account SyncRow.Advanced sync (writeSync sync account now error) := by
  have unchanged : ∀ row, SyncRow.Advanced row row := fun row => le_refl row.checkedAt
  unfold writeSync
  cases done : insertOr SyncRow.account (SyncRow.refresh now error)
      { account, checkedAt := now, error } sync with
  | none => exact Evolves.refl unchanged sync
  | some after =>
    refine Evolves.insertOr unchanged (fun old new refreshed => ?_) (fun old new refreshed => ?_) done
    · rw [(refresh_some refreshed).2]
    · obtain ⟨earlier, rfl⟩ := refresh_some refreshed
      exact earlier

/-- After a check at `now` the account's last check is no earlier. -/
theorem writeSync_reaches (sync : List SyncRow) (account : String) (now : Int) (error : Option String) :
    ∃ row, rowAt SyncRow.account (writeSync sync account now error) account = some row ∧ now ≤ row.checkedAt := by
  unfold writeSync
  cases done : insertOr SyncRow.account (SyncRow.refresh now error)
      { account, checkedAt := now, error } sync with
  | none =>
    by_contra behind
    have refused : (insertOr SyncRow.account (SyncRow.refresh now error)
        { account, checkedAt := now, error } sync).isSome := by
      refine insertOr_isSome.mpr fun old present => ?_
      have earlier : old.checkedAt ≤ now := by
        by_contra later
        exact behind ⟨old, present, (not_le.mp later).le⟩
      unfold SyncRow.refresh
      rw [if_pos earlier]
      rfl
    rw [done] at refused
    cases refused
  | some after =>
    obtain ⟨new, origin, left⟩ := insertOr_some done fun old new refreshed => by rw [(refresh_some refreshed).2]
    refine ⟨new, (left account).trans (if_pos rfl), ?_⟩
    rcases origin with ⟨-, rfl⟩ | ⟨old, -, refreshed⟩
    · exact le_refl now
    · rw [(refresh_some refreshed).2]

/-- What never changes of a row, and what only moves one way. -/
structure ObservationRow.Kept (old new : ObservationRow) : Prop where
  tradeId : new.tradeId = old.tradeId
  orderId : new.orderId = old.orderId
  observed : old.observedAt ≤ new.observedAt
  closed : old.closedExit.isSome → new.closedExit.isSome

theorem ObservationRow.Kept.refl (row : ObservationRow) : row.Kept row where
  tradeId := rfl
  orderId := rfl
  observed := le_refl row.observedAt
  closed := id

theorem ObservationRow.Kept.trans (a b c : ObservationRow) (first : a.Kept b) (second : b.Kept c) : a.Kept c where
  tradeId := second.tradeId.trans first.tradeId
  orderId := second.orderId.trans first.orderId
  observed := first.observed.trans second.observed
  closed := fun isClosed => second.closed (first.closed isClosed)

abbrev RowsKept (before after : List ObservationRow) : Prop :=
  Evolves ObservationRow.key ObservationRow.Kept before after

section
variable {look : Look} {rows after : List ObservationRow} {tables recorded : Tables}

theorem recordPosition_kept {tracked : TrackedPosition} (done : look.recordPosition rows tracked = .ok after) :
    RowsKept rows after := by
  refine Evolves.insertOr ObservationRow.Kept.refl (fun old new seen => ?_) (fun old new seen => ?_)
    (recordPosition_ok.mp done).2
  · rw [(seeAgain_some seen).2.2]
    rfl
  · obtain ⟨-, earlier, rfl⟩ := seeAgain_some seen
    exact ⟨rfl, rfl, earlier, id⟩

theorem recordExit_kept {entry : PositionLink × BrokerTradeExit} (done : look.recordExit rows entry = .ok after) :
    RowsKept rows after := by
  refine Evolves.insertOr ObservationRow.Kept.refl (fun old new closed => ?_) (fun old new closed => ?_)
    (recordExit_ok.mp done).2.2
  · rw [(closeBy_some closed).2.2]
    rfl
  · obtain ⟨-, -, rfl⟩ := closeBy_some closed
    exact ⟨rfl, rfl, le_refl _, fun _ => rfl⟩

theorem markMissing_kept (account : String) (now : Int) (row : ObservationRow) :
    row.Kept (row.markMissing account now) := by
  unfold ObservationRow.markMissing
  split
  · exact ⟨rfl, rfl, le_refl _, id⟩
  · exact ObservationRow.Kept.refl row

theorem record_kept (done : tables.record look = .ok recorded) :
    RowsKept tables.observations recorded.observations := by
  cases stale : tables.newer look.accountKey look.now with
  | true =>
    unfold Tables.record at done
    rw [if_pos stale] at done
    cases done
    exact Evolves.refl ObservationRow.Kept.refl _
  | false =>
    obtain ⟨seen, saw, closed, -⟩ := record_ok stale done
    have marked : RowsKept tables.observations
        (tables.observations.map (·.markMissing look.accountKey look.now)) :=
      Evolves.map (markMissing_key _ _) (markMissing_kept _ _) _
    refine foldlM_carried (fun entry _ before after did kept => ?_) closed
      (foldlM_carried (fun tracked _ before after did kept => ?_) saw marked)
    · exact Evolves.trans ObservationRow.Kept.trans kept (recordExit_kept did)
    · exact Evolves.trans ObservationRow.Kept.trans kept (recordPosition_kept did)

end

/-- What every run leaves: no row and no look is later than its account's last check, the looks at an
account are in order of time, and the rows are what they tell. -/
structure History.Sound (history : History) : Prop where
  rowsTimely : ∀ row ∈ history.tables.observations, ∃ check,
    rowAt SyncRow.account history.tables.sync row.account = some check ∧ row.observedAt ≤ check.checkedAt
  looksTimely : ∀ look ∈ history.looks, ∃ check,
    rowAt SyncRow.account history.tables.sync look.accountKey = some check ∧ look.now ≤ check.checkedAt
  ordered : ∀ account, (looksAt history.looks account).Pairwise fun look later => look.now ≤ later.now
  told : ∀ account positionId,
    statusAt history.tables.observations (account, positionId) = told history.looks account positionId

section
variable {history : History} {look : Look} {tables recorded : Tables}

theorem History.Sound.congr (sound : history.Sound) {tables : Tables}
    (observations : tables.observations = history.tables.observations)
    (sync : Evolves SyncRow.account SyncRow.Advanced history.tables.sync tables.sync) :
    ({ history with tables } : History).Sound where
  rowsTimely row member := by
    obtain ⟨check, found, within⟩ := sound.rowsTimely row (observations ▸ member)
    obtain ⟨later, foundLater, advanced⟩ := sync row.account check found
    exact ⟨later, foundLater, within.trans advanced⟩
  looksTimely look member := by
    obtain ⟨check, found, within⟩ := sound.looksTimely look member
    obtain ⟨later, foundLater, advanced⟩ := sync look.accountKey check found
    exact ⟨later, foundLater, within.trans advanced⟩
  ordered := sound.ordered
  told account positionId := by
    rw [observations]
    exact sound.told account positionId

theorem checked_le {check : SyncRow} (fresh : tables.newer look.accountKey look.now = false)
    (found : rowAt SyncRow.account tables.sync look.accountKey = some check) : check.checkedAt ≤ look.now := by
  by_contra late
  have newer : tables.newer look.accountKey look.now = true :=
    List.any_eq_true.mpr ⟨check, rowAt_mem found, decide_eq_true ⟨rowAt_key found, not_le.mp late⟩⟩
  rw [fresh] at newer
  cases newer

theorem History.Sound.observed_le (sound : history.Sound)
    (fresh : history.tables.newer look.accountKey look.now = false) {row : ObservationRow}
    (member : row ∈ history.tables.observations) (own : row.account = look.accountKey) :
    row.observedAt ≤ look.now := by
  obtain ⟨check, found, within⟩ := sound.rowsTimely row member
  rw [own] at found
  exact within.trans (checked_le fresh found)

/-- The rows a look leaves are rows of its own account, none later than the look, or older ones. -/
def Look.Leaves (look : Look) (before rows : List ObservationRow) : Prop :=
  ∀ row ∈ rows, row.account = look.accountKey ∧ row.observedAt ≤ look.now ∨ row ∈ before

theorem recordPosition_leaves {before rows after : List ObservationRow} {tracked : TrackedPosition}
    (done : look.recordPosition rows tracked = .ok after) (leaves : look.Leaves before rows) :
    look.Leaves before after := by
  intro row member
  rcases mem_insertOr (recordPosition_ok.mp done).2 member with present | rfl | ⟨old, -, sameKey, seen⟩
  · exact leaves row present
  · exact .inl ⟨rfl, le_refl look.now⟩
  · obtain ⟨-, -, rfl⟩ := seeAgain_some seen
    exact .inl ⟨congrArg Prod.fst sameKey, le_refl look.now⟩

theorem recordExit_leaves {before rows after : List ObservationRow} {entry : PositionLink × BrokerTradeExit}
    (timely : ∀ row ∈ before, row.account = look.accountKey → row.observedAt ≤ look.now)
    (done : look.recordExit rows entry = .ok after) (leaves : look.Leaves before rows) :
    look.Leaves before after := by
  intro row member
  rcases mem_insertOr (recordExit_ok.mp done).2.2 member with present | rfl | ⟨old, present, sameKey, closed⟩
  · exact leaves row present
  · exact .inl ⟨rfl, le_refl look.now⟩
  · obtain ⟨-, -, rfl⟩ := closeBy_some closed
    have own : old.account = look.accountKey := congrArg Prod.fst sameKey
    rcases leaves old present with held | earlier
    · exact .inl held
    · exact .inl ⟨own, timely old earlier own⟩

theorem record_leaves (timely : ∀ row ∈ tables.observations, row.account = look.accountKey → row.observedAt ≤ look.now)
    (fresh : tables.newer look.accountKey look.now = false) (done : tables.record look = .ok recorded) :
    look.Leaves tables.observations recorded.observations := by
  obtain ⟨seen, saw, closed, -⟩ := record_ok fresh done
  have marked : look.Leaves tables.observations
      (tables.observations.map (·.markMissing look.accountKey look.now)) := by
    intro row member
    obtain ⟨old, present, rfl⟩ := List.mem_map.mp member
    unfold ObservationRow.markMissing
    split
    · next held => exact .inl ⟨held.1, held.2⟩
    · exact .inr present
  exact foldlM_carried (fun entry _ before after did held => recordExit_leaves timely did held) closed
    (foldlM_carried (fun tracked _ before after did held => recordPosition_leaves did held) saw marked)

theorem History.Sound.taken (sound : history.Sound)
    (fresh : history.tables.newer look.accountKey look.now = false)
    (done : history.tables.record look = .ok recorded) :
    ({ tables := recorded, looks := history.looks ++ [look] } : History).Sound := by
  obtain ⟨seen, saw, closed, sync⟩ := record_ok fresh done
  have advanced : Evolves SyncRow.account SyncRow.Advanced history.tables.sync recorded.sync := by
    rw [sync]
    exact writeSync_evolves _ _ _ _
  have reached : ∃ check, rowAt SyncRow.account recorded.sync look.accountKey = some check ∧
      look.now ≤ check.checkedAt := by
    rw [sync]
    exact writeSync_reaches _ _ _ _
  have timely : ∀ row ∈ history.tables.observations, row.account = look.accountKey → row.observedAt ≤ look.now :=
    fun row member own => sound.observed_le fresh member own
  refine ⟨fun row member => ?_, fun other member => ?_, fun account => ?_, fun account positionId => ?_⟩
  · rcases record_leaves timely fresh done row member with ⟨own, within⟩ | earlier
    · obtain ⟨check, found, late⟩ := reached
      exact ⟨check, own ▸ found, within.trans late⟩
    · obtain ⟨check, found, within⟩ := sound.rowsTimely row earlier
      obtain ⟨later, foundLater, moved⟩ := advanced row.account check found
      exact ⟨later, foundLater, within.trans moved⟩
  · rcases List.mem_append.mp member with earlier | last
    · obtain ⟨check, found, within⟩ := sound.looksTimely other earlier
      obtain ⟨later, foundLater, moved⟩ := advanced other.accountKey check found
      exact ⟨later, foundLater, within.trans moved⟩
    · cases List.mem_singleton.mp last
      exact reached
  · unfold looksAt
    rw [List.filter_append]
    refine List.pairwise_append.mpr ⟨sound.ordered account, ?_, fun earlier present later last => ?_⟩
    · exact (List.pairwise_singleton _ look).sublist List.filter_sublist
    · obtain ⟨present, own⟩ := List.mem_filter.mp present
      obtain ⟨last, lastOwn⟩ := List.mem_filter.mp last
      cases List.mem_singleton.mp last
      obtain ⟨check, found, within⟩ := sound.looksTimely earlier present
      rw [of_decide_eq_true own, ← of_decide_eq_true lastOwn] at found
      exact within.trans (checked_le fresh found)
  · rw [told_append]
    by_cases own : look.accountKey = account
    · subst own
      rw [if_pos rfl, ← sound.told]
      exact record_status fresh done fun row found =>
        timely row (rowAt_mem found) (congrArg Prod.fst (rowAt_key found))
    · rw [if_neg own, ← sound.told]
      exact record_status_other fresh done (Ne.symm own)

theorem finishCancelled_single (tables : Tables) (link : PositionLink) :
    (tables.finishCancelled [link]).1.observations = tables.observations ∧
      (tables.finishCancelled [link]).1.sync = tables.sync := by
  simp only [Tables.finishCancelled]
  cases resolveCancelled tables.links link with
  | error => exact ⟨rfl, rfl⟩
  | ok => exact ⟨rfl, rfl⟩

theorem recordLink_tables (tables : Tables) (link : PositionLink) :
    ((tables.recordLink link).toOption.getD tables).observations = tables.observations ∧
      ((tables.recordLink link).toOption.getD tables).sync = tables.sync := by
  cases done : tables.recordLink link with
  | error => exact ⟨rfl, rfl⟩
  | ok after =>
    unfold Tables.recordLink at done
    simp only [bind_ok, pure_ok] at done
    obtain ⟨links, -, rfl⟩ := done
    exact ⟨rfl, rfl⟩

theorem SyncRow.advanced_refl (row : SyncRow) : row.Advanced row := le_refl row.checkedAt

theorem History.Sound.step (sound : history.Sound) (event : Event) : (history.step event).Sound := by
  have still : Evolves SyncRow.account SyncRow.Advanced history.tables.sync history.tables.sync :=
    Evolves.refl SyncRow.advanced_refl _
  cases event with
  | look look =>
    cases done : history.tables.record look with
    | error failure =>
      rw [History.step, done]
      exact sound
    | ok recorded =>
      rw [History.step, done, History.take]
      cases stale : history.tables.newer look.accountKey look.now with
      | true =>
        rw [Tables.record, if_pos stale] at done
        cases done
        exact sound
      | false => exact sound.taken stale done
  | failed account now error => exact sound.congr rfl (writeSync_evolves _ _ _ _)
  | placed link =>
    obtain ⟨observations, sync⟩ := recordLink_tables history.tables link
    exact sound.congr observations (sync ▸ still)
  | cancelled link =>
    obtain ⟨observations, sync⟩ := finishCancelled_single history.tables link
    exact sound.congr observations (sync ▸ still)
  | noted note => exact sound.congr rfl still
  | attempted attempts => exact sound.congr rfl still

theorem History.Sound.start : History.start.Sound where
  rowsTimely row member := by cases member
  looksTimely look member := by cases member
  ordered account := .nil
  told account positionId := rfl

theorem run_sound (events : List Event) : (run events).Sound := by
  unfold run
  induction events using List.reverseRecOn with
  | nil => exact .start
  | append_singleton events event ih =>
    rw [List.foldl_append]
    exact ih.step event

end

def Tables.statusAt (tables : Tables) (account positionId : String) : Option PositionStatus :=
  (rowAt ObservationRow.key tables.observations (account, positionId)).map tables.status

def Tables.notedAt (tables : Tables) (account positionId : String) : Bool :=
  (rowAt ObservationRow.key tables.observations (account, positionId)).any fun row =>
    tables.noted row.account row.tradeId row.orderId

/-- Whatever reaches the tables, in whatever order, a position's status is what the looks that were
taken in tell of it, or closed where another pass noted its exit. In particular a position that is
missing is never taken for closed, and a proved exit is never taken back. -/
theorem positionStatus_told (events : List Event) (account positionId : String) :
    (run events).tables.statusAt account positionId =
      if (run events).tables.notedAt account positionId then some .closed
      else told (run events).looks account positionId := by
  have sound := (run_sound events).told account positionId
  unfold statusAt at sound
  rw [← sound]
  unfold Tables.statusAt Tables.notedAt
  cases rowAt ObservationRow.key (run events).tables.observations (account, positionId) with
  | none => rfl
  | some row =>
    simp only [Option.map_some, Option.any_some, Tables.status]
    split
    · rfl
    · rfl

theorem step_take {history : History} {look : Look} {recorded : Tables}
    (done : history.tables.record look = .ok recorded) : (history.step (.look look)).tables = recorded := by
  rw [History.step, done]
  rfl

theorem finishCancelled_run (history : History) (links : List PositionLink) :
    ∃ events : List Event, (events.foldl History.step history).tables = (history.tables.finishCancelled links).1 := by
  induction links generalizing history with
  | nil => exact ⟨[], rfl⟩
  | cons link rest ih =>
    cases resolved : resolveCancelled history.tables.links link with
    | error error =>
      refine ⟨[], ?_⟩
      simp only [Tables.finishCancelled, resolved, List.foldl_nil]
    | ok after =>
      have stepped : (history.step (.cancelled link)).tables = { history.tables with links := after } := by
        simp only [History.step, Tables.finishCancelled, resolved]
      obtain ⟨events, reached⟩ := ih (history.step (.cancelled link))
      refine ⟨.cancelled link :: events, ?_⟩
      rw [List.foldl_cons, reached, stepped]
      simp only [Tables.finishCancelled, resolved]

/-- A poll of an account is no more than events one after another, between which others may come. -/
theorem poll_run (history : History) (account : Option String) (links : List PositionLink) (broker : Broker)
    (observedAt now : Int) :
    ∃ events : List Event, (events.foldl History.step history).tables =
      history.tables.poll account links broker observedAt now := by
  unfold Tables.poll
  cases observe broker links observedAt with
  | error error => exact ⟨[.failed account now error], rfl⟩
  | ok observed =>
    obtain ⟨-, check⟩ := observed
    dsimp only
    cases done : history.tables.record (check.look account) with
    | error error => exact ⟨[.failed account now error], rfl⟩
    | ok recorded =>
      have taken := step_take done
      obtain ⟨events, reached⟩ := finishCancelled_run (history.step (.look (check.look account))) check.cancelled
      rw [taken] at reached
      dsimp only
      cases finished : recorded.finishCancelled check.cancelled with
      | mk after error =>
        rw [finished] at reached
        cases error with
        | none => exact ⟨.look (check.look account) :: events, reached⟩
        | some error =>
          refine ⟨.look (check.look account) :: (events ++ [.failed account now error]), ?_⟩
          rw [List.foldl_cons, List.foldl_append]
          exact congrArg (·.failure account now error) reached

theorem step_kept (history : History) (event : Event) :
    RowsKept history.tables.observations (history.step event).tables.observations := by
  have still : RowsKept history.tables.observations history.tables.observations :=
    Evolves.refl ObservationRow.Kept.refl _
  cases event with
  | look look =>
    cases done : history.tables.record look with
    | error failure =>
      rw [History.step, done]
      exact still
    | ok recorded =>
      rw [History.step, done]
      exact record_kept done
  | failed account now error => exact still
  | placed link =>
    rw [History.step, (recordLink_tables history.tables link).1]
    exact still
  | cancelled link =>
    rw [History.step, (finishCancelled_single history.tables link).1]
    exact still
  | noted note => exact still
  | attempted attempts => exact still

/-- Through any run a row stays with its trade and order, is never seen at an earlier instant than
before and never opened again, and the looks taken in at an account never go back in time. -/
theorem positionRuns_kept (earlier later : List Event) :
    RowsKept (run earlier).tables.observations (run (earlier ++ later)).tables.observations ∧
      ∀ account, (looksAt (run (earlier ++ later)).looks account).Pairwise fun look next => look.now ≤ next.now := by
  refine ⟨?_, fun account => (run_sound (earlier ++ later)).ordered account⟩
  unfold run
  rw [List.foldl_append]
  generalize earlier.foldl History.step History.start = history
  induction later generalizing history with
  | nil => exact Evolves.refl ObservationRow.Kept.refl _
  | cons event rest ih =>
    exact Evolves.trans ObservationRow.Kept.trans (step_kept history event) (ih (history.step event))

/-- Whom a row or an entry of a look has a position for: its trade and its order. -/
def ObservationRow.claim (row : ObservationRow) : String × String × String := (row.positionId, row.tradeId, row.orderId)

def Look.claims (look : Look) : List (String × String × String) :=
  look.positions.map (fun tracked => (look.seenRow tracked).claim) ++
    look.exits.map fun entry => (look.closedRow entry.1 entry.2).claim

def Tables.claims (tables : Tables) (account : String) : List (String × String × String) :=
  (tables.observations.filter fun row => decide (row.account = account)).map ObservationRow.claim

/-- Some position of the look is claimed for two trades or orders. -/
def Tables.Disputed (tables : Tables) (look : Look) : Prop :=
  ∃ claim ∈ look.claims, ∃ other ∈ tables.claims look.accountKey ++ look.claims,
    other.1 = claim.1 ∧ other.2 ≠ claim.2

/-- What a look at a broker may bring: exits of the positions its links name, and orders that never filled. -/
structure PositionCheck.Of (check : PositionCheck) (links : List PositionLink) : Prop where
  exits : ∀ entry ∈ check.exits, entry.2.brokerTradeId ≠ "" ∧ ∃ link ∈ links,
    entry.1 = link.at entry.2.brokerTradeId ∧
      (link.brokerPositionId = none ∨ link.brokerPositionId = some entry.2.brokerTradeId)
  cancelled : ∀ link ∈ check.cancelled, link ∈ links ∧ link.brokerPositionId = none

section
variable {check : PositionCheck} {links : List PositionLink} {link : PositionLink}

theorem PositionCheck.Of.warn (of : check.Of links) (link : PositionLink) (message : String) :
    (check.warn link message).Of links := ⟨of.exits, of.cancelled⟩

theorem PositionCheck.Of.recordExit (of : check.Of links) (member : link ∈ links) (exit : BrokerTradeExit) :
    (check.recordExit link exit).Of links := by
  unfold PositionCheck.recordExit
  split
  · exact of.warn link _
  · next sound =>
    obtain ⟨named, known⟩ := not_or.mp sound
    refine ⟨fun entry present => ?_, of.cancelled⟩
    rcases List.mem_append.mp present with earlier | last
    · exact of.exits entry earlier
    · cases List.mem_singleton.mp last
      refine ⟨named, link, member, rfl, ?_⟩
      cases position : link.brokerPositionId with
      | none => exact .inl rfl
      | some id =>
        rw [position] at known
        simp only [Option.any_some, decide_eq_true_eq, ne_eq, not_not] at known
        exact .inr (congrArg some known)

theorem PositionCheck.Of.recordClosed (of : check.Of links) (member : link ∈ links) (realizedPl : Rat) :
    (check.recordClosed link realizedPl).Of links := by
  unfold PositionCheck.recordClosed
  split
  · exact of.recordExit member _
  · exact of.warn link _

theorem PositionCheck.Of.recordCancelled (of : check.Of links) (member : link ∈ links) :
    (check.recordCancelled link).Of links := by
  unfold PositionCheck.recordCancelled
  split
  · next unfilled =>
    refine ⟨of.exits, fun other present => ?_⟩
    rcases List.mem_append.mp present with earlier | last
    · exact of.cancelled other earlier
    · cases List.mem_singleton.mp last
      exact ⟨member, unfilled⟩
  · exact of.warn link _

theorem PositionCheck.Of.recordState (of : check.Of links) (member : link ∈ links)
    (answer : Except String AttemptResolution.AttemptState) :
    (check.recordState link answer).2.Of links ∧ (check.recordState link answer).1.account = link.account := by
  cases answer with
  | error error => exact ⟨of.warn link _, rfl⟩
  | ok state =>
    cases state with
    | pending => exact ⟨of, rfl⟩
    | openPosition brokerTradeId => exact ⟨of, rfl⟩
    | closedWin realizedPl => exact ⟨of.recordClosed member realizedPl, rfl⟩
    | closedLossOrBreakeven realizedPl => exact ⟨of.recordClosed member realizedPl, rfl⟩
    | closedConfirmed exit => exact ⟨of.recordExit member exit, rfl⟩
    | cancelled => exact ⟨of.recordCancelled member, rfl⟩
    | unknown => exact ⟨of, rfl⟩

theorem observeLink_of (broker : Broker) (snapshots : List PositionSnapshot) (of : check.Of links)
    (member : link ∈ links) (turn : Nat) :
    (observeLink broker snapshots turn link check).2.Of links ∧
      (observeLink broker snapshots turn link check).1.account = link.account := by
  unfold observeLink
  split
  · exact ⟨of, rfl⟩
  · split
    · exact ⟨of.recordExit member _, rfl⟩
    · exact ⟨of.warn link _, rfl⟩
    · exact of.recordState member _

theorem observeLinks_of (broker : Broker) (snapshots : List PositionSnapshot) {rest : List PositionLink}
    (of : check.Of links) (within : ∀ link ∈ rest, link ∈ links)
    (turn : Nat) {account : Option String} (own : ∀ link ∈ rest, link.account = account) :
    (observeLinks broker snapshots turn rest check).2.Of links ∧
      ∀ link ∈ (observeLinks broker snapshots turn rest check).1, link.account = account := by
  induction rest generalizing turn check with
  | nil =>
    refine ⟨of, fun link member => ?_⟩
    cases member
  | cons first rest ih =>
    obtain ⟨ofFirst, kept⟩ := observeLink_of broker snapshots of
      (within first List.mem_cons_self) turn
    obtain ⟨ofRest, ownRest⟩ := ih ofFirst (fun link member => within link (List.mem_cons_of_mem _ member)) (turn + 1)
      (fun link member => own link (List.mem_cons_of_mem _ member))
    refine ⟨ofRest, fun link member => ?_⟩
    rcases List.mem_cons.mp member with rfl | later
    · exact kept.trans (own first List.mem_cons_self)
    · exact ownRest link later

end

theorem owner_some {links : List PositionLink} {position : OpenPosition} {link : PositionLink}
    (owned : owner links position = some link) :
    link ∈ links ∧ link.matches position ∧ ∀ other ∈ links, other.matches position →
      other.account = link.account ∧ other.tradeId = link.tradeId := by
  unfold owner at owned
  cases matching : links.filter (·.matches position) with
  | nil =>
    rw [matching] at owned
    cases owned
  | cons first others =>
    rw [matching] at owned
    have found : ∀ other, other ∈ first :: others ↔ other ∈ links ∧ other.matches position := by
      intro other
      rw [← matching, List.mem_filter]
    dsimp only at owned
    split at owned
    · cases owned
    · next agreed =>
      cases owned
      obtain ⟨member, fits⟩ := (found link).mp List.mem_cons_self
      refine ⟨member, fits, fun other present fitsOther => ?_⟩
      rcases List.mem_cons.mp ((found other).mpr ⟨present, fitsOther⟩) with rfl | later
      · exact ⟨rfl, rfl⟩
      · by_contra differs
        refine agreed (List.any_eq_true.mpr ⟨other, later, decide_eq_true ?_⟩)
        tauto

/-- A position is tracked for the one trade whose links match it. -/
theorem mem_matchPositions {links : List PositionLink} {positions : List PositionSnapshot} {tracked : TrackedPosition}
    (member : tracked ∈ matchPositions links positions) :
    tracked.snapshot ∈ positions ∧ ∃ link ∈ links, tracked.link = link.at tracked.snapshot.position.positionId ∧
      link.matches tracked.snapshot.position ∧ ∀ other ∈ links, other.matches tracked.snapshot.position →
        other.account = link.account ∧ other.tradeId = link.tradeId := by
  obtain ⟨snapshot, present, made⟩ := List.mem_filterMap.mp member
  obtain ⟨link, owned, rfl⟩ := Option.map_eq_some_iff.mp made
  obtain ⟨linked, fits, sole⟩ := owner_some owned
  exact ⟨present, link, linked, rfl, fits, sole⟩

/-- What is known of the rows of a look's account while it is written: none is later than the look,
and each is of a claim that the tables or the look had. -/
def Look.Knows (look : Look) (tables : Tables) (rows : List ObservationRow) : Prop :=
  ∀ row ∈ rows, row.account = look.accountKey →
    row.observedAt ≤ look.now ∧ row.claim ∈ tables.claims look.accountKey ++ look.claims

section
variable {look : Look} {tables : Tables} {rows after : List ObservationRow} {tracked : TrackedPosition}
  {entry : PositionLink × BrokerTradeExit} {failure : String}

theorem seen_claimed (member : tracked ∈ look.positions) : (look.seenRow tracked).claim ∈ look.claims :=
  List.mem_append_left _ (List.mem_map.mpr ⟨tracked, member, rfl⟩)

theorem closed_claimed (member : entry ∈ look.exits) : (look.closedRow entry.1 entry.2).claim ∈ look.claims :=
  List.mem_append_right _ (List.mem_map.mpr ⟨entry, member, rfl⟩)

theorem recordPosition_knows (member : tracked ∈ look.positions) (done : look.recordPosition rows tracked = .ok after)
    (knows : look.Knows tables rows) : look.Knows tables after := by
  intro row present own
  rcases mem_insertOr (recordPosition_ok.mp done).2 present with earlier | rfl | ⟨old, earlier, sameKey, seen⟩
  · exact knows row earlier own
  · exact ⟨le_refl look.now, List.mem_append_right _ (seen_claimed member)⟩
  · obtain ⟨-, -, rfl⟩ := seeAgain_some seen
    exact ⟨le_refl look.now, (knows old earlier (congrArg Prod.fst sameKey)).2⟩

theorem recordExit_knows (member : entry ∈ look.exits) (done : look.recordExit rows entry = .ok after)
    (knows : look.Knows tables rows) : look.Knows tables after := by
  intro row present own
  rcases mem_insertOr (recordExit_ok.mp done).2.2 present with earlier | rfl | ⟨old, earlier, sameKey, closed⟩
  · exact knows row earlier own
  · exact ⟨le_refl look.now, List.mem_append_right _ (closed_claimed member)⟩
  · obtain ⟨-, -, rfl⟩ := closeBy_some closed
    exact knows old earlier (congrArg Prod.fst sameKey)

theorem recordPosition_disputed (member : tracked ∈ look.positions) (own : tracked.link.account = look.account)
    (knows : look.Knows tables rows) (failed : look.recordPosition rows tracked = .error failure) :
    tables.Disputed look := by
  have refused : insertOr ObservationRow.key (look.seeAgain tracked) (look.seenRow tracked) rows = none := by
    rw [Option.eq_none_iff_forall_ne_some]
    intro after done
    rw [recordPosition_ok.mpr ⟨own, done⟩] at failed
    cases failed
  obtain ⟨old, present, sameKey, stays⟩ := insertOr_none refused
  obtain ⟨timely, claimed⟩ := knows old present (congrArg Prod.fst sameKey)
  refine ⟨_, seen_claimed member, _, claimed, congrArg Prod.snd sameKey, fun same => ?_⟩
  have sameTrade : old.tradeId = tracked.link.tradeId := congrArg Prod.fst same
  unfold Look.seeAgain at stays
  rw [if_pos ⟨sameTrade, timely⟩] at stays
  cases stays

theorem recordExit_disputed (member : entry ∈ look.exits) (own : entry.1.account = look.account)
    (named : entry.1.brokerPositionId = some entry.2.brokerTradeId) (knows : look.Knows tables rows)
    (failed : look.recordExit rows entry = .error failure) : tables.Disputed look := by
  have refused : insertOr ObservationRow.key (ObservationRow.closeBy entry.1 entry.2)
      (look.closedRow entry.1 entry.2) rows = none := by
    rw [Option.eq_none_iff_forall_ne_some]
    intro after done
    rw [recordExit_ok.mpr ⟨own, named, done⟩] at failed
    cases failed
  obtain ⟨old, present, sameKey, stays⟩ := insertOr_none refused
  refine ⟨_, closed_claimed member, _, (knows old present (congrArg Prod.fst sameKey)).2,
    congrArg Prod.snd sameKey, fun same => ?_⟩
  unfold ObservationRow.closeBy at stays
  rw [if_pos ⟨congrArg Prod.fst same, congrArg Prod.snd same⟩] at stays
  cases stays

theorem markMissing_knows {history : History} (sound : history.Sound)
    (fresh : history.tables.newer look.accountKey look.now = false) :
    look.Knows history.tables (history.tables.observations.map (·.markMissing look.accountKey look.now)) := by
  intro row member own
  obtain ⟨old, present, rfl⟩ := List.mem_map.mp member
  have kept := markMissing_kept look.accountKey look.now old
  have sameKey := markMissing_key look.accountKey look.now old
  have oldOwn : old.account = look.accountKey := (congrArg Prod.fst sameKey).symm.trans own
  have unmoved : (old.markMissing look.accountKey look.now).observedAt = old.observedAt := by
    unfold ObservationRow.markMissing
    split
    · rfl
    · rfl
  have sameClaim : (old.markMissing look.accountKey look.now).claim = old.claim := by
    unfold ObservationRow.claim
    rw [kept.tradeId, kept.orderId, show (old.markMissing look.accountKey look.now).positionId = old.positionId from
      congrArg Prod.snd sameKey]
  refine ⟨unmoved ▸ sound.observed_le fresh present oldOwn, List.mem_append_left _ ?_⟩
  rw [sameClaim]
  exact List.mem_map.mpr ⟨old, List.mem_filter.mpr ⟨present, decide_eq_true oldOwn⟩, rfl⟩

end

/-- A look whose entries are of its account and name their positions is refused over a dispute alone. -/
theorem History.Sound.refused {history : History} {look : Look} {failure : String} (sound : history.Sound)
    (positions : ∀ tracked ∈ look.positions, tracked.link.account = look.account)
    (exits : ∀ entry ∈ look.exits, entry.1.account = look.account ∧
      entry.1.brokerPositionId = some entry.2.brokerTradeId)
    (failed : history.tables.record look = .error failure) : history.tables.Disputed look := by
  unfold Tables.record at failed
  split at failed
  · cases failed
  · next current =>
    have start := markMissing_knows sound (Bool.not_eq_true _ ▸ current)
    have seenStep : ∀ tracked ∈ look.positions, ∀ before after, look.recordPosition before tracked = .ok after →
        look.Knows history.tables before → look.Knows history.tables after :=
      fun tracked member before after done knows => recordPosition_knows member done knows
    have closedStep : ∀ entry ∈ look.exits, ∀ before after, look.recordExit before entry = .ok after →
        look.Knows history.tables before → look.Knows history.tables after :=
      fun entry member before after done knows => recordExit_knows member done knows
    cases saw : look.positions.foldlM look.recordPosition
        (history.tables.observations.map (·.markMissing look.accountKey look.now)) with
    | error =>
      obtain ⟨tracked, member, before, knows, fails⟩ := foldlM_failed seenStep saw start
      exact recordPosition_disputed member (positions tracked member) knows fails
    | ok seen =>
      cases closed : look.exits.foldlM look.recordExit seen with
      | error =>
        obtain ⟨entry, member, before, knows, fails⟩ :=
          foldlM_failed closedStep closed (foldlM_carried seenStep saw start)
        obtain ⟨own, named⟩ := exits entry member
        exact recordExit_disputed member own named knows fails
      | ok observations =>
        dsimp only at failed
        rw [saw] at failed
        change (look.exits.foldlM look.recordExit seen >>= _) = _ at failed
        rw [closed] at failed
        cases failed

/-- A look at the broker over an account's links tells of a position only for the one trade whose
links match it, takes an exit only for a position its link does not contradict, and brings the tables
nothing they refuse, after any run, unless a position is claimed for two trades or orders. -/
theorem observed_recorded (events : List Event) (broker : Broker) (account : Option String)
    (links updated : List PositionLink) (observedAt : Int) (check : PositionCheck)
    (own : ∀ link ∈ links, link.account = account)
    (observed : observe broker links observedAt = .ok (updated, check)) :
    (∀ tracked ∈ check.positions, ∃ link ∈ updated,
        tracked.link = link.at tracked.snapshot.position.positionId ∧ link.matches tracked.snapshot.position ∧
        ∀ other ∈ updated, other.matches tracked.snapshot.position →
          other.account = link.account ∧ other.tradeId = link.tradeId) ∧
      check.Of links ∧
      ∀ failure, (run events).tables.record (check.look account) = .error failure →
        (run events).tables.Disputed (check.look account) := by
  unfold observe at observed
  simp only [bind_ok, pure_ok] at observed
  obtain ⟨snapshots, -, same⟩ := observed
  have start : ({ observedAt, positions := [], exits := [], warnings := [], cancelled := [] } : PositionCheck).Of
      links := ⟨fun entry member => (by cases member), fun link member => (by cases member)⟩
  obtain ⟨of, kept⟩ := observeLinks_of broker snapshots start (fun _ member => member) 0 own
  rw [Prod.mk.injEq] at same
  obtain ⟨rfl, rfl⟩ := same
  refine ⟨fun tracked member => (mem_matchPositions member).2, ⟨of.exits, of.cancelled⟩, fun failure refused => ?_⟩
  refine (run_sound events).refused (fun tracked member => ?_) (fun entry member => ?_) refused
  · obtain ⟨-, link, linked, written, -⟩ := mem_matchPositions member
    rw [written]
    exact kept link linked
  · obtain ⟨-, link, linked, written, -⟩ := of.exits entry member
    rw [written]
    exact ⟨own link linked, rfl⟩

/-- An order that filled, before its link knows the position. -/
def filledLink : PositionLink where
  account := some "demo"
  tradeId := "eurusd-1"
  instrument := "EUR_USD"
  direction := .long
  brokerOrderId := "41"
  brokerPositionId := none

def filledBroker : Broker where
  positionSnapshots := .ok [{
    position := {
      instrument := "EUR_USD", direction := .long, stopLoss := none, takeProfit := none, positionId := "42"
      orderId := "41", stake := 1000, entryPrice := none, openedAt := none }
    unrealizedPl := none
    currency := none }]
  lookupTradeExit _ _ _ _ := .ok none
  lookupAttemptState _ _ _ _ := .ok .pending

theorem observed_recorded_filled :
    ∃ updated check, observe filledBroker [filledLink] 7 = .ok (updated, check) ∧
      check.positions.map (·.link) = [filledLink.at "42"] ∧ check.Of [filledLink] ∧
      ∀ failure, (run []).tables.record (check.look (some "demo")) = .error failure →
        (run []).tables.Disputed (check.look (some "demo")) := by
  have own : ∀ link ∈ [filledLink], link.account = some "demo" := by simp [filledLink]
  refine ⟨_, _, rfl, rfl, ?_⟩
  exact (observed_recorded [] filledBroker (some "demo") [filledLink] _ 7 _ own rfl).2

end TradeControl.PositionTracking
