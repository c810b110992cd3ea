import Mathlib.Data.Rat.Encodable
import TradeControl.Breakeven
import TradeControl.CTrader.HistoryPages
import TradeControl.CTrader.SizedEntries
import TradeControl.CalendarBars
import TradeControl.Foundation.Checked
import TradeControl.Foundation.Loops
import TradeControl.Foundation.Picks
import TradeControl.Foundation.TokenSearch
import TradeControl.ParseAndVerify

namespace TradeControl.FillAttachment

open Foundation
open CTrader (Json)

/-! A fill that the broker proves is attached to the signed request it came of, and kept in three tables. -/

deriving instance DecidableEq for Breakeven, BreakevenSnapshot

/-- How a position was closed, with the broker's further evidence. -/
structure BrokerTradeExit where
  brokerTradeId : String
  details : List (String × Json)

/-- What the broker proves of one fill. -/
structure FillProof where
  account : String
  accountId : Int
  auditId : String
  instrument : String
  orderId : String
  positionId : String
  direction : Direction
  units : Rat
  entryPrice : Rat
  stopLoss : Rat
  takeProfit : Rat
  pipSize : Rat
  openedAt : Int
  requestedStopLoss : Rat
  requestedTakeProfit : Rat
  auditIntent : Json
  evidence : Json
  closedExit : Option BrokerTradeExit

/-- `EntryAttempt`, with the broker's ids as texts. -/
structure Attempt where
  tradeId : String
  account : Option String
  instrument : String
  attemptNo : Nat
  brokerOrderId : String
  brokerTradeId : Option String
  direction : Direction
  placedAt : Int
  shellTime : Int
  expiresAt : Int
  stopLossPrice : Option Rat
  adverseExtreme : Option Rat
  cancelAt : Option Int
  pipSize : Option Rat
  blackoutClose : BlackoutCloseAction
  breakeven : Option BreakevenSnapshot
  orderControl : Option OrderControlSnapshot
  superseded : Bool

structure Adoption where
  proof : FillProof
  requestId : String
  intentId : String
  attempt : Attempt

/-- A recorded webhook request. -/
structure RequestRecord where
  ts : String
  requestId : String
  body : Text
  intentId : Option String
  tradeId : Option String
  outcome : String

/-- A signed intent, with what attaching a fill reads of it beside the entry path's fields. -/
structure SignedIntent extends Intent where
  broker : BrokerKind
  account : Option String
  breakeven : Option Breakeven
  contractMultiplier : Option Rat

def isToken (c : Char) : Bool :=
  ('a' ≤ c && c ≤ 'z') || ('A' ≤ c && c ≤ 'Z') || ('0' ≤ c && c ≤ '9') || c ∈ ['-', '_', '.', ':']

/-- The audit id is in the outcome with no token letter next to it: of two overlapping places the later one is not
looked at. -/
def auditToken (outcome auditId : String) : Bool := searchAlone isToken auditId.toList outcome.toList

def same (left right : Rat) : Bool := |left - right| ≤ 1 / 10 ^ 10 * max (max |left| |right|) 1

def directionText : Direction → String
  | .long => "long"
  | .short => "short"

def validateProof (proof : FillProof) : Except String Unit := do
  ensure (proof.account ≠ "" ∧ proof.auditId ≠ "" ∧ proof.orderId ≠ "" ∧ proof.positionId ≠ "")
    "broker proof has missing identity"
  ensure (0 < proof.accountId ∧
      ∀ number ∈ [proof.units, proof.entryPrice, proof.stopLoss, proof.takeProfit, proof.pipSize], 0 < number)
    "broker proof has invalid quantities or protection"
  match proof.closedExit with
  | none => .ok ()
  | some exit => ensure (exit.brokerTradeId = proof.positionId) "closed fill refers to a different position"

def riskParts : CTrader.RiskBudget → String × Rat
  | .percent value => ("percent", value)
  | .amount value => ("amount", value)
  | .units value => ("units", value)

def matchAudit (resolved : Resolved) (risk : CTrader.RiskBudget) (proof : FillProof) : Except String Unit := do
  let audit := proof.auditIntent
  ensure ((audit.field "instrument").asStr = some proof.instrument ∧
      (audit.field "direction").asStr = some (directionText proof.direction) ∧
      (audit.field "entry_kind").asStr = some "market")
    "broker audit identity does not match signed request"
  let (riskKind, riskValue) := riskParts risk
  ensure ((audit.field "risk_kind").asStr = some riskKind) "broker audit risk mode differs from signed request"
  [("entry_price", resolved.entry.referencePrice), ("stop_loss", resolved.stopLoss),
      ("take_profit", resolved.takeProfit), ("risk_value", riskValue)].forM fun (name, expected) =>
    ensure ((audit.field name).asF64.any (same · expected) = true) s!"broker audit {name} differs from signed request"
  ensure (same resolved.stopLoss proof.requestedStopLoss = true ∧
      same resolved.takeProfit proof.requestedTakeProfit = true)
    "broker requested protection differs from signed request"

/-- The budget of the resolved request, over the geometry that its risk is checked on. -/
def resolvedRisk (rules : Rules) (intent : Intent) (shell : Shell) (resolved : Resolved) (pipSize : Rat) :
    Except ResolveError CTrader.RiskBudget :=
  let snapshot := { resolved with minR := minRFloor }
  match intent.riskAmount, intent.sizeUnits with
  | some amount, _ => .amount <$> rules.resolveRat "risk_amount" shell snapshot pipSize amount
  | none, some units => .units <$> rules.resolveRat "size_units" shell snapshot pipSize units
  | none, none => .percent <$> rules.resolveRat "risk_pct" shell snapshot pipSize intent.riskPct

/-- The serde code of a signed intent. -/
structure SignedSerde where
  serialize : SignedIntent → List (Text × Yaml)
  deserialize : List (Yaml × Yaml) → Option SignedIntent

def SignedSerde.code (serde : SignedSerde) : IntentCode SignedIntent :=
  { serde with
    v := (·.v), notBefore := (·.notBefore), notAfter := (·.notAfter), validate := (·.toIntent.validate) }

/-- What the requests are read with: the wire's crates, the rule engine and the reader of receipt times. -/
structure Readers (Tag : Type) where
  crates : WireCrates Tag
  serde : SignedSerde
  rules : Rules
  parseRfc3339 : String → Option Int

/-- The requests recorded for this trade under this audit id. -/
def matching (records : List RequestRecord) (tradeId auditId : String) : List RequestRecord :=
  records.filter fun record => record.tradeId = some tradeId && auditToken record.outcome auditId

section
variable {Tag : Type} [DecidableEq Tag] (readers : Readers Tag) (records : List RequestRecord) (key : List UInt8)
  (tradeId : String) (proof : FillProof) (now : Int)

def recover : Except String Adoption := do
  validateProof proof
  let matching := matching records tradeId proof.auditId
  let first ← required matching.head? "no recorded request bound to this trade and broker audit ID"
  ensure (∀ record ∈ matching, record.body = first.body)
    "multiple different signed requests are associated with this broker audit ID"
  let received ← required (readers.parseRfc3339 first.ts) "input contains invalid characters"
  let (shell, intent) ← (parseAndVerify readers.crates readers.serde.code first.body key received).mapError
    fun _ => "original request authentication failed"
  ensure (intent.action = .enter ∧ intent.broker = .ctrader) "original request is not a cTrader entry"
  ensure (intent.tradeId = some tradeId ∧ intent.account = some proof.account)
    "signed account or trade ID does not match broker proof"
  ensure (intent.instrument = proof.instrument ∧ intent.direction = some proof.direction)
    "signed instrument or direction does not match broker proof"
  ensure (first.intentId = some intent.id) "recorded intent ID does not match signed request"
  ensure (intent.entry = some .market ∧ intent.mw = none) "only ordinary filled market requests can be attached"
  ensure (intent.breakeven = none)
    "request contains break-even policy requiring an explicit verified timeframe; attachment refused"
  let pip ← required intent.pipSize "signed request has no native pip size"
  ensure (same pip proof.pipSize = true) "signed pip size does not match instrument metadata"
  let resolved ← (Resolved.fromIntent readers.rules intent.toIntent shell.shell pip
    (intent.tickSize.getD pip)).mapError fun _ => "original request resolution failed"
  let risk ← (resolvedRisk readers.rules intent.toIntent shell.shell resolved pip).mapError
    fun _ => "original request resolution failed"
  ensure (resolved.dryRun = false ∧ intent.contractMultiplier = none)
    "dry-run or futures request cannot own this fill"
  matchAudit resolved risk proof
  let attempt : Attempt :=
    { tradeId, account := some proof.account, instrument := proof.instrument, attemptNo := 1,
      brokerOrderId := proof.orderId, brokerTradeId := some proof.positionId, direction := proof.direction,
      placedAt := proof.openedAt, shellTime := shell.time,
      expiresAt := now + seconds (replayTtlSeconds intent.notAfter now), stopLossPrice := some proof.stopLoss,
      adverseExtreme := none, cancelAt := none, pipSize := some pip, blackoutClose := intent.blackoutClose,
      breakeven := none, orderControl := none, superseded := false }
  return { proof, requestId := first.requestId, intentId := intent.id, attempt }

end

/-- The body of an attempt row: an attempt, or a value that does not read as one. -/
inductive Body
  | entry (attempt : Attempt)
  | other (orderId positionId : Option String)

/-- `body->>'broker_order_id'`. -/
def Body.orderId : Body → Option String
  | .entry attempt => some attempt.brokerOrderId
  | .other orderId _ => orderId

/-- `body->>'broker_trade_id'`. -/
def Body.positionId : Body → Option String
  | .entry attempt => attempt.brokerTradeId
  | .other _ positionId => positionId

def Body.read : Body → Except String Attempt
  | .entry attempt => .ok attempt
  | .other _ _ => .error "attempt body does not read"

structure AttemptRow where
  account : Option String
  tradeId : String
  attemptNo : Nat
  body : Body

/-- What the unique index tells rows apart by. -/
def AttemptRow.key (row : AttemptRow) : String × String × Nat := (row.account.getD "", row.tradeId, row.attemptNo)

/-- A replay marker. -/
structure SeenRow where
  action : String
  seenAt : Option Int
  outcome : String
  tradeId : Option String
  expiresAt : Int

structure NoteRow where
  ts : Int
  correlationId : String
  account : Option String
  source : String
  severity : String
  message : String
  body : Json

/-- The three tables; a marker's id is its primary key. -/
structure Db where
  attempts : List AttemptRow
  seen : String → Option SeenRow
  notes : List NoteRow

/-- The calls of one transaction that can fail. -/
inductive Call
  | begin
  | lockTable
  | selectAttempts
  | insertAttempt
  | insertSeen
  | selectNote
  | insertNote
  | recheck
  | commit

/-- The server's and the broker's answers in one transaction, and which of several notes `LIMIT 1` takes. -/
structure Answers where
  fails : Call → Option String
  pick : Nat

def Answers.ask (answers : Answers) (call : Call) : Except String Unit :=
  match answers.fails call with
  | some message => .error message
  | none => .ok ()

/-- How times and values are written in a note. -/
structure Writers where
  toRfc3339 : Int → String
  showJson : Json → String

def BrokerTradeExit.json (execution : BrokerTradeExit) : Json :=
  .object (("broker_trade_id", .text execution.brokerTradeId) :: execution.details)

/-- `BrokerExit` as it is written. -/
def Adoption.brokerExit (adoption : Adoption) (execution : BrokerTradeExit) : Json :=
  .object [("broker_order_id", .text adoption.proof.orderId), ("attempt_no", .whole adoption.attempt.attemptNo),
    ("direction", .text (directionText adoption.proof.direction)), ("pip_size", .decimal adoption.proof.pipSize),
    ("execution", execution.json)]

def receipt (adoption : Adoption) : List (String × Json) :=
  let proof := adoption.proof
  [("version", .whole 1), ("operation", .text "keep-protection-attach"), ("account", .text proof.account),
    ("account_id", .whole proof.accountId), ("trade_id", .text adoption.attempt.tradeId),
    ("audit_id", .text proof.auditId), ("request_id", .text adoption.requestId),
    ("intent_id", .text adoption.intentId), ("order_id", .text proof.orderId),
    ("position_id", .text proof.positionId), ("stop_loss", .decimal proof.stopLoss),
    ("take_profit", .decimal proof.takeProfit), ("entry_price", .decimal proof.entryPrice),
    ("units", .decimal proof.units), ("closed_exit", (proof.closedExit.map BrokerTradeExit.json).getD .null),
    ("broker_evidence", proof.evidence)]

section
variable (adoption : Adoption)

/-- The rows of the account, the order or the position. -/
def selected (rows : List AttemptRow) : List AttemptRow :=
  rows.filter fun row => row.account = some adoption.proof.account ||
    row.body.orderId = some adoption.proof.orderId || row.body.positionId = some adoption.proof.positionId

def existingBinding (attempts : List Attempt) : Except String (Option Attempt) := do
  let expected := adoption.attempt
  let related := attempts.filter fun row =>
    (row.account = expected.account && row.tradeId = expected.tradeId) ||
      row.brokerOrderId = expected.brokerOrderId || row.brokerTradeId = expected.brokerTradeId
  ensure (related.length ≤ 1) "multiple entry attempts conflict with this broker fill"
  match related.head? with
  | none => return none
  | some row =>
    ensure (row.account = expected.account ∧ row.tradeId = expected.tradeId ∧
        row.attemptNo = expected.attemptNo ∧ row.instrument = expected.instrument ∧
        row.brokerOrderId = expected.brokerOrderId ∧ row.brokerTradeId = expected.brokerTradeId ∧
        row.direction = expected.direction ∧ row.placedAt = expected.placedAt ∧
        row.shellTime = expected.shellTime ∧ row.pipSize = expected.pipSize ∧
        row.blackoutClose = expected.blackoutClose ∧ row.breakeven = expected.breakeven ∧
        row.orderControl = expected.orderControl ∧ row.superseded = false)
      "entry attempt is already bound to conflicting broker identity or management policy"
    return some row

/-- The row of a new attempt. -/
def attemptRow : AttemptRow :=
  { account := some adoption.proof.account, tradeId := adoption.attempt.tradeId,
    attemptNo := adoption.attempt.attemptNo, body := .entry adoption.attempt }

/-- `INSERT INTO entry_attempt`, under its unique index. -/
def insertAttempt (rows : List AttemptRow) : Except String (List AttemptRow) := do
  ensure (∀ other ∈ rows, other.key ≠ (attemptRow adoption).key)
    "duplicate key value violates unique constraint \"entry_attempt_key\""
  return rows ++ [attemptRow adoption]

def insertUnbound (rows : List AttemptRow) (existing : Option Attempt) (answers : Answers) :
    Except String (List AttemptRow) :=
  match existing with
  | some _ => .ok rows
  | none => do
    answers.ask .insertAttempt
    insertAttempt adoption rows

def preserveSeen (seen : String → Option SeenRow) (now : Int) : Except String (String → Option SeenRow) :=
  match seen adoption.intentId with
  | none => .ok (Function.update seen adoption.intentId (some
      { action := "enter", seenAt := some now, outcome := "reconciled broker fill; do not resend",
        tradeId := some adoption.attempt.tradeId, expiresAt := adoption.attempt.expiresAt }))
  | some row =>
    if row.action = "enter" ∧ row.tradeId = some adoption.attempt.tradeId then
      .ok (Function.update seen adoption.intentId (some
        { row with expiresAt := max row.expiresAt adoption.attempt.expiresAt }))
    else .error "intent replay marker belongs to a different action or trade"

/-- `body->'broker_exit'->>'broker_order_id'`. -/
def exitOrder (writers : Writers) (body : Json) : Option String :=
  match (body.field "broker_exit").field "broker_order_id" with
  | .null => none
  | .text order => some order
  | value => some (writers.showJson value)

/-- `CronNote` as it is written, with the receipt beside its fields. -/
def noteBody (writers : Writers) (now : Int) (source message : String) : Json :=
  .object ([("ts", .text (writers.toRfc3339 now)), ("trade_id", .text adoption.attempt.tradeId),
      ("account", (adoption.attempt.account.map Json.text).getD .null), ("source", .text source),
      ("severity", .text "info"), ("message", .text message)] ++
    (adoption.proof.closedExit.map fun execution => ("broker_exit", adoption.brokerExit execution)).toList ++
    [("entry_reconciliation", .object (receipt adoption))])

/-- `INSERT INTO cron_notes`, where only one note may tell of an order's exit. -/
def insertNote (writers : Writers) (notes : List NoteRow) (note : NoteRow) : Except String (List NoteRow) := do
  ensure (∀ other ∈ notes, exitOrder writers note.body ≠ none →
      (other.account.getD "", other.correlationId, exitOrder writers other.body) ≠
        (note.account.getD "", note.correlationId, exitOrder writers note.body))
    "duplicate key value violates unique constraint \"cron_notes_broker_exit_key\""
  return notes ++ [note]

def recordNote (writers : Writers) (notes : List NoteRow) (now : Int) (answers : Answers) :
    Except String (List NoteRow) := do
  let source := "entry-reconciliation:" ++ adoption.proof.auditId
  answers.ask .selectNote
  let same := notes.filter fun note => note.account = some adoption.proof.account &&
    note.correlationId = adoption.attempt.tradeId && note.source = source
  match same[answers.pick % same.length]? with
  | some previous =>
    ["account", "account_id", "trade_id", "audit_id", "request_id", "intent_id", "order_id", "position_id"].forM
      fun field =>
        ensure ((previous.body.field "entry_reconciliation").field field = (Json.object (receipt adoption)).field field)
          s!"existing reconciliation note has a different {field} binding"
    return notes
  | none =>
    let message := "Accepted existing broker protection and attached tracking: " ++
      writers.showJson (.object (receipt adoption))
    answers.ask .insertNote
    insertNote writers notes
      { ts := now, correlationId := adoption.attempt.tradeId, account := adoption.attempt.account, source,
        severity := "info", message, body := noteBody adoption writers now source message }

variable (writers : Writers) (db : Db) (now : Int) (answers : Answers)

/-- The statements of the transaction up to its commit, on the tables as the transaction sees them. -/
def transaction : Except String Db := do
  answers.ask .begin
  answers.ask .lockTable
  answers.ask .selectAttempts
  let attempts ← (selected adoption db.attempts).mapM (·.body.read)
  let existing ← existingBinding adoption attempts
  let rows ← insertUnbound adoption db.attempts existing answers
  answers.ask .insertSeen
  let seen ← preserveSeen adoption db.seen now
  let notes ← recordNote adoption writers db.notes now answers
  answers.ask .recheck
  return { attempts := rows, seen, notes }

/-- `persist`, with the tables it leaves: a transaction that is dropped before its commit is rolled back. -/
def persist : Except String Json × Db :=
  match transaction adoption writers db now answers, answers.fails .commit with
  | .error message, _ => (.error message, db)
  | .ok _, some message => (.error message, db)
  | .ok written, none => (.ok (.object (receipt adoption ++ [("committed", .bool true)])), written)

end

/-- One call of `recover`. -/
structure Recovery where
  records : List RequestRecord
  key : List UInt8
  tradeId : String
  proof : FillProof
  now : Int

/-- What the management of a position writes of its attempt. -/
structure Managed where
  stopLossPrice : Option Rat
  adverseExtreme : Option Rat
  expiresAt : Int
  cancelAt : Option Int

def Body.manage (managed : Managed) : Body → Body
  | .entry attempt => .entry
    { attempt with stopLossPrice := managed.stopLossPrice, adverseExtreme := managed.adverseExtreme,
                   expiresAt := managed.expiresAt, cancelAt := managed.cancelAt }
  | body => body

def AttemptRow.manage (key : String × String × Nat) (managed : Managed) (row : AttemptRow) : AttemptRow :=
  if row.key = key then { row with body := row.body.manage managed } else row

section
variable {Tag : Type} [DecidableEq Tag] (readers : Readers Tag) (writers : Writers)

/-- A proof is recovered against the recorded requests, and what comes of it is persisted. -/
def attach (db : Db) (recovery : Recovery) (later : Int) (answers : Answers) : Except String Json × Db :=
  match recover readers recovery.records recovery.key recovery.tradeId recovery.proof recovery.now with
  | .error message => (.error message, db)
  | .ok adoption => persist adoption writers db later answers

/-- A step of the tables: a call for some proof, well answered or not, or a stop that moves. -/
inductive Step (db : Db) : Db → Prop
  | attach (recovery : Recovery) (later : Int) (answers : Answers) :
    Step db (attach readers writers db recovery later answers).2
  | manage (key : String × String × Nat) (managed : Managed) :
    Step db { db with attempts := db.attempts.map (·.manage key managed) }

/-- Tables that come of others by any calls. -/
def Run : Db → Db → Prop := Relation.ReflTransGen (Step readers writers)

end

/-- No order and no position is named by two rows. -/
def Exclusive (rows : List AttemptRow) : Prop :=
  AtMostOnce (·.body.orderId) rows ∧ AtMostOnce (·.body.positionId) rows

/-- The row is the adopted fill's: same account and trade, same order and position. -/
def Owns (adoption : Adoption) (row : AttemptRow) : Prop :=
  ∃ attempt, row.body = .entry attempt ∧ attempt.account = adoption.attempt.account ∧
    attempt.tradeId = adoption.attempt.tradeId ∧ attempt.brokerOrderId = adoption.attempt.brokerOrderId ∧
    attempt.brokerTradeId = adoption.attempt.brokerTradeId

theorem mapM_read {rows : List AttemptRow} {attempts : List Attempt}
    (read : rows.mapM (·.body.read) = .ok attempts) : rows.map (·.body) = attempts.map .entry := by
  induction rows generalizing attempts with
  | nil =>
    cases read
    rfl
  | cons row rest ih =>
    rw [List.mapM_cons, bind_ok] at read
    obtain ⟨attempt, first, read⟩ := read
    obtain ⟨later, others, read⟩ := bind_ok.mp read
    cases pure_ok.mp read
    have own : row.body = .entry attempt := by
      cases body : row.body with
      | entry held =>
        rw [body] at first
        cases first
        rfl
      | other orderId positionId =>
        rw [body] at first
        cases first
    rw [List.map_cons, List.map_cons, own, ih others]

section
variable {adoption : Adoption}

/-- What the proof says of the fill, the attempt says too. -/
structure Adoption.Coherent (adoption : Adoption) : Prop where
  account : adoption.attempt.account = some adoption.proof.account
  order : adoption.attempt.brokerOrderId = adoption.proof.orderId
  position : adoption.attempt.brokerTradeId = some adoption.proof.positionId

/-- The fill's binding is a row of its own account, trade, order and position; without one no attempt names the order
or the position. -/
theorem existingBinding_ok {attempts : List Attempt} {existing : Option Attempt}
    (bound : existingBinding adoption attempts = .ok existing) :
    match existing with
    | some row => row ∈ attempts ∧ row.account = adoption.attempt.account ∧
        row.tradeId = adoption.attempt.tradeId ∧ row.brokerOrderId = adoption.attempt.brokerOrderId ∧
        row.brokerTradeId = adoption.attempt.brokerTradeId
    | none => ∀ row ∈ attempts, row.brokerOrderId ≠ adoption.attempt.brokerOrderId ∧
        row.brokerTradeId ≠ adoption.attempt.brokerTradeId := by
  unfold existingBinding at bound
  obtain ⟨_, _, bound⟩ := bind_ok.mp bound
  split at bound
  next unrelated =>
    cases pure_ok.mp bound
    intro row member
    rw [List.head?_eq_none_iff, List.filter_eq_nil_iff] at unrelated
    have apart := unrelated row member
    simp only [Bool.or_eq_true, decide_eq_true_eq, not_or] at apart
    exact ⟨apart.1.2, apart.2⟩
  next row related =>
    obtain ⟨_, matching, bound⟩ := bind_ok.mp bound
    cases pure_ok.mp bound
    obtain ⟨account, tradeId, -, -, order, position, -⟩ := ensure_ok.mp matching
    exact ⟨(List.mem_filter.mp (List.mem_of_mem_head? related)).1, account, tradeId, order, position⟩

theorem preserveSeen_ok {seen seen' : String → Option SeenRow} {now : Int}
    (kept : preserveSeen adoption seen now = .ok seen') :
    ∃ marker, seen' = Function.update seen adoption.intentId (some marker) ∧ marker.action = "enter" ∧
      marker.tradeId = some adoption.attempt.tradeId ∧ adoption.attempt.expiresAt ≤ marker.expiresAt ∧
      ∀ earlier, seen adoption.intentId = some earlier → earlier.action = "enter" ∧
        earlier.tradeId = marker.tradeId ∧ earlier.expiresAt ≤ marker.expiresAt := by
  unfold preserveSeen at kept
  split at kept
  next unseen =>
    cases kept
    refine ⟨_, rfl, rfl, rfl, le_rfl, ?_⟩
    intro earlier held
    rw [unseen] at held
    cases held
  next row held =>
    split at kept
    next own =>
      cases kept
      refine ⟨_, rfl, own.1, own.2, le_max_right _ _, ?_⟩
      intro earlier same
      rw [held] at same
      cases same
      exact ⟨own.1, rfl, le_max_left _ _⟩
    next => cases kept

variable {writers : Writers} {db db' : Db} {now : Int} {answers : Answers}

/-- A transaction that comes to its commit keeps the replay marker, and it either finds the fill's own row and adds none
or adds one for an order and a position that no row names. -/
theorem transaction_ok (run : transaction adoption writers db now answers = .ok db') (coherent : adoption.Coherent) :
    preserveSeen adoption db.seen now = .ok db'.seen ∧
      ((db'.attempts = db.attempts ∧ ∃ row ∈ db.attempts, Owns adoption row) ∨
        (db'.attempts = db.attempts ++ [attemptRow adoption] ∧
          ∀ row ∈ db.attempts, row.body.orderId ≠ some adoption.proof.orderId ∧
            row.body.positionId ≠ some adoption.proof.positionId)) := by
  unfold transaction at run
  obtain ⟨_, _, run⟩ := bind_ok.mp run
  obtain ⟨_, _, run⟩ := bind_ok.mp run
  obtain ⟨_, _, run⟩ := bind_ok.mp run
  obtain ⟨attempts, read, run⟩ := bind_ok.mp run
  obtain ⟨existing, bound, run⟩ := bind_ok.mp run
  obtain ⟨rows, inserted, run⟩ := bind_ok.mp run
  obtain ⟨_, _, run⟩ := bind_ok.mp run
  obtain ⟨seen, kept, run⟩ := bind_ok.mp run
  obtain ⟨notes, _, run⟩ := bind_ok.mp run
  obtain ⟨_, _, run⟩ := bind_ok.mp run
  cases pure_ok.mp run
  refine ⟨kept, ?_⟩
  have bodies := mapM_read read
  have binding := existingBinding_ok bound
  cases existing with
  | some attempt =>
    cases pure_ok.mp inserted
    obtain ⟨member, same⟩ := binding
    have body : Body.entry attempt ∈ (selected adoption db.attempts).map (·.body) :=
      bodies ▸ List.mem_map_of_mem member
    obtain ⟨row, chosen, body⟩ := List.mem_map.mp body
    exact .inl ⟨rfl, row, (List.mem_filter.mp chosen).1, attempt, body, same⟩
  | none =>
    obtain ⟨_, _, inserted⟩ := bind_ok.mp inserted
    obtain ⟨_, _, inserted⟩ := bind_ok.mp inserted
    cases pure_ok.mp inserted
    refine .inr ⟨rfl, fun row member => ?_⟩
    by_contra named
    rw [← not_or, not_not] at named
    have chosen : row ∈ selected adoption db.attempts := by
      refine List.mem_filter.mpr ⟨member, ?_⟩
      simp only [Bool.or_eq_true, decide_eq_true_eq, or_assoc]
      exact .inr named
    have body : row.body ∈ attempts.map Body.entry := bodies ▸ List.mem_map_of_mem chosen
    obtain ⟨attempt, read, body⟩ := List.mem_map.mp body
    obtain ⟨otherOrder, otherPosition⟩ := binding attempt read
    rw [← body] at named
    rcases named with order | position
    · exact otherOrder ((Option.some.inj order).trans coherent.order.symm)
    · exact otherPosition (position.trans coherent.position.symm)

/-- A call either fails and leaves the tables, or commits its transaction. -/
theorem persist_cases (adoption : Adoption) (writers : Writers) (db : Db) (now : Int) (answers : Answers) :
    (∃ message, persist adoption writers db now answers = (.error message, db)) ∨
      ∃ receipt db', persist adoption writers db now answers = (.ok receipt, db') ∧
        transaction adoption writers db now answers = .ok db' := by
  unfold persist
  split
  next => exact .inl ⟨_, rfl⟩
  next => exact .inl ⟨_, rfl⟩
  next run _ => exact .inr ⟨_, _, rfl, run⟩

end

/-- The adoption is of one recorded request, signed with the key and fresh when it was received, that tells of the audit
id in its outcome; the trade has no other body under an id of token letters. -/
structure OfOneBody {Tag : Type} [DecidableEq Tag] (readers : Readers Tag) (recovery : Recovery)
    (adoption : Adoption) (record : RequestRecord) : Prop where
  recorded : record ∈ recovery.records
  trade : record.tradeId = some recovery.tradeId
  named : StandsAlone isToken recovery.proof.auditId.toList record.outcome.toList
  request : adoption.requestId = record.requestId
  signed : ∃ received shell intent, readers.parseRfc3339 record.ts = some received ∧
    parseAndVerify readers.crates readers.serde.code record.body recovery.key received = .ok (shell, intent) ∧
    intent.id = adoption.intentId ∧ intent.tradeId = some recovery.tradeId ∧
    intent.account = some recovery.proof.account
  only : (∀ letter ∈ recovery.proof.auditId.toList, isToken letter = true) →
    ∀ other ∈ recovery.records, other.tradeId = some recovery.tradeId →
      StandsAlone isToken recovery.proof.auditId.toList other.outcome.toList → other.body = record.body

section
variable {Tag : Type} [DecidableEq Tag] {readers : Readers Tag} {recovery : Recovery} {adoption : Adoption}

theorem recover_ok
    (run : recover readers recovery.records recovery.key recovery.tradeId recovery.proof recovery.now =
      .ok adoption) :
    adoption.Coherent ∧ adoption.attempt.tradeId = recovery.tradeId ∧ adoption.proof = recovery.proof ∧
      ∃ record, OfOneBody readers recovery adoption record := by
  unfold recover at run
  obtain ⟨_, valid, run⟩ := bind_ok.mp run
  obtain ⟨first, head, run⟩ := bind_ok.mp run
  obtain ⟨_, alike, run⟩ := bind_ok.mp run
  obtain ⟨received, time, run⟩ := bind_ok.mp run
  obtain ⟨⟨shell, intent⟩, verified, run⟩ := bind_ok.mp run
  obtain ⟨_, _, run⟩ := bind_ok.mp run
  obtain ⟨_, owner, run⟩ := bind_ok.mp run
  obtain ⟨_, _, run⟩ := bind_ok.mp run
  obtain ⟨_, recordedId, run⟩ := bind_ok.mp run
  obtain ⟨_, _, run⟩ := bind_ok.mp run
  obtain ⟨_, _, run⟩ := bind_ok.mp run
  obtain ⟨pip, _, run⟩ := bind_ok.mp run
  obtain ⟨_, _, run⟩ := bind_ok.mp run
  obtain ⟨resolved, _, run⟩ := bind_ok.mp run
  obtain ⟨risk, _, run⟩ := bind_ok.mp run
  obtain ⟨_, _, run⟩ := bind_ok.mp run
  obtain ⟨_, _, run⟩ := bind_ok.mp run
  cases pure_ok.mp run
  have identity : recovery.proof.auditId ≠ "" := by
    obtain ⟨_, named, _⟩ := bind_ok.mp valid
    exact (ensure_ok.mp named).2.1
  have letters : recovery.proof.auditId.toList ≠ [] := by
    intro empty
    exact identity (String.toList_eq_nil_iff.mp empty)
  obtain ⟨recorded, matched⟩ := List.mem_filter.mp (List.mem_of_mem_head? (required_ok.mp head))
  rw [Bool.and_eq_true, decide_eq_true_eq] at matched
  refine ⟨⟨rfl, rfl, rfl⟩, rfl, rfl, first, recorded, matched.1, standsAlone_of_searchAlone matched.2, rfl, ?_, ?_⟩
  · exact ⟨received, shell, intent, required_ok.mp time, mapError_ok.mp verified, rfl, ensure_ok.mp owner⟩
  · intro tokens other listed trade alone
    refine ensure_ok.mp alike other (List.mem_filter.mpr ⟨listed, ?_⟩)
    rw [Bool.and_eq_true, decide_eq_true_eq]
    exact ⟨trade, (searchAlone_iff tokens letters).mpr alone⟩

end

/-- Every replay marker is still there, for its own action and trade, and expires no sooner. -/
def MarkersKept (db db' : Db) : Prop :=
  ∀ id marker, db.seen id = some marker → ∃ marker', db'.seen id = some marker' ∧
    marker'.action = marker.action ∧ marker'.tradeId = marker.tradeId ∧ marker.expiresAt ≤ marker'.expiresAt

theorem MarkersKept.refl (db : Db) : MarkersKept db db := fun _ marker held => ⟨marker, held, rfl, rfl, le_rfl⟩

theorem MarkersKept.trans {first second third : Db} (earlier : MarkersKept first second)
    (later : MarkersKept second third) : MarkersKept first third := by
  intro id marker held
  obtain ⟨marker', held', action, trade, longer⟩ := earlier id marker held
  obtain ⟨marker'', held'', action', trade', longer'⟩ := later id marker' held'
  exact ⟨marker'', held'', action'.trans action, trade'.trans trade, longer.trans longer'⟩

section
variable {adoption : Adoption} {writers : Writers} {db db' : Db} {now : Int} {answers : Answers}

theorem transaction_markersKept (run : transaction adoption writers db now answers = .ok db')
    (coherent : adoption.Coherent) : MarkersKept db db' := by
  obtain ⟨marker, seen, action, -, -, longer⟩ := preserveSeen_ok (transaction_ok run coherent).1
  intro id earlier held
  rw [seen]
  by_cases own : id = adoption.intentId
  · subst own
    obtain ⟨enter, trade, bound⟩ := longer earlier held
    exact ⟨marker, Function.update_self .., action.trans enter.symm, trade.symm, bound⟩
  · exact ⟨earlier, by rw [Function.update_of_ne own, held], rfl, rfl, le_rfl⟩

theorem transaction_owned (run : transaction adoption writers db now answers = .ok db')
    (coherent : adoption.Coherent) : ∃ row ∈ db'.attempts, Owns adoption row := by
  obtain ⟨-, ⟨same, owned⟩ | ⟨added, -⟩⟩ := transaction_ok run coherent
  · rw [same]
    exact owned
  · refine ⟨attemptRow adoption, ?_, adoption.attempt, rfl, rfl, rfl, rfl, rfl⟩
    rw [added]
    exact List.mem_append_right _ List.mem_cons_self

theorem transaction_keeps (run : transaction adoption writers db now answers = .ok db')
    (coherent : adoption.Coherent) : ∀ row ∈ db.attempts, row ∈ db'.attempts := by
  intro row member
  obtain ⟨-, ⟨same, -⟩ | ⟨added, -⟩⟩ := transaction_ok run coherent
  · rw [same]
    exact member
  · rw [added]
    exact List.mem_append_left _ member

theorem transaction_exclusive (run : transaction adoption writers db now answers = .ok db')
    (coherent : adoption.Coherent) (exclusive : Exclusive db.attempts) : Exclusive db'.attempts := by
  obtain ⟨-, ⟨same, -⟩ | ⟨added, fresh⟩⟩ := transaction_ok run coherent
  · rw [same]
    exact exclusive
  · rw [added]
    refine ⟨exclusive.1.snoc fun other member _ => ?_, exclusive.2.snoc fun other member _ => ?_⟩
    · have own : (attemptRow adoption).body.orderId = some adoption.proof.orderId := congrArg some coherent.order
      rw [own]
      exact (fresh other member).1
    · have own : (attemptRow adoption).body.positionId = some adoption.proof.positionId := coherent.position
      rw [own]
      exact (fresh other member).2

/-- Where the fill's row is, a further call for it adds none and changes none. -/
theorem persist_again (coherent : adoption.Coherent) (owned : ∃ row ∈ db.attempts, Owns adoption row) :
    (persist adoption writers db now answers).2.attempts = db.attempts := by
  obtain ⟨message, failed⟩ | ⟨receipt, written, done, run⟩ := persist_cases adoption writers db now answers
  · rw [failed]
  · rw [done]
    obtain ⟨-, ⟨same, -⟩ | ⟨-, fresh⟩⟩ := transaction_ok run coherent
    · exact same
    · obtain ⟨row, member, attempt, body, -, -, order, -⟩ := owned
      have named : row.body.orderId = some adoption.proof.orderId := by
        rw [body]
        exact congrArg some (order.trans coherent.order)
      exact absurd named (fresh row member).1

end

section
variable (key : String × String × Nat) (managed : Managed) (row : AttemptRow)

@[simp] theorem AttemptRow.manage_orderId : (row.manage key managed).body.orderId = row.body.orderId := by
  unfold AttemptRow.manage
  split
  · cases row.body <;> rfl
  · rfl

@[simp] theorem AttemptRow.manage_positionId :
    (row.manage key managed).body.positionId = row.body.positionId := by
  unfold AttemptRow.manage
  split
  · cases row.body <;> rfl
  · rfl

theorem Owns.manage {adoption : Adoption} {row : AttemptRow} (owns : Owns adoption row) :
    Owns adoption (row.manage key managed) := by
  obtain ⟨attempt, body, same⟩ := owns
  unfold AttemptRow.manage
  split
  · exact ⟨_, congrArg (Body.manage managed) body, same⟩
  · exact ⟨attempt, body, same⟩

end

section
variable {Tag : Type} [DecidableEq Tag] {readers : Readers Tag} {writers : Writers} {db db' : Db}

/-- A call for a proof either fails and leaves the tables, or commits the transaction of what it recovered. -/
theorem attach_cases (readers : Readers Tag) (writers : Writers) (db : Db) (recovery : Recovery) (later : Int)
    (answers : Answers) :
    (∃ message, attach readers writers db recovery later answers = (.error message, db)) ∨
      ∃ adoption receipt db',
        recover readers recovery.records recovery.key recovery.tradeId recovery.proof recovery.now = .ok adoption ∧
        attach readers writers db recovery later answers = (.ok receipt, db') ∧
        transaction adoption writers db later answers = .ok db' := by
  unfold attach
  split
  next message _ => exact .inl ⟨message, rfl⟩
  next adoption recovered =>
    obtain failed | ⟨receipt, db', done, run⟩ := persist_cases adoption writers db later answers
    · exact .inl failed
    · exact .inr ⟨adoption, receipt, db', recovered, done, run⟩

theorem Step.exclusive (step : Step readers writers db db') (start : Exclusive db.attempts) :
    Exclusive db'.attempts := by
  cases step with
  | attach recovery later answers =>
    obtain ⟨message, failed⟩ | ⟨adoption, receipt, written, recovered, done, run⟩ :=
      attach_cases readers writers db recovery later answers
    · rw [failed]
      exact start
    · rw [done]
      exact transaction_exclusive run (recover_ok recovered).1 start
  | manage key managed =>
    refine ⟨fun order => ?_, fun position => ?_⟩
    · have kept := start.1 order
      simpa only [List.map_map, Function.comp_def, AttemptRow.manage_orderId] using kept
    · have kept := start.2 position
      simpa only [List.map_map, Function.comp_def, AttemptRow.manage_positionId] using kept

theorem Step.owned {adoption : Adoption} (step : Step readers writers db db')
    (owned : ∃ row ∈ db.attempts, Owns adoption row) : ∃ row ∈ db'.attempts, Owns adoption row := by
  obtain ⟨row, member, owns⟩ := owned
  cases step with
  | attach recovery later answers =>
    obtain ⟨message, failed⟩ | ⟨other, receipt, written, recovered, done, run⟩ :=
      attach_cases readers writers db recovery later answers
    · rw [failed]
      exact ⟨row, member, owns⟩
    · rw [done]
      exact ⟨row, transaction_keeps run (recover_ok recovered).1 row member, owns⟩
  | manage key managed => exact ⟨_, List.mem_map_of_mem member, owns.manage key managed⟩

theorem Step.markersKept (step : Step readers writers db db') : MarkersKept db db' := by
  cases step with
  | attach recovery later answers =>
    obtain ⟨message, failed⟩ | ⟨adoption, receipt, written, recovered, done, run⟩ :=
      attach_cases readers writers db recovery later answers
    · rw [failed]
      exact MarkersKept.refl db
    · rw [done]
      exact transaction_markersKept run (recover_ok recovered).1
  | manage key managed => exact MarkersKept.refl db

theorem Run.exclusive (run : Run readers writers db db') (start : Exclusive db.attempts) :
    Exclusive db'.attempts :=
  moves_invariant (Exclusive ·.attempts) run (fun _ _ step => step.exclusive) start

theorem Run.owned {adoption : Adoption} (run : Run readers writers db db')
    (owned : ∃ row ∈ db.attempts, Owns adoption row) : ∃ row ∈ db'.attempts, Owns adoption row :=
  moves_invariant (fun db => ∃ row ∈ db.attempts, Owns adoption row) run (fun _ _ step => step.owned) owned

theorem Run.markersKept (run : Run readers writers db db') : MarkersKept db db' :=
  moves_within MarkersKept MarkersKept.refl MarkersKept.trans (fun _ _ step => step.markersKept) run

/-- A committed attachment is of one signed body, has its row and its replay marker, and stays so: calls for it again
change no attempt, and the marker expires no sooner. -/
structure Attached (readers : Readers Tag) (writers : Writers) (recovery : Recovery) (attached : Db) : Prop where
  exclusive : Exclusive attached.attempts
  adopted : ∃ adoption record,
    recover readers recovery.records recovery.key recovery.tradeId recovery.proof recovery.now = .ok adoption ∧
    OfOneBody readers recovery adoption record ∧
    (∃ row ∈ attached.attempts, Owns adoption row) ∧
    (∃ marker, attached.seen adoption.intentId = some marker ∧ marker.action = "enter" ∧
      marker.tradeId = some recovery.tradeId ∧ adoption.attempt.expiresAt ≤ marker.expiresAt) ∧
    ∀ after, Run readers writers attached after → MarkersKept attached after ∧
      ∀ again answers, (persist adoption writers after again answers).2.attempts = after.attempts

/-- From tables without a shared order or position, whatever calls were made: no two attempts share one, no marker's
expiry went back, and the next call leaves the tables with an error or attaches its fill. -/
theorem attachments_exclusive_idempotent (start : Exclusive db.attempts) (run : Run readers writers db db')
    (recovery : Recovery) (later : Int) (answers : Answers) :
    Exclusive db'.attempts ∧ MarkersKept db db' ∧
      match attach readers writers db' recovery later answers with
      | (.error _, left) => left = db'
      | (.ok _, left) => Attached readers writers recovery left := by
  have exclusive := run.exclusive start
  refine ⟨exclusive, run.markersKept, ?_⟩
  obtain ⟨message, failed⟩ | ⟨adoption, receipt, written, recovered, done, committed⟩ :=
    attach_cases readers writers db' recovery later answers
  · rw [failed]
  · rw [done]
    obtain ⟨coherent, tradeId, -, record, body⟩ := recover_ok recovered
    have owned := transaction_owned committed coherent
    obtain ⟨marker, seen, action, trade, expiry, -⟩ := preserveSeen_ok (transaction_ok committed coherent).1
    refine ⟨transaction_exclusive committed coherent exclusive, adoption, record, recovered, body, owned,
      ⟨marker, ?_, action, trade.trans (congrArg some tradeId), expiry⟩, ?_⟩
    · rw [seen]
      exact Function.update_self ..
    · intro after further
      exact ⟨further.markersKept, fun again answers => persist_again coherent (further.owned owned)⟩

end

/-! A market entry whose placement was left in doubt, and the fill that the broker proves of it. -/

def entryInstant : Int := seconds 1793022025

/-- A text that stands for a number by its length. -/
def counted (code : Nat) : Text := 'n' :: List.replicate code '1'

theorem mem_counted {code : Nat} {c : Char} (member : c ∈ counted code) : c = 'n' ∨ c = '1' := by
  rcases List.mem_cons.mp member with first | one
  · exact .inl first
  · exact .inr (List.eq_of_mem_replicate one)

theorem counted_flowWord (code : Nat) : flowWord (counted code) = true := by
  unfold flowWord
  have plain : startsPlain (counted code) = true := by
    simp only [startsPlain, counted, Bool.and_eq_true, Bool.or_eq_true]
    exact ⟨⟨by decide, by decide⟩, .inl (by decide)⟩
  have flow : (counted code).all flowChar = true := by
    rw [List.all_eq_true]
    intro c member
    rcases mem_counted member with rfl | rfl <;> decide
  have last : (counted code).getLast?.any isBlank = false := by
    rw [Option.any_eq_false]
    intro c found
    rcases mem_counted (List.mem_of_getLast? found) with rfl | rfl <;> decide
  rw [plain, flow, last]
  rfl

/-- Texts of times: the entry's as it is written, any other by its number. -/
def countedTimes : TimeSyntax where
  text time := counted (Encodable.encode time)
  read text := if text.head? = some '2' then some entryInstant else Encodable.decode (text.length - 1)
  read_text time := by
    have other : (counted (Encodable.encode time)).head? ≠ some '2' := fun same =>
      absurd (Option.some.inj same) (by decide)
    rw [if_neg other, counted, List.length_cons, List.length_replicate, Nat.add_sub_cancel, Encodable.encodek]
  chars time := by
    refine ⟨List.cons_ne_nil _ _, fun c member => .inl ?_⟩
    rcases mem_counted member with rfl | rfl <;> decide

/-- Texts of numbers, by their number. -/
def countedNumbers : NumberSyntax where
  text number := counted (Encodable.encode (match number with
    | .int value => Sum.inl value
    | .float value => (Sum.inr value : Int ⊕ Rat)))
  read text := (Encodable.decode (text.length - 1)).map (Sum.elim YamlNumber.int YamlNumber.float)
  read_text number := by
    rw [counted, List.length_cons, List.length_replicate, Nat.add_sub_cancel, Encodable.encodek]
    cases number <;> rfl
  word number := counted_flowWord _

def entryTag : Text := "bxD6w7Gc4mnewQW5hY41kidkMLEy462jhQmgf6vqlgs=".toList

def entryFields : List (String × Yaml) :=
  [("close", .number (.float 1.9702)), ("high", .number (.float 1.9703)), ("low", .number (.float 1.9701)),
    ("time", .string "2026-10-26T13:40:25Z".toList), ("v", .number (.int 1)), ("action", .string "enter".toList),
    ("id", .string "pos-eurnzd-example-enter".toList), ("trade_id", .string "pos-eurnzd-example".toList),
    ("instrument", .string "EURNZD".toList), ("broker", .string "ctrader".toList),
    ("account", .string "ctrader-demo".toList), ("direction", .string "long".toList),
    ("entry", .mapping [(.string "type".toList, .string "market".toList)]),
    ("stop_loss", .mapping [(.string "absolute".toList, .number (.float 1.9686))]),
    ("take_profit", .mapping [(.string "absolute".toList, .number (.float 1.9739))]),
    ("risk_pct", .number (.float 1)), ("pip_size", .number (.float 0.0001)),
    ("not_after", .string "2026-10-26T14:00:00Z".toList), ("sig", .string ("v1-sig.".toList ++ entryTag))]

def entryIntent : SignedIntent :=
  { id := "pos-eurnzd-example-enter", notAfter := seconds 1793023200, instrument := "EURNZD",
    direction := some .long, entry := some .market, stopLoss := some (.absolute 1.9686),
    takeProfit := some (.anchored (.absolute 1.9739)), tradeId := some "pos-eurnzd-example",
    pipSize := some 0.0001, broker := .ctrader, account := some "ctrader-demo", breakeven := none,
    contractMultiplier := none }

/-- The crates as they answer on the entry's body. -/
def entryReaders : Readers Text where
  crates :=
    { sig := { mac := fun _ _ => entryTag, encode := id, decode := some }, numbers := countedNumbers,
      times := countedTimes,
      readYaml := fun _ => some (.mapping (entryFields.map fun field => (.string field.1.toList, field.2))),
      writeYaml := fun _ => [] }
  serde := { serialize := fun _ => [], deserialize := fun _ => some entryIntent }
  rules :=
    { naturals := fun _ _ => .error .parse, rationals := fun _ _ _ _ => .error .parse,
      booleans := fun _ _ _ _ => .error .parse }
  parseRfc3339 := fun _ => some entryInstant

def entryBody : Text :=
  joinLines <| (["close: 1.9702", "high: 1.9703", "low: 1.9701", "time: \"2026-10-26T13:40:25Z\"", "v: 1",
    "action: enter", "id: pos-eurnzd-example-enter", "trade_id: pos-eurnzd-example", "instrument: EURNZD",
    "broker: ctrader", "account: ctrader-demo", "direction: long", "entry: \x7btype: market\x7d",
    "stop_loss: \x7babsolute: 1.9686\x7d", "take_profit: \x7babsolute: 1.9739\x7d", "risk_pct: 1.0",
    "pip_size: 0.0001", "not_after: \"2026-10-26T14:00:00Z\""].map String.toList) ++
      ["sig: \"v1-sig.".toList ++ entryTag ++ ['"']]

def entryRecord (outcome : String) : RequestRecord :=
  { ts := "2026-10-26T13:40:25Z", requestId := "request-1", body := entryBody,
    intentId := some "pos-eurnzd-example-enter", tradeId := some "pos-eurnzd-example", outcome }

def entryProof (auditId : String) : FillProof where
  account := "ctrader-demo"
  accountId := 42
  auditId := auditId
  instrument := "EURNZD"
  orderId := "order-1"
  positionId := "position-1"
  direction := .long
  units := 1000
  entryPrice := 1.9704
  stopLoss := 1.9687
  takeProfit := 1.9740
  pipSize := 0.0001
  openedAt := seconds 1793022033
  requestedStopLoss := 1.9686
  requestedTakeProfit := 1.9739
  auditIntent := .object
    [("instrument", .text "EURNZD"), ("direction", .text "long"), ("entry_kind", .text "market"),
      ("entry_price", .decimal 1.9702), ("stop_loss", .decimal 1.9686), ("take_profit", .decimal 1.9739),
      ("risk_kind", .text "percent"), ("risk_value", .decimal 1)]
  evidence := .object [("source", .text "native broker test")]
  closedExit := none

def entryRecovery (auditId : String) (records : List RequestRecord) : Recovery :=
  { records, key := List.replicate 32 17, tradeId := "pos-eurnzd-example", proof := entryProof auditId,
    now := seconds 1793113200 }

def plainWriters : Writers := ⟨fun _ => "", fun _ => ""⟩

def emptyDb : Db := ⟨[], fun _ => none, []⟩

def answered : Answers := ⟨fun _ => none, 0⟩

def attachedEntry (recovery : Recovery) : Except String Json × Db :=
  attach entryReaders plainWriters emptyDb recovery recovery.now answered

def entryRecovered : Recovery := entryRecovery "manage-example" [entryRecord "ambiguous: audit_id=manage-example"]

theorem attachments_exclusive_idempotent_entry :
    Attached entryReaders plainWriters entryRecovered (attachedEntry entryRecovered).2 := by
  have start : Exclusive emptyDb.attempts := ⟨fun _ => Nat.zero_le _, fun _ => Nat.zero_le _⟩
  have run : Run entryReaders plainWriters emptyDb emptyDb := .refl
  obtain ⟨-, -, ended⟩ := attachments_exclusive_idempotent start run entryRecovered entryRecovered.now answered
  have attached : (attachedEntry entryRecovered).1.isOk = true := by decide +kernel
  change match attachedEntry entryRecovered with
    | (.error _, left) => left = emptyDb
    | (.ok _, left) => Attached entryReaders plainWriters entryRecovered left at ended
  cases found : attachedEntry entryRecovered with
  | mk answer left =>
    rw [found] at ended attached
    cases answer with
    | error message => cases attached
    | ok receipt => exact ended

/-- The audit id stands alone in the outcomes of one body's requests only. -/
def OneBody (recovery : Recovery) : Prop :=
  ∀ one ∈ recovery.records, ∀ other ∈ recovery.records,
    StandsAlone isToken recovery.proof.auditId.toList one.outcome.toList →
    StandsAlone isToken recovery.proof.auditId.toList other.outcome.toList → one.body = other.body

/-- The trade's own request, beside another trade's request with its audit id. -/
def besideOtherTrade : Recovery :=
  entryRecovery "manage-example" [entryRecord "ambiguous: audit_id=manage-example",
    { entryRecord "audit_id=manage-example" with body := "v: 1\n".toList, tradeId := some "pos-eurnzd-other" }]

/-- The trade's two requests, one with the audit id behind a text that it overlaps. -/
def besideOverlap : Recovery :=
  entryRecovery "b b" [entryRecord "audit_id=b b", { entryRecord "ab b b" with body := "v: 1\n".toList }]

/-- A fill is attached although another trade's request has its audit id too, and although the search runs past the
place where an id with a blank stands alone. -/
theorem attached_beside_other_body :
    ((attachedEntry besideOtherTrade).1.isOk = true ∧ ¬ OneBody besideOtherTrade) ∧
      (attachedEntry besideOverlap).1.isOk = true ∧ ¬ OneBody besideOverlap := by
  have different : entryBody ≠ "v: 1\n".toList := by decide +kernel
  refine ⟨⟨by decide +kernel, fun same => different ?_⟩, by decide +kernel, fun same => different ?_⟩
  · refine same _ List.mem_cons_self _ (List.mem_cons_of_mem _ List.mem_cons_self) ?_ ?_
    · exact standsAlone_of_searchAlone (by decide +kernel)
    · exact standsAlone_of_searchAlone (by decide +kernel)
  · refine same _ List.mem_cons_self _ (List.mem_cons_of_mem _ List.mem_cons_self) ?_ ?_
    · exact standsAlone_of_searchAlone (by decide +kernel)
    · exact ⟨"ab ".toList, [], by decide +kernel, by decide +kernel, rfl⟩

end TradeControl.FillAttachment
