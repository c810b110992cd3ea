import TradeControl.CTrader.MarketEntry
import TradeControl.Foundation.Asking

namespace TradeControl.CTrader

open Foundation

structure JournalRecord where
  phase : String
  evidence : Json

/-- What an append leaves in the file: nothing, the record without its newline, or all of it. -/
inductive Written
  | nothing
  | unterminated
  | whole
  deriving DecidableEq

/-- A journal's lines, those that are no record among them, and whether the last one has ended. -/
structure JournalFile where
  lines : List (Option JournalRecord) := []
  terminated : Bool := false

def JournalFile.append (file : JournalFile) (record : JournalRecord) : Written → JournalFile
  | .nothing => file
  | written =>
    -- a record that follows an unfinished line spoils that line
    { lines :=
        if file.lines.isEmpty || file.terminated then file.lines ++ [some record]
        else file.lines.dropLast ++ [none]
      terminated := written = .whole }

def JournalRecord.confirms (record : JournalRecord) : Prop :=
  record.phase = "resolved" ∧ (record.evidence.field "confirmed").asBool = some true

instance (record : JournalRecord) : Decidable record.confirms := inferInstanceAs (Decidable (_ ∧ _))

def resolvedAfter (resolved : Bool) (record : JournalRecord) : Bool :=
  let resolved := if record.phase = "intent" then false else resolved
  if record.confirms then true else resolved

/-- A line of a journal in the scan of an account's directory. -/
def scanLine (resolved : Bool) : Option JournalRecord → Except String Bool
  | none => .error "invalid cTrader FIX audit evidence; no mutation sent"
  | some record => .ok (resolvedAfter resolved record)

def scanJournal (file : JournalFile) (allowed : Bool) : Except String Unit := do
  ensure file.terminated "incomplete cTrader FIX audit evidence; reconcile before further mutations"
  let resolved ← file.lines.foldlM scanLine false
  ensure (resolved ∨ allowed)
    "unresolved cTrader FIX mutation intent exists; reconcile its recorded client order ID before further mutations"

inductive OrderStatus
  | new
  | partiallyFilled
  | filled
  | cancelled
  | expired
  | rejected
  deriving DecidableEq

inductive Side
  | buy
  | sell
  deriving DecidableEq

/-- `ExecutionReport`. -/
structure Report where
  orderId : String
  clientOrderId : Option String
  symbolId : Option Nat
  side : Option Side
  status : OrderStatus
  execType : String
  quantity : Option Rat
  averagePrice : Option Rat
  cumulativeQuantity : Option Rat
  leavesQuantity : Option Rat
  limitPrice : Option Rat
  stopPrice : Option Rat
  positionId : Option String

structure FixPosition where
  positionId : String
  symbolId : Nat
  longQuantity : Rat
  shortQuantity : Rat

structure CancelOrder where
  clientOrderId : String
  originalClientOrderId : String
  orderId : String

/-- A market order that closes a position. -/
structure CloseOrder where
  clientOrderId : String
  symbolId : Nat
  side : Side
  quantity : Rat
  positionId : String

inductive MutationOutcome
  | accepted (report : Report)
  | rejected (reason : String)
  | unknown (clientOrderId : String)

/-- A request that changes the account. -/
inductive Mutation
  | openApi (kind : Nat) (payload : Json)
  | cancel (request : CancelOrder)
  | place (request : CloseOrder)

/-- What happens to an account: appends to its journals, requests that change it, and looks. -/
inductive Event
  | wrote (id : String) (record : JournalRecord) (written : Written)
  | sent (id : String) (mutation : Mutation)
  | looked

/-- What an entry comes to before it is sent. -/
inductive EntryPlan
  | market (terms : Terms) (payload : Json)
  | pending (payload : Json) (cents : Int) (price : Rat)

/-- The file system, the broker and the rest of the program: what they answer may depend on all
that has happened. -/
structure Surroundings where
  /-- The account's lock and the directory's files can be had. -/
  scan : List Event → Except String Unit
  write : List Event → String → JournalRecord → Written
  freshId : List Event → String
  read : List Event → Nat → Nat → Json → Except RequestError Json
  mutate : List Event → Nat → Json → Except RequestError Json
  late : List Event → Bool
  pauses : Nat
  errorText : RequestError → String
  entryErrorText : EntryError → String
  /-- What `entry::place_with_client_id` does before it sends. -/
  plan : List Event → String → Except EntryError EntryPlan
  /-- The account's protection keeps an entry's outcome. -/
  keepOutcome : List Event → Bool → Except String Unit
  /-- The account's protection lets a stop be moved. -/
  stopTightens : List Event → Json → Rat → Except String Unit
  connect : List Event → Except String Unit
  /-- The symbol of an instrument. -/
  symbol : List Event → String → Except String Nat
  orders : List Event → Except String (List Report)
  positions : List Event → Except String (List FixPosition)
  /-- An error is one from before the request was sent. -/
  cancel : List Event → CancelOrder → Except String MutationOutcome
  place : List Event → CloseOrder → Except String MutationOutcome
  outcomeJson : MutationOutcome → Json
  reportJson : Report → Json
  ordersJson : List Report → Json
  positionsJson : List FixPosition → Json

/-- A journal after so many events, if there is one. -/
def journalStep (id : String) (file : Option JournalFile) : Event → Option JournalFile
  | .wrote owner record written => if owner = id then some ((file.getD {}).append record written) else file
  | _ => file

def journalOf (events : List Event) (id : String) : Option JournalFile :=
  events.foldl (journalStep id) none

def Event.journal : Event → Option String
  | .wrote id _ _ => some id
  | _ => none

/-- `check_resolved_except`: the directory's journals are resolved, but for one that may be skipped. -/
def checkJournals (events : List Event) (allowed : Option String) : Except String Unit :=
  (events.filterMap Event.journal).forM fun id =>
    match journalOf events id with
    | some file => scanJournal file (allowed = some id)
    | none => .ok ()

abbrev Journaled := Asking Event String

section
variable (world : Surroundings)

def checkResolvedExcept (allowed : Option String) : Journaled Unit :=
  Asking.act fun events => (world.scan events >>= fun _ => checkJournals events allowed, .looked)

/-- Appends to a journal. -/
def append (id : String) (record : JournalRecord) : Journaled Unit :=
  Asking.act fun events =>
    (if world.write events id record = .whole then .ok () else .error "cTrader FIX journal append failed",
      .wrote id record (world.write events id record))

/-- Looks at something without a change. -/
def look {Result : Type} (answer : List Event → Except String Result) : Journaled Result :=
  Asking.act fun events => (answer events, .looked)

/-- Sends a request; whatever it is answered with is a result. -/
def send {Answer : Type} (id : String) (mutation : Mutation) (answer : List Event → Answer) : Journaled Answer :=
  Asking.act fun events => (.ok (answer events), .sent id mutation)

def acquireLock (allowed : Option String) : Journaled Unit := checkResolvedExcept world allowed

/-- `Mutation::prepare`. -/
def prepare (id : String) (intent : List (String × Json)) : Journaled Unit := do
  checkResolvedExcept world none
  append world id
    { phase := "intent", evidence := .object [("request", .object (("client_order_id", .text id) :: intent))] }

def resolve (id : String) (evidence : Json) : Journaled Unit :=
  append world id { phase := "resolved", evidence := .object [("confirmed", .bool true), ("evidence", evidence)] }

/-- `companion_write`: the lock and the intent that an Open API write goes with. -/
def companionWrite (operation : String) (intent : List (String × Json)) : Journaled String := do
  acquireLock world none
  let id ← look fun events => .ok (world.freshId events)
  prepare world id (intent ++ [("operation", .text operation)])
  return id

/-- `CompanionWrite::record`. -/
def recordOutcome (id : String) (evidence : Json) (confirmed : Bool) : Journaled Unit := do
  append world id { phase := "outcome", evidence }
  if confirmed then resolve world id evidence

end

end TradeControl.CTrader
