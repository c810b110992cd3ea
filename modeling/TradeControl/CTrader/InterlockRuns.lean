import TradeControl.CTrader.Interlock
import TradeControl.CTrader.MarketReconcile

namespace TradeControl.CTrader

open Foundation

/-- An operation on the account that takes its lock. -/
inductive AccountOp
  | entry (intent : List (String × Json))
  | amend (matching : Bool) (key : String) (stop : Rat)
  | cancel (matching : Bool) (key : String)
  | cancelInstrument (instrument : String)
  | close (instrument : String)
  | reconcile (audit : String) (receipt : Json)

section
variable (world : Surroundings) (reads : AuditReads)

/-- All that happens in an operation that is not interrupted. -/
def AccountOp.events (op : AccountOp) (start : List Event) : List Event :=
  match op with
  | .entry intent => (placeEntry world intent start).2
  | .amend matching key stop => (amendStop world matching key stop start).2
  | .cancel matching key => (cancelOrder world matching key start).2
  | .cancelInstrument instrument => (CTrader.cancelInstrument world instrument start).2
  | .close instrument => (closeInstrument world instrument start).2
  | .reconcile audit receipt => (reconcileMarket world reads audit receipt start).2

/-- Operations under the account's exclusive lock, one after the other, each of which may be
stopped anywhere by a crash. -/
inductive AccountRun : List Event → Prop
  | start : AccountRun []
  | step {events stopped : List Event} (run : AccountRun events) (op : AccountOp)
      (begun : events <+: stopped) (stops : stopped <+: op.events world reads events) : AccountRun stopped

end

section
variable {world : Surroundings} {reads : AuditReads}

theorem AccountOp.sound (op : AccountOp) {start : List Event} (sound : Sound world start) :
    Sound world (op.events world reads start) := by
  cases op with
  | entry intent => exact placeEntry_sound intent sound
  | amend matching key stop => exact amendStop_sound matching key stop sound
  | cancel matching key => exact cancelOrder_sound matching key sound
  | cancelInstrument instrument => exact cancelInstrument_sound instrument sound
  | close instrument => exact closeInstrument_sound instrument sound
  | reconcile audit receipt => exact reconcileMarket_sound audit receipt sound

theorem AccountRun.sound {events : List Event} (run : AccountRun world reads events) : Sound world events := by
  induction run with
  | start => exact sound_nil
  | step run op begun stops ih => exact (op.sound ih).stopped stops

/-- Not a request to the account. -/
def Event.Harmless : Event → Prop
  | .sent _ _ => False
  | _ => True

/-- Not the settling of a journal. -/
def Event.Unsettling : Event → Prop
  | .wrote _ record _ => record.phase ≠ "resolved"
  | _ => True

section
variable {Result : Type} {allowed : Event → Prop}

theorem look_asks {answer : List Event → Except String Result} (looks : allowed .looked) : (look answer).Asks allowed :=
  Asking.asks_act fun _ => looks

theorem append_asks {id : String} {record : JournalRecord} (writes : ∀ written, allowed (.wrote id record written)) :
    (append world id record).Asks allowed :=
  Asking.asks_act fun _ => writes _

theorem inspect_asks {audit : String} (looks : allowed .looked) : (inspect world reads audit).Asks allowed := by
  unfold inspect
  refine Asking.asks_bind (look_asks looks) fun context => Asking.asks_bind (look_asks looks) fun _ =>
    Asking.asks_bind (look_asks looks) fun orderId => Asking.asks_bind (look_asks looks) fun detail =>
    Asking.asks_bind (Asking.asks_check _) fun _ => Asking.asks_bind (Asking.asks_check _) fun filled =>
    Asking.asks_bind (Asking.asks_check _) fun _ => Asking.asks_bind (Asking.asks_check _) fun positionId =>
    Asking.asks_bind (Asking.asks_check _) fun _ => Asking.asks_bind (look_asks looks) fun snapshot =>
    Asking.asks_bind (Asking.asks_check _) fun _ => Asking.asks_bind ?_ fun current => Asking.asks_check _
  unfold currentPosition
  split
  · exact Asking.asks_bind (Asking.asks_check _) fun row => Asking.asks_pure _
  · exact Asking.asks_bind (look_asks looks) fun exit => Asking.asks_bind (Asking.asks_check _) fun exit =>
      Asking.asks_pure _

end

/-- A reconciliation sends nothing to the account. -/
theorem reconcileMarket_asks (audit : String) (receipt : Json) :
    (reconcileMarket world reads audit receipt).Asks Event.Harmless := by
  unfold reconcileMarket
  exact Asking.asks_bind (Asking.asks_check _) fun _ => Asking.asks_bind (Asking.asks_act fun _ => trivial) fun _ =>
    Asking.asks_bind (look_asks trivial) fun _ => Asking.asks_bind (inspect_asks trivial) fun proof =>
    Asking.asks_bind (Asking.asks_check _) fun _ => Asking.asks_bind (inspect_asks trivial) fun current =>
    Asking.asks_bind (Asking.asks_check _) fun _ => Asking.asks_bind (append_asks fun _ => trivial) fun _ =>
    append_asks fun _ => trivial

theorem companionWrite_asks (operation : String) (intent : List (String × Json)) :
    (companionWrite world operation intent).Asks Event.Unsettling := by
  unfold companionWrite prepare
  exact Asking.asks_bind (Asking.asks_act fun _ => trivial) fun _ => Asking.asks_bind (look_asks trivial) fun id =>
    Asking.asks_bind (Asking.asks_bind (Asking.asks_act fun _ => trivial) fun _ =>
      append_asks fun _ => (by decide : "intent" ≠ "resolved")) fun _ => Asking.asks_pure _

theorem executeMarket_asks (id : String) (terms : Terms) (payload : Json) :
    (executeMarket world id terms payload).Asks Event.Unsettling := by
  intro start
  have plain := (execute_sound (auditedTransport world start id) terms payload).1.plain
  change ∃ new, requestEvents world start id (execute (auditedTransport world start id) terms payload).2 =
    start ++ new ∧ _
  generalize (execute (auditedTransport world start id) terms payload).2 = asked at plain
  induction asked using List.reverseRecOn with
  | nil => exact ⟨[], (List.append_nil start).symm, fun _ none_ => nomatch none_⟩
  | append_singleton earlier request ih =>
    obtain ⟨new, same, quiet⟩ := ih fun other listed => plain other (List.mem_append_left _ listed)
    have last := plain request (by simp)
    refine ⟨new ++ [requestEvent world (requestEvents world start id earlier) id request], ?_, fun event listed => ?_⟩
    · rw [requestEvents_snoc, same, List.append_assoc]
    · rcases List.mem_append.mp listed with before | here
      · exact quiet event before
      · rw [List.mem_singleton.mp here]
        cases request with
        | read kind response payload => trivial
        | mutate kind payload => trivial
        | note phase evidence => exact last

theorem keepOutcome_asks (result : Except EntryError Placement) :
    (keepOutcome world result).Asks Event.Unsettling := by
  unfold keepOutcome
  exact Asking.asks_bind (Asking.asks_attempt (look_asks trivial)) fun _ => Asking.asks_pure _

theorem placeWithClientId_asks (id : String) : (placeWithClientId world id).Asks Event.Unsettling := by
  unfold placeWithClientId
  refine Asking.asks_bind (look_asks trivial) fun planned => ?_
  cases planned with
  | error error => exact Asking.asks_pure _
  | ok plan =>
    cases plan with
    | market terms payload =>
      exact Asking.asks_bind (executeMarket_asks id terms payload) fun result => keepOutcome_asks result
    | pending payload cents price =>
      refine Asking.asks_bind ?_ fun result => keepOutcome_asks result
      exact Asking.asks_bind (Asking.asks_act fun _ => trivial) fun _ => Asking.asks_pure _

theorem amendOnce_asks (journal : String) (id : Int) (stop : Rat) :
    (amendOnce world journal id stop).Asks Event.Unsettling := by
  unfold amendOnce
  refine Asking.asks_bind (look_asks trivial) fun snapshot => Asking.asks_bind (Asking.asks_check _) fun _ =>
    Asking.asks_bind (look_asks trivial) fun detail => Asking.asks_bind (Asking.asks_check _) fun found => ?_
  cases found with
  | none => exact Asking.asks_pure _
  | some row =>
    exact Asking.asks_bind (look_asks trivial) fun _ => Asking.asks_bind (Asking.asks_check _) fun payload =>
      Asking.asks_bind (Asking.asks_act fun _ => trivial) fun answer => Asking.asks_bind (Asking.asks_check _) fun _ =>
      Asking.asks_bind (Asking.asks_check _) fun _ => Asking.asks_pure _

theorem recordUnconfirmed_asks (id : String) (evidence : Json) :
    (recordOutcome world id evidence false).Asks Event.Unsettling := by
  unfold recordOutcome
  exact Asking.asks_bind (append_asks fun _ => (by decide : "outcome" ≠ "resolved")) fun _ => Asking.asks_pure _

/-- Only such events are added to a history. -/
def Adds (allowed : Event → Prop) (start last : List Event) : Prop :=
  ∃ new, last = start ++ new ∧ ∀ event ∈ new, allowed event

theorem Adds.trans {allowed : Event → Prop} {start middle last : List Event} (first : Adds allowed start middle)
    (second : Adds allowed middle last) : Adds allowed start last := by
  obtain ⟨new, rfl, quiet⟩ := first
  obtain ⟨rest, rfl, quiet'⟩ := second
  exact ⟨new ++ rest, List.append_assoc _ _ _, fun event listed =>
    (List.mem_append.mp listed).elim (quiet event) (quiet' event)⟩

theorem adds_of_run {Failure Result : Type} {allowed : Event → Prop} {program : Asking Event Failure Result}
    (asks : program.Asks allowed) {start last : List Event} {result : Except Failure Result}
    (run : program start = (result, last)) : Adds allowed start last := by
  obtain ⟨new, same, quiet⟩ := asks start
  rw [run] at same
  exact ⟨new, same, quiet⟩

/-- An ambiguous entry settles nothing. -/
theorem placeEntry_ambiguous {intent : List (String × Json)} {start opened last : List Event} {id detail : String}
    (written : companionWrite world "open-api-entry" intent start = (.ok id, opened))
    (ambiguous : placeWithClientId world id opened = (.ok (.error (.ambiguousSuccess detail)), last)) :
    Adds Event.Unsettling start (placeEntry world intent start).2 := by
  refine (adds_of_run (companionWrite_asks _ _) written).trans ((adds_of_run (placeWithClientId_asks id) ambiguous).trans ?_)
  unfold placeEntry
  rw [Asking.bind_eq (Asking.attempt_eq written)]
  dsimp only
  rw [Asking.bind_eq ambiguous]
  refine (Asking.asks_bind (Asking.asks_attempt (recordUnconfirmed_asks id _)) fun recorded => ?_) last
  cases recorded with
  | ok _ => exact Asking.asks_pure _
  | error error => exact Asking.asks_pure _

/-- A transient amendment settles nothing. -/
theorem amendStop_transient {matching : Bool} {key journal error : String} {stop : Rat} {value : Int}
    {start opened last : List Event} (usable : matching = true ∧ 0 < stop)
    (named : (parseI64 key).filter (fun value => 0 < value) = some value)
    (written : companionWrite world "open-api-amend-stop"
      [("position_or_order_id", .text key), ("new_stop", .decimal stop)] start = (.ok journal, opened))
    (transient : amendOnce world journal value stop opened = (.error error, last)) :
    Adds Event.Unsettling start (amendStop world matching key stop start).2 := by
  refine (adds_of_run (companionWrite_asks _ _) written).trans ((adds_of_run (amendOnce_asks journal value stop) transient).trans ?_)
  unfold amendStop
  rw [if_neg (not_not.mpr usable), named]
  dsimp only
  rw [Asking.bind_eq (Asking.attempt_eq written)]
  dsimp only
  rw [Asking.bind_eq (Asking.attempt_eq transient)]
  refine (Asking.asks_bind (Asking.asks_attempt (recordUnconfirmed_asks journal _)) fun recorded => ?_) last
  cases recorded with
  | ok _ => exact Asking.asks_pure _
  | error error => exact Asking.asks_pure _

end

/-- In every run of operations on an account, with crashes and failed appends anywhere, a request
goes out only while the account's other journals are resolved, a journal is settled only on what
is known of its mutation, a reconciliation sends nothing, and neither an ambiguous entry nor a
transient amendment settles anything. -/
theorem accountRun_interlocked {world : Surroundings} {reads : AuditReads} {events : List Event}
    (run : AccountRun world reads events) :
    (∀ before id mutation after, events = before ++ .sent id mutation :: after → OthersResolved before id) ∧
    (∀ before id record written after, events = before ++ .wrote id record written :: after →
      record.phase = "resolved" → Known world before id) ∧
    (∀ audit receipt start, Adds Event.Harmless start (reconcileMarket world reads audit receipt start).2) ∧
    (∀ intent start opened last id detail,
      companionWrite world "open-api-entry" intent start = (.ok id, opened) →
      placeWithClientId world id opened = (.ok (.error (.ambiguousSuccess detail)), last) →
      Adds Event.Unsettling start (placeEntry world intent start).2) ∧
    (∀ key stop value start opened last journal error,
      0 < stop → (parseI64 key).filter (fun value => 0 < value) = some value →
      companionWrite world "open-api-amend-stop" [("position_or_order_id", .text key), ("new_stop", .decimal stop)]
        start = (.ok journal, opened) →
      amendOnce world journal value stop opened = (.error error, last) →
      Adds Event.Unsettling start (amendStop world true key stop start).2) := by
  have sound := run.sound
  refine ⟨fun before id mutation after same => sound before _ after same,
    fun before id record written after same => sound before _ after same,
    fun audit receipt start => adds_of_run (reconcileMarket_asks audit receipt) rfl, ?_, ?_⟩
  · intro intent start opened last id detail written ambiguous
    exact placeEntry_ambiguous written ambiguous
  · intro key stop value start opened last journal error positive named written transient
    exact amendStop_transient ⟨rfl, positive⟩ named written transient

/-- A pending order of the account. -/
def restingStop : Report where
  orderId := "7001"
  clientOrderId := some "entry-1"
  symbolId := some 1
  side := some .buy
  status := .new
  execType := "0"
  quantity := some 1000
  averagePrice := none
  cumulativeQuantity := some 0
  leavesQuantity := some 1000
  limitPrice := none
  stopPrice := some (11 / 10)
  positionId := none

def Event.isSent : Event → Bool
  | .sent _ _ => true
  | _ => false

/-- An account with that order, whose broker cancels it when asked and whose disk keeps what it is given. -/
def obedient : Surroundings where
  scan _ := .ok ()
  write _ _ _ := .whole
  freshId events := if events.any Event.isSent then "cancel-2" else "cancel-1"
  read _ _ _ _ := .error (.notSent "no Open API session")
  mutate _ _ _ := .error (.notSent "no Open API session")
  late _ := true
  pauses := 0
  errorText _ := "request failed"
  entryErrorText _ := "not placed"
  plan _ _ := .error (reject "no quote")
  keepOutcome _ _ := .ok ()
  stopTightens _ _ _ := .ok ()
  connect _ := .ok ()
  symbol _ _ := .ok 1
  orders events := .ok (if events.any Event.isSent then [] else [restingStop])
  positions _ := .ok []
  cancel _ _ := .ok (.accepted { restingStop with status := .cancelled, execType := "4" })
  place _ _ := .error "no position"
  outcomeJson _ := .null
  reportJson _ := .null
  ordersJson _ := .null
  positionsJson _ := .null

def noAudits : AuditReads where
  context _ _ := .error "no such audit"
  instrument _ _ := .ok ()
  findOrder _ _ := .error "no such order"
  tradeExit _ _ _ _ := .ok none
  account := "demo"
  accountId := 1

/-- Cancelling that order. -/
def obedientCancel : List Event := (AccountOp.cancel true "7001").events obedient noAudits []

theorem accountRun_interlocked_obedient :
    (obedientCancel.countP Event.isSent = 1 ∧
      ∃ file, journalOf obedientCancel "cancel-1" = some file ∧ scanJournal file false = .ok ()) ∧
    (∀ before id mutation after, obedientCancel = before ++ .sent id mutation :: after → OthersResolved before id) ∧
    ∀ before id record written after, obedientCancel = before ++ .wrote id record written :: after →
      record.phase = "resolved" → Known obedient before id :=
  have run : AccountRun obedient noAudits obedientCancel :=
    .step .start (.cancel true "7001") (List.nil_prefix) (List.prefix_refl _)
  ⟨⟨by decide +kernel, _, rfl, by rfl⟩, (accountRun_interlocked run).1, (accountRun_interlocked run).2.1⟩

end TradeControl.CTrader
