import TradeControl.CTrader.Interlock

namespace TradeControl.CTrader

open Foundation

section
variable {world : Surroundings} {id : String} {events : List Event}

/-- An amendment that is not transient is known: it was confirmed, or there was nothing to amend. -/
theorem amendOnce_ensures {key : Int} {stop : Rat} (writing : Writing world id events) (unsent : Unsent id events)
    {well : Bool → List Event → Prop}
    (passes : ∀ amended last, Sound world last → Known world last id → well amended last) :
    (amendOnce world id key stop).Ensures events well (Sound world) := by
  unfold amendOnce
  refine Asking.ensures_bind (look_writing writing fun snapshot _ writing => ?_)
  refine Asking.ensures_bind (check_ensures writing.sound fun _ _ => ?_)
  refine Asking.ensures_bind (look_writing writing fun detail _ writing => ?_)
  refine Asking.ensures_bind (check_ensures writing.sound fun found _ => ?_)
  have unsent' := unsent.looked.looked
  cases found with
  | none => exact Asking.ensures_pure (passes false _ writing.sound unsent'.known)
  | some row =>
    obtain ⟨isPosition, source⟩ := row
    refine Asking.ensures_bind (look_writing writing fun _ _ writing => ?_)
    refine Asking.ensures_bind (check_ensures writing.sound fun payload _ => ?_)
    refine Asking.ensures_bind (send_ensures writing fun writing => ?_)
    refine Asking.ensures_bind (check_ensures writing.sound fun response answered => ?_)
    refine Asking.ensures_bind (check_ensures writing.sound fun _ confirmed => ?_)
    exact Asking.ensures_pure (passes true _ writing.sound
      (.amended _ _ payload response source isPosition stop (List.prefix_refl _) (mapError_ok.mp answered) confirmed))

theorem amendStop_sound (matching : Bool) (key : String) (stop : Rat) (sound : Sound world events) :
    Sound world (amendStop world matching key stop events).2 := by
  refine Asking.Ensures.last ?_
  unfold amendStop
  split
  · exact Asking.ensures_pure sound
  split
  · exact Asking.ensures_pure sound
  refine Asking.ensures_bind (attempt_ensures (companionWrite_ensures sound fun id last writing unsent => ?_) ?_)
  · refine Asking.ensures_bind (attempt_ensures (amendOnce_ensures writing unsent
      fun amended last sound known => ?_) ?_)
    · refine Asking.ensures_bind (attempt_ensures (recordOutcome_ensures sound (fun _ => known)
        fun last sound => ?_) ?_)
      · exact Asking.ensures_pure sound
      · exact fun error last sound => Asking.ensures_pure sound
    · intro error last sound
      refine Asking.ensures_bind (attempt_ensures (recordOutcome_ensures sound (fun settled => nomatch settled)
        fun last sound => ?_) ?_)
      · exact Asking.ensures_pure sound
      · exact fun error last sound => Asking.ensures_pure sound
  · exact fun error last sound => Asking.ensures_pure sound

/-- A mutation's answer is recorded, and settles the journal where it refuses the mutation or
shows that it was not sent. -/
theorem recordAnswer_ensures {answer : Except String MutationOutcome} (sound : Sound world events)
    (refused : ∀ reason, answer = .ok (.rejected reason) → Known world events id)
    (failed : ∀ error, answer = .error error → Known world events id) {well : Unit → List Event → Prop}
    (passes : ∀ later, Sound world (events ++ later) → well () (events ++ later)) :
    (recordAnswer world id answer).Ensures events well (Sound world) := by
  unfold recordAnswer
  cases answer with
  | ok outcome =>
    refine Asking.ensures_bind (append_ensures sound (fun settles => absurd settles (by decide : "outcome" ≠ "resolved"))
      fun sound => ?_)
    cases outcome with
    | accepted report => exact Asking.ensures_pure (passes _ sound)
    | unknown id => exact Asking.ensures_pure (passes _ sound)
    | rejected reason =>
      refine append_ensures sound (fun _ => (refused reason rfl).snoc fun _ same => nomatch same) fun sound => ?_
      rw [List.append_assoc] at sound ⊢
      exact passes _ sound
  | error error =>
    refine Asking.ensures_bind (append_ensures sound (fun settles => absurd settles (by decide : "not_sent" ≠ "resolved"))
      fun sound => ?_)
    refine append_ensures sound (fun _ => (failed error rfl).snoc fun _ same => nomatch same) fun sound => ?_
    rw [List.append_assoc] at sound ⊢
    exact passes _ sound

theorem cancelExact_ensures (order : Report) (journals : List String) (sound : Sound world events)
    {well : Except String Unit × List String → List Event → Prop}
    (passes : ∀ result last, Sound world last → well result last) :
    (cancelExact world order journals).Ensures events well (Sound world) := by
  unfold cancelExact
  split
  · exact Asking.ensures_pure (passes _ _ sound)
  refine Asking.ensures_bind (look_ensures sound fun id _ sound => ?_)
  refine Asking.ensures_bind (attempt_ensures (prepare_ensures sound fun start writing _ => ?_) ?_)
  · refine Asking.ensures_bind (attempt_ensures ?_ fun _ last sound => Asking.ensures_pure (passes _ _ sound))
    refine Asking.ensures_bind (send_ensures writing fun writing => ?_)
    refine Asking.ensures_bind (recordAnswer_ensures writing.sound
      (fun reason same => .fixRefused start _ (List.prefix_refl _) (.inl ⟨_, rfl, reason, same⟩))
      (fun error same => .fixUnsent start _ (List.prefix_refl _) (.inl ⟨_, rfl, error, same⟩)) fun later sound => ?_)
    refine Asking.ensures_bind (check_ensures sound fun report answered => ?_)
    refine Asking.ensures_bind (check_ensures sound fun _ confirmed => ?_)
    refine Asking.ensures_bind (look_ensures sound fun remaining listed sound => ?_)
    refine Asking.ensures_bind (append_ensures sound
      (fun settles => absurd settles (by decide : "verification" ≠ "resolved")) fun sound => ?_)
    refine Asking.ensures_bind (check_ensures sound fun _ gone => ?_)
    refine resolve_ensures sound ?_ fun last sound => Asking.ensures_pure (passes _ _ sound)
    obtain ⟨outcome, answer, taken⟩ := bind_ok.mp answered
    obtain ⟨own, status⟩ := ensure_ok.mp confirmed
    cases outcome with
    | accepted report' =>
      cases taken
      exact .cancelled start _ _ report remaining (List.prefix_append _ _)
        ((List.prefix_append _ _).trans (List.prefix_append _ _)) answer status own listed (ensure_ok.mp gone)
    | rejected reason => cases taken
    | unknown id => cases taken
  · exact fun error last sound => Asking.ensures_pure (passes _ _ sound)

theorem closeExact_ensures (position : FixPosition) (journals : List String) (sound : Sound world events)
    {well : Except String Unit × List String → List Event → Prop}
    (passes : ∀ result last, Sound world last → well result last) :
    (closeExact world position journals).Ensures events well (Sound world) := by
  unfold closeExact
  refine Asking.ensures_bind (look_ensures sound fun id _ sound => ?_)
  split
  · exact Asking.ensures_pure (passes _ _ sound)
  next request ordered =>
  refine Asking.ensures_bind (attempt_ensures (prepare_ensures sound fun start writing _ => ?_) ?_)
  · refine Asking.ensures_bind (attempt_ensures ?_ fun _ last sound => Asking.ensures_pure (passes _ _ sound))
    refine Asking.ensures_bind (send_ensures writing fun writing => ?_)
    refine Asking.ensures_bind (recordAnswer_ensures writing.sound
      (fun reason same => .fixRefused start _ (List.prefix_refl _) (.inr ⟨_, rfl, reason, same⟩))
      (fun error same => .fixUnsent start _ (List.prefix_refl _) (.inr ⟨_, rfl, error, same⟩)) fun later sound => ?_)
    refine Asking.ensures_bind (check_ensures sound fun report answered => ?_)
    refine Asking.ensures_bind (look_ensures sound fun remaining listed sound => ?_)
    refine Asking.ensures_bind (append_ensures sound
      (fun settles => absurd settles (by decide : "verification" ≠ "resolved")) fun sound => ?_)
    refine Asking.ensures_bind (check_ensures sound fun _ confirmed => ?_)
    refine resolve_ensures sound ?_ fun last sound => Asking.ensures_pure (passes _ _ sound)
    obtain ⟨outcome, answer, taken⟩ := bind_ok.mp answered
    have own : request.positionId = position.positionId := by
      unfold closeOrder at ordered
      simp only [bind_ok, pure_ok] at ordered
      obtain ⟨_, -, rfl⟩ := ordered
      rfl
    cases outcome with
    | accepted report' =>
      cases taken
      exact .closed start _ _ position report remaining (List.prefix_append _ _)
        ((List.prefix_append _ _).trans (List.prefix_append _ _)) answer listed own confirmed
    | rejected reason => cases taken
    | unknown id => cases taken
  · exact fun error last sound => Asking.ensures_pure (passes _ _ sound)

theorem recordLogout_ensures (journals : List String) (sound : Sound world events)
    {well : Except String Unit → List Event → Prop} (passes : ∀ result last, Sound world last → well result last) :
    (recordLogout world journals).Ensures events well (Sound world) := by
  induction journals generalizing events well with
  | nil => exact Asking.ensures_pure (passes _ _ sound)
  | cons id rest ih =>
    unfold recordLogout
    refine Asking.ensures_bind (attempt_ensures (append_ensures sound
      (fun settles => absurd settles (by decide : "logout" ≠ "resolved")) fun sound => ?_) ?_)
    · exact Asking.ensures_bind (ih sound fun result last sound => Asking.ensures_pure (passes _ _ sound))
    · exact fun error last sound =>
        Asking.ensures_bind (ih sound fun result last sound => Asking.ensures_pure (passes _ _ sound))

theorem finish_ensures {Result : Type} (journals : List String) (result : Except String Result)
    (sound : Sound world events) :
    (finish world journals result).Ensures events (fun _ last => Sound world last) (Sound world) := by
  unfold finish
  exact Asking.ensures_bind (recordLogout_ensures journals sound fun _ last sound => Asking.ensures_pure sound)

theorem cancelEach_ensures (orders : List Report) (count : Nat) (journals : List String) (sound : Sound world events)
    {well : Nat × List String → List Event → Prop} (passes : ∀ result last, Sound world last → well result last) :
    (cancelEach world orders count journals).Ensures events well (Sound world) := by
  induction orders generalizing events count journals with
  | nil => exact Asking.ensures_pure (passes _ _ sound)
  | cons order rest ih =>
    unfold cancelEach
    refine Asking.ensures_bind (cancelExact_ensures order journals sound fun result last sound => ?_)
    obtain ⟨ended, journals⟩ := result
    cases ended with
    | error error => exact Asking.ensures_pure (passes _ _ sound)
    | ok _ => exact ih _ _ sound

theorem closeEach_ensures (positions : List FixPosition) (journals : List String) (sound : Sound world events)
    {well : Except String Unit × List String → List Event → Prop}
    (passes : ∀ result last, Sound world last → well result last) :
    (closeEach world positions journals).Ensures events well (Sound world) := by
  induction positions generalizing events journals with
  | nil => exact Asking.ensures_pure (passes _ _ sound)
  | cons position rest ih =>
    unfold closeEach
    refine Asking.ensures_bind (closeExact_ensures position journals sound fun result last sound => ?_)
    obtain ⟨ended, journals⟩ := result
    cases ended with
    | error error => exact Asking.ensures_pure (passes _ _ sound)
    | ok _ => exact ih _ sound

/-- Cancelling one order leaves the account's history sound, wherever it ends. -/
theorem cancelOrder_sound (matching : Bool) (key : String) (sound : Sound world events) :
    Sound world (cancelOrder world matching key events).2 := by
  refine Asking.Ensures.last ?_
  unfold cancelOrder
  refine Asking.ensures_bind (check_ensures sound fun _ _ => ?_)
  refine Asking.ensures_bind (check_ensures sound fun _ _ => ?_)
  refine Asking.ensures_bind (checkResolved_ensures sound fun _ sound => ?_)
  refine Asking.ensures_bind (look_ensures sound fun _ _ sound => ?_)
  refine Asking.ensures_bind (attempt_ensures (look_ensures sound fun orders _ sound => ?_)
    fun error last sound => finish_ensures _ _ sound)
  dsimp only
  split
  · exact finish_ensures _ _ sound
  · exact Asking.ensures_bind (cancelExact_ensures _ _ sound fun result last sound => finish_ensures _ _ sound)

theorem cancelInstrument_sound (instrument : String) (sound : Sound world events) :
    Sound world (cancelInstrument world instrument events).2 := by
  refine Asking.Ensures.last ?_
  unfold cancelInstrument
  refine Asking.ensures_bind (checkResolved_ensures sound fun _ sound => ?_)
  refine Asking.ensures_bind (look_ensures sound fun symbol _ sound => ?_)
  refine Asking.ensures_bind (look_ensures sound fun _ _ sound => ?_)
  refine Asking.ensures_bind (attempt_ensures (look_ensures sound fun orders _ sound => ?_)
    fun error last sound => finish_ensures _ _ sound)
  exact Asking.ensures_bind (cancelEach_ensures _ _ _ sound fun result last sound => finish_ensures _ _ sound)

theorem closeInstrument_sound (instrument : String) (sound : Sound world events) :
    Sound world (closeInstrument world instrument events).2 := by
  refine Asking.Ensures.last ?_
  unfold closeInstrument
  refine Asking.ensures_bind (checkResolved_ensures sound fun _ sound => ?_)
  refine Asking.ensures_bind (look_ensures sound fun symbol _ sound => ?_)
  refine Asking.ensures_bind (look_ensures sound fun _ _ sound => ?_)
  refine Asking.ensures_bind (attempt_ensures (look_ensures sound fun positions _ sound => ?_)
    fun error last sound => finish_ensures _ _ sound)
  dsimp only
  split
  · exact finish_ensures _ _ sound
  refine Asking.ensures_bind (closeEach_ensures _ _ sound fun result last sound => ?_)
  obtain ⟨ended, journals⟩ := result
  cases ended with
  | error error => exact finish_ensures _ _ sound
  | ok _ =>
    exact Asking.ensures_bind (attempt_ensures (look_ensures sound fun remaining _ sound => finish_ensures _ _ sound)
      fun error last sound => finish_ensures _ _ sound)

end

/-- What the journal of an entry says of it. -/
structure AuditContext where
  terms : Terms
  instrument : String
  orderId : Option Int
  lastPosition : Json

/-- What a reconciliation reads besides the broker's details and snapshots. -/
structure AuditReads where
  /-- `evidence::context` over the journal's records. -/
  context : List Event → String → Except String AuditContext
  /-- The broker's instrument is the audited one. -/
  instrument : List Event → AuditContext → Except String Unit
  findOrder : List Event → AuditContext → Except String Int
  /-- The position of a closed trade, where the history has one. -/
  tradeExit : List Event → String → Int → Int → Except String (Option String)
  account : String
  accountId : Int

structure ReconciliationProof where
  auditId : String
  instrument : String
  direction : Direction
  orderId : String
  positionId : String
  units : Rat
  entryPrice : Rat
  stopLoss : Rat
  takeProfit : Rat
  closedExit : Option String

/-- `broker::prove`: the position has the protection it shows. -/
def proveFill (context : AuditContext) (orderId : Int) (current : Json) (exit : Option String) :
    Except String ReconciliationProof := do
  let id ← integer current "positionId"
  let stop ← number current "stopLoss"
  let target ← number current "takeProfit"
  isProtected current { context.terms with stop, target } id context.terms.volume
  let _ ← integer (current.field "tradeData") "openTimestamp"
  let price ← number current "price"
  return {
    auditId := context.terms.clientId
    instrument := context.instrument
    direction := context.terms.direction
    orderId := toString orderId
    positionId := toString id
    units := context.terms.volume / 100
    entryPrice := price
    stopLoss := stop
    takeProfit := target
    closedExit := exit }

def ended (filled : Option Int) : Except String Int :=
  match filled with
  | some filled => .ok filled
  | none => .error "market order is not terminal; keep its audit interlock and inspect again"

/-- The exit of a position that is no longer open. -/
def provenExit (context : AuditContext) (positionId : Int) (exit : Option String) : Except String String := do
  match exit with
  | none => .error "position absent without confirmed closed history; reconciliation remains blocked"
  | some exit => do
    ensure (exit = toString positionId) "closed history position identity mismatch"
    let audited ← integer context.lastPosition "positionId"
    ensure (audited = positionId) "closed fill lacks its audited protection snapshot"
    return exit

/-- `evidence::unchanged`. -/
def unchanged (before current : ReconciliationProof) : Except String Unit :=
  ensure (before.auditId = current.auditId ∧ before.orderId = current.orderId ∧
    before.positionId = current.positionId ∧ before.instrument = current.instrument ∧
    before.direction = current.direction ∧ before.units = current.units ∧ before.entryPrice = current.entryPrice ∧
    before.stopLoss = current.stopLoss ∧ before.takeProfit = current.takeProfit ∧
    (before.closedExit.isNone ∨ current.closedExit.isSome))
    "broker position/protection changed during reconciliation; preview again"

/-- A field of the receipt has this number. -/
def statesNumber (receipt : Json) (key : String) (value : Rat) : Prop :=
  (number receipt key).toOption = some value

instance (receipt : Json) (key : String) (value : Rat) : Decidable (statesNumber receipt key value) :=
  inferInstanceAs (Decidable (_ = _))

/-- `evidence::receipt`: the management state of this fill was committed. -/
def receiptMatches (reads : AuditReads) (proof : ReconciliationProof) (receipt : Json) : Except String Unit :=
  ensure ((receipt.field "committed").asBool = some true ∧ (receipt.field "version").asI64 = some 1 ∧
    (receipt.field "operation").asStr = some "keep-protection-attach" ∧
    (∃ trade ∈ (receipt.field "trade_id").asStr, trade ≠ "") ∧
    (receipt.field "account").asStr = some reads.account ∧
    (integer receipt "account_id").toOption = some reads.accountId ∧
    (receipt.field "audit_id").asStr = some proof.auditId ∧ (receipt.field "order_id").asStr = some proof.orderId ∧
    (receipt.field "position_id").asStr = some proof.positionId ∧ statesNumber receipt "stop_loss" proof.stopLoss ∧
    statesNumber receipt "take_profit" proof.takeProfit ∧ statesNumber receipt "entry_price" proof.entryPrice ∧
    statesNumber receipt "units" proof.units)
    "reconciliation receipt does not prove the matching management state was committed"

def isAuditId (id : String) : Prop :=
  id ≠ "" ∧ id.utf8ByteSize ≤ 50 ∧ ∀ char ∈ id.toList, char.isAlphanum ∨ char ∈ ['-', '_', '.', ':']

instance (id : String) : Decidable (isAuditId id) := inferInstanceAs (Decidable (_ ∧ _ ∧ _))

section
variable (world : Surroundings) (reads : AuditReads)

/-- The position as the snapshot shows it, or as the journal last saw it if it is closed. -/
def currentPosition (context : AuditContext) (orderId positionId filled : Int) (snapshot : Json) :
    Journaled (Json × Option String) :=
  if positionRows snapshot positionId ≠ [] then do
    let row ← Asking.check (position snapshot context.terms orderId positionId filled)
    return (row, none)
  else do
    let exit ← look fun events => reads.tradeExit events context.instrument orderId positionId
    let exit ← Asking.check (provenExit context positionId exit)
    return (context.lastPosition, some exit)

/-- `broker::inspect`. -/
def inspect (audit : String) : Journaled ReconciliationProof := do
  let context ← look fun events => reads.context events audit
  look fun events => reads.instrument events context
  let orderId ← look fun events =>
    match context.orderId with
    | some id => .ok id
    | none => reads.findOrder events context
  let detail ← look fun events =>
    (world.read events 2181 2182 (orderRequest orderId)).mapError world.errorText
  Asking.check (account detail context.terms)
  let filled ← Asking.check (terminal detail context.terms orderId >>= ended)
  Asking.check (ensure (filled = context.terms.volume ∧
    isEnum (detail.field "order") "orderStatus" 2 "ORDER_STATUS_FILLED")
    "market reconciliation requires a proven full fill; never infer an entry from absence")
  let positionId ← Asking.check (integer (detail.field "order") "positionId")
  Asking.check (ensure (0 < positionId ∧ positionId ∉ context.terms.before)
    "market entry refers to a pre-existing position")
  let snapshot ← look fun events => (world.read events 2124 2125 snapshotRequest).mapError world.errorText
  Asking.check (validateSnapshot snapshot)
  let (current, exit) ← currentPosition reads context orderId positionId filled snapshot
  Asking.check (proveFill context orderId current exit)

/-- The journal of the audit id is there, in whole records (`Journal::resume`). -/
def resume (audit : String) (events : List Event) : Except String Unit :=
  match journalOf events audit with
  | some file => ensure (file.terminated = true ∧ file.lines.all Option.isSome) "invalid audit journal"
  | none => .error "audit journal not found"

/-- A market reconciliation from its lease to its resolution, with the receipt its caller comes
back with. -/
def reconcileMarket (audit : String) (receipt : Json) : Journaled Unit := do
  Asking.check (ensure (isAuditId audit) "invalid reconciliation audit ID")
  acquireLock world (some audit)
  look (resume audit)
  let proof ← inspect world reads audit
  Asking.check (receiptMatches reads proof receipt)
  let current ← inspect world reads audit
  Asking.check (unchanged proof current)
  append world audit { phase := "reconciliation-db-committed", evidence := receipt }
  append world audit
    { phase := "resolved", evidence := .object [("confirmed", .bool true), ("reconciliation", receipt)] }

end

section
variable {world : Surroundings} {reads : AuditReads} {events : List Event}

/-- An inspection that succeeds has read the order's full fill. -/
theorem inspect_ensures {audit : String} (sound : Sound world events)
    {well : ReconciliationProof → List Event → Prop}
    (passes : ∀ proof last, Sound world last → Known world last audit → well proof last) :
    (inspect world reads audit).Ensures events well (Sound world) := by
  unfold inspect
  refine Asking.ensures_bind (look_ensures sound fun context _ sound => ?_)
  refine Asking.ensures_bind (look_ensures sound fun _ _ sound => ?_)
  refine Asking.ensures_bind (look_ensures sound fun orderId _ sound => ?_)
  refine Asking.ensures_bind (look_ensures sound fun detail answered sound => ?_)
  refine Asking.ensures_bind (check_ensures sound fun _ _ => ?_)
  refine Asking.ensures_bind (check_ensures sound fun filled stated => ?_)
  refine Asking.ensures_bind (check_ensures sound fun _ full => ?_)
  refine Asking.ensures_bind (check_ensures sound fun positionId _ => ?_)
  refine Asking.ensures_bind (check_ensures sound fun _ _ => ?_)
  have known : Known world (events ++ [.looked] ++ [.looked] ++ [.looked] ++ [.looked]) audit := by
    obtain ⟨volume, terminated, same⟩ := bind_ok.mp stated
    obtain ⟨rfl, -⟩ := ensure_ok.mp full
    cases volume with
    | none => cases same
    | some volume =>
      cases same
      exact .reconciled _ context.terms orderId detail (List.prefix_append _ _) (mapError_ok.mp answered) terminated
  refine Asking.ensures_bind (look_ensures sound fun snapshot _ sound => ?_)
  refine Asking.ensures_bind (check_ensures sound fun _ _ => ?_)
  have known' := known.looked
  refine Asking.ensures_bind ?_
  unfold currentPosition
  split
  · refine Asking.ensures_bind (check_ensures sound fun row _ => Asking.ensures_pure ?_)
    exact check_ensures sound fun proof _ => passes proof _ sound known'
  · refine Asking.ensures_bind (look_ensures sound fun exit _ sound => ?_)
    refine Asking.ensures_bind (check_ensures sound fun exit _ => Asking.ensures_pure ?_)
    exact check_ensures sound fun proof _ => passes proof _ sound known'.looked

theorem reconcileMarket_sound (audit : String) (receipt : Json) (sound : Sound world events) :
    Sound world (reconcileMarket world reads audit receipt events).2 := by
  refine Asking.Ensures.last ?_
  unfold reconcileMarket
  refine Asking.ensures_bind (check_ensures sound fun _ _ => ?_)
  refine Asking.ensures_bind (checkResolved_ensures sound fun _ sound => ?_)
  refine Asking.ensures_bind (look_ensures sound fun _ _ sound => ?_)
  refine Asking.ensures_bind (inspect_ensures sound fun proof last sound _ => ?_)
  refine Asking.ensures_bind (check_ensures sound fun _ _ => ?_)
  refine Asking.ensures_bind (inspect_ensures sound fun current last sound known => ?_)
  refine Asking.ensures_bind (check_ensures sound fun _ _ => ?_)
  refine Asking.ensures_bind (append_ensures sound
    (fun settles => absurd settles (by decide : "reconciliation-db-committed" ≠ "resolved")) fun sound => ?_)
  exact append_ensures sound (fun _ => known.snoc fun _ same => nomatch same) fun sound => sound

end

end TradeControl.CTrader
