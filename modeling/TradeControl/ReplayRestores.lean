import TradeControl.Foundation.GuardedReach
import TradeControl.Foundation.RewriteFirst
import TradeControl.ReplayLedger

namespace TradeControl

open Foundation

/-! What the replay's broker takes a re-driven entry for, which comes to it without an id. -/

/-- What the replay's loop hands the broker before it dispatches an enter. -/
structure ArmedPlacement where
  orderId : String
  intent : Intent
  breakeven : Option Breakeven
  shell : Shell

structure PlacedAttempt extends PlacedTerms where
  orderId : String
  cancelled : Bool := false
  promotedFromPark : Bool := false

/-- The broker's lists: its attempts, the placement armed for the next enter, those that the gate parked, and
the book. -/
structure BrokerLedger where
  asOf : Int
  placed : List PlacedAttempt := []
  armed : Option ArmedPlacement := none
  parked : List ArmedPlacement := []
  book : ReplayBook := {}

/-- A call of `place_entry`; of the risk budget only a percentage is checked here. -/
structure PlaceCall where
  maxRiskPct : Rat
  maxOpenPositions : Nat
  riskPercent : Option Rat
  request : EntryRequest

def EntryRequest.levels (request : EntryRequest) : PlacedLevels where
  entry := request.entry
  stopLoss := request.stopLoss
  takeProfit := request.takeProfit

section
variable (broker : ReplayBroker)

def ReplayBroker.bracketOf (intent : Intent) (shell : Shell) : Except ResolveError Resolved :=
  Resolved.fromIntent broker.rules intent shell broker.pipSize (intent.tickSize.getD broker.pipSize)

/-- Whether `take_parked_matching` takes this one for the request. -/
def ReplayBroker.adopts (request : EntryRequest) (armed : ArmedPlacement) : Bool :=
  armed.intent.instrument == request.instrument &&
    match broker.bracketOf armed.intent armed.shell with
    | .error _ => false
    | .ok resolved => resolved.direction == request.direction

/-- Whether `reactivate_matching_cancelled` takes this one for the request. -/
def ReplayBroker.reactivates (request : EntryRequest) (attempt : PlacedAttempt) : Bool :=
  attempt.cancelled && attempt.intent.instrument == request.instrument &&
    match broker.bracketOf attempt.intent attempt.shell with
    | .error _ => false
    | .ok resolved => resolved.direction == request.direction && resolved.entry == request.entry

end

def PlacedAttempt.restoredAt (levels : PlacedLevels) (attempt : PlacedAttempt) : PlacedAttempt :=
  { attempt with cancelled := false, placed := some levels }

/-- A restored order is placed anew: it keeps its signal, and fills on no bar that it was held for. -/
def HeldOrder.restoredAt (levels : PlacedLevels) (asOf : Int) (order : HeldOrder) : HeldOrder :=
  { order with cancelled := false, placed := some levels, shell := { order.shell with time := asOf } }

/-- `record_attempt`, and the mark of a promotion. -/
def BrokerLedger.recordAttempt (ledger : BrokerLedger) (armed : ArmedPlacement) (levels : PlacedLevels)
    (promotedFromPark : Bool) : BrokerLedger :=
  let terms : PlacedTerms :=
    { intent := armed.intent, breakeven := armed.breakeven, shell := armed.shell, placed := some levels }
  let order : HeldOrder := { terms with orderId := armed.orderId }
  let attempt : PlacedAttempt := { terms with orderId := armed.orderId, promotedFromPark }
  { ledger with
    placed := ledger.placed ++ [attempt]
    book := { ledger.book with resting := ledger.book.resting ++ [order] } }

def BrokerLedger.armPlacement (ledger : BrokerLedger) (armed : ArmedPlacement) : BrokerLedger :=
  { ledger with armed := some armed }

def BrokerLedger.parkArmed (ledger : BrokerLedger) : BrokerLedger :=
  match ledger.armed with
  | none => ledger
  | some armed => { ledger with armed := none, parked := ledger.parked ++ [armed] }

def BrokerLedger.cancelOrder (ledger : BrokerLedger) (orderId : String) : BrokerLedger :=
  { ledger with
    placed := rewriteFirst (·.orderId == orderId) (fun attempt => { attempt with cancelled := true }) ledger.placed
    book :=
      { ledger.book with
        resting := rewriteFirst (·.orderId == orderId) (fun order => { order with cancelled := true })
          ledger.book.resting } }

/-- Only the resting orders learn of it, not the attempts. -/
def BrokerLedger.cancelPendingForInstrument (ledger : BrokerLedger) (instrument : String) : BrokerLedger :=
  { ledger with
    book :=
      { ledger.book with
        resting := ledger.book.resting.map fun order =>
          if !order.cancelled && order.intent.instrument.toLower == instrument.toLower then
            { order with cancelled := true }
          else order } }

def BrokerLedger.restore (ledger : BrokerLedger) (wanted : PlacedAttempt → Bool) (orderId : String)
    (levels : PlacedLevels) : BrokerLedger :=
  { ledger with
    placed := rewriteFirst wanted (PlacedAttempt.restoredAt levels) ledger.placed
    book :=
      { ledger.book with
        resting := rewriteFirst (·.orderId == orderId) (HeldOrder.restoredAt levels ledger.asOf)
          ledger.book.resting } }

section
variable (broker : ReplayBroker)

/-- A held read, which moves the book to the broker's clock first. -/
def ReplayBroker.lookedAt (ledger : BrokerLedger) : BrokerLedger :=
  { ledger with book := broker.advance ledger.asOf ledger.book }

def PlaceCall.overRisk (call : PlaceCall) : Bool :=
  call.riskPercent.any fun percent => decide (call.maxRiskPct < percent)

/-- `place_entry` past the caps. -/
def ReplayBroker.dispatch (request : EntryRequest) (ledger : BrokerLedger) :
    Except EntryError String × BrokerLedger :=
  match ledger.armed with
  | some armed => (.ok armed.orderId, { ledger with armed := none }.recordAttempt armed request.levels false)
  | none =>
    match ledger.placed.find? (broker.reactivates request) with
    | some matched =>
      (.ok matched.orderId, ledger.restore (broker.reactivates request) matched.orderId request.levels)
    | none =>
      match ledger.parked.find? (broker.adopts request) with
      | some armed =>
        let stamped := { armed with shell := { armed.shell with time := ledger.asOf } }
        (.ok armed.orderId,
          { ledger with parked := ledger.parked.eraseP (broker.adopts request) }.recordAttempt stamped
            request.levels true)
      | none => (.error .orderRejected, ledger)

def ReplayBroker.placeEntry (call : PlaceCall) (ledger : BrokerLedger) :
    Except EntryError String × BrokerLedger :=
  if call.overRisk then (.error .riskCapExceeded, ledger)
  else if call.maxOpenPositions ≤ (broker.lookedAt ledger).book.positions.length then
    (.error .openPositionsCapExceeded, broker.lookedAt ledger)
  else broker.dispatch call.request (broker.lookedAt ledger)

/-- The account's caps turn the call away. -/
def ReplayBroker.Capped (call : PlaceCall) (ledger : BrokerLedger) : Prop :=
  call.overRisk = true ∨ call.maxOpenPositions ≤ (broker.lookedAt ledger).book.positions.length

end

/-- The ledger, and what its callers remember of it: the orders held for a restore, and those that a retry gate
gave up for a fresher one. -/
structure TrackedLedger where
  ledger : BrokerLedger
  held : List String := []
  superseded : List String := []

/-- What the replay does to its broker. A re-drive stands for a held order and a promotion for a parked enter,
though neither says so to the broker. -/
inductive LedgerEvent
  | clock (asOf : Int)
  | look
  | place (armed : ArmedPlacement) (call : PlaceCall)
  | park (armed : ArmedPlacement)
  | reject (armed : ArmedPlacement)
  | supersede (orderId : String)
  | hold (orderId : String)
  | cancelPending (instrument : String)
  | redrive (orderId : String) (call : PlaceCall)
  | promote (orderId : String) (call : PlaceCall)

section
variable (broker : ReplayBroker)

def LedgerEvent.step (tracked : TrackedLedger) : LedgerEvent → TrackedLedger
  | .clock asOf => { tracked with ledger := { tracked.ledger with asOf } }
  | .look => { tracked with ledger := broker.lookedAt tracked.ledger }
  | .place armed call =>
    { tracked with ledger := (broker.placeEntry call (tracked.ledger.armPlacement armed)).2 }
  | .park armed => { tracked with ledger := (tracked.ledger.armPlacement armed).parkArmed }
  | .reject armed => { tracked with ledger := tracked.ledger.armPlacement armed }
  | .supersede orderId =>
    { tracked with
      ledger := tracked.ledger.cancelOrder orderId
      superseded := orderId :: tracked.superseded }
  | .hold orderId =>
    { tracked with ledger := tracked.ledger.cancelOrder orderId, held := orderId :: tracked.held }
  | .cancelPending instrument =>
    { tracked with ledger := tracked.ledger.cancelPendingForInstrument instrument }
  | .redrive orderId call =>
    let (answer, ledger) := broker.placeEntry call tracked.ledger
    { tracked with
      ledger
      held := if answer.isOk then tracked.held.filter (· != orderId) else tracked.held }
  | .promote _ call => { tracked with ledger := (broker.placeEntry call tracked.ledger).2 }

end

def BrokerLedger.ids (ledger : BrokerLedger) : List String :=
  ledger.placed.map (·.orderId) ++ ledger.parked.map (·.orderId)

/-- What the replay keeps to: a fire's id is its own, only a live resting order is cancelled, and what is released
was held or parked. -/
def LedgerEvent.Promised (tracked : TrackedLedger) : LedgerEvent → Prop
  | .clock _ | .look | .cancelPending _ => True
  | .place armed _ | .park armed | .reject armed => armed.orderId ∉ tracked.ledger.ids
  | .supersede orderId | .hold orderId =>
    ∃ order ∈ tracked.ledger.book.resting, order.orderId = orderId ∧ order.cancelled = false
  | .redrive orderId _ => orderId ∈ tracked.held
  | .promote orderId _ => orderId ∈ tracked.ledger.parked.map (·.orderId)

/-- The attempt a re-drive stands for is active again at the request's levels, and no other attempt or park has
changed. -/
structure Restores (before after : BrokerLedger) (orderId : String) (levels : PlacedLevels) : Prop where
  attempts : ∃ earlier own later, before.placed = earlier ++ own :: later ∧ own.orderId = orderId ∧
    after.placed = earlier ++ own.restoredAt levels :: later
  resting : ∃ order ∈ after.book.resting, order.orderId = orderId ∧ order.cancelled = false ∧
    order.placed = some levels
  parked : after.parked = before.parked

/-- The park a promotion stands for is an attempt now, and no other attempt or park has changed. -/
structure Promotes (before after : BrokerLedger) (orderId : String) (levels : PlacedLevels) : Prop where
  attempts : ∃ adopted : PlacedAttempt, after.placed = before.placed ++ [adopted] ∧ adopted.orderId = orderId ∧
    adopted.cancelled = false ∧ adopted.promotedFromPark = true ∧ adopted.placed = some levels
  parked : ∃ earlier own later, before.parked = earlier ++ own :: later ∧ own.orderId = orderId ∧
    after.parked = earlier ++ later

/-- A cap has answered, and no attempt or park has changed. -/
structure TurnedAway (before after : BrokerLedger) (answer : Except EntryError String) : Prop where
  capError : answer = .error .riskCapExceeded ∨ answer = .error .openPositionsCapExceeded
  placed : after.placed = before.placed
  parked : after.parked = before.parked

/-- What a retry gate gave up stays cancelled. -/
structure SupersededStay (tracked : TrackedLedger) : Prop where
  placed : ∀ attempt ∈ tracked.ledger.placed, attempt.orderId ∈ tracked.superseded → attempt.cancelled = true
  resting : ∀ order ∈ tracked.ledger.book.resting, order.orderId ∈ tracked.superseded → order.cancelled = true

section
variable (broker : ReplayBroker)

/-- A release answers with the id that is released and changes that one alone, unless a cap turns it away; a
fire's own enter adopts no park. -/
def LedgerEvent.RestoresOwn (tracked : TrackedLedger) (event : LedgerEvent) : Prop :=
  SupersededStay (event.step broker tracked) ∧
    match event with
    | .place armed call =>
      (broker.placeEntry call (tracked.ledger.armPlacement armed)).2.parked = tracked.ledger.parked
    | .redrive orderId call =>
      let (answer, after) := broker.placeEntry call tracked.ledger
      TurnedAway tracked.ledger after answer ∨
        answer = .ok orderId ∧ Restores tracked.ledger after orderId call.request.levels
    | .promote orderId call =>
      let (answer, after) := broker.placeEntry call tracked.ledger
      TurnedAway tracked.ledger after answer ∨
        answer = .ok orderId ∧ Promotes tracked.ledger after orderId call.request.levels
    | _ => True

/-- A release tells its order apart: nothing is armed, and of the cancelled attempts with the request's instrument,
direction and trigger the first is the one released; a promotion finds none of them, and its park first. -/
def LedgerEvent.ToldApart (tracked : TrackedLedger) : LedgerEvent → Prop
  | .redrive orderId call => broker.Capped call tracked.ledger ∨ tracked.ledger.armed = none ∧
      ∃ earlier own later, tracked.ledger.placed = earlier ++ own :: later ∧ own.orderId = orderId ∧
        broker.reactivates call.request own = true ∧
        ∀ attempt ∈ earlier, broker.reactivates call.request attempt = false
  | .promote orderId call => broker.Capped call tracked.ledger ∨ tracked.ledger.armed = none ∧
      (∀ attempt ∈ tracked.ledger.placed, broker.reactivates call.request attempt = false) ∧
      ∃ earlier own later, tracked.ledger.parked = earlier ++ own :: later ∧ own.orderId = orderId ∧
        broker.adopts call.request own = true ∧ ∀ armed ∈ earlier, broker.adopts call.request armed = false
  | _ => True

end

section
variable {broker : ReplayBroker} {upTo : Int} {book : ReplayBook} {order : HeldOrder}

theorem advanceResting_resting :
    (broker.advanceResting upTo book order).resting = book.resting ∨
      order.cancelled = false ∧
        (broker.advanceResting upTo book order).resting = (book.removeResting order.orderId).resting := by
  unfold ReplayBroker.advanceResting
  cases order.cancelled with
  | true => exact .inl rfl
  | false =>
    rw [if_neg Bool.false_ne_true]
    cases broker.stepOutcome order.toPlacedTerms upTo with
    | none => exact .inr ⟨rfl, rfl⟩
    | some seen =>
      obtain ⟨resolved, outcome⟩ := seen
      cases outcome with
      | neverFilled => exact .inl rfl
      | filledOpen | stoppedOut | tookProfit => exact .inr ⟨rfl, rfl⟩

theorem advanceOpen_resting (position : HeldPosition) :
    (broker.advanceOpen upTo book position).resting = book.resting := by
  unfold ReplayBroker.advanceOpen
  cases broker.stepOutcome position.toPlacedTerms upTo with
  | none => rfl
  | some seen =>
    obtain ⟨resolved, outcome⟩ := seen
    cases outcome with
    | neverFilled | filledOpen | stoppedOut | tookProfit => rfl

theorem foldl_advanceOpen_resting (positions : List HeldPosition) :
    (positions.foldl (broker.advanceOpen upTo) book).resting = book.resting := by
  induction positions generalizing book with
  | nil => rfl
  | cons position rest ih => rw [List.foldl_cons, ih, advanceOpen_resting]

theorem foldl_advanceResting_sublist (orders : List HeldOrder) :
    (orders.foldl (broker.advanceResting upTo) book).resting.Sublist book.resting := by
  induction orders generalizing book with
  | nil => exact List.Sublist.refl _
  | cons order rest ih =>
    refine List.Sublist.trans ih ?_
    rcases @advanceResting_resting broker upTo book order with same | ⟨-, left⟩
    · rw [same]
    · rw [left]
      exact List.filter_sublist

/-- No order takes a cancelled one of another id from the book. -/
theorem foldl_advanceResting_kept {orders : List HeldOrder} {held : HeldOrder} (member : held ∈ book.resting)
    (apart : ∀ order ∈ orders, order.cancelled = true ∨ order.orderId ≠ held.orderId) :
    held ∈ (orders.foldl (broker.advanceResting upTo) book).resting := by
  induction orders generalizing book with
  | nil => exact member
  | cons order rest ih =>
    refine ih ?_ fun later inRest => apart later (List.mem_cons_of_mem _ inRest)
    rcases @advanceResting_resting broker upTo book order with same | ⟨live, left⟩
    · rw [same]
      exact member
    · rw [left]
      refine List.mem_filter.mpr ⟨member, bne_iff_ne.mpr fun equal => ?_⟩
      rcases apart order List.mem_cons_self with cancelled | other
      · rw [cancelled] at live
        cases live
      · exact other equal.symm

theorem advance_resting_sublist : (broker.advance upTo book).resting.Sublist book.resting := by
  unfold ReplayBroker.advance
  rw [foldl_advanceOpen_resting]
  exact foldl_advanceResting_sublist book.resting

/-- A cancelled order rests on while the bars advance. -/
theorem advance_resting_cancelled (distinct : (book.resting.map (·.orderId)).Nodup)
    (member : order ∈ book.resting) (cancelled : order.cancelled = true) :
    order ∈ (broker.advance upTo book).resting := by
  unfold ReplayBroker.advance
  rw [foldl_advanceOpen_resting]
  refine foldl_advanceResting_kept member fun other inBook => ?_
  by_cases same : other.orderId = order.orderId
  · rw [List.inj_on_of_nodup_map distinct inBook member same]
    exact .inl cancelled
  · exact .inr same

end

/-- What the lists agree on: no id twice, none of the armed enter's, an attempt for every order, and every held
order still at rest. -/
structure LedgerSound (tracked : TrackedLedger) : Prop extends SupersededStay tracked where
  distinct : tracked.ledger.ids.Nodup
  armedFresh : ∀ armed, tracked.ledger.armed = some armed → armed.orderId ∉ tracked.ledger.ids
  restingPlaced : (tracked.ledger.book.resting.map (·.orderId)).Sublist (tracked.ledger.placed.map (·.orderId))
  supersededPlaced : ∀ orderId ∈ tracked.superseded, orderId ∈ tracked.ledger.placed.map (·.orderId)
  heldApart : ∀ orderId ∈ tracked.held, orderId ∉ tracked.superseded
  heldRest : ∀ orderId ∈ tracked.held,
    ∃ order ∈ tracked.ledger.book.resting, order.orderId = orderId ∧ order.cancelled = true

section
variable {broker : ReplayBroker} {tracked : TrackedLedger} {armed : ArmedPlacement} {orderId : String}
  {levels : PlacedLevels}

theorem LedgerSound.placedDistinct (sound : LedgerSound tracked) :
    (tracked.ledger.placed.map (·.orderId)).Nodup :=
  sound.distinct.of_append_left

theorem LedgerSound.restingDistinct (sound : LedgerSound tracked) :
    (tracked.ledger.book.resting.map (·.orderId)).Nodup :=
  sound.restingPlaced.nodup sound.placedDistinct

theorem LedgerSound.heldPlaced (sound : LedgerSound tracked) (held : orderId ∈ tracked.held) :
    orderId ∈ tracked.ledger.placed.map (·.orderId) := by
  obtain ⟨order, member, rfl, -⟩ := sound.heldRest orderId held
  exact sound.restingPlaced.subset (List.mem_map_of_mem member)

/-- An id that is new to the ledger is none that was superseded. -/
theorem LedgerSound.fresh_superseded (sound : LedgerSound tracked) (fresh : orderId ∉ tracked.ledger.ids) :
    orderId ∉ tracked.superseded :=
  fun member => fresh (List.mem_append_left _ (sound.supersededPlaced orderId member))

theorem LedgerSound.looked (sound : LedgerSound tracked) :
    LedgerSound { tracked with ledger := broker.lookedAt tracked.ledger } where
  placed := sound.placed
  resting order member := sound.resting order (advance_resting_sublist.subset member)
  distinct := sound.distinct
  armedFresh := sound.armedFresh
  restingPlaced := (advance_resting_sublist.map _).trans sound.restingPlaced
  supersededPlaced := sound.supersededPlaced
  heldApart := sound.heldApart
  heldRest orderId held := by
    obtain ⟨order, member, owned, cancelled⟩ := sound.heldRest orderId held
    exact ⟨order, advance_resting_cancelled sound.restingDistinct member cancelled, owned, cancelled⟩

theorem LedgerSound.arm (sound : LedgerSound tracked) (fresh : armed.orderId ∉ tracked.ledger.ids) :
    LedgerSound { tracked with ledger := tracked.ledger.armPlacement armed } where
  placed := sound.placed
  resting := sound.resting
  distinct := sound.distinct
  armedFresh other same := by
    cases same
    exact fresh
  restingPlaced := sound.restingPlaced
  supersededPlaced := sound.supersededPlaced
  heldApart := sound.heldApart
  heldRest := sound.heldRest

/-- The parked enters may come and go, while their ids stay apart from the others. -/
theorem LedgerSound.reparked (sound : LedgerSound tracked) {parked : List ArmedPlacement}
    (distinct : (tracked.ledger.placed.map (·.orderId) ++ parked.map (·.orderId)).Nodup) :
    LedgerSound { tracked with ledger := { tracked.ledger with armed := none, parked } } where
  placed := sound.placed
  resting := sound.resting
  distinct := distinct
  armedFresh _ none := by cases none
  restingPlaced := sound.restingPlaced
  supersededPlaced := sound.supersededPlaced
  heldApart := sound.heldApart
  heldRest := sound.heldRest

theorem LedgerSound.park (sound : LedgerSound tracked) (fresh : armed.orderId ∉ tracked.ledger.ids) :
    LedgerSound { tracked with ledger := (tracked.ledger.armPlacement armed).parkArmed } := by
  refine sound.reparked ?_
  rw [List.map_append, ← List.append_assoc]
  exact List.nodup_append.mpr ⟨sound.distinct, List.nodup_singleton _, fun one inIds other here same => fresh <| by
    rw [List.map_cons, List.map_nil, List.mem_singleton] at here
    rwa [← here, ← same]⟩

theorem LedgerSound.record (sound : LedgerSound tracked) (fresh : armed.orderId ∉ tracked.ledger.ids)
    (promoted : Bool) :
    LedgerSound
      { tracked with ledger := { tracked.ledger with armed := none }.recordAttempt armed levels promoted } where
  placed attempt member superseded := by
    rcases List.mem_append.mp member with old | new
    · exact sound.placed attempt old superseded
    · obtain rfl := List.mem_singleton.mp new
      exact absurd superseded (sound.fresh_superseded fresh)
  resting order member superseded := by
    rcases List.mem_append.mp member with old | new
    · exact sound.resting order old superseded
    · obtain rfl := List.mem_singleton.mp new
      exact absurd superseded (sound.fresh_superseded fresh)
  distinct := by
    have apart : (tracked.ledger.ids ++ [armed.orderId]).Nodup :=
      List.nodup_append.mpr ⟨sound.distinct, List.nodup_singleton _, fun one inIds other here same => fresh <| by
        rwa [← List.mem_singleton.mp here, ← same]⟩
    refine (List.Perm.nodup_iff ?_).mp apart
    unfold BrokerLedger.ids BrokerLedger.recordAttempt
    dsimp only
    rw [List.map_append, List.append_assoc, List.append_assoc]
    exact List.perm_append_comm.append_left _
  armedFresh _ none := by cases none
  restingPlaced := by
    unfold BrokerLedger.recordAttempt
    dsimp only
    rw [List.map_append, List.map_append]
    exact sound.restingPlaced.append (List.Sublist.refl _)
  supersededPlaced orderId superseded := by
    unfold BrokerLedger.recordAttempt
    dsimp only
    rw [List.map_append]
    exact List.mem_append_left _ (sound.supersededPlaced orderId superseded)
  heldApart := sound.heldApart
  heldRest orderId held := by
    obtain ⟨order, member, owned⟩ := sound.heldRest orderId held
    exact ⟨order, List.mem_append_left _ member, owned⟩

theorem cancelOrder_placed : (tracked.ledger.cancelOrder orderId).placed.map (·.orderId) =
    tracked.ledger.placed.map (·.orderId) :=
  map_rewriteFirst fun _ => rfl

theorem cancelOrder_resting : (tracked.ledger.cancelOrder orderId).book.resting.map (·.orderId) =
    tracked.ledger.book.resting.map (·.orderId) :=
  map_rewriteFirst fun _ => rfl

theorem cancelOrder_ids : (tracked.ledger.cancelOrder orderId).ids = tracked.ledger.ids :=
  congrArg (· ++ tracked.ledger.parked.map (·.orderId)) cancelOrder_placed

theorem LedgerSound.cancelled (sound : LedgerSound tracked) :
    LedgerSound { tracked with ledger := tracked.ledger.cancelOrder orderId } where
  placed attempt member superseded := by
    rcases mem_rewriteFirst member with old | ⟨old, -, -, rfl⟩
    · exact sound.placed attempt old superseded
    · rfl
  resting order member superseded := by
    rcases mem_rewriteFirst member with old | ⟨old, -, -, rfl⟩
    · exact sound.resting order old superseded
    · rfl
  distinct := by
    rw [cancelOrder_ids]
    exact sound.distinct
  armedFresh armed same := by
    rw [cancelOrder_ids]
    exact sound.armedFresh armed same
  restingPlaced := by
    rw [cancelOrder_placed, cancelOrder_resting]
    exact sound.restingPlaced
  supersededPlaced other superseded := by
    rw [cancelOrder_placed]
    exact sound.supersededPlaced other superseded
  heldApart := sound.heldApart
  heldRest other held := by
    obtain ⟨order, member, owned, down⟩ := sound.heldRest other held
    by_cases same : order.orderId = orderId
    · subst same
      exact ⟨_, rewriteFirst_of_key sound.restingDistinct member, owned, rfl⟩
    · exact ⟨order, mem_rewriteFirst_of_not member (beq_eq_false_iff_ne.mpr same), owned, down⟩

/-- A cancelled order can be given up for good, where no restore waits for it. -/
theorem LedgerSound.supersede (sound : LedgerSound tracked)
    (live : ∃ order ∈ tracked.ledger.book.resting, order.orderId = orderId ∧ order.cancelled = false) :
    LedgerSound
      { tracked with
        ledger := tracked.ledger.cancelOrder orderId
        superseded := orderId :: tracked.superseded } where
  placed attempt member superseded := by
    rcases List.mem_cons.mp superseded with own | earlier
    · obtain ⟨old, -, -, rfl⟩ := mem_rewriteFirst_key sound.placedDistinct member own
      rfl
    · exact sound.cancelled.placed attempt member earlier
  resting order member superseded := by
    rcases List.mem_cons.mp superseded with own | earlier
    · obtain ⟨old, -, -, rfl⟩ := mem_rewriteFirst_key sound.restingDistinct member own
      rfl
    · exact sound.cancelled.resting order member earlier
  distinct := sound.cancelled.distinct
  armedFresh := sound.cancelled.armedFresh
  restingPlaced := sound.cancelled.restingPlaced
  supersededPlaced other superseded := by
    rcases List.mem_cons.mp superseded with rfl | earlier
    · obtain ⟨order, member, rfl, -⟩ := live
      rw [cancelOrder_placed]
      exact sound.restingPlaced.subset (List.mem_map_of_mem member)
    · exact sound.cancelled.supersededPlaced other earlier
  heldApart other held superseded := by
    rcases List.mem_cons.mp superseded with rfl | earlier
    · obtain ⟨order, member, owned, up⟩ := live
      obtain ⟨down, inBook, same, cancelled⟩ := sound.heldRest other held
      rw [List.inj_on_of_nodup_map sound.restingDistinct member inBook (owned.trans same.symm), cancelled] at up
      cases up
    · exact sound.heldApart other held earlier
  heldRest := sound.cancelled.heldRest

theorem LedgerSound.hold (sound : LedgerSound tracked)
    (live : ∃ order ∈ tracked.ledger.book.resting, order.orderId = orderId ∧ order.cancelled = false) :
    LedgerSound
      { tracked with ledger := tracked.ledger.cancelOrder orderId, held := orderId :: tracked.held } where
  placed := sound.cancelled.placed
  resting := sound.cancelled.resting
  distinct := sound.cancelled.distinct
  armedFresh := sound.cancelled.armedFresh
  restingPlaced := sound.cancelled.restingPlaced
  supersededPlaced := sound.cancelled.supersededPlaced
  heldApart other held superseded := by
    rcases List.mem_cons.mp held with rfl | earlier
    · obtain ⟨order, member, rfl, up⟩ := live
      rw [sound.resting order member superseded] at up
      cases up
    · exact sound.heldApart other earlier superseded
  heldRest other held := by
    rcases List.mem_cons.mp held with rfl | earlier
    · obtain ⟨order, member, rfl, -⟩ := live
      exact ⟨_, rewriteFirst_of_key sound.restingDistinct member, rfl, rfl⟩
    · exact sound.cancelled.heldRest other earlier

theorem LedgerSound.cancelPending (sound : LedgerSound tracked) (instrument : String) :
    LedgerSound { tracked with ledger := tracked.ledger.cancelPendingForInstrument instrument } where
  placed := sound.placed
  resting order member superseded := by
    obtain ⟨old, present, rfl⟩ := List.mem_map.mp member
    split
    · rfl
    · next same =>
      rw [if_neg same] at superseded
      exact sound.resting old present superseded
  distinct := sound.distinct
  armedFresh := sound.armedFresh
  restingPlaced := by
    have same : (tracked.ledger.cancelPendingForInstrument instrument).book.resting.map (·.orderId) =
        tracked.ledger.book.resting.map (·.orderId) := by
      unfold BrokerLedger.cancelPendingForInstrument
      rw [List.map_map]
      refine List.map_congr_left fun order _ => ?_
      dsimp only [Function.comp_apply]
      split
      · rfl
      · rfl
    rw [same]
    exact sound.restingPlaced
  supersededPlaced := sound.supersededPlaced
  heldApart := sound.heldApart
  heldRest orderId held := by
    obtain ⟨order, member, owned, down⟩ := sound.heldRest orderId held
    refine ⟨order, List.mem_map.mpr ⟨order, member, ?_⟩, owned, down⟩
    rw [down]
    rfl

/-- A restore of the order that it is for. -/
theorem LedgerSound.restore (sound : LedgerSound tracked) (levels : PlacedLevels) {wanted : PlacedAttempt → Bool}
    {earlier later : List PlacedAttempt} {own : PlacedAttempt} (held : own.orderId ∈ tracked.held)
    (split : tracked.ledger.placed = earlier ++ own :: later) (found : wanted own = true)
    (passed : ∀ attempt ∈ earlier, wanted attempt = false) :
    LedgerSound
        { tracked with
          ledger := tracked.ledger.restore wanted own.orderId levels
          held := tracked.held.filter (· != own.orderId) } ∧
      Restores tracked.ledger (tracked.ledger.restore wanted own.orderId levels) own.orderId levels := by
  have placed : (tracked.ledger.restore wanted own.orderId levels).placed =
      earlier ++ own.restoredAt levels :: later := by
    unfold BrokerLedger.restore
    dsimp only
    rw [split, rewriteFirst_split passed found]
  have names : (tracked.ledger.restore wanted own.orderId levels).placed.map (·.orderId) =
      tracked.ledger.placed.map (·.orderId) := map_rewriteFirst fun _ => rfl
  have orders : (tracked.ledger.restore wanted own.orderId levels).book.resting.map (·.orderId) =
      tracked.ledger.book.resting.map (·.orderId) := map_rewriteFirst fun _ => rfl
  have ids : (tracked.ledger.restore wanted own.orderId levels).ids = tracked.ledger.ids :=
    congrArg (· ++ tracked.ledger.parked.map (·.orderId)) names
  have apart := sound.heldApart own.orderId held
  constructor
  · constructor
    case distinct =>
      rw [ids]
      exact sound.distinct
    case armedFresh =>
      intro armed same
      rw [ids]
      exact sound.armedFresh armed same
    case restingPlaced =>
      rw [names, orders]
      exact sound.restingPlaced
    case supersededPlaced =>
      intro other superseded
      rw [names]
      exact sound.supersededPlaced other superseded
    case heldApart => exact fun other stillHeld => sound.heldApart other (List.mem_of_mem_filter stillHeld)
    case heldRest =>
      intro other stillHeld
      obtain ⟨order, member, owned, down⟩ := sound.heldRest other (List.mem_of_mem_filter stillHeld)
      have differ : order.orderId ≠ own.orderId := by
        rw [owned]
        exact bne_iff_ne.mp (List.mem_filter.mp stillHeld).2
      exact ⟨order, mem_rewriteFirst_of_not member (beq_eq_false_iff_ne.mpr differ), owned, down⟩
    case toSupersededStay =>
      constructor
      · intro attempt member superseded
        rw [placed] at member
        have before : ∀ attempt ∈ earlier ++ own :: later, attempt.orderId ∈ tracked.superseded →
            attempt.cancelled = true := split ▸ sound.placed
        rcases List.mem_append.mp member with first | rest
        · exact before attempt (List.mem_append_left _ first) superseded
        · rcases List.mem_cons.mp rest with rfl | last
          · exact absurd superseded apart
          · exact before attempt (List.mem_append_right _ (List.mem_cons_of_mem _ last)) superseded
      · intro order member superseded
        rcases mem_rewriteFirst member with old | ⟨old, -, same, rfl⟩
        · exact sound.resting order old superseded
        · refine absurd superseded ?_
          change old.orderId ∉ _
          rw [eq_of_beq same]
          exact apart
  · obtain ⟨order, member, owned, -⟩ := sound.heldRest own.orderId held
    refine ⟨⟨earlier, own, later, split, rfl, placed⟩, ?_, rfl⟩
    refine ⟨order.restoredAt levels tracked.ledger.asOf, ?_, owned, rfl, rfl⟩
    unfold BrokerLedger.restore
    dsimp only
    rw [← owned]
    exact rewriteFirst_of_key sound.restingDistinct member

/-- A promotion of the park that it is for. -/
theorem LedgerSound.adopt (sound : LedgerSound tracked) (levels : PlacedLevels) {wanted : ArmedPlacement → Bool}
    {earlier later : List ArmedPlacement} {own : ArmedPlacement}
    (split : tracked.ledger.parked = earlier ++ own :: later) (found : wanted own = true)
    (passed : ∀ armed ∈ earlier, wanted armed = false) (idle : tracked.ledger.armed = none) (shell : Shell) :
    LedgerSound
        { tracked with
          ledger := { tracked.ledger with parked := tracked.ledger.parked.eraseP wanted }.recordAttempt
            { own with shell } levels true } ∧
      Promotes tracked.ledger ({ tracked.ledger with parked := tracked.ledger.parked.eraseP wanted }.recordAttempt
        { own with shell } levels true) own.orderId levels := by
  have left : tracked.ledger.parked.eraseP wanted = earlier ++ later := by
    rw [split, List.eraseP_append_right _ fun armed member => Bool.eq_false_iff.mp (passed armed member),
      List.eraseP_cons_of_pos found]
  rw [left]
  have ids : (tracked.ledger.placed.map (·.orderId) ++ (earlier ++ own :: later).map (·.orderId)).Nodup :=
    split ▸ sound.distinct
  rw [List.map_append, List.map_cons, ← List.append_assoc] at ids
  obtain ⟨rest, fresh⟩ := List.nodup_cons.mp ((List.perm_middle.nodup_iff).mp ids) |>.symm
  rw [List.append_assoc, ← List.map_append] at rest fresh
  have idled : tracked.ledger = { tracked.ledger with armed := none } := by
    rw [← idle]
  constructor
  · rw [idled]
    exact @LedgerSound.record _ { own with shell } levels (sound.reparked rest) fresh true
  · exact ⟨⟨_, rfl, rfl, rfl, rfl, rfl⟩, ⟨earlier, own, later, split, rfl, rfl⟩⟩

theorem placeEntry_capped {call : PlaceCall} {ledger : BrokerLedger} (capped : broker.Capped call ledger) :
    TurnedAway ledger (broker.placeEntry call ledger).2 (broker.placeEntry call ledger).1 ∧
      ((broker.placeEntry call ledger).2 = ledger ∨
        (broker.placeEntry call ledger).2 = broker.lookedAt ledger) := by
  unfold ReplayBroker.placeEntry
  split
  · exact ⟨⟨.inl rfl, rfl, rfl⟩, .inl rfl⟩
  · next within =>
    rw [if_pos (capped.resolve_left within)]
    exact ⟨⟨.inr rfl, rfl, rfl⟩, .inr rfl⟩

theorem placeEntry_uncapped {call : PlaceCall} {ledger : BrokerLedger} (free : ¬ broker.Capped call ledger) :
    broker.placeEntry call ledger = broker.dispatch call.request (broker.lookedAt ledger) := by
  unfold ReplayBroker.placeEntry
  rw [if_neg fun beyond => free (.inl beyond), if_neg fun full => free (.inr full)]

/-- What a cap turns away leaves the lists as they agree. -/
theorem LedgerSound.capped (sound : LedgerSound tracked) {call : PlaceCall}
    (capped : broker.Capped call tracked.ledger) :
    LedgerSound { tracked with ledger := (broker.placeEntry call tracked.ledger).2 } := by
  rcases (placeEntry_capped capped).2 with same | looked
  · rw [same]
    exact sound
  · rw [looked]
    exact sound.looked

theorem placeEntry_armed {call : PlaceCall} {ledger : BrokerLedger} (free : ¬ broker.Capped call ledger)
    (known : ledger.armed = some armed) :
    broker.placeEntry call ledger =
      (.ok armed.orderId,
        { broker.lookedAt ledger with armed := none }.recordAttempt armed call.request.levels false) := by
  have looked : (broker.lookedAt ledger).armed = some armed := known
  rw [placeEntry_uncapped free]
  unfold ReplayBroker.dispatch
  rw [looked]

theorem placeEntry_restore {call : PlaceCall} {ledger : BrokerLedger} {matched : PlacedAttempt}
    (free : ¬ broker.Capped call ledger) (idle : ledger.armed = none)
    (found : ledger.placed.find? (broker.reactivates call.request) = some matched) :
    broker.placeEntry call ledger =
      (.ok matched.orderId,
        (broker.lookedAt ledger).restore (broker.reactivates call.request) matched.orderId
          call.request.levels) := by
  have looked : (broker.lookedAt ledger).armed = none := idle
  have same : (broker.lookedAt ledger).placed.find? (broker.reactivates call.request) = some matched := found
  rw [placeEntry_uncapped free]
  unfold ReplayBroker.dispatch
  rw [looked]
  dsimp only
  rw [same]

theorem placeEntry_adopt {call : PlaceCall} {ledger : BrokerLedger} (free : ¬ broker.Capped call ledger)
    (idle : ledger.armed = none) (unmatched : ledger.placed.find? (broker.reactivates call.request) = none)
    (found : ledger.parked.find? (broker.adopts call.request) = some armed) :
    broker.placeEntry call ledger =
      (.ok armed.orderId,
        { broker.lookedAt ledger with
          parked := (broker.lookedAt ledger).parked.eraseP (broker.adopts call.request) }.recordAttempt
          { armed with shell := { armed.shell with time := ledger.asOf } } call.request.levels true) := by
  have looked : (broker.lookedAt ledger).armed = none := idle
  have same : (broker.lookedAt ledger).placed.find? (broker.reactivates call.request) = none := unmatched
  have first : (broker.lookedAt ledger).parked.find? (broker.adopts call.request) = some armed := found
  rw [placeEntry_uncapped free]
  unfold ReplayBroker.dispatch
  rw [looked]
  dsimp only
  rw [same]
  dsimp only
  rw [first, looked]
  rfl

theorem placeEntry_rejected {call : PlaceCall} {ledger : BrokerLedger} (free : ¬ broker.Capped call ledger)
    (idle : ledger.armed = none) (unmatched : ledger.placed.find? (broker.reactivates call.request) = none)
    (unparked : ledger.parked.find? (broker.adopts call.request) = none) :
    (broker.placeEntry call ledger).1 = .error .orderRejected := by
  have looked : (broker.lookedAt ledger).armed = none := idle
  have same : (broker.lookedAt ledger).placed.find? (broker.reactivates call.request) = none := unmatched
  have first : (broker.lookedAt ledger).parked.find? (broker.adopts call.request) = none := unparked
  rw [placeEntry_uncapped free]
  unfold ReplayBroker.dispatch
  rw [looked]
  dsimp only
  rw [same]
  dsimp only
  rw [first]

end

section
variable {broker : ReplayBroker} {tracked : TrackedLedger} {armed : ArmedPlacement} {orderId : String}
  {call : PlaceCall}

/-- An uncapped call never answers with a cap. -/
theorem placeEntry_notTurnedAway {before ledger : BrokerLedger} (free : ¬ broker.Capped call ledger) :
    ¬ TurnedAway before (broker.placeEntry call ledger).2 (broker.placeEntry call ledger).1 := by
  intro away
  have answered : ∀ orderId, (broker.placeEntry call ledger).1 ≠ .ok orderId := by
    intro orderId ok
    rcases away.capError with cap | cap <;> cases ok.symm.trans cap
  cases ready : ledger.armed with
  | some armed => exact answered _ (congrArg Prod.fst (placeEntry_armed free ready))
  | none =>
    cases found : ledger.placed.find? (broker.reactivates call.request) with
    | some matched => exact answered _ (congrArg Prod.fst (placeEntry_restore free ready found))
    | none =>
      cases parked : ledger.parked.find? (broker.adopts call.request) with
      | some armed => exact answered _ (congrArg Prod.fst (placeEntry_adopt free ready found parked))
      | none =>
        have rejected := placeEntry_rejected free ready found parked
        rcases away.capError with cap | cap <;> cases rejected.symm.trans cap

theorem LedgerSound.place (sound : LedgerSound tracked) (fresh : armed.orderId ∉ tracked.ledger.ids) :
    LedgerSound { tracked with ledger := (broker.placeEntry call (tracked.ledger.armPlacement armed)).2 } := by
  have ready := sound.arm fresh
  by_cases capped : broker.Capped call (tracked.ledger.armPlacement armed)
  · exact ready.capped capped
  · have looked : LedgerSound { tracked with ledger := broker.lookedAt (tracked.ledger.armPlacement armed) } :=
      ready.looked
    rw [placeEntry_armed capped rfl]
    exact looked.record fresh false

theorem placeEntry_parked {ledger : BrokerLedger} :
    (broker.placeEntry call (ledger.armPlacement armed)).2.parked = ledger.parked := by
  by_cases capped : broker.Capped call (ledger.armPlacement armed)
  · exact (placeEntry_capped capped).1.parked
  · rw [placeEntry_armed capped rfl]
    rfl

theorem LedgerSound.redrive (sound : LedgerSound tracked) (held : orderId ∈ tracked.held)
    (told : (LedgerEvent.redrive orderId call).ToldApart broker tracked) :
    LedgerSound ((LedgerEvent.redrive orderId call).step broker tracked) ∧
      (LedgerEvent.redrive orderId call).RestoresOwn broker tracked := by
  unfold LedgerEvent.RestoresOwn LedgerEvent.step
  dsimp only
  by_cases capped : broker.Capped call tracked.ledger
  · obtain ⟨away, -⟩ := placeEntry_capped capped
    have refused : (broker.placeEntry call tracked.ledger).1.isOk = false := by
      rcases away.capError with error | error <;> rw [error] <;> rfl
    rw [refused, if_neg Bool.false_ne_true]
    have after := sound.capped capped
    exact ⟨after, after.toSupersededStay, .inl away⟩
  · obtain ⟨idle, earlier, own, later, split, rfl, matched, passed⟩ := told.resolve_left capped
    have found : tracked.ledger.placed.find? (broker.reactivates call.request) = some own :=
      List.find?_eq_some_iff_append.mpr ⟨matched, earlier, later, split, fun attempt member =>
        (Bool.not_eq_true' _).mpr (passed attempt member)⟩
    rw [placeEntry_restore capped idle found]
    have looked : LedgerSound { tracked with ledger := broker.lookedAt tracked.ledger } := sound.looked
    obtain ⟨after, restores⟩ := looked.restore call.request.levels held split matched passed
    exact ⟨after, after.toSupersededStay, .inr ⟨rfl, restores.attempts, restores.resting, restores.parked⟩⟩

theorem LedgerSound.promote (sound : LedgerSound tracked)
    (told : (LedgerEvent.promote orderId call).ToldApart broker tracked) :
    LedgerSound ((LedgerEvent.promote orderId call).step broker tracked) ∧
      (LedgerEvent.promote orderId call).RestoresOwn broker tracked := by
  unfold LedgerEvent.RestoresOwn LedgerEvent.step
  dsimp only
  by_cases capped : broker.Capped call tracked.ledger
  · have after := sound.capped capped
    exact ⟨after, after.toSupersededStay, .inl (placeEntry_capped capped).1⟩
  · obtain ⟨idle, unmatched, earlier, own, later, split, rfl, adopted, passed⟩ := told.resolve_left capped
    have none : tracked.ledger.placed.find? (broker.reactivates call.request) = none :=
      List.find?_eq_none.mpr fun attempt member => Bool.eq_false_iff.mp (unmatched attempt member)
    have found : tracked.ledger.parked.find? (broker.adopts call.request) = some own :=
      List.find?_eq_some_iff_append.mpr ⟨adopted, earlier, later, split, fun armed member =>
        (Bool.not_eq_true' _).mpr (passed armed member)⟩
    rw [placeEntry_adopt capped idle none found]
    have looked : LedgerSound { tracked with ledger := broker.lookedAt tracked.ledger } := sound.looked
    obtain ⟨after, promotes⟩ := looked.adopt call.request.levels split adopted passed idle
      { own.shell with time := tracked.ledger.asOf }
    exact ⟨after, after.toSupersededStay, .inr ⟨rfl, promotes.attempts, promotes.parked⟩⟩

/-- A release that changes its own order alone was told apart. -/
theorem LedgerSound.redrive_toldApart (sound : LedgerSound tracked) (held : orderId ∈ tracked.held)
    (own : (LedgerEvent.redrive orderId call).RestoresOwn broker tracked) :
    (LedgerEvent.redrive orderId call).ToldApart broker tracked := by
  by_cases capped : broker.Capped call tracked.ledger
  · exact .inl capped
  right
  obtain ⟨-, answered⟩ := own
  dsimp only at answered
  obtain ⟨answer, -⟩ := answered.resolve_left (placeEntry_notTurnedAway capped)
  have placed := sound.heldPlaced held
  cases ready : tracked.ledger.armed with
  | some armed =>
    rw [placeEntry_armed capped ready] at answer
    cases answer
    exact absurd (List.mem_append_left _ placed) (sound.armedFresh armed ready)
  | none =>
    refine ⟨rfl, ?_⟩
    cases found : tracked.ledger.placed.find? (broker.reactivates call.request) with
    | some matched =>
      rw [placeEntry_restore capped ready found] at answer
      cases answer
      obtain ⟨agrees, earlier, later, split, passed⟩ := List.find?_eq_some_iff_append.mp found
      exact ⟨earlier, matched, later, split, rfl, agrees, fun attempt member =>
        (Bool.not_eq_true' _).mp (passed attempt member)⟩
    | none =>
      cases parked : tracked.ledger.parked.find? (broker.adopts call.request) with
      | some armed =>
        rw [placeEntry_adopt capped ready found parked] at answer
        cases answer
        have inParked : armed.orderId ∈ tracked.ledger.parked.map (·.orderId) :=
          List.mem_map_of_mem (List.mem_of_find?_eq_some parked)
        exact absurd rfl ((List.nodup_append.mp sound.distinct).2.2 _ placed _ inParked)
      | none =>
        rw [placeEntry_rejected capped ready found parked] at answer
        cases answer

theorem LedgerSound.promote_toldApart (sound : LedgerSound tracked)
    (parked : orderId ∈ tracked.ledger.parked.map (·.orderId))
    (own : (LedgerEvent.promote orderId call).RestoresOwn broker tracked) :
    (LedgerEvent.promote orderId call).ToldApart broker tracked := by
  by_cases capped : broker.Capped call tracked.ledger
  · exact .inl capped
  right
  obtain ⟨-, answered⟩ := own
  dsimp only at answered
  obtain ⟨answer, -⟩ := answered.resolve_left (placeEntry_notTurnedAway capped)
  cases ready : tracked.ledger.armed with
  | some armed =>
    rw [placeEntry_armed capped ready] at answer
    cases answer
    exact absurd (List.mem_append_right _ parked) (sound.armedFresh armed ready)
  | none =>
    refine ⟨rfl, ?_⟩
    cases found : tracked.ledger.placed.find? (broker.reactivates call.request) with
    | some matched =>
      rw [placeEntry_restore capped ready found] at answer
      cases answer
      have inPlaced : matched.orderId ∈ tracked.ledger.placed.map (·.orderId) :=
        List.mem_map_of_mem (List.mem_of_find?_eq_some found)
      exact absurd rfl ((List.nodup_append.mp sound.distinct).2.2 _ inPlaced _ parked)
    | none =>
      refine ⟨fun attempt member => Bool.eq_false_iff.mpr (List.find?_eq_none.mp found attempt member), ?_⟩
      cases adopted : tracked.ledger.parked.find? (broker.adopts call.request) with
      | some armed =>
        rw [placeEntry_adopt capped ready found adopted] at answer
        cases answer
        obtain ⟨agrees, earlier, later, split, passed⟩ := List.find?_eq_some_iff_append.mp adopted
        exact ⟨earlier, armed, later, split, rfl, agrees, fun other member =>
          (Bool.not_eq_true' _).mp (passed other member)⟩
      | none =>
        rw [placeEntry_rejected capped ready found adopted] at answer
        cases answer

end

theorem LedgerSound.step {broker : ReplayBroker} {tracked : TrackedLedger} (event : LedgerEvent)
    (sound : LedgerSound tracked) (promised : event.Promised tracked) (told : event.ToldApart broker tracked) :
    LedgerSound (event.step broker tracked) ∧ event.RestoresOwn broker tracked := by
  cases event with
  | redrive orderId call => exact sound.redrive promised told
  | promote orderId call => exact sound.promote told
  | clock asOf =>
    have after : LedgerSound { tracked with ledger := { tracked.ledger with asOf } } :=
      ⟨⟨sound.placed, sound.resting⟩, sound.distinct, sound.armedFresh, sound.restingPlaced,
        sound.supersededPlaced, sound.heldApart, sound.heldRest⟩
    exact ⟨after, after.toSupersededStay, trivial⟩
  | look => exact ⟨sound.looked, sound.looked.toSupersededStay, trivial⟩
  | place armed call =>
    exact ⟨sound.place promised, (sound.place promised).toSupersededStay, placeEntry_parked⟩
  | park armed => exact ⟨sound.park promised, (sound.park promised).toSupersededStay, trivial⟩
  | reject armed => exact ⟨sound.arm promised, (sound.arm promised).toSupersededStay, trivial⟩
  | supersede orderId =>
    exact ⟨sound.supersede promised, (sound.supersede promised).toSupersededStay, trivial⟩
  | hold orderId => exact ⟨sound.hold promised, (sound.hold promised).toSupersededStay, trivial⟩
  | cancelPending instrument =>
    exact ⟨sound.cancelPending instrument, (sound.cancelPending instrument).toSupersededStay, trivial⟩

theorem LedgerSound.toldApart {broker : ReplayBroker} {tracked : TrackedLedger} (event : LedgerEvent)
    (sound : LedgerSound tracked) (promised : event.Promised tracked) (own : event.RestoresOwn broker tracked) :
    event.ToldApart broker tracked := by
  cases event with
  | redrive orderId call => exact sound.redrive_toldApart promised own
  | promote orderId call => exact sound.promote_toldApart promised own
  | clock | look | place | park | reject | supersede | hold | cancelPending => trivial

theorem ledgerSound_new (asOf : Int) : LedgerSound { ledger := { asOf } } where
  placed _ member := by cases member
  resting _ member := by cases member
  distinct := List.nodup_nil
  armedFresh _ none := by cases none
  restingPlaced := List.Sublist.slnil
  supersededPlaced _ member := by cases member
  heldApart _ member := by cases member
  heldRest _ member := by cases member

/-- Over every run of a new broker, each release restores the order it is for, and nothing else, exactly if it
can be told apart when it comes. -/
theorem releases_restoreOwn_iff (broker : ReplayBroker) (asOf : Int) (events : List LedgerEvent)
    (promised : Along (LedgerEvent.step broker) (fun tracked event => event.Promised tracked)
      { ledger := { asOf } } events) :
    Along (LedgerEvent.step broker) (fun tracked event => event.RestoresOwn broker tracked)
        { ledger := { asOf } } events ↔
      Along (LedgerEvent.step broker) (fun tracked event => event.ToldApart broker tracked)
        { ledger := { asOf } } events := by
  refine Along.iff_of_invariant (fun tracked event (sound : LedgerSound tracked) within => ?_)
    (fun tracked event sound within own => ?_) (ledgerSound_new asOf) promised
  · exact ⟨sound.toldApart event within, fun told => (sound.step event within told).2⟩
  · exact (sound.step event within (sound.toldApart event within own)).1

/-- `wideHour` before its first bar. -/
def barless : ReplayBroker := { wideHour with candles := [] }

/-- A fire of `stopEntry`; each fire has the same trigger. -/
def sameTrigger (orderId : String) (time : Int) : ArmedPlacement where
  orderId
  intent := stopEntry
  breakeven := none
  shell := (stopEntryAt time).shell

def sameTriggerCall : PlaceCall where
  maxRiskPct := 1
  maxOpenPositions := 3
  riskPercent := some 1
  request :=
    { setupId := "enter-1", instrument := "INDEX", direction := .long, entry := .stop 100, stopLoss := 90,
      takeProfit := 130, dryRun := false }

/-- One order is held and released. -/
def heldAndReleased : List LedgerEvent :=
  [.place (sameTrigger "enter-1-0" 0) sameTriggerCall, .hold "enter-1-0", .redrive "enter-1-0" sameTriggerCall]

theorem releases_restoreOwn_heldAndReleased :
    Along (LedgerEvent.step barless) (fun tracked event => event.RestoresOwn barless tracked)
      { ledger := { asOf := 0 } } heldAndReleased := by
  refine (releases_restoreOwn_iff barless 0 heldAndReleased ?_).mpr ?_
  · refine ⟨?_, ?_, ?_, trivial⟩
    · exact List.not_mem_nil
    · exact ⟨_, List.mem_append_right _ List.mem_cons_self, rfl, rfl⟩
    · exact List.mem_cons_self
  · refine ⟨trivial, trivial, .inr ⟨rfl, [], _, [], rfl, rfl, ?_, ?_⟩, trivial⟩
    · decide +kernel
    · exact fun _ member => by cases member

/-- A fresher fire supersedes an order, and is itself held and released. -/
def supersededThenReleased : List LedgerEvent :=
  [.place (sameTrigger "enter-1-0" 0) sameTriggerCall, .supersede "enter-1-0",
    .place (sameTrigger "enter-1-3600" (seconds 3600)) sameTriggerCall, .hold "enter-1-3600",
    .redrive "enter-1-3600" sameTriggerCall]

/-- The release wakes the order that was given up, and the one it was for stays down. -/
theorem releases_wakeSuperseded :
    Along (LedgerEvent.step barless) (fun tracked event => event.Promised tracked)
        { ledger := { asOf := 0 } } supersededThenReleased ∧
      (supersededThenReleased.foldl (LedgerEvent.step barless) { ledger := { asOf := 0 } }).ledger.placed.map
          (fun attempt => (attempt.orderId, attempt.cancelled)) =
        [("enter-1-0", false), ("enter-1-3600", true)] ∧
      ¬ Along (LedgerEvent.step barless) (fun tracked event => event.RestoresOwn barless tracked)
        { ledger := { asOf := 0 } } supersededThenReleased := by
  have woken : (supersededThenReleased.foldl (LedgerEvent.step barless) { ledger := { asOf := 0 } }).ledger.placed.map
      (fun attempt => (attempt.orderId, attempt.cancelled)) =
        [("enter-1-0", false), ("enter-1-3600", true)] := by
    decide +kernel
  refine ⟨⟨?_, ?_, ?_, ?_, ?_, trivial⟩, woken, fun own => ?_⟩
  · exact List.not_mem_nil
  · exact ⟨_, List.mem_append_right _ List.mem_cons_self, rfl, rfl⟩
  · unfold LedgerEvent.Promised
    decide +kernel
  · unfold LedgerEvent.Promised
    decide +kernel
  · exact List.mem_cons_self
  · obtain ⟨-, -, -, -, last, -⟩ := own
    obtain ⟨stays, -⟩ := last
    have down := stays.placed
    revert down
    decide +kernel

end TradeControl
