import TradeControl.FillPrefixes
import TradeControl.Resolution
import TradeControl.World

namespace TradeControl

/-! The replay's broker, which moves its orders from resting to open to closed as the bars advance. -/

/-- The levels of the request that an order was placed by. -/
structure PlacedLevels where
  entry : ResolvedEntry
  stopLoss : Rat
  takeProfit : Rat
  deriving DecidableEq

/-- What an order is simulated on; without levels, on those of its intent. -/
structure PlacedTerms where
  intent : Intent
  breakeven : Option Breakeven
  shell : Shell
  placed : Option PlacedLevels

structure HeldOrder extends PlacedTerms where
  orderId : String
  cancelled : Bool := false
  amendedStop : Option Rat := none

structure HeldPosition extends PlacedTerms where
  orderId : String
  direction : Direction
  entryPrice : Rat
  fillAt : Int
  amendedStop : Option Rat

/-- The ways of `ExitReason` that a bar closes a position. -/
inductive BarExit
  | stoppedOut
  | tookProfit
  deriving DecidableEq

structure ClosedTrade where
  orderId : String
  direction : Direction
  entryPrice : Rat
  stopLoss : Rat
  takeProfit : Rat
  fillAt : Int
  exitAt : Int
  exitPrice : Rat
  reason : BarExit
  deriving DecidableEq

structure ReplayBook where
  resting : List HeldOrder := []
  positions : List HeldPosition := []
  closed : List ClosedTrade := []

def ReplayBook.removeResting (book : ReplayBook) (orderId : String) : ReplayBook :=
  { book with resting := book.resting.filter (·.orderId != orderId) }

def ReplayBook.removeOpen (book : ReplayBook) (orderId : String) : ReplayBook :=
  { book with positions := book.positions.filter (·.orderId != orderId) }

def ReplayBook.pushOpen (book : ReplayBook) (position : HeldPosition) : ReplayBook :=
  { book with positions := book.positions ++ [position] }

def ReplayBook.pushClosed (book : ReplayBook) (trade : ClosedTrade) : ReplayBook :=
  { book with closed := book.closed ++ [trade] }

def HeldOrder.opened (order : HeldOrder) (direction : Direction) (fillAt : Int) (entryPrice : Rat) :
    HeldPosition :=
  { order.toPlacedTerms with
    orderId := order.orderId
    direction
    entryPrice
    fillAt
    amendedStop := order.amendedStop }

/-- The ledger's record of an order that filled and exited by now. -/
def HeldOrder.closed (order : HeldOrder) (resolved : Resolved) (fillAt : Int) (entryPrice : Rat) (exitAt : Int)
    (exitPrice : Rat) (reason : BarExit) : ClosedTrade where
  orderId := order.orderId
  direction := resolved.direction
  entryPrice
  stopLoss := resolved.stopLoss
  takeProfit := resolved.takeProfit
  fillAt
  exitAt
  exitPrice
  reason

def HeldPosition.closed (position : HeldPosition) (resolved : Resolved) (exitAt : Int) (exitPrice : Rat)
    (reason : BarExit) : ClosedTrade where
  orderId := position.orderId
  direction := position.direction
  entryPrice := position.entryPrice
  stopLoss := resolved.stopLoss
  takeProfit := resolved.takeProfit
  fillAt := position.fillAt
  exitAt
  exitPrice
  reason

/-- `apply_entry_spread_floor` at the spread of the first bar; a stop that it rejects stays where it is. -/
def applyEntrySpreadFloor (resolved : Resolved) (tickSize : Rat) (candles : List PathBar) : Resolved :=
  match candles with
  | [] => resolved
  | fire :: _ =>
    match widenSlToSpreadFloor resolved.entry.referencePrice resolved.stopLoss resolved.takeProfit
        (fire.askC - fire.bidC) resolved.minR tickSize with
    | .widened newStopLoss _ _ => { resolved with stopLoss := newStopLoss }
    | .unchanged | .reject .. => resolved

/-- What the broker holds from its start: the rules, the tables, the series, and the finer one. -/
structure ReplayBroker where
  rules : Rules
  calendar : ReplayCalendar
  pipSize : Rat
  candles : List PathBar
  subBars : Int → Int → List PathBar

section
variable (broker : ReplayBroker) (terms : PlacedTerms) (upTo : Int)

def ReplayBroker.resolvedForSim (forward : List PathBar) : Option Resolved :=
  let tick := terms.intent.tickSize.getD broker.pipSize
  match Resolved.fromIntent broker.rules terms.intent terms.shell broker.pipSize tick with
  | .error _ => none
  | .ok resolved =>
    match terms.placed with
    | some placed =>
      some { resolved with entry := placed.entry, stopLoss := placed.stopLoss, takeProfit := placed.takeProfit }
    | none => some (applyEntrySpreadFloor resolved tick forward)

/-- The bars from the one that the order fired on; a rule that watches an average is handed older ones too. -/
def ReplayBroker.prefixFromFire (shell : Shell) (maCross : Bool) : List PathBar :=
  broker.candles.filter fun bar => (maCross || decide (shell.time ≤ bar.time)) && decide (bar.time ≤ upTo)

def ReplayBroker.callOver (forward : List PathBar) (resolved : Resolved) : FillCall where
  resolved
  breakeven := terms.breakeven
  intent := terms.intent
  signedBreakeven := terms.breakeven
  shellTime := terms.shell.time
  pipSize := broker.pipSize
  candles := forward

/-- What `step_outcome` hands the simulator. -/
def ReplayBroker.simCall : Option FillCall :=
  let forward := broker.prefixFromFire upTo terms.shell (terms.breakeven.any (·.hasMaVeto))
  (broker.resolvedForSim terms forward).map (broker.callOver terms forward)

def ReplayBroker.stepOutcome : Option (Resolved × SimOutcome) :=
  (broker.simCall terms upTo).map fun call =>
    (call.resolved, (simulateFillResolvedZoom broker.calendar call (servedBy broker.subBars) ()).1)

/-- `advance` for one order of those that rest as it begins. -/
def ReplayBroker.advanceResting (book : ReplayBook) (order : HeldOrder) : ReplayBook :=
  if order.cancelled then book
  else match broker.stepOutcome order.toPlacedTerms upTo with
  | none => book.removeResting order.orderId
  | some (resolved, outcome) =>
    let left := book.removeResting order.orderId
    match outcome with
    | .neverFilled => book
    | .filledOpen fillAt entryPrice => left.pushOpen (order.opened resolved.direction fillAt entryPrice)
    | .stoppedOut fillAt entryPrice exitAt exitPrice =>
      left.pushClosed (order.closed resolved fillAt entryPrice exitAt exitPrice .stoppedOut)
    | .tookProfit fillAt entryPrice exitAt exitPrice =>
      left.pushClosed (order.closed resolved fillAt entryPrice exitAt exitPrice .tookProfit)

/-- `advance` for one position of those that are open once the orders are done. -/
def ReplayBroker.advanceOpen (book : ReplayBook) (position : HeldPosition) : ReplayBook :=
  match broker.stepOutcome position.toPlacedTerms upTo with
  | some (resolved, .stoppedOut _ _ exitAt exitPrice) =>
    (book.removeOpen position.orderId).pushClosed (position.closed resolved exitAt exitPrice .stoppedOut)
  | some (resolved, .tookProfit _ _ exitAt exitPrice) =>
    (book.removeOpen position.orderId).pushClosed (position.closed resolved exitAt exitPrice .tookProfit)
  | _ => book

def ReplayBroker.advance (book : ReplayBook) : ReplayBook :=
  let filled := book.resting.foldl (broker.advanceResting upTo) book
  filled.positions.foldl (broker.advanceOpen upTo) filled

def ReplayBroker.run (book : ReplayBook) (calls : List Int) : ReplayBook :=
  calls.foldl (fun book upTo => broker.advance upTo book) book

/-- What the book holds of one order. -/
def ReplayBook.only (book : ReplayBook) (orderId : String) : ReplayBook where
  resting := book.resting.filter (·.orderId == orderId)
  positions := book.positions.filter (·.orderId == orderId)
  closed := book.closed.filter (·.orderId == orderId)

end

section
variable {broker : ReplayBroker} {upTo : Int} {book : ReplayBook} {orderId : String}

theorem filter_own_removed {α : Type} (name : α → String) (entries : List α) (removed : String) :
    (entries.filter (name · != removed)).filter (name · == orderId) =
      if removed == orderId then (entries.filter (name · == orderId)).filter (name · != removed)
      else entries.filter (name · == orderId) := by
  split
  · exact List.filter_comm ..
  next other =>
    rw [List.filter_filter]
    refine List.filter_congr fun entry _ => ?_
    cases own : name entry == orderId with
    | false => rfl
    | true =>
      have differ : name entry ≠ removed := by
        rintro rfl
        exact other own
      simpa using differ

theorem ReplayBook.only_removeResting (removed : String) :
    (book.removeResting removed).only orderId =
      if removed == orderId then (book.only orderId).removeResting removed else book.only orderId := by
  unfold ReplayBook.removeResting ReplayBook.only
  dsimp only
  rw [filter_own_removed HeldOrder.orderId]
  split
  · rfl
  · rfl

theorem ReplayBook.only_removeOpen (removed : String) :
    (book.removeOpen removed).only orderId =
      if removed == orderId then (book.only orderId).removeOpen removed else book.only orderId := by
  unfold ReplayBook.removeOpen ReplayBook.only
  dsimp only
  rw [filter_own_removed HeldPosition.orderId]
  split
  · rfl
  · rfl

theorem ReplayBook.only_pushOpen (position : HeldPosition) :
    (book.pushOpen position).only orderId =
      if position.orderId == orderId then (book.only orderId).pushOpen position else book.only orderId := by
  unfold ReplayBook.pushOpen ReplayBook.only
  dsimp only
  rw [List.filter_append, List.filter_singleton]
  cases position.orderId == orderId with
  | true => rfl
  | false => simp

theorem ReplayBook.only_pushClosed (trade : ClosedTrade) :
    (book.pushClosed trade).only orderId =
      if trade.orderId == orderId then (book.only orderId).pushClosed trade else book.only orderId := by
  unfold ReplayBook.pushClosed ReplayBook.only
  dsimp only
  rw [List.filter_append, List.filter_singleton]
  cases trade.orderId == orderId with
  | true => rfl
  | false => simp

/-- An order moves nothing but itself. -/
theorem advanceResting_only (order : HeldOrder) :
    (broker.advanceResting upTo book order).only orderId =
      if order.orderId == orderId then broker.advanceResting upTo (book.only orderId) order
      else book.only orderId := by
  have same : book.only orderId = if order.orderId == orderId then book.only orderId else book.only orderId :=
    (ite_self _).symm
  have opens : ∀ position : HeldPosition, position.orderId = order.orderId →
      ((book.removeResting order.orderId).pushOpen position).only orderId =
        if order.orderId == orderId then ((book.only orderId).removeResting order.orderId).pushOpen position
        else book.only orderId := by
    intro position owned
    rw [ReplayBook.only_pushOpen, ReplayBook.only_removeResting, owned]
    split
    · rfl
    · rfl
  have closes : ∀ trade : ClosedTrade, trade.orderId = order.orderId →
      ((book.removeResting order.orderId).pushClosed trade).only orderId =
        if order.orderId == orderId then ((book.only orderId).removeResting order.orderId).pushClosed trade
        else book.only orderId := by
    intro trade owned
    rw [ReplayBook.only_pushClosed, ReplayBook.only_removeResting, owned]
    split
    · rfl
    · rfl
  unfold ReplayBroker.advanceResting
  split
  · exact same
  cases broker.stepOutcome order.toPlacedTerms upTo with
  | none => exact ReplayBook.only_removeResting order.orderId
  | some seen =>
    obtain ⟨resolved, outcome⟩ := seen
    cases outcome with
    | neverFilled => exact same
    | filledOpen fillAt entryPrice => exact opens _ rfl
    | stoppedOut fillAt entryPrice exitAt exitPrice => exact closes _ rfl
    | tookProfit fillAt entryPrice exitAt exitPrice => exact closes _ rfl

theorem advanceOpen_only (position : HeldPosition) :
    (broker.advanceOpen upTo book position).only orderId =
      if position.orderId == orderId then broker.advanceOpen upTo (book.only orderId) position
      else book.only orderId := by
  have same : book.only orderId = if position.orderId == orderId then book.only orderId else book.only orderId :=
    (ite_self _).symm
  have closes : ∀ trade : ClosedTrade, trade.orderId = position.orderId →
      ((book.removeOpen position.orderId).pushClosed trade).only orderId =
        if position.orderId == orderId then ((book.only orderId).removeOpen position.orderId).pushClosed trade
        else book.only orderId := by
    intro trade owned
    rw [ReplayBook.only_pushClosed, ReplayBook.only_removeOpen, owned]
    split
    · rfl
    · rfl
  unfold ReplayBroker.advanceOpen
  cases broker.stepOutcome position.toPlacedTerms upTo with
  | none => exact same
  | some seen =>
    obtain ⟨resolved, outcome⟩ := seen
    cases outcome with
    | neverFilled => exact same
    | filledOpen fillAt entryPrice => exact same
    | stoppedOut fillAt entryPrice exitAt exitPrice => exact closes _ rfl
    | tookProfit fillAt entryPrice exitAt exitPrice => exact closes _ rfl

/-- What a fold leaves of one order is the fold over the entries of that order. -/
theorem foldl_only {α : Type} (name : α → String) {step : ReplayBook → α → ReplayBook}
    (stepOnly : ∀ book entry, (step book entry).only orderId =
      if name entry == orderId then step (book.only orderId) entry else book.only orderId)
    (entries : List α) (book : ReplayBook) :
    (entries.foldl step book).only orderId =
      (entries.filter (name · == orderId)).foldl step (book.only orderId) := by
  induction entries generalizing book with
  | nil => rfl
  | cons entry rest ih =>
    rw [List.foldl_cons, ih, stepOnly]
    cases own : name entry == orderId with
    | true =>
      rewrite [List.filter_cons, own]
      rfl
    | false =>
      rewrite [List.filter_cons, own]
      rfl

theorem advance_only (broker : ReplayBroker) (upTo : Int) (book : ReplayBook) (orderId : String) :
    (broker.advance upTo book).only orderId = broker.advance upTo (book.only orderId) := by
  have filled : (book.resting.foldl (broker.advanceResting upTo) book).only orderId =
      (book.only orderId).resting.foldl (broker.advanceResting upTo) (book.only orderId) :=
    foldl_only HeldOrder.orderId (fun _ order => advanceResting_only order) book.resting book
  unfold ReplayBroker.advance
  dsimp only
  rw [← filled]
  exact foldl_only HeldPosition.orderId (fun _ position => advanceOpen_only position) _ _

theorem run_only (broker : ReplayBroker) (calls : List Int) (book : ReplayBook) (orderId : String) :
    (broker.run book calls).only orderId = broker.run (book.only orderId) calls := by
  induction calls generalizing book with
  | nil => rfl
  | cons upTo rest ih =>
    change (broker.run (broker.advance upTo book) rest).only orderId = _
    rw [ih, advance_only]
    rfl

end

/-- The book of one order, of which this was seen. -/
def HeldOrder.bookOf (order : HeldOrder) : Option (Resolved × SimOutcome) → ReplayBook
  | none => {}
  | some (_, .neverFilled) => { resting := [order] }
  | some (resolved, .filledOpen fillAt entryPrice) =>
    { positions := [order.opened resolved.direction fillAt entryPrice] }
  | some (resolved, .stoppedOut fillAt entryPrice exitAt exitPrice) =>
    { closed := [order.closed resolved fillAt entryPrice exitAt exitPrice .stoppedOut] }
  | some (resolved, .tookProfit fillAt entryPrice exitAt exitPrice) =>
    { closed := [order.closed resolved fillAt entryPrice exitAt exitPrice .tookProfit] }

/-- The book of one open position, of which this was seen. -/
def HeldPosition.bookOf (position : HeldPosition) : Option (Resolved × SimOutcome) → ReplayBook
  | some (resolved, .stoppedOut _ _ exitAt exitPrice) =>
    { closed := [position.closed resolved exitAt exitPrice .stoppedOut] }
  | some (resolved, .tookProfit _ _ exitAt exitPrice) =>
    { closed := [position.closed resolved exitAt exitPrice .tookProfit] }
  | _ => { positions := [position] }

/-- What was seen of an order is no other at a later look. -/
inductive Stands : Option (Resolved × SimOutcome) → Option (Resolved × SimOutcome) → Prop
  | kept (seen : Option (Resolved × SimOutcome)) : Stands seen seen
  | resting (resolved : Resolved) (late : Resolved × SimOutcome) :
      Stands (some (resolved, .neverFilled)) (some late)
  | opened (resolved : Resolved) (fillAt : Int) (entryPrice : Rat) (late : Resolved × SimOutcome)
      (fill : late.2.fill = some (fillAt, entryPrice)) (direction : resolved.direction = late.1.direction) :
      Stands (some (resolved, .filledOpen fillAt entryPrice)) (some late)

section
variable {broker : ReplayBroker} {terms : PlacedTerms} {order : HeldOrder} {upTo last : Int}
  {seen early late : Option (Resolved × SimOutcome)}

theorem advance_resting (live : order.cancelled = false) :
    broker.advance upTo { resting := [order] } = order.bookOf (broker.stepOutcome order.toPlacedTerms upTo) := by
  have removed : [order].filter (·.orderId != order.orderId) = [] := by simp
  unfold ReplayBroker.advance
  simp only [List.foldl_cons, List.foldl_nil]
  unfold ReplayBroker.advanceResting
  rw [live, if_neg Bool.false_ne_true]
  cases seen : broker.stepOutcome order.toPlacedTerms upTo with
  | none =>
    dsimp only [ReplayBook.removeResting]
    rw [removed]
    rfl
  | some found =>
    obtain ⟨resolved, outcome⟩ := found
    cases outcome with
    | neverFilled => rfl
    | filledOpen fillAt entryPrice =>
      dsimp only [ReplayBook.removeResting, ReplayBook.pushOpen]
      rw [removed]
      simp only [List.nil_append, List.foldl_cons, List.foldl_nil]
      unfold ReplayBroker.advanceOpen
      have again : broker.stepOutcome (order.opened resolved.direction fillAt entryPrice).toPlacedTerms upTo =
          some (resolved, .filledOpen fillAt entryPrice) := seen
      rw [again]
      rfl
    | stoppedOut fillAt entryPrice exitAt exitPrice =>
      dsimp only [ReplayBook.removeResting, ReplayBook.pushClosed]
      rw [removed]
      rfl
    | tookProfit fillAt entryPrice exitAt exitPrice =>
      dsimp only [ReplayBook.removeResting, ReplayBook.pushClosed]
      rw [removed]
      rfl

theorem advance_position (position : HeldPosition) :
    broker.advance upTo { positions := [position] } =
      position.bookOf (broker.stepOutcome position.toPlacedTerms upTo) := by
  have removed : [position].filter (·.orderId != position.orderId) = [] := by simp
  change broker.advanceOpen upTo { positions := [position] } position = _
  unfold ReplayBroker.advanceOpen
  cases broker.stepOutcome position.toPlacedTerms upTo with
  | none => rfl
  | some found =>
    obtain ⟨resolved, outcome⟩ := found
    cases outcome with
    | neverFilled => rfl
    | filledOpen fillAt entryPrice => rfl
    | stoppedOut fillAt entryPrice exitAt exitPrice =>
      dsimp only [ReplayBook.removeOpen, ReplayBook.pushClosed]
      rw [removed]
      rfl
    | tookProfit fillAt entryPrice exitAt exitPrice =>
      dsimp only [ReplayBook.removeOpen, ReplayBook.pushClosed]
      rw [removed]
      rfl

/-- A position with the fill and the direction of the last look is closed by no other look than that, and
then as it closes it. -/
theorem opened_bookOf {fillAt : Int} {entryPrice : Rat} {final : Resolved × SimOutcome}
    (now : Stands seen (some final)) (fill : final.2.fill = some (fillAt, entryPrice)) :
    ((order.opened final.1.direction fillAt entryPrice).bookOf seen =
        { positions := [order.opened final.1.direction fillAt entryPrice] } ∨ seen = some final) ∧
      (order.opened final.1.direction fillAt entryPrice).bookOf (some final) = order.bookOf (some final) := by
  obtain ⟨bracket, outcome⟩ := final
  constructor
  · cases now with
    | resting => exact .inl rfl
    | opened => exact .inl rfl
    | kept => exact .inr rfl
  · cases outcome with
    | neverFilled => cases fill
    | filledOpen fillAt entryPrice =>
      cases fill
      rfl
    | stoppedOut fillAt entryPrice exitAt exitPrice =>
      cases fill
      rfl
    | tookProfit fillAt entryPrice exitAt exitPrice =>
      cases fill
      rfl

/-- One call takes a book that stands to one that stands, and the last call to what it makes of the order. -/
theorem advance_bookOf (live : order.cancelled = false) (stands : Stands early late)
    (now : Stands (broker.stepOutcome order.toPlacedTerms upTo) late) :
    (∃ next, broker.advance upTo (order.bookOf early) = order.bookOf next ∧ Stands next late) ∧
      (broker.stepOutcome order.toPlacedTerms upTo = late →
        broker.advance upTo (order.bookOf early) = order.bookOf late) := by
  have held : ∀ (final : Resolved × SimOutcome) {fillAt : Int} {entryPrice : Rat}, late = some final →
      final.2.fill = some (fillAt, entryPrice) →
      (∃ next, broker.advance upTo { positions := [order.opened final.1.direction fillAt entryPrice] } =
          order.bookOf next ∧ Stands next late) ∧
        (broker.stepOutcome order.toPlacedTerms upTo = late →
          broker.advance upTo { positions := [order.opened final.1.direction fillAt entryPrice] } =
            order.bookOf late) := by
    rintro final fillAt entryPrice rfl fill
    have look : broker.advance upTo { positions := [order.opened final.1.direction fillAt entryPrice] } =
        (order.opened final.1.direction fillAt entryPrice).bookOf
          (broker.stepOutcome order.toPlacedTerms upTo) := advance_position _
    obtain ⟨kept | final', closes⟩ : (_ ∨ _) ∧ (order.opened final.1.direction fillAt entryPrice).bookOf
      (some final) = order.bookOf (some final) := opened_bookOf now fill
    · refine ⟨⟨some (final.1, .filledOpen fillAt entryPrice), look.trans kept, .opened _ _ _ _ fill rfl⟩, ?_⟩
      intro same
      rw [look, same, closes]
    · have whole : broker.advance upTo { positions := [order.opened final.1.direction fillAt entryPrice] } =
          order.bookOf (some final) := by
        rw [look, final', closes]
      exact ⟨⟨some final, whole, .kept _⟩, fun _ => whole⟩
  cases stands with
  | resting resolved final =>
    have moved : broker.advance upTo (order.bookOf (some (resolved, .neverFilled))) =
        order.bookOf (broker.stepOutcome order.toPlacedTerms upTo) := advance_resting live
    exact ⟨⟨_, moved, now⟩, fun same => moved.trans (congrArg order.bookOf same)⟩
  | opened resolved fillAt entryPrice final fill direction =>
    change (∃ next, broker.advance upTo { positions := [order.opened resolved.direction fillAt entryPrice] } =
      _ ∧ _) ∧
      (_ → broker.advance upTo { positions := [order.opened resolved.direction fillAt entryPrice] } = _)
    rw [direction]
    exact held final rfl fill
  | kept =>
    cases early with
    | none => exact ⟨⟨none, rfl, .kept _⟩, fun _ => rfl⟩
    | some final =>
      obtain ⟨resolved, outcome⟩ := final
      cases outcome with
      | neverFilled =>
        have moved : broker.advance upTo (order.bookOf (some (resolved, .neverFilled))) =
          order.bookOf (broker.stepOutcome order.toPlacedTerms upTo) := advance_resting live
        exact ⟨⟨_, moved, now⟩, fun same => moved.trans (congrArg order.bookOf same)⟩
      | filledOpen fillAt entryPrice => exact held (resolved, .filledOpen fillAt entryPrice) rfl rfl
      | stoppedOut => exact ⟨⟨_, rfl, .kept _⟩, fun _ => rfl⟩
      | tookProfit => exact ⟨⟨_, rfl, .kept _⟩, fun _ => rfl⟩

end

section
variable {broker : ReplayBroker} {terms : PlacedTerms} {order : HeldOrder} {upTo last : Int}

theorem filter_upTo_initial {candles : List PathBar} (keep : PathBar → Bool)
    (ascending : candles.Pairwise fun earlier later => earlier.time < later.time) (inOrder : upTo ≤ last) :
    (candles.filter fun bar => keep bar && decide (bar.time ≤ upTo)) <+:
      candles.filter fun bar => keep bar && decide (bar.time ≤ last) := by
  induction candles with
  | nil => exact List.prefix_rfl
  | cons bar rest ih =>
    obtain ⟨first, ordered⟩ := List.pairwise_cons.mp ascending
    by_cases inTime : bar.time ≤ upTo
    · rw [List.filter_cons, List.filter_cons, decide_eq_true inTime, decide_eq_true (inTime.trans inOrder)]
      split
      · exact List.cons_prefix_cons.mpr ⟨rfl, ih ordered⟩
      · exact ih ordered
    · have none : (bar :: rest).filter (fun bar => keep bar && decide (bar.time ≤ upTo)) = [] := by
        refine List.filter_eq_nil_iff.mpr fun later member => ?_
        have after : upTo < later.time := by
          rcases List.mem_cons.mp member with rfl | member
          · omega
          · have rises := first later member
            omega
        simp [after]
      rw [none]
      exact List.nil_prefix

theorem prefixFromFire_initial (ascending : broker.candles.Pairwise fun earlier later => earlier.time < later.time)
    (inOrder : upTo ≤ last) (shell : Shell) (maCross : Bool) :
    broker.prefixFromFire upTo shell maCross <+: broker.prefixFromFire last shell maCross :=
  filter_upTo_initial (fun bar => maCross || decide (shell.time ≤ bar.time)) ascending inOrder

theorem resolvedForSim_append {forward : List PathBar} (fired : forward ≠ []) (later : List PathBar) :
    broker.resolvedForSim terms (forward ++ later) = broker.resolvedForSim terms forward := by
  cases forward with
  | nil => exact absurd rfl fired
  | cons fire rest => rfl

/-- Before the bar that it fired on an order is not floored, and is else what it is later. -/
theorem resolvedForSim_nil {resolved : Resolved} (known : broker.resolvedForSim terms [] = some resolved)
    (forward : List PathBar) : ∃ floored, broker.resolvedForSim terms forward = some floored ∧
      floored.direction = resolved.direction ∧ floored.entry = resolved.entry := by
  unfold ReplayBroker.resolvedForSim at known ⊢
  dsimp only at known ⊢
  split at known
  · cases known
  next signed =>
    split at known
    · cases known
      exact ⟨_, rfl, rfl, rfl⟩
    · cases known
      refine ⟨_, rfl, ?_⟩
      unfold applyEntrySpreadFloor
      dsimp only
      split
      · exact ⟨rfl, rfl⟩
      · split
        · exact ⟨rfl, rfl⟩
        · exact ⟨rfl, rfl⟩
        · exact ⟨rfl, rfl⟩

theorem resolvedForSim_none (unresolved : broker.resolvedForSim terms [] = none) (forward : List PathBar) :
    broker.resolvedForSim terms forward = none := by
  unfold ReplayBroker.resolvedForSim at unresolved ⊢
  dsimp only at unresolved ⊢
  split at unresolved
  · rfl
  · split at unresolved
    · cases unresolved
    · cases unresolved

/-- On an empty path only a market order fills, and it fills as on any other path. -/
theorem simulate_emptyPath {calendar : ReplayCalendar} (call whole : FillCall) {source : SubBars Unit}
    (empty : call.candles = []) (entry : whole.resolved.entry = call.resolved.entry)
    (fired : whole.shellTime = call.shellTime) :
    (simulateFillResolvedZoom calendar call source ()).1 = .neverFilled ∨
      ∃ fillAt entryPrice, (simulateFillResolvedZoom calendar call source ()).1 = .filledOpen fillAt entryPrice ∧
        (simulateFillResolvedZoom calendar whole source ()).1.fill = some (fillAt, entryPrice) := by
  have path : call.fillPath = [] := List.eq_nil_of_suffix_nil (empty ▸ fillPath_suffix)
  have closed : call.fillWindow [] = [] :=
    List.eq_nil_iff_forall_not_mem.mpr fun bar member => nomatch fillWindow_subset member
  cases market : call.resolved.entry with
  | market price =>
    refine .inr ⟨call.shellTime, price, ?_, ?_⟩
    · unfold simulateFillResolvedZoom findFill FillCall.fillWith
      rw [market, path]
      rfl
    · unfold simulateFillResolvedZoom findFill FillCall.fillWith
      rw [entry, market, fired]
      exact exitLoop_fill _ _ _
  | stop trigger =>
    refine .inl ?_
    unfold simulateFillResolvedZoom findFill FillCall.fillWith
    rw [market, path]
    dsimp only
    rewrite [closed]
    rfl
  | limit trigger =>
    refine .inl ?_
    unfold simulateFillResolvedZoom findFill FillCall.fillWith
    rw [market, path]
    dsimp only
    rewrite [closed]
    rfl

theorem SimOutcome.StandsIn.stands {early late : SimOutcome} (stands : early.StandsIn late)
    (resolved : Resolved) :
    Stands (some (resolved, early)) (some (resolved, late)) := by
  cases early with
  | neverFilled => exact .resting _ _
  | filledOpen => exact .opened _ _ _ _ stands rfl
  | stoppedOut =>
    cases stands
    exact .kept _
  | tookProfit =>
    cases stands
    exact .kept _

/-- On the path of a call, every decision that reads a bar length comes out as with the lengths of the last. -/
def ReplayBroker.JudgesAlike (broker : ReplayBroker) (terms : PlacedTerms) (last upTo : Int) : Prop :=
  ∀ call ∈ broker.simCall terms upTo, ∀ whole ∈ broker.simCall terms last,
    call.LengthsAgree broker.calendar broker.subBars (call.inferredLengths broker.calendar)
      (whole.inferredLengths broker.calendar)

/-- What a call sees of an order stands at the last one. -/
theorem stepOutcome_stands (ascending : broker.candles.Pairwise fun earlier later => earlier.time < later.time)
    (inOrder : upTo ≤ last) (alike : broker.JudgesAlike terms last upTo) :
    Stands (broker.stepOutcome terms upTo) (broker.stepOutcome terms last) := by
  obtain ⟨later, extended⟩ :=
    prefixFromFire_initial ascending inOrder terms.shell (terms.breakeven.any (·.hasMaVeto))
  unfold ReplayBroker.JudgesAlike at alike
  unfold ReplayBroker.stepOutcome
  unfold ReplayBroker.simCall at alike ⊢
  dsimp only at alike ⊢
  rw [← extended] at alike ⊢
  have ordered : (broker.prefixFromFire upTo terms.shell (terms.breakeven.any (·.hasMaVeto)) ++ later).Pairwise
      fun earlier later => earlier.time < later.time := extended ▸ ascending.filter _
  generalize broker.prefixFromFire upTo terms.shell (terms.breakeven.any (·.hasMaVeto)) = forward at *
  by_cases fired : forward = []
  · subst fired
    cases known : broker.resolvedForSim terms [] with
    | none =>
      rw [resolvedForSim_none known]
      exact .kept _
    | some resolved =>
      obtain ⟨floored, resolves, direction, entry⟩ := resolvedForSim_nil known ([] ++ later)
      rw [resolves]
      rcases simulate_emptyPath (broker.callOver terms [] resolved) (broker.callOver terms ([] ++ later) floored)
        rfl entry rfl with unfilled | ⟨fillAt, entryPrice, filled, fill⟩
      · rw [Option.map_some, Option.map_some, Option.map_some, Option.map_some, unfilled]
        exact .resting _ _
      · rw [Option.map_some, Option.map_some, Option.map_some, Option.map_some, filled]
        exact .opened _ _ _ _ fill direction.symm
  · rw [resolvedForSim_append fired] at alike ⊢
    cases known : broker.resolvedForSim terms forward with
    | none => exact .kept _
    | some resolved =>
      rw [known] at alike
      have agree := alike _ rfl _ rfl
      rw [Option.map_some, Option.map_some, Option.map_some, Option.map_some, simulateFillResolvedZoom_eq,
        simulateFillResolvedZoom_eq, simulateAt_congr agree]
      exact (simulateAt_extend _ broker.subBars ordered).stands resolved

end

section
variable {broker : ReplayBroker} {order : HeldOrder} {upTo last : Int} {calls : List Int}

theorem run_bookOf (ascending : broker.candles.Pairwise fun earlier later => earlier.time < later.time)
    (live : order.cancelled = false) (inOrder : ∀ upTo ∈ calls, upTo ≤ last)
    (alike : ∀ upTo ∈ calls, broker.JudgesAlike order.toPlacedTerms last upTo)
    {early : Option (Resolved × SimOutcome)}
    (stands : Stands early (broker.stepOutcome order.toPlacedTerms last)) :
    ∃ next, broker.run (order.bookOf early) calls = order.bookOf next ∧
      Stands next (broker.stepOutcome order.toPlacedTerms last) := by
  induction calls generalizing early with
  | nil => exact ⟨early, rfl, stands⟩
  | cons upTo rest ih =>
    have now := stepOutcome_stands ascending (inOrder upTo List.mem_cons_self) (alike upTo List.mem_cons_self)
    obtain ⟨next, moved, stands⟩ := (advance_bookOf live stands now).1
    change ∃ final, broker.run (broker.advance upTo (order.bookOf early)) rest = _ ∧ _
    rw [moved]
    exact ih (fun upTo member => inOrder upTo (List.mem_cons_of_mem _ member))
      (fun upTo member => alike upTo (List.mem_cons_of_mem _ member)) stands

theorem run_cancelled (cancelled : order.cancelled = true) :
    broker.run { resting := [order] } calls = { resting := [order] } := by
  induction calls with
  | nil => rfl
  | cons upTo rest ih =>
    change broker.run (broker.advance upTo { resting := [order] }) rest = _
    have still : broker.advance upTo { resting := [order] } = { resting := [order] } := by
      unfold ReplayBroker.advance
      simp only [List.foldl_cons, List.foldl_nil]
      unfold ReplayBroker.advanceResting
      rw [if_pos cancelled]
      rfl
    rw [still, ih]

/-- The calls of a run leave an order as the last of them alone would. -/
theorem run_alone (ascending : broker.candles.Pairwise fun earlier later => earlier.time < later.time)
    (inOrder : ∀ upTo ∈ calls, upTo ≤ last)
    (alike : ∀ upTo ∈ calls, broker.JudgesAlike order.toPlacedTerms last upTo) :
    broker.run { resting := [order] } (calls ++ [last]) = broker.run { resting := [order] } [last] := by
  cases live : order.cancelled with
  | true => rw [run_cancelled live, run_cancelled live]
  | false =>
    have single : broker.run { resting := [order] } [last] =
        order.bookOf (broker.stepOutcome order.toPlacedTerms last) := advance_resting live
    cases calls with
    | nil => rfl
    | cons first rest =>
      have firstMoved : broker.advance first { resting := [order] } =
          order.bookOf (broker.stepOutcome order.toPlacedTerms first) := advance_resting live
      have stands := stepOutcome_stands ascending (inOrder first List.mem_cons_self)
        (alike first List.mem_cons_self)
      obtain ⟨next, moved, stands⟩ := run_bookOf ascending live
        (fun upTo member => inOrder upTo (List.mem_cons_of_mem _ member))
        (fun upTo member => alike upTo (List.mem_cons_of_mem _ member)) stands
      have whole : broker.run { resting := [order] } (first :: rest ++ [last]) =
          broker.advance last (broker.run (broker.advance first { resting := [order] }) rest) := by
        unfold ReplayBroker.run
        rw [List.foldl_append]
        rfl
      rw [single, whole, firstMoved, moved]
      exact (advance_bookOf live stands (.kept _)).2 rfl

theorem only_alone {placed : List HeldOrder} (distinct : placed.Pairwise fun one two => one.orderId ≠ two.orderId)
    (member : order ∈ placed) :
    ({ resting := placed } : ReplayBook).only order.orderId = { resting := [order] } := by
  have own : placed.filter (·.orderId == order.orderId) = [order] := by
    induction placed with
    | nil => cases member
    | cons first rest ih =>
      obtain ⟨other, distinct⟩ := List.pairwise_cons.mp distinct
      rcases List.mem_cons.mp member with rfl | member
      · have none : rest.filter (·.orderId == order.orderId) = [] :=
          List.filter_eq_nil_iff.mpr fun later inRest => by
            have differs := other later inRest
            simpa using differs.symm
        rw [List.filter_cons_of_pos (by simp), none]
      · have differs := other order member
        rw [List.filter_cons_of_neg (by simpa using differs), ih distinct member]
  unfold ReplayBook.only
  rw [own]
  rfl

end

/-- Over calls that are never asked to look back, each order is in the end where the last call alone would
have put it, wherever every decision by a bar length is as with the lengths of the last call; and what is
closed is closed alike by any longer path that judges alike. -/
theorem replayLedger_asOnce {broker : ReplayBroker} {placed : List HeldOrder} {order : HeldOrder} {last : Int}
    {calls : List Int} (ascending : broker.candles.Pairwise fun earlier later => earlier.time < later.time)
    (distinct : placed.Pairwise fun one two => one.orderId ≠ two.orderId) (member : order ∈ placed)
    (inOrder : (calls ++ [last]).Pairwise (· ≤ ·))
    (alike : ∀ upTo ∈ calls, broker.JudgesAlike order.toPlacedTerms last upTo) :
    (broker.run { resting := placed } (calls ++ [last])).only order.orderId =
        (broker.advance last { resting := placed }).only order.orderId ∧
      ∀ longer, last ≤ longer → broker.JudgesAlike order.toPlacedTerms longer last →
        ((broker.run { resting := placed } (calls ++ [last])).only order.orderId).closed ≠ [] →
          (broker.advance longer { resting := placed }).only order.orderId =
            (broker.run { resting := placed } (calls ++ [last])).only order.orderId := by
  have before : ∀ upTo ∈ calls, upTo ≤ last := fun upTo called =>
    (List.pairwise_append.mp inOrder).2.2 upTo called last List.mem_cons_self
  have whole : (broker.run { resting := placed } (calls ++ [last])).only order.orderId =
      broker.advance last { resting := [order] } := by
    rw [run_only, only_alone distinct member, run_alone ascending before alike]
    rfl
  refine ⟨?_, fun longer inTime judged closed => ?_⟩
  · rw [whole, advance_only, only_alone distinct member]
  rw [whole] at closed ⊢
  rw [advance_only, only_alone distinct member]
  cases live : order.cancelled with
  | true =>
    have still : broker.run { resting := [order] } [last] = { resting := [order] } := run_cancelled live
    change (broker.run { resting := [order] } [last]).closed ≠ [] at closed
    rw [still] at closed
    exact absurd rfl closed
  | false =>
    rw [advance_resting live] at closed ⊢
    rw [advance_resting live]
    have stands := stepOutcome_stands ascending inTime judged
    generalize broker.stepOutcome order.toPlacedTerms last = seen at stands closed ⊢
    generalize broker.stepOutcome order.toPlacedTerms longer = late at stands ⊢
    cases stands with
    | resting => exact absurd rfl closed
    | opened => exact absurd rfl closed
    | kept => rfl

/-- A bar that reaches both the stop and the target of `stopEntry`. -/
def wideBar (opened : Int) : PathBar where
  mid := { time := seconds opened, o := 100, h := 135, l := 85, c := 100 }
  bidC := 100
  askC := 100
  bidL := 85
  bidH := 135
  askL := 85
  askH := 135

def plainCalendar : ReplayCalendar where
  rows _ := none
  lookupKey := id
  isNyCloseEdge _ := false
  elevatedThresholdPips _ := 8

/-- Three hours, of which the second reaches everything; its finer bars come to the target first. -/
def wideHour : ReplayBroker where
  rules := twoBars.rules
  calendar := plainCalendar
  pipSize := 1
  candles := [flatBar 0 0, wideBar 3600, flatBar 7200 0]
  subBars start _ := [{ wideBar 0 with bidL := 100, mid := { (wideBar 0).mid with time := start } }]

/-- `stopEntry` as it is placed on its first bar. -/
def placedStopEntry : HeldOrder where
  intent := stopEntry
  breakeven := none
  shell := (stopEntryAt 0).shell
  placed := some { entry := .stop 100, stopLoss := 90, takeProfit := 130 }
  orderId := "replay-1"

/-- Where an order still has no bar to fill on, no bar length is read. -/
theorem lengthsAgree_of_closedWindow {calendar : ReplayCalendar} {call : FillCall}
    {subBars : Int → Int → List PathBar} {one two : BarLengths} {trigger : Rat}
    (resting : call.resolved.entry = .stop trigger) (closed : call.fillWindow call.fillPath = []) :
    call.LengthsAgree calendar subBars one two := by
  have unfilled : call.fillWith calendar one.fillSeconds = none := by
    unfold FillCall.fillWith
    rw [resting]
    dsimp only
    rewrite [closed]
    rfl
  refine ⟨fun _ before bar after split => ?_, fun _ fill found => ?_, fun fill found => ?_⟩
  · rw [closed] at split
    cases before with
    | nil => cases split
    | cons => cases split
  · cases unfilled.symm.trans found
  · cases unfilled.symm.trans found

theorem replayLedger_asOnce_wideHour :
    (wideHour.run { resting := [placedStopEntry] } ([0] ++ [seconds 7200])).only "replay-1" =
        (wideHour.advance (seconds 7200) { resting := [placedStopEntry] }).only "replay-1" ∧
      ∀ longer, seconds 7200 ≤ longer →
        wideHour.JudgesAlike placedStopEntry.toPlacedTerms longer (seconds 7200) →
        ((wideHour.run { resting := [placedStopEntry] } ([0] ++ [seconds 7200])).only "replay-1").closed ≠ [] →
          (wideHour.advance longer { resting := [placedStopEntry] }).only "replay-1" =
            (wideHour.run { resting := [placedStopEntry] } ([0] ++ [seconds 7200])).only "replay-1" := by
  refine @replayLedger_asOnce wideHour [placedStopEntry] placedStopEntry (seconds 7200) [0] (by decide +kernel)
    (List.pairwise_singleton _ _) List.mem_cons_self (by decide +kernel) ?_
  intro upTo called call known whole _
  obtain rfl := List.mem_singleton.mp called
  obtain ⟨resolved, resolves, rfl⟩ := Option.map_eq_some_iff.mp known
  have resting : resolved.entry = .stop 100 := by
    unfold ReplayBroker.resolvedForSim at resolves
    dsimp only at resolves
    split at resolves
    · cases resolves
    · cases resolves
      rfl
  exact lengthsAgree_of_closedWindow resting rfl

/-- Called on every bar, the broker books the stop; called once, the target. -/
theorem replayLedger_everyBar :
    (wideHour.run { resting := [placedStopEntry] } [0, seconds 3600, seconds 7200]).closed.map (·.reason) =
        [.stoppedOut] ∧
      (wideHour.advance (seconds 7200) { resting := [placedStopEntry] }).closed.map (·.reason) =
        [.tookProfit] := by
  decide +kernel

end TradeControl
