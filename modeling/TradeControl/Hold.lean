import TradeControl.World

namespace TradeControl

/-- The record with this order parked on it; an earlier park is replaced. -/
def HeldTradeRecord.park (record : HeldTradeRecord) (pipSize : Rat) (order : StoredOrder)
    (expiresAt : Int) : HeldTradeRecord :=
  { record with
    pipSize := if record.pipSize ≤ 0 ∧ 0 < pipSize then pipSize else record.pipSize
    storedOrders := [order]
    expiresAt := max record.expiresAt expiresAt }

def ttlUntil (expiresAt now : Int) : Int := max (numSeconds (expiresAt - now)) 0

/-- `park_order`; the flag says whether the park was written. -/
def parkOrder (ans : Answers) (tradeId instrument : String) (pipSize : Rat) (order : StoredOrder)
    (expiresAt now : Int) (store : Store) : Store × Bool :=
  if !ans.store .getHeld then (store, false)
  else
    let record := ((store.getHeldTradeRecord now tradeId).getD
      (.fresh instrument pipSize expiresAt now)).park pipSize order expiresAt
    if ans.store .upsertHeld then
      (store.upsertHeldTradeRecord now tradeId record (ttlUntil record.expiresAt now), true)
    else (store, false)

def Store.storedOrder (store : Store) (now : Int) (tradeId : String) : Option StoredOrder :=
  (store.getHeldTradeRecord now tradeId).bind (·.storedOrders.head?)

/-- Something besides a park still lives on the record. -/
def HeldTradeRecord.stillNeeded (record : HeldTradeRecord) : Bool :=
  record.holders ≠ ∅ || !record.originalStops.isEmpty || !record.cancelledOrders.isEmpty ||
    record.applied

/-- `clear_stored_order`; the flag says whether the store took it. -/
def clearStoredOrder (ans : Answers) (tradeId : String) (now : Int) (store : Store) : Store × Bool :=
  if !ans.store .getHeld then (store, false)
  else match store.getHeldTradeRecord now tradeId with
  | none => (store, true)
  | some record =>
    let record := { record with storedOrders := [] }
    if record.stillNeeded then
      if ans.store .upsertHeld then
        (store.upsertHeldTradeRecord now tradeId record (ttlUntil record.expiresAt now), true)
      else (store, false)
    else if ans.store .clearHeld then (store.clearHeldTradeRecord tradeId, true)
    else (store, false)

/-- `pause_active`: a pause table that cannot be read counts as a pause. -/
def pauseActive (readable : Bool) (tradeId : String) (now : Int) (store : Store) : Bool :=
  !readable || !(store.listPausesForTrade now tradeId).isEmpty

/-- Every reason an order of this trade is to be off the book at `now`. -/
def holdReasons (env : Env) (ans : Answers) (instrument tradeId : String) (now : Int) (store : Store) :
    Holders :=
  let news : Holders := if pauseActive (ans.store .releasePauses) tradeId now store then {.newsPause} else ∅
  if env.marketHoursBlocked instrument now then news.hold .marketHours else news

def alignmentPauseId : String := "ma-alignment"

/-- `ma_alignment::protect`: an order pulled under an alignment pause stays on the record
for as long as any pause of the trade runs. `none` when the pauses cannot be read. -/
def protect (ans : Answers) (tradeId : String) (now : Int) (store : Store) (record : HeldTradeRecord) :
    Option (HeldTradeRecord × Bool) :=
  if record.cancelledOrders.isEmpty then some (record, false)
  else if !ans.store .listPauses then none
  else
    let pauses := store.listPausesForTrade now tradeId
    let alignmentEpisode := HoldReason.maAlignment ∈ record.holders ∨
      ∃ pause ∈ pauses, pause.blackoutId = alignmentPauseId
    match (pauses.map (·.expiresAt)).max? with
    | none => some (record, false)
    | some expiresAt =>
      if alignmentEpisode then
        some ({ record with
          holders := record.holders.hold .maAlignment
          expiresAt := max record.expiresAt expiresAt }, true)
      else some (record, false)

/-- `merge_cancelled_order`: the record, opened if need be, with this order pulled. -/
def mergeCancelledOrder (env : Env) (existing : Option HeldTradeRecord) (instrument : String)
    (pipSize : Rat) (cancelled : CancelledOrder) (holding : Holders) (now : Int) : HeldTradeRecord :=
  let record := existing.getD (.fresh instrument pipSize now now)
  { record with
    applied := true
    holders := record.holders ∪ holding
    expiresAt := record.openedAt + seconds (env.spreads.blockTtlSeconds instrument record.openedAt)
    pipSize := if 0 < record.pipSize then record.pipSize else pipSize
    cancelledOrders :=
      if record.cancelledOrders.any (·.orderId == cancelled.orderId) then record.cancelledOrders
      else record.cancelledOrders ++ [cancelled] }

/-- What a lookup says about an order whose cancel failed. -/
inductive CancelOutcome
  | vanished (why : String)
  | stillResting
  | unresolved
  deriving DecidableEq

def CancelOutcome.dropsFromRecord : CancelOutcome → Bool
  | .vanished _ => true
  | .stillResting | .unresolved => false

def classifyCancelFailure (ans : Answers) (orderId : Nat) (book : Book) : CancelOutcome :=
  match book.lookupAttemptState (ans.lookup orderId) orderId with
  | .ok .pending => .stillResting
  | .ok (.openPosition _) => .vanished "filled-open-position"
  | .ok (.closedWin _) | .ok (.closedLossOrBreakeven _) | .ok (.closedConfirmed _) =>
    .vanished "filled-and-closed"
  | .ok .cancelled => .vanished "cancelled-upstream"
  | .ok .unknown => .vanished "not-found"
  | .error .transient => .unresolved

/-- `cleanup_body`. -/
def cleanupBody (ans : Answers) (orderId : Nat) (store : Store) : Store :=
  if ans.store .deleteOrderBody then store.deleteOrderBody orderId else store

/-- `drop_cancelled_order`: take an order that is gone off the record, and clear a record
that names no other order and no widened stop. -/
def dropCancelledOrder (ans : Answers) (tradeId : String) (record : HeldTradeRecord) (orderId : Nat)
    (ttl now : Int) (store : Store) : Store :=
  let pruned :=
    { record with cancelledOrders := record.cancelledOrders.filter (·.orderId ≠ orderId) }
  let store :=
    if pruned.cancelledOrders.isEmpty && pruned.originalStops.isEmpty then
      if ans.store .clearHeld then store.clearHeldTradeRecord tradeId else store
    else if ans.store .pruneHeld then store.upsertHeldTradeRecord now tradeId pruned ttl
    else store
  cleanupBody ans orderId store

/-- The verified payload behind a stored body; no body, no payload. -/
def Env.recoverBody (env : Env) (body : Option String) (now : Int) : Recovered :=
  match body with
  | none => .unrecoverable
  | some body => env.recover body now

/-- How the hold of one resting order went. -/
inductive HoldOutcome
  | skipped
  | stateError
  | cancelled
  | cancelFailed (outcome : CancelOutcome)
  deriving DecidableEq

/-- The time to live a hold writes its record with. -/
def holdTtl (env : Env) (instrument : String) (record : HeldTradeRecord) (now : Int) : Int :=
  max (env.spreads.blockTtlSeconds instrument record.openedAt)
    (max (numSeconds (record.expiresAt - now)) 1)

/-- `try_cancel_one`: the record is written before the order is pulled. -/
def tryCancelOne (env : Env) (ans : Answers) (order : BrokerOrder) (now : Int) (world : World) :
    World × HoldOutcome :=
  if !ans.store .getOrderBody then (world, .stateError)
  else match world.store.orderBodies order.id, env.recoverBody (world.store.orderBodies order.id) now with
  | some signedIntent, .ok verified =>
    let tradeId := verified.intent.tradeId.getD (toString order.id)
    let holders := holdReasons env ans order.instrument tradeId now world.store
    if holders = ∅ then (world, .skipped)
    else match verified.intent.pipSize.filter (0 < ·) with
    | none => (world, .skipped)
    | some pipSize =>
      if !ans.store .getHeld then (world, .stateError)
      else
        let merged := mergeCancelledOrder env (world.store.getHeldTradeRecord now tradeId)
          order.instrument pipSize { orderId := order.id, signedIntent } holders now
        match protect ans tradeId now world.store merged with
        | none => (world, .stateError)
        | some (record, _) =>
          let ttl := holdTtl env order.instrument record now
          if !ans.store .upsertHeld then (world, .stateError)
          else
            let store := world.store.upsertHeldTradeRecord now tradeId record ttl
            match world.book.cancelOrder (ans.cancel order.id) order.id with
            | (book, .ok ()) => ({ store, book }, .cancelled)
            | (book, .error _) =>
              let outcome := classifyCancelFailure ans order.id book
              let store := if outcome.dropsFromRecord then
                  dropCancelledOrder ans tradeId record order.id ttl now store
                else store
              ({ store, book }, .cancelFailed outcome)
  | _, _ => (world, .skipped)

end TradeControl
