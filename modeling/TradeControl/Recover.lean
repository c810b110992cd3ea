import TradeControl.Enter
import TradeControl.Hold

namespace TradeControl

inductive RestorePlan
  | redrive
  | dropStopOverrunSkip
  | dropStaleLimit
  | dropUnexpectedMarket
  deriving DecidableEq

/-- A pulled stop is placed again until the market is a stop distance past its trigger. -/
def recreateStop (direction : Direction) (trigger slDistance : Rat) (quote : Quote) : Bool :=
  match direction with
  | .long => quote.ask < trigger + slDistance
  | .short => trigger - slDistance < quote.bid

/-- A pulled limit is placed again while the market is between its entry and its target. -/
def recreateLimit (direction : Direction) (entry takeProfit : Rat) (quote : Quote) : Bool :=
  match direction with
  | .long => entry < quote.ask && quote.ask < takeProfit
  | .short => quote.bid < entry && takeProfit < quote.bid

def restorePlan (resolved : Resolved) (quote : Quote) : RestorePlan :=
  match resolved.entry with
  | .stop trigger =>
    if recreateStop resolved.direction trigger |trigger - resolved.stopLoss| quote then .redrive
    else match resolved.recoverEntry.map ResolvedRecoverEntry.action with
      | none | some .skip => .dropStopOverrunSkip
      | some _ => .redrive
  | .limit entry =>
    if recreateLimit resolved.direction entry resolved.takeProfit quote then .redrive
    else .dropStaleLimit
  | .market _ => .dropUnexpectedMarket

/-- How the restore of one pulled order went. -/
inductive RestoreOutcome
  | expired
  | unrecoverable
  | unresolved
  | unquoted
  | dropped (plan : RestorePlan)
  | redriven (result : ActionResult)
  deriving DecidableEq

def defaultPipSize : Rat := 1 / 10000

/-- The call that places a pulled order again. -/
def CancelledOrder.redrive (cancelled : CancelledOrder) (verified : Verified) (now : Int) : EnterCall where
  verified := verified
  now := now
  rawBody := some cancelled.signedIntent
  granularity := none
  origin := .replacing cancelled.orderId

/-- `restore_one_order`. -/
def restoreOneOrder (env : Env) (ans : Answers) (record : HeldTradeRecord) (cancelled : CancelledOrder)
    (now : Int) (world : World) : World × RestoreOutcome :=
  let cleaned (world : World) : World :=
    { world with store := cleanupBody ans cancelled.orderId world.store }
  match env.recover cancelled.signedIntent now with
  | .expired => (cleaned world, .expired)
  | .unrecoverable => (world, .unrecoverable)
  | .ok verified =>
    let pipSize := ((verified.intent.pipSize.filter (0 < ·)).or
      ((some record.pipSize).filter (0 < ·))).getD defaultPipSize
    let tickSize := verified.intent.tickSize.getD pipSize
    match Resolved.fromIntent env.rules verified.intent verified.shell pipSize tickSize with
    | .error _ => (world, .unresolved)
    | .ok resolved =>
      match ans.quote .restore with
      | none => (world, .unquoted)
      | some quote =>
        match restorePlan resolved quote with
        | .redrive =>
          let (world, result) := runEnter env ans (cancelled.redrive verified now) world
          (cleaned world, .redriven result)
        | plan => (cleaned world, .dropped plan)

/-- `restore_cancelled_orders`: every pulled order of the record, each with its own answers,
and how each went. -/
def restoreCancelledOrders (env : Env) (redrives : Nat → Answers) (record : HeldTradeRecord) (now : Int)
    (world : World) : List CancelledOrder → World × List (Nat × RestoreOutcome)
  | [] => (world, [])
  | cancelled :: rest =>
    let (world, outcome) :=
      restoreOneOrder env (redrives cancelled.orderId) record cancelled now world
    let (world, outcomes) := restoreCancelledOrders env redrives record now world rest
    (world, (cancelled.orderId, outcome) :: outcomes)

/-- The reasons to judge a record by: one applied before reasons were kept is held for the
spread hour. -/
def effectiveHolders (record : HeldTradeRecord) : Holders :=
  if record.applied ∧ record.holders = ∅ then {.spreadHour} else record.holders

/-- Whether one hold reason has lifted. -/
def reasonReleased (env : Env) (ans : Answers) (tradeId : String) (record : HeldTradeRecord) (now : Int)
    (store : Store) : HoldReason → Bool
  | .spreadHour =>
    env.spreads.releasedAt (env.spreads.lookupKey record.instrument) record.pipSize
      ((ans.quote .release).map Quote.spread) now
  | .newsPause | .maAlignment => !pauseActive (ans.store .releasePauses) tradeId now store
  | .marketHours => !env.marketHoursBlocked record.instrument now

def HoldReason.all : List HoldReason := [.spreadHour, .newsPause, .marketHours, .maAlignment]

/-- Release one reason if it has lifted, and note when that empties the set. -/
def releaseReason (released : HoldReason → Bool) (held : Holders × Bool) (reason : HoldReason) :
    Holders × Bool :=
  if released reason then
    let (holders, release) := held.1.release reason
    (holders, held.2 || release == .emptied)
  else held

/-- `release_satisfied`: release every lifted reason; the flag says whether that emptied
the set. -/
def releaseSatisfied (env : Env) (ans : Answers) (tradeId : String) (record : HeldTradeRecord)
    (now : Int) (store : Store) : Holders × Bool :=
  let held := effectiveHolders record
  (HoldReason.all.filter (· ∈ held)).foldl
    (releaseReason (reasonReleased env ans tradeId record now store)) (held, false)

def safetyForceRestoreSeconds : Int := 12 * 60 * 60

def backstopDue (openedAt now : Int) : Bool := openedAt + seconds safetyForceRestoreSeconds ≤ now

inductive ClearPolicy
  | clearRecord
  | leaveForCaller
  deriving DecidableEq

inductive RestoreReason
  | backstop
  | recovered
  deriving DecidableEq

/-- `clear`: the record goes, unless a park lives on it. -/
def clearHold (ans : Answers) (tradeId : String) (record : HeldTradeRecord) (now : Int) (store : Store) :
    Store × Bool :=
  if !record.storedOrders.isEmpty then
    let kept := { record with holders := ∅, cancelledOrders := [], applied := false }
    let ttl := max (numSeconds (kept.expiresAt - kept.openedAt)) 0
    if ans.store .preservePark then (store.upsertHeldTradeRecord now tradeId kept ttl, true)
    else (store, false)
  else if ans.store .clearHeld then (store.clearHeldTradeRecord tradeId, true)
  else (store, false)

/-- What one record's recovery reports: the record's restore, if it stands, and how each
of its pulled orders went. -/
structure RecoverReport where
  restored : Option RestoreReason := none
  outcomes : List (Nat × RestoreOutcome) := []
  deriving DecidableEq

/-- `finish_recover`; the flag says whether the restore is reported. -/
def finishRecover (ans : Answers) (policy : ClearPolicy) (tradeId : String) (record : HeldTradeRecord)
    (now : Int) (store : Store) : Store × Bool :=
  match policy with
  | .clearRecord => clearHold ans tradeId record now store
  | .leaveForCaller => (store, true)

/-- Restore a record's pulled orders, then finish it. -/
def restoreRecord (env : Env) (ans : Answers) (redrives : Nat → Answers) (policy : ClearPolicy)
    (tradeId : String) (record : HeldTradeRecord) (reason : RestoreReason) (now : Int) (world : World) :
    World × RecoverReport :=
  let (world, outcomes) := restoreCancelledOrders env redrives record now world record.cancelledOrders
  let (store, reported) := finishRecover ans policy tradeId record now world.store
  ({ world with store }, { restored := if reported then some reason else none, outcomes })

/-- `recover_one`, over the record as the pass listed it. -/
def recoverOne (env : Env) (ans : Answers) (redrives : Nat → Answers) (policy : ClearPolicy)
    (tradeId : String) (record : HeldTradeRecord) (now : Int) (world : World) :
    World × RecoverReport :=
  if !record.applied then (world, {})
  else match protect ans tradeId now world.store record with
  | none => (world, {})
  | some (held, true) =>
    if (held.expiresAt ≠ record.expiresAt ∨ held.holders ≠ record.holders) ∧ ans.store .upsertHeld then
      let ttl := max (numSeconds (held.expiresAt - now)) 1
      ({ world with store := world.store.upsertHeldTradeRecord now tradeId held ttl }, {})
    else (world, {})
  | some (_, false) =>
    let (surviving, emptied) := releaseSatisfied env ans tradeId record now world.store
    if emptied then restoreRecord env ans redrives policy tradeId record .recovered now world
    else
      let store :=
        if surviving ≠ record.holders ∧ ans.store .narrowHeld then
          world.store.upsertHeldTradeRecord now tradeId { record with holders := surviving }
            (env.spreads.blockTtlSeconds record.instrument record.openedAt)
        else world.store
      if backstopDue record.openedAt now then
        restoreRecord env ans redrives policy tradeId record .backstop now { world with store }
      else ({ world with store }, {})

end TradeControl
