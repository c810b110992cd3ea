import TradeControl.World

namespace TradeControl

/-- One call of the entry path. `granularity` is the plan's bar length in seconds,
which only the engine has in hand. -/
structure EnterCall where
  verified : Verified
  now : Int
  rawBody : Option String
  granularity : Option Int
  origin : EntryOrigin

def EnterCall.intent (call : EnterCall) : Intent := call.verified.intent

inductive SlotOutcome
  | satisfied (setAt : Int)
  | outOfOrder
  | missing
  deriving DecidableEq

/-- The earliest alternative set strictly after the previous slot. -/
def resolveSlot (altSetAts : List (Option Int)) (prev : Option Int) : SlotOutcome :=
  let setAts := altSetAts.filterMap id
  match (setAts.filter fun setAt => prev.all (· < setAt)).min? with
  | some setAt => .satisfied setAt
  | none => if setAts.isEmpty then .missing else .outOfOrder

def pauseGate (ans : Answers) (call : EnterCall) (store : Store) : Option ActionResult :=
  match call.intent.tradeId with
  | none => none
  | some tradeId =>
    if !ans.store .listPauses then some stateError
    else match store.listPausesForTrade call.now tradeId with
    | [] => none
    | pauses =>
      let names := pauses.map fun pause => match pause.reason with
        | some reason => s!"{pause.blackoutId}({reason})"
        | none => pause.blackoutId
      let list := String.intercalate "," names
      some (.rejected 423 "trade paused" s!"rejected: paused [{list}]")

def cooldownGate (ans : Answers) (call : EnterCall) (store : Store) : Option ActionResult :=
  if !ans.store .isCooledDown then some stateError
  else if store.isCooledDown call.now call.intent.instrument then
    some (.rejected 423 "instrument cooled down" "rejected: cooled-down")
  else none

def prepGate (ans : Answers) (call : EnterCall) (store : Store) :
    Option Int → List PrepReq → Option ActionResult
  | _, [] => none
  | prev, slot :: rest =>
    let alts := slot.alternatives
    let label := String.intercalate "|" alts
    if alts.any fun step => !ans.store (.getPrep step) then some stateError
    else match resolveSlot (alts.map (store.getPrep call.now call.intent.instrument)) prev with
    | .satisfied setAt => prepGate ans call store (some setAt) rest
    | .outOfOrder =>
      some (.rejected 412 "prep order violated" s!"rejected: prep-order-violated ({label})")
    | .missing => some (.rejected 412 "missing prep" s!"rejected: missing-prep ({label})")

def vetoGate (ans : Answers) (call : EnterCall) (store : Store) (tradeId : String) :
    List String → Option ActionResult
  | [] => none
  | veto :: rest =>
    if !ans.store (.isVetoed veto) then some stateError
    else if store.isVetoed call.now tradeId call.intent.instrument veto then
      some (.rejected 412 "veto active" s!"rejected: veto-active ({veto})")
    else vetoGate ans call store tradeId rest

/-- The gates that only read the store, in order; they yield the trade id. -/
def entryGates (ans : Answers) (call : EnterCall) (store : Store) : Except ActionResult String :=
  match pauseGate ans call store with
  | some result => .error result
  | none =>
    match cooldownGate ans call store with
    | some result => .error result
    | none =>
      match prepGate ans call store none call.intent.requiresPreps with
      | some result => .error result
      | none =>
        match call.intent.tradeId with
        | none => .error (.rejected 400 "enter requires trade_id" "rejected: missing-trade-id")
        | some tradeId =>
          match vetoGate ans call store tradeId call.intent.vetos with
          | some result => .error result
          | none => .ok tradeId

structure MwAnchors where
  direction : Direction
  runupStart : Rat
  leftShoulder : Rat
  bakedNeckline : Rat
  drawnRightShoulder : Option Rat

inductive MwUpdate
  | proceed (state : MwState) (changed : Bool)
  | cancel
  | noChange

def validityFloorFrac : Rat := 6 / 10

/-- `plan_mw_update`: fold one bar's body into the live geometry. -/
def planMwUpdate (anchors : MwAnchors) (prior : Option MwState) (shell : Shell) (now expiresAt : Int) :
    MwUpdate :=
  match shell.bodyHigh, shell.bodyLow with
  | some bodyHigh, some bodyLow =>
    let neckline := (prior.map (·.neckline)).getD anchors.bakedNeckline
    let rightShoulder := (prior.bind (·.rightShoulder)).or anchors.drawnRightShoulder
    let floor := anchors.runupStart + validityFloorFrac * (anchors.leftShoulder - anchors.runupStart)
    let cancel := anchors.bakedNeckline + cancelExtFrac * (anchors.leftShoulder - anchors.bakedNeckline)
    match anchors.direction with
    | .short =>
      if bodyLow < floor then .cancel
      else
        let raises := bodyHigh < cancel && rightShoulder.all (· < bodyHigh)
        .proceed
          { neckline := min neckline bodyLow
            rightShoulder := if raises then some bodyHigh else rightShoulder
            updatedAt := now, expiresAt }
          (bodyLow < neckline || raises)
    | .long =>
      if floor < bodyHigh then .cancel
      else
        let lowers := cancel < bodyLow && rightShoulder.all (bodyLow < ·)
        .proceed
          { neckline := max neckline bodyHigh
            rightShoulder := if lowers then some bodyLow else rightShoulder
            updatedAt := now, expiresAt }
          (neckline < bodyHigh || lowers)
  | _, _ => .noChange

def effectiveMwParams (baked : MwParams) (state : MwState) (direction : Direction) : MwParams :=
  { baked with
    neckline := state.neckline
    firstPoint := match state.rightShoulder, direction with
      | some shoulder, .short => max baked.firstPoint shoulder
      | some shoulder, .long => min baked.firstPoint shoulder
      | none, _ => baked.firstPoint }

def vetoTtlSeconds (ttlHours notAfter now : Int) : Int :=
  max (ttlHours * 3600 + max (numSeconds (notAfter - now)) 0) minTtlSeconds

def mwCancelVetoName : String := "mw-cancel"

/-- `maybe_update_mw_state`: the live parameters of an M/W enter, `none` for any other,
or the cancellation of the setup. -/
def maybeUpdateMwState (ans : Answers) (call : EnterCall) (world : World) :
    World × Except ActionResult (Option MwParams) :=
  match call.intent.mw, call.intent.tradeId, call.intent.direction with
  | some mw, some tradeId, some direction =>
    if !ans.store .getMwState then (world, .ok none)
    else
      let ttl := vetoTtlSeconds 0 call.intent.notAfter call.now
      let anchors : MwAnchors :=
        { direction, runupStart := mw.runupStart, leftShoulder := mw.firstPoint,
          bakedNeckline := mw.neckline, drawnRightShoulder := mw.rightShoulder }
      match planMwUpdate anchors (world.store.getMwState call.now tradeId) call.verified.shell call.now
          (call.now + seconds ttl) with
      | .noChange => (world, .ok none)
      | .proceed state changed =>
        let store := if changed && ans.store .upsertMwState then
            world.store.upsertMwState call.now tradeId state ttl
          else world.store
        ({ world with store }, .ok (some (effectiveMwParams mw state direction)))
      | .cancel =>
        let book := world.book.cancelPendingForInstrument ans.sweepCancels call.intent.instrument
        let store := if ans.store .setVeto then
            world.store.setVeto call.now tradeId call.intent.instrument mwCancelVetoName ttl
          else world.store
        let store := if ans.store .clearMwState then store.clearMwState tradeId else store
        ({ store, book }, .error (.rejected 412 "mw pattern cancelled (validity floor breached)"
          "rejected: mw-cancel (validity-floor)"))
  | _, _, _ => (world, .ok none)

def declinedNotArmed : ActionResult := .rejected 200 "declined: mw-not-armed" "declined: mw-not-armed"

inductive AllowEntryOutcome
  | proceed
  | blocked
  | needsGoldenUnmet
  | needsConfirmedUnmet
  | scriptError (kind : String)
  deriving DecidableEq

def allowEntryGate (env : Env) (verified : Verified) (resolved : Resolved) (pipSize : Rat) :
    AllowEntryOutcome :=
  let intent := verified.intent
  if intent.needsGolden && verified.shell.golden ≠ some true then .needsGoldenUnmet
  else if intent.needsConfirmed && verified.shell.signalConfirmed ≠ some true then
    .needsConfirmedUnmet
  else match intent.allowEntry with
  | none => .proceed
  | some gate =>
    match env.rules.resolveBool verified.shell resolved pipSize gate with
    | .ok true => .proceed
    | .ok false => .blocked
    | .error error => .scriptError error.kind

def AllowEntryOutcome.rejection : AllowEntryOutcome → Option ActionResult
  | .proceed => none
  | .blocked => some (.rejected 412 "entry blocked" "rejected: allow-entry-false")
  | .needsGoldenUnmet =>
    some (.rejected 412 "entry blocked: needs-golden" "rejected: needs-golden")
  | .needsConfirmedUnmet =>
    some (.rejected 412 "entry blocked: needs-confirmed" "rejected: needs-confirmed")
  | .scriptError kind =>
    some (.rejected 412 "entry blocked: script error" s!"rejected: allow-entry-{kind}")

def maxExpiryBars : Nat := 5

/-- When a pending order of this fire is to be pulled unfilled. -/
def resolveCancelAt (env : Env) (verified : Verified) : Except ActionResult (Option Int) :=
  match verified.intent.expiryBars with
  | none => .ok none
  | some tunable =>
    match env.rules.resolveNat verified.shell tunable with
    | .error error => .error (.rejected 412 "entry blocked: expiry-bars script"
        s!"rejected: expiry-bars-script-{error.kind}")
    | .ok bars =>
      if bars = 0 ∨ maxExpiryBars < bars then
        .error (.rejected 400 "entry blocked: expiry-bars out of range"
          "rejected: expiry-bars-out-of-range")
      else
        let notAfter := verified.intent.notAfter
        .ok (some (min ((verified.shell.nextCandleTimestamp bars).getD notAfter) notAfter))

def Env.pipSizeFor (env : Env) (intent : Intent) : Rat := intent.pipSize.getD env.pipSize

def Env.tickSizeFor (env : Env) (intent : Intent) : Rat :=
  (intent.tickSize.or env.tickSize).getD (env.pipSizeFor intent)

/-- Resolve the geometry and run the gates that only judge it. -/
def resolveEntry (env : Env) (call : EnterCall) (mw : Option MwParams) :
    Except ActionResult (Resolved × Option Int) :=
  let pipSize := env.pipSizeFor call.intent
  let tickSize := env.tickSizeFor call.intent
  let resolution := match mw with
    | some mw => Resolved.fromMwIntent env.rules call.intent call.verified.shell mw tickSize
    | none => Resolved.fromIntent env.rules call.intent call.verified.shell pipSize tickSize
  match resolution with
  | .error .notArmedYet => .error declinedNotArmed
  | .error _ => .error (.rejected 400 "rejected" "rejected: resolve-failed")
  | .ok resolved =>
    match call.intent.entryLevelVetos.find? (·.isPast resolved.entry.referencePrice) with
    | some veto => .error (.rejected 412 "veto active" s!"rejected: veto-active ({veto.name})")
    | none =>
      match (allowEntryGate env call.verified resolved pipSize).rejection with
      | some result => .error result
      | none =>
        match resolveCancelAt env call.verified with
        | .error result => .error result
        | .ok cancelAt => .ok (resolved, cancelAt)

end TradeControl
