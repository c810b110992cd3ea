import TradeControl.Broker
import TradeControl.SpreadFloor

namespace TradeControl

inductive RuleError
  | parse
  | eval
  | wrongType
  deriving DecidableEq

def RuleError.kind : RuleError → String
  | .parse => "parse"
  | .eval => "eval"
  | .wrongType => "wrong-type"

structure ResolvedRecoverEntry where
  action : RecoverEntryAction
  maxSlippagePrice : Option Rat
  deriving DecidableEq

/-- The concrete order geometry of one fire. -/
structure Resolved where
  setupId : String
  instrument : String
  direction : Direction
  entry : ResolvedEntry
  stopLoss : Rat
  takeProfit : Rat
  minR : Rat
  dryRun : Bool
  recoverEntry : Option ResolvedRecoverEntry
  deriving DecidableEq

inductive ResolveError
  | missingField (name : String)
  | invalidGeometry
  | notArmedYet
  | notAnEntry
  | minRBelowFloor (requested : Rat)
  | belowMinR (actual minimum : Rat)
  | entryOutsideRange (entry stopLoss takeProfit : Rat)
  | bothRiskModesSet
  | invalidRiskAmount (value : Rat)
  | invalidSizeUnits (value : Rat)
  | invalidTunableValue (field : String) (value : Rat)
  | scriptFailed (field kind : String)
  | bothOffsetsSet
  | atrPctOnCloseAnchor
  | negativeAtrPct (value : Rat)
  | atrUnavailable
  | invalidBufferSign (value : Rat)
  deriving DecidableEq

/-- The rule engine that evaluates a script, over the bar and, once there is one,
over the resolved geometry. -/
structure Rules where
  naturals : String → Shell → Except RuleError Nat
  rationals : String → Shell → Resolved → Rat → Except RuleError Rat
  booleans : String → Shell → Resolved → Rat → Except RuleError Bool

def Rules.resolveNat (rules : Rules) (shell : Shell) : Tunable Nat → Except RuleError Nat
  | .static value => .ok value
  | .script text => rules.naturals text shell

def Rules.resolveRat (rules : Rules) (field : String) (shell : Shell) (snapshot : Resolved)
    (pipSize : Rat) : Tunable Rat → Except ResolveError Rat
  | .static value => .ok value
  | .script text =>
    match rules.rationals text shell snapshot pipSize with
    | .ok value => .ok value
    | .error error => .error (.scriptFailed field error.kind)

def Rules.resolveBool (rules : Rules) (shell : Shell) (resolved : Resolved) (pipSize : Rat) :
    Tunable Bool → Except RuleError Bool
  | .static value => .ok value
  | .script text => rules.booleans text shell resolved pipSize

def resolveOffset (source : PriceAnchor) (offsetPips : Rat) (offsetAtrPct : Option Rat)
    (shell : Shell) (pipSize : Rat) : Except ResolveError Rat :=
  match offsetAtrPct with
  | none => .ok (offsetPips * pipSize)
  | some pct =>
    if offsetPips ≠ 0 then .error .bothOffsetsSet
    else if pct < 0 then .error (.negativeAtrPct pct)
    else match source.bufferSign, shell.atr with
      | none, _ => .error .atrPctOnCloseAnchor
      | _, none => .error .atrUnavailable
      | some sign, some atr => .ok (sign * (pct / 100) * atr)

def bufferDelta (offsetAtrPct sign : Rat) (shell : Shell) : Except ResolveError Rat :=
  if offsetAtrPct < 0 then .error (.negativeAtrPct offsetAtrPct)
  else if sign ≠ 1 ∧ sign ≠ -1 then .error (.invalidBufferSign sign)
  else if offsetAtrPct = 0 then .ok 0
  else match shell.atr with
    | none => .error .atrUnavailable
    | some atr => .ok (sign * (offsetAtrPct / 100) * atr)

def PriceRef.resolve (shell : Shell) (pipSize : Rat) : PriceRef → Except ResolveError Rat
  | .absolute price => .ok price
  | .absoluteBuffered price offsetAtrPct sign => (price + ·) <$> bufferDelta offsetAtrPct sign shell
  | .anchored source offsetPips offsetAtrPct =>
    (shell.anchorPrice source + ·) <$> resolveOffset source offsetPips offsetAtrPct shell pipSize

def TakeProfit.resolve (shell : Shell) (pipSize : Rat) (direction : Direction) (entry stopLoss : Rat) :
    TakeProfit → Except ResolveError Rat
  | .anchored price => price.resolve shell pipSize
  | .rMultiple _ offsetR =>
    let r := |entry - stopLoss|
    .ok <| match direction with
      | .long => entry + offsetR * r
      | .short => entry - offsetR * r

def RecoverEntry.resolve (pipSize stopLoss trigger : Rat) (recovery : RecoverEntry) :
    ResolvedRecoverEntry where
  action := recovery.action
  maxSlippagePrice := match recovery.action, recovery.maxSlippagePips with
    | _, some pips => some (|pips| * pipSize)
    | .market, none => some |stopLoss - trigger|
    | _, none => none

def PendingSpec.trigger (spec : PendingSpec) (shell : Shell) (pipSize : Rat) :
    Except ResolveError Rat :=
  match spec.atPrice with
  | some absolute => .ok absolute
  | none => (shell.anchorPrice spec.source + ·) <$>
      resolveOffset spec.source spec.offsetPips spec.offsetAtrPct shell pipSize

/-- An entry trigger the market has already crossed; an absolute level is never judged so. -/
def PendingSpec.wrongSide (spec : PendingSpec) (above : Bool) (trigger close : Rat) : Bool :=
  spec.atPrice.isNone && (if above then trigger ≤ close else close ≤ trigger)

/-- The entry to place and the recovery kept for it, before the tick grid. -/
def EntrySpec.resolve (shell : Shell) (pipSize stopLoss : Rat) (direction : Direction) :
    EntrySpec → Except ResolveError (ResolvedEntry × Option ResolvedRecoverEntry)
  | .market => .ok (.market shell.close, none)
  | .stop spec => do
    let trigger ← spec.trigger shell pipSize
    let recovery := spec.recoverEntry.map (·.resolve pipSize stopLoss trigger)
    if !spec.wrongSide (direction = .long) trigger shell.close then
      return (.stop trigger, recovery)
    match spec.recoverEntry.map RecoverEntry.action with
    | some .market => return (.market shell.close, recovery)
    | some .limit => return (.limit trigger, some ⟨.limit, none⟩)
    | _ => throw .invalidGeometry
  | .limit spec => do
    let trigger ← spec.trigger shell pipSize
    let recovery := spec.recoverEntry.map (·.resolve pipSize stopLoss trigger)
    if !spec.wrongSide (direction = .short) trigger shell.close then
      return (.limit trigger, recovery)
    match spec.recoverEntry.map RecoverEntry.action with
    | some .stop => return (.stop trigger, recovery)
    | _ => throw .invalidGeometry

def ResolvedEntry.round (entry : ResolvedEntry) (tickSize : Rat) : ResolvedEntry :=
  match entry with
  | .market price => .market (roundPrice price tickSize)
  | .stop price => .stop (roundPrice price tickSize)
  | .limit price => .limit (roundPrice price tickSize)

def inRange (direction : Direction) (stopLoss reference takeProfit : Rat) : Bool :=
  match direction with
  | .long => stopLoss < reference && reference < takeProfit
  | .short => takeProfit < reference && reference < stopLoss

/-- The budget of the risk mode in force is positive. -/
def checkRisk (rules : Rules) (intent : Intent) (shell : Shell) (snapshot : Resolved) (pipSize : Rat) :
    Except ResolveError Unit :=
  match intent.riskAmount, intent.sizeUnits with
  | none, some units => do
    let value ← rules.resolveRat "size_units" shell snapshot pipSize units
    if value ≤ 0 then throw (.invalidSizeUnits value)
  | none, none => do
    let value ← rules.resolveRat "risk_pct" shell snapshot pipSize intent.riskPct
    if value ≤ 0 then throw (.invalidTunableValue "risk_pct" value)
  | some amount, _ => do
    let value ← rules.resolveRat "risk_amount" shell snapshot pipSize amount
    if value ≤ 0 then throw (.invalidRiskAmount value)

/-- `Resolved::finish_with_sizing`: snap to the tick grid, then check the geometry,
the reward ratio and the risk budget. -/
def finishWithSizing (rules : Rules) (intent : Intent) (shell : Shell) (pipSize tickSize : Rat)
    (direction : Direction) (entry : ResolvedEntry) (stopLoss takeProfit : Rat)
    (recoverEntry : Option ResolvedRecoverEntry) : Except ResolveError Resolved := do
  let entry := entry.round tickSize
  let reference := entry.referencePrice
  let stopLoss := roundStopLoss stopLoss reference tickSize
  let takeProfit := roundTakeProfit takeProfit reference tickSize
  if intent.riskAmount.isSome && intent.sizeUnits.isSome then throw .bothRiskModesSet
  if !inRange direction stopLoss reference takeProfit then
    throw (.entryOutsideRange reference stopLoss takeProfit)
  let snapshot : Resolved :=
    { setupId := intent.tradeId.getD intent.id, instrument := intent.instrument, direction, entry,
      stopLoss, takeProfit, minR := minRFloor, dryRun := intent.dryRun.getD false, recoverEntry }
  let minR ← match intent.minR with
    | none => pure minRFloor
    | some tunable => rules.resolveRat "min_r" shell snapshot pipSize tunable
  if minR < minRFloor then throw (.minRBelowFloor minR)
  let actual := |takeProfit - reference| / |reference - stopLoss|
  if actual < minR then throw (.belowMinR actual minR)
  checkRisk rules intent shell snapshot pipSize
  return { snapshot with minR }

/-- Entry, stop and target of an M/W setup. -/
def mwStaticPrices (direction : Direction) (mw : MwParams) : Rat × Rat × Rat :=
  let pip := mw.pipSize
  let spread := mw.spreadPips * pip
  let halfSpread := spread / 2
  let halfPip := 1 / 2 * pip
  match direction with
  | .long =>
    let entry := mw.neckline + halfSpread + halfPip
    let stop := mw.firstPoint + halfSpread - (spread + pip)
    (entry, stop, entry + (entry - stop))
  | .short =>
    let entry := mw.neckline - halfSpread - halfPip
    let stop := mw.firstPoint - halfSpread + (spread + pip)
    (entry, stop, entry - (stop - entry))

def rightTowerMinFrac : Rat := 7 / 10
def midCrossFrac : Rat := 1 / 2
def cancelExtFrac : Rat := 13 / 10

/-- The bar completes the arming sequence of the M/W setup. -/
def mwArmed (direction : Direction) (shell : Shell) (mw : MwParams) (entry : Rat) : Bool :=
  let peak := mw.firstPoint
  let highestShoulder := match mw.rightShoulder, direction with
    | some shoulder, .short => max peak shoulder
    | some shoulder, .long => min peak shoulder
    | none, _ => peak
  let cancel := mw.neckline + cancelExtFrac * (highestShoulder - mw.neckline)
  let rightTower := mw.neckline + rightTowerMinFrac * (peak - mw.neckline)
  let mid50 := mw.neckline + midCrossFrac * (peak - mw.neckline)
  match direction with
  | .short =>
    !(cancel ≤ shell.high) &&
      (mw.rightShoulder.isSome ||
        (rightTower ≤ shell.high && mid50 ≤ shell.high && shell.close < mid50)) &&
      entry < shell.close
  | .long =>
    !(shell.low ≤ cancel) &&
      (mw.rightShoulder.isSome ||
        (shell.low ≤ rightTower && shell.low ≤ mid50 && mid50 < shell.close)) &&
      shell.close < entry

def Resolved.fromMwIntent (rules : Rules) (intent : Intent) (shell : Shell) (mw : MwParams)
    (tickSize : Rat) : Except ResolveError Resolved :=
  match intent.direction with
  | none => .error (.missingField "direction")
  | some direction =>
    let (entry, stopLoss, takeProfit) := mwStaticPrices direction mw
    if mwArmed direction shell mw entry then
      finishWithSizing rules intent shell mw.pipSize tickSize direction (.stop entry) stopLoss
        takeProfit none
    else .error .notArmedYet

def Resolved.fromIntent (rules : Rules) (intent : Intent) (shell : Shell) (pipSize tickSize : Rat) :
    Except ResolveError Resolved :=
  if intent.action ≠ .enter then .error .notAnEntry
  else match intent.mw with
    | some mw => fromMwIntent rules intent shell mw tickSize
    | none =>
      match intent.direction, intent.entry, intent.stopLoss, intent.takeProfit with
      | none, _, _, _ => .error (.missingField "direction")
      | _, none, _, _ => .error (.missingField "entry")
      | _, _, none, _ => .error (.missingField "stop_loss")
      | _, _, _, none => .error (.missingField "take_profit")
      | some direction, some entrySpec, some stopRef, some target => do
        let stopLoss ← stopRef.resolve shell pipSize
        let (entry, recovery) ← entrySpec.resolve shell pipSize stopLoss direction
        let takeProfit ← target.resolve shell pipSize direction entry.referencePrice stopLoss
        finishWithSizing rules intent shell pipSize tickSize direction entry stopLoss takeProfit
          recovery

end TradeControl
