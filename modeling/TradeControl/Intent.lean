import Mathlib.Algebra.Order.Ring.Unbundled.Rat
import Mathlib.Data.Rat.Lemmas
import Mathlib.Order.MinMax
import TradeControl.Instant

namespace TradeControl

inductive Direction
  | long
  | short
  deriving DecidableEq

inductive Action
  | enter | close | invalidate | status | unlock | prep | veto | prepExpire | clearPrep | clearVeto
  | pause | resume | newsStart | newsEnd | register | marketInfo | planList | planShow
  | planTimeline | planDelete | planPaper | planSwapAccount | planClosedManually | planPurge
  | purgeOlderThan
  deriving DecidableEq

/-- A value given in the signed text, or the text of a script that yields it. -/
inductive Tunable (α : Type)
  | static (value : α)
  | script (text : String)
  deriving DecidableEq

inductive EntryDedup
  | engineLatched
  | gateOwned
  deriving DecidableEq

def EntryDedup.needsRetryGate (dedup : EntryDedup) : Bool := dedup == .gateOwned

/-- One slot of the prep chain: a single prep, or any of several. -/
inductive PrepReq
  | all (step : String)
  | any (steps : List String)
  deriving DecidableEq

def PrepReq.alternatives : PrepReq → List String
  | .all step => [step]
  | .any steps => steps

inductive VetoSide
  | below
  | above
  deriving DecidableEq

structure EntryLevelVeto where
  name : String
  level : Rat
  past : VetoSide
  deriving DecidableEq

def EntryLevelVeto.isPast (veto : EntryLevelVeto) (entryPrice : Rat) : Bool :=
  match veto.past with
  | .below => entryPrice ≤ veto.level
  | .above => veto.level ≤ entryPrice

structure MwParams where
  neckline : Rat
  firstPoint : Rat
  runupStart : Rat
  rightShoulder : Option Rat
  spreadPips : Rat
  pipSize : Rat
  deriving DecidableEq

inductive PriceAnchor
  | close
  | high
  | low
  | recentHigh
  | recentLow
  | signalHigh
  | signalLow
  deriving DecidableEq

def PriceAnchor.bufferSign : PriceAnchor → Option Rat
  | .high | .recentHigh | .signalHigh => some 1
  | .low | .recentLow | .signalLow => some (-1)
  | .close => none

inductive PriceRef
  | absoluteBuffered (absolute offsetAtrPct sign : Rat)
  | absolute (absolute : Rat)
  | anchored (source : PriceAnchor) (offsetPips : Rat) (offsetAtrPct : Option Rat)
  deriving DecidableEq

inductive TakeProfit
  | rMultiple (source : PriceAnchor) (offsetR : Rat)
  | anchored (price : PriceRef)
  deriving DecidableEq

inductive RecoverEntryAction
  | skip
  | market
  | limit
  | stop
  deriving DecidableEq

/-- What a market-hours blackout does about a position the setup has filled into. -/
inductive BlackoutCloseAction
  | cancelResting
  | cancelAndClose
  deriving DecidableEq

structure RecoverEntry where
  action : RecoverEntryAction
  maxSlippagePips : Option Rat
  deriving DecidableEq

/-- Where a pending entry rests: an absolute level, or an offset from an anchor. -/
structure PendingSpec where
  source : PriceAnchor
  offsetPips : Rat := 0
  offsetAtrPct : Option Rat := none
  atPrice : Option Rat := none
  recoverEntry : Option RecoverEntry := none
  deriving DecidableEq

inductive EntrySpec
  | market
  | stop (spec : PendingSpec)
  | limit (spec : PendingSpec)
  deriving DecidableEq

/-- The bar a fire carries. -/
structure Shell where
  time : Int
  openPrice : Option Rat := none
  high : Rat
  low : Rat
  close : Rat
  signalHigh : Option Rat := none
  signalLow : Option Rat := none
  recentHigh : Option Rat := none
  recentLow : Option Rat := none
  atr : Option Rat := none
  golden : Option Bool := none
  signalConfirmed : Option Bool := none
  nextCandleTimestamp1 : Option Int := none
  nextCandleTimestamp2 : Option Int := none
  nextCandleTimestamp3 : Option Int := none
  nextCandleTimestamp4 : Option Int := none
  nextCandleTimestamp5 : Option Int := none

def Shell.anchorPrice (shell : Shell) : PriceAnchor → Rat
  | .close => shell.close
  | .high => shell.high
  | .low => shell.low
  | .recentHigh => shell.recentHigh.getD shell.high
  | .recentLow => shell.recentLow.getD shell.low
  | .signalHigh => shell.signalHigh.getD shell.high
  | .signalLow => shell.signalLow.getD shell.low

def Shell.bodyHigh (shell : Shell) : Option Rat := shell.openPrice.map (max · shell.close)

def Shell.bodyLow (shell : Shell) : Option Rat := shell.openPrice.map (min · shell.close)

def Shell.nextCandleTimestamp (shell : Shell) : Nat → Option Int
  | 1 => shell.nextCandleTimestamp1
  | 2 => shell.nextCandleTimestamp2
  | 3 => shell.nextCandleTimestamp3
  | 4 => shell.nextCandleTimestamp4
  | 5 => shell.nextCandleTimestamp5
  | _ => none

/-- The signed instruction, with the fields the entry path reads. -/
structure Intent where
  v : Nat := 1
  id : String
  notBefore : Option Int := none
  notAfter : Int
  action : Action := .enter
  instrument : String
  direction : Option Direction := none
  entry : Option EntrySpec := none
  stopLoss : Option PriceRef := none
  takeProfit : Option TakeProfit := none
  riskPct : Tunable Rat := .static 1
  riskAmount : Option (Tunable Rat) := none
  sizeUnits : Option (Tunable Rat) := none
  dryRun : Option Bool := none
  minR : Option (Tunable Rat) := none
  tradeId : Option String := none
  maxRetries : Tunable Nat := .static 0
  entryDedup : Option EntryDedup := none
  requiresPreps : List PrepReq := []
  vetos : List String := []
  entryLevelVetos : List EntryLevelVeto := []
  expiryBars : Option (Tunable Nat) := none
  allowEntry : Option (Tunable Bool) := none
  needsGolden : Bool := false
  needsConfirmed : Bool := false
  mw : Option MwParams := none
  pipSize : Option Rat := none
  tickSize : Option Rat := none
  blackoutClose : BlackoutCloseAction := .cancelResting

structure Verified where
  intent : Intent
  shell : Shell

/-- An explicit owner is obeyed; an absent one is derived from the cap. -/
def effectiveEntryDedup (stored : Option EntryDedup) (maxRetries : Tunable Nat) : EntryDedup :=
  match stored with
  | some explicit => explicit
  | none => if maxRetries = .static 0 then .engineLatched else .gateOwned

def Intent.effectiveEntryDedup (intent : Intent) : EntryDedup :=
  TradeControl.effectiveEntryDedup intent.entryDedup intent.maxRetries

inductive IntentValidationError
  | invalidTradeId
  | missingTradeId
  | maxRetriesWithoutTradeId
  | maxRetriesOnNonEnter
  | entryDedupWithoutTradeId
  | entryDedupOnNonEnter
  | allowEntryOnNonEnter
  | needsGoldenOnDisallowedAction
  | needsConfirmedOnDisallowedAction
  | mwOnNonEnter
  | mwFieldInvalid
  | pipSizeInvalid
  deriving DecidableEq

def tradeIdMaxLen : Nat := 64

/-- Lowercase ASCII letters, digits and inner single hyphens. -/
def isValidTradeId (id : String) : Bool :=
  let chars := id.toList
  !chars.isEmpty && chars.length ≤ tradeIdMaxLen &&
    chars.head? ≠ some '-' && chars.getLast? ≠ some '-' &&
    (chars.zip chars.tail).all (· ≠ ('-', '-')) &&
    chars.all fun c => ('a' ≤ c && c ≤ 'z') || ('0' ≤ c && c ≤ '9') || c == '-'

def Action.requiresTradeId (action : Action) : Bool :=
  action ∈ [.enter, .veto, .clearVeto, .planDelete, .planPaper, .planSwapAccount,
    .planClosedManually, .planPurge, .planTimeline]

/-- `Intent::validate`, over the fields kept here. -/
def Intent.validate (intent : Intent) : Except IntentValidationError Unit := do
  if intent.tradeId.any (! isValidTradeId ·) then throw .invalidTradeId
  if intent.action.requiresTradeId && intent.tradeId.isNone then throw .missingTradeId
  if intent.maxRetries ≠ .static 0 then
    if intent.tradeId.isNone then throw .maxRetriesWithoutTradeId
    if intent.action ≠ .enter then throw .maxRetriesOnNonEnter
  if intent.entryDedup = some .gateOwned then
    if intent.tradeId.isNone then throw .entryDedupWithoutTradeId
    if intent.action ≠ .enter then throw .entryDedupOnNonEnter
  if intent.allowEntry.isSome && intent.action ≠ .enter then throw .allowEntryOnNonEnter
  if intent.needsGolden && intent.action ∉ [.enter, .close] then
    throw .needsGoldenOnDisallowedAction
  if intent.needsConfirmed && intent.action ∉ [.enter, .close] then
    throw .needsConfirmedOnDisallowedAction
  if let some mw := intent.mw then
    if intent.action ≠ .enter then throw .mwOnNonEnter
    if mw.spreadPips < 0 || mw.pipSize ≤ 0 then throw .mwFieldInvalid
    if let some shoulder := mw.rightShoulder then
      if decide (mw.neckline < shoulder) ≠ decide (mw.neckline < mw.firstPoint) then
        throw .mwFieldInvalid
  if let some pip := intent.pipSize then
    if pip ≤ 0 then throw .pipSizeInvalid

end TradeControl
