import TradeControl.Resolution
import TradeControl.SpreadHours
import TradeControl.Store

namespace TradeControl

/-- The tables and the broker account the passes act on. -/
structure World where
  store : Store := {}
  book : Book := .empty

/-- Calls on the store that may fail, one by one. -/
inductive StoreCall
  | isSeen
  | markSeen
  | listPauses
  | isCooledDown
  | getPrep (step : String)
  | isVetoed (name : String)
  | getMwState
  | upsertMwState
  | setVeto
  | clearMwState
  | blackoutWindow
  | isRetryFireSeen
  | listEntryAttempts
  | setSuperseded
  | setBrokerTradeId
  | recordAttempt
  | markRetryFire
  | setReplacement
  | setAdverseExtreme
  | deleteAttempt
  | getOrderBody
  | putOrderBody
  | deleteOrderBody
  | readParked
  | rereadHeld
  | getHeld
  | upsertHeld
  | narrowHeld
  | pruneHeld
  | preservePark
  | clearHeld
  | releasePauses

inductive PlaceStage
  | entry
  | recovery
  | market

inductive QuoteUse
  | spreadGate
  | spreadFloor
  | recovery
  | market
  | release
  | restore
  | reprice
  | widen
  | sweep

/-- Everything outside the process that one operation meets: which store calls go
through, whether the broker can be reached or the plan's admin refuses first, what the
broker replies and what it quotes. -/
structure Answers where
  store : StoreCall → Bool := fun _ => true
  place : PlaceStage → PlaceReply := fun _ => .rests 1
  cancel : Nat → CancelReply := fun _ => .confirmed
  lookup : Nat → LookupReply := fun _ => .truth
  relookup : Nat → LookupReply := fun _ => .truth
  positions : Bool := true
  acquire : Bool := true
  refusal : Option (Nat × String) := none
  amend : Nat → AmendReply := fun _ => .confirmed
  quote : QuoteUse → Option Quote := fun _ => none
  candleSpread : Option Rat := none
  sweepCancels : Nat → Bool := fun _ => true

/-- What the passes consult and never change: the reader of signed bodies, the rule
engine, the baked instrument tables and the deployment's defaults. `parse` yields the
intent and bar of a text whose signature holds. -/
structure Env where
  rules : Rules
  parse : String → Option Verified
  reserialise : Intent → Option String
  pipSize : Rat
  tickSize : Option Rat
  spreads : SpreadCalendar
  sessionClosed : String → Int → Bool
  marketHoursBlocked : String → Int → Bool
  elevatedThresholdPips : String → Rat

inductive ActionResult
  | ok (outcome : String)
  | failed (outcome : String)
  | rejected (status : Nat) (body outcome : String)
  | ambiguousSuccess (outcome : String)
  deriving DecidableEq

/-- `market_session::market_open`. -/
def Env.marketOpen (env : Env) (instrument : String) (now : Int) : Bool :=
  !env.sessionClosed instrument now && !env.marketHoursBlocked instrument now

def ActionResult.isOk : ActionResult → Bool
  | .ok _ => true
  | _ => false

def stateError : ActionResult := .rejected 500 "state error" "rejected: state-error"

/-- What one call of the entry path is: a fresh fire, the re-placement of an order
that was pulled, or the first placement of a parked setup. -/
inductive EntryOrigin
  | fresh
  | replacing (oldBrokerOrderId : Nat)
  | promotion
  deriving DecidableEq

def EntryOrigin.isReplacement (origin : EntryOrigin) : Bool := origin ≠ .fresh

def EntryOrigin.skipsRetryGate : EntryOrigin → Bool
  | .replacing _ => true
  | .fresh | .promotion => false

def EntryOrigin.replacedOrderId : EntryOrigin → Option Nat
  | .replacing oldBrokerOrderId => some oldBrokerOrderId
  | .fresh | .promotion => none

inductive IncomingError
  | unreadable
  | unsupportedVersion (v : Nat)
  | staleShellTime
  | tooEarly
  | expired
  | invalidIntent (error : IntentValidationError)
  deriving DecidableEq

def maxShellSkewHours : Int := 24

def checkIntentFreshness (shell : Shell) (intent : Intent) (now : Int) : Except IncomingError Unit :=
  if intent.v ≠ 1 then .error (.unsupportedVersion intent.v)
  else if maxShellSkewHours < |numHours (shell.time - now)| then .error .staleShellTime
  else if intent.notBefore.any (now < ·) then .error .tooEarly
  else if intent.notAfter < now then .error .expired
  else .ok ()

def Env.parseAndVerify (env : Env) (body : String) (now : Int) : Except IncomingError Verified :=
  match env.parse body with
  | none => .error .unreadable
  | some verified =>
    match checkIntentFreshness verified.shell verified.intent now with
    | .error error => .error error
    | .ok () =>
      match verified.intent.validate with
      | .error error => .error (.invalidIntent error)
      | .ok () => .ok verified

/-- What a stored body turns out to be when it is verified again. -/
inductive Recovered
  | ok (verified : Verified)
  | expired
  | unrecoverable

/-- `SignedBodySource::recover`. -/
def Env.recover (env : Env) (body : String) (now : Int) : Recovered :=
  match env.parseAndVerify body now with
  | .ok verified => .ok verified
  | .error .expired | .error .staleShellTime => .expired
  | .error _ => .unrecoverable

/-- A deployment with no scripts and no baked tables, over one reader of bodies. -/
def Env.plain (parse : String → Option Verified) : Env where
  rules :=
    { naturals := fun _ _ => .error .parse
      rationals := fun _ _ _ _ => .error .parse
      booleans := fun _ _ _ _ => .error .parse }
  parse := parse
  reserialise := fun _ => none
  pipSize := 1
  tickSize := none
  spreads := { schedule := fun _ => none, lookupKey := id, isNyCloseEdge := fun _ => false }
  sessionClosed := fun _ _ => false
  marketHoursBlocked := fun _ _ => false
  elevatedThresholdPips := fun _ => 8

/-- A stop entry at 100 with its stop at 90 and its target at 130, good for twenty hours. -/
def stopEntry : Intent where
  id := "enter-1"
  notAfter := seconds 72000
  instrument := "INDEX"
  direction := some .long
  entry := some (.stop { source := .close, atPrice := some 100 })
  stopLoss := some (.absolute 90)
  takeProfit := some (.anchored (.absolute 130))
  tradeId := some "trade-1"
  maxRetries := .static 2
  pipSize := some 1

/-- `stopEntry` fired by the bar of this time. -/
def stopEntryAt (time : Int) : Verified where
  intent := stopEntry
  shell := { time, high := 96, low := 94, close := 95 }

/-- Bodies of `stopEntry` for the bars of the first two hours. -/
def twoBars : Env :=
  .plain fun body => some (stopEntryAt (if body = "second" then seconds 3600 else 0))

theorem parse_of_recover {env : Env} {body : String} {now : Int} {verified : Verified}
    (ok : env.recover body now = .ok verified) : env.parse body = some verified := by
  unfold Env.recover Env.parseAndVerify at ok
  cases read : env.parse body with
  | none => simp [read] at ok
  | some found =>
    rw [read] at ok
    dsimp only at ok
    cases fresh : checkIntentFreshness found.shell found.intent now with
    | error error => rw [fresh] at ok; cases error <;> cases ok
    | ok =>
      cases valid : found.intent.validate with
      | error error => simp [fresh, valid] at ok
      | ok => simp_all

end TradeControl
