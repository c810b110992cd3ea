import TradeControl.CandleMetrics
import TradeControl.MovingAverages
import TradeControl.WidenedStops

namespace TradeControl

/-! The break-even watcher, which moves the stop of an open position to its fill. -/

def defaultBreakevenThreshold : Rat := 1 / 2

inductive BreakevenTrigger
  | priceProgress
  | priceProgressOrMaCross
  | maCrossOnly
  | maProtectionOnly
  deriving DecidableEq

def BreakevenTrigger.includesMaCross : BreakevenTrigger → Bool
  | .priceProgressOrMaCross | .maCrossOnly => true
  | .priceProgress | .maProtectionOnly => false

structure Breakeven where
  sma200Break : Bool := false
  trigger : BreakevenTrigger := .priceProgress
  threshold : Rat := defaultBreakevenThreshold

/-- A threshold outside (0, 1) is not taken from the wire. -/
def Breakeven.sane (rule : Breakeven) : Rat :=
  if rule.threshold ≤ 0 ∨ 1 ≤ rule.threshold then defaultBreakevenThreshold else rule.threshold

/-- The price a bar has to close past for break-even to arm. -/
def Breakeven.armsAt (rule : Breakeven) (entry takeProfit : Rat) : Rat :=
  entry + rule.sane * (takeProfit - entry)

def Breakeven.closeArms (rule : Breakeven) (direction : Direction) (level close : Rat) : Bool :=
  match rule.trigger, direction with
  | .maCrossOnly, _ | .maProtectionOnly, _ => false
  | _, .long => level ≤ close
  | _, .short => close ≤ level

/-- The stop stands at the target already, or past it in the trade's favour. -/
def Direction.alreadyAt : Direction → Rat → Rat → Bool
  | .long, stop, target => target ≤ stop
  | .short, stop, target => stop ≤ target

/-- `decide_move`: the target is the entry price itself. -/
def Breakeven.decideMove (rule : Breakeven) (direction : Direction)
    (entry takeProfit currentStop bestClose : Rat) : Option Rat :=
  if !rule.closeArms direction (rule.armsAt entry takeProfit) bestClose then none
  else if direction.alreadyAt currentStop entry then none
  else some entry

def moreProgressed : Direction → Rat → Rat → Rat
  | .long, a, b => max a b
  | .short, a, b => min a b

def longAverage : MovingAverage := { kind := .sma, period := 200 }

def Breakeven.hasMaVeto (rule : Breakeven) : Bool := rule.trigger.includesMaCross || rule.sma200Break

def Breakeven.maVetoHistoryBars (rule : Breakeven) : Int :=
  if rule.sma200Break then 201 else if rule.trigger.includesMaCross then 91 else 0

def Breakeven.maVetoReadyAt (rule : Breakeven) (candles : List Candle) (index : Nat) : Bool :=
  (!rule.trigger.includesMaCross || readyAt candles index) &&
    (!rule.sma200Break || averageReadyAt candles index longAverage)

def Breakeven.maVetoAt (rule : Breakeven) (candles : List Candle) (index : Nat) (direction : Direction) :
    Bool :=
  (rule.trigger.includesMaCross && adverseCrossAt candles index direction) ||
    (rule.sma200Break && averageBreakAt candles index longAverage direction)

/-- What the attempt's row remembers of the rule it was placed under. -/
structure BreakevenSnapshot where
  rule : Breakeven
  entryPrice : Rat
  takeProfit : Rat
  granularity : Granularity

/-- What the broker reports of an open position's fill. -/
structure FillReport where
  entryPrice : Option Rat
  openedAt : Option Int

structure BreakevenInputs where
  snapshot : BreakevenSnapshot
  instrument : String
  direction : Direction
  fill : FillReport
  currentStop : Rat

inductive BreakevenBlock
  | noFillTime
  | insideNoise (newStop referencePrice distance floor : Rat)
  deriving DecidableEq

inductive BreakevenDecision
  | hold
  | amend (newStop armedBy : Rat) (armedAt : Int)
  | blocked (block : BreakevenBlock)
  deriving DecidableEq

def BreakevenInputs.targetEntry (inputs : BreakevenInputs) : Rat :=
  inputs.fill.entryPrice.getD inputs.snapshot.entryPrice

/-- The bar closed after the fill, has closed by now, and opened outside the spread hours. -/
def BreakevenInputs.armable (spreads : SpreadCalendar) (inputs : BreakevenInputs) (fillAt now : Int)
    (candle : Candle) : Bool :=
  let closed := candle.time + seconds inputs.snapshot.granularity.seconds
  decide (closed ≤ now) && decide (fillAt < closed) &&
    !spreads.isSpreadHour (spreads.lookupKey inputs.instrument) candle.time

def armableCandles (spreads : SpreadCalendar) (inputs : BreakevenInputs) (fillAt now : Int)
    (candles : List Candle) : List Candle :=
  candles.filter (inputs.armable spreads fillAt now)

def breakevenMinAtrFraction : Rat := 1 / 10

/-- `judge_breakeven_stop`: an unjudgeable range lets the stop through. -/
def noiseViolation (armable : List Candle) (newStop : Rat) (granularity : Granularity) :
    Option BreakevenBlock :=
  match armable.getLast?, wilderAtr armable (atrLengthFor granularity) with
  | some latest, some atr =>
    let floor := breakevenMinAtrFraction * atr
    let distance := |newStop - latest.c|
    if 0 < atr ∧ distance < floor then some (.insideNoise newStop latest.c distance floor) else none
  | _, _ => none

/-- The better progressed of two bars; a tie goes to the later one. -/
def progressed (direction : Direction) (a b : Candle) : Candle :=
  if moreProgressed direction a.c b.c = b.c then b else a

def mostProgressed (direction : Direction) : List Candle → Option Candle
  | [] => none
  | first :: rest => some (rest.foldl (progressed direction) first)

/-- `decide_for_account`. -/
def decideForAccount (spreads : SpreadCalendar) (inputs : BreakevenInputs) (candles : List Candle)
    (now : Int) : BreakevenDecision :=
  match inputs.fill.openedAt with
  | none => .blocked .noFillTime
  | some fillAt =>
    let armable := armableCandles spreads inputs fillAt now candles
    match mostProgressed inputs.direction armable with
    | none => .hold
    | some best =>
      match inputs.snapshot.rule.decideMove inputs.direction inputs.targetEntry inputs.snapshot.takeProfit
          inputs.currentStop best.c with
      | none => .hold
      | some newStop =>
        match noiseViolation armable newStop inputs.snapshot.granularity with
        | some block => .blocked block
        | none => .amend newStop best.c best.time

/-- A bar with the closes of both books beside the mid. -/
structure BidAskCandle where
  mid : Candle
  bidC : Rat
  askC : Rat

/-- `tighten_to_fill`: the fill, where it lies between the stop and the price to get out at. -/
def tightenToFill (direction : Direction) (fill currentStop exitPrice : Rat) : Option Rat :=
  let permitted := match direction with
    | .long => decide (currentStop < fill ∧ fill < exitPrice)
    | .short => decide (fill < currentStop ∧ exitPrice < fill)
  if permitted then some fill else none

def BidAskCandle.exitPrice (candle : BidAskCandle) : Direction → Rat
  | .long => candle.bidC
  | .short => candle.askC

/-- `cross_stop_at`. -/
def crossStopAt (inputs : BreakevenInputs) (fill exitPrice : Rat) (mid : List Candle) (index : Nat)
    (candle : BidAskCandle) : Option Rat :=
  if !inputs.snapshot.rule.maVetoAt mid index inputs.direction then none
  else
    match tightenToFill inputs.direction fill inputs.currentStop (candle.exitPrice inputs.direction) with
    | none => none
    | some _ => tightenToFill inputs.direction fill inputs.currentStop exitPrice

/-- `decide_ma_cross`: the latest bar that turned against the trade, if the stop may go to the fill. -/
def decideMaCross (spreads : SpreadCalendar) (inputs : BreakevenInputs) (candles : List BidAskCandle)
    (now : Int) (exitPrice : Rat) : BreakevenDecision :=
  if !inputs.snapshot.rule.hasMaVeto then .hold
  else match inputs.fill.openedAt, inputs.fill.entryPrice with
  | none, _ => .blocked .noFillTime
  | some _, none => .hold
  | some fillAt, some fill =>
    let mid := candles.map (·.mid)
    if mid.isEmpty || !inputs.snapshot.rule.maVetoReadyAt mid (mid.length - 1) then .hold
    else
      let found := (candles.zipIdx.reverse.filter fun bar => inputs.armable spreads fillAt now bar.1.mid)
        |>.findSome? fun bar =>
          (crossStopAt inputs fill exitPrice mid bar.2 bar.1).map fun newStop =>
            BreakevenDecision.amend newStop bar.1.mid.c bar.1.mid.time
      found.getD .hold

/-- What the watcher meets at one position: the broker's bars since an instant, the price to get
out at, and the amend. -/
structure BreakevenAnswers where
  candles : Int → Option (List Candle)
  exitPrice : Option Rat := none
  bidaskCandles : Int → Option (List BidAskCandle) := fun _ => none
  amend : AmendReply := .confirmed

def breakevenLookbackBars : Int := 500

def BreakevenInputs.since (inputs : BreakevenInputs) (now : Int) : Int :=
  let barSeconds := inputs.snapshot.granularity.seconds
  let since := now - seconds (barSeconds * breakevenLookbackBars)
  if inputs.snapshot.rule.hasMaVeto then
    match inputs.fill.openedAt with
    | some fillAt => min (fillAt - seconds (barSeconds * inputs.snapshot.rule.maVetoHistoryBars * 3)) since
    | none => since
  else since

def breakevenDecision (spreads : SpreadCalendar) (ans : BreakevenAnswers) (inputs : BreakevenInputs)
    (candles : List Candle) (now : Int) : BreakevenDecision :=
  let cross :=
    if inputs.snapshot.rule.hasMaVeto then
      match ans.exitPrice, ans.bidaskCandles (inputs.since now) with
      | some exitPrice, some books => decideMaCross spreads inputs books now exitPrice
      | _, _ => .hold
    else .hold
  if cross = .hold then decideForAccount spreads inputs candles now else cross

def BreakevenSnapshot.inputs (snapshot : BreakevenSnapshot) (position : BrokerOrder) (fill : FillReport)
    (currentStop : Rat) : BreakevenInputs where
  snapshot
  instrument := position.instrument
  direction := position.direction
  fill
  currentStop

/-- `watch_one` of the break-even watcher, with the snapshots that the attempts' rows carry. -/
def breakevenWatchOne (spreads : SpreadCalendar) (ans : BreakevenAnswers)
    (breakeven : EntryAttempt → Option BreakevenSnapshot) (attempts : List EntryAttempt)
    (position : BrokerOrder) (fill : FillReport) (now : Int) (book : Book) : Book :=
  match position.stopLoss with
  | none => book
  | some currentStop =>
    match (joinPositionToAttempt position attempts).bind breakeven with
    | none => book
    | some snapshot =>
      match ans.candles ((snapshot.inputs position fill currentStop).since now) with
      | none => book
      | some candles =>
        match breakevenDecision spreads ans (snapshot.inputs position fill currentStop) candles now with
        | .hold | .blocked _ => book
        | .amend newStop _ _ => (book.amendStop ans.amend position.id newStop).1

end TradeControl
