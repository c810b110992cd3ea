import TradeControl.Breakeven
import TradeControl.Sweep
import TradeControl.WidenInstant

namespace TradeControl

/-! The replay's fill simulator: the bar a placed order fills on, and the level that ends its position. -/

/-- A bar with the ranges and the closes of both books beside the mid. -/
structure PathBar extends BidAskCandle where
  bidL : Rat
  bidH : Rat
  askL : Rat
  askH : Rat

def PathBar.time (bar : PathBar) : Int := bar.mid.time

inductive BookSide
  | bid
  | ask
  deriving DecidableEq

inductive Leg
  | entry
  | exit

def bookFor : Leg → Direction → BookSide
  | .entry, .long | .exit, .short => .ask
  | .entry, .short | .exit, .long => .bid

/-- The side that price comes to a level from. -/
inductive Approach
  | fromBelow
  | fromAbove

def Direction.stopApproach : Direction → Approach
  | .long => .fromAbove
  | .short => .fromBelow

def Direction.tpApproach : Direction → Approach
  | .long => .fromBelow
  | .short => .fromAbove

def ResolvedEntry.approach : ResolvedEntry → Direction → Approach
  | .stop _, .long | .limit _, .short => .fromBelow
  | .stop _, .short | .limit _, .long => .fromAbove
  | .market _, _ => .fromBelow

/-- `book_reaches`: a bar that opens beyond the level reaches it too. -/
def PathBar.bookReaches (bar : PathBar) (side : BookSide) (level : Rat) (approach : Approach) : Bool :=
  let (low, high) := match side with
    | .bid => (bar.bidL, bar.bidH)
    | .ask => (bar.askL, bar.askH)
  match approach with
  | .fromBelow => level ≤ high
  | .fromAbove => low ≤ level

def barAdverseExtreme : Direction → Rat → Rat → Rat
  | .long, _, low => low
  | .short, high, _ => high

/-- The smallest positive gap between consecutive times, and 0 where there is none. -/
def smallestGap (times : List Int) : Int :=
  ((List.zipWith (fun earlier later => later - earlier) times times.tail).filter (0 < ·)).min?.getD 0

def barSecondsOf (candles : List PathBar) : Int :=
  smallestGap (candles.map fun bar => bar.time / nanosPerSecond)

def inferBarLen (candles : List PathBar) : Int := smallestGap (candles.map (·.time))

/-- The baked tables that the replay reads. -/
structure ReplayCalendar where
  rows : String → Option BakedRow
  lookupKey : String → String
  isNyCloseEdge : Int → Bool
  elevatedThresholdPips : String → Rat

def ReplayCalendar.spreads (calendar : ReplayCalendar) : SpreadCalendar where
  schedule key := (calendar.rows key).map BakedRow.schedule
  lookupKey := calendar.lookupKey
  isNyCloseEdge := calendar.isNyCloseEdge

def ReplayCalendar.widenInstant (calendar : ReplayCalendar) (key : String) (barOpen barSeconds : Int) :
    Option (Int × Rat) :=
  (calendar.rows key).bind fun row => row.widenInstant barOpen barSeconds

def spreadSuppressionMaxBarSeconds : Int := 60 * 60

/-- `suppress_on_spread_hour_bar_seconds`: a bar of unknown length counts as a short one. -/
def ReplayCalendar.suppresses (calendar : ReplayCalendar) (key : String) (now barSeconds : Int) : Bool :=
  (decide (barSeconds ≤ 0) || decide (barSeconds ≤ spreadSuppressionMaxBarSeconds)) &&
    calendar.spreads.isSpreadHour key now

def backstopRestoreAllowed (calendar : ReplayCalendar) (key : String) (now : Int) (timerDue : Bool) : Bool :=
  timerDue && !calendar.spreads.isSpreadHour key now

/-- What the simulator is called with: the bracket as the broker holds it, with the break-even rule that
it was placed under, the intent with the rule as signed, and the path from the bar the enter fired on. -/
structure FillCall where
  resolved : Resolved
  breakeven : Option Breakeven
  intent : Intent
  signedBreakeven : Option Breakeven
  shellTime : Int
  pipSize : Rat
  candles : List PathBar

structure Fill where
  fillAt : Int
  entryPrice : Rat
  rest : List PathBar

section
variable (calendar : ReplayCalendar) (call : FillCall)

def FillCall.key : String := calendar.lookupKey call.intent.instrument

/-- The path that the fill is looked for on; a rule that watches an average is handed older bars too. -/
def FillCall.fillPath : List PathBar :=
  if call.signedBreakeven.any (·.hasMaVeto) then call.candles.dropWhile fun bar => bar.time < call.shellTime
  else call.candles

def truncateAtPreFillSlBreach (resolved : Resolved) (fillWindow : List PathBar) : List PathBar :=
  match fillWindow.findIdx? fun bar =>
      breachDetected resolved.direction (barAdverseExtreme resolved.direction bar.mid.h bar.mid.l)
        resolved.stopLoss with
  | some breach => fillWindow.take (breach + 1)
  | none => fillWindow

/-- The bars that a resting order can fill on. A scripted `expiry_bars` bounds nothing. -/
def FillCall.fillWindow (candles : List PathBar) : List PathBar :=
  let afterFire := candles.drop 1
  let unexpired := match call.intent.expiryBars with
    | some (.static bars) => afterFire.take bars
    | _ => afterFire
  truncateAtPreFillSlBreach call.resolved unexpired

def FillCall.fillsOn (barSeconds : Int) (bar : PathBar) : Bool :=
  bar.bookReaches (bookFor .entry call.resolved.direction) call.resolved.entry.referencePrice
      (call.resolved.entry.approach call.resolved.direction) &&
    !calendar.suppresses (call.key calendar) bar.time barSeconds

/-- The body of `find_fill`, over bars of a known length. -/
def FillCall.fillWith (barSeconds : Int) : Option Fill :=
  let candles := call.fillPath
  match call.resolved.entry with
  | .market referencePrice => some { fillAt := call.shellTime, entryPrice := referencePrice, rest := candles }
  | .stop triggerPrice | .limit triggerPrice =>
    ((call.fillWindow candles).findIdx? (call.fillsOn calendar barSeconds)).bind fun index =>
      match (candles.drop 1).drop index with
      | [] => none
      | bar :: later => some { fillAt := bar.time, entryPrice := triggerPrice, rest := bar :: later }

def findFill : Option Fill := call.fillWith calendar (barSecondsOf call.fillPath)

/-- `CrossHistory::stop`: the fill, on a bar that turns against the trade after the enter fired. -/
def FillCall.crossStop (bar : PathBar) (fill stop : Rat) : Option Rat :=
  if bar.time ≤ call.shellTime then none
  else match call.breakeven.filter (·.hasMaVeto) with
  | none => none
  | some rule =>
    let candles := call.candles.map (·.mid)
    let direction := call.resolved.direction
    (candles.findIdx? (·.time == bar.time)).bind fun index =>
      if !rule.maVetoAt candles index direction then none
      else
        let exitPrice := bar.exitPrice direction
        (tightenToFill direction fill stop exitPrice).bind fun _ =>
          tightenToFill direction fill stop exitPrice

end

/-- The stop that the broker would hold with no widen in force. -/
structure InForceStop where
  level : Rat
  armed : Bool := false

def InForceStop.considerArm (stop : InForceStop) (armable : Bool) (rule : Breakeven) (direction : Direction)
    (armsAt closePrice entryPrice : Rat) : InForceStop :=
  if !armable || stop.armed then stop
  else if !rule.closeArms direction armsAt closePrice then stop
  else { level := entryPrice, armed := true }

structure SpreadWiden where
  widenAt : Int
  effectiveFrom : Int
  originalStop : Rat
  widenSpreadPips : Rat
  widenedStop : Rat
  restoredAt : Option Int

structure WidenedSpan where
  effectiveFrom : Int
  restoredAt : Option Int
  widenedStop : Rat

def SpreadWiden.span (widen : SpreadWiden) : WidenedSpan where
  effectiveFrom := widen.effectiveFrom
  restoredAt := widen.restoredAt
  widenedStop := widen.widenedStop

/-- The bar comes before the restore. -/
def WidenedSpan.unrestored (span : WidenedSpan) (bar : Int) : Bool := span.restoredAt.all (bar < ·)

def WidenedSpan.covers (span : WidenedSpan) (bar : Int) : Bool :=
  decide (span.effectiveFrom ≤ bar) && span.unrestored bar

def stopOnBar (spans : List WidenedSpan) (bar : Int) (unshielded : Rat) : Rat :=
  ((spans.find? (·.covers bar)).map (·.widenedStop)).getD unshielded

def breakevenArmable (spans : List WidenedSpan) (bar : Int) : Bool := !spans.any (·.covers bar)

section
variable (calendar : ReplayCalendar) (call : FillCall)

def FillCall.spreadPips (bar : PathBar) : Rat := (bar.askC - bar.bidC) / call.pipSize

def FillCall.reachesStop (bar : PathBar) (stop : Rat) : Bool :=
  let direction := call.resolved.direction
  bar.bookReaches (bookFor .exit direction) stop direction.stopApproach

def FillCall.reachesTarget (bar : PathBar) : Bool :=
  let direction := call.resolved.direction
  bar.bookReaches (bookFor .exit direction) call.resolved.takeProfit direction.tpApproach

/-- The bar's spread has recovered, or it opens past the backstop and outside the spread hours. -/
def FillCall.restores (widenAt : Int) (bar : PathBar) : Bool :=
  decide (call.spreadPips bar ≤ spreadBlackoutRecoveredPips) ||
    backstopRestoreAllowed calendar (call.key calendar) bar.time (backstopDue widenAt bar.time)

def FillCall.restoreBar (widenAt : Int) (bars : List PathBar) : Option Int :=
  (bars.find? (call.restores calendar widenAt)).map (·.time)

/-- The pips that the bar widens a stop by; none where it does not widen. -/
def FillCall.widenPips (widenTriggerPips : Rat) (barSeconds : Int) (originalStop : Rat) (bar : PathBar) :
    Option Rat :=
  let bakedP90 := (calendar.widenInstant (call.key calendar) bar.time barSeconds).map fun answer =>
    widenFracToPips answer.2 originalStop call.pipSize
  if bakedP90.isNone && !calendar.isNyCloseEdge bar.time then none
  else
    let spreadPips := call.spreadPips bar
    match bakedP90 with
    | some p90 => some (spreadHourWidenSize p90 spreadPips)
    | none => if widenTriggerPips ≤ spreadPips then some (clampWiden spreadPips) else none

/-- `arm_breakeven_on_ordinary_bar`. -/
def FillCall.armOnOrdinaryBar (stop : InForceStop) (entryPrice : Rat) (bar : PathBar) : InForceStop :=
  let crossed := match call.crossStop bar entryPrice stop.level with
    | some level => { level, armed := true }
    | none => stop
  match call.breakeven with
  | some rule =>
    crossed.considerArm true rule call.resolved.direction
      (rule.armsAt entryPrice call.resolved.takeProfit) bar.mid.c entryPrice
  | none => crossed

def FillCall.openWiden (barSeconds : Int) (originalStop widenPips : Rat) (bar : PathBar)
    (later : List PathBar) : SpreadWiden where
  widenAt := ((calendar.widenInstant (call.key calendar) bar.time barSeconds).map (·.1)).getD bar.time
  effectiveFrom := bar.time
  originalStop
  widenSpreadPips := call.spreadPips bar
  widenedStop := widenedStop call.resolved.direction originalStop widenPips call.pipSize
  restoredAt := call.restoreBar calendar bar.time later

/-- The loop of `widen_episodes_at_resolved` over the bars from the fill on. -/
def FillCall.episodeScan (widenTriggerPips : Rat) (barSeconds : Int) (entryPrice : Rat) :
    InForceStop → List SpreadWiden → List PathBar → List SpreadWiden
  | _, episodes, [] => episodes
  | stop, episodes, bar :: later =>
    let inForce := stopOnBar (episodes.map (·.span)) bar.time stop.level
    if call.reachesStop bar inForce || call.reachesTarget bar then episodes
    else if episodes.getLast?.any fun widen => widen.span.unrestored bar.time then
      FillCall.episodeScan widenTriggerPips barSeconds entryPrice stop episodes later
    else match call.widenPips calendar widenTriggerPips barSeconds stop.level bar with
    | none =>
      FillCall.episodeScan widenTriggerPips barSeconds entryPrice (call.armOnOrdinaryBar stop entryPrice bar)
        episodes later
    | some pips =>
      FillCall.episodeScan widenTriggerPips barSeconds entryPrice stop
        (episodes ++ [call.openWiden calendar barSeconds stop.level pips bar later]) later

def FillCall.episodesFrom (widenTriggerPips : Rat) (barSeconds : Int) (fill : Fill) : List SpreadWiden :=
  if call.pipSize ≤ 0 then []
  else
    call.episodeScan calendar widenTriggerPips barSeconds fill.entryPrice
      { level := call.resolved.stopLoss } [] fill.rest

def widenEpisodesAtResolved (widenTriggerPips : Rat) : List SpreadWiden :=
  match findFill calendar call with
  | none => []
  | some fill => call.episodesFrom calendar widenTriggerPips (barSecondsOf call.candles) fill

/-- The spans that the exit is scored against. -/
def FillCall.widenedSpans (barSeconds : Int) (fill : Fill) : List WidenedSpan :=
  (call.episodesFrom calendar (calendar.elevatedThresholdPips (call.key calendar)) barSeconds fill).map (·.span)

end

/-- A source of finer bars, with what it keeps of the windows it is asked for. -/
structure SubBars (Memory : Type) where
  ask : Int → Int → Memory → List PathBar × Memory

inductive SimOutcome
  | neverFilled
  | filledOpen (fillAt : Int) (entryPrice : Rat)
  | stoppedOut (fillAt : Int) (entryPrice : Rat) (exitAt : Int) (exitPrice : Rat)
  | tookProfit (fillAt : Int) (entryPrice : Rat) (exitAt : Int) (exitPrice : Rat)
  deriving DecidableEq

/-- `judge_breakeven_stop_at_length`: the stop is too close to the last close to be more than noise. -/
def breakevenIsNoise (window : List Candle) (newStop : Rat) (atrLength : Nat) : Bool :=
  match window.getLast?, wilderAtr window atrLength with
  | some latest, some atr => decide (0 < atr) && decide (|newStop - latest.c| < breakevenMinAtrFraction * atr)
  | _, _ => false

def nanosPerMinute : Int := 60 * nanosPerSecond

section
variable {Memory : Type} (source : SubBars Memory) (call : FillCall) (spans : List WidenedSpan) (fill : Fill)
  (barLen : Int)

/-- The level that the finer bars reach first is the stop: so it is called where they cannot tell. -/
def FillCall.stopFirst (effectiveStop : Rat) : List PathBar → Bool
  | [] => true
  | sub :: rest =>
    match call.reachesStop sub effectiveStop, call.reachesTarget sub with
    | true, false => true
    | false, true => false
    | true, true => true
    | false, false => FillCall.stopFirst effectiveStop rest

def FillCall.zoomAmbiguousBar (bar : PathBar) (effectiveStop : Rat) (memory : Memory) :
    SimOutcome × Memory :=
  let stopped := SimOutcome.stoppedOut fill.fillAt fill.entryPrice bar.time effectiveStop
  let tookProfit := SimOutcome.tookProfit fill.fillAt fill.entryPrice bar.time call.resolved.takeProfit
  if barLen ≤ 0 then (stopped, memory)
  else
    let (subBars, memory) := source.ask bar.time (bar.time + barLen) memory
    (if call.stopFirst effectiveStop subBars then stopped else tookProfit, memory)

/-- What a bar's close makes of the stop, for the bars after it; `window` ends with the bar. -/
def FillCall.armActiveStop (window : List Candle) (bar : PathBar) (activeStop : Rat) : Rat :=
  let armable := breakevenArmable spans bar.time
  let crossed :=
    if armable then (call.crossStop bar fill.entryPrice activeStop).getD activeStop else activeStop
  match call.breakeven with
  | some rule =>
    let level := rule.armsAt fill.entryPrice call.resolved.takeProfit
    if armable && rule.closeArms call.resolved.direction level bar.mid.c then
      let newStop := fill.entryPrice
      let atrLength := atrLengthForBarMinutes (barLen / nanosPerMinute)
      if breakevenIsNoise window newStop atrLength then crossed else newStop
    else crossed
  | none => crossed

/-- The exit loop of `simulate_fill_resolved_zoom` over the bars after those of `past`. -/
def FillCall.exitLoop : List Candle → Rat → List PathBar → Memory → SimOutcome × Memory
  | _, _, [], memory => (.filledOpen fill.fillAt fill.entryPrice, memory)
  | past, activeStop, bar :: later, memory =>
    let effectiveStop := stopOnBar spans bar.time activeStop
    match call.reachesStop bar effectiveStop, call.reachesTarget bar with
    | true, false => (.stoppedOut fill.fillAt fill.entryPrice bar.time effectiveStop, memory)
    | false, true => (.tookProfit fill.fillAt fill.entryPrice bar.time call.resolved.takeProfit, memory)
    | true, true => call.zoomAmbiguousBar source fill barLen bar effectiveStop memory
    | false, false =>
      let window := past ++ [bar.mid]
      FillCall.exitLoop window (call.armActiveStop spans fill barLen window bar activeStop) later memory

end

def simulateFillResolvedZoom {Memory : Type} (calendar : ReplayCalendar) (call : FillCall)
    (source : SubBars Memory) (memory : Memory) : SimOutcome × Memory :=
  match findFill calendar call with
  | none => (.neverFilled, memory)
  | some fill =>
    call.exitLoop source (call.widenedSpans calendar (barSecondsOf call.candles) fill) fill
      (inferBarLen fill.rest) [] call.resolved.stopLoss fill.rest memory

/-- A bar that stays at 100, so many seconds in. -/
def flatBar (opened : Int) (spread : Rat) : PathBar where
  mid := { time := seconds opened, o := 100, h := 100, l := 100, c := 100 }
  bidC := 100 - spread / 2
  askC := 100 + spread / 2
  bidL := 100 - spread / 2
  bidH := 100 - spread / 2
  askL := 100 + spread / 2
  askH := 100 + spread / 2

end TradeControl
