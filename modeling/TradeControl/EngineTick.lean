import Mathlib.Data.List.Sort
import TradeControl.PlanRuns

namespace TradeControl

/-! The cron's tick of one registered plan: read its state, evaluate it, persist, dispatch. -/

structure StoredPlan where
  plan : TradePlan
  shadow : Bool := false

/-- How a read of a row comes out; a miss finds nothing where there is a row. -/
inductive ReadReply
  | truth
  | missed
  | failed
  deriving DecidableEq

/-- How a write or a clear comes out; a lost one is carried out and answers an error. -/
inductive WriteReply
  | ok
  | failed
  | lost
  deriving DecidableEq

def WriteReply.lands : WriteReply → Bool
  | .ok | .lost => true
  | .failed => false

/-- What a tick meets: the store's replies, the broker's candles, the detector's window for the fresh
ones and the journal of a shadow plan's entries. -/
structure EngineAnswers where
  listed : Bool := true
  read : ReadReply := .truth
  reread : ReadReply := .truth
  acquire : Bool := true
  seedCandles : Option (List Candle) := some []
  candles : Int → Option (List Candle)
  detectorWindow : List Candle → Option (List Candle) := some
  paper : Bool := true
  put : WriteReply := .ok
  clearState : WriteReply := .ok
  clearPlan : WriteReply := .ok

/-- The rows of a plan, with all that was evaluated for it and handed to dispatch so far. -/
structure EngineWorld where
  state : Option PlanState := none
  registered : Bool := true
  evaluations : List PlanEval := []
  dispatched : List FiredIntent := []

def ReadReply.get (reply : ReadReply) (state : Option PlanState) : Except Unit (Option PlanState) :=
  match reply with
  | .truth => .ok state
  | .missed => .ok none
  | .failed => .error ()

/-- `read_plan_state_settled`: nothing found is read once more. -/
def readPlanStateSettled (ans : EngineAnswers) (state : Option PlanState) : Except Unit (Option PlanState) :=
  match ans.read.get state with
  | .error error => .error error
  | .ok (some found) => .ok (some found)
  | .ok none => ans.reread.get state

def planStateExpiresAt (now : Int) : Int := now + seconds (24 * 60 * 60)

/-- `filter_new_candles`. -/
def filterNewCandles (candles : List Candle) (watermark : Int) : List Candle :=
  (candles.filter (watermark < ·.time)).insertionSort (·.time ≤ ·.time)

def seedFirstTick (stored : StoredPlan) (ans : EngineAnswers) (now : Int) (world : EngineWorld) : EngineWorld :=
  match ans.seedCandles with
  | none => world
  | some candles =>
    if ans.put.lands then
      { world with state := some (seedPlanState stored.plan candles (planStateExpiresAt now)) }
    else world

/-- `persist_plan_state`; the flag is the transition's success. A finished plan's clears are not
checked. -/
def persistPlanState (ans : EngineAnswers) (eval : PlanEval) (world : EngineWorld) : EngineWorld × Bool :=
  if eval.done then
    ({ world with
        state := if ans.clearState.lands then none else world.state
        registered := world.registered && !ans.clearPlan.lands }, true)
  else ({ world with state := if ans.put.lands then some eval.newState else world.state }, ans.put = .ok)

/-- `record_then_advance`, and the dispatch of what fired. -/
def advanceAndDispatch (stored : StoredPlan) (ans : EngineAnswers) (eval : PlanEval) (world : EngineWorld) :
    EngineWorld :=
  let world := { world with evaluations := world.evaluations ++ [eval] }
  if stored.shadow && eval.fired.any (·.intent.action = .enter) && !ans.paper then world
  else
    let (world, success) := persistPlanState ans eval world
    if !success || stored.shadow then world
    else { world with dispatched := world.dispatched ++ eval.fired }

/-- `tick_controls_only`. -/
def tickControlsOnly (env : EngineEnv) (stored : StoredPlan) (ans : EngineAnswers) (prior : PlanState)
    (lastClosed : Option Candle) (now : Int) (world : EngineWorld) : EngineWorld :=
  let lastCandle := lastClosed.getD ⟨prior.watermark.getD now, 0, 0, 0, 0⟩
  let eval := evaluateControlsOnly env stored.plan prior lastCandle now (planStateExpiresAt now)
  if eval.fired.isEmpty then { world with evaluations := world.evaluations ++ [eval] }
  else advanceAndDispatch stored ans eval world

/-- `tick_one`, for a plan that is listed. -/
def tickOne (env : EngineEnv) (stored : StoredPlan) (ans : EngineAnswers) (now : Int) (world : EngineWorld) :
    EngineWorld :=
  if !ans.listed || !world.registered then world
  else match readPlanStateSettled ans world.state with
  | .error _ => world
  | .ok none => if ans.acquire then seedFirstTick stored ans now world else world
  | .ok (some prior) =>
    if !ans.acquire then world
    else match prior.watermark with
    | none => seedFirstTick stored ans now world
    | some since =>
      match ans.candles since with
      | none => world
      | some candles =>
        match filterNewCandles candles since with
        | [] => tickControlsOnly env stored ans prior candles.getLast? now world
        | first :: rest =>
          match ans.detectorWindow (first :: rest) with
          | none => world
          | some window =>
            advanceAndDispatch stored ans
              (evaluatePlan env stored.plan prior (first :: rest) window now (planStateExpiresAt now)) world

end TradeControl
