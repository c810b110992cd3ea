import TradeControl.Recover
import TradeControl.Reprice

namespace TradeControl

/-- One turn of a pass over a trade's orders, or of the market. A turn carries what it met. -/
inductive OrderEvent
  | fire (ans : Answers) (verified : Verified) (rawBody : Option String) (granularity : Option Int)
      (now : Int)
  | hold (ans : Answers) (order : BrokerOrder) (now : Int)
  | restore (ans : Answers) (record : HeldTradeRecord) (cancelled : CancelledOrder) (now : Int)
  | reprice (ans enterAns : Answers) (order : BrokerOrder) (action : PendingAction)
      (geometry : ParkGeometry) (expiresAt barSeconds now : Int)
  | promote (ans enterAns : Answers) (tradeId : String) (check : StoredCheck) (now : Int)
  | fill (id : Nat)
  | expire (id : Nat)
  | close (id : Nat) (realizedPl : Option Rat)

/-- The call a fresh fire makes. -/
def freshCall (verified : Verified) (rawBody : Option String) (granularity : Option Int) (now : Int) :
    EnterCall where
  verified := verified
  now := now
  rawBody := rawBody
  granularity := granularity
  origin := .fresh

def OrderEvent.step (env : Env) (world : World) : OrderEvent → World
  | .fire ans verified rawBody granularity now =>
    (runEnter env ans (freshCall verified rawBody granularity now) world).1
  | .hold ans order now => (tryCancelOne env ans order now world).1
  | .restore ans record cancelled now => (restoreOneOrder env ans record cancelled now world).1
  | .reprice ans enterAns order action geometry expiresAt barSeconds now =>
    (repricePendingOrder env ans enterAns order action geometry expiresAt barSeconds now world).1
  | .promote ans enterAns tradeId check now =>
    (promoteStoredOrder env ans enterAns tradeId check now world).1
  | .fill id => { world with book := world.book.fill id }
  | .expire id => { world with book := world.book.expire id }
  | .close id realizedPl => { world with book := world.book.close id realizedPl }

def OrderEvent.run (env : Env) (world : World) (events : List OrderEvent) : World :=
  events.foldl (OrderEvent.step env) world

/-- What the broker holds once `stopEntry` rests under this id. -/
def stopEntryOrder (id : Nat) : BrokerOrder where
  id := id
  setup := "trade-1"
  instrument := "INDEX"
  direction := .long
  trigger := 100
  isStop := true
  stopLoss := some 90
  takeProfit := some 130
  stake := 1
  positionId := id
  status := .resting

/-- The world in which the first bar's `stopEntry` rests as order 0. -/
def stopEntryRests (env : Env) : World :=
  OrderEvent.step env {} (.fire {} (stopEntryAt 0) (some "first") none 0)

/-- A later bar's setup, waiting for its spread. -/
def secondParked : StoredOrder where
  signedIntent := "second"
  reason := .belowMinR
  originalSlDistance := 10
  tpDistance := 30
  minR := 1
  storedAt := seconds 3700
  dropAt := seconds 61200
  shellTime := seconds 3600
  replaces := none
  barSeconds := some 3600

end TradeControl
