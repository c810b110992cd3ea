import TradeControl.Recover
import TradeControl.SpreadFloor

namespace TradeControl

/-! Stops of open positions, widened for a spread hour and restored after it. -/

inductive SkipReason
  | alreadyAtOriginal
  | alreadyTighter
  deriving DecidableEq

inductive RestoreDecision
  | skip (reason : SkipReason)
  | restoreTo (level : Rat)
  deriving DecidableEq

/-- The stop stands closer to the market than this level. -/
def Direction.tighter : Direction → Rat → Rat → Bool
  | .long, stop, level => level < stop
  | .short, stop, level => stop < level

/-- `restore_decision`: a stop moved past its remembered level is not ours to move back. -/
def restoreDecision (direction : Direction) (current original : Rat) : RestoreDecision :=
  if sameDistance current original then .skip .alreadyAtOriginal
  else if direction.tighter current original then .skip .alreadyTighter
  else .restoreTo original

/-- The open position a remembered stop belongs to. -/
def RememberedStop.position (remembered : RememberedStop) (positions : List BrokerOrder) :
    Option BrokerOrder :=
  positions.find? fun position =>
    position.id == remembered.positionOrOrderId || position.positionId == remembered.positionOrOrderId

/-- One remembered stop, judged by the positions as they were listed. -/
def restoreRememberedStop (ans : Answers) (positions : List BrokerOrder) (book : Book)
    (remembered : RememberedStop) : Book :=
  match remembered.position positions with
  | none => book
  | some position =>
    match position.stopLoss with
    | none => book
    | some current =>
      match restoreDecision position.direction current remembered.originalStop with
      | .skip _ => book
      | .restoreTo level =>
        let id := remembered.positionOrOrderId
        (book.amendStop (ans.amend id) id level).1

/-- `restore_remembered_stops`: nothing it meets is reported to the caller. -/
def restoreRememberedStops (ans : Answers) (record : HeldTradeRecord) (book : Book) : Book :=
  if record.originalStops.isEmpty || !ans.acquire || !ans.positions then book
  else record.originalStops.foldl (restoreRememberedStop ans book.openPositions) book

/-- `finish_system2_and_clear`; the flag says whether it went through. -/
def finishSystem2AndClear (ans : Answers) (tradeId : String) (now : Int) (world : World) : World × Bool :=
  if !ans.store .rereadHeld then (world, false)
  else match world.store.getHeldTradeRecord now tradeId with
  | none => (world, true)
  | some record =>
    let world := { world with book := restoreRememberedStops ans record world.book }
    if ans.store .clearHeld then
      ({ world with store := world.store.clearHeldTradeRecord tradeId }, true)
    else (world, false)

/-- One record's turn in the live watcher: recover it, and once it is reported restored,
restore its widened stops and clear it. -/
def watchOne (env : Env) (ans : Answers) (redrives : Nat → Answers) (tradeId : String)
    (record : HeldTradeRecord) (now : Int) (world : World) : World :=
  let (world, report) := recoverOne env ans redrives .leaveForCaller tradeId record now world
  if report.restored.isSome then (finishSystem2AndClear ans tradeId now world).1 else world

def widenFloorPips : Rat := 22
def widenCeilPips : Rat := 40
def widenBakedCeilMult : Rat := 3 / 2

def clampPips (value floor ceil : Rat) : Rat := min (max value floor) ceil

def clampWiden (liveSpreadPips : Rat) : Rat := clampPips liveSpreadPips widenFloorPips widenCeilPips

def spreadHourWidenSize (bakedP90Pips liveSpreadPips : Rat) : Rat :=
  clampPips (max bakedP90Pips liveSpreadPips) (min bakedP90Pips widenFloorPips)
    (max widenCeilPips (bakedP90Pips * widenBakedCeilMult))

/-- Away from the market, on the tick grid. -/
def widenedStop (direction : Direction) (originalStop widenPips pipSize : Rat) : Rat :=
  let widen := widenPips * pipSize
  match direction with
  | .short => roundToTick (originalStop + widen) pipSize .up
  | .long => roundToTick (originalStop - widen) pipSize .down

def widenFracToPips (frac referencePrice pipSize : Rat) : Rat :=
  frac * referencePrice / pipSize

/-- The attempt an open position came of: by its noted position id, or by instrument and
direction alone. -/
def joinPositionToAttempt (position : BrokerOrder) (attempts : List EntryAttempt) :
    Option EntryAttempt :=
  (attempts.find? (·.brokerTradeId == some position.positionId)).or
    (attempts.find? fun attempt =>
      attempt.instrument == position.instrument && attempt.direction == position.direction)

/-- The record a widened stop opens for its trade. -/
def widenRecord (instrument : String) (pipSize : Rat) (remembered : RememberedStop) (ttl now : Int) :
    HeldTradeRecord where
  instrument := instrument
  applied := true
  holders := {.spreadHour}
  openedAt := now
  expiresAt := now + seconds ttl
  pipSize := pipSize
  originalStops := [remembered]
  cancelledOrders := []
  storedOrders := []

/-- `widen_one`: the original stop is on record before the broker is asked to move it. -/
def widenOne (env : Env) (ans : Answers) (attempts : List EntryAttempt) (position : BrokerOrder)
    (now : Int) (world : World) : World :=
  match position.stopLoss with
  | none => world
  | some originalStop =>
    let bakedWidenFrac := env.spreads.widenFrac (env.spreads.lookupKey position.instrument) now
    if bakedWidenFrac.isNone && !env.spreads.isNyCloseEdge now then world
    else match joinPositionToAttempt position attempts with
    | none => world
    | some attempt =>
      if !ans.store .getHeld ||
          (world.store.getHeldTradeRecord now attempt.tradeId).any (·.applied) then world
      else match attempt.pipSize.filter (0 < ·), ans.quote .widen with
      | some pipSize, some quote =>
        let spreadPips := quote.spread / pipSize
        let widenPips := match bakedWidenFrac.map (widenFracToPips · originalStop pipSize) with
          | some p90 => spreadHourWidenSize p90 spreadPips
          | none => clampWiden spreadPips
        let ttl := env.spreads.blockTtlSeconds position.instrument now
        let record := widenRecord position.instrument pipSize
          { positionOrOrderId := position.id, originalStop } ttl now
        if ans.store .upsertHeld then
          { store := world.store.upsertHeldTradeRecord now attempt.tradeId record ttl
            book := (world.book.amendStop (ans.amend position.id) position.id
              (widenedStop position.direction originalStop widenPips pipSize)).1 }
        else world
      | _, _ => world

/-- An entry attempt of a store that several accounts share. -/
structure AccountAttempt extends EntryAttempt where
  account : Option String
  deriving DecidableEq

section Join

variable (position : BrokerOrder) (account : Option String)

def AccountAttempt.snapshotOf (attempt : AccountAttempt) : Bool :=
  attempt.brokerTradeId == some position.positionId

def AccountAttempt.coarseOf (attempt : AccountAttempt) : Bool :=
  attempt.instrument == position.instrument && attempt.direction == position.direction &&
    attempt.account == account

/-- `join_position_to_attempt`: the noted position id first, then the coarse key. -/
def joinPositionOn (attempts : List AccountAttempt) : Option AccountAttempt :=
  match attempts.find? (·.snapshotOf position) with
  | some hit => some hit
  | none => attempts.find? (·.coarseOf position account)

/-- The join attributes the position to no attempt that is snapshotted to another one, and to one snapshotted to
it where there is any. -/
def JoinsOwn (attempts : List AccountAttempt) : Prop :=
  (∀ attempt ∈ joinPositionOn position account attempts,
      attempt.brokerTradeId = none ∨ attempt.brokerTradeId = some position.positionId) ∧
    ((∃ attempt ∈ attempts, attempt.brokerTradeId = some position.positionId) →
      ∃ attempt ∈ joinPositionOn position account attempts,
        attempt ∈ attempts ∧ attempt.brokerTradeId = some position.positionId)

end Join

section OneAccount

variable {position : BrokerOrder} {account : Option String}

end OneAccount

section Attribution

variable {position : BrokerOrder} {attempts : List AccountAttempt}

theorem AccountAttempt.snapshotOf_iff {attempt : AccountAttempt} :
    attempt.snapshotOf position = true ↔ attempt.brokerTradeId = some position.positionId := by
  simp [AccountAttempt.snapshotOf]

theorem joinPositionOn_snapshot (account : Option String)
    (noted : ∃ attempt ∈ attempts, attempt.brokerTradeId = some position.positionId) :
    ∃ attempt, joinPositionOn position account attempts = some attempt ∧ attempt ∈ attempts ∧
      attempt.brokerTradeId = some position.positionId := by
  obtain ⟨attempt, member, snapshot⟩ := noted
  unfold joinPositionOn
  cases found : attempts.find? (·.snapshotOf position) with
  | some hit =>
    exact ⟨hit, rfl, List.mem_of_find?_eq_some found, AccountAttempt.snapshotOf_iff.mp (List.find?_some found)⟩
  | none =>
    have missed := List.find?_eq_none.mp found attempt member
    exact absurd (AccountAttempt.snapshotOf_iff.mpr snapshot) missed

theorem joinPositionOn_coarse (account : Option String)
    (unnoted : ¬ ∃ attempt ∈ attempts, attempt.brokerTradeId = some position.positionId) :
    joinPositionOn position account attempts = attempts.find? (·.coarseOf position account) := by
  have missed : attempts.find? (·.snapshotOf position) = none := by
    rw [List.find?_eq_none]
    intro attempt member snapshot
    exact unnoted ⟨attempt, member, AccountAttempt.snapshotOf_iff.mp snapshot⟩
  unfold joinPositionOn
  rw [missed]

end Attribution

/-- The join keeps to its own attempts exactly where the position has been noted on one, or the first attempt on its
instrument, side and account has been noted on no position. -/
theorem joinsOwn_iff (position : BrokerOrder) (account : Option String) (attempts : List AccountAttempt) :
    JoinsOwn position account attempts ↔
      (∃ attempt ∈ attempts, attempt.brokerTradeId = some position.positionId) ∨
        ∀ attempt ∈ attempts.find? (·.coarseOf position account), attempt.brokerTradeId = none := by
  by_cases noted : ∃ attempt ∈ attempts, attempt.brokerTradeId = some position.positionId
  · refine ⟨fun _ => .inl noted, fun _ => ?_⟩
    obtain ⟨hit, joined, member, snapshot⟩ := joinPositionOn_snapshot account noted
    refine ⟨fun attempt given => ?_, fun _ => ⟨hit, joined, member, snapshot⟩⟩
    obtain rfl := Option.some.inj (joined.symm.trans given)
    exact .inr snapshot
  · have coarse := joinPositionOn_coarse account noted
    constructor
    · intro own
      refine .inr fun attempt first => ?_
      rcases own.1 attempt (coarse.trans first) with unset | other
      · exact unset
      · exact absurd ⟨attempt, List.mem_of_find?_eq_some first, other⟩ noted
    · intro free
      have fresh := free.resolve_left noted
      refine ⟨fun attempt joined => .inl (fresh attempt (coarse.symm.trans joined)), fun some => absurd some noted⟩

def filledAttempt : AccountAttempt where
  tradeId := "trade-1"
  instrument := "EUR_USD"
  attemptNo := 1
  brokerOrderId := 1
  brokerTradeId := some 9
  direction := .long
  placedAt := 0
  shellTime := 0
  expiresAt := 0
  stopLossPrice := none
  adverseExtreme := none
  cancelAt := none
  pipSize := none
  orderControl := none
  superseded := false
  account := none

def openedPosition : BrokerOrder where
  id := 2
  setup := "trade-1"
  instrument := "EUR_USD"
  direction := .long
  trigger := 1
  isStop := true
  stopLoss := none
  takeProfit := none
  stake := 1
  positionId := 10
  status := .open

/-- The second shot's new position is joined to the first one, which the sweep has noted on position nine. -/
theorem joined_to_noted : ¬ JoinsOwn openedPosition none [filledAttempt] := by
  intro own
  exact absurd (own.1 filledAttempt (by decide)) (by decide)

end TradeControl
