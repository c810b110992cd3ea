import TradeControl.BreakevenArms
import TradeControl.LiveOrders
import TradeControl.World

namespace TradeControl

open Foundation

/-- The stop in force under this id. -/
def Book.stopOf (book : Book) (id : Nat) : Option Rat := (book.order id).bind (·.stopLoss)

theorem Book.order_of_open {book : Book} {position : BrokerOrder} (listed : position ∈ book.openPositions) :
    book.order position.id = some position ∧ position.status = .open := by
  obtain ⟨member, status⟩ := List.mem_filter.mp listed
  exact ⟨Book.order_eq_some.mpr ⟨member, rfl⟩, by simpa using status⟩

theorem Book.stopOf_amendStop_other (book : Book) (reply : AmendReply) {id other : Nat} (level : Rat)
    (apart : other ≠ id) : (book.amendStop reply id level).1.stopOf other = book.stopOf other := by
  have moved : (book.moveStop id level).stopOf other = book.stopOf other := by
    unfold Book.stopOf Book.moveStop
    rw [Book.order_rewrite]
    cases found : book.order other with
    | none => rfl
    | some order =>
      have own := (Book.order_eq_some.mp found).2
      have untouched : ¬ (order.id = id ∧ order.live) := fun both => apart (own.symm.trans both.1)
      rw [Option.map_some, if_neg untouched]
  unfold Book.amendStop
  split
  · rfl
  · cases reply with
    | confirmed => exact moved
    | failed => rfl
    | lost => exact moved

/-- An open position's amend moves its stop, unless the broker fails it. -/
theorem Book.stopOf_amendStop {book : Book} {position : BrokerOrder} (listed : position ∈ book.openPositions)
    (reply : AmendReply) (level : Rat) :
    (book.amendStop reply position.id level).1.stopOf position.id =
      if reply = .failed then position.stopLoss else some level := by
  obtain ⟨found, opened⟩ := Book.order_of_open listed
  have live : position.live = true := by
    unfold BrokerOrder.live
    rw [opened]
    rfl
  have moved : (book.moveStop position.id level).stopOf position.id = some level := by
    unfold Book.stopOf Book.moveStop
    rw [Book.order_rewrite, found, Option.map_some, if_pos ⟨rfl, live⟩]
    rfl
  unfold Book.amendStop
  rw [found, Option.any_some, live, Bool.not_true, if_neg Bool.false_ne_true]
  cases reply with
  | confirmed => exact moved
  | failed =>
    unfold Book.stopOf
    rw [found]
    rfl
  | lost => exact moved

/-- One position's turn in a tick of the break-even watcher. -/
structure BreakevenTick where
  ans : BreakevenAnswers
  breakeven : EntryAttempt → Option BreakevenSnapshot
  attempts : List EntryAttempt
  position : BrokerOrder
  fill : FillReport
  now : Int

def BreakevenTick.step (spreads : SpreadCalendar) (tick : BreakevenTick) (book : Book) : Book :=
  breakevenWatchOne spreads tick.ans tick.breakeven tick.attempts tick.position tick.fill tick.now book

def BreakevenTick.inputs (tick : BreakevenTick) (snapshot : BreakevenSnapshot) (level : Rat) :
    BreakevenInputs :=
  snapshot.inputs tick.position tick.fill level

/-- The bars that the tick reads arm break-even against a stop at this level. -/
def BreakevenTick.Arms (spreads : SpreadCalendar) (tick : BreakevenTick) (level : Rat) : Prop :=
  ∃ snapshot ∈ (joinPositionToAttempt tick.position tick.attempts).bind tick.breakeven,
    ∃ candles ∈ tick.ans.candles ((tick.inputs snapshot level).since tick.now),
      tick.ans.Arms spreads (tick.inputs snapshot level) candles tick.now

section
variable {spreads : SpreadCalendar} {tick : BreakevenTick} {book : Book} {level : Rat}

theorem BreakevenTick.step_other (id : Nat) (apart : id ≠ tick.position.id) :
    (tick.step spreads book).stopOf id = book.stopOf id := by
  unfold BreakevenTick.step breakevenWatchOne
  repeat' split
  all_goals first | rfl | exact Book.stopOf_amendStop_other _ _ _ apart

theorem Direction.tighter_ne {direction : Direction} {stop target : Rat}
    (tighter : direction.tighter target stop = true) : target ≠ stop := by
  rintro rfl
  cases direction with
  | long => exact lt_irrefl _ (of_decide_eq_true tighter)
  | short => exact lt_irrefl _ (of_decide_eq_true tighter)

/-- A tick leaves the stop where it is exactly if no bar arms break-even or the amend fails. -/
theorem BreakevenTick.step_stays (listed : tick.position ∈ book.openPositions)
    (stop : tick.position.stopLoss = some level) :
    (tick.step spreads book).stopOf tick.position.id = some level ↔
      tick.Arms spreads level → tick.ans.amend = .failed := by
  have still : book.stopOf tick.position.id = some level := by
    unfold Book.stopOf
    rw [(Book.order_of_open listed).1]
    exact stop
  unfold BreakevenTick.step breakevenWatchOne BreakevenTick.Arms
  rw [stop]
  dsimp only
  cases joined : (joinPositionToAttempt tick.position tick.attempts).bind tick.breakeven with
  | none => simp [still]
  | some snapshot =>
    dsimp only
    unfold BreakevenTick.inputs
    cases fetched : tick.ans.candles ((snapshot.inputs tick.position tick.fill level).since tick.now) with
    | none => simp [still, fetched]
    | some candles =>
      have ends := breakevenDecision_ends spreads tick.ans (snapshot.inputs tick.position tick.fill level)
        candles tick.now
      dsimp only
      generalize breakevenDecision spreads tick.ans (snapshot.inputs tick.position tick.fill level) candles
        tick.now = decision at ends
      have read : (∃ other ∈ some snapshot, ∃ bars ∈ tick.ans.candles
          ((other.inputs tick.position tick.fill level).since tick.now),
          tick.ans.Arms spreads (other.inputs tick.position tick.fill level) bars tick.now) ↔
          tick.ans.Arms spreads (snapshot.inputs tick.position tick.fill level) candles tick.now := by
        simp [fetched]
      rw [read]
      cases ends with
      | hold unarmed => exact ⟨fun _ armed => absurd armed unarmed, fun _ => still⟩
      | blocked unarmed => exact ⟨fun _ armed => absurd armed unarmed, fun _ => still⟩
      | amend armed tighter =>
        dsimp only
        rw [Book.stopOf_amendStop listed, stop]
        constructor
        · intro same _
          by_contra went
          rw [if_neg went] at same
          exact Direction.tighter_ne tighter (Option.some.inj same)
        · intro fails
          rw [if_pos (fails armed)]

end

/-- A widened stop: the trade whose record remembers the original until `expiresAt`, the position,
and the level that it was moved to. -/
structure WidenEpisode where
  tradeId : String
  id : Nat
  level : Rat
  expiresAt : Int

structure WidenEpisode.Stands (episode : WidenEpisode) (world : World) : Prop where
  record : ∃ record : HeldTradeRecord,
    world.store.held episode.tradeId = some ⟨record, episode.expiresAt⟩ ∧ record.applied = true
  stop : world.book.stopOf episode.id = some episode.level

/-- A run inside an episode. No break-even tick that the broker answers arms off its bars; the apply
ticks join the position to the episode's trade, and the record has not lapsed when they look;
anything else leaves the record and the stop alone. -/
inductive EpisodeRun (env : Env) (episode : WidenEpisode) (start : World) : World → Prop
  | start : EpisodeRun env episode start start
  | breakeven {world : World} {tick : BreakevenTick} (run : EpisodeRun env episode start world)
      (listed : tick.position ∈ world.book.openPositions)
      (spared : tick.position.id = episode.id → tick.Arms env.spreads episode.level →
        tick.ans.amend = .failed) :
      EpisodeRun env episode start { world with book := tick.step env.spreads world.book }
  | apply {world : World} {ans : Answers} {attempts : List EntryAttempt} {position : BrokerOrder} {now : Int}
      (run : EpisodeRun env episode start world) (during : now < episode.expiresAt)
      (joined : position.id = episode.id →
        ∀ attempt ∈ joinPositionToAttempt position attempts, attempt.tradeId = episode.tradeId) :
      EpisodeRun env episode start (widenOne env ans attempts position now world)
  | other {world after : World} (run : EpisodeRun env episode start world)
      (record : after.store.held episode.tradeId = world.store.held episode.tradeId)
      (stop : after.book.stopOf episode.id = world.book.stopOf episode.id) :
      EpisodeRun env episode start after

section
variable {env : Env} {ans : Answers} {attempts : List EntryAttempt} {position : BrokerOrder} {now : Int}
  {world : World} {episode : WidenEpisode}

/-- What an apply tick does at one position: nothing, or it puts the stop on record and asks for the
widened one, for a trade with no applied record that it can read. -/
inductive WidenEnds (env : Env) (ans : Answers) (attempts : List EntryAttempt) (position : BrokerOrder)
    (now : Int) (world : World) : World → Prop
  | skipped : WidenEnds env ans attempts position now world world
  | widened {attempt : EntryAttempt} {record : HeldTradeRecord} (level : Rat)
      (joined : joinPositionToAttempt position attempts = some attempt)
      (unapplied : ¬ (world.store.getHeldTradeRecord now attempt.tradeId).any (·.applied))
      (applied : record.applied = true) :
      WidenEnds env ans attempts position now world
        { store := world.store.upsertHeldTradeRecord now attempt.tradeId record
            (env.spreads.blockTtlSeconds position.instrument now)
          book := (world.book.amendStop (ans.amend position.id) position.id level).1 }

theorem widenOne_ends (env : Env) (ans : Answers) (attempts : List EntryAttempt) (position : BrokerOrder)
    (now : Int) (world : World) :
    WidenEnds env ans attempts position now world (widenOne env ans attempts position now world) := by
  unfold widenOne
  split
  · exact .skipped
  · dsimp only
    split
    · exact .skipped
    · split
      · exact .skipped
      next attempt joined =>
        split
        · exact .skipped
        next readable =>
          split
          · split
            · refine .widened _ joined ?_ rfl
              intro applied
              rw [applied, Bool.or_true] at readable
              exact readable rfl
            · exact .skipped
          · exact .skipped

/-- While the record stands, an apply tick leaves the episode alone. -/
theorem WidenEpisode.Stands.apply (stands : episode.Stands world) (during : now < episode.expiresAt)
    (joined : position.id = episode.id →
      ∀ attempt ∈ joinPositionToAttempt position attempts, attempt.tradeId = episode.tradeId) :
    episode.Stands (widenOne env ans attempts position now world) := by
  have ends := widenOne_ends env ans attempts position now world
  generalize widenOne env ans attempts position now world = after at ends
  cases ends with
  | skipped => exact stands
  | @widened attempt record level own unapplied applied =>
    obtain ⟨kept, stored, keptApplied⟩ := stands.record
    have another : episode.tradeId ≠ attempt.tradeId := by
      intro same
      refine unapplied ?_
      unfold Store.getHeldTradeRecord
      rw [← same, stored, readAt_some, if_pos during]
      exact keptApplied
    refine ⟨⟨kept, ?_, keptApplied⟩, ?_⟩
    · exact (Function.update_of_ne another _ _).trans stored
    · refine (Book.stopOf_amendStop_other _ _ _ ?_).trans stands.stop
      intro mine
      exact another (joined mine.symm attempt own).symm

theorem EpisodeRun.stands {start : World} (run : EpisodeRun env episode start world)
    (begun : episode.Stands start) : episode.Stands world := by
  induction run with
  | start => exact begun
  | @breakeven world tick _ listed spared ih =>
    refine ⟨ih.record, ?_⟩
    by_cases own : tick.position.id = episode.id
    · have stop : tick.position.stopLoss = some episode.level := by
        have known := ih.stop
        unfold Book.stopOf at known
        rw [← own, (Book.order_of_open listed).1] at known
        exact known
      rw [← own]
      exact (BreakevenTick.step_stays listed stop).mpr (spared own)
    · exact (BreakevenTick.step_other _ (Ne.symm own)).trans ih.stop
  | apply _ during joined ih => exact ih.apply during joined
  | other _ record stop ih =>
    obtain ⟨kept, stored, applied⟩ := ih.record
    exact ⟨⟨kept, record.trans stored, applied⟩, stop.trans ih.stop⟩

/-- An apply tick that moves a stop begins an episode. -/
theorem widenOne_opens (env : Env) (listed : position ∈ world.book.openPositions)
    (moved : (widenOne env ans attempts position now world).book.stopOf position.id ≠
      world.book.stopOf position.id) :
    ∃ episode : WidenEpisode, episode.id = position.id ∧
      (∃ attempt ∈ joinPositionToAttempt position attempts, attempt.tradeId = episode.tradeId) ∧
      episode.expiresAt = controlExpiresAt now (env.spreads.blockTtlSeconds position.instrument now) ∧
      episode.Stands (widenOne env ans attempts position now world) := by
  have ends := widenOne_ends env ans attempts position now world
  generalize widenOne env ans attempts position now world = after at ends moved
  cases ends with
  | skipped => exact absurd rfl moved
  | @widened attempt record level joined unapplied applied =>
    have still : world.book.stopOf position.id = position.stopLoss := by
      unfold Book.stopOf
      rw [(Book.order_of_open listed).1]
      rfl
    have stop := Book.stopOf_amendStop listed (ans.amend position.id) level
    refine ⟨⟨attempt.tradeId, position.id, level, _⟩, rfl, ⟨attempt, joined, rfl⟩, rfl, ⟨record, ?_, applied⟩, ?_⟩
    · exact Function.update_self _ _ _
    · rw [stop]
      refine if_neg fun fails => moved ?_
      rw [stop, if_pos fails, still]

/-- A stop that an apply tick moves stays where it was moved to for as long as the episode's
break-even ticks find nothing to arm off and its apply ticks find the episode's record; and at a
position still open, a break-even tick leaves it there only so. -/
theorem widenedStop_stays (env : Env) (ans : Answers) (attempts : List EntryAttempt) (position : BrokerOrder)
    (now : Int) (world : World) (listed : position ∈ world.book.openPositions)
    (moved : (widenOne env ans attempts position now world).book.stopOf position.id ≠
      world.book.stopOf position.id) :
    ∃ episode : WidenEpisode, episode.id = position.id ∧
      (∃ attempt ∈ joinPositionToAttempt position attempts, attempt.tradeId = episode.tradeId) ∧
      episode.expiresAt = controlExpiresAt now (env.spreads.blockTtlSeconds position.instrument now) ∧
      ∀ after, EpisodeRun env episode (widenOne env ans attempts position now world) after →
        after.book.stopOf position.id = some episode.level ∧
        ∀ tick : BreakevenTick, tick.position ∈ after.book.openPositions → tick.position.id = position.id →
          ((tick.step env.spreads after.book).stopOf position.id = some episode.level ↔
            (tick.Arms env.spreads episode.level → tick.ans.amend = .failed)) := by
  obtain ⟨episode, own, trade, expires, begun⟩ := widenOne_opens env listed moved
  refine ⟨episode, own, trade, expires, fun after run => ?_⟩
  have stop := (run.stands begun).stop
  rw [own] at stop
  refine ⟨stop, fun tick present same => ?_⟩
  have level : tick.position.stopLoss = some episode.level := by
    unfold Book.stopOf at stop
    rw [← same, (Book.order_of_open present).1] at stop
    exact stop
  rw [← same]
  exact BreakevenTick.step_stays present level

end

/-- A short filled at 100 with its stop at break-even, and its target at 80. -/
def scratched : BrokerOrder where
  id := 1
  setup := "trade-1"
  instrument := "INDEX"
  direction := .short
  trigger := 100
  isStop := true
  stopLoss := some 100
  takeProfit := some 80
  stake := 1
  positionId := 1
  status := .open

def scratchedBook : Book where
  orders := [scratched]
  nextId := 2
  submissions := 1
  distinct := by decide
  issued := by decide

def scratchedAttempt : EntryAttempt where
  tradeId := "trade-1"
  instrument := "INDEX"
  attemptNo := 1
  brokerOrderId := 1
  brokerTradeId := some 1
  direction := .short
  placedAt := 0
  shellTime := 0
  expiresAt := seconds 72000
  stopLossPrice := some 110
  adverseExtreme := none
  cancelAt := none
  pipSize := some 1
  orderControl := none
  superseded := false

/-- Every instrument's spread hour is the one from 21:00. -/
def closeEdge : Env :=
  { Env.plain fun _ => none with
    spreads :=
      { schedule := fun _ => none
        lookupKey := id
        isNyCloseEdge := fun now => decide (seconds 75600 ≤ now ∧ now < seconds 79200) } }

def widenedScratch : World :=
  widenOne closeEdge { quote := fun _ => some ⟨85, 86⟩ } [scratchedAttempt] scratched (seconds 75600)
    { book := scratchedBook }

/-- A break-even tick within the spread hour that reads one bar, of 18:00, with this close. -/
def tickOn (close : Rat) : BreakevenTick where
  ans := { candles := fun _ => some [⟨seconds 64800, close, close, close, close⟩] }
  breakeven := fun _ => some { rule := {}, entryPrice := 100, takeProfit := 80, granularity := .h1 }
  attempts := [scratchedAttempt]
  position := { scratched with stopLoss := some 122 }
  fill := { entryPrice := some 100, openedAt := some (seconds 61200) }
  now := seconds 76500

theorem widenedStop_stays_calm :
    ((tickOn 95).step closeEdge.spreads widenedScratch.book).stopOf 1 = widenedScratch.book.stopOf 1 := by
  obtain ⟨episode, _, _, _, stays⟩ := widenedStop_stays closeEdge { quote := fun _ => some ⟨85, 86⟩ }
    [scratchedAttempt] scratched (seconds 75600) { book := scratchedBook } (by decide) (by decide +kernel)
  obtain ⟨stop, step⟩ := stays widenedScratch .start
  have level : episode.level = 122 := by
    have computed : widenedScratch.book.stopOf 1 = some 122 := by decide +kernel
    exact Option.some.inj (stop.symm.trans computed)
  refine ((step (tickOn 95) (by decide +kernel) rfl).mpr ?_).trans stop.symm
  rintro ⟨snapshot, known, candles, read, ⟨_, quoted, _⟩ | ⟨fillAt, _, ⟨candle, member, arms⟩, _⟩⟩
  · cases quoted
  · cases known
    cases read
    cases List.mem_singleton.mp (List.mem_filter.mp member).1
    rw [level] at arms
    exact absurd arms (by decide +kernel)

/-- The bar that had armed break-even before the widen arms it again, and the stop goes back to the
fill inside the episode. -/
theorem widenedStop_rearmed :
    widenedScratch.book.stopOf 1 = some 122 ∧
      (widenedScratch.store.getHeldTradeRecord (seconds 76500) "trade-1").any (·.applied) = true ∧
      (tickOn 85).position ∈ widenedScratch.book.openPositions ∧
      ((tickOn 85).step closeEdge.spreads widenedScratch.book).stopOf 1 = some 100 := by
  decide +kernel

end TradeControl
