import TradeControl.Foundation.GuardedReach
import TradeControl.HoldRelease
import TradeControl.SpreadHours
import TradeControl.WidenEpisode

namespace TradeControl

open Foundation

/-- Every broker and store call of the tick succeeds. -/
structure Answers.Succeed (ans : Answers) : Prop where
  stores : ∀ call, ans.store call = true
  quotes : ∀ use, (ans.quote use).isSome = true
  amends : ∀ id, ans.amend id = .confirmed
  positions : ans.positions = true
  acquire : ans.acquire = true

/-- A sampled spread at or under the recovered cutoff. -/
def recoveredSpread (pipSize : Rat) (measured : Option Rat) : Bool :=
  measured.any fun spread => 0 < pipSize && spread / pipSize ≤ spreadBlackoutRecoveredPips

/-- An apply tick in the lead of a flagged hour, the first to find this open position unwidened, with
the stop, the attempt and the quote that it works from. -/
structure LeadWiden (env : Env) (world : World) where
  position : BrokerOrder
  schedule : SpreadSchedule
  spike : SpikeHour schedule
  stop : Rat
  attempts : List EntryAttempt
  attempt : EntryAttempt
  pipSize : Rat
  ans : Answers
  quote : Quote
  now : Int
  opened : position ∈ world.book.openPositions
  own : env.spreads.schedule (env.spreads.lookupKey position.instrument) = some schedule
  stopped : position.stopLoss = some stop
  joined : joinPositionToAttempt position attempts = some attempt
  sized : attempt.pipSize.filter (0 < ·) = some pipSize
  unapplied : ¬ (world.store.getHeldTradeRecord now attempt.tradeId).any (·.applied)
  succeed : ans.Succeed
  quoted : ans.quote .widen = some quote
  reached : spike.leadFrom ≤ now
  early : now < spike.top

section
variable {env : Env} {world : World}

def LeadWiden.after (widen : LeadWiden env world) : World :=
  widenOne env widen.ans widen.attempts widen.position widen.now world

/-- The widened level: the hour's baked widening, blended with the quote of the tick. -/
def LeadWiden.level (widen : LeadWiden env world) : Rat :=
  widenedStop widen.position.direction widen.stop
    (spreadHourWidenSize
      (widenFracToPips (widen.schedule.widenFrac widen.spike.hour) widen.stop widen.pipSize)
      (widen.quote.spread / widen.pipSize))
    widen.pipSize

def LeadWiden.ttl (widen : LeadWiden env world) : Int :=
  env.spreads.blockTtlSeconds widen.position.instrument widen.now

/-- When the record of the original stop lapses. -/
def LeadWiden.lapses (widen : LeadWiden env world) : Int := controlExpiresAt widen.now widen.ttl

def LeadWiden.record (widen : LeadWiden env world) : HeldTradeRecord :=
  widenRecord widen.position.instrument widen.pipSize
    { positionOrOrderId := widen.position.id, originalStop := widen.stop } widen.ttl widen.now

/-- The record is on file, and the broker's stop is at the widened level. -/
structure LeadWiden.Stands (widen : LeadWiden env world) (present : World) : Prop where
  row : present.store.held widen.attempt.tradeId = some ⟨widen.record, widen.lapses⟩
  stop : present.book.stopOf widen.position.id = some widen.level

theorem LeadWiden.begins (widen : LeadWiden env world) : widen.Stands widen.after := by
  have frac := widen.spike.widenFrac widen.own widen.reached widen.early
  have written : widen.after =
      { store := world.store.upsertHeldTradeRecord widen.now widen.attempt.tradeId widen.record widen.ttl
        book := (world.book.amendStop .confirmed widen.position.id widen.level).1 } := by
    unfold LeadWiden.after widenOne
    rw [widen.stopped]
    dsimp only
    rw [frac, widen.joined]
    dsimp only
    rw [widen.succeed.stores, Bool.not_true, Bool.false_or, if_neg (by simp), if_neg widen.unapplied,
      widen.sized, widen.quoted]
    dsimp only [Option.map_some]
    rw [widen.succeed.stores, if_pos rfl, widen.succeed.amends]
    rfl
  rw [written]
  refine ⟨Function.update_self _ _ _, ?_⟩
  exact (Book.stopOf_amendStop widen.opened .confirmed widen.level).trans (if_neg nofun)

/-- What may happen to the stop: an apply tick of the cron, its lifecycle tick over the trade's
record, or anything else. -/
inductive StopTick
  | apply (ans : Answers) (attempts : List EntryAttempt) (now : Int)
  | lifecycle (ans : Answers) (redrives : Nat → Answers) (now : Int)
  | elsewhere (after : World)

/-- The tick at one position and its trade, read as the tick finds them. -/
def StopTick.step (env : Env) (tradeId : String) (id : Nat) (world : World) : StopTick → World
  | .apply ans attempts now =>
    match world.book.openPositions.find? (·.id == id) with
    | none => world
    | some position => widenOne env ans attempts position now world
  | .lifecycle ans redrives now =>
    match world.store.getHeldTradeRecord now tradeId with
    | none => world
    | some record => watchOne env ans redrives tradeId record now world
  | .elsewhere after => after

/-- The schedules in question: until the hour is over, with no call failing, with the position joined
to the same trade, and with nothing else touching the trade's record or the stop. -/
def LeadWiden.Allows (widen : LeadWiden env world) (present : World) : StopTick → Prop
  | .apply ans attempts now => ans.Succeed ∧ widen.now ≤ now ∧ now < widen.spike.done ∧
      ∀ position ∈ present.book.openPositions, position.id = widen.position.id →
        ∀ attempt ∈ joinPositionToAttempt position attempts, attempt.tradeId = widen.attempt.tradeId
  | .lifecycle ans _ now => ans.Succeed ∧ widen.now ≤ now ∧ now < widen.spike.done
  | .elsewhere after => after.store.held widen.attempt.tradeId = present.store.held widen.attempt.tradeId ∧
      after.book.stopOf widen.position.id = present.book.stopOf widen.position.id

/-- The tick samples a recovered spread, if it looks. -/
def LeadWiden.Recovers (widen : LeadWiden env world) (ans : Answers) : Prop :=
  recoveredSpread widen.pipSize ((ans.quote .release).map Quote.spread) = true

/-- The tick does not end the episode as meant to: it is no lifecycle tick that samples a recovered
spread inside the hour. -/
def LeadWiden.Undecided (widen : LeadWiden env world) : StopTick → Prop
  | .lifecycle ans _ now => widen.spike.top ≤ now → ¬ widen.Recovers ans
  | _ => True

/-- No lifecycle tick of the lead samples a recovered spread, and no apply tick comes after the record
has lapsed. -/
def LeadWiden.Spared (widen : LeadWiden env world) : StopTick → Prop
  | .apply _ _ now => now < widen.lapses
  | .lifecycle ans _ now => now < widen.spike.top → ¬ widen.Recovers ans
  | .elsewhere _ => True

theorem releaseSatisfied_single {ans : Answers} {tradeId : String} {record : HeldTradeRecord} {now : Int}
    {store : Store} {reason : HoldReason} (held : record.holders = {reason})
    (unreleased : reasonReleased env ans tradeId record now store reason = false) :
    releaseSatisfied env ans tradeId record now store = (record.holders, false) := by
  have effective : effectiveHolders record = {reason} := by
    unfold effectiveHolders
    rw [held, if_neg fun both => Finset.singleton_ne_empty _ both.2]
  refine Prod.ext ?_ ?_
  · rw [releaseSatisfied_surviving, effective, held]
    refine Finset.filter_true_of_mem fun other member => ?_
    rw [Finset.mem_singleton.mp member, unreleased]
    exact Bool.false_ne_true
  · rw [Bool.eq_false_iff]
    intro emptied
    have released := ((releaseSatisfied_emptied_iff ..).mp emptied).2 reason
      (by rw [effective]; exact Finset.mem_singleton_self _)
    rw [unreleased] at released
    cases released

/-- Until twelve hours on, a lifecycle tick that finds the spread hour on and the spread not recovered
leaves a widened stop and its record alone. -/
theorem watchOne_widened {ans : Answers} (redrives : Nat → Answers) (tradeId : String)
    (record : HeldTradeRecord) {now : Int} (world : World) (held : record.holders = {.spreadHour})
    (unpulled : record.cancelledOrders = [])
    (hour : env.spreads.isSpreadHour (env.spreads.lookupKey record.instrument) now = true)
    (unrecovered : ¬ recoveredSpread record.pipSize ((ans.quote .release).map Quote.spread) = true)
    (early : now < record.openedAt + seconds safetyForceRestoreSeconds) :
    watchOne env ans redrives tradeId record now world = world := by
  have unreleased : reasonReleased env ans tradeId record now world.store .spreadHour = false := by
    unfold reasonReleased SpreadCalendar.releasedAt
    dsimp only
    rw [hour, Bool.not_true, Bool.false_or]
    exact Bool.eq_false_iff.mpr unrecovered
  have undue : backstopDue record.openedAt now = false := decide_eq_false (not_le.mpr early)
  have unprotected : protect ans tradeId now world.store record = some (record, false) := by
    unfold protect
    rw [unpulled]
    rfl
  have recovered : recoverOne env ans redrives .leaveForCaller tradeId record now world = (world, {}) := by
    unfold recoverOne
    rw [unprotected]
    dsimp only
    rw [releaseSatisfied_single held unreleased]
    dsimp only
    simp only [ne_eq, not_true_eq_false, false_and, undue, Bool.false_eq_true, if_false]
    split <;> rfl
  unfold watchOne
  rw [recovered]
  rfl

theorem LeadWiden.Stands.apply {widen : LeadWiden env world} {present : World} {ans : Answers}
    {attempts : List EntryAttempt} {position : BrokerOrder} {now : Int} (stands : widen.Stands present)
    (joined : ∀ attempt ∈ joinPositionToAttempt position attempts, attempt.tradeId = widen.attempt.tradeId)
    (inTime : now < widen.lapses) : widen.Stands (widenOne env ans attempts position now present) := by
  have ends := widenOne_ends env ans attempts position now present
  generalize widenOne env ans attempts position now present = after at ends
  cases ends with
  | skipped => exact stands
  | @widened attempt record level own unapplied applied =>
    refine absurd ?_ unapplied
    rw [joined attempt own, Store.getHeldTradeRecord, stands.row, readAt_some, if_pos inTime]
    rfl

theorem LeadWiden.Stands.lifecycle {widen : LeadWiden env world} {present : World} {ans : Answers}
    {redrives : Nat → Answers} {record : HeldTradeRecord} {now : Int} (stands : widen.Stands present)
    (read : present.store.getHeldTradeRecord now widen.attempt.tradeId = some record)
    (later : widen.now ≤ now) (before : now < widen.spike.done) (unrecovered : ¬ widen.Recovers ans) :
    widen.Stands (watchOne env ans redrives widen.attempt.tradeId record now present) := by
  obtain ⟨_, stored, _⟩ := readAt_eq_some.mp read
  rw [stands.row] at stored
  cases stored
  have reached := widen.reached
  have length := widen.spike.length
  have early : now < widen.record.openedAt + seconds safetyForceRestoreSeconds := by
    change now < widen.now + seconds safetyForceRestoreSeconds
    unfold seconds safetyForceRestoreSeconds at *
    omega
  have hour : env.spreads.isSpreadHour (env.spreads.lookupKey widen.record.instrument) now = true :=
    widen.spike.isSpreadHour widen.own (reached.trans later) before
  rw [watchOne_widened redrives _ widen.record present rfl rfl hour unrecovered early]
  exact stands

theorem LeadWiden.Stands.step {widen : LeadWiden env world} {present : World} {tick : StopTick}
    (stands : widen.Stands present) (allowed : widen.Allows present tick) (undecided : widen.Undecided tick)
    (spared : widen.Spared tick) :
    widen.Stands (tick.step env widen.attempt.tradeId widen.position.id present) := by
  cases tick with
  | apply ans attempts now =>
    unfold StopTick.step
    dsimp only
    cases found : present.book.openPositions.find? (·.id == widen.position.id) with
    | none => exact stands
    | some position =>
      obtain ⟨_, _, _, joined⟩ := allowed
      exact stands.apply
        (joined position (List.mem_of_find?_eq_some found) (by simpa using List.find?_some found)) spared
  | lifecycle ans redrives now =>
    unfold StopTick.step
    dsimp only
    cases read : present.store.getHeldTradeRecord now widen.attempt.tradeId with
    | none => exact stands
    | some record =>
      obtain ⟨_, later, before⟩ := allowed
      refine stands.lifecycle read later before ?_
      rcases lt_or_ge now widen.spike.top with lead | inside
      · exact spared lead
      · exact undecided inside
  | elsewhere after =>
    obtain ⟨row, stop⟩ := allowed
    exact ⟨row.trans stands.row, stop.trans stands.stop⟩

/-- From the apply tick on, and until the hour is over or a lifecycle tick inside it samples a recovered
spread, the stop stays at the widened level through every schedule whose lifecycle ticks in the lead
sample no recovered spread and whose apply ticks come before the record has lapsed. -/
theorem LeadWiden.survives (widen : LeadWiden env world) (ticks : List StopTick)
    (allowed : Along (StopTick.step env widen.attempt.tradeId widen.position.id) widen.Allows widen.after ticks)
    (undecided : ∀ tick ∈ ticks, widen.Undecided tick) (spared : ∀ tick ∈ ticks, widen.Spared tick) :
    (ticks.foldl (StopTick.step env widen.attempt.tradeId widen.position.id) widen.after).book.stopOf
      widen.position.id = some widen.level := by
  have guarded := allowed.and (Along.of_forall (fun tick member => And.intro (undecided tick member)
    (spared tick member)) widen.after)
  exact (Along.foldl_invariant (fun _ _ stands both => stands.step both.1 both.2.1 both.2.2) widen.begins
    guarded).stop

end

/-- The hour from 21:00 UTC is flagged. -/
def flaggedEvening : SpreadSchedule where
  mask := 2 ^ 21
  widenFrac _ := 1 / 10
  forecast _ := 0
  localHour now := (now / seconds 3600 % 24).toNat
  localMinute now := (now / seconds 60 % 60).toNat

def eveningSpike : SpikeHour flaggedEvening where
  hour := 21
  leadFrom := seconds 73800
  top := seconds 75600
  done := seconds 79200
  inDay := by decide
  flagged := by decide
  calmBefore := by decide
  lead now reached early := by
    simp only [flaggedEvening, seconds, nanosPerSecond, spreadHourLeadMinutes] at *
    omega
  inside now reached before := by
    simp only [flaggedEvening, seconds, nanosPerSecond] at *
    omega
  length := by decide

def flaggedEvenings : Env :=
  { Env.plain fun _ => none with
    spreads :=
      { schedule := fun _ => some flaggedEvening
        lookupKey := id
        isNyCloseEdge := fun _ => false } }

/-- Every call succeeds, and every quote has this spread. -/
def quotedWith (spread : Rat) : Answers where
  quote _ := some ⟨85, 85 + spread⟩

theorem quotedWith_succeed (spread : Rat) : (quotedWith spread).Succeed :=
  ⟨fun _ => rfl, fun _ => rfl, fun _ => rfl, rfl, rfl⟩

/-- The scratched short's stop, widened at 20:30 for the hour from 21:00. -/
def leadWidened : LeadWiden flaggedEvenings { book := scratchedBook } where
  position := scratched
  schedule := flaggedEvening
  spike := eveningSpike
  stop := 100
  attempts := [scratchedAttempt]
  attempt := scratchedAttempt
  pipSize := 1
  ans := quotedWith 1
  quote := ⟨85, 86⟩
  now := seconds 73800
  opened := by decide
  own := rfl
  stopped := rfl
  joined := by decide
  sized := by decide +kernel
  unapplied := by decide
  succeed := quotedWith_succeed 1
  quoted := by decide +kernel
  reached := le_rfl
  early := by decide

/-- A lifecycle tick in the lead, and one of each pass within the hour, while the spread is wide. -/
def wideSpreadTicks : List StopTick :=
  [.lifecycle (quotedWith 9) (fun _ => {}) (seconds 74700),
   .lifecycle (quotedWith 30) (fun _ => {}) (seconds 76500),
   .apply (quotedWith 30) [scratchedAttempt] (seconds 76500)]

theorem leadWidened_survives :
    (wideSpreadTicks.foldl (StopTick.step flaggedEvenings "trade-1" 1) leadWidened.after).book.stopOf 1 =
      some leadWidened.level := by
  have wide : ¬ leadWidened.Recovers (quotedWith 9) ∧ ¬ leadWidened.Recovers (quotedWith 30) :=
    ⟨by unfold LeadWiden.Recovers; decide +kernel, by unfold LeadWiden.Recovers; decide +kernel⟩
  refine leadWidened.survives wideSpreadTicks
    ⟨⟨quotedWith_succeed 9, by decide, by decide⟩, ⟨quotedWith_succeed 30, by decide, by decide⟩,
      ⟨quotedWith_succeed 30, by decide, by decide, by decide +kernel⟩, trivial⟩ ?_ ?_
  · simp [wideSpreadTicks, LeadWiden.Undecided, wide]
  · simp only [wideSpreadTicks, List.forall_mem_cons, LeadWiden.Spared, wide, not_false_eq_true, implies_true,
      List.not_mem_nil, false_imp_iff, and_true, true_and]
    decide +kernel

/-- A quarter of an hour before the hour the spread is still calm, and a lifecycle tick puts the stop
back where it was. -/
theorem leadWidened_restored : ¬ ∀ (env : Env) (world : World) (widen : LeadWiden env world)
    (ticks : List StopTick),
    Along (StopTick.step env widen.attempt.tradeId widen.position.id) widen.Allows widen.after ticks →
    (∀ tick ∈ ticks, widen.Undecided tick) →
    (ticks.foldl (StopTick.step env widen.attempt.tradeId widen.position.id) widen.after).book.stopOf
      widen.position.id = some widen.level := by
  intro always
  have survives := always _ _ leadWidened [.lifecycle (quotedWith 1) (fun _ => {}) (seconds 74700)]
    ⟨⟨quotedWith_succeed 1, by decide, by decide⟩, trivial⟩
    (by simp [LeadWiden.Undecided, leadWidened, eveningSpike, seconds, nanosPerSecond])
  exact absurd survives (by decide +kernel)

/-- The record of a stop widened at 20:30 lapses at 21:30, and the next apply tick of the hour widens the
widened stop. -/
theorem leadWidened_widenedAgain : ¬ ∀ (env : Env) (world : World) (widen : LeadWiden env world)
    (ticks : List StopTick),
    Along (StopTick.step env widen.attempt.tradeId widen.position.id) widen.Allows widen.after ticks →
    (∀ tick ∈ ticks, ∀ ans redrives now, tick = .lifecycle ans redrives now → ¬ widen.Recovers ans) →
    (ticks.foldl (StopTick.step env widen.attempt.tradeId widen.position.id) widen.after).book.stopOf
      widen.position.id = some widen.level := by
  intro always
  have survives := always _ _ leadWidened [.apply (quotedWith 1) [scratchedAttempt] (seconds 78300)]
    ⟨⟨quotedWith_succeed 1, by decide, by decide, by decide +kernel⟩, trivial⟩ (by simp)
  exact absurd survives (by decide +kernel)

end TradeControl
