import TradeControl.RememberedStops

namespace TradeControl

open Foundation

/-- A tick of the blackout watcher or the stop widener over one account, a turn of order control with
a park, or anything else, which leaves the records alone. -/
inductive RecordTick
  | watch (holds : List (Answers × BrokerOrder)) (listed : List String) (recovers : String → Answers)
      (redrives : String → Nat → Answers) (finishes : String → Answers) (now : Int)
  | apply (attempts : List EntryAttempt) (positions : List (Answers × BrokerOrder)) (now : Int)
  | park (ans : Answers) (tradeId instrument : String) (pipSize : Rat) (order : StoredOrder)
      (expiresAt now : Int)
  | retire (ans : Answers) (tradeId : String) (now : Int)
  | elsewhere (world : World)

section
variable (env : Env) (recovers : String → Answers) (redrives : String → Nat → Answers) (now : Int)

/-- The records of the trades that a pass lists, as it reads them at its start. -/
def Store.listRecords (store : Store) (tradeIds : List String) : List (String × HeldTradeRecord) :=
  tradeIds.filterMap fun tradeId =>
    (store.getHeldTradeRecord now tradeId).map fun record => (tradeId, record)

def recoverEvent (row : String × HeldTradeRecord) : RecordEvent :=
  .recover (recovers row.1) (redrives row.1) .leaveForCaller row.1 row.2 now

/-- The trades that the pass over the listed records reports restored. -/
def restoredTrades : List (String × HeldTradeRecord) → World → List String
  | [], _ => []
  | (tradeId, record) :: rest, world =>
    let (after, report) :=
      recoverOne env (recovers tradeId) (redrives tradeId) .leaveForCaller tradeId record now world
    if report.restored.isSome then tradeId :: restoredTrades rest after else restoredTrades rest after

end

/-- What a tick does to the records, one operation after the other: the watcher holds the resting
orders, recovers the records that it lists then, and finishes those reported restored. -/
def RecordTick.events (env : Env) (world : World) : RecordTick → List RecordEvent
  | .watch holds listed recovers redrives finishes now =>
    let held := holds.map fun (ans, order) => RecordEvent.hold ans order now
    let after := held.foldl (RecordEvent.step env) world
    let records := after.store.listRecords now listed
    held ++ records.map (recoverEvent recovers redrives now) ++
      (restoredTrades env recovers redrives now records after).map fun tradeId =>
        .finish (finishes tradeId) tradeId now
  | .apply attempts positions now =>
    positions.map fun (ans, position) => .widen ans attempts position now
  | .park ans tradeId instrument pipSize order expiresAt now =>
    [.park ans tradeId instrument pipSize order expiresAt now]
  | .retire ans tradeId now => [.retire ans tradeId now]
  | .elsewhere _ => []

def RecordTick.step (env : Env) (world : World) (tick : RecordTick) : World :=
  match tick with
  | .elsewhere after => { after with store := { after.store with held := world.store.held } }
  | tick => (tick.events env world).foldl (RecordEvent.step env) world

/-- Every finish of the tick can bring back the stops of the record that it clears. -/
def RecordTick.Restores (env : Env) (world : World) (tick : RecordTick) : Prop :=
  Along (RecordEvent.step env) (fun world event => event.Restores world) world (tick.events env world)

/-- No operation of the tick forgets a stop that has not settled. -/
def RecordTick.KeepsStops (env : Env) (world : World) (tick : RecordTick) : Prop :=
  Along (RecordEvent.step env) (fun world event => event.KeepsStops env world) world (tick.events env world)

section
variable {env : Env} {recovers : String → Answers} {redrives : String → Nat → Answers} {now : Int}

theorem listRecords_stops {store : Store} {tradeIds : List String} {row : String × HeldTradeRecord}
    (member : row ∈ store.listRecords now tradeIds) : store.stopsAt now row.1 = row.2.originalStops := by
  obtain ⟨tradeId, _, listed⟩ := List.mem_filterMap.mp member
  obtain ⟨record, read, rfl⟩ := Option.map_eq_some_iff.mp listed
  exact stopsAt_of_read read

/-- A record is recovered as it was listed, whatever was recovered before it. -/
theorem recoveries_listed {rows : List (String × HeldTradeRecord)} {world : World}
    (read : ∀ row ∈ rows, world.store.stopsAt now row.1 = row.2.originalStops) :
    Along (RecordEvent.step env) (fun world event => event.Listed world) world
      (rows.map (recoverEvent recovers redrives now)) := by
  induction rows generalizing world with
  | nil => trivial
  | cons row rest ih =>
    have listed := read row (by simp)
    have stands : world.store.StopsStand now ((recoverEvent recovers redrives now row).step env world).store :=
      recoverOne_stopsStand listed
    refine ⟨⟨rfl, listed⟩, ih fun later member => ?_⟩
    rw [stands.stops]
    exact read later (List.mem_cons_of_mem _ member)

theorem along_of_each {good : World → RecordEvent → Prop} {events : List RecordEvent}
    (each : ∀ event ∈ events, ∀ world, good world event) (world : World) :
    Along (RecordEvent.step env) good world events :=
  (Along.of_forall each world).mono fun world _ met => met world

theorem RecordTick.events_listed (env : Env) (world : World) (tick : RecordTick) :
    Along (RecordEvent.step env) (fun world event => event.Listed world) world (tick.events env world) := by
  cases tick with
  | watch holds listed recovers redrives finishes now =>
    rw [RecordTick.events, Along.append, Along.append]
    refine ⟨⟨along_of_each (fun event member world => ?_) world,
      recoveries_listed fun row member => listRecords_stops member⟩,
      along_of_each (fun event member world => ?_) _⟩
    · obtain ⟨_, _, rfl⟩ := List.mem_map.mp member
      trivial
    · obtain ⟨_, _, rfl⟩ := List.mem_map.mp member
      trivial
  | apply attempts positions now =>
    refine along_of_each (fun event member world => ?_) world
    obtain ⟨_, _, rfl⟩ := List.mem_map.mp member
    trivial
  | park => exact ⟨trivial, trivial⟩
  | retire => exact ⟨trivial, trivial⟩
  | elsewhere => trivial

theorem RecordTick.step_eq (env : Env) (world : World) (tick : RecordTick) :
    (tick.step env world).store.held =
      ((tick.events env world).foldl (RecordEvent.step env) world).store.held := by
  cases tick with
  | watch => rfl
  | apply => rfl
  | park => rfl
  | retire => rfl
  | elsewhere => rfl

/-- A tick forgets no stop that has not settled exactly if its finishes can restore what they clear. -/
theorem RecordTick.keepsStops_iff {world : World} {tick : RecordTick} (once : world.store.StopsOnce) :
    tick.KeepsStops env world ↔ tick.Restores env world := by
  have agree : ∀ (world : World) (event : RecordEvent), world.store.StopsOnce → event.Listed world →
      (event.KeepsStops env world ↔ event.Restores world) :=
    fun _ _ once listed => RecordEvent.keepsStops_iff listed once
  have preserved : ∀ (world : World) (event : RecordEvent), world.store.StopsOnce → event.Listed world →
      event.KeepsStops env world → (event.step env world).store.StopsOnce :=
    fun _ _ once listed _ => RecordEvent.step_stopsOnce listed once
  exact Along.iff_of_invariant agree preserved once (tick.events_listed env world)

/-- No tick remembers a second stop on a record, whatever it meets. -/
theorem RecordTick.step_stopsOnce {world : World} {tick : RecordTick} (once : world.store.StopsOnce) :
    (tick.step env world).store.StopsOnce := by
  have preserved : ∀ (world : World) (event : RecordEvent), world.store.StopsOnce → event.Listed world →
      (event.step env world).store.StopsOnce :=
    fun _ _ once listed => RecordEvent.step_stopsOnce listed once
  have ended := Along.foldl_invariant preserved once (tick.events_listed env world)
  intro tradeId row stored
  rw [tick.step_eq] at stored
  exact ended tradeId row stored

/-- In every run from a store without records, no remembered stop is forgotten before it has settled
exactly if every finish can restore what it clears. -/
theorem rememberedStops_kept_iff (env : Env) (start : World) (ticks : List RecordTick)
    (unheld : ∀ tradeId, start.store.held tradeId = none) :
    Along (RecordTick.step env) (fun world tick => tick.KeepsStops env world) start ticks ↔
      Along (RecordTick.step env) (fun world tick => tick.Restores env world) start ticks := by
  have bare : start.store.StopsOnce := by
    intro tradeId row stored
    rw [unheld] at stored
    cases stored
  have agree : ∀ (world : World) (tick : RecordTick), world.store.StopsOnce → True →
      (tick.KeepsStops env world ↔ tick.Restores env world) :=
    fun _ _ once _ => RecordTick.keepsStops_iff once
  have preserved : ∀ (world : World) (tick : RecordTick), world.store.StopsOnce → True →
      tick.KeepsStops env world → (tick.step env world).store.StopsOnce :=
    fun _ _ once _ _ => RecordTick.step_stopsOnce once
  exact Along.iff_of_invariant agree preserved bare (Along.of_forall (fun _ _ => trivial) start)

end

/-- The short of the scratched book is widened at 21:00, and at 22:00 its record is recovered and finished. -/
def widenedEvening (finish : Answers) : List RecordTick :=
  [.apply [scratchedAttempt] [({ quote := fun _ => some ⟨85, 86⟩ }, scratched)] (seconds 75600),
    .watch [] ["trade-1"] (fun _ => { quote := fun _ => some ⟨85, 86⟩ }) (fun _ _ => {}) (fun _ => finish)
      (seconds 79200)]

def eveningRecoveries : List RecordEvent :=
  (widenedScratch.store.listRecords (seconds 79200) ["trade-1"]).map
    (recoverEvent (fun _ => { quote := fun _ => some ⟨85, 86⟩ }) (fun _ _ => {}) (seconds 79200))

/-- The scratched book as the finish finds it. -/
def recoveredScratch : World :=
  eveningRecoveries.foldl (RecordEvent.step closeEdge) widenedScratch

theorem widenedEvening_along {good : World → RecordEvent → Prop} (finish : Answers)
    (widened : good { book := scratchedBook } (.widen { quote := fun _ => some ⟨85, 86⟩ } [scratchedAttempt]
      scratched (seconds 75600))) :
    Along (RecordTick.step closeEdge)
        (fun world tick => Along (RecordEvent.step closeEdge) good world (tick.events closeEdge world))
        { book := scratchedBook } (widenedEvening finish) ↔
      Along (RecordEvent.step closeEdge) good widenedScratch eveningRecoveries ∧
        good recoveredScratch (.finish finish "trade-1" (seconds 79200)) := by
  have restored : restoredTrades closeEdge (fun _ => { quote := fun _ => some ⟨85, 86⟩ }) (fun _ _ => {})
      (seconds 79200) (widenedScratch.store.listRecords (seconds 79200) ["trade-1"]) widenedScratch =
      ["trade-1"] := by decide +kernel
  have events : RecordTick.events closeEdge widenedScratch (.watch [] ["trade-1"]
      (fun _ => { quote := fun _ => some ⟨85, 86⟩ }) (fun _ _ => {}) (fun _ => finish) (seconds 79200)) =
      eveningRecoveries ++ [.finish finish "trade-1" (seconds 79200)] :=
    congrArg (fun trades => eveningRecoveries ++ trades.map fun tradeId =>
      RecordEvent.finish finish tradeId (seconds 79200)) restored
  constructor
  · rintro ⟨-, run, -⟩
    change Along _ good widenedScratch (RecordTick.events closeEdge widenedScratch _) at run
    rw [events, Along.append] at run
    exact ⟨run.1, run.2.1⟩
  · rintro ⟨recovered, finished⟩
    refine ⟨⟨widened, trivial⟩, ?_, trivial⟩
    change Along _ good widenedScratch (RecordTick.events closeEdge widenedScratch _)
    rw [events, Along.append]
    exact ⟨recovered, finished, trivial⟩

theorem recoveredScratch_reads :
    recoveredScratch.store.stopsAt (seconds 79200) "trade-1" = [⟨1, 100⟩] ∧
      recoveredScratch.book.openPositions = [{ scratched with stopLoss := some 122 }] := by
  decide +kernel

theorem recoveredScratch_restoreTo : restoreDecision .short 122 100 = .restoreTo 100 := by decide +kernel

theorem rememberedStops_kept_evening :
    (∀ tradeId, ({ book := scratchedBook } : World).store.held tradeId = none) ∧
      Along (RecordTick.step closeEdge) (fun world tick => tick.KeepsStops closeEdge world)
        { book := scratchedBook } (widenedEvening {}) := by
  have unheld : ∀ tradeId, ({ book := scratchedBook } : World).store.held tradeId = none := fun _ => rfl
  refine ⟨unheld, (rememberedStops_kept_iff closeEdge _ _ unheld).mpr
    ((widenedEvening_along {} trivial).mpr ⟨?_, ?_⟩)⟩
  · refine along_of_each (fun event member world => ?_) widenedScratch
    obtain ⟨_, _, rfl⟩ := List.mem_map.mp member
    trivial
  · obtain ⟨stops, positions⟩ := recoveredScratch_reads
    intro _ _ remembered member
    rw [stops] at member
    obtain rfl := List.mem_singleton.mp member
    rw [RememberedStop.Restorable, positions]
    refine fun position listed own => .inr ⟨rfl, rfl, by simp, _, 122, rfl, rfl, recoveredScratch_restoreTo⟩

/-- The broker fails the amend, and the record goes while the stop is still wide. -/
theorem rememberedStops_forgotten :
    ¬ Along (RecordTick.step closeEdge) (fun world tick => tick.KeepsStops closeEdge world)
      { book := scratchedBook } (widenedEvening { amend := fun _ => .failed }) := by
  intro kept
  obtain ⟨stops, positions⟩ := recoveredScratch_reads
  have widened : RecordEvent.KeepsStops closeEdge { book := scratchedBook }
      (.widen { quote := fun _ => some ⟨85, 86⟩ } [scratchedAttempt] scratched (seconds 75600)) := by
    have bare : ({ book := scratchedBook } : World).store.StopsOnce := nofun
    refine (RecordEvent.keepsStops_iff ?_ bare).mpr trivial
    trivial
  have finished := ((widenedEvening_along _ widened).mp kept).2 "trade-1" ⟨1, 100⟩ (by
    rw [RecordEvent.now, stops]
    exact List.mem_singleton_self _)
  have cleared : (RecordEvent.step closeEdge recoveredScratch
      (.finish { amend := fun _ => .failed } "trade-1" (seconds 79200))).store.stopsAt (seconds 79200)
        "trade-1" = [] := by
    decide +kernel
  have left : (RecordEvent.step closeEdge recoveredScratch
      (.finish { amend := fun _ => .failed } "trade-1" (seconds 79200))).book.openPositions =
        [{ scratched with stopLoss := some 122 }] := by
    decide +kernel
  rcases finished with remembered | settled
  · rw [RecordEvent.now, cleared] at remembered
    cases remembered
  · rw [RememberedStop.Settled, left] at settled
    obtain ⟨_, reason, ⟨⟩, skips⟩ := settled _ (List.mem_singleton_self _) rfl
    cases recoveredScratch_restoreTo.symm.trans skips

end TradeControl
