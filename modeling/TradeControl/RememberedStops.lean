import TradeControl.ParksKept
import TradeControl.RecoverRows
import TradeControl.WidenEpisode

namespace TradeControl

open Foundation

/-- The stops that a trade's readable record remembers. -/
def Store.stopsAt (store : Store) (now : Int) (tradeId : String) : List RememberedStop :=
  ((store.getHeldTradeRecord now tradeId).map (·.originalStops)).getD []

/-- A record remembers one stop at most, and only once it is applied. -/
def HeldTradeRecord.StopOnce (record : HeldTradeRecord) : Prop :=
  record.originalStops.length ≤ 1 ∧ (record.originalStops ≠ [] → record.applied = true)

def Store.StopsOnce (store : Store) : Prop :=
  ∀ tradeId row, store.held tradeId = some row → row.value.StopOnce

/-- Every trade's record remembers what it did. -/
structure Store.StopsStand (now : Int) (before after : Store) : Prop where
  stops : ∀ tradeId, after.stopsAt now tradeId = before.stopsAt now tradeId
  once : before.StopsOnce → after.StopsOnce

section
variable {now : Int} {before after : Store} {record : HeldTradeRecord} {tradeId own : String}

theorem stopsAt_of_read (read : before.getHeldTradeRecord now tradeId = some record) :
    before.stopsAt now tradeId = record.originalStops := by
  rw [Store.stopsAt, read]
  rfl

theorem mem_stopsAt {remembered : RememberedStop} : remembered ∈ before.stopsAt now tradeId ↔
    ∃ record, before.getHeldTradeRecord now tradeId = some record ∧ remembered ∈ record.originalStops := by
  unfold Store.stopsAt
  cases before.getHeldTradeRecord now tradeId with
  | none => simp
  | some record => simp

theorem Store.StopsOnce.read (once : before.StopsOnce)
    (read : before.getHeldTradeRecord now tradeId = some record) : record.StopOnce := by
  obtain ⟨_, stored, _⟩ := readAt_eq_some.mp read
  exact once tradeId _ stored

theorem Store.StopsStand.congr (same : after.held = before.held) : before.StopsStand now after := by
  refine ⟨fun tradeId => ?_, fun once tradeId row stored => ?_⟩
  · unfold Store.stopsAt Store.getHeldTradeRecord
    rw [same]
  · rw [same] at stored
    exact once tradeId row stored

theorem Store.StopsStand.refl (store : Store) : store.StopsStand now store := .congr rfl

theorem Store.StopsStand.trans {third : Store} (one : before.StopsStand now after)
    (two : after.StopsStand now third) : before.StopsStand now third :=
  ⟨fun tradeId => (two.stops tradeId).trans (one.stops tradeId), fun once => two.once (one.once once)⟩

theorem stopsAt_upsert (store : Store) (ttl : Int) :
    (store.upsertHeldTradeRecord now own record ttl).stopsAt now tradeId =
      if tradeId = own then record.originalStops else store.stopsAt now tradeId := by
  by_cases mine : tradeId = own
  · subst mine
    rw [if_pos rfl]
    exact stopsAt_of_read (getHeldTradeRecord_upsert ..)
  · rw [if_neg mine, Store.stopsAt, getHeldTradeRecord_upsert_of_ne _ mine]
    rfl

theorem Store.StopsOnce.upsert (once : before.StopsOnce) (single : record.StopOnce) (ttl : Int) :
    (before.upsertHeldTradeRecord now own record ttl).StopsOnce := by
  intro tradeId row stored
  by_cases mine : tradeId = own
  · subst mine
    rw [held_upsert] at stored
    obtain rfl := Option.some.inj stored
    exact single
  · rw [held_upsert_of_ne _ mine] at stored
    exact once tradeId row stored

theorem Store.StopsOnce.clear (once : before.StopsOnce) (own : String) :
    (before.clearHeldTradeRecord own).StopsOnce := by
  intro tradeId row stored
  unfold Store.clearHeldTradeRecord at stored
  dsimp only at stored
  by_cases mine : tradeId = own
  · rw [mine, Function.update_self] at stored
    cases stored
  · rw [Function.update_of_ne mine] at stored
    exact once tradeId row stored

/-- A rewrite that carries the stops of the record it has read, and keeps it applied. -/
theorem Store.StopsStand.rewrite {existing : Option HeldTradeRecord}
    (read : before.getHeldTradeRecord now own = existing)
    (carried : record.originalStops = (existing.map (·.originalStops)).getD [])
    (applied : ∀ old, existing = some old → old.applied = true → record.applied = true) (ttl : Int) :
    before.StopsStand now (before.upsertHeldTradeRecord now own record ttl) := by
  refine ⟨fun tradeId => ?_, fun once => once.upsert ?_ ttl⟩
  · rw [stopsAt_upsert]
    split
    next mine => rw [mine, carried, Store.stopsAt, read]
    next => rfl
  · unfold HeldTradeRecord.StopOnce
    rw [carried]
    cases existing with
    | none => exact ⟨Nat.zero_le 1, fun remembers => absurd rfl remembers⟩
    | some old =>
      obtain ⟨single, held⟩ := once.read read
      exact ⟨single, fun remembers => applied old rfl (held remembers)⟩

theorem Store.StopsStand.clear (bare : before.stopsAt now own = []) :
    before.StopsStand now (before.clearHeldTradeRecord own) := by
  refine ⟨fun tradeId => ?_, fun once => once.clear own⟩
  by_cases mine : tradeId = own
  · rw [mine, bare, Store.stopsAt, getHeldTradeRecord_clear]
    rfl
  · rw [Store.stopsAt, getHeldTradeRecord_clear_of_ne _ mine]
    rfl

end

section
variable {ans : Answers} {now : Int} {store : Store} {own : String}

/-- A park keeps the stops of the record it is put on. -/
theorem parkOrder_stopsStand (instrument : String) (pipSize : Rat) (order : StoredOrder) (expiresAt : Int) :
    store.StopsStand now (parkOrder ans own instrument pipSize order expiresAt now store).1 := by
  unfold parkOrder
  split
  · exact .refl store
  dsimp only
  split
  · cases read : store.getHeldTradeRecord now own with
    | none =>
      refine .rewrite read ?_ (fun _ missing => ?_) _
      · rfl
      · cases missing
    | some record =>
      refine .rewrite read ?_ (fun _ same applied => ?_) _
      · rfl
      · cases same
        exact applied
  · exact .refl store

/-- Order control takes a record down only once it remembers no stop. -/
theorem clearStoredOrder_stopsStand (now : Int) : store.StopsStand now (clearStoredOrder ans own now store).1 := by
  unfold clearStoredOrder
  split
  · exact .refl store
  split
  · exact .refl store
  next record read =>
  dsimp only
  split
  · split
    · refine .rewrite read ?_ (fun _ same applied => ?_) _
      · rfl
      · cases same
        exact applied
    · exact .refl store
  next spent =>
    split
    · refine .clear ?_
      rw [stopsAt_of_read read]
      simp only [HeldTradeRecord.stillNeeded, Bool.or_eq_true, not_or, Bool.not_eq_true,
        Bool.not_eq_false', List.isEmpty_iff] at spent
      exact spent.1.1.2
    · exact .refl store

theorem dropCancelledOrder_stopsStand {record : HeldTradeRecord} (orderId : Nat) (ttl : Int)
    (read : store.getHeldTradeRecord now own = some record) :
    store.StopsStand now (dropCancelledOrder ans own record orderId ttl now store) := by
  unfold dropCancelledOrder
  refine .trans ?_ (.congr (cleanupBody_held ..))
  dsimp only
  split
  next emptied =>
    simp only [Bool.and_eq_true, List.isEmpty_iff] at emptied
    split
    · exact .clear ((stopsAt_of_read read).trans emptied.2)
    · exact .refl store
  next =>
    split
    · refine .rewrite read ?_ (fun _ same applied => ?_) _
      · rfl
      · cases same
        exact applied
    · exact .refl store

theorem mergeCancelledOrder_stops (env : Env) (existing : Option HeldTradeRecord) (instrument : String)
    (pipSize : Rat) (cancelled : CancelledOrder) (holding : Holders) (now : Int) :
    (mergeCancelledOrder env existing instrument pipSize cancelled holding now).originalStops =
        (existing.map (·.originalStops)).getD [] ∧
      (mergeCancelledOrder env existing instrument pipSize cancelled holding now).applied = true := by
  cases existing with
  | none => exact ⟨rfl, rfl⟩
  | some record => exact ⟨rfl, rfl⟩

/-- A hold keeps the stops of the record it puts its order on. -/
theorem tryCancelOne_stopsStand {env : Env} {order : BrokerOrder} {world : World} (now : Int) :
    world.store.StopsStand now (tryCancelOne env ans order now world).1.store := by
  have unchanged : world.store.StopsStand now world.store := .refl world.store
  unfold tryCancelOne
  split
  · exact unchanged
  split
  next signedIntent verified _ recovered =>
    dsimp only
    split
    · exact unchanged
    split
    · exact unchanged
    next pipSize _ =>
    split
    · exact unchanged
    split
    · exact unchanged
    next record _ guarded =>
    split
    · exact unchanged
    generalize verified.intent.tradeId.getD (toString order.id) = own at *
    obtain ⟨merged, applied⟩ := mergeCancelledOrder_stops env (world.store.getHeldTradeRecord now own)
      order.instrument pipSize ⟨order.id, signedIntent⟩
      (holdReasons env ans order.instrument own now world.store) now
    have written : world.store.StopsStand now (world.store.upsertHeldTradeRecord now own record
        (holdTtl env order.instrument record now)) := by
      refine .rewrite rfl ((protect_kept guarded).2.2.trans merged) (fun _ _ _ => ?_) _
      exact (protect_applied guarded).trans applied
    split
    · exact written
    · dsimp only
      split
      · exact written.trans (dropCancelledOrder_stopsStand order.id _ (getHeldTradeRecord_upsert ..))
      · exact written
  · exact unchanged

theorem runEnter_stopsStand (env : Env) (call : EnterCall) (world : World) :
    world.store.StopsStand call.now (runEnter env ans call world).1.store := by
  have parked : ∀ {before after : World}, before.MaybeParks ans call after →
      before.store.StopsStand call.now after.store := by
    rintro before after (rfl | ⟨_, _, _, _, _, _, -, rfl⟩)
    · exact .refl _
    · exact parkOrder_stopsStand ..
  rcases runEnter_cases env ans call world with ⟨middle, quiet, parks, -⟩ | ⟨plan, middle, passed, run⟩
  · exact (Store.StopsStand.congr quiet.held).trans (parked parks)
  · have ended := placeStage_cases env ans call plan passed.tradeId passed.instrument middle
    have opened : world.store.StopsStand call.now middle.store := .congr passed.quiet.held
    rw [run]
    generalize placeStage env ans call plan middle = ending at ended ⊢
    obtain ⟨after, result⟩ := ending
    cases ended with
    | refused same parks =>
      have kept := parked parks
      exact opened.trans kept
    | dryRun same kept => exact opened.trans (.congr (by rw [kept]))
    | accepted took kept =>
      refine opened.trans (.congr ?_)
      dsimp only at kept ⊢
      rw [kept, recordPlaced_held]
    | unreadable took kept => exact opened.trans (.congr (by rw [kept]))

theorem restoreOneOrder_stopsStand {env : Env} {record : HeldTradeRecord} {cancelled : CancelledOrder}
    {world : World} :
    world.store.StopsStand now (restoreOneOrder env ans record cancelled now world).1.store := by
  have cleaned : ∀ after : Store, world.store.StopsStand now after →
      world.store.StopsStand now (cleanupBody ans cancelled.orderId after) :=
    fun after stands => stands.trans (.congr (cleanupBody_held ..))
  unfold restoreOneOrder
  dsimp only
  split
  · exact cleaned _ (.refl _)
  · exact .refl _
  next verified _ =>
    split
    · exact .refl _
    split
    · exact .refl _
    split
    · exact cleaned _ (runEnter_stopsStand env (cancelled.redrive verified now) world)
    · exact cleaned _ (.refl _)

theorem restoreCancelledOrders_stopsStand (env : Env) (redrives : Nat → Answers) (record : HeldTradeRecord)
    (orders : List CancelledOrder) : ∀ world : World,
    world.store.StopsStand now (restoreCancelledOrders env redrives record now world orders).1.store := by
  induction orders with
  | nil => exact fun world => .refl world.store
  | cons cancelled rest ih =>
    intro world
    exact restoreOneOrder_stopsStand.trans (ih _)

/-- A recovery that leaves the clear to its caller keeps every remembered stop, over a record that was
listed with the stops its trade's row remembers. -/
theorem recoverOne_stopsStand {env : Env} {redrives : Nat → Answers} {record : HeldTradeRecord}
    {world : World} (listed : world.store.stopsAt now own = record.originalStops) :
    world.store.StopsStand now (recoverOne env ans redrives .leaveForCaller own record now world).1.store := by
  have rewritten : record.applied = true → ∀ (store : Store) (held : HeldTradeRecord) (ttl : Int),
      held.originalStops = record.originalStops → held.applied = record.applied →
      store = world.store ∨ store = world.store.upsertHeldTradeRecord now own held ttl →
        world.store.StopsStand now store := by
    intro applied store held ttl stops same written
    rcases written with rfl | rfl
    · exact .refl _
    · exact .rewrite rfl (stops.trans listed.symm) (fun _ _ _ => same.trans applied) ttl
  have restored : ∀ (reason : RestoreReason) (world : World), world.store.StopsStand now
      (restoreRecord env ans redrives .leaveForCaller own record reason now world).1.store :=
    fun _ world => restoreCancelledOrders_stopsStand env redrives record record.cancelledOrders world
  by_cases applied : record.applied = true
  · have ended := recoverOne_cases env ans redrives .leaveForCaller own record now world
    generalize recoverOne env ans redrives .leaveForCaller own record now world = ending at ended ⊢
    cases ended with
    | unapplied => exact .refl _
    | unread => exact .refl _
    | aligned aligned written =>
      exact rewritten applied _ _ _ (protect_kept aligned).2.2 (protect_applied aligned) written
    | held _ _ _ narrowed written => exact rewritten applied _ _ _ (by rw [narrowed]) (by rw [narrowed]) written
    | released => exact restored .recovered world
    | @forced _ _ store _ _ narrowed written =>
      have kept := rewritten applied _ _ _ (by rw [narrowed]) (by rw [narrowed]) written
      exact kept.trans (restored .backstop { world with store })
  · unfold recoverOne
    rw [if_pos (by simpa using applied)]
    exact .refl _

end

/-- The position's stop is at the remembered original, or closer to the market. -/
def RememberedStop.Reached (remembered : RememberedStop) (position : BrokerOrder) : Prop :=
  ∃ current reason, position.stopLoss = some current ∧
    restoreDecision position.direction current remembered.originalStop = .skip reason

/-- The position is gone, or its stop is back. -/
def RememberedStop.Settled (remembered : RememberedStop) (book : Book) : Prop :=
  ∀ position ∈ book.openPositions, position.id = remembered.positionOrOrderId → remembered.Reached position

/-- The restore is bound to bring the stop back: its position is gone or its stop is back already, or
the broker can be reached, lists the positions, and amends the stop that the restore asks it to. -/
def RememberedStop.Restorable (ans : Answers) (remembered : RememberedStop) (book : Book) : Prop :=
  ∀ position ∈ book.openPositions, position.id = remembered.positionOrOrderId →
    remembered.Reached position ∨
      ans.acquire = true ∧ ans.positions = true ∧ ans.amend position.id ≠ .failed ∧
        ∃ found current, remembered.position book.openPositions = some found ∧
          found.stopLoss = some current ∧
          restoreDecision found.direction current remembered.originalStop =
            .restoreTo remembered.originalStop

/-- No stop that the operation's trade remembered is forgotten by it, unless it has settled. -/
def RecordEvent.KeepsStops (env : Env) (world : World) (event : RecordEvent) : Prop :=
  ∀ tradeId, ∀ remembered ∈ world.store.stopsAt event.now tradeId,
    remembered ∈ (event.step env world).store.stopsAt event.now tradeId ∨
      remembered.Settled (event.step env world).book

/-- A finish that will clear its record can bring back every stop the record remembers. -/
def RecordEvent.Restores (world : World) : RecordEvent → Prop
  | .finish ans tradeId now => ans.store .rereadHeld = true → ans.store .clearHeld = true →
    ∀ remembered ∈ world.store.stopsAt now tradeId, remembered.Restorable ans world.book
  | _ => True

section
variable {ans : Answers} {book : Book} {remembered : RememberedStop} {position : BrokerOrder}

theorem sameDistance_self (a : Rat) : sameDistance a a = true := by
  have bound : (0 : Rat) ≤ relativeEpsilon * max (max |a| |a|) 1 :=
    mul_nonneg (by decide +kernel) (le_trans zero_le_one (le_max_right ..))
  simpa [sameDistance] using bound

theorem restoreDecision_ends (direction : Direction) (current original : Rat) :
    (∃ reason, restoreDecision direction current original = .skip reason) ∨
      restoreDecision direction current original = .restoreTo original := by
  unfold restoreDecision
  split
  · exact .inl ⟨_, rfl⟩
  split
  · exact .inl ⟨_, rfl⟩
  · exact .inr rfl

theorem RememberedStop.reached_of_original (stop : position.stopLoss = some remembered.originalStop) :
    remembered.Reached position :=
  ⟨_, .alreadyAtOriginal, stop, by rw [restoreDecision, if_pos (sameDistance_self _)]⟩

/-- A position that is open after an amend was open before it, with its own stop or the new one. -/
theorem openPositions_amendStop {reply : AmendReply} {id : Nat} {level : Rat} {position : BrokerOrder}
    (listed : position ∈ (book.amendStop reply id level).1.openPositions) :
    position ∈ book.openPositions ∨ position.stopLoss = some level := by
  have moved : position ∈ (book.moveStop id level).openPositions →
      position ∈ book.openPositions ∨ position.stopLoss = some level := by
    intro listed
    obtain ⟨member, opened⟩ := List.mem_filter.mp listed
    obtain ⟨old, present, rfl⟩ := List.mem_map.mp member
    split at opened
    next own => exact .inr (by rw [if_pos own])
    next other =>
      rw [if_neg other]
      exact .inl (List.mem_filter.mpr ⟨present, opened⟩)
  unfold Book.amendStop at listed
  split at listed
  · exact .inl listed
  · cases reply with
    | confirmed => exact moved listed
    | failed => exact .inl listed
    | lost => exact moved listed

/-- An amend that the broker does not fail puts the open position's stop at the level. -/
theorem amendStop_open {reply : AmendReply} {level : Rat} (kept : reply ≠ .failed)
    (listed : position ∈ book.openPositions)
    (after : BrokerOrder) (listedAfter : after ∈ (book.amendStop reply position.id level).1.openPositions)
    (own : after.id = position.id) : after.stopLoss = some level := by
  have stop := Book.stopOf_amendStop listed reply level
  rw [if_neg kept] at stop
  unfold Book.stopOf at stop
  rw [← own] at stop listedAfter
  rw [(Book.order_of_open listedAfter).1] at stop
  exact stop

/-- The restore of one stop asks for no amend but of its own handle to the remembered original. -/
theorem restoreRememberedStop_eq (positions : List BrokerOrder) :
    restoreRememberedStop ans positions book remembered =
      if (remembered.position positions).any (fun found => found.stopLoss.any fun current =>
        restoreDecision found.direction current remembered.originalStop =
          .restoreTo remembered.originalStop) then
        (book.amendStop (ans.amend remembered.positionOrOrderId) remembered.positionOrOrderId
          remembered.originalStop).1
      else book := by
  unfold restoreRememberedStop
  cases remembered.position positions with
  | none => rfl
  | some found =>
    rcases Option.eq_none_or_eq_some found.stopLoss with stop | ⟨current, stop⟩
    · simp [stop]
    · rcases restoreDecision_ends found.direction current remembered.originalStop with
        ⟨reason, skips⟩ | restores
      · simp [stop, skips]
      · simp [stop, restores]

/-- An amend that fails, or a position that no order is open under, changes nothing. -/
theorem restoreRememberedStop_fails (positions : List BrokerOrder)
    (fails : ans.amend remembered.positionOrOrderId = .failed) :
    restoreRememberedStop ans positions book remembered = book := by
  rw [restoreRememberedStop_eq]
  split
  · unfold Book.amendStop
    rw [fails]
    split
    · rfl
    · rfl
  · rfl

theorem asks_iff (positions : List BrokerOrder) :
    (remembered.position positions).any (fun found => found.stopLoss.any fun current =>
      restoreDecision found.direction current remembered.originalStop =
        .restoreTo remembered.originalStop) = true ↔
      ∃ found current, remembered.position positions = some found ∧ found.stopLoss = some current ∧
        restoreDecision found.direction current remembered.originalStop =
          .restoreTo remembered.originalStop := by
  simp only [Option.any_eq_true, decide_eq_true_eq]
  constructor
  · rintro ⟨found, known, current, stop, asks⟩
    exact ⟨found, current, known, stop, asks⟩
  · rintro ⟨found, current, known, stop, asks⟩
    exact ⟨found, known, current, stop, asks⟩

/-- The restore of a record leaves a stop that it remembers settled exactly if it is bound to. -/
theorem RememberedStop.settled_iff {record : HeldTradeRecord} (single : record.originalStops.length ≤ 1)
    (member : remembered ∈ record.originalStops) :
    remembered.Settled (restoreRememberedStops ans record book) ↔ remembered.Restorable ans book := by
  obtain ⟨stop, alone⟩ := List.length_eq_one_iff.mp
    (Nat.le_antisymm single (List.length_pos_of_mem member))
  rw [alone, List.mem_singleton] at member
  subst member
  unfold restoreRememberedStops
  rw [alone]
  by_cases reached : ans.acquire = true ∧ ans.positions = true
  · obtain ⟨acquired, answered⟩ := reached
    rw [if_neg (by simp [acquired, answered]), List.foldl_cons, List.foldl_nil]
    by_cases fails : ans.amend remembered.positionOrOrderId = .failed
    · rw [restoreRememberedStop_fails _ fails]
      refine forall₃_congr fun position listed own => ?_
      rw [own]
      exact (or_iff_left fun restores => restores.2.2.1 fails).symm
    · by_cases asks : ∃ found current, remembered.position book.openPositions = some found ∧
          found.stopLoss = some current ∧ restoreDecision found.direction current
            remembered.originalStop = .restoreTo remembered.originalStop
      · refine iff_of_true (fun after listed own => ?_) fun position listed own =>
          .inr ⟨acquired, answered, by rwa [own], asks⟩
        rw [restoreRememberedStop_eq, if_pos ((asks_iff _).mpr asks)] at listed
        rcases openPositions_amendStop listed with before | moved
        · rw [← own] at listed fails
          exact reached_of_original (amendStop_open fails before after listed rfl)
        · exact reached_of_original moved
      · rw [restoreRememberedStop_eq, if_neg fun asked => asks ((asks_iff _).mp asked)]
        exact forall₃_congr fun position listed own => (or_iff_left fun restores => asks restores.2.2.2).symm
  · have unreached : ([remembered].isEmpty || !ans.acquire || !ans.positions) = true := by
      cases acquired : ans.acquire with
      | false => rfl
      | true =>
        cases answered : ans.positions with
        | false => rfl
        | true => exact absurd ⟨acquired, answered⟩ reached
    rw [if_pos unreached]
    exact forall₃_congr fun position listed own =>
      (or_iff_left fun restores => reached ⟨restores.1, restores.2.1⟩).symm

end

section
variable {env : Env} {ans : Answers} {world : World} {now : Int} {tradeId : String}

/-- A widen writes a record of its own for a trade with no applied record that it can read, or nothing. -/
theorem widenOne_store (env : Env) (ans : Answers) (attempts : List EntryAttempt) (position : BrokerOrder)
    (now : Int) (world : World) :
    (widenOne env ans attempts position now world).store = world.store ∨
      ∃ own instrument pipSize remembered ttl,
        (world.store.getHeldTradeRecord now own).any (·.applied) = false ∧
        (widenOne env ans attempts position now world).store = world.store.upsertHeldTradeRecord now own
          (widenRecord instrument pipSize remembered ttl now) ttl := by
  unfold widenOne
  split
  · exact .inl rfl
  dsimp only
  split
  · exact .inl rfl
  split
  · exact .inl rfl
  next attempt _ =>
    split
    · exact .inl rfl
    next readable =>
      split
      · split
        · refine .inr ⟨attempt.tradeId, _, _, _, _, ?_, rfl⟩
          simp only [Bool.or_eq_true, not_or, Bool.not_eq_true] at readable
          exact readable.2
        · exact .inl rfl
      · exact .inl rfl

/-- A widen takes no remembered stop off a record. -/
theorem widenOne_keepsStops (once : world.store.StopsOnce) (attempts : List EntryAttempt)
    (position : BrokerOrder) :
    (widenOne env ans attempts position now world).store.StopsOnce ∧ ∀ tradeId,
      ∀ remembered ∈ world.store.stopsAt now tradeId,
        remembered ∈ (widenOne env ans attempts position now world).store.stopsAt now tradeId := by
  rcases widenOne_store env ans attempts position now world with
    same | ⟨own, instrument, pipSize, widened, ttl, unapplied, written⟩
  · rw [same]
    exact ⟨once, fun _ _ member => member⟩
  · rw [written]
    refine ⟨once.upsert ⟨le_rfl, fun _ => rfl⟩ ttl, fun tradeId remembered member => ?_⟩
    rw [stopsAt_upsert]
    split
    next mine =>
      subst mine
      obtain ⟨record, read, remembers⟩ := mem_stopsAt.mp member
      have applied := (once.read read).2 (List.ne_nil_of_mem remembers)
      simp [read, applied] at unapplied
    next => exact member

/-- A finish forgets no unsettled stop exactly if it can restore what it clears. -/
theorem finish_keepsStops_iff (once : world.store.StopsOnce) :
    (RecordEvent.finish ans tradeId now).KeepsStops env world ↔
      (RecordEvent.finish ans tradeId now).Restores world := by
  unfold RecordEvent.KeepsStops RecordEvent.Restores
  simp only [RecordEvent.step, RecordEvent.now]
  unfold finishSystem2AndClear
  by_cases rereads : ans.store .rereadHeld = true
  · rw [rereads, Bool.not_true, if_neg Bool.false_ne_true]
    cases read : world.store.getHeldTradeRecord now tradeId with
    | none =>
      have bare : world.store.stopsAt now tradeId = [] := by
        rw [Store.stopsAt, read]
        rfl
      refine iff_of_true (fun _ _ member => .inl member) fun _ _ _ member => ?_
      rw [bare] at member
      cases member
    | some record =>
      dsimp only
      by_cases clears : ans.store .clearHeld = true
      · have stops := stopsAt_of_read read
        have single := (once.read read).1
        rw [if_pos clears, stops]
        constructor
        · intro keeps _ _ remembered member
          rcases keeps tradeId remembered (by rwa [stops]) with kept | settled
          · rw [Store.stopsAt, getHeldTradeRecord_clear] at kept
            cases kept
          · exact (RememberedStop.settled_iff single member).mp settled
        · intro restores other remembered member
          by_cases mine : other = tradeId
          · subst mine
            rw [stops] at member
            exact .inr ((RememberedStop.settled_iff single member).mpr (restores rfl clears remembered member))
          · refine .inl ?_
            rw [Store.stopsAt, getHeldTradeRecord_clear_of_ne _ mine]
            exact member
      · rw [if_neg clears]
        exact iff_of_true (fun _ _ member => .inl member) fun _ cleared => absurd cleared clears
  · rw [(Bool.not_eq_true _).mp rereads]
    exact iff_of_true (fun _ _ member => .inl member) fun read => absurd read Bool.false_ne_true

theorem finish_stopsOnce (once : world.store.StopsOnce) :
    (finishSystem2AndClear ans tradeId now world).1.store.StopsOnce := by
  unfold finishSystem2AndClear
  split
  · exact once
  split
  · exact once
  dsimp only
  split
  · exact once.clear tradeId
  · exact once

/-- The operation leaves the clear of a recovered record to its caller, and recovers it as it was listed. -/
def RecordEvent.Listed (world : World) : RecordEvent → Prop
  | .recover _ _ policy tradeId record now =>
    policy = .leaveForCaller ∧ world.store.stopsAt now tradeId = record.originalStops
  | _ => True

theorem RecordEvent.keepsStops_of_stand {event : RecordEvent}
    (stands : world.store.StopsStand event.now (event.step env world).store) :
    event.KeepsStops env world := by
  intro tradeId remembered member
  rw [stands.stops]
  exact .inl member

/-- Every operation but a widen and a finish does nothing to the remembered stops. -/
theorem RecordEvent.step_stopsOnce {event : RecordEvent} (listed : event.Listed world)
    (once : world.store.StopsOnce) : (event.step env world).store.StopsOnce := by
  cases event with
  | park => exact (parkOrder_stopsStand ..).once once
  | retire ans own now => exact (clearStoredOrder_stopsStand now).once once
  | hold ans order now => exact (tryCancelOne_stopsStand now).once once
  | recover =>
    obtain ⟨rfl, stops⟩ := listed
    exact (recoverOne_stopsStand stops).once once
  | finish => exact finish_stopsOnce once
  | widen ans attempts position now => exact (widenOne_keepsStops once attempts position).1
  | close => exact once
  | moveStop => exact once

/-- One operation forgets no stop that has not settled exactly if it can restore what it clears. -/
theorem RecordEvent.keepsStops_iff {event : RecordEvent} (listed : event.Listed world)
    (once : world.store.StopsOnce) : event.KeepsStops env world ↔ event.Restores world := by
  cases event with
  | park => exact iff_of_true (keepsStops_of_stand (parkOrder_stopsStand ..)) trivial
  | retire => exact iff_of_true (keepsStops_of_stand (clearStoredOrder_stopsStand _)) trivial
  | hold => exact iff_of_true (keepsStops_of_stand (tryCancelOne_stopsStand _)) trivial
  | recover =>
    obtain ⟨rfl, stops⟩ := listed
    exact iff_of_true (keepsStops_of_stand (recoverOne_stopsStand stops)) trivial
  | finish => exact finish_keepsStops_iff once
  | widen ans attempts position now =>
    exact iff_of_true (fun tradeId remembered member =>
      .inl ((widenOne_keepsStops once attempts position).2 tradeId remembered member)) trivial
  | close => exact iff_of_true (keepsStops_of_stand (.refl _)) trivial
  | moveStop => exact iff_of_true (keepsStops_of_stand (.refl _)) trivial

end

end TradeControl
