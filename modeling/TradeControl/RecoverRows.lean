import TradeControl.HoldRelease
import TradeControl.ParkFrame
import TradeControl.WidenedStops

namespace TradeControl

/-! The held row of one trade: the pulled orders it names, and how long it lasts. -/

/-- How often the record names this order as pulled. -/
def HeldTradeRecord.pulls (record : HeldTradeRecord) (id : Nat) : Nat :=
  record.cancelledOrders.countP (·.orderId == id)

/-- How often the readable record of the trade names this order. -/
def Store.pulls (store : Store) (now : Int) (tradeId : String) (id : Nat) : Nat :=
  (store.getHeldTradeRecord now tradeId).elim 0 (·.pulls id)

theorem mergeCancelledOrder_pulls_of_ne {env : Env} {instrument : String} {pipSize : Rat}
    {cancelled : CancelledOrder} {id : Nat} (differs : id ≠ cancelled.orderId)
    (existing : Option HeldTradeRecord) (holding : Holders) (now : Int) :
    (mergeCancelledOrder env existing instrument pipSize cancelled holding now).pulls id =
      existing.elim 0 (·.pulls id) := by
  have other : (cancelled.orderId == id) = false := by simpa using Ne.symm differs
  unfold mergeCancelledOrder HeldTradeRecord.pulls
  dsimp only
  cases existing with
  | none => simp [HeldTradeRecord.fresh, other]
  | some record =>
    dsimp only [Option.getD_some, Option.elim_some]
    split
    · rfl
    · simp [other]

/-- A record that names an order at most once names it once after the merge. -/
theorem mergeCancelledOrder_pulls_self {env : Env} {instrument signedIntent : String} {pipSize : Rat}
    {id : Nat} {existing : Option HeldTradeRecord} (once : existing.elim 0 (·.pulls id) ≤ 1)
    (holding : Holders) (now : Int) :
    (mergeCancelledOrder env existing instrument pipSize ⟨id, signedIntent⟩ holding now).pulls id = 1 := by
  unfold mergeCancelledOrder HeldTradeRecord.pulls at *
  dsimp only
  cases existing with
  | none => simp [HeldTradeRecord.fresh]
  | some record =>
    dsimp only [Option.getD_some, Option.elim_some] at once ⊢
    split
    · next named =>
      have some : 0 < record.cancelledOrders.countP (·.orderId == id) := by
        simpa [List.countP_pos_iff] using named
      omega
    · next unnamed =>
      have none : record.cancelledOrders.countP (·.orderId == id) = 0 := by
        simpa [List.countP_eq_zero] using unnamed
      rw [List.countP_append, none]
      simp

theorem protect_applied {ans : Answers} {tradeId : String} {now : Int} {store : Store}
    {record held : HeldTradeRecord} {changed : Bool}
    (ok : protect ans tradeId now store record = some (held, changed)) : held.applied = record.applied := by
  unfold protect at ok
  dsimp only at ok
  repeat' split at ok
  all_goals cases ok
  all_goals rfl

/-- Dropping an order leaves the row's expiry and every other name on it. -/
theorem dropCancelledOrder_row (ans : Answers) (own : String) {record : HeldTradeRecord} (orderId : Nat)
    {ttl now : Int} {store : Store}
    (current : store.held own = some ⟨record, controlExpiresAt now ttl⟩) :
    ∃ pruned : HeldTradeRecord, pruned.applied = record.applied ∧
      pruned.openedAt = record.openedAt ∧ pruned.expiresAt = record.expiresAt ∧
      (∀ id, id ≠ orderId → pruned.pulls id = record.pulls id) ∧
      ((dropCancelledOrder ans own record orderId ttl now store).held own =
          some ⟨pruned, controlExpiresAt now ttl⟩ ∨
        (dropCancelledOrder ans own record orderId ttl now store).held own = none ∧
          pruned.cancelledOrders = []) := by
  have others : ∀ id, id ≠ orderId →
      (record.cancelledOrders.filter (·.orderId ≠ orderId)).countP (·.orderId == id) =
        record.cancelledOrders.countP (·.orderId == id) := by
    intro id differs
    rw [List.countP_filter]
    refine List.countP_congr fun cancelled _ => ?_
    by_cases same : cancelled.orderId = id
    · simp [same, differs]
    · simp [same]
  unfold dropCancelledOrder
  simp only [cleanupBody_held]
  split
  · next emptied =>
    simp only [Bool.and_eq_true, List.isEmpty_iff] at emptied
    split
    · exact ⟨{ record with cancelledOrders := record.cancelledOrders.filter (·.orderId ≠ orderId) },
        rfl, rfl, rfl, others, .inr ⟨Function.update_self .., emptied.1⟩⟩
    · exact ⟨record, rfl, rfl, rfl, fun _ _ => rfl, .inl current⟩
  · split
    · exact ⟨{ record with cancelledOrders := record.cancelledOrders.filter (·.orderId ≠ orderId) },
        rfl, rfl, rfl, others, .inl (held_upsert ..)⟩
    · exact ⟨record, rfl, rfl, rfl, fun _ _ => rfl, .inl current⟩

theorem dropCancelledOrder_row_of_ne (ans : Answers) {own other : String} (differs : other ≠ own)
    (record : HeldTradeRecord) (orderId : Nat) (ttl now : Int) (store : Store) :
    (dropCancelledOrder ans own record orderId ttl now store).held other = store.held other := by
  unfold dropCancelledOrder
  simp only [cleanupBody_held]
  repeat' split
  all_goals first | rfl | exact Function.update_of_ne differs ..

/-- What a hold makes of the held row of a trade: nothing, or a record written at `now` that
names every other pulled order as often as the readable one did. -/
theorem tryCancelOne_row (env : Env) (ans : Answers) (order : BrokerOrder) (now : Int) (world : World)
    (tradeId : String) :
    (tryCancelOne env ans order now world).1.store.held tradeId = world.store.held tradeId ∨
    ∃ record : HeldTradeRecord, record.applied = true ∧
      (∀ id, id ≠ order.id → record.pulls id = world.store.pulls now tradeId id) ∧
      ((tryCancelOne env ans order now world).1.store.held tradeId =
          some ⟨record, controlExpiresAt now (holdTtl env order.instrument record now)⟩ ∨
        (tryCancelOne env ans order now world).1.store.held tradeId = none ∧
          record.cancelledOrders = []) := by
  unfold tryCancelOne
  split
  · exact .inl rfl
  · split
    · next signedIntent verified _ recovered =>
      dsimp only
      split
      · exact .inl rfl
      · split
        · exact .inl rfl
        · split
          · exact .inl rfl
          · split
            · exact .inl rfl
            · next record _ guarded =>
              obtain ⟨-, pulled, -⟩ := protect_kept guarded
              have applied := protect_applied guarded
              split
              · exact .inl rfl
              · generalize verified.intent.tradeId.getD (toString order.id) = own at *
                by_cases mine : tradeId = own
                · subst mine
                  have names : ∀ id, id ≠ order.id →
                      record.pulls id = world.store.pulls now tradeId id := by
                    intro id differs
                    unfold HeldTradeRecord.pulls
                    rw [pulled]
                    exact mergeCancelledOrder_pulls_of_ne differs _ _ _
                  have written : (world.store.upsertHeldTradeRecord now tradeId record
                      (holdTtl env order.instrument record now)).held tradeId =
                        some ⟨record, controlExpiresAt now (holdTtl env order.instrument record now)⟩ :=
                    held_upsert ..
                  split
                  · exact .inr ⟨record, applied, names, .inl written⟩
                  · dsimp only
                    split
                    · obtain ⟨pruned, applied', opened, expires, others, after⟩ :=
                        dropCancelledOrder_row ans tradeId order.id written
                      refine .inr ⟨pruned, applied'.trans applied,
                        fun id differs => (others id differs).trans (names id differs), ?_⟩
                      unfold holdTtl at after ⊢
                      rwa [opened, expires]
                    · exact .inr ⟨record, applied, names, .inl written⟩
                · have untouched : (world.store.upsertHeldTradeRecord now own record
                      (holdTtl env order.instrument record now)).held tradeId =
                        world.store.held tradeId := held_upsert_of_ne _ mine ..
                  split
                  · exact .inl untouched
                  · dsimp only
                    split
                    · exact .inl ((dropCancelledOrder_row_of_ne ans mine ..).trans untouched)
                    · exact .inl untouched
    · exact .inl rfl

/-- A hold whose cancel is confirmed leaves the order on its trade's record. -/
theorem tryCancelOne_cancelled {env : Env} {ans : Answers} {order : BrokerOrder} {now : Int}
    {world : World} {verified : Verified}
    (recovered : env.recoverBody (world.store.orderBodies order.id) now = .ok verified)
    (cancelled : (tryCancelOne env ans order now world).2 = .cancelled)
    (once : world.store.pulls now (verified.intent.tradeId.getD (toString order.id)) order.id ≤ 1) :
    ∃ record : HeldTradeRecord, record.applied = true ∧ record.pulls order.id = 1 ∧
      (tryCancelOne env ans order now world).1.store.held
          (verified.intent.tradeId.getD (toString order.id)) =
        some ⟨record, controlExpiresAt now (holdTtl env order.instrument record now)⟩ := by
  unfold tryCancelOne at cancelled ⊢
  split at cancelled
  · cases cancelled
  · split at cancelled
    · next signedIntent verified' _ recovered' =>
      rw [recovered] at recovered'
      cases recovered'
      dsimp only at cancelled ⊢
      split at cancelled
      · cases cancelled
      · split at cancelled
        · cases cancelled
        · split at cancelled
          · cases cancelled
          · split at cancelled
            · cases cancelled
            · next record _ guarded =>
              obtain ⟨-, pulled, -⟩ := protect_kept guarded
              split at cancelled
              · cases cancelled
              · split at cancelled
                · refine ⟨record, protect_applied guarded, ?_, ?_⟩
                  · unfold HeldTradeRecord.pulls
                    rw [pulled]
                    exact mergeCancelledOrder_pulls_self once _ _
                  · simp_all [Store.upsertHeldTradeRecord]
                · cases cancelled
    · cases cancelled

/-- The trade's row, if there is one, is readable and names the order at most so often. -/
def Store.RowWithin (now : Int) (tradeId : String) (id bound : Nat) (store : Store) : Prop :=
  ∀ row, store.held tradeId = some row → now < row.expiresAt ∧ row.value.pulls id ≤ bound

theorem Store.RowWithin.congr {now : Int} {tradeId : String} {id bound : Nat} {before after : Store}
    (within : before.RowWithin now tradeId id bound) (same : after.held = before.held) :
    after.RowWithin now tradeId id bound := by
  unfold RowWithin
  rwa [same]

theorem rowWithin_of_read {now : Int} {tradeId : String} {store : Store} {record : HeldTradeRecord}
    (read : store.getHeldTradeRecord now tradeId = some record) (id : Nat) :
    store.RowWithin now tradeId id (record.pulls id) := by
  obtain ⟨expiresAt, stored, live⟩ := Foundation.readAt_eq_some.mp read
  intro row found
  obtain rfl := Option.some.inj (stored.symm.trans found)
  exact ⟨live, le_rfl⟩

theorem rowWithin_upsert (store : Store) (now : Int) (tradeId : String) (record : HeldTradeRecord)
    (ttl : Int) (id : Nat) :
    (store.upsertHeldTradeRecord now tradeId record ttl).RowWithin now tradeId id (record.pulls id) :=
  rowWithin_of_read (getHeldTradeRecord_upsert ..) id

/-- A park names no pulled order, and its row is readable. -/
theorem parkOrder_rowWithin {ans : Answers} {own instrument : String} {pipSize : Rat}
    {order : StoredOrder} {expiresAt now : Int} {store : Store} {tradeId : String} {id bound : Nat}
    (within : store.RowWithin now tradeId id bound) :
    (parkOrder ans own instrument pipSize order expiresAt now store).1.RowWithin now tradeId id bound := by
  unfold parkOrder
  split
  · exact within
  · dsimp only
    split
    · by_cases mine : tradeId = own
      · subst mine
        intro row written
        rw [held_upsert] at written
        obtain rfl := Option.some.inj written
        refine ⟨now_lt_controlExpiresAt .., ?_⟩
        cases read : store.getHeldTradeRecord now tradeId with
        | none => exact Nat.zero_le _
        | some record =>
          obtain ⟨_, stored, _⟩ := Foundation.readAt_eq_some.mp read
          exact (within _ stored).2
      · intro row written
        rw [held_upsert_of_ne _ mine] at written
        exact within row written
    · exact within

theorem runEnter_rowWithin (env : Env) (ans : Answers) (call : EnterCall) {world : World}
    {tradeId : String} {id bound : Nat} (within : world.store.RowWithin call.now tradeId id bound) :
    (runEnter env ans call world).1.store.RowWithin call.now tradeId id bound := by
  have parked : ∀ {before after : World}, before.MaybeParks ans call after →
      before.store.RowWithin call.now tradeId id bound →
      after.store.RowWithin call.now tradeId id bound := by
    rintro before after (rfl | ⟨_, _, _, _, _, _, -, rfl⟩) within
    · exact within
    · exact parkOrder_rowWithin within
  rcases runEnter_cases env ans call world with ⟨middle, quiet, parks, -⟩ | ⟨plan, middle, passed, run⟩
  · exact parked parks (within.congr quiet.held)
  · have ended := placeStage_cases env ans call plan passed.tradeId passed.instrument middle
    have opened := within.congr passed.quiet.held
    rw [run]
    generalize placeStage env ans call plan middle = ending at ended ⊢
    obtain ⟨after, result⟩ := ending
    cases ended with
    | refused same parks => exact parked parks opened
    | dryRun same kept => exact opened.congr (by rw [kept])
    | accepted took kept => exact opened.congr (by dsimp only at kept ⊢; rw [kept, recordPlaced_held])
    | unreadable took kept => exact opened.congr (by rw [kept])

theorem restoreOneOrder_rowWithin {env : Env} {ans : Answers} {record : HeldTradeRecord}
    {cancelled : CancelledOrder} {now : Int} {world : World} {tradeId : String} {id bound : Nat}
    (within : world.store.RowWithin now tradeId id bound) :
    (restoreOneOrder env ans record cancelled now world).1.store.RowWithin now tradeId id bound := by
  have cleaned : ∀ store : Store, store.RowWithin now tradeId id bound →
      (cleanupBody ans cancelled.orderId store).RowWithin now tradeId id bound :=
    fun store within => within.congr (cleanupBody_held ..)
  unfold restoreOneOrder
  dsimp only
  split
  · exact cleaned _ within
  · exact within
  · next verified _ =>
    split
    · exact within
    · split
      · exact within
      · split
        · exact cleaned _ (runEnter_rowWithin env ans (cancelled.redrive verified now) within)
        · exact cleaned _ within

/-- Every pulled order of the list is handed to the restore, in turn. -/
theorem restoreCancelledOrders_turns (env : Env) (redrives : Nat → Answers) (record : HeldTradeRecord)
    (now : Int) (tradeId : String) (id bound : Nat) (orders : List CancelledOrder) : ∀ world : World,
    (restoreCancelledOrders env redrives record now world orders).2.countP (·.1 == id) =
        orders.countP (·.orderId == id) ∧
      (world.store.RowWithin now tradeId id bound →
        (restoreCancelledOrders env redrives record now world orders).1.store.RowWithin now tradeId id
          bound) := by
  induction orders with
  | nil => exact fun _ => ⟨rfl, fun within => within⟩
  | cons cancelled rest ih =>
    intro world
    obtain ⟨turns, carried⟩ :=
      ih (restoreOneOrder env (redrives cancelled.orderId) record cancelled now world).1
    unfold restoreCancelledOrders
    dsimp only
    refine ⟨?_, fun within => carried (restoreOneOrder_rowWithin within)⟩
    rw [List.countP_cons, List.countP_cons, turns]

/-- Once the store takes it, a clear leaves no pulled order on the row. -/
theorem clearHold_row {ans : Answers} (writes : ∀ call, ans.store call = true) (tradeId : String)
    (record : HeldTradeRecord) (now : Int) (store : Store) :
    (clearHold ans tradeId record now store).2 = true ∧
      ∀ row, (clearHold ans tradeId record now store).1.held tradeId = some row →
        row.value.cancelledOrders = [] := by
  unfold clearHold
  split
  · dsimp only
    rw [if_pos (writes _)]
    refine ⟨rfl, fun row written => ?_⟩
    rw [held_upsert] at written
    obtain rfl := Option.some.inj written
    rfl
  · rw [if_pos (writes _)]
    refine ⟨rfl, fun row written => ?_⟩
    unfold Store.clearHeldTradeRecord at written
    dsimp only at written
    rw [Function.update_self] at written
    cases written

/-- The watcher's finish takes a readable row off the table. -/
theorem finishSystem2AndClear_row {ans : Answers} (writes : ∀ call, ans.store call = true)
    {tradeId : String} {now : Int} {world : World} {id bound : Nat}
    (within : world.store.RowWithin now tradeId id bound) :
    (finishSystem2AndClear ans tradeId now world).1.store.held tradeId = none := by
  unfold finishSystem2AndClear
  simp only [writes, Bool.not_true, Bool.false_eq_true, if_false, if_true]
  split
  · next unread =>
    cases stored : world.store.held tradeId with
    | none => rfl
    | some row =>
      have live := (within row stored).1
      simp [Store.getHeldTradeRecord, stored, live] at unread
  · exact Function.update_self ..

/-- Where the clear is left to the caller, the caller's finish follows a reported restore. -/
def callerFinish (ans : Answers) (policy : ClearPolicy) (tradeId : String) (now : Int)
    (turn : World × RecoverReport) : World :=
  match policy with
  | .clearRecord => turn.1
  | .leaveForCaller =>
    if turn.2.restored.isSome then (finishSystem2AndClear ans tradeId now turn.1).1 else turn.1

/-- `recover_pass`'s turn with one trade, over the record it can read. -/
def recoverTurn (env : Env) (ans : Answers) (redrives : Nat → Answers) (policy : ClearPolicy)
    (tradeId : String) (now : Int) (world : World) : World × RecoverReport :=
  match world.store.getHeldTradeRecord now tradeId with
  | none => (world, {})
  | some record =>
    let turn := recoverOne env ans redrives policy tradeId record now world
    (callerFinish ans policy tradeId now turn, turn.2)

theorem callerFinish_unrestored (ans : Answers) (policy : ClearPolicy) (tradeId : String) (now : Int)
    (world : World) : callerFinish ans policy tradeId now (world, {}) = world := by
  cases policy <;> rfl

/-- Something keeps the order off the book: a reason of its record is in force, or an
alignment pause of the trade is. -/
def HeldTradeRecord.StillHeld (env : Env) (quote : Option Quote) (tradeId : String)
    (record : HeldTradeRecord) (now : Int) (store : Store) : Prop :=
  (∃ reason ∈ effectiveHolders record, reason.Holds env quote tradeId record now store) ∨
    ∃ pause ∈ store.listPausesForTrade now tradeId, pause.blackoutId = alignmentPauseId

theorem holds_of_not_released {env : Env} {ans : Answers} (reads : ∀ call, ans.store call = true)
    {tradeId : String} {record : HeldTradeRecord} {now : Int} {store : Store} {reason : HoldReason}
    (unreleased : ¬ reasonReleased env ans tradeId record now store reason = true) :
    reason.Holds env (ans.quote .release) tradeId record now store := by
  cases reason with
  | spreadHour => simpa [reasonReleased, HoldReason.Holds] using unreleased
  | newsPause => simpa [reasonReleased, HoldReason.Holds, pauseActive, reads] using unreleased
  | marketHours => simpa [reasonReleased, HoldReason.Holds] using unreleased
  | maAlignment => simpa [reasonReleased, HoldReason.Holds, pauseActive, reads] using unreleased

theorem effectiveHolders_ne_empty {record : HeldTradeRecord} (applied : record.applied = true) :
    effectiveHolders record ≠ ∅ := by
  unfold effectiveHolders
  split
  · decide
  · next kept => exact fun empty => kept ⟨applied, empty⟩

/-- A record the alignment pause protects is held by it. -/
theorem stillHeld_of_protected {env : Env} {ans : Answers} {quote : Option Quote} {tradeId : String}
    {record held : HeldTradeRecord} {now : Int} {store : Store}
    (aligned : protect ans tradeId now store record = some (held, true)) :
    record.StillHeld env quote tradeId now store := by
  unfold protect at aligned
  dsimp only at aligned
  split at aligned
  · cases aligned
  · split at aligned
    · cases aligned
    · split at aligned
      · cases aligned
      · next expiresAt latest =>
        split at aligned
        · next episode =>
          rcases episode with member | paused
          · have effective : HoldReason.maAlignment ∈ effectiveHolders record := by
              unfold effectiveHolders
              split
              · next empty => simp [empty.2] at member
              · exact member
            refine .inl ⟨.maAlignment, effective, ?_⟩
            intro nothing
            simp [nothing] at latest
          · exact .inr paused
        · cases aligned

/-- A record with a pulled order that is not protected has no alignment pause. -/
theorem no_alignment_of_unprotected {ans : Answers} {tradeId : String} {record held : HeldTradeRecord}
    {now : Int} {store : Store} (pulled : record.cancelledOrders ≠ [])
    (unprotected : protect ans tradeId now store record = some (held, false)) :
    ¬ ∃ pause ∈ store.listPausesForTrade now tradeId, pause.blackoutId = alignmentPauseId := by
  rintro ⟨pause, listed, alignment⟩
  unfold protect at unprotected
  dsimp only at unprotected
  split at unprotected
  · next empty => exact pulled (by simpa using empty)
  · split at unprotected
    · cases unprotected
    · split at unprotected
      · next none =>
        rw [List.max?_eq_none_iff, List.map_eq_nil_iff] at none
        rw [none] at listed
        cases listed
      · split at unprotected
        · cases unprotected
        · next episode => exact episode (.inr ⟨pause, listed, alignment⟩)

end TradeControl
