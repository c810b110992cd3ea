import TradeControl.CalmPasses
import TradeControl.Recover

namespace TradeControl

open Foundation

/-! What the operations leave of a trade's park. -/

@[simp] theorem held_upsert (store : Store) (now : Int) (tradeId : String) (record : HeldTradeRecord)
    (ttl : Int) : (store.upsertHeldTradeRecord now tradeId record ttl).held tradeId =
      some ⟨record, controlExpiresAt now ttl⟩ := Function.update_self ..

theorem held_upsert_of_ne (store : Store) {tradeId other : String} (differs : other ≠ tradeId) (now : Int)
    (record : HeldTradeRecord) (ttl : Int) :
    (store.upsertHeldTradeRecord now tradeId record ttl).held other = store.held other :=
  Function.update_of_ne differs ..

@[simp] theorem getHeldTradeRecord_upsert (store : Store) (now : Int) (tradeId : String)
    (record : HeldTradeRecord) (ttl : Int) :
    (store.upsertHeldTradeRecord now tradeId record ttl).getHeldTradeRecord now tradeId = some record := by
  unfold Store.getHeldTradeRecord Store.upsertHeldTradeRecord
  simp [now_lt_controlExpiresAt]

theorem getHeldTradeRecord_upsert_of_ne (store : Store) {tradeId other : String} (differs : other ≠ tradeId)
    (now : Int) (record : HeldTradeRecord) (ttl readAt : Int) :
    (store.upsertHeldTradeRecord now tradeId record ttl).getHeldTradeRecord readAt other =
      store.getHeldTradeRecord readAt other := by
  unfold Store.getHeldTradeRecord Store.upsertHeldTradeRecord
  simp [Function.update_of_ne differs]

@[simp] theorem getHeldTradeRecord_clear (store : Store) (tradeId : String) (readAt : Int) :
    (store.clearHeldTradeRecord tradeId).getHeldTradeRecord readAt tradeId = none := by
  unfold Store.getHeldTradeRecord Store.clearHeldTradeRecord
  simp

theorem getHeldTradeRecord_clear_of_ne (store : Store) {tradeId other : String} (differs : other ≠ tradeId)
    (readAt : Int) :
    (store.clearHeldTradeRecord tradeId).getHeldTradeRecord readAt other =
      store.getHeldTradeRecord readAt other := by
  unfold Store.getHeldTradeRecord Store.clearHeldTradeRecord
  simp [Function.update_of_ne differs]

@[simp] theorem storedOrder_upsert (store : Store) (now : Int) (tradeId : String)
    (record : HeldTradeRecord) (ttl : Int) :
    (store.upsertHeldTradeRecord now tradeId record ttl).storedOrder now tradeId =
      record.storedOrders.head? := by
  simp [Store.storedOrder]

theorem storedOrder_upsert_of_ne (store : Store) {tradeId other : String} (differs : other ≠ tradeId)
    (now : Int) (record : HeldTradeRecord) (ttl readAt : Int) :
    (store.upsertHeldTradeRecord now tradeId record ttl).storedOrder readAt other =
      store.storedOrder readAt other := by
  simp [Store.storedOrder, getHeldTradeRecord_upsert_of_ne store differs]

theorem storedOrder_clear_of_ne (store : Store) {tradeId other : String} (differs : other ≠ tradeId)
    (readAt : Int) :
    (store.clearHeldTradeRecord tradeId).storedOrder readAt other = store.storedOrder readAt other := by
  simp [Store.storedOrder, getHeldTradeRecord_clear_of_ne store differs]

theorem storedOrder_congr {before after : Store} (same : after.held = before.held) (now : Int)
    (tradeId : String) : after.storedOrder now tradeId = before.storedOrder now tradeId := by
  simp [Store.storedOrder, Store.getHeldTradeRecord, same]

theorem storedOrder_eq_some {store : Store} {now : Int} {tradeId : String} {parked : StoredOrder} :
    store.storedOrder now tradeId = some parked ↔ ∃ record,
      store.getHeldTradeRecord now tradeId = some record ∧ record.storedOrders.head? = some parked :=
  Option.bind_eq_some_iff

/-- `park_order` puts its order on the trade's record, or nothing changes. -/
theorem parkOrder_storedOrder (ans : Answers) (tradeId instrument : String) (pipSize : Rat)
    (order : StoredOrder) (expiresAt now : Int) (store : Store) (other : String) :
    (parkOrder ans tradeId instrument pipSize order expiresAt now store).1.storedOrder now other =
        store.storedOrder now other ∨
      other = tradeId ∧
        (parkOrder ans tradeId instrument pipSize order expiresAt now store).1.storedOrder now other =
          some order := by
  unfold parkOrder
  split
  · exact .inl rfl
  · dsimp only
    split
    · by_cases same : other = tradeId
      · subst same
        refine .inr ⟨rfl, ?_⟩
        rw [storedOrder_upsert]
        rfl
      · exact .inl (storedOrder_upsert_of_ne store same ..)
    · exact .inl rfl

/-- `clear_stored_order` touches the park of its own trade only. -/
theorem clearStoredOrder_storedOrder_of_ne (ans : Answers) {tradeId other : String}
    (differs : other ≠ tradeId) (now : Int) (store : Store) :
    (clearStoredOrder ans tradeId now store).1.storedOrder now other = store.storedOrder now other := by
  unfold clearStoredOrder
  split
  · rfl
  · split
    · rfl
    · dsimp only
      split
      · split
        · exact storedOrder_upsert_of_ne store differs ..
        · rfl
      · split
        · exact storedOrder_clear_of_ne store differs now
        · rfl

@[simp] theorem keepOrderBody_held (ans : Answers) (orderId : Nat) (body : Option String) (store : Store) :
    (keepOrderBody ans orderId body store).held = store.held := by
  unfold keepOrderBody
  repeat' split
  all_goals rfl

@[simp] theorem cleanupBody_held (ans : Answers) (orderId : Nat) (store : Store) :
    (cleanupBody ans orderId store).held = store.held := by
  unfold cleanupBody
  split <;> rfl

@[simp] theorem recordPlacement_held (ans : Answers) (verified : Verified) (now : Int)
    (attemptNo orderId : Nat) (placement : PlacementRecord) (store : Store) :
    (recordPlacement ans verified now attemptNo orderId placement store).held = store.held := by
  unfold recordPlacement
  dsimp only
  repeat' split
  all_goals rfl

/-- The bookkeeping of a placement leaves every held record alone. -/
@[simp] theorem recordPlaced_held (ans : Answers) (call : EnterCall) (plan : PlacementPlan)
    (orderId : Nat) (store : Store) : (recordPlaced ans call plan orderId store).held = store.held := by
  have repointed : ∀ (store : Store) old, (if ans.store .setReplacement then
      store.setEntryAttemptReplacement plan.tradeId old orderId (some plan.resolved.stopLoss)
      else store).held = store.held := by
    intro store old
    split <;> rfl
  unfold recordPlaced
  dsimp only
  rw [keepOrderBody_held]
  cases plan.attemptNo <;> cases call.origin.replacedOrderId <;> simp [repointed]

/-- The order is this call's own park. -/
def EnterCall.Parked (call : EnterCall) (order : StoredOrder) : Prop :=
  ∃ body reason slDistance tpDistance minR,
    order = call.storedOrder body reason slDistance tpDistance minR

theorem World.MaybeParks.storedOrder {ans : Answers} {call : EnterCall} {before after : World}
    (parks : before.MaybeParks ans call after) (tradeId : String) :
    after.store.storedOrder call.now tradeId = before.store.storedOrder call.now tradeId ∨
      call.intent.tradeId = some tradeId ∧
        ∃ order, call.Parked order ∧ after.store.storedOrder call.now tradeId = some order := by
  rcases parks with rfl | ⟨own, body, reason, slDistance, tpDistance, minR, known, rfl⟩
  · exact .inl rfl
  · rcases parkOrder_storedOrder ans own call.intent.instrument (call.intent.pipSize.getD 0)
      (call.storedOrder body reason slDistance tpDistance minR) call.intent.notAfter call.now
      before.store tradeId with kept | ⟨rfl, parked⟩
    · exact .inl kept
    · exact .inr ⟨known, _, ⟨body, reason, slDistance, tpDistance, minR, rfl⟩, parked⟩

/-- The entry path leaves a trade's park alone unless it parks this very call there. -/
theorem runEnter_storedOrder (env : Env) (ans : Answers) (call : EnterCall) (world : World)
    (tradeId : String) :
    (runEnter env ans call world).1.store.storedOrder call.now tradeId =
        world.store.storedOrder call.now tradeId ∨
      call.intent.tradeId = some tradeId ∧ ∃ order, call.Parked order ∧
        (runEnter env ans call world).1.store.storedOrder call.now tradeId = some order := by
  rcases runEnter_cases env ans call world with ⟨middle, quiet, parks, -⟩ | ⟨plan, middle, passed, run⟩
  · rw [← storedOrder_congr quiet.held]
    exact parks.storedOrder tradeId
  · have ended := placeStage_cases env ans call plan passed.tradeId passed.instrument middle
    rw [← storedOrder_congr passed.quiet.held, run]
    generalize placeStage env ans call plan middle = ending at ended ⊢
    obtain ⟨after, result⟩ := ending
    cases ended with
    | refused same parks => exact parks.storedOrder tradeId
    | dryRun same kept => exact .inl (by rw [kept])
    | accepted took kept =>
      dsimp only at kept ⊢
      rw [kept]
      exact .inl (storedOrder_congr (recordPlaced_held ..) ..)
    | unreadable took kept => exact .inl (by rw [kept])

/-- How a tick's turn with one record can end. `narrowed` is the record with the reasons that
still hold. -/
inductive RecoverEnd (env : Env) (ans : Answers) (redrives : Nat → Answers) (policy : ClearPolicy)
    (tradeId : String) (record : HeldTradeRecord) (now : Int) (world : World) :
    World × RecoverReport → Prop
  | unapplied : record.applied = false →
      RecoverEnd env ans redrives policy tradeId record now world (world, {})
  | unread : protect ans tradeId now world.store record = none →
      RecoverEnd env ans redrives policy tradeId record now world (world, {})
  | aligned {held store} : protect ans tradeId now world.store record = some (held, true) →
      store = world.store ∨ store = world.store.upsertHeldTradeRecord now tradeId held
        (max (numSeconds (held.expiresAt - now)) 1) →
      RecoverEnd env ans redrives policy tradeId record now world ({ world with store }, {})
  | held {kept narrowed store} : protect ans tradeId now world.store record = some (kept, false) →
      (releaseSatisfied env ans tradeId record now world.store).2 = false →
      backstopDue record.openedAt now = false →
      narrowed = { record with holders := (releaseSatisfied env ans tradeId record now world.store).1 } →
      store = world.store ∨ store = world.store.upsertHeldTradeRecord now tradeId narrowed
        (env.spreads.blockTtlSeconds record.instrument record.openedAt) →
      RecoverEnd env ans redrives policy tradeId record now world ({ world with store }, {})
  | released {kept} : protect ans tradeId now world.store record = some (kept, false) →
      (releaseSatisfied env ans tradeId record now world.store).2 = true →
      RecoverEnd env ans redrives policy tradeId record now world
        (restoreRecord env ans redrives policy tradeId record .recovered now world)
  | forced {kept narrowed store} : protect ans tradeId now world.store record = some (kept, false) →
      backstopDue record.openedAt now = true →
      narrowed = { record with holders := (releaseSatisfied env ans tradeId record now world.store).1 } →
      store = world.store ∨ store = world.store.upsertHeldTradeRecord now tradeId narrowed
        (env.spreads.blockTtlSeconds record.instrument record.openedAt) →
      RecoverEnd env ans redrives policy tradeId record now world
        (restoreRecord env ans redrives policy tradeId record .backstop now { world with store })

theorem recoverOne_cases (env : Env) (ans : Answers) (redrives : Nat → Answers) (policy : ClearPolicy)
    (tradeId : String) (record : HeldTradeRecord) (now : Int) (world : World) :
    RecoverEnd env ans redrives policy tradeId record now world
      (recoverOne env ans redrives policy tradeId record now world) := by
  unfold recoverOne
  split
  · next unapplied => exact .unapplied (by simpa using unapplied)
  · split
    · next unread => exact .unread unread
    · next held aligned =>
      split
      · exact .aligned aligned (.inr rfl)
      · exact RecoverEnd.aligned aligned (.inl rfl)
    · next kept unprotected =>
      dsimp only
      split
      · next emptied => exact .released unprotected emptied
      · next stays =>
        split
        · next due => exact .forced unprotected due rfl (ite_eq_or_eq ..).symm
        · next early =>
          exact .held unprotected (by simpa using stays) (by simpa using early) rfl
            (ite_eq_or_eq ..).symm

end TradeControl
