import TradeControl.EnterLaws
import TradeControl.LiveOrders
import TradeControl.Recover
import TradeControl.Reprice

namespace TradeControl

/-- How the placement of a call whose gates let it through can end. `hidden` bounds the
statuses an order behind an unreadable reply may have. -/
inductive StageEnd (ans : Answers) (call : EnterCall) (plan : PlacementPlan) (before after : World) :
    ActionResult → Prop
  | refused {result} : before.book.SameOrders after.book →
      World.MaybeParks ans call { before with book := after.book } after → result.isOk = false →
      StageEnd ans call plan before after result
  | dryRun {outcome} : before.book.SameOrders after.book → after.store = before.store →
      plan.resolved.dryRun = true → StageEnd ans call plan before after (.ok outcome)
  | accepted {status outcome} : before.book.TookOne plan.resolved status after.book →
      after.store = recordPlaced ans call plan before.book.nextId before.store →
      plan.resolved.dryRun = false → status = .resting ∨ status = .open →
      StageEnd ans call plan before after (.ok outcome)
  | unreadable {status outcome} : before.book.TookOne plan.resolved status after.book →
      after.store = before.store → ans.hidden status →
      StageEnd ans call plan before after (.ambiguousSuccess outcome)

/-- An accepted placement is written down; a dry run is not. -/
theorem placeStage_ok (env : Env) {ans : Answers} {call : EnterCall} {plan : PlacementPlan} {world : World}
    {book : Book} {placement : Placement} {orderId : Nat}
    (placed : placeWithRecovery ans plan.resolved call.intent.entryLevelVetos world.book =
      (book, placement)) (ok : placement.answer = .ok orderId) :
    ∃ outcome, placeStage env ans call plan world =
      (if plan.resolved.dryRun then { world with book }
        else { store := recordPlaced ans call plan orderId world.store, book }, .ok outcome) := by
  unfold placeStage
  rw [placed]
  dsimp only
  rw [ok]
  cases plan.resolved.dryRun <;> exact ⟨_, rfl⟩

/-- A placement that ends in an error leaves the books as the broker has them, and at most a
park. -/
theorem placeStage_error (env : Env) {ans : Answers} {call : EnterCall} {plan : PlacementPlan}
    {world : World} {book : Book} {placement : Placement} {error : EntryError}
    (known : call.intent.tradeId = some plan.tradeId)
    (instrument : plan.resolved.instrument = call.intent.instrument)
    (placed : placeWithRecovery ans plan.resolved call.intent.entryLevelVetos world.book =
      (book, placement)) (failed : placement.answer = .error error) :
    World.MaybeParks ans call { world with book } (placeStage env ans call plan world).1 ∧
      (placeStage env ans call plan world).2.isOk = false ∧
      ((∀ detail, error ≠ .ambiguousSuccess detail) ∨
        (placeStage env ans call plan world).1 = { world with book } ∧
          ∃ outcome, (placeStage env ans call plan world).2 = .ambiguousSuccess outcome) := by
  have kept : World.MaybeParks ans call { world with book } { world with book } := .inl rfl
  unfold placeStage
  rw [placed]
  dsimp only
  rw [failed]
  cases error with
  | unitsBelowMinimum =>
    have parks := parkStoredEntry_parks env ans call .belowMinSize known plan.resolved.slDistance
      plan.resolved.tpDistance plan.resolved.minR { world with book }
    rw [← instrument] at parks
    exact ⟨parks, rfl, .inl (by simp)⟩
  | ambiguousSuccess detail => exact ⟨kept, rfl, .inr ⟨rfl, _, rfl⟩⟩
  | _ => exact ⟨kept, rfl, .inl (by simp)⟩

theorem placeStage_cases (env : Env) (ans : Answers) (call : EnterCall) (plan : PlacementPlan)
    (known : call.intent.tradeId = some plan.tradeId)
    (instrument : plan.resolved.instrument = call.intent.instrument) (world : World) :
    StageEnd ans call plan world (placeStage env ans call plan world).1
      (placeStage env ans call plan world).2 := by
  have submitted := placeWithRecovery_submitted ans plan.resolved call.intent.entryLevelVetos world.book
  rcases placed : placeWithRecovery ans plan.resolved call.intent.entryLevelVetos world.book with
    ⟨book, answer, entry, skipReason⟩
  rw [placed] at submitted
  dsimp only at submitted
  cases submitted with
  | dryRun same dry =>
    obtain ⟨outcome, ended⟩ := placeStage_ok env placed rfl
    rw [ended, if_pos dry]
    exact .dryRun same rfl dry
  | accepted took wet status =>
    obtain ⟨outcome, ended⟩ := placeStage_ok env placed rfl
    rw [ended, wet, if_neg Bool.false_ne_true]
    exact .accepted took rfl wet status
  | unreadable took hidden =>
    obtain ⟨-, -, definite | ⟨after, outcome, result⟩⟩ :=
      placeStage_error env known instrument placed rfl
    · exact absurd rfl (definite _)
    · rw [after, result]
      exact .unreadable took rfl hidden
  | refused same =>
    obtain ⟨parks, notOk, -⟩ := placeStage_error env known instrument placed rfl
    have book' : (placeStage env ans call plan world).1.book = book := parks.book
    exact .refused (book' ▸ same) (by rwa [book']) notOk

open Foundation

@[simp] theorem parkOrder_attempts (ans : Answers) (tradeId instrument : String) (pipSize : Rat)
    (order : StoredOrder) (expiresAt now : Int) (store : Store) :
    (parkOrder ans tradeId instrument pipSize order expiresAt now store).1.attempts = store.attempts := by
  unfold parkOrder
  dsimp only
  repeat' split
  all_goals rfl

@[simp] theorem clearStoredOrder_attempts (ans : Answers) (tradeId : String) (now : Int) (store : Store) :
    (clearStoredOrder ans tradeId now store).1.attempts = store.attempts := by
  unfold clearStoredOrder
  dsimp only
  repeat' split
  all_goals rfl

@[simp] theorem cleanupBody_attempts (ans : Answers) (orderId : Nat) (store : Store) :
    (cleanupBody ans orderId store).attempts = store.attempts := by
  unfold cleanupBody
  split <;> rfl

@[simp] theorem dropCancelledOrder_attempts (ans : Answers) (tradeId : String) (record : HeldTradeRecord)
    (orderId : Nat) (ttl now : Int) (store : Store) :
    (dropCancelledOrder ans tradeId record orderId ttl now store).attempts = store.attempts := by
  unfold dropCancelledOrder
  rw [cleanupBody_attempts]
  repeat' split
  all_goals rfl

/-- A change of the store that leaves the attempt rows alone is calm. -/
theorem World.Calm.ofStore (world : World) {store : Store} (same : store.attempts = world.store.attempts) :
    world.Calm { world with store } where
  orders := .refl BrokerOrder.Fades.refl _
  nextId := rfl
  attempts := fun tradeId => by rw [same]; exact .refl EntryAttempt.SameOrder.refl _

theorem World.Calm.withStore {before after : World} (calm : before.Calm after) {store : Store}
    (same : store.attempts = after.store.attempts) : before.Calm { after with store } :=
  calm.trans (.ofStore after same)

theorem cancelOrder_calm (world : World) (reply : CancelReply) (id : Nat) :
    world.Calm { world with book := (world.book.cancelOrder reply id).1 } :=
  (cancelOrder_quiet world reply id).calm

theorem parkRepriced_calm (ans : Answers) (order : BrokerOrder) (tradeId signedIntent : String)
    (verified : Verified) (geometry : ParkGeometry) (expiresAt barSeconds now : Int)
    (outcome : RepriceOutcome) (world : World) :
    world.Calm (parkRepriced ans order tradeId signedIntent verified geometry expiresAt barSeconds now
      outcome world).1 := by
  have same : (parkBelowMinR ans order tradeId signedIntent verified geometry expiresAt barSeconds now
      world.store).1.attempts = world.store.attempts := parkOrder_attempts ..
  unfold parkRepriced
  split
  all_goals rename_i reply; rw [reply] at same; exact .ofStore world same

theorem World.MaybeParks.attempts {ans : Answers} {call : EnterCall} {before after : World}
    (parks : before.MaybeParks ans call after) : after.store.attempts = before.store.attempts := by
  rcases parks with rfl | ⟨_, _, _, _, _, _, -, rfl⟩
  · rfl
  · exact parkOrder_attempts ..

theorem World.MaybeParks.calm {ans : Answers} {call : EnterCall} {before after : World}
    (parks : before.MaybeParks ans call after) : before.Calm after := by
  rcases parks with rfl | ⟨tradeId, body, reason, slDistance, tpDistance, minR, -, rfl⟩
  · exact .refl after
  · exact .ofStore before (parkOrder_attempts ..)

theorem fill_calm (world : World) (id : Nat) : world.Calm { world with book := world.book.fill id } :=
  (world.settle_quiet _ (.inl rfl)).calm

theorem expire_calm (world : World) (id : Nat) : world.Calm { world with book := world.book.expire id } :=
  (world.settle_quiet _ (.inr rfl)).calm

theorem close_calm (world : World) (id : Nat) (realizedPl : Option Rat) :
    world.Calm { world with book := world.book.close id realizedPl } := by
  refine ⟨⟨_, fun order => ?_, rfl⟩, rfl, fun _ => .refl EntryAttempt.SameOrder.refl _⟩
  split
  · exact ⟨rfl, rfl, fun alive => by cases alive⟩
  · exact .refl order

/-- A hold settles at most its own order, and leaves every attempt row alone. -/
theorem tryCancelOne_quietBook (env : Env) (ans : Answers) (order : BrokerOrder) (now : Int)
    (world : World) :
    world.Quiet { world with book := (tryCancelOne env ans order now world).1.book } ∧
      (tryCancelOne env ans order now world).1.store.attempts = world.store.attempts := by
  have pulled := cancelOrder_quiet world (ans.cancel order.id) order.id
  have idle : world.Quiet world ∧ world.store.attempts = world.store.attempts := ⟨.refl world, rfl⟩
  unfold tryCancelOne
  split
  · exact idle
  · split
    · dsimp only
      split
      · exact idle
      · split
        · exact idle
        · split
          · exact idle
          · split
            · exact idle
            · split
              · exact idle
              · split
                · next reply =>
                  rw [reply] at pulled
                  exact ⟨pulled, rfl⟩
                · next reply =>
                  rw [reply] at pulled
                  refine ⟨pulled, ?_⟩
                  split
                  · rw [dropCancelledOrder_attempts]; rfl
                  · rfl
    · exact idle

/-- Holding an order places none. -/
theorem tryCancelOne_calm (env : Env) (ans : Answers) (order : BrokerOrder) (now : Int) (world : World) :
    world.Calm (tryCancelOne env ans order now world).1 := by
  obtain ⟨quiet, attempts⟩ := tryCancelOne_quietBook env ans order now world
  exact quiet.calm.withStore attempts

end TradeControl
