import TradeControl.Foundation.GuardedReach
import TradeControl.OrderSystem
import TradeControl.ParkFrame
import TradeControl.WidenedStops

namespace TradeControl

/-- One operation on the records that the stop widener, the order hold and order control
share, or a move of the broker's under them. An operation carries what it met. -/
inductive RecordEvent
  | park (ans : Answers) (tradeId instrument : String) (pipSize : Rat) (order : StoredOrder)
      (expiresAt now : Int)
  | retire (ans : Answers) (tradeId : String) (now : Int)
  | hold (ans : Answers) (order : BrokerOrder) (now : Int)
  | recover (ans : Answers) (redrives : Nat → Answers) (policy : ClearPolicy) (tradeId : String)
      (record : HeldTradeRecord) (now : Int)
  | finish (ans : Answers) (tradeId : String) (now : Int)
  | widen (ans : Answers) (attempts : List EntryAttempt) (position : BrokerOrder) (now : Int)
  | close (id : Nat) (realizedPl : Option Rat) (now : Int)
  | moveStop (id : Nat) (level : Rat) (now : Int)

def RecordEvent.now : RecordEvent → Int
  | .park _ _ _ _ _ _ now | .retire _ _ now | .hold _ _ now | .recover _ _ _ _ _ now
  | .finish _ _ now | .widen _ _ _ now | .close _ _ now | .moveStop _ _ now => now

def RecordEvent.step (env : Env) (world : World) : RecordEvent → World
  | .park ans tradeId instrument pipSize order expiresAt now =>
    { world with
      store := (parkOrder ans tradeId instrument pipSize order expiresAt now world.store).1 }
  | .retire ans tradeId now =>
    { world with store := (clearStoredOrder ans tradeId now world.store).1 }
  | .hold ans order now => (tryCancelOne env ans order now world).1
  | .recover ans redrives policy tradeId record now =>
    (recoverOne env ans redrives policy tradeId record now world).1
  | .finish ans tradeId now => (finishSystem2AndClear ans tradeId now world).1
  | .widen ans attempts position now => widenOne env ans attempts position now world
  | .close id realizedPl _ => { world with book := world.book.close id realizedPl }
  | .moveStop id level _ => { world with book := world.book.moveStop id level }

/-- The live watcher's turn with one record is a recovery and, once that is reported
restored, the finish. -/
theorem watchOne_eq (env : Env) (ans : Answers) (redrives : Nat → Answers) (tradeId : String)
    (record : HeldTradeRecord) (now : Int) (world : World) :
    watchOne env ans redrives tradeId record now world =
      (if (recoverOne env ans redrives .leaveForCaller tradeId record now world).2.restored.isSome then
          [.recover ans redrives .leaveForCaller tradeId record now, .finish ans tradeId now]
        else [.recover ans redrives .leaveForCaller tradeId record now]).foldl
        (RecordEvent.step env) world := by
  unfold watchOne
  dsimp only
  split <;> rfl

open Foundation

/-- Order control itself takes the trade's park off the record: a promotion, or a drop. -/
def RecordEvent.Retires (tradeId : String) : RecordEvent → Prop
  | .retire _ own _ => own = tradeId
  | _ => False

/-- The operation parks this order for the trade in place of an earlier park: the order it
was asked to park, or a pulled order whose re-drive was deferred again. -/
def RecordEvent.Supersedes (tradeId : String) (order : StoredOrder) : RecordEvent → Prop
  | .park _ own _ _ new _ _ => own = tradeId ∧ order = new
  | .recover _ _ _ _ record now =>
    order.storedAt = now ∧
      ∃ cancelled ∈ record.cancelledOrders, order.replaces = some cancelled.orderId
  | _ => False

/-- A park on a readable record, before its deadline, is still on record after an operation
that neither retires nor supersedes it. -/
def RecordEvent.KeepsParks (env : Env) (world : World) (event : RecordEvent) : Prop :=
  ∀ tradeId parked, ¬ event.Retires tradeId →
    world.store.storedOrder event.now tradeId = some parked → event.now < parked.dropAt →
    ∃ order, (event.step env world).store.storedOrder event.now tradeId = some order ∧
      (order = parked ∨ event.Supersedes tradeId order)

/-- An operation that would rewrite or clear a record from what it knows of its own share
finds no park there, or knows of it. -/
def RecordEvent.MindsParks (env : Env) (world : World) : RecordEvent → Prop
  | .hold ans order now => ∀ verified record,
    env.recoverBody (world.store.orderBodies order.id) now = .ok verified →
    world.store.getHeldTradeRecord now (verified.intent.tradeId.getD (toString order.id)) = some record →
    record.storedOrders = [] ∨ record.originalStops ≠ [] ∨
      (∃ other ∈ record.cancelledOrders, other.orderId ≠ order.id) ∨
      ans.ShowsOrder world.book order.id ∨ ans.store .clearHeld = false
  | .recover _ _ _ tradeId record now => ∀ parked,
    world.store.storedOrder now tradeId = some parked → record.storedOrders.head? = some parked
  | .finish ans tradeId now =>
    world.store.storedOrder now tradeId = none ∨ ans.store .rereadHeld = false ∨
      ans.store .clearHeld = false
  | .widen ans attempts position now => ∀ attempt record,
    joinPositionToAttempt position attempts = some attempt →
    world.store.getHeldTradeRecord now attempt.tradeId = some record →
    record.storedOrders = [] ∨ record.applied = true ∨ position.stopLoss = none ∨
      ans.store .upsertHeld = false
  | .park .. | .retire .. | .close .. | .moveStop .. => True

theorem tryCancelOne_parkKept {env : Env} {ans : Answers} {order : BrokerOrder} {now : Int}
    {world : World} (minds : (RecordEvent.hold ans order now).MindsParks env world)
    {supersedes : StoredOrder → Prop} (tradeId : String) :
    world.store.ParkKept now tradeId supersedes (tryCancelOne env ans order now world).1.store := by
  have unchanged : world.store.ParkKept now tradeId supersedes world.store := .ofEq rfl
  unfold tryCancelOne
  split
  · exact unchanged
  · split
    · next signedIntent verified _ recovered =>
      dsimp only
      split
      · exact unchanged
      · split
        · exact unchanged
        · next pipSize _ =>
          split
          · exact unchanged
          · split
            · exact unchanged
            · next record _ guarded =>
              obtain ⟨parks, pulled, stops⟩ := protect_kept guarded
              split
              · exact unchanged
              · generalize owns : verified.intent.tradeId.getD (toString order.id) = own at *
                have written : world.store.ParkKept now tradeId supersedes
                    (world.store.upsertHeldTradeRecord now own record
                      (holdTtl env order.instrument record now)) := by
                  refine .upsert (fun parked found => ?_) _ tradeId
                  obtain ⟨existing, read, head⟩ := storedOrder_eq_some.mp found
                  rw [parks, read]
                  exact head
                split
                · exact written
                · next failed =>
                  dsimp only
                  split
                  · next drops =>
                    refine written.trans (dropCancelledOrder_parkKept (getHeldTradeRecord_upsert ..) ?_
                      tradeId)
                    cases read : world.store.getHeldTradeRecord now own with
                    | none => exact .inl (by rw [parks, read]; rfl)
                    | some existing =>
                      rw [read] at parks pulled stops
                      have minded := minds verified existing recovered (by rw [owns]; exact read)
                      rw [parks, pulled, stops]
                      rcases minded with unparked | widened | ⟨other, member, differs⟩ | shown | fails
                      · exact .inl unparked
                      · exact .inr (.inl widened)
                      · exact .inr (.inr (.inl ⟨other, mem_mergeCancelledOrder member, differs⟩))
                      · rw [classifyCancelFailure_shown shown failed] at drops
                        cases drops
                      · exact .inr (.inr (.inr fails))
                  · exact written
    · exact unchanged

theorem widenOne_parkKept {env : Env} {ans : Answers} {attempts : List EntryAttempt}
    {position : BrokerOrder} {now : Int} {world : World}
    (minds : (RecordEvent.widen ans attempts position now).MindsParks env world)
    {supersedes : StoredOrder → Prop} (tradeId : String) :
    world.store.ParkKept now tradeId supersedes (widenOne env ans attempts position now world).store := by
  unfold widenOne
  split
  · exact .ofEq rfl
  · dsimp only
    split
    · exact .ofEq rfl
    · split
      · exact .ofEq rfl
      · next attempt joined =>
        split
        · exact .ofEq rfl
        · next unapplied =>
          split
          · split
            · refine .upsert (fun parked found => ?_) _ tradeId
              obtain ⟨record, read, head⟩ := storedOrder_eq_some.mp found
              rcases minds attempt record joined read with unparked | applied | stopless | fails
              · simp [unparked] at head
              · simp [read, applied] at unapplied
              · simp_all
              · simp_all
            · exact .ofEq rfl
          · exact .ofEq rfl

theorem RecordEvent.step_keepsParks {env : Env} {world : World} {event : RecordEvent}
    (minds : event.MindsParks env world) : event.KeepsParks env world := by
  intro tradeId parked stays found _
  have keeps : world.store.ParkKept event.now tradeId (event.Supersedes tradeId)
      (event.step env world).store := by
    cases event with
    | park ans own instrument pipSize order expiresAt now =>
      intro parked found
      rcases parkOrder_storedOrder ans own instrument pipSize order expiresAt now world.store tradeId with
        same | ⟨rfl, placed⟩
      · exact ⟨parked, same.trans found, .inl rfl⟩
      · exact ⟨order, placed, .inr ⟨rfl, rfl⟩⟩
    | retire ans own now =>
      exact .ofEq (clearStoredOrder_storedOrder_of_ne ans (Ne.symm stays) now world.store)
    | hold ans order now => exact tryCancelOne_parkKept minds tradeId
    | recover ans redrives policy own record now => exact recoverOne_parkKept minds tradeId
    | finish ans own now =>
      intro parked found
      simp only [step, RecordEvent.now, finishSystem2AndClear]
      split
      · exact ⟨parked, found, .inl rfl⟩
      · next rereads =>
        split
        · exact ⟨parked, found, .inl rfl⟩
        · split
          · next clears =>
            refine Store.ParkKept.clear ?_ tradeId parked found
            rcases minds with unparked | unread | kept
            · exact unparked
            · simp [unread] at rereads
            · simp [kept] at clears
          · exact ⟨parked, found, .inl rfl⟩
    | widen ans attempts position now => exact widenOne_parkKept minds tradeId
    | close id realizedPl now => exact .ofEq rfl
    | moveStop id level now => exact .ofEq rfl
  exact keeps parked found

/-- `twoBars` with its market shut for the second hour. -/
def shutSecondHour : Env :=
  { twoBars with marketHoursBlocked := fun _ now => seconds 3600 ≤ now ∧ now < seconds 7200 }

/-- The record of an order held for the closed market, with the later setup parked on it. -/
def heldWithPark : HeldTradeRecord where
  instrument := "INDEX"
  applied := true
  holders := {.marketHours}
  openedAt := seconds 3600
  expiresAt := seconds 72000
  pipSize := 1
  originalStops := []
  cancelledOrders := [⟨0, "first"⟩]
  storedOrders := [secondParked]

/-- Order 0 is held, a later setup is parked on its record, and the market opens again. -/
def heldThenParked : List RecordEvent :=
  [.hold {} (stopEntryOrder 0) (seconds 3600),
   .park {} "trade-1" "INDEX" 1 secondParked (seconds 72000) (seconds 3700)]

end TradeControl
