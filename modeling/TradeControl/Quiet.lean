import TradeControl.Enter
import TradeControl.Foundation.RewriteFirst

namespace TradeControl

open Foundation

/-- An order left alone, or one that stopped resting because it filled or was pulled. -/
def BrokerOrder.Settles (old new : BrokerOrder) : Prop :=
  new = old ∨ old.status = .resting ∧
    ∃ status, (status = .open ∨ status = .cancelled) ∧ new = { old with status }

theorem BrokerOrder.Settles.refl (order : BrokerOrder) : order.Settles order := .inl rfl

theorem BrokerOrder.Settles.trans (a b c : BrokerOrder) (first : a.Settles b) (second : b.Settles c) :
    a.Settles c := by
  rcases first with rfl | ⟨resting, status, settled, rfl⟩
  · exact second
  · rcases second with rfl | ⟨restingAgain, -⟩
    · exact .inr ⟨resting, status, settled, rfl⟩
    · rcases settled with rfl | rfl <;> cases restingAgain

theorem BrokerOrder.Settles.id {old new : BrokerOrder} (settles : old.Settles new) : new.id = old.id := by
  rcases settles with rfl | ⟨-, _, -, rfl⟩ <;> rfl

theorem BrokerOrder.Settles.setup {old new : BrokerOrder} (settles : old.Settles new) :
    new.setup = old.setup := by
  rcases settles with rfl | ⟨-, _, -, rfl⟩ <;> rfl

/-- An order alive after settling was alive before. -/
theorem BrokerOrder.Settles.live_before {old new : BrokerOrder} (settles : old.Settles new)
    (alive : new.live) : old.live := by
  rcases settles with rfl | ⟨resting, -⟩
  · exact alive
  · simp [live, OrderStatus.live, resting]

theorem BrokerOrder.settleIf_settles {status : OrderStatus}
    (settled : status = .open ∨ status = .cancelled) (rule : BrokerOrder → Bool) (order : BrokerOrder) :
    order.Settles (order.settleIf rule status) := by
  unfold settleIf
  split
  · next chosen => exact .inr ⟨chosen.1, status, settled, rfl⟩
  · exact .inl rfl

/-- An attempt row that still names the same order of the same fire. -/
def EntryAttempt.SameOrder (old new : EntryAttempt) : Prop :=
  ∃ superseded brokerTradeId, new = { old with superseded, brokerTradeId }

theorem EntryAttempt.SameOrder.refl (row : EntryAttempt) : row.SameOrder row := ⟨_, _, rfl⟩

theorem EntryAttempt.SameOrder.trans (a b c : EntryAttempt) (first : a.SameOrder b)
    (second : b.SameOrder c) : a.SameOrder c := by
  obtain ⟨_, _, rfl⟩ := first
  obtain ⟨superseded, brokerTradeId, rfl⟩ := second
  exact ⟨superseded, brokerTradeId, rfl⟩

/-- What everything before a placement may do to the world: orders stop resting, and
attempt rows take notes. Nothing is placed and no held record changes. -/
structure World.Quiet (before after : World) : Prop where
  orders : Retouched BrokerOrder.Settles before.book.orders after.book.orders
  nextId : after.book.nextId = before.book.nextId
  submissions : after.book.submissions = before.book.submissions
  attempts : ∀ tradeId, Retouched EntryAttempt.SameOrder (before.store.attempts tradeId)
    (after.store.attempts tradeId)
  held : after.store.held = before.store.held
  seen : after.store.seen = before.store.seen
  retryFires : after.store.retryFires = before.store.retryFires
  orderBodies : after.store.orderBodies = before.store.orderBodies

theorem World.Quiet.refl (world : World) : world.Quiet world where
  orders := .refl BrokerOrder.Settles.refl _
  nextId := rfl
  submissions := rfl
  attempts := fun _ => .refl EntryAttempt.SameOrder.refl _
  held := rfl
  seen := rfl
  retryFires := rfl
  orderBodies := rfl

theorem World.Quiet.trans {a b c : World} (first : a.Quiet b) (second : b.Quiet c) : a.Quiet c where
  orders := first.orders.trans BrokerOrder.Settles.trans second.orders
  nextId := second.nextId.trans first.nextId
  submissions := second.submissions.trans first.submissions
  attempts := fun tradeId =>
    (first.attempts tradeId).trans EntryAttempt.SameOrder.trans (second.attempts tradeId)
  held := second.held.trans first.held
  seen := second.seen.trans first.seen
  retryFires := second.retryFires.trans first.retryFires
  orderBodies := second.orderBodies.trans first.orderBodies

/-- Settling orders is quiet. -/
theorem World.settle_quiet (world : World) (rule : BrokerOrder → Bool) {status : OrderStatus}
    (settled : status = .open ∨ status = .cancelled) :
    world.Quiet { world with book := world.book.settle rule status } :=
  { World.Quiet.refl world with
    orders := ⟨_, BrokerOrder.settleIf_settles settled rule, rfl⟩ }

/-- Taking notes on one trade's attempt rows is quiet. -/
theorem World.updateAttempts_quiet (world : World) (tradeId : String)
    {change : EntryAttempt → EntryAttempt} (notes : ∀ row, EntryAttempt.SameOrder row (change row)) :
    world.Quiet { world with store := world.store.updateAttempts tradeId change } where
  orders := .refl BrokerOrder.Settles.refl _
  nextId := rfl
  submissions := rfl
  attempts := by
    intro other
    by_cases same : other = tradeId
    · subst same
      exact ⟨change, notes, Store.setAttempts_self ..⟩
    · simp only [Store.updateAttempts, Store.setAttempts_of_ne world.store same]
      exact .refl EntryAttempt.SameOrder.refl _
  held := rfl
  seen := rfl
  retryFires := rfl
  orderBodies := rfl

theorem cancelOrder_quiet (world : World) (reply : CancelReply) (id : Nat) :
    world.Quiet { world with book := (world.book.cancelOrder reply id).1 } := by
  unfold Book.cancelOrder
  split
  · exact world.settle_quiet _ (.inr rfl)
  · exact .refl world
  · exact world.settle_quiet _ (.inr rfl)
  · exact world.settle_quiet _ (.inl rfl)
  · exact .refl world

theorem observe_quiet (ans : Answers) (tradeId : String) (reply : LookupReply) (attempt : EntryAttempt)
    (world : World) : world.Quiet (observe ans tradeId reply attempt world).1 := by
  unfold observe
  dsimp only
  split
  · split
    · refine world.updateAttempts_quiet tradeId fun row => ?_
      split
      · exact ⟨_, _, rfl⟩
      · exact .refl row
    · exact .refl world
  · exact .refl world

/-- What `observe` answers is the broker's answer. -/
theorem observe_answer (ans : Answers) (tradeId : String) (reply : LookupReply) (attempt : EntryAttempt)
    (world : World) :
    (observe ans tradeId reply attempt world).2 =
      world.book.lookupAttemptState reply attempt.brokerOrderId := by
  unfold observe
  dsimp only
  split
  · split <;> rfl
  · rfl

theorem observe_book (ans : Answers) (tradeId : String) (reply : LookupReply) (attempt : EntryAttempt)
    (world : World) : (observe ans tradeId reply attempt world).1.book = world.book := by
  unfold observe
  dsimp only
  split
  · split <;> rfl
  · rfl

theorem afterFailedCancel_quiet (ans : Answers) (tradeId : String) (attempt : EntryAttempt)
    (world : World) : world.Quiet (afterFailedCancel ans tradeId attempt world).1 := by
  have looked := observe_quiet ans tradeId (ans.relookup attempt.brokerOrderId) attempt world
  unfold afterFailedCancel
  split <;> simp_all

theorem supersedeResting_quiet (ans : Answers) (tradeId : String) (attempt : EntryAttempt)
    (world : World) : world.Quiet (supersedeResting ans tradeId attempt world).1 := by
  have cancelled := cancelOrder_quiet world (ans.cancel attempt.brokerOrderId) attempt.brokerOrderId
  unfold supersedeResting
  split
  · next book reply =>
    rw [reply] at cancelled
    split
    · refine cancelled.trans (World.updateAttempts_quiet { world with book } tradeId fun row => ?_)
      split
      · exact ⟨_, _, rfl⟩
      · exact .refl row
    · exact cancelled
  · next book error reply =>
    rw [reply] at cancelled
    exact cancelled.trans (afterFailedCancel_quiet ..)

theorem walkAttempts_quiet (ans : Answers) (mode : GateMode) (tradeId : String)
    (attempts : List EntryAttempt) : ∀ world : World,
      world.Quiet (walkAttempts ans mode tradeId world attempts).1 := by
  induction attempts with
  | nil => exact World.Quiet.refl
  | cons attempt older ih =>
    intro world
    have looked := observe_quiet ans tradeId (ans.lookup attempt.brokerOrderId) attempt world
    unfold walkAttempts
    split
    all_goals rename_i reply; rw [reply] at looked
    · cases mode with
      | probe => exact looked
      | full => exact looked.trans (supersedeResting_quiet ..)
    · exact looked
    · exact looked.trans (ih _)
    · exact looked.trans (ih _)
    · exact looked.trans (ih _)
    · exact looked.trans (ih _)
    · exact looked
    · exact looked

theorem evaluateAt_quiet (env : Env) (ans : Answers) (verified : Verified) (now : Int) (mode : GateMode)
    (world : World) : world.Quiet (evaluateAt env ans verified now mode world).1 := by
  unfold evaluateAt
  split
  · exact .refl world
  · split
    · exact .refl world
    · split
      · exact .refl world
      · next tradeId _ =>
        split
        · exact .refl world
        · split
          · exact .refl world
          · split
            · exact .refl world
            · dsimp only
              split
              · exact .refl world
              · have walked := walkAttempts_quiet ans mode tradeId
                  (world.store.listEntryAttempts tradeId).reverse world
                split <;> simp_all

end TradeControl
