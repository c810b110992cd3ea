import TradeControl.HeldLaws

namespace TradeControl

/-- What the broker shows when it is asked to pull an order: the cancel is confirmed, or it
failed and the order still rests, or the lookup after it does not answer. -/
def Answers.ShowsOrder (ans : Answers) (book : Book) (id : Nat) : Prop :=
  ans.lookup id = .transient ∨ book.statusOf id = some .resting ∧
    (ans.cancel id = .confirmed ∨ ans.cancel id = .failed ∧ ans.lookup id = .truth)

/-- The park of one trade is as it was, or superseded in the way described. -/
def Store.ParkKept (now : Int) (tradeId : String) (supersedes : StoredOrder → Prop)
    (before after : Store) : Prop :=
  ∀ parked, before.storedOrder now tradeId = some parked →
    ∃ order, after.storedOrder now tradeId = some order ∧ (order = parked ∨ supersedes order)

theorem Store.ParkKept.ofEq {now : Int} {tradeId : String} {supersedes : StoredOrder → Prop}
    {before after : Store} (same : after.storedOrder now tradeId = before.storedOrder now tradeId) :
    before.ParkKept now tradeId supersedes after :=
  fun parked found => ⟨parked, same.trans found, .inl rfl⟩

theorem Store.ParkKept.trans {now : Int} {tradeId : String} {supersedes : StoredOrder → Prop}
    {a b c : Store} (first : a.ParkKept now tradeId supersedes b)
    (second : b.ParkKept now tradeId supersedes c) : a.ParkKept now tradeId supersedes c := by
  intro parked found
  obtain ⟨order, kept, same⟩ := first parked found
  obtain ⟨order', kept', same'⟩ := second order kept
  refine ⟨order', kept', ?_⟩
  rcases same' with rfl | superseded
  · exact same
  · exact .inr superseded

theorem Store.ParkKept.weaken {now : Int} {tradeId : String} {supersedes supersedes' : StoredOrder → Prop}
    {before after : Store} (weaker : ∀ order, supersedes order → supersedes' order)
    (kept : before.ParkKept now tradeId supersedes after) :
    before.ParkKept now tradeId supersedes' after := by
  intro parked found
  obtain ⟨order, there, same⟩ := kept parked found
  exact ⟨order, there, same.imp_right (weaker order)⟩

theorem Store.ParkKept.upsert {now : Int} {own : String} {supersedes : StoredOrder → Prop} {store : Store}
    {record : HeldTradeRecord} (carried : ∀ parked, store.storedOrder now own = some parked →
      record.storedOrders.head? = some parked) (ttl : Int) (tradeId : String) :
    store.ParkKept now tradeId supersedes (store.upsertHeldTradeRecord now own record ttl) := by
  intro parked found
  by_cases same : tradeId = own
  · subst same
    exact ⟨parked, by rw [storedOrder_upsert, carried parked found], .inl rfl⟩
  · exact ⟨parked, by rw [storedOrder_upsert_of_ne store same, found], .inl rfl⟩

theorem Store.ParkKept.clear {now : Int} {own : String} {supersedes : StoredOrder → Prop} {store : Store}
    (none : store.storedOrder now own = none) (tradeId : String) :
    store.ParkKept now tradeId supersedes (store.clearHeldTradeRecord own) := by
  intro parked found
  by_cases same : tradeId = own
  · subst same
    rw [none] at found
    cases found
  · exact ⟨parked, by rw [storedOrder_clear_of_ne store same, found], .inl rfl⟩

theorem protect_kept {ans : Answers} {tradeId : String} {now : Int} {store : Store}
    {record held : HeldTradeRecord} {changed : Bool}
    (ok : protect ans tradeId now store record = some (held, changed)) :
    held.storedOrders = record.storedOrders ∧ held.cancelledOrders = record.cancelledOrders ∧
      held.originalStops = record.originalStops := by
  unfold protect at ok
  dsimp only at ok
  repeat' split at ok
  all_goals cases ok
  all_goals exact ⟨rfl, rfl, rfl⟩

/-- An order the broker still shows is not dropped from its record. -/
theorem classifyCancelFailure_shown {ans : Answers} {book after : Book} {id : Nat} {error : CancelError}
    (shown : ans.ShowsOrder book id) (failed : book.cancelOrder (ans.cancel id) id = (after, .error error)) :
    (classifyCancelFailure ans id after).dropsFromRecord = false := by
  rcases shown with silent | ⟨resting, confirmed | ⟨kept, truth⟩⟩
  · simp [classifyCancelFailure, Book.lookupAttemptState, silent, CancelOutcome.dropsFromRecord]
  · simp [Book.cancelOrder, resting, confirmed] at failed
  · obtain rfl : book = after := by
      simp only [Book.cancelOrder, resting, kept, Prod.mk.injEq] at failed
      exact failed.1
    obtain ⟨order, found, status⟩ := Option.map_eq_some_iff.mp resting
    simp [classifyCancelFailure, Book.lookupAttemptState, truth, found, BrokerOrder.attemptState, status,
      CancelOutcome.dropsFromRecord]

theorem mem_mergeCancelledOrder {env : Env} {record : HeldTradeRecord} {instrument : String}
    {pipSize : Rat} {cancelled other : CancelledOrder} {holding : Holders} {now : Int}
    (member : other ∈ record.cancelledOrders) :
    other ∈ (mergeCancelledOrder env (some record) instrument pipSize cancelled holding
      now).cancelledOrders := by
  unfold mergeCancelledOrder
  dsimp only [Option.getD_some]
  split
  · exact member
  · exact List.mem_append_left _ member

/-- Dropping a vanished order from a record clears it only when it has no other share. -/
theorem dropCancelledOrder_parkKept {ans : Answers} {own : String} {record : HeldTradeRecord}
    {orderId : Nat} {ttl now : Int} {store : Store} {supersedes : StoredOrder → Prop}
    (current : store.getHeldTradeRecord now own = some record)
    (shared : record.storedOrders = [] ∨ record.originalStops ≠ [] ∨
      (∃ other ∈ record.cancelledOrders, other.orderId ≠ orderId) ∨ ans.store .clearHeld = false)
    (tradeId : String) :
    store.ParkKept now tradeId supersedes (dropCancelledOrder ans own record orderId ttl now store) := by
  have cleaned : ∀ after : Store, store.ParkKept now tradeId supersedes after →
      store.ParkKept now tradeId supersedes (cleanupBody ans orderId after) :=
    fun after kept => kept.trans (.ofEq (storedOrder_congr (cleanupBody_held ..) ..))
  unfold dropCancelledOrder
  refine cleaned _ ?_
  split
  · next emptied =>
    simp only [Bool.and_eq_true, List.isEmpty_iff, List.filter_eq_nil_iff] at emptied
    split
    · next clears =>
      refine .clear ?_ tradeId
      rcases shared with unparked | widened | ⟨other, member, differs⟩ | fails
      · simp [Store.storedOrder, current, unparked]
      · exact absurd emptied.2 widened
      · exact absurd (by simpa using differs) (emptied.1 other member)
      · rw [fails] at clears
        cases clears
    · exact .ofEq rfl
  · split
    · refine .upsert (fun parked found => ?_) ttl tradeId
      obtain ⟨record', read, head⟩ := storedOrder_eq_some.mp found
      rw [current] at read
      cases read
      exact head
    · exact .ofEq rfl

/-- A deferred re-drive of one of these orders, parked at `now`. -/
def DeferredAgain (cancelled : List CancelledOrder) (now : Int) (order : StoredOrder) : Prop :=
  order.storedAt = now ∧ ∃ pulled ∈ cancelled, order.replaces = some pulled.orderId

theorem restoreOneOrder_parkKept (env : Env) (ans : Answers) (record : HeldTradeRecord)
    (cancelled : CancelledOrder) (now : Int) (world : World) (tradeId : String) :
    world.store.ParkKept now tradeId (DeferredAgain [cancelled] now)
      (restoreOneOrder env ans record cancelled now world).1.store := by
  have cleaned : ∀ after : Store, world.store.ParkKept now tradeId (DeferredAgain [cancelled] now) after →
      world.store.ParkKept now tradeId (DeferredAgain [cancelled] now)
        (cleanupBody ans cancelled.orderId after) :=
    fun after kept => kept.trans (.ofEq (storedOrder_congr (cleanupBody_held ..) ..))
  unfold restoreOneOrder
  dsimp only
  split
  · exact cleaned _ (.ofEq rfl)
  · exact .ofEq rfl
  · next verified _ =>
    split
    · exact .ofEq rfl
    · split
      · exact .ofEq rfl
      · split
        · refine cleaned _ fun parked found => ?_
          rcases runEnter_storedOrder env ans (cancelled.redrive verified now) world tradeId with
            same | ⟨-, order, ⟨_, _, _, _, _, rfl⟩, deferred⟩
          · exact ⟨parked, same.trans found, .inl rfl⟩
          · exact ⟨_, deferred, .inr ⟨rfl, cancelled, List.mem_singleton_self _, rfl⟩⟩
        · exact cleaned _ (.ofEq rfl)

theorem restoreCancelledOrders_parkKept (env : Env) (redrives : Nat → Answers) (record : HeldTradeRecord)
    (now : Int) (tradeId : String) (orders : List CancelledOrder) : ∀ world : World,
    world.store.ParkKept now tradeId (DeferredAgain orders now)
      (restoreCancelledOrders env redrives record now world orders).1.store := by
  induction orders with
  | nil => exact fun _ => .ofEq rfl
  | cons cancelled rest ih =>
    intro world
    have first := restoreOneOrder_parkKept env (redrives cancelled.orderId) record cancelled now world
      tradeId
    refine .trans (first.weaken ?_) ((ih _).weaken ?_)
    · rintro order ⟨stored, pulled, member, replaces⟩
      exact ⟨stored, pulled, by simp_all, replaces⟩
    · rintro order ⟨stored, pulled, member, replaces⟩
      exact ⟨stored, pulled, List.mem_cons_of_mem _ member, replaces⟩

/-- `clear` leaves other trades alone, and its own trade with the parks of the record it was
given, or as it was. -/
theorem clearHold_storedOrder (ans : Answers) (own : String) (record : HeldTradeRecord) (now : Int)
    (store : Store) (tradeId : String) :
    (clearHold ans own record now store).1.storedOrder now tradeId = store.storedOrder now tradeId ∨
      tradeId = own ∧
        (clearHold ans own record now store).1.storedOrder now tradeId = record.storedOrders.head? := by
  unfold clearHold
  by_cases same : tradeId = own
  · subst same
    split
    · dsimp only
      split
      · exact .inr ⟨rfl, storedOrder_upsert ..⟩
      · exact .inl rfl
    · next unparked =>
      simp only [Bool.not_eq_true, Bool.not_eq_false', List.isEmpty_iff] at unparked
      split
      · exact .inr ⟨rfl, by simp [Store.storedOrder, unparked]⟩
      · exact .inl rfl
  · refine .inl ?_
    split
    · dsimp only
      split
      · exact storedOrder_upsert_of_ne store same ..
      · rfl
    · split
      · exact storedOrder_clear_of_ne store same now
      · rfl

theorem restoreRecord_parkKept {env : Env} {ans : Answers} {redrives : Nat → Answers}
    {policy : ClearPolicy} {own : String} {record : HeldTradeRecord} {reason : RestoreReason} {now : Int}
    (world : World) (listed : ∀ parked, world.store.storedOrder now own = some parked →
      record.storedOrders.head? = some parked) (tradeId : String) :
    world.store.ParkKept now tradeId (DeferredAgain record.cancelledOrders now)
      (restoreRecord env ans redrives policy own record reason now world).1.store := by
  have restored := restoreCancelledOrders_parkKept env redrives record now tradeId record.cancelledOrders
    world
  unfold restoreRecord
  dsimp only
  unfold finishRecover
  cases policy with
  | leaveForCaller => exact restored
  | clearRecord =>
    rcases clearHold_storedOrder ans own record now
      (restoreCancelledOrders env redrives record now world record.cancelledOrders).1.store tradeId with
      same | ⟨rfl, snapshot⟩
    · exact restored.trans (.ofEq same)
    · exact fun parked found => ⟨parked, snapshot.trans (listed parked found), .inl rfl⟩

theorem recoverOne_parkKept {env : Env} {ans : Answers} {redrives : Nat → Answers} {policy : ClearPolicy}
    {own : String} {record : HeldTradeRecord} {now : Int} {world : World}
    (listed : ∀ parked, world.store.storedOrder now own = some parked →
      record.storedOrders.head? = some parked) (tradeId : String) :
    world.store.ParkKept now tradeId (DeferredAgain record.cancelledOrders now)
      (recoverOne env ans redrives policy own record now world).1.store := by
  have rewritten : ∀ (store : Store) (record' : HeldTradeRecord) (ttl : Int),
      record'.storedOrders = record.storedOrders →
      store = world.store ∨ store = world.store.upsertHeldTradeRecord now own record' ttl →
      (∀ supersedes, world.store.ParkKept now tradeId supersedes store) ∧
        ∀ parked, store.storedOrder now own = some parked → record.storedOrders.head? = some parked := by
    intro store record' ttl same written
    rcases written with rfl | rfl
    · exact ⟨fun _ => .ofEq rfl, listed⟩
    · refine ⟨fun _ => .upsert (fun parked found => ?_) ttl tradeId, fun parked found => ?_⟩
      · rw [same]
        exact listed parked found
      · rwa [storedOrder_upsert, same] at found
  have ended := recoverOne_cases env ans redrives policy own record now world
  generalize recoverOne env ans redrives policy own record now world = ending at ended ⊢
  cases ended with
  | unapplied => exact .ofEq rfl
  | unread => exact .ofEq rfl
  | aligned aligned written => exact (rewritten _ _ _ (protect_kept aligned).1 written).1 _
  | held _ _ _ narrowed written => exact (rewritten _ _ _ (by rw [narrowed]) written).1 _
  | released => exact restoreRecord_parkKept world listed tradeId
  | @forced _ _ store _ _ narrowed written =>
    obtain ⟨kept, carried⟩ := rewritten _ _ _ (by rw [narrowed]) written
    exact (kept _).trans (restoreRecord_parkKept { world with store } carried tradeId)

end TradeControl
