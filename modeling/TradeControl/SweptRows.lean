import TradeControl.LiveOrders
import TradeControl.Sweep
import TradeControl.World

namespace TradeControl

open Foundation

/-- The trade still lists a row under this row's number. -/
def Store.Lists (store : Store) (attempt : EntryAttempt) : Prop :=
  ∃ row ∈ store.attempts attempt.tradeId, row.attemptNo = attempt.attemptNo

/-- The broker itself said that the row's order is gone. -/
def SweepEnd.OrderGone (ending : SweepEnd) : Prop :=
  .cancel (.ok ()) ∈ ending.heard ∨ .lookup (.ok .cancelled) ∈ ending.heard

/-- A position is or was open under the row: its result is read through the row. -/
def EntryAttempt.IsFill (attempt : EntryAttempt) (book : Book) : Prop :=
  attempt.brokerTradeId ≠ none ∨ book.statusOf attempt.brokerOrderId = some .open ∨
    book.statusOf attempt.brokerOrderId = some .closed

/-- The row stays put unless the broker confirmed its order gone, unfilled. -/
def SweepEnd.KeepsRow (ending : SweepEnd) (attempt : EntryAttempt) : Prop :=
  ending.world.store.Lists attempt ∨ (ending.OrderGone ∧ ¬ attempt.IsFill ending.world.book)

/-- A price past the row's stop is what the sweep judges, with the order told to be resting. -/
def BreachSeen (ans : SweepAnswers) (attempt : EntryAttempt) (book : Book) : Prop :=
  book.lookupAttemptState (ans.lookup attempt.brokerOrderId) attempt.brokerOrderId = .ok .pending ∧
    ∃ quote ∈ ans.quote .sweep, ∃ stopLoss ∈ attempt.stopLossPrice, breachDetected attempt.direction
      (updateAdverseExtreme attempt.direction attempt.adverseExtreme quote.mid) stopLoss = true

/-- The sweep comes to a cancel and delete: the row has no fill on it, the broker is reached,
and a clock has run out or the stop was passed. -/
def Retires (env : Env) (ans : SweepAnswers) (now : Int) (attempt : EntryAttempt) (book : Book) : Prop :=
  attempt.brokerTradeId = none ∧ ans.acquire = true ∧
    (attempt.expiresAt < now ∨ barExpiryDue attempt.cancelAt now = true ∨
      (env.marketBlackoutDue attempt.instrument now = false ∧ BreachSeen ans attempt book))

theorem Store.Lists.ofEq {before after : Store} {attempt : EntryAttempt} (listed : before.Lists attempt)
    (same : after.attempts = before.attempts) : after.Lists attempt := by
  obtain ⟨row, member, number⟩ := listed
  exact ⟨row, by rwa [same], number⟩

theorem World.Quiet.lists {before after : World} {attempt : EntryAttempt} (quiet : before.Quiet after)
    (listed : before.store.Lists attempt) : after.store.Lists attempt := by
  obtain ⟨row, member, number⟩ := listed
  obtain ⟨row', member', _, _, rfl⟩ := (quiet.attempts attempt.tradeId).mem_before member
  exact ⟨_, member', number⟩

theorem Store.Lists.updateAttempts {store : Store} {attempt : EntryAttempt}
    {change : EntryAttempt → EntryAttempt} (listed : store.Lists attempt)
    (keeps : ∀ row, (change row).attemptNo = row.attemptNo) :
    (store.updateAttempts attempt.tradeId change).Lists attempt := by
  obtain ⟨row, member, number⟩ := listed
  refine ⟨change row, ?_, (keeps row).trans number⟩
  rw [Store.updateAttempts, Store.setAttempts_self]
  exact List.mem_map_of_mem member

theorem persistAdverseExtreme_lists (ans : SweepAnswers) {attempt : EntryAttempt} (extreme : Rat)
    {store : Store} (listed : store.Lists attempt) :
    (persistAdverseExtreme ans attempt extreme store).Lists attempt := by
  unfold persistAdverseExtreme
  split
  · exact listed
  · split
    · exact listed.updateAttempts fun row => by split <;> rfl
    · exact listed

theorem marketBlackoutAct_store (ans : SweepAnswers) (attempt : EntryAttempt) (world : World) :
    (marketBlackoutAct ans attempt world).1.store = world.store := by
  have bySymbol : (blackoutClosePosition ans attempt world).1.store = world.store := by
    unfold blackoutClosePosition
    split
    · rfl
    · rfl
    · split <;> rfl
  have byPosition : (blackoutCloseCtraderPosition ans attempt world).1.store = world.store := by
    unfold blackoutCloseCtraderPosition
    split
    · rfl
    · rfl
    · split
      · rfl
      · rfl
      · split <;> rfl
  unfold marketBlackoutAct
  split
  · rfl
  · split
    · rfl
    · rfl
    · split
      · rfl
      · split
        · exact byPosition
        · exact bySymbol

theorem deleteRow_lists_iff {ans : SweepAnswers} {attempt : EntryAttempt} {store : Store}
    (listed : store.Lists attempt) :
    (deleteRow ans attempt store).Lists attempt ↔ ans.store .deleteAttempt = false := by
  unfold deleteRow
  by_cases written : ans.store .deleteAttempt = true
  · rw [if_pos written, written]
    refine iff_of_false ?_ (by simp)
    rintro ⟨row, member, number⟩
    rw [Store.deleteEntryAttempt, Store.setAttempts_self] at member
    have other := (List.mem_filter.mp member).2
    simp [number] at other
  · rw [if_neg written]
    exact iff_of_true listed (by simpa using written)

/-- A cancel is confirmed exactly when the order rests and the broker takes it down. -/
theorem cancelOrder_ok_iff (book : Book) (reply : CancelReply) (id : Nat) :
    (book.cancelOrder reply id).2 = .ok () ↔ book.statusOf id = some .resting ∧ reply = .confirmed := by
  unfold Book.cancelOrder
  split <;> simp_all

theorem cancelOrder_confirmed {book : Book} {reply : CancelReply} {id : Nat}
    (confirmed : (book.cancelOrder reply id).2 = .ok ()) :
    (book.cancelOrder reply id).1.statusOf id = some .cancelled := by
  obtain ⟨resting, rfl⟩ := (cancelOrder_ok_iff book reply id).mp confirmed
  have cancelled : (book.cancelOrder .confirmed id).1 = book.settle (·.id == id) .cancelled := by
    simp [Book.cancelOrder, resting]
  rw [cancelled]
  unfold Book.statusOf at resting ⊢
  obtain ⟨order, found, status⟩ := Option.map_eq_some_iff.mp resting
  have named : order.id = id := by simpa using List.find?_some found
  rw [Book.settle, Book.order_rewrite, found]
  simp [BrokerOrder.settleIf, status, named]

/-- The delete spares a row only when it fails itself, and is owed only to a confirmed cancel. -/
theorem cancelThenDelete_keepsRow_iff {ans : SweepAnswers} {attempt : EntryAttempt} {world : World}
    {heard : List BrokerAnswer} (listed : world.store.Lists attempt)
    (unfilled : attempt.brokerTradeId = none)
    (silent : .cancel (.ok ()) ∉ heard ∧ .lookup (.ok .cancelled) ∉ heard) :
    (cancelThenDelete ans attempt world heard).KeepsRow attempt ↔
      ans.store .deleteAttempt = false ∨
        (world.book.cancelOrder (ans.cancel attempt.brokerOrderId) attempt.brokerOrderId).2 = .ok () := by
  have gone : (cancelThenDelete ans attempt world heard).OrderGone ↔
      (world.book.cancelOrder (ans.cancel attempt.brokerOrderId) attempt.brokerOrderId).2 = .ok () := by
    simp [SweepEnd.OrderGone, cancelThenDelete, silent, eq_comm]
  refine or_congr (deleteRow_lists_iff listed) ?_
  rw [gone]
  refine and_iff_left_of_imp fun confirmed => ?_
  have status := cancelOrder_confirmed confirmed
  simp [EntryAttempt.IsFill, cancelThenDelete, unfilled, status]

/-- How a turn of the sweep ends for a listed row: with the cancel and delete that is due, the
order's end not yet heard of, or with the row still listed. -/
inductive SweepTurn (ans : SweepAnswers) (attempt : EntryAttempt) (book : Book) (due : Prop) :
    SweepEnd → Prop
  | deletes {store : Store} {heard : List BrokerAnswer} (retires : due) (listed : store.Lists attempt)
      (silent : .cancel (.ok ()) ∉ heard ∧ .lookup (.ok .cancelled) ∉ heard) :
      SweepTurn ans attempt book due (cancelThenDelete ans attempt { store, book } heard)
  | keeps {ending : SweepEnd} (alone : ¬ due) (listed : ending.world.store.Lists attempt) :
      SweepTurn ans attempt book due ending

theorem maybeBreachCancel_turn {ans : SweepAnswers} {attempt : EntryAttempt} {stopLoss : Rat}
    {world : World} (listed : world.store.Lists attempt) (stop : attempt.stopLossPrice = some stopLoss) :
    SweepTurn ans attempt world.book (BreachSeen ans attempt world.book)
      (maybeBreachCancel ans attempt stopLoss world) := by
  have quiet := observe_quiet ans.toAnswers attempt.tradeId (ans.lookup attempt.brokerOrderId) attempt world
  have answer := observe_answer ans.toAnswers attempt.tradeId (ans.lookup attempt.brokerOrderId) attempt world
  have sameBook := observe_book ans.toAnswers attempt.tradeId (ans.lookup attempt.brokerOrderId) attempt world
  unfold maybeBreachCancel
  generalize observe ans.toAnswers attempt.tradeId (ans.lookup attempt.brokerOrderId) attempt world = looked
    at quiet answer sameBook ⊢
  obtain ⟨⟨store, book⟩, told⟩ := looked
  obtain rfl : book = world.book := sameBook
  have kept : store.Lists attempt := quiet.lists listed
  by_cases pending : told = .ok .pending
  · subst pending
    cases quoted : ans.quote .sweep with
    | none => exact .keeps (fun ⟨_, quote, given, _⟩ => by simp [quoted] at given) kept
    | some quote =>
      have persisted := persistAdverseExtreme_lists ans
        (updateAdverseExtreme attempt.direction attempt.adverseExtreme quote.mid) kept
      by_cases breached : breachDetected attempt.direction
          (updateAdverseExtreme attempt.direction attempt.adverseExtreme quote.mid) stopLoss = true
      · have seen : BreachSeen ans attempt world.book :=
          ⟨answer.symm, quote, quoted, stopLoss, stop, breached⟩
        simp only [if_pos breached]
        exact .deletes seen persisted (by simp)
      · refine .keeps ?_ ?_
        · rintro ⟨_, other, given, level, named, passed⟩
          rw [quoted] at given
          rw [stop] at named
          cases given
          cases named
          exact breached passed
        · simp only [if_neg breached]
          exact persisted
  · have unseen : ¬ BreachSeen ans attempt world.book :=
      fun ⟨said, _⟩ => pending (answer.trans said)
    split
    · next same => exact absurd (congrArg Prod.snd same) pending
    · next same =>
      cases same
      exact .keeps unseen kept

theorem cancelAndDelete_turn {ans : SweepAnswers} {attempt : EntryAttempt} {world : World}
    (listed : world.store.Lists attempt) :
    SweepTurn ans attempt world.book (ans.acquire = true) (cancelAndDelete ans attempt world) := by
  unfold cancelAndDelete
  by_cases reached : ans.acquire = true
  · rw [if_neg (by simpa using reached)]
    exact .deletes reached listed (by simp)
  · rw [if_pos (by simpa using reached)]
    exact .keeps reached listed

theorem SweepTurn.congr {ans : SweepAnswers} {attempt : EntryAttempt} {book : Book} {due due' : Prop}
    {ending : SweepEnd} (turn : SweepTurn ans attempt book due ending) (same : due' ↔ due) :
    SweepTurn ans attempt book due' ending := by
  rwa [propext same]

/-- A turn of the sweep either comes to the cancel and delete, or leaves the row listed. -/
theorem sweepOne_turn {env : Env} {ans : SweepAnswers} {now : Int} {attempt : EntryAttempt}
    {world : World} (listed : world.store.Lists attempt) :
    SweepTurn ans attempt world.book (Retires env ans now attempt world.book)
      (sweepOne env ans now attempt world) := by
  have acted : (marketBlackoutAct ans attempt world).1.store.Lists attempt := by
    rwa [marketBlackoutAct_store]
  unfold sweepOne
  by_cases filled : attempt.brokerTradeId.isSome = true
  · have alone : ¬ Retires env ans now attempt world.book := by
      rintro ⟨unfilled, -⟩
      simp [unfilled] at filled
    rw [if_pos filled]
    split
    · exact .keeps alone acted
    · exact .keeps alone listed
  have unfilled : attempt.brokerTradeId = none := by simpa using filled
  rw [if_neg filled]
  by_cases expired : attempt.expiresAt < now
  · rw [if_pos expired]
    exact (cancelAndDelete_turn listed).congr (by simp [Retires, unfilled, expired])
  rw [if_neg expired]
  by_cases barred : barExpiryDue attempt.cancelAt now = true
  · rw [if_pos barred]
    exact (cancelAndDelete_turn listed).congr (by simp [Retires, unfilled, barred])
  rw [if_neg barred]
  by_cases shut : env.marketBlackoutDue attempt.instrument now = true
  · rw [if_pos shut]
    exact .keeps (by simp [Retires, expired, barred, shut]) acted
  rw [if_neg shut]
  have judged : Retires env ans now attempt world.book ↔
      ans.acquire = true ∧ BreachSeen ans attempt world.book := by
    simp [Retires, unfilled, expired, barred, shut]
  refine SweepTurn.congr ?_ judged
  cases stop : attempt.stopLossPrice with
  | none => exact .keeps (fun ⟨_, _, _, _, level, named, _⟩ => by simp [stop] at named) listed
  | some stopLoss =>
    by_cases reached : ans.acquire = true
    · simp only [reached, Bool.not_true, Bool.false_eq_true, if_false, true_and]
      exact maybeBreachCancel_turn listed stop
    · simp only [if_pos (show (!ans.acquire) = true by simpa using reached)]
      exact .keeps (fun due => reached due.1) listed

/-- A turn of the sweep keeps the row unless its order is known to be gone exactly when it
comes to no delete, the delete itself fails, or the order rests and its cancel is confirmed. -/
theorem sweepOne_keepsRow_iff (env : Env) (ans : SweepAnswers) (now : Int) (attempt : EntryAttempt)
    (world : World) (listed : attempt ∈ world.store.listEntryAttempts attempt.tradeId) :
    (sweepOne env ans now attempt world).KeepsRow attempt ↔
      ¬ Retires env ans now attempt world.book ∨ ans.store .deleteAttempt = false ∨
        (world.book.statusOf attempt.brokerOrderId = some .resting ∧
          ans.cancel attempt.brokerOrderId = .confirmed) := by
  have lists : world.store.Lists attempt := ⟨attempt, listed, rfl⟩
  have turn : SweepTurn ans attempt world.book (Retires env ans now attempt world.book)
      (sweepOne env ans now attempt world) := sweepOne_turn lists
  rw [← cancelOrder_ok_iff]
  generalize sweepOne env ans now attempt world = ending at turn ⊢
  cases turn with
  | deletes retires lists silent =>
    rw [cancelThenDelete_keepsRow_iff lists retires.1 silent]
    simp [retires]
  | keeps alone lists => exact iff_of_true (.inl lists) (.inl alone)

/-- The attempt row of a stop entry placed at the epoch, good for twenty-one hours. -/
def restingRow : EntryAttempt :=
  PlacementRecord.attempt ⟨.long, 90, none, none⟩ (stopEntryAt 0) "trade-1" 0 1 0

/-- That order rests on the book, and its row is listed. -/
def restingWorld : World where
  store := ({} : Store).recordEntryAttempt restingRow
  book := Book.empty.accept
    { setupId := "trade-1", instrument := "INDEX", direction := .long, entry := .stop 100,
      stopLoss := 90, takeProfit := 130, dryRun := false } 1 .resting

theorem sweepOne_keepsRow_whenConfirmed :
    restingRow ∈ restingWorld.store.listEntryAttempts restingRow.tradeId ∧
      (sweepOne twoBars {} (seconds 80000) restingRow restingWorld).KeepsRow restingRow :=
  have listed : restingRow ∈ restingWorld.store.listEntryAttempts restingRow.tradeId := by
    decide +kernel
  ⟨listed, (sweepOne_keepsRow_iff twoBars {} (seconds 80000) restingRow restingWorld listed).mpr
    (.inr (.inr (by decide +kernel)))⟩

/-- The alert window is over and the cancel of the resting order fails: the order still rests,
and its row is deleted. -/
theorem sweepOne_forgets :
    restingRow ∈ restingWorld.store.listEntryAttempts restingRow.tradeId ∧
      (sweepOne twoBars { cancel := fun _ => .failed } (seconds 80000) restingRow
        restingWorld).world.book.statusOf restingRow.brokerOrderId = some .resting ∧
      ¬ (sweepOne twoBars { cancel := fun _ => .failed } (seconds 80000) restingRow
        restingWorld).KeepsRow restingRow := by
  refine ⟨by decide +kernel, by decide +kernel, ?_⟩
  rintro (⟨row, listed, -⟩ | ⟨gone, -⟩)
  · have emptied : (sweepOne twoBars { cancel := fun _ => .failed } (seconds 80000) restingRow
        restingWorld).world.store.attempts restingRow.tradeId = [] := by decide +kernel
    rw [emptied] at listed
    cases listed
  · have told : (sweepOne twoBars { cancel := fun _ => .failed } (seconds 80000) restingRow
        restingWorld).heard = [.cancel (.error .transient)] := by decide +kernel
    rw [SweepEnd.OrderGone, told] at gone
    revert gone
    decide

end TradeControl
