import TradeControl.LiveOrders
import TradeControl.Quiet

namespace TradeControl

open Foundation

/-- The same row, perhaps with the position it filled into. -/
def EntryAttempt.Identified (old new : EntryAttempt) : Prop :=
  ∃ brokerTradeId, new = { old with brokerTradeId }

/-- Every row is there, perhaps with the position it filled into. -/
def World.SameRows (before after : World) : Prop :=
  ∀ tradeId, Retouched EntryAttempt.Identified (before.store.attempts tradeId)
    (after.store.attempts tradeId)

theorem World.SameRows.trans {a b c : World} (first : a.SameRows b) (second : b.SameRows c) :
    a.SameRows c := by
  intro tradeId
  refine (first tradeId).trans ?_ (second tradeId)
  rintro old middle new ⟨_, rfl⟩ ⟨brokerTradeId, rfl⟩
  exact ⟨brokerTradeId, rfl⟩

/-- What lookups alone do to the world: position ids are noted on rows. -/
structure World.Noted (before after : World) : Prop where
  book : after.book = before.book
  attempts : before.SameRows after

theorem World.Noted.refl (world : World) : world.Noted world :=
  ⟨rfl, fun _ => .refl (fun _ => ⟨_, rfl⟩) _⟩

theorem World.Noted.trans {a b c : World} (first : a.Noted b) (second : b.Noted c) : a.Noted c where
  book := second.book.trans first.book
  attempts := first.attempts.trans second.attempts

theorem observe_noted (ans : Answers) (tradeId : String) (reply : LookupReply) (attempt : EntryAttempt)
    (world : World) : world.Noted (observe ans tradeId reply attempt world).1 := by
  refine ⟨observe_book ans tradeId reply attempt world, fun other => ?_⟩
  have same : Retouched EntryAttempt.Identified (world.store.attempts other)
      (world.store.attempts other) := .refl (fun _ => ⟨_, rfl⟩) _
  unfold observe
  dsimp only
  split
  · split
    · by_cases mine : other = tradeId
      · subst mine
        rw [Store.setEntryAttemptBrokerTradeId, Store.updateAttempts, Store.setAttempts_self]
        refine ⟨_, fun row => ?_, rfl⟩
        split
        · exact ⟨_, rfl⟩
        · exact ⟨_, rfl⟩
      · rw [Store.setEntryAttemptBrokerTradeId, Store.updateAttempts,
          Store.setAttempts_of_ne world.store mine]
        exact same
    · exact same
  · exact same

def orderResting : RetryGateOutcome := .rejected 412 "order already resting" "rejected: order-resting"

/-- How a walk over attempts goes, whatever its mode and whatever the broker would answer to a
cancel: it ends on lookups alone, or it comes to a resting attempt. -/
inductive WalkSplit (ans : Answers) (tradeId : String) (attempts : List EntryAttempt) (world : World) :
    Prop
  | lookedUp (noted : World) (ended : WalkEnd) (notes : world.Noted noted)
      (settled : ended = .passed [] ∨ ∃ outcome, ended = .stopped outcome ∧ ∀ no, outcome ≠ .proceed no)
      (walks : ∀ cancel mode,
        walkAttempts { ans with cancel } mode tradeId world attempts = (noted, ended))
  | rests (noted : World) (attempt : EntryAttempt) (notes : world.Noted noted)
      (member : attempt ∈ attempts)
      (resting : world.book.statusOf attempt.brokerOrderId = some .resting)
      (probes : ∀ cancel, walkAttempts { ans with cancel } .probe tradeId world attempts =
        (noted, .stopped orderResting))
      (supersedes : ∀ cancel, walkAttempts { ans with cancel } .full tradeId world attempts =
        supersedeResting { ans with cancel } tradeId attempt noted)

/-- An attempt that is looked up pending has its order resting. -/
theorem statusOf_of_pending {book : Book} {reply : LookupReply} {id : Nat}
    (pending : book.lookupAttemptState reply id = .ok .pending) : book.statusOf id = some .resting := by
  cases reply with
  | truth =>
    unfold Book.statusOf
    have told := Except.ok.inj pending
    cases found : book.order id with
    | none => simp [found] at told
    | some order =>
      rw [found] at told
      unfold Option.elim BrokerOrder.attemptState at told
      cases status : order.status with
      | resting => simp [status]
      | «open» => simp [status] at told
      | cancelled => simp [status] at told
      | closed =>
        simp only [status] at told
        split at told <;> [split at told; skip] <;> cases told
  | unknown => cases pending
  | transient => cases pending

theorem walkAttempts_split (ans : Answers) (tradeId : String) (attempts : List EntryAttempt) :
    ∀ world : World, WalkSplit ans tradeId attempts world := by
  induction attempts with
  | nil => exact fun world => .lookedUp world _ (.refl world) (.inl rfl) fun _ _ => rfl
  | cons attempt older ih =>
    intro world
    have notes := observe_noted ans tradeId (ans.lookup attempt.brokerOrderId) attempt world
    have answer := observe_answer ans tradeId (ans.lookup attempt.brokerOrderId) attempt world
    have blind : ∀ cancel, observe { ans with cancel } tradeId (ans.lookup attempt.brokerOrderId) attempt
        world = observe ans tradeId (ans.lookup attempt.brokerOrderId) attempt world := fun _ => rfl
    cases looked : observe ans tradeId (ans.lookup attempt.brokerOrderId) attempt world with
    | mk noted told =>
      rw [looked] at notes answer
      dsimp only at notes answer
      have onward (walks : ∀ cancel mode, walkAttempts { ans with cancel } mode tradeId world
          (attempt :: older) = walkAttempts { ans with cancel } mode tradeId noted older) :
          WalkSplit ans tradeId (attempt :: older) world := by
        cases ih noted with
        | lookedUp later ended notes' settled rest =>
          exact .lookedUp later ended (notes.trans notes') settled
            fun cancel mode => (walks cancel mode).trans (rest cancel mode)
        | rests later found notes' member resting probes supersedes =>
          exact .rests later found (notes.trans notes') (List.mem_cons_of_mem _ member)
            (by rw [← notes.book]; exact resting) (fun cancel => (walks cancel _).trans (probes cancel))
            fun cancel => (walks cancel _).trans (supersedes cancel)
      have stop (outcome : RetryGateOutcome) (refuses : ∀ no, outcome ≠ .proceed no)
          (walks : ∀ cancel mode, walkAttempts { ans with cancel } mode tradeId world
            (attempt :: older) = (noted, .stopped outcome)) :
          WalkSplit ans tradeId (attempt :: older) world :=
        .lookedUp noted _ notes (.inr ⟨outcome, rfl, refuses⟩) walks
      cases told with
      | error failure =>
        cases failure
        refine stop brokerTransient (by simp [brokerTransient]) fun cancel mode => ?_
        simp only [walkAttempts, blind, looked]
      | ok state =>
        cases state with
        | pending =>
          refine .rests noted attempt notes (List.mem_cons_self ..) (statusOf_of_pending answer.symm) ?_ ?_
          · exact fun cancel => by simp only [walkAttempts, blind, looked, orderResting]
          · exact fun cancel => by simp only [walkAttempts, blind, looked]
        | openPosition id =>
          refine stop _ ?_ fun cancel mode => by simp only [walkAttempts, blind, looked]; rfl
          simp
        | unknown =>
          refine stop priorAttemptUnknown (by simp [priorAttemptUnknown]) fun cancel mode => ?_
          simp only [walkAttempts, blind, looked]
        | closedWin pl => exact onward fun cancel mode => by simp only [walkAttempts, blind, looked]
        | closedLossOrBreakeven pl =>
          exact onward fun cancel mode => by simp only [walkAttempts, blind, looked]
        | closedConfirmed id => exact onward fun cancel mode => by simp only [walkAttempts, blind, looked]
        | cancelled => exact onward fun cancel mode => by simp only [walkAttempts, blind, looked]

/-- The placements that count against the cap. -/
def placements (rows : List EntryAttempt) : Nat := rows.countP fun row => !row.superseded

/-- Issued orders age: none comes to rest again. -/
structure Book.Ages (before after : Book) : Prop where
  nextId : before.nextId ≤ after.nextId
  resting : ∀ id, id < before.nextId → after.statusOf id = some .resting →
    before.statusOf id = some .resting

theorem Book.Ages.refl (book : Book) : book.Ages book := ⟨le_rfl, fun _ _ rests => rests⟩

theorem Book.Ages.trans {a b c : Book} (first : a.Ages b) (second : b.Ages c) : a.Ages c where
  nextId := first.nextId.trans second.nextId
  resting := fun id issued rests =>
    first.resting id issued (second.resting id (by have := first.nextId; omega) rests)

/-- A rewrite that brings no order to rest ages the book. -/
theorem Book.rewrite_ages (book : Book) {change : BrokerOrder → BrokerOrder}
    (keepsId : ∀ order, (change order).id = order.id)
    (settles : ∀ order, (change order).status = .resting → order.status = .resting) :
    book.Ages (book.rewrite change keepsId) := by
  refine ⟨le_rfl, fun id _ rests => ?_⟩
  unfold Book.statusOf at rests ⊢
  rw [Book.order_rewrite, Option.map_map] at rests
  obtain ⟨order, found, status⟩ := Option.map_eq_some_iff.mp rests
  rw [found, Option.map_some, settles order status]

theorem Book.settle_ages (book : Book) (rule : BrokerOrder → Bool) {status : OrderStatus}
    (ends : status ≠ .resting) : book.Ages (book.settle rule status) := by
  refine book.rewrite_ages _ fun order rests => ?_
  unfold BrokerOrder.settleIf at rests
  split at rests
  · exact absurd rests ends
  · exact rests

theorem Book.close_ages (book : Book) (id : Nat) (realizedPl : Option Rat) :
    book.Ages (book.close id realizedPl) := by
  refine book.rewrite_ages _ fun order rests => ?_
  split at rests
  · cases rests
  · exact rests

theorem Book.closePositions_ages (book : Book) (realizedPl : Nat → Option Rat) (instrument : String) :
    book.Ages (book.closePositions realizedPl instrument) := by
  refine book.rewrite_ages _ fun order rests => ?_
  split at rests
  · cases rests
  · exact rests

theorem Book.cancelOrder_ages (book : Book) (reply : CancelReply) (id : Nat) :
    book.Ages (book.cancelOrder reply id).1 := by
  unfold Book.cancelOrder
  split
  · exact book.settle_ages _ (by decide)
  · exact .refl book
  · exact book.settle_ages _ (by decide)
  · exact book.settle_ages _ (by decide)
  · exact .refl book

theorem Book.accept_ages (book : Book) (request : EntryRequest) (stake : Rat) (status : OrderStatus) :
    book.Ages (book.accept request stake status) := by
  refine ⟨Nat.le_succ _, fun id issued rests => ?_⟩
  unfold Book.statusOf Book.order Book.accept at rests
  rw [List.find?_append] at rests
  have other : [request.toOrder book.nextId stake status].find? (·.id == id) = none := by
    have differs : book.nextId ≠ id := by omega
    simp [differs]
  rw [other, Option.or_none] at rests
  exact rests

/-- The books of one trade under its cap: its rows are filed and numbered apart, a superseded
row's order is off the book, and the placements that count are within the cap. -/
structure World.Counted (world : World) (tradeId : String) (cap : Nat) : Prop where
  filed : ∀ other, ∀ row ∈ world.store.attempts other, row.tradeId = other
  numbered : ((world.store.attempts tradeId).map (·.attemptNo)).Nodup
  issued : ∀ row ∈ world.store.attempts tradeId, row.brokerOrderId < world.book.nextId
  withdrawn : ∀ row ∈ world.store.attempts tradeId, row.superseded = true →
    world.book.statusOf row.brokerOrderId ≠ some .resting
  capped : placements (world.store.attempts tradeId) ≤ cap

theorem World.Counted.ages {world : World} {tradeId : String} {cap : Nat} (counted : world.Counted tradeId cap)
    {book : Book} (ages : world.book.Ages book) : ({ world with book } : World).Counted tradeId cap where
  filed := counted.filed
  numbered := counted.numbered
  issued := fun row listed => (counted.issued row listed).trans_le ages.nextId
  withdrawn := fun row listed superseded rests =>
    counted.withdrawn row listed superseded (ages.resting _ (counted.issued row listed) rests)
  capped := counted.capped

/-- A rewrite of a row that keeps its identity, and supersedes it only off the book. -/
structure EntryAttempt.Recounted (book : Book) (old new : EntryAttempt) : Prop where
  tradeId : new.tradeId = old.tradeId
  attemptNo : new.attemptNo = old.attemptNo
  brokerOrderId : new.brokerOrderId = old.brokerOrderId
  stays : old.superseded = true → new.superseded = true
  off : new.superseded = true →
    old.superseded = true ∨ book.statusOf old.brokerOrderId ≠ some .resting

/-- Rows may be rewritten so, and may go. -/
theorem World.Counted.rewritten {before after : World} {tradeId : String} {cap : Nat}
    (counted : before.Counted tradeId cap) (book : after.book = before.book)
    (rewrites : ∀ other, ∃ change : EntryAttempt → EntryAttempt,
      (∀ row ∈ before.store.attempts other, row.tradeId = (change row).tradeId ∧
        (other = tradeId → row.Recounted before.book (change row))) ∧
      List.Sublist (after.store.attempts other) ((before.store.attempts other).map change)) :
    after.Counted tradeId cap := by
  obtain ⟨change, recounts, fewer⟩ := rewrites tradeId
  have rows : ∀ row ∈ after.store.attempts tradeId, ∃ old ∈ before.store.attempts tradeId,
      old.Recounted before.book row := by
    intro row listed
    obtain ⟨old, present, rfl⟩ := List.mem_map.mp (fewer.subset listed)
    exact ⟨old, present, (recounts old present).2 rfl⟩
  refine ⟨?_, ?_, ?_, ?_, ?_⟩
  · intro other row listed
    obtain ⟨change', keeps, fewer'⟩ := rewrites other
    obtain ⟨old, present, rfl⟩ := List.mem_map.mp (fewer'.subset listed)
    rw [← (keeps old present).1]
    exact counted.filed other old present
  · have numbers : ((before.store.attempts tradeId).map change).map (·.attemptNo) =
        (before.store.attempts tradeId).map (·.attemptNo) := by
      rw [List.map_map]
      exact List.map_congr_left fun row listed => ((recounts row listed).2 rfl).attemptNo
    exact (numbers ▸ counted.numbered).sublist (fewer.map _)
  · intro row listed
    obtain ⟨old, present, same⟩ := rows row listed
    rw [same.brokerOrderId, book]
    exact counted.issued old present
  · intro row listed superseded
    obtain ⟨old, present, same⟩ := rows row listed
    rw [same.brokerOrderId, book]
    exact (same.off superseded).elim (counted.withdrawn old present) id
  · have fewerCount : placements (after.store.attempts tradeId) ≤
        placements ((before.store.attempts tradeId).map change) := fewer.countP_le
    have dropped : placements ((before.store.attempts tradeId).map change) ≤
        placements (before.store.attempts tradeId) := by
      unfold placements
      rw [List.countP_map]
      refine List.countP_mono_left fun row listed counts => ?_
      have stays := ((recounts row listed).2 rfl).stays
      simp only [Function.comp_apply, Bool.not_eq_true'] at counts ⊢
      cases marked : row.superseded with
      | false => rfl
      | true => rw [stays marked] at counts; cases counts
    have within := counted.capped
    omega

theorem World.Counted.noted {before after : World} {tradeId : String} {cap : Nat}
    (counted : before.Counted tradeId cap) (notes : before.Noted after) : after.Counted tradeId cap := by
  refine counted.rewritten notes.book fun other => ?_
  obtain ⟨change, within, rows⟩ := notes.attempts other
  refine ⟨change, fun row _ => ?_, by rw [rows]⟩
  obtain ⟨_, same⟩ := within row
  rw [same]
  exact ⟨rfl, fun _ => ⟨rfl, rfl, rfl, id, .inl⟩⟩

/-- A row whose order is off the book is marked superseded. -/
theorem World.Counted.marked {world : World} {tradeId own : String} {cap attemptNo : Nat}
    (counted : world.Counted tradeId cap)
    (off : own = tradeId → ∀ row ∈ world.store.attempts tradeId, row.attemptNo = attemptNo →
      world.book.statusOf row.brokerOrderId ≠ some .resting) :
    ({ world with store := world.store.setEntryAttemptSuperseded own attemptNo } : World).Counted
      tradeId cap := by
  refine counted.rewritten rfl fun other => ?_
  by_cases mine : other = own
  · subst mine
    refine ⟨fun row => if row.attemptNo = attemptNo then { row with superseded := true } else row, ?_, ?_⟩
    · intro row listed
      by_cases number : row.attemptNo = attemptNo
      · dsimp only
        rw [if_pos number]
        exact ⟨rfl, fun same => ⟨rfl, rfl, rfl, fun _ => rfl,
          fun _ => .inr (off same row (same ▸ listed) number)⟩⟩
      · dsimp only
        rw [if_neg number]
        exact ⟨rfl, fun _ => ⟨rfl, rfl, rfl, id, .inl⟩⟩
    · rw [Store.setEntryAttemptSuperseded, Store.updateAttempts, Store.setAttempts_self]
  · refine ⟨id, fun row _ => ⟨rfl, fun _ => ⟨rfl, rfl, rfl, id, .inl⟩⟩, ?_⟩
    rw [Store.setEntryAttemptSuperseded, Store.updateAttempts, Store.setAttempts_of_ne world.store mine,
      List.map_id]

/-- A sweep's delete only takes a row away. -/
theorem World.Counted.deleted {world : World} {tradeId own : String} {cap attemptNo : Nat}
    (counted : world.Counted tradeId cap) :
    ({ world with store := world.store.deleteEntryAttempt own attemptNo } : World).Counted tradeId cap := by
  refine counted.rewritten rfl fun other => ⟨id, fun row _ => ⟨rfl, fun _ => ⟨rfl, rfl, rfl, id, .inl⟩⟩, ?_⟩
  rw [List.map_id]
  by_cases mine : other = own
  · subst mine
    rw [Store.deleteEntryAttempt, Store.setAttempts_self]
    exact List.filter_sublist
  · rw [Store.deleteEntryAttempt, Store.setAttempts_of_ne world.store mine]

/-- A sweep's note of an extreme leaves the count alone. -/
theorem World.Counted.swept {world : World} {tradeId own : String} {cap attemptNo : Nat} {extreme : Rat}
    (counted : world.Counted tradeId cap) :
    ({ world with
        store := world.store.setEntryAttemptAdverseExtreme own attemptNo extreme } : World).Counted
      tradeId cap := by
  refine counted.rewritten rfl fun other => ?_
  by_cases mine : other = own
  · subst mine
    refine ⟨fun row => if row.attemptNo = attemptNo then { row with adverseExtreme := some extreme }
      else row, fun row _ => ?_, ?_⟩
    · dsimp only
      split <;> exact ⟨rfl, fun _ => ⟨rfl, rfl, rfl, id, .inl⟩⟩
    · rw [Store.setEntryAttemptAdverseExtreme, Store.updateAttempts, Store.setAttempts_self]
  · refine ⟨id, fun row _ => ⟨rfl, fun _ => ⟨rfl, rfl, rfl, id, .inl⟩⟩, ?_⟩
    rw [Store.setEntryAttemptAdverseExtreme, Store.updateAttempts,
      Store.setAttempts_of_ne world.store mine, List.map_id]

end TradeControl
