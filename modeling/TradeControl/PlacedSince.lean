import TradeControl.HeldLaws
import TradeControl.PlacementSound

namespace TradeControl

/-- The orders alive now that the broker accepted after `before`. -/
def World.placedSince (before after : World) : List BrokerOrder :=
  after.book.orders.filter fun order => decide (before.book.nextId ≤ order.id) && order.live

theorem World.placedSince_eq_nil {before after : World} (noneNew : after.book.nextId = before.book.nextId) :
    before.placedSince after = [] := by
  refine List.filter_eq_nil_iff.mpr fun order member => ?_
  have issued := after.book.issued order member
  simp only [Bool.and_eq_true, decide_eq_true_eq, not_and]
  intro recent
  omega

/-- One order taken since: alive or not, it is all there is to see. -/
theorem World.placedSince_tookOne {before middle : World} (after : World) {resolved : Resolved}
    {status : OrderStatus} (noneNew : middle.book.nextId = before.book.nextId)
    (took : middle.book.TookOne resolved status after.book) :
    ∃ new, new.id = before.book.nextId ∧ new.setup = resolved.setupId ∧ new.live = status.live ∧
      before.placedSince after = if status.live then [new] else [] := by
  obtain ⟨entry, stake, -, appended⟩ := took
  have older : before.placedSince middle = [] := placedSince_eq_nil noneNew
  refine ⟨(resolved.request entry).toOrder middle.book.nextId stake status, noneNew, rfl, rfl, ?_⟩
  unfold placedSince at older ⊢
  rw [appended, List.filter_append, older, List.nil_append, List.filter_singleton]
  have recent : before.book.nextId ≤ middle.book.nextId := noneNew.ge
  simp [recent, BrokerOrder.live, EntryRequest.toOrder]

/-- The park on the trade's record was pulled from this order. -/
def World.ParkedFor (world : World) (tradeId : String) (orderId : Nat) (now : Int) : Prop :=
  ∃ parked, world.store.storedOrder now tradeId = some parked ∧ parked.replaces = some orderId

theorem World.ParkedFor.congr {before after : World} {tradeId : String} {orderId : Nat} {now : Int}
    (same : after.store.held = before.store.held) :
    after.ParkedFor tradeId orderId now ↔ before.ParkedFor tradeId orderId now := by
  unfold ParkedFor
  rw [storedOrder_congr same]

theorem not_live_of_settled {world : World} {id : Nat} {order : BrokerOrder}
    (gone : world.Gone id) (found : world.book.order id = some order) : order.live = false := by
  obtain ⟨member, named⟩ := Book.order_eq_some.mp found
  simpa using gone order member named

theorem World.Gone.tookOne {before : World} (after : World) {resolved : Resolved} {status : OrderStatus} {id : Nat}
    (gone : before.Gone id) (issued : id < before.book.nextId)
    (took : before.book.TookOne resolved status after.book) : after.Gone id := by
  obtain ⟨entry, stake, -, appended⟩ := took
  intro order member same
  rw [appended, List.mem_append, List.mem_singleton] at member
  rcases member with old | rfl
  · exact gone order old same
  · rw [EntryRequest.toOrder_id] at same
    omega

/-- The entry path does not bring an order back to life. -/
theorem runEnter_gone (env : Env) (ans : Answers) (call : EnterCall) {world : World} {id : Nat}
    (issued : id < world.book.nextId) (gone : world.Gone id) : (runEnter env ans call world).1.Gone id := by
  rcases runEnter_cases env ans call world with ⟨middle, quiet, parks, -⟩ | ⟨plan, middle, passed, run⟩
  · exact gone.calm (quiet.calm.trans parks.calm)
  · have ended := placeStage_cases env ans call plan passed.tradeId passed.instrument middle
    have goneNow := gone.calm passed.quiet.calm
    have issuedNow : id < middle.book.nextId := by rw [passed.quiet.nextId]; exact issued
    rw [run]
    generalize placeStage env ans call plan middle = ending at ended ⊢
    obtain ⟨after, result⟩ := ending
    cases ended with
    | refused same parks =>
      exact goneNow.calm ((World.Calm.ofSameOrders { middle with book := after.book } same
        rfl).trans parks.calm)
    | dryRun same kept => exact goneNow.calm (.ofSameOrders after same (by rw [kept]))
    | accepted took => exact goneNow.tookOne after issuedNow took
    | unreadable took => exact goneNow.tookOne after issuedNow took

open Foundation

/-- Every attempt row that was there is there, with the bar it was placed for. -/
def Store.KeepsRows (before after : Store) : Prop :=
  ∀ tradeId, ∀ row ∈ before.attempts tradeId,
    ∃ row' ∈ after.attempts tradeId, row'.shellTime = row.shellTime

theorem Store.KeepsRows.ofEq {before after : Store} (same : after.attempts = before.attempts) :
    before.KeepsRows after :=
  fun _ row listed => ⟨row, by rwa [same], rfl⟩

theorem Store.KeepsRows.trans {a b c : Store} (first : a.KeepsRows b) (second : b.KeepsRows c) :
    a.KeepsRows c := by
  intro tradeId row listed
  obtain ⟨row', listed', same'⟩ := first tradeId row listed
  obtain ⟨row'', listed'', same''⟩ := second tradeId row' listed'
  exact ⟨row'', listed'', same''.trans same'⟩

theorem World.Quiet.keepsRows {before after : World} (quiet : before.Quiet after) :
    before.store.KeepsRows after.store := by
  intro tradeId row listed
  obtain ⟨row', listed', _, _, rfl⟩ := (quiet.attempts tradeId).mem_before listed
  exact ⟨_, listed', rfl⟩

theorem setEntryAttemptReplacement_keepsRows (store : Store) (tradeId : String)
    (oldOrderId newOrderId : Nat) (stopLoss : Option Rat) :
    store.KeepsRows (store.setEntryAttemptReplacement tradeId oldOrderId newOrderId stopLoss) := by
  intro other row listed
  by_cases same : other = tradeId
  · subst same
    unfold Store.setEntryAttemptReplacement Store.updateAttempts
    rw [Store.setAttempts_self]
    refine ⟨_, List.mem_map_of_mem listed, ?_⟩
    split <;> rfl
  · exact ⟨row, by rwa [Store.setEntryAttemptReplacement, Store.updateAttempts,
      Store.setAttempts_of_ne store same], rfl⟩

/-- A row under a number no row carries yet overwrites none. -/
theorem recordEntryAttempt_keepsRows {store : Store} {attempt : EntryAttempt}
    (fresh : ∀ row ∈ store.attempts attempt.tradeId, row.attemptNo < attempt.attemptNo) :
    store.KeepsRows (store.recordEntryAttempt attempt) := by
  intro other row listed
  by_cases same : other = attempt.tradeId
  · subst same
    have lower := fresh row listed
    refine ⟨row, ?_, rfl⟩
    unfold Store.recordEntryAttempt
    rw [Store.setAttempts_self, List.mem_append]
    exact .inl (List.mem_filter.mpr ⟨listed, by simpa using lower⟩)
  · exact ⟨row, by rwa [Store.recordEntryAttempt, Store.setAttempts_of_ne store same], rfl⟩

theorem lt_nextAttemptNo {attempts : List EntryAttempt} {row : EntryAttempt} (listed : row ∈ attempts) :
    row.attemptNo < nextAttemptNo attempts := by
  have bound : row.attemptNo ≤ (attempts.map (·.attemptNo)).foldr max 0 := by
    induction attempts with
    | nil => cases listed
    | cons first rest ih =>
      rw [List.map_cons, List.foldr_cons]
      rcases List.mem_cons.mp listed with rfl | later
      · exact le_max_left ..
      · exact (ih later).trans (le_max_right ..)
  unfold nextAttemptNo
  omega

/-- The number of a gated placement is above every row's. -/
theorem GatesPassed.attemptNo_fresh {env : Env} {ans : Answers} {call : EnterCall} {world middle : World}
    {plan : PlacementPlan} (gates : GatesPassed env ans call world plan middle) {attemptNo : Nat}
    (numbered : plan.attemptNo = some attemptNo) :
    ∀ row ∈ middle.store.attempts plan.tradeId, row.attemptNo < attemptNo := by
  intro row listed
  rcases gates.attemptNo with ⟨-, unnumbered⟩ | ⟨-, opened, next, -, evaluated, isNext⟩
  · rw [unnumbered] at numbered
    cases numbered
  · rw [isNext, Option.some.injEq] at numbered
    have walked := evaluateAt_quiet env ans call.verified call.now .full opened
    rw [evaluated] at walked
    obtain ⟨row', listed', _, _, rfl⟩ := (walked.attempts plan.tradeId).mem_after listed
    obtain ⟨-, -, -, count⟩ := evaluateAt_proceed gates.tradeId evaluated
    have lower := lt_nextAttemptNo listed'
    rw [← numbered, count]
    exact lower

theorem recordPlaced_keepsRows {ans : Answers} {call : EnterCall} {plan : PlacementPlan}
    {store : Store} (known : call.intent.tradeId = some plan.tradeId)
    (fresh : ∀ attemptNo, plan.attemptNo = some attemptNo →
      ∀ row ∈ store.attempts plan.tradeId, row.attemptNo < attemptNo) (orderId : Nat) :
    store.KeepsRows (recordPlaced ans call plan orderId store) := by
  unfold recordPlaced
  dsimp only
  refine .trans ?_ (.ofEq (keepOrderBody_attempts ..))
  cases numbered : plan.attemptNo with
  | none =>
    split
    · exact .ofEq rfl
    · split
      · exact setEntryAttemptReplacement_keepsRows _ _ _ _ _
      · exact .ofEq rfl
  | some attemptNo =>
    have recorded : ∀ placement, store.KeepsRows
        (recordPlacement ans call.verified call.now attemptNo orderId placement store) := by
      intro placement
      by_cases written : ans.store .recordAttempt = true
      · exact (recordEntryAttempt_keepsRows (fresh attemptNo numbered)).trans
          (.ofEq (recordPlacement_attempts known written ..))
      · refine .ofEq ?_
        unfold recordPlacement
        simp only [written, Bool.false_eq_true, if_false]
        repeat' split
        all_goals rfl
    split
    · exact recorded _
    · split
      · exact (recorded _).trans (setEntryAttemptReplacement_keepsRows _ _ _ _ _)
      · exact recorded _

/-- The entry path keeps every row it finds. -/
theorem runEnter_keepsRows (env : Env) (ans : Answers) (call : EnterCall) (world : World) :
    world.store.KeepsRows (runEnter env ans call world).1.store := by
  rcases runEnter_cases env ans call world with ⟨middle, quiet, parks, -⟩ | ⟨plan, middle, gates, run⟩
  · exact quiet.keepsRows.trans (.ofEq parks.attempts)
  · have ended := placeStage_cases env ans call plan gates.tradeId gates.instrument middle
    rw [run]
    generalize placeStage env ans call plan middle = ending at ended ⊢
    obtain ⟨after, result⟩ := ending
    refine gates.quiet.keepsRows.trans ?_
    cases ended with
    | refused same parks => exact .ofEq parks.attempts
    | dryRun same kept => exact .ofEq (by rw [kept])
    | accepted took kept =>
      dsimp only at kept ⊢
      rw [kept]
      exact recordPlaced_keepsRows gates.tradeId (fun _ => gates.attemptNo_fresh) _
    | unreadable took kept => exact .ofEq (by rw [kept])

end TradeControl
