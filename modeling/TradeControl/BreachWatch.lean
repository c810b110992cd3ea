import TradeControl.CalmPasses
import TradeControl.OrderSystem
import TradeControl.RepriceSettled
import TradeControl.SweptRows

namespace TradeControl

open Foundation

/-- The row's running extreme is at or beyond this stop. -/
def EntryAttempt.Past (row : EntryAttempt) (stop : Rat) : Prop :=
  ∃ extreme ∈ row.adverseExtreme, breachDetected row.direction extreme stop = true

/-- Orders keep their stops, and rows their order, stop and extreme. -/
structure World.SameStops (before after : World) : Prop where
  orders : Retouched (fun old new : BrokerOrder => new.id = old.id ∧ new.stopLoss = old.stopLoss)
    before.book.orders after.book.orders
  nextId : after.book.nextId = before.book.nextId
  attempts : ∀ tradeId, Retouched EntryAttempt.SameOrder (before.store.attempts tradeId)
    (after.store.attempts tradeId)

theorem World.SameStops.trans {a b c : World} (first : a.SameStops b) (second : b.SameStops c) :
    a.SameStops c where
  orders := first.orders.trans (fun _ _ _ earlier later =>
    ⟨later.1.trans earlier.1, later.2.trans earlier.2⟩) second.orders
  nextId := second.nextId.trans first.nextId
  attempts := fun tradeId =>
    (first.attempts tradeId).trans EntryAttempt.SameOrder.trans (second.attempts tradeId)

theorem BrokerOrder.Settles.stopLoss {old new : BrokerOrder} (settles : old.Settles new) :
    new.stopLoss = old.stopLoss := by
  rcases settles with rfl | ⟨-, _, -, rfl⟩ <;> rfl

theorem World.Quiet.sameStops {before after : World} (quiet : before.Quiet after) :
    before.SameStops after where
  orders := by
    obtain ⟨rewrite, within, same⟩ := quiet.orders
    exact ⟨rewrite, fun order => ⟨(within order).id, (within order).stopLoss⟩, same⟩
  nextId := quiet.nextId
  attempts := quiet.attempts

theorem World.SameStops.withStore {before after : World} (same : before.SameStops after) {store : Store}
    (attempts : store.attempts = after.store.attempts) :
    before.SameStops { store, book := after.book } where
  orders := same.orders
  nextId := same.nextId
  attempts := by
    rw [show ({ store, book := after.book } : World).store.attempts = after.store.attempts from attempts]
    exact same.attempts

theorem World.SameStops.ofSameOrders {world after : World} (same : world.book.SameOrders after.book)
    (attempts : after.store.attempts = world.store.attempts) : world.SameStops after where
  orders := by
    rw [same.1]
    exact .refl (fun _ => ⟨rfl, rfl⟩) _
  nextId := same.2
  attempts := by
    rw [attempts]
    exact fun _ => .refl EntryAttempt.SameOrder.refl _

theorem close_sameStops (world : World) (id : Nat) (realizedPl : Option Rat) :
    world.SameStops { world with book := world.book.close id realizedPl } := by
  refine ⟨⟨_, fun order => ?_, rfl⟩, rfl, fun _ => .refl EntryAttempt.SameOrder.refl _⟩
  split <;> exact ⟨rfl, rfl⟩

theorem closePositions_sameStops (world : World) (realizedPl : Nat → Option Rat) (instrument : String) :
    world.SameStops { world with book := world.book.closePositions realizedPl instrument } := by
  refine ⟨⟨_, fun order => ?_, rfl⟩, rfl, fun _ => .refl EntryAttempt.SameOrder.refl _⟩
  split <;> exact ⟨rfl, rfl⟩

theorem tryCancelOne_sameStops (env : Env) (ans : Answers) (order : BrokerOrder) (now : Int)
    (world : World) : world.SameStops (tryCancelOne env ans order now world).1 := by
  obtain ⟨quiet, attempts⟩ := tryCancelOne_quietBook env ans order now world
  exact quiet.sameStops.withStore attempts

/-- What ties a row to the order it names and to the prices the sweep has seen for it:
whatever extreme the row carries past its stop is owed to a price seen under that order. -/
structure World.Judges (world : World) (observed : List (Nat × Rat)) : Prop where
  filed : ∀ tradeId, ∀ row ∈ world.store.attempts tradeId, row.tradeId = tradeId
  numbered : ∀ tradeId, ((world.store.attempts tradeId).map (·.attemptNo)).Nodup
  issued : ∀ tradeId, ∀ row ∈ world.store.attempts tradeId, row.brokerOrderId < world.book.nextId
  carried : ∀ tradeId, ∀ row ∈ world.store.attempts tradeId, ∀ order ∈ world.book.orders,
    order.id = row.brokerOrderId → order.stopLoss = row.stopLossPrice
  seen : ∀ tradeId, ∀ row ∈ world.store.attempts tradeId, ∀ stop ∈ row.stopLossPrice, row.Past stop →
    ∃ price, (row.brokerOrderId, price) ∈ observed ∧ breachDetected row.direction price stop = true

theorem World.Judges.sameStops {before after : World} {observed : List (Nat × Rat)}
    (judges : before.Judges observed) (same : before.SameStops after) : after.Judges observed where
  filed := by
    intro tradeId row listed
    obtain ⟨old, present, _, _, rfl⟩ := (same.attempts tradeId).mem_after listed
    exact judges.filed tradeId old present
  numbered := by
    intro tradeId
    have numbers : (after.store.attempts tradeId).map (·.attemptNo) =
        (before.store.attempts tradeId).map (·.attemptNo) :=
      (same.attempts tradeId).map_eq fun _ _ ⟨_, _, rewritten⟩ => by rw [rewritten]
    rw [numbers]
    exact judges.numbered tradeId
  issued := by
    intro tradeId row listed
    obtain ⟨old, present, _, _, rfl⟩ := (same.attempts tradeId).mem_after listed
    rw [same.nextId]
    exact judges.issued tradeId old present
  carried := by
    intro tradeId row listed order member names
    obtain ⟨old, present, _, _, rfl⟩ := (same.attempts tradeId).mem_after listed
    obtain ⟨order', member', sameId, sameStop⟩ := same.orders.mem_after member
    rw [sameStop]
    exact judges.carried tradeId old present order' member' (sameId.symm.trans names)
  seen := by
    intro tradeId row listed stop named past
    obtain ⟨old, present, _, _, rfl⟩ := (same.attempts tradeId).mem_after listed
    exact judges.seen tradeId old present stop named past

/-- The broker takes an order no row names yet. -/
theorem World.Judges.tookOne {world : World} {book : Book} {observed : List (Nat × Rat)}
    {resolved : Resolved} {status : OrderStatus} (judges : world.Judges observed)
    (took : world.book.TookOne resolved status book) :
    ({ world with book } : World).Judges observed ∧ world.book.nextId < book.nextId ∧
      ∀ order ∈ book.orders, order.id = world.book.nextId → order.stopLoss = some resolved.stopLoss := by
  obtain ⟨entry, stake, counted, appended⟩ := took
  refine ⟨{ judges with issued := ?_, carried := ?_ }, by omega, ?_⟩
  · intro tradeId row listed
    have earlier := judges.issued tradeId row listed
    change row.brokerOrderId < book.nextId
    omega
  · intro tradeId row listed order member names
    change order ∈ book.orders at member
    rw [appended, List.mem_append, List.mem_singleton] at member
    rcases member with old | rfl
    · exact judges.carried tradeId row listed order old names
    · have earlier := judges.issued tradeId row listed
      rw [EntryRequest.toOrder_id] at names
      omega
  · intro order member names
    rw [appended, List.mem_append, List.mem_singleton] at member
    rcases member with old | rfl
    · have earlier := world.book.issued order old
      omega
    · rfl

theorem mem_recordEntryAttempt {store : Store} {attempt row : EntryAttempt} {tradeId : String}
    (listed : row ∈ (store.recordEntryAttempt attempt).attempts tradeId) :
    row ∈ store.attempts tradeId ∨ row = attempt ∧ tradeId = attempt.tradeId := by
  by_cases mine : tradeId = attempt.tradeId
  · subst mine
    rw [Store.recordEntryAttempt, Store.setAttempts_self, List.mem_append, List.mem_cons] at listed
    rcases listed with lower | rfl | higher
    · exact .inl (List.mem_of_mem_filter lower)
    · exact .inr ⟨rfl, rfl⟩
    · exact .inl (List.mem_of_mem_filter higher)
  · rw [Store.recordEntryAttempt, Store.setAttempts_of_ne store mine] at listed
    exact .inl listed

/-- A row is written for an order that carries the row's stop. -/
theorem World.Judges.recordEntryAttempt {world : World} {observed : List (Nat × Rat)}
    {attempt : EntryAttempt} (judges : world.Judges observed)
    (issued : attempt.brokerOrderId < world.book.nextId)
    (carries : ∀ order ∈ world.book.orders, order.id = attempt.brokerOrderId →
      order.stopLoss = attempt.stopLossPrice) (unseen : attempt.adverseExtreme = none) :
    ({ world with store := world.store.recordEntryAttempt attempt } : World).Judges observed := by
  refine ⟨?_, ?_, ?_, ?_, ?_⟩
  · intro tradeId row listed
    rcases mem_recordEntryAttempt listed with old | ⟨rfl, rfl⟩
    · exact judges.filed tradeId row old
    · rfl
  · intro tradeId
    by_cases mine : tradeId = attempt.tradeId
    · subst mine
      have split := judges.numbered attempt.tradeId
      change ((world.store.recordEntryAttempt attempt).attempts attempt.tradeId |>.map _).Nodup
      rw [Store.recordEntryAttempt, Store.setAttempts_self, List.map_append, List.map_cons,
        List.nodup_append, List.nodup_cons]
      refine ⟨split.sublist (List.Sublist.map _ List.filter_sublist), ⟨?_,
        split.sublist (List.Sublist.map _ List.filter_sublist)⟩, ?_⟩
      · intro member
        obtain ⟨row, higher, same⟩ := List.mem_map.mp member
        have above : attempt.attemptNo < row.attemptNo := by
          simpa using (List.mem_filter.mp higher).2
        omega
      · intro number below other above same
        obtain ⟨row, lower, rfl⟩ := List.mem_map.mp below
        have under : row.attemptNo < attempt.attemptNo := by
          simpa using (List.mem_filter.mp lower).2
        rcases List.mem_cons.mp above with rfl | later
        · omega
        · obtain ⟨row', higher, rfl⟩ := List.mem_map.mp later
          have beyond : attempt.attemptNo < row'.attemptNo := by
            simpa using (List.mem_filter.mp higher).2
          omega
    · change ((world.store.recordEntryAttempt attempt).attempts tradeId |>.map _).Nodup
      rw [Store.recordEntryAttempt, Store.setAttempts_of_ne world.store mine]
      exact judges.numbered tradeId
  · intro tradeId row listed
    rcases mem_recordEntryAttempt listed with old | ⟨rfl, rfl⟩
    · exact judges.issued tradeId row old
    · exact issued
  · intro tradeId row listed order member names
    rcases mem_recordEntryAttempt listed with old | ⟨rfl, rfl⟩
    · exact judges.carried tradeId row old order member names
    · exact carries order member names
  · intro tradeId row listed stop named past
    rcases mem_recordEntryAttempt listed with old | ⟨rfl, rfl⟩
    · exact judges.seen tradeId row old stop named past
    · obtain ⟨extreme, seeded, -⟩ := past
      rw [unseen] at seeded
      cases seeded

/-- The row of a replaced order moves to the new order and its stop: what it has seen must
not be past that stop. -/
theorem World.Judges.setEntryAttemptReplacement {world : World} {observed : List (Nat × Rat)}
    {tradeId : String} {old new : Nat} {stop : Rat} (judges : world.Judges observed)
    (issued : new < world.book.nextId)
    (carries : ∀ order ∈ world.book.orders, order.id = new → order.stopLoss = some stop)
    (unpassed : ∀ row ∈ world.store.attempts tradeId, row.brokerOrderId = old → ¬ row.Past stop) :
    ({ world with
        store := world.store.setEntryAttemptReplacement tradeId old new (some stop) } : World).Judges
      observed := by
  have rows : ∀ other, ∀ row ∈
      (world.store.setEntryAttemptReplacement tradeId old new (some stop)).attempts other,
      row ∈ world.store.attempts other ∨ ∃ earlier ∈ world.store.attempts other, ¬ earlier.Past stop ∧
        row = { earlier with brokerOrderId := new, stopLossPrice := some stop } := by
    intro other row listed
    by_cases mine : other = tradeId
    · subst mine
      rw [Store.setEntryAttemptReplacement, Store.updateAttempts, Store.setAttempts_self] at listed
      obtain ⟨earlier, present, rfl⟩ := List.mem_map.mp listed
      split
      · next names => exact .inr ⟨earlier, present, unpassed earlier present names, rfl⟩
      · exact .inl present
    · rw [Store.setEntryAttemptReplacement, Store.updateAttempts,
        Store.setAttempts_of_ne world.store mine] at listed
      exact .inl listed
  refine ⟨?_, ?_, ?_, ?_, ?_⟩
  · intro other row listed
    rcases rows other row listed with kept | ⟨earlier, present, -, rfl⟩
    · exact judges.filed other row kept
    · exact judges.filed other earlier present
  · intro other
    have numbers : ((world.store.setEntryAttemptReplacement tradeId old new (some stop)).attempts
        other).map (·.attemptNo) = (world.store.attempts other).map (·.attemptNo) := by
      by_cases mine : other = tradeId
      · subst mine
        rw [Store.setEntryAttemptReplacement, Store.updateAttempts, Store.setAttempts_self, List.map_map]
        refine List.map_congr_left fun row _ => ?_
        simp only [Function.comp_apply]
        split <;> rfl
      · rw [Store.setEntryAttemptReplacement, Store.updateAttempts,
          Store.setAttempts_of_ne world.store mine]
    change List.Nodup _
    rw [numbers]
    exact judges.numbered other
  · intro other row listed
    rcases rows other row listed with kept | ⟨earlier, present, -, rfl⟩
    · exact judges.issued other row kept
    · exact issued
  · intro other row listed order member names
    rcases rows other row listed with kept | ⟨earlier, present, -, rfl⟩
    · exact judges.carried other row kept order member names
    · exact carries order member names
  · intro other row listed level named past
    rcases rows other row listed with kept | ⟨earlier, present, fine, rfl⟩
    · exact judges.seen other row kept level named past
    · cases named
      exact absurd past fine

/-- A re-placed order's stop is not one that the row of the order it replaces is already past. -/
def EnterCall.Unpassed (env : Env) (ans : Answers) (call : EnterCall) (world : World) : Prop :=
  ∀ old, call.origin.replacedOrderId = some old → ∀ plan, (runGates env ans call world).2 = .ok plan →
    ∀ row ∈ world.store.attempts plan.tradeId, row.brokerOrderId = old → ¬ row.Past plan.resolved.stopLoss

theorem World.Judges.ofStore {world : World} {observed : List (Nat × Rat)} {store : Store}
    (judges : world.Judges observed) (attempts : store.attempts = world.store.attempts) :
    ({ world with store } : World).Judges observed :=
  judges.sameStops (.ofSameOrders ⟨rfl, rfl⟩ attempts)

/-- A placement writes one new row, or none when its write fails. -/
theorem recordPlacement_attempts_cases (ans : Answers) (verified : Verified) (now : Int)
    (attemptNo orderId : Nat) (placement : PlacementRecord) (store : Store) :
    (recordPlacement ans verified now attemptNo orderId placement store).attempts = store.attempts ∨
      ∃ tradeId, verified.intent.tradeId = some tradeId ∧
        (recordPlacement ans verified now attemptNo orderId placement store).attempts =
          (store.recordEntryAttempt (placement.attempt verified tradeId now attemptNo orderId)).attempts := by
  cases known : verified.intent.tradeId with
  | none => exact .inl (by simp [recordPlacement, known])
  | some tradeId =>
    by_cases written : ans.store .recordAttempt = true
    · exact .inr ⟨tradeId, rfl, recordPlacement_attempts known written now attemptNo orderId placement store⟩
    · refine .inl ?_
      unfold recordPlacement
      simp only [known, written, Bool.false_eq_true, if_false]
      split <;> rfl

theorem recordPlacement_judges {world : World} {observed : List (Nat × Rat)} {orderId : Nat} {stop : Rat}
    {placement : PlacementRecord} (judges : world.Judges observed) (issued : orderId < world.book.nextId)
    (carries : ∀ order ∈ world.book.orders, order.id = orderId → order.stopLoss = some stop)
    (same : placement.stopLoss = stop) (ans : Answers) (verified : Verified) (now : Int) (attemptNo : Nat) :
    let store := recordPlacement ans verified now attemptNo orderId placement world.store
    ({ world with store } : World).Judges observed := by
  subst same
  rcases recordPlacement_attempts_cases ans verified now attemptNo orderId placement world.store with
    kept | ⟨tradeId, -, written⟩
  · exact judges.ofStore kept
  · let attempt := placement.attempt verified tradeId now attemptNo orderId
    have recorded : World.Judges ⟨world.store.recordEntryAttempt attempt, world.book⟩ observed :=
      judges.recordEntryAttempt issued carries rfl
    exact recorded.ofStore written

theorem recordPlacement_rows {ans : Answers} {verified : Verified} {now : Int} {attemptNo orderId : Nat}
    {placement : PlacementRecord} {store : Store} {tradeId : String} {row : EntryAttempt}
    (listed : row ∈ (recordPlacement ans verified now attemptNo orderId placement store).attempts tradeId) :
    row ∈ store.attempts tradeId ∨ row.adverseExtreme = none := by
  rcases recordPlacement_attempts_cases ans verified now attemptNo orderId placement store with
    kept | ⟨own, -, written⟩
  · rw [kept] at listed
    exact .inl listed
  · rw [written] at listed
    rcases mem_recordEntryAttempt listed with old | ⟨rfl, -⟩
    · exact .inl old
    · exact .inr rfl

/-- The rows after a placement, where the order that it replaces hands its row on. -/
def repoint (ans : Answers) (call : EnterCall) (plan : PlacementPlan) (orderId : Nat) (store : Store) : Store :=
  match call.origin.replacedOrderId with
  | none => store
  | some old =>
    if ans.store .setReplacement then
      store.setEntryAttemptReplacement plan.tradeId old orderId (some plan.resolved.stopLoss)
    else store

/-- The bookkeeping of a placement keeps the watch, when the order is the one it names. -/
theorem recordPlaced_judges {world : World} {observed : List (Nat × Rat)} {call : EnterCall}
    {plan : PlacementPlan} {orderId : Nat} (judges : world.Judges observed)
    (issued : orderId < world.book.nextId)
    (carries : ∀ order ∈ world.book.orders, order.id = orderId →
      order.stopLoss = some plan.resolved.stopLoss)
    (unpassed : ∀ old, call.origin.replacedOrderId = some old → ∀ row ∈ world.store.attempts plan.tradeId,
      row.brokerOrderId = old → ¬ row.Past plan.resolved.stopLoss) (ans : Answers) :
    ({ world with store := recordPlaced ans call plan orderId world.store } : World).Judges observed := by
  have repointed : ∀ store : Store, ({ world with store } : World).Judges observed →
      (∀ tradeId, ∀ row ∈ store.attempts tradeId,
        row ∈ world.store.attempts tradeId ∨ row.adverseExtreme = none) →
      ({ world with store := repoint ans call plan orderId store } : World).Judges observed := by
    intro store kept rows
    unfold repoint
    split
    · exact kept
    · next old replaced =>
      split
      · refine kept.setEntryAttemptReplacement issued carries ?_
        intro row listed names past
        rcases rows plan.tradeId row listed with before | fresh
        · exact unpassed old replaced row before names past
        · obtain ⟨extreme, seeded, -⟩ := past
          rw [fresh] at seeded
          cases seeded
      · exact kept
  have keeps : ∀ store : Store, ({ world with store } : World).Judges observed →
      ({ world with store := keepOrderBody ans orderId call.rawBody store } : World).Judges observed :=
    fun store kept => kept.ofStore (keepOrderBody_attempts ans orderId call.rawBody store)
  unfold recordPlaced
  refine keeps _ ?_
  cases plan.attemptNo with
  | none => exact repointed world.store judges fun _ _ listed => .inl listed
  | some attemptNo =>
    refine repointed _ ?_ fun _ _ => recordPlacement_rows
    exact recordPlacement_judges judges issued carries rfl ans call.verified call.now attemptNo

theorem runEnter_judges {env : Env} {ans : Answers} {call : EnterCall} {world : World}
    {observed : List (Nat × Rat)} (judges : world.Judges observed) (unpassed : call.Unpassed env ans world) :
    (runEnter env ans call world).1.Judges observed := by
  unfold runEnter
  rcases runGates_cases env ans call world with
    ⟨after, result, stopped, middle, quiet, parks, -⟩ | ⟨plan, middle, passed, gates⟩
  · rw [stopped]
    exact judges.sameStops (quiet.sameStops.trans (.ofSameOrders (by rw [parks.book]; exact ⟨rfl, rfl⟩)
      parks.attempts))
  · rw [passed]
    dsimp only
    have kept := judges.sameStops gates.quiet.sameStops
    have ended := placeStage_cases env ans call plan gates.tradeId gates.instrument middle
    generalize placeStage env ans call plan middle = ending at ended ⊢
    obtain ⟨⟨store, book⟩, result⟩ := ending
    cases ended with
    | refused same parks =>
      refine kept.sameStops (.ofSameOrders same ?_)
      exact parks.attempts
    | dryRun same unchanged =>
      exact kept.sameStops (.ofSameOrders same (by rw [unchanged]))
    | accepted took recorded =>
      obtain ⟨taken, issued, carries⟩ := kept.tookOne took
      dsimp only at recorded
      subst recorded
      refine recordPlaced_judges taken issued carries ?_ ans
      intro old replaced row listed names past
      obtain ⟨row', listed', _, _, rfl⟩ := (gates.quiet.attempts plan.tradeId).mem_after listed
      exact unpassed old replaced plan (by rw [passed]) row' listed' names past
    | unreadable took unchanged =>
      obtain ⟨taken, -, -⟩ := kept.tookOne took
      dsimp only at unchanged
      subst unchanged
      exact taken

/-- The turn re-places no order at a stop its row is already past. -/
def OrderEvent.Unpassed (env : Env) (world : World) : OrderEvent → Prop
  | .restore ans _ cancelled now =>
    ∀ verified, env.recover cancelled.signedIntent now = .ok verified →
      (cancelled.redrive verified now).Unpassed env ans world
  | .reprice ans enterAns order _ _ _ _ now =>
    ∀ signedIntent verified, world.store.orderBodies order.id = some signedIntent →
      env.recover signedIntent now = .ok verified →
      (repriceCall order.id signedIntent verified now).Unpassed env enterAns
        { world with book := (world.book.cancelOrder (ans.cancel order.id) order.id).1 }
  | .promote ans enterAns tradeId _ now =>
    ∀ parked verified, world.store.storedOrder now tradeId = some parked →
      env.recover parked.signedIntent now = .ok verified →
      (parked.promotion verified now).Unpassed env enterAns
        { world with store := (clearStoredOrder ans tradeId now world.store).1 }
  | .fire .. | .hold .. | .fill _ | .expire _ | .close .. => True

theorem restoreOneOrder_judges {env : Env} {ans : Answers} {record : HeldTradeRecord}
    {cancelled : CancelledOrder} {now : Int} {world : World} {observed : List (Nat × Rat)}
    (judges : world.Judges observed)
    (unpassed : (OrderEvent.restore ans record cancelled now).Unpassed env world) :
    (restoreOneOrder env ans record cancelled now world).1.Judges observed := by
  have cleaned : ∀ world : World, world.Judges observed →
      World.Judges { world with store := cleanupBody ans cancelled.orderId world.store } observed :=
    fun world judges => judges.ofStore (cleanupBody_attempts ..)
  unfold restoreOneOrder
  dsimp only
  split
  · exact cleaned world judges
  · exact judges
  · next verified recovered =>
    have placed := runEnter_judges judges (unpassed verified recovered)
    split
    · exact judges
    · split
      · exact judges
      · split
        · exact cleaned _ placed
        · exact cleaned world judges

theorem repricePendingOrder_judges {env : Env} {ans enterAns : Answers} {order : BrokerOrder}
    {action : PendingAction} {geometry : ParkGeometry} {expiresAt barSeconds now : Int} {world : World}
    {observed : List (Nat × Rat)} (judges : world.Judges observed)
    (unpassed : (OrderEvent.reprice ans enterAns order action geometry expiresAt barSeconds now).Unpassed
      env world) :
    (repricePendingOrder env ans enterAns order action geometry expiresAt barSeconds now world).1.Judges
      observed := by
  have pulled := judges.sameStops (cancelOrder_quiet world (ans.cancel order.id) order.id).sameStops
  have parked : ∀ (world : World) (tradeId signedIntent : String) (verified : Verified)
      (outcome : RepriceOutcome), world.Judges observed →
      (parkRepriced ans order tradeId signedIntent verified geometry expiresAt barSeconds now outcome
        world).1.Judges observed := by
    intro world tradeId signedIntent verified outcome judges
    have attempts := parkRepriced_attempts ans order tradeId signedIntent verified geometry expiresAt
      barSeconds now outcome world
    have book := parkRepriced_book ans order tradeId signedIntent verified geometry expiresAt
      barSeconds now outcome world
    exact judges.sameStops (.ofSameOrders (by rw [book]; exact ⟨rfl, rfl⟩) attempts)
  unfold repricePendingOrder
  split
  · exact judges
  · split
    · exact judges
    · split
      · exact judges
      · exact judges
      · exact judges
      · next signedIntent verified stored recovered =>
        have settled := unpassed signedIntent verified stored (by simpa [Env.recoverBody, stored] using recovered)
        dsimp only
        split
        · next reply =>
          rw [reply] at pulled
          exact pulled
        · next book reply =>
          rw [reply] at pulled settled
          split
          · exact parked _ _ _ _ _ pulled
          · have placed := runEnter_judges pulled settled
            split
            · exact placed
            · exact parked _ _ _ _ _ placed

theorem promoteStoredOrder_judges {env : Env} {ans enterAns : Answers} {tradeId : String}
    {check : StoredCheck} {now : Int} {world : World} {observed : List (Nat × Rat)}
    (judges : world.Judges observed)
    (unpassed : (OrderEvent.promote ans enterAns tradeId check now).Unpassed env world) :
    (promoteStoredOrder env ans enterAns tradeId check now world).1.Judges observed := by
  have cleared := judges.ofStore (clearStoredOrder_attempts ans tradeId now world.store)
  unfold promoteStoredOrder
  split
  · exact judges
  · split
    · exact judges
    · next parked found =>
      split
      · exact judges
      · split <;> simp_all
      · split
        · exact judges
        · split <;> simp_all
        · next verified recovered =>
          have settled := unpassed parked verified found recovered
          split
          · simp_all
          · next store reply =>
            rw [reply] at cleared settled
            exact runEnter_judges cleared settled

/-- A turn of the order passes or of the market keeps the watch. -/
theorem OrderEvent.step_judges {env : Env} {world : World} {event : OrderEvent}
    {observed : List (Nat × Rat)} (judges : world.Judges observed) (unpassed : event.Unpassed env world) :
    (event.step env world).Judges observed := by
  cases event with
  | fire ans verified rawBody granularity now =>
    exact runEnter_judges judges fun old replaced => by cases replaced
  | hold ans order now => exact judges.sameStops (tryCancelOne_sameStops env ans order now world)
  | restore ans record cancelled now => exact restoreOneOrder_judges judges unpassed
  | reprice ans enterAns order action geometry expiresAt barSeconds now =>
    exact repricePendingOrder_judges judges unpassed
  | promote ans enterAns tradeId check now => exact promoteStoredOrder_judges judges unpassed
  | fill id => exact judges.sameStops (world.settle_quiet _ (.inl rfl)).sameStops
  | expire id => exact judges.sameStops (world.settle_quiet _ (.inr rfl)).sameStops
  | close id realizedPl => exact judges.sameStops (close_sameStops world id realizedPl)

end TradeControl
