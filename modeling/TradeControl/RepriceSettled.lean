import TradeControl.OrderSystem
import TradeControl.PlacedSince
import TradeControl.Reprice

namespace TradeControl

/-- The trade a resting order is kept under, by the body it was placed with. -/
def Env.tradeOf (env : Env) (orderId : Nat) (now : Int) (store : Store) : String :=
  match env.recoverBody (store.orderBodies orderId) now with
  | .ok verified => verified.intent.tradeId.getD (toString orderId)
  | _ => toString orderId

/-- The order rests as it did, and none was placed beside it. -/
structure Kept (order : BrokerOrder) (before after : World) : Prop where
  rests : after.book.order order.id = some order
  alone : before.placedSince after = []

/-- The order is gone, one was placed in its stead, and the attempt row that named the old
order names the new one. -/
structure Replaced (tradeId : String) (order : BrokerOrder) (before after : World) : Prop where
  gone : after.Gone order.id
  replacement : ∃ new, before.placedSince after = [new] ∧
    ∃ row ∈ after.store.attempts tradeId, row.brokerOrderId = new.id
  tracked : ∃ row ∈ before.store.attempts tradeId, row.brokerOrderId = order.id
  repointed : ∀ row ∈ after.store.attempts tradeId, row.brokerOrderId ≠ order.id

/-- The order is gone, none was placed in its stead, and the setup is parked for it. -/
structure Parked (tradeId : String) (now : Int) (order : BrokerOrder) (before after : World) : Prop where
  gone : after.Gone order.id
  alone : before.placedSince after = []
  parked : after.ParkedFor tradeId order.id now

/-- A re-price ends in exactly one of the three. -/
def RepriceEnds (tradeId : String) (now : Int) (order : BrokerOrder) (before after : World) : Prop :=
  (Kept order before after ∨ Replaced tradeId order before after ∨ Parked tradeId now order before after) ∧
    ¬ (Kept order before after ∧ Replaced tradeId order before after) ∧
    ¬ (Kept order before after ∧ Parked tradeId now order before after) ∧
    ¬ (Replaced tradeId order before after ∧ Parked tradeId now order before after)

theorem Kept.not_gone {order : BrokerOrder} {before after : World} (kept : Kept order before after)
    (resting : order.status = .resting) : ¬ after.Gone order.id := by
  intro gone
  have dead := not_live_of_settled gone kept.rests
  simp [BrokerOrder.live, OrderStatus.live, resting] at dead

/-- For an order that rested the three exclude one another. -/
theorem repriceEnds_iff {tradeId : String} {now : Int} {order : BrokerOrder} {before after : World}
    (resting : order.status = .resting) :
    RepriceEnds tradeId now order before after ↔
      Kept order before after ∨ Replaced tradeId order before after ∨
        Parked tradeId now order before after := by
  refine ⟨And.left, fun ends => ⟨ends, ?_, ?_, ?_⟩⟩
  · rintro ⟨kept, replaced⟩
    exact kept.not_gone resting replaced.gone
  · rintro ⟨kept, parked⟩
    exact kept.not_gone resting parked.gone
  · rintro ⟨replaced, parked⟩
    obtain ⟨new, placed, -⟩ := replaced.replacement
    rw [parked.alone] at placed
    cases placed

/-- The two store calls of a park go through. -/
def Answers.parks (ans : Answers) : Prop := ans.store .getHeld = true ∧ ans.store .upsertHeld = true

/-- The re-placement of a pulled order comes to one order whose row follows it, or to none
and a park. -/
def RedriveSafe (env : Env) (ans enterAns : Answers) (tradeId : String) (orderId : Nat) (call : EnterCall)
    (world : World) : Prop :=
  let parkedAfter := ans.parks ∨ (runEnter env enterAns call world).1.ParkedFor tradeId orderId call.now
  match runGates env enterAns call world with
  | (_, .error _) => parkedAfter
  | (middle, .ok plan) =>
    let (book, placement) := placeWithRecovery enterAns plan.resolved call.intent.entryLevelVetos
      middle.book
    match placement.answer with
    | .ok _ =>
      if plan.resolved.dryRun then world.ParkedFor tradeId orderId call.now
      else (∃ row ∈ world.store.attempts tradeId, row.brokerOrderId = orderId) ∧
        enterAns.store .setReplacement = true
    | .error _ => world.placedSince { middle with book } = [] ∧ parkedAfter

/-- The world once the broker has confirmed the cancel of this order. -/
def World.pulled (world : World) (id : Nat) : World :=
  { world with book := world.book.settle (·.id == id) .cancelled }

/-- No answer on the way of this re-price loses the order or hides one. -/
def RepriceSafe (env : Env) (ans enterAns : Answers) (order : BrokerOrder) (action : PendingAction)
    (now : Int) (world : World) : Prop :=
  action = .hold ∨ ans.store .getOrderBody = false ∨ ∀ signedIntent verified,
    world.store.orderBodies order.id = some signedIntent →
    env.recover signedIntent now = .ok verified →
    let tradeId := env.tradeOf order.id now world.store
    match ans.cancel order.id with
    | .failed => True
    | .filledFirst => False
    | .lost => world.ParkedFor tradeId order.id now
    | .confirmed =>
      if action = .demote then ans.parks ∨ world.ParkedFor tradeId order.id now
      else RedriveSafe env ans enterAns tradeId order.id (repriceCall order.id signedIntent verified now)
        (world.pulled order.id)

/-- Parking a re-priced order leaves it parked if the park is written or was there. -/
theorem parkRepriced_parkedFor (ans : Answers) (order : BrokerOrder) (tradeId signedIntent : String)
    (verified : Verified) (geometry : ParkGeometry) (expiresAt barSeconds now : Int)
    (outcome : RepriceOutcome) (world : World) :
    (parkRepriced ans order tradeId signedIntent verified geometry expiresAt barSeconds now outcome
        world).1.ParkedFor tradeId order.id now ↔
      ans.parks ∨ world.ParkedFor tradeId order.id now := by
  have kept : (parkRepriced ans order tradeId signedIntent verified geometry expiresAt barSeconds now
      outcome world).1.store = (parkBelowMinR ans order tradeId signedIntent verified geometry expiresAt
        barSeconds now world.store).1 := by
    unfold parkRepriced
    split
    all_goals rename_i reply; rw [reply]
  unfold World.ParkedFor
  rw [kept]
  unfold parkBelowMinR parkOrder Answers.parks
  cases ans.store .getHeld with
  | false => simp
  | true =>
    cases ans.store .upsertHeld with
    | false => simp
    | true => simp [HeldTradeRecord.park, repricedPark]

theorem parkRepriced_attempts (ans : Answers) (order : BrokerOrder) (tradeId signedIntent : String)
    (verified : Verified) (geometry : ParkGeometry) (expiresAt barSeconds now : Int)
    (outcome : RepriceOutcome) (world : World) :
    (parkRepriced ans order tradeId signedIntent verified geometry expiresAt barSeconds now outcome
      world).1.store.attempts = world.store.attempts := by
  have same : (parkBelowMinR ans order tradeId signedIntent verified geometry expiresAt barSeconds now
      world.store).1.attempts = world.store.attempts := parkOrder_attempts ..
  unfold parkRepriced
  split
  all_goals rename_i reply; rw [reply] at same; exact same

theorem parkRepriced_book (ans : Answers) (order : BrokerOrder) (tradeId signedIntent : String)
    (verified : Verified) (geometry : ParkGeometry) (expiresAt barSeconds now : Int)
    (outcome : RepriceOutcome) (world : World) :
    (parkRepriced ans order tradeId signedIntent verified geometry expiresAt barSeconds now outcome
      world).1.book = world.book := by
  unfold parkRepriced
  split <;> rfl

/-- With nothing placed, a gone order ends well exactly when it is parked. -/
theorem ends_of_alone {tradeId : String} {now : Int} {order : BrokerOrder} {before after : World}
    (gone : after.Gone order.id) (alone : before.placedSince after = []) :
    (Replaced tradeId order before after ∨ Parked tradeId now order before after) ↔
      after.ParkedFor tradeId order.id now := by
  constructor
  · rintro (replaced | parked)
    · obtain ⟨new, placed, -⟩ := replaced.replacement
      rw [alone] at placed
      cases placed
    · exact parked.parked
  · exact fun parked => .inr ⟨gone, alone, parked⟩

theorem pulled_gone {world : World} {id : Nat} (status : world.book.statusOf id = some .resting) :
    (world.pulled id).Gone id := by
  have cancelled : world.book.cancelOrder .confirmed id = ((world.pulled id).book, .ok ()) := by
    simp [Book.cancelOrder, status, World.pulled]
  exact not_live_of_cancelled cancelled

theorem Replaced.congr {tradeId : String} {order : BrokerOrder} {before before' after : World}
    (nextId : before'.book.nextId = before.book.nextId)
    (attempts : before'.store.attempts = before.store.attempts)
    (replaced : Replaced tradeId order before after) : Replaced tradeId order before' after where
  gone := replaced.gone
  replacement := by
    unfold World.placedSince
    rw [nextId]
    exact replaced.replacement
  tracked := by
    rw [attempts]
    exact replaced.tracked
  repointed := replaced.repointed

theorem Parked.congr {tradeId : String} {now : Int} {order : BrokerOrder} {before before' after : World}
    (nextId : before'.book.nextId = before.book.nextId) (parked : Parked tradeId now order before after) :
    Parked tradeId now order before' after where
  gone := parked.gone
  alone := by
    unfold World.placedSince
    rw [nextId]
    exact parked.alone
  parked := parked.parked

/-- Both ends look at the ids issued and the rows kept before, and at nothing else. -/
theorem ends_congr {tradeId : String} {now : Int} {order : BrokerOrder} {after : World}
    (before before' : World)
    (nextId : before'.book.nextId = before.book.nextId)
    (attempts : before'.store.attempts = before.store.attempts) :
    (Replaced tradeId order before after ∨ Parked tradeId now order before after) ↔
      (Replaced tradeId order before' after ∨ Parked tradeId now order before' after) :=
  ⟨.imp (·.congr nextId attempts) (·.congr nextId),
    .imp (·.congr nextId.symm attempts.symm) (·.congr nextId.symm)⟩

/-- An order that filled under the cancel is neither kept nor gone. -/
theorem not_ends_of_filled {tradeId : String} {now : Int} {order : BrokerOrder} {world : World}
    (found : world.book.order order.id = some order) (resting : order.status = .resting) :
    ¬ (Kept order world { world with book := world.book.settle (·.id == order.id) .open } ∨
      Replaced tradeId order world { world with book := world.book.settle (·.id == order.id) .open } ∨
      Parked tradeId now order world
        { world with book := world.book.settle (·.id == order.id) .open }) := by
  have filled : (world.book.settle (·.id == order.id) .open).order order.id =
      some { order with status := .open } := by
    rw [Book.settle, Book.order_rewrite, found]
    simp [BrokerOrder.settleIf, resting]
  have stands : ¬ World.Gone
      { world with book := world.book.settle (·.id == order.id) .open } order.id := by
    intro gone
    have dead := not_live_of_settled gone filled
    cases dead
  rintro (kept | replaced | parked)
  · have rests := kept.rests.symm.trans filled
    rw [Option.some.injEq] at rests
    rw [rests] at resting
    cases resting
  · exact stands replaced.gone
  · exact stands parked.gone

/-- The rows after a re-drive's bookkeeping. -/
theorem recordPlaced_replacing (ans : Answers) {call : EnterCall} {plan : PlacementPlan} {old : Nat}
    (unnumbered : plan.attemptNo = none) (replaces : call.origin.replacedOrderId = some old)
    (orderId : Nat) (store : Store) :
    (recordPlaced ans call plan orderId store).attempts =
      if ans.store .setReplacement then
        (store.setEntryAttemptReplacement plan.tradeId old orderId (some plan.resolved.stopLoss)).attempts
      else store.attempts := by
  unfold recordPlaced
  rw [unnumbered, replaces]
  dsimp only
  rw [keepOrderBody_attempts]
  split <;> rfl

theorem setEntryAttemptReplacement_repointed {store : Store} {tradeId : String} {old new : Nat}
    (differs : new ≠ old) (stopLoss : Option Rat) :
    ∀ row ∈ (store.setEntryAttemptReplacement tradeId old new stopLoss).attempts tradeId,
      row.brokerOrderId ≠ old := by
  intro row listed
  unfold Store.setEntryAttemptReplacement Store.updateAttempts at listed
  rw [Store.setAttempts_self] at listed
  obtain ⟨earlier, present, rfl⟩ := List.mem_map.mp listed
  split
  · exact differs
  · next other => exact other

/-- How a re-placement ends, with the park the caller makes of one that did not go through. -/
theorem redrive_ends_iff (env : Env) (ans enterAns : Answers) {tradeId : String} {order : BrokerOrder}
    (call : EnterCall) {before : World} (after : World) (issued : order.id < before.book.nextId)
    (gone : before.Gone order.id) (replaces : call.origin = .replacing order.id)
    (own : call.intent.tradeId.getD (toString order.id) = tradeId)
    (ends : (runEnter env enterAns call before).2.isOk = true ∧ after = (runEnter env enterAns call before).1 ∨
      (runEnter env enterAns call before).2.isOk = false ∧
        after.book = (runEnter env enterAns call before).1.book ∧
        after.store.attempts = (runEnter env enterAns call before).1.store.attempts ∧
        (after.ParkedFor tradeId order.id call.now ↔ ans.parks ∨
          (runEnter env enterAns call before).1.ParkedFor tradeId order.id call.now)) :
    (Replaced tradeId order before after ∨ Parked tradeId call.now order before after) ↔
      RedriveSafe env ans enterAns tradeId order.id call before := by
  unfold RedriveSafe
  dsimp only
  rcases runGates_cases env enterAns call before with
    ⟨stoppedAt, result, stopped, middle, quiet, parks, rejected⟩ | ⟨plan, middle, passed, gates⟩
  · have entered : runEnter env enterAns call before = (stoppedAt, result) := by
      unfold runEnter
      rw [stopped]
    have calm := quiet.calm.trans parks.calm
    rw [entered] at ends ⊢
    rw [stopped]
    rcases ends with ⟨ok, -⟩ | ⟨-, book, -, parked⟩
    · rw [rejected.not_ok] at ok
      cases ok
    · have alone : before.placedSince after = [] :=
        World.placedSince_eq_nil (by rw [book]; exact calm.nextId)
      have pulled : after.Gone order.id := fun new member => gone.calm calm new (book ▸ member)
      rw [ends_of_alone pulled alone]
      exact parked
  · have entered : runEnter env enterAns call before = placeStage env enterAns call plan middle := by
      unfold runEnter
      rw [passed]
    have goneNow := gone.calm gates.quiet.calm
    have issuedNow : order.id < middle.book.nextId := by rw [gates.quiet.nextId]; exact issued
    obtain rfl : plan.tradeId = tradeId := by rw [← own, gates.tradeId]; rfl
    have replaced : call.origin.replacedOrderId = some order.id := by rw [replaces]; rfl
    have unnumbered : plan.attemptNo = none := by
      rcases gates.attemptNo with ⟨-, unnumbered⟩ | ⟨gated, -⟩
      · exact unnumbered
      · simp [EnterCall.gated, replaces, EntryOrigin.skipsRetryGate] at gated
    have tracked : (∃ row ∈ before.store.attempts plan.tradeId, row.brokerOrderId = order.id) →
        ∃ row ∈ middle.store.attempts plan.tradeId, row.brokerOrderId = order.id := by
      rintro ⟨row, listed, names⟩
      obtain ⟨row', listed', _, _, rfl⟩ := (gates.quiet.attempts plan.tradeId).mem_before listed
      exact ⟨_, listed', names⟩
    have submitted := placeWithRecovery_submitted enterAns plan.resolved call.intent.entryLevelVetos
      middle.book
    rw [entered] at ends ⊢
    rw [passed]
    dsimp only
    rcases placed : placeWithRecovery enterAns plan.resolved call.intent.entryLevelVetos middle.book with
      ⟨book, answer, entry, skipReason⟩
    rw [placed] at submitted
    dsimp only at submitted ⊢
    cases answer with
    | ok orderId =>
      obtain ⟨outcome, stage⟩ := placeStage_ok env placed rfl
      rw [stage] at ends
      rcases ends with ⟨-, rfl⟩ | ⟨notOk, -⟩
      · cases submitted with
        | dryRun same dry =>
          have alone : before.placedSince { middle with book } = [] :=
            World.placedSince_eq_nil (same.2.trans gates.quiet.nextId)
          have pulled : World.Gone { middle with book } order.id :=
            goneNow.calm (.ofSameOrders { middle with book } same rfl)
          rw [if_pos dry, if_pos dry, ends_of_alone pulled alone]
          exact World.ParkedFor.congr gates.quiet.held
        | @accepted placedAs took wet status =>
          have alive : placedAs.live = true := by rcases status with rfl | rfl <;> rfl
          simp only [wet, Bool.false_eq_true, if_false]
          obtain ⟨new, newId, -, -, since⟩ := World.placedSince_tookOne
            { store := recordPlaced enterAns call plan middle.book.nextId middle.store, book }
            gates.quiet.nextId took
          rw [if_pos alive] at since
          have rows := recordPlaced_replacing enterAns unnumbered replaced middle.book.nextId
            middle.store
          constructor
          · rintro (ends | ends)
            · refine ⟨ends.tracked, ?_⟩
              by_contra unwritten
              obtain ⟨row, listed, names⟩ := tracked ends.tracked
              have repointed := ends.repointed row
              rw [rows, if_neg unwritten] at repointed
              exact repointed listed names
            · have alone := ends.alone
              rw [since] at alone
              cases alone
          · rintro ⟨known, written⟩
            refine .inl ⟨goneNow.tookOne _ issuedNow took, ⟨new, since, ?_⟩, known, ?_⟩
            · rw [rows, if_pos written, newId, ← gates.quiet.nextId]
              exact setEntryAttemptReplacement_named _ _ (tracked known)
            · rw [rows, if_pos written]
              exact setEntryAttemptReplacement_repointed (by omega) _
      · cases notOk
    | error error =>
      obtain ⟨parks, notOk, -⟩ := placeStage_error env gates.tradeId gates.instrument placed rfl
      rcases ends with ⟨ok, -⟩ | ⟨-, sameBook, sameRows, parked⟩
      · rw [notOk] at ok
        cases ok
      · rw [parks.book] at sameBook
        have since : before.placedSince after = before.placedSince { middle with book } := by
          unfold World.placedSince
          rw [sameBook]
        cases submitted with
        | refused same =>
          have alone : before.placedSince { middle with book } = [] :=
            World.placedSince_eq_nil (same.2.trans gates.quiet.nextId)
          have pulled : after.Gone order.id := fun new member =>
            goneNow.calm (.ofSameOrders { middle with book } same rfl) new (sameBook ▸ member)
          rw [ends_of_alone pulled (since.trans alone)]
          exact parked.trans (and_iff_right alone).symm
        | @unreadable status _ took hidden =>
          obtain ⟨new, -, -, -, hides⟩ := World.placedSince_tookOne { middle with book }
            gates.quiet.nextId took
          have rows := parks.calm.attempts plan.tradeId
          by_cases alive : status.live
          · rw [if_pos alive] at hides
            constructor
            · rintro (ends | ends)
              · obtain ⟨row, listed, names⟩ := tracked ends.tracked
                obtain ⟨row', listed', _, _, rfl⟩ := rows.mem_before listed
                rw [← sameRows] at listed'
                exact (ends.repointed _ listed' names).elim
              · have alone := ends.alone
                rw [since, hides] at alone
                cases alone
            · rintro ⟨alone, -⟩
              rw [hides] at alone
              cases alone
          · rw [if_neg alive] at hides
            have pulled : after.Gone order.id := fun other member =>
              goneNow.tookOne { middle with book } issuedNow took other (sameBook ▸ member)
            rw [ends_of_alone pulled (since.trans hides)]
            exact parked.trans (and_iff_right hides).symm

theorem repricePendingOrder_confirmed {env : Env} {ans : Answers} {order : BrokerOrder}
    {action : PendingAction} {now : Int} {world : World} {signedIntent : String} {verified : Verified}
    (resting : world.book.statusOf order.id = some .resting) (acts : action ≠ .hold)
    (reads : ans.store .getOrderBody = true)
    (stored : world.store.orderBodies order.id = some signedIntent)
    (recovered : env.recover signedIntent now = .ok verified) (reply : ans.cancel order.id = .confirmed)
    (enterAns : Answers) (geometry : ParkGeometry) (expiresAt barSeconds : Int) :
    (repricePendingOrder env ans enterAns order action geometry expiresAt barSeconds now world).1 =
      let park := parkRepriced ans order (verified.intent.tradeId.getD (toString order.id)) signedIntent
        verified geometry expiresAt barSeconds now
      if action = .demote then (park .demoted (world.pulled order.id)).1
      else
        let (entered, result) := runEnter env enterAns (repriceCall order.id signedIntent verified now)
          (world.pulled order.id)
        if result.isOk then entered else (park (.replaceFailed result) entered).1 := by
  simp only [repricePendingOrder, acts, if_false, reads, Bool.not_true, Bool.false_eq_true, stored,
    Env.recoverBody, recovered, Book.cancelOrder, resting, reply, World.pulled]
  by_cases demotes : action = .demote
  · simp only [demotes, if_true]
  · simp only [demotes, if_false]
    rcases Bool.eq_false_or_eq_true (runEnter env enterAns
      (repriceCall order.id signedIntent verified now) (world.pulled order.id)).2.isOk with ok | ok
    all_goals simp only [World.pulled] at ok; simp [ok]

/-- A re-price whose cancel is confirmed loses nothing if it is re-driven or parked in full. -/
theorem repriceConfirmed_ends_iff {env : Env} {ans enterAns : Answers} {order : BrokerOrder}
    {action : PendingAction} {geometry : ParkGeometry} {expiresAt barSeconds now : Int} {world : World}
    {signedIntent : String} {verified : Verified} {tradeId : String}
    (found : world.book.order order.id = some order) (resting : order.status = .resting)
    (acts : action ≠ .hold) (reads : ans.store .getOrderBody = true)
    (stored : world.store.orderBodies order.id = some signedIntent)
    (recovered : env.recover signedIntent now = .ok verified) (reply : ans.cancel order.id = .confirmed)
    (own : verified.intent.tradeId.getD (toString order.id) = tradeId) :
    (Kept order world
        (repricePendingOrder env ans enterAns order action geometry expiresAt barSeconds now world).1 ∨
      Replaced tradeId order world
        (repricePendingOrder env ans enterAns order action geometry expiresAt barSeconds now world).1 ∨
      Parked tradeId now order world
        (repricePendingOrder env ans enterAns order action geometry expiresAt barSeconds now world).1) ↔
      if action = .demote then ans.parks ∨ world.ParkedFor tradeId order.id now
      else RedriveSafe env ans enterAns tradeId order.id (repriceCall order.id signedIntent verified now)
        (world.pulled order.id) := by
  have status : world.book.statusOf order.id = some .resting := by simp [Book.statusOf, found, resting]
  have issued : order.id < (world.pulled order.id).book.nextId :=
    world.book.issued order (Book.order_eq_some.mp found).1
  have gone := pulled_gone status
  rw [repricePendingOrder_confirmed status acts reads stored recovered reply, own]
  dsimp only
  split
  · have parks := parkRepriced_parkedFor ans order tradeId signedIntent verified geometry expiresAt
      barSeconds now .demoted (world.pulled order.id)
    have book := parkRepriced_book ans order tradeId signedIntent verified geometry expiresAt barSeconds
      now .demoted (world.pulled order.id)
    generalize (parkRepriced ans order tradeId signedIntent verified geometry expiresAt barSeconds now
      .demoted (world.pulled order.id)).1 = after at parks book ⊢
    have goneAfter : after.Gone order.id := fun new member => gone new (book ▸ member)
    have aloneAfter : world.placedSince after = [] := World.placedSince_eq_nil (by rw [book]; rfl)
    rw [or_iff_right fun kept => kept.not_gone resting goneAfter, ends_of_alone goneAfter aloneAfter]
    exact parks
  · have goneAfter := runEnter_gone env enterAns (repriceCall order.id signedIntent verified now) issued
      gone
    have ends := fun after => redrive_ends_iff env ans enterAns
      (repriceCall order.id signedIntent verified now) after issued gone rfl own
    generalize runEnter env enterAns (repriceCall order.id signedIntent verified now)
      (world.pulled order.id) = entered at goneAfter ends ⊢
    obtain ⟨entered, result⟩ := entered
    dsimp only at goneAfter ends ⊢
    split
    · next ok =>
      rw [or_iff_right fun kept => kept.not_gone resting goneAfter]
      exact (ends_congr world (world.pulled order.id) rfl rfl).trans (ends entered (.inl ⟨ok, rfl⟩))
    · next failed =>
      have parks := parkRepriced_parkedFor ans order tradeId signedIntent verified geometry expiresAt
        barSeconds now (.replaceFailed result) entered
      have book := parkRepriced_book ans order tradeId signedIntent verified geometry expiresAt barSeconds
        now (.replaceFailed result) entered
      have rows := parkRepriced_attempts ans order tradeId signedIntent verified geometry expiresAt
        barSeconds now (.replaceFailed result) entered
      generalize (parkRepriced ans order tradeId signedIntent verified geometry expiresAt barSeconds now
        (.replaceFailed result) entered).1 = after at parks book rows ⊢
      rw [or_iff_right fun kept => kept.not_gone resting fun new member => goneAfter new (book ▸ member)]
      exact (ends_congr world (world.pulled order.id) rfl rfl).trans (ends after (.inr ⟨by simpa using failed, book, rows, parks⟩))

/-- The broker takes the replacement and its answer is lost. -/
def replacementLost : Answers := { place := fun _ => .unreadable (some .resting) "timeout" }

end TradeControl
