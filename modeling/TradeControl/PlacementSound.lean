import TradeControl.CalmPasses
import TradeControl.LiveOrders

namespace TradeControl

/-- The attempt is over: its order neither rests nor is open, and the broker says so. -/
def AttemptState.over : AttemptState → Bool
  | .closedWin _ | .closedLossOrBreakeven _ | .closedConfirmed _ | .cancelled => true
  | .pending | .openPosition _ | .unknown => false

theorem lookup_order {book : Book} {reply : LookupReply} {id : Nat} {state : AttemptState}
    (answer : book.lookupAttemptState reply id = .ok state) (known : state ≠ .unknown) :
    ∃ order ∈ book.orders, order.id = id ∧ order.attemptState = state := by
  cases reply with
  | truth =>
    obtain rfl := Except.ok.inj answer
    cases found : book.order id with
    | none => simp [found] at known
    | some order =>
      obtain ⟨member, same⟩ := Book.order_eq_some.mp found
      exact ⟨order, member, same, rfl⟩
  | unknown => exact absurd (Except.ok.inj answer).symm known
  | transient => cases answer

theorem BrokerOrder.over_eq (order : BrokerOrder) : order.attemptState.over = !order.live := by
  unfold attemptState live
  cases order.status with
  | resting => rfl
  | «open» => rfl
  | cancelled => rfl
  | closed =>
    dsimp only
    cases order.realizedPl with
    | none => rfl
    | some pl =>
      dsimp only
      split
      · rfl
      · rfl

/-- What an attempt that is over names is not live. -/
theorem not_live_of_over {book : Book} {reply : LookupReply} {id : Nat} {state : AttemptState}
    (answer : book.lookupAttemptState reply id = .ok state) (ended : state.over) :
    ∀ order ∈ book.orders, order.id = id → ¬ order.live := by
  intro order member same
  have known : state ≠ .unknown := by rintro rfl; cases ended
  obtain ⟨found, present, named, rfl⟩ := lookup_order answer known
  obtain rfl := List.inj_on_of_nodup_map book.distinct present member (named.trans same.symm)
  rw [BrokerOrder.over_eq, Bool.not_eq_true'] at ended
  exact Bool.eq_false_iff.mp ended

/-- A cancel the broker confirms leaves no live order under the id. -/
theorem not_live_of_cancelled {book after : Book} {reply : CancelReply} {id : Nat}
    (cancelled : book.cancelOrder reply id = (after, .ok ())) :
    ∀ order ∈ after.orders, order.id = id → ¬ order.live := by
  unfold Book.cancelOrder at cancelled
  split at cancelled
  · next resting =>
    obtain ⟨rfl, -⟩ := Prod.mk.inj cancelled
    intro order member same
    obtain ⟨old, present, rfl⟩ := List.mem_map.mp member
    rw [BrokerOrder.settleIf_id] at same
    have found := Book.order_eq_some.mpr ⟨present, same⟩
    have rests : old.status = .resting := by simpa [Book.statusOf, found] using resting
    simp [BrokerOrder.settleIf, rests, same, BrokerOrder.live, OrderStatus.live]
  all_goals cases (Prod.mk.inj cancelled).2

/-- Of the orders of one trade, the live ones are the one under this id. -/
def World.OnlyLive (world : World) (tradeId : String) (id : Nat) : Prop :=
  ∀ order ∈ world.book.orders, order.setup = tradeId → order.live → order.id = id

theorem World.OnlyLive.calm {before after : World} {tradeId : String} {id : Nat}
    (only : before.OnlyLive tradeId id) (calm : before.Calm after) : after.OnlyLive tradeId id := by
  intro order member setup alive
  obtain ⟨old, present, fades⟩ := calm.orders.mem_after member
  rw [fades.id]
  exact only old present (fades.setup.symm.trans setup) (fades.live alive)

theorem World.OnlyLive.none {world : World} {tradeId : String} {id : Nat}
    (only : world.OnlyLive tradeId id)
    (gone : ∀ order ∈ world.book.orders, order.id = id → ¬ order.live) : world.NoneLive tradeId :=
  fun order member setup alive => gone order member (only order member setup alive) alive

theorem afterFailedCancel_passed {ans : Answers} {tradeId : String} {attempt : EntryAttempt}
    {world after : World} {superseded : List Nat}
    (passed : afterFailedCancel ans tradeId attempt world = (after, .passed superseded)) :
    ∀ order ∈ after.book.orders, order.id = attempt.brokerOrderId → ¬ order.live := by
  have answer := observe_answer ans tradeId (ans.relookup attempt.brokerOrderId) attempt world
  have same := observe_book ans tradeId (ans.relookup attempt.brokerOrderId) attempt world
  unfold afterFailedCancel at passed
  split at passed
  all_goals rename_i looked
  all_goals rw [looked] at answer same
  · cases (Prod.mk.inj passed).2
  · cases (Prod.mk.inj passed).2
  · cases (Prod.mk.inj passed).2
  · next state _ _ _ =>
    obtain ⟨rfl, -⟩ := Prod.mk.inj passed
    rw [same]
    refine not_live_of_over answer.symm ?_
    cases state <;> simp_all [AttemptState.over]
  · cases (Prod.mk.inj passed).2

theorem supersedeResting_passed {ans : Answers} {tradeId : String} {attempt : EntryAttempt}
    {world after : World} {superseded : List Nat}
    (passed : supersedeResting ans tradeId attempt world = (after, .passed superseded)) :
    ∀ order ∈ after.book.orders, order.id = attempt.brokerOrderId → ¬ order.live := by
  unfold supersedeResting at passed
  split at passed
  · next cancelled =>
    obtain ⟨rfl, -⟩ := Prod.mk.inj passed
    exact not_live_of_cancelled cancelled
  · exact afterFailedCancel_passed passed

/-- The walk's promise: rows that name every live order of a trade, walked to the end,
leave none of them live. -/
theorem walkAttempts_passed {ans : Answers} {tradeId : String} (attempts : List EntryAttempt) :
    ∀ {world after : World} {superseded : List Nat},
      walkAttempts ans .full tradeId world attempts = (after, .passed superseded) →
      (∀ order ∈ world.book.orders, order.setup = tradeId → order.live →
        ∃ row ∈ attempts, row.brokerOrderId = order.id) →
      (∀ row ∈ attempts, ∀ order ∈ world.book.orders, order.id = row.brokerOrderId → order.live →
        world.OnlyLive tradeId order.id) →
      after.NoneLive tradeId := by
  induction attempts with
  | nil =>
    intro world after superseded passed named _
    obtain ⟨rfl, -⟩ := Prod.mk.inj passed
    intro order member setup alive
    obtain ⟨row, listed, -⟩ := named order member setup alive
    cases listed
  | cons attempt older ih =>
    intro world after superseded passed named only
    have quiet := observe_quiet ans tradeId (ans.lookup attempt.brokerOrderId) attempt world
    have answer := observe_answer ans tradeId (ans.lookup attempt.brokerOrderId) attempt world
    have same := observe_book ans tradeId (ans.lookup attempt.brokerOrderId) attempt world
    have walkOlder : ∀ {state looked},
        observe ans tradeId (ans.lookup attempt.brokerOrderId) attempt world = (looked, .ok state) →
        state.over → walkAttempts ans .full tradeId looked older = (after, .passed superseded) →
        after.NoneLive tradeId := by
      intro state looked reply ended rest
      rw [reply] at answer same
      have gone := not_live_of_over answer.symm ended
      dsimp only at same
      refine ih rest ?_ ?_
      · rw [same]
        intro order member setup alive
        obtain ⟨row, listed, names⟩ := named order member setup alive
        rcases List.mem_cons.mp listed with rfl | listed
        · exact absurd alive (gone order member names.symm)
        · exact ⟨row, listed, names⟩
      · unfold World.OnlyLive
        rw [same]
        exact fun row listed => only row (List.mem_cons_of_mem _ listed)
    unfold walkAttempts at passed
    split at passed
    · next looked reply =>
      rw [reply] at answer same quiet
      obtain ⟨order, member, names, state⟩ := lookup_order answer.symm (by simp)
      have resting : order.live := by
        have unended := order.over_eq
        rw [state] at unended
        exact (Bool.not_eq_eq_eq_not.mp unended.symm).trans Bool.not_false
      have onlyThis := only attempt (List.mem_cons_self ..) order member names resting
      rw [names] at onlyThis
      have settled := supersedeResting_quiet ans tradeId attempt looked
      dsimp only at passed
      rw [passed] at settled
      exact (onlyThis.calm (quiet.calm.trans settled.calm)).none (supersedeResting_passed passed)
    · cases (Prod.mk.inj passed).2
    · next reply => exact walkOlder reply rfl passed
    · next reply => exact walkOlder reply rfl passed
    · next reply => exact walkOlder reply rfl passed
    · next reply => exact walkOlder reply rfl passed
    · cases (Prod.mk.inj passed).2
    · cases (Prod.mk.inj passed).2

theorem afterFailedCancel_stopped {ans : Answers} {tradeId : String} {attempt : EntryAttempt}
    {world after : World} {outcome : RetryGateOutcome}
    (stopped : afterFailedCancel ans tradeId attempt world = (after, .stopped outcome)) (no : Nat) :
    outcome ≠ .proceed no := by
  rintro rfl
  unfold afterFailedCancel at stopped
  split at stopped <;> cases (Prod.mk.inj stopped).2

theorem walkAttempts_stopped {ans : Answers} {tradeId : String} {mode : GateMode} (no : Nat)
    (attempts : List EntryAttempt) :
    ∀ {world after : World} {outcome : RetryGateOutcome},
      walkAttempts ans mode tradeId world attempts = (after, .stopped outcome) →
      outcome ≠ .proceed no := by
  induction attempts with
  | nil => intro world after outcome stopped; cases (Prod.mk.inj stopped).2
  | cons attempt older ih =>
    rintro world after outcome stopped rfl
    unfold walkAttempts at stopped
    split at stopped
    · cases mode with
      | probe => cases (Prod.mk.inj stopped).2
      | full =>
        dsimp only at stopped
        unfold supersedeResting at stopped
        split at stopped
        · cases (Prod.mk.inj stopped).2
        · exact afterFailedCancel_stopped stopped no rfl
    · cases (Prod.mk.inj stopped).2
    · exact ih stopped rfl
    · exact ih stopped rfl
    · exact ih stopped rfl
    · exact ih stopped rfl
    · cases (Prod.mk.inj stopped).2
    · cases (Prod.mk.inj stopped).2

/-- What is behind a gate that lets a fire of a trade through: its attempts, walked to
the end. -/
theorem evaluateAt_proceed {env : Env} {ans : Answers} {verified : Verified} {now : Int}
    {mode : GateMode} {world after : World} {tradeId : String} {nextAttemptNo : Nat}
    (known : verified.intent.tradeId = some tradeId)
    (proceed : evaluateAt env ans verified now mode world = (after, .proceed nextAttemptNo)) :
    ∃ superseded,
      walkAttempts ans mode tradeId world (world.store.attempts tradeId).reverse =
        (after, .passed superseded) ∧
      world.store.isRetryFireSeen now tradeId verified.shell.time = false ∧
      nextAttemptNo = TradeControl.nextAttemptNo (world.store.attempts tradeId) := by
  unfold evaluateAt at proceed
  split at proceed
  · cases (Prod.mk.inj proceed).2
  · split at proceed
    · cases (Prod.mk.inj proceed).2
    · rw [known] at proceed
      dsimp only at proceed
      split at proceed
      · cases (Prod.mk.inj proceed).2
      · split at proceed
        · cases (Prod.mk.inj proceed).2
        · next unseen =>
          split at proceed
          · cases (Prod.mk.inj proceed).2
          · split at proceed
            · next backstop =>
              obtain ⟨-, rfl⟩ := Prod.mk.inj proceed
              split at backstop
              · cases backstop
              · unfold openPositionBackstop at backstop
                split at backstop
                · cases backstop
                · split at backstop <;> cases backstop
            · split at proceed
              · next walked =>
                obtain ⟨-, rfl⟩ := Prod.mk.inj proceed
                exact absurd rfl (walkAttempts_stopped nextAttemptNo _ walked)
              · next walked =>
                obtain ⟨rfl, capped⟩ := Prod.mk.inj proceed
                refine ⟨_, walked, by simpa using unseen, ?_⟩
                unfold capPlacements at capped
                dsimp only at capped
                split at capped
                · cases capped
                · exact (RetryGateOutcome.proceed.inj capped).symm

/-- The retry gate lets a fire through only where no order of its trade is live. -/
theorem evaluateAt_noneLive {env : Env} {ans : Answers} {verified : Verified} {now : Int}
    {world after : World} {tradeId : String} {nextAttemptNo : Nat} (sound : world.Sound)
    (known : verified.intent.tradeId = some tradeId)
    (proceed : evaluateAt env ans verified now .full world = (after, .proceed nextAttemptNo)) :
    after.NoneLive tradeId := by
  obtain ⟨superseded, walked, -, -⟩ := evaluateAt_proceed known proceed
  refine walkAttempts_passed _ walked ?_ ?_
  · intro order member setup alive
    obtain ⟨row, listed, names⟩ := sound.named order member alive
    exact ⟨row, List.mem_reverse.mpr (setup ▸ listed), names⟩
  · intro row listed order member names alive other present setup live
    have mine := sound.owned tradeId row (List.mem_reverse.mp listed) order member names
    exact sound.single other present order member live alive (setup.trans mine.symm)

open Foundation

/-- The attempt rows after an order was placed for a trade: those of other trades as they
were, each of its own naming the new order or what an earlier row named. -/
structure Store.RowsFor (tradeId : String) (orderId : Nat) (before after : Store) : Prop where
  others : ∀ other, other ≠ tradeId → after.attempts other = before.attempts other
  rows : ∀ row ∈ after.attempts tradeId, row.brokerOrderId = orderId ∨
    ∃ old ∈ before.attempts tradeId, old.brokerOrderId = row.brokerOrderId

theorem Store.RowsFor.refl (tradeId : String) (orderId : Nat) (store : Store) :
    store.RowsFor tradeId orderId store :=
  ⟨fun _ _ => rfl, fun row listed => .inr ⟨row, listed, rfl⟩⟩

/-- An order placed for a trade that had none alive keeps rows and broker in agreement,
if its row names it wherever it is alive. -/
theorem World.Sound.place {before after : World} {resolved : Resolved} {tradeId : String}
    {status : OrderStatus} (sound : before.Sound) (idle : before.NoneLive tradeId)
    (took : before.book.TookOne resolved status after.book) (setup : resolved.setupId = tradeId)
    (rowsFor : before.store.RowsFor tradeId before.book.nextId after.store)
    (named : status.live → ∃ row ∈ after.store.attempts tradeId, row.brokerOrderId = before.book.nextId) :
    after.Sound := by
  obtain ⟨entry, stake, counted, appended⟩ := took
  have split : ∀ order ∈ after.book.orders, order ∈ before.book.orders ∨
      order = (resolved.request entry).toOrder before.book.nextId stake status := by
    intro order member
    rw [appended] at member
    simpa using member
  have newSetup : ((resolved.request entry).toOrder before.book.nextId stake status).setup = tradeId :=
    setup
  have foreign : ∀ order ∈ before.book.orders, order.live → order.setup ≠ tradeId :=
    fun order member alive same => idle order member same alive
  constructor
  · intro order member alive
    rcases split order member with old | rfl
    · rw [rowsFor.others _ (foreign order old alive)]
      exact sound.named order old alive
    · rw [newSetup]
      exact named alive
  · intro other row listed order member same
    by_cases mine : other = tradeId
    · subst mine
      rcases split order member with old | rfl
      · rcases rowsFor.rows row listed with new | ⟨earlier, before', names⟩
        · exact absurd (same.trans new) (before.book.issued order old).ne
        · exact sound.owned other earlier before' order old (same.trans names.symm)
      · exact newSetup
    · rw [rowsFor.others other mine] at listed
      rcases split order member with old | rfl
      · exact sound.owned other row listed order old same
      · exact absurd same (sound.issued other row listed).ne'
  · intro other row listed
    rw [counted]
    by_cases mine : other = tradeId
    · subst mine
      rcases rowsFor.rows row listed with new | ⟨earlier, before', names⟩
      · omega
      · have := sound.issued other earlier before'
        omega
    · rw [rowsFor.others other mine] at listed
      have := sound.issued other row listed
      omega
  · intro a memberA b memberB aliveA aliveB same
    rcases split a memberA with oldA | rfl <;> rcases split b memberB with oldB | rfl
    · exact sound.single a oldA b oldB aliveA aliveB same
    · exact absurd (same.trans newSetup) (foreign a oldA aliveA)
    · exact absurd (same.symm.trans newSetup) (foreign b oldB aliveB)
    · rfl

theorem recordEntryAttempt_rowsFor (store : Store) (attempt : EntryAttempt) :
    store.RowsFor attempt.tradeId attempt.brokerOrderId (store.recordEntryAttempt attempt) ∧
      attempt ∈ (store.recordEntryAttempt attempt).attempts attempt.tradeId := by
  have rows : (store.recordEntryAttempt attempt).attempts attempt.tradeId =
      (store.attempts attempt.tradeId).filter (·.attemptNo < attempt.attemptNo) ++
        attempt :: (store.attempts attempt.tradeId).filter (attempt.attemptNo < ·.attemptNo) :=
    Store.setAttempts_self ..
  refine ⟨⟨fun other differs => Store.setAttempts_of_ne store differs _, fun row listed => ?_⟩, ?_⟩
  · rw [rows, List.mem_append, List.mem_cons] at listed
    rcases listed with lower | rfl | higher
    · exact .inr ⟨row, List.mem_of_mem_filter lower, rfl⟩
    · exact .inl rfl
    · exact .inr ⟨row, List.mem_of_mem_filter higher, rfl⟩
  · rw [rows]
    simp

theorem setEntryAttemptReplacement_rowsFor (store : Store) (tradeId : String) (oldOrderId newOrderId : Nat)
    (stopLoss : Option Rat) :
    store.RowsFor tradeId newOrderId
      (store.setEntryAttemptReplacement tradeId oldOrderId newOrderId stopLoss) := by
  refine ⟨fun other differs => Store.setAttempts_of_ne store differs _, fun row listed => ?_⟩
  unfold Store.setEntryAttemptReplacement Store.updateAttempts at listed
  rw [Store.setAttempts_self] at listed
  obtain ⟨old, present, rfl⟩ := List.mem_map.mp listed
  split
  · exact .inl rfl
  · exact .inr ⟨old, present, rfl⟩

/-- A row that names the replaced order names the new one after the re-point. -/
theorem setEntryAttemptReplacement_named {store : Store} {tradeId : String} {oldOrderId : Nat}
    (newOrderId : Nat) (stopLoss : Option Rat)
    (named : ∃ row ∈ store.attempts tradeId, row.brokerOrderId = oldOrderId) :
    ∃ row ∈ (store.setEntryAttemptReplacement tradeId oldOrderId newOrderId stopLoss).attempts tradeId,
      row.brokerOrderId = newOrderId := by
  obtain ⟨row, listed, names⟩ := named
  unfold Store.setEntryAttemptReplacement Store.updateAttempts
  rw [Store.setAttempts_self]
  refine ⟨_, List.mem_map_of_mem listed, ?_⟩
  rw [if_pos names]

/-- The placement's bookkeeping goes through, and no unreadable reply hides a live order. -/
structure Answers.Bookkept (ans : Answers) : Prop where
  attempt : ans.store .recordAttempt = true
  replacement : ans.store .setReplacement = true
  hidden : ∀ status, ans.hidden status → ¬ status.live

@[simp] theorem keepOrderBody_attempts (ans : Answers) (orderId : Nat) (body : Option String)
    (store : Store) : (keepOrderBody ans orderId body store).attempts = store.attempts := by
  unfold keepOrderBody
  repeat' split
  all_goals rfl

theorem recordPlacement_attempts {ans : Answers} {verified : Verified} {tradeId : String}
    (known : verified.intent.tradeId = some tradeId) (written : ans.store .recordAttempt = true)
    (now : Int) (attemptNo orderId : Nat) (placement : PlacementRecord) (store : Store) :
    (recordPlacement ans verified now attemptNo orderId placement store).attempts =
      (store.recordEntryAttempt
        (placement.attempt verified tradeId now attemptNo orderId)).attempts := by
  unfold recordPlacement
  rw [known]
  simp only [written, if_true]
  split <;> rfl

theorem Store.RowsFor.congr {tradeId : String} {orderId : Nat} {before after after' : Store}
    (rowsFor : before.RowsFor tradeId orderId after) (same : after'.attempts = after.attempts) :
    before.RowsFor tradeId orderId after' := by
  constructor
  · rw [same]
    exact rowsFor.others
  · rw [same]
    exact rowsFor.rows

/-- The bookkeeping of a gated placement, or of a re-drive whose row is there, leaves a row
that names the new order. -/
theorem recordPlaced_rowsFor {ans : Answers} {call : EnterCall} {plan : PlacementPlan} {store : Store}
    (bookkept : ans.Bookkept) (known : call.intent.tradeId = some plan.tradeId)
    (owner : (∃ attemptNo, plan.attemptNo = some attemptNo ∧ call.origin.replacedOrderId = none) ∨
      (plan.attemptNo = none ∧ ∃ old, call.origin.replacedOrderId = some old ∧
        ∃ row ∈ store.attempts plan.tradeId, row.brokerOrderId = old))
    (orderId : Nat) :
    store.RowsFor plan.tradeId orderId (recordPlaced ans call plan orderId store) ∧
      ∃ row ∈ (recordPlaced ans call plan orderId store).attempts plan.tradeId,
        row.brokerOrderId = orderId := by
  unfold recordPlaced
  dsimp only
  rw [keepOrderBody_attempts]
  rcases owner with ⟨attemptNo, numbered, fresh⟩ | ⟨unnumbered, old, replaces, named⟩
  · rw [numbered, fresh]
    dsimp only
    obtain ⟨rowsFor, listed⟩ := recordEntryAttempt_rowsFor store
      (PlacementRecord.attempt _ call.verified plan.tradeId call.now attemptNo orderId)
    rw [recordPlacement_attempts known bookkept.attempt]
    refine ⟨rowsFor.congr ?_, _, listed, rfl⟩
    rw [keepOrderBody_attempts]
    exact recordPlacement_attempts known bookkept.attempt ..
  · rw [unnumbered, replaces]
    simp only [bookkept.replacement, if_true]
    exact ⟨(setEntryAttemptReplacement_rowsFor ..).congr (keepOrderBody_attempts ..),
      setEntryAttemptReplacement_named orderId (some plan.resolved.stopLoss) named⟩

/-- The row of the order a re-drive replaces is there, and no other row of the trade names a
live order: what the retry gate would have asked. -/
structure World.ClearToRedrive (world : World) (tradeId : String) (old : Nat) : Prop where
  named : ∃ row ∈ world.store.attempts tradeId, row.brokerOrderId = old
  others : ∀ row ∈ world.store.attempts tradeId, row.brokerOrderId ≠ old →
    ∀ order ∈ world.book.orders, order.id = row.brokerOrderId → ¬ order.live

/-- The order under this id neither rests nor is open. -/
def World.Gone (world : World) (id : Nat) : Prop :=
  ∀ order ∈ world.book.orders, order.id = id → ¬ order.live

theorem World.ClearToRedrive.calm {before after : World} {tradeId : String} {old : Nat}
    (clear : before.ClearToRedrive tradeId old) (calm : before.Calm after) :
    after.ClearToRedrive tradeId old where
  named := by
    obtain ⟨row, listed, names⟩ := clear.named
    obtain ⟨row', listed', _, _, rfl⟩ := (calm.attempts tradeId).mem_before listed
    exact ⟨_, listed', names⟩
  others := by
    intro row listed differs order member names alive
    obtain ⟨row', listed', _, _, rfl⟩ := (calm.attempts tradeId).mem_after listed
    obtain ⟨order', member', fades⟩ := calm.orders.mem_after member
    exact clear.others row' listed' differs order' member' (fades.id.symm.trans names) (fades.live alive)

theorem World.Gone.calm {before after : World} {id : Nat} (gone : before.Gone id)
    (calm : before.Calm after) : after.Gone id := by
  intro order member names alive
  obtain ⟨order', member', fades⟩ := calm.orders.mem_after member
  exact gone order' member' (fades.id.symm.trans names) (fades.live alive)

theorem World.Sound.noneLive_of_clear {world : World} {tradeId : String} {old : Nat} (sound : world.Sound)
    (clear : world.ClearToRedrive tradeId old) (gone : world.Gone old) : world.NoneLive tradeId := by
  intro order member setup alive
  obtain ⟨row, listed, names⟩ := sound.named order member alive
  rw [setup] at listed
  by_cases replaced : row.brokerOrderId = old
  · exact gone order member (names.symm.trans replaced) alive
  · exact clear.others row listed replaced order member names.symm alive

theorem World.Calm.ofSameOrders {before : World} (after : World) (same : before.book.SameOrders after.book)
    (attempts : after.store.attempts = before.store.attempts) : before.Calm after where
  orders := by rw [same.1]; exact .refl BrokerOrder.Fades.refl _
  nextId := same.2
  attempts := fun tradeId => by rw [attempts]; exact .refl EntryAttempt.SameOrder.refl _

/-- A call of the entry path keeps rows and broker in agreement if the retry gate judges
it, or if it re-drives an order and the gate would have found nothing alive. -/
theorem runEnter_sound (env : Env) {ans : Answers} {call : EnterCall} {world : World}
    (sound : world.Sound) (bookkept : ans.Bookkept)
    (entry : call.gated = true ∨ ∃ old, call.origin = .replacing old ∧
      ∀ tradeId, call.intent.tradeId = some tradeId →
        world.ClearToRedrive tradeId old ∧ world.Gone old) :
    (runEnter env ans call world).1.Sound := by
  rcases runEnter_cases env ans call world with ⟨middle, quiet, parks, -⟩ | ⟨plan, middle, passed, run⟩
  · exact sound.calm (quiet.calm.trans parks.calm)
  · have known := passed.tradeId
    have middleSound := sound.calm passed.quiet.calm
    have ended := placeStage_cases env ans call plan known passed.instrument middle
    rw [← run] at ended
    have ready : middle.NoneLive plan.tradeId ∧
        ((∃ attemptNo, plan.attemptNo = some attemptNo ∧ call.origin.replacedOrderId = none) ∨
          (plan.attemptNo = none ∧ ∃ old, call.origin.replacedOrderId = some old ∧
            ∃ row ∈ middle.store.attempts plan.tradeId, row.brokerOrderId = old)) := by
      rcases passed.attemptNo with ⟨ungated, unnumbered⟩ | ⟨gated, opened, no, quiet, proceed, numbered⟩
      · rcases entry with gated | ⟨old, replaces, clear⟩
        · rw [gated] at ungated
          cases ungated
        · obtain ⟨clearNow, gone⟩ := clear plan.tradeId known
          obtain ⟨row, listed, names⟩ := clearNow.named
          obtain ⟨row', listed', _, _, rfl⟩ := (passed.quiet.attempts plan.tradeId).mem_before listed
          refine ⟨(sound.noneLive_of_clear clearNow gone).calm passed.quiet.calm,
            .inr ⟨unnumbered, old, by rw [replaces]; rfl, _, listed', names⟩⟩
      · refine ⟨evaluateAt_noneLive (sound.calm quiet.calm) known proceed, .inl ⟨no, numbered, ?_⟩⟩
        unfold EnterCall.gated at gated
        cases origin : call.origin <;> simp_all [EntryOrigin.skipsRetryGate, EntryOrigin.replacedOrderId]
    obtain ⟨idle, owner⟩ := ready
    generalize runEnter env ans call world = ending at ended ⊢
    obtain ⟨after, result⟩ := ending
    cases ended with
    | refused same parks =>
      exact middleSound.calm ((World.Calm.ofSameOrders { middle with book := after.book } same
        rfl).trans parks.calm)
    | dryRun same kept => exact middleSound.calm (.ofSameOrders after same (by rw [kept]))
    | accepted took kept =>
      obtain ⟨rowsFor, named⟩ := recordPlaced_rowsFor bookkept known owner middle.book.nextId
      rw [← kept] at rowsFor named
      exact middleSound.place idle took passed.setupId rowsFor fun _ => named
    | unreadable took kept hidden =>
      refine middleSound.place idle took passed.setupId ?_ fun alive =>
        absurd alive (bookkept.hidden _ hidden)
      dsimp only at kept
      rw [kept]
      exact .refl ..

end TradeControl
