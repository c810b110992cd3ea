import TradeControl.OrderSystem
import TradeControl.PlacedSince

namespace TradeControl

/-- The result of a placement behind which an order may stand. -/
def ActionResult.mayPlace : ActionResult → Bool
  | .ok _ | .ambiguousSuccess _ => true
  | .failed _ | .rejected .. => false

/-- A placement that may have gone through touches no held record. -/
theorem runEnter_mayPlace_held (env : Env) (ans : Answers) (call : EnterCall) (world : World)
    (may : (runEnter env ans call world).2.mayPlace = true) :
    (runEnter env ans call world).1.store.held = world.store.held := by
  rcases runEnter_cases env ans call world with ⟨middle, quiet, parks, rejected⟩ | ⟨plan, middle, passed, run⟩
  · obtain ⟨_, _, _, result⟩ := rejected
    rw [result] at may
    cases may
  · rw [run] at may ⊢
    rcases placed : placeWithRecovery ans plan.resolved call.intent.entryLevelVetos middle.book with
      ⟨book, answer, entry, skipReason⟩
    cases answer with
    | ok orderId =>
      obtain ⟨outcome, stage⟩ := placeStage_ok env placed rfl
      rw [stage]
      dsimp only
      split
      · exact passed.quiet.held
      · exact (recordPlaced_held ..).trans passed.quiet.held
    | error error =>
      obtain ⟨-, -, definite | ⟨after, -⟩⟩ :=
        placeStage_error env passed.tradeId passed.instrument placed rfl
      · unfold placeStage at may
        rw [placed] at may
        cases error <;> first | exact absurd rfl (definite _) | cases may
      · rw [after]
        exact passed.quiet.held

/-- Nothing is parked for the trade, whenever its row is read. -/
def Store.Unparked (store : Store) (tradeId : String) : Prop :=
  ∀ row, store.held tradeId = some row → row.value.storedOrders = []

theorem Store.Unparked.storedOrder {store : Store} {tradeId : String} (unparked : store.Unparked tradeId)
    (now : Int) : store.storedOrder now tradeId = none := by
  cases found : store.storedOrder now tradeId with
  | none => rfl
  | some order =>
    obtain ⟨record, read, head⟩ := Option.bind_eq_some_iff.mp found
    obtain ⟨expiresAt, row, -⟩ := Foundation.readAt_eq_some.mp read
    have empty := unparked _ row
    dsimp only at empty
    rw [empty] at head
    cases head

/-- The store calls with which `clear_stored_order` takes the park off this record go through. -/
def Answers.clearsPark (ans : Answers) (record : HeldTradeRecord) : Bool :=
  ans.store .getHeld &&
    if { record with storedOrders := [] }.stillNeeded then ans.store .upsertHeld
    else ans.store .clearHeld

/-- `clear_stored_order` takes the park off, or changes nothing. -/
theorem clearStoredOrder_cases (ans : Answers) {tradeId : String} {now : Int} {store : Store}
    {record : HeldTradeRecord} (read : store.getHeldTradeRecord now tradeId = some record) :
    (clearStoredOrder ans tradeId now store).2 = ans.clearsPark record ∧
      (ans.clearsPark record = true → (clearStoredOrder ans tradeId now store).1.Unparked tradeId) ∧
      (ans.clearsPark record = false → (clearStoredOrder ans tradeId now store).1 = store) := by
  unfold clearStoredOrder Answers.clearsPark
  cases ans.store .getHeld with
  | false => simp
  | true =>
    simp only [read, Bool.not_true, Bool.false_eq_true, if_false, Bool.true_and]
    by_cases needed : { record with storedOrders := [] }.stillNeeded = true
    · simp only [needed, if_true]
      cases ans.store .upsertHeld with
      | false => simp
      | true =>
        refine ⟨rfl, fun _ row present => ?_, by simp⟩
        simp only [Store.upsertHeldTradeRecord, if_true, Function.update_self,
          Option.some.injEq] at present
        rw [← present]
    · simp only [needed, Bool.false_eq_true, if_false]
      cases ans.store .clearHeld with
      | false => simp
      | true =>
        refine ⟨rfl, fun _ row present => ?_, by simp⟩
        simp [Store.clearHeldTradeRecord] at present

/-- A tick that finds nothing parked does nothing. -/
theorem promoteStoredOrder_unparked (env : Env) (ans enterAns : Answers) {tradeId : String}
    (check : StoredCheck) {now : Int} {world : World}
    (unparked : world.store.storedOrder now tradeId = none) :
    (promoteStoredOrder env ans enterAns tradeId check now world).1 = world ∧
      ∀ result, (promoteStoredOrder env ans enterAns tradeId check now world).2 ≠ .ok (.promoted result) := by
  unfold promoteStoredOrder
  split
  · exact ⟨rfl, by simp⟩
  · rw [unparked]
    exact ⟨rfl, by simp⟩

/-- What stands behind a hand-over: the park, found before its deadline and taken off the
record, and the entry path's answer to it. -/
theorem promoteStoredOrder_promoted {env : Env} {ans enterAns : Answers} {tradeId : String}
    {check : StoredCheck} {now : Int} {world : World} {result : ActionResult}
    (promoted : (promoteStoredOrder env ans enterAns tradeId check now world).2 = .ok (.promoted result)) :
    ∃ parked verified, world.store.storedOrder now tradeId = some parked ∧
      storedVerdict parked now check = .promote ∧ env.recover parked.signedIntent now = .ok verified ∧
      (clearStoredOrder ans tradeId now world.store).2 = true ∧
      runEnter env enterAns (parked.promotion verified now)
          { world with store := (clearStoredOrder ans tradeId now world.store).1 } =
        ((promoteStoredOrder env ans enterAns tradeId check now world).1, result) := by
  unfold promoteStoredOrder at promoted ⊢
  split at promoted
  · cases promoted
  · next reads =>
    rw [if_neg reads]
    split at promoted
    · cases promoted
    · next parked found =>
      split at promoted
      · cases promoted
      · split at promoted <;> cases promoted
      · next verdict =>
        split at promoted
        · cases promoted
        · split at promoted <;> cases promoted
        · next verified recovered =>
          split at promoted
          · cases promoted
          · next store cleared =>
            refine ⟨parked, verified, found, verdict, recovered, by rw [cleared], ?_⟩
            dsimp only at promoted ⊢
            obtain rfl := PromoteOutcome.promoted.inj (Except.ok.inj promoted)
            rw [cleared]

/-- After a hand-over that may have placed, nothing is parked for the trade. -/
theorem promoteStoredOrder_mayPlace {env : Env} {ans enterAns : Answers} {tradeId : String}
    {check : StoredCheck} {now : Int} {world : World} {result : ActionResult}
    (promoted : (promoteStoredOrder env ans enterAns tradeId check now world).2 = .ok (.promoted result))
    (may : result.mayPlace = true) :
    (promoteStoredOrder env ans enterAns tradeId check now world).1.store.Unparked tradeId := by
  obtain ⟨parked, verified, found, -, -, cleared, entered⟩ := promoteStoredOrder_promoted promoted
  obtain ⟨record, read, -⟩ := storedOrder_eq_some.mp found
  obtain ⟨flag, unparked, -⟩ := clearStoredOrder_cases ans read
  rw [flag] at cleared
  have held := runEnter_mayPlace_held env enterAns (parked.promotion verified now)
    { world with store := (clearStoredOrder ans tradeId now world.store).1 }
  rw [entered] at held
  intro row present
  rw [held may] at present
  exact unparked cleared row present

/-- One visit of the promotion pass to the trade. -/
structure PromoteTick where
  ans : Answers
  enterAns : Answers
  check : StoredCheck
  now : Int

/-- A park given to the entry path, when, and what came of it. -/
structure Handed where
  park : StoredOrder
  now : Int
  result : ActionResult

/-- Every hand-over of a sequence of ticks, in order. -/
def handed (env : Env) (tradeId : String) : World → List PromoteTick → List Handed
  | _, [] => []
  | world, tick :: rest =>
    let (after, outcome) :=
      promoteStoredOrder env tick.ans tick.enterAns tradeId tick.check tick.now world
    match outcome, world.store.storedOrder tick.now tradeId with
    | .ok (.promoted result), some park => ⟨park, tick.now, result⟩ :: handed env tradeId after rest
    | _, _ => handed env tradeId after rest

theorem handed_unparked (env : Env) {tradeId : String} (ticks : List PromoteTick) :
    ∀ {world : World}, world.store.Unparked tradeId → handed env tradeId world ticks = [] := by
  induction ticks with
  | nil => exact fun _ => rfl
  | cons tick rest ih =>
    intro world unparked
    obtain ⟨same, never⟩ := promoteStoredOrder_unparked env tick.ans tick.enterAns tick.check
      (unparked.storedOrder tick.now)
    unfold handed
    dsimp only
    rw [same]
    split
    · next promoted _ => exact absurd promoted (never _)
    · exact ih unparked

/-- Over a sequence of ticks, a park is handed over only before its deadline, and no more than
one hand-over may place. -/
theorem handed_laws (env : Env) (tradeId : String) (ticks : List PromoteTick) : ∀ world : World,
    (∀ hand ∈ handed env tradeId world ticks, hand.now < hand.park.dropAt) ∧
      ((handed env tradeId world ticks).filter (·.result.mayPlace)).length ≤ 1 := by
  induction ticks with
  | nil => exact fun _ => ⟨by simp [handed], by simp [handed]⟩
  | cons tick rest ih =>
    intro world
    have later := ih
      (promoteStoredOrder env tick.ans tick.enterAns tradeId tick.check tick.now world).1
    unfold handed
    dsimp only
    split
    · next result park promoted found =>
      obtain ⟨parked, _, found', verdict, -⟩ := promoteStoredOrder_promoted promoted
      rw [found] at found'
      cases found'
      have early := before_dropAt_of_promote verdict
      refine ⟨fun hand member => ?_, ?_⟩
      · rcases List.mem_cons.mp member with rfl | member
        · exact early
        · exact later.1 hand member
      · by_cases may : result.mayPlace = true
        · rw [handed_unparked env rest (promoteStoredOrder_mayPlace promoted may)]
          simp [may]
        · rw [List.filter_cons_of_neg (by simpa using may)]
          exact later.2
    · exact later

/-- A tick that neither placed the park nor dropped it left a park with the trade. -/
def KeepsSetup (env : Env) (ans enterAns : Answers) (tradeId : String) (check : StoredCheck) (now : Int)
    (world : World) : Prop :=
  let (after, outcome) := promoteStoredOrder env ans enterAns tradeId check now world
  world.placedSince after = [] → (∀ why, outcome ≠ .ok (.dropped why)) →
    ∃ order, after.store.storedOrder now tradeId = some order

/-- The tick leaves the park alone, or the entry path it hands the park to places an order or
parks the setup itself. -/
def PromotionSafe (env : Env) (ans enterAns : Answers) (tradeId : String) (record : HeldTradeRecord)
    (parked : StoredOrder) (check : StoredCheck) (now : Int) (world : World) : Prop :=
  ans.store .readParked = true → storedVerdict parked now check = .promote →
    ans.clearsPark record = true → ∀ verified, env.recover parked.signedIntent now = .ok verified →
      let entered := (runEnter env enterAns (parked.promotion verified now)
        { world with store := (clearStoredOrder ans tradeId now world.store).1 }).1
      world.placedSince entered ≠ [] ∨ ∃ order, entered.store.storedOrder now tradeId = some order

theorem promoteStoredOrder_kept_iff {env : Env} {ans enterAns : Answers} {tradeId : String}
    {record : HeldTradeRecord} {parked : StoredOrder} {check : StoredCheck} {now : Int} {world : World}
    (read : world.store.getHeldTradeRecord now tradeId = some record)
    (head : record.storedOrders.head? = some parked) (early : now < parked.dropAt) :
    KeepsSetup env ans enterAns tradeId check now world ↔
      PromotionSafe env ans enterAns tradeId record parked check now world := by
  have found : world.store.storedOrder now tradeId = some parked := storedOrder_eq_some.mpr ⟨record, read, head⟩
  obtain ⟨flag, -, unchanged⟩ := clearStoredOrder_cases ans read
  have kept : ∀ outcome : Except PromoteError PromoteOutcome,
      world.placedSince world = [] → (∀ why, outcome ≠ .ok (.dropped why)) →
        ∃ order, world.store.storedOrder now tradeId = some order := fun _ _ _ => ⟨parked, found⟩
  unfold KeepsSetup PromotionSafe promoteStoredOrder
  cases ans.store .readParked with
  | false => exact iff_of_true (kept _) fun reads => by cases reads
  | true =>
    simp only [Bool.not_true, Bool.false_eq_true, if_false, found, forall_const]
    cases verdict : storedVerdict parked now check with
    | keepWaiting => exact iff_of_true (kept _) fun promotes => by cases promotes
    | drop =>
      rw [storedVerdict_drop_iff] at verdict
      omega
    | promote =>
      simp only [forall_const]
      cases clears : ans.clearsPark record with
      | false =>
        have failed : clearStoredOrder ans tradeId now world.store = (world.store, false) :=
          Prod.ext (unchanged clears) (flag.trans clears)
        refine iff_of_true ?_ fun clears => by cases clears
        cases env.recover parked.signedIntent now with
        | ok verified => simp only [failed]; exact kept _
        | expired => simp only [failed]; exact kept _
        | unrecoverable => exact kept _
      | true =>
        have cleared : clearStoredOrder ans tradeId now world.store =
            ((clearStoredOrder ans tradeId now world.store).1, true) := Prod.ext rfl (flag.trans clears)
        simp only [forall_const]
        cases env.recover parked.signedIntent now with
        | unrecoverable => exact iff_of_true (kept _) fun _ ok => by cases ok
        | expired =>
          rw [cleared]
          exact iff_of_true (fun _ undropped => absurd rfl (undropped _)) fun _ ok => by cases ok
        | ok verified =>
          rw [cleared]
          dsimp only
          constructor
          · intro keeps other same
            cases same
            by_cases placed : world.placedSince (runEnter env enterAns (parked.promotion verified now)
                { world with store := (clearStoredOrder ans tradeId now world.store).1 }).1 = []
            · exact .inr (keeps placed fun _ same => by cases same)
            · exact .inl placed
          · intro safe placed _
            exact (safe verified rfl).resolve_left (not_not.mpr placed)

/-- The record of a setup of the second bar that waits for its spread. -/
def secondWaits : HeldTradeRecord :=
  { HeldTradeRecord.fresh "INDEX" 1 (seconds 72000) (seconds 3700) with
    storedOrders := [secondParked] }

/-- The setup waits, and news pauses its trade until the next day. -/
def waitsInPause : World where
  store :=
    { pauses := fun _ => [⟨"news-1", none, seconds 86400⟩]
      held := fun _ => some ⟨secondWaits, seconds 72000⟩ }

/-- What the tick sees once the spread has come down. -/
def spreadDown : StoredCheck := ⟨true, none, true, true⟩

end TradeControl
