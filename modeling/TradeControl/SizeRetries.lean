import TradeControl.PromotionTicks

namespace TradeControl

/-- What one tick of the promotion pass does with a park. -/
inductive ParkStep
  | wait
  | retry
  | drop
  | gone
  deriving DecidableEq

def ParkStep.ofOutcome : Except PromoteError PromoteOutcome → Option ParkStep
  | .ok .nothingParked => some .gone
  | .ok .stillWaiting => some .wait
  | .ok (.promoted _) => some .retry
  | .ok (.dropped _) => some .drop
  | .error _ => none

def parkSteps (env : Env) (tradeId : String) : World → List PromoteTick → List (Option ParkStep)
  | _, [] => []
  | world, tick :: rest =>
    let (after, outcome) := promoteStoredOrder env tick.ans tick.enterAns tradeId tick.check tick.now world
    ParkStep.ofOutcome outcome :: parkSteps env tradeId after rest

section Expected

variable (secs shellTime dropAt : Int)

/-- The bar is later than the one that parked the order, and no earlier tick of it has retried. -/
def Due (retried : List Int) (now : Int) : Prop :=
  bucket shellTime secs < bucket now secs ∧ bucket now secs ∉ retried

instance (retried : List Int) (now : Int) : Decidable (Due secs shellTime retried now) :=
  inferInstanceAs (Decidable (_ ∧ _))

def afterTick (retried : List Int) (now : Int) : List Int :=
  if Due secs shellTime retried now then bucket now secs :: retried else retried

/-- One retry in each later bar that has a tick before the deadline, and a drop at the first tick from it on. -/
def oncePerBar : List Int → List Int → List ParkStep
  | _, [] => []
  | retried, now :: rest =>
    if dropAt ≤ now then .drop :: rest.map fun _ => .gone
    else (if Due secs shellTime retried now then .retry else .wait) ::
      oncePerBar (afterTick secs shellTime retried now) rest

/-- Before each tick up to the one that drops it the park can still be read, its own deadline lies on the same side of
the tick as the first park's, and in a bar that is due it still has a bar clock. -/
def KeepsClock (env : Env) (tradeId : String) : List Int → World → List PromoteTick → Prop
  | _, _, [] => True
  | retried, world, tick :: rest =>
    ∃ park, world.store.storedOrder tick.now tradeId = some park ∧
      if dropAt ≤ tick.now then park.dropAt ≤ tick.now
      else tick.now < park.dropAt ∧ (Due secs shellTime retried tick.now → park.barSeconds ≠ none) ∧
        KeepsClock env tradeId (afterTick secs shellTime retried tick.now)
          (promoteStoredOrder env tick.ans tick.enterAns tradeId tick.check tick.now world).1 rest

end Expected

/-- The entry path gets as far as its placement, and the size floors to nothing there. -/
def floorsToZero (env : Env) (ans : Answers) (call : EnterCall) (world : World) : Bool :=
  match runGates env ans call world with
  | (_, .error _) => false
  | (middle, .ok plan) =>
    match (placeWithRecovery ans plan.resolved call.intent.entryLevelVetos middle.book).2.answer with
    | .error .unitsBelowMinimum => true
    | _ => false

/-- The size floors to nothing again, and the setup is parked again. -/
structure FlooredRetry (env : Env) (ans : Answers) (call : EnterCall) (tradeId : String) (world : World) : Prop where
  floors : floorsToZero env ans call world = true
  named : call.intent.tradeId = some tradeId
  reads : ans.store .getHeld = true
  writes : ans.store .upsertHeld = true

/-- Every tick is served by the store and passes its own time for the bar, and every retry floors again. -/
def RunFloors (env : Env) (tradeId : String) : World → List PromoteTick → Prop
  | _, [] => True
  | world, tick :: rest =>
    (∀ call, tick.ans.store call = true) ∧ tick.check.barTime = some tick.now ∧
      (∀ park, world.store.storedOrder tick.now tradeId = some park →
        storedVerdict park tick.now tick.check = .promote →
          ∃ verified, env.recover park.signedIntent tick.now = .ok verified ∧
            FlooredRetry env tick.enterAns (park.promotion verified tick.now) tradeId
              { world with store := (clearStoredOrder tick.ans tradeId tick.now world.store).1 }) ∧
      RunFloors env tradeId
        (promoteStoredOrder env tick.ans tick.enterAns tradeId tick.check tick.now world).1 rest

/-- The trade's row holds this park, whenever it is read. -/
def World.ParkedAs (world : World) (tradeId : String) (park : StoredOrder) : Prop :=
  ∃ row, world.store.held tradeId = some row ∧ row.value.storedOrders = [park]

section Retry

variable {env : Env} {ans enterAns : Answers} {tradeId : String} {world : World} {park : StoredOrder} {now : Int}
  {check : StoredCheck}

theorem World.ParkedAs.storedOrder (parked : world.ParkedAs tradeId park) (now : Int) :
    world.store.storedOrder now tradeId = none ∨ world.store.storedOrder now tradeId = some park := by
  obtain ⟨row, held, orders⟩ := parked
  unfold Store.storedOrder Store.getHeldTradeRecord
  rw [held, Foundation.readAt_some]
  split
  · exact .inr (by simp [orders])
  · exact .inl rfl

theorem floorsToZero_iff {call : EnterCall} : floorsToZero env ans call world = true ↔
    ∃ plan middle, runGates env ans call world = (middle, .ok plan) ∧
      (placeWithRecovery ans plan.resolved call.intent.entryLevelVetos middle.book).2.answer =
        .error .unitsBelowMinimum := by
  unfold floorsToZero
  rcases runGates env ans call world with ⟨middle, result | plan⟩
  · simp
  · dsimp only
    split
    · next floored => exact iff_of_true rfl ⟨plan, middle, rfl, floored⟩
    · next other =>
      refine iff_of_false Bool.false_ne_true ?_
      rintro ⟨plan', middle', same, floored⟩
      obtain ⟨-, plans⟩ := Prod.mk.inj same
      obtain rfl := Except.ok.inj plans
      obtain rfl := (Prod.mk.inj same).1
      exact other floored

/-- A placement whose size floors to nothing parks the setup in the form of its own fire. -/
theorem FlooredRetry.parked {call : EnterCall} (body : String) (signed : call.rawBody = some body)
    (retry : FlooredRetry env ans call tradeId world) :
    ∃ slDistance tpDistance minR, (runEnter env ans call world).1.ParkedAs tradeId
      (call.storedOrder body .belowMinSize slDistance tpDistance minR) := by
  obtain ⟨plan, middle, passed, floored⟩ := floorsToZero_iff.mp retry.floors
  have named : plan.tradeId = tradeId := by
    rcases runGates_cases env ans call world with ⟨after, result, stopped, -⟩ | ⟨other, last, passed', gates⟩
    · rw [stopped] at passed
      cases passed
    · obtain ⟨-, same⟩ := Prod.mk.inj (passed.symm.trans passed')
      obtain rfl := Except.ok.inj same
      exact Option.some.inj (gates.tradeId.symm.trans retry.named)
  refine ⟨plan.resolved.slDistance, plan.resolved.tpDistance, plan.resolved.minR, ?_⟩
  unfold runEnter
  rw [passed]
  dsimp only
  unfold placeStage
  rcases placed : placeWithRecovery ans plan.resolved call.intent.entryLevelVetos middle.book with ⟨book, placement⟩
  rw [placed] at floored
  dsimp only at floored ⊢
  rw [floored]
  dsimp only
  unfold parkStoredEntry parkOrder
  rw [signed, retry.reads, retry.writes, named]
  exact ⟨_, Function.update_self .., rfl⟩

theorem storedVerdict_size (sized : park.reason = .belowMinSize) (barTime : check.barTime = some now) :
    storedVerdict park now check =
      if park.dropAt ≤ now then .drop
      else if park.isALaterBar (some now) then .promote else .keepWaiting := by
  unfold storedVerdict
  rw [sized, barTime]
  rfl

theorem isALaterBar_unclocked (unclocked : park.barSeconds = none) : park.isALaterBar (some now) = false := by
  unfold StoredOrder.isALaterBar
  rw [unclocked]

theorem isALaterBar_clocked {secs : Int} (clocked : park.barSeconds = some secs) (positive : 0 < secs) :
    park.isALaterBar (some now) = true ↔ bucket park.shellTime secs < bucket now secs := by
  unfold StoredOrder.isALaterBar
  rw [clocked]
  simp [positive]

variable (served : ∀ call, ans.store call = true)
include served

theorem promoteStoredOrder_aged (aged : world.store.storedOrder now tradeId = none) :
    promoteStoredOrder env ans enterAns tradeId check now world = (world, .ok .nothingParked) := by
  unfold promoteStoredOrder
  rw [served, aged]
  rfl

theorem promoteStoredOrder_waits (found : world.store.storedOrder now tradeId = some park)
    (verdict : storedVerdict park now check = .keepWaiting) :
    promoteStoredOrder env ans enterAns tradeId check now world = (world, .ok .stillWaiting) := by
  unfold promoteStoredOrder
  rw [served, found]
  dsimp only
  rw [verdict]
  rfl

theorem clearStoredOrder_served (found : world.store.storedOrder now tradeId = some park) :
    (clearStoredOrder ans tradeId now world.store).2 = true ∧
      (clearStoredOrder ans tradeId now world.store).1.Unparked tradeId := by
  obtain ⟨record, read, -⟩ := storedOrder_eq_some.mp found
  obtain ⟨flag, unparked, -⟩ := clearStoredOrder_cases ans read
  have clears : ans.clearsPark record = true := by
    unfold Answers.clearsPark
    rw [served, served, served]
    simp
  exact ⟨flag.trans clears, unparked clears⟩

theorem promoteStoredOrder_drops (found : world.store.storedOrder now tradeId = some park)
    (verdict : storedVerdict park now check = .drop) :
    (promoteStoredOrder env ans enterAns tradeId check now world).2 = .ok (.dropped "past-drop-at") ∧
      (promoteStoredOrder env ans enterAns tradeId check now world).1.store.Unparked tradeId := by
  obtain ⟨cleared, unparked⟩ := clearStoredOrder_served served found
  have both : clearStoredOrder ans tradeId now world.store =
      ((clearStoredOrder ans tradeId now world.store).1, true) := Prod.ext rfl cleared
  unfold promoteStoredOrder
  rw [served, found]
  dsimp only
  rw [verdict]
  dsimp only
  rw [both]
  exact ⟨rfl, unparked⟩

/-- A retry that floors again leaves the setup parked without a bar clock. -/
theorem promoteStoredOrder_retries {verified : Verified} (found : world.store.storedOrder now tradeId = some park)
    (verdict : storedVerdict park now check = .promote)
    (recovered : env.recover park.signedIntent now = .ok verified)
    (retry : FlooredRetry env enterAns (park.promotion verified now) tradeId
      { world with store := (clearStoredOrder ans tradeId now world.store).1 }) :
    (∃ result, (promoteStoredOrder env ans enterAns tradeId check now world).2 = .ok (.promoted result)) ∧
      ∃ again : StoredOrder, again.reason = .belowMinSize ∧ again.barSeconds = none ∧
        (promoteStoredOrder env ans enterAns tradeId check now world).1.ParkedAs tradeId again := by
  obtain ⟨cleared, -⟩ := clearStoredOrder_served served found
  have both : clearStoredOrder ans tradeId now world.store =
      ((clearStoredOrder ans tradeId now world.store).1, true) := Prod.ext rfl cleared
  obtain ⟨slDistance, tpDistance, minR, parked⟩ := retry.parked park.signedIntent rfl
  unfold promoteStoredOrder
  rw [served, found]
  dsimp only
  rw [verdict]
  dsimp only
  rw [recovered]
  dsimp only
  rw [both]
  exact ⟨⟨_, rfl⟩, _, rfl, rfl, parked⟩

end Retry

section Runs

variable {env : Env} {tradeId : String} {secs shellTime dropAt : Int}

theorem parkSteps_gone {world : World} (unparked : world.store.Unparked tradeId) {ticks : List PromoteTick}
    (floors : RunFloors env tradeId world ticks) :
    parkSteps env tradeId world ticks = ticks.map fun _ => some .gone := by
  induction ticks with
  | nil => rfl
  | cons tick rest ih =>
    obtain ⟨served, -, -, later⟩ := floors
    have aged : promoteStoredOrder env tick.ans tick.enterAns tradeId tick.check tick.now world =
        (world, .ok .nothingParked) := promoteStoredOrder_aged served (unparked.storedOrder tick.now)
    unfold parkSteps
    rw [aged] at later ⊢
    rw [List.map_cons, ← ih later]
    rfl

theorem parkSteps_cons (env : Env) (tradeId : String) (world : World) (tick : PromoteTick)
    (rest : List PromoteTick) : parkSteps env tradeId world (tick :: rest) =
      ParkStep.ofOutcome (promoteStoredOrder env tick.ans tick.enterAns tradeId tick.check tick.now world).2 ::
        parkSteps env tradeId
          (promoteStoredOrder env tick.ans tick.enterAns tradeId tick.check tick.now world).1 rest := rfl

/-- A tick before the park's own deadline drops nothing. -/
theorem ofOutcome_early {world : World} {park : StoredOrder} {tick : PromoteTick} {rest : List PromoteTick}
    (sized : park.reason = .belowMinSize) (found : world.store.storedOrder tick.now tradeId = some park)
    (floors : RunFloors env tradeId world (tick :: rest)) (early : tick.now < park.dropAt) :
    (if park.isALaterBar (some tick.now) then
        ParkStep.ofOutcome
            (promoteStoredOrder env tick.ans tick.enterAns tradeId tick.check tick.now world).2 = some .retry ∧
          ∃ again : StoredOrder, again.reason = .belowMinSize ∧ again.barSeconds = none ∧
            (promoteStoredOrder env tick.ans tick.enterAns tradeId tick.check tick.now world).1.ParkedAs tradeId again
      else promoteStoredOrder env tick.ans tick.enterAns tradeId tick.check tick.now world =
        (world, .ok .stillWaiting)) := by
  obtain ⟨served, barTime, retries, -⟩ := floors
  have verdict := storedVerdict_size sized barTime
  rw [if_neg (not_le.mpr early)] at verdict
  split
  · next later =>
    rw [if_pos later] at verdict
    obtain ⟨verified, recovered, retry⟩ := retries park found verdict
    obtain ⟨⟨result, outcome⟩, again⟩ := promoteStoredOrder_retries served found verdict recovered retry
    rw [outcome]
    exact ⟨rfl, again⟩
  · next same =>
    rw [if_neg same] at verdict
    exact promoteStoredOrder_waits served found verdict

theorem ofOutcome_drop_iff {world : World} {park : StoredOrder} {tick : PromoteTick} {rest : List PromoteTick}
    (sized : park.reason = .belowMinSize) (found : world.store.storedOrder tick.now tradeId = some park)
    (floors : RunFloors env tradeId world (tick :: rest)) :
    ParkStep.ofOutcome (promoteStoredOrder env tick.ans tick.enterAns tradeId tick.check tick.now world).2 =
        some .drop ↔ park.dropAt ≤ tick.now := by
  by_cases early : tick.now < park.dropAt
  · refine iff_of_false ?_ (not_le.mpr early)
    have step := ofOutcome_early sized found floors early
    split at step
    · rw [step.1]
      simp
    · rw [step]
      simp [ParkStep.ofOutcome]
  · obtain ⟨served, barTime, -, -⟩ := floors
    have verdict := storedVerdict_size sized barTime
    rw [if_pos (not_lt.mp early)] at verdict
    have outcome : (promoteStoredOrder env tick.ans tick.enterAns tradeId tick.check tick.now world).2 =
        .ok (.dropped "past-drop-at") := (promoteStoredOrder_drops served found verdict).1
    refine iff_of_true ?_ (not_lt.mp early)
    rw [outcome]
    rfl

theorem unparked_of_drop {world : World} {park : StoredOrder} {tick : PromoteTick} {rest : List PromoteTick}
    (sized : park.reason = .belowMinSize) (found : world.store.storedOrder tick.now tradeId = some park)
    (floors : RunFloors env tradeId world (tick :: rest)) (late : park.dropAt ≤ tick.now) :
    (promoteStoredOrder env tick.ans tick.enterAns tradeId tick.check tick.now world).1.store.Unparked tradeId := by
  obtain ⟨served, barTime, -, -⟩ := floors
  have verdict := storedVerdict_size sized barTime
  rw [if_pos late] at verdict
  exact (promoteStoredOrder_drops served found verdict).2

/-- At a tick that reads the park, the clock is kept by that park or not at all. -/
theorem keepsClock_parked {world : World} {park : StoredOrder} {tick : PromoteTick} {rest : List PromoteTick}
    {shellTime : Int} {retried : List Int} (found : world.store.storedOrder tick.now tradeId = some park) :
    KeepsClock secs shellTime dropAt env tradeId retried world (tick :: rest) ↔
      if dropAt ≤ tick.now then park.dropAt ≤ tick.now
      else tick.now < park.dropAt ∧ (Due secs shellTime retried tick.now → park.barSeconds ≠ none) ∧
        KeepsClock secs shellTime dropAt env tradeId (afterTick secs shellTime retried tick.now)
          (promoteStoredOrder env tick.ans tick.enterAns tradeId tick.check tick.now world).1 rest := by
  rw [KeepsClock, found]
  simp

/-- Once the row has aged out, no tick retries, waits or drops. -/
theorem parkSteps_aged_ne {world : World} {tick : PromoteTick} {rest : List PromoteTick} {shellTime : Int}
    {retried : List Int} (served : ∀ call, tick.ans.store call = true)
    (aged : world.store.storedOrder tick.now tradeId = none) :
    parkSteps env tradeId world (tick :: rest) ≠
      (oncePerBar secs shellTime dropAt retried ((tick :: rest).map (·.now))).map some := by
  have outcome : promoteStoredOrder env tick.ans tick.enterAns tradeId tick.check tick.now world =
      (world, .ok .nothingParked) := promoteStoredOrder_aged served aged
  intro same
  rw [parkSteps_cons, List.map_cons, oncePerBar, outcome] at same
  split at same
  · simp [ParkStep.ofOutcome] at same
  · rw [List.map_cons, List.cons.injEq] at same
    split at same
    · simp [ParkStep.ofOutcome] at same
    · simp [ParkStep.ofOutcome] at same

/-- The ticks of a size park retry it once in each later bar and drop it at its deadline exactly where the park keeps
its bar clock, its deadline and its row up to there. -/
theorem sizePark_iff {world : World} {first park : StoredOrder} {retried : List Int} {ticks : List PromoteTick}
    (clocked : first.barSeconds = some secs) (positive : 0 < secs)
    (phase : (park = first ∧ retried = []) ∨ park.barSeconds = none) (sized : park.reason = .belowMinSize)
    (parked : world.ParkedAs tradeId park) (floors : RunFloors env tradeId world ticks) :
    parkSteps env tradeId world ticks =
        (oncePerBar secs first.shellTime dropAt retried (ticks.map (·.now))).map some ↔
      KeepsClock secs first.shellTime dropAt env tradeId retried world ticks := by
  induction ticks generalizing world park retried with
  | nil => exact iff_of_true rfl trivial
  | cons tick rest ih =>
    rcases parked.storedOrder tick.now with aged | found
    · refine iff_of_false (parkSteps_aged_ne floors.1 aged) fun keeps => ?_
      obtain ⟨other, read, -⟩ := keeps
      rw [aged] at read
      cases read
    · rw [parkSteps_cons, List.map_cons, oncePerBar, keepsClock_parked found]
      by_cases late : dropAt ≤ tick.now
      · rw [if_pos late, if_pos late, List.map_cons, List.cons.injEq, ofOutcome_drop_iff sized found floors]
        refine and_iff_left_of_imp fun dropped => ?_
        rw [parkSteps_gone (unparked_of_drop sized found floors dropped) floors.2.2.2, List.map_map, List.map_map]
        rfl
      · rw [if_neg late, if_neg late, List.map_cons, List.cons.injEq]
        by_cases dropped : park.dropAt ≤ tick.now
        · refine iff_of_false (fun same => ?_) fun keeps => absurd keeps.1 (not_lt.mpr dropped)
          rw [(ofOutcome_drop_iff sized found floors).mpr dropped] at same
          split at same
          · exact absurd same.1 (by simp)
          · exact absurd same.1 (by simp)
        · have early := not_le.mp dropped
          have step := ofOutcome_early sized found floors early
          by_cases due : Due secs first.shellTime retried tick.now
          · rcases phase with ⟨rfl, rfl⟩ | unclocked
            · rw [if_pos ((isALaterBar_clocked clocked positive).mpr due.1)] at step
              obtain ⟨retries, again, againSized, unclocked, parkedAgain⟩ := step
              rw [if_pos due, retries, ih (.inr unclocked) againSized parkedAgain floors.2.2.2]
              simp [early, clocked]
            · rw [isALaterBar_unclocked unclocked, if_neg Bool.false_ne_true] at step
              rw [if_pos due, step]
              refine iff_of_false (fun same => ?_) fun keeps => keeps.2.1 due unclocked
              exact absurd same.1 (by simp [ParkStep.ofOutcome])
          · have waits : promoteStoredOrder env tick.ans tick.enterAns tradeId tick.check tick.now world =
                (world, .ok .stillWaiting) := by
              rcases phase with ⟨rfl, rfl⟩ | unclocked
              · have same : ¬ park.isALaterBar (some tick.now) = true := fun later =>
                  due ⟨(isALaterBar_clocked clocked positive).mp later, List.not_mem_nil⟩
                rwa [if_neg same] at step
              · rwa [isALaterBar_unclocked unclocked, if_neg Bool.false_ne_true] at step
            have stays : afterTick secs first.shellTime retried tick.now = retried := if_neg due
            have later := floors.2.2.2
            rw [waits] at later ⊢
            rw [if_neg due, stays, ih phase sized parked later]
            simp [early, due, ParkStep.ofOutcome]

/-- Over every run of ticks whose retries all floor again, a size park of a plan with a bar clock is retried once in each
later bar and dropped at its deadline exactly where it keeps that clock. -/
theorem sizePark_oncePerBar_iff {world : World} {park : StoredOrder} {ticks : List PromoteTick}
    (sized : park.reason = .belowMinSize) (clocked : park.barSeconds = some secs) (positive : 0 < secs)
    (parked : world.ParkedAs tradeId park) (floors : RunFloors env tradeId world ticks) :
    parkSteps env tradeId world ticks =
        (oncePerBar secs park.shellTime park.dropAt [] (ticks.map (·.now))).map some ↔
      KeepsClock secs park.shellTime park.dropAt env tradeId [] world ticks :=
  sizePark_iff clocked positive (.inl ⟨rfl, rfl⟩) sized parked floors

end Runs

/-- The setup of the second bar, too small for the account. -/
def sizeParked : StoredOrder := { secondParked with reason := .belowMinSize }

def waitsForSize : World where
  store := { held := fun _ => some ⟨{ secondWaits with storedOrders := [sizeParked] }, seconds 72000⟩ }

def tooSmall : Answers := { place := fun _ => .refused .unitsBelowMinimum }

/-- A tick at the start of the third bar, and one at the start of the fourth. -/
def thirdBar : PromoteTick := ⟨{}, tooSmall, ⟨true, some (seconds 7300), true, true⟩, seconds 7300⟩

def fourthBar : PromoteTick := ⟨{}, tooSmall, ⟨true, some (seconds 10900), true, true⟩, seconds 10900⟩

theorem waitsForSize_floors : RunFloors twoBars "trade-1" waitsForSize [thirdBar, fourthBar] := by
  refine ⟨fun _ => rfl, rfl, fun park found verdict => ?_, fun _ => rfl, rfl, fun park found verdict => ?_, trivial⟩
  · have same : waitsForSize.store.storedOrder thirdBar.now "trade-1" = some sizeParked := by decide +kernel
    obtain rfl := Option.some.inj (same.symm.trans found)
    exact ⟨stopEntryAt (seconds 3600), rfl, by decide +kernel, rfl, rfl, rfl⟩
  · have never : ((promoteStoredOrder twoBars thirdBar.ans thirdBar.enterAns "trade-1" thirdBar.check thirdBar.now
        waitsForSize).1.store.storedOrder fourthBar.now "trade-1").all
          (fun park => storedVerdict park fourthBar.now fourthBar.check != .promote) = true := by decide +kernel
    rw [found] at never
    dsimp only [Option.all] at never
    rw [verdict] at never
    cases never

/-- The tick in the third bar finds a park whose clock it may read. -/
theorem thirdBar_keepsClock : KeepsClock 3600 (seconds 3600) (seconds 61200) twoBars "trade-1" [] waitsForSize
    [thirdBar] := by
  have parked : waitsForSize.ParkedAs "trade-1" sizeParked := ⟨_, rfl, rfl⟩
  have floors : RunFloors twoBars "trade-1" waitsForSize [thirdBar] :=
    ⟨waitsForSize_floors.1, waitsForSize_floors.2.1, waitsForSize_floors.2.2.1, trivial⟩
  exact (sizePark_oncePerBar_iff rfl rfl (by decide) parked floors).mp (by decide +kernel)

/-- The retry of the third bar floors to nothing and parks the setup without a bar clock, so the tick in the fourth bar
does not retry it. -/
theorem fourthBar_unretried : RunFloors twoBars "trade-1" waitsForSize [thirdBar, fourthBar] ∧
    parkSteps twoBars "trade-1" waitsForSize [thirdBar, fourthBar] ≠
      (oncePerBar 3600 sizeParked.shellTime sizeParked.dropAt [] [thirdBar.now, fourthBar.now]).map some :=
  ⟨waitsForSize_floors, by decide +kernel⟩

end TradeControl
