import TradeControl.BreachWatch
import TradeControl.Foundation.GuardedReach

namespace TradeControl

open Foundation

/-- The world, and each price a sweep has folded into a row, under the order the row named then. -/
structure WatchState where
  world : World
  observed : List (Nat × Rat)

/-- A turn of the order passes or of the market, or the sweep's turn with one row. -/
inductive WatchEvent
  | order (event : OrderEvent)
  | sweep (ans : SweepAnswers) (tradeId : String) (attemptNo : Nat) (now : Int)

/-- The price a turn of the sweep folded, if it came to that. -/
def SweepEnd.sightings (ending : SweepEnd) (ans : SweepAnswers) (row : EntryAttempt) : List (Nat × Rat) :=
  if ending.heard.head? = some (.lookup (.ok .pending)) then
    (ans.quote .sweep).toList.map fun quote => (row.brokerOrderId, quote.mid)
  else []

def World.sweptRow (world : World) (tradeId : String) (attemptNo : Nat) : Option EntryAttempt :=
  (world.store.listEntryAttempts tradeId).find? (·.attemptNo == attemptNo)

def WatchEvent.step (env : Env) (state : WatchState) : WatchEvent → WatchState
  | .order event => { state with world := event.step env state.world }
  | .sweep ans tradeId attemptNo now =>
    match state.world.sweptRow tradeId attemptNo with
    | none => state
    | some row =>
      let ending := sweepOne env ans now row state.world
      { world := ending.world, observed := state.observed ++ ending.sightings ans row }

/-- A re-placed order's stop is not one that its row is already past. The sweep is free. -/
def WatchEvent.Unpassed (env : Env) (state : WatchState) : WatchEvent → Prop
  | .order event => event.Unpassed env state.world
  | .sweep .. => True

/-- A cancel after a look at the price is owed to a price seen since the order was placed,
at or beyond the stop which that order carries. -/
def WatchEvent.JudgesItsOrder (env : Env) (state : WatchState) (event : WatchEvent) : Prop :=
  match event with
  | .order _ => True
  | .sweep ans tradeId attemptNo now =>
    ∀ row ∈ state.world.sweptRow tradeId attemptNo, ∀ answer,
      (sweepOne env ans now row state.world).heard = [.lookup (.ok .pending), .cancel answer] →
        ∃ order ∈ state.world.book.orders, order.id = row.brokerOrderId ∧ ∃ stop ∈ order.stopLoss,
          ∃ price, (order.id, price) ∈ (event.step env state).observed ∧
            breachDetected row.direction price stop = true

/-- An extreme is past a stop exactly when a price folded into it is. -/
theorem breachDetected_updateAdverseExtreme (direction : Direction) (prior : Option Rat)
    (observed stop : Rat) :
    breachDetected direction (updateAdverseExtreme direction prior observed) stop = true ↔
      (∃ extreme ∈ prior, breachDetected direction extreme stop = true) ∨
        breachDetected direction observed stop = true := by
  cases prior with
  | none => cases direction <;> simp [updateAdverseExtreme]
  | some extreme => cases direction <;> simp [updateAdverseExtreme, breachDetected]

theorem World.Judges.mono {world : World} {observed observed' : List (Nat × Rat)}
    (judges : world.Judges observed) (more : observed ⊆ observed') : world.Judges observed' where
  filed := judges.filed
  numbered := judges.numbered
  issued := judges.issued
  carried := judges.carried
  seen := by
    intro tradeId row listed stop named past
    obtain ⟨price, sighted, beyond⟩ := judges.seen tradeId row listed stop named past
    exact ⟨price, more sighted, beyond⟩

/-- The one row of a trade under a number. -/
theorem World.Judges.row_unique {world : World} {observed : List (Nat × Rat)} (judges : world.Judges observed)
    {tradeId : String} {row other : EntryAttempt} (listed : row ∈ world.store.attempts tradeId)
    (listed' : other ∈ world.store.attempts tradeId) (same : other.attemptNo = row.attemptNo) :
    other = row :=
  List.inj_on_of_nodup_map (judges.numbered tradeId) listed' listed same

theorem World.Judges.deleteEntryAttempt {world : World} {observed : List (Nat × Rat)}
    (judges : world.Judges observed) (tradeId : String) (attemptNo : Nat) :
    ({ world with store := world.store.deleteEntryAttempt tradeId attemptNo } : World).Judges observed := by
  have fewer : ∀ other, List.Sublist ((world.store.deleteEntryAttempt tradeId attemptNo).attempts other)
      (world.store.attempts other) := by
    intro other
    by_cases mine : other = tradeId
    · subst mine
      rw [Store.deleteEntryAttempt, Store.setAttempts_self]
      exact List.filter_sublist
    · rw [Store.deleteEntryAttempt, Store.setAttempts_of_ne world.store mine]
  exact
    { filed := fun other row listed => judges.filed other row ((fewer other).subset listed)
      numbered := fun other => (judges.numbered other).sublist ((fewer other).map _)
      issued := fun other row listed => judges.issued other row ((fewer other).subset listed)
      carried := fun other row listed => judges.carried other row ((fewer other).subset listed)
      seen := fun other row listed => judges.seen other row ((fewer other).subset listed) }

theorem World.Judges.deleteRow {world : World} {observed : List (Nat × Rat)}
    (judges : world.Judges observed) (ans : SweepAnswers) (attempt : EntryAttempt) :
    ({ world with store := deleteRow ans attempt world.store } : World).Judges observed := by
  unfold TradeControl.deleteRow
  split
  · exact judges.deleteEntryAttempt attempt.tradeId attempt.attemptNo
  · exact judges

theorem World.Judges.cancelThenDelete {world : World} {observed : List (Nat × Rat)}
    (judges : world.Judges observed) (ans : SweepAnswers) (attempt : EntryAttempt)
    (heard : List BrokerAnswer) :
    (cancelThenDelete ans attempt world heard).world.Judges observed := by
  have pulled := judges.sameStops
    (cancelOrder_quiet world (ans.cancel attempt.brokerOrderId) attempt.brokerOrderId).sameStops
  exact pulled.deleteRow ans attempt

theorem marketBlackoutAct_sameStops (ans : SweepAnswers) (attempt : EntryAttempt) (world : World) :
    world.SameStops (marketBlackoutAct ans attempt world).1 := by
  have idle : world.SameStops world := .ofSameOrders ⟨rfl, rfl⟩ rfl
  unfold marketBlackoutAct
  split
  · exact idle
  · split
    · exact idle
    · exact idle
    · split
      · exact idle
      · split
        · unfold blackoutCloseCtraderPosition
          split
          · exact idle
          · exact idle
          · split
            · exact idle
            · exact idle
            · split
              · exact idle
              · exact close_sameStops ..
        · unfold blackoutClosePosition
          split
          · exact idle
          · exact idle
          · split
            · exact closePositions_sameStops ..
            · exact idle

/-- The folded extreme is written to the one row it was folded for. -/
theorem World.Judges.persistAdverseExtreme {world : World} {observed : List (Nat × Rat)} {row : EntryAttempt}
    (judges : world.Judges observed) (price : Rat) (ans : SweepAnswers)
    (same : ∀ other ∈ world.store.attempts row.tradeId, other.attemptNo = row.attemptNo →
      row.SameOrder other) :
    ({ world with
        store := persistAdverseExtreme ans row
          (updateAdverseExtreme row.direction row.adverseExtreme price) world.store } : World).Judges
      (observed ++ [(row.brokerOrderId, price)]) := by
  have more := judges.mono (List.subset_append_left observed [(row.brokerOrderId, price)])
  unfold TradeControl.persistAdverseExtreme
  split
  · exact more
  split
  rotate_left
  · exact more
  let change : EntryAttempt → EntryAttempt := fun other =>
    if other.attemptNo = row.attemptNo then
      { other with adverseExtreme := some (updateAdverseExtreme row.direction row.adverseExtreme price) }
    else other
  have keeps : ∀ other, (change other).attemptNo = other.attemptNo ∧
      (change other).tradeId = other.tradeId ∧ (change other).brokerOrderId = other.brokerOrderId ∧
      (change other).stopLossPrice = other.stopLossPrice := by
    intro other
    simp only [change]
    split <;> exact ⟨rfl, rfl, rfl, rfl⟩
  have rows : ∀ tradeId, ∀ new ∈ (world.store.updateAttempts row.tradeId change).attempts tradeId,
      new ∈ world.store.attempts tradeId ∨
        tradeId = row.tradeId ∧ ∃ old ∈ world.store.attempts tradeId, new = change old := by
    intro tradeId new listed
    by_cases mine : tradeId = row.tradeId
    · subst mine
      rw [Store.updateAttempts, Store.setAttempts_self] at listed
      obtain ⟨old, present, rfl⟩ := List.mem_map.mp listed
      exact .inr ⟨rfl, old, present, rfl⟩
    · rw [Store.updateAttempts, Store.setAttempts_of_ne world.store mine] at listed
      exact .inl listed
  change World.Judges ⟨world.store.updateAttempts row.tradeId change, world.book⟩ _
  refine ⟨?_, ?_, ?_, ?_, ?_⟩
  · intro tradeId new listed
    rcases rows tradeId new listed with kept | ⟨-, old, present, rfl⟩
    · exact judges.filed tradeId new kept
    · exact (keeps old).2.1.trans (judges.filed tradeId old present)
  · intro tradeId
    by_cases mine : tradeId = row.tradeId
    · subst mine
      rw [Store.updateAttempts, Store.setAttempts_self, List.map_map]
      have numbers : (·.attemptNo) ∘ change = (·.attemptNo) := funext fun other => (keeps other).1
      rw [numbers]
      exact judges.numbered row.tradeId
    · rw [Store.updateAttempts, Store.setAttempts_of_ne world.store mine]
      exact judges.numbered tradeId
  · intro tradeId new listed
    rcases rows tradeId new listed with kept | ⟨-, old, present, rfl⟩
    · exact judges.issued tradeId new kept
    · rw [(keeps old).2.2.1]
      exact judges.issued tradeId old present
  · intro tradeId new listed order member names
    rcases rows tradeId new listed with kept | ⟨-, old, present, rfl⟩
    · exact judges.carried tradeId new kept order member names
    · rw [(keeps old).2.2.1] at names
      rw [(keeps old).2.2.2]
      exact judges.carried tradeId old present order member names
  · intro tradeId new listed stop named past
    rcases rows tradeId new listed with kept | ⟨rfl, old, present, rfl⟩
    · exact more.seen tradeId new kept stop named past
    by_cases mine : old.attemptNo = row.attemptNo
    · obtain ⟨_, _, rfl⟩ := same old present mine
      obtain ⟨extreme, stored, beyond⟩ := past
      simp only [change, if_pos mine, Option.mem_some_iff] at named stored beyond ⊢
      rw [← stored, breachDetected_updateAdverseExtreme] at beyond
      rcases beyond with earlier | now
      · exact more.seen row.tradeId _ present stop named earlier
      · exact ⟨price, by simp, now⟩
    · have unchanged : change old = old := if_neg mine
      rw [unchanged] at named past ⊢
      exact more.seen row.tradeId old present stop named past

theorem maybeBreachCancel_judges {ans : SweepAnswers} {row : EntryAttempt} {stopLoss : Rat} {world : World}
    {observed : List (Nat × Rat)} (judges : world.Judges observed)
    (listed : row ∈ world.store.attempts row.tradeId) :
    (maybeBreachCancel ans row stopLoss world).world.Judges
      (observed ++ (maybeBreachCancel ans row stopLoss world).sightings ans row) := by
  have quiet := observe_quiet ans.toAnswers row.tradeId (ans.lookup row.brokerOrderId) row world
  unfold maybeBreachCancel
  generalize observe ans.toAnswers row.tradeId (ans.lookup row.brokerOrderId) row world = looked at quiet ⊢
  obtain ⟨after, told⟩ := looked
  have noted := judges.sameStops quiet.sameStops
  have same : ∀ other ∈ after.store.attempts row.tradeId, other.attemptNo = row.attemptNo →
      row.SameOrder other := by
    intro other present number
    obtain ⟨old, present', _, _, rfl⟩ := (quiet.attempts row.tradeId).mem_after present
    rw [judges.row_unique listed present' number]
    exact ⟨_, _, rfl⟩
  by_cases pending : told = .ok .pending
  · subst pending
    cases quoted : ans.quote .sweep with
    | none => simpa [SweepEnd.sightings, quoted] using noted
    | some quote =>
      have persisted := noted.persistAdverseExtreme quote.mid ans same
      by_cases breached : breachDetected row.direction
          (updateAdverseExtreme row.direction row.adverseExtreme quote.mid) stopLoss = true
      · simpa [SweepEnd.sightings, quoted, breached, cancelThenDelete] using
          persisted.cancelThenDelete ans row [.lookup (.ok .pending)]
      · simpa [SweepEnd.sightings, quoted, breached] using persisted
  · split
    · next both => exact absurd (congrArg Prod.snd both) pending
    · next both =>
      cases both
      simpa [SweepEnd.sightings, pending] using noted

/-- The sweep's turn with a listed row keeps the watch over every row. -/
theorem sweepOne_judges {env : Env} {ans : SweepAnswers} {now : Int} {row : EntryAttempt} {world : World}
    {observed : List (Nat × Rat)} (judges : world.Judges observed)
    (listed : row ∈ world.store.attempts row.tradeId) :
    (sweepOne env ans now row world).world.Judges
      (observed ++ (sweepOne env ans now row world).sightings ans row) := by
  have acted := judges.sameStops (marketBlackoutAct_sameStops ans row world)
  have retired : (cancelAndDelete ans row world).world.Judges
      (observed ++ (cancelAndDelete ans row world).sightings ans row) := by
    unfold cancelAndDelete
    split
    · simpa [SweepEnd.sightings] using judges
    · simpa [SweepEnd.sightings, cancelThenDelete] using judges.cancelThenDelete ans row []
  unfold sweepOne
  dsimp only
  split
  · split
    · simpa [SweepEnd.sightings] using acted
    · simpa [SweepEnd.sightings] using judges
  · split
    · exact retired
    · split
      · exact retired
      · split
        · simpa [SweepEnd.sightings] using acted
        · split
          · simpa [SweepEnd.sightings] using judges
          · split
            · simpa [SweepEnd.sightings] using judges
            · exact maybeBreachCancel_judges judges listed

/-- Only a breach makes the sweep look the order up and then cancel it. -/
theorem sweepOne_breach {env : Env} {ans : SweepAnswers} {now : Int} {row : EntryAttempt} {world : World}
    {answer : Except CancelError Unit}
    (heard : (sweepOne env ans now row world).heard = [.lookup (.ok .pending), .cancel answer]) :
    BreachSeen ans row world.book ∧ (sweepOne env ans now row world).sightings ans row =
      (ans.quote .sweep).toList.map fun quote => (row.brokerOrderId, quote.mid) := by
  refine ⟨?_, by rw [SweepEnd.sightings, heard]; rfl⟩
  have retired : (cancelAndDelete ans row world).heard ≠ [.lookup (.ok .pending), .cancel answer] := by
    unfold cancelAndDelete
    split <;> simp [cancelThenDelete]
  have told := observe_answer ans.toAnswers row.tradeId (ans.lookup row.brokerOrderId) row world
  unfold sweepOne at heard
  dsimp only at heard
  split at heard
  · split at heard <;> cases heard
  · split at heard
    · exact absurd heard retired
    · split at heard
      · exact absurd heard retired
      · split at heard
        · cases heard
        · split at heard
          · cases heard
          · next stopLoss stop =>
            split at heard
            · cases heard
            · unfold maybeBreachCancel at heard
              split at heard
              · next reply =>
                rw [reply] at told
                dsimp only at heard
                split at heard
                · cases heard
                · next quote quoted =>
                  split at heard
                  · next breached => exact ⟨told.symm, quote, quoted, stopLoss, stop, breached⟩
                  · cases heard
              · cases heard

theorem WatchEvent.step_judges {env : Env} {state : WatchState} {event : WatchEvent}
    (judges : state.world.Judges state.observed) (unpassed : event.Unpassed env state) :
    (event.step env state).world.Judges (event.step env state).observed := by
  cases event with
  | order event => exact OrderEvent.step_judges judges unpassed
  | sweep ans tradeId attemptNo now =>
    simp only [WatchEvent.step]
    cases found : state.world.sweptRow tradeId attemptNo with
    | none => exact judges
    | some row =>
      have listed : row ∈ state.world.store.attempts tradeId := List.mem_of_find?_eq_some found
      rw [← judges.filed tradeId row listed] at listed
      exact sweepOne_judges judges listed

theorem WatchEvent.judgesItsOrder {env : Env} {state : WatchState} {event : WatchEvent}
    (judges : state.world.Judges state.observed) : event.JudgesItsOrder env state := by
  cases event with
  | order event => trivial
  | sweep ans tradeId attemptNo now =>
    intro row found answer heard
    obtain ⟨⟨resting, quote, quoted, stop, named, breached⟩, sighted⟩ := sweepOne_breach heard
    have listed : row ∈ state.world.store.attempts tradeId := List.mem_of_find?_eq_some found
    obtain ⟨order, placed⟩ : ∃ order, state.world.book.order row.brokerOrderId = some order := by
      cases placed : state.world.book.order row.brokerOrderId with
      | some order => exact ⟨order, rfl⟩
      | none =>
        unfold Book.lookupAttemptState at resting
        rw [placed] at resting
        split at resting <;> cases resting
    have member : order ∈ state.world.book.orders := List.mem_of_find?_eq_some placed
    have names : order.id = row.brokerOrderId := by simpa using List.find?_some placed
    refine ⟨order, member, names, stop, ?_, ?_⟩
    · rw [judges.carried tradeId row listed order member names]
      exact named
    have ended : ((WatchEvent.sweep ans tradeId attemptNo now).step env state).observed =
        state.observed ++ (ans.quote .sweep).toList.map fun quote => (row.brokerOrderId, quote.mid) := by
      simp only [WatchEvent.step]
      rw [show state.world.sweptRow tradeId attemptNo = some row from found]
      dsimp only
      rw [sighted]
    rw [ended, names]
    rcases (breachDetected_updateAdverseExtreme ..).mp breached with earlier | now
    · obtain ⟨price, seen, beyond⟩ := judges.seen tradeId row listed stop named earlier
      exact ⟨price, List.mem_append_left _ seen, beyond⟩
    · refine ⟨quote.mid, ?_, now⟩
      rw [show ans.quote .sweep = some quote from quoted]
      simp

theorem World.Judges.empty : ({} : World).Judges [] where
  filed := by intro tradeId row listed; cases listed
  numbered := fun _ => List.nodup_nil
  issued := by intro tradeId row listed; cases listed
  carried := by intro tradeId row listed; cases listed
  seen := by intro tradeId row listed; cases listed

/-- In every run whose re-placements are not past their stop already, the sweep cancels an order
for a breach only on a price seen since that order was placed. -/
theorem sweep_judgesItsOrder {env : Env} {events : List WatchEvent}
    (unpassed : Along (WatchEvent.step env) (fun state event => event.Unpassed env state) ⟨{}, []⟩ events) :
    Along (WatchEvent.step env) (fun state event => event.JudgesItsOrder env state) ⟨{}, []⟩ events := by
  have preserved : ∀ (state : WatchState) (event : WatchEvent), state.world.Judges state.observed →
      event.Unpassed env state → (event.step env state).world.Judges (event.step env state).observed :=
    fun _ _ => WatchEvent.step_judges
  have meets : ∀ (state : WatchState) (event : WatchEvent), state.world.Judges state.observed →
      event.Unpassed env state → event.JudgesItsOrder env state :=
    fun _ _ judges _ => WatchEvent.judgesItsOrder judges
  exact Along.of_invariant preserved meets World.Judges.empty unpassed

/-- What a turn of the sweep meets when the market is at this price. -/
def marketAt (price : Rat) : SweepAnswers where
  quote := fun _ => some ⟨price, price⟩

/-- `stopEntry` is placed in a wide spread, which moves its stop from 90 to 80; the sweep sees a
low; the spread narrows and order control places the order again at 90; the sweep looks again. -/
def tightened (low : Rat) : List WatchEvent :=
  [.order (.fire { quote := fun _ => some ⟨99, 101⟩ } (stopEntryAt 0) (some "first") none 0),
   .sweep (marketAt low) "trade-1" 1 (seconds 60),
   .order (.reprice {} {} (stopEntryOrder 0) (.adjust 10 2) ⟨10, 30, 1⟩ (seconds 72000) 3600 (seconds 120)),
   .sweep (marketAt 96) "trade-1" 1 (seconds 180)]

def WatchState.after (low : Rat) (turns : Nat) : WatchState :=
  ((tightened low).take turns).foldl (WatchEvent.step twoBars) ⟨{}, []⟩

/-- The low of 95 is not past the tighter stop. -/
theorem sweep_judgesItsOrder_tightened :
    Along (WatchEvent.step twoBars) (fun state event => event.JudgesItsOrder twoBars state) ⟨{}, []⟩
      (tightened 95) := by
  refine sweep_judgesItsOrder ⟨trivial, trivial, ?_, trivial, trivial⟩
  intro signedIntent verified stored recovered old replaced plan passed row listed names past
  have body : (WatchState.after 95 2).world.store.orderBodies 0 = some "first" := by decide +kernel
  obtain rfl : signedIntent = "first" := Option.some.inj (stored.symm.trans body)
  obtain rfl : verified = stopEntryAt 0 := Option.some.inj (parse_of_recover recovered).symm
  have gates : (runGates twoBars {} (repriceCall 0 "first" (stopEntryAt 0) (seconds 120))
      { (WatchState.after 95 2).world with
        book := ((WatchState.after 95 2).world.book.cancelOrder .confirmed 0).1 }).2.toOption.map
          (fun plan => (plan.tradeId, plan.resolved.stopLoss)) = some ("trade-1", 90) := by
    decide +kernel
  have settled := congrArg (fun ended => ended.toOption.map
    (fun plan : PlacementPlan => (plan.tradeId, plan.resolved.stopLoss))) passed
  obtain ⟨trade, stop⟩ := Prod.mk.inj (Option.some.inj (settled.symm.trans gates))
  have rows : ∀ row ∈ (WatchState.after 95 2).world.store.attempts "trade-1",
      row.direction = .long ∧ row.adverseExtreme = some 95 := by decide +kernel
  rw [trade] at listed
  obtain ⟨long, extreme⟩ := rows row listed
  obtain ⟨seen, stored', beyond⟩ := past
  rw [extreme] at stored'
  cases stored'
  rw [long, stop] at beyond
  revert beyond
  decide +kernel

/-- The low of 85 came before the order with the tighter stop was placed, and that order is
cancelled for it: no price of that order's life is at or beyond 90. -/
theorem sweep_judgesEarlierOrder :
    ¬ Along (WatchEvent.step twoBars) (fun state event => event.JudgesItsOrder twoBars state) ⟨{}, []⟩
      (tightened 85) := by
  rintro ⟨-, -, -, judged, -⟩
  have found : ((WatchState.after 85 3).world.sweptRow "trade-1" 1).map
      (fun row => (row.direction, row.brokerOrderId)) = some (.long, 1) := by decide +kernel
  obtain ⟨row, swept, facts⟩ := Option.map_eq_some_iff.mp found
  obtain ⟨long, named⟩ := Prod.mk.inj facts
  have cancels : ((WatchState.after 85 3).world.sweptRow "trade-1" 1).map (fun row =>
      (sweepOne twoBars (marketAt 96) (seconds 180) row (WatchState.after 85 3).world).heard) =
        some [.lookup (.ok .pending), .cancel (.ok ())] := by decide +kernel
  rw [swept] at cancels
  obtain ⟨order, member, names, stop, carried, price, sighted, beyond⟩ :=
    judged row swept _ (Option.some.inj cancels)
  have carries : ∀ order ∈ (WatchState.after 85 3).world.book.orders, order.id = 1 →
      order.stopLoss = some 90 := by decide +kernel
  have sightings : ∀ sighting ∈ (WatchState.after 85 4).observed, sighting.1 = 1 → ¬ sighting.2 ≤ 90 := by
    decide +kernel
  have stop90 : order.stopLoss = some 90 := carries order member (names.trans named)
  rw [show order.stopLoss = some stop from carried, Option.some.injEq] at stop90
  rw [long, stop90] at beyond
  exact sightings _ sighted (names.trans named) (by simpa [breachDetected] using beyond)

end TradeControl
