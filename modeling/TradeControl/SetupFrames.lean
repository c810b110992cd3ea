import TradeControl.Enter

namespace TradeControl

/-- The tables that tell whether a setup is alive, and its geometry, are as they were. -/
structure Store.SameSetups (before after : Store) : Prop where
  mwStates : after.mwStates = before.mwStates
  vetos : after.vetos = before.vetos

theorem Store.SameSetups.refl (store : Store) : store.SameSetups store := ⟨rfl, rfl⟩

theorem Store.SameSetups.trans {a b c : Store} (first : a.SameSetups b) (second : b.SameSetups c) :
    a.SameSetups c :=
  ⟨second.mwStates.trans first.mwStates, second.vetos.trans first.vetos⟩

section
variable (env : Env) (ans : Answers) (call : EnterCall) (world : World)

theorem observe_setups (tradeId : String) (reply : LookupReply) (attempt : EntryAttempt) :
    world.store.SameSetups (observe ans tradeId reply attempt world).1.store := by
  unfold observe
  dsimp only
  repeat' split
  all_goals exact ⟨rfl, rfl⟩

theorem afterFailedCancel_setups (tradeId : String) (attempt : EntryAttempt) :
    world.store.SameSetups (afterFailedCancel ans tradeId attempt world).1.store := by
  have observed := observe_setups ans world tradeId (ans.relookup attempt.brokerOrderId) attempt
  unfold afterFailedCancel
  split
  all_goals
    next seen =>
      rw [seen] at observed
      exact observed

theorem supersedeResting_setups (tradeId : String) (attempt : EntryAttempt) :
    world.store.SameSetups (supersedeResting ans tradeId attempt world).1.store := by
  unfold supersedeResting
  split
  · dsimp only
    split
    · exact ⟨rfl, rfl⟩
    · exact ⟨rfl, rfl⟩
  next book _ _ => exact afterFailedCancel_setups ans { world with book } tradeId attempt

theorem walkAttempts_setups (mode : GateMode) (tradeId : String) (attempts : List EntryAttempt) :
    world.store.SameSetups (walkAttempts ans mode tradeId world attempts).1.store := by
  induction attempts generalizing world with
  | nil => exact ⟨rfl, rfl⟩
  | cons attempt older ih =>
    have observed := observe_setups ans world tradeId (ans.lookup attempt.brokerOrderId) attempt
    unfold walkAttempts
    split
    next seen =>
      rw [seen] at observed
      split
      · exact observed
      · exact observed.trans (supersedeResting_setups ans _ tradeId attempt)
    all_goals
      next seen =>
        rw [seen] at observed
        first | exact observed | exact observed.trans (ih _)

theorem evaluateAt_setups (verified : Verified) (now : Int) (mode : GateMode) :
    world.store.SameSetups (evaluateAt env ans verified now mode world).1.store := by
  unfold evaluateAt
  split
  · exact ⟨rfl, rfl⟩
  next maxRetries _ =>
    split
    · exact ⟨rfl, rfl⟩
    · split
      · exact ⟨rfl, rfl⟩
      next tradeId _ =>
        split
        · exact ⟨rfl, rfl⟩
        · split
          · exact ⟨rfl, rfl⟩
          · split
            · exact ⟨rfl, rfl⟩
            · dsimp only
              split
              · exact ⟨rfl, rfl⟩
              · have walked := walkAttempts_setups ans world mode tradeId
                  (world.store.listEntryAttempts tradeId).reverse
                split
                all_goals
                  next seen =>
                    rw [seen] at walked
                    exact walked

theorem dedupBeforePark_setups : world.store.SameSetups (dedupBeforePark env ans call world).1.store := by
  have probed := evaluateAt_setups env ans world call.verified call.now .probe
  unfold dedupBeforePark
  split
  · exact ⟨rfl, rfl⟩
  · split
    all_goals
      next seen =>
        rw [seen] at probed
        exact probed

theorem parkOrder_setups (tradeId instrument : String) (pipSize : Rat) (order : StoredOrder)
    (expiresAt now : Int) (store : Store) :
    store.SameSetups (parkOrder ans tradeId instrument pipSize order expiresAt now store).1 := by
  unfold parkOrder
  dsimp only
  split
  · exact ⟨rfl, rfl⟩
  · split
    · exact ⟨rfl, rfl⟩
    · exact ⟨rfl, rfl⟩

theorem parkStoredEntry_setups (reason : StoredReason) (tradeId instrument : String)
    (slDistance tpDistance minR : Rat) (store : Store) :
    store.SameSetups (parkStoredEntry env ans call reason tradeId instrument slDistance tpDistance minR store).1 := by
  unfold parkStoredEntry
  split
  · exact ⟨rfl, rfl⟩
  next body _ =>
    have parked := parkOrder_setups ans tradeId instrument (call.intent.pipSize.getD 0)
      (call.storedOrder body reason slDistance tpDistance minR) call.intent.notAfter call.now store
    dsimp only
    split
    all_goals
      next seen =>
        rw [seen] at parked
        exact parked

theorem deferEntry_setups (tradeId : String) (resolved : Resolved) (reason : StoredReason) (status : Nat)
    (body outcome : String) :
    world.store.SameSetups
      (deferEntry env ans call tradeId resolved reason status body outcome world).1.store := by
  have probed := dedupBeforePark_setups env ans call world
  unfold deferEntry
  split
  next seen =>
    rw [seen] at probed
    exact probed
  next seen =>
    rw [seen] at probed
    exact probed.trans (parkStoredEntry_setups env ans call ..)

theorem blackoutGates_setups (tradeId : String) (resolved : Resolved) :
    world.store.SameSetups (blackoutGates env ans call tradeId resolved world).1.store := by
  unfold blackoutGates
  split
  · exact ⟨rfl, rfl⟩
  · split
    · exact deferEntry_setups ..
    · split
      · exact ⟨rfl, rfl⟩
      · split
        · dsimp only
          split
          · exact deferEntry_setups ..
          · exact ⟨rfl, rfl⟩
        · exact ⟨rfl, rfl⟩

theorem spreadFloor_setups (tradeId : String) (resolved : Resolved) :
    world.store.SameSetups (spreadFloor env ans call tradeId resolved world).1.store := by
  unfold spreadFloor
  split
  · exact ⟨rfl, rfl⟩
  · split
    · exact ⟨rfl, rfl⟩
    · exact ⟨rfl, rfl⟩
    · exact deferEntry_setups ..

theorem retryGate_setups : world.store.SameSetups (retryGate env ans call world).1.store := by
  have walked := evaluateAt_setups env ans world call.verified call.now .full
  unfold retryGate
  split
  · split
    next seen =>
      rw [seen] at walked
      exact walked
  · exact ⟨rfl, rfl⟩

theorem recordPlacement_setups (verified : Verified) (now : Int) (attemptNo orderId : Nat)
    (placement : PlacementRecord) (store : Store) :
    store.SameSetups (recordPlacement ans verified now attemptNo orderId placement store) := by
  unfold recordPlacement
  dsimp only
  repeat' split
  all_goals exact ⟨rfl, rfl⟩

theorem recordPlaced_setups (plan : PlacementPlan) (orderId : Nat) (store : Store) :
    store.SameSetups (recordPlaced ans call plan orderId store) := by
  have repointed : ∀ (store : Store) old, store.SameSetups (if ans.store .setReplacement then
      store.setEntryAttemptReplacement plan.tradeId old orderId (some plan.resolved.stopLoss)
      else store) := by
    intro store old
    split
    · exact ⟨rfl, rfl⟩
    · exact ⟨rfl, rfl⟩
  have kept : ∀ store : Store, store.SameSetups (keepOrderBody ans orderId call.rawBody store) := by
    intro store
    unfold keepOrderBody
    split
    · exact ⟨rfl, rfl⟩
    · split
      · exact ⟨rfl, rfl⟩
      · exact ⟨rfl, rfl⟩
  unfold recordPlaced
  dsimp only
  refine Store.SameSetups.trans ?_ (kept _)
  cases plan.attemptNo with
  | none =>
    cases call.origin.replacedOrderId with
    | none => exact ⟨rfl, rfl⟩
    | some old => exact repointed _ _
  | some attemptNo =>
    have recorded := recordPlacement_setups ans call.verified call.now attemptNo orderId
      { direction := plan.resolved.direction
        stopLoss := plan.resolved.stopLoss
        cancelAt := plan.cancelAt
        orderControl := some
          { originalStopLoss := plan.drawnStopLoss
            takeProfitPrice := plan.resolved.takeProfit
            minR := plan.resolved.minR
            barSeconds := call.granularity } } store
    cases call.origin.replacedOrderId with
    | none => exact recorded
    | some old => exact recorded.trans (repointed _ _)

theorem placeStage_setups (plan : PlacementPlan) :
    world.store.SameSetups (placeStage env ans call plan world).1.store := by
  unfold placeStage
  dsimp only
  split
  · split
    · exact ⟨rfl, rfl⟩
    · exact recordPlaced_setups ..
  · exact parkStoredEntry_setups ..
  · exact ⟨rfl, rfl⟩
  · exact ⟨rfl, rfl⟩

/-- Past the gates and the M/W update, a call leaves the setups alone. -/
theorem runEnter_setups {middle : World} {mw : Option MwParams} {tradeId : String}
    (gates : entryGates ans call world.store = .ok tradeId)
    (updated : maybeUpdateMwState ans call world = (middle, .ok mw)) :
    middle.store.SameSetups (runEnter env ans call world).1.store := by
  have gated : middle.store.SameSetups (runGates env ans call world).1.store := by
    unfold runGates
    rw [gates]
    dsimp only
    rw [updated]
    dsimp only
    split
    · exact ⟨rfl, rfl⟩
    next resolved cancelAt _ =>
      have blackout := blackoutGates_setups env ans call middle tradeId resolved
      split
      next seen =>
        rw [seen] at blackout
        exact blackout
      next after seen =>
        rw [seen] at blackout
        have floored := spreadFloor_setups env ans call after tradeId resolved
        split
        next seen' =>
          rw [seen'] at floored
          exact blackout.trans floored
        next placed _ seen' =>
          rw [seen'] at floored
          have retried := retryGate_setups env ans call placed
          split
          all_goals
            next seen'' =>
              rw [seen''] at retried
              exact (blackout.trans floored).trans retried
  unfold runEnter
  split
  next seen =>
    rw [seen] at gated
    exact gated
  next plan seen =>
    rw [seen] at gated
    exact gated.trans (placeStage_setups env ans call _ plan)

end

end TradeControl
