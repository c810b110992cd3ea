import TradeControl.Quiet
import TradeControl.Recovery

namespace TradeControl

/-- What resolution takes over from the intent, and the geometry it guarantees. -/
structure Resolved.Fits (resolved : Resolved) (intent : Intent) : Prop where
  setupId : resolved.setupId = intent.tradeId.getD intent.id
  instrument : resolved.instrument = intent.instrument
  dryRun : resolved.dryRun = intent.dryRun.getD false
  ordered : inRange resolved.direction resolved.stopLoss resolved.entry.referencePrice
    resolved.takeProfit = true

theorem finishWithSizing_fits {rules : Rules} {intent : Intent} {shell : Shell}
    {pipSize tickSize : Rat} {direction : Direction} {entry : ResolvedEntry} {stopLoss takeProfit : Rat}
    {recoverEntry : Option ResolvedRecoverEntry} {resolved : Resolved}
    (ok : finishWithSizing rules intent shell pipSize tickSize direction entry stopLoss takeProfit
      recoverEntry = .ok resolved) : resolved.Fits intent := by
  unfold finishWithSizing at ok
  simp only [bind, Except.bind, pure, Except.pure, throw, throwThe, MonadExceptOf.throw] at ok
  split at ok
  · cases ok
  · split at ok
    · cases ok
    · next between =>
      have ordered := by simpa only [Bool.not_eq_true', Bool.not_eq_false] using between
      repeat' split at ok
      all_goals first
        | cases ok; done
        | obtain rfl := Except.ok.inj ok
          exact ⟨rfl, rfl, rfl, ordered⟩

theorem fromMwIntent_fits {rules : Rules} {intent : Intent} {shell : Shell} {mw : MwParams}
    {tickSize : Rat} {resolved : Resolved}
    (ok : Resolved.fromMwIntent rules intent shell mw tickSize = .ok resolved) :
    resolved.Fits intent := by
  unfold Resolved.fromMwIntent at ok
  split at ok
  · cases ok
  · dsimp only at ok
    split at ok
    · exact finishWithSizing_fits ok
    · cases ok

theorem fromIntent_fits {rules : Rules} {intent : Intent} {shell : Shell} {pipSize tickSize : Rat}
    {resolved : Resolved}
    (ok : Resolved.fromIntent rules intent shell pipSize tickSize = .ok resolved) :
    resolved.Fits intent := by
  unfold Resolved.fromIntent at ok
  split at ok
  · cases ok
  · split at ok
    · exact fromMwIntent_fits ok
    · split at ok
      all_goals first | cases ok | skip
      simp only [bind, Except.bind] at ok
      repeat' split at ok
      all_goals first | cases ok | exact finishWithSizing_fits ok

theorem resolveEntry_fits {env : Env} {call : EnterCall} {mw : Option MwParams} {resolved : Resolved}
    {cancelAt : Option Int} (ok : resolveEntry env call mw = .ok (resolved, cancelAt)) :
    resolved.Fits call.intent := by
  unfold resolveEntry at ok
  dsimp only at ok
  split at ok
  · cases ok
  · cases ok
  · next found resolution =>
    have fits : found.Fits call.intent := by
      cases mw with
      | some mw => exact fromMwIntent_fits resolution
      | none => exact fromIntent_fits resolution
    repeat' split at ok
    all_goals first | cases ok; done | skip
    obtain ⟨rfl, -⟩ := Prod.mk.inj (Except.ok.inj ok)
    exact fits

theorem entryGates_tradeId {ans : Answers} {call : EnterCall} {store : Store} {tradeId : String}
    (ok : entryGates ans call store = .ok tradeId) : call.intent.tradeId = some tradeId := by
  unfold entryGates at ok
  repeat' split at ok
  all_goals first | cases ok; done | skip
  next present _ _ => rw [present, Except.ok.inj ok]

theorem maybeUpdateMwState_quiet (ans : Answers) (call : EnterCall) (world : World) :
    world.Quiet (maybeUpdateMwState ans call world).1 := by
  unfold maybeUpdateMwState
  split
  · split
    · exact .refl world
    · dsimp only
      split
      · exact .refl world
      · dsimp only
        split <;> exact { World.Quiet.refl world with }
      · have swept := world.settle_quiet (fun order =>
          order.instrument == call.intent.instrument && ans.sweepCancels order.id) (.inr rfl)
        dsimp only
        split <;> split <;> exact { swept with }
  · exact .refl world

theorem dedupBeforePark_quiet (env : Env) (ans : Answers) (call : EnterCall) (world : World) :
    world.Quiet (dedupBeforePark env ans call world).1 := by
  have probed := evaluateAt_quiet env ans call.verified call.now .probe world
  unfold dedupBeforePark
  split
  · exact .refl world
  · split <;> simp_all

def ActionResult.IsRejected (result : ActionResult) : Prop :=
  ∃ status body outcome, result = .rejected status body outcome

theorem ActionResult.IsRejected.not_ok {result : ActionResult} (rejected : result.IsRejected) :
    result.isOk = false := by
  obtain ⟨_, _, _, rfl⟩ := rejected
  rfl

/-- The world with this call's fire parked for its trade, if the park was tried. -/
def World.MaybeParks (ans : Answers) (call : EnterCall) (before after : World) : Prop :=
  after = before ∨ ∃ tradeId body reason slDistance tpDistance minR,
    call.intent.tradeId = some tradeId ∧
    after = { before with
      store := (parkOrder ans tradeId call.intent.instrument (call.intent.pipSize.getD 0)
        (call.storedOrder body reason slDistance tpDistance minR) call.intent.notAfter call.now
        before.store).1 }

theorem World.MaybeParks.book {ans : Answers} {call : EnterCall} {before after : World}
    (parks : before.MaybeParks ans call after) : after.book = before.book := by
  rcases parks with rfl | ⟨_, _, _, _, _, _, -, rfl⟩ <;> rfl

theorem parkStoredEntry_parks (env : Env) (ans : Answers) (call : EnterCall) (reason : StoredReason)
    {tradeId : String} (known : call.intent.tradeId = some tradeId) (slDistance tpDistance minR : Rat)
    (world : World) :
    world.MaybeParks ans call { world with
      store := (parkStoredEntry env ans call reason tradeId call.intent.instrument slDistance tpDistance
        minR world.store).1 } := by
  unfold parkStoredEntry
  split
  · exact .inl rfl
  · next body _ =>
    refine .inr ⟨tradeId, body, reason, slDistance, tpDistance, minR, known, ?_⟩
    dsimp only
    split <;> simp_all

theorem deferEntry_parks (env : Env) (ans : Answers) (call : EnterCall) {tradeId : String}
    (known : call.intent.tradeId = some tradeId) {resolved : Resolved} (fits : resolved.Fits call.intent)
    (reason : StoredReason) (status : Nat) (body outcome : String) (world : World) :
    ∃ middle, world.Quiet middle ∧
      middle.MaybeParks ans call
        (deferEntry env ans call tradeId resolved reason status body outcome world).1 ∧
      (deferEntry env ans call tradeId resolved reason status body outcome world).2.IsRejected := by
  have quiet := dedupBeforePark_quiet env ans call world
  unfold deferEntry
  split
  · next middle rejection probed =>
    rw [probed] at quiet
    refine ⟨middle, quiet, .inl rfl, ?_⟩
    unfold dedupBeforePark at probed
    split at probed
    · cases probed
    · split at probed
      · cases probed
      · cases probed
        exact ⟨_, _, _, rfl⟩
  · next middle probed =>
    rw [probed] at quiet
    refine ⟨middle, quiet, ?_, _, _, _, rfl⟩
    have parks := parkStoredEntry_parks env ans call reason known resolved.slDistance
      resolved.tpDistance resolved.minR middle
    rwa [← fits.instrument] at parks

/-- What is known of a call whose gates all let it through. -/
structure GatesPassed (env : Env) (ans : Answers) (call : EnterCall) (world : World)
    (plan : PlacementPlan) (middle : World) : Prop where
  tradeId : call.intent.tradeId = some plan.tradeId
  setupId : plan.resolved.setupId = plan.tradeId
  instrument : plan.resolved.instrument = call.intent.instrument
  dryRun : plan.resolved.dryRun = call.intent.dryRun.getD false
  quiet : world.Quiet middle
  floored : ∃ mw resolved opened stopLoss,
    (maybeUpdateMwState ans call world).2 = .ok mw ∧
    resolveEntry env call mw = .ok (resolved, plan.cancelAt) ∧
    (spreadFloor env ans call plan.tradeId resolved opened).2 = .ok stopLoss ∧
    plan.drawnStopLoss = resolved.stopLoss ∧ plan.resolved = { resolved with stopLoss }
  attemptNo : (call.gated = false ∧ plan.attemptNo = none) ∨
    (call.gated = true ∧ ∃ opened nextAttemptNo, world.Quiet opened ∧
      evaluateAt env ans call.verified call.now .full opened = (middle, .proceed nextAttemptNo) ∧
      plan.attemptNo = some nextAttemptNo)

theorem blackoutGates_cases (env : Env) (ans : Answers) (call : EnterCall) {tradeId : String}
    (known : call.intent.tradeId = some tradeId) {resolved : Resolved} (fits : resolved.Fits call.intent)
    (world : World) :
    (blackoutGates env ans call tradeId resolved world = (world, none)) ∨
    ∃ after result, blackoutGates env ans call tradeId resolved world = (after, some result) ∧
      ∃ middle, world.Quiet middle ∧ middle.MaybeParks ans call after ∧ result.IsRejected := by
  unfold blackoutGates
  split
  · exact .inl rfl
  · split
    · exact .inr ⟨_, _, rfl, deferEntry_parks env ans call known fits ..⟩
    · split
      · exact .inr ⟨_, _, rfl, world, .refl world, .inl rfl, _, _, _, rfl⟩
      · split
        · dsimp only
          split
          · exact .inr ⟨_, _, rfl, deferEntry_parks env ans call known fits ..⟩
          · exact .inr ⟨_, _, rfl, world, .refl world, .inl rfl, _, _, _, rfl⟩
        · exact .inl rfl

theorem spreadFloor_cases (env : Env) (ans : Answers) (call : EnterCall) {tradeId : String}
    (known : call.intent.tradeId = some tradeId) {resolved : Resolved} (fits : resolved.Fits call.intent)
    (world : World) :
    (∃ stopLoss, spreadFloor env ans call tradeId resolved world = (world, .ok stopLoss)) ∨
    ∃ after result, spreadFloor env ans call tradeId resolved world = (after, .error result) ∧
      ∃ middle, world.Quiet middle ∧ middle.MaybeParks ans call after ∧ result.IsRejected := by
  unfold spreadFloor
  split
  · exact .inl ⟨_, rfl⟩
  · split
    · exact .inl ⟨_, rfl⟩
    · exact .inl ⟨_, rfl⟩
    · exact .inr ⟨_, _, rfl, deferEntry_parks env ans call known fits ..⟩

theorem retryGate_cases (env : Env) (ans : Answers) (call : EnterCall) (world : World) :
    (call.gated = false ∧ retryGate env ans call world = (world, .ok none)) ∨
    call.gated = true ∧
      ((∃ middle nextAttemptNo,
          evaluateAt env ans call.verified call.now .full world = (middle, .proceed nextAttemptNo) ∧
          retryGate env ans call world = (middle, .ok (some nextAttemptNo))) ∨
        ∃ middle result, retryGate env ans call world = (middle, .error result) ∧
          world.Quiet middle ∧ result.IsRejected) := by
  have quiet := evaluateAt_quiet env ans call.verified call.now .full world
  unfold retryGate
  cases gated : call.gated with
  | false => exact .inl ⟨rfl, rfl⟩
  | true =>
    refine .inr ⟨rfl, ?_⟩
    rcases evaluated : evaluateAt env ans call.verified call.now .full world with ⟨middle, outcome⟩
    rw [evaluated] at quiet
    cases outcome with
    | proceed nextAttemptNo => exact .inl ⟨middle, nextAttemptNo, rfl, rfl⟩
    | rejected status message outcome =>
      exact .inr ⟨middle, _, rfl, quiet, _, _, _, rfl⟩

theorem prepGate_rejects (ans : Answers) (call : EnterCall) (store : Store) (slots : List PrepReq) :
    ∀ prev result, prepGate ans call store prev slots = some result → result.IsRejected := by
  induction slots with
  | nil => intro _ _ stopped; cases stopped
  | cons slot rest ih =>
    intro prev result stopped
    unfold prepGate at stopped
    dsimp only at stopped
    split at stopped
    · cases stopped; exact ⟨_, _, _, rfl⟩
    · split at stopped
      · exact ih _ _ stopped
      all_goals cases stopped; exact ⟨_, _, _, rfl⟩

theorem vetoGate_rejects (ans : Answers) (call : EnterCall) (store : Store) (tradeId : String)
    (vetos : List String) :
    ∀ result, vetoGate ans call store tradeId vetos = some result → result.IsRejected := by
  induction vetos with
  | nil => intro _ stopped; cases stopped
  | cons veto rest ih =>
    intro result stopped
    unfold vetoGate at stopped
    split at stopped
    · cases stopped; exact ⟨_, _, _, rfl⟩
    · split at stopped
      · cases stopped; exact ⟨_, _, _, rfl⟩
      · exact ih _ stopped

theorem entryGates_rejects {ans : Answers} {call : EnterCall} {store : Store} {result : ActionResult}
    (stopped : entryGates ans call store = .error result) : result.IsRejected := by
  unfold entryGates at stopped
  split at stopped
  · next paused =>
    cases stopped
    unfold pauseGate at paused
    repeat' split at paused
    all_goals cases paused
    all_goals exact ⟨_, _, _, rfl⟩
  · split at stopped
    · next cooled =>
      cases stopped
      unfold cooldownGate at cooled
      repeat' split at cooled
      all_goals cases cooled
      all_goals exact ⟨_, _, _, rfl⟩
    · split at stopped
      · next unprepared => cases stopped; exact prepGate_rejects _ _ _ _ _ _ unprepared
      · split at stopped
        · cases stopped; exact ⟨_, _, _, rfl⟩
        · split at stopped
          · next vetoed => cases stopped; exact vetoGate_rejects _ _ _ _ _ _ vetoed
          · cases stopped

theorem vetoGate_stops {ans : Answers} {call : EnterCall} {store : Store} {tradeId name : String}
    (vetoed : store.isVetoed call.now tradeId call.intent.instrument name = true) {vetos : List String}
    (listed : name ∈ vetos) : vetoGate ans call store tradeId vetos ≠ none := by
  induction vetos with
  | nil => cases listed
  | cons veto rest ih =>
    unfold vetoGate
    split
    · exact Option.some_ne_none _
    · split
      · exact Option.some_ne_none _
      next clear =>
        rcases List.mem_cons.mp listed with rfl | later
        · exact absurd vetoed clear
        · exact ih later

theorem entryGates_unvetoed {ans : Answers} {call : EnterCall} {store : Store} {tradeId : String}
    (gates : entryGates ans call store = .ok tradeId) :
    vetoGate ans call store tradeId call.intent.vetos = none := by
  unfold entryGates at gates
  repeat' split at gates
  all_goals first | cases gates; done | skip
  next unvetoed =>
    cases gates
    exact unvetoed

theorem entryGates_uncooled {ans : Answers} {call : EnterCall} {store : Store} {tradeId : String}
    (gates : entryGates ans call store = .ok tradeId) :
    store.isCooledDown call.now call.intent.instrument = false := by
  unfold entryGates at gates
  split at gates
  · cases gates
  · split at gates
    · cases gates
    next uncooled =>
      unfold cooldownGate at uncooled
      split at uncooled
      · cases uncooled
      · split at uncooled
        · cases uncooled
        next clear => exact Bool.eq_false_iff.mpr clear

theorem maybeUpdateMwState_rejects {ans : Answers} {call : EnterCall} {world after : World}
    {result : ActionResult} (stopped : maybeUpdateMwState ans call world = (after, .error result)) :
    result.IsRejected := by
  unfold maybeUpdateMwState at stopped
  split at stopped
  · split at stopped
    · cases stopped
    · dsimp only at stopped
      split at stopped
      · cases stopped
      · cases stopped
      · cases stopped
        exact ⟨_, _, _, rfl⟩
  · cases stopped

theorem resolveEntry_rejects {env : Env} {call : EnterCall} {mw : Option MwParams}
    {result : ActionResult} (stopped : resolveEntry env call mw = .error result) :
    result.IsRejected := by
  unfold resolveEntry at stopped
  dsimp only at stopped
  split at stopped
  · cases stopped; exact ⟨_, _, _, rfl⟩
  · cases stopped; exact ⟨_, _, _, rfl⟩
  · split at stopped
    · cases stopped; exact ⟨_, _, _, rfl⟩
    · split at stopped
      · next blocked =>
        cases stopped
        unfold AllowEntryOutcome.rejection at blocked
        split at blocked
        all_goals cases blocked
        all_goals exact ⟨_, _, _, rfl⟩
      · split at stopped
        · next unpulled =>
          cases stopped
          unfold resolveCancelAt at unpulled
          dsimp only at unpulled
          repeat' split at unpulled
          all_goals cases unpulled
          all_goals exact ⟨_, _, _, rfl⟩
        · cases stopped

theorem World.Quiet.declines {ans : Answers} {call : EnterCall} {world before after : World}
    {result : ActionResult} (quiet : world.Quiet before)
    (ends : ∃ middle, before.Quiet middle ∧ middle.MaybeParks ans call after ∧ result.IsRejected) :
    ∃ middle, world.Quiet middle ∧ middle.MaybeParks ans call after ∧ result.IsRejected := by
  obtain ⟨middle, onwards, parks, rejected⟩ := ends
  exact ⟨middle, quiet.trans onwards, parks, rejected⟩

/-- The gates either stop a call quietly, but for a park, or let it through to a placement. -/
theorem runGates_cases (env : Env) (ans : Answers) (call : EnterCall) (world : World) :
    (∃ after result, runGates env ans call world = (after, .error result) ∧
      ∃ middle, world.Quiet middle ∧ middle.MaybeParks ans call after ∧ result.IsRejected) ∨
    ∃ plan middle, runGates env ans call world = (middle, .ok plan) ∧
      GatesPassed env ans call world plan middle := by
  have updated := maybeUpdateMwState_quiet ans call world
  unfold runGates
  split
  · next gated => exact .inl ⟨_, _, rfl, world, .refl world, .inl rfl, entryGates_rejects gated⟩
  · next tradeId gated =>
    have known := entryGates_tradeId gated
    split
    · next after result stopped =>
      rw [stopped] at updated
      exact .inl ⟨_, _, rfl, after, updated, .inl rfl, maybeUpdateMwState_rejects stopped⟩
    · next opened mw went =>
      rw [went] at updated
      split
      · next stopped =>
        exact .inl ⟨_, _, rfl, opened, updated, .inl rfl, resolveEntry_rejects stopped⟩
      · next resolved cancelAt resolution =>
        have fits := resolveEntry_fits resolution
        rcases blackoutGates_cases env ans call known fits opened with
          clear | ⟨after, result, stopped, ends⟩
        · rw [clear]
          dsimp only
          rcases spreadFloor_cases env ans call known fits opened with
            ⟨stopLoss, floored⟩ | ⟨after, result, stopped, ends⟩
          · rw [floored]
            dsimp only
            have setup : resolved.setupId = tradeId := by rw [fits.setupId, known]; rfl
            have floor : ∃ mw resolved' opened' stopLoss',
                (maybeUpdateMwState ans call world).2 = .ok mw ∧
                resolveEntry env call mw = .ok (resolved', cancelAt) ∧
                (spreadFloor env ans call tradeId resolved' opened').2 = .ok stopLoss' ∧
                resolved.stopLoss = resolved'.stopLoss ∧
                { resolved with stopLoss } = { resolved' with stopLoss := stopLoss' } :=
              ⟨mw, resolved, opened, stopLoss, by rw [went], resolution, by rw [floored], rfl, rfl⟩
            rcases retryGate_cases env ans call opened with
              ⟨ungated, passed⟩ | ⟨isGated, ⟨middle, next, evaluated, passed⟩ |
                ⟨middle, result, stopped, quiet, rejected⟩⟩
            · rw [passed]
              exact .inr ⟨_, opened, rfl, known, setup, fits.instrument, fits.dryRun, updated, floor,
                .inl ⟨ungated, rfl⟩⟩
            · rw [passed]
              have walked := evaluateAt_quiet env ans call.verified call.now .full opened
              rw [evaluated] at walked
              exact .inr ⟨_, middle, rfl, known, setup, fits.instrument, fits.dryRun,
                updated.trans walked, floor, .inr ⟨isGated, opened, next, updated, evaluated, rfl⟩⟩
            · rw [stopped]
              exact .inl ⟨_, _, rfl, middle, updated.trans quiet, .inl rfl, rejected⟩
          · rw [stopped]
            exact .inl ⟨_, _, rfl, updated.declines ends⟩
        · rw [stopped]
          exact .inl ⟨_, _, rfl, updated.declines ends⟩

/-- Every call either stops before the broker is asked to place anything, quietly but
for a park, or reaches the placement with its gates behind it. -/
theorem runEnter_cases (env : Env) (ans : Answers) (call : EnterCall) (world : World) :
    (∃ middle, world.Quiet middle ∧ middle.MaybeParks ans call (runEnter env ans call world).1 ∧
      (runEnter env ans call world).2.IsRejected) ∨
    ∃ plan middle, GatesPassed env ans call world plan middle ∧
      runEnter env ans call world = placeStage env ans call plan middle := by
  unfold runEnter
  rcases runGates_cases env ans call world with ⟨after, result, stopped, ends⟩ | ⟨plan, middle, passed, gates⟩
  · rw [stopped]
    exact .inl ends
  · rw [passed]
    exact .inr ⟨plan, middle, gates, rfl⟩

end TradeControl
