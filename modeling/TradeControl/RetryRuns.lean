import TradeControl.RetryAccounts
import TradeControl.SweepRuns

namespace TradeControl

open Foundation

/-- How the broker takes a placement that the gate let through. -/
structure Acceptance where
  record : PlacementRecord
  request : EntryRequest
  stake : Rat
  status : OrderStatus

/-- A fire that asks the gate in full mode and places, if it may and the broker takes it; the
sweep's turn with one row; or a move of the market or of another pass on one order. -/
inductive GateEvent
  | fire (ans : Answers) (verified : Verified) (now : Int) (accepted : Option Acceptance)
  | sweep (ans : SweepAnswers) (tradeId : String) (attemptNo : Nat) (now : Int)
  | fill (id : Nat)
  | cancel (id : Nat)
  | close (id : Nat) (realizedPl : Option Rat)

def GateEvent.step (env : Env) (world : World) : GateEvent → World
  | .fire ans verified now accepted =>
    match evaluateAt env ans verified now .full world, accepted with
    | (world, .proceed nextAttemptNo), some taken =>
      { store := recordPlacement ans verified now nextAttemptNo world.book.nextId taken.record world.store
        book := world.book.accept taken.request taken.stake taken.status }
    | (world, _), _ => world
  | .sweep ans tradeId attemptNo now =>
    match world.sweptRow tradeId attemptNo with
    | none => world
    | some row => (sweepOne env ans now row world).world
  | .fill id => { world with book := world.book.fill id }
  | .cancel id => { world with book := world.book.expire id }
  | .close id realizedPl => { world with book := world.book.close id realizedPl }

/-- Every fire of the trade resolves the same cap, and its mark of a superseded row is written. -/
def GateEvent.OfTrade (env : Env) (tradeId : String) (cap : Nat) : GateEvent → Prop
  | .fire ans verified _ _ => verified.intent.tradeId = some tradeId →
      env.rules.resolveNat verified.shell verified.intent.maxRetries = .ok cap ∧
        ans.store .setSuperseded = true
  | .sweep .. | .fill _ | .cancel _ | .close .. => True

/-- What the gate keeps to when a fire of the trade asks it. -/
structure GateAccounts (env : Env) (ans : Answers) (verified : Verified) (now : Int) (tradeId : String)
    (world : World) : Prop where
  /-- An order it withdrew itself is owed its replacement. -/
  replaced : ∀ id, world.book.statusOf id = some .resting → ans.cancel id = .confirmed →
    (evaluateAt env ans verified now .full world).1.book.statusOf id = some .cancelled →
      ∃ no, (evaluateAt env ans verified now .full world).2 = .proceed no
  /-- No number is handed out twice. -/
  fresh : ∀ mode no, (evaluateAt env ans verified now mode world).2 = .proceed no →
    ∀ row ∈ world.store.attempts tradeId, row.attemptNo ≠ no
  /-- A probe asks the broker for no cancel: it hears none and the book stays. -/
  probeIdle : (evaluateAt env ans verified now .probe world).1.book = world.book ∧
    ∀ cancel, evaluateAt env { ans with cancel } verified now .probe world =
      evaluateAt env ans verified now .probe world
  /-- A probe lets through what the full gate lets through however a cancel would go. -/
  probeProceeds : ∀ no, (evaluateAt env ans verified now .probe world).2 = .proceed no ↔
    ∀ cancel, (evaluateAt env { ans with cancel } verified now .full world).2 = .proceed no ∧
      (evaluateAt env { ans with cancel } verified now .full world).1.book = world.book

/-- A cancel that fails with the order left resting ends the walk. -/
theorem supersedeResting_failed (ans : Answers) (tradeId : String) {attempt : EntryAttempt} {world : World}
    (resting : world.book.statusOf attempt.brokerOrderId = some .resting)
    (failed : ans.cancel attempt.brokerOrderId = .failed) :
    ∃ after outcome, supersedeResting ans tradeId attempt world = (after, .stopped outcome) ∧
      ∀ no, outcome ≠ .proceed no := by
  have left : world.book.cancelOrder (ans.cancel attempt.brokerOrderId) attempt.brokerOrderId =
      (world.book, .error .transient) := by
    simp [Book.cancelOrder, resting, failed]
  have answer := observe_answer ans tradeId (ans.relookup attempt.brokerOrderId) attempt world
  have told : world.book.lookupAttemptState (ans.relookup attempt.brokerOrderId) attempt.brokerOrderId =
        .ok .pending ∨
      world.book.lookupAttemptState (ans.relookup attempt.brokerOrderId) attempt.brokerOrderId =
        .ok .unknown ∨
      world.book.lookupAttemptState (ans.relookup attempt.brokerOrderId) attempt.brokerOrderId =
        .error .transient := by
    cases ans.relookup attempt.brokerOrderId with
    | truth =>
      obtain ⟨order, found, status⟩ := Option.map_eq_some_iff.mp resting
      simp [Book.lookupAttemptState, found, BrokerOrder.attemptState, status]
    | unknown => simp [Book.lookupAttemptState]
    | transient => simp [Book.lookupAttemptState]
  unfold supersedeResting
  rw [left]
  dsimp only
  unfold afterFailedCancel
  rw [← answer] at told
  generalize observe ans tradeId (ans.relookup attempt.brokerOrderId) attempt world = looked at told
  obtain ⟨after, state⟩ := looked
  dsimp only at told
  rcases told with rfl | rfl | rfl
  · exact ⟨_, _, rfl, by simp [priorAttemptUnknown]⟩
  · exact ⟨_, _, rfl, by simp [priorAttemptUnknown]⟩
  · exact ⟨_, _, rfl, by simp [brokerTransient]⟩

theorem Book.settle_other {book : Book} {id other : Nat} (differs : other ≠ id) (status : OrderStatus) :
    (book.settle (·.id == id) status).statusOf other = book.statusOf other := by
  unfold Book.settle Book.statusOf
  rw [Book.order_rewrite, Option.map_map]
  cases found : book.order other with
  | none => rfl
  | some order =>
    obtain ⟨-, named⟩ := Book.order_eq_some.mp found
    have spared : ¬ order.id = id := by rwa [named]
    simp [BrokerOrder.settleIf, spared]

theorem cancelOrder_other {book : Book} {reply : CancelReply} {id other : Nat} (differs : other ≠ id) :
    (book.cancelOrder reply id).1.statusOf other = book.statusOf other := by
  unfold Book.cancelOrder
  split
  · exact Book.settle_other differs _
  · rfl
  · exact Book.settle_other differs _
  · exact Book.settle_other differs _
  · rfl

/-- Leaving one placement that counts out of the count makes room. -/
theorem countP_without_lt {attempt : EntryAttempt} (counts : attempt.superseded = false)
    {rows : List EntryAttempt} (member : attempt ∈ rows) :
    rows.countP (fun row => !row.superseded && row.attemptNo ∉ [attempt.attemptNo]) < placements rows := by
  unfold placements
  induction rows with
  | nil => cases member
  | cons first rest ih =>
    rw [List.countP_cons, List.countP_cons]
    have fewer : rest.countP (fun row => !row.superseded && row.attemptNo ∉ [attempt.attemptNo]) ≤
        rest.countP fun row => !row.superseded :=
      List.countP_mono_left fun row _ both => (Bool.and_eq_true_iff.mp both).1
    rcases List.mem_cons.mp member with rfl | later
    · have skipped : (!attempt.superseded && decide (attempt.attemptNo ∉ [attempt.attemptNo])) = false := by
        simp
      have counted : (!attempt.superseded) = true := by simp [counts]
      rw [skipped, if_neg Bool.false_ne_true, if_pos counted]
      omega
    · have drop := ih later
      have same : (!first.superseded && decide (first.attemptNo ∉ [attempt.attemptNo])) = true →
          (!first.superseded) = true := fun both => (Bool.and_eq_true_iff.mp both).1
      split
      · next both =>
        rw [if_pos (same both)]
        omega
      · omega

/-- What the gate answers to the end of its walk over the attempts. -/
def gateAnswer (cap : Nat) (attempts : List EntryAttempt) : World × WalkEnd → World × RetryGateOutcome
  | (after, .stopped outcome) => (after, outcome)
  | (after, .passed superseded) => (after, capPlacements cap attempts superseded)

/-- The gate keeps its accounts wherever the books of the trade are in order. -/
theorem World.Counted.gateAccounts {env : Env} {ans : Answers} {verified : Verified} {now : Int}
    {world : World} {tradeId : String} {cap : Nat} (counted : world.Counted tradeId cap)
    (known : verified.intent.tradeId = some tradeId)
    (resolves : env.rules.resolveNat verified.shell verified.intent.maxRetries = .ok cap) :
    GateAccounts env ans verified now tradeId world := by
  have fresh : ∀ mode no, (evaluateAt env ans verified now mode world).2 = .proceed no →
      ∀ row ∈ world.store.attempts tradeId, row.attemptNo ≠ no := by
    intro mode no proceed row listed
    rcases asked : evaluateAt env ans verified now mode world with ⟨after, outcome⟩
    rw [asked] at proceed
    obtain rfl : outcome = .proceed no := proceed
    obtain ⟨-, -, -, rfl⟩ := evaluateAt_proceed known asked
    have lower := lt_nextAttemptNo listed
    omega
  have split : GateSplit env ans verified now tradeId cap world := evaluateAt_split known resolves world
  cases split with
  | refuses outcome refusal gate =>
    have full : evaluateAt env ans verified now .full world = (world, outcome) := gate ans.cancel .full
    have probe : evaluateAt env ans verified now .probe world = (world, outcome) := gate ans.cancel .probe
    refine ⟨?_, fresh, ⟨by rw [probe], fun cancel => (gate cancel .probe).trans probe.symm⟩, ?_⟩
    · intro id resting _ gone
      rw [full, resting] at gone
      cases gone
    · intro no
      rw [probe]
      refine iff_of_false (refusal no) fun always => refusal no ?_
      have proceeds := (always ans.cancel).1
      rwa [full] at proceeds
  | walks gate =>
    cases walkAttempts_split ans tradeId (world.store.attempts tradeId).reverse world with
    | lookedUp noted ended notes settled walks =>
      have any : ∀ cancel mode, evaluateAt env { ans with cancel } verified now mode world =
          match ended with
          | .stopped outcome => (noted, outcome)
          | .passed superseded =>
            (noted, capPlacements cap (world.store.attempts tradeId) superseded) := by
        intro cancel mode
        rw [gate, walks]
        cases ended <;> rfl
      have book : ∀ cancel mode,
          (evaluateAt env { ans with cancel } verified now mode world).1.book = world.book := by
        intro cancel mode
        rw [any, ← notes.book]
        cases ended <;> rfl
      refine ⟨?_, fresh, ⟨book ans.cancel .probe, fun cancel =>
        (any cancel .probe).trans (any ans.cancel .probe).symm⟩, ?_⟩
      · intro id resting _ gone
        have same : (evaluateAt env ans verified now .full world).1.book = world.book :=
          book ans.cancel .full
        rw [same, resting] at gone
        cases gone
      · intro no
        have probe : evaluateAt env ans verified now .probe world = _ := any ans.cancel .probe
        rw [probe]
        constructor
        · exact fun proceeds cancel => ⟨by rw [any]; exact proceeds, book cancel .full⟩
        · intro always
          have proceeds := (always ans.cancel).1
          rwa [any] at proceeds
    | rests noted attempt notes member resting probes supersedes =>
      have attemptListed := List.mem_reverse.mp member
      have probe : ∀ cancel, evaluateAt env { ans with cancel } verified now .probe world =
          (noted, orderResting) := by
        intro cancel
        rw [gate, probes]
      have here : evaluateAt env ans verified now .probe world = (noted, orderResting) :=
        probe ans.cancel
      have restingNoted : noted.book.statusOf attempt.brokerOrderId = some .resting := by
        rw [notes.book, resting]
      refine ⟨?_, fresh, ⟨by rw [here, ← notes.book], fun cancel => (probe cancel).trans here.symm⟩, ?_⟩
      · intro id rests confirms gone
        have full : evaluateAt env ans verified now .full world =
            gateAnswer cap (world.store.attempts tradeId) (supersedeResting ans tradeId attempt noted) := by
          have walked := gate ans.cancel .full
          rw [supersedes] at walked
          exact walked
        have ended := supersedeResting_end ans tradeId attempt noted
        rw [full] at gone ⊢
        generalize supersedeResting ans tradeId attempt noted = ending at ended gone ⊢
        have counts : attempt.superseded = false := by
          cases marked : attempt.superseded with
          | false => rfl
          | true => exact absurd resting (counted.withdrawn attempt attemptListed marked)
        cases ended with
        | withdrawn confirmed =>
          have room := countP_without_lt counts attemptListed
          have capped := counted.capped
          exact ⟨_, capPlacements_proceed_iff.mpr ⟨by omega, rfl⟩⟩
        | doubted after ended failed notes' settled =>
          by_cases same : id = attempt.brokerOrderId
          · subst same
            exact absurd ((cancelOrder_ok_iff ..).mpr ⟨restingNoted, confirms⟩) failed
          · have untouched : after.book.statusOf id = some .resting := by
              rw [notes'.book, cancelOrder_other same, notes.book, rests]
            have gone' : after.book.statusOf id = some .cancelled := by
              cases ended <;> exact gone
            rw [untouched] at gone'
            cases gone'
      · intro no
        rw [here]
        refine iff_of_false (by simp [orderResting]) fun always => ?_
        have proceeds := (always fun _ => .failed).1
        obtain ⟨after, outcome, stopped, refuses⟩ :=
          supersedeResting_failed { ans with cancel := fun _ => .failed } tradeId restingNoted rfl
        rw [gate, supersedes, stopped] at proceeds
        exact refuses no proceeds

theorem World.Counted.ofStore {world : World} {tradeId : String} {cap : Nat}
    (counted : world.Counted tradeId cap) {store : Store} (attempts : store.attempts = world.store.attempts) :
    ({ world with store } : World).Counted tradeId cap := by
  refine counted.rewritten rfl fun other => ⟨id, fun row _ => ⟨rfl, fun _ => ⟨rfl, rfl, rfl, id, .inl⟩⟩, ?_⟩
  rw [attempts, List.map_id]

/-- A placement within the cap, under a fresh number, is written down. -/
theorem World.Counted.recorded {world : World} {tradeId : String} {cap : Nat} {attempt : EntryAttempt}
    (counted : world.Counted tradeId cap) (issued : attempt.brokerOrderId < world.book.nextId)
    (placed : attempt.superseded = false)
    (room : attempt.tradeId = tradeId → placements (world.store.attempts tradeId) < cap ∧
      ∀ row ∈ world.store.attempts tradeId, row.attemptNo < attempt.attemptNo) :
    ({ world with store := world.store.recordEntryAttempt attempt } : World).Counted tradeId cap := by
  have filed : ∀ other, ∀ row ∈ (world.store.recordEntryAttempt attempt).attempts other,
      row.tradeId = other := by
    intro other row listed
    rcases mem_recordEntryAttempt listed with old | ⟨rfl, rfl⟩
    · exact counted.filed other row old
    · rfl
  by_cases mine : attempt.tradeId = tradeId
  · obtain ⟨free, fresh⟩ := room mine
    have rows : (world.store.recordEntryAttempt attempt).attempts tradeId =
        world.store.attempts tradeId ++ [attempt] := by
      rw [← mine] at fresh ⊢
      rw [Store.recordEntryAttempt, Store.setAttempts_self]
      have below : (world.store.attempts attempt.tradeId).filter (·.attemptNo < attempt.attemptNo) =
          world.store.attempts attempt.tradeId :=
        List.filter_eq_self.mpr fun row listed => by simpa using fresh row listed
      have above : (world.store.attempts attempt.tradeId).filter (attempt.attemptNo < ·.attemptNo) = [] :=
        List.filter_eq_nil_iff.mpr fun row listed => by simpa using (fresh row listed).le
      rw [below, above]
    refine ⟨filed, ?_, ?_, ?_, ?_⟩
    · rw [rows, List.map_append, List.nodup_append]
      refine ⟨counted.numbered, by simp, ?_⟩
      intro number member other last
      obtain ⟨row, listed, rfl⟩ := List.mem_map.mp member
      have lower := fresh row listed
      simp only [List.map_cons, List.map_nil, List.mem_singleton] at last
      omega
    · intro row listed
      rw [rows, List.mem_append, List.mem_singleton] at listed
      rcases listed with old | rfl
      · exact counted.issued row old
      · exact issued
    · intro row listed superseded
      rw [rows, List.mem_append, List.mem_singleton] at listed
      rcases listed with old | rfl
      · exact counted.withdrawn row old superseded
      · rw [placed] at superseded
        cases superseded
    · have more : placements ((world.store.recordEntryAttempt attempt).attempts tradeId) =
          placements (world.store.attempts tradeId) + 1 := by
        rw [rows]
        simp [placements, placed]
      exact more.trans_le free
  · have same : (world.store.recordEntryAttempt attempt).attempts tradeId = world.store.attempts tradeId :=
      Store.setAttempts_of_ne world.store (Ne.symm mine) _
    refine ⟨filed, ?_, ?_, ?_, ?_⟩ <;> rw [same]
    · exact counted.numbered
    · exact counted.issued
    · exact counted.withdrawn
    · exact counted.capped

theorem marketBlackoutAct_ages (ans : SweepAnswers) (attempt : EntryAttempt) (world : World) :
    world.book.Ages (marketBlackoutAct ans attempt world).1.book := by
  have idle : world.book.Ages world.book := .refl _
  unfold marketBlackoutAct
  split
  · exact idle
  · split
    · exact idle
    · exact idle
    · split
      · exact idle
      · split
        · unfold blackoutCloseCtraderPosition
          split
          · exact idle
          · exact idle
          · split
            · exact idle
            · exact idle
            · split
              · exact idle
              · exact world.book.close_ages _ _
        · unfold blackoutClosePosition
          split
          · exact idle
          · exact idle
          · split
            · exact world.book.closePositions_ages _ _
            · exact idle

theorem World.Counted.blackout {world : World} {tradeId : String} {cap : Nat}
    (counted : world.Counted tradeId cap) (ans : SweepAnswers) (attempt : EntryAttempt) :
    (marketBlackoutAct ans attempt world).1.Counted tradeId cap := by
  have aged := counted.ages (marketBlackoutAct_ages ans attempt world)
  have store := marketBlackoutAct_store ans attempt world
  generalize marketBlackoutAct ans attempt world = ending at aged store ⊢
  obtain ⟨⟨store', book⟩, result⟩ := ending
  obtain rfl : store' = world.store := store
  exact aged

theorem World.Counted.cancelThenDelete {world : World} {tradeId : String} {cap : Nat}
    (counted : world.Counted tradeId cap) (ans : SweepAnswers) (attempt : EntryAttempt)
    (heard : List BrokerAnswer) :
    (cancelThenDelete ans attempt world heard).world.Counted tradeId cap := by
  have aged := counted.ages
    (world.book.cancelOrder_ages (ans.cancel attempt.brokerOrderId) attempt.brokerOrderId)
  unfold TradeControl.cancelThenDelete deleteRow
  dsimp only
  split
  · exact aged.deleted
  · exact aged

theorem maybeBreachCancel_counted {ans : SweepAnswers} {row : EntryAttempt} {stopLoss : Rat} {world : World}
    {tradeId : String} {cap : Nat} (counted : world.Counted tradeId cap) :
    (maybeBreachCancel ans row stopLoss world).world.Counted tradeId cap := by
  have noted := counted.noted
    (observe_noted ans.toAnswers row.tradeId (ans.lookup row.brokerOrderId) row world)
  have persisted : ∀ (after : World) (extreme : Rat), after.Counted tradeId cap →
      World.Counted ⟨persistAdverseExtreme ans row extreme after.store, after.book⟩ tradeId cap := by
    intro after extreme kept
    unfold persistAdverseExtreme
    split
    · exact kept
    · split
      · exact kept.swept
      · exact kept
  unfold maybeBreachCancel
  split
  · next after looked =>
    rw [looked] at noted
    dsimp only
    split
    · exact noted
    · split
      · exact (persisted after _ noted).cancelThenDelete ans row _
      · exact persisted after _ noted
  · next after answer other looked =>
    rw [looked] at noted
    exact noted

theorem sweepOne_counted {env : Env} {ans : SweepAnswers} {now : Int} {row : EntryAttempt} {world : World}
    {tradeId : String} {cap : Nat} (counted : world.Counted tradeId cap) :
    (sweepOne env ans now row world).world.Counted tradeId cap := by
  have retired : (cancelAndDelete ans row world).world.Counted tradeId cap := by
    unfold cancelAndDelete
    split
    · exact counted
    · exact counted.cancelThenDelete ans row []
  unfold sweepOne
  dsimp only
  split
  · split
    · exact counted.blackout ans row
    · exact counted
  · split
    · exact retired
    · split
      · exact retired
      · split
        · exact counted.blackout ans row
        · split
          · exact counted
          · split
            · exact counted
            · exact maybeBreachCancel_counted counted

theorem GateEvent.step_counted {env : Env} {world : World} {event : GateEvent} {tradeId : String}
    {cap : Nat} (counted : world.Counted tradeId cap) (ofTrade : event.OfTrade env tradeId cap) :
    (event.step env world).Counted tradeId cap := by
  cases event with
  | sweep ans own attemptNo now =>
    simp only [GateEvent.step]
    split
    · exact counted
    · exact sweepOne_counted counted
  | fill id => exact counted.ages (world.book.settle_ages _ (by decide))
  | cancel id => exact counted.ages (world.book.settle_ages _ (by decide))
  | close id realizedPl => exact counted.ages (world.book.close_ages id realizedPl)
  | fire ans verified now accepted =>
    have asked : (evaluateAt env ans verified now .full world).1.Counted tradeId cap :=
      evaluateAt_counted counted
    simp only [GateEvent.step]
    rcases looked : evaluateAt env ans verified now .full world with ⟨after, outcome⟩
    rw [looked] at asked
    cases outcome with
    | rejected status message outcome => exact asked
    | proceed nextAttemptNo =>
      cases accepted with
      | none => exact asked
      | some taken =>
        have aged := asked.ages (after.book.accept_ages taken.request taken.stake taken.status)
        rcases recordPlacement_attempts_cases ans verified now nextAttemptNo after.book.nextId taken.record
          after.store with kept | ⟨own, known, written⟩
        · exact aged.ofStore kept
        · let attempt := taken.record.attempt verified own now nextAttemptNo after.book.nextId
          have recorded : World.Counted ⟨after.store.recordEntryAttempt attempt,
              after.book.accept taken.request taken.stake taken.status⟩ tradeId cap := by
            refine aged.recorded (Nat.lt_succ_self _) rfl fun mine => ?_
            obtain rfl : own = tradeId := mine
            obtain ⟨resolves, marks⟩ := ofTrade known
            have room := evaluateAt_room known resolves marks looked
            exact room
          exact recorded.ofStore written

theorem World.Counted.empty (tradeId : String) (cap : Nat) : ({} : World).Counted tradeId cap where
  filed := by intro other row listed; cases listed
  numbered := List.nodup_nil
  issued := by intro row listed; cases listed
  withdrawn := by intro row listed; cases listed
  capped := Nat.zero_le _

/-- In every state that fires, placements, sweeps and moves of the market lead to, the trade is
within its cap, and whoever asks the gate next finds it keeping its accounts. -/
theorem retryGate_accounts {env : Env} {tradeId : String} {cap : Nat} {world : World}
    (reach : GuardedReach (GateEvent.step env) (fun _ event => event.OfTrade env tradeId cap) {} world) :
    placements (world.store.attempts tradeId) ≤ cap ∧
      ∀ ans verified now, verified.intent.tradeId = some tradeId →
        env.rules.resolveNat verified.shell verified.intent.maxRetries = .ok cap →
        GateAccounts env ans verified now tradeId world := by
  have preserved : ∀ (state : World) (event : GateEvent), state.Counted tradeId cap →
      event.OfTrade env tradeId cap → (event.step env state).Counted tradeId cap :=
    fun _ _ => GateEvent.step_counted
  have counted := reach.invariant (World.Counted.empty tradeId cap) preserved
  exact ⟨counted.capped, fun ans verified now known resolves => counted.gateAccounts known resolves⟩

/-- The first bar of `stopEntry` fires, and its order rests. -/
def firstPlaced : GateEvent :=
  .fire {} (stopEntryAt 0) 0 (some
    { record := ⟨.long, 90, none, none⟩
      request :=
        { setupId := "trade-1", instrument := "INDEX", direction := .long, entry := .stop 100,
          stopLoss := 90, takeProfit := 130, dryRun := false }
      stake := 1
      status := .resting })

theorem retryGate_accounts_onceResting :
    placements ((firstPlaced.step twoBars {}).store.attempts "trade-1") ≤ 2 ∧
      GateAccounts twoBars {} (stopEntryAt (seconds 3600)) (seconds 3600) "trade-1"
        (firstPlaced.step twoBars {}) := by
  have reach : GuardedReach (GateEvent.step twoBars)
      (fun _ event => event.OfTrade twoBars "trade-1" 2) {} (firstPlaced.step twoBars {}) :=
    .next .start fun _ => ⟨rfl, rfl⟩
  obtain ⟨capped, accounts⟩ := retryGate_accounts reach
  exact ⟨capped, accounts {} (stopEntryAt (seconds 3600)) (seconds 3600) rfl rfl⟩

/-- The next bar's fire withdraws the resting order and is let through as the second attempt. -/
example : (evaluateAt twoBars {} (stopEntryAt (seconds 3600)) (seconds 3600) .full
    (firstPlaced.step twoBars {})).2 = .proceed 2 := by decide +kernel

end TradeControl
