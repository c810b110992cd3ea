import TradeControl.Deliveries

namespace TradeControl

open Foundation

theorem parseAndVerify_ok {env : Env} {body : String} {now : Int} {verified : Verified}
    (ok : env.parseAndVerify body now = .ok verified) :
    env.parse body = some verified ∧ now ≤ verified.intent.notAfter := by
  unfold Env.parseAndVerify at ok
  split at ok
  · cases ok
  · next found read =>
    split at ok
    · cases ok
    · next fresh =>
      split at ok
      · cases ok
      · obtain rfl := Except.ok.inj ok
        refine ⟨read, ?_⟩
        unfold checkIntentFreshness at fresh
        repeat' split at fresh
        all_goals first | cases fresh; done | skip
        next _ late => exact not_lt.mp late

/-- How a delivery ends: it is turned away with nothing touched, or it reaches the entry path
within its window and unseen, and its outcome is noted. -/
theorem dispatchInner_cases (env : Env) (ans : Answers) (body : String) (now : Int) (world : World) :
    (∃ delivery, dispatchInner env ans body now world = (world, delivery) ∧
      ∀ result, delivery ≠ .dispatched result) ∨
    ∃ verified, env.parse body = some verified ∧ now ≤ verified.intent.notAfter ∧
      (isMultishotEnter verified.intent = false → world.store.isSeen now verified.intent.id = false) ∧
      dispatchInner env ans body now world =
        ({ (runEnter env ans (webhookCall verified body now) world).1 with
            store := recordDispatcherOutcome ans verified now
              (runEnter env ans (webhookCall verified body now) world).2
              (runEnter env ans (webhookCall verified body now) world).1.store },
          .dispatched (runEnter env ans (webhookCall verified body now) world).2) := by
  unfold dispatchInner
  split
  · next error _ => exact .inl ⟨_, rfl, fun _ => by cases error <;> simp [IncomingError.delivery]⟩
  · next verified ok =>
    obtain ⟨read, within⟩ := parseAndVerify_ok ok
    split
    · exact .inl ⟨_, rfl, by simp⟩
    · split
      · exact .inl ⟨_, rfl, by simp⟩
      · next unseen =>
        split
        · exact .inl ⟨_, rfl, by simp⟩
        · split
          · exact .inl ⟨_, rfl, by simp⟩
          · refine .inr ⟨verified, read, within, fun single => ?_, rfl⟩
            simpa [single] using unseen

@[simp] theorem recordDispatcherOutcome_attempts (ans : Answers) (verified : Verified) (now : Int)
    (result : ActionResult) (store : Store) :
    (recordDispatcherOutcome ans verified now result store).attempts = store.attempts ∧
      (recordDispatcherOutcome ans verified now result store).retryFires = store.retryFires := by
  unfold recordDispatcherOutcome
  repeat' split
  all_goals exact ⟨rfl, rfl⟩

/-- A result that may have placed leaves its intent seen for the rest of its window. -/
theorem recordDispatcherOutcome_seen {ans : Answers} (marks : ans.store .markSeen = true)
    (verified : Verified) (now : Int) {result : ActionResult} (placed : result.mayPlace = true)
    (store : Store) :
    Outlives verified.intent.notAfter
      ((recordDispatcherOutcome ans verified now result store).seen verified.intent.id) := by
  have marked : Outlives verified.intent.notAfter
      ((store.markSeen now verified.intent.id (replayTtlSeconds verified.intent.notAfter now)).seen
        verified.intent.id) :=
    ⟨_, Function.update_self .., notAfter_lt_replay_expiry ..⟩
  unfold recordDispatcherOutcome seenDecision
  cases result with
  | ok outcome => simpa [marks] using marked
  | ambiguousSuccess outcome => simpa [marks] using marked
  | failed outcome => cases placed
  | rejected status body outcome => cases placed

/-- Orders that were there before a call do not come alive in it. -/
theorem runEnter_older (env : Env) (ans : Answers) (call : EnterCall) (world : World) :
    ∀ order ∈ (runEnter env ans call world).1.book.orders, order.id < world.book.nextId →
      ∃ old ∈ world.book.orders, old.Fades order := by
  rcases runEnter_cases env ans call world with ⟨middle, quiet, parks, -⟩ | ⟨plan, middle, passed, run⟩
  · intro order member _
    rw [parks.book] at member
    exact quiet.calm.orders.mem_after member
  · have ended := placeStage_cases env ans call plan passed.tradeId passed.instrument middle
    rw [run, ← passed.quiet.nextId]
    generalize placeStage env ans call plan middle = ending at ended ⊢
    obtain ⟨after, result⟩ := ending
    have kept : middle.book.SameOrders after.book → ∀ order ∈ after.book.orders,
        order.id < middle.book.nextId → ∃ old ∈ world.book.orders, old.Fades order := by
      intro same order member _
      rw [same.1] at member
      exact passed.quiet.calm.orders.mem_after member
    have took : ∀ status, middle.book.TookOne plan.resolved status after.book →
        ∀ order ∈ after.book.orders, order.id < middle.book.nextId →
          ∃ old ∈ world.book.orders, old.Fades order := by
      rintro status ⟨entry, stake, -, appended⟩ order member older
      rw [appended, List.mem_append, List.mem_singleton] at member
      rcases member with present | rfl
      · exact passed.quiet.calm.orders.mem_after present
      · exact absurd older (lt_irrefl _)
    cases ended with
    | refused same => exact kept same
    | dryRun same => exact kept same
    | accepted placed => exact took _ placed
    | unreadable placed => exact took _ placed

/-- The fire rows after a placement was written down: the placed bar has one through the
window, and every row there was outlives what it outlived. -/
theorem recordPlaced_retryFires {ans : Answers} (writes : ∀ call, ans.store call = true)
    {call : EnterCall} {plan : PlacementPlan} {attemptNo : Nat} (numbered : plan.attemptNo = some attemptNo)
    (known : call.intent.tradeId = some plan.tradeId) (orderId : Nat) (store : Store) :
    (recordPlaced ans call plan orderId store).retryFires =
      (store.markRetryFireSeen call.now plan.tradeId call.verified.shell.time
        (replayTtlSeconds call.intent.notAfter call.now)).retryFires := by
  have recorded : ∀ placement, (recordPlacement ans call.verified call.now attemptNo orderId placement
      store).retryFires = (store.markRetryFireSeen call.now plan.tradeId call.verified.shell.time
        (replayTtlSeconds call.intent.notAfter call.now)).retryFires := by
    intro placement
    unfold EnterCall.intent at known ⊢
    unfold recordPlacement
    simp only [known, writes, if_true]
    rfl
  unfold recordPlaced
  dsimp only
  rw [(keepOrderBody_seen ..).2, numbered]
  cases call.origin.replacedOrderId with
  | none => exact recorded _
  | some old =>
    simp only [writes, if_true]
    exact recorded _

theorem markRetryFireSeen_outlives (store : Store) (now : Int) (tradeId : String) (shellTime notAfter : Int) :
    Outlives notAfter ((store.markRetryFireSeen now tradeId shellTime
      (replayTtlSeconds notAfter now)).retryFires (tradeId, shellTime)) := by
  refine ⟨_, Function.update_self .., ?_⟩
  have outlives := notAfter_lt_replay_expiry notAfter now
  have longer := le_max_left (replayTtlSeconds notAfter now) minTtlSeconds
  unfold controlExpiresAt
  unfold seconds nanosPerSecond at *
  dsimp only
  omega

theorem markRetryFireSeen_keeps {store : Store} {notAfter : Int} {key : String × Int}
    (outlives : Outlives notAfter (store.retryFires key)) (now : Int) (tradeId : String)
    (shellTime : Int) :
    Outlives notAfter ((store.markRetryFireSeen now tradeId shellTime
      (replayTtlSeconds notAfter now)).retryFires key) := by
  by_cases same : key = (tradeId, shellTime)
  · subst same
    exact markRetryFireSeen_outlives ..
  · unfold Store.markRetryFireSeen
    dsimp only
    rwa [Function.update_of_ne same]

/-- A gated fire forgets no bar that fired before it, and remembers its own once it placed. -/
theorem runEnter_retryFires (env : Env) {ans : Answers} (writes : ∀ call, ans.store call = true)
    {call : EnterCall} (gated : call.gated = true) (world : World) :
    (∀ key, Outlives call.intent.notAfter (world.store.retryFires key) →
      Outlives call.intent.notAfter ((runEnter env ans call world).1.store.retryFires key)) ∧
    ((runEnter env ans call world).2.isOk = true → call.intent.dryRun.getD false = false →
      ∀ tradeId, call.intent.tradeId = some tradeId →
        Outlives call.intent.notAfter
          ((runEnter env ans call world).1.store.retryFires (tradeId, call.verified.shell.time))) := by
  rcases runEnter_cases env ans call world with
    ⟨middle, quiet, parks, rejected⟩ | ⟨plan, middle, passed, run⟩
  · rw [parks.seen.2, quiet.retryFires]
    exact ⟨fun _ outlives => outlives, fun ok => by rw [rejected.not_ok] at ok; cases ok⟩
  · have ended := placeStage_cases env ans call plan passed.tradeId passed.instrument middle
    rw [run, ← passed.quiet.retryFires]
    generalize placeStage env ans call plan middle = ending at ended ⊢
    obtain ⟨after, result⟩ := ending
    cases ended with
    | refused same parks notOk =>
      dsimp only
      rw [parks.seen.2, notOk]
      exact ⟨fun _ outlives => outlives, fun ok => by cases ok⟩
    | dryRun same kept dry =>
      dsimp only at kept ⊢
      rw [kept]
      exact ⟨fun _ outlives => outlives, fun _ wet => by rw [passed.dryRun, wet] at dry; cases dry⟩
    | accepted took kept =>
      rcases passed.attemptNo with ⟨ungated, -⟩ | ⟨-, opened, next, -, -, numbered⟩
      · rw [gated] at ungated
        cases ungated
      · dsimp only at kept ⊢
        rw [kept, recordPlaced_retryFires writes numbered passed.tradeId]
        refine ⟨fun _ outlives => markRetryFireSeen_keeps outlives .., fun _ _ tradeId known => ?_⟩
        obtain rfl := Option.some.inj (passed.tradeId.symm.trans known)
        exact markRetryFireSeen_outlives ..
    | unreadable took kept =>
      dsimp only at kept ⊢
      rw [kept]
      exact ⟨fun _ outlives => outlives, fun ok => by cases ok⟩

/-- A gated fire of a bar that placed before is stopped before it submits anything. -/
theorem runEnter_refired {env : Env} {ans : Answers} {call : EnterCall} {world : World} {tradeId : String}
    (gated : call.gated = true) (known : call.intent.tradeId = some tradeId)
    (within : call.now ≤ call.intent.notAfter)
    (fired : Outlives call.intent.notAfter (world.store.retryFires (tradeId, call.verified.shell.time))) :
    (runEnter env ans call world).1.book.submissions = world.book.submissions := by
  rcases runEnter_cases env ans call world with ⟨middle, quiet, parks, -⟩ | ⟨plan, middle, passed, -⟩
  · rw [parks.book]
    exact quiet.submissions
  · rcases passed.attemptNo with ⟨ungated, -⟩ | ⟨-, opened, next, quiet, proceed, -⟩
    · rw [gated] at ungated
      cases ungated
    · obtain ⟨-, -, unfired, -⟩ := evaluateAt_proceed known proceed
      have live := fired.readAt_isSome within
      unfold Store.isRetryFireSeen at unfired
      rw [quiet.retryFires, live] at unfired
      cases unfired

/-- The retry gate owns this intent, and its placements are real. -/
def Intent.gateKept (intent : Intent) : Prop :=
  intent.effectiveEntryDedup = .gateOwned ∧ intent.dryRun.getD false = false

instance (intent : Intent) : Decidable intent.gateKept := by
  unfold Intent.gateKept
  infer_instance

/-- What a delivery of a multi-shot enter must meet: under the retry gate, no unreadable reply
may hide a live order; under neither guard, there must be nothing to stack on. -/
def DeliveryEvent.Guarded (intent : Intent) (state : DeliveryState) : DeliveryEvent → Prop
  | .deliver ans body _ => isMultishotEnter intent = true →
    if intent.gateKept then ∀ status, ans.hidden status → ¬ status.live
    else body ∉ state.accepted ∧
      ∀ tradeId, intent.tradeId = some tradeId → state.world.NoneLive tradeId
  | _ => True

/-- A one-shot intent that placed, or has an order alive, is seen for the rest of its window. -/
def DeliveryState.SeenOnceOut (intent : Intent) (state : DeliveryState) : Prop :=
  state.accepted ≠ [] ∨
      (∃ tradeId, intent.tradeId = some tradeId ∧ ¬ state.world.NoneLive tradeId) →
    Outlives intent.notAfter (state.world.store.seen intent.id)

/-- Rows and broker agree, and every bar whose placement was accepted is remembered. -/
structure DeliveryState.GateRemembers (env : Env) (intent : Intent) (state : DeliveryState) : Prop where
  sound : state.world.Sound
  fired : ∀ body ∈ state.accepted, ∀ shell, env.parse body = some { intent, shell } →
    ∀ tradeId, intent.tradeId = some tradeId →
      Outlives intent.notAfter (state.world.store.retryFires (tradeId, shell.time))

/-- What holds between deliveries, by the guard the intent falls to. -/
def DeliveryState.Kept (env : Env) (intent : Intent) (state : DeliveryState) : Prop :=
  if isMultishotEnter intent then intent.gateKept → state.GateRemembers env intent
  else state.SeenOnceOut intent

/-- A delivery that touched nothing stacked nothing. -/
theorem DeliveryEvent.neverStacks_of_unmoved {env : Env} {intent : Intent} {state : DeliveryState}
    {ans : Answers} {body : String} {now : Int}
    (unmoved : ((DeliveryEvent.deliver ans body now).step env state).world = state.world) :
    (DeliveryEvent.deliver ans body now).NeverStacks env intent state := by
  unfold NeverStacks
  dsimp only
  rw [unmoved]
  exact ⟨fun _ => rfl, fun placed => absurd (World.placedSince_eq_nil rfl) placed⟩

/-- What a delivery that reached the entry path made of the state. -/
structure DeliveryState.Ran (env : Env) (ans : Answers) (verified : Verified) (body : String) (now : Int)
    (before after : DeliveryState) : Prop where
  book : after.world.book =
    (runEnter env ans (webhookCall verified body now) before.world).1.book
  store : after.world.store = recordDispatcherOutcome ans verified now
    (runEnter env ans (webhookCall verified body now) before.world).2
    (runEnter env ans (webhookCall verified body now) before.world).1.store
  accepted : after.accepted =
    if (runEnter env ans (webhookCall verified body now) before.world).2.isOk then
      body :: before.accepted
    else before.accepted

theorem deliver_cases {env : Env} {intent : Intent} {ans : Answers} {body : String} {now : Int}
    (delivers : (DeliveryEvent.deliver ans body now).Delivers env intent) (state : DeliveryState) :
    (DeliveryEvent.deliver ans body now).step env state = state ∨
    ∃ shell, env.parse body = some { intent, shell } ∧ now ≤ intent.notAfter ∧
      (isMultishotEnter intent = false → state.world.store.isSeen now intent.id = false) ∧
      state.Ran env ans { intent, shell } body now
        ((DeliveryEvent.deliver ans body now).step env state) := by
  obtain ⟨⟨shell, read⟩, -⟩ := delivers
  rcases dispatchInner_cases env ans body now state.world with
    ⟨delivery, turned, undispatched⟩ | ⟨verified, read', within, unseen, ran⟩
  · left
    unfold DeliveryEvent.step
    dsimp only
    rw [turned]
    cases delivery with
    | dispatched result => exact absurd rfl (undispatched result)
    | declined => rfl
    | elsewhere => rfl
  · obtain rfl : { intent, shell } = verified := Option.some.inj (read.symm.trans read')
    refine .inr ⟨shell, read, within, unseen, ?_, ?_, ?_⟩
    all_goals unfold DeliveryEvent.step; dsimp only; rw [ran]
    cases (runEnter env ans (webhookCall ⟨intent, shell⟩ body now) state.world).2 <;> rfl

/-- A delivery that found nothing accepted of its body and nothing alive stacks on nothing. -/
theorem DeliveryState.Ran.neverStacks_of_idle {env : Env} {intent : Intent} {shell : Shell}
    {state : DeliveryState} {ans : Answers} {body : String} {now : Int}
    (ran : state.Ran env ans { intent, shell } body now
      ((DeliveryEvent.deliver ans body now).step env state))
    (unaccepted : body ∉ state.accepted)
    (idle : ∀ tradeId, intent.tradeId = some tradeId → state.world.NoneLive tradeId) :
    (DeliveryEvent.deliver ans body now).NeverStacks env intent state := by
  refine ⟨fun accepted => absurd accepted unaccepted, fun _ tradeId known order member older mine => ?_⟩
  rw [ran.book] at member
  obtain ⟨old, present, fades⟩ := runEnter_older _ _ _ _ order member older
  exact fun alive => idle tradeId known old present (fades.setup.symm.trans mine) (fades.live alive)

/-- The one-shot side: an intent not yet seen has nothing out, and one that may have placed
is seen from then on. -/
theorem DeliveryState.Ran.seenOnceOut {env : Env} {intent : Intent} {shell : Shell}
    {before after : DeliveryState} {ans : Answers} {body : String} {now : Int}
    (ran : before.Ran env ans { intent, shell } body now after)
    (marks : ans.store .markSeen = true) (kept : before.SeenOnceOut intent)
    (unseen : ¬ Outlives intent.notAfter (before.world.store.seen intent.id)) :
    after.SeenOnceOut intent := by
  have nothingOut := mt kept unseen
  push Not at nothingOut
  obtain ⟨unaccepted, idle⟩ := nothingOut
  intro out
  rw [ran.store]
  cases placed : (runEnter env ans (webhookCall ⟨intent, shell⟩ body now) before.world).2.mayPlace with
  | true => exact recordDispatcherOutcome_seen marks ⟨intent, shell⟩ now placed _
  | false =>
    exfalso
    rcases out with accepted | ⟨tradeId, known, alive⟩
    · rw [ran.accepted, unaccepted] at accepted
      split at accepted
      · next ok =>
        cases result : (runEnter env ans (webhookCall ⟨intent, shell⟩ body now) before.world).2 <;>
          simp_all [ActionResult.isOk, ActionResult.mayPlace]
      · exact accepted rfl
    · refine alive fun order member mine live => ?_
      rw [ran.book] at member
      by_cases older : order.id < before.world.book.nextId
      · obtain ⟨old, present, fades⟩ := runEnter_older _ _ _ _ order member older
        exact idle tradeId known old present (fades.setup.symm.trans mine) (fades.live live)
      · have nonempty : before.world.placedSince
            (runEnter env ans (webhookCall ⟨intent, shell⟩ body now) before.world).1 ≠ [] :=
          List.ne_nil_of_mem (List.mem_filter.mpr ⟨member, by simp [live, not_lt.mp older]⟩)
        rw [(runEnter_placedSince nonempty).1] at placed
        cases placed

/-- The call of a delivery the retry gate owns is gated. -/
theorem webhookCall_gated {intent : Intent} (kept : intent.gateKept) (shell : Shell) (body : String)
    (now : Int) : (webhookCall { intent, shell } body now).gated = true := by
  simp [EnterCall.gated, webhookCall, EntryOrigin.skipsRetryGate, EnterCall.intent, kept.1,
    EntryDedup.needsRetryGate]

theorem DeliveryState.Ran.gateRemembers {env : Env} {intent : Intent} {shell : Shell}
    {before after : DeliveryState} {ans : Answers} {body : String} {now : Int}
    (ran : before.Ran env ans { intent, shell } body now after) (read : env.parse body = some { intent, shell })
    (gateKept : intent.gateKept) (writes : ∀ call, ans.store call = true)
    (hides : ∀ status, ans.hidden status → ¬ status.live) (kept : before.GateRemembers env intent) :
    after.GateRemembers env intent := by
  have gated := webhookCall_gated gateKept shell body now
  have fires := runEnter_retryFires env writes gated before.world
  have sound := runEnter_sound env kept.sound ⟨writes _, writes _, hides⟩ (.inl gated)
  constructor
  · exact sound.calm ⟨by rw [ran.book]; exact .refl BrokerOrder.Fades.refl _, by rw [ran.book],
      fun tradeId => by
        rw [ran.store, (recordDispatcherOutcome_attempts ..).1]
        exact .refl EntryAttempt.SameOrder.refl _⟩
  · intro earlier accepted shell' read' tradeId known
    rw [ran.store, (recordDispatcherOutcome_attempts ..).2]
    rw [ran.accepted] at accepted
    split at accepted
    · next ok =>
      rcases List.mem_cons.mp accepted with rfl | before'
      · obtain rfl : shell' = shell := by
          rw [read'] at read
          injection read with same
          injection same
        exact fires.2 ok gateKept.2 tradeId known
      · exact fires.1 _ (kept.fired earlier before' shell' read' tradeId known)
    · exact fires.1 _ (kept.fired earlier accepted shell' read' tradeId known)

/-- The gate's side: a replayed bar is stopped, and what places leaves one order alive. -/
theorem DeliveryState.Ran.neverStacks_of_gate {env : Env} {intent : Intent} {shell : Shell}
    {state : DeliveryState} {ans : Answers} {body : String} {now : Int}
    (ran : state.Ran env ans { intent, shell } body now
      ((DeliveryEvent.deliver ans body now).step env state))
    (read : env.parse body = some { intent, shell }) (within : now ≤ intent.notAfter)
    (gateKept : intent.gateKept) (kept : state.GateRemembers env intent)
    (keptAfter : ((DeliveryEvent.deliver ans body now).step env state).GateRemembers env intent) :
    (DeliveryEvent.deliver ans body now).NeverStacks env intent state := by
  have gated := webhookCall_gated gateKept shell body now
  constructor
  · intro accepted
    rw [ran.book]
    rcases runEnter_cases env ans (webhookCall ⟨intent, shell⟩ body now) state.world with
      ⟨middle, quiet, parks, -⟩ | ⟨plan, middle, passed, -⟩
    · rw [parks.book]
      exact quiet.submissions
    · exact runEnter_refired gated passed.tradeId within
        (kept.fired body accepted shell read plan.tradeId passed.tradeId)
  · intro placed tradeId known order member older mine alive
    have placedNow : state.world.placedSince
        (runEnter env ans (webhookCall ⟨intent, shell⟩ body now) state.world).1 ≠ [] := by
      unfold World.placedSince at placed ⊢
      rwa [ran.book] at placed
    obtain ⟨-, new, tradeId', known', setup, all⟩ := runEnter_placedSince placedNow
    obtain rfl := Option.some.inj (known.symm.trans known')
    have present : new ∈ state.world.placedSince
        (runEnter env ans (webhookCall ⟨intent, shell⟩ body now) state.world).1 := by
      rw [all]
      exact List.mem_cons_self ..
    obtain ⟨listed, recent⟩ := List.mem_filter.mp present
    obtain ⟨recent, newAlive⟩ := by simpa using recent
    rw [← ran.book] at listed
    have same := keptAfter.sound.single order member new listed alive newAlive (mine.trans setup.symm)
    omega

/-- The market moves orders on and writes nothing. -/
theorem DeliveryState.Kept.market {env : Env} {intent : Intent} {state after : DeliveryState}
    (kept : state.Kept env intent) (calm : state.world.Calm after.world)
    (store : after.world.store = state.world.store) (accepted : after.accepted = state.accepted) :
    after.Kept env intent := by
  unfold DeliveryState.Kept at kept ⊢
  split
  · next multishot =>
    rw [if_pos multishot] at kept
    intro gateKept
    refine ⟨(kept gateKept).sound.calm calm, ?_⟩
    rw [accepted, store]
    exact (kept gateKept).fired
  · next oneShot =>
    rw [if_neg oneShot] at kept
    intro out
    rw [store]
    refine kept (out.imp (accepted ▸ ·) ?_)
    rintro ⟨tradeId, known, alive⟩
    exact ⟨tradeId, known, fun idle => alive (idle.calm calm)⟩

/-- What one delivery does under its guard: it stacks nothing, and the guard it falls to goes
on remembering what was placed. -/
theorem deliver_kept {env : Env} {intent : Intent} {state : DeliveryState} {ans : Answers}
    {body : String} {now : Int} (kept : state.Kept env intent)
    (delivers : (DeliveryEvent.deliver ans body now).Delivers env intent)
    (guarded : (DeliveryEvent.deliver ans body now).Guarded intent state) :
    ((DeliveryEvent.deliver ans body now).step env state).Kept env intent ∧
      (DeliveryEvent.deliver ans body now).NeverStacks env intent state := by
  rcases deliver_cases delivers state with unmoved | ⟨shell, read, within, unseen, ran⟩
  · rw [unmoved]
    exact ⟨kept, DeliveryEvent.neverStacks_of_unmoved (by rw [unmoved])⟩
  · unfold DeliveryState.Kept at kept ⊢
    cases multishot : isMultishotEnter intent with
    | true =>
      rw [multishot, if_pos rfl] at kept
      have limits := guarded multishot
      split at limits
      · next gateKept =>
        have keptAfter := ran.gateRemembers read gateKept delivers.2 limits (kept gateKept)
        exact ⟨fun _ => keptAfter, ran.neverStacks_of_gate read within gateKept (kept gateKept) keptAfter⟩
      · next ungated =>
        exact ⟨fun gateKept => absurd gateKept ungated, ran.neverStacks_of_idle limits.1 limits.2⟩
    | false =>
      rw [multishot, if_neg Bool.false_ne_true] at kept
      have unmarked : ¬ Outlives intent.notAfter (state.world.store.seen intent.id) := by
        intro marked
        have seen := marked.readAt_isSome within
        have notSeen := unseen multishot
        unfold Store.isSeen at notSeen
        rw [seen] at notSeen
        cases notSeen
      have nothingOut := mt kept unmarked
      push Not at nothingOut
      refine ⟨ran.seenOnceOut (delivers.2 _) kept unmarked, ran.neverStacks_of_idle ?_ nothingOut.2⟩
      rw [nothingOut.1]
      exact List.not_mem_nil

theorem DeliveryEvent.step_kept {env : Env} {intent : Intent} {state : DeliveryState}
    {event : DeliveryEvent} (kept : state.Kept env intent) (delivers : event.Delivers env intent)
    (guarded : event.Guarded intent state) :
    (event.step env state).Kept env intent ∧ event.NeverStacks env intent state := by
  cases event with
  | deliver ans body now => exact deliver_kept kept delivers guarded
  | fill id => exact ⟨kept.market (fill_calm state.world id) rfl rfl, trivial⟩
  | expire id => exact ⟨kept.market (expire_calm state.world id) rfl rfl, trivial⟩
  | close id realizedPl => exact ⟨kept.market (close_calm state.world id realizedPl) rfl rfl, trivial⟩

theorem World.Fresh.kept {world : World} (fresh : world.Fresh) (env : Env) (intent : Intent) :
    DeliveryState.Kept env intent ⟨world, []⟩ := by
  unfold DeliveryState.Kept
  split
  · exact fun _ => ⟨fresh.sound, by simp⟩
  · rintro (accepted | ⟨tradeId, -, alive⟩)
    · exact absurd rfl accepted
    · exact absurd (fun order member => by simp [fresh.orders] at member) alive

/-- However often a signed enter is delivered, under a guard that is its own no delivery
stacks on a placement. -/
theorem deliveries_neverStack {env : Env} {intent : Intent} {start : World} {events : List DeliveryEvent}
    (fresh : start.Fresh)
    (guarded : Along (DeliveryEvent.step env)
      (fun state event => event.Delivers env intent ∧ event.Guarded intent state) ⟨start, []⟩ events) :
    Along (DeliveryEvent.step env) (fun state event => event.NeverStacks env intent state)
      ⟨start, []⟩ events :=
  Along.of_invariant
    (fun _ _ kept allowed => (DeliveryEvent.step_kept kept allowed.1 allowed.2).1)
    (fun _ _ kept allowed => (DeliveryEvent.step_kept kept allowed.1 allowed.2).2)
    (fresh.kept env intent) guarded

/-- The first bar's fire, its replay an hour on, and the second bar's fire. -/
def replayedDeliveries : List DeliveryEvent :=
  [.deliver {} "first" 0, .deliver {} "first" (seconds 3600), .deliver {} "second" (seconds 3600)]

theorem deliveries_neverStack_acrossBars :
    (replayedDeliveries.foldl (DeliveryEvent.step twoBars) ⟨{}, []⟩).accepted = ["second", "first"] ∧
      Along (DeliveryEvent.step twoBars) (fun state event => event.NeverStacks twoBars stopEntry state)
        ⟨{}, []⟩ replayedDeliveries := by
  have hides : ∀ status, Answers.hidden {} status → ¬ status.live := by
    intro status hidden
    obtain ⟨stage, detail, reply⟩ := hidden
    cases reply
  have guarded : ∀ body now state,
      (DeliveryEvent.deliver {} body now).Delivers twoBars stopEntry ∧
        (DeliveryEvent.deliver {} body now).Guarded stopEntry state := by
    refine fun body now state => ⟨⟨⟨_, rfl⟩, fun _ => rfl⟩, fun _ => ?_⟩
    rw [if_pos (by decide)]
    exact hides
  have fresh : World.Fresh {} := ⟨rfl, fun _ => rfl⟩
  exact ⟨by decide +kernel,
    deliveries_neverStack fresh ⟨guarded .., guarded .., guarded .., trivial⟩⟩

/-- `stopEntry` under the engine's latch, though it may fire again. -/
def latchedStopEntry : Intent := { stopEntry with entryDedup := some .engineLatched }

def latchedBars : Env :=
  .plain fun _ => some { intent := latchedStopEntry, shell := (stopEntryAt 0).shell }

/-- No delivery of this intent stacks on a placement of it, whatever the broker answers. -/
def Env.NeverStacked (env : Env) (intent : Intent) : Prop :=
  ∀ events : List DeliveryEvent, (∀ event ∈ events, event.Delivers env intent) →
    Along (DeliveryEvent.step env) (fun state event => event.NeverStacks env intent state) ⟨{}, []⟩ events

/-- A broker whose reply is lost after its order rests. -/
def lostReply : Answers := { place := fun _ => .unreadable (some .resting) "" }

/-- An order behind a lost reply has no attempt row, and the next bar places beside it; and a
multi-shot enter under the engine's latch falls to neither guard. -/
theorem placements_stackedOn :
    ¬ twoBars.NeverStacked stopEntry ∧ ¬ latchedBars.NeverStacked latchedStopEntry := by
  constructor
  · intro never
    have delivers : ∀ event ∈ [DeliveryEvent.deliver lostReply "first" 0,
        .deliver {} "second" (seconds 3600)], event.Delivers twoBars stopEntry := by
      simp [DeliveryEvent.Delivers, twoBars, Env.plain, stopEntryAt, lostReply]
    obtain ⟨-, ⟨-, placesAlone⟩, -⟩ := never _ delivers
    have two : ((DeliveryEvent.deliver {} "second" (seconds 3600)).step twoBars
        ((DeliveryEvent.deliver lostReply "first" 0).step twoBars ⟨{}, []⟩)).world.book.orders.map
          (fun order => (order.id, order.setup, order.live)) =
        [(0, "trade-1", true), (1, "trade-1", true)] := by decide +kernel
    obtain ⟨first, listed, named⟩ := List.mem_map.mp (two ▸ List.mem_cons_self ..)
    obtain ⟨id, setup, alive⟩ := by simpa only [Prod.mk.injEq] using named
    exact placesAlone (by decide +kernel) "trade-1" rfl first listed (by rw [id]; decide +kernel) setup
      alive
  · intro never
    have delivers : ∀ event ∈ [DeliveryEvent.deliver {} "first" 0, .deliver {} "first" (seconds 60)],
        event.Delivers latchedBars latchedStopEntry := by
      simp [DeliveryEvent.Delivers, latchedBars, Env.plain]
    obtain ⟨-, ⟨replayed, -⟩, -⟩ := never _ delivers
    have accepted : "first" ∈
        ((DeliveryEvent.deliver {} "first" 0).step latchedBars ⟨{}, []⟩).accepted := by
      decide +kernel
    exact absurd (replayed accepted) (by decide +kernel)

end TradeControl
