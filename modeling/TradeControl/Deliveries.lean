import TradeControl.Enter
import TradeControl.Foundation.GuardedReach
import TradeControl.OrderSystem
import TradeControl.PlacedSince
import TradeControl.PlacementSound
import TradeControl.PromotionTicks
import TradeControl.World

namespace TradeControl

open Foundation

/-- Where a turn re-drives an order past the retry gate, the gate would have found the
trade idle; where it does not, the gate is asked. -/
def OrderEvent.Guarded (env : Env) (world : World) : OrderEvent → Prop
  | .fire ans verified _ _ _ =>
    verified.intent.effectiveEntryDedup = .gateOwned ∧ ans.Bookkept
  | .restore ans _ cancelled now =>
    ans.Bookkept ∧ ∀ verified tradeId, env.recover cancelled.signedIntent now = .ok verified →
      verified.intent.tradeId = some tradeId →
      world.ClearToRedrive tradeId cancelled.orderId ∧ world.Gone cancelled.orderId
  | .reprice _ enterAns order action _ _ _ now =>
    enterAns.Bookkept ∧ ∀ verified tradeId, action ≠ .demote →
      env.recoverBody (world.store.orderBodies order.id) now = .ok verified →
      verified.intent.tradeId = some tradeId → world.ClearToRedrive tradeId order.id
  | .promote _ enterAns tradeId check now =>
    enterAns.Bookkept ∧ ∀ parked verified, world.store.storedOrder now tradeId = some parked →
      storedVerdict parked now check = .promote →
      env.recover parked.signedIntent now = .ok verified →
      match parked.replaces with
      | none => verified.intent.effectiveEntryDedup = .gateOwned
      | some old => ∀ tradeId, verified.intent.tradeId = some tradeId →
          world.ClearToRedrive tradeId old ∧ world.Gone old
  | .hold .. | .fill _ | .expire _ | .close .. => True

theorem restoreOneOrder_sound {env : Env} {ans : Answers} {record : HeldTradeRecord}
    {cancelled : CancelledOrder} {now : Int} {world : World} (sound : world.Sound)
    (guarded : (OrderEvent.restore ans record cancelled now).Guarded env world) :
    (restoreOneOrder env ans record cancelled now world).1.Sound := by
  obtain ⟨bookkept, clear⟩ := guarded
  have cleaned : ∀ world : World, world.Sound →
      World.Sound { world with store := cleanupBody ans cancelled.orderId world.store } :=
    fun world sound => sound.calm (.ofStore world (cleanupBody_attempts ..))
  unfold restoreOneOrder
  dsimp only
  split
  · exact cleaned world sound
  · exact sound
  · next verified recovered =>
    have placed := runEnter_sound env sound bookkept (.inr ⟨cancelled.orderId,
      (rfl : (cancelled.redrive verified now).origin = _),
      fun tradeId known => clear verified tradeId recovered known⟩)
    split
    · exact sound
    · split
      · exact sound
      · split
        · exact cleaned _ placed
        · exact cleaned world sound

theorem repricePendingOrder_sound {env : Env} {ans enterAns : Answers} {order : BrokerOrder}
    {action : PendingAction} {geometry : ParkGeometry} {expiresAt barSeconds now : Int} {world : World}
    (sound : world.Sound)
    (guarded : (OrderEvent.reprice ans enterAns order action geometry expiresAt barSeconds now).Guarded
      env world) :
    (repricePendingOrder env ans enterAns order action geometry expiresAt barSeconds now world).1.Sound := by
  obtain ⟨bookkept, clear⟩ := guarded
  have pulled := cancelOrder_calm world (ans.cancel order.id) order.id
  unfold repricePendingOrder
  split
  · exact sound
  · split
    · exact sound
    · split
      · exact sound
      · exact sound
      · exact sound
      · next signedIntent verified _ recovered =>
        dsimp only
        split
        · next reply =>
          rw [reply] at pulled
          exact sound.calm pulled
        · next book reply =>
          have gone : World.Gone { world with book } order.id := not_live_of_cancelled reply
          rw [reply] at pulled
          split
          · exact (sound.calm pulled).calm (parkRepriced_calm ..)
          · next replaces =>
            have placed := runEnter_sound env (sound.calm pulled) bookkept (.inr ⟨order.id,
              (rfl : (repriceCall order.id signedIntent verified now).origin = _), fun tradeId known =>
                ⟨(clear verified tradeId replaces recovered known).calm pulled, gone⟩⟩)
            split
            · exact placed
            · exact placed.calm (parkRepriced_calm ..)

theorem promoteStoredOrder_sound {env : Env} {ans enterAns : Answers} {tradeId : String}
    {check : StoredCheck} {now : Int} {world : World} (sound : world.Sound)
    (guarded : (OrderEvent.promote ans enterAns tradeId check now).Guarded env world) :
    (promoteStoredOrder env ans enterAns tradeId check now world).1.Sound := by
  obtain ⟨bookkept, clear⟩ := guarded
  have calm := World.Calm.ofStore world (clearStoredOrder_attempts ans tradeId now world.store)
  have cleared := sound.calm calm
  unfold promoteStoredOrder
  split
  · exact sound
  · split
    · exact sound
    · next parked found =>
      split
      · exact sound
      · split <;> simp_all
      · next verdict =>
        split
        · exact sound
        · split <;> simp_all
        · next verified recovered =>
          have allowed := clear parked verified found verdict recovered
          split
          · simp_all
          · next store reply =>
            rw [reply] at calm cleared
            refine runEnter_sound env cleared bookkept ?_
            unfold StoredOrder.promotion promotionOrigin EnterCall.gated
            cases replaces : parked.replaces with
            | none =>
              rw [replaces] at allowed
              exact .inl (by simp [EntryOrigin.skipsRetryGate, EnterCall.intent, allowed,
                EntryDedup.needsRetryGate])
            | some old =>
              rw [replaces] at allowed
              exact .inr ⟨old, rfl, fun tradeId known =>
                ⟨(allowed tradeId known).1.calm calm, (allowed tradeId known).2.calm calm⟩⟩

theorem OrderEvent.step_sound {env : Env} {world : World} {event : OrderEvent} (sound : world.Sound)
    (guarded : event.Guarded env world) : (event.step env world).Sound := by
  cases event with
  | fire ans verified rawBody granularity now =>
    refine runEnter_sound env sound guarded.2 (.inl ?_)
    simp [EnterCall.gated, freshCall, EntryOrigin.skipsRetryGate, EnterCall.intent, guarded.1,
      EntryDedup.needsRetryGate]
  | hold ans order now => exact sound.calm (tryCancelOne_calm ..)
  | restore ans record cancelled now => exact restoreOneOrder_sound sound guarded
  | reprice ans enterAns order action geometry expiresAt barSeconds now =>
    exact repricePendingOrder_sound sound guarded
  | promote ans enterAns tradeId check now => exact promoteStoredOrder_sound sound guarded
  | fill id => exact sound.calm (fill_calm world id)
  | expire id => exact sound.calm (expire_calm world id)
  | close id realizedPl => exact sound.calm (close_calm world id realizedPl)

/-- A world without orders or attempt rows. -/
structure World.Fresh (world : World) : Prop where
  orders : world.book.orders = []
  attempts : ∀ tradeId, world.store.attempts tradeId = []

theorem World.Fresh.sound {world : World} (fresh : world.Fresh) : world.Sound where
  named := by simp [fresh.orders]
  owned := by simp [fresh.attempts]
  issued := by simp [fresh.attempts]
  single := by simp [fresh.orders]

/-- Turns of trades that fire through the retry gate under one cap. -/
def OrderEvent.Gated (maxRetries : Nat) : OrderEvent → Prop
  | .fire _ verified _ _ _ => verified.intent.effectiveEntryDedup = .gateOwned ∧
      verified.intent.maxRetries = .static maxRetries
  | _ => True

/-- The demoted order's park outlives the fire that came after it. -/
def demotedThenPromoted : List OrderEvent :=
  [.fire {} (stopEntryAt 0) (some "first") none 0,
   .reprice {} {} (stopEntryOrder 0) .demote ⟨10, 30, 1⟩ (seconds 72000) 3600 (seconds 600),
   .fire {} (stopEntryAt (seconds 3600)) (some "second") none (seconds 3600),
   .promote {} {} "trade-1" ⟨true, none, true, true⟩ (seconds 4200)]

end TradeControl

namespace TradeControl

/-- An enter that fires again under one id, whose replays the retry gate is to judge. -/
def isMultishotEnter (intent : Intent) : Bool :=
  intent.action == .enter && intent.maxRetries ≠ .static 0 && intent.tradeId.isSome

inductive SeenDecision
  | mark (outcome : String)
  | skip (kind outcome : String)
  deriving DecidableEq

def seenDecision : ActionResult → SeenDecision
  | .ok outcome => .mark outcome
  | .ambiguousSuccess outcome => .mark outcome
  | .failed outcome => .skip "failed" outcome
  | .rejected _ _ outcome => .skip "rejected" outcome

def recordDispatcherOutcome (ans : Answers) (verified : Verified) (now : Int) (result : ActionResult)
    (store : Store) : Store :=
  match seenDecision result with
  | .mark _ =>
    if ans.store .markSeen then
      store.markSeen now verified.intent.id (replayTtlSeconds verified.intent.notAfter now)
    else store
  | .skip .. => store

/-- What one delivery of a body came to. `elsewhere` is an action other than an enter. -/
inductive Delivery
  | declined (status : Nat) (body : String)
  | elsewhere
  | dispatched (result : ActionResult)
  deriving DecidableEq

/-- The call an accepted body makes. -/
def webhookCall (verified : Verified) (body : String) (now : Int) : EnterCall where
  verified := verified
  now := now
  rawBody := some body
  granularity := none
  origin := .fresh

/-- The rejection of a body that does not verify. -/
def IncomingError.delivery : IncomingError → Delivery
  | .expired => .declined 200 "declined: intent-expired"
  | .tooEarly => .declined 200 "declined: intent-too-early"
  | _ => .declined 400 "rejected"

/-- `dispatch_inner`, for an enter. -/
def dispatchInner (env : Env) (ans : Answers) (body : String) (now : Int) (world : World) :
    World × Delivery :=
  match env.parseAndVerify body now with
  | .error error => (world, error.delivery)
  | .ok verified =>
    if !ans.store .isSeen then (world, .declined 500 "state error")
    else if world.store.isSeen now verified.intent.id && !isMultishotEnter verified.intent then
      (world, .declined 409 "replay")
    else if verified.intent.action ≠ .enter then (world, .elsewhere)
    else match ans.refusal with
    | some (status, reason) => (world, .declined status reason)
    | none =>
      let (world, result) := runEnter env ans (webhookCall verified body now) world
      ({ world with store := recordDispatcherOutcome ans verified now result world.store },
        .dispatched result)

open Foundation

/-! Deliveries of one signed enter, and what guards the trade between them. -/

/-- A body arrives, or the broker moves. -/
inductive DeliveryEvent
  | deliver (ans : Answers) (body : String) (now : Int)
  | fill (id : Nat)
  | expire (id : Nat)
  | close (id : Nat) (realizedPl : Option Rat)

/-- The world, and the bodies whose placement answered Ok. -/
structure DeliveryState where
  world : World
  accepted : List String

def DeliveryEvent.step (env : Env) (state : DeliveryState) : DeliveryEvent → DeliveryState
  | .deliver ans body now =>
    let (world, delivery) := dispatchInner env ans body now state.world
    { world
      accepted := match delivery with
        | .dispatched (.ok _) => body :: state.accepted
        | _ => state.accepted }
  | .fill id => { state with world := { state.world with book := state.world.book.fill id } }
  | .expire id => { state with world := { state.world with book := state.world.book.expire id } }
  | .close id realizedPl =>
    { state with world := { state.world with book := state.world.book.close id realizedPl } }

/-- The body is one of this intent's, and every store call goes through. -/
def DeliveryEvent.Delivers (env : Env) (intent : Intent) : DeliveryEvent → Prop
  | .deliver ans body _ =>
    (∃ shell, env.parse body = some { intent, shell }) ∧ ∀ call, ans.store call = true
  | _ => True

/-- A replay of an accepted body submits nothing, and a delivery that places leaves no earlier
order of the trade alive. -/
def DeliveryEvent.NeverStacks (env : Env) (intent : Intent) (state : DeliveryState)
    (event : DeliveryEvent) : Prop :=
  match event with
  | .deliver _ body _ =>
    (body ∈ state.accepted →
      (event.step env state).world.book.submissions = state.world.book.submissions) ∧
    (state.world.placedSince (event.step env state).world ≠ [] → ∀ tradeId,
      intent.tradeId = some tradeId → ∀ order ∈ (event.step env state).world.book.orders,
        order.id < state.world.book.nextId → order.setup = tradeId → ¬ order.live)
  | _ => True

@[simp] theorem parkOrder_seen (ans : Answers) (tradeId instrument : String) (pipSize : Rat)
    (order : StoredOrder) (expiresAt now : Int) (store : Store) :
    (parkOrder ans tradeId instrument pipSize order expiresAt now store).1.seen = store.seen ∧
      (parkOrder ans tradeId instrument pipSize order expiresAt now store).1.retryFires =
        store.retryFires := by
  unfold parkOrder
  dsimp only
  repeat' split
  all_goals exact ⟨rfl, rfl⟩

theorem World.MaybeParks.seen {ans : Answers} {call : EnterCall} {before after : World}
    (parks : before.MaybeParks ans call after) :
    after.store.seen = before.store.seen ∧ after.store.retryFires = before.store.retryFires := by
  rcases parks with rfl | ⟨_, _, _, _, _, _, -, rfl⟩
  · exact ⟨rfl, rfl⟩
  · exact parkOrder_seen ..

@[simp] theorem keepOrderBody_seen (ans : Answers) (orderId : Nat) (body : Option String) (store : Store) :
    (keepOrderBody ans orderId body store).seen = store.seen ∧
      (keepOrderBody ans orderId body store).retryFires = store.retryFires := by
  unfold keepOrderBody
  repeat' split
  all_goals exact ⟨rfl, rfl⟩

/-- Whatever the broker took during a call carries its trade and came of a result that may
have placed. -/
theorem runEnter_placedSince {env : Env} {ans : Answers} {call : EnterCall} {world : World}
    (placed : world.placedSince (runEnter env ans call world).1 ≠ []) :
    (runEnter env ans call world).2.mayPlace = true ∧
      ∃ new tradeId, call.intent.tradeId = some tradeId ∧ new.setup = tradeId ∧
        world.placedSince (runEnter env ans call world).1 = [new] := by
  rcases runEnter_cases env ans call world with ⟨middle, quiet, parks, -⟩ | ⟨plan, middle, gates, run⟩
  · exact absurd (World.placedSince_eq_nil (by rw [parks.book]; exact quiet.nextId)) placed
  · have ended := placeStage_cases env ans call plan gates.tradeId gates.instrument middle
    rw [run] at placed ⊢
    generalize placeStage env ans call plan middle = ending at ended placed ⊢
    obtain ⟨after, result⟩ := ending
    have taken : ∀ status, middle.book.TookOne plan.resolved status after.book →
        ∃ new tradeId, call.intent.tradeId = some tradeId ∧ new.setup = tradeId ∧
          world.placedSince after = [new] := by
      intro status took
      obtain ⟨new, -, setup, -, since⟩ := World.placedSince_tookOne after gates.quiet.nextId took
      split at since
      · exact ⟨new, plan.tradeId, gates.tradeId, setup.trans gates.setupId, since⟩
      · exact absurd since placed
    cases ended with
    | refused same => exact absurd (World.placedSince_eq_nil (same.2.trans gates.quiet.nextId)) placed
    | dryRun same => exact absurd (World.placedSince_eq_nil (same.2.trans gates.quiet.nextId)) placed
    | accepted took => exact ⟨rfl, taken _ took⟩
    | unreadable took => exact ⟨rfl, taken _ took⟩

end TradeControl
