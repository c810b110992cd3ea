import TradeControl.Foundation.GuardedReach
import TradeControl.PlacedSince
import TradeControl.PromotionTicks

namespace TradeControl

open Foundation

/-- A fire, a park or a promotion tick, or anything the broker does meanwhile. -/
inductive SignalEvent
  | fire (ans : Answers) (verified : Verified) (rawBody : Option String) (granularity : Option Int)
      (now : Int)
  | park (ans : Answers) (tradeId instrument : String) (pipSize : Rat) (order : StoredOrder)
      (expiresAt now : Int)
  | promote (ans enterAns : Answers) (tradeId : String) (check : StoredCheck) (now : Int)
  | market (book : Book)

/-- The world, and the parks that stood on record when a fire of a later bar was placed for
their trade. -/
structure SignalState where
  world : World
  outrun : List (String × StoredOrder)

/-- The parks a fire that places leaves behind: those of its trade of an earlier bar. -/
def outrunBy (verified : Verified) (now : Int) (store : Store) : List (String × StoredOrder) :=
  match verified.intent.tradeId with
  | none => []
  | some tradeId =>
    ((store.storedOrder now tradeId).filter (·.shellTime < verified.shell.time)).toList.map (tradeId, ·)

def SignalEvent.step (env : Env) (state : SignalState) : SignalEvent → SignalState
  | .fire ans verified rawBody granularity now =>
    let after := (runEnter env ans (freshCall verified rawBody granularity now) state.world).1
    { world := after
      outrun := if state.world.placedSince after = [] then state.outrun
        else outrunBy verified now state.world.store ++ state.outrun }
  | .park ans tradeId instrument pipSize order expiresAt now =>
    { state with world := { state.world with
        store := (parkOrder ans tradeId instrument pipSize order expiresAt now state.world.store).1 } }
  | .promote ans enterAns tradeId check now =>
    { state with world := (promoteStoredOrder env ans enterAns tradeId check now state.world).1 }
  | .market book => { state with world := { state.world with book } }

/-- The event hands this park of the trade to the entry path. -/
def SignalEvent.Hands (env : Env) (world : World) (tradeId : String) (parked : StoredOrder) :
    SignalEvent → Prop
  | .promote ans enterAns own check now =>
    own = tradeId ∧ world.store.storedOrder now tradeId = some parked ∧
      ∃ result, (promoteStoredOrder env ans enterAns own check now world).2 = .ok (.promoted result)
  | _ => False

/-- No park that a later bar's placement left behind is handed on. -/
def SignalEvent.Fresher (env : Env) (state : SignalState) (event : SignalEvent) : Prop :=
  ∀ tradeId parked, event.Hands env state.world tradeId parked → (tradeId, parked) ∉ state.outrun

/-- A fire either finds no park of an earlier bar or leaves an attempt row when it is placed, and a
promotion finds no attempt row of a later bar than its park's. -/
def SignalEvent.MindsBars (state : SignalState) : SignalEvent → Prop
  | .fire ans verified _ _ now =>
    outrunBy verified now state.world.store = [] ∨
      verified.intent.effectiveEntryDedup = .gateOwned ∧ ans.store .recordAttempt = true ∧
        ∀ status, ans.hidden status → ¬ status.live
  | .promote _ _ tradeId check now => ∀ parked, state.world.store.storedOrder now tradeId = some parked →
    storedVerdict parked now check = .promote →
      ∀ row ∈ state.world.store.attempts tradeId, row.shellTime ≤ parked.shellTime
  | .park .. | .market _ => True

/-- Every park left behind is older than some attempt row of its trade. -/
def SignalState.Witnessed (state : SignalState) : Prop :=
  ∀ left ∈ state.outrun, ∃ row ∈ state.world.store.attempts left.1, left.2.shellTime < row.shellTime

theorem SignalState.Witnessed.keepsRows {state after : SignalState} (witnessed : state.Witnessed)
    (kept : state.world.store.KeepsRows after.world.store) (same : after.outrun = state.outrun) :
    after.Witnessed := by
  intro left member
  rw [same] at member
  obtain ⟨row, listed, later⟩ := witnessed left member
  obtain ⟨row', listed', bar⟩ := kept left.1 row listed
  exact ⟨row', listed', bar ▸ later⟩

theorem recordPlaced_fresh {ans : Answers} {call : EnterCall} {plan : PlacementPlan} {attemptNo : Nat}
    (numbered : plan.attemptNo = some attemptNo) (first : call.origin.replacedOrderId = none)
    (orderId : Nat) (store : Store) :
    (recordPlaced ans call plan orderId store).attempts =
      (recordPlacement ans call.verified call.now attemptNo orderId
        { direction := plan.resolved.direction
          stopLoss := plan.resolved.stopLoss
          cancelAt := plan.cancelAt
          orderControl := some
            { originalStopLoss := plan.drawnStopLoss
              takeProfitPrice := plan.resolved.takeProfit
              minR := plan.resolved.minR
              barSeconds := call.granularity } } store).attempts := by
  unfold recordPlaced
  rw [numbered, first]
  exact keepOrderBody_attempts ..

/-- A gated fire that put an order on the broker's book left a row of its bar. -/
theorem runEnter_row {env : Env} {ans : Answers} {verified : Verified} {rawBody : Option String}
    {granularity : Option Int} {now : Int} {world : World}
    (gateOwned : verified.intent.effectiveEntryDedup = .gateOwned)
    (written : ans.store .recordAttempt = true) (shown : ∀ status, ans.hidden status → ¬ status.live)
    (placed : world.placedSince
      (runEnter env ans (freshCall verified rawBody granularity now) world).1 ≠ []) :
    ∃ tradeId, verified.intent.tradeId = some tradeId ∧
      ∃ row ∈ (runEnter env ans (freshCall verified rawBody granularity now) world).1.store.attempts
        tradeId, row.shellTime = verified.shell.time := by
  rcases runEnter_cases env ans (freshCall verified rawBody granularity now) world with
    ⟨middle, quiet, parks, -⟩ | ⟨plan, middle, gates, run⟩
  · exact absurd (World.placedSince_eq_nil (by rw [parks.book]; exact quiet.nextId)) placed
  · have ended := placeStage_cases env ans (freshCall verified rawBody granularity now) plan
      gates.tradeId gates.instrument middle
    rw [run] at placed ⊢
    generalize placeStage env ans (freshCall verified rawBody granularity now) plan middle = ending
      at ended placed ⊢
    obtain ⟨after, result⟩ := ending
    cases ended with
    | refused same => exact absurd (World.placedSince_eq_nil (same.2.trans gates.quiet.nextId)) placed
    | dryRun same => exact absurd (World.placedSince_eq_nil (same.2.trans gates.quiet.nextId)) placed
    | unreadable took kept hidden =>
      obtain ⟨new, -, -, -, since⟩ := World.placedSince_tookOne after gates.quiet.nextId took
      rw [if_neg (shown _ hidden)] at since
      exact absurd since placed
    | accepted took kept =>
      refine ⟨plan.tradeId, gates.tradeId, ?_⟩
      have gated : (freshCall verified rawBody granularity now).gated = true := by
        simp [EnterCall.gated, freshCall, EntryOrigin.skipsRetryGate, EnterCall.intent, gateOwned,
          EntryDedup.needsRetryGate]
      obtain ⟨attemptNo, numbered⟩ : ∃ attemptNo, plan.attemptNo = some attemptNo := by
        rcases gates.attemptNo with ⟨ungated, -⟩ | ⟨-, _, attemptNo, -, -, numbered⟩
        · rw [gated] at ungated
          cases ungated
        · exact ⟨attemptNo, numbered⟩
      dsimp only at kept ⊢
      rw [kept, recordPlaced_fresh numbered rfl, recordPlacement_attempts gates.tradeId written]
      exact ⟨_, (recordEntryAttempt_rowsFor ..).2, rfl⟩

theorem promoteStoredOrder_keepsRows (env : Env) (ans enterAns : Answers) (tradeId : String)
    (check : StoredCheck) (now : Int) (world : World) :
    world.store.KeepsRows (promoteStoredOrder env ans enterAns tradeId check now world).1.store := by
  have cleared : world.store.KeepsRows (clearStoredOrder ans tradeId now world.store).1 :=
    .ofEq (clearStoredOrder_attempts ..)
  unfold promoteStoredOrder
  split
  · exact .ofEq rfl
  · split
    · exact .ofEq rfl
    · split
      · exact .ofEq rfl
      · split
        all_goals rename_i reply; rw [reply] at cleared; exact cleared
      · next parked _ _ _ =>
        split
        · exact .ofEq rfl
        · split
          all_goals rename_i reply; rw [reply] at cleared; exact cleared
        · next verified _ =>
          split
          all_goals rename_i store reply; rw [reply] at cleared
          · exact cleared
          · exact cleared.trans
              (runEnter_keepsRows env enterAns (parked.promotion verified now) { world with store })

theorem SignalEvent.step_witnessed {env : Env} {state : SignalState} {event : SignalEvent}
    (witnessed : state.Witnessed) (minds : event.MindsBars state) : (event.step env state).Witnessed := by
  cases event with
  | fire ans verified rawBody granularity now =>
    have kept := runEnter_keepsRows env ans (freshCall verified rawBody granularity now) state.world
    intro left member
    simp only [SignalEvent.step] at member ⊢
    split at member
    · obtain ⟨row, listed, later⟩ := witnessed left member
      obtain ⟨row', listed', bar⟩ := kept left.1 row listed
      exact ⟨row', listed', bar ▸ later⟩
    · next placed =>
      rcases List.mem_append.mp member with new | old
      · rcases minds with none | ⟨gateOwned, written, shown⟩
        · rw [none] at new
          cases new
        · obtain ⟨tradeId, known, row, listed, bar⟩ := runEnter_row gateOwned written shown placed
          unfold outrunBy at new
          rw [known] at new
          obtain ⟨parked, found, rfl⟩ := List.mem_map.mp new
          rw [Option.mem_toList, Option.filter_eq_some_iff] at found
          have older : parked.shellTime < verified.shell.time := by simpa using found.2
          exact ⟨row, listed, bar ▸ older⟩
      · obtain ⟨row, listed, later⟩ := witnessed left old
        obtain ⟨row', listed', bar⟩ := kept left.1 row listed
        exact ⟨row', listed', bar ▸ later⟩
  | park ans tradeId instrument pipSize order expiresAt now =>
    exact witnessed.keepsRows (.ofEq (parkOrder_attempts ..)) rfl
  | promote ans enterAns tradeId check now =>
    exact witnessed.keepsRows (promoteStoredOrder_keepsRows env ans enterAns tradeId check now _) rfl
  | market book => exact witnessed.keepsRows (.ofEq rfl) rfl

theorem SignalEvent.fresher_of_witnessed {env : Env} {state : SignalState} {event : SignalEvent}
    (witnessed : state.Witnessed) (minds : event.MindsBars state) : event.Fresher env state := by
  intro tradeId parked hands left
  cases event with
  | promote ans enterAns own check now =>
    obtain ⟨rfl, found, result, promoted⟩ := hands
    obtain ⟨parked', verified, found', verdict, -⟩ := promoteStoredOrder_promoted promoted
    rw [found] at found'
    cases found'
    obtain ⟨row, listed, later⟩ := witnessed _ left
    have latest := minds parked found verdict row listed
    dsimp only at later
    omega
  | _ => exact hands

/-- A setup of the second bar waits, and the third bar's fire is placed. -/
def waitsThenPlaced : List SignalEvent :=
  [.park {} "trade-1" "INDEX" 1 secondParked (seconds 72000) (seconds 3700),
   .fire {} (stopEntryAt (seconds 7200)) (some "third") none (seconds 7200)]

end TradeControl
