import TradeControl.Foundation.GuardedReach
import TradeControl.PlacedSince
import TradeControl.RetryCount
import TradeControl.SweptRows

namespace TradeControl

open Foundation

/-- How the gate asks about a trade under a resolved cap, whatever its mode and whatever the
broker would answer to a cancel: it refuses before it looks at the attempts, or it walks them. -/
inductive GateSplit (env : Env) (ans : Answers) (verified : Verified) (now : Int) (tradeId : String)
    (cap : Nat) (world : World) : Prop
  | refuses (outcome : RetryGateOutcome) (refusal : ∀ no, outcome ≠ .proceed no)
      (gate : ∀ cancel mode, evaluateAt env { ans with cancel } verified now mode world = (world, outcome))
  | walks (gate : ∀ cancel mode, evaluateAt env { ans with cancel } verified now mode world =
      match walkAttempts { ans with cancel } mode tradeId world
          (world.store.attempts tradeId).reverse with
      | (after, .stopped outcome) => (after, outcome)
      | (after, .passed superseded) =>
        (after, capPlacements cap (world.store.attempts tradeId) superseded))

theorem openPositionBackstop_refuses {ans : Answers} {book : Book} {instrument : String}
    {attempts : List EntryAttempt} {outcome : RetryGateOutcome}
    (stopped : openPositionBackstop ans book instrument attempts = some outcome) (no : Nat) :
    outcome ≠ .proceed no := by
  unfold openPositionBackstop at stopped
  split at stopped
  · cases stopped
    simp [brokerTransient]
  · split at stopped
    · cases stopped
      simp
    · cases stopped

theorem evaluateAt_split {env : Env} {ans : Answers} {verified : Verified} {now : Int} {tradeId : String}
    {cap : Nat} (known : verified.intent.tradeId = some tradeId)
    (resolves : env.rules.resolveNat verified.shell verified.intent.maxRetries = .ok cap) (world : World) :
    GateSplit env ans verified now tradeId cap world := by
  by_cases zero : cap = 0
  · refine .refuses _ ?_ fun cancel mode => by simp only [evaluateAt, resolves, if_pos zero]; rfl
    simp
  by_cases asked : ans.store .isRetryFireSeen = true
  rotate_left
  · refine .refuses gateStateError (by simp [gateStateError]) fun cancel mode => ?_
    simp [evaluateAt, resolves, zero, known, asked]
  by_cases seen : world.store.isRetryFireSeen now tradeId verified.shell.time = true
  · refine .refuses _ ?_ fun cancel mode => by simp [evaluateAt, resolves, zero, known, asked, seen]; rfl
    simp
  by_cases listed : ans.store .listEntryAttempts = true
  rotate_left
  · refine .refuses gateStateError (by simp [gateStateError]) fun cancel mode => ?_
    simp [evaluateAt, resolves, zero, known, asked, seen, listed]
  cases empty : (world.store.attempts tradeId).isEmpty with
  | true =>
    refine .walks fun cancel mode => ?_
    rcases walked : walkAttempts { ans with cancel } mode tradeId world
        (world.store.attempts tradeId).reverse with ⟨after, outcome | superseded⟩ <;>
      simp only [evaluateAt, resolves, if_neg zero, known, asked, seen, listed,
        Store.listEntryAttempts, Bool.not_true, Bool.false_eq_true, if_false, empty, if_true, walked]
  | false =>
    cases backstop : openPositionBackstop ans world.book verified.intent.instrument
        (world.store.attempts tradeId) with
    | some outcome =>
      refine .refuses outcome (openPositionBackstop_refuses backstop) fun cancel mode => ?_
      have same : openPositionBackstop { ans with cancel } world.book verified.intent.instrument
          (world.store.attempts tradeId) = some outcome := backstop
      simp only [evaluateAt, resolves, if_neg zero, known, asked, seen, listed, Store.listEntryAttempts,
        Bool.not_true, Bool.false_eq_true, if_false, empty, same]
    | none =>
      refine .walks fun cancel mode => ?_
      have same : openPositionBackstop { ans with cancel } world.book verified.intent.instrument
          (world.store.attempts tradeId) = none := backstop
      rcases walked : walkAttempts { ans with cancel } mode tradeId world
          (world.store.attempts tradeId).reverse with ⟨after, outcome | superseded⟩ <;>
        simp only [evaluateAt, resolves, if_neg zero, known, asked, seen, listed,
          Store.listEntryAttempts, Bool.not_true, Bool.false_eq_true, if_false, empty, same, walked]

/-- How the walk's cancel of a resting attempt goes: it is confirmed and the row marked, or it
fails and the attempt is looked up again. -/
inductive SupersedeEnd (ans : Answers) (tradeId : String) (attempt : EntryAttempt) (world : World) :
    World × WalkEnd → Prop
  | withdrawn
      (confirmed : (world.book.cancelOrder (ans.cancel attempt.brokerOrderId) attempt.brokerOrderId).2 =
        .ok ()) :
      SupersedeEnd ans tradeId attempt world
        (⟨if ans.store .setSuperseded then
            world.store.setEntryAttemptSuperseded tradeId attempt.attemptNo
          else world.store,
          (world.book.cancelOrder (ans.cancel attempt.brokerOrderId) attempt.brokerOrderId).1⟩,
          .passed [attempt.attemptNo])
  | doubted (after : World) (ended : WalkEnd)
      (failed : (world.book.cancelOrder (ans.cancel attempt.brokerOrderId) attempt.brokerOrderId).2 ≠
        .ok ())
      (notes : World.Noted ⟨world.store,
        (world.book.cancelOrder (ans.cancel attempt.brokerOrderId) attempt.brokerOrderId).1⟩ after)
      (settled : ended = .passed [] ∨ ∃ outcome, ended = .stopped outcome ∧ ∀ no, outcome ≠ .proceed no) :
      SupersedeEnd ans tradeId attempt world (after, ended)

theorem supersedeResting_end (ans : Answers) (tradeId : String) (attempt : EntryAttempt) (world : World) :
    SupersedeEnd ans tradeId attempt world (supersedeResting ans tradeId attempt world) := by
  unfold supersedeResting
  rcases cancelled : world.book.cancelOrder (ans.cancel attempt.brokerOrderId) attempt.brokerOrderId with
    ⟨book, answer⟩
  cases answer with
  | ok =>
    have confirmed : (world.book.cancelOrder (ans.cancel attempt.brokerOrderId)
        attempt.brokerOrderId).2 = .ok () := by rw [cancelled]
    have ended : SupersedeEnd ans tradeId attempt world (_, _) := .withdrawn confirmed
    rw [cancelled] at ended
    exact ended
  | error error =>
    have failed : (world.book.cancelOrder (ans.cancel attempt.brokerOrderId)
        attempt.brokerOrderId).2 ≠ .ok () := by rw [cancelled]; simp
    dsimp only
    have notes := observe_noted ans tradeId (ans.relookup attempt.brokerOrderId) attempt
      { world with book }
    unfold afterFailedCancel
    generalize observe ans tradeId (ans.relookup attempt.brokerOrderId) attempt
      { world with book } = looked at notes ⊢
    obtain ⟨after, told⟩ := looked
    have book' : (world.book.cancelOrder (ans.cancel attempt.brokerOrderId)
        attempt.brokerOrderId).1 = book := by rw [cancelled]
    rw [← book'] at notes
    split
    · next same =>
      cases same
      exact .doubted _ _ failed notes (.inr ⟨_, rfl, by simp⟩)
    · next same =>
      cases same
      exact .doubted _ _ failed notes (.inr ⟨_, rfl, by simp [priorAttemptUnknown]⟩)
    · next same =>
      cases same
      exact .doubted _ _ failed notes (.inr ⟨_, rfl, by simp [priorAttemptUnknown]⟩)
    · next same =>
      cases same
      exact .doubted _ _ failed notes (.inl rfl)
    · next same =>
      cases same
      exact .doubted _ _ failed notes (.inr ⟨_, rfl, by simp [brokerTransient]⟩)

theorem capPlacements_proceed_iff {cap no : Nat} {attempts : List EntryAttempt} {superseded : List Nat} :
    capPlacements cap attempts superseded = .proceed no ↔
      attempts.countP (fun row => !row.superseded && row.attemptNo ∉ superseded) < cap ∧
        no = nextAttemptNo attempts := by
  unfold capPlacements
  dsimp only
  split
  · next full =>
    refine iff_of_false (by simp) ?_
    omega
  · next room =>
    rw [RetryGateOutcome.proceed.injEq, eq_comm]
    exact ⟨fun same => ⟨by omega, same⟩, fun both => both.2⟩

/-- A row found under an attempt's number after lookups alone is that attempt's row. -/
theorem World.Counted.sameOrder {world noted : World} {tradeId : String} {cap : Nat} {attempt row : EntryAttempt}
    (counted : world.Counted tradeId cap) (notes : world.Noted noted)
    (member : attempt ∈ world.store.attempts tradeId) (listed : row ∈ noted.store.attempts tradeId)
    (number : row.attemptNo = attempt.attemptNo) : row.brokerOrderId = attempt.brokerOrderId := by
  obtain ⟨old, present, _, rfl⟩ := (notes.attempts tradeId).mem_after listed
  rw [List.inj_on_of_nodup_map counted.numbered present member number]

/-- A withdrawn attempt's row may be marked. -/
theorem World.Counted.superseded {world noted : World} {tradeId own : String} {cap : Nat}
    {attempt : EntryAttempt} {reply : CancelReply} (counted : world.Counted tradeId cap)
    (notes : world.Noted noted) (member : attempt ∈ world.store.attempts own)
    (confirmed : (noted.book.cancelOrder reply attempt.brokerOrderId).2 = .ok ()) :
    World.Counted ⟨noted.store.setEntryAttemptSuperseded own attempt.attemptNo,
      (noted.book.cancelOrder reply attempt.brokerOrderId).1⟩ tradeId cap := by
  have aged := (counted.noted notes).ages (noted.book.cancelOrder_ages reply attempt.brokerOrderId)
  refine aged.marked fun mine row listed number => ?_
  subst mine
  have off := cancelOrder_confirmed confirmed
  have named : row.brokerOrderId = attempt.brokerOrderId := counted.sameOrder notes member listed number
  rw [named]
  simp [off]

theorem supersedeResting_counted {ans : Answers} {world noted : World} {tradeId own : String} {cap : Nat}
    {attempt : EntryAttempt} (counted : world.Counted tradeId cap) (notes : world.Noted noted)
    (member : attempt ∈ world.store.attempts own) :
    (supersedeResting ans own attempt noted).1.Counted tradeId cap := by
  have ended := supersedeResting_end ans own attempt noted
  generalize supersedeResting ans own attempt noted = ending at ended ⊢
  cases ended with
  | withdrawn confirmed =>
    have marked := counted.superseded notes member confirmed
    dsimp only
    split
    · exact marked
    · exact (counted.noted notes).ages (noted.book.cancelOrder_ages _ attempt.brokerOrderId)
  | doubted after ended failed notes' settled =>
    exact ((counted.noted notes).ages (noted.book.cancelOrder_ages _ attempt.brokerOrderId)).noted notes'

/-- Asking the gate, for this trade or another, keeps the books. -/
theorem evaluateAt_counted {env : Env} {ans : Answers} {verified : Verified} {now : Int} {world : World}
    {tradeId : String} {cap : Nat} (counted : world.Counted tradeId cap) :
    (evaluateAt env ans verified now .full world).1.Counted tradeId cap := by
  cases resolves : env.rules.resolveNat verified.shell verified.intent.maxRetries with
  | error error => simpa [evaluateAt, resolves] using counted
  | ok own =>
    cases known : verified.intent.tradeId with
    | none =>
      unfold evaluateAt
      rw [resolves, known]
      dsimp only
      split <;> exact counted
    | some asked =>
      have split : GateSplit env ans verified now asked own world :=
        evaluateAt_split known resolves world
      cases split with
      | refuses outcome refusal gate =>
        have refused : evaluateAt env ans verified now .full world = (world, outcome) :=
          gate ans.cancel .full
        rw [refused]
        exact counted
      | walks gate =>
        have walked : evaluateAt env ans verified now .full world = _ := gate ans.cancel .full
        rw [walked]
        have kept : (walkAttempts ans .full asked world (world.store.attempts asked).reverse).1.Counted
            tradeId cap := by
          cases walkAttempts_split ans asked (world.store.attempts asked).reverse world with
          | lookedUp noted ended notes settled walks =>
            have same : walkAttempts ans .full asked world _ = (noted, ended) := walks ans.cancel .full
            rw [same]
            exact counted.noted notes
          | rests noted attempt notes member resting probes supersedes =>
            have same : walkAttempts ans .full asked world _ = supersedeResting ans asked attempt noted :=
              supersedes ans.cancel
            rw [same]
            exact supersedeResting_counted counted notes (List.mem_reverse.mp member)
        generalize walkAttempts ans .full asked world (world.store.attempts asked).reverse = ending
          at kept ⊢
        obtain ⟨after, ended⟩ := ending
        cases ended <;> exact kept

/-- Lookups alone do not change which rows count, nor their numbers. -/
theorem World.SameRows.countP {before after : World} (same : before.SameRows after) (tradeId : String)
    (rule : Bool → Nat → Bool) :
    (after.store.attempts tradeId).countP (fun row => rule row.superseded row.attemptNo) =
      (before.store.attempts tradeId).countP fun row => rule row.superseded row.attemptNo := by
  obtain ⟨change, within, rows⟩ := same tradeId
  rw [rows, List.countP_map]
  refine List.countP_congr fun row _ => ?_
  obtain ⟨_, identified⟩ := within row
  rw [Function.comp_apply, identified]

theorem World.SameRows.lt_next {before after : World} (same : before.SameRows after) {tradeId : String}
    {row : EntryAttempt} (listed : row ∈ after.store.attempts tradeId) :
    row.attemptNo < nextAttemptNo (before.store.attempts tradeId) := by
  obtain ⟨old, present, _, rfl⟩ := (same tradeId).mem_after listed
  have bound := lt_nextAttemptNo present
  exact bound

/-- Where the gate lets a fire through there is room for its placement, under a fresh number. -/
theorem evaluateAt_room {env : Env} {ans : Answers} {verified : Verified} {now : Int}
    {world after : World} {tradeId : String} {cap no : Nat}
    (known : verified.intent.tradeId = some tradeId)
    (resolves : env.rules.resolveNat verified.shell verified.intent.maxRetries = .ok cap)
    (marks : ans.store .setSuperseded = true)
    (proceed : evaluateAt env ans verified now .full world = (after, .proceed no)) :
    placements (after.store.attempts tradeId) < cap ∧
      ∀ row ∈ after.store.attempts tradeId, row.attemptNo < no := by
  have lookedUp : ∀ noted : World, world.SameRows noted →
      capPlacements cap (world.store.attempts tradeId) [] = .proceed no →
      placements (noted.store.attempts tradeId) < cap ∧
        ∀ row ∈ noted.store.attempts tradeId, row.attemptNo < no := by
    intro noted rows capped
    obtain ⟨room, rfl⟩ := capPlacements_proceed_iff.mp capped
    have same := rows.countP tradeId fun superseded _ => !superseded
    refine ⟨?_, fun row => rows.lt_next⟩
    unfold placements
    rw [same]
    simpa using room
  have split : GateSplit env ans verified now tradeId cap world := evaluateAt_split known resolves world
  cases split with
  | refuses outcome refusal gate =>
    have refused : evaluateAt env ans verified now .full world = (world, outcome) := gate ans.cancel .full
    rw [refused] at proceed
    exact absurd (Prod.mk.inj proceed).2 (refusal no)
  | walks gate =>
    have walked : evaluateAt env ans verified now .full world = _ := gate ans.cancel .full
    rw [walked] at proceed
    cases walkAttempts_split ans tradeId (world.store.attempts tradeId).reverse world with
    | lookedUp noted ended notes settled walks =>
      have same : walkAttempts ans .full tradeId world (world.store.attempts tradeId).reverse =
          (noted, ended) := walks ans.cancel .full
      rw [same] at proceed
      rcases settled with rfl | ⟨outcome, rfl, refuses⟩
      · obtain ⟨rfl, capped⟩ := Prod.mk.inj proceed
        exact lookedUp noted notes.attempts capped
      · exact absurd (Prod.mk.inj proceed).2 (refuses no)
    | rests noted attempt notes member resting probes supersedes =>
      have same : walkAttempts ans .full tradeId world (world.store.attempts tradeId).reverse =
          supersedeResting ans tradeId attempt noted :=
        supersedes ans.cancel
      rw [same] at proceed
      have ended := supersedeResting_end ans tradeId attempt noted
      generalize supersedeResting ans tradeId attempt noted = ending at ended proceed
      cases ended with
      | doubted later ended failed notes' settled =>
        rcases settled with rfl | ⟨outcome, rfl, refuses⟩
        · obtain ⟨rfl, capped⟩ := Prod.mk.inj proceed
          exact lookedUp later (notes.attempts.trans notes'.attempts) capped
        · exact absurd (Prod.mk.inj proceed).2 (refuses no)
      | withdrawn confirmed =>
        obtain ⟨rfl, capped⟩ := Prod.mk.inj proceed
        obtain ⟨room, rfl⟩ := capPlacements_proceed_iff.mp capped
        have rows : (noted.store.setEntryAttemptSuperseded tradeId attempt.attemptNo).attempts tradeId =
            (noted.store.attempts tradeId).map fun row =>
              if row.attemptNo = attempt.attemptNo then { row with superseded := true } else row :=
          Store.setAttempts_self ..
        simp only [if_pos marks]
        rw [rows]
        constructor
        · have counted := notes.attempts.countP tradeId fun superseded number =>
            !superseded && number ∉ [attempt.attemptNo]
          rw [← counted] at room
          refine lt_of_le_of_lt (le_of_eq ?_) room
          unfold placements
          rw [List.countP_map]
          refine List.countP_congr fun row _ => ?_
          simp only [Function.comp_apply]
          by_cases number : row.attemptNo = attempt.attemptNo
          · simp [number]
          · simp [number]
        · intro row listed
          obtain ⟨old, present, rfl⟩ := List.mem_map.mp listed
          have fresh := notes.attempts.lt_next present
          split <;> exact fresh

end TradeControl
