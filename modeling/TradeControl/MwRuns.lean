import TradeControl.EnterLaws
import TradeControl.MwGeometry
import TradeControl.SetupFrames
import TradeControl.World

namespace TradeControl

open Foundation

/-- A signed M/W enter: it names its trade and lists the veto that its own cancellation sets. -/
structure MwEnter where
  intent : Intent
  mw : MwParams
  tradeId : String
  direction : Direction
  shaped : intent.mw = some mw
  traded : intent.tradeId = some tradeId
  directed : intent.direction = some direction
  listed : mwCancelVetoName ∈ intent.vetos

/-- The anchors that were baked into it. -/
def MwEnter.anchors (enter : MwEnter) : MwAnchors where
  direction := enter.direction
  runupStart := enter.mw.runupStart
  leftShoulder := enter.mw.firstPoint
  bakedNeckline := enter.mw.neckline
  drawnRightShoulder := enter.mw.rightShoulder

/-- The geometry that a reader of the stored row goes by. -/
def MwEnter.live (enter : MwEnter) (store : Store) (now : Int) : LiveGeometry :=
  enter.anchors.geometryOf (store.getMwState now enter.tradeId)

/-- The alert window is open, for a second at least. -/
def MwEnter.Open (enter : MwEnter) (now : Int) : Prop := now + seconds 1 ≤ enter.intent.notAfter

instance (enter : MwEnter) (now : Int) : Decidable (enter.Open now) :=
  inferInstanceAs (Decidable (now + seconds 1 ≤ enter.intent.notAfter))

/-- A bar of the setup that comes to the geometry update: the gates let it through, and the store
answers for the row. -/
structure MwEnter.Admits (enter : MwEnter) (ans : Answers) (call : EnterCall) (world : World) : Prop where
  intent : call.intent = enter.intent
  opened : enter.Open call.now
  gates : entryGates ans call world.store = .ok enter.tradeId
  reads : ans.store .getMwState = true
  writes : ans.store .upsertMwState = true

/-- A run of a setup's bars, none of which breaks the pattern; what happens between them leaves its
row alone. -/
inductive MwRun (env : Env) (enter : MwEnter) (start : World) : List Shell → World → Prop
  | start : MwRun env enter start [] start
  | bar {bars : List Shell} {world : World} {ans : Answers} {call : EnterCall}
      (run : MwRun env enter start bars world) (admitted : enter.Admits ans call world)
      (holds : ¬ enter.anchors.Breaks call.verified.shell) :
      MwRun env enter start (bars ++ [call.verified.shell]) (runEnter env ans call world).1
  | other {bars : List Shell} {world after : World} (run : MwRun env enter start bars world)
      (apart : after.store.mwStates enter.tradeId = world.store.mwStates enter.tradeId) :
      MwRun env enter start bars after

section
variable {env : Env} {enter : MwEnter} {ans : Answers} {call : EnterCall} {world : World} {bars : List Shell}

/-- A row that is written within the window is read until its last second. -/
theorem open_lt_expiry {notAfter now later : Int} (window : later + seconds 1 ≤ notAfter) :
    later < controlExpiresAt now (vetoTtlSeconds 0 notAfter now) := by
  have span := lt_seconds_numSeconds (notAfter - now)
  unfold controlExpiresAt vetoTtlSeconds seconds nanosPerSecond minTtlSeconds at *
  omega

theorem maybeUpdateMwState_eq (enter : MwEnter) (world : World) (intent : call.intent = enter.intent)
    (reads : ans.store .getMwState = true) :
    maybeUpdateMwState ans call world =
      match planMwUpdate enter.anchors (world.store.getMwState call.now enter.tradeId) call.verified.shell
        call.now (call.now + seconds (vetoTtlSeconds 0 enter.intent.notAfter call.now)) with
      | .noChange => (world, .ok none)
      | .proceed state changed =>
        ({ world with
            store := if changed && ans.store .upsertMwState then
              world.store.upsertMwState call.now enter.tradeId state
                (vetoTtlSeconds 0 enter.intent.notAfter call.now)
            else world.store }, .ok (some (effectiveMwParams enter.mw state enter.direction)))
      | .cancel =>
        let store := if ans.store .setVeto then
            world.store.setVeto call.now enter.tradeId enter.intent.instrument mwCancelVetoName
              (vetoTtlSeconds 0 enter.intent.notAfter call.now)
          else world.store
        ({ store := if ans.store .clearMwState then store.clearMwState enter.tradeId else store
           book := world.book.cancelPendingForInstrument ans.sweepCancels enter.intent.instrument },
          .error (.rejected 412 "mw pattern cancelled (validity floor breached)"
            "rejected: mw-cancel (validity-floor)")) := by
  unfold maybeUpdateMwState
  rw [intent, enter.shaped, enter.traded, enter.directed]
  simp only [reads, Bool.not_true, Bool.false_eq_true, if_false]
  rfl

/-- An admitted bar that holds is folded into the geometry that later readers find. -/
theorem MwEnter.Admits.recovers (admitted : enter.Admits ans call world)
    (holds : ¬ enter.anchors.Breaks call.verified.shell)
    (before : ∀ now, enter.Open now → enter.anchors.Recovers bars (enter.live world.store now)) :
    ∀ now, enter.Open now → enter.anchors.Recovers (bars ++ [call.verified.shell])
      (enter.live (runEnter env ans call world).1.store now) := by
  intro now opened
  have ends := planMwUpdate_ends enter.anchors (world.store.getMwState call.now enter.tradeId)
    call.verified.shell call.now (call.now + seconds (vetoTtlSeconds 0 enter.intent.notAfter call.now))
  have updated := maybeUpdateMwState_eq enter world admitted.intent admitted.reads
  generalize planMwUpdate enter.anchors _ call.verified.shell call.now _ = update at ends updated
  cases ends with
  | bodiless bodiless =>
    have same := runEnter_setups env ans call world admitted.gates updated
    unfold MwEnter.live Store.getMwState
    rw [same.mwStates]
    exact (before now opened).bodiless bodiless
  | cancelled breaks => exact absurd breaks holds
  | @folded state changed pullback reach _ pulled reached folds unmoved =>
    have same := runEnter_setups env ans call world admitted.gates updated
    have folded := (before call.now admitted.opened).fold pulled reached
    unfold MwEnter.live at folded
    rw [← folds] at folded
    unfold MwEnter.live Store.getMwState
    rw [same.mwStates, admitted.writes, Bool.and_true]
    cases changed with
    | true =>
      have row : (world.store.upsertMwState call.now enter.tradeId state
          (vetoTtlSeconds 0 enter.intent.notAfter call.now)).mwStates enter.tradeId =
            some ⟨state, controlExpiresAt call.now (vetoTtlSeconds 0 enter.intent.notAfter call.now)⟩ :=
        Function.update_self ..
      rw [if_pos rfl, row, readAt_some, if_pos (open_lt_expiry opened)]
      exact folded
    | false =>
      rw [if_neg Bool.false_ne_true]
      have still := (before now opened).unique (before call.now admitted.opened) fun _ => Iff.rfl
      unfold MwEnter.live Store.getMwState at still
      rw [still]
      exact unmoved rfl ▸ folded

theorem MwRun.recovers {start : World} (run : MwRun env enter start bars world)
    (unseeded : start.store.mwStates enter.tradeId = none) :
    ∀ now, enter.Open now → enter.anchors.Recovers bars (enter.live world.store now) := by
  induction run with
  | start =>
    intro now _
    unfold MwEnter.live Store.getMwState
    rw [unseeded]
    exact enter.anchors.recovers_baked
  | bar _ admitted holds ih => exact admitted.recovers holds ih
  | other _ apart ih =>
    intro now opened
    unfold MwEnter.live Store.getMwState
    rw [apart]
    exact ih now opened

/-- The setup's own veto stands until the window closes. -/
def MwEnter.Cancelled (enter : MwEnter) (store : Store) : Prop :=
  ∀ now, enter.Open now → store.isVetoed now enter.tradeId enter.intent.instrument mwCancelVetoName = true

/-- What follows a cancellation: more bars of the setup, whatever is answered, and anything that
leaves the veto alone. -/
inductive MwAfter (env : Env) (enter : MwEnter) (cancelled : World) : World → Prop
  | start : MwAfter env enter cancelled cancelled
  | bar {world : World} {ans : Answers} {call : EnterCall} (run : MwAfter env enter cancelled world)
      (intent : call.intent = enter.intent) (opened : enter.Open call.now) :
      MwAfter env enter cancelled (runEnter env ans call world).1
  | other {world after : World} (run : MwAfter env enter cancelled world)
      (apart : after.store.vetos (enter.tradeId, enter.intent.instrument, mwCancelVetoName) =
        world.store.vetos (enter.tradeId, enter.intent.instrument, mwCancelVetoName)) :
      MwAfter env enter cancelled after

theorem runEnter_stopped (env : Env) {tradeId : String} {after : World} {result : ActionResult}
    (gates : entryGates ans call world.store = .ok tradeId)
    (stopped : maybeUpdateMwState ans call world = (after, .error result)) :
    runEnter env ans call world = (after, result) := by
  unfold runEnter runGates
  rw [gates]
  dsimp only
  rw [stopped]

/-- A bar that breaks the pattern cancels the setup. -/
theorem MwEnter.Admits.cancels (env : Env) (admitted : enter.Admits ans call world) (vetoes : ans.store .setVeto = true)
    (breaks : enter.anchors.Breaks call.verified.shell) :
    (runEnter env ans call world).2.IsRejected ∧
      (runEnter env ans call world).1.book =
        world.book.cancelPendingForInstrument ans.sweepCancels enter.intent.instrument ∧
      enter.Cancelled (runEnter env ans call world).1.store := by
  have ends := planMwUpdate_ends enter.anchors (world.store.getMwState call.now enter.tradeId)
    call.verified.shell call.now (call.now + seconds (vetoTtlSeconds 0 enter.intent.notAfter call.now))
  have updated := maybeUpdateMwState_eq enter world admitted.intent admitted.reads
  generalize planMwUpdate enter.anchors _ call.verified.shell call.now _ = update at ends updated
  cases ends with
  | bodiless bodiless =>
    obtain ⟨pullback, pulled, _⟩ := breaks
    have nothing : call.verified.shell.pullback enter.anchors.direction = none := by
      cases enter.anchors.direction with
      | short => simp [Shell.pullback, Shell.bodyLow, bodiless]
      | long => simp [Shell.pullback, Shell.bodyHigh, bodiless]
    rw [nothing] at pulled
    cases pulled
  | folded holds => exact absurd breaks holds
  | cancelled =>
    have stopped := runEnter_stopped env admitted.gates updated
    rw [stopped]
    refine ⟨⟨_, _, _, rfl⟩, rfl, ?_⟩
    intro now opened
    dsimp only
    rw [vetoes, if_pos rfl]
    have kept : ∀ store : Store, (if ans.store .clearMwState then store.clearMwState enter.tradeId
        else store).vetos = store.vetos := by
      intro store
      split
      · rfl
      · rfl
    unfold Store.isVetoed
    rw [kept]
    unfold Store.setVeto
    dsimp only
    rw [Function.update_self, readAt_some, if_pos (open_lt_expiry opened)]
    rfl

/-- A cancelled setup places nothing: its bars end at the gates. -/
theorem MwEnter.Cancelled.rejects (cancelled : enter.Cancelled world.store) (intent : call.intent = enter.intent)
    (opened : enter.Open call.now) :
    ∃ result, runEnter env ans call world = (world, result) ∧ result.IsRejected := by
  cases gates : entryGates ans call world.store with
  | error result =>
    refine ⟨result, ?_, entryGates_rejects gates⟩
    unfold runEnter runGates
    rw [gates]
  | ok tradeId =>
    have known := entryGates_tradeId gates
    rw [intent, enter.traded] at known
    cases known
    have vetoed := cancelled call.now opened
    rw [← intent] at vetoed
    exact absurd (entryGates_unvetoed gates) (vetoGate_stops vetoed (intent ▸ enter.listed))

theorem MwAfter.cancelled {start : World} (run : MwAfter env enter start world)
    (begun : enter.Cancelled start.store) : enter.Cancelled world.store := by
  induction run with
  | start => exact begun
  | bar _ intent opened ih =>
    obtain ⟨result, ends, _⟩ := ih.rejects intent opened
    rw [ends]
    exact ih
  | other _ apart ih =>
    intro now opened
    unfold Store.isVetoed
    rw [apart]
    exact ih now opened

/-- Every bar of an M/W setup that comes to the update while its alert window is open is folded into
its live geometry, in any order and however often it is delivered, unless its body breaks the
pattern: that bar cancels the setup, which never enters again. -/
theorem mwRuns_recover (env : Env) (enter : MwEnter) (start : World)
    (unseeded : start.store.mwStates enter.tradeId = none) :
    (∀ bars world, MwRun env enter start bars world → ∀ now, enter.Open now →
      enter.anchors.Recovers bars (enter.live world.store now)) ∧
    (∀ bars world bars' world', MwRun env enter start bars world → MwRun env enter start bars' world' →
      (∀ bar, bar ∈ bars ↔ bar ∈ bars') → ∀ now, enter.Open now →
      enter.live world.store now = enter.live world'.store now) ∧
    (∀ bars world ans call, MwRun env enter start bars world → enter.Admits ans call world →
      ans.store .setVeto = true → enter.anchors.Breaks call.verified.shell →
      (runEnter env ans call world).2.IsRejected ∧
      (runEnter env ans call world).1.book =
        world.book.cancelPendingForInstrument ans.sweepCancels enter.intent.instrument ∧
      ∀ after, MwAfter env enter (runEnter env ans call world).1 after →
        ∀ ans' call', call'.intent = enter.intent → enter.Open call'.now →
          ∃ result, runEnter env ans' call' after = (after, result) ∧ result.IsRejected) := by
  refine ⟨?_, ?_, ?_⟩
  · intro bars world run
    exact run.recovers unseeded
  · intro bars world bars' world' run run' same now opened
    exact (run.recovers unseeded now opened).unique (run'.recovers unseeded now opened) same
  · intro bars world ans call _ admitted vetoes breaks
    obtain ⟨rejected, book, cancelled⟩ := admitted.cancels env vetoes breaks
    refine ⟨rejected, book, ?_⟩
    intro after run ans' call' intent opened
    exact (run.cancelled cancelled).rejects intent opened

end

/-- An M whose left shoulder is at 200 and whose neckline is at 170, drawn up to its right shoulder at 190. -/
def mSetup : MwEnter where
  intent :=
    { id := "m-1"
      notAfter := seconds 72000
      instrument := "INDEX"
      direction := some .short
      tradeId := some "trade-1"
      vetos := ["mw-cancel"]
      mw := some
        { neckline := 170, firstPoint := 200, runupStart := 100, rightShoulder := some 190,
          spreadPips := 0, pipSize := 1 }
      pipSize := some 1 }
  mw :=
    { neckline := 170, firstPoint := 200, runupStart := 100, rightShoulder := some 190,
      spreadPips := 0, pipSize := 1 }
  tradeId := "trade-1"
  direction := .short
  shaped := rfl
  traded := rfl
  directed := rfl
  listed := List.mem_singleton.mpr rfl

def plainEnv : Env := .plain fun _ => none

/-- The setup's bar with this body. -/
def mBar (time : Int) (openPrice close : Rat) : Shell where
  time
  openPrice := some openPrice
  high := max openPrice close
  low := min openPrice close
  close

def mCall (time : Int) (openPrice close : Rat) : EnterCall where
  verified := ⟨mSetup.intent, mBar time openPrice close⟩
  now := time
  rawBody := none
  granularity := none
  origin := .fresh

theorem mwRuns_recover_mSetup :
    let pulled := (runEnter plainEnv {} (mCall 0 172 165) {}).1
    let broken := (runEnter plainEnv {} (mCall (seconds 3600) 172 150) pulled).1
    mSetup.anchors.Recovers [mBar 0 172 165] (mSetup.live pulled.store (seconds 3600)) ∧
      ∃ result, runEnter plainEnv {} (mCall (seconds 7200) 172 175) broken = (broken, result) ∧
        result.IsRejected := by
  intro pulled broken
  obtain ⟨recovers, _, cancels⟩ := mwRuns_recover plainEnv mSetup {} rfl
  have first : mSetup.Admits {} (mCall 0 172 165) {} := ⟨rfl, by decide, rfl, rfl, rfl⟩
  have second : mSetup.Admits {} (mCall (seconds 3600) 172 150) pulled :=
    ⟨rfl, by decide, by decide +kernel, rfl, rfl⟩
  have holds : ¬ mSetup.anchors.Breaks (mBar 0 172 165) := by
    rintro ⟨pullback, known, past⟩
    have low : some (165 : Rat) = some pullback := known
    cases low
    exact absurd past (by decide +kernel)
  have run : MwRun plainEnv mSetup {} [mBar 0 172 165] pulled := .bar .start first holds
  refine ⟨recovers _ _ run _ (by decide), ?_⟩
  obtain ⟨_, _, after⟩ := cancels _ _ _ _ run second rfl ⟨150, rfl, by decide +kernel⟩
  exact after _ .start {} (mCall (seconds 7200) 172 175) rfl (by decide)

/-- A bar that a pause turns away breaks the pattern unseen, and one past the cancel extension does
not cancel: the setup enters after either. -/
theorem mwRuns_enters_after :
    let paused : World := { store := { pauses := fun _ => [⟨"news", none, seconds 1800⟩] } }
    let turned := (runEnter plainEnv {} (mCall 0 172 150) paused).1
    let stretched := (runEnter plainEnv {} (mCall 0 212 208) {}).1
    (mSetup.anchors.Breaks (mBar 0 172 150) ∧
      (runEnter plainEnv {} (mCall (seconds 3600) 172 175) turned).2.isOk = true) ∧
      (212 ∈ (mBar 0 212 208).reach .short ∧ ¬ mSetup.anchors.Admissible 212 ∧
        (runEnter plainEnv {} (mCall (seconds 3600) 172 175) stretched).2.isOk = true) := by
  refine ⟨⟨⟨150, rfl, by decide +kernel⟩, by decide +kernel⟩, by decide +kernel, by decide +kernel,
    by decide +kernel⟩

end TradeControl
