import TradeControl.Resolution
import TradeControl.TickGrid

namespace TradeControl

/-! The geometry of an entry before the tick grid, and what the grid makes of it. -/

/-- What resolution derives before the tick grid. -/
structure RawGeometry where
  pipSize : Rat
  direction : Direction
  entry : ResolvedEntry
  stopLoss : Rat
  takeProfit : Rat
  recoverEntry : Option ResolvedRecoverEntry

/-- `Resolved::from_intent` up to `finish_with_sizing`. -/
def Intent.rawGeometry (intent : Intent) (shell : Shell) (pipSize : Rat) : Except ResolveError RawGeometry :=
  if intent.action ≠ .enter then .error .notAnEntry
  else match intent.mw with
    | some mw =>
      match intent.direction with
      | none => .error (.missingField "direction")
      | some direction =>
        let (entry, stopLoss, takeProfit) := mwStaticPrices direction mw
        if mwArmed direction shell mw entry then
          .ok { pipSize := mw.pipSize, direction, entry := .stop entry, stopLoss, takeProfit, recoverEntry := none }
        else .error .notArmedYet
    | none =>
      match intent.direction, intent.entry, intent.stopLoss, intent.takeProfit with
      | none, _, _, _ => .error (.missingField "direction")
      | _, none, _, _ => .error (.missingField "entry")
      | _, _, none, _ => .error (.missingField "stop_loss")
      | _, _, _, none => .error (.missingField "take_profit")
      | some direction, some entrySpec, some stopRef, some target => do
        let stopLoss ← stopRef.resolve shell pipSize
        let (entry, recoverEntry) ← entrySpec.resolve shell pipSize stopLoss direction
        let takeProfit ← target.resolve shell pipSize direction entry.referencePrice stopLoss
        return { pipSize, direction, entry, stopLoss, takeProfit, recoverEntry }

def Direction.sign : Direction → Rat
  | .long => 1
  | .short => -1

/-- The line of a grid that a number of steps leads to, as the decimal scrub leaves it. -/
def gridLine (tick : Rat) (steps : Int) : Rat := roundHalfAway (steps * tick) (tickDecimalPlaces tick)

/-- A count of steps is at most half a step short of a whole one; the half itself goes away from zero. -/
def stepsReach (whole : Int) (steps : Rat) : Prop :=
  if 0 < whole then (whole : Rat) - 1 / 2 ≤ steps else (whole : Rat) - 1 / 2 < steps

/-- A resting order's trigger is on the side of the close that the order may rest on; a recovered one may rest at
the close itself. -/
def ResolvedEntry.RestsAt (entry : ResolvedEntry) (direction : Direction) (recovered : Bool) (close : Rat) : Prop :=
  match entry, direction with
  | .market _, _ => True
  | .stop trigger, .long | .limit trigger, .short => if recovered then close ≤ trigger else close < trigger
  | .stop trigger, .short | .limit trigger, .long => if recovered then trigger ≤ close else trigger < close

/-- A line of the grid on that side of the close is at most half a step beyond the trigger. -/
def ResolvedEntry.SnapsTo (entry : ResolvedEntry) (direction : Direction) (recovered : Bool) (close tick : Rat) :
    Prop :=
  match entry, direction with
  | .market _, _ => True
  | .stop trigger, .long | .limit trigger, .short =>
    ∃ line : Int, (if recovered then close ≤ gridLine tick line else close < gridLine tick line) ∧
      stepsReach line (trigger / tick)
  | .stop trigger, .short | .limit trigger, .long =>
    ∃ line : Int, (if recovered then gridLine tick line ≤ close else gridLine tick line < close) ∧
      stepsReach (-line) (-(trigger / tick))

/-- The entry is taken from the bar, not from a level that the operator drew. -/
def EntrySpec.isAnchored : EntrySpec → Bool
  | .market => false
  | .stop spec | .limit spec => spec.atPrice.isNone

/-- The order is resolved to the other resting kind than was asked for. -/
def EntrySpec.recovers : EntrySpec → ResolvedEntry → Bool
  | .stop _, .limit _ | .limit _, .stop _ => true
  | _, _ => false

/-- The bar's entry of an intent rests where it may. -/
def Intent.RestsAt (intent : Intent) (direction : Direction) (entry : ResolvedEntry) (close : Rat) : Prop :=
  ∀ spec, intent.mw = none → intent.entry = some spec → spec.isAnchored = true →
    entry.RestsAt direction (spec.recovers entry) close

def Intent.SnapsTo (intent : Intent) (direction : Direction) (entry : ResolvedEntry) (close tick : Rat) : Prop :=
  ∀ spec, intent.mw = none → intent.entry = some spec → spec.isAnchored = true →
    entry.SnapsTo direction (spec.recovers entry) close tick

namespace RawGeometry

section
variable (raw : RawGeometry) (tick : Rat)

def price : Rat := raw.entry.referencePrice

def snappedEntry : Rat := (raw.entry.round tick).referencePrice

def snappedStop : Rat := roundStopLoss raw.stopLoss (raw.snappedEntry tick) tick

def snappedTarget : Rat := roundTakeProfit raw.takeProfit (raw.snappedEntry tick) tick

/-- The stop's distance on the side it belongs to. -/
def risk : Rat := raw.direction.sign * (raw.price - raw.stopLoss)

def reward : Rat := raw.direction.sign * (raw.takeProfit - raw.price)

/-- How far the grid takes the entry toward its stop. -/
def entryMove : Rat := raw.direction.sign * (raw.price - raw.snappedEntry tick)

/-- How far it takes the stop away from the entry. -/
def stopMove : Rat := raw.direction.sign * (raw.stopLoss - raw.snappedStop tick)

/-- How far it takes the target toward the entry. -/
def targetMove : Rat := raw.direction.sign * (raw.takeProfit - raw.snappedTarget tick)

def snappedRatio : Rat :=
  |raw.snappedTarget tick - raw.snappedEntry tick| / |raw.snappedEntry tick - raw.snappedStop tick|

/-- The snapped prices are in order. -/
def Ordered : Prop := inRange raw.direction (raw.snappedStop tick) (raw.snappedEntry tick) (raw.snappedTarget tick) = true

/-- The ratio of the distances as derived is below a floor. -/
def Below (minR : Rat) : Prop := |raw.takeProfit - raw.price| < minR * |raw.price - raw.stopLoss|

/-- The reward, with what the entry's move gives to both distances, pays for the risk and the other moves. -/
def Clears (minR : Rat) : Prop :=
  minR * (raw.risk + raw.stopMove tick) + raw.targetMove tick ≤ raw.reward + (1 + minR) * raw.entryMove tick

/-- The snapped geometry that the scripts are evaluated over. -/
def snapshot (intent : Intent) : Resolved where
  setupId := intent.tradeId.getD intent.id
  instrument := intent.instrument
  direction := raw.direction
  entry := raw.entry.round tick
  stopLoss := raw.snappedStop tick
  takeProfit := raw.snappedTarget tick
  minR := minRFloor
  dryRun := intent.dryRun.getD false
  recoverEntry := raw.recoverEntry

/-- The floor that the intent asks for. -/
def effectiveMinR (rules : Rules) (intent : Intent) (shell : Shell) : Except ResolveError Rat :=
  match intent.minR with
  | none => .ok minRFloor
  | some tunable => rules.resolveRat "min_r" shell (raw.snapshot tick intent) raw.pipSize tunable

/-- The checks that are left beside those of the geometry, with the floor that comes of them. -/
structure Sized (rules : Rules) (intent : Intent) (shell : Shell) (minR : Rat) : Prop where
  oneMode : (intent.riskAmount.isSome && intent.sizeUnits.isSome) = false
  floor : raw.effectiveMinR tick rules intent shell = .ok minR
  least : minRFloor ≤ minR
  budget : checkRisk rules intent shell (raw.snapshot tick intent) raw.pipSize = .ok ()

def finish (rules : Rules) (intent : Intent) (shell : Shell) : Except ResolveError Resolved :=
  finishWithSizing rules intent shell raw.pipSize tick raw.direction raw.entry raw.stopLoss raw.takeProfit
    raw.recoverEntry

end

end RawGeometry

/-- The tick grid undoes nothing of an entry's geometry that was checked. -/
structure SnapSafe (rules : Rules) (intent : Intent) (shell : Shell) (pipSize tick : Rat) : Prop where
  rests : ∀ resolved, Resolved.fromIntent rules intent shell pipSize tick = .ok resolved →
    intent.RestsAt resolved.direction resolved.entry shell.close
  floor : ∀ raw resolved, intent.rawGeometry shell pipSize = .ok raw →
    Resolved.fromIntent rules intent shell pipSize tick = .ok resolved → ¬ raw.Below resolved.minR

/-- Where the floor comes out as `minR`: a ratio below it is not made up for by the entry's move, and an accepted
trigger finds a line of the grid on its side. -/
structure RawGeometry.SnapsSafely (raw : RawGeometry) (intent : Intent) (shell : Shell) (tick minR : Rat) : Prop where
  floor : raw.Below minR → ¬ raw.Clears tick minR
  rests : raw.Clears tick minR → intent.SnapsTo raw.direction raw.entry shell.close tick

section
variable {rules : Rules} {intent : Intent} {shell : Shell} {pipSize tick : Rat} {raw : RawGeometry}

theorem fromIntent_eq (rules : Rules) (intent : Intent) (shell : Shell) (pipSize tick : Rat) :
    Resolved.fromIntent rules intent shell pipSize tick =
      (intent.rawGeometry shell pipSize).bind fun raw => raw.finish tick rules intent shell := by
  unfold Resolved.fromIntent Intent.rawGeometry
  split
  · rfl
  cases intent.mw with
  | some mw =>
    dsimp only
    unfold Resolved.fromMwIntent
    cases intent.direction with
    | none => rfl
    | some direction =>
      dsimp only
      split
      · rfl
      · rfl
  | none =>
    dsimp only
    cases intent.direction with
    | none => rfl
    | some direction =>
    cases intent.entry with
    | none => rfl
    | some entrySpec =>
    cases intent.stopLoss with
    | none => rfl
    | some stopRef =>
    cases intent.takeProfit with
    | none => rfl
    | some target =>
    dsimp only
    cases stopRef.resolve shell pipSize with
    | error error => rfl
    | ok stopLoss =>
      simp only [bind, Except.bind]
      cases entrySpec.resolve shell pipSize stopLoss direction with
      | error error => rfl
      | ok entry =>
        dsimp only
        cases target.resolve shell pipSize direction entry.1.referencePrice stopLoss with
        | error error => rfl
        | ok takeProfit => rfl

theorem snappedEntry_eq (raw : RawGeometry) (tick : Rat) : raw.snappedEntry tick = roundPrice raw.price tick := by
  unfold RawGeometry.snappedEntry RawGeometry.price
  cases raw.entry <;> rfl

theorem finish_eq (rules : Rules) (intent : Intent) (shell : Shell) (raw : RawGeometry) (tick : Rat) :
    raw.finish tick rules intent shell =
      if (intent.riskAmount.isSome && intent.sizeUnits.isSome) = true then .error .bothRiskModesSet
      else if (!inRange raw.direction (raw.snappedStop tick) (raw.snappedEntry tick) (raw.snappedTarget tick)) = true then
        .error (.entryOutsideRange (raw.snappedEntry tick) (raw.snappedStop tick) (raw.snappedTarget tick))
      else match raw.effectiveMinR tick rules intent shell with
      | .error error => .error error
      | .ok minR =>
        if minR < minRFloor then .error (.minRBelowFloor minR)
        else if raw.snappedRatio tick < minR then .error (.belowMinR (raw.snappedRatio tick) minR)
        else match checkRisk rules intent shell (raw.snapshot tick intent) raw.pipSize with
        | .error error => .error error
        | .ok _ => .ok { raw.snapshot tick intent with minR } := by
  have entry : (raw.entry.round tick).referencePrice = raw.snappedEntry tick := rfl
  have stop : roundStopLoss raw.stopLoss (raw.snappedEntry tick) tick = raw.snappedStop tick := rfl
  have target : roundTakeProfit raw.takeProfit (raw.snappedEntry tick) tick = raw.snappedTarget tick := rfl
  have ratio : |raw.snappedTarget tick - raw.snappedEntry tick| / |raw.snappedEntry tick - raw.snappedStop tick| =
      raw.snappedRatio tick := rfl
  have snapshot : raw.snapshot tick intent =
      { setupId := intent.tradeId.getD intent.id, instrument := intent.instrument, direction := raw.direction
        entry := raw.entry.round tick, stopLoss := raw.snappedStop tick, takeProfit := raw.snappedTarget tick
        minR := minRFloor, dryRun := intent.dryRun.getD false, recoverEntry := raw.recoverEntry } := rfl
  unfold RawGeometry.finish finishWithSizing RawGeometry.effectiveMinR
  simp only [bind, Except.bind, pure, Except.pure, throw, throwThe, MonadExceptOf.throw, entry, stop, target, ratio,
    ← snapshot]
  cases checkRisk rules intent shell (raw.snapshot tick intent) raw.pipSize <;> cases intent.minR with
  | none => rfl
  | some tunable =>
    dsimp only
    cases rules.resolveRat "min_r" shell (raw.snapshot tick intent) raw.pipSize tunable <;> rfl

/-- What resolution accepts: snapped prices in order, at a ratio no less than the floor. -/
theorem finish_ok_iff {resolved : Resolved} :
    raw.finish tick rules intent shell = .ok resolved ↔
      raw.Ordered tick ∧ ∃ minR, raw.Sized tick rules intent shell minR ∧ minR ≤ raw.snappedRatio tick ∧
        resolved = { raw.snapshot tick intent with minR } := by
  rw [finish_eq]
  constructor
  · intro accepted
    split at accepted
    · cases accepted
    next oneMode =>
    split at accepted
    · cases accepted
    next ordered =>
    split at accepted
    · cases accepted
    next minR floor =>
    split at accepted
    · cases accepted
    next least =>
    split at accepted
    · cases accepted
    next cleared =>
    split at accepted
    · cases accepted
    next budget =>
    refine ⟨by simpa [RawGeometry.Ordered] using ordered, minR, ⟨by simpa using oneMode, floor, not_lt.mp least, budget⟩,
      not_lt.mp cleared, (Except.ok.inj accepted).symm⟩
  · rintro ⟨ordered, minR, sized, cleared, rfl⟩
    unfold RawGeometry.Ordered at ordered
    rw [sized.oneMode, ordered, sized.floor, if_neg Bool.false_ne_true, if_neg (by simp)]
    dsimp only
    rw [if_neg (not_lt.mpr sized.least), if_neg (not_lt.mpr cleared), sized.budget]

theorem sign_mul_abs {direction : Direction} {distance : Rat} (side : 0 < direction.sign * distance) :
    |distance| = direction.sign * distance := by
  cases direction with
  | long =>
    simp only [Direction.sign, one_mul] at side ⊢
    exact abs_of_pos side
  | short =>
    simp only [Direction.sign, neg_mul, one_mul, Left.neg_pos_iff] at side ⊢
    exact abs_of_neg side

theorem ordered_iff (raw : RawGeometry) (tick : Rat) :
    raw.Ordered tick ↔ 0 < raw.direction.sign * (raw.snappedEntry tick - raw.snappedStop tick) ∧
      0 < raw.direction.sign * (raw.snappedTarget tick - raw.snappedEntry tick) := by
  unfold RawGeometry.Ordered inRange
  cases raw.direction with
  | long => simp [Direction.sign]
  | short =>
    simp only [Direction.sign, Bool.and_eq_true, decide_eq_true_eq, neg_mul, one_mul, neg_sub, sub_pos]
    exact and_comm

/-- Of snapped prices in order, the ratio is no less than a floor exactly if the entry's move pays. -/
theorem clears_iff {minR : Rat} (ordered : raw.Ordered tick) : minR ≤ raw.snappedRatio tick ↔ raw.Clears tick minR := by
  obtain ⟨risk, reward⟩ := (ordered_iff raw tick).mp ordered
  unfold RawGeometry.snappedRatio
  rw [sign_mul_abs risk, sign_mul_abs reward, le_div_iff₀ risk]
  unfold RawGeometry.Clears RawGeometry.risk RawGeometry.reward RawGeometry.entryMove RawGeometry.stopMove
    RawGeometry.targetMove
  constructor <;> intro bound <;> linarith

theorem le_roundHalfAwayInt_iff (whole : Int) (steps : Rat) : whole ≤ roundHalfAwayInt steps ↔ stepsReach whole steps := by
  unfold roundHalfAwayInt stepsReach
  by_cases positive : 0 < whole
  · have least : (1 : Rat) ≤ whole := by exact_mod_cast positive
    rw [if_pos positive]
    split
    · rw [Int.le_floor, sub_le_iff_le_add]
    next negative =>
      refine iff_of_false (fun reached => ?_) fun reached => by linarith
      have below := Int.ceil_lt_add_one (steps - 1 / 2)
      have bound : (whole : Rat) ≤ (⌈steps - 1 / 2⌉ : Int) := by exact_mod_cast reached
      linarith
  · have most : (whole : Rat) ≤ 0 := by exact_mod_cast not_lt.mp positive
    rw [if_neg positive]
    split
    next nonneg =>
      refine iff_of_true (Int.le_floor.mpr ?_) ?_ <;> linarith
    · rw [Int.le_ceil_iff]
      constructor <;> intro bound <;> linarith

theorem roundHalfAwayInt_le_iff (whole : Int) (steps : Rat) :
    roundHalfAwayInt steps ≤ whole ↔ stepsReach (-whole) (-steps) := by
  rw [← le_roundHalfAwayInt_iff, roundHalfAwayInt_neg, neg_le_neg_iff]

theorem gridLine_mono (positive : 0 < tick) {first second : Int} (le : first ≤ second) :
    gridLine tick first ≤ gridLine tick second := by
  unfold gridLine roundHalfAway
  have steps : (first : Rat) * tick * 10 ^ tickDecimalPlaces tick ≤ second * tick * 10 ^ tickDecimalPlaces tick := by
    have order : (first : Rat) ≤ second := by exact_mod_cast le
    have scaled := mul_le_mul_of_nonneg_right order positive.le
    exact mul_le_mul_of_nonneg_right scaled (by positivity)
  have lines : (roundHalfAwayInt (first * tick * 10 ^ tickDecimalPlaces tick) : Rat) ≤
      roundHalfAwayInt (second * tick * 10 ^ tickDecimalPlaces tick) := by
    exact_mod_cast roundHalfAwayInt_mono steps
  exact div_le_div_of_nonneg_right lines (by positivity)

theorem roundPrice_eq (positive : 0 < tick) (price : Rat) :
    roundPrice price tick = gridLine tick (roundHalfAwayInt (price / tick)) := by
  unfold roundPrice gridLine
  rw [roundToTick_eq positive]
  unfold snapSteps
  split <;> rfl

theorem snaps_above (positive : 0 < tick) (strict : Bool) (close trigger : Rat) :
    (if strict then close ≤ roundPrice trigger tick else close < roundPrice trigger tick) ↔
      ∃ line : Int, (if strict then close ≤ gridLine tick line else close < gridLine tick line) ∧
        stepsReach line (trigger / tick) := by
  rw [roundPrice_eq positive]
  constructor
  · exact fun beyond => ⟨_, beyond, (le_roundHalfAwayInt_iff _ _).mp le_rfl⟩
  · rintro ⟨line, beyond, reached⟩
    have up := gridLine_mono positive ((le_roundHalfAwayInt_iff _ _).mpr reached)
    cases strict with
    | true => exact le_trans beyond up
    | false => exact lt_of_lt_of_le beyond up

theorem snaps_below (positive : 0 < tick) (strict : Bool) (close trigger : Rat) :
    (if strict then roundPrice trigger tick ≤ close else roundPrice trigger tick < close) ↔
      ∃ line : Int, (if strict then gridLine tick line ≤ close else gridLine tick line < close) ∧
        stepsReach (-line) (-(trigger / tick)) := by
  rw [roundPrice_eq positive]
  constructor
  · exact fun beyond => ⟨_, beyond, (roundHalfAwayInt_le_iff _ _).mp le_rfl⟩
  · rintro ⟨line, beyond, reached⟩
    have down := gridLine_mono positive ((roundHalfAwayInt_le_iff _ _).mpr reached)
    cases strict with
    | true => exact le_trans down beyond
    | false => exact lt_of_le_of_lt down beyond

theorem round_restsAt_iff (positive : 0 < tick) (entry : ResolvedEntry) (direction : Direction) (recovered : Bool)
    (close : Rat) : (entry.round tick).RestsAt direction recovered close ↔
      entry.SnapsTo direction recovered close tick := by
  cases entry with
  | market => exact Iff.rfl
  | stop trigger =>
    cases direction with
    | long => exact snaps_above positive recovered close trigger
    | short => exact snaps_below positive recovered close trigger
  | limit trigger =>
    cases direction with
    | long => exact snaps_below positive recovered close trigger
    | short => exact snaps_above positive recovered close trigger

theorem recovers_round (spec : EntrySpec) (entry : ResolvedEntry) (tick : Rat) :
    spec.recovers (entry.round tick) = spec.recovers entry := by
  cases spec <;> cases entry <;> rfl

/-- The tick grid undoes nothing exactly if every ordered outcome of it is safe under the floor it is checked with. -/
theorem snapSafe_iff (positive : 0 < tick) :
    SnapSafe rules intent shell pipSize tick ↔
      ∀ raw, intent.rawGeometry shell pipSize = .ok raw → raw.Ordered tick →
        ∀ minR, raw.Sized tick rules intent shell minR → raw.SnapsSafely intent shell tick minR := by
  have accepted : ∀ {raw resolved}, intent.rawGeometry shell pipSize = .ok raw →
      (Resolved.fromIntent rules intent shell pipSize tick = .ok resolved ↔
        raw.finish tick rules intent shell = .ok resolved) := by
    intro raw resolved derived
    rw [fromIntent_eq, derived]
    rfl
  constructor
  · intro safe raw derived ordered minR sized
    have resolves (clears : raw.Clears tick minR) : Resolved.fromIntent rules intent shell pipSize tick =
        .ok { raw.snapshot tick intent with minR } :=
      (accepted derived).mpr (finish_ok_iff.mpr ⟨ordered, minR, sized, (clears_iff ordered).mpr clears, rfl⟩)
    refine ⟨fun below clears => safe.floor raw _ derived (resolves clears) below, ?_⟩
    intro clears spec noMw given anchored
    have rests := safe.rests _ (resolves clears) spec noMw given anchored
    exact (round_restsAt_iff positive _ _ _ _).mp (recovers_round spec raw.entry tick ▸ rests)
  · intro safely
    have taken : ∀ {resolved}, Resolved.fromIntent rules intent shell pipSize tick = .ok resolved →
        ∃ raw, intent.rawGeometry shell pipSize = .ok raw ∧ raw.Clears tick resolved.minR ∧
          raw.SnapsSafely intent shell tick resolved.minR ∧ resolved.direction = raw.direction ∧
          resolved.entry = raw.entry.round tick := by
      intro resolved resolves
      cases derived : intent.rawGeometry shell pipSize with
      | error error =>
        rw [fromIntent_eq, derived] at resolves
        cases resolves
      | ok raw =>
        obtain ⟨ordered, minR, sized, cleared, rfl⟩ := finish_ok_iff.mp ((accepted derived).mp resolves)
        exact ⟨raw, rfl, (clears_iff ordered).mp cleared, safely raw derived ordered minR sized, rfl, rfl⟩
    constructor
    · intro resolved resolves spec noMw given anchored
      obtain ⟨raw, _, clears, safe, direction, entry⟩ := taken resolves
      rw [direction, entry, recovers_round]
      exact (round_restsAt_iff positive _ _ _ _).mpr (safe.rests clears spec noMw given anchored)
    · intro raw resolved derived resolves
      obtain ⟨raw', derived', clears, safe, _, _⟩ := taken resolves
      rw [derived] at derived'
      cases derived'
      exact fun below => safe.floor below clears

end

/-- A rule engine that no script parses in. -/
def scriptless : Rules where
  naturals _ _ := .error .parse
  rationals _ _ _ _ := .error .parse
  booleans _ _ _ _ := .error .parse

def stillBar (close : Rat) : Shell where
  time := 0
  high := 1
  low := 1
  close := close

/-- A long that rests some pips above the bar. -/
def longAbove (pips : Rat) : Intent where
  id := "setup-1"
  notAfter := 0
  instrument := "EUR_USD"
  direction := some .long
  entry := some (.stop { source := .high, offsetPips := pips })
  stopLoss := some (.absolute (98 / 100))
  takeProfit := some (.anchored (.absolute (11 / 10)))

/-- A long at the close, with its target less than the stop's distance away. -/
def longNow : Intent :=
  { longAbove 1 with entry := some .market, takeProfit := some (.anchored (.absolute (10225 / 10000))) }

theorem snapSafe_iff_longAbove :
    SnapSafe scriptless (longAbove 1) (stillBar 1) (1 / 100) (1 / 100) ↔
      ∀ raw, (longAbove 1).rawGeometry (stillBar 1) (1 / 100) = .ok raw → raw.Ordered (1 / 100) →
        ∀ minR, raw.Sized (1 / 100) scriptless (longAbove 1) (stillBar 1) minR →
          raw.SnapsSafely (longAbove 1) (stillBar 1) (1 / 100) minR :=
  snapSafe_iff (by norm_num)

/-- A stop four tenths of a pip above the close is carried at the close; and an entry of 1.004 goes to 1, which
brings a ratio of 185 to 240 up to one. -/
theorem snapSafe_undone :
    (Resolved.fromIntent scriptless (longAbove (4 / 10)) (stillBar 1) (1 / 100) (1 / 100)).toOption.map
        (fun resolved => (resolved.direction, resolved.entry)) = some (.long, .stop 1) ∧
      ¬ SnapSafe scriptless (longAbove (4 / 10)) (stillBar 1) (1 / 100) (1 / 100) ∧
      (Resolved.fromIntent scriptless longNow (stillBar (1004 / 1000)) (1 / 100) (1 / 100)).toOption.map
        (fun resolved => (resolved.entry, resolved.stopLoss, resolved.takeProfit, resolved.minR)) =
          some (.market 1, 98 / 100, 102 / 100, 1) ∧
      ¬ SnapSafe scriptless longNow (stillBar (1004 / 1000)) (1 / 100) (1 / 100) := by
  have carried : (Resolved.fromIntent scriptless (longAbove (4 / 10)) (stillBar 1) (1 / 100) (1 / 100)).toOption.map
      (fun resolved => (resolved.direction, resolved.entry)) = some (.long, .stop 1) := by decide +kernel
  have raised : (Resolved.fromIntent scriptless longNow (stillBar (1004 / 1000)) (1 / 100) (1 / 100)).toOption.map
      (fun resolved => (resolved.entry, resolved.stopLoss, resolved.takeProfit, resolved.minR)) =
        some (.market 1, 98 / 100, 102 / 100, 1) := by decide +kernel
  refine ⟨carried, fun safe => ?_, raised, fun safe => ?_⟩
  · cases resolves : Resolved.fromIntent scriptless (longAbove (4 / 10)) (stillBar 1) (1 / 100) (1 / 100) with
    | error error =>
      rw [resolves] at carried
      cases carried
    | ok resolved =>
      rw [resolves] at carried
      obtain ⟨direction, entry⟩ := Prod.mk.inj (Option.some.inj carried)
      have rests := safe.rests resolved resolves _ rfl rfl rfl
      rw [direction, entry] at rests
      exact lt_irrefl (1 : Rat) rests
  · cases resolves : Resolved.fromIntent scriptless longNow (stillBar (1004 / 1000)) (1 / 100) (1 / 100) with
    | error error =>
      rw [resolves] at raised
      cases raised
    | ok resolved =>
      rw [resolves] at raised
      obtain ⟨_, prices⟩ := Prod.mk.inj (Option.some.inj raised)
      obtain ⟨_, prices⟩ := Prod.mk.inj prices
      obtain ⟨_, floor⟩ := Prod.mk.inj prices
      have kept := safe.floor _ resolved rfl resolves
      rw [floor] at kept
      exact kept (by norm_num [RawGeometry.Below, RawGeometry.price, ResolvedEntry.referencePrice, stillBar])

end TradeControl
