import TradeControl.BreakevenArms

namespace TradeControl

/-- The triggers that the price's progress arms. -/
def BreakevenTrigger.includesProgress : BreakevenTrigger → Bool
  | .priceProgress | .priceProgressOrMaCross => true
  | .maCrossOnly | .maProtectionOnly => false

/-- A close at a level or past it in the trade's favour. -/
def Direction.reached (direction : Direction) (level close : Rat) : Prop :=
  match direction with
  | .long => level ≤ close
  | .short => close ≤ level

/-- A bar that closed after the fill and by now and opened outside the spread hours closed at or past the
level, and the stop is short of the entry. -/
structure BreakevenInputs.Armed (spreads : SpreadCalendar) (inputs : BreakevenInputs) (fillAt : Int)
    (candles : List Candle) (now : Int) : Prop where
  trigger : inputs.snapshot.rule.trigger.includesProgress = true
  ran : ∃ candle ∈ candles, fillAt < candle.time + seconds inputs.snapshot.granularity.seconds ∧
    candle.time + seconds inputs.snapshot.granularity.seconds ≤ now ∧
    spreads.isSpreadHour (spreads.lookupKey inputs.instrument) candle.time = false ∧
    inputs.direction.reached (inputs.snapshot.rule.armsAt inputs.targetEntry inputs.snapshot.takeProfit) candle.c
  short : inputs.direction.tighter inputs.targetEntry inputs.currentStop = true

/-- The stop is moved, or would be but for the noise. -/
def BreakevenDecision.isArmed : BreakevenDecision → Bool
  | .amend .. | .blocked (.insideNoise ..) => true
  | .hold | .blocked .noFillTime => false

/-- Decisions that differ at most in which of several bars with one close they name. -/
inductive BreakevenDecision.Alike : BreakevenDecision → BreakevenDecision → Prop
  | hold : Alike .hold .hold
  | blocked (block : BreakevenBlock) : Alike (.blocked block) (.blocked block)
  | amend (newStop armedBy : Rat) (armedAt armedAt' : Int) :
      Alike (.amend newStop armedBy armedAt) (.amend newStop armedBy armedAt')

section
variable {direction : Direction} {rule : Breakeven} {level : Rat}

theorem closeArms_iff {close : Rat} :
    rule.closeArms direction level close = true ↔
      rule.trigger.includesProgress = true ∧ direction.reached level close := by
  unfold Breakeven.closeArms BreakevenTrigger.includesProgress Direction.reached
  cases rule.trigger <;> cases direction <;> simp

/-- What is at least as far along as another close. -/
theorem moreProgressed_trans {a b c : Rat} (first : moreProgressed direction a b = b)
    (second : moreProgressed direction b c = c) : moreProgressed direction a c = c := by
  cases direction with
  | long =>
    simp only [moreProgressed, max_eq_right_iff] at *
    exact first.trans second
  | short =>
    simp only [moreProgressed, min_eq_right_iff] at *
    exact second.trans first

theorem moreProgressed_antisymm {a b : Rat} (first : moreProgressed direction a b = b)
    (second : moreProgressed direction b a = a) : a = b := by
  cases direction with
  | long =>
    simp only [moreProgressed, max_eq_right_iff] at *
    exact le_antisymm first second
  | short =>
    simp only [moreProgressed, min_eq_right_iff] at *
    exact le_antisymm second first

theorem moreProgressed_self (direction : Direction) (a : Rat) : moreProgressed direction a a = a := by
  cases direction with
  | long => exact max_self a
  | short => exact min_self a

theorem progressed_spec (direction : Direction) (a b : Candle) :
    (progressed direction a b = a ∨ progressed direction a b = b) ∧
      moreProgressed direction a.c (progressed direction a b).c = (progressed direction a b).c ∧
      moreProgressed direction b.c (progressed direction a b).c = (progressed direction a b).c := by
  unfold progressed
  split
  next later => exact ⟨.inr rfl, later, moreProgressed_self _ _⟩
  next earlier =>
    refine ⟨.inl rfl, moreProgressed_self _ _, ?_⟩
    cases direction with
    | long =>
      simp only [moreProgressed, max_eq_right_iff] at *
      exact (not_le.mp earlier).le
    | short =>
      simp only [moreProgressed, min_eq_right_iff] at *
      exact (not_le.mp earlier).le

theorem foldl_progressed_spec (first : Candle) (rest : List Candle) :
    rest.foldl (progressed direction) first ∈ first :: rest ∧
      ∀ candle ∈ first :: rest, moreProgressed direction candle.c (rest.foldl (progressed direction) first).c =
        (rest.foldl (progressed direction) first).c := by
  induction rest generalizing first with
  | nil => exact ⟨List.mem_cons_self, by simp [moreProgressed_self]⟩
  | cons next rest ih =>
    rw [List.foldl_cons]
    obtain ⟨which, pastFirst, pastNext⟩ := progressed_spec direction first next
    obtain ⟨listed, best⟩ := ih (progressed direction first next)
    have pastBoth := best _ List.mem_cons_self
    refine ⟨?_, ?_⟩
    · rcases List.mem_cons.mp listed with same | later
      · rw [same]
        rcases which with same | same
        · rw [same]
          exact List.mem_cons_self
        · rw [same]
          exact List.mem_cons_of_mem _ List.mem_cons_self
      · exact List.mem_cons_of_mem _ (List.mem_cons_of_mem _ later)
    · intro candle member
      rcases List.mem_cons.mp member with rfl | member
      · exact moreProgressed_trans pastFirst pastBoth
      · rcases List.mem_cons.mp member with rfl | member
        · exact moreProgressed_trans pastNext pastBoth
        · exact best candle (List.mem_cons_of_mem _ member)

/-- The most progressed of some bars is one of them and no other's close is past its own. -/
theorem mostProgressed_spec {candles : List Candle} {best : Candle}
    (found : mostProgressed direction candles = some best) :
    best ∈ candles ∧ ∀ candle ∈ candles, moreProgressed direction candle.c best.c = best.c := by
  cases candles with
  | nil => cases found
  | cons first rest =>
    cases found
    exact foldl_progressed_spec first rest

theorem mostProgressed_none {candles : List Candle} : mostProgressed direction candles = none ↔ candles = [] := by
  cases candles with
  | nil => simp [mostProgressed]
  | cons first rest => simp [mostProgressed]

end

section
variable {spreads : SpreadCalendar} {inputs : BreakevenInputs} {fillAt now : Int} {candles : List Candle}

theorem mem_armableCandles {candle : Candle} :
    candle ∈ armableCandles spreads inputs fillAt now candles ↔
      candle ∈ candles ∧ fillAt < candle.time + seconds inputs.snapshot.granularity.seconds ∧
        candle.time + seconds inputs.snapshot.granularity.seconds ≤ now ∧
        spreads.isSpreadHour (spreads.lookupKey inputs.instrument) candle.time = false := by
  unfold armableCandles BreakevenInputs.armable
  rw [List.mem_filter]
  simp only [Bool.and_eq_true, decide_eq_true_eq, Bool.not_eq_true']
  constructor
  · rintro ⟨member, ⟨closed, after⟩, calm⟩
    exact ⟨member, after, closed, calm⟩
  · rintro ⟨member, after, closed, calm⟩
    exact ⟨member, ⟨closed, after⟩, calm⟩

/-- What an armed position is answered, after the noise floor's word. -/
def BreakevenInputs.verdict (inputs : BreakevenInputs) (armable : List Candle) (best : Candle) :
    BreakevenDecision :=
  match noiseViolation armable inputs.targetEntry inputs.snapshot.granularity with
  | some block => .blocked block
  | none => .amend inputs.targetEntry best.c best.time

theorem noiseViolation_inside {armable : List Candle} {newStop : Rat} {granularity : Granularity}
    {block : BreakevenBlock} (violates : noiseViolation armable newStop granularity = some block) :
    ∃ reference distance floor, block = .insideNoise newStop reference distance floor := by
  unfold noiseViolation at violates
  split at violates
  · dsimp only at violates
    split at violates
    · cases violates
      exact ⟨_, _, _, rfl⟩
    · cases violates
  · cases violates

theorem verdict_isArmed (inputs : BreakevenInputs) (armable : List Candle) (best : Candle) :
    (inputs.verdict armable best).isArmed = true := by
  unfold BreakevenInputs.verdict
  split
  next block violates =>
    obtain ⟨_, _, _, rfl⟩ := noiseViolation_inside violates
    rfl
  · rfl

/-- With a fill time the stop is left alone where nothing arms, and else the verdict is the most progressed
bar's. -/
theorem decideForAccount_filled (filled : inputs.fill.openedAt = some fillAt) (candles : List Candle) (now : Int) :
    (¬inputs.Armed spreads fillAt candles now ∧ decideForAccount spreads inputs candles now = .hold) ∨
      (inputs.Armed spreads fillAt candles now ∧ ∃ best,
        mostProgressed inputs.direction (armableCandles spreads inputs fillAt now candles) = some best ∧
        decideForAccount spreads inputs candles now =
          inputs.verdict (armableCandles spreads inputs fillAt now candles) best) := by
  unfold decideForAccount
  rw [filled]
  dsimp only
  cases found : mostProgressed inputs.direction (armableCandles spreads inputs fillAt now candles) with
  | none =>
    refine .inl ⟨fun armed => ?_, rfl⟩
    obtain ⟨candle, member, after, closed, calm, _⟩ := armed.ran
    have listed := mem_armableCandles.mpr ⟨member, after, closed, calm⟩
    rw [mostProgressed_none.mp found] at listed
    cases listed
  | some best =>
    have arms := mostProgressed_arms inputs.snapshot.rule
      (inputs.snapshot.rule.armsAt inputs.targetEntry inputs.snapshot.takeProfit) found
    have armed_iff : inputs.Armed spreads fillAt candles now ↔
        inputs.snapshot.rule.closeArms inputs.direction
            (inputs.snapshot.rule.armsAt inputs.targetEntry inputs.snapshot.takeProfit) best.c = true ∧
          inputs.direction.alreadyAt inputs.currentStop inputs.targetEntry = false := by
      rw [arms, ← Direction.tighter_iff_not_alreadyAt]
      constructor
      · rintro ⟨trigger, ⟨candle, member, after, closed, calm, reached⟩, short⟩
        exact ⟨⟨candle, mem_armableCandles.mpr ⟨member, after, closed, calm⟩,
          closeArms_iff.mpr ⟨trigger, reached⟩⟩, short⟩
      · rintro ⟨⟨candle, listed, closes⟩, short⟩
        obtain ⟨member, after, closed, calm⟩ := mem_armableCandles.mp listed
        obtain ⟨trigger, reached⟩ := closeArms_iff.mp closes
        exact ⟨trigger, ⟨candle, member, after, closed, calm, reached⟩, short⟩
    dsimp only
    unfold Breakeven.decideMove
    by_cases closes : inputs.snapshot.rule.closeArms inputs.direction
        (inputs.snapshot.rule.armsAt inputs.targetEntry inputs.snapshot.takeProfit) best.c = true
    · by_cases there : inputs.direction.alreadyAt inputs.currentStop inputs.targetEntry = true
      · refine .inl ⟨fun armed => ?_, ?_⟩
        · rw [(armed_iff.mp armed).2] at there
          cases there
        · rw [closes, there]
          rfl
      · refine .inr ⟨armed_iff.mpr ⟨closes, by simpa using there⟩, best, rfl, ?_⟩
        rw [closes, if_neg (by simp), if_neg there]
        rfl
    · refine .inl ⟨fun armed => closes (armed_iff.mp armed).1, ?_⟩
      rw [if_pos (by simpa using closes)]

/-- Whether break-even is decided one way, for all of the history and for good. -/
structure BreakevenLatched (spreads : SpreadCalendar) (inputs : BreakevenInputs) (fillAt : Int)
    (candles : List Candle) (now : Int) : Prop where
  armed : (decideForAccount spreads inputs candles now).isArmed = true ↔ inputs.Armed spreads fillAt candles now
  amends : ∀ newStop armedBy armedAt, decideForAccount spreads inputs candles now = .amend newStop armedBy armedAt →
    newStop = inputs.targetEntry ∧ inputs.direction.tighter newStop inputs.currentStop = true
  relisted : ∀ others : List Candle, (∀ candle, candle ∈ others ↔ candle ∈ candles) →
    (decideForAccount spreads inputs others now).isArmed = (decideForAccount spreads inputs candles now).isArmed ∧
      (noiseViolation (armableCandles spreads inputs fillAt now others) inputs.targetEntry
            inputs.snapshot.granularity =
          noiseViolation (armableCandles spreads inputs fillAt now candles) inputs.targetEntry
            inputs.snapshot.granularity →
        (decideForAccount spreads inputs candles now).Alike (decideForAccount spreads inputs others now))
  named : ∀ newStop armedBy armedAt, decideForAccount spreads inputs candles now = .amend newStop armedBy armedAt →
    ∃ bar ∈ armableCandles spreads inputs fillAt now candles, bar.c = armedBy ∧ bar.time = armedAt ∧
      ∀ other ∈ armableCandles spreads inputs fillAt now candles,
        moreProgressed inputs.direction other.c armedBy = armedBy
  later : ∀ (more : List Candle) (later : Int), candles ⊆ more → now ≤ later →
    (decideForAccount spreads inputs candles now).isArmed = true →
      (decideForAccount spreads inputs more later).isArmed = true
  settled : ∀ newStop armedBy armedAt, decideForAccount spreads inputs candles now = .amend newStop armedBy armedAt →
    ∀ again later, decideForAccount spreads { inputs with currentStop := newStop } again later = .hold

theorem isArmed_iff (filled : inputs.fill.openedAt = some fillAt) (candles : List Candle) (now : Int) :
    (decideForAccount spreads inputs candles now).isArmed = true ↔ inputs.Armed spreads fillAt candles now := by
  rcases decideForAccount_filled filled candles now with ⟨unarmed, decided⟩ | ⟨armed, best, _, decided⟩
  · rw [decided]
    exact ⟨fun absurdly => (by cases absurdly), fun armed => absurd armed unarmed⟩
  · rw [decided]
    exact ⟨fun _ => armed, fun _ => verdict_isArmed _ _ _⟩

/-- More bars and more time leave what was armed armed. -/
theorem armed_mono {more : List Candle} {later : Int} (within : candles ⊆ more) (onward : now ≤ later)
    (armed : inputs.Armed spreads fillAt candles now) : inputs.Armed spreads fillAt more later := by
  obtain ⟨candle, member, after, closed, rest⟩ := armed.ran
  exact ⟨armed.trigger, ⟨candle, within member, after, closed.trans onward, rest⟩, armed.short⟩

theorem amended_verdict (filled : inputs.fill.openedAt = some fillAt) {newStop armedBy : Rat} {armedAt : Int}
    (decided : decideForAccount spreads inputs candles now = .amend newStop armedBy armedAt) :
    newStop = inputs.targetEntry ∧ inputs.Armed spreads fillAt candles now ∧ ∃ best,
      mostProgressed inputs.direction (armableCandles spreads inputs fillAt now candles) = some best ∧
      best.c = armedBy ∧ best.time = armedAt := by
  rcases decideForAccount_filled filled candles now with ⟨_, held⟩ | ⟨armed, best, found, verdict⟩
  · rw [held] at decided
    cases decided
  · rw [verdict] at decided
    unfold BreakevenInputs.verdict at decided
    split at decided
    · cases decided
    · cases decided
      exact ⟨rfl, armed, best, found, rfl, rfl⟩

theorem not_tighter_self (direction : Direction) (stop : Rat) : direction.tighter stop stop ≠ true := by
  cases direction <;> simp [Direction.tighter]

/-- With a fill time the decision is armed exactly where some bar in the trade arms it and the stop is short of
the entry; it moves the stop to the entry, stays armed whatever comes later and is done once the stop is there. -/
theorem decideForAccount_latched (filled : inputs.fill.openedAt = some fillAt) (candles : List Candle) (now : Int) :
    BreakevenLatched spreads inputs fillAt candles now where
  armed := isArmed_iff filled candles now
  amends newStop armedBy armedAt decided := by
    obtain ⟨rfl, armed, _⟩ := amended_verdict filled decided
    exact ⟨rfl, armed.short⟩
  relisted others same := by
    have armedSame : inputs.Armed spreads fillAt others now ↔ inputs.Armed spreads fillAt candles now :=
      ⟨armed_mono (fun candle member => (same candle).mp member) le_rfl,
        armed_mono (fun candle member => (same candle).mpr member) le_rfl⟩
    refine ⟨?_, fun noise => ?_⟩
    · rw [Bool.eq_iff_iff, isArmed_iff filled, isArmed_iff filled, armedSame]
    · rcases decideForAccount_filled filled candles now with ⟨unarmed, held⟩ | ⟨armed, best, found, decided⟩
      · rcases decideForAccount_filled filled others now with ⟨_, held'⟩ | ⟨armed', _⟩
        · rw [held, held']
          exact .hold
        · exact absurd (armedSame.mp armed') unarmed
      · rcases decideForAccount_filled filled others now with ⟨unarmed', _⟩ | ⟨_, best', found', decided'⟩
        · exact absurd (armedSame.mpr armed) unarmed'
        · obtain ⟨listed, past⟩ := mostProgressed_spec found
          obtain ⟨listed', past'⟩ := mostProgressed_spec found'
          have both : ∀ candle, candle ∈ armableCandles spreads inputs fillAt now others ↔
              candle ∈ armableCandles spreads inputs fillAt now candles := by
            intro candle
            rw [mem_armableCandles, mem_armableCandles, same]
          have close : best.c = best'.c :=
            moreProgressed_antisymm (past' best ((both best).mpr listed)) (past best' ((both best').mp listed'))
          rw [decided, decided']
          unfold BreakevenInputs.verdict
          rw [noise]
          split
          next block _ => exact .blocked block
          · rw [close]
            exact .amend _ _ _ _
  named newStop armedBy armedAt decided := by
    obtain ⟨_, _, best, found, rfl, rfl⟩ := amended_verdict filled decided
    obtain ⟨listed, past⟩ := mostProgressed_spec found
    exact ⟨best, listed, rfl, rfl, past⟩
  later more later within onward armed :=
    (isArmed_iff filled more later).mpr (armed_mono within onward ((isArmed_iff filled candles now).mp armed))
  settled newStop armedBy armedAt decided again later := by
    obtain ⟨rfl, _, _⟩ := amended_verdict filled decided
    have filled' : ({ inputs with currentStop := inputs.targetEntry } : BreakevenInputs).fill.openedAt = some fillAt :=
      filled
    rcases decideForAccount_filled filled' again later with ⟨_, held⟩ | ⟨armed, _⟩
    · exact held
    · exact absurd armed.short (not_tighter_self _ _)

end

/-- A long from 100 with its target at 110 and its stop at 95, filled at the epoch. -/
def hundredLong (rule : Breakeven) : BreakevenInputs where
  snapshot := { rule, entryPrice := 100, takeProfit := 110, granularity := .h1 }
  instrument := "EURUSD"
  direction := .long
  fill := { entryPrice := some 100, openedAt := some 0 }
  currentStop := 95

def neverSpread : SpreadCalendar where
  schedule _ := none
  lookupKey := id
  isNyCloseEdge _ := false

theorem decideForAccount_latched_hundred :
    decideForAccount neverSpread (hundredLong {}) [⟨0, 100, 107, 99, 106⟩] (seconds 3600) = .amend 100 106 0 ∧
      BreakevenLatched neverSpread (hundredLong {}) 0 [⟨0, 100, 107, 99, 106⟩] (seconds 3600) :=
  ⟨by decide +kernel, decideForAccount_latched rfl _ _⟩

/-- A rule for the cross of the averages does not arm on a close that is past every level; a threshold of one
arms at half; and of two bars with one close the later listed is named. -/
theorem decideForAccount_exceptions :
    decideForAccount neverSpread (hundredLong { trigger := .maCrossOnly }) [⟨0, 100, 110, 99, 110⟩] (seconds 3600) =
        .hold ∧
      decideForAccount neverSpread (hundredLong { threshold := 1 }) [⟨0, 100, 107, 99, 106⟩] (seconds 3600) =
        .amend 100 106 0 ∧
      decideForAccount neverSpread (hundredLong {}) [⟨0, 100, 107, 99, 106⟩, ⟨seconds 3600, 106, 107, 105, 106⟩]
          (seconds 7200) = .amend 100 106 (seconds 3600) ∧
      decideForAccount neverSpread (hundredLong {}) [⟨seconds 3600, 106, 107, 105, 106⟩, ⟨0, 100, 107, 99, 106⟩]
          (seconds 7200) = .amend 100 106 0 := by
  refine ⟨?_, ?_, ?_, ?_⟩ <;> decide +kernel

end TradeControl
