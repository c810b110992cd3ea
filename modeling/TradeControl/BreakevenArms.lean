import TradeControl.Breakeven

namespace TradeControl

section
variable {rule : Breakeven} {direction : Direction} {level : Rat}

theorem closeArms_moreProgressed (a b : Rat) :
    rule.closeArms direction level (moreProgressed direction a b) = true ↔
      rule.closeArms direction level a = true ∨ rule.closeArms direction level b = true := by
  unfold Breakeven.closeArms
  cases rule.trigger with
  | maCrossOnly => simp
  | maProtectionOnly => simp
  | priceProgress =>
    cases direction with
    | long => simp [moreProgressed]
    | short => simp [moreProgressed]
  | priceProgressOrMaCross =>
    cases direction with
    | long => simp [moreProgressed]
    | short => simp [moreProgressed]

theorem moreProgressed_cases (direction : Direction) (a b : Rat) :
    moreProgressed direction a b = a ∨ moreProgressed direction a b = b := by
  cases direction with
  | long => exact max_choice a b
  | short => exact min_choice a b

theorem progressed_c (direction : Direction) (a b : Candle) :
    (progressed direction a b).c = moreProgressed direction a.c b.c := by
  unfold progressed
  split
  next later => exact later.symm
  next earlier => exact ((moreProgressed_cases direction a.c b.c).resolve_right earlier).symm

theorem foldl_progressed_arms (first : Candle) (rest : List Candle) :
    rule.closeArms direction level (rest.foldl (progressed direction) first).c = true ↔
      ∃ candle ∈ first :: rest, rule.closeArms direction level candle.c = true := by
  induction rest generalizing first with
  | nil => simp
  | cons next rest ih =>
    rw [List.foldl_cons, ih, List.exists_mem_cons_iff, progressed_c, closeArms_moreProgressed, or_assoc]
    simp only [List.exists_mem_cons_iff]

/-- The best progressed of some bars arms break-even if any of them does. -/
theorem mostProgressed_arms (rule : Breakeven) (level : Rat) {candles : List Candle} {best : Candle}
    (found : mostProgressed direction candles = some best) :
    rule.closeArms direction level best.c = true ↔
      ∃ candle ∈ candles, rule.closeArms direction level candle.c = true := by
  cases candles with
  | nil => cases found
  | cons first rest =>
    cases found
    exact foldl_progressed_arms first rest

theorem Direction.tighter_iff_not_alreadyAt (direction : Direction) (stop target : Rat) :
    direction.tighter target stop = true ↔ direction.alreadyAt stop target = false := by
  cases direction with
  | long => simp [Direction.tighter, Direction.alreadyAt]
  | short => simp [Direction.tighter, Direction.alreadyAt]

end

section
variable {spreads : SpreadCalendar} {inputs : BreakevenInputs} {now : Int}

/-- Some bar that may arm break-even closed past the level it arms at, and the entry is a stop
closer to the market and clear of the noise. -/
def BreakevenInputs.PriceArms (spreads : SpreadCalendar) (inputs : BreakevenInputs) (candles : List Candle)
    (now : Int) : Prop :=
  let rule := inputs.snapshot.rule
  ∃ fillAt ∈ inputs.fill.openedAt,
    (∃ candle ∈ armableCandles spreads inputs fillAt now candles,
      rule.closeArms inputs.direction (rule.armsAt inputs.targetEntry inputs.snapshot.takeProfit) candle.c) ∧
    inputs.direction.tighter inputs.targetEntry inputs.currentStop ∧
    noiseViolation (armableCandles spreads inputs fillAt now candles) inputs.targetEntry
      inputs.snapshot.granularity = none

/-- A decision leaves the stop alone, or moves it closer to the market. -/
inductive BreakevenDecision.Ends (inputs : BreakevenInputs) (arms : Prop) : BreakevenDecision → Prop
  | hold (unarmed : ¬ arms) : Ends inputs arms .hold
  | blocked (unarmed : ¬ arms) (block : BreakevenBlock) : Ends inputs arms (.blocked block)
  | amend {newStop : Rat} (armed : arms) (tighter : inputs.direction.tighter newStop inputs.currentStop)
      (armedBy : Rat) (armedAt : Int) : Ends inputs arms (.amend newStop armedBy armedAt)

theorem decideForAccount_ends (spreads : SpreadCalendar) (inputs : BreakevenInputs) (candles : List Candle)
    (now : Int) :
    (decideForAccount spreads inputs candles now).Ends inputs (inputs.PriceArms spreads candles now) := by
  unfold decideForAccount
  split
  next unknown =>
    refine .blocked ?_ _
    rintro ⟨fillAt, known, _⟩
    rw [unknown] at known
    cases known
  next fillAt known =>
    have only : ∀ {other}, other ∈ inputs.fill.openedAt → other = fillAt := by
      intro other present
      rw [known] at present
      exact (Option.some.inj present).symm
    dsimp only
    split
    next none_ =>
      refine .hold ?_
      rintro ⟨other, present, ⟨candle, member, _⟩, _⟩
      rw [only present] at member
      generalize armableCandles spreads inputs fillAt now candles = armable at none_ member
      cases armable with
      | nil => cases member
      | cons first rest => cases none_
    next best found =>
      have arms := mostProgressed_arms inputs.snapshot.rule
        (inputs.snapshot.rule.armsAt inputs.targetEntry inputs.snapshot.takeProfit) found
      generalize decided : inputs.snapshot.rule.decideMove _ _ _ _ _ = move
      unfold Breakeven.decideMove at decided
      split at decided
      next unarmed =>
        cases decided
        refine .hold ?_
        rintro ⟨other, present, some_, _⟩
        rw [only present] at some_
        rw [arms.mpr some_] at unarmed
        cases unarmed
      next armed =>
        have reached := arms.mp (by simpa using armed)
        split at decided
        next there =>
          cases decided
          refine .hold ?_
          rintro ⟨_, _, _, tighter, _⟩
          rw [Direction.tighter_iff_not_alreadyAt, there] at tighter
          cases tighter
        next short =>
          cases decided
          have tighter := (inputs.direction.tighter_iff_not_alreadyAt _ _).mpr (Bool.eq_false_iff.mpr short)
          dsimp only
          split
          next block noisy =>
            refine .blocked ?_ block
            rintro ⟨other, present, _, _, clear⟩
            rw [only present, noisy] at clear
            cases clear
          next clear => exact .amend ⟨fillAt, known, reached, tighter, clear⟩ tighter _ _

/-- The averages turned against the trade on some bar that may arm break-even, and the fill lies
between the stop and the prices to get out at, that bar's and the present one. -/
def BreakevenInputs.CrossArms (spreads : SpreadCalendar) (inputs : BreakevenInputs)
    (candles : List BidAskCandle) (now : Int) (exitPrice : Rat) : Prop :=
  let rule := inputs.snapshot.rule
  let mid := candles.map (·.mid)
  rule.hasMaVeto ∧ ∃ fillAt ∈ inputs.fill.openedAt, ∃ fill ∈ inputs.fill.entryPrice,
    mid ≠ [] ∧ rule.maVetoReadyAt mid (mid.length - 1) ∧
    ∃ bar ∈ candles.zipIdx, inputs.armable spreads fillAt now bar.1.mid ∧
      rule.maVetoAt mid bar.2 inputs.direction ∧
      tightenToFill inputs.direction fill inputs.currentStop (bar.1.exitPrice inputs.direction) = some fill ∧
      tightenToFill inputs.direction fill inputs.currentStop exitPrice = some fill

theorem tightenToFill_some {direction : Direction} {fill currentStop exitPrice newStop : Rat}
    (tightened : tightenToFill direction fill currentStop exitPrice = some newStop) :
    newStop = fill ∧ direction.tighter fill currentStop := by
  cases direction with
  | long =>
    unfold tightenToFill at tightened
    dsimp only at tightened
    split at tightened
    next permitted =>
      cases tightened
      exact ⟨rfl, decide_eq_true (of_decide_eq_true permitted).1⟩
    · cases tightened
  | short =>
    unfold tightenToFill at tightened
    dsimp only at tightened
    split at tightened
    next permitted =>
      cases tightened
      exact ⟨rfl, decide_eq_true (of_decide_eq_true permitted).1⟩
    · cases tightened

theorem crossStopAt_some {fill exitPrice newStop : Rat} {mid : List Candle} {index : Nat}
    {candle : BidAskCandle} :
    crossStopAt inputs fill exitPrice mid index candle = some newStop ↔
      newStop = fill ∧ inputs.snapshot.rule.maVetoAt mid index inputs.direction ∧
      tightenToFill inputs.direction fill inputs.currentStop (candle.exitPrice inputs.direction) = some fill ∧
      tightenToFill inputs.direction fill inputs.currentStop exitPrice = some fill := by
  unfold crossStopAt
  split
  next turned =>
    constructor
    · intro found
      cases found
    · rintro ⟨_, turns, _⟩
      rw [turns] at turned
      cases turned
  next turned =>
    have turns : inputs.snapshot.rule.maVetoAt mid index inputs.direction = true := by simpa using turned
    cases event : tightenToFill inputs.direction fill inputs.currentStop (candle.exitPrice inputs.direction) with
    | none => simp
    | some atBar =>
      obtain ⟨rfl, _⟩ := tightenToFill_some event
      constructor
      · intro found
        obtain ⟨rfl, _⟩ := tightenToFill_some found
        exact ⟨rfl, turns, rfl, found⟩
      · rintro ⟨rfl, _, _, found⟩
        exact found

/-- Only a fill time that is missing blocks the cross. -/
theorem decideMaCross_ends (spreads : SpreadCalendar) (inputs : BreakevenInputs) (candles : List BidAskCandle)
    (now : Int) (exitPrice : Rat) :
    (decideMaCross spreads inputs candles now exitPrice).Ends inputs
        (inputs.CrossArms spreads candles now exitPrice) ∧
      ∀ block, decideMaCross spreads inputs candles now exitPrice = .blocked block →
        inputs.fill.openedAt = none := by
  unfold decideMaCross
  split
  next off =>
    refine ⟨.hold ?_, fun _ stuck => by cases stuck⟩
    rintro ⟨on, _⟩
    rw [on] at off
    cases off
  next on =>
    have vetoed : inputs.snapshot.rule.hasMaVeto = true := by simpa using on
    split
    next unknown =>
      refine ⟨.blocked ?_ _, fun _ _ => unknown⟩
      rintro ⟨_, _, known, _⟩
      rw [unknown] at known
      cases known
    next unfilled =>
      refine ⟨.hold ?_, fun _ stuck => by cases stuck⟩
      rintro ⟨_, _, _, _, known, _⟩
      rw [unfilled] at known
      cases known
    next fillAt fill knownTime knownFill =>
      dsimp only
      split
      next cold =>
        refine ⟨.hold ?_, fun _ stuck => by cases stuck⟩
        rintro ⟨_, _, _, _, _, some_, ready, _⟩
        rw [ready] at cold
        exact some_ (by simpa using cold)
      next warm =>
        have ready : candles.map (·.mid) ≠ [] ∧
            inputs.snapshot.rule.maVetoReadyAt (candles.map (·.mid)) ((candles.map (·.mid)).length - 1) = true := by
          simpa using warm
        generalize searched : List.findSome? _ _ = found
        cases found with
        | none =>
          refine ⟨.hold ?_, fun _ stuck => by cases stuck⟩
          rintro ⟨_, other, present, price, filled, _, _, bar, member, armable, turns, event, tightened⟩
          rw [knownTime] at present
          rw [knownFill] at filled
          cases present
          cases filled
          have listed : bar ∈ candles.zipIdx.reverse.filter fun bar => inputs.armable spreads fillAt now bar.1.mid :=
            List.mem_filter.mpr ⟨List.mem_reverse.mpr member, armable⟩
          have missed := List.findSome?_eq_none_iff.mp searched bar listed
          rw [crossStopAt_some.mpr ⟨rfl, turns, event, tightened⟩] at missed
          cases missed
        | some decision =>
          obtain ⟨bar, listed, given⟩ := List.exists_of_findSome?_eq_some searched
          obtain ⟨member, armable⟩ := List.mem_filter.mp listed
          obtain ⟨newStop, stopped, rfl⟩ := Option.map_eq_some_iff.mp given
          obtain ⟨rfl, turns, event, tightened⟩ := crossStopAt_some.mp stopped
          have tighter := (tightenToFill_some event).2
          exact ⟨.amend ⟨vetoed, fillAt, knownTime, newStop, knownFill, ready.1, ready.2, bar,
            List.mem_reverse.mp member, armable, turns, event, tightened⟩ tighter _ _, fun _ stuck => by cases stuck⟩

/-- What the watcher reads at the position gives it a break-even stop. -/
def BreakevenAnswers.Arms (spreads : SpreadCalendar) (ans : BreakevenAnswers) (inputs : BreakevenInputs)
    (candles : List Candle) (now : Int) : Prop :=
  (∃ exitPrice ∈ ans.exitPrice, ∃ books ∈ ans.bidaskCandles (inputs.since now),
    inputs.CrossArms spreads books now exitPrice) ∨ inputs.PriceArms spreads candles now

theorem breakevenDecision_ends (spreads : SpreadCalendar) (ans : BreakevenAnswers) (inputs : BreakevenInputs)
    (candles : List Candle) (now : Int) :
    (breakevenDecision spreads ans inputs candles now).Ends inputs (ans.Arms spreads inputs candles now) := by
  have price := decideForAccount_ends spreads inputs candles now
  have alone : (¬ ∃ exitPrice ∈ ans.exitPrice, ∃ books ∈ ans.bidaskCandles (inputs.since now),
      inputs.CrossArms spreads books now exitPrice) →
      (decideForAccount spreads inputs candles now).Ends inputs (ans.Arms spreads inputs candles now) := by
    intro uncrossed
    have same : ans.Arms spreads inputs candles now ↔ inputs.PriceArms spreads candles now := or_iff_right uncrossed
    rw [← same] at price
    exact price
  unfold breakevenDecision
  cases vetoed : inputs.snapshot.rule.hasMaVeto with
  | false =>
    rw [if_neg Bool.false_ne_true, if_pos rfl]
    refine alone ?_
    rintro ⟨_, _, _, _, on, _⟩
    rw [vetoed] at on
    cases on
  | true =>
    rw [if_pos rfl]
    cases quoted : ans.exitPrice with
    | none =>
      dsimp only
      rw [if_pos rfl]
      refine alone ?_
      rintro ⟨_, present, _⟩
      rw [quoted] at present
      cases present
    | some exitPrice =>
      cases fetched : ans.bidaskCandles (inputs.since now) with
      | none =>
        dsimp only
        rw [if_pos rfl]
        refine alone ?_
        rintro ⟨_, _, _, present, _⟩
        rw [fetched] at present
        cases present
      | some books =>
        obtain ⟨cross, stuck⟩ := decideMaCross_ends spreads inputs books now exitPrice
        dsimp only
        generalize decideMaCross spreads inputs books now exitPrice = decision at cross stuck
        cases cross with
        | hold unarmed =>
          rw [if_pos rfl]
          refine alone ?_
          rintro ⟨other, atOther, others, present, crosses⟩
          rw [quoted] at atOther
          rw [fetched] at present
          cases atOther
          cases present
          exact unarmed crosses
        | blocked unarmed block =>
          rw [if_neg (by simp)]
          refine .blocked ?_ block
          rintro (⟨other, atOther, others, present, crosses⟩ | ⟨fillAt, known, _⟩)
          · rw [quoted] at atOther
            rw [fetched] at present
            cases atOther
            cases present
            exact unarmed crosses
          · rw [stuck block rfl] at known
            cases known
        | amend armed tighter armedBy armedAt =>
          rw [if_neg (by simp)]
          exact .amend (.inl ⟨exitPrice, quoted, books, fetched, armed⟩) tighter armedBy armedAt

end

end TradeControl
