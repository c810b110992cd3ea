import TradeControl.FillSim
import TradeControl.Foundation.Spans

namespace TradeControl

open Foundation

/-! The two passes of the lazy zoom, and the fixture that keeps what the second one was fed. -/

/-- The part of one coarse bar that finer bars are asked for. -/
abbrev ZoomWindow := Span Int

/-- It serves nothing, and remembers what it is asked for. -/
def recordingSubBars : SubBars (List ZoomWindow) where
  ask start finish windows := ([], windows ++ [⟨start, finish⟩])

def recordedWindows (windows : List ZoomWindow) : List ZoomWindow := dropRepeats (sortSpans windows)

theorem mem_recordedWindows {windows : List ZoomWindow} {window : ZoomWindow} :
    window ∈ recordedWindows windows ↔ window ∈ windows :=
  mem_dropRepeats.trans mem_sortSpans

def sortBars (bars : List PathBar) : List PathBar := bars.insertionSort fun a b => a.time ≤ b.time

def barsWithin (bars : List PathBar) (start finish : Int) : List PathBar :=
  bars.filter fun bar => start ≤ bar.time && bar.time < finish

def windowSubBars (candles : List PathBar) : SubBars Unit where
  ask start finish memory := (barsWithin (sortBars candles) start finish, memory)

/-- The window lies between the first saved bar and the end of the last one. -/
def fixtureCovers (candles : List PathBar) (barLen : Int) (window : ZoomWindow) : Bool :=
  match (sortBars candles).head?, (sortBars candles).getLast? with
  | some first, some last => decide (first.time ≤ window.start) && decide (window.finish ≤ last.time + barLen)
  | _, _ => false

/-- It serves the saved bars, and remembers the windows that they do not cover. -/
def fixtureSubBars (candles : List PathBar) (barLen : Int) : SubBars (List ZoomWindow) where
  ask start finish missed :=
    (barsWithin (sortBars candles) start finish,
      if fixtureCovers candles barLen ⟨start, finish⟩ then missed else missed ++ [⟨start, finish⟩])

/-- The orders of a replay, simulated one after the other against one source of finer bars. -/
def simulateAll {Memory : Type} (calendar : ReplayCalendar) (source : SubBars Memory) :
    List FillCall → Memory → List SimOutcome × Memory
  | [], memory => ([], memory)
  | call :: rest, memory =>
    let (outcome, memory) := simulateFillResolvedZoom calendar call source memory
    let (outcomes, memory) := simulateAll calendar source rest memory
    (outcome :: outcomes, memory)

/-- The windows that the first pass asks for. -/
def askedWindows (calendar : ReplayCalendar) (calls : List FillCall) : List ZoomWindow :=
  (simulateAll calendar recordingSubBars calls []).2

section
variable {calendar : ReplayCalendar} {call : FillCall} {calls : List FillCall}

/-- A run of the simulator asks its source for nothing, or for one window that hangs on no answer. -/
def AsksOnce (run : ∀ {Memory : Type}, SubBars Memory → Memory → SimOutcome × Memory) : Prop :=
  (∃ outcome, ∀ {Memory : Type} (source : SubBars Memory) memory, run source memory = (outcome, memory)) ∨
    ∃ (window : ZoomWindow) (verdict : List PathBar → SimOutcome),
      ∀ {Memory : Type} (source : SubBars Memory) memory, run source memory =
        (verdict (source.ask window.start window.finish memory).1,
          (source.ask window.start window.finish memory).2)

theorem zoomAmbiguousBar_asksOnce (fill : Fill) (barLen : Int) (bar : PathBar) (effectiveStop : Rat) :
    AsksOnce fun source memory => call.zoomAmbiguousBar source fill barLen bar effectiveStop memory := by
  by_cases unknown : barLen ≤ 0
  · refine .inl ⟨.stoppedOut fill.fillAt fill.entryPrice bar.time effectiveStop, fun source memory => ?_⟩
    unfold FillCall.zoomAmbiguousBar
    exact if_pos unknown
  · refine .inr ⟨⟨bar.time, bar.time + barLen⟩, fun subBars =>
      if call.stopFirst effectiveStop subBars then
        .stoppedOut fill.fillAt fill.entryPrice bar.time effectiveStop
      else .tookProfit fill.fillAt fill.entryPrice bar.time call.resolved.takeProfit,
      fun source memory => ?_⟩
    unfold FillCall.zoomAmbiguousBar
    exact if_neg unknown

theorem exitLoop_asksOnce (spans : List WidenedSpan) (fill : Fill) (barLen : Int) (past : List Candle)
    (activeStop : Rat) (bars : List PathBar) :
    AsksOnce fun source memory => call.exitLoop source spans fill barLen past activeStop bars memory := by
  induction bars generalizing past activeStop with
  | nil => exact .inl ⟨_, fun _ _ => rfl⟩
  | cons bar later ih =>
    unfold FillCall.exitLoop
    dsimp only
    cases call.reachesStop bar (stopOnBar spans bar.time activeStop) with
    | true =>
      cases call.reachesTarget bar with
      | true => exact zoomAmbiguousBar_asksOnce fill barLen bar _
      | false => exact .inl ⟨_, fun _ _ => rfl⟩
    | false =>
      cases call.reachesTarget bar with
      | true => exact .inl ⟨_, fun _ _ => rfl⟩
      | false => exact ih _ _

theorem simulate_asksOnce (calendar : ReplayCalendar) (call : FillCall) :
    AsksOnce fun source memory => simulateFillResolvedZoom calendar call source memory := by
  unfold simulateFillResolvedZoom
  cases findFill calendar call with
  | none => exact .inl ⟨_, fun _ _ => rfl⟩
  | some fill => exact exitLoop_asksOnce _ fill _ [] _ fill.rest

/-- Two sources that serve the recorded windows alike give the same outcome. -/
theorem AsksOnce.outcome_eq {run : ∀ {Memory : Type}, SubBars Memory → Memory → SimOutcome × Memory}
    (once : AsksOnce @run) {First Second : Type} {one : SubBars First} {two : SubBars Second}
    (agree : ∀ window ∈ (run recordingSubBars []).2, ∀ first second,
      (one.ask window.start window.finish first).1 = (two.ask window.start window.finish second).1)
    (first : First) (second : Second) : (run one first).1 = (run two second).1 := by
  rcases once with ⟨outcome, quiet⟩ | ⟨window, verdict, asks⟩
  · rw [quiet, quiet]
  · rw [asks] at agree
    rw [asks, asks]
    exact congrArg verdict (agree window (List.mem_singleton_self window) first second)

/-- A source that notes some of the windows it is asked for notes those among the recorded ones. -/
theorem AsksOnce.noted {run : ∀ {Memory : Type}, SubBars Memory → Memory → SimOutcome × Memory}
    (once : AsksOnce @run) {source : SubBars (List ZoomWindow)} {notes : ZoomWindow → Bool}
    (noting : ∀ window memory, (source.ask window.start window.finish memory).2 =
      memory ++ [window].filter notes) (memory : List ZoomWindow) :
    (run source memory).2 = memory ++ (run recordingSubBars []).2.filter notes := by
  rcases once with ⟨outcome, quiet⟩ | ⟨window, verdict, asks⟩
  · rw [quiet, quiet]
    exact (List.append_nil memory).symm
  · rw [asks, asks]
    exact noting window memory

theorem simulateAll_noted {source : SubBars (List ZoomWindow)} {notes : ZoomWindow → Bool}
    (noting : ∀ window memory, (source.ask window.start window.finish memory).2 =
      memory ++ [window].filter notes) (calls : List FillCall) (memory : List ZoomWindow) :
    (simulateAll calendar source calls memory).2 = memory ++
      (calls.flatMap fun call => (simulateFillResolvedZoom calendar call recordingSubBars []).2).filter
        notes := by
  induction calls generalizing memory with
  | nil => exact (List.append_nil memory).symm
  | cons call rest ih =>
    unfold simulateAll
    dsimp only
    rw [ih, (simulate_asksOnce calendar call).noted noting, List.flatMap_cons, List.filter_append,
      List.append_assoc]

theorem askedWindows_eq (calls : List FillCall) : askedWindows calendar calls =
    calls.flatMap fun call => (simulateFillResolvedZoom calendar call recordingSubBars []).2 := by
  have noted : (simulateAll calendar recordingSubBars calls []).2 = [] ++
      (calls.flatMap fun call => (simulateFillResolvedZoom calendar call recordingSubBars []).2).filter
        fun _ => true := simulateAll_noted (fun _ _ => rfl) calls []
  rw [askedWindows, noted, List.nil_append, List.filter_true]

/-- The finer bars are read through what is served for the windows of the first pass. -/
theorem simulateAll_outcomes_eq {First Second : Type} {one : SubBars First} {two : SubBars Second}
    (agree : ∀ window ∈ askedWindows calendar calls, ∀ first second,
      (one.ask window.start window.finish first).1 = (two.ask window.start window.finish second).1)
    (first : First) (second : Second) :
    (simulateAll calendar one calls first).1 = (simulateAll calendar two calls second).1 := by
  rw [askedWindows_eq] at agree
  induction calls generalizing first second with
  | nil => rfl
  | cons call rest ih =>
    unfold simulateAll
    dsimp only
    have head := (simulate_asksOnce calendar call).outcome_eq
      (fun window member => agree window (List.mem_append_left _ member)) first second
    have tail := ih fun window member => agree window (List.mem_append_right _ member)
    rw [head, tail]

/-- Bars are sorted in the one way that puts their times in order. -/
theorem sortBars_of_perm {bars sorted : List PathBar} (perm : bars.Perm sorted)
    (ascending : sorted.Pairwise fun earlier later => earlier.time < later.time) : sortBars bars = sorted := by
  have ordered := List.pairwise_insertionSort (fun a b : PathBar => a.time ≤ b.time) bars
  have permuted := (List.perm_insertionSort (fun a b : PathBar => a.time ≤ b.time) bars).trans perm
  have distinct : (sorted.map (·.time)).Nodup := List.pairwise_map.mpr (ascending.imp fun before => before.ne)
  refine permuted.eq_of_pairwise (fun a b inSorted inSeries first second => ?_) ordered
    (ascending.imp fun before => before.le)
  exact List.inj_on_of_nodup_map distinct (permuted.mem_iff.mp inSorted) inSeries (le_antisymm first second)

/-- The bars fetched for spans that hold the window are all that the series has for it. -/
theorem barsWithin_fetched {series fetched : List PathBar} {spans : List ZoomWindow} {window : ZoomWindow}
    (ascending : series.Pairwise fun earlier later => earlier.time < later.time)
    (perm : fetched.Perm (series.filter fun bar => spans.any fun span => span.Holds bar.time))
    (held : ∀ time, window.Holds time → ∃ span ∈ spans, span.Holds time) :
    barsWithin (sortBars fetched) window.start window.finish =
      barsWithin (sortBars series) window.start window.finish := by
  rw [sortBars_of_perm perm (ascending.filter _), sortBars_of_perm (.refl series) ascending]
  unfold barsWithin
  rw [List.filter_filter]
  refine List.filter_congr fun bar _ => ?_
  cases inside : decide (window.start ≤ bar.time) && decide (bar.time < window.finish) with
  | false => rfl
  | true =>
    simp only [Bool.and_eq_true, decide_eq_true_eq] at inside
    obtain ⟨span, member, holds⟩ := held bar.time inside
    exact List.any_eq_true.mpr ⟨span, member, decide_eq_true holds⟩

theorem sortBars_sorted (bars : List PathBar) :
    (sortBars bars).Pairwise fun earlier later => earlier.time ≤ later.time :=
  List.pairwise_insertionSort (fun a b : PathBar => a.time ≤ b.time) bars

theorem mem_sortBars (bars : List PathBar) {bar : PathBar} : bar ∈ sortBars bars ↔ bar ∈ bars :=
  (List.perm_insertionSort _ _).mem_iff

/-- A window is covered exactly if some saved bar opens by its start, and one comes up to its end. -/
theorem fixtureCovers_iff {candles : List PathBar} {barLen : Int} {window : ZoomWindow} :
    fixtureCovers candles barLen window = true ↔
      (∃ bar ∈ candles, bar.time ≤ window.start) ∧ ∃ bar ∈ candles, window.finish ≤ bar.time + barLen := by
  have sorted := sortBars_sorted candles
  simp only [← mem_sortBars candles]
  unfold fixtureCovers
  cases order : sortBars candles with
  | nil => simp
  | cons first rest =>
    rw [order] at sorted
    obtain ⟨last, ends⟩ : ∃ last, (first :: rest).getLast? = some last :=
      Option.isSome_iff_exists.mp (by simp)
    obtain ⟨before, split⟩ := List.getLast?_eq_some_iff.mp ends
    have least : ∀ bar ∈ first :: rest, first.time ≤ bar.time := by
      rintro bar (_ | ⟨_, member⟩)
      · exact le_rfl
      · exact (List.pairwise_cons.mp sorted).1 bar member
    have greatest : ∀ bar ∈ first :: rest, bar.time ≤ last.time := by
      intro bar member
      rw [split] at sorted member
      rcases List.mem_append.mp member with early | final
      · exact (List.pairwise_append.mp sorted).2.2 bar early last (List.mem_singleton_self last)
      · exact (List.mem_singleton.mp final ▸ le_rfl)
    have lastMember : last ∈ first :: rest := List.mem_of_getLast? ends
    rw [ends]
    simp only [List.head?_cons, Bool.and_eq_true, decide_eq_true_eq]
    constructor
    · rintro ⟨opens, closes⟩
      exact ⟨⟨first, List.mem_cons_self, opens⟩, last, lastMember, closes⟩
    · rintro ⟨⟨early, inEarly, opens⟩, late, inLate, closes⟩
      have behind := least early inEarly
      have ahead := greatest late inLate
      exact ⟨behind.trans opens, by omega⟩

/-- Both ways of feeding the second pass give the outcomes of the whole finer series, and the fixture
misses no window exactly if each window that the first pass asks for starts no earlier than its first bar
and ends no later than the end of its last. -/
theorem lazyZoom_iff (calendar : ReplayCalendar) (calls : List FillCall) (series fetched : List PathBar)
    (barLen : Int) (ascending : series.Pairwise fun earlier later => earlier.time < later.time)
    (perm : fetched.Perm (series.filter fun bar =>
      (coalesce (recordedWindows (askedWindows calendar calls))).any fun span => span.Holds bar.time)) :
    (simulateAll calendar (windowSubBars fetched) calls ()).1 =
        (simulateAll calendar (windowSubBars series) calls ()).1 ∧
      (simulateAll calendar (fixtureSubBars fetched barLen) calls []).1 =
        (simulateAll calendar (windowSubBars series) calls ()).1 ∧
      (recordedWindows (simulateAll calendar (fixtureSubBars fetched barLen) calls []).2 = [] ↔
        ∀ window ∈ askedWindows calendar calls, (∃ bar ∈ fetched, bar.time ≤ window.start) ∧
          ∃ bar ∈ fetched, window.finish ≤ bar.time + barLen) := by
  have served : ∀ window ∈ askedWindows calendar calls,
      barsWithin (sortBars fetched) window.start window.finish =
        barsWithin (sortBars series) window.start window.finish := by
    intro window asked
    refine barsWithin_fetched ascending perm fun time holds => ?_
    exact (coalesce_holds_iff _ time).mpr ⟨window, mem_recordedWindows.mpr asked, holds⟩
  refine ⟨simulateAll_outcomes_eq (fun window asked _ _ => served window asked) _ _,
    simulateAll_outcomes_eq (fun window asked _ _ => served window asked) _ _, ?_⟩
  have missed : (simulateAll calendar (fixtureSubBars fetched barLen) calls []).2 =
      (askedWindows calendar calls).filter fun window => !fixtureCovers fetched barLen window := by
    rw [askedWindows_eq]
    refine simulateAll_noted (fun window memory => ?_) calls []
    unfold fixtureSubBars
    dsimp only
    cases covered : fixtureCovers fetched barLen window with
    | true => simp [covered]
    | false => simp [covered]
  rw [missed, List.eq_nil_iff_forall_not_mem]
  simp only [mem_recordedWindows, List.mem_filter, Bool.not_eq_true', not_and, Bool.not_eq_false,
    fixtureCovers_iff]

end

def quietCalendar : ReplayCalendar where
  rows _ := none
  lookupKey := id
  isNyCloseEdge _ := false
  elevatedThresholdPips _ := 8

/-- A long at 100 whose second hour reaches both its stop and its target. -/
def straddledLong : FillCall where
  resolved :=
    { setupId := "trade-1", instrument := "INDEX", direction := .long, entry := .market 100
      stopLoss := 90, takeProfit := 110, minR := 1, dryRun := false, recoverEntry := none }
  breakeven := none
  intent := stopEntry
  signedBreakeven := none
  shellTime := 0
  pipSize := 1
  candles := [flatBar 0 0, { flatBar 3600 0 with bidL := 85, bidH := 115 }, flatBar 7200 0]

/-- The second hour's minutes from this one on: price rises to the target, and falls through the stop. -/
def minutesFrom (minute : Int) : List PathBar :=
  [{ flatBar (3600 + 60 * minute) 0 with bidH := 115 }, { flatBar 7140 0 with bidL := 85 }]

theorem lazyZoom_minutes :
    (simulateAll quietCalendar (windowSubBars (minutesFrom 0)) [straddledLong] ()).1 =
        (simulateAll quietCalendar (windowSubBars (minutesFrom 0)) [straddledLong] ()).1 ∧
      (simulateAll quietCalendar (fixtureSubBars (minutesFrom 0) (seconds 60)) [straddledLong] []).1 =
        (simulateAll quietCalendar (windowSubBars (minutesFrom 0)) [straddledLong] ()).1 ∧
      (recordedWindows (simulateAll quietCalendar (fixtureSubBars (minutesFrom 0) (seconds 60))
          [straddledLong] []).2 = [] ↔
        ∀ window ∈ askedWindows quietCalendar [straddledLong],
          (∃ bar ∈ minutesFrom 0, bar.time ≤ window.start) ∧
            ∃ bar ∈ minutesFrom 0, window.finish ≤ bar.time + seconds 60) := by
  refine lazyZoom_iff quietCalendar [straddledLong] (minutesFrom 0) (minutesFrom 0) (seconds 60)
    (by decide +kernel) ?_
  rw [List.filter_eq_self.mpr (by decide +kernel)]

/-- With no tick in the window's first minute, the saved bars pass for bars that leave it out. -/
theorem lazyZoom_misses :
    (∀ bar ∈ minutesFrom 1, ∃ window ∈ coalesce (recordedWindows (askedWindows quietCalendar [straddledLong])),
        window.Holds bar.time) ∧
      recordedWindows (simulateAll quietCalendar (fixtureSubBars (minutesFrom 1) (seconds 60))
        [straddledLong] []).2 ≠ [] := by
  decide +kernel

end TradeControl
