import Mathlib.Tactic.Linarith
import Mathlib.Tactic.Positivity
import TradeControl.CandleMetrics
import TradeControl.Foundation.Paging
import TradeControl.Instant

namespace TradeControl.TradeNation

open Foundation

/-! A span of candles, fetched by requests that count back from an end. -/

structure CandleData where
  openPrice : Rat
  high : Rat
  low : Rat
  close : Rat
  volume : Rat
  timestamp : Int
  deriving DecidableEq

inductive PriceType
  | mid
  | bid
  | ask
  deriving DecidableEq

/-- The candle source's own granularities: six of them have a counterpart in the engine. -/
inductive SeriesGranularity
  | oneMinute
  | fiveMinutes
  | fifteenMinutes
  | oneHour
  | fourHours
  | oneDay
  | other (name : String)
  deriving DecidableEq

def SeriesGranularity.core : SeriesGranularity → Option Granularity
  | .oneMinute => some .m1
  | .fiveMinutes => some .m5
  | .fifteenMinutes => some .m15
  | .oneHour => some .h1
  | .fourHours => some .h4
  | .oneDay => some .d1
  | .other _ => none

def maxCandlesPerRequest : Int := 1000

def slack : Int := 3

/-- The bars a request counts that ends here: those of the rest of the span and a few more, at most a thousand. -/
def windowBars (step since end_ : Int) : Nat :=
  let span := max (numSeconds (end_ - since)) 0
  (max 1 (min (span / step + 1 + slack) maxCandlesPerRequest)).toNat

/-- The loop of `chunk_windows`, with at most `left` windows to go. -/
def chunkWindowsFrom (step since : Int) : Nat → Int → List (Nat × Int)
  | 0, _ => []
  | left + 1, end_ =>
    let reached := end_ - seconds (maxCandlesPerRequest * step)
    (windowBars step since end_, end_) ::
      if reached ≤ since then [] else chunkWindowsFrom step since left (reached + seconds step)

/-- The requests for a span, newest first, each with the bars it counts and its end. -/
def chunkWindows (g : Granularity) (since now : Int) : List (Nat × Int) :=
  chunkWindowsFrom (max g.seconds 1) since 1024 now

inductive RangeError
  | unsupported (granularity : SeriesGranularity)
  | market
  | candles
  deriving DecidableEq

structure BidAskCandles (Joined : Type) where
  instrumentName : String
  granularity : SeriesGranularity
  candles : List Joined

/-- What the session behind the source answers, and how three books' rows of one bar are joined. -/
structure Source (Joined : Type) where
  resolveMarket : String → Bool
  fetch : String → SeriesGranularity → PriceType → Nat → Int → Option (List CandleData)
  fromBidMidAsk : CandleData → CandleData → CandleData → Joined

/-- The row that a map collected from the rows holds at a time. -/
def rowAt (rows : List CandleData) (timestamp : Int) : Option CandleData :=
  rows.reverse.find? (·.timestamp = timestamp)

section
variable {Joined : Type} (source : Source Joined) (from_ to_ : Int)

/-- The joined row of a time that lies in the span and has a row in all three books. -/
def Source.joinAt (bid ask : List CandleData) (mid : CandleData) : Option Joined :=
  match rowAt bid mid.timestamp, rowAt ask mid.timestamp with
  | some b, some a =>
    if from_ ≤ mid.timestamp ∧ mid.timestamp < to_ then some (source.fromBidMidAsk b mid a) else none
  | _, _ => none

/-- One mid row of an answer, taken into the candles so far. -/
def Source.take (bid ask : List CandleData) (candles : List (Int × Joined)) (mid : CandleData) :
    List (Int × Joined) :=
  match source.joinAt from_ to_ bid ask mid with
  | some joined => insertEntry mid.timestamp joined candles
  | none => candles

/-- The loop over the windows. -/
def Source.collect (instrument : String) (granularity : SeriesGranularity) :
    List (Nat × Int) → List (Int × Joined) → Except RangeError (List (Int × Joined))
  | [], candles => .ok candles
  | (count, end_) :: later, candles => do
    let some mid := source.fetch instrument granularity .mid count end_ | throw .candles
    let some bid := source.fetch instrument granularity .bid count end_ | throw .candles
    let some ask := source.fetch instrument granularity .ask count end_ | throw .candles
    Source.collect instrument granularity later (mid.foldl (source.take from_ to_ bid ask) candles)

def Source.range (instrument : String) (granularity : SeriesGranularity) :
    Except RangeError (BidAskCandles Joined) :=
  match granularity.core with
  | none => .error (.unsupported granularity)
  | some core =>
    if source.resolveMarket instrument then do
      let candles ← source.collect from_ to_ instrument granularity (chunkWindows core from_ to_) []
      return { instrumentName := instrument, granularity, candles := candles.map (·.2) }
    else .error .market

end

/-! The windows: their ends descend, and they reach back to the start of the span. -/

section
variable {step since : Int}

theorem mem_chunkWindowsFrom {left : Nat} {end_ : Int} {window : Nat × Int} (positive : 0 < step)
    (member : window ∈ chunkWindowsFrom step since left end_) :
    window.2 ≤ end_ ∧ 1 ≤ window.1 ∧ window.1 ≤ 1000 := by
  induction left generalizing end_ with
  | zero => cases member
  | succ left ih =>
    rw [chunkWindowsFrom] at member
    rcases List.mem_cons.mp member with rfl | member
    · unfold windowBars maxCandlesPerRequest
      dsimp only
      omega
    · split at member
      · cases member
      · obtain ⟨within, counts⟩ := ih member
        unfold maxCandlesPerRequest seconds nanosPerSecond at within
        exact ⟨by omega, counts⟩

theorem chunkWindowsFrom_descend (positive : 0 < step) (left : Nat) (end_ : Int) :
    (chunkWindowsFrom step since left end_).Pairwise fun newer older => older.2 < newer.2 := by
  induction left generalizing end_ with
  | zero => exact List.Pairwise.nil
  | succ left ih =>
    rw [chunkWindowsFrom]
    refine List.pairwise_cons.mpr ⟨fun window member => ?_, ?_⟩
    · split at member
      · cases member
      · have within := (mem_chunkWindowsFrom positive member).1
        unfold maxCandlesPerRequest seconds nanosPerSecond at within
        dsimp only
        omega
    · split
      · exact List.Pairwise.nil
      · exact ih _

theorem chunkWindowsFrom_length (left : Nat) (end_ : Int) : (chunkWindowsFrom step since left end_).length ≤ left := by
  induction left generalizing end_ with
  | zero => exact le_rfl
  | succ left ih =>
    rw [chunkWindowsFrom]
    rw [List.length_cons]
    split
    · exact Nat.succ_le_succ (Nat.zero_le left)
    · exact Nat.succ_le_succ (ih _)

/-- Where the last request of a span ends: each request but the last lies 999 bars further on, and only
the last reaches back to the start. -/
def LastEnd (step since now end_ : Int) : Prop :=
  ∃ further : Nat, end_ = now - further * seconds (999 * step) ∧ end_ - since ≤ seconds (1000 * step) ∧
    (further = 0 ∨ seconds step < end_ - since)

theorem LastEnd.here {end_ : Int} (reaches : end_ - seconds (maxCandlesPerRequest * step) ≤ since) :
    LastEnd step since end_ end_ := by
  refine ⟨0, by simp, ?_, .inl rfl⟩
  unfold maxCandlesPerRequest at reaches
  omega

theorem LastEnd.further_iff {end_ last : Int} (stays : ¬ end_ - seconds (maxCandlesPerRequest * step) ≤ since) :
    LastEnd step since end_ last ↔
      LastEnd step since (end_ - seconds (maxCandlesPerRequest * step) + seconds step) last := by
  unfold maxCandlesPerRequest seconds nanosPerSecond at stays
  unfold LastEnd maxCandlesPerRequest seconds nanosPerSecond
  constructor
  · rintro ⟨further, same, within, apart⟩
    cases further with
    | zero => simp at same; omega
    | succ further => exact ⟨further, by push_cast at same; linarith, within, .inr (by omega)⟩
  · rintro ⟨further, same, within, apart⟩
    refine ⟨further + 1, by push_cast; linarith, within, .inr ?_⟩
    rcases apart with rfl | apart
    · simp at same
      omega
    · exact apart

/-- No window ends before the last one's end. -/
theorem LastEnd.le {left : Nat} {end_ last : Int} {window : Nat × Int} (positive : 0 < step)
    (ends : LastEnd step since end_ last) (member : window ∈ chunkWindowsFrom step since left end_) :
    last ≤ window.2 := by
  induction left generalizing end_ with
  | zero => cases member
  | succ left ih =>
    rw [chunkWindowsFrom] at member
    rcases List.mem_cons.mp member with rfl | member
    · obtain ⟨further, same, _⟩ := ends
      have onward : 0 ≤ (further : Int) * seconds (999 * step) := by
        unfold seconds nanosPerSecond
        positivity
      dsimp only
      omega
    · split at member
      · cases member
      · next stays => exact ih ((further_iff stays).mp ends) member

theorem windowBars_of_span {end_ : Int} (before : since ≤ end_) :
    windowBars step since end_ =
      (max 1 (min ((end_ - since) / nanosPerSecond / step + 1 + slack) maxCandlesPerRequest)).toNat := by
  have whole : numSeconds (end_ - since) = (end_ - since) / nanosPerSecond :=
    Int.tdiv_eq_ediv_of_nonneg (sub_nonneg.mpr before)
  have some_ : 0 ≤ (end_ - since) / nanosPerSecond :=
    Int.ediv_nonneg (sub_nonneg.mpr before) (by unfold nanosPerSecond; decide)
  unfold windowBars
  rw [whole, max_eq_left some_]

/-- A span fits in its steps and one more. -/
theorem lt_wholeSpan (positive : 0 < step) (span : Int) :
    span < seconds ((span / nanosPerSecond / step + 1) * step) := by
  have inSeconds : span < (span / nanosPerSecond + 1) * nanosPerSecond :=
    Int.lt_ediv_add_one_mul_self span (by unfold nanosPerSecond; decide)
  have inSteps : span / nanosPerSecond < (span / nanosPerSecond / step + 1) * step :=
    Int.lt_ediv_add_one_mul_self _ positive
  calc span < (span / nanosPerSecond + 1) * nanosPerSecond := inSeconds
    _ ≤ (span / nanosPerSecond / step + 1) * step * nanosPerSecond :=
      Int.mul_le_mul_of_nonneg_right (by omega) (by unfold nanosPerSecond; decide)

/-- A request counts a thousand bars, or three more than its span has room for. -/
theorem windowBars_enough (positive : 0 < step) {end_ : Int} (before : since ≤ end_) :
    windowBars step since end_ = 1000 ∨ end_ - since < seconds ((windowBars step since end_ - 3) * step) := by
  have fits := lt_wholeSpan positive (end_ - since)
  rw [windowBars_of_span before]
  unfold slack maxCandlesPerRequest
  have some_ : 0 ≤ (end_ - since) / nanosPerSecond / step :=
    Int.ediv_nonneg (Int.ediv_nonneg (sub_nonneg.mpr before) (by unfold nanosPerSecond; decide)) positive.le
  generalize (end_ - since) / nanosPerSecond / step = whole at fits some_ ⊢
  rcases Int.lt_or_le (whole + 4) 1000 with short | long
  · have counted : ((max 1 (min (whole + 1 + 3) 1000)).toNat : Int) = whole + 1 + 3 := by omega
    right
    rw [counted]
    convert fits using 3
    omega
  · left
    omega

theorem windowBars_full (positive : 0 < step) {end_ : Int}
    (far : since < end_ - seconds (maxCandlesPerRequest * step)) : windowBars step since end_ = 1000 := by
  have fits := lt_wholeSpan positive (end_ - since)
  unfold seconds maxCandlesPerRequest at far
  have before : since ≤ end_ := by
    unfold nanosPerSecond at far
    omega
  rw [windowBars_of_span before]
  unfold slack maxCandlesPerRequest
  unfold seconds at fits
  generalize (end_ - since) / nanosPerSecond / step = whole at fits ⊢
  have many : 1000 * step < (whole + 1) * step :=
    lt_of_mul_lt_mul_right (by linarith) (show (0 : Int) ≤ nanosPerSecond by unfold nanosPerSecond; decide)
  have past : 1000 < whole + 1 := lt_of_mul_lt_mul_right many positive.le
  omega

/-- A window for every instant of a span: one that counts a thousand bars and ends at most 999 further on,
or else the last, which counts a thousand or three more than its own span holds. -/
theorem chunkWindowsFrom_covers (positive : 0 < step) {left : Nat} {end_ at_ : Int}
    (few : end_ - since ≤ seconds ((999 * left + 1000) * step)) (first : since ≤ at_) (before : at_ < end_) :
    ∃ window ∈ chunkWindowsFrom step since (left + 1) end_, at_ < window.2 ∧
      (window.1 = 1000 ∧ window.2 - at_ ≤ seconds (999 * step) ∨
        LastEnd step since end_ window.2 ∧
          (window.1 = 1000 ∨ window.2 - since < seconds ((window.1 - 3) * step))) := by
  have last_covers {left : Nat} {end_ : Int} (before : at_ < end_)
      (reaches : end_ - seconds (maxCandlesPerRequest * step) ≤ since) :
      ∃ window ∈ chunkWindowsFrom step since (left + 1) end_, at_ < window.2 ∧
        (window.1 = 1000 ∧ window.2 - at_ ≤ seconds (999 * step) ∨
          LastEnd step since end_ window.2 ∧
            (window.1 = 1000 ∨ window.2 - since < seconds ((window.1 - 3) * step))) := by
    rw [chunkWindowsFrom]
    refine ⟨_, List.mem_cons_self, before, .inr ⟨.here reaches, ?_⟩⟩
    exact windowBars_enough positive (by omega)
  induction left generalizing end_ with
  | zero =>
    refine last_covers before ?_
    unfold maxCandlesPerRequest
    rw [Nat.cast_zero, mul_zero, zero_add] at few
    omega
  | succ left ih =>
    by_cases reaches : end_ - seconds (maxCandlesPerRequest * step) ≤ since
    · exact last_covers before reaches
    · rw [chunkWindowsFrom, if_neg reaches]
      rcases Int.lt_or_le at_ (end_ - seconds (maxCandlesPerRequest * step) + seconds step) with later | near
      · obtain ⟨window, member, after, counts⟩ := ih (by
          unfold maxCandlesPerRequest seconds nanosPerSecond
          unfold seconds nanosPerSecond at few
          push_cast at few
          linarith) later
        refine ⟨window, List.mem_cons_of_mem _ member, after, counts.imp_right fun ⟨last, few⟩ => ⟨?_, few⟩⟩
        exact (LastEnd.further_iff reaches).mpr last
      · refine ⟨_, List.mem_cons_self, before, .inl ⟨?_, ?_⟩⟩
        · exact windowBars_full positive (not_le.mp reaches)
        · unfold maxCandlesPerRequest seconds nanosPerSecond at near
          unfold seconds nanosPerSecond
          linarith

end

/-- The bars that a market has had, book by book, and which requests reach a bar that opens at their end. The
openings lie on the granularity's grid: a step apart, but for at most `lag` where a session's clock jumps. -/
structure Chart (step lag : Int) where
  grid : PacedGrid step lag
  bars : PriceType → List CandleData
  ascends : ∀ price, (bars price).Pairwise (·.timestamp < ·.timestamp)
  onGrid : ∀ price, ∀ bar ∈ bars price, ∃ number, grid.opens number = bar.timestamp
  includesEnd : PriceType → Int → Bool

section
variable {step lag : Int} (chart : Chart step lag)

def Chart.reaches (price : PriceType) (end_ at_ : Int) : Bool :=
  if chart.includesEnd price end_ then at_ ≤ end_ else at_ < end_

/-- The newest bars of a book, as many as are asked for, that open at or before the end. -/
def Chart.answer (price : PriceType) (count : Nat) (end_ : Int) : List CandleData :=
  newest CandleData.timestamp (chart.reaches price end_) count (chart.bars price)

/-- All three books have a bar that opens at this time. -/
def Chart.Common (at_ : Int) : Prop := ∀ price, ∃ bar ∈ chart.bars price, bar.timestamp = at_

/-- The bars of a span that all three books have, each once and in their order. -/
def Chart.between {Joined : Type} (source : Source Joined) (from_ to_ : Int) : List Joined :=
  (chart.bars .mid).filterMap (source.joinAt from_ to_ (chart.bars .bid) (chart.bars .ask))

/-- A bar of the span that all three books have lies a thousand bars of some book before the end of the
last request. -/
def Chart.CutOff (barSeconds from_ to_ : Int) : Prop :=
  ∃ last, LastEnd barSeconds from_ to_ last ∧ ∃ at_, chart.Common at_ ∧ from_ ≤ at_ ∧ at_ < to_ ∧
    ∃ price, 1000 ≤ (chart.bars price).countP fun bar => at_ < bar.timestamp && chart.reaches price last bar.timestamp

variable {chart}

theorem Chart.reaches_le {price : PriceType} {end_ at_ : Int} (reached : chart.reaches price end_ at_ = true) :
    at_ ≤ end_ := by
  unfold reaches at reached
  split at reached
  · exact of_decide_eq_true reached
  · exact (of_decide_eq_true reached).le

theorem Chart.reaches_of_lt {price : PriceType} {end_ at_ : Int} (before : at_ < end_) :
    chart.reaches price end_ at_ = true := by
  unfold reaches
  split
  · exact decide_eq_true before.le
  · exact decide_eq_true before

theorem rowAt_eq_some {rows : List CandleData} (ascends : rows.Pairwise (·.timestamp < ·.timestamp)) {at_ : Int}
    {bar : CandleData} : rowAt rows at_ = some bar ↔ bar ∈ rows ∧ bar.timestamp = at_ := by
  unfold rowAt
  constructor
  · intro found
    exact ⟨List.mem_reverse.mp (List.mem_of_find?_eq_some found), by simpa using List.find?_some found⟩
  · rintro ⟨member, same⟩
    cases found : rows.reverse.find? (·.timestamp = at_) with
    | none =>
      have absent := List.find?_eq_none.mp found bar (List.mem_reverse.mpr member)
      simp [same] at absent
    | some other =>
      have stamped : other.timestamp = at_ := by simpa using List.find?_some found
      have held := List.mem_reverse.mp (List.mem_of_find?_eq_some found)
      rw [eq_of_time ascends held member (stamped.trans same.symm)]

/-- An entry of the map of candles: a time of the span, and what the books' rows of that time join to. -/
def Source.Joins {Joined : Type} (source : Source Joined) (from_ to_ : Int) (books : PriceType → List CandleData)
    (entry : Int × Joined) : Prop :=
  ∃ row : PriceType → CandleData, (∀ price, row price ∈ books price ∧ (row price).timestamp = entry.1) ∧
    (from_ ≤ entry.1 ∧ entry.1 < to_) ∧ source.fromBidMidAsk (row .bid) (row .mid) (row .ask) = entry.2

variable {Joined : Type} {source : Source Joined} {from_ to_ : Int} {books : PriceType → List CandleData}

theorem Source.joinAt_eq_some (ascends : ∀ price, (books price).Pairwise (·.timestamp < ·.timestamp))
    {entry : Int × Joined} :
    (∃ mid ∈ books .mid, mid.timestamp = entry.1 ∧
      source.joinAt from_ to_ (books .bid) (books .ask) mid = some entry.2) ↔ source.Joins from_ to_ books entry := by
  unfold joinAt Joins
  constructor
  · rintro ⟨mid, member, stamped, joined⟩
    cases atBid : rowAt (books .bid) mid.timestamp with
    | none =>
      rw [atBid] at joined
      cases joined
    | some bid =>
      cases atAsk : rowAt (books .ask) mid.timestamp with
      | none =>
        rw [atBid, atAsk] at joined
        cases joined
      | some ask =>
        rw [atBid, atAsk] at joined
        dsimp only at joined
        obtain ⟨bidHeld, bidStamped⟩ := (rowAt_eq_some (ascends .bid)).mp atBid
        obtain ⟨askHeld, askStamped⟩ := (rowAt_eq_some (ascends .ask)).mp atAsk
        split at joined
        · next inSpan =>
          refine ⟨fun | .mid => mid | .bid => bid | .ask => ask, fun price => ?_, stamped ▸ inSpan,
            Option.some.inj joined⟩
          cases price with
          | mid => exact ⟨member, stamped⟩
          | bid => exact ⟨bidHeld, bidStamped.trans stamped⟩
          | ask => exact ⟨askHeld, askStamped.trans stamped⟩
        · cases joined
  · rintro ⟨row, rows, inSpan, joined⟩
    refine ⟨row .mid, (rows .mid).1, (rows .mid).2, ?_⟩
    have same (price : PriceType) : (row price).timestamp = (row .mid).timestamp :=
      (rows price).2.trans (rows .mid).2.symm
    rw [(rowAt_eq_some (ascends .bid)).mpr ⟨(rows .bid).1, same .bid⟩,
      (rowAt_eq_some (ascends .ask)).mpr ⟨(rows .ask).1, same .ask⟩]
    dsimp only
    rw [(rows .mid).2, if_pos inSpan, joined]

theorem Source.Joins.mono {larger : PriceType → List CandleData} (within : ∀ price, books price ⊆ larger price)
    {entry : Int × Joined} (joins : source.Joins from_ to_ books entry) : source.Joins from_ to_ larger entry := by
  obtain ⟨row, rows, inSpan, joined⟩ := joins
  exact ⟨row, fun price => ⟨within price (rows price).1, (rows price).2⟩, inSpan, joined⟩

/-- Books with one row a time join to one entry a time. -/
theorem Source.Joins.unique (ascends : ∀ price, (books price).Pairwise (·.timestamp < ·.timestamp))
    {entry other : Int × Joined} (joins : source.Joins from_ to_ books entry)
    (joinsOther : source.Joins from_ to_ books other) (same : entry.1 = other.1) : entry = other := by
  obtain ⟨row, rows, _, joined⟩ := joins
  obtain ⟨row', rows', _, joined'⟩ := joinsOther
  have rowsSame : row = row' := funext fun price =>
    eq_of_time (ascends price) (rows price).1 (rows' price).1 ((rows price).2.trans (same.trans (rows' price).2.symm))
  exact Prod.ext same (joined.symm.trans (rowsSame ▸ joined'))

/-- The candles so far: in order, each joined from the chart. -/
structure Chart.Held (chart : Chart step lag) (source : Source Joined) (from_ to_ : Int)
    (candles : List (Int × Joined)) : Prop where
  ordered : candles.Pairwise (·.1 < ·.1)
  sound : ∀ entry ∈ candles, source.Joins from_ to_ chart.bars entry

theorem Chart.Held.insert {candles : List (Int × Joined)} (held : chart.Held source from_ to_ candles)
    {entry : Int × Joined} (joins : source.Joins from_ to_ chart.bars entry) :
    chart.Held source from_ to_ (insertEntry entry.1 entry.2 candles) ∧
      ∀ other, other ∈ insertEntry entry.1 entry.2 candles ↔ other ∈ candles ∨ other = entry := by
  have members (other : Int × Joined) :
      other ∈ insertEntry entry.1 entry.2 candles ↔ other ∈ candles ∨ other = entry := by
    rw [mem_insertEntry held.ordered]
    constructor
    · rintro (rfl | ⟨_, member⟩)
      · exact .inr rfl
      · exact .inl member
    · rintro (member | rfl)
      · by_cases same : other.1 = entry.1
        · exact .inl ((held.sound other member).unique chart.ascends joins same)
        · exact .inr ⟨same, member⟩
      · exact .inl rfl
  refine ⟨⟨insertEntry_ordered held.ordered, fun other member => ?_⟩, members⟩
  rcases (members other).mp member with member | rfl
  · exact held.sound other member
  · exact joins

/-- The answers to one window. -/
def Chart.answers (chart : Chart step lag) (window : Nat × Int) (price : PriceType) : List CandleData :=
  chart.answer price window.1 window.2

theorem Chart.answers_ascend (window : Nat × Int) (price : PriceType) :
    (chart.answers window price).Pairwise (·.timestamp < ·.timestamp) :=
  ((chart.ascends price).filter _).drop

theorem Chart.answers_subset (window : Nat × Int) (price : PriceType) :
    chart.answers window price ⊆ chart.bars price :=
  fun _ member => (mem_newest (chart.ascends price)).mp member |>.1

/-- What one window adds to the candles. -/
theorem Chart.Held.window {candles : List (Int × Joined)} (held : chart.Held source from_ to_ candles)
    (window : Nat × Int) {rows : List CandleData} (within : rows ⊆ chart.answers window .mid) :
    chart.Held source from_ to_
        (rows.foldl (source.take from_ to_ (chart.answers window .bid) (chart.answers window .ask)) candles) ∧
      ∀ entry,
        entry ∈ rows.foldl (source.take from_ to_ (chart.answers window .bid) (chart.answers window .ask)) candles ↔
          entry ∈ candles ∨ ∃ mid ∈ rows, mid.timestamp = entry.1 ∧
            source.joinAt from_ to_ (chart.answers window .bid) (chart.answers window .ask) mid = some entry.2 := by
  induction rows generalizing candles with
  | nil => exact ⟨held, fun entry => by simp⟩
  | cons mid rest ih =>
    have member : mid ∈ chart.answers window .mid := within List.mem_cons_self
    have later : rest ⊆ chart.answers window .mid := fun row inRest => within (List.mem_cons_of_mem mid inRest)
    rw [List.foldl_cons]
    cases joined : source.joinAt from_ to_ (chart.answers window .bid) (chart.answers window .ask) mid with
    | none =>
      have taken : source.take from_ to_ (chart.answers window .bid) (chart.answers window .ask) candles mid =
          candles := by
        unfold Source.take
        rw [joined]
      rw [taken]
      obtain ⟨kept, members⟩ := ih held later
      refine ⟨kept, fun entry => ?_⟩
      rw [members entry, List.exists_mem_cons_iff]
      simp [joined]
    | some value =>
      have taken : source.take from_ to_ (chart.answers window .bid) (chart.answers window .ask) candles mid =
          insertEntry mid.timestamp value candles := by
        unfold Source.take
        rw [joined]
      have answered : source.Joins from_ to_ (chart.answers window) (mid.timestamp, value) :=
        (Source.joinAt_eq_some (chart.answers_ascend window)).mp ⟨mid, member, rfl, joined⟩
      have joins : source.Joins from_ to_ chart.bars (mid.timestamp, value) :=
        answered.mono (chart.answers_subset window)
      obtain ⟨inserted, own⟩ := held.insert joins
      rw [taken]
      obtain ⟨kept, members⟩ := ih inserted later
      refine ⟨kept, fun entry => ?_⟩
      rw [members entry, own entry, List.exists_mem_cons_iff, joined, or_assoc]
      refine or_congr Iff.rfl (or_congr ⟨?_, ?_⟩ Iff.rfl)
      · rintro rfl
        exact ⟨rfl, rfl⟩
      · rintro ⟨stamped, same⟩
        exact Prod.ext stamped.symm (Option.some.inj same).symm

/-- The candles that the windows come to. -/
theorem Chart.Held.windows {candles : List (Int × Joined)} (held : chart.Held source from_ to_ candles)
    (windows : List (Nat × Int)) :
    ∃ collected, windows.foldl (fun candles window => (chart.answers window .mid).foldl
          (source.take from_ to_ (chart.answers window .bid) (chart.answers window .ask)) candles) candles = collected ∧
      chart.Held source from_ to_ collected ∧
      ∀ entry, entry ∈ collected ↔
        entry ∈ candles ∨ ∃ window ∈ windows, source.Joins from_ to_ (chart.answers window) entry := by
  induction windows generalizing candles with
  | nil => exact ⟨candles, rfl, held, fun entry => by simp⟩
  | cons window later ih =>
    obtain ⟨kept, members⟩ := held.window window (fun _ member => member)
    obtain ⟨collected, folded, keptLater, membersLater⟩ := ih kept
    refine ⟨collected, folded, keptLater, fun entry => ?_⟩
    rw [membersLater entry, members entry, Source.joinAt_eq_some (chart.answers_ascend window),
      List.exists_mem_cons_iff, or_assoc]

/-- The source's session answers for the instrument as the chart's endpoint does. -/
structure Chart.AnswersFor (chart : Chart step lag) (source : Source Joined) (instrument : String)
    (granularity : SeriesGranularity) : Prop where
  resolved : source.resolveMarket instrument = true
  fetched : ∀ price count end_,
    source.fetch instrument granularity price count end_ = some (chart.answer price count end_)

theorem Chart.AnswersFor.collect_eq {instrument : String} {granularity : SeriesGranularity}
    (answers : chart.AnswersFor source instrument granularity) (windows : List (Nat × Int))
    (candles : List (Int × Joined)) : source.collect from_ to_ instrument granularity windows candles =
      .ok (windows.foldl (fun candles window => (chart.answers window .mid).foldl
        (source.take from_ to_ (chart.answers window .bid) (chart.answers window .ask)) candles) candles) := by
  induction windows generalizing candles with
  | nil => rfl
  | cons window later ih =>
    obtain ⟨count, end_⟩ := window
    rw [Source.collect, answers.fetched, answers.fetched, answers.fetched, List.foldl_cons, ← ih]
    rfl

variable (from_ to_) in
/-- The span comes to the bars that some window's answers join. -/
theorem Chart.AnswersFor.range_spec {instrument : String} {granularity : SeriesGranularity} {core : Granularity}
    (answers : chart.AnswersFor source instrument granularity) (served : granularity.core = some core) :
    ∃ collected, source.range from_ to_ instrument granularity =
        .ok { instrumentName := instrument, granularity, candles := collected.map (·.2) } ∧
      chart.Held source from_ to_ collected ∧
      ∀ entry, entry ∈ collected ↔
        ∃ window ∈ chunkWindows core from_ to_, source.Joins from_ to_ (chart.answers window) entry := by
  have start : chart.Held source from_ to_ [] := ⟨List.Pairwise.nil, fun _ member => by cases member⟩
  obtain ⟨collected, folded, held, members⟩ := start.windows (chunkWindows core from_ to_)
  refine ⟨collected, ?_, held, fun entry => by rw [members entry]; simp⟩
  unfold Source.range
  rw [served]
  dsimp only
  rw [if_pos answers.resolved, answers.collect_eq, folded]
  rfl

/-- The bars of a span with the times they open at. -/
theorem Chart.between_entries (chart : Chart step lag) (source : Source Joined) (from_ to_ : Int) :
    ∃ entries : List (Int × Joined), chart.between source from_ to_ = entries.map (·.2) ∧ entries.Pairwise (·.1 < ·.1) ∧
      ∀ entry, entry ∈ entries ↔ source.Joins from_ to_ chart.bars entry := by
  refine ⟨(chart.bars .mid).filterMap fun mid =>
    (source.joinAt from_ to_ (chart.bars .bid) (chart.bars .ask) mid).map (mid.timestamp, ·), ?_, ?_, fun entry => ?_⟩
  · unfold between
    rw [List.map_filterMap]
    refine List.filterMap_congr fun mid _ => ?_
    rw [Option.map_map]
    exact Option.map_id'.symm
  · refine List.pairwise_filterMap.mpr ((chart.ascends .mid).imp ?_)
    intro mid later before one fromMid other fromLater
    obtain ⟨_, _, rfl⟩ := Option.map_eq_some_iff.mp fromMid
    obtain ⟨_, _, rfl⟩ := Option.map_eq_some_iff.mp fromLater
    exact before
  · rw [← Source.joinAt_eq_some chart.ascends, List.mem_filterMap]
    refine exists_congr fun mid => and_congr Iff.rfl ?_
    rw [Option.map_eq_some_iff]
    constructor
    · rintro ⟨value, joined, rfl⟩
      exact ⟨rfl, joined⟩
    · rintro ⟨stamped, joined⟩
      exact ⟨entry.2, joined, Prod.ext stamped rfl⟩

/-- A span loses no bar exactly if every bar that the books join is joined from some window's answers. -/
theorem Chart.AnswersFor.range_eq_iff {instrument : String} {granularity : SeriesGranularity} {core : Granularity}
    (answers : chart.AnswersFor source instrument granularity) (served : granularity.core = some core) :
    source.range from_ to_ instrument granularity =
        .ok { instrumentName := instrument, granularity, candles := chart.between source from_ to_ } ↔
      ∀ entry, source.Joins from_ to_ chart.bars entry →
        ∃ window ∈ chunkWindows core from_ to_, source.Joins from_ to_ (chart.answers window) entry := by
  obtain ⟨collected, ranged, held, members⟩ := answers.range_spec from_ to_ served
  obtain ⟨entries, between, ordered, wanted⟩ := chart.between_entries source from_ to_
  have within : collected ⊆ entries := fun entry member => (wanted entry).mpr (held.sound entry member)
  rw [ranged, between]
  simp only [← wanted, ← members]
  constructor
  · intro same
    have values : collected.map (·.2) = entries.map (·.2) := congrArg BidAskCandles.candles (Except.ok.inj same)
    have lengths := congrArg List.length values
    rw [List.length_map, List.length_map] at lengths
    have single : collected.Nodup := held.ordered.imp fun before same => by
      rw [same] at before
      exact lt_irrefl _ before
    have perm := (single.subperm within).perm_of_length_le lengths.ge
    exact fun entry member => perm.mem_iff.mpr member
  · intro all
    rw [held.ordered.eq_of_mem_iff ordered fun entry => ⟨fun member => within member, all entry⟩]

/-- A window's answers join a bar that the chart joins, if no book has too many later bars for it. -/
theorem Chart.joins_answers_iff {window : Nat × Int} {entry : Int × Joined}
    (joins : source.Joins from_ to_ chart.bars entry) : source.Joins from_ to_ (chart.answers window) entry ↔
      ∀ price, chart.reaches price window.2 entry.1 = true ∧ (chart.bars price).countP (fun bar =>
        entry.1 < bar.timestamp && chart.reaches price window.2 bar.timestamp) < window.1 := by
  obtain ⟨row, rows, inSpan, joined⟩ := joins
  have answered (price : PriceType) : row price ∈ chart.answers window price ↔
      chart.reaches price window.2 entry.1 = true ∧ (chart.bars price).countP (fun bar =>
        entry.1 < bar.timestamp && chart.reaches price window.2 bar.timestamp) < window.1 := by
    unfold answers answer
    rw [mem_newest (chart.ascends price), (rows price).2]
    exact and_iff_right (rows price).1
  constructor
  · rintro ⟨other, others, _⟩ price
    have same : other price = row price := eq_of_time (chart.ascends price)
      (chart.answers_subset window price (others price).1) (rows price).1 ((others price).2.trans (rows price).2.symm)
    exact (answered price).mp (same ▸ (others price).1)
  · exact fun all => ⟨row, fun price => ⟨(answered price).mpr (all price), (rows price).2⟩, inSpan, joined⟩

end

section
variable {Joined : Type} {g : Granularity} {lag : Int} {chart : Chart (seconds g.seconds) lag} {source : Source Joined}
  {from_ to_ : Int}

theorem seconds_pos (g : Granularity) : 0 < g.seconds := by
  cases g <;> decide

theorem seconds_mul (count span : Int) : seconds (count * span) = count * seconds span := mul_assoc ..

theorem seconds_seconds_pos (g : Granularity) : 0 < seconds g.seconds := by
  have some_ := seconds_pos g
  unfold seconds nanosPerSecond
  omega

theorem fewer_of_mul_lt {count bound : Nat} (fewer : (count : Int) * seconds g.seconds < bound * seconds g.seconds) :
    count < bound :=
  Nat.cast_lt.mp (lt_of_mul_lt_mul_right fewer (seconds_seconds_pos g).le)

theorem chunkWindows_eq (g : Granularity) (since now : Int) :
    chunkWindows g since now = chunkWindowsFrom g.seconds since 1024 now := by
  unfold chunkWindows
  rw [max_eq_left (seconds_pos g)]

/-- Later bars of a book, each a step on, are no more than the steps to the end of a window. -/
theorem Chart.later_le (short : lag < seconds g.seconds) {price : PriceType} {at_ end_ : Int}
    (opened : ∃ bar ∈ chart.bars price, bar.timestamp = at_) (before : at_ ≤ end_) :
    ((chart.bars price).countP (fun bar => at_ < bar.timestamp && chart.reaches price end_ bar.timestamp) : Int) *
      seconds g.seconds ≤ end_ - at_ + lag := by
  obtain ⟨bar, member, rfl⟩ := opened
  exact chart.grid.countP_le (seconds_seconds_pos g) short (chart.ascends price) (chart.onGrid price) member before
    fun _ reached => reaches_le reached

theorem Chart.Common.of_joins {entry : Int × Joined} (joins : source.Joins from_ to_ chart.bars entry) :
    chart.Common entry.1 ∧ from_ ≤ entry.1 ∧ entry.1 < to_ := by
  obtain ⟨row, rows, inSpan, _⟩ := joins
  exact ⟨fun price => ⟨row price, rows price⟩, inSpan⟩

theorem Chart.Common.joins {at_ : Int} (common : chart.Common at_) (inSpan : from_ ≤ at_ ∧ at_ < to_) :
    ∃ joined, source.Joins from_ to_ chart.bars (at_, joined) := by
  choose row rows using common
  exact ⟨_, row, rows, inSpan, rfl⟩

/-- Where nothing is cut off, every bar of the span is in some window's answers. -/
theorem Chart.joined_of_not_cutOff (short : lag < seconds g.seconds)
    (few : to_ - from_ ≤ seconds ((999 * 1023 + 1000) * g.seconds)) (whole : ¬ chart.CutOff g.seconds from_ to_)
    {entry : Int × Joined} (joins : source.Joins from_ to_ chart.bars entry) :
    ∃ window ∈ chunkWindows g from_ to_, source.Joins from_ to_ (chart.answers window) entry := by
  obtain ⟨common, first, before⟩ := Common.of_joins joins
  have fewTurns : to_ - from_ ≤ seconds ((999 * (1023 : Nat) + 1000) * g.seconds) := few
  obtain ⟨window, member, within, counts⟩ := chunkWindowsFrom_covers (seconds_pos g) fewTurns first before
  refine ⟨window, by rwa [chunkWindows_eq], (joins_answers_iff joins).mpr fun price => ⟨reaches_of_lt within, ?_⟩⟩
  have later := later_le short (common price) within.le
  rcases counts with ⟨full, near⟩ | ⟨last, full | enough⟩
  · rw [full]
    rw [seconds_mul] at near
    refine fewer_of_mul_lt (later.trans_lt ?_)
    push_cast
    linarith
  · rw [full]
    by_contra many
    exact whole ⟨window.2, last, entry.1, common, first, before, price, not_lt.mp many⟩
  · rw [seconds_mul] at enough
    refine fewer_of_mul_lt (later.trans_lt ?_)
    linarith [seconds_seconds_pos g]

/-- What is cut off is in no window's answers. -/
theorem Chart.not_joined_of_cutOff (cut : chart.CutOff g.seconds from_ to_) :
    ∃ entry, source.Joins from_ to_ chart.bars entry ∧
      ∀ window ∈ chunkWindows g from_ to_, ¬ source.Joins from_ to_ (chart.answers window) entry := by
  obtain ⟨last, ends, at_, common, first, before, price, many⟩ := cut
  obtain ⟨joined, joins⟩ : ∃ joined, source.Joins from_ to_ chart.bars (at_, joined) :=
    common.joins ⟨first, before⟩
  refine ⟨_, joins, fun window member answered => ?_⟩
  rw [chunkWindows_eq] at member
  have few := ((joins_answers_iff joins).mp answered price).2
  have counted := (mem_chunkWindowsFrom (seconds_pos g) member).2.2
  have onward := ends.le (seconds_pos g) member
  have fewer : (chart.bars price).countP (fun bar => at_ < bar.timestamp && chart.reaches price last bar.timestamp) ≤
      (chart.bars price).countP (fun bar => at_ < bar.timestamp && chart.reaches price window.2 bar.timestamp) := by
    refine List.countP_mono_left fun bar _ past => ?_
    rw [Bool.and_eq_true] at past ⊢
    refine ⟨past.1, ?_⟩
    rcases eq_or_lt_of_le onward with same | after
    · rw [← same]
      exact past.2
    · exact reaches_of_lt ((reaches_le past.2).trans_lt after)
  dsimp only at few
  omega

/-- On a grid whose openings are never closer than a step, a bar is cut off only at the very start of the span:
if the last request ends a thousand bars on, at a bar that it reaches, and its book misses none between. -/
theorem Chart.cutOff_iff {chart : Chart (seconds g.seconds) 0} : chart.CutOff g.seconds from_ to_ ↔
    (∃ further : Nat, to_ - from_ = seconds ((1000 + 999 * further) * g.seconds)) ∧ chart.Common from_ ∧
      ∃ price, chart.includesEnd price (from_ + seconds (1000 * g.seconds)) = true ∧
        ∀ place : Nat, place < 1000 →
          ∃ bar ∈ chart.bars price, bar.timestamp = from_ + (place + 1) * seconds g.seconds := by
  have positive := seconds_seconds_pos g
  constructor
  · rintro ⟨last, ⟨further, same, within, _⟩, at_, common, first, _, price, many⟩
    have reached : at_ ≤ last := by
      by_contra after
      have none : (chart.bars price).countP
          (fun bar => at_ < bar.timestamp && chart.reaches price last bar.timestamp) = 0 := by
        refine List.countP_eq_zero.mpr fun bar _ past => ?_
        rw [Bool.and_eq_true, decide_eq_true_eq] at past
        have bound := reaches_le past.2
        omega
      omega
    have later := later_le positive (common price) reached
    have thousand : (1000 : Int) * seconds g.seconds ≤ ((chart.bars price).countP fun bar =>
        at_ < bar.timestamp && chart.reaches price last bar.timestamp) * seconds g.seconds :=
      mul_le_mul_of_nonneg_right (by exact_mod_cast many) positive.le
    rw [seconds_mul] at within
    have starts : at_ = from_ := by omega
    have ends : last = from_ + seconds (1000 * g.seconds) := by
      rw [seconds_mul]
      omega
    subst starts
    refine ⟨⟨further, ?_⟩, common, price, ?_, fun place inside => ?_⟩
    · rw [seconds_mul] at same ends ⊢
      linarith
    · by_contra excluded
      have strict : ∀ time, chart.reaches price last time = true → time ≤ last - 1 := fun time held => by
        unfold reaches at held
        rw [ends, if_neg excluded, decide_eq_true_eq] at held
        omega
      obtain ⟨bar, member, stamped⟩ := common price
      have fewer := chart.grid.countP_le positive positive (chart.ascends price) (chart.onGrid price) member
        (stamped.trans_le (by omega : at_ ≤ last - 1)) strict
      rw [stamped] at fewer
      omega
    · obtain ⟨bar, member, stamped⟩ := common price
      obtain ⟨number, opened⟩ := chart.onGrid price bar member
      rw [List.countP_eq_length_filter] at many thousand
      have between : ∀ row ∈ (chart.bars price).filter fun bar =>
            at_ < bar.timestamp && chart.reaches price last bar.timestamp,
          chart.grid.opens number < row.timestamp ∧ row.timestamp ≤ last := fun row held => by
        obtain ⟨_, past⟩ := List.mem_filter.mp held
        rw [Bool.and_eq_true, decide_eq_true_eq] at past
        exact ⟨by omega, reaches_le past.2⟩
      have counted : place < ((chart.bars price).filter fun bar =>
          at_ < bar.timestamp && chart.reaches price last bar.timestamp).length := by omega
      obtain ⟨found, held, at_⟩ := chart.grid.filled positive
        ((chart.ascends price).filter fun bar => at_ < bar.timestamp && chart.reaches price last bar.timestamp)
        (fun row held => chart.onGrid price row (List.mem_of_mem_filter held))
        (fun row held => (between row held).1)
        (fun row held => by
          have bound := (between row held).2
          omega)
        counted
      exact ⟨found, List.mem_of_mem_filter held, by rw [at_, opened, stamped]⟩
  · rintro ⟨⟨further, span⟩, common, price, included, filled⟩
    refine ⟨from_ + seconds (1000 * g.seconds), ⟨further, ?_, by omega, .inr ?_⟩, from_, common, le_rfl, ?_, price, ?_⟩
    · rw [seconds_mul] at span ⊢
      rw [seconds_mul]
      linarith
    · rw [seconds_mul]
      omega
    · rw [seconds_mul] at span
      have onward : 0 < (1000 + 999 * (further : Int)) * seconds g.seconds := mul_pos (by omega) positive
      omega
    · rw [List.countP_eq_length_filter]
      have single : ((List.range 1000).map fun place : Nat => from_ + (place + 1 : Int) * seconds g.seconds).Nodup := by
        refine List.nodup_range.map fun place other same => ?_
        have steps := mul_right_cancel₀ positive.ne' (add_left_cancel same)
        omega
      have within : ((List.range 1000).map fun place : Nat => from_ + (place + 1 : Int) * seconds g.seconds) ⊆
          ((chart.bars price).filter fun bar => from_ < bar.timestamp &&
            chart.reaches price (from_ + seconds (1000 * g.seconds)) bar.timestamp).map (·.timestamp) := by
        intro time member
        obtain ⟨place, inside, rfl⟩ := List.mem_map.mp member
        have below := List.mem_range.mp inside
        obtain ⟨bar, held, stamped⟩ := filled place below
        refine List.mem_map.mpr ⟨bar, List.mem_filter.mpr ⟨held, ?_⟩, stamped⟩
        have least : 0 < (place + 1 : Int) * seconds g.seconds := mul_pos (by omega) positive
        have most : (place + 1 : Int) * seconds g.seconds ≤ 1000 * seconds g.seconds :=
          mul_le_mul_of_nonneg_right (by omega) positive.le
        rw [Bool.and_eq_true, decide_eq_true_eq, stamped]
        unfold reaches
        rw [if_pos included, decide_eq_true_eq, seconds_mul]
        omega
      have counted := (single.subperm within).length_le
      rwa [List.length_map, List.length_map, List.length_range] at counted

/-- The windows of any span descend and count one to a thousand bars. A span of at most 1024 windows comes to
exactly the bars that all three books have, each once and in order, if and only if none is cut off; and on a
grid without lag one is cut off only if the span is a thousand bars long, or 999 for each further request
longer, and some book fills it and has the bar at the end of its last request answered. -/
theorem range_whole_iff {instrument : String} {granularity : SeriesGranularity}
    (answers : chart.AnswersFor source instrument granularity) (served : granularity.core = some g)
    (short : lag < seconds g.seconds) (few : to_ - from_ ≤ seconds ((999 * 1023 + 1000) * g.seconds)) :
    ((chunkWindows g from_ to_).length ≤ 1024 ∧
      (chunkWindows g from_ to_).Pairwise (fun newer older => older.2 < newer.2) ∧
      ∀ window ∈ chunkWindows g from_ to_, 1 ≤ window.1 ∧ window.1 ≤ 1000) ∧
    (source.range from_ to_ instrument granularity =
        .ok { instrumentName := instrument, granularity, candles := chart.between source from_ to_ } ↔
      ¬ chart.CutOff g.seconds from_ to_) ∧
    (lag = 0 → (chart.CutOff g.seconds from_ to_ ↔
      (∃ further : Nat, to_ - from_ = seconds ((1000 + 999 * further) * g.seconds)) ∧ chart.Common from_ ∧
        ∃ price, chart.includesEnd price (from_ + seconds (1000 * g.seconds)) = true ∧
          ∀ place : Nat, place < 1000 →
            ∃ bar ∈ chart.bars price, bar.timestamp = from_ + (place + 1) * seconds g.seconds)) := by
  refine ⟨?_, ?_, ?_⟩
  · rw [chunkWindows_eq]
    exact ⟨chunkWindowsFrom_length 1024 to_, chunkWindowsFrom_descend (seconds_pos g) 1024 to_,
      fun window member => (mem_chunkWindowsFrom (seconds_pos g) member).2⟩
  · rw [answers.range_eq_iff served]
    constructor
    · intro whole cut
      obtain ⟨entry, joins, lost⟩ : ∃ entry, source.Joins from_ to_ chart.bars entry ∧
          ∀ window ∈ chunkWindows g from_ to_, ¬ source.Joins from_ to_ (chart.answers window) entry :=
        Chart.not_joined_of_cutOff cut
      obtain ⟨window, member, joined⟩ := whole entry joins
      exact lost window member joined
    · exact fun whole entry joins => Chart.joined_of_not_cutOff short few whole joins
  · rintro rfl
    exact Chart.cutOff_iff

end

/-- A bar at each of these minutes. -/
def minuteBars (minutes : List Nat) : List CandleData :=
  minutes.map fun minute : Nat => ⟨1, 1, 1, 1, 0, (minute : Int) * seconds 60⟩

/-- A market with the same minutes in all three books, whose endpoint includes the bar at the end. -/
def minuteChart (minutes : List Nat) (ascends : minutes.Pairwise (· < ·)) : Chart (seconds 60) 0 where
  grid := .shifted 0 (seconds 60) 0 (fun _ => 0) fun _ => ⟨le_rfl, le_rfl⟩
  bars _ := minuteBars minutes
  ascends _ := by
    refine List.pairwise_map.mpr (ascends.imp ?_)
    intro early late before
    exact mul_lt_mul_of_pos_right (Nat.cast_lt.mpr before) (by decide)
  onGrid _ bar member := by
    obtain ⟨minute, _, rfl⟩ := List.mem_map.mp member
    exact ⟨minute, by simp [PacedGrid.shifted]⟩
  includesEnd _ _ := true

/-- A session on this market, which joins the rows of a bar to the time it opens. -/
def minuteSource (minutes : List Nat) (ascends : minutes.Pairwise (· < ·)) : Source Int where
  resolveMarket _ := true
  fetch _ _ price count end_ := some ((minuteChart minutes ascends).answer price count end_)
  fromBidMidAsk _ mid _ := mid.timestamp

theorem minuteSource_answers (minutes : List Nat) (ascends : minutes.Pairwise (· < ·)) (instrument : String)
    (granularity : SeriesGranularity) :
    (minuteChart minutes ascends).AnswersFor (minuteSource minutes ascends) instrument granularity :=
  ⟨rfl, fun _ _ _ => rfl⟩

theorem range_whole_sparse :
    (minuteSource [0, 2, 1000] (by decide)).range 0 (seconds 60000) "EUR/USD" .oneMinute =
      .ok { instrumentName := "EUR/USD", granularity := .oneMinute, candles := [0, seconds 120] } := by
  have few : seconds 60000 - 0 ≤ seconds ((999 * 1023 + 1000) * Granularity.m1.seconds) := by decide
  have whole := (range_whole_iff (minuteSource_answers [0, 2, 1000] (by decide) "EUR/USD" .oneMinute) rfl (by decide)
    few).2.1
  have between : (minuteChart [0, 2, 1000] (by decide)).between (minuteSource [0, 2, 1000] (by decide)) 0
      (seconds 60000) = [0, seconds 120] := by decide
  rw [← between]
  refine whole.mpr ?_
  rintro ⟨_, _, _, _, _, _, _, many⟩
  have few : 1000 ≤ (minuteBars [0, 2, 1000]).length := many.trans List.countP_le_length
  exact absurd few (by decide)

theorem minuteChart_bar {minutes : List Nat} {ascends : minutes.Pairwise (· < ·)} {minute : Nat}
    (member : minute ∈ minutes) (price : PriceType) :
    ∃ bar ∈ (minuteChart minutes ascends).bars price, bar.timestamp = minute * seconds 60 :=
  ⟨_, List.mem_map_of_mem member, rfl⟩

theorem minuteChart_cutOff {minutes : List Nat} {ascends : minutes.Pairwise (· < ·)}
    (full : ∀ minute ≤ 1000, minute ∈ minutes) :
    (minuteChart minutes ascends).Common 0 ∧
      (minuteChart minutes ascends).CutOff Granularity.m1.seconds 0 (seconds 60000) := by
  have common : (minuteChart minutes ascends).Common 0 := fun price => by
    simpa using minuteChart_bar (full 0 (Nat.zero_le 1000)) price
  refine ⟨common, Chart.cutOff_iff.mpr ⟨⟨0, by decide⟩, common, .mid, rfl, fun place inside => ?_⟩⟩
  obtain ⟨bar, member, stamped⟩ : ∃ bar ∈ (minuteChart minutes ascends).bars .mid,
      bar.timestamp = (place + 1 : Nat) * seconds 60 := minuteChart_bar (full (place + 1) inside) .mid
  refine ⟨bar, member, ?_⟩
  rw [stamped]
  push_cast
  exact (zero_add _).symm

/-- Over a thousand minutes and the one that ends them, a market that misses none loses its first bar. -/
theorem range_loses_first :
    (minuteChart (List.range 1001) List.pairwise_lt_range).AnswersFor
        (minuteSource (List.range 1001) List.pairwise_lt_range) "EUR/USD" .oneMinute ∧
      (minuteChart (List.range 1001) List.pairwise_lt_range).Common 0 ∧
      seconds 60000 - 0 ≤ seconds ((999 * 1023 + 1000) * Granularity.m1.seconds) ∧
      (minuteSource (List.range 1001) List.pairwise_lt_range).range 0 (seconds 60000) "EUR/USD" .oneMinute ≠
        .ok { instrumentName := "EUR/USD", granularity := .oneMinute,
              candles := (minuteChart (List.range 1001) List.pairwise_lt_range).between
                (minuteSource (List.range 1001) List.pairwise_lt_range) 0 (seconds 60000) } := by
  have answers := minuteSource_answers (List.range 1001) List.pairwise_lt_range "EUR/USD" .oneMinute
  obtain ⟨common, cut⟩ : (minuteChart (List.range 1001) List.pairwise_lt_range).Common 0 ∧
      (minuteChart (List.range 1001) List.pairwise_lt_range).CutOff Granularity.m1.seconds 0 (seconds 60000) :=
    minuteChart_cutOff fun minute inside => List.mem_range.mpr (Nat.lt_succ_of_le inside)
  refine ⟨answers, common, by decide, fun whole => ?_⟩
  have served : SeriesGranularity.oneMinute.core = some .m1 := rfl
  have kept := (answers.range_eq_iff served).mp whole
  obtain ⟨entry, joins, lost⟩ := Chart.not_joined_of_cutOff cut
  obtain ⟨window, member, joined⟩ := kept entry joins
  exact lost window member joined

end TradeControl.TradeNation
