import Mathlib.Data.List.Sort
import TradeControl.Foundation.Chains
import TradeControl.Instant
import TradeControl.SlugIds

namespace TradeControl

open Foundation

/-- The parts of the standard library's Unicode tables that the calendar reads. -/
structure UnicodeTables where
  toLowercase : String → String
  toUppercase : String → String
  isWhitespace : Char → Bool

/-- How long a chart blocks before and after an event, a second at least, and the least impact it heeds. -/
structure Timeframe where
  bufferBefore : Int
  bufferAfter : Int
  minBlockingImpact : Nat
  before_pos : seconds 1 ≤ bufferBefore
  after_pos : 0 < bufferAfter

structure CalendarInstrument where
  isAffectedBy : String → Bool

structure EconomicEvent where
  name : String
  currency : String
  impact : Nat
  datetime : Int
  deriving DecidableEq

inductive BrokerKind
  | oanda
  | tradeNation
  | ibkr
  | mt5
  | ctrader
  deriving DecidableEq

structure PlanInputs where
  tradeId : String
  instrument : String
  account : String
  broker : BrokerKind
  deriving DecidableEq

structure PauseSpec where
  tradeId : String
  blackoutId : Option String
  startTime : Int
  endTime : Int
  reason : Option String
  instrument : String
  account : String
  broker : BrokerKind
  deriving DecidableEq

structure NewsSpec where
  tradeId : String
  newsId : Option String
  startTime : Int
  endTime : Int
  reason : Option String
  instrument : String
  account : String
  broker : BrokerKind
  deriving DecidableEq

structure CalendarBarRow where
  eventSlug : String
  eventName : String
  currency : String
  impact : Nat
  eventTime : Int
  pauseSpec : PauseSpec
  newsSpec : NewsSpec
  deriving DecidableEq

/-- `DateTime::timestamp`. -/
def epochSecond (instant : Int) : Int := instant / nanosPerSecond

def EconomicEvent.slug (tables : UnicodeTables) (ev : EconomicEvent) : String :=
  tables.toLowercase ev.currency ++ "-" ++ slugify ev.name ++ "-" ++ toString (epochSecond ev.datetime)

/-- The row of one event. -/
def calendarRow (tables : UnicodeTables) (timeframe : Timeframe) (inputs : PlanInputs)
    (ev : EconomicEvent) : CalendarBarRow :=
  let eventSlug := ev.slug tables
  let label := "cal-" ++ tables.toUppercase ev.currency ++ "-" ++ slugify ev.name
  { eventSlug := eventSlug
    eventName := ev.name
    currency := ev.currency
    impact := ev.impact
    eventTime := ev.datetime
    pauseSpec :=
      { tradeId := inputs.tradeId
        blackoutId := some ("cal-" ++ eventSlug ++ "-pause")
        startTime := ev.datetime - timeframe.bufferBefore
        endTime := ev.datetime
        reason := some (label ++ "-pause")
        instrument := inputs.instrument
        account := inputs.account
        broker := inputs.broker }
    newsSpec :=
      { tradeId := inputs.tradeId
        newsId := some ("cal-" ++ eventSlug ++ "-news")
        startTime := ev.datetime
        endTime := ev.datetime + timeframe.bufferAfter
        reason := some (label ++ "-news")
        instrument := inputs.instrument
        account := inputs.account
        broker := inputs.broker } }

structure Cluster where
  firstPauseStart : Int
  newsEnd : Int
  size : Nat
  last : CalendarBarRow

/-- One turn of the merge, over the clusters so far with the latest first. -/
def mergeStep (clusters : List Cluster) (row : CalendarBarRow) : List Cluster :=
  let pauseStart := row.pauseSpec.startTime
  let newsEnd := row.newsSpec.endTime
  match clusters with
  | [] => [⟨pauseStart, newsEnd, 1, row⟩]
  | cur :: closed =>
    if pauseStart ≤ cur.newsEnd then
      { cur with
        newsEnd := max cur.newsEnd newsEnd
        size := cur.size + 1
        last := row } :: closed
    else ⟨pauseStart, newsEnd, 1, row⟩ :: cur :: closed

def Cluster.row (c : Cluster) : CalendarBarRow :=
  let marked (id : String) : String := if 1 < c.size then id ++ "-merged" else id
  { c.last with
    pauseSpec :=
      { c.last.pauseSpec with
        startTime := c.firstPauseStart
        endTime := c.last.eventTime
        blackoutId := c.last.pauseSpec.blackoutId.map marked }
    newsSpec :=
      { c.last.newsSpec with
        startTime := c.last.eventTime
        endTime := c.newsEnd
        newsId := c.last.newsSpec.newsId.map marked } }

def mergeOverlappingRows (rows : List CalendarBarRow) : List CalendarBarRow :=
  ((rows.foldl mergeStep []).map Cluster.row).reverse

/-- The events the planner keeps. -/
def admits (instrument : CalendarInstrument) (timeframe : Timeframe) (windowStart lookaheadEnd : Int)
    (ev : EconomicEvent) : Bool :=
  decide (windowStart < ev.datetime) && decide (ev.datetime ≤ lookaheadEnd) &&
    decide (timeframe.minBlockingImpact ≤ ev.impact) && instrument.isAffectedBy ev.currency

def planCalendarBarsWithin (tables : UnicodeTables) (events : List EconomicEvent) (instrument : CalendarInstrument)
    (timeframe : Timeframe) (windowStart lookaheadEnd : Int) (inputs : PlanInputs) : List CalendarBarRow :=
  let rows := (events.filter (admits instrument timeframe windowStart lookaheadEnd)).map
    (calendarRow tables timeframe inputs)
  mergeOverlappingRows (rows.insertionSort fun first second => first.eventTime ≤ second.eventTime)

inductive SpecError
  | tradeIdInvalid
  | endNotAfterStart
  | endInPast
  | instrumentRequired
  | accountRequired
  | windowIdInvalid
  deriving DecidableEq

/-- The checks on a window and the id it is armed under. -/
def specId (tables : UnicodeTables) (tradeId : String) (id : Option String) (startTime endTime : Int)
    (instrument account : String) (now : Int) : Except SpecError String :=
  if !isValidTradeId tradeId then .error .tradeIdInvalid
  else if endTime ≤ startTime then .error .endNotAfterStart
  else if endTime ≤ now then .error .endInPast
  else if instrument.toList.all tables.isWhitespace then .error .instrumentRequired
  else if account.toList.all tables.isWhitespace then .error .accountRequired
  else
    match id with
    | some id => if !isValidTradeId id then .error .windowIdInvalid else .ok id
    | none => .ok (toString (epochSecond startTime) ++ "-" ++ toString (epochSecond endTime))

/-- `build_pause_from_spec`, up to the id of the blackout. -/
def buildPauseFromSpec (tables : UnicodeTables) (spec : PauseSpec) (now : Int) : Except SpecError String :=
  specId tables spec.tradeId spec.blackoutId spec.startTime spec.endTime spec.instrument spec.account now

/-- `build_news_from_spec`, up to the id of the news window. -/
def buildNewsFromSpec (tables : UnicodeTables) (spec : NewsSpec) (now : Int) : Except SpecError String :=
  specId tables spec.tradeId spec.newsId spec.startTime spec.endTime spec.instrument spec.account now

section
variable {tables : UnicodeTables} {timeframe : Timeframe} {inputs : PlanInputs}

def blockStart (timeframe : Timeframe) (ev : EconomicEvent) : Int := ev.datetime - timeframe.bufferBefore
def blockEnd (timeframe : Timeframe) (ev : EconomicEvent) : Int := ev.datetime + timeframe.bufferAfter

/-- The runs of events whose blocks reach each other, the latest first. -/
def eventRuns (timeframe : Timeframe) (events : List EconomicEvent) : List (Chain EconomicEvent) :=
  chains (reaches (blockStart timeframe) (blockEnd timeframe)) events

/-- The cluster that a run of events is merged into. -/
def clusterOf (tables : UnicodeTables) (timeframe : Timeframe) (inputs : PlanInputs)
    (run : Chain EconomicEvent) : Cluster :=
  ⟨blockStart timeframe run.first, blockEnd timeframe run.last, run.items.length,
    calendarRow tables timeframe inputs run.last⟩

def inTime (events : List EconomicEvent) : List EconomicEvent :=
  events.insertionSort fun first second => first.datetime ≤ second.datetime

theorem inTime_ordered (timeframe : Timeframe) (events : List EconomicEvent) :
    Ordered (blockStart timeframe) (blockEnd timeframe) (inTime events) := by
  refine (List.pairwise_insertionSort (fun first second : EconomicEvent => first.datetime ≤ second.datetime)
    events).imp fun {first second} le => ?_
  unfold blockStart blockEnd
  constructor <;> omega

theorem foldl_mergeStep (tables : UnicodeTables) (inputs : PlanInputs) {events : List EconomicEvent}
    (ordered : Ordered (blockStart timeframe) (blockEnd timeframe) events) :
    (events.map (calendarRow tables timeframe inputs)).foldl mergeStep [] =
      (eventRuns timeframe events).map (clusterOf tables timeframe inputs) := by
  induction events using List.reverseRecOn with
  | nil => rfl
  | append_singleton events ev ih =>
    obtain ⟨first, _, across⟩ := List.pairwise_append.mp ordered
    unfold eventRuns at ih ⊢
    rw [List.map_append, List.map_singleton, List.foldl_append, List.foldl_cons, List.foldl_nil, ih first,
      chains_snoc]
    cases found : chains (reaches (blockStart timeframe) (blockEnd timeframe)) events with
    | nil => rfl
    | cons run closed =>
      have listed : run.last ∈ events :=
        mem_chains.mp ⟨run, by rw [found]; exact List.mem_cons_self, List.mem_cons_self⟩
      have ends := (across run.last listed ev (List.mem_singleton.mpr rfl)).2
      have latest : max (blockEnd timeframe run.last) (blockEnd timeframe ev) = blockEnd timeframe ev :=
        max_eq_right ends
      have link : reaches (blockStart timeframe) (blockEnd timeframe) run.last ev = true ↔
          (calendarRow tables timeframe inputs ev).pauseSpec.startTime ≤ blockEnd timeframe run.last :=
        decide_eq_true_iff
      by_cases joins : reaches (blockStart timeframe) (blockEnd timeframe) run.last ev = true
      · simp only [List.map_cons, mergeStep, chainOn, clusterOf, if_pos joins, if_pos (link.mp joins),
          Chain.first_push]
        exact congrArg (fun newsEnd => Cluster.mk _ newsEnd _ _ :: _) latest
      · simp only [List.map_cons, mergeStep, chainOn, clusterOf, if_neg joins, if_neg (mt link.mpr joins)]
        rfl

/-- The row of a run of events. -/
def runRow (tables : UnicodeTables) (timeframe : Timeframe) (inputs : PlanInputs)
    (run : Chain EconomicEvent) : CalendarBarRow := (clusterOf tables timeframe inputs run).row

theorem planCalendarBarsWithin_eq (events : List EconomicEvent) (instrument : CalendarInstrument)
    (windowStart lookaheadEnd : Int) :
    planCalendarBarsWithin tables events instrument timeframe windowStart lookaheadEnd inputs =
      ((eventRuns timeframe (inTime (events.filter (admits instrument timeframe windowStart lookaheadEnd)))).map
        (runRow tables timeframe inputs)).reverse := by
  unfold planCalendarBarsWithin mergeOverlappingRows
  dsimp only
  rw [← List.map_insertionSort (fun first second : EconomicEvent => first.datetime ≤ second.datetime) _
    (calendarRow tables timeframe inputs) _ (fun _ _ _ _ => Iff.rfl)]
  have merged := foldl_mergeStep tables inputs (inTime_ordered timeframe
    (events.filter (admits instrument timeframe windowStart lookaheadEnd)))
  unfold inTime at merged ⊢
  rw [merged, List.map_map]
  rfl

end

/-- Windows that lie apart, pivot on an event and cover the blocks of all events and nothing else. -/
structure WindowsCover (timeframe : Timeframe) (admitted : List EconomicEvent) (rows : List CalendarBarRow) :
    Prop where
  apart : rows.Pairwise fun first second => first.newsSpec.endTime < second.pauseSpec.startTime
  pivot : ∀ row ∈ rows, row.pauseSpec.startTime < row.eventTime ∧ row.pauseSpec.endTime = row.eventTime ∧
    row.newsSpec.startTime = row.eventTime ∧ row.eventTime < row.newsSpec.endTime
  covers : ∀ ev ∈ admitted, ∃ row ∈ rows,
    row.pauseSpec.startTime ≤ ev.datetime - timeframe.bufferBefore ∧
      ev.datetime + timeframe.bufferAfter ≤ row.newsSpec.endTime
  exact_ : ∀ row ∈ rows, ∀ t, row.pauseSpec.startTime ≤ t → t ≤ row.newsSpec.endTime →
    ∃ ev ∈ admitted, ev.datetime - timeframe.bufferBefore ≤ t ∧ t ≤ ev.datetime + timeframe.bufferAfter

/-- Start, pivot and end of a row's two windows. -/
def CalendarBarRow.window (row : CalendarBarRow) : Int × Int × Int :=
  (row.pauseSpec.startTime, row.eventTime, row.newsSpec.endTime)

section
variable {tables : UnicodeTables} {timeframe : Timeframe} {inputs : PlanInputs}

theorem eventRuns_filled (timeframe : Timeframe) (events : List EconomicEvent) :
    ∀ run ∈ eventRuns timeframe (inTime events), run.Filled (blockStart timeframe) (blockEnd timeframe) :=
  (chains_spec (inTime_ordered timeframe events)).1

theorem mem_eventRuns {events : List EconomicEvent} {ev : EconomicEvent} :
    (∃ run ∈ eventRuns timeframe (inTime events), ev ∈ run.items) ↔ ev ∈ events := by
  unfold eventRuns
  rw [mem_chains]
  exact List.mem_insertionSort _

theorem windowsCover (events : List EconomicEvent) :
    WindowsCover timeframe events
      ((eventRuns timeframe (inTime events)).map (runRow tables timeframe inputs)).reverse := by
  obtain ⟨filled, apart⟩ := chains_spec (inTime_ordered timeframe events)
  have before := timeframe.before_pos
  have after := timeframe.after_pos
  unfold seconds nanosPerSecond at before
  refine ⟨?_, fun row member => ?_, fun ev member => ?_, fun row member t above below => ?_⟩
  · rw [List.pairwise_reverse, List.pairwise_map]
    exact apart
  · obtain ⟨run, listed, rfl⟩ := List.mem_map.mp (List.mem_reverse.mp member)
    have begins := ((filled run listed).within run.last List.mem_cons_self).1
    refine ⟨?_, rfl, rfl, ?_⟩
    · exact begins.trans_lt (show run.last.datetime - timeframe.bufferBefore < run.last.datetime by omega)
    · exact show run.last.datetime < run.last.datetime + timeframe.bufferAfter by omega
  · obtain ⟨run, listed, inRun⟩ := mem_eventRuns.mpr member
    refine ⟨runRow tables timeframe inputs run, List.mem_reverse.mpr (List.mem_map_of_mem listed), ?_⟩
    exact (filled run listed).within ev inRun
  · obtain ⟨run, listed, rfl⟩ := List.mem_map.mp (List.mem_reverse.mp member)
    obtain ⟨ev, inRun, inside⟩ := (filled run listed).filled t above below
    exact ⟨ev, mem_eventRuns.mp ⟨run, listed, inRun⟩, inside⟩

/-- The windows are told by the times of the events, in whatever order they come. -/
theorem windows_perm {events events' : List EconomicEvent} (same : events'.Perm events) :
    (((eventRuns timeframe (inTime events')).map (runRow tables timeframe inputs)).reverse).map CalendarBarRow.window =
      (((eventRuns timeframe (inTime events)).map (runRow tables timeframe inputs)).reverse).map
        CalendarBarRow.window := by
  have times (listed : List EconomicEvent) :
      (((eventRuns timeframe (inTime listed)).map (runRow tables timeframe inputs)).reverse).map CalendarBarRow.window =
        ((chains (reaches (· - timeframe.bufferBefore) (· + timeframe.bufferAfter))
          ((listed.map (·.datetime)).insertionSort (· ≤ ·))).map fun run =>
            (run.first - timeframe.bufferBefore, run.last, run.last + timeframe.bufferAfter)).reverse := by
    have sorted : (listed.map (·.datetime)).insertionSort (· ≤ ·) = (inTime listed).map (·.datetime) :=
      (List.map_insertionSort _ (· ≤ ·) (·.datetime) listed fun _ _ _ _ => Iff.rfl).symm
    have mapped : chains (reaches (· - timeframe.bufferBefore) (· + timeframe.bufferAfter))
        ((inTime listed).map (·.datetime)) = (eventRuns timeframe (inTime listed)).map (Chain.map (·.datetime)) :=
      chains_map EconomicEvent.datetime _ (fun _ _ => rfl) _
    rw [sorted, mapped, List.map_reverse, List.map_map, List.map_map]
    congr 1
    refine List.map_congr_left fun run _ => ?_
    simp only [Function.comp_apply, Chain.first_map]
    rfl
  have sortedSame : (events'.map (·.datetime)).insertionSort (· ≤ ·) =
      (events.map (·.datetime)).insertionSort (· ≤ ·) :=
    ((List.perm_insertionSort (· ≤ ·) _).trans ((same.map _).trans
      (List.perm_insertionSort (· ≤ ·) _).symm)).eq_of_pairwise'
        (List.pairwise_insertionSort (· ≤ ·) _) (List.pairwise_insertionSort (· ≤ ·) _)
  rw [times, times, sortedSame]

end

/-- The text of a window's id. -/
def windowId (tables : UnicodeTables) (ev : EconomicEvent) (kind : String) (merged : Bool) : String :=
  let id := "cal-" ++ ev.slug tables ++ "-" ++ kind
  if merged then id ++ "-merged" else id

/-- The words of an id after its event. -/
def kindWords (kind : String) (merged : Bool) : List Char :=
  if merged then kind.toList ++ '-' :: "merged".toList else kind.toList

/-- The words of an id up to its event's time. -/
def nameWords (tables : UnicodeTables) (ev : EconomicEvent) : List Char :=
  "cal".toList ++ '-' :: ((tables.toLowercase ev.currency).toList ++ '-' :: (slugify ev.name).toList)

def epochText (ev : EconomicEvent) : List Char := (toString (epochSecond ev.datetime)).toList

section
variable {tables : UnicodeTables} {ev ev' : EconomicEvent}

theorem windowId_words (kind : String) (merged : Bool) :
    (windowId tables ev kind merged).toList =
      (nameWords tables ev ++ '-' :: epochText ev) ++ '-' :: kindWords kind merged := by
  unfold windowId EconomicEvent.slug nameWords epochText kindWords
  cases merged <;> simp [String.toList_append, List.append_assoc]

theorem epochText_slug : IsSlug (epochText ev) ↔ 0 ≤ epochSecond ev.datetime := by
  unfold epochText
  cases epochSecond ev.datetime with
  | ofNat n =>
    refine ⟨fun _ => Int.natCast_nonneg n, fun _ => ?_⟩
    rw [show toString (Int.ofNat n) = n.repr from rfl, Nat.toList_repr]
    exact (toDigits_slug n).1
  | negSucc n =>
    refine ⟨fun slug => ?_, fun nonneg => absurd (Int.negSucc_lt_zero n) (not_lt.mpr nonneg)⟩
    rw [show toString (Int.negSucc n) = "-" ++ (n + 1).repr from rfl, String.toList_append] at slug
    exact absurd rfl slug.starts

theorem nameWords_ends (tables : UnicodeTables) (ev : EconomicEvent) : (nameWords tables ev).getLast? ≠ some '-' := by
  obtain ⟨slug, _⟩ := slugify_slug ev.name
  have last : nameWords tables ev =
      ("cal".toList ++ '-' :: (tables.toLowercase ev.currency).toList ++ ['-']) ++ (slugify ev.name).toList := by
    simp [nameWords]
  rw [last, List.getLast?_append_of_ne_nil _ slug.nonempty]
  exact slug.ends

/-- A time's words end in its digits; a time before the epoch adds a hyphen before them. -/
theorem epochText_words (words : List Char) :
    words ++ '-' :: epochText ev =
      (if epochSecond ev.datetime < 0 then words ++ ['-'] else words) ++
        '-' :: Nat.toDigits 10 (epochSecond ev.datetime).natAbs := by
  unfold epochText
  cases epochSecond ev.datetime with
  | ofNat n =>
    rw [show toString (Int.ofNat n) = n.repr from rfl, Nat.toList_repr,
      if_neg (show ¬Int.ofNat n < 0 from not_lt.mpr (Int.natCast_nonneg n))]
    rfl
  | negSucc n =>
    rw [show toString (Int.negSucc n) = "-" ++ (n + 1).repr from rfl, String.toList_append, Nat.toList_repr,
      if_pos (Int.negSucc_lt_zero n)]
    simp

/-- An id tells the second its event comes in. -/
theorem epochSecond_eq_of_words
    (same : nameWords tables ev ++ '-' :: epochText ev = nameWords tables ev' ++ '-' :: epochText ev') :
    epochSecond ev.datetime = epochSecond ev'.datetime := by
  have ends := nameWords_ends tables ev
  have ends' := nameWords_ends tables ev'
  rw [epochText_words, epochText_words] at same
  obtain ⟨stems, digits⟩ := lastWord_inj (toDigits_slug _).2 (toDigits_slug _).2 same
  have sizes : (epochSecond ev.datetime).natAbs = (epochSecond ev'.datetime).natAbs := by
    rw [← Nat.ofDigitChars_ten_toDigits (n := (epochSecond ev.datetime).natAbs), digits,
      Nat.ofDigitChars_ten_toDigits]
  have signs : epochSecond ev.datetime < 0 ↔ epochSecond ev'.datetime < 0 := by
    by_cases negative : epochSecond ev.datetime < 0 <;> by_cases negative' : epochSecond ev'.datetime < 0
    · exact ⟨fun _ => negative', fun _ => negative⟩
    · rw [if_pos negative, if_neg negative'] at stems
      rw [← stems] at ends'
      exact absurd (by simp) ends'
    · rw [if_neg negative, if_pos negative'] at stems
      rw [stems] at ends
      exact absurd (by simp) ends
    · exact ⟨fun held => absurd held negative, fun held => absurd held negative'⟩
  omega

/-- An event whose window can be armed under its id: a currency that is a slug in lower case, a time
since the epoch, and words that leave room for the rest of the id. -/
structure EconomicEvent.IdFits (tables : UnicodeTables) (ev : EconomicEvent) (merged : Bool) : Prop where
  currency : isValidTradeId (tables.toLowercase ev.currency) = true
  since : 0 ≤ epochSecond ev.datetime
  short : (tables.toLowercase ev.currency).length + (slugify ev.name).length +
    (toString (epochSecond ev.datetime)).length + (if merged then 19 else 12) ≤ tradeIdMaxLen

theorem windowId_length (kind : String) (merged : Bool) :
    (windowId tables ev kind merged).toList.length =
      7 + (tables.toLowercase ev.currency).length + (slugify ev.name).length +
        (toString (epochSecond ev.datetime)).length + (kindWords kind merged).length := by
  rw [windowId_words]
  unfold nameWords epochText
  simp only [List.length_append, List.length_cons, String.length_toList]
  rw [show "cal".length = 3 from rfl]
  omega

theorem windowId_slug {kind : String} {merged : Bool} (tail : IsSlug (kindWords kind merged)) :
    IsSlug (windowId tables ev kind merged).toList ↔
      IsSlug (tables.toLowercase ev.currency).toList ∧ 0 ≤ epochSecond ev.datetime := by
  have cal : IsSlug "cal".toList := ((isValidTradeId_iff "cal").mp (by decide +kernel)).1
  rw [windowId_words, isSlug_join, isSlug_join, epochText_slug]
  unfold nameWords
  rw [isSlug_join, isSlug_join]
  constructor
  · exact fun held => ⟨held.1.1.2.1, held.1.2⟩
  · exact fun held => ⟨⟨⟨cal, held.1, (slugify_slug ev.name).1⟩, held.2⟩, tail⟩

theorem kindWords_slug (merged : Bool) :
    IsSlug (kindWords "pause" merged) ∧ IsSlug (kindWords "news" merged) := by
  cases merged with
  | false =>
    exact ⟨((isValidTradeId_iff "pause").mp (by decide +kernel)).1,
      ((isValidTradeId_iff "news").mp (by decide +kernel)).1⟩
  | true =>
    exact ⟨((isValidTradeId_iff "pause-merged").mp (by decide +kernel)).1,
      ((isValidTradeId_iff "news-merged").mp (by decide +kernel)).1⟩

/-- Both ids of a run of events are taken just when the pause's fits. -/
theorem windowIds_valid (merged : Bool) :
    (isValidTradeId (windowId tables ev "pause" merged) = true ∧
      isValidTradeId (windowId tables ev "news" merged) = true) ↔ ev.IdFits tables merged := by
  obtain ⟨pause, news⟩ := kindWords_slug merged
  have pauseLength : (kindWords "pause" merged).length = if merged then 12 else 5 := by cases merged <;> rfl
  have newsLength : (kindWords "news" merged).length = if merged then 11 else 4 := by cases merged <;> rfl
  rw [isValidTradeId_iff, isValidTradeId_iff, windowId_slug pause, windowId_slug news, windowId_length,
    windowId_length, pauseLength, newsLength]
  constructor
  · rintro ⟨⟨⟨currency, since⟩, short⟩, _⟩
    refine ⟨(isValidTradeId_iff _).mpr ⟨currency, ?_⟩, since, ?_⟩
    · rw [String.length_toList]
      omega
    · cases merged
      · simp only [Bool.false_eq_true, if_false] at short ⊢
        omega
      · simp only [if_true] at short ⊢
        omega
  · rintro ⟨currency, since, short⟩
    have slug := ((isValidTradeId_iff _).mp currency).1
    cases merged
    · simp only [Bool.false_eq_true, if_false] at short ⊢
      exact ⟨⟨⟨slug, since⟩, by omega⟩, ⟨slug, since⟩, by omega⟩
    · simp only [if_true] at short ⊢
      exact ⟨⟨⟨slug, since⟩, by omega⟩, ⟨slug, since⟩, by omega⟩

theorem windowId_last {kind : String} {merged : Bool} (tail : IsSlug (kindWords kind merged)) :
    (windowId tables ev kind merged).toList.getLast? = (kindWords kind merged).getLast? := by
  rw [windowId_words, List.append_cons, List.getLast?_append_of_ne_nil _ tail.nonempty]

/-- Equal ids come from events of one second. -/
theorem windowId_second {kind : String} {merged merged' : Bool} (kinds : kind = "pause" ∨ kind = "news")
    (same : windowId tables ev kind merged = windowId tables ev' kind merged') :
    epochSecond ev.datetime = epochSecond ev'.datetime := by
  have words := congrArg String.toList same
  have slug (m : Bool) : IsSlug (kindWords kind m) := by
    rcases kinds with rfl | rfl
    · exact (kindWords_slug m).1
    · exact (kindWords_slug m).2
  have lasts := congrArg List.getLast? words
  rw [windowId_last (slug merged), windowId_last (slug merged')] at lasts
  have alike : merged = merged' := by
    rcases kinds with rfl | rfl <;> revert lasts <;> cases merged <;> cases merged' <;> decide
  subst alike
  rw [windowId_words, windowId_words] at words
  exact epochSecond_eq_of_words (List.append_cancel_right words)

end

section
variable {tables : UnicodeTables} {timeframe : Timeframe} {inputs : PlanInputs}

/-- Whether a run of events is marked as merged. -/
def marks (run : Chain EconomicEvent) : Bool := !run.earlier.isEmpty

theorem runRow_ids (tables : UnicodeTables) (timeframe : Timeframe) (inputs : PlanInputs)
    (run : Chain EconomicEvent) :
    (runRow tables timeframe inputs run).pauseSpec.blackoutId = some (windowId tables run.last "pause" (marks run)) ∧
      (runRow tables timeframe inputs run).newsSpec.newsId = some (windowId tables run.last "news" (marks run)) := by
  have joined (id kind : String) : "cal-" ++ id ++ ("-" ++ kind) = "cal-" ++ id ++ "-" ++ kind := by
    rw [← String.append_assoc]
  unfold runRow Cluster.row clusterOf calendarRow windowId marks
  cases earlier : run.earlier with
  | nil =>
    simp only [Chain.items, earlier, List.length_singleton, lt_irrefl, if_false, Option.map_some, List.isEmpty_nil,
      Bool.not_true, Bool.false_eq_true]
    exact ⟨congrArg some (joined _ "pause"), congrArg some (joined _ "news")⟩
  | cons ev rest =>
    simp only [Chain.items, earlier, List.length_cons, List.isEmpty_cons, Bool.not_false, if_true, Option.map_some,
      Nat.lt_add_left_iff_pos, Nat.zero_lt_succ]
    exact ⟨congrArg (fun id => some (id ++ "-merged")) (joined _ "pause"),
      congrArg (fun id => some (id ++ "-merged")) (joined _ "news")⟩

/-- No two rows share an id. -/
theorem runRow_distinct (events : List EconomicEvent) :
    (((eventRuns timeframe (inTime events)).map (runRow tables timeframe inputs)).reverse).Pairwise fun first second =>
      first.pauseSpec.blackoutId ≠ second.pauseSpec.blackoutId ∧ first.newsSpec.newsId ≠ second.newsSpec.newsId := by
  obtain ⟨filled, apart⟩ := chains_spec (inTime_ordered timeframe events)
  have before := timeframe.before_pos
  have after := timeframe.after_pos
  unfold seconds nanosPerSecond at before
  rw [List.pairwise_reverse, List.pairwise_map]
  refine apart.imp_of_mem fun {later earlier} listed _ gap => ?_
  have begins := ((filled later listed).within later.last List.mem_cons_self).1
  have seconds_ : epochSecond earlier.last.datetime ≠ epochSecond later.last.datetime := by
    unfold blockStart at begins gap
    unfold blockEnd at gap
    unfold epochSecond nanosPerSecond
    omega
  obtain ⟨pause, news⟩ := runRow_ids tables timeframe inputs earlier
  obtain ⟨pause', news'⟩ := runRow_ids tables timeframe inputs later
  rw [pause, news, pause', news']
  exact ⟨fun same => seconds_ (windowId_second (.inl rfl) (Option.some.inj same)),
    fun same => seconds_ (windowId_second (.inr rfl) (Option.some.inj same))⟩

/-- Inputs whose other checks a window passes. -/
structure PlanInputs.Ready (tables : UnicodeTables) (inputs : PlanInputs) : Prop where
  tradeId : isValidTradeId inputs.tradeId = true
  instrument : inputs.instrument.toList.all tables.isWhitespace = false
  account : inputs.account.toList.all tables.isWhitespace = false

/-- A row whose ids are slugs, so that both of its windows are armed while they lie ahead. -/
def CalendarBarRow.Usable (tables : UnicodeTables) (inputs : PlanInputs) (row : CalendarBarRow) : Prop :=
  ∃ blackoutId newsId, row.pauseSpec.blackoutId = some blackoutId ∧ row.newsSpec.newsId = some newsId ∧
    (isValidTradeId blackoutId = true ∧ isValidTradeId newsId = true) ∧
    ∀ now < row.eventTime, inputs.Ready tables →
      buildPauseFromSpec tables row.pauseSpec now = .ok blackoutId ∧
        buildNewsFromSpec tables row.newsSpec now = .ok newsId

theorem specId_ok {tradeId instrument account id : String} {startTime endTime now : Int}
    (trade : isValidTradeId tradeId = true) (lasts : startTime < endTime) (ahead : now < endTime)
    (named : instrument.toList.all tables.isWhitespace = false)
    (held : account.toList.all tables.isWhitespace = false) (slug : isValidTradeId id = true) :
    specId tables tradeId (some id) startTime endTime instrument account now = .ok id := by
  unfold specId
  rw [trade, named, held, if_neg (by decide), if_neg (not_le.mpr lasts), if_neg (not_le.mpr ahead),
    if_neg (by decide), if_neg (by decide)]
  dsimp only
  rw [slug]
  rfl

theorem runRow_usable {run : Chain EconomicEvent}
    (filled : run.Filled (blockStart timeframe) (blockEnd timeframe)) :
    (runRow tables timeframe inputs run).Usable tables inputs ↔ run.last.IdFits tables (marks run) := by
  obtain ⟨pause, news⟩ := runRow_ids tables timeframe inputs run
  rw [← windowIds_valid]
  constructor
  · rintro ⟨blackoutId, newsId, samePause, sameNews, valid, _⟩
    rw [← Option.some.inj (pause.symm.trans samePause), ← Option.some.inj (news.symm.trans sameNews)] at valid
    exact valid
  · refine fun valid => ⟨_, _, pause, news, valid, fun now ahead ready => ?_⟩
    have before := timeframe.before_pos
    have after := timeframe.after_pos
    unfold seconds nanosPerSecond at before
    have begins := (filled.within run.last List.mem_cons_self).1
    unfold blockStart at begins
    unfold buildPauseFromSpec buildNewsFromSpec
    rw [pause, news]
    have pauseLasts : run.first.datetime - timeframe.bufferBefore < run.last.datetime := by omega
    have newsLasts : run.last.datetime < run.last.datetime + timeframe.bufferAfter := by omega
    exact ⟨specId_ok ready.tradeId pauseLasts ahead ready.instrument ready.account valid.1,
      specId_ok ready.tradeId newsLasts (ahead.trans newsLasts) ready.instrument ready.account valid.2⟩

end

/-- A plan whose windows cover the events in whatever order they come, and can be armed apart from each other. -/
structure PlanSound (tables : UnicodeTables) (events : List EconomicEvent) (instrument : CalendarInstrument)
    (timeframe : Timeframe) (windowStart lookaheadEnd : Int) (inputs : PlanInputs) : Prop where
  cover : WindowsCover timeframe (events.filter (admits instrument timeframe windowStart lookaheadEnd))
    (planCalendarBarsWithin tables events instrument timeframe windowStart lookaheadEnd inputs)
  order : ∀ events' : List EconomicEvent, events'.Perm events →
    (planCalendarBarsWithin tables events' instrument timeframe windowStart lookaheadEnd inputs).map
        CalendarBarRow.window =
      (planCalendarBarsWithin tables events instrument timeframe windowStart lookaheadEnd inputs).map
        CalendarBarRow.window
  distinct : (planCalendarBarsWithin tables events instrument timeframe windowStart lookaheadEnd inputs).Pairwise
    fun first second => first.pauseSpec.blackoutId ≠ second.pauseSpec.blackoutId ∧
      first.newsSpec.newsId ≠ second.newsSpec.newsId
  usable : ∀ row ∈ planCalendarBarsWithin tables events instrument timeframe windowStart lookaheadEnd inputs,
    row.Usable tables inputs

/-- The windows themselves are sound; they can be armed just when the ids of the last events of the runs
that merge leave room for their suffixes. -/
theorem planSound_iff (tables : UnicodeTables) (events : List EconomicEvent) (instrument : CalendarInstrument)
    (timeframe : Timeframe) (windowStart lookaheadEnd : Int) (inputs : PlanInputs) :
    PlanSound tables events instrument timeframe windowStart lookaheadEnd inputs ↔
      ∀ run ∈ eventRuns timeframe (inTime (events.filter (admits instrument timeframe windowStart lookaheadEnd))),
        run.last.IdFits tables (marks run) := by
  have filled := eventRuns_filled timeframe
    (events.filter (admits instrument timeframe windowStart lookaheadEnd))
  constructor
  · intro sound run listed
    have usable : (runRow tables timeframe inputs run).Usable tables inputs ↔ run.last.IdFits tables (marks run) :=
      runRow_usable (filled run listed)
    refine usable.mp (sound.usable _ ?_)
    rw [planCalendarBarsWithin_eq]
    exact List.mem_reverse.mpr (List.mem_map_of_mem listed)
  · refine fun fits => ⟨?_, fun events' same => ?_, ?_, fun row member => ?_⟩
    · rw [planCalendarBarsWithin_eq]
      exact windowsCover _
    · rw [planCalendarBarsWithin_eq, planCalendarBarsWithin_eq]
      exact windows_perm (same.filter _)
    · rw [planCalendarBarsWithin_eq]
      exact runRow_distinct _
    · rw [planCalendarBarsWithin_eq] at member
      obtain ⟨run, listed, rfl⟩ := List.mem_map.mp (List.mem_reverse.mp member)
      exact (runRow_usable (filled run listed)).mpr (fits run listed)

/-- Unicode tables as far as ASCII goes. -/
def asciiTables : UnicodeTables := ⟨String.toLower, String.toUpper, Char.isWhitespace⟩

/-- A quarter-hour chart: three hours before an event of medium impact or more and one after. -/
def quarterHour : Timeframe where
  bufferBefore := seconds 10800
  bufferAfter := seconds 3600
  minBlockingImpact := 2
  before_pos := by decide
  after_pos := by decide

/-- Two releases of one survey, at one time. -/
def surveyDay : List EconomicEvent :=
  [⟨"Prelim UoM Consumer Sentiment", "USD", 2, seconds 1749823200⟩,
    ⟨"Prelim UoM Inflation Expectations", "USD", 2, seconds 1749823200⟩]

/-- The merged id of the two releases is a character too long. -/
theorem surveyDay_unsound :
    ¬PlanSound asciiTables surveyDay ⟨fun currency => currency = "USD"⟩ quarterHour (seconds 1749800000)
      (seconds 1749900000) ⟨"eurusd-hs-1", "EUR_USD", "oanda-demo", .oanda⟩ := by
  intro sound
  have refused : ∃ row ∈ planCalendarBarsWithin asciiTables surveyDay ⟨fun currency => currency = "USD"⟩ quarterHour
      (seconds 1749800000) (seconds 1749900000) ⟨"eurusd-hs-1", "EUR_USD", "oanda-demo", .oanda⟩,
      (row.pauseSpec.blackoutId.map isValidTradeId) = some false := by decide +kernel
  obtain ⟨row, member, invalid⟩ := refused
  obtain ⟨blackoutId, _, named, _, valid, _⟩ := sound.usable row member
  rw [named, Option.map_some, valid.1] at invalid
  cases invalid

end TradeControl
