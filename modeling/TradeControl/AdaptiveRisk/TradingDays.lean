import TradeControl.AdaptiveRisk.Policies
import TradeControl.Foundation.ShiftedClock

namespace TradeControl.AdaptiveRisk

open Foundation

/-! The days of a trading calendar, in a zone whose offset is constant between its changes. -/

/-- A zone's offset before its first change, and from each change on. -/
structure OffsetZone where
  first : Int
  changes : List (Int × Int)

def OffsetZone.toTimezone (zone : OffsetZone) : Timezone where
  wallTime := shiftedClock zone.first zone.changes
  single := soleReading zone.first zone.changes
  wallTime_single found := (soleReading_iff.mp found).1

/-- By the wall clock, the zone's spans start in order and end in order. -/
def OffsetZone.InOrder (zone : OffsetZone) : Prop := SpansInOrder zone.first zone.changes

/-- The calendar's days partition time: each holds the instant it is told for, is the day of all its instants and
of none of another's, and ends where the next one starts. -/
structure PartitionsTime (zones : Zones) (calendar : TradingCalendar) : Prop where
  holds : ∀ now day, calendar.dayAt zones now = .ok day → day.start ≤ now ∧ now < day.ending
  whole : ∀ now day, calendar.dayAt zones now = .ok day →
    ∀ instant, day.start ≤ instant → instant < day.ending → calendar.dayAt zones instant = .ok day
  apart : ∀ now now' day day', calendar.dayAt zones now = .ok day → calendar.dayAt zones now' = .ok day' →
    day = day' ∨ day.ending ≤ day'.start ∨ day'.ending ≤ day.start
  abut : ∀ date begins turns ends, calendar.boundary zones date = .ok begins →
    calendar.boundary zones (date + 1) = .ok turns → calendar.boundary zones (date + 2) = .ok ends →
      begins < turns ∧ turns < ends ∧ ∀ instant, begins ≤ instant → instant < ends →
        calendar.dayAt zones instant =
          .ok (if instant < turns then ⟨begins, turns⟩ else ⟨turns, ends⟩)

section
variable {zones : Zones} {calendar : TradingCalendar} {zone : OffsetZone} {date instant now : Int}

/-- The calendar's boundary stands alone: the wall clock is behind it before, and ahead of it after. -/
theorem boundary_separates (own : zones calendar.timezone = zone.toTimezone) (inOrder : zone.InOrder)
    (found : calendar.boundary zones date = .ok instant) :
    (zones calendar.timezone).wallTime instant = date * dayLength + calendar.resetTime ∧
      ∀ now, (now < instant ↔ (zones calendar.timezone).wallTime now < date * dayLength + calendar.resetTime) := by
  unfold TradingCalendar.boundary at found
  rw [own] at found ⊢
  split at found
  · next sole =>
    cases found
    obtain ⟨shown, only⟩ := soleReading_iff.mp sole
    refine ⟨shown, fun now => ⟨inOrder.behind_before shown only, fun behind => ?_⟩⟩
    by_contra reached
    rcases (not_lt.mp reached).eq_or_lt with rfl | after
    · exact absurd shown behind.ne
    · exact absurd (inOrder.ahead_after shown le_rfl (fun other _ => only other) after) (not_lt.mpr behind.le)
  · cases found

/-- The date whose day an instant is looked for in. -/
theorem dated_iff (reset : 0 ≤ calendar.resetTime ∧ calendar.resetTime < dayLength) (wall : Int) :
    (if wall % dayLength < calendar.resetTime then wall / dayLength - 1 else wall / dayLength) = date ↔
      date * dayLength + calendar.resetTime ≤ wall ∧ wall < (date + 1) * dayLength + calendar.resetTime := by
  have length : dayLength = 86400000000000 := by decide
  rw [length] at reset ⊢
  split <;> omega

theorem dayAt_iff (reset : 0 ≤ calendar.resetTime ∧ calendar.resetTime < dayLength)
    (own : zones calendar.timezone = zone.toTimezone) (inOrder : zone.InOrder) {day : TradingDay} :
    calendar.dayAt zones now = .ok day ↔ ∃ date, calendar.boundary zones date = .ok day.start ∧
      calendar.boundary zones (date + 1) = .ok day.ending ∧ day.start ≤ now ∧ now < day.ending := by
  unfold TradingCalendar.dayAt
  simp only [bind_ok, ensure_ok, pure_ok, exists_const]
  constructor
  · rintro ⟨start, begins, ending, ends, within, rfl⟩
    exact ⟨_, begins, ends, within⟩
  · rintro ⟨date, begins, ends, from', upTo⟩
    obtain ⟨-, before⟩ := boundary_separates own inOrder begins
    obtain ⟨-, after⟩ := boundary_separates own inOrder ends
    have here := (dated_iff reset ((zones calendar.timezone).wallTime now)).mpr
      ⟨not_lt.mp fun behind => absurd ((before now).mpr behind) (not_lt.mpr from'), (after now).mp upTo⟩
    rw [here]
    exact ⟨_, begins, _, ends, ⟨from', upTo⟩, rfl⟩

/-- Later dates begin later. -/
theorem boundary_lt (own : zones calendar.timezone = zone.toTimezone) (inOrder : zone.InOrder) {later last : Int}
    (found : calendar.boundary zones date = .ok instant) (found' : calendar.boundary zones later = .ok last)
    (before : date < later) : instant < last := by
  obtain ⟨shown, -⟩ := boundary_separates own inOrder found
  obtain ⟨-, separates⟩ := boundary_separates own inOrder found'
  refine (separates instant).mpr ?_
  rw [shown]
  have length : dayLength = 86400000000000 := by decide
  rw [length]
  omega

/-- In every zone whose spans are in order, and at every reset time, the calendar's days partition time. -/
theorem tradingDays_partition (zones : Zones) (calendar : TradingCalendar) (zone : OffsetZone)
    (reset : 0 ≤ calendar.resetTime ∧ calendar.resetTime < dayLength)
    (own : zones calendar.timezone = zone.toTimezone) (inOrder : zone.InOrder) :
    PartitionsTime zones calendar where
  holds now day known := TradingCalendar.dayAt_mem known
  whole now day known instant from' upTo := by
    obtain ⟨date, begins, ends, -⟩ := (dayAt_iff reset own inOrder).mp known
    exact (dayAt_iff reset own inOrder).mpr ⟨date, begins, ends, from', upTo⟩
  apart now now' day day' known known' := by
    obtain ⟨date, begins, ends, -⟩ := (dayAt_iff reset own inOrder).mp known
    obtain ⟨date', begins', ends', -⟩ := (dayAt_iff reset own inOrder).mp known'
    have ordered : ∀ {one other start ending : Int}, calendar.boundary zones (one + 1) = .ok ending →
        calendar.boundary zones other = .ok start → one < other → ending ≤ start := by
      intro one other start ending ends begins before
      rcases (Int.add_one_le_iff.mpr before).eq_or_lt with rfl | later
      · cases ends.symm.trans begins
        exact le_rfl
      · exact (boundary_lt own inOrder ends begins later).le
    rcases lt_trichotomy date date' with before | rfl | after
    · exact .inr (.inl (ordered ends begins' before))
    · left
      obtain ⟨start, ending⟩ := day
      obtain ⟨start', ending'⟩ := day'
      cases begins.symm.trans begins'
      cases ends.symm.trans ends'
      rfl
    · exact .inr (.inr (ordered ends' begins after))
  abut date begins turns ends known turned ended := by
    have next : date + 1 + 1 = date + 2 := by omega
    refine ⟨boundary_lt own inOrder known turned (by omega), boundary_lt own inOrder turned ended (by omega), ?_⟩
    intro instant from' upTo
    split
    · next early => exact (dayAt_iff reset own inOrder).mpr ⟨date, known, turned, from', early⟩
    · next late =>
      refine (dayAt_iff reset own inOrder).mpr ⟨date + 1, turned, ?_, not_lt.mp late, upTo⟩
      rw [next]
      exact ended

end

/-- New York's year 2026. -/
def newYork2026 : OffsetZone where
  first := -seconds 18000
  changes := [(seconds 1772953200, -seconds 14400), (seconds 1793512800, -seconds 18000)]

theorem tradingDays_partition_newYork : PartitionsTime (fun _ => newYork2026.toTimezone) {} :=
  tradingDays_partition _ {} newYork2026 (by decide) rfl ⟨by decide, by decide, by decide, trivial⟩

/-- A clock that is set back over the reset after it, and forward again before it comes to it a second time. -/
def setBackAndForth : OffsetZone where
  first := 0
  changes := [(seconds 63000, -seconds 3600), (seconds 63900, 0)]

/-- Within its own day, an instant is told no day. -/
theorem setBackAndForth_partial :
    (({} : TradingCalendar).dayAt (fun _ => setBackAndForth.toTimezone) (seconds 61200)).toOption =
        some ⟨seconds 61200, seconds 147600⟩ ∧
      (({} : TradingCalendar).dayAt (fun _ => setBackAndForth.toTimezone) (seconds 63300)).toOption = none ∧
      ¬ PartitionsTime (fun _ => setBackAndForth.toTimezone) {} := by
  have told : ({} : TradingCalendar).dayAt (fun _ => setBackAndForth.toTimezone) (seconds 61200) =
      .ok ⟨seconds 61200, seconds 147600⟩ := by
    decide +kernel
  have untold : (({} : TradingCalendar).dayAt (fun _ => setBackAndForth.toTimezone) (seconds 63300)).toOption =
      none := by
    decide +kernel
  refine ⟨by rw [told]; rfl, untold, fun partitions => ?_⟩
  rw [partitions.whole _ _ told (seconds 63300) (by decide) (by decide)] at untold
  cases untold

end TradeControl.AdaptiveRisk
