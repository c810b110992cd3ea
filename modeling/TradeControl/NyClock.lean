import TradeControl.WidenInstant

namespace TradeControl

def dayNs : Int := 86400000000000

/-! Dates are integers too: days since the Unix epoch, in the Gregorian calendar. -/

/-- The day number of a year's month and day; the year is counted from March. -/
def daysFromCivil (year month day : Int) : Int :=
  let shifted := if month ≤ 2 then year - 1 else year
  let era := shifted / 400
  let yearOfEra := shifted % 400
  let dayOfYear := (153 * (if month ≤ 2 then month + 9 else month - 3) + 2) / 5 + day - 1
  era * 146097 + (yearOfEra * 365 + yearOfEra / 4 - yearOfEra / 100 + dayOfYear) - 719468

/-- `Datelike::year`. -/
def yearOf (date : Int) : Int :=
  let era := (date + 719468) / 146097
  let dayOfEra := (date + 719468) % 146097
  let yearOfEra := (dayOfEra - dayOfEra / 1460 + dayOfEra / 36524 - dayOfEra / 146096) / 365
  let dayOfYear := dayOfEra - (365 * yearOfEra + yearOfEra / 4 - yearOfEra / 100)
  -- from the tenth month after March on it is the next year
  if (5 * dayOfYear + 2) / 153 < 10 then yearOfEra + era * 400 else yearOfEra + era * 400 + 1

def isLeap (year : Int) : Bool := year % 4 = 0 && (year % 100 ≠ 0 || year % 400 = 0)

def daysInMonth (year month : Int) : Int :=
  if month = 2 then if isLeap year then 29 else 28
  else if month = 4 ∨ month = 6 ∨ month = 9 ∨ month = 11 then 30
  else 31

/-- `NaiveDate::from_ymd_opt`. -/
def fromYmdOpt (year month day : Int) : Option Int :=
  if 1 ≤ month ∧ month ≤ 12 ∧ 1 ≤ day ∧ day ≤ daysInMonth year month then some (daysFromCivil year month day)
  else none

/-- `num_days_from_sunday` of a date's weekday. -/
def weekdayOf (date : Int) : Int := (date + 4) % 7

/-- `Weekday::Sun`. -/
def sunday : Int := 0

def nthWeekdayOfMonth (year month weekday : Int) (n : Nat) : Option Int := do
  let first ← fromYmdOpt year month 1
  let offset := (7 + weekday - weekdayOf first) % 7
  match n with
  | 0 => none
  | before + 1 => fromYmdOpt year month (offset + 1 + before * 7)

def dateNaive (now : Int) : Int := now / dayNs

/-- `Timelike::hour` in UTC. -/
def hourUtc (now : Int) : Int := now / hourNs % 24

def nyIsEdt (date : Int) : Bool :=
  let year := yearOf date
  match nthWeekdayOfMonth year 3 sunday 2 with
  | none => false
  | some dstStart =>
    match nthWeekdayOfMonth year 11 sunday 1 with
    | none => false
    | some dstEnd => dstStart ≤ date && date < dstEnd

def nyCloseHourUtcEdt : Int := 21

def nyCloseHourUtcEst : Int := 22

def isNyCloseEdge (now : Int) : Bool :=
  hourUtc now = if nyIsEdt (dateNaive now) then nyCloseHourUtcEdt else nyCloseHourUtcEst

/-- The walk over the hours before `now`, keeping the last one on the edge. -/
def probeHours (now probe : Int) (last : Option Int) : Option Int :=
  if probe < now then probeHours now (probe + hourNs) (if isNyCloseEdge probe then some probe else last)
  else last
termination_by (now - probe).toNat
decreasing_by
  unfold hourNs
  omega

/-- The top of an instant's hour, with what the instant has beyond its second. -/
def flooredHour (prev : Int) : Int := ZoneClock.withSecondZero (ZoneClock.withMinuteZero prev)

def lastNyCloseEdgeInSpan (prev now : Int) : Option Int :=
  if now ≤ prev then none
  else if isNyCloseEdge now then some now
  else probeHours now (flooredHour prev + hourNs) none

/-- The Sunday on a date or next after it. -/
def sundayFrom (date : Int) : Int := date + (7 - weekdayOf date) % 7

/-- New York's clock: four hours behind UTC from 2:00 on the second Sunday of March until 2:00 on the first
Sunday of November, and five behind else. -/
def newYorkOffset (now : Int) : Int :=
  let year := yearOf (dateNaive now)
  let springForward := sundayFrom (daysFromCivil year 3 8) * dayNs + 7 * hourNs
  let fallBack := sundayFrom (daysFromCivil year 11 1) * dayNs + 6 * hourNs
  if springForward ≤ now ∧ now < fallBack then -4 * hourNs else -5 * hourNs

/-- New York's clocks come to 17:00. -/
def NewYorkCloses (instant : Int) : Prop := (instant + newYorkOffset instant) % dayNs = 17 * hourNs

section
variable {prev now probe : Int} {last : Option Int}

theorem daysFromCivil_day (year month day : Int) :
    daysFromCivil year month day = daysFromCivil year month 1 + (day - 1) := by
  unfold daysFromCivil
  dsimp only
  omega

theorem twentyEight_le (year month : Int) : 28 ≤ daysInMonth year month := by
  unfold daysInMonth
  split
  · split <;> omega
  · split <;> omega

theorem fromYmdOpt_early {year month day : Int} (named : 1 ≤ month ∧ month ≤ 12) (first : 1 ≤ day)
    (early : day ≤ 28) : fromYmdOpt year month day = some (daysFromCivil year month 1 + (day - 1)) := by
  unfold fromYmdOpt
  rw [if_pos ⟨named.1, named.2, first, early.trans (twentyEight_le year month)⟩, daysFromCivil_day]

/-- A month's first four Sundays are each the one on or next after the day that begins their week. -/
theorem nthWeekdayOfMonth_sunday {year month : Int} (named : 1 ≤ month ∧ month ≤ 12) {before : Nat}
    (early : before < 4) :
    nthWeekdayOfMonth year month sunday (before + 1) =
      some (sundayFrom (daysFromCivil year month (before * 7 + 1))) := by
  unfold nthWeekdayOfMonth
  rw [fromYmdOpt_early named le_rfl (by decide), daysFromCivil_day year month (before * 7 + 1)]
  change fromYmdOpt year month ((7 + sunday - weekdayOf (daysFromCivil year month 1 + (1 - 1))) % 7 + 1 +
    before * 7) = _
  generalize offsetIs : (7 + sunday - weekdayOf (daysFromCivil year month 1 + (1 - 1))) % 7 = offset
  unfold sunday weekdayOf at offsetIs
  rw [fromYmdOpt_early named (by omega) (by omega)]
  unfold sundayFrom weekdayOf
  congr 1
  omega

theorem nyIsEdt_iff (date : Int) :
    nyIsEdt date = true ↔ sundayFrom (daysFromCivil (yearOf date) 3 8) ≤ date ∧
      date < sundayFrom (daysFromCivil (yearOf date) 11 1) := by
  have march : nthWeekdayOfMonth (yearOf date) 3 sunday 2 = some (sundayFrom (daysFromCivil (yearOf date) 3 8)) :=
    nthWeekdayOfMonth_sunday (by decide) (by decide)
  have november : nthWeekdayOfMonth (yearOf date) 11 sunday 1 =
      some (sundayFrom (daysFromCivil (yearOf date) 11 1)) :=
    nthWeekdayOfMonth_sunday (by decide) (by decide)
  unfold nyIsEdt
  dsimp only
  rw [march, november]
  simp

/-- The edge's hours begin where New York comes to 17:00. -/
theorem newYorkCloses_iff (instant : Int) :
    NewYorkCloses instant ↔ instant % hourNs = 0 ∧ isNyCloseEdge instant = true := by
  have edt := nyIsEdt_iff (dateNaive instant)
  unfold NewYorkCloses newYorkOffset isNyCloseEdge hourUtc
  dsimp only
  generalize sundayFrom (daysFromCivil (yearOf (dateNaive instant)) 3 8) = march at edt ⊢
  generalize sundayFrom (daysFromCivil (yearOf (dateNaive instant)) 11 1) = november at edt ⊢
  unfold nyCloseHourUtcEdt nyCloseHourUtcEst
  unfold dateNaive at edt ⊢
  unfold dayNs hourNs at *
  by_cases summer : nyIsEdt (instant / 86400000000000) = true
  · rw [if_pos summer]
    have season := edt.mp summer
    simp only [decide_eq_true_eq]
    split
    · omega
    · omega
  · rw [if_neg summer]
    have season := mt edt.mpr summer
    simp only [decide_eq_true_eq]
    split
    · omega
    · omega

/-- The hour and the season are the same all through an hour. -/
theorem isNyCloseEdge_congr {other : Int} (same : now / hourNs = other / hourNs) :
    isNyCloseEdge now = isNyCloseEdge other := by
  have date : dateNaive now = dateNaive other := by
    unfold dateNaive dayNs
    unfold hourNs at same
    omega
  unfold isNyCloseEdge hourUtc
  rw [date, same]

/-- The instants the walk comes to. -/
def Probed (now probe instant : Int) : Prop := ∃ count : Nat, instant = probe + count * hourNs ∧ instant < now

theorem probed_iff (instant : Int) :
    Probed now probe instant ↔ probe < now ∧ (instant = probe ∨ Probed now (probe + hourNs) instant) := by
  constructor
  · rintro ⟨count, rfl, before⟩
    cases count with
    | zero =>
      refine ⟨by simpa using before, .inl (by simp)⟩
    | succ count =>
      refine ⟨by unfold hourNs at before; omega, .inr ⟨count, ?_, before⟩⟩
      push_cast
      ring
  · rintro ⟨before, rfl | ⟨count, rfl, later⟩⟩
    · exact ⟨0, by simp, before⟩
    · refine ⟨count + 1, ?_, later⟩
      push_cast
      ring

theorem probeHours_found {found : Int} (answered : probeHours now probe last = some found) :
    last = some found ∨ (Probed now probe found ∧ isNyCloseEdge found = true) := by
  fun_induction probeHours now probe last with
  | case1 probe last before ih =>
    rcases ih answered with kept | ⟨probed, edge⟩
    · split at kept
      next edge =>
        cases kept
        exact .inr ⟨(probed_iff _).mpr ⟨before, .inl rfl⟩, edge⟩
      · exact .inl kept
    · exact .inr ⟨(probed_iff _).mpr ⟨before, .inr probed⟩, edge⟩
  | case2 => exact .inl answered

/-- The walk answers with no earlier an instant than it has or comes to on the edge. -/
theorem probeHours_latest (earlier : ∀ instant ∈ last, instant ≤ probe) :
    ∀ instant, last = some instant ∨ (Probed now probe instant ∧ isNyCloseEdge instant = true) →
      ∃ found, probeHours now probe last = some found ∧ instant ≤ found := by
  fun_induction probeHours now probe last with
  | case1 probe last before ih =>
    have kept : ∀ other ∈ (if isNyCloseEdge probe then some probe else last), other ≤ probe + hourNs := by
      intro other held
      have : 0 ≤ hourNs := by decide
      split at held
      · cases held
        omega
      · have := earlier other held
        omega
    intro instant hit
    by_cases edge : isNyCloseEdge probe = true
    · rw [dif_pos edge] at ih
      rw [if_pos edge] at kept ⊢
      rcases hit with rfl | ⟨probed, hits⟩
      · obtain ⟨found, answered, later⟩ := ih kept probe (.inl rfl)
        exact ⟨found, answered, (earlier instant rfl).trans later⟩
      · rcases ((probed_iff _).mp probed).2 with rfl | probed
        · exact ih kept _ (.inl rfl)
        · exact ih kept _ (.inr ⟨probed, hits⟩)
    · rw [dif_neg edge] at ih
      rw [if_neg edge] at kept ⊢
      rcases hit with rfl | ⟨probed, hits⟩
      · exact ih kept _ (.inl rfl)
      · rcases ((probed_iff _).mp probed).2 with rfl | probed
        · exact absurd hits edge
        · exact ih kept _ (.inr ⟨probed, hits⟩)
  | case2 probe last done =>
    intro instant hit
    rcases hit with rfl | ⟨⟨count, rfl, before⟩, _⟩
    · exact ⟨instant, rfl, le_rfl⟩
    · unfold hourNs at before
      omega

/-- The walk begins with the hour after the span's first, less than a second into it. -/
theorem flooredHour_spec (prev : Int) :
    flooredHour prev ≤ prev ∧ prev < flooredHour prev + hourNs ∧ 0 ≤ flooredHour prev % hourNs ∧
      flooredHour prev % hourNs < nanosPerSecond ∧ flooredHour prev / hourNs = prev / hourNs := by
  unfold flooredHour ZoneClock.withSecondZero ZoneClock.withMinuteZero hourNs minuteNs nanosPerSecond
  omega

theorem lastNyCloseEdge_within {edge : Int} (answered : lastNyCloseEdgeInSpan prev now = some edge) :
    prev < edge ∧ edge ≤ now ∧ isNyCloseEdge edge = true := by
  unfold lastNyCloseEdgeInSpan at answered
  split at answered
  · cases answered
  next later =>
  split at answered
  next onEdge =>
    cases answered
    exact ⟨not_le.mp later, le_rfl, onEdge⟩
  · rcases probeHours_found answered with absent | ⟨⟨count, rfl, before⟩, onEdge⟩
    · cases absent
    · have first := (flooredHour_spec prev).2.1
      unfold hourNs at *
      exact ⟨by omega, before.le, onEdge⟩

/-- A span that New York's close begins in is answered with no earlier an instant. -/
theorem lastNyCloseEdge_reaches {close : Int} (closes : NewYorkCloses close) (after : prev < close)
    (within : close ≤ now) : ∃ edge, lastNyCloseEdgeInSpan prev now = some edge ∧ close ≤ edge := by
  obtain ⟨top, onEdge⟩ := (newYorkCloses_iff close).mp closes
  obtain ⟨_, first, rest, under, hour⟩ := flooredHour_spec prev
  unfold lastNyCloseEdgeInSpan
  rw [if_neg (by omega)]
  split
  · exact ⟨now, rfl, within⟩
  next away =>
    have apart : now / hourNs ≠ close / hourNs := fun same => away (isNyCloseEdge_congr same ▸ onEdge)
    have inHour : (close + flooredHour prev % hourNs) / hourNs = close / hourNs := by
      unfold hourNs nanosPerSecond at *
      omega
    have probed : Probed now (flooredHour prev + hourNs) (close + flooredHour prev % hourNs) := by
      refine ⟨(close / hourNs - prev / hourNs - 1).toNat, ?_, ?_⟩
      · unfold hourNs at *
        omega
      · unfold hourNs nanosPerSecond at *
        omega
    have nothing : ∀ instant ∈ (none : Option Int), instant ≤ flooredHour prev + hourNs := by simp
    obtain ⟨edge, answered, later⟩ := probeHours_latest nothing _
      (.inr ⟨probed, (isNyCloseEdge_congr inHour).trans onEdge⟩)
    exact ⟨edge, answered, by omega⟩

/-- Within an hour of the span's start the walk comes to no hour but the last instant's. -/
theorem lastNyCloseEdge_hourly (before : prev < now) (spaced : now ≤ prev + hourNs) :
    (lastNyCloseEdgeInSpan prev now).isSome = true ↔ isNyCloseEdge now = true := by
  constructor
  · intro answered
    obtain ⟨edge, answered⟩ := Option.isSome_iff_exists.mp answered
    obtain ⟨_, first, rest, under, hour⟩ := flooredHour_spec prev
    unfold lastNyCloseEdgeInSpan at answered
    rw [if_neg (by omega)] at answered
    split at answered
    next onEdge => exact onEdge
    next away =>
      rcases probeHours_found answered with absent | ⟨⟨count, rfl, earlier⟩, onEdge⟩
      · cases absent
      · have same : now / hourNs = (flooredHour prev + hourNs + count * hourNs) / hourNs := by
          unfold hourNs at *
          omega
        exact (isNyCloseEdge_congr same).trans onEdge
  · intro onEdge
    unfold lastNyCloseEdgeInSpan
    rw [if_neg (by omega), if_pos onEdge]
    rfl

end

/-- An instant after the first tick and up to the last is in the span of one of the ticks. -/
theorem exists_span {ticks : Nat → Int} {count : Nat} {instant : Int} (after : ticks 0 < instant)
    (within : instant ≤ ticks count) : ∃ turn < count, ticks turn < instant ∧ instant ≤ ticks (turn + 1) := by
  induction count with
  | zero => omega
  | succ count ih =>
    by_cases earlier : instant ≤ ticks count
    · obtain ⟨turn, below, spans⟩ := ih earlier
      exact ⟨turn, by omega, spans⟩
    · exact ⟨count, by omega, by omega, within⟩

/-- Whether a run of ticks misses no close of New York and invents none. -/
structure CatchesCloses (ticks : Nat → Int) (count : Nat) : Prop where
  caught : ∀ close, NewYorkCloses close → ticks 0 < close → close ≤ ticks count →
    ∃ turn < count, ticks turn < close ∧ close ≤ ticks (turn + 1) ∧
      (lastNyCloseEdgeInSpan (ticks turn) (ticks (turn + 1))).isSome = true
  within : ∀ turn < count, ∀ edge ∈ lastNyCloseEdgeInSpan (ticks turn) (ticks (turn + 1)),
    ticks turn < edge ∧ edge ≤ ticks (turn + 1) ∧ isNyCloseEdge edge = true
  latest : ∀ turn < count, ∀ edge ∈ lastNyCloseEdgeInSpan (ticks turn) (ticks (turn + 1)),
    ∀ close, NewYorkCloses close → edge < close → ¬(ticks turn < close ∧ close ≤ ticks (turn + 1))
  hourly : ∀ turn < count, ticks (turn + 1) ≤ ticks turn + hourNs →
    ((lastNyCloseEdgeInSpan (ticks turn) (ticks (turn + 1))).isSome = true ↔
      isNyCloseEdge (ticks (turn + 1)) = true)

/-- Rising ticks, however they are spaced, miss no close of New York and invent none; where they are an
hour apart at most the span says no more than its last instant. -/
theorem nyClose_ticks {ticks : Nat → Int} {count : Nat}
    (rising : ∀ turn < count, ticks turn < ticks (turn + 1)) : CatchesCloses ticks count where
  caught close closes after within := by
    obtain ⟨turn, below, began, ended⟩ := exists_span after within
    obtain ⟨edge, answered, _⟩ := lastNyCloseEdge_reaches closes began ended
    exact ⟨turn, below, began, ended, by rw [answered]; rfl⟩
  within turn _ edge answered := lastNyCloseEdge_within answered
  latest turn _ edge answered close closes later inside := by
    obtain ⟨edge', answered', after⟩ := lastNyCloseEdge_reaches closes inside.1 inside.2
    cases (Option.mem_def.mp answered).symm.trans answered'
    omega
  hourly turn below spaced := lastNyCloseEdge_hourly (rising turn below) spaced

/-- From 20 to 22 October 2026 in ticks of 45 minutes: New York closes at 21:00 UTC, with daylight time. -/
theorem nyClose_ticks_october :
    NewYorkCloses (20746 * dayNs + 21 * hourNs) ∧
      CatchesCloses (fun turn => 20746 * dayNs + turn * 2700000000000) 64 :=
  ⟨by unfold NewYorkCloses; decide +kernel, nyClose_ticks fun turn _ => by push_cast; omega⟩

end TradeControl
