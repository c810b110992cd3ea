import TradeControl.WidenInstant

namespace TradeControl

/-- Consecutive hours before one that hold `flagged`, at most `maxBlockHours`. -/
def blockStartHours (flaggedBefore : Nat → Bool) : Nat := blockHours fun back => flaggedBefore (back + 1)

/-- `spread_block_window`: the block of flagged hours an instant sits in, from its first hour's top until
the top of the hour after its last. -/
def SpreadCalendar.blockWindow (calendar : SpreadCalendar) (instrument : String) (now : Int) :
    Option (Int × Int) :=
  let hourTop := now - now % hourNs
  match calendar.maskOf instrument with
  | some schedule =>
    let localHour := schedule.localHour now
    if !schedule.flagged localHour then none
    else
      let back := blockStartHours fun before => schedule.flagged (localHour + 24 - before % 24)
      let fwd := blockHours fun ahead => schedule.flagged (localHour + ahead)
      some (hourTop - back * hourNs, hourTop + fwd * hourNs)
  | none =>
    if !calendar.isSpreadHour instrument hourTop then none
    else
      let back := blockStartHours fun before => calendar.isSpreadHour instrument (hourTop - before * hourNs)
      let fwd := blockHours fun ahead => calendar.isSpreadHour instrument (hourTop + ahead * hourNs)
      some (hourTop - back * hourNs, hourTop + fwd * hourNs)

/-- The hours that begin in `start .. ending` are a longest run of flagged hours around an instant. -/
structure MaximalBlock (schedule : SpreadSchedule) (now start ending : Int) : Prop where
  started : start ≤ now
  lasts : now < ending
  inside : ∀ instant, start ≤ instant → instant < ending → schedule.flagged (schedule.localHour instant) = true
  before : ∀ instant, start - hourNs ≤ instant → instant < start →
    schedule.flagged (schedule.localHour instant) = false
  after : ∀ instant, ending ≤ instant → instant < ending + hourNs →
    schedule.flagged (schedule.localHour instant) = false

/-- The first instant from `now` on at which the instrument is in no spread hour. -/
structure LiftsAt (calendar : SpreadCalendar) (instrument : String) (now lift : Int) : Prop where
  later : now < lift
  calm : calendar.isSpreadHour instrument lift = false
  until_ : ∀ instant, now ≤ instant → instant < lift → calendar.isSpreadHour instrument instant = true

/-- A time to live covers the spread hours that an instant is in: they lift before it lapses. -/
def TtlCovers (calendar : SpreadCalendar) (instrument : String) (now : Int) : Prop :=
  ∃ lift, LiftsAt calendar instrument now lift ∧ lift ≤ now + seconds (calendar.blockTtlSeconds instrument now)

theorem LiftsAt.unique {calendar : SpreadCalendar} {instrument : String} {now lift lift' : Int}
    (first : LiftsAt calendar instrument now lift) (second : LiftsAt calendar instrument now lift') :
    lift = lift' := by
  rcases lt_trichotomy lift lift' with earlier | same | later
  · have busy := second.until_ lift first.later.le earlier
    rw [first.calm] at busy
    cases busy
  · exact same
  · have busy := first.until_ lift' second.later.le later
    rw [second.calm] at busy
    cases busy

/-- The run ends at the first hour that is not flagged, when there is one within the limit. -/
theorem blockHours_spec (flagged : Nat → Bool) :
    (∀ hour < blockHours flagged, flagged hour = true) ∧
      (blockHours flagged < maxBlockHours → flagged (blockHours flagged) = false) := by
  have run : ∀ start count : Nat, let length := ((List.range' start count).takeWhile flagged).length
      (∀ hour < length, flagged (start + hour) = true) ∧ (length < count → flagged (start + length) = false) := by
    intro start count
    induction count generalizing start with
    | zero => simp
    | succ count ih =>
      rw [List.range'_succ, List.takeWhile_cons]
      obtain ⟨held, ended⟩ := ih (start + 1)
      cases first : flagged start with
      | true =>
        dsimp only [if_true, List.length_cons] at held ended ⊢
        refine ⟨fun hour below => ?_, fun below => ?_⟩
        · cases hour with
          | zero => exact first
          | succ hour => rw [← held hour (by simpa using below)]; congr 1; omega
        · rw [← ended (by simpa using below)]; congr 1; simp; omega
      | false => simp [first]
  have whole := run 0 maxBlockHours
  rw [← List.range_eq_range'] at whole
  simpa [blockHours] using whole

namespace BakedRow

/-- Whether the hour `count` hours on from an instant's is flagged, on a clock that keeps its offset. -/
def flaggedOn (row : BakedRow) (now count : Int) : Bool :=
  row.mask.testBit ((row.zone.cell now + row.zone.shift (row.zone.cell now) + count) % 24).toNat

/-- A clock at a whole number of hours from UTC that keeps its offset for a day around an instant. -/
structure Steady (row : BakedRow) (now : Int) : Prop where
  wholeHours : row.zone.phase % hourNs = 0
  kept : ∀ cell, row.zone.cell now - 24 ≤ cell → cell ≤ row.zone.cell now + 24 →
    row.zone.shift cell = row.zone.shift (row.zone.cell now)

section
variable {row : BakedRow} {now instant : Int}

theorem flagged_near (steady : row.Steady now) {count : Int} (low : -24 ≤ count) (high : count ≤ 24)
    (near : row.zone.cell instant = row.zone.cell now + count) :
    row.schedule.flagged (row.schedule.localHour instant) = row.flaggedOn now count := by
  have hour : row.schedule.localHour instant = row.zone.hourOf (row.zone.cell instant) := ZoneClock.localHour_eq
  rw [hour, ZoneClock.hourOf, near, steady.kept _ (by omega) (by omega)]
  unfold SpreadSchedule.flagged flaggedOn
  change row.mask.testBit _ = _
  congr 1
  omega

theorem flagged_ahead (row : BakedRow) (now : Int) (ahead : Nat) :
    row.schedule.flagged (row.schedule.localHour now + ahead) = row.flaggedOn now ahead := by
  have hour : row.schedule.localHour now = row.zone.hourOf (row.zone.cell now) := ZoneClock.localHour_eq
  rw [hour]
  unfold SpreadSchedule.flagged flaggedOn ZoneClock.hourOf
  change row.mask.testBit _ = _
  congr 1
  omega

theorem flagged_before (row : BakedRow) (now : Int) (before : Nat) :
    row.schedule.flagged (row.schedule.localHour now + 24 - before % 24) = row.flaggedOn now (-before) := by
  have hour : row.schedule.localHour now = row.zone.hourOf (row.zone.cell now) := ZoneClock.localHour_eq
  rw [hour]
  unfold SpreadSchedule.flagged flaggedOn ZoneClock.hourOf
  change row.mask.testBit _ = _
  congr 1
  omega

/-- A mask that leaves an hour out leaves one out within any day. -/
theorem exists_calm (row : BakedRow) (now first : Int) (gap : ∃ hour < 24, row.mask.testBit hour = false) :
    ∃ count : Nat, count < 24 ∧ row.flaggedOn now (first + count) = false := by
  obtain ⟨hour, below, calm⟩ := gap
  refine ⟨((hour - (row.zone.cell now + row.zone.shift (row.zone.cell now) + first)) % 24).toNat, by omega, ?_⟩
  rw [← calm]
  unfold flaggedOn
  congr 1
  omega

/-- The run of flagged hours from an hour on that is flagged ends within the day. -/
theorem blockHours_ends {flagged : Nat → Bool} (calm : ∃ hour ≤ 23, flagged hour = false) :
    (∀ hour < blockHours flagged, flagged hour = true) ∧ flagged (blockHours flagged) = false := by
  obtain ⟨held, ended⟩ := blockHours_spec flagged
  refine ⟨held, ?_⟩
  by_cases short : blockHours flagged < maxBlockHours
  · exact ended short
  · obtain ⟨hour, atMost, off⟩ := calm
    have longest := blockHours_le flagged
    have reached : blockHours flagged ≤ hour := by
      by_contra earlier
      rw [held hour (not_le.mp earlier)] at off
      cases off
    have same : blockHours flagged = hour := by
      unfold maxBlockHours at *
      omega
    rw [same]
    exact off

theorem top_eq (steady : row.Steady now) : now - now % hourNs = row.zone.cellTop (row.zone.cell now) := by
  have whole := steady.wholeHours
  unfold ZoneClock.cellTop ZoneClock.cell
  unfold hourNs at *
  omega

/-- An instant's hour, counted from the hour of `now`. -/
theorem cell_counted {count : Int} (low : row.zone.cellTop (row.zone.cell now) + count * hourNs ≤ instant)
    (high : instant < row.zone.cellTop (row.zone.cell now) + (count + 1) * hourNs) :
    row.zone.cell instant = row.zone.cell now + count := by
  rw [← ZoneClock.cellTop_add] at low high
  have atLeast := ZoneClock.cellTop_le_iff.mp low
  have atMost := ZoneClock.lt_cellTop_iff.mp high
  omega

/-- Inside a run of hours that are all flagged an instant's hour is flagged. -/
theorem flagged_within (steady : row.Steady now) {first last : Int} (low : -24 ≤ first) (high : last ≤ 25)
    (held : ∀ count, first ≤ count → count < last → row.flaggedOn now count = true)
    (from_ : row.zone.cellTop (row.zone.cell now) + first * hourNs ≤ instant)
    (until_ : instant < row.zone.cellTop (row.zone.cell now) + last * hourNs) :
    row.schedule.flagged (row.schedule.localHour instant) = true := by
  rw [← ZoneClock.cellTop_add] at from_ until_
  have atLeast := ZoneClock.cellTop_le_iff.mp from_
  have atMost := ZoneClock.lt_cellTop_iff.mp until_
  have near : row.zone.cell instant = row.zone.cell now + (row.zone.cell instant - row.zone.cell now) := by omega
  rw [flagged_near steady (by omega) (by omega) near]
  exact held _ (by omega) (by omega)

theorem maskOf_baked {calendar : SpreadCalendar} {instrument : String}
    (baked : calendar.schedule instrument = some row.schedule) (masked : row.mask ≠ 0) :
    calendar.maskOf instrument = some row.schedule := by
  unfold SpreadCalendar.maskOf
  have kept : row.schedule.mask ≠ 0 := masked
  rw [baked, Option.filter_some, if_pos (by simpa using kept)]

/-- The hours ahead of a flagged one are flagged until the first that is not, within the day. -/
theorem run_ahead (gap : ∃ hour < 24, row.mask.testBit hour = false) (now first : Int) :
    (∀ ahead < blockHours fun ahead => row.flaggedOn now (first + ahead), row.flaggedOn now (first + ahead) = true) ∧
      row.flaggedOn now (first + (blockHours fun ahead => row.flaggedOn now (first + ahead))) = false := by
  obtain ⟨count, below, calm⟩ := row.exists_calm now first gap
  exact blockHours_ends ⟨count, by omega, calm⟩

theorem run_behind (gap : ∃ hour < 24, row.mask.testBit hour = false) (now : Int) :
    (∀ before : Nat, 0 < before → before ≤ blockStartHours (fun before => row.flaggedOn now (-before)) →
        row.flaggedOn now (-before) = true) ∧
      row.flaggedOn now (-(blockStartHours (fun before => row.flaggedOn now (-before)) + 1 : Nat)) = false := by
  obtain ⟨count, below, calm⟩ := row.exists_calm now (-24) gap
  have off : row.flaggedOn now (-((23 - count : Nat) + 1 : Nat)) = false := by
    rw [← calm]
    congr 1
    omega
  have same : blockStartHours (fun before => row.flaggedOn now (-before)) =
      blockHours fun back => row.flaggedOn now (-(back + 1 : Nat)) := rfl
  have run : (∀ back < blockHours fun back => row.flaggedOn now (-(back + 1 : Nat)),
        row.flaggedOn now (-(back + 1 : Nat)) = true) ∧
      row.flaggedOn now (-((blockHours fun back => row.flaggedOn now (-(back + 1 : Nat))) + 1 : Nat)) = false :=
    blockHours_ends ⟨23 - count, by omega, off⟩
  rw [same]
  refine ⟨fun before positive within => ?_, run.2⟩
  have earlier := run.1 (before - 1) (by omega)
  rwa [Nat.sub_add_cancel positive] at earlier

/-- The window is the longest run of flagged hours around an instant whose own hour is flagged, and there is
none around another. -/
theorem blockWindow_maximal {calendar : SpreadCalendar} {instrument : String}
    (baked : calendar.schedule instrument = some row.schedule) (masked : row.mask ≠ 0)
    (gap : ∃ hour < 24, row.mask.testBit hour = false) (steady : row.Steady now) :
    (calendar.blockWindow instrument now = none ↔
        row.schedule.flagged (row.schedule.localHour now) = false) ∧
      ∀ start ending, calendar.blockWindow instrument now = some (start, ending) →
        MaximalBlock row.schedule now start ending := by
  unfold SpreadCalendar.blockWindow
  rw [maskOf_baked baked masked]
  dsimp only
  simp only [flagged_ahead, flagged_before]
  cases flagged : row.schedule.flagged (row.schedule.localHour now) with
  | false => simp
  | true =>
    refine ⟨by simp, fun start ending same => ?_⟩
    simp only [Bool.not_true, Bool.false_eq_true, if_false, Option.some.injEq, Prod.mk.injEq] at same
    obtain ⟨rfl, rfl⟩ := same
    rw [top_eq steady]
    obtain ⟨ahead, ended⟩ := run_ahead gap now 0
    obtain ⟨behind, began⟩ := run_behind gap now
    simp only [zero_add] at ahead ended
    have backLe : blockStartHours (fun before => row.flaggedOn now (-before)) ≤ 23 := blockHours_le _
    have fwdLe : blockHours (fun ahead => row.flaggedOn now ahead) ≤ 23 := blockHours_le _
    generalize blockStartHours (fun before => row.flaggedOn now (-before)) = back at behind began backLe ⊢
    generalize blockHours (fun ahead => row.flaggedOn now ahead) = fwd at ahead ended fwdLe ⊢
    have here : row.flaggedOn now 0 = true := by
      have own := row.flagged_ahead now 0
      rwa [Nat.cast_zero, add_zero, flagged, eq_comm] at own
    have some_ : 0 < fwd := by
      by_contra none_
      obtain rfl : fwd = 0 := by omega
      rw [Nat.cast_zero, here] at ended
      cases ended
    have held : ∀ count : Int, -back ≤ count → count < fwd → row.flaggedOn now count = true := by
      intro count low high
      rcases lt_or_ge count 0 with earlier | later
      · have before := behind (-count).toNat (by omega) (by omega)
        rwa [show -((-count).toNat : Int) = count by omega] at before
      · have onward := ahead count.toNat (by omega)
        rwa [show (count.toNat : Int) = count by omega] at onward
    have low := row.zone.cellTop_cell_le now
    have high := row.zone.lt_cellTop_succ now
    refine ⟨?_, ?_, fun instant from_ until_ => ?_, fun instant from_ until_ => ?_, fun instant from_ until_ => ?_⟩
    · unfold hourNs
      omega
    · unfold hourNs at *
      omega
    · have reached : row.zone.cellTop (row.zone.cell now) + -back * hourNs ≤ instant := by
        unfold hourNs at *
        omega
      exact flagged_within steady (by omega) (by omega) held reached until_
    · have near : row.zone.cell instant = row.zone.cell now + -(back + 1 : Nat) := by
        apply cell_counted
        · unfold hourNs at *
          omega
        · unfold hourNs at *
          omega
      rw [flagged_near steady (by omega) (by omega) near]
      exact began
    · have near : row.zone.cell instant = row.zone.cell now + fwd := by
        apply cell_counted
        · exact from_
        · unfold hourNs at *
          omega
      rw [flagged_near steady (by omega) (by omega) near]
      exact ended

/-- In an hour within a day of `now` the instrument is in a spread hour when the hour is flagged, and in
the lead when the next one is. -/
theorem isSpreadHour_near {calendar : SpreadCalendar} {instrument : String}
    (baked : calendar.schedule instrument = some row.schedule) (masked : row.mask ≠ 0)
    (steady : row.Steady now) {count : Int} (low : -24 ≤ count) (high : count ≤ 24)
    (near : row.zone.cell instant = row.zone.cell now + count) :
    calendar.isSpreadHour instrument instant = true ↔
      (row.zone.cellTop (row.zone.cell now) + count * hourNs + leadNs ≤ instant ∧
          row.flaggedOn now (count + 1) = true) ∨ row.flaggedOn now count = true := by
  have own := flagged_near steady low high near
  have next : row.schedule.flagged (row.schedule.localHour instant + 1) = row.flaggedOn now (count + 1) := by
    have ahead := row.flagged_ahead instant 1
    rw [Nat.cast_one] at ahead
    rw [ahead]
    unfold flaggedOn
    rw [near, steady.kept _ (by omega) (by omega)]
    congr 2
    omega
  have reach : 60 - row.schedule.localMinute instant ≤ spreadHourLeadMinutes ↔
      row.zone.cellTop (row.zone.cell now) + count * hourNs + leadNs ≤ instant := by
    rw [← ZoneClock.cellTop_add, ← near]
    exact ZoneClock.lead_reaches_iff
  have kept : row.schedule.mask ≠ 0 := masked
  unfold SpreadCalendar.isSpreadHour
  rw [maskOf_baked baked masked]
  dsimp only
  unfold SpreadSchedule.activeWithLead SpreadSchedule.activeHour
  dsimp only
  rw [if_neg kept, own, next, ← reach]
  split
  next leads => exact ⟨fun _ => .inl leads, fun _ => rfl⟩
  next apart =>
    split
    next flagged => exact ⟨fun _ => .inr flagged, fun _ => rfl⟩
    next calm => exact ⟨fun none_ => (by cases none_), fun either => (either.elim apart calm).elim⟩

/-- The instrument's spread hours lift at the top of the first hour that is not flagged. -/
theorem liftsAt {calendar : SpreadCalendar} {instrument : String}
    (baked : calendar.schedule instrument = some row.schedule) (masked : row.mask ≠ 0)
    (steady : row.Steady now) (active : calendar.isSpreadHour instrument now = true) {last : Nat}
    (positive : 0 < last) (within : last ≤ 24)
    (held : ∀ ahead : Nat, 0 < ahead → ahead < last → row.flaggedOn now ahead = true)
    (ended : row.flaggedOn now last = false) :
    LiftsAt calendar instrument now (row.zone.cellTop (row.zone.cell now) + last * hourNs) := by
  have low := row.zone.cellTop_cell_le now
  have high := row.zone.lt_cellTop_succ now
  refine ⟨?_, ?_, fun instant from_ until_ => ?_⟩
  · unfold hourNs at *
    omega
  · have near : row.zone.cell (row.zone.cellTop (row.zone.cell now) + last * hourNs) = row.zone.cell now + last := by
      rw [← ZoneClock.cellTop_add, ZoneClock.cell_cellTop]
    rw [← Bool.not_eq_true, isSpreadHour_near baked masked steady (by omega) (by omega) near, ended]
    rintro (⟨reach, _⟩ | flagged)
    · unfold leadNs at reach
      omega
    · cases flagged
  · have atLeast : row.zone.cell now ≤ row.zone.cell instant := ZoneClock.cellTop_le_iff.mp (low.trans from_)
    rw [← ZoneClock.cellTop_add] at until_
    have atMost := ZoneClock.lt_cellTop_iff.mp until_
    obtain ⟨count, near⟩ : ∃ count : Nat, row.zone.cell instant = row.zone.cell now + count :=
      ⟨(row.zone.cell instant - row.zone.cell now).toNat, by omega⟩
    rw [isSpreadHour_near baked masked steady (by omega) (by omega) near]
    rcases Nat.eq_zero_or_pos count with rfl | later
    · have here : row.zone.cell now = row.zone.cell now + (0 : Int) := (add_zero _).symm
      rcases (isSpreadHour_near baked masked steady (by omega) (by omega) here).mp active with
        ⟨leads, next⟩ | flagged
      · exact .inl ⟨leads.trans from_, next⟩
      · exact .inr flagged
    · exact .inr (held count later (by omega))

/-- From a spread hour on, the time to live reaches the end of the block exactly when the instant's own hour
is flagged: in the lead before a block it does not count the block. -/
theorem ttlCovers_iff {calendar : SpreadCalendar} {instrument : String}
    (baked : calendar.schedule instrument = some row.schedule) (masked : row.mask ≠ 0)
    (gap : ∃ hour < 24, row.mask.testBit hour = false) (steady : row.Steady now)
    (active : calendar.isSpreadHour instrument now = true) :
    TtlCovers calendar instrument now ↔ row.schedule.flagged (row.schedule.localHour now) = true := by
  have low := row.zone.cellTop_cell_le now
  have high := row.zone.lt_cellTop_succ now
  have own := row.flagged_ahead now 0
  rw [Nat.cast_zero, add_zero] at own
  have ttl : calendar.blockTtlSeconds instrument now =
      (blockHours fun ahead => row.flaggedOn now ahead) * 3600 + 3600 := by
    unfold SpreadCalendar.blockTtlSeconds
    rw [maskOf_baked baked masked]
    dsimp only
    simp only [flagged_ahead]
    rfl
  obtain ⟨ahead, ended⟩ := run_ahead gap now 0
  simp only [zero_add] at ahead ended
  have fwdLe : blockHours (fun ahead => row.flaggedOn now ahead) ≤ 23 := blockHours_le _
  unfold TtlCovers
  rw [ttl, own]
  generalize blockHours (fun ahead => row.flaggedOn now ahead) = fwd at ahead ended fwdLe ⊢
  constructor
  · rintro ⟨lift, lifts, within⟩
    by_contra calm
    have here : row.zone.cell now = row.zone.cell now + (0 : Int) := (add_zero _).symm
    obtain ⟨leads, next⟩ :=
      ((isSpreadHour_near baked masked steady (by omega) (by omega) here).mp active).resolve_right calm
    obtain rfl : fwd = 0 := by
      by_contra some_
      exact calm (ahead 0 (by omega))
    obtain ⟨onward, stops⟩ := run_ahead gap now 1
    have nextLe : blockHours (fun ahead => row.flaggedOn now (1 + ahead)) ≤ 23 := blockHours_le _
    generalize blockHours (fun ahead => row.flaggedOn now (1 + ahead)) = length at onward stops nextLe
    have some_ : 0 < length := by
      by_contra none_
      obtain rfl : length = 0 := by omega
      rw [Nat.cast_zero, add_zero, ← zero_add (1 : Int), next] at stops
      cases stops
    have held : ∀ hour : Nat, 0 < hour → hour < 1 + length → row.flaggedOn now hour = true := by
      intro hour positive below
      have flagged := onward (hour - 1) (by omega)
      rwa [show (1 : Int) + (hour - 1 : Nat) = hour by omega] at flagged
    have stops' : row.flaggedOn now (1 + length : Nat) = false := by
      rw [Nat.cast_add, Nat.cast_one]
      exact stops
    have lifts' := liftsAt baked masked steady active (by omega) (by omega) held stops'
    rw [lifts.unique lifts'] at within
    unfold seconds nanosPerSecond at within
    unfold hourNs at *
    push_cast at within
    omega
  · intro flagged
    have some_ : 0 < fwd := by
      by_contra none_
      obtain rfl : fwd = 0 := by omega
      rw [Nat.cast_zero, flagged] at ended
      cases ended
    refine ⟨_, liftsAt baked masked steady active some_ (by omega) (fun hour _ below => ahead hour below) ended, ?_⟩
    unfold seconds nanosPerSecond
    unfold hourNs at *
    omega

/-- The window is the longest block around an instant, and none where its own hour is not flagged; the time to
live of what is opened in a spread hour reaches the end of its block unless it is opened in the lead before
one, outside the flagged hours. -/
theorem spreadBlock_told {calendar : SpreadCalendar} {instrument : String}
    (baked : calendar.schedule instrument = some row.schedule) (masked : row.mask ≠ 0)
    (gap : ∃ hour < 24, row.mask.testBit hour = false) (steady : row.Steady now) :
    ((calendar.blockWindow instrument now = none ↔
          row.schedule.flagged (row.schedule.localHour now) = false) ∧
        ∀ start ending, calendar.blockWindow instrument now = some (start, ending) →
          MaximalBlock row.schedule now start ending) ∧
      ((calendar.isSpreadHour instrument now = true → TtlCovers calendar instrument now) ↔
        (calendar.isSpreadHour instrument now = true →
          row.schedule.flagged (row.schedule.localHour now) = true)) := by
  refine ⟨blockWindow_maximal baked masked gap steady, ?_⟩
  constructor
  · exact fun covers active => (ttlCovers_iff baked masked gap steady active).mp (covers active)
  · exact fun flagged active => (ttlCovers_iff baked masked gap steady active).mpr (flagged active)

end

end BakedRow

/-- The instruments that are flagged from 21:00 until 23:00 UTC. -/
def lateSpreads : SpreadCalendar where
  schedule _ := some lateHours.schedule
  lookupKey := id
  isNyCloseEdge _ := false

theorem lateHours_steady (now : Int) : lateHours.Steady now where
  wholeHours := rfl
  kept _ _ _ := rfl

theorem spreadBlock_told_inBlock :
    lateSpreads.blockWindow "EURUSD" (seconds 77400) = some (seconds 75600, seconds 82800) ∧
      MaximalBlock lateHours.schedule (seconds 77400) (seconds 75600) (seconds 82800) := by
  have told := @BakedRow.spreadBlock_told lateHours (seconds 77400) lateSpreads "EURUSD" rfl
    (by decide) ⟨0, by decide⟩ (lateHours_steady (seconds 77400))
  have window : lateSpreads.blockWindow "EURUSD" (seconds 77400) = some (seconds 75600, seconds 82800) := by
    decide +kernel
  exact ⟨window, told.1.2 _ _ window⟩

/-- At 20:45 the look-ahead has reached the block, which lasts until 23:00, and the time to live is an hour. -/
theorem lateHours_leadUncovered :
    lateSpreads.isSpreadHour "EURUSD" (seconds 74700) = true ∧
      ¬ TtlCovers lateSpreads "EURUSD" (seconds 74700) := by
  have active : lateSpreads.isSpreadHour "EURUSD" (seconds 74700) = true := by decide +kernel
  refine ⟨active, fun covers => ?_⟩
  have flagged := (BakedRow.ttlCovers_iff rfl (by decide) ⟨0, by decide⟩ (lateHours_steady _) active).mp covers
  have unflagged : lateHours.schedule.flagged (lateHours.schedule.localHour (seconds 74700)) = false := by
    decide +kernel
  rw [unflagged] at flagged
  cases flagged

end TradeControl
