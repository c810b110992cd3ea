import Mathlib.Data.Nat.Bitwise
import Mathlib.Data.Rat.Lemmas
import TradeControl.Instant

namespace TradeControl

/-- An instrument's baked spread hours: bit `h` of the mask flags local hour `h` of its
schedule, `widenFrac h` is that hour's widening as a fraction of the price, and
`forecast h` the spread expected in it. -/
structure SpreadSchedule where
  mask : Nat
  widenFrac : Nat → Rat
  forecast : Nat → Rat
  localHour : Int → Nat
  localMinute : Int → Nat

def SpreadSchedule.flagged (schedule : SpreadSchedule) (hour : Nat) : Bool :=
  schedule.mask.testBit (hour % 24)

def spreadHourLeadMinutes : Nat := 30

/-- The hour a look-ahead of `spreadHourLeadMinutes` has already reached, if any. -/
def SpreadSchedule.activeHour (schedule : SpreadSchedule) (now : Int) : Option Nat :=
  let hour := schedule.localHour now
  let leadReachesNext := 60 - schedule.localMinute now ≤ spreadHourLeadMinutes
  if schedule.mask = 0 then none
  else if leadReachesNext ∧ schedule.flagged (hour + 1) then some ((hour + 1) % 24)
  else if schedule.flagged hour then some hour
  else none

/-- `mask_active_with_lead`. -/
def SpreadSchedule.activeWithLead (schedule : SpreadSchedule) (now : Int) : Bool :=
  (schedule.activeHour now).isSome

/-- The baked rows and the New York close every other instrument falls back to.
`lookupKey` is the key an account's own measurements of an instrument are filed under. -/
structure SpreadCalendar where
  schedule : String → Option SpreadSchedule
  lookupKey : String → String
  isNyCloseEdge : Int → Bool

/-- The row's schedule, when it flags any hour at all. -/
def SpreadCalendar.maskOf (calendar : SpreadCalendar) (instrument : String) : Option SpreadSchedule :=
  (calendar.schedule instrument).filter (·.mask ≠ 0)

def SpreadCalendar.isSpreadHour (calendar : SpreadCalendar) (instrument : String) (now : Int) : Bool :=
  match calendar.maskOf instrument with
  | some schedule => schedule.activeWithLead now
  | none => calendar.isNyCloseEdge now

/-- `spread_hour_widen_frac`. -/
def SpreadCalendar.widenFrac (calendar : SpreadCalendar) (instrument : String) (now : Int) :
    Option Rat := do
  let schedule ← calendar.schedule instrument
  let hour ← schedule.activeHour now
  return schedule.widenFrac hour

/-- `spread_forecast_frac`: this hour's expected spread and the next one's; a flagged hour
counts for nothing. -/
def SpreadCalendar.forecastFrac (calendar : SpreadCalendar) (instrument : String) (now : Int) :
    Rat × Rat :=
  match calendar.schedule instrument with
  | none => (0, 0)
  | some schedule =>
    let unmasked (hour : Nat) : Rat := if schedule.flagged hour then 0 else schedule.forecast hour
    let hour := schedule.localHour now
    (unmasked hour, unmasked ((hour + 1) % 24))

def maxBlockHours : Nat := 23

/-- Consecutive hours from the first that hold `flagged`, at most `maxBlockHours`. -/
def blockHours (flagged : Nat → Bool) : Nat :=
  ((List.range maxBlockHours).takeWhile flagged).length

def spreadBlockTtlGraceSeconds : Int := 3600

/-- `spread_block_ttl_seconds`: the rest of the block `openedAt` sits in, and an hour. -/
def SpreadCalendar.blockTtlSeconds (calendar : SpreadCalendar) (instrument : String) (openedAt : Int) :
    Int :=
  let hours := match calendar.maskOf instrument with
    | some schedule => blockHours fun ahead => schedule.flagged (schedule.localHour openedAt + ahead)
    | none => blockHours fun ahead =>
        calendar.isSpreadHour instrument (openedAt + seconds (ahead * 3600))
  hours * 3600 + spreadBlockTtlGraceSeconds

def spreadBlackoutRecoveredPips : Rat := 4

/-- `spread_hour_released_at`: the hour ended, or the measured spread recovered in it. -/
def SpreadCalendar.releasedAt (calendar : SpreadCalendar) (instrument : String) (pipSize : Rat)
    (measured : Option Rat) (now : Int) : Bool :=
  !calendar.isSpreadHour instrument now ||
    measured.any fun spread => 0 < pipSize && spread / pipSize ≤ spreadBlackoutRecoveredPips

theorem blockHours_le (flagged : Nat → Bool) : blockHours flagged ≤ maxBlockHours := by
  have initial : (List.range maxBlockHours).takeWhile flagged <+: List.range maxBlockHours :=
    List.takeWhile_prefix flagged
  have shorter := initial.length_le
  rwa [List.length_range] at shorter

/-- A flagged local hour as one day has it, where the hour before is not flagged: from `leadFrom` the
look-ahead reaches it, from `top` the clock shows it, and at `done` it ends. -/
structure SpikeHour (schedule : SpreadSchedule) where
  hour : Nat
  leadFrom : Int
  top : Int
  done : Int
  inDay : hour < 24
  flagged : schedule.flagged hour = true
  calmBefore : schedule.flagged (hour + 23) = false
  lead : ∀ now, leadFrom ≤ now → now < top →
    (schedule.localHour now + 1) % 24 = hour ∧ 60 - schedule.localMinute now ≤ spreadHourLeadMinutes
  inside : ∀ now, top ≤ now → now < done → schedule.localHour now = hour
  /-- A clock that is put back shows an hour twice. -/
  length : done ≤ leadFrom + seconds (3 * 3600)

section
variable {schedule : SpreadSchedule} {now : Int}

theorem SpreadSchedule.mask_ne_zero {hour : Nat} (flagged : schedule.flagged hour = true) :
    schedule.mask ≠ 0 := by
  intro zero
  rw [SpreadSchedule.flagged, zero, Nat.zero_testBit] at flagged
  cases flagged

theorem SpreadSchedule.flagged_mod (hour : Nat) : schedule.flagged (hour % 24) = schedule.flagged hour := by
  rw [SpreadSchedule.flagged, SpreadSchedule.flagged, Nat.mod_mod]

theorem SpikeHour.activeHour_lead (spike : SpikeHour schedule) (reached : spike.leadFrom ≤ now)
    (early : now < spike.top) : schedule.activeHour now = some spike.hour := by
  obtain ⟨next, ahead⟩ := spike.lead now reached early
  have flagged : schedule.flagged (schedule.localHour now + 1) = true := by
    rw [← SpreadSchedule.flagged_mod, next]
    exact spike.flagged
  unfold SpreadSchedule.activeHour
  rw [if_neg (SpreadSchedule.mask_ne_zero spike.flagged), if_pos ⟨ahead, flagged⟩, next]

/-- From the lead's first minute to the hour's last the instrument is in a spread hour. -/
theorem SpikeHour.active (spike : SpikeHour schedule) (reached : spike.leadFrom ≤ now)
    (before : now < spike.done) : schedule.activeWithLead now = true := by
  unfold SpreadSchedule.activeWithLead
  by_cases early : now < spike.top
  · rw [spike.activeHour_lead reached early]
    rfl
  · have flagged : schedule.flagged (schedule.localHour now) = true := by
      rw [spike.inside now (not_lt.mp early) before]
      exact spike.flagged
    unfold SpreadSchedule.activeHour
    rw [if_neg (SpreadSchedule.mask_ne_zero spike.flagged)]
    split
    · rfl
    · rfl

theorem SpikeHour.isSpreadHour {calendar : SpreadCalendar} {instrument : String}
    (spike : SpikeHour schedule) (own : calendar.schedule instrument = some schedule)
    (reached : spike.leadFrom ≤ now) (before : now < spike.done) :
    calendar.isSpreadHour instrument now = true := by
  have masked : calendar.maskOf instrument = some schedule := by
    unfold SpreadCalendar.maskOf
    rw [own, Option.filter_some, if_pos (by simpa using SpreadSchedule.mask_ne_zero spike.flagged)]
  unfold SpreadCalendar.isSpreadHour
  rw [masked]
  exact spike.active reached before

theorem SpikeHour.widenFrac {calendar : SpreadCalendar} {instrument : String} (spike : SpikeHour schedule)
    (own : calendar.schedule instrument = some schedule) (reached : spike.leadFrom ≤ now)
    (early : now < spike.top) : calendar.widenFrac instrument now = some (schedule.widenFrac spike.hour) := by
  unfold SpreadCalendar.widenFrac
  rw [own]
  dsimp only [bind, Option.bind]
  rw [spike.activeHour_lead reached early]
  rfl

end

end TradeControl
