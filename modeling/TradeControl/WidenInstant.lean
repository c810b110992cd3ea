import Mathlib.Tactic.Ring
import TradeControl.SpreadHours

namespace TradeControl

def hourNs : Int := 3600000000000

def minuteNs : Int := 60000000000

/-- `SPREAD_HOUR_LEAD_MINUTES` as a duration. -/
def leadNs : Int := 1800000000000

/-- A time zone: a fixed offset, or one that is put on or back by whole hours at the top of an hour. `shift` counts
those hours for each hour of the zone, and `single` is the instant of a local time that is shown once. -/
structure ZoneClock where
  phase : Int
  shift : Int → Int
  single : Int → Option Int
  single_iff : ∀ naive now, single naive = some now ↔
    now + (phase + shift ((now + phase) / hourNs) * hourNs) = naive ∧
      ∀ other, other + (phase + shift ((other + phase) / hourNs) * hourNs) = naive → other = now

namespace ZoneClock

/-- The hour of the zone an instant is in, counted from the zone's first. -/
def cell (zone : ZoneClock) (now : Int) : Int := (now + zone.phase) / hourNs

def cellTop (zone : ZoneClock) (cell : Int) : Int := cell * hourNs - zone.phase

def offset (zone : ZoneClock) (now : Int) : Int := zone.phase + zone.shift (zone.cell now) * hourNs

def naiveLocal (zone : ZoneClock) (now : Int) : Int := now + zone.offset now

def hourOf (zone : ZoneClock) (cell : Int) : Nat := ((cell + zone.shift cell) % 24).toNat

def localHour (zone : ZoneClock) (now : Int) : Nat := (zone.naiveLocal now / hourNs % 24).toNat

def localMinute (zone : ZoneClock) (now : Int) : Nat := (zone.naiveLocal now % hourNs / minuteNs).toNat

/-- A field of the local time set to another value; none where the clock shows that time twice, or never. -/
def mapLocal (zone : ZoneClock) (change : Int → Int) (now : Int) : Option Int :=
  zone.single (change (zone.naiveLocal now))

def withMinuteZero (naive : Int) : Int := naive - naive % hourNs + naive % minuteNs

def withSecondZero (naive : Int) : Int := naive - naive % minuteNs + naive % nanosPerSecond

def withNanosecondZero (naive : Int) : Int := naive - naive % nanosPerSecond

def topOfLocalHour (zone : ZoneClock) (now : Int) : Int :=
  (((zone.mapLocal withMinuteZero now).bind (zone.mapLocal withSecondZero)).bind
    (zone.mapLocal withNanosecondZero)).getD now

section

variable {zone : ZoneClock} {now other : Int}

theorem cellTop_le_iff {cell : Int} : zone.cellTop cell ≤ now ↔ cell ≤ zone.cell now := by
  unfold cellTop ZoneClock.cell hourNs
  omega

theorem lt_cellTop_iff {cell : Int} : now < zone.cellTop cell ↔ zone.cell now < cell := by
  rw [← not_le, cellTop_le_iff, not_le]

theorem cell_cellTop (cell : Int) : zone.cell (zone.cellTop cell) = cell := by
  unfold cellTop ZoneClock.cell hourNs
  omega

theorem cellTop_add (cell count : Int) : zone.cellTop (cell + count) = zone.cellTop cell + count * hourNs := by
  unfold cellTop
  ring

theorem naiveLocal_eq (zone : ZoneClock) (now : Int) : zone.naiveLocal now =
    (zone.cell now + zone.shift (zone.cell now)) * hourNs + (now - zone.cellTop (zone.cell now)) := by
  unfold naiveLocal offset cellTop
  ring

theorem cellTop_cell_le (zone : ZoneClock) (now : Int) : zone.cellTop (zone.cell now) ≤ now := cellTop_le_iff.mpr le_rfl

theorem lt_cellTop_succ (zone : ZoneClock) (now : Int) : now < zone.cellTop (zone.cell now) + hourNs := by
  have next : now < zone.cellTop (zone.cell now + 1) := lt_cellTop_iff.mpr (lt_add_one _)
  rwa [cellTop_add, one_mul] at next

theorem naiveLocal_div : zone.naiveLocal now / hourNs = zone.cell now + zone.shift (zone.cell now) := by
  have low := cellTop_cell_le zone now
  have high := lt_cellTop_succ zone now
  rw [naiveLocal_eq]
  unfold hourNs at *
  omega

theorem naiveLocal_mod : zone.naiveLocal now % hourNs = now - zone.cellTop (zone.cell now) := by
  have low := cellTop_cell_le zone now
  have high := lt_cellTop_succ zone now
  rw [naiveLocal_eq]
  unfold hourNs at *
  omega

theorem localHour_eq : zone.localHour now = zone.hourOf (zone.cell now) := by
  rw [localHour, naiveLocal_div, hourOf]

theorem lead_reaches_iff :
    60 - zone.localMinute now ≤ spreadHourLeadMinutes ↔ zone.cellTop (zone.cell now) + leadNs ≤ now := by
  have low := cellTop_cell_le zone now
  have high := lt_cellTop_succ zone now
  rw [localMinute, naiveLocal_mod]
  unfold spreadHourLeadMinutes leadNs minuteNs hourNs at *
  omega

/-- Another hour of the zone shows the same local times. -/
def Repeated (zone : ZoneClock) (cell : Int) : Prop :=
  ∃ other, other ≠ cell ∧ other + zone.shift other = cell + zone.shift cell

theorem cell_inside {cell rest : Int} (low : 0 ≤ rest) (high : rest < hourNs) :
    zone.cell (zone.cellTop cell + rest) = cell := by
  unfold cellTop ZoneClock.cell
  unfold hourNs at *
  omega

theorem naiveLocal_inside {cell rest : Int} (low : 0 ≤ rest) (high : rest < hourNs) :
    zone.naiveLocal (zone.cellTop cell + rest) = (cell + zone.shift cell) * hourNs + rest := by
  rw [naiveLocal_eq, cell_inside low high, add_sub_cancel_left]

theorem single_naive_iff {naive : Int} : zone.single naive = some now ↔
    zone.naiveLocal now = naive ∧ ∀ other, zone.naiveLocal other = naive → other = now :=
  zone.single_iff naive now

theorem single_inside {cell rest : Int} (once : ¬ zone.Repeated cell) (low : 0 ≤ rest) (high : rest < hourNs) :
    zone.single ((cell + zone.shift cell) * hourNs + rest) = some (zone.cellTop cell + rest) := by
  rw [single_naive_iff]
  refine ⟨naiveLocal_inside low high, fun other shown => ?_⟩
  have hours : zone.cell other + zone.shift (zone.cell other) = cell + zone.shift cell := by
    rw [← naiveLocal_div, shown]
    unfold hourNs at *
    omega
  have same : zone.cell other = cell := by
    by_contra different
    exact once ⟨zone.cell other, different, hours⟩
  rw [naiveLocal_eq, same] at shown
  omega

theorem single_repeated {cell rest : Int} (twice : zone.Repeated cell) (low : 0 ≤ rest) (high : rest < hourNs) :
    zone.single ((cell + zone.shift cell) * hourNs + rest) = none := by
  obtain ⟨other, different, hours⟩ := twice
  cases shown : zone.single ((cell + zone.shift cell) * hourNs + rest) with
  | none => rfl
  | some now =>
    obtain ⟨-, only⟩ := single_naive_iff.mp shown
    have here := only _ (naiveLocal_inside low high)
    have there := only (zone.cellTop other + rest) (by rw [naiveLocal_inside low high, hours])
    have cells := congrArg zone.cell (there.trans here.symm)
    rw [cell_inside low high, cell_inside low high] at cells
    exact absurd cells different

/-- In an hour that is shown once the local time is cut down to the top of the hour, and otherwise not at all. -/
theorem topOfLocalHour_eq (zone : ZoneClock) (now : Int) :
    (¬ zone.Repeated (zone.cell now) → zone.topOfLocalHour now = zone.cellTop (zone.cell now)) ∧
      (zone.Repeated (zone.cell now) → zone.topOfLocalHour now = now) := by
  have low := cellTop_cell_le zone now
  have high := lt_cellTop_succ zone now
  have shown := naiveLocal_eq zone now
  generalize zone.cell now = cell at *
  obtain ⟨rest, from_top⟩ : ∃ rest, now = zone.cellTop cell + rest := ⟨now - zone.cellTop cell, by omega⟩
  subst from_top
  rw [add_sub_cancel_left] at shown
  have minute : withMinuteZero (zone.naiveLocal (zone.cellTop cell + rest)) =
      (cell + zone.shift cell) * hourNs + rest % minuteNs := by
    rw [shown]
    unfold withMinuteZero minuteNs
    unfold hourNs at *
    omega
  have inMinute : 0 ≤ rest % minuteNs ∧ rest % minuteNs < hourNs := by
    unfold minuteNs hourNs
    omega
  constructor
  · intro once
    have second : withSecondZero (zone.naiveLocal (zone.cellTop cell + rest % minuteNs)) =
        (cell + zone.shift cell) * hourNs + rest % nanosPerSecond := by
      rw [naiveLocal_inside inMinute.1 inMinute.2]
      unfold withSecondZero minuteNs nanosPerSecond hourNs
      omega
    have inSecond : 0 ≤ rest % nanosPerSecond ∧ rest % nanosPerSecond < hourNs := by
      unfold nanosPerSecond hourNs
      omega
    have nanosecond : withNanosecondZero (zone.naiveLocal (zone.cellTop cell + rest % nanosPerSecond)) =
        (cell + zone.shift cell) * hourNs + 0 := by
      rw [naiveLocal_inside inSecond.1 inSecond.2]
      unfold withNanosecondZero nanosPerSecond hourNs
      omega
    unfold topOfLocalHour mapLocal
    rw [minute, single_inside once inMinute.1 inMinute.2]
    dsimp only [Option.bind]
    rw [second, single_inside once inSecond.1 inSecond.2]
    dsimp only
    rw [nanosecond, single_inside once le_rfl (by decide), add_zero]
    rfl
  · intro twice
    unfold topOfLocalHour mapLocal
    rw [minute, single_repeated twice inMinute.1 inMinute.2]
    rfl

end

end ZoneClock

/-- An instrument's baked spread hours in the zone of its schedule. -/
structure BakedRow where
  mask : Nat
  widenFrac : Nat → Rat
  forecast : Nat → Rat
  zone : ZoneClock

namespace BakedRow

def schedule (row : BakedRow) : SpreadSchedule where
  mask := row.mask
  widenFrac := row.widenFrac
  forecast := row.forecast
  localHour := row.zone.localHour
  localMinute := row.zone.localMinute

/-- `spread_hour_widen_for` under the live lead. -/
def widenFor (row : BakedRow) (now : Int) : Option Rat :=
  (row.schedule.activeHour now).map row.widenFrac

/-- The tops of the hours ahead, as the replay walks them. -/
def walkHourTops (row : BakedRow) (barOpen barEnd : Int) : Nat → Int → Option (Int × Rat)
  | 0, _ => none
  | fuel + 1, hourTop =>
    let widenAt := max (hourTop - leadNs) barOpen
    if barEnd ≤ widenAt then none
    else if row.schedule.flagged (row.zone.localHour hourTop) then
      some (widenAt, row.widenFrac (row.zone.localHour hourTop))
    else row.walkHourTops barOpen barEnd fuel (hourTop + hourNs)

/-- `spread_hour_widen_instant`. -/
def widenInstant (row : BakedRow) (barOpen barSeconds : Int) : Option (Int × Rat) :=
  if row.mask = 0 then none
  else
    let barEnd := barOpen + seconds (max barSeconds 0)
    let ownHour := row.zone.localHour barOpen
    if row.schedule.flagged ownHour then some (barOpen, row.widenFrac ownHour)
    else row.walkHourTops barOpen barEnd 25 (row.zone.topOfLocalHour barOpen + hourNs)

/-- The replay widens in a bar where the live decision does, at the first instant and by the fraction it does. -/
def ReproducesLive (row : BakedRow) (barOpen barSeconds : Int) : Prop :=
  ((∃ answer, row.widenInstant barOpen barSeconds = some answer) ↔
      ∃ now, barOpen ≤ now ∧ now < barOpen + seconds barSeconds ∧ (row.widenFor now).isSome = true) ∧
    ∀ widenAt frac, row.widenInstant barOpen barSeconds = some (widenAt, frac) →
      barOpen ≤ widenAt ∧ widenAt < barOpen + seconds barSeconds ∧ row.widenFor widenAt = some frac ∧
        ∀ now, barOpen ≤ now → now < barOpen + seconds barSeconds → (row.widenFor now).isSome = true →
          widenAt ≤ now

/-- The clock's hour `count` hours on from the opening one. -/
def hourOn (row : BakedRow) (barOpen : Int) (count : Nat) : Nat :=
  row.zone.hourOf (row.zone.cell barOpen + count)

/-- The look-ahead from the hour `count` on names a flagged hour. -/
def predicts (row : BakedRow) (barOpen : Int) (count : Nat) : Bool :=
  row.schedule.flagged (row.hourOn barOpen count + 1)

/-- The hour that follows the hour `count` on is flagged. -/
def follows (row : BakedRow) (barOpen : Int) (count : Nat) : Bool :=
  row.schedule.flagged (row.hourOn barOpen (count + 1))

def topOn (row : BakedRow) (barOpen : Int) (count : Nat) : Int :=
  row.zone.cellTop (row.zone.cell barOpen + count)

/-- The top that the walk has for the hour after the hour `count` on. -/
def walkedTop (row : BakedRow) (barOpen : Int) (count : Nat) : Int :=
  row.zone.topOfLocalHour barOpen + (count + 1 : Nat) * hourNs

/-- What the first hour top with a spread hour ahead of or after it has to look like. -/
def TopAgrees (row : BakedRow) (barOpen barEnd : Int) (count : Nat) : Prop :=
  if row.predicts barOpen count then
    barEnd ≤ max (row.topOn barOpen (count + 1) - leadNs) barOpen ∨
      (row.follows barOpen count = true ∧ count < 25 ∧
        row.walkedTop barOpen count = row.topOn barOpen (count + 1) ∧
        row.widenFrac ((row.hourOn barOpen count + 1) % 24) = row.widenFrac (row.hourOn barOpen (count + 1)))
  else if count < 25 then
    row.walkedTop barOpen count - leadNs = row.topOn barOpen (count + 1) ∨
      (barEnd ≤ max (row.walkedTop barOpen count - leadNs) barOpen ∧ barEnd ≤ row.topOn barOpen (count + 1))
  else barEnd ≤ row.topOn barOpen (count + 1)

section Live

variable {row : BakedRow} {now barOpen barEnd : Int}

theorem widenFor_eq (row : BakedRow) (now : Int) :
    row.widenFor now =
      let hour := row.zone.hourOf (row.zone.cell now)
      if row.zone.cellTop (row.zone.cell now) + leadNs ≤ now ∧ row.schedule.flagged (hour + 1) = true then
        some (row.widenFrac ((hour + 1) % 24))
      else if row.schedule.flagged hour = true then some (row.widenFrac hour)
      else none := by
  have hours : row.schedule.localHour now = row.zone.hourOf (row.zone.cell now) := ZoneClock.localHour_eq
  have reach : 60 - row.schedule.localMinute now ≤ spreadHourLeadMinutes ↔
      row.zone.cellTop (row.zone.cell now) + leadNs ≤ now := ZoneClock.lead_reaches_iff
  unfold widenFor SpreadSchedule.activeHour
  rw [hours]
  dsimp only
  by_cases unflagged : row.schedule.mask = 0
  · have none' (hour : Nat) : row.schedule.flagged hour = false := by
      rw [SpreadSchedule.flagged, unflagged, Nat.zero_testBit]
    simp [unflagged, none']
  · rw [if_neg unflagged]
    simp only [reach]
    split
    · rfl
    · split
      · rfl
      · rfl

theorem topOn_succ (row : BakedRow) (barOpen : Int) (count : Nat) :
    row.topOn barOpen (count + 1) = row.topOn barOpen count + hourNs := by
  unfold topOn
  rw [Nat.cast_add, Nat.cast_one, ← add_assoc, ZoneClock.cellTop_add, one_mul]

theorem topOn_mono (row : BakedRow) (barOpen : Int) {early late : Nat} (order : early ≤ late) :
    row.topOn barOpen early ≤ row.topOn barOpen late := by
  induction order with
  | refl => exact le_rfl
  | step _ ih =>
    rw [topOn_succ]
    exact ih.trans (by unfold hourNs; omega)

theorem barOpen_lt_topOn (row : BakedRow) (barOpen : Int) (count : Nat) :
    barOpen < row.topOn barOpen (count + 1) := by
  unfold topOn
  rw [ZoneClock.lt_cellTop_iff]
  omega

theorem cell_of_topOn (row : BakedRow) {count : Nat} (low : row.topOn barOpen count ≤ now)
    (high : now < row.topOn barOpen (count + 1)) : row.zone.cell now = row.zone.cell barOpen + count := by
  rw [topOn, ZoneClock.cellTop_le_iff] at low
  rw [topOn, ZoneClock.lt_cellTop_iff, Nat.cast_add, Nat.cast_one, ← add_assoc] at high
  exact le_antisymm (Int.lt_add_one_iff.mp high) low

/-- From the bar's opening on, an instant lies in one of the hours counted from its opening one. -/
theorem hour_on (row : BakedRow) (reached : barOpen ≤ now) :
    ∃ count : Nat, row.zone.cell now = row.zone.cell barOpen + count ∧ row.topOn barOpen count ≤ now := by
  have later : row.zone.cell barOpen ≤ row.zone.cell now :=
    ZoneClock.cellTop_le_iff.mp ((row.zone.cellTop_cell_le barOpen).trans reached)
  obtain ⟨count, cells⟩ : ∃ count : Nat, row.zone.cell now = row.zone.cell barOpen + count :=
    ⟨(row.zone.cell now - row.zone.cell barOpen).toNat, by omega⟩
  refine ⟨count, cells, ?_⟩
  unfold topOn
  rw [← cells]
  exact row.zone.cellTop_cell_le now

theorem walkedTop_bounds (row : BakedRow) (barOpen : Int) (count : Nat) :
    row.topOn barOpen (count + 1) ≤ row.walkedTop barOpen count ∧
      row.walkedTop barOpen count < row.topOn barOpen (count + 1) + hourNs := by
  have low := row.zone.cellTop_cell_le barOpen
  have high := row.zone.lt_cellTop_succ barOpen
  obtain ⟨once, twice⟩ := row.zone.topOfLocalHour_eq barOpen
  unfold topOn walkedTop
  rw [ZoneClock.cellTop_add]
  by_cases repeated : row.zone.Repeated (row.zone.cell barOpen)
  · rw [twice repeated]
    unfold hourNs at *
    omega
  · rw [once repeated]
    unfold hourNs at *
    omega

theorem localHour_walkedTop (row : BakedRow) (barOpen : Int) (count : Nat) :
    row.zone.localHour (row.walkedTop barOpen count) = row.hourOn barOpen (count + 1) := by
  obtain ⟨low, high⟩ := row.walkedTop_bounds barOpen count
  rw [← topOn_succ] at high
  rw [ZoneClock.localHour_eq, row.cell_of_topOn low high]
  rfl

theorem nextTop (hourTop : Int) (count : Nat) :
    hourTop + (count + 1 : Nat) * hourNs = hourTop + hourNs + count * hourNs := by
  rw [Nat.cast_add, Nat.cast_one]
  ring

theorem walkHourTops_found {fuel count : Nat} {hourTop : Int} (bounded : count < fuel)
    (flagged : row.schedule.flagged (row.zone.localHour (hourTop + count * hourNs)) = true)
    (first : ∀ earlier < count, row.schedule.flagged (row.zone.localHour (hourTop + earlier * hourNs)) = false)
    (inBar : max (hourTop + count * hourNs - leadNs) barOpen < barEnd) :
    row.walkHourTops barOpen barEnd fuel hourTop =
      some (max (hourTop + count * hourNs - leadNs) barOpen,
        row.widenFrac (row.zone.localHour (hourTop + count * hourNs))) := by
  induction fuel generalizing hourTop count with
  | zero => exact absurd bounded (Nat.not_lt_zero _)
  | succ fuel ih =>
    have ahead : ¬ barEnd ≤ max (hourTop - leadNs) barOpen := by
      unfold hourNs at inBar
      omega
    unfold walkHourTops
    dsimp only
    rw [if_neg ahead]
    cases count with
    | zero =>
      simp only [Nat.cast_zero, zero_mul, add_zero] at flagged ⊢
      rw [if_pos flagged]
    | succ count =>
      have here := first 0 (Nat.succ_pos _)
      simp only [Nat.cast_zero, zero_mul, add_zero] at here
      rw [if_neg (by rw [here]; exact Bool.false_ne_true)]
      rw [nextTop] at flagged inBar ⊢
      refine ih (Nat.lt_of_succ_lt_succ bounded) flagged (fun earlier before => ?_) inBar
      rw [← nextTop]
      exact first (earlier + 1) (Nat.succ_lt_succ before)

theorem walkHourTops_some {fuel : Nat} {hourTop widenAt : Int} {frac : Rat}
    (found : row.walkHourTops barOpen barEnd fuel hourTop = some (widenAt, frac)) :
    ∃ count < fuel, row.schedule.flagged (row.zone.localHour (hourTop + count * hourNs)) = true ∧
      widenAt = max (hourTop + count * hourNs - leadNs) barOpen ∧ widenAt < barEnd ∧
        frac = row.widenFrac (row.zone.localHour (hourTop + count * hourNs)) := by
  induction fuel generalizing hourTop with
  | zero => cases found
  | succ fuel ih =>
    unfold walkHourTops at found
    dsimp only at found
    split at found
    · cases found
    · next ahead =>
      split at found
      · next flagged =>
        obtain ⟨rfl, rfl⟩ := Prod.mk.inj (Option.some.inj found)
        have base : hourTop + (0 : Nat) * hourNs = hourTop := by rw [Nat.cast_zero, zero_mul, add_zero]
        refine ⟨0, Nat.succ_pos _, ?_⟩
        rw [base]
        exact ⟨flagged, rfl, not_le.mp ahead, rfl⟩
      · obtain ⟨count, bounded, later⟩ := ih found
        rw [← nextTop] at later
        exact ⟨count + 1, Nat.succ_lt_succ bounded, later⟩

/-- No hour top before the one after the hour `count` on has a spread hour ahead of or after it, and that one has. -/
def FirstTop (row : BakedRow) (barOpen : Int) (count : Nat) : Prop :=
  (∀ earlier < count, row.predicts barOpen earlier = false ∧ row.follows barOpen earlier = false) ∧
    (row.predicts barOpen count = true ∨ row.follows barOpen count = true)

/-- The instant the live decision first reaches the hour top from. -/
def firstLive (row : BakedRow) (barOpen : Int) (count : Nat) : Int :=
  if row.predicts barOpen count then max (row.topOn barOpen (count + 1) - leadNs) barOpen
  else row.topOn barOpen (count + 1)

theorem firstLive_le_top (row : BakedRow) (barOpen : Int) (count : Nat) :
    row.firstLive barOpen count ≤ row.topOn barOpen (count + 1) := by
  have after := row.barOpen_lt_topOn barOpen count
  unfold firstLive leadNs
  split
  · omega
  · exact le_rfl

theorem barOpen_le_firstLive (row : BakedRow) (barOpen : Int) (count : Nat) :
    barOpen ≤ row.firstLive barOpen count := by
  unfold firstLive
  split
  · exact le_max_right _ _
  · exact (row.barOpen_lt_topOn barOpen count).le

/-- Where the opening hour is calm, the live decision widens by an hour top with a spread hour at it. -/
theorem live_top (calm : row.schedule.flagged (row.zone.localHour barOpen) = false) (reached : barOpen ≤ now)
    (live : (row.widenFor now).isSome = true) :
    ∃ count, (row.predicts barOpen count = true ∧ row.topOn barOpen (count + 1) - leadNs ≤ now) ∨
      (row.follows barOpen count = true ∧ row.topOn barOpen (count + 1) ≤ now) := by
  obtain ⟨count, cells, inHour⟩ := row.hour_on reached
  rw [widenFor_eq] at live
  dsimp only at live
  rw [cells] at live
  by_cases ahead : row.zone.cellTop (row.zone.cell barOpen + count) + leadNs ≤ now ∧
      row.schedule.flagged (row.zone.hourOf (row.zone.cell barOpen + count) + 1) = true
  · refine ⟨count, .inl ⟨ahead.2, ?_⟩⟩
    have top : row.topOn barOpen (count + 1) = row.zone.cellTop (row.zone.cell barOpen + count) + hourNs :=
      row.topOn_succ barOpen count
    rw [top]
    unfold hourNs leadNs at *
    omega
  · rw [if_neg ahead] at live
    by_cases flagged : row.schedule.flagged (row.zone.hourOf (row.zone.cell barOpen + count)) = true
    · cases count with
      | zero =>
        rw [Nat.cast_zero, add_zero, ← ZoneClock.localHour_eq, calm] at flagged
        cases flagged
      | succ count => exact ⟨count, .inr ⟨flagged, inHour⟩⟩
    · rw [if_neg flagged] at live
      cases live

theorem firstLive_le (calm : row.schedule.flagged (row.zone.localHour barOpen) = false) {count : Nat}
    (first : row.FirstTop barOpen count) (reached : barOpen ≤ now) (live : (row.widenFor now).isSome = true) :
    row.firstLive barOpen count ≤ now := by
  obtain ⟨later, seen⟩ := row.live_top calm reached live
  have notEarlier : count ≤ later := by
    by_contra earlier
    obtain ⟨unpredicted, unfollowed⟩ := first.1 later (not_le.mp earlier)
    rcases seen with ⟨predicted, -⟩ | ⟨followed, -⟩
    · exact Bool.false_ne_true (unpredicted.symm.trans predicted)
    · exact Bool.false_ne_true (unfollowed.symm.trans followed)
  have tops := row.topOn_mono barOpen (Nat.add_le_add_right notEarlier 1)
  rcases seen with ⟨predicted, lead⟩ | ⟨followed, top⟩
  · rcases notEarlier.eq_or_lt with rfl | before
    · unfold firstLive
      rw [if_pos predicted]
      exact max_le lead reached
    · have next : row.topOn barOpen (count + 1 + 1) ≤ row.topOn barOpen (later + 1) :=
        row.topOn_mono barOpen (Nat.add_le_add_right before 1)
      have bound := row.firstLive_le_top barOpen count
      rw [topOn_succ] at next
      unfold hourNs leadNs at *
      omega
  · exact (row.firstLive_le_top barOpen count).trans (tops.trans top)

theorem widenFor_firstLive {count : Nat} (first : row.FirstTop barOpen count) :
    row.widenFor (row.firstLive barOpen count) =
      some (if row.predicts barOpen count then row.widenFrac ((row.hourOn barOpen count + 1) % 24)
        else row.widenFrac (row.hourOn barOpen (count + 1))) := by
  have tops := row.topOn_succ barOpen count
  have after := row.barOpen_lt_topOn barOpen count
  unfold firstLive
  by_cases predicted : row.predicts barOpen count = true
  · rw [if_pos predicted, if_pos predicted]
    have opening : row.topOn barOpen count ≤ max (row.topOn barOpen (count + 1) - leadNs) barOpen := by
      unfold hourNs leadNs at *
      omega
    have before : max (row.topOn barOpen (count + 1) - leadNs) barOpen < row.topOn barOpen (count + 1) := by
      unfold leadNs
      omega
    have inside := row.cell_of_topOn opening before
    rw [widenFor_eq]
    dsimp only
    rw [inside]
    refine if_pos ⟨?_, predicted⟩
    have base : row.zone.cellTop (row.zone.cell barOpen + count) = row.topOn barOpen count := rfl
    rw [base]
    unfold hourNs leadNs at *
    omega
  · rw [if_neg predicted, if_neg predicted]
    have followed := first.2.resolve_left predicted
    have inside : row.zone.cell (row.topOn barOpen (count + 1)) = row.zone.cell barOpen + (count + 1 : Nat) :=
      ZoneClock.cell_cellTop _
    rw [widenFor_eq]
    dsimp only
    rw [inside]
    have start : ¬ row.zone.cellTop (row.zone.cell barOpen + (count + 1 : Nat)) + leadNs ≤
        row.topOn barOpen (count + 1) := by
      unfold topOn leadNs
      omega
    rw [if_neg fun ahead => start ahead.1]
    exact if_pos followed

theorem walkedTop_eq (row : BakedRow) (barOpen : Int) (count : Nat) :
    row.zone.topOfLocalHour barOpen + hourNs + count * hourNs = row.walkedTop barOpen count := by
  unfold walkedTop
  rw [Nat.cast_add, Nat.cast_one]
  ring

/-- An empty bar ends before any hour top ahead is led into, as the walk's own end of it does. -/
theorem barEnd_le_iff (barSeconds : Int) {instant : Int} (ahead : barOpen ≤ instant) :
    barOpen + seconds (max barSeconds 0) ≤ instant ↔ barOpen + seconds barSeconds ≤ instant := by
  unfold seconds nanosPerSecond
  omega

theorem widenInstant_calm (calm : row.schedule.flagged (row.zone.localHour barOpen) = false) {barSeconds : Int}
    (some_flagged : row.mask ≠ 0) :
    row.widenInstant barOpen barSeconds = row.walkHourTops barOpen (barOpen + seconds (max barSeconds 0)) 25
      (row.zone.topOfLocalHour barOpen + hourNs) := by
  unfold widenInstant
  dsimp only
  rw [if_neg some_flagged, if_neg (by rw [calm]; exact Bool.false_ne_true)]

theorem widenInstant_some (calm : row.schedule.flagged (row.zone.localHour barOpen) = false) {barSeconds widenAt : Int}
    {frac : Rat} (found : row.widenInstant barOpen barSeconds = some (widenAt, frac)) :
    ∃ count < 25, row.follows barOpen count = true ∧
      widenAt = max (row.walkedTop barOpen count - leadNs) barOpen ∧ widenAt < barOpen + seconds barSeconds ∧
        frac = row.widenFrac (row.hourOn barOpen (count + 1)) := by
  by_cases unflagged : row.mask = 0
  · unfold widenInstant at found
    rw [if_pos unflagged] at found
    cases found
  · rw [widenInstant_calm calm unflagged] at found
    obtain ⟨count, bounded, flagged, rfl, inBar, rfl⟩ := walkHourTops_some found
    rw [walkedTop_eq] at flagged inBar ⊢
    rw [localHour_walkedTop] at flagged ⊢
    rw [← not_le, barEnd_le_iff barSeconds (le_max_right _ _), not_le] at inBar
    exact ⟨count, bounded, flagged, rfl, inBar, rfl⟩

theorem widenInstant_found (calm : row.schedule.flagged (row.zone.localHour barOpen) = false) {barSeconds : Int}
    {count : Nat} (bounded : count < 25) (first : ∀ earlier < count, row.follows barOpen earlier = false)
    (followed : row.follows barOpen count = true)
    (inBar : max (row.walkedTop barOpen count - leadNs) barOpen < barOpen + seconds barSeconds) :
    row.widenInstant barOpen barSeconds =
      some (max (row.walkedTop barOpen count - leadNs) barOpen, row.widenFrac (row.hourOn barOpen (count + 1))) := by
  have flagged : row.schedule.flagged (row.zone.localHour
      (row.zone.topOfLocalHour barOpen + hourNs + count * hourNs)) = true := by
    rw [walkedTop_eq, localHour_walkedTop]
    exact followed
  have unflagged (earlier : Nat) (before : earlier < count) : row.schedule.flagged (row.zone.localHour
      (row.zone.topOfLocalHour barOpen + hourNs + earlier * hourNs)) = false := by
    rw [walkedTop_eq, localHour_walkedTop]
    exact first earlier before
  have ends : max (row.zone.topOfLocalHour barOpen + hourNs + count * hourNs - leadNs) barOpen <
      barOpen + seconds (max barSeconds 0) := by
    rw [walkedTop_eq, ← not_le, barEnd_le_iff barSeconds (le_max_right _ _), not_le]
    exact inBar
  rw [widenInstant_calm calm (SpreadSchedule.mask_ne_zero followed),
    walkHourTops_found bounded flagged unflagged ends, walkedTop_eq, localHour_walkedTop]

theorem FirstTop.unique {count other : Nat} (first : row.FirstTop barOpen count)
    (second : row.FirstTop barOpen other) : count = other := by
  have least {early late : Nat} (one : row.FirstTop barOpen early) (two : row.FirstTop barOpen late) :
      late ≤ early := by
    by_contra before
    obtain ⟨unpredicted, unfollowed⟩ := two.1 early (not_le.mp before)
    rcases one.2 with predicted | followed
    · exact Bool.false_ne_true (unpredicted.symm.trans predicted)
    · exact Bool.false_ne_true (unfollowed.symm.trans followed)
  exact le_antisymm (least second first) (least first second)

theorem walkedTop_cases (row : BakedRow) (barOpen : Int) (count : Nat) :
    row.walkedTop barOpen count = row.topOn barOpen (count + 1) ∨
      row.walkedTop barOpen count = barOpen + (count + 1 : Nat) * hourNs := by
  obtain ⟨once, twice⟩ := row.zone.topOfLocalHour_eq barOpen
  unfold walkedTop topOn
  by_cases repeated : row.zone.Repeated (row.zone.cell barOpen)
  · exact .inr (by rw [twice repeated])
  · exact .inl (by rw [once repeated, ZoneClock.cellTop_add])

/-- What the live decision does in a bar that opens in a calm hour. -/
theorem reproducesLive_calm (calm : row.schedule.flagged (row.zone.localHour barOpen) = false) {count : Nat}
    (first : row.FirstTop barOpen count) (barSeconds : Int) :
    row.ReproducesLive barOpen barSeconds ↔
      row.widenInstant barOpen barSeconds =
        if row.firstLive barOpen count < barOpen + seconds barSeconds then
          some (row.firstLive barOpen count,
            if row.predicts barOpen count then row.widenFrac ((row.hourOn barOpen count + 1) % 24)
            else row.widenFrac (row.hourOn barOpen (count + 1)))
        else none := by
  have live := row.widenFor_firstLive first
  have reached := row.barOpen_le_firstLive barOpen count
  have isLive : (row.widenFor (row.firstLive barOpen count)).isSome = true := by
    rw [live]
    rfl
  unfold ReproducesLive
  split
  · next inBar =>
    constructor
    · rintro ⟨answers, sound⟩
      obtain ⟨⟨widenAt, frac⟩, answer⟩ := answers.mpr ⟨_, reached, inBar, isLive⟩
      obtain ⟨after, before, same, earliest⟩ := sound widenAt frac answer
      have instant : widenAt = row.firstLive barOpen count :=
        le_antisymm (earliest _ reached inBar isLive) (firstLive_le calm first after (by rw [same]; rfl))
      subst instant
      rw [answer, Option.some.inj (same.symm.trans live)]
    · intro answer
      refine ⟨⟨fun _ => ⟨_, reached, inBar, isLive⟩, fun _ => ⟨_, answer⟩⟩, fun widenAt frac given => ?_⟩
      obtain ⟨rfl, rfl⟩ := Prod.mk.inj (Option.some.inj (answer.symm.trans given))
      exact ⟨reached, inBar, live, fun now after _ seen => firstLive_le calm first after seen⟩
  · next late =>
    constructor
    · rintro ⟨answers, -⟩
      cases answer : row.widenInstant barOpen barSeconds with
      | none => rfl
      | some answer' =>
        obtain ⟨now, after, before, seen⟩ := answers.mp ⟨_, answer⟩
        exact absurd ((firstLive_le calm first after seen).trans_lt before) late
    · intro answer
      refine ⟨⟨fun given => ?_, fun given => ?_⟩, fun widenAt frac given => ?_⟩
      · obtain ⟨some', given⟩ := given
        cases answer.symm.trans given
      · obtain ⟨now, after, before, seen⟩ := given
        exact absurd ((firstLive_le calm first after seen).trans_lt before) late
      · cases answer.symm.trans given

/-- The walk finds the hour top that the live decision first reaches, or one a whole hour later. -/
theorem widenInstant_firstTop (calm : row.schedule.flagged (row.zone.localHour barOpen) = false) {count : Nat}
    (first : row.FirstTop barOpen count) {barSeconds widenAt : Int} {frac : Rat}
    (found : row.widenInstant barOpen barSeconds = some (widenAt, frac)) :
    widenAt < barOpen + seconds barSeconds ∧
      ((row.follows barOpen count = true ∧ count < 25 ∧
          widenAt = max (row.walkedTop barOpen count - leadNs) barOpen ∧
          frac = row.widenFrac (row.hourOn barOpen (count + 1))) ∨
        row.topOn barOpen (count + 1) + leadNs ≤ widenAt) := by
  obtain ⟨later, bounded, followed, rfl, inBar, rfl⟩ := widenInstant_some calm found
  refine ⟨inBar, ?_⟩
  rcases lt_trichotomy later count with before | rfl | after
  · exact absurd ((first.1 later before).2.symm.trans followed) Bool.false_ne_true
  · exact .inl ⟨followed, bounded, rfl, rfl⟩
  · have next : row.topOn barOpen (count + 1 + 1) ≤ row.topOn barOpen (later + 1) :=
      row.topOn_mono barOpen (Nat.add_le_add_right after 1)
    have walked := (row.walkedTop_bounds barOpen later).1
    rw [topOn_succ] at next
    refine .inr (le_max_of_le_left ?_)
    unfold hourNs leadNs at *
    omega

theorem topAgrees_predicted (calm : row.schedule.flagged (row.zone.localHour barOpen) = false) {count : Nat}
    (first : row.FirstTop barOpen count) (predicted : row.predicts barOpen count = true) (barSeconds : Int) :
    row.ReproducesLive barOpen barSeconds ↔ row.TopAgrees barOpen (barOpen + seconds barSeconds) count := by
  have walked := row.walkedTop_bounds barOpen count
  have after := row.barOpen_lt_topOn barOpen count
  rw [reproducesLive_calm calm first]
  unfold TopAgrees firstLive
  simp only [predicted, if_true]
  by_cases late : barOpen + seconds barSeconds ≤ max (row.topOn barOpen (count + 1) - leadNs) barOpen
  · rw [if_neg (not_lt.mpr late)]
    refine ⟨fun _ => .inl late, fun _ => ?_⟩
    cases answer : row.widenInstant barOpen barSeconds with
    | none => rfl
    | some given =>
      obtain ⟨inBar, found⟩ := widenInstant_firstTop calm first answer
      unfold leadNs at *
      rcases found with ⟨-, -, instant, -⟩ | later
      · omega
      · omega
  · rw [if_pos (not_le.mp late), or_iff_right late]
    constructor
    · intro answer
      obtain ⟨-, found⟩ := widenInstant_firstTop calm first answer
      rcases found with ⟨followed, bounded, instant, frac⟩ | later
      · refine ⟨followed, bounded, ?_, frac⟩
        have cases' := row.walkedTop_cases barOpen count
        unfold hourNs leadNs at *
        omega
      · unfold leadNs at *
        omega
    · rintro ⟨followed, bounded, tops, frac⟩
      have found := widenInstant_found calm bounded (fun earlier before => (first.1 earlier before).2) followed
        (by rw [tops]; exact not_le.mp late)
      rw [found, tops, frac]

theorem topAgrees_unpredicted (calm : row.schedule.flagged (row.zone.localHour barOpen) = false) {count : Nat}
    (first : row.FirstTop barOpen count) (unpredicted : ¬ row.predicts barOpen count = true) (barSeconds : Int) :
    row.ReproducesLive barOpen barSeconds ↔ row.TopAgrees barOpen (barOpen + seconds barSeconds) count := by
  have walked := row.walkedTop_bounds barOpen count
  have after := row.barOpen_lt_topOn barOpen count
  have followed := first.2.resolve_left unpredicted
  rw [reproducesLive_calm calm first]
  unfold TopAgrees firstLive
  rw [if_neg unpredicted, if_neg unpredicted, if_neg unpredicted]
  by_cases bounded : count < 25
  · rw [if_pos bounded]
    by_cases inBar : max (row.walkedTop barOpen count - leadNs) barOpen < barOpen + seconds barSeconds
    · rw [widenInstant_found calm bounded (fun earlier before => (first.1 earlier before).2) followed inBar,
        or_iff_left fun late => absurd inBar (not_lt.mpr late.1)]
      constructor
      · intro answer
        split at answer
        · have instant := (Prod.mk.inj (Option.some.inj answer)).1
          omega
        · cases answer
      · intro tops
        have instant : max (row.walkedTop barOpen count - leadNs) barOpen = row.topOn barOpen (count + 1) := by
          rw [tops]
          exact max_eq_left after.le
        rw [instant] at inBar ⊢
        rw [if_pos inBar]
    · have none' : row.widenInstant barOpen barSeconds = none := by
        cases answer : row.widenInstant barOpen barSeconds with
        | none => rfl
        | some given =>
          obtain ⟨early, found⟩ := widenInstant_firstTop calm first answer
          unfold hourNs leadNs at *
          rcases found with ⟨-, -, instant, -⟩ | later
          · omega
          · omega
      rw [none']
      constructor
      · intro silent
        split at silent
        · cases silent
        · next late => exact .inr ⟨not_lt.mp inBar, not_lt.mp late⟩
      · intro agrees
        have late : ¬ row.topOn barOpen (count + 1) < barOpen + seconds barSeconds := by
          rcases agrees with tops | ⟨-, late⟩
          · omega
          · exact not_lt.mpr late
        rw [if_neg late]
  · rw [if_neg bounded]
    have none' : row.widenInstant barOpen barSeconds = none := by
      cases answer : row.widenInstant barOpen barSeconds with
      | none => rfl
      | some given =>
        obtain ⟨found, walkedTo, flagged, -⟩ := widenInstant_some calm answer
        have before : found < count := walkedTo.trans_le (not_lt.mp bounded)
        exact absurd ((first.1 found before).2.symm.trans flagged) Bool.false_ne_true
    rw [none']
    constructor
    · intro silent
      split at silent
      · cases silent
      · next late => exact not_lt.mp late
    · intro late
      rw [if_neg (not_lt.mpr late)]

theorem exists_firstTop {count : Nat}
    (some' : row.predicts barOpen count = true ∨ row.follows barOpen count = true) :
    ∃ least, row.FirstTop barOpen least := by
  induction count using Nat.strong_induction_on with
  | _ count ih =>
    by_cases earlier : ∃ before < count, row.predicts barOpen before = true ∨ row.follows barOpen before = true
    · obtain ⟨before, less, seen⟩ := earlier
      exact ih before less seen
    · refine ⟨count, fun before less => ?_, some'⟩
      have unseen := not_or.mp fun seen => earlier ⟨before, less, seen⟩
      exact ⟨Bool.eq_false_iff.mpr unseen.1, Bool.eq_false_iff.mpr unseen.2⟩

/-- A bar that opens in a calm hour is replayed as it is lived exactly where its first hour top with a spread hour at
it is one that the clock names and the walk finds. -/
theorem reproducesLive_calm_iff (calm : row.schedule.flagged (row.zone.localHour barOpen) = false)
    (barSeconds : Int) :
    row.ReproducesLive barOpen barSeconds ↔
      ∀ count, row.FirstTop barOpen count → row.TopAgrees barOpen (barOpen + seconds barSeconds) count := by
  by_cases top : ∃ count, row.FirstTop barOpen count
  · obtain ⟨count, first⟩ := top
    have agrees : row.ReproducesLive barOpen barSeconds ↔
        row.TopAgrees barOpen (barOpen + seconds barSeconds) count := by
      by_cases predicted : row.predicts barOpen count = true
      · exact topAgrees_predicted calm first predicted barSeconds
      · exact topAgrees_unpredicted calm first predicted barSeconds
    rw [agrees]
    refine ⟨fun here other second => ?_, fun everywhere => everywhere count first⟩
    rwa [second.unique first]
  · have quiet (now : Int) (reached : barOpen ≤ now) : ¬ (row.widenFor now).isSome = true := by
      intro live
      obtain ⟨count, seen⟩ := row.live_top calm reached live
      exact top (exists_firstTop (seen.imp And.left And.left))
    have silent : row.widenInstant barOpen barSeconds = none := by
      cases answer : row.widenInstant barOpen barSeconds with
      | none => rfl
      | some given =>
        obtain ⟨count, -, followed, -⟩ := widenInstant_some calm answer
        exact absurd (exists_firstTop (.inr followed)) top
    refine ⟨fun _ count first => absurd ⟨count, first⟩ top, fun _ => ⟨⟨fun given => ?_, fun given => ?_⟩, ?_⟩⟩
    · obtain ⟨answer, given⟩ := given
      cases silent.symm.trans given
    · obtain ⟨now, reached, -, live⟩ := given
      exact absurd live (quiet now reached)
    · intro widenAt frac given
      cases silent.symm.trans given

/-- A bar that opens in a spread hour is replayed as it is lived exactly where it is not empty and its second half
does not open for another fraction. -/
theorem reproducesLive_inside_iff (inside : row.schedule.flagged (row.zone.localHour barOpen) = true)
    (barSeconds : Int) :
    row.ReproducesLive barOpen barSeconds ↔
      0 < barSeconds ∧ (30 ≤ row.zone.localMinute barOpen →
        row.schedule.flagged (row.zone.localHour barOpen + 1) = true →
          row.widenFrac ((row.zone.localHour barOpen + 1) % 24) = row.widenFrac (row.zone.localHour barOpen)) := by
  have unempty : barOpen < barOpen + seconds barSeconds ↔ 0 < barSeconds := by
    unfold seconds nanosPerSecond
    omega
  have answer : row.widenInstant barOpen barSeconds = some (barOpen, row.widenFrac (row.zone.localHour barOpen)) := by
    unfold widenInstant
    dsimp only
    have unempty_mask : row.mask ≠ 0 := SpreadSchedule.mask_ne_zero inside
    rw [if_neg unempty_mask, if_pos inside]
  have live : row.widenFor barOpen = some (if 30 ≤ row.zone.localMinute barOpen ∧
      row.schedule.flagged (row.zone.localHour barOpen + 1) = true then
        row.widenFrac ((row.zone.localHour barOpen + 1) % 24) else row.widenFrac (row.zone.localHour barOpen)) := by
    have lead : 60 - row.schedule.localMinute barOpen ≤ spreadHourLeadMinutes ↔
        30 ≤ row.zone.localMinute barOpen := by
      show 60 - row.zone.localMinute barOpen ≤ 30 ↔ _
      omega
    have hour : row.schedule.localHour barOpen = row.zone.localHour barOpen := rfl
    unfold widenFor SpreadSchedule.activeHour
    dsimp only
    rw [if_neg (SpreadSchedule.mask_ne_zero inside)]
    simp only [lead, hour]
    split
    · rfl
    · rfl
  have isLive : (row.widenFor barOpen).isSome = true := by
    rw [live]
    rfl
  constructor
  · rintro ⟨-, sound⟩
    obtain ⟨-, inBar, same, -⟩ := sound _ _ answer
    refine ⟨unempty.mp inBar, fun second flagged => ?_⟩
    rw [live, if_pos ⟨second, flagged⟩] at same
    exact Option.some.inj same
  · rintro ⟨positive, fracs⟩
    have inBar := unempty.mpr positive
    refine ⟨⟨fun _ => ⟨barOpen, le_rfl, inBar, isLive⟩, fun _ => ⟨_, answer⟩⟩, fun widenAt frac given => ?_⟩
    obtain ⟨rfl, rfl⟩ := Prod.mk.inj (Option.some.inj (answer.symm.trans given))
    refine ⟨le_rfl, inBar, ?_, fun now reached _ _ => reached⟩
    rw [live]
    split
    · next second => rw [fracs second.1 second.2]
    · rfl

end Live

/-- A replayed bar widens where, when and by what the live decision does exactly where, if it opens in a spread hour,
it is not empty and does not open in its lead into another fraction, and if it opens in a calm one, the first hour top
with a spread hour at it agrees. -/
theorem reproducesLive_iff (row : BakedRow) (barOpen barSeconds : Int) :
    row.ReproducesLive barOpen barSeconds ↔
      (row.schedule.flagged (row.zone.localHour barOpen) = true →
        0 < barSeconds ∧ (30 ≤ row.zone.localMinute barOpen →
          row.schedule.flagged (row.zone.localHour barOpen + 1) = true →
            row.widenFrac ((row.zone.localHour barOpen + 1) % 24) =
              row.widenFrac (row.zone.localHour barOpen))) ∧
        (row.schedule.flagged (row.zone.localHour barOpen) = false →
          ∀ count, row.FirstTop barOpen count →
            row.TopAgrees barOpen (barOpen + seconds barSeconds) count) := by
  cases opening : row.schedule.flagged (row.zone.localHour barOpen) with
  | true => simp only [reproducesLive_inside_iff opening, forall_const, Bool.true_eq_false, false_implies, and_true]
  | false => simp only [reproducesLive_calm_iff opening, forall_const, Bool.false_eq_true, false_implies, true_and]

end BakedRow

/-- A zone that never changes its offset. -/
def ZoneClock.fixed (offset : Int) : ZoneClock where
  phase := offset
  shift _ := 0
  single naive := some (naive - offset)
  single_iff naive now := by
    simp only [zero_mul, add_zero, Option.some.injEq]
    constructor
    · intro shown
      exact ⟨by omega, fun other same => by omega⟩
    · intro shown
      omega

section Fixed

variable {row : BakedRow} {offset barOpen : Int}

end Fixed

/-- Hours twenty-one and twenty-two of a zone at no offset, the second twice as wide as the first. -/
def lateHours : BakedRow where
  mask := 0x600000
  widenFrac hour := if hour = 22 then 2 / 1000 else 1 / 1000
  forecast _ := 0
  zone := .fixed 0

/-- The half hour that opens at half past nine in the evening: the replay widens by the first hour's fraction, the live
decision by the second's. -/
theorem lateHours_diverge : ¬ lateHours.ReproducesLive (seconds (21 * 3600 + 1800)) 1800 := by
  rintro ⟨-, sound⟩
  have answer : lateHours.widenInstant (seconds (21 * 3600 + 1800)) 1800 =
      some (seconds (21 * 3600 + 1800), 1 / 1000) := by decide +kernel
  obtain ⟨-, -, live, -⟩ := sound _ _ answer
  exact absurd live (by decide +kernel)

end TradeControl
