import TradeControl.EntryGates
import TradeControl.FillPrefixes

namespace TradeControl

/-! Why the live sweep would have pulled a resting order, beside the bars that the replay fills it on. -/

inductive SweepReason
  | expired
  | barExpiry
  | blackout
  | slBreached
  deriving DecidableEq

/-- `intent::resolve_cancel_at`, its error aside. -/
def Shell.cancelAt (shell : Shell) (expiryBars : Nat) (notAfter : Int) : Option Int :=
  if expiryBars = 0 ∨ maxExpiryBars < expiryBars then none
  else some (min ((shell.nextCandleTimestamp expiryBars).getD notAfter) notAfter)

/-- The menu goes with the bars: a slot's close comes after the opens of as many bars after the first, and not after
the opens of the later ones. -/
def Shell.MenuMatches (shell : Shell) (candles : List PathBar) : Prop :=
  ∀ slot closes, shell.nextCandleTimestamp slot = some closes →
    (∀ bar ∈ (candles.drop 1).take slot, bar.time < closes) ∧
      ∀ bar ∈ (candles.drop 1).drop slot, closes ≤ bar.time

def ResolvedEntry.rests : ResolvedEntry → Bool
  | .market _ => false
  | .stop _ | .limit _ => true

section
variable (env : Env) (calendar : ReplayCalendar) (call : FillCall) (shell : Shell)

/-- The order as signed, where it rests. -/
def FillCall.signedResting : Option Resolved :=
  match Resolved.fromIntent env.rules call.intent shell call.pipSize (call.intent.tickSize.getD call.pipSize) with
  | .error _ => none
  | .ok resolved => if resolved.entry.rests then some resolved else none

def FillCall.signedCancelAt : Option Int :=
  match call.intent.expiryBars with
  | some (.static bars) => shell.cancelAt bars call.intent.notAfter
  | _ => none

def FillCall.barExpired (bar : PathBar) : Bool := decide (call.intent.notAfter < bar.time)

def FillCall.barShut (bar : PathBar) : Bool := env.marketBlackoutDue call.intent.instrument bar.time

def Resolved.breachedBy (resolved : Resolved) (bar : PathBar) : Bool :=
  breachDetected resolved.direction (barAdverseExtreme resolved.direction bar.mid.h bar.mid.l) resolved.stopLoss

/-- The loop of `sweep_reason`, for the order as signed. -/
def FillCall.sweepFrom (signed : Resolved) : List PathBar → Option (SweepReason × Int)
  | [] => none
  | bar :: later =>
    if call.barExpired bar then some (.expired, bar.time)
    else if barExpiryDue (call.signedCancelAt shell) bar.time then some (.barExpiry, bar.time)
    else if call.barShut env bar then some (.blackout, bar.time)
    else if signed.breachedBy bar then some (.slBreached, bar.time)
    else FillCall.sweepFrom signed later

def sweepReason : Option (SweepReason × Int) :=
  (call.signedResting env shell).bind fun signed => call.sweepFrom env shell signed (call.candles.drop 1)

/-- A fill is not one that the sweep had pulled, and without one there is no bar left to fill on after the bar that
the sweep names. -/
structure FillsUnswept : Prop where
  filled : ∀ fill ∈ findFill calendar call, ∀ reason at_, sweepReason env call shell = some (reason, at_) →
    (reason = .expired ∨ reason = .barExpiry → fill.fillAt < at_) ∧
      (reason = .slBreached → fill.fillAt ≤ at_)
  unfilled : findFill calendar call = none → ∀ reason at_, sweepReason env call shell = some (reason, at_) →
    ∀ bar ∈ call.fillWindow call.fillPath, bar.time ≤ at_

/-- Through the bars that the order can fill on, up to the one that fills it: none opens after the alert window but a
last one that does not fill it, none but the last or the filling one reaches the signed stop, and none but the last is
shut unless the order fills later. -/
def FillCall.windowUnswept (barSeconds : Int) (signed : Resolved) : List PathBar → Bool
  | [] => true
  | bar :: later =>
    if call.barExpired bar then later.isEmpty && !call.fillsOn calendar barSeconds bar
    else if call.barShut env bar then later.isEmpty || (bar :: later).any (call.fillsOn calendar barSeconds)
    else if signed.breachedBy bar then later.isEmpty || call.fillsOn calendar barSeconds bar
    else call.fillsOn calendar barSeconds bar || FillCall.windowUnswept barSeconds signed later

end

section
variable {env : Env} {calendar : ReplayCalendar} {call : FillCall} {shell : Shell} {barSeconds : Int}
  {signed : Resolved} {window beyond : List PathBar}

theorem truncated_leads (resolved : Resolved) (bars : List PathBar) :
    truncateAtPreFillSlBreach resolved bars <+: bars := by
  unfold truncateAtPreFillSlBreach
  split
  · exact List.take_prefix ..
  · exact List.prefix_refl _

theorem fillWindow_leads (bars : List PathBar) : call.fillWindow bars <+: bars.drop 1 := by
  unfold FillCall.fillWindow
  refine (truncated_leads _ _).trans ?_
  split
  · exact List.take_prefix ..
  · exact List.prefix_refl _

/-- A signed expiry bounds the bars that the order can fill on. -/
theorem fillWindow_static {bars : List PathBar} {expiryBars : Nat}
    (static : call.intent.expiryBars = some (.static expiryBars)) :
    call.fillWindow bars <+: (bars.drop 1).take expiryBars := by
  unfold FillCall.fillWindow
  rw [static]
  exact truncated_leads _ _

theorem sweepFrom_listed {bars : List PathBar} {reason : SweepReason} {at_ : Int}
    (swept : call.sweepFrom env shell signed bars = some (reason, at_)) : ∃ bar ∈ bars, bar.time = at_ := by
  induction bars with
  | nil => cases swept
  | cons bar later ih =>
    rw [FillCall.sweepFrom] at swept
    split at swept
    · cases swept
      exact ⟨bar, List.mem_cons_self, rfl⟩
    split at swept
    · cases swept
      exact ⟨bar, List.mem_cons_self, rfl⟩
    split at swept
    · cases swept
      exact ⟨bar, List.mem_cons_self, rfl⟩
    split at swept
    · cases swept
      exact ⟨bar, List.mem_cons_self, rfl⟩
    · obtain ⟨found, listed, time⟩ := ih swept
      exact ⟨found, List.mem_cons_of_mem _ listed, time⟩

/-- On a bar that the order can fill on no bar expiry is due that the alert window's end is not. -/
theorem barExpiryDue_window (menu : shell.MenuMatches call.candles) {bar : PathBar}
    (member : bar ∈ call.fillWindow call.candles) (open_ : call.barExpired bar = false) :
    barExpiryDue (call.signedCancelAt shell) bar.time = false := by
  have inTime : bar.time ≤ call.intent.notAfter := not_lt.mp (of_decide_eq_false open_)
  unfold FillCall.signedCancelAt
  split
  next expiryBars static =>
    unfold Shell.cancelAt
    split
    · rfl
    · have before : ∀ closes, shell.nextCandleTimestamp expiryBars = some closes → bar.time < closes :=
        fun closes slot => (menu expiryBars closes slot).1 bar ((fillWindow_static static).subset member)
      refine decide_eq_false (not_lt.mpr (le_min ?_ inTime))
      cases slot : shell.nextCandleTimestamp expiryBars with
      | none => exact inTime
      | some closes => exact (before closes slot).le
  · rfl

/-- The entry at the index of the first match in an initial part is that match. -/
theorem findIdx?_head {α : Type} {part entries : List α} (initial : part <+: entries) (p : α → Bool) :
    ((part.findIdx? p).bind fun index => (entries.drop index).head?) = part.find? p := by
  obtain ⟨more, rfl⟩ := initial
  induction part with
  | nil => rfl
  | cons entry later ih =>
    rw [List.findIdx?_cons, List.find?_cons]
    cases p entry with
    | true => rfl
    | false =>
      rw [← ih]
      cases later.findIdx? p <;> rfl

/-- A resting order fills on the first bar of its window that fills it. -/
theorem findFill_fillAt (rests : call.resolved.entry.rests = true) :
    (findFill calendar call).map (·.fillAt) =
      ((call.fillWindow call.fillPath).find? (call.fillsOn calendar (barSecondsOf call.fillPath))).map (·.time) := by
  have taken : ∀ trigger : Rat,
      (((call.fillWindow call.fillPath).findIdx? (call.fillsOn calendar (barSecondsOf call.fillPath))).bind
        fun index => match (call.fillPath.drop 1).drop index with
          | [] => none
          | bar :: later => some ({ fillAt := bar.time, entryPrice := trigger, rest := bar :: later } : Fill)).map
        (·.fillAt) =
      ((call.fillWindow call.fillPath).find? (call.fillsOn calendar (barSecondsOf call.fillPath))).map (·.time) := by
    intro trigger
    rw [← findIdx?_head (fillWindow_leads call.fillPath)]
    cases (call.fillWindow call.fillPath).findIdx? (call.fillsOn calendar (barSecondsOf call.fillPath)) with
    | none => rfl
    | some index =>
      rw [Option.bind_some, Option.bind_some]
      cases (call.fillPath.drop 1).drop index <;> rfl
  unfold findFill FillCall.fillWith
  cases entry : call.resolved.entry with
  | market price =>
    rw [entry] at rests
    cases rests
  | stop trigger => exact taken trigger
  | limit trigger => exact taken trigger

theorem fillPath_fired (fires : ∀ first ∈ call.candles.head?, call.shellTime ≤ first.time) :
    call.fillPath = call.candles := by
  unfold FillCall.fillPath
  split
  · cases path : call.candles with
    | nil => rfl
    | cons first rest =>
      have fired := fires first (by rw [path]; rfl)
      rw [List.dropWhile_cons_of_neg (by simpa using fired)]
  · rfl

/-- The fill and the sweep keep to their order on the bars of a window. -/
def FillCall.KeepsOrder (call : FillCall) (calendar : ReplayCalendar) (barSeconds : Int) (window : List PathBar)
    (swept : Option (SweepReason × Int)) : Prop :=
  (∀ bar ∈ window.find? (call.fillsOn calendar barSeconds), ∀ reason at_, swept = some (reason, at_) →
    (reason = .expired ∨ reason = .barExpiry → bar.time < at_) ∧ (reason = .slBreached → bar.time ≤ at_)) ∧
  (window.find? (call.fillsOn calendar barSeconds) = none → ∀ reason at_, swept = some (reason, at_) →
    ∀ bar ∈ window, bar.time ≤ at_)

/-- Where the sweep names the first bar of the window. -/
theorem keepsOrder_here {bar : PathBar} {later : List PathBar} {reason : SweepReason}
    (after : ∀ found ∈ later, bar.time < found.time) :
    call.KeepsOrder calendar barSeconds (bar :: later) (some (reason, bar.time)) ↔
      (later = [] ∨ (bar :: later).any (call.fillsOn calendar barSeconds) = true) ∧
        (reason = .expired ∨ reason = .barExpiry →
          (bar :: later).any (call.fillsOn calendar barSeconds) = false) ∧
        (reason = .slBreached → later.any (call.fillsOn calendar barSeconds) = true →
          call.fillsOn calendar barSeconds bar = true) := by
  unfold FillCall.KeepsOrder
  rw [List.find?_cons, List.any_cons]
  cases fills : call.fillsOn calendar barSeconds bar with
  | true =>
    dsimp only
    constructor
    · rintro ⟨filled, _⟩
      refine ⟨.inr rfl, fun late => ?_, fun _ _ => rfl⟩
      exact absurd ((filled bar rfl reason bar.time rfl).1 late) (lt_irrefl _)
    · rintro ⟨_, early, _⟩
      refine ⟨fun found same _ _ swept => ?_, nofun⟩
      cases same
      cases swept
      exact ⟨fun late => absurd (early late) Bool.noConfusion, fun _ => le_rfl⟩
  | false =>
    dsimp only
    rw [Bool.false_or]
    cases found : later.find? (call.fillsOn calendar barSeconds) with
    | none =>
      have quiet : later.any (call.fillsOn calendar barSeconds) = false :=
        List.any_eq_false.mpr (List.find?_eq_none.mp found)
      rw [quiet]
      constructor
      · rintro ⟨_, unfilled⟩
        refine ⟨.inl ?_, fun _ => rfl, fun _ => Bool.noConfusion⟩
        cases later with
        | nil => rfl
        | cons second rest =>
          have past := unfilled rfl reason bar.time rfl second (List.mem_cons_of_mem _ List.mem_cons_self)
          have onward := after second List.mem_cons_self
          omega
      · rintro ⟨empty, _⟩
        obtain rfl := empty.resolve_right Bool.noConfusion
        refine ⟨nofun, fun _ _ _ swept bar' listed => ?_⟩
        cases swept
        rw [List.mem_singleton.mp listed]
    | some first =>
      have onward := after first (List.mem_of_find?_eq_some found)
      have fillsLater : later.any (call.fillsOn calendar barSeconds) = true :=
        List.any_eq_true.mpr ⟨first, List.mem_of_find?_eq_some found, List.find?_some found⟩
      rw [fillsLater]
      constructor
      · rintro ⟨filled, _⟩
        obtain ⟨early, inclusive⟩ := filled first rfl reason bar.time rfl
        exact ⟨.inr rfl, fun late => absurd (early late) (by omega), fun breach _ =>
          absurd (inclusive breach) (by omega)⟩
      · rintro ⟨_, early, inclusive⟩
        refine ⟨fun found same _ _ swept => ?_, nofun⟩
        cases same
        cases swept
        exact ⟨fun late => Bool.noConfusion (early late), fun breach => Bool.noConfusion (inclusive breach rfl)⟩

/-- Where the sweep names no bar before those after the first bar of the window. -/
theorem keepsOrder_later {bar : PathBar} {later : List PathBar} {swept : Option (SweepReason × Int)}
    (after : ∀ reason at_, swept = some (reason, at_) → bar.time < at_) :
    call.KeepsOrder calendar barSeconds (bar :: later) swept ↔
      call.fillsOn calendar barSeconds bar = true ∨ call.KeepsOrder calendar barSeconds later swept := by
  unfold FillCall.KeepsOrder
  rw [List.find?_cons]
  cases fills : call.fillsOn calendar barSeconds bar with
  | true =>
    refine iff_of_true ⟨fun found same reason at_ named => ?_, nofun⟩ (.inl rfl)
    cases same
    exact ⟨fun _ => after reason at_ named, fun _ => (after reason at_ named).le⟩
  | false =>
    dsimp only
    rw [or_iff_right Bool.false_ne_true]
    refine and_congr_right fun _ => forall_congr' fun _ => forall₃_congr fun reason at_ named => ?_
    rw [List.forall_mem_cons]
    exact and_iff_right (after reason at_ named).le

/-- Through the bars of the window the fill and the sweep keep to their order exactly if the bars do. -/
theorem keepsOrder_iff (ascending : (window ++ beyond).Pairwise fun earlier later => earlier.time < later.time)
    (undue : ∀ bar ∈ window, call.barExpired bar = false →
      barExpiryDue (call.signedCancelAt shell) bar.time = false) :
    call.KeepsOrder calendar barSeconds window (call.sweepFrom env shell signed (window ++ beyond)) ↔
      call.windowUnswept env calendar barSeconds signed window = true := by
  induction window with
  | nil => exact iff_of_true ⟨nofun, fun _ _ _ _ => List.forall_mem_nil _⟩ rfl
  | cons bar later ih =>
    have onward := List.pairwise_cons.mp ascending
    have after : ∀ found ∈ later, bar.time < found.time := fun found listed =>
      onward.1 found (List.mem_append_left _ listed)
    rw [List.cons_append, FillCall.sweepFrom, FillCall.windowUnswept]
    cases expired : call.barExpired bar with
    | true =>
      rw [if_pos rfl, if_pos rfl, keepsOrder_here after]
      cases later with
      | nil => simp
      | cons second rest =>
        rw [List.any_cons]
        cases call.fillsOn calendar barSeconds bar <;>
          cases (second :: rest).any (call.fillsOn calendar barSeconds) <;> simp
    | false =>
      rw [undue bar List.mem_cons_self expired]
      simp only [Bool.false_eq_true, if_false]
      cases shut : call.barShut env bar with
      | true =>
        rw [if_pos rfl, if_pos rfl, keepsOrder_here after]
        simp
      | false =>
        simp only [Bool.false_eq_true, if_false]
        cases breached : signed.breachedBy bar with
        | true =>
          rw [if_pos rfl, if_pos rfl, keepsOrder_here after]
          cases later with
          | nil => simp
          | cons second rest =>
            rw [List.any_cons]
            cases call.fillsOn calendar barSeconds bar <;>
              cases (second :: rest).any (call.fillsOn calendar barSeconds) <;> simp
        | false =>
          simp only [Bool.false_eq_true, if_false]
          rw [Bool.or_eq_true, ← ih onward.2 fun found listed => undue found (List.mem_cons_of_mem _ listed)]
          refine keepsOrder_later fun reason at_ named => ?_
          obtain ⟨found, listed, time⟩ := sweepFrom_listed named
          rw [← time]
          exact onward.1 found listed

/-- A resting order's fill and its sweep keep to their order exactly if the bars of the fill window do. -/
theorem fillsUnswept_iff (rests : call.resolved.entry.rests = true)
    (ascending : call.candles.Pairwise fun earlier later => earlier.time < later.time)
    (fires : ∀ first ∈ call.candles.head?, call.shellTime ≤ first.time) (menu : shell.MenuMatches call.candles) :
    FillsUnswept env calendar call shell ↔
      ∀ signed ∈ call.signedResting env shell,
        call.windowUnswept env calendar (barSecondsOf call.candles) signed (call.fillWindow call.candles) = true := by
  have path := fillPath_fired fires
  have fillAt : (findFill calendar call).map (·.fillAt) = _ := findFill_fillAt rests
  rw [path] at fillAt
  have keeps : FillsUnswept env calendar call shell ↔
      call.KeepsOrder calendar (barSecondsOf call.candles) (call.fillWindow call.candles)
        (sweepReason env call shell) := by
    unfold FillCall.KeepsOrder
    rw [← Option.map_eq_none_iff (f := fun bar : PathBar => bar.time), ← fillAt, Option.map_eq_none_iff]
    constructor
    · rintro ⟨filled, unfilled⟩
      rw [path] at unfilled
      refine ⟨fun bar found => ?_, unfilled⟩
      rw [Option.mem_def.mp found, Option.map_some] at fillAt
      obtain ⟨fill, same, time⟩ := Option.map_eq_some_iff.mp fillAt
      rw [← time]
      exact filled fill same
    · rintro ⟨filled, unfilled⟩
      refine ⟨fun fill found => ?_, by rw [path]; exact unfilled⟩
      rw [Option.mem_def.mp found, Option.map_some] at fillAt
      obtain ⟨bar, same, time⟩ := Option.map_eq_some_iff.mp fillAt.symm
      rw [← time]
      exact filled bar same
  rw [keeps]
  unfold sweepReason
  cases signed : call.signedResting env shell with
  | none => exact iff_of_true ⟨fun _ _ _ _ => nofun, fun _ _ _ => nofun⟩ nofun
  | some signed =>
    have initial : call.fillWindow call.candles <+: call.candles.drop 1 := fillWindow_leads call.candles
    obtain ⟨beyond, split⟩ := initial
    have ascending' : (call.fillWindow call.candles ++ beyond).Pairwise fun earlier later =>
        earlier.time < later.time := by
      rw [split]
      exact ascending.sublist (List.drop_sublist 1 _)
    simp only [Option.mem_some_iff, forall_eq', Option.bind_some]
    rw [← split]
    exact keepsOrder_iff ascending' fun bar member open_ => barExpiryDue_window menu member open_

end

/-- A bar between 95 and 96 that trades down to a low, so many hours in. -/
def restingBar (hour low : Int) : PathBar where
  mid := { time := seconds (hour * 3600), o := 95, h := 96, l := low, c := 95 }
  bidC := 95
  askC := 95
  bidL := low
  bidH := 96
  askL := low
  askH := 96

/-- `stopEntry` as it is placed by a bar, for so many bars, over its path. -/
def placedLong (placedStop : Rat) (expiryBars : Nat) (resting : List PathBar) : FillCall where
  resolved :=
    { setupId := "trade-1", instrument := "INDEX", direction := .long, entry := .stop 100, stopLoss := placedStop
      takeProfit := 130, minR := 1, dryRun := false, recoverEntry := none }
  breakeven := none
  intent := { stopEntry with expiryBars := some (.static expiryBars) }
  signedBreakeven := none
  shellTime := 0
  pipSize := 1
  candles := restingBar 0 94 :: resting

/-- The shell of the first hour, with the closes of the next two. -/
def hourlyMenu : Shell :=
  { (stopEntryAt 0).shell with
    nextCandleTimestamp1 := some (seconds 7200)
    nextCandleTimestamp2 := some (seconds 10800) }

/-- An order for two bars that fills on the second. -/
def calmLong : FillCall := placedLong 90 2 [restingBar 1 92, flatBar 7200 0]

theorem fillsUnswept_calm :
    (findFill lateCalendar calmLong).map (·.fillAt) = some (seconds 7200) ∧
      FillsUnswept twoBars lateCalendar calmLong hourlyMenu := by
  have menu : hourlyMenu.MenuMatches calmLong.candles := by
    intro slot closes found
    unfold Shell.nextCandleTimestamp at found
    split at found
    · cases found
      decide +kernel
    · cases found
      decide +kernel
    all_goals cases found
  have window : (calmLong.signedResting twoBars hourlyMenu).all (fun signed =>
      calmLong.windowUnswept twoBars lateCalendar (barSecondsOf calmLong.candles) signed
        (calmLong.fillWindow calmLong.candles)) = true := by
    decide +kernel
  exact ⟨by decide +kernel, (fillsUnswept_iff rfl (by decide +kernel) (by decide +kernel) menu).mpr
    (Option.all_eq_true _ _ |>.mp window)⟩

/-- The market of `twoBars`, shut for the second hour. -/
def shutHour : Env := { twoBars with marketHoursBlocked := fun _ now => now == seconds 3600 }

/-- Orders that fill ten hours after their alert window, and on the bar after one that reached their signed stop
but not the placed one; and one that the market's close leaves a bar to fill on. -/
theorem fillsUnswept_fails :
    (findFill lateCalendar (placedLong 90 2 [flatBar (30 * 3600) 0])).map (·.fillAt) = some (seconds (30 * 3600)) ∧
      sweepReason twoBars (placedLong 90 2 [flatBar (30 * 3600) 0]) (stopEntryAt 0).shell =
        some (.expired, seconds (30 * 3600)) ∧
      (findFill lateCalendar (placedLong 80 2 [restingBar 1 85, flatBar 7200 0])).map (·.fillAt) =
        some (seconds 7200) ∧
      sweepReason twoBars (placedLong 80 2 [restingBar 1 85, flatBar 7200 0]) hourlyMenu =
        some (.slBreached, seconds 3600) ∧
      (findFill lateCalendar (placedLong 90 2 [restingBar 1 92, restingBar 2 92])).isNone = true ∧
      sweepReason shutHour (placedLong 90 2 [restingBar 1 92, restingBar 2 92]) hourlyMenu =
        some (.blackout, seconds 3600) ∧
      ((placedLong 90 2 [restingBar 1 92, restingBar 2 92]).fillWindow
        (placedLong 90 2 [restingBar 1 92, restingBar 2 92]).candles).map (·.time) = [seconds 3600, seconds 7200] ∧
      ¬FillsUnswept twoBars lateCalendar (placedLong 90 2 [flatBar (30 * 3600) 0]) (stopEntryAt 0).shell := by
  have late : (findFill lateCalendar (placedLong 90 2 [flatBar (30 * 3600) 0])).map (·.fillAt) =
      some (seconds (30 * 3600)) := by decide +kernel
  have expired : sweepReason twoBars (placedLong 90 2 [flatBar (30 * 3600) 0]) (stopEntryAt 0).shell =
      some (.expired, seconds (30 * 3600)) := by decide +kernel
  refine ⟨late, expired, by decide +kernel, by decide +kernel, by decide +kernel, by decide +kernel,
    by decide +kernel, fun unswept => ?_⟩
  obtain ⟨fill, found, time⟩ := Option.map_eq_some_iff.mp late
  have before := (unswept.filled fill found _ _ expired).1 (.inl rfl)
  rw [time] at before
  exact lt_irrefl _ before

end TradeControl
