import TradeControl.FillSim

namespace TradeControl

section
variable (calendar : ReplayCalendar) (call : FillCall)

/-- The live release rule, with the bar's close book as the quote that live samples at it. -/
def FillCall.liveReleases (widenAt : Int) (bar : PathBar) : Bool :=
  calendar.spreads.releasedAt (call.key calendar) call.pipSize (some (bar.askC - bar.bidC)) bar.time ||
    backstopRestoreAllowed calendar (call.key calendar) bar.time (backstopDue widenAt bar.time)

def FillCall.liveRestore (widenAt : Int) (bars : List PathBar) : Option Int :=
  (bars.find? (call.liveReleases calendar widenAt)).map (·.time)

/-- The bar that live would restore on is one whose spread has recovered, or that opens past the
backstop: the end of the spread hour alone does not restore. -/
def FillCall.RecoversWithLive (widenAt : Int) (bars : List PathBar) : Prop :=
  ∀ bar, bars.find? (call.liveReleases calendar widenAt) = some bar →
    call.spreadPips bar ≤ spreadBlackoutRecoveredPips ∨ backstopDue widenAt bar.time = true

end

section
variable {calendar : ReplayCalendar} {call : FillCall} {widenAt : Int} {bar : PathBar} {bars : List PathBar}

/-- The replay restores on no bar that live would not. -/
theorem liveReleases_of_restores (positive : 0 < call.pipSize)
    (restores : call.restores calendar widenAt bar = true) :
    call.liveReleases calendar widenAt bar = true := by
  unfold FillCall.restores at restores
  unfold FillCall.liveReleases SpreadCalendar.releasedAt
  rw [Bool.or_eq_true] at restores
  rcases restores with recovered | due
  · have within : (bar.askC - bar.bidC) / call.pipSize ≤ spreadBlackoutRecoveredPips :=
      of_decide_eq_true recovered
    simp [positive, within]
  · simp [due]

/-- On a bar that live would restore on, the replay does exactly if the spread has recovered or the
backstop is due. -/
theorem restores_iff (released : call.liveReleases calendar widenAt bar = true) :
    call.restores calendar widenAt bar = true ↔
      call.spreadPips bar ≤ spreadBlackoutRecoveredPips ∨ backstopDue widenAt bar.time = true := by
  unfold FillCall.liveReleases SpreadCalendar.releasedAt at released
  unfold backstopRestoreAllowed at released
  unfold FillCall.restores backstopRestoreAllowed
  cases inside : calendar.spreads.isSpreadHour (call.key calendar) bar.time with
  | false => simp
  | true =>
    have recovered : call.spreadPips bar ≤ spreadBlackoutRecoveredPips := by
      simp only [inside, Bool.not_true, Bool.false_or, Bool.and_false, Bool.or_false, Option.any_some,
        Bool.and_eq_true, decide_eq_true_eq] at released
      exact released.2
    simp [recovered]

/-- Over bars in order, the replay restores with live exactly if the bar that live restores on does not
owe it to the end of the hour alone. -/
theorem restoreBar_eq_liveRestore_iff (positive : 0 < call.pipSize)
    (ascending : bars.Pairwise fun earlier later => earlier.time < later.time) :
    call.restoreBar calendar widenAt bars = call.liveRestore calendar widenAt bars ↔
      call.RecoversWithLive calendar widenAt bars := by
  induction bars with
  | nil => exact iff_of_true rfl fun _ found => by cases found
  | cons first rest ih =>
    have later := List.pairwise_cons.mp ascending
    unfold FillCall.restoreBar FillCall.liveRestore FillCall.RecoversWithLive
    cases released : call.liveReleases calendar widenAt first with
    | false =>
      have unreleased := Bool.eq_false_iff.mp released
      rw [List.find?_cons_of_neg unreleased,
        List.find?_cons_of_neg (mt (liveReleases_of_restores positive) unreleased)]
      exact ih later.2
    | true =>
      rw [List.find?_cons_of_pos (p := call.liveReleases calendar widenAt) released]
      simp only [Option.some.injEq, forall_eq', Option.map_some]
      rw [← restores_iff released]
      constructor
      · intro same
        by_contra waits
        rw [List.find?_cons_of_neg waits] at same
        obtain ⟨found, listed, time⟩ := Option.map_eq_some_iff.mp same
        have after := later.1 found (List.mem_of_find?_eq_some listed)
        omega
      · intro restores
        rw [List.find?_cons_of_pos restores]
        rfl

/-- Every episode of the scan was there before or opens on one of its bars. -/
theorem episodeScan_opened {widenTriggerPips entryPrice : Rat} {barSeconds : Int} {stop : InForceStop}
    {episodes : List SpreadWiden} {episode : SpreadWiden}
    (member : episode ∈ call.episodeScan calendar widenTriggerPips barSeconds entryPrice stop episodes bars) :
    episode ∈ episodes ∨ ∃ before bar later level pips, bars = before ++ bar :: later ∧
      episode = call.openWiden calendar barSeconds level pips bar later := by
  induction bars generalizing stop episodes with
  | nil => exact .inl member
  | cons bar rest ih =>
    have shifted : ∀ {earlier : List SpreadWiden}, (episode ∈ earlier ∨ ∃ before found later level pips,
        rest = before ++ found :: later ∧ episode = call.openWiden calendar barSeconds level pips found later) →
        episode ∈ earlier ∨ ∃ before found later level pips, bar :: rest = before ++ found :: later ∧
          episode = call.openWiden calendar barSeconds level pips found later := by
      rintro _ (known | ⟨before, found, later, level, pips, split, opened⟩)
      · exact .inl known
      · exact .inr ⟨bar :: before, found, later, level, pips, by rw [split]; rfl, opened⟩
    rw [FillCall.episodeScan] at member
    split at member
    · exact .inl member
    split at member
    · exact shifted (ih member)
    split at member
    · exact shifted (ih member)
    next pips _ =>
      rcases shifted (ih member) with known | opened
      · rcases List.mem_append.mp known with known | new
        · exact .inl known
        · exact .inr ⟨[], bar, rest, stop.level, pips, rfl, List.mem_singleton.mp new⟩
      · exact .inr opened

theorem fillPath_suffix : call.fillPath <:+ call.candles := by
  unfold FillCall.fillPath
  split
  · exact List.dropWhile_suffix _
  · exact List.suffix_refl _

/-- The fill of a resting order on the first of some bars. -/
def Fill.onFirst (trigger : Rat) : List PathBar → Option Fill
  | [] => none
  | bar :: later => some { fillAt := bar.time, entryPrice := trigger, rest := bar :: later }

theorem fillWith_suffix {barSeconds : Int} {fill : Fill}
    (found : call.fillWith calendar barSeconds = some fill) : fill.rest <:+ call.candles := by
  have resting : ∀ {trigger : Rat} {window : Option Nat},
      (window.bind fun index => Fill.onFirst trigger ((call.fillPath.drop 1).drop index)) = some fill →
        fill.rest <:+ call.candles := by
    intro trigger window found
    obtain ⟨index, _, taken⟩ := Option.bind_eq_some_iff.mp found
    cases dropped : (call.fillPath.drop 1).drop index with
    | nil =>
      rw [dropped] at taken
      cases taken
    | cons bar later =>
      rw [dropped] at taken
      cases taken
      exact dropped ▸ ((List.drop_suffix index _).trans (List.drop_suffix 1 _)).trans fillPath_suffix
  unfold FillCall.fillWith at found
  cases entry : call.resolved.entry with
  | market price =>
    rw [entry] at found
    cases found
    exact fillPath_suffix
  | stop trigger =>
    rw [entry] at found
    exact resting found
  | limit trigger =>
    rw [entry] at found
    exact resting found

/-- Every episode of a path in order opens on one of its bars, and ends with live exactly if the bar that
live restores on, among those after it, does not owe it to the end of the hour alone. -/
theorem widenEpisodes_end_iff {widenTriggerPips : Rat} {episode : SpreadWiden}
    (ascending : call.candles.Pairwise fun earlier later => earlier.time < later.time)
    (member : episode ∈ widenEpisodesAtResolved calendar call widenTriggerPips) :
    ∃ before bar later, call.candles = before ++ bar :: later ∧ episode.effectiveFrom = bar.time ∧
      (episode.restoredAt = call.liveRestore calendar bar.time later ↔
        call.RecoversWithLive calendar bar.time later) := by
  unfold widenEpisodesAtResolved at member
  split at member
  · cases member
  next fill found =>
    unfold FillCall.episodesFrom at member
    split at member
    · cases member
    next positive =>
      obtain ⟨gone, path⟩ := fillWith_suffix found
      rcases episodeScan_opened member with known | ⟨before, bar, later, level, pips, split, rfl⟩
      · cases known
      · rw [split, ← List.append_assoc] at path
        refine ⟨gone ++ before, bar, later, path.symm, rfl, ?_⟩
        rw [← path] at ascending
        exact restoreBar_eq_liveRestore_iff (not_le.mp positive)
          (List.pairwise_cons.mp (List.pairwise_append.mp ascending).2.1).2

end

/-- An instrument whose spread is wide from nine to eleven in the evening. -/
def lateCalendar : ReplayCalendar where
  rows _ := some lateHours
  lookupKey := id
  isNyCloseEdge _ := false
  elevatedThresholdPips _ := 8

/-- A long held at 100 from nine in the evening, with the spread that its later hours have. -/
def lateLong (spread : Rat) : FillCall where
  resolved :=
    { setupId := "trade-1", instrument := "EUR_USD", direction := .long, entry := .market 100
      stopLoss := 50, takeProfit := 200, minR := 1, dryRun := false, recoverEntry := none }
  breakeven := none
  intent := stopEntry
  signedBreakeven := none
  shellTime := seconds (21 * 3600)
  pipSize := 1
  candles := [flatBar (21 * 3600) 6, flatBar (22 * 3600) spread, flatBar (23 * 3600) spread]

theorem widenEpisodes_end_recovered :
    ∃ episode ∈ widenEpisodesAtResolved lateCalendar (lateLong 3) 8, ∃ before bar later,
      (lateLong 3).candles = before ++ bar :: later ∧ episode.effectiveFrom = bar.time ∧
        (episode.restoredAt = (lateLong 3).liveRestore lateCalendar bar.time later ↔
          (lateLong 3).RecoversWithLive lateCalendar bar.time later) := by
  have widens : 0 < (widenEpisodesAtResolved lateCalendar (lateLong 3) 8).length := by decide +kernel
  obtain ⟨episode, member⟩ := List.exists_mem_of_ne_nil _ (List.ne_nil_of_length_pos widens)
  exact ⟨episode, member, widenEpisodes_end_iff (by decide +kernel) member⟩

/-- The hour is over at eleven, but the ordinary spread of six pips is no recovered one. -/
theorem widenEpisodes_end_late :
    ∃ episode ∈ widenEpisodesAtResolved lateCalendar (lateLong 6) 8,
      episode.effectiveFrom = seconds (21 * 3600) ∧
        episode.restoredAt ≠
          (lateLong 6).liveRestore lateCalendar (seconds (21 * 3600)) ((lateLong 6).candles.drop 1) := by
  decide +kernel

end TradeControl
