import TradeControl.AdaptiveRisk.SessionRuns

namespace TradeControl.AdaptiveRisk

open Foundation

/-- What a snapshot would roll over is already so: it is the same day, resolves no reserved
request and brings no higher mark. -/
structure Unmoved (a : AccountSnapshot) (s : RiskState) : Prop where
  day : a.dayReference = s.day
  reserved : ∀ entry ∈ s.reservations.entries, entry.1 ∉ a.resolvedRequests
  balanceHigh : a.balanceHigh ≤ s.balanceHigh
  equityHigh : a.equityHigh ≤ s.equityHigh

/-- What a snapshot would stop and mark is already so: the stops its equity has come to are
latched, it is the one last seen, and the risk is being reduced just when it would be. -/
structure AlreadySeen (a : AccountSnapshot) (rule : LossRule) (s : RiskState) (floors : Thresholds) :
    Prop where
  account : a.equity ≤ floors.internalAccountFloor → s.accountLocked = true
  daily : a.equity ≤ floors.internalDailyFloor → s.dailyLocked = true
  sequence : s.lastSequence = some a.sequence
  observed : s.lastReconciledAt = some a.observedAt
  reduced : ∀ multiplier, riskMultiplier a rule { s with needsReconciliation := false } = .ok multiplier →
    (multiplier < 1 ↔ s.metrics.reducedSince.isSome = true)

section
variable {a : AccountSnapshot} {rule : LossRule} {now : Int} {s : RiskState} {floors : Thresholds}

/-- A verified snapshot that rolls the day, the requests and the marks onto themselves has
nothing to roll over. -/
theorem unmoved_of_rolled (verified : a.dayReference.day = s.day.day → a.dayReference = s.day)
    (day : (s.rolled a).day = s.day) (reservations : (s.rolled a).reservations = s.reservations)
    (balance : (s.rolled a).balanceHigh = s.balanceHigh) (equity : (s.rolled a).equityHigh = s.equityHigh) :
    Unmoved a s := by
  refine ⟨?_, ?_, max_eq_left_iff.mp balance, max_eq_left_iff.mp equity⟩
  · unfold RiskState.rolled at day
    dsimp only at day
    split at day
    · exact day
    next sameDay => exact verified (not_not.mp sameDay)
  · intro entry member
    have kept : s.reservations.retain (fun id _ => id ∉ a.resolvedRequests) = s.reservations := reservations
    simpa using KeyedMap.retain_eq_self.mp kept entry member

theorem Unmoved.rolled_eq (unmoved : Unmoved a s) : s.rolled a = s := by
  have reservations : s.reservations.retain (fun id _ => id ∉ a.resolvedRequests) = s.reservations :=
    KeyedMap.retain_eq_self.mpr fun entry member => by simpa using unmoved.reserved entry member
  unfold RiskState.rolled
  rw [reservations, max_eq_left unmoved.balanceHigh, max_eq_left unmoved.equityHigh]
  simp [unmoved.day]

theorem RiskMetrics.track_eq_iff {metrics : RiskMetrics} {multiplier : Rat} :
    metrics.track now multiplier = metrics ↔ (multiplier < 1 ↔ metrics.reducedSince.isSome = true) := by
  obtain ⟨blocked, activations, reducedSeconds, since⟩ := metrics
  unfold track
  split
  next below =>
    cases since with
    | none => simp [below]
    | some start => simp [below]
  next above =>
    cases since with
    | none => simp [above]
    | some start => simp [above]

/-- Stops that are latched or not called for leave the state to its last snapshot. -/
theorem stopped_eq (account : a.equity ≤ floors.internalAccountFloor → s.accountLocked = true)
    (daily : a.equity ≤ floors.internalDailyFloor → s.dailyLocked = true)
    (sequence : s.lastSequence = some a.sequence) (observed : s.lastReconciledAt = some a.observedAt) :
    s.stopped a floors = s := by
  have idle : ∀ {stop : Prop} [Decidable stop] {locked : Bool}, (stop → locked = true) →
      (decide stop && !locked) = false ∧ (locked || decide stop) = locked := by
    intro stop _ locked latched
    by_cases called : stop
    · simp [latched called]
    · simp [called]
  unfold RiskState.stopped RiskState.latchStops
  rw [(idle account).1, (idle account).2, (idle daily).1, (idle daily).2, ← sequence, ← observed]
  rfl

theorem stopped_eq_iff (a : AccountSnapshot) (rule : LossRule) (now : Int) (s : RiskState)
    (floors : Thresholds) :
    ({ s.stopped a floors with needsReconciliation := false }.trackReduced a rule now).flagged =
      s.flagged ↔ AlreadySeen a rule s floors := by
  constructor
  · intro same
    obtain ⟨metrics, tracked⟩ := trackReduced_eq a rule now
      { s.stopped a floors with needsReconciliation := false }
    have fields := same
    rw [tracked] at fields
    have account : (s.accountLocked || decide (a.equity ≤ floors.internalAccountFloor)) = s.accountLocked :=
      congrArg RiskState.accountLocked fields
    have daily : (s.dailyLocked || decide (a.equity ≤ floors.internalDailyFloor)) = s.dailyLocked :=
      congrArg RiskState.dailyLocked fields
    have sequence : some a.sequence = s.lastSequence := congrArg RiskState.lastSequence fields
    have observed : some a.observedAt = s.lastReconciledAt := congrArg RiskState.lastReconciledAt fields
    have latched : ∀ {stop : Prop} [Decidable stop] {locked : Bool}, (locked || decide stop) = locked →
        stop → locked = true := by
      intro stop _ locked kept called
      simpa [called] using kept.symm
    refine ⟨latched account, latched daily, sequence.symm, observed.symm, fun multiplier known => ?_⟩
    rw [stopped_eq (latched account) (latched daily) sequence.symm observed.symm] at same
    unfold RiskState.trackReduced at same
    rw [known] at same
    exact RiskMetrics.track_eq_iff.mp (congrArg RiskState.metrics same)
  · intro seen
    rw [stopped_eq seen.account seen.daily seen.sequence seen.observed]
    unfold RiskState.trackReduced
    split
    · rfl
    next multiplier known =>
      rw [RiskMetrics.track_eq_iff.mpr (seen.reduced multiplier known)]

end

/-- Whether a reconciliation that fails leaves everything as it was: it fails at its first save or
at a check, or else the snapshot has nothing to roll over and, where the rule does give its floors,
nothing to stop or to mark. -/
def ReconcileKeeps (zones : Zones) (a : AccountSnapshot) (rule : LossRule) (now : Int) (s : RiskState)
    (first : Save) : Prop :=
  first = .done → s.flagged.verify zones a now = .ok () → Unmoved a s.flagged ∧
    ∀ floors, rule s.policy s.flagged a = .ok floors → AlreadySeen a rule s.flagged floors

/-- A reconciliation that fails leaves the state as it was, but that it has to be reconciled,
exactly where it fails before it begins to change the state, or finds nothing to change. -/
theorem reconcile_failed_iff (zones : Zones) (session : RiskSession) (a : AccountSnapshot)
    (rule : LossRule) (now : Int) (first second : Save) (error : String)
    (failed : (session.reconcile zones a rule now first second).2 = .error error) :
    (session.reconcile zones a rule now first second).1.state = session.state.flagged ↔
      ReconcileKeeps zones a rule now session.state first := by
  unfold ReconcileKeeps
  have ends := reconcile_ends zones a rule now session first second
  generalize session.reconcile zones a rule now first second = result at ends failed ⊢
  cases ends with
  | unsaved unsaved => simp [unsaved]
  | refused saved checked => simp [checked]
  | unruled saved checked ruled =>
    simp only [saved, checked, forall_const]
    constructor
    · intro same
      have unmoved := unmoved_of_rolled (verify_verified checked).sameDay (congrArg RiskState.day same)
        (congrArg RiskState.reservations same) (congrArg RiskState.balanceHigh same)
        (congrArg RiskState.equityHigh same)
      refine ⟨unmoved, fun floors known => ?_⟩
      rw [same, known] at ruled
      cases ruled
    · rintro ⟨unmoved, _⟩
      exact unmoved.rolled_eq
  | @applied floors saved checked ruled =>
    cases second with
    | done => cases failed
    | failed replaced message =>
      simp only [saved, checked, forall_const]
      have stopped := stopped_eq_iff a rule now session.state.flagged floors
      change (session.state.reconciled a rule now floors).flagged = session.state.flagged ↔ _
      constructor
      · intro same
        have kept := reconciled_kept a rule now session.state floors
        have unmoved : Unmoved a session.state.flagged := unmoved_of_rolled (verify_verified checked).sameDay
          (kept.day.symm.trans (congrArg RiskState.day same :))
          (kept.reservations.symm.trans (congrArg RiskState.reservations same :))
          (kept.balanceHigh.symm.trans (congrArg RiskState.balanceHigh same :))
          (kept.equityHigh.symm.trans (congrArg RiskState.equityHigh same :))
        unfold RiskState.reconciled at same
        rw [unmoved.rolled_eq] at same ruled
        refine ⟨unmoved, fun floors' known => ?_⟩
        rw [ruled] at known
        cases known
        exact stopped.mp same
      · rintro ⟨unmoved, seen⟩
        unfold RiskState.reconciled
        rw [unmoved.rolled_eq] at ruled ⊢
        exact stopped.mpr (seen floors ruled)

def failingRule : LossRule := fun _ _ _ => .error "evidence missing"

theorem reconcile_failed_iff_sameDay :
    (({ state := enrolledState, document := enrolledState } : RiskSession).reconcile utcZones
        (flatSnapshot 0) failingRule (noonOf 0) .done .done).1.state = enrolledState.flagged ↔
      ReconcileKeeps utcZones (flatSnapshot 0) failingRule (noonOf 0) enrolledState .done :=
  reconcile_failed_iff utcZones { state := enrolledState, document := enrolledState } (flatSnapshot 0)
    failingRule (noonOf 0) .done .done "evidence missing" (by decide +kernel)

/-- A rule that fails on a new day's snapshot fails after the day's lockout was lifted and the
resolved request let go. -/
theorem reconcile_failed_unlocks :
    let reservation : Reservation :=
      { requestId := "r1", setupId := "s1", risk := 100, volume := 1, createdAt := noonOf 0
        submitted := true }
    let locked :=
      { enrolledState with dailyLocked := true, reservations := AList.singleton "r1" reservation }
    let failed := ({ state := locked, document := locked } : RiskSession).reconcile utcZones
      { flatSnapshot 1 with resolvedRequests := {"r1"} } failingRule (noonOf 1) .done .done
    failed.2 = .error "evidence missing" ∧ locked.dailyLocked = true ∧
      failed.1.state.dailyLocked = false ∧ failed.1.state.reservations.entries = [] := by
  decide +kernel

end TradeControl.AdaptiveRisk
