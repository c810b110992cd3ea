import TradeControl.AdaptiveRisk.Ledger

namespace TradeControl.AdaptiveRisk

open Foundation

structure ProposedTrade where
  instrumentId : String
  overlapping : Bool
  requestId : String
  strategyId : String
  setupId : String
  estimate : LossEstimate
  volume : VolumeLimits
  requestedVolume : Rat
  requestedRisk : Rat
  deriving DecidableEq

inductive RiskLimitReason
  | baseRisk
  | streak
  | drawdown
  | dailyBudget
  | accountBudget
  | invalidPolicy
  | reconciliation
  | staleData
  | disconnected
  | invalidExposure
  | invalidTrade
  | belowMinimum
  | dailyLockout
  | accountLockout
  | duplicateRequest
  deriving DecidableEq

structure RiskDecision where
  approved : Bool
  allowedRiskPct : Rat
  allowedRiskAmount : Rat
  maxVolume : Rat
  limitingPolicy : RiskLimitReason
  reasons : List RiskLimitReason
  reservedExposure : Rat
  drawdownPct : Rat
  dailyLossPct : Rat
  dailyRemaining : Rat
  deriving DecidableEq

def RiskDecision.blocked (reason : RiskLimitReason) : RiskDecision :=
  { approved := false
    allowedRiskPct := 0
    allowedRiskAmount := 0
    maxVolume := 0
    limitingPolicy := reason
    reasons := [reason]
    reservedExposure := 0
    drawdownPct := 0
    dailyLossPct := 0
    dailyRemaining := 0 }

/-- `num_milliseconds` of a span that is not negative. -/
def numMilliseconds (span : Int) : Int := span.tdiv 1000000

def fresh (now then_ age : Int) : Prop := then_ ≤ now ∧ numMilliseconds (now - then_) ≤ age * 1000

instance (now then_ age : Int) : Decidable (fresh now then_ age) :=
  inferInstanceAs (Decidable (_ ∧ _))

def validateSnapshot (zones : Zones) (p : RiskPolicy) (s : RiskState) (a : AccountSnapshot)
    (now : Int) : Except String Unit := do
  ensure (a.accountId = s.accountId ∧ a.complete ∧ a.setupsReconciled) "incomplete account reconciliation"
  ensure (∀ time ∈ s.invalidatedAfter, time < a.observedAt)
    "snapshot predates execution/disconnection invalidation"
  ensure (0 < a.balance ∧ 0 < a.equity ∧ a.balance ≤ a.balanceHigh ∧ a.equity ≤ a.equityHigh)
    "inconsistent account values"
  ensure (fresh now a.observedAt p.execution.maxDataAgeSeconds ∧
    fresh now a.quoteAt p.execution.maxDataAgeSeconds) "stale account/quote"
  let day ← p.calendar.dayAt zones now
  ensure (day = a.dayReference.day ∧ 0 < a.dayReference.balance ∧ 0 < a.dayReference.equity)
    "missing day boundary evidence"
  ensure (∀ sequence ∈ s.lastSequence, sequence ≤ a.sequence) "broker cursor regressed"

/-- The broker's exposures counted so far: whose they are, what each request has at risk, and what
belongs to none. -/
structure ExposureTally where
  ids : Finset String := ∅
  byRequest : KeyedMap String Rat := ∅
  unlinked : Rat := 0

def ExposureTally.count (p : RiskPolicy) (a : AccountSnapshot) (tally : ExposureTally)
    (exposure : Exposure) : Except String ExposureTally := do
  ensure (exposure.brokerId ∉ tally.ids) "duplicate broker exposure"
  let risk ← exposure.risk p.execution.slippageBufferPctOfRisk p.execution.overlapMultiplier
  let tally := { tally with ids := insert exposure.brokerId tally.ids }
  match exposure.requestId with
  | some id =>
    ensure (id ∉ a.resolvedRequests) "resolved request still has exposure"
    let previous := (tally.byRequest.lookup id).getD 0
    return { tally with byRequest := tally.byRequest.insert id (previous + risk) }
  | none => return { tally with unlinked := tally.unlinked + risk }

/-- A reservation is a floor under what its request has at risk with the broker. -/
def ExposureTally.reserve (tally : ExposureTally) (entry : Σ _ : String, Reservation) :
    Except String ExposureTally := do
  ensure (0 ≤ entry.2.risk ∧ 0 < entry.2.volume) "invalid persisted reservation"
  let brokerRisk := (tally.byRequest.lookup entry.1).getD 0
  return { tally with
    byRequest := tally.byRequest.erase entry.1
    unlinked := tally.unlinked + max brokerRisk entry.2.risk }

def reservedRisk (p : RiskPolicy) (s : RiskState) (a : AccountSnapshot) : Except String Rat := do
  let tally ← a.exposures.foldlM (ExposureTally.count p a) {}
  let tally ← s.reservations.entries.foldlM ExposureTally.reserve tally
  return tally.unlinked + KeyedMap.total tally.byRequest

/-- `min_by_key` on the amount: the first of the smallest. -/
def smallestLimit (first : Rat × RiskLimitReason) (others : List (Rat × RiskLimitReason)) :
    Rat × RiskLimitReason :=
  others.foldl (fun best limit => if limit.1 < best.1 then limit else best) first

/-- How far the equity lies below a reference, in percent of it. -/
def lossPct (reference equity : Rat) : Except String Rat :=
  div (max (reference - equity) 0 * 100) reference

/-- The ceilings on a trade, under the thresholds, what is reserved and the drawdown: base and
requested risk, streak, drawdown, daily and account headroom. -/
def riskLimits (p : RiskPolicy) (a : AccountSnapshot) (t : ProposedTrade) (s : RiskState)
    (f : Thresholds) (reserved drawdown : Rat) : List (Rat × RiskLimitReason) :=
  [(min (pct f.riskReference p.baseRiskPct) t.requestedRisk, .baseRisk),
    (pct f.riskReference p.baseRiskPct * p.streakMultiplier s.consecutiveLosses, .streak),
    (pct f.riskReference (p.drawdownRiskPct drawdown), .drawdown),
    (max (a.equity - f.internalDailyFloor - reserved) 0, .dailyBudget),
    (max (a.equity - f.internalAccountFloor - reserved) 0, .accountBudget)]

def calculate (p : RiskPolicy) (a : AccountSnapshot) (t : ProposedTrade) (s : RiskState)
    (rule : LossRule) : Except String RiskDecision := do
  let f ← rule p s a
  ensure (0 < f.riskReference ∧ 0 < f.drawdownReference ∧ 0 < f.dailyReference ∧
    f.firmAccountFloor < f.internalAccountFloor ∧ f.firmDailyFloor < f.internalDailyFloor)
    "invalid loss rule floors"
  let reserved ← reservedRisk p s a
  let drawdown ← lossPct f.drawdownReference a.equity
  let dailyLoss ← lossPct f.dailyReference a.equity
  let limits := riskLimits p a t s f reserved drawdown
  let (budget, reason) := match limits with
    | first :: others => smallestLimit first others
    | [] => (0, .invalidPolicy)
  if budget ≤ 0 then return .blocked reason
  let multiplier := surcharge t.overlapping p.execution.overlapMultiplier
  let sizingBudget ← div budget multiplier
  match t.volume.size sizingBudget t.estimate p.execution.slippageBufferPctOfRisk t.requestedVolume with
  | .error _ => return .blocked .belowMinimum
  | .ok volume =>
    let loss ← t.estimate.loss volume p.execution.slippageBufferPctOfRisk
    let amount := loss * multiplier
    let allowedRiskPct ← div (amount * 100) f.riskReference
    return {
      approved := true
      allowedRiskPct
      allowedRiskAmount := amount
      maxVolume := volume
      limitingPolicy := reason
      reasons := (limits.filter fun limit => limit.1 = budget).map Prod.snd
      reservedExposure := reserved
      drawdownPct := drawdown
      dailyLossPct := dailyLoss
      dailyRemaining := max (a.equity - f.internalDailyFloor - reserved) 0 }

def evaluateTrade (zones : Zones) (p : RiskPolicy) (a : AccountSnapshot) (proposed : ProposedTrade)
    (s : RiskState) (rule : LossRule) (now : Int) : RiskDecision :=
  if p.validate zones ≠ .ok () ∨ p ≠ s.policy then .blocked .invalidPolicy
  else if !a.connected then .blocked .disconnected
  else if ¬fresh now a.observedAt p.execution.maxDataAgeSeconds ∨
      ¬fresh now a.quoteAt p.execution.maxDataAgeSeconds then .blocked .staleData
  else if s.needsReconciliation ∨ validateSnapshot zones p s a now ≠ .ok () ∨
      s.day ≠ a.dayReference ∨ s.lastSequence ≠ some a.sequence ∨
      s.lastReconciledAt ≠ some a.observedAt then .blocked .reconciliation
  else if s.accountLocked then .blocked .accountLockout
  else if s.dailyLocked then .blocked .dailyLockout
  else if proposed.requestId ∈ s.attemptedRequests then .blocked .duplicateRequest
  else if proposed.setupId ∈ s.outcomes ∨ proposed.instrumentId = "" ∨ proposed.requestId = "" ∨
      proposed.setupId = "" ∨ proposed.strategyId = "" ∨ proposed.requestedRisk ≤ 0 ∨
      proposed.estimate.isOpenPosition then .blocked .invalidTrade
  else match calculate p a proposed s rule with
    | .ok decision => decision
    | .error _ => .blocked .invalidExposure

/-- A second tally that has no exposure for a request, and an amount more for none. -/
structure ExposureTally.Shifted (id : String) (exposed amount : Rat) (tally tally' : ExposureTally) : Prop where
  exposed : (tally.byRequest.lookup id).getD 0 = exposed
  byRequest : tally'.byRequest = tally.byRequest.erase id
  unlinked : tally'.unlinked = tally.unlinked + amount

section
variable {p : RiskPolicy} {a : AccountSnapshot} {s : RiskState} {id : String} {exposed amount reserved : Rat}
  {tally tally' after : ExposureTally}

/-- Reserving for another request keeps two tallies apart by the same. -/
theorem ExposureTally.Shifted.reserve (shifted : tally.Shifted id exposed amount tally')
    {entry : Σ _ : String, Reservation} (other : entry.1 ≠ id) (turned : tally.reserve entry = .ok after) :
    ∃ after', tally'.reserve entry = .ok after' ∧ after.Shifted id exposed amount after' := by
  unfold ExposureTally.reserve at turned
  simp only [bind_ok, ensure_ok, pure_ok, exists_const] at turned
  obtain ⟨valid, rfl⟩ := turned
  have same : tally'.byRequest.lookup entry.1 = tally.byRequest.lookup entry.1 := by
    rw [shifted.byRequest]
    exact AList.lookup_erase_ne other
  refine ⟨_, bind_ok.mpr ⟨(), ensure_ok.mpr valid, rfl⟩, ?_, ?_, ?_⟩
  · dsimp only
    rw [AList.lookup_erase_ne other.symm]
    exact shifted.exposed
  · dsimp only
    rw [shifted.byRequest]
    exact AList.erase_erase _ _ _
  · dsimp only
    rw [same, shifted.unlinked]
    ring

theorem ExposureTally.Shifted.reserves (shifted : tally.Shifted id exposed amount tally')
    {entries : List (Σ _ : String, Reservation)} (others : ∀ entry ∈ entries, entry.1 ≠ id)
    (run : entries.foldlM ExposureTally.reserve tally = .ok after) :
    ∃ after', entries.foldlM ExposureTally.reserve tally' = .ok after' ∧
      after.Shifted id exposed amount after' :=
  foldlM_simulated (fun entry member _ _ _ related turned => related.reserve (others entry member) turned)
    shifted run

/-- What is exposed for a request is no less than nothing. -/
theorem counted_nonneg (sound : p.Sound) (counted : a.exposures.foldlM (ExposureTally.count p a) {} = .ok tally) :
    ∀ id, 0 ≤ (tally.byRequest.lookup id).getD 0 := by
  have each : ∀ exposure ∈ a.exposures, ∀ before after : ExposureTally,
      before.count p a exposure = .ok after → (∀ id, 0 ≤ (before.byRequest.lookup id).getD 0) →
        ∀ id, 0 ≤ (after.byRequest.lookup id).getD 0 := by
    intro exposure _ before after turned nonneg id
    unfold ExposureTally.count at turned
    simp only [bind_ok, ensure_ok, exists_const] at turned
    obtain ⟨_, risk, known, turned⟩ := turned
    have gained := Exposure.risk_nonneg sound.slippage sound.overlap known
    split at turned
    next own _ =>
      simp only [bind_ok, ensure_ok, pure_ok, exists_const] at turned
      obtain ⟨_, rfl⟩ := turned
      dsimp only
      by_cases same : id = own
      · subst same
        rw [AList.lookup_insert]
        exact add_nonneg (nonneg id) gained
      · rw [AList.lookup_insert_ne same]
        exact nonneg id
    · cases pure_ok.mp turned
      exact nonneg id
  exact foldlM_carried each counted fun id => le_rfl

/-- A request's reservation adds to what is reserved no more than its own risk. -/
theorem reservedRisk_reserved (sound : p.Sound) (tallied : reservedRisk p s a = .ok reserved)
    (reservation : Reservation) (s' : RiskState) (risk : 0 ≤ reservation.risk) (volume : 0 < reservation.volume)
    (unreserved : id ∉ s.reservations) (inserted : s'.reservations = s.reservations.insert id reservation) :
    ∃ reserved', reservedRisk p s' a = .ok reserved' ∧ reserved' ≤ reserved + reservation.risk := by
  unfold reservedRisk at tallied
  simp only [bind_ok, pure_ok] at tallied
  obtain ⟨tally, counted, last, run, rfl⟩ := tallied
  have exposed := counted_nonneg sound counted id
  have others : ∀ entry ∈ s.reservations.entries, entry.1 ≠ id := by
    rintro entry member rfl
    exact unreserved (AList.mem_keys.mpr (List.mem_keys_of_mem member))
  have first : tally.reserve ⟨id, reservation⟩ = .ok
      { tally with
        byRequest := tally.byRequest.erase id
        unlinked := tally.unlinked + max ((tally.byRequest.lookup id).getD 0) reservation.risk } :=
    bind_ok.mpr ⟨(), ensure_ok.mpr ⟨risk, volume⟩, rfl⟩
  have shifted : tally.Shifted id _ _
      { tally with
        byRequest := tally.byRequest.erase id
        unlinked := tally.unlinked + max ((tally.byRequest.lookup id).getD 0) reservation.risk } :=
    ⟨rfl, rfl, rfl⟩
  obtain ⟨last', run', ended⟩ := shifted.reserves others run
  refine ⟨last'.unlinked + last'.byRequest.total, ?_, ?_⟩
  · unfold reservedRisk
    rw [inserted, AList.entries_insert_of_notMem unreserved]
    simp only [bind_ok, pure_ok, List.foldlM_cons]
    exact ⟨tally, counted, last', ⟨_, first, run'⟩, rfl⟩
  · have total := KeyedMap.total_erase last.byRequest id
    rw [ended.exposed] at total
    rw [ended.unlinked, ended.byRequest]
    have atMost : max ((tally.byRequest.lookup id).getD 0) reservation.risk ≤
        (tally.byRequest.lookup id).getD 0 + reservation.risk :=
      max_le (le_add_of_nonneg_right risk) (le_add_of_nonneg_left exposed)
    linarith

end

end TradeControl.AdaptiveRisk
