import TradeControl.AdaptiveRisk.Headroom
import TradeControl.Foundation.KeyedTotals

namespace TradeControl.AdaptiveRisk

open Foundation

/-- What an exposure that can be priced has at risk. -/
def RiskPolicy.riskOf (p : RiskPolicy) (exposure : Exposure) : Rat :=
  match exposure.risk p.execution.slippageBufferPctOfRisk p.execution.overlapMultiplier with
  | .ok risk => risk
  | .error _ => 0

/-- Exposures that a tally can go through: each told by its id, priced and of an open request. -/
structure Countable (p : RiskPolicy) (a : AccountSnapshot) (exposures : List Exposure) : Prop where
  distinct : (exposures.map Exposure.brokerId).Nodup
  priced : ∀ exposure ∈ exposures,
    exposure.risk p.execution.slippageBufferPctOfRisk p.execution.overlapMultiplier = .ok (p.riskOf exposure)
  unresolved : ∀ exposure ∈ exposures, ∀ id ∈ exposure.requestId, id ∉ a.resolvedRequests

/-- A tally with one exposure more. -/
def ExposureTally.including (tally : ExposureTally) (p : RiskPolicy) (exposure : Exposure) : ExposureTally :=
  let ids := insert exposure.brokerId tally.ids
  match exposure.requestId with
  | some id => { tally with ids, byRequest := KeyedMap.add tally.byRequest id (p.riskOf exposure) }
  | none => { tally with ids, unlinked := tally.unlinked + p.riskOf exposure }

section
variable {p : RiskPolicy} {a : AccountSnapshot} {tally after : ExposureTally}

theorem riskOf_eq {exposure : Exposure} {risk : Rat}
    (known : exposure.risk p.execution.slippageBufferPctOfRisk p.execution.overlapMultiplier = .ok risk) :
    p.riskOf exposure = risk := by
  unfold RiskPolicy.riskOf
  rw [known]

theorem riskOf_nonneg (sound : p.Sound) (exposure : Exposure) : 0 ≤ p.riskOf exposure := by
  unfold RiskPolicy.riskOf
  split
  next risk known => exact Exposure.risk_nonneg sound.slippage sound.overlap known
  · exact le_rfl

theorem including_ids (tally : ExposureTally) (exposure : Exposure) :
    (tally.including p exposure).ids = insert exposure.brokerId tally.ids := by
  unfold ExposureTally.including
  dsimp only
  split
  · rfl
  · rfl

theorem count_ok {exposure : Exposure} :
    tally.count p a exposure = .ok after ↔
      exposure.brokerId ∉ tally.ids ∧
      exposure.risk p.execution.slippageBufferPctOfRisk p.execution.overlapMultiplier =
        .ok (p.riskOf exposure) ∧
      (∀ id ∈ exposure.requestId, id ∉ a.resolvedRequests) ∧ tally.including p exposure = after := by
  unfold ExposureTally.count ExposureTally.including
  simp only [bind_ok, ensure_ok, exists_const]
  constructor
  · rintro ⟨fresh, risk, known, turned⟩
    rw [riskOf_eq known]
    refine ⟨fresh, known, ?_⟩
    cases own : exposure.requestId with
    | some id =>
      rw [own] at turned
      simp only [bind_ok, ensure_ok, pure_ok, exists_const] at turned
      obtain ⟨unresolved, rfl⟩ := turned
      refine ⟨?_, rfl⟩
      intro other listed
      cases listed
      exact unresolved
    | none =>
      rw [own] at turned
      exact ⟨fun id listed => (by cases listed), pure_ok.mp turned⟩
  · rintro ⟨fresh, known, unresolved, rfl⟩
    refine ⟨fresh, p.riskOf exposure, known, ?_⟩
    cases own : exposure.requestId with
    | some id =>
      simp only [bind_ok, ensure_ok, pure_ok, exists_const]
      exact ⟨unresolved id own, rfl⟩
    | none => rfl

theorem counted_ok {exposures : List Exposure} :
    exposures.foldlM (ExposureTally.count p a) tally = .ok after ↔
      Countable p a exposures ∧ (∀ exposure ∈ exposures, exposure.brokerId ∉ tally.ids) ∧
        exposures.foldl (fun tally => tally.including p) tally = after := by
  induction exposures generalizing tally with
  | nil =>
    simp only [List.foldlM_nil, pure_ok, List.foldl_nil, List.not_mem_nil, false_implies, implies_true,
      true_and]
    exact ⟨fun same => ⟨⟨List.nodup_nil, by simp, by simp⟩, same⟩, fun ⟨_, same⟩ => same⟩
  | cons first rest ih =>
    rw [List.foldlM_cons, bind_ok, List.foldl_cons]
    simp only [count_ok, ih]
    constructor
    · rintro ⟨_, ⟨fresh, priced, unresolved, rfl⟩, countable, others, ended⟩
      simp only [including_ids, Finset.mem_insert, not_or] at others
      refine ⟨⟨?_, ?_, ?_⟩, ?_, ended⟩
      · rw [List.map_cons, List.nodup_cons]
        refine ⟨fun listed => ?_, countable.distinct⟩
        obtain ⟨other, member, same⟩ := List.mem_map.mp listed
        exact (others other member).1 same
      · exact List.forall_mem_cons.mpr ⟨priced, countable.priced⟩
      · exact List.forall_mem_cons.mpr ⟨unresolved, countable.unresolved⟩
      · exact List.forall_mem_cons.mpr ⟨fresh, fun other member => (others other member).2⟩
    · rintro ⟨⟨distinct, priced, unresolved⟩, others, ended⟩
      rw [List.map_cons, List.nodup_cons] at distinct
      rw [List.forall_mem_cons] at priced unresolved others
      refine ⟨_, ⟨others.1, priced.1, unresolved.1, rfl⟩, ⟨distinct.2, priced.2, unresolved.2⟩, ?_, ended⟩
      intro other member
      rw [including_ids, Finset.mem_insert, not_or]
      exact ⟨fun same => distinct.1 (same ▸ List.mem_map_of_mem member), others.2 other member⟩

/-- What a tally has at risk in all. -/
def ExposureTally.amount (tally : ExposureTally) : Rat := tally.unlinked + KeyedMap.total tally.byRequest

/-- What a tally has at risk for a request. -/
def ExposureTally.exposed (tally : ExposureTally) (id : String) : Rat := (tally.byRequest.lookup id).getD 0

theorem including_amount (tally : ExposureTally) (exposure : Exposure) :
    (tally.including p exposure).amount = tally.amount + p.riskOf exposure := by
  unfold ExposureTally.including ExposureTally.amount
  split
  next id own =>
    dsimp only
    have inserted := KeyedMap.total_erase (KeyedMap.add tally.byRequest id (p.riskOf exposure)) id
    have before := KeyedMap.total_erase tally.byRequest id
    have rest : (KeyedMap.add tally.byRequest id (p.riskOf exposure)).erase id = tally.byRequest.erase id := by
      unfold KeyedMap.add
      exact AList.ext (List.kerase_cons_eq rfl)
    have gained : ((KeyedMap.add tally.byRequest id (p.riskOf exposure)).lookup id).getD 0 =
        (tally.byRequest.lookup id).getD 0 + p.riskOf exposure := by
      unfold KeyedMap.add
      rw [AList.lookup_insert]
      rfl
    rw [rest, gained] at inserted
    linarith
  · dsimp only
    ring

theorem including_exposed (tally : ExposureTally) (exposure : Exposure) (id : String) :
    (tally.including p exposure).exposed id =
      (if exposure.requestId = some id then p.riskOf exposure else 0) + tally.exposed id := by
  unfold ExposureTally.including ExposureTally.exposed KeyedMap.add
  split
  next own known =>
    dsimp only
    by_cases same : own = id
    · subst same
      rw [AList.lookup_insert, if_pos known]
      exact add_comm _ _
    · rw [AList.lookup_insert_ne (Ne.symm same), known, if_neg (fun h => same (Option.some.inj h)), zero_add]
  next none_ =>
    rw [none_, if_neg (by simp), zero_add]

theorem counted_amount (exposures : List Exposure) (tally : ExposureTally) :
    (exposures.foldl (fun tally => tally.including p) tally).amount =
      tally.amount + (exposures.map p.riskOf).sum := by
  induction exposures generalizing tally with
  | nil => simp
  | cons first rest ih =>
    rw [List.foldl_cons, ih, including_amount, List.map_cons, List.sum_cons]
    ring

theorem counted_exposed (exposures : List Exposure) (tally : ExposureTally) (id : String) :
    (exposures.foldl (fun tally => tally.including p) tally).exposed id =
      tally.exposed id + amountUnder Exposure.requestId p.riskOf exposures id := by
  induction exposures generalizing tally with
  | nil => simp [amountUnder]
  | cons first rest ih =>
    rw [List.foldl_cons, ih, including_exposed, amountUnder_cons]
    ring

/-- A tally whose request counts with a reservation's risk at least. -/
def ExposureTally.raised (tally : ExposureTally) (entry : Σ _ : String, Reservation) : ExposureTally :=
  { tally with
    byRequest := tally.byRequest.erase entry.1
    unlinked := tally.unlinked + max (tally.exposed entry.1) entry.2.risk }

def Reservation.Valid (reservation : Reservation) : Prop := 0 ≤ reservation.risk ∧ 0 < reservation.volume

theorem reserve_ok {entry : Σ _ : String, Reservation} :
    tally.reserve entry = .ok after ↔ entry.2.Valid ∧ tally.raised entry = after := by
  unfold ExposureTally.reserve
  simp only [bind_ok, ensure_ok, pure_ok, exists_const]
  rfl

theorem reserves_ok {entries : List (Σ _ : String, Reservation)} :
    entries.foldlM ExposureTally.reserve tally = .ok after ↔
      (∀ entry ∈ entries, entry.2.Valid) ∧ entries.foldl ExposureTally.raised tally = after := by
  have each : ∀ (before : ExposureTally) (entry : Σ _ : String, Reservation) (next : ExposureTally),
      before.reserve entry = .ok next ↔ entry.2.Valid ∧ before.raised entry = next :=
    fun _ _ _ => reserve_ok
  exact foldlM_ok each

theorem raised_amount (tally : ExposureTally) (entry : Σ _ : String, Reservation) :
    (tally.raised entry).amount = tally.amount + max (entry.2.risk - tally.exposed entry.1) 0 := by
  have erased := KeyedMap.total_erase tally.byRequest entry.1
  have above : max (tally.exposed entry.1) entry.2.risk =
      tally.exposed entry.1 + max (entry.2.risk - tally.exposed entry.1) 0 := by
    rw [← max_add_add_left, add_sub_cancel, add_zero, max_comm]
  unfold ExposureTally.raised ExposureTally.amount
  unfold ExposureTally.exposed at above ⊢
  dsimp only
  linarith

theorem raised_exposed (tally : ExposureTally) {entry : Σ _ : String, Reservation} {id : String}
    (other : id ≠ entry.1) : (tally.raised entry).exposed id = tally.exposed id := by
  unfold ExposureTally.raised ExposureTally.exposed
  dsimp only
  rw [AList.lookup_erase_ne other]

/-- The reservations' floors under their requests. -/
def floorsOf (entries : List (Σ _ : String, Reservation)) : List (String × Rat) :=
  entries.map fun entry => (entry.1, entry.2.risk)

theorem floorsOf_keys (entries : List (Σ _ : String, Reservation)) :
    (floorsOf entries).map Prod.fst = entries.keys := by
  unfold floorsOf List.keys
  rw [List.map_map]
  rfl

theorem reserved_amount {entries : List (Σ _ : String, Reservation)} (distinct : entries.NodupKeys)
    (tally : ExposureTally) :
    (entries.foldl ExposureTally.raised tally).amount =
      tally.amount + ((floorsOf entries).map fun entry => max (entry.2 - tally.exposed entry.1) 0).sum := by
  induction entries generalizing tally with
  | nil => simp [floorsOf]
  | cons first rest ih =>
    rw [List.nodupKeys_cons] at distinct
    have others : ((floorsOf rest).map fun entry => max (entry.2 - (tally.raised first).exposed entry.1) 0) =
        (floorsOf rest).map fun entry => max (entry.2 - tally.exposed entry.1) 0 := by
      refine List.map_congr_left fun entry listed => ?_
      have key : entry.1 ∈ rest.keys := floorsOf_keys rest ▸ List.mem_map_of_mem listed
      rw [raised_exposed tally (ne_of_mem_of_not_mem key distinct.1)]
    rw [List.foldl_cons, ih distinct.2, others, raised_amount]
    simp only [floorsOf, List.map_cons, List.sum_cons]
    ring

variable {s : RiskState} {reserved : Rat}

/-- What is reserved: the exposures' total, where a reserved request counts with its reservation at
least. -/
theorem reservedRisk_ok :
    reservedRisk p s a = .ok reserved ↔
      Countable p a a.exposures ∧ (∀ entry ∈ s.reservations.entries, entry.2.Valid) ∧
        reserved = flooredTotal Exposure.requestId p.riskOf a.exposures (floorsOf s.reservations.entries) := by
  unfold reservedRisk
  simp only [bind_ok, pure_ok, counted_ok, reserves_ok]
  have amount : ∀ tally : ExposureTally, tally.unlinked + KeyedMap.total tally.byRequest = tally.amount :=
    fun _ => rfl
  have floored : ((s.reservations.entries.foldl ExposureTally.raised
      (a.exposures.foldl (fun tally => tally.including p) {})).amount : Rat) =
        flooredTotal Exposure.requestId p.riskOf a.exposures (floorsOf s.reservations.entries) := by
    rw [reserved_amount s.reservations.nodupKeys, counted_amount]
    simp only [counted_exposed]
    unfold flooredTotal shortfall
    simp [ExposureTally.amount, ExposureTally.exposed, KeyedMap.total]
  constructor
  · rintro ⟨_, ⟨countable, _, rfl⟩, _, ⟨valid, rfl⟩, rfl⟩
    exact ⟨countable, valid, (amount _).trans floored⟩
  · rintro ⟨countable, valid, rfl⟩
    exact ⟨_, ⟨countable, by simp, rfl⟩, _, ⟨valid, rfl⟩, (amount _).trans floored⟩

end

section
variable {Threshold : Type} [LinearOrder Threshold] {levels : List (Threshold × Rat)}

/-- Of levels listed from the last, one that is found later has no smaller value. -/
theorem find_antitone {reversed : List (Threshold × Rat)} {reached reached' : Threshold} (le : reached ≤ reached')
    (falls : reversed.Pairwise fun later earlier => later.2 ≤ earlier.2)
    (found : ∃ level ∈ reversed, level.1 ≤ reached) :
    ((reversed.find? fun level => level.1 ≤ reached').map Prod.snd).getD 0 ≤
      ((reversed.find? fun level => level.1 ≤ reached).map Prod.snd).getD 0 := by
  induction reversed with
  | nil =>
    obtain ⟨_, listed, _⟩ := found
    cases listed
  | cons last rest ih =>
    rw [List.pairwise_cons] at falls
    by_cases passed : last.1 ≤ reached
    · simp [passed, passed.trans le]
    · have inRest : ∃ level ∈ rest, level.1 ≤ reached := by
        obtain ⟨level, listed, under⟩ := found
        rcases List.mem_cons.mp listed with rfl | listed
        · exact absurd under passed
        · exact ⟨level, listed, under⟩
      by_cases passed' : last.1 ≤ reached'
      · simp only [List.find?_cons, passed, passed', decide_false, decide_true]
        cases chosen : rest.find? fun level => level.1 ≤ reached with
        | none =>
          obtain ⟨level, listed, under⟩ := inRest
          exact absurd (decide_eq_true under) (List.find?_eq_none.mp chosen level listed)
        | some level => exact falls.1 level (List.mem_of_find?_eq_some chosen)
      · simp only [List.find?_cons, passed, passed', decide_false]
        exact ih falls.2 inRest

/-- Levels that tighten give no more to who has reached more. -/
theorem levelValue_antitone (tight : tightens levels) {reached reached' : Threshold}
    (first : ∃ first ∈ levels.head?, first.1 ≤ reached) (le : reached ≤ reached') :
    levelValue levels reached' ≤ levelValue levels reached := by
  have falls : levels.reverse.Pairwise fun later earlier => later.2 ≤ earlier.2 := by
    rw [List.pairwise_reverse]
    have chain : levels.IsChain fun earlier later => later.2 ≤ earlier.2 := tight.imp fun _ _ both => both.2
    exact List.isChain_iff_pairwise.mp chain
  obtain ⟨level, listed, under⟩ := first
  exact find_antitone le falls ⟨level, List.mem_reverse.mpr (List.mem_of_head? listed), under⟩

end

/-- The multiplier of the streak and the ceiling under a drawdown fall, from levels that are there. -/
structure RiskPolicy.Tightening (policy : RiskPolicy) : Prop where
  base : 0 < policy.baseRiskPct
  streakFirst : ∃ first ∈ policy.streakBackoff.levels.head?, first.1 = 0
  streak : tightens policy.streakBackoff.levels
  drawdownFirst : ∃ first ∈ policy.drawdownBackoff.levels.head?, first.1 = 0
  drawdown : tightens policy.drawdownBackoff.levels

theorem RiskPolicy.validate_tightening {zones : Zones} {policy : RiskPolicy}
    (valid : policy.validate zones = .ok ()) : policy.Tightening := by
  unfold validate internalBelowFirm at valid
  simp only [bind_ok, ensure_ok, exists_const] at valid
  obtain ⟨_, _, _, _, ⟨base, _⟩, _, _, _, ⟨first, listed, zero, _⟩, ⟨_, streak⟩, drawdownFirst, ⟨_, drawdown⟩,
    _⟩ := valid
  exact ⟨base, ⟨first, listed, zero⟩, streak, drawdownFirst, drawdown⟩

section
variable {policy : RiskPolicy}

theorem streakMultiplier_antitone (falls : policy.Tightening) {losses losses' : Nat} (le : losses ≤ losses') :
    policy.streakMultiplier losses' ≤ policy.streakMultiplier losses := by
  unfold RiskPolicy.streakMultiplier
  split
  · obtain ⟨first, listed, zero⟩ := falls.streakFirst
    exact levelValue_antitone falls.streak ⟨first, listed, zero ▸ Nat.zero_le losses⟩ le
  · exact le_rfl

theorem drawdownRiskPct_antitone (falls : policy.Tightening) {drawdown drawdown' : Rat} (nonneg : 0 ≤ drawdown)
    (le : drawdown ≤ drawdown') : policy.drawdownRiskPct drawdown' ≤ policy.drawdownRiskPct drawdown := by
  unfold RiskPolicy.drawdownRiskPct
  split
  · obtain ⟨first, listed, zero⟩ := falls.drawdownFirst
    exact levelValue_antitone falls.drawdown ⟨first, listed, zero ▸ nonneg⟩ le
  · exact le_rfl

/-- With less equity a loss in percent is no smaller. -/
theorem lossPct_antitone {reference equity equity' drawdown' : Rat} (positive : 0 < reference)
    (le : equity' ≤ equity) (drawn : lossPct reference equity' = .ok drawdown') :
    ∃ drawdown, lossPct reference equity = .ok drawdown ∧ 0 ≤ drawdown ∧ drawdown ≤ drawdown' := by
  obtain ⟨nonzero, rfl⟩ := div_ok.mp drawn
  have deeper : max (reference - equity) 0 ≤ max (reference - equity') 0 := max_le_max_right 0 (by linarith)
  refine ⟨_, div_ok.mpr ⟨nonzero, rfl⟩, ?_, ?_⟩
  · have : 0 ≤ max (reference - equity) 0 := le_max_right _ _
    positivity
  · exact div_le_div_of_nonneg_right (mul_le_mul_of_nonneg_right deeper (by norm_num)) positive.le

end

/-- What a trade may risk at most. -/
def riskBudget (p : RiskPolicy) (a : AccountSnapshot) (t : ProposedTrade) (s : RiskState) (f : Thresholds)
    (reserved drawdown : Rat) : Rat :=
  match riskLimits p a t s f reserved drawdown with
  | first :: others => (smallestLimit first others).1
  | [] => 0

/-- A volume that a calculation comes to, and what it loses. -/
structure Approving (p : RiskPolicy) (a : AccountSnapshot) (t : ProposedTrade) (s : RiskState) (rule : LossRule)
    (volume lost : Rat) (f : Thresholds) (reserved drawdown : Rat) : Prop where
  ruled : rule p s a = .ok f
  floors : 0 < f.riskReference ∧ 0 < f.drawdownReference ∧ 0 < f.dailyReference ∧
    f.firmAccountFloor < f.internalAccountFloor ∧ f.firmDailyFloor < f.internalDailyFloor
  tallied : reservedRisk p s a = .ok reserved
  drawn : lossPct f.drawdownReference a.equity = .ok drawdown
  budget : 0 < riskBudget p a t s f reserved drawdown
  sized : t.volume.size
    (riskBudget p a t s f reserved drawdown / surcharge t.overlapping p.execution.overlapMultiplier) t.estimate
      p.execution.slippageBufferPctOfRisk t.requestedVolume = .ok volume
  priced : t.estimate.loss volume p.execution.slippageBufferPctOfRisk = .ok lost

section
variable {p : RiskPolicy} {a : AccountSnapshot} {t : ProposedTrade} {s : RiskState} {rule : LossRule}
  {decision : RiskDecision}

theorem calculate_approving (calculated : calculate p a t s rule = .ok decision)
    (approved : decision.approved = true) :
    ∃ lost f reserved drawdown, Approving p a t s rule decision.maxVolume lost f reserved drawdown ∧
      decision.allowedRiskAmount = lost * surcharge t.overlapping p.execution.overlapMultiplier := by
  unfold calculate at calculated
  simp only [bind_ok, ensure_ok, exists_const] at calculated
  obtain ⟨f, ruled, floors, reserved, tallied, drawdown, drawn, _, _, calculated⟩ := calculated
  split at calculated
  next first others limited =>
    have budget : riskBudget p a t s f reserved drawdown = (smallestLimit first others).1 := by
      unfold riskBudget
      rw [limited]
    split at calculated
    · cases pure_ok.mp calculated
      cases approved
    next positive =>
      obtain ⟨sizing, divided, calculated⟩ := bind_ok.mp calculated
      obtain ⟨_, rfl⟩ := div_ok.mp divided
      split at calculated
      · cases pure_ok.mp calculated
        cases approved
      next volume sized =>
        simp only [bind_ok, pure_ok] at calculated
        obtain ⟨lost, known, _, _, rfl⟩ := calculated
        exact ⟨lost, f, reserved, drawdown, ⟨ruled, floors, tallied, drawn, budget ▸ not_le.mp positive,
          budget ▸ sized, known⟩, rfl⟩
  next none =>
    cases none

theorem Approving.calculates {f : Thresholds} {volume lost reserved drawdown : Rat} (sound : p.Sound)
    (approving : Approving p a t s rule volume lost f reserved drawdown) :
    ∃ decision, calculate p a t s rule = .ok decision ∧ decision.approved = true ∧
      decision.maxVolume = volume ∧
      decision.allowedRiskAmount = lost * surcharge t.overlapping p.execution.overlapMultiplier := by
  obtain ⟨risk, reference, daily, _, _⟩ := approving.floors
  have scaled := surcharge_pos sound t.overlapping
  have budget := approving.budget
  have sized := approving.sized
  have lossOfDay : lossPct f.dailyReference a.equity = .ok (max (f.dailyReference - a.equity) 0 * 100 /
      f.dailyReference) := div_ok.mpr ⟨daily.ne', rfl⟩
  have divided : ∀ amount : Rat, div amount (surcharge t.overlapping p.execution.overlapMultiplier) =
      .ok (amount / surcharge t.overlapping p.execution.overlapMultiplier) :=
    fun _ => div_ok.mpr ⟨scaled.ne', rfl⟩
  have shared : ∀ amount : Rat, div amount f.riskReference = .ok (amount / f.riskReference) :=
    fun _ => div_ok.mpr ⟨risk.ne', rfl⟩
  unfold riskBudget at budget sized
  generalize limited : riskLimits p a t s f reserved drawdown = limits at budget sized
  cases limits with
  | nil => cases limited
  | cons first others =>
    dsimp only at budget sized
    refine ⟨{
      approved := true
      allowedRiskPct := lost * surcharge t.overlapping p.execution.overlapMultiplier * 100 / f.riskReference
      allowedRiskAmount := lost * surcharge t.overlapping p.execution.overlapMultiplier
      maxVolume := volume
      limitingPolicy := (smallestLimit first others).2
      reasons := ((first :: others).filter fun limit => limit.1 = (smallestLimit first others).1).map Prod.snd
      reservedExposure := reserved
      drawdownPct := drawdown
      dailyLossPct := max (f.dailyReference - a.equity) 0 * 100 / f.dailyReference
      dailyRemaining := max (a.equity - f.internalDailyFloor - reserved) 0 }, ?_, rfl, rfl, rfl⟩
    unfold calculate
    simp only [bind_ok, ensure_ok, exists_const]
    refine ⟨f, approving.ruled, approving.floors, reserved, approving.tallied, drawdown, approving.drawn, _,
      lossOfDay, ?_⟩
    rw [limited]
    dsimp only
    rw [if_neg (not_le.mpr budget), divided]
    refine bind_ok.mpr ⟨_, rfl, ?_⟩
    rw [sized]
    dsimp only
    rw [approving.priced]
    refine bind_ok.mpr ⟨_, rfl, bind_ok.mpr ⟨_, shared _, ?_⟩⟩
    exact pure_ok.mpr rfl

end

/-- A state and a snapshot that differ from others in no fewer losses in a row, no more equity, and
reservations and exposures that include theirs. -/
structure WorsePosition (s s' : RiskState) (a a' : AccountSnapshot) : Prop where
  state : s' = { s with consecutiveLosses := s'.consecutiveLosses, reservations := s'.reservations }
  snapshot : a' = { a with equity := a'.equity, exposures := a'.exposures }
  losses : s.consecutiveLosses ≤ s'.consecutiveLosses
  equity : a'.equity ≤ a.equity
  reservations : ∀ id, ∀ reservation ∈ s.reservations.lookup id, reservation ∈ s'.reservations.lookup id
  exposures : a.exposures ⊆ a'.exposures

section
variable {p : RiskPolicy} {a a' : AccountSnapshot} {t : ProposedTrade} {s s' : RiskState}

/-- The chosen limit is one of the limits. -/
theorem smallestLimit_mem (first : Rat × RiskLimitReason) (others : List (Rat × RiskLimitReason)) :
    smallestLimit first others ∈ first :: others := by
  unfold smallestLimit
  induction others generalizing first with
  | nil => exact List.mem_cons_self
  | cons next rest ih =>
    rw [List.foldl_cons]
    split
    · exact List.mem_cons_of_mem _ (ih next)
    · rcases List.mem_cons.mp (ih first) with same | later
      · rw [same]
        exact List.mem_cons_self
      · exact List.mem_cons_of_mem _ (List.mem_cons_of_mem _ later)

/-- Ceilings that are each no higher leave no more to risk. -/
theorem riskBudget_mono {f : Thresholds} {reserved reserved' drawdown drawdown' : Rat}
    (lower : ∀ limit ∈ riskLimits p a t s f reserved drawdown,
      ∃ limit' ∈ riskLimits p a' t s' f reserved' drawdown', limit'.1 ≤ limit.1) :
    riskBudget p a' t s' f reserved' drawdown' ≤ riskBudget p a t s f reserved drawdown := by
  unfold riskBudget
  generalize full : riskLimits p a t s f reserved drawdown = limits at lower ⊢
  generalize limited : riskLimits p a' t s' f reserved' drawdown' = limits' at lower ⊢
  cases limits' with
  | nil => cases limited
  | cons first' others' =>
    cases limits with
    | nil => cases full
    | cons first others =>
      obtain ⟨limit', listed, below⟩ := lower _ (smallestLimit_mem first others)
      exact (smallestLimit_le first' others' limit' listed).trans below

/-- What a worse position counts as reserved is no less. -/
theorem WorsePosition.reserved (worse : WorsePosition s s' a a') (sound : p.Sound)
    (distinct : (a.exposures.map Exposure.brokerId).Nodup) {reserved' : Rat}
    (tallied : reservedRisk p s' a' = .ok reserved') :
    ∃ reserved, reservedRisk p s a = .ok reserved ∧ reserved ≤ reserved' := by
  obtain ⟨countable, valid, rfl⟩ := reservedRisk_ok.mp tallied
  have entries : s.reservations.entries ⊆ s'.reservations.entries := by
    rintro ⟨id, reservation⟩ listed
    exact AList.mem_lookup_iff.mp (worse.reservations id reservation (AList.mem_lookup_iff.mpr listed))
  have resolved : a'.resolvedRequests = a.resolvedRequests := by
    rw [worse.snapshot]
  refine ⟨_, reservedRisk_ok.mpr ⟨⟨distinct, ?_, ?_⟩, ?_, rfl⟩, ?_⟩
  · exact fun exposure listed => countable.priced exposure (worse.exposures listed)
  · exact fun exposure listed id own => resolved ▸ countable.unresolved exposure (worse.exposures listed) id own
  · exact fun entry listed => valid entry (entries listed)
  · have distinctKeys : (floorsOf s'.reservations.entries).map Prod.fst |>.Nodup := by
      rw [floorsOf_keys]
      exact s'.reservations.nodupKeys
    refine flooredTotal_mono (fun exposure _ => riskOf_nonneg sound exposure) distinctKeys ?_ ?_
    · exact List.subperm_of_subset (distinct.of_map _) worse.exposures
    · obtain ⟨some_, same, sub⟩ := List.subperm_of_subset s.reservations.nodupKeys.nodup entries
      exact ⟨floorsOf some_, same.map _, sub.map _⟩

/-- The standard rule's thresholds do not look at what makes the position worse. -/
theorem WorsePosition.thresholds (worse : WorsePosition s s' a a')
    (equity : a.equity ≤ a.equityHigh) : standardLossRule p s' a' = standardLossRule p s a := by
  have reference : drawdownReferenceOf p s' a' = drawdownReferenceOf p s a := by
    rw [worse.state, worse.snapshot]
    unfold drawdownReferenceOf
    cases p.drawdownReference with
    | staticInitialBalance => rfl
    | trailingBalance => rfl
    | trailingEquity =>
      dsimp only
      rw [max_assoc, max_assoc, max_eq_left equity, max_eq_left (worse.equity.trans equity)]
  have allowance : lossAllowance p s' a' = lossAllowance p s a := by
    unfold lossAllowance
    rw [reference, worse.state]
  have daily : dailyReferenceOf p s' = dailyReferenceOf p s := by
    rw [worse.state]
    rfl
  have initial : s'.initialBalance = s.initialBalance := by
    rw [worse.state]
  unfold standardLossRule
  rw [reference, allowance, daily, initial]

theorem WorsePosition.calculates (worse : WorsePosition s s' a a') (sound : p.Sound) (falls : p.Tightening)
    (equity : a.equity ≤ a.equityHigh) (distinct : (a.exposures.map Exposure.brokerId).Nodup)
    {decision' : RiskDecision} (calculated : calculate p a' t s' standardLossRule = .ok decision')
    (approved : decision'.approved = true) :
    ∃ decision, calculate p a t s standardLossRule = .ok decision ∧ decision.approved = true ∧
      decision'.maxVolume ≤ decision.maxVolume ∧ decision'.allowedRiskAmount ≤ decision.allowedRiskAmount := by
  obtain ⟨lost', f, reserved', drawdown', approving, amount'⟩ := calculate_approving calculated approved
  obtain ⟨risk, reference, _, _, _⟩ := approving.floors
  obtain ⟨reserved, tallied, reservedLe⟩ := worse.reserved sound distinct approving.tallied
  obtain ⟨drawdown, drawn, nonneg, drawdownLe⟩ := lossPct_antitone reference worse.equity approving.drawn
  have scaled := surcharge_pos sound t.overlapping
  have budget : riskBudget p a' t s' f reserved' drawdown' ≤ riskBudget p a t s f reserved drawdown := by
    have streak := streakMultiplier_antitone falls worse.losses
    have ceiling := drawdownRiskPct_antitone falls nonneg drawdownLe
    have less := worse.equity
    have base : 0 ≤ pct f.riskReference p.baseRiskPct := by
      have := falls.base
      unfold pct
      positivity
    have room : ∀ floor : Rat, max (a'.equity - floor - reserved') 0 ≤ max (a.equity - floor - reserved) 0 :=
      fun floor => max_le_max_right 0 (by linarith)
    refine riskBudget_mono fun limit listed => ?_
    simp only [riskLimits, List.mem_cons, List.not_mem_nil, or_false] at listed
    rcases listed with rfl | rfl | rfl | rfl | rfl
    · exact ⟨_, List.mem_cons_self, le_rfl⟩
    · exact ⟨_, List.mem_cons_of_mem _ List.mem_cons_self, mul_le_mul_of_nonneg_left streak base⟩
    · refine ⟨_, List.mem_cons_of_mem _ (List.mem_cons_of_mem _ List.mem_cons_self), ?_⟩
      exact div_le_div_of_nonneg_right (mul_le_mul_of_nonneg_left ceiling risk.le) (by norm_num)
    · exact ⟨(_, .dailyBudget), by simp [riskLimits], room f.internalDailyFloor⟩
    · exact ⟨(_, .accountBudget), by simp [riskLimits], room f.internalAccountFloor⟩
  obtain ⟨volume, sized, volumeLe⟩ :=
    size_mono sound.slippage (div_le_div_of_nonneg_right budget scaled.le) approving.sized
  obtain ⟨_, unit, known, rfl⟩ := LossEstimate.loss_eq approving.priced
  have traded := (VolumeLimits.size_spec sized).1
  have priced := LossEstimate.loss_known traded.le known
  obtain ⟨decision, calculates, approves, volumeSame, amount⟩ := Approving.calculates sound
    ⟨(worse.thresholds equity).symm.trans approving.ruled, approving.floors, tallied, drawn,
      approving.budget.trans_le budget, sized, priced⟩
  refine ⟨decision, calculates, approves, volumeSame ▸ volumeLe, ?_⟩
  rw [amount, amount']
  exact mul_le_mul_of_nonneg_right (LossEstimate.loss_mono sound.slippage volumeLe approving.priced priced) scaled.le

/-- The checks a trade passes before it is sized. -/
structure Gated (zones : Zones) (p : RiskPolicy) (a : AccountSnapshot) (t : ProposedTrade) (s : RiskState)
    (now : Int) : Prop where
  policy : ¬(p.validate zones ≠ .ok () ∨ p ≠ s.policy)
  connected : ¬(!a.connected) = true
  fresh : ¬(¬fresh now a.observedAt p.execution.maxDataAgeSeconds ∨
    ¬fresh now a.quoteAt p.execution.maxDataAgeSeconds)
  reconciled : ¬(s.needsReconciliation ∨ validateSnapshot zones p s a now ≠ .ok () ∨
    s.day ≠ a.dayReference ∨ s.lastSequence ≠ some a.sequence ∨ s.lastReconciledAt ≠ some a.observedAt)
  accountOpen : ¬s.accountLocked = true
  dailyOpen : ¬s.dailyLocked = true
  unattempted : t.requestId ∉ s.attemptedRequests
  tradeable : ¬(t.setupId ∈ s.outcomes ∨ t.instrumentId = "" ∨ t.requestId = "" ∨ t.setupId = "" ∨
    t.strategyId = "" ∨ t.requestedRisk ≤ 0 ∨ t.estimate.isOpenPosition)

theorem evaluateTrade_gated {zones : Zones} {now : Int} {rule : LossRule}
    (approved : (evaluateTrade zones p a t s rule now).approved = true) : Gated zones p a t s now := by
  generalize decided : evaluateTrade zones p a t s rule now = decision at approved
  have stopped : ∀ {reason}, .blocked reason = decision → False := by
    rintro reason rfl
    cases approved
  unfold evaluateTrade at decided
  split at decided
  · exact (stopped decided).elim
  next policy =>
  split at decided
  · exact (stopped decided).elim
  next connected =>
  split at decided
  · exact (stopped decided).elim
  next fresh =>
  split at decided
  · exact (stopped decided).elim
  next reconciled =>
  split at decided
  · exact (stopped decided).elim
  next accountOpen =>
  split at decided
  · exact (stopped decided).elim
  next dailyOpen =>
  split at decided
  · exact (stopped decided).elim
  next unattempted =>
  split at decided
  · exact (stopped decided).elim
  next tradeable =>
  exact ⟨policy, connected, fresh, reconciled, accountOpen, dailyOpen, unattempted, tradeable⟩

theorem Gated.evaluates {zones : Zones} {now : Int} {rule : LossRule} {decision : RiskDecision}
    (gated : Gated zones p a t s now) (calculated : calculate p a t s rule = .ok decision) :
    evaluateTrade zones p a t s rule now = decision := by
  unfold evaluateTrade
  rw [if_neg gated.policy, if_neg gated.connected, if_neg gated.fresh, if_neg gated.reconciled,
    if_neg gated.accountOpen, if_neg gated.dailyOpen, if_neg gated.unattempted, if_neg gated.tradeable, calculated]

theorem WorsePosition.gated {zones : Zones} {now : Int} (worse : WorsePosition s s' a a')
    (valid : validateSnapshot zones p s a now = .ok ()) (gated : Gated zones p a' t s' now) :
    Gated zones p a t s now := by
  obtain ⟨losses, reservations, rfl⟩ : ∃ losses reservations,
      s' = { s with consecutiveLosses := losses, reservations } := ⟨_, _, worse.state⟩
  obtain ⟨equity, exposures, rfl⟩ : ∃ equity exposures, a' = { a with equity, exposures } :=
    ⟨_, _, worse.snapshot⟩
  have view := gated.reconciled
  simp only [not_or, not_not] at view
  obtain ⟨reconciled, _, day, sequence, observed⟩ := view
  refine ⟨gated.policy, gated.connected, gated.fresh, ?_, gated.accountOpen, gated.dailyOpen,
    gated.unattempted, gated.tradeable⟩
  simp only [not_or, not_not]
  exact ⟨reconciled, valid, day, sequence, observed⟩

/-- What is approved in a worse position is approved in the better one, with a volume and an amount at
least as large. -/
theorem evaluateTrade_backsOff {zones : Zones} {now : Int} (worse : WorsePosition s s' a a')
    (valid : validateSnapshot zones p s a now = .ok ())
    (distinct : (a.exposures.map Exposure.brokerId).Nodup)
    (approved : (evaluateTrade zones p a' t s' standardLossRule now).approved = true) :
    (evaluateTrade zones p a t s standardLossRule now).approved = true ∧
      (evaluateTrade zones p a' t s' standardLossRule now).maxVolume ≤
        (evaluateTrade zones p a t s standardLossRule now).maxVolume ∧
      (evaluateTrade zones p a' t s' standardLossRule now).allowedRiskAmount ≤
        (evaluateTrade zones p a t s standardLossRule now).allowedRiskAmount := by
  have gated := evaluateTrade_gated approved
  have admitted := evaluateTrade_admitted approved
  have policy := gated.policy
  simp only [not_or, not_not] at policy
  have falls := RiskPolicy.validate_tightening policy.1
  have equity : a.equity ≤ a.equityHigh := by
    unfold validateSnapshot at valid
    simp only [bind_ok, ensure_ok, exists_const] at valid
    exact valid.2.2.1.2.2.2
  obtain ⟨decision, calculates, approves, volume, amount⟩ :=
    worse.calculates admitted.sound falls equity distinct admitted.calculated approved
  rw [(worse.gated valid gated).evaluates calculates]
  exact ⟨approves, volume, amount⟩

end

/-- The enrolled account after a reconciliation at noon. -/
def reconciledState : RiskState :=
  { enrolledState with
    needsReconciliation := false, lastSequence := some 1, lastReconciledAt := some (noonOf 0) }

/-- The account after a loss, with a request reserved and a position beside it. -/
def losingState : RiskState :=
  { reconciledState with
    consecutiveLosses := 1
    reservations := AList.singleton "r0"
      { requestId := "r0", setupId := "s0", risk := 20, volume := 20, createdAt := noonOf 0, submitted := true } }

def losingSnapshot : AccountSnapshot :=
  { flatSnapshot 0 with
    equity := 9950
    exposures := [
      { brokerId := "b0", requestId := some "r0", volume := 10, estimate := (hundredTrade "r0").estimate,
        overlapping := false }] }

theorem losing_worse : WorsePosition reconciledState losingState (flatSnapshot 0) losingSnapshot where
  state := rfl
  snapshot := rfl
  losses := Nat.zero_le 1
  equity := by decide +kernel
  reservations := fun _ _ listed => by cases listed
  exposures := List.nil_subset _

theorem evaluateTrade_backsOff_afterLoss :
    0 < (evaluateTrade utcZones {} losingSnapshot (hundredTrade "r1") losingState standardLossRule
        (noonOf 0)).maxVolume ∧
      (evaluateTrade utcZones {} losingSnapshot (hundredTrade "r1") losingState standardLossRule
        (noonOf 0)).maxVolume ≤
        (evaluateTrade utcZones {} (flatSnapshot 0) (hundredTrade "r1") reconciledState standardLossRule
          (noonOf 0)).maxVolume :=
  ⟨by decide +kernel,
    (evaluateTrade_backsOff losing_worse (by decide +kernel) List.nodup_nil (by decide +kernel)).2.1⟩

end TradeControl.AdaptiveRisk
