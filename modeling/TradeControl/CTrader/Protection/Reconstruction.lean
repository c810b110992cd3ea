import Mathlib.Algebra.BigOperators.Group.List.Lemmas
import Mathlib.Data.List.DropRight
import Mathlib.Order.Bounds.Basic
import Mathlib.Tactic.Linarith
import TradeControl.AdaptiveRisk.Sessions
import TradeControl.CTrader.Protection.DealAttribution
import TradeControl.CTrader.Protection.History
import TradeControl.Foundation.Loops

namespace TradeControl.CTrader.Protection

open Foundation AdaptiveRisk

section
variable (p : PropAccount) (zones : Zones)

def PropAccount.balanceAfter (events : List Execution) : Rat := p.initialBalance + (events.map Execution.netPnl).sum

/-- The highest balance that the events lead through. -/
def PropAccount.IsHigh (events : List Execution) (high : Rat) : Prop :=
  IsGreatest { balance | ∃ before, before <+: events ∧ balance = p.balanceAfter before } high

def PropAccount.dayOf (event : Execution) : Option TradingDay := (p.risk.calendar.dayAt zones event.occurredAt).toOption

/-- The balance with which the day of an event began. -/
def PropAccount.dayOpening (before : List Execution) (day : Option TradingDay) : Rat :=
  p.balanceAfter (before.rdropWhile fun event => p.dayOf zones event = day)

/-- At an event the balance is at or below a floor on the account. -/
def PropAccount.AtAccountFloor (floor : Rat → Rat) (before : List Execution) (event : Execution) : Prop :=
  ∃ high, p.IsHigh (before ++ [event]) high ∧ p.balanceAfter (before ++ [event]) ≤ floor high

/-- At an event of a day the balance is at or below a floor on the day. -/
def PropAccount.AtDailyFloor (floor : Rat → Rat) (start : Int) (before : List Execution) (event : Execution) : Prop :=
  ∃ day, p.dayOf zones event = some day ∧ day.start = start ∧
    p.balanceAfter (before ++ [event]) ≤ floor (p.dayOpening zones before (some day))

/-- What the broker states of the balance at an event's deal is the balance there. -/
def PropAccount.Checked (deals : List Json) (before : List Execution) (event : Execution) : Prop :=
  ∃ id, parseI64 event.eventId = some id ∧ ∀ deal detail, deals.find? (fun deal => dealId deal = some id) = some deal →
    closeDetail deal = some detail → money detail "balance" = .ok (p.balanceAfter (before ++ [event]))

/-- What the path knows after some events. -/
structure PathAfter (deals : List Json) (boundary : Int) (events : List Execution) (path : BalancePath) : Prop where
  balance : path.balance = p.balanceAfter events
  high : p.IsHigh events path.high
  atBoundary : path.boundaryBalance = p.balanceAfter (events.filter fun event => event.occurredAt < boundary)
  day : ∀ event ∈ events.getLast?, p.dayOf zones event = some path.historicalDay
  reference : path.dailyReference = p.dayOpening zones events (some path.historicalDay)
  account : path.accountBreached = true ↔ SomeStep (p.AtAccountFloor p.accountFloor) events
  daily : ∀ start, start ∈ path.dailyBreached ↔ SomeStep (p.AtDailyFloor zones p.dailyFloor start) events
  checked : EachStep (p.Checked deals) events

end

section
variable {p : PropAccount} {zones : Zones} {events : List Execution} {event : Execution}

theorem PropAccount.balanceAfter_snoc : p.balanceAfter (events ++ [event]) = p.balanceAfter events + event.netPnl := by
  unfold balanceAfter
  rw [List.map_append, List.sum_append, List.map_singleton, List.sum_singleton, add_assoc]

/-- An event of a day does not change what the day began with. -/
theorem PropAccount.dayOpening_snoc {day : Option TradingDay} (own : p.dayOf zones event = day) :
    p.dayOpening zones (events ++ [event]) day = p.dayOpening zones events day := by
  unfold dayOpening
  rw [List.rdropWhile_concat_pos]
  exact decide_eq_true own

theorem PropAccount.isHigh_nil : p.IsHigh [] p.initialBalance := by
  constructor
  · exact ⟨[], List.nil_prefix, by simp [balanceAfter]⟩
  · rintro balance ⟨before, begun, rfl⟩
    rw [List.prefix_nil.mp begun]
    simp [balanceAfter]

theorem PropAccount.IsHigh.snoc {high : Rat} (isHigh : p.IsHigh events high) :
    p.IsHigh (events ++ [event]) (max high (p.balanceAfter (events ++ [event]))) := by
  constructor
  · rcases max_choice high (p.balanceAfter (events ++ [event])) with same | same
    · obtain ⟨before, begun, balance⟩ := isHigh.1
      exact ⟨before, begun.trans (List.prefix_append _ _), same.trans balance⟩
    · exact ⟨events ++ [event], List.prefix_rfl, same⟩
  · rintro balance ⟨before, begun, rfl⟩
    rcases List.prefix_concat_iff.mp begun with rfl | earlier
    · exact le_max_right _ _
    · exact (isHigh.2 ⟨before, earlier, rfl⟩).trans (le_max_left _ _)

theorem PropAccount.IsHigh.unique {high high' : Rat} (isHigh : p.IsHigh events high) (isHigh' : p.IsHigh events high') :
    high = high' :=
  IsGreatest.unique isHigh isHigh'

/-- The day of an event after others began with the balance before it, or with theirs if it is their day. -/
theorem PathAfter.opening {deals : List Json} {boundary : Int} {path : BalancePath}
    (after : PathAfter p zones deals boundary events path) (day : TradingDay) :
    (if day ≠ path.historicalDay then path.balance else path.dailyReference) = p.dayOpening zones events (some day) := by
  split
  next other =>
    unfold PropAccount.dayOpening
    rw [after.balance]
    rcases List.eq_nil_or_concat' events with rfl | ⟨earlier, last, rfl⟩
    · simp
    · have own := after.day last (by simp)
      rw [List.rdropWhile_concat_neg]
      simpa [own] using other.symm
  next same =>
    rw [not_not.mp same, after.reference]

theorem checkpoint_ok {deals : List Json} {id : Int} {balance actual : Rat}
    (read : checkpoint deals id balance = .ok actual) :
    actual = balance ∧ ∀ deal detail, deals.find? (fun deal => dealId deal = some id) = some deal →
      closeDetail deal = some detail → money detail "balance" = .ok balance := by
  unfold checkpoint at read
  split at read
  next detail found =>
    simp only [bind_ok, ensure_ok, pure_ok, exists_const] at read
    obtain ⟨stated, own, rfl, rfl⟩ := read
    refine ⟨rfl, fun deal detail' named closing => ?_⟩
    rw [named, Option.bind_some, closing] at found
    cases found
    exact own
  next none_ =>
    cases read
    refine ⟨rfl, fun deal detail named closing => ?_⟩
    rw [named, Option.bind_some, closing] at none_
    cases none_

/-- What an event that is taken adds. -/
theorem PathAfter.snoc {deals : List Json} {boundary : Int} {path path' : BalancePath}
    (after : PathAfter p zones deals boundary events path) (sorted : ∀ earlier ∈ events, InBrokerOrder earlier event)
    (taken : takeEvent p zones deals boundary path event = .ok path') :
    PathAfter p zones deals boundary (events ++ [event]) path' := by
  unfold takeEvent at taken
  simp only [bind_ok, required_ok, pure_ok] at taken
  obtain ⟨day, known, id, parsed, actual, stated, rfl⟩ := taken
  obtain ⟨rfl, checked⟩ := checkpoint_ok stated
  have balance : path.balance + event.netPnl = p.balanceAfter (events ++ [event]) := by
    rw [PropAccount.balanceAfter_snoc, after.balance]
  have own : p.dayOf zones event = some day := by
    unfold PropAccount.dayOf
    rw [known]
    rfl
  have opening := after.opening day
  have isHigh : p.IsHigh (events ++ [event]) (max path.high (path.balance + event.netPnl)) := by
    rw [balance]
    exact after.high.snoc
  exact {
    balance
    high := by
      change p.IsHigh _ (max (max path.high (path.balance + event.netPnl)) (path.balance + event.netPnl))
      rw [max_eq_left (le_max_right _ _)]
      exact isHigh
    atBoundary := by
      change (if event.occurredAt < boundary then _ else _) = _
      rw [List.filter_append]
      split
      next before =>
        have all : events.filter (fun event => event.occurredAt < boundary) = events := by
          refine List.filter_eq_self.mpr fun earlier listed => decide_eq_true ?_
          rcases sorted earlier listed with less | ⟨same, -⟩
          · exact less.trans before
          · rwa [same]
        rw [all, List.filter_singleton, decide_eq_true before]
        exact balance
      next late =>
        rw [List.filter_singleton, decide_eq_false late, after.atBoundary]
        simp
    day := by
      intro last listed
      rw [List.getLast?_concat] at listed
      cases listed
      exact own
    reference := by
      change (if day ≠ path.historicalDay then path.balance else path.dailyReference) =
        p.dayOpening zones (events ++ [event]) (some day)
      rw [opening, PropAccount.dayOpening_snoc own]
    account := by
      rw [someStep_snoc, ← after.account]
      change (path.accountBreached || decide (path.balance + event.netPnl ≤
        p.accountFloor (max path.high (path.balance + event.netPnl)))) = true ↔ _
      rw [Bool.or_eq_true, decide_eq_true_iff]
      refine or_congr_right ⟨fun below => ⟨_, isHigh, balance ▸ below⟩, ?_⟩
      rintro ⟨high, isHigh', below⟩
      rw [isHigh.unique isHigh', balance]
      exact below
    daily := by
      intro start
      rw [someStep_snoc, ← after.daily start]
      change start ∈ (if path.balance + event.netPnl ≤
        p.dailyFloor (if day ≠ path.historicalDay then path.balance else path.dailyReference)
        then insert day.start path.dailyBreached else path.dailyBreached) ↔ _
      rw [opening, balance]
      have here : p.AtDailyFloor zones p.dailyFloor start events event ↔
          day.start = start ∧ p.balanceAfter (events ++ [event]) ≤ p.dailyFloor (p.dayOpening zones events (some day)) := by
        constructor
        · rintro ⟨day', own', begins, below⟩
          cases own.symm.trans own'
          exact ⟨begins, below⟩
        · exact fun ⟨begins, below⟩ => ⟨day, own, begins, below⟩
      rw [here]
      split
      next below =>
        rw [Finset.mem_insert]
        exact ⟨fun either => either.elim (fun same => .inr ⟨same.symm, below⟩) .inl,
          fun either => either.elim .inr fun both => .inl both.1.symm⟩
      next above => exact ⟨.inl, fun either => either.resolve_right fun both => above both.2⟩
    checked := eachStep_snoc.mpr ⟨after.checked, id, parsed, fun deal detail found closing =>
      balance ▸ checked deal detail found closing⟩ }

theorem foldlM_takeEvent {deals : List Json} {boundary : Int} {day : TradingDay} {path : BalancePath}
    (sorted : events.Pairwise InBrokerOrder)
    (run : events.foldlM (takeEvent p zones deals boundary) {
      balance := p.initialBalance
      high := p.initialBalance
      boundaryBalance := p.initialBalance
      historicalDay := day
      dailyReference := p.initialBalance } = .ok path) : PathAfter p zones deals boundary events path := by
  induction events using List.reverseRecOn generalizing path with
  | nil =>
    cases run
    exact {
      balance := by simp [PropAccount.balanceAfter]
      high := PropAccount.isHigh_nil
      atBoundary := by simp [PropAccount.balanceAfter]
      day := fun _ none_ => nomatch none_
      reference := by simp [PropAccount.dayOpening, PropAccount.balanceAfter]
      account := ⟨fun no => (nomatch no), fun some_ => absurd some_ not_someStep_nil⟩
      daily := fun start => ⟨fun no => absurd no (Finset.notMem_empty _), fun some_ => absurd some_ not_someStep_nil⟩
      checked := eachStep_nil }
  | append_singleton earlier event ih =>
    rw [List.foldlM_append, bind_ok] at run
    obtain ⟨middle, before, last⟩ := run
    rw [List.foldlM_cons, bind_ok] at last
    obtain ⟨path', taken, same⟩ := last
    cases same
    obtain ⟨sorted', -, across⟩ := List.pairwise_append.mp sorted
    exact (ih sorted' before).snoc (fun other listed => across other listed event List.mem_cons_self) taken

end

section
variable (p : PropAccount) (zones : Zones)

/-- A state and a snapshot that hold the references of a balance path. -/
structure PropAccount.References (high daily : Rat) (state : RiskState) (snapshot : AccountSnapshot) : Prop where
  initial : state.initialBalance = p.initialBalance
  drawdown : p.risk.drawdownReference ≠ .staticInitialBalance → drawdownReferenceOf p.risk state snapshot = high
  daily : dailyReferenceOf p.risk state = daily

/-- At an event the balance is at or below the internal account floor of the loss rule. -/
def PropAccount.AtRuledAccountFloor (before : List Execution) (event : Execution) : Prop :=
  ∃ high daily state snapshot thresholds, p.IsHigh (before ++ [event]) high ∧ p.References high daily state snapshot ∧
    standardLossRule p.risk state snapshot = .ok thresholds ∧
    p.balanceAfter (before ++ [event]) ≤ thresholds.internalAccountFloor

/-- At an event of a day the balance is at or below the internal daily floor of the loss rule. -/
def PropAccount.AtRuledDailyFloor (start : Int) (before : List Execution) (event : Execution) : Prop :=
  ∃ day high state snapshot thresholds, p.dayOf zones event = some day ∧ day.start = start ∧
    p.References high (p.dayOpening zones before (some day)) state snapshot ∧
    standardLossRule p.risk state snapshot = .ok thresholds ∧
    p.balanceAfter (before ++ [event]) ≤ thresholds.internalDailyFloor

/-- The day of an event, if it is the one that starts then, began with a balance that was not negative. -/
def PropAccount.OpenedSolvent (start : Int) (before : List Execution) (event : Execution) : Prop :=
  ∀ day, p.dayOf zones event = some day → day.start = start → 0 ≤ p.dayOpening zones before (some day)

/-- What a ledger that is read from deals and orders says. -/
structure Reconstructed (deals orders : List Json) (boundary : Int) (ledger : Ledger) : Prop where
  sorted : ledger.events.Pairwise InBrokerOrder
  checkpoints : ∀ deal ∈ deals, isFilled deal → ∀ detail, closeDetail deal = some detail →
    ∃ id before event after, ledger.events = before ++ event :: after ∧
      ReadOf p ledger.requestSetups ledger.positionRequests deal id event ∧
      money detail "balance" = .ok (p.balanceAfter (before ++ [event]))
  events : ∀ event ∈ ledger.events, ∃ deal ∈ deals, isFilled deal ∧
    ∃ id, ReadOf p ledger.requestSetups ledger.positionRequests deal id event
  high : p.IsHigh ledger.events ledger.high
  atBoundary : ledger.boundaryBalance = p.balanceAfter (ledger.events.filter fun event => event.occurredAt < boundary)
  account : ledger.accountBreached = true ↔ SomeStep p.AtRuledAccountFloor ledger.events
  daily : ∀ start, EachStep (p.OpenedSolvent zones start) ledger.events →
    (start ∈ ledger.dailyBreached ↔ SomeStep (p.AtRuledDailyFloor zones start) ledger.events)
  attributed : ∀ deal ∈ openings deals, ∃ pos request, openingRequest orders ledger.requestSetups deal = .ok (pos, request) ∧
    ledger.positionRequests pos = some request

end

section
variable {p : PropAccount} {zones : Zones} {deals deals' orders orders' : List Json} {boundary : Int} {ledger : Ledger}

/-- Where a margin comes before a limit, the floor of the margin is the higher one. -/
theorem floor_max {reference allowance internal buffer firm : Rat} (before : internal + buffer < firm)
    (positive : 0 ≤ allowance) :
    max (reference - pct allowance internal) (reference - pct allowance firm + pct allowance buffer) =
      reference - allowance * internal / 100 := by
  unfold pct
  refine max_eq_left ?_
  have scaled : allowance * (internal + buffer) ≤ allowance * firm := mul_le_mul_of_nonneg_left before.le positive
  rw [mul_add] at scaled
  linarith

/-- What the account's drawdown is measured from. -/
def PropAccount.drawdownBase (p : PropAccount) (high : Rat) : Rat :=
  match p.risk.drawdownReference with
  | .staticInitialBalance => p.initialBalance
  | _ => high

theorem PropAccount.ruledAccountFloor {high daily : Rat} {state : RiskState} {snapshot : AccountSnapshot}
    {thresholds : Thresholds} (sound : p.risk.Sound) (initial : 0 ≤ p.initialBalance) (highest : p.initialBalance ≤ high)
    (references : p.References high daily state snapshot)
    (ruled : standardLossRule p.risk state snapshot = .ok thresholds) :
    thresholds.internalAccountFloor = p.accountFloor high := by
  cases ruled
  have positive : 0 ≤ high := initial.trans highest
  have reference : drawdownReferenceOf p.risk state snapshot = p.drawdownBase high := by
    unfold drawdownBase
    cases kind : p.risk.drawdownReference with
    | staticInitialBalance =>
      unfold drawdownReferenceOf
      rw [kind]
      exact references.initial
    | trailingBalance => exact references.drawdown (by rw [kind]; decide)
    | trailingEquity => exact references.drawdown (by rw [kind]; decide)
  have nonneg : 0 ≤ lossAllowance p.risk state snapshot := by
    unfold lossAllowance
    split
    · rw [reference, drawdownBase]
      split
      · exact initial
      · exact positive
    · rw [references.initial]
      exact initial
  change max (drawdownReferenceOf p.risk state snapshot - pct (lossAllowance p.risk state snapshot) _) _ = _
  rw [floor_max sound.account nonneg]
  unfold accountFloor lossAllowance
  rewrite [reference, references.initial]
  rfl

theorem PropAccount.ruledDailyFloor {high daily : Rat} {state : RiskState} {snapshot : AccountSnapshot}
    {thresholds : Thresholds} (sound : p.risk.Sound) (solvent : 0 ≤ daily)
    (references : p.References high daily state snapshot)
    (ruled : standardLossRule p.risk state snapshot = .ok thresholds) :
    thresholds.internalDailyFloor = p.dailyFloor daily := by
  cases ruled
  have nonneg : 0 ≤ dailyReferenceOf p.risk state := by
    rw [references.daily]
    exact solvent
  change max (dailyReferenceOf p.risk state - pct (dailyReferenceOf p.risk state) _) _ = _
  rw [floor_max sound.daily nonneg, references.daily]
  rfl

/-- There are a state and a snapshot for any references. -/
theorem PropAccount.exists_references (p : PropAccount) (high daily : Rat) :
    ∃ state snapshot, p.References high daily state snapshot := by
  refine ⟨{ accountId := "", policy := p.risk, initialBalance := p.initialBalance, balanceHigh := high, equityHigh := high,
            day := { day := { start := 0, ending := 0 }, balance := daily, equity := daily } },
    { accountId := "", observedAt := 0, quoteAt := 0, balance := high, equity := high, connected := true,
      complete := true, sequence := 0,
      dayReference := { day := { start := 0, ending := 0 }, balance := daily, equity := daily },
      balanceHigh := high, equityHigh := high, exposures := [], resolvedRequests := ∅, setupsReconciled := true },
    rfl, fun trailing => ?_, ?_⟩
  · unfold drawdownReferenceOf
    split
    next kind => exact absurd kind trailing
    next => simp
    next => simp
  · unfold dailyReferenceOf
    split
    · rfl
    · rfl
    · exact max_self daily

theorem PropAccount.IsHigh.initial_le {events : List Execution} {high : Rat} (isHigh : p.IsHigh events high) :
    p.initialBalance ≤ high :=
  isHigh.2 ⟨[], List.nil_prefix, by simp [balanceAfter]⟩

theorem PropAccount.atAccountFloor_iff (sound : p.risk.Sound) (initial : 0 ≤ p.initialBalance)
    (before : List Execution) (event : Execution) :
    p.AtAccountFloor p.accountFloor before event ↔ p.AtRuledAccountFloor before event := by
  constructor
  · rintro ⟨high, isHigh, below⟩
    obtain ⟨state, snapshot, references⟩ := p.exists_references high 0
    refine ⟨high, 0, state, snapshot, _, isHigh, references, rfl, ?_⟩
    rwa [p.ruledAccountFloor sound initial isHigh.initial_le references rfl]
  · rintro ⟨high, daily, state, snapshot, thresholds, isHigh, references, ruled, below⟩
    rw [p.ruledAccountFloor sound initial isHigh.initial_le references ruled] at below
    exact ⟨high, isHigh, below⟩

theorem PropAccount.atDailyFloor_iff (sound : p.risk.Sound) {start : Int} {before : List Execution} {event : Execution}
    (solvent : p.OpenedSolvent zones start before event) :
    p.AtDailyFloor zones p.dailyFloor start before event ↔ p.AtRuledDailyFloor zones start before event := by
  constructor
  · rintro ⟨day, own, begins, below⟩
    obtain ⟨state, snapshot, references⟩ := p.exists_references 0 (p.dayOpening zones before (some day))
    refine ⟨day, 0, state, snapshot, _, own, begins, references, rfl, ?_⟩
    rwa [p.ruledDailyFloor sound (solvent day own begins) references rfl]
  · rintro ⟨day, high, state, snapshot, thresholds, own, begins, references, ruled, below⟩
    rw [p.ruledDailyFloor sound (solvent day own begins) references ruled] at below
    exact ⟨day, own, begins, below⟩

theorem normalize_ok (read : normalize p zones deals orders boundary = .ok ledger) :
    ∃ rows day path, DealsRead p deals orders ledger.positionRequests rows ∧
      ledger.events = sortEvents (rows.map Prod.snd) ∧ p.risk.calendar.dayAt zones p.historyFrom = .ok day ∧
      ledger.events.foldlM (takeEvent p zones deals boundary) {
        balance := p.initialBalance
        high := p.initialBalance
        boundaryBalance := p.initialBalance
        historicalDay := day
        dailyReference := p.initialBalance } = .ok path ∧
      ledger = {
        events := ledger.events
        positionRequests := ledger.positionRequests
        orders
        requestSetups := requestSetups orders
        accountBreached := path.accountBreached
        dailyBreached := path.dailyBreached
        high := path.high
        boundaryBalance := path.boundaryBalance } := by
  unfold normalize at read
  obtain ⟨⟨requests, events⟩, parsed, read⟩ := bind_ok.mp read
  obtain ⟨day, known, read⟩ := bind_ok.mp read
  obtain ⟨path, run, read⟩ := bind_ok.mp read
  obtain rfl := pure_ok.mp read
  obtain ⟨rows, dealsRead, same⟩ := readDeals_ok.mp parsed
  exact ⟨rows, day, path, dealsRead, same, known, run, rfl⟩

/-- In another order the same ledger is read, with the orders as they were given. -/
theorem normalize_perm (dealIds : (deals.filterMap dealId).Nodup) (orderIds : (orders.filterMap orderId).Nodup)
    (same : SameSetups orders) (dealsPerm : deals'.Perm deals) (ordersPerm : orders'.Perm orders)
    (read : normalize p zones deals orders boundary = .ok ledger) :
    normalize p zones deals' orders' boundary = .ok { ledger with orders := orders' } := by
  obtain ⟨rows, day, path, dealsRead, sorted, known, run, all⟩ := normalize_ok read
  obtain ⟨rows', dealsRead', perm⟩ := dealsRead.perm orderIds same dealsPerm ordersPerm
  have events : sortEvents (rows'.map Prod.snd) = ledger.events := by
    rw [sorted]
    exact sortEvents_unique (perm.map Prod.snd) dealsRead.eventIds
  have steps : takeEvent p zones deals' boundary = takeEvent p zones deals boundary := by
    funext path event
    unfold takeEvent checkpoint
    simp only [find?_key_perm dealIds dealsPerm]
  unfold normalize
  refine bind_ok.mpr ⟨(ledger.positionRequests, ledger.events), readDeals_ok.mpr ⟨rows', dealsRead', events.symm⟩,
    bind_ok.mpr ⟨day, known, bind_ok.mpr ⟨path, ?_, ?_⟩⟩⟩
  · rw [steps]
    exact run
  · rw [pure_ok, requestSetups_perm same ordersPerm, all]

/-- What is read accounts for every filled deal, and the stops it reports are the loss rule's. -/
theorem normalize_reconstructed (sound : p.risk.Sound) (initial : 0 ≤ p.initialBalance)
    (dealIds : (deals.filterMap dealId).Nodup) (read : normalize p zones deals orders boundary = .ok ledger) :
    Reconstructed p zones deals orders boundary ledger := by
  obtain ⟨rows, day, path, dealsRead, events, known, run, all⟩ := normalize_ok read
  have inOrder : ledger.events.Pairwise InBrokerOrder := by
    rw [events]
    exact sortEvents_sorted _
  have listed : ∀ event, event ∈ ledger.events ↔ event ∈ rows.map Prod.snd := fun event => by
    rw [events]
    exact (sortEvents_perm _).mem_iff
  have after := foldlM_takeEvent inOrder run
  have setups : ledger.requestSetups = requestSetups orders := by rw [all]
  exact {
    sorted := inOrder
    checkpoints := by
      intro deal there filled detail closing
      obtain ⟨event, member, id, of⟩ := dealsRead.event_for there filled
      obtain ⟨before, rest, split⟩ := List.append_of_mem ((listed event).mpr member)
      obtain ⟨id', parsed, stated⟩ := after.checked before event rest split
      have same : id' = id := by
        rw [of.named, parseI64_toString of.positive of.fits] at parsed
        exact (Option.some.inj parsed).symm
      subst same
      refine ⟨id', before, event, rest, split, setups ▸ of, ?_⟩
      exact stated deal detail ((find?_key dealIds).mpr ⟨there, of.own⟩) closing
    events := by
      intro event member
      rw [setups]
      exact dealsRead.event_of ((listed event).mp member)
    high := by
      rw [all]
      exact after.high
    atBoundary := by
      rw [all]
      exact after.atBoundary
    account := by
      have flag : ledger.accountBreached = path.accountBreached := by rw [all]
      rw [flag, after.account]
      exact exists_congr fun before => exists_congr fun event => exists_congr fun _ =>
        and_congr_right fun _ => p.atAccountFloor_iff sound initial before event
    daily := by
      intro start solvent
      have flags : ledger.dailyBreached = path.dailyBreached := by rw [all]
      rw [flags, after.daily start]
      exact exists_congr fun before => exists_congr fun event => exists_congr fun rest =>
        and_congr_right fun split => p.atDailyFloor_iff sound (solvent before event rest split)
    attributed := by
      intro deal there
      rw [setups]
      exact dealsRead.assigned.1 deal there }

/-- For an account that passes its check, deals and orders with ids of their own are read alike in
every order, the ledger accounts for all of them and stops where the loss rule does, and its inventory
is verified exactly where it agrees with the broker's. -/
theorem normalize_faithful (valid : p.validate zones = .ok ()) (dealIds : (deals.filterMap dealId).Nodup)
    (orderIds : (orders.filterMap orderId).Nodup) (same : SameSetups orders)
    (read : normalize p zones deals orders boundary = .ok ledger) :
    (∀ deals' orders', deals'.Perm deals → orders'.Perm orders →
      normalize p zones deals' orders' boundary = .ok { ledger with orders := orders' }) ∧
    Reconstructed p zones deals orders boundary ledger ∧
    ∀ snapshot, verify ledger.events snapshot = .ok () ↔
      ∃ broker, brokerQuantities snapshot = .ok broker ∧ InventoryAgrees ledger.events broker := by
  unfold PropAccount.validate at valid
  simp only [bind_ok, ensure_ok, exists_const] at valid
  obtain ⟨_, policy, ⟨-, initial, -⟩, -⟩ := valid
  exact ⟨fun deals' orders' dealsPerm ordersPerm => normalize_perm dealIds orderIds same dealsPerm ordersPerm read,
    normalize_reconstructed (RiskPolicy.validate_sound policy) initial.le dealIds read, fun snapshot => verify_ok_iff⟩

end

/-- An account of 100 that has been enrolled at instant 0. -/
def smallAccount : PropAccount where
  accountId := 123
  stateDirectoryIsAbsolute := true
  historyFrom := 0
  initialBalance := 100
  rulebookVerified := true
  feesVerified := true
  feeMode := .perDeal
  commissionIsPositiveCost := true
  risk := {}
  costs := []

def openingDeal (id order position time : Int) : Json :=
  .object [("dealId", .whole id), ("orderId", .whole order), ("positionId", .whole position), ("dealStatus", .whole 2),
    ("filledVolume", .whole 100), ("executionTimestamp", .whole time), ("commission", .whole 0), ("moneyDigits", .whole 2)]

def closingDeal (id position gross balance time : Int) : Json :=
  .object [("dealId", .whole id), ("orderId", .whole id), ("positionId", .whole position), ("dealStatus", .whole 2),
    ("filledVolume", .whole 100), ("executionTimestamp", .whole time), ("commission", .whole 0), ("moneyDigits", .whole 2),
    ("closePositionDetail", .object [("closedVolume", .whole 100), ("grossProfit", .whole gross), ("swap", .whole 0),
      ("commission", .whole 0), ("balance", .whole balance), ("moneyDigits", .whole 2)])]

def setupOrder (id : Int) (request setup : String) : Json :=
  .object [("orderId", .whole id), ("clientOrderId", .text request),
    ("tradeData", .object [("label", .text s!"risk:{setup}")])]

/-- A position that loses 3 and is closed. -/
def roundTrip : List Json := [openingDeal 9 1 11 1, closingDeal 10 11 (-300) 9700 1]

theorem normalize_faithful_roundTrip :
    ∃ ledger, normalize smallAccount utcZones roundTrip [setupOrder 1 "r1" "a"] 0 = .ok ledger ∧
      ledger.events.length = 2 ∧ Reconstructed smallAccount utcZones roundTrip [setupOrder 1 "r1" "a"] 0 ledger := by
  have length : ((normalize smallAccount utcZones roundTrip [setupOrder 1 "r1" "a"] 0).toOption.map
    fun ledger => ledger.events.length) = some 2 := by decide +kernel
  cases read : normalize smallAccount utcZones roundTrip [setupOrder 1 "r1" "a"] 0 with
  | error error =>
    rw [read] at length
    cases length
  | ok ledger =>
    rw [read] at length
    have same : SameSetups [setupOrder 1 "r1" "a"] := by
      intro order listed other listed' request setup setup' _ _ label label'
      cases List.mem_singleton.mp listed
      cases List.mem_singleton.mp listed'
      exact Option.some.inj (label.symm.trans label')
    exact ⟨ledger, rfl, Option.some.inj length,
      (normalize_faithful (by decide +kernel) (by decide +kernel) (by decide +kernel) same read).2.1⟩

/-- Two positions of which one loses more than the account has, and the other is closed on the next day
with a gain. -/
def overdrawn : List Json :=
  [openingDeal 1 1 11 1, openingDeal 2 1 12 2, closingDeal 3 11 (-15000) (-5000) 3, closingDeal 4 12 120 (-4880) 61200000]

def beforeGain : List Execution :=
  [⟨"1", "a", "11", 1000000, 1, 0⟩, ⟨"2", "a", "12", 2000000, 1, 0⟩, ⟨"3", "a", "11", 3000000, -1, -150⟩]

def gain : Execution := ⟨"4", "a", "12", 61200000000000, -1, 6/5⟩

/-- The day of the gain. -/
def nextDay : TradingDay := { start := seconds 61200, ending := seconds 147600 }

/-- The broker still lists a position without volume that the history does not know. -/
def idleSnapshot : Json :=
  .object [("position", .array [.object [("positionId", .whole 5), ("tradeData", .object [("volume", .whole 0)])]])]

/-- Orders that share a client order id are read in their order, a day that begins below zero has another
floor than the loss rule's, and a position without volume is refused when the history does not know it. -/
theorem history_exceptions :
    ((normalize smallAccount utcZones roundTrip [setupOrder 1 "r1" "a", setupOrder 2 "r1" "b"] 0).toOption.map
        fun ledger => ledger.events.map Execution.setupId) = some ["b", "b"] ∧
    ((normalize smallAccount utcZones roundTrip [setupOrder 2 "r1" "b", setupOrder 1 "r1" "a"] 0).toOption.map
        fun ledger => ledger.events.map Execution.setupId) = some ["a", "a"] ∧
    (∃ ledger, normalize smallAccount utcZones overdrawn [setupOrder 1 "r1" "a"] 0 = .ok ledger ∧
      seconds 61200 ∉ ledger.dailyBreached ∧
      SomeStep (smallAccount.AtRuledDailyFloor utcZones (seconds 61200)) ledger.events) ∧
    (brokerQuantities idleSnapshot).toOption.bind (fun broker => broker.lookup "5") = some 0 ∧ volumeOf [] "5" = 0 ∧
    verify [] idleSnapshot ≠ .ok () := by
  refine ⟨by decide +kernel, by decide +kernel, ?_, by decide +kernel, rfl, by decide +kernel⟩
  have view : ((normalize smallAccount utcZones overdrawn [setupOrder 1 "r1" "a"] 0).toOption.map
      fun ledger => (ledger.events, ledger.dailyBreached)) = some (beforeGain ++ [gain], {-25200000000000}) := by
    decide +kernel
  cases read : normalize smallAccount utcZones overdrawn [setupOrder 1 "r1" "a"] 0 with
  | error error =>
    rw [read] at view
    cases view
  | ok ledger =>
    rw [read] at view
    obtain ⟨events, breached⟩ := Prod.mk.inj (Option.some.inj view)
    refine ⟨ledger, rfl, ?_, beforeGain, gain, [], events, ?_⟩
    · rw [breached]
      decide
    · obtain ⟨state, snapshot, references⟩ := smallAccount.exists_references 0
        (smallAccount.dayOpening utcZones beforeGain (some nextDay))
      refine ⟨nextDay, 0, state, snapshot, _, by decide +kernel, rfl, references, rfl, ?_⟩
      change _ ≤ max _ (dailyReferenceOf smallAccount.risk state - pct (dailyReferenceOf smallAccount.risk state) 3 +
        pct (dailyReferenceOf smallAccount.risk state) (1 / 4))
      rw [references.daily]
      exact le_max_of_le_right (by decide +kernel)

end TradeControl.CTrader.Protection
