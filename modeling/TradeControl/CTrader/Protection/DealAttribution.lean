import Mathlib.Data.List.Perm.Basic
import Mathlib.Data.Rat.Lemmas
import Mathlib.Tactic.Ring
import TradeControl.CTrader.Protection.History

namespace TradeControl.CTrader.Protection

open Foundation AdaptiveRisk

theorem fits_of_integer {v : Json} {key : String} {value : Int} (read : integer v key = .ok value) : fitsI64 value := by
  unfold integer at read
  split at read
  next found =>
    cases read
    rcases Option.or_eq_some_iff.mp found with whole | ⟨-, text⟩
    · unfold Json.asI64 at whole
      split at whole
      next =>
        split at whole
        next fits =>
          cases whole
          exact fits
        next => cases whole
      next => cases whole
    · obtain ⟨digits, -, parsed⟩ := Option.bind_eq_some_iff.mp text
      unfold parseI64 at parsed
      simpa using (Option.filter_eq_some_iff.mp parsed).2
  next => cases read

/-- A positive number is read back from its text. -/
theorem parseI64_toString {value : Int} (positive : 0 < value) (fits : fitsI64 value) :
    parseI64 (toString value) = some value := by
  obtain ⟨size, rfl⟩ := Int.eq_ofNat_of_zero_le positive.le
  have chars : (toString (size : Int)).toList = Nat.toDigits 10 size := Nat.toList_repr
  have digits : ∀ char ∈ Nat.toDigits 10 size, char.isDigit := fun char listed =>
    Nat.isDigit_of_mem_toDigits (by decide) (by decide) listed
  have unsigned : readSign (Nat.toDigits 10 size) = (1, Nat.toDigits 10 size) := by
    unfold readSign
    split
    next rest same => exact absurd (digits '-' (same ▸ List.mem_cons_self)) (by decide)
    next rest same => exact absurd (digits '+' (same ▸ List.mem_cons_self)) (by decide)
    next => rfl
  have number : readDigits (Nat.toDigits 10 size) = some size := by
    unfold readDigits
    rw [if_pos ⟨Nat.toDigits_ne_nil, List.all_eq_true.mpr digits⟩]
    exact congrArg some Nat.ofDigitChars_ten_toDigits
  unfold parseI64 readSigned
  rw [chars, unsigned, number]
  simpa using fits

section
variable {orders orders' : List Json}

/-- Orders that name one request name one setup. -/
def SameSetups (orders : List Json) : Prop :=
  ∀ order ∈ orders, ∀ other ∈ orders, ∀ request setup setup', clientOrderId order = some request →
    clientOrderId other = some request → riskSetup order = some setup → riskSetup other = some setup' → setup = setup'

theorem foldl_addSetup (same : SameSetups orders) {start : String → Option String} {request setup : String}
    (outside : ∀ order ∈ orders, ∀ setup', clientOrderId order = some request → riskSetup order = some setup' →
      ∀ before ∈ start request, before = setup') :
    orders.foldl addSetup start request = some setup ↔ start request = some setup ∨
      ∃ order ∈ orders, clientOrderId order = some request ∧ riskSetup order = some setup := by
  induction orders generalizing start with
  | nil => simp
  | cons order rest ih =>
    have same' : SameSetups rest := fun a listed b listed' =>
      same a (List.mem_cons_of_mem _ listed) b (List.mem_cons_of_mem _ listed')
    rw [List.foldl_cons]
    cases own : clientOrderId order with
    | none =>
      have kept : addSetup start order = start := by
        unfold addSetup
        rw [own]
      rw [kept, ih same' fun a listed => outside a (List.mem_cons_of_mem _ listed)]
      refine or_congr_right ⟨fun ⟨a, listed, named⟩ => ⟨a, List.mem_cons_of_mem _ listed, named⟩, ?_⟩
      rintro ⟨a, listed, named, labelled⟩
      rcases List.mem_cons.mp listed with rfl | listed
      · rw [own] at named
        cases named
      · exact ⟨a, listed, named, labelled⟩
    | some id =>
      cases label : riskSetup order with
      | none =>
        have kept : addSetup start order = start := by
          unfold addSetup
          rw [own, label]
        rw [kept, ih same' fun a listed => outside a (List.mem_cons_of_mem _ listed)]
        refine or_congr_right ⟨fun ⟨a, listed, named⟩ => ⟨a, List.mem_cons_of_mem _ listed, named⟩, ?_⟩
        rintro ⟨a, listed, named, labelled⟩
        rcases List.mem_cons.mp listed with rfl | listed
        · rw [label] at labelled
          cases labelled
        · exact ⟨a, listed, named, labelled⟩
      | some setup₀ =>
        have kept : addSetup start order = Function.update start id (some setup₀) := by
          unfold addSetup
          rw [own, label]
        rw [kept, ih same' ?_]
        · by_cases named : request = id
          · subst named
            rw [Function.update_self]
            constructor
            · rintro (first | ⟨a, listed, both⟩)
              · cases first
                exact .inr ⟨order, List.mem_cons_self, own, label⟩
              · exact .inr ⟨a, List.mem_cons_of_mem _ listed, both⟩
            · rintro (before | ⟨a, listed, named, labelled⟩)
              · exact .inl (congrArg some (outside order List.mem_cons_self setup₀ own label setup before).symm)
              · rcases List.mem_cons.mp listed with rfl | listed
                · rw [label] at labelled
                  exact .inl labelled
                · exact .inr ⟨a, listed, named, labelled⟩
          · rw [Function.update_of_ne named]
            refine or_congr_right ⟨fun ⟨a, listed, both⟩ => ⟨a, List.mem_cons_of_mem _ listed, both⟩, ?_⟩
            rintro ⟨a, listed, named', labelled⟩
            rcases List.mem_cons.mp listed with rfl | listed
            · rw [own] at named'
              exact absurd (Option.some.inj named').symm named
            · exact ⟨a, listed, named', labelled⟩
        · intro a listed setup' named labelled before held
          by_cases named' : request = id
          · subst named'
            rw [Function.update_self] at held
            cases held
            exact same order List.mem_cons_self a (List.mem_cons_of_mem _ listed) request setup₀ setup' own named label labelled
          · rw [Function.update_of_ne named'] at held
            exact outside a (List.mem_cons_of_mem _ listed) setup' named labelled before held

theorem requestSetups_eq_some (same : SameSetups orders) {request setup : String} :
    requestSetups orders request = some setup ↔
      ∃ order ∈ orders, clientOrderId order = some request ∧ riskSetup order = some setup := by
  unfold requestSetups
  rw [foldl_addSetup same (by simp)]
  exact or_iff_right fun none_ => (by cases none_)

theorem requestSetups_perm (same : SameSetups orders) (perm : orders'.Perm orders) :
    requestSetups orders' = requestSetups orders := by
  have same' : SameSetups orders' := fun a listed b listed' =>
    same a (perm.mem_iff.mp listed) b (perm.mem_iff.mp listed')
  refine funext fun request => Option.ext fun setup => ?_
  rw [requestSetups_eq_some same', requestSetups_eq_some same]
  exact exists_congr fun order => and_congr_left fun _ => perm.mem_iff

theorem openingRequest_perm (distinct : (orders.filterMap orderId).Nodup) (perm : orders'.Perm orders)
    (setups : String → Option String) : openingRequest orders' setups = openingRequest orders setups := by
  funext deal
  unfold openingRequest
  simp only [find?_key_perm distinct perm]

end

theorem InBrokerOrder.trans {a b c : Execution} (first : InBrokerOrder a b) (second : InBrokerOrder b c) :
    InBrokerOrder a c := by
  rcases first with before | ⟨time, first⟩
  · rcases second with before' | ⟨time', -⟩
    · exact .inl (before.trans before')
    · exact .inl (time' ▸ before)
  · rcases second with before' | ⟨time', second⟩
    · exact .inl (time ▸ before')
    · refine .inr ⟨time.trans time', ?_⟩
      rcases first with shorter | ⟨size, names⟩
      · rcases second with shorter' | ⟨size', -⟩
        · exact .inl (shorter.trans shorter')
        · exact .inl (size' ▸ shorter)
      · rcases second with shorter' | ⟨size', names'⟩
        · exact .inl (size ▸ shorter')
        · exact .inr ⟨size.trans size', String.le_trans names names'⟩

theorem inBrokerOrder_total (a b : Execution) : InBrokerOrder a b ∨ InBrokerOrder b a := by
  rcases lt_trichotomy a.occurredAt b.occurredAt with before | time | after
  · exact .inl (.inl before)
  · rcases lt_trichotomy a.eventId.length b.eventId.length with shorter | size | longer
    · exact .inl (.inr ⟨time, .inl shorter⟩)
    · rcases String.le_total a.eventId b.eventId with names | names
      · exact .inl (.inr ⟨time, .inr ⟨size, names⟩⟩)
      · exact .inr (.inr ⟨time.symm, .inr ⟨size.symm, names⟩⟩)
    · exact .inr (.inr ⟨time.symm, .inl longer⟩)
  · exact .inr (.inl after)

theorem InBrokerOrder.antisymm {a b : Execution} (first : InBrokerOrder a b) (second : InBrokerOrder b a) :
    a.eventId = b.eventId := by
  rcases first with before | ⟨time, first⟩
  · rcases second with before' | ⟨time', -⟩ <;> omega
  · rcases second with before' | ⟨-, second⟩
    · omega
    · rcases first with shorter | ⟨size, names⟩
      · rcases second with shorter' | ⟨size', -⟩ <;> omega
      · rcases second with shorter' | ⟨-, names'⟩
        · omega
        · exact String.le_antisymm names names'

instance : IsTrans Execution InBrokerOrder := ⟨fun _ _ _ => InBrokerOrder.trans⟩

instance : Std.Total InBrokerOrder := ⟨inBrokerOrder_total⟩

/-- Events sorted for the balance path. -/
def sortEvents (events : List Execution) : List Execution := events.insertionSort InBrokerOrder

theorem sortEvents_sorted (events : List Execution) : (sortEvents events).Pairwise InBrokerOrder :=
  List.pairwise_insertionSort InBrokerOrder events

theorem sortEvents_perm (events : List Execution) : (sortEvents events).Perm events :=
  List.perm_insertionSort InBrokerOrder events

/-- Events with ids of their own are sorted in one way. -/
theorem sortEvents_unique {events events' : List Execution} (perm : events'.Perm events)
    (distinct : (events.map Execution.eventId).Nodup) : sortEvents events' = sortEvents events := by
  have perm' : (sortEvents events').Perm (sortEvents events) :=
    (sortEvents_perm events').trans (perm.trans (sortEvents_perm events).symm)
  refine perm'.eq_of_pairwise ?_ (sortEvents_sorted events') (sortEvents_sorted events)
  intro a b listed listed' first second
  have there : a ∈ events := perm.mem_iff.mp ((sortEvents_perm events').mem_iff.mp listed)
  have there' : b ∈ events := (sortEvents_perm events).mem_iff.mp listed'
  exact List.inj_on_of_nodup_map distinct there there' (first.antisymm second)

def openings (deals : List Json) : List Json := (deals.filter isFilled).filter fun deal => (closeDetail deal).isNone

/-- The filled deals as they are read: each position's request, and each deal's id and execution. -/
structure DealsRead (p : PropAccount) (deals orders : List Json) (requests : Int → Option String)
    (rows : List (Int × Execution)) : Prop where
  assigned : Assigns (openingRequest orders (requestSetups orders)) (openings deals) requests
  each : List.Forall₂ (ReadAs identifyDeal (readExecution p (requestSetups orders) requests)) (deals.filter isFilled) rows
  distinct : (rows.map Prod.fst).Nodup

section
variable {p : PropAccount} {deals deals' orders orders' : List Json} {requests : Int → Option String}
  {rows : List (Int × Execution)}

theorem readDeals_ok {events : List Execution} :
    readDeals p deals orders = .ok (requests, events) ↔
      ∃ rows, DealsRead p deals orders requests rows ∧ events = sortEvents (rows.map Prod.snd) := by
  unfold readDeals
  constructor
  · intro read
    obtain ⟨assigned, attributed, read⟩ := bind_ok.mp read
    obtain ⟨⟨seen, unsorted⟩, collected, read⟩ := bind_ok.mp read
    obtain ⟨rfl, rfl⟩ := Prod.mk.inj (pure_ok.mp read)
    obtain ⟨rows, each, distinct, -, -, rfl⟩ := foldlM_collectOnce.mp collected
    exact ⟨rows, ⟨foldlM_assignOnce_iff.mp attributed, each, distinct⟩, rfl⟩
  · rintro ⟨rows, read, rfl⟩
    refine bind_ok.mpr ⟨requests, foldlM_assignOnce_iff.mpr read.assigned, bind_ok.mpr
      ⟨(∅ ∪ (rows.map Prod.fst).toFinset, [] ++ rows.map Prod.snd), ?_, rfl⟩⟩
    exact foldlM_collectOnce.mpr ⟨rows, read.each, read.distinct, fun _ _ => Finset.notMem_empty _, rfl, rfl⟩

theorem DealsRead.perm (read : DealsRead p deals orders requests rows) (orderIds : (orders.filterMap orderId).Nodup)
    (same : SameSetups orders) (dealsPerm : deals'.Perm deals) (ordersPerm : orders'.Perm orders) :
    ∃ rows', DealsRead p deals' orders' requests rows' ∧ rows'.Perm rows := by
  have filled : (deals'.filter isFilled).Perm (deals.filter isFilled) := dealsPerm.filter _
  obtain ⟨rows', each, perm⟩ := List.perm_comp_forall₂ filled read.each
  refine ⟨rows', ⟨?_, ?_, (perm.map Prod.fst).nodup_iff.mpr read.distinct⟩, perm⟩
  · rw [requestSetups_perm same ordersPerm, openingRequest_perm orderIds ordersPerm]
    exact read.assigned.perm (filled.filter _)
  · rwa [requestSetups_perm same ordersPerm]

/-- What is known of an execution that was read of a deal under an id. -/
structure ReadOf (p : PropAccount) (setups : String → Option String) (requests : Int → Option String) (deal : Json)
    (id : Int) (event : Execution) : Prop where
  own : dealId deal = some id
  positive : 0 < id
  fits : fitsI64 id
  named : event.eventId = toString id
  attributed : ∃ pos request, integer deal "positionId" = .ok pos ∧ event.positionId = toString pos ∧
    requests pos = some request ∧ setups request = some event.setupId
  amounts : dealAmounts p deal = .ok (event.volumeDelta * 100, event.netPnl)

theorem readOf_of_readAs {setups : String → Option String} {deal : Json} {row : Int × Execution}
    (read : ReadAs identifyDeal (readExecution p setups requests) deal row) : ReadOf p setups requests deal row.1 row.2 := by
  obtain ⟨identified, executed⟩ := read
  unfold identifyDeal at identified
  simp only [bind_ok, ensure_ok, pure_ok, exists_const] at identified
  obtain ⟨id, own, positive, volume, -, -, same⟩ := identified
  subst same
  unfold readExecution at executed
  simp only [bind_ok, required_ok, ensure_ok, pure_ok, exists_const] at executed
  obtain ⟨pos, position, request, requested, setup, named, ⟨volume', netPnl⟩, amounts, -, -, millis, -, same⟩ := executed
  rw [← same]
  refine ⟨?_, positive, fits_of_integer own, rfl, ⟨pos, request, position, rfl, requested, named⟩, ?_⟩
  · unfold dealId
    rw [own]
    rfl
  · rw [amounts]
    congr 2
    exact (div_mul_cancel₀ volume' (by decide +kernel : (100 : Rat) ≠ 0)).symm

/-- Every event is read of a filled deal. -/
theorem DealsRead.event_of (read : DealsRead p deals orders requests rows) {event : Execution}
    (listed : event ∈ rows.map Prod.snd) :
    ∃ deal ∈ deals, isFilled deal ∧ ∃ id, ReadOf p (requestSetups orders) requests deal id event := by
  obtain ⟨row, member, rfl⟩ := List.mem_map.mp listed
  obtain ⟨deal, there, own⟩ := forall₂_mem_right read.each member
  obtain ⟨present, filled⟩ := List.mem_filter.mp there
  exact ⟨deal, present, of_decide_eq_true filled, row.1, readOf_of_readAs own⟩

/-- Every filled deal has its event. -/
theorem DealsRead.event_for (read : DealsRead p deals orders requests rows) {deal : Json} (listed : deal ∈ deals)
    (filled : isFilled deal) :
    ∃ event ∈ rows.map Prod.snd, ∃ id, ReadOf p (requestSetups orders) requests deal id event := by
  have there : deal ∈ deals.filter isFilled := List.mem_filter.mpr ⟨listed, decide_eq_true filled⟩
  obtain ⟨row, member, own⟩ := forall₂_mem_left read.each there
  exact ⟨row.2, List.mem_map_of_mem member, row.1, readOf_of_readAs own⟩

/-- Texts of positive ids are told apart. -/
theorem toString_injective {id other : Int} (positive : 0 < id) (fits : fitsI64 id) (positive' : 0 < other)
    (fits' : fitsI64 other) (same : toString id = toString other) : id = other := by
  have read := parseI64_toString positive fits
  rw [same, parseI64_toString positive' fits'] at read
  exact (Option.some.inj read).symm

theorem DealsRead.eventIds (read : DealsRead p deals orders requests rows) :
    ((rows.map Prod.snd).map Execution.eventId).Nodup := by
  have own : ∀ row ∈ rows, 0 < row.1 ∧ fitsI64 row.1 ∧ row.2.eventId = toString row.1 := by
    intro row member
    obtain ⟨deal, -, as⟩ := forall₂_mem_right read.each member
    have of := readOf_of_readAs as
    exact ⟨of.positive, of.fits, of.named⟩
  have texts : (rows.map Prod.snd).map Execution.eventId = (rows.map Prod.fst).map toString := by
    rw [List.map_map, List.map_map]
    exact List.map_congr_left fun row member => (own row member).2.2
  rw [texts]
  refine read.distinct.map_on fun id listed other listed' same => ?_
  obtain ⟨row, member, rfl⟩ := List.mem_map.mp listed
  obtain ⟨row', member', rfl⟩ := List.mem_map.mp listed'
  obtain ⟨positive, fits, -⟩ := own row member
  obtain ⟨positive', fits', -⟩ := own row' member'
  exact toString_injective positive fits positive' fits' same

end

end TradeControl.CTrader.Protection
