import TradeControl.AttemptResolution

open Foundation

namespace TradeControl.AttemptResolution

section Unique

theorem foldl_unique (events out : List Event) (nodup : out.Nodup) :
    (events.foldl (fun out event => if out.contains event then out else out ++ [event]) out).Nodup ∧
      ∀ event, event ∈ events.foldl (fun out event => if out.contains event then out else out ++ [event]) out ↔
        event ∈ out ∨ event ∈ events := by
  induction events generalizing out with
  | nil => exact ⟨nodup, fun event => by simp⟩
  | cons first events ih =>
    rw [List.foldl_cons]
    by_cases known : out.contains first = true
    · rw [if_pos known]
      obtain ⟨unique, member⟩ := ih out nodup
      have inOut : first ∈ out := List.contains_iff_mem.mp known
      refine ⟨unique, fun event => ?_⟩
      rw [member, List.mem_cons]
      constructor
      · rintro (old | later)
        · exact .inl old
        · exact .inr (.inr later)
      · rintro (old | rfl | later)
        · exact .inl old
        · exact .inl inOut
        · exact .inr later
    · rw [if_neg known]
      have fresh : first ∉ out := fun inOut => known (List.contains_iff_mem.mpr inOut)
      have extended : (out ++ [first]).Nodup := by
        refine List.Nodup.append nodup (List.nodup_singleton first) ?_
        intro event old new
        rw [List.mem_singleton.mp new] at old
        exact fresh old
      obtain ⟨unique, member⟩ := ih _ extended
      refine ⟨unique, fun event => ?_⟩
      rw [member, List.mem_append, List.mem_singleton, List.mem_cons, or_assoc]

theorem uniqueEvents_nodup (events : List Event) : (uniqueEvents events).Nodup :=
  (foldl_unique events [] List.nodup_nil).1

theorem mem_uniqueEvents {events : List Event} {event : Event} : event ∈ uniqueEvents events ↔ event ∈ events := by
  unfold uniqueEvents
  rw [(foldl_unique events [] List.nodup_nil).2 event]
  simp

theorem uniqueEvents_perm {first second : List Event} (same : ∀ event, event ∈ first ↔ event ∈ second) :
    (uniqueEvents first).Perm (uniqueEvents second) := by
  refine (List.perm_ext_iff_of_nodup (uniqueEvents_nodup first) (uniqueEvents_nodup second)).mpr fun event => ?_
  rw [mem_uniqueEvents, mem_uniqueEvents, same]

end Unique

/-- The same evidence in another order, with some of its events told again. -/
structure Rearranges (evidence other : Evidence) : Prop where
  pending : other.pending.Perm evidence.pending
  positions : other.positions.Perm evidence.positions
  events : ∃ again : List Event, (∀ event ∈ again, event ∈ evidence.events) ∧
    other.events.Perm (evidence.events ++ again)
  historyComplete : other.historyComplete = evidence.historyComplete

theorem Rearranges.event_iff {evidence other : Evidence} (same : Rearranges evidence other) (event : Event) :
    event ∈ other.events ↔ event ∈ evidence.events := by
  obtain ⟨again, told, perm⟩ := same.events
  rw [perm.mem_iff, List.mem_append]
  exact ⟨fun member => member.elim id (told event), .inl⟩

section Matching

variable {orderId : String} {evidence other : Evidence}

/-- The opening that the activity history leaves for an order: its only execution, that execution's only candidate, at
known prices, and no competing execution. -/
def matchedOpen (orderId : String) (evidence : Evidence) : Option Event :=
  let events := uniqueEvents evidence.events
  (onlyOne (events.filter (isExecutionOf orderId))).bind fun execution =>
    if evidence.historyComplete then
      (onlyOne (events.filter (isCandidate execution))).filter fun opened =>
        compatible execution opened && (events.filter (isCompetitor opened)).length == 1
    else none

/-- What an order without one is taken for. -/
def unmatchedState (orderId : String) (evidence : Evidence) : AttemptState :=
  let events := uniqueEvents evidence.events
  if (events.filter (isExecutionOf orderId)).isEmpty && evidence.historyComplete &&
      events.any (fun event => event.kind == .cancel && event.id == orderId) then .cancelled
  else .unknown

def openedState (id : String) (evidence : Evidence) : AttemptState :=
  if evidence.positions.any (·.id == id) then .openPosition id else closedState id evidence

theorem resolveByActivity_outcome (orderId : String) (evidence : Evidence) (diagnostic : Diagnostic)
    (unset : diagnostic.resolvedPositionId = none) :
    ((resolveByActivity orderId evidence diagnostic).1,
        (resolveByActivity orderId evidence diagnostic).2.2.resolvedPositionId) =
      match matchedOpen orderId evidence with
      | some opened => (openedState opened.id evidence, some opened.id)
      | none => (unmatchedState orderId evidence, none) := by
  unfold resolveByActivity matchedOpen unmatchedState openedState
  dsimp only
  cases found : onlyOne ((uniqueEvents evidence.events).filter (isExecutionOf orderId)) with
  | none =>
    dsimp only [Option.bind]
    split <;> simp [unset]
  | some execution =>
    have present : ((uniqueEvents evidence.events).filter (isExecutionOf orderId)).isEmpty = false := by
      rw [onlyOne_eq_some.mp found]
      rfl
    dsimp only [Option.bind]
    rw [present]
    cases evidence.historyComplete with
    | false => simp [unset]
    | true =>
      cases candidate : onlyOne ((uniqueEvents evidence.events).filter (isCandidate execution)) with
      | none => simp [unset]
      | some opened =>
        dsimp only
        cases priced : compatible execution opened with
        | false => simp [unset, priced, Option.filter]
        | true =>
          by_cases alone : ((uniqueEvents evidence.events).filter (isCompetitor opened)).length = 1
          · simp [priced, alone, Option.filter]
            split <;> simp [positionState]
          · simp [unset, priced, alone, Option.filter]

theorem Rearranges.unique_perm (same : Rearranges evidence other) :
    (uniqueEvents other.events).Perm (uniqueEvents evidence.events) :=
  uniqueEvents_perm same.event_iff

theorem Rearranges.matchedOpen_eq (same : Rearranges evidence other) (orderId : String) :
    matchedOpen orderId other = matchedOpen orderId evidence := by
  have perm := same.unique_perm
  unfold matchedOpen
  dsimp only
  rw [onlyOne_perm (perm.filter _), same.historyComplete]
  congr 1
  funext execution
  rw [onlyOne_perm (perm.filter _)]
  congr 2
  funext opened
  rw [(perm.filter _).length_eq]

theorem Rearranges.unmatchedState_eq (same : Rearranges evidence other) (orderId : String) :
    unmatchedState orderId other = unmatchedState orderId evidence := by
  have perm := same.unique_perm
  have executions : ((uniqueEvents other.events).filter (isExecutionOf orderId)).isEmpty =
      ((uniqueEvents evidence.events).filter (isExecutionOf orderId)).isEmpty := by
    rw [Bool.eq_iff_iff, List.isEmpty_iff, List.isEmpty_iff, ← List.length_eq_zero_iff, (perm.filter _).length_eq,
      List.length_eq_zero_iff]
  unfold unmatchedState
  dsimp only
  rw [executions, same.historyComplete, perm.any_eq]

theorem Rearranges.open_iff (same : Rearranges evidence other) (id : String) :
    other.positions.any (·.id == id) = evidence.positions.any (·.id == id) :=
  same.positions.any_eq

/-- An order's live position, where it has one filed under its own id. -/
def liveOf (orderId : String) (evidence : Evidence) : Option Position :=
  evidence.positions.find? (·.orderId == orderId)

theorem outcome_eq (orderId : String) (positionId : Option String) (evidence : Evidence) :
    outcome orderId positionId evidence =
      if orderId ∈ evidence.pending then (.pending, none)
      else match positionId with
        | some id => (openedState id evidence, some id)
        | none =>
          match liveOf orderId evidence with
          | some position => (.openPosition position.id, some position.id)
          | none =>
            match matchedOpen orderId evidence with
            | some opened => (openedState opened.id evidence, some opened.id)
            | none => (unmatchedState orderId evidence, none) := by
  unfold outcome resolve
  dsimp only
  unfold resolveInner
  have pends : evidence.pending.any (· == orderId) = true ↔ orderId ∈ evidence.pending := by simp
  by_cases pending : orderId ∈ evidence.pending
  · rw [if_pos (pends.mpr pending), if_pos pending]
  · rw [if_neg fun given => pending (pends.mp given), if_neg pending]
    cases positionId with
    | none =>
      have looks : evidence.positions.find? (pointsAt orderId none) = liveOf orderId evidence := by
        unfold liveOf pointsAt
        simp
      rw [looks]
      cases liveOf orderId evidence with
      | some position => rfl
      | none => exact resolveByActivity_outcome orderId evidence _ rfl
    | some id =>
      unfold openedState
      cases found : evidence.positions.find? (pointsAt orderId (some id)) with
      | some position =>
        have named := List.find?_some found
        obtain rfl : id = position.id := by simpa [pointsAt] using named
        have isOpen : evidence.positions.any (·.id == position.id) = true :=
          List.any_eq_true.mpr ⟨position, List.mem_of_find?_eq_some found, beq_self_eq_true _⟩
        dsimp only
        rw [if_pos isOpen]
        rfl
      | none =>
        have closed : ¬ evidence.positions.any (·.id == id) = true := by
          intro isOpen
          obtain ⟨position, member, named⟩ := List.any_eq_true.mp isOpen
          refine List.find?_eq_none.mp found position member ?_
          simp [pointsAt, beq_iff_eq.mp named]
        dsimp only
        rw [if_neg closed]

/-- The latest closing events of a position tell of one exit. -/
def ClosesAgree (id : String) (evidence : Evidence) : Prop :=
  ∀ first ∈ evidence.events.filter (isClose id), ∀ second ∈ evidence.events.filter (isClose id),
    (∀ close ∈ evidence.events.filter (isClose id), close.atTime ≤ first.atTime) →
    (∀ close ∈ evidence.events.filter (isClose id), close.atTime ≤ second.atTime) →
      first.price = second.price ∧ first.currency = second.currency

theorem exitOf_eq_iff {id : String} {first second : Event} : exitOf id first = exitOf id second ↔
    first.atTime = second.atTime ∧ first.price = second.price ∧ first.currency = second.currency := by
  simp [exitOf]

theorem closedState_of_latest {id : String} {close : Event}
    (found : lastMaxBy (·.atTime) (evidence.events.filter (isClose id)) = some close) :
    closedState id evidence = .closedConfirmed (exitOf id close) := by
  unfold closedState
  rw [found]
  rfl

theorem Rearranges.closedState_eq (same : Rearranges evidence other) {id : String} (agree : ClosesAgree id evidence) :
    closedState id other = closedState id evidence := by
  have member (close : Event) :
      close ∈ other.events.filter (isClose id) ↔ close ∈ evidence.events.filter (isClose id) := by
    rw [List.mem_filter, List.mem_filter, same.event_iff]
  cases here : lastMaxBy (·.atTime) (evidence.events.filter (isClose id)) with
  | none =>
    have empty := lastMaxBy_eq_none.mp here
    have there : other.events.filter (isClose id) = [] := by
      rw [List.eq_nil_iff_forall_not_mem]
      intro close inOther
      rw [member, empty] at inOther
      cases inOther
    unfold closedState
    rw [there, empty]
  | some first =>
    obtain ⟨firstMember, firstLatest⟩ := lastMaxBy_greatest here
    cases there : lastMaxBy (·.atTime) (other.events.filter (isClose id)) with
    | none =>
      have none' := (member first).mpr firstMember
      rw [lastMaxBy_eq_none.mp there] at none'
      cases none'
    | some second =>
      obtain ⟨secondMember, secondLatest⟩ := lastMaxBy_greatest there
      rw [closedState_of_latest here, closedState_of_latest there]
      have secondHere := (member second).mp secondMember
      have latest (close : Event) (inHere : close ∈ evidence.events.filter (isClose id)) :
          close.atTime ≤ second.atTime := secondLatest close ((member close).mpr inHere)
      have exit := agree second secondHere first firstMember latest firstLatest
      have time := le_antisymm (firstLatest second secondHere) (latest first firstMember)
      rw [exitOf_eq_iff.mpr ⟨time, exit⟩]

/-- One of an evidence's events moved to the end of its history. -/
def Evidence.toldLast (evidence : Evidence) (event : Event) : Evidence :=
  { evidence with events := evidence.events.erase event ++ [event] }

theorem rearranges_toldLast {event : Event} (member : event ∈ evidence.events) :
    Rearranges evidence (evidence.toldLast event) where
  pending := List.Perm.refl _
  positions := List.Perm.refl _
  events := by
    refine ⟨[], fun other none' => absurd none' List.not_mem_nil, ?_⟩
    rw [List.append_nil]
    exact (List.perm_append_singleton event _).trans (List.perm_cons_erase member).symm
  historyComplete := rfl

theorem closedState_toldLast {id : String} {close : Event} (member : close ∈ evidence.events.filter (isClose id))
    (latest : ∀ other ∈ evidence.events.filter (isClose id), other.atTime ≤ close.atTime) :
    closedState id (evidence.toldLast close) = .closedConfirmed (exitOf id close) := by
  have closes := (List.mem_filter.mp member).2
  have told : (evidence.toldLast close).events.filter (isClose id) =
      (evidence.events.erase close).filter (isClose id) ++ [close] := by
    unfold Evidence.toldLast
    rw [List.filter_append, List.filter_singleton, closes]
    rfl
  refine closedState_of_latest ?_
  rw [told]
  refine lastMaxBy_moved_last fun other earlier => latest other ?_
  obtain ⟨inErased, closing⟩ := List.mem_filter.mp earlier
  exact List.mem_filter.mpr ⟨List.mem_of_mem_erase inErased, closing⟩

/-- A closed position's exit is told the same in every order exactly where its latest closing events agree. -/
theorem closedState_rearranged_iff {id : String} :
    (∀ other, Rearranges evidence other → closedState id other = closedState id evidence) ↔
      ClosesAgree id evidence := by
  refine ⟨fun free first firstMember second secondMember firstLatest secondLatest => ?_,
    fun agree other same => same.closedState_eq agree⟩
  have one := free _ (rearranges_toldLast (List.mem_filter.mp firstMember).1)
  have two := free _ (rearranges_toldLast (List.mem_filter.mp secondMember).1)
  rw [closedState_toldLast firstMember firstLatest] at one
  rw [closedState_toldLast secondMember secondLatest] at two
  have exits := AttemptState.closedConfirmed.inj (one.trans two.symm)
  exact (exitOf_eq_iff.mp exits).2

theorem openedState_rearranged_iff {id : String} :
    (∀ other, Rearranges evidence other → openedState id other = openedState id evidence) ↔
      (∃ position ∈ evidence.positions, position.id = id) ∨ ClosesAgree id evidence := by
  have isOpen : evidence.positions.any (·.id == id) = true ↔ ∃ position ∈ evidence.positions, position.id = id := by
    simp
  rw [← isOpen]
  unfold openedState
  by_cases present : evidence.positions.any (·.id == id) = true
  · refine ⟨fun _ => .inl present, fun _ other same => ?_⟩
    rw [same.open_iff, if_pos present, if_pos present]
  · rw [or_iff_right present, ← closedState_rearranged_iff]
    refine forall₂_congr fun other same => ?_
    rw [same.open_iff, if_neg present, if_neg present]

/-- The one event of the history that passes a test. -/
def OnlyEvent (accepts : Event → Bool) (evidence : Evidence) (event : Event) : Prop :=
  (event ∈ evidence.events ∧ accepts event = true) ∧
    ∀ other ∈ evidence.events, accepts other = true → other = event

theorem onlyOne_unique_iff {accepts : Event → Bool} {event : Event} :
    onlyOne ((uniqueEvents evidence.events).filter accepts) = some event ↔ OnlyEvent accepts evidence event := by
  rw [onlyOne_filter_iff (uniqueEvents_nodup _)]
  simp only [mem_uniqueEvents, OnlyEvent]

/-- An order's one execution and an opening are each other's only match in a complete history, at known prices. -/
def ActivityMatch (orderId : String) (evidence : Evidence) (opened : Event) : Prop :=
  evidence.historyComplete = true ∧ ∃ execution,
    OnlyEvent (isExecutionOf orderId) evidence execution ∧ OnlyEvent (isCandidate execution) evidence opened ∧
      compatible execution opened = true ∧ OnlyEvent (isCompetitor opened) evidence execution

theorem isCompetitor_of_compatible {execution opened : Event} (executes : isExecutionOf orderId execution = true)
    (fits : compatible execution opened = true) : isCompetitor opened execution = true := by
  unfold isExecutionOf at executes
  unfold compatible at fits
  unfold isCompetitor
  rw [Bool.and_eq_true] at executes fits ⊢
  exact ⟨executes.1, fits.2⟩

theorem competitors_iff {execution opened : Event} (competes : isCompetitor opened execution = true)
    (member : execution ∈ evidence.events) :
    ((uniqueEvents evidence.events).filter (isCompetitor opened)).length = 1 ↔
      OnlyEvent (isCompetitor opened) evidence execution := by
  rw [← onlyOne_unique_iff, onlyOne_eq_some]
  constructor
  · intro alone
    obtain ⟨other, only⟩ := List.length_eq_one_iff.mp alone
    have inList : execution ∈ (uniqueEvents evidence.events).filter (isCompetitor opened) :=
      List.mem_filter.mpr ⟨mem_uniqueEvents.mpr member, competes⟩
    rw [only, List.mem_singleton] at inList
    rw [only, inList]
  · intro only
    rw [only]
    rfl

theorem matchedOpen_eq_some_iff {opened : Event} :
    matchedOpen orderId evidence = some opened ↔ ActivityMatch orderId evidence opened := by
  unfold matchedOpen ActivityMatch
  dsimp only
  rw [Option.bind_eq_some_iff]
  simp only [onlyOne_unique_iff]
  cases evidence.historyComplete with
  | false => simp
  | true =>
    simp only [if_true, true_and, Option.filter_eq_some_iff, onlyOne_unique_iff, Bool.and_eq_true, beq_iff_eq]
    refine exists_congr fun execution => and_congr_right fun executes => and_congr_right fun _ =>
      and_congr_right fun fits => ?_
    exact competitors_iff (isCompetitor_of_compatible executes.1.2 fits) executes.1.1

/-- Two orders are not matched with one opening. -/
theorem ActivityMatch.order_unique {first second : String} {opened : Event}
    (one : ActivityMatch first evidence opened) (two : ActivityMatch second evidence opened) : first = second := by
  obtain ⟨-, execution, ⟨⟨-, executes⟩, -⟩, -, -, ⟨-, only⟩⟩ := one
  obtain ⟨-, other, ⟨⟨-, others⟩, -⟩, -, -, ⟨⟨member, competes⟩, -⟩⟩ := two
  obtain rfl := only other member competes
  unfold isExecutionOf at executes others
  rw [Bool.and_eq_true, beq_iff_eq, beq_iff_eq] at executes others
  exact executes.2.symm.trans others.2

end Matching

section Claims

variable {orderId : String} {positionId : Option String} {evidence other : Evidence}

/-- The state and position do not depend on how the evidence is told. -/
def OrderFree (orderId : String) (positionId : Option String) (evidence : Evidence) : Prop :=
  ∀ other, Rearranges evidence other → outcome orderId positionId other = outcome orderId positionId evidence

/-- The position is open, or the latest closing events of it tell of one exit. -/
def OpenOrAgreed (id : String) (evidence : Evidence) : Prop :=
  (∃ position ∈ evidence.positions, position.id = id) ∨ ClosesAgree id evidence

/-- At most one live position is filed under the order, and a position that is not open has one latest exit. -/
def Settled (orderId : String) (positionId : Option String) (evidence : Evidence) : Prop :=
  orderId ∈ evidence.pending ∨
    match positionId with
    | some id => OpenOrAgreed id evidence
    | none =>
      (∀ first ∈ evidence.positions, ∀ second ∈ evidence.positions,
          first.orderId = orderId → second.orderId = orderId → first = second) ∧
        ((∃ position ∈ evidence.positions, position.orderId = orderId) ∨
          ∀ opened, ActivityMatch orderId evidence opened → OpenOrAgreed opened.id evidence)

theorem Rearranges.pending_iff (same : Rearranges evidence other) :
    orderId ∈ other.pending ↔ orderId ∈ evidence.pending := same.pending.mem_iff

theorem liveOf_eq_none : liveOf orderId evidence = none ↔ ¬ ∃ position ∈ evidence.positions,
    position.orderId = orderId := by
  unfold liveOf
  simp

theorem liveOf_eq_some {position : Position} (live : liveOf orderId evidence = some position) :
    position ∈ evidence.positions ∧ position.orderId = orderId := by
  unfold liveOf at live
  exact ⟨List.mem_of_find?_eq_some live, by simpa using List.find?_some live⟩

theorem Rearranges.liveOf_eq (same : Rearranges evidence other)
    (one : ∀ first ∈ evidence.positions, ∀ second ∈ evidence.positions,
      first.orderId = orderId → second.orderId = orderId → first = second) :
    liveOf orderId other = liveOf orderId evidence := by
  cases here : liveOf orderId evidence with
  | none =>
    rw [liveOf_eq_none] at here ⊢
    rintro ⟨position, member, filed⟩
    exact here ⟨position, same.positions.mem_iff.mp member, filed⟩
  | some first =>
    obtain ⟨firstMember, firstFiled⟩ := liveOf_eq_some here
    cases there : liveOf orderId other with
    | none => exact absurd ⟨first, same.positions.mem_iff.mpr firstMember, firstFiled⟩ (liveOf_eq_none.mp there)
    | some second =>
      obtain ⟨secondMember, secondFiled⟩ := liveOf_eq_some there
      rw [one second (same.positions.mem_iff.mp secondMember) first firstMember secondFiled firstFiled]

/-- One of an evidence's positions moved to the front. -/
def Evidence.listedFirst (evidence : Evidence) (position : Position) : Evidence :=
  { evidence with positions := position :: evidence.positions.erase position }

theorem rearranges_listedFirst {position : Position} (member : position ∈ evidence.positions) :
    Rearranges evidence (evidence.listedFirst position) where
  pending := List.Perm.refl _
  positions := (List.perm_cons_erase member).symm
  events := ⟨[], fun event none' => absurd none' List.not_mem_nil, by rw [List.append_nil]; exact List.Perm.refl _⟩
  historyComplete := rfl

theorem liveOf_listedFirst {position : Position} (filed : position.orderId = orderId) :
    liveOf orderId (evidence.listedFirst position) = some position := by
  simp [liveOf, Evidence.listedFirst, filed]

theorem outcome_live {position : Position} (placed : orderId ∉ evidence.pending)
    (live : liveOf orderId evidence = some position) :
    outcome orderId none evidence = (.openPosition position.id, some position.id) := by
  rw [outcome_eq, if_neg placed]
  dsimp only
  rw [live]

theorem outcome_unlive (placed : orderId ∉ evidence.pending) (unlive : liveOf orderId evidence = none) :
    outcome orderId none evidence =
      match matchedOpen orderId evidence with
      | some opened => (openedState opened.id evidence, some opened.id)
      | none => (unmatchedState orderId evidence, none) := by
  rw [outcome_eq, if_neg placed]
  dsimp only
  rw [unlive]

theorem id_injective (distinct : (evidence.positions.map (·.id)).Nodup) {first second : Position}
    (one : first ∈ evidence.positions) (two : second ∈ evidence.positions) (same : first.id = second.id) :
    first = second :=
  List.inj_on_of_nodup_map distinct one two same

theorem orderFree_stored_iff {id : String} (placed : orderId ∉ evidence.pending) :
    OrderFree orderId (some id) evidence ↔ OpenOrAgreed id evidence := by
  unfold OrderFree OpenOrAgreed
  rw [← openedState_rearranged_iff]
  refine forall₂_congr fun other same => ?_
  rw [outcome_eq, outcome_eq, if_neg (same.pending_iff.not.mpr placed), if_neg placed]
  simp only [Prod.mk.injEq, and_true]

theorem orderFree_activity_iff (placed : orderId ∉ evidence.pending) (unlive : liveOf orderId evidence = none) :
    OrderFree orderId none evidence ↔
      ∀ opened, ActivityMatch orderId evidence opened → OpenOrAgreed opened.id evidence := by
  have still {other : Evidence} (same : Rearranges evidence other) : liveOf orderId other = none := by
    rw [liveOf_eq_none] at unlive ⊢
    rintro ⟨position, member, filed⟩
    exact unlive ⟨position, same.positions.mem_iff.mp member, filed⟩
  have told (other : Evidence) (same : Rearranges evidence other) :
      outcome orderId none other = outcome orderId none evidence ↔
        ∀ opened, matchedOpen orderId evidence = some opened →
          openedState opened.id other = openedState opened.id evidence := by
    rw [outcome_unlive (same.pending_iff.not.mpr placed) (still same), outcome_unlive placed unlive,
      same.matchedOpen_eq, same.unmatchedState_eq]
    cases matchedOpen orderId evidence with
    | none => simp
    | some opened => simp
  unfold OrderFree
  rw [forall₂_congr told]
  simp only [matchedOpen_eq_some_iff]
  constructor
  · intro free opened matched
    exact openedState_rearranged_iff.mp fun other same => free other same opened matched
  · intro settled other same opened matched
    exact openedState_rearranged_iff.mpr (settled opened matched) other same

theorem orderFree_iff (distinct : (evidence.positions.map (·.id)).Nodup) (orderId : String)
    (positionId : Option String) : OrderFree orderId positionId evidence ↔ Settled orderId positionId evidence := by
  unfold Settled
  by_cases pending : orderId ∈ evidence.pending
  · refine ⟨fun _ => .inl pending, fun _ other same => ?_⟩
    rw [outcome_eq, outcome_eq, if_pos (same.pending_iff.mpr pending), if_pos pending]
  · rw [or_iff_right pending]
    cases positionId with
    | some id => exact orderFree_stored_iff pending
    | none =>
      dsimp only
      by_cases filed : ∃ position ∈ evidence.positions, position.orderId = orderId
      · rw [and_iff_left (.inl filed)]
        constructor
        · intro free first firstMember second secondMember firstFiled secondFiled
          have one := free _ (rearranges_listedFirst firstMember)
          have two := free _ (rearranges_listedFirst secondMember)
          have stillPlaced (position : Position) : orderId ∉ (evidence.listedFirst position).pending := pending
          rw [outcome_live (stillPlaced first) (liveOf_listedFirst firstFiled)] at one
          rw [outcome_live (stillPlaced second) (liveOf_listedFirst secondFiled)] at two
          have ids := Option.some.inj (Prod.mk.inj (one.trans two.symm)).2
          exact id_injective distinct firstMember secondMember ids
        · intro single other same
          have live := same.liveOf_eq single
          cases here : liveOf orderId evidence with
          | none => exact absurd filed (liveOf_eq_none.mp here)
          | some position =>
            rw [outcome_live pending here,
              outcome_live (same.pending_iff.not.mpr pending) (live.trans here)]
      · have unlive := liveOf_eq_none.mpr filed
        have single : ∀ first ∈ evidence.positions, ∀ second ∈ evidence.positions,
            first.orderId = orderId → second.orderId = orderId → first = second := by
          intro first member _ _ named
          exact absurd ⟨first, member, named⟩ filed
        rw [orderFree_activity_iff pending unlive, or_iff_right filed, and_iff_right single]

/-- No position is attributed to both orders. -/
def NeverBoth (first second : String) (evidence : Evidence) : Prop :=
  ∀ id, ¬ ((outcome first none evidence).2 = some id ∧ (outcome second none evidence).2 = some id)

/-- The order without a live position is matched with an opening of the one that the other order has. -/
def ClaimsLive (live matched : String) (evidence : Evidence) : Prop :=
  ∃ position opened, liveOf live evidence = some position ∧ liveOf matched evidence = none ∧
    ActivityMatch matched evidence opened ∧ opened.id = position.id

/-- The orders are matched with two openings of one position. -/
def ShareOpening (first second : String) (evidence : Evidence) : Prop :=
  liveOf first evidence = none ∧ liveOf second evidence = none ∧ ∃ one other, ActivityMatch first evidence one ∧
    ActivityMatch second evidence other ∧ one ≠ other ∧ one.id = other.id

/-- What an order that is not pending is attributed to. -/
theorem attributed_iff (placed : orderId ∉ evidence.pending) {id : String} :
    (outcome orderId none evidence).2 = some id ↔
      (∃ position, liveOf orderId evidence = some position ∧ position.id = id) ∨
        (liveOf orderId evidence = none ∧ ∃ opened, ActivityMatch orderId evidence opened ∧ opened.id = id) := by
  cases live : liveOf orderId evidence with
  | some position =>
    rw [outcome_live placed live]
    simp
  | none =>
    rw [outcome_unlive placed live]
    simp only [← matchedOpen_eq_some_iff]
    cases matchedOpen orderId evidence with
    | none => simp
    | some opened => simp

theorem neverBoth_iff (distinct : (evidence.positions.map (·.id)).Nodup) {first second : String}
    (different : first ≠ second) :
    NeverBoth first second evidence ↔
      first ∈ evidence.pending ∨ second ∈ evidence.pending ∨
        (¬ ClaimsLive first second evidence ∧ ¬ ClaimsLive second first evidence ∧
          ¬ ShareOpening first second evidence) := by
  have unattributed {orderId : String} (pending : orderId ∈ evidence.pending) :
      (outcome orderId none evidence).2 = none := by
    rw [outcome_eq, if_pos pending]
  by_cases firstPending : first ∈ evidence.pending
  · refine ⟨fun _ => .inl firstPending, fun _ id both => ?_⟩
    rw [unattributed firstPending] at both
    cases both.1
  by_cases secondPending : second ∈ evidence.pending
  · refine ⟨fun _ => .inr (.inl secondPending), fun _ id both => ?_⟩
    rw [unattributed secondPending] at both
    cases both.2
  rw [or_iff_right firstPending, or_iff_right secondPending]
  constructor
  · intro never
    refine ⟨?_, ?_, ?_⟩
    · rintro ⟨position, opened, live, unlive, matched, same⟩
      exact never position.id ⟨(attributed_iff firstPending).mpr (.inl ⟨position, live, rfl⟩),
        (attributed_iff secondPending).mpr (.inr ⟨unlive, opened, matched, same⟩)⟩
    · rintro ⟨position, opened, live, unlive, matched, same⟩
      exact never position.id ⟨(attributed_iff firstPending).mpr (.inr ⟨unlive, opened, matched, same⟩),
        (attributed_iff secondPending).mpr (.inl ⟨position, live, rfl⟩)⟩
    · rintro ⟨firstUnlive, secondUnlive, one, other, firstMatched, secondMatched, -, same⟩
      exact never other.id ⟨(attributed_iff firstPending).mpr (.inr ⟨firstUnlive, one, firstMatched, same⟩),
        (attributed_iff secondPending).mpr (.inr ⟨secondUnlive, other, secondMatched, rfl⟩)⟩
  · rintro ⟨firstClaims, secondClaims, shared⟩ id ⟨firstHas, secondHas⟩
    rcases (attributed_iff firstPending).mp firstHas with ⟨one, firstLive, rfl⟩ | ⟨firstUnlive, one, firstMatched, rfl⟩
    · rcases (attributed_iff secondPending).mp secondHas with ⟨two, live, same⟩ | ⟨unlive, two, matched, same⟩
      · obtain ⟨oneMember, oneFiled⟩ := liveOf_eq_some firstLive
        obtain ⟨twoMember, twoFiled⟩ := liveOf_eq_some live
        obtain rfl := id_injective distinct twoMember oneMember same
        exact different (oneFiled.symm.trans twoFiled)
      · exact firstClaims ⟨one, two, firstLive, unlive, matched, same⟩
    · rcases (attributed_iff secondPending).mp secondHas with ⟨two, live, same⟩ | ⟨unlive, two, matched, same⟩
      · exact secondClaims ⟨two, one, live, firstUnlive, firstMatched, same.symm⟩
      · refine shared ⟨firstUnlive, unlive, one, two, firstMatched, matched, ?_, same.symm⟩
        rintro rfl
        exact different (firstMatched.order_unique matched)

/-- An attempt's resolution does not depend on how the evidence is told exactly where it is settled, and two orders
without a stored position are attributed to different positions exactly where neither claims a position that is
listed or opened for the other. -/
theorem resolution_iff (distinct : (evidence.positions.map (·.id)).Nodup) :
    (∀ orderId positionId, OrderFree orderId positionId evidence ↔ Settled orderId positionId evidence) ∧
      ∀ first second, first ≠ second →
        (NeverBoth first second evidence ↔
          first ∈ evidence.pending ∨ second ∈ evidence.pending ∨
            (¬ ClaimsLive first second evidence ∧ ¬ ClaimsLive second first evidence ∧
              ¬ ShareOpening first second evidence)) :=
  ⟨orderFree_iff distinct, fun _ _ => neverBoth_iff distinct⟩

end Claims

/-- A position opened at the broker a second before the execution of the order, and listed under its bracket's id. -/
def bracketEvidence : Evidence where
  pending := []
  positions := [⟨"27390230", "27024729", some (6985 / 10000), some 0⟩]
  events := [⟨.opened, "27390230", "AUD/USD", .long, "USD", 84 / 100, 0, some (6985 / 10000)⟩,
    ⟨.execute, "27024719", "AUD/USD", .long, "USD", 84 / 100, seconds 1, some (6985 / 10000)⟩]
  historyComplete := true

/-- The bracket's own order has one live position, so its resolution is the same however the evidence is told. -/
theorem bracketEvidence_settled : OrderFree "27024729" none bracketEvidence :=
  ((resolution_iff (by decide +kernel)).1 "27024729" none).mpr
    (.inr ⟨by decide +kernel, .inl (by decide +kernel)⟩)

/-- Both the order and its bracket are resolved to the one position. -/
theorem bracketEvidence_claimed_twice : ¬ NeverBoth "27024719" "27024729" bracketEvidence := by
  intro never
  exact never "27390230" (by decide +kernel)

end TradeControl.AttemptResolution
