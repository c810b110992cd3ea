import TradeControl.CTrader.Wire
import TradeControl.Foundation.RankedValues
import TradeControl.HoldRelease

namespace TradeControl

open Foundation CTrader

/-! The stored list of hold reasons, against the set that it stands for. -/

/-- The order of declaration. -/
def HoldReason.rank : HoldReason → Nat
  | .spreadHour => 0
  | .newsPause => 1
  | .marketHours => 2
  | .maAlignment => 3

theorem HoldReason.rank_injective : Function.Injective HoldReason.rank := by
  intro first second same
  cases first <;> cases second <;> first | rfl | cases same

instance : LinearOrder HoldReason := LinearOrder.lift' HoldReason.rank HoldReason.rank_injective

def HoldReason.asStr : HoldReason → String
  | .spreadHour => "spread-hour"
  | .newsPause => "news-pause"
  | .marketHours => "market-hours"
  | .maAlignment => "ma-alignment"

/-- The reason with this label. -/
def HoldReason.ofStr (label : String) : Option HoldReason := HoldReason.all.find? (·.asStr = label)

/-- The reasons holding an order, as the record stores them. -/
structure HolderList where
  reasons : List HoldReason
  deriving DecidableEq

namespace HolderList

def empty : HolderList := ⟨[]⟩

/-- `Holders::hold`; the flag says whether the reason is new. -/
def hold (held : HolderList) (reason : HoldReason) : HolderList × Bool :=
  match binarySearch held.reasons reason with
  | .ok _ => (held, false)
  | .error place => (⟨held.reasons.insertIdx place reason⟩, true)

/-- `Holders::release`. -/
def release (held : HolderList) (reason : HoldReason) : HolderList × Release :=
  match binarySearch held.reasons reason with
  | .error _ => (held, .notHeld)
  | .ok place =>
    let rest := held.reasons.eraseIdx place
    (⟨rest⟩, if rest.isEmpty then .emptied else .stillHeld)

def serialize (held : HolderList) : Json := .array (held.reasons.map fun reason => .text reason.asStr)

/-- A stored reason; a variant may also be written as an object that maps its label to null. -/
def readReason : Json → Option HoldReason
  | .text label => HoldReason.ofStr label
  | .object [(label, .null)] => HoldReason.ofStr label
  | _ => none

/-- The derived decoder: it takes the reasons as they come. -/
def deserialize : Json → Option HolderList
  | .array items => (items.mapM readReason).map .mk
  | _ => none

end HolderList

/-- What is done to a record's holders between two looks at it. -/
inductive HolderOp
  | hold (reason : HoldReason)
  | release (reason : HoldReason)
  | reload
  deriving DecidableEq

def HolderOp.names (reason : HoldReason) : HolderOp → Bool
  | .hold other | .release other => other == reason
  | .reload => false

/-- The holders after an operation, and what a release answers; a record that cannot be decoded has none. -/
def HolderList.step (held : HolderList) : HolderOp → Option (HolderList × Option Release)
  | .hold reason => some ((held.hold reason).1, none)
  | .release reason => some ((held.release reason).1, some (held.release reason).2)
  | .reload => (HolderList.deserialize held.serialize).map (·, none)

/-- The holders after the operations, and the answers so far. -/
def HolderList.run (held : HolderList) : List HolderOp → Option (HolderList × List Release)
  | [] => some (held, [])
  | op :: later => do
    let (next, answer) ← held.step op
    let (last, answers) ← next.run later
    return (last, answer.toList ++ answers)

section
variable {held : HolderList} {reason : HoldReason}

/-- The list ascends without repeats. -/
def HolderList.Ordered (held : HolderList) : Prop := held.reasons.Pairwise (· < ·)

theorem HolderList.absent_of_error (ordered : held.Ordered) {place : Nat}
    (searched : binarySearch held.reasons reason = .error place) : reason ∉ held.reasons := by
  obtain ⟨_, below, above⟩ := binarySearch_error (ordered.imp le_of_lt) searched
  intro member
  obtain ⟨at_, found⟩ := List.mem_iff_getElem?.mp member
  rcases Nat.lt_or_ge at_ place with before | after
  · exact lt_irrefl _ (below at_ reason before found)
  · exact lt_irrefl _ (above at_ reason after found)

theorem HolderList.hold_spec (ordered : held.Ordered) (reason : HoldReason) :
    (held.hold reason).1.Ordered ∧
      (∀ other, other ∈ (held.hold reason).1.reasons ↔ other = reason ∨ other ∈ held.reasons) ∧
      ((held.hold reason).2 = true ↔ reason ∉ held.reasons) := by
  unfold hold
  cases searched : binarySearch held.reasons reason with
  | ok place =>
    have member : reason ∈ held.reasons := List.mem_of_getElem? (binarySearch_ok searched)
    refine ⟨ordered, fun other => ⟨.inr, ?_⟩, by simp [member]⟩
    rintro (rfl | held)
    · exact member
    · exact held
  | error place =>
    have absent := absent_of_error ordered searched
    obtain ⟨inside, below, above⟩ := binarySearch_error (ordered.imp le_of_lt) searched
    exact ⟨pairwise_insertIdx ordered below above, fun other => List.mem_insertIdx inside, by simp [absent]⟩

theorem HolderList.release_spec (ordered : held.Ordered) (reason : HoldReason) :
    (held.release reason).1.Ordered ∧
      (∀ other, other ∈ (held.release reason).1.reasons ↔ other ≠ reason ∧ other ∈ held.reasons) ∧
      (held.release reason).2 =
        if reason ∉ held.reasons then .notHeld
        else if (held.release reason).1.reasons = [] then .emptied else .stillHeld := by
  unfold release
  cases searched : binarySearch held.reasons reason with
  | ok place =>
    have found := binarySearch_ok searched
    have member : reason ∈ held.reasons := List.mem_of_getElem? found
    obtain ⟨inside, here⟩ := List.getElem?_eq_some_iff.mp found
    have single : held.reasons.Nodup := ordered.imp ne_of_lt
    have erased : held.reasons.eraseIdx place = held.reasons.erase reason := by
      rw [List.erase_eq_eraseIdx_of_idxOf]
      rw [← here, single.idxOf_getElem]
    refine ⟨List.Pairwise.eraseIdx place ordered, fun other => ?_, ?_⟩
    · dsimp only
      rw [erased, single.mem_erase_iff]
    · rw [if_neg (not_not_intro member)]
      simp only [List.isEmpty_iff]
  | error place =>
    have absent := absent_of_error ordered searched
    refine ⟨ordered, fun other => ⟨fun held => ⟨fun same => absent (same ▸ held), held⟩, And.right⟩, ?_⟩
    rw [if_pos absent]

theorem HolderList.release_emptied_iff (ordered : held.Ordered) :
    (held.release reason).2 = .emptied ↔ held.reasons ≠ [] ∧ (held.release reason).1.reasons = [] := by
  obtain ⟨_, kept, answer⟩ := release_spec ordered reason
  rw [answer]
  by_cases absent : reason ∉ held.reasons
  · rw [if_pos absent]
    refine ⟨nofun, fun ⟨some_, empty⟩ => ?_⟩
    obtain ⟨first, member⟩ := List.exists_mem_of_ne_nil _ some_
    have remains := (kept first).mpr ⟨fun same => absent (same ▸ member), member⟩
    rw [empty] at remains
    cases remains
  · rw [if_neg absent]
    have some_ : held.reasons ≠ [] := List.ne_nil_of_mem (not_not.mp absent)
    by_cases empty : (held.release reason).1.reasons = [] <;> simp [empty, some_]

end

@[simp] theorem HoldReason.ofStr_asStr (reason : HoldReason) : HoldReason.ofStr reason.asStr = some reason := by
  cases reason <;> decide

/-- What was stored is read back as it was. -/
@[simp] theorem HolderList.deserialize_serialize (held : HolderList) :
    HolderList.deserialize held.serialize = some held := by
  have read (reasons : List HoldReason) :
      (reasons.map fun reason => Json.text reason.asStr).mapM readReason = some reasons := by
    induction reasons with
    | nil => rfl
    | cons first rest ih =>
      rw [List.map_cons, List.mapM_cons, ih]
      simp [readReason]
  simp [serialize, deserialize, read]

/-- The set that a list stands for. -/
def HolderList.holders (held : HolderList) : Holders := held.reasons.toFinset

section
variable {held : HolderList} (reason : HoldReason)

end

/-- Whether the last operation on a reason, if any, held it. -/
def heldLast (reason : HoldReason) (ops : List HolderOp) (atFirst : Prop) : Prop :=
  match ops.reverse.find? (·.names reason) with
  | some op => op = .hold reason
  | none => atFirst

/-- One for a hold that finds the order free: it begins an episode. -/
def HolderList.begins (held : HolderList) : HolderOp → Nat
  | .hold _ => if held.reasons = [] then 1 else 0
  | .release _ | .reload => 0

/-- The episodes that the operations begin. -/
def HolderList.episodes (held : HolderList) : List HolderOp → Nat
  | [] => 0
  | op :: later => held.begins op + ((held.step op).map fun stepped => stepped.1.episodes later).getD 0

/-- One while an episode lasts. -/
def HolderList.lasting (held : HolderList) : Nat := if held.reasons = [] then 0 else 1

/-- What one operation does: the list stays in order, the reason it names is held or not, and an answer
of `emptied` ends what an episode began. -/
theorem HolderList.step_spec {held : HolderList} (ordered : held.Ordered) (op : HolderOp) :
    ∃ next answer, held.step op = some (next, answer) ∧ next.Ordered ∧
      (∀ reason, reason ∈ next.reasons ↔ if op.names reason then op = .hold reason else reason ∈ held.reasons) ∧
      held.lasting + held.begins op = answer.toList.count .emptied + next.lasting := by
  cases op with
  | hold reason =>
    obtain ⟨kept, members, _⟩ := hold_spec ordered reason
    refine ⟨_, _, rfl, kept, fun other => ?_, ?_⟩
    · simp only [members other, HolderOp.names, beq_iff_eq]
      by_cases same : reason = other
      · simp [same]
      · simp [same, Ne.symm same]
    · have holds : (held.hold reason).1.reasons ≠ [] := List.ne_nil_of_mem ((members reason).mpr (.inl rfl))
      unfold lasting begins
      rw [if_neg holds]
      by_cases free : held.reasons = [] <;> simp [free]
  | release reason =>
    obtain ⟨kept, members, _⟩ := release_spec ordered reason
    refine ⟨_, _, rfl, kept, fun other => ?_, ?_⟩
    · simp only [members other, HolderOp.names, beq_iff_eq]
      by_cases same : reason = other
      · simp [same]
      · simp [same, Ne.symm same]
    · have emptied : (held.release reason).2 = .emptied ↔ _ := release_emptied_iff ordered
      unfold lasting begins
      by_cases free : held.reasons = []
      · have none : (held.release reason).1.reasons = [] := List.eq_nil_iff_forall_not_mem.mpr fun other member => by
          have earlier := ((members other).mp member).2
          rw [free] at earlier
          cases earlier
        have silent : (held.release reason).2 ≠ .emptied := fun ends => (emptied.mp ends).1 free
        simp [free, none, silent]
      · by_cases last : (held.release reason).1.reasons = []
        · simp [free, last, emptied.mpr ⟨free, last⟩]
        · have silent : (held.release reason).2 ≠ .emptied := fun ends => last (emptied.mp ends).2
          simp [free, last, silent]
  | reload =>
    refine ⟨held, none, by simp [step], ordered, fun other => by simp [HolderOp.names], by simp [begins]⟩

/-- What any operations come to from a list in order. -/
theorem HolderList.run_spec {held : HolderList} (ordered : held.Ordered) (ops : List HolderOp) :
    ∃ last answers, held.run ops = some (last, answers) ∧ last.Ordered ∧
      (∀ reason, reason ∈ last.reasons ↔ heldLast reason ops (reason ∈ held.reasons)) ∧
      held.lasting + held.episodes ops = answers.count .emptied + last.lasting := by
  induction ops generalizing held with
  | nil => exact ⟨held, [], rfl, ordered, fun reason => Iff.rfl, by simp [episodes]⟩
  | cons op later ih =>
    obtain ⟨next, answer, stepped, kept, members, counted⟩ := step_spec ordered op
    obtain ⟨last, answers, ran, keptLast, membersLast, countedLast⟩ := ih kept
    refine ⟨last, answer.toList ++ answers, ?_, keptLast, fun reason => ?_, ?_⟩
    · simp [run, stepped, ran]
    · rw [membersLast reason]
      unfold heldLast
      rw [List.reverse_cons, List.find?_append]
      cases found : later.reverse.find? (·.names reason) with
      | some named => rfl
      | none =>
        dsimp only
        rw [members reason, Option.none_or, List.find?_singleton]
        by_cases named : op.names reason = true
        · simp [named]
        · simp [named]
    · rw [episodes, stepped, List.count_append, Option.map_some, Option.getD_some]
      dsimp only
      omega

/-- Whatever is held and released, and however often the list is stored and read back, it stays sorted
without repeats and names the reasons that were held last; a release answers `emptied` exactly if it
takes the last reason off the list, and that happens once for every episode that has ended. -/
theorem holderList_refcount (ops : List HolderOp) :
    ∃ held answers, HolderList.empty.run ops = some (held, answers) ∧
      held.reasons.Pairwise (· < ·) ∧
      (∀ reason, reason ∈ held.reasons ↔ ops.reverse.find? (·.names reason) = some (.hold reason)) ∧
      (∀ reason, ((held.release reason).2 = .emptied ↔
          held.reasons ≠ [] ∧ (held.release reason).1.reasons = []) ∧
        (reason ∉ held.reasons → held.release reason = (held, .notHeld))) ∧
      HolderList.empty.episodes ops = answers.count .emptied + if held.reasons = [] then 0 else 1 := by
  have begun : HolderList.empty.Ordered := List.Pairwise.nil
  obtain ⟨held, answers, ran, ordered, members, counted⟩ := HolderList.run_spec begun ops
  refine ⟨held, answers, ran, ordered, fun reason => ?_, fun reason => ⟨?_, fun absent => ?_⟩, ?_⟩
  · rw [members reason]
    unfold heldLast
    cases ops.reverse.find? (·.names reason) with
    | none => simp [HolderList.empty]
    | some op => simp
  · exact HolderList.release_emptied_iff ordered
  · unfold HolderList.release
    cases searched : binarySearch held.reasons reason with
    | ok place => exact absurd (List.mem_of_getElem? (binarySearch_ok searched)) absent
    | error place => rfl
  · have none : HolderList.empty.lasting = 0 := rfl
    rw [none, Nat.zero_add] at counted
    exact counted

end TradeControl
