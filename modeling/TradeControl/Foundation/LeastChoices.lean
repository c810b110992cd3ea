import Mathlib.Data.List.Basic
import Mathlib.Data.List.Forall2
import Mathlib.Data.Option.Basic
import Mathlib.Order.Basic
import Mathlib.Order.Lattice
import Mathlib.Order.MinMax
import Mathlib.Order.Nat

namespace Foundation

/-! A choice of one option from each list of a row, rising along the row: taking the least option that
still rises is as good as any choice. -/

section
variable {α : Type} [LinearOrder α] {early late first : α} {prev : Option α} {options : List α}
  {row : List (List α)}

/-- The least option above the last choice. -/
def leastAfter (prev : Option α) (options : List α) : Option α :=
  (options.filter fun option => prev.all (· < option)).min?

/-- The choices are from their lists, and rise from `prev` on. -/
structure Chosen (prev : Option α) (row : List (List α)) (choices : List α) : Prop where
  listed : List.Forall₂ (· ∈ ·) choices row
  rising : (prev.toList ++ choices).Pairwise (· < ·)

theorem leastAfter_eq_some (found : leastAfter prev options = some first) :
    first ∈ options ∧ (∀ last ∈ prev, last < first) ∧
      ∀ option ∈ options, (∀ last ∈ prev, last < option) → first ≤ option := by
  obtain ⟨member, least⟩ := List.min?_eq_some_iff.mp found
  obtain ⟨listed, above⟩ := List.mem_filter.mp member
  refine ⟨listed, fun last known => ?_, fun option inOptions later => least option ?_⟩
  · rw [known] at above
    exact of_decide_eq_true above
  · refine List.mem_filter.mpr ⟨inOptions, ?_⟩
    cases prev with
    | none => rfl
    | some last => exact decide_eq_true (later last rfl)

theorem leastAfter_eq_none :
    leastAfter prev options = none ↔ ∀ option ∈ options, ¬ ∀ last ∈ prev, last < option := by
  unfold leastAfter
  rw [List.min?_eq_none_iff, List.filter_eq_nil_iff]
  cases prev with
  | none => simp
  | some last => simp

theorem chosen_nil : Chosen prev [] [] := by
  refine ⟨.nil, ?_⟩
  cases prev with
  | none => exact .nil
  | some last => exact List.pairwise_singleton _ _

theorem chosen_cons {choices : List α} (chosen : Chosen (some first) row choices)
    (listed : first ∈ options) (above : ∀ last ∈ prev, last < first) :
    Chosen prev (options :: row) (first :: choices) := by
  refine ⟨.cons listed chosen.listed, ?_⟩
  cases prev with
  | none => exact chosen.rising
  | some last =>
    have rest : ∀ choice ∈ choices, first < choice := (List.pairwise_cons.mp chosen.rising).1
    refine List.pairwise_cons.mpr ⟨?_, chosen.rising⟩
    rintro choice (_ | ⟨_, member⟩)
    · exact above last rfl
    · exact (above last rfl).trans (rest choice member)

theorem Chosen.tail {choices : List α} (chosen : Chosen prev (options :: row) (first :: choices)) :
    first ∈ options ∧ (∀ last ∈ prev, last < first) ∧ Chosen (some first) row choices := by
  obtain ⟨listed, rest⟩ := List.forall₂_cons.mp chosen.listed
  cases prev with
  | none => exact ⟨listed, nofun, rest, chosen.rising⟩
  | some last =>
    obtain ⟨above, rising⟩ := List.pairwise_cons.mp chosen.rising
    refine ⟨listed, ?_, rest, rising⟩
    rintro _ ⟨⟩
    exact above first List.mem_cons_self

/-- The exchange: what rises from a later choice rises from an earlier one. -/
theorem Chosen.exchange {choices : List α} (chosen : Chosen (some late) row choices) (order : early ≤ late) :
    Chosen (some early) row choices := by
  obtain ⟨above, rising⟩ := List.pairwise_cons.mp chosen.rising
  exact ⟨chosen.listed, List.pairwise_cons.mpr ⟨fun choice member => order.trans_lt (above choice member), rising⟩⟩

/-- There is a choice for the row exactly if there is one that starts with the least option. -/
theorem exists_chosen_cons :
    (∃ choices, Chosen prev (options :: row) choices) ↔
      ∃ first, leastAfter prev options = some first ∧ ∃ choices, Chosen (some first) row choices := by
  constructor
  · rintro ⟨choices, chosen⟩
    cases choices with
    | nil => cases chosen.listed
    | cons choice rest =>
      obtain ⟨listed, above, later⟩ := chosen.tail
      cases least : leastAfter prev options with
      | none => exact absurd above (leastAfter_eq_none.mp least choice listed)
      | some first =>
        have order := (leastAfter_eq_some least).2.2 choice listed above
        exact ⟨first, rfl, rest, later.exchange order⟩
  · rintro ⟨first, least, choices, chosen⟩
    obtain ⟨listed, above, _⟩ := leastAfter_eq_some least
    exact ⟨first :: choices, chosen_cons chosen listed above⟩

end

variable {Value : Type*} {hit hit' : Nat → Option Value}

/-- The first place a search over the numbers hits, with what it finds there. -/
def IsFirst (hit : Nat → Option Value) : Option (Nat × Value) → Prop
  | none => ∀ place, hit place = none
  | some found => hit found.1 = some found.2 ∧ ∀ before < found.1, hit before = none

theorem IsFirst.le {found : Nat × Value} (first : IsFirst hit (some found)) {place : Nat}
    {value : Value} (hits : hit place = some value) : found.1 ≤ place := by
  by_contra later
  have missed := first.2 place (by omega)
  rw [hits] at missed
  cases missed

/-- A search has one first hit. -/
theorem IsFirst.unique {found found' : Option (Nat × Value)} (first : IsFirst hit found)
    (first' : IsFirst hit found') : found = found' := by
  cases found with
  | none =>
    cases found' with
    | none => rfl
    | some found' =>
      have missed := first found'.1
      rw [first'.1] at missed
      cases missed
  | some found =>
    cases found' with
    | none =>
      have missed := first' found.1
      rw [first.1] at missed
      cases missed
    | some found' =>
      have place : found.1 = found'.1 := le_antisymm (first.le first'.1) (first'.le first.1)
      have value : some found.2 = some found'.2 := by rw [← first.1, ← first'.1, place]
      exact congrArg some (Prod.ext place (Option.some.inj value))

/-- A search that misses everything below `skipped` may start there. -/
theorem IsFirst.skip {skipped : Nat} {found : Option (Nat × Value)} (first : IsFirst hit found)
    (missed : ∀ place < skipped, hit place = none) :
    ∃ rest, IsFirst (fun place => hit (skipped + place)) rest ∧
      found = rest.map fun value => (skipped + value.1, value.2) := by
  cases found with
  | none => exact ⟨none, fun place => first _, rfl⟩
  | some found =>
    obtain ⟨place, value⟩ := found
    have past : skipped ≤ place := by
      by_contra below
      have none := missed place (by omega)
      rw [first.1] at none
      cases none
    obtain ⟨place, rfl⟩ : ∃ rest, place = skipped + rest := ⟨place - skipped, by omega⟩
    exact ⟨some (place, value), ⟨first.1, fun before earlier => first.2 _ (by simpa using earlier)⟩, rfl⟩

/-- Two searches find the same first hit exactly when they agree on the first place either hits. -/
theorem IsFirst.eq_iff {found found' : Option (Nat × Value)} (first : IsFirst hit found)
    (first' : IsFirst hit' found') :
    found = found' ↔ ∀ place, (∀ before < place, hit before = none ∧ hit' before = none) →
      hit place = hit' place := by
  constructor
  · rintro rfl place before
    cases found with
    | none => rw [first place, first' place]
    | some found =>
      rcases Nat.lt_trichotomy place found.1 with earlier | rfl | later
      · rw [first.2 place earlier, first'.2 place earlier]
      · rw [first.1, first'.1]
      · have missed := (before found.1 later).1
        rw [first.1] at missed
        cases missed
  · intro agree
    have below : ∀ place, (∀ before < place, hit before = none) →
        ∀ before < place, hit before = none ∧ hit' before = none := by
      intro place missed before
      induction before using Nat.strong_induction_on with
      | _ before ih =>
        intro earlier
        have mine := missed before earlier
        exact ⟨mine, by rw [← agree before fun q lt => ih q lt (by omega), mine]⟩
    cases found with
    | none =>
      have other : IsFirst hit' none := fun place =>
        (below (place + 1) (fun before _ => first before) place (by omega)).2
      exact other.unique first'
    | some found =>
      have same := agree found.1 (below found.1 first.2)
      have other : IsFirst hit' (some found) :=
        ⟨same ▸ first.1, fun before earlier => (below found.1 first.2 before earlier).2⟩
      exact other.unique first'

end Foundation

namespace Foundation

/-! A search that some entries end. -/

section
variable {α κ : Type*} (ends hits : α → Bool)

/-- The first entry that hits, where none before it or itself ends the search. -/
def firstUnless : List α → Option α
  | [] => none
  | entry :: later => if ends entry then none else if hits entry then some entry else firstUnless later

/-- No entry hits until one ends the search. -/
def silentUntil : List α → Bool
  | [] => true
  | entry :: later => ends entry || (!hits entry && silentUntil later)

variable {ends hits} {entries : List α}

theorem firstUnless_eq_none : firstUnless ends hits entries = none ↔ silentUntil ends hits entries = true := by
  induction entries with
  | nil => exact iff_of_true rfl rfl
  | cons entry later ih =>
    rw [firstUnless, silentUntil]
    cases ends entry with
    | true => exact iff_of_true rfl rfl
    | false => cases hits entry <;> simp [ih]

theorem firstUnless_mem {found : α} (first : firstUnless ends hits entries = some found) :
    found ∈ entries ∧ ends found = false ∧ hits found = true := by
  induction entries with
  | nil => cases first
  | cons entry later ih =>
    rw [firstUnless] at first
    split at first
    · cases first
    next goes =>
      split at first
      next hit =>
        cases first
        exact ⟨List.mem_cons_self, Bool.eq_false_iff.mpr goes, hit⟩
      · obtain ⟨listed, rest⟩ := ih first
        exact ⟨List.mem_cons_of_mem _ listed, rest⟩

/-- A search does not find a key that comes before all of the keys. -/
theorem firstUnless_key_ne [Preorder κ] {key : α → κ} {early : κ} (later : ∀ found ∈ entries, early < key found) :
    (firstUnless ends hits entries).map key ≠ some early := by
  intro same
  obtain ⟨found, first, equal⟩ := Option.map_eq_some_iff.mp same
  exact absurd equal (later found (firstUnless_mem first).1).ne'

end

end Foundation
