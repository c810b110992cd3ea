import Mathlib.Algebra.BigOperators.Group.List.Basic
import Mathlib.Algebra.Order.BigOperators.Group.List
import Mathlib.Algebra.Order.Ring.Defs
import Mathlib.Data.List.AList
import Mathlib.Data.List.Perm.Subperm
import Mathlib.Data.Rat.Defs
import Mathlib.Tactic.Linarith
import Mathlib.Tactic.Ring

namespace Foundation

variable {Item Key Amount : Type} [DecidableEq Key] [Field Amount]
  {keyOf : Item → Option Key} {amountOf : Item → Amount}

/-- What a list of items has under a key. -/
def amountUnder (keyOf : Item → Option Key) (amountOf : Item → Amount) (items : List Item) (key : Key) : Amount :=
  ((items.filter fun item => keyOf item = some key).map amountOf).sum

theorem amountUnder_cons (item : Item) (items : List Item) (key : Key) :
    amountUnder keyOf amountOf (item :: items) key =
      (if keyOf item = some key then amountOf item else 0) + amountUnder keyOf amountOf items key := by
  unfold amountUnder
  by_cases own : keyOf item = some key
  · rw [List.filter_cons_of_pos (by simpa using own), List.map_cons, List.sum_cons, if_pos own]
  · rw [List.filter_cons_of_neg (by simpa using own), if_neg own, zero_add]

theorem amountUnder_perm {items items' : List Item} (same : items.Perm items') (key : Key) :
    amountUnder keyOf amountOf items key = amountUnder keyOf amountOf items' key :=
  ((same.filter _).map amountOf).sum_eq

variable [LinearOrder Amount]

/-- What a floor has beyond the items of its key. -/
def shortfall (keyOf : Item → Option Key) (amountOf : Item → Amount) (items : List Item)
    (entry : Key × Amount) : Amount :=
  max (entry.2 - amountUnder keyOf amountOf items entry.1) 0

/-- The items' total where a key with a floor counts with no less than it. -/
def flooredTotal (keyOf : Item → Option Key) (amountOf : Item → Amount) (items : List Item)
    (floors : List (Key × Amount)) : Amount :=
  (items.map amountOf).sum + (floors.map (shortfall keyOf amountOf items)).sum

theorem flooredTotal_perm {items items' : List Item} {floors floors' : List (Key × Amount)}
    (same : items.Perm items') (sameFloors : floors.Perm floors') :
    flooredTotal keyOf amountOf items floors = flooredTotal keyOf amountOf items' floors' := by
  have short : shortfall keyOf amountOf items = shortfall keyOf amountOf items' := by
    funext entry
    unfold shortfall
    rw [amountUnder_perm same]
  unfold flooredTotal
  rw [(same.map amountOf).sum_eq, short, (sameFloors.map _).sum_eq]

theorem shortfall_other {item : Item} {items : List Item} {entry : Key × Amount}
    (other : keyOf item ≠ some entry.1) :
    shortfall keyOf amountOf (item :: items) entry = shortfall keyOf amountOf items entry := by
  unfold shortfall
  rw [amountUnder_cons, if_neg other, zero_add]

theorem shortfall_nonneg {items : List Item} {entry : Key × Amount} :
    0 ≤ shortfall keyOf amountOf items entry :=
  le_max_right _ _

variable [IsStrictOrderedRing Amount]

/-- An item lessens its key's shortfall by its amount at most. -/
theorem shortfall_cons {item : Item} (nonneg : 0 ≤ amountOf item) (items : List Item) (entry : Key × Amount) :
    shortfall keyOf amountOf items entry ≤ amountOf item + shortfall keyOf amountOf (item :: items) entry := by
  by_cases own : keyOf item = some entry.1
  · unfold shortfall
    rw [amountUnder_cons, if_pos own]
    refine max_le ?_ (add_nonneg nonneg (le_max_right _ _))
    have := le_max_left (entry.2 - (amountOf item + amountUnder keyOf amountOf items entry.1)) 0
    linarith
  · rw [shortfall_other own]
    linarith

/-- Where each key has one floor, an item lessens what the floors are short of by no more than its
amount. -/
theorem shortfalls_cons {item : Item} (nonneg : 0 ≤ amountOf item) (items : List Item)
    {floors : List (Key × Amount)} (distinct : (floors.map Prod.fst).Nodup) :
    (floors.map (shortfall keyOf amountOf items)).sum ≤
      amountOf item + (floors.map (shortfall keyOf amountOf (item :: items))).sum := by
  induction floors with
  | nil => simpa using nonneg
  | cons entry rest ih =>
    rw [List.map_cons, List.nodup_cons] at distinct
    simp only [List.map_cons, List.sum_cons]
    by_cases own : keyOf item = some entry.1
    · have others : rest.map (shortfall keyOf amountOf (item :: items)) =
          rest.map (shortfall keyOf amountOf items) := by
        refine List.map_congr_left fun other listed => shortfall_other fun same => distinct.1 ?_
        rw [Option.some.inj (own.symm.trans same)]
        exact List.mem_map_of_mem listed
      have first : shortfall keyOf amountOf items entry ≤
          amountOf item + shortfall keyOf amountOf (item :: items) entry := shortfall_cons nonneg items entry
      rw [others]
      linarith
    · have rest := ih distinct.2
      rw [shortfall_other own]
      linarith

theorem flooredTotal_append {more : List Item} (nonneg : ∀ item ∈ more, 0 ≤ amountOf item) (items : List Item)
    {floors : List (Key × Amount)} (distinct : (floors.map Prod.fst).Nodup) :
    flooredTotal keyOf amountOf items floors ≤ flooredTotal keyOf amountOf (more ++ items) floors := by
  induction more with
  | nil => exact le_rfl
  | cons item rest ih =>
    refine (ih fun other listed => nonneg other (List.mem_cons_of_mem _ listed)).trans ?_
    have short : (floors.map (shortfall keyOf amountOf (rest ++ items))).sum ≤
        amountOf item + (floors.map (shortfall keyOf amountOf (item :: (rest ++ items)))).sum :=
      shortfalls_cons (nonneg item List.mem_cons_self) (rest ++ items) distinct
    unfold flooredTotal
    rw [List.cons_append, List.map_cons, List.sum_cons]
    linarith

/-- With more items that are worth something and more floors there is no less in total. -/
theorem flooredTotal_mono {items items' : List Item} {floors floors' : List (Key × Amount)}
    (nonneg : ∀ item ∈ items', 0 ≤ amountOf item) (distinct : (floors'.map Prod.fst).Nodup)
    (more : items.Subperm items') (higher : floors.Subperm floors') :
    flooredTotal keyOf amountOf items floors ≤ flooredTotal keyOf amountOf items' floors' := by
  obtain ⟨some_, same, sub⟩ := more
  obtain ⟨extra, whole⟩ := sub.exists_perm_append
  have all : items'.Perm (extra ++ items) :=
    whole.trans ((same.append_right extra).trans List.perm_append_comm)
  obtain ⟨someFloors, sameFloors, subFloors⟩ := higher
  have ended : (floors.map (shortfall keyOf amountOf items')).sum ≤
      (floors'.map (shortfall keyOf amountOf items')).sum := by
    rw [← (sameFloors.map _).sum_eq]
    refine (subFloors.map _).sum_le_sum fun short member => ?_
    obtain ⟨entry, _, rfl⟩ := List.mem_map.mp member
    exact shortfall_nonneg
  have keys : (floors.map Prod.fst).Nodup :=
    ((sameFloors.map _).nodup_iff).mp (distinct.sublist (subFloors.map _))
  calc flooredTotal keyOf amountOf items floors
      ≤ flooredTotal keyOf amountOf (extra ++ items) floors :=
        flooredTotal_append
          (fun item listed => nonneg item (all.mem_iff.mpr (List.mem_append_left _ listed))) items keys
    _ = flooredTotal keyOf amountOf items' floors := flooredTotal_perm all.symm (List.Perm.refl _)
    _ ≤ flooredTotal keyOf amountOf items' floors' := by
        unfold flooredTotal
        linarith

end Foundation

namespace Foundation

/-- A map from keys to values. -/
abbrev KeyedMap (Key Value : Type) := AList fun _ : Key => Value

section
variable {Key Value : Type}

/-- The map without the entries that fail a test. -/
def KeyedMap.retain (map : KeyedMap Key Value) (keep : Key → Value → Bool) : KeyedMap Key Value :=
  ⟨map.entries.filter fun entry => keep entry.1 entry.2, map.nodupKeys.sublist List.filter_sublist⟩

/-- A map that a test loses nothing of passes it everywhere. -/
theorem KeyedMap.retain_eq_self {map : KeyedMap Key Value} {keep : Key → Value → Bool} :
    map.retain keep = map ↔ ∀ entry ∈ map.entries, keep entry.1 entry.2 = true := by
  rw [AList.ext_iff]
  exact List.filter_eq_self

variable [DecidableEq Key]

theorem KeyedMap.mem_lookup_retain {map : KeyedMap Key Value} {keep : Key → Value → Bool} {key : Key}
    {value : Value} :
    value ∈ (map.retain keep).lookup key ↔ value ∈ map.lookup key ∧ keep key value = true := by
  rw [AList.mem_lookup_iff, AList.mem_lookup_iff]
  exact List.mem_filter

theorem KeyedMap.mem_iff {map : KeyedMap Key Value} {key : Key} :
    key ∈ map ↔ ∃ value, value ∈ map.lookup key := by
  rw [← AList.lookup_isSome, Option.isSome_iff_exists]
  rfl

end

section
variable {Key : Type} [DecidableEq Key]

/-- The sum of a map's amounts. -/
def KeyedMap.total (map : KeyedMap Key Rat) : Rat := (map.entries.map Sigma.snd).sum

theorem KeyedMap.total_erase (map : KeyedMap Key Rat) (key : Key) :
    KeyedMap.total (map.erase key) + (map.lookup key).getD 0 = map.total := by
  have entries : ∀ list : List (Σ _ : Key, Rat),
      ((list.kerase key).map Sigma.snd).sum + (list.dlookup key).getD 0 = (list.map Sigma.snd).sum := by
    intro list
    induction list with
    | nil => simp
    | cons entry rest ih =>
      by_cases same : key = entry.1
      · obtain ⟨_, amount⟩ := entry
        cases same
        simp [List.kerase_cons_eq, List.dlookup_cons_eq]
        ring
      · rw [List.kerase_cons_ne same, List.map_cons, List.sum_cons, List.dlookup_cons_ne _ _ same,
          List.map_cons, List.sum_cons, ← ih]
        ring
  exact entries map.entries

/-- The map with an amount more under a key. -/
def KeyedMap.add (map : KeyedMap Key Rat) (key : Key) (amount : Rat) : KeyedMap Key Rat :=
  map.insert key ((map.lookup key).getD 0 + amount)

/-- What a map has after amounts were added to it: their sum, under the keys that were named. -/
theorem KeyedMap.lookup_foldl_add {Item : Type} {keyOf : Item → Key} {amountOf : Item → Rat} {items : List Item}
    {map : KeyedMap Key Rat} (key : Key) :
    (items.foldl (fun map item => KeyedMap.add map (keyOf item) (amountOf item)) map).lookup key =
      if ∃ item ∈ items, keyOf item = key then
        some ((map.lookup key).getD 0 + ((items.filter fun item => keyOf item = key).map amountOf).sum)
      else map.lookup key := by
  induction items generalizing map with
  | nil => simp
  | cons item rest ih =>
    rw [List.foldl_cons, ih]
    unfold KeyedMap.add
    by_cases own : keyOf item = key
    · subst own
      have named : ∃ other ∈ item :: rest, keyOf other = keyOf item := ⟨item, List.mem_cons_self, rfl⟩
      rw [AList.lookup_insert, if_pos named, List.filter_cons_of_pos (by simp), List.map_cons, List.sum_cons]
      split
      next => rw [Option.getD_some, add_assoc]
      next none_ =>
        have empty : rest.filter (fun other => keyOf other = keyOf item) = [] :=
          List.filter_eq_nil_iff.mpr fun other listed same => none_ ⟨other, listed, of_decide_eq_true same⟩
        rw [empty]
        simp
    · rw [AList.lookup_insert_ne (Ne.symm own), List.filter_cons_of_neg (by simpa using own)]
      simp [own]

end

end Foundation
