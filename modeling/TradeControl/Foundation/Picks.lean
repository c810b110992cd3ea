import Mathlib.Algebra.Order.Ring.Int
import Mathlib.Data.List.Induction
import Mathlib.Data.List.Nodup
import Mathlib.Data.List.Perm.Basic

namespace Foundation

variable {α : Type}

/-- The element of a list that has no other. -/
def onlyOne : List α → Option α
  | [only] => some only
  | _ => none

theorem onlyOne_eq_some {list : List α} {only : α} : onlyOne list = some only ↔ list = [only] := by
  unfold onlyOne
  split <;> simp_all

theorem onlyOne_perm {first second : List α} (perm : first.Perm second) : onlyOne first = onlyOne second := by
  cases found : onlyOne second with
  | some only =>
    rw [onlyOne_eq_some] at found ⊢
    subst found
    exact List.perm_singleton.mp perm
  | none =>
    cases other : onlyOne first with
    | none => rfl
    | some only =>
      rw [onlyOne_eq_some] at other
      subst other
      rw [List.perm_singleton.mp perm.symm] at found
      cases found

theorem onlyOne_filter_iff {list : List α} (nodup : list.Nodup) {accepts : α → Bool} {only : α} :
    onlyOne (list.filter accepts) = some only ↔
      (only ∈ list ∧ accepts only = true) ∧ ∀ other ∈ list, accepts other = true → other = only := by
  rw [onlyOne_eq_some]
  constructor
  · intro filtered
    have member (other : α) : other ∈ list ∧ accepts other = true ↔ other = only := by
      rw [← List.mem_filter, filtered, List.mem_singleton]
    exact ⟨(member only).mpr rfl, fun other inList accepted => (member other).mp ⟨inList, accepted⟩⟩
  · rintro ⟨member, unique⟩
    rw [← List.perm_singleton]
    refine (List.perm_ext_iff_of_nodup (nodup.filter _) (List.nodup_singleton _)).mpr fun other => ?_
    rw [List.mem_filter, List.mem_singleton]
    exact ⟨fun accepted => unique other accepted.1 accepted.2, fun same => same ▸ member⟩

section
variable {Key : Type} [DecidableEq Key] {column : α → Option Key}

/-- Each value of a column that may be empty stands in at most one row. -/
def AtMostOnce (column : α → Option Key) (rows : List α) : Prop :=
  ∀ key, (rows.map column).count (some key) ≤ 1

/-- A row may follow whose value no row has. -/
theorem AtMostOnce.snoc {rows : List α} (once : AtMostOnce column rows) {row : α}
    (fresh : ∀ other ∈ rows, column row ≠ none → column other ≠ column row) :
    AtMostOnce column (rows ++ [row]) := by
  intro key
  have before := once key
  rw [List.map_append, List.count_append, List.map_singleton, List.count_singleton]
  by_cases same : column row = some key
  · have absent : (rows.map column).count (some key) = 0 := by
      rw [List.count_eq_zero, List.mem_map]
      rintro ⟨other, member, equal⟩
      exact fresh other member (by rw [same]; exact Option.some_ne_none key) (equal.trans same.symm)
    rw [absent]
    split <;> omega
  · rw [if_neg (by simpa using same)]
    omega

end

/-- The last of the elements with the greatest key. -/
def lastMaxBy (key : α → Int) (list : List α) : Option α :=
  list.foldl (fun best element =>
    match best with
    | none => some element
    | some best => if key best ≤ key element then some element else some best) none

section LastMax

variable {key : α → Int} {list : List α} {last best : α}

theorem lastMaxBy_concat : lastMaxBy key (list ++ [last]) =
    match lastMaxBy key list with
    | none => some last
    | some best => if key best ≤ key last then some last else some best := by
  unfold lastMaxBy
  rw [List.foldl_append]
  rfl

theorem lastMaxBy_eq_none : lastMaxBy key list = none ↔ list = [] := by
  induction list using List.reverseRecOn with
  | nil => exact ⟨fun _ => rfl, fun _ => rfl⟩
  | append_singleton list last _ =>
    rw [lastMaxBy_concat]
    cases lastMaxBy key list with
    | none => simp
    | some best =>
      dsimp only
      split <;> simp

theorem lastMaxBy_greatest (found : lastMaxBy key list = some best) :
    best ∈ list ∧ ∀ other ∈ list, key other ≤ key best := by
  induction list using List.reverseRecOn generalizing best with
  | nil => cases found
  | append_singleton list last ih =>
    rw [lastMaxBy_concat] at found
    cases before : lastMaxBy key list with
    | none =>
      rw [before] at found
      obtain rfl := Option.some.inj found
      rw [lastMaxBy_eq_none.mp before]
      simp
    | some greatest =>
      obtain ⟨member, bound⟩ := ih before
      rw [before] at found
      dsimp only at found
      split at found
      · next exceeds =>
        obtain rfl := Option.some.inj found
        refine ⟨List.mem_append_right _ (List.mem_singleton_self _), fun other inList => ?_⟩
        rcases List.mem_append.mp inList with earlier | here
        · exact (bound other earlier).trans exceeds
        · rw [List.mem_singleton.mp here]
      · next below =>
        obtain rfl := Option.some.inj found
        refine ⟨List.mem_append_left _ member, fun other inList => ?_⟩
        rcases List.mem_append.mp inList with earlier | here
        · exact bound other earlier
        · rw [List.mem_singleton.mp here]
          exact (not_le.mp below).le

/-- A greatest element moved to the end is the one picked. -/
theorem lastMaxBy_moved_last (bound : ∀ other ∈ list, key other ≤ key last) :
    lastMaxBy key (list ++ [last]) = some last := by
  rw [lastMaxBy_concat]
  cases before : lastMaxBy key list with
  | none => rfl
  | some greatest => exact if_pos (bound greatest (lastMaxBy_greatest before).1)

end LastMax

end Foundation
