import Mathlib.Data.List.Basic
import TradeControl.Foundation.RewriteFirst

namespace Foundation

variable {Row Key : Type*} [DecidableEq Key] (key : Row → Key)

/-- The row a key is read as: the first that has it. -/
def rowAt (rows : List Row) (wanted : Key) : Option Row := rows.find? fun row => decide (key row = wanted)

/-- A row put in under its key. Where the key is taken the row that has it is rewritten as `update`
says, or the statement touches nothing. -/
def insertOr (update : Row → Option Row) (fresh : Row) (rows : List Row) : Option (List Row) :=
  match rowAt key rows (key fresh) with
  | none => some (rows ++ [fresh])
  | some old => (update old).map fun new => rewriteFirst (fun row => decide (key row = key fresh)) (fun _ => new) rows

section
variable {key} {rows after : List Row} {wanted : Key} {row fresh : Row} {update : Row → Option Row}

@[simp]
theorem rowAt_nil : rowAt key [] wanted = none := rfl

theorem rowAt_cons :
    rowAt key (row :: rows) wanted = if key row = wanted then some row else rowAt key rows wanted := by
  unfold rowAt
  rw [List.find?_cons]
  by_cases same : key row = wanted
  · simp only [same, decide_true, if_true]
  · simp only [same, decide_false, if_false]

theorem rowAt_key (found : rowAt key rows wanted = some row) : key row = wanted := by
  have passes := List.find?_some found
  exact of_decide_eq_true passes

theorem rowAt_mem (found : rowAt key rows wanted = some row) : row ∈ rows :=
  List.mem_of_find?_eq_some found

/-- A rewrite of every row that keeps its key is a rewrite of what each key is read as. -/
theorem rowAt_map {rewrite : Row → Row} (keeps : ∀ row, key (rewrite row) = key row) :
    rowAt key (rows.map rewrite) wanted = (rowAt key rows wanted).map rewrite := by
  induction rows with
  | nil => rfl
  | cons row rest ih =>
    rw [List.map_cons, rowAt_cons, rowAt_cons, keeps, ih]
    split
    · rfl
    · rfl

theorem rowAt_of_mem (distinct : (rows.map key).Nodup) (member : row ∈ rows) : rowAt key rows (key row) = some row := by
  induction rows with
  | nil => cases member
  | cons first rest ih =>
    rw [rowAt_cons]
    rw [List.map_cons, List.nodup_cons] at distinct
    rcases List.mem_cons.mp member with rfl | later
    · exact if_pos rfl
    · rw [if_neg fun same : key first = key row => distinct.1 (same ▸ List.mem_map_of_mem later)]
      exact ih distinct.2 later

theorem rowAt_none : rowAt key rows wanted = none ↔ wanted ∉ rows.map key := by
  unfold rowAt
  rw [List.find?_eq_none]
  constructor
  · intro absent member
    obtain ⟨row, present, same⟩ := List.mem_map.mp member
    exact absent row present (decide_eq_true same)
  · intro absent row present same
    exact absent (List.mem_map.mpr ⟨row, present, of_decide_eq_true same⟩)

theorem rowAt_append_of_none (absent : rowAt key rows (key fresh) = none) :
    rowAt key (rows ++ [fresh]) wanted = if key fresh = wanted then some fresh else rowAt key rows wanted := by
  induction rows with
  | nil => rw [List.nil_append, rowAt_cons]
  | cons row rest ih =>
    rw [rowAt_cons] at absent
    split at absent
    · cases absent
    · next other =>
      rw [List.cons_append, rowAt_cons, rowAt_cons, ih absent]
      by_cases own : key fresh = wanted
      · rw [if_neg (own ▸ other), if_pos own, if_pos own]
      · rw [if_neg own, if_neg own]

theorem rowAt_rewriteFirst {old new : Row} (present : rowAt key rows (key fresh) = some old)
    (keeps : key new = key fresh) :
    rowAt key (rewriteFirst (fun row => decide (key row = key fresh)) (fun _ => new) rows) wanted =
      if key fresh = wanted then some new else rowAt key rows wanted := by
  induction rows with
  | nil => cases present
  | cons row rest ih =>
    unfold rewriteFirst
    by_cases taken : key row = key fresh
    · rw [if_pos (decide_eq_true taken), rowAt_cons, rowAt_cons, keeps, taken]
      split
      · rfl
      · rfl
    · rw [rowAt_cons, if_neg taken] at present
      rw [if_neg (by simpa using taken), rowAt_cons, rowAt_cons, ih present]
      by_cases own : key fresh = wanted
      · rw [if_neg (own ▸ taken), if_pos own, if_pos own]
      · rw [if_neg own, if_neg own]

/-- What a statement that touched a row leaves under every key. -/
theorem insertOr_some (done : insertOr key update fresh rows = some after)
    (keeps : ∀ old new, update old = some new → key new = key old) :
    ∃ new, (rowAt key rows (key fresh) = none ∧ new = fresh ∨
        ∃ old, rowAt key rows (key fresh) = some old ∧ update old = some new) ∧
      ∀ wanted, rowAt key after wanted = if key fresh = wanted then some new else rowAt key rows wanted := by
  unfold insertOr at done
  cases found : rowAt key rows (key fresh) with
  | none =>
    rw [found] at done
    cases done
    exact ⟨fresh, .inl ⟨rfl, rfl⟩, fun wanted => rowAt_append_of_none found⟩
  | some old =>
    rw [found] at done
    obtain ⟨new, updated, rfl⟩ := Option.map_eq_some_iff.mp done
    refine ⟨new, .inr ⟨old, rfl, updated⟩, fun wanted => ?_⟩
    exact rowAt_rewriteFirst found ((keeps old new updated).trans (rowAt_key found))

theorem mem_insertOr (done : insertOr key update fresh rows = some after) (member : row ∈ after) :
    row ∈ rows ∨ row = fresh ∨ ∃ old ∈ rows, key old = key fresh ∧ update old = some row := by
  unfold insertOr at done
  cases found : rowAt key rows (key fresh) with
  | none =>
    rw [found] at done
    cases done
    rcases List.mem_append.mp member with present | added
    · exact .inl present
    · exact .inr (.inl (List.mem_singleton.mp added))
  | some old =>
    rw [found] at done
    obtain ⟨new, updated, rfl⟩ := Option.map_eq_some_iff.mp done
    rcases mem_rewriteFirst member with present | ⟨_, _, _, rfl⟩
    · exact .inl present
    · exact .inr (.inr ⟨old, rowAt_mem found, rowAt_key found, updated⟩)

/-- The statement touches a row unless the key is taken by one that `update` refuses. -/
theorem insertOr_isSome :
    (insertOr key update fresh rows).isSome ↔
      ∀ old, rowAt key rows (key fresh) = some old → (update old).isSome := by
  unfold insertOr
  cases rowAt key rows (key fresh) with
  | none => exact ⟨fun _ _ same => (by cases same), fun _ => rfl⟩
  | some old =>
    simp only [Option.isSome_map, Option.some.injEq, forall_eq']

/-- A statement that touched nothing met a row that `update` refused. -/
theorem insertOr_none (refused : insertOr key update fresh rows = none) :
    ∃ old ∈ rows, key old = key fresh ∧ update old = none := by
  have touched : ¬ (insertOr key update fresh rows).isSome := by
    rw [refused]
    exact Bool.false_ne_true
  rw [insertOr_isSome] at touched
  push Not at touched
  obtain ⟨old, present, stays⟩ := touched
  exact ⟨old, rowAt_mem present, rowAt_key present, Option.not_isSome_iff_eq_none.mp stays⟩

end

/-- Every row stays under its key, changed only within `touch`. -/
def Evolves (touch : Row → Row → Prop) (before after : List Row) : Prop :=
  ∀ wanted row, rowAt key before wanted = some row → ∃ later, rowAt key after wanted = some later ∧ touch row later

section
variable {key} {touch : Row → Row → Prop} {before middle after : List Row}

theorem Evolves.refl (unchanged : ∀ row, touch row row) (rows : List Row) : Evolves key touch rows rows :=
  fun _ row found => ⟨row, found, unchanged row⟩

theorem Evolves.trans (composes : ∀ a b c, touch a b → touch b c → touch a c)
    (first : Evolves key touch before middle) (second : Evolves key touch middle after) :
    Evolves key touch before after := by
  intro wanted row found
  obtain ⟨next, foundNext, firstTouch⟩ := first wanted row found
  obtain ⟨later, foundLater, secondTouch⟩ := second wanted next foundNext
  exact ⟨later, foundLater, composes row next later firstTouch secondTouch⟩

theorem Evolves.map {rewrite : Row → Row} (keeps : ∀ row, key (rewrite row) = key row)
    (within : ∀ row, touch row (rewrite row)) (rows : List Row) : Evolves key touch rows (rows.map rewrite) := by
  intro wanted row found
  refine ⟨rewrite row, ?_, within row⟩
  rw [rowAt_map keeps, found]
  rfl

theorem Evolves.insertOr {update : Row → Option Row} {fresh : Row} (unchanged : ∀ row, touch row row)
    (keeps : ∀ old new, update old = some new → key new = key old)
    (within : ∀ old new, update old = some new → touch old new)
    (done : insertOr key update fresh before = some after) : Evolves key touch before after := by
  obtain ⟨new, origin, left⟩ := insertOr_some done keeps
  intro wanted row found
  rw [left]
  by_cases own : key fresh = wanted
  · rw [if_pos own]
    subst own
    rcases origin with ⟨absent, -⟩ | ⟨old, present, updated⟩
    · rw [absent] at found
      cases found
    · rw [present] at found
      cases found
      exact ⟨new, rfl, within row new updated⟩
  · rw [if_neg own]
    exact ⟨row, found, unchanged row⟩

end

end Foundation
