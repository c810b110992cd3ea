import Mathlib.Data.List.Basic

namespace Foundation

/-- `after` is `before` with every entry rewritten in place, each within `touch`. -/
def Retouched {Entry : Type*} (touch : Entry → Entry → Prop) (before after : List Entry) : Prop :=
  ∃ rewrite : Entry → Entry, (∀ entry, touch entry (rewrite entry)) ∧ after = before.map rewrite

section
variable {Entry Key : Type*} {touch touch' : Entry → Entry → Prop} {before middle after : List Entry}

theorem Retouched.refl (unchanged : ∀ entry, touch entry entry) (entries : List Entry) :
    Retouched touch entries entries :=
  ⟨id, unchanged, (List.map_id entries).symm⟩

theorem Retouched.trans (composes : ∀ a b c, touch a b → touch b c → touch a c)
    (first : Retouched touch before middle) (second : Retouched touch middle after) :
    Retouched touch before after := by
  obtain ⟨rewrite, within, rfl⟩ := first
  obtain ⟨rewrite', within', rfl⟩ := second
  exact ⟨rewrite' ∘ rewrite, fun entry => composes _ _ _ (within entry) (within' _), List.map_map⟩

theorem Retouched.mem_after (touched : Retouched touch before after) {entry : Entry}
    (member : entry ∈ after) : ∃ old ∈ before, touch old entry := by
  obtain ⟨rewrite, within, rfl⟩ := touched
  obtain ⟨old, present, rfl⟩ := List.mem_map.mp member
  exact ⟨old, present, within old⟩

theorem Retouched.mem_before (touched : Retouched touch before after) {entry : Entry}
    (member : entry ∈ before) : ∃ new ∈ after, touch entry new := by
  obtain ⟨rewrite, within, rfl⟩ := touched
  exact ⟨rewrite entry, List.mem_map_of_mem member, within entry⟩

/-- What a rewrite leaves alone in each entry, it leaves alone in the list. -/
theorem Retouched.map_eq {key : Entry → Key} (kept : ∀ a b, touch a b → key b = key a)
    (touched : Retouched touch before after) : after.map key = before.map key := by
  obtain ⟨rewrite, within, rfl⟩ := touched
  rw [List.map_map]
  exact List.map_congr_left fun entry _ => kept _ _ (within entry)

theorem Retouched.getLast? (touched : Retouched touch before after) {entry : Entry}
    (last : after.getLast? = some entry) : ∃ old, before.getLast? = some old ∧ touch old entry := by
  obtain ⟨rewrite, within, rfl⟩ := touched
  rw [List.getLast?_map] at last
  obtain ⟨old, present, rfl⟩ := Option.map_eq_some_iff.mp last
  exact ⟨old, present, within old⟩

end

variable {Entry Key : Type*}

/-- A list with the first entry that is wanted rewritten in place. -/
def rewriteFirst (wanted : Entry → Bool) (rewrite : Entry → Entry) : List Entry → List Entry
  | [] => []
  | entry :: rest => if wanted entry then rewrite entry :: rest else entry :: rewriteFirst wanted rewrite rest

section
variable {wanted : Entry → Bool} {rewrite : Entry → Entry} {entries before after : List Entry} {entry own : Entry}

theorem rewriteFirst_split (passed : ∀ entry ∈ before, wanted entry = false) (found : wanted own = true) :
    rewriteFirst wanted rewrite (before ++ own :: after) = before ++ rewrite own :: after := by
  induction before with
  | nil => exact if_pos found
  | cons entry rest ih =>
    have skipped := passed entry List.mem_cons_self
    rw [List.cons_append, rewriteFirst, skipped, if_neg Bool.false_ne_true]
    rw [ih fun later member => passed later (List.mem_cons_of_mem _ member)]
    rfl

/-- What a rewrite leaves alone in each entry, it leaves alone in the list. -/
theorem map_rewriteFirst {key : Entry → Key} (kept : ∀ entry, key (rewrite entry) = key entry) :
    (rewriteFirst wanted rewrite entries).map key = entries.map key := by
  induction entries with
  | nil => rfl
  | cons entry rest ih =>
    unfold rewriteFirst
    split
    · rw [List.map_cons, List.map_cons, kept]
    · rw [List.map_cons, List.map_cons, ih]

theorem mem_rewriteFirst (member : entry ∈ rewriteFirst wanted rewrite entries) :
    entry ∈ entries ∨ ∃ old ∈ entries, wanted old = true ∧ entry = rewrite old := by
  induction entries with
  | nil => cases member
  | cons first rest ih =>
    unfold rewriteFirst at member
    split at member
    · next found =>
      rcases List.mem_cons.mp member with rfl | later
      · exact .inr ⟨first, List.mem_cons_self, found, rfl⟩
      · exact .inl (List.mem_cons_of_mem _ later)
    · rcases List.mem_cons.mp member with rfl | later
      · exact .inl List.mem_cons_self
      · rcases ih later with same | ⟨old, present, found, equal⟩
        · exact .inl (List.mem_cons_of_mem _ same)
        · exact .inr ⟨old, List.mem_cons_of_mem _ present, found, equal⟩

/-- An entry that is not wanted stays as it is. -/
theorem mem_rewriteFirst_of_not (member : entry ∈ entries) (passed : wanted entry = false) :
    entry ∈ rewriteFirst wanted rewrite entries := by
  induction entries with
  | nil => cases member
  | cons first rest ih =>
    unfold rewriteFirst
    rcases List.mem_cons.mp member with rfl | later
    · rw [passed, if_neg Bool.false_ne_true]
      exact List.mem_cons_self
    · split
      · exact List.mem_cons_of_mem _ later
      · exact List.mem_cons_of_mem _ (ih later)

/-- Where a key has one entry, no entry has it afterwards but the rewritten one. -/
theorem mem_rewriteFirst_key {key : Entry → Key} [DecidableEq Key] {wantedKey : Key}
    (distinct : (entries.map key).Nodup) (member : entry ∈ rewriteFirst (key · == wantedKey) rewrite entries)
    (owned : key entry = wantedKey) :
    ∃ old ∈ entries, key old = wantedKey ∧ entry = rewrite old := by
  induction entries with
  | nil => cases member
  | cons first rest ih =>
    unfold rewriteFirst at member
    rw [List.map_cons, List.nodup_cons] at distinct
    split at member
    · next found =>
      have same : key first = wantedKey := eq_of_beq found
      rcases List.mem_cons.mp member with rfl | later
      · exact ⟨first, List.mem_cons_self, same, rfl⟩
      · refine absurd ?_ distinct.1
        rw [same, ← owned]
        exact List.mem_map_of_mem later
    · next passed =>
      rcases List.mem_cons.mp member with rfl | later
      · exact absurd (beq_iff_eq.mpr owned) passed
      · obtain ⟨old, present, found⟩ := ih distinct.2 later
        exact ⟨old, List.mem_cons_of_mem _ present, found⟩

/-- Where only one entry has a key, the first that has it is that one. -/
theorem rewriteFirst_of_key {key : Entry → Key} [DecidableEq Key] (distinct : (entries.map key).Nodup)
    (member : own ∈ entries) : rewrite own ∈ rewriteFirst (key · == key own) rewrite entries := by
  induction entries with
  | nil => cases member
  | cons first rest ih =>
    unfold rewriteFirst
    rw [List.map_cons, List.nodup_cons] at distinct
    rcases List.mem_cons.mp member with rfl | later
    · rw [beq_self_eq_true, if_pos rfl]
      exact List.mem_cons_self
    · have other : (key first == key own) = false := by
        refine beq_eq_false_iff_ne.mpr fun same => distinct.1 ?_
        rw [same]
        exact List.mem_map_of_mem later
      rw [other, if_neg Bool.false_ne_true]
      exact List.mem_cons_of_mem _ (ih distinct.2 later)

end

end Foundation
