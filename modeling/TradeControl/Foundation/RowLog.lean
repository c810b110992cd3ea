import Mathlib.Logic.Function.Basic
import Mathlib.Data.List.Induction

namespace Foundation

/-- A statement on a keyed table: take the row of a key away, or put one there. -/
inductive RowStatement (Key : Type*) (Row : Key → Type*)
  | delete (key : Key)
  | insert (key : Key) (row : Row key)

variable {Key : Type*} {Row : Key → Type*} [DecidableEq Key]

def RowStatement.key : RowStatement Key Row → Key
  | .delete key => key
  | .insert key _ => key

def RowStatement.isInsert : RowStatement Key Row → Bool
  | .delete _ => false
  | .insert _ _ => true

def RowStatement.apply (table : (key : Key) → Option (Row key)) :
    RowStatement Key Row → (key : Key) → Option (Row key)
  | .delete key => Function.update table key none
  | .insert key row => Function.update table key (some row)

/-- The table a log of statements leaves. -/
def replayLog (table : (key : Key) → Option (Row key)) (log : List (RowStatement Key Row)) :
    (key : Key) → Option (Row key) :=
  log.foldl RowStatement.apply table

/-- The table that never loses a row before the next one is in: the log without its deletions. -/
def replayInserts (table : (key : Key) → Option (Row key)) (log : List (RowStatement Key Row)) :
    (key : Key) → Option (Row key) :=
  replayLog table (log.filter RowStatement.isInsert)

/-- The last statement on `key` took its row away. -/
def deletedLast (key : Key) (log : List (RowStatement Key Row)) : Bool :=
  (log.reverse.find? fun statement => decide (statement.key = key)).any fun statement => !statement.isInsert

@[simp] theorem replayLog_nil (table : (key : Key) → Option (Row key)) : replayLog table [] = table := rfl

theorem replayLog_append (table : (key : Key) → Option (Row key)) (log later : List (RowStatement Key Row)) :
    replayLog table (log ++ later) = replayLog (replayLog table log) later :=
  List.foldl_append

theorem RowStatement.apply_other {statement : RowStatement Key Row} {key : Key} (other : statement.key ≠ key)
    (table : (key : Key) → Option (Row key)) : statement.apply table key = table key := by
  cases statement with
  | delete key' => exact Function.update_of_ne other.symm _ _
  | insert key' row => exact Function.update_of_ne other.symm _ _

theorem deletedLast_append (key : Key) (log : List (RowStatement Key Row)) (statement : RowStatement Key Row) :
    deletedLast key (log ++ [statement]) =
      if statement.key = key then !statement.isInsert else deletedLast key log := by
  unfold deletedLast
  rw [List.reverse_append, List.reverse_singleton, List.singleton_append, List.find?_cons]
  by_cases same : statement.key = key
  · simp [same]
  · simp [same]

/-- Statements that do not end with a deletion of `key` leave none behind. -/
theorem deletedLast_appendClosed {key : Key} {log later : List (RowStatement Key Row)}
    (kept : deletedLast key log = false) (closed : deletedLast key later = false) :
    deletedLast key (log ++ later) = false := by
  unfold deletedLast at kept closed ⊢
  rw [List.reverse_append, List.find?_append]
  cases found : later.reverse.find? (fun statement => decide (statement.key = key)) with
  | none => exact kept
  | some statement =>
    rw [found] at closed
    exact closed

theorem replayInserts_delete (table : (key : Key) → Option (Row key)) (log : List (RowStatement Key Row))
    (key : Key) : replayInserts table (log ++ [.delete key]) = replayInserts table log := by
  rw [replayInserts, List.filter_append, replayLog_append]
  rfl

theorem replayInserts_insert (table : (key : Key) → Option (Row key)) (log : List (RowStatement Key Row))
    (key : Key) (row : Row key) :
    replayInserts table (log ++ [.insert key row]) =
      Function.update (replayInserts table log) key (some row) := by
  rw [replayInserts, List.filter_append, replayLog_append]
  rfl

/-- The last statement on a key decides: after a deletion its row is gone, else it is the row of the
insertions alone. -/
theorem replayLog_key (table : (key : Key) → Option (Row key)) (log : List (RowStatement Key Row)) (key : Key) :
    replayLog table log key = if deletedLast key log then none else replayInserts table log key := by
  induction log using List.reverseRecOn with
  | nil => rfl
  | append_singleton log statement ih =>
    have last : replayLog table (log ++ [statement]) = statement.apply (replayLog table log) :=
      replayLog_append table log [statement]
    rw [last, deletedLast_append]
    cases statement with
    | delete key' =>
      rw [replayInserts_delete]
      by_cases same : key' = key
      · subst same
        simp [RowStatement.apply, RowStatement.key, RowStatement.isInsert]
      · have other : RowStatement.key (.delete key' : RowStatement Key Row) ≠ key := same
        rw [if_neg other, RowStatement.apply_other other, ih]
    | insert key' row =>
      rw [replayInserts_insert]
      by_cases same : key' = key
      · subst same
        simp [RowStatement.apply, RowStatement.key, RowStatement.isInsert]
      · have other : (RowStatement.insert key' row).key ≠ key := same
        rw [if_neg other, RowStatement.apply_other other, ih, Function.update_of_ne (Ne.symm same)]

/-- A row that stands at the start is never missing among the insertions: it is the old one or one
the log inserts. -/
theorem replayInserts_standing {table : (key : Key) → Option (Row key)} {key : Key} {old : Row key}
    (standing : table key = some old) (log : List (RowStatement Key Row)) :
    ∃ row, replayInserts table log key = some row ∧ (row = old ∨ .insert key row ∈ log) := by
  induction log using List.reverseRecOn with
  | nil => exact ⟨old, standing, .inl rfl⟩
  | append_singleton log statement ih =>
    obtain ⟨row, found, origin⟩ := ih
    have earlier : row = old ∨ .insert key row ∈ log ++ [statement] :=
      origin.imp_right (List.mem_append_left _)
    cases statement with
    | delete key' =>
      rw [replayInserts_delete]
      exact ⟨row, found, earlier⟩
    | insert key' row' =>
      rw [replayInserts_insert]
      by_cases same : key' = key
      · subst same
        exact ⟨row', Function.update_self .., .inr (List.mem_append_right _ (List.mem_singleton_self _))⟩
      · rw [Function.update_of_ne (Ne.symm same)]
        exact ⟨row, found, earlier⟩

end Foundation
