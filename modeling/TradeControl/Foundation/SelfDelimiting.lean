import Mathlib.Logic.Function.Basic
import Mathlib.Data.List.Basic

namespace Foundation

variable {Value Value' Symbol : Type*}

/-- A code each of whose words ends itself: what follows cannot change where the word ends. -/
def SelfDelimiting (code : Value → List Symbol) : Prop :=
  ∀ ⦃a b : Value⦄ ⦃r s : List Symbol⦄, code a ++ r = code b ++ s → a = b ∧ r = s

/-- A value that may be absent, which has a word of its own. -/
def optionCode (absent : List Symbol) (code : Value → List Symbol) : Option Value → List Symbol
  | none => absent
  | some value => code value

section
variable {code : Value → List Symbol} {other : Value' → List Symbol}

theorem SelfDelimiting.injective (delimited : SelfDelimiting code) : Function.Injective code := by
  intro a b same
  have extended : code a ++ [] = code b ++ [] := by rw [same]
  exact (delimited extended).1

theorem SelfDelimiting.append (first : SelfDelimiting code) (second : SelfDelimiting other) :
    SelfDelimiting fun pair : Value × Value' => code pair.1 ++ other pair.2 := by
  rintro ⟨a, a'⟩ ⟨b, b'⟩ r s same
  rw [List.append_assoc, List.append_assoc] at same
  obtain ⟨rfl, later⟩ := first same
  obtain ⟨rfl, rest⟩ := second later
  exact ⟨rfl, rest⟩

theorem SelfDelimiting.lead (delimited : SelfDelimiting code) (lead : List Symbol) :
    SelfDelimiting fun value => lead ++ code value := by
  intro a b r s same
  rw [List.append_assoc, List.append_assoc] at same
  exact delimited (List.append_cancel_left same)

theorem SelfDelimiting.trail (delimited : SelfDelimiting code) (trail : List Symbol) :
    SelfDelimiting fun value => code value ++ trail := by
  intro a b r s same
  rw [List.append_assoc, List.append_assoc] at same
  obtain ⟨rfl, rest⟩ := delimited same
  exact ⟨rfl, List.append_cancel_left rest⟩

theorem SelfDelimiting.comp (delimited : SelfDelimiting code) {read : Value' → Value}
    (injective : Function.Injective read) : SelfDelimiting fun value => code (read value) := by
  intro a b r s same
  obtain ⟨value, rest⟩ := delimited same
  exact ⟨injective value, rest⟩

theorem SelfDelimiting.option {absent : List Symbol} (delimited : SelfDelimiting code)
    (apart : ∀ value r s, code value ++ r ≠ absent ++ s) : SelfDelimiting (optionCode absent code) := by
  intro a b r s same
  cases a with
  | none =>
    cases b with
    | none => exact ⟨rfl, List.append_cancel_left same⟩
    | some value => exact absurd same.symm (apart value s r)
  | some value =>
    cases b with
    | none => exact absurd same (apart value r s)
    | some value' =>
      obtain ⟨rfl, rest⟩ := delimited same
      exact ⟨rfl, rest⟩

/-- Letters that end themselves make words, up to a symbol that starts no letter. -/
theorem SelfDelimiting.word {letter : Value → List Symbol} {close : Symbol} (letters : SelfDelimiting letter)
    (apart : ∀ value r s, letter value ++ r ≠ close :: s) :
    SelfDelimiting fun word : List Value => word.flatMap letter ++ [close] := by
  intro a
  induction a with
  | nil =>
    intro b r s same
    cases b with
    | nil => exact ⟨rfl, List.append_cancel_left same⟩
    | cons first rest =>
      simp only [List.flatMap_cons, List.append_assoc] at same
      exact absurd same.symm (apart first _ _)
  | cons first rest ih =>
    intro b r s same
    dsimp only at same
    rw [List.flatMap_cons, List.append_assoc, List.append_assoc] at same
    cases b with
    | nil => exact absurd same (apart first _ _)
    | cons first' rest' =>
      rw [List.flatMap_cons, List.append_assoc, List.append_assoc, ← List.append_assoc (rest.flatMap letter),
        ← List.append_assoc (rest'.flatMap letter)] at same
      obtain ⟨rfl, later⟩ := letters same
      obtain ⟨rfl, remain⟩ := ih later
      exact ⟨rfl, remain⟩

/-- Words that never hold a symbol end where it comes. -/
theorem selfDelimiting_of_notMem {close : Symbol} (injective : Function.Injective code)
    (apart : ∀ value, close ∉ code value) : SelfDelimiting fun value => code value ++ [close] := by
  have splits : ∀ left right r s : List Symbol, close ∉ left → close ∉ right →
      left ++ close :: r = right ++ close :: s → left = right ∧ r = s := by
    intro left
    induction left with
    | nil =>
      intro right r s _ apartRight same
      cases right with
      | nil => exact ⟨rfl, (List.cons.inj same).2⟩
      | cons first rest => exact absurd ((List.cons.inj same).1 ▸ List.mem_cons_self) apartRight
    | cons first rest ih =>
      intro right r s apartLeft apartRight same
      cases right with
      | nil => exact absurd ((List.cons.inj same).1 ▸ List.mem_cons_self) apartLeft
      | cons first' rest' =>
        obtain ⟨rfl, later⟩ := List.cons.inj same
        obtain ⟨rfl, remain⟩ := ih rest' r s (fun member => apartLeft (List.mem_cons_of_mem _ member))
          (fun member => apartRight (List.mem_cons_of_mem _ member)) later
        exact ⟨rfl, remain⟩
  intro a b r s same
  rw [List.append_assoc, List.append_assoc] at same
  obtain ⟨word, rest⟩ := splits _ _ r s (apart a) (apart b) same
  exact ⟨injective word, rest⟩

/-- A word whose size stands before it, where what is longer is of greater size. -/
theorem SelfDelimiting.sized {count : Nat → List Symbol} {size : List Symbol → Nat} (counts : SelfDelimiting count)
    (grows : ∀ word symbol rest, size word < size (word ++ symbol :: rest)) :
    SelfDelimiting fun word : List Symbol => count (size word) ++ word := by
  have sameWord : ∀ a b r s : List Symbol, size a = size b → a ++ r = b ++ s → a = b := by
    intro a b r s sizes same
    rcases List.append_eq_append_iff.mp same with ⟨more, rfl, -⟩ | ⟨more, rfl, -⟩
    · cases more with
      | nil => exact (List.append_nil a).symm
      | cons symbol rest => exact absurd sizes (Nat.ne_of_lt (grows a symbol rest))
    · cases more with
      | nil => exact List.append_nil b
      | cons symbol rest => exact absurd sizes.symm (Nat.ne_of_lt (grows b symbol rest))
  intro a b r s same
  rw [List.append_assoc, List.append_assoc] at same
  obtain ⟨sizes, words⟩ := counts same
  obtain rfl := sameWord a b r s sizes words
  exact ⟨rfl, List.append_cancel_left words⟩

/-- Decimal numbers, up to a symbol that is no digit. -/
theorem selfDelimiting_toDigits {close : Char} (apart : close.isDigit = false) :
    SelfDelimiting fun n : Nat => Nat.toDigits 10 n ++ [close] := by
  refine selfDelimiting_of_notMem (fun a b same => ?_) (fun n member => ?_)
  · have read := congrArg (Nat.ofDigitChars 10 · 0) same
    simpa only [Nat.ofDigitChars_toDigits (by decide : 1 < 10) (by decide : 10 ≤ 10)] using read
  · rw [Nat.isDigit_of_mem_toDigits (by decide) (by decide) member] at apart
    cases apart

end

end Foundation
