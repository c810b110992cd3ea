import Mathlib.Data.List.Infix

namespace Foundation

section
variable {Letter : Type} [DecidableEq Letter]

/-- The matches of a pattern from left to right, each with the text before and after it. The search goes on
behind each match: `skip` letters are still inside the last one. -/
def matchesFrom (pattern : List Letter) : (skip : Nat) → (before text : List Letter) →
    List (List Letter × List Letter)
  | skip + 1, before, letter :: rest => matchesFrom pattern skip (before ++ [letter]) rest
  | _ + 1, _, [] => []
  | 0, before, [] => if pattern = [] then [(before, [])] else []
  | 0, before, letter :: rest =>
    if pattern <+: letter :: rest then
      (before, (letter :: rest).drop pattern.length) ::
        matchesFrom pattern (pattern.length - 1) (before ++ [letter]) rest
    else matchesFrom pattern 0 (before ++ [letter]) rest

/-- The disjoint matches of a pattern. -/
def matchIndices (pattern text : List Letter) : List (List Letter × List Letter) := matchesFrom pattern 0 [] text

theorem matchesFrom_around {pattern : List Letter} {found : List Letter × List Letter} :
    ∀ {skip : Nat} {before text : List Letter}, found ∈ matchesFrom pattern skip before text →
      found.1 ++ pattern ++ found.2 = before ++ text
  | skip + 1, before, letter :: rest, member => by
    rw [matchesFrom] at member
    rw [matchesFrom_around member, List.append_assoc, List.singleton_append]
  | _ + 1, _, [], member => by
    rw [matchesFrom] at member
    cases member
  | 0, before, [], member => by
    rw [matchesFrom] at member
    split at member
    next empty =>
      rw [List.mem_singleton] at member
      rw [member, empty, List.append_nil]
    next => cases member
  | 0, before, letter :: rest, member => by
    rw [matchesFrom] at member
    split at member
    next here =>
      rcases List.mem_cons.mp member with rfl | later
      · rw [List.append_assoc, ← List.prefix_append_drop here]
      · rw [matchesFrom_around later, List.append_assoc, List.singleton_append]
    next =>
      rw [matchesFrom_around member, List.append_assoc, List.singleton_append]

variable (token : Letter → Bool)

/-- A neighbour that is no part of a token, or none. -/
def isolated (neighbour : Option Letter) : Bool := neighbour.all (!token ·)

/-- The pattern stands in the text with no token letter next to it. -/
def StandsAlone (pattern text : List Letter) : Prop :=
  ∃ before after, before ++ pattern ++ after = text ∧
    isolated token before.getLast? = true ∧ isolated token after.head? = true

/-- Some disjoint match stands alone. -/
def searchAlone (pattern text : List Letter) : Bool :=
  (matchIndices pattern text).any fun found => isolated token found.1.getLast? && isolated token found.2.head?

variable {token}

theorem standsAlone_of_searchAlone {pattern text : List Letter} (found : searchAlone token pattern text = true) :
    StandsAlone token pattern text := by
  obtain ⟨place, member, alone⟩ := List.any_eq_true.mp found
  rw [Bool.and_eq_true] at alone
  exact ⟨place.1, place.2, matchesFrom_around member, alone⟩

/-- A pattern of token letters has no match that reaches over the letter before a place where it stands alone, so
the search comes to that place. -/
theorem mem_matchesFrom {pattern after : List Letter} (letters : ∀ letter ∈ pattern, token letter = true)
    (nonempty : pattern ≠ []) : ∀ {skip : Nat} {before between : List Letter}, skip ≤ between.length →
      isolated token (before ++ between).getLast? = true →
        (before ++ between, after) ∈ matchesFrom pattern skip before (between ++ pattern ++ after)
  | 0, before, [], _, _ => by
    obtain ⟨letter, rest, rfl⟩ := List.exists_cons_of_ne_nil nonempty
    have here : letter :: rest <+: letter :: (rest ++ after) := ⟨after, rfl⟩
    rw [List.nil_append, List.cons_append, matchesFrom, if_pos here, List.append_nil, ← List.cons_append,
      List.drop_left]
    exact List.mem_cons_self
  | _ + 1, _, [], inside, _ => absurd inside (by simp)
  | skip + 1, before, letter :: between, inside, alone => by
    rw [List.append_cons before letter between] at alone ⊢
    rw [List.cons_append, List.cons_append, matchesFrom]
    exact mem_matchesFrom letters nonempty (Nat.le_of_succ_le_succ inside) alone
  | 0, before, letter :: between, _, alone => by
    rw [List.append_cons before letter between] at alone ⊢
    rw [List.cons_append, List.cons_append, matchesFrom]
    split
    next here =>
      refine List.mem_cons_of_mem _ (mem_matchesFrom letters nonempty ?_ alone)
      have short : pattern.length ≤ (letter :: between).length := by
        by_contra long
        have within : letter :: between <+: pattern :=
          List.prefix_of_prefix_length_le ⟨pattern ++ after, by simp⟩ here (by omega)
        have last : (letter :: between).getLast (by simp) ∈ pattern := within.subset (List.getLast_mem _)
        rw [← List.append_cons before letter between, List.getLast?_append_of_ne_nil _ (by simp),
          List.getLast?_eq_some_getLast (by simp), isolated, Option.all_some, letters _ last] at alone
        cases alone
      rw [List.length_cons] at short
      omega
    next => exact mem_matchesFrom letters nonempty (Nat.zero_le _) alone

/-- For a pattern of token letters the search finds exactly what stands alone. -/
theorem searchAlone_iff {pattern text : List Letter} (letters : ∀ letter ∈ pattern, token letter = true)
    (nonempty : pattern ≠ []) : searchAlone token pattern text = true ↔ StandsAlone token pattern text := by
  constructor
  · exact standsAlone_of_searchAlone
  · rintro ⟨before, after, rfl, aloneBefore, aloneAfter⟩
    have alone : isolated token ([] ++ before).getLast? = true := aloneBefore
    have found : (before, after) ∈ matchIndices pattern (before ++ pattern ++ after) :=
      mem_matchesFrom letters nonempty (Nat.zero_le _) alone
    exact List.any_eq_true.mpr ⟨(before, after), found, by rw [aloneBefore, aloneAfter]; rfl⟩

end

end Foundation
