import Mathlib.Data.List.Chain
import Mathlib.Data.List.DropRight
import TradeControl.Intent

namespace TradeControl

def slugChar (c : Char) : Bool := ('a' ≤ c && c ≤ 'z') || ('0' ≤ c && c ≤ '9') || c == '-'

/-- Characters of a slug that may still go on: no hyphen comes first and none follows another. -/
structure SlugStart (chars : List Char) : Prop where
  starts : chars.head? ≠ some '-'
  apart : chars.IsChain fun a b => ¬(a = '-' ∧ b = '-')
  alphabet : ∀ c ∈ chars, slugChar c = true

/-- Lower-case words and numbers joined by single hyphens. -/
structure IsSlug (chars : List Char) : Prop extends SlugStart chars where
  nonempty : chars ≠ []
  ends : chars.getLast? ≠ some '-'

theorem zip_tail_apart (chars : List Char) :
    (∀ pair ∈ chars.zip chars.tail, pair ≠ ('-', '-')) ↔ chars.IsChain fun a b => ¬(a = '-' ∧ b = '-') := by
  induction chars with
  | nil => simp
  | cons first rest ih =>
    cases rest with
    | nil => simp
    | cons second rest =>
      rw [List.isChain_cons_cons, ← ih, List.tail_cons, List.zip_cons_cons, List.forall_mem_cons, List.tail_cons,
        ne_eq, Prod.mk.injEq]

theorem isValidTradeId_iff (id : String) :
    isValidTradeId id = true ↔ IsSlug id.toList ∧ id.toList.length ≤ tradeIdMaxLen := by
  unfold isValidTradeId
  simp only [Bool.and_eq_true, decide_eq_true_eq, Bool.not_eq_eq_eq_not, Bool.not_true,
    List.isEmpty_eq_false_iff, List.all_eq_true, zip_tail_apart]
  constructor
  · rintro ⟨⟨⟨⟨⟨nonempty, short⟩, starts⟩, ends⟩, apart⟩, alphabet⟩
    exact ⟨⟨⟨starts, apart, alphabet⟩, nonempty, ends⟩, short⟩
  · rintro ⟨slug, short⟩
    exact ⟨⟨⟨⟨⟨slug.nonempty, short⟩, slug.starts⟩, slug.ends⟩, slug.apart⟩, slug.alphabet⟩

/-- A hyphen joins two slugs into one, and nothing else does. -/
theorem isSlug_join (a b : List Char) : IsSlug (a ++ '-' :: b) ↔ IsSlug a ∧ IsSlug b := by
  constructor
  · rintro ⟨⟨starts, apart, alphabet⟩, _, ends⟩
    obtain ⟨first, second, across⟩ := List.isChain_append.mp apart
    refine ⟨⟨⟨?_, first, fun c member => alphabet c (List.mem_append_left _ member)⟩, ?_, ?_⟩,
      ⟨?_, second.tail, fun c member => alphabet c (List.mem_append_right a (List.mem_cons_of_mem _ member))⟩, ?_, ?_⟩
    · cases a with
      | nil => simp at starts
      | cons c rest => simpa using starts
    · rintro rfl
      exact starts rfl
    · intro last
      exact across '-' last '-' rfl ⟨rfl, rfl⟩
    · cases b with
      | nil => simp
      | cons c rest =>
        have next := (List.isChain_cons_cons.mp second).1
        simpa using next
    · rintro rfl
      simp at ends
    · cases b with
      | nil => simp
      | cons c rest => simpa using ends
  · rintro ⟨one, other⟩
    refine ⟨⟨?_, List.isChain_append.mpr ⟨one.apart, ?_, ?_⟩, ?_⟩, by simp, ?_⟩
    · obtain ⟨c, rest, rfl⟩ := List.exists_cons_of_ne_nil one.nonempty
      simpa using one.starts
    · obtain ⟨c, rest, rfl⟩ := List.exists_cons_of_ne_nil other.nonempty
      exact List.isChain_cons_cons.mpr ⟨by simpa using other.starts, other.apart⟩
    · rintro x last y _ ⟨rfl, _⟩
      exact one.ends last
    · intro c member
      rcases List.mem_append.mp member with member | member
      · exact one.alphabet c member
      · rcases List.mem_cons.mp member with rfl | member
        · rfl
        · exact other.alphabet c member
    · obtain ⟨c, rest, rfl⟩ := List.exists_cons_of_ne_nil other.nonempty
      simpa using other.ends

/-- What follows the last hyphen is told by the whole. -/
theorem lastWord_inj {a a' word word' : List Char} (plain : '-' ∉ word) (plain' : '-' ∉ word')
    (same : a ++ '-' :: word = a' ++ '-' :: word') : a = a' ∧ word = word' := by
  have reversed := congrArg List.reverse same
  simp only [List.reverse_append, List.reverse_cons, List.append_assoc, List.singleton_append] at reversed
  have cut (w rest : List Char) (free : '-' ∉ w) :
      (w.reverse ++ '-' :: rest).takeWhile (· ≠ '-') = w.reverse := by
    rw [List.takeWhile_append_of_pos]
    · simp
    · intro c member
      exact decide_eq_true fun isHyphen => free (isHyphen ▸ List.mem_reverse.mp member)
  have words := congrArg (List.takeWhile (· ≠ '-')) reversed
  rw [cut word _ plain, cut word' _ plain', List.reverse_inj] at words
  subst words
  exact ⟨List.append_cancel_right same, rfl⟩

theorem toDigits_slug (n : Nat) : IsSlug (Nat.toDigits 10 n) ∧ '-' ∉ Nat.toDigits 10 n := by
  have digit : ∀ c ∈ Nat.toDigits 10 n, c.isDigit = true := fun c member =>
    Nat.isDigit_of_mem_toDigits (by decide) (by decide) member
  have plain : '-' ∉ Nat.toDigits 10 n := fun member => absurd (digit _ member) (by decide)
  refine ⟨⟨⟨fun first => plain (List.mem_of_mem_head? first), ?_, fun c member => ?_⟩, Nat.toDigits_ne_nil,
    fun last => plain (List.mem_of_mem_getLast? last)⟩, plain⟩
  · have free : (Nat.toDigits 10 n).Pairwise fun a b => ¬(a = '-' ∧ b = '-') := by
      refine List.pairwise_iff_forall_sublist.mpr fun listed => ?_
      rintro ⟨rfl, _⟩
      exact plain (listed.subset List.mem_cons_self)
    exact free.isChain
  · have inside := digit c member
    unfold Char.isDigit at inside
    unfold slugChar
    simp only [Bool.and_eq_true, decide_eq_true_eq, ge_iff_le] at inside
    have low : '0' ≤ c := inside.1
    have high : c ≤ '9' := inside.2
    simp [low, high]

/-- Letters and digits in lower case, and one hyphen for each run of anything else between them. -/
def slugChars (prevHyphen : Bool) : List Char → List Char
  | [] => []
  | c :: later =>
    if c.toLower.isAlphanum then c.toLower :: slugChars false later
    else if !prevHyphen then '-' :: slugChars true later
    else slugChars prevHyphen later

def trimHyphens (out : List Char) : List Char := out.rdropWhile (· = '-')

def slugify (s : String) : String :=
  let whole := trimHyphens (slugChars true s.toList)
  let out := if 48 < whole.length then trimHyphens (whole.take 48) else whole
  if out.isEmpty then "event" else String.ofList out

theorem slugChar_toLower {c : Char} (kept : c.toLower.isAlphanum = true) : slugChar c.toLower = true := by
  have notUpper : c.toLower.isUpper = false := by
    delta Char.isUpper Char.toLower
    split <;> grind [UInt32.toNat_add, Char.toNat_val]
  unfold Char.isAlphanum Char.isAlpha at kept
  rw [notUpper, Bool.false_or, Bool.or_eq_true] at kept
  unfold slugChar
  rcases kept with lower | digit
  · unfold Char.isLower at lower
    simp only [ge_iff_le, Bool.and_eq_true, decide_eq_true_eq] at lower
    have low : 'a' ≤ c.toLower := lower.1
    have high : c.toLower ≤ 'z' := lower.2
    simp [low, high]
  · unfold Char.isDigit at digit
    simp only [ge_iff_le, Bool.and_eq_true, decide_eq_true_eq] at digit
    have low : '0' ≤ c.toLower := digit.1
    have high : c.toLower ≤ '9' := digit.2
    simp [low, high]

theorem slugChars_start (chars : List Char) (prevHyphen : Bool) :
    (∀ c ∈ slugChars prevHyphen chars, slugChar c = true) ∧
      (slugChars prevHyphen chars).IsChain (fun a b => ¬(a = '-' ∧ b = '-')) ∧
      (prevHyphen = true → (slugChars prevHyphen chars).head? ≠ some '-') := by
  induction chars generalizing prevHyphen with
  | nil => simp [slugChars]
  | cons c later ih =>
    unfold slugChars
    split
    next kept =>
      obtain ⟨alphabet, apart, _⟩ := ih false
      have plain : c.toLower ≠ '-' := fun isHyphen => by
        rw [isHyphen] at kept
        exact absurd kept (by decide)
      refine ⟨?_, ?_, fun _ first => plain (Option.some.inj first)⟩
      · exact List.forall_mem_cons.mpr ⟨slugChar_toLower kept, alphabet⟩
      · exact List.isChain_cons.mpr ⟨fun _ _ both => plain both.1, apart⟩
    next =>
      split
      next open_ =>
        obtain ⟨alphabet, apart, starts⟩ := ih true
        refine ⟨List.forall_mem_cons.mpr ⟨rfl, alphabet⟩, ?_, fun hyphen => ?_⟩
        · refine List.isChain_cons.mpr ⟨fun next first both => starts rfl ?_, apart⟩
          rw [Option.mem_def.mp first, both.2]
        · rw [hyphen] at open_
          exact absurd open_ (by decide)
      next => exact ih prevHyphen

theorem SlugStart.of_prefix {chars whole : List Char} (start : SlugStart whole) (part : chars <+: whole) :
    SlugStart chars where
  starts := by
    obtain ⟨rest, rfl⟩ := part
    cases chars with
    | nil => simp
    | cons c later => simpa using start.starts
  apart := start.apart.prefix part
  alphabet c member := start.alphabet c (part.subset member)

theorem SlugStart.trimmed {chars : List Char} (start : SlugStart chars) (some_ : trimHyphens chars ≠ []) :
    IsSlug (trimHyphens chars) := by
  refine ⟨start.of_prefix (List.rdropWhile_prefix _ _), some_, fun last => ?_⟩
  have kept := List.rdropWhile_last_not (p := (· = '-')) (l := chars) some_
  rw [List.getLast?_eq_some_getLast some_] at last
  exact kept (decide_eq_true (Option.some.inj last))

/-- Whatever an event is called, its slug is one, of 48 characters at most. -/
theorem slugify_slug (s : String) : IsSlug (slugify s).toList ∧ (slugify s).toList.length ≤ 48 := by
  obtain ⟨alphabet, apart, starts⟩ := slugChars_start s.toList true
  have start : SlugStart (slugChars true s.toList) := ⟨starts rfl, apart, alphabet⟩
  have whole : SlugStart (trimHyphens (slugChars true s.toList)) := start.of_prefix (List.rdropWhile_prefix _ _)
  unfold slugify
  dsimp only
  generalize outEq : (if 48 < (trimHyphens (slugChars true s.toList)).length then
    trimHyphens ((trimHyphens (slugChars true s.toList)).take 48) else trimHyphens (slugChars true s.toList)) = out
  have short : out.length ≤ 48 := by
    rw [← outEq]
    split
    · exact (List.rdropWhile_prefix _ _).length_le.trans (List.length_take_le _ _)
    next fits => exact Nat.le_of_not_lt fits
  cases out with
  | nil => exact ⟨(isValidTradeId_iff "event").mp (by decide +kernel) |>.1, by decide⟩
  | cons c later =>
    rw [if_neg (by simp), String.toList_ofList]
    refine ⟨?_, short⟩
    split at outEq
    · rw [← outEq]
      exact (whole.of_prefix (List.take_prefix _ _)).trimmed (by rw [outEq]; exact List.cons_ne_nil _ _)
    · rw [← outEq]
      exact start.trimmed (by rw [outEq]; exact List.cons_ne_nil _ _)

end TradeControl
