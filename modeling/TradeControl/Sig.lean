import Mathlib.Data.Char
import Mathlib.Data.List.Lex
import Mathlib.Data.List.Sort
import TradeControl.Foundation.Yaml

namespace TradeControl

open Foundation

/-- HMAC-SHA256 under a key, and base64. -/
structure SigCrates (Tag : Type) where
  mac : List UInt8 → Text → Tag
  encode : Tag → Text
  decode : Text → Option Tag

def sigPrefix : Text := "v1-sig.".toList

def aad : Text := "trade-control-sig-v1".toList

/-- `UNSIGNED_VALUE_KEYS`: their values are filled in after signing. -/
def unsignedValueKeys : List Text :=
  ["close", "high", "low", "open", "time", "signal_high", "signal_low", "signal_range", "signal_start_time",
    "signal_kind", "golden", "atr", "signal_confirmed", "recent_high", "recent_low", "next_candle_timestamp_1",
    "next_candle_timestamp_2", "next_candle_timestamp_3", "next_candle_timestamp_4",
    "next_candle_timestamp_5"].map String.toList

def sigField : Text := "sig".toList

def keyLen : Nat := 32

inductive SigError
  | badKeyLen
  | badPrefix
  | badBase64
  | mismatch
  | missingSig
  deriving DecidableEq

/-- `Vec::dedup`. -/
def dedupAdjacent : List Text → List Text
  | [] => []
  | [key] => [key]
  | key :: next :: rest =>
    if key = next then dedupAdjacent (next :: rest) else key :: dedupAdjacent (next :: rest)

/-- The sorted keys of all pairs. -/
def fingerprintKeys (pairs : List (Text × Text)) : List Text :=
  dedupAdjacent ((pairs.map (·.1)).insertionSort (· ≤ ·))

/-- The pairs whose values are signed, by key. -/
def signedPairs (pairs : List (Text × Text)) : List (Text × Text) :=
  (pairs.filter (·.1 ∉ unsignedValueKeys)).insertionSort (·.1 ≤ ·.1)

/-- `canonical_form`. -/
def canonicalForm (pairs : List (Text × Text)) : Text :=
  joinLines ("v1-sig".toList :: ("keys:".toList ++ [','].intercalate (fingerprintKeys pairs)) ::
    (signedPairs pairs).map fun pair => pair.1 ++ '=' :: pair.2)

def signature {Tag : Type} (crates : SigCrates Tag) (key : List UInt8) (pairs : List (Text × Text)) :
    Except SigError Text :=
  if key.length ≠ keyLen then .error .badKeyLen
  else .ok (sigPrefix ++ crates.encode (crates.mac key (aad ++ canonicalForm pairs)))

def stripPrefix (start text : Text) : Option Text :=
  if start.isPrefixOf text then some (text.drop start.length) else none

def verify {Tag : Type} [DecidableEq Tag] (crates : SigCrates Tag) (key : List UInt8)
    (pairs : List (Text × Text)) (sig : Text) : Except SigError Unit :=
  if key.length ≠ keyLen then .error .badKeyLen
  else match stripPrefix sigPrefix sig with
  | none => .error .badPrefix
  | some body =>
    match crates.decode body with
    | none => .error .badBase64
    | some provided =>
      if crates.mac key (aad ++ canonicalForm pairs) = provided then .ok () else .error .mismatch

theorem mem_dedupAdjacent {keys : List Text} {key : Text} : key ∈ dedupAdjacent keys ↔ key ∈ keys := by
  induction keys with
  | nil => exact Iff.rfl
  | cons first rest ih =>
    cases rest with
    | nil => exact Iff.rfl
    | cons next rest =>
      unfold dedupAdjacent
      split
      next same =>
        rw [ih, same]
        simp
      · simp only [List.mem_cons, ih]

theorem mem_fingerprintKeys {pairs : List (Text × Text)} {key : Text} :
    key ∈ fingerprintKeys pairs ↔ key ∈ pairs.map (·.1) := by
  unfold fingerprintKeys
  rw [mem_dedupAdjacent]
  exact (List.perm_insertionSort _ _).mem_iff

theorem signedPairs_perm (pairs : List (Text × Text)) :
    (signedPairs pairs).Perm (pairs.filter (·.1 ∉ unsignedValueKeys)) :=
  List.perm_insertionSort _ _

theorem mem_signedPairs {pairs : List (Text × Text)} {pair : Text × Text} :
    pair ∈ signedPairs pairs ↔ pair ∈ pairs ∧ pair.1 ∉ unsignedValueKeys := by
  rw [(signedPairs_perm pairs).mem_iff, List.mem_filter, decide_eq_true_eq]

/-- No key or value of the pairs runs into what stands around it in the canonical form. -/
structure Separable (pairs : List (Text × Text)) : Prop where
  keys : ∀ pair ∈ pairs, pair.1 ≠ [] ∧ '\n' ∉ pair.1 ∧ ',' ∉ pair.1 ∧ '=' ∉ pair.1
  values : ∀ pair ∈ pairs, '\n' ∉ pair.2

theorem Separable.signedLine_unbroken {pairs : List (Text × Text)} (separable : Separable pairs) {line : Text}
    (member : line ∈ (signedPairs pairs).map fun pair => pair.1 ++ '=' :: pair.2) : '\n' ∉ line := by
  obtain ⟨pair, signed, rfl⟩ := List.mem_map.mp member
  have listed := (mem_signedPairs.mp signed).1
  have key := (separable.keys pair listed).2.1
  have value := separable.values pair listed
  simp [key, value]

theorem Separable.fingerprint_clean {pairs : List (Text × Text)} (separable : Separable pairs) {key : Text}
    (member : key ∈ fingerprintKeys pairs) : key ≠ [] ∧ '\n' ∉ key ∧ ',' ∉ key := by
  obtain ⟨pair, listed, rfl⟩ := List.mem_map.mp (mem_fingerprintKeys.mp member)
  obtain ⟨some_, lf, comma, _⟩ := separable.keys pair listed
  exact ⟨some_, lf, comma⟩

theorem signedLines_inj {pairs pairs' : List (Text × Text)} (clean : ∀ pair ∈ pairs, '=' ∉ pair.1)
    (clean' : ∀ pair ∈ pairs', '=' ∉ pair.1)
    (same : pairs.map (fun pair => pair.1 ++ '=' :: pair.2) = pairs'.map fun pair => pair.1 ++ '=' :: pair.2) :
    pairs = pairs' := by
  induction pairs generalizing pairs' with
  | nil =>
    cases pairs' with
    | nil => rfl
    | cons _ _ => cases same
  | cons pair rest ih =>
    cases pairs' with
    | nil => cases same
    | cons pair' rest' =>
      rw [List.map_cons, List.map_cons] at same
      obtain ⟨key, value⟩ := append_separator_inj (clean pair (by simp)) (clean' pair' (by simp))
        (List.head_eq_of_cons_eq same)
      have later := ih (fun pair member => clean pair (by simp [member]))
        (fun pair member => clean' pair (by simp [member])) (List.tail_eq_of_cons_eq same)
      rw [later, Prod.ext key value]

/-- The canonical form tells the keys and the signed pairs. -/
theorem canonicalForm_inj {pairs pairs' : List (Text × Text)} (separable : Separable pairs)
    (separable' : Separable pairs') (same : canonicalForm pairs = canonicalForm pairs') :
    fingerprintKeys pairs = fingerprintKeys pairs' ∧ signedPairs pairs = signedPairs pairs' := by
  have unbroken : ∀ {pairs : List (Text × Text)}, Separable pairs →
      ∀ line ∈ "v1-sig".toList :: ("keys:".toList ++ [','].intercalate (fingerprintKeys pairs)) ::
        (signedPairs pairs).map (fun pair => pair.1 ++ '=' :: pair.2), '\n' ∉ line := by
    intro pairs separable line member
    rcases List.mem_cons.mp member with rfl | member
    · decide
    rcases List.mem_cons.mp member with rfl | member
    · rw [List.mem_append, not_or]
      exact ⟨by decide, not_mem_intercalate (by decide) fun key listed => (separable.fingerprint_clean listed).2.1⟩
    · exact separable.signedLine_unbroken member
  have lines := joinLines_inj (unbroken separable) (unbroken separable') same
  have rest := List.tail_eq_of_cons_eq lines
  constructor
  · refine intercalate_inj (fun key member => ?_) (fun key member => ?_)
      (List.append_cancel_left (List.head_eq_of_cons_eq rest))
    · obtain ⟨some_, _, comma⟩ := separable.fingerprint_clean member
      exact ⟨comma, some_⟩
    · obtain ⟨some_, _, comma⟩ := separable'.fingerprint_clean member
      exact ⟨comma, some_⟩
  · refine signedLines_inj (fun pair member => ?_) (fun pair member => ?_) (List.tail_eq_of_cons_eq rest)
    · exact (separable.keys pair (mem_signedPairs.mp member).1).2.2.2
    · exact (separable'.keys pair (mem_signedPairs.mp member).1).2.2.2

theorem stripPrefix_append (start rest : Text) : stripPrefix start (start ++ rest) = some rest := by
  unfold stripPrefix
  rw [if_pos (List.isPrefixOf_iff_prefix.mpr (List.prefix_append start rest)), List.drop_left]

/-- A signature lets through just the pairs with the same keys and the same signed values as those it
was made for, in any order and with any unsigned values, or else two canonical forms share a tag. -/
theorem verify_signature_iff {Tag : Type} [DecidableEq Tag] {crates : SigCrates Tag} {key : List UInt8}
    {pairs pairs' : List (Text × Text)} {sig : Text} (signed : signature crates key pairs' = .ok sig)
    (reads : ∀ tag, crates.decode (crates.encode tag) = some tag) (separable : Separable pairs)
    (separable' : Separable pairs') :
    verify crates key pairs sig = .ok () ↔
      fingerprintKeys pairs = fingerprintKeys pairs' ∧ signedPairs pairs = signedPairs pairs' ∨
        canonicalForm pairs ≠ canonicalForm pairs' ∧
          crates.mac key (aad ++ canonicalForm pairs) = crates.mac key (aad ++ canonicalForm pairs') := by
  have accepts : verify crates key pairs sig = .ok () ↔
      crates.mac key (aad ++ canonicalForm pairs) = crates.mac key (aad ++ canonicalForm pairs') := by
    unfold signature at signed
    split at signed
    · cases signed
    · next length =>
      unfold verify
      rw [← Except.ok.inj signed, if_neg length, stripPrefix_append]
      dsimp only
      rw [reads]
      dsimp only
      split
      · next same => exact ⟨fun _ => same, fun _ => rfl⟩
      · next differs => exact ⟨fun wrong => (by cases wrong), fun same => absurd same differs⟩
  have forms : canonicalForm pairs = canonicalForm pairs' ↔
      fingerprintKeys pairs = fingerprintKeys pairs' ∧ signedPairs pairs = signedPairs pairs' := by
    refine ⟨canonicalForm_inj separable separable', fun same => ?_⟩
    unfold canonicalForm
    rw [same.1, same.2]
  rw [accepts, ← forms]
  constructor
  · intro tags
    by_cases same : canonicalForm pairs = canonicalForm pairs'
    · exact Or.inl same
    · exact Or.inr ⟨same, tags⟩
  · rintro (same | ⟨-, tags⟩)
    · rw [same]
    · exact tags

/-- A tag that keeps the key and the text. -/
def plainCrates : SigCrates Text where
  mac key text := key.map (fun byte => Char.ofNat byte.toNat) ++ text
  encode tag := tag
  decode text := some text

def signedClose (close : String) : List (Text × Text) :=
  [("action".toList, "close".toList), ("close".toList, close.toList)]

/-- The close price of the bar is filled in after signing. -/
theorem verify_signature_iff_filled :
    verify plainCrates (List.replicate keyLen 0) (signedClose "1.2").reverse
        (sigPrefix ++ plainCrates.mac (List.replicate keyLen 0) (aad ++ canonicalForm (signedClose "0"))) =
      .ok () := by
  have separable : ∀ pairs ∈ [(signedClose "1.2").reverse, signedClose "0"], Separable pairs := by
    intro pairs member
    simp only [List.mem_cons, List.not_mem_nil, or_false] at member
    rcases member with rfl | rfl
    · exact ⟨by decide, by decide⟩
    · exact ⟨by decide, by decide⟩
  refine (verify_signature_iff rfl (fun _ => rfl) (separable _ (by simp)) (separable _ (by simp))).mpr (Or.inl ?_)
  decide

/-- `char::is_whitespace`. -/
def isWhitespace (c : Char) : Bool :=
  let n := c.toNat
  (9 ≤ n && n ≤ 13) || (0x2000 ≤ n && n ≤ 0x200A) ||
    n ∈ [0x20, 0x85, 0xA0, 0x1680, 0x2028, 0x2029, 0x202F, 0x205F, 0x3000]

def trim (text : Text) : Text := (text.dropWhile isWhitespace).rdropWhile isWhitespace

/-- `str::lines`: no break ends the last line where nothing follows it. -/
def strLines (text : Text) : List Text :=
  let lines := textLines false text
  if lines.getLast? = some [] then lines.dropLast else lines

def stripQuotes (quote : Char) (text : Text) : Option Text :=
  match text with
  | [] => none
  | c :: rest => if c = quote ∧ rest.getLast? = some quote then some rest.dropLast else none

def stripYamlQuotes (text : Text) : Text :=
  match stripQuotes '"' text with
  | some inner => inner
  | none => (stripQuotes '\'' text).getD text

inductive BodyError
  | badYaml
  | sig (error : SigError)
  | badIntentYaml
  deriving DecidableEq

/-- What the scan takes from one line. -/
def scanLine (line : Text) : Except BodyError (Option (Text × Text)) :=
  if line.head?.all fun c => isWhitespace c || c = '#' then .ok none
  else match splitOnce ':' line with
  | none => .ok none
  | some (key, value) =>
    if trim key = [] then .error .badYaml else .ok (some (trim key, stripYamlQuotes (trim value)))

def scanLines : List Text → Except BodyError (List (Text × Text))
  | [] => .ok []
  | line :: rest =>
    match scanLine line with
    | .error error => .error error
    | .ok none => scanLines rest
    | .ok (some pair) =>
      match scanLines rest with
      | .error error => .error error
      | .ok pairs => .ok (pair :: pairs)

def signedPairsFromText (body : Text) : Except BodyError (List (Text × Text)) := scanLines (strLines body)

def pairsGet (pairs : List (Text × Text)) (key : Text) : Option Text :=
  (pairs.find? (·.1 = key)).map (·.2)

/-- The lines of the scan are those of the text; an empty one adds nothing. -/
theorem signedPairsFromText_textLines (body : Text) :
    signedPairsFromText body = scanLines (textLines false body) := by
  unfold signedPairsFromText strLines
  dsimp only
  split
  next last =>
    have split_ : textLines false body = (textLines false body).dropLast ++ [[]] :=
      (List.dropLast_append_getLast? [] last).symm
    have ignored : ∀ lines : List Text, scanLines (lines ++ [[]]) = scanLines lines := by
      intro lines
      induction lines with
      | nil => rfl
      | cons line rest ih => simp only [List.cons_append, scanLines, ih]
    rw [split_, List.dropLast_concat, ignored]
  · rfl

end TradeControl
