import Mathlib.Data.List.Basic
import Mathlib.Data.List.DropRight
import Mathlib.Data.Rat.Defs

namespace Foundation

abbrev Text := List Char

instance (word : Text) (words : List Text) : Decidable (word ∈ words) := List.instDecidableMemOfLawfulBEq word words

/-- One more character before the first of some lines. -/
def startLine (c : Char) : List Text → List Text
  | [] => [[c]]
  | line :: rest => (c :: line) :: rest

/-- The lines of a text, broken at LF and CRLF and, where asked, at a lone CR too. What follows the
last break is a line, if an empty one. -/
def textLines (loneCr : Bool) : Text → List Text
  | [] => [[]]
  | c :: rest =>
    if c = '\n' then [] :: textLines loneCr rest
    else if c = '\r' ∧ rest.head? = some '\n' then textLines loneCr rest
    else if c = '\r' ∧ loneCr = true then [] :: textLines loneCr rest
    else startLine c (textLines loneCr rest)

/-- Every CR stands before an LF. -/
def noLoneCr : Text → Bool
  | [] => true
  | c :: rest => (c ≠ '\r' || rest.head? = some '\n') && noLoneCr rest

/-- Each line with its LF. -/
def joinLines (lines : List Text) : Text := lines.flatMap (· ++ ['\n'])

theorem joinLines_cons (line : Text) (lines : List Text) :
    joinLines (line :: lines) = line ++ '\n' :: joinLines lines := by
  unfold joinLines
  rw [List.flatMap_cons, List.append_assoc]
  rfl

/-- What comes before the first separator is the same on both sides, and so is what comes after. -/
theorem append_separator_inj {α : Type} {separator : α} {before before' after after' : List α}
    (clean : separator ∉ before) (clean' : separator ∉ before')
    (same : before ++ separator :: after = before' ++ separator :: after') :
    before = before' ∧ after = after' := by
  induction before generalizing before' with
  | nil =>
    cases before' with
    | nil => exact ⟨rfl, List.tail_eq_of_cons_eq same⟩
    | cons first rest =>
      have head := List.head_eq_of_cons_eq same
      exact absurd (by simp [head]) clean'
  | cons first rest ih =>
    cases before' with
    | nil =>
      have head := List.head_eq_of_cons_eq same
      exact absurd (by simp [head]) clean
    | cons first' rest' =>
      have head := List.head_eq_of_cons_eq same
      obtain ⟨equal, later⟩ := ih (fun inside => clean (by simp [inside])) (fun inside => clean' (by simp [inside]))
        (List.tail_eq_of_cons_eq same)
      exact ⟨by rw [head, equal], later⟩

theorem joinLines_inj {lines lines' : List Text} (unbroken : ∀ line ∈ lines, '\n' ∉ line)
    (unbroken' : ∀ line ∈ lines', '\n' ∉ line) (same : joinLines lines = joinLines lines') : lines = lines' := by
  induction lines generalizing lines' with
  | nil =>
    cases lines' with
    | nil => rfl
    | cons line rest => simp [joinLines] at same
  | cons line rest ih =>
    cases lines' with
    | nil => simp [joinLines] at same
    | cons line' rest' =>
      rw [joinLines_cons, joinLines_cons] at same
      obtain ⟨first, later⟩ := append_separator_inj (unbroken line (by simp)) (unbroken' line' (by simp)) same
      rw [first, ih (fun other member => unbroken other (by simp [member]))
        (fun other member => unbroken' other (by simp [member])) later]

/-- Words joined by a separator that none of them has are told apart again. -/
theorem intercalate_inj {separator : Char} {words words' : List Text}
    (clean : ∀ word ∈ words, separator ∉ word ∧ word ≠ []) (clean' : ∀ word ∈ words', separator ∉ word ∧ word ≠ [])
    (same : [separator].intercalate words = [separator].intercalate words') : words = words' := by
  have empty : ∀ {words : List Text}, (∀ word ∈ words, separator ∉ word ∧ word ≠ []) →
      [separator].intercalate words = [] → words = [] := by
    intro words clean none_
    cases words with
    | nil => rfl
    | cons word rest =>
      have listed := (clean word (by simp)).2
      cases rest with
      | nil => exact absurd (by simpa using none_) listed
      | cons _ _ => simp [List.intercalate, List.intersperse] at none_
  by_cases none_ : words = []
  · subst none_
    exact (empty clean' same.symm).symm
  by_cases none' : words' = []
  · subst none'
    exact empty clean same
  · have first := List.splitOn_intercalate separator (fun word member => (clean word member).1) none_
    have second := List.splitOn_intercalate separator (fun word member => (clean' word member).1) none'
    rw [← first, same, second]

theorem not_mem_intercalate {separator c : Char} {words : List Text} (other : c ≠ separator)
    (clean : ∀ word ∈ words, c ∉ word) : c ∉ [separator].intercalate words := by
  induction words with
  | nil => simp [List.intercalate]
  | cons word rest ih =>
    have first := clean word (by simp)
    have later := ih fun word member => clean word (by simp [member])
    cases rest with
    | nil => simpa [List.intercalate] using first
    | cons next rest =>
      have split_ : [separator].intercalate (word :: next :: rest) =
          word ++ separator :: [separator].intercalate (next :: rest) := by
        simp [List.intercalate, List.intersperse]
      rw [split_, List.mem_append, List.mem_cons, not_or, not_or]
      exact ⟨first, other, later⟩

/-! Values of YAML, and of its texts those nodes that stand on one line: plain and quoted scalars and
flow collections. What lies outside is not read here, whatever YAML makes of it. -/

inductive YamlNumber
  | int (value : Int)
  | float (value : Rat)
  deriving DecidableEq

def YamlNumber.toRat : YamlNumber → Rat
  | .int value => value
  | .float value => value

/-- Rounded towards zero. -/
def YamlNumber.truncated : YamlNumber → Int
  | .int value => value
  | .float value => value.num.tdiv value.den

inductive Yaml
  | null
  | bool (value : Bool)
  | number (value : YamlNumber)
  | string (text : Text)
  | sequence (items : List Yaml)
  | mapping (entries : List (Yaml × Yaml))
  | tagged (tag : Text) (value : Yaml)

/-- Neither a control character nor a line break. -/
def printable (c : Char) : Bool :=
  c = '\t' || (' '.toNat ≤ c.toNat && c.toNat ≠ 0x7F && !(0x80 ≤ c.toNat && c.toNat < 0xA0) &&
    c.toNat ∉ [0x2028, 0x2029, 0xFEFF, 0xFFFE, 0xFFFF])

def isBlank (c : Char) : Bool := c = ' ' || c = '\t'

/-- May begin a plain scalar that goes on like this. -/
def startsPlain : Text → Bool
  | [] => false
  | c :: rest =>
    c ∉ [',', '[', ']', '{', '}', '&', '*', '!', '|', '>', '%', '@', Char.ofNat 0x60, '"', '\'', '#'] &&
      !isBlank c && (c ∉ ['-', '?', ':'] || rest.head?.any (!isBlank ·))

/-- Stands in a plain scalar within a flow collection. -/
def flowChar (c : Char) : Bool :=
  printable c && c ∉ [',', '[', ']', '{', '}', ':', '#', '"', '\'']

/-- A plain scalar within a flow collection. -/
def flowWord (word : Text) : Bool :=
  startsPlain word && word.all flowChar && !word.getLast?.any isBlank

/-- No colon ends a word, and no number sign begins one. -/
def noMark : Text → Bool
  | [] => true
  | [c] => c ≠ ':'
  | c :: d :: rest => !(c = ':' && isBlank d) && !(isBlank c && d = '#') && noMark (d :: rest)

/-- A plain scalar on a line of its own. -/
def blockWord (word : Text) : Bool :=
  startsPlain word && word.all printable && noMark word && !word.getLast?.any isBlank

/-- How numbers are written and told from other words. -/
structure NumberSyntax where
  text : YamlNumber → Text
  read : Text → Option YamlNumber
  read_text : ∀ number, read (text number) = some number
  word : ∀ number, flowWord (text number) = true

def nullWords : List Text := ["~".toList, "null".toList, "Null".toList, "NULL".toList]

def trueWords : List Text := ["true".toList, "True".toList, "TRUE".toList]

def falseWords : List Text := ["false".toList, "False".toList, "FALSE".toList]

/-- What a plain scalar stands for. -/
def NumberSyntax.resolve (numbers : NumberSyntax) (word : Text) : Yaml :=
  match numbers.read word with
  | some number => .number number
  | none =>
    if word ∈ nullWords then .null
    else if word ∈ trueWords then .bool true
    else if word ∈ falseWords then .bool false
    else .string word

def escaped (c : Char) : Option Char :=
  if c = '"' then some '"'
  else if c = '\\' then some '\\'
  else if c = 'n' then some '\n'
  else if c = 'r' then some '\r'
  else if c = 't' then some '\t'
  else none

/-- The rest of a double quoted scalar. -/
def doubleQuoted : Text → Option (Text × Text)
  | [] => none
  | c :: rest =>
    if c = '"' then some ([], rest)
    else if c = '\\' then
      match rest with
      | [] => none
      | d :: rest =>
        match escaped d, doubleQuoted rest with
        | some e, some (text, rest) => some (e :: text, rest)
        | _, _ => none
    else if printable c then (doubleQuoted rest).map fun found => (c :: found.1, found.2)
    else none

/-- The rest of a single quoted scalar. -/
def singleQuoted : Text → Option (Text × Text)
  | [] => none
  | c :: rest =>
    if c = '\'' then
      match rest with
      | [] => some ([], [])
      | d :: rest' =>
        if d = '\'' then (singleQuoted rest').map fun found => (d :: found.1, found.2)
        else some ([], d :: rest')
    else if printable c then (singleQuoted rest).map fun found => (c :: found.1, found.2)
    else none

mutual

/-- A node, and the text after it. -/
def flowNode (numbers : NumberSyntax) : Nat → Text → Option (Yaml × Text)
  | 0, _ => none
  | _ + 1, [] => none
  | fuel + 1, c :: rest =>
    if c = '"' then (doubleQuoted rest).map fun found => (.string found.1, found.2)
    else if c = '\'' then (singleQuoted rest).map fun found => (.string found.1, found.2)
    else if c = '[' then
      if rest.head? = some ']' then some (.sequence [], rest.tail)
      else (flowItems numbers fuel rest).map fun found => (.sequence found.1, found.2)
    else if c = '{' then
      if rest.head? = some '}' then some (.mapping [], rest.tail)
      else (flowEntries numbers fuel rest).map fun found => (.mapping found.1, found.2)
    else
      let word := (c :: rest).takeWhile flowChar
      if flowWord word then some (numbers.resolve word, (c :: rest).dropWhile flowChar) else none

/-- The rest of a sequence, from an item on. -/
def flowItems (numbers : NumberSyntax) : Nat → Text → Option (List Yaml × Text)
  | 0, _ => none
  | fuel + 1, text =>
    match flowNode numbers fuel text with
    | some (item, ',' :: ' ' :: rest) =>
      (flowItems numbers fuel rest).map fun found => (item :: found.1, found.2)
    | some (item, ']' :: rest) => some ([item], rest)
    | _ => none

/-- The rest of a mapping, from a key on, which is a string on at most 1024 characters. -/
def flowEntries (numbers : NumberSyntax) : Nat → Text → Option (List (Yaml × Yaml) × Text)
  | 0, _ => none
  | fuel + 1, text =>
    match flowNode numbers fuel text with
    | some (.string key, ':' :: ' ' :: rest) =>
      if text.length ≤ rest.length + 1026 then
        match flowNode numbers fuel rest with
        | some (value, ',' :: ' ' :: rest) =>
          (flowEntries numbers fuel rest).map fun found => ((.string key, value) :: found.1, found.2)
        | some (value, '}' :: rest) => some ([(.string key, value)], rest)
        | _ => none
      else none
    | _ => none

end

/-- The value of a node that is all of a line's rest. -/
def lineNode (numbers : NumberSyntax) (text : Text) : Option Yaml :=
  match text.head? with
  | none => some .null
  | some c =>
    if c ∈ ['"', '\'', '[', '{'] then
      match flowNode numbers (text.length + 1) text with
      | some (value, []) => some value
      | _ => none
    else if blockWord text then some (numbers.resolve text)
    else none

def trimBlanks (text : Text) : Text := (text.dropWhile isBlank).rdropWhile isBlank

/-- The text before the first separator and the text after it. -/
def splitOnce (separator : Char) : Text → Option (Text × Text)
  | [] => none
  | c :: rest =>
    if c = separator then some ([], rest)
    else (splitOnce separator rest).map fun found => (c :: found.1, found.2)

/-- A word of letters, digits, underscores and inner hyphens that YAML takes for a string. -/
def bareKey (numbers : NumberSyntax) (key : Text) : Bool :=
  key.head?.any (fun c => c.isAlpha || c = '_') && key.all (fun c => c.isAlphanum || c = '_' || c = '-') &&
    key.length ≤ 1024 && (numbers.read key).isNone && key ∉ nullWords ++ trueWords ++ falseWords

/-- What a line of a flat document says: a key with its text, or nothing. -/
inductive FlatLine
  | nothing
  | field (key text : Text)
  deriving DecidableEq

/-- A line of a flat document: blank, a comment, or a bare key with the rest of the line. -/
def flatLine (numbers : NumberSyntax) (line : Text) : Option FlatLine :=
  match (line.dropWhile isBlank).head? with
  | none => some .nothing
  | some c =>
    if c = '#' then if line.all printable then some .nothing else none
    else
      match splitOnce ':' line with
      | none => none
      | some (key, rest) =>
        if bareKey numbers key && rest.head?.all isBlank then some (.field key (trimBlanks rest)) else none

def FlatLine.fields : List FlatLine → List (Text × Text)
  | [] => []
  | .nothing :: lines => fields lines
  | .field key text :: lines => (key, text) :: fields lines

/-- The keys of a flat document and the texts of their values. -/
def flatFields (numbers : NumberSyntax) (text : Text) : Option (List (Text × Text)) :=
  ((textLines true text).mapM (flatLine numbers)).map FlatLine.fields

/-- A flat document: a mapping with a field to a line and no key twice. -/
def readFlat (numbers : NumberSyntax) (text : Text) : Option Yaml :=
  match flatFields numbers text with
  | none => none
  | some fields =>
    if fields.isEmpty || !decide (fields.map (·.1)).Nodup then none
    else (fields.mapM fun field => (lineNode numbers field.2).map fun value =>
      (Yaml.string field.1, value)).map Yaml.mapping

end Foundation
