import Mathlib.Data.Rat.Defs
import TradeControl.Foundation.Checked
import TradeControl.Intent

namespace TradeControl.CTrader

open Foundation

/-- `serde_json::Value`; whole numbers and others are told apart. -/
inductive Json
  | null
  | bool (value : Bool)
  | whole (value : Int)
  | decimal (value : Rat)
  | text (value : String)
  | array (items : List Json)
  | object (fields : List (String × Json))

/-- `v.get(key)`. -/
def Json.get? : Json → String → Option Json
  | .object fields, key => fields.lookup key
  | _, _ => none

/-- `v[key]`: what is not there is null. -/
def Json.field (v : Json) (key : String) : Json := (v.get? key).getD .null

def fitsI64 (value : Int) : Prop := -2 ^ 63 ≤ value ∧ value < 2 ^ 63

instance (value : Int) : Decidable (fitsI64 value) := inferInstanceAs (Decidable (_ ∧ _))

def Json.asI64 : Json → Option Int
  | .whole value => if fitsI64 value then some value else none
  | _ => none

def Json.asF64 : Json → Option Rat
  | .whole value => some value
  | .decimal value => some value
  | _ => none

def Json.asStr : Json → Option String
  | .text value => some value
  | _ => none

def Json.asBool : Json → Option Bool
  | .bool value => some value
  | _ => none

def Json.isNull : Json → Bool
  | .null => true
  | _ => false

def Json.isArray : Json → Bool
  | .array _ => true
  | _ => false

/-- The number that digits write, at least one of them. -/
def readDigits (digits : List Char) : Option Nat :=
  if digits ≠ [] ∧ digits.all Char.isDigit then
    some (digits.foldl (fun value digit => 10 * value + (digit.toNat - '0'.toNat)) 0)
  else none

/-- A sign, or none, and what it stands before. -/
def readSign : List Char → Int × List Char
  | '-' :: rest => (-1, rest)
  | '+' :: rest => (1, rest)
  | rest => (1, rest)

def readSigned (chars : List Char) : Option Int :=
  (readDigits (readSign chars).2).map fun value => (readSign chars).1 * value

/-- `str::parse::<i64>`. -/
def parseI64 (text : String) : Option Int :=
  (readSigned text.toList).filter fun value => fitsI64 value

/-- A text's parts before and after a mark's first occurrence. -/
def splitMark (isMark : Char → Bool) (chars : List Char) : List Char × Option (List Char) :=
  match chars.dropWhile fun char => !isMark char with
  | [] => (chars, none)
  | _ :: rest => (chars.takeWhile fun char => !isMark char, some rest)

def readMantissa (chars : List Char) : Option (Nat × Nat) :=
  match splitMark (· == '.') chars with
  | (units, none) => (readDigits units).map fun value => (value, 0)
  | (units, some decimals) => (readDigits (units ++ decimals)).map fun value => (value, decimals.length)

/-- `str::parse::<f64>`; an infinity or a text that is not a number has no finite value. -/
def parseF64 (text : String) : Option (Option Rat) :=
  let (sign, body) := readSign text.toList
  if (String.ofList body).toLower ∈ ["inf", "infinity", "nan"] then some none
  else do
    let (mantissa, exponent) := splitMark (fun char => char == 'e' || char == 'E') body
    let (value, decimals) ← readMantissa mantissa
    let exponent ← match exponent with
      | none => some 0
      | some chars => readSigned chars
    return some (sign * value * (10 : Rat) ^ (exponent - decimals))

def integer (v : Json) (key : String) : Except String Int :=
  match (v.field key).asI64.or ((v.field key).asStr.bind parseI64) with
  | some value => .ok value
  | none => .error s!"cTrader response missing integer {key}"

def number (v : Json) (key : String) : Except String Rat :=
  match ((v.field key).asF64.map some).or ((v.field key).asStr.bind parseF64) with
  | some (some value) => .ok value
  | some none => .error s!"nonfinite cTrader {key}"
  | none => .error s!"cTrader response missing number {key}"

def array (v : Json) (key : String) : List Json :=
  match v.field key with
  | .array items => items
  | _ => []

def isEnum (v : Json) (key : String) (n : Int) (name : String) : Prop :=
  (integer v key).toOption = some n ∨ (v.field key).asStr = some name

instance (v : Json) (key : String) (n : Int) (name : String) : Decidable (isEnum v key n name) :=
  inferInstanceAs (Decidable (_ ∨ _))

def direction (v : Json) : Except String Direction :=
  if isEnum v "tradeSide" 1 "BUY" then .ok .long
  else if isEnum v "tradeSide" 2 "SELL" then .ok .short
  else .error "unknown cTrader trade side"

def arrayShape (v : Json) (key : String) : Except String Unit :=
  ensure ((v.get? key).all Json.isArray) s!"cTrader {key} must be an array"

def positionStatuses : List (Int × String) :=
  [(1, "POSITION_STATUS_OPEN"), (2, "POSITION_STATUS_CLOSED"), (3, "POSITION_STATUS_CREATED"),
    (4, "POSITION_STATUS_ERROR")]

def orderStatuses : List (Int × String) :=
  [(1, "ORDER_STATUS_ACCEPTED"), (2, "ORDER_STATUS_FILLED"), (3, "ORDER_STATUS_REJECTED"),
    (4, "ORDER_STATUS_EXPIRED"), (5, "ORDER_STATUS_CANCELLED")]

/-- One of a list's values stands under a key. -/
def isOneOf (v : Json) (key : String) (values : List (Int × String)) : Prop :=
  ∃ value ∈ values, isEnum v key value.1 value.2

instance (v : Json) (key : String) (values : List (Int × String)) : Decidable (isOneOf v key values) :=
  inferInstanceAs (Decidable (∃ value ∈ values, _))

/-- A row of a snapshot's positions or orders. -/
def validateRow (isPosition : Bool) (row : Json) : Except String Unit := do
  let td := row.field "tradeData"
  let symbol ← integer td "symbolId"
  ensure (0 < symbol) "invalid cTrader snapshot trade data"
  let volume ← integer td "volume"
  ensure (0 ≤ volume) "invalid cTrader snapshot trade data"
  let _ ← direction td
  if isPosition then
    let id ← integer row "positionId"
    ensure (0 < id) "invalid cTrader position ID"
    ensure (isOneOf row "positionStatus" positionStatuses) "unknown cTrader snapshot position status"
  else
    let id ← integer row "orderId"
    ensure (0 < id) "invalid cTrader order ID"
    ensure (isOneOf row "orderStatus" orderStatuses) "unknown cTrader snapshot order status"

def validateSnapshot (v : Json) : Except String Unit := do
  arrayShape v "position"
  (array v "position").forM (validateRow true)
  arrayShape v "order"
  (array v "order").forM (validateRow false)

example : parseI64 "-42" = some (-42) := by decide +kernel

example : parseF64 "-1.25e1" = some (some (-25/2)) := by decide +kernel

end TradeControl.CTrader
