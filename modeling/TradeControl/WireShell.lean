import TradeControl.CandleMetrics
import TradeControl.Foundation.Yaml

namespace TradeControl

open Foundation

/-- How instants are written in bodies. -/
structure TimeSyntax where
  text : Int → Text
  read : Text → Option Int
  read_text : ∀ time, read (text time) = some time
  chars : ∀ time, text time ≠ [] ∧ ∀ c ∈ text time, c.isAlphanum = true ∨ c ∈ ['-', ':', '.', '+']

/-- `Shell`, with every field of the wire. -/
structure WireShell where
  close : Rat
  high : Rat
  low : Rat
  openPrice : Option Rat := none
  time : Int
  signalHigh : Option Rat := none
  signalLow : Option Rat := none
  signalRange : Option Rat := none
  signalStartTime : Option Int := none
  signalKind : Option SignalKind := none
  bandAnchor : Option Rat := none
  golden : Option Bool := none
  atr : Option Rat := none
  signalConfirmed : Option Bool := none
  recentHigh : Option Rat := none
  recentLow : Option Rat := none
  nextCandleTimestamp1 : Option Int := none
  nextCandleTimestamp2 : Option Int := none
  nextCandleTimestamp3 : Option Int := none
  nextCandleTimestamp4 : Option Int := none
  nextCandleTimestamp5 : Option Int := none
  deriving DecidableEq

def SignalKind.toCode : SignalKind → Int
  | .pinbar => 1
  | .tweezer => 2
  | .regularEngulfer => 3
  | .floatingEngulfer => 4
  | .doubleTweezer => 5

/-- `f64::round`: halves away from zero. -/
def roundAway (value : Rat) : Int :=
  if 0 ≤ value then (value + 1 / 2).floor else -(-value + 1 / 2).floor

def SignalKind.fromCode (code : Rat) : Option SignalKind :=
  match roundAway code with
  | 1 => some .pinbar
  | 2 => some .tweezer
  | 3 => some .regularEngulfer
  | 4 => some .floatingEngulfer
  | 5 => some .doubleTweezer
  | _ => none

def nanosPerMilli : Int := 1000000

def floatYaml (value : Rat) : Yaml := .number (.float value)

/-- `signal_time_serde`: whole milliseconds. -/
def signalTimeYaml (time : Int) : Yaml := .number (.int (time / nanosPerMilli))

def signalKindYaml (kind : SignalKind) : Yaml := .number (.int kind.toCode)

def oneZeroYaml (flag : Bool) : Yaml := .number (.int (if flag then 1 else 0))

/-- A field that is left out when it is not there. -/
def optionalField {α : Type} (name : String) (encode : α → Yaml) : Option α → List (Text × Yaml)
  | none => []
  | some value => [(name.toList, encode value)]

def WireShell.serialize (times : TimeSyntax) (shell : WireShell) : List (Text × Yaml) :=
  [("close".toList, floatYaml shell.close), ("high".toList, floatYaml shell.high),
      ("low".toList, floatYaml shell.low)] ++
    optionalField "open" floatYaml shell.openPrice ++
    [("time".toList, .string (times.text shell.time))] ++
    optionalField "signal_high" floatYaml shell.signalHigh ++
    optionalField "signal_low" floatYaml shell.signalLow ++
    optionalField "signal_range" floatYaml shell.signalRange ++
    optionalField "signal_start_time" signalTimeYaml shell.signalStartTime ++
    optionalField "signal_kind" signalKindYaml shell.signalKind ++
    optionalField "band_anchor" floatYaml shell.bandAnchor ++
    optionalField "golden" oneZeroYaml shell.golden ++
    optionalField "atr" floatYaml shell.atr ++
    optionalField "signal_confirmed" oneZeroYaml shell.signalConfirmed ++
    optionalField "recent_high" floatYaml shell.recentHigh ++
    optionalField "recent_low" floatYaml shell.recentLow ++
    optionalField "next_candle_timestamp_1" signalTimeYaml shell.nextCandleTimestamp1 ++
    optionalField "next_candle_timestamp_2" signalTimeYaml shell.nextCandleTimestamp2 ++
    optionalField "next_candle_timestamp_3" signalTimeYaml shell.nextCandleTimestamp3 ++
    optionalField "next_candle_timestamp_4" signalTimeYaml shell.nextCandleTimestamp4 ++
    optionalField "next_candle_timestamp_5" signalTimeYaml shell.nextCandleTimestamp5

def readDigits (text : Text) : Option Nat :=
  if text ≠ [] ∧ text.all Char.isDigit then
    some (text.foldl (fun total c => 10 * total + (c.toNat - '0'.toNat)) 0)
  else none

/-- The magnitude and the sign of a numeral with an optional sign. -/
def readSigned (text : Text) : Bool × Text :=
  match text with
  | [] => (false, [])
  | c :: rest => if c = '-' then (true, rest) else if c = '+' then (false, rest) else (false, c :: rest)

/-- `str::parse::<i64>`. -/
def parseI64 (text : Text) : Option Int :=
  let (negative, digits) := readSigned text
  (readDigits digits).bind fun (magnitude : Nat) =>
    let value : Int := if negative then -magnitude else magnitude
    if -2 ^ 63 ≤ value ∧ value < 2 ^ 63 then some value else none

/-- `str::parse::<f64>`, of a numeral without an exponent. -/
def parseF64 (text : Text) : Option Rat :=
  let (negative, digits) := readSigned text
  let magnitude : Option Rat :=
    match splitOnce '.' digits with
    | none => (readDigits digits).map fun whole => (whole : Rat)
    | some (whole, fraction) =>
      if whole = [] ∧ fraction = [] then none
      else
        match readDigits ('0' :: whole), readDigits (fraction ++ ['0']) with
        | some whole, some tenths => some (whole + tenths / 10 ^ (fraction.length + 1))
        | _, _ => none
  magnitude.map fun value => if negative then -value else value

def decodeFloat : Yaml → Option Rat
  | .number number => some number.toRat
  | _ => none

def decodeTime (times : TimeSyntax) : Yaml → Option Int
  | .string text => times.read text
  | _ => none

def decodeSignalTime : Yaml → Option Int
  | .number number => some (number.truncated * nanosPerMilli)
  | .string text => (parseI64 text).map (· * nanosPerMilli)
  | _ => none

def decodeSignalKind : Yaml → Option SignalKind
  | .number number => SignalKind.fromCode number.toRat
  | .string text => (parseF64 text).bind SignalKind.fromCode
  | _ => none

def decodeOneZero : Yaml → Option Bool
  | .bool flag => some flag
  | .number number => some (1 / 2 < number.toRat)
  | .string text =>
    if text ∈ ["1", "true", "True", "TRUE"].map String.toList then some true
    else if text ∈ ["0", "false", "False", "FALSE"].map String.toList then some false
    else none
  | _ => none

def asStr : Yaml → Option Text
  | .string text => some text
  | _ => none

def fieldOf (entries : List (Yaml × Yaml)) (name : Text) : Option Yaml :=
  (entries.find? fun entry => asStr entry.1 = some name).map (·.2)

/-- A field that may be absent or null. -/
def decodeOptional {α : Type} (decode : Yaml → Option α) : Option Yaml → Option (Option α)
  | none => some none
  | some .null => some none
  | some value => (decode value).map some

def WireShell.deserialize (times : TimeSyntax) (entries : List (Yaml × Yaml)) : Option WireShell := do
  let close ← (fieldOf entries "close".toList).bind decodeFloat
  let high ← (fieldOf entries "high".toList).bind decodeFloat
  let low ← (fieldOf entries "low".toList).bind decodeFloat
  let openPrice ← decodeOptional decodeFloat (fieldOf entries "open".toList)
  let time ← (fieldOf entries "time".toList).bind (decodeTime times)
  let signalHigh ← decodeOptional decodeFloat (fieldOf entries "signal_high".toList)
  let signalLow ← decodeOptional decodeFloat (fieldOf entries "signal_low".toList)
  let signalRange ← decodeOptional decodeFloat (fieldOf entries "signal_range".toList)
  let signalStartTime ← decodeOptional decodeSignalTime (fieldOf entries "signal_start_time".toList)
  let signalKind ← decodeOptional decodeSignalKind (fieldOf entries "signal_kind".toList)
  let bandAnchor ← decodeOptional decodeFloat (fieldOf entries "band_anchor".toList)
  let golden ← decodeOptional decodeOneZero (fieldOf entries "golden".toList)
  let atr ← decodeOptional decodeFloat (fieldOf entries "atr".toList)
  let signalConfirmed ← decodeOptional decodeOneZero (fieldOf entries "signal_confirmed".toList)
  let recentHigh ← decodeOptional decodeFloat (fieldOf entries "recent_high".toList)
  let recentLow ← decodeOptional decodeFloat (fieldOf entries "recent_low".toList)
  let nextCandleTimestamp1 ← decodeOptional decodeSignalTime (fieldOf entries "next_candle_timestamp_1".toList)
  let nextCandleTimestamp2 ← decodeOptional decodeSignalTime (fieldOf entries "next_candle_timestamp_2".toList)
  let nextCandleTimestamp3 ← decodeOptional decodeSignalTime (fieldOf entries "next_candle_timestamp_3".toList)
  let nextCandleTimestamp4 ← decodeOptional decodeSignalTime (fieldOf entries "next_candle_timestamp_4".toList)
  let nextCandleTimestamp5 ← decodeOptional decodeSignalTime (fieldOf entries "next_candle_timestamp_5".toList)
  return {
    close := close, high, low, openPrice, time, signalHigh, signalLow, signalRange, signalStartTime, signalKind
    bandAnchor, golden, atr, signalConfirmed, recentHigh, recentLow, nextCandleTimestamp1, nextCandleTimestamp2
    nextCandleTimestamp3, nextCandleTimestamp4, nextCandleTimestamp5 }

end TradeControl
