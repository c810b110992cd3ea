import TradeControl.Sig
import TradeControl.WireShell
import TradeControl.World

namespace TradeControl

open Foundation

/-- An intent as the wire treats it: the fields its freshness goes by, its validation, and its serde
code, which goes by the names of its fields. -/
structure IntentCode (Wire : Type) where
  v : Wire → Nat
  notBefore : Wire → Option Int
  notAfter : Wire → Int
  validate : Wire → Except IntentValidationError Unit
  serialize : Wire → List (Text × Yaml)
  deserialize : List (Yaml × Yaml) → Option Wire

/-- The crates under the wire form. -/
structure WireCrates (Tag : Type) where
  sig : SigCrates Tag
  numbers : NumberSyntax
  times : TimeSyntax
  readYaml : Text → Option Yaml
  writeYaml : Yaml → Text

/-- The keys that are routed to the shell. -/
def shellKeys : List Text :=
  ["close", "high", "low", "open", "time", "signal_high", "signal_low", "signal_range", "signal_start_time",
    "signal_kind", "golden", "atr", "signal_confirmed", "recent_high", "recent_low", "next_candle_timestamp_1",
    "next_candle_timestamp_2", "next_candle_timestamp_3", "next_candle_timestamp_4",
    "next_candle_timestamp_5"].map String.toList

def keyStr (key : Yaml) : Text := (asStr key).getD []

def shellMap (entries : List (Yaml × Yaml)) : List (Yaml × Yaml) :=
  entries.filter (keyStr ·.1 ∈ shellKeys)

def intentMap (entries : List (Yaml × Yaml)) : List (Yaml × Yaml) :=
  entries.filter fun entry => keyStr entry.1 ≠ sigField ∧ keyStr entry.1 ∉ shellKeys

inductive BodyRejection
  | unreadable (error : BodyError)
  | incoming (error : IncomingError)
  deriving DecidableEq

def checkFreshness (shellTime : Int) (v : Nat) (notBefore : Option Int) (notAfter now : Int) :
    Except IncomingError Unit :=
  if v ≠ 1 then .error (.unsupportedVersion v)
  else if maxShellSkewHours < |numHours (shellTime - now)| then .error .staleShellTime
  else if notBefore.any (now < ·) then .error .tooEarly
  else if notAfter < now then .error .expired
  else .ok ()

/-- The pairs that are signed. -/
def withoutSig (pairs : List (Text × Text)) : List (Text × Text) := pairs.filter (·.1 ≠ sigField)

section
variable {Tag Wire : Type} [DecidableEq Tag] (crates : WireCrates Tag) (code : IntentCode Wire)

/-- The signature of a body holds of what the scan takes from it. -/
def checkSignature (body : Text) (key : List UInt8) : Except BodyError Unit :=
  match signedPairsFromText body with
  | .error error => .error error
  | .ok pairs =>
    match pairsGet pairs sigField with
    | none => .error (.sig .missingSig)
    | some sig =>
      match verify crates.sig key (withoutSig pairs) sig with
      | .error error => .error (.sig error)
      | .ok () => .ok ()

/-- The shell and the intent of a body whose signature holds. -/
def readBody (body : Text) : Except BodyError (WireShell × Wire) :=
  match crates.readYaml body with
  | some (.mapping entries) =>
    match code.deserialize (intentMap entries) with
    | none => .error .badIntentYaml
    | some intent =>
      match WireShell.deserialize crates.times (shellMap entries) with
      | none => .error .badYaml
      | some shell => .ok (shell, intent)
  | _ => .error .badYaml

def readVerified (body : Text) (key : List UInt8) : Except BodyError (WireShell × Wire) :=
  match checkSignature crates body key with
  | .error error => .error error
  | .ok () => readBody crates code body

/-- `parse_and_verify`. -/
def parseAndVerify (body : Text) (key : List UInt8) (now : Int) : Except BodyRejection (WireShell × Wire) :=
  match readVerified crates code body key with
  | .error error => .error (.unreadable error)
  | .ok (shell, intent) =>
    match checkFreshness shell.time (code.v intent) (code.notBefore intent) (code.notAfter intent) now with
    | .error error => .error (.incoming error)
    | .ok () =>
      match code.validate intent with
      | .error error => .error (.incoming (.invalidIntent error))
      | .ok () => .ok (shell, intent)

variable {crates code}

theorem parseAndVerify_eq_ok {body : Text} {key : List UInt8} {now : Int} {verified : WireShell × Wire} :
    parseAndVerify crates code body key now = .ok verified ↔
      readVerified crates code body key = .ok verified ∧
      checkFreshness verified.1.time (code.v verified.2) (code.notBefore verified.2) (code.notAfter verified.2)
        now = .ok () ∧
      code.validate verified.2 = .ok () := by
  unfold parseAndVerify
  cases read : readVerified crates code body key with
  | error error => simp
  | ok found =>
    obtain ⟨shell, intent⟩ := found
    dsimp only
    cases fresh : checkFreshness shell.time (code.v intent) (code.notBefore intent) (code.notAfter intent) now with
    | error error =>
      simp only [reduceCtorEq, Except.ok.injEq, false_iff, not_and]
      rintro rfl
      simp [fresh]
    | ok =>
      cases valid : code.validate intent with
      | error error =>
        simp only [reduceCtorEq, Except.ok.injEq, false_iff, not_and]
        rintro rfl
        simp [valid]
      | ok =>
        simp only [Except.ok.injEq]
        constructor
        · rintro rfl
          exact ⟨rfl, fresh, valid⟩
        · exact And.left

theorem readVerified_eq_ok {body : Text} {key : List UInt8} {verified : WireShell × Wire} :
    readVerified crates code body key = .ok verified ↔
      checkSignature crates body key = .ok () ∧ readBody crates code body = .ok verified := by
  unfold readVerified
  cases checkSignature crates body key with
  | error error => simp
  | ok => simp

omit [DecidableEq Tag] in
theorem readBody_eq_ok {body : Text} {shell : WireShell} {intent : Wire} :
    readBody crates code body = .ok (shell, intent) ↔ ∃ entries, crates.readYaml body = some (.mapping entries) ∧
      code.deserialize (intentMap entries) = some intent ∧
      WireShell.deserialize crates.times (shellMap entries) = some shell := by
  unfold readBody
  constructor
  · intro read
    split at read
    next entries found =>
      refine ⟨entries, found, ?_⟩
      cases intended : code.deserialize (intentMap entries) with
      | none => simp [intended] at read
      | some other =>
        cases shelled : WireShell.deserialize crates.times (shellMap entries) with
        | none => simp [intended, shelled] at read
        | some _ => simpa [intended, shelled, and_comm] using read
    · cases read
  · rintro ⟨entries, found, intended, shelled⟩
    rw [found]
    dsimp only
    rw [intended]
    dsimp only
    rw [shelled]

theorem checkSignature_eq_ok {body : Text} {key : List UInt8} :
    checkSignature crates body key = .ok () ↔ ∃ pairs sig, signedPairsFromText body = .ok pairs ∧
      pairsGet pairs sigField = some sig ∧
      verify crates.sig key (withoutSig pairs) sig = .ok () := by
  unfold checkSignature
  cases scanned : signedPairsFromText body with
  | error error => simp
  | ok pairs =>
    dsimp only
    cases got : pairsGet pairs sigField with
    | none => simp [got]
    | some sig =>
      dsimp only
      cases verified : verify crates.sig key (withoutSig pairs) sig with
      | error error => simp [got, verified]
      | ok found => simp [got, verified]

end

section
variable {Tag : Type} [DecidableEq Tag]

def WireShell.shell (shell : WireShell) : Shell where
  time := shell.time
  openPrice := shell.openPrice
  high := shell.high
  low := shell.low
  close := shell.close
  signalHigh := shell.signalHigh
  signalLow := shell.signalLow
  recentHigh := shell.recentHigh
  recentLow := shell.recentLow
  atr := shell.atr
  golden := shell.golden
  signalConfirmed := shell.signalConfirmed
  nextCandleTimestamp1 := shell.nextCandleTimestamp1
  nextCandleTimestamp2 := shell.nextCandleTimestamp2
  nextCandleTimestamp3 := shell.nextCandleTimestamp3
  nextCandleTimestamp4 := shell.nextCandleTimestamp4
  nextCandleTimestamp5 := shell.nextCandleTimestamp5

/-- The serde code of the fields that the entry path reads. -/
structure IntentSerde where
  serialize : Intent → List (Text × Yaml)
  deserialize : List (Yaml × Yaml) → Option Intent

def IntentSerde.code (serde : IntentSerde) : IntentCode Intent :=
  { serde with v := Intent.v, notBefore := Intent.notBefore, notAfter := Intent.notAfter, validate := Intent.validate }

/-- The environment whose bodies are read under a key. -/
def Env.reading (env : Env) (crates : WireCrates Tag) (serde : IntentSerde) (key : List UInt8) : Env :=
  { env with parse := fun body =>
      match readVerified crates serde.code body.toList key with
      | .error _ => none
      | .ok (shell, intent) => some { intent, shell := shell.shell } }

def BodyRejection.toIncoming : BodyRejection → IncomingError
  | .unreadable _ => .unreadable
  | .incoming error => error

/-- What the entry path and its passes take for a verified body is what `parse_and_verify` yields. -/
theorem parseAndVerify_reading (env : Env) (crates : WireCrates Tag) (serde : IntentSerde)
    (key : List UInt8) (body : String) (now : Int) :
    (env.reading crates serde key).parseAndVerify body now =
      match parseAndVerify crates serde.code body.toList key now with
      | .error rejection => .error rejection.toIncoming
      | .ok (shell, intent) => .ok { intent, shell := shell.shell } := by
  unfold Env.parseAndVerify Env.reading parseAndVerify
  dsimp only
  cases readVerified crates serde.code body.toList key with
  | error error => rfl
  | ok found =>
    obtain ⟨shell, intent⟩ := found
    dsimp only
    have same : checkIntentFreshness shell.shell intent now =
        checkFreshness shell.time (serde.code.v intent) (serde.code.notBefore intent) (serde.code.notAfter intent)
          now := rfl
    rw [same]
    cases checkFreshness shell.time (serde.code.v intent) (serde.code.notBefore intent)
        (serde.code.notAfter intent) now with
    | error error => rfl
    | ok =>
      dsimp only
      change (match intent.validate with | .error error => _ | .ok () => _) = _
      cases valid : intent.validate with
      | error error => simp [IntentSerde.code, valid, BodyRejection.toIncoming]
      | ok => simp [IntentSerde.code, valid]

end

end TradeControl
