import TradeControl.PlanSpine
import TradeControl.World

namespace TradeControl

/-! The worker's gates on a reversal close, beside the engine's guard that fires it. -/

/-- An intent with what only a close carries: the deprecated windows and the script. -/
structure CloseIntent extends RuleIntent where
  requireNewsWindow : Option Bool := none
  requirePriceInRanges : Option (List (Rat × Rat)) := none
  vetoOnReversal : Bool := false
  allowClose : Option (Tunable Bool) := none

/-- A bar's shell with what a latched signal adds to it for a close. -/
structure CloseShell extends Shell where
  signalRange : Option Rat := none
  signalStartTime : Option Int := none
  signalKind : Option SignalKind := none
  bandAnchor : Option Rat := none

def CloseShell.ofCandleAndSignal (candle : Candle) (sig : LatchedSignal) : CloseShell :=
  { Shell.ofCandleAndSignal candle sig with
    signalRange := some sig.signalRange
    signalStartTime := some sig.signalStartTime
    signalKind := some sig.kind
    bandAnchor := some sig.bandAnchor }

inductive CloseValidationError
  | allowCloseOnNonClose
  | requireNewsWindowOnNonClose
  | requirePriceInRangesOnNonClose
  | invalidPriceRanges
  | mixedOldAndNewCloseGates
  | insideWindowOnNonClose
  | insideWindowSrBandsMismatch
  | invalidSrBands
  | vetoOnReversalOnNonClose
  | vetoOnReversalWithoutPriceWindow
  deriving DecidableEq

/-- `Intent::validate`, over the fields that gate a close. -/
def CloseIntent.validate (intent : CloseIntent) : Except CloseValidationError Unit := do
  if intent.allowClose.isSome && intent.action ≠ .close then throw .allowCloseOnNonClose
  if intent.requireNewsWindow.isSome && intent.action ≠ .close then throw .requireNewsWindowOnNonClose
  if let some ranges := intent.requirePriceInRanges then
    if intent.action ≠ .close then throw .requirePriceInRangesOnNonClose
    if ranges.isEmpty || ranges.any fun (lo, hi) => hi < lo then throw .invalidPriceRanges
  let hasNew := !intent.insideWindow.isEmpty || !intent.srBands.isEmpty
  let hasOld := intent.requireNewsWindow.isSome || intent.requirePriceInRanges.isSome
  if hasNew && hasOld then throw .mixedOldAndNewCloseGates
  if hasNew && intent.action ≠ .close then throw .insideWindowOnNonClose
  if intent.insideWindow.contains .price ≠ !intent.srBands.isEmpty then throw .insideWindowSrBandsMismatch
  if intent.srBands.any fun (lo, hi) => hi < lo then throw .invalidSrBands
  if intent.vetoOnReversal then
    if intent.action ≠ .close then throw .vetoOnReversalOnNonClose
    if !(intent.insideWindow.contains .price || intent.requirePriceInRanges.isSome) then
      throw .vetoOnReversalWithoutPriceWindow

/-- A stored news window: its id and its label. -/
structure NewsEntry where
  newsId : String
  reason : Option String := none

inductive CloseOutcome
  | closed (count : Nat)
  | nothingOpen
  | errored

/-- What the store, the broker and the rule engine answer a close; none where they fail to. -/
structure CloseAnswers where
  newsWindows : String → Option (List NewsEntry)
  currentPrice : String → Option Rat
  closePositions : String → CloseOutcome
  allows : String → CloseShell → Except RuleError Bool

inductive GateOutcome
  | notSet
  | passed
  | failed (code : String)
  deriving DecidableEq

inductive GateDecision
  | pass
  | reject (reasonCode : String)
  deriving DecidableEq

def GateOutcome.code? : GateOutcome → Option String
  | .failed code => some code
  | _ => none

/-- `evaluate_close_gates`: with no gate set or one passed the close may go on. -/
def evaluateCloseGates (news price : GateOutcome) : GateDecision :=
  let outcomes := [news, price]
  if outcomes.any (· = .passed) || !outcomes.any (· ≠ .notSet) then .pass
  else .reject ("|".intercalate (outcomes.filterMap GateOutcome.code?))

def priceBandHit (price : Rat) (ranges : List (Rat × Rat)) : Option (Rat × Rat) :=
  ranges.find? fun (lo, hi) => lo ≤ price ∧ price ≤ hi

inductive AllowCloseOutcome
  | proceed
  | blocked
  | needsGoldenUnmet
  | needsConfirmedUnmet
  | scriptError (kind : String)
  deriving DecidableEq

section
variable (ans : CloseAnswers) (intent : CloseIntent) (shell : CloseShell)

def CloseIntent.wantsNews : Bool :=
  intent.requireNewsWindow = some true || intent.insideWindow.contains .news

def newsOutcome : Except ActionResult GateOutcome :=
  if intent.wantsNews then
    match intent.tradeId with
    | none => .error (.rejected 400 "close with news-window gate requires `trade_id`" "rejected: missing-trade-id")
    | some tradeId =>
      match ans.newsWindows tradeId with
      | none => .error (.rejected 500 "state error" "rejected: state-error")
      | some windows => .ok (if windows.isEmpty then .failed "no-news-window" else .passed)
  else .ok .notSet

/-- The deprecated ranges are tested with the broker's price, the bands with the signal's anchor. -/
def priceOutcome : Except ActionResult GateOutcome :=
  match intent.requirePriceInRanges with
  | some ranges =>
    match ans.currentPrice intent.instrument with
    | none => .error (.rejected 500 "price-fetch failed" "rejected: price-fetch-failed")
    | some price => .ok (if (priceBandHit price ranges).isSome then .passed else .failed "price-out-of-range")
  | none =>
    if intent.insideWindow.contains .price then
      match shell.bandAnchor with
      | some anchor =>
        .ok (if (priceBandHit anchor intent.srBands).isSome then .passed else .failed "price-out-of-range")
      | none => .ok (.failed "no-band-anchor")
    else .ok .notSet

def CloseAnswers.resolveBool : Tunable Bool → Except RuleError Bool
  | .static value => .ok value
  | .script text => ans.allows text shell

/-- `allow_close_gate::evaluate`. -/
def allowCloseGate : AllowCloseOutcome :=
  if intent.needsGolden && shell.golden ≠ some true then .needsGoldenUnmet
  else if intent.needsConfirmed && shell.signalConfirmed ≠ some true then .needsConfirmedUnmet
  else match intent.allowClose with
  | none => .proceed
  | some gate =>
    match ans.resolveBool shell gate with
    | .ok true => .proceed
    | .ok false => .blocked
    | .error error => .scriptError error.kind

def AllowCloseOutcome.rejection : AllowCloseOutcome → Option ActionResult
  | .proceed => none
  | .blocked => some (.rejected 412 "close blocked" "rejected: allow-close-false")
  | .needsGoldenUnmet => some (.rejected 412 "close blocked: needs-golden" "rejected: needs-golden")
  | .needsConfirmedUnmet => some (.rejected 412 "close blocked: needs-confirmed" "rejected: needs-confirmed")
  | .scriptError kind => some (.rejected 412 "close blocked: script error" s!"rejected: allow-close-{kind}")

def closeResult : CloseOutcome → ActionResult
  | .closed count => .ok s!"closed ({count})"
  | .nothingOpen => .ok "closed: nothing-open"
  | .errored => .failed "close-failed: broker-errored"

def runClose : ActionResult :=
  match newsOutcome ans intent, priceOutcome ans intent shell with
  | .error rejection, _ => rejection
  | .ok _, .error rejection => rejection
  | .ok news, .ok price =>
    match evaluateCloseGates news price with
    | .reject reasonCode => .rejected 423 "close gates not satisfied" s!"rejected: {reasonCode}"
    | .pass =>
      match (allowCloseGate ans intent shell).rejection with
      | some rejection => rejection
      | none => closeResult (ans.closePositions intent.instrument)

end

def ActionResult.isRejected : ActionResult → Bool
  | .rejected .. => true
  | _ => false

/-- The signal has the qualities that the intent needs. -/
def CloseIntent.Qualified (intent : CloseIntent) (sig : LatchedSignal) : Prop :=
  (intent.needsGolden = true → sig.golden = true) ∧ (intent.needsConfirmed = true → sig.signalConfirmed = true)

/-- The news windows that the store lists for the trade; none without a trade id or an answer. -/
def CloseAnswers.listed (ans : CloseAnswers) (intent : CloseIntent) : Option (List NewsEntry) :=
  intent.tradeId.bind ans.newsWindows

/-- The news is asked for and the store lists a window. -/
def CloseAnswers.NewsHolds (ans : CloseAnswers) (intent : CloseIntent) : Prop :=
  intent.wantsNews = true ∧ ∃ windows, ans.listed intent = some windows ∧ windows.isEmpty = false

/-- The deprecated ranges are asked for and the broker's price is in one. -/
def CloseAnswers.RangeHolds (ans : CloseAnswers) (intent : CloseIntent) : Prop :=
  ∃ ranges price, intent.requirePriceInRanges = some ranges ∧ ans.currentPrice intent.instrument = some price ∧
    (priceBandHit price ranges).isSome = true

/-- What is asked for is answered. -/
structure CloseAnswers.Heard (ans : CloseAnswers) (intent : CloseIntent) : Prop where
  news : intent.wantsNews = true → (ans.listed intent).isSome = true
  price : intent.requirePriceInRanges.isSome = true → (ans.currentPrice intent.instrument).isSome = true

/-- The bands are asked for and the signal's anchor is in one. -/
def CloseIntent.InBand (intent : CloseIntent) (sig : LatchedSignal) : Prop :=
  intent.insideWindow.contains .price = true ∧ (priceBandHit sig.bandAnchor intent.srBands).isSome = true

/-- The script, if there is one, lets the close through. -/
def CloseAnswers.Lets (ans : CloseAnswers) (intent : CloseIntent) (shell : CloseShell) : Prop :=
  ∀ gate, intent.allowClose = some gate → ans.resolveBool shell gate = .ok true

section
variable {ans : CloseAnswers} {intent : CloseIntent} {shell : CloseShell}

theorem newsOutcome_cases (ans : CloseAnswers) (intent : CloseIntent) :
    (¬(intent.wantsNews = true → (ans.listed intent).isSome = true) ∧
        ∃ rejection, newsOutcome ans intent = .error rejection ∧ rejection.isRejected = true) ∨
      ((intent.wantsNews = true → (ans.listed intent).isSome = true) ∧
        ∃ outcome, newsOutcome ans intent = .ok outcome ∧ (outcome = .passed ↔ ans.NewsHolds intent) ∧
          (outcome = .notSet ↔ intent.wantsNews = false)) := by
  unfold newsOutcome CloseAnswers.NewsHolds
  cases wants : intent.wantsNews with
  | false => exact .inr ⟨Bool.false_ne_true.elim, .notSet, if_neg Bool.false_ne_true, by simp, by simp⟩
  | true =>
    simp only [if_true, forall_const, true_and]
    unfold CloseAnswers.listed
    cases intent.tradeId with
    | none => exact .inl ⟨Bool.false_ne_true, _, rfl, rfl⟩
    | some tradeId =>
      simp only [Option.bind_some]
      cases ans.newsWindows tradeId with
      | none => exact .inl ⟨Bool.false_ne_true, _, rfl, rfl⟩
      | some windows =>
        refine .inr ⟨rfl, _, rfl, ?_, ?_⟩
        · cases windows <;> simp
        · cases windows <;> simp

theorem priceOutcome_cases (ans : CloseAnswers) (intent : CloseIntent) {shell : CloseShell} {sig : LatchedSignal}
    (anchored : shell.bandAnchor = some sig.bandAnchor) :
    (¬(intent.requirePriceInRanges.isSome = true → (ans.currentPrice intent.instrument).isSome = true) ∧
        ∃ rejection, priceOutcome ans intent shell = .error rejection ∧ rejection.isRejected = true) ∨
      ((intent.requirePriceInRanges.isSome = true → (ans.currentPrice intent.instrument).isSome = true) ∧
        ∃ outcome, priceOutcome ans intent shell = .ok outcome ∧
          (outcome = .passed ↔ ans.RangeHolds intent ∨
            (intent.requirePriceInRanges = none ∧ intent.InBand sig)) ∧
          (outcome = .notSet ↔ intent.requirePriceInRanges = none ∧
            intent.insideWindow.contains .price = false)) := by
  unfold priceOutcome CloseAnswers.RangeHolds CloseIntent.InBand
  cases intent.requirePriceInRanges with
  | some ranges =>
    cases ans.currentPrice intent.instrument with
    | none => exact .inl ⟨by simp, _, rfl, rfl⟩
    | some price =>
      refine .inr ⟨by simp, _, rfl, ?_, ?_⟩
      · cases hit : priceBandHit price ranges <;> simp [hit]
      · cases priceBandHit price ranges <;> simp
  | none =>
    refine .inr ⟨by simp, ?_⟩
    rw [anchored]
    cases intent.insideWindow.contains .price with
    | false => exact ⟨.notSet, rfl, by simp, by simp⟩
    | true =>
      refine ⟨_, rfl, ?_, ?_⟩
      · cases priceBandHit sig.bandAnchor intent.srBands <;> simp
      · cases priceBandHit sig.bandAnchor intent.srBands <;> simp

theorem evaluateCloseGates_pass (news price : GateOutcome) :
    evaluateCloseGates news price = .pass ↔
      news = .passed ∨ price = .passed ∨ (news = .notSet ∧ price = .notSet) := by
  unfold evaluateCloseGates
  cases news <;> cases price <;> simp

theorem allowCloseGate_proceed (ans : CloseAnswers) (intent : CloseIntent) (candle : Candle) (sig : LatchedSignal) :
    allowCloseGate ans intent (.ofCandleAndSignal candle sig) = .proceed ↔
      intent.Qualified sig ∧ ans.Lets intent (.ofCandleAndSignal candle sig) := by
  have golden : (CloseShell.ofCandleAndSignal candle sig).golden = some sig.golden := rfl
  have confirmed : (CloseShell.ofCandleAndSignal candle sig).signalConfirmed = some sig.signalConfirmed := rfl
  unfold allowCloseGate CloseIntent.Qualified CloseAnswers.Lets
  rw [golden, confirmed]
  have script : (match intent.allowClose with
      | none => AllowCloseOutcome.proceed
      | some gate =>
        match ans.resolveBool (.ofCandleAndSignal candle sig) gate with
        | .ok true => .proceed
        | .ok false => .blocked
        | .error error => .scriptError error.kind) = .proceed ↔
      ∀ gate, intent.allowClose = some gate → ans.resolveBool (.ofCandleAndSignal candle sig) gate = .ok true := by
    cases intent.allowClose with
    | none => simp
    | some gate =>
      simp only [Option.some.injEq, forall_eq']
      generalize ans.resolveBool (.ofCandleAndSignal candle sig) gate = verdict
      rcases verdict with error | _ | _ <;> simp
  rw [← script]
  cases intent.needsGolden <;> cases sig.golden <;> cases intent.needsConfirmed <;> cases sig.signalConfirmed <;>
    simp

theorem rejection_isRejected (outcome : AllowCloseOutcome) :
    outcome = .proceed ∨ ∃ rejection, outcome.rejection = some rejection ∧ rejection.isRejected = true := by
  cases outcome with
  | proceed => exact .inl rfl
  | _ => exact .inr ⟨_, rfl, rfl⟩

theorem closeResult_isRejected (outcome : CloseOutcome) : (closeResult outcome).isRejected = false := by
  cases outcome <;> rfl

/-- The worker's gates let a close through where what is asked for is answered, one window that is asked for holds
or none is, the signal is good enough and the script agrees. -/
theorem runClose_accepts_iff (ans : CloseAnswers) (intent : CloseIntent) (candle : Candle) (sig : LatchedSignal) :
    (runClose ans intent (.ofCandleAndSignal candle sig)).isRejected = false ↔
      ans.Heard intent ∧
        (ans.NewsHolds intent ∨
          (ans.RangeHolds intent ∨ (intent.requirePriceInRanges = none ∧ intent.InBand sig)) ∨
          (intent.wantsNews = false ∧ intent.requirePriceInRanges = none ∧
            intent.insideWindow.contains .price = false)) ∧
        intent.Qualified sig ∧ ans.Lets intent (.ofCandleAndSignal candle sig) := by
  unfold runClose
  rcases newsOutcome_cases ans intent with
    ⟨unheard, rejection, outcome, rejected⟩ | ⟨newsHeard, news, isNews, held, unset⟩
  · rw [outcome]
    dsimp only
    rw [rejected]
    exact iff_of_false Bool.noConfusion fun accepted => unheard accepted.1.news
  · rcases @priceOutcome_cases ans intent (.ofCandleAndSignal candle sig) sig rfl with
      ⟨unheard, rejection, outcome, rejected⟩ | ⟨priceHeard, price, isPrice, inside, unpriced⟩
    · rw [isNews, outcome]
      dsimp only
      rw [rejected]
      exact iff_of_false Bool.noConfusion fun accepted => unheard accepted.1.price
    · rw [isNews, isPrice]
      dsimp only
      rw [← held, ← inside, ← unset, ← unpriced, ← evaluateCloseGates_pass, ← allowCloseGate_proceed]
      cases evaluateCloseGates news price with
      | reject code => exact iff_of_false Bool.noConfusion fun accepted => by cases accepted.2.1
      | pass =>
        dsimp only
        rcases rejection_isRejected (allowCloseGate ans intent (.ofCandleAndSignal candle sig)) with
          proceeds | ⟨rejection, rejects, rejected⟩
        · rw [proceeds]
          exact iff_of_true (closeResult_isRejected _) ⟨⟨newsHeard, priceHeard⟩, rfl, rfl⟩
        · rw [rejects]
          dsimp only
          rw [rejected]
          refine iff_of_false Bool.noConfusion fun accepted => ?_
          rw [accepted.2.2] at rejects
          cases rejects

theorem insideWindow_unlisted (windows : List EventWindow) :
    windows.contains .news = false ∧ windows.contains .price = false ↔ windows = [] := by
  cases windows with
  | nil => exact iff_of_true ⟨rfl, rfl⟩ rfl
  | cons first rest => cases first <;> simp

/-- A valid intent is given in the list form or in the deprecated one. -/
theorem validate_exclusive (valid : intent.validate = .ok ()) (listed : intent.insideWindow ≠ []) :
    intent.requireNewsWindow = none ∧ intent.requirePriceInRanges = none := by
  unfold CloseIntent.validate at valid
  simp only [bind, Except.bind, pure, Except.pure, throw, throwThe, MonadExceptOf.throw] at valid
  by_contra mixed
  have hasOld : (intent.requireNewsWindow.isSome || intent.requirePriceInRanges.isSome) = true := by
    rw [Bool.or_eq_true, Option.isSome_iff_ne_none, Option.isSome_iff_ne_none]
    by_contra unset
    rw [not_or, not_not, not_not] at unset
    exact mixed unset
  have hasNew : (!intent.insideWindow.isEmpty || !intent.srBands.isEmpty) = true := by simp [listed]
  simp only [hasOld, hasNew, Bool.and_self, if_true] at valid
  split at valid
  · cases valid
  split at valid
  · cases valid
  split at valid
  · split at valid
    · cases valid
    split at valid
    · cases valid
    · cases valid
  · cases valid

/-- The engine's guard, on a reversal that printed as the rule asks. -/
theorem evalPineGuard_iff {candle : Candle} {window : List Candle} {cfg : DetectorConfig}
    {pattern : Option SignalKind} {dir : Direction} {sig : LatchedSignal} {openNews : Finset String}
    (matched : evalPineEntry candle window cfg pattern dir false false none none false none = some sig) :
    evalPineGuard intent.toRuleIntent candle window cfg pattern dir openNews = some sig ↔
      ((intent.insideWindow.contains .news = true ∧ openNews ≠ ∅) ∨ intent.InBand sig ∨ intent.insideWindow = []) ∧
        intent.Qualified sig := by
  have sameBand : priceInAnyBand = priceBandHit := rfl
  have hits : evalPineGuard intent.toRuleIntent candle window cfg pattern dir openNews =
      if !closeWindowsPass intent.toRuleIntent sig openNews then none
      else if intent.needsGolden ∧ !sig.golden then none
      else if intent.needsConfirmed ∧ !sig.signalConfirmed then none
      else some sig := by
    unfold evalPineGuard
    rw [matched]
    rfl
  have passes : closeWindowsPass intent.toRuleIntent sig openNews = true ↔
      (intent.insideWindow.contains .news = true ∧ openNews ≠ ∅) ∨ intent.InBand sig ∨ intent.insideWindow = [] := by
    unfold closeWindowsPass CloseIntent.InBand
    rw [sameBand, ← insideWindow_unlisted]
    cases intent.insideWindow.contains .news <;> cases intent.insideWindow.contains .price <;> simp
  rw [hits, ← passes]
  unfold CloseIntent.Qualified
  cases closeWindowsPass intent.toRuleIntent sig openNews <;> cases intent.needsGolden <;> cases sig.golden <;>
    cases intent.needsConfirmed <;> cases sig.signalConfirmed <;> simp

/-- The close's two gate chains come to one answer: the guard hits exactly the closes that the worker carries out. -/
structure GuardUnspent (ans : CloseAnswers) (intent : CloseIntent) (candle : Candle) (sig : LatchedSignal)
    (guard : Option LatchedSignal) : Prop where
  carried : guard = some sig → (runClose ans intent (.ofCandleAndSignal candle sig)).isRejected = false
  unwithheld : (runClose ans intent (.ofCandleAndSignal candle sig)).isRejected = false → guard = some sig

/-- Where they come to one answer. -/
inductive ClosesAlike (ans : CloseAnswers) (intent : CloseIntent) (candle : Candle) (sig : LatchedSignal)
    (openNews : Finset String) : Prop
  | unqualified (lacks : ¬ intent.Qualified sig)
  | inBand (inside : intent.InBand sig) (heard : ans.Heard intent)
      (lets : ans.Lets intent (.ofCandleAndSignal candle sig))
  | inNews (asked : intent.insideWindow.contains .news = true) (opened : openNews ≠ ∅) (held : ans.NewsHolds intent)
      (lets : ans.Lets intent (.ofCandleAndSignal candle sig))
  | unlisted (unasked : intent.insideWindow = []) (heard : ans.Heard intent)
      (held : ans.NewsHolds intent ∨ ans.RangeHolds intent ∨
        (intent.requireNewsWindow ≠ some true ∧ intent.requirePriceInRanges = none))
      (lets : ans.Lets intent (.ofCandleAndSignal candle sig))
  | closedOff (asked : intent.insideWindow ≠ []) (outside : ¬ intent.InBand sig)
      (quiet : intent.insideWindow.contains .news = true → openNews = ∅)
      (refused : ¬ ans.NewsHolds intent ∨ ¬ ans.Lets intent (.ofCandleAndSignal candle sig))

theorem heard_of_newsHolds (noRanges : intent.requirePriceInRanges = none) (news : ans.NewsHolds intent) :
    ans.Heard intent := by
  obtain ⟨_, windows, listed, _⟩ := news
  refine ⟨fun _ => ?_, fun given => ?_⟩
  · rw [listed]
    rfl
  · rw [noRanges] at given
    cases given

/-- Without the deprecated fields the worker's windows are the store's news and the bands. -/
theorem workerWindows_iff {sig : LatchedSignal} (noDemand : intent.requireNewsWindow = none)
    (noRanges : intent.requirePriceInRanges = none) (listed : intent.insideWindow ≠ []) :
    (ans.NewsHolds intent ∨
        (ans.RangeHolds intent ∨ (intent.requirePriceInRanges = none ∧ intent.InBand sig)) ∨
        (intent.wantsNews = false ∧ intent.requirePriceInRanges = none ∧
          intent.insideWindow.contains .price = false)) ↔ ans.NewsHolds intent ∨ intent.InBand sig := by
  have wants : intent.wantsNews = intent.insideWindow.contains .news := by
    rw [CloseIntent.wantsNews, noDemand]
    exact Bool.false_or _
  constructor
  · rintro (news | (⟨ranges, _, given, _⟩ | ⟨_, inside⟩) | ⟨noNews, _, noPrice⟩)
    · exact .inl news
    · rw [noRanges] at given
      cases given
    · exact .inr inside
    · rw [wants] at noNews
      exact absurd ((insideWindow_unlisted _).mp ⟨noNews, noPrice⟩) listed
  · rintro (news | inside)
    · exact .inl news
    · exact .inr (.inl (.inr ⟨noRanges, inside⟩))

/-- An intent without windows, where the guard asks for none. -/
theorem closesAlike_unlisted {candle : Candle} {sig : LatchedSignal} {openNews : Finset String}
    (qualified : intent.Qualified sig) (listed : intent.insideWindow = []) :
    ClosesAlike ans intent candle sig openNews ↔ ans.Heard intent ∧
      (ans.NewsHolds intent ∨
        (ans.RangeHolds intent ∨ (intent.requirePriceInRanges = none ∧ intent.InBand sig)) ∨
        (intent.wantsNews = false ∧ intent.requirePriceInRanges = none ∧
          intent.insideWindow.contains .price = false)) ∧
      ans.Lets intent (.ofCandleAndSignal candle sig) := by
  have noBands : ¬ intent.InBand sig := by
    rintro ⟨asked, _⟩
    rw [listed] at asked
    cases asked
  constructor
  · intro alike
    cases alike with
    | unqualified lacks => exact absurd qualified lacks
    | inBand inside => exact absurd inside noBands
    | inNews asked =>
      rw [listed] at asked
      cases asked
    | closedOff asked => exact absurd listed asked
    | unlisted _ heard held lets =>
      refine ⟨heard, ?_, lets⟩
      rcases held with news | range | ⟨undemanded, noRanges⟩
      · exact .inl news
      · exact .inr (.inl (.inl range))
      · refine .inr (.inr ⟨?_, noRanges, by rw [listed]; rfl⟩)
        rw [CloseIntent.wantsNews, listed, decide_eq_false undemanded]
        rfl
  · rintro ⟨heard, holds, lets⟩
    refine .unlisted listed heard ?_ lets
    rcases holds with news | (range | ⟨_, inside⟩) | ⟨unasked, noRanges, _⟩
    · exact .inl news
    · exact .inr (.inl range)
    · exact absurd inside noBands
    · refine .inr (.inr ⟨fun demanded => ?_, noRanges⟩)
      rw [CloseIntent.wantsNews, demanded] at unasked
      cases unasked

/-- An intent in the list form, where the worker's windows are the store's news and the bands. -/
theorem closesAlike_listed {candle : Candle} {sig : LatchedSignal} {openNews : Finset String}
    (qualified : intent.Qualified sig) (listed : intent.insideWindow ≠ [])
    (noRanges : intent.requirePriceInRanges = none) :
    ClosesAlike ans intent candle sig openNews ↔
      (((intent.insideWindow.contains .news = true ∧ openNews ≠ ∅) ∨ intent.InBand sig) ↔
        ans.Heard intent ∧ (ans.NewsHolds intent ∨ intent.InBand sig) ∧
          ans.Lets intent (.ofCandleAndSignal candle sig)) := by
  constructor
  · intro alike
    cases alike with
    | unqualified lacks => exact absurd qualified lacks
    | unlisted unasked => exact absurd unasked listed
    | inBand inside heard lets => exact iff_of_true (.inr inside) ⟨heard, .inr inside, lets⟩
    | inNews asked opened held lets =>
      exact iff_of_true (.inl ⟨asked, opened⟩) ⟨heard_of_newsHolds noRanges held, .inl held, lets⟩
    | closedOff _ outside quiet refused =>
      refine iff_of_false ?_ ?_
      · rintro (⟨asked, opened⟩ | inside)
        · exact opened (quiet asked)
        · exact outside inside
      · rintro ⟨_, news | inside, lets⟩
        · exact refused.elim (fun unheld => unheld news) fun refuses => refuses lets
        · exact outside inside
  · intro same
    by_cases inside : intent.InBand sig
    · obtain ⟨heard, _, lets⟩ := same.mp (.inr inside)
      exact .inBand inside heard lets
    by_cases opened : intent.insideWindow.contains .news = true ∧ openNews ≠ ∅
    · obtain ⟨_, news | inside', lets⟩ := same.mp (.inl opened)
      · exact .inNews opened.1 opened.2 news lets
      · exact absurd inside' inside
    · refine .closedOff listed inside (fun asked => ?_) ?_
      · by_contra some
        exact opened ⟨asked, some⟩
      · by_contra both
        rw [not_or, not_not, not_not] at both
        rcases same.mpr ⟨heard_of_newsHolds noRanges both.1, .inl both.1, both.2⟩ with news | inside'
        · exact opened news
        · exact inside inside'

/-- On a reversal that printed as the rule asks, the guard hits exactly the closes that the worker carries out where
the windows, the answers and the script are alike for both. -/
theorem evalPineGuard_unspent_iff {candle : Candle} {window : List Candle} {cfg : DetectorConfig}
    {pattern : Option SignalKind} {dir : Direction} {sig : LatchedSignal} (openNews : Finset String)
    (valid : intent.validate = .ok ())
    (matched : evalPineEntry candle window cfg pattern dir false false none none false none = some sig) :
    GuardUnspent ans intent candle sig
        (evalPineGuard intent.toRuleIntent candle window cfg pattern dir openNews) ↔
      ClosesAlike ans intent candle sig openNews := by
  have hits := @evalPineGuard_iff intent candle window cfg pattern dir sig openNews matched
  have accepts := runClose_accepts_iff ans intent candle sig
  have same : GuardUnspent ans intent candle sig
        (evalPineGuard intent.toRuleIntent candle window cfg pattern dir openNews) ↔
      (evalPineGuard intent.toRuleIntent candle window cfg pattern dir openNews = some sig ↔
        (runClose ans intent (.ofCandleAndSignal candle sig)).isRejected = false) :=
    ⟨fun unspent => ⟨unspent.carried, unspent.unwithheld⟩, fun same => ⟨same.mp, same.mpr⟩⟩
  rw [same, hits, accepts]
  by_cases qualified : intent.Qualified sig
  · simp only [qualified, and_true, true_and]
    by_cases listed : intent.insideWindow = []
    · rw [closesAlike_unlisted qualified listed]
      exact iff_true_left (.inr (.inr listed))
    · obtain ⟨noDemand, noRanges⟩ := validate_exclusive valid listed
      rw [workerWindows_iff noDemand noRanges listed, closesAlike_listed qualified listed noRanges, ← or_assoc,
        or_iff_left listed]
  · exact iff_of_true (iff_of_false (fun hit => qualified hit.2) fun accepted => qualified accepted.2.2.1)
      (.unqualified qualified)

end

/-- A bullish pinbar after a still hour. -/
def pinbarBar : Candle := ⟨seconds 3600, 99, 100, 90, 100⟩

def pinbarHours : List Candle := [⟨seconds 0, 100, 100, 100, 100⟩, pinbarBar]

/-- A close for a long reversal off the band around 94. -/
def bandClose : CloseIntent where
  id := "close-1"
  notAfter := seconds 72000
  action := .close
  instrument := "EUR_USD"
  tradeId := some "trade-1"
  insideWindow := [.price]
  srBands := [(94, 95)]

/-- The close with a script for bars that fell. -/
def scriptedClose : CloseIntent := { bandClose with allowClose := some (.script "close < open") }

/-- The close with the deprecated news window in place of the bands. -/
def oldNewsClose : CloseIntent := { bandClose with insideWindow := [], srBands := [], requireNewsWindow := some true }

/-- No news window is open, and a script tells whether the bar fell. -/
def quietAnswers : CloseAnswers where
  newsWindows _ := some []
  currentPrice _ := some 100
  closePositions _ := .closed 1
  allows _ shell := .ok (decide (shell.close < shell.openPrice.getD shell.close))

theorem evalPineGuard_unspent_bands :
    ∃ sig, evalPineGuard bandClose.toRuleIntent pinbarBar pinbarHours (DetectorConfig.pineDefaults .h1)
        (some .pinbar) .long ∅ = some sig ∧
      GuardUnspent quietAnswers bandClose pinbarBar sig (some sig) := by
  have printed : (evalPineEntry pinbarBar pinbarHours (DetectorConfig.pineDefaults .h1) (some .pinbar) .long false false
      none none false none).isSome = true := by decide +kernel
  have hits : (evalPineGuard bandClose.toRuleIntent pinbarBar pinbarHours (DetectorConfig.pineDefaults .h1)
      (some .pinbar) .long ∅ =
        evalPineEntry pinbarBar pinbarHours (DetectorConfig.pineDefaults .h1) (some .pinbar) .long false false
          none none false none) := by decide +kernel
  have inBand : (evalPineEntry pinbarBar pinbarHours (DetectorConfig.pineDefaults .h1) (some .pinbar) .long false false
      none none false none).all (fun sig => (priceBandHit sig.bandAnchor bandClose.srBands).isSome) = true := by
    decide +kernel
  obtain ⟨sig, matched⟩ := Option.isSome_iff_exists.mp printed
  rw [matched] at inBand hits
  refine ⟨sig, hits, ?_⟩
  have unspent := @evalPineGuard_unspent_iff quietAnswers bandClose pinbarBar pinbarHours
    (DetectorConfig.pineDefaults .h1) (some .pinbar) .long sig ∅ rfl matched
  rw [hits] at unspent
  exact unspent.mpr (.inBand ⟨rfl, inBand⟩ ⟨fun _ => rfl, fun _ => rfl⟩ fun _ absurdly => by cases absurdly)

/-- The guard hits and is spent, and the worker declines the close: for its script, and for a news window that the
engine does not read. -/
theorem evalPineGuard_spent :
    scriptedClose.validate = .ok () ∧ oldNewsClose.validate = .ok () ∧
      (evalPineGuard scriptedClose.toRuleIntent pinbarBar pinbarHours (DetectorConfig.pineDefaults .h1)
          (some .pinbar) .long ∅).map (fun sig => runClose quietAnswers scriptedClose (.ofCandleAndSignal pinbarBar sig)) =
        some (.rejected 412 "close blocked" "rejected: allow-close-false") ∧
      (evalPineGuard oldNewsClose.toRuleIntent pinbarBar pinbarHours (DetectorConfig.pineDefaults .h1)
          (some .pinbar) .long ∅).map (fun sig => runClose quietAnswers oldNewsClose (.ofCandleAndSignal pinbarBar sig)) =
        some (.rejected 423 "close gates not satisfied" "rejected: no-news-window") := by
  refine ⟨rfl, rfl, by decide +kernel, by decide +kernel⟩

end TradeControl
