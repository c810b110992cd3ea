import TradeControl.AdapterSizes
import TradeControl.Foundation.Asking
import TradeControl.Recovery

namespace TradeControl.MarketRescue

open Foundation Adapters CTrader

/-! The calls that one fire's placement ladder makes to its broker, each with the request it carries. -/

/-- A fire's order geometry, with what it may risk. -/
structure RiskedResolved extends Resolved where
  risk : RiskBudget
  onOversize : OversizePolicy
  contractMultiplier : Option Rat

def RiskedResolved.risked (resolved : RiskedResolved) (entry : ResolvedEntry) : RiskedRequest where
  toEntryRequest := resolved.toResolved.request entry
  risk := resolved.risk
  onOversize := resolved.onOversize
  contractMultiplier := resolved.contractMultiplier

/-- One placement call and its answer; `band` is a market rescue's. -/
structure Call where
  request : RiskedRequest
  band : Option MarketEntryBand
  answer : Except EntryError CTrader.Placement

/-- A broker, whose answers may depend on every call before. -/
structure Broker where
  placeEntry : List Call → RiskedRequest → Except EntryError CTrader.Placement
  placeMarketEntryInBand : List Call → RiskedRequest → MarketEntryBand → Except EntryError CTrader.Placement
  getQuote : List Call → Option Quote

/-- The trait's own `place_market_entry_in_band`, of a broker that has none. -/
def declinesBand (_calls : List Call) (_req : RiskedRequest) (_band : MarketEntryBand) :
    Except EntryError CTrader.Placement :=
  .error (.marketRecoveryDeclined "broker cannot enforce the market fallback price band")

abbrev Calling := Asking Call EntryError

section
variable (broker : Broker) (resolved : RiskedResolved)

def place (request : RiskedRequest) : Calling CTrader.Placement :=
  Asking.act fun calls =>
    let answer := broker.placeEntry calls request
    (answer, { request, band := none, answer })

def placeInBand (request : RiskedRequest) (band : MarketEntryBand) : Calling CTrader.Placement :=
  Asking.act fun calls =>
    let answer := broker.placeMarketEntryInBand calls request band
    (answer, { request, band := some band, answer })

def quoted (missing : EntryError) : Calling Quote := fun calls =>
  (needed (broker.getQuote calls) missing, calls)

/-- `place_entry_too_close_fallback`. -/
def tooCloseFallback : Calling CTrader.Placement :=
  match resolved.entry with
  | .market _ | .limit _ => Asking.check (.error .entryTooCloseToMarket)
  | .stop triggerPrice => do
    let quote ← quoted broker .entryTooCloseToMarket
    match recoverEntryPlan resolved.recoverEntry resolved.direction triggerPrice
        (quote.executable resolved.direction) with
    | .skip _ => Asking.check (.error .entryTooCloseToMarket)
    | .market price => place broker (resolved.risked (.market price))
    | .limit price => place broker (resolved.risked (.limit price))
    | .stop price => place broker (resolved.risked (.stop price))

/-- `near_market::place_market`. -/
def placeMarket (band : MarketEntryBand) : Calling (CTrader.Placement × ResolvedEntry) := do
  let quote ← quoted broker .accountFetch
  Asking.check (demand (0 < quote.bid ∧ quote.bid ≤ quote.ask) (.marketRecoveryDeclined "invalid executable quote"))
  let referencePrice := quote.executable resolved.direction
  let request := resolved.risked (.market referencePrice)
  Asking.check (band.check request.toEntryRequest referencePrice)
  let placement ← placeInBand broker request band
  return (placement, .market (placement.price.getD referencePrice))

/-- `near_market::recover`. -/
def recover (stop : PendingEntryDistance) (vetos : List EntryLevelVeto) :
    Calling (CTrader.Placement × ResolvedEntry) :=
  let trigger := resolved.entry.referencePrice
  if !recoversByLimit resolved.toResolved || !stop.matches .stop resolved.direction trigger then
    Asking.check (.error (.entryWithinMinimumDistance stop))
  else do
    match ← (place broker (resolved.risked (.limit trigger))).attempt with
    | .ok placement => return (placement, .limit trigger)
    | .error (.entryWithinMinimumDistance limit) =>
      if !limit.matches .limit resolved.direction trigger then
        Asking.check (.error (.entryWithinMinimumDistance limit))
      else do
        let band ← Asking.check (marketBand resolved.toResolved stop limit vetos)
        placeMarket broker resolved band
    | .error error => Asking.check (.error error)

/-- The placement ladder of `run_enter`: what was placed, and the entry that it stands at. -/
def ladder (vetos : List EntryLevelVeto) : Calling (CTrader.Placement × ResolvedEntry) := do
  match ← (place broker (resolved.risked resolved.entry)).attempt with
  | .ok placement => return (placement, resolved.entry)
  | .error (.entryWithinMinimumDistance distance) =>
    if recoversByLimit resolved.toResolved then recover broker resolved distance vetos
    else return (← tooCloseFallback broker resolved, resolved.entry)
  | .error .entryTooCloseToMarket => return (← tooCloseFallback broker resolved, resolved.entry)
  | .error error => Asking.check (.error error)

/-- The calls that the ladder has made when it ends. -/
def calls (vetos : List EntryLevelVeto) : List Call := (ladder broker resolved vetos []).2

end

/-- The answers that no further call follows: an order was placed, or may have been. -/
def Call.Decided (call : Call) : Prop :=
  (∃ placement, call.answer = .ok placement) ∨ ∃ detail, call.answer = .error (.ambiguousSuccess detail)

/-- The refusals that a further call may follow. -/
def Call.TooClose (call : Call) : Prop :=
  call.answer = .error .entryTooCloseToMarket ∨ ∃ distance, call.answer = .error (.entryWithinMinimumDistance distance)

theorem Call.TooClose.undecided {call : Call} (close : call.TooClose) : ¬ call.Decided := by
  rintro (⟨placement, decided⟩ | ⟨detail, decided⟩)
  · rcases close with refused | ⟨distance, refused⟩
    · cases refused.symm.trans decided
    · cases refused.symm.trans decided
  · rcases close with refused | ⟨distance, refused⟩
    · cases refused.symm.trans decided
    · cases refused.symm.trans decided

/-- The two refusals that a market rescue starts from. -/
structure TwoRefusals (resolved : RiskedResolved) (stop limit : PendingEntryDistance) (first second : Call) : Prop where
  recovers : recoversByLimit resolved.toResolved = true
  first_request : first.request = resolved.risked resolved.entry
  first_answer : first.answer = .error (.entryWithinMinimumDistance stop)
  stop_matches : stop.matches .stop resolved.direction resolved.entry.referencePrice = true
  second_request : second.request = resolved.risked (.limit resolved.entry.referencePrice)
  second_answer : second.answer = .error (.entryWithinMinimumDistance limit)
  limit_matches : limit.matches .limit resolved.direction resolved.entry.referencePrice = true

/-- What a third call rests on: the refusals, and the band that they bound. -/
structure Rescue (broker : Broker) (resolved : RiskedResolved) (vetos : List EntryLevelVeto)
    (stop limit : PendingEntryDistance) (band : MarketEntryBand) (reference : Rat) (first second third : Call) : Prop
    extends TwoRefusals resolved stop limit first second where
  bounded : marketBand resolved.toResolved stop limit vetos = .ok band
  third_request : third.request = resolved.risked (.market reference)
  third_band : third.band = some band
  third_answer : third.answer = broker.placeMarketEntryInBand [first, second] third.request band
  checked : band.check third.request.toEntryRequest reference = .ok ()

/-- The calls that a ladder can come to. -/
inductive Climbed (broker : Broker) (resolved : RiskedResolved) (vetos : List EntryLevelVeto) : List Call → Prop
  | once {first : Call} : first.request = resolved.risked resolved.entry → Climbed broker resolved vetos [first]
  | again {first second : Call} {entry : ResolvedEntry} : first.request = resolved.risked resolved.entry →
      first.TooClose → second.request = resolved.risked entry → Climbed broker resolved vetos [first, second]
  | rescued {first second third : Call} {stop limit : PendingEntryDistance} {band : MarketEntryBand} {reference : Rat} :
      Rescue broker resolved vetos stop limit band reference first second third →
      Climbed broker resolved vetos [first, second, third]

section
variable {broker : Broker} {resolved : RiskedResolved} {vetos : List EntryLevelVeto} {first second third : Call}
  {stop limit : PendingEntryDistance} {band : MarketEntryBand}

theorem quoted_ensures {missing : EntryError} {start : List Call} {well : Quote → List Call → Prop}
    {badly : List Call → Prop} (passes : ∀ quote, well quote start) (fails : badly start) :
    (quoted broker missing).Ensures start well badly := by
  unfold Asking.Ensures quoted
  cases broker.getQuote start with
  | some quote => exact passes quote
  | none => exact fails

/-- A second call, however it ends. -/
theorem place_again {request : RiskedRequest} {entry : ResolvedEntry}
    (asked : first.request = resolved.risked resolved.entry) (close : first.TooClose) (asks : request = resolved.risked entry) :
    (place broker request).Ensures [first] (fun _ calls => Climbed broker resolved vetos calls)
      (Climbed broker resolved vetos) :=
  Asking.ensures_act (fun _ _ => .again asked close asks) (.again asked close asks)

theorem tooCloseFallback_climbed (asked : first.request = resolved.risked resolved.entry) (close : first.TooClose) :
    (tooCloseFallback broker resolved).Ensures [first] (fun _ calls => Climbed broker resolved vetos calls)
      (Climbed broker resolved vetos) := by
  have stays : Climbed broker resolved vetos [first] := .once asked
  unfold tooCloseFallback
  split
  · exact Asking.ensures_check (fun _ _ => stays) stays
  · exact Asking.ensures_check (fun _ _ => stays) stays
  · refine Asking.ensures_bind (quoted_ensures (fun quote => ?_) stays)
    split
    · exact Asking.ensures_check (fun _ _ => stays) stays
    · exact place_again asked close rfl
    · exact place_again asked close rfl
    · exact place_again asked close rfl

theorem placeMarket_climbed (refused : TwoRefusals resolved stop limit first second)
    (bounded : marketBand resolved.toResolved stop limit vetos = .ok band) :
    (placeMarket broker resolved band).Ensures [first, second] (fun _ calls => Climbed broker resolved vetos calls)
      (Climbed broker resolved vetos) := by
  have stays : Climbed broker resolved vetos [first, second] :=
    .again refused.first_request (.inr ⟨stop, refused.first_answer⟩) refused.second_request
  unfold placeMarket
  refine Asking.ensures_bind (quoted_ensures (fun quote => ?_) stays)
  refine Asking.ensures_bind (Asking.ensures_check (fun _ _ => ?_) stays)
  refine Asking.ensures_bind (Asking.ensures_check (fun _ checked => ?_) stays)
  have rescued (third : Call) (asks : third.request = resolved.risked (.market (quote.executable resolved.direction)))
      (within : third.band = some band)
      (answer : third.answer = broker.placeMarketEntryInBand [first, second] third.request band) :
      Climbed broker resolved vetos [first, second, third] :=
    .rescued { refused with
      bounded, third_request := asks, third_band := within, third_answer := answer, checked := asks ▸ checked }
  exact Asking.ensures_bind (Asking.ensures_act (fun _ _ => Asking.ensures_pure (rescued _ rfl rfl rfl))
    (rescued _ rfl rfl rfl))

theorem recover_climbed (asked : first.request = resolved.risked resolved.entry)
    (refused : first.answer = .error (.entryWithinMinimumDistance stop)) :
    (recover broker resolved stop vetos).Ensures [first] (fun _ calls => Climbed broker resolved vetos calls)
      (Climbed broker resolved vetos) := by
  have stays : Climbed broker resolved vetos [first] := .once asked
  have close : first.TooClose := .inr ⟨stop, refused⟩
  unfold recover
  dsimp only
  split
  · exact Asking.ensures_check (fun _ _ => stays) stays
  next proven =>
  have again (second : Call) (asks : second.request = resolved.risked (.limit resolved.entry.referencePrice)) :
      Climbed broker resolved vetos [first, second] := .again asked close asks
  refine Asking.ensures_bind (Asking.ensures_attempt_act ?_)
  dsimp only
  split
  · exact Asking.ensures_pure (again _ rfl)
  · next limit refusal =>
    split
    · exact Asking.ensures_check (fun _ _ => again _ rfl) (again _ rfl)
    · next matched =>
      refine Asking.ensures_bind (Asking.ensures_check (fun band bounded => ?_) (again _ rfl))
      simp only [Bool.or_eq_true, Bool.not_eq_true', not_or, Bool.not_eq_false] at proven matched
      exact placeMarket_climbed ⟨proven.1, asked, refused, proven.2, rfl, refusal, matched⟩ bounded
  · exact Asking.ensures_check (fun _ _ => again _ rfl) (again _ rfl)

theorem ladder_climbed (broker : Broker) (resolved : RiskedResolved) (vetos : List EntryLevelVeto) :
    Climbed broker resolved vetos (calls broker resolved vetos) := by
  have fallback (first : Call) (asked : first.request = resolved.risked resolved.entry) (close : first.TooClose) :
      (tooCloseFallback broker resolved).Ensures [first] (fun _ calls => Climbed broker resolved vetos calls)
        (Climbed broker resolved vetos) := tooCloseFallback_climbed asked close
  unfold calls
  refine Asking.Ensures.last ?_
  unfold ladder
  refine Asking.ensures_bind (Asking.ensures_attempt_act ?_)
  dsimp only
  split
  · exact Asking.ensures_pure (.once rfl)
  · next distance refusal =>
    split
    · exact recover_climbed rfl refusal
    · exact Asking.ensures_bind ((fallback _ rfl (.inr ⟨distance, refusal⟩)).mono
        (fun _ _ climbed => Asking.ensures_pure climbed) fun _ climbed => climbed)
  · next refusal =>
    exact Asking.ensures_bind ((fallback _ rfl (.inl refusal)).mono
      (fun _ _ climbed => Asking.ensures_pure climbed) fun _ climbed => climbed)
  · exact Asking.ensures_check (fun _ _ => .once rfl) (.once rfl)

/-- The broker refused a pending entry within its minimum distance of this trigger. -/
structure RefusedNear (resolved : RiskedResolved) (kind : PendingEntryKind) (distance : PendingEntryDistance) :
    Prop where
  kind : distance.kind = kind
  direction : distance.direction = resolved.direction
  near : |resolved.entry.referencePrice - distance.quote.executable resolved.direction| < distance.minimumDistance

theorem matches_near {kind : PendingEntryKind} {distance : PendingEntryDistance}
    (matched : distance.matches kind resolved.direction resolved.entry.referencePrice = true) :
    RefusedNear resolved kind distance := by
  unfold PendingEntryDistance.matches PendingEntryDistance.isNear at matched
  simp only [Bool.and_eq_true, decide_eq_true_eq, beq_iff_eq] at matched
  obtain ⟨⟨⟨⟨-, near⟩, kinds⟩, sides⟩, trigger⟩ := matched
  refine ⟨kinds, sides, ?_⟩
  rw [sides] at near
  have apart := abs_sub_le resolved.entry.referencePrice distance.triggerPrice
    (distance.quote.executable resolved.direction)
  rw [abs_sub_comm] at trigger
  linarith

/-- A price that a market rescue may be filled at, under a stop and a target. -/
structure InBand (resolved : RiskedResolved) (vetos : List EntryLevelVeto) (stop limit : PendingEntryDistance)
    (price stopLoss takeProfit : Rat) : Prop where
  stop : |price - resolved.entry.referencePrice| < stop.minimumDistance
  limit : |price - resolved.entry.referencePrice| < limit.minimumDistance
  slippage : ∀ recovery bound, resolved.recoverEntry = some recovery → recovery.maxSlippagePrice = some bound →
    |price - resolved.entry.referencePrice| < bound
  unvetoed : ∀ veto ∈ vetos, veto.isPast price = false
  losing : 0 < (price - stopLoss) * sideSign resolved.direction
  reward : resolved.minR ≤ (takeProfit - price) * sideSign resolved.direction /
    ((price - stopLoss) * sideSign resolved.direction)

theorem check_ok {request : EntryRequest} {price : Rat} (ok : band.check request price = .ok ()) :
    |price - band.triggerPrice| < band.maxDistance ∧ (∀ veto ∈ band.entryLevelVetos, veto.isPast price = false) ∧
      0 < (price - request.stopLoss) * sideSign request.direction ∧
      band.minR ≤ (request.takeProfit - price) * sideSign request.direction /
        ((price - request.stopLoss) * sideSign request.direction) := by
  unfold MarketEntryBand.check at ok
  split at ok
  · cases ok
  · cases ok
  split at ok
  · cases ok
  next bounds =>
  split at ok
  · cases ok
  next clear =>
  simp only [not_or, not_le, not_lt] at bounds
  have unvetoed : ∀ veto ∈ band.entryLevelVetos, veto.isPast price = false := fun veto member =>
    Bool.eq_false_iff.mpr (List.find?_eq_none.mp clear veto member)
  refine ⟨bounds.2.2.2.2, unvetoed, ?_⟩
  cases side : request.direction with
  | long =>
    rw [side] at ok
    dsimp only at ok
    split at ok
    · cases ok
    · next sound =>
      obtain ⟨losing, reward⟩ := not_or.mp sound
      simp only [sideSign, mul_one]
      exact ⟨not_le.mp losing, not_lt.mp reward⟩
  | short =>
    rw [side] at ok
    dsimp only at ok
    split at ok
    · cases ok
    · next sound =>
      obtain ⟨losing, reward⟩ := not_or.mp sound
      simp only [sideSign, mul_neg, mul_one, neg_sub]
      exact ⟨not_le.mp losing, not_lt.mp reward⟩

theorem marketBand_ok (ok : marketBand resolved.toResolved stop limit vetos = .ok band) :
    band.triggerPrice = resolved.entry.referencePrice ∧ band.minR = resolved.minR ∧ band.entryLevelVetos = vetos ∧
      band.maxDistance ≤ stop.minimumDistance ∧ band.maxDistance ≤ limit.minimumDistance ∧
      ∀ recovery bound, resolved.recoverEntry = some recovery → recovery.maxSlippagePrice = some bound →
        band.maxDistance ≤ bound := by
  unfold marketBand at ok
  dsimp only at ok
  split at ok
  · next unbounded =>
    cases ok
    refine ⟨rfl, rfl, rfl, min_le_left _ _, min_le_right _ _, fun recovery bound there slips => ?_⟩
    rw [there, Option.bind_some, slips] at unbounded
    cases unbounded
  · next allowance bounded =>
    split at ok
    · cases ok
      refine ⟨rfl, rfl, rfl, (min_le_right _ _).trans (min_le_left _ _),
        (min_le_right _ _).trans (min_le_right _ _), fun recovery bound there slips => ?_⟩
      rw [there, Option.bind_some, slips] at bounded
      cases bounded
      exact min_le_left _ _
    · cases ok

/-- What the band lets through at a price stands inside it, on the stop and the target that were checked. -/
theorem inBand_of_check {request : EntryRequest} {price : Rat}
    (bounded : marketBand resolved.toResolved stop limit vetos = .ok band) (ok : band.check request price = .ok ())
    (side : request.direction = resolved.direction) :
    InBand resolved vetos stop limit price request.stopLoss request.takeProfit := by
  obtain ⟨trigger, least, vetoed, withinStop, withinLimit, slippage⟩ := marketBand_ok bounded
  obtain ⟨near, clear, losing, reward⟩ := check_ok ok
  rw [side] at losing reward
  rw [trigger] at near
  rw [vetoed] at clear
  rw [least] at reward
  exact ⟨near.trans_le withinStop, near.trans_le withinLimit,
    fun recovery bound there slips => near.trans_le (slippage recovery bound there slips), clear, losing, reward⟩

end

/-! ### The one adapter that holds a band -/

section
variable (unit : Mt5.LotUnit) (trader : List Call → Mt5.Trader) (cap : Rat) (most : Nat)

/-- The MT5 adapter as the dispatcher's broker. -/
def mt5 (getQuote : List Call → Option Quote) : Broker where
  placeEntry calls req := Mt5.place unit (trader calls) cap most req none
  placeMarketEntryInBand calls req band := Mt5.place unit (trader calls) cap most req (some band)
  getQuote := getQuote

/-- The order that one `place` transmits, if it comes to that. -/
def submitted (trader : Mt5.Trader) (req : RiskedRequest) (band : Option MarketEntryBand) : Option Mt5.Order :=
  match Mt5.sizeEntry unit trader cap most req band with
  | .ok (_, order) => if (trader.preview order).isOk ∧ req.dryRun = false then some order else none
  | .error _ => none

end

section
variable {unit : Mt5.LotUnit} {trader : Mt5.Trader} {cap : Rat} {most : Nat} {req : RiskedRequest}
  {band : Option MarketEntryBand} {sizing : Mt5.Sizing} {order : Mt5.Order}

theorem submitted_sized (there : submitted unit cap most trader req band = some order) :
    ∃ sizing, Mt5.readSizing trader most req band = .ok sizing ∧ order.stopLoss = sizing.stop ∧
      order.takeProfit = sizing.take ∧ order.kind = sizing.kind ∧ order.side = req.direction := by
  unfold submitted at there
  split at there
  · next sizing sent sized =>
    split at there
    · cases there
      unfold Mt5.sizeEntry at sized
      simp only [bind_ok] at sized
      obtain ⟨_, read, loss, -, count, -, made⟩ := sized
      cases made
      exact ⟨sizing, read, rfl, rfl, rfl, rfl⟩
    · cases there
  · cases there

/-- A market rescue is sized from a price that the band let through on the stop and the target sent. -/
theorem readSizing_inBand {limits : MarketEntryBand} {reference : Rat} (market : req.entry = .market reference)
    (read : Mt5.readSizing trader most req (some limits) = .ok sizing) :
    sizing.kind = .market ∧ (∃ fresh, trader.freshQuote = some fresh ∧ sizing.price = fresh.executable req.direction) ∧
      limits.check { req.toEntryRequest with stopLoss := sizing.stop, takeProfit := sizing.take } sizing.price =
        .ok () := by
  unfold Mt5.readSizing at read
  simp only [bind_ok] at read
  obtain ⟨⟨account, trades⟩, -, _, -, _, -, symbol, -, _, -, quote, -, ⟨kind, price⟩, entered, stop, -, take, -, _, -,
    rate, -, fresh, quoted, ⟨_, filled⟩, executed, _, checked, _, same, made⟩ := read
  cases made
  cases same
  unfold Mt5.entryPrice at entered executed
  rw [market] at entered executed
  cases entered
  cases executed
  exact ⟨rfl, ⟨fresh, needed_ok.mp quoted, rfl⟩, checked⟩

end

/-! ### The ladder on the book that the dispatcher's runs keep -/

/-- `Placement::id_only`. -/
def idOnly (id : Nat) : CTrader.Placement where
  orderId := toString id
  size := none
  price := none

/-- The book as a broker: each stage has its own reply and quote. -/
def bookBroker (ans : Answers) (book : Book) : Broker where
  placeEntry calls req :=
    (book.placeEntry (ans.place (if calls.isEmpty then .entry else .recovery)) req.toEntryRequest).2.map idOnly
  placeMarketEntryInBand _ req _ := (book.placeEntry (ans.place .market) req.toEntryRequest).2.map idOnly
  getQuote calls := ans.quote (if calls.length = 1 then .recovery else .market)

section
variable {ans : Answers} {book : Book} {resolved : RiskedResolved} {vetos : List EntryLevelVeto}

/-- A refusal leaves the book's later answers as they were. -/
theorem placeEntry_after {before after : Book} (same : after.nextId = before.nextId) (reply : PlaceReply)
    (request : EntryRequest) : (after.placeEntry reply request).2 = (before.placeEntry reply request).2 := by
  cases reply with
  | refused error => rfl
  | rests stake => cases dry : request.dryRun <;> simp only [Book.placeEntry, dry, same]
  | fills stake => cases dry : request.dryRun <;> simp only [Book.placeEntry, dry, same]
  | unreadable hidden detail =>
    cases hidden <;> cases dry : request.dryRun <;> simp only [Book.placeEntry, dry, same]

theorem placeEntry_kept {stage : PlaceStage} {entry : ResolvedEntry} {error : EntryError} {after : Book}
    (refused : book.placeEntry (ans.place stage) (resolved.toResolved.request entry) = (after, .error error))
    (definite : ∀ detail, error ≠ .ambiguousSuccess detail) : after.nextId = book.nextId := by
  have submitted := placeEntry_submitted ans stage resolved.toResolved entry book
  rw [refused] at submitted
  exact (submitted.sameOrders definite).2

/-- What a placement says of itself when its ladder ends. -/
def told (placement : TradeControl.Placement) : Except EntryError (CTrader.Placement × ResolvedEntry) :=
  placement.answer.map fun id => (idOnly id, placement.entry)

theorem quoted_some {broker : Broker} {missing : EntryError} {calls : List Call} {quote : Quote}
    (found : broker.getQuote calls = some quote) : quoted broker missing calls = (.ok quote, calls) := by
  unfold quoted
  rw [found]
  rfl

theorem quoted_none {broker : Broker} {missing : EntryError} {calls : List Call}
    (found : broker.getQuote calls = none) : quoted broker missing calls = (.error missing, calls) := by
  unfold quoted
  rw [found]
  rfl

theorem placeMarket_told {band : MarketEntryBand} {first second : Call} {after : Book}
    (same : after.nextId = book.nextId) :
    (placeMarket (bookBroker ans book) resolved band [first, second]).1 =
      told (TradeControl.placeMarket ans resolved.toResolved band after).2 := by
  unfold placeMarket TradeControl.placeMarket
  cases found : ans.quote .market with
  | none => rw [Asking.bind_failed (quoted_none found)]; rfl
  | some quote =>
    rw [Asking.bind_eq (quoted_some found)]
    dsimp only
    generalize quote.executable resolved.direction = price
    by_cases invalid : quote.bid ≤ 0 ∨ quote.ask < quote.bid
    · have refused : demand (0 < quote.bid ∧ quote.bid ≤ quote.ask)
          (EntryError.marketRecoveryDeclined "invalid executable quote") = .error _ :=
        if_neg fun valid => invalid.elim (not_le.mpr valid.1) (not_lt.mpr valid.2)
      rw [if_pos invalid, Asking.bind_failed (Asking.check_eq refused _)]
      rfl
    · have passes : demand (0 < quote.bid ∧ quote.bid ≤ quote.ask)
          (EntryError.marketRecoveryDeclined "invalid executable quote") = .ok () :=
        if_pos ⟨not_le.mp fun low => invalid (.inl low), not_lt.mp fun crossed => invalid (.inr crossed)⟩
      rw [if_neg invalid, Asking.bind_eq (Asking.check_eq passes _)]
      cases checked : band.check (resolved.toResolved.request (.market price)) price with
      | error error =>
        have declined : band.check (resolved.risked (.market price)).toEntryRequest price = .error error := checked
        rw [Asking.bind_failed (Asking.check_eq declined _)]
        rfl
      | ok done =>
        have allowed : band.check (resolved.risked (.market price)).toEntryRequest price = .ok done := checked
        have placed : placeInBand (bookBroker ans book) (resolved.risked (.market price)) band [first, second] =
            ((after.placeEntry (ans.place .market) (resolved.toResolved.request (.market price))).2.map idOnly,
              [_, _, _]) :=
          Prod.ext (congrArg (Except.map idOnly) (placeEntry_after same _ _).symm) rfl
        rw [Asking.bind_eq (Asking.check_eq allowed _)]
        unfold told
        dsimp only
        cases answer : (after.placeEntry (ans.place .market) (resolved.toResolved.request (.market price))).2 with
        | error error =>
          rw [answer] at placed
          rw [Asking.bind_failed placed]
          rfl
        | ok id =>
          rw [answer] at placed
          rw [Asking.bind_eq placed]
          rfl

theorem tooCloseFallback_told {first : Call} {after : Book} (same : after.nextId = book.nextId) :
    (tooCloseFallback (bookBroker ans book) resolved [first]).1 =
      (placeEntryTooCloseFallback ans resolved.toResolved after).2.answer.map idOnly ∧
    (placeEntryTooCloseFallback ans resolved.toResolved after).2.entry = resolved.entry := by
  unfold tooCloseFallback placeEntryTooCloseFallback
  cases entry : resolved.entry with
  | market reference => exact ⟨rfl, rfl⟩
  | limit trigger => exact ⟨rfl, rfl⟩
  | stop trigger =>
    dsimp only
    cases found : ans.quote .recovery with
    | none =>
      rw [Asking.bind_failed (quoted_none found)]
      exact ⟨rfl, rfl⟩
    | some quote =>
      have again (entry : ResolvedEntry) : (place (bookBroker ans book) (resolved.risked entry) [first]).1 =
          (after.placeEntry (ans.place .recovery) (resolved.toResolved.request entry)).2.map idOnly :=
        congrArg (Except.map idOnly) (placeEntry_after same _ _).symm
      rw [Asking.bind_eq (quoted_some found)]
      dsimp only
      cases recoverEntryPlan resolved.recoverEntry resolved.direction trigger (quote.executable resolved.direction) with
      | skip reason => exact ⟨rfl, rfl⟩
      | market price => exact ⟨again _, rfl⟩
      | limit price => exact ⟨again _, rfl⟩
      | stop price => exact ⟨again _, rfl⟩

theorem recover_told {stop : PendingEntryDistance} {first : Call} {after : Book} (same : after.nextId = book.nextId) :
    (recover (bookBroker ans book) resolved stop vetos [first]).1 =
      told (nearMarketRecover ans resolved.toResolved stop vetos after).2 := by
  unfold recover nearMarketRecover
  dsimp only
  split
  · rfl
  have again : (place (bookBroker ans book) (resolved.risked (.limit resolved.entry.referencePrice))).attempt [first] =
      (.ok ((after.placeEntry (ans.place .recovery)
        (resolved.toResolved.request (.limit resolved.entry.referencePrice))).2.map idOnly), [_, _]) :=
    Prod.ext (congrArg (Except.ok ∘ Except.map idOnly) (placeEntry_after same _ _).symm) rfl
  rw [Asking.bind_eq again]
  cases placed : after.placeEntry (ans.place .recovery)
      (resolved.toResolved.request (.limit resolved.entry.referencePrice)) with
  | mk later answer =>
    cases answer with
    | ok id => rfl
    | error error =>
      dsimp only [Except.map]
      cases error with
      | entryWithinMinimumDistance limit =>
        have kept := (placeEntry_kept placed (by simp)).trans same
        dsimp only
        split
        · rfl
        cases bounded : marketBand resolved.toResolved stop limit vetos with
        | error error =>
          rw [Asking.bind_failed (Asking.check_eq rfl _)]
          rfl
        | ok band =>
          rw [Asking.bind_eq (Asking.check_eq rfl _)]
          exact placeMarket_told kept
      | _ => rfl

/-- The dispatcher's placement on a book is the ladder with the book's answers. -/
theorem placeWithRecovery_ladder (ans : Answers) (resolved : RiskedResolved) (vetos : List EntryLevelVeto)
    (book : Book) :
    (ladder (bookBroker ans book) resolved vetos []).1 =
      told (placeWithRecovery ans resolved.toResolved vetos book).2 := by
  have first : (place (bookBroker ans book) (resolved.risked resolved.entry)).attempt [] =
      (.ok ((book.placeEntry (ans.place .entry) (resolved.toResolved.request resolved.entry)).2.map idOnly), [_]) := rfl
  have fallen {call : Call} {after : Book} (same : after.nextId = book.nextId) :
      ((do return (← tooCloseFallback (bookBroker ans book) resolved, resolved.entry) :
        Calling (CTrader.Placement × ResolvedEntry)) [call]).1 =
        told (placeEntryTooCloseFallback ans resolved.toResolved after).2 := by
    obtain ⟨answers, stands⟩ := @tooCloseFallback_told ans book resolved call after same
    unfold told
    rw [stands]
    cases run : tooCloseFallback (bookBroker ans book) resolved [call] with
    | mk answer calls =>
      rw [run] at answers
      cases placed : (placeEntryTooCloseFallback ans resolved.toResolved after).2.answer with
      | error error =>
        rw [placed] at answers
        rw [Asking.bind_failed (run.trans (congrArg (·, calls) answers))]
        rfl
      | ok id =>
        rw [placed] at answers
        rw [Asking.bind_eq (run.trans (congrArg (·, calls) answers))]
        rfl
  unfold ladder
  rw [Asking.bind_eq first]
  unfold placeWithRecovery
  cases placed : book.placeEntry (ans.place .entry) (resolved.toResolved.request resolved.entry) with
  | mk after answer =>
    cases answer with
    | ok id => rfl
    | error error =>
      dsimp only [Except.map]
      have kept := placeEntry_kept placed
      cases error with
      | entryWithinMinimumDistance distance =>
        dsimp only
        split
        · exact recover_told (kept (by simp))
        · exact fallen (kept (by simp))
      | entryTooCloseToMarket => exact fallen (kept (by simp))
      | _ => rfl

end

/-! ### At most one order, and a rescue only in its band -/

/-- The two refusals of a pending entry that a market order may follow, as they were made. -/
structure RefusedTwice (resolved : RiskedResolved) (stop limit : PendingEntryDistance) (first second : Call) :
    Prop where
  first_entry : first.request.entry = .stop resolved.entry.referencePrice
  first_answer : first.answer = .error (.entryWithinMinimumDistance stop)
  first_near : RefusedNear resolved .stop stop
  second_entry : second.request.entry = .limit resolved.entry.referencePrice
  second_answer : second.answer = .error (.entryWithinMinimumDistance limit)
  second_near : RefusedNear resolved .limit limit

section
variable {broker : Broker} {resolved : RiskedResolved} {vetos : List EntryLevelVeto} {first second third : Call}
  {stop limit : PendingEntryDistance} {band : MarketEntryBand} {reference : Rat} {made : List Call}

theorem recoversByLimit_stop (recovers : recoversByLimit resolved.toResolved = true) :
    resolved.entry = .stop resolved.entry.referencePrice := by
  unfold recoversByLimit at recovers
  split at recovers
  · next trigger recovery entry there =>
    rw [entry]
    rfl
  · cases recovers

theorem TwoRefusals.refusedTwice (refused : TwoRefusals resolved stop limit first second) :
    RefusedTwice resolved stop limit first second where
  first_entry := by
    rw [refused.first_request]
    exact recoversByLimit_stop refused.recovers
  first_answer := refused.first_answer
  first_near := matches_near refused.stop_matches
  second_entry := by
    rw [refused.second_request]
    rfl
  second_answer := refused.second_answer
  second_near := matches_near refused.limit_matches

theorem Climbed.length_le (climbed : Climbed broker resolved vetos made) : made.length ≤ 3 := by
  cases climbed with
  | once => simp
  | again => simp
  | rescued => simp

theorem Climbed.requests (climbed : Climbed broker resolved vetos made) :
    ∀ call ∈ made, ∃ entry, call.request = resolved.risked entry := by
  cases climbed with
  | once asked => simpa using ⟨_, asked⟩
  | again asked _ asks => simpa using ⟨⟨_, asked⟩, _, asks⟩
  | rescued rescue =>
    simpa using ⟨⟨_, rescue.first_request⟩, ⟨_, rescue.second_request⟩, _, rescue.third_request⟩

/-- Every call but the last was refused for its closeness. -/
theorem Climbed.followed (climbed : Climbed broker resolved vetos made) : ∀ call ∈ made.dropLast, call.TooClose := by
  cases climbed with
  | once => simp
  | again _ close => simpa using close
  | rescued rescue => simpa using ⟨.inr ⟨_, rescue.first_answer⟩, .inr ⟨_, rescue.second_answer⟩⟩

theorem Climbed.rescue (climbed : Climbed broker resolved vetos [first, second, third]) :
    ∃ stop limit band reference, Rescue broker resolved vetos stop limit band reference first second third := by
  cases climbed with
  | rescued rescue => exact ⟨_, _, _, _, rescue⟩

end

/-- A ladder makes at most three calls, for one trade and one risk; none follows a call that was accepted or left
unclear. A third is a market order's, after both pending orders were refused near the trigger, and a broker without a
band declines it; the one that MT5 transmits stands inside the band on the stop and the target that it carries. -/
theorem entry_recovery_safe :
    (∀ (broker : Broker) (resolved : RiskedResolved) (vetos : List EntryLevelVeto),
      (calls broker resolved vetos).length ≤ 3 ∧
      (∀ call ∈ (calls broker resolved vetos).dropLast, ¬ call.Decided) ∧
      (∀ call ∈ calls broker resolved vetos, call.request.direction = resolved.direction ∧
        call.request.stopLoss = resolved.stopLoss ∧ call.request.takeProfit = resolved.takeProfit ∧
        call.request.risk = resolved.risk) ∧
      ∀ first second third, calls broker resolved vetos = [first, second, third] →
        ∃ stop limit reference, RefusedTwice resolved stop limit first second ∧
          third.request.entry = .market reference ∧
          InBand resolved vetos stop limit reference resolved.stopLoss resolved.takeProfit ∧
          (broker.placeMarketEntryInBand = declinesBand →
            ∃ reason, third.answer = .error (.marketRecoveryDeclined reason))) ∧
    ∀ (unit : Mt5.LotUnit) (trader : List Call → Mt5.Trader) (cap : Rat) (most : Nat)
      (getQuote : List Call → Option Quote) (resolved : RiskedResolved) (vetos : List EntryLevelVeto),
      ∀ first second third, calls (mt5 unit trader cap most getQuote) resolved vetos = [first, second, third] →
        third.answer = Mt5.place unit (trader [first, second]) cap most third.request third.band ∧
        ∀ order, submitted unit cap most (trader [first, second]) third.request third.band = some order →
          ∃ stop limit fresh, RefusedTwice resolved stop limit first second ∧
            (trader [first, second]).freshQuote = some fresh ∧ order.kind = .market ∧ order.side = resolved.direction ∧
            InBand resolved vetos stop limit (fresh.executable resolved.direction) order.stopLoss order.takeProfit := by
  refine ⟨fun broker resolved vetos => ?_,
    fun unit trader cap most getQuote resolved vetos first second third three => ?_⟩
  · have climbed := ladder_climbed broker resolved vetos
    refine ⟨climbed.length_le, fun call before => (climbed.followed call before).undecided, fun call made => ?_,
      fun first second third three => ?_⟩
    · obtain ⟨entry, asked⟩ := climbed.requests call made
      rw [asked]
      exact ⟨rfl, rfl, rfl, rfl⟩
    · rw [three] at climbed
      obtain ⟨stop, limit, band, reference, rescue⟩ := climbed.rescue
      have market : third.request.entry = .market reference := congrArg (·.entry) rescue.third_request
      refine ⟨stop, limit, reference, rescue.refusedTwice, market, ?_, fun declines => ?_⟩
      · have within := inBand_of_check rescue.bounded rescue.checked (congrArg (·.direction) rescue.third_request)
        rw [rescue.third_request] at within
        exact within
      · rw [rescue.third_answer, declines]
        exact ⟨_, rfl⟩
  · have climbed := ladder_climbed (mt5 unit trader cap most getQuote) resolved vetos
    rw [three] at climbed
    obtain ⟨stop, limit, band, reference, rescue⟩ := climbed.rescue
    have market : third.request.entry = .market reference := congrArg (·.entry) rescue.third_request
    have side : third.request.direction = resolved.direction := congrArg (·.direction) rescue.third_request
    rw [rescue.third_band]
    refine ⟨rescue.third_answer, fun order sent => ?_⟩
    obtain ⟨sizing, read, stopSent, takeSent, kind, facing⟩ := submitted_sized sent
    obtain ⟨ofMarket, ⟨fresh, quoted, price⟩, checked⟩ := readSizing_inBand market read
    have within := inBand_of_check rescue.bounded checked side
    rw [side] at price facing
    rw [price] at within
    refine ⟨stop, limit, fresh, rescue.refusedTwice, quoted, kind.trans ofMarket, facing, ?_⟩
    rw [stopSent, takeSent]
    exact within

deriving instance DecidableEq for RiskBudget, SizedRequest, RiskedRequest, MarketEntryBand, Call

/-- A terminal whose minimum distance of a hundred points reaches over the trigger. -/
def nearTrader : Mt5.Trader where
  riskSnapshot := dollarTrader.riskSnapshot
  symbol := some { eurUsdSymbol with rules := { mt5Rules with stopsPoints := 100 } }
  quote := some { bid := 109993 / 100000, ask := 109995 / 100000 }
  rate _ _ := .ok 1
  freshQuote := some { bid := 109993 / 100000, ask := 109995 / 100000 }
  preview _ := .ok ()
  openOrder _ := .ok { state := .placed, result := some { order := 1, volumeRaw := 0 }, detail := "" }

def nearEntry : RiskedResolved where
  setupId := "s"
  instrument := "EURUSD"
  direction := .long
  entry := .stop (11 / 10)
  stopLoss := 1095 / 1000
  takeProfit := 1115 / 1000
  minR := 1
  dryRun := false
  recoverEntry := some { action := .limit, maxSlippagePrice := none }
  risk := .percent 1
  onOversize := .capVolume
  contractMultiplier := none

def nearRefusal (kind : PendingEntryKind) : PendingEntryDistance where
  kind := kind
  direction := .long
  triggerPrice := 11 / 10
  quote := { bid := 109993 / 100000, ask := 109995 / 100000 }
  minimumDistance := 1 / 1000

def nearBand : MarketEntryBand where
  triggerPrice := 11 / 10
  maxDistance := 1 / 1000
  minR := 1
  entryLevelVetos := []

def nearCalls : Call × Call × Call :=
  ({ request := nearEntry.risked (.stop (11 / 10)), band := none,
     answer := .error (.entryWithinMinimumDistance (nearRefusal .stop)) },
   { request := nearEntry.risked (.limit (11 / 10)), band := none,
     answer := .error (.entryWithinMinimumDistance (nearRefusal .limit)) },
   { request := nearEntry.risked (.market (109995 / 100000)), band := some nearBand,
     answer := .ok { orderId := "1", size := some (1 / 5), price := some (109995 / 100000) } })

def nearOrder : Mt5.Order where
  symbol := "EURUSD"
  side := .long
  kind := .market
  lots := 20000000
  price := none
  stopLoss := 1095 / 1000
  takeProfit := 1115 / 1000

/-- Both pending orders are refused half a pip under the trigger, and the market order is sent there. -/
theorem entry_recovery_safe_near : ∃ stop limit fresh,
    RefusedTwice nearEntry stop limit nearCalls.1 nearCalls.2.1 ∧ nearTrader.freshQuote = some fresh ∧
      nearOrder.kind = .market ∧ nearOrder.side = nearEntry.direction ∧
      InBand nearEntry [] stop limit (fresh.executable nearEntry.direction) nearOrder.stopLoss nearOrder.takeProfit :=
  (entry_recovery_safe.2 mt5Lots (fun _ => nearTrader) 1 5 (fun _ => nearTrader.quote) nearEntry [] nearCalls.1
    nearCalls.2.1 nearCalls.2.2 (by decide +kernel)).2 nearOrder (by decide +kernel)

end TradeControl.MarketRescue
