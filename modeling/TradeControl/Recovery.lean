import TradeControl.World

namespace TradeControl

/-- What to do with a stop entry the market came too close to. -/
inductive RecoverEntryPlan
  | market (referencePrice : Rat)
  | limit (triggerPrice : Rat)
  | stop (triggerPrice : Rat)
  | skip (reason : String)
  deriving DecidableEq

def recoverEntryPlan (recovery : Option ResolvedRecoverEntry) (direction : Direction)
    (triggerPrice currentPrice : Rat) : RecoverEntryPlan :=
  match recovery with
  | none => .skip "recover-entry-none"
  | some recovery =>
    match recovery.action with
    | .skip => .skip "recover-entry-skip"
    | .limit =>
      let correctSide : Bool := match direction with
        | .long => triggerPrice ≤ currentPrice
        | .short => currentPrice ≤ triggerPrice
      if correctSide then .limit triggerPrice else .skip "recover-entry-limit-wrong-side"
    | .stop =>
      let correctSide : Bool := match direction with
        | .long => currentPrice ≤ triggerPrice
        | .short => triggerPrice ≤ currentPrice
      if correctSide then .stop triggerPrice else .skip "recover-entry-stop-wrong-side"
    | .market =>
      match recovery.maxSlippagePrice with
      | none => .skip "recover-entry-market-no-slippage-bound"
      | some maxSlippage =>
        let slippage := match direction with
          | .long => currentPrice - triggerPrice
          | .short => triggerPrice - currentPrice
        if slippage ≤ maxSlippage then .market currentPrice else .skip "recover-entry-slippage"

/-- The side of the book an entry of this direction trades on. -/
def Quote.executable (quote : Quote) : Direction → Rat
  | .long => quote.ask
  | .short => quote.bid

/-- Eight units of floating-point rounding of the larger price. -/
def PendingEntryDistance.tolerance (distance : PendingEntryDistance) : Rat :=
  max |distance.triggerPrice| |distance.quote.executable distance.direction| / 2 ^ 49

def PendingEntryDistance.isValid (distance : PendingEntryDistance) : Bool :=
  0 < distance.triggerPrice && 0 < distance.quote.bid && distance.quote.bid ≤ distance.quote.ask &&
    0 ≤ distance.minimumDistance

def PendingEntryDistance.isNear (distance : PendingEntryDistance) : Bool :=
  distance.isValid && 0 < distance.minimumDistance &&
    |distance.triggerPrice - distance.quote.executable distance.direction| + distance.tolerance
      < distance.minimumDistance

def PendingEntryDistance.matches (distance : PendingEntryDistance) (kind : PendingEntryKind)
    (direction : Direction) (trigger : Rat) : Bool :=
  distance.isNear && distance.kind == kind && distance.direction == direction &&
    |distance.triggerPrice - trigger| ≤ distance.tolerance

structure MarketEntryBand where
  triggerPrice : Rat
  maxDistance : Rat
  minR : Rat
  entryLevelVetos : List EntryLevelVeto

def MarketEntryBand.check (band : MarketEntryBand) (request : EntryRequest) (price : Rat) :
    Except EntryError Unit :=
  match request.entry with
  | .stop _ | .limit _ => .error .orderRejected
  | .market _ =>
    if band.triggerPrice ≤ 0 ∨ band.maxDistance ≤ 0 ∨ band.minR < minRFloor ∨ price ≤ 0 ∨
        band.maxDistance ≤ |price - band.triggerPrice| then
      .error (.marketRecoveryDeclined "fresh entry price is outside the market fallback band")
    else match band.entryLevelVetos.find? (·.isPast price) with
    | some veto => .error (.marketRecoveryDeclined s!"entry veto {veto.name} blocks market price")
    | none =>
      let (risk, reward) := match request.direction with
        | .long => (price - request.stopLoss, request.takeProfit - price)
        | .short => (request.stopLoss - price, price - request.takeProfit)
      if risk ≤ 0 ∨ reward / risk < band.minR then
        .error (.marketRecoveryDeclined "fresh entry price fails SL/TP geometry or minimum R")
      else .ok ()

def Resolved.request (resolved : Resolved) (entry : ResolvedEntry) : EntryRequest where
  setupId := resolved.setupId
  instrument := resolved.instrument
  direction := resolved.direction
  entry := entry
  stopLoss := resolved.stopLoss
  takeProfit := resolved.takeProfit
  dryRun := resolved.dryRun

/-- How a placement ended: the order id or the error, the entry it stands at, and
why a recovery was declined. -/
structure Placement where
  answer : Except EntryError Nat
  entry : ResolvedEntry
  skipReason : Option String := none

/-- `place_entry_too_close_fallback`. -/
def placeEntryTooCloseFallback (ans : Answers) (resolved : Resolved) (book : Book) :
    Book × Placement :=
  let decline (reason : String) : Book × Placement :=
    (book, { answer := .error .entryTooCloseToMarket, entry := resolved.entry,
             skipReason := some reason })
  match resolved.entry with
  | .market _ | .limit _ => decline "recover-entry-not-a-stop-entry"
  | .stop triggerPrice =>
    match ans.quote .recovery with
    | none => decline "recover-entry-price-read-failed"
    | some quote =>
      let replace (entry : ResolvedEntry) : Book × Placement :=
        let (book, answer) := book.placeEntry (ans.place .recovery) (resolved.request entry)
        (book, { answer, entry := resolved.entry })
      match recoverEntryPlan resolved.recoverEntry resolved.direction triggerPrice
          (quote.executable resolved.direction) with
      | .skip reason => decline reason
      | .market price => replace (.market price)
      | .limit price => replace (.limit price)
      | .stop price => replace (.stop price)

/-- `near_market::place_market`: the third stage, inside the band. -/
def placeMarket (ans : Answers) (resolved : Resolved) (band : MarketEntryBand) (book : Book) :
    Book × Placement :=
  match ans.quote .market with
  | none => (book, { answer := .error .accountFetch, entry := resolved.entry })
  | some quote =>
    if quote.bid ≤ 0 ∨ quote.ask < quote.bid then
      (book, { answer := .error (.marketRecoveryDeclined "invalid executable quote"),
               entry := resolved.entry })
    else
      let price := quote.executable resolved.direction
      let request := resolved.request (.market price)
      match band.check request price with
      | .error error => (book, { answer := .error error, entry := resolved.entry })
      | .ok () =>
        let (book, answer) := book.placeEntry (ans.place .market) request
        (book, { answer, entry := .market price })

def recoversByLimit (resolved : Resolved) : Bool :=
  match resolved.entry, resolved.recoverEntry with
  | .stop _, some recovery => recovery.action == .limit
  | _, _ => false

/-- The price a market rescue may stand off the trigger, or a refusal. -/
def marketBand (resolved : Resolved) (stop limit : PendingEntryDistance) (vetos : List EntryLevelVeto) :
    Except EntryError MarketEntryBand :=
  let within := min stop.minimumDistance limit.minimumDistance
  let band (maxDistance : Rat) : MarketEntryBand :=
    { triggerPrice := resolved.entry.referencePrice, maxDistance, minR := resolved.minR,
      entryLevelVetos := vetos }
  match resolved.recoverEntry.bind (·.maxSlippagePrice) with
  | none => .ok (band within)
  | some bound =>
    if 0 < bound then .ok (band (min bound within))
    else .error (.marketRecoveryDeclined "invalid explicit slippage allowance")

/-- `near_market::recover`: a stop refused for its closeness is tried as a limit, and
a limit refused for the same reason as a bounded market order. -/
def nearMarketRecover (ans : Answers) (resolved : Resolved) (stop : PendingEntryDistance)
    (vetos : List EntryLevelVeto) (book : Book) : Book × Placement :=
  let trigger := resolved.entry.referencePrice
  let fail (book : Book) (error : EntryError) : Book × Placement :=
    (book, { answer := .error error, entry := resolved.entry })
  if !recoversByLimit resolved || !stop.matches .stop resolved.direction trigger then
    fail book (.entryWithinMinimumDistance stop)
  else match book.placeEntry (ans.place .recovery) (resolved.request (.limit trigger)) with
  | (book, .ok id) => (book, { answer := .ok id, entry := .limit trigger })
  | (book, .error (.entryWithinMinimumDistance limit)) =>
    if !limit.matches .limit resolved.direction trigger then
      fail book (.entryWithinMinimumDistance limit)
    else match marketBand resolved stop limit vetos with
      | .error error => fail book error
      | .ok band => placeMarket ans resolved band book
  | (book, .error error) => fail book error

/-- The submissions of one fire: the entry itself, then at most its recovery. -/
def placeWithRecovery (ans : Answers) (resolved : Resolved) (vetos : List EntryLevelVeto) (book : Book) :
    Book × Placement :=
  match book.placeEntry (ans.place .entry) (resolved.request resolved.entry) with
  | (book, .ok id) => (book, { answer := .ok id, entry := resolved.entry })
  | (book, .error (.entryWithinMinimumDistance distance)) =>
    if recoversByLimit resolved then nearMarketRecover ans resolved distance vetos book
    else placeEntryTooCloseFallback ans resolved book
  | (book, .error .entryTooCloseToMarket) => placeEntryTooCloseFallback ans resolved book
  | (book, .error error) => (book, { answer := .error error, entry := resolved.entry })

/-- The verb of a successful placement: a market order has filled, a pending one rests. -/
def placementVerb : ResolvedEntry → String
  | .market _ => "entered"
  | .stop _ | .limit _ => "placed"

def EntryError.failureToken : EntryError → String
  | .accountFetch => "account-fetch"
  | .currencyConversion .. => "currency-conversion"
  | .equityParse => "equity-parse"
  | .riskCapExceeded => "risk-cap-exceeded"
  | .openPositionsCapExceeded => "open-positions-cap"
  | .unitsBelowMinimum => "units-below-minimum"
  | .contractSizeUnavailable => "contract-size-unavailable"
  | .entryTooCloseToMarket => "too-close-to-market"
  | .entryWithinMinimumDistance _ => "pending-entry-too-close"
  | .marketRecoveryDeclined _ => "market-recovery-declined"
  | .orderRejected | .orderRejectedWithDetail _ => "broker-rejected"
  | .ambiguousSuccess _ => "ambiguous-success"

def outcomeForEntryFailure (error : EntryError) (skipReason : Option String) : String :=
  match skipReason with
  | some reason => s!"entry-failed: {error.failureToken} ({reason})"
  | none => s!"entry-failed: {error.failureToken}"

/-- The book took no order. -/
def Book.SameOrders (before after : Book) : Prop :=
  after.orders = before.orders ∧ after.nextId = before.nextId

/-- The book took exactly one order of this resolved entry, under its next id. -/
def Book.TookOne (resolved : Resolved) (status : OrderStatus) (before after : Book) : Prop :=
  ∃ entry stake, after.nextId = before.nextId + 1 ∧
    after.orders =
      before.orders ++ [(resolved.request entry).toOrder before.nextId stake status]

/-- What submitting one resolved entry can come to. `hidden` bounds the statuses an
order behind an unreadable reply may have. -/
inductive Submitted (resolved : Resolved) (hidden : OrderStatus → Prop) (before after : Book) :
    Except EntryError Nat → Prop
  | refused {error} : before.SameOrders after → Submitted resolved hidden before after (.error error)
  | dryRun {id} : before.SameOrders after → resolved.dryRun = true →
      Submitted resolved hidden before after (.ok id)
  | accepted {status} : before.TookOne resolved status after → resolved.dryRun = false →
      status = .resting ∨ status = .open →
      Submitted resolved hidden before after (.ok before.nextId)
  | unreadable {status detail} : before.TookOne resolved status after → hidden status →
      Submitted resolved hidden before after (.error (.ambiguousSuccess detail))

/-- The statuses an order may have behind one of these replies when it is unreadable. -/
def Answers.hidden (ans : Answers) (status : OrderStatus) : Prop :=
  ∃ stage detail, ans.place stage = .unreadable (some status) detail

theorem placeEntry_submitted (ans : Answers) (stage : PlaceStage) (resolved : Resolved)
    (entry : ResolvedEntry) (book : Book) :
    Submitted resolved ans.hidden book (book.placeEntry (ans.place stage) (resolved.request entry)).1
      (book.placeEntry (ans.place stage) (resolved.request entry)).2 := by
  cases reply : ans.place stage with
  | refused error => exact .refused ⟨rfl, rfl⟩
  | rests stake =>
    cases dry : resolved.dryRun <;> simp only [Book.placeEntry, Resolved.request, dry]
    · exact .accepted ⟨entry, stake, rfl, by simp [Book.accept, Resolved.request, dry]⟩ dry (.inl rfl)
    · exact .dryRun ⟨rfl, rfl⟩ dry
  | fills stake =>
    cases dry : resolved.dryRun <;> simp only [Book.placeEntry, Resolved.request, dry]
    · exact .accepted ⟨entry, stake, rfl, by simp [Book.accept, Resolved.request, dry]⟩ dry (.inr rfl)
    · exact .dryRun ⟨rfl, rfl⟩ dry
  | unreadable hidden detail =>
    cases hidden with
    | none =>
      cases dry : resolved.dryRun <;> simp only [Book.placeEntry, Resolved.request, dry]
      · exact .refused ⟨rfl, rfl⟩
      · exact .dryRun ⟨rfl, rfl⟩ dry
    | some status =>
      cases dry : resolved.dryRun <;> simp only [Book.placeEntry, Resolved.request, dry]
      · exact .unreadable ⟨entry, 0, rfl, by simp [Book.accept, Resolved.request, dry]⟩
          ⟨stage, detail, reply⟩
      · exact .dryRun ⟨rfl, rfl⟩ dry

/-- What was refused first leaves the later submission where it started. -/
theorem Submitted.after_refusal {resolved : Resolved} {hidden : OrderStatus → Prop}
    {before middle after : Book} {answer : Except EntryError Nat} (same : before.SameOrders middle)
    (later : Submitted resolved hidden middle after answer) :
    Submitted resolved hidden before after answer := by
  obtain ⟨orders, nextId⟩ := same
  cases later with
  | refused kept => exact .refused ⟨kept.1.trans orders, kept.2.trans nextId⟩
  | dryRun kept dry => exact .dryRun ⟨kept.1.trans orders, kept.2.trans nextId⟩ dry
  | accepted took wet status =>
    rw [nextId]
    obtain ⟨entry, stake, counted, appended⟩ := took
    exact .accepted ⟨entry, stake, by omega, by rw [appended, orders, nextId]⟩ wet status
  | unreadable took known =>
    obtain ⟨entry, stake, counted, appended⟩ := took
    exact .unreadable ⟨entry, stake, by omega, by rw [appended, orders, nextId]⟩ known

/-- A refusal for another reason than an unreadable reply took no order. -/
theorem Submitted.sameOrders {resolved : Resolved} {hidden : OrderStatus → Prop} {before after : Book}
    {error : EntryError} (submitted : Submitted resolved hidden before after (.error error))
    (definite : ∀ detail, error ≠ .ambiguousSuccess detail) : before.SameOrders after := by
  cases submitted with
  | refused same => exact same
  | unreadable => exact absurd rfl (definite _)

theorem placeEntryTooCloseFallback_submitted (ans : Answers) (resolved : Resolved) (book : Book) :
    Submitted resolved ans.hidden book (placeEntryTooCloseFallback ans resolved book).1
      (placeEntryTooCloseFallback ans resolved book).2.answer := by
  unfold placeEntryTooCloseFallback
  dsimp only
  split
  · exact .refused ⟨rfl, rfl⟩
  · exact .refused ⟨rfl, rfl⟩
  · split
    · exact .refused ⟨rfl, rfl⟩
    · split
      · exact .refused ⟨rfl, rfl⟩
      all_goals exact placeEntry_submitted ..

theorem placeMarket_submitted (ans : Answers) (resolved : Resolved) (band : MarketEntryBand)
    (book : Book) :
    Submitted resolved ans.hidden book (placeMarket ans resolved band book).1
      (placeMarket ans resolved band book).2.answer := by
  unfold placeMarket
  split
  · exact .refused ⟨rfl, rfl⟩
  · split
    · exact .refused ⟨rfl, rfl⟩
    · dsimp only
      split
      · exact .refused ⟨rfl, rfl⟩
      · exact placeEntry_submitted ..

theorem nearMarketRecover_submitted (ans : Answers) (resolved : Resolved) (stop : PendingEntryDistance)
    (vetos : List EntryLevelVeto) (book : Book) :
    Submitted resolved ans.hidden book (nearMarketRecover ans resolved stop vetos book).1
      (nearMarketRecover ans resolved stop vetos book).2.answer := by
  have limited := placeEntry_submitted ans .recovery resolved
    (.limit resolved.entry.referencePrice) book
  unfold nearMarketRecover
  dsimp only
  split
  · exact .refused ⟨rfl, rfl⟩
  · split
    all_goals rename_i reply; rw [reply] at limited
    · exact limited
    · next placed limit =>
      have same := limited.sameOrders (by simp)
      split
      · exact .refused same
      · split
        · exact .refused same
        · exact .after_refusal same (placeMarket_submitted ..)
    · exact limited

/-- However many submissions the ladder makes, at most one order comes of them. -/
theorem placeWithRecovery_submitted (ans : Answers) (resolved : Resolved) (vetos : List EntryLevelVeto)
    (book : Book) :
    Submitted resolved ans.hidden book (placeWithRecovery ans resolved vetos book).1
      (placeWithRecovery ans resolved vetos book).2.answer := by
  have first := placeEntry_submitted ans .entry resolved resolved.entry book
  unfold placeWithRecovery
  split
  all_goals rename_i reply; rw [reply] at first
  · exact first
  · have same := first.sameOrders (by simp)
    split
    · exact .after_refusal same (nearMarketRecover_submitted ..)
    · exact .after_refusal same (placeEntryTooCloseFallback_submitted ..)
  · exact .after_refusal (first.sameOrders (by simp)) (placeEntryTooCloseFallback_submitted ..)
  · exact first

end TradeControl
