import TradeControl.Foundation.Checked
import TradeControl.Oanda.AccountHistory

namespace TradeControl.Oanda

def closedTradeScanCount : Nat := 50

/-- What the broker's own record says became of an order. -/
inductive OrderFate
  | terminallyUnfilled
  | live (filledTradeId : Option Nat)
  | unresolved
  deriving DecidableEq

def closedAttempt (trade : Trade) : AttemptState :=
  if 0 < trade.realizedPl then .closedWin trade.realizedPl else .closedLossOrBreakeven trade.realizedPl

/-- The trade under an id that may not be known, in a list that may not have been fetched. -/
def findTrade (tradeId : Option Nat) (trades : Option (List Trade)) : Option Trade :=
  tradeId.bind fun tradeId => trades.bind fun trades => trades.find? fun trade => trade.id = tradeId

def OrderFate.filledTradeId : OrderFate → Option Nat
  | .live filledTradeId => filledTradeId
  | _ => none

/-- Where the ids do not say what became of an order: a trade id that is known means it was filled. -/
def attemptWithoutTrade (brokerTradeId : Option Nat) (fate : OrderFate) : AttemptState :=
  if brokerTradeId.isSome then .cancelled
  else match fate with
    | .terminallyUnfilled => .cancelled
    | .live _ | .unresolved => .unknown

def computeAttemptState (brokerOrderId : Nat) (brokerTradeId : Option Nat) (pending : List OrderRecord)
    (openTrades : List Trade) (closed : Option (List Trade)) (fate : OrderFate) : AttemptState :=
  if pending.any fun order => order.id = brokerOrderId then .pending
  else match openTrades.find? fun trade => trade.id = brokerOrderId with
    | some trade => .openPosition trade.id
    | none =>
      match findTrade brokerTradeId closed with
      | some trade => closedAttempt trade
      | none =>
        match findTrade fate.filledTradeId (some openTrades) with
        | some trade => .openPosition trade.id
        | none =>
          match findTrade fate.filledTradeId closed with
          | some trade => closedAttempt trade
          | none => attemptWithoutTrade brokerTradeId fate

def getPendingOrders (account : Account) : List OrderRecord :=
  account.orders.filter fun order => order.state = .pending

/-- The newest trades of an instrument in one state. -/
def getTrades (account : Account) (isOpen : Bool) (instrument : String) (count : Nat) : List Trade :=
  (account.trades.filter fun trade => trade.isOpen = isOpen ∧ trade.instrument = instrument).take count

def getOrder (account : Account) (id : Nat) : Option OrderRecord :=
  account.orders.find? fun order => order.id = id

/-- The account as each read of a lookup finds it, and as the lookup's answer finds it. -/
structure Moments where
  pending : Account
  openTrades : Account
  closedTrades : Account
  order : Account
  closedAfter : Account
  answer : Account

/-- Which requests are answered. -/
structure Answered where
  pending : Bool
  openTrades : Bool
  closedTrades : Bool
  order : Bool
  closedAfter : Bool

def request {Result : Type} (answered : Bool) (result : Result) : Except LookupError Result :=
  if answered then .ok result else .error .transient

def fetchOrderFate (account : Account) (answered : Bool) (brokerOrderId : Nat) : OrderFate :=
  match if answered then getOrder account brokerOrderId else none with
  | some order =>
    if order.state.isTerminallyUnfilled then .terminallyUnfilled else .live order.fillingTransactionId
  | none => .unresolved

section
variable (pageSize : Nat) (seen : Moments) (answered : Answered) (instrument : String) (brokerOrderId : Nat)

/-- The closed trades are fetched where they are needed, else they stay what they were. -/
def fetchClosedTrades (needed : Bool) (account : Account) (answered : Bool) (closed : Option (List Trade)) :
    Except LookupError (Option (List Trade)) :=
  if needed then request answered (some (getTrades account false instrument closedTradeScanCount)) else .ok closed

/-- `lookup_attempt_state`; `pageSize` trades are listed where the query names no count. -/
def lookupAttemptState (brokerTradeId : Option Nat) : Except LookupError AttemptState := do
  let pending ← request answered.pending (getPendingOrders seen.pending)
  let openTrades ← request answered.openTrades (getTrades seen.openTrades true instrument pageSize)
  let closed ← fetchClosedTrades instrument brokerTradeId.isSome seen.closedTrades answered.closedTrades none
  let fromSnapshots := computeAttemptState brokerOrderId brokerTradeId pending openTrades closed .unresolved
  if fromSnapshots ≠ .unknown then .ok fromSnapshots
  else
    let fate := fetchOrderFate seen.order answered.order brokerOrderId
    let closed ← fetchClosedTrades instrument (closed.isNone && fate.filledTradeId.isSome) seen.closedAfter
      answered.closedAfter closed
    .ok (computeAttemptState brokerOrderId brokerTradeId pending openTrades closed fate)

/-- The reads come one after the other while the account goes on. -/
structure Moments.InOrder (start : Account) : Prop where
  pending : start.GoesOn seen.pending
  openTrades : seen.pending.GoesOn seen.openTrades
  closedTrades : seen.openTrades.GoesOn seen.closedTrades
  order : seen.closedTrades.GoesOn seen.order
  closedAfter : seen.order.GoesOn seen.closedAfter
  answer : seen.closedAfter.GoesOn seen.answer

/-- An order placed on an account, with the trade id that is stored for it: what an earlier lookup
of it answered, if anything is stored. -/
inductive Attempted : Account → Option Nat → Prop
  | placed {account : Account} (reached : account.Reached)
      (listed : ∃ order ∈ account.orders, order.id = brokerOrderId) : Attempted account none
  | later {account later : Account} {stored : Option Nat} (attempted : Attempted account stored)
      (goesOn : account.GoesOn later) : Attempted later stored
  | forgotten {account : Account} {stored : Option Nat} (attempted : Attempted account stored) : Attempted account none
  | found {account : Account} {stored : Option Nat} {instrument : String} {seen : Moments} {answered : Answered}
      {tradeId : Nat} (attempted : Attempted account stored) (inOrder : seen.InOrder account)
      (answer : lookupAttemptState pageSize seen answered instrument brokerOrderId stored =
        .ok (.openPosition tradeId)) : Attempted seen.answer (some tradeId)

/-- What a lookup may answer: that the order rests where it does, that its trade is open where it
is, that nothing is left where nothing is, or that it does not know, which it may not say of a
stored trade that is open. -/
def TruthfulAttempt (stored : Option Nat) (answer : Except LookupError AttemptState) : Prop :=
  (match answer with
    | .ok .pending => seen.pending.Rests brokerOrderId
    | .ok (.openPosition tradeId) => seen.answer.Opened brokerOrderId tradeId ∧ seen.openTrades.IsOpen tradeId
    | .ok (.closedWin _) | .ok (.closedLossOrBreakeven _) | .ok (.closedConfirmed _) | .ok .cancelled =>
      seen.answer.IsOver brokerOrderId
    | .ok .unknown | .error .transient => True) ∧
  ∀ tradeId ∈ stored, seen.answer.IsOpen tradeId →
    answer = .ok (.openPosition tradeId) ∨ answer = .error .transient

/-- A stored trade that is still open is under the order's own id and in the listing of open
trades, or one of the three snapshots was not to be had. -/
def SeesStoredTrade (stored : Option Nat) : Prop :=
  ∀ tradeId ∈ stored, seen.answer.IsOpen tradeId →
    (answered.pending && answered.openTrades && answered.closedTrades) = false ∨
      (tradeId = brokerOrderId ∧
        ∃ trade ∈ getTrades seen.openTrades true instrument pageSize, trade.id = tradeId)

end

open Foundation

/-- How an attempt's state was found. -/
inductive Resolved (id : Nat) (stored : Option Nat) (pending : List OrderRecord) (openTrades : List Trade)
    (closed : Option (List Trade)) (fate : OrderFate) : AttemptState → Prop
  | pending (order : OrderRecord) (listed : order ∈ pending) (own : order.id = id) : Resolved _ _ _ _ _ _ .pending
  | opened (trade : Trade) (listed : trade ∈ openTrades) (own : trade.id = id) :
      Resolved _ _ _ _ _ _ (.openPosition trade.id)
  | closed (trades : List Trade) (trade : Trade) (fetched : closed = some trades) (listed : trade ∈ trades)
      (own : stored = some trade.id ∨ fate.filledTradeId = some trade.id) : Resolved _ _ _ _ _ _ (closedAttempt trade)
  | bridged (trade : Trade) (listed : trade ∈ openTrades) (own : fate.filledTradeId = some trade.id) :
      Resolved _ _ _ _ _ _ (.openPosition trade.id)
  | unfound (known : stored.isSome) (missing : ∀ trade ∈ openTrades, trade.id ≠ id) : Resolved _ _ _ _ _ _ .cancelled
  | unfilled (unknown : stored = none) (ended : fate = .terminallyUnfilled) : Resolved _ _ _ _ _ _ .cancelled
  | unknown (unknown : stored = none) : Resolved _ _ _ _ _ _ .unknown

theorem closedAttempt_over (trade : Trade) :
    closedAttempt trade = .closedWin trade.realizedPl ∨ closedAttempt trade = .closedLossOrBreakeven trade.realizedPl := by
  unfold closedAttempt
  split
  · exact .inl rfl
  · exact .inr rfl

theorem Resolved.stored_eq_none {id : Nat} {stored : Option Nat} {pending : List OrderRecord} {openTrades : List Trade}
    {closed : Option (List Trade)} {fate : OrderFate} {state : AttemptState}
    (resolved : Resolved id stored pending openTrades closed fate state) (unclear : state = .unknown) :
    stored = none := by
  cases resolved with
  | unknown none_ => exact none_
  | closed trades trade fetched listed own => rcases closedAttempt_over trade with same | same <;> cases same ▸ unclear
  | pending => cases unclear
  | opened => cases unclear
  | bridged => cases unclear
  | unfound => cases unclear
  | unfilled => cases unclear

theorem findTrade_some {tradeId : Option Nat} {trades : Option (List Trade)} {trade : Trade}
    (found : findTrade tradeId trades = some trade) :
    ∃ list, trades = some list ∧ trade ∈ list ∧ tradeId = some trade.id := by
  unfold findTrade at found
  obtain ⟨own, named, found⟩ := Option.bind_eq_some_iff.mp found
  obtain ⟨list, fetched, found⟩ := Option.bind_eq_some_iff.mp found
  have same : trade.id = own := by simpa using List.find?_some found
  exact ⟨list, fetched, List.mem_of_find?_eq_some found, same ▸ named⟩

theorem computeAttemptState_resolved (id : Nat) (stored : Option Nat) (pending : List OrderRecord)
    (openTrades : List Trade) (closed : Option (List Trade)) (fate : OrderFate) :
    Resolved id stored pending openTrades closed fate
      (computeAttemptState id stored pending openTrades closed fate) := by
  unfold computeAttemptState
  split
  next rests =>
    obtain ⟨order, listed, own⟩ := List.any_eq_true.mp rests
    exact .pending order listed (by simpa using own)
  split
  next trade found => exact .opened trade (List.mem_of_find?_eq_some found) (by simpa using List.find?_some found)
  next missing =>
    split
    next trade found =>
      obtain ⟨list, fetched, listed, own⟩ := findTrade_some found
      exact .closed list trade fetched listed (.inl own)
    split
    next trade found =>
      obtain ⟨list, fetched, listed, own⟩ := findTrade_some found
      cases fetched
      exact .bridged trade listed own
    split
    next trade found =>
      obtain ⟨list, fetched, listed, own⟩ := findTrade_some found
      exact .closed list trade fetched listed (.inr own)
    unfold attemptWithoutTrade
    split
    next known => exact .unfound known fun trade listed => by simpa using List.find?_eq_none.mp missing trade listed
    next unknown =>
      have none_ : stored = none := by simpa using unknown
      cases fate with
      | terminallyUnfilled => exact .unfilled none_ rfl
      | live filledTradeId => exact .unknown none_
      | unresolved => exact .unknown none_

theorem request_ok {Result : Type} {answered : Bool} {result value : Result} :
    request answered result = .ok value ↔ answered = true ∧ result = value := by
  unfold request
  cases answered <;> simp

section
variable {pageSize : Nat} {seen : Moments} {answered : Answered} {instrument : String} {id : Nat} {stored : Option Nat}

/-- What a lookup that answers has read. -/
theorem lookupAttemptState_resolved {state : AttemptState}
    (answer : lookupAttemptState pageSize seen answered instrument id stored = .ok state) :
    ∃ closed fate, Resolved id stored (getPendingOrders seen.pending)
        (getTrades seen.openTrades true instrument pageSize) closed fate state ∧
      (stored.isSome → (answered.pending && answered.openTrades && answered.closedTrades) = true ∧
        closed = some (getTrades seen.closedTrades false instrument closedTradeScanCount) ∧ fate = .unresolved) ∧
      (stored = none → (∀ trades ∈ closed,
          trades = getTrades seen.closedAfter false instrument closedTradeScanCount) ∧
        (fate = .unresolved ∨ fate = fetchOrderFate seen.order true id)) := by
  unfold lookupAttemptState at answer
  obtain ⟨pending, read, answer⟩ := bind_ok.mp answer
  obtain ⟨first, rfl⟩ := request_ok.mp read
  obtain ⟨openTrades, read, answer⟩ := bind_ok.mp answer
  obtain ⟨second, rfl⟩ := request_ok.mp read
  obtain ⟨closed, read, answer⟩ := bind_ok.mp answer
  dsimp only at answer
  have resolved := computeAttemptState_resolved id stored (getPendingOrders seen.pending)
    (getTrades seen.openTrades true instrument pageSize)
  cases stored with
  | some tradeId =>
    obtain ⟨third, rfl⟩ := request_ok.mp read
    have early := resolved (some (getTrades seen.closedTrades false instrument closedTradeScanCount)) .unresolved
    split at answer
    next known =>
      cases answer
      exact ⟨_, _, early, fun _ => ⟨by rw [first, second, third]; rfl, rfl, rfl⟩, fun none_ => nomatch none_⟩
    next unknown =>
      cases early.stored_eq_none (not_not.mp unknown)
  | none =>
    cases read
    split at answer
    next known =>
      cases answer
      exact ⟨_, _, resolved none .unresolved, fun some_ => (nomatch some_), fun _ => ⟨fun _ none_ => (nomatch none_), .inl rfl⟩⟩
    next unknown =>
      obtain ⟨closed, read, answer⟩ := bind_ok.mp answer
      cases answer
      refine ⟨closed, _, resolved closed _, fun some_ => (nomatch some_), fun _ => ⟨fun trades fetched => ?_, ?_⟩⟩
      · unfold fetchClosedTrades at read
        split at read
        next =>
          obtain ⟨-, same⟩ := request_ok.mp read
          rw [← same] at fetched
          exact (Option.some.inj fetched).symm
        next =>
          cases read
          cases fetched
      · cases asked : answered.order with
        | true => exact .inr rfl
        | false => exact .inl rfl

/-- The accounts that a lookup sees. -/
structure Moments.Chain (seen : Moments) (start : Account) : Prop where
  pendingKept : seen.pending.WellKept
  openKept : seen.openTrades.WellKept
  closedKept : seen.closedTrades.WellKept
  orderKept : seen.order.WellKept
  afterKept : seen.closedAfter.WellKept
  answerKept : seen.answer.WellKept
  toPending : start.Advances seen.pending
  toOpen : seen.pending.Advances seen.openTrades
  toClosed : seen.openTrades.Advances seen.closedTrades
  toOrder : seen.closedTrades.Advances seen.order
  toAfter : seen.order.Advances seen.closedAfter
  toAnswer : seen.closedAfter.Advances seen.answer

theorem Moments.InOrder.chain {start : Account} (inOrder : seen.InOrder start) (kept : start.WellKept) :
    seen.Chain start := by
  obtain ⟨pendingKept, toPending⟩ := inOrder.pending.keeps kept
  obtain ⟨openKept, toOpen⟩ := inOrder.openTrades.keeps pendingKept
  obtain ⟨closedKept, toClosed⟩ := inOrder.closedTrades.keeps openKept
  obtain ⟨orderKept, toOrder⟩ := inOrder.order.keeps closedKept
  obtain ⟨afterKept, toAfter⟩ := inOrder.closedAfter.keeps orderKept
  obtain ⟨answerKept, toAnswer⟩ := inOrder.answer.keeps afterKept
  exact { pendingKept, openKept, closedKept, orderKept, afterKept, answerKept,
          toPending, toOpen, toClosed, toOrder, toAfter, toAnswer }

theorem mem_getTrades {account : Account} {isOpen : Bool} {count : Nat} {trade : Trade}
    (listed : trade ∈ getTrades account isOpen instrument count) : trade ∈ account.trades ∧ trade.isOpen = isOpen := by
  obtain ⟨member, filtered⟩ := List.mem_filter.mp (List.mem_of_mem_take listed)
  exact ⟨member, (by simpa using filtered : trade.isOpen = isOpen ∧ _).1⟩

/-- A trade that is listed as closed is not open. -/
theorem not_isOpen_of_closed {account : Account} (kept : account.WellKept) {trade : Trade}
    (listed : trade ∈ getTrades account false instrument closedTradeScanCount) : ¬ account.IsOpen trade.id := by
  obtain ⟨member, closed⟩ := mem_getTrades listed
  rintro ⟨other, there, same, live⟩
  cases List.inj_on_of_nodup_map kept.tradeIds there member same
  rw [closed] at live
  cases live

/-- Once the one trade of an order is closed, nothing is left of the order. -/
theorem isOver_of_closed {account later : Account} {tradeId : Nat} (kept : account.WellKept)
    (kept' : later.WellKept) (advances : account.Advances later) (opened : account.Opened id tradeId)
    (closed : ¬ account.IsOpen tradeId) : later.IsOver id := by
  obtain ⟨⟨order, listed, rfl, filled, names⟩, there⟩ := opened
  refine advances.isOver kept kept' listed (by rw [filled]; decide) fun other opened' => ?_
  cases Account.Opened.unique kept ⟨⟨order, listed, rfl, filled, names⟩, there⟩ opened'
  exact closed

theorem Account.Advances.ordered {account later : Account} (advances : account.Advances later)
    (listed : ∃ order ∈ account.orders, order.id = id) : ∃ order ∈ later.orders, order.id = id := by
  obtain ⟨order, there, own⟩ := listed
  obtain ⟨now, here, same, -⟩ := advances.order order there
  exact ⟨now, here, same.trans own⟩

/-- What is stored of an order's attempt is the trade it opened. -/
structure Ready (start : Account) (id : Nat) (stored : Option Nat) : Prop where
  kept : start.WellKept
  listed : ∃ order ∈ start.orders, order.id = id
  opened : ∀ tradeId ∈ stored, start.Opened id tradeId

theorem fetchOrderFate_live {account : Account} {answered : Bool} {transaction : Nat}
    (live : (fetchOrderFate account answered id).filledTradeId = some transaction) :
    ∃ order ∈ account.orders, order.id = id ∧ order.fillingTransactionId = some transaction := by
  unfold fetchOrderFate at live
  split at live
  next order found =>
    split at found
    next =>
      have own : order.id = id := by simpa using List.find?_some found
      refine ⟨order, List.mem_of_find?_eq_some found, own, ?_⟩
      split at live
      · cases live
      · exact live
    next => cases found
  next => cases live

theorem fetchOrderFate_unfilled {account : Account} {answered : Bool}
    (unfilled : fetchOrderFate account answered id = .terminallyUnfilled) :
    ∃ order ∈ account.orders, order.id = id ∧ order.state = .cancelled := by
  unfold fetchOrderFate at unfilled
  split at unfilled
  next order found =>
    split at found
    next =>
      have own : order.id = id := by simpa using List.find?_some found
      refine ⟨order, List.mem_of_find?_eq_some found, own, ?_⟩
      split at unfilled
      next ended =>
        unfold OrderState.isTerminallyUnfilled at ended
        split at ended
        next state => exact state
        next => cases ended
      next => cases unfilled
    next => cases found
  next => cases unfilled

section
variable {start : Account} {state : AttemptState}

/-- A position that is reported is the order's own trade, open when open trades were listed. -/
theorem lookup_openPosition (ready : Ready start id stored) (chain : seen.Chain start) {tradeId : Nat}
    (answer : lookupAttemptState pageSize seen answered instrument id stored = .ok (.openPosition tradeId)) :
    seen.answer.Opened id tradeId ∧ seen.openTrades.IsOpen tradeId := by
  obtain ⟨closed, fate, resolved, stored_, unstored⟩ := lookupAttemptState_resolved answer
  generalize same : AttemptState.openPosition tradeId = found at resolved
  cases resolved with
  | opened trade listed own =>
    cases same
    obtain ⟨member, live⟩ := mem_getTrades listed
    obtain ⟨order, there, rfl⟩ := chain.toOpen.ordered (chain.toPending.ordered ready.listed)
    have opened := chain.openKept.opened_of_sameId there own member
    exact ⟨chain.toAnswer.opened (chain.toAfter.opened (chain.toOrder.opened (chain.toClosed.opened opened))),
      trade, member, rfl, live⟩
  | bridged trade listed own =>
    cases same
    obtain ⟨member, live⟩ := mem_getTrades listed
    cases stored with
    | some tradeId =>
      rw [(stored_ rfl).2.2] at own
      cases own
    | none =>
      rcases (unstored rfl).2 with none_ | asked
      · rw [none_] at own
        cases own
      · rw [asked] at own
        obtain ⟨order, there, rfl, filling⟩ := fetchOrderFate_live own
        obtain ⟨now, here, still⟩ := (chain.toClosed.trans chain.toOrder).trade trade member
        rw [← still] at filling
        have opened := chain.orderKept.opened_of_filling there filling here
        rw [still] at opened
        exact ⟨chain.toAnswer.opened (chain.toAfter.opened opened), trade, member, rfl, live⟩
  | closed trades trade fetched listed own => rcases closedAttempt_over trade with over' | over' <;> cases over' ▸ same
  | pending => cases same
  | unfound => cases same
  | unfilled => cases same
  | unknown => cases same

end

end

end TradeControl.Oanda
