import Mathlib.Data.List.Nodup
import TradeControl.Broker
import TradeControl.Foundation.GuardedReach

namespace TradeControl.Oanda

open Foundation

inductive OrderKind
  | market
  | stop
  | limit
  deriving DecidableEq

inductive OrderState
  | pending
  | filled
  | cancelled
  deriving DecidableEq

def OrderState.isTerminallyUnfilled : OrderState → Bool
  | .cancelled => true
  | _ => false

/-- What the broker has on record of an order. -/
structure OrderRecord where
  id : Nat
  kind : OrderKind
  instrument : String
  state : OrderState
  fillingTransactionId : Option Nat
  deriving DecidableEq

structure Trade where
  id : Nat
  instrument : String
  isOpen : Bool
  realizedPl : Rat
  deriving DecidableEq

/-- An account, the newest orders and trades first. All its ids are of one count of transactions. -/
structure Account where
  orders : List OrderRecord := []
  trades : List Trade := []
  lastTransaction : Nat := 0

/-- The trade that a filled order would have opened: a market order's has the order's id, any
other's that of the transaction that filled it. -/
def OrderRecord.tradeId (order : OrderRecord) : Option Nat :=
  match order.kind with
  | .market => some order.id
  | .stop | .limit => order.fillingTransactionId

/-- What happens to an account. -/
inductive AccountEvent
  | rest (kind : OrderKind) (instrument : String)
  | fillMarket (instrument : String) (opens : Bool) (filling : Option Nat)
  | killMarket (instrument : String)
  | fill (order : OrderRecord) (opens : Bool)
  | cancel (order : OrderRecord)
  /-- A close in part leaves the trade open. -/
  | close (trade : Trade) (whole : Bool) (realizedPl : Rat)
  | otherTransaction

def AccountEvent.Allowed (account : Account) : AccountEvent → Prop
  | .rest kind _ => kind ≠ .market
  | .fillMarket _ _ filling => ∀ transaction ∈ filling, account.lastTransaction < transaction
  | .fill order _ | .cancel order => order ∈ account.orders ∧ order.state = .pending
  | .close trade _ _ => trade ∈ account.trades ∧ trade.isOpen = true
  | .killMarket _ | .otherTransaction => True

/-- The row under a key is replaced. -/
def replaceRow {Row : Type} (key : Row → Nat) (rows : List Row) (changed : Row) : List Row :=
  rows.map fun row => if key row = key changed then changed else row

def AccountEvent.step (account : Account) (event : AccountEvent) : Account :=
  let next := account.lastTransaction + 1
  match event with
  | .rest kind instrument =>
    { account with
      orders := { id := next, kind, instrument, state := .pending, fillingTransactionId := none } :: account.orders
      lastTransaction := next }
  | .fillMarket instrument opens filling =>
    { orders :=
        { id := next, kind := .market, instrument, state := .filled, fillingTransactionId := filling } :: account.orders
      trades :=
        if opens then { id := next, instrument, isOpen := true, realizedPl := 0 } :: account.trades else account.trades
      lastTransaction := max next (filling.getD 0) }
  | .killMarket instrument =>
    { account with
      orders :=
        { id := next, kind := .market, instrument, state := .cancelled, fillingTransactionId := none } :: account.orders
      lastTransaction := next }
  | .fill order opens =>
    { orders := replaceRow OrderRecord.id account.orders { order with state := .filled, fillingTransactionId := some next }
      trades :=
        if opens then { id := next, instrument := order.instrument, isOpen := true, realizedPl := 0 } :: account.trades
        else account.trades
      lastTransaction := next }
  | .cancel order =>
    { account with
      orders := replaceRow OrderRecord.id account.orders { order with state := .cancelled }
      lastTransaction := next }
  | .close trade whole realizedPl =>
    { account with
      trades := replaceRow Trade.id account.trades { trade with isOpen := !whole, realizedPl }
      lastTransaction := next }
  | .otherTransaction => { account with lastTransaction := next }

/-- How an account may go on from what it is. -/
abbrev Account.GoesOn (account later : Account) : Prop :=
  GuardedReach AccountEvent.step AccountEvent.Allowed account later

def Account.Rests (account : Account) (id : Nat) : Prop :=
  ∃ order ∈ account.orders, order.id = id ∧ order.state = .pending

def Account.IsOpen (account : Account) (tradeId : Nat) : Prop :=
  ∃ trade ∈ account.trades, trade.id = tradeId ∧ trade.isOpen = true

/-- The order was filled, and this trade is what it opened. -/
def Account.Opened (account : Account) (id tradeId : Nat) : Prop :=
  (∃ order ∈ account.orders, order.id = id ∧ order.state = .filled ∧ order.tradeId = some tradeId) ∧
    ∃ trade ∈ account.trades, trade.id = tradeId

/-- Nothing is left of an order: it does not rest, and no trade of it is open. -/
def Account.IsOver (account : Account) (id : Nat) : Prop :=
  ¬ account.Rests id ∧ ∀ tradeId, account.Opened id tradeId → ¬ account.IsOpen tradeId

/-- Ids are used once, a trade belongs to one order, and only a filled order has a filling. -/
structure Account.WellKept (account : Account) : Prop where
  orderIds : (account.orders.map OrderRecord.id).Nodup
  tradeIds : (account.trades.map Trade.id).Nodup
  orderId_le : ∀ order ∈ account.orders, order.id ≤ account.lastTransaction
  tradeId_le : ∀ trade ∈ account.trades, trade.id ≤ account.lastTransaction
  filling : ∀ order ∈ account.orders, ∀ transaction ∈ order.fillingTransactionId,
    transaction ≤ account.lastTransaction ∧ order.state = .filled
  sameId : ∀ order ∈ account.orders, ∀ trade ∈ account.trades, trade.id = order.id →
    order.kind = .market ∧ order.state = .filled
  bridged : ∀ order ∈ account.orders, ∀ trade ∈ account.trades, order.fillingTransactionId = some trade.id →
    order.tradeId = some trade.id
  resting : ∀ order ∈ account.orders, order.state = .pending → order.kind ≠ .market

section
variable {Row : Type} {key : Row → Nat} {rows : List Row} {changed : Row}

theorem mem_replaceRow {row : Row} : row ∈ replaceRow key rows changed ↔
    (row = changed ∧ ∃ old ∈ rows, key old = key changed) ∨ (row ∈ rows ∧ key row ≠ key changed) := by
  unfold replaceRow
  rw [List.mem_map]
  constructor
  · rintro ⟨old, listed, rfl⟩
    split
    next same => exact .inl ⟨rfl, old, listed, same⟩
    next other => exact .inr ⟨listed, other⟩
  · rintro (⟨rfl, old, listed, same⟩ | ⟨listed, other⟩)
    · exact ⟨old, listed, if_pos same⟩
    · exact ⟨row, listed, if_neg other⟩

theorem key_replaceRow : (replaceRow key rows changed).map key = rows.map key := by
  unfold replaceRow
  rw [List.map_map]
  refine List.map_congr_left fun row _ => ?_
  rw [Function.comp_apply]
  split
  next same => exact same.symm
  next => rfl

end

theorem empty_wellKept : Account.WellKept {} := by
  constructor <;> simp

section
variable {account : Account}

/-- A new order, under a new id. -/
theorem Account.WellKept.ordered (kept : account.WellKept) {order : OrderRecord} {last : Nat}
    (fresh : account.lastTransaction < order.id) (within : order.id ≤ last)
    (filling : ∀ transaction ∈ order.fillingTransactionId,
      account.lastTransaction < transaction ∧ transaction ≤ last ∧ order.state = .filled)
    (resting : order.state = .pending → order.kind ≠ .market) :
    Account.WellKept { orders := order :: account.orders, trades := account.trades, lastTransaction := last } where
  orderIds := by
    rw [List.map_cons, List.nodup_cons]
    refine ⟨fun listed => ?_, kept.orderIds⟩
    obtain ⟨other, member, same⟩ := List.mem_map.mp listed
    have bound := kept.orderId_le other member
    omega
  tradeIds := kept.tradeIds
  orderId_le := by
    intro other listed
    rcases List.mem_cons.mp listed with rfl | old
    · exact within
    · have bound := kept.orderId_le other old
      change other.id ≤ last
      omega
  tradeId_le := by
    intro trade listed
    have bound := kept.tradeId_le trade listed
    change trade.id ≤ last
    omega
  filling := by
    intro other listed transaction named
    rcases List.mem_cons.mp listed with rfl | old
    · exact ⟨(filling transaction named).2.1, (filling transaction named).2.2⟩
    · obtain ⟨bound, filled⟩ := kept.filling other old transaction named
      refine ⟨?_, filled⟩
      change transaction ≤ last
      omega
  sameId := by
    intro other listed trade member same
    rcases List.mem_cons.mp listed with rfl | old
    · have bound := kept.tradeId_le trade member
      omega
    · exact kept.sameId other old trade member same
  bridged := by
    intro other listed trade member named
    rcases List.mem_cons.mp listed with rfl | old
    · have bound := kept.tradeId_le trade member
      have later := (filling trade.id named).1
      omega
    · exact kept.bridged other old trade member named
  resting := by
    intro other listed pending
    rcases List.mem_cons.mp listed with rfl | old
    · exact resting pending
    · exact kept.resting other old pending

/-- A resting order ends, in a fill or without one. -/
theorem Account.WellKept.ended (kept : account.WellKept) {order ended : OrderRecord} {last : Nat}
    (listed : order ∈ account.orders) (pending : order.state = .pending) (later : account.lastTransaction < last)
    (sameId : ended.id = order.id) (sameKind : ended.kind = order.kind) (done : ended.state ≠ .pending)
    (filling : ∀ transaction ∈ ended.fillingTransactionId, transaction = last ∧ ended.state = .filled) :
    Account.WellKept
      { orders := replaceRow OrderRecord.id account.orders ended, trades := account.trades, lastTransaction := last } where
  orderIds := by
    rw [key_replaceRow]
    exact kept.orderIds
  tradeIds := kept.tradeIds
  orderId_le := by
    intro other member
    change other.id ≤ last
    rcases mem_replaceRow.mp member with ⟨rfl, old, there, same⟩ | ⟨there, -⟩
    · have bound := kept.orderId_le old there
      omega
    · have bound := kept.orderId_le other there
      omega
  tradeId_le := by
    intro trade member
    have bound := kept.tradeId_le trade member
    change trade.id ≤ last
    omega
  filling := by
    intro other member transaction named
    change transaction ≤ last ∧ _
    rcases mem_replaceRow.mp member with ⟨rfl, -⟩ | ⟨there, -⟩
    · exact ⟨(filling transaction named).1.le, (filling transaction named).2⟩
    · obtain ⟨bound, filled⟩ := kept.filling other there transaction named
      exact ⟨by omega, filled⟩
  sameId := by
    intro other member trade present same
    rcases mem_replaceRow.mp member with ⟨rfl, -⟩ | ⟨there, -⟩
    · have filled := (kept.sameId order listed trade present (same.trans sameId)).2
      rw [pending] at filled
      cases filled
    · exact kept.sameId other there trade present same
  bridged := by
    intro other member trade present named
    rcases mem_replaceRow.mp member with ⟨rfl, -⟩ | ⟨there, -⟩
    · have bound := kept.tradeId_le trade present
      have fresh := (filling trade.id named).1
      omega
    · exact kept.bridged other there trade present named
  resting := by
    intro other member still
    rcases mem_replaceRow.mp member with ⟨rfl, -⟩ | ⟨there, -⟩
    · exact absurd still done
    · exact kept.resting other there still

/-- A trade opens under the newest id, for the one order that has it. -/
theorem Account.WellKept.opened (kept : account.WellKept) {trade : Trade} {earlier : Nat}
    (fresh : ∀ other ∈ account.trades, other.id ≤ earlier) (within : earlier < trade.id)
    (bound : trade.id ≤ account.lastTransaction)
    (sameId : ∀ order ∈ account.orders, trade.id = order.id → order.kind = .market ∧ order.state = .filled)
    (bridged : ∀ order ∈ account.orders, order.fillingTransactionId = some trade.id → order.tradeId = some trade.id) :
    Account.WellKept { account with trades := trade :: account.trades } where
  orderIds := kept.orderIds
  tradeIds := by
    rw [List.map_cons, List.nodup_cons]
    refine ⟨fun listed => ?_, kept.tradeIds⟩
    obtain ⟨other, member, same⟩ := List.mem_map.mp listed
    have old := fresh other member
    omega
  orderId_le := kept.orderId_le
  tradeId_le := by
    intro other listed
    rcases List.mem_cons.mp listed with rfl | old
    · exact bound
    · exact kept.tradeId_le other old
  filling := kept.filling
  sameId := by
    intro order member other listed same
    rcases List.mem_cons.mp listed with rfl | old
    · exact sameId order member same
    · exact kept.sameId order member other old same
  bridged := by
    intro order member other listed named
    rcases List.mem_cons.mp listed with rfl | old
    · exact bridged order member named
    · exact kept.bridged order member other old named
  resting := kept.resting

/-- Trades change, and keep their ids. -/
theorem Account.WellKept.traded (kept : account.WellKept) {trades : List Trade} {last : Nat}
    (later : account.lastTransaction ≤ last) (same : trades.map Trade.id = account.trades.map Trade.id) :
    Account.WellKept { orders := account.orders, trades, lastTransaction := last } := by
  have old : ∀ trade ∈ trades, ∃ other ∈ account.trades, other.id = trade.id := by
    intro trade listed
    exact List.mem_map.mp (same ▸ List.mem_map_of_mem listed)
  exact {
    orderIds := kept.orderIds
    tradeIds := by
      rw [same]
      exact kept.tradeIds
    orderId_le := fun order listed => (kept.orderId_le order listed).trans later
    tradeId_le := fun trade listed => by
      obtain ⟨other, there, id⟩ := old trade listed
      exact id ▸ (kept.tradeId_le other there).trans later
    filling := fun order listed transaction named =>
      ⟨(kept.filling order listed transaction named).1.trans later, (kept.filling order listed transaction named).2⟩
    sameId := fun order listed trade member id => by
      obtain ⟨other, there, id'⟩ := old trade member
      exact kept.sameId order listed other there (id'.trans id)
    bridged := fun order listed trade member named => by
      obtain ⟨other, there, id'⟩ := old trade member
      rw [← id']
      exact kept.bridged order listed other there (id' ▸ named)
    resting := kept.resting }

end

theorem AccountEvent.step_wellKept (account : Account) (event : AccountEvent) (kept : account.WellKept)
    (allowed : event.Allowed account) : (event.step account).WellKept := by
  cases event with
  | rest kind instrument =>
    exact kept.ordered (Nat.lt_succ_self _) le_rfl (fun _ none_ => nomatch none_) fun _ => allowed
  | killMarket instrument =>
    exact kept.ordered (Nat.lt_succ_self _) le_rfl (fun _ none_ => nomatch none_) fun pending => nomatch pending
  | fillMarket instrument opens filling =>
    have placed : Account.WellKept {
        orders := { id := account.lastTransaction + 1, kind := .market, instrument, state := .filled,
                    fillingTransactionId := filling } :: account.orders
        trades := account.trades
        lastTransaction := max (account.lastTransaction + 1) (filling.getD 0) } := by
      refine kept.ordered (Nat.lt_succ_self _) (le_max_left _ _) (fun transaction named => ?_) fun pending => nomatch pending
      obtain rfl := named
      exact ⟨allowed transaction rfl, le_max_right _ _, rfl⟩
    cases opens with
    | false => exact placed
    | true =>
      refine placed.opened kept.tradeId_le (Nat.lt_succ_self _) (le_max_left _ _) ?_ ?_
      · intro order listed same
        rcases List.mem_cons.mp listed with rfl | old
        · exact ⟨rfl, rfl⟩
        · have bound := kept.orderId_le order old
          have equal : account.lastTransaction + 1 = order.id := same
          omega
      · intro order listed named
        rcases List.mem_cons.mp listed with rfl | old
        · rfl
        · have bound := (kept.filling order old _ named).1
          exact absurd bound (Nat.not_succ_le_self _)
  | fill order opens =>
    obtain ⟨listed, pending⟩ := allowed
    have filled : Account.WellKept {
        orders := replaceRow OrderRecord.id account.orders
          { order with state := .filled, fillingTransactionId := some (account.lastTransaction + 1) }
        trades := account.trades
        lastTransaction := account.lastTransaction + 1 } :=
      kept.ended listed pending (Nat.lt_succ_self _) rfl rfl (fun same => nomatch same) fun transaction named =>
        ⟨(Option.some.inj named).symm, rfl⟩
    cases opens with
    | false => exact filled
    | true =>
      refine filled.opened kept.tradeId_le (Nat.lt_succ_self _) le_rfl ?_ ?_
      · intro other member same
        have equal : account.lastTransaction + 1 = other.id := same
        rcases mem_replaceRow.mp member with ⟨rfl, -⟩ | ⟨there, -⟩
        · have bound := kept.orderId_le order listed
          exact absurd (equal ▸ bound) (Nat.not_succ_le_self _)
        · have bound := kept.orderId_le other there
          omega
      · intro other member named
        rcases mem_replaceRow.mp member with ⟨rfl, -⟩ | ⟨there, -⟩
        · have resting := kept.resting order listed pending
          unfold OrderRecord.tradeId
          cases kind : order.kind with
          | market => exact absurd kind resting
          | stop => rfl
          | limit => rfl
        · have bound := (kept.filling other there _ named).1
          exact absurd bound (Nat.not_succ_le_self _)
  | cancel order =>
    obtain ⟨listed, pending⟩ := allowed
    refine kept.ended listed pending (Nat.lt_succ_self _) rfl rfl (fun same => nomatch same) fun transaction named => ?_
    have filled := (kept.filling order listed transaction named).2
    rw [pending] at filled
    cases filled
  | close trade whole realizedPl => exact kept.traded (Nat.le_succ _) key_replaceRow
  | otherTransaction => exact kept.traded (Nat.le_succ _) rfl

/-- What an account never takes back: ids stay, an order ends once and so does a trade, and what
is new has a new id. -/
structure Account.Advances (account later : Account) : Prop where
  last : account.lastTransaction ≤ later.lastTransaction
  order : ∀ order ∈ account.orders, ∃ now ∈ later.orders, now.id = order.id ∧ (order.state = .pending ∨ now = order)
  trade : ∀ trade ∈ account.trades, ∃ now ∈ later.trades, now.id = trade.id
  orderBefore : ∀ now ∈ later.orders, account.lastTransaction < now.id ∨ ∃ order ∈ account.orders, order.id = now.id
  tradeBefore : ∀ now ∈ later.trades, account.lastTransaction < now.id ∨
    ∃ trade ∈ account.trades, trade.id = now.id ∧ (now.isOpen = true → trade.isOpen = true)

theorem Account.Advances.refl (account : Account) : account.Advances account where
  last := le_rfl
  order order listed := ⟨order, listed, rfl, .inr rfl⟩
  trade trade listed := ⟨trade, listed, rfl⟩
  orderBefore now listed := .inr ⟨now, listed, rfl⟩
  tradeBefore now listed := .inr ⟨now, listed, rfl, id⟩

theorem Account.Advances.trans {account middle later : Account} (first : account.Advances middle)
    (second : middle.Advances later) : account.Advances later where
  last := first.last.trans second.last
  order order listed := by
    obtain ⟨between, there, id, ended⟩ := first.order order listed
    obtain ⟨now, here, id', ended'⟩ := second.order between there
    refine ⟨now, here, id'.trans id, ?_⟩
    rcases ended with pending | rfl
    · exact .inl pending
    · exact ended'
  trade trade listed := by
    obtain ⟨between, there, id⟩ := first.trade trade listed
    obtain ⟨now, here, id'⟩ := second.trade between there
    exact ⟨now, here, id'.trans id⟩
  orderBefore now listed := by
    rcases second.orderBefore now listed with new | ⟨between, there, id⟩
    · exact .inl (first.last.trans_lt new)
    · rw [← id]
      exact first.orderBefore between there
  tradeBefore now listed := by
    rcases second.tradeBefore now listed with new | ⟨between, there, id, opens⟩
    · exact .inl (first.last.trans_lt new)
    · rw [← id]
      rcases first.tradeBefore between there with new | ⟨trade, here, id', opens'⟩
      · exact .inl new
      · exact .inr ⟨trade, here, id', opens' ∘ opens⟩

section
variable {account : Account}

/-- A new order and what it opened at once. -/
theorem advances_ordered (order : OrderRecord) (trades : List Trade) {last : Nat}
    (fresh : account.lastTransaction < order.id) (later : account.lastTransaction ≤ last)
    (kept : ∀ trade ∈ account.trades, trade ∈ trades)
    (before : ∀ trade ∈ trades, account.lastTransaction < trade.id ∨ trade ∈ account.trades) :
    account.Advances { orders := order :: account.orders, trades, lastTransaction := last } where
  last := later
  order old listed := ⟨old, List.mem_cons_of_mem _ listed, rfl, .inr rfl⟩
  trade old listed := ⟨old, kept old listed, rfl⟩
  orderBefore now listed := by
    rcases List.mem_cons.mp listed with rfl | old
    · exact .inl fresh
    · exact .inr ⟨now, old, rfl⟩
  tradeBefore now listed := (before now listed).imp id fun old => ⟨now, old, rfl, id⟩

/-- A resting order's end, and what it opened. -/
theorem advances_ended {order ended : OrderRecord} (kept : account.WellKept) (listed : order ∈ account.orders)
    (pending : order.state = .pending) (sameId : ended.id = order.id) (trades : List Trade) {last : Nat}
    (later : account.lastTransaction ≤ last) (stay : ∀ trade ∈ account.trades, trade ∈ trades)
    (before : ∀ trade ∈ trades, account.lastTransaction < trade.id ∨ trade ∈ account.trades) :
    account.Advances { orders := replaceRow OrderRecord.id account.orders ended, trades, lastTransaction := last } where
  last := later
  order old there := by
    by_cases same : old.id = ended.id
    · have itself : old = order := List.inj_on_of_nodup_map kept.orderIds there listed (same.trans sameId)
      exact ⟨ended, mem_replaceRow.mpr (.inl ⟨rfl, old, there, same⟩), same.symm, .inl (itself ▸ pending)⟩
    · exact ⟨old, mem_replaceRow.mpr (.inr ⟨there, same⟩), rfl, .inr rfl⟩
  trade old there := ⟨old, stay old there, rfl⟩
  orderBefore now there := by
    rcases mem_replaceRow.mp there with ⟨rfl, old, present, same⟩ | ⟨present, -⟩
    · exact .inr ⟨old, present, same⟩
    · exact .inr ⟨now, present, rfl⟩
  tradeBefore now there := (before now there).imp id fun old => ⟨now, old, rfl, id⟩

end

theorem AccountEvent.step_advances (account : Account) (event : AccountEvent) (kept : account.WellKept)
    (allowed : event.Allowed account) : account.Advances (event.step account) := by
  have opening : ∀ (opens : Bool) (trade : Trade), account.lastTransaction < trade.id →
      (∀ old ∈ account.trades, old ∈ if opens then trade :: account.trades else account.trades) ∧
      ∀ now ∈ (if opens then trade :: account.trades else account.trades),
        account.lastTransaction < now.id ∨ now ∈ account.trades := by
    intro opens trade new
    cases opens with
    | false => exact ⟨fun old there => there, fun now there => .inr there⟩
    | true =>
      refine ⟨fun old there => List.mem_cons_of_mem _ there, fun now there => ?_⟩
      rcases List.mem_cons.mp there with rfl | old
      · exact .inl new
      · exact .inr old
  cases event with
  | rest kind instrument =>
    exact advances_ordered _ _ (Nat.lt_succ_self _) (Nat.le_succ _) (fun _ there => there) fun _ there => .inr there
  | killMarket instrument =>
    exact advances_ordered _ _ (Nat.lt_succ_self _) (Nat.le_succ _) (fun _ there => there) fun _ there => .inr there
  | fillMarket instrument opens filling =>
    obtain ⟨stay, before⟩ := opening opens
      { id := account.lastTransaction + 1, instrument, isOpen := true, realizedPl := 0 } (Nat.lt_succ_self _)
    exact advances_ordered _ _ (Nat.lt_succ_self _) ((Nat.le_succ _).trans (le_max_left _ _)) stay before
  | fill order opens =>
    obtain ⟨stay, before⟩ := opening opens
      { id := account.lastTransaction + 1, instrument := order.instrument, isOpen := true, realizedPl := 0 }
      (Nat.lt_succ_self _)
    have filled : ({ order with
        state := .filled, fillingTransactionId := some (account.lastTransaction + 1) } : OrderRecord).id = order.id := rfl
    exact advances_ended kept allowed.1 allowed.2 filled _ (Nat.le_succ _) stay before
  | cancel order =>
    have ended : ({ order with state := .cancelled } : OrderRecord).id = order.id := rfl
    exact advances_ended kept allowed.1 allowed.2 ended _ (Nat.le_succ _) (fun _ there => there) fun _ there => .inr there
  | close trade whole realizedPl =>
    obtain ⟨listed, live⟩ := allowed
    exact {
      last := Nat.le_succ _
      order := fun old there => ⟨old, there, rfl, .inr rfl⟩
      trade := fun old there => by
        by_cases same : old.id = trade.id
        · exact ⟨_, mem_replaceRow.mpr (.inl ⟨rfl, old, there, same⟩), same.symm⟩
        · exact ⟨old, mem_replaceRow.mpr (.inr ⟨there, same⟩), rfl⟩
      orderBefore := fun now there => .inr ⟨now, there, rfl⟩
      tradeBefore := fun now there => by
        rcases mem_replaceRow.mp there with ⟨rfl, old, present, same⟩ | ⟨present, -⟩
        · exact .inr ⟨trade, listed, rfl, fun _ => live⟩
        · exact .inr ⟨now, present, rfl, id⟩ }
  | otherTransaction => exact { Account.Advances.refl account with last := Nat.le_succ _ }

theorem Account.GoesOn.keeps {account later : Account} (goesOn : account.GoesOn later) (kept : account.WellKept) :
    later.WellKept ∧ account.Advances later := by
  induction goesOn with
  | start => exact ⟨kept, .refl account⟩
  | @next state event _ allowed ih =>
    exact ⟨event.step_wellKept state ih.1 allowed, ih.2.trans (event.step_advances state ih.1 allowed)⟩

/-- An account as a history of events from nothing leaves it. -/
structure Account.Reached (account : Account) : Prop where
  history : Account.GoesOn {} account

theorem Account.Reached.kept {account : Account} (reached : account.Reached) : account.WellKept :=
  (reached.history.keeps empty_wellKept).1

section
variable {account later : Account} {id tradeId : Nat}

theorem Account.Opened.unique {other : Nat} (kept : account.WellKept) (opened : account.Opened id tradeId)
    (opened' : account.Opened id other) : tradeId = other := by
  obtain ⟨⟨order, listed, own, -, names⟩, -⟩ := opened
  obtain ⟨⟨order', listed', own', -, names'⟩, -⟩ := opened'
  cases List.inj_on_of_nodup_map kept.orderIds listed listed' (own.trans own'.symm)
  exact Option.some.inj (names.symm.trans names')

theorem Account.Opened.not_rests (kept : account.WellKept) (opened : account.Opened id tradeId) : ¬ account.Rests id := by
  rintro ⟨order, listed, own, pending⟩
  obtain ⟨⟨order', listed', own', filled, -⟩, -⟩ := opened
  cases List.inj_on_of_nodup_map kept.orderIds listed listed' (own.trans own'.symm)
  rw [pending] at filled
  cases filled

/-- A filling that names a trade names the order's own. -/
theorem Account.WellKept.opened_of_filling (kept : account.WellKept) {order : OrderRecord} {trade : Trade}
    (listed : order ∈ account.orders) (named : order.fillingTransactionId = some trade.id)
    (there : trade ∈ account.trades) : account.Opened order.id trade.id :=
  ⟨⟨order, listed, rfl, (kept.filling order listed _ named).2, kept.bridged order listed trade there named⟩, trade, there, rfl⟩

/-- A trade under an order's id is that order's. -/
theorem Account.WellKept.opened_of_sameId (kept : account.WellKept) {order : OrderRecord} {trade : Trade}
    (listed : order ∈ account.orders) (same : trade.id = order.id)
    (there : trade ∈ account.trades) : account.Opened order.id trade.id := by
  obtain ⟨market, filled⟩ := kept.sameId order listed trade there same
  refine ⟨⟨order, listed, rfl, filled, ?_⟩, trade, there, rfl⟩
  unfold OrderRecord.tradeId
  rw [market, same]

theorem Account.Advances.opened (advances : account.Advances later) (opened : account.Opened id tradeId) :
    later.Opened id tradeId := by
  obtain ⟨⟨order, listed, own, filled, names⟩, trade, there, same⟩ := opened
  obtain ⟨now, here, -, pending | rfl⟩ := advances.order order listed
  · rw [pending] at filled
    cases filled
  · obtain ⟨trade', there', same'⟩ := advances.trade trade there
    exact ⟨⟨now, here, own, filled, names⟩, trade', there', same'.trans same⟩

/-- A trade does not open again. -/
theorem Account.Advances.isOpen (advances : account.Advances later) (known : tradeId ≤ account.lastTransaction)
    (opens : later.IsOpen tradeId) : account.IsOpen tradeId := by
  obtain ⟨now, here, rfl, live⟩ := opens
  rcases advances.tradeBefore now here with new | ⟨trade, there, same, before⟩
  · omega
  · exact ⟨trade, there, same, before live⟩

/-- An order that has ended stays so, and opens no further trade. -/
theorem Account.Advances.isOver (advances : account.Advances later) (kept : account.WellKept)
    (kept' : later.WellKept) {order : OrderRecord} (listed : order ∈ account.orders) (done : order.state ≠ .pending)
    (shut : ∀ tradeId, account.Opened order.id tradeId → ¬ account.IsOpen tradeId) : later.IsOver order.id := by
  obtain ⟨now, here, -, pending | rfl⟩ := advances.order order listed
  · exact absurd pending done
  · refine ⟨?_, fun tradeId opened opens => ?_⟩
    · rintro ⟨other, listed', own, pending⟩
      cases List.inj_on_of_nodup_map kept'.orderIds listed' here own
      exact done pending
    · obtain ⟨⟨other, listed', own, filled, names⟩, trade, there, rfl⟩ := opened
      cases List.inj_on_of_nodup_map kept'.orderIds listed' here own
      have known : trade.id ≤ account.lastTransaction := by
        unfold OrderRecord.tradeId at names
        split at names
        · rw [← Option.some.inj names]
          exact kept.orderId_le now listed
        all_goals exact (kept.filling now listed _ names).1
      obtain ⟨before, present, same, -⟩ := advances.isOpen known opens
      exact shut trade.id ⟨⟨now, listed, rfl, filled, names⟩, before, present, same⟩ (advances.isOpen known opens)

end

end TradeControl.Oanda
