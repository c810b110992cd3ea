import TradeControl.Oanda.LookupAnswers

namespace TradeControl.Oanda

open Foundation

section
variable {pageSize : Nat} {seen : Moments} {answered : Answered} {instrument : String} {id : Nat} {stored : Option Nat}
  {start : Account} {state : AttemptState}

/-- What an earlier lookup found stays the order's trade. -/
theorem Attempted.ready (attempted : Attempted pageSize id start stored) : Ready start id stored := by
  induction attempted with
  | placed reached listed => exact ⟨reached.kept, listed, fun _ none_ => nomatch none_⟩
  | later _ goesOn ih =>
    obtain ⟨kept, advances⟩ := goesOn.keeps ih.kept
    exact ⟨kept, advances.ordered ih.listed, fun tradeId known => advances.opened (ih.opened tradeId known)⟩
  | forgotten _ ih => exact ⟨ih.kept, ih.listed, fun _ none_ => nomatch none_⟩
  | found _ inOrder answer ih =>
    have chain := inOrder.chain ih.kept
    refine ⟨chain.answerKept, ?_, fun tradeId known => ?_⟩
    · exact chain.toAnswer.ordered (chain.toAfter.ordered (chain.toOrder.ordered (chain.toClosed.ordered
        (chain.toOpen.ordered (chain.toPending.ordered ih.listed)))))
    · cases known
      exact (lookup_openPosition ih chain answer).1

theorem Moments.Chain.sinceClosed (chain : seen.Chain start) : seen.closedTrades.Advances seen.answer :=
  chain.toOrder.trans (chain.toAfter.trans chain.toAnswer)

theorem Moments.Chain.toClosing (chain : seen.Chain start) : start.Advances seen.closedTrades :=
  chain.toPending.trans (chain.toOpen.trans chain.toClosed)

theorem Account.Opened.known {account : Account} {tradeId : Nat} (kept : account.WellKept)
    (opened : account.Opened id tradeId) : tradeId ≤ account.lastTransaction := by
  obtain ⟨-, trade, there, rfl⟩ := opened
  exact kept.tradeId_le trade there

/-- A trade that was listed as closed ends its order. -/
theorem lookup_closed (ready : Ready start id stored) (chain : seen.Chain start) {closed : Option (List Trade)}
    {fate : OrderFate} {trades : List Trade} {trade : Trade} (fetched : closed = some trades) (listed : trade ∈ trades)
    (own : stored = some trade.id ∨ fate.filledTradeId = some trade.id)
    (stored_ : stored.isSome → closed = some (getTrades seen.closedTrades false instrument closedTradeScanCount) ∧
      fate = .unresolved)
    (unstored : stored = none → (∀ trades ∈ closed,
        trades = getTrades seen.closedAfter false instrument closedTradeScanCount) ∧
      (fate = .unresolved ∨ fate = fetchOrderFate seen.order true id)) :
    seen.answer.IsOver id ∧ (stored = some trade.id → ¬ seen.answer.IsOpen trade.id) := by
  cases stored with
  | some tradeId =>
    obtain ⟨rfl, rfl⟩ := stored_ rfl
    cases fetched
    rcases own with same | none_
    · have opened := chain.toClosing.opened (ready.opened trade.id same)
      have shut := not_isOpen_of_closed chain.closedKept listed
      exact ⟨isOver_of_closed chain.closedKept chain.answerKept chain.sinceClosed opened shut,
        fun _ still => shut (chain.sinceClosed.isOpen (opened.known chain.closedKept) still)⟩
    · cases none_
  | none =>
    obtain ⟨list, asked⟩ := unstored rfl
    cases list trades fetched
    rcases own with none_ | own
    · cases none_
    · rcases asked with rfl | rfl
      · cases own
      · obtain ⟨order, there, rfl, filling⟩ := fetchOrderFate_live own
        have filled := (chain.orderKept.filling order there _ filling).2
        have still : order ∈ seen.closedAfter.orders := by
          obtain ⟨now, here, -, pending | rfl⟩ := chain.toAfter.order order there
          · rw [pending] at filled
            cases filled
          · exact here
        have opened := chain.afterKept.opened_of_filling still filling (mem_getTrades listed).1
        have shut := not_isOpen_of_closed chain.afterKept listed
        exact ⟨isOver_of_closed chain.afterKept chain.answerKept chain.toAnswer opened shut, fun none_ => nomatch none_⟩

/-- An order that its record says was cancelled is over. -/
theorem lookup_unfilled (chain : seen.Chain start)
    (unfilled : fetchOrderFate seen.order true id = .terminallyUnfilled) : seen.answer.IsOver id := by
  obtain ⟨order, listed, rfl, cancelled⟩ := fetchOrderFate_unfilled unfilled
  refine (chain.toAfter.trans chain.toAnswer).isOver chain.orderKept chain.answerKept listed
    (by rw [cancelled]; decide) fun tradeId opened => ?_
  obtain ⟨⟨other, there, own, filled, -⟩, -⟩ := opened
  cases List.inj_on_of_nodup_map chain.orderKept.orderIds there listed own
  rw [cancelled] at filled
  cases filled

/-- With a stored trade id, three snapshots are all that a lookup needs. -/
theorem lookup_answers {tradeId : Nat} (all : (answered.pending && answered.openTrades && answered.closedTrades) = true) :
    ∃ state, lookupAttemptState pageSize seen answered instrument id (some tradeId) = .ok state := by
  simp only [Bool.and_eq_true] at all
  obtain ⟨⟨first, second⟩, third⟩ := all
  refine ⟨_, bind_ok.mpr ⟨_, request_ok.mpr ⟨first, rfl⟩, bind_ok.mpr ⟨_, request_ok.mpr ⟨second, rfl⟩,
    bind_ok.mpr ⟨_, request_ok.mpr ⟨third, rfl⟩, if_pos fun unclear => ?_⟩⟩⟩⟩
  cases (computeAttemptState_resolved id (some tradeId) _ _ _ _).stored_eq_none unclear

/-- A lookup of an attempt answers truthfully exactly where it can see the stored trade, if that is
still open. -/
theorem lookupAttemptState_truthful_iff (attempted : Attempted pageSize id start stored) (inOrder : seen.InOrder start) :
    TruthfulAttempt seen id stored (lookupAttemptState pageSize seen answered instrument id stored) ↔
      SeesStoredTrade pageSize seen answered instrument id stored := by
  have ready := attempted.ready
  have chain := inOrder.chain ready.kept
  have openedSince : ∀ tradeId ∈ stored, seen.answer.Opened id tradeId := fun tradeId known =>
    chain.sinceClosed.opened (chain.toClosing.opened (ready.opened tradeId known))
  constructor
  · rintro ⟨-, repeats⟩ tradeId known still
    rcases repeats tradeId known still with answer | answer
    · obtain ⟨closed, fate, resolved, stored_, -⟩ := lookupAttemptState_resolved answer
      obtain rfl := known
      generalize same : AttemptState.openPosition tradeId = found at resolved
      cases resolved with
      | opened trade listed own =>
        cases same
        exact .inr ⟨own, trade, listed, rfl⟩
      | bridged trade listed own =>
        rw [(stored_ rfl).2.2] at own
        cases own
      | closed trades trade fetched listed own => rcases closedAttempt_over trade with over' | over' <;> cases over' ▸ same
      | pending => cases same
      | unfound => cases same
      | unfilled => cases same
      | unknown => cases same
    · refine .inl (Bool.eq_false_iff.mpr fun all => ?_)
      obtain rfl := known
      obtain ⟨state, answers⟩ := lookup_answers all
      rw [answers] at answer
      cases answer
  · intro sees
    cases answer : lookupAttemptState pageSize seen answered instrument id stored with
    | error error =>
      cases error
      exact ⟨trivial, fun _ _ _ => .inr rfl⟩
    | ok state =>
      obtain ⟨closed, fate, resolved, stored_, unstored⟩ := lookupAttemptState_resolved answer
      -- a stored trade that is open is under the order's id, and listed
      have seenOpen : ∀ tradeId ∈ stored, seen.answer.IsOpen tradeId → tradeId = id ∧
          ∃ trade ∈ getTrades seen.openTrades true instrument pageSize, trade.id = id := by
        intro tradeId known still
        obtain rfl := known
        rcases sees tradeId rfl still with unread | ⟨own, listed⟩
        · rw [(stored_ rfl).1] at unread
          cases unread
        · exact ⟨own, own ▸ listed⟩
      cases resolved with
      | pending order listed own =>
        obtain ⟨member, pending⟩ := List.mem_filter.mp listed
        have rests : seen.pending.Rests id := ⟨order, member, own, by simpa using pending⟩
        refine ⟨rests, fun tradeId known still => ?_⟩
        exact absurd rests ((chain.toPending.opened (ready.opened tradeId known)).not_rests chain.pendingKept)
      | opened trade listed own =>
        refine ⟨lookup_openPosition ready chain answer, fun tradeId known still => .inl ?_⟩
        rw [(seenOpen tradeId known still).1, own]
      | bridged trade listed own =>
        refine ⟨lookup_openPosition ready chain answer, fun tradeId known still => ?_⟩
        obtain rfl := known
        rw [(stored_ rfl).2.2] at own
        cases own
      | closed trades trade fetched listed own =>
        obtain ⟨isOver, shut⟩ := lookup_closed ready chain fetched listed own (fun some_ => (stored_ some_).2) unstored
        refine ⟨by rcases closedAttempt_over trade with same | same <;> rw [same] <;> exact isOver,
          fun tradeId known still => ?_⟩
        obtain rfl := known
        rcases own with same | none_
        · cases same
          exact absurd still (shut rfl)
        · rw [(stored_ rfl).2.2] at none_
          cases none_
      | unfound known missing =>
        obtain ⟨tradeId, rfl⟩ := Option.isSome_iff_exists.mp known
        have shut : ¬ seen.answer.IsOpen tradeId := fun still => by
          obtain ⟨-, trade, listed, own⟩ := seenOpen tradeId rfl still
          exact missing trade listed own
        refine ⟨isOver_of_closed chain.answerKept chain.answerKept (.refl _) (openedSince tradeId rfl) shut,
          fun other same still => ?_⟩
        cases same
        exact absurd still shut
      | unfilled none_ ended =>
        rcases (unstored none_).2 with unresolved | asked
        · rw [unresolved] at ended
          cases ended
        · rw [asked] at ended
          refine ⟨lookup_unfilled chain ended, fun tradeId known => ?_⟩
          rw [none_] at known
          cases known
      | unknown none_ =>
        refine ⟨trivial, fun tradeId known => ?_⟩
        rw [none_] at known
        cases known

end

/-- An account on which a market order was filled. -/
def marketAccount : Account := (AccountEvent.fillMarket "EUR_USD" true none).step {}

/-- A stop order that rests as order 1 and is then filled, as trade 2. -/
def stopAccount : Account := (AccountEvent.rest .stop "EUR_USD").step {}

def restingOrder : OrderRecord :=
  { id := 1, kind := .stop, instrument := "EUR_USD", state := .pending, fillingTransactionId := none }

def filledAccount : Account := (AccountEvent.fill restingOrder true).step stopAccount

/-- Nothing happens to the account during a lookup. -/
def Moments.still (account : Account) : Moments :=
  { pending := account, openTrades := account, closedTrades := account, order := account, closedAfter := account,
    answer := account }

def Answered.all : Answered :=
  { pending := true, openTrades := true, closedTrades := true, order := true, closedAfter := true }

theorem Moments.still_inOrder (account : Account) : (Moments.still account).InOrder account :=
  ⟨.start, .start, .start, .start, .start, .start⟩

theorem marketAccount_attempted : Attempted 50 1 marketAccount (some 1) := by
  have allowed : (AccountEvent.fillMarket "EUR_USD" true none).Allowed {} := fun _ none_ => nomatch none_
  have placed : Attempted 50 1 marketAccount none := .placed ⟨.next .start allowed⟩ ⟨_, List.mem_singleton_self _, rfl⟩
  exact .found placed (Moments.still_inOrder marketAccount)
    (by decide : lookupAttemptState 50 (.still marketAccount) .all "EUR_USD" 1 none = .ok (.openPosition 1))

theorem filledAccount_attempted : Attempted 50 1 filledAccount (some 2) := by
  have rests : (AccountEvent.rest .stop "EUR_USD").Allowed {} := (by decide : OrderKind.stop ≠ .market)
  have placed : Attempted 50 1 stopAccount none := .placed ⟨.next .start rests⟩ ⟨_, List.mem_singleton_self _, rfl⟩
  have fills : (AccountEvent.fill restingOrder true).Allowed stopAccount := ⟨List.mem_singleton_self _, rfl⟩
  exact .found (.later placed (.next .start fills)) (Moments.still_inOrder filledAccount)
    (by decide : lookupAttemptState 50 (.still filledAccount) .all "EUR_USD" 1 none = .ok (.openPosition 2))

/-- The trade of a market order is found again under the id that is stored for it. -/
theorem lookupAttemptState_truthful_market :
    lookupAttemptState 50 (.still marketAccount) .all "EUR_USD" 1 (some 1) = .ok (.openPosition 1) ∧
      TruthfulAttempt (.still marketAccount) 1 (some 1)
        (lookupAttemptState 50 (.still marketAccount) .all "EUR_USD" 1 (some 1)) := by
  refine ⟨by decide, (lookupAttemptState_truthful_iff marketAccount_attempted
    (Moments.still_inOrder marketAccount)).mpr fun tradeId known _ => .inr ?_⟩
  cases known
  exact ⟨rfl, _, List.mem_singleton_self _, rfl⟩

/-- The trade that a stop order was filled into, stored and open, is reported as cancelled. -/
theorem stop_fill_reported_cancelled :
    Attempted 50 1 filledAccount (some 2) ∧ (Moments.still filledAccount).InOrder filledAccount ∧
      filledAccount.IsOpen 2 ∧
      lookupAttemptState 50 (.still filledAccount) .all "EUR_USD" 1 (some 2) = .ok .cancelled ∧
      ¬ TruthfulAttempt (.still filledAccount) 1 (some 2)
        (lookupAttemptState 50 (.still filledAccount) .all "EUR_USD" 1 (some 2)) := by
  have live : filledAccount.IsOpen 2 := ⟨_, List.mem_singleton_self _, rfl, rfl⟩
  have cancelled : lookupAttemptState 50 (.still filledAccount) .all "EUR_USD" 1 (some 2) = .ok .cancelled := by decide
  refine ⟨filledAccount_attempted, Moments.still_inOrder filledAccount, live, cancelled, ?_⟩
  rw [cancelled]
  rintro ⟨⟨-, shut⟩, -⟩
  exact shut 2 ⟨⟨_, List.mem_singleton_self _, rfl, rfl, rfl⟩, _, List.mem_singleton_self _, rfl⟩ live

end TradeControl.Oanda
