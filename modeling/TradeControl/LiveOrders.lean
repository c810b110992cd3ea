import TradeControl.Quiet

namespace TradeControl

open Foundation

theorem Book.order_eq_some {book : Book} {id : Nat} {order : BrokerOrder} :
    book.order id = some order ↔ order ∈ book.orders ∧ order.id = id := by
  unfold Book.order
  constructor
  · intro found
    exact ⟨List.mem_of_find?_eq_some found, by simpa using List.find?_some found⟩
  · rintro ⟨member, rfl⟩
    cases found : book.orders.find? (·.id == order.id) with
    | none => simpa using List.find?_eq_none.mp found order member
    | some other =>
      have same : other.id = order.id := by simpa using List.find?_some found
      rw [List.inj_on_of_nodup_map book.distinct (List.mem_of_find?_eq_some found) member same]

theorem Book.order_rewrite (book : Book) (change : BrokerOrder → BrokerOrder)
    (keepsId : ∀ order, (change order).id = order.id) (id : Nat) :
    (book.rewrite change keepsId).order id = (book.order id).map change := by
  have same : (fun order => (change order).id == id) = fun order => order.id == id :=
    funext fun order => by rw [keepsId]
  simp only [Book.order, Book.rewrite, List.find?_map]
  exact congrArg (fun rule => (book.orders.find? rule).map change) same


/-- An order that keeps its identity and does not come alive. -/
structure BrokerOrder.Fades (old new : BrokerOrder) : Prop where
  id : new.id = old.id
  setup : new.setup = old.setup
  live : new.live → old.live

theorem BrokerOrder.Fades.refl (order : BrokerOrder) : order.Fades order := ⟨rfl, rfl, fun alive => alive⟩

theorem BrokerOrder.Fades.trans (a b c : BrokerOrder) (first : a.Fades b) (second : b.Fades c) :
    a.Fades c :=
  ⟨second.id.trans first.id, second.setup.trans first.setup, fun alive => first.live (second.live alive)⟩

theorem BrokerOrder.Settles.fades {old new : BrokerOrder} (settles : old.Settles new) : old.Fades new :=
  ⟨settles.id, settles.setup, settles.live_before⟩

/-- No order is placed and every attempt row goes on naming its order. -/
structure World.Calm (before after : World) : Prop where
  orders : Retouched BrokerOrder.Fades before.book.orders after.book.orders
  nextId : after.book.nextId = before.book.nextId
  attempts : ∀ tradeId, Retouched EntryAttempt.SameOrder (before.store.attempts tradeId)
    (after.store.attempts tradeId)

theorem World.Calm.refl (world : World) : world.Calm world where
  orders := .refl BrokerOrder.Fades.refl _
  nextId := rfl
  attempts := fun _ => .refl EntryAttempt.SameOrder.refl _

theorem World.Calm.trans {a b c : World} (first : a.Calm b) (second : b.Calm c) : a.Calm c where
  orders := first.orders.trans BrokerOrder.Fades.trans second.orders
  nextId := second.nextId.trans first.nextId
  attempts := fun tradeId =>
    (first.attempts tradeId).trans EntryAttempt.SameOrder.trans (second.attempts tradeId)

theorem World.Quiet.calm {before after : World} (quiet : before.Quiet after) : before.Calm after where
  orders := quiet.orders.imp fun _ within => ⟨fun order => (within.1 order).fades, within.2⟩
  nextId := quiet.nextId
  attempts := quiet.attempts

/-- Attempt rows and broker agree: every live order is named by a row of its trade, a row
names orders of its own trade only, and no trade has two live orders. -/
structure World.Sound (world : World) : Prop where
  named : ∀ order ∈ world.book.orders, order.live →
    ∃ row ∈ world.store.attempts order.setup, row.brokerOrderId = order.id
  owned : ∀ tradeId, ∀ row ∈ world.store.attempts tradeId, ∀ order ∈ world.book.orders,
    order.id = row.brokerOrderId → order.setup = tradeId
  issued : ∀ tradeId, ∀ row ∈ world.store.attempts tradeId, row.brokerOrderId < world.book.nextId
  single : ∀ a ∈ world.book.orders, ∀ b ∈ world.book.orders, a.live → b.live → a.setup = b.setup →
    a.id = b.id

theorem World.Sound.empty : World.Sound {} where
  named := by intro order member; cases member
  owned := by intro tradeId row member; cases member
  issued := by intro tradeId row member; cases member
  single := by intro a member; cases member

/-- Where at most one order of a trade is live, its list of live orders says so. -/
theorem World.Sound.liveOrders_le_one {world : World} (sound : world.Sound) (tradeId : String) :
    (world.book.liveOrders tradeId).length ≤ 1 := by
  have distinct : ((world.book.liveOrders tradeId).map (·.id)).Nodup :=
    world.book.distinct.sublist (List.filter_sublist.map _)
  match found : world.book.liveOrders tradeId with
  | [] => exact Nat.zero_le _
  | [_] => exact le_rfl
  | a :: b :: rest =>
    have liveIn : ∀ order ∈ world.book.liveOrders tradeId,
        order ∈ world.book.orders ∧ order.setup = tradeId ∧ order.live := by
      intro order member
      simpa [Book.liveOrders] using member
    obtain ⟨inA, setupA, liveA⟩ := liveIn a (by simp [found])
    obtain ⟨inB, setupB, liveB⟩ := liveIn b (by simp [found])
    have same := sound.single a inA b inB liveA liveB (setupA.trans setupB.symm)
    rw [found] at distinct
    simp [same] at distinct

theorem World.Sound.calm {before after : World} (sound : before.Sound) (calm : before.Calm after) :
    after.Sound where
  named := by
    intro order member alive
    obtain ⟨old, present, fades⟩ := calm.orders.mem_after member
    obtain ⟨row, listed, names⟩ := sound.named old present (fades.live alive)
    obtain ⟨row', listed', _, _, rfl⟩ := (calm.attempts old.setup).mem_before listed
    rw [fades.setup, fades.id]
    exact ⟨_, listed', names⟩
  owned := by
    intro tradeId row listed order member same
    obtain ⟨old, present, fades⟩ := calm.orders.mem_after member
    obtain ⟨row', listed', _, _, rfl⟩ := (calm.attempts tradeId).mem_after listed
    rw [fades.setup]
    exact sound.owned tradeId row' listed' old present (by rw [← fades.id, same])
  issued := by
    intro tradeId row listed
    obtain ⟨row', listed', _, _, rfl⟩ := (calm.attempts tradeId).mem_after listed
    rw [calm.nextId]
    exact sound.issued tradeId row' listed'
  single := by
    intro a memberA b memberB aliveA aliveB same
    obtain ⟨oldA, presentA, fadesA⟩ := calm.orders.mem_after memberA
    obtain ⟨oldB, presentB, fadesB⟩ := calm.orders.mem_after memberB
    rw [fadesA.id, fadesB.id]
    exact sound.single oldA presentA oldB presentB (fadesA.live aliveA) (fadesB.live aliveB)
      (by rw [← fadesA.setup, ← fadesB.setup, same])

/-- No order of this trade is live. -/
def World.NoneLive (world : World) (tradeId : String) : Prop :=
  ∀ order ∈ world.book.orders, order.setup = tradeId → ¬ order.live

theorem World.NoneLive.calm {before after : World} {tradeId : String} (idle : before.NoneLive tradeId)
    (calm : before.Calm after) : after.NoneLive tradeId := by
  intro order member setup alive
  obtain ⟨old, present, fades⟩ := calm.orders.mem_after member
  exact idle old present (fades.setup.symm.trans setup) (fades.live alive)

end TradeControl
