import Mathlib.Tactic.SplitIfs
import TradeControl.CTrader.MarketEntry

namespace TradeControl.CTrader

open Foundation

/-- The volume that a detail's deals state. -/
def statedVolume (detail : Json) : Int :=
  ((array detail "deal").map fun deal => (integer deal "filledVolume").toOption.getD 0).sum

/-- The details of the client's order that are terminal state what the order has executed. -/
def Truthful (io : Transport) (clientId : String) (executed : Int) : Prop :=
  ∀ asked payload detail, io.read asked 2181 2182 payload = .ok detail →
    ((detail.field "order").field "clientOrderId").asStr = some clientId →
    isOneOf (detail.field "order") "orderStatus" terminalStatuses → statedVolume detail = executed

def Request.isNewOrder : Request → Bool
  | .mutate kind _ => kind = 2106
  | _ => false

/-- A position with the levels and within the distance that were authorized. -/
structure Authorized (terms : Terms) (positionId : Int) (row : Json) : Prop where
  id : integer row "positionId" = .ok positionId
  status : isEnum row "positionStatus" 1 "POSITION_STATUS_OPEN"
  symbol : integer (row.field "tradeData") "symbolId" = .ok terms.symbol
  side : direction (row.field "tradeData") = .ok terms.direction
  volume : integer (row.field "tradeData") "volume" = .ok terms.volume
  stop : ∃ stop, number row "stopLoss" = .ok stop ∧ |stop - terms.stop| < 1 / 10 ^ 9
  target : ∃ target, number row "takeProfit" = .ok target ∧ |target - terms.target| < 1 / 10 ^ 9
  distance : ∃ price, number row "price" = .ok price ∧
    (price - terms.stop) * sideSign terms.direction ≤ terms.maxStopDistance * (1 + 1 / 10 ^ 10)

/-- A terminal detail of the order, read on the way, that shows so much executed. -/
def DetailRead (io : Transport) (terms : Terms) (asked : List Request) (orderId : Int) (detail : Json) (filled : Int) :
    Prop :=
  (∃ earlier, earlier ++ [.read 2181 2182 (orderRequest orderId)] <+: asked ∧
    io.read earlier 2181 2182 (orderRequest orderId) = .ok detail) ∧
  terminal detail terms orderId = .ok (some filled)

/-- The last snapshot that was read holds one position of the order, new and as authorized. -/
def FillProven (io : Transport) (terms : Terms) (asked : List Request) : Prop :=
  ∃ orderId positionId detail before snapshot row,
    DetailRead io terms asked orderId detail terms.volume ∧
    integer (detail.field "order") "positionId" = .ok positionId ∧
    asked = before ++ [.read 2124 2125 snapshotRequest, .note "market-protection-readback" snapshot,
      .note "market-protection-verified" snapshot] ∧
    io.read before 2124 2125 snapshotRequest = .ok snapshot ∧
    positionRows snapshot positionId = [row] ∧ positionId ∉ terms.before ∧ Authorized terms positionId row

section
variable {io : Transport} {terms : Terms}

theorem inTime_ok {Result : Type} {answer : List Request → Except String Result} {asked : List Request}
    {value : Result} (answered : inTime io answer asked = .ok value) : answer asked = .ok value := by
  unfold inTime at answered
  split at answered
  · cases answered
  · exact mapError_ok.mp answered

section
variable {Value Result : Type} {value : Result} {asked last : List Request}

theorem checked_succeeds {result : Except String Value} {next : Value → Finalizing Result} :
    (checked result >>= next).Succeeds asked value last ↔
      ∃ held, result = .ok held ∧ (next held).Succeeds asked value last := by
  unfold checked
  simp only [Asking.succeeds_bind, Asking.succeeds_check, mapError_ok]
  constructor
  · rintro ⟨held, _, ⟨same, rfl⟩, later⟩
    exact ⟨held, same, later⟩
  · rintro ⟨held, same, later⟩
    exact ⟨held, asked, ⟨same, rfl⟩, later⟩

theorem ask_succeeds {request : Request} {answer : List Request → Except Unproven Value}
    {next : Value → Finalizing Result} :
    (Asking.ask request answer >>= next).Succeeds asked value last ↔
      ∃ held, answer asked = .ok held ∧ (next held).Succeeds (asked ++ [request]) value last := by
  simp only [Asking.succeeds_bind, Asking.succeeds_ask]
  constructor
  · rintro ⟨held, _, ⟨same, rfl⟩, later⟩
    exact ⟨held, same, later⟩
  · rintro ⟨held, same, later⟩
    exact ⟨held, _, ⟨same, rfl⟩, later⟩

theorem readIo_succeeds {kind response : Nat} {payload : Json} {next : Json → Finalizing Result}
    (run : (readIo io kind response payload >>= next).Succeeds asked value last) :
    ∃ answer, io.read asked kind response payload = .ok answer ∧
      (next answer).Succeeds (asked ++ [.read kind response payload]) value last := by
  obtain ⟨answer, answered, later⟩ := ask_succeeds.mp run
  exact ⟨answer, inTime_ok answered, later⟩

theorem mutateIo_succeeds {kind : Nat} {payload : Json} {next : Json → Finalizing Result}
    (run : (mutateIo io kind payload >>= next).Succeeds asked value last) :
    ∃ answer, (next answer).Succeeds (asked ++ [.mutate kind payload]) value last := by
  obtain ⟨answer, -, later⟩ := ask_succeeds.mp run
  exact ⟨answer, later⟩

theorem noteIo_succeeds {phase : String} {evidence : Json} {next : Unit → Finalizing Result}
    (run : (noteIo io phase evidence >>= next).Succeeds asked value last) :
    (next ()).Succeeds (asked ++ [.note phase evidence]) value last := by
  obtain ⟨_, -, later⟩ := ask_succeeds.mp run
  exact later

end

theorem countDeal_volume {order deal : Json} {id : Int} {counted counted' : List Int × Int}
    (taken : countDeal order id terms counted deal = .ok counted') :
    counted'.2 = counted.2 + (integer deal "filledVolume").toOption.getD 0 := by
  unfold countDeal at taken
  simp only [bind_ok, ensure_ok, exists_const] at taken
  obtain ⟨filled, stated, -, _, -, -, _, -, -, _, -, -, taken⟩ := taken
  rw [stated]
  change counted'.2 = counted.2 + filled
  split_ifs at taken with none_
  · cases pure_ok.mp taken
    rw [none_, add_zero]
  · simp only [bind_ok, ensure_ok, exists_const, pure_ok] at taken
    obtain ⟨-, _, -, _, -, -, _, -, -, _, -, -, -, rfl⟩ := taken
    rfl

theorem foldlM_countDeal_volume {order : Json} {id : Int} {deals : List Json} {counted last : List Int × Int}
    (taken : deals.foldlM (countDeal order id terms) counted = .ok last) :
    last.2 = counted.2 + (deals.map fun deal => (integer deal "filledVolume").toOption.getD 0).sum := by
  induction deals generalizing counted with
  | nil =>
    cases taken
    simp
  | cons deal rest ih =>
    rw [List.foldlM_cons, bind_ok] at taken
    obtain ⟨next, first, later⟩ := taken
    rw [ih later, countDeal_volume first, List.map_cons, List.sum_cons, add_assoc]

/-- A terminal detail is of the client's order, and its volume is what its deals state. -/
theorem terminal_stated {detail : Json} {id filled : Int} (ended : terminal detail terms id = .ok (some filled)) :
    ((detail.field "order").field "clientOrderId").asStr = some terms.clientId ∧
      isOneOf (detail.field "order") "orderStatus" terminalStatuses ∧ statedVolume detail = filled := by
  unfold terminal dealVolume at ended
  simp only [bind_ok, ensure_ok, exists_const] at ended
  obtain ⟨orderId, -, ⟨-, client, -⟩, -, -, -, ended⟩ := ended
  split at ended
  · cases pure_ok.mp ended
  simp only [bind_ok, ensure_ok, exists_const, pure_ok] at ended
  obtain ⟨status, -, -, volume, ⟨counted, folded, rfl⟩, ended⟩ := ended
  have total := foldlM_countDeal_volume folded
  rw [zero_add] at total
  refine ⟨client, status, total.symm.trans ?_⟩
  split at ended
  · simp only [bind_ok, ensure_ok, exists_const, pure_ok] at ended
    obtain ⟨_, -, -, -, -, -, same⟩ := ended
    exact Option.some.inj same
  · simp only [bind_ok, ensure_ok, exists_const, pure_ok] at ended
    obtain ⟨-, -, -, same⟩ := ended
    exact Option.some.inj same

/-- A refusal that is taken for one shows no execution. -/
theorem observedFill_rejection {event : Json} {observed : Int} (refused : isRejection event)
    (seen : observedFill event terms = .ok observed) : observed = 0 := by
  unfold observedFill at seen
  simp only [bind_ok, ensure_ok, exists_const, pure_ok] at seen
  obtain ⟨-, _, -, _, -, _, -, -, agrees, rfl⟩ := seen
  exact agrees.resolve_left fun accepted => accepted (.inr refused)

theorem DetailRead.grow {asked asked' : List Request} {orderId filled : Int} {detail : Json}
    (read : DetailRead io terms asked orderId detail filled) (grows : asked <+: asked') :
    DetailRead io terms asked' orderId detail filled := by
  obtain ⟨⟨earlier, before, answered⟩, ended⟩ := read
  exact ⟨⟨earlier, before.trans grows, answered⟩, ended⟩

/-- The loop ends at a detail that was read and is terminal. -/
theorem pollOrder_succeeds {id : Int} {pauses : Nat} {observed : Int} {order : Json} {filled : Int}
    {asked last : List Request}
    (polled : (pollOrder io terms id pauses observed).Succeeds asked (order, filled) last) :
    ∃ detail, DetailRead io terms last id detail filled ∧ detail.field "order" = order := by
  induction pauses generalizing observed asked with
  | zero =>
    unfold pollOrder at polled
    obtain ⟨detail, read, polled⟩ := readIo_succeeds polled
    obtain ⟨_, -, polled⟩ := checked_succeeds.mp polled
    obtain ⟨ended, terminated, polled⟩ := checked_succeeds.mp (noteIo_succeeds polled)
    obtain ⟨seen, -, polled⟩ := checked_succeeds.mp polled
    cases ended with
    | none => cases polled
    | some volume =>
      obtain ⟨_, -, polled⟩ := checked_succeeds.mp polled
      obtain ⟨same, rfl⟩ := Asking.succeeds_pure.mp polled
      cases same
      exact ⟨detail, ⟨⟨asked, List.prefix_append _ _, read⟩, terminated⟩, rfl⟩
  | succ pauses ih =>
    unfold pollOrder at polled
    obtain ⟨detail, read, polled⟩ := readIo_succeeds polled
    obtain ⟨_, -, polled⟩ := checked_succeeds.mp polled
    obtain ⟨ended, terminated, polled⟩ := checked_succeeds.mp (noteIo_succeeds polled)
    obtain ⟨seen, -, polled⟩ := checked_succeeds.mp polled
    cases ended with
    | none => exact ih polled
    | some volume =>
      obtain ⟨_, -, polled⟩ := checked_succeeds.mp polled
      obtain ⟨same, rfl⟩ := Asking.succeeds_pure.mp polled
      cases same
      exact ⟨detail, ⟨⟨asked, List.prefix_append _ _, read⟩, terminated⟩, rfl⟩

theorem position_ok {snapshot row : Json} {order id filled : Int}
    (found : position snapshot terms order id filled = .ok row) :
    positionRows snapshot id = [row] ∧ id ∉ terms.before := by
  unfold position at found
  simp only [bind_ok, ensure_ok, exists_const] at found
  obtain ⟨_, -, _, -, -, found⟩ := found
  split at found
  next only same =>
    simp only [bind_ok, ensure_ok, exists_const, pure_ok] at found
    obtain ⟨⟨-, fresh⟩, _, -, rfl⟩ := found
    exact ⟨same, fresh⟩
  · cases found

theorem isProtected_ok {row : Json} {id : Int} (proven : isProtected row terms id terms.volume = .ok ()) :
    Authorized terms id row := by
  unfold isProtected identity tradeData fillGeometry at proven
  simp only [bind_ok, ensure_ok, exists_const] at proven
  obtain ⟨⟨_, id, ⟨rfl, status⟩, ⟨_, symbol, rfl, _, side, rfl, _, volume, rfl⟩, -⟩,
    ⟨price, filledAt, -, ⟨-, distance⟩, -⟩, stop, stopAt, stopNear, target, targetAt, targetNear⟩ := proven
  exact ⟨id, status, symbol, side, volume, ⟨stop, stopAt, stopNear⟩, ⟨target, targetAt, targetNear⟩,
    ⟨price, filledAt, distance⟩⟩

theorem protectFill_succeeds {orderId filled : Int} {order : Json} {completion : Completion}
    {asked last : List Request} {detail : Json}
    (protects : (protectFill io terms orderId order filled).Succeeds asked completion last)
    (read : DetailRead io terms asked orderId detail filled) (own : detail.field "order" = order) :
    (∃ placement, completion = .filled placement) ∧ FillProven io terms last := by
  unfold protectFill at protects
  simp only [checked_succeeds, ensure_ok, exists_const] at protects
  obtain ⟨rfl, -, positionId, stated, -, protects⟩ := protects
  obtain ⟨snapshot, -, protects⟩ := readIo_succeeds protects
  obtain ⟨row, -, protects⟩ := checked_succeeds.mp protects
  obtain ⟨_, -, protects⟩ := checked_succeeds.mp (noteIo_succeeds protects)
  obtain ⟨amended, protects⟩ := mutateIo_succeeds (noteIo_succeeds protects)
  obtain ⟨_, -, protects⟩ := checked_succeeds.mp protects
  replace protects := noteIo_succeeds protects
  simp only [checked_succeeds] at protects
  obtain ⟨_, -, _, -, protects⟩ := protects
  obtain ⟨verified, readback, protects⟩ := readIo_succeeds protects
  obtain ⟨row, found, protects⟩ := checked_succeeds.mp (noteIo_succeeds protects)
  obtain ⟨_, proven, protects⟩ := checked_succeeds.mp protects
  replace protects := noteIo_succeeds protects
  obtain ⟨rfl, rfl⟩ := Asking.succeeds_pure.mp protects
  obtain ⟨only, fresh⟩ := position_ok found
  refine ⟨⟨_, rfl⟩, orderId, positionId, detail, _, verified, row, ?_, own ▸ stated, ?_, readback, only, fresh,
    isProtected_ok proven⟩
  · refine read.grow ?_
    simp only [List.append_assoc]
    exact List.prefix_append _ _
  · simp only [List.append_assoc, List.cons_append, List.nil_append]

/-- A proof that comes to an end has found the fill protected, a refusal, or nothing executed. -/
theorem finalize_succeeds {event : Json} {completion : Completion} {asked last : List Request}
    (finalized : (finalize io terms event).Succeeds asked completion last) :
    (∃ placement, completion = .filled placement) ∧ FillProven io terms last ∨
      (∃ reason, completion = .rejected reason) ∧
        (isRejection event ∧ observedFill event terms = .ok 0 ∨
          ∃ orderId detail, DetailRead io terms last orderId detail 0) := by
  unfold finalize at finalized
  obtain ⟨_, -, finalized⟩ := checked_succeeds.mp finalized
  obtain ⟨observed, seen, finalized⟩ := checked_succeeds.mp (noteIo_succeeds finalized)
  split at finalized
  next refused =>
    obtain ⟨_, -, finalized⟩ := checked_succeeds.mp finalized
    obtain ⟨rfl, -⟩ := Asking.succeeds_pure.mp finalized
    exact .inr ⟨⟨_, rfl⟩, .inl ⟨refused, observedFill_rejection refused seen ▸ seen⟩⟩
  next =>
    obtain ⟨id, -, finalized⟩ := checked_succeeds.mp finalized
    obtain ⟨_, -, finalized⟩ := checked_succeeds.mp finalized
    obtain ⟨⟨order, filled⟩, middle, polled, finalized⟩ := Asking.succeeds_bind.mp finalized
    obtain ⟨detail, read, own⟩ := pollOrder_succeeds polled
    dsimp only at finalized
    split at finalized
    next nothing =>
      obtain ⟨rfl, rfl⟩ := Asking.succeeds_pure.mp finalized
      exact .inr ⟨⟨_, rfl⟩, .inr ⟨id, detail, nothing ▸ read⟩⟩
    next => exact .inl (protectFill_succeeds finalized read own)

end

end TradeControl.CTrader
