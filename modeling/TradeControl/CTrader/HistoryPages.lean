import TradeControl.CTrader.Wire
import TradeControl.Foundation.Paging

namespace TradeControl.CTrader

open Foundation

/-! The two walks through a broker's history, which comes in pages with the newest rows first. -/

mutual
/-- `==` of two values. -/
def Json.beq : Json → Json → Bool
  | .null, .null => true
  | .bool one, .bool other => one == other
  | .whole one, .whole other => one == other
  | .decimal one, .decimal other => one == other
  | .text one, .text other => one == other
  | .array items, .array others => Json.beqItems items others
  | .object fields, .object others => Json.beqFields fields others
  | _, _ => false

def Json.beqItems : List Json → List Json → Bool
  | [], [] => true
  | item :: items, other :: others => item.beq other && Json.beqItems items others
  | _, _ => false

def Json.beqFields : List (String × Json) → List (String × Json) → Bool
  | [], [] => true
  | (key, value) :: fields, (key', value') :: others =>
    key == key' && value.beq value' && Json.beqFields fields others
  | _, _ => false
end

mutual
theorem Json.eq_of_beq : ∀ {one other : Json}, one.beq other = true → one = other
  | .null, other, same => by cases other <;> simp_all [Json.beq]
  | .bool _, other, same => by cases other <;> simp_all [Json.beq]
  | .whole _, other, same => by cases other <;> simp_all [Json.beq]
  | .decimal _, other, same => by cases other <;> simp_all [Json.beq]
  | .text _, other, same => by cases other <;> simp_all [Json.beq]
  | .array items, other, same => by
    cases other with
    | array others =>
      unfold Json.beq at same
      exact congrArg Json.array (Json.items_eq_of_beq same)
    | null | bool | whole | decimal | text | object => simp [Json.beq] at same
  | .object fields, other, same => by
    cases other with
    | object others =>
      unfold Json.beq at same
      exact congrArg Json.object (Json.fields_eq_of_beq same)
    | null | bool | whole | decimal | text | array => simp [Json.beq] at same

theorem Json.items_eq_of_beq : ∀ {items others : List Json}, Json.beqItems items others = true → items = others
  | [], others, same => by cases others <;> simp_all [Json.beqItems]
  | item :: items, others, same => by
    cases others with
    | nil => simp [Json.beqItems] at same
    | cons other rest =>
      unfold Json.beqItems at same
      obtain ⟨first, later⟩ := Bool.and_eq_true_iff.mp same
      rw [Json.eq_of_beq first, Json.items_eq_of_beq later]

theorem Json.fields_eq_of_beq : ∀ {fields others : List (String × Json)},
    Json.beqFields fields others = true → fields = others
  | [], others, same => by cases others <;> simp_all [Json.beqFields]
  | (key, value) :: fields, others, same => by
    cases others with
    | nil => simp [Json.beqFields] at same
    | cons other rest =>
      obtain ⟨key', value'⟩ := other
      unfold Json.beqFields at same
      obtain ⟨first, later⟩ := Bool.and_eq_true_iff.mp same
      obtain ⟨names, values⟩ := Bool.and_eq_true_iff.mp first
      rw [beq_iff_eq.mp names, Json.eq_of_beq values, Json.fields_eq_of_beq later]
end

mutual
theorem Json.beq_self : ∀ value : Json, value.beq value = true
  | .null => by simp [Json.beq]
  | .bool _ => by simp [Json.beq]
  | .whole _ => by simp [Json.beq]
  | .decimal _ => by simp [Json.beq]
  | .text _ => by simp [Json.beq]
  | .array items => by
    unfold Json.beq
    exact Json.beqItems_self items
  | .object fields => by
    unfold Json.beq
    exact Json.beqFields_self fields

theorem Json.beqItems_self : ∀ items : List Json, Json.beqItems items items = true
  | [] => by simp [Json.beqItems]
  | item :: items => by
    unfold Json.beqItems
    rw [Json.beq_self item, Json.beqItems_self items]
    rfl

theorem Json.beqFields_self : ∀ fields : List (String × Json), Json.beqFields fields fields = true
  | [] => by simp [Json.beqFields]
  | (key, value) :: fields => by
    unfold Json.beqFields
    rw [Json.beq_self value, Json.beqFields_self fields, beq_self_eq_true]
    rfl
end

instance : DecidableEq Json := fun one other =>
  decidable_of_iff (one.beq other = true) ⟨Json.eq_of_beq, fun same => same ▸ Json.beq_self one⟩

/-- `BTreeMap::insert` on the map's entries in key order. -/
def putRow (id : Int) (row : Json) : List (Int × Json) → List (Int × Json)
  | [] => [(id, row)]
  | (other, held) :: rest =>
    if id < other then (id, row) :: (other, held) :: rest
    else if id = other then (id, row) :: rest
    else (other, held) :: putRow id row rest

/-- The field that a row of this kind is told by. -/
def idKey (key : String) : String := if key = "deal" then "dealId" else "orderId"

/-- A row's id; without one, the zero it is sorted under. -/
def rowId (key : String) (row : Json) : Int := (integer row (idKey key)).toOption.getD 0

def rowTime (timeKey : String) (row : Json) : Int := (integer row timeKey).toOption.getD 0

section
variable (read : Nat → Int → Except String Json) (key timeKey : String)

def positionHistoryFrom : Nat → Nat → Int → List Json → Except String (List Json)
  | 0, _, _, _ => .error "cTrader position history pagination limit"
  | fuel + 1, count, asked, result => do
    let data ← read count asked
    arrayShape data key
    let rows := array data key
    let times ← rows.mapM fun row => integer row timeKey
    let more ← required (data.field "hasMore").asBool "cTrader position history missing hasMore"
    if !more then return mergeBy (rowId key) (result ++ rows)
    else do
      let oldest ← required times.min? "cTrader position history hasMore with no rows"
      ensure (oldest < asked ∧ count < 999)
        "cTrader position history pagination stalled; refusing incomplete history"
      positionHistoryFrom fuel (count + 1) oldest (result ++ rows)

/-- `position_history`: `read` answers the request of a number for the interval that ends at a stamp. -/
def positionHistory (now : Int) : Except String (List Json) :=
  positionHistoryFrom read key timeKey 1000 0 now []

variable (first : Int)

/-- One row of a page: into the map, and the oldest stamp so far. -/
def takeRow (asked : Int) (taken : List (Int × Json) × Int) (row : Json) :
    Except String (List (Int × Json) × Int) := do
  let time ← integer row timeKey
  ensure (first ≤ time ∧ time ≤ asked) "history outside requested interval"
  let id ← integer row (idKey key)
  ensure ((taken.1.lookup id).all fun previous => decide (previous = row)) "conflicting broker history duplicate"
  return (putRow id row taken.1, min taken.2 time)

def pagesFrom : Nat → Nat → Int → List (Int × Json) → Except String (List Json)
  | 0, _, _, _ => .error "history pagination limit reached"
  | fuel + 1, count, asked, result => do
    let data ← read count asked
    arrayShape data key
    let rows := array data key
    let (result, oldest) ← rows.foldlM (takeRow key timeKey first asked) (result, asked)
    let more ← required (data.field "hasMore").asBool "history completeness missing"
    if !more then return result.map (·.2)
    else do
      ensure (rows ≠ [] ∧ oldest < asked) "history pagination stalled; refusing incomplete history"
      pagesFrom fuel (count + 1) oldest result

/-- `pages`. -/
def pages (last : Int) : Except String (List Json) := pagesFrom read key timeKey first 1000 0 last []

end

/-- The page that a request is answered with, if it is answered. -/
def answeredPage (read : Nat → Int → Except String Json) (key : String) (count : Nat) (asked : Int) :
    Option (Page Json) :=
  match read count asked with
  | .error _ => none
  | .ok data => (data.field "hasMore").asBool.map fun more => { rows := array data key, more }

/-- A broker that answers each request with the newest rows of its interval, of those it has then. -/
def HonestBroker (read : Nat → Int → Except String Json) (key timeKey : String) (first : Int)
    (stored : Nat → List Json) : Prop :=
  AnswersNewest (rowTime timeKey) first (answeredPage read key) stored

section
variable {read : Nat → Int → Except String Json} {key timeKey : String} {first asked last : Int} {data : Json}
  {rows result earlier : List Json} {entries : List (Int × Json)} {count : Nat} {row : Json}

theorem answeredPage_of_read {more : Bool} (reply : read count asked = .ok data)
    (told : (data.field "hasMore").asBool = some more) :
    answeredPage read key count asked = some { rows := array data key, more } := by
  unfold answeredPage
  rw [reply]
  dsimp only
  rw [told]
  rfl

theorem rowTime_of_integer {time : Int} (read : integer row timeKey = .ok time) : rowTime timeKey row = time := by
  unfold rowTime
  rw [read]
  rfl

theorem rowId_of_integer {id : Int} (read : integer row (idKey key) = .ok id) : rowId key row = id := by
  unfold rowId
  rw [read]
  rfl

theorem mapM_times {times : List Int} (read : rows.mapM (fun row => integer row timeKey) = .ok times) :
    times = rows.map (rowTime timeKey) := by
  induction rows generalizing times with
  | nil =>
    cases read
    rfl
  | cons row rest ih =>
    simp only [List.mapM_cons, bind_ok, pure_ok] at read
    obtain ⟨time, first, others, later, rfl⟩ := read
    rw [List.map_cons, rowTime_of_integer first, ih later]

/-- The walk through a position's history ends at its last page, and merges all of them. -/
theorem positionHistoryFrom_ok {fuel : Nat} (known : askedEnd (rowTime timeKey) last (answeredPage read key) count =
      some asked)
    (taken : collected (rowTime timeKey) last (answeredPage read key) count = earlier)
    (ok : positionHistoryFrom read key timeKey fuel count asked earlier = .ok rows) :
    ∃ ended, EndsAt (rowTime timeKey) last (answeredPage read key) ended ∧
      rows = mergeBy (rowId key) (collected (rowTime timeKey) last (answeredPage read key) (ended + 1)) := by
  induction fuel generalizing count asked earlier with
  | zero => cases ok
  | succ fuel ih =>
    unfold positionHistoryFrom at ok
    simp only [bind_ok] at ok
    obtain ⟨data, reply, -, -, times, stamped, more, told, rest⟩ := ok
    have page : answeredPage read key count asked = some { rows := array data key, more } :=
      answeredPage_of_read reply (required_ok.mp told)
    have here := answered_of_asked known page
    cases more with
    | false =>
      refine ⟨count, ⟨asked, _, known, page, rfl⟩, ?_⟩
      rw [collected_succ, taken, here]
      exact (pure_ok.mp rest).symm
    | true =>
      simp only [Bool.not_true, Bool.false_eq_true, if_false, bind_ok, ensure_ok] at rest
      obtain ⟨oldest, found, -, ⟨before, -⟩, later⟩ := rest
      have next : askedEnd (rowTime timeKey) last (answeredPage read key) (count + 1) = some oldest := by
        rw [askedEnd_onward known page]
        unfold nextEnd
        rw [if_pos rfl, ← mapM_times stamped, required_ok.mp found]
        exact Option.filter_some_pos (decide_eq_true before)
      refine ih next ?_ later
      rw [collected_succ, taken, here]

/-- The map's entries are in key order, each under its row's id, and hold these rows. -/
structure RowMap (key : String) (entries : List (Int × Json)) (rows : List Json) : Prop where
  ordered : entries.Pairwise fun one other => one.1 < other.1
  named : ∀ entry ∈ entries, integer entry.2 (idKey key) = .ok entry.1
  values : ∀ row, row ∈ entries.map (·.2) ↔ row ∈ rows

theorem mem_putRow {id : Int} {entry : Int × Json} (member : entry ∈ putRow id row entries) :
    entry = (id, row) ∨ entry ∈ entries := by
  induction entries with
  | nil => exact .inl (List.mem_singleton.mp member)
  | cons held rest ih =>
    obtain ⟨other, value⟩ := held
    unfold putRow at member
    split at member
    · exact List.mem_cons.mp member
    · split at member
      · exact (List.mem_cons.mp member).imp_right (List.mem_cons_of_mem _)
      · rcases List.mem_cons.mp member with rfl | later
        · exact .inr List.mem_cons_self
        · exact (ih later).imp_right (List.mem_cons_of_mem _)

theorem putRow_self (id : Int) (row : Json) (entries : List (Int × Json)) : (id, row) ∈ putRow id row entries := by
  induction entries with
  | nil => exact List.mem_cons_self
  | cons held rest ih =>
    obtain ⟨other, value⟩ := held
    unfold putRow
    split
    · exact List.mem_cons_self
    · split
      · exact List.mem_cons_self
      · exact List.mem_cons_of_mem _ ih

theorem putRow_other {id : Int} {entry : Int × Json} (member : entry ∈ entries) (differ : entry.1 ≠ id) :
    entry ∈ putRow id row entries := by
  induction entries with
  | nil => cases member
  | cons held rest ih =>
    obtain ⟨other, value⟩ := held
    unfold putRow
    rcases List.mem_cons.mp member with rfl | later
    · split
      · exact List.mem_cons_of_mem _ List.mem_cons_self
      · rw [if_neg differ.symm]
        exact List.mem_cons_self
    · split
      · exact List.mem_cons_of_mem _ (List.mem_cons_of_mem _ later)
      · split
        · exact List.mem_cons_of_mem _ later
        · exact List.mem_cons_of_mem _ (ih later)

theorem putRow_ordered {id : Int} (ordered : entries.Pairwise fun one other => one.1 < other.1) :
    (putRow id row entries).Pairwise fun one other => one.1 < other.1 := by
  induction entries with
  | nil => exact List.pairwise_singleton _ _
  | cons held rest ih =>
    obtain ⟨other, value⟩ := held
    obtain ⟨least, later⟩ := List.pairwise_cons.mp ordered
    unfold putRow
    split
    · next before =>
      refine List.pairwise_cons.mpr ⟨fun entry member => ?_, ordered⟩
      rcases List.mem_cons.mp member with rfl | inRest
      · exact before
      · exact before.trans (least entry inRest)
    · next notBefore =>
      split
      · next same =>
        subst same
        exact List.pairwise_cons.mpr ⟨least, later⟩
      · next differ =>
        refine List.pairwise_cons.mpr ⟨fun entry member => ?_, ih later⟩
        rcases mem_putRow member with rfl | inRest
        · dsimp only
          omega
        · exact least entry inRest

/-- In key order, an entry is what its key is looked up as. -/
theorem lookup_of_mem {id : Int} (ordered : entries.Pairwise fun one other => one.1 < other.1)
    (member : (id, row) ∈ entries) : entries.lookup id = some row := by
  induction entries with
  | nil => cases member
  | cons held rest ih =>
    obtain ⟨other, value⟩ := held
    obtain ⟨least, later⟩ := List.pairwise_cons.mp ordered
    rw [List.lookup_cons]
    rcases List.mem_cons.mp member with same | inRest
    · cases same
      rw [beq_self_eq_true]
    · have differ : (id == other) = false := beq_eq_false_iff_ne.mpr (least _ inRest).ne'
      rw [differ]
      exact ih later inRest

theorem RowMap.put (held : RowMap key entries rows) {id : Int} (own : integer row (idKey key) = .ok id)
    (agrees : (entries.lookup id).all fun previous => decide (previous = row)) :
    RowMap key (putRow id row entries) (rows ++ [row]) where
  ordered := putRow_ordered held.ordered
  named entry member := by
    rcases mem_putRow member with rfl | old
    · exact own
    · exact held.named entry old
  values other := by
    rw [List.mem_append, List.mem_singleton, ← held.values]
    constructor
    · intro member
      obtain ⟨entry, present, rfl⟩ := List.mem_map.mp member
      rcases mem_putRow present with rfl | old
      · exact .inr rfl
      · exact .inl (List.mem_map_of_mem old)
    · rintro (member | rfl)
      · obtain ⟨entry, present, rfl⟩ := List.mem_map.mp member
        by_cases same : entry.1 = id
        · have kept : entries.lookup id = some entry.2 := by
            rw [← same]
            exact lookup_of_mem held.ordered present
          rw [kept] at agrees
          rw [of_decide_eq_true agrees]
          exact List.mem_map_of_mem (putRow_self id row entries)
        · exact List.mem_map_of_mem (putRow_other present same)
      · exact List.mem_map_of_mem (putRow_self id other entries)

theorem RowMap.nodup (held : RowMap key entries rows) : ((entries.map (·.2)).map (rowId key)).Nodup := by
  have names : (entries.map (·.2)).map (rowId key) = entries.map (·.1) := by
    rw [List.map_map]
    exact List.map_congr_left fun entry member => rowId_of_integer (held.named entry member)
  rw [names, List.nodup_iff_pairwise_ne, List.pairwise_map]
  exact held.ordered.imp ne_of_lt

/-- What the rows of one page leave: their map, and their oldest stamp. -/
theorem takeRows_ok {taken : List (Int × Json) × Int} {oldest : Int} (held : RowMap key entries earlier)
    (ok : rows.foldlM (takeRow key timeKey first asked) (entries, oldest) = .ok taken) :
    RowMap key taken.1 (earlier ++ rows) ∧ taken.2 ≤ oldest ∧
      (∀ row ∈ rows, taken.2 ≤ rowTime timeKey row) ∧
      (taken.2 = oldest ∨ ∃ row ∈ rows, rowTime timeKey row = taken.2) := by
  induction rows generalizing entries earlier oldest with
  | nil =>
    cases ok
    rw [List.append_nil]
    exact ⟨held, le_rfl, fun _ member => (by cases member), .inl rfl⟩
  | cons row rest ih =>
    rw [List.foldlM_cons, bind_ok] at ok
    obtain ⟨next, turn, others⟩ := ok
    unfold takeRow at turn
    simp only [bind_ok, ensure_ok, pure_ok, exists_const] at turn
    obtain ⟨time, stamp, -, id, own, agrees, rfl⟩ := turn
    obtain ⟨after, least, each, attained⟩ := ih (held.put own agrees) others
    have stamped := rowTime_of_integer stamp
    refine ⟨?_, least.trans (min_le_left _ _), ?_, ?_⟩
    · rwa [List.append_cons]
    · intro other member
      rcases List.mem_cons.mp member with rfl | later
      · rw [stamped]
        exact least.trans (min_le_right _ _)
      · exact each other later
    · rcases attained with same | ⟨found, member, same⟩
      · rcases min_choice oldest time with kept | lowered
        · exact .inl (same.trans kept)
        · exact .inr ⟨row, List.mem_cons_self, stamped.trans (same.trans lowered).symm⟩
      · exact .inr ⟨found, List.mem_cons_of_mem _ member, same⟩

/-- The walk through an account's history ends at its last page, with one row for each id of all of them. -/
theorem pagesFrom_ok {fuel : Nat} (known : askedEnd (rowTime timeKey) last (answeredPage read key) count =
      some asked)
    (taken : RowMap key entries (collected (rowTime timeKey) last (answeredPage read key) count))
    (ok : pagesFrom read key timeKey first fuel count asked entries = .ok rows) :
    ∃ ended, EndsAt (rowTime timeKey) last (answeredPage read key) ended ∧
      (rows.map (rowId key)).Nodup ∧
        ∀ row, row ∈ rows ↔ row ∈ collected (rowTime timeKey) last (answeredPage read key) (ended + 1) := by
  induction fuel generalizing count asked entries with
  | zero => cases ok
  | succ fuel ih =>
    unfold pagesFrom at ok
    simp only [bind_ok] at ok
    obtain ⟨data, reply, -, -, ⟨next, oldest⟩, turns, more, told, rest⟩ := ok
    have page : answeredPage read key count asked = some { rows := array data key, more } :=
      answeredPage_of_read reply (required_ok.mp told)
    have here : answered (rowTime timeKey) last (answeredPage read key) count = array data key :=
      answered_of_asked known page
    obtain ⟨after, -, least, attained⟩ := takeRows_ok taken turns
    rw [← here, ← collected_succ] at after
    cases more with
    | false =>
      cases pure_ok.mp rest
      exact ⟨count, ⟨asked, _, known, page, rfl⟩, after.nodup, after.values⟩
    | true =>
      simp only [Bool.not_true, Bool.false_eq_true, if_false, bind_ok, ensure_ok] at rest
      obtain ⟨-, ⟨-, before⟩, later⟩ := rest
      have stamped : ((array data key).map (rowTime timeKey)).min? = some oldest := by
        refine List.min?_eq_some_iff.mpr ⟨?_, ?_⟩
        · rcases attained with same | ⟨row, member, same⟩
          · exact absurd same before.ne
          · exact List.mem_map.mpr ⟨row, member, same⟩
        · intro time member
          obtain ⟨row, present, rfl⟩ := List.mem_map.mp member
          exact least row present
      have onward : askedEnd (rowTime timeKey) last (answeredPage read key) (count + 1) = some oldest := by
        rw [askedEnd_onward known page]
        unfold nextEnd
        rw [if_pos rfl, stamped]
        exact Option.filter_some_pos (decide_eq_true before)
      exact ih onward after later

end

def money (v : Json) (key : String) : Except String Rat := do
  let digits ← integer v "moneyDigits"
  ensure (0 ≤ digits ∧ digits ≤ 12) s!"invalid cTrader moneyDigits {digits}"
  let amount ← number v key
  return amount / 10 ^ digits.toNat

/-- A position that is closed whole; its prices are the mean of its closing deals'. -/
structure Closed where
  deals : List Json
  volume : Rat
  net : Option Rat
  swap : Rat
  entry : Rat
  exit : Rat
  closedAt : Int

structure ClosingTotals where
  swap : Rat := 0
  entry : Rat := 0
  exit : Rat := 0
  last : Int := 0

def addClosing (totals : ClosingTotals) (deal : Json) : Except String ClosingTotals := do
  let detail := deal.field "closePositionDetail"
  let quantity ← number detail "closedVolume"
  let financing ← money detail "swap"
  let entryPrice ← number detail "entryPrice"
  let executionPrice ← number deal "executionPrice"
  let time ← integer deal "executionTimestamp"
  return {
    swap := totals.swap + financing
    entry := totals.entry + entryPrice * quantity
    exit := totals.exit + executionPrice * quantity
    last := max totals.last time }

/-- The deals that were filled, in part or whole. -/
def filledDeals (deals : List Json) : List Json :=
  deals.filter fun deal =>
    isEnum deal "dealStatus" 2 "FILLED" ∨ isEnum deal "dealStatus" 3 "PARTIALLY_FILLED"

def openingDeals (deals : List Json) : List Json :=
  (filledDeals deals).filter fun deal => (deal.get? "closePositionDetail").isNone

def closingDeals (deals : List Json) : List Json :=
  (filledDeals deals).filter fun deal => (deal.get? "closePositionDetail").isSome

def closed (deals : List Json) : Except String (Option Closed) := do
  let opened ← (openingDeals deals).mapM fun deal => integer deal "filledVolume"
  let volumes ← (closingDeals deals).mapM fun deal => integer (deal.field "closePositionDetail") "closedVolume"
  if opened.sum ≤ 0 ∨ volumes.sum ≠ opened.sum then return none
  else do
    let totals ← (closingDeals deals).foldlM addClosing {}
    return some {
      deals := closingDeals deals
      volume := volumes.sum / 100
      net := none
      swap := totals.swap
      entry := totals.entry / volumes.sum
      exit := totals.exit / volumes.sum
      closedAt := totals.last }

theorem closed_deals {deals : List Json} {found : Closed} (ok : closed deals = .ok (some found)) :
    found.deals = closingDeals deals := by
  unfold closed at ok
  simp only [bind_ok] at ok
  obtain ⟨opened, -, volumes, -, rest⟩ := ok
  split at rest
  · cases rest
  · simp only [bind_ok, pure_ok] at rest
    obtain ⟨totals, -, same⟩ := rest
    cases same
    rfl

/-- Every row of the interval once: none missing, no id twice, and no closing deal counted twice. -/
structure ExactlyOnce (key timeKey : String) (first last : Int) (stored : Nat → List Json) (rows : List Json) :
    Prop where
  once : (rows.map (rowId key)).Nodup
  complete : CompleteFor (rowTime timeKey) (rowId key) first last stored rows
  counted : ∀ found, closed rows = .ok (some found) → (found.deals.map (rowId key)).Nodup

section
variable {read : Nat → Int → Except String Json} {key timeKey : String} {first last : Int}
  {stored : Nat → List Json} {rows : List Json}

theorem exactlyOnce_iff : ExactlyOnce key timeKey first last stored rows ↔
    (rows.map (rowId key)).Nodup ∧ CompleteFor (rowTime timeKey) (rowId key) first last stored rows := by
  constructor
  · exact fun whole => ⟨whole.once, whole.complete⟩
  · rintro ⟨once, complete⟩
    refine ⟨once, complete, fun found ok => ?_⟩
    rw [closed_deals ok]
    exact once.sublist ((List.filter_sublist.trans List.filter_sublist).map _)

/-- No row that two pages hold has changed in between. -/
def UnchangedWhenReread (read : Nat → Int → Except String Json) (key timeKey : String) (last : Int)
    (count : Nat) : Prop :=
  ∀ one ∈ collected (rowTime timeKey) last (answeredPage read key) (count + 1),
    ∀ other ∈ collected (rowTime timeKey) last (answeredPage read key) (count + 1),
      rowId key one = rowId key other → one = other

theorem completeFor_congr {others : List Json} (same : ∀ row, row ∈ rows ↔ row ∈ others) :
    CompleteFor (rowTime timeKey) (rowId key) first last stored rows ↔
      CompleteFor (rowTime timeKey) (rowId key) first last stored others := by
  unfold CompleteFor
  simp only [same]

/-- A position's history that is read through is whole exactly if no row changed between two pages that hold it
and none was stamped past the last page before it was read; an account's, if none was stamped so. No account's
history holds an id twice, and in a steady one no row is stamped so. -/
theorem history_exactlyOnce_iff :
    (HonestBroker read key timeKey 0 stored → ∀ rows, positionHistory read key timeKey last = .ok rows →
      (ExactlyOnce key timeKey 0 last stored rows ↔
        ∀ count, EndsAt (rowTime timeKey) last (answeredPage read key) count →
          UnchangedWhenReread read key timeKey last count ∧
            Reached (rowTime timeKey) (rowId key) 0 last (answeredPage read key) stored count)) ∧
      (HonestBroker read key timeKey first stored → ∀ rows, pages read key timeKey first last = .ok rows →
        (rows.map (rowId key)).Nodup ∧
          (ExactlyOnce key timeKey first last stored rows ↔
            ∀ count, EndsAt (rowTime timeKey) last (answeredPage read key) count →
              Reached (rowTime timeKey) (rowId key) first last (answeredPage read key) stored count)) ∧
      (HonestBroker read key timeKey first stored →
        Steady (rowTime timeKey) (rowId key) first last (answeredPage read key) stored →
          ∀ count, Reached (rowTime timeKey) (rowId key) first last (answeredPage read key) stored count) := by
  refine ⟨fun honest rows ok => ?_, fun honest rows ok => ?_, fun honest steady count => ?_⟩
  · obtain ⟨ended, ends, rfl⟩ := positionHistoryFrom_ok rfl rfl ok
    rw [exactlyOnce_iff, mergeBy_nodup_iff, completeFor_congr fun _ => mem_mergeBy, ends.complete_iff honest]
    constructor
    · rintro whole count again
      cases ends.unique again
      exact whole
    · exact fun whole => whole ended ends
  · have none : RowMap key [] [] := ⟨.nil, fun _ member => (by cases member), fun _ => Iff.rfl⟩
    obtain ⟨ended, ends, once, same⟩ := pagesFrom_ok rfl none ok
    refine ⟨once, ?_⟩
    rw [exactlyOnce_iff, and_iff_right once, completeFor_congr same, ends.complete_iff honest]
    constructor
    · rintro reached count again
      cases ends.unique again
      exact reached
    · exact fun reached => reached ended ends
  · exact steady.reached honest count

end

/-- A deal of half a position's volume; the swap may be booked later. -/
def halfClosed (swap : Int) : Json :=
  .object [("dealId", .whole 2), ("executionTimestamp", .whole 5), ("dealStatus", .whole 2),
    ("executionPrice", .whole 100), ("closePositionDetail", .object [("closedVolume", .whole 100),
      ("entryPrice", .whole 90), ("swap", .whole swap), ("moneyDigits", .whole 2)])]

def openedWhole : Json :=
  .object [("dealId", .whole 1), ("executionTimestamp", .whole 1), ("dealStatus", .whole 2),
    ("filledVolume", .whole 200)]

def orderRow (id time : Int) : Json :=
  .object [("orderId", .whole id), ("utcLastUpdateTimestamp", .whole time)]

def pageOf (key : String) (rows : List Json) (more : Bool) : Except String Json :=
  .ok (.object [(key, .array rows), ("hasMore", .bool more)])

/-- Two requests, to the end of the interval and to its fifth millisecond; a page for each. -/
def twoPages (key : String) (newer older : List Json) (count : Nat) (asked : Int) : Except String Json :=
  if count = 0 ∧ asked = 10 then pageOf key newer true
  else if count = 1 ∧ asked = 5 then pageOf key older false
  else .error "not asked"

/-- What a broker stores at the first request and from the second on. -/
def storedTwice (before after : List Json) (count : Nat) : List Json := if count = 0 then before else after

theorem twoPages_honest {key timeKey : String} {newer older before after : List Json}
    (first : answeredPage (twoPages key newer older) key 0 10 = some { rows := newer, more := true })
    (second : answeredPage (twoPages key newer older) key 1 5 = some { rows := older, more := false })
    (newest : Page.NewestOf (rowTime timeKey) 0 10 before { rows := newer, more := true })
    (rest : Page.NewestOf (rowTime timeKey) 0 5 after { rows := older, more := false }) :
    HonestBroker (twoPages key newer older) key timeKey 0 (storedTwice before after) := by
  intro count asked page reply
  by_cases atFirst : count = 0 ∧ asked = 10
  · obtain ⟨rfl, rfl⟩ := atFirst
    cases first.symm.trans reply
    exact newest
  · by_cases atSecond : count = 1 ∧ asked = 5
    · obtain ⟨rfl, rfl⟩ := atSecond
      cases second.symm.trans reply
      exact rest
    · unfold answeredPage twoPages at reply
      rw [if_neg atFirst, if_neg atSecond] at reply
      cases reply

theorem history_exactlyOnce_steady :
    positionHistory (twoPages "deal" [halfClosed 7] [halfClosed 7, openedWhole]) "deal" "executionTimestamp" 10 =
        .ok [openedWhole, halfClosed 7] ∧
      ExactlyOnce "deal" "executionTimestamp" 0 10
        (storedTwice [openedWhole, halfClosed 7] [openedWhole, halfClosed 7]) [openedWhole, halfClosed 7] := by
  have honest : HonestBroker (twoPages "deal" [halfClosed 7] [halfClosed 7, openedWhole]) "deal"
      "executionTimestamp" 0 (storedTwice [openedWhole, halfClosed 7] [openedWhole, halfClosed 7]) :=
    twoPages_honest rfl rfl ⟨by decide +kernel, by decide +kernel, by decide +kernel⟩
      ⟨by decide +kernel, by decide +kernel, by decide +kernel⟩
  have ok : positionHistory (twoPages "deal" [halfClosed 7] [halfClosed 7, openedWhole]) "deal" "executionTimestamp"
      10 = .ok [openedWhole, halfClosed 7] := by decide +kernel
  obtain ⟨walk, -, -⟩ := @history_exactlyOnce_iff _ "deal" "executionTimestamp" 0 10
    (storedTwice [openedWhole, halfClosed 7] [openedWhole, halfClosed 7])
  refine ⟨ok, (walk honest _ ok).mpr fun count ends => ?_⟩
  have second : EndsAt (rowTime "executionTimestamp") 10
      (answeredPage (twoPages "deal" [halfClosed 7] [halfClosed 7, openedWhole]) "deal") 1 :=
    ⟨5, ⟨[halfClosed 7, openedWhole], false⟩, by decide +kernel, rfl, rfl⟩
  obtain rfl := ends.unique second
  constructor
  · unfold UnchangedWhenReread
    decide +kernel
  · intro row member _
    refine .inr fun asked known => ?_
    have fifth : askedEnd (rowTime "executionTimestamp") 10
        (answeredPage (twoPages "deal" [halfClosed 7] [halfClosed 7, openedWhole]) "deal") 1 = some 5 := by
      decide +kernel
    cases fifth.symm.trans known
    refine ⟨row, member, rfl, ?_⟩
    revert row
    decide +kernel

/-- The swap of a half is booked between two pages that hold it, and the position counts as closed whole; an
update between two pages hides an order from both walks. -/
theorem history_countedTwice :
    (HonestBroker (twoPages "deal" [halfClosed 0] [halfClosed 7, openedWhole]) "deal" "executionTimestamp" 0
          (storedTwice [openedWhole, halfClosed 0] [openedWhole, halfClosed 7]) ∧
        positionHistory (twoPages "deal" [halfClosed 0] [halfClosed 7, openedWhole]) "deal" "executionTimestamp" 10 =
          .ok [openedWhole, halfClosed 0, halfClosed 7] ∧
        ¬ ([openedWhole, halfClosed 0, halfClosed 7].map (rowId "deal")).Nodup ∧
        ((closed [openedWhole, halfClosed 0, halfClosed 7]).toOption.join.map fun found => found.volume) =
          some 2) ∧
      HonestBroker (twoPages "order" [orderRow 2 5] [orderRow 2 5]) "order" "utcLastUpdateTimestamp" 0
          (storedTwice [orderRow 1 1, orderRow 2 5] [orderRow 1 7, orderRow 2 5]) ∧
        positionHistory (twoPages "order" [orderRow 2 5] [orderRow 2 5]) "order" "utcLastUpdateTimestamp" 10 =
          .ok [orderRow 2 5] ∧
        pages (twoPages "order" [orderRow 2 5] [orderRow 2 5]) "order" "utcLastUpdateTimestamp" 0 10 =
          .ok [orderRow 2 5] ∧
        ¬ CompleteFor (rowTime "utcLastUpdateTimestamp") (rowId "order") 0 10
          (storedTwice [orderRow 1 1, orderRow 2 5] [orderRow 1 7, orderRow 2 5]) [orderRow 2 5] := by
  refine ⟨⟨?_, ?_, ?_, ?_⟩, ?_, ?_, ?_, ?_⟩
  · exact twoPages_honest rfl rfl ⟨by decide +kernel, by decide +kernel, by decide +kernel⟩
      ⟨by decide +kernel, by decide +kernel, by decide +kernel⟩
  · decide +kernel
  · decide +kernel
  · decide +kernel
  · exact twoPages_honest rfl rfl ⟨by decide +kernel, by decide +kernel, by decide +kernel⟩
      ⟨by decide +kernel, by decide +kernel, by decide +kernel⟩
  · decide +kernel
  · decide +kernel
  · unfold CompleteFor
    decide +kernel

end TradeControl.CTrader
