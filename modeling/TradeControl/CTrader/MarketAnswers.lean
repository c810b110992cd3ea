import TradeControl.CTrader.MarketOutcome

namespace TradeControl.CTrader

open Foundation

/-- A request that is not the new order's, and no note that opens or settles a journal. -/
def Request.Secondary : Request → Prop
  | .read _ _ _ => True
  | .mutate kind _ => kind ≠ 2106
  | .note phase _ => phase ≠ "intent" ∧ phase ≠ "resolved"

theorem Request.Secondary.not_newOrder {request : Request} (secondary : request.Secondary) :
    request.isNewOrder = false := by
  cases request with
  | read kind response payload => rfl
  | mutate kind payload => exact decide_eq_false secondary
  | note phase evidence => rfl

section
variable {io : Transport} {terms : Terms} {Result : Type}

theorem checked_asks (result : Except String Result) : (checked result).Asks Request.Secondary :=
  Asking.asks_check _

theorem readIo_asks (kind response : Nat) (payload : Json) :
    (readIo io kind response payload).Asks Request.Secondary :=
  Asking.asks_ask trivial

theorem noteIo_asks {phase : String} (evidence : Json) (plain : phase ≠ "intent" ∧ phase ≠ "resolved") :
    (noteIo io phase evidence).Asks Request.Secondary :=
  Asking.asks_ask plain

theorem amendIo_asks (payload : Json) : (mutateIo io 2110 payload).Asks Request.Secondary :=
  Asking.asks_ask (by decide : (2110 : Nat) ≠ 2106)

theorem pollOrder_asks (id : Int) (pauses : Nat) (observed : Int) :
    (pollOrder io terms id pauses observed).Asks Request.Secondary := by
  induction pauses generalizing observed with
  | zero =>
    unfold pollOrder
    refine Asking.asks_bind (readIo_asks _ _ _) fun detail => Asking.asks_bind (checked_asks _) fun _ =>
      Asking.asks_bind (noteIo_asks _ (by decide)) fun _ => Asking.asks_bind (checked_asks _) fun ended =>
      Asking.asks_bind (checked_asks _) fun seen => ?_
    cases ended with
    | none => exact Asking.asks_check _
    | some filled => exact Asking.asks_bind (checked_asks _) fun _ => Asking.asks_pure _
  | succ pauses ih =>
    unfold pollOrder
    refine Asking.asks_bind (readIo_asks _ _ _) fun detail => Asking.asks_bind (checked_asks _) fun _ =>
      Asking.asks_bind (noteIo_asks _ (by decide)) fun _ => Asking.asks_bind (checked_asks _) fun ended =>
      Asking.asks_bind (checked_asks _) fun seen => ?_
    cases ended with
    | none => exact ih _
    | some filled => exact Asking.asks_bind (checked_asks _) fun _ => Asking.asks_pure _

theorem protectFill_asks (id : Int) (order : Json) (filled : Int) :
    (protectFill io terms id order filled).Asks Request.Secondary := by
  unfold protectFill
  refine Asking.asks_bind (checked_asks _) fun _ => Asking.asks_bind (checked_asks _) fun _ =>
    Asking.asks_bind (checked_asks _) fun positionId => Asking.asks_bind (checked_asks _) fun _ =>
    Asking.asks_bind (readIo_asks _ _ _) fun snapshot => Asking.asks_bind (checked_asks _) fun row =>
    Asking.asks_bind (noteIo_asks _ (by decide)) fun _ => Asking.asks_bind (checked_asks _) fun _ =>
    Asking.asks_bind (noteIo_asks _ (by decide)) fun _ => Asking.asks_bind (amendIo_asks _) fun amended => ?_
  refine Asking.asks_bind (checked_asks _) fun _ => Asking.asks_bind (noteIo_asks _ (by decide)) fun _ =>
    Asking.asks_bind (checked_asks _) fun _ => Asking.asks_bind (checked_asks _) fun _ =>
    Asking.asks_bind (readIo_asks _ _ _) fun verified => Asking.asks_bind (noteIo_asks _ (by decide)) fun _ =>
    Asking.asks_bind (checked_asks _) fun row => Asking.asks_bind (checked_asks _) fun _ =>
    Asking.asks_bind (noteIo_asks _ (by decide)) fun _ => Asking.asks_pure _

/-- The proof of an entry sends no new order. -/
theorem finalize_asks (event : Json) : (finalize io terms event).Asks Request.Secondary := by
  unfold finalize
  refine Asking.asks_bind (checked_asks _) fun _ => Asking.asks_bind (noteIo_asks _ (by decide)) fun _ =>
    Asking.asks_bind (checked_asks _) fun observed => ?_
  split
  · exact Asking.asks_bind (checked_asks _) fun _ => Asking.asks_pure _
  · refine Asking.asks_bind (checked_asks _) fun id => Asking.asks_bind (checked_asks _) fun _ =>
      Asking.asks_bind (pollOrder_asks id _ observed) fun ended => ?_
    dsimp only
    split
    · exact Asking.asks_pure _
    · exact protectFill_asks id _ _

end

/-- The evidence on which an entry is reported as not placed. -/
inductive Unplaced (io : Transport) (terms : Terms) (payload : Json) (asked : List Request) : Prop
  | unsent (none_ : asked.countP Request.isNewOrder = 0)
  | notSent (reason : String) (sent : List Request) (request : sent ++ [.mutate 2106 payload] <+: asked)
      (answer : io.mutate sent 2106 payload = .error (.notSent reason))
  | refused (code : String) (sent : List Request) (request : sent ++ [.mutate 2106 payload] <+: asked)
      (answer : io.mutate sent 2106 payload = .error (.rejected code))
  | refusal (event : Json) (sent : List Request) (request : sent ++ [.mutate 2106 payload] <+: asked)
      (answer : io.mutate sent 2106 payload = .ok event)
      (stated : isRejection event) (unexecuted : observedFill event terms = .ok 0)
  | nothing (orderId : Int) (detail : Json) (read : DetailRead io terms asked orderId detail 0)

/-- What the answer to the caller of a market entry says. -/
def AnswerSound (io : Transport) (terms : Terms) (payload : Json) (asked : List Request) :
    Except EntryError Placement → Prop
  | .ok _ => FillProven io terms asked
  | .error (.orderRejectedWithDetail _) => Unplaced io terms payload asked
  | .error (.ambiguousSuccess _) => True
  | .error _ => False

theorem submissionError_sound {io : Transport} {terms : Terms} {payload : Json} {sent asked : List Request}
    {error : RequestError} (request : sent ++ [.mutate 2106 payload] <+: asked)
    (answer : io.mutate sent 2106 payload = .error error) :
    AnswerSound io terms payload asked (.error (submissionError terms error)) := by
  cases error with
  | notSent reason => exact .notSent reason sent request answer
  | rejected code => exact .refused code sent request answer
  | unknown reason => trivial

theorem entryAnswer_sound {io : Transport} {terms : Terms} {payload event : Json} {sent asked : List Request}
    {completed : Except Unproven Completion} (request : sent ++ [.mutate 2106 payload] <+: asked)
    (answer : io.mutate sent 2106 payload = .ok event) {start : List Request}
    (finalized : finalize io terms event start = (completed, asked)) :
    AnswerSound io terms payload asked (entryAnswer terms completed) := by
  cases completed with
  | error unproven => cases unproven <;> trivial
  | ok completion =>
    rcases finalize_succeeds finalized with ⟨⟨placement, rfl⟩, proven⟩ | ⟨⟨reason, rfl⟩, refused | ended⟩
    · exact proven
    · exact .refusal event sent request answer refused.1 refused.2
    · obtain ⟨orderId, detail, read⟩ := ended
      exact .nothing orderId detail read

/-- The requests of a market entry: the note, the order, and what the proof asks. -/
structure EntryAsked (terms : Terms) (payload : Json) (asked : List Request) : Prop where
  requests : asked = [.note "market-before-send" (beforeSend terms payload)] ∨
    ∃ new, asked = [.note "market-before-send" (beforeSend terms payload), .mutate 2106 payload] ++ new ∧
      ∀ request ∈ new, request.Secondary

theorem execute_sound (io : Transport) (terms : Terms) (payload : Json) :
    EntryAsked terms payload (execute io terms payload).2 ∧
      AnswerSound io terms payload (execute io terms payload).2 (execute io terms payload).1 := by
  unfold execute
  dsimp only
  cases io.note [] "market-before-send" (beforeSend terms payload) with
  | error error => exact ⟨⟨.inl rfl⟩, .unsent rfl⟩
  | ok _ =>
    dsimp only
    cases answer : io.mutate [.note "market-before-send" (beforeSend terms payload)] 2106 payload with
    | error error =>
      exact ⟨⟨.inr ⟨[], rfl, fun _ none_ => nomatch none_⟩⟩, submissionError_sound (List.prefix_refl _) answer⟩
    | ok event =>
      dsimp only
      have asks : (finalize io terms event).Asks Request.Secondary := finalize_asks event
      obtain ⟨new, same, secondary⟩ :=
        asks ([.note "market-before-send" (beforeSend terms payload)] ++ [.mutate 2106 payload])
      cases finalized : finalize io terms event
          ([.note "market-before-send" (beforeSend terms payload)] ++ [.mutate 2106 payload]) with
      | mk completed asked =>
        rw [finalized] at same
        dsimp only at same ⊢
        exact ⟨⟨.inr ⟨new, same, secondary⟩⟩,
          entryAnswer_sound (same ▸ List.prefix_append _ _) answer finalized⟩

theorem EntryAsked.once {terms : Terms} {payload : Json} {asked : List Request} (entry : EntryAsked terms payload asked) :
    asked.countP Request.isNewOrder ≤ 1 := by
  rcases entry.requests with rfl | ⟨new, rfl, secondary⟩
  · exact Nat.zero_le 1
  · have none_ : new.countP Request.isNewOrder = 0 :=
      List.countP_eq_zero.mpr fun request listed => by
        rw [(secondary request listed).not_newOrder]
        exact Bool.false_ne_true
    rw [List.countP_append, none_]
    exact Nat.le_refl 1

/-- A detail that is read of the client's order states what the order has executed. -/
theorem DetailRead.stated {io : Transport} {terms : Terms} {executed : Int}
    (truthful : Truthful io terms.clientId executed) {asked : List Request} {orderId filled : Int} {detail : Json}
    (read : DetailRead io terms asked orderId detail filled) : executed = filled := by
  obtain ⟨⟨earlier, -, answered⟩, ended⟩ := read
  obtain ⟨own, status, stated⟩ := terminal_stated ended
  exact (truthful _ _ _ answered own status).symm.trans stated

/-- Why an entry is reported as not placed: it was not sent, refused by the broker, or in fact
executed nothing. -/
inductive NotPlaced (io : Transport) (terms : Terms) (payload : Json) (executed : Int) (asked : List Request) : Prop
  | unsent (none_ : asked.countP Request.isNewOrder = 0)
  | notSent (reason : String) (sent : List Request) (request : sent ++ [.mutate 2106 payload] <+: asked)
      (answer : io.mutate sent 2106 payload = .error (.notSent reason))
  | refused (code : String) (sent : List Request) (request : sent ++ [.mutate 2106 payload] <+: asked)
      (answer : io.mutate sent 2106 payload = .error (.rejected code))
  | refusal (event : Json) (sent : List Request) (request : sent ++ [.mutate 2106 payload] <+: asked)
      (answer : io.mutate sent 2106 payload = .ok event)
      (stated : isRejection event) (unexecuted : observedFill event terms = .ok 0)
  | nothing (same : executed = 0)

/-- A market entry is sent at most once; it is reported as filled on proof of its protected
position, as not placed where it was not sent, refused or without any execution, and as
ambiguous in every other run. -/
theorem execute_classified {io : Transport} {terms : Terms} {executed : Int}
    (truthful : Truthful io terms.clientId executed) (payload : Json) :
    (execute io terms payload).2.countP Request.isNewOrder ≤ 1 ∧
      match (execute io terms payload).1 with
      | .ok _ => executed = terms.volume ∧ FillProven io terms (execute io terms payload).2
      | .error (.orderRejectedWithDetail _) => NotPlaced io terms payload executed (execute io terms payload).2
      | .error (.ambiguousSuccess _) => True
      | .error _ => False := by
  obtain ⟨entry, sound⟩ := execute_sound io terms payload
  refine ⟨entry.once, ?_⟩
  cases answer : (execute io terms payload).1 with
  | ok placement =>
    rw [answer] at sound
    obtain ⟨orderId, positionId, detail, before, snapshot, row, read, proven⟩ := sound
    exact ⟨read.stated truthful, orderId, positionId, detail, before, snapshot, row, read, proven⟩
  | error error =>
    rw [answer] at sound
    cases error with
    | orderRejectedWithDetail reason =>
      rcases (show Unplaced io terms payload _ from sound) with none_ | ⟨reason, sent, request, answer⟩ |
        ⟨code, sent, request, answer⟩ | ⟨event, sent, request, answer, stated, unexecuted⟩ | ⟨orderId, detail, read⟩
      · exact .unsent none_
      · exact .notSent reason sent request answer
      · exact .refused code sent request answer
      · exact .refusal event sent request answer stated unexecuted
      · exact .nothing (read.stated truthful)
    | ambiguousSuccess detail => trivial
    | _ => exact sound

/-- A long entry of 1000 units, authorized for 0.0015 of distance to its stop. -/
def longTerms : Terms :=
  { account := 7
    symbol := 8
    volume := 100000
    clientId := "audit-1"
    direction := .long
    stop := 1099/1000
    target := 1102/1000
    requestedPrice := 11/10
    maxStopDistance := 15/10000
    before := [] }

def longTrade : Json := .object [("symbolId", .whole 8), ("tradeSide", .whole 1), ("volume", .whole 100000)]

/-- The order's detail once it has filled. -/
def longDetail : Json :=
  .object [("ctidTraderAccountId", .whole 7),
    ("order", .object [("orderId", .whole 9), ("positionId", .whole 11), ("clientOrderId", .text "audit-1"),
      ("orderType", .whole 1), ("orderStatus", .whole 2), ("executedVolume", .whole 100000), ("tradeData", longTrade)]),
    ("deal", .array [.object [("dealId", .whole 15), ("orderId", .whole 9), ("positionId", .whole 11),
      ("symbolId", .whole 8), ("tradeSide", .whole 1), ("dealStatus", .whole 2), ("filledVolume", .whole 100000),
      ("executionPrice", .decimal (11002/10000))]])]

def longPosition (stop target : Rat) : Json :=
  .object [("positionId", .whole 11), ("positionStatus", .whole 1), ("price", .decimal (11002/10000)),
    ("tradeData", longTrade), ("stopLoss", .decimal stop), ("takeProfit", .decimal target)]

/-- The position's protection is amended once that has been asked for. -/
def positionAfter (asked : List Request) : Json :=
  if asked.any (fun request => match request with | .mutate 2110 _ => true | _ => false) then
    longPosition (1099/1000) (1102/1000)
  else longPosition (10992/10000) (11022/10000)

/-- A broker that fills the order, or one that refuses an order it has filled. -/
def fillingBroker (response : Json) : Transport where
  read asked kind _ _ :=
    .ok (if kind = 2181 then longDetail
      else .object [("ctidTraderAccountId", .whole 7), ("order", .array []), ("position", .array [positionAfter asked])])
  mutate _ kind _ :=
    .ok (if kind = 2106 then response
      else .object [("ctidTraderAccountId", .whole 7), ("position", longPosition (1099/1000) (1102/1000))])
  note _ _ _ := .ok ()
  late _ := false
  pauses := 50
  errorText _ := "request failed"

theorem fillingBroker_truthful (response : Json) : Truthful (fillingBroker response) longTerms.clientId 100000 := by
  intro asked payload detail read _ _
  have same : longDetail = detail := Except.ok.inj read
  subst same
  decide +kernel

def acceptedResponse : Json :=
  .object [("ctidTraderAccountId", .whole 7), ("order", .object [("orderId", .whole 9)]), ("executionType", .whole 2)]

theorem execute_classified_filled :
    (execute (fillingBroker acceptedResponse) longTerms .null).1.toOption =
        some { orderId := "9", size := some 1000, price := some (11/10) } ∧
      (execute (fillingBroker acceptedResponse) longTerms .null).2.countP Request.isNewOrder ≤ 1 :=
  ⟨by decide +kernel, (execute_classified (fillingBroker_truthful acceptedResponse) .null).1⟩

def refusedResponse : Json := .object [("ctidTraderAccountId", .whole 7), ("executionType", .whole 7)]

/-- A refusal is taken at the broker's word, also for an order that has executed. -/
theorem refusal_trusted :
    ¬ ∀ (io : Transport) (terms : Terms) (payload : Json) (executed : Int), Truthful io terms.clientId executed →
      ∀ reason, (execute io terms payload).1 = .error (.orderRejectedWithDetail reason) →
        (execute io terms payload).2.countP Request.isNewOrder = 0 ∨ executed = 0 := by
  intro trusted
  have sound := trusted (fillingBroker refusedResponse) longTerms .null 100000
    (fillingBroker_truthful refusedResponse) "ORDER_REJECTED" rfl
  revert sound
  decide +kernel

end TradeControl.CTrader
