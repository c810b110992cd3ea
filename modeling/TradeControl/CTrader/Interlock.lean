import Mathlib.Data.List.Infix
import TradeControl.CTrader.FixManagement
import TradeControl.CTrader.MarketAnswers
import TradeControl.Foundation.Loops

namespace TradeControl.CTrader

open Foundation

/-- The journal's records end with a confirmed resolution of its last intent. -/
def SettledRecords (records : List JournalRecord) : Prop :=
  ∃ before record after, records = before ++ record :: after ∧ record.confirms ∧
    ∀ later ∈ after, later.phase ≠ "intent"

/-- A journal of whole records that end so. -/
def JournalFile.Resolved (file : JournalFile) : Prop :=
  file.terminated = true ∧ ∃ records, file.lines = records.map some ∧ SettledRecords records

/-- The account's other journals are resolved. -/
def OthersResolved (events : List Event) (id : String) : Prop :=
  ∀ other, other ≠ id → ∀ file, journalOf events other = some file → file.Resolved

theorem settledRecords_snoc {records : List JournalRecord} {record : JournalRecord} :
    SettledRecords (records ++ [record]) ↔ record.confirms ∨ record.phase ≠ "intent" ∧ SettledRecords records := by
  constructor
  · rintro ⟨before, settling, after, same, confirms, later⟩
    rcases snoc_split same with ⟨-, -, rfl⟩ | ⟨rest, rfl, rfl⟩
    · exact .inl confirms
    · exact .inr ⟨later _ (by simp), before, settling, rest, rfl, confirms,
        fun other listed => later other (List.mem_append_left _ listed)⟩
  · rintro (confirms | ⟨plain, before, settling, after, rfl, confirms, later⟩)
    · exact ⟨records, record, [], rfl, confirms, fun _ none_ => nomatch none_⟩
    · refine ⟨before, settling, after ++ [record], by simp, confirms, fun other listed => ?_⟩
      rcases List.mem_append.mp listed with earlier | last
      · exact later other earlier
      · rwa [List.mem_singleton.mp last]

/-- What the scan of a journal's records finds. -/
theorem foldl_resolvedAfter (records : List JournalRecord) :
    records.foldl resolvedAfter false = true ↔ SettledRecords records := by
  induction records using List.reverseRecOn with
  | nil =>
    constructor
    · intro settled
      cases settled
    · rintro ⟨before, record, after, same, -⟩
      simp at same
  | append_singleton records record ih =>
    rw [List.foldl_append, List.foldl_cons, List.foldl_nil, settledRecords_snoc, ← ih]
    unfold resolvedAfter
    by_cases confirms : record.confirms
    · simp [confirms]
    · by_cases intent : record.phase = "intent"
      · simp [confirms, intent]
      · simp [confirms, intent]

theorem foldlM_scanLine {lines : List (Option JournalRecord)} {resolved last : Bool}
    (scanned : lines.foldlM scanLine resolved = .ok last) :
    ∃ records : List JournalRecord, lines = records.map some ∧ records.foldl resolvedAfter resolved = last := by
  induction lines generalizing resolved with
  | nil =>
    cases scanned
    exact ⟨[], rfl, rfl⟩
  | cons line rest ih =>
    rw [List.foldlM_cons, bind_ok] at scanned
    obtain ⟨next, first, later⟩ := scanned
    cases line with
    | none => cases first
    | some record =>
      cases first
      obtain ⟨records, rfl, folded⟩ := ih later
      exact ⟨record :: records, rfl, folded⟩

/-- A journal that passes the scan and may not be skipped is resolved. -/
theorem scanJournal_resolved {file : JournalFile} (scanned : scanJournal file false = .ok ()) : file.Resolved := by
  unfold scanJournal at scanned
  simp only [bind_ok, ensure_ok, exists_const, Bool.false_eq_true, or_false] at scanned
  obtain ⟨terminated, resolved, folded, settled⟩ := scanned
  obtain ⟨records, same, ended⟩ := foldlM_scanLine folded
  rw [settled] at ended
  exact ⟨terminated, records, same, (foldl_resolvedAfter records).mp ended⟩

theorem journalOf_snoc (events : List Event) (event : Event) (id : String) :
    journalOf (events ++ [event]) id = journalStep id (journalOf events id) event :=
  List.foldl_concat _ _ _ _

theorem journalOf_listed {events : List Event} {id : String} {file : JournalFile}
    (held : journalOf events id = some file) : id ∈ events.filterMap Event.journal := by
  induction events using List.reverseRecOn generalizing file with
  | nil => cases held
  | append_singleton events event ih =>
    rw [journalOf_snoc] at held
    rw [List.filterMap_append]
    cases event with
    | wrote owner record written =>
      by_cases own : owner = id
      · exact List.mem_append_right _ (by simp [Event.journal, own])
      · rw [journalStep, if_neg own] at held
        exact List.mem_append_left _ (ih held)
    | sent owner mutation => exact List.mem_append_left _ (ih held)
    | looked => exact List.mem_append_left _ (ih held)

theorem forM_ok {Item : Type} {items : List Item} {check : Item → Except String Unit}
    (passed : items.forM check = .ok ()) : ∀ item ∈ items, check item = .ok () := by
  induction items with
  | nil => simp
  | cons first rest ih =>
    change (check first >>= fun _ => rest.forM check) = .ok () at passed
    rw [bind_ok] at passed
    obtain ⟨_, head, tail⟩ := passed
    intro item listed
    rcases List.mem_cons.mp listed with rfl | later
    · exact head
    · exact ih tail item later

theorem checkJournals_resolved {events : List Event} (checked : checkJournals events none = .ok ()) (id : String)
    (file : JournalFile) (held : journalOf events id = some file) : file.Resolved := by
  have passed := forM_ok checked id (journalOf_listed held)
  rw [held] at passed
  exact scanJournal_resolved passed

/-- What is known of a journal's mutation when it is settled. -/
inductive Known (world : Surroundings) (events : List Event) (id : String) : Prop
  | unsent (earlier later : List Event) (intent : JournalRecord) (phase : intent.phase = "intent")
      (same : events = earlier ++ .wrote id intent .whole :: later) (none_ : ∀ mutation, .sent id mutation ∉ later)
  | refused (earlier : List Event) (kind : Nat) (payload : Json) (error : RequestError)
      (request : earlier ++ [.sent id (.openApi kind payload)] <+: events)
      (answer : world.mutate earlier kind payload = .error error) (definite : ∀ reason, error ≠ .unknown reason)
  | refusal (earlier : List Event) (kind : Nat) (payload event : Json)
      (request : earlier ++ [.sent id (.openApi kind payload)] <+: events)
      (answer : world.mutate earlier kind payload = .ok event)
      (stated : (event.get? "errorCode").isSome ∨ isRejection event)
  | accepted (earlier : List Event) (payload event : Json) (order : Int)
      (request : earlier ++ [.sent id (.openApi 2106 payload)] <+: events)
      (answer : world.mutate earlier 2106 payload = .ok event) (stated : isOneOf event "executionType" acceptedTypes)
      (orderId : integer (event.field "order") "orderId" = .ok order)
  | filled (start : List Event) (terms : Terms) (asked : List Request)
      (requests : requestEvents world start id asked <+: events)
      (proven : FillProven (auditedTransport world start id) terms asked)
  | unexecuted (start : List Event) (terms : Terms) (asked : List Request) (orderId : Int) (detail : Json)
      (requests : requestEvents world start id asked <+: events)
      (read : DetailRead (auditedTransport world start id) terms asked orderId detail 0)
  | amended (earlier : List Event) (kind : Nat) (payload response source : Json) (isPosition : Bool) (stop : Rat)
      (request : earlier ++ [.sent id (.openApi kind payload)] <+: events)
      (answer : world.mutate earlier kind payload = .ok response)
      (confirmed : confirmAmend response source isPosition stop = .ok ())
  | cancelled (earlier later : List Event) (request : CancelOrder) (report : Report) (remaining : List Report)
      (sent : earlier ++ [.sent id (.cancel request)] <+: later) (before : later <+: events)
      (answer : world.cancel earlier request = .ok (.accepted report)) (status : report.status = .cancelled)
      (own : report.orderId = request.orderId) (listed : world.orders later = .ok remaining)
      (gone : ∀ row ∈ remaining, ¬ (row.orderId = request.orderId ∧ pendingReport row))
  | closed (earlier later : List Event) (request : CloseOrder) (position : FixPosition) (report : Report)
      (remaining : List FixPosition) (sent : earlier ++ [.sent id (.place request)] <+: later) (before : later <+: events)
      (answer : world.place earlier request = .ok (.accepted report)) (listed : world.positions later = .ok remaining)
      (own : request.positionId = position.positionId) (confirmed : confirmedClose position report remaining = .ok ())
  | fixRefused (earlier : List Event) (mutation : Mutation) (request : earlier ++ [.sent id mutation] <+: events)
      (answer : (∃ cancel, mutation = .cancel cancel ∧ ∃ reason, world.cancel earlier cancel = .ok (.rejected reason)) ∨
        ∃ place, mutation = .place place ∧ ∃ reason, world.place earlier place = .ok (.rejected reason))
  | fixUnsent (earlier : List Event) (mutation : Mutation) (request : earlier ++ [.sent id mutation] <+: events)
      (answer : (∃ cancel, mutation = .cancel cancel ∧ ∃ error, world.cancel earlier cancel = .error error) ∨
        ∃ place, mutation = .place place ∧ ∃ error, world.place earlier place = .error error)
  | reconciled (earlier : List Event) (terms : Terms) (orderId : Int) (detail : Json) (before : earlier <+: events)
      (read : world.read earlier 2181 2182 (orderRequest orderId) = .ok detail)
      (ended : terminal detail terms orderId = .ok (some terms.volume))

/-- A request goes out only while the other journals are resolved, and a journal is settled only
on what is known of its mutation. -/
def Permitted (world : Surroundings) (events : List Event) : Event → Prop
  | .sent id _ => OthersResolved events id
  | .wrote id record _ => record.phase = "resolved" → Known world events id
  | .looked => True

def Sound (world : Surroundings) (events : List Event) : Prop :=
  ∀ before event after, events = before ++ event :: after → Permitted world before event

section
variable {world : Surroundings} {events : List Event} {id : String}

theorem sound_nil : Sound world [] := by
  intro before event after same
  simp at same

theorem Sound.snoc {event : Event} (sound : Sound world events) (permitted : Permitted world events event) :
    Sound world (events ++ [event]) := by
  intro before other after same
  rcases snoc_split same with ⟨-, rfl, rfl⟩ | ⟨rest, -, earlier⟩
  · exact permitted
  · exact sound before other rest earlier

/-- Where a run stops, by a crash or otherwise, its events are sound. -/
theorem Sound.stopped {stopped : List Event} (sound : Sound world events) (before : stopped <+: events) :
    Sound world stopped := by
  obtain ⟨rest, rfl⟩ := before
  intro earlier event after same
  exact sound earlier event (after ++ rest) (by rw [same, List.append_assoc, List.cons_append])

theorem OthersResolved.snoc {event : Event} (others : OthersResolved events id)
    (own : ∀ owner, event.journal = some owner → owner = id) : OthersResolved (events ++ [event]) id := by
  intro other different file held
  rw [journalOf_snoc] at held
  cases event with
  | wrote owner record written =>
    rw [journalStep, if_neg (by
      rintro rfl
      exact different (own owner rfl))] at held
    exact others other different file held
  | sent owner mutation => exact others other different file held
  | looked => exact others other different file held

end

/-- A journal is being written: the others are resolved. -/
structure Writing (world : Surroundings) (id : String) (events : List Event) : Prop where
  sound : Sound world events
  others : OthersResolved events id

/-- Nothing has been sent under the journal since its last intent. -/
def Unsent (id : String) (events : List Event) : Prop :=
  ∃ earlier intent later, intent.phase = "intent" ∧ events = earlier ++ .wrote id intent .whole :: later ∧
    ∀ mutation, .sent id mutation ∉ later

section
variable {world : Surroundings} {id : String} {events : List Event}

theorem Known.snoc {event : Event} (known : Known world events id) (quiet : ∀ mutation, event ≠ .sent id mutation) :
    Known world (events ++ [event]) id := by
  have grows : events <+: events ++ [event] := List.prefix_append _ _
  cases known with
  | unsent earlier later intent phase same none_ =>
    refine .unsent earlier (later ++ [event]) intent phase (by simp [same]) fun mutation listed => ?_
    rcases List.mem_append.mp listed with before | last
    · exact none_ mutation before
    · exact quiet mutation (List.mem_singleton.mp last).symm
  | refused earlier kind payload error request answer definite =>
    exact .refused earlier kind payload error (request.trans grows) answer definite
  | refusal earlier kind payload response request answer stated =>
    exact .refusal earlier kind payload response (request.trans grows) answer stated
  | accepted earlier payload response order request answer stated orderId =>
    exact .accepted earlier payload response order (request.trans grows) answer stated orderId
  | filled start terms asked requests proven => exact .filled start terms asked (requests.trans grows) proven
  | unexecuted start terms asked orderId detail requests read =>
    exact .unexecuted start terms asked orderId detail (requests.trans grows) read
  | amended earlier kind payload response source isPosition stop request answer confirmed =>
    exact .amended earlier kind payload response source isPosition stop (request.trans grows) answer confirmed
  | cancelled earlier later request report remaining sent before answer status own listed gone =>
    exact .cancelled earlier later request report remaining sent (before.trans grows) answer status own listed gone
  | closed earlier later request position report remaining sent before answer listed own confirmed =>
    exact .closed earlier later request position report remaining sent (before.trans grows) answer listed own confirmed
  | fixRefused earlier mutation request answer => exact .fixRefused earlier mutation (request.trans grows) answer
  | fixUnsent earlier mutation request answer => exact .fixUnsent earlier mutation (request.trans grows) answer
  | reconciled earlier terms orderId detail before read ended =>
    exact .reconciled earlier terms orderId detail (before.trans grows) read ended

theorem Unsent.snoc {event : Event} (unsent : Unsent id events) (quiet : ∀ mutation, event ≠ .sent id mutation) :
    Unsent id (events ++ [event]) := by
  obtain ⟨earlier, intent, later, phase, same, none_⟩ := unsent
  refine ⟨earlier, intent, later ++ [event], phase, by simp [same], fun mutation listed => ?_⟩
  rcases List.mem_append.mp listed with before | last
  · exact none_ mutation before
  · exact quiet mutation (List.mem_singleton.mp last).symm

theorem Known.looked (known : Known world events id) : Known world (events ++ [.looked]) id :=
  known.snoc fun _ same => nomatch same

theorem Unsent.looked (unsent : Unsent id events) : Unsent id (events ++ [.looked]) :=
  unsent.snoc fun _ same => nomatch same

theorem Unsent.known (unsent : Unsent id events) : Known world events id := by
  obtain ⟨earlier, intent, later, phase, same, none_⟩ := unsent
  exact .unsent earlier later intent phase same none_

theorem Writing.looked (writing : Writing world id events) : Writing world id (events ++ [.looked]) :=
  ⟨writing.sound.snoc trivial, writing.others.snoc fun _ none_ => nomatch none_⟩

theorem Writing.wrote {record : JournalRecord} {written : Written} (writing : Writing world id events)
    (known : record.phase = "resolved" → Known world events id) :
    Writing world id (events ++ [.wrote id record written]) :=
  ⟨writing.sound.snoc known, writing.others.snoc fun _ same => (Option.some.inj same).symm⟩

theorem Writing.sent {mutation : Mutation} (writing : Writing world id events) :
    Writing world id (events ++ [.sent id mutation]) :=
  ⟨writing.sound.snoc writing.others, writing.others.snoc fun _ none_ => nomatch none_⟩

section
variable {Result Answer : Type} {well : Result → List Event → Prop}

theorem look_ensures {answer : List Event → Except String Result} (sound : Sound world events)
    (passes : ∀ result, answer events = .ok result → Sound world (events ++ [.looked]) → well result (events ++ [.looked])) :
    (look answer).Ensures events well (Sound world) :=
  Asking.ensures_act (fun result same => passes result same (sound.snoc trivial)) (sound.snoc trivial)

theorem look_writing {answer : List Event → Except String Result} (writing : Writing world id events)
    (passes : ∀ result, answer events = .ok result → Writing world id (events ++ [.looked]) →
      well result (events ++ [.looked])) :
    (look answer).Ensures events well (Sound world) :=
  look_ensures writing.sound fun result same _ => passes result same writing.looked

theorem check_ensures {checked : Except String Result} (sound : Sound world events)
    (passes : ∀ result, checked = .ok result → well result events) :
    (Asking.check checked : Journaled Result).Ensures events well (Sound world) :=
  Asking.ensures_check passes sound

/-- A failure that is kept as a result leaves the history as sound as it was. -/
theorem attempt_ensures {program : Journaled Result} {well : Except String Result → List Event → Prop}
    (ensures : program.Ensures events (fun result last => well (.ok result) last) (Sound world))
    (fails : ∀ error last, Sound world last → well (.error error) last) :
    program.attempt.Ensures events well (Sound world) :=
  Asking.ensures_attempt (ensures.mono (fun _ _ holds => holds) fun last sound error => fails error last sound)

theorem append_ensures {record : JournalRecord} {well : Unit → List Event → Prop} (sound : Sound world events)
    (known : record.phase = "resolved" → Known world events id)
    (passes : Sound world (events ++ [.wrote id record .whole]) → well () (events ++ [.wrote id record .whole])) :
    (append world id record).Ensures events well (Sound world) := by
  refine Asking.ensures_act (fun result same => ?_) (sound.snoc known)
  dsimp only at same ⊢
  split at same
  next whole =>
    rw [whole]
    exact passes (sound.snoc known)
  · cases same

theorem send_ensures {mutation : Mutation} {answer : List Event → Answer} {well : Answer → List Event → Prop}
    (writing : Writing world id events)
    (passes : Writing world id (events ++ [.sent id mutation]) → well (answer events) (events ++ [.sent id mutation])) :
    (send id mutation answer).Ensures events well (Sound world) :=
  Asking.ensures_act (fun _ same => (Except.ok.inj same) ▸ passes writing.sent) writing.sent.sound

end

theorem checkResolved_ensures {well : Unit → List Event → Prop} {allowed : Option String} (sound : Sound world events)
    (passes : (allowed = none → ∀ id, OthersResolved (events ++ [.looked]) id) → Sound world (events ++ [.looked]) →
      well () (events ++ [.looked])) :
    (checkResolvedExcept world allowed).Ensures events well (Sound world) := by
  refine Asking.ensures_act (fun _ same => ?_) (sound.snoc trivial)
  dsimp only at same
  obtain ⟨_, -, checked⟩ := bind_ok.mp same
  refine passes (fun unskipped id other different file held => ?_) (sound.snoc trivial)
  subst unskipped
  rw [journalOf_snoc] at held
  exact checkJournals_resolved checked other file held

/-- An intent is written once the other journals are resolved. -/
theorem prepare_ensures {well : Unit → List Event → Prop} {intent : List (String × Json)} (sound : Sound world events)
    (passes : ∀ last, Writing world id last → Unsent id last → well () last) :
    (prepare world id intent).Ensures events well (Sound world) := by
  unfold prepare
  refine Asking.ensures_bind (checkResolved_ensures sound fun resolved sound => ?_)
  refine append_ensures sound (fun settles => absurd settles (by decide : "intent" ≠ "resolved")) fun sound => ?_
  refine passes _ ⟨sound, (resolved rfl id).snoc fun _ same => (Option.some.inj same).symm⟩ ?_
  exact ⟨_, _, [], rfl, rfl, fun mutation listed => nomatch listed⟩

theorem resolve_ensures {well : Unit → List Event → Prop} {evidence : Json} (sound : Sound world events)
    (known : Known world events id)
    (passes : ∀ last, Sound world last → well () last) :
    (resolve world id evidence).Ensures events well (Sound world) :=
  append_ensures sound (fun _ => known) (passes _)

theorem companionWrite_ensures {well : String → List Event → Prop} {operation : String} {intent : List (String × Json)}
    (sound : Sound world events)
    (passes : ∀ id last, Writing world id last → Unsent id last → well id last) :
    (companionWrite world operation intent).Ensures events well (Sound world) := by
  unfold companionWrite
  refine Asking.ensures_bind (checkResolved_ensures sound fun _ sound => ?_)
  refine Asking.ensures_bind (look_ensures sound fun id _ sound => ?_)
  refine Asking.ensures_bind (prepare_ensures sound fun last writing unsent => ?_)
  exact Asking.ensures_pure (passes id last writing unsent)

theorem recordOutcome_ensures {well : Unit → List Event → Prop} {evidence : Json} {confirmed : Bool}
    (sound : Sound world events) (known : confirmed = true → Known world events id)
    (passes : ∀ last, Sound world last → well () last) :
    (recordOutcome world id evidence confirmed).Ensures events well (Sound world) := by
  unfold recordOutcome
  refine Asking.ensures_bind (append_ensures sound
    (fun settles => absurd settles (by decide : "outcome" ≠ "resolved")) fun sound => ?_)
  cases confirmed with
  | false => exact passes _ sound
  | true => exact resolve_ensures sound ((known rfl).snoc fun _ same => nomatch same) passes

end

/-- An entry's answer that is not ambiguous. -/
def Definite (result : Except EntryError Placement) : Prop :=
  ∀ detail, result ≠ .error (.ambiguousSuccess detail)

/-- A request that is no settling note. -/
def Request.Plain : Request → Prop
  | .note phase _ => phase ≠ "resolved"
  | _ => True

theorem Request.Secondary.plain {request : Request} (secondary : request.Secondary) : request.Plain := by
  cases request with
  | read kind response payload => trivial
  | mutate kind payload => trivial
  | note phase evidence => exact secondary.2

theorem EntryAsked.plain {terms : Terms} {payload : Json} {asked : List Request}
    (entry : EntryAsked terms payload asked) : ∀ request ∈ asked, request.Plain := by
  have note : (Request.note "market-before-send" (beforeSend terms payload)).Plain :=
    (by decide : "market-before-send" ≠ "resolved")
  rcases entry.requests with rfl | ⟨new, rfl, secondary⟩
  · intro request listed
    rwa [List.mem_singleton.mp listed]
  · intro request listed
    rcases List.mem_append.mp listed with first | later
    · rcases List.mem_cons.mp first with rfl | first
      · exact note
      · rw [List.mem_singleton.mp first]
        trivial
    · exact (secondary request later).plain

section
variable {world : Surroundings} {id : String} {events : List Event}

theorem requestEvents_snoc (asked : List Request) (request : Request) :
    requestEvents world events id (asked ++ [request]) =
      requestEvents world events id asked ++ [requestEvent world (requestEvents world events id asked) id request] :=
  List.foldl_concat _ _ _ _

theorem requestEvents_grow {asked asked' : List Request} (grows : asked <+: asked') :
    requestEvents world events id asked <+: requestEvents world events id asked' := by
  obtain ⟨rest, rfl⟩ := grows
  induction rest using List.reverseRecOn with
  | nil => rw [List.append_nil]
  | append_singleton rest request ih =>
    rw [← List.append_assoc, requestEvents_snoc]
    exact ih.trans (List.prefix_append _ _)

theorem requestEvents_writing {asked : List Request} (writing : Writing world id events)
    (plain : ∀ request ∈ asked, request.Plain) : Writing world id (requestEvents world events id asked) := by
  induction asked using List.reverseRecOn with
  | nil => exact writing
  | append_singleton earlier request ih =>
    have before := ih fun other listed => plain other (List.mem_append_left _ listed)
    rw [requestEvents_snoc]
    cases request with
    | read kind response payload => exact before.looked
    | mutate kind payload => exact before.sent
    | note phase evidence =>
      exact before.wrote fun settles => absurd settles (plain (.note phase evidence) (by simp))

/-- What is known of a market entry that is reported as not placed. -/
theorem Unplaced.known {terms : Terms} {payload : Json} {asked : List Request} (unsent : Unsent id events)
    (entry : EntryAsked terms payload asked)
    (unplaced : Unplaced (auditedTransport world events id) terms payload asked) :
    Known world (requestEvents world events id asked) id := by
  have requested : ∀ {sent}, sent ++ [.mutate 2106 payload] <+: asked →
      requestEvents world events id sent ++ [.sent id (.openApi 2106 payload)] <+:
        requestEvents world events id asked := by
    intro sent request
    have grows : requestEvents world events id (sent ++ [.mutate 2106 payload]) <+: requestEvents world events id asked :=
      requestEvents_grow request
    rwa [requestEvents_snoc] at grows
  cases unplaced with
  | unsent none_ =>
    rcases entry.requests with rfl | ⟨new, rfl, -⟩
    · refine (unsent.snoc fun mutation same => ?_).known
      cases same
    · rw [List.countP_append] at none_
      exact absurd none_ (by
        change 1 + _ ≠ 0
        omega)
  | notSent reason sent request answer =>
    exact .refused _ 2106 payload (.notSent reason) (requested request) answer fun _ same => nomatch same
  | refused code sent request answer =>
    exact .refused _ 2106 payload (.rejected code) (requested request) answer fun _ same => nomatch same
  | refusal event sent request answer stated unexecuted =>
    exact .refusal _ 2106 payload event (requested request) answer (.inr stated)
  | nothing orderId detail read => exact .unexecuted events terms asked orderId detail (List.prefix_refl _) read

theorem executeMarket_ensures {terms : Terms} {payload : Json} (writing : Writing world id events)
    (unsent : Unsent id events) {well : Except EntryError Placement → List Event → Prop}
    (passes : ∀ result last, Writing world id last → (Definite result → Known world last id) → well result last) :
    (executeMarket world id terms payload).Ensures events well (Sound world) := by
  obtain ⟨entry, sound⟩ := execute_sound (auditedTransport world events id) terms payload
  change well (execute (auditedTransport world events id) terms payload).1
    (requestEvents world events id (execute (auditedTransport world events id) terms payload).2)
  refine passes _ _ (requestEvents_writing writing entry.plain) fun definite => ?_
  cases answer : (execute (auditedTransport world events id) terms payload).1 with
  | ok placement =>
    rw [answer] at sound
    exact .filled events terms _ (List.prefix_refl _) sound
  | error error =>
    rw [answer] at sound definite
    cases error with
    | orderRejectedWithDetail reason => exact Unplaced.known unsent entry sound
    | ambiguousSuccess detail => exact absurd rfl (definite detail)
    | _ => exact sound.elim

theorem submitPending_ensures {payload : Json} {cents : Int} {price : Rat} (writing : Writing world id events)
    {well : Except EntryError Placement → List Event → Prop}
    (passes : ∀ result last, Writing world id last → (Definite result → Known world last id) → well result last) :
    (submitPending world id payload cents price).Ensures events well (Sound world) := by
  unfold submitPending
  refine Asking.ensures_bind (send_ensures writing fun writing => Asking.ensures_pure (passes _ _ writing ?_))
  intro definite
  cases answer : world.mutate events 2106 payload with
  | error error =>
    rw [answer] at definite
    refine .refused events 2106 payload error (List.prefix_refl _) answer fun reason same => ?_
    subst same
    exact definite reason rfl
  | ok event =>
    rw [answer] at definite
    unfold pendingResponse at definite
    dsimp only at definite
    split at definite
    next stated => exact .refusal events 2106 payload event (List.prefix_refl _) answer stated
    next =>
      split at definite
      · exact absurd rfl (definite _)
      next stated =>
        split at definite
        next order same =>
          exact .accepted events payload event order (List.prefix_refl _) answer (not_not.mp stated) same
        · exact absurd rfl (definite _)

theorem keepOutcome_ensures {result : Except EntryError Placement} (writing : Writing world id events)
    (known : Definite result → Known world events id) {well : Except EntryError Placement → List Event → Prop}
    (passes : ∀ result last, Writing world id last → (Definite result → Known world last id) → well result last) :
    (keepOutcome world result).Ensures events well (Sound world) := by
  unfold keepOutcome
  refine Asking.ensures_bind (Asking.ensures_attempt (Asking.ensures_act (fun kept _ => ?_) fun error => ?_))
  · exact passes _ _ writing.looked fun definite => (known definite).looked
  · exact passes _ _ writing.looked fun definite => absurd rfl (definite _)

/-- Entries: what is not ambiguous is known. -/
theorem placeWithClientId_ensures (writing : Writing world id events) (unsent : Unsent id events)
    {well : Except EntryError Placement → List Event → Prop}
    (passes : ∀ result last, Writing world id last → (Definite result → Known world last id) → well result last) :
    (placeWithClientId world id).Ensures events well (Sound world) := by
  unfold placeWithClientId
  refine Asking.ensures_bind (look_writing writing fun planned _ writing => ?_)
  have unsent' := unsent.looked
  cases planned with
  | error error => exact Asking.ensures_pure (passes _ _ writing fun _ => unsent'.known)
  | ok plan =>
    cases plan with
    | market terms payload =>
      refine Asking.ensures_bind (executeMarket_ensures writing unsent' fun result last writing known => ?_)
      exact keepOutcome_ensures writing known passes
    | pending payload cents price =>
      refine Asking.ensures_bind (submitPending_ensures writing fun result last writing known => ?_)
      exact keepOutcome_ensures writing known passes

theorem entryReceipt_definite {result : Except EntryError Placement} (settled : (entryReceipt world id result).2 = true) :
    Definite result := by
  rintro detail rfl
  cases settled

/-- An entry leaves the account's history sound, wherever it ends. -/
theorem placeEntry_sound (intent : List (String × Json)) (sound : Sound world events) :
    Sound world (placeEntry world intent events).2 := by
  refine Asking.Ensures.last ?_
  unfold placeEntry
  refine Asking.ensures_bind (attempt_ensures (companionWrite_ensures sound fun id last writing unsent => ?_) ?_)
  · refine Asking.ensures_bind (placeWithClientId_ensures writing unsent fun result last writing known => ?_)
    refine Asking.ensures_bind (attempt_ensures (recordOutcome_ensures writing.sound
      (fun settled => known (entryReceipt_definite settled)) fun last sound => ?_) ?_)
    · exact Asking.ensures_pure sound
    · exact fun error last sound => Asking.ensures_pure sound
  · exact fun error last sound => Asking.ensures_pure sound

end

end TradeControl.CTrader
