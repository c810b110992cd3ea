import TradeControl.AttemptResolution
import TradeControl.CronNotes

namespace TradeControl.EntryNotifications

open Foundation
open OperatorAlerts
open CronNotes (Journal Incident incidentOf)

/-! Announcing entries: an alert for each order the broker says filled, unless it filled before anyone
was listening. -/

/-- What the observer reads of an entry attempt. -/
structure EntryAttempt where
  account : Option String
  tradeId : String
  instrument : String
  direction : Direction
  brokerOrderId : String
  brokerTradeId : Option String
  placedAt : Int
  expiresAt : Int
  superseded : Bool

def EntryAttempt.key (attempt : EntryAttempt) (source : String) : String :=
  OperatorAlerts.key attempt.account attempt.tradeId source attempt.brokerOrderId

def debugDirection : Direction → String
  | .long => "Long"
  | .short => "Short"

/-- What the broker says of an attempt. -/
abbrev BrokerState := AttemptResolution.AttemptState

def fillDetail : BrokerState → Option String
  | .openPosition brokerTradeId => some ("position=" ++ brokerTradeId)
  | .closedWin _ | .closedLossOrBreakeven _ | .closedConfirmed _ =>
    some "entry confirmed from broker history; position already closed"
  | .pending | .cancelled | .unknown => none

def confirmed (attempt : EntryAttempt) (state : BrokerState) (ts : String) : Option CronNote :=
  (fillDetail state).map fun detail =>
    { ts
      account := attempt.account
      tradeId := attempt.tradeId
      source := "trade-entered"
      severity := .info
      message := attempt.instrument ++ " " ++ debugDirection attempt.direction ++ " entry confirmed: order=" ++
        attempt.brokerOrderId ++ " " ++ detail }

/-- What was asked of a fill before it is written down: whether it may be announced. -/
structure Decision where
  attempt : EntryAttempt
  state : BrokerState
  sounds : Bool

/-- The journal with the markers; `decisions` were taken and may not be acted on yet, or ever. -/
structure World where
  journal : Journal
  activation : Option Int
  markers : List String
  decisions : List Decision

def World.mark (world : World) (markerKey : String) : World :=
  if markerKey ∈ world.markers then world else { world with markers := world.markers ++ [markerKey] }

def World.maySound (world : World) (attempt : EntryAttempt) (activation : Int) : Bool :=
  decide (activation ≤ attempt.placedAt) || decide (attempt.key "entry-pending" ∈ world.markers)

/-- The first statement that one answer of the broker leads to. -/
def World.found (world : World) (attempt : EntryAttempt) (state : BrokerState) (activation : Int) : World :=
  match state with
  | .pending => world.mark (attempt.key "entry-pending")
  | .cancelled => world.mark (attempt.key "entry-baselined")
  | _ =>
    if (fillDetail state).isSome then
      { world with decisions := world.decisions ++ [{ attempt, state, sounds := world.maySound attempt activation }] }
    else world

section
variable (rfc3339 : String → Option Int)

/-- The second: the alert with its note, or the marker that says it was an old fill. -/
def World.act (world : World) (decision : Decision) (ts : String) (now : Int) : World :=
  match confirmed decision.attempt decision.state ts with
  | none => world
  | some note =>
    if decision.sounds then
      { world with
        journal := world.journal.committed
          (world.journal.recordNotification rfc3339 decision.attempt.brokerOrderId note now) }
    else world.mark (decision.attempt.key "entry-baselined")

/-- `record`, where nothing comes between its statements. -/
def World.record (world : World) (attempt : EntryAttempt) (state : BrokerState) (activation : Int) (ts : String)
    (now : Int) : World :=
  (world.found attempt state activation).act rfc3339
    { attempt, state, sounds := world.maySound attempt activation } ts now

end

/-- The entry is announced or known not to be. -/
def World.settled (world : World) (attempt : EntryAttempt) : Bool :=
  world.journal.hasAlert (attempt.key "trade-entered") || decide (attempt.key "entry-baselined" ∈ world.markers)

def considered (attempts : List EntryAttempt) (activation : Int) : List EntryAttempt :=
  attempts.filter fun attempt =>
    !attempt.superseded && !"dry-run".toList.isPrefixOf attempt.brokerOrderId.toList &&
      decide (activation ≤ attempt.expiresAt)

/-- The attempts of one account after another. -/
def byAccount (attempts : List EntryAttempt) : List EntryAttempt :=
  (inOrder (fun account : WithBot String => account) (attempts.map (·.account)).dedup).flatMap fun account =>
    attempts.filter fun attempt => decide (attempt.account = account)

/-- What a poll is told of an attempt: the position it already knows, or the broker's word, where the
broker could be had. -/
def EntryAttempt.answer (lookup : EntryAttempt → Option BrokerState) (attempt : EntryAttempt) : Option BrokerState :=
  match attempt.brokerTradeId with
  | some brokerTradeId => some (.openPosition brokerTradeId)
  | none => lookup attempt

/-- The attempts a poll asks after, those whose position is known first. -/
def World.unsettled (world : World) (attempts : List EntryAttempt) : List EntryAttempt :=
  let waiting := attempts.filter fun attempt => !world.settled attempt
  (waiting.filter fun attempt => attempt.brokerTradeId.isSome) ++
    byAccount (waiting.filter fun attempt => attempt.brokerTradeId.isNone)

section
variable (rfc3339 : String → Option Int)

def World.hear (lookup : EntryAttempt → Option BrokerState) (activation : Int) (ts : String) (now : Int)
    (world : World) (attempt : EntryAttempt) : World :=
  match attempt.answer lookup with
  | some state => world.record rfc3339 attempt state activation ts now
  | none => world

/-- `poll_inner`, where every statement succeeds. -/
def World.poll (world : World) (attempts : List EntryAttempt) (lookup : EntryAttempt → Option BrokerState)
    (ts : String) (now : Int) : World :=
  let activation := world.activation.getD now
  let world := { world with activation := some activation }
  (world.unsettled (considered attempts activation)).foldl (World.hear rfc3339 lookup activation ts now) world

end

/-- What happens, one statement at a time, from any number of workers. -/
inductive Event
  | activated (now : Int)
  | found (attempt : EntryAttempt) (state : BrokerState)
  | acted (decision : Nat) (ts : String) (now : Int)
  | wrote (event : CronNotes.Event)

section
variable (rfc3339 : String → Option Int)

def World.step (world : World) : Event → World
  | .activated now => { world with activation := some (world.activation.getD now) }
  | .found attempt state =>
    match world.activation with
    | some activation => world.found attempt state activation
    | none => world
  | .acted decision ts now =>
    match world.decisions[decision]? with
    | some decision => world.act rfc3339 decision ts now
    | none => world
  | .wrote event => { world with journal := world.journal.step rfc3339 event }

def run (events : List Event) : World :=
  events.foldl (World.step rfc3339)
    { journal := { notes := [], outbox := { rows := [], posts := [] } }
      activation := none
      markers := []
      decisions := [] }

end

def EntryAttempt.SameOrder (attempt other : EntryAttempt) : Prop :=
  attempt.account = other.account ∧ attempt.tradeId = other.tradeId ∧ attempt.brokerOrderId = other.brokerOrderId

/-- The broker said an order filled, and it was placed after the observer began to listen, or had been
seen pending before. -/
def MayAnnounce (events : List Event) (activation : Option Int) (attempt : EntryAttempt) (state : BrokerState) :
    Prop :=
  ∃ earlier later, events = earlier ++ .found attempt state :: later ∧
    ((∃ instant ∈ activation, instant ≤ attempt.placedAt) ∨
      ∃ other, .found other .pending ∈ earlier ∧ attempt.SameOrder other)

/-- What every run leaves of one trade: a note for each alert, and a fill that may be announced for each
alert and for each decision to announce. -/
structure World.Told (world : World) (events : List Event) (incident : Incident) : Prop where
  keyed : world.journal.outbox.Keyed
  notes : world.journal.notesOf incident = (CronNotes.alertsOf world.journal.outbox incident).map Prod.snd
  pending : ∀ attempt : EntryAttempt, attempt.key "entry-pending" ∈ world.markers →
    ∃ other, .found other .pending ∈ events ∧ attempt.SameOrder other
  decisions : ∀ decision ∈ world.decisions, decision.sounds = true →
    MayAnnounce events world.activation decision.attempt decision.state
  alerts : ∀ alert ∈ CronNotes.alertsOf world.journal.outbox incident, ∃ attempt state ts,
    MayAnnounce events world.activation attempt state ∧ attempt.key "trade-entered" = alert.1 ∧
      confirmed attempt state ts = some alert.2

section
variable {rfc3339 : String → Option Int} {world : World} {events : List Event} {incident : Incident}
  {attempt other : EntryAttempt} {state : BrokerState} {event : Event}

theorem key_eq_key {source source' : String} :
    attempt.key source = other.key source' ↔ source = source' ∧ attempt.SameOrder other := by
  unfold EntryAttempt.key EntryAttempt.SameOrder
  rw [key_inj]
  tauto

theorem MayAnnounce.extend {activation activation' : Option Int} (may : MayAnnounce events activation attempt state)
    (kept : ∀ instant ∈ activation, instant ∈ activation') (event : Event) :
    MayAnnounce (events ++ [event]) activation' attempt state := by
  obtain ⟨earlier, later, rfl, reason⟩ := may
  refine ⟨earlier, later ++ [event], by rw [List.append_assoc, List.cons_append], ?_⟩
  exact reason.imp_left fun ⟨instant, listened, placed⟩ => ⟨instant, kept instant listened, placed⟩

/-- A step that leaves the journal and the decisions alone. -/
theorem World.Told.still (told : world.Told events incident) {after : World} (event : Event)
    (journal : after.journal = world.journal) (activation : ∀ instant ∈ world.activation, instant ∈ after.activation)
    (decisions : after.decisions = world.decisions)
    (pending : ∀ attempt : EntryAttempt, attempt.key "entry-pending" ∈ after.markers →
      ∃ other, .found other .pending ∈ events ++ [event] ∧ attempt.SameOrder other) :
    after.Told (events ++ [event]) incident where
  keyed := journal ▸ told.keyed
  notes := journal ▸ told.notes
  pending := pending
  decisions decision member sounds :=
    (told.decisions decision (decisions ▸ member) sounds).extend activation event
  alerts alert member := by
    obtain ⟨attempt, state, ts, may, same, note⟩ := told.alerts alert (journal ▸ member)
    exact ⟨attempt, state, ts, may.extend activation event, same, note⟩

theorem mem_mark {markerKey wanted : String} (member : wanted ∈ (world.mark markerKey).markers) :
    wanted ∈ world.markers ∨ wanted = markerKey := by
  unfold World.mark at member
  split at member
  · exact .inl member
  · exact (List.mem_append.mp member).imp_right List.mem_singleton.mp

theorem mark_rest (world : World) (markerKey : String) :
    (world.mark markerKey).journal = world.journal ∧ (world.mark markerKey).activation = world.activation ∧
      (world.mark markerKey).decisions = world.decisions := by
  unfold World.mark
  split
  · exact ⟨rfl, rfl, rfl⟩
  · exact ⟨rfl, rfl, rfl⟩

theorem World.Told.pending_extend (told : world.Told events incident) (event : Event) (attempt : EntryAttempt)
    (marked : attempt.key "entry-pending" ∈ world.markers) :
    ∃ other, .found other .pending ∈ events ++ [event] ∧ attempt.SameOrder other := by
  obtain ⟨other, heard, same⟩ := told.pending attempt marked
  exact ⟨other, List.mem_append_left _ heard, same⟩

/-- A marker of any other kind than pending. -/
theorem World.Told.mark (told : world.Told events incident) (event : Event) (attempt : EntryAttempt) :
    (world.mark (attempt.key "entry-baselined")).Told (events ++ [event]) incident := by
  obtain ⟨journal, activation, decisions⟩ := mark_rest world (attempt.key "entry-baselined")
  refine told.still event journal (fun instant listened => activation ▸ listened) decisions fun other marked => ?_
  rcases mem_mark marked with earlier | fresh
  · exact told.pending_extend event other earlier
  · exact absurd (key_eq_key.mp fresh).1 (by decide)

theorem World.Told.unmoved (told : world.Told events incident) (event : Event) :
    world.Told (events ++ [event]) incident :=
  told.still event rfl (fun _ listened => listened) rfl (told.pending_extend event)

theorem World.Told.found (told : world.Told events incident) {activation : Int}
    (listens : world.activation = some activation) (attempt : EntryAttempt) (state : BrokerState) :
    (world.found attempt state activation).Told (events ++ [.found attempt state]) incident := by
  have decided (filled : (fillDetail state).isSome = true) : World.Told
      { world with decisions := world.decisions ++ [{ attempt, state, sounds := world.maySound attempt activation }] }
      (events ++ [.found attempt state]) incident := by
    have base := told.unmoved (.found attempt state)
    refine ⟨base.keyed, base.notes, base.pending, fun decision member sounds => ?_, base.alerts⟩
    rcases List.mem_append.mp member with earlier | last
    · exact base.decisions decision earlier sounds
    · cases List.mem_singleton.mp last
      refine ⟨events, [], rfl, ?_⟩
      rcases Bool.or_eq_true_iff.mp sounds with placed | seen
      · exact .inl ⟨activation, listens, of_decide_eq_true placed⟩
      · exact .inr (told.pending attempt (of_decide_eq_true seen))
  cases state with
  | pending =>
    obtain ⟨journal, same, decisions⟩ := mark_rest world (attempt.key "entry-pending")
    refine told.still _ journal (fun instant listened => same ▸ listened) decisions fun other marked => ?_
    rcases mem_mark marked with earlier | fresh
    · exact told.pending_extend _ other earlier
    · exact ⟨attempt, List.mem_append_right _ (List.mem_singleton.mpr rfl), (key_eq_key.mp fresh).2⟩
  | cancelled => exact told.mark _ attempt
  | unknown => exact told.unmoved _
  | openPosition brokerTradeId => exact decided rfl
  | closedWin realizedPl => exact decided rfl
  | closedLossOrBreakeven realizedPl => exact decided rfl
  | closedConfirmed exit => exact decided rfl

theorem confirmed_some {ts : String} {note : CronNote} (confirms : confirmed attempt state ts = some note) :
    incidentOf note = (attempt.account, attempt.tradeId, "trade-entered") := by
  obtain ⟨detail, -, rfl⟩ := Option.map_eq_some_iff.mp confirms
  rfl

theorem World.Told.act (told : world.Told events incident) {decision : Decision} (taken : decision ∈ world.decisions)
    (ts : String) (now : Int) (event : Event) :
    (world.act rfc3339 decision ts now).Told (events ++ [event]) incident := by
  unfold World.act
  split
  · exact told.unmoved event
  · next note confirms =>
    split
    · next sounds =>
      cases done : world.journal.recordNotification rfc3339 decision.attempt.brokerOrderId note now with
      | error failure => exact told.unmoved event
      | ok result =>
        obtain ⟨after, inserted⟩ := result
        have left := CronNotes.recordNotification_ok done
        rw [Journal.committed]
        split at left
        · rw [left]
          exact told.unmoved event
        · next fresh =>
          have base := told.unmoved event
          have named : OperatorAlerts.key note.account note.tradeId note.source decision.attempt.brokerOrderId =
              decision.attempt.key "trade-entered" := by
            have own := confirmed_some confirms
            unfold incidentOf at own
            simp only [Prod.mk.injEq] at own
            rw [own.1, own.2.1, own.2.2]
            rfl
          have queued : after.outbox = world.journal.outbox.enqueue
              (OperatorAlerts.key note.account note.tradeId note.source decision.attempt.brokerOrderId) note now := by
            rw [left]
          have noted : after.notesOf incident = if incidentOf note = incident then
              world.journal.notesOf incident ++ [note] else world.journal.notesOf incident := by
            rw [left]
            exact CronNotes.notesOf_append world.journal note none incident
          have alerts : CronNotes.alertsOf after.outbox incident = if incidentOf note = incident then
              CronNotes.alertsOf world.journal.outbox incident ++ [(decision.attempt.key "trade-entered", note)]
              else CronNotes.alertsOf world.journal.outbox incident := by
            rw [queued, CronNotes.enqueue_alertsOf, named]
            rw [named] at fresh
            unfold CronNotes.Journal.hasAlert at fresh
            by_cases own : incidentOf note = incident
            · rw [if_pos own, if_neg (not_or.mpr ⟨fresh, not_not.mpr own⟩)]
            · rw [if_neg own, if_pos (.inr own)]
          refine ⟨queued ▸ told.keyed.step (.enqueue _ note now), ?_, base.pending, base.decisions,
            fun alert member => ?_⟩
          · rw [noted, alerts]
            split
            · rw [List.map_append, told.notes]
              rfl
            · exact told.notes
          · rw [alerts] at member
            split at member
            · rcases List.mem_append.mp member with earlier | last
              · exact base.alerts alert earlier
              · cases List.mem_singleton.mp last
                exact ⟨decision.attempt, decision.state, ts, base.decisions decision taken sounds, rfl, confirms⟩
            · exact base.alerts alert member
    · exact told.mark event decision.attempt

theorem run_append (rfc3339 : String → Option Int) (events : List Event) (event : Event) :
    run rfc3339 (events ++ [event]) = (run rfc3339 events).step rfc3339 event := by
  unfold run
  rw [List.foldl_append]
  rfl

theorem run_told (rfc3339 : String → Option Int) (events : List Event)
    (apart : ∀ event, .wrote event ∈ events → event.source ≠ some "trade-entered") (account : Option String)
    (tradeId : String) : (run rfc3339 events).Told events (account, tradeId, "trade-entered") := by
  induction events using List.reverseRecOn with
  | nil => exact ⟨.nil, rfl, fun attempt marked => (by cases marked), fun decision member => (by cases member),
      fun alert member => (by cases member)⟩
  | append_singleton events event ih =>
    have told := ih fun other member => apart other (List.mem_append_left _ member)
    rw [run_append]
    cases event with
    | activated now =>
      refine told.still _ rfl (fun instant listened => ?_) rfl (told.pending_extend _)
      have same : (run rfc3339 events).activation = some instant := listened
      exact congrArg (fun known : Option Int => some (known.getD now)) same
    | found attempt state =>
      simp only [World.step]
      cases listens : (run rfc3339 events).activation with
      | none => exact told.unmoved _
      | some activation => exact told.found listens attempt state
    | acted decision ts now =>
      simp only [World.step]
      cases taken : (run rfc3339 events).decisions[decision]? with
      | none => exact told.unmoved _
      | some decision => exact told.act (List.mem_of_getElem? taken) ts now _
    | wrote event =>
      have other := apart event (List.mem_append_right _ (List.mem_singleton.mpr rfl))
      have base := told.unmoved (.wrote event)
      have notes : ((run rfc3339 events).journal.step rfc3339 event).notesOf (account, tradeId, "trade-entered") =
          (run rfc3339 events).journal.notesOf (account, tradeId, "trade-entered") :=
        CronNotes.step_notesOf_apart rfc3339 other
      have alerts : CronNotes.alertsOf ((run rfc3339 events).journal.step rfc3339 event).outbox
          (account, tradeId, "trade-entered") =
          CronNotes.alertsOf (run rfc3339 events).journal.outbox (account, tradeId, "trade-entered") :=
        CronNotes.step_alertsOf_apart rfc3339 told.keyed other
      refine ⟨(CronNotes.step_outbox rfc3339 told.keyed event).1, ?_, base.pending, base.decisions, ?_⟩
      · rw [World.step, notes, alerts]
        exact told.notes
      · rw [World.step, alerts]
        exact base.alerts

end

theorem alertsOf_nodup {outbox : Outbox String} (keyed : outbox.Keyed) (incident : Incident) :
    ((CronNotes.alertsOf outbox incident).map Prod.fst).Nodup := by
  unfold CronNotes.alertsOf
  rw [List.map_map]
  exact keyed.sublist (List.filter_sublist.map _)

/-- However observers and other passes interleave, a trade's entry notes are its entry alerts, one for
an order at most, and each tells of an order the broker said filled that was placed after the observer
began to listen or seen pending before: an old fill stays quiet. -/
theorem entryAlerts_told (rfc3339 : String → Option Int) (events : List Event)
    (apart : ∀ event, .wrote event ∈ events → event.source ≠ some "trade-entered") (account : Option String)
    (tradeId : String) :
    (run rfc3339 events).journal.notesOf (account, tradeId, "trade-entered") =
        (CronNotes.alertsOf (run rfc3339 events).journal.outbox (account, tradeId, "trade-entered")).map Prod.snd ∧
      ((CronNotes.alertsOf (run rfc3339 events).journal.outbox (account, tradeId, "trade-entered")).map
        Prod.fst).Nodup ∧
      ∀ alert ∈ CronNotes.alertsOf (run rfc3339 events).journal.outbox (account, tradeId, "trade-entered"),
        ∃ attempt state ts, MayAnnounce events (run rfc3339 events).activation attempt state ∧
          attempt.key "trade-entered" = alert.1 ∧ confirmed attempt state ts = some alert.2 := by
  have told := run_told rfc3339 events apart account tradeId
  exact ⟨told.notes, alertsOf_nodup told.keyed _, told.alerts⟩

/-- The broker's word that settles an entry: it filled or it never will. -/
def conclusive (state : BrokerState) : Bool := (fillDetail state).isSome || decide (state = .cancelled)

section
variable {rfc3339 : String → Option Int} {world after : World} {attempt : EntryAttempt} {state : BrokerState}
  {activation : Int} {ts : String} {now : Int} {lookup : EntryAttempt → Option BrokerState}

/-- What a poll keeps: one row for each key, and what it goes on from; markers and alerts stay. -/
structure World.Grew (before after : World) : Prop where
  keyed : before.journal.outbox.Keyed → after.journal.outbox.Keyed
  activation : after.activation = before.activation
  settled : before.journal.outbox.Keyed → ∀ attempt, before.settled attempt = true → after.settled attempt = true

theorem World.Grew.refl (world : World) : world.Grew world := ⟨id, rfl, fun _ _ => id⟩

theorem World.Grew.trans {middle : World} (first : world.Grew middle) (second : middle.Grew after) :
    world.Grew after :=
  ⟨second.keyed ∘ first.keyed, second.activation.trans first.activation,
    fun keyed attempt before => second.settled (first.keyed keyed) attempt (first.settled keyed attempt before)⟩

theorem settled_iff : world.settled attempt = true ↔ world.journal.hasAlert (attempt.key "trade-entered") = true ∨
    attempt.key "entry-baselined" ∈ world.markers := by
  unfold World.settled
  rw [Bool.or_eq_true, decide_eq_true_iff]

theorem mark_grew (world : World) (markerKey : String) : world.Grew (world.mark markerKey) := by
  unfold World.mark
  split
  · exact .refl world
  · refine ⟨id, rfl, fun _ attempt settled => settled_iff.mpr ?_⟩
    exact (settled_iff.mp settled).imp_right (List.mem_append_left _)

theorem mem_mark_self (world : World) (markerKey : String) : markerKey ∈ (world.mark markerKey).markers := by
  unfold World.mark
  split
  · next present => exact present
  · exact List.mem_append_right _ (List.mem_singleton.mpr rfl)

theorem found_grew (world : World) (attempt : EntryAttempt) (state : BrokerState) (activation : Int) :
    world.Grew (world.found attempt state activation) := by
  cases state with
  | pending => exact mark_grew world _
  | cancelled => exact mark_grew world _
  | unknown => exact .refl world
  | openPosition brokerTradeId => exact ⟨id, rfl, fun _ _ => id⟩
  | closedWin realizedPl => exact ⟨id, rfl, fun _ _ => id⟩
  | closedLossOrBreakeven realizedPl => exact ⟨id, rfl, fun _ _ => id⟩
  | closedConfirmed exit => exact ⟨id, rfl, fun _ _ => id⟩

theorem act_grew (rfc3339 : String → Option Int) (world : World) (decision : Decision) (ts : String) (now : Int) :
    world.Grew (world.act rfc3339 decision ts now) := by
  unfold World.act
  split
  · exact .refl world
  · next note confirms =>
    split
    · refine ⟨fun keyed => (CronNotes.step_outbox rfc3339 keyed
        (.notification decision.attempt.brokerOrderId note now)).1, rfl,
        fun keyed attempt settled => settled_iff.mpr ?_⟩
      exact (settled_iff.mp settled).imp_left ((CronNotes.step_outbox rfc3339 keyed
        (.notification decision.attempt.brokerOrderId note now)).2 _)
    · exact mark_grew world _

theorem record_grew (rfc3339 : String → Option Int) (world : World) (attempt : EntryAttempt) (state : BrokerState)
    (activation : Int) (ts : String) (now : Int) :
    world.Grew (world.record rfc3339 attempt state activation ts now) :=
  (found_grew world attempt state activation).trans (act_grew rfc3339 _ _ ts now)

theorem act_settled (stamped : (rfc3339 ts).isSome = true) (filled : (fillDetail state).isSome = true) (sounds : Bool) :
    (world.act rfc3339 { attempt, state, sounds } ts now).settled attempt = true := by
  obtain ⟨detail, known⟩ := Option.isSome_iff_exists.mp filled
  rw [settled_iff]
  unfold World.act confirmed
  rw [known, Option.map_some]
  dsimp only
  split
  · left
    obtain ⟨instant, parsed⟩ := Option.isSome_iff_exists.mp stamped
    unfold CronNotes.Journal.recordNotification
    dsimp only
    split
    · next present => exact present
    · rw [parsed]
      refine CronNotes.hasAlert_iff.mpr ?_
      obtain ⟨row, there, named⟩ := (CronNotes.hasAlert_enqueue world.journal.outbox
        (attempt.key "trade-entered") _ now).1
      exact List.mem_map.mpr ⟨row, there, named⟩
  · right
    exact mem_mark_self world _

theorem record_settled (stamped : (rfc3339 ts).isSome = true) (settles : conclusive state = true) :
    (world.record rfc3339 attempt state activation ts now).settled attempt = true := by
  rcases Bool.or_eq_true_iff.mp settles with filled | cancelled
  · exact act_settled stamped filled _
  · cases of_decide_eq_true cancelled
    exact settled_iff.mpr (.inr (mem_mark_self world _))

theorem hear_grew (rfc3339 : String → Option Int) (lookup : EntryAttempt → Option BrokerState) (activation : Int)
    (ts : String) (now : Int) (world : World) (attempt : EntryAttempt) :
    world.Grew (World.hear rfc3339 lookup activation ts now world attempt) := by
  unfold World.hear
  split
  · exact record_grew rfc3339 world attempt _ activation ts now
  · exact .refl world

theorem hears_grew (rfc3339 : String → Option Int) (lookup : EntryAttempt → Option BrokerState) (activation : Int)
    (ts : String) (now : Int) (world : World) (attempts : List EntryAttempt) :
    world.Grew (attempts.foldl (World.hear rfc3339 lookup activation ts now) world) := by
  induction attempts generalizing world with
  | nil => exact .refl world
  | cons first rest ih => exact (hear_grew rfc3339 lookup activation ts now world first).trans (ih _)

theorem hears_settled {attempts : List EntryAttempt} (keyed : world.journal.outbox.Keyed)
    (stamped : (rfc3339 ts).isSome = true) (member : attempt ∈ attempts) (told : attempt.answer lookup = some state)
    (settles : conclusive state = true) :
    (attempts.foldl (World.hear rfc3339 lookup activation ts now) world).settled attempt = true := by
  induction attempts generalizing world with
  | nil => cases member
  | cons first rest ih =>
    have grew := hear_grew rfc3339 lookup activation ts now world first
    rcases List.mem_cons.mp member with rfl | later
    · refine (hears_grew rfc3339 lookup activation ts now _ rest).settled (grew.keyed keyed) attempt ?_
      unfold World.hear
      rw [told]
      exact record_settled stamped settles
    · exact ih (grew.keyed keyed) later

theorem mem_byAccount {attempts : List EntryAttempt} (member : attempt ∈ attempts) : attempt ∈ byAccount attempts := by
  refine List.mem_flatMap.mpr ⟨attempt.account, ?_, List.mem_filter.mpr ⟨member, decide_eq_true rfl⟩⟩
  exact mem_inOrder.mpr (List.mem_dedup.mpr (List.mem_map_of_mem member))

theorem mem_unsettled {attempts : List EntryAttempt} (member : attempt ∈ attempts)
    (open_ : world.settled attempt = false) : attempt ∈ world.unsettled attempts := by
  have waiting : attempt ∈ attempts.filter fun attempt => !world.settled attempt :=
    List.mem_filter.mpr ⟨member, by rw [open_]; rfl⟩
  cases known : attempt.brokerTradeId with
  | some brokerTradeId =>
    exact List.mem_append_left _ (List.mem_filter.mpr ⟨waiting, by rw [known]; rfl⟩)
  | none =>
    exact List.mem_append_right _ (mem_byAccount (List.mem_filter.mpr ⟨waiting, by rw [known]; rfl⟩))

theorem run_keyed (rfc3339 : String → Option Int) (events : List Event) :
    (run rfc3339 events).journal.outbox.Keyed := by
  induction events using List.reverseRecOn with
  | nil => exact .nil
  | append_singleton events event ih =>
    rw [run_append]
    cases event with
    | activated now => exact ih
    | found attempt state =>
      simp only [World.step]
      cases (run rfc3339 events).activation with
      | none => exact ih
      | some activation => exact (found_grew _ attempt state activation).keyed ih
    | acted decision ts now =>
      simp only [World.step]
      cases (run rfc3339 events).decisions[decision]? with
      | none => exact ih
      | some decision => exact (act_grew rfc3339 _ decision ts now).keyed ih
    | wrote event => exact (CronNotes.step_outbox rfc3339 ih event).1

/-- One attempt's turn is no more than statements one after another. -/
theorem record_run (listens : world.activation = some activation) :
    ∃ events : List Event, events.foldl (World.step rfc3339) world =
      world.record rfc3339 attempt state activation ts now := by
  have foundStep : world.step rfc3339 (.found attempt state) = world.found attempt state activation := by
    simp only [World.step, listens]
  by_cases filled : (fillDetail state).isSome = true
  · refine ⟨[.found attempt state, .acted world.decisions.length ts now], ?_⟩
    have decided : (world.found attempt state activation).decisions = world.decisions ++
        [{ attempt, state, sounds := world.maySound attempt activation }] := by
      cases state with
      | pending => cases filled
      | cancelled => cases filled
      | unknown => cases filled
      | openPosition brokerTradeId => rfl
      | closedWin realizedPl => rfl
      | closedLossOrBreakeven realizedPl => rfl
      | closedConfirmed exit => rfl
    rw [List.foldl_cons, foundStep, List.foldl_cons, List.foldl_nil]
    simp only [World.step, decided, List.getElem?_concat_length]
    rfl
  · refine ⟨[.found attempt state], ?_⟩
    rw [List.foldl_cons, foundStep, List.foldl_nil]
    unfold World.record World.act confirmed
    rw [Option.not_isSome_iff_eq_none.mp filled]
    rfl

theorem hears_run (rfc3339 : String → Option Int) (lookup : EntryAttempt → Option BrokerState) (ts : String)
    (now : Int) (world : World) (listens : world.activation = some activation) (attempts : List EntryAttempt) :
    ∃ events : List Event, events.foldl (World.step rfc3339) world =
      attempts.foldl (World.hear rfc3339 lookup activation ts now) world := by
  induction attempts generalizing world with
  | nil => exact ⟨[], rfl⟩
  | cons first rest ih =>
    have one : ∃ events : List Event, events.foldl (World.step rfc3339) world =
        World.hear rfc3339 lookup activation ts now world first := by
      unfold World.hear
      split
      · exact record_run listens
      · exact ⟨[], rfl⟩
    obtain ⟨events, heard⟩ := one
    have still := (hear_grew rfc3339 lookup activation ts now world first).activation
    obtain ⟨later, reached⟩ := ih _ (still.trans listens)
    exact ⟨events ++ later, by rw [List.foldl_append, heard, reached, List.foldl_cons]⟩

end

/-- A poll is statements one after another; where each succeeds, it leaves every attempt it considers
announced or known to be old once the broker was heard to say that it filled or never will. -/
theorem poll_settled (rfc3339 : String → Option Int) (events : List Event) (attempts : List EntryAttempt)
    (lookup : EntryAttempt → Option BrokerState) (ts : String) (now : Int) (stamped : (rfc3339 ts).isSome = true) :
    ∃ more, (run rfc3339 events).poll rfc3339 attempts lookup ts now = run rfc3339 (events ++ more) ∧
      ∀ attempt ∈ considered attempts ((run rfc3339 events).activation.getD now), ∀ state,
        attempt.answer lookup = some state → conclusive state = true →
          (run rfc3339 (events ++ more)).settled attempt = true := by
  obtain ⟨turns, heard⟩ := hears_run rfc3339 lookup ts now ((run rfc3339 events).step rfc3339 (.activated now)) rfl
    (((run rfc3339 events).step rfc3339 (.activated now)).unsettled
      (considered attempts ((run rfc3339 events).activation.getD now)))
  have reached : (run rfc3339 events).poll rfc3339 attempts lookup ts now =
      run rfc3339 (events ++ .activated now :: turns) := by
    unfold run
    rw [List.foldl_append, List.foldl_cons]
    exact heard.symm
  refine ⟨.activated now :: turns, reached, fun attempt member state told settles => ?_⟩
  rw [← reached]
  have start := run_keyed rfc3339 (events ++ [.activated now])
  rw [run_append] at start
  cases before : ((run rfc3339 events).step rfc3339 (.activated now)).settled attempt with
  | true => exact (hears_grew rfc3339 lookup _ ts now _ _).settled start attempt before
  | false => exact hears_settled start stamped (mem_unsettled member before) told settles

/-- An order that was placed before anyone listened. -/
def restingAttempt : EntryAttempt where
  account := some "competition"
  tradeId := "gbpaud"
  instrument := "GBPAUD"
  direction := .short
  brokerOrderId := "order-1"
  brokerTradeId := none
  placedAt := 0
  expiresAt := 100
  superseded := false

/-- It is seen pending, and then fills. -/
def restingEvents : List Event :=
  [.activated 10, .found restingAttempt .pending, .found restingAttempt (.openPosition "position-1"), .acted 0 "" 12]

theorem entryAlerts_told_resting :
    (CronNotes.alertsOf (run (fun _ => some 0) restingEvents).journal.outbox
        (some "competition", "gbpaud", "trade-entered")).length = 1 ∧
      ∀ alert ∈ CronNotes.alertsOf (run (fun _ => some 0) restingEvents).journal.outbox
        (some "competition", "gbpaud", "trade-entered"), ∃ attempt state ts,
          MayAnnounce restingEvents (run (fun _ => some 0) restingEvents).activation attempt state ∧
            attempt.key "trade-entered" = alert.1 ∧ confirmed attempt state ts = some alert.2 := by
  have apart : ∀ event, .wrote event ∈ restingEvents → event.source ≠ some "trade-entered" := by
    simp [restingEvents]
  exact ⟨by decide, (entryAlerts_told (fun _ => some 0) restingEvents apart (some "competition") "gbpaud").2.2⟩

theorem poll_settled_resting :
    ∃ more, (run (fun _ => some 0) [.activated 10]).poll (fun _ => some 0) [restingAttempt]
        (fun _ => some .cancelled) "" 12 = run (fun _ => some 0) ([.activated 10] ++ more) ∧
      (run (fun _ => some 0) ([.activated 10] ++ more)).settled restingAttempt = true := by
  obtain ⟨more, polled, settled⟩ := poll_settled (fun _ => some 0) [.activated 10] [restingAttempt]
    (fun _ => some .cancelled) "" 12 rfl
  have member : restingAttempt ∈
      considered [restingAttempt] ((run (fun _ => some 0) [.activated 10]).activation.getD 12) :=
    List.mem_filter.mpr ⟨List.mem_singleton.mpr rfl, by decide⟩
  exact ⟨more, polled, settled restingAttempt member .cancelled rfl rfl⟩

end TradeControl.EntryNotifications
