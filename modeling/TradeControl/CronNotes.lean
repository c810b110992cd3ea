import Mathlib.Data.List.Destutter
import Mathlib.Data.String.Basic
import TradeControl.Foundation.Checked
import TradeControl.OperatorAlerts

namespace TradeControl.CronNotes

open Foundation
open OperatorAlerts

/-! The timeline that the passes leave notes on, with the outbox that is written along with it. -/

/-- A row of `cron_notes`: the note, and the signal it is of where it is a paper entry. -/
structure NoteRow where
  note : CronNote
  paperEntryIdentity : Option String

structure Journal where
  notes : List NoteRow
  outbox : Outbox String

/-- What notes of one kind are about: an account's trade, and the pass that tells of it. -/
abbrev Incident := Option String × String × String

def incidentOf (note : CronNote) : Incident := (note.account, note.tradeId, note.source)

/-- The notes of an incident, oldest first. -/
def Journal.notesOf (journal : Journal) (incident : Incident) : List CronNote :=
  (journal.notes.map (·.note)).filter fun note => decide (incidentOf note = incident)

def Journal.append (journal : Journal) (note : CronNote) (paperEntryIdentity : Option String) : Journal :=
  { journal with notes := journal.notes ++ [{ note, paperEntryIdentity }] }

/-- `operator_alert::enqueue`: the key is of the note's own instant. -/
def Journal.enqueue (journal : Journal) (note : CronNote) (now : Int) : Journal :=
  { journal with outbox := journal.outbox.enqueue (key note.account note.tradeId note.source note.ts) note now }

/-- `record_cron_note`. -/
def Journal.recordCronNote (journal : Journal) (note : CronNote) (now : Int) : Journal :=
  if note.severity = .info then journal.append note none else (journal.append note none).enqueue note now

def changed (previous : Option CronNote) (next : CronNote) : Bool :=
  match previous with
  | none => decide (next.severity ≠ .info)
  | some previous => decide (previous.severity ≠ next.severity ∨ previous.message ≠ next.message)

section
variable (rfc3339 : String → Option Int)

/-- `engine_health::record`: the note of an incident that goes on is the one already there. -/
def Journal.recordHealth (journal : Journal) (next : CronNote) (now : Int) :
    Except String (Journal × Option CronNote) :=
  let previous := (journal.notesOf (incidentOf next)).getLast?
  if changed previous next then do
    let _ ← required (rfc3339 next.ts) "invalid timestamp"
    return ((journal.append next none).enqueue next now, some next)
  else .ok (journal, previous)

def NoteRow.isPaper (incident : Incident) (identity : String) (row : NoteRow) : Bool :=
  decide (incidentOf row.note = incident ∧ row.paperEntryIdentity = some identity)

def Journal.hasPaper (journal : Journal) (incident : Incident) (identity : String) : Bool :=
  journal.notes.any (NoteRow.isPaper incident identity)

/-- `paper_entries::record`. -/
def Journal.recordPaper (journal : Journal) (identity : String) (note : CronNote) :
    Except String (Journal × Bool) := do
  let _ ← required (rfc3339 note.ts) "invalid timestamp"
  if journal.hasPaper (incidentOf note) identity then return (journal, false)
  else return (journal.append note (some identity), true)

def Journal.hasAlert (journal : Journal) (eventKey : String) : Bool :=
  journal.outbox.rows.any fun row => decide (row.eventKey = eventKey)

/-- `trade_notifications::record`. -/
def Journal.recordNotification (journal : Journal) (identity : String) (note : CronNote) (now : Int) :
    Except String (Journal × Bool) :=
  let eventKey := key note.account note.tradeId note.source identity
  if journal.hasAlert eventKey then .ok (journal, false)
  else do
    let _ ← required (rfc3339 note.ts) "invalid timestamp"
    return ({ (journal.append note none) with outbox := journal.outbox.enqueue eventKey note now }, true)

end

/-- A rule that fired in an evaluation; `message` is what its entry note says of the resolved bracket. -/
structure FiredIntent where
  ruleId : String
  intentId : String
  bar : Int
  enters : Bool
  severity : CronNoteSeverity
  message : String

/-- Whose plan is evaluated; a shadow plan only leaves notes. -/
structure StoredPlan where
  account : Option String
  tradeId : String
  shadow : Bool

def decimal (n : Int) : List Char := if n < 0 then '-' :: Nat.toDigits 10 n.natAbs else Nat.toDigits 10 n.natAbs

def sizedText (text : List Char) : List Char :=
  (Nat.toDigits 10 (text.map Char.utf8Size).sum ++ [':']) ++ text

def entryIdentity (fired : FiredIntent) : String :=
  String.ofList (sizedText fired.ruleId.toList ++ sizedText fired.intentId.toList ++ ([':'] ++ decimal fired.bar))

def entryNote (stored : StoredPlan) (fired : FiredIntent) (ts : String) : CronNote where
  ts := ts
  account := stored.account
  tradeId := stored.tradeId
  source := "paper-entry"
  severity := fired.severity
  message := fired.message

section
variable (rfc3339 : String → Option Int)

/-- The entries are written one after another, up to the first whose write fails. -/
def Journal.writeEntries (stored : StoredPlan) (ts : String) (fails : FiredIntent → Bool) (journal : Journal) :
    List FiredIntent → Journal × Bool
  | [] => (journal, true)
  | fired :: rest =>
    if fails fired then (journal, false)
    else
      match journal.recordPaper rfc3339 (entryIdentity fired) (entryNote stored fired ts) with
      | .error _ => (journal, false)
      | .ok (written, _) => Journal.writeEntries stored ts fails written rest

/-- `record_then_advance`: the journal it leaves, and whether the signals may be consumed. -/
def Journal.recordThenAdvance (stored : StoredPlan) (ts : String) (fails : FiredIntent → Bool) (journal : Journal)
    (fired : List FiredIntent) : Journal × Bool :=
  if stored.shadow then journal.writeEntries rfc3339 stored ts fails (fired.filter (·.enters)) else (journal, true)

end

/-- What writes the timeline, one transaction at a time: a pass that leaves a note, a health report, a
plan or order that is announced once, a tick of a plan. The alerts are flushed meanwhile. -/
inductive Event
  | noted (note : CronNote) (now : Int)
  | health (next : CronNote) (now : Int)
  | notification (identity : String) (note : CronNote) (now : Int)
  | tick (stored : StoredPlan) (ts : String) (fails : FiredIntent → Bool) (fired : List FiredIntent)
  | drain (flush : Flush String)

section
variable (rfc3339 : String → Option Int)

/-- A transaction that fails leaves the journal as it was. -/
def Journal.committed (journal : Journal) {Value : Type} : Except String (Journal × Value) → Journal
  | .ok (after, _) => after
  | .error _ => journal

def Journal.step (journal : Journal) : Event → Journal
  | .noted note now => journal.recordCronNote note now
  | .health next now => journal.committed (journal.recordHealth rfc3339 next now)
  | .notification identity note now => journal.committed (journal.recordNotification rfc3339 identity note now)
  | .tick stored ts fails fired => (journal.recordThenAdvance rfc3339 stored ts fails fired).1
  | .drain flush => { journal with outbox := journal.outbox.drain flush }

def run (events : List Event) : Journal :=
  events.foldl (Journal.step rfc3339) { notes := [], outbox := { rows := [], posts := [] } }

end

theorem decimal_injective : Function.Injective decimal := by
  have digits : ∀ n m : Nat, Nat.toDigits 10 n = Nat.toDigits 10 m → n = m := by
    intro n m same
    have closed : Nat.toDigits 10 n ++ [':'] ++ [] = Nat.toDigits 10 m ++ [':'] ++ [] := by rw [same]
    exact (selfDelimiting_toDigits (by decide : ':'.isDigit = false) closed).1
  have unsigned : ∀ (n : Nat) rest, Nat.toDigits 10 n ≠ '-' :: rest := by
    intro n rest same
    have digit := Nat.isDigit_of_mem_toDigits (n := n) (by decide : 0 < 10) (by decide) (same ▸ List.mem_cons_self)
    exact absurd digit (by decide)
  intro a b same
  unfold decimal at same
  split at same
  · next negative =>
    split at same
    · have magnitude := digits _ _ (List.cons.inj same).2
      omega
    · exact absurd same.symm (unsigned _ _)
  · next natural =>
    split at same
    · exact absurd same (unsigned _ _)
    · have magnitude := digits _ _ same
      omega

theorem sizedText_selfDelimiting : SelfDelimiting sizedText := by
  refine (selfDelimiting_toDigits (by decide : ':'.isDigit = false)).sized fun text char rest => ?_
  have wide := char.utf8Size_pos
  rw [List.map_append, List.sum_append, List.map_cons, List.sum_cons]
  omega

/-- Signals are told apart by their identities: those of two rules, intents or bars differ, whatever
characters the names have. -/
theorem entryIdentity_inj {fired other : FiredIntent} :
    entryIdentity fired = entryIdentity other ↔
      fired.ruleId = other.ruleId ∧ fired.intentId = other.intentId ∧ fired.bar = other.bar := by
  constructor
  · intro same
    have texts := String.ofList_injective same
    rw [List.append_assoc, List.append_assoc] at texts
    obtain ⟨rule, later⟩ := sizedText_selfDelimiting texts
    obtain ⟨intent, bar⟩ := sizedText_selfDelimiting later
    exact ⟨String.toList_inj.mp rule, String.toList_inj.mp intent, decimal_injective (List.append_cancel_left bar)⟩
  · rintro ⟨rule, intent, bar⟩
    unfold entryIdentity
    rw [rule, intent, bar]

def Changed (previous next : CronNote) : Prop :=
  previous.severity ≠ next.severity ∨ previous.message ≠ next.message

instance : DecidableRel Changed := fun previous next =>
  inferInstanceAs (Decidable (previous.severity ≠ next.severity ∨ previous.message ≠ next.message))

def CronNote.isInfo (note : CronNote) : Bool := decide (note.severity = .info)

/-- What is left of a series of health reports: the incidents from the first failure on, each report
that says what the one before it said taken out. -/
def transitions (reports : List CronNote) : List CronNote := (reports.dropWhile CronNote.isInfo).destutter Changed

theorem destutter'_concat {Item : Type} {related : Item → Item → Prop} [DecidableRel related] (first last : Item)
    (items : List Item) : (items ++ [last]).destutter' related first =
      if related ((items.destutter' related first).getLastD first) last then
        items.destutter' related first ++ [last]
      else items.destutter' related first := by
  induction items generalizing first with
  | nil =>
    rw [List.nil_append, List.destutter'_singleton, List.destutter'_nil]
    rfl
  | cons item rest ih =>
    rw [List.cons_append, List.destutter'_cons, List.destutter'_cons]
    split
    · rw [ih]
      have kept : ((first :: rest.destutter' related item).getLastD first) =
          (rest.destutter' related item).getLastD item := by
        cases shape : rest.destutter' related item with
        | nil => exact absurd shape (List.destutter'_ne_nil _ _)
        | cons a b => rfl
      rw [kept]
      split
      · rfl
      · rfl
    · exact ih first

theorem changed_some {previous next : CronNote} : changed (some previous) next = true ↔ Changed previous next :=
  decide_eq_true_iff

theorem transitions_append (reports : List CronNote) (next : CronNote) :
    transitions (reports ++ [next]) =
      if changed (transitions reports).getLast? next then transitions reports ++ [next] else transitions reports := by
  unfold transitions
  rw [List.dropWhile_append]
  cases shape : reports.dropWhile CronNote.isInfo with
  | nil =>
    rw [List.isEmpty_nil, if_pos rfl, List.destutter_nil, List.getLast?_nil, List.dropWhile_cons]
    unfold CronNote.isInfo changed
    by_cases calm : next.severity = .info
    · rw [if_pos (decide_eq_true calm), if_neg (by simpa using calm)]
      rfl
    · rw [if_neg (by simpa using calm), if_pos (decide_eq_true calm)]
      rfl
  | cons first rest =>
    rw [List.isEmpty_cons, if_neg Bool.false_ne_true, List.cons_append, List.destutter_cons', List.destutter_cons',
      destutter'_concat]
    cases last : (rest.destutter' Changed first).getLast? with
    | none => exact absurd (List.getLast?_eq_none_iff.mp last) (List.destutter'_ne_nil _ _)
    | some previous =>
      have same : (rest.destutter' Changed first).getLastD first = previous := by
        rw [List.getLastD_eq_getLast?, last]
        rfl
      rw [same]
      by_cases moved : Changed previous next
      · rw [if_pos moved, if_pos (changed_some.mpr moved)]
      · rw [if_neg moved, if_neg (mt changed_some.mp moved)]

section
variable {rfc3339 : String → Option Int} {journal after : Journal} {incident : Incident} {note next : CronNote}
  {stored : StoredPlan} {fired : List FiredIntent} {fails : FiredIntent → Bool} {ts : String}

theorem notesOf_append (journal : Journal) (note : CronNote) (identity : Option String) (incident : Incident) :
    (journal.append note identity).notesOf incident =
      if incidentOf note = incident then journal.notesOf incident ++ [note] else journal.notesOf incident := by
  unfold Journal.notesOf Journal.append
  rw [List.map_append, List.filter_append, List.map_singleton]
  by_cases own : incidentOf note = incident
  · rw [if_pos own, List.filter_singleton, decide_eq_true own]
    rfl
  · rw [if_neg own, List.filter_singleton, decide_eq_false own]
    exact List.append_nil _

theorem recordHealth_ok {told : Option CronNote} {now : Int}
    (done : journal.recordHealth rfc3339 next now = .ok (after, told)) :
    if changed (journal.notesOf (incidentOf next)).getLast? next then
      (rfc3339 next.ts).isSome ∧ after = (journal.append next none).enqueue next now ∧ told = some next
    else after = journal ∧ told = (journal.notesOf (incidentOf next)).getLast? := by
  unfold Journal.recordHealth at done
  dsimp only at done
  split at done
  · next moved =>
    rw [if_pos moved]
    simp only [bind_ok, pure_ok, required_ok, Prod.mk.injEq] at done
    obtain ⟨instant, parsed, rfl, rfl⟩ := done
    exact ⟨by rw [parsed]; rfl, rfl, rfl⟩
  · next same =>
    rw [if_neg same]
    cases done
    exact ⟨rfl, rfl⟩

theorem recordHealth_error {failure : String} {now : Int}
    (done : journal.recordHealth rfc3339 next now = .error failure) : rfc3339 next.ts = none := by
  unfold Journal.recordHealth at done
  dsimp only at done
  split at done
  · cases parsed : rfc3339 next.ts with
    | none => rfl
    | some instant =>
      rw [parsed] at done
      cases done
  · cases done

theorem recordPaper_ok {identity : String} {inserted : Bool}
    (done : journal.recordPaper rfc3339 identity note = .ok (after, inserted)) :
    if journal.hasPaper (incidentOf note) identity then after = journal
    else after = journal.append note (some identity) := by
  unfold Journal.recordPaper at done
  simp only [bind_ok, required_ok] at done
  obtain ⟨instant, -, later⟩ := done
  split at later
  · next present =>
    cases later
    rw [if_pos present]
  · next absent =>
    cases later
    rw [if_neg absent]

theorem recordNotification_ok {identity : String} {inserted : Bool} {now : Int}
    (done : journal.recordNotification rfc3339 identity note now = .ok (after, inserted)) :
    if journal.hasAlert (key note.account note.tradeId note.source identity) then after = journal
    else after = { (journal.append note none) with
      outbox := journal.outbox.enqueue (key note.account note.tradeId note.source identity) note now } := by
  unfold Journal.recordNotification at done
  dsimp only at done
  split at done
  · next present =>
    cases done
    rw [if_pos present]
  · next absent =>
    simp only [bind_ok, pure_ok, required_ok, Prod.mk.injEq] at done
    obtain ⟨instant, -, rfl, -⟩ := done
    rw [if_neg absent]

/-- What a tick's entries write: entry notes of their own plan, each under its identity. -/
theorem writeEntries_rows (rfc3339 : String → Option Int) (stored : StoredPlan) (ts : String)
    (fails : FiredIntent → Bool) (journal : Journal) (fired : List FiredIntent) :
    ∃ rows, (journal.writeEntries rfc3339 stored ts fails fired).1 = { journal with notes := journal.notes ++ rows } ∧
      ∀ row ∈ rows, ∃ entry ∈ fired, row.note = entryNote stored entry ts ∧
        row.paperEntryIdentity = some (entryIdentity entry) := by
  induction fired generalizing journal with
  | nil => exact ⟨[], by rw [List.append_nil]; rfl, fun row member => (by cases member)⟩
  | cons entry rest ih =>
    unfold Journal.writeEntries
    split
    · exact ⟨[], by rw [List.append_nil], fun row member => (by cases member)⟩
    · split
      · exact ⟨[], by rw [List.append_nil], fun row member => (by cases member)⟩
      · next written inserted done =>
        obtain ⟨rows, left, all⟩ := ih written
        have first := recordPaper_ok done
        split at first
        · subst first
          exact ⟨rows, left, fun row member => (all row member).imp fun later within =>
            ⟨List.mem_cons_of_mem _ within.1, within.2⟩⟩
        · subst first
          refine ⟨{ note := entryNote stored entry ts, paperEntryIdentity := some (entryIdentity entry) } :: rows,
            ?_, fun row member => ?_⟩
          · rw [left]
            simp only [Journal.append, List.append_assoc, List.singleton_append]
          · rcases List.mem_cons.mp member with rfl | later
            · exact ⟨entry, List.mem_cons_self, rfl, rfl⟩
            · obtain ⟨other, within, written⟩ := all row later
              exact ⟨other, List.mem_cons_of_mem _ within, written⟩

theorem recordThenAdvance_rows (rfc3339 : String → Option Int) (stored : StoredPlan) (ts : String)
    (fails : FiredIntent → Bool) (journal : Journal) (fired : List FiredIntent) :
    ∃ rows, (journal.recordThenAdvance rfc3339 stored ts fails fired).1 =
        { journal with notes := journal.notes ++ rows } ∧
      ∀ row ∈ rows, stored.shadow = true ∧ ∃ entry ∈ fired, entry.enters = true ∧
        row.note = entryNote stored entry ts ∧ row.paperEntryIdentity = some (entryIdentity entry) := by
  unfold Journal.recordThenAdvance
  split
  · next shadow =>
    obtain ⟨rows, left, all⟩ := writeEntries_rows rfc3339 stored ts fails journal (fired.filter (·.enters))
    refine ⟨rows, left, fun row member => ⟨shadow, ?_⟩⟩
    obtain ⟨entry, within, written⟩ := all row member
    obtain ⟨listed, enters⟩ := List.mem_filter.mp within
    exact ⟨entry, listed, enters, written⟩
  · exact ⟨[], by rw [List.append_nil], fun row member => (by cases member)⟩

end

/-- The event may leave a note of the incident other than by a health report. -/
def Event.Writes (incident : Incident) : Event → Prop
  | .noted note _ => incidentOf note = incident
  | .health _ _ => False
  | .notification _ note _ => incidentOf note = incident
  | .tick stored _ _ _ => (stored.account, stored.tradeId, "paper-entry") = incident
  | .drain _ => False

/-- The health report of the incident that the event is. -/
def Event.report (rfc3339 : String → Option Int) (incident : Incident) : Event → Option CronNote
  | .health next _ => if incidentOf next = incident ∧ (rfc3339 next.ts).isSome then some next else none
  | _ => none

/-- The journal after one more report of an incident. -/
def appendChanged (notes : List CronNote) (next : CronNote) : List CronNote :=
  if changed notes.getLast? next then notes ++ [next] else notes

section
variable {rfc3339 : String → Option Int} {journal : Journal} {incident : Incident} {event : Event}

theorem enqueue_notesOf (journal : Journal) (note : CronNote) (now : Int) (incident : Incident) :
    (journal.enqueue note now).notesOf incident = journal.notesOf incident := rfl

theorem step_notesOf (rfc3339 : String → Option Int) (journal : Journal) (silent : ¬ event.Writes incident) :
    (journal.step rfc3339 event).notesOf incident =
      (event.report rfc3339 incident).elim (journal.notesOf incident) (appendChanged (journal.notesOf incident)) := by
  cases event with
  | noted note now =>
    have other : incidentOf note ≠ incident := silent
    simp only [Journal.step, Journal.recordCronNote, Event.report, Option.elim_none]
    split
    · rw [notesOf_append, if_neg other]
    · rw [enqueue_notesOf, notesOf_append, if_neg other]
  | health next now =>
    simp only [Journal.step, Event.report]
    cases done : journal.recordHealth rfc3339 next now with
    | error failure =>
      rw [recordHealth_error done, Option.isSome_none, if_neg (fun holds => Bool.false_ne_true holds.2)]
      rfl
    | ok result =>
      obtain ⟨after, told⟩ := result
      have left := recordHealth_ok done
      split at left
      · next moved =>
        obtain ⟨parsed, rfl, -⟩ := left
        rw [Journal.committed, enqueue_notesOf, notesOf_append]
        by_cases own : incidentOf next = incident
        · rw [if_pos own, if_pos ⟨own, parsed⟩, Option.elim_some, appendChanged, if_pos (own ▸ moved)]
        · rw [if_neg own, if_neg fun holds => own holds.1, Option.elim_none]
      · next still =>
        obtain ⟨rfl, -⟩ := left
        rw [Journal.committed]
        split
        · next own => rw [Option.elim_some, appendChanged, if_neg (own.1 ▸ still)]
        · rfl
  | notification identity note now =>
    have other : incidentOf note ≠ incident := silent
    simp only [Journal.step, Event.report, Option.elim_none]
    cases done : journal.recordNotification rfc3339 identity note now with
    | error failure => rfl
    | ok result =>
      obtain ⟨after, inserted⟩ := result
      have left := recordNotification_ok done
      rw [Journal.committed]
      split at left
      · rw [left]
      · rw [left]
        exact (notesOf_append journal note none incident).trans (if_neg other)
  | tick stored ts fails fired =>
    simp only [Journal.step, Event.report, Option.elim_none]
    obtain ⟨rows, left, all⟩ := recordThenAdvance_rows rfc3339 stored ts fails journal fired
    rw [left]
    unfold Journal.notesOf
    have silentRows : (rows.map (·.note)).filter (fun note => decide (incidentOf note = incident)) = [] := by
      refine List.filter_eq_nil_iff.mpr fun note member own => ?_
      obtain ⟨row, within, rfl⟩ := List.mem_map.mp member
      obtain ⟨-, entry, -, -, written, -⟩ := all row within
      have same := of_decide_eq_true own
      rw [written] at same
      exact silent same
    rw [List.map_append, List.filter_append, silentRows, List.append_nil]
  | drain flush => rfl

theorem hasAlert_enqueue (outbox : Outbox String) (eventKey : String) (body : CronNote) (now : Int) :
    (∃ row ∈ (outbox.enqueue eventKey body now).rows, row.eventKey = eventKey) ∧
      ∀ row ∈ outbox.rows, row ∈ (outbox.enqueue eventKey body now).rows := by
  unfold Outbox.enqueue
  split
  · next present =>
    obtain ⟨row, there, own⟩ := List.any_eq_true.mp present
    exact ⟨⟨row, there, of_decide_eq_true own⟩, fun row member => member⟩
  · exact ⟨⟨_, List.mem_append_right _ (List.mem_singleton.mpr rfl), rfl⟩,
      fun row member => List.mem_append_left _ member⟩

theorem hasAlert_iff {eventKey : String} :
    journal.hasAlert eventKey = true ↔ eventKey ∈ journal.outbox.rows.map OutboxRow.eventKey := by
  unfold Journal.hasAlert
  rw [List.any_eq_true, List.mem_map]
  simp only [decide_eq_true_eq]

/-- What the outbox knows of it keeps knowing, and each event adds at most one row under a new key. -/
theorem step_outbox (rfc3339 : String → Option Int) (keyed : journal.outbox.Keyed) (event : Event) :
    (journal.step rfc3339 event).outbox.Keyed ∧
      ∀ eventKey, journal.hasAlert eventKey = true → (journal.step rfc3339 event).hasAlert eventKey = true := by
  have queued : ∀ (eventKey : String) body now, (journal.outbox.enqueue eventKey body now).Keyed ∧
      ∀ old ∈ journal.outbox.rows.map OutboxRow.eventKey,
        old ∈ (journal.outbox.enqueue eventKey body now).rows.map OutboxRow.eventKey := by
    intro eventKey body now
    refine ⟨keyed.step (.enqueue eventKey body now), fun old member => ?_⟩
    obtain ⟨row, there, rfl⟩ := List.mem_map.mp member
    exact List.mem_map_of_mem ((hasAlert_enqueue journal.outbox eventKey body now).2 row there)
  simp only [hasAlert_iff]
  cases event with
  | noted note now =>
    simp only [Journal.step, Journal.recordCronNote]
    split
    · exact ⟨keyed, fun old member => member⟩
    · exact queued _ note now
  | health next now =>
    simp only [Journal.step]
    cases done : journal.recordHealth rfc3339 next now with
    | error failure => exact ⟨keyed, fun old member => member⟩
    | ok result =>
      obtain ⟨after, told⟩ := result
      have left := recordHealth_ok done
      rw [Journal.committed]
      split at left
      · obtain ⟨-, rfl, -⟩ := left
        exact queued _ next now
      · obtain ⟨rfl, -⟩ := left
        exact ⟨keyed, fun old member => member⟩
  | notification identity note now =>
    simp only [Journal.step]
    cases done : journal.recordNotification rfc3339 identity note now with
    | error failure => exact ⟨keyed, fun old member => member⟩
    | ok result =>
      obtain ⟨after, inserted⟩ := result
      have left := recordNotification_ok done
      rw [Journal.committed]
      split at left
      · rw [left]
        exact ⟨keyed, fun old member => member⟩
      · rw [left]
        exact queued _ note now
  | tick stored ts fails fired =>
    obtain ⟨rows, left, -⟩ := recordThenAdvance_rows rfc3339 stored ts fails journal fired
    rw [Journal.step, left]
    exact ⟨keyed, fun old member => member⟩
  | drain flush =>
    refine ⟨keyed.step (.drain flush), fun old member => ?_⟩
    rw [Journal.step, drain_rows keyed, List.map_map]
    obtain ⟨row, there, rfl⟩ := List.mem_map.mp member
    refine List.mem_map.mpr ⟨row, there, ?_⟩
    rw [Function.comp_apply]
    split
    · exact settle_eventKey flush row
    · rfl

theorem run_append (events : List Event) (event : Event) :
    run rfc3339 (events ++ [event]) = (run rfc3339 events).step rfc3339 event := by
  unfold run
  rw [List.foldl_append]
  rfl

theorem run_keyed (events : List Event) : (run rfc3339 events).outbox.Keyed := by
  induction events using List.reverseRecOn with
  | nil => exact .nil
  | append_singleton events event ih =>
    rw [run_append]
    exact (step_outbox rfc3339 ih event).1

theorem report_append (events : List Event) (event : Event) :
    transitions ((events ++ [event]).filterMap (Event.report rfc3339 incident)) =
      (event.report rfc3339 incident).elim (transitions (events.filterMap (Event.report rfc3339 incident)))
        (appendChanged (transitions (events.filterMap (Event.report rfc3339 incident)))) := by
  rw [List.filterMap_append, List.filterMap_cons]
  cases event.report rfc3339 incident with
  | none => rw [List.filterMap_nil, List.append_nil, Option.elim_none]
  | some next => rw [List.filterMap_nil, transitions_append, Option.elim_some, appendChanged]

theorem step_queued {reports : List CronNote} (keyed : journal.outbox.Keyed) (event : Event)
    (same : journal.notesOf incident = transitions reports)
    (queued : ∀ note ∈ transitions reports,
      journal.hasAlert (key note.account note.tradeId note.source note.ts) = true)
    {note : CronNote} (member : note ∈ (event.report rfc3339 incident).elim (transitions reports)
      (appendChanged (transitions reports))) :
    (journal.step rfc3339 event).hasAlert (key note.account note.tradeId note.source note.ts) = true := by
  have kept := (step_outbox rfc3339 keyed event).2
  cases reported : event.report rfc3339 incident with
  | none =>
    rw [reported] at member
    exact kept _ (queued note member)
  | some next =>
    rw [reported, Option.elim_some, appendChanged] at member
    split at member
    · next moved =>
      rcases List.mem_append.mp member with earlier | last
      · exact kept _ (queued note earlier)
      · cases List.mem_singleton.mp last
        cases event with
        | health report now =>
          simp only [Event.report] at reported
          split at reported
          · next own =>
            cases reported
            cases done : journal.recordHealth rfc3339 note now with
            | error failure =>
              have failed := own.2
              rw [recordHealth_error done] at failed
              cases failed
            | ok result =>
              obtain ⟨after, told⟩ := result
              have left := recordHealth_ok done
              rw [own.1, same, if_pos moved] at left
              obtain ⟨-, rfl, -⟩ := left
              rw [Journal.step, done, Journal.committed, hasAlert_iff]
              obtain ⟨row, there, named⟩ := (hasAlert_enqueue journal.outbox
                (key note.account note.tradeId note.source note.ts) note now).1
              exact List.mem_map.mpr ⟨row, there, named⟩
          · cases reported
        | noted note now => cases reported
        | notification identity note now => cases reported
        | tick stored ts fails fired => cases reported
        | drain flush => cases reported
    · exact kept _ (queued note member)

def healthNote (severity : CronNoteSeverity) (message : String) : CronNote where
  ts := "2026-10-16T01:08:24Z"
  account := some "competition"
  tradeId := "gbpaud"
  source := "engine-health"
  severity := severity
  message := message

/-- An incident reported twice, and its recovery. -/
def incidentReports : List Event :=
  [.health (healthNote .info "evaluating") 0, .health (healthNote .error "terminal disconnected") 1,
    .health (healthNote .error "terminal disconnected") 2, .health (healthNote .info "evaluating") 3]

/-- No signal has two notes. -/
def Journal.Once (journal : Journal) : Prop :=
  ∀ incident identity, journal.notes.countP (NoteRow.isPaper incident identity) ≤ 1

def StoredPlan.paperEntries (stored : StoredPlan) : Incident := (stored.account, stored.tradeId, "paper-entry")

theorem Journal.Once.append_none (once : journal.Once) (note : CronNote) : (journal.append note none).Once := by
  intro incident identity
  unfold Journal.append
  rw [List.countP_append, List.countP_singleton]
  have none : NoteRow.isPaper incident identity { note, paperEntryIdentity := none } = false :=
    decide_eq_false fun holds => (by cases holds.2)
  rw [none, if_neg Bool.false_ne_true]
  exact once incident identity

theorem Journal.Once.append_some (once : journal.Once) {note : CronNote} {identity : String}
    (absent : ¬ journal.hasPaper (incidentOf note) identity) : (journal.append note (some identity)).Once := by
  intro incident other
  unfold Journal.append
  rw [List.countP_append, List.countP_singleton]
  by_cases own : incidentOf note = incident ∧ some identity = some other
  · obtain ⟨rfl, same⟩ := own
    cases same
    have zero : journal.notes.countP (NoteRow.isPaper (incidentOf note) identity) = 0 :=
      List.countP_eq_zero.mpr fun row member passes => absent (List.any_eq_true.mpr ⟨row, member, passes⟩)
    rw [zero]
    split
    · exact le_refl 1
    · exact Nat.zero_le 1
  · rw [if_neg (by simpa [NoteRow.isPaper] using own)]
    exact once incident other

theorem hasPaper_append {note : CronNote} {identity : String} :
    (journal.append note (some identity)).hasPaper (incidentOf note) identity = true :=
  List.any_eq_true.mpr ⟨_, List.mem_append_right _ (List.mem_singleton.mpr rfl), decide_eq_true ⟨rfl, rfl⟩⟩

/-- Entries that were all written each have their note, and only the first time. -/
theorem writeEntries_once {stored : StoredPlan} {ts : String} {fails : FiredIntent → Bool} (once : journal.Once)
    (fired : List FiredIntent) :
    (journal.writeEntries rfc3339 stored ts fails fired).1.Once ∧
      ((journal.writeEntries rfc3339 stored ts fails fired).2 = true → ∀ entry ∈ fired,
        (journal.writeEntries rfc3339 stored ts fails fired).1.hasPaper stored.paperEntries (entryIdentity entry) =
          true) := by
  induction fired generalizing journal with
  | nil => exact ⟨once, fun _ entry member => (by cases member)⟩
  | cons first rest ih =>
    unfold Journal.writeEntries
    split
    · exact ⟨once, fun written => (by cases written)⟩
    · split
      · exact ⟨once, fun written => (by cases written)⟩
      · next written inserted done =>
        have left := recordPaper_ok done
        have start : written.Once ∧ written.hasPaper stored.paperEntries (entryIdentity first) = true := by
          split at left
          · next present =>
            subst left
            exact ⟨once, present⟩
          · next absent =>
            subst left
            exact ⟨once.append_some absent, hasPaper_append⟩
        obtain ⟨ended, all⟩ := ih start.1
        refine ⟨ended, fun full entry member => ?_⟩
        rcases List.mem_cons.mp member with rfl | later
        · obtain ⟨rows, same, -⟩ := writeEntries_rows rfc3339 stored ts fails written rest
          rw [same]
          unfold Journal.hasPaper
          rw [List.any_append, Bool.or_eq_true]
          exact .inl start.2
        · exact all full entry later

theorem recordThenAdvance_once {stored : StoredPlan} {ts : String} {fails : FiredIntent → Bool} (once : journal.Once)
    (fired : List FiredIntent) :
    (journal.recordThenAdvance rfc3339 stored ts fails fired).1.Once ∧
      (stored.shadow = true → (journal.recordThenAdvance rfc3339 stored ts fails fired).2 = true →
        ∀ entry ∈ fired, entry.enters = true →
          (journal.recordThenAdvance rfc3339 stored ts fails fired).1.hasPaper stored.paperEntries
            (entryIdentity entry) = true) := by
  unfold Journal.recordThenAdvance
  split
  · obtain ⟨ended, all⟩ := writeEntries_once once (fired.filter (·.enters))
    exact ⟨ended, fun _ full entry member enters => all full entry (List.mem_filter.mpr ⟨member, enters⟩)⟩
  · next live => exact ⟨once, fun shadow => absurd shadow live⟩

/-- Every event adds rows, those of signals a tick of a shadow plan fired. -/
theorem step_rows (rfc3339 : String → Option Int) (journal : Journal) (event : Event) :
    ∃ rows, (journal.step rfc3339 event).notes = journal.notes ++ rows ∧
      ∀ row ∈ rows, ∀ identity ∈ row.paperEntryIdentity, ∃ stored ts fails fired, event = .tick stored ts fails fired ∧
        stored.shadow = true ∧ ∃ entry ∈ fired, entry.enters = true ∧ row.note = entryNote stored entry ts ∧
          identity = entryIdentity entry := by
  have plain : ∀ note : CronNote, ∀ row ∈ [({ note, paperEntryIdentity := none } : NoteRow)],
      ∀ identity, identity ∉ row.paperEntryIdentity := by
    intro note row member identity named
    cases List.mem_singleton.mp member
    cases named
  cases event with
  | noted note now =>
    refine ⟨[{ note, paperEntryIdentity := none }], ?_, fun row member identity named =>
      absurd named (plain note row member identity)⟩
    simp only [Journal.step, Journal.recordCronNote]
    split
    · rfl
    · rfl
  | health next now =>
    simp only [Journal.step]
    cases done : journal.recordHealth rfc3339 next now with
    | error failure => exact ⟨[], (List.append_nil _).symm, fun row member => (by cases member)⟩
    | ok result =>
      obtain ⟨after, told⟩ := result
      have left := recordHealth_ok done
      rw [Journal.committed]
      split at left
      · obtain ⟨-, rfl, -⟩ := left
        exact ⟨[{ note := next, paperEntryIdentity := none }], rfl, fun row member identity named =>
          absurd named (plain next row member identity)⟩
      · obtain ⟨rfl, -⟩ := left
        exact ⟨[], (List.append_nil _).symm, fun row member => (by cases member)⟩
  | notification identity note now =>
    simp only [Journal.step]
    cases done : journal.recordNotification rfc3339 identity note now with
    | error failure => exact ⟨[], (List.append_nil _).symm, fun row member => (by cases member)⟩
    | ok result =>
      obtain ⟨after, inserted⟩ := result
      have left := recordNotification_ok done
      rw [Journal.committed]
      split at left
      · rw [left]
        exact ⟨[], (List.append_nil _).symm, fun row member => (by cases member)⟩
      · rw [left]
        exact ⟨[{ note, paperEntryIdentity := none }], rfl, fun row member identity named =>
          absurd named (plain note row member identity)⟩
  | tick stored ts fails fired =>
    obtain ⟨rows, left, all⟩ := recordThenAdvance_rows rfc3339 stored ts fails journal fired
    rw [Journal.step, left]
    refine ⟨rows, rfl, fun row member identity named => ?_⟩
    obtain ⟨shadow, entry, listed, enters, written, own⟩ := all row member
    rw [own] at named
    exact ⟨stored, ts, fails, fired, rfl, shadow, entry, listed, enters, written, (Option.some.inj named).symm⟩
  | drain flush => exact ⟨[], (List.append_nil _).symm, fun row member => (by cases member)⟩

theorem Journal.Once.step (once : journal.Once) (event : Event) : (journal.step rfc3339 event).Once := by
  cases event with
  | noted note now =>
    simp only [Journal.step, Journal.recordCronNote]
    split
    · exact once.append_none note
    · exact once.append_none note
  | health next now =>
    simp only [Journal.step]
    cases done : journal.recordHealth rfc3339 next now with
    | error failure => exact once
    | ok result =>
      obtain ⟨after, told⟩ := result
      have left := recordHealth_ok done
      rw [Journal.committed]
      split at left
      · obtain ⟨-, rfl, -⟩ := left
        exact once.append_none next
      · obtain ⟨rfl, -⟩ := left
        exact once
  | notification identity note now =>
    simp only [Journal.step]
    cases done : journal.recordNotification rfc3339 identity note now with
    | error failure => exact once
    | ok result =>
      obtain ⟨after, inserted⟩ := result
      have left := recordNotification_ok done
      rw [Journal.committed]
      split at left
      · rw [left]
        exact once
      · rw [left]
        exact once.append_none note
  | tick stored ts fails fired => exact (recordThenAdvance_once once fired).1
  | drain flush => exact once

theorem run_once (rfc3339 : String → Option Int) (events : List Event) : (run rfc3339 events).Once := by
  induction events using List.reverseRecOn with
  | nil => exact fun incident identity => Nat.zero_le 1
  | append_singleton events event ih =>
    rw [run_append]
    exact ih.step event

theorem run_rows (events : List Event) (later : List Event) :
    (run rfc3339 events).notes <+: (run rfc3339 (events ++ later)).notes := by
  induction later using List.reverseRecOn with
  | nil => exact ⟨[], by rw [List.append_nil, List.append_nil]⟩
  | append_singleton later event ih =>
    rw [← List.append_assoc, run_append]
    obtain ⟨rows, grown, -⟩ := step_rows rfc3339 (run rfc3339 (events ++ later)) event
    rw [grown]
    exact ih.trans (List.prefix_append _ _)

/-- However ticks are cut off, repeated and interleaved, a paper signal has one note at most, exactly one
once its tick let the plan go on past it, and no note without a signal. -/
theorem paper_once (events : List Event) :
    (∀ incident identity, (run rfc3339 events).notes.countP (NoteRow.isPaper incident identity) ≤ 1) ∧
      (∀ before stored ts fails fired after, events = before ++ .tick stored ts fails fired :: after →
        stored.shadow = true → ((run rfc3339 before).recordThenAdvance rfc3339 stored ts fails fired).2 = true →
        ∀ entry ∈ fired, entry.enters = true →
          (run rfc3339 events).notes.countP (NoteRow.isPaper stored.paperEntries (entryIdentity entry)) = 1) ∧
      ∀ row ∈ (run rfc3339 events).notes, ∀ identity ∈ row.paperEntryIdentity,
        ∃ stored ts fails fired, .tick stored ts fails fired ∈ events ∧ stored.shadow = true ∧
          ∃ entry ∈ fired, entry.enters = true ∧ row.note = entryNote stored entry ts ∧
            identity = entryIdentity entry := by
  refine ⟨run_once rfc3339 events, ?_, ?_⟩
  · rintro before stored ts fails fired after rfl shadow full entry member enters
    have written := (recordThenAdvance_once (run_once rfc3339 before) fired).2 shadow full entry member enters
    have reached : (run rfc3339 (before ++ [.tick stored ts fails fired])).notes <+:
        (run rfc3339 (before ++ .tick stored ts fails fired :: after)).notes := by
      rw [List.append_cons before _ after]
      exact run_rows _ after
    rw [run_append] at reached
    obtain ⟨row, there, own⟩ := List.any_eq_true.mp written
    have one := run_once rfc3339 (before ++ .tick stored ts fails fired :: after) stored.paperEntries
      (entryIdentity entry)
    have some := List.countP_pos_iff.mpr ⟨row, reached.subset there, own⟩
    omega
  · induction events using List.reverseRecOn with
    | nil => exact fun row member => (by cases member)
    | append_singleton events event ih =>
      intro row member identity named
      obtain ⟨rows, grown, all⟩ := step_rows rfc3339 (run rfc3339 events) event
      rw [run_append, grown] at member
      rcases List.mem_append.mp member with earlier | last
      · obtain ⟨stored, ts, fails, fired, listed, rest⟩ := ih row earlier identity named
        exact ⟨stored, ts, fails, fired, List.mem_append_left _ listed, rest⟩
      · obtain ⟨stored, ts, fails, fired, rfl, rest⟩ := all row last identity named
        exact ⟨stored, ts, fails, fired, List.mem_append_right _ (List.mem_singleton.mpr rfl), rest⟩

end

/-- The alerts queued of an incident, with their keys. -/
def alertsOf (outbox : Outbox String) (incident : Incident) : List (String × CronNote) :=
  (outbox.rows.filter fun row => decide (incidentOf row.body = incident)).map fun row => (row.eventKey, row.body)

/-- The pass whose notes an event writes. -/
def Event.source : Event → Option String
  | .noted note _ => some note.source
  | .health next _ => some next.source
  | .notification _ note _ => some note.source
  | .tick _ _ _ _ => some "paper-entry"
  | .drain _ => none

section
variable {journal : Journal} {incident : Incident} {event : Event} {outbox : Outbox String}

theorem enqueue_alertsOf (eventKey : String) (body : CronNote) (now : Int) :
    alertsOf (outbox.enqueue eventKey body now) incident =
      if (outbox.rows.any fun row => decide (row.eventKey = eventKey)) ∨ incidentOf body ≠ incident then
        alertsOf outbox incident
      else alertsOf outbox incident ++ [(eventKey, body)] := by
  unfold alertsOf Outbox.enqueue
  split
  · next present => rw [if_pos (.inl present)]
  · next absent =>
    rw [List.filter_append, List.map_append, List.filter_singleton]
    by_cases own : incidentOf body = incident
    · rw [if_neg (not_or.mpr ⟨absent, not_not.mpr own⟩), decide_eq_true own]
      rfl
    · rw [if_pos (.inr own), decide_eq_false own]
      exact List.append_nil _

theorem enqueue_alertsOf_other {body : CronNote} (other : body.source ≠ incident.2.2) (eventKey : String) (now : Int) :
    alertsOf (outbox.enqueue eventKey body now) incident = alertsOf outbox incident := by
  rw [enqueue_alertsOf, if_pos]
  right
  rintro rfl
  exact other rfl

theorem drain_alertsOf (keyed : outbox.Keyed) (flush : Flush String) (incident : Incident) :
    alertsOf (outbox.drain flush) incident = alertsOf outbox incident := by
  unfold alertsOf
  rw [drain_rows keyed, List.filter_map, List.map_map]
  have body : ∀ row : OutboxRow String, (if row.eventKey ∈ outbox.due.map OutboxRow.eventKey then row.settle flush
      else row).body = row.body := by
    intro row
    split
    · exact settle_body flush row
    · rfl
  have eventKey : ∀ row : OutboxRow String, (if row.eventKey ∈ outbox.due.map OutboxRow.eventKey then row.settle flush
      else row).eventKey = row.eventKey := by
    intro row
    split
    · exact settle_eventKey flush row
    · rfl
  have sameFilter : ((fun row : OutboxRow String => decide (incidentOf row.body = incident)) ∘ fun row =>
      if row.eventKey ∈ outbox.due.map OutboxRow.eventKey then row.settle flush else row) =
        fun row => decide (incidentOf row.body = incident) := by
    funext row
    rw [Function.comp_apply, body]
  rw [sameFilter]
  refine List.map_congr_left fun row _ => ?_
  rw [Function.comp_apply, body, eventKey]

theorem step_notesOf_apart (rfc3339 : String → Option Int) (apart : event.source ≠ some incident.2.2) :
    (journal.step rfc3339 event).notesOf incident = journal.notesOf incident := by
  have sameSource : ∀ other : Incident, other = incident → some other.2.2 = some incident.2.2 :=
    fun other same => congrArg (fun incident : Incident => some incident.2.2) same
  have silent : ¬ event.Writes incident := by
    intro writes
    cases event with
    | noted note now => exact apart (sameSource _ writes)
    | health next now => exact writes
    | notification identity note now => exact apart (sameSource _ writes)
    | tick stored ts fails fired => exact apart (sameSource _ writes)
    | drain flush => exact writes
  have unreported : event.report rfc3339 incident = none := by
    cases event with
    | health next now => exact if_neg fun holds => apart (sameSource (incidentOf next) holds.1)
    | noted note now => rfl
    | notification identity note now => rfl
    | tick stored ts fails fired => rfl
    | drain flush => rfl
  rw [step_notesOf rfc3339 journal silent, unreported]
  rfl

theorem step_alertsOf_apart (rfc3339 : String → Option Int) (keyed : journal.outbox.Keyed)
    (apart : event.source ≠ some incident.2.2) :
    alertsOf (journal.step rfc3339 event).outbox incident = alertsOf journal.outbox incident := by
  have apartNote : ∀ note : CronNote, event.source = some note.source → note.source ≠ incident.2.2 :=
    fun note own same => apart (own.trans (congrArg some same))
  cases event with
  | noted note now =>
    simp only [Journal.step, Journal.recordCronNote]
    split
    · rfl
    · exact enqueue_alertsOf_other (apartNote note rfl) _ now
  | health next now =>
    simp only [Journal.step]
    cases done : journal.recordHealth rfc3339 next now with
    | error failure => rfl
    | ok result =>
      obtain ⟨after, told⟩ := result
      have left := recordHealth_ok done
      rw [Journal.committed]
      split at left
      · obtain ⟨-, rfl, -⟩ := left
        exact enqueue_alertsOf_other (apartNote next rfl) _ now
      · obtain ⟨rfl, -⟩ := left
        rfl
  | notification identity note now =>
    simp only [Journal.step]
    cases done : journal.recordNotification rfc3339 identity note now with
    | error failure => rfl
    | ok result =>
      obtain ⟨after, inserted⟩ := result
      have left := recordNotification_ok done
      rw [Journal.committed]
      split at left
      · rw [left]
      · rw [left]
        exact enqueue_alertsOf_other (apartNote note rfl) _ now
  | tick stored ts fails fired =>
    obtain ⟨rows, left, -⟩ := recordThenAdvance_rows rfc3339 stored ts fails journal fired
    rw [Journal.step, left]
  | drain flush => exact drain_alertsOf keyed flush incident

end

end TradeControl.CronNotes
