import Mathlib
import TradeControl.Foundation.KeyedRows
import TradeControl.Foundation.Rotation
import TradeControl.Foundation.SelfDelimiting

namespace TradeControl.OperatorAlerts

open Foundation

/-! The outbox of the operator's alerts: notes queued with what they tell of, posted to the chart until
it takes them. -/

inductive CronNoteSeverity
  | info
  | warn
  | error
  deriving DecidableEq

/-- A line of a trade's timeline. -/
structure CronNote where
  ts : String
  account : Option String
  tradeId : String
  source : String
  severity : CronNoteSeverity
  message : String
  deriving DecidableEq

/-- A character inside a JSON text. -/
def escaped (char : Char) : List Char :=
  if char = '"' then ['\\', '"']
  else if char = '\\' then ['\\', '\\']
  else if char.toNat = 8 then ['\\', 'b']
  else if char.toNat = 9 then ['\\', 't']
  else if char.toNat = 10 then ['\\', 'n']
  else if char.toNat = 12 then ['\\', 'f']
  else if char.toNat = 13 then ['\\', 'r']
  else if char.toNat < 32 then
    ['\\', 'u', '0', '0', Nat.digitChar (char.toNat / 16), Nat.digitChar (char.toNat % 16)]
  else [char]

def jsonText (text : String) : List Char := ['"'] ++ (text.toList.flatMap escaped ++ ['"'])

def jsonOption : Option String → List Char := optionCode ['n', 'u', 'l', 'l'] jsonText

/-- The text of an event's identity: a JSON array. -/
def key (account : Option String) (tradeId source identity : String) : String :=
  String.ofList (['['] ++ (jsonOption account ++ ([','] ++ jsonText tradeId) ++ ([','] ++ jsonText source) ++
    ([','] ++ jsonText identity) ++ [']']))

section
variable {char : Char} {rest : List Char}

theorem digitChar_injective : ∀ n < 16, ∀ m < 16, Nat.digitChar n = Nat.digitChar m → n = m := by decide

/-- How a character is written: as itself, after a backslash, or as a number. -/
theorem escaped_cases (char : Char) :
    escaped char = [char] ∧ char ≠ '"' ∧ char ≠ '\\' ∧ 32 ≤ char.toNat ∨
      (∃ letter, escaped char = ['\\', letter] ∧ letter ≠ 'u' ∧
        (char, letter) ∈ [('"', '"'), ('\\', '\\'), (Char.ofNat 8, 'b'), (Char.ofNat 9, 't'), (Char.ofNat 10, 'n'),
          (Char.ofNat 12, 'f'), (Char.ofNat 13, 'r')]) ∨
      char.toNat < 32 ∧ escaped char =
        ['\\', 'u', '0', '0', Nat.digitChar (char.toNat / 16), Nat.digitChar (char.toNat % 16)] := by
  have read : ∀ n, char.toNat = n → char = Char.ofNat n := by
    intro n same
    rw [← same, Char.ofNat_toNat]
  unfold escaped
  split
  · next same => exact .inr (.inl ⟨'"', rfl, by decide, by simp [same]⟩)
  · next quote =>
    split
    · next same => exact .inr (.inl ⟨'\\', rfl, by decide, by simp [same]⟩)
    · next slash =>
      split
      · next same => exact .inr (.inl ⟨'b', rfl, by decide, by simp [read 8 same]⟩)
      · split
        · next same => exact .inr (.inl ⟨'t', rfl, by decide, by simp [read 9 same]⟩)
        · split
          · next same => exact .inr (.inl ⟨'n', rfl, by decide, by simp [read 10 same]⟩)
          · split
            · next same => exact .inr (.inl ⟨'f', rfl, by decide, by simp [read 12 same]⟩)
            · split
              · next same => exact .inr (.inl ⟨'r', rfl, by decide, by simp [read 13 same]⟩)
              · split
                · next small => exact .inr (.inr ⟨small, rfl⟩)
                · next large => exact .inl ⟨rfl, quote, slash, by omega⟩

theorem escaped_selfDelimiting : SelfDelimiting escaped := by
  intro a b r s same
  rcases escaped_cases a with ⟨plain, -, slash, -⟩ | ⟨letter, short, notU, named⟩ | ⟨small, long⟩
  · rcases escaped_cases b with ⟨plain', -, -, -⟩ | ⟨letter', short', -, -⟩ | ⟨-, long'⟩
    · rw [plain, plain'] at same
      exact List.cons.inj same
    · rw [plain, short'] at same
      exact absurd (List.cons.inj same).1 slash
    · rw [plain, long'] at same
      exact absurd (List.cons.inj same).1 slash
  · rcases escaped_cases b with ⟨plain', -, slash', -⟩ | ⟨letter', short', -, named'⟩ | ⟨-, long'⟩
    · rw [short, plain'] at same
      exact absurd (List.cons.inj same).1.symm slash'
    · rw [short, short'] at same
      simp only [List.cons_append, List.nil_append, List.cons.injEq, true_and] at same
      obtain ⟨rfl, rest⟩ := same
      refine ⟨?_, rest⟩
      simp only [List.mem_cons, List.not_mem_nil, Prod.mk.injEq, or_false] at named named'
      symm
      rcases named with ⟨rfl, rfl⟩ | ⟨rfl, rfl⟩ | ⟨rfl, rfl⟩ | ⟨rfl, rfl⟩ | ⟨rfl, rfl⟩ | ⟨rfl, rfl⟩ | ⟨rfl, rfl⟩ <;>
        simpa using named'
    · rw [short, long'] at same
      simp only [List.cons_append, List.nil_append, List.cons.injEq, true_and] at same
      exact absurd same.1 notU
  · rcases escaped_cases b with ⟨plain', -, slash', -⟩ | ⟨letter', short', notU', -⟩ | ⟨small', long'⟩
    · rw [long, plain'] at same
      exact absurd (List.cons.inj same).1.symm slash'
    · rw [long, short'] at same
      simp only [List.cons_append, List.nil_append, List.cons.injEq, true_and] at same
      exact absurd same.1.symm notU'
    · rw [long, long'] at same
      simp only [List.cons_append, List.nil_append, List.cons.injEq, true_and] at same
      obtain ⟨high, low, rest⟩ := same
      have sameHigh := digitChar_injective _ (by omega) _ (by omega) high
      have sameLow := digitChar_injective _ (by omega) _ (by omega) low
      exact ⟨Char.toNat_inj.mp (by omega), rest⟩

theorem escaped_apart (char : Char) (r s : List Char) : escaped char ++ r ≠ '"' :: s := by
  intro same
  rcases escaped_cases char with ⟨plain, quote, -, -⟩ | ⟨letter, short, -, -⟩ | ⟨-, long⟩
  · rw [plain] at same
    exact quote (List.cons.inj same).1
  · rw [short] at same
    exact absurd (List.cons.inj same).1 (by decide)
  · rw [long] at same
    exact absurd (List.cons.inj same).1 (by decide)

theorem jsonText_selfDelimiting : SelfDelimiting jsonText :=
  ((escaped_selfDelimiting.word escaped_apart).lead ['"']).comp fun _ _ same => String.toList_inj.mp same

theorem jsonOption_selfDelimiting : SelfDelimiting jsonOption := by
  refine jsonText_selfDelimiting.option fun text r s same => ?_
  exact absurd (List.cons.inj same).1 (by decide)

/-- Events are told apart by their keys: those of two accounts, trades, sources or orders differ. -/
theorem key_inj {account account' : Option String} {tradeId tradeId' source source' identity identity' : String} :
    key account tradeId source identity = key account' tradeId' source' identity' ↔
      account = account' ∧ tradeId = tradeId' ∧ source = source' ∧ identity = identity' := by
  constructor
  · intro same
    have fields := (((jsonOption_selfDelimiting.append (jsonText_selfDelimiting.lead [','])).append
      (jsonText_selfDelimiting.lead [','])).append (jsonText_selfDelimiting.lead [','])).trail [']']
    have texts : (((account, tradeId), source), identity) = (((account', tradeId'), source'), identity') :=
      (fields.lead ['[']).injective (String.ofList_injective same)
    simp only [Prod.mk.injEq] at texts
    exact ⟨texts.1.1.1, texts.1.1.2, texts.1.2, texts.2⟩
  · rintro ⟨rfl, rfl, rfl, rfl⟩
    rfl

end

/-- A row of `operator_alert_outbox`. -/
structure OutboxRow (Key : Type) where
  eventKey : Key
  body : CronNote
  createdAt : Int
  lastAttemptAt : Option Int
  deliveredAt : Option Int

/-- What became of one row's delivery: its attempt could not be marked, the chart refused it, the chart
took it but that could not be written, or all went well. -/
inductive Answer
  | unmarked
  | rejected
  | unrecorded
  | accepted
  deriving DecidableEq

structure Post (Key : Type) where
  eventId : Key
  note : CronNote
  answer : Answer

/-- The outbox, with everything that was ever posted from it. -/
structure Outbox (Key : Type) where
  rows : List (OutboxRow Key)
  posts : List (Post Key)

/-- One flush: when each row is attempted, how that goes, and when it is told delivered. -/
structure Flush (Key : Type) where
  clock : Key → Int
  answer : Key → Answer
  taken : Key → Int

def byteLength (text : String) : Nat := (text.toList.map Char.utf8Size).sum

/-- The note as it is posted: a long message is cut. -/
def posted (note : CronNote) : CronNote :=
  if 16000 < byteLength note.message then
    { note with
      message := String.ofList (note.message.toList.take 4000 ++ "… [full details in journal]".toList) }
  else note

section
variable {Key : Type} [LinearOrder Key]

def OutboxRow.waits (row : OutboxRow Key) : Bool := row.deliveredAt.isNone

/-- `ORDER BY last_attempt_at NULLS FIRST, created_at, event_key`. -/
def OutboxRow.place (row : OutboxRow Key) : WithBot Int ×ₗ Int ×ₗ Key :=
  toLex (row.lastAttemptAt, toLex (row.createdAt, row.eventKey))

/-- `INSERT … ON CONFLICT DO NOTHING`. -/
def Outbox.enqueue (outbox : Outbox Key) (eventKey : Key) (body : CronNote) (now : Int) : Outbox Key :=
  if outbox.rows.any fun row => decide (row.eventKey = eventKey) then outbox
  else
    { outbox with
      rows := outbox.rows ++ [{ eventKey, body, createdAt := now, lastAttemptAt := none, deliveredAt := none }] }

/-- The rows a flush takes on. -/
def Outbox.due (outbox : Outbox Key) : List (OutboxRow Key) :=
  (inOrder OutboxRow.place (outbox.rows.filter OutboxRow.waits)).take 20

def OutboxRow.settle (flush : Flush Key) (row : OutboxRow Key) : OutboxRow Key :=
  match flush.answer row.eventKey with
  | .unmarked => row
  | .rejected | .unrecorded => { row with lastAttemptAt := some (flush.clock row.eventKey) }
  | .accepted =>
    { row with
      lastAttemptAt := some (flush.clock row.eventKey)
      deliveredAt := some (flush.taken row.eventKey) }

def Flush.post (flush : Flush Key) (row : OutboxRow Key) : Post Key where
  eventId := row.eventKey
  note := posted row.body
  answer := flush.answer row.eventKey

def Flush.posts (flush : Flush Key) (row : OutboxRow Key) : List (Post Key) :=
  if flush.answer row.eventKey = .unmarked then [] else [flush.post row]

def Outbox.deliverOne (flush : Flush Key) (outbox : Outbox Key) (row : OutboxRow Key) : Outbox Key where
  rows := outbox.rows.map fun other => if other.eventKey = row.eventKey then other.settle flush else other
  posts := outbox.posts ++ flush.posts row

def Outbox.drain (outbox : Outbox Key) (flush : Flush Key) : Outbox Key :=
  outbox.due.foldl (Outbox.deliverOne flush) outbox

/-- What reaches the outbox: notes of any pass, and the flushes of its own loop. -/
inductive Event (Key : Type)
  | enqueue (eventKey : Key) (body : CronNote) (now : Int)
  | drain (flush : Flush Key)

def Outbox.step (outbox : Outbox Key) : Event Key → Outbox Key
  | .enqueue eventKey body now => outbox.enqueue eventKey body now
  | .drain flush => outbox.drain flush

def run (events : List (Event Key)) : Outbox Key := events.foldl Outbox.step { rows := [], posts := [] }

def Outbox.postsOf (outbox : Outbox Key) (eventKey : Key) : List (Post Key) :=
  outbox.posts.filter fun post => decide (post.eventId = eventKey)

def Outbox.rowOf (outbox : Outbox Key) (eventKey : Key) : Option (OutboxRow Key) :=
  rowAt OutboxRow.eventKey outbox.rows eventKey

/-- The chart was told, and the outbox knows. -/
def Outbox.delivered (outbox : Outbox Key) (eventKey : Key) : Bool :=
  (outbox.rowOf eventKey).any fun row => row.deliveredAt.isSome

def Event.noteOf (eventKey : Key) : Event Key → Option CronNote
  | .enqueue queued body _ => if queued = eventKey then some body else none
  | .drain _ => none

/-- The note that was first queued under a key. -/
def firstNote (events : List (Event Key)) (eventKey : Key) : Option CronNote :=
  events.findSome? (Event.noteOf eventKey)

def Outbox.Keyed (outbox : Outbox Key) : Prop := (outbox.rows.map OutboxRow.eventKey).Nodup

section
variable {outbox : Outbox Key} {flush : Flush Key} {row : OutboxRow Key} {served : List (OutboxRow Key)}
  {eventKey : Key}

omit [LinearOrder Key] in
@[simp]
theorem settle_eventKey (flush : Flush Key) (row : OutboxRow Key) : (row.settle flush).eventKey = row.eventKey := by
  unfold OutboxRow.settle
  split <;> rfl

omit [LinearOrder Key] in
@[simp]
theorem settle_body (flush : Flush Key) (row : OutboxRow Key) : (row.settle flush).body = row.body := by
  unfold OutboxRow.settle
  split <;> rfl

omit [LinearOrder Key] in
theorem settle_delivered (waits : row.deliveredAt = none) :
    (row.settle flush).deliveredAt.isSome = decide (flush.answer row.eventKey = .accepted) := by
  unfold OutboxRow.settle
  cases flush.answer row.eventKey with
  | accepted => rfl
  | unmarked => rw [waits]; rfl
  | rejected => rw [waits]; rfl
  | unrecorded => rw [waits]; rfl

/-- Rows each attempted once leave the outbox as if all had been at once. -/
theorem deliver_rows (distinct : (served.map OutboxRow.eventKey).Nodup) :
    (served.foldl (Outbox.deliverOne flush) outbox).rows = outbox.rows.map fun row =>
      if row.eventKey ∈ served.map OutboxRow.eventKey then row.settle flush else row := by
  induction served generalizing outbox with
  | nil => simp
  | cons first rest ih =>
    rw [List.map_cons, List.nodup_cons] at distinct
    rw [List.foldl_cons, ih distinct.2, Outbox.deliverOne, List.map_map]
    refine List.map_congr_left fun row _ => ?_
    simp only [Function.comp_apply, List.map_cons, List.mem_cons]
    by_cases own : row.eventKey = first.eventKey
    · rw [if_pos own, settle_eventKey, own, if_neg distinct.1, if_pos (.inl rfl)]
    · rw [if_neg own]
      simp only [own, false_or]

theorem deliver_posts :
    (served.foldl (Outbox.deliverOne flush) outbox).posts = outbox.posts ++ served.flatMap flush.posts := by
  induction served generalizing outbox with
  | nil => simp
  | cons first rest ih => rw [List.foldl_cons, ih, Outbox.deliverOne, List.flatMap_cons, List.append_assoc]

theorem posts_own : (flush.posts row).filter (fun post => decide (post.eventId = eventKey)) =
    if row.eventKey = eventKey then flush.posts row else [] := by
  unfold Flush.posts
  split
  · simp
  · by_cases own : row.eventKey = eventKey
    · simp [Flush.post, own]
    · simp [Flush.post, own]

omit [LinearOrder Key] in
theorem posts_accepted : (flush.posts row).any (fun post => decide (post.answer = .accepted)) =
    decide (flush.answer row.eventKey = .accepted) := by
  unfold Flush.posts Flush.post
  cases answer : flush.answer row.eventKey with
  | unmarked => rfl
  | rejected => simp
  | unrecorded => simp
  | accepted => simp

/-- What is posted of one key, where each row is attempted once. -/
theorem posts_filter (distinct : (served.map OutboxRow.eventKey).Nodup) :
    (served.flatMap flush.posts).filter (fun post => decide (post.eventId = eventKey)) =
      ((rowAt OutboxRow.eventKey served eventKey).map flush.posts).getD [] := by
  induction served with
  | nil => rfl
  | cons first rest ih =>
    rw [List.map_cons, List.nodup_cons] at distinct
    rw [List.flatMap_cons, List.filter_append, posts_own, ih distinct.2, rowAt_cons]
    by_cases own : first.eventKey = eventKey
    · rw [if_pos own, if_pos own, rowAt_none.mpr (own ▸ distinct.1)]
      exact List.append_nil _
    · rw [if_neg own, if_neg own, List.nil_append]

theorem due_subperm (outbox : Outbox Key) : outbox.due.Subperm outbox.rows :=
  ((List.take_sublist _ _).subperm.trans (List.perm_insertionSort _ _).subperm).trans List.filter_sublist.subperm

theorem Outbox.Keyed.due (keyed : outbox.Keyed) : (outbox.due.map OutboxRow.eventKey).Nodup := by
  obtain ⟨rows, same, within⟩ := due_subperm outbox
  exact (same.map _).nodup_iff.mp (keyed.sublist (within.map _))

theorem due_waits (member : row ∈ outbox.due) : row ∈ outbox.rows ∧ row.deliveredAt = none := by
  have queued := List.mem_filter.mp (mem_inOrder.mp (List.mem_of_mem_take member))
  exact ⟨queued.1, Option.isNone_iff_eq_none.mp queued.2⟩

theorem drain_rows (keyed : outbox.Keyed) (flush : Flush Key) : (outbox.drain flush).rows = outbox.rows.map fun row =>
    if row.eventKey ∈ outbox.due.map OutboxRow.eventKey then row.settle flush else row :=
  deliver_rows keyed.due

theorem drain_rowOf (keyed : outbox.Keyed) (flush : Flush Key) (eventKey : Key) :
    (outbox.drain flush).rowOf eventKey = (outbox.rowOf eventKey).map fun row =>
      if row.eventKey ∈ outbox.due.map OutboxRow.eventKey then row.settle flush else row := by
  unfold Outbox.rowOf
  rw [drain_rows keyed, rowAt_map]
  intro row
  split
  · exact settle_eventKey flush row
  · rfl

theorem drain_postsOf (keyed : outbox.Keyed) (flush : Flush Key) (eventKey : Key) :
    (outbox.drain flush).postsOf eventKey = outbox.postsOf eventKey ++
      ((rowAt OutboxRow.eventKey outbox.due eventKey).map flush.posts).getD [] := by
  unfold Outbox.postsOf Outbox.drain
  rw [deliver_posts, List.filter_append, posts_filter keyed.due]

theorem Outbox.Keyed.step (keyed : outbox.Keyed) (event : Event Key) : (outbox.step event).Keyed := by
  unfold Outbox.Keyed
  cases event with
  | enqueue eventKey body now =>
    rw [Outbox.step, Outbox.enqueue]
    split
    · exact keyed
    · next absent =>
      rw [List.map_append, List.map_singleton, List.nodup_append]
      refine ⟨keyed, List.nodup_singleton _, fun present member added last => ?_⟩
      rw [List.mem_singleton] at last
      rintro rfl
      obtain ⟨row, there, own⟩ := List.mem_map.mp member
      exact absent (List.any_eq_true.mpr ⟨row, there, decide_eq_true (own.trans last)⟩)
  | drain flush =>
    rw [Outbox.step, drain_rows keyed, List.map_map]
    have same : (OutboxRow.eventKey ∘ fun row : OutboxRow Key =>
        if row.eventKey ∈ outbox.due.map OutboxRow.eventKey then row.settle flush else row) =
        OutboxRow.eventKey := by
      funext row
      rw [Function.comp_apply]
      split
      · exact settle_eventKey flush row
      · rfl
    rw [same]
    exact keyed

theorem run_append (events : List (Event Key)) (event : Event Key) :
    run (events ++ [event]) = (run events).step event := by
  unfold run
  rw [List.foldl_append]
  rfl

theorem run_keyed (events : List (Event Key)) : (run events).Keyed := by
  induction events using List.reverseRecOn with
  | nil => exact .nil
  | append_singleton events event ih =>
    rw [run_append]
    exact ih.step event

/-- What the posts of a key say of its row: it holds the note first queued, they are of that note, the
row is delivered once the chart was known to have it, and nothing is posted after that. -/
structure Outbox.Told (outbox : Outbox Key) (first : Option CronNote) (eventKey : Key) : Prop where
  body : (outbox.rowOf eventKey).map OutboxRow.body = first
  posts : ∀ post ∈ outbox.postsOf eventKey, first.map posted = some post.note
  delivered : outbox.delivered eventKey = (outbox.postsOf eventKey).any fun post => decide (post.answer = .accepted)
  last : ∀ post ∈ (outbox.postsOf eventKey).dropLast, post.answer ≠ .accepted

theorem Outbox.Told.enqueue {first : Option CronNote} (told : outbox.Told first eventKey) (queued : Key)
    (body : CronNote) (now : Int) :
    (outbox.enqueue queued body now).Told (first.or (if queued = eventKey then some body else none)) eventKey := by
  unfold Outbox.enqueue
  split
  · next present =>
    by_cases own : queued = eventKey
    · obtain ⟨row, there, same⟩ := List.any_eq_true.mp present
      have held : (outbox.rowOf eventKey).isSome := by
        rw [Option.isSome_iff_ne_none]
        intro absent
        exact rowAt_none.mp absent (List.mem_map.mpr ⟨row, there, (of_decide_eq_true same).trans own⟩)
      obtain ⟨row, found⟩ := Option.isSome_iff_exists.mp held
      have known : first = some row.body := by rw [← told.body, found, Option.map_some]
      rw [known] at told ⊢
      exact told
    · rw [if_neg own, Option.or_none]
      exact told
  · next absent =>
    have missing : rowAt OutboxRow.eventKey outbox.rows queued = none := by
      refine rowAt_none.mpr fun member => absent ?_
      obtain ⟨row, there, own⟩ := List.mem_map.mp member
      exact List.any_eq_true.mpr ⟨row, there, decide_eq_true own⟩
    have grown (row : OutboxRow Key) (own : row.eventKey = queued) : rowAt OutboxRow.eventKey (outbox.rows ++ [row])
        eventKey = if queued = eventKey then some row else rowAt OutboxRow.eventKey outbox.rows eventKey := by
      subst own
      exact rowAt_append_of_none missing
    have rowOf := grown { eventKey := queued, body, createdAt := now, lastAttemptAt := none, deliveredAt := none } rfl
    by_cases own : queued = eventKey
    · subst own
      have unknown : first = none := told.body.symm.trans (congrArg (Option.map OutboxRow.body) missing)
      have silent : outbox.postsOf queued = [] := by
        refine List.eq_nil_iff_forall_not_mem.mpr fun post member => ?_
        have some := told.posts post member
        rw [unknown] at some
        cases some
      refine ⟨?_, fun post member => ?_, ?_, fun post member => ?_⟩
      · rw [unknown, if_pos rfl]
        exact congrArg (Option.map OutboxRow.body) (rowOf.trans (if_pos rfl))
      · change post ∈ outbox.postsOf queued at member
        rw [silent] at member
        cases member
      · change _ = (outbox.postsOf queued).any _
        rw [silent]
        exact congrArg (Option.any fun row : OutboxRow Key => row.deliveredAt.isSome) (rowOf.trans (if_pos rfl))
      · change post ∈ (outbox.postsOf queued).dropLast at member
        rw [silent] at member
        cases member
    · rw [if_neg own, Option.or_none]
      rw [if_neg own] at rowOf
      exact ⟨(congrArg (Option.map OutboxRow.body) rowOf).trans told.body, told.posts,
        (congrArg (Option.any fun row : OutboxRow Key => row.deliveredAt.isSome) rowOf).trans told.delivered, told.last⟩

theorem Outbox.Told.drain {first : Option CronNote} (told : outbox.Told first eventKey) (keyed : outbox.Keyed)
    (flush : Flush Key) : (outbox.drain flush).Told first eventKey := by
  have rowOf := drain_rowOf keyed flush eventKey
  have postsOf := drain_postsOf keyed flush eventKey
  cases due : rowAt OutboxRow.eventKey outbox.due eventKey with
  | none =>
    rw [due] at postsOf
    have silent : (outbox.drain flush).postsOf eventKey = outbox.postsOf eventKey := postsOf.trans (List.append_nil _)
    have still : (outbox.drain flush).rowOf eventKey = outbox.rowOf eventKey := by
      rw [rowOf]
      cases found : outbox.rowOf eventKey with
      | none => rfl
      | some row =>
        have own : row.eventKey = eventKey := rowAt_key found
        rw [Option.map_some, if_neg (own ▸ rowAt_none.mp due)]
    refine ⟨still ▸ told.body, silent ▸ told.posts, ?_, silent ▸ told.last⟩
    unfold Outbox.delivered
    rw [still, silent]
    exact told.delivered
  | some row =>
    obtain ⟨member, waits⟩ := due_waits (rowAt_mem due)
    have own : row.eventKey = eventKey := rowAt_key due
    subst own
    have held : outbox.rowOf row.eventKey = some row := rowAt_of_mem keyed member
    rw [held, Option.map_some, if_pos (List.mem_map_of_mem (rowAt_mem due))] at rowOf
    rw [due, Option.map_some, Option.getD_some] at postsOf
    have undelivered : (outbox.postsOf row.eventKey).any (fun post => decide (post.answer = .accepted)) = false := by
      rw [← told.delivered]
      unfold Outbox.delivered
      rw [held, Option.any_some, waits]
      rfl
    have note : first = some row.body := by rw [← told.body, held, Option.map_some]
    refine ⟨?_, fun post member => ?_, ?_, fun post member => ?_⟩
    · rw [rowOf, note, Option.map_some, settle_body]
    · rw [postsOf] at member
      rcases List.mem_append.mp member with earlier | last
      · exact told.posts post earlier
      · unfold Flush.posts at last
        split at last
        · cases last
        · cases List.mem_singleton.mp last
          rw [note, Option.map_some]
          rfl
    · unfold Outbox.delivered
      rw [rowOf, Option.any_some, settle_delivered waits, postsOf, List.any_append, undelivered, Bool.false_or]
      exact posts_accepted.symm
    · rw [postsOf] at member
      have refused : post ∈ outbox.postsOf row.eventKey := by
        unfold Flush.posts at member
        split at member
        · rw [List.append_nil] at member
          exact List.dropLast_subset _ member
        · rw [List.dropLast_concat] at member
          exact member
      exact fun same => List.any_eq_false.mp undelivered post refused (decide_eq_true same)

theorem firstNote_append (events : List (Event Key)) (event : Event Key) (eventKey : Key) :
    firstNote (events ++ [event]) eventKey = (firstNote events eventKey).or (event.noteOf eventKey) := by
  unfold firstNote
  rw [List.findSome?_append]
  congr 1
  cases event with
  | enqueue queued body now =>
    rw [List.findSome?_cons]
    cases Event.noteOf eventKey (.enqueue queued body now) with
    | none => rfl
    | some note => rfl
  | drain flush => rfl

theorem run_told (events : List (Event Key)) (eventKey : Key) :
    (run events).Told (firstNote events eventKey) eventKey := by
  induction events using List.reverseRecOn with
  | nil => exact ⟨rfl, fun post member => (by cases member), rfl, fun post member => (by cases member)⟩
  | append_singleton events event ih =>
    rw [run_append, firstNote_append]
    cases event with
    | enqueue queued body now => exact ih.enqueue queued body now
    | drain flush =>
      rw [show Event.noteOf eventKey (.drain flush) = none from rfl, Option.or_none]
      exact ih.drain (run_keyed events) flush

end

theorem posted_bytes (note : CronNote) : byteLength (posted note).message ≤ 16029 := by
  have cut : ∀ chars : List Char, (chars.map Char.utf8Size).sum ≤ 4 * chars.length := by
    intro chars
    induction chars with
    | nil => exact le_refl 0
    | cons first rest ih =>
      have one := first.utf8Size_le_four
      rw [List.map_cons, List.sum_cons, List.length_cons]
      omega
  unfold posted
  split
  · unfold byteLength
    rw [String.toList_ofList, List.map_append, List.sum_append]
    have first := cut (note.message.toList.take 4000)
    have short := List.length_take_le 4000 note.message.toList
    have suffix : ("… [full details in journal]".toList.map Char.utf8Size).sum = 29 := by decide
    omega
  · omega

/-- What is queued before a flush, and the flush. -/
structure Round (Key : Type) where
  arrivals : List (Key × CronNote × Int)
  flush : Flush Key

def Outbox.arrive (outbox : Outbox Key) (arrivals : List (Key × CronNote × Int)) : Outbox Key :=
  arrivals.foldl (fun outbox arrival => outbox.enqueue arrival.1 arrival.2.1 arrival.2.2) outbox

def Outbox.round (outbox : Outbox Key) (round : Round Key) : Outbox Key :=
  (outbox.arrive round.arrivals).drain round.flush

def OutboxRow.waitsBefore (mark row : OutboxRow Key) : Bool := row.waits && decide (row.place < mark.place)

/-- How many alerts wait before a row. -/
def Outbox.ahead (outbox : Outbox Key) (row : OutboxRow Key) : Nat := outbox.rows.countP row.waitsBefore

/-- What stays as it is until a row is attempted: it waits in the outbox, and whatever was attempted was
before the flushes to come, which come one after another and mark each row they take on. -/
structure Outbox.Queued (row : OutboxRow Key) (outbox : Outbox Key) (rounds : List (Round Key)) : Prop where
  keyed : outbox.Keyed
  present : row ∈ outbox.rows
  waiting : row.deliveredAt = none
  marks : ∀ round ∈ rounds, ∀ eventKey, round.flush.answer eventKey ≠ .unmarked
  later : ∀ old ∈ outbox.rows, ∀ instant ∈ old.lastAttemptAt, ∀ round ∈ rounds, ∀ eventKey,
    instant < round.flush.clock eventKey
  ordered : rounds.Pairwise fun earlier next => ∀ eventKey other,
    earlier.flush.clock eventKey < next.flush.clock other

section
variable {outbox : Outbox Key} {flush : Flush Key} {row : OutboxRow Key} {rounds : List (Round Key)}
  {arrivals : List (Key × CronNote × Int)} {round : Round Key}

theorem enqueue_rows (outbox : Outbox Key) (eventKey : Key) (body : CronNote) (now : Int) :
    (outbox.enqueue eventKey body now).rows = outbox.rows ∨ ∃ fresh : OutboxRow Key, fresh.lastAttemptAt = none ∧
      (outbox.enqueue eventKey body now).rows = outbox.rows ++ [fresh] := by
  unfold Outbox.enqueue
  split
  · exact .inl rfl
  · exact .inr ⟨{ eventKey, body, createdAt := now, lastAttemptAt := none, deliveredAt := none }, rfl, rfl⟩

theorem Outbox.Queued.arrive (queued : outbox.Queued row rounds) (arrivals : List (Key × CronNote × Int)) :
    (outbox.arrive arrivals).Queued row rounds ∧
      (outbox.arrive arrivals).ahead row ≤ outbox.ahead row + arrivals.length := by
  induction arrivals generalizing outbox with
  | nil => exact ⟨queued, le_refl _⟩
  | cons arrival rest ih =>
    have keyed := queued.keyed.step (.enqueue arrival.1 arrival.2.1 arrival.2.2)
    have next : (outbox.enqueue arrival.1 arrival.2.1 arrival.2.2).Queued row rounds ∧
        (outbox.enqueue arrival.1 arrival.2.1 arrival.2.2).ahead row ≤ outbox.ahead row + 1 := by
      unfold Outbox.ahead
      rcases enqueue_rows outbox arrival.1 arrival.2.1 arrival.2.2 with same | ⟨fresh, unattempted, grown⟩
      · refine ⟨⟨keyed, same ▸ queued.present, queued.waiting, queued.marks, same ▸ queued.later,
          queued.ordered⟩, ?_⟩
        rw [same]
        omega
      · refine ⟨⟨keyed, grown ▸ List.mem_append_left _ queued.present, queued.waiting, queued.marks,
          fun old member instant attempted => ?_, queued.ordered⟩, ?_⟩
        · rw [grown] at member
          rcases List.mem_append.mp member with earlier | last
          · exact queued.later old earlier instant attempted
          · cases List.mem_singleton.mp last
            rw [unattempted] at attempted
            cases attempted
        · rw [grown, List.countP_append]
          have one := List.countP_le_length (p := row.waitsBefore) (l := [fresh])
          simp only [List.length_singleton] at one
          omega
    obtain ⟨later, bound⟩ := ih next.1
    have first := next.2
    rw [List.length_cons]
    exact ⟨later, by unfold Outbox.arrive at bound ⊢; rw [List.foldl_cons]; omega⟩

theorem place_lt_settle {old : OutboxRow Key} (marked : flush.answer old.eventKey ≠ .unmarked)
    (later : ∀ instant ∈ row.lastAttemptAt, instant < flush.clock old.eventKey) :
    row.place < (old.settle flush).place := by
  have attempted : (old.settle flush).lastAttemptAt = some (flush.clock old.eventKey) := by
    unfold OutboxRow.settle
    cases answer : flush.answer old.eventKey with
    | unmarked => exact absurd answer marked
    | rejected => rfl
    | unrecorded => rfl
    | accepted => rfl
  unfold OutboxRow.place
  rw [Prod.Lex.toLex_lt_toLex, attempted]
  refine .inl ?_
  cases last : row.lastAttemptAt with
  | none => exact WithBot.bot_lt_coe _
  | some instant => exact WithBot.coe_lt_coe.mpr (later instant last)

/-- A flush that does not come to a row takes on twenty that wait before it, and puts them behind. -/
theorem Outbox.Queued.drain (queued : outbox.Queued row (round :: rounds)) (missed : row ∉ outbox.due) :
    (outbox.drain round.flush).Queued row rounds ∧
      (outbox.drain round.flush).ahead row + 20 ≤ outbox.ahead row := by
  have keyed := queued.keyed
  have member : row ∈ outbox.rows.filter OutboxRow.waits :=
    List.mem_filter.mpr ⟨queued.present, Option.isNone_iff_eq_none.mpr queued.waiting⟩
  have dueRow : ∀ old ∈ outbox.rows, old.eventKey ∈ outbox.due.map OutboxRow.eventKey → old ∈ outbox.due := by
    intro old there taken
    obtain ⟨served, inDue, same⟩ := List.mem_map.mp taken
    have first := rowAt_of_mem keyed there
    have second := rowAt_of_mem keyed (due_waits inDue).1
    rw [← same, second] at first
    exact Option.some.inj first ▸ inDue
  have distinct : ((outbox.rows.filter OutboxRow.waits).map OutboxRow.place).Nodup := by
    have keys : ((outbox.rows.filter OutboxRow.waits).map OutboxRow.eventKey).Nodup :=
      keyed.sublist (List.filter_sublist.map _)
    have through : (outbox.rows.filter OutboxRow.waits).map OutboxRow.eventKey =
        ((outbox.rows.filter OutboxRow.waits).map OutboxRow.place).map fun place => (ofLex (ofLex place).2).2 := by
      rw [List.map_map]
      rfl
    rw [through] at keys
    exact keys.of_map _
  have before : ∀ first ∈ outbox.due, first.place < row.place := before_of_notMem_take distinct member missed
  have full : outbox.due.length = 20 := length_take_of_notMem member missed
  have notDue : row.eventKey ∉ outbox.due.map OutboxRow.eventKey := fun taken =>
    missed (dueRow row queued.present taken)
  have behind : ∀ old : OutboxRow Key, row.place < (old.settle round.flush).place := fun old =>
    place_lt_settle (queued.marks round List.mem_cons_self _) fun instant attempted =>
      queued.later row queued.present instant attempted round List.mem_cons_self _
  have rows := drain_rows keyed round.flush
  refine ⟨⟨keyed.step (.drain round.flush), ?_, queued.waiting,
    fun next later => queued.marks next (List.mem_cons_of_mem _ later), ?_, queued.ordered.tail⟩, ?_⟩
  · rw [rows]
    exact List.mem_map.mpr ⟨row, queued.present, if_neg notDue⟩
  · intro new inNew instant attempted next later eventKey
    rw [rows] at inNew
    obtain ⟨old, there, rfl⟩ := List.mem_map.mp inNew
    split at attempted
    · have known : instant = round.flush.clock old.eventKey ∨ old.lastAttemptAt = some instant := by
        unfold OutboxRow.settle at attempted
        split at attempted
        · exact .inr attempted
        · exact .inl (Option.some.inj attempted).symm
        · exact .inl (Option.some.inj attempted).symm
        · exact .inl (Option.some.inj attempted).symm
      rcases known with rfl | earlier
      · exact (List.pairwise_cons.mp queued.ordered).1 next later _ _
      · exact queued.later old there instant earlier next (List.mem_cons_of_mem _ later) eventKey
    · exact queued.later old there instant attempted next (List.mem_cons_of_mem _ later) eventKey
  · unfold Outbox.ahead
    have moved : 20 ≤ outbox.rows.countP fun old => decide (old.eventKey ∈ outbox.due.map OutboxRow.eventKey) := by
      rw [← full]
      have all : outbox.due.countP (fun old => decide (old.eventKey ∈ outbox.due.map OutboxRow.eventKey)) =
          outbox.due.length := List.countP_eq_length.mpr fun old inDue => decide_eq_true (List.mem_map_of_mem inDue)
      rw [← all]
      exact (due_subperm outbox).countP_le _
    have count : outbox.rows.countP (fun old => row.waitsBefore
          (if old.eventKey ∈ outbox.due.map OutboxRow.eventKey then old.settle round.flush else old)) +
        outbox.rows.countP (fun old => decide (old.eventKey ∈ outbox.due.map OutboxRow.eventKey)) ≤
          outbox.rows.countP row.waitsBefore := by
      refine countP_moved (fun old there went => ?_) (fun old there went => ?_)
      · by_cases taken : old.eventKey ∈ outbox.due.map OutboxRow.eventKey
        · have inDue := dueRow old there taken
          exact Bool.and_eq_true_iff.mpr ⟨Option.isNone_iff_eq_none.mpr (due_waits inDue).2,
            decide_eq_true (before old inDue)⟩
        · rw [if_neg taken, decide_eq_false taken] at went
          exact went.resolve_right Bool.false_ne_true
      · rw [if_pos (of_decide_eq_true went)]
        unfold OutboxRow.waitsBefore
        rw [decide_eq_false (behind old).not_gt, Bool.and_false]
    rw [rows, List.countP_map]
    exact (Nat.add_le_add_left moved _).trans count

theorem round_posts (outbox : Outbox Key) (round : Round Key) :
    (outbox.round round).posts = outbox.posts ++
      (outbox.arrive round.arrivals).due.flatMap round.flush.posts := by
  have still : ∀ arrivals, (outbox.arrive arrivals).posts = outbox.posts := by
    intro arrivals
    unfold Outbox.arrive
    induction arrivals generalizing outbox with
    | nil => rfl
    | cons arrival rest ih =>
      rw [List.foldl_cons, ih, Outbox.enqueue]
      split
      · rfl
      · rfl
  unfold Outbox.round Outbox.drain
  rw [deliver_posts, still]

theorem rounds_posts (outbox : Outbox Key) (rounds : List (Round Key)) :
    outbox.posts <+: (rounds.foldl Outbox.round outbox).posts := by
  induction rounds generalizing outbox with
  | nil => exact List.prefix_refl _
  | cons round rest ih =>
    refine List.IsPrefix.trans ?_ (ih (outbox.round round))
    rw [round_posts]
    exact List.prefix_append _ _

end

end

def rejectedNote : CronNote where
  ts := "2026-10-16T01:08:24Z"
  account := none
  tradeId := "gbpaud"
  source := "entry-dispatch"
  severity := .warn
  message := "entry rejected"

def rejectedRow : OutboxRow Nat where
  eventKey := 1
  body := rejectedNote
  createdAt := 0
  lastAttemptAt := none
  deliveredAt := none

def rejectedRound : Round Nat where
  arrivals := [(2, rejectedNote, 3)]
  flush := { clock := fun _ => 4, answer := fun _ => .rejected, taken := fun _ => 4 }

end TradeControl.OperatorAlerts
