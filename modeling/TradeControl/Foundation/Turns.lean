import Mathlib.Data.List.Basic

namespace Foundation

variable {Item State Effect : Type*}

/-- Producers that take turns on one state: what a turn emits is written before the next turn reads. -/
structure Turns (Item State Effect : Type*) where
  emit : Item → State → List Effect
  write : Item → State → Effect → State

variable (turns : Turns Item State Effect)

def Turns.turn (state : State) (item : Item) : State := (turns.emit item state).foldl (turns.write item) state

def Turns.after (items : List Item) (state : State) : State := items.foldl turns.turn state

/-- Everything emitted, in order. -/
def Turns.trace : List Item → State → List Effect
  | [], _ => []
  | item :: rest, state => turns.emit item state ++ Turns.trace rest (turns.turn state item)

@[simp]
theorem Turns.after_nil (state : State) : turns.after [] state = state := rfl

@[simp]
theorem Turns.after_cons (item : Item) (rest : List Item) (state : State) :
    turns.after (item :: rest) state = turns.after rest (turns.turn state item) := rfl

theorem Turns.after_append (earlier later : List Item) (state : State) :
    turns.after (earlier ++ later) state = turns.after later (turns.after earlier state) := by
  simp only [Turns.after, List.foldl_append]

theorem Turns.trace_append (earlier later : List Item) (state : State) :
    turns.trace (earlier ++ later) state =
      turns.trace earlier state ++ turns.trace later (turns.after earlier state) := by
  induction earlier generalizing state with
  | nil => rfl
  | cons item rest ih => simp only [List.cons_append, Turns.trace, ih, Turns.after_cons, List.append_assoc]

/-- Whatever is emitted is emitted in some turn, from the state the turns before it leave. -/
theorem Turns.exists_turn_of_mem_trace {items : List Item} {state : State} {effect : Effect}
    (member : effect ∈ turns.trace items state) :
    ∃ earlier item later, items = earlier ++ item :: later ∧
      effect ∈ turns.emit item (turns.after earlier state) := by
  induction items generalizing state with
  | nil => simp [Turns.trace] at member
  | cons first rest ih =>
    rcases List.mem_append.mp member with here | later
    · exact ⟨[], first, rest, rfl, here⟩
    · obtain ⟨earlier, item, remaining, parts, emitted⟩ := ih later
      exact ⟨first :: earlier, item, remaining, by rw [parts]; rfl, emitted⟩

theorem Turns.after_invariant (inv : State → Prop) {items : List Item}
    (each : ∀ item ∈ items, ∀ state, inv state → inv (turns.turn state item)) {state : State}
    (initial : inv state) : inv (turns.after items state) := by
  induction items generalizing state with
  | nil => exact initial
  | cons item rest ih =>
    exact ih (fun other member => each other (by simp [member])) (each item (by simp) state initial)

/-- An invariant of every single write is one of every turn. -/
theorem Turns.turn_invariant (inv : State → Prop) {item : Item} {state : State}
    (each : ∀ effect ∈ turns.emit item state, ∀ state, inv state → inv (turns.write item state effect))
    (initial : inv state) : inv (turns.turn state item) := by
  unfold Turns.turn
  generalize turns.emit item state = effects at each
  induction effects generalizing state with
  | nil => exact initial
  | cons effect rest ih =>
    exact ih (each effect (by simp) state initial) (fun other member => each other (by simp [member]))

/-- A turn that emits nothing marked leaves alone what only marked effects change. -/
theorem Turns.turn_frame {Value : Type*} (read : State → Value) {item : Item} {state : State}
    (each : ∀ effect ∈ turns.emit item state, ∀ state, read (turns.write item state effect) = read state) :
    read (turns.turn state item) = read state :=
  turns.turn_invariant (fun later => read later = read state)
    (fun effect member later same => (each effect member later).trans same) rfl

/-- A turn that emits something marked leaves the mark made. -/
theorem Turns.turn_made {marked : Effect → Bool} (made : State → Prop) {item : Item} {state : State}
    (makes : ∀ state effect, marked effect → made (turns.write item state effect))
    (keeps : ∀ state effect, made state → made (turns.write item state effect))
    (some_marked : ∃ effect ∈ turns.emit item state, marked effect) : made (turns.turn state item) := by
  unfold Turns.turn
  generalize turns.emit item state = effects at some_marked
  have kept : ∀ (effects : List Effect) state, made state → made (effects.foldl (turns.write item) state) := by
    intro effects
    induction effects with
    | nil => exact fun _ already => already
    | cons effect rest ih => exact fun state already => ih _ (keeps state effect already)
  induction effects generalizing state with
  | nil => simp at some_marked
  | cons effect rest ih =>
    obtain ⟨witness, member, mark⟩ := some_marked
    rcases List.mem_cons.mp member with rfl | later
    · exact kept rest _ (makes state witness mark)
    · exact ih ⟨witness, later, mark⟩

/-- What is emitted with a mark leaves the mark made at the end. -/
theorem Turns.after_made {marked : Effect → Bool} (made : State → Prop) {items : List Item} {state : State}
    (makes : ∀ item state effect, marked effect → made (turns.write item state effect))
    (keeps : ∀ item state effect, made state → made (turns.write item state effect)) {effect : Effect}
    (member : effect ∈ turns.trace items state) (mark : marked effect) : made (turns.after items state) := by
  obtain ⟨earlier, item, later, rfl, emitted⟩ := turns.exists_turn_of_mem_trace member
  rw [Turns.after_append, Turns.after_cons]
  refine turns.after_invariant made (fun item _ state already => ?_) ?_
  · exact turns.turn_invariant made (fun effect _ state => keeps item state effect) already
  · exact turns.turn_made made (makes item) (keeps item) ⟨effect, emitted, mark⟩

/-- A mark that a turn makes at most once, and never once it is made, is made at most once in all. -/
theorem Turns.count_trace_le {marked : Effect → Bool} (made : State → Bool) {items : List Item}
    (makes : ∀ item state effect, marked effect → made (turns.write item state effect))
    (keeps : ∀ item state effect, made state → made (turns.write item state effect))
    (once : ∀ item ∈ items, ∀ state, (turns.emit item state).countP marked ≤ if made state then 0 else 1)
    (state : State) : (turns.trace items state).countP marked ≤ if made state then 0 else 1 := by
  induction items generalizing state with
  | nil => simp [Turns.trace]
  | cons item rest ih =>
    have here := once item (by simp) state
    have later := ih (fun other member => once other (by simp [member])) (turns.turn state item)
    rw [Turns.trace, List.countP_append]
    by_cases already : made state
    · have still : made (turns.turn state item) :=
        turns.turn_invariant (fun state => made state) (fun effect _ state => keeps item state effect)
          already
      simp only [already, still, if_true] at here later ⊢
      omega
    · by_cases none_here : (turns.emit item state).countP marked = 0
      · rw [none_here, Nat.zero_add, if_neg already]
        exact Nat.le_trans later (by split <;> omega)
      · have marks : ∃ effect ∈ turns.emit item state, marked effect :=
          List.countP_pos_iff.mp (Nat.pos_of_ne_zero none_here)
        have now_made : made (turns.turn state item) :=
          turns.turn_made (fun state => made state) (makes item) (keeps item) marks
        simp only [already, now_made, if_true] at here later ⊢
        omega

end Foundation
