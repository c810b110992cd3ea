import Mathlib.Logic.Basic

namespace Foundation

/-- States a system reaches from `start` when every event it takes meets `guard`
in the state where it is taken. -/
inductive GuardedReach {State Event : Type*} (step : State → Event → State)
    (guard : State → Event → Prop) (start : State) : State → Prop
  | start : GuardedReach step guard start start
  | next {state event} : GuardedReach step guard start state → guard state event →
      GuardedReach step guard start (step state event)

section
variable {State Event : Type*} {step : State → Event → State}
  {guard guard' : State → Event → Prop} {start middle last : State}

/-- The invariant rule: what holds at the start and survives every guarded event
holds in every state reached. -/
theorem GuardedReach.invariant {inv : State → Prop}
    (reach : GuardedReach step guard start last) (initial : inv start)
    (preserved : ∀ state event, inv state → guard state event → inv (step state event)) :
    inv last := by
  induction reach with
  | start => exact initial
  | next _ allowed ih => exact preserved _ _ ih allowed

end

/-- Along the events of a run, each state–event pair meets `good`. -/
def Along {State Event : Type*} (step : State → Event → State) (good : State → Event → Prop) :
    State → List Event → Prop
  | _, [] => True
  | state, event :: rest => good state event ∧ Along step good (step state event) rest

section
variable {State Event : Type*} {step : State → Event → State} {good good' : State → Event → Prop}

/-- Two readings of single steps that agree everywhere agree along every run. -/
theorem Along.congr (agree : ∀ state event, good state event ↔ good' state event)
    (events : List Event) : ∀ state, Along step good state events ↔ Along step good' state events := by
  induction events with
  | nil => exact fun _ => Iff.rfl
  | cons event rest ih =>
    intro state
    exact and_congr (agree state event) (ih (step state event))

theorem Along.of_forall {allowed : Event → Prop} {events : List Event}
    (each : ∀ event ∈ events, allowed event) (state : State) :
    Along step (fun _ event => allowed event) state events := by
  induction events generalizing state with
  | nil => trivial
  | cons event rest ih =>
    exact ⟨each event (List.mem_cons_self ..), ih (fun later member =>
      each later (List.mem_cons_of_mem _ member)) _⟩

/-- The rule for runs: what each guarded step meets, a guarded run meets throughout. -/
theorem Along.mono (step_good : ∀ state event, good state event → good' state event) {state : State}
    {events : List Event} (guarded : Along step good state events) : Along step good' state events := by
  induction events generalizing state with
  | nil => trivial
  | cons event rest ih => exact ⟨step_good state event guarded.1, ih guarded.2⟩

theorem Along.and {state : State} {events : List Event} (first : Along step good state events)
    (second : Along step good' state events) :
    Along step (fun state event => good state event ∧ good' state event) state events := by
  induction events generalizing state with
  | nil => trivial
  | cons event rest ih => exact ⟨⟨first.1, second.1⟩, ih first.2 second.2⟩

theorem Along.append {events later : List Event} {state : State} :
    Along step good state (events ++ later) ↔
      Along step good state events ∧ Along step good (events.foldl step state) later := by
  induction events generalizing state with
  | nil => exact (and_iff_right trivial).symm
  | cons event rest ih => exact (and_congr_right fun _ => ih).trans and_assoc.symm

/-- An invariant that guarded steps keep holds where a guarded run ends. -/
theorem Along.foldl_invariant {inv : State → Prop}
    (preserved : ∀ state event, inv state → good state event → inv (step state event)) {state : State}
    {events : List Event} (initial : inv state) (guarded : Along step good state events) :
    inv (events.foldl step state) := by
  induction events generalizing state with
  | nil => exact initial
  | cons event rest ih => exact ih (preserved state event initial guarded.1) guarded.2

/-- The rule for runs with memory: an invariant that guarded steps keep, and under which a
guarded step is good, makes every guarded run good. -/
theorem Along.of_invariant {inv : State → Prop}
    (preserved : ∀ state event, inv state → good state event → inv (step state event))
    (step_good : ∀ state event, inv state → good state event → good' state event) {state : State}
    {events : List Event} (initial : inv state) (guarded : Along step good state events) :
    Along step good' state events := by
  induction events generalizing state with
  | nil => trivial
  | cons event rest ih =>
    exact ⟨step_good state event initial guarded.1,
      ih (preserved state event initial guarded.1) guarded.2⟩

/-- The rule for exact conditions: where, under an invariant, a step is good exactly when it
meets a condition, and good steps keep the invariant, so it is for runs. -/
theorem Along.iff_of_invariant {inv : State → Prop} {allowed : State → Event → Prop}
    (agree : ∀ state event, inv state → allowed state event → (good state event ↔ good' state event))
    (preserved : ∀ state event, inv state → allowed state event → good state event →
      inv (step state event)) {state : State} {events : List Event} (initial : inv state)
    (within : Along step allowed state events) :
    Along step good state events ↔ Along step good' state events := by
  induction events generalizing state with
  | nil => exact Iff.rfl
  | cons event rest ih =>
    have first := agree state event initial within.1
    constructor
    · rintro ⟨meets, later⟩
      exact ⟨first.mp meets, (ih (preserved state event initial within.1 meets) within.2).mp later⟩
    · rintro ⟨meets, later⟩
      have met := first.mpr meets
      exact ⟨met, (ih (preserved state event initial within.1 met) within.2).mpr later⟩

end

end Foundation
