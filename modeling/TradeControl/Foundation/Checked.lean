import Mathlib.Logic.Basic

namespace Foundation

/-- A condition a computation goes on under, and the text it fails with. -/
def ensure (condition : Prop) [Decidable condition] (message : String) : Except String Unit :=
  if condition then .ok () else .error message

/-- A value that has to be there, and the text it is missed with. -/
def required {Value : Type} (value : Option Value) (message : String) : Except String Value :=
  match value with
  | some value => .ok value
  | none => .error message

section
variable {Failure Value Result : Type}

/-- A condition a computation goes on under, and the failure it ends with. -/
def demand (condition : Prop) [Decidable condition] (failure : Failure) : Except Failure Unit :=
  if condition then .ok () else .error failure

/-- An answer that has to be there, and the failure it is missed with. -/
def needed (answer : Option Value) (failure : Failure) : Except Failure Value :=
  match answer with
  | some value => .ok value
  | none => .error failure

theorem needed_ok {answer : Option Value} {failure : Failure} {value : Value} :
    needed answer failure = .ok value ↔ answer = some value := by
  cases answer with
  | none => exact ⟨fun same => (by cases same), fun same => (by cases same)⟩
  | some there => exact ⟨fun same => (by cases same; rfl), fun same => (by cases same; rfl)⟩

theorem demand_ok {condition : Prop} [Decidable condition] {failure : Failure} {done : Unit} :
    demand condition failure = .ok done ↔ condition := by
  unfold demand
  split
  next holds => exact ⟨fun _ => holds, fun _ => rfl⟩
  next fails => exact ⟨fun same => (by cases same), fun holds => absurd holds fails⟩

theorem required_ok {found : Option Value} {message : String} {value : Value} :
    required found message = .ok value ↔ found = some value :=
  needed_ok

theorem ensure_ok {condition : Prop} [Decidable condition] {message : String} {done : Unit} :
    ensure condition message = .ok done ↔ condition :=
  demand_ok

theorem bind_ok {first : Except Failure Value} {next : Value → Except Failure Result} {result : Result} :
    (first >>= next) = .ok result ↔ ∃ value, first = .ok value ∧ next value = .ok result := by
  cases first with
  | error failure =>
    constructor
    · intro same
      cases same
    · rintro ⟨value, same, _⟩
      cases same
  | ok value =>
    constructor
    · exact fun same => ⟨value, rfl, same⟩
    · rintro ⟨_, same, later⟩
      cases same
      exact later

theorem pure_ok {value result : Value} :
    (pure value : Except Failure Value) = .ok result ↔ value = result :=
  ⟨fun same => (by cases same; rfl), fun same => congrArg Except.ok same⟩

theorem mapError_ok {Failure' : Type} {result : Except Failure Value} {change : Failure → Failure'} {value : Value} :
    result.mapError change = .ok value ↔ result = .ok value := by
  cases result with
  | error failure =>
    constructor
    · intro same
      cases same
    · intro same
      cases same
  | ok held => exact ⟨fun same => (by cases same; rfl), fun same => (by cases same; rfl)⟩

/-- The loop rule: what every turn that succeeds carries over, a loop that succeeds carries over. -/
theorem foldlM_carried {State Item : Type} {turn : State → Item → Except Failure State}
    {inv : State → Prop} {items : List Item}
    (each : ∀ item ∈ items, ∀ before after, turn before item = .ok after → inv before → inv after)
    {start last : State} (run : items.foldlM turn start = .ok last) (initial : inv start) :
    inv last := by
  induction items generalizing start with
  | nil =>
    cases run
    exact initial
  | cons item rest ih =>
    rw [List.foldlM_cons, bind_ok] at run
    obtain ⟨next, first, later⟩ := run
    exact ih (fun item member => each item (List.mem_cons_of_mem _ member)) later
      (each item List.mem_cons_self start next first initial)

/-- A loop that succeeds has come to each of its items with a turn that succeeded. -/
theorem foldlM_visited {State Item : Type} {turn : State → Item → Except Failure State}
    {items : List Item} {start last : State} (run : items.foldlM turn start = .ok last) :
    ∀ item ∈ items, ∃ before after, turn before item = .ok after := by
  induction items generalizing start with
  | nil => simp
  | cons first rest ih =>
    rw [List.foldlM_cons, bind_ok] at run
    obtain ⟨next, turned, later⟩ := run
    intro item member
    rcases List.mem_cons.mp member with rfl | member
    · exact ⟨start, next, turned⟩
    · exact ih later item member

/-- A loop that fails fails in a turn, from a state that the turns before it left. -/
theorem foldlM_failed {State Item : Type} {turn : State → Item → Except Failure State}
    {inv : State → Prop} {items : List Item}
    (each : ∀ item ∈ items, ∀ before after, turn before item = .ok after → inv before → inv after)
    {start : State} {failure : Failure} (run : items.foldlM turn start = .error failure) (initial : inv start) :
    ∃ item ∈ items, ∃ before, inv before ∧ turn before item = .error failure := by
  induction items generalizing start with
  | nil => cases run
  | cons item rest ih =>
    rw [List.foldlM_cons] at run
    cases turned : turn start item with
    | error other =>
      rw [turned] at run
      cases run
      exact ⟨item, List.mem_cons_self, start, initial, turned⟩
    | ok next =>
      rw [turned] at run
      obtain ⟨failing, member, before, held, fails⟩ :=
        ih (fun item member => each item (List.mem_cons_of_mem _ member)) run
          (each item List.mem_cons_self start next turned initial)
      exact ⟨failing, List.mem_cons_of_mem _ member, before, held, fails⟩

/-- A loop whose turns each only check their item is a plain fold under all the checks. -/
theorem foldlM_ok {State Item : Type} {turn : State → Item → Except Failure State}
    {next : State → Item → State} {checked : Item → Prop} {items : List Item}
    (each : ∀ before item after, turn before item = .ok after ↔ checked item ∧ next before item = after)
    {start last : State} :
    items.foldlM turn start = .ok last ↔ (∀ item ∈ items, checked item) ∧ items.foldl next start = last := by
  induction items generalizing start with
  | nil => simp [pure_ok]
  | cons first rest ih =>
    rw [List.foldlM_cons, bind_ok, List.foldl_cons, List.forall_mem_cons]
    simp only [each, ih]
    constructor
    · rintro ⟨_, ⟨passed, rfl⟩, others, ended⟩
      exact ⟨⟨passed, others⟩, ended⟩
    · rintro ⟨⟨passed, others⟩, ended⟩
      exact ⟨_, ⟨passed, rfl⟩, others, ended⟩

/-- The simulation rule: where every turn of a loop that succeeds is matched by a turn of another,
so is the loop. -/
theorem foldlM_simulated {State State' Item : Type} {turn : State → Item → Except Failure State}
    {turn' : State' → Item → Except Failure State'} {related : State → State' → Prop} {items : List Item}
    (each : ∀ item ∈ items, ∀ s t s', related s t → turn s item = .ok s' →
      ∃ t', turn' t item = .ok t' ∧ related s' t')
    {start last : State} {start' : State'} (initial : related start start')
    (run : items.foldlM turn start = .ok last) :
    ∃ last', items.foldlM turn' start' = .ok last' ∧ related last last' := by
  induction items generalizing start start' with
  | nil =>
    cases run
    exact ⟨start', rfl, initial⟩
  | cons item rest ih =>
    rw [List.foldlM_cons, bind_ok] at run
    obtain ⟨next, turned, later⟩ := run
    obtain ⟨next', turned', same⟩ := each item List.mem_cons_self start start' next initial turned
    obtain ⟨last', run', ended⟩ := ih (fun item member => each item (List.mem_cons_of_mem _ member)) same later
    refine ⟨last', ?_, ended⟩
    rw [List.foldlM_cons, bind_ok]
    exact ⟨next', turned', run'⟩

end

end Foundation
