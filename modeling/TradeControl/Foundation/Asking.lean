import Mathlib.Logic.Basic

namespace Foundation

/-- A computation that asks its environment, keeping what has been asked, and may fail. -/
def Asking (Request Failure Result : Type) : Type := List Request → Except Failure Result × List Request

section
variable {Request Failure Value Result : Type}

instance : Monad (Asking Request Failure) where
  pure value := fun asked => (.ok value, asked)
  bind first next := fun asked =>
    match first asked with
    | (.ok value, asked') => next value asked'
    | (.error failure, asked') => (.error failure, asked')

/-- Asks; the answer may depend on everything asked before. -/
def Asking.ask (request : Request) (answer : List Request → Except Failure Result) :
    Asking Request Failure Result := fun asked =>
  (answer asked, asked ++ [request])

/-- Goes on with what a check gives. -/
def Asking.check (checked : Except Failure Result) : Asking Request Failure Result := fun asked => (checked, asked)

/-- The computation succeeds, having asked so much. -/
def Asking.Succeeds (program : Asking Request Failure Result) (asked : List Request) (result : Result)
    (last : List Request) : Prop :=
  program asked = (.ok result, last)

theorem Asking.succeeds_pure {value result : Value} {asked last : List Request} :
    (pure value : Asking Request Failure Value).Succeeds asked result last ↔ value = result ∧ asked = last := by
  unfold Succeeds
  constructor
  · intro same
    cases same
    exact ⟨rfl, rfl⟩
  · rintro ⟨rfl, rfl⟩
    rfl

theorem Asking.succeeds_bind {first : Asking Request Failure Value} {next : Value → Asking Request Failure Result}
    {asked last : List Request} {result : Result} :
    (first >>= next).Succeeds asked result last ↔
      ∃ value middle, first.Succeeds asked value middle ∧ (next value).Succeeds middle result last := by
  unfold Succeeds
  change (match first asked with
    | (.ok value, asked') => next value asked'
    | (.error failure, asked') => (.error failure, asked')) = _ ↔ _
  constructor
  · intro same
    split at same
    next value middle found => exact ⟨value, middle, found, same⟩
    · cases same
  · rintro ⟨value, middle, found, later⟩
    rw [found]
    exact later

theorem Asking.succeeds_ask {request : Request} {answer : List Request → Except Failure Result}
    {asked last : List Request} {result : Result} :
    (Asking.ask request answer).Succeeds asked result last ↔ answer asked = .ok result ∧ asked ++ [request] = last :=
  Prod.ext_iff

theorem Asking.succeeds_check {checked : Except Failure Result} {asked last : List Request} {result : Result} :
    (Asking.check checked).Succeeds asked result last ↔ checked = .ok result ∧ asked = last :=
  Prod.ext_iff

/-- Whether it succeeds or not, the computation adds only such requests to what was asked. -/
def Asking.Asks (program : Asking Request Failure Result) (allowed : Request → Prop) : Prop :=
  ∀ asked, ∃ new, (program asked).2 = asked ++ new ∧ ∀ request ∈ new, allowed request

variable {allowed : Request → Prop}

theorem Asking.asks_pure (value : Value) : (pure value : Asking Request Failure Value).Asks allowed :=
  fun asked => ⟨[], (List.append_nil asked).symm, fun _ none_ => nomatch none_⟩

theorem Asking.asks_check (checked : Except Failure Result) : (Asking.check checked).Asks allowed :=
  fun asked => ⟨[], (List.append_nil asked).symm, fun _ none_ => nomatch none_⟩

theorem Asking.asks_ask {request : Request} {answer : List Request → Except Failure Result}
    (permitted : allowed request) : (Asking.ask request answer).Asks allowed :=
  fun asked => ⟨[request], rfl, fun other listed => by
    rw [List.mem_singleton.mp listed]
    exact permitted⟩

theorem Asking.asks_bind {first : Asking Request Failure Value} {next : Value → Asking Request Failure Result}
    (asks : first.Asks allowed) (asks' : ∀ value, (next value).Asks allowed) : (first >>= next).Asks allowed := by
  intro asked
  obtain ⟨new, same, permitted⟩ := asks asked
  change ∃ rest, (match first asked with
    | (.ok value, asked') => next value asked'
    | (.error failure, asked') => (.error failure, asked')).2 = _ ∧ _
  split
  next value middle found =>
    rw [found] at same
    obtain ⟨rest, same', permitted'⟩ := asks' value middle
    refine ⟨new ++ rest, ?_, fun request listed => ?_⟩
    · rw [same', ← List.append_assoc]
      exact congrArg (· ++ rest) same
    · exact (List.mem_append.mp listed).elim (permitted request) (permitted' request)
  next failure middle found =>
    rw [found] at same
    exact ⟨new, same, permitted⟩

end

section
variable {Request Failure Value Result : Type}

/-- Does something whose result and record both depend on everything before. -/
def Asking.act (turn : List Request → Except Failure Result × Request) : Asking Request Failure Result :=
  fun asked => ((turn asked).1, asked ++ [(turn asked).2])

/-- A computation whose failure is a result. -/
def Asking.attempt (program : Asking Request Failure Result) : Asking Request Failure (Except Failure Result) :=
  fun asked => (.ok (program asked).1, (program asked).2)

/-- From a start, the computation ends well or badly with what is asked of each. -/
def Asking.Ensures (program : Asking Request Failure Result) (start : List Request)
    (well : Result → List Request → Prop) (badly : List Request → Prop) : Prop :=
  match program start with
  | (.ok result, last) => well result last
  | (.error _, last) => badly last

variable {start : List Request} {well : Result → List Request → Prop} {badly : List Request → Prop}

theorem Asking.ensures_pure {result : Result} (holds : well result start) :
    (pure result : Asking Request Failure Result).Ensures start well badly := holds

theorem Asking.ensures_bind {first : Asking Request Failure Value} {next : Value → Asking Request Failure Result}
    (both : first.Ensures start (fun value middle => (next value).Ensures middle well badly) badly) :
    (first >>= next).Ensures start well badly := by
  unfold Ensures at both ⊢
  change match (match first start with
    | (.ok value, asked') => next value asked'
    | (.error failure, asked') => (.error failure, asked')) with
    | (.ok result, last) => well result last
    | (.error _, last) => badly last
  cases found : first start with
  | mk ended middle =>
    rw [found] at both
    cases ended with
    | ok value => exact both
    | error failure => exact both

theorem Asking.ensures_check {checked : Except Failure Result}
    (passes : ∀ result, checked = .ok result → well result start) (fails : badly start) : (Asking.check checked).Ensures start well badly := by
  cases checked with
  | ok result => exact passes result rfl
  | error failure => exact fails

theorem Asking.ensures_act {turn : List Request → Except Failure Result × Request}
    (passes : ∀ result, (turn start).1 = .ok result → well result (start ++ [(turn start).2]))
    (fails : badly (start ++ [(turn start).2])) : (Asking.act turn).Ensures start well badly := by
  unfold Ensures act
  cases ended : (turn start).1 with
  | ok result => exact passes result ended
  | error failure => exact fails

theorem Asking.ensures_attempt_act {turn : List Request → Except Failure Result × Request}
    {well : Except Failure Result → List Request → Prop} (either : well (turn start).1 (start ++ [(turn start).2])) :
    (Asking.act turn).attempt.Ensures start well badly := either

theorem Asking.ensures_attempt {program : Asking Request Failure Result}
    {well : Except Failure Result → List Request → Prop}
    (either : program.Ensures start (fun result last => well (.ok result) last)
      (fun last => ∀ failure, well (.error failure) last)) :
    program.attempt.Ensures start well badly := by
  unfold Ensures at either
  change well (program start).1 (program start).2
  split at either
  next result last found =>
    rw [found]
    exact either
  next failure last found =>
    rw [found]
    exact either failure

theorem Asking.Ensures.mono {program : Asking Request Failure Result} {well' : Result → List Request → Prop}
    {badly' : List Request → Prop} (ensures : program.Ensures start well badly)
    (wider : ∀ result last, well result last → well' result last) (wider' : ∀ last, badly last → badly' last) :
    program.Ensures start well' badly' := by
  unfold Ensures at ensures ⊢
  split
  next result last found =>
    rw [found] at ensures
    exact wider result last ensures
  next failure last found =>
    rw [found] at ensures
    exact wider' last ensures

/-- What holds at both ends holds of what was asked. -/
theorem Asking.Ensures.last {program : Asking Request Failure Result} {holds : List Request → Prop}
    (ensures : program.Ensures start (fun _ last => holds last) holds) : holds (program start).2 := by
  unfold Ensures at ensures
  split at ensures
  next result last found =>
    rw [found]
    exact ensures
  next failure last found =>
    rw [found]
    exact ensures

theorem Asking.asks_act {allowed : Request → Prop} {turn : List Request → Except Failure Result × Request}
    (permitted : ∀ asked, allowed (turn asked).2) : (Asking.act turn).Asks allowed :=
  fun asked => ⟨[(turn asked).2], rfl, fun other listed => by
    rw [List.mem_singleton.mp listed]
    exact permitted asked⟩

theorem Asking.asks_attempt {allowed : Request → Prop} {program : Asking Request Failure Result}
    (asks : program.Asks allowed) : program.attempt.Asks allowed := asks

theorem Asking.bind_eq {first : Asking Request Failure Value} {next : Value → Asking Request Failure Result}
    {asked middle : List Request} {value : Value} (run : first asked = (.ok value, middle)) :
    (first >>= next) asked = next value middle := by
  change (match first asked with
    | (.ok value, asked') => next value asked'
    | (.error failure, asked') => (.error failure, asked')) = _
  rw [run]

theorem Asking.check_eq {checked answer : Except Failure Result} (same : checked = answer) (asked : List Request) :
    Asking.check checked asked = (answer, asked) := by
  rw [same]
  rfl

theorem Asking.bind_failed {first : Asking Request Failure Value} {next : Value → Asking Request Failure Result}
    {asked middle : List Request} {failure : Failure} (run : first asked = (.error failure, middle)) :
    (first >>= next) asked = (.error failure, middle) := by
  change (match first asked with
    | (.ok value, asked') => next value asked'
    | (.error failure, asked') => (.error failure, asked')) = _
  rw [run]

theorem Asking.attempt_eq {program : Asking Request Failure Result} {asked last : List Request}
    {result : Except Failure Result} (run : program asked = (result, last)) :
    program.attempt asked = (.ok result, last) := by
  unfold attempt
  rw [run]

end

end Foundation
