import Mathlib.Data.Int.Order.Basic
import Mathlib.Data.List.Destutter
import Mathlib.Data.List.Flatten
import Mathlib.Data.List.Sort

namespace Foundation

/-- One answer to a request for an interval: its rows, and whether it left some out. -/
structure Page (Row : Type*) where
  rows : List Row
  more : Bool

section
variable {Row Key : Type*} (time : Row → Int) (key : Row → Key) (first last : Int)

/-- The newest rows of an interval, of those there are; more only if it left one out. -/
structure Page.NewestOf (stored : List Row) (page : Page Row) : Prop where
  inside : ∀ row ∈ page.rows, row ∈ stored ∧ first ≤ time row ∧ time row ≤ last
  newest : ∀ row ∈ page.rows, ∀ out ∈ stored, first ≤ time out → time out ≤ last → out ∉ page.rows →
    time out ≤ time row
  more_iff : page.more = true ↔ ∃ out ∈ stored, (first ≤ time out ∧ time out ≤ last) ∧ out ∉ page.rows

/-- The end of the request that follows a page: its oldest row's stamp, which must lie before. -/
def nextEnd (page : Page Row) (asked : Int) : Option Int :=
  if page.more then (page.rows.map time).min?.filter fun oldest => decide (oldest < asked) else none

variable (answer : Nat → Int → Option (Page Row))

/-- The end of the interval that the walk's request of this number asks for, while the walk goes on. -/
def askedEnd : Nat → Option Int
  | 0 => some last
  | count + 1 => (askedEnd count).bind fun asked => (answer count asked).bind fun page => nextEnd time page asked

/-- The rows that the walk's request of this number is answered with. -/
def answered (count : Nat) : List Row :=
  match askedEnd time last answer count with
  | none => []
  | some asked => ((answer count asked).map Page.rows).getD []

def collected (count : Nat) : List Row := (List.range count).flatMap (answered time last answer)

/-- The walk's request of this number is its last: nothing is left out. -/
def EndsAt (count : Nat) : Prop :=
  ∃ asked page, askedEnd time last answer count = some asked ∧ answer count asked = some page ∧ page.more = false

variable (stored : Nat → List Row)

/-- At each request the answer is the newest rows of its interval, of those stored then. -/
def AnswersNewest : Prop :=
  ∀ count asked page, answer count asked = some page → page.NewestOf time first asked (stored count)

/-- A row was answered by now, as it was then. -/
def Seen (count : Nat) (row : Row) : Prop := ∃ seen ∈ collected time last answer count, key seen = key row

/-- Each row stored in the interval at first, if no page held it before the last, is stamped within the interval
that the last request asks for. -/
def Reached (count : Nat) : Prop :=
  ∀ row ∈ stored 0, first ≤ time row ∧ time row ≤ last → Seen time key last answer count row ∨
    ∀ asked, askedEnd time last answer count = some asked →
      ∃ now ∈ stored count, key now = key row ∧ first ≤ time now ∧ time now ≤ asked

/-- Between two requests no row that is still to be answered is stamped out of what is still asked for. -/
def Steady : Prop :=
  ∀ count asked later, askedEnd time last answer count = some asked →
    askedEnd time last answer (count + 1) = some later →
      ∀ row ∈ stored count, first ≤ time row → time row ≤ later → ¬ Seen time key last answer (count + 1) row →
        ∃ now ∈ stored (count + 1), key now = key row ∧ first ≤ time now ∧ time now ≤ later

/-- Every row of the interval is there, by its key. -/
def CompleteFor (rows : List Row) : Prop :=
  ∀ row ∈ stored 0, first ≤ time row ∧ time row ≤ last → ∃ kept ∈ rows, key kept = key row

end

section
variable {Row Key : Type*} {time : Row → Int} {key : Row → Key} {first last asked later : Int}
  {answer : Nat → Int → Option (Page Row)} {stored : Nat → List Row} {count : Nat} {page : Page Row} {row : Row}

theorem nextEnd_some (next : nextEnd time page asked = some later) :
    page.more = true ∧ later < asked ∧ (∃ row ∈ page.rows, time row = later) ∧
      ∀ row ∈ page.rows, later ≤ time row := by
  unfold nextEnd at next
  split at next
  · next more =>
    obtain ⟨oldest, before⟩ := Option.filter_eq_some_iff.mp next
    obtain ⟨member, least⟩ := List.min?_eq_some_iff.mp oldest
    refine ⟨more, of_decide_eq_true before, List.mem_map.mp member, fun row inPage => ?_⟩
    exact least _ (List.mem_map_of_mem inPage)
  · cases next

theorem answered_of_asked (known : askedEnd time last answer count = some asked)
    (reply : answer count asked = some page) : answered time last answer count = page.rows := by
  unfold answered
  rw [known]
  dsimp only
  rw [reply]
  rfl

theorem collected_succ : collected time last answer (count + 1) =
    collected time last answer count ++ answered time last answer count := by
  unfold collected
  rw [List.range_succ, List.flatMap_append, List.flatMap_singleton]

theorem Seen.mono (seen : Seen time key last answer count row) : Seen time key last answer (count + 1) row := by
  obtain ⟨found, member, same⟩ := seen
  rw [Seen, collected_succ]
  exact ⟨found, List.mem_append_left _ member, same⟩

theorem askedEnd_succ : askedEnd time last answer (count + 1) = some later →
    ∃ asked page, askedEnd time last answer count = some asked ∧ answer count asked = some page ∧
      nextEnd time page asked = some later := by
  intro known
  obtain ⟨asked, before, rest⟩ := Option.bind_eq_some_iff.mp known
  obtain ⟨page, reply, next⟩ := Option.bind_eq_some_iff.mp rest
  exact ⟨asked, page, before, reply, next⟩

theorem askedEnd_onward (known : askedEnd time last answer count = some asked)
    (reply : answer count asked = some page) :
    askedEnd time last answer (count + 1) = nextEnd time page asked := by
  unfold askedEnd
  rw [known]
  change (answer count asked).bind _ = _
  rw [reply]
  rfl

/-- Nothing is asked for after the last page, so a walk ends once. -/
theorem EndsAt.unique {other : Nat} (ends : EndsAt time last answer count)
    (again : EndsAt time last answer other) : count = other := by
  have stops : ∀ {ended later : Nat}, EndsAt time last answer ended → ended < later →
      askedEnd time last answer later = none := by
    intro ended later ends after
    induction later, after using Nat.le_induction with
    | base =>
      obtain ⟨asked, page, known, reply, done⟩ := ends
      rw [askedEnd_onward known reply]
      unfold nextEnd
      rw [done]
      rfl
    | succ later _ ih =>
      unfold askedEnd
      rw [ih]
      rfl
  have ⟨_, _, known, _⟩ := ends
  have ⟨_, _, known', _⟩ := again
  rcases Nat.lt_trichotomy count other with before | same | after
  · cases known'.symm.trans (stops ends before)
  · exact same
  · cases known.symm.trans (stops again after)

/-- What the last page holds is all that is stored in its interval. -/
theorem EndsAt.mem_answered (newest : AnswersNewest time first answer stored)
    (ends : EndsAt time last answer count) (known : askedEnd time last answer count = some asked) :
    row ∈ answered time last answer count ↔ row ∈ stored count ∧ first ≤ time row ∧ time row ≤ asked := by
  obtain ⟨asked', page, known', reply, done⟩ := ends
  obtain rfl : asked' = asked := Option.some.inj (known'.symm.trans known)
  have truthful := newest count asked' page reply
  rw [answered_of_asked known reply]
  constructor
  · exact fun member => truthful.inside row member
  · rintro ⟨present, within⟩
    by_contra out
    have more := truthful.more_iff.mpr ⟨row, present, within, out⟩
    rw [done] at more
    cases more

/-- A walk that ends has every row of the interval exactly if each was within reach of its last request. -/
theorem EndsAt.complete_iff (newest : AnswersNewest time first answer stored)
    (ends : EndsAt time last answer count) :
    CompleteFor time key first last stored (collected time last answer (count + 1)) ↔
      Reached time key first last answer stored count := by
  have known : ∃ asked, askedEnd time last answer count = some asked := by
    obtain ⟨asked, -, known, -⟩ := ends
    exact ⟨asked, known⟩
  obtain ⟨asked, known⟩ := known
  rw [collected_succ]
  refine forall_congr' fun row => forall_congr' fun present => forall_congr' fun within => ?_
  constructor
  · rintro ⟨kept, member, same⟩
    rcases List.mem_append.mp member with earlier | here
    · exact .inl ⟨kept, earlier, same⟩
    · refine .inr fun asked' known' => ?_
      obtain rfl : asked = asked' := Option.some.inj (known.symm.trans known')
      obtain ⟨now, inside⟩ := (ends.mem_answered newest known).mp here
      exact ⟨kept, now, same, inside⟩
  · rintro (⟨kept, member, same⟩ | reached)
    · exact ⟨kept, List.mem_append_left _ member, same⟩
    · obtain ⟨now, present', same, inside⟩ := reached asked known
      exact ⟨now, List.mem_append_right _ ((ends.mem_answered newest known).mpr ⟨present', inside⟩), same⟩

/-- A steady history keeps what is still to be answered within what is still asked for. -/
theorem Steady.keeps (newest : AnswersNewest time first answer stored)
    (steady : Steady time key first last answer stored) :
    ∀ count asked, askedEnd time last answer count = some asked →
      ∀ row ∈ stored 0, first ≤ time row ∧ time row ≤ last → Seen time key last answer count row ∨
        ∃ now ∈ stored count, key now = key row ∧ first ≤ time now ∧ time now ≤ asked := by
  intro count
  induction count with
  | zero =>
    intro asked known row present within
    cases known
    exact .inr ⟨row, present, rfl, within⟩
  | succ count ih =>
    intro later known row present within
    obtain ⟨asked, page, before, reply, next⟩ := askedEnd_succ known
    rcases ih asked before row present within with seen | ⟨now, stored', same, from', upTo⟩
    · exact .inl seen.mono
    · by_cases seen : Seen time key last answer (count + 1) now
      · obtain ⟨found, member, equal⟩ := seen
        exact .inl ⟨found, member, equal.trans same⟩
      · have out : now ∉ page.rows := fun member => seen <| by
          rw [Seen, collected_succ, answered_of_asked before reply]
          exact ⟨now, List.mem_append_right _ member, rfl⟩
        obtain ⟨-, -, ⟨oldest, inPage, rfl⟩, -⟩ := nextEnd_some next
        have older := (newest count asked page reply).newest oldest inPage now stored' from' upTo out
        obtain ⟨then', stored'', same', inside⟩ :=
          steady count asked (time oldest) before known now stored' from' older seen
        exact .inr ⟨then', stored'', same'.trans same, inside⟩

theorem Steady.reached (newest : AnswersNewest time first answer stored)
    (steady : Steady time key first last answer stored) (count : Nat) :
    Reached time key first last answer stored count := by
  intro row present within
  cases known : askedEnd time last answer count with
  | none => exact .inr fun asked none => by cases none
  | some asked =>
    rcases steady.keeps newest count asked known row present within with seen | kept
    · exact .inl seen
    · refine .inr fun asked' same => ?_
      cases same
      exact kept

end

section
variable {Row : Type*} [DecidableEq Row] {key : Row → Int} {rows : List Row} {row start : Row}

/-- A stable sort by key, then of equal neighbours the first. -/
def mergeBy (key : Row → Int) (rows : List Row) : List Row :=
  (rows.insertionSort fun one other => key one ≤ key other).destutter (· ≠ ·)

theorem mem_destutter'_ne : row ∈ rows.destutter' (· ≠ ·) start ↔ row = start ∨ row ∈ rows := by
  induction rows generalizing start with
  | nil => simp
  | cons next rest ih =>
    by_cases differ : start ≠ next
    · rw [List.destutter'_cons_pos _ differ, List.mem_cons, ih, List.mem_cons]
    · rw [List.destutter'_cons_neg _ differ, ih, List.mem_cons, ← not_not.mp differ]
      exact ⟨fun found => found.imp_right .inr, fun found => found.elim .inl id⟩

theorem mem_mergeBy : row ∈ mergeBy key rows ↔ row ∈ rows := by
  refine Iff.trans ?_ (List.mem_insertionSort fun one other : Row => key one ≤ key other)
  unfold mergeBy
  cases rows.insertionSort fun one other => key one ≤ key other with
  | nil => rfl
  | cons first rest => rw [List.destutter_cons', mem_destutter'_ne, List.mem_cons]

theorem destutter'_ne_keys (ordered : (start :: rows).Pairwise fun one other => key one ≤ key other)
    (agree : ∀ one ∈ start :: rows, ∀ other ∈ start :: rows, key one = key other → one = other) :
    (rows.destutter' (· ≠ ·) start).Pairwise fun one other => key one < key other := by
  induction rows generalizing start with
  | nil => exact List.pairwise_singleton _ _
  | cons next rest ih =>
    obtain ⟨least, later⟩ := List.pairwise_cons.mp ordered
    by_cases differ : start ≠ next
    · rw [List.destutter'_cons_pos _ differ]
      refine List.pairwise_cons.mpr ⟨fun row member => ?_, ih later fun one inOne other inOther =>
        agree one (List.mem_cons_of_mem _ inOne) other (List.mem_cons_of_mem _ inOther)⟩
      have apart : key start < key next := (least next List.mem_cons_self).lt_of_ne fun same =>
        differ (agree start List.mem_cons_self next (List.mem_cons_of_mem _ List.mem_cons_self) same)
      rcases mem_destutter'_ne.mp member with rfl | inRest
      · exact apart
      · exact apart.trans_le ((List.pairwise_cons.mp later).1 row inRest)
    · rw [List.destutter'_cons_neg _ differ]
      obtain rfl := not_not.mp differ
      exact ih later fun one inOne other inOther =>
        agree one (List.mem_cons_of_mem _ inOne) other (List.mem_cons_of_mem _ inOther)

/-- The merge leaves a key once exactly if no two of the rows share a key and differ. -/
theorem mergeBy_nodup_iff : ((mergeBy key rows).map key).Nodup ↔
    ∀ one ∈ rows, ∀ other ∈ rows, key one = key other → one = other := by
  constructor
  · intro distinct one inOne other inOther same
    exact List.inj_on_of_nodup_map distinct (mem_mergeBy.mpr inOne) (mem_mergeBy.mpr inOther) same
  · intro agree
    have sorted := List.pairwise_insertionSort (fun one other : Row => key one ≤ key other) rows
    have members : ∀ row, row ∈ rows.insertionSort (fun one other => key one ≤ key other) → row ∈ rows :=
      fun row => (List.mem_insertionSort _).mp
    unfold mergeBy
    cases ordered : rows.insertionSort fun one other => key one ≤ key other with
    | nil => exact List.nodup_nil
    | cons first rest =>
      rw [ordered] at sorted members
      rw [List.destutter_cons', List.nodup_iff_pairwise_ne, List.pairwise_map]
      exact (destutter'_ne_keys sorted fun one inOne other inOther =>
        agree one (members one inOne) other (members other inOther)).imp ne_of_lt

end

section
variable {Row : Type*} (time : Row → Int)

/-- What a request that counts back takes: the newest of the rows that it reaches. -/
def newest (reaches : Int → Bool) (count : Nat) (rows : List Row) : List Row :=
  let reached := rows.filter fun row => reaches (time row)
  reached.drop (reached.length - count)

variable {time}

theorem mem_drop_newest {rows : List Row} (ascends : rows.Pairwise (time · < time ·)) {row : Row} (member : row ∈ rows)
    (count : Nat) :
    row ∈ rows.drop (rows.length - count) ↔ rows.countP (fun other => time row < time other) < count := by
  induction rows with
  | nil => cases member
  | cons first rest ih =>
    obtain ⟨leads, later⟩ := List.pairwise_cons.mp ascends
    rw [List.length_cons]
    rcases Nat.lt_or_ge rest.length count with all | some_
    · have fits : rest.length + 1 - count = 0 := by omega
      rw [fits, List.drop_zero]
      refine ⟨fun _ => ?_, fun _ => member⟩
      rcases List.mem_cons.mp member with rfl | member
      · have behind : rest.countP (fun other => time row < time other) ≤ rest.length := List.countP_le_length
        rw [List.countP_cons_of_neg (by simp)]
        omega
      · have behind : rest.countP (fun other => time row < time other) ≤ rest.length := List.countP_le_length
        rw [List.countP_cons_of_neg (by simpa using (leads row member).le)]
        omega
    · have cut : rest.length + 1 - count = rest.length - count + 1 := by omega
      rw [cut, List.drop_succ_cons]
      rcases List.mem_cons.mp member with rfl | member
      · have past : rest.countP (fun other => time row < time other) = rest.length := by
          rw [List.countP_eq_length]
          exact fun other held => decide_eq_true (leads other held)
        rw [List.countP_cons_of_neg (by simp), past]
        refine ⟨fun held => absurd (leads row (List.mem_of_mem_drop held)) (lt_irrefl _), fun few => by omega⟩
      · rw [List.countP_cons_of_neg (by simpa using (leads row member).le), ih later member]

/-- A row is among the newest that a request reaches if it reaches fewer later ones than it counts. -/
theorem mem_newest {rows : List Row} (ascends : rows.Pairwise (time · < time ·)) {reaches : Int → Bool} {count : Nat}
    {row : Row} : row ∈ newest time reaches count rows ↔ row ∈ rows ∧ reaches (time row) = true ∧
      rows.countP (fun other => time row < time other && reaches (time other)) < count := by
  unfold newest
  dsimp only
  have counted : (rows.filter fun row => reaches (time row)).countP (fun other => time row < time other) =
      rows.countP (fun other => time row < time other && reaches (time other)) := by
    rw [List.countP_filter]
  constructor
  · intro held
    obtain ⟨member, reached⟩ := List.mem_filter.mp (List.mem_of_mem_drop held)
    refine ⟨member, reached, ?_⟩
    rw [← counted]
    exact (mem_drop_newest (ascends.filter _) (List.mem_filter.mpr ⟨member, reached⟩) count).mp held
  · rintro ⟨member, reached, few⟩
    rw [← counted] at few
    exact (mem_drop_newest (ascends.filter _) (List.mem_filter.mpr ⟨member, reached⟩) count).mpr few

theorem eq_of_time {rows : List Row} (ascends : rows.Pairwise (time · < time ·)) {row other : Row} (member : row ∈ rows)
    (held : other ∈ rows) (same : time row = time other) : row = other :=
  List.inj_on_of_nodup_map (List.pairwise_map.mpr (ascends.imp ne_of_lt)) member held same

/-- Where rows may lie: at openings a step apart, but for a lag that a run of them may lose. -/
structure PacedGrid (step lag : Int) where
  opens : Int → Int
  paced : ∀ early late, early ≤ late → (late - early) * step ≤ opens late - opens early + lag

/-- A plain grid of which each opening may come earlier by a shift that the lag bounds, as where clocks jump. -/
def PacedGrid.shifted (anchor step lag : Int) (shift : Int → Int)
    (bounded : ∀ number, 0 ≤ shift number ∧ shift number ≤ lag) : PacedGrid step lag where
  opens number := anchor + number * step - shift number
  paced early late _ := by
    have first := bounded early
    have second := bounded late
    rw [Int.sub_mul]
    omega

variable {step lag : Int} (grid : PacedGrid step lag)

theorem PacedGrid.lt_of_opens_lt (positive : 0 < step) (short : lag < step) {early late : Int}
    (before : grid.opens early < grid.opens late) : early < late := by
  by_contra after
  have paced := grid.paced late early (not_lt.mp after)
  rcases eq_or_lt_of_le (not_lt.mp after) with rfl | apart
  · exact lt_irrefl _ before
  · have one : 1 * step ≤ (early - late) * step := Int.mul_le_mul_of_nonneg_right (by omega) positive.le
    omega

theorem PacedGrid.reached (positive : 0 < step) (short : lag < step) {rows : List Row}
    (ascends : rows.Pairwise (time · < time ·))
    (onGrid : ∀ row ∈ rows, ∃ number, grid.opens number = time row) {number end_ : Int}
    (after : ∀ row ∈ rows, grid.opens number < time row) (first : grid.opens number ≤ end_)
    (within : ∀ row ∈ rows, time row ≤ end_) :
    ∃ last, number + rows.length ≤ last ∧ grid.opens last ≤ end_ := by
  induction rows generalizing number with
  | nil => exact ⟨number, by simp, first⟩
  | cons row rest ih =>
    obtain ⟨leads, later⟩ := List.pairwise_cons.mp ascends
    obtain ⟨own, opened⟩ := onGrid row List.mem_cons_self
    have onward : number < own := grid.lt_of_opens_lt positive short (by
      rw [opened]
      exact after row List.mem_cons_self)
    have restAfter : ∀ other ∈ rest, grid.opens own < time other := fun other held => by
      rw [opened]
      exact leads other held
    have restFirst : grid.opens own ≤ end_ := by
      rw [opened]
      exact within row List.mem_cons_self
    obtain ⟨last, past, ends⟩ := ih later (fun other held => onGrid other (List.mem_cons_of_mem row held)) restAfter
      restFirst (fun other held => within other (List.mem_cons_of_mem row held))
    refine ⟨last, ?_, ends⟩
    rw [List.length_cons]
    push_cast
    omega

/-- On a grid without lag, as many rows as steps fill every step. -/
theorem PacedGrid.filled (grid : PacedGrid step 0) (positive : 0 < step) {rows : List Row}
    (ascends : rows.Pairwise (time · < time ·)) (onGrid : ∀ row ∈ rows, ∃ number, grid.opens number = time row)
    {number : Int} (after : ∀ row ∈ rows, grid.opens number < time row)
    (within : ∀ row ∈ rows, time row ≤ grid.opens number + rows.length * step) {place : Nat}
    (inside : place < rows.length) :
    ∃ row ∈ rows, time row = grid.opens number + (place + 1) * step := by
  induction rows generalizing number place with
  | nil => cases inside
  | cons row rest ih =>
    obtain ⟨leads, later⟩ := List.pairwise_cons.mp ascends
    obtain ⟨own, opened⟩ := onGrid row List.mem_cons_self
    have onward : number < own := grid.lt_of_opens_lt positive positive (by
      rw [opened]
      exact after row List.mem_cons_self)
    have length : ((row :: rest).length : Int) * step = rest.length * step + step := by
      rw [List.length_cons]
      push_cast
      rw [Int.add_mul, Int.one_mul]
    rw [length] at within
    have least : grid.opens number + step ≤ grid.opens own := by
      have paced := grid.paced number own onward.le
      have one : 1 * step ≤ (own - number) * step := Int.mul_le_mul_of_nonneg_right (by omega) positive.le
      omega
    have restOnGrid : ∀ other ∈ rest, ∃ number, grid.opens number = time other :=
      fun other held => onGrid other (List.mem_cons_of_mem row held)
    have restAfter : ∀ other ∈ rest, grid.opens own < time other := fun other held => by
      rw [opened]
      exact leads other held
    have restWithin : ∀ other ∈ rest, time other ≤ grid.opens number + (rest.length * step + step) :=
      fun other held => within other (List.mem_cons_of_mem row held)
    have first : grid.opens own ≤ grid.opens number + (rest.length * step + step) := by
      rw [opened]
      exact within row List.mem_cons_self
    obtain ⟨last, past, ends⟩ := grid.reached positive positive later restOnGrid restAfter first restWithin
    have paced := grid.paced own last (by omega)
    have steps : (rest.length : Int) * step ≤ (last - own) * step :=
      Int.mul_le_mul_of_nonneg_right (by omega) positive.le
    have same : grid.opens own = grid.opens number + step := by omega
    cases place with
    | zero =>
      refine ⟨row, List.mem_cons_self, ?_⟩
      rw [← opened, same]
      simp
    | succ place =>
      obtain ⟨found, held, at_⟩ := ih later restOnGrid restAfter (fun other held => by
        have bound := restWithin other held
        omega) (Nat.lt_of_succ_lt_succ inside)
      refine ⟨found, List.mem_cons_of_mem row held, ?_⟩
      rw [at_, same]
      push_cast
      rw [Int.add_mul (place + 1 : Int) 1, Int.one_mul]
      omega

/-- Past a row no more rows lie by an instant than steps, with the lag, lie between. -/
theorem PacedGrid.countP_le (positive : 0 < step) (short : lag < step) {rows : List Row}
    (ascends : rows.Pairwise (time · < time ·)) (onGrid : ∀ row ∈ rows, ∃ number, grid.opens number = time row)
    {row : Row} (member : row ∈ rows) {end_ : Int} (before : time row ≤ end_) {reaches : Int → Bool}
    (within : ∀ at_, reaches at_ = true → at_ ≤ end_) :
    (rows.countP (fun other => time row < time other && reaches (time other)) : Int) * step ≤
      end_ - time row + lag := by
  obtain ⟨own, opened⟩ := onGrid row member
  have later : ∀ other ∈ rows.filter fun other => time row < time other && reaches (time other),
      grid.opens own < time other ∧ time other ≤ end_ := by
    intro other held
    obtain ⟨_, later⟩ := List.mem_filter.mp held
    rw [Bool.and_eq_true, decide_eq_true_eq] at later
    rw [opened]
    exact ⟨later.1, within _ later.2⟩
  obtain ⟨last, past, ends⟩ := grid.reached positive short
    (ascends.filter fun other => time row < time other && reaches (time other))
    (fun other held => onGrid other (List.mem_of_mem_filter held)) (fun other held => (later other held).1)
    (opened.trans_le before) (fun other held => (later other held).2)
  have paced := grid.paced own last (by omega)
  rw [List.countP_eq_length_filter]
  have counted : ((rows.filter fun other => time row < time other && reaches (time other)).length : Int) * step ≤
      (last - own) * step := Int.mul_le_mul_of_nonneg_right (by omega) positive.le
  omega

end

section
variable {Key Value : Type*} [LinearOrder Key] {entries : List (Key × Value)} {key : Key} {value : Value}

/-- A map's entries in the order of their keys, with one entry put in. -/
def insertEntry (key : Key) (value : Value) : List (Key × Value) → List (Key × Value)
  | [] => [(key, value)]
  | first :: rest =>
    if key < first.1 then (key, value) :: first :: rest
    else if key = first.1 then (key, value) :: rest
    else first :: insertEntry key value rest

theorem mem_insertEntry (ordered : entries.Pairwise (·.1 < ·.1)) {entry : Key × Value} :
    entry ∈ insertEntry key value entries ↔ entry = (key, value) ∨ entry.1 ≠ key ∧ entry ∈ entries := by
  induction entries with
  | nil => simp [insertEntry]
  | cons first rest ih =>
    obtain ⟨leads, later⟩ := List.pairwise_cons.mp ordered
    unfold insertEntry
    by_cases before : key < first.1
    · rw [if_pos before, List.mem_cons]
      refine or_congr Iff.rfl ⟨fun held => ⟨?_, held⟩, And.right⟩
      rcases List.mem_cons.mp held with rfl | held
      · exact before.ne'
      · exact (before.trans (leads entry held)).ne'
    · rw [if_neg before]
      by_cases same : key = first.1
      · rw [if_pos same, List.mem_cons, List.mem_cons]
        refine or_congr Iff.rfl ⟨fun held => ⟨?_, .inr held⟩, ?_⟩
        · rw [same]
          exact (leads entry held).ne'
        · rintro ⟨other, rfl | held⟩
          · exact absurd same.symm other
          · exact held
      · rw [if_neg same, List.mem_cons, ih later, List.mem_cons]
        constructor
        · rintro (rfl | rfl | ⟨other, held⟩)
          · exact .inr ⟨fun held => same held.symm, .inl rfl⟩
          · exact .inl rfl
          · exact .inr ⟨other, .inr held⟩
        · rintro (rfl | ⟨other, rfl | held⟩)
          · exact .inr (.inl rfl)
          · exact .inl rfl
          · exact .inr (.inr ⟨other, held⟩)

theorem insertEntry_ordered (ordered : entries.Pairwise (·.1 < ·.1)) :
    (insertEntry key value entries).Pairwise (·.1 < ·.1) := by
  induction entries with
  | nil => exact List.pairwise_singleton ..
  | cons first rest ih =>
    obtain ⟨leads, later⟩ := List.pairwise_cons.mp ordered
    unfold insertEntry
    by_cases before : key < first.1
    · rw [if_pos before]
      refine List.pairwise_cons.mpr ⟨fun entry held => ?_, ordered⟩
      rcases List.mem_cons.mp held with rfl | held
      · exact before
      · exact before.trans (leads entry held)
    · rw [if_neg before]
      by_cases same : key = first.1
      · rw [if_pos same]
        refine List.pairwise_cons.mpr ⟨fun entry held => ?_, later⟩
        exact same.trans_lt (leads entry held)
      · rw [if_neg same]
        refine List.pairwise_cons.mpr ⟨fun entry held => ?_, ih later⟩
        rcases (mem_insertEntry later).mp held with rfl | ⟨_, held⟩
        · exact lt_of_le_of_ne (not_lt.mp before) (Ne.symm same)
        · exact leads entry held

end

end Foundation
