import Mathlib.Data.Finset.Basic
import Mathlib.Data.List.Nodup

namespace Foundation

section
variable {Alarm Look : Type*} (due : Look → Alarm → Bool) (alarms : List Alarm)

/-- The alarms a look finds due that no earlier look had found so, in their order. -/
def ringsAt (earlier : List Look) (look : Look) : List Alarm :=
  alarms.filter fun alarm => due look alarm && !earlier.any (due · alarm)

/-- Every ring of a run of looks, each with the look it came at. -/
def rings (earlier : List Look) : List Look → List (Alarm × Look)
  | [] => []
  | look :: rest =>
    (ringsAt due alarms earlier look).map (·, look) ++ rings (earlier ++ [look]) rest

variable {due} {alarms}

theorem mem_ringsAt {earlier : List Look} {look : Look} {alarm : Alarm} :
    alarm ∈ ringsAt due alarms earlier look ↔
      alarm ∈ alarms ∧ due look alarm = true ∧ ∀ before ∈ earlier, due before alarm = false := by
  simp [ringsAt]

theorem mem_rings {earlier looks : List Look} {ring : Alarm × Look}
    (member : ring ∈ rings due alarms earlier looks) :
    ring.1 ∈ alarms ∧ ∀ before ∈ earlier, due before ring.1 = false := by
  induction looks generalizing earlier with
  | nil => cases member
  | cons look rest ih =>
    rcases List.mem_append.mp member with now | later
    · obtain ⟨alarm, rang, rfl⟩ := List.mem_map.mp now
      obtain ⟨listed, _, silent⟩ := mem_ringsAt.mp rang
      exact ⟨listed, silent⟩
    · obtain ⟨listed, silent⟩ := ih later
      exact ⟨listed, fun before early => silent before (by simp [early])⟩

theorem rings_append (earlier first second : List Look) :
    rings due alarms earlier (first ++ second) =
      rings due alarms earlier first ++ rings due alarms (earlier ++ first) second := by
  induction first generalizing earlier with
  | nil => simp [rings]
  | cons look rest ih => simp [rings, ih]

/-- Rings keep any order the alarms are listed in and their due times respect. -/
theorem rings_pairwise {R : Alarm → Alarm → Prop} (listed : alarms.Pairwise R)
    (sooner : ∀ a ∈ alarms, ∀ b ∈ alarms, ¬R a b → ∀ look, due look a = true → due look b = true)
    (earlier looks : List Look) :
    (rings due alarms earlier looks).Pairwise fun first second => R first.1 second.1 := by
  induction looks generalizing earlier with
  | nil => exact .nil
  | cons look rest ih =>
    refine List.pairwise_append.mpr ⟨?_, ih (earlier ++ [look]), ?_⟩
    · exact List.pairwise_map.mpr (listed.filter _)
    · intro first now second later
      obtain ⟨alarm, rang, rfl⟩ := List.mem_map.mp now
      obtain ⟨member, isDue, _⟩ := mem_ringsAt.mp rang
      obtain ⟨member', silent⟩ := mem_rings later
      by_contra disorder
      have dueToo := sooner alarm member second.1 member' disorder look isDue
      rw [silent look (by simp)] at dueToo
      cases dueToo

/-- With keys of their own, one alarm is all there is of its key. -/
theorem filter_key {Key : Type*} [DecidableEq Key] {key : Alarm → Key}
    (distinct : (alarms.map key).Nodup) {alarm : Alarm} (member : alarm ∈ alarms) :
    alarms.filter (fun other => key other = key alarm) = [alarm] := by
  induction alarms with
  | nil => cases member
  | cons head rest ih =>
    obtain ⟨apart, distinct⟩ := List.nodup_cons.mp distinct
    rcases List.mem_cons.mp member with rfl | later
    · have none : rest.filter (fun other => key other = key alarm) = [] :=
        List.filter_eq_nil_iff.mpr fun other listed same =>
          apart (List.mem_map.mpr ⟨other, listed, by simpa using same⟩)
      simp [none]
    · have differ : key head ≠ key alarm := fun same =>
        apart (List.mem_map.mpr ⟨alarm, later, same.symm⟩)
      rw [List.filter_cons_of_neg (by simpa using differ)]
      exact ih distinct later

theorem ringsAt_key {Key : Type*} [DecidableEq Key] {key : Alarm → Key}
    (distinct : (alarms.map key).Nodup) {alarm : Alarm} (member : alarm ∈ alarms)
    (earlier : List Look) (look : Look) :
    (ringsAt due alarms earlier look).filter (fun other => key other = key alarm) =
      if due look alarm && !earlier.any (due · alarm) then [alarm] else [] := by
  unfold ringsAt
  rw [List.filter_comm, filter_key distinct member]
  simp [List.filter_cons]

/-- An alarm rings once, at the first look that finds it due. -/
theorem rings_key {Key : Type*} [DecidableEq Key] {key : Alarm → Key}
    (distinct : (alarms.map key).Nodup) {alarm : Alarm} (member : alarm ∈ alarms)
    (earlier looks : List Look) :
    (rings due alarms earlier looks).filter (fun ring => key ring.1 = key alarm) =
      if earlier.any (due · alarm) then []
      else ((looks.find? (due · alarm)).map (alarm, ·)).toList := by
  induction looks generalizing earlier with
  | nil => simp [rings]
  | cons look rest ih =>
    have now : ((ringsAt due alarms earlier look).map (·, look)).filter
        (fun ring => key ring.1 = key alarm) =
          if due look alarm && !earlier.any (due · alarm) then [(alarm, look)] else [] := by
      have found : (ringsAt due alarms earlier look).filter
          ((fun ring : Alarm × Look => decide (key ring.1 = key alarm)) ∘ (·, look)) = _ :=
        ringsAt_key distinct member earlier look
      rw [List.filter_map, found]
      split
      · rfl
      · rfl
    rw [rings, List.filter_append, now, ih]
    by_cases past : earlier.any (due · alarm) = true
    · simp [past]
    · by_cases isDue : due look alarm = true
      · simp [past, isDue]
      · simp [past, isDue]

end

section
variable {Item Key : Type*} {opens closes : Item → Key → Prop} {step : Finset Key → Item → Finset Key}

/-- What stays open after items that open and close keys, where no key is opened once closed. -/
theorem mem_foldl_windows
    (stepped : ∀ open_ item key, key ∈ step open_ item ↔ (key ∈ open_ ∨ opens item key) ∧ ¬closes item key)
    (key : Key) {items : List Item}
    (ordered : items.Pairwise fun earlier later => closes earlier key → ¬opens later key)
    (open_ : Finset Key) :
    key ∈ items.foldl step open_ ↔
      (key ∈ open_ ∨ ∃ item ∈ items, opens item key) ∧ ¬∃ item ∈ items, closes item key := by
  induction items generalizing open_ with
  | nil => simp
  | cons item rest ih =>
    obtain ⟨first, ordered⟩ := List.pairwise_cons.mp ordered
    simp only [List.foldl_cons, ih ordered, stepped, List.mem_cons, exists_eq_or_imp]
    by_cases closing : closes item key
    · have none : ¬∃ later ∈ rest, opens later key := by
        rintro ⟨later, member, opening⟩
        exact first later member closing opening
      simp [closing, none]
    · simp [closing, or_assoc]

end

end Foundation
