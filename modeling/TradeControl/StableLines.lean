import Mathlib.Tactic.Linarith
import Mathlib.Tactic.NormNum
import Mathlib.Tactic.Positivity
import Mathlib.Tactic.Ring
import TradeControl.FireRule

namespace TradeControl

/-- Bars come in the order of the seconds they open at. -/
def EpochsAscend (window : List Candle) : Prop :=
  window.Pairwise fun earlier later => timestamp earlier.time < timestamp later.time

variable {window : List Candle} {barSeconds epoch epoch' : Int} {place place' : Rat}

theorem EpochsAscend.epoch_lt (ascending : EpochsAscend window) {i j : Nat} {a b : Candle}
    (atI : window[i]? = some a) (atJ : window[j]? = some b) (before : i < j) :
    timestamp a.time < timestamp b.time := by
  obtain ⟨boundI, rfl⟩ := List.getElem?_eq_some_iff.mp atI
  obtain ⟨boundJ, rfl⟩ := List.getElem?_eq_some_iff.mp atJ
  exact List.pairwise_iff_getElem.mp ascending i j boundI boundJ before

theorem EpochsAscend.index_lt (ascending : EpochsAscend window) {i j : Nat} {a b : Candle}
    (atI : window[i]? = some a) (atJ : window[j]? = some b)
    (before : timestamp a.time < timestamp b.time) : i < j := by
  rcases Nat.lt_trichotomy i j with less | rfl | more
  · exact less
  · rw [Option.some.inj (atI.symm.trans atJ)] at before
    omega
  · have reverse := ascending.epoch_lt atJ atI more
    omega

theorem EpochsAscend.index_eq (ascending : EpochsAscend window) {i j : Nat} {a b : Candle}
    (atI : window[i]? = some a) (atJ : window[j]? = some b)
    (same : timestamp a.time = timestamp b.time) : i = j := by
  rcases Nat.lt_trichotomy i j with less | same' | more
  · have order := ascending.epoch_lt atI atJ less
    omega
  · exact same'
  · have order := ascending.epoch_lt atJ atI more
    omega

/-- A search for a bar's second finds that bar. -/
theorem EpochsAscend.findIdx?_epoch (ascending : EpochsAscend window) {i : Nat} {bar : Candle}
    (atI : window[i]? = some bar) (opens : timestamp bar.time = epoch) :
    (window.findIdx? fun c => timestamp c.time == epoch) = some i := by
  obtain ⟨bound, found⟩ := List.getElem?_eq_some_iff.mp atI
  refine List.findIdx?_eq_some_iff_getElem.mpr ⟨bound, ?_, ?_⟩
  · simpa only [found, beq_iff_eq] using opens
  · intro j before same
    have order := ascending.epoch_lt (List.getElem?_eq_getElem (by omega)) atI before
    have same' : timestamp window[j].time = epoch := by simpa only [beq_iff_eq] using same
    omega

theorem EpochsAscend.barIndexAt_bar (ascending : EpochsAscend window) {i : Nat} {bar : Candle}
    (atI : window[i]? = some bar) (opens : timestamp bar.time = epoch) :
    barIndexAt epoch window barSeconds = some (i : Rat) := by
  have found := ascending.findIdx?_epoch atI opens
  cases window with
  | nil => cases atI
  | cons first rest =>
    unfold barIndexAt
    rw [found]
    simp only [List.head?_cons, List.getLast?_cons, Option.bind_eq_bind, Option.bind_some, Option.pure_def]

/-- Where an epoch lies on the axis of a window: on a bar, before the first one, behind the last
one or in a hole between two, with the position each case gives it. -/
inductive Placed (window : List Candle) (barSeconds epoch : Int) : Rat → Prop
  | onBar {i : Nat} {bar : Candle} : window[i]? = some bar → timestamp bar.time = epoch →
      Placed window barSeconds epoch (i : Rat)
  | ahead {first : Candle} : window[0]? = some first → epoch < timestamp first.time →
      Placed window barSeconds epoch (-(((timestamp first.time - epoch : Int) : Rat) / barSeconds))
  | behind {i : Nat} {last : Candle} : window.length = i + 1 → window[i]? = some last →
      timestamp last.time < epoch →
      Placed window barSeconds epoch ((i : Rat) + ((epoch - timestamp last.time : Int) : Rat) / barSeconds)
  | inHole {i : Nat} {lo hi : Candle} : window[i]? = some lo → window[i + 1]? = some hi →
      timestamp lo.time < epoch → epoch < timestamp hi.time →
      Placed window barSeconds epoch ((i : Rat) + ((epoch - timestamp lo.time : Int) : Rat) /
        ((timestamp hi.time - timestamp lo.time : Int) : Rat))

/-- Every epoch has its place on the axis of a window that is not empty. -/
theorem barIndexAt_placed (filled : window ≠ []) (spaced : 0 < barSeconds) (epoch : Int) :
    ∃ place, barIndexAt epoch window barSeconds = some place ∧ Placed window barSeconds epoch place := by
  obtain ⟨first, atFirst⟩ : ∃ first, window.head? = some first :=
    Option.isSome_iff_exists.mp (by simpa using filled)
  obtain ⟨last, atLast⟩ : ∃ last, window.getLast? = some last :=
    Option.isSome_iff_exists.mp (by simpa using filled)
  have atZero : window[0]? = some first := List.head?_eq_getElem? ▸ atFirst
  have atEnd : window[window.length - 1]? = some last := List.getLast?_eq_getElem? ▸ atLast
  have some' : 0 < window.length := List.length_pos_iff.mpr filled
  unfold barIndexAt
  rw [atFirst, atLast]
  cases found : window.findIdx? fun c => timestamp c.time == epoch with
  | some i =>
    obtain ⟨bound, opens, -⟩ := List.findIdx?_eq_some_iff_getElem.mp found
    exact ⟨i, rfl, .onBar (List.getElem?_eq_getElem bound) (by simpa only [beq_iff_eq] using opens)⟩
  | none =>
    have offBar : ∀ {j : Nat} {bar : Candle}, window[j]? = some bar → timestamp bar.time ≠ epoch := by
      intro j bar atJ same
      have missed := List.findIdx?_eq_none_iff.mp found _ (List.mem_of_getElem? atJ)
      rw [same, beq_self_eq_true] at missed
      cases missed
    by_cases ahead : epoch < timestamp first.time
    · refine ⟨_, ?_, .ahead atZero ahead⟩
      simp only [Option.bind_eq_bind, Option.bind_some, ahead, ↓reduceIte, not_le.mpr spaced, Option.pure_def]
    · by_cases behind : timestamp last.time < epoch
      · refine ⟨_, ?_, .behind (by omega : window.length = window.length - 1 + 1) atEnd behind⟩
        simp only [Option.bind_eq_bind, Option.bind_some, ahead, behind, ↓reduceIte, not_le.mpr spaced,
          Option.pure_def]
      · have offLast := offBar atEnd
        cases next : window.findIdx? fun c => decide (epoch < timestamp c.time) with
        | none =>
          have missed := List.findIdx?_eq_none_iff.mp next _ (List.mem_of_getElem? atEnd)
          simp only [decide_eq_false_iff_not] at missed
          omega
        | some hi =>
          obtain ⟨bound, later, earlier⟩ := List.findIdx?_eq_some_iff_getElem.mp next
          cases hi with
          | zero =>
            rw [Option.some.inj ((List.getElem?_eq_getElem bound).symm.trans atZero)] at later
            exact absurd (of_decide_eq_true later) ahead
          | succ i =>
            have below : window[i]? = some window[i] := List.getElem?_eq_getElem (by omega)
            have above : window[i + 1]? = some window[i + 1] := List.getElem?_eq_getElem bound
            have notYet := earlier i (by omega)
            simp only [decide_eq_true_eq] at notYet later
            have off := offBar below
            refine ⟨_, ?_, .inHole below above (by omega) later⟩
            simp only [Option.bind_eq_bind, Option.bind_some, ahead, behind, ↓reduceIte,
              Nat.add_sub_cancel, below, above, Option.pure_def]

/-- What lies past a bar has a place past that bar's. -/
theorem Placed.lt_of_bar (placed : Placed window barSeconds epoch place) (ascending : EpochsAscend window)
    (spaced : 0 < barSeconds) {j : Nat} {bar : Candle} (atJ : window[j]? = some bar)
    (past : timestamp bar.time < epoch) : (j : Rat) < place := by
  have spacing : (0 : Rat) < barSeconds := by exact_mod_cast spaced
  cases placed with
  | onBar atI opens =>
    have before := ascending.index_lt atJ atI (by omega)
    exact_mod_cast before
  | ahead atZero ahead =>
    have before := ascending.index_lt atJ atZero (by omega)
    omega
  | @behind i last count atEnd behind =>
    have bound := (List.getElem?_eq_some_iff.mp atJ).1
    have upTo : (j : Rat) ≤ i := by exact_mod_cast (by omega : j ≤ i)
    have gained : (0 : Rat) < ((epoch - timestamp last.time : Int) : Rat) / barSeconds :=
      div_pos (by exact_mod_cast (by omega : 0 < epoch - timestamp last.time)) spacing
    linarith
  | @inHole i lo hi atLo atHi below above =>
    have before := ascending.index_lt atJ atHi (by omega)
    have upTo : (j : Rat) ≤ i := by exact_mod_cast (by omega : j ≤ i)
    have gained : (0 : Rat) < ((epoch - timestamp lo.time : Int) : Rat) /
        ((timestamp hi.time - timestamp lo.time : Int) : Rat) :=
      div_pos (by exact_mod_cast (by omega : 0 < epoch - timestamp lo.time))
        (by exact_mod_cast (by omega : 0 < timestamp hi.time - timestamp lo.time))
    linarith

theorem Placed.le_of_bar (placed : Placed window barSeconds epoch place) (ascending : EpochsAscend window)
    (spaced : 0 < barSeconds) {j : Nat} {bar : Candle} (atJ : window[j]? = some bar)
    (reached : timestamp bar.time ≤ epoch) : (j : Rat) ≤ place := by
  rcases reached.lt_or_eq with past | opens
  · exact (placed.lt_of_bar ascending spaced atJ past).le
  · cases placed with
    | onBar atI opens' => exact_mod_cast (ascending.index_eq atJ atI (opens.trans opens'.symm)).le
    | ahead atZero ahead =>
      have before := ascending.index_lt atJ atZero (by omega)
      omega
    | behind count atEnd behind =>
      have bound := (List.getElem?_eq_some_iff.mp atJ).1
      have after := ascending.index_lt atEnd atJ (by omega)
      omega
    | inHole atLo atHi below above =>
      have after := ascending.index_lt atLo atJ (by omega)
      have before := ascending.index_lt atJ atHi (by omega)
      omega

/-- A later epoch has a later place, wherever the two lie. -/
theorem Placed.lt (placed : Placed window barSeconds epoch place)
    (placed' : Placed window barSeconds epoch' place') (ascending : EpochsAscend window)
    (spaced : 0 < barSeconds) (earlier : epoch < epoch') : place < place' := by
  have spacing : (0 : Rat) < barSeconds := by exact_mod_cast spaced
  have later : (epoch : Rat) < epoch' := by exact_mod_cast earlier
  cases placed with
  | onBar atI opens => exact placed'.lt_of_bar ascending spaced atI (by omega)
  | @ahead first atZero ahead =>
    by_cases reached : timestamp first.time ≤ epoch'
    · have upTo := placed'.le_of_bar ascending spaced atZero reached
      have gap : (0 : Rat) < ((timestamp first.time - epoch : Int) : Rat) / barSeconds :=
        div_pos (by exact_mod_cast (by omega : 0 < timestamp first.time - epoch)) spacing
      push_cast at upTo
      linarith
    · have noBar : ∀ {j : Nat} {bar : Candle}, window[j]? = some bar →
          timestamp first.time ≤ timestamp bar.time := by
        intro j bar atJ
        by_contra below
        have before := ascending.index_lt atJ atZero (by omega)
        omega
      cases placed' with
      | onBar atI opens => have := noBar atI; omega
      | behind count atEnd behind => have := noBar atEnd; omega
      | inHole atLo atHi below above => have := noBar atLo; omega
      | ahead atZero' ahead' =>
        rw [Option.some.inj (atZero'.symm.trans atZero)]
        have shorter : ((timestamp first.time - epoch' : Int) : Rat) <
            ((timestamp first.time - epoch : Int) : Rat) := by
          push_cast
          linarith
        exact neg_lt_neg ((div_lt_div_iff_of_pos_right spacing).mpr shorter)
  | @behind i last count atEnd behind =>
    have noBar : ∀ {j : Nat} {bar : Candle}, window[j]? = some bar →
        timestamp bar.time ≤ timestamp last.time := by
      intro j bar atJ
      by_contra above
      have after := ascending.index_lt atEnd atJ (by omega)
      have bound := (List.getElem?_eq_some_iff.mp atJ).1
      omega
    cases placed' with
    | onBar atI opens => have := noBar atI; omega
    | ahead atZero ahead =>
      have before := ascending.index_lt atEnd atZero (by omega)
      omega
    | inHole atLo atHi below above => have := noBar atHi; omega
    | @behind i' last' count' atEnd' behind' =>
      obtain rfl : i = i' := by omega
      rw [Option.some.inj (atEnd'.symm.trans atEnd)]
      have longer : ((epoch - timestamp last.time : Int) : Rat) <
          ((epoch' - timestamp last.time : Int) : Rat) := by
        push_cast
        linarith
      have gained := (div_lt_div_iff_of_pos_right spacing).mpr longer
      linarith
  | @inHole i lo hi atLo atHi below above =>
    have width : (0 : Rat) < ((timestamp hi.time - timestamp lo.time : Int) : Rat) := by
      exact_mod_cast (by omega : 0 < timestamp hi.time - timestamp lo.time)
    by_cases reached : timestamp hi.time ≤ epoch'
    · have upTo := placed'.le_of_bar ascending spaced atHi reached
      have shorter : epoch - timestamp lo.time < timestamp hi.time - timestamp lo.time := by omega
      have part : ((epoch - timestamp lo.time : Int) : Rat) /
          ((timestamp hi.time - timestamp lo.time : Int) : Rat) < 1 :=
        (div_lt_one width).mpr (by exact_mod_cast shorter)
      push_cast at upTo part ⊢
      linarith
    · have between : ∀ {j : Nat} {bar : Candle}, window[j]? = some bar →
          timestamp bar.time ≤ timestamp lo.time ∨ timestamp hi.time ≤ timestamp bar.time := by
        intro j bar atJ
        by_contra inside
        have after := ascending.index_lt atLo atJ (by omega)
        have before := ascending.index_lt atJ atHi (by omega)
        omega
      cases placed' with
      | onBar atI opens => have := between atI; omega
      | ahead atZero ahead =>
        have before := ascending.index_lt atLo atZero (by omega)
        omega
      | behind count atEnd behind =>
        have after := ascending.index_lt atEnd atHi (by omega)
        have bound := (List.getElem?_eq_some_iff.mp atHi).1
        omega
      | @inHole i' lo' hi' atLo' atHi' below' above' =>
        have lower := ascending.index_lt atLo atHi' (by omega)
        have upper := ascending.index_lt atLo' atHi (by omega)
        obtain rfl : i = i' := by omega
        rw [Option.some.inj (atLo'.symm.trans atLo), Option.some.inj (atHi'.symm.trans atHi)]
        have longer : ((epoch - timestamp lo.time : Int) : Rat) <
            ((epoch' - timestamp lo.time : Int) : Rat) := by
          push_cast
          linarith
        have gained := (div_lt_div_iff_of_pos_right width).mpr longer
        linarith

end TradeControl

namespace TradeControl

/-- The anchor's bar is in the window. -/
def LinePoint.OnBar (point : LinePoint) (window : List Candle) : Prop :=
  ∃ bar ∈ window, timestamp bar.time = point.atEpoch

variable {window older later : List Candle} {a b : LinePoint} {t : Candle} {extendForward : Bool}
  {barSeconds : Int}

theorem LinePoint.OnBar.place {point : LinePoint} (onBar : point.OnBar window) :
    ∃ (i : Nat) (bar : Candle), window[i]? = some bar ∧ timestamp bar.time = point.atEpoch := by
  obtain ⟨bar, member, opens⟩ := onBar
  obtain ⟨i, bound, rfl⟩ := List.getElem_of_mem member
  exact ⟨i, _, List.getElem?_eq_getElem bound, opens⟩

/-- On bars of the window the line is drawn by their counts. -/
theorem linePriceAt_bars (ascending : EpochsAscend window) {ia ib it : Nat} {barA barB : Candle}
    (atA : window[ia]? = some barA) (opensA : timestamp barA.time = a.atEpoch)
    (atB : window[ib]? = some barB) (opensB : timestamp barB.time = b.atEpoch)
    (atT : window[it]? = some t) :
    linePriceAt a b t extendForward barSeconds window =
      if ib < it ∧ !extendForward then none
      else some (a.price + (if ia = ib then 0 else (b.price - a.price) / ((ib : Rat) - ia)) * ((it : Rat) - ia)) := by
  unfold linePriceAt
  rw [ascending.barIndexAt_bar atA opensA, ascending.barIndexAt_bar atB opensB,
    ascending.barIndexAt_bar atT rfl]
  simp only [Option.bind_eq_bind, Option.bind_some, Nat.cast_lt, Option.pure_def]
  split
  · rfl
  · by_cases same : ia = ib
    · simp only [same, sub_self, ↓reduceIte, zero_mul, add_zero]
    · have apart : (ib : Rat) - ia ≠ 0 := sub_ne_zero.mpr fun equal => same (by exact_mod_cast equal.symm)
      simp only [same, apart, ↓reduceIte]
      rw [div_mul_eq_mul_div, mul_div_assoc]

theorem getElem?_inside {i : Nat} {bar : Candle} (atI : window[i]? = some bar) :
    (older ++ window ++ later)[older.length + i]? = some bar := by
  have bound := (List.getElem?_eq_some_iff.mp atI).1
  rw [List.append_assoc, List.getElem?_append_right (by omega), Nat.add_sub_cancel_left,
    List.getElem?_append_left bound]
  exact atI

/-- Fetching more history or more bars redraws no line whose anchors were already in the window. -/
theorem linePriceAt_fetched (ascending : EpochsAscend window)
    (ascending' : EpochsAscend (older ++ window ++ later)) (onA : a.OnBar window) (onB : b.OnBar window)
    (member : t ∈ window) :
    linePriceAt a b t extendForward barSeconds (older ++ window ++ later) =
      linePriceAt a b t extendForward barSeconds window := by
  obtain ⟨ia, barA, atA, opensA⟩ := onA.place
  obtain ⟨ib, barB, atB, opensB⟩ := onB.place
  obtain ⟨it, atT⟩ := List.mem_iff_getElem?.mp member
  rw [linePriceAt_bars ascending atA opensA atB opensB atT,
    linePriceAt_bars ascending' (getElem?_inside atA) opensA (getElem?_inside atB) opensB
      (getElem?_inside atT)]
  simp only [Nat.add_lt_add_iff_left, Nat.add_left_cancel_iff, Nat.cast_add, add_sub_add_left_eq_sub]

theorem linePriceAt_firstAnchor (ascending : EpochsAscend window) (onB : b.OnBar window) (member : t ∈ window)
    (opens : timestamp t.time = a.atEpoch) (reaches : a.atEpoch ≤ b.atEpoch ∨ extendForward = true) :
    linePriceAt a b t extendForward barSeconds window = some a.price := by
  obtain ⟨ib, barB, atB, opensB⟩ := onB.place
  obtain ⟨it, atT⟩ := List.mem_iff_getElem?.mp member
  rw [linePriceAt_bars ascending atT opens atB opensB atT, sub_self, mul_zero, add_zero]
  have drawn : ¬(ib < it ∧ (!extendForward) = true) := by
    rintro ⟨past, unextended⟩
    rcases reaches with before | extended
    · have order := ascending.epoch_lt atB atT past
      omega
    · rw [extended] at unextended
      cases unextended
  rw [if_neg drawn]

theorem linePriceAt_secondAnchor (ascending : EpochsAscend window) (onA : a.OnBar window)
    (member : t ∈ window) (opens : timestamp t.time = b.atEpoch) (apart : a.atEpoch ≠ b.atEpoch) :
    linePriceAt a b t extendForward barSeconds window = some b.price := by
  obtain ⟨ia, barA, atA, opensA⟩ := onA.place
  obtain ⟨it, atT⟩ := List.mem_iff_getElem?.mp member
  rw [linePriceAt_bars ascending atA opensA atT opens atT, if_neg (fun past => lt_irrefl _ past.1)]
  have bars : ia ≠ it := by
    rintro rfl
    rw [Option.some.inj (atA.symm.trans atT)] at opensA
    omega
  have span : (it : Rat) - ia ≠ 0 := sub_ne_zero.mpr fun equal => bars (by exact_mod_cast equal.symm)
  rw [if_neg bars, div_mul_cancel₀ _ span, add_sub_cancel]

/-- From bar to bar the line moves by one and the same step. -/
theorem linePriceAt_steps (ascending : EpochsAscend window) (onA : a.OnBar window) (onB : b.OnBar window) :
    ∃ origin step : Rat, ∀ (i : Nat) (t : Candle), window[i]? = some t →
      linePriceAt a b t extendForward barSeconds window =
        if b.atEpoch < timestamp t.time ∧ !extendForward then none else some (origin + step * i) := by
  obtain ⟨ia, barA, atA, opensA⟩ := onA.place
  obtain ⟨ib, barB, atB, opensB⟩ := onB.place
  let step : Rat := if ia = ib then 0 else (b.price - a.price) / ((ib : Rat) - ia)
  refine ⟨a.price - step * ia, step, ?_⟩
  intro it t atT
  rw [linePriceAt_bars ascending atA opensA atB opensB atT]
  have past : ib < it ↔ b.atEpoch < timestamp t.time := by
    rw [← opensB]
    exact ⟨ascending.epoch_lt atB atT, ascending.index_lt atB atT⟩
  have drawn : a.price + step * ((it : Rat) - ia) = a.price - step * ia + step * it := by ring
  simp only [past]
  rw [← drawn]

/-- Trendlines on an ascending window: more history and more bars leave the price at a bar alone; at
each anchor's bar it is that anchor's price, where the anchors lie on two bars and the line reaches
the bar; from bar to bar it moves by one step; and positions grow with the epoch everywhere. -/
theorem EpochsAscend.linePrice_stable (ascending : EpochsAscend window) (barSeconds : Int) :
    (∀ a b : LinePoint, a.OnBar window → b.OnBar window → ∀ extendForward,
      (∀ t ∈ window, ∀ older later, EpochsAscend (older ++ window ++ later) →
        linePriceAt a b t extendForward barSeconds (older ++ window ++ later) =
          linePriceAt a b t extendForward barSeconds window) ∧
      (∀ t ∈ window, timestamp t.time = a.atEpoch → a.atEpoch ≤ b.atEpoch ∨ extendForward = true →
        linePriceAt a b t extendForward barSeconds window = some a.price) ∧
      (∀ t ∈ window, timestamp t.time = b.atEpoch → a.atEpoch ≠ b.atEpoch →
        linePriceAt a b t extendForward barSeconds window = some b.price) ∧
      ∃ origin step : Rat, ∀ (i : Nat) (t : Candle), window[i]? = some t →
        linePriceAt a b t extendForward barSeconds window =
          if b.atEpoch < timestamp t.time ∧ !extendForward then none else some (origin + step * i)) ∧
    (0 < barSeconds → window ≠ [] → ∀ epoch epoch', epoch < epoch' →
      ∃ place place', barIndexAt epoch window barSeconds = some place ∧
        barIndexAt epoch' window barSeconds = some place' ∧ place < place') := by
  refine ⟨?_, ?_⟩
  · intro a b onA onB extendForward
    refine ⟨?_, ?_, ?_, linePriceAt_steps ascending onA onB⟩
    · intro t member older later ascending'
      exact linePriceAt_fetched ascending ascending' onA onB member
    · intro t member opens reaches
      exact linePriceAt_firstAnchor ascending onB member opens reaches
    · intro t member opens apart
      exact linePriceAt_secondAnchor ascending onA member opens apart
  · intro spaced filled epoch epoch' earlier
    obtain ⟨place, at', placed⟩ := barIndexAt_placed filled spaced epoch
    obtain ⟨place', at'', placed'⟩ := barIndexAt_placed filled spaced epoch'
    exact ⟨place, place', at', at'', placed.lt placed' ascending spaced earlier⟩

/-- A flat bar that opens at this second. -/
def barAtSecond (second : Int) : Candle := { time := seconds second, o := 1, h := 1, l := 1, c := 1 }

theorem hourly_linePrice_stable :
    ∃ place place', barIndexAt (-1800) [barAtSecond 0, barAtSecond 3600] 3600 = some place ∧
      barIndexAt 1800 [barAtSecond 0, barAtSecond 3600] 3600 = some place' ∧ place < place' := by
  have ascending : EpochsAscend [barAtSecond 0, barAtSecond 3600] := by
    unfold EpochsAscend
    decide
  exact (ascending.linePrice_stable 3600).2 (by decide) (by decide) (-1800) 1800 (by decide)

/-- A line whose two anchors lie on one bar keeps the first one's price at the second. -/
theorem degenerate_linePrice :
    let window := [barAtSecond 0, barAtSecond 3600]
    let a : LinePoint := { atEpoch := 3600, price := 1 }
    let b : LinePoint := { atEpoch := 3600, price := 2 }
    EpochsAscend window ∧ a.OnBar window ∧ b.OnBar window ∧
      linePriceAt a b (barAtSecond 3600) true 3600 window ≠ some b.price := by
  refine ⟨?_, ⟨barAtSecond 3600, by decide, by decide⟩, ⟨barAtSecond 3600, by decide, by decide⟩, ?_⟩
  · unfold EpochsAscend
    decide
  · decide +kernel

end TradeControl
