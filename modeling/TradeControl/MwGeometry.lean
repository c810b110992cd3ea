import Mathlib.Order.Bounds.Basic
import TradeControl.EntryGates

namespace TradeControl

/-- The live geometry of an M/W setup. -/
structure LiveGeometry where
  neckline : Rat
  rightShoulder : Option Rat

/-- What a state row makes of the anchors; without one, they stand as they were baked. -/
def MwAnchors.geometryOf (anchors : MwAnchors) (state : Option MwState) : LiveGeometry where
  neckline := (state.map (·.neckline)).getD anchors.bakedNeckline
  rightShoulder := (state.bind (·.rightShoulder)).or anchors.drawnRightShoulder

/-- How far the bar's body pulls back from the shoulders: its low for an M, its high for a W. -/
def Shell.pullback (bar : Shell) : Direction → Option Rat
  | .short => bar.bodyLow
  | .long => bar.bodyHigh

/-- How far the bar's body reaches for a right shoulder. -/
def Shell.reach (bar : Shell) : Direction → Option Rat
  | .short => bar.bodyHigh
  | .long => bar.bodyLow

/-- The deepest of the pullbacks: the lowest for an M, the highest for a W. -/
def Direction.Deepest : Direction → Set Rat → Rat → Prop
  | .short => IsLeast
  | .long => IsGreatest

/-- The farthest of the reaches, the other way round, if there are any. -/
def Direction.Farthest : Direction → Set Rat → Option Rat → Prop
  | _, prices, none => prices = ∅
  | .short, prices, some price => IsGreatest prices price
  | .long, prices, some price => IsLeast prices price

def MwAnchors.floor (anchors : MwAnchors) : Rat :=
  anchors.runupStart + validityFloorFrac * (anchors.leftShoulder - anchors.runupStart)

def MwAnchors.cap (anchors : MwAnchors) : Rat :=
  anchors.bakedNeckline + cancelExtFrac * (anchors.leftShoulder - anchors.bakedNeckline)

/-- A pullback past the validity floor. -/
def MwAnchors.PastFloor (anchors : MwAnchors) (pullback : Rat) : Prop :=
  match anchors.direction with
  | .short => pullback < anchors.floor
  | .long => anchors.floor < pullback

/-- A reach short of the cancel extension. -/
def MwAnchors.Admissible (anchors : MwAnchors) (reach : Rat) : Prop :=
  match anchors.direction with
  | .short => reach < anchors.cap
  | .long => anchors.cap < reach

/-- The bar's body breaks the pattern. -/
def MwAnchors.Breaks (anchors : MwAnchors) (bar : Shell) : Prop :=
  ∃ pullback ∈ bar.pullback anchors.direction, anchors.PastFloor pullback

/-- What the neckline is the deepest of: where it was drawn, and the bars' pullbacks. -/
def MwAnchors.necklines (anchors : MwAnchors) (bars : List Shell) : Set Rat :=
  {price | price = anchors.bakedNeckline ∨ ∃ bar ∈ bars, price ∈ bar.pullback anchors.direction}

/-- What the right shoulder is the farthest of: where it was drawn, and the bars' admissible reaches. -/
def MwAnchors.shoulders (anchors : MwAnchors) (bars : List Shell) : Set Rat :=
  {price | price ∈ anchors.drawnRightShoulder ∨
    ∃ bar ∈ bars, price ∈ bar.reach anchors.direction ∧ anchors.Admissible price}

/-- The geometry that the bars leave. -/
structure MwAnchors.Recovers (anchors : MwAnchors) (bars : List Shell) (live : LiveGeometry) : Prop where
  neckline : anchors.direction.Deepest (anchors.necklines bars) live.neckline
  shoulder : anchors.direction.Farthest (anchors.shoulders bars) live.rightShoulder

section
variable {anchors : MwAnchors} {bars bars' : List Shell} {bar : Shell} {live live' : LiveGeometry}

theorem Direction.Deepest.unique {direction : Direction} {prices : Set Rat} {a b : Rat}
    (first : direction.Deepest prices a) (second : direction.Deepest prices b) : a = b := by
  cases direction with
  | short => exact IsLeast.unique first second
  | long => exact IsGreatest.unique first second

theorem Direction.Farthest.mem {direction : Direction} {prices : Set Rat} {price : Rat}
    (farthest : direction.Farthest prices (some price)) : price ∈ prices := by
  cases direction with
  | short => exact And.left farthest
  | long => exact And.left farthest

theorem Direction.Farthest.unique {direction : Direction} {prices : Set Rat} {a b : Option Rat}
    (first : direction.Farthest prices a) (second : direction.Farthest prices b) : a = b := by
  have nothing : ∀ {price : Rat}, prices = ∅ → direction.Farthest prices (some price) → False := by
    intro price empty farthest
    have member := farthest.mem
    rw [empty] at member
    exact member
  cases a with
  | none =>
    cases b with
    | none => rfl
    | some price => exact (nothing first second).elim
  | some price =>
    cases b with
    | none => exact (nothing second first).elim
    | some other =>
      cases direction with
      | short => exact congrArg some (IsGreatest.unique first second)
      | long => exact congrArg some (IsLeast.unique first second)

/-- Bars leave one geometry, in whatever order and however often they come. -/
theorem MwAnchors.Recovers.unique (first : anchors.Recovers bars live) (second : anchors.Recovers bars' live')
    (same : ∀ bar, bar ∈ bars ↔ bar ∈ bars') : live = live' := by
  have necklines : anchors.necklines bars = anchors.necklines bars' := by
    unfold MwAnchors.necklines
    simp only [same]
  have shoulders : anchors.shoulders bars = anchors.shoulders bars' := by
    unfold MwAnchors.shoulders
    simp only [same]
  have neckline := first.neckline.unique (necklines ▸ second.neckline)
  have shoulder := first.shoulder.unique (shoulders ▸ second.shoulder)
  cases live
  cases live'
  exact (LiveGeometry.mk.injEq ..).mpr ⟨neckline, shoulder⟩

theorem MwAnchors.recovers_baked (anchors : MwAnchors) : anchors.Recovers [] (anchors.geometryOf none) := by
  have necklines : anchors.necklines [] = {anchors.bakedNeckline} := by
    simp [MwAnchors.necklines]
  have shoulders : anchors.shoulders [] = {price | price ∈ anchors.drawnRightShoulder} := by
    simp [MwAnchors.shoulders]
  constructor
  · rw [necklines]
    cases anchors.direction with
    | short => exact isLeast_singleton
    | long => exact isGreatest_singleton
  · rw [shoulders]
    unfold MwAnchors.geometryOf
    cases anchors.drawnRightShoulder with
    | none => simp [Direction.Farthest]
    | some drawn =>
      have only : {price | price ∈ some drawn} = ({drawn} : Set Rat) := by
        ext price
        simp [eq_comm]
      rw [only]
      cases anchors.direction with
      | short => exact isGreatest_singleton
      | long => exact isLeast_singleton

theorem exists_snoc {holds : Shell → Prop} :
    (∃ other ∈ bars ++ [bar], holds other) ↔ (∃ other ∈ bars, holds other) ∨ holds bar := by
  simp [or_and_right, exists_or]

theorem MwAnchors.necklines_snoc (anchors : MwAnchors) (bars : List Shell) {pullback : Rat}
    (known : bar.pullback anchors.direction = some pullback) :
    anchors.necklines (bars ++ [bar]) = insert pullback (anchors.necklines bars) := by
  ext price
  change (price = anchors.bakedNeckline ∨ ∃ other ∈ bars ++ [bar], _) ↔ price = pullback ∨ price = _ ∨ _
  rw [exists_snoc, known, Option.mem_some_iff]
  constructor
  · rintro (baked | earlier | rfl)
    · exact .inr (.inl baked)
    · exact .inr (.inr earlier)
    · exact .inl rfl
  · rintro (rfl | baked | earlier)
    · exact .inr (.inr rfl)
    · exact .inl baked
    · exact .inr (.inl earlier)

theorem MwAnchors.shoulders_snoc (anchors : MwAnchors) (bars : List Shell) {reach : Rat}
    (known : bar.reach anchors.direction = some reach) (admissible : anchors.Admissible reach) :
    anchors.shoulders (bars ++ [bar]) = insert reach (anchors.shoulders bars) := by
  ext price
  change (price ∈ anchors.drawnRightShoulder ∨ ∃ other ∈ bars ++ [bar], _) ↔
    price = reach ∨ price ∈ anchors.drawnRightShoulder ∨ _
  rw [exists_snoc, known, Option.mem_some_iff]
  constructor
  · rintro (drawn | earlier | ⟨rfl, _⟩)
    · exact .inr (.inl drawn)
    · exact .inr (.inr earlier)
    · exact .inl rfl
  · rintro (rfl | drawn | earlier)
    · exact .inr (.inr ⟨rfl, admissible⟩)
    · exact .inl drawn
    · exact .inr (.inl earlier)

theorem MwAnchors.shoulders_snoc_of_not (anchors : MwAnchors) (bars : List Shell)
    (barred : ∀ reach ∈ bar.reach anchors.direction, ¬ anchors.Admissible reach) :
    anchors.shoulders (bars ++ [bar]) = anchors.shoulders bars := by
  ext price
  change (price ∈ anchors.drawnRightShoulder ∨ ∃ other ∈ bars ++ [bar], _) ↔
    price ∈ anchors.drawnRightShoulder ∨ _
  rw [exists_snoc]
  constructor
  · rintro (drawn | earlier | ⟨present, admissible⟩)
    · exact .inl drawn
    · exact .inr earlier
    · exact absurd admissible (barred price present)
  · rintro (drawn | earlier)
    · exact .inl drawn
    · exact .inr (.inl earlier)

/-- A bar without a body adds nothing. -/
theorem MwAnchors.Recovers.bodiless (recovers : anchors.Recovers bars live) (bodiless : bar.openPrice = none) :
    anchors.Recovers (bars ++ [bar]) live := by
  have nothing : bar.pullback anchors.direction = none ∧ bar.reach anchors.direction = none := by
    cases anchors.direction with
    | short => simp [Shell.pullback, Shell.reach, Shell.bodyHigh, Shell.bodyLow, bodiless]
    | long => simp [Shell.pullback, Shell.reach, Shell.bodyHigh, Shell.bodyLow, bodiless]
  have necklines : anchors.necklines (bars ++ [bar]) = anchors.necklines bars := by
    ext price
    change (_ ∨ ∃ other ∈ bars ++ [bar], _) ↔ _ ∨ _
    rw [exists_snoc, nothing.1]
    simp
  have shoulders : anchors.shoulders (bars ++ [bar]) = anchors.shoulders bars :=
    anchors.shoulders_snoc_of_not bars (by simp [nothing.2])
  exact ⟨necklines ▸ recovers.neckline, shoulders ▸ recovers.shoulder⟩

/-- The deeper of two pullbacks. -/
def Direction.deeper : Direction → Rat → Rat → Rat
  | .short => min
  | .long => max

/-- The reach, if it is farther than the shoulder so far. -/
def Direction.farther (direction : Direction) (shoulder : Option Rat) (reach : Rat) : Option Rat :=
  match direction with
  | .short => if shoulder.all (· < reach) then some reach else shoulder
  | .long => if shoulder.all (reach < ·) then some reach else shoulder

theorem Direction.Deepest.insert {direction : Direction} {prices : Set Rat} {deepest : Rat}
    (known : direction.Deepest prices deepest) (price : Rat) :
    direction.Deepest (Insert.insert price prices) (direction.deeper deepest price) := by
  cases direction with
  | short =>
    have least : IsLeast (Insert.insert price prices) (min price deepest) := IsLeast.insert price known
    rwa [min_comm] at least
  | long =>
    have greatest : IsGreatest (Insert.insert price prices) (max price deepest) :=
      IsGreatest.insert price known
    rwa [max_comm] at greatest

theorem Direction.Farthest.insert {direction : Direction} {prices : Set Rat} {farthest : Option Rat}
    (known : direction.Farthest prices farthest) (price : Rat) :
    direction.Farthest (Insert.insert price prices) (direction.farther farthest price) := by
  cases farthest with
  | none =>
    have empty : prices = ∅ := known
    rw [empty, insert_empty_eq]
    cases direction with
    | short => exact isGreatest_singleton
    | long => exact isLeast_singleton
  | some best =>
    cases direction with
    | short =>
      have greatest : IsGreatest (Insert.insert price prices) (max price best) := IsGreatest.insert price known
      by_cases above : best < price
      · rw [max_eq_left above.le] at greatest
        have taken : (some best).all (· < price) = true := by simpa using above
        rw [Direction.farther, if_pos taken]
        exact greatest
      · rw [max_eq_right (not_lt.mp above)] at greatest
        have kept : ¬ (some best).all (· < price) = true := by simpa using above
        rw [Direction.farther, if_neg kept]
        exact greatest
    | long =>
      have least : IsLeast (Insert.insert price prices) (min price best) := IsLeast.insert price known
      by_cases below : price < best
      · rw [min_eq_left below.le] at least
        have taken : (some best).all (price < ·) = true := by simpa using below
        rw [Direction.farther, if_pos taken]
        exact least
      · rw [min_eq_right (not_lt.mp below)] at least
        have kept : ¬ (some best).all (price < ·) = true := by simpa using below
        rw [Direction.farther, if_neg kept]
        exact least

instance (anchors : MwAnchors) (pullback : Rat) : Decidable (anchors.PastFloor pullback) := by
  unfold MwAnchors.PastFloor
  cases anchors.direction <;> infer_instance

instance (anchors : MwAnchors) (reach : Rat) : Decidable (anchors.Admissible reach) := by
  unfold MwAnchors.Admissible
  cases anchors.direction <;> infer_instance

/-- The geometry with a bar's body folded in. -/
def MwAnchors.fold (anchors : MwAnchors) (live : LiveGeometry) (pullback reach : Rat) : LiveGeometry where
  neckline := anchors.direction.deeper live.neckline pullback
  rightShoulder :=
    if anchors.Admissible reach then anchors.direction.farther live.rightShoulder reach
    else live.rightShoulder

theorem MwAnchors.Recovers.fold (recovers : anchors.Recovers bars live) {pullback reach : Rat}
    (pulled : bar.pullback anchors.direction = some pullback)
    (reached : bar.reach anchors.direction = some reach) :
    anchors.Recovers (bars ++ [bar]) (anchors.fold live pullback reach) := by
  constructor
  · rw [anchors.necklines_snoc bars pulled]
    exact recovers.neckline.insert pullback
  · unfold MwAnchors.fold
    by_cases admissible : anchors.Admissible reach
    · rw [anchors.shoulders_snoc bars reached admissible, if_pos admissible]
      exact recovers.shoulder.insert reach
    · rw [anchors.shoulders_snoc_of_not bars, if_neg admissible]
      · exact recovers.shoulder
      · intro other present
        rw [reached] at present
        cases present
        exact admissible

/-- How the update of one bar ends: the bar has no body, it breaks the pattern, or its body is
folded in. -/
inductive MwUpdateEnds (anchors : MwAnchors) (prior : Option MwState) (bar : Shell) : MwUpdate → Prop
  | bodiless (bodiless : bar.openPrice = none) : MwUpdateEnds anchors prior bar .noChange
  | cancelled (breaks : anchors.Breaks bar) : MwUpdateEnds anchors prior bar .cancel
  | folded {state : MwState} {changed : Bool} {pullback reach : Rat} (holds : ¬ anchors.Breaks bar)
      (pulled : bar.pullback anchors.direction = some pullback)
      (reached : bar.reach anchors.direction = some reach)
      (folds : anchors.geometryOf (some state) = anchors.fold (anchors.geometryOf prior) pullback reach)
      (same : changed = false → anchors.geometryOf (some state) = anchors.geometryOf prior) :
      MwUpdateEnds anchors prior bar (.proceed state changed)

/-- A shoulder seeded with the drawn one is not seeded again. -/
theorem or_drawn (moved : Bool) (reach : Rat) (shoulder drawn : Option Rat) :
    (if moved = true then some reach else shoulder.or drawn).or drawn =
      if moved = true then some reach else shoulder.or drawn := by
  split
  · rfl
  · rw [Option.or_assoc, Option.or_self]

/-- A body is folded in where it is admissible and farther. -/
theorem fold_shoulder (anchors : MwAnchors) (shoulder : Option Rat) (reach : Rat) {admits farther : Bool}
    (admissible : anchors.Admissible reach ↔ admits = true)
    (moved : anchors.direction.farther shoulder reach = if farther = true then some reach else shoulder) :
    (if (admits && farther) = true then some reach else shoulder) =
      if anchors.Admissible reach then anchors.direction.farther shoulder reach else shoulder := by
  rw [moved]
  cases admits with
  | true => rw [if_pos (admissible.mpr rfl), Bool.true_and]
  | false =>
    have barred : ¬ anchors.Admissible reach := fun holds => Bool.false_ne_true (admissible.mp holds)
    rw [if_neg barred, Bool.false_and]
    rfl

theorem planMwUpdate_ends (anchors : MwAnchors) (prior : Option MwState) (bar : Shell) (now expiresAt : Int) :
    MwUpdateEnds anchors prior bar (planMwUpdate anchors prior bar now expiresAt) := by
  unfold planMwUpdate
  cases body : bar.openPrice with
  | none =>
    simp only [Shell.bodyHigh, Shell.bodyLow, body, Option.map_none]
    exact .bodiless body
  | some openPrice =>
    have high : bar.bodyHigh = some (max openPrice bar.close) := by simp [Shell.bodyHigh, body]
    have low : bar.bodyLow = some (min openPrice bar.close) := by simp [Shell.bodyLow, body]
    rw [high, low]
    dsimp only
    generalize max openPrice bar.close = bodyHigh at high
    generalize min openPrice bar.close = bodyLow at low
    have past : ∀ pullback, anchors.PastFloor pullback ↔ (match anchors.direction with
      | .short => pullback < anchors.floor
      | .long => anchors.floor < pullback) := fun _ => Iff.rfl
    have admits : ∀ reach, anchors.Admissible reach ↔ (match anchors.direction with
      | .short => reach < anchors.cap
      | .long => anchors.cap < reach) := fun _ => Iff.rfl
    cases direction : anchors.direction with
    | short =>
      simp only [direction] at past admits
      dsimp only
      split
      next broken =>
        exact .cancelled ⟨bodyLow, by rw [direction]; exact low, (past bodyLow).mpr broken⟩
      next held =>
        refine .folded ?_ (by rw [direction]; exact low) (by rw [direction]; exact high) ?_ fun unchanged => ?_
        · rintro ⟨pullback, pulled, broken⟩
          rw [direction] at pulled
          cases low.symm.trans pulled
          exact held ((past _).mp broken)
        · unfold MwAnchors.geometryOf MwAnchors.fold
          dsimp only [Option.map_some, Option.getD_some, Option.bind_some]
          rw [or_drawn, fold_shoulder anchors _ bodyHigh, direction]
          · rfl
          · rw [admits, decide_eq_true_eq]
            rfl
          · rw [direction]
            rfl
        · obtain ⟨above, unmoved⟩ := Bool.or_eq_false_iff.mp unchanged
          unfold MwAnchors.geometryOf
          dsimp only [Option.map_some, Option.getD_some, Option.bind_some]
          rw [or_drawn, unmoved, min_eq_left (not_lt.mp (of_decide_eq_false above))]
          rfl
    | long =>
      simp only [direction] at past admits
      dsimp only
      split
      next broken =>
        exact .cancelled ⟨bodyHigh, by rw [direction]; exact high, (past bodyHigh).mpr broken⟩
      next held =>
        refine .folded ?_ (by rw [direction]; exact high) (by rw [direction]; exact low) ?_ fun unchanged => ?_
        · rintro ⟨pullback, pulled, broken⟩
          rw [direction] at pulled
          cases high.symm.trans pulled
          exact held ((past _).mp broken)
        · unfold MwAnchors.geometryOf MwAnchors.fold
          dsimp only [Option.map_some, Option.getD_some, Option.bind_some]
          rw [or_drawn, fold_shoulder anchors _ bodyLow, direction]
          · rfl
          · rw [admits, decide_eq_true_eq]
            rfl
          · rw [direction]
            rfl
        · obtain ⟨below, unmoved⟩ := Bool.or_eq_false_iff.mp unchanged
          unfold MwAnchors.geometryOf
          dsimp only [Option.map_some, Option.getD_some, Option.bind_some]
          rw [or_drawn, unmoved, max_eq_left (not_lt.mp (of_decide_eq_false below))]
          rfl

end

end TradeControl
