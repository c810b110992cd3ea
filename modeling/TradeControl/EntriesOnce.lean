import TradeControl.PlanOnce

namespace TradeControl

open Foundation Relation

def otherRuleIds (plan : TradePlan) : List String := (plan.rules.filter (!isEnter ·)).map (·.ruleId)

theorem mem_otherRuleIds {plan : TradePlan} {rule : ConditionRule} (member : rule ∈ plan.rules)
    (notEnter : isEnter rule = false) : rule.ruleId ∈ otherRuleIds plan :=
  List.mem_map_of_mem (List.mem_filter.mpr ⟨member, by simpa using notEnter⟩)

/-- Between two turns only rules that are no enters have fired. -/
def FiresOthers (plan : TradePlan) (before after : PlanTurn) : Prop :=
  ∃ others, after.fired = before.fired ++ others ∧ ∀ fire ∈ others, fire.ruleId ∈ otherRuleIds plan

theorem FiresOthers.none {plan : TradePlan} {before after : PlanTurn} (same : after.fired = before.fired) :
    FiresOthers plan before after :=
  ⟨[], by rw [same, List.append_nil], by simp⟩

theorem FiresOthers.trans {plan : TradePlan} {first second third : PlanTurn}
    (one : FiresOthers plan first second) (two : FiresOthers plan second third) :
    FiresOthers plan first third := by
  obtain ⟨some_, same, others⟩ := one
  obtain ⟨more, same', others'⟩ := two
  refine ⟨some_ ++ more, by rw [same', same, List.append_assoc], fun fire listed => ?_⟩
  rcases List.mem_append.mp listed with earlier | later
  · exact others fire earlier
  · exact others' fire later

theorem FiresOthers.pushed {plan : TradePlan} (turn : PlanTurn) (state : PlanState) {rule : ConditionRule}
    (member : rule ∈ plan.rules) (notEnter : isEnter rule = false) (candle : Candle)
    (signal : Option LatchedSignal) :
    FiresOthers plan turn ({ turn with state }.pushFire rule candle signal) := by
  refine ⟨_, rfl, fun fire listed => ?_⟩
  rw [List.mem_singleton.mp listed]
  exact mem_otherRuleIds member notEnter

section
variable {plan : TradePlan} {candle : Candle} {guards : Bool}

/-- A rule with another role is no enter. -/
theorem TradePlan.WellRoled.notEnter (roles : plan.WellRoled) {rule : ConditionRule} (member : rule ∈ plan.rules)
    (role : isControlRule rule = true ∨ isGuard rule = true ∨ isBreakAndClose rule = true ∨
      isRetest rule = true ∨ isPullback rule = true) : isEnter rule = false := by
  cases enters : isEnter rule with
  | false => rfl
  | true =>
    obtain ⟨control, guard, breaks, retest, pullback⟩ := roles.entersOnly rule member enters
    simp [control, guard, breaks, retest, pullback] at role

theorem WatchMoves.firesOthers (roles : plan.WellRoled) {before after : GuardScan}
    (moves : ReflTransGen (WatchMove plan candle guards) before after) :
    FiresOthers plan before.turn after.turn := by
  refine moves_within (fun before after : GuardScan => FiresOthers plan before.turn after.turn)
    (fun _ => .none rfl) (fun one two => one.trans two) (fun before after move => ?_) moves
  cases move with
  | remembered => exact .none rfl
  | control member control => exact .pushed _ _ member (roles.notEnter member (.inl control)) candle none
  | guard signal _ member guard =>
    exact .pushed _ _ member (roles.notEnter member (.inr (.inl guard))) candle signal
  | retired => exact .none rfl

/-- A spine that does not watch for an entry yet fires none. -/
theorem SpineMoves.firesOthers (roles : plan.WellRoled) {before after : PlanTurn}
    (moves : ReflTransGen (SpineMove plan candle .awaitBreakAndClose) before after) :
    FiresOthers plan before after := by
  refine moves_within (FiresOthers plan) (fun _ => .none rfl) (fun one two => one.trans two)
    (fun before after move => ?_) moves
  cases move with
  | remembered => exact .none rfl
  | prepared => exact .none rfl
  | unbroken => exact .none rfl
  | broke _ found =>
    have role := List.find?_some found
    exact .pushed _ _ (List.mem_of_find?_eq_some found)
      (roles.notEnter (List.mem_of_find?_eq_some found) (.inr (.inr (.inl role)))) candle none
  | retested found =>
    have role := List.find?_some found
    exact .pushed _ _ (List.mem_of_find?_eq_some found)
      (roles.notEnter (List.mem_of_find?_eq_some found) (.inr (.inr (.inr (.inl role))))) candle none
  | pulledBack found =>
    have role := List.find?_some found
    exact .pushed _ _ (List.mem_of_find?_eq_some found)
      (roles.notEnter (List.mem_of_find?_eq_some found) (.inr (.inr (.inr (.inr role))))) candle none
  | declined => exact .none rfl
  | entered _ watching => cases watching

end

/-- The engine itself latches the enter. -/
def SingleShot (rule : ConditionRule) : Prop := rule.fireMode = .once ∧ isMultiShot rule = false

theorem afterEntry_latches {rule : ConditionRule} (single : SingleShot rule) (state : PlanState)
    (plan : TradePlan) (signal : Option LatchedSignal) :
    rule.ruleId ∈ (state.afterEntry plan rule signal).fired := by
  unfold PlanState.afterEntry
  dsimp only
  rw [if_pos ⟨single.1, by rw [single.2]; rfl⟩]
  exact Finset.mem_insert_self _ _

/-- What the loop over the enters fires: on the candle, each of them once at most, none that was
latched, and none that the engine latches is left unlatched. -/
structure EntryFires (plan : TradePlan) (candle : Candle) (ruleIds : List String) (before after : PlanTurn)
    (entered : List FiredIntent) : Prop where
  fired : after.fired = before.fired ++ entered
  onBar : ∀ fire ∈ entered, fire.candle = candle
  named : List.Sublist (entered.map (·.ruleId)) ruleIds
  unlatched : ∀ fire ∈ entered, fire.ruleId ∉ before.state.fired
  latches : ∀ fire ∈ entered, ∀ rule ∈ plan.rules, rule.ruleId = fire.ruleId → SingleShot rule →
    fire.ruleId ∈ after.state.fired

theorem EntryFires.append {plan : TradePlan} {candle : Candle} {ruleIds ruleIds' : List String}
    {first second third : PlanTurn} {entered entered' : List FiredIntent}
    (one : EntryFires plan candle ruleIds first second entered)
    (two : EntryFires plan candle ruleIds' second third entered')
    (grown : first.state.fired ⊆ second.state.fired) (grown' : second.state.fired ⊆ third.state.fired) :
    EntryFires plan candle (ruleIds ++ ruleIds') first third (entered ++ entered') where
  fired := by rw [two.fired, one.fired, List.append_assoc]
  onBar := fun fire listed => (List.mem_append.mp listed).elim (one.onBar fire) (two.onBar fire)
  named := by
    rw [List.map_append]
    exact one.named.append two.named
  unlatched := fun fire listed => (List.mem_append.mp listed).elim (one.unlatched fire)
    fun later latched => two.unlatched fire later (grown latched)
  latches := fun fire listed rule member same single => (List.mem_append.mp listed).elim
    (fun earlier => grown' (one.latches fire earlier rule member same single))
    (fun later => two.latches fire later rule member same single)

theorem EntryFires.ofSublist {plan : TradePlan} {candle : Candle} {ruleIds ruleIds' : List String}
    {before after : PlanTurn} {entered : List FiredIntent}
    (fires : EntryFires plan candle ruleIds before after entered) (part : List.Sublist ruleIds ruleIds') :
    EntryFires plan candle ruleIds' before after entered :=
  ⟨fires.fired, fires.onBar, fires.named.trans part, fires.unlatched, fires.latches⟩

section
variable (env : EngineEnv) (plan : TradePlan) (candle : Candle) (window : List Candle) (cfg : DetectorConfig)

theorem evaluateOneEntry_fires (rule : ConditionRule) (turn : PlanTurn) :
    (evaluateOneEntry env plan candle window cfg rule turn).fired = turn.fired ∨
      ∃ signal, (evaluateOneEntry env plan candle window cfg rule turn).fired =
          turn.fired ++ [{ ruleId := rule.ruleId, intent := rule.intent, candle, signal }] ∧
        (SingleShot rule →
          rule.ruleId ∈ (evaluateOneEntry env plan candle window cfg rule turn).state.fired) := by
  unfold evaluateOneEntry
  split
  · exact .inl rfl
  dsimp only
  generalize entrySignal env plan rule turn.state candle window cfg = answer
  obtain ⟨signal, state⟩ := answer
  cases signal with
  | none => exact .inl rfl
  | some signal =>
    dsimp only
    split
    · exact .inl rfl
    split
    · exact .inl rfl
    split
    · exact .inl rfl
    · exact .inr ⟨signal, rfl, fun single => afterEntry_latches single state plan signal⟩

theorem evaluateEntries_fires (distinct : plan.DistinctIds) (ruleIds : List String)
    (named : ∀ ruleId ∈ ruleIds, ruleId ∈ enterRuleIds plan) (turn : PlanTurn) :
    ∃ entered, EntryFires plan candle ruleIds turn (evaluateEntries env plan candle window cfg ruleIds turn)
      entered := by
  induction ruleIds generalizing turn with
  | nil => exact ⟨[], by simp [evaluateEntries], by simp, by simp, by simp, by simp⟩
  | cons ruleId rest ih =>
    have later := fun turn => ih (fun ruleId member => named ruleId (by simp [member])) turn
    have skipped : ∃ entered, EntryFires plan candle (ruleId :: rest) turn
        (evaluateEntries env plan candle window cfg rest turn) entered := by
      obtain ⟨entered, fires⟩ := later turn
      exact ⟨entered, fires.ofSublist (List.sublist_cons_self ..)⟩
    unfold evaluateEntries
    split
    · exact skipped
    next fresh =>
      split
      · exact skipped
      next rule found =>
        have same : rule.ruleId = ruleId := by simpa using List.find?_some found
        subst same
        have listed := List.mem_of_find?_eq_some found
        have moves : ReflTransGen (SpineMove plan candle .awaitEntry) turn
            (evaluateOneEntry env plan candle window cfg rule turn) :=
          evaluateOneEntry_moves env plan candle window cfg rfl (named rule.ruleId (by simp)) found turn
        have grown := (SpineMoves.grows moves).fired
        have fires := evaluateOneEntry_fires env plan candle window cfg rule turn
        dsimp only
        generalize evaluateOneEntry env plan candle window cfg rule turn = once at grown fires
        have first : ∃ entered, EntryFires plan candle [rule.ruleId] turn once entered := by
          rcases fires with still | ⟨signal, fired, latches⟩
          · exact ⟨[], by rw [still, List.append_nil], by simp, by simp, by simp, by simp⟩
          · refine ⟨_, fired, by simp, by simp, ?_, ?_⟩
            · intro fire only
              rw [List.mem_singleton.mp only]
              exact fresh
            · intro fire only other member named' single
              rw [List.mem_singleton.mp only] at named' ⊢
              rw [distinct.rule_eq member listed named'] at single
              exact latches single
        obtain ⟨entered, first⟩ := first
        split
        · exact ⟨entered, first.ofSublist (List.singleton_sublist.mpr (List.mem_cons_self ..))⟩
        · obtain ⟨entered', second⟩ := later once
          have onwards : ReflTransGen (SpineMove plan candle .awaitEntry) once
              (evaluateEntries env plan candle window cfg rest once) :=
            evaluateEntries_moves env plan candle window cfg rfl rest
              (fun ruleId member => named ruleId (by simp [member])) once
          exact ⟨entered ++ entered', first.append second grown (SpineMoves.grows onwards).fired⟩

/-- What the spine fires on a candle: first rules that are no enters, then enters. -/
theorem evaluateSpine_fires (roles : plan.WellRoled) (turn : PlanTurn) :
    ∃ middle entered, FiresOthers plan turn middle ∧ turn.state.fired ⊆ middle.state.fired ∧
      EntryFires plan candle (enterRuleIds plan) middle (evaluateSpine env plan candle window cfg turn)
        entered := by
  have nothing : ∀ middle : PlanTurn, EntryFires plan candle (enterRuleIds plan) middle middle [] :=
    fun middle => ⟨by simp, by simp, by simp, by simp, by simp⟩
  unfold evaluateSpine
  split
  · have moves : ReflTransGen (SpineMove plan candle .awaitBreakAndClose) turn
        (evaluateBreakAndClose env plan candle window turn) :=
      evaluateBreakAndClose_moves env plan candle window (.inl rfl) turn
    exact ⟨_, [], SpineMoves.firesOthers roles moves, (SpineMoves.grows moves).fired, nothing _⟩
  · have broken : ReflTransGen (SpineMove plan candle .awaitBreakAndClose) turn
        (if isMultiEnter plan then evaluateBreakAndClose env plan candle window turn else turn) := by
      split
      · exact evaluateBreakAndClose_moves env plan candle window (.inl rfl) turn
      · exact .refl
    have retested := broken.trans (stampRetest_moves env plan candle window _)
    have moves := retested.trans (stampPullback_moves env plan candle window _)
    obtain ⟨entered, fires⟩ := evaluateEntries_fires env plan candle window cfg roles.distinct
      (enterRuleIds plan) (fun _ named => named) _
    exact ⟨_, entered, SpineMoves.firesOthers roles moves, (SpineMoves.grows moves).fired, fires⟩
  · exact ⟨turn, [], .none rfl, subset_rfl, nothing turn⟩

end

/-- The fires of the enters and of the alignment, which come again. -/
def repeatable (plan : TradePlan) (fired : List FiredIntent) : List FiredIntent :=
  fired.filter (·.ruleId ∉ otherRuleIds plan)

theorem repeatable_append (plan : TradePlan) (fired fired' : List FiredIntent) :
    repeatable plan (fired ++ fired') = repeatable plan fired ++ repeatable plan fired' :=
  List.filter_append ..

theorem repeatable_others {plan : TradePlan} {fired : List FiredIntent}
    (others : ∀ fire ∈ fired, fire.ruleId ∈ otherRuleIds plan) : repeatable plan fired = [] :=
  List.filter_eq_nil_iff.mpr fun fire listed => by simpa using others fire listed

theorem repeatable_all {plan : TradePlan} {fired : List FiredIntent}
    (each : ∀ fire ∈ fired, fire.ruleId ∉ otherRuleIds plan) : repeatable plan fired = fired :=
  List.filter_eq_self.mpr fun fire listed => by simpa using each fire listed

theorem TradePlan.WellRoled.alignment_repeatable {plan : TradePlan} (roles : plan.WellRoled)
    {fire : FiredIntent} (aligned : fire.IsAlignment plan) : fire.ruleId ∉ otherRuleIds plan := by
  intro named
  obtain ⟨rule, listed, same⟩ := List.mem_map.mp named
  exact roles.distinct.not_alignment (List.mem_filter.mp listed).1 aligned same.symm

theorem TradePlan.WellRoled.enter_repeatable {plan : TradePlan} (roles : plan.WellRoled) {ruleId : String}
    (named : ruleId ∈ enterRuleIds plan) : ruleId ∉ otherRuleIds plan := by
  intro other
  obtain ⟨rule, listed, rfl⟩ := List.mem_map.mp other
  obtain ⟨member, notEnter⟩ := List.mem_filter.mp listed
  rw [roles.distinct.enter_of_named named member] at notEnter
  cases notEnter

/-- What one candle fires. -/
structure BarFires (plan : TradePlan) (candle : Candle) (turn after : PlanTurn) (fresh : List FiredIntent) :
    Prop where
  fired : after.fired = turn.fired ++ fresh
  onBar : ∀ fire ∈ repeatable plan fresh, fire.candle = candle
  distinct : ((repeatable plan fresh).map (·.ruleId)).Nodup
  latched : ∀ fire ∈ repeatable plan fresh, ∀ rule ∈ plan.rules, rule.ruleId = fire.ruleId → SingleShot rule →
    fire.ruleId ∉ turn.state.fired ∧ fire.ruleId ∈ after.state.fired

section
variable (env : EngineEnv) (plan : TradePlan) (window : List Candle) (now : Int)

theorem alignment_onBar (state : PlanState) (candle : Candle) :
    ∀ fire ∈ (maAlignmentControl plan state candle window).toList, fire.candle = candle := by
  intro fire member
  unfold maAlignmentControl at member
  split at member
  · simp at member
  · simp only [Option.mem_toList, Option.map_eq_some_iff] at member
    obtain ⟨entry, _, rfl⟩ := member
    rfl

theorem evaluateBar_fires (roles : plan.WellRoled) (turn : PlanTurn) (candle : Candle) :
    ∃ fresh, BarFires plan candle turn (evaluateBar env plan window now turn candle) fresh := by
  unfold evaluateBar
  dsimp only
  have moves := evaluateWatch_moves env plan candle window (DetectorConfig.pineDefaults plan.granularity) now turn
  have grown := (WatchMoves.grows moves).fired
  obtain ⟨watched, watchedFired, watchedOthers⟩ := WatchMoves.firesOthers roles moves
  generalize evaluateWatch env plan candle window (DetectorConfig.pineDefaults plan.granularity) now turn = watch
    at grown watchedFired ⊢
  dsimp only at grown watchedFired
  split
  · refine ⟨watched, watchedFired, ?_, ?_, ?_⟩
    · rw [repeatable_others watchedOthers]
      simp
    · rw [repeatable_others watchedOthers]
      simp
    · rw [repeatable_others watchedOthers]
      simp
  have aligned := maAlignmentControl_isAlignment plan watch.state candle window
  have onBar := alignment_onBar plan window watch.state candle
  have single : (maAlignmentControl plan watch.state candle window).toList.length ≤ 1 :=
    Option.length_toList_le
  generalize (maAlignmentControl plan watch.state candle window).toList = align at aligned onBar single ⊢
  have alone : repeatable plan (watched ++ align) = align := by
    rw [repeatable_append, repeatable_others watchedOthers, List.nil_append]
    exact repeatable_all fun fire listed => roles.alignment_repeatable (aligned fire listed)
  have alignOnce : (align.map (·.ruleId)).Nodup := by
    rcases align with _ | ⟨fire, _ | ⟨_, _⟩⟩
    · simp
    · simp
    · simp at single
  have noRule : ∀ fire ∈ align, ∀ rule ∈ plan.rules, rule.ruleId ≠ fire.ruleId :=
    fun fire listed rule member same => roles.distinct.not_alignment member (aligned fire listed) same.symm
  split
  · refine ⟨watched ++ align, by rw [watchedFired, List.append_assoc], ?_, ?_, ?_⟩
    · rw [alone]
      exact onBar
    · rw [alone]
      exact alignOnce
    · rw [alone]
      exact fun fire listed rule member same => absurd same (noRule fire listed rule member)
  · have prepared : (stampMaTouch env plan candle window (stampRetrace env plan candle window watch.state)).fired =
        watch.state.fired := by
      obtain ⟨_, first⟩ := stampRetrace_prepared env plan candle window watch.state
      obtain ⟨_, second⟩ := stampMaTouch_prepared env plan candle window
        (stampRetrace env plan candle window watch.state)
      rw [second, first]
    generalize stampMaTouch env plan candle window (stampRetrace env plan candle window watch.state) = state
      at prepared
    obtain ⟨middle, entered, ⟨spun, spunFired, spunOthers⟩, grown', fires⟩ := evaluateSpine_fires env plan candle
      window (DetectorConfig.pineDefaults plan.granularity) roles
      { watch with fired := watch.fired ++ align, state }
    generalize evaluateSpine env plan candle window (DetectorConfig.pineDefaults plan.granularity)
      { watch with fired := watch.fired ++ align, state } = after at fires
    dsimp only at spunFired grown'
    rw [prepared] at grown'
    have named : ∀ fire ∈ entered, fire.ruleId ∈ enterRuleIds plan :=
      fun fire listed => fires.named.subset (List.mem_map_of_mem listed)
    have again : repeatable plan (watched ++ align ++ spun ++ entered) = align ++ entered := by
      rw [repeatable_append, repeatable_append, alone, repeatable_others spunOthers, List.append_nil,
        repeatable_all fun fire listed => roles.enter_repeatable (named fire listed)]
    have enterOnce : (enterRuleIds plan).Nodup := (List.filter_sublist.map _).nodup roles.distinct.nodup
    refine ⟨watched ++ align ++ spun ++ entered, ?_, ?_, ?_, ?_⟩
    · dsimp only
      rw [fires.fired, spunFired, watchedFired]
      simp only [List.append_assoc]
    · rw [again]
      intro fire listed
      rcases List.mem_append.mp listed with aligns | enters
      · exact onBar fire aligns
      · exact fires.onBar fire enters
    · rw [again, List.map_append]
      refine List.nodup_append.mpr ⟨alignOnce, fires.named.nodup enterOnce, ?_⟩
      intro ruleId aligns other enters
      obtain ⟨fire, listed, rfl⟩ := List.mem_map.mp aligns
      obtain ⟨enter, member, rfl⟩ := List.mem_map.mp (fires.named.subset enters)
      exact (noRule fire listed enter (List.mem_filter.mp member).1).symm
    · rw [again]
      intro fire listed rule member same shot
      rcases List.mem_append.mp listed with aligns | enters
      · exact absurd same (noRule fire aligns rule member)
      · exact ⟨fun latched => fires.unlatched fire enters (grown' (grown latched)),
          fires.latches fire enters rule member same shot⟩

end

/-- What has fired so far: a rule that is no enter at most once, the others at most once on a candle
up to the watermark, and an enter that the engine latches at most once. -/
structure FiredOnce (plan : TradePlan) (turn : PlanTurn) : Prop where
  others : FiresOnce plan turn
  pairs : ((repeatable plan turn.fired).map fun fire => (fire.ruleId, fire.candle.time)).Nodup
  past : ∀ fire ∈ repeatable plan turn.fired, ∃ mark, turn.state.watermark = some mark ∧ fire.candle.time ≤ mark
  latched : ∀ rule ∈ plan.rules, isEnter rule = true → SingleShot rule →
    firesOf rule turn.fired ≤ 1 ∧ (0 < firesOf rule turn.fired → rule.ruleId ∈ turn.state.fired)

section
variable {env : EngineEnv} {plan : TradePlan} {window : List Candle} {now : Int} {turn : PlanTurn}

theorem firesOf_repeatable (roles : plan.WellRoled) {rule : ConditionRule} (member : rule ∈ plan.rules)
    (enters : isEnter rule = true) (fired : List FiredIntent) :
    firesOf rule fired = firesOf rule (repeatable plan fired) := by
  have named : rule.ruleId ∈ enterRuleIds plan := List.mem_map_of_mem (List.mem_filter.mpr ⟨member, enters⟩)
  have again := roles.enter_repeatable named
  unfold firesOf repeatable
  rw [List.countP_filter]
  refine List.countP_congr fun fire _ => ?_
  constructor
  · intro same
    have same : fire.ruleId = rule.ruleId := by simpa using same
    simpa [same] using again
  · intro both
    simpa using (Bool.and_eq_true_iff.mp both).1

theorem FiredOnce.bar (roles : plan.WellRoled) (once : FiredOnce plan turn) {candle : Candle}
    (past : ∀ mark, turn.state.watermark = some mark → mark < candle.time) :
    FiredOnce plan (evaluateBar env plan window now turn candle) := by
  have runs := evaluateBar_runs env plan window now turn candle
  have others := (firesOnce_carriedOver roles).bar past runs once.others
  obtain ⟨fresh, fires⟩ := evaluateBar_fires env plan window now roles turn candle
  have mark := runs.watermark
  have grown := runs.grows.fired
  generalize evaluateBar env plan window now turn candle = after at runs others fires mark grown
  have before : ∀ fire ∈ repeatable plan turn.fired, fire.candle.time < candle.time := by
    intro fire listed
    obtain ⟨mark, same, le⟩ := once.past fire listed
    exact le.trans_lt (past mark same)
  refine ⟨others, ?_, ?_, ?_⟩
  · rw [fires.fired, repeatable_append, List.map_append]
    refine List.nodup_append.mpr ⟨once.pairs, ?_, ?_⟩
    · refine List.Nodup.of_map Prod.fst ?_
      rw [List.map_map]
      exact fires.distinct
    · rintro _ earlier _ later rfl
      obtain ⟨fire, listed, rfl⟩ := List.mem_map.mp earlier
      obtain ⟨fire', listed', same⟩ := List.mem_map.mp later
      have at_ : fire'.candle.time = fire.candle.time := congrArg Prod.snd same
      rw [fires.onBar fire' listed'] at at_
      exact (before fire listed).ne' at_
  · rw [fires.fired, repeatable_append]
    intro fire listed
    refine ⟨candle.time, mark, ?_⟩
    rcases List.mem_append.mp listed with earlier | later
    · exact (before fire earlier).le
    · rw [fires.onBar fire later]
  · intro rule member enters shot
    obtain ⟨le, known⟩ := once.latched rule member enters shot
    rw [firesOf_repeatable roles member enters] at le known
    have both : firesOf rule (repeatable plan after.fired) =
        firesOf rule (repeatable plan turn.fired) + firesOf rule (repeatable plan fresh) := by
      rw [fires.fired, repeatable_append]
      exact List.countP_append
    rw [firesOf_repeatable roles member enters, both]
    have freshOnce : firesOf rule (repeatable plan fresh) ≤ 1 := by
      have counted := List.nodup_iff_count_le_one.mp fires.distinct rule.ruleId
      unfold firesOf
      rwa [List.count, List.countP_map] at counted
    have freshLatched : 0 < firesOf rule (repeatable plan fresh) →
        rule.ruleId ∉ turn.state.fired ∧ rule.ruleId ∈ after.state.fired := by
      intro some_
      obtain ⟨fire, listed, same⟩ := List.countP_pos_iff.mp some_
      have same : fire.ruleId = rule.ruleId := by simpa using same
      have latches := fires.latched fire listed rule member same.symm shot
      rw [same] at latches
      exact latches
    constructor
    · by_contra over_
      have first : 0 < firesOf rule (repeatable plan turn.fired) := by omega
      have second : 0 < firesOf rule (repeatable plan fresh) := by omega
      exact (freshLatched second).1 (known first)
    · intro some_
      by_cases first : 0 < firesOf rule (repeatable plan turn.fired)
      · exact grown (known first)
      · exact (freshLatched (by omega)).2

theorem FiredOnce.stamped (once : FiredOnce plan turn) (expiresAt : Int) :
    FiredOnce plan { turn with state := { turn.state with expiresAt } } :=
  ⟨once.others, once.pairs, once.past, once.latched⟩

theorem FiredOnce.bars (roles : plan.WellRoled) {candles : List Candle} (fresh : FreshCandles turn.state candles)
    (once : FiredOnce plan turn) : FiredOnce plan (evaluateBars env plan window now candles turn) := by
  induction candles generalizing turn with
  | nil => exact once
  | cons candle rest ih =>
    obtain ⟨ascending, past⟩ := fresh
    obtain ⟨first, ascending⟩ := List.pairwise_cons.mp ascending
    have next : FiredOnce plan (evaluateBar env plan window now turn candle) :=
      once.bar roles (past candle (by simp))
    have mark := (evaluateBar_runs env plan window now turn candle).watermark
    unfold evaluateBars
    dsimp only
    split
    · exact next
    · refine ih ⟨ascending, fun later member mark' same => ?_⟩ next
      rw [mark] at same
      cases same
      exact first later member

theorem FiredOnce.controls (roles : plan.WellRoled) (once : FiredOnce plan turn) (lastCandle : Candle) :
    FiredOnce plan (evaluateControls env plan lastCandle [lastCandle] now turn) := by
  have moves : ReflTransGen (WatchMove plan lastCandle false) { turn }
      { turn := evaluateControls env plan lastCandle [lastCandle] now turn } :=
    evaluateControls_moves env plan lastCandle [lastCandle] now turn
  have others := (firesOnce_carriedOver roles).controls moves once.others
  have grown := WatchMoves.grows moves
  obtain ⟨fresh, fired, notEnters⟩ := WatchMoves.firesOthers roles moves
  generalize evaluateControls env plan lastCandle [lastCandle] now turn = after at others grown fired
  dsimp only at grown fired
  have same : repeatable plan after.fired = repeatable plan turn.fired := by
    rw [fired, repeatable_append, repeatable_others notEnters, List.append_nil]
  refine ⟨others, ?_, ?_, ?_⟩
  · rw [same]
    exact once.pairs
  · rw [same, grown.watermark]
    exact once.past
  · intro rule member enters shot
    obtain ⟨le, known⟩ := once.latched rule member enters shot
    rw [firesOf_repeatable roles member enters] at le known
    rw [firesOf_repeatable roles member enters, same]
    exact ⟨le, fun some_ => grown.fired (known some_)⟩

theorem FiredOnce.tick (roles : plan.WellRoled) {run : PlanTurn} {tick : PlanTick} (fresh : tick.Fresh run)
    (once : FiredOnce plan run) : FiredOnce plan (run.tick env plan tick) := by
  cases tick with
  | bars newCandles window now expiresAt =>
    rw [PlanTurn.tick_bars]
    exact (once.stamped expiresAt).bars roles fresh
  | controls lastCandle now expiresAt =>
    rw [PlanTurn.tick_controls]
    exact (once.stamped expiresAt).controls roles lastCandle

theorem FiredOnce.start (plan : TradePlan) (state : PlanState) : FiredOnce plan { state } :=
  ⟨fun _ _ _ => ⟨Nat.zero_le _, fun some_ => absurd some_ (lt_irrefl 0)⟩, by simp [repeatable], by simp [repeatable],
    fun _ _ _ _ => ⟨Nat.zero_le _, fun some_ => absurd some_ (lt_irrefl 0)⟩⟩

def pairsOf (ruleId : String) (bar : Int) (fired : List FiredIntent) : Nat :=
  fired.countP fun fire => fire.ruleId = ruleId ∧ fire.candle.time = bar

/-- No rule has fired twice on a bar. -/
theorem FiredOnce.pairsOf_le (once : FiredOnce plan turn) (ruleId : String) (bar : Int) :
    pairsOf ruleId bar turn.fired ≤ 1 := by
  unfold pairsOf
  by_cases other : ruleId ∈ otherRuleIds plan
  · obtain ⟨rule, listed, rfl⟩ := List.mem_map.mp other
    obtain ⟨member, notEnter⟩ := List.mem_filter.mp listed
    have counted := (once.others rule member (by simpa using notEnter)).1
    refine (List.countP_mono_left fun fire _ both => ?_).trans counted
    have both : fire.ruleId = rule.ruleId ∧ fire.candle.time = bar := by simpa using both
    simpa using both.1
  · have counted := List.nodup_iff_count_le_one.mp once.pairs (ruleId, bar)
    rw [List.count, List.countP_map] at counted
    unfold repeatable at counted
    rw [List.countP_filter] at counted
    refine (List.countP_mono_left fun fire _ both => ?_).trans counted
    have both : fire.ruleId = ruleId ∧ fire.candle.time = bar := by simpa using both
    simp [both.1, both.2, other]

end

end TradeControl
