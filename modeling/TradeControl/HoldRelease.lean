import TradeControl.Recover

namespace TradeControl

/-- A hold reason is in force: a pause row of the trade, a closed market, a spread hour
whose spread has not recovered. -/
def HoldReason.Holds (env : Env) (quote : Option Quote) (tradeId : String) (record : HeldTradeRecord)
    (now : Int) (store : Store) : HoldReason → Prop
  | .spreadHour =>
    env.spreads.releasedAt (env.spreads.lookupKey record.instrument) record.pipSize
      (quote.map Quote.spread) now = false
  | .newsPause | .maAlignment => store.listPausesForTrade now tradeId ≠ []
  | .marketHours => env.marketHoursBlocked record.instrument now = true

theorem not_holds_of_released {env : Env} {ans : Answers} {tradeId : String} {record : HeldTradeRecord}
    {now : Int} {store : Store} {reason : HoldReason}
    (released : reasonReleased env ans tradeId record now store reason = true) :
    ¬ reason.Holds env (ans.quote .release) tradeId record now store := by
  cases reason with
  | spreadHour => simpa [reasonReleased, HoldReason.Holds] using released
  | newsPause => simp_all [reasonReleased, HoldReason.Holds, pauseActive]
  | marketHours => simpa [reasonReleased, HoldReason.Holds] using released
  | maAlignment => simp_all [reasonReleased, HoldReason.Holds, pauseActive]

@[simp] theorem HoldReason.mem_all (reason : HoldReason) : reason ∈ HoldReason.all := by
  cases reason <;> decide

theorem release_fst (holders : Holders) (reason : HoldReason) :
    (holders.release reason).1 = holders.erase reason := by
  unfold Holders.release
  split
  · rfl
  · next absent => exact (Finset.erase_eq_of_notMem absent).symm

theorem release_emptied_iff (holders : Holders) (reason : HoldReason) :
    (holders.release reason).2 = .emptied ↔ reason ∈ holders ∧ holders.erase reason = ∅ := by
  unfold Holders.release
  by_cases member : reason ∈ holders
  · rw [if_pos member]
    by_cases last : holders.erase reason = ∅ <;> simp [member, last]
  · rw [if_neg member]
    simp [member]

/-- Releasing reasons one by one removes the lifted ones, and is flagged when it removes the
last. -/
theorem foldl_releaseReason (released : HoldReason → Bool) (reasons : List HoldReason) :
    ∀ (holders : Holders) (flag : Bool),
      (reasons.foldl (releaseReason released) (holders, flag)).1 =
          holders.filter (fun reason => ¬ (reason ∈ reasons ∧ released reason = true)) ∧
        ((reasons.foldl (releaseReason released) (holders, flag)).2 = true ↔
          flag = true ∨ (holders ≠ ∅ ∧
            holders.filter (fun reason => ¬ (reason ∈ reasons ∧ released reason = true)) = ∅)) := by
  induction reasons with
  | nil =>
    intro holders flag
    simp
  | cons reason rest ih =>
    intro holders flag
    by_cases lifted : released reason = true
    · have rests : holders.filter (fun other => ¬ (other ∈ reason :: rest ∧ released other = true)) =
          (holders.erase reason).filter (fun other => ¬ (other ∈ rest ∧ released other = true)) := by
        ext other
        by_cases same : other = reason <;> simp [same, lifted]
      have step : releaseReason released (holders, flag) reason =
          (holders.erase reason, flag || (holders.release reason).2 == .emptied) := by
        simp [releaseReason, lifted, release_fst]
      obtain ⟨kept, flagged⟩ := ih (holders.erase reason) (flag || (holders.release reason).2 == .emptied)
      rw [List.foldl_cons, step, rests, kept, flagged]
      refine ⟨rfl, ?_⟩
      by_cases last : holders.erase reason = ∅
      · have empties : holders ≠ ∅ ↔ reason ∈ holders := by
          refine ⟨fun some => ?_, fun member empty => by simp [empty] at member⟩
          obtain ⟨other, member⟩ := Finset.nonempty_iff_ne_empty.mpr some
          by_contra absent
          rw [Finset.erase_eq_of_notMem absent] at last
          exact some last
        simp [last, release_emptied_iff, empties]
      · have some : holders ≠ ∅ := by rintro rfl; exact last rfl
        simp [last, release_emptied_iff, some]
    · have rests : holders.filter (fun other => ¬ (other ∈ reason :: rest ∧ released other = true)) =
          holders.filter (fun other => ¬ (other ∈ rest ∧ released other = true)) := by
        refine Finset.filter_congr fun other _ => ?_
        by_cases same : other = reason <;> simp [same, lifted]
      have step : releaseReason released (holders, flag) reason = (holders, flag) := by
        simp [releaseReason, lifted]
      rw [List.foldl_cons, step, rests]
      exact ih holders flag

theorem releaseSatisfied_surviving (env : Env) (ans : Answers) (tradeId : String)
    (record : HeldTradeRecord) (now : Int) (store : Store) :
    (releaseSatisfied env ans tradeId record now store).1 =
      (effectiveHolders record).filter
        (fun reason => ¬ reasonReleased env ans tradeId record now store reason = true) := by
  rw [releaseSatisfied, (foldl_releaseReason _ _ _ _).1]
  exact Finset.filter_congr fun reason member => by simp [member]

/-- The set is reported emptied exactly when it held something and every reason lifted. -/
theorem releaseSatisfied_emptied_iff (env : Env) (ans : Answers) (tradeId : String)
    (record : HeldTradeRecord) (now : Int) (store : Store) :
    (releaseSatisfied env ans tradeId record now store).2 = true ↔
      effectiveHolders record ≠ ∅ ∧ ∀ reason ∈ effectiveHolders record,
        reasonReleased env ans tradeId record now store reason = true := by
  rw [releaseSatisfied, (foldl_releaseReason _ _ _ _).2, Finset.filter_eq_empty_iff]
  refine or_iff_right (by simp) |>.trans (and_congr_right fun _ => ?_)
  exact forall₂_congr fun reason member => by simp [member]

/-- A tick re-drives a pulled order only when no reason of the record's effective set is in
force any longer, or the record's backstop is due. -/
theorem redriven_released {env : Env} {ans : Answers} {redrives : Nat → Answers} {policy : ClearPolicy}
    {tradeId : String} {record : HeldTradeRecord} {now : Int} {world : World} {orderId : Nat}
    {result : ActionResult}
    (redriven : (orderId, .redriven result) ∈
      (recoverOne env ans redrives policy tradeId record now world).2.outcomes) :
    (∀ reason ∈ effectiveHolders record,
        ¬ reason.Holds env (ans.quote .release) tradeId record now world.store) ∨
      backstopDue record.openedAt now = true := by
  unfold recoverOne at redriven
  split at redriven
  · cases redriven
  · split at redriven
    · cases redriven
    · split at redriven <;> cases redriven
    · dsimp only at redriven
      split at redriven
      · next emptied =>
        exact .inl fun reason member =>
          not_holds_of_released
            (((releaseSatisfied_emptied_iff ..).mp emptied).2 reason member)
      · split at redriven
        · next due => exact .inr due
        · cases redriven

/-- `stopEntry`'s order, pulled for a news pause that is still on. -/
def heldForNews : HeldTradeRecord :=
  { HeldTradeRecord.fresh "INDEX" 1 (seconds 3600) 0 with
    applied := true
    holders := {.newsPause}
    cancelledOrders := [⟨0, "first"⟩] }

def pausedStore : Store := { pauses := fun _ => [⟨"news-1", none, seconds 86400⟩] }

def quoted : Answers := { quote := fun _ => some ⟨95, 96⟩ }

/-- Twelve hours on, the tick re-drives the order into the pause. -/
theorem redriven_whilePaused : ¬ ∀ (env : Env) (ans : Answers) (redrives : Nat → Answers)
    (policy : ClearPolicy) (tradeId : String) (record : HeldTradeRecord) (now : Int) (world : World)
    (orderId : Nat) (result : ActionResult), record.applied = true →
    (orderId, .redriven result) ∈
      (recoverOne env ans redrives policy tradeId record now world).2.outcomes →
    ∀ reason ∈ effectiveHolders record,
      ¬ reason.Holds env (ans.quote .release) tradeId record now world.store := by
  intro always
  have redriven : (0, .redriven (.rejected 423 "trade paused" "rejected: paused [news-1]")) ∈
      (recoverOne twoBars {} (fun _ => quoted) .clearRecord "trade-1" heldForNews (seconds 43200)
        { store := pausedStore }).2.outcomes := by decide +kernel
  have paused : pausedStore.listPausesForTrade (seconds 43200) "trade-1" ≠ [] := by decide
  exact always _ _ _ _ _ _ _ _ _ _ rfl redriven .newsPause (by decide) paused

theorem redriven_released_whilePaused :
    (∀ reason ∈ effectiveHolders heldForNews,
        ¬ reason.Holds twoBars none "trade-1" heldForNews (seconds 43200) pausedStore) ∨
      backstopDue heldForNews.openedAt (seconds 43200) = true :=
  have redriven : (0, .redriven (.rejected 423 "trade paused" "rejected: paused [news-1]")) ∈
      (recoverOne twoBars {} (fun _ => quoted) .clearRecord "trade-1" heldForNews (seconds 43200)
        { store := pausedStore }).2.outcomes := by decide +kernel
  redriven_released redriven

end TradeControl
