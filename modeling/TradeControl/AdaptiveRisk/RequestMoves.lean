import TradeControl.AdaptiveRisk.SessionRuns

namespace TradeControl.AdaptiveRisk

open Foundation

section
variable {zones : Zones} {a : AccountSnapshot} {rule : LossRule} {now : Int} {session : RiskSession}

/-- What a token has to match in the state. -/
structure TokenMatches (s : RiskState) (authorization : Authorization) : Prop where
  account : authorization.accountId = s.accountId
  policy : authorization.policy = s.policy
  reserved : ∃ reservation ∈ s.reservations.lookup authorization.request.requestId,
    reservation.setupId = authorization.request.setupId ∧
      reservation.risk = authorization.decision.allowedRiskAmount ∧
      reservation.volume = authorization.decision.maxVolume

theorem validateToken_matches {s : RiskState} {authorization : Authorization}
    (valid : s.validateToken authorization = .ok ()) : TokenMatches s authorization := by
  unfold RiskState.validateToken at valid
  simp only [bind_ok, ensure_ok, exists_const] at valid
  obtain ⟨⟨account, policy⟩, found⟩ := valid
  split at found
  · cases found
  next reservation known => exact ⟨account, policy, reservation, known, ensure_ok.mp found⟩

/-- An approved trade passed every gate. -/
structure Admitted (zones : Zones) (p : RiskPolicy) (a : AccountSnapshot) (trade : ProposedTrade)
    (s : RiskState) (rule : LossRule) (now : Int) (decision : RiskDecision) : Prop where
  sound : p.Sound
  policy : p = s.policy
  reconciled : s.needsReconciliation = false
  valid : ValidSnapshot zones p s a now
  day : s.day = a.dayReference
  sequence : s.lastSequence = some a.sequence
  observed : s.lastReconciledAt = some a.observedAt
  accountOpen : s.accountLocked = false
  dailyOpen : s.dailyLocked = false
  unattempted : trade.requestId ∉ s.attemptedRequests
  calculated : calculate p a trade s rule = .ok decision
  approved : decision.approved = true

theorem evaluateTrade_admitted {p : RiskPolicy} {trade : ProposedTrade} {s : RiskState}
    (approved : (evaluateTrade zones p a trade s rule now).approved = true) :
    Admitted zones p a trade s rule now (evaluateTrade zones p a trade s rule now) := by
  generalize decided : evaluateTrade zones p a trade s rule now = decision at approved ⊢
  have stopped : ∀ reason, decision ≠ .blocked reason := by
    rintro reason rfl
    cases approved
  unfold evaluateTrade at decided
  split at decided
  · exact absurd decided.symm (stopped _)
  next policy =>
  split at decided
  · exact absurd decided.symm (stopped _)
  split at decided
  · exact absurd decided.symm (stopped _)
  split at decided
  · exact absurd decided.symm (stopped _)
  next view =>
  split at decided
  · exact absurd decided.symm (stopped _)
  next account =>
  split at decided
  · exact absurd decided.symm (stopped _)
  next daily =>
  split at decided
  · exact absurd decided.symm (stopped _)
  next unattempted =>
  split at decided
  · exact absurd decided.symm (stopped _)
  split at decided
  next calculated =>
    cases decided
    simp only [not_or, not_not] at policy view
    obtain ⟨validated, same⟩ := policy
    obtain ⟨reconciled, valid, day, sequence, observed⟩ := view
    exact ⟨RiskPolicy.validate_sound validated, same, by simpa using reconciled,
      validateSnapshot_valid valid, day, sequence, observed, by simpa using account,
      by simpa using daily, unattempted, calculated, approved⟩
  · exact absurd decided.symm (stopped _)

/-- An answer that follows a save: the operation's own, or else the save's failure. -/
def Save.answer {Answer : Type} (save : Save) (answer : Except String Answer) : Except String Answer :=
  match save with
  | .done => answer
  | .failed _ error => .error error

theorem persist_snd (session : RiskSession) (save : Save) : (session.persist save).2 = save.answer (.ok ()) := by
  cases save with
  | done => rfl
  | failed replaced error => rfl

theorem settle_eq (session : RiskSession) (result : Except String Unit) (save : Save) :
    session.settle result save = ((session.persist save).1, save.answer result) := by
  cases save with
  | done => rfl
  | failed replaced error => rfl

theorem onExecution_eq (session : RiskSession) (event : Execution) (save : Save) :
    session.onExecution event save =
      (({ session with state := (session.state.onExecution event).1 }.persist save).1,
        save.answer (session.state.onExecution event).2) :=
  settle_eq _ _ save

theorem onSetupClosed_eq (session : RiskSession) (setup : String) (closedAt : Int) (terminal : Bool)
    (save : Save) :
    session.onSetupClosed setup closedAt terminal save =
      (({ session with state := (session.state.onSetupClosed setup closedAt terminal).1 }.persist save).1,
        save.answer (session.state.onSetupClosed setup closedAt terminal).2) :=
  settle_eq _ _ save

/-- How an authorization ends: the trade is blocked, or its risk is reserved. -/
inductive AuthorizeEnds (zones : Zones) (a : AccountSnapshot) (rule : LossRule) (now : Int)
    (session : RiskSession) (trade : ProposedTrade) (save : Save) :
    RiskSession × Except String Authorization → Prop
  | blocked {metrics : RiskMetrics} {error : String} :
      AuthorizeEnds zones a rule now session trade save
        (({ session with state := { session.state with metrics } }.persist save).1, .error error)
  | reserved {metrics : RiskMetrics} {decision : RiskDecision}
      (admitted : Admitted zones session.state.policy a trade session.state rule now decision) :
      AuthorizeEnds zones a rule now session trade save
        (({ session with
              state := { session.state with metrics }.reserve now trade decision }.persist save).1,
          save.answer (.ok
            { accountId := session.state.accountId
              policy := session.state.policy
              request := trade
              decision }))

theorem authorize_ends (zones : Zones) (a : AccountSnapshot) (rule : LossRule) (now : Int)
    (session : RiskSession) (trade : ProposedTrade) (save : Save) :
    AuthorizeEnds zones a rule now session trade save (session.authorize zones a rule now trade save) := by
  unfold RiskSession.authorize
  dsimp only
  split
  · obtain ⟨metrics, tracked⟩ := trackReduced_eq a rule now
      { session.state with metrics := session.state.metrics.blocked }
    rw [tracked]
    cases save with
    | done => exact .blocked
    | failed replaced error => exact .blocked
  next approved =>
    have admitted := evaluateTrade_admitted (by simpa using approved)
    obtain ⟨metrics, tracked⟩ := trackReduced_eq a rule now session.state
    rw [tracked]
    cases save with
    | done => exact .reserved admitted
    | failed replaced error => exact .reserved admitted

/-- A submission whose token matches and whose terms are those authorized, a fresh quote aside. -/
def RiskState.Admits (s : RiskState) (authorization : Authorization) (refreshed : ProposedTrade) : Prop :=
  s.validateToken authorization = .ok () ∧ authorization.request.requoted refreshed = refreshed

instance (s : RiskState) (authorization : Authorization) (refreshed : ProposedTrade) :
    Decidable (s.Admits authorization refreshed) :=
  inferInstanceAs (Decidable (_ ∧ _))

theorem RiskState.Admits.token {s : RiskState} {authorization : Authorization} {refreshed : ProposedTrade}
    (admits : s.Admits authorization refreshed) : TokenMatches s authorization :=
  validateToken_matches admits.1

/-- How a submission ends: its token is refused, the account does not reconcile, the order is
declined, or its reservation is marked. -/
inductive SubmitEnds (zones : Zones) (a : AccountSnapshot) (rule : LossRule) (now : Int)
    (session : RiskSession) (authorization : Authorization) (refreshed : ProposedTrade)
    (first second third : Save) : RiskSession × Except String Unit → Prop
  | refused {error : String} (barred : ¬ session.state.Admits authorization refreshed) :
      SubmitEnds zones a rule now session authorization refreshed first second third
        (session, .error error)
  | unreconciled {after : RiskSession} {error : String}
      (admits : session.state.Admits authorization refreshed)
      (reconciled : session.reconcile zones a rule now first second = (after, .error error)) :
      SubmitEnds zones a rule now session authorization refreshed first second third
        (after, .error error)
  | declined {after : RiskSession} {error : String}
      (admits : session.state.Admits authorization refreshed)
      (reconciled : session.reconcile zones a rule now first second = (after, .ok ())) :
      SubmitEnds zones a rule now session authorization refreshed first second third
        (after, .error error)
  | submitted {after : RiskSession} {state : RiskState}
      (admits : session.state.Admits authorization refreshed)
      (reconciled : session.reconcile zones a rule now first second = (after, .ok ()))
      (rechecked : after.state.recheck zones a rule now authorization refreshed = .ok ())
      (marked : after.state.submit authorization.request.requestId = .ok state) :
      SubmitEnds zones a rule now session authorization refreshed first second third
        ({ after with state }.persist third)

theorem beforeSubmit_ends (zones : Zones) (a : AccountSnapshot) (rule : LossRule) (now : Int)
    (session : RiskSession) (authorization : Authorization) (refreshed : ProposedTrade)
    (first second third : Save) :
    SubmitEnds zones a rule now session authorization refreshed first second third
      (session.beforeSubmit zones a rule now authorization refreshed first second third) := by
  have admitted : (do
      session.state.validateToken authorization
      ensure (authorization.request.requoted refreshed = refreshed) "immutable order terms changed") =
        Except.ok () ↔ session.state.Admits authorization refreshed := by
    simp only [bind_ok, ensure_ok]
    constructor
    · rintro ⟨_, valid, terms⟩
      exact ⟨valid, terms⟩
    · rintro ⟨valid, terms⟩
      exact ⟨(), valid, terms⟩
  unfold RiskSession.beforeSubmit
  dsimp only
  split
  next failed =>
    refine .refused fun admits => ?_
    rw [admitted.mpr admits] at failed
    cases failed
  next passed =>
    have admits := admitted.mp passed
    split
    next reconciled => exact .unreconciled admits reconciled
    next after _ reconciled =>
      split
      · exact .declined admits reconciled
      next rechecked =>
        split
        · exact .declined admits reconciled
        next marked => exact .submitted admits reconciled rechecked marked

/-- How a rejection ends: its token is refused, or its reservation is released. -/
inductive RejectEnds (session : RiskSession) (authorization : Authorization) (save : Save) :
    RiskSession × Except String Unit → Prop
  | refused {error : String} (barred : session.state.validateToken authorization ≠ .ok ()) :
      RejectEnds session authorization save (session, .error error)
  | released (valid : session.state.validateToken authorization = .ok ()) :
      RejectEnds session authorization save
        ({ session with state := session.state.release authorization.request.requestId }.persist save)

theorem rejectedWithoutFill_ends (session : RiskSession) (authorization : Authorization) (save : Save) :
    RejectEnds session authorization save (session.rejectedWithoutFill authorization save) := by
  unfold RiskSession.rejectedWithoutFill
  split
  next failed => exact .refused fun valid => by rw [failed] at valid; cases valid
  next valid => exact .released valid

end

/-- The same setup at the same risk and volume. -/
def Reservation.SameTerms (r r' : Reservation) : Prop :=
  r'.setupId = r.setupId ∧ r'.risk = r.risk ∧ r'.volume = r.volume

theorem Reservation.SameTerms.trans {r r' r'' : Reservation} (first : r.SameTerms r')
    (second : r'.SameTerms r'') : r.SameTerms r'' :=
  ⟨second.1.trans first.1, second.2.1.trans first.2.1, second.2.2.trans first.2.2⟩

/-- A change of the state that reserves nothing: what stays reserved stays on its terms and keeps
its mark, and only the `lost` requests do not stay. -/
structure RequestsMove (lost : String → Prop) (s s' : RiskState) : Prop where
  account : s'.accountId = s.accountId
  attempted : s'.attemptedRequests = s.attemptedRequests
  drawn : ∀ id, ∀ r' ∈ s'.reservations.lookup id, ∃ r ∈ s.reservations.lookup id,
    r.SameTerms r' ∧ (r.submitted = true → r'.submitted = true)
  kept : ∀ id, ∀ r ∈ s.reservations.lookup id, lost id ∨ ∃ r' ∈ s'.reservations.lookup id, r.SameTerms r'

section
variable {lost lost' : String → Prop} {s s' s'' : RiskState}

theorem RequestsMove.same (account : s'.accountId = s.accountId)
    (attempted : s'.attemptedRequests = s.attemptedRequests)
    (reservations : s'.reservations = s.reservations) : RequestsMove lost s s' :=
  ⟨account, attempted, fun _ r member => ⟨r, reservations ▸ member, ⟨rfl, rfl, rfl⟩, id⟩,
    fun _ r member => .inr ⟨r, reservations ▸ member, rfl, rfl, rfl⟩⟩

theorem RequestsMove.trans (first : RequestsMove lost s s') (second : RequestsMove lost s' s'') :
    RequestsMove lost s s'' := by
  refine ⟨second.account.trans first.account, second.attempted.trans first.attempted,
    fun id r'' member => ?_, fun id r member => ?_⟩
  · obtain ⟨r', inMiddle, same, marked⟩ := second.drawn id r'' member
    obtain ⟨r, inFirst, same', marked'⟩ := first.drawn id r' inMiddle
    exact ⟨r, inFirst, same'.trans same, fun submitted => marked (marked' submitted)⟩
  · rcases first.kept id r member with gone | ⟨r', inMiddle, same⟩
    · exact .inl gone
    · rcases second.kept id r' inMiddle with gone | ⟨r'', inLast, same'⟩
      · exact .inl gone
      · exact .inr ⟨r'', inLast, same.trans same'⟩

theorem RequestsMove.weaken (move : RequestsMove lost s s') (weaker : ∀ id, lost id → lost' id) :
    RequestsMove lost' s s' :=
  ⟨move.account, move.attempted, move.drawn, fun id r member => (move.kept id r member).imp_left (weaker id)⟩

theorem persist_requests (lost : String → Prop) (session : RiskSession) (save : Save) :
    RequestsMove lost session.state (session.persist save).1.state := by
  cases save with
  | done => exact .same rfl rfl rfl
  | failed replaced error => exact .same rfl rfl rfl

theorem onExecution_requests (s : RiskState) (event : Execution) :
    RequestsMove lost s (s.onExecution event).1 := by
  obtain ⟨executions, needs, invalidated, same, _⟩ := s.onExecution_frame event
  rw [same]
  exact .same rfl rfl rfl

theorem onSetupClosed_requests (s : RiskState) (setupId : String) (closedAt : Int) (terminal : Bool) :
    RequestsMove lost s (s.onSetupClosed setupId closedAt terminal).1 := by
  obtain ⟨outcomes, losses, needs, same, _⟩ := s.onSetupClosed_frame setupId closedAt terminal
  rw [same]
  exact .same rfl rfl rfl

/-- A snapshot lists a request as resolved and shows no exposure for it. -/
def ProvenAbsent (a : AccountSnapshot) (id : String) : Prop :=
  id ∈ a.resolvedRequests ∧ ∀ exposure ∈ a.exposures, exposure.requestId ≠ some id

/-- A snapshot whose risk can be told shows no exposure of a resolved request. -/
theorem reservedRisk_unexposed {p : RiskPolicy} {a : AccountSnapshot} {reserved : Rat}
    (tallied : reservedRisk p s a = .ok reserved) {id : String} (resolved : id ∈ a.resolvedRequests) :
    ProvenAbsent a id := by
  refine ⟨resolved, fun exposure member linked => ?_⟩
  unfold reservedRisk at tallied
  obtain ⟨tally, counted, _⟩ := bind_ok.mp tallied
  obtain ⟨before, after, turned⟩ := foldlM_visited counted exposure member
  unfold ExposureTally.count at turned
  simp only [bind_ok, ensure_ok, exists_const] at turned
  obtain ⟨_, _, _, turned⟩ := turned
  rw [linked] at turned
  simp only [bind_ok, ensure_ok, exists_const] at turned
  exact turned.1 resolved

theorem rolled_requests {a : AccountSnapshot} {zones : Zones} {now : Int}
    (verified : Verified zones a now s) : RequestsMove (ProvenAbsent a) s (s.rolled a) := by
  obtain ⟨reserved, tallied⟩ := verified.tallied
  refine ⟨rfl, rfl, fun id r member => ?_, fun id r member => ?_⟩
  · exact ⟨r, (KeyedMap.mem_lookup_retain.mp member).1, ⟨rfl, rfl, rfl⟩, fun submitted => submitted⟩
  · by_cases resolved : id ∈ a.resolvedRequests
    · exact .inl (reservedRisk_unexposed tallied resolved)
    · exact .inr ⟨r, KeyedMap.mem_lookup_retain.mpr ⟨member, by simpa using resolved⟩, rfl, rfl, rfl⟩

theorem release_requests (s : RiskState) (id : String) : RequestsMove (· = id) s (s.release id) := by
  refine ⟨rfl, rfl, fun other r member => ?_, fun other r member => ?_⟩
  · by_cases same : other = id
    · subst same
      have gone : (s.reservations.erase other).lookup other = some r := member
      rw [AList.lookup_erase] at gone
      cases gone
    · have kept : (s.reservations.erase id).lookup other = some r := member
      rw [AList.lookup_erase_ne same] at kept
      exact ⟨r, kept, ⟨rfl, rfl, rfl⟩, fun submitted => submitted⟩
  · by_cases same : other = id
    · exact .inl same
    · refine .inr ⟨r, ?_, rfl, rfl, rfl⟩
      exact (AList.lookup_erase_ne same).trans member

/-- A request that is marked was reserved and unmarked. -/
theorem submit_spec (lost : String → Prop) {id : String} (marked : s.submit id = .ok s') :
    RequestsMove lost s s' ∧ (∃ r ∈ s.reservations.lookup id, r.submitted = false) ∧
      (∀ r' ∈ s'.reservations.lookup id, r'.submitted = true) ∧
      s' = { s with reservations := s'.reservations, needsReconciliation := true } := by
  unfold RiskState.submit at marked
  split at marked
  · cases marked
  next r found =>
    simp only [bind_ok, ensure_ok, pure_ok, exists_const] at marked
    obtain ⟨unmarked, rfl⟩ := marked
    dsimp only
    refine ⟨⟨rfl, rfl, fun other r' member => ?_, fun other r' member => ?_⟩, ⟨r, found, unmarked⟩,
      fun r' member => ?_, rfl⟩
    · dsimp only at member
      by_cases same : other = id
      · subst same
        rw [AList.lookup_insert] at member
        cases member
        exact ⟨r, found, ⟨rfl, rfl, rfl⟩, fun _ => rfl⟩
      · rw [AList.lookup_insert_ne same] at member
        exact ⟨r', member, ⟨rfl, rfl, rfl⟩, fun submitted => submitted⟩
    · dsimp only
      by_cases same : other = id
      · subst same
        cases found.symm.trans member
        exact .inr ⟨_, AList.lookup_insert _, rfl, rfl, rfl⟩
      · exact .inr ⟨r', (AList.lookup_insert_ne same).trans member, rfl, rfl, rfl⟩
    · rw [AList.lookup_insert] at member
      cases member
      rfl

/-- How a reconciliation changes what is reserved, whether it succeeds or fails. -/
theorem reconcile_requests (zones : Zones) (a : AccountSnapshot) (rule : LossRule) (now : Int)
    (session : RiskSession) (first second : Save) :
    RequestsMove (ProvenAbsent a) session.state
      (session.reconcile zones a rule now first second).1.state := by
  have ends := reconcile_ends zones a rule now session first second
  generalize session.reconcile zones a rule now first second = result at ends ⊢
  have flagged : RequestsMove (ProvenAbsent a) session.state session.state.flagged := .same rfl rfl rfl
  cases ends with
  | unsaved => exact flagged
  | refused => exact flagged
  | unruled _ checked _ => exact flagged.trans (rolled_requests (verify_verified checked))
  | @applied floors _ checked _ =>
    have rolled := flagged.trans (rolled_requests (verify_verified checked))
    obtain ⟨metrics, tracked⟩ := trackReduced_eq a rule now
      { (session.state.flagged.rolled a).stopped a floors with needsReconciliation := false }
    have marked : RequestsMove (ProvenAbsent a) (session.state.flagged.rolled a)
        (session.state.reconciled a rule now floors) := by
      unfold RiskState.reconciled
      rw [tracked]
      exact .same rfl rfl rfl
    exact (rolled.trans marked).trans (persist_requests _
      { state := session.state.reconciled a rule now floors, document := session.state.flagged } second)

end

end TradeControl.AdaptiveRisk
