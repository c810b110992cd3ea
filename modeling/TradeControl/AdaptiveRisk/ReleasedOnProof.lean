import TradeControl.AdaptiveRisk.RequestMoves
import TradeControl.AdaptiveRisk.SessionRuns

namespace TradeControl.AdaptiveRisk

open Foundation

/-- What is kept of the requests that were authorized or submitted, in memory and in the document. -/
structure Accounted (issued submitted : List String) (session : RiskSession) : Prop where
  account : session.state.accountId = session.document.accountId
  attempted : ∀ id ∈ session.state.reservations, id ∈ session.state.attemptedRequests
  attemptedSaved : ∀ id ∈ session.document.reservations, id ∈ session.document.attemptedRequests
  remembered : ∀ id ∈ issued,
    id ∈ session.state.attemptedRequests ∧ id ∈ session.document.attemptedRequests
  backed : ∀ id ∈ issued, ∀ r ∈ session.state.reservations.lookup id,
    ∃ r' ∈ session.document.reservations.lookup id, r.SameTerms r'
  marked : ∀ id ∈ submitted, id ∈ issued ∧
    (∀ r ∈ session.state.reservations.lookup id, r.submitted = true) ∧
    ∀ r ∈ session.document.reservations.lookup id, r.submitted = true

section
variable {issued submitted : List String} {lost : String → Prop} {state state' document : RiskState}
  {zones : Zones} {a : AccountSnapshot} {rule : LossRule} {now : Int}

theorem Accounted.moved (accounted : Accounted issued submitted { state, document })
    (move : RequestsMove (fun _ => True) state state') : Accounted issued submitted { state := state', document } := by
  refine ⟨move.account.trans accounted.account, fun id member => ?_, accounted.attemptedSaved,
    fun id member => ?_, fun id member r' found => ?_, fun id member => ?_⟩
  · obtain ⟨r', found⟩ := KeyedMap.mem_iff.mp member
    obtain ⟨r, before, _⟩ := move.drawn id r' found
    exact move.attempted ▸ accounted.attempted id (KeyedMap.mem_iff.mpr ⟨r, before⟩)
  · exact ⟨move.attempted ▸ (accounted.remembered id member).1, (accounted.remembered id member).2⟩
  · obtain ⟨r, before, same, _⟩ := move.drawn id r' found
    obtain ⟨saved, inDocument, same'⟩ := accounted.backed id member r before
    exact ⟨saved, inDocument, same'.1.trans same.1.symm, same'.2.1.trans same.2.1.symm,
      same'.2.2.trans same.2.2.symm⟩
  · obtain ⟨authorized, inMemory, inDocument⟩ := accounted.marked id member
    refine ⟨authorized, fun r' found => ?_, inDocument⟩
    obtain ⟨r, before, _, stays⟩ := move.drawn id r' found
    exact stays (inMemory r before)

theorem Accounted.saved (accounted : Accounted issued submitted { state, document }) :
    Accounted issued submitted { state, document := state } :=
  ⟨rfl, accounted.attempted, accounted.attempted,
    fun id member => ⟨(accounted.remembered id member).1, (accounted.remembered id member).1⟩,
    fun _ _ r found => ⟨r, found, rfl, rfl, rfl⟩,
    fun id member => ⟨(accounted.marked id member).1, (accounted.marked id member).2.1,
      (accounted.marked id member).2.1⟩⟩

theorem Accounted.persist {session : RiskSession} (accounted : Accounted issued submitted session)
    (save : Save) : Accounted issued submitted (session.persist save).1 := by
  cases save with
  | done => exact accounted.saved
  | failed replaced error =>
    have flagged : RequestsMove (fun _ => True) session.state session.state.flagged := .same rfl rfl rfl
    cases replaced with
    | false => exact accounted.moved flagged
    | true => exact accounted.saved.moved flagged

theorem Accounted.onExecution {session : RiskSession} (accounted : Accounted issued submitted session)
    (event : Execution) (save : Save) :
    Accounted issued submitted (session.onExecution event save).1 := by
  rw [onExecution_eq]
  exact (accounted.moved (onExecution_requests _ event)).persist save

theorem Accounted.onSetupClosed {session : RiskSession} (accounted : Accounted issued submitted session)
    (setup : String) (closedAt : Int) (terminal : Bool) (save : Save) :
    Accounted issued submitted (session.onSetupClosed setup closedAt terminal save).1 := by
  rw [onSetupClosed_eq]
  exact (accounted.moved (onSetupClosed_requests _ setup closedAt terminal)).persist save

theorem Accounted.reconcile {session : RiskSession} (accounted : Accounted issued submitted session)
    (zones : Zones) (a : AccountSnapshot) (rule : LossRule) (now : Int) (first second : Save) :
    Accounted issued submitted (session.reconcile zones a rule now first second).1 := by
  have ends := reconcile_ends zones a rule now session first second
  generalize session.reconcile zones a rule now first second = result at ends ⊢
  have flagged : Accounted issued submitted { state := session.state.flagged, document := session.document } :=
    accounted.moved (.same rfl rfl rfl)
  cases ends with
  | @unsaved replaced error failed =>
    cases replaced with
    | false => exact flagged
    | true => exact flagged.saved
  | refused => exact flagged.saved
  | unruled _ checked _ => exact flagged.saved.moved ((rolled_requests (verify_verified checked)).weaken fun _ _ => trivial)
  | @applied floors _ checked _ =>
    obtain ⟨metrics, tracked⟩ := trackReduced_eq a rule now
      { (session.state.flagged.rolled a).stopped a floors with needsReconciliation := false }
    have rolled : RequestsMove (fun _ => True) session.state.flagged (session.state.flagged.rolled a) :=
      (rolled_requests (verify_verified checked)).weaken fun _ _ => trivial
    have marked : RequestsMove (fun _ => True) (session.state.flagged.rolled a)
        (session.state.reconciled a rule now floors) := by
      unfold RiskState.reconciled
      rw [tracked]
      exact .same rfl rfl rfl
    exact ((flagged.saved.moved rolled).moved marked).persist second

/-- Reserving the risk of a request that was not attempted disturbs no other. -/
theorem Accounted.reserved (accounted : Accounted issued submitted { state, document })
    {trade : ProposedTrade} (now : Int) (unattempted : trade.requestId ∉ state.attemptedRequests)
    (decision : RiskDecision) :
    Accounted issued submitted { state := state.reserve now trade decision, document } := by
  have other : ∀ id ∈ issued, id ≠ trade.requestId := fun id member same =>
    unattempted (same ▸ (accounted.remembered id member).1)
  have kept : ∀ id ∈ issued, (state.reserve now trade decision).reservations.lookup id =
      state.reservations.lookup id := fun id member => AList.lookup_insert_ne (other id member)
  refine ⟨accounted.account, fun id member => ?_, accounted.attemptedSaved, fun id member => ?_,
    fun id member r found => ?_, fun id member => ?_⟩
  · rcases (AList.mem_insert _).mp member with rfl | old
    · exact Finset.mem_insert_self _ _
    · exact Finset.mem_insert_of_mem (accounted.attempted id old)
  · exact ⟨Finset.mem_insert_of_mem (accounted.remembered id member).1, (accounted.remembered id member).2⟩
  · exact accounted.backed id member r ((kept id member).symm.trans found)
  · obtain ⟨authorized, inMemory, inDocument⟩ := accounted.marked id member
    exact ⟨authorized, fun r found => inMemory r ((kept id authorized).symm.trans found), inDocument⟩

theorem Accounted.issue (accounted : Accounted issued submitted { state, document := state })
    {id : String} (attempted : id ∈ state.attemptedRequests) :
    Accounted (issued ++ [id]) submitted { state, document := state } := by
  refine ⟨rfl, accounted.attempted, accounted.attempted, fun other member => ?_,
    fun _ _ r found => ⟨r, found, rfl, rfl, rfl⟩, fun other member => ?_⟩
  · rcases List.mem_append.mp member with old | new
    · exact ⟨(accounted.remembered other old).1, (accounted.remembered other old).1⟩
    · rw [List.mem_singleton.mp new]
      exact ⟨attempted, attempted⟩
  · obtain ⟨authorized, marked⟩ := accounted.marked other member
    exact ⟨List.mem_append_left _ authorized, marked⟩

theorem Accounted.submit (accounted : Accounted issued submitted { state, document := state })
    {id : String} (authorized : id ∈ issued) (marked : ∀ r ∈ state.reservations.lookup id, r.submitted = true) :
    Accounted issued (submitted ++ [id]) { state, document := state } := by
  refine { accounted with marked := fun other member => ?_ }
  rcases List.mem_append.mp member with old | new
  · exact accounted.marked other old
  · rw [List.mem_singleton.mp new]
    exact ⟨authorized, marked, marked⟩

end

/-- The ids of the requests that were authorized. -/
def RiskWorld.authorized (world : RiskWorld) : List String :=
  world.issued.map fun authorization => authorization.request.requestId

/-- What a world's requests are kept to. -/
structure RequestsOnce (world : RiskWorld) : Prop where
  accounted : Accounted world.authorized world.submitted world.session
  authorized : world.authorized.Nodup
  submitted : world.submitted.Nodup

section
variable {zones : Zones} {world after : RiskWorld} {event : WorldEvent}

theorem RequestsOnce.after_quiet (once : RequestsOnce world) {out : RiskSession × Except String Unit}
    (accounted : Accounted world.authorized world.submitted out.1) :
    RequestsOnce (world.after (out.map id (·.map fun _ => Handed.nothing))) := by
  obtain ⟨session, result⟩ := out
  cases result with
  | error error => exact ⟨accounted, once.authorized, once.submitted⟩
  | ok _ => exact ⟨accounted, once.authorized, once.submitted⟩

theorem RequestsOnce.after_authorized (once : RequestsOnce world) {session : RiskSession}
    {authorization : Authorization}
    (accounted : Accounted (world.authorized ++ [authorization.request.requestId]) world.submitted session)
    (unseen : authorization.request.requestId ∉ world.authorized) :
    RequestsOnce (world.after (session, .ok (.authorized authorization))) := by
  have issued : (world.after (session, .ok (.authorized authorization))).authorized =
      world.authorized ++ [authorization.request.requestId] := by
    simp [RiskWorld.after, RiskWorld.authorized]
  refine ⟨issued ▸ accounted, ?_, once.submitted⟩
  rw [issued]
  exact List.nodup_append_comm.mp (List.nodup_cons.mpr ⟨unseen, once.authorized⟩)

theorem RequestsOnce.after_submitted (once : RequestsOnce world) {session : RiskSession} {id : String}
    (accounted : Accounted world.authorized (world.submitted ++ [id]) session)
    (unseen : id ∉ world.submitted) : RequestsOnce (world.after (session, .ok (.submitted id))) :=
  ⟨accounted, once.authorized, List.nodup_append_comm.mp (List.nodup_cons.mpr ⟨unseen, once.submitted⟩)⟩

theorem RequestsOnce.authorize (once : RequestsOnce world) (a : AccountSnapshot) (trade : ProposedTrade)
    (rule : LossRule) (now : Int) (save : Save) :
    RequestsOnce (world.after ((SessionOp.authorize a trade rule now save).run zones world.session)) := by
  have ends := authorize_ends zones a rule now world.session trade save
  unfold SessionOp.run
  dsimp only
  generalize world.session.authorize zones a rule now trade save = out at ends ⊢
  cases ends with
  | @blocked metrics error =>
    have moved : Accounted world.authorized world.submitted
        { world.session with state := { world.session.state with metrics } } :=
      once.accounted.moved (.same rfl rfl rfl)
    exact ⟨moved.persist save, once.authorized, once.submitted⟩
  | @reserved metrics decision admitted =>
    have moved : Accounted world.authorized world.submitted
        { world.session with state := { world.session.state with metrics } } :=
      once.accounted.moved (.same rfl rfl rfl)
    have reserved := moved.reserved now admitted.unattempted decision
    cases save with
    | failed replaced error => exact ⟨reserved.persist _, once.authorized, once.submitted⟩
    | done =>
      exact once.after_authorized (reserved.saved.issue (Finset.mem_insert_self _ _)) fun member =>
        admitted.unattempted (once.accounted.remembered _ member).1

theorem RequestsOnce.beforeSubmit (once : RequestsOnce world) {authorization : Authorization}
    (held : world.Holds authorization) (refreshed : ProposedTrade) (a : AccountSnapshot)
    (rule : LossRule) (now : Int) (first second third : Save) :
    RequestsOnce (world.after
      ((SessionOp.beforeSubmit authorization refreshed a rule now first second third).run zones
        world.session)) := by
  have ends := beforeSubmit_ends zones a rule now world.session authorization refreshed first second
    third
  unfold SessionOp.run
  dsimp only
  generalize world.session.beforeSubmit zones a rule now authorization refreshed first second third = out
    at ends ⊢
  have reconciled := once.accounted.reconcile zones a rule now first second
  cases ends with
  | refused => exact ⟨once.accounted, once.authorized, once.submitted⟩
  | unreconciled _ known =>
    rw [known] at reconciled
    exact ⟨reconciled, once.authorized, once.submitted⟩
  | declined _ known =>
    rw [known] at reconciled
    exact ⟨reconciled, once.authorized, once.submitted⟩
  | @submitted between state admits known _ marked =>
    rw [known] at reconciled
    obtain ⟨move, ⟨r, found, unmarked⟩, nowMarked, _⟩ := submit_spec (fun _ => True) marked
    have moved : Accounted world.authorized world.submitted { between with state } := reconciled.moved move
    cases third with
    | failed replaced error =>
      exact ⟨moved.persist (.failed replaced error), once.authorized, once.submitted⟩
    | done =>
      have authorized : authorization.request.requestId ∈ world.authorized := by
        rcases held with issued | foreign
        · exact List.mem_map_of_mem issued
        · exact absurd (admits.token.account.trans once.accounted.account) foreign
      refine once.after_submitted (moved.saved.submit authorized nowMarked) fun member => ?_
      have already := (reconciled.marked _ member).2.1 r found
      rw [unmarked] at already
      cases already

theorem RequestsOnce.rejectedWithoutFill (once : RequestsOnce world) (authorization : Authorization)
    (save : Save) :
    RequestsOnce (world.after ((SessionOp.rejectedWithoutFill authorization save).run zones
      world.session)) := by
  have ends := rejectedWithoutFill_ends world.session authorization save
  unfold SessionOp.run
  dsimp only
  generalize world.session.rejectedWithoutFill authorization save = out at ends ⊢
  cases ends with
  | refused => exact once.after_quiet once.accounted
  | released =>
    exact once.after_quiet ((once.accounted.moved ((release_requests _ _).weaken fun _ _ =>
      trivial)).persist save)

/-- Every step of an account keeps its requests to one authorization and one submission. -/
theorem requestsOnce_step (step : WorldStep zones world event after) (once : RequestsOnce world) :
    RequestsOnce after := by
  cases step with
  | @begun accountId policy session unlocked loaded =>
    unfold beginSession at loaded
    simp only [bind_ok, ensure_ok, pure_ok, exists_const] at loaded
    obtain ⟨_, _, _, _, rfl⟩ := loaded
    have view : world.view = world.document := by
      unfold RiskWorld.view
      rw [unlocked]
      rfl
    have accounted := once.accounted
    unfold RiskWorld.session at accounted
    rw [view] at accounted
    exact ⟨accounted.moved (.same rfl rfl rfl), once.authorized, once.submitted⟩
  | unbegun => exact once
  | dropped =>
    refine ⟨⟨rfl, once.accounted.attemptedSaved, once.accounted.attemptedSaved, fun id member => ?_,
      fun _ _ r found => ⟨r, found, rfl, rfl, rfl⟩, fun id member => ?_⟩, once.authorized, once.submitted⟩
    · exact ⟨(once.accounted.remembered id member).2, (once.accounted.remembered id member).2⟩
    · obtain ⟨authorized, _, inDocument⟩ := once.accounted.marked id member
      exact ⟨authorized, inDocument, inDocument⟩
  | @operated op locked held =>
    cases op with
    | latchStops account daily save =>
      refine once.after_quiet (Accounted.persist ?_ save)
      exact once.accounted.moved (.same rfl rfl rfl)
    | onExecution execution save =>
      exact once.after_quiet (once.accounted.onExecution execution save)
    | onSetupClosed setup closedAt terminal save =>
      exact once.after_quiet (once.accounted.onSetupClosed setup closedAt terminal save)
    | disconnect save =>
      refine once.after_quiet (Accounted.persist ?_ save)
      exact once.accounted.moved (.same rfl rfl rfl)
    | reconcile a rule now first second =>
      exact once.after_quiet (once.accounted.reconcile zones a rule now first second)
    | authorize a trade rule now save => exact once.authorize a trade rule now save
    | beforeSubmit authorization refreshed a rule now first second third =>
      exact once.beforeSubmit (held authorization rfl) refreshed a rule now first second third
    | rejectedWithoutFill authorization save => exact once.rejectedWithoutFill authorization save

end

/-- The proof on which a request's risk is released: a rejection with its own token, or a
reconciliation with a snapshot that shows it absent. -/
inductive Released (world : RiskWorld) (id : String) : WorldEvent → Prop
  | rejected {authorization : Authorization} {save : Save} (own : authorization ∈ world.issued)
      (request : authorization.request.requestId = id) (token : TokenMatches world.view authorization) :
      Released world id (.operate (.rejectedWithoutFill authorization save))
  | reconciled {a : AccountSnapshot} {rule : LossRule} {now : Int} {first second : Save}
      (absent : ProvenAbsent a id) :
      Released world id (.operate (.reconcile a rule now first second))
  | submitting {authorization : Authorization} {refreshed : ProposedTrade} {a : AccountSnapshot}
      {rule : LossRule} {now : Int} {first second third : Save} (absent : ProvenAbsent a id) :
      Released world id (.operate (.beforeSubmit authorization refreshed a rule now first second third))

/-- A request's risk stays reserved on its terms. -/
def StaysReserved (after : RiskWorld) (id : String) (r : Reservation) : Prop :=
  ∃ r' ∈ after.view.reservations.lookup id, r.SameTerms r'

section
variable {zones : Zones} {world : RiskWorld} {id : String} {r : Reservation}

theorem after_view (world : RiskWorld) (out : RiskSession × Except String Handed) :
    (world.after out).view = out.1.state := by
  obtain ⟨session, result⟩ := out
  unfold RiskWorld.after
  dsimp only
  split
  · rfl
  · rfl
  · rfl

theorem RequestsMove.stays {lost : String → Prop} {out : RiskSession × Except String Handed}
    (move : RequestsMove lost world.view out.1.state) (found : r ∈ world.view.reservations.lookup id) :
    StaysReserved (world.after out) id r ∨ lost id := by
  unfold StaysReserved
  rw [after_view]
  exact (move.kept id r found).symm

/-- A change that loses nothing keeps what is reserved through its save. -/
theorem stays_persisted (state : RiskState) {out : RiskSession × Except String Handed} (save : Save)
    (move : RequestsMove (fun _ => False) world.view state)
    (saved : out.1 = (({ state, document := world.document } : RiskSession).persist save).1)
    (found : r ∈ world.view.reservations.lookup id) : StaysReserved (world.after out) id r := by
  have kept := move.trans (persist_requests _ { state, document := world.document } save)
  unfold StaysReserved
  rw [after_view, saved]
  exact (kept.kept id r found).resolve_left not_false

/-- An authorization releases nothing, whatever it answers. -/
theorem authorize_stays (once : RequestsOnce world) (a : AccountSnapshot) (trade : ProposedTrade)
    (rule : LossRule) (now : Int) (save : Save) (found : r ∈ world.view.reservations.lookup id) :
    StaysReserved (world.after ((SessionOp.authorize a trade rule now save).run zones world.session)) id r := by
  have ends := authorize_ends zones a rule now world.session trade save
  unfold StaysReserved
  rw [after_view]
  unfold SessionOp.run
  dsimp only [Prod.map, id_eq]
  generalize world.session.authorize zones a rule now trade save = out at ends ⊢
  cases ends with
  | @blocked metrics error =>
    have kept := persist_requests (fun _ => False)
      { world.session with state := { world.session.state with metrics } } save
    exact (kept.kept id r found).resolve_left not_false
  | @reserved metrics decision admitted =>
    have kept := persist_requests (fun _ => False)
      { world.session with
        state := { world.session.state with metrics }.reserve now trade decision } save
    refine (kept.kept id r ?_).resolve_left not_false
    have other : id ≠ trade.requestId := fun same =>
      admitted.unattempted (same ▸ once.accounted.attempted id (KeyedMap.mem_iff.mpr ⟨r, found⟩))
    exact (AList.lookup_insert_ne other).trans found

theorem beforeSubmit_requests (session : RiskSession) (authorization : Authorization)
    (refreshed : ProposedTrade) (a : AccountSnapshot) (rule : LossRule) (now : Int)
    (first second third : Save) :
    RequestsMove (ProvenAbsent a) session.state
      (session.beforeSubmit zones a rule now authorization refreshed first second third).1.state := by
  have ends := beforeSubmit_ends zones a rule now session authorization refreshed first second third
  generalize session.beforeSubmit zones a rule now authorization refreshed first second third = out
    at ends ⊢
  have reconciled := reconcile_requests zones a rule now session first second
  cases ends with
  | refused => exact .same rfl rfl rfl
  | unreconciled _ known =>
    rw [known] at reconciled
    exact reconciled
  | declined _ known =>
    rw [known] at reconciled
    exact reconciled
  | @submitted between state admits known _ marked =>
    rw [known] at reconciled
    have submitted := (submit_spec (ProvenAbsent a) marked).1
    exact (reconciled.trans submitted).trans (persist_requests _ { between with state } third)

/-- An operation keeps what is reserved, or is the proof of its absence. -/
theorem operate_released {op : SessionOp} (once : RequestsOnce world)
    (held : ∀ authorization ∈ op.token, world.Holds authorization)
    (found : r ∈ world.view.reservations.lookup id) :
    StaysReserved (world.after (op.run zones world.session)) id r ∨ Released world id (.operate op) := by
  cases op with
  | latchStops account daily save =>
    exact .inl (stays_persisted (world.view.latchStops account daily) save (.same rfl rfl rfl) rfl found)
  | onExecution execution save =>
    exact .inl (stays_persisted _ save (onExecution_requests world.view execution)
      (congrArg Prod.fst (onExecution_eq world.session execution save)) found)
  | onSetupClosed setup closedAt terminal save =>
    exact .inl (stays_persisted _ save (onSetupClosed_requests world.view setup closedAt terminal)
      (congrArg Prod.fst (onSetupClosed_eq world.session setup closedAt terminal save)) found)
  | disconnect save =>
    exact .inl (stays_persisted world.view.disconnect save (.same rfl rfl rfl) rfl found)
  | reconcile a rule now first second =>
    exact ((reconcile_requests zones a rule now world.session first second).stays found).imp_right
      .reconciled
  | authorize a trade rule now save => exact .inl (authorize_stays once a trade rule now save found)
  | beforeSubmit authorization refreshed a rule now first second third =>
    exact ((beforeSubmit_requests world.session authorization refreshed a rule now first second
      third).stays found).imp_right .submitting
  | rejectedWithoutFill authorization save =>
    have ends := rejectedWithoutFill_ends world.session authorization save
    unfold SessionOp.run
    dsimp only
    generalize world.session.rejectedWithoutFill authorization save = out at ends ⊢
    cases ends with
    | refused => exact .inl ⟨r, found, rfl, rfl, rfl⟩
    | released valid =>
      have token := validateToken_matches valid
      have move := (release_requests world.view authorization.request.requestId).trans
        ((persist_requests _
          { state := world.view.release authorization.request.requestId, document := world.document }
            save))
      refine (move.stays found).imp_right fun same => ?_
      rcases held authorization rfl with issued | foreign
      · exact .rejected issued same.symm token
      · exact absurd (token.account.trans once.accounted.account) foreign

theorem step_released {event : WorldEvent} {after : RiskWorld} (step : WorldStep zones world event after)
    (once : RequestsOnce world) (found : r ∈ world.view.reservations.lookup id) :
    StaysReserved after id r ∨ Released world id event ∨ (event = .drop ∧ id ∉ world.authorized) := by
  cases step with
  | @begun accountId policy session unlocked loaded =>
    unfold beginSession at loaded
    simp only [bind_ok, ensure_ok, pure_ok, exists_const] at loaded
    obtain ⟨_, _, _, _, rfl⟩ := loaded
    unfold RiskWorld.view at found
    rw [unlocked] at found
    exact .inl ⟨r, found, rfl, rfl, rfl⟩
  | unbegun => exact .inl ⟨r, found, rfl, rfl, rfl⟩
  | dropped =>
    by_cases authorized : id ∈ world.authorized
    · exact .inl (once.accounted.backed id authorized r found)
    · exact .inr (.inr ⟨rfl, authorized⟩)
  | operated locked held => exact (operate_released once held found).imp_right .inl

end

theorem enroll_requestsOnce {zones : Zones} {accountId : String} {initialBalance : Rat}
    {day : DayReference} {policy : RiskPolicy} {state : RiskState}
    (enrolled : RiskState.enroll zones accountId initialBalance day policy = .ok state) :
    RequestsOnce { document := state } := by
  unfold RiskState.enroll at enrolled
  simp only [bind_ok, ensure_ok, pure_ok, exists_const] at enrolled
  obtain ⟨_, _, _, rfl⟩ := enrolled
  exact ⟨⟨rfl, by simp [RiskWorld.session, RiskWorld.view], by simp [RiskWorld.session],
    by simp [RiskWorld.authorized], by simp [RiskWorld.authorized], by simp⟩, .nil, .nil⟩

/-- Over every run of an account's sessions, with crashes and failed saves: no request is
authorized twice or submitted twice, and what is reserved stays so on its terms until a rejection
with its own token or a reconciliation that shows it absent, or, for a request that was never
authorized, the end of the session that failed to save it. -/
theorem riskRuns_released {zones : Zones} {accountId : String} {initialBalance : Rat}
    {day : DayReference} {policy : RiskPolicy} {state : RiskState}
    (enrolled : RiskState.enroll zones accountId initialBalance day policy = .ok state)
    {world : RiskWorld} (run : WorldRun zones { document := state } world) :
    world.authorized.Nodup ∧ world.submitted.Nodup ∧
      ∀ event after, WorldStep zones world event after →
        ∀ id r, r ∈ world.view.reservations.lookup id →
          StaysReserved after id r ∨ Released world id event ∨
            (event = .drop ∧ id ∉ world.authorized) := by
  have once := run.invariant (enroll_requestsOnce enrolled) requestsOnce_step
  exact ⟨once.authorized, once.submitted, fun event after step id r found => step_released step once found⟩

theorem enrolledState_enrolled :
    RiskState.enroll utcZones "test" 10000 (dayReferenceOf 0) {} = .ok enrolledState := by
  have valid : ({} : RiskPolicy).validate utcZones = .ok () := by decide +kernel
  unfold RiskState.enroll
  rw [valid]
  rfl

theorem riskRuns_released_once :
    let world := firstSession.operated utcZones
      [.reconcile (flatSnapshot 0) standardLossRule (noonOf 0) .done .done,
        .authorize (flatSnapshot 0) (hundredTrade "r1") standardLossRule (noonOf 0) .done]
    world.authorized.Nodup ∧ world.submitted.Nodup ∧
      ∀ event after, WorldStep utcZones world event after →
        ∀ id r, r ∈ world.view.reservations.lookup id →
          StaysReserved after id r ∨ Released world id event ∨
            (event = .drop ∧ id ∉ world.authorized) :=
  riskRuns_released enrolledState_enrolled (firstSession_run.operated rfl (by simp [SessionOp.token]))

/-- The risk that an authorization reserved in memory but could not save goes with its session. -/
theorem riskRuns_unsaved :
    let world := firstSession.operated utcZones
      [.reconcile (flatSnapshot 0) standardLossRule (noonOf 0) .done .done,
        .authorize (flatSnapshot 0) (hundredTrade "r1") standardLossRule (noonOf 0)
          (.failed false "no space left")]
    WorldRun utcZones { document := enrolledState } world ∧
      WorldStep utcZones world .drop { world with memory := none } ∧
      "r1" ∈ world.view.reservations ∧
      "r1" ∉ ({ world with memory := none } : RiskWorld).view.reservations ∧
      ¬ Released world "r1" .drop := by
  refine ⟨firstSession_run.operated rfl (by simp [SessionOp.token]), .dropped, by decide +kernel,
    by decide +kernel, fun released => by cases released⟩

end TradeControl.AdaptiveRisk
