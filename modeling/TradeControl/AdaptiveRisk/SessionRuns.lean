import TradeControl.AdaptiveRisk.Sessions
import TradeControl.Foundation.GuardedReach

namespace TradeControl.AdaptiveRisk

open Foundation

/-- The state with nothing changed but that it has to be reconciled. -/
@[reducible] def RiskState.flagged (s : RiskState) : RiskState := { s with needsReconciliation := true }

section
variable {zones : Zones} {p : RiskPolicy} {a : AccountSnapshot} {rule : LossRule} {now : Int} {s : RiskState}

/-- What a valid snapshot is known to be. -/
structure ValidSnapshot (zones : Zones) (p : RiskPolicy) (s : RiskState) (a : AccountSnapshot) (now : Int) :
    Prop where
  account : a.accountId = s.accountId
  later : ∀ time ∈ s.invalidatedAfter, time < a.observedAt
  day : p.calendar.dayAt zones now = .ok a.dayReference.day
  dailyBalance : 0 < a.dayReference.balance
  dailyEquity : 0 < a.dayReference.equity

theorem validateSnapshot_valid (validated : validateSnapshot zones p s a now = .ok ()) :
    ValidSnapshot zones p s a now := by
  unfold validateSnapshot at validated
  simp only [bind_ok, ensure_ok, exists_const] at validated
  obtain ⟨⟨account, _⟩, later, _, _, day, known, ⟨rfl, balance, equity⟩, _⟩ := validated
  exact ⟨account, later, known, balance, equity⟩

/-- What a verified snapshot is known to be. -/
structure Verified (zones : Zones) (a : AccountSnapshot) (now : Int) (s : RiskState) : Prop where
  valid : ValidSnapshot zones s.policy s a now
  onward : s.day.day.start ≤ a.dayReference.day.start
  sameDay : a.dayReference.day = s.day.day → a.dayReference = s.day
  tallied : ∃ reserved, reservedRisk s.policy s a = .ok reserved

theorem verify_verified (verified : s.verify zones a now = .ok ()) : Verified zones a now s := by
  unfold RiskState.verify at verified
  simp only [bind_ok, ensure_ok, exists_const] at verified
  obtain ⟨_, _, valid, onward, sameDay, _, reserved, tallied, _⟩ := verified
  exact ⟨validateSnapshot_valid valid, onward, sameDay, reserved, tallied⟩

/-- The state after a reconciliation whose floors are known. -/
def RiskState.reconciled (a : AccountSnapshot) (rule : LossRule) (now : Int) (s : RiskState)
    (floors : Thresholds) : RiskState :=
  { (s.flagged.rolled a).stopped a floors with needsReconciliation := false }.trackReduced a rule now

theorem trackReduced_eq (a : AccountSnapshot) (rule : LossRule) (now : Int) (s : RiskState) :
    ∃ metrics, s.trackReduced a rule now = { s with metrics } := by
  unfold RiskState.trackReduced
  split
  · exact ⟨s.metrics, rfl⟩
  · exact ⟨_, rfl⟩

/-- What the stops and the marks of a reconciliation leave as the snapshot rolled it. -/
structure KeptAsRolled (a : AccountSnapshot) (s after : RiskState) : Prop where
  day : after.day = (s.flagged.rolled a).day
  reservations : after.reservations = (s.flagged.rolled a).reservations
  balanceHigh : after.balanceHigh = (s.flagged.rolled a).balanceHigh
  equityHigh : after.equityHigh = (s.flagged.rolled a).equityHigh

theorem reconciled_kept (a : AccountSnapshot) (rule : LossRule) (now : Int) (s : RiskState)
    (floors : Thresholds) : KeptAsRolled a s (s.reconciled a rule now floors) := by
  obtain ⟨metrics, tracked⟩ := trackReduced_eq a rule now
    { (s.flagged.rolled a).stopped a floors with needsReconciliation := false }
  unfold RiskState.reconciled
  rw [tracked]
  exact ⟨rfl, rfl, rfl, rfl⟩

/-- How a reconciliation ends: at its first save, at a check, at the rule, or at its last save. -/
inductive ReconcileEnds (zones : Zones) (a : AccountSnapshot) (rule : LossRule) (now : Int)
    (session : RiskSession) (first second : Save) : RiskSession × Except String Unit → Prop
  | unsaved {replaced : Bool} {error : String} (failed : first = .failed replaced error) :
      ReconcileEnds zones a rule now session first second
        ({ state := session.state.flagged
           document := if replaced then session.state.flagged else session.document }, .error error)
  | refused {error : String} (saved : first = .done)
      (checked : session.state.flagged.verify zones a now = .error error) :
      ReconcileEnds zones a rule now session first second
        ({ state := session.state.flagged, document := session.state.flagged }, .error error)
  | unruled {error : String} (saved : first = .done)
      (checked : session.state.flagged.verify zones a now = .ok ())
      (ruled : rule session.state.policy (session.state.flagged.rolled a) a = .error error) :
      ReconcileEnds zones a rule now session first second
        ({ state := session.state.flagged.rolled a, document := session.state.flagged }, .error error)
  | applied {floors : Thresholds} (saved : first = .done)
      (checked : session.state.flagged.verify zones a now = .ok ())
      (ruled : rule session.state.policy (session.state.flagged.rolled a) a = .ok floors) :
      ReconcileEnds zones a rule now session first second
        (({ state := session.state.reconciled a rule now floors
            document := session.state.flagged } : RiskSession).persist second)

theorem reconcile_ends (zones : Zones) (a : AccountSnapshot) (rule : LossRule) (now : Int)
    (session : RiskSession) (first second : Save) :
    ReconcileEnds zones a rule now session first second
      (session.reconcile zones a rule now first second) := by
  unfold RiskSession.reconcile RiskState.applyReconciliation
  cases first with
  | failed replaced error => exact .unsaved rfl
  | done =>
    dsimp only [RiskSession.persist]
    cases checked : session.state.flagged.verify zones a now with
    | error error => exact .refused rfl checked
    | ok _ =>
      dsimp only
      cases ruled : rule (session.state.flagged.rolled a).policy (session.state.flagged.rolled a) a with
      | error error => exact .unruled rfl checked ruled
      | ok floors => exact .applied rfl checked ruled

end

/-- An operation of a session, with the answers its saves get. -/
inductive SessionOp
  | latchStops (account daily : Bool) (save : Save)
  | onExecution (event : Execution) (save : Save)
  | onSetupClosed (setup : String) (closedAt : Int) (terminal : Bool) (save : Save)
  | disconnect (save : Save)
  | reconcile (snapshot : AccountSnapshot) (rule : LossRule) (now : Int) (first second : Save)
  | authorize (snapshot : AccountSnapshot) (trade : ProposedTrade) (rule : LossRule) (now : Int)
      (save : Save)
  | beforeSubmit (authorization : Authorization) (refreshed : ProposedTrade)
      (snapshot : AccountSnapshot) (rule : LossRule) (now : Int) (first second third : Save)
  | rejectedWithoutFill (authorization : Authorization) (save : Save)

/-- What an operation that succeeds hands out. -/
inductive Handed
  | nothing
  | authorized (authorization : Authorization)
  | submitted (requestId : String)

/-- An operation's session afterwards, and what it handed out if it succeeded. -/
def SessionOp.run (zones : Zones) (session : RiskSession) : SessionOp → RiskSession × Except String Handed
  | .latchStops account daily save => (session.latchStops account daily save).map id (·.map fun _ => .nothing)
  | .onExecution event save => (session.onExecution event save).map id (·.map fun _ => .nothing)
  | .onSetupClosed setup closedAt terminal save =>
    (session.onSetupClosed setup closedAt terminal save).map id (·.map fun _ => .nothing)
  | .disconnect save => (session.disconnect save).map id (·.map fun _ => .nothing)
  | .reconcile a rule now first second =>
    (session.reconcile zones a rule now first second).map id (·.map fun _ => .nothing)
  | .authorize a trade rule now save =>
    (session.authorize zones a rule now trade save).map id (·.map .authorized)
  | .beforeSubmit authorization refreshed a rule now first second third =>
    (session.beforeSubmit zones a rule now authorization refreshed first second third).map id
      (·.map fun _ => .submitted authorization.request.requestId)
  | .rejectedWithoutFill authorization save =>
    (session.rejectedWithoutFill authorization save).map id (·.map fun _ => .nothing)

/-- The token an operation is called with. -/
def SessionOp.token : SessionOp → Option Authorization
  | .beforeSubmit authorization _ _ _ _ _ _ _ | .rejectedWithoutFill authorization _ => some authorization
  | _ => none

/-- An account's directory with the session that holds its lock, and what `authorize` and
`before_submit` have returned `Ok` for. -/
structure RiskWorld where
  document : RiskState
  memory : Option RiskState := none
  issued : List Authorization := []
  submitted : List String := []

/-- What is known of the account: by its session, or else by its document. -/
def RiskWorld.view (world : RiskWorld) : RiskState := world.memory.getD world.document

def RiskWorld.session (world : RiskWorld) : RiskSession :=
  { state := world.view, document := world.document }

/-- The world after an operation of its session. -/
def RiskWorld.after (world : RiskWorld) : RiskSession × Except String Handed → RiskWorld
  | (session, result) =>
    let world := { world with document := session.document, memory := some session.state }
    match result with
    | .ok (.authorized authorization) => { world with issued := world.issued ++ [authorization] }
    | .ok (.submitted requestId) => { world with submitted := world.submitted ++ [requestId] }
    | _ => world

/-- A token is one that `authorize` returned, here or for another account: its fields are private. -/
def RiskWorld.Holds (world : RiskWorld) (authorization : Authorization) : Prop :=
  authorization ∈ world.issued ∨ authorization.accountId ≠ world.document.accountId

inductive WorldEvent
  | begin (accountId : String) (policy : RiskPolicy)
  | drop
  | operate (op : SessionOp)

/-- One session holds the lock at a time; with it gone, whether it ended or crashed, the document is left. -/
inductive WorldStep (zones : Zones) (world : RiskWorld) : WorldEvent → RiskWorld → Prop
  | begun {accountId : String} {policy : RiskPolicy} {session : RiskSession}
      (unlocked : world.memory = none)
      (loaded : beginSession zones accountId policy world.document = .ok session) :
      WorldStep zones world (.begin accountId policy) { world with memory := some session.state }
  | unbegun {accountId : String} {policy : RiskPolicy} :
      WorldStep zones world (.begin accountId policy) world
  | dropped : WorldStep zones world .drop { world with memory := none }
  | operated {op : SessionOp} (locked : world.memory.isSome = true)
      (held : ∀ authorization ∈ op.token, world.Holds authorization) :
      WorldStep zones world (.operate op) (world.after (op.run zones world.session))

/-- The worlds a run comes through, each with the event that led out of it. -/
inductive WorldRun (zones : Zones) (start : RiskWorld) : RiskWorld → Prop
  | start : WorldRun zones start start
  | next {world after : RiskWorld} {event : WorldEvent} (run : WorldRun zones start world)
      (step : WorldStep zones world event after) : WorldRun zones start after

/-- The run rule: what holds at the start and survives every step holds throughout. -/
theorem WorldRun.invariant {zones : Zones} {start world : RiskWorld} {inv : RiskWorld → Prop}
    (run : WorldRun zones start world) (initial : inv start)
    (preserved : ∀ {world event after}, WorldStep zones world event after → inv world → inv after) :
    inv world := by
  induction run with
  | start => exact initial
  | next _ step ih => exact preserved step ih

theorem beginSession_ok {zones : Zones} {document : RiskState} (schema : document.schema = 1)
    (valid : document.policy.validate zones = .ok ()) :
    beginSession zones document.accountId document.policy document =
      .ok { state := document.flagged, document } := by
  refine bind_ok.mpr ⟨(), ensure_ok.mpr schema, bind_ok.mpr ⟨(), valid, ?_⟩⟩
  exact bind_ok.mpr ⟨(), ensure_ok.mpr ⟨rfl, rfl⟩, rfl⟩

/-- The world after some operations of the session. -/
def RiskWorld.operated (zones : Zones) (world : RiskWorld) (ops : List SessionOp) : RiskWorld :=
  ops.foldl (fun world op => world.after (op.run zones world.session)) world

theorem after_locked (world : RiskWorld) (out : RiskSession × Except String Handed) :
    (world.after out).memory.isSome = true := by
  obtain ⟨session, result⟩ := out
  unfold RiskWorld.after
  dsimp only
  split
  · rfl
  · rfl
  · rfl

/-- A session's operations without tokens run on from wherever it holds the lock. -/
theorem WorldRun.operated {zones : Zones} {start world : RiskWorld} {ops : List SessionOp}
    (run : WorldRun zones start world) (locked : world.memory.isSome = true)
    (tokenless : ∀ op ∈ ops, op.token = none) : WorldRun zones start (world.operated zones ops) := by
  induction ops generalizing world with
  | nil => exact run
  | cons op rest ih =>
    refine ih (run.next (.operated locked fun authorization member => ?_)) (after_locked _ _)
      fun later member => tokenless later (List.mem_cons_of_mem _ member)
    rw [tokenless op List.mem_cons_self] at member
    cases member

/-- The enrolled account's first session. -/
def firstSession : RiskWorld := { document := enrolledState, memory := some enrolledState.flagged }

theorem firstSession_run : WorldRun utcZones { document := enrolledState } firstSession :=
  .next .start (.begun rfl (beginSession_ok rfl (by decide +kernel)))

/-- The first session once it has reconciled at noon. -/
def reconciledSession : RiskWorld :=
  firstSession.operated utcZones [.reconcile (flatSnapshot 0) standardLossRule (noonOf 0) .done .done]

theorem reconciledSession_run : WorldRun utcZones { document := enrolledState } reconciledSession :=
  firstSession_run.operated rfl (by simp [SessionOp.token])

end TradeControl.AdaptiveRisk
