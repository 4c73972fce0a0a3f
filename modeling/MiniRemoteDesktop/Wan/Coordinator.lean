/-
**The coordinator's calls on one WAN session** (`mrd-service`, `wan_session/coordinator.rs`).

Every call that changes a session holds its entry's operation lock from start to end, so the calls
on one session form a sequence, and each is one function of the session state. What the environment
answers is an argument of the call: the clock readings, whether the installer succeeded, how the
clean-up of a terminal session ended.

* `applyEvent` — the coordinator's `apply`: the transition, then the clean-up if it is terminal.
* `commitGenerationZero` — revalidate, install, revalidate, advance.
-/

import MiniRemoteDesktop.Wan.Invariant

namespace MiniRemoteDesktop.Wan

/-! ### Errors -/

inductive WanSessionPortError
  | unavailable
  | rejected
  | deadlineExceeded
  deriving DecidableEq

inductive WanSessionCoordinatorError
  | invalidConfiguration
  | sessionNotFound
  | sessionConflict
  | capacityExceeded
  | taskCapacityExceeded
  | bufferCapacityExceeded
  | retryBudgetExceeded
  | deadlineExceeded
  | sessionTerminal
  | workflowUnavailable
  | roleOrPhaseMismatch
  | backendBindingMismatch
  | backend (error : WanSessionPortError)
  | signaling (error : WanSessionPortError)
  | consent (error : WanSessionPortError)
  | verifiedIntentRequired
  | verifiedGrantRequired
  | transition (error : WanSessionTransitionError)
  | taskJoinFailed
  | cleanupFailed
  | cleanupTimeout
  deriving DecidableEq

namespace Coordinator

open WanSessionState (performAll)

/-- What a call returns to its caller. -/
abbrev Answer := Except WanSessionCoordinatorError TransitionResult

/-- How `finalize` ended; only a terminal session is finalized. -/
abbrev Cleanup := Except WanSessionCoordinatorError Unit

/-! ### Calls -/

/-- `WanSessionCoordinator::apply`. A transition error hides a clean-up error. -/
def applyEvent (state : WanSessionState) (event : WanSessionEvent) (nowUnixMs : Nat)
    (cleanup : Cleanup) : WanSessionState × Answer :=
  let (next, transition) := state.apply event nowUnixMs
  let cleanupResult := if next.phase.isTerminal then cleanup else .ok ()
  (next, do
    let transition ← transition.mapError .transition
    cleanupResult
    return transition)

/-- `finalize(..).await?` for a terminal session, then the answer. -/
def afterCleanup (next : WanSessionState) (cleanup : Cleanup) (answer : Answer) : Answer :=
  if next.phase.isTerminal then
    match cleanup with
    | .error error => .error error
    | .ok () => answer
  else answer

theorem afterCleanup_ok {next : WanSessionState} {cleanup : Cleanup} {answer : Answer}
    {result : TransitionResult} (returned : afterCleanup next cleanup answer = .ok result) :
    answer = .ok result := by
  unfold afterCleanup at returned
  split at returned
  · split at returned
    · cases returned
    · exact returned
  · exact returned

/-- The arguments of `commit_generation_zero`, and what its environment answers: the three clock
readings (at the start, after a failed install, after a successful one) and the installer. -/
structure Commit where
  role : WanSessionRole
  identity : WanSessionIdentity
  grant : GrantBinding
  access : RelayAccessBinding
  proof : RelayRouteProof
  startedAtMs : Nat
  installed : Bool
  (failedAtMs committedAtMs : Nat)
  cleanup : Cleanup

namespace Commit

/-- One of the three authorization deadlines has passed. -/
def DeadlineInvalidated (commit : Commit) (nowUnixMs : Nat) : Prop :=
  commit.identity.deadlineUnixMs ≤ nowUnixMs ∨ commit.grant.grantExpiresAtMs ≤ nowUnixMs ∨
    commit.grant.policyExpiresAtMs ≤ nowUnixMs

instance (commit : Commit) (nowUnixMs : Nat) : Decidable (commit.DeadlineInvalidated nowUnixMs) :=
  inferInstanceAs (Decidable (_ ∨ _ ∨ _))

/-- The session is no longer the one the route was verified for. -/
def BindingInvalidated (commit : Commit) (state : WanSessionState) : Prop :=
  state.phase ≠ .negotiating ∨ state.role ≠ commit.role ∨ commit.grant.grantCommitment = none ∨
    state.identity ≠ commit.identity ∨ state.grant ≠ some commit.grant ∨
    state.access ≠ some commit.access

instance (commit : Commit) (state : WanSessionState) : Decidable (commit.BindingInvalidated state) :=
  inferInstanceAs (Decidable (_ ∨ _ ∨ _ ∨ _ ∨ _ ∨ _))

/-- The checks before the installer runs. -/
def precheck (commit : Commit) (state : WanSessionState) : Except WanSessionCoordinatorError Unit :=
  if state.phase ≠ .negotiating ∨ state.role ≠ commit.role then .error .roleOrPhaseMismatch
  else if commit.DeadlineInvalidated commit.startedAtMs then .error .deadlineExceeded
  else if commit.grant.grantCommitment = none ∨ state.identity ≠ commit.identity ∨
      state.grant ≠ some commit.grant ∨ state.access ≠ some commit.access ∨
      commit.proof.routePolicy ≠ commit.grant.routePolicy ∨
      (commit.grant.routePolicy = .relayOnly ∧ commit.proof.isRelayToRelay = false) ∨
      commit.proof.access ≠ commit.access then .error .backendBindingMismatch
  else .ok ()

/-- The installer failed: the session fails too, and the call reports a failed clean-up. -/
def installFailed (commit : Commit) (state : WanSessionState) : WanSessionState × Answer :=
  let next := (state.apply (.failed .transport) commit.failedAtMs).1
  (next, afterCleanup next commit.cleanup (.error .cleanupFailed))

/-- The installer succeeded: revalidate under the state lock, then advance or fail. -/
def finish (commit : Commit) (state : WanSessionState) : WanSessionState × Answer :=
  let event :=
    if commit.DeadlineInvalidated commit.committedAtMs then WanSessionEvent.failed .deadlineExceeded
    else if commit.BindingInvalidated state then .failed .routeMismatch
    else .relayVerified commit.proof
  let (next, transition) := state.apply event commit.committedAtMs
  (next, afterCleanup next commit.cleanup
    (if commit.DeadlineInvalidated commit.committedAtMs then .error .deadlineExceeded
    else if commit.BindingInvalidated state then .error .backendBindingMismatch
    else transition.mapError .transition))

end Commit

def commitGenerationZero (commit : Commit) (state : WanSessionState) : WanSessionState × Answer :=
  match commit.precheck state with
  | .error error => (state, .error error)
  | .ok () => if commit.installed then commit.finish state else commit.installFailed state

/-- The calls that move an authorized session towards streaming. -/
inductive ProgressCall
  | beginNegotiation (nowUnixMs : Nat) (cleanup : Cleanup)
  | commitGenerationZero (commit : Commit)
  | recordStreaming (nowUnixMs : Nat) (cleanup : Cleanup)

namespace ProgressCall

def perform (state : WanSessionState) : ProgressCall → WanSessionState × Answer
  | beginNegotiation nowUnixMs cleanup => applyEvent state .negotiating nowUnixMs cleanup
  | commitGenerationZero commit => Coordinator.commitGenerationZero commit state
  | recordStreaming nowUnixMs cleanup => applyEvent state .streaming nowUnixMs cleanup

/-- The clock reading at which the call answers. -/
def answeredAt : ProgressCall → Nat
  | beginNegotiation nowUnixMs _ | recordStreaming nowUnixMs _ => nowUnixMs
  | commitGenerationZero commit => commit.committedAtMs

end ProgressCall

/-- The events the workflows apply: `start_controller`, `accept_verified_target_intent`,
`approve_target` and `install_controller_grant` bind these, and `fail_workflow_if_needed` fails. -/
inductive WorkflowEvent
  | backendBound (requestCommitment : String)
  | awaitingConsent (intentCommitment : String)
  | granted (grant : GrantBinding)
  | accessBound (access : RelayAccessBinding)
  | failed (failure : WanSessionFailure)

def WorkflowEvent.event : WorkflowEvent → WanSessionEvent
  | backendBound requestCommitment => .backendBound requestCommitment
  | awaitingConsent intentCommitment => .awaitingConsent intentCommitment
  | granted grant => .granted grant
  | accessBound access => .accessBound access
  | failed failure => .failed failure

/-- The deadline `expire_due_sessions` uses: a grant can only shorten the identity deadline. -/
def effectiveDeadline (state : WanSessionState) : Nat :=
  match state.grant with
  | none => state.identity.deadlineUnixMs
  | some grant =>
    min (min state.identity.deadlineUnixMs grant.grantExpiresAtMs) grant.policyExpiresAtMs

/-- Does the sweep at `nowUnixMs` expire this session? -/
def isDue (state : WanSessionState) (nowUnixMs : Nat) : Bool :=
  !state.phase.isTerminal && decide (effectiveDeadline state ≤ nowUnixMs)

/-- One call on a session. The sweep and the shutdown look at the state before they queue for the
operation lock; when another call comes in between, what they do is the call `fail`. -/
inductive Call
  | progress (call : ProgressCall)
  | workflow (event : WorkflowEvent) (nowUnixMs : Nat) (cleanup : Cleanup)
  | bindControllerTargetKey (fingerprint : String)
  | close (nowUnixMs : Nat) (cleanup : Cleanup)
  | fail (failure : WanSessionFailure) (nowUnixMs : Nat) (cleanup : Cleanup)
  | expireDue (nowUnixMs failedAtMs : Nat) (cleanup : Cleanup)
  | shutdown (nowUnixMs : Nat) (cleanup : Cleanup)

/-- The session state after a call. -/
def Call.next (state : WanSessionState) : Call → WanSessionState
  | progress call => (call.perform state).1
  | workflow event nowUnixMs cleanup => (applyEvent state event.event nowUnixMs cleanup).1
  | bindControllerTargetKey fingerprint => (state.bindControllerTargetKey fingerprint).1
  | close nowUnixMs cleanup => (applyEvent state .closed nowUnixMs cleanup).1
  | fail failure nowUnixMs cleanup => (applyEvent state (.failed failure) nowUnixMs cleanup).1
  | expireDue nowUnixMs failedAtMs cleanup =>
    if isDue state nowUnixMs then
      (applyEvent state (.failed .deadlineExceeded) failedAtMs cleanup).1
    else state
  | shutdown nowUnixMs cleanup =>
    if state.phase.isTerminal then state
    else (applyEvent state (.failed .cancelled) nowUnixMs cleanup).1

/-- The state a run of calls leaves. -/
def runCalls (state : WanSessionState) (calls : List Call) : WanSessionState :=
  calls.foldl Call.next state

/-! ### Calls are operations on the session state -/

theorem performAll_single (state : WanSessionState) (event : WanSessionEvent) (nowUnixMs : Nat) :
    (state.apply event nowUnixMs).1 = state.performAll [.apply event nowUnixMs] := rfl

theorem commitGenerationZero_eq_performAll (commit : Commit) (state : WanSessionState) :
    ∃ operations, (commitGenerationZero commit state).1 = state.performAll operations := by
  unfold commitGenerationZero
  split
  · exact ⟨[], rfl⟩
  split
  · exact ⟨_, performAll_single ..⟩
  · exact ⟨_, performAll_single ..⟩

/-- **Every call is a list of operations of the state machine.** -/
theorem Call.next_eq_performAll (state : WanSessionState) (call : Call) :
    ∃ operations, call.next state = state.performAll operations := by
  cases call with
  | progress call =>
    cases call with
    | commitGenerationZero commit => exact commitGenerationZero_eq_performAll commit state
    | beginNegotiation _ _ | recordStreaming _ _ => exact ⟨_, performAll_single ..⟩
  | workflow _ _ _ | close _ _ | fail _ _ _ => exact ⟨_, performAll_single ..⟩
  | bindControllerTargetKey fingerprint => exact ⟨[.bindControllerTargetKey fingerprint], rfl⟩
  | expireDue nowUnixMs failedAtMs _ =>
    rw [Call.next]
    split
    · exact ⟨_, performAll_single ..⟩
    · exact ⟨[], rfl⟩
  | shutdown nowUnixMs _ =>
    rw [Call.next]
    split
    · exact ⟨[], rfl⟩
    · exact ⟨_, performAll_single ..⟩

theorem runCalls_eq_performAll (calls : List Call) (state : WanSessionState) :
    ∃ operations, runCalls state calls = state.performAll operations := by
  induction calls generalizing state with
  | nil => exact ⟨[], rfl⟩
  | cons call rest ih =>
    obtain ⟨first, next⟩ := Call.next_eq_performAll state call
    obtain ⟨second, ran⟩ := ih (call.next state)
    refine ⟨first ++ second, ?_⟩
    show runCalls (call.next state) rest = _
    rw [ran, next, performAll, performAll, performAll, List.foldl_append]

end Coordinator

end MiniRemoteDesktop.Wan
