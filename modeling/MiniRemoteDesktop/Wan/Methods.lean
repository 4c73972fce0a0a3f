/-
**The methods of the WAN session coordinator**, as programs of the actions of `Wan.Registry`.

Each method is written in the order of the source, with one action for each critical section and each
port. Between two actions other methods may run.

* `apply`, `finalize`, `failWorkflowIfNeeded` — the private parts.
* `startController`, `acceptVerifiedTargetIntent` — both are `openSession`, with a role and a workflow
  of their own.
* `approveTarget`, `installControllerGrant`, `commitGenerationZero`, the calls that apply one event,
  and the sweeps.
* `Call`, `system` — any number of calls at once.
-/

import MiniRemoteDesktop.Wan.Registry

namespace MiniRemoteDesktop.Wan

namespace WanSessionCoordinator

open Coordinator (Answer Cleanup Commit)
open Interleaving (System Machine)

variable {digest : WanSessionRequest → String}

abbrev Method (digest : WanSessionRequest → String) (α : Type) :=
  Interleaving.Method (interface digest) WanSessionCoordinatorError α

/-! ### Single actions -/

def take (action : Action) : Method digest (action.Reply digest) :=
  Interleaving.Method.take (I := interface digest) action

def result {α : Type} (value : Except WanSessionCoordinatorError α) : Method digest α :=
  Interleaving.Method.of value

def clock : Method digest Nat := take .now

/-- `self.entry(session_id)`. -/
def entry (sessionId : SessionId) : Method digest EntryId := do
  let found : Option EntryId ← take (.entry sessionId)
  match found with
  | some id => return id
  | none => result (.error .sessionNotFound)

def read (id : EntryId) : Method digest WanSessionState := take (.read id)

def snapshot (sessionId : SessionId) : Method digest WanSessionState := do
  let id ← entry sessionId
  read id

/-- Start the clean-up unless it was started, and wait for its result. -/
def finalize (sessionId : SessionId) (id : EntryId) (failed : Bool) : Method digest Unit := do
  let () ← take (.finalize sessionId id failed)
  let outcome : Cleanup ← take (.cleanupResult id)
  result outcome

/-! ### Applying an event -/

/-- The end of `apply`: clean up if the session is terminal. -/
def conclude (sessionId : SessionId) (id : EntryId) (transition : Transition) (state : WanSessionState) :
    Method digest TransitionResult := do
  let cleanupResult : Cleanup ←
    if state.phase.isTerminal then (finalize sessionId id (state.phase = .failed)).attempt
    else pure (.ok ())
  let transition ← result (transition.mapError .transition)
  let () ← result cleanupResult
  return transition

def apply (sessionId : SessionId) (event : WanSessionEvent) (nowUnixMs : Nat) :
    Method digest TransitionResult := do
  let id ← entry sessionId
  let applied : Transition × WanSessionState ← take (.apply id event nowUnixMs)
  conclude sessionId id applied.1 applied.2

def applyWithOperation (sessionId : SessionId) (event : WanSessionEvent) :
    Method digest TransitionResult := do
  let _ ← entry sessionId
  let nowUnixMs ← clock
  apply sessionId event nowUnixMs

/-- The failure that a workflow error is recorded as. -/
def workflowFailure : WanSessionCoordinatorError → WanSessionFailure
  | .deadlineExceeded | .backend .deadlineExceeded | .signaling .deadlineExceeded
  | .consent .deadlineExceeded => .deadlineExceeded
  | .consent .rejected => .cancelled
  | _ => .internal

def failWorkflowIfNeeded (sessionId : SessionId) (outcome : Answer) (nowUnixMs : Nat) :
    Method digest TransitionResult :=
  match outcome with
  | .ok transition => pure transition
  | .error error => do
    let state ← (snapshot sessionId).attempt
    match state with
    | .error _ => result (.error error)
    | .ok state =>
      if state.phase.isTerminal then result (.error error)
      else do
        let _ ← (apply sessionId (.failed (workflowFailure error)) nowUnixMs).attempt
        result (.error error)

/-- `run_port_before_deadline`, with the error wrapped. -/
def runPortBeforeDeadline {α : Type} (deadline : Nat)
    (wrap : WanSessionPortError → WanSessionCoordinatorError)
    (port : Method digest (Except WanSessionPortError α)) : Method digest α := do
  let nowUnixMs ← clock
  if deadline - nowUnixMs = 0 then result (.error (wrap .deadlineExceeded))
  else do
    let reply ← port
    result (reply.mapError wrap)

/-! ### Opening a session -/

def begin (state : WanSessionState) (built : state.Built) : Method digest TransitionResult := do
  let nowUnixMs ← clock
  if state.identity.deadlineUnixMs ≤ nowUnixMs then result (.error .deadlineExceeded)
  else do
    let begun : Except WanSessionCoordinatorError Begun ← take (.begin state built)
    let begun ← result begun
    return begun.result

theorem built_new (role : WanSessionRole) (identity : WanSessionIdentity) :
    (WanSessionState.new role identity).Built := ⟨role, identity, [], rfl⟩

/-- Run the workflow of a new session, or compare a repeated call with the session that is there. -/
def resumeSession (sessionId : SessionId) (calculated : Except WanSessionCoordinatorError String)
    (workflow : Method digest TransitionResult) (begun : TransitionResult) :
    Method digest TransitionResult := do
  let id ← entry sessionId
  match begun with
  | .duplicate => do
    let calculated ← result calculated
    let state ← read id
    if state.requestCommitment = some calculated then return .duplicate
    else do
      let nowUnixMs ← clock
      let _ ← (apply sessionId (.backendBound calculated) nowUnixMs).attempt
      result (.error .sessionConflict)
  | .applied => do
    let outcome ← workflow.attempt
    let nowUnixMs ← clock
    failWorkflowIfNeeded sessionId outcome nowUnixMs

/-- What `start_controller` and `accept_verified_target_intent` share. -/
def openSession (role : WanSessionRole) (identity : WanSessionIdentity)
    (calculated : Except WanSessionCoordinatorError String)
    (workflow : Method digest TransitionResult) : Method digest TransitionResult := do
  let begun ← begin (.new role identity) (built_new role identity)
  resumeSession identity.binding.sessionId calculated workflow begun

/-- `self.workflow()?`. -/
def requireWorkflow (workflow : Bool) : Method digest Unit :=
  result (if workflow then .ok () else .error .workflowUnavailable)

def bindingMismatch {α : Type} (value : Except SignalProtocolError α) :
    Except WanSessionCoordinatorError α :=
  value.mapError fun _ => .backendBindingMismatch

def controllerWorkflow (identity : WanSessionIdentity) (request : WanSessionRequest) :
    Method digest TransitionResult := do
  let sessionId := identity.binding.sessionId
  let deadline := identity.deadlineUnixMs
  let snapshot : WanBackendSessionSnapshot digest ←
    runPortBeforeDeadline deadline .backend (take (.create request deadline))
  let () ← result (snapshot.verifyRequested identity request)
  let nowUnixMs ← clock
  let _ ← apply sessionId (.backendBound snapshot.requestCommitment) nowUnixMs
  let intentCommitment : String ← runPortBeforeDeadline deadline .signaling
    (take (.sendIntent identity request snapshot.requestCommitment deadline))
  let nowUnixMs ← clock
  apply sessionId (.awaitingConsent intentCommitment) nowUnixMs

def startController (workflow : Bool) (identity : WanSessionIdentity) (request : WanSessionRequest) :
    Method digest TransitionResult := do
  let () ← result (validateRequestIdentity identity request)
  let () ← requireWorkflow workflow
  openSession .controller identity (bindingMismatch (request.commitment digest))
    (controllerWorkflow identity request)

def targetWorkflow (verified : VerifiedWanSessionIntent) : Method digest TransitionResult := do
  let identity := verified.identity
  let sessionId := identity.binding.sessionId
  let deadline := identity.deadlineUnixMs
  let snapshot : WanBackendSessionSnapshot digest ←
    runPortBeforeDeadline deadline .backend (take (.inspect identity.binding deadline))
  let () ← result (snapshot.verifyRequested identity verified.request)
  let () ← result (if snapshot.requestCommitment ≠ verified.requestCommitment then
    .error .backendBindingMismatch else .ok ())
  let nowUnixMs ← clock
  let _ ← apply sessionId (.backendBound snapshot.requestCommitment) nowUnixMs
  let () ← runPortBeforeDeadline deadline .consent
    (take (.publishAttendedRequest identity verified.request deadline))
  let nowUnixMs ← clock
  apply sessionId (.awaitingConsent verified.intentCommitment) nowUnixMs

def acceptVerifiedTargetIntent (workflow : Bool) (verified : VerifiedWanSessionIntent) :
    Method digest TransitionResult := do
  let () ← result (validateRequestIdentity verified.identity verified.request)
  let calculated ← result (bindingMismatch (verified.request.commitment digest))
  let () ← result (if calculated ≠ verified.requestCommitment then .error .backendBindingMismatch
    else .ok ())
  let () ← requireWorkflow workflow
  openSession .target verified.identity (.ok verified.requestCommitment) (targetWorkflow verified)

/-! ### Granting -/

def approvalWorkflow (sessionId : SessionId) (identity : WanSessionIdentity)
    (intentCommitment : String) : Method digest TransitionResult := do
  let deadline := identity.deadlineUnixMs
  let approval : WanSessionApproval ←
    runPortBeforeDeadline deadline .consent (take (.loadAttendedApproval identity deadline))
  let snapshot : WanBackendSessionSnapshot digest ←
    runPortBeforeDeadline deadline .backend (take (.approve identity.binding approval deadline))
  let grant ← result (snapshot.verifyApproved identity)
  let () ← result (if grant.approvedScopes ≠ approval.approvedScopes ∨
    grant.approvedProfile ≠ approval.approvedProfile then .error .backendBindingMismatch else .ok ())
  let access : RelayAccessBinding ← runPortBeforeDeadline deadline .backend
    (take (.accessGenerationZero identity.binding grant.policyRevision deadline))
  let signedGrantCommitment : String ← runPortBeforeDeadline deadline .signaling
    (take (.sendGrantWithCommitment identity intentCommitment grant access deadline))
  let grant ← result ((grant.withGrantCommitment signedGrantCommitment).mapError fun _ =>
    .backendBindingMismatch)
  let nowUnixMs ← clock
  let _ ← apply sessionId (.granted grant) nowUnixMs
  let nowUnixMs ← clock
  let _ ← apply sessionId (.accessBound access) nowUnixMs
  return .applied

def approveTarget (workflow : Bool) (sessionId : SessionId) : Method digest TransitionResult := do
  let () ← requireWorkflow workflow
  let _ ← entry sessionId
  let state ← snapshot sessionId
  if state.role = .target ∧ state.phase = .accessBound then return .duplicate
  else if state.role ≠ .target ∨ state.phase ≠ .awaitingConsent then
    result (.error .roleOrPhaseMismatch)
  else match state.intentCommitment with
    | none => result (.error .backendBindingMismatch)
    | some intentCommitment => do
      let outcome ← (approvalWorkflow sessionId state.identity intentCommitment).attempt
      let nowUnixMs ← clock
      failWorkflowIfNeeded sessionId outcome nowUnixMs

/-- The grant is for this session, and for its target key if that is bound. -/
def baseIdentityMatches (verified : VerifiedWanSessionGrant) (identity : WanSessionIdentity) : Bool :=
  verified.sessionId == identity.binding.sessionId &&
    verified.controllerDeviceId == identity.binding.controllerDeviceId &&
    verified.targetDeviceId == identity.binding.targetDeviceId &&
    verified.controllerKeyFingerprint == identity.controllerKeyFingerprint &&
    verified.expiresAtMs ≤ identity.deadlineUnixMs &&
    identity.targetKeyFingerprint.all fun fingerprint => fingerprint == verified.targetKeyFingerprint

/-- The grant was installed before. -/
def alreadyInstalled (verified : VerifiedWanSessionGrant) (state : WanSessionState) : Bool :=
  state.role == .controller && state.phase == .accessBound &&
    state.intentCommitment == some verified.intentCommitment &&
    (state.grant.any fun grant =>
      grant.approvedScopes == verified.approvedScopes &&
        grant.approvedProfile == verified.approvedProfile &&
        grant.grantCommitment == some verified.grantCommitment &&
        grant.policyRevision == verified.policyRevision &&
        grant.policyExpiresAtMs == verified.policyExpiresAtMs &&
        grant.routePolicy == verified.routePolicy) &&
    (state.access.any fun access =>
      access.generation == verified.generation && access.directoryId == verified.directoryId &&
        access.primaryNodeId == verified.primaryNodeId)

def grantWorkflow (sessionId : SessionId) (verified : VerifiedWanSessionGrant)
    (identity : WanSessionIdentity) : Method digest TransitionResult := do
  let deadline := identity.deadlineUnixMs
  let snapshot : WanBackendSessionSnapshot digest ←
    runPortBeforeDeadline deadline .backend (take (.inspect identity.binding deadline))
  let backendGrant ← result (snapshot.verifyApproved identity)
  let () ← result (if backendGrant.approvedScopes ≠ verified.approvedScopes ∨
      backendGrant.approvedProfile ≠ verified.approvedProfile ∨
      backendGrant.policyRevision ≠ verified.policyRevision ∨
      backendGrant.policyExpiresAtMs ≠ verified.policyExpiresAtMs ∨
      backendGrant.routePolicy ≠ verified.routePolicy ∨ verified.generation ≠ 0 then
    .error .backendBindingMismatch else .ok ())
  let access : RelayAccessBinding ← runPortBeforeDeadline deadline .backend
    (take (.accessGenerationZero identity.binding backendGrant.policyRevision deadline))
  let () ← result (if access.generation ≠ verified.generation ∨
      access.directoryId ≠ verified.directoryId ∨ access.primaryNodeId ≠ verified.primaryNodeId then
    .error .backendBindingMismatch else .ok ())
  let backendGrant ← result
    ((backendGrant.withGrantCommitment verified.grantCommitment).mapError fun _ =>
      .backendBindingMismatch)
  let nowUnixMs ← clock
  let _ ← apply sessionId (.granted backendGrant) nowUnixMs
  let nowUnixMs ← clock
  apply sessionId (.accessBound access) nowUnixMs

/-- `install_controller_grant`, once the target key is bound. -/
def installBoundGrant (sessionId : SessionId) (verified : VerifiedWanSessionGrant) :
    Method digest TransitionResult := do
  let state ← snapshot sessionId
  if state.identity.targetKeyFingerprint ≠ some verified.targetKeyFingerprint then
    result (.error .verifiedGrantRequired)
  else if alreadyInstalled verified state then return .duplicate
  else if state.role ≠ .controller ∨ state.phase ≠ .awaitingConsent then
    result (.error .roleOrPhaseMismatch)
  else if state.intentCommitment ≠ some verified.intentCommitment then do
    let nowUnixMs ← clock
    let _ ← (apply sessionId (.awaitingConsent verified.intentCommitment) nowUnixMs).attempt
    result (.error .backendBindingMismatch)
  else do
    let outcome ← (grantWorkflow sessionId verified state.identity).attempt
    let nowUnixMs ← clock
    failWorkflowIfNeeded sessionId outcome nowUnixMs

def installControllerGrant (workflow : Bool) (sessionId : SessionId)
    (verified : VerifiedWanSessionGrant) : Method digest TransitionResult := do
  let () ← requireWorkflow workflow
  let id ← entry sessionId
  let initialState ← snapshot sessionId
  if baseIdentityMatches verified initialState.identity = false then
    result (.error .verifiedGrantRequired)
  else if initialState.identity.targetKeyFingerprint = none then do
    let bound : Except WanSessionModelError Unit ←
      take (.bindControllerTargetKey id verified.targetKeyFingerprint)
    let () ← result (bound.mapError fun _ => .verifiedGrantRequired)
    installBoundGrant sessionId verified
  else installBoundGrant sessionId verified

/-! ### Committing generation zero -/

/-- The installer failed: the session fails too, and the call reports a failed clean-up. -/
def failedInstall (sessionId : SessionId) (id : EntryId) : Method digest TransitionResult := do
  let nowUnixMs ← clock
  let failure : Transition × WanSessionState ← take (.failInstall id nowUnixMs)
  if failure.2.phase.isTerminal then do
    let () ← finalize sessionId id failure.1.toBool
    result (.error .cleanupFailed)
  else result (.error .cleanupFailed)

/-- An error because of a change during the install hides the transition. -/
def commitAnswer (transition : Transition) (invalidated : Option WanSessionCoordinatorError) : Answer :=
  match invalidated with
  | some error => .error error
  | none => transition.mapError .transition

/-- The installer succeeded: revalidate under the state lock, then advance or fail. -/
def finishCommit (sessionId : SessionId) (id : EntryId) (commit : Commit) :
    Method digest TransitionResult := do
  let nowUnixMs ← clock
  let finished : Transition × WanSessionState × Option WanSessionCoordinatorError ←
    take (.revalidate id commit nowUnixMs)
  if finished.2.1.phase.isTerminal then do
    let () ← finalize sessionId id (finished.2.1.phase = .failed)
    result (commitAnswer finished.1 finished.2.2)
  else result (commitAnswer finished.1 finished.2.2)

def commitGenerationZero (sessionId : SessionId) (commit : Commit) :
    Method digest TransitionResult := do
  let id ← entry sessionId
  let nowUnixMs ← clock
  let state ← read id
  let () ← result (Commit.precheck { commit with startedAtMs := nowUnixMs } state)
  let installed : Except WanSessionCoordinatorError Unit ← take (.install commit)
  match installed with
  | .error _ => failedInstall sessionId id
  | .ok () => finishCommit sessionId id commit

/-! ### Sweeps -/

def expireDueSessions : Method digest Nat := do
  let nowUnixMs ← clock
  let entries : List (SessionId × EntryId) ← take .sessions
  Interleaving.Method.forEach (fun listed expired => do
    let state ← read listed.2
    if Coordinator.isDue state nowUnixMs then do
      let _ ← (applyWithOperation listed.1 (.failed .deadlineExceeded)).attempt
      return expired + 1
    else return expired) entries 0

def shutdownActiveSessions : Method digest Nat := do
  let entries : List (SessionId × EntryId) ← take .sessions
  Interleaving.Method.forEach (fun listed closed => do
    let state ← read listed.2
    if state.phase.isTerminal then return closed
    else do
      let _ ← (applyWithOperation listed.1 (.failed .cancelled)).attempt
      return closed + 1) entries 0

/-! ### Calls -/

inductive Call
  | begin (state : WanSessionState) (built : state.Built)
  | startController (identity : WanSessionIdentity) (request : WanSessionRequest)
  | acceptVerifiedTargetIntent (verified : VerifiedWanSessionIntent)
  | approveTarget (sessionId : SessionId)
  | installControllerGrant (sessionId : SessionId) (verified : VerifiedWanSessionGrant)
  | beginNegotiation (sessionId : SessionId)
  | commitGenerationZero (sessionId : SessionId) (commit : Commit)
  | recordStreaming (sessionId : SessionId)
  | close (sessionId : SessionId)
  | fail (sessionId : SessionId) (failure : WanSessionFailure)
  | expireDueSessions
  | shutdownActiveSessions

/-- What a call returns. -/
inductive Returned
  | transition (transition : TransitionResult)
  | count (sessions : Nat)
  deriving DecidableEq

/-- A call that returns a transition result. -/
def returning (method : Method digest TransitionResult) : Method digest Returned := do
  let transition ← method
  return .transition transition

/-- A call that returns a number of sessions. -/
def counting (method : Method digest Nat) : Method digest Returned := do
  let sessions ← method
  return .count sessions

def Call.body (workflow : Bool) : Call → Method digest Returned
  | begin state built => returning (WanSessionCoordinator.begin state built)
  | startController identity request =>
    returning (WanSessionCoordinator.startController workflow identity request)
  | acceptVerifiedTargetIntent verified =>
    returning (WanSessionCoordinator.acceptVerifiedTargetIntent workflow verified)
  | approveTarget sessionId => returning (WanSessionCoordinator.approveTarget workflow sessionId)
  | installControllerGrant sessionId verified =>
    returning (WanSessionCoordinator.installControllerGrant workflow sessionId verified)
  | beginNegotiation sessionId => returning (applyWithOperation sessionId .negotiating)
  | commitGenerationZero sessionId commit =>
    returning (WanSessionCoordinator.commitGenerationZero sessionId commit)
  | recordStreaming sessionId => returning (applyWithOperation sessionId .streaming)
  | close sessionId => returning (applyWithOperation sessionId .closed)
  | fail sessionId failure => returning (applyWithOperation sessionId (.failed failure))
  | expireDueSessions => counting WanSessionCoordinator.expireDueSessions
  | shutdownActiveSessions => counting WanSessionCoordinator.shutdownActiveSessions

/-- **The coordinator**: any number of calls at once, and the clean-ups they start. -/
def system (digest : WanSessionRequest → String) (config : WanSessionCoordinatorConfig)
    (workflow : Bool) :
    System (interface digest) Call (Except WanSessionCoordinatorError Returned) Shared
      (Oracle digest) CleanupEvent where
  body := Call.body workflow
  exec := exec config
  background := background config

/-- The coordinator before its first call. -/
def start (digest : WanSessionRequest → String) :
    Machine (interface digest) Call (Except WanSessionCoordinatorError Returned) Shared :=
  ⟨Shared.new, []⟩

end WanSessionCoordinator

end MiniRemoteDesktop.Wan
