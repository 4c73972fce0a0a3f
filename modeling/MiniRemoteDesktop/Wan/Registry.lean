/-
**The shared state of the WAN session coordinator** (`mrd-service`, `wan_session/coordinator.rs`).

The registry maps a session id to its entry, counts the live sessions and queues the terminal ones.
An entry has a state of its own, under its own lock, and a clean-up that is started at most once; a
caller may go on using an entry that is no longer registered. What the source does while it holds one
of these locks is one `Action` here. The lock of an entry that serializes its calls only takes
interleavings away, and is left out: what holds without it holds with it.

* `WanBackendSessionSnapshot` — the backend's record of a session; only `new` builds one, so its
  commitment is that of its request.
* `VerifiedWanSessionIntent`, `VerifiedWanSessionGrant` — what the signaling runtime hands over.
* `Action`, `exec` — the critical sections and the calls of the ports; an `Oracle` answers for the
  clock, the ports, and the installer.
* `CleanupEvent`, `background` — the clean-up of an entry, as `run_cleanup` does it.
-/

import MiniRemoteDesktop.Wan.Coordinator
import MiniRemoteDesktop.Lib.Interleaving
import MiniRemoteDesktop.Lib.Table

namespace MiniRemoteDesktop.Wan

section

/-! ### Requests -/

/-- `SignalProtocolError::Malformed`, the only error of these checks. -/
inductive SignalProtocolError
  | malformed
  deriving DecidableEq

inductive WanAccessMode
  | attended
  deriving DecidableEq

/-- `validate_normalized_token`. A byte outside the set refuses the token, so surrounding blanks and
zero bytes do not need a test of their own. -/
def isNormalizedToken (value : String) (maximum : Nat) : Bool :=
  1 ≤ (Text.bytes value).length && (Text.bytes value).length ≤ maximum &&
    (Text.bytes value).all fun byte =>
      (97 ≤ byte && byte ≤ 122) || Text.isAsciiDigit byte || byte == 45 || byte == 95 || byte == 46 ||
        byte == 58 || byte == 43

def WanMediaProfile.validate (profile : WanMediaProfile) : Except SignalProtocolError Unit :=
  if profile.width = 0 ∨ 16384 < profile.width ∨ profile.height = 0 ∨ 16384 < profile.height ∨
      profile.fps = 0 ∨ 240 < profile.fps ∨ profile.bitrateMbps = 0 ∨ 1000 < profile.bitrateMbps then
    .error .malformed
  else if !isNormalizedToken profile.codec 32 then .error .malformed
  else if ([profile.codecProfile, profile.chromaSubsampling, profile.pixelFormat, profile.colorMode,
      profile.colorPipeline].filterMap id).any fun value => !isNormalizedToken value 64 then
    .error .malformed
  else if profile.bitDepth.any fun value => value != 8 && value != 10 then .error .malformed
  else .ok ()

/-- `WanSessionRequestV3`. -/
structure WanSessionRequest where
  sessionId : SessionId
  idempotencyKey : Vector UInt8 16
  (controllerDeviceId targetDeviceId : DeviceId)
  accessMode : WanAccessMode
  requestedScopes : List WanPermissionScope
  requestedProfile : Option WanMediaProfile
  routePolicy : WanRoutePolicy
  deriving DecidableEq

namespace WanSessionRequest

def maxScopes : Nat := 32

def validate (request : WanSessionRequest) : Except SignalProtocolError Unit :=
  if !Text.isIdentifier 128 request.sessionId.value ||
      !Text.isIdentifier 128 request.controllerDeviceId.value ||
      !Text.isIdentifier 128 request.targetDeviceId.value then .error .malformed
  else if request.idempotencyKey = Vector.replicate 16 0 ∨
      request.controllerDeviceId = request.targetDeviceId ∨
      ¬ (request.requestedScopes.IsChain fun first second => first.ctorIdx < second.ctorIdx) ∨
      request.requestedScopes = [] ∨ maxScopes < request.requestedScopes.length then
    .error .malformed
  else match request.requestedProfile with
    | some profile => profile.validate
    | none => .ok ()

/-- The cross-language commitment of a request. -/
def commitment (digest : WanSessionRequest → String) (request : WanSessionRequest) :
    Except SignalProtocolError String := do
  request.validate
  return digest request

end WanSessionRequest

def requestMatchesIdentity (identity : WanSessionIdentity) (request : WanSessionRequest) : Bool :=
  request.sessionId == identity.binding.sessionId &&
    request.controllerDeviceId == identity.binding.controllerDeviceId &&
    request.targetDeviceId == identity.binding.targetDeviceId

def validateRequestIdentity (identity : WanSessionIdentity) (request : WanSessionRequest) :
    Except WanSessionCoordinatorError Unit :=
  match request.validate with
  | .error _ => .error .backendBindingMismatch
  | .ok () =>
    if request.accessMode ≠ .attended ∨ requestMatchesIdentity identity request = false then
      .error .backendBindingMismatch
    else .ok ()

/-! ### The backend's record -/

inductive WanSessionStatus
  | requested
  | approved
  | rejected
  | expired
  | closed
  | revoked
  deriving DecidableEq

def approvedProfileWithin (approved requested : Option WanMediaProfile) : Bool :=
  match approved, requested with
  | none, _ => true
  | some _, none => false
  | some approved, some requested =>
    approved.width ≤ requested.width && approved.height ≤ requested.height &&
      approved.fps ≤ requested.fps && approved.bitrateMbps ≤ requested.bitrateMbps &&
      approved.codec == requested.codec && approved.codecProfile == requested.codecProfile &&
      approved.bitDepth == requested.bitDepth &&
      approved.chromaSubsampling == requested.chromaSubsampling &&
      approved.pixelFormat == requested.pixelFormat && approved.hdrEnabled == requested.hdrEnabled &&
      approved.colorMode == requested.colorMode && approved.colorPipeline == requested.colorPipeline

/-- **A record of the backend**, as `new` accepts it. -/
structure WanBackendSessionSnapshot (digest : WanSessionRequest → String) where
  request : WanSessionRequest
  requestCommitment : String
  status : WanSessionStatus
  grant : Option GrantBinding
  committed : request.commitment digest = .ok requestCommitment
  requestedBare : status = .requested → grant = none
  approvedGrant : status = .approved → grant ≠ none
  grantCommitted : ∀ binding ∈ grant, binding.requestCommitment = requestCommitment
  grantWithin : ∀ binding ∈ grant, (∀ scope ∈ binding.approvedScopes, scope ∈ request.requestedScopes) ∧
      approvedProfileWithin binding.approvedProfile request.requestedProfile

namespace WanBackendSessionSnapshot

variable {digest : WanSessionRequest → String}

def verifyRequested (snapshot : WanBackendSessionSnapshot digest) (identity : WanSessionIdentity)
    (request : WanSessionRequest) : Except WanSessionCoordinatorError Unit :=
  if snapshot.status ≠ .requested ∨ snapshot.request ≠ request ∨
      requestMatchesIdentity identity request = false then .error .backendBindingMismatch
  else .ok ()

def verifyApproved (snapshot : WanBackendSessionSnapshot digest) (identity : WanSessionIdentity) :
    Except WanSessionCoordinatorError GrantBinding :=
  if snapshot.status ≠ .approved ∨ requestMatchesIdentity identity snapshot.request = false then
    .error .backendBindingMismatch
  else match snapshot.grant with
    | some grant => .ok grant
    | none => .error .backendBindingMismatch

/-- A verified request is the one whose commitment the record carries. -/
theorem verifyRequested_commitment {snapshot : WanBackendSessionSnapshot digest}
    {identity : WanSessionIdentity} {request : WanSessionRequest}
    (verified : snapshot.verifyRequested identity request = .ok ()) :
    request.commitment digest = .ok snapshot.requestCommitment := by
  unfold verifyRequested at verified
  split at verified
  · cases verified
  next passed =>
    have same : snapshot.request = request := by
      by_contra different
      exact passed (.inr (.inl different))
    simp [← same, snapshot.committed]

end WanBackendSessionSnapshot

/-- `WanSessionApproval` of `backend.rs`. -/
structure WanSessionApproval where
  approvedScopes : List WanPermissionScope
  approvedProfile : Option WanMediaProfile

/-! ### Verified messages -/

structure VerifiedWanSessionIntent where
  identity : WanSessionIdentity
  request : WanSessionRequest
  (requestCommitment intentCommitment : String)

structure VerifiedWanSessionGrant where
  sessionId : SessionId
  (controllerDeviceId targetDeviceId : DeviceId)
  (targetKeyFingerprint controllerKeyFingerprint intentCommitment grantCommitment : String)
  expiresAtMs : Nat
  approvedScopes : List WanPermissionScope
  approvedProfile : Option WanMediaProfile
  (policyRevision policyExpiresAtMs generation : Nat)
  (directoryId primaryNodeId : String)
  routePolicy : WanRoutePolicy

end

/-- A state that was built by the operations of a session; its fields are private. -/
def WanSessionState.Built (state : WanSessionState) : Prop :=
  ∃ role identity operations, state = (WanSessionState.new role identity).performAll operations

namespace Coordinator.Commit

/-- What the second section of `commit_generation_zero` applies. -/
def eventAt (commit : Commit) (nowUnixMs : Nat) (state : WanSessionState) : WanSessionEvent :=
  if commit.DeadlineInvalidated nowUnixMs then .failed .deadlineExceeded
  else if commit.BindingInvalidated state then .failed .routeMismatch
  else .relayVerified commit.proof

/-- The error it reports because the session changed during the install. -/
def invalidatedAt (commit : Commit) (nowUnixMs : Nat) (state : WanSessionState) :
    Option WanSessionCoordinatorError :=
  if commit.DeadlineInvalidated nowUnixMs then some .deadlineExceeded
  else if commit.BindingInvalidated state then some .backendBindingMismatch
  else none

end Coordinator.Commit

namespace WanSessionCoordinator

open Coordinator (Answer Cleanup Commit)

/-! ### The state -/

structure WanSessionCoordinatorConfig where
  (maxSessions maxTerminalSessions : Nat)

/-- The callbacks of `WanSessionCleanup`. -/
inductive CleanupCall
  | freezeInput
  | stopMedia
  | closeTransport
  | removeFailover
  | clearSignaling
  | closeBackend (failed : Bool)
  deriving DecidableEq

/-- The calls of one clean-up, in order. -/
def cleanupCalls (failed : Bool) : List CleanupCall :=
  [.freezeInput, .stopMedia, .closeTransport, .removeFailover, .clearSignaling, .closeBackend failed]

/-- `CleanupReceipt`, with how far its task has come. -/
structure CleanupReceipt where
  sessionId : SessionId
  failed : Bool
  pending : List CleanupCall
  firstError : Option WanSessionCoordinatorError
  recorded : Bool
  result : Option Cleanup

structure SessionEntry where
  state : WanSessionState
  cleanupReceipt : Option CleanupReceipt

/-- An `Arc<SessionEntry>`: the position of the entry among all that were ever begun. -/
abbrev EntryId := Nat

structure Registry where
  sessions : AList fun _ : SessionId => EntryId
  activeSessions : Nat
  terminalOrder : List SessionId

structure Shared where
  registry : Registry
  entries : List SessionEntry
  /-- The clean-up calls made so far. -/
  calls : List (EntryId × CleanupCall)

def Shared.new : Shared := ⟨⟨∅, 0, []⟩, [], []⟩

def SessionEntry.sessionId (entry : SessionEntry) : SessionId := entry.state.identity.binding.sessionId

/-- The clean-up has been through its registry section. -/
def SessionEntry.retired (entry : SessionEntry) : Bool :=
  entry.cleanupReceipt.any CleanupReceipt.recorded

/-! ### Actions -/

abbrev Transition := Except WanSessionTransitionError TransitionResult

/-- What `begin` answers, and the entry it made or found. -/
structure Begun where
  result : TransitionResult
  entry : EntryId

/-- **The critical sections** of the coordinator's methods, and their calls of the ports. -/
inductive Action
  | now
  | begin (state : WanSessionState) (built : state.Built)
  | entry (sessionId : SessionId)
  | sessions
  | read (entry : EntryId)
  | apply (entry : EntryId) (event : WanSessionEvent) (nowUnixMs : Nat)
  /-- After a failed install. -/
  | failInstall (entry : EntryId) (nowUnixMs : Nat)
  /-- After a successful one. -/
  | revalidate (entry : EntryId) (commit : Commit) (nowUnixMs : Nat)
  | bindControllerTargetKey (entry : EntryId) (fingerprint : String)
  /-- `get_or_init`: start the clean-up unless it was started. -/
  | finalize (sessionId : SessionId) (entry : EntryId) (failed : Bool)
  | cleanupResult (entry : EntryId)
  | install (commit : Commit)
  | create (request : WanSessionRequest) (deadline : Nat)
  | inspect (binding : WanSessionBinding) (deadline : Nat)
  | approve (binding : WanSessionBinding) (approval : WanSessionApproval) (deadline : Nat)
  | accessGenerationZero (binding : WanSessionBinding) (policyRevision deadline : Nat)
  | sendIntent (identity : WanSessionIdentity) (request : WanSessionRequest)
      (requestCommitment : String) (deadline : Nat)
  | sendGrantWithCommitment (identity : WanSessionIdentity) (intentCommitment : String)
      (grant : GrantBinding) (access : RelayAccessBinding) (deadline : Nat)
  | publishAttendedRequest (identity : WanSessionIdentity) (request : WanSessionRequest)
      (deadline : Nat)
  | loadAttendedApproval (identity : WanSessionIdentity) (deadline : Nat)

variable (digest : WanSessionRequest → String)

def Action.Reply : Action → Type
  | now => Nat
  | begin _ _ => Except WanSessionCoordinatorError Begun
  | entry _ => Option EntryId
  | sessions => List (SessionId × EntryId)
  | read _ => WanSessionState
  | apply _ _ _ | failInstall _ _ => Transition × WanSessionState
  | revalidate _ _ _ => Transition × WanSessionState × Option WanSessionCoordinatorError
  | bindControllerTargetKey _ _ => Except WanSessionModelError Unit
  | finalize _ _ _ => Unit
  | cleanupResult _ => Cleanup
  | install _ => Except WanSessionCoordinatorError Unit
  | create _ _ | inspect _ _ | approve _ _ _ =>
    Except WanSessionPortError (WanBackendSessionSnapshot digest)
  | accessGenerationZero _ _ _ => Except WanSessionPortError RelayAccessBinding
  | sendIntent _ _ _ _ | sendGrantWithCommitment _ _ _ _ _ => Except WanSessionPortError String
  | publishAttendedRequest _ _ _ => Except WanSessionPortError Unit
  | loadAttendedApproval _ _ => Except WanSessionPortError WanSessionApproval

abbrev interface : Interleaving.Interface := ⟨Action, Action.Reply digest⟩

/-- The answers that the shared state does not determine. -/
inductive Oracle
  | none
  | clock (nowUnixMs : Nat)
  | installed (result : Except WanSessionCoordinatorError Unit)
  | snapshot (reply : Except WanSessionPortError (WanBackendSessionSnapshot digest))
  | access (reply : Except WanSessionPortError RelayAccessBinding)
  | commitment (reply : Except WanSessionPortError String)
  | published (reply : Except WanSessionPortError Unit)
  | approval (reply : Except WanSessionPortError WanSessionApproval)
  /-- The clean-up task is gone without a result. -/
  | lost

/-! ### Critical sections -/

/-- The registry section of `begin`. -/
def Shared.begin (config : WanSessionCoordinatorConfig) (shared : Shared) (state : WanSessionState) :
    Option (Except WanSessionCoordinatorError Begun × Shared) :=
  let sessionId := state.identity.binding.sessionId
  match shared.registry.sessions.lookup sessionId with
  | some id =>
    shared.entries[id]?.map fun existing =>
      if existing.state.role = state.role ∧ existing.state.identity = state.identity then
        (.ok ⟨.duplicate, id⟩, shared)
      else (.error .sessionConflict, shared)
  | none =>
    if config.maxSessions ≤ shared.registry.activeSessions then
      some (.error .capacityExceeded, shared)
    else
      some (.ok ⟨.applied, shared.entries.length⟩, { shared with
          entries := shared.entries ++ [⟨state, none⟩]
          registry.sessions := shared.registry.sessions.insert sessionId shared.entries.length
          registry.activeSessions := shared.registry.activeSessions + 1 })

/-- A section under the state lock of an entry. -/
def Shared.update {α : Type} (shared : Shared) (id : EntryId)
    (body : WanSessionState → WanSessionState × α) : Option (α × Shared) :=
  shared.entries[id]?.map fun entry =>
    ((body entry.state).2,
      { shared with entries := shared.entries.set id { entry with state := (body entry.state).1 } })

/-- `state.apply(event, now)`, with the state it leaves. -/
def applySection (event : WanSessionEvent) (nowUnixMs : Nat) (state : WanSessionState) :
    WanSessionState × (Transition × WanSessionState) :=
  let (next, transition) := state.apply event nowUnixMs
  (next, transition, next)

def revalidateSection (commit : Commit) (nowUnixMs : Nat) (state : WanSessionState) :
    WanSessionState × (Transition × WanSessionState × Option WanSessionCoordinatorError) :=
  let (next, transition) := state.apply (commit.eventAt nowUnixMs state) nowUnixMs
  (next, transition, next, commit.invalidatedAt nowUnixMs state)

def Shared.finalize (shared : Shared) (sessionId : SessionId) (id : EntryId) (failed : Bool) :
    Option (Unit × Shared) :=
  shared.entries[id]?.map fun entry =>
    match entry.cleanupReceipt with
    | some _ => ((), shared)
    | none =>
      ((), { shared with
        entries := shared.entries.set id { entry with
            cleanupReceipt := some ⟨sessionId, failed, cleanupCalls failed, none, false, none⟩ } })

variable {digest}

/-- What an action does, and what it is answered. -/
def exec (config : WanSessionCoordinatorConfig) (shared : Shared) (action : Action)
    (oracle : Oracle digest) : Option (action.Reply digest × Shared) :=
  match action with
  | .now => match oracle with
    | .clock nowUnixMs => some (nowUnixMs, shared)
    | _ => none
  | .begin state _ => shared.begin config state
  | .entry sessionId => some (shared.registry.sessions.lookup sessionId, shared)
  | .sessions => some (shared.registry.sessions.entries.map fun listed => (listed.1, listed.2), shared)
  | .read id => shared.entries[id]?.map fun entry => (entry.state, shared)
  | .apply id event nowUnixMs => shared.update id (applySection event nowUnixMs)
  | .failInstall id nowUnixMs => shared.update id (applySection (.failed .transport) nowUnixMs)
  | .revalidate id commit nowUnixMs => shared.update id (revalidateSection commit nowUnixMs)
  | .bindControllerTargetKey id fingerprint =>
    shared.update id fun state => state.bindControllerTargetKey fingerprint
  | .finalize sessionId id failed => shared.finalize sessionId id failed
  | .cleanupResult id => match oracle, (shared.entries[id]?).bind SessionEntry.cleanupReceipt with
    | .none, some receipt => receipt.result.map fun result => (result, shared)
    | .lost, some _ => some (.error .taskJoinFailed, shared)
    | _, _ => none
  | .install _ => match oracle with
    | .installed result => some (result, shared)
    | _ => none
  | .create _ _ | .inspect _ _ | .approve _ _ _ => match oracle with
    | .snapshot reply => some (reply, shared)
    | _ => none
  | .accessGenerationZero _ _ _ => match oracle with
    | .access reply => some (reply, shared)
    | _ => none
  | .sendIntent _ _ _ _ | .sendGrantWithCommitment _ _ _ _ _ => match oracle with
    | .commitment reply => some (reply, shared)
    | _ => none
  | .publishAttendedRequest _ _ _ => match oracle with
    | .published reply => some (reply, shared)
    | _ => none
  | .loadAttendedApproval _ _ => match oracle with
    | .approval reply => some (reply, shared)
    | _ => none

/-! ### The clean-up of an entry -/

/-- The steps of `run_cleanup`; joining a task of the session may report one more error. -/
inductive CleanupEvent
  | called (entry : EntryId) (result : Cleanup)
  | joined (entry : EntryId) (error : WanSessionCoordinatorError)
  | recorded (entry : EntryId)
  | published (entry : EntryId)

/-- Remove the oldest terminal sessions beyond the limit. -/
def evict (limit : Nat) (sessions : AList fun _ : SessionId => EntryId) :
    List SessionId → (AList fun _ : SessionId => EntryId) × List SessionId
  | [] => (sessions, [])
  | expired :: rest =>
    if limit < (expired :: rest).length then evict limit (sessions.erase expired) rest
    else (sessions, expired :: rest)

/-- The registry section at the end of `run_cleanup`. -/
def Registry.retire (config : WanSessionCoordinatorConfig) (registry : Registry)
    (sessionId : SessionId) : Registry :=
  let (sessions, terminalOrder) := evict config.maxTerminalSessions registry.sessions
    (registry.terminalOrder ++ [sessionId])
  ⟨sessions, registry.activeSessions - 1, terminalOrder⟩

def Shared.setReceipt (shared : Shared) (id : EntryId) (entry : SessionEntry)
    (receipt : CleanupReceipt) : Shared :=
  { shared with entries := shared.entries.set id { entry with cleanupReceipt := some receipt } }

def firstErrorOf (first : Option WanSessionCoordinatorError) (result : Cleanup) :
    Option WanSessionCoordinatorError :=
  match first, result with
  | none, .error error => some error
  | first, _ => first

def CleanupReceipt.outcome (receipt : CleanupReceipt) : Cleanup :=
  match receipt.firstError with
  | some error => .error error
  | none => .ok ()

def CleanupEvent.entry : CleanupEvent → EntryId
  | called id _ | joined id _ | recorded id | published id => id

/-- One step of a clean-up. -/
def CleanupEvent.perform (config : WanSessionCoordinatorConfig) (shared : Shared)
    (entry : SessionEntry) (receipt : CleanupReceipt) : CleanupEvent → Option Shared
  | called id result => match receipt.pending with
    | [] => none
    | call :: rest =>
      some { shared.setReceipt id entry
          { receipt with pending := rest, firstError := firstErrorOf receipt.firstError result } with
        calls := shared.calls ++ [(id, call)] }
  | joined id error =>
    if receipt.pending = [] ∧ receipt.recorded = false then
      some (shared.setReceipt id entry
        { receipt with firstError := firstErrorOf receipt.firstError (.error error) })
    else none
  | recorded id =>
    if receipt.pending = [] ∧ receipt.recorded = false then
      some { shared.setReceipt id entry { receipt with recorded := true } with
        registry := shared.registry.retire config receipt.sessionId }
    else none
  | published id =>
    if receipt.recorded ∧ receipt.result = none then
      some (shared.setReceipt id entry { receipt with result := some receipt.outcome })
    else none

def background (config : WanSessionCoordinatorConfig) (shared : Shared) (event : CleanupEvent) :
    Option Shared := do
  let entry ← shared.entries[event.entry]?
  let receipt ← entry.cleanupReceipt
  event.perform config shared entry receipt

end WanSessionCoordinator

end MiniRemoteDesktop.Wan
