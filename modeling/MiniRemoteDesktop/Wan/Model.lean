/-
**The WAN session state machine** (`mrd-service`, `wan_session/model.rs`).

A session moves `Created → BackendBound → AwaitingConsent → Granted → AccessBound → Negotiating →
RelayVerified → Streaming`, one phase per accepted event, and may leave any of them for `Closed` or
`Failed`. Each step binds what the next ones are checked against: the request commitment, the
intent, the grant, the relay access, the route proof.

`WanSessionState.apply` is the one transition function; `bindControllerTargetKey` fixes the
controller's view of the target key. `apply_cases` says once everything a call of `apply` can do.
-/

import MiniRemoteDesktop.Lib.Text
import MiniRemoteDesktop.Proto
import Mathlib.Data.List.Basic

namespace MiniRemoteDesktop.Wan

/-! ### Identities and bindings -/

def digestHexBytes : Nat := 64
def maxRouteIdentifierBytes : Nat := 128
def maxSessionIdBytes : Nat := 36
def maxDeviceIdBytes : Nat := 64

def isDigest (value : String) : Bool := Text.isLowerHex digestHexBytes value

def isSafeRouteIdentifier (value : String) : Bool := Text.isIdentifier maxRouteIdentifierBytes value

inductive WanSessionModelError
  | invalidIdentity
  | invalidPolicy
  | invalidRoute

inductive WanSessionRole
  | controller
  | target
  deriving DecidableEq

inductive WanSessionPhase
  | created
  | backendBound
  | awaitingConsent
  | granted
  | accessBound
  | negotiating
  | relayVerified
  | streaming
  | closed
  | failed
  deriving DecidableEq

namespace WanSessionPhase

/-- The position in the derived order of the phases. -/
@[simp] def rank : WanSessionPhase → Nat
  | created => 0
  | backendBound => 1
  | awaitingConsent => 2
  | granted => 3
  | accessBound => 4
  | negotiating => 5
  | relayVerified => 6
  | streaming => 7
  | closed => 8
  | failed => 9

def next : WanSessionPhase → Option WanSessionPhase
  | created => some backendBound
  | backendBound => some awaitingConsent
  | awaitingConsent => some granted
  | granted => some accessBound
  | accessBound => some negotiating
  | negotiating => some relayVerified
  | relayVerified => some streaming
  | streaming | closed | failed => none

def isTerminal : WanSessionPhase → Bool
  | closed | failed => true
  | _ => false

end WanSessionPhase

inductive WanSessionFailure
  | invalidTransition
  | conflictingDuplicate
  | deadlineExceeded
  | identityMismatch
  | policyMismatch
  | routeMismatch
  | capacityExceeded
  | retryBudgetExceeded
  | bufferCapacityExceeded
  | transport
  | cancelled
  | internal
  deriving DecidableEq

/-- `WanSessionBinding` of `backend.rs`: three safe identifiers, the two devices distinct. -/
structure WanSessionBinding where
  sessionId : SessionId
  (controllerDeviceId targetDeviceId : DeviceId)
  sessionValid : Text.isIdentifier maxSessionIdBytes sessionId.value
  controllerValid : Text.isIdentifier maxDeviceIdBytes controllerDeviceId.value
  targetValid : Text.isIdentifier maxDeviceIdBytes targetDeviceId.value
  distinct : controllerDeviceId ≠ targetDeviceId
  deriving DecidableEq

/-- **Who takes part, and until when.** A controller may not know the target's key yet. -/
structure WanSessionIdentity where
  binding : WanSessionBinding
  controllerKeyFingerprint : String
  targetKeyFingerprint : Option String
  deadlineUnixMs : Nat
  controllerKeyValid : isDigest controllerKeyFingerprint
  targetKeyValid : ∀ fingerprint, targetKeyFingerprint = some fingerprint →
    isDigest fingerprint ∧ controllerKeyFingerprint ≠ fingerprint
  deadlinePositive : deadlineUnixMs ≠ 0

namespace WanSessionIdentity

@[ext] theorem ext {first second : WanSessionIdentity} (binding : first.binding = second.binding)
    (controllerKey : first.controllerKeyFingerprint = second.controllerKeyFingerprint)
    (targetKey : first.targetKeyFingerprint = second.targetKeyFingerprint)
    (deadline : first.deadlineUnixMs = second.deadlineUnixMs) : first = second := by
  cases first
  cases second
  simp_all

instance : DecidableEq WanSessionIdentity := fun first second =>
  decidable_of_iff (first.binding = second.binding ∧
      first.controllerKeyFingerprint = second.controllerKeyFingerprint ∧
      first.targetKeyFingerprint = second.targetKeyFingerprint ∧
      first.deadlineUnixMs = second.deadlineUnixMs)
    ⟨fun same => WanSessionIdentity.ext same.1 same.2.1 same.2.2.1 same.2.2.2,
      fun same => by subst same; exact ⟨rfl, rfl, rfl, rfl⟩⟩

/-- Bind the target key once; binding the same key again is accepted and changes nothing. -/
def bindTargetKeyFingerprint (identity : WanSessionIdentity) (fingerprint : String) :
    WanSessionIdentity × Except WanSessionModelError Unit :=
  if valid : isDigest fingerprint ∧ fingerprint ≠ identity.controllerKeyFingerprint then
    match identity.targetKeyFingerprint with
    | some existing =>
      if existing ≠ fingerprint then (identity, .error .invalidIdentity) else (identity, .ok ())
    | none =>
      ({ identity with
          targetKeyFingerprint := some fingerprint
          targetKeyValid := fun _ same => Option.some.inj same ▸ ⟨valid.1, fun h => valid.2 h.symm⟩ },
        .ok ())
  else (identity, .error .invalidIdentity)

end WanSessionIdentity

inductive WanRoutePolicy
  | relayOnly
  | directFirst
  deriving DecidableEq

/-- `WanPermissionScopeV3`, in the order its derived `Ord` compares them. -/
inductive WanPermissionScope
  | audioListen
  | audioTalk
  | clipboardRead
  | clipboardWrite
  | displayMultiView
  | displaySwitch
  | fileRead
  | fileWrite
  | inputKeyboard
  | inputPointer
  | powerRestart
  | powerShutdown
  | privacyBlankScreen
  | privacyBlockLocalInput
  | screenView
  | secureDesktopControl
  | secureDesktopView
  | terminalOpen
  deriving DecidableEq

structure WanMediaProfile where
  (width height fps bitrateMbps : Nat)
  codec : String
  codecProfile : Option String
  bitDepth : Option Nat
  (chromaSubsampling pixelFormat : Option String)
  hdrEnabled : Option Bool
  (colorMode colorPipeline : Option String)
  deriving DecidableEq

/-- **An approved policy.** `grantCommitment` is set only once a signed grant was verified. -/
structure GrantBinding where
  requestCommitment : String
  grantCommitment : Option String
  approvedScopes : List WanPermissionScope
  approvedProfile : Option WanMediaProfile
  (policyRevision policyExpiresAtMs grantExpiresAtMs : Nat)
  routePolicy : WanRoutePolicy
  commitmentValid : isDigest requestCommitment
  scopesNonempty : approvedScopes ≠ []
  scopesSorted : approvedScopes.IsChain fun first second => first.ctorIdx < second.ctorIdx
  revisionPositive : policyRevision ≠ 0
  expiryPositive : grantExpiresAtMs ≠ 0
  grantWithinPolicy : grantExpiresAtMs ≤ policyExpiresAtMs
  deriving DecidableEq

namespace GrantBinding

def withGrantCommitment (grant : GrantBinding) (grantCommitment : String) :
    Except WanSessionModelError GrantBinding :=
  if isDigest grantCommitment then .ok { grant with grantCommitment := some grantCommitment }
  else .error .invalidPolicy

end GrantBinding

/-- **The relay access of generation zero.** No other generation can be built. -/
structure RelayAccessBinding where
  (policyRevision generation : Nat)
  (directoryId primaryNodeId relayUrlDigest : String)
  revisionPositive : policyRevision ≠ 0
  generationZero : generation = 0
  directoryValid : isSafeRouteIdentifier directoryId
  nodeValid : isSafeRouteIdentifier primaryNodeId
  digestValid : isDigest relayUrlDigest
  deriving DecidableEq

/-- **Evidence of the selected route.** Under `RelayOnly` both candidates are relayed. -/
structure RelayRouteProof where
  access : RelayAccessBinding
  routePolicy : WanRoutePolicy
  (localCandidateRelayed remoteCandidateRelayed : Bool)
  relayed : routePolicy = .relayOnly → localCandidateRelayed ∧ remoteCandidateRelayed
  deriving DecidableEq

namespace RelayRouteProof

def isRelayToRelay (proof : RelayRouteProof) : Bool :=
  proof.localCandidateRelayed && proof.remoteCandidateRelayed

end RelayRouteProof

/-! ### Events and states -/

inductive WanSessionEvent
  | backendBound (requestCommitment : String)
  | awaitingConsent (intentCommitment : String)
  | granted (grant : GrantBinding)
  | accessBound (access : RelayAccessBinding)
  | negotiating
  | relayVerified (proof : RelayRouteProof)
  | streaming
  | closed
  | failed (failure : WanSessionFailure)
  deriving DecidableEq

@[simp] def WanSessionEvent.targetPhase : WanSessionEvent → WanSessionPhase
  | backendBound _ => .backendBound
  | awaitingConsent _ => .awaitingConsent
  | granted _ => .granted
  | accessBound _ => .accessBound
  | negotiating => .negotiating
  | relayVerified _ => .relayVerified
  | streaming => .streaming
  | closed => .closed
  | failed _ => .failed

inductive TransitionResult
  | applied
  | duplicate
  deriving DecidableEq

inductive WanSessionTransitionError
  | rejected (failure : WanSessionFailure)
  | terminal
  deriving DecidableEq

structure WanSessionState where
  role : WanSessionRole
  identity : WanSessionIdentity
  phase : WanSessionPhase
  acceptedEvents : List WanSessionEvent
  (requestCommitment intentCommitment : Option String)
  grant : Option GrantBinding
  access : Option RelayAccessBinding
  routeProof : Option RelayRouteProof
  failure : Option WanSessionFailure

namespace WanSessionState

def new (role : WanSessionRole) (identity : WanSessionIdentity) : WanSessionState where
  role := role
  identity := identity
  phase := .created
  acceptedEvents := []
  requestCommitment := none
  intentCommitment := none
  grant := none
  access := none
  routeProof := none
  failure := none

def bindControllerTargetKey (state : WanSessionState) (fingerprint : String) :
    WanSessionState × Except WanSessionModelError Unit :=
  if state.role ≠ .controller ∨
      ¬ (state.phase = .created ∨ state.phase = .backendBound ∨ state.phase = .awaitingConsent) then
    (state, .error .invalidIdentity)
  else
    let (identity, result) := state.identity.bindTargetKeyFingerprint fingerprint
    ({ state with identity := identity }, result)

def setTerminalFailure (state : WanSessionState) (failure : WanSessionFailure) : WanSessionState :=
  { state with
    phase := .failed
    failure := some failure
    acceptedEvents := state.acceptedEvents ++ [.failed failure] }

def fail (state : WanSessionState) (failure : WanSessionFailure) :
    WanSessionState × Except WanSessionTransitionError TransitionResult :=
  (state.setTerminalFailure failure, .error (.rejected failure))

/-- The binding an event installs, or the failure its check reports. `Closed` and `Failed` are
handled before this point. -/
def bindEvent (state : WanSessionState) (nowUnixMs : Nat) :
    WanSessionEvent → Except WanSessionFailure WanSessionState
  | .backendBound requestCommitment =>
    if isDigest requestCommitment then
      .ok { state with requestCommitment := some requestCommitment }
    else .error .identityMismatch
  | .awaitingConsent intentCommitment =>
    if isDigest intentCommitment then .ok { state with intentCommitment := some intentCommitment }
    else .error .identityMismatch
  | .granted grant =>
    if state.requestCommitment = some grant.requestCommitment ∧
        nowUnixMs < grant.grantExpiresAtMs ∧ nowUnixMs < grant.policyExpiresAtMs ∧
        grant.grantExpiresAtMs ≤ state.identity.deadlineUnixMs then
      .ok { state with grant := some grant }
    else .error .policyMismatch
  | .accessBound access =>
    if (state.grant.any fun grant => grant.policyRevision == access.policyRevision) ∧
        access.generation = 0 then
      .ok { state with access := some access }
    else .error .routeMismatch
  | .negotiating => .ok state
  | .relayVerified proof =>
    if (state.grant.any fun grant => grant.routePolicy == proof.routePolicy) ∧
        (proof.routePolicy = .directFirst ∨ proof.isRelayToRelay) ∧
        state.access = some proof.access then
      .ok { state with routeProof := some proof }
    else .error .routeMismatch
  | .streaming => if state.routeProof.isSome then .ok state else .error .routeMismatch
  | .closed | .failed _ => .ok state

/-- **The transition function of a session.** -/
def apply (state : WanSessionState) (event : WanSessionEvent) (nowUnixMs : Nat) :
    WanSessionState × Except WanSessionTransitionError TransitionResult :=
  if event ∈ state.acceptedEvents then (state, .ok .duplicate)
  else if state.phase.isTerminal then (state, .error .terminal)
  else if state.identity.deadlineUnixMs ≤ nowUnixMs then state.fail .deadlineExceeded
  else if event.targetPhase.rank ≤ state.phase.rank then state.fail .conflictingDuplicate
  else match event with
    | .failed failure => (state.setTerminalFailure failure, .ok .applied)
    | .closed =>
      ({ state with phase := .closed, acceptedEvents := state.acceptedEvents ++ [.closed] },
        .ok .applied)
    | event =>
      if state.phase.next ≠ some event.targetPhase then state.fail .invalidTransition
      else match state.bindEvent nowUnixMs event with
        | .error failure => state.fail failure
        | .ok bound =>
          ({ bound with
              phase := event.targetPhase
              acceptedEvents := state.acceptedEvents ++ [event] },
            .ok .applied)

/-! ### Everything a call can do -/

/-- The state after an accepted event of the regular order. -/
def advance (state bound : WanSessionState) (event : WanSessionEvent) : WanSessionState :=
  { bound with phase := event.targetPhase, acceptedEvents := state.acceptedEvents ++ [event] }

/-- The state after an accepted `Closed`. -/
def close (state : WanSessionState) : WanSessionState :=
  { state with phase := .closed, acceptedEvents := state.acceptedEvents ++ [.closed] }

variable (state : WanSessionState) (event : WanSessionEvent) (nowUnixMs : Nat) in
/-- **The outcomes of `apply`**: what it answers, what it leaves, and which checks passed. -/
inductive Outcome :
    WanSessionState × Except WanSessionTransitionError TransitionResult → Prop
  | duplicate : event ∈ state.acceptedEvents → Outcome (state, .ok .duplicate)
  | terminal : state.phase.isTerminal → Outcome (state, .error .terminal)
  | rejected (failure : WanSessionFailure) : state.phase.isTerminal = false →
      Outcome (state.setTerminalFailure failure, .error (.rejected failure))
  | failed (failure : WanSessionFailure) : state.phase.isTerminal = false →
      nowUnixMs < state.identity.deadlineUnixMs → event = .failed failure →
      Outcome (state.setTerminalFailure failure, .ok .applied)
  | closed : state.phase.isTerminal = false → nowUnixMs < state.identity.deadlineUnixMs →
      event = .closed → Outcome (state.close, .ok .applied)
  | advanced (bound : WanSessionState) : state.phase.isTerminal = false →
      nowUnixMs < state.identity.deadlineUnixMs →
      state.phase.next = some event.targetPhase → state.bindEvent nowUnixMs event = .ok bound →
      Outcome (state.advance bound event, .ok .applied)

theorem apply_outcome (state : WanSessionState) (event : WanSessionEvent) (nowUnixMs : Nat) :
    Outcome state event nowUnixMs (state.apply event nowUnixMs) := by
  unfold apply
  split
  next member =>
    exact .duplicate member
  split
  next terminal =>
    exact .terminal terminal
  rename_i live
  have live : state.phase.isTerminal = false := Bool.eq_false_iff.mpr live
  split
  · exact .rejected _ live
  rename_i early
  have early : nowUnixMs < state.identity.deadlineUnixMs := Nat.lt_of_not_le early
  split
  · exact .rejected _ live
  split
  · exact .failed _ live early rfl
  · exact .closed live early rfl
  · split
    · exact .rejected _ live
    rename_i order
    have order : state.phase.next = some event.targetPhase := not_not.mp order
    split
    · exact .rejected _ live
    next bound bind =>
      exact .advanced bound live early order bind

theorem bindEvent_frame {state bound : WanSessionState} {event : WanSessionEvent} {nowUnixMs : Nat}
    (bind : state.bindEvent nowUnixMs event = .ok bound) :
    bound.role = state.role ∧ bound.identity = state.identity ∧ bound.phase = state.phase ∧
      bound.acceptedEvents = state.acceptedEvents ∧ bound.failure = state.failure := by
  cases event with
  | negotiating | closed | failed _ =>
    cases bind
    exact ⟨rfl, rfl, rfl, rfl, rfl⟩
  | backendBound _ | awaitingConsent _ | granted _ | accessBound _ | relayVerified _ | streaming =>
    simp only [bindEvent] at bind
    split at bind
    · cases bind
      exact ⟨rfl, rfl, rfl, rfl, rfl⟩
    · cases bind

end WanSessionState

end MiniRemoteDesktop.Wan
