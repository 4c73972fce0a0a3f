/-
**Runs of the relay registry on one node** (`app/services/relay_registry.py`).

The operations on a node hold its locks until they commit, so that a run is a sequence of them, with any
arguments and at any times. What is refused is rolled back.

* `Operation`, `History.step` — the operations, and a run, which keeps what succeeded.
* `Effect` — **what an operation does, case by case**; `perform_effect`: it is one of the cases.
-/

import MiniRemoteDesktop.Lib.Execution
import MiniRemoteDesktop.Registry.Requests

namespace MiniRemoteDesktop.Registry

open Checked Execution
open Relay.Server (NodeState RegistrationStatus)

/-! ### Operations -/

/-- **An operation on a node.** The row of an enrollment token is what the call finds in its table. -/
inductive Operation
  | requestEnrollment (enrollment : RelayEnrollment) (call : EnrollmentCall)
  | approve (call : ApproveCall)
  | pickup (call : PickupCall)
  | renew (call : RenewCall)
  | recordHeartbeat (call : HeartbeatCall)
  | requestSecretRotation (call : RotationCall)
  | uploadSecretRotation (call : UploadCall)
  | commitSecretRotation (call : CommitCall)
  | secretRotationStatus (call : CommitCall)
  | transition (action : TransitionAction)
  | revoke (now : Nat)

def Operation.perform (registry : RelayRegistry) (entry : Entry) :
    Operation → Except RelayRegistryError Entry
  | requestEnrollment enrollment call =>
    (entry.requestEnrollment registry enrollment call).map Enrolled.entry
  | approve call => entry.approve call
  | pickup call => (entry.pickup registry call).map Prod.fst
  | renew call => (entry.renew registry call).map Prod.fst
  | recordHeartbeat call => entry.recordHeartbeat call
  | requestSecretRotation call => entry.requestSecretRotation call
  | uploadSecretRotation call => entry.uploadSecretRotation registry call
  | commitSecretRotation call => entry.commitSecretRotation registry call
  | secretRotationStatus call => (entry.secretRotationStatus call).map Prod.fst
  | transition action => entry.transition action
  | revoke now => entry.revoke now

/-- What is stored of a node, and the operations that succeeded, with what each made of it. The last one
comes first. -/
structure History where
  entry : Entry
  log : List (Operation × Entry)

/-- A node that never enrolled. -/
def History.start : History := ⟨.empty, []⟩

def History.step (registry : RelayRegistry) (history : History) (operation : Operation) : Option History :=
  match operation.perform registry history.entry with
  | .ok after => some ⟨after, (operation, after) :: history.log⟩
  | .error _ => some history

/-- What is stored after the operations of a log. -/
def latest : List (Operation × Entry) → Entry
  | [] => .empty
  | (_, after) :: _ => after

/-- A registration is approved, and its certificate has not been issued: a pickup issues it. -/
def Entry.unissued (entry : Entry) : Bool :=
  entry.registration.any fun registration => registration.status = .approved &&
    registration.certificatePem.isNone

open Entry

/-! ### What an operation does -/

/-- A signed request, numbered above the last one under its certificate. -/
structure Numbered (entry : Entry) (identity : RelayIdentity) (now : Nat) (node : RelayNode)
    (registration : RelayNodeRegistration) (kind : IdentityKind) (sequence : Int) : Prop extends
    Identified entry identity now node registration kind where
  above : node.lastSequence kind < sequence

/-- Neither the node nor its registration is revoked. -/
def Entry.live (entry : Entry) : Prop :=
  (∀ node ∈ entry.node, node.state ≠ .revoked) ∧
    ∀ registration ∈ entry.registration, registration.status ≠ .revoked

variable (registry : RelayRegistry) (entry : Entry) in
/-- **What an operation does**: which one it is, what held before, and what is stored after it. -/
inductive Effect : Operation → Entry → Prop
  | enrollmentRepeated {enrollment : RelayEnrollment} {call : EnrollmentCall} (live : entry.live) :
      Effect (.requestEnrollment enrollment call) entry
  | enrolled {enrollment : RelayEnrollment} {call : EnrollmentCall} {material : EnrollmentMaterial}
      {receiptDigest : List UInt8} {audit : String} (live : entry.live)
      (known : entry.node.isSome → entry.registration.isSome)
      (recoverable : ∀ registration ∈ entry.registration,
        registrationRecoverable registration entry.node call.now = true) :
      Effect (.requestEnrollment enrollment call)
        { node := entry.node.map RelayNode.recovered
          registration := some (enrolledRegistration call material enrollment.id receiptDigest)
          audits := entry.audits ++ [audit] }
  | approved {call : ApproveCall} {registration : RelayNodeRegistration} (live : entry.live)
      (found : entry.registration = some registration) (pending : registration.status = .pending) :
      Effect (.approve call) { entry with
        registration := some { registration with
          status := .approved
          failureDomain := call.failureDomain
          physicalHostId := some call.physicalHostId
          topologyApprovedAt := some call.now }
        audits := entry.audits ++ ["relay_node_approved"] }
  | pickupPending {call : PickupCall} {registration : RelayNodeRegistration} (live : entry.live)
      (found : entry.registration = some registration) (pending : registration.status = .pending) :
      Effect (.pickup call) entry
  | pickupRepeated {call : PickupCall} {registration : RelayNodeRegistration} (live : entry.live)
      (found : entry.registration = some registration) (issued : registration.certificatePem.isSome) :
      Effect (.pickup call)
        { entry with audits := entry.audits ++ ["relay_certificate_picked_up"] }
  | pickedUp {call : PickupCall} {registration : RelayNodeRegistration} {secret : List UInt8}
      {certificate : IssuedRelayCertificate} (live : entry.live)
      (found : entry.registration = some registration) (approved : registration.status = .approved)
      (first : registration.certificatePem = none) (issued : call.certificate = some certificate) :
      Effect (.pickup call)
        { entry.issueCertificate registration secret certificate with
          audits := entry.audits ++ ["relay_certificate_issued"] ++ ["relay_certificate_picked_up"] }
  | renewalRepeated {call : RenewCall} {node : RelayNode} {registration : RelayNodeRegistration}
      (numbered : Numbered entry call.identity call.now node registration .previous call.sequence) :
      Effect (.renew call)
        { entry with node := some { node with previousIdentitySequence := some call.sequence } }
  | renewed {call : RenewCall} {node : RelayNode} {registration : RelayNodeRegistration}
      {canonicalCsr signingPublicKey csrDigest : List UInt8} {certificate : IssuedRelayCertificate}
      {currentExpiry : Nat}
      (numbered : Numbered entry call.identity call.now node registration .current call.sequence)
      (idle : node.rotationInFlight = false) (issued : call.certificate = some certificate) :
      Effect (.renew call)
        { node := some (node.renewed certificate.fingerprint call.sequence)
          registration := some (registration.renewed node call canonicalCsr signingPublicKey csrDigest
            certificate currentExpiry)
          audits := entry.audits ++ ["relay_certificate_renewed"] }
  | heartbeat {call : HeartbeatCall} {node : RelayNode} {registration : RelayNodeRegistration}
      {endpoints : List String}
      (numbered : Numbered entry call.identity call.now node registration .current call.sequence)
      (room : call.activeAllocations ≤ node.maxAllocations) :
      Effect (.recordHeartbeat call)
        { entry with
          node := some (node.heartbeat call endpoints)
          audits := entry.audits ++ ["relay_heartbeat_recorded"] }
  | rotationKept {call : RotationCall} {node : RelayNode} (found : entry.node = some node)
      (active : node.state ≠ .revoked) (busy : node.rotationInFlight = true) :
      Effect (.requestSecretRotation call) entry
  | rotationRequested {call : RotationCall} {node : RelayNode} (found : entry.node = some node)
      (active : node.state ≠ .revoked) (idle : node.rotationInFlight = false) :
      Effect (.requestSecretRotation call)
        { entry with
          node := some (node.rotating call)
          audits := entry.audits ++ ["relay_secret_rotation_requested"] }
  | uploaded {call : UploadCall} {node pending : RelayNode} {registration : RelayNodeRegistration}
      {secretDigest encrypted : List UInt8} {audits : List String}
      (numbered : Numbered entry call.identity call.now node registration .current call.sequence)
      (epoch : call.identityEpoch = node.identityEpoch)
      (version : call.secretVersion = node.desiredSecretVersion)
      (newer : node.activeSecretVersion < call.secretVersion)
      (challenged : node.rotationChallenge.isSome)
      (taken : node.pending call secretDigest encrypted = .ok (pending, audits)) :
      Effect (.uploadSecretRotation call)
        { entry with
          node := some { pending with heartbeatSequence := call.sequence }
          audits := entry.audits ++ audits }
  | commitRepeated {call : CommitCall} {node : RelayNode} {registration : RelayNodeRegistration}
      (numbered : Numbered entry call.identity call.now node registration .current call.sequence)
      (exact : node.committedExact call = true) :
      Effect (.commitSecretRotation call)
        { entry with node := some { node with heartbeatSequence := call.sequence } }
  | committed {call : CommitCall} {node : RelayNode} {registration : RelayNodeRegistration}
      {secret : List UInt8}
      (numbered : Numbered entry call.identity call.now node registration .current call.sequence)
      (epoch : call.identityEpoch = node.identityEpoch)
      (other : node.committedExact call = false) (committable : node.committable call = true)
      (proved : registry.checkProof node call = .ok secret) :
      Effect (.commitSecretRotation call)
        { entry with
          node := some (node.committed call secret)
          audits := entry.audits ++ ["relay_secret_rotation_committed"] }
  | rotationStatus {call : CommitCall} {node : RelayNode} {registration : RelayNodeRegistration}
      (numbered : Numbered entry call.identity call.now node registration .current call.sequence) :
      Effect (.secretRotationStatus call)
        { entry with node := some { node with heartbeatSequence := call.sequence } }
  | drained {node : RelayNode} {audits : List String} (found : entry.node = some node)
      (active : node.state ≠ .revoked) :
      Effect (.transition .drain)
        { entry with
          node := some { node with
            desiredDraining := true
            state := .draining }
          audits }
  | resumed {node : RelayNode} {audits : List String} (found : entry.node = some node)
      (active : node.state ≠ .revoked) (idle : node.rotationInFlight = false) :
      Effect (.transition .resume)
        { entry with
          node := some { node with
            desiredDraining := false
            state := .unavailable
            healthyHeartbeatStreak := 0
            leaseExpiresAt := none }
          audits }
  | revoked {now : Nat} {audits : List String} (there : ¬ (entry.node = none ∧ entry.registration = none)) :
      Effect (.revoke now)
        { node := entry.node.map fun node => node.revoke now
          registration := entry.registration.map fun registration => { registration with status := .revoked }
          audits }

/-! ### Every operation does one of these -/

variable {registry : RelayRegistry} {entry after : Entry}

theorem map_ok {α β : Type} {f : α → β} {result : Except RelayRegistryError α} {value : β}
    (done : result.map f = .ok value) : ∃ given, result = .ok given ∧ f given = value := by
  cases result with
  | error _ => cases done
  | ok given => exact ⟨given, rfl, Except.ok.inj done⟩

theorem live_of_not_revoked
    (guard : ¬ ((entry.registration.any fun registration => decide (registration.status = .revoked)) = true ∨
      (entry.node.any fun node => decide (node.state = .revoked)) = true)) : entry.live := by
  obtain ⟨registered, active⟩ := not_or.mp guard
  refine ⟨fun node found state => active ?_, fun registration found status => registered ?_⟩
  · simp [Option.mem_def.mp found, decide_eq_true state]
  · simp [Option.mem_def.mp found, decide_eq_true status]

section

variable {enrollment : RelayEnrollment} {call : EnrollmentCall} {result : Enrolled}
  (done : entry.requestEnrollment registry enrollment call = .ok result)
include done

/-- **A call of `request_enrollment` is a retry, or it registers the node.** -/
theorem requestEnrollment_ok :
    entry.live ∧ ∃ material, call.material registry = .ok material ∧
      enrollment.tokenDigest = material.tokenDigest ∧
      ((enrollment.usedAt.isSome ∧ result.entry = entry ∧ result.enrollment = enrollment ∧
        idempotentEnrollmentRetry registry enrollment entry.registration call.token
          material.requestDigest = .ok result.receipt) ∨
      (enrollment.usedAt = none ∧ call.now < enrollment.expiresAt ∧
        (entry.node.isSome → entry.registration.isSome) ∧
        (∀ registration ∈ entry.registration,
          registrationRecoverable registration entry.node call.now = true) ∧
        registry.deriveReceipt call.token enrollment.id material.requestDigest = .ok result.receipt ∧
        ∃ receiptDigest audit, registry.receiptDigest result.receipt = .ok receiptDigest ∧
          result.entry =
            { node := entry.node.map RelayNode.recovered
              registration := some (enrolledRegistration call material enrollment.id receiptDigest)
              audits := entry.audits ++ [audit] } ∧
          result.enrollment = { enrollment with
            usedAt := some call.now
            enrolledNodeId := some call.nodeId })) := by
  obtain ⟨material, made, done⟩ := bind_ok done
  obtain ⟨token, done⟩ := guarded_ok done
  obtain ⟨live, done⟩ := guarded_ok done
  refine ⟨live_of_not_revoked live, material, made, not_not.mp token, ?_⟩
  split at done
  next used =>
    obtain ⟨receipt, retried, ⟨⟩⟩ := bind_ok done
    exact .inl ⟨used, rfl, rfl, retried⟩
  next unused =>
    obtain ⟨late, done⟩ := guarded_ok done
    obtain ⟨stale, done⟩ := guarded_ok done
    obtain ⟨orphan, done⟩ := guarded_ok done
    obtain ⟨receipt, derived, done⟩ := bind_ok done
    obtain ⟨receiptDigest, digested, ⟨⟩⟩ := bind_ok done
    refine .inr ⟨Option.not_isSome_iff_eq_none.mp unused, Nat.not_le.mp late, fun there => ?_,
      fun registration found => ?_, derived, receiptDigest, _, digested, rfl, rfl⟩
    · by_contra missing
      exact orphan ⟨there, Option.not_isSome_iff_eq_none.mp missing⟩
    · rw [Option.mem_def.mp found] at stale
      exact Bool.eq_true_of_not_eq_false fun fails => stale (decide_eq_true fails)

theorem effect_requestEnrollment :
    Effect registry entry (.requestEnrollment enrollment call) result.entry := by
  obtain ⟨live, material, _, _, ⟨_, same, _⟩ | ⟨_, _, known, recoverable, _, _, _, _, same, _⟩⟩ :=
    requestEnrollment_ok done
  · rw [same]
    exact .enrollmentRepeated live
  · rw [same]
    exact .enrolled live known recoverable

end

theorem effect_approve {call : ApproveCall} (done : entry.approve call = .ok after) :
    Effect registry entry (.approve call) after := by
  unfold approve at done
  obtain ⟨live, done⟩ := guarded_ok (guard_ok done)
  obtain ⟨registration, found, done⟩ := bind_ok done
  obtain ⟨pending, done⟩ := guarded_ok done
  cases guard_ok done
  exact .approved (live_of_not_revoked live) (required_ok found) (not_not.mp pending)

theorem effect_pickup {call : PickupCall} {answer : RelayEnrollmentPickup}
    (done : entry.pickup registry call = .ok (after, answer)) :
    Effect registry entry (.pickup call) after := by
  have gives : ∀ {base given : Entry} {registration : RelayNodeRegistration} {now : Nat}
      {answer : RelayEnrollmentPickup}, base.givePickup registration now = .ok (given, answer) →
        given = { base with audits := base.audits ++ ["relay_certificate_picked_up"] } := by
    intro base given registration now answer given
    exact (congrArg Prod.fst (Except.ok.inj (refused_ok given).2)).symm
  obtain ⟨_, _, done⟩ := bind_ok done
  obtain ⟨digest, _, done⟩ := bind_ok done
  obtain ⟨registration, there, done⟩ := bind_ok done
  obtain ⟨accepted, done⟩ := guarded_ok done
  have found := required_ok there
  have accepted := Bool.eq_true_of_not_eq_false accepted
  unfold receiptAccepted at accepted
  simp only [Bool.and_eq_true, decide_eq_true_eq, Bool.not_eq_true'] at accepted
  obtain ⟨⟨_, unrevoked⟩, active⟩ := accepted
  have live : entry.live := by
    refine ⟨fun node member state => ?_, fun other member status => ?_⟩
    · rw [Option.mem_def.mp member] at active
      exact absurd (decide_eq_true state) (Bool.eq_false_iff.mp active)
    · cases Option.some.inj (found.symm.trans member)
      exact unrevoked status
  split at done
  next pending =>
    cases done
    exact .pickupPending live found pending
  next listed =>
    have approved : registration.status = .approved := by
      cases status : registration.status with
      | pending => exact absurd status listed
      | approved => rfl
      | revoked => exact absurd status unrevoked
    obtain ⟨secret, _, done⟩ := bind_ok (guard_ok done)
    split at done
    next issued =>
      cases gives done
      exact .pickupRepeated live found issued
    next first =>
      obtain ⟨certificate, issued, done⟩ := bind_ok done
      cases gives done
      exact .pickedUp live found approved (Option.not_isSome_iff_eq_none.mp first) (required_ok issued)

variable {registration : RelayNodeRegistration}

variable {node : RelayNode} {csrDigest : List UInt8} {now : Nat} {kind : IdentityKind}

theorem renewalPath_retried {renewalId : String} {certificate : IssuedRelayCertificate}
    (path : renewalPath node registration kind renewalId csrDigest now = .ok (.retried certificate)) :
    kind = .previous := by
  unfold renewalPath at path
  dsimp only at path
  by_contra current
  rw [if_neg current] at path
  split at path
  · cases path
  · split at path
    · cases path
    · rw [if_neg current] at path
      split at path
      · split at path <;> cases path
      · split at path
        · cases path
        · split at path <;> cases path

theorem renewalPath_issued {renewalId : String}
    (path : renewalPath node registration kind renewalId csrDigest now = .ok .issued) :
    kind = .current := by
  unfold renewalPath at path
  dsimp only at path
  cases kind with
  | current => rfl
  | previous =>
    rw [if_pos rfl] at path
    split at path
    · cases path
    · split at path
      · cases path
      · split at path
        · split at path <;> cases path
        · split at path
          · cases path
          · split at path <;> cases path

theorem effect_renew {call : RenewCall} {answer : IssuedRelayCertificate}
    (done : entry.renew registry call = .ok (after, answer)) :
    Effect registry entry (.renew call) after := by
  obtain ⟨⟨canonicalCsr, signingPublicKey⟩, _, done⟩ := bind_ok done
  obtain ⟨⟨node, registration, kind⟩, identified, done⟩ := bind_ok done
  obtain ⟨fresh, done⟩ := guarded_ok done
  obtain ⟨idle, done⟩ := guarded_ok done
  obtain ⟨path, decided, given⟩ := bind_ok done
  have identified := (identified_ok identified).1
  have above := Int.not_le.mp (not_or.mp fresh).2
  cases path with
  | retried certificate =>
    cases renewalPath_retried decided
    cases given
    exact .renewalRepeated ⟨identified, above⟩
  | issued =>
    cases renewalPath_issued decided
    change entry.issueRenewal node registration call canonicalCsr signingPublicKey
      (registry.sha256 canonicalCsr) = .ok (after, answer) at given
    unfold issueRenewal at given
    obtain ⟨currentExpiry, _, given⟩ := bind_ok (guard_ok given)
    obtain ⟨certificate, issued, ⟨⟩⟩ := bind_ok (guard_ok given)
    refine .renewed ⟨identified, above⟩ ?_ (required_ok issued)
    exact Bool.eq_false_of_not_eq_true fun busy => idle ⟨busy, rfl⟩

theorem effect_recordHeartbeat {call : HeartbeatCall} (done : entry.recordHeartbeat call = .ok after) :
    Effect registry entry (.recordHeartbeat call) after := by
  obtain ⟨endpoints, _, done⟩ := bind_ok done
  obtain ⟨⟨node, registration, kind⟩, identified, done⟩ := bind_ok done
  obtain ⟨fresh, done⟩ := guarded_ok done
  obtain ⟨metrics, ⟨⟩⟩ := guarded_ok done
  obtain ⟨identified, current⟩ := identified_ok identified
  cases current rfl
  exact .heartbeat ⟨identified, Int.not_le.mp fresh⟩ (Int.not_lt.mp (not_or.mp (not_or.mp metrics).2).1)

theorem effect_requestSecretRotation {call : RotationCall}
    (done : entry.requestSecretRotation call = .ok after) :
    Effect registry entry (.requestSecretRotation call) after := by
  unfold requestSecretRotation at done
  obtain ⟨node, there, done⟩ := bind_ok (guard_ok done)
  obtain ⟨active, done⟩ := guarded_ok done
  have found := required_ok there
  split at done
  next busy =>
    cases done
    exact .rotationKept found active busy
  next idle =>
    cases done
    exact .rotationRequested found active (Bool.eq_false_of_not_eq_true idle)

theorem rotationIdentity_ok {identity : RelayIdentity} {sequence : Int} {identityEpoch : Nat}
    (done : entry.rotationIdentity identity sequence identityEpoch now = .ok node) :
    identityEpoch = node.identityEpoch ∧
      ∃ registration, Numbered entry identity now node registration .current sequence := by
  obtain ⟨⟨found, registration, kind⟩, identified, done⟩ := bind_ok done
  obtain ⟨current, done⟩ := guarded_ok done
  obtain ⟨epoch, done⟩ := guarded_ok done
  obtain ⟨fresh, ⟨⟩⟩ := guarded_ok done
  cases kind with
  | current =>
    exact ⟨not_not.mp epoch, registration, (identified_ok identified).1, Int.not_le.mp fresh⟩
  | previous => exact absurd rfl current

theorem effect_uploadSecretRotation {call : UploadCall}
    (done : entry.uploadSecretRotation registry call = .ok after) :
    Effect registry entry (.uploadSecretRotation call) after := by
  obtain ⟨⟨secretDigest, encrypted⟩, _, done⟩ := bind_ok done
  obtain ⟨node, identified, done⟩ := bind_ok done
  obtain ⟨valid, done⟩ := guarded_ok done
  obtain ⟨⟨pending, audits⟩, taken, ⟨⟩⟩ := bind_ok done
  obtain ⟨epoch, registration, numbered⟩ := rotationIdentity_ok identified
  obtain ⟨_, valid⟩ := not_or.mp valid
  obtain ⟨version, valid⟩ := not_or.mp valid
  obtain ⟨newer, challenged⟩ := not_or.mp valid
  exact .uploaded numbered epoch (not_not.mp version) (Nat.not_le.mp newer)
    (Option.isSome_iff_ne_none.mpr challenged) taken

theorem effect_commitSecretRotation {call : CommitCall}
    (done : entry.commitSecretRotation registry call = .ok after) :
    Effect registry entry (.commitSecretRotation call) after := by
  unfold commitSecretRotation at done
  obtain ⟨node, identified, done⟩ := bind_ok (guard_ok (guard_ok done))
  obtain ⟨epoch, registration, numbered⟩ := rotationIdentity_ok identified
  split at done
  next exact =>
    cases done
    exact .commitRepeated numbered exact
  next other =>
    obtain ⟨committable, done⟩ := guarded_ok done
    obtain ⟨secret, proved, ⟨⟩⟩ := bind_ok done
    exact .committed numbered epoch (Bool.eq_false_of_not_eq_true other)
      (Bool.eq_true_of_not_eq_false committable) proved

theorem effect_secretRotationStatus {call : CommitCall} {status : RotationStatus}
    (done : entry.secretRotationStatus call = .ok (after, status)) :
    Effect registry entry (.secretRotationStatus call) after := by
  unfold secretRotationStatus at done
  obtain ⟨⟨node, registration, kind⟩, identified, done⟩ := bind_ok (guard_ok done)
  obtain ⟨fresh, ⟨⟩⟩ := guarded_ok done
  obtain ⟨identified, current⟩ := identified_ok identified
  cases current rfl
  exact .rotationStatus ⟨identified, Int.not_le.mp fresh⟩

theorem effect_transition {action : TransitionAction} (done : entry.transition action = .ok after) :
    Effect registry entry (.transition action) after := by
  obtain ⟨node, there, done⟩ := bind_ok done
  obtain ⟨active, done⟩ := guarded_ok done
  cases action with
  | drain =>
    cases done
    exact .drained (required_ok there) active
  | resume =>
    obtain ⟨idle, done⟩ := guarded_ok done
    cases guard_ok done
    exact .resumed (required_ok there) active (Bool.eq_false_of_not_eq_true idle)

theorem effect_revoke (done : entry.revoke now = .ok after) :
    Effect registry entry (.revoke now) after := by
  unfold revoke at done
  obtain ⟨there, ⟨⟩⟩ := guarded_ok done
  exact .revoked there

variable {operation : Operation}

/-- **Every operation does one of these.** -/
theorem perform_effect (done : operation.perform registry entry = .ok after) :
    Effect registry entry operation after := by
  cases operation with
  | requestEnrollment enrollment call =>
    obtain ⟨result, enrolled, rfl⟩ := map_ok done
    exact effect_requestEnrollment enrolled
  | approve call => exact effect_approve done
  | pickup call =>
    obtain ⟨⟨given, answer⟩, picked, rfl⟩ := map_ok done
    exact effect_pickup picked
  | renew call =>
    obtain ⟨⟨renewed, certificate⟩, given, rfl⟩ := map_ok done
    exact effect_renew given
  | recordHeartbeat call => exact effect_recordHeartbeat done
  | requestSecretRotation call => exact effect_requestSecretRotation done
  | uploadSecretRotation call => exact effect_uploadSecretRotation done
  | commitSecretRotation call => exact effect_commitSecretRotation done
  | secretRotationStatus call =>
    obtain ⟨⟨given, status⟩, answered, rfl⟩ := map_ok done
    exact effect_secretRotationStatus answered
  | transition action => exact effect_transition done
  | revoke now => exact effect_revoke done

/-! ### Steps -/

variable {history later : History}

theorem step_cases (taken : history.step registry operation = some later) :
    later = history ∨ ∃ after, Effect registry history.entry operation after ∧
      later = ⟨after, (operation, after) :: history.log⟩ := by
  unfold History.step at taken
  split at taken
  next after performed =>
    exact .inr ⟨after, perform_effect performed, (Option.some.inj taken).symm⟩
  · exact .inl (Option.some.inj taken).symm

/-- **The rule of runs**: what holds at the start and is kept by each effect holds throughout. -/
theorem reach_keeps {I : History → Prop} {allowed : History → Operation → Prop} (start : I history)
    (keep : ∀ history operation after, I history → allowed history operation →
      Effect registry history.entry operation after → I ⟨after, (operation, after) :: history.log⟩)
    (reach : Reach (History.step registry) allowed history later) : I later := by
  refine reach.invariant start fun middle operation next holds admitted taken => ?_
  obtain rfl | ⟨after, effect, rfl⟩ := step_cases taken
  · exact holds
  · exact keep middle operation after holds admitted effect

theorem not_unissued_of_pending (found : entry.registration = some registration)
    (pending : registration.status = .pending) :
    entry.unissued = false := by
  simp [unissued, found, pending]

theorem not_unissued_of_issued (found : entry.registration = some registration)
    (issued : registration.certificatePem.isSome) :
    entry.unissued = false := by
  obtain ⟨certificate, there⟩ := Option.isSome_iff_exists.mp issued
  simp [unissued, found, there]

/-! ### A sample -/

/-- A sum in place of HMAC, of as many bytes; and a digest that has no collisions. -/
def sampleRegistry : RelayRegistry where
  pepper := [1]
  hmac := fun key message => List.replicate 32 ((key ++ message).foldl (· + ·) 0)
  sha256 := fun message => message
  turnSecretCipher := some ⟨fun _ plaintext _ => plaintext, fun ciphertext _ => some ciphertext⟩
  validateCsr := fun csrPem nodeId => if nodeId = "node" then some (Text.bytes csrPem, [2]) else none

def sampleToken : String := "token-0123456789-abcdef"

/-- The row of an unused token. -/
def sampleEnrollment : RelayEnrollment where
  id := "enrollment"
  tokenDigest := sampleRegistry.hmac sampleRegistry.pepper
    (Text.bytes "MRD_RELAY_ENROLLMENT_V1" ++ 0 :: Text.bytes sampleToken)
  expiresAt := timedelta 1000
  usedAt := none
  enrolledNodeId := none

def sampleEnrollmentCall : EnrollmentCall where
  token := sampleToken
  nodeId := "node"
  region := "eu"
  failureDomain := "rack"
  endpoints := ["turn:a:1"]
  maxAllocations := 4
  maxEgressBps := 1000
  csrPem := "csr"
  turnRestSecret := "AAECAwQFBgcICQoLDA0ODxAREhMUFRYXGBkaGxwdHh8"
  receiptTtlSeconds := 600
  now := timedelta 100
  nonce := []

/-- The receipt that the call returns. -/
def sampleReceipt : String :=
  match empty.requestEnrollment sampleRegistry sampleEnrollment sampleEnrollmentCall with
  | .ok result => result.receipt
  | .error _ => ""

/-- A certificate at some second. -/
def sampleCertificate (fingerprint : String) (second : Nat) : IssuedRelayCertificate :=
  ⟨"pem", "ca", fingerprint, timedelta (second + 3600)⟩

def samplePickup (fingerprint : String) (second : Nat) : PickupCall where
  enrollmentId := "enrollment"
  receipt := sampleReceipt
  certificate := some (sampleCertificate fingerprint second)
  now := timedelta second

def sampleIdentity (fingerprint : String) : RelayIdentity := ⟨"node", fingerprint, [2]⟩

/-- A heartbeat of an idle and healthy node. -/
def sampleHeartbeat (fingerprint : String) (sequence : Int) (epoch second : Nat) : HeartbeatCall where
  identity := sampleIdentity fingerprint
  sequence
  identityEpoch := epoch
  processHealth := .healthy
  listenerHealth := .healthy
  probeHealth := .healthy
  activeAllocations := 0
  currentEgressBps := 0
  maxAllocations := 4
  maxEgressBps := 1000
  appliedSecretVersion := 1
  measuredRttMs := none
  recentFailureBps := 0
  endpoints := ["turn:a:1"]
  now := timedelta second

def sampleRenewal (fingerprint next : String) (sequence : Int) (second : Nat) : RenewCall where
  identity := sampleIdentity fingerprint
  sequence
  renewalId := "renewal"
  csrPem := "csr"
  certificate := some (sampleCertificate next second)
  renewBeforeSeconds := 3600
  previousAuthGraceSeconds := 60
  renewalRecordRetentionSeconds := 600
  now := timedelta second

/-- A node enrolls, is approved, and picks its certificate up. -/
def sampleStart : List Operation := [
  .requestEnrollment sampleEnrollment sampleEnrollmentCall,
  .approve ⟨"rack", "host", timedelta 101⟩,
  .pickup (samplePickup "first" 102)]

end MiniRemoteDesktop.Registry
