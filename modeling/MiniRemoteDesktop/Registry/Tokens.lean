/-
**An enrollment token enrolls one node once** (`app/services/relay_registry.py`, `request_enrollment`).

The row of a token says whether it was used; the registration of a node says for which enrollment it was
made and of what request. A call locks both. Between the calls the other operations on the nodes take place,
and new tokens are issued.

* `Consistent` — **the invariant**: registrations and used tokens are those of the history.
* `token_enrolls_once` — **a token is consumed once, a retry is that of the same request, and what is held
  is not overwritten**.

HMAC need not be free of collisions for this, but SHA-256 is taken to be.
-/

import MiniRemoteDesktop.Lib.Rows
import MiniRemoteDesktop.Registry.Runs

namespace MiniRemoteDesktop.Registry

open Option (map_eq_some_iff mem_def)
open Checked Execution Rows
open Relay.Server (NodeState RegistrationStatus validateEndpoints)

/-! ### The registry -/

/-- A call that consumed its token. -/
structure Consumption where
  call : EnrollmentCall
  tokenDigest : List UInt8
  enrollmentId : String
  requestDigest : List UInt8
  receipt : String

/-- **The registry**: the tokens and what is stored under each node. `consumed` is for history only. -/
structure RegistryState where
  enrollments : List RelayEnrollment
  entries : String → Entry
  consumed : List Consumption

def RegistryState.empty : RegistryState := ⟨[], fun _ => .empty, []⟩

/-- The row of a token. -/
def RegistryState.enrollment (state : RegistryState) (tokenDigest : List UInt8) : Option RelayEnrollment :=
  row RelayEnrollment.tokenDigest state.enrollments tokenDigest

/-- **`request_enrollment`**, and the receipt that it returns. -/
def RegistryState.requestEnrollment (registry : RelayRegistry) (state : RegistryState)
    (call : EnrollmentCall) : Except RelayRegistryError (RegistryState × String) := do
  let material ← call.material registry
  let enrollment ← (state.enrollment material.tokenDigest).elim (.error (enrollmentInvalid 400)) .ok
  let result ← (state.entries call.nodeId).requestEnrollment registry enrollment call
  if enrollment.usedAt.isSome then return (state, result.receipt)
  return ({
    enrollments := put RelayEnrollment.tokenDigest state.enrollments result.enrollment
    entries := Function.update state.entries call.nodeId result.entry
    consumed := ⟨call, material.tokenDigest, enrollment.id, material.requestDigest, result.receipt⟩ ::
      state.consumed }, result.receipt)

/-- `issue_enrollment_token`. Both columns of the row are unique. -/
def RegistryState.issueToken (state : RegistryState) (enrollment : RelayEnrollment) : RegistryState :=
  if enrollment.usedAt = none ∧ state.enrollment enrollment.tokenDigest = none ∧
      row RelayEnrollment.id state.enrollments enrollment.id = none then
    { state with enrollments := state.enrollments ++ [enrollment] }
  else state

inductive RegistryEvent
  | issueToken (enrollment : RelayEnrollment)
  | requestEnrollment (call : EnrollmentCall)
  /-- Another operation on a node. -/
  | operate (nodeId : String) (operation : Operation)

def Operation.enrolls : Operation → Bool
  | requestEnrollment _ _ => true
  | _ => false

def RegistryState.step (registry : RelayRegistry) (state : RegistryState) :
    RegistryEvent → Option RegistryState
  | .issueToken enrollment => some (state.issueToken enrollment)
  | .requestEnrollment call =>
    match state.requestEnrollment registry call with
    | .ok (after, _) => some after
    | .error _ => some state
  | .operate nodeId operation =>
    if operation.enrolls then none
    else match operation.perform registry (state.entries nodeId) with
      | .ok after => some { state with entries := Function.update state.entries nodeId after }
      | .error _ => some state

/-! ### Requests -/

/-- **Two calls ask for the same.** -/
structure SameRequest (registry : RelayRegistry) (first second : EnrollmentCall) : Prop where
  nodeId : first.nodeId = second.nodeId
  region : first.region = second.region
  failureDomain : first.failureDomain = second.failureDomain
  endpoints : validateEndpoints first.endpoints = validateEndpoints second.endpoints
  maxAllocations : first.maxAllocations = second.maxAllocations
  maxEgressBps : first.maxEgressBps = second.maxEgressBps
  csr : (registry.validateCsr first.csrPem first.nodeId).map Prod.fst =
    (registry.validateCsr second.csrPem second.nodeId).map Prod.fst
  turnRestSecret : first.turnRestSecret = second.turnRestSecret

variable {registry : RelayRegistry}

/-- What a call amounts to. -/
structure Amounts (registry : RelayRegistry) (call : EnrollmentCall) (material : EnrollmentMaterial) : Prop
    where
  token : registry.tokenDigest call.token = .ok material.tokenDigest
  csr : registry.validateCsr call.csrPem call.nodeId =
    some (material.canonicalCsr, material.signingPublicKey)
  endpoints : validateEndpoints call.endpoints = some material.canonicalEndpoints
  secret : ∃ decoded, decodeCanonicalBase64url call.turnRestSecret 32 = some decoded ∧
    material.secretDigest = registry.sha256 decoded
  small : call.maxAllocations < 2 ^ 64 ∧ call.maxEgressBps < 2 ^ 64
  request : ∃ encoded, lengthPrefixed (requestFields call material.canonicalEndpoints material.canonicalCsr
      material.secretDigest) = .ok encoded ∧
    material.requestDigest =
      registry.sha256 (Text.bytes "MRD_RELAY_ENROLLMENT_REQUEST_V1" ++ 0 :: encoded)

variable {call : EnrollmentCall} {material : EnrollmentMaterial}

theorem material_ok (made : call.material registry = .ok material) :
    Amounts registry call material := by
  obtain ⟨_, _, made⟩ := bind_ok made
  obtain ⟨⟨csr, key⟩, validated, made⟩ := bind_ok made
  obtain ⟨endpoints, canonical, made⟩ := bind_ok made
  obtain ⟨⟨secretDigest, encrypted⟩, secured, made⟩ := bind_ok made
  obtain ⟨requestDigest, digested, made⟩ := bind_ok (guard_ok made)
  obtain ⟨tokenDigest, token, ⟨⟩⟩ := bind_ok made
  obtain ⟨cipher, _, secured⟩ := bind_ok secured
  obtain ⟨decoded, read, secured⟩ := bind_ok secured
  cases guard_ok secured
  unfold RelayRegistry.enrollmentRequestDigest at digested
  obtain ⟨fits, digested⟩ := guarded_ok digested
  obtain ⟨encoded, framed, ⟨⟩⟩ := bind_ok digested
  obtain ⟨allocations, egress⟩ := not_or.mp fits
  exact ⟨token, required_ok validated, required_ok canonical, ⟨decoded, required_ok read, rfl⟩,
    ⟨Nat.not_le.mp allocations, Nat.not_le.mp egress⟩, encoded, framed, rfl⟩

/-- **A digest is of one request.** -/
theorem sameRequest_of_digest (injective : Function.Injective registry.sha256)
    {first second : EnrollmentCall} {other : EnrollmentMaterial}
    (one : Amounts registry first material) (two : Amounts registry second other)
    (same : material.requestDigest = other.requestDigest) : SameRequest registry first second := by
  obtain ⟨encoded, framed, digest⟩ := one.request
  obtain ⟨otherEncoded, otherFramed, otherDigest⟩ := two.request
  have equal := injective (digest.symm.trans (same.trans otherDigest))
  have encodings : encoded = otherEncoded := by
    have tails := List.append_cancel_left equal
    exact (List.cons.inj tails).2
  subst encodings
  obtain ⟨node, region, domain, endpoints, allocations, egress, csr, secret⟩ :=
    requestFields_injective (lengthPrefixed_injective framed otherFramed) one.small two.small
  refine ⟨node, region, domain, ?_, allocations, egress, ?_, ?_⟩
  · rw [one.endpoints, two.endpoints, endpoints]
  · rw [one.csr, two.csr]
    exact congrArg some csr
  · obtain ⟨decoded, read, digestOne⟩ := one.secret
    obtain ⟨otherDecoded, otherRead, digestTwo⟩ := two.secret
    have equalSecrets := injective (digestOne.symm.trans (secret.trans digestTwo))
    exact decode_injective read (equalSecrets ▸ otherRead)

/-! ### The invariant -/

/-- **The invariant.** -/
structure Consistent (registry : RelayRegistry) (state : RegistryState) : Prop where
  ids : ∀ first ∈ state.enrollments, ∀ second ∈ state.enrollments,
    first.id = second.id → first.tokenDigest = second.tokenDigest
  /-- A token that was consumed is used. -/
  used : ∀ consumption ∈ state.consumed, ∃ enrollment,
    state.enrollment consumption.tokenDigest = some enrollment ∧
      enrollment.id = consumption.enrollmentId ∧ enrollment.usedAt.isSome
  /-- What is kept of a call is what it amounts to. -/
  made : ∀ consumption ∈ state.consumed, ∃ material, consumption.call.material registry = .ok material ∧
      material.tokenDigest = consumption.tokenDigest ∧ material.requestDigest = consumption.requestDigest ∧
      registry.deriveReceipt consumption.call.token consumption.enrollmentId consumption.requestDigest =
        .ok consumption.receipt
  once : (state.consumed.map Consumption.tokenDigest).Nodup
  /-- A registration is of a call that consumed a token. -/
  registered : ∀ nodeId, ∀ registration ∈ (state.entries nodeId).registration,
    ∃ consumption ∈ state.consumed, consumption.call.nodeId = nodeId ∧
      registration.enrollmentId = consumption.enrollmentId ∧
      registration.requestDigest = some consumption.requestDigest
  /-- Nothing was issued for a pending registration. -/
  pending : ∀ nodeId, ∀ registration ∈ (state.entries nodeId).registration,
    registration.status = .pending → registration.certificateExpiresAt = none

theorem consistent_empty : Consistent registry .empty where
  ids := List.forall_mem_nil _
  used := List.forall_mem_nil _
  made := List.forall_mem_nil _
  once := List.nodup_nil
  registered := fun _ _ found => nomatch found
  pending := fun _ _ found => nomatch found

variable {state : RegistryState}

theorem Consistent.issueToken (holds : Consistent registry state) (enrollment : RelayEnrollment) :
    Consistent registry (state.issueToken enrollment) := by
  unfold RegistryState.issueToken
  split
  next fresh =>
    obtain ⟨_, _, unknown⟩ := fresh
    have other := row_eq_none.mp unknown
    refine ⟨?_, ?_, holds.made, holds.once, holds.registered, holds.pending⟩
    · intro first member second listed same
      rcases List.mem_append.mp member with before | last
      · rcases List.mem_append.mp listed with stood | new
        · exact holds.ids first before second stood same
        · cases List.mem_singleton.mp new
          exact absurd same (other first before)
      · cases List.mem_singleton.mp last
        rcases List.mem_append.mp listed with stood | new
        · exact absurd same.symm (other second stood)
        · cases List.mem_singleton.mp new
          rfl
    · intro consumption member
      obtain ⟨found, there, own, spent⟩ := holds.used consumption member
      exact ⟨found, row_append_of_some there, own, spent⟩
  · exact holds

theorem Consistent.unique (holds : Consistent registry state) {first second : Consumption}
    (member : first ∈ state.consumed) (listed : second ∈ state.consumed)
    (same : first.enrollmentId = second.enrollmentId) : first = second := by
  obtain ⟨one, foundOne, ownOne, _⟩ := holds.used first member
  obtain ⟨two, foundTwo, ownTwo, _⟩ := holds.used second listed
  have digests := holds.ids one (row_mem foundOne) two (row_mem foundTwo)
    (ownOne.trans (same.trans ownTwo.symm))
  have equal : first.tokenDigest = second.tokenDigest :=
    (row_key foundOne).symm.trans (digests.trans (row_key foundTwo))
  exact List.inj_on_of_nodup_map holds.once member listed equal

variable {receipt : String}

variable {after : RegistryState}

/-- **A successful call** is a retry, or it consumes its token. -/
theorem requestEnrollment_cases (done : state.requestEnrollment registry call = .ok (after, receipt)) :
    ∃ material enrollment, call.material registry = .ok material ∧
      state.enrollment material.tokenDigest = some enrollment ∧
      (∀ node ∈ (state.entries call.nodeId).node, node.state ≠ .revoked) ∧
      ((enrollment.usedAt.isSome ∧ after = state ∧
        idempotentEnrollmentRetry registry enrollment (state.entries call.nodeId).registration call.token
          material.requestDigest = .ok receipt) ∨
      (enrollment.usedAt = none ∧ (∀ registration ∈ (state.entries call.nodeId).registration,
          registrationRecoverable registration (state.entries call.nodeId).node call.now = true) ∧
        registry.deriveReceipt call.token enrollment.id material.requestDigest = .ok receipt ∧
        ∃ receiptDigest audits, after = {
          enrollments := put RelayEnrollment.tokenDigest state.enrollments { enrollment with
            usedAt := some call.now
            enrolledNodeId := some call.nodeId }
          entries := Function.update state.entries call.nodeId {
            node := (state.entries call.nodeId).node.map RelayNode.recovered
            registration := some (enrolledRegistration call material enrollment.id receiptDigest)
            audits }
          consumed := ⟨call, material.tokenDigest, enrollment.id, material.requestDigest, receipt⟩ ::
            state.consumed })) := by
  obtain ⟨material, amounts, done⟩ := bind_ok done
  obtain ⟨enrollment, there, done⟩ := bind_ok done
  obtain ⟨result, enrolled, done⟩ := bind_ok done
  obtain ⟨live, other, again, _, cases⟩ := requestEnrollment_ok enrolled
  cases Except.ok.inj (amounts.symm.trans again)
  refine ⟨material, enrollment, amounts, required_ok there, live.1, ?_⟩
  rcases cases with ⟨used, _, _, retried⟩ | ⟨unused, _, _, recoverable, derived, receiptDigest, audit, _,
    sameEntry, sameEnrollment⟩
  · rw [if_pos used] at done
    cases done
    exact .inl ⟨used, rfl, retried⟩
  · rw [if_neg (Option.not_isSome_iff_eq_none.mpr unused), sameEntry, sameEnrollment] at done
    cases done
    exact .inr ⟨unused, recoverable, derived, receiptDigest, _, rfl⟩

variable {registration : RelayNodeRegistration} {entry : Entry}

theorem registration_updated {entries : String → Entry} {nodeId other : String}
    (there : registration ∈ (Function.update entries nodeId entry other).registration) :
    (other = nodeId ∧ registration ∈ entry.registration) ∨ registration ∈ (entries other).registration := by
  by_cases here : other = nodeId
  · subst here
    rw [Function.update_self] at there
    exact .inl ⟨rfl, there⟩
  · rw [Function.update_of_ne here] at there
    exact .inr there

theorem Consistent.consumed {enrollment : RelayEnrollment} {receiptDigest : List UInt8}
    (holds : Consistent registry state) (made : call.material registry = .ok material)
    (found : state.enrollment material.tokenDigest = some enrollment)
    (unused : enrollment.usedAt = none)
    (derived : registry.deriveReceipt call.token enrollment.id material.requestDigest = .ok receipt)
    (registered : entry.registration = some (enrolledRegistration call material enrollment.id
      receiptDigest)) :
    Consistent registry {
      enrollments := put RelayEnrollment.tokenDigest state.enrollments { enrollment with
        usedAt := some call.now
        enrolledNodeId := some call.nodeId }
      entries := Function.update state.entries call.nodeId entry
      consumed := ⟨call, material.tokenDigest, enrollment.id, material.requestDigest, receipt⟩ ::
        state.consumed } := by
  have own : enrollment.tokenDigest = material.tokenDigest := row_key found
  have unspent : ∀ consumption ∈ state.consumed, consumption.tokenDigest ≠ material.tokenDigest := by
    intro consumption member same
    obtain ⟨other, there, _, spent⟩ := holds.used consumption member
    cases Option.some.inj (found.symm.trans (same ▸ there))
    simp [unused] at spent
  refine ⟨?_, ?_, ?_, ?_, ?_, ?_⟩
  · have stood : ∀ row ∈ put RelayEnrollment.tokenDigest state.enrollments { enrollment with
          usedAt := some call.now
          enrolledNodeId := some call.nodeId },
        ∃ before ∈ state.enrollments, row.id = before.id ∧ row.tokenDigest = before.tokenDigest := by
      intro row member
      rcases mem_put member with rfl | ⟨before, _⟩
      · exact ⟨enrollment, row_mem found, rfl, rfl⟩
      · exact ⟨row, before, rfl, rfl⟩
    intro first member second listed same
    obtain ⟨one, before, id, digest⟩ := stood first member
    obtain ⟨two, there, otherId, otherDigest⟩ := stood second listed
    rw [digest, otherDigest]
    exact holds.ids one before two there (id.symm.trans (same.trans otherId))
  · intro consumption member
    unfold RegistryState.enrollment
    rw [row_put]
    rcases List.mem_cons.mp member with rfl | before
    · simp [own]
    · rw [if_neg fun same => unspent consumption before (same.symm.trans own)]
      exact holds.used consumption before
  · refine List.forall_mem_cons.mpr ⟨⟨material, made, rfl, rfl, derived⟩, holds.made⟩
  · refine List.nodup_cons.mpr ⟨fun spent => ?_, holds.once⟩
    obtain ⟨consumption, member, same⟩ := List.mem_map.mp spent
    exact unspent consumption member same
  · intro nodeId registration there
    rcases registration_updated there with ⟨here, new⟩ | before
    · rw [registered] at new
      cases Option.some.inj (mem_def.mp new)
      exact ⟨_, (.head _), here.symm, rfl, rfl⟩
    · obtain ⟨consumption, member, same⟩ := holds.registered nodeId registration before
      exact ⟨consumption, .tail _ member, same⟩
  · intro nodeId registration there status
    rcases registration_updated there with ⟨_, new⟩ | before
    · rw [registered] at new
      cases Option.some.inj (mem_def.mp new)
      rfl
    · exact holds.pending nodeId registration before status

variable {operation : Operation}

/-- **The other operations** keep the enrollment of a registration, and issue nothing for a pending one. -/
theorem registration_kept {after : Entry} (effect : Effect registry entry operation after)
    (other : operation.enrolls = false) :
    ∀ registration ∈ after.registration, ∃ before ∈ entry.registration,
      registration.enrollmentId = before.enrollmentId ∧
        registration.requestDigest = before.requestDigest ∧
        (registration.status = .pending →
          before.status = .pending ∧ registration.certificateExpiresAt = before.certificateExpiresAt) := by
  have same : ∀ registration ∈ entry.registration, ∃ before ∈ entry.registration,
      registration.enrollmentId = before.enrollmentId ∧
        registration.requestDigest = before.requestDigest ∧
        (registration.status = .pending →
          before.status = .pending ∧ registration.certificateExpiresAt = before.certificateExpiresAt) :=
    fun registration found => ⟨registration, found, rfl, rfl, fun pending => ⟨pending, rfl⟩⟩
  cases effect with
  | enrollmentRepeated _ | enrolled _ _ _ => cases other
  | approved _ found _ =>
    intro registration member
    cases Option.some.inj (mem_def.mp member)
    exact ⟨_, found, rfl, rfl, fun pending => nomatch pending⟩
  | pickedUp _ found approved _ _ =>
    intro registration member
    cases Option.some.inj (mem_def.mp member)
    exact ⟨_, found, rfl, rfl, fun pending => nomatch approved.symm.trans pending⟩
  | renewed numbered _ _ =>
    intro registration member
    cases Option.some.inj (mem_def.mp member)
    exact ⟨_, numbered.foundRegistration, rfl, rfl, fun pending => nomatch numbered.approved.symm.trans pending⟩
  | revoked _ =>
    intro registration member
    obtain ⟨before, found, rfl⟩ := map_eq_some_iff.mp (mem_def.mp member)
    exact ⟨before, found, rfl, rfl, fun pending => nomatch pending⟩
  | pickupPending _ _ _ | pickupRepeated _ _ _ | renewalRepeated _ | heartbeat _ _ | rotationKept _ _ _
  | rotationRequested _ _ _ | uploaded _ _ _ _ _ _ | commitRepeated _ _ | committed _ _ _ _ _
  | rotationStatus _ | drained _ _ | resumed _ _ _ => exact same

theorem Consistent.operated {nodeId : String} {after : Entry} (holds : Consistent registry state)
    (effect : Effect registry (state.entries nodeId) operation after)
    (other : operation.enrolls = false) :
    Consistent registry { state with entries := Function.update state.entries nodeId after } := by
  have kept := registration_kept effect other
  refine ⟨holds.ids, holds.used, holds.made, holds.once, ?_, ?_⟩
  · intro anyNode registration there
    rcases registration_updated there with ⟨rfl, new⟩ | stood
    · obtain ⟨before, found, enrollment, digest, _⟩ := kept registration new
      rw [enrollment, digest]
      exact holds.registered anyNode before found
    · exact holds.registered anyNode registration stood
  · intro anyNode registration there pending
    rcases registration_updated there with ⟨rfl, new⟩ | stood
    · obtain ⟨before, found, _, _, listed⟩ := kept registration new
      obtain ⟨stood, expiry⟩ := listed pending
      rw [expiry]
      exact holds.pending anyNode before found stood
    · exact holds.pending anyNode registration stood pending

/-- **Each step keeps the invariant.** -/
theorem Consistent.step (holds : Consistent registry state) {event : RegistryEvent} {later : RegistryState}
    (taken : state.step registry event = some later) : Consistent registry later := by
  cases event with
  | issueToken enrollment =>
    cases taken
    exact holds.issueToken enrollment
  | requestEnrollment call =>
    unfold RegistryState.step at taken
    dsimp only at taken
    split at taken
    next after receipt done =>
      cases taken
      obtain ⟨material, enrollment, made, found, _, ⟨_, same, _⟩ | ⟨unused, _, derived, _, _, same⟩⟩ :=
        requestEnrollment_cases done
      · simp [same, holds]
      · simpa [same] using holds.consumed made found unused derived rfl
    · cases taken
      exact holds
  | operate nodeId operation =>
    unfold RegistryState.step at taken
    dsimp only at taken
    split at taken
    · cases taken
    next other =>
      split at taken
      next after performed =>
        cases taken
        exact holds.operated (perform_effect performed) (Bool.eq_false_of_not_eq_true other)
      · cases taken
        exact holds

/-! ### The result -/

/-- What is stored of a node is held: a pending registration whose receipt has not expired, or a certificate
that is valid. -/
def Entry.held (entry : Entry) (now : Nat) : Prop :=
  ∃ registration ∈ entry.registration,
    (registration.status = .pending ∧ registration.receiptExpiresAt.any (now < ·)) ∨
      (registration.certificatePem.isSome ∧ registration.certificateExpiresAt.any (now < ·))

/-- **What is held cannot be registered again.** -/
theorem not_recoverable (node : Option RelayNode) {now : Nat}
    (unissued : registration.status = .pending → registration.certificateExpiresAt = none)
    (held : (registration.status = .pending ∧ registration.receiptExpiresAt.any (now < ·)) ∨
      (registration.certificatePem.isSome ∧ registration.certificateExpiresAt.any (now < ·))) :
    registrationRecoverable registration node now = false := by
  unfold registrationRecoverable
  split
  · rfl
  · split
    · rfl
    next expired =>
      rcases held with ⟨pending, valid⟩ | certified
      · rw [unissued pending]
        cases receipt : registration.receiptExpiresAt with
        | none =>
          simp [receipt] at valid
        | some until' =>
          rw [receipt] at valid
          exact decide_eq_false (Nat.not_le.mpr (of_decide_eq_true valid))
      · exact absurd certified expired

/-- A retry answers for the registration of its enrollment. -/
theorem retry_ok {enrollment : RelayEnrollment} {registration : Option RelayNodeRegistration}
    {token : String} {requestDigest : List UInt8}
    (done : idempotentEnrollmentRetry registry enrollment registration token requestDigest = .ok receipt) :
    ∃ found, registration = some found ∧ found.enrollmentId = enrollment.id ∧
      found.requestDigest = some requestDigest ∧
      registry.deriveReceipt token enrollment.id requestDigest = .ok receipt := by
  obtain ⟨found, there, done⟩ := bind_ok done
  obtain ⟨own, done⟩ := guarded_ok done
  obtain ⟨derived, given, done⟩ := bind_ok done
  obtain ⟨digest, _, done⟩ := bind_ok done
  cases guard_ok done
  obtain ⟨enrolled, digests⟩ := not_or.mp own
  exact ⟨found, required_ok there, not_not.mp enrolled, not_not.mp digests, given⟩

theorem Consistent.retried (holds : Consistent registry state)
    (injective : Function.Injective registry.sha256) {consumption : Consumption}
    (member : consumption ∈ state.consumed) (token : call.token = consumption.call.token)
    (done : state.requestEnrollment registry call = .ok (after, receipt)) :
    after = state ∧ receipt = consumption.receipt ∧ SameRequest registry consumption.call call ∧
      ∃ registration ∈ (state.entries call.nodeId).registration,
        registration.enrollmentId = consumption.enrollmentId := by
  obtain ⟨used, foundUsed, ownId, spent⟩ := holds.used consumption member
  obtain ⟨first, madeFirst, firstToken, firstRequest, derivedFirst⟩ := holds.made consumption member
  obtain ⟨material, enrollment, made, found, _, cases⟩ := requestEnrollment_cases done
  have tokens : material.tokenDigest = consumption.tokenDigest := by
    have one := (material_ok made).token
    have two := (material_ok madeFirst).token
    rw [token] at one
    exact (Except.ok.inj (one.symm.trans two)).trans firstToken
  rw [tokens, foundUsed] at found
  cases found
  rcases cases with ⟨_, unchanged, retried⟩ | ⟨unused, _⟩
  · obtain ⟨registration, there, enrolled, digest, derived⟩ := retry_ok retried
    obtain ⟨other, listed, node, sameId, sameDigest⟩ :=
      holds.registered call.nodeId registration (mem_def.mpr there)
    cases holds.unique listed member (sameId.symm.trans (enrolled.trans ownId))
    have requests : consumption.requestDigest = material.requestDigest :=
      Option.some.inj (sameDigest.symm.trans digest)
    refine ⟨unchanged, ?_, ?_, registration, there, sameId⟩
    · rw [token, ownId, ← requests] at derived
      exact Except.ok.inj (derived.symm.trans derivedFirst)
    · exact sameRequest_of_digest injective (material_ok madeFirst) (material_ok made)
        (firstRequest.trans requests)
  · simp [unused] at spent

theorem Consistent.notOverwritten (holds : Consistent registry state)
    (held : (state.entries call.nodeId).held call.now)
    (done : state.requestEnrollment registry call = .ok (after, receipt)) : after = state := by
  obtain ⟨material, enrollment, _, _, _, ⟨_, same, _⟩ | ⟨_, recoverable, _⟩⟩ := requestEnrollment_cases done
  · exact same
  · obtain ⟨registration, found, valid⟩ := held
    have stuck := not_recoverable (state.entries call.nodeId).node
      (holds.pending call.nodeId registration found) valid
    cases stuck.symm.trans (recoverable registration found)

/-- **An enrollment token enrolls one node once.** In every run of enrollments, of issues of tokens and of
other operations on the nodes: no two calls consumed the same token; a call with a token that was consumed
succeeds only if it asks for the same as the call that consumed it and the registration of the node is still
of that enrollment, and then it returns the same receipt and changes nothing; and no call changes anything on
a node whose pending registration has not expired or whose certificate is valid. -/
theorem token_enrolls_once (injective : Function.Injective registry.sha256)
    (reach : Reach (RegistryState.step registry) always .empty state) :
    (state.consumed.map fun consumption => consumption.call.token).Nodup ∧
      (∀ consumption ∈ state.consumed, ∀ call after receipt, call.token = consumption.call.token →
        state.requestEnrollment registry call = .ok (after, receipt) →
          after = state ∧ receipt = consumption.receipt ∧ SameRequest registry consumption.call call ∧
            ∃ registration ∈ (state.entries call.nodeId).registration,
              registration.enrollmentId = consumption.enrollmentId) ∧
      ∀ call after receipt, (state.entries call.nodeId).held call.now →
        state.requestEnrollment registry call = .ok (after, receipt) → after = state := by
  have holds : Consistent registry state :=
    reach.invariant consistent_empty fun _ _ _ holds _ taken => holds.step taken
  refine ⟨?_, fun consumption member call after receipt token done =>
    holds.retried injective member token done, fun call after receipt held done =>
    holds.notOverwritten held done⟩
  refine List.Nodup.map_on (fun first member second listed same => ?_) (List.Nodup.of_map _ holds.once)
  obtain ⟨one, madeOne, tokenOne, _⟩ := holds.made first member
  obtain ⟨two, madeTwo, tokenTwo, _⟩ := holds.made second listed
  have digestOne := (material_ok madeOne).token
  have digestTwo := (material_ok madeTwo).token
  rw [same] at digestOne
  have digests := Except.ok.inj (digestOne.symm.trans digestTwo)
  exact List.inj_on_of_nodup_map holds.once member listed (tokenOne.symm.trans (digests.trans tokenTwo))

/-- The same request, with its endpoint written out. -/
def sampleRetry : EnrollmentCall := { sampleEnrollmentCall with
  endpoints := ["turn:a:1?transport=udp"]
  now := timedelta 101 }

/-- A token is issued and consumed. -/
def sampleConsumed : List RegistryEvent :=
  [.issueToken sampleEnrollment, .requestEnrollment sampleEnrollmentCall]

/-- The call that consumed the token, and what the retry returns. -/
theorem sample_retried : ∃ state : RegistryState,
    Reach (RegistryState.step sampleRegistry) always .empty state ∧
      ∃ consumption ∈ state.consumed, consumption.call.token = sampleToken ∧
        consumption.call.endpoints = ["turn:a:1"] ∧
        ∃ after, state.requestEnrollment sampleRegistry sampleRetry = .ok (after, consumption.receipt) := by
  have ran : (run (RegistryState.step sampleRegistry) .empty sampleConsumed).map (fun state =>
      (state.consumed.map (fun consumption =>
        (consumption.call.token, consumption.call.endpoints, consumption.receipt)),
      (state.requestEnrollment sampleRegistry sampleRetry).toOption.map Prod.snd)) =
    some ([(sampleToken, ["turn:a:1"], sampleReceipt)], some sampleReceipt) := by decide +kernel
  obtain ⟨state, reached, same⟩ := map_eq_some_iff.mp ran
  obtain ⟨consumed, retried⟩ := Prod.mk.inj same
  obtain ⟨consumption, member, fields⟩ : ∃ consumption ∈ state.consumed,
      (consumption.call.token, consumption.call.endpoints, consumption.receipt) =
        (sampleToken, ["turn:a:1"], sampleReceipt) :=
    List.mem_map.mp (consumed ▸ List.mem_singleton.mpr rfl)
  obtain ⟨token, rest⟩ := Prod.mk.inj fields
  obtain ⟨endpoints, receipt⟩ := Prod.mk.inj rest
  obtain ⟨⟨after, given⟩, done, returned⟩ := map_eq_some_iff.mp retried
  change given = sampleReceipt at returned
  have finished := ok_of_toOption done
  rw [returned, ← receipt] at finished
  exact ⟨state, run_reach reached, consumption, member, token, endpoints, after, finished⟩

/-- A call with the token of another succeeds though its endpoints are spelled in another way. -/
theorem exists_retry_respelled : ∃ state : RegistryState,
    Reach (RegistryState.step sampleRegistry) always .empty state ∧
      ∃ consumption ∈ state.consumed, ∃ call after receipt, call.token = consumption.call.token ∧
        call.endpoints ≠ consumption.call.endpoints ∧
        state.requestEnrollment sampleRegistry call = .ok (after, receipt) := by
  obtain ⟨state, reach, consumption, member, token, endpoints, after, done⟩ := sample_retried
  refine ⟨state, reach, consumption, member, sampleRetry, after, _, token.symm, ?_, done⟩
  rw [endpoints]
  decide

/-- SHA-256 of the sample is the identity. The retry is that of the same request. -/
theorem token_enrolls_once_sample : ∃ state : RegistryState, ∃ consumption ∈ state.consumed,
    state.requestEnrollment sampleRegistry sampleRetry = .ok (state, consumption.receipt) ∧
      SameRequest sampleRegistry consumption.call sampleRetry := by
  obtain ⟨state, reach, consumption, member, token, _, after, done⟩ := sample_retried
  obtain ⟨rfl, _, same, _⟩ := (token_enrolls_once (fun _ _ equal => equal) reach).2.1 consumption member
    sampleRetry after _ token.symm done
  exact ⟨_, consumption, member, done, same⟩

end MiniRemoteDesktop.Registry
