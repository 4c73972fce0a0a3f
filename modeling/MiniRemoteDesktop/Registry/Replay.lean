/-
**Signed requests are accepted once.**

The requests under one certificate are numbered upwards. The number of the last one is kept with the node:
under the current certificate as `heartbeatSequence`, under the one before as
`previousIdentitySequence`; a renewal moves the one to the other, and a pickup starts the first again.

* `Watermarks` — **the invariant**: both watermarks are above what was accepted under their certificates.
* `requests_increase` — **under each certificate the numbers increase over the whole run**.
-/

import MiniRemoteDesktop.Registry.Runs

namespace MiniRemoteDesktop.Registry

open List (forall_mem_cons)
open Option (map_eq_some_iff mem_def some_ne_none)
open Execution
open Relay.Server (NodeState RegistrationStatus)

/-! ### What was accepted -/

/-- The certificate and the number of a signed request. -/
def Operation.signed : Operation → Option (String × Int)
  | renew call => some (call.identity.certificateFingerprint, call.sequence)
  | recordHeartbeat call => some (call.identity.certificateFingerprint, call.sequence)
  | uploadSecretRotation call => some (call.identity.certificateFingerprint, call.sequence)
  | commitSecretRotation call => some (call.identity.certificateFingerprint, call.sequence)
  | secretRotationStatus call => some (call.identity.certificateFingerprint, call.sequence)
  | _ => none

/-- The signed requests that were accepted, the last one first. -/
def accepted (log : List (Operation × Entry)) : List (String × Int) :=
  log.filterMap fun done => done.1.signed

/-- The fingerprint of a node. -/
def Entry.fingerprint (entry : Entry) : Option String := entry.node.map (·.certificateFingerprint)

/-- The fingerprints that the node has had. -/
def boundFingerprints (log : List (Operation × Entry)) : List String :=
  log.filterMap fun done => done.2.fingerprint

/-- The certificate that the authority signs in a call. -/
def Operation.certificate : Operation → Option IssuedRelayCertificate
  | pickup call => call.certificate
  | renew call => call.certificate
  | _ => none

/-- **The fingerprint of a certificate that is signed is fresh.** -/
def Fresh (history : History) (operation : Operation) : Prop :=
  ∀ certificate ∈ operation.certificate, certificate.fingerprint ∉ boundFingerprints history.log

def isFresh (history : History) (operation : Operation) : Bool :=
  operation.certificate.all fun certificate => certificate.fingerprint ∉ boundFingerprints history.log

theorem fresh_of_isFresh {history : History} {operation : Operation}
    (checked : isFresh history operation = true) : Fresh history operation := by
  intro certificate signed
  unfold isFresh at checked
  rw [mem_def.mp signed] at checked
  exact of_decide_eq_true checked

/-! ### Watermarks -/

/-- Requests under the same certificate, the later one with the higher number. -/
def Increases (later earlier : String × Int) : Prop := later.1 = earlier.1 → earlier.2 < later.2

/-- **The invariant.** -/
structure Watermarks (history : History) : Prop where
  increases : (accepted history.log).Pairwise Increases
  bound : ∀ request ∈ accepted history.log, request.1 ∈ boundFingerprints history.log
  currentBound : ∀ node ∈ history.entry.node,
    node.certificateFingerprint ∈ boundFingerprints history.log
  current : ∀ node ∈ history.entry.node, ∀ request ∈ accepted history.log,
    request.1 = node.certificateFingerprint → request.2 ≤ node.heartbeatSequence
  previousBound : ∀ registration ∈ history.entry.registration,
    ∀ fingerprint ∈ registration.previousCertificateFingerprint,
      fingerprint ∈ boundFingerprints history.log
  apart : ∀ node ∈ history.entry.node, ∀ registration ∈ history.entry.registration,
    registration.previousCertificateFingerprint ≠ some node.certificateFingerprint
  previous : ∀ node ∈ history.entry.node, ∀ registration ∈ history.entry.registration,
    ∀ request ∈ accepted history.log, registration.previousCertificateFingerprint = some request.1 →
        request.2 ≤ node.previousIdentitySequence.getD 0
  unissued : ∀ registration ∈ history.entry.registration, registration.certificatePem = none →
    registration.previousCertificateFingerprint = none

theorem watermarks_start : Watermarks .start where
  increases := List.Pairwise.nil
  bound := List.forall_mem_nil _
  currentBound := fun _ found => nomatch found
  current := fun _ found => nomatch found
  previousBound := fun _ found => nomatch found
  apart := fun _ found => nomatch found
  previous := fun _ found => nomatch found
  unissued := fun _ found => nomatch found

variable {registry : RelayRegistry} {history : History} {operation : Operation} {after : Entry}

theorem bound_mono {fingerprint : String} (there : fingerprint ∈ boundFingerprints history.log) :
    fingerprint ∈ boundFingerprints ((operation, after) :: history.log) := by
  unfold boundFingerprints at there ⊢
  rw [List.filterMap_cons]
  split
  · exact there
  · exact .tail _ there

theorem bound_node {node : RelayNode} (found : after.node = some node) :
    node.certificateFingerprint ∈ boundFingerprints ((operation, after) :: history.log) := by
  refine List.mem_filterMap.mpr ⟨_, (.head _), ?_⟩
  show after.node.map _ = _
  rw [found]
  rfl

theorem accepted_unsigned (unsigned : operation.signed = none) :
    accepted ((operation, after) :: history.log) = accepted history.log :=
  List.filterMap_cons_none (f := fun done : Operation × Entry => done.1.signed) unsigned

/-- A step that keeps the identities: no signed request, and what there was of certificates and
watermarks. -/
theorem Watermarks.kept (marks : Watermarks history) (unsigned : operation.signed = none)
    (nodes : ∀ node ∈ after.node, ∃ old ∈ history.entry.node,
      node.certificateFingerprint = old.certificateFingerprint ∧
        node.heartbeatSequence = old.heartbeatSequence ∧
        node.previousIdentitySequence = old.previousIdentitySequence)
    (registrations : ∀ registration ∈ after.registration,
      registration.previousCertificateFingerprint = none ∨ ∃ old ∈ history.entry.registration,
          registration.previousCertificateFingerprint = old.previousCertificateFingerprint ∧
            registration.certificatePem = old.certificatePem) :
    Watermarks ⟨after, (operation, after) :: history.log⟩ := by
  have same : accepted ((operation, after) :: history.log) = accepted history.log :=
    accepted_unsigned unsigned
  refine ⟨?_, ?_, ?_, ?_, ?_, ?_, ?_, ?_⟩
  · simp [same, marks.increases]
  · rw [same]
    exact fun request member => bound_mono (marks.bound request member)
  · exact fun node found => bound_node found
  · intro node found request member equal
    rw [same] at member
    obtain ⟨old, there, fingerprint, sequence, _⟩ := nodes node found
    rw [sequence]
    exact marks.current old there request member (equal.trans fingerprint)
  · intro registration found fingerprint named
    rcases registrations registration found with cleared | ⟨old, there, kept, _⟩
    · simp [cleared] at named
    · exact bound_mono (marks.previousBound old there fingerprint (kept ▸ named))
  · intro node found registration listed equal
    obtain ⟨old, there, fingerprint, _⟩ := nodes node found
    rcases registrations registration listed with cleared | ⟨other, present, kept, _⟩
    · cases cleared.symm.trans equal
    · exact marks.apart old there other present (kept.symm.trans (fingerprint ▸ equal))
  · intro node found registration listed request member equal
    rw [same] at member
    obtain ⟨old, there, _, _, sequence⟩ := nodes node found
    rw [sequence]
    rcases registrations registration listed with cleared | ⟨other, present, kept, _⟩
    · cases cleared.symm.trans equal
    · exact marks.previous old there other present request member (kept.symm.trans equal)
  · intro registration listed unissued
    rcases registrations registration listed with cleared | ⟨other, present, kept, same⟩
    · exact cleared
    · exact kept.trans (marks.unissued other present (same.symm.trans unissued))

variable {identity : RelayIdentity} {now : Nat} {node next : RelayNode}
  {registration : RelayNodeRegistration} {sequence : Int}

theorem accepted_signed (signed : operation.signed = some (identity.certificateFingerprint, sequence)) :
    accepted ((operation, after) :: history.log) =
      (identity.certificateFingerprint, sequence) :: accepted history.log :=
  List.filterMap_cons_some (f := fun done : Operation × Entry => done.1.signed) signed

/-- **A signed request** above what was accepted with its certificate, once the node covers it too. -/
theorem Watermarks.signed (marks : Watermarks history)
    (signed : operation.signed = some (identity.certificateFingerprint, sequence))
    (found : history.entry.node = some node) (nodeAfter : after.node = some next)
    (registrationAfter : after.registration = history.entry.registration)
    (fingerprint : next.certificateFingerprint = node.certificateFingerprint)
    (bound : identity.certificateFingerprint ∈ boundFingerprints history.log)
    (below : ∀ request ∈ accepted history.log,
      request.1 = identity.certificateFingerprint → request.2 < sequence)
    (current : ∀ request ∈ (identity.certificateFingerprint, sequence) :: accepted history.log,
      request.1 = node.certificateFingerprint → request.2 ≤ next.heartbeatSequence)
    (previous : ∀ registration ∈ history.entry.registration,
      ∀ request ∈ (identity.certificateFingerprint, sequence) :: accepted history.log,
        registration.previousCertificateFingerprint = some request.1 →
          request.2 ≤ next.previousIdentitySequence.getD 0) :
    Watermarks ⟨after, (operation, after) :: history.log⟩ := by
  have requests : accepted ((operation, after) :: history.log) =
      (identity.certificateFingerprint, sequence) :: accepted history.log := accepted_signed signed
  refine ⟨?_, ?_, fun other found => bound_node found, ?_, ?_, ?_, ?_, ?_⟩
  · rw [requests]
    exact List.pairwise_cons.mpr
      ⟨fun request member equal => below request member equal.symm, marks.increases⟩
  · rw [requests]
    exact forall_mem_cons.mpr
      ⟨bound_mono bound, fun request member => bound_mono (marks.bound request member)⟩
  · intro other there
    cases Option.some.inj (nodeAfter.symm.trans there)
    rw [requests, fingerprint]
    exact current
  all_goals dsimp only at *; rw [registrationAfter]
  · exact fun other listed named member => bound_mono (marks.previousBound other listed named member)
  · intro other there
    cases Option.some.inj (nodeAfter.symm.trans there)
    rw [fingerprint]
    exact marks.apart node found
  · intro other there
    cases Option.some.inj (nodeAfter.symm.trans there)
    rw [requests]
    exact previous
  · exact marks.unissued

/-- **A request under the current certificate** raises its watermark. -/
theorem Watermarks.signedCurrent (marks : Watermarks history)
    (signed : operation.signed = some (identity.certificateFingerprint, sequence))
    (numbered : Numbered history.entry identity now node registration .current sequence)
    (nodeAfter : after.node = some next) (registrationAfter : after.registration = history.entry.registration)
    (fingerprint : next.certificateFingerprint = node.certificateFingerprint)
    (raised : next.heartbeatSequence = sequence)
    (other : next.previousIdentitySequence = node.previousIdentitySequence) :
    Watermarks ⟨after, (operation, after) :: history.log⟩ := by
  have found := mem_def.mpr numbered.foundNode
  have mine := numbered.current rfl
  have below : ∀ request ∈ accepted history.log,
      request.1 = node.certificateFingerprint → request.2 < sequence :=
    fun request member equal => Int.lt_of_le_of_lt (marks.current node found request member equal) numbered.above
  refine marks.signed signed found nodeAfter registrationAfter fingerprint
    (mine ▸ marks.currentBound node found) (mine ▸ below) (forall_mem_cons.mpr ⟨fun _ => raised.ge,
      fun request member equal => raised ▸ (below request member equal).le⟩)
    fun listed present => forall_mem_cons.mpr ⟨fun equal => ?_, ?_⟩
  · exact absurd (equal.trans (congrArg some mine.symm)) (marks.apart node found listed present)
  · exact other ▸ marks.previous node found listed present

/-- **A retry under the previous certificate** raises the other watermark. -/
theorem Watermarks.signedPrevious (marks : Watermarks history)
    (signed : operation.signed = some (identity.certificateFingerprint, sequence))
    (numbered : Numbered history.entry identity now node registration .previous sequence)
    (nodeAfter : after.node = some next) (registrationAfter : after.registration = history.entry.registration)
    (fingerprint : next.certificateFingerprint = node.certificateFingerprint)
    (kept : next.heartbeatSequence = node.heartbeatSequence)
    (raised : next.previousIdentitySequence = some sequence) :
    Watermarks ⟨after, (operation, after) :: history.log⟩ := by
  have found := mem_def.mpr numbered.foundNode
  have listed := mem_def.mpr numbered.foundRegistration
  have mine := numbered.previous rfl
  have below : ∀ request ∈ accepted history.log,
      request.1 = identity.certificateFingerprint → request.2 < sequence :=
    fun request member equal => Int.lt_of_le_of_lt (marks.previous node found registration listed request
      member (mine.trans (congrArg some equal.symm))) numbered.above
  refine marks.signed signed found nodeAfter registrationAfter fingerprint
    (marks.previousBound registration listed _ mine) below (forall_mem_cons.mpr ⟨fun equal => ?_, ?_⟩)
    fun other present => ?_
  · exact absurd (mine.trans (congrArg some equal)) (marks.apart node found registration listed)
  · exact kept ▸ marks.current node found
  · cases Option.some.inj (listed.symm.trans present)
    rw [raised, mine]
    exact forall_mem_cons.mpr ⟨fun _ => le_rfl,
      fun request member equal => (below request member (Option.some.inj equal).symm).le⟩

/-- **A new certificate**, under which nothing was accepted. -/
theorem watermarks_issued {last : RelayNodeRegistration}
    (increases : (accepted ((operation, after) :: history.log)).Pairwise Increases)
    (bound : ∀ request ∈ accepted ((operation, after) :: history.log),
      request.1 ∈ boundFingerprints history.log)
    (nodeAfter : after.node = some next) (registrationAfter : after.registration = some last)
    (fresh : next.certificateFingerprint ∉ boundFingerprints history.log)
    (issued : last.certificatePem ≠ none)
    (previousBound : ∀ fingerprint ∈ last.previousCertificateFingerprint,
      fingerprint ∈ boundFingerprints history.log)
    (previous : ∀ request ∈ accepted ((operation, after) :: history.log),
      last.previousCertificateFingerprint = some request.1 →
        request.2 ≤ next.previousIdentitySequence.getD 0) :
    Watermarks ⟨after, (operation, after) :: history.log⟩ := by
  refine ⟨increases, fun request member => bound_mono (bound request member),
    fun other found => bound_node found, ?_, ?_, ?_, ?_, ?_⟩
  · intro other there request member equal
    cases Option.some.inj (nodeAfter.symm.trans there)
    exact absurd (equal ▸ bound request member) fresh
  · intro other listed fingerprint named
    cases Option.some.inj (registrationAfter.symm.trans listed)
    exact bound_mono (previousBound fingerprint named)
  · intro other there registration listed equal
    cases Option.some.inj (nodeAfter.symm.trans there)
    cases Option.some.inj (registrationAfter.symm.trans listed)
    exact fresh (previousBound _ equal)
  · intro other there registration listed request member equal
    cases Option.some.inj (nodeAfter.symm.trans there)
    cases Option.some.inj (registrationAfter.symm.trans listed)
    exact previous request member equal
  · intro registration listed unissued
    cases Option.some.inj (registrationAfter.symm.trans listed)
    exact absurd unissued issued

theorem issueCertificate_node (entry : Entry) (registration : RelayNodeRegistration)
    (secret : List UInt8) (certificate : IssuedRelayCertificate) :
    ∃ next, (entry.issueCertificate registration secret certificate).node = some next ∧
      next.certificateFingerprint = certificate.fingerprint := by
  unfold Entry.issueCertificate
  cases entry.node with
  | none => exact ⟨_, rfl, rfl⟩
  | some node => exact ⟨_, rfl, rfl⟩

variable {audits : List String}

theorem Watermarks.pickedUp {call : PickupCall} {secret : List UInt8}
    {certificate : IssuedRelayCertificate} (marks : Watermarks history)
    (fresh : Fresh history (.pickup call)) (found : history.entry.registration = some registration)
    (first : registration.certificatePem = none) (issued : call.certificate = some certificate)
    (same : after = { history.entry.issueCertificate registration secret certificate with audits }) :
    Watermarks ⟨after, (.pickup call, after) :: history.log⟩ := by
  subst same
  have unsigned : accepted ((.pickup call, { history.entry.issueCertificate registration secret
      certificate with audits }) :: history.log) = accepted history.log := accepted_unsigned rfl
  have cleared := marks.unissued registration found first
  obtain ⟨next, nodeAfter, fingerprint⟩ :=
    issueCertificate_node history.entry registration secret certificate
  refine watermarks_issued ?_ ?_ nodeAfter rfl (fingerprint ▸ fresh certificate issued)
    (some_ne_none _) (fun named member => ?_) fun request _ equal => ?_
  · simp [unsigned, marks.increases]
  · rw [unsigned]
    exact marks.bound
  · cases cleared.symm.trans member
  · cases cleared.symm.trans equal

theorem Watermarks.renewed {call : RenewCall} {canonicalCsr signingPublicKey csrDigest : List UInt8}
    {certificate : IssuedRelayCertificate} {currentExpiry : Nat} (marks : Watermarks history)
    (fresh : Fresh history (.renew call))
    (numbered : Numbered history.entry call.identity call.now node registration .current call.sequence)
    (issued : call.certificate = some certificate)
    (nodeAfter : after.node = some (node.renewed certificate.fingerprint call.sequence))
    (registrationAfter : after.registration = some (registration.renewed node call canonicalCsr
      signingPublicKey csrDigest certificate currentExpiry)) :
    Watermarks ⟨after, (.renew call, after) :: history.log⟩ := by
  have found := mem_def.mpr numbered.foundNode
  have mine := numbered.current rfl
  have above : node.heartbeatSequence < call.sequence := numbered.above
  have requests : accepted ((.renew call, after) :: history.log) =
      (call.identity.certificateFingerprint, call.sequence) :: accepted history.log := accepted_signed rfl
  have below : ∀ request ∈ accepted history.log,
      request.1 = node.certificateFingerprint → request.2 < call.sequence :=
    fun request member equal => Int.lt_of_le_of_lt (marks.current node found request member equal) above
  refine watermarks_issued ?_ ?_ nodeAfter registrationAfter (fresh certificate issued)
    (some_ne_none _) (fun named member => ?_) fun request member equal => ?_
  · rw [requests]
    exact List.pairwise_cons.mpr ⟨fun request member equal =>
      below request member (equal.symm.trans mine.symm), marks.increases⟩
  · rw [requests]
    exact forall_mem_cons.mpr ⟨mine ▸ marks.currentBound node found, marks.bound⟩
  · cases Option.some.inj (mem_def.mp member)
    exact marks.currentBound node found
  · rw [requests] at member
    rcases List.mem_cons.mp member with rfl | before
    · exact le_rfl
    · exact Int.le_of_lt (below request before (Option.some.inj equal).symm)

theorem pending_identity {call : UploadCall} {secretDigest encrypted : List UInt8}
    (taken : node.pending call secretDigest encrypted = .ok (next, audits)) :
    next.certificateFingerprint = node.certificateFingerprint ∧
      next.previousIdentitySequence = node.previousIdentitySequence := by
  unfold RelayNode.pending at taken
  split at taken
  · cases (Checked.refused_ok taken).2
    exact ⟨rfl, rfl⟩
  · cases taken
    exact ⟨rfl, rfl⟩

/-- **Each operation keeps the watermarks.** -/
theorem watermarks_keep (marks : Watermarks history) (fresh : Fresh history operation)
    (effect : Effect registry history.entry operation after) :
    Watermarks ⟨after, (operation, after) :: history.log⟩ := by
  have sameNodes : ∀ node ∈ history.entry.node, ∃ old ∈ history.entry.node,
      node.certificateFingerprint = old.certificateFingerprint ∧
        node.heartbeatSequence = old.heartbeatSequence ∧
        node.previousIdentitySequence = old.previousIdentitySequence :=
    fun node found => ⟨node, found, rfl, rfl, rfl⟩
  have sameRegistrations : ∀ registration ∈ history.entry.registration,
      registration.previousCertificateFingerprint = none ∨ ∃ old ∈ history.entry.registration,
          registration.previousCertificateFingerprint = old.previousCertificateFingerprint ∧
            registration.certificatePem = old.certificatePem :=
    fun registration found => .inr ⟨registration, found, rfl, rfl⟩
  -- A node that is written over keeps its identities in most of the operations.
  have written : ∀ {node next : RelayNode}, history.entry.node = some node →
      next.certificateFingerprint = node.certificateFingerprint →
      next.heartbeatSequence = node.heartbeatSequence →
      next.previousIdentitySequence = node.previousIdentitySequence →
      ∀ written ∈ some next, ∃ old ∈ history.entry.node,
        written.certificateFingerprint = old.certificateFingerprint ∧
          written.heartbeatSequence = old.heartbeatSequence ∧
          written.previousIdentitySequence = old.previousIdentitySequence := by
    intro node next found fingerprint sequence previous written there
    cases Option.some.inj (mem_def.mp there)
    exact ⟨node, found, fingerprint, sequence, previous⟩
  cases effect with
  | enrollmentRepeated _ | pickupPending _ _ _ | pickupRepeated _ _ _ | rotationKept _ _ _ =>
    exact marks.kept rfl sameNodes sameRegistrations
  | enrolled _ _ _ =>
    refine marks.kept rfl (fun node found => ?_) fun registration found => ?_
    · obtain ⟨old, there, rfl⟩ := map_eq_some_iff.mp found
      exact ⟨old, there, rfl, rfl, rfl⟩
    · cases Option.some.inj (mem_def.mp found)
      exact .inl rfl
  | approved _ found _ =>
    refine marks.kept rfl sameNodes fun registration member => .inr ?_
    cases Option.some.inj (mem_def.mp member)
    exact ⟨_, found, rfl, rfl⟩
  | pickedUp _ found _ first issued => exact marks.pickedUp fresh found first issued rfl
  | renewalRepeated numbered => exact marks.signedPrevious rfl numbered rfl rfl rfl rfl rfl
  | renewed numbered _ issued => exact marks.renewed fresh numbered issued rfl rfl
  | rotationRequested found _ _ | drained found _ | resumed found _ _ =>
    exact marks.kept rfl (written found rfl rfl rfl) sameRegistrations
  | uploaded numbered _ _ _ _ taken =>
    obtain ⟨fingerprint, previous⟩ := pending_identity taken
    exact marks.signedCurrent rfl numbered rfl rfl fingerprint rfl previous
  | heartbeat numbered _ | commitRepeated numbered _ | committed numbered _ _ _ _ | rotationStatus numbered =>
    exact marks.signedCurrent rfl numbered rfl rfl rfl rfl rfl
  | revoked _ =>
    refine marks.kept rfl (fun node found => ?_) fun registration found => .inr ?_
    · obtain ⟨old, there, rfl⟩ := map_eq_some_iff.mp found
      exact ⟨old, there, rfl, rfl, rfl⟩
    · obtain ⟨old, there, rfl⟩ := map_eq_some_iff.mp found
      exact ⟨old, there, rfl, rfl⟩

/-- **Signed requests are accepted once.** In every run of operations on a node in which each certificate
has a fresh fingerprint, the requests that were accepted under one certificate have increasing numbers;
and what is refused leaves everything as it is. -/
theorem requests_increase {registry : RelayRegistry} {history : History}
    (reach : Reach (History.step registry) Fresh .start history) :
    (accepted history.log).Pairwise Increases ∧
      ∀ operation error, operation.perform registry history.entry = .error error →
        history.step registry operation = some history := by
  have marks : Watermarks history := reach_keeps watermarks_start
    (fun _ _ _ marks fresh effect => watermarks_keep marks fresh effect) reach
  refine ⟨marks.increases, fun operation error refused => ?_⟩
  simp [History.step, refused]

/-- A heartbeat, a renewal, its retry under the first certificate, a heartbeat under the second, and the
same again. -/
theorem requests_increase_sample : ∃ history : History,
    accepted history.log = [("second", 1), ("first", 4), ("first", 3), ("first", 1)] ∧
      (accepted history.log).Pairwise Increases := by
  have ran : (runChecked isFresh (History.step sampleRegistry) .start (sampleStart ++ [
      .recordHeartbeat (sampleHeartbeat "first" 1 1 103),
      .renew (sampleRenewal "first" "second" 3 104),
      .renew (sampleRenewal "first" "third" 4 105),
      .recordHeartbeat (sampleHeartbeat "second" 1 2 106),
      .recordHeartbeat (sampleHeartbeat "second" 1 2 107)])).map (fun history => accepted history.log) =
    some [("second", 1), ("first", 4), ("first", 3), ("first", 1)] := by decide +kernel
  obtain ⟨history, reached, same⟩ := map_eq_some_iff.mp ran
  have reach : Reach (History.step sampleRegistry) Fresh .start history :=
    runChecked_reach reached fun _ _ => fresh_of_isFresh
  exact ⟨history, same, (requests_increase reach).1⟩

end MiniRemoteDesktop.Registry
