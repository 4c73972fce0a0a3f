/-
**The operations of the store** (`mrd-store-sqlite`, the writing half of `identity_store.rs`,
`trust_store.rs`, `audit_store.rs`, `integrity.rs` and `lib.rs`).

Every operation is one transaction: it verifies the whole store, writes its rows, recomputes the
commitments that its writes touch, seals the metadata under a new generation, and commits. The
constraints of the schema are checked where a row is inserted; the `CHECK`s that repeat what has been
validated are left to the validation.

* `insertTrustedDevice`, `…WithAudit`, `…WithPolicyAndAuditGuarded` — pinning a peer.
* `transitionTrust`, `transitionTrustWithAudit` — the revision-checked change of its state.
* `saveIdentity`, `appendAudit`, `trustPermissionCeiling`, `openStore` — the other operations.
-/

import MiniRemoteDesktop.Lib.Ranking
import MiniRemoteDesktop.Lib.Contract
import MiniRemoteDesktop.Store.Verify

namespace MiniRemoteDesktop.Store

open Procedure Ranking

/-- A body of statements on the tables. -/
abbrev Statements := Procedure Tables StoreError

/-! ### Drafts of audit events -/

def maxActionBytes : Nat := 128
def maxOutcomeBytes : Nat := 32
def maxCorrelationIdBytes : Nat := 256
def maxTransportKindBytes : Nat := 64
def maxReasonCodeBytes : Nat := 128
def maxDetailEntries : Nat := 32
def maxDetailKeyBytes : Nat := 64
def maxDetailValueBytes : Nat := 512
def maxDetailsJsonBytes : Nat := 16 * 1024

/-- Not blank, within the bound, and without a zero byte. -/
def isNonemptyBounded (value : String) (maxBytes : Nat) : Bool :=
  Text.trim value ≠ "" && (Text.bytes value).length ≤ maxBytes && Char.ofNat 0 ∉ value.toList

def optionalIsBounded (value : Option String) (maxBytes : Nat) : Bool :=
  value.all fun value => (Text.bytes value).length ≤ maxBytes && Char.ofNat 0 ∉ value.toList

/-- What no key of a detail may contain. -/
def forbiddenDetails : List String :=
  ["password", "secret", "private_key", "credential", "verifier", "proof", "token", "clipboard",
    "keystroke", "file_content", "media_payload"]

/-- A detail whose key is blank, too long or names something secret, or whose value is too long. -/
def badDetail (detail : String × String) : Bool :=
  let normalizedKey := detail.1.toList.map Char.toLower
  !isNonemptyBounded detail.1 maxDetailKeyBytes || maxDetailValueBytes < (Text.bytes detail.2).length ||
    forbiddenDetails.any fun forbidden => forbidden.toList <:+: normalizedKey

section
variable (primitives : Primitives)

/-- An event is written only if it passes this check. -/
def validateDraft (draft : AuditDraft) : Except StoreError Unit :=
  if !isNonemptyBounded draft.action maxActionBytes ||
      !isNonemptyBounded draft.outcome maxOutcomeBytes ||
      !optionalIsBounded draft.sessionId maxCorrelationIdBytes ||
      !optionalIsBounded draft.actorDeviceId maxCorrelationIdBytes ||
      !optionalIsBounded draft.peerDeviceId maxCorrelationIdBytes ||
      !optionalIsBounded draft.transportKind maxTransportKindBytes ||
      !optionalIsBounded draft.reasonCode maxReasonCodeBytes ||
      maxDetailEntries < draft.details.entries.length then .error .invalidAuditEvent
  else if draft.details.entries.any badDetail ||
      maxDetailsJsonBytes < (Text.bytes (primitives.detailsJson draft.details)).length then
    .error .invalidAuditEvent
  else .ok ()

/-! ### Appending to the audit chain -/

/-- The order of the events. -/
def AuditRow.NotAfter (left right : AuditRow) : Prop := left.sequence.value ≤ right.sequence.value

instance : DecidableRel AuditRow.NotAfter := fun _ _ => inferInstanceAs (Decidable (_ ≤ _))

/-- `INSERT INTO audit_events`. -/
def insertEvent (row : AuditRow) : Statements Unit := do
  let tables ← read
  refuse (tables.auditEvents.any fun other => other.sequence = row.sequence) .database
  change fun tables => { tables with
    auditEvents := tables.auditEvents.orderedInsert AuditRow.NotAfter row }

def auditRow (sequence timestampMs : SqlInteger) (draft : AuditDraft) (previousHash eventHash : Blob) :
    AuditRow where
  sequence := sequence
  timestampMs := timestampMs
  action := draft.action
  outcome := draft.outcome
  sessionId := draft.sessionId
  actorDeviceId := draft.actorDeviceId
  peerDeviceId := draft.peerDeviceId
  transportKind := draft.transportKind
  reasonCode := draft.reasonCode
  detailsJson := primitives.detailsJson draft.details
  previousHash := previousHash
  eventHash := eventHash

/-- The hash that chains an event to the one before it. -/
def auditHash (key : Blob) (sequence : Nat) (previousHash : Blob) (draft : AuditDraft) : Blob :=
  primitives.sign key (auditHashBytes primitives sequence previousHash draft)

def headSealFor (key : Blob) (nextSequence : Nat) (headHash : Blob) : Blob :=
  primitives.sign key (headSealBytes nextSequence headHash)

/-- Put an event at the end of the chain and move the head. -/
def appendAuditInTransaction (storeId : Blob) (draft : AuditDraft) : Statements AuditRecord := do
  of (validateDraft primitives draft)
  let key ← query fun tables => loadAuditKey primitives tables storeId
  let head ← query fun tables => tables.auditHead.elim (.error .database) .ok
  let eventHash := auditHash primitives key head.nextSequence.value head.headHash draft
  let timestampMs ← of (toSql draft.timestampMs)
  insertEvent (auditRow primitives head.nextSequence timestampMs draft head.headHash eventHash)
  let following ← of ((checkedAdd head.nextSequence.value 1).elim
    (.error (.auditIntegrity head.nextSequence.value)) .ok)
  let nextSequence ← of (toSql following)
  change fun tables => { tables with
    auditHead := some ⟨nextSequence, eventHash, headSealFor primitives key following eventHash⟩ }
  return ⟨head.nextSequence.value, draft, eventHash⟩

/-! ### Sealing the metadata -/

/-- Binding the metadata to a statement. -/
def toMetaRow (manifest : StoreMeta) : Except StoreError MetaRow :=
  if fits : manifest.generation ≤ i64Max ∧ manifest.trustCount ≤ i64Max then
    .ok ⟨manifest, fits.1, fits.2⟩
  else .error .database

/-- The metadata with its seal. -/
def withSeal (storeKey : Blob) (manifest : StoreMeta) : StoreMeta :=
  { manifest with manifestSeal := Store.manifestSeal primitives storeKey manifest }

/-- Write the metadata under the next generation, with a new seal. -/
def writeMeta (storeKey : Blob) (manifest : StoreMeta) : Statements Unit := do
  let generation ← of ((checkedAdd manifest.generation 1).elim (.error .storeIntegrity) .ok)
  let row ← of (toMetaRow (withSeal primitives storeKey { manifest with
    generation := generation }))
  let tables ← read
  refuse (¬ tables.storeMeta.any fun other =>
    other.stored.formatVersion = manifest.formatVersion ∧ other.stored.storeId = manifest.storeId)
    .storeIntegrity
  change fun tables => { tables with storeMeta := some row }

/-- Recompute what the trust tables are committed to. -/
def refreshTrust (manifest : StoreMeta) : Statements StoreMeta := do
  let counted ← query (trustCommitment primitives)
  return { manifest with trustCount := counted.1, trustCommitment := counted.2 }

def refreshAudit (manifest : StoreMeta) : Statements StoreMeta := do
  let commitment ← query (auditCommitment primitives)
  return { manifest with auditCommitment := commitment }

end

/-- `transaction.commit()`; a statement that does not get through ends the same way. -/
def commit (environment : Environment) : Statements Unit := refuse (¬ environment.commits) .database

/-- The clock of the database. -/
def currentTime (environment : Environment) : Except StoreError SqlInteger :=
  environment.now.elim (.error .database) .ok

/-! ### The trust tables -/

/-- Why a peer does not change its state. -/
inductive TrustTransitionRejection
  | notFound
  | revisionMismatch
  | revokedTerminal

namespace TrustTransitionRejection

def reasonCode : TrustTransitionRejection → String
  | notFound => "trust_peer_not_found"
  | revisionMismatch => "trust_revision_mismatch"
  | revokedTerminal => "trust_revoked_terminal"

def legacyMessage : TrustTransitionRejection → String
  | notFound => "peer key is not pinned"
  | revisionMismatch => "trust revision mismatch"
  | revokedTerminal => "revoked peer key is terminal"

end TrustTransitionRejection

inductive AuditedTrustTransition
  | applied (record : TrustRecord) (audit : AuditRecord)
  | rejected (rejection : TrustTransitionRejection) (auditSequence : Nat)

/-- The order of the pinned peers. -/
def TrustedRow.NotAfter (left right : TrustedRow) : Prop := left.peerKeyId ≤ right.peerKeyId

instance : DecidableRel TrustedRow.NotAfter := fun _ _ => inferInstanceAs (Decidable (_ ≤ _))

/-- The order of the permissions. -/
def PermissionRow.NotAfter (left right : PermissionRow) : Prop :=
  left.peerKeyId < right.peerKeyId ∨
    left.peerKeyId = right.peerKeyId ∧ left.permissionScope ≤ right.permissionScope

instance : DecidableRel PermissionRow.NotAfter := fun _ _ => inferInstanceAs (Decidable (_ ∨ _))

/-- A list of strings has the same string twice in a row. -/
def hasEqualNeighbours (list : List String) : Bool :=
  (list.zip list.tail).any fun pair => pair.1 = pair.2

/-- The known scopes in order, none of them twice. -/
def canonicalPermissionCeiling (scopes : List String) : Except StoreError (List String) :=
  if knownPermissionScopes.length < scopes.length ∨
      scopes.any fun scope => scope ∉ knownPermissionScopes then
    .error (.trustTransition "invalid trust permission ceiling")
  else if hasEqualNeighbours (sortBy compare scopes) then
    .error (.trustTransition "duplicate trust permission scope")
  else .ok (sortBy compare scopes)

/-- `INSERT INTO trust_permissions`. -/
def insertPermission (peerKeyId permissionScope : String) : Statements Unit := do
  let tables ← read
  let rows ← of (tables.trustPermissions.elim (.error .database) .ok)
  refuse (permissionScope ∉ knownPermissionScopes ∨
    ¬ (tables.trustedDevices.any fun row => row.peerKeyId = peerKeyId) ∨
    ⟨peerKeyId, permissionScope⟩ ∈ rows) .database
  change fun tables => { tables with
    trustPermissions := some (rows.orderedInsert PermissionRow.NotAfter ⟨peerKeyId, permissionScope⟩) }

section
variable (primitives : Primitives) (environment : Environment)

def queryRecord (peerKeyId : String) (tables : Tables) : Except StoreError (Option TrustRecord) :=
  match tables.trustedDevices.find? fun row => row.peerKeyId = peerKeyId with
  | none => .ok none
  | some row => (readTrusted primitives row).map some

/-- `INSERT INTO trusted_devices`. -/
def insertRecord (peerKeyId : String) (publicKey : Blob) (epoch : Nat) (state : TrustState) :
    Statements TrustRecord := do
  let updatedAt ← of (currentTime environment)
  let epochCell ← of (toSql epoch)
  let tables ← read
  refuse (tables.trustedDevices.any fun row => row.peerKeyId = peerKeyId ∨ row.publicKey = publicKey)
    (.trustTransition "peer key is already pinned")
  change fun tables => { tables with
    trustedDevices := tables.trustedDevices.orderedInsert TrustedRow.NotAfter
      ⟨peerKeyId, publicKey, epochCell, state.asStr, ⟨1, by decide⟩, updatedAt⟩ }
  return ⟨peerKeyId, publicKey, epoch, state, 1, updatedAt.value⟩

/-- The row that the `WHERE` clause of the update asks for. -/
def TrustedRow.isAt (row : TrustedRow) (peerKeyId : String) (revision : Nat) : Bool :=
  row.peerKeyId = peerKeyId && row.revision.value = revision

def TrustedRow.moved (row : TrustedRow) (next : TrustState) (revision updatedAt : SqlInteger) :
    TrustedRow :=
  { row with
    state := next.asStr
    revision := revision
    updatedAt := updatedAt }

/-- Move a pinned peer to its next state, if its revision is the expected one. -/
def transitionRecord (peerKeyId : String) (expectedRevision : Nat) (next : TrustState) :
    Statements (Except TrustTransitionRejection TrustRecord) := do
  match ← query (queryRecord primitives peerKeyId) with
  | none => return .error .notFound
  | some current =>
    if current.revision ≠ expectedRevision then return .error .revisionMismatch
    else if current.state = .revoked then return .error .revokedTerminal
    else do
      let revision ← of ((checkedAdd current.revision 1).elim
        (.error (.trustTransition "trust revision exhausted")) .ok)
      let updatedAt ← of (currentTime environment)
      let revisionCell ← of (toSql revision)
      let tables ← read
      change fun tables => { tables with
        trustedDevices := tables.trustedDevices.map fun row =>
          if row.isAt peerKeyId expectedRevision then row.moved next revisionCell updatedAt else row }
      refuse (tables.trustedDevices.countP (fun row => row.isAt peerKeyId expectedRevision) ≠ 1)
        .storeIntegrity
      return .ok { current with
        state := next
        revision := revision
        updatedAtMs := updatedAt.value }

/-! ### The operations on trust -/

/-- Pin a peer. -/
def insertTrustedDevice (peerKeyId : String) (publicKey : Blob) (epoch : Nat) (state : TrustState) :
    Statements TrustRecord := transaction do
  of (validatePinnedIdentity primitives peerKeyId publicKey epoch 1)
  let loaded ← query (verifyStoreSnapshot primitives)
  let record ← insertRecord environment peerKeyId publicKey epoch state
  let manifest ← refreshTrust primitives loaded.1
  writeMeta primitives loaded.2 manifest
  commit environment
  return record

/-- The draft of an audit of something that was allowed. -/
def AuditDraft.allowed (audit : AuditDraft) : AuditDraft :=
  { audit with
    outcome := "allowed"
    reasonCode := none }

/-- The draft of an audit of something that was denied. -/
def AuditDraft.denied (audit : AuditDraft) (rejection : TrustTransitionRejection) : AuditDraft :=
  { audit with
    outcome := "denied"
    reasonCode := some rejection.reasonCode }

/-- Pin a peer and write that down. -/
def insertTrustedDeviceWithAudit (peerKeyId : String) (publicKey : Blob) (epoch : Nat)
    (state : TrustState) (audit : AuditDraft) : Statements (TrustRecord × AuditRecord) :=
  transaction do
    of (validatePinnedIdentity primitives peerKeyId publicKey epoch 1)
    of (validateDraft primitives audit)
    let loaded ← query (verifyStoreSnapshot primitives)
    let record ← insertRecord environment peerKeyId publicKey epoch state
    let appended ← appendAuditInTransaction primitives loaded.1.storeId audit.allowed
    let manifest ← refreshTrust primitives loaded.1
    let manifest ← refreshAudit primitives manifest
    writeMeta primitives loaded.2 manifest
    commit environment
    return (record, appended)

/-- `beforeInsert` is what the caller's check answers. -/
def insertTrustedDeviceWithPolicyAndAuditGuarded (peerKeyId : String) (publicKey : Blob) (epoch : Nat)
    (permissionCeiling : List String) (audit : AuditDraft) (beforeInsert : Except StoreError Unit) :
    Statements (TrustRecord × AuditRecord) := transaction do
  of (validatePinnedIdentity primitives peerKeyId publicKey epoch 1)
  let scopes ← of (canonicalPermissionCeiling permissionCeiling)
  of (validateDraft primitives audit)
  let loaded ← query (verifyStoreSnapshot primitives)
  of beforeInsert
  let record ← insertRecord environment peerKeyId publicKey epoch .trusted
  forEach (fun scope _ => insertPermission peerKeyId scope) scopes ()
  let appended ← appendAuditInTransaction primitives loaded.1.storeId audit.allowed
  let manifest ← refreshTrust primitives loaded.1
  let manifest ← refreshAudit primitives manifest
  writeMeta primitives loaded.2 manifest
  commit environment
  return (record, appended)

/-- Change the state of a pinned peer. -/
def transitionTrust (peerKeyId : String) (expectedRevision : Nat) (next : TrustState) :
    Statements TrustRecord := transaction do
  let loaded ← query (verifyStoreSnapshot primitives)
  match ← transitionRecord primitives environment peerKeyId expectedRevision next with
  | .error rejection => fail (.trustTransition rejection.legacyMessage)
  | .ok record =>
    let manifest ← refreshTrust primitives loaded.1
    writeMeta primitives loaded.2 manifest
    commit environment
    return record

/-- Change the state of a pinned peer, and write down what came of it. -/
def transitionTrustWithAudit (peerKeyId : String) (expectedRevision : Nat) (next : TrustState)
    (audit : AuditDraft) : Statements AuditedTrustTransition := transaction do
  of (validateDraft primitives audit)
  let loaded ← query (verifyStoreSnapshot primitives)
  match ← transitionRecord primitives environment peerKeyId expectedRevision next with
  | .ok record =>
    let appended ← appendAuditInTransaction primitives loaded.1.storeId audit.allowed
    let manifest ← refreshTrust primitives loaded.1
    let manifest ← refreshAudit primitives manifest
    writeMeta primitives loaded.2 manifest
    commit environment
    return .applied record appended
  | .error rejection =>
    let appended ← appendAuditInTransaction primitives loaded.1.storeId (audit.denied rejection)
    let manifest ← refreshAudit primitives loaded.1
    writeMeta primitives loaded.2 manifest
    commit environment
    return .rejected rejection appended.sequence

/-! ### Identity and audit -/

/-- The blob that the protector makes of a secret. -/
def protectSecret (call : Nat) (purpose plaintext : Blob) : Except StoreError Blob :=
  (primitives.protect (environment.entropy call) purpose plaintext).mapError .secretProtection

/-- Store the identity of the machine, once. -/
def saveIdentity (identity : DeviceIdentity primitives) : Statements Unit := transaction do
  let loaded ← query (verifyStoreSnapshot primitives)
  refuse (loaded.1.identityInitialized = true) .identityAlreadyInitialized
  let tables ← read
  refuse (tables.machineIdentity.isSome = true) .invalidIdentity
  let blob ← of (protectSecret primitives environment 0
    (purposeWithStoreId identityPurpose loaded.1.storeId) identity.privatePkcs8)
  let createdAtMs ← of (currentTime environment)
  change fun tables => { tables with
    machineIdentity := some ⟨identity.keyId, ⟨1, by decide⟩, identity.publicKey, blob, createdAtMs⟩ }
  let stored ← query fun tables => tables.machineIdentity.elim (.error .invalidIdentity) .ok
  of (validateIdentityMetadata primitives stored)
  writeMeta primitives loaded.2 { loaded.1 with
    identityInitialized := true
    identityCommitment := identityCommitment primitives stored }
  commit environment

/-- Write an event. -/
def appendAudit (draft : AuditDraft) : Statements AuditRecord := transaction do
  let loaded ← query (verifyStoreSnapshot primitives)
  let record ← appendAuditInTransaction primitives loaded.1.storeId draft
  let manifest ← refreshAudit primitives loaded.1
  writeMeta primitives loaded.2 manifest
  commit environment
  return record

/-! ### Opening a store -/

/-- The table of permissions is the one that must not be there yet. -/
def createSchema : Statements Unit := do
  let tables ← read
  refuse (tables.trustPermissions.isSome = true) .database
  change fun tables => { tables with
    schema := primitives.createdSchema
    schemaMigrations := tables.schemaMigrations ++ [2, 3]
    trustPermissions := some []
    userVersion := storeFormatVersion }

/-- A new store must be empty. -/
def ensureEmptySecurityState (tables : Tables) : Except StoreError Unit :=
  if tables.storeMeta.isSome ∨ tables.machineIdentity.isSome ∨ tables.trustedDevices ≠ [] ∨
      tables.trustPermissions ≠ some [] ∨ tables.storeSecrets ≠ [] ∨ tables.auditHead.isSome ∨
      tables.auditEvents ≠ [] then .error .storeIntegrity
  else .ok ()

/-- `INSERT INTO store_secrets`. -/
def insertSecret (name : String) (blob : Blob) : Statements Unit := do
  let tables ← read
  refuse ((tables.storeSecrets.lookup name).isSome = true) .database
  change fun tables => { tables with storeSecrets := tables.storeSecrets ++ [(name, blob)] }

/-- Fresh random bytes. -/
def generate (call length : Nat) (message : String) : Except StoreError Blob :=
  (environment.fill call length).elim (.error (.secretProtection message)) .ok

def initializeNewAudit (storeId : Blob) : Statements Blob := do
  let key ← of (generate environment 2 32 "audit key generation failed")
  let blob ← of (protectSecret primitives environment 1 (purposeWithStoreId auditKeyPurpose storeId)
    key)
  insertSecret auditKeyName blob
  change fun tables => { tables with
    auditHead := some ⟨⟨1, by decide⟩, [], headSealFor primitives key 1 []⟩ }
  query (auditCommitment primitives)

/-- Initialise a new store: its keys, an empty chain and the metadata. -/
def bootstrapStore : Statements Unit := do
  query ensureEmptySecurityState
  let storeId ← of (generate environment 0 16 "store key generation failed")
  let storeKey ← of (generate environment 1 32 "store key generation failed")
  let blob ← of (protectSecret primitives environment 0 (purposeWithStoreId storeKeyPurpose storeId)
    storeKey)
  insertSecret storeKeyName blob
  let committed ← initializeNewAudit primitives environment storeId
  let tables ← read
  let counted ← query (trustCommitment primitives)
  let row ← of (toMetaRow (withSeal primitives storeKey
    { formatVersion := storeFormatVersion
      storeId := storeId
      generation := 1
      schemaCommitment := schemaCommitment primitives tables
      identityInitialized := false
      identityCommitment := uninitializedIdentityCommitment primitives
      trustCount := counted.1
      trustCommitment := counted.2
      auditInitialized := true
      auditCommitment := committed
      manifestSeal := [] }))
  change fun tables => { tables with storeMeta := some row }

/-- `upgrade_verified_v2_schema`: the new metadata table takes its row over as format 3. -/
def upgradeVerifiedV2Schema : Statements Unit := do
  let tables ← read
  refuse (tables.trustPermissions.isSome = true) .database
  let schema ← of ((primitives.upgradedSchema tables.schema).elim (.error .database) .ok)
  change fun tables => { tables with
    schema := schema
    storeMeta := tables.storeMeta.map fun row =>
      ⟨{ row.stored with formatVersion := storeFormatVersion }, row.generationFits, row.countFits⟩
    schemaMigrations := tables.schemaMigrations ++ [3]
    trustPermissions := some []
    userVersion := storeFormatVersion }

/-- Take a store of format 2 over. -/
def upgradeStore : Statements Unit := do
  let loaded ← query (verifyStoreSnapshot primitives)
  upgradeVerifiedV2Schema primitives
  let tables ← read
  let manifest ← refreshTrust primitives { loaded.1 with
    formatVersion := storeFormatVersion
    schemaCommitment := schemaCommitment primitives tables }
  writeMeta primitives loaded.2 manifest

/-- The transaction in which a file is opened; only the one who created it may initialise it. -/
def openStore (isNew : Bool) : Statements Unit := transaction do
  let tables ← read
  if tables.userVersion = 0 then
    refuse (isNew = false) .storeIntegrity
    createSchema primitives
    bootstrapStore primitives environment
  else if tables.userVersion = storeFormatVersion then query validateSchema
  else if tables.userVersion = legacyStoreFormatVersion then upgradeStore primitives
  else if storeFormatVersion < tables.userVersion then fail (.unsupportedSchema tables.userVersion)
  else fail .storeIntegrity
  let _ ← query (verifyStoreSnapshot primitives)
  commit environment

end

end MiniRemoteDesktop.Store
