/-
**Authenticating a store** (`mrd-store-sqlite`, `integrity.rs`, `migrations.rs` and the checking half
of `identity_store.rs`, `trust_store.rs` and `audit_store.rs`).

The metadata row is sealed with a key that only the secret protector can recover. It commits to the
schema, the identity, the trust tables and the head of the audit chain; every audit event is
authenticated under a second key. Every operation verifies all of it before it does anything else.

A table is its rows in the order in which the store reads them. An integer column is a `SqlInteger`:
what does not read as a `u64` makes the reading fail, and no `u64` above `i64::MAX` can be written.

* `Primitives` — the cryptography, the secret protector and the JSON library, with the laws that the
  store relies on.
* `Environment` — what the outside contributes to one call: the clock, random bytes, and whether the
  database goes along.
* `manifestBytes`, `trustCommitmentForVersion`, `auditCommitment`, `auditHashBytes` — the byte strings
  that are sealed, hashed or chained.
* `Accepted` — what the check amounts to, part by part; `verifyStoreSnapshot_ok` connects the two.
-/

import MiniRemoteDesktop.Lib.Text
import MiniRemoteDesktop.Lib.Word
import MiniRemoteDesktop.Proto
import MiniRemoteDesktop.Lib.Checked

namespace MiniRemoteDesktop.Store

abbrev Blob := List UInt8

/-- The result of SHA-256 and of HMAC-SHA256. -/
abbrev Digest := Vector UInt8 32

/-! ### Errors -/

inductive StoreError
  /-- `rusqlite::Error`. -/
  | database
  | secretProtection (message : String)
  | missingIdentity
  | invalidIdentity
  | identityAlreadyInitialized
  | trustTransition (message : String)
  | invalidAuditEvent
  | auditIntegrity (sequence : Nat)
  | storeIntegrity
  | unsupportedSchema (version : Nat)
  deriving DecidableEq

/-! ### Rows -/

/-- A SQLite integer that reads as a `u64`. -/
@[ext]
structure SqlInteger where
  value : Nat
  fits : value ≤ i64Max
  deriving DecidableEq

/-- Binding a `u64` to a statement. -/
def toSql (value : Nat) : Except StoreError SqlInteger :=
  if fits : value ≤ i64Max then .ok ⟨value, fits⟩ else .error .database

theorem toSql_ok {value : Nat} {cell : SqlInteger} (bound : toSql value = .ok cell) :
    cell.value = value := by
  unfold toSql at bound
  split at bound
  · rw [← Except.ok.inj bound]
  · cases bound

/-- The metadata of the store; `query_meta` reads format 2 or 3. -/
structure StoreMeta where
  formatVersion : Nat
  storeId : Blob
  generation : Nat
  schemaCommitment : Blob
  identityInitialized : Bool
  identityCommitment : Blob
  trustCount : Nat
  trustCommitment : Blob
  auditInitialized : Bool
  (auditCommitment manifestSeal : Blob)

/-- The row of `store_meta`. -/
structure MetaRow where
  stored : StoreMeta
  generationFits : stored.generation ≤ i64Max
  countFits : stored.trustCount ≤ i64Max

/-- The row of `machine_identity`. -/
structure StoredIdentity where
  keyId : String
  epoch : SqlInteger
  (publicKey protectedPkcs8 : Blob)
  createdAtMs : SqlInteger

/-- A row of `trusted_devices`; the state is the text in the column. -/
structure TrustedRow where
  peerKeyId : String
  publicKey : Blob
  epoch : SqlInteger
  state : String
  (revision updatedAt : SqlInteger)

/-- A row of `trust_permissions`. -/
structure PermissionRow where
  (peerKeyId permissionScope : String)
  deriving DecidableEq

/-- The row of `audit_head`. -/
structure AuditHead where
  nextSequence : SqlInteger
  (headHash headSeal : Blob)

/-- A row of `audit_events`. -/
structure AuditRow where
  (sequence timestampMs : SqlInteger)
  (action outcome : String)
  (sessionId actorDeviceId peerDeviceId transportKind reasonCode : Option String)
  detailsJson : String
  (previousHash eventHash : Blob)

/-- A row of `sqlite_schema`. -/
structure SchemaRow where
  (objectType name tableName sql : String)

/-- **The database.** The tables are in the order of `peer_key_id`, of `peer_key_id` and
`permission_scope`, of `sequence`, of `version` and of the schema query. -/
structure Tables where
  userVersion : Nat
  schemaMigrations : List Nat
  schema : List SchemaRow
  storeMeta : Option MetaRow
  machineIdentity : Option StoredIdentity
  trustedDevices : List TrustedRow
  /-- `none` where there is no such table. -/
  trustPermissions : Option (List PermissionRow)
  storeSecrets : List (String × Blob)
  auditHead : Option AuditHead
  auditEvents : List AuditRow

/-- A file that SQLite has just created. -/
def Tables.blank : Tables where
  userVersion := 0
  schemaMigrations := []
  schema := []
  storeMeta := none
  machineIdentity := none
  trustedDevices := []
  trustPermissions := none
  storeSecrets := []
  auditHead := none
  auditEvents := []

/-! ### Values -/

inductive TrustState
  | trusted
  | suspended
  | revoked
  deriving DecidableEq

namespace TrustState

def asStr : TrustState → String
  | trusted => "trusted"
  | suspended => "suspended"
  | revoked => "revoked"

def parse (value : String) : Option TrustState :=
  if value = "trusted" then some trusted
  else if value = "suspended" then some suspended
  else if value = "revoked" then some revoked
  else none

theorem parse_asStr (state : TrustState) : parse state.asStr = some state := by
  cases state <;> decide

theorem asStr_parse {value : String} {state : TrustState} (parsed : parse value = some state) :
    state.asStr = value := by
  unfold parse at parsed
  split at parsed
  next same =>
    cases parsed
    exact same.symm
  · split at parsed
    next same =>
      cases parsed
      exact same.symm
    · split at parsed
      next same =>
        cases parsed
        exact same.symm
      · cases parsed

end TrustState

structure TrustRecord where
  peerKeyId : String
  publicKey : Blob
  epoch : Nat
  state : TrustState
  (revision updatedAtMs : Nat)

/-- A `BTreeMap<String, String>`: its entries in the order of their keys. -/
structure Details where
  entries : List (String × String)
  ordered : entries.Pairwise fun left right => left.1 < right.1

structure AuditDraft where
  timestampMs : Nat
  (action outcome : String)
  (sessionId actorDeviceId peerDeviceId transportKind reasonCode : Option String)
  details : Details

structure AuditRecord where
  sequence : Nat
  draft : AuditDraft
  eventHash : Blob

/-! ### What the store calls -/

/-- The libraries behind the store. -/
structure Primitives where
  sha256 : Blob → Digest
  hmacSha256 : Blob → Blob → Digest
  /-- `SecretProtector::protect`: random bytes, purpose, plaintext. -/
  protect : Blob → Blob → Blob → Except String Blob
  /-- `SecretProtector::unprotect`: purpose, protected blob. -/
  unprotect : Blob → Blob → Except String Blob
  unprotect_protect : ∀ entropy purpose plaintext blob,
    protect entropy purpose plaintext = .ok blob → unprotect purpose blob = .ok plaintext
  /-- The length of a blob in memory is a `usize`. -/
  protect_length : ∀ entropy purpose plaintext blob,
    protect entropy purpose plaintext = .ok blob → blob.length ≤ u64Max
  /-- `Ed25519KeyPair::from_pkcs8`: the public key of a private one. -/
  publicKeyOf : Blob → Option Blob
  /-- `serde_json::to_string` of the details, and `serde_json::from_str`. -/
  detailsJson : Details → String
  parseDetails : String → Option Details
  parse_detailsJson : ∀ details, parseDetails (detailsJson details) = some details
  /-- `serde_json::to_vec` of a draft. -/
  draftJson : AuditDraft → Blob
  /-- The schema query after `create_schema`, and after `upgrade_verified_v2_schema`, whose statements
  may fail. -/
  createdSchema : List SchemaRow
  upgradedSchema : List SchemaRow → Option (List SchemaRow)

/-- `hmac::verify`. -/
def Primitives.verifyHmac (primitives : Primitives) (key message tag : Blob) : Bool :=
  (primitives.hmacSha256 key message).toList = tag

/-- `public_key_id`, and `key_id` of the trust store. -/
def keyId (primitives : Primitives) (publicKey : Blob) : String :=
  Text.lowerHex (primitives.sha256 publicKey).toList

/-- `DeviceIdentity`: a private key whose public key is known. -/
structure DeviceIdentity (primitives : Primitives) where
  (privatePkcs8 publicKey : Blob)
  parses : primitives.publicKeyOf privatePkcs8 = some publicKey

def DeviceIdentity.keyId {primitives : Primitives} (identity : DeviceIdentity primitives) : String :=
  Store.keyId primitives identity.publicKey

/-- **What the outside contributes to a call.** -/
structure Environment where
  /-- `CAST(unixepoch('subsec') * 1000 AS INTEGER)`, where it is there and reads as a `u64`. -/
  now : Option SqlInteger
  /-- The bytes of each `SystemRandom::fill`, in the order of the calls. -/
  random : Nat → Option (Nat → UInt8)
  /-- What the protector draws in each of its calls. -/
  entropy : Nat → Blob
  /-- Every statement gets through, and the commit too. -/
  commits : Bool

/-- `SystemRandom::fill` of a buffer. -/
def Environment.fill (environment : Environment) (call length : Nat) : Option Blob :=
  (environment.random call).map fun byte => (List.range length).map byte

open Text (bytes)
open Bytes Checked

/-! ### Encodings -/

def storeFormatVersion : Nat := 3
def legacyStoreFormatVersion : Nat := 2

def storeKeyName : String := "store_integrity_key_v1"
def storeKeyPurpose : Blob := bytes "MRD_STORE_INTEGRITY_KEY_V1"
def auditKeyName : String := "audit_hmac_key_v1"
def auditKeyPurpose : Blob := bytes "MRD_AUDIT_HMAC_KEY_V1"
def identityPurpose : Blob := bytes "MRD_MACHINE_IDENTITY_PKCS8_V1"

/-- `to_be_bytes` of a `u64`. -/
def beBytes (value : Nat) : Blob := bigEndian (UInt64.ofNat value)

def appendField (value : Blob) : Blob := beBytes value.length ++ value

def textField (value : String) : Blob := appendField (bytes value)

def purposeWithStoreId (domain storeId : Blob) : Blob := domain ++ appendField storeId

/-- The format was read as 2 or 3. -/
def manifestDomain (formatVersion : Nat) : Blob :=
  if formatVersion = legacyStoreFormatVersion then bytes "MRD_STORE_MANIFEST_V2"
  else bytes "MRD_STORE_MANIFEST_V3"

/-- `u8::from(bool)`. -/
def flagByte (flag : Bool) : UInt8 := if flag then 1 else 0

def manifestBytes (manifest : StoreMeta) : Blob :=
  manifestDomain manifest.formatVersion ++ (bigEndian (UInt32.ofNat manifest.formatVersion) ++
    (appendField manifest.storeId ++ (beBytes manifest.generation ++
      (appendField manifest.schemaCommitment ++ (flagByte manifest.identityInitialized ::
        (appendField manifest.identityCommitment ++ (beBytes manifest.trustCount ++
          (appendField manifest.trustCommitment ++ (flagByte manifest.auditInitialized ::
            appendField manifest.auditCommitment)))))))))

section
variable (primitives : Primitives)

def Primitives.digest (message : Blob) : Blob := (primitives.sha256 message).toList

@[simp] theorem Primitives.length_digest (message : Blob) :
    (primitives.digest message).length = 32 := Vector.length_toList

def Primitives.sign (key message : Blob) : Blob := (primitives.hmacSha256 key message).toList

@[simp] theorem Primitives.length_sign (key message : Blob) :
    (primitives.sign key message).length = 32 := Vector.length_toList

theorem Primitives.verifyHmac_eq_true {key message tag : Blob} :
    primitives.verifyHmac key message tag = true ↔ primitives.sign key message = tag :=
  decide_eq_true_iff

def manifestSeal (key : Blob) (manifest : StoreMeta) : Blob :=
  primitives.sign key (manifestBytes manifest)

/-! ### The metadata -/

def queryMeta (tables : Tables) : Except StoreError StoreMeta :=
  match tables.storeMeta with
  | none => .error .storeIntegrity
  | some row =>
    if row.stored.formatVersion = legacyStoreFormatVersion ∨
        row.stored.formatVersion = storeFormatVersion then .ok row.stored
    else .error .storeIntegrity

def loadSecret (tables : Tables) (name : String) : Except StoreError Blob :=
  (tables.storeSecrets.lookup name).elim (.error .storeIntegrity) .ok

def unprotect (purpose blob : Blob) : Except StoreError Blob :=
  (primitives.unprotect purpose blob).mapError .secretProtection

def loadVerifiedMeta (tables : Tables) : Except StoreError (StoreMeta × Blob) := do
  let manifest ← queryMeta tables
  if manifest.storeId.length ≠ 16 ∨ manifest.generation = 0 ∨ manifest.schemaCommitment.length ≠ 32 ∨
      manifest.identityCommitment.length ≠ 32 ∨ manifest.trustCommitment.length ≠ 32 ∨
      manifest.auditCommitment.length ≠ 32 ∨ manifest.manifestSeal.length ≠ 32 then
    .error .storeIntegrity
  let blob ← loadSecret tables storeKeyName
  let storeKey ← unprotect primitives (purposeWithStoreId storeKeyPurpose manifest.storeId) blob
  if storeKey.length ≠ 32 ∨
      ¬ primitives.verifyHmac storeKey (manifestBytes manifest) manifest.manifestSeal then
    .error .storeIntegrity
  return (manifest, storeKey)

/-! ### The schema -/

def validateSchema (tables : Tables) : Except StoreError Unit :=
  if tables.storeMeta.isNone then .error .storeIntegrity
  else if tables.userVersion = 2 then
    if tables.schemaMigrations = [2] then .ok () else .error .storeIntegrity
  else if tables.userVersion = storeFormatVersion then
    if tables.schemaMigrations = [2, storeFormatVersion] then .ok () else .error .storeIntegrity
  else .error .storeIntegrity

def schemaRowBytes (row : SchemaRow) : Blob :=
  textField row.objectType ++ (textField row.name ++ (textField row.tableName ++ textField row.sql))

def schemaCommitment (tables : Tables) : Blob :=
  primitives.digest (bytes "MRD_SQLITE_SCHEMA_COMMITMENT_V2" ++
    (tables.schema.flatMap schemaRowBytes ++ beBytes tables.schema.length))

/-! ### The identity -/

def identityCommitmentDomain : Blob := bytes "MRD_IDENTITY_COMMITMENT_V2"

def uninitializedIdentityCommitment : Blob := primitives.digest identityCommitmentDomain

def identityBytes (stored : StoredIdentity) : Blob :=
  textField stored.keyId ++ (beBytes stored.epoch.value ++ (appendField stored.publicKey ++
    (appendField stored.protectedPkcs8 ++ beBytes stored.createdAtMs.value)))

def identityCommitment (stored : StoredIdentity) : Blob :=
  primitives.digest (identityCommitmentDomain ++ identityBytes stored)

def validateIdentityMetadata (stored : StoredIdentity) : Except StoreError Unit :=
  if stored.epoch.value = 0 ∨ stored.publicKey.length ≠ 32 ∨ stored.protectedPkcs8 = [] ∨
      stored.createdAtMs.value = 0 ∨ keyId primitives stored.publicKey ≠ stored.keyId then
    .error .invalidIdentity
  else .ok ()

/-- The public key of the stored private key. -/
def loadIdentityFromRow (storeId : Blob) (stored : StoredIdentity) : Except StoreError Blob := do
  let plaintext ← unprotect primitives (purposeWithStoreId identityPurpose storeId)
    stored.protectedPkcs8
  let publicKey ← (primitives.publicKeyOf plaintext).elim (.error .invalidIdentity) .ok
  if keyId primitives publicKey ≠ stored.keyId ∨ publicKey ≠ stored.publicKey then
    .error .invalidIdentity
  return publicKey

def verifyIdentitySnapshot (tables : Tables) (manifest : StoreMeta) : Except StoreError Unit :=
  match manifest.identityInitialized, tables.machineIdentity with
  | false, none =>
    if manifest.identityCommitment = uninitializedIdentityCommitment primitives then .ok ()
    else .error .storeIntegrity
  | true, some stored => do
    validateIdentityMetadata primitives stored
    if manifest.identityCommitment ≠ identityCommitment primitives stored then .error .storeIntegrity
    let _ ← loadIdentityFromRow primitives manifest.storeId stored
    return ()
  | _, _ => .error .storeIntegrity

/-! ### The trust tables -/

def knownPermissionScopes : List String :=
  ["audio.listen", "audio.talk", "clipboard.read", "clipboard.write", "display.multi_view",
    "display.switch", "file.read", "file.write", "input.keyboard", "input.pointer", "power.restart",
    "power.shutdown", "privacy.blank_screen", "privacy.block_local_input", "screen.view",
    "secure_desktop.control", "secure_desktop.view", "terminal.open"]

def validatePinnedIdentity (peerKeyId : String) (publicKey : Blob) (epoch revision : Nat) :
    Except StoreError Unit :=
  if publicKey.length ≠ 32 ∨ epoch = 0 ∨ revision = 0 ∨ keyId primitives publicKey ≠ peerKeyId then
    .error (.trustTransition "invalid pinned peer identity")
  else .ok ()

/-- One row as `query_record` and `query_all_records` read it. -/
def readTrusted (row : TrustedRow) : Except StoreError TrustRecord := do
  validatePinnedIdentity primitives row.peerKeyId row.publicKey row.epoch.value row.revision.value
  let state ← (TrustState.parse row.state).elim (.error .storeIntegrity) .ok
  return ⟨row.peerKeyId, row.publicKey, row.epoch.value, state, row.revision.value, row.updatedAt.value⟩

def queryAllRecords (tables : Tables) : Except StoreError (List TrustRecord) :=
  tables.trustedDevices.mapM (readTrusted primitives)

def recordBytes (record : TrustRecord) : Blob :=
  textField record.peerKeyId ++ (appendField record.publicKey ++ (beBytes record.epoch ++
    (textField record.state.asStr ++ (beBytes record.revision ++ beBytes record.updatedAtMs))))

def permissionBytes (row : PermissionRow) : Blob :=
  textField row.peerKeyId ++ textField row.permissionScope

/-- The permission rows, each of a known scope and of a pinned peer; counting them is checked. -/
def queryPermissions (tables : Tables) (records : List TrustRecord) :
    Except StoreError (List PermissionRow) := do
  let rows ← tables.trustPermissions.elim (.error .database) .ok
  if rows.any fun row => row.permissionScope ∉ knownPermissionScopes ∨
      ¬ records.any fun record => record.peerKeyId = row.peerKeyId then
    .error .storeIntegrity
  if u64Max < rows.length then .error .storeIntegrity
  return rows

def trustBytesV2 (records : List TrustRecord) : Blob :=
  bytes "MRD_TRUST_COMMITMENT_V2" ++ (beBytes records.length ++ records.flatMap recordBytes)

def trustBytesV3 (records : List TrustRecord) (rows : List PermissionRow) : Blob :=
  bytes "MRD_TRUST_COMMITMENT_V3" ++ (beBytes records.length ++
    (records.flatMap recordBytes ++ (rows.flatMap permissionBytes ++ beBytes rows.length)))

def trustCommitmentForVersion (tables : Tables) (version : Nat) : Except StoreError (Nat × Blob) := do
  let records ← queryAllRecords primitives tables
  if version = legacyStoreFormatVersion then
    return (records.length, primitives.digest (trustBytesV2 records))
  else if version = storeFormatVersion then
    let rows ← queryPermissions tables records
    return (records.length, primitives.digest (trustBytesV3 records rows))
  else .error .storeIntegrity

def trustCommitment (tables : Tables) : Except StoreError (Nat × Blob) :=
  trustCommitmentForVersion primitives tables storeFormatVersion

def verifyTrustSnapshot (tables : Tables) (manifest : StoreMeta) : Except StoreError Unit := do
  let counted ← trustCommitmentForVersion primitives tables manifest.formatVersion
  if counted.1 ≠ manifest.trustCount ∨ counted.2 ≠ manifest.trustCommitment then
    .error .storeIntegrity
  else .ok ()

/-! ### The audit chain -/

def auditHashBytes (sequence : Nat) (previousHash : Blob) (draft : AuditDraft) : Blob :=
  bytes "MRD_AUDIT_CHAIN_V1" ++ (beBytes sequence ++ (appendField previousHash ++
    appendField (primitives.draftJson draft)))

def headSealBytes (nextSequence : Nat) (headHash : Blob) : Blob :=
  bytes "MRD_AUDIT_HEAD_V1" ++ (beBytes nextSequence ++ appendField headHash)

def auditCommitmentBytes (blob : Blob) (eventCount : Nat) (head : AuditHead) : Blob :=
  bytes "MRD_AUDIT_COMMITMENT_V2" ++ (appendField blob ++ (beBytes eventCount ++
    (beBytes head.nextSequence.value ++ (appendField head.headHash ++ appendField head.headSeal))))

def auditCommitment (tables : Tables) : Except StoreError Blob := do
  let blob ← loadSecret tables auditKeyName
  let head ← tables.auditHead.elim (.error .storeIntegrity) .ok
  return primitives.digest (auditCommitmentBytes blob tables.auditEvents.length head)

def loadAuditKey (tables : Tables) (storeId : Blob) : Except StoreError Blob := do
  let blob ← loadSecret tables auditKeyName
  let key ← unprotect primitives (purposeWithStoreId auditKeyPurpose storeId) blob
  if key.length ≠ 32 then .error (.auditIntegrity 0)
  return key

/-- The draft that a row was made from, if its details parse. -/
def AuditRow.draft (row : AuditRow) : Option AuditDraft :=
  (primitives.parseDetails row.detailsJson).map fun details =>
    ⟨row.timestampMs.value, row.action, row.outcome, row.sessionId, row.actorDeviceId,
      row.peerDeviceId, row.transportKind, row.reasonCode, details⟩

/-- The loop over the events: the sequence number and the hash that come next. -/
def verifyEvents (key : Blob) : List AuditRow → Nat → Blob → Except StoreError (Nat × Blob)
  | [], expected, previousHash => .ok (expected, previousHash)
  | row :: rest, expected, previousHash => do
    let draft ← (row.draft primitives).elim (.error (.auditIntegrity row.sequence.value)) .ok
    if row.sequence.value ≠ expected ∨ row.previousHash ≠ previousHash ∨
        ¬ primitives.verifyHmac key (auditHashBytes primitives row.sequence.value previousHash draft)
          row.eventHash then
      .error (.auditIntegrity row.sequence.value)
    let following ← (checkedAdd expected 1).elim (.error (.auditIntegrity row.sequence.value)) .ok
    verifyEvents key rest following row.eventHash

def verifyChain (key : Blob) (tables : Tables) : Except StoreError Unit := do
  let head ← tables.auditHead.elim (.error (.auditIntegrity 0)) .ok
  if ¬ primitives.verifyHmac key (headSealBytes head.nextSequence.value head.headHash) head.headSeal then
    .error (.auditIntegrity (head.nextSequence.value - 1))
  let last ← verifyEvents primitives key tables.auditEvents 1 []
  if last.1 ≠ head.nextSequence.value ∨ last.2 ≠ head.headHash then
    .error (.auditIntegrity (last.1 - 1))
  else .ok ()

def verifyAuditSnapshot (tables : Tables) (manifest : StoreMeta) : Except StoreError Unit := do
  if ¬ manifest.auditInitialized then .error (.auditIntegrity 0)
  let commitment ← auditCommitment primitives tables
  if commitment ≠ manifest.auditCommitment then .error (.auditIntegrity 0)
  let key ← loadAuditKey primitives tables manifest.storeId
  verifyChain primitives key tables

/-! ### The whole check -/

/-- `verify_store_snapshot_connection`. -/
def verifyStoreSnapshot (tables : Tables) : Except StoreError (StoreMeta × Blob) := do
  let loaded ← loadVerifiedMeta primitives tables
  if tables.userVersion ≠ loaded.1.formatVersion then .error .storeIntegrity
  validateSchema tables
  if schemaCommitment primitives tables ≠ loaded.1.schemaCommitment then .error .storeIntegrity
  verifyIdentitySnapshot primitives tables loaded.1
  verifyTrustSnapshot primitives tables loaded.1
  verifyAuditSnapshot primitives tables loaded.1
  return loaded

/-! ### What is accepted -/

/-- **The tables are authentic**: what the check amounts to, with the keys it recovers. -/
structure Accepted (tables : Tables) (manifest : StoreMeta) (storeKey auditKey : Blob) : Prop where
  stored : queryMeta tables = .ok manifest
  storeIdLength : manifest.storeId.length = 16
  generated : manifest.generation ≠ 0
  schemaLength : manifest.schemaCommitment.length = 32
  identityLength : manifest.identityCommitment.length = 32
  trustLength : manifest.trustCommitment.length = 32
  auditLength : manifest.auditCommitment.length = 32
  storeSecret : ∃ blob, loadSecret tables storeKeyName = .ok blob ∧
    unprotect primitives (purposeWithStoreId storeKeyPurpose manifest.storeId) blob = .ok storeKey
  storeKeyLength : storeKey.length = 32
  sealed : manifestSeal primitives storeKey manifest = manifest.manifestSeal
  version : tables.userVersion = manifest.formatVersion
  schemaValid : validateSchema tables = .ok ()
  schema : schemaCommitment primitives tables = manifest.schemaCommitment
  identity : verifyIdentitySnapshot primitives tables manifest = .ok ()
  trust : trustCommitmentForVersion primitives tables manifest.formatVersion =
    .ok (manifest.trustCount, manifest.trustCommitment)
  auditInitialized : manifest.auditInitialized = true
  audit : auditCommitment primitives tables = .ok manifest.auditCommitment
  auditSecret : loadAuditKey primitives tables manifest.storeId = .ok auditKey
  chain : verifyChain primitives auditKey tables = .ok ()

variable {primitives} {tables : Tables} {manifest : StoreMeta} {storeKey auditKey : Blob}

theorem verifyTrustSnapshot_ok : verifyTrustSnapshot primitives tables manifest = .ok () ↔
    trustCommitmentForVersion primitives tables manifest.formatVersion =
      .ok (manifest.trustCount, manifest.trustCommitment) := by
  simp only [verifyTrustSnapshot, bind_eq_ok, check_ok, not_or, not_not, Prod.exists]
  constructor
  · rintro ⟨count, commitment, counted, rfl, rfl⟩
    exact counted
  · intro counted
    exact ⟨_, _, counted, rfl, rfl⟩

theorem verifyAuditSnapshot_ok : verifyAuditSnapshot primitives tables manifest = .ok () ↔
    manifest.auditInitialized = true ∧ auditCommitment primitives tables = .ok manifest.auditCommitment ∧
      ∃ key, loadAuditKey primitives tables manifest.storeId = .ok key ∧
        verifyChain primitives key tables = .ok () := by
  simp only [verifyAuditSnapshot, guarded_eq_ok, bind_eq_ok, not_not]
  constructor
  · rintro ⟨initialized, commitment, committed, rfl, chain⟩
    exact ⟨initialized, committed, chain⟩
  · rintro ⟨initialized, committed, chain⟩
    exact ⟨initialized, _, committed, rfl, chain⟩

theorem loadVerifiedMeta_ok : loadVerifiedMeta primitives tables = .ok (manifest, storeKey) ↔
    queryMeta tables = .ok manifest ∧ (manifest.storeId.length = 16 ∧ manifest.generation ≠ 0 ∧
        manifest.schemaCommitment.length = 32 ∧ manifest.identityCommitment.length = 32 ∧
        manifest.trustCommitment.length = 32 ∧ manifest.auditCommitment.length = 32 ∧
        manifest.manifestSeal.length = 32) ∧
      (∃ blob, loadSecret tables storeKeyName = .ok blob ∧
        unprotect primitives (purposeWithStoreId storeKeyPurpose manifest.storeId) blob = .ok storeKey) ∧
      storeKey.length = 32 ∧ manifestSeal primitives storeKey manifest = manifest.manifestSeal := by
  simp only [loadVerifiedMeta, bind_eq_ok, guarded_eq_ok, not_or, not_not,
    primitives.verifyHmac_eq_true, manifestSeal]
  constructor
  · rintro ⟨other, stored, lengths, blob, loaded, key, unsealed, ⟨length, authentic⟩, ⟨⟩⟩
    exact ⟨stored, lengths, ⟨blob, loaded, unsealed⟩, length, authentic⟩
  · rintro ⟨stored, lengths, ⟨blob, loaded, unsealed⟩, length, authentic⟩
    exact ⟨manifest, stored, lengths, blob, loaded, storeKey, unsealed, ⟨length, authentic⟩, rfl⟩

/-- **The check accepts what is authentic, and nothing else.** -/
theorem verifyStoreSnapshot_ok : verifyStoreSnapshot primitives tables = .ok (manifest, storeKey) ↔
    ∃ auditKey, Accepted primitives tables manifest storeKey auditKey := by
  simp only [verifyStoreSnapshot, bind_eq_ok, guarded_eq_ok, not_not]
  constructor
  · rintro ⟨loaded, passed, version, _, valid, schema, _, identity, _, trust, _, audit, ⟨⟩⟩
    obtain ⟨stored, ⟨storeIdLength, generated, schemaLength, identityLength, trustLength, auditLength,
      _⟩, storeSecret, storeKeyLength, authentic⟩ := loadVerifiedMeta_ok.mp passed
    obtain ⟨auditInitialized, committed, auditKey, auditSecret, chain⟩ :=
      verifyAuditSnapshot_ok.mp audit
    exact ⟨auditKey, stored, storeIdLength, generated, schemaLength, identityLength, trustLength,
      auditLength, storeSecret, storeKeyLength, authentic, version, valid, schema, identity,
      verifyTrustSnapshot_ok.mp trust, auditInitialized, committed, auditSecret, chain⟩
  · rintro ⟨auditKey, accepted⟩
    have sealLength : manifest.manifestSeal.length = 32 := by
      rw [← accepted.sealed, manifestSeal, Primitives.length_sign]
    have loaded : loadVerifiedMeta primitives tables = .ok (manifest, storeKey) :=
      loadVerifiedMeta_ok.mpr ⟨accepted.stored, ⟨accepted.storeIdLength, accepted.generated,
        accepted.schemaLength, accepted.identityLength, accepted.trustLength, accepted.auditLength,
        sealLength⟩, accepted.storeSecret, accepted.storeKeyLength, accepted.sealed⟩
    exact ⟨_, loaded, accepted.version, _, accepted.schemaValid, accepted.schema, _, accepted.identity,
      _, verifyTrustSnapshot_ok.mpr accepted.trust, _, verifyAuditSnapshot_ok.mpr
        ⟨accepted.auditInitialized, accepted.audit, auditKey, accepted.auditSecret, accepted.chain⟩,
      rfl⟩

end

end MiniRemoteDesktop.Store
