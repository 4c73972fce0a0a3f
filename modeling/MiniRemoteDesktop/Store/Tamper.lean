/-
**A store that was rewritten is an old one or is not accepted** (`mrd-store-sqlite`).

Somebody may rewrite every table of the database, but knows neither of its keys. What still verifies
is, in its logical content, the store as it stood after one of its operations: no rows of two commits
are mixed, and nothing is dropped, added, moved or edited.

The cryptography is assumed to hold for the byte strings that are at stake, and no more:

* `Unforgeable` — no tag in the rewritten tables verifies under a key of the store but for a message
  that was signed under this key during the run;
* `CollisionFree` — of the messages that are hashed here no two have one digest.

`lineage` says what all commits of one run share, and `rewritten_is_a_commit` is the result.
-/

import MiniRemoteDesktop.Store.Encoding

namespace MiniRemoteDesktop.Store

open Checked Procedure

/-! ### Runs and contents -/

/-- **The commits of a run**, the latest first: a store is initialised, and operations succeed on it. -/
inductive Commits (primitives : Primitives) : List Tables → Prop
  | created {environment tables}
      (opened : openStore primitives environment true Tables.blank = (tables, .ok ())) :
      Commits primitives [tables]
  | performed {environment call answer before after rest} (earlier : Commits primitives (before :: rest))
      (done : perform primitives environment call before = (after, .ok answer)) :
      Commits primitives (after :: before :: rest)

/-- An event as a query answers it. -/
def AuditRow.record (primitives : Primitives) (row : AuditRow) : Option AuditRecord :=
  (row.draft primitives).map fun draft => ⟨row.sequence.value, draft, row.eventHash⟩

/-- **The logical content of the tables.** -/
structure Content where
  machineIdentity : Option StoredIdentity
  trustedDevices : List TrustedRow
  trustPermissions : Option (List PermissionRow)
  auditEvents : List (Option AuditRecord)

def Tables.content (primitives : Primitives) (tables : Tables) : Content where
  machineIdentity := tables.machineIdentity
  trustedDevices := tables.trustedDevices
  trustPermissions := tables.trustPermissions
  auditEvents := tables.auditEvents.map (AuditRow.record primitives)

/-! ### The assumptions -/

section
variable (primitives : Primitives)

/-- A protected blob of the tables, with the purpose that it is opened for. -/
inductive Blobs (tables : Tables) : Blob → Blob → Prop
  | storeKey {manifest blob} (stored : queryMeta tables = .ok manifest)
      (loaded : loadSecret tables storeKeyName = .ok blob) :
      Blobs tables (purposeWithStoreId storeKeyPurpose manifest.storeId) blob
  | auditKey {manifest blob} (stored : queryMeta tables = .ok manifest)
      (loaded : loadSecret tables auditKeyName = .ok blob) :
      Blobs tables (purposeWithStoreId auditKeyPurpose manifest.storeId) blob
  | identity {manifest identity} (stored : queryMeta tables = .ok manifest)
      (there : tables.machineIdentity = some identity) :
      Blobs tables (purposeWithStoreId identityPurpose manifest.storeId) identity.protectedPkcs8

/-- A message with the tag that the tables have for it. -/
inductive Tagged (tables : Tables) : Blob → Blob → Prop
  | manifest {manifest} (stored : queryMeta tables = .ok manifest) :
      Tagged tables (manifestBytes manifest) manifest.manifestSeal
  | head {head} (there : tables.auditHead = some head) :
      Tagged tables (headSealBytes head.nextSequence.value head.headHash) head.headSeal
  | event {row draft} (member : row ∈ tables.auditEvents) (parses : row.draft primitives = some draft) :
      Tagged tables (auditHashBytes primitives row.sequence.value row.previousHash draft) row.eventHash

/-- A message that was signed under a key when a commit was made. -/
inductive SignedIn (commit : Tables) : Blob → Blob → Prop
  | manifest {manifest storeKey auditKey}
      (accepted : Accepted primitives commit manifest storeKey auditKey) :
      SignedIn commit storeKey (manifestBytes manifest)
  | head {manifest storeKey auditKey head}
      (accepted : Accepted primitives commit manifest storeKey auditKey)
      (there : commit.auditHead = some head) :
      SignedIn commit auditKey (headSealBytes head.nextSequence.value head.headHash)
  | event {manifest storeKey auditKey row draft}
      (accepted : Accepted primitives commit manifest storeKey auditKey)
      (member : row ∈ commit.auditEvents) (parses : row.draft primitives = some draft) :
      SignedIn commit auditKey (auditHashBytes primitives row.sequence.value row.previousHash draft)

/-- A message that is hashed when the tables are verified. -/
inductive Hashed (tables : Tables) : Blob → Prop
  | identity {identity} (there : tables.machineIdentity = some identity) :
      Hashed tables (identityCommitmentDomain ++ identityBytes identity)
  | trust {records rows} (read : queryAllRecords primitives tables = .ok records)
      (there : tables.trustPermissions = some rows) : Hashed tables (trustBytesV3 records rows)
  | audit {blob head} (loaded : loadSecret tables auditKeyName = .ok blob)
      (there : tables.auditHead = some head) :
      Hashed tables (auditCommitmentBytes blob tables.auditEvents.length head)

/-- **The protector opens what it made for the same purpose**, of the blobs that are presented. -/
def Protected (commits : List Tables) (rewritten : Tables) : Prop :=
  ∀ purpose blob plaintext, Blobs rewritten purpose blob →
    primitives.unprotect purpose blob = .ok plaintext → ∃ commit ∈ commits, Blobs commit purpose blob

/-- **A tag that verifies under a key of the store** is for a message that was signed under it. -/
def Unforgeable (commits : List Tables) (rewritten : Tables) : Prop :=
  ∀ key message tag, (∃ commit ∈ commits, ∃ manifest storeKey auditKey,
      Accepted primitives commit manifest storeKey auditKey ∧ (key = storeKey ∨ key = auditKey)) →
    Tagged primitives rewritten message tag → primitives.sign key message = tag →
    ∃ commit ∈ commits, SignedIn primitives commit key message

/-- **Messages with one digest are one message**, among those that are hashed here. -/
def CollisionFree (commits : List Tables) (rewritten : Tables) : Prop :=
  ∀ first ∈ rewritten :: commits, ∀ second ∈ rewritten :: commits, ∀ message other,
    Hashed primitives first message → Hashed primitives second other →
      primitives.digest message = primitives.digest other → message = other

end

/-! ### What the commits of a run share -/

variable {primitives : Primitives} {tables : Tables} {manifest : StoreMeta} {storeKey auditKey : Blob}

theorem unprotect_ok {purpose blob plaintext : Blob}
    (opened : unprotect primitives purpose blob = .ok plaintext) :
    primitives.unprotect purpose blob = .ok plaintext := by
  unfold unprotect at opened
  rcases outcome : primitives.unprotect purpose blob with _ | other <;> rw [outcome] at opened <;>
    cases opened
  rfl

theorem loadAuditKey_ok {storeId key : Blob} (loaded : loadAuditKey primitives tables storeId = .ok key) :
    ∃ blob, loadSecret tables auditKeyName = .ok blob ∧
      unprotect primitives (purposeWithStoreId auditKeyPurpose storeId) blob = .ok key := by
  obtain ⟨blob, found, loaded⟩ := bind_ok loaded
  obtain ⟨other, opened, loaded⟩ := bind_ok loaded
  obtain ⟨_, ⟨⟩⟩ := guarded_ok loaded
  exact ⟨blob, found, opened⟩

/-- The keys of a store that verifies are determined by its tables. -/
theorem Accepted.unique {other : StoreMeta} {second third : Blob}
    (accepted : Accepted primitives tables manifest storeKey auditKey)
    (again : Accepted primitives tables other second third) :
    manifest = other ∧ storeKey = second ∧ auditKey = third := by
  cases Except.ok.inj (accepted.stored.symm.trans again.stored)
  obtain ⟨blob, loaded, opened⟩ := accepted.storeSecret
  obtain ⟨_, same, reopened⟩ := again.storeSecret
  cases Except.ok.inj (loaded.symm.trans same)
  exact ⟨rfl, Except.ok.inj (opened.symm.trans reopened),
    Except.ok.inj (accepted.auditSecret.symm.trans again.auditSecret)⟩

/-- One commit of a run, seen from the latest one. -/
structure Member (primitives : Primitives) (storeId storeKey auditKey : Blob)
    (secrets : List (String × Blob)) (latest commit : Tables) : Prop where
  accepted : ∃ manifest, Accepted primitives commit manifest storeKey auditKey ∧
    manifest.storeId = storeId
  userVersion : commit.userVersion = storeFormatVersion
  secrets : commit.storeSecrets = secrets
  events : commit.auditEvents <+: latest.auditEvents
  identity : ∀ stored, commit.machineIdentity = some stored → stored.protectedPkcs8.length ≤ u64Max

section

variable {storeId : Blob} {before changed : Tables} {call : Call primitives} {answer : Answer}
  (written : Written primitives storeId auditKey before call answer changed)
include written

theorem Written.events :
    before.auditEvents <+: changed.auditEvents := by
  cases written with
  | pinned pins =>
    cases pins
    exact List.prefix_rfl
  | pinnedWithAudit pins appends | pinnedWithPolicy _ _ pins appends =>
    cases appends
    cases pins
    exact List.prefix_append _ _
  | moved transits =>
    cases transits
    exact List.prefix_rfl
  | movedWithAudit transits appends =>
    cases appends
    cases transits
    exact List.prefix_append _ _
  | denied _ appends | appended appends =>
    cases appends
    exact List.prefix_append _ _
  | identified => exact List.prefix_rfl

theorem Written.identity
    (short : ∀ stored, before.machineIdentity = some stored → stored.protectedPkcs8.length ≤ u64Max) :
    ∀ stored, changed.machineIdentity = some stored → stored.protectedPkcs8.length ≤ u64Max := by
  cases written with
  | pinned pins =>
    cases pins
    exact short
  | pinnedWithAudit pins appends | pinnedWithPolicy _ _ pins appends =>
    cases appends
    cases pins
    exact short
  | moved transits =>
    cases transits
    exact short
  | movedWithAudit transits appends =>
    cases appends
    cases transits
    exact short
  | denied _ appends | appended appends =>
    cases appends
    exact short
  | identified _ protects =>
    rintro _ ⟨⟩
    exact primitives.protect_length _ _ _ _ protects

end

/-- **All commits of a run have the same keys**, and each chain of events begins the latest one. -/
theorem lineage {latest : Tables} {rest : List Tables} (run : Commits primitives (latest :: rest)) :
    ∃ storeId storeKey auditKey secrets, ∀ commit ∈ latest :: rest,
      Member primitives storeId storeKey auditKey secrets latest commit := by
  generalize same : latest :: rest = commits at run
  induction run generalizing latest rest with
  | @created environment tables opened =>
    cases same
    obtain ⟨opening, manifest, storeKey, auditKey, accepted⟩ :=
      (openStore_meets primitives environment Tables.blank true).ok opened
    refine ⟨manifest.storeId, storeKey, auditKey, tables.storeSecrets, fun commit member => ?_⟩
    cases List.mem_singleton.mp member
    refine ⟨⟨manifest, accepted, rfl⟩, ?_, rfl, List.prefix_rfl, ?_⟩
    · cases opening with
      | created => rfl
      | kept version => exact version
      | upgraded version => cases version
    · cases opening with
      | created | kept | upgraded => rintro _ ⟨⟩
  | @performed environment call answer before after earlier _ done ih =>
    cases same
    obtain ⟨storeId, storeKey, auditKey, secrets, members⟩ := ih rfl
    have committed := (perform_meets environment before call).ok done
    obtain ⟨manifest, first, second, changed, row, accepted, written, sameStore, stays⟩ := committed
    have last := members before (.head _)
    obtain ⟨known, acceptedBefore, named⟩ := last.accepted
    obtain ⟨rfl, rfl, rfl⟩ := accepted.unique acceptedBefore
    have legacy : before.Legacy := by
      intro old
      rw [last.userVersion] at old
      cases old
    refine ⟨storeId, first, second, secrets, fun commit member => ?_⟩
    rcases List.mem_cons.mp member with rfl | member
    · exact ⟨⟨row.stored, stays legacy, sameStore.trans named⟩,
        written.sameStore.userVersion.trans last.userVersion,
        written.sameStore.storeSecrets.trans last.secrets, List.prefix_rfl,
        written.identity last.identity⟩
    · have old := members commit member
      exact ⟨old.accepted, old.userVersion, old.secrets, old.events.trans written.events, old.identity⟩

/-! ### What verifies is bounded -/

theorem Accepted.shaped (accepted : Accepted primitives tables manifest storeKey auditKey) :
    Shaped manifest := by
  obtain ⟨row, _, rfl, format⟩ := queryMeta_ok.mp accepted.stored
  exact ⟨format, accepted.storeIdLength, le_u64Max row.generationFits, accepted.schemaLength,
    accepted.identityLength, le_u64Max row.countFits, accepted.trustLength, accepted.auditLength⟩

theorem length_keyId (publicKey : Blob) :
    (Text.bytes (keyId primitives publicKey)).length ≤ u64Max := by
  unfold keyId
  rw [Text.length_bytes_lowerHex, Vector.length_toList]
  decide

theorem bounded_of_read {row : TrustedRow} {record : TrustRecord}
    (reads : readTrusted primitives row = .ok record) : Bounded record := by
  obtain ⟨valid, _, fields⟩ := readTrusted_ok reads
  have sound := check_ok.mp valid
  simp only [not_or, not_not] at sound
  rw [fields]
  refine ⟨?_, ?_, row.epoch.small, row.revision.small, row.updatedAt.small⟩
  · simp [← sound.2.2.2, length_keyId _]
  · show row.publicKey.length ≤ _
    rw [sound.1]
    decide

theorem readTrusted_injective {first second : TrustedRow} {record : TrustRecord}
    (reads : readTrusted primitives first = .ok record)
    (again : readTrusted primitives second = .ok record) : first = second := by
  obtain ⟨_, parsed, fields⟩ := readTrusted_ok reads
  obtain ⟨_, reparsed, others⟩ := readTrusted_ok again
  have state := (TrustState.asStr_parse parsed).symm.trans (TrustState.asStr_parse reparsed)
  have same := fields.symm.trans others
  cases first
  cases second
  cases state
  injection same with peerKeyId publicKey epoch _ revision updatedAt
  cases peerKeyId
  cases publicKey
  cases SqlInteger.ext epoch
  cases SqlInteger.ext revision
  cases SqlInteger.ext updatedAt
  rfl

theorem length_knownPermissionScopes :
    ∀ scope ∈ knownPermissionScopes, (Text.bytes scope).length ≤ u64Max := by
  decide

theorem boundedRow_of_query {records : List TrustRecord} {rows : List PermissionRow}
    (read : queryAllRecords primitives tables = .ok records)
    (queried : queryPermissions tables records = .ok rows) : ∀ row ∈ rows, BoundedRow row := by
  intro row member
  obtain ⟨known, record, pinned, same⟩ := (queryPermissions_ok.mp queried).2.1 row member
  obtain ⟨device, _, reads⟩ := mem_of_mapM read pinned
  exact ⟨same ▸ (bounded_of_read reads).peerKeyId, length_knownPermissionScopes _ known⟩

/-- Every event of a chain that verifies is authentic, and its hashes are short. -/
theorem verifyEvents_authentic {key : Blob} {events : List AuditRow} {expected : Nat}
    {previousHash : Blob} {last : Nat × Blob}
    (passed : verifyEvents primitives key events expected previousHash = .ok last)
    (short : previousHash.length ≤ u64Max) :
    (∀ row ∈ events, ∃ draft, row.draft primitives = some draft ∧ row.previousHash.length ≤ u64Max ∧
        primitives.sign key (auditHashBytes primitives row.sequence.value row.previousHash draft) =
          row.eventHash) ∧ last.2.length ≤ u64Max := by
  induction events generalizing expected previousHash with
  | nil =>
    cases passed
    refine ⟨?_, short⟩
    rintro row ⟨⟩
  | cons row rest ih =>
    obtain ⟨⟨draft, parses, numbered, linked, authentic⟩, _, later⟩ := verifyEvents_cons.mp passed
    have hashed : row.eventHash.length ≤ u64Max := by
      rw [← authentic, auditHash, Primitives.length_sign]
      decide
    obtain ⟨others, bounded⟩ := ih later hashed
    refine ⟨fun other member => ?_, bounded⟩
    rcases List.mem_cons.mp member with rfl | member
    · refine ⟨draft, parses, linked ▸ short, ?_⟩
      rw [numbered, linked]
      exact authentic
    · exact others other member

/-- An event of a chain that verifies stands at its number. -/
theorem getElem_of_sequence {events : List AuditRow}
    (numbered : events.map (fun row => row.sequence.value) = List.range' 1 events.length)
    {row : AuditRow} (member : row ∈ events) {index : Nat} (at_ : row.sequence.value = index + 1) :
    ∃ bound : index < events.length, events[index] = row := by
  obtain ⟨position, bound, rfl⟩ := List.mem_iff_getElem.mp member
  have same : events[position].sequence.value = 1 + position := by
    have listed := congrArg (fun list => list[position]?) numbered
    simp only [List.getElem?_map, List.getElem?_eq_getElem bound, Option.map_some] at listed
    rw [List.getElem?_range' (by omega)] at listed
    simpa using listed
  have equal : position = index := by omega
  subst equal
  exact ⟨bound, rfl⟩

/-! ### What was rewritten -/

section
variable {commits : List Tables} {storeId : Blob} {secrets : List (String × Blob)}
  {latest rewritten : Tables}

/-- **The rewritten tables are opened with the keys of the run.** -/
theorem keys_of_run {fresh : StoreMeta} {firstKey secondKey : Blob}
    (members : ∀ commit ∈ commits, Member primitives storeId storeKey auditKey secrets latest commit)
    (accepted : Accepted primitives rewritten fresh firstKey secondKey)
    (made : Protected primitives commits rewritten) :
    firstKey = storeKey ∧ secondKey = auditKey ∧ ∃ blob, loadSecret rewritten auditKeyName = .ok blob ∧
        ∀ commit ∈ commits, loadSecret commit auditKeyName = .ok blob := by
  have storeDomain : storeKeyPurpose.take 5 ≠ auditKeyPurpose.take 5 ∧
      storeKeyPurpose.take 5 ≠ identityPurpose.take 5 ∧
        auditKeyPurpose.take 5 ≠ identityPurpose.take 5 ∧ 5 ≤ storeKeyPurpose.length ∧
          5 ≤ auditKeyPurpose.length ∧ 5 ≤ identityPurpose.length := by decide
  obtain ⟨storeAudit, storeIdentity, auditIdentity, longStore, longAudit, longIdentity⟩ := storeDomain
  obtain ⟨blob, loaded, opened⟩ := accepted.storeSecret
  obtain ⟨secret, found, reopened⟩ := loadAuditKey_ok accepted.auditSecret
  refine ⟨?_, ?_⟩
  · obtain ⟨commit, member, presented⟩ :=
      made _ _ _ (.storeKey accepted.stored loaded) (unprotect_ok opened)
    obtain ⟨known, before, _⟩ := (members commit member).accepted
    generalize purposed : purposeWithStoreId storeKeyPurpose fresh.storeId = purpose at presented
    cases presented with
    | storeKey stored there =>
      cases Except.ok.inj (stored.symm.trans before.stored)
      obtain ⟨_, same, unsealed⟩ := before.storeSecret
      cases Except.ok.inj (there.symm.trans same)
      rw [purpose_inj purposed] at opened
      exact Except.ok.inj (opened.symm.trans unsealed)
    | auditKey => exact (domain_ne 5 longStore longAudit storeAudit purposed).elim
    | identity => exact (domain_ne 5 longStore longIdentity storeIdentity purposed).elim
  · obtain ⟨commit, member, presented⟩ :=
      made _ _ _ (.auditKey accepted.stored found) (unprotect_ok reopened)
    obtain ⟨known, before, _⟩ := (members commit member).accepted
    generalize purposed : purposeWithStoreId auditKeyPurpose fresh.storeId = purpose at presented
    cases presented with
    | storeKey => exact (domain_ne 5 longAudit longStore storeAudit.symm purposed).elim
    | auditKey stored there =>
      cases Except.ok.inj (stored.symm.trans before.stored)
      obtain ⟨_, same, unsealed⟩ := loadAuditKey_ok before.auditSecret
      cases Except.ok.inj (there.symm.trans same)
      rw [purpose_inj purposed] at reopened
      refine ⟨Except.ok.inj (reopened.symm.trans unsealed), secret, found, fun other listed => ?_⟩
      unfold loadSecret at there ⊢
      simp [(members other listed).secrets, ← (members commit member).secrets, there]
    | identity => exact (domain_ne 5 longAudit longIdentity auditIdentity purposed).elim

/-- **The rewritten metadata is that of a commit.** -/
theorem manifest_of_run {fresh : StoreMeta}
    (members : ∀ commit ∈ commits, Member primitives storeId storeKey auditKey secrets latest commit)
    (some : latest ∈ commits) (accepted : Accepted primitives rewritten fresh storeKey auditKey)
    (unforgeable : Unforgeable primitives commits rewritten) :
    ∃ commit ∈ commits, Accepted primitives commit fresh storeKey auditKey := by
  have domains : ∀ formatVersion, (manifestDomain formatVersion).take 5 ≠
        (Text.bytes "MRD_AUDIT_HEAD_V1").take 5 ∧
      (manifestDomain formatVersion).take 5 ≠ (Text.bytes "MRD_AUDIT_CHAIN_V1").take 5 := by
    intro formatVersion
    unfold manifestDomain
    split <;> decide
  have long : ∀ formatVersion, 5 ≤ (manifestDomain formatVersion).length := by
    intro formatVersion
    simp [length_manifestDomain]
  have longAudit : 5 ≤ (Text.bytes "MRD_AUDIT_HEAD_V1").length ∧
      5 ≤ (Text.bytes "MRD_AUDIT_CHAIN_V1").length := by decide
  obtain ⟨known, first, _⟩ := (members latest some).accepted
  obtain ⟨commit, member, signed⟩ := unforgeable _ _ _
    ⟨latest, some, known, storeKey, auditKey, first, .inl rfl⟩ (.manifest accepted.stored)
    accepted.sealed
  generalize written : manifestBytes fresh = message at signed
  cases signed with
  | @manifest other _ second before =>
    have same := manifestBytes_inj accepted.shaped before.shaped written
    have sealed : fresh.manifestSeal = other.manifestSeal := by
      simp [← accepted.sealed, ← before.sealed, manifestSeal, written]
    have equal : fresh = other := by
      rw [same, sealed]
    obtain ⟨before', again, _⟩ := (members commit member).accepted
    obtain ⟨rfl, _, rfl⟩ := before.unique again
    exact ⟨commit, member, equal ▸ before⟩
  | head => exact (domain_ne 5 (long _) longAudit.1 (domains _).1 written).elim
  | event => exact (domain_ne 5 (long _) longAudit.2 (domains _).2 written).elim

theorem rows_of_read {rows others : List TrustedRow} {records : List TrustRecord}
    (reads : List.Forall₂ (fun row record => readTrusted primitives row = .ok record) rows records)
    (again : List.Forall₂ (fun row record => readTrusted primitives row = .ok record) others records) :
    rows = others := by
  induction reads generalizing others with
  | nil =>
    cases again
    rfl
  | cons first _ ih =>
    cases again with
    | cons second rest => rw [readTrusted_injective first second, ih rest]

variable {commit : Tables}

/-- The trust tables of two stores with the same metadata. -/
theorem trust_of_manifest {first second third fourth : Blob}
    (accepted : Accepted primitives rewritten manifest first second)
    (before : Accepted primitives commit manifest third fourth)
    (current : manifest.formatVersion = storeFormatVersion)
    (collisionFree : ∀ message other, Hashed primitives rewritten message → Hashed primitives commit
      other → primitives.digest message = primitives.digest other → message = other) :
    rewritten.trustedDevices = commit.trustedDevices ∧
      rewritten.trustPermissions = commit.trustPermissions := by
  have counted := accepted.trust
  have recounted := before.trust
  rw [current] at counted recounted
  obtain ⟨records, rows, read, queried, same⟩ := trustCommitment_ok.mp counted
  obtain ⟨others, listed, reread, requeried, again⟩ := trustCommitment_ok.mp recounted
  obtain ⟨there, _, few⟩ := queryPermissions_ok.mp queried
  obtain ⟨present, _, fewOthers⟩ := queryPermissions_ok.mp requeried
  obtain ⟨count, digest⟩ := Prod.mk.inj (same.symm.trans again)
  have bytes := collisionFree _ _ (.trust read there) (.trust reread present) digest
  have bounded : ∀ {tables : Tables} {records : List TrustRecord},
      queryAllRecords primitives tables = .ok records → ∀ record ∈ records, Bounded record := by
    intro tables records read record member
    obtain ⟨device, _, reads⟩ := mem_of_mapM read member
    exact bounded_of_read reads
  obtain ⟨rfl, rfl⟩ := trustBytesV3_inj count (bounded read) (bounded reread)
    (boundedRow_of_query read queried) (boundedRow_of_query reread requeried) few fewOthers bytes
  refine ⟨?_, there.trans present.symm⟩
  exact rows_of_read (mapM_eq_ok.mp read) (mapM_eq_ok.mp reread)

theorem verifyIdentitySnapshot_ok (passed : verifyIdentitySnapshot primitives tables manifest = .ok ()) :
    (manifest.identityInitialized = false ∧ tables.machineIdentity = none) ∨
      (manifest.identityInitialized = true ∧ ∃ stored publicKey,
        tables.machineIdentity = some stored ∧ keyId primitives stored.publicKey = stored.keyId ∧
          stored.publicKey.length = 32 ∧
            manifest.identityCommitment = identityCommitment primitives stored ∧
              loadIdentityFromRow primitives manifest.storeId stored = .ok publicKey) := by
  unfold verifyIdentitySnapshot at passed
  split at passed
  next initialized there =>
    exact .inl ⟨initialized, there⟩
  next stored initialized there =>
    simp only [bind_eq_ok, guarded_eq_ok, not_not] at passed
    obtain ⟨_, valid, same, publicKey, opened, _⟩ := passed
    have sound := check_ok.mp valid
    simp only [not_or, not_not] at sound
    exact .inr ⟨initialized, stored, publicKey, there, sound.2.2.2.2, sound.2.1, same, opened⟩
  · cases passed

theorem identity_of_manifest
    (members : ∀ other ∈ commits, Member primitives storeId storeKey auditKey secrets latest other)
    (member : commit ∈ commits) (accepted : Accepted primitives rewritten manifest storeKey auditKey)
    (before : Accepted primitives commit manifest storeKey auditKey)
    (made : Protected primitives commits rewritten)
    (collisionFree : ∀ message other, Hashed primitives rewritten message → Hashed primitives commit
      other → primitives.digest message = primitives.digest other → message = other) :
    rewritten.machineIdentity = commit.machineIdentity := by
  have identityDomain : identityPurpose.take 5 ≠ storeKeyPurpose.take 5 ∧
      identityPurpose.take 5 ≠ auditKeyPurpose.take 5 ∧ 5 ≤ identityPurpose.length ∧
        5 ≤ storeKeyPurpose.length ∧ 5 ≤ auditKeyPurpose.length := by decide
  obtain ⟨identityStore, identityAudit, longIdentity, longStore, longAudit⟩ := identityDomain
  rcases verifyIdentitySnapshot_ok accepted.identity with
    ⟨initialized, none⟩ | ⟨initialized, stored, publicKey, there, named, long, commits', opened⟩
  · rcases verifyIdentitySnapshot_ok before.identity with ⟨_, absent⟩ | ⟨again, _⟩
    · rw [none, absent]
    · simp [initialized] at again
  rcases verifyIdentitySnapshot_ok before.identity with
    ⟨again, _⟩ | ⟨_, other, _, present, identified, length, recommits, _⟩
  · simp [initialized] at again
  have bytes := collisionFree _ _ (.identity there) (.identity present) (commits'.symm.trans recommits)
  have thirtyTwo : 32 ≤ u64Max := by decide
  have short : stored.protectedPkcs8.length ≤ u64Max := by
    obtain ⟨plaintext, unsealed, _⟩ := bind_ok opened
    obtain ⟨source, listed, presented⟩ :=
      made _ _ _ (.identity accepted.stored there) (unprotect_ok unsealed)
    generalize purposed : purposeWithStoreId identityPurpose manifest.storeId = purpose at presented
    generalize held : stored.protectedPkcs8 = blob at presented
    cases presented with
    | storeKey => exact (domain_ne 5 longIdentity longStore identityStore purposed).elim
    | auditKey => exact (domain_ne 5 longIdentity longAudit identityAudit purposed).elim
    | identity _ found => exact (members source listed).identity _ found
  have same : stored = other := identityBytes_inj (named ▸ length_keyId _) (identified ▸ length_keyId _)
    (long ▸ thirtyTwo) (length ▸ thirtyTwo) short ((members commit member).identity _ present)
    (List.append_cancel_left bytes)
  rw [there, present, same]

/-- The head of the chain of two stores with the same metadata and the same protected key. -/
theorem head_of_manifest {blob : Blob}
    (accepted : Accepted primitives rewritten manifest storeKey auditKey)
    (before : Accepted primitives commit manifest storeKey auditKey)
    (loaded : loadSecret rewritten auditKeyName = .ok blob)
    (reloaded : loadSecret commit auditKeyName = .ok blob)
    (collisionFree : ∀ message other, Hashed primitives rewritten message → Hashed primitives commit
      other → primitives.digest message = primitives.digest other → message = other) :
    ∃ head, rewritten.auditHead = some head ∧ commit.auditHead = some head := by
  obtain ⟨head, there, _, passed⟩ := verifyChain_ok.mp accepted.chain
  obtain ⟨other, present, _, verified⟩ := verifyChain_ok.mp before.chain
  have committed : ∀ {tables : Tables} {head : AuditHead},
      loadSecret tables auditKeyName = .ok blob → tables.auditHead = some head →
      auditCommitment primitives tables = .ok manifest.auditCommitment →
      primitives.digest (auditCommitmentBytes blob tables.auditEvents.length head) =
        manifest.auditCommitment := by
    intro tables head loaded there committed
    unfold auditCommitment at committed
    rw [loaded, there] at committed
    exact Except.ok.inj committed
  have bytes := collisionFree _ _ (.audit loaded there) (.audit reloaded present)
    ((committed loaded there accepted.audit).trans (committed reloaded present before.audit).symm)
  have empty : ([] : Blob).length ≤ u64Max := by decide
  have same := auditCommitmentBytes_inj (verifyEvents_authentic passed empty).2
    (verifyEvents_authentic verified empty).2 bytes
  exact ⟨head, there, same ▸ present⟩

/-- **A signed event is an event of the latest chain**, at its number. -/
theorem event_of_run {row : AuditRow} {last : Nat × Blob}
    (members : ∀ commit ∈ commits, Member primitives storeId storeKey auditKey secrets latest commit)
    (some : latest ∈ commits) (unforgeable : Unforgeable primitives commits rewritten)
    (injective : Function.Injective primitives.draftJson)
    (passed : verifyEvents primitives auditKey rewritten.auditEvents 1 [] = .ok last)
    (member : row ∈ rewritten.auditEvents) :
    ∃ other ∈ latest.auditEvents, other.sequence = row.sequence ∧
      row.record primitives = other.record primitives := by
  have headDomain : (Text.bytes "MRD_AUDIT_CHAIN_V1").take 11 ≠ (Text.bytes "MRD_AUDIT_HEAD_V1").take 11 ∧
      11 ≤ (Text.bytes "MRD_AUDIT_CHAIN_V1").length ∧
        11 ≤ (Text.bytes "MRD_AUDIT_HEAD_V1").length := by decide
  have manifestDomains : ∀ formatVersion, (Text.bytes "MRD_AUDIT_CHAIN_V1").take 5 ≠
      (manifestDomain formatVersion).take 5 := by
    intro formatVersion
    unfold manifestDomain
    split <;> decide
  have empty : ([] : Blob).length ≤ u64Max := by decide
  obtain ⟨known, first, _⟩ := (members latest some).accepted
  obtain ⟨draft, parses, short, authentic⟩ := (verifyEvents_authentic passed empty).1 row member
  obtain ⟨commit, listed, signed⟩ := unforgeable _ _ _
    ⟨latest, some, known, storeKey, auditKey, first, .inr rfl⟩ (.event member parses) authentic
  generalize written : auditHashBytes primitives row.sequence.value row.previousHash draft = message
    at signed
  cases signed with
  | @manifest manifest _ _ before =>
    refine (domain_ne 5 ?_ ?_ (manifestDomains manifest.formatVersion) written).elim
    · decide
    · simp [length_manifestDomain]
  | head => exact (domain_ne 11 headDomain.2.1 headDomain.2.2 headDomain.1 written).elim
  | @event manifest _ _ other second before there reparses =>
    obtain ⟨_, _, _, verified⟩ := verifyChain_ok.mp before.chain
    obtain ⟨third, parsed, fits, signed⟩ := (verifyEvents_authentic verified empty).1 other there
    cases Option.some.inj (parsed.symm.trans reparses)
    have bytes := auditHashBytes_inj injective row.sequence.small other.sequence.small short fits written
    have sequence : other.sequence = row.sequence := SqlInteger.ext bytes.1.symm
    refine ⟨other, (members commit listed).events.subset there, sequence, ?_⟩
    have hash : row.eventHash = other.eventHash := by
      rw [← authentic, ← signed, written]
    simp [AuditRow.record, parses, parsed, bytes.2.2, hash, sequence]

theorem events_of_manifest {head : AuditHead}
    (members : ∀ other ∈ commits, Member primitives storeId storeKey auditKey secrets latest other)
    (some : latest ∈ commits) (member : commit ∈ commits)
    (accepted : Accepted primitives rewritten manifest storeKey auditKey)
    (before : Accepted primitives commit manifest storeKey auditKey)
    (there : rewritten.auditHead = .some head) (present : commit.auditHead = .some head)
    (unforgeable : Unforgeable primitives commits rewritten)
    (injective : Function.Injective primitives.draftJson) :
    rewritten.auditEvents.map (AuditRow.record primitives) =
      commit.auditEvents.map (AuditRow.record primitives) := by
  have numbered : ∀ {tables : Tables}, verifyChain primitives auditKey tables = .ok () →
      tables.auditEvents.map (fun row => row.sequence.value) =
        List.range' 1 tables.auditEvents.length := by
    intro tables chain
    obtain ⟨_, _, _, passed⟩ := verifyChain_ok.mp chain
    exact (verifyEvents_sequences passed).2
  obtain ⟨_, same, _, passed⟩ := verifyChain_ok.mp accepted.chain
  cases there.symm.trans same
  obtain ⟨_, same, _, verified⟩ := verifyChain_ok.mp before.chain
  cases present.symm.trans same
  have lengths : rewritten.auditEvents.length = commit.auditEvents.length := by
    have counted := (verifyEvents_sequences passed).1
    have recounted := (verifyEvents_sequences verified).1
    omega
  obtain ⟨_, last, _⟩ := (members latest some).accepted
  have whole := numbered last.chain
  have began := (members commit member).events
  refine List.ext_getElem (by rw [List.length_map, List.length_map, lengths]) ?_
  intro index bound within
  rw [List.length_map] at bound within
  rw [List.getElem_map, List.getElem_map]
  -- the event at this place is one of the latest chain, where its number says it stands
  obtain ⟨other, listed, sequence, record⟩ := event_of_run members some unforgeable injective passed
    (List.getElem_mem bound)
  have placed : (rewritten.auditEvents[index]).sequence.value = index + 1 := by
    have listed := congrArg (fun list => list[index]?) (numbered accepted.chain)
    simp only [List.getElem?_map, List.getElem?_eq_getElem bound, Option.map_some] at listed
    rw [List.getElem?_range' bound] at listed
    have listed := Option.some.inj listed
    omega
  obtain ⟨far, found⟩ := getElem_of_sequence whole listed  (by rw [sequence, placed])
  rw [record, ← found, began.getElem within]

/-! ### The result -/

/-- **What still verifies after an arbitrary rewriting is the content of a commit.** -/
theorem rewritten_is_a_commit (primitives : Primitives)
    (injective : Function.Injective primitives.draftJson) (commits : List Tables)
    (run : Commits primitives commits) (rewritten : Tables) (loaded : StoreMeta × Blob)
    (made : Protected primitives commits rewritten)
    (unforgeable : Unforgeable primitives commits rewritten)
    (collisionFree : CollisionFree primitives commits rewritten)
    (verified : verifyStoreSnapshot primitives rewritten = .ok loaded) :
    ∃ commit ∈ commits, rewritten.content primitives = commit.content primitives := by
  obtain ⟨latest, rest, rfl⟩ : ∃ latest rest, commits = latest :: rest := by
    cases run with
    | created => exact ⟨_, _, rfl⟩
    | performed => exact ⟨_, _, rfl⟩
  obtain ⟨storeId, storeKey, auditKey, secrets, members⟩ := lineage run
  obtain ⟨auditKey', accepted⟩ := verifyStoreSnapshot_ok.mp verified
  obtain ⟨same, again, blob, found, everywhere⟩ := keys_of_run members accepted made
  obtain ⟨manifest, storeKey'⟩ := loaded
  cases same
  cases again
  have some : latest ∈ latest :: rest := (.head _)
  obtain ⟨commit, member, before⟩ := manifest_of_run members some accepted unforgeable
  have current : manifest.formatVersion = storeFormatVersion :=
    before.version.symm.trans (members commit member).userVersion
  have distinct : ∀ message other, Hashed primitives rewritten message →
      Hashed primitives commit other → primitives.digest message = primitives.digest other →
        message = other :=
    collisionFree rewritten (.head _) commit (.tail _ member)
  obtain ⟨trustedDevices, trustPermissions⟩ := trust_of_manifest accepted before current distinct
  have machineIdentity := identity_of_manifest members member accepted before made distinct
  obtain ⟨head, there, present⟩ :=
    head_of_manifest accepted before found (everywhere commit member) distinct
  have auditEvents :=
    events_of_manifest members some member accepted before there present unforgeable injective
  refine ⟨commit, member, ?_⟩
  simp [Tables.content, machineIdentity, trustedDevices, trustPermissions, auditEvents]

end

/-! ### A sample -/

open Framing

/-- A list whose elements are marked, up to an end mark. -/
theorem marked_selfDelimiting {α : Type} {encode : α → Blob}
    (delimits : SelfDelimiting (fun _ => True) encode) :
    SelfDelimiting (fun _ => True) fun list : List α => list.flatMap (fun a => 1 :: encode a) ++ [0] := by
  intro first
  induction first with
  | nil =>
    intro second _ _ left right same
    cases second with
    | nil => exact ⟨rfl, List.append_cancel_left same⟩
    | cons b rest => cases (List.cons.inj same).1
  | cons a first ih =>
    intro second _ _ left right same
    cases second with
    | nil => cases (List.cons.inj same).1
    | cons b second =>
      simp only [List.flatMap_cons, List.cons_append, List.append_assoc] at same
      obtain ⟨rfl, others⟩ := delimits a b trivial trivial _ _ (List.cons.inj same).2
      obtain ⟨rfl, rest⟩ := ih second trivial trivial left right (by
        rw [List.append_assoc, List.append_assoc]
        exact others)
      exact ⟨rfl, rest⟩

theorem sampleText_selfDelimiting : SelfDelimiting (fun _ => True) sampleText := by
  intro first second _ _ left right same
  have bytes : SelfDelimiting (fun _ => True) fun byte : UInt8 => [byte] := by
    intro a b _ _ left right same
    exact List.cons.inj same
  obtain ⟨equal, rest⟩ := marked_selfDelimiting bytes (Text.bytes first) (Text.bytes second) trivial
    trivial left right same
  exact ⟨Text.bytes_injective equal, rest⟩

theorem sampleOption_selfDelimiting : SelfDelimiting (fun _ => True) sampleOption := by
  intro first second _ _ left right same
  cases first with
  | none =>
    cases second with
    | none => exact ⟨rfl, List.append_cancel_left same⟩
    | some value => cases (List.cons.inj same).1
  | some value =>
    cases second with
    | none => cases (List.cons.inj same).1
    | some other =>
      obtain ⟨rfl, rest⟩ := sampleText_selfDelimiting value other trivial trivial left right
        (List.cons.inj same).2
      exact ⟨rfl, rest⟩

theorem sampleEntry_selfDelimiting : SelfDelimiting (fun _ => True)
    fun entry : String × String => sampleText entry.1 ++ sampleText entry.2 := by
  rintro ⟨key, value⟩ ⟨other, second⟩ _ _ left right same
  simp only [List.append_assoc] at same
  obtain ⟨rfl, values⟩ := sampleText_selfDelimiting key other trivial trivial _ _ same
  obtain ⟨rfl, rest⟩ := sampleText_selfDelimiting value second trivial trivial _ _ values
  exact ⟨rfl, rest⟩

theorem sampleNumber_inj {first second : Nat} {left right : Blob}
    (same : List.replicate first 1 ++ 0 :: left = List.replicate second 1 ++ 0 :: right) :
    first = second ∧ left = right := by
  induction first generalizing second with
  | zero =>
    cases second with
    | zero => exact ⟨rfl, (List.cons.inj same).2⟩
    | succ second => cases (List.cons.inj same).1
  | succ first ih =>
    cases second with
    | zero => cases (List.cons.inj same).1
    | succ second =>
      obtain ⟨rfl, rest⟩ := ih (List.cons.inj same).2
      exact ⟨rfl, rest⟩

theorem sampleDraft_injective : Function.Injective sampleDraft := by
  intro first second same
  obtain ⟨timestampMs, same⟩ := sampleNumber_inj same
  obtain ⟨action, same⟩ := sampleText_selfDelimiting _ _ trivial trivial _ _ same
  obtain ⟨outcome, same⟩ := sampleText_selfDelimiting _ _ trivial trivial _ _ same
  obtain ⟨sessionId, same⟩ := sampleOption_selfDelimiting _ _ trivial trivial _ _ same
  obtain ⟨actorDeviceId, same⟩ := sampleOption_selfDelimiting _ _ trivial trivial _ _ same
  obtain ⟨peerDeviceId, same⟩ := sampleOption_selfDelimiting _ _ trivial trivial _ _ same
  obtain ⟨transportKind, same⟩ := sampleOption_selfDelimiting _ _ trivial trivial _ _ same
  obtain ⟨reasonCode, same⟩ := sampleOption_selfDelimiting _ _ trivial trivial _ _ same
  obtain ⟨entries, _⟩ := marked_selfDelimiting sampleEntry_selfDelimiting _ _ trivial trivial [] []
    (congrArg (· ++ []) same)
  obtain ⟨_, _, _, _, _, _, _, _, ⟨_, _⟩⟩ := first
  obtain ⟨_, _, _, _, _, _, _, _, ⟨_, _⟩⟩ := second
  cases timestampMs
  cases action
  cases outcome
  cases sessionId
  cases actorDeviceId
  cases peerDeviceId
  cases transportKind
  cases reasonCode
  cases entries
  rfl

/-- The store of the sample run after each of its operations. -/
def sampleStore : Tables := (openStore sample sampleEnvironment true Tables.blank).1

def samplePinning : Call sample :=
  .insertTrustedDeviceWithPolicyAndAuditGuarded samplePeer sampleKey 1 ["screen.view", "audio.listen"]
    sampleAudit (.ok ())

def samplePinned : Tables := (perform sample sampleEnvironment samplePinning sampleStore).1

theorem sample_commits : Commits sample [samplePinned, sampleStore] := by
  have opened : (openStore sample sampleEnvironment true Tables.blank).2.isOk = true := by
    decide +kernel
  have pinned : (perform sample sampleEnvironment samplePinning sampleStore).2.isOk = true := by
    decide +kernel
  have first : Commits sample [sampleStore] := by
    unfold sampleStore
    generalize outcome : openStore sample sampleEnvironment true Tables.blank = made at opened
    obtain ⟨tables, _ | _⟩ := made
    · cases opened
    · exact .created outcome
  unfold samplePinned
  generalize outcome : perform sample sampleEnvironment samplePinning sampleStore = made at pinned
  obtain ⟨tables, _ | answer⟩ := made
  · cases pinned
  · exact .performed first outcome

/-- The messages that are hashed for tables without an identity. -/
def hashedMessages (tables : Tables) : List Blob :=
  (match queryAllRecords sample tables, tables.trustPermissions with
    | .ok records, some rows => [trustBytesV3 records rows]
    | _, _ => []) ++
  (match loadSecret tables auditKeyName, tables.auditHead with
    | .ok blob, some head => [auditCommitmentBytes blob tables.auditEvents.length head]
    | _, _ => [])

theorem mem_hashedMessages {tables : Tables} {message : Blob} (none : tables.machineIdentity = none)
    (hashed : Hashed sample tables message) : message ∈ hashedMessages tables := by
  unfold hashedMessages
  rw [List.mem_append]
  cases hashed with
  | identity there =>
    simp [none] at there
  | trust read there =>
    simp [read, there]
  | audit loaded there =>
    simp [loaded, there]

/-- The store is rolled back to its first commit, which is accepted. -/
theorem rewritten_is_a_commit_sample : Protected sample [samplePinned, sampleStore] sampleStore ∧
    Unforgeable sample [samplePinned, sampleStore] sampleStore ∧
    CollisionFree sample [samplePinned, sampleStore] sampleStore ∧
    ∃ commit ∈ [samplePinned, sampleStore], sampleStore.content sample = commit.content sample := by
  have there : sampleStore ∈ [samplePinned, sampleStore] := .tail _ (.head _)
  have made : Protected sample [samplePinned, sampleStore] sampleStore := by
    intro purpose blob plaintext presented _
    exact ⟨sampleStore, there, presented⟩
  obtain ⟨storeId, storeKey, auditKey, secrets, members⟩ := lineage sample_commits
  have equalKeys : storeKey = auditKey := by
    obtain ⟨manifest, accepted, _⟩ := (members sampleStore there).accepted
    obtain ⟨blob, loaded, opened⟩ := accepted.storeSecret
    obtain ⟨secret, found, reopened⟩ := loadAuditKey_ok accepted.auditSecret
    have same : loadSecret sampleStore storeKeyName = loadSecret sampleStore auditKeyName := by
      decide +kernel
    cases Except.ok.inj (loaded.symm.trans (same.trans found))
    exact Except.ok.inj ((unprotect_ok opened).symm.trans (unprotect_ok reopened))
  have unforgeable : Unforgeable sample [samplePinned, sampleStore] sampleStore := by
    rintro key message tag ⟨commit, member, manifest, first, second, accepted, which⟩ tagged _
    obtain ⟨_, again, _⟩ := (members commit member).accepted
    obtain ⟨_, rfl, rfl⟩ := accepted.unique again
    have key : key = first ∧ key = second := by
      rcases which with same | same
      · exact ⟨same, same.trans equalKeys⟩
      · exact ⟨same.trans equalKeys.symm, same⟩
    obtain ⟨known, before, _⟩ := (members sampleStore there).accepted
    cases tagged with
    | manifest stored =>
      cases Except.ok.inj (stored.symm.trans before.stored)
      exact ⟨sampleStore, there, key.1 ▸ .manifest before⟩
    | head present => exact ⟨sampleStore, there, key.2 ▸ .head before present⟩
    | event listed parses => exact ⟨sampleStore, there, key.2 ▸ .event before listed parses⟩
  have collisionFree : CollisionFree sample [samplePinned, sampleStore] sampleStore := by
    have distinct : ∀ first ∈ [sampleStore, samplePinned, sampleStore],
        ∀ second ∈ [sampleStore, samplePinned, sampleStore], first.machineIdentity = none ∧
          second.machineIdentity = none ∧ ∀ message ∈ hashedMessages first,
            ∀ other ∈ hashedMessages second, sample.digest message = sample.digest other →
              message = other := by decide +kernel
    intro first member second listed message other hashed rehashed
    obtain ⟨none, absent, apart⟩ := distinct first member second listed
    exact apart message (mem_hashedMessages none hashed) other (mem_hashedMessages absent rehashed)
  obtain ⟨manifest, accepted, _⟩ := (members sampleStore there).accepted
  exact ⟨made, unforgeable, collisionFree, rewritten_is_a_commit sample sampleDraft_injective _
    sample_commits sampleStore _ made unforgeable collisionFree
      (verifyStoreSnapshot_ok.mpr ⟨auditKey, accepted⟩)⟩

end MiniRemoteDesktop.Store
