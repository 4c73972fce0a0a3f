/-
**What the operations of the store do** (`mrd-store-sqlite`).

One statement for each operation. An operation that succeeds found an authentic store; it changed some
rows, which `Written` lists, and put a fresh row of metadata over them. The metadata that it wrote
describes the rows that it left, so that the store is authentic again.

* `Call`, `perform` — an operation with its arguments.
* `Pins`, `Grants`, `Transits`, `Appends` — the changes that operations are put together from.
* `Committed` — **a successful operation**: authentic before, changed as written, sealed after.
-/

import MiniRemoteDesktop.Store.Chain

namespace MiniRemoteDesktop.Store

open Primitives (length_digest)
open Checked Procedure
open Succeeds

/-! ### Calls -/

inductive Call (primitives : Primitives)
  | insertTrustedDevice (peerKeyId : String) (publicKey : Blob) (epoch : Nat) (state : TrustState)
  | insertTrustedDeviceWithAudit (peerKeyId : String) (publicKey : Blob) (epoch : Nat)
      (state : TrustState) (audit : AuditDraft)
  | insertTrustedDeviceWithPolicyAndAuditGuarded (peerKeyId : String) (publicKey : Blob) (epoch : Nat)
      (permissionCeiling : List String) (audit : AuditDraft) (beforeInsert : Except StoreError Unit)
  | transitionTrust (peerKeyId : String) (expectedRevision : Nat) (next : TrustState)
  | transitionTrustWithAudit (peerKeyId : String) (expectedRevision : Nat) (next : TrustState)
      (audit : AuditDraft)
  | saveIdentity (identity : DeviceIdentity primitives)
  | appendAudit (draft : AuditDraft)

inductive Answer
  | done
  | record (record : TrustRecord)
  | recordAndAudit (record : TrustRecord) (audit : AuditRecord)
  | transition (transition : AuditedTrustTransition)
  | audit (audit : AuditRecord)

variable {changed : Tables}

section
variable (primitives : Primitives)

def perform (environment : Environment) : Call primitives → Statements Answer
  | .insertTrustedDevice peerKeyId publicKey epoch state => do
    return .record (← insertTrustedDevice primitives environment peerKeyId publicKey epoch state)
  | .insertTrustedDeviceWithAudit peerKeyId publicKey epoch state audit => do
    let inserted ← insertTrustedDeviceWithAudit primitives environment peerKeyId publicKey epoch state
      audit
    return .recordAndAudit inserted.1 inserted.2
  | .insertTrustedDeviceWithPolicyAndAuditGuarded peerKeyId publicKey epoch permissionCeiling audit
      beforeInsert => do
    let inserted ← insertTrustedDeviceWithPolicyAndAuditGuarded primitives environment peerKeyId
      publicKey epoch permissionCeiling audit beforeInsert
    return .recordAndAudit inserted.1 inserted.2
  | .transitionTrust peerKeyId expectedRevision next => do
    return .record (← transitionTrust primitives environment peerKeyId expectedRevision next)
  | .transitionTrustWithAudit peerKeyId expectedRevision next audit => do
    return .transition (← transitionTrustWithAudit primitives environment peerKeyId expectedRevision
      next audit)
  | .saveIdentity identity => do
    saveIdentity primitives environment identity
    return .done
  | .appendAudit draft => do
    return .audit (← appendAudit primitives environment draft)

/-! ### Changes -/

/-- A row for a key that had none. -/
inductive Pins (before : Tables) (peerKeyId : String) (publicKey : Blob) (epoch : Nat)
    (state : TrustState) : TrustRecord → Tables → Prop
  | intro (epochCell updatedAt revision : SqlInteger) (bound : epochCell.value = epoch)
      (first : revision.value = 1)
      (fresh : ∀ row ∈ before.trustedDevices, row.peerKeyId ≠ peerKeyId) :
      Pins before peerKeyId publicKey epoch state
        ⟨peerKeyId, publicKey, epoch, state, 1, updatedAt.value⟩
        { before with
          trustedDevices := before.trustedDevices.orderedInsert TrustedRow.NotAfter
            ⟨peerKeyId, publicKey, epochCell, state.asStr, revision, updatedAt⟩ }

/-- The permission rows with those of a key added. -/
def grantRows (peerKeyId : String) (scopes : List String) (rows : List PermissionRow) :
    List PermissionRow :=
  scopes.foldl (fun rows scope => rows.orderedInsert PermissionRow.NotAfter ⟨peerKeyId, scope⟩) rows

def Tables.granted (tables : Tables) (peerKeyId : String) (scopes : List String) : Tables :=
  { tables with trustPermissions := tables.trustPermissions.map (grantRows peerKeyId scopes) }

/-- The row at a revision moves on by one. -/
inductive Transits (before : Tables) (peerKeyId : String) (expectedRevision : Nat) (next : TrustState) :
    TrustRecord → Tables → Prop
  | intro (row : TrustedRow) (current : TrustRecord) (revision updatedAt : SqlInteger)
      (found : before.trustedDevices.find? (fun row => row.peerKeyId = peerKeyId) = some row)
      (reads : readTrusted primitives row = .ok current)
      (expected : current.revision = expectedRevision)
      (active : current.state ≠ .revoked)
      (following : revision.value = expectedRevision + 1)
      (only : before.trustedDevices.countP (fun row => row.isAt peerKeyId expectedRevision) = 1) :
      Transits before peerKeyId expectedRevision next
        ⟨current.peerKeyId, current.publicKey, current.epoch, next, revision.value, updatedAt.value⟩
        { before with
          trustedDevices := before.trustedDevices.map fun row =>
            if row.isAt peerKeyId expectedRevision then row.moved next revision updatedAt else row }

/-- Why a transition is denied. -/
def Denies (before : Tables) (peerKeyId : String) (expectedRevision : Nat) :
    TrustTransitionRejection → Prop
  | .notFound => queryRecord primitives peerKeyId before = .ok none
  | .revisionMismatch => ∃ current, queryRecord primitives peerKeyId before = .ok (some current) ∧
      current.revision ≠ expectedRevision
  | .revokedTerminal => ∃ current, queryRecord primitives peerKeyId before = .ok (some current) ∧
      current.revision = expectedRevision ∧ current.state = .revoked

/-- One more event at the end of the chain. -/
inductive Appends (key : Blob) (before : Tables) (draft : AuditDraft) : AuditRecord → Tables → Prop
  | intro (head : AuditHead) (timestampMs nextSequence : SqlInteger)
      (there : before.auditHead = some head) (bound : timestampMs.value = draft.timestampMs)
      (following : nextSequence.value = head.nextSequence.value + 1) :
      Appends key before draft ⟨head.nextSequence.value, draft,
          auditHash primitives key head.nextSequence.value head.headHash draft⟩
        (before.audited primitives key head timestampMs nextSequence draft)

variable (storeId auditKey : Blob) (before : Tables) in
/-- **The changes of one operation.** -/
inductive Written :
    Call primitives → Answer → Tables → Prop
  | pinned {peerKeyId publicKey epoch state record after}
      (pins : Pins before peerKeyId publicKey epoch state record after) :
      Written (.insertTrustedDevice peerKeyId publicKey epoch state)
        (.record record) after
  | pinnedWithAudit {peerKeyId publicKey epoch state record audit appended middle after}
      (pins : Pins before peerKeyId publicKey epoch state record middle)
      (appends : Appends primitives auditKey middle audit.allowed appended after) :
      Written
        (.insertTrustedDeviceWithAudit peerKeyId publicKey epoch state audit)
        (.recordAndAudit record appended) after
  | pinnedWithPolicy {peerKeyId publicKey epoch permissionCeiling scopes beforeInsert record audit
        appended middle after}
      (canonical : canonicalPermissionCeiling permissionCeiling = .ok scopes)
      (there : before.trustPermissions ≠ none)
      (pins : Pins before peerKeyId publicKey epoch .trusted record middle)
      (appends : Appends primitives auditKey (middle.granted peerKeyId scopes) audit.allowed appended
        after) :
      Written
        (.insertTrustedDeviceWithPolicyAndAuditGuarded peerKeyId publicKey epoch permissionCeiling
          audit beforeInsert) (.recordAndAudit record appended) after
  | moved {peerKeyId expectedRevision next record after}
      (transits : Transits primitives before peerKeyId expectedRevision next record after) :
      Written (.transitionTrust peerKeyId expectedRevision next)
        (.record record) after
  | movedWithAudit {peerKeyId expectedRevision next record audit appended middle after}
      (transits : Transits primitives before peerKeyId expectedRevision next record middle)
      (appends : Appends primitives auditKey middle audit.allowed appended after) :
      Written (.transitionTrustWithAudit peerKeyId expectedRevision next audit)
        (.transition (.applied record appended)) after
  | denied {peerKeyId expectedRevision next rejection audit} {appended : AuditRecord} {after}
      (denies : Denies primitives before peerKeyId expectedRevision rejection)
      (appends : Appends primitives auditKey before (audit.denied rejection) appended after) :
      Written (.transitionTrustWithAudit peerKeyId expectedRevision next audit)
        (.transition (.rejected rejection appended.sequence)) after
  | identified {identity : DeviceIdentity primitives} {entropy blob : Blob}
      {epoch createdAtMs : SqlInteger} (none : before.machineIdentity = none)
      (protects : primitives.protect entropy (purposeWithStoreId identityPurpose storeId)
        identity.privatePkcs8 = .ok blob) :
      Written (.saveIdentity identity) .done { before with
        machineIdentity := some ⟨identity.keyId, epoch, identity.publicKey, blob, createdAtMs⟩ }
  | appended {draft : AuditDraft} {record after}
      (appends : Appends primitives auditKey before draft record after) :
      Written (.appendAudit draft) (.audit record) after

/-- The parts of a store that no operation changes. -/
structure SameStore (before after : Tables) : Prop where
  userVersion : after.userVersion = before.userVersion
  schemaMigrations : after.schemaMigrations = before.schemaMigrations
  schema : after.schema = before.schema
  storeSecrets : after.storeSecrets = before.storeSecrets

theorem Written.sameStore {primitives : Primitives} {storeId auditKey : Blob} {before : Tables}
    {call : Call primitives} {answer : Answer}
    (written : Written primitives storeId auditKey before call answer changed) :
    SameStore before changed := by
  cases written with
  | pinned pins =>
    cases pins
    exact ⟨rfl, rfl, rfl, rfl⟩
  | pinnedWithAudit pins appends | pinnedWithPolicy _ _ pins appends =>
    cases appends
    cases pins
    exact ⟨rfl, rfl, rfl, rfl⟩
  | moved transits =>
    cases transits
    exact ⟨rfl, rfl, rfl, rfl⟩
  | movedWithAudit transits appends =>
    cases appends
    cases transits
    exact ⟨rfl, rfl, rfl, rfl⟩
  | denied _ appends | appended appends =>
    cases appends
    exact ⟨rfl, rfl, rfl, rfl⟩
  | identified => exact ⟨rfl, rfl, rfl, rfl⟩

/-- A store of format 2 has no table of permissions: format 3 brought it. -/
def Tables.Legacy (tables : Tables) : Prop := tables.userVersion = 2 → tables.trustPermissions = none

/-- **A successful operation.** -/
inductive Committed (before : Tables) (call : Call primitives) (answer : Answer) : Tables → Prop
  | intro (manifest : StoreMeta) (storeKey auditKey : Blob) (changed : Tables) (row : MetaRow)
      (accepted : Accepted primitives before manifest storeKey auditKey)
      (written : Written primitives manifest.storeId auditKey before call answer changed)
      (sameStore : row.stored.storeId = manifest.storeId)
      (stays : before.Legacy → Accepted primitives { changed with storeMeta := some row } row.stored
        storeKey auditKey) :
      Committed before call answer { changed with storeMeta := some row }

end

/-! ### The statements -/

section

-- Contracts are used through their rules here; unfolding one would run the operation.
attribute [local irreducible] Meets

variable {primitives : Primitives} {environment : Environment} {tables : Tables}

variable {peerKeyId : String}

theorem insertRecord_succeeds {publicKey : Blob} {epoch : Nat} {state : TrustState} :
    Succeeds (insertRecord environment peerKeyId publicKey epoch state) tables
      (Pins tables peerKeyId publicKey epoch state) := by
  refine given fun updatedAt _ => given fun epochCell bound => ?_
  refine Meets.reads (passed fun fresh => ?_)
  refine Meets.changes (pure ?_)
  refine .intro epochCell updatedAt _ (toSql_ok bound) rfl fun row member same => fresh ?_
  exact List.any_eq_true.mpr ⟨row, member, decide_eq_true (.inl same)⟩

theorem insertPermission_succeeds {scope : String} :
    Succeeds (insertPermission peerKeyId scope) tables fun _ after =>
      after = tables.granted peerKeyId [scope] := by
  refine Meets.reads (given fun rows there => ?_)
  refine passed fun _ => change ?_
  show _ = { tables with trustPermissions := _ }
  rw [required_ok there]
  rfl

theorem granted_granted {first second : List String} :
    (tables.granted peerKeyId first).granted peerKeyId second =
      tables.granted peerKeyId (first ++ second) := by
  unfold Tables.granted grantRows
  cases tables.trustPermissions with
  | none => rfl
  | some rows => simp only [Option.map_some, List.foldl_append]

theorem insertPermissions_succeeds {scopes : List String} :
    Succeeds (forEach (fun scope _ => insertPermission peerKeyId scope) scopes ()) tables
      fun _ after => after = tables.granted peerKeyId scopes := by
  induction scopes generalizing tables with
  | nil =>
    refine pure ?_
    cases there : tables.trustPermissions with
    | none | some rows =>
      cases tables
      cases there
      rfl
  | cons scope rest ih =>
    refine bind insertPermission_succeeds fun _ middle same => ?_
    refine ih.mono fun _ after left => ?_
    rw [left, same, granted_granted, List.singleton_append]

theorem queryRecord_some {current : TrustRecord}
    (found : queryRecord primitives peerKeyId tables = .ok (some current)) :
    ∃ row, tables.trustedDevices.find? (fun row => row.peerKeyId = peerKeyId) = some row ∧
      readTrusted primitives row = .ok current := by
  unfold queryRecord at found
  split at found
  · cases found
  next row there =>
    refine ⟨row, there, ?_⟩
    rcases outcome : readTrusted primitives row with error | record <;> rw [outcome] at found <;>
      cases found
    rfl

theorem transitionRecord_succeeds {expectedRevision : Nat} {next : TrustState} :
    Succeeds (transitionRecord primitives environment peerKeyId expectedRevision next) tables
      fun answer after => match answer with
        | .error rejection => after = tables ∧
            Denies primitives tables peerKeyId expectedRevision rejection
        | .ok record => Transits primitives tables peerKeyId expectedRevision next record after := by
  refine queried fun found read => ?_
  rcases found with _ | current
  · exact pure ⟨rfl, read⟩
  refine Meets.ite (fun stale => pure ⟨rfl, current, read, stale⟩) fun expected => ?_
  have expected := not_not.mp expected
  refine Meets.ite (fun revoked => pure ⟨rfl, current, read, expected, revoked⟩) fun active => ?_
  refine given fun revision added => given fun updatedAt _ => ?_
  refine given fun cell bound => Meets.reads (Meets.changes ?_)
  refine passed fun only => pure ?_
  obtain ⟨row, there, reads⟩ := queryRecord_some read
  have counted : cell.value = expectedRevision + 1 := by
    rw [toSql_ok bound, checkedAdd_eq_some (required_ok added), expected]
  have same := toSql_ok bound
  subst same
  exact .intro row current cell updatedAt there reads expected active counted (not_not.mp only)

theorem insertEvent_succeeds {row : AuditRow} :
    Succeeds (insertEvent row) tables fun _ after => after = { tables with
      auditEvents := tables.auditEvents.orderedInsert AuditRow.NotAfter row } :=
  Meets.reads (passed fun _ => change rfl)

variable {draft : AuditDraft}

theorem appendAudit_succeeds {storeId key : Blob}
    (loaded : loadAuditKey primitives tables storeId = .ok key)
    (chain : verifyChain primitives key tables = .ok ()) :
    Succeeds (appendAuditInTransaction primitives storeId draft) tables
      (Appends primitives key tables draft) := by
  refine given fun _ _ => queried fun other same => ?_
  cases loaded.symm.trans same
  refine queried fun head there => given fun timestampMs bound => ?_
  have there := required_ok there
  refine bind insertEvent_succeeds ?_
  rintro _ _ rfl
  refine given fun following added => given fun nextSequence fits => ?_
  refine Meets.changes (pure ?_)
  obtain ⟨found, same, _, passed⟩ := verifyChain_ok.mp chain
  cases there.symm.trans same
  have counted : nextSequence.value = head.nextSequence.value + 1 := by
    rw [toSql_ok fits, checkedAdd_eq_some (required_ok added)]
  have same := toSql_ok fits
  subst same
  rw [orderedInsert_last (verifyEvents_below passed)]
  exact .intro head timestampMs nextSequence there (toSql_ok bound) counted

variable {β : Type}

theorem refreshTrust_then {manifest : StoreMeta} {next : StoreMeta → Statements β}
    {P : β → Tables → Prop}
    (rest : ∀ counted, trustCommitment primitives tables = .ok counted →
      Succeeds (next { manifest with trustCount := counted.1, trustCommitment := counted.2 }) tables
        P) :
    Succeeds (refreshTrust primitives manifest >>= next) tables P := by
  refine bind (R := fun fresh after => after = tables ∧ ∃ counted,
    trustCommitment primitives tables = .ok counted ∧
      fresh = { manifest with trustCount := counted.1, trustCommitment := counted.2 }) ?_ ?_
  · exact queried fun counted passed => pure ⟨rfl, counted, passed, rfl⟩
  · rintro _ _ ⟨rfl, counted, passed, rfl⟩
    exact rest counted passed

theorem refreshAudit_then {manifest : StoreMeta} {next : StoreMeta → Statements β}
    {P : β → Tables → Prop}
    (rest : ∀ commitment, auditCommitment primitives tables = .ok commitment →
      Succeeds (next { manifest with auditCommitment := commitment }) tables P) :
    Succeeds (refreshAudit primitives manifest >>= next) tables P := by
  refine bind (R := fun fresh after => after = tables ∧ ∃ commitment,
    auditCommitment primitives tables = .ok commitment ∧
      fresh = { manifest with auditCommitment := commitment }) ?_ ?_
  · exact queried fun commitment passed => pure ⟨rfl, commitment, passed, rfl⟩
  · rintro _ _ ⟨rfl, commitment, passed, rfl⟩
    exact rest commitment passed

theorem writeMeta_succeeds {storeKey : Blob} {manifest : StoreMeta} :
    Succeeds (writeMeta primitives storeKey manifest) tables fun _ after => ∃ row : MetaRow,
      row.stored = withSeal primitives storeKey
        { manifest with generation := manifest.generation + 1 } ∧
        after = { tables with storeMeta := some row } := by
  refine given fun generation added => given fun row bound => ?_
  refine Meets.reads (passed fun _ => change ⟨row, ?_, rfl⟩)
  rw [← checkedAdd_eq_some (required_ok added)]
  unfold toMetaRow at bound
  split at bound
  · rw [← Except.ok.inj bound]
  · cases bound

/-! ### The metadata and the rows -/

/-- The parts of the metadata that no operation changes. -/
structure SameMeta (before after : StoreMeta) : Prop where
  formatVersion : after.formatVersion = before.formatVersion
  storeId : after.storeId = before.storeId
  schemaCommitment : after.schemaCommitment = before.schemaCommitment
  auditInitialized : after.auditInitialized = before.auditInitialized

/-- **The metadata describes the rows.** -/
structure Describes (primitives : Primitives) (tables : Tables) (manifest : StoreMeta)
    (auditKey : Blob) : Prop where
  identity : verifyIdentitySnapshot primitives tables manifest = .ok ()
  trust : trustCommitmentForVersion primitives tables manifest.formatVersion =
    .ok (manifest.trustCount, manifest.trustCommitment)
  audit : auditCommitment primitives tables = .ok manifest.auditCommitment
  chain : verifyChain primitives auditKey tables = .ok ()

theorem queryMeta_ok {manifest : StoreMeta} : queryMeta tables = .ok manifest ↔
    ∃ row, tables.storeMeta = some row ∧ row.stored = manifest ∧
      (manifest.formatVersion = legacyStoreFormatVersion ∨
        manifest.formatVersion = storeFormatVersion) := by
  unfold queryMeta
  split
  next none =>
    rw [none]
    constructor
    · rintro ⟨⟩
    · rintro ⟨_, ⟨⟩, _⟩
  next row there =>
    rw [there]
    constructor
    · intro read
      split at read
      next format =>
        cases read
        exact ⟨row, rfl, rfl, format⟩
      · cases read
    · rintro ⟨_, ⟨⟩, rfl, format⟩
      exact if_pos format

theorem length_identityCommitment {manifest : StoreMeta}
    (verified : verifyIdentitySnapshot primitives tables manifest = .ok ()) :
    manifest.identityCommitment.length = 32 := by
  unfold verifyIdentitySnapshot at verified
  split at verified
  · split at verified
    next same =>
      rw [same, uninitializedIdentityCommitment, length_digest]
    · cases verified
  · obtain ⟨_, _, verified⟩ := bind_ok verified
    obtain ⟨same, _⟩ := guarded_ok verified
    rw [not_not.mp same, identityCommitment, length_digest]
  · cases verified

variable {counted : Nat × Blob}

theorem length_trustCommitment {version : Nat}
    (computed : trustCommitmentForVersion primitives tables version = .ok counted) :
    counted.2.length = 32 := by
  obtain ⟨records, _, computed⟩ := bind_ok computed
  split at computed
  · cases computed
    exact length_digest _ _
  · split at computed
    · obtain ⟨rows, _, ⟨⟩⟩ := bind_ok computed
      exact length_digest _ _
    · cases computed

theorem length_auditCommitment {commitment : Blob}
    (computed : auditCommitment primitives tables = .ok commitment) : commitment.length = 32 := by
  obtain ⟨_, _, computed⟩ := bind_ok computed
  obtain ⟨_, _, ⟨⟩⟩ := bind_ok computed
  exact length_digest _ _

variable {fresh : StoreMeta}

/-- **Metadata that describes the rows, sealed over them, makes the store authentic again.** -/
theorem Accepted.sealed_again {manifest : StoreMeta} {storeKey auditKey : Blob} {row : MetaRow}
    (accepted : Accepted primitives tables manifest storeKey auditKey)
    (sameStore : SameStore tables changed) (sameMeta : SameMeta manifest fresh)
    (describes : Describes primitives changed fresh auditKey)
    (sealed : row.stored = withSeal primitives storeKey { fresh with generation := fresh.generation
      + 1 }) :
    Accepted primitives { changed with storeMeta := some row } row.stored storeKey auditKey := by
  obtain ⟨before, there, _, format⟩ := queryMeta_ok.mp accepted.stored
  obtain ⟨blob, loaded, unsealed⟩ := accepted.storeSecret
  have format : row.stored.formatVersion = legacyStoreFormatVersion ∨
      row.stored.formatVersion = storeFormatVersion := by
    rw [sealed]
    show fresh.formatVersion = _ ∨ fresh.formatVersion = _
    rwa [sameMeta.formatVersion]
  have stored : queryMeta { changed with storeMeta := some row } = .ok row.stored :=
    queryMeta_ok.mpr ⟨row, rfl, rfl, format⟩
  have valid : validateSchema { changed with storeMeta := some row } = .ok () := by
    have valid := accepted.schemaValid
    unfold validateSchema at valid ⊢
    rw [there] at valid
    rw [sameStore.userVersion, sameStore.schemaMigrations]
    exact valid
  rw [sealed] at stored ⊢
  refine ⟨stored, ?_, Nat.succ_ne_zero _, ?_, length_identityCommitment describes.identity,
    length_trustCommitment describes.trust, length_auditCommitment describes.audit, ⟨blob, ?_, ?_⟩,
    accepted.storeKeyLength, rfl, ?_, valid, ?_, describes.identity, describes.trust, ?_,
    describes.audit, ?_, describes.chain⟩
  · exact sameMeta.storeId ▸ accepted.storeIdLength
  · exact sameMeta.schemaCommitment ▸ accepted.schemaLength
  · unfold loadSecret at loaded ⊢
    rw [← loaded, sameStore.storeSecrets]
  · exact sameMeta.storeId ▸ unsealed
  · exact sameStore.userVersion.trans (accepted.version.trans sameMeta.formatVersion.symm)
  · have same := accepted.schema
    rw [sameStore.schema]
    exact same.trans sameMeta.schemaCommitment.symm
  · exact sameMeta.auditInitialized.trans accepted.auditInitialized
  · have secret := accepted.auditSecret
    rw [sameStore.storeSecrets]
    exact sameMeta.storeId ▸ secret

/-! ### The operations -/

theorem queryPermissions_ok {records : List TrustRecord} {rows : List PermissionRow} :
    queryPermissions tables records = .ok rows ↔ tables.trustPermissions = some rows ∧
      (∀ row ∈ rows, row.permissionScope ∈ knownPermissionScopes ∧
        ∃ record ∈ records, record.peerKeyId = row.peerKeyId) ∧ rows.length ≤ u64Max := by
  simp only [queryPermissions, bind_eq_ok, guarded_eq_ok, required_eq_ok, List.any_eq_true,
    decide_eq_true_eq, not_exists, not_and, not_or, not_not, not_lt, not_forall, exists_prop]
  constructor
  · rintro ⟨_, there, valid, counted, ⟨⟩⟩
    exact ⟨there, valid, counted⟩
  · rintro ⟨there, valid, counted⟩
    exact ⟨rows, there, valid, counted, rfl⟩

theorem trustCommitment_ok : trustCommitment primitives tables = .ok counted ↔
    ∃ records rows, queryAllRecords primitives tables = .ok records ∧
      queryPermissions tables records = .ok rows ∧
        counted = (records.length, primitives.digest (trustBytesV3 records rows)) := by
  have unfolded : trustCommitment primitives tables = (do
      let records ← queryAllRecords primitives tables
      let rows ← queryPermissions tables records
      return (records.length, primitives.digest (trustBytesV3 records rows))) := rfl
  rw [unfolded]
  simp only [bind_eq_ok]
  constructor
  · rintro ⟨records, read, rows, queried, same⟩
    exact ⟨records, rows, read, queried, (Except.ok.inj same).symm⟩
  · rintro ⟨records, rows, read, queried, rfl⟩
    exact ⟨records, read, rows, queried, rfl⟩

theorem trustPermissions_of_commitment (computed : trustCommitment primitives tables = .ok counted) :
    tables.trustPermissions ≠ none := by
  obtain ⟨_, rows, _, queried, _⟩ := trustCommitment_ok.mp computed
  simp [(queryPermissions_ok.mp queried).1]

variable {manifest : StoreMeta} {storeKey auditKey : Blob}

/-- A store that has a table of permissions is of format 3. -/
theorem Accepted.current (accepted : Accepted primitives tables manifest storeKey auditKey)
    (legacy : tables.Legacy) (there : tables.trustPermissions ≠ none) :
    manifest.formatVersion = storeFormatVersion := by
  obtain ⟨_, _, _, format⟩ := queryMeta_ok.mp accepted.stored
  refine format.resolve_left fun old => there (legacy ?_)
  rw [accepted.version, old]
  rfl

/-- A recomputed trust commitment is the one that the format asks for. -/
theorem Accepted.recomputed (accepted : Accepted primitives tables manifest storeKey auditKey)
    (legacy : tables.Legacy) (computed : trustCommitment primitives changed = .ok counted)
    (missing : tables.trustPermissions = none → changed.trustPermissions = none) :
    trustCommitmentForVersion primitives changed manifest.formatVersion =
      .ok (counted.1, counted.2) := by
  rw [accepted.current legacy fun none => trustPermissions_of_commitment computed (missing none)]
  exact computed

theorem Appends.chain {record : AuditRecord} {after : Tables}
    (appends : Appends primitives auditKey tables draft record after)
    (chain : verifyChain primitives auditKey tables = .ok ()) :
    verifyChain primitives auditKey after = .ok () := by
  obtain ⟨head, timestampMs, nextSequence, there, bound, following⟩ := appends
  exact verifyChain_extended chain there bound following

variable {call : Call primitives}

theorem writeMeta_commits {answer : Answer}
    (accepted : Accepted primitives tables manifest storeKey auditKey)
    (written : Written primitives manifest.storeId auditKey tables call answer changed)
    (sameMeta : SameMeta manifest fresh)
    (describes : tables.Legacy → Describes primitives changed fresh auditKey) :
    Succeeds (writeMeta primitives storeKey fresh) changed
      fun _ => Committed primitives tables call answer := by
  refine writeMeta_succeeds.mono ?_
  rintro _ _ ⟨row, sealed, rfl⟩
  refine .intro manifest storeKey auditKey changed row accepted written ?_ ?_
  · rw [sealed]
    exact sameMeta.storeId
  · intro legacy
    exact accepted.sealed_again written.sameStore sameMeta (describes legacy) sealed

theorem commit_succeeds :
    Succeeds (commit environment) tables fun _ after => after = tables :=
  Meets.refuse (fun _ => trivial) fun _ => rfl

/-- The end of an operation: the metadata is sealed, and the transaction committed. -/
theorem seal_commits (view : β → Answer) {value : β}
    (accepted : Accepted primitives tables manifest storeKey auditKey)
    (written : Written primitives manifest.storeId auditKey tables call (view value) changed)
    (sameMeta : SameMeta manifest fresh)
    (describes : tables.Legacy → Describes primitives changed fresh auditKey) :
    Succeeds (writeMeta primitives storeKey fresh >>= fun _ => commit environment >>= fun _ =>
      pure value) changed fun value => Committed primitives tables call (view value) :=
  bind (writeMeta_commits accepted written sameMeta describes)
    fun _ _ committed => passed fun _ => pure committed

theorem insertTrustedDevice_meets {publicKey : Blob} {epoch : Nat} {state : TrustState} :
    Meets (insertTrustedDevice primitives environment peerKeyId publicKey epoch state) tables
      (fun record => Committed primitives tables
        (.insertTrustedDevice peerKeyId publicKey epoch state) (.record record))
      fun _ after => after = tables := by
  refine transaction (given fun _ _ => queried fun loaded verified => ?_)
  obtain ⟨auditKey, accepted⟩ := verifyStoreSnapshot_ok.mp verified
  refine bind insertRecord_succeeds fun record changed pins => ?_
  refine refreshTrust_then fun counted computed => ?_
  refine seal_commits .record accepted (.pinned pins) ⟨rfl, rfl, rfl, rfl⟩ fun legacy => ?_
  cases pins
  exact ⟨accepted.identity, accepted.recomputed legacy computed id, accepted.audit, accepted.chain⟩

theorem insertTrustedDeviceWithAudit_meets {publicKey : Blob} {epoch : Nat} {state : TrustState}
    {audit : AuditDraft} :
    Meets (insertTrustedDeviceWithAudit primitives environment peerKeyId publicKey epoch state audit)
      tables
      (fun inserted => Committed primitives tables
        (.insertTrustedDeviceWithAudit peerKeyId publicKey epoch state audit)
        (.recordAndAudit inserted.1 inserted.2))
      fun _ after => after = tables := by
  refine transaction (given fun _ _ => given fun _ _ => ?_)
  refine queried fun loaded verified => ?_
  obtain ⟨auditKey, accepted⟩ := verifyStoreSnapshot_ok.mp verified
  refine bind insertRecord_succeeds fun record middle pins => ?_
  have opened : loadAuditKey primitives middle loaded.1.storeId = .ok auditKey ∧
      verifyChain primitives auditKey middle = .ok () := by
    cases pins
    exact ⟨accepted.auditSecret, accepted.chain⟩
  refine bind (appendAudit_succeeds opened.1 opened.2) fun appended changed appends => ?_
  refine refreshTrust_then fun counted computed => refreshAudit_then fun commitment hashed => ?_
  refine seal_commits (fun inserted : TrustRecord × AuditRecord =>
    .recordAndAudit inserted.1 inserted.2) accepted (.pinnedWithAudit pins appends)
      ⟨rfl, rfl, rfl, rfl⟩ fun legacy => ?_
  have chain := appends.chain opened.2
  cases pins
  cases appends
  exact ⟨accepted.identity, accepted.recomputed legacy computed id, hashed, chain⟩

theorem insertTrustedDeviceWithPolicyAndAuditGuarded_meets {publicKey : Blob} {epoch : Nat}
    {permissionCeiling : List String} {audit : AuditDraft} {beforeInsert : Except StoreError Unit} :
    Meets (insertTrustedDeviceWithPolicyAndAuditGuarded primitives environment peerKeyId publicKey
        epoch permissionCeiling audit beforeInsert) tables
      (fun inserted => Committed primitives tables
        (.insertTrustedDeviceWithPolicyAndAuditGuarded peerKeyId publicKey epoch permissionCeiling
          audit beforeInsert) (.recordAndAudit inserted.1 inserted.2))
      fun _ after => after = tables := by
  refine transaction (given fun _ _ => given fun scopes canonical => ?_)
  refine given fun _ _ => queried fun loaded verified => ?_
  obtain ⟨auditKey, accepted⟩ := verifyStoreSnapshot_ok.mp verified
  refine given fun _ _ => ?_
  refine bind insertRecord_succeeds fun record middle pins => ?_
  refine bind insertPermissions_succeeds ?_
  rintro _ _ rfl
  have opened : loadAuditKey primitives (middle.granted peerKeyId scopes) loaded.1.storeId =
      .ok auditKey ∧ verifyChain primitives auditKey (middle.granted peerKeyId scopes) = .ok () := by
    cases pins
    exact ⟨accepted.auditSecret, accepted.chain⟩
  refine bind (appendAudit_succeeds opened.1 opened.2) fun appended changed appends => ?_
  refine refreshTrust_then fun counted computed => refreshAudit_then fun commitment hashed => ?_
  have missing : tables.trustPermissions = none → changed.trustPermissions = none := by
    intro missing
    cases pins
    cases appends
    show tables.trustPermissions.map _ = none
    simp [missing]
  have there : tables.trustPermissions ≠ none :=
    fun none => trustPermissions_of_commitment computed (missing none)
  refine seal_commits (fun inserted : TrustRecord × AuditRecord =>
    .recordAndAudit inserted.1 inserted.2) accepted (.pinnedWithPolicy canonical there pins appends)
      ⟨rfl, rfl, rfl, rfl⟩ fun legacy => ?_
  have chain := appends.chain opened.2
  have counted := accepted.recomputed legacy computed missing
  cases pins
  cases appends
  exact ⟨accepted.identity, counted, hashed, chain⟩

theorem transitionTrust_meets {expectedRevision : Nat} {next : TrustState} :
    Meets (transitionTrust primitives environment peerKeyId expectedRevision next) tables
      (fun record => Committed primitives tables
        (.transitionTrust peerKeyId expectedRevision next) (.record record))
      fun _ after => after = tables := by
  refine transaction (queried fun loaded verified => ?_)
  obtain ⟨auditKey, accepted⟩ := verifyStoreSnapshot_ok.mp verified
  refine bind transitionRecord_succeeds fun answer changed done => ?_
  rcases answer with rejection | record
  · exact fail
  refine refreshTrust_then fun counted computed => ?_
  refine seal_commits .record accepted (.moved done) ⟨rfl, rfl, rfl, rfl⟩ fun legacy => ?_
  cases done
  exact ⟨accepted.identity, accepted.recomputed legacy computed id, accepted.audit, accepted.chain⟩

theorem transitionTrustWithAudit_meets {expectedRevision : Nat} {next : TrustState}
    {audit : AuditDraft} :
    Meets (transitionTrustWithAudit primitives environment peerKeyId expectedRevision next audit) tables
      (fun transition => Committed primitives tables
        (.transitionTrustWithAudit peerKeyId expectedRevision next audit) (.transition transition))
      fun _ after => after = tables := by
  refine transaction (given fun _ _ => queried fun loaded verified => ?_)
  obtain ⟨auditKey, accepted⟩ := verifyStoreSnapshot_ok.mp verified
  refine bind transitionRecord_succeeds fun answer middle done => ?_
  rcases answer with rejection | record
  · obtain ⟨rfl, denies⟩ := done
    refine bind (appendAudit_succeeds accepted.auditSecret accepted.chain)
      fun appended changed appends => refreshAudit_then fun commitment hashed => ?_
    refine seal_commits .transition accepted (.denied denies appends) ⟨rfl, rfl, rfl, rfl⟩ fun _ => ?_
    have chain := appends.chain accepted.chain
    cases appends
    exact ⟨accepted.identity, accepted.trust, hashed, chain⟩
  · have opened : loadAuditKey primitives middle loaded.1.storeId = .ok auditKey ∧
        verifyChain primitives auditKey middle = .ok () := by
      cases done
      exact ⟨accepted.auditSecret, accepted.chain⟩
    refine bind (appendAudit_succeeds opened.1 opened.2) fun appended changed appends => ?_
    refine refreshTrust_then fun counted computed => refreshAudit_then fun commitment hashed => ?_
    refine seal_commits .transition accepted (.movedWithAudit done appends) ⟨rfl, rfl, rfl, rfl⟩
      fun legacy => ?_
    have chain := appends.chain opened.2
    cases done
    cases appends
    exact ⟨accepted.identity, accepted.recomputed legacy computed id, hashed, chain⟩

theorem protectSecret_ok {call : Nat} {purpose plaintext blob : Blob}
    (made : protectSecret primitives environment call purpose plaintext = .ok blob) :
    primitives.protect (environment.entropy call) purpose plaintext = .ok blob := by
  unfold protectSecret at made
  rcases outcome : primitives.protect (environment.entropy call) purpose plaintext with _ | other <;>
    rw [outcome] at made <;> cases made
  rfl

theorem saveIdentity_meets {identity : DeviceIdentity primitives} :
    Meets (saveIdentity primitives environment identity) tables
      (fun _ => Committed primitives tables (.saveIdentity identity) .done)
      fun _ after => after = tables := by
  refine transaction (queried fun loaded verified => ?_)
  obtain ⟨auditKey, accepted⟩ := verifyStoreSnapshot_ok.mp verified
  refine passed fun _ => Meets.reads (passed fun absent => ?_)
  refine given fun blob made => given fun createdAtMs _ => Meets.changes ?_
  refine queried fun stored found => given fun _ valid => ?_
  cases found
  have protects := protectSecret_ok made
  have none : tables.machineIdentity = none := Option.not_isSome_iff_eq_none.mp absent
  refine bind (writeMeta_commits accepted (.identified none protects)
    ⟨rfl, rfl, rfl, rfl⟩ fun _ => ?_) fun _ after committed => ?_
  · refine ⟨?_, accepted.trust, accepted.audit, accepted.chain⟩
    have unsealed : unprotect primitives (purposeWithStoreId identityPurpose loaded.1.storeId) blob =
        .ok identity.privatePkcs8 := by
      unfold unprotect
      rw [primitives.unprotect_protect _ _ _ _ protects]
      rfl
    refine bind_eq_ok.mpr ⟨(), valid, guarded_eq_ok.mpr ⟨fun differs => differs rfl, ?_⟩⟩
    refine bind_eq_ok.mpr ⟨identity.publicKey, bind_eq_ok.mpr ⟨_, unsealed, ?_⟩, rfl⟩
    refine bind_eq_ok.mpr ⟨_, required_eq_ok.mpr identity.parses, guarded_eq_ok.mpr ⟨?_, rfl⟩⟩
    rintro (differs | differs)
    · exact differs rfl
    · exact differs rfl
  · exact commit_succeeds.mono fun _ _ same => same ▸ committed

theorem appendAudit_meets :
    Meets (appendAudit primitives environment draft) tables
      (fun record => Committed primitives tables (.appendAudit draft) (.audit record))
      fun _ after => after = tables := by
  refine transaction (queried fun loaded verified => ?_)
  obtain ⟨auditKey, accepted⟩ := verifyStoreSnapshot_ok.mp verified
  refine bind (appendAudit_succeeds accepted.auditSecret accepted.chain)
    fun appended changed appends => refreshAudit_then fun commitment hashed => ?_
  refine seal_commits .audit accepted (.appended appends) ⟨rfl, rfl, rfl, rfl⟩ fun _ => ?_
  have chain := appends.chain accepted.chain
  cases appends
  exact ⟨accepted.identity, accepted.trust, hashed, chain⟩

variable (environment tables) in
/-- **Every call either commits or leaves the tables alone.** -/
theorem perform_meets (call : Call primitives) :
    Meets (perform primitives environment call) tables (Committed primitives tables call)
      fun _ after => after = tables := by
  cases call with
  | insertTrustedDevice => exact Meets.bind insertTrustedDevice_meets fun _ _ => Meets.pure
  | insertTrustedDeviceWithAudit =>
    exact Meets.bind insertTrustedDeviceWithAudit_meets fun _ _ => Meets.pure
  | insertTrustedDeviceWithPolicyAndAuditGuarded =>
    exact Meets.bind insertTrustedDeviceWithPolicyAndAuditGuarded_meets fun _ _ => Meets.pure
  | transitionTrust => exact Meets.bind transitionTrust_meets fun _ _ => Meets.pure
  | transitionTrustWithAudit =>
    exact Meets.bind transitionTrustWithAudit_meets fun _ _ => Meets.pure
  | saveIdentity => exact Meets.bind saveIdentity_meets fun _ _ => Meets.pure
  | appendAudit => exact Meets.bind appendAudit_meets fun _ _ => Meets.pure

end

end MiniRemoteDesktop.Store
