/-
**The sealed byte strings tell their contents apart** (`mrd-store-sqlite`).

Four encodings are nested: the records and permissions in the trust commitment, the identity and the
head of the chain in theirs, each event in its chain bytes, and all commitments in the manifest. Every
one of them is injective on the values that a store verifies, and each begins with a domain of its own.

* `manifestBytes_inj`, `trustBytesV3_inj`, `identityBytes_inj`, `auditCommitmentBytes_inj`,
  `auditHashBytes_inj` — equal bytes come from equal contents.
* `purpose_inj` — a purpose names its domain and its store.
-/

import MiniRemoteDesktop.Lib.Framing
import MiniRemoteDesktop.Store.Trust

namespace MiniRemoteDesktop.Store

open Bytes Framing

/-! ### Numbers and fields -/

variable {right left : Blob}

theorem beBytes_inj {first second : Nat} (small : first ≤ u64Max) (fits : second ≤ u64Max)
    (same : beBytes first ++ left = beBytes second ++ right) :
    first = second ∧ left = right := by
  unfold u64Max at small fits
  exact word UInt64 first second (by show first < 2 ^ 64; omega) (by show second < 2 ^ 64; omega) _ _ same

theorem appendField_inj {first second : Blob} (short : first.length ≤ u64Max)
    (fits : second.length ≤ u64Max) (same : appendField first ++ left = appendField second ++ right) :
    first = second ∧ left = right := by
  unfold u64Max at short fits
  exact framed UInt64 first second (by show first.length < 2 ^ 64; omega)
    (by show second.length < 2 ^ 64; omega) _ _ same

theorem textField_inj {first second : String} (short : (Text.bytes first).length ≤ u64Max)
    (fits : (Text.bytes second).length ≤ u64Max)
    (same : textField first ++ left = textField second ++ right) : first = second ∧ left = right := by
  obtain ⟨equal, rest⟩ := appendField_inj short fits same
  exact ⟨Text.bytes_injective equal, rest⟩

@[simp] theorem length_beBytes (value : Nat) : (beBytes value).length = 8 := length_bigEndian _

theorem appendField_last {first second : Blob} (same : appendField first = appendField second) :
    first = second :=
  (List.append_inj same (by rw [length_beBytes, length_beBytes])).2

theorem SqlInteger.small (cell : SqlInteger) : cell.value ≤ u64Max := by
  have fits := cell.fits
  unfold i64Max at fits
  unfold u64Max
  omega

theorem le_u64Max {value : Nat} (fits : value ≤ i64Max) : value ≤ u64Max :=
  SqlInteger.small ⟨value, fits⟩

variable {other : Blob}

theorem append_inj_of_back {front back rest : Blob} (same : front ++ back = other ++ rest)
    (lengths : back.length = rest.length) : front = other ∧ back = rest :=
  List.append_inj' same lengths

/-! ### The trust tables -/

/-- What a record that was read is bounded by. -/
structure Bounded (record : TrustRecord) : Prop where
  peerKeyId : (Text.bytes record.peerKeyId).length ≤ u64Max
  publicKey : record.publicKey.length ≤ u64Max
  epoch : record.epoch ≤ u64Max
  revision : record.revision ≤ u64Max
  updatedAtMs : record.updatedAtMs ≤ u64Max

theorem length_asStr (state : TrustState) : (Text.bytes state.asStr).length ≤ u64Max := by
  cases state <;> decide

theorem asStr_injective : Function.Injective TrustState.asStr := by
  intro first second same
  have parsed := congrArg TrustState.parse same
  rw [TrustState.parse_asStr, TrustState.parse_asStr] at parsed
  exact Option.some.inj parsed

theorem recordBytes_selfDelimiting : SelfDelimiting Bounded recordBytes := by
  intro first second short fits left right same
  unfold recordBytes at same
  simp only [List.append_assoc] at same
  obtain ⟨peerKeyId, same⟩ := textField_inj short.peerKeyId fits.peerKeyId same
  obtain ⟨publicKey, same⟩ := appendField_inj short.publicKey fits.publicKey same
  obtain ⟨epoch, same⟩ := beBytes_inj short.epoch fits.epoch same
  obtain ⟨state, same⟩ := textField_inj (length_asStr _) (length_asStr _) same
  obtain ⟨revision, same⟩ := beBytes_inj short.revision fits.revision same
  obtain ⟨updatedAtMs, same⟩ := beBytes_inj short.updatedAtMs fits.updatedAtMs same
  refine ⟨?_, same⟩
  cases first
  cases second
  cases peerKeyId
  cases publicKey
  cases epoch
  cases asStr_injective state
  cases revision
  cases updatedAtMs
  rfl

/-- What a permission row of a store that verifies is bounded by. -/
def BoundedRow (row : PermissionRow) : Prop :=
  (Text.bytes row.peerKeyId).length ≤ u64Max ∧ (Text.bytes row.permissionScope).length ≤ u64Max

theorem permissionBytes_selfDelimiting : SelfDelimiting BoundedRow permissionBytes := by
  intro first second short fits left right same
  unfold permissionBytes at same
  rw [List.append_assoc, List.append_assoc] at same
  obtain ⟨peerKeyId, same⟩ := textField_inj short.1 fits.1 same
  obtain ⟨permissionScope, same⟩ := textField_inj short.2 fits.2 same
  refine ⟨?_, same⟩
  cases first
  cases second
  cases peerKeyId
  cases permissionScope
  rfl

/-- **The trust commitment binds the records and the permissions**; the count of the permissions, which
stands behind them, is found from the end. -/
theorem trustBytesV3_inj {first second : List TrustRecord} {rows others : List PermissionRow}
    (counts : first.length = second.length) (short : ∀ record ∈ first, Bounded record)
    (fits : ∀ record ∈ second, Bounded record) (shortRows : ∀ row ∈ rows, BoundedRow row)
    (fitsRows : ∀ row ∈ others, BoundedRow row) (few : rows.length ≤ u64Max)
    (fewOthers : others.length ≤ u64Max)
    (same : trustBytesV3 first rows = trustBytesV3 second others) : first = second ∧ rows = others := by
  have same := List.append_cancel_left same
  rw [counts] at same
  obtain ⟨records, same⟩ := flatMap_inj recordBytes_selfDelimiting short fits counts
    (List.append_cancel_left same)
  obtain ⟨permissions, lengths⟩ := append_inj_of_back same (by rw [length_beBytes, length_beBytes])
  have lengths := beBytes_inj few fewOthers (congrArg (· ++ []) lengths)
  have permissions : rows.flatMap permissionBytes ++ [] = others.flatMap permissionBytes ++ [] := by
    rw [permissions]
  exact ⟨records, (flatMap_inj permissionBytes_selfDelimiting shortRows fitsRows lengths.1
    permissions).1⟩

/-! ### The identity -/

theorem identityBytes_inj {first second : StoredIdentity}
    (shortId : (Text.bytes first.keyId).length ≤ u64Max)
    (fitsId : (Text.bytes second.keyId).length ≤ u64Max) (shortKey : first.publicKey.length ≤ u64Max)
    (fitsKey : second.publicKey.length ≤ u64Max) (shortBlob : first.protectedPkcs8.length ≤ u64Max)
    (fitsBlob : second.protectedPkcs8.length ≤ u64Max)
    (same : identityBytes first = identityBytes second) : first = second := by
  obtain ⟨keyId, same⟩ := textField_inj shortId fitsId same
  obtain ⟨epoch, same⟩ := beBytes_inj first.epoch.small second.epoch.small same
  obtain ⟨publicKey, same⟩ := appendField_inj shortKey fitsKey same
  obtain ⟨protectedPkcs8, same⟩ := appendField_inj shortBlob fitsBlob same
  obtain ⟨createdAtMs, _⟩ :=
    beBytes_inj first.createdAtMs.small second.createdAtMs.small (congrArg (· ++ []) same)
  cases first
  cases second
  cases keyId
  cases SqlInteger.ext epoch
  cases publicKey
  cases protectedPkcs8
  cases SqlInteger.ext createdAtMs
  rfl

/-! ### The audit chain -/

/-- **The audit commitment binds the head of the chain**, for one protected key. -/
theorem auditCommitmentBytes_inj {blob : Blob} {count other : Nat} {first second : AuditHead}
    (shortHash : first.headHash.length ≤ u64Max) (fitsHash : second.headHash.length ≤ u64Max)
    (same : auditCommitmentBytes blob count first = auditCommitmentBytes blob other second) :
    first = second := by
  have same := List.append_cancel_left (List.append_cancel_left same)
  obtain ⟨_, same⟩ := List.append_inj same (by rw [length_beBytes, length_beBytes])
  obtain ⟨nextSequence, same⟩ := beBytes_inj first.nextSequence.small second.nextSequence.small same
  obtain ⟨headHash, same⟩ := appendField_inj shortHash fitsHash same
  have headSeal := appendField_last same
  cases first
  cases second
  cases SqlInteger.ext nextSequence
  cases headHash
  cases headSeal
  rfl

/-- **The chain bytes bind an event**: its number, what it follows, and its draft. -/
theorem auditHashBytes_inj {primitives : Primitives} (injective : Function.Injective primitives.draftJson)
    {sequence other : Nat} {previousHash hash : Blob} {draft second : AuditDraft}
    (small : sequence ≤ u64Max) (fits : other ≤ u64Max) (short : previousHash.length ≤ u64Max)
    (shortOther : hash.length ≤ u64Max)
    (same : auditHashBytes primitives sequence previousHash draft =
      auditHashBytes primitives other hash second) :
    sequence = other ∧ previousHash = hash ∧ draft = second := by
  obtain ⟨numbers, same⟩ := beBytes_inj small fits (List.append_cancel_left same)
  obtain ⟨hashes, same⟩ := appendField_inj short shortOther same
  exact ⟨numbers, hashes, injective (appendField_last same)⟩

/-! ### The manifest -/

/-- The shape of metadata that verifies. -/
structure Shaped (manifest : StoreMeta) : Prop where
  format : manifest.formatVersion = legacyStoreFormatVersion ∨
    manifest.formatVersion = storeFormatVersion
  storeId : manifest.storeId.length = 16
  generation : manifest.generation ≤ u64Max
  schemaCommitment : manifest.schemaCommitment.length = 32
  identityCommitment : manifest.identityCommitment.length = 32
  trustCount : manifest.trustCount ≤ u64Max
  trustCommitment : manifest.trustCommitment.length = 32
  auditCommitment : manifest.auditCommitment.length = 32

theorem flagByte_injective : Function.Injective flagByte := by
  intro first second same
  cases first <;> cases second <;> first | rfl | exact absurd same (by decide)

theorem length_manifestDomain (formatVersion : Nat) :
    (manifestDomain formatVersion).length = 21 := by
  unfold manifestDomain
  split <;> decide

/-- **The manifest binds everything but its own seal.** -/
theorem manifestBytes_inj {first second : StoreMeta} (shaped : Shaped first) (other : Shaped second)
    (same : manifestBytes first = manifestBytes second) :
    first = { second with manifestSeal := first.manifestSeal } := by
  have lengths : ∀ {left right : Blob} {length : Nat}, left.length = length → right.length = length →
      length ≤ u64Max → left.length ≤ u64Max ∧ right.length ≤ u64Max := by
    intro left right length one two bound
    exact ⟨one ▸ bound, two ▸ bound⟩
  have short : 32 ≤ u64Max := by decide
  obtain ⟨_, same⟩ := List.append_inj same (by rw [length_manifestDomain, length_manifestDomain])
  have version : ∀ {manifest : StoreMeta}, Shaped manifest →
      manifest.formatVersion < 256 ^ Word.width UInt32 := by
    intro manifest shaped
    rcases shaped.format with format | format <;> rw [format] <;> decide
  obtain ⟨formatVersion, same⟩ := word UInt32 _ _ (version shaped) (version other) _ _ same
  obtain ⟨one, two⟩ := lengths shaped.storeId other.storeId (by decide)
  obtain ⟨storeId, same⟩ := appendField_inj one two same
  obtain ⟨generation, same⟩ := beBytes_inj shaped.generation other.generation same
  obtain ⟨one, two⟩ := lengths shaped.schemaCommitment other.schemaCommitment short
  obtain ⟨schemaCommitment, same⟩ := appendField_inj one two same
  obtain ⟨identityInitialized, same⟩ := List.cons.inj same
  obtain ⟨one, two⟩ := lengths shaped.identityCommitment other.identityCommitment short
  obtain ⟨identityCommitment, same⟩ := appendField_inj one two same
  obtain ⟨trustCount, same⟩ := beBytes_inj shaped.trustCount other.trustCount same
  obtain ⟨one, two⟩ := lengths shaped.trustCommitment other.trustCommitment short
  obtain ⟨trustCommitment, same⟩ := appendField_inj one two same
  obtain ⟨auditInitialized, same⟩ := List.cons.inj same
  have auditCommitment := appendField_last same
  cases first
  cases second
  cases formatVersion
  cases storeId
  cases generation
  cases schemaCommitment
  cases flagByte_injective identityInitialized
  cases identityCommitment
  cases trustCount
  cases trustCommitment
  cases flagByte_injective auditInitialized
  cases auditCommitment
  rfl

/-! ### Domains -/

/-- Messages of two domains that differ early are different. -/
theorem domain_ne {domain : Blob} (length : Nat) (long : length ≤ domain.length)
    (longOther : length ≤ other.length) (differ : domain.take length ≠ other.take length) :
    domain ++ left ≠ other ++ right := by
  intro same
  have front := congrArg (List.take length) same
  rw [List.take_append_of_le_length long, List.take_append_of_le_length longOther] at front
  exact differ front

/-- **A purpose names its store.** -/
theorem purpose_inj {domain storeId : Blob}
    (same : purposeWithStoreId domain storeId = purposeWithStoreId domain other) : storeId = other :=
  appendField_last (List.append_cancel_left same)

end MiniRemoteDesktop.Store
