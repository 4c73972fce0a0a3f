/-
**What opening a store does** (`mrd-store-sqlite`, `PersistentStore::open`).

* `Opened` — a file that was opened: it was initialised by the one who created it, or left as it was,
  or upgraded from format 2, which keeps every row and adds an empty table of permissions.
* `openStore_meets` — opening a file does one of these and leaves an authentic store, or leaves the
  file alone.
-/

import MiniRemoteDesktop.Store.Effects

namespace MiniRemoteDesktop.Store

open Checked Procedure
open Succeeds

variable {primitives : Primitives} {environment : Environment} {tables : Tables}

/-- **What became of a file that was opened.** -/
inductive Opened (primitives : Primitives) (before : Tables) : Bool → Tables → Prop
  | created {secrets head row} (version : before.userVersion = 0)
      (noPermissions : before.trustPermissions = none) (noIdentity : before.machineIdentity = none)
      (noPeers : before.trustedDevices = []) (noEvents : before.auditEvents = []) :
      Opened primitives before true { before with
          schema := primitives.createdSchema
          schemaMigrations := before.schemaMigrations ++ [2, 3]
          trustPermissions := some []
          userVersion := storeFormatVersion
          storeSecrets := secrets
          auditHead := some head
          storeMeta := some row }
  | kept {isNew} (version : before.userVersion = storeFormatVersion) :
      Opened primitives before isNew before
  | upgraded {isNew manifest storeKey auditKey schema row}
      (version : before.userVersion = legacyStoreFormatVersion)
      (accepted : Accepted primitives before manifest storeKey auditKey)
      (noPermissions : before.trustPermissions = none) :
      Opened primitives before isNew { before with
          schema := schema
          schemaMigrations := before.schemaMigrations ++ [3]
          trustPermissions := some []
          userVersion := storeFormatVersion
          storeMeta := some row }

theorem insertSecret_succeeds {name : String} {blob : Blob} :
    Succeeds (insertSecret name blob) tables fun _ after =>
      after = { tables with storeSecrets := tables.storeSecrets ++ [(name, blob)] } :=
  Meets.reads (passed fun _ => change rfl)

theorem initializeNewAudit_succeeds {storeId : Blob} :
    Succeeds (initializeNewAudit primitives environment storeId) tables fun _ after =>
      ∃ secrets head, after = { tables with
        storeSecrets := secrets
        auditHead := some head } := by
  refine given fun key _ => given fun blob _ => ?_
  refine bind insertSecret_succeeds ?_
  rintro _ _ rfl
  exact Meets.changes (query fun _ _ => ⟨_, _, rfl⟩)

theorem bootstrapStore_succeeds :
    Succeeds (bootstrapStore primitives environment) tables fun _ after =>
      ensureEmptySecurityState tables = .ok () ∧ ∃ secrets head row, after = { tables with
        storeSecrets := secrets
        auditHead := some head
        storeMeta := some row } := by
  refine queried fun _ empty => given fun storeId _ => ?_
  refine given fun storeKey _ => given fun blob _ => ?_
  refine bind insertSecret_succeeds ?_
  rintro _ _ rfl
  refine bind initializeNewAudit_succeeds ?_
  rintro committed _ ⟨secrets, head, rfl⟩
  refine Meets.reads (queried fun counted _ => given fun row _ => ?_)
  exact change ⟨empty, secrets, head, row, rfl⟩

theorem createSchema_succeeds :
    Succeeds (createSchema primitives) tables fun _ after => tables.trustPermissions = none ∧
      after = { tables with
        schema := primitives.createdSchema
        schemaMigrations := tables.schemaMigrations ++ [2, 3]
        trustPermissions := some []
        userVersion := storeFormatVersion } :=
  Meets.reads (passed fun absent => change ⟨Option.not_isSome_iff_eq_none.mp absent, rfl⟩)

theorem upgradeStore_succeeds :
    Succeeds (upgradeStore primitives) tables fun _ after =>
      (∃ manifest storeKey auditKey, Accepted primitives tables manifest storeKey auditKey) ∧
        tables.trustPermissions = none ∧ ∃ schema row, after = { tables with
          schema := schema
          schemaMigrations := tables.schemaMigrations ++ [3]
          trustPermissions := some []
          userVersion := storeFormatVersion
          storeMeta := some row } := by
  refine queried fun loaded verified => ?_
  have accepted := verifyStoreSnapshot_ok.mp verified
  refine bind (R := fun _ after => tables.trustPermissions = none ∧ ∃ schema stored,
    after = { tables with
      schema := schema
      storeMeta := stored
      schemaMigrations := tables.schemaMigrations ++ [3]
      trustPermissions := some []
      userVersion := storeFormatVersion }) ?_ ?_
  · refine Meets.reads (passed fun absent => given fun schema _ => ?_)
    exact change ⟨Option.not_isSome_iff_eq_none.mp absent, schema, _, rfl⟩
  · rintro _ _ ⟨absent, schema, stored, rfl⟩
    refine Meets.reads (refreshTrust_then fun counted _ => writeMeta_succeeds.mono ?_)
    rintro _ _ ⟨row, _, rfl⟩
    exact ⟨⟨_, _, accepted⟩, absent, schema, row, rfl⟩

theorem ensureEmptySecurityState_ok (empty : ensureEmptySecurityState tables = .ok ()) :
    tables.machineIdentity = none ∧ tables.trustedDevices = [] ∧ tables.auditEvents = [] := by
  have none := check_ok.mp empty
  simp only [not_or, not_not, Option.not_isSome_iff_eq_none] at none
  exact ⟨none.2.1, none.2.2.1, none.2.2.2.2.2.2⟩

variable (primitives environment tables) in
/-- **Opening a file leaves an authentic store, or leaves the file alone.** -/
theorem openStore_meets (isNew : Bool) :
    Meets (openStore primitives environment isNew) tables
      (fun _ after => Opened primitives tables isNew after ∧
        ∃ manifest storeKey auditKey, Accepted primitives after manifest storeKey auditKey)
      fun _ after => after = tables := by
  refine transaction (Meets.reads ?_)
  have verified : ∀ after, Opened primitives tables isNew after →
      Succeeds (query (verifyStoreSnapshot primitives) >>= fun _ => commit environment) after
        fun _ after => Opened primitives tables isNew after ∧
          ∃ manifest storeKey auditKey, Accepted primitives after manifest storeKey auditKey := by
    intro after opened
    refine queried fun loaded passed => commit_succeeds.mono ?_
    rintro _ _ rfl
    exact ⟨opened, _, _, verifyStoreSnapshot_ok.mp passed⟩
  refine Meets.ite (fun version => passed fun new => ?_) fun _ => ?_
  · refine bind createSchema_succeeds ?_
    rintro _ _ ⟨noPermissions, rfl⟩
    refine bind bootstrapStore_succeeds ?_
    rintro _ _ ⟨empty, secrets, head, row, rfl⟩
    obtain ⟨noIdentity, noPeers, noEvents⟩ := ensureEmptySecurityState_ok empty
    obtain rfl : isNew = true := eq_true_of_ne_false new
    exact verified _ (.created version noPermissions noIdentity noPeers noEvents)
  refine Meets.ite (fun version => queried fun _ _ => verified _ (.kept version)) fun _ => ?_
  refine Meets.ite (fun version => bind upgradeStore_succeeds ?_) fun _ => ?_
  · rintro _ _ ⟨⟨manifest, storeKey, auditKey, accepted⟩, noPermissions, schema, row, rfl⟩
    exact verified _ (.upgraded version accepted noPermissions)
  · exact Meets.ite (fun _ => fail) fun _ => fail

end MiniRemoteDesktop.Store
