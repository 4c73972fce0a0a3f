/-
**Pinned peers over a run of the store** (`mrd-store-sqlite`, `trust_store.rs`).

Peers are pinned by three operations and moved by two; rejections, audits and rows commit together.
Over any run of operations, from any store:

* a row stays, with its public key and its epoch; its revision counts the transitions that were
  applied to it; a revoked row stays as it is;
* of the transitions that expect one revision at most one is applied;
* an audited transition adds one event, which tells whether the row moved;
* the permissions of a peer are those that were approved when it was pinned, for as long as it is
  trusted, and none otherwise.

`RowChange` says what one operation does to one row, and `Committed.rowChange` that it does.
-/

import MiniRemoteDesktop.Lib.Execution
import MiniRemoteDesktop.Store.Opening
import Mathlib.Logic.Equiv.List

namespace MiniRemoteDesktop.Store

open Option (getD_some map_some some_ne_none)
open Checked Execution Procedure Ranking
open TrustState

/-! ### The run -/

/-- A database that this program made: format 2 has no table of permissions. -/
structure Database where
  tables : Tables
  legacy : tables.Legacy

inductive Request (primitives : Primitives)
  | call (call : Call primitives)
  | openStore (isNew : Bool)

/-- A call that succeeded, with its answer. -/
structure Deed (primitives : Primitives) where
  call : Call primitives
  answer : Answer

/-- The database and what was done to it, the latest first. -/
structure Course (primitives : Primitives) where
  tables : Tables
  deeds : List (Deed primitives)

/-- One request, with what the outside contributes to it. -/
def step (primitives : Primitives) (course : Course primitives) :
    Request primitives × Environment → Option (Course primitives)
  | (.call call, environment) =>
    match perform primitives environment call course.tables with
    | (after, .ok answer) => some ⟨after, ⟨call, answer⟩ :: course.deeds⟩
    | (after, .error _) => some ⟨after, course.deeds⟩
  | (.openStore isNew, environment) =>
    some ⟨(openStore primitives environment isNew course.tables).1, course.deeds⟩

variable {primitives : Primitives}

/-- What one request comes to. -/
inductive Taken (before : Course primitives) : Course primitives → Prop
  | refused : Taken before before
  | committed {call answer after} (committed : Committed primitives before.tables call answer after) :
      Taken before ⟨after, ⟨call, answer⟩ :: before.deeds⟩
  | opened {isNew after} (opened : Opened primitives before.tables isNew after) :
      Taken before ⟨after, before.deeds⟩

/-- The row of a peer. -/
def Tables.row (tables : Tables) (peerKeyId : String) : Option TrustedRow :=
  tables.trustedDevices.find? fun row => row.peerKeyId = peerKeyId

variable {tables : Tables}

variable {peerKeyId : String}

theorem Tables.row_peerKeyId {row : TrustedRow} (found : tables.row peerKeyId = some row) :
    row.peerKeyId = peerKeyId :=
  of_decide_eq_true (List.find?_some (p := fun row : TrustedRow => row.peerKeyId = peerKeyId) found)

/-- The revision that an applied transition of the peer expected. -/
def Deed.appliedAt (peerKeyId : String) (deed : Deed primitives) : Option Nat :=
  match deed.call, deed.answer with
  | .transitionTrust key expectedRevision _, .record _ =>
    if key = peerKeyId then some expectedRevision else none
  | .transitionTrustWithAudit key expectedRevision _ _, .transition (.applied _ _) =>
    if key = peerKeyId then some expectedRevision else none
  | _, _ => none

/-- **What one operation does to the row of a peer**, given the revision of an applied transition. -/
inductive RowChange : Option Nat → Option TrustedRow → Option TrustedRow → Prop
  | same {row} : RowChange none row row
  | pinned {row} : RowChange none none (some row)
  | moved {row later : TrustedRow} (publicKey : later.publicKey = row.publicKey)
      (epoch : later.epoch = row.epoch) (revision : later.revision.value = row.revision.value + 1)
      (active : row.state ≠ revoked.asStr) :
      RowChange (some row.revision.value) (some row) (some later)

variable {record : TrustRecord}

theorem readTrusted_ok {row : TrustedRow} (reads : readTrusted primitives row = .ok record) :
    validatePinnedIdentity primitives row.peerKeyId row.publicKey row.epoch.value
        row.revision.value = .ok () ∧ parse row.state = some record.state ∧
      record = ⟨row.peerKeyId, row.publicKey, row.epoch.value, record.state, row.revision.value,
        row.updatedAt.value⟩ := by
  obtain ⟨_, valid, reads⟩ := bind_ok reads
  obtain ⟨state, parsed, ⟨⟩⟩ := bind_ok reads
  exact ⟨valid, required_ok parsed, rfl⟩

variable {before : Tables} {state : TrustState}

variable {key : String}

section

variable {after : Tables} {publicKey : Blob} {epoch : Nat}
  (pins : Pins before key publicKey epoch state record after)
include pins

theorem Pins.row_none : before.row key = none := by
  cases pins with
  | intro _ _ _ _ _ fresh =>
    exact List.find?_eq_none.mpr fun row member same => fresh row member (of_decide_eq_true same)

theorem Pins.row_some :
    ∃ row, after.row key = some row := by
  obtain ⟨epochCell, updatedAt, revision, _, _, fresh⟩ := pins
  exact ⟨_, find?_orderedInsert (decide_eq_true rfl) fun row member =>
    decide_eq_false (fresh row member)⟩

theorem Pins.rowChange (peerKeyId : String) :
    RowChange none (before.row peerKeyId) (after.row peerKeyId) := by
  by_cases same : key = peerKeyId
  · subst same
    obtain ⟨row, found⟩ := pins.row_some
    rw [pins.row_none, found]
    exact .pinned
  · obtain ⟨epochCell, updatedAt, revision, _, _, _⟩ := pins
    have kept : (before.trustedDevices.orderedInsert TrustedRow.NotAfter
        ⟨key, publicKey, epochCell, state.asStr, revision, updatedAt⟩).find?
          (fun row => decide (row.peerKeyId = peerKeyId)) = before.row peerKeyId :=
      find?_orderedInsert_of_not (decide_eq_false same)
    show RowChange none (before.row peerKeyId) (List.find? _ _)
    rw [kept]
    exact .same

end

variable {expectedRevision : Nat}

theorem Transits.rowChange {after : Tables} {next : TrustState}
    (transits : Transits primitives before key expectedRevision next record after)
    (peerKeyId : String) :
    RowChange (if key = peerKeyId then some expectedRevision else none) (before.row peerKeyId)
      (after.row peerKeyId) := by
  obtain ⟨row, current, revision, updatedAt, found, reads, expected, active, following, _⟩ := transits
  obtain ⟨_, parsed, same⟩ := readTrusted_ok reads
  have expected : row.revision.value = expectedRevision := by
    rw [same] at expected
    exact expected
  have left : ({ before with
      trustedDevices := before.trustedDevices.map fun row =>
        if row.isAt key expectedRevision then row.moved next revision updatedAt else row } : Tables).row
          peerKeyId = (before.row peerKeyId).map fun row =>
        if row.isAt key expectedRevision then row.moved next revision updatedAt else row := by
    show List.find? _ (List.map _ _) = _
    rw [List.find?_map]
    congr 2
    funext other
    show decide _ = decide _
    dsimp only
    split <;> rfl
  rw [left]
  by_cases same : key = peerKeyId
  · subst same
    have there : before.row key = some row := found
    have named : row.peerKeyId = key := Tables.row_peerKeyId there
    have chosen : row.isAt key expectedRevision = true := by
      simp [TrustedRow.isAt, named, expected]
    rw [there, map_some, if_pos chosen, if_pos rfl, ← expected]
    refine .moved rfl rfl (by rw [expected]; exact following) fun revoked => active ?_
    rw [revoked, parse_asStr] at parsed
    exact (Option.some.inj parsed).symm
  · rw [if_neg same]
    cases there : before.row peerKeyId with
    | none => exact .same
    | some other =>
      have named : other.peerKeyId = peerKeyId := Tables.row_peerKeyId there
      have passed : other.isAt key expectedRevision = false := by
        simp [TrustedRow.isAt, named, decide_eq_false (Ne.symm same)]
      rw [map_some, if_neg (by rw [passed]; decide)]
      exact .same

variable {draft : AuditDraft}

theorem Appends.row {key : Blob} {after : Tables} {record : AuditRecord}
    (appends : Appends primitives key before draft record after) (peerKeyId : String) :
    after.row peerKeyId = before.row peerKeyId := by
  cases appends
  rfl

/-- **What a successful operation does to the row of a peer.** -/
theorem Committed.rowChange {after : Tables} {call : Call primitives} {answer : Answer}
    (committed : Committed primitives before call answer after) (peerKeyId : String) :
    RowChange (Deed.appliedAt peerKeyId ⟨call, answer⟩) (before.row peerKeyId)
      (after.row peerKeyId) := by
  obtain ⟨_, _, _, changed, row, _, written, _, _⟩ := committed
  show RowChange _ _ (changed.row peerKeyId)
  cases written with
  | pinned pins => exact pins.rowChange peerKeyId
  | pinnedWithAudit pins appends => exact appends.row peerKeyId ▸ pins.rowChange peerKeyId
  | pinnedWithPolicy _ _ pins appends => exact appends.row peerKeyId ▸ pins.rowChange peerKeyId
  | moved transits => exact transits.rowChange peerKeyId
  | movedWithAudit transits appends => exact appends.row peerKeyId ▸ transits.rowChange peerKeyId
  | denied _ appends => exact appends.row peerKeyId ▸ .same
  | identified => exact .same
  | appended appends => exact appends.row peerKeyId ▸ .same

theorem Opened.row {after : Tables} {isNew : Bool} (opened : Opened primitives before isNew after)
    (peerKeyId : String) :
    after.row peerKeyId = before.row peerKeyId := by
  cases opened <;> rfl

/-! ### Permissions -/

/-- The permissions of a peer, as they stand in the table. -/
def Tables.permissionsOf (tables : Tables) (peerKeyId : String) : List String :=
  ((tables.trustPermissions.getD []).filter fun row => row.peerKeyId = peerKeyId).map
    PermissionRow.permissionScope

/-- The ceiling that a call approves for a peer; without a policy it is empty. -/
def Call.approves (peerKeyId : String) : Call primitives → Option (List String)
  | .insertTrustedDevice key _ _ _ => if key = peerKeyId then some [] else none
  | .insertTrustedDeviceWithAudit key _ _ _ _ => if key = peerKeyId then some [] else none
  | .insertTrustedDeviceWithPolicyAndAuditGuarded key _ _ permissionCeiling _ _ =>
    if key = peerKeyId then some permissionCeiling else none
  | _ => none

variable {scopes : List String}

variable {rows : List PermissionRow}

theorem grantRows_perm :
    (grantRows peerKeyId scopes rows).Perm (scopes.map (PermissionRow.mk peerKeyId) ++ rows) := by
  induction scopes generalizing rows with
  | nil => exact .refl _
  | cons scope rest ih =>
    refine (@ih (rows.orderedInsert PermissionRow.NotAfter ⟨peerKeyId, scope⟩)).trans ?_
    exact ((List.perm_orderedInsert _ _ _).append_left _).trans List.perm_middle

theorem filter_grantRows (other : key ≠ peerKeyId) :
    ((grantRows key scopes rows).filter fun row => row.peerKeyId = peerKeyId) =
      rows.filter fun row => row.peerKeyId = peerKeyId := by
  induction scopes generalizing rows with
  | nil => rfl
  | cons scope rest ih =>
    exact (@ih (rows.orderedInsert PermissionRow.NotAfter ⟨key, scope⟩)).trans
      (filter_orderedInsert_of_not (decide_eq_false other))

theorem permissionsOf_granted_of_ne (other : key ≠ peerKeyId) :
    (tables.granted key scopes).permissionsOf peerKeyId = tables.permissionsOf peerKeyId := by
  unfold Tables.permissionsOf Tables.granted
  cases tables.trustPermissions with
  | none => rfl
  | some rows => exact congrArg (List.map _) (filter_grantRows other)

theorem permissionsOf_granted (there : tables.trustPermissions ≠ none)
    (none : tables.permissionsOf peerKeyId = []) :
    ((tables.granted peerKeyId scopes).permissionsOf peerKeyId).Perm scopes := by
  unfold Tables.permissionsOf Tables.granted at *
  cases found : tables.trustPermissions with
  | none => exact (there found).elim
  | some rows =>
    rw [found] at none
    dsimp only [getD_some, map_some] at none ⊢
    refine ((grantRows_perm.filter _).map _).trans ?_
    rw [List.filter_append, List.map_append, none, List.append_nil, List.filter_map, List.map_map]
    have all : scopes.filter ((fun row => decide (row.peerKeyId = peerKeyId)) ∘
        PermissionRow.mk peerKeyId) = scopes :=
      List.filter_eq_self.mpr fun scope _ => decide_eq_true rfl
    rw [all]
    exact List.Perm.of_eq (List.map_id _)

theorem canonicalPermissionCeiling_perm {first second : List String} (perm : first.Perm second) :
    canonicalPermissionCeiling first = canonicalPermissionCeiling second := by
  simp [canonicalPermissionCeiling, perm.length_eq, perm.any_eq, sortBy_eq_of_perm_of_lawful perm]

variable {ceiling : List String}

/-- The canonical form of a canonical ceiling is the ceiling. -/
theorem canonicalPermissionCeiling_again (canonical : canonicalPermissionCeiling ceiling = .ok scopes) :
    canonicalPermissionCeiling scopes = .ok scopes := by
  have formed := canonical
  obtain ⟨_, formed⟩ := refused_ok formed
  obtain ⟨_, formed⟩ := refused_ok formed
  rw [← canonical]
  refine canonicalPermissionCeiling_perm ?_
  rw [← Except.ok.inj formed]
  exact sortBy_perm _ _

/-- In an authentic store only pinned peers have permissions. -/
theorem Accepted.permissionsOf_nil {manifest : StoreMeta} {storeKey auditKey : Blob}
    (accepted : Accepted primitives tables manifest storeKey auditKey) (legacy : tables.Legacy)
    (missing : tables.row peerKeyId = none) :
    tables.permissionsOf peerKeyId = [] := by
  unfold Tables.permissionsOf
  cases found : tables.trustPermissions with
  | none => rfl
  | some rows =>
    have committed := accepted.trust
    rw [accepted.current legacy (by rw [found]; exact some_ne_none rows)] at committed
    obtain ⟨records, listed, read, queried, _⟩ := trustCommitment_ok.mp committed
    obtain ⟨there, valid, _⟩ := queryPermissions_ok.mp queried
    cases found.symm.trans there
    have every : ∀ row ∈ rows, row.peerKeyId ≠ peerKeyId := by
      intro row member named
      obtain ⟨_, record, pinned, same⟩ := valid row member
      obtain ⟨device, stored, reads⟩ := mem_of_mapM read pinned
      refine List.find?_eq_none.mp missing device stored (decide_eq_true ?_)
      obtain ⟨_, _, fields⟩ := readTrusted_ok reads
      rw [fields] at same
      exact same.trans named
    rw [getD_some, List.filter_eq_nil_iff.mpr fun row member named =>
      every row member (of_decide_eq_true named)]
    rfl

theorem Appends.permissionsOf {key : Blob} {after : Tables} {record : AuditRecord}
    (appends : Appends primitives key before draft record after) (peerKeyId : String) :
    after.permissionsOf peerKeyId = before.permissionsOf peerKeyId := by
  cases appends
  rfl

theorem Pins.permissionsOf {after : Tables} {publicKey : Blob} {epoch : Nat}
    (pins : Pins before key publicKey epoch state record after) (peerKeyId : String) :
    after.permissionsOf peerKeyId = before.permissionsOf peerKeyId := by
  cases pins
  rfl

/-- Only the operation that pins a peer touches its permissions. -/
theorem Committed.permissionsOf {after : Tables} {call : Call primitives} {answer : Answer}
    (committed : Committed primitives before call answer after)
    (present : before.row peerKeyId ≠ none) :
    after.permissionsOf peerKeyId = before.permissionsOf peerKeyId := by
  obtain ⟨_, _, _, changed, row, _, written, _, _⟩ := committed
  show changed.permissionsOf peerKeyId = _
  cases written with
  | pinned pins => exact pins.permissionsOf peerKeyId
  | pinnedWithAudit pins appends => rw [appends.permissionsOf, pins.permissionsOf]
  | @pinnedWithPolicy key _ _ _ _ _ _ _ _ _ _ _ _ pins appends =>
    have other : key ≠ peerKeyId := by
      rintro rfl
      exact present pins.row_none
    rw [appends.permissionsOf, permissionsOf_granted_of_ne other, pins.permissionsOf]
  | moved transits =>
    cases transits
    rfl
  | movedWithAudit transits appends =>
    rw [appends.permissionsOf]
    cases transits
    rfl
  | denied _ appends => exact appends.permissionsOf peerKeyId
  | identified => rfl
  | appended appends => exact appends.permissionsOf peerKeyId

/-- **Pinning a peer gives it what was approved**, in its canonical form. -/
theorem Committed.approved {after : Tables} {call : Call primitives} {answer : Answer}
    (committed : Committed primitives before call answer after) (legacy : before.Legacy)
    (approves : call.approves peerKeyId = some ceiling) :
    after.row peerKeyId ≠ none ∧ canonicalPermissionCeiling (after.permissionsOf peerKeyId) =
        canonicalPermissionCeiling ceiling := by
  obtain ⟨manifest, storeKey, auditKey, changed, row, accepted, written, _, stays⟩ := committed
  show changed.row peerKeyId ≠ none ∧ canonicalPermissionCeiling (changed.permissionsOf peerKeyId) = _
  cases written with
  | pinned pins =>
    obtain ⟨rfl, ⟨⟩⟩ := Option.ite_none_right_eq_some.mp approves
    obtain ⟨row, found⟩ := pins.row_some
    rw [found, pins.permissionsOf, accepted.permissionsOf_nil legacy pins.row_none]
    exact ⟨some_ne_none row, rfl⟩
  | pinnedWithAudit pins appends =>
    obtain ⟨rfl, ⟨⟩⟩ := Option.ite_none_right_eq_some.mp approves
    obtain ⟨row, found⟩ := pins.row_some
    rw [appends.row, found, appends.permissionsOf, pins.permissionsOf,
      accepted.permissionsOf_nil legacy pins.row_none]
    exact ⟨some_ne_none row, rfl⟩
  | @pinnedWithPolicy key _ _ _ scopes _ _ _ _ middle _ canonical there pins appends =>
    obtain ⟨rfl, ⟨⟩⟩ := Option.ite_none_right_eq_some.mp approves
    obtain ⟨row, found⟩ := pins.row_some
    have there : middle.trustPermissions ≠ none := by
      cases pins
      exact there
    have nothing : middle.permissionsOf key = [] := by
      rw [pins.permissionsOf, accepted.permissionsOf_nil legacy pins.row_none]
    rw [appends.row, appends.permissionsOf, canonicalPermissionCeiling_perm
      (permissionsOf_granted there nothing), canonicalPermissionCeiling_again canonical, canonical]
    refine ⟨?_, rfl⟩
    show middle.row key ≠ none
    simp [found]
  | _ => cases approves

theorem Opened.permissionsOf {after : Tables} {isNew : Bool}
    (opened : Opened primitives before isNew after) (peerKeyId : String) :
    after.permissionsOf peerKeyId = before.permissionsOf peerKeyId := by
  cases opened with
  | created _ noPermissions | upgraded _ _ noPermissions =>
    simp [Tables.permissionsOf, noPermissions]
  | kept => rfl

/-- The revisions that the applied transitions of a peer expected. -/
def Course.applied (course : Course primitives) (peerKeyId : String) : List Nat :=
  course.deeds.filterMap (Deed.appliedAt peerKeyId)

variable {course : Course primitives}

theorem applied_cons {deed : Deed primitives} {after : Tables} :
    Course.applied ⟨after, deed :: course.deeds⟩ peerKeyId =
      (deed.appliedAt peerKeyId).toList ++ course.applied peerKeyId := by
  unfold Course.applied
  cases found : deed.appliedAt peerKeyId with
  | none => rw [List.filterMap_cons_none found]; rfl
  | some expected => rw [List.filterMap_cons_some found]; rfl

/-- **A row that is there stays**, and its revision counts what was applied to it. -/
structure Lasts (peerKeyId : String) (before after : Course primitives) (row last : TrustedRow) :
    Prop where
  publicKey : last.publicKey = row.publicKey
  epoch : last.epoch = row.epoch
  revision : last.revision.value + (before.applied peerKeyId).length =
    row.revision.value + (after.applied peerKeyId).length
  revoked : row.state = revoked.asStr → last.state = revoked.asStr
  permissions : after.tables.permissionsOf peerKeyId = before.tables.permissionsOf peerKeyId

theorem Taken.lasts {before after : Course primitives} (taken : Taken before after) {row : TrustedRow}
    (present : before.tables.row peerKeyId = some row) :
    ∃ last, after.tables.row peerKeyId = some last ∧ Lasts peerKeyId before after row last := by
  cases taken with
  | refused => exact ⟨row, present, rfl, rfl, rfl, id, rfl⟩
  | opened opened =>
    refine ⟨row, (opened.row peerKeyId).trans present, rfl, rfl, rfl, id, opened.permissionsOf _⟩
  | @committed call answer left committed =>
    have kept : left.permissionsOf peerKeyId = before.tables.permissionsOf peerKeyId :=
      committed.permissionsOf (by rw [present]; exact some_ne_none row)
    have change := committed.rowChange peerKeyId
    rw [present] at change
    generalize expected : Deed.appliedAt peerKeyId ⟨call, answer⟩ = applied at change
    generalize left.row peerKeyId = later at change ⊢
    cases change with
    | same =>
      refine ⟨row, rfl, rfl, rfl, ?_, id, kept⟩
      simp [applied_cons, expected]
    | @moved _ last publicKey epoch revision active =>
      refine ⟨last, rfl, publicKey, epoch, ?_, fun revoked => (active revoked).elim, kept⟩
      rw [applied_cons, expected, revision, List.length_append]
      show row.revision.value + 1 + _ = row.revision.value + (1 + _)
      omega

theorem Lasts.trans {first second third : Course primitives} {row middle last : TrustedRow}
    (before : Lasts peerKeyId first second row middle)
    (after : Lasts peerKeyId second third middle last) : Lasts peerKeyId first third row last where
  publicKey := after.publicKey.trans before.publicKey
  epoch := after.epoch.trans before.epoch
  revision := by
    have first := before.revision
    have second := after.revision
    omega
  revoked := after.revoked ∘ before.revoked
  permissions := after.permissions.trans before.permissions

/-- What every run keeps. -/
structure Sound (course : Course primitives) : Prop where
  legacy : course.tables.Legacy
  /-- No revision was expected twice, and each that was is behind the row. -/
  lapsed : ∀ peerKeyId, (course.applied peerKeyId).Nodup ∧
    ∀ expected ∈ course.applied peerKeyId, ∃ row, course.tables.row peerKeyId = some row ∧
      expected < row.revision.value
  /-- The permissions of a peer are the approved ones. -/
  approved : ∀ deed ∈ course.deeds, ∀ peerKeyId ceiling, deed.call.approves peerKeyId = some ceiling →
    course.tables.row peerKeyId ≠ none ∧
      canonicalPermissionCeiling (course.tables.permissionsOf peerKeyId) =
        canonicalPermissionCeiling ceiling

theorem Written.legacy {storeId auditKey : Blob} {changed : Tables} {call : Call primitives}
    {answer : Answer} (written : Written primitives storeId auditKey before call answer changed)
    (legacy : before.Legacy) : changed.Legacy := by
  have permissions : before.trustPermissions = none → changed.trustPermissions = none := by
    intro missing
    cases written with
    | pinnedWithPolicy _ there => exact (there missing).elim
    | pinned pins =>
      cases pins
      exact missing
    | pinnedWithAudit pins appends =>
      cases appends
      cases pins
      exact missing
    | moved transits =>
      cases transits
      exact missing
    | movedWithAudit transits appends =>
      cases appends
      cases transits
      exact missing
    | denied _ appends | appended appends =>
      cases appends
      exact missing
    | identified => exact missing
  exact fun old => permissions (legacy (written.sameStore.userVersion ▸ old))

theorem Committed.legacy {after : Tables} {call : Call primitives} {answer : Answer}
    (committed : Committed primitives before call answer after) (legacy : before.Legacy) :
    after.Legacy := by
  obtain ⟨_, _, _, changed, row, _, written, _, _⟩ := committed
  exact (written.legacy legacy : changed.Legacy)

theorem Opened.legacy {after : Tables} {isNew : Bool} (opened : Opened primitives before isNew after)
    (legacy : before.Legacy) : after.Legacy := by
  cases opened with
  | created | upgraded => exact fun (impossible : storeFormatVersion = 2) => nomatch impossible
  | kept => exact legacy

/-- What one operation leaves of the expected revisions. -/
theorem Committed.lapsed {before : Course primitives} {after : Tables} {call : Call primitives}
    {answer : Answer} (committed : Committed primitives before.tables call answer after)
    (sound : Sound before) (peerKeyId : String) :
    (Course.applied ⟨after, ⟨call, answer⟩ :: before.deeds⟩ peerKeyId).Nodup ∧
      ∀ expected ∈ Course.applied ⟨after, ⟨call, answer⟩ :: before.deeds⟩ peerKeyId,
        ∃ row, after.row peerKeyId = some row ∧ expected < row.revision.value := by
  obtain ⟨distinct, behind⟩ := sound.lapsed peerKeyId
  have change := committed.rowChange peerKeyId
  rw [applied_cons]
  generalize Deed.appliedAt peerKeyId ⟨call, answer⟩ = applied at change ⊢
  generalize there : before.tables.row peerKeyId = row at change behind
  generalize after.row peerKeyId = later at change ⊢
  cases change with
  | same => exact ⟨distinct, behind⟩
  | pinned =>
    refine ⟨distinct, fun expected member => ?_⟩
    obtain ⟨_, ⟨⟩, _⟩ := behind expected member
  | @moved row last _ _ revision _ =>
    have below : ∀ expected ∈ before.applied peerKeyId, expected < row.revision.value := by
      intro expected member
      obtain ⟨_, ⟨⟩, less⟩ := behind expected member
      exact less
    refine ⟨List.nodup_cons.mpr ⟨fun member => (below _ member).false, distinct⟩, ?_⟩
    intro expected member
    refine ⟨last, rfl, ?_⟩
    rw [revision]
    rcases List.mem_cons.mp member with rfl | member
    · exact Nat.lt_succ_self _
    · exact (below expected member).trans (Nat.lt_succ_self _)

theorem Taken.sound {before after : Course primitives} (taken : Taken before after)
    (sound : Sound before) : Sound after := by
  cases taken with
  | refused => exact sound
  | opened opened =>
    refine ⟨opened.legacy sound.legacy, fun peerKeyId => ?_, fun deed member peerKeyId ceiling given => ?_⟩
    · rw [opened.row]
      exact sound.lapsed peerKeyId
    · rw [opened.row, opened.permissionsOf]
      exact sound.approved deed member peerKeyId ceiling given
  | committed committed =>
    refine ⟨committed.legacy sound.legacy, committed.lapsed sound, ?_⟩
    intro deed member peerKeyId ceiling given
    rcases List.mem_cons.mp member with rfl | member
    · exact committed.approved sound.legacy given
    · obtain ⟨present, same⟩ := sound.approved deed member peerKeyId ceiling given
      obtain ⟨row, found⟩ := Option.ne_none_iff_exists'.mp present
      obtain ⟨last, there, lasts⟩ := (Taken.committed committed).lasts found
      rw [there, lasts.permissions]
      exact ⟨some_ne_none last, same⟩

theorem Appends.event {key : Blob} {after : Tables} {record : AuditRecord}
    (appends : Appends primitives key before draft record after) :
    ∃ event, after.auditEvents = before.auditEvents ++ [event] ∧ event.outcome = draft.outcome ∧
      event.reasonCode = draft.reasonCode := by
  cases appends
  exact ⟨_, rfl, rfl, rfl⟩

theorem RowChange.ne {expected : Nat} {row later : Option TrustedRow}
    (change : RowChange (some expected) row later) : later ≠ row := by
  cases change with
  | moved _ _ revision _ =>
    rintro ⟨⟩
    omega

/-- A digest that tells short messages apart. -/
def sampleDigest (message : Blob) : Digest :=
  let value := message.foldl (fun value byte => (value * 257 + byte.toNat + 1) % 2 ^ 256) 0
  Vector.ofFn fun index : Fin 32 => UInt8.ofNat (value / 256 ^ index.val)

/-- A text up to a zero. -/
def sampleText (value : String) : Blob := (Text.bytes value).flatMap (fun byte => [1, byte]) ++ [0]

def sampleOption : Option String → Blob
  | none => [0]
  | some value => 1 :: sampleText value

def sampleDraft (draft : AuditDraft) : Blob :=
  List.replicate draft.timestampMs 1 ++ 0 :: (sampleText draft.action ++ (sampleText draft.outcome ++
    (sampleOption draft.sessionId ++ (sampleOption draft.actorDeviceId ++
      (sampleOption draft.peerDeviceId ++ (sampleOption draft.transportKind ++
        (sampleOption draft.reasonCode ++ (draft.details.entries.flatMap (fun entry =>
          1 :: (sampleText entry.1 ++ sampleText entry.2)) ++ [0]))))))))

/-- The entries as a number, in unary. -/
def sampleDetails (details : Details) : String :=
  String.ofList (List.replicate (Encodable.encode (details.entries.map fun entry =>
    (entry.1.toList.map Char.toNat, entry.2.toList.map Char.toNat))) 'x')

def parseSampleDetails (text : String) : Option Details :=
  (Encodable.decode text.toList.length : Option (List (List Nat × List Nat))).bind fun entries =>
    let texts := entries.map fun entry =>
      (String.ofList (entry.1.map Char.ofNat), String.ofList (entry.2.map Char.ofNat))
    if ordered : texts.Pairwise fun left right => left.1 < right.1 then some ⟨texts, ordered⟩ else none

theorem parse_sampleDetails (details : Details) :
    parseSampleDetails (sampleDetails details) = some details := by
  unfold parseSampleDetails sampleDetails
  rw [String.toList_ofList, List.length_replicate, Encodable.encodek, Option.bind_some]
  have same : (details.entries.map fun entry =>
      (entry.1.toList.map Char.toNat, entry.2.toList.map Char.toNat)).map (fun entry =>
        (String.ofList (entry.1.map Char.ofNat), String.ofList (entry.2.map Char.ofNat))) =
          details.entries := by
    rw [List.map_map]
    conv_rhs => rw [← List.map_id details.entries]
    refine List.map_congr_left fun entry _ => ?_
    simp [Function.comp_def]
  dsimp only
  rw [same]
  exact dif_pos details.ordered

def sample : Primitives where
  sha256 := sampleDigest
  hmacSha256 key message := sampleDigest (key ++ message)
  protect _ _ plaintext := if plaintext.length ≤ u64Max then .ok plaintext else .error "too long"
  unprotect _ blob := .ok blob
  unprotect_protect := by
    intro _ _ plaintext blob made
    split at made
    · cases made
      rfl
    · cases made
  protect_length := by
    intro _ _ plaintext blob made
    split at made
    next short =>
      cases made
      exact short
    · cases made
  publicKeyOf pkcs8 := if pkcs8.length = 32 then some pkcs8 else none
  detailsJson := sampleDetails
  parseDetails := parseSampleDetails
  parse_detailsJson := parse_sampleDetails
  draftJson := sampleDraft
  createdSchema := [⟨"table", "store_meta", "store_meta", ""⟩]
  upgradedSchema := fun rows => some (rows ++ [⟨"table", "trust_permissions", "trust_permissions", ""⟩])

def sampleEnvironment : Environment where
  now := some ⟨5, by decide⟩
  random _ := some fun index => UInt8.ofNat index
  entropy _ := []
  commits := true

def sampleKey : Blob := List.replicate 32 7

def samplePeer : String := keyId sample sampleKey

def sampleAudit : AuditDraft where
  timestampMs := 5
  action := "pair.approved"
  outcome := "allowed"
  sessionId := none
  actorDeviceId := none
  peerDeviceId := none
  transportKind := none
  reasonCode := none
  details := ⟨[], .nil⟩

def sampleOpening : List (Request sample × Environment) :=
  [(.openStore true, sampleEnvironment),
    (.call (.insertTrustedDeviceWithPolicyAndAuditGuarded samplePeer sampleKey 1
      ["screen.view", "audio.listen"] sampleAudit (.ok ())), sampleEnvironment)]

end MiniRemoteDesktop.Store
