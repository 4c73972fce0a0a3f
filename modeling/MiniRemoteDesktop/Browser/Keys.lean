/-
**Keys of devices and keys of browsers.**

Five calls take the lock of a key until they commit: the two of self-enrollment, which also take one lock
for all of it, a publication, and the two that create a browser session. Other calls commit between a
call's first reading and its end.

* `KeyEffect` — **what a call does to keys**: nothing, one pin, or one browser, each of its own key.
* `Separate` — the invariant; `principal_keys_separate` — **no key is a device's and a browser's**, pins
  are one to one and stay, and a challenge is consumed once.

The columns of the pins are unique, and challenge ids are drawn new.
-/

import MiniRemoteDesktop.Lib.Locking
import MiniRemoteDesktop.Browser.Guests

namespace MiniRemoteDesktop.Browser

open List (map_append mem_append mem_map mem_singleton nodup_append nodup_nil)
open Option (map_eq_some_iff)
open Checked Execution Rows

/-! ### Calls and their locks -/

/-- A challenge that was consumed: its row before, the request that consumed it, and when. -/
structure Consumption where
  challenge : DeviceSelfEnrollmentChallenge
  request : DeviceSelfRegisterRequest
  time : Nat
  deriving DecidableEq

/-- The database, with two lists for history only: the challenges that were issued and consumed. -/
structure Registry where
  tables : Tables
  issued : List String
  consumed : List Consumption

inductive Entry
  | issue (call : IssueCall)
  | register (call : RegisterCall)
  | publish (call : PublishCall)
  | createAccount (call : AccountCreateCall)
  | createGuest (call : GuestCreateCall)

inductive Lock
  | principalKey (keyId : String)
  | selfEnrollment
  deriving DecidableEq

/-- The key that a call is about. -/
def Entry.keyId (server : Server) : Entry → String
  | issue call => call.keyId
  | register call => call.request.keyId
  | publish call => call.payload.keyId
  | createAccount call => server.access.keyIdOf call.payload.controllerPublicKey
  | createGuest call => server.access.keyIdOf call.payload.controllerPublicKey

def Entry.locks (server : Server) (entry : Entry) : List Lock :=
  match entry with
  | issue _ | register _ => [.principalKey (entry.keyId server), .selfEnrollment]
  | _ => [.principalKey (entry.keyId server)]

/-- What a registration consumes. -/
def consumption (tables : Tables) (call : RegisterCall) : List Consumption :=
  match tables.challenge call.request.challengeId with
  | none => []
  | some challenge => [⟨challenge, call.request, call.later⟩]

/-- What a call commits, after it read `view`. -/
def Entry.commit (server : Server) (view shared : Registry) : Entry → Option Registry
  | issue call =>
    if call.challengeId ∈ shared.issued then none
    else (Browser.issue server.enrollment view.tables shared.tables call).toOption.map fun after =>
      ⟨after, shared.issued ++ [call.challengeId], shared.consumed⟩
  | register call =>
    (Browser.register server.enrollment view.tables shared.tables call).toOption.map fun after =>
      ⟨after, shared.issued, shared.consumed ++ consumption shared.tables call⟩
  | publish call =>
    (Browser.publish server.access view.tables shared.tables call).toOption.map fun after =>
      { shared with tables := after }
  | createAccount call =>
    (Browser.createAccount server.access view.tables shared.tables call).toOption.map fun after =>
      { shared with tables := after }
  | createGuest call =>
    (Browser.createGuest server.access view.tables shared.tables call).toOption.map fun after =>
      { shared with tables := after }

/-- What other calls leave alone: pins, challenges and the keys of browsers. -/
def leavesKeys (before after : Registry) : Bool :=
  decide (after.tables.identities = before.tables.identities) &&
    decide (after.tables.challenges = before.tables.challenges) &&
    decide (after.tables.controllers.map (·.keyId) = before.tables.controllers.map (·.keyId)) &&
    decide (after.issued = before.issued) &&
    decide (after.consumed = before.consumed)

/-- **The calls as transactions that hold their locks.** -/
def keyProtocol (server : Server) : Locking.Protocol Entry Registry Lock where
  locks := Entry.locks server
  commit := Entry.commit server
  outside := leavesKeys

/-! ### What a call does to keys -/

variable {server : Server} {view before after : Tables} {keyId : String}

/-- **What a call does to keys**: nothing, one pin, or one browser. -/
inductive KeyEffect (view before after : Tables) (keyId : String) : Prop
  | unchanged (identities : after.identities = before.identities)
      (controllers : after.controllers.map (·.keyId) = before.controllers.map (·.keyId))
  | pinned (new : DeviceMachineIdentity) (own : new.keyId = keyId)
      (separate : view.keyIsBrowserController keyId = false) (free : before.identityOfKey keyId = none)
      (unpinned : before.identityOf new.deviceRowId = none)
      (identities : after.identities = before.identities ++ [new])
      (controllers : after.controllers.map (·.keyId) = before.controllers.map (·.keyId))
  | controlled (separate : view.keyIsPhysicalMachine keyId = false)
      (identities : after.identities = before.identities)
      (controllers : after.controllers.map (·.keyId) = before.controllers.map (·.keyId) ++ [keyId])

theorem keyId_revokeControllers (sessionIds : List String) (now : Nat) (controllers : List BrowserController) :
    (revokeControllers sessionIds now controllers).map (·.keyId) = controllers.map (·.keyId) := by
  unfold revokeControllers
  rw [List.map_map]
  refine List.map_congr_left fun controller _ => ?_
  show (if controller.sessionId ∈ sessionIds then _ else controller).keyId = _
  split <;> rfl

theorem keyEffect_published {service : TemporaryAccessService} {call : PublishCall}
    {document : TemporaryAccessDocument} {device : Device}
    (separate : view.keyIsBrowserController call.payload.keyId = false)
    (published : Published service view before call document device after) :
    KeyEffect view before after call.payload.keyId := by
  cases published with
  | repeated | renewed => exact .unchanged rfl rfl
  | replaced newer pinned free soon =>
    have keys := keyId_revokeControllers
    cases mapping : view.identityOf device.id with
    | none =>
      obtain ⟨unused, unpinned⟩ := free mapping
      exact .pinned ⟨call.payload.keyId, call.payload.publicKey, device.id, call.later⟩ rfl separate unused
        unpinned rfl (keys _ _ _)
    | some _ => exact .unchanged rfl (keys _ _ _)

variable {call : RegisterCall}

theorem keyEffect_registered {enrolled : Tables}
    (separate : view.keyIsBrowserController call.request.keyId = false)
    (outcome : Enrolled before call enrolled) {challenge : DeviceSelfEnrollmentChallenge} {time : Nat} :
    KeyEffect view before (consumeChallenge enrolled challenge time) call.request.keyId := by
  cases outcome with
  | described => exact .unchanged rfl rfl
  | pinned device kind free new unpinned =>
    exact .pinned ⟨call.request.keyId, call.request.publicKey, device.id, call.now⟩ rfl separate free unpinned
      rfl rfl

variable {principal : BrowserController} {session : SessionRequest}

theorem keyEffect_inserted {shadow : Device}
    (separate : view.keyIsPhysicalMachine principal.keyId = false)
    (inserted : Inserted before shadow session principal after) :
    KeyEffect view before after principal.keyId := by
  rw [inserted.same]
  exact .controlled separate rfl map_append

variable {shared : Registry} {entry : Entry}

/-- **What a call does to keys.** -/
theorem keyEffect_commit {view after : Registry} (done : entry.commit server view shared = some after) :
    KeyEffect view.tables shared.tables after.tables (entry.keyId server) := by
  cases entry with
  | issue call =>
    unfold Entry.commit at done
    dsimp only at done
    split at done
    · cases done
    · obtain ⟨tables, performed, rfl⟩ := map_eq_some_iff.mp done
      obtain ⟨_, challenges, rfl⟩ := issue_ok (ok_of_toOption performed)
      exact .unchanged rfl rfl
  | register call =>
    obtain ⟨tables, performed, rfl⟩ := map_eq_some_iff.mp done
    obtain ⟨challenge, enrolled, proven, outcome, rfl⟩ := register_ok (ok_of_toOption performed)
    exact keyEffect_registered proven.separate outcome
  | publish call =>
    obtain ⟨tables, performed, rfl⟩ := map_eq_some_iff.mp done
    obtain ⟨document, device, admitted, published⟩ := publish_ok (ok_of_toOption performed)
    exact keyEffect_published admitted.separate published
  | createAccount call =>
    obtain ⟨tables, performed, rfl⟩ := map_eq_some_iff.mp done
    obtain ⟨separate, rfl | ⟨owner, target, inserted⟩⟩ := createAccount_ok (ok_of_toOption performed)
    · exact .unchanged rfl rfl
    · exact keyEffect_inserted separate inserted
  | createGuest call =>
    obtain ⟨tables, performed, rfl⟩ := map_eq_some_iff.mp done
    obtain ⟨_, _, _, _, _, admitted, ⟨rfl, _⟩ | inserted⟩ := createGuest_ok (ok_of_toOption performed)
    · exact .unchanged rfl rfl
    · exact keyEffect_inserted admitted.separate inserted

/-! ### What the locks protect -/

theorem keyIsBrowserController_iff {tables : Tables} {keyId : String} :
    tables.keyIsBrowserController keyId = true ↔ keyId ∈ tables.controllers.map (·.keyId) := by
  unfold Tables.keyIsBrowserController
  simp

/-- Two states agree on what a lock protects. -/
def agree : Lock → Registry → Registry → Prop
  | .principalKey keyId, one, other =>
    (one.tables.keyIsBrowserController keyId = other.tables.keyIsBrowserController keyId) ∧
      one.tables.identityOfKey keyId = other.tables.identityOfKey keyId
  | .selfEnrollment, one, other => one.tables.challenges = other.tables.challenges

theorem agree_of_keys {before after : Registry} {keyId : String}
    (controllers : keyId ∈ after.tables.controllers.map (·.keyId) ↔
      keyId ∈ before.tables.controllers.map (·.keyId))
    (identities : after.tables.identityOfKey keyId = before.tables.identityOfKey keyId) :
    agree (.principalKey keyId) before after := by
  refine ⟨?_, identities.symm⟩
  rw [Bool.eq_iff_iff, keyIsBrowserController_iff, keyIsBrowserController_iff]
  exact controllers.symm

theorem keyEffect_others {after : Registry} {keyId other : String}
    (effect : KeyEffect view shared.tables after.tables keyId) (different : other ≠ keyId) :
    agree (.principalKey other) shared after := by
  cases effect with
  | unchanged identities controllers =>
    refine agree_of_keys (by rw [controllers]) ?_
    simp [Tables.identityOfKey, identities]
  | pinned new own separate free unpinned identities controllers =>
    refine agree_of_keys (by rw [controllers]) ?_
    unfold Tables.identityOfKey
    rw [identities, row_append (own.symm ▸ free)]
    exact if_neg fun same => different (same.symm.trans own)
  | controlled separate identities controllers =>
    refine agree_of_keys ?_ ?_
    · simp [controllers, or_iff_left different]
    · simp [Tables.identityOfKey, identities]

theorem challenges_inserted {shadow : Device}
    (inserted : Inserted before shadow session principal after) :
    after.challenges = before.challenges := by
  rw [inserted.same]

theorem challenges_commit {view after : Registry} (done : entry.commit server view shared = some after)
    (unlocked : Lock.selfEnrollment ∉ entry.locks server) :
    after.tables.challenges = shared.tables.challenges := by
  cases entry with
  | issue call | register call => exact absurd (.tail _ (mem_singleton.mpr rfl)) unlocked
  | publish call =>
    obtain ⟨tables, performed, rfl⟩ := map_eq_some_iff.mp done
    obtain ⟨document, device, _, published⟩ := publish_ok (ok_of_toOption performed)
    cases published <;> rfl
  | createAccount call =>
    obtain ⟨tables, performed, rfl⟩ := map_eq_some_iff.mp done
    obtain ⟨_, rfl | ⟨owner, target, inserted⟩⟩ := createAccount_ok (ok_of_toOption performed)
    · rfl
    · exact challenges_inserted inserted
  | createGuest call =>
    obtain ⟨tables, performed, rfl⟩ := map_eq_some_iff.mp done
    obtain ⟨_, _, _, _, _, _, ⟨rfl, _⟩ | inserted⟩ := createGuest_ok (ok_of_toOption performed)
    · rfl
    · exact challenges_inserted inserted

theorem keyId_locked (entry : Entry) : Lock.principalKey (entry.keyId server) ∈ entry.locks server := by
  cases entry <;> exact (.head _)

/-- **What the locks of a call protect.** -/
theorem frames_keyProtocol (server : Server) : Locking.Frames (keyProtocol server) agree where
  refl lock shared := by
    cases lock with
    | principalKey keyId => exact ⟨rfl, rfl⟩
    | selfEnrollment => rfl
  trans lock first second third one two := by
    cases lock with
    | principalKey keyId => exact ⟨one.1.trans two.1, one.2.trans two.2⟩
    | selfEnrollment => exact Eq.trans one two
  commit view shared entry after done lock unlocked := by
    cases lock with
    | principalKey keyId =>
      exact keyEffect_others (keyEffect_commit done) fun same => unlocked (same ▸ keyId_locked entry)
    | selfEnrollment => exact (challenges_commit done unlocked).symm
  outside shared after leaves lock := by
    change leavesKeys shared after = true at leaves
    unfold leavesKeys at leaves
    simp only [Bool.and_eq_true, decide_eq_true_eq] at leaves
    obtain ⟨⟨⟨⟨identities, challenges⟩, controllers⟩, _⟩, _⟩ := leaves
    cases lock with
    | principalKey keyId =>
      refine agree_of_keys (by rw [controllers]) ?_
      simp [Tables.identityOfKey, identities]
    | selfEnrollment => exact challenges.symm

/-! ### The invariant -/

/-- **A consumption by the challenge's own key**, while the challenge was open. -/
structure Proper (server : Server) (consumption : Consumption) : Prop where
  unexpired : challengeOpen consumption.challenge consumption.time = true
  challenge : consumption.challenge.challengeId = consumption.request.challengeId
  own : consumption.challenge.keyId = consumption.request.keyId
  key : validKey server.enrollment consumption.request.keyId consumption.request.publicKey = true
  signed : signedRegistration server.enrollment consumption.request = true

/-- The ids of the challenges that were consumed. -/
def Registry.consumedIds (registry : Registry) : List String :=
  registry.consumed.map (·.challenge.challengeId)

structure Separate (server : Server) (registry : Registry) : Prop where
  apart : ∀ keyId ∈ registry.tables.controllers.map (·.keyId), keyId ∉ registry.tables.identities.map (·.keyId)
  keys : (registry.tables.identities.map (·.keyId)).Nodup
  devices : (registry.tables.identities.map (·.deviceRowId)).Nodup
  issued : ∀ challenge ∈ registry.tables.challenges, challenge.challengeId ∈ registry.issued
  known : ∀ id ∈ registry.consumedIds, id ∈ registry.issued
  spent : ∀ challenge ∈ registry.tables.challenges, challenge.challengeId ∈ registry.consumedIds →
    challenge.consumedAt.isSome
  once : registry.consumedIds.Nodup
  proper : ∀ consumption ∈ registry.consumed, Proper server consumption

/-- Nothing is pinned, controlled or issued. -/
structure Unused (registry : Registry) : Prop where
  identities : registry.tables.identities = []
  controllers : registry.tables.controllers = []
  challenges : registry.tables.challenges = []
  issued : registry.issued = []
  consumed : registry.consumed = []

theorem separate_unused {registry : Registry} (unused : Unused registry) : Separate server registry := by
  have none : registry.consumedIds = [] := by rw [Registry.consumedIds, unused.consumed, List.map_nil]
  refine ⟨?_, ?_, ?_, ?_, ?_, ?_, ?_, ?_⟩
  · simp [unused.controllers]
  · simp [unused.identities]
  · simp [unused.identities]
  · simp [unused.challenges]
  · simp [none]
  · simp [unused.challenges]
  · simp [none]
  · simp [unused.consumed]

theorem not_pinned_of_row {κ : Type} [DecidableEq κ] {key : DeviceMachineIdentity → κ}
    {identities : List DeviceMachineIdentity} {wanted : κ} (missing : row key identities wanted = none) :
    wanted ∉ identities.map key := by
  intro member
  obtain ⟨pin, there, same⟩ := mem_map.mp member
  exact row_eq_none.mp missing pin there same

theorem apart_commit {view after : Registry} (separate : Separate server shared)
    (known : agree (.principalKey (entry.keyId server)) view shared)
    (done : entry.commit server view shared = some after) :
    (∀ keyId ∈ after.tables.controllers.map (·.keyId), keyId ∉ after.tables.identities.map (·.keyId)) ∧
      (after.tables.identities.map (·.keyId)).Nodup ∧ (after.tables.identities.map (·.deviceRowId)).Nodup := by
  cases keyEffect_commit done with
  | unchanged identities controllers =>
    rw [identities, controllers]
    exact ⟨separate.apart, separate.keys, separate.devices⟩
  | pinned new own separate' free unpinned identities controllers =>
    -- The browsers that were looked for at first are those that there are, for the key is locked.
    have unused : entry.keyId server ∉ shared.tables.controllers.map (·.keyId) := fun member => by
      have taken := keyIsBrowserController_iff.mpr member
      simp [← known.1, separate'] at taken
    rw [identities, controllers, map_append, map_append, List.map_singleton, List.map_singleton, own]
    refine ⟨fun keyId member => ?_, ?_, ?_⟩
    · rw [mem_append, mem_singleton]
      rintro (pinned | rfl)
      · exact separate.apart keyId member pinned
      · exact unused member
    · exact nodup_append.mpr ⟨separate.keys, List.nodup_singleton _, fun one member other last => by
        rw [mem_singleton.mp last]
        exact fun same => not_pinned_of_row free (same ▸ member)⟩
    · exact nodup_append.mpr ⟨separate.devices, List.nodup_singleton _, fun one member other last => by
        rw [mem_singleton.mp last]
        exact fun same => not_pinned_of_row unpinned (same ▸ member)⟩
  | controlled separate' identities controllers =>
    have unpinned : shared.tables.identityOfKey (entry.keyId server) = none := by
      rw [← known.2]
      exact Option.not_isSome_iff_eq_none.mp (Bool.eq_false_iff.mp separate')
    rw [identities, controllers]
    refine ⟨fun keyId member => ?_, separate.keys, separate.devices⟩
    rcases mem_append.mp member with stood | last
    · exact separate.apart keyId stood
    · simp [mem_singleton.mp last, not_pinned_of_row unpinned]

variable {service : DeviceSelfEnrollmentService}

/-- The challenges after a call of `issue`. -/
theorem issue_challenges {call : IssueCall} (done : issue service view before call = .ok after)
    (challenge : DeviceSelfEnrollmentChallenge) (member : challenge ∈ after.challenges) :
    challenge ∈ before.challenges ∨ challenge.challengeId = call.challengeId := by
  unfold issue at done
  obtain ⟨_, done⟩ := guarded_ok done
  obtain ⟨peer, _, done⟩ := bind_ok done
  obtain ⟨_, done⟩ := guarded_ok done
  obtain ⟨_, done⟩ := guarded_ok done
  obtain ⟨_, ⟨⟩⟩ := guarded_ok done
  rcases mem_append.mp member with kept | last
  · exact .inl (List.mem_filter.mp kept).1
  · exact .inr (congrArg DeviceSelfEnrollmentChallenge.challengeId (mem_singleton.mp last))

theorem challenges_enrolled {enrolled : Tables} (outcome : Enrolled before call enrolled) :
    enrolled.challenges = before.challenges := by
  cases outcome <;> rfl

/-- **Every call keeps the invariant.** -/
theorem separate_commit {view after : Registry} (separate : Separate server shared)
    (known : ∀ lock ∈ entry.locks server, agree lock view shared)
    (done : entry.commit server view shared = some after) : Separate server after := by
  obtain ⟨apart, keys, devices⟩ := apart_commit separate (known _ (keyId_locked entry)) done
  by_cases other : Lock.selfEnrollment ∈ entry.locks server
  · cases entry with
    | issue call =>
      unfold Entry.commit at done
      dsimp only at done
      split at done
      · cases done
      rename_i drawn
      obtain ⟨tables, performed, rfl⟩ := map_eq_some_iff.mp done
      have made := issue_challenges (ok_of_toOption performed)
      refine ⟨apart, keys, devices, fun challenge member => ?_,
        fun id member => List.mem_append_left _ (separate.known id member), fun challenge member spent => ?_,
        separate.once, separate.proper⟩
      · rcases made challenge member with stood | new
        · exact List.mem_append_left _ (separate.issued challenge stood)
        · exact List.mem_append_right _ (mem_singleton.mpr new)
      · rcases made challenge member with stood | new
        · exact separate.spent challenge stood spent
        · exact absurd (separate.known _ spent) (new ▸ drawn)
    | register call =>
      obtain ⟨tables, performed, rfl⟩ := map_eq_some_iff.mp done
      obtain ⟨challenge, enrolled, proven, outcome, rfl⟩ := register_ok (ok_of_toOption performed)
      have own : challenge.challengeId = call.request.challengeId := row_key proven.found
      have member := row_mem proven.found
      have consumed : consumption shared.tables call = [⟨challenge, call.request, call.later⟩] := by
        simp [consumption, proven.found]
      have unspent : challenge.challengeId ∉ shared.consumedIds := fun spent => by
        have used := separate.spent challenge member spent
        simp [proven.unconsumed] at used
      have ids : Registry.consumedIds ⟨consumeChallenge enrolled challenge call.later, shared.issued,
          shared.consumed ++ consumption shared.tables call⟩ = shared.consumedIds ++
            [challenge.challengeId] := by
        simp [Registry.consumedIds, consumed]
      have rows : ∀ row ∈ (consumeChallenge enrolled challenge call.later).challenges,
          row = { challenge with consumedAt := some call.later } ∨
            row ∈ shared.tables.challenges ∧ row.challengeId ≠ challenge.challengeId := by
        intro row there
        rcases mem_put there with new | ⟨stood, different⟩
        · exact .inl new
        · exact .inr ⟨challenges_enrolled outcome ▸ stood, different⟩
      refine ⟨apart, keys, devices, fun row there => ?_, fun id there => ?_, fun row there spent => ?_, ?_,
        fun consumption there => ?_⟩
      · rcases rows row there with rfl | ⟨stood, _⟩
        · exact separate.issued challenge member
        · exact separate.issued row stood
      · rw [ids] at there
        rcases mem_append.mp there with old | last
        · exact separate.known id old
        · simpa [mem_singleton.mp last] using separate.issued challenge member
      · rcases rows row there with rfl | ⟨stood, different⟩
        · rfl
        · rw [ids] at spent
          rcases mem_append.mp spent with old | last
          · exact separate.spent row stood old
          · exact absurd (mem_singleton.mp last) different
      · rw [ids]
        exact nodup_append.mpr ⟨separate.once, List.nodup_singleton _, fun one there other last => by
          rw [mem_singleton.mp last]
          exact fun same => unspent (same ▸ there)⟩
      · rw [consumed] at there
        rcases mem_append.mp there with old | last
        · exact separate.proper consumption old
        · rw [mem_singleton.mp last]
          exact ⟨proven.unexpired, own, proven.own, proven.key, proven.signed⟩
    | _ => cases other with | tail _ other => cases other
  · have challenges := challenges_commit done other
    have history : after.issued = shared.issued ∧ after.consumed = shared.consumed := by
      cases entry with
      | issue call | register call => exact absurd (.tail _ (mem_singleton.mpr rfl)) other
      | publish | createAccount | createGuest =>
        obtain ⟨tables, _, rfl⟩ := map_eq_some_iff.mp done
        exact ⟨rfl, rfl⟩
    have ids : after.consumedIds = shared.consumedIds := congrArg (List.map _) history.2
    exact ⟨apart, keys, devices, by rw [challenges, history.1]; exact separate.issued,
      by rw [ids, history.1]; exact separate.known, by rw [challenges, ids]; exact separate.spent,
      by rw [ids]; exact separate.once, by rw [history.2]; exact separate.proper⟩

theorem pin_commit {view after : Registry} {pin : DeviceMachineIdentity}
    (done : entry.commit server view shared = some after) (member : pin ∈ shared.tables.identities) :
    pin ∈ after.tables.identities := by
  cases keyEffect_commit done with
  | unchanged identities controllers | controlled separate identities controllers => exact identities ▸ member
  | pinned new own separate free unpinned identities controllers =>
    rw [identities]
    exact List.mem_append_left _ member

/-- **A registration keeps the devices that there were**: their codes, owners, tenants, serial digests and
authentication versions. -/
theorem register_devices (done : register service view before call = .ok after) {id : String}
    {device : Device} (there : before.device id = some device) :
    ∃ later, after.device id = some later ∧ later.deviceId = device.deviceId ∧
      later.isBound = device.isBound ∧ later.boundUserId = device.boundUserId ∧
      later.tenantId = device.tenantId ∧
      later.motherboardSerialDigest = device.motherboardSerialDigest ∧
      later.authVersion = device.authVersion := by
  obtain ⟨challenge, enrolled, _, outcome, rfl⟩ := register_ok done
  cases outcome with
  | described mapping other registration pinned found =>
    show ∃ later, row Device.id (put Device.id before.devices (other.described registration)) id = some later ∧ _
    rw [row_put]
    by_cases same : other.id = id
    · have own : other.id = mapping.deviceRowId := row_key found
      rw [← same, own] at there
      cases Option.some.inj (found.symm.trans there)
      exact ⟨device.described registration, if_pos same, rfl, rfl, rfl, rfl, rfl, rfl⟩
    · exact ⟨device, (if_neg same).trans there, rfl, rfl, rfl, rfl, rfl, rfl⟩
  | pinned new kind free fresh unpinned =>
    exact ⟨device, row_append_of_some there, rfl, rfl, rfl, rfl, rfl, rfl⟩

/-- A run keeps the invariant, and the pins that there were. -/
theorem separate_reach {system later : Locking.System Entry Registry}
    (reach : Reach (Locking.step (keyProtocol server)) always system later)
    (locked : Locking.Locked (keyProtocol server) agree system) (separate : Separate server system.shared)
    (pins : List DeviceMachineIdentity) (there : ∀ pin ∈ pins, pin ∈ system.shared.tables.identities) :
    Locking.Locked (keyProtocol server) agree later ∧ Separate server later.shared ∧
      ∀ pin ∈ pins, pin ∈ later.shared.tables.identities := by
  refine Locking.shared_invariant
    (I := fun registry => Separate server registry ∧ ∀ pin ∈ pins, pin ∈ registry.tables.identities)
    (frames_keyProtocol server) reach locked ⟨separate, there⟩ ?_ ?_
  · intro view shared entry after ⟨separate, there⟩ known done
    exact ⟨separate_commit separate known done, fun pin member => pin_commit done (there pin member)⟩
  · intro shared after ⟨separate, there⟩ leaves
    change leavesKeys shared after = true at leaves
    unfold leavesKeys at leaves
    simp only [Bool.and_eq_true, decide_eq_true_eq] at leaves
    obtain ⟨⟨⟨⟨identities, challenges⟩, controllers⟩, issued⟩, consumed⟩ := leaves
    have ids : after.consumedIds = shared.consumedIds := congrArg (List.map _) consumed
    refine ⟨⟨?_, ?_, ?_, ?_, ?_, ?_, ?_, ?_⟩, ?_⟩
    · simpa [controllers, identities] using separate.apart
    · simp [identities, separate.keys]
    · simp [identities, separate.devices]
    · simpa [challenges, issued] using separate.issued
    · simpa [ids, issued] using separate.known
    · simpa [challenges, ids] using separate.spent
    · simp [ids, separate.once]
    · simpa [consumed] using separate.proper
    · simpa [identities] using there

/-- **Principal keys stay separate**: no key is a browser's and a device's, pins are one to one and stay,
each challenge is consumed once, by its own key and in time, and a registration keeps the devices. -/
theorem principal_keys_separate {start system : Locking.System Entry Registry} (unused : Unused start.shared)
    (idle : start.flights = []) (reach : Reach (Locking.step (keyProtocol server)) always start system) :
    (∀ keyId, ¬ (system.shared.tables.keyIsBrowserController keyId = true ∧
      system.shared.tables.keyIsPhysicalMachine keyId = true)) ∧
    (∀ one ∈ system.shared.tables.identities, ∀ other ∈ system.shared.tables.identities,
      one.keyId = other.keyId ∨ one.deviceRowId = other.deviceRowId → one = other) ∧
    (∀ later, Reach (Locking.step (keyProtocol server)) always system later →
      ∀ pin ∈ system.shared.tables.identities, pin ∈ later.shared.tables.identities) ∧
    (system.shared.consumedIds.Nodup ∧ ∀ consumption ∈ system.shared.consumed, Proper server consumption) ∧
    (∀ view call after, register server.enrollment view system.shared.tables call = .ok after →
      ∀ id device, system.shared.tables.device id = some device →
        ∃ later, after.device id = some later ∧ later.deviceId = device.deviceId ∧
          later.isBound = device.isBound ∧ later.boundUserId = device.boundUserId ∧
          later.tenantId = device.tenantId ∧
          later.motherboardSerialDigest = device.motherboardSerialDigest ∧
          later.authVersion = device.authVersion) := by
  have locked : Locking.Locked (keyProtocol server) agree start := by
    have empty : start = ⟨start.shared, []⟩ := by rw [← idle]
    rw [empty]
    exact Locking.locked_start
  obtain ⟨locked, separate, _⟩ :=
    separate_reach reach locked (separate_unused unused) [] (fun _ member => nomatch member)
  refine ⟨fun keyId ⟨browser, machine⟩ => ?_, fun one member other member' same => ?_,
    fun later run => (separate_reach run locked separate _ fun _ there => there).2.2,
    ⟨separate.once, separate.proper⟩, fun view call after done id device there => register_devices done there⟩
  · refine separate.apart keyId (keyIsBrowserController_iff.mp browser) ?_
    obtain ⟨pin, found⟩ := Option.isSome_iff_exists.mp machine
    exact mem_map.mpr ⟨pin, row_mem found, row_key found⟩
  · rcases same with key | device
    · exact List.inj_on_of_nodup_map separate.keys member member' key
    · exact List.inj_on_of_nodup_map separate.devices member member' device

/-! ### Two devices and their keys -/

def otherKey : String := "0202020202020202020202020202020202020202020202020202020202020202"

/-- A new device asks for a challenge while another publishes, and registers. -/
def sampleEntries : List (Locking.Event Entry Registry) :=
  [.start (.issue ⟨otherKey, otherKey, some "10.0.0.1", 1000000, "challenge", otherKey⟩),
    .start (.publish (samplePublish "enable")), .commit 0, .commit 0,
    .start (.register ⟨⟨otherKey, otherKey, "challenge", otherKey, "machine", ""⟩, 2000000, 2000000,
      "row-4", []⟩),
    .commit 0]

theorem principal_keys_separate_sample : ∃ system : Locking.System Entry Registry,
    system.shared.tables.identities.map (·.keyId) = [sampleKey, otherKey] ∧
      system.shared.consumedIds = ["challenge"] ∧
      (∀ keyId, ¬ (system.shared.tables.keyIsBrowserController keyId = true ∧
        system.shared.tables.keyIsPhysicalMachine keyId = true)) := by
  have ran : (run (Locking.step (keyProtocol sampleServer)) ⟨⟨sampleWorld.tables, [], []⟩, []⟩
      sampleEntries).map (fun system => (system.shared.tables.identities.map (·.keyId),
        system.shared.consumedIds)) = some ([sampleKey, otherKey], ["challenge"]) := by decide +kernel
  obtain ⟨system, ran, view⟩ := map_eq_some_iff.mp ran
  obtain ⟨keys, consumed⟩ := Prod.ext_iff.mp view
  exact ⟨system, keys, consumed,
    (principal_keys_separate ⟨rfl, rfl, rfl, rfl, rfl⟩ rfl (run_reach ran)).1⟩

end MiniRemoteDesktop.Browser
