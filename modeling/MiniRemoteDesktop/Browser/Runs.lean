/-
**Runs of the server** over devices, keys and browser sessions.

Each call is a transaction that is rolled back when it fails. Between the calls the rest of the server
works on the same database.

* `Event`, `World.step` — a run takes one event after another. `leavesAlone` says what the rest of the
  server keeps: it writes no keys, no publications and no browser sessions.
* `Advances`, `Continues`, `Evolution` — what no event takes back, of an access row, of a session and of
  the database; `step_evolution` — **every step is such an evolution**.
-/

import MiniRemoteDesktop.Browser.Sessions

namespace MiniRemoteDesktop.Browser

open Checked Execution Rows
open Relay.Server (SessionStatus TransitionAction)
open DeviceTemporaryAccess

/-! ### The world -/

/-- **A guest session when it was created**: the call, and what the locked rows were. -/
structure GuestCreation where
  call : GuestCreateCall
  target : Device
  access : DeviceTemporaryAccess
  mapping : DeviceMachineIdentity

structure World where
  tables : Tables
  seen : List DeviceTemporaryAccess
  guests : List GuestCreation

structure Server where
  access : TemporaryAccessService
  enrollment : DeviceSelfEnrollmentService

/-- The session is one of a browser. -/
def Tables.isBrowser (tables : Tables) (row : SessionRequest) : Bool :=
  (row.requesterDeviceId.bind tables.device).any fun device => device.principalKind = .browserController

/-- The session is one of a guest or of a browser. -/
def Tables.isRemote (tables : Tables) (row : SessionRequest) : Bool :=
  decide (row.authorityKind = .temporaryPassword) || tables.isBrowser row

/-- What the rest of the server leaves alone. -/
def leavesAlone (before after : Tables) : Bool :=
  decide (after.identities = before.identities) && decide (after.access = before.access) &&
    decide (after.controllers = before.controllers) &&
    (before.devices.all fun device =>
      (after.device device.id).map (·.principalKind) = (before.device device.id).map (·.principalKind)) &&
    (after.sessions.all fun row =>
      row.requesterDeviceId.all fun requester => (after.device requester).isSome) &&
    (before.sessions.all fun row =>
      !((before.session row.id).any before.isRemote) ||
        decide (after.session row.id = before.session row.id)) &&
    after.sessions.all fun row =>
      !((after.session row.id).any after.isRemote) ||
        decide (after.session row.id = before.session row.id)

inductive Event
  | publish (call : PublishCall)
  | issue (call : IssueCall)
  | register (call : RegisterCall)
  | createGuest (call : GuestCreateCall)
  | createAccount (call : AccountCreateCall)
  | approve (call : ApproveCall)
  | transition (sessionId : String) (current : Device) (action : TransitionAction) (now : Nat)
  | close (call : CloseCall)
  | elsewhere (after : Tables)

def Event.perform (server : Server) (tables : Tables) : Event → Option Tables
  | publish call => (Browser.publish server.access tables tables call).toOption
  | issue call => (Browser.issue server.enrollment tables tables call).toOption
  | register call => (Browser.register server.enrollment tables tables call).toOption
  | createGuest call => (Browser.createGuest server.access tables tables call).toOption
  | createAccount call => (Browser.createAccount server.access tables tables call).toOption
  | approve call => (Browser.approve server.access tables call).toOption
  | transition sessionId current action now =>
    (Browser.transition server.access tables sessionId current action now).toOption
  | close call => (closeBrowser server.access tables call).toOption
  | elsewhere after => if leavesAlone tables after then some after else none

/-- A password is checked with an access row that the target had. -/
def Event.possible (world : World) : Event → Bool
  | createGuest call => call.previewAccess.all fun access =>
      access ∈ world.seen && call.previewTarget = some access.deviceRowId
  | _ => true

/-- The session that an event creates for a guest. -/
def Event.guest (tables : Tables) : Event → List GuestCreation
  | createGuest call =>
    match tables.session call.payload.sessionId, call.previewTarget.bind tables.device with
    | none, some target =>
      match tables.accessOf target.id, tables.identityOf target.id with
      | some access, some mapping => [⟨call, target, access, mapping⟩]
      | _, _ => []
    | _, _ => []
  | _ => []

/-- **A step.** What fails is rolled back. -/
def World.step (server : Server) (world : World) (event : Event) : Option World :=
  if event.possible world then
    match event.perform server world.tables with
    | none => some world
    | some after => some ⟨after, world.seen ++ after.access, world.guests ++ event.guest world.tables⟩
  else none

/-- **An empty world**: whatever devices, users and keys there are, nothing was published or requested. -/
structure Fresh (world : World) : Prop where
  access : world.tables.access = []
  controllers : world.tables.controllers = []
  sessions : world.tables.sessions = []
  seen : world.seen = []
  guests : world.guests = []

/-! ### What no event takes back -/

/-- **A later row of a publication**: of a later generation, or with a longer lease. -/
structure Extended (row later : DeviceTemporaryAccess) : Prop where
  generation : row.generation ≤ later.generation
  material : row.generation = later.generation →
    later.enabled = row.enabled ∧ later.salt = row.salt ∧ later.verifierHmac = row.verifierHmac ∧
      later.allowedScopes = row.allowedScopes ∧ later.targetAuthVersion = row.targetAuthVersion
  lease : row.generation = later.generation → later.expiresAt = row.expiresAt ∨
    ∃ before after, row.expiresAt = some before ∧ later.expiresAt = some after ∧ before < after

theorem Extended.refl (row : DeviceTemporaryAccess) : Extended row row :=
  ⟨le_rfl, fun _ => ⟨rfl, rfl, rfl, rfl, rfl⟩, fun _ => .inl rfl⟩

theorem Extended.trans {row middle later : DeviceTemporaryAccess} (first : Extended row middle)
    (second : Extended middle later) : Extended row later := by
  have both : row.generation = later.generation →
      row.generation = middle.generation ∧ middle.generation = later.generation := fun same =>
    have up := first.generation
    have on := second.generation
    ⟨by omega, by omega⟩
  refine ⟨first.generation.trans second.generation, fun same => ?_, fun same => ?_⟩
  · obtain ⟨enabled, salt, verifier, scopes, version⟩ := first.material (both same).1
    obtain ⟨enabled', salt', verifier', scopes', version'⟩ := second.material (both same).2
    exact ⟨enabled'.trans enabled, salt'.trans salt, verifier'.trans verifier, scopes'.trans scopes,
      version'.trans version⟩
  · rcases first.lease (both same).1 with kept | ⟨before, between, old, new, up⟩
    · rcases second.lease (both same).2 with kept' | ⟨before, after, old, new, up⟩
      · exact .inl (kept'.trans kept)
      · exact .inr ⟨before, after, kept ▸ old, new, up⟩
    · rcases second.lease (both same).2 with kept' | ⟨before', after, old', new', up'⟩
      · exact .inr ⟨before, between, old, kept'.trans new, up⟩
      · cases Option.some.inj (new.symm.trans old')
        exact .inr ⟨before, after, old, new', up.trans up'⟩

/-- What was published stays published. -/
def Advances (before after : Option DeviceTemporaryAccess) : Prop :=
  ∀ row, before = some row → ∃ later, after = some later ∧ Extended row later

theorem Advances.refl (access : Option DeviceTemporaryAccess) : Advances access access :=
  fun row there => ⟨row, there, Extended.refl row⟩

/-- **A later row of a session.** What was requested stays; a session that has ended stays ended. -/
structure Continues (row later : SessionRequest) : Prop where
  id : later.id = row.id
  kind : later.authorityKind = row.authorityKind
  generation : later.temporaryAccessGeneration = row.temporaryAccessGeneration
  version : later.targetAuthVersion = row.targetAuthVersion
  expiry : later.authorityExpiresAt = row.authorityExpiresAt
  requester : later.requesterDeviceId = row.requesterDeviceId
  target : later.targetDeviceId = row.targetDeviceId
  scopes : later.requestedScopes = row.requestedScopes
  past : ended row.status = true → ended later.status = true
  begun : later.status = .requested → row.status = .requested

open Continues

theorem Continues.refl (row : SessionRequest) : Continues row row :=
  ⟨rfl, rfl, rfl, rfl, rfl, rfl, rfl, rfl, fun past => past, fun begun => begun⟩

variable {row later : SessionRequest}

theorem Continues.trans {middle : SessionRequest} (first : Continues row middle)
    (second : Continues middle later) : Continues row later :=
  ⟨second.id.trans first.id, second.kind.trans first.kind, second.generation.trans first.generation,
    second.version.trans first.version, second.expiry.trans first.expiry,
    second.requester.trans first.requester, second.target.trans first.target,
    second.scopes.trans first.scopes, second.past ∘ first.past, first.begun ∘ second.begun⟩

theorem continues_endedBy (row : SessionRequest) (action : TransitionAction) (now : Nat) :
    Continues row (row.endedBy action now) := by
  refine ⟨rfl, rfl, rfl, rfl, rfl, rfl, rfl, rfl, fun _ => ?_, fun requested => ?_⟩
  · cases action <;> rfl
  · cases action <;> cases requested

theorem continues_revokedAt (row : SessionRequest) (now : Nat) : Continues row (row.revokedAt now) :=
  ⟨rfl, rfl, rfl, rfl, rfl, rfl, rfl, rfl, fun _ => rfl, fun requested => nomatch requested⟩

theorem continues_granted (requested : row.status = .requested) (call : ApproveCall) :
    Continues row (row.granted call) := by
  refine ⟨rfl, rfl, rfl, rfl, rfl, rfl, rfl, rfl, fun past => ?_, fun _ => requested⟩
  rw [requested] at past
  cases past

/-- Controllers of sessions that were there, none of which is revived. -/
def Controlled (before after : Tables) : Prop :=
  ∀ controller ∈ after.controllers, before.session controller.sessionId ≠ none →
    ∃ old ∈ before.controllers, old.sessionId = controller.sessionId ∧
      (old.revokedAt.isSome → controller.revokedAt.isSome)

/-- The requester of a session is there. -/
def Asked (tables : Tables) (row : SessionRequest) : Prop :=
  ∀ requester, row.requesterDeviceId = some requester → ∃ device, tables.device requester = some device

/-- Every session has its requester. -/
def Known (tables : Tables) : Prop := ∀ id row, tables.session id = some row → Asked tables row

/-- **What every event keeps**; `New` is what it requests. -/
structure Evolution (New : SessionRequest → Prop) (before after : Tables) : Prop where
  known : Known after
  devices : ∀ id device, before.device id = some device →
    ∃ later, after.device id = some later ∧ later.principalKind = device.principalKind
  pins : ∀ id mapping, before.identityOf id = some mapping → after.identityOf id = some mapping
  access : ∀ id, Advances (before.accessOf id) (after.accessOf id)
  controllers : Controlled before after
  sessions : ∀ id row, before.session id = some row → before.isRemote row = true →
    ∃ later, after.session id = some later ∧ Continues row later
  arrivals : ∀ id later, after.session id = some later → after.isRemote later = true →
    (∃ row, before.session id = some row ∧ before.isRemote row = true ∧ Continues row later) ∨
      before.session id = none ∧ New later

/-! ### Every event is an evolution -/

variable {server : Server} {New : SessionRequest → Prop} {before after : Tables}

section

variable {id : String} {row later : SessionRequest} (known : Known before)
  (devices : ∀ id device, before.device id = some device → ∃ later, after.device id = some later ∧
        later.principalKind = device.principalKind)
  (there : before.session id = some row) (continues : Continues row later)
include known devices there continues

/-- A browser stays one, while devices keep their kind. -/
theorem isBrowser_continues : after.isBrowser later = before.isBrowser row := by
  unfold Tables.isBrowser
  rw [continues.requester]
  cases requester : row.requesterDeviceId with
  | none => rfl
  | some requester' =>
    obtain ⟨device, found⟩ := known id row there requester' requester
    obtain ⟨device', found', kind⟩ := devices requester' device found
    simp [found, found', kind]

theorem isRemote_continues : after.isRemote later = before.isRemote row := by
  simp [Tables.isRemote, continues.kind, isBrowser_continues known devices there continues]

end

/-- **An evolution from what becomes of every session.** -/
theorem evolution_of_sessions (known : Known before)
    (devices : ∀ id device, before.device id = some device →
      ∃ later, after.device id = some later ∧ later.principalKind = device.principalKind)
    (pins : ∀ id mapping, before.identityOf id = some mapping → after.identityOf id = some mapping)
    (access : ∀ id, Advances (before.accessOf id) (after.accessOf id))
    (controllers : Controlled before after)
    (kept : ∀ id row, before.session id = some row →
      ∃ later, after.session id = some later ∧ Continues row later)
    (new : ∀ id later, after.session id = some later → before.session id = none →
      New later ∧ Asked after later) : Evolution New before after where
  known id later there requester asked := by
    cases found : before.session id with
    | none => exact (new id later there found).2 requester asked
    | some row =>
      obtain ⟨other, there', continues⟩ := kept id row found
      cases Option.some.inj (there.symm.trans there')
      obtain ⟨device, found'⟩ := known id row found requester (continues.requester ▸ asked)
      obtain ⟨later, stays, _⟩ := devices requester device found'
      exact ⟨later, stays⟩
  devices
  pins
  access
  controllers
  sessions id row there _ := kept id row there
  arrivals id later there remote := by
    cases found : before.session id with
    | none => exact .inr ⟨rfl, (new id later there found).1⟩
    | some row =>
      obtain ⟨other, there', continues⟩ := kept id row found
      cases Option.some.inj (there.symm.trans there')
      exact .inl ⟨row, rfl, (isRemote_continues known devices found continues) ▸ remote, continues⟩

theorem same_devices (id : String) (device : Device) (found : before.device id = some device) :
    ∃ later, before.device id = some later ∧ later.principalKind = device.principalKind :=
  ⟨device, found, rfl⟩

theorem controlled_of_same (same : after.controllers = before.controllers) : Controlled before after :=
  fun controller member _ => ⟨controller, same ▸ member, rfl, fun revoked => revoked⟩

variable {now : Nat}

theorem controlled_of_revoked {sessionIds : List String}
    (same : after.controllers = revokeControllers sessionIds now before.controllers) :
    Controlled before after := by
  intro controller member _
  rw [same] at member
  obtain ⟨old, there, same⟩ := List.mem_map.mp member
  refine ⟨old, there, ?_, ?_⟩
  · rw [← same]
    split <;> rfl
  · rw [← same]
    split
    · exact fun _ => rfl
    · exact fun revoked => revoked

theorem kept_sessions (id : String) (row : SessionRequest) (there : before.session id = some row) :
    ∃ later, before.session id = some later ∧ Continues row later :=
  ⟨row, there, refl row⟩

theorem nothing_new (same : ∀ id, after.session id = before.session id) (id : String)
    (later : SessionRequest) (there : after.session id = some later) (missing : before.session id = none) :
    New later ∧ Asked after later :=
  nomatch (missing.symm.trans ((same id).symm.trans there))

theorem pins_of_same (identities : after.identities = before.identities) (id : String)
    (mapping : DeviceMachineIdentity) (pinned : before.identityOf id = some mapping) :
    after.identityOf id = some mapping :=
  (congrArg (Rows.row DeviceMachineIdentity.deviceRowId · id) identities).trans pinned

theorem advances_of_same (access : after.access = before.access) (id : String) :
    Advances (before.accessOf id) (after.accessOf id) := by
  show Advances _ (Rows.row deviceRowId after.access id)
  rw [access]
  exact Advances.refl _

/-- Only what no session, pin, key or publication is read from was written. -/
theorem evolution_of_same (known : Known before) (devices : after.devices = before.devices)
    (identities : after.identities = before.identities) (access : after.access = before.access)
    (controllers : after.controllers = before.controllers) (sessions : after.sessions = before.sessions) :
    Evolution New before after := by
  have same : ∀ id, after.session id = before.session id := fun id =>
    congrArg (Rows.row SessionRequest.id · id) sessions
  refine evolution_of_sessions known ?_ (pins_of_same identities) (advances_of_same access)
    (controlled_of_same controllers) ?_ (nothing_new same)
  · intro id device found
    exact ⟨device, (congrArg (Rows.row Device.id · id) devices).trans found, rfl⟩
  · exact fun id row there => ⟨row, (same id).trans there, refl row⟩

theorem Evolution.refl (known : Known before) : Evolution New before before :=
  evolution_of_same known rfl rfl rfl rfl rfl

/-! ### One session is written -/

theorem session_put {sessions : List SessionRequest}
    (written : after.sessions = put SessionRequest.id sessions later) (id : String)
    (same : later.id = row.id) :
    after.session id = if row.id = id then some later else Rows.row SessionRequest.id sessions id := by
  show Rows.row SessionRequest.id after.sessions id = _
  rw [written, row_put, same]

theorem evolution_put {sessionId : String} (known : Known before)
    (there : before.session sessionId = some row) (continues : Continues row later)
    (written : after.sessions = put SessionRequest.id before.sessions later)
    (devices : after.devices = before.devices) (identities : after.identities = before.identities)
    (access : after.access = before.access) (controllers : Controlled before after) :
    Evolution New before after := by
  have own : row.id = sessionId := row_key there
  refine evolution_of_sessions known ?_ (pins_of_same identities) (advances_of_same access) controllers
    ?_ ?_
  · intro id device found
    exact ⟨device, (congrArg (Rows.row Device.id · id) devices).trans found, rfl⟩
  · intro id other found
    rw [session_put written id continues.id]
    by_cases same : row.id = id
    · have found' : some row = some other := by rw [← there, ← found, ← same, own]
      rw [if_pos same, ← Option.some.inj found']
      exact ⟨later, rfl, continues⟩
    · simpa [same] using ⟨other, found, refl other⟩
  · intro id other found missing
    rw [session_put written id continues.id] at found
    by_cases same : row.id = id
    · simp [← same, own, there] at missing
    · rw [if_neg same] at found
      cases missing.symm.trans found

/-! ### Rows of a browser -/

variable {principal : BrowserController} {session : SessionRequest}

theorem session_inserted {shadow : Device} (inserted : Inserted before shadow session principal after)
    (id : String) :
    after.session id = if session.id = id then some session else before.session id := by
  rw [inserted.same]
  exact row_append inserted.newSession id

theorem evolution_inserted {shadow : Device} (known : Known before)
    (inserted : Inserted before shadow session principal after)
    (own : principal.sessionId = session.id) (asked : session.requesterDeviceId = some shadow.id)
    (fits : New session) : Evolution New before after := by
  refine evolution_of_sessions known ?_ ?_ ?_ ?_ ?_ ?_
  · intro id device found
    rw [inserted.same]
    exact ⟨device, row_append_of_some found, rfl⟩
  · rw [inserted.same]
    exact fun _ _ pinned => pinned
  · rw [inserted.same]
    exact fun id => Advances.refl _
  · intro controller member there
    rw [inserted.same] at member
    rcases List.mem_append.mp member with stood | new
    · exact ⟨controller, stood, rfl, fun revoked => revoked⟩
    · cases List.mem_singleton.mp new
      exact absurd (own ▸ inserted.newSession) there
  · intro id row found
    rw [session_inserted inserted id]
    by_cases same : session.id = id
    · simp [← same, inserted.newSession] at found
    · simpa [same] using ⟨row, found, refl row⟩
  · intro id later found missing
    rw [session_inserted inserted id] at found
    by_cases same : session.id = id
    · rw [if_pos same] at found
      cases Option.some.inj found
      refine ⟨fits, fun requester named => ⟨shadow, ?_⟩⟩
      have own : shadow.id = requester := Option.some.inj (asked.symm.trans named)
      rw [inserted.same]
      exact (row_append inserted.newDevice requester).trans (if_pos own)
    · rw [if_neg same] at found
      cases missing.symm.trans found

/-! ### Publications -/

variable {device : Device} {call : PublishCall} {document : TemporaryAccessDocument}

variable {new : DeviceTemporaryAccess}

theorem accessOf_put {deviceId : String} (written : after.access = put deviceRowId before.access new)
    (own : new.deviceRowId = deviceId) (id : String) :
    after.accessOf id = if deviceId = id then some new else before.accessOf id := by
  show Rows.row deviceRowId after.access id = _
  rw [written, row_put, own]
  rfl

theorem advances_put (written : after.access = put deviceRowId before.access new)
    (extended : ∀ row, before.accessOf new.deviceRowId = some row → Extended row new) (id : String) :
    Advances (before.accessOf id) (after.accessOf id) := by
  rw [accessOf_put written rfl]
  by_cases same : new.deviceRowId = id
  · rw [if_pos same]
    exact fun row found => ⟨new, rfl, extended row (same.symm ▸ found)⟩
  · simp [same, Advances.refl _]

variable {service : TemporaryAccessService}

variable {id : String}

theorem renewedRow_owner {row : DeviceTemporaryAccess} (stored : before.accessOf id = some row) :
    (renewedRow service row call.payload document now).deviceRowId = id := by
  have own : row.deviceRowId = id := row_key stored
  exact own

theorem extended_renewed {row : DeviceTemporaryAccess}
    (renewing : renews service row device call.payload document = true) :
    Extended row (renewedRow service row call.payload document now) := by
  obtain ⟨_, _, _, _, _, longer, _⟩ := of_decide_eq_true renewing
  obtain ⟨before, old, after, new, up⟩ := longer
  exact ⟨le_rfl, fun _ => ⟨rfl, rfl, rfl, rfl, rfl⟩, fun _ => .inr ⟨before, after, old, new, up⟩⟩

theorem session_revokeGuests (tables : Tables) (deviceId : String) (enabled : Bool) (now : Nat) (id : String) :
    (revokeGuests tables deviceId enabled now).session id = (tables.session id).map fun session =>
      if revokedByPublication deviceId enabled session then session.revokedAt now else session :=
  row_map (fun other => by split <;> rfl) id

theorem continues_revokeGuests (deviceId : String) (enabled : Bool) (now : Nat) (session : SessionRequest) :
    Continues session
      (if revokedByPublication deviceId enabled session then session.revokedAt now else session) := by
  split
  · exact continues_revokedAt session now
  · exact refl session

theorem identityOf_withPin {mapping : Option DeviceMachineIdentity}
    {payload : TemporaryAccessPublishIn} {deviceId : String} {identities : List DeviceMachineIdentity}
    {pin : DeviceMachineIdentity}
    (pinned : Rows.row DeviceMachineIdentity.deviceRowId identities id = some pin) :
    Rows.row DeviceMachineIdentity.deviceRowId (withPin identities mapping payload deviceId now) id =
      some pin := by
  cases mapping with
  | none => exact row_append_of_some pinned
  | some _ => exact pinned

theorem evolution_published {view : Tables} (known : Known before)
    (published : Published service view before call document device after) :
    Evolution New before after := by
  cases published with
  | repeated => exact Evolution.refl known
  | renewed row stored renewing soon =>
    have own : row.deviceRowId = device.id := row_key stored
    refine evolution_of_sessions known same_devices (fun _ _ pinned => pinned) (advances_put rfl ?_)
      (controlled_of_same rfl) kept_sessions (nothing_new fun _ => rfl)
    intro other found
    cases Option.some.inj (stored.symm.trans ((congrArg before.accessOf own.symm).trans found))
    exact extended_renewed renewing
  | replaced newer pinned free soon =>
    refine evolution_of_sessions known same_devices (fun _ _ pinned => identityOf_withPin pinned)
      (advances_put rfl ?_) (controlled_of_revoked rfl) ?_ ?_
    · intro row found
      have up := newer row found
      exact ⟨up.le, fun same => absurd same up.ne, fun same => absurd same up.ne⟩
    · intro id row found
      refine ⟨_, (session_revokeGuests _ device.id document.enabled call.later id).trans ?_,
        continues_revokeGuests device.id document.enabled call.later row⟩
      exact congrArg (Option.map _) found
    · intro id later found missing
      rw [session_revokeGuests] at found
      have missing' : ({ before with
        identities := withPin before.identities (view.identityOf device.id) call.payload device.id call.later
        access := put deviceRowId before.access
          (publishedRow service device call.payload document call.later) } : Tables).session id = none := missing
      simp [missing'] at found

/-! ### Registrations -/

theorem evolution_registered {call : RegisterCall} {challenge : DeviceSelfEnrollmentChallenge}
    {enrolled : Tables} (known : Known before) (outcome : Enrolled before call enrolled) :
    Evolution New before (consumeChallenge enrolled challenge call.later) := by
  cases outcome with
  | described mapping device registration pinned found =>
    refine evolution_of_sessions known ?_ (fun _ _ pinned => pinned) (fun _ => Advances.refl _)
      (controlled_of_same rfl) kept_sessions (nothing_new fun _ => rfl)
    intro id other there
    show ∃ later, Rows.row Device.id (put Device.id before.devices (device.described registration)) id =
      some later ∧ _
    rw [row_put]
    by_cases same : device.id = id
    · have own : device.id = mapping.deviceRowId := row_key found
      rw [← same, own] at there
      cases Option.some.inj (found.symm.trans there)
      exact ⟨device.described registration, if_pos same, rfl⟩
    · exact ⟨other, (if_neg same).trans there, rfl⟩
  | pinned device kind free new unpinned =>
    refine evolution_of_sessions known ?_ ?_ (fun _ => Advances.refl _)
      (controlled_of_same rfl) kept_sessions (nothing_new fun _ => rfl)
    · exact fun id other there => ⟨other, row_append_of_some there, rfl⟩
    · exact fun id pin pinned => row_append_of_some pinned

theorem issue_ok {service : DeviceSelfEnrollmentService} {view : Tables} {call : IssueCall}
    (done : issue service view before call = .ok after) :
    view.keyIsBrowserController call.keyId = false ∧
      ∃ challenges, after = { before with challenges } := by
  unfold issue at done
  obtain ⟨_, done⟩ := guarded_ok done
  obtain ⟨peer, _, done⟩ := bind_ok done
  obtain ⟨separate, done⟩ := guarded_ok done
  obtain ⟨_, done⟩ := guarded_ok done
  obtain ⟨_, done⟩ := guarded_ok done
  exact ⟨Bool.eq_false_of_not_eq_true separate, _, (Except.ok.inj done).symm⟩

/-! ### The rest of the server -/

/-- The rest of the server leaves remote sessions alone. -/
theorem leavesAlone_sessions (leaves : leavesAlone before after = true)
    (there : before.session id = some row) (remote : before.isRemote row = true) :
    after.session id = some row := by
  unfold leavesAlone at leaves
  simp only [Bool.and_eq_true] at leaves
  have own : row.id = id := row_key there
  have kept := List.all_eq_true.mp leaves.1.2 row (row_mem there)
  rw [own, there, Option.any_some, remote, Bool.not_true, Bool.false_or] at kept
  exact of_decide_eq_true kept

theorem evolution_elsewhere (known : Known before) (leaves : leavesAlone before after = true) :
    Evolution New before after := by
  have stay := fun row id => @leavesAlone_sessions row before after id leaves
  unfold leavesAlone at leaves
  simp only [Bool.and_eq_true, decide_eq_true_eq] at leaves
  obtain ⟨⟨⟨⟨⟨⟨identities, access⟩, controllers⟩, kinds⟩, asked⟩, _⟩, arrive⟩ := leaves
  have kinds' : ∀ id device, before.device id = some device →
      ∃ later, after.device id = some later ∧ later.principalKind = device.principalKind := by
    intro id device found
    have own : device.id = id := row_key found
    have kind := of_decide_eq_true (List.all_eq_true.mp kinds device (row_mem found))
    rw [own, found, Option.map_some] at kind
    obtain ⟨later, found', same⟩ := Option.map_eq_some_iff.mp kind
    exact ⟨later, found', same⟩
  refine ⟨?_, kinds', pins_of_same identities, advances_of_same access, controlled_of_same controllers,
    ?_, ?_⟩
  · intro id row there requester named
    have given := List.all_eq_true.mp asked row (row_mem there)
    rw [named] at given
    exact Option.isSome_iff_exists.mp given
  · exact fun id row there remote => ⟨row, stay row id there remote, refl row⟩
  · intro id later there remote
    have own : later.id = id := row_key there
    have came := List.all_eq_true.mp arrive later (row_mem there)
    rw [own, there, Option.any_some, remote, Bool.not_true, Bool.false_or] at came
    have found : before.session id = some later := (of_decide_eq_true came).symm
    have same := isRemote_continues known kinds' found (refl later)
    exact .inl ⟨later, found, same.symm.trans remote, refl later⟩

/-! ### Steps -/

/-- **A session that an event requests.** -/
inductive Requests (server : Server) (tables : Tables) : Event → SessionRequest → Prop
  | guest (call : GuestCreateCall) (preview access : DeviceTemporaryAccess) (target : Device)
      (mapping : DeviceMachineIdentity) (expiresAt : Nat)
      (admitted : GuestAdmitted server.access tables tables call preview access target mapping expiresAt)
      (new : tables.session call.payload.sessionId = none) :
      Requests server tables (.createGuest call) (guestSession call target
        (shadowDevice call.shadowRowId call.shadowCode target.tenantId none) access)
  | account (call : AccountCreateCall) (owner : User) (target : Device) :
      Requests server tables (.createAccount call) (accountSession call owner target
        (shadowDevice call.shadowRowId call.shadowCode owner.tenantId (some owner.id)))

variable {event : Event}

/-- **Every event is an evolution.** -/
theorem perform_evolution (known : Known before)
    (performed : event.perform server before = some after) :
    Evolution (Requests server before event) before after := by
  cases event with
  | publish call =>
    obtain ⟨document, device, _, published⟩ := publish_ok (ok_of_toOption performed)
    exact evolution_published known published
  | issue call =>
    obtain ⟨_, challenges, rfl⟩ := issue_ok (ok_of_toOption performed)
    exact evolution_of_same known rfl rfl rfl rfl rfl
  | register call =>
    obtain ⟨challenge, enrolled, _, outcome, rfl⟩ := register_ok (ok_of_toOption performed)
    exact evolution_registered known outcome
  | createGuest call =>
    obtain ⟨preview, access, target, mapping, expiresAt, admitted, ⟨rfl, _⟩ | inserted⟩ :=
      createGuest_ok (ok_of_toOption performed)
    · exact Evolution.refl known
    · exact evolution_inserted known inserted rfl rfl
        (.guest call preview access target mapping expiresAt admitted inserted.newSession)
  | createAccount call =>
    obtain ⟨_, rfl | ⟨owner, target, inserted⟩⟩ := createAccount_ok (ok_of_toOption performed)
    · exact Evolution.refl known
    · exact evolution_inserted known inserted rfl rfl (.account call owner target)
  | approve call =>
    obtain rfl | ⟨row, reservations, there, requested, rfl⟩ := approve_ok (ok_of_toOption performed)
    · exact Evolution.refl known
    · exact evolution_put known there (continues_granted requested call) rfl rfl rfl rfl
        (controlled_of_same rfl)
  | transition sessionId current action now =>
    obtain ⟨row, there, _, _, ⟨_, rfl⟩ | ⟨_, rfl⟩⟩ := transition_ok (ok_of_toOption performed)
    · exact evolution_of_same known rfl rfl rfl rfl rfl
    · exact evolution_put known there (continues_endedBy row action now) rfl rfl rfl rfl
        (controlled_of_same rfl)
  | close call =>
    obtain ⟨shadow, closed, ended, rfl⟩ := closeBrowser_ok (ok_of_toOption performed)
    obtain ⟨row, there, _, _, ⟨_, rfl⟩ | ⟨_, rfl⟩⟩ := transition_ok ended
    · exact evolution_of_sessions known same_devices (fun _ _ pinned => pinned) (fun _ => Advances.refl _)
        (controlled_of_revoked rfl) kept_sessions (nothing_new fun _ => rfl)
    · exact evolution_put known there (continues_endedBy row .close call.now) rfl rfl rfl rfl
        (controlled_of_revoked rfl)
  | elsewhere other =>
    change (if leavesAlone before other then some other else none) = some after at performed
    split at performed
    next leaves =>
      cases performed
      exact evolution_elsewhere known leaves
    · cases performed

variable {world : World}

/-- **A step** rolls back, or an event was performed. -/
theorem step_cases {later : World} (taken : world.step server event = some later) :
    event.possible world = true ∧ (later = world ∨ ∃ after,
      event.perform server world.tables = some after ∧
      later = ⟨after, world.seen ++ after.access, world.guests ++ event.guest world.tables⟩) := by
  unfold World.step at taken
  split at taken
  next possible =>
    refine ⟨possible, ?_⟩
    cases performed : event.perform server world.tables with
    | none =>
      rw [performed] at taken
      exact .inl (Option.some.inj taken).symm
    | some after =>
      rw [performed] at taken
      exact .inr ⟨after, rfl, (Option.some.inj taken).symm⟩
  · cases taken

theorem step_evolution {later : World} (known : Known world.tables)
    (taken : world.step server event = some later) :
    Evolution (Requests server world.tables event) world.tables later.tables := by
  obtain ⟨_, rfl | ⟨after, performed, rfl⟩⟩ := step_cases taken
  · exact Evolution.refl known
  · exact perform_evolution known performed

theorem known_fresh (fresh : Fresh world) : Known world.tables := by
  intro id row there
  unfold Tables.session at there
  rw [fresh.sessions] at there
  cases there

end MiniRemoteDesktop.Browser
