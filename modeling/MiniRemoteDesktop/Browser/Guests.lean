/-
**What a guest session may rest on.**

A guest session is created with the password of one publication. Its authority is computed later from
rows that have changed since: leases are extended, generations replaced, access disabled and enabled.

* `Earned` — what was true of a guest session when it was created; `Origin` — how its row keeps that.
* `guest_authority_bounded` — **a guest session with authority has what its resident published**;
  `disabled_access_ends_guests` — its second half.
-/

import MiniRemoteDesktop.Browser.Finished

namespace MiniRemoteDesktop.Browser

open Option (bind_some map_eq_some_iff)
open Checked Execution Rows
open DeviceTemporaryAccess

variable {server : Server} {before after : Tables}

/-! ### What is remembered of a guest -/

/-- **What was true of a guest session when it was created.** -/
structure Earned (server : Server) (guest : GuestCreation) : Prop where
  password : server.access.verifyPassword guest.call.temporaryPassword (some guest.access) = true
  owner : guest.access.deviceRowId = guest.target.id
  enabled : guest.access.enabled = true
  unexpired : ∃ expiry, guest.access.expiresAt = some expiry ∧ guest.call.now < expiry
  version : guest.target.authVersion = guest.access.targetAuthVersion
  pinned : guest.mapping.keyId = guest.access.keyId
  scopes : ∀ scope ∈ guest.call.payload.requestedScopes, scope ∈ guest.access.allowedScopes

/-- **How the row of a session keeps its origin.** -/
structure Origin (guest : GuestCreation) (row : SessionRequest) : Prop where
  id : row.id = guest.call.payload.sessionId
  generation : row.temporaryAccessGeneration = some guest.access.generation
  version : row.targetAuthVersion = some guest.target.authVersion
  expiry : row.authorityExpiresAt = guest.access.expiresAt
  requester : row.requesterDeviceId = some guest.call.shadowRowId
  target : row.targetDeviceId = guest.target.id
  scopes : row.requestedScopes = some guest.call.payload.requestedScopes

variable {guest : GuestCreation}

theorem Origin.continues {row later : SessionRequest} (origin : Origin guest row)
    (continues : Continues row later) : Origin guest later :=
  ⟨continues.id.trans origin.id, continues.generation.trans origin.generation,
    continues.version.trans origin.version, continues.expiry.trans origin.expiry,
    continues.requester.trans origin.requester, continues.target.trans origin.target,
    continues.scopes.trans origin.scopes⟩

/-- A guest that was earned, as the tables still show: its pin, its publication and its browser. -/
structure Remembered (server : Server) (world : World) (guest : GuestCreation) : Prop where
  earned : Earned server guest
  seen : guest.access ∈ world.seen
  pin : world.tables.identityOf guest.target.id = some guest.mapping
  shadow : ∃ device, world.tables.device guest.call.shadowRowId = some device ∧
    device.principalKind = .browserController

/-- Access that is disabled has no guests left. -/
def Barred (tables : Tables) : Prop :=
  ∀ id row access, tables.session id = some row → row.authorityKind = .temporaryPassword →
    tables.accessOf row.targetDeviceId = some access → access.enabled = false → Unauthorized tables row

/-- **The invariant.** -/
structure Guarded (server : Server) (world : World) : Prop where
  known : Known world.tables
  rows : ∀ access ∈ world.tables.access, world.tables.accessOf access.deviceRowId = some access
  stored : ∀ access ∈ world.tables.access, access ∈ world.seen
  extended : ∀ access ∈ world.seen,
    ∃ current, world.tables.accessOf access.deviceRowId = some current ∧ Extended access current
  alike : ∀ one ∈ world.seen, ∀ other ∈ world.seen, one.deviceRowId = other.deviceRowId →
    one.generation = other.generation → one.salt = other.salt ∧ one.verifierHmac = other.verifierHmac
  guests : ∀ guest ∈ world.guests, Remembered server world guest
  origin : ∀ id row, world.tables.session id = some row → row.authorityKind = .temporaryPassword →
    ∃ guest ∈ world.guests, Origin guest row
  barred : Barred world.tables

variable {world : World}

theorem guarded_fresh (fresh : Fresh world) : Guarded server world := by
  have none : ∀ id row, world.tables.session id ≠ some row := by
    intro id row there
    unfold Tables.session at there
    rw [fresh.sessions] at there
    cases there
  refine ⟨known_fresh fresh, ?_, ?_, ?_, ?_, ?_, fun id row there => absurd there (none id row),
    fun id row _ there => absurd there (none id row)⟩
  · simp [fresh.access]
  · simp [fresh.access]
  · simp [fresh.seen]
  · simp [fresh.seen]
  · simp [fresh.guests]

/-! ### Publications -/

/-- A list of publications has one row for each device. -/
theorem rows_put {rows : List DeviceTemporaryAccess} {new : DeviceTemporaryAccess}
    (single : ∀ access ∈ rows, row deviceRowId rows access.deviceRowId = some access)
    (access : DeviceTemporaryAccess) (member : access ∈ put deviceRowId rows new) :
    row deviceRowId (put deviceRowId rows new) access.deviceRowId = some access := by
  rw [row_put]
  rcases mem_put member with rfl | ⟨stood, other⟩
  · exact if_pos rfl
  · simpa [Ne.symm other] using single access stood

variable {event : Event}

theorem access_unpublished (performed : event.perform server before = some after)
    (silent : ∀ call, event ≠ .publish call) : after.access = before.access := by
  cases event with
  | publish call => exact absurd rfl (silent call)
  | issue call =>
    obtain ⟨_, challenges, rfl⟩ := issue_ok (ok_of_toOption performed)
    rfl
  | register call =>
    obtain ⟨challenge, enrolled, _, outcome, rfl⟩ := register_ok (ok_of_toOption performed)
    cases outcome <;> rfl
  | createGuest call =>
    obtain ⟨_, _, _, _, _, _, ⟨rfl, _⟩ | inserted⟩ := createGuest_ok (ok_of_toOption performed)
    · rfl
    · rw [inserted.same]
  | createAccount call =>
    obtain ⟨_, rfl | ⟨owner, target, inserted⟩⟩ := createAccount_ok (ok_of_toOption performed)
    · rfl
    · rw [inserted.same]
  | approve call =>
    obtain rfl | ⟨row, reservations, _, _, rfl⟩ := approve_ok (ok_of_toOption performed) <;> rfl
  | transition sessionId current action now =>
    obtain ⟨row, _, _, _, ⟨_, rfl⟩ | ⟨_, rfl⟩⟩ := transition_ok (ok_of_toOption performed) <;> rfl
  | close call =>
    obtain ⟨shadow, closed, ended', rfl⟩ := closeBrowser_ok (ok_of_toOption performed)
    obtain ⟨row, _, _, _, ⟨_, rfl⟩ | ⟨_, rfl⟩⟩ := transition_ok ended' <;> rfl
  | elsewhere other =>
    change (if leavesAlone before other then some other else none) = some after at performed
    split at performed
    next leaves =>
      cases performed
      unfold leavesAlone at leaves
      simp only [Bool.and_eq_true, decide_eq_true_eq] at leaves
      exact leaves.1.1.1.1.1.2
    · cases performed

/-- The publications after an event: as they were, or with one row written. -/
theorem access_performed (performed : event.perform server before = some after) :
    after.access = before.access ∨ ∃ new, after.access = put deviceRowId before.access new := by
  cases event with
  | publish call =>
    obtain ⟨document, device, _, published⟩ := publish_ok (ok_of_toOption performed)
    cases published with
    | repeated => exact .inl rfl
    | renewed => exact .inr ⟨_, rfl⟩
    | replaced => exact .inr ⟨_, rfl⟩
  | _ => exact .inl (access_unpublished performed fun _ other => by cases other)

theorem rows_performed (performed : event.perform server before = some after)
    (single : ∀ access ∈ before.access, before.accessOf access.deviceRowId = some access) :
    ∀ access ∈ after.access, after.accessOf access.deviceRowId = some access := by
  unfold Tables.accessOf at single ⊢
  rcases access_performed performed with same | ⟨new, written⟩
  · rw [same]
    exact single
  · rw [written]
    exact rows_put single

/-! ### Disabled access -/

/-- A publication that disables access leaves no guest. -/
theorem barred_published {service : TemporaryAccessService} {view : Tables} {call : PublishCall}
    {document : TemporaryAccessDocument} {device : Device} {New : SessionRequest → Prop}
    (evolution : Evolution New before after)
    (published : Published service view before call document device after) (barred : Barred before)
    (older : ∀ id row, before.session id = some row → row.authorityKind = .temporaryPassword →
      ∃ generation access, row.temporaryAccessGeneration = some generation ∧
        before.accessOf row.targetDeviceId = some access ∧ generation ≤ access.generation) :
    Barred after := by
  intro id later access there guest current off
  have stays : ∀ row, before.session id = some row → Continues row later →
      before.accessOf row.targetDeviceId = some access → Unauthorized after later := by
    intro row stood continues same
    exact unauthorized_stays evolution stood continues
      (barred id row access stood (continues.kind.symm.trans guest) same off)
  cases published with
  | repeated => exact barred id later access there guest current off
  | renewed row stored renewing soon =>
    rw [accessOf_put rfl (renewedRow_owner stored)] at current
    by_cases own : device.id = later.targetDeviceId
    · rw [if_pos own] at current
      cases current
      obtain ⟨_, _, enabled, _⟩ := of_decide_eq_true renewing
      have off : row.enabled = false := off
      simp [enabled] at off
    · rw [if_neg own] at current
      exact stays later there (Continues.refl later) current
  | replaced newer pinned free soon =>
    have current := (accessOf_put rfl (Eq.refl device.id) later.targetDeviceId).symm.trans current
    have there := (session_revokeGuests _ device.id document.enabled call.later id).symm.trans there
    obtain ⟨row, stood, same⟩ := map_eq_some_iff.mp there
    have stood : before.session id = some row := stood
    have continues : Continues row later :=
      same ▸ continues_revokeGuests device.id document.enabled call.later row
    by_cases own : device.id = later.targetDeviceId
    · rw [if_pos own] at current
      cases current
      have off : document.enabled = false := off
      by_cases hit : revokedByPublication device.id document.enabled row = true
      · rw [if_pos hit] at same
        refine .revoked fun controller member mine => ?_
        have named : later.id ∈ (before.sessions.filter
            (revokedByPublication device.id document.enabled)).map (·.id) := by
          rw [← same]
          exact List.mem_map.mpr ⟨row, List.mem_filter.mpr ⟨row_mem stood, hit⟩, rfl⟩
        exact revokeControllers_revoked member (mine.symm ▸ named)
      · -- What was neither requested nor approved had ended, under a generation before this one.
        rw [if_neg hit] at same
        cases same
        obtain ⟨generation, access, given, found, below⟩ := older id later stood guest
        have down : access.generation < document.generation := newer access (own.symm ▸ found)
        refine .superseded guest ?_ generation given
          (publishedRow service device call.payload document call.later)
          ((accessOf_put rfl (Eq.refl device.id) later.targetDeviceId).trans (if_pos own))
          (below.trans_lt down)
        unfold revokedByPublication at hit
        rw [← own, guest, off] at hit
        cases status : later.status <;> simp_all [ended]
    · rw [if_neg own] at current
      exact stays row stood continues (continues.target ▸ current)

/-- An event that writes no publication bars no guest anew. -/
theorem barred_kept (evolution : Evolution (Requests server before event) before after)
    (same : after.access = before.access) (barred : Barred before) : Barred after := by
  intro id later access there guest current off
  have current : before.accessOf later.targetDeviceId = some access :=
    (congrArg (row deviceRowId · later.targetDeviceId) same).symm.trans current
  rcases evolution.arrivals id later there (by rw [Tables.isRemote, guest, decide_eq_true rfl, Bool.true_or])
    with ⟨row, stood, _, continues⟩ | ⟨_, requests⟩
  · exact unauthorized_stays evolution stood continues
      (barred id row access stood (continues.kind.symm.trans guest) (continues.target ▸ current) off)
  · cases requests with
    | guest call preview access' target mapping expiresAt admitted new =>
      cases Option.some.inj (current.symm.trans admitted.foundAccess)
      simp [admitted.enabled] at off
    | account call owner target => cases guest

/-! ### The invariant -/

theorem verifyPassword_congr {service : TemporaryAccessService} {one other : DeviceTemporaryAccess}
    (salt : one.salt = other.salt) (verifier : one.verifierHmac = other.verifierHmac) (password : String) :
    service.verifyPassword password (some one) = service.verifyPassword password (some other) := by
  simp [TemporaryAccessService.verifyPassword, salt, verifier]

/-- The generation of a guest is not after the current one. -/
theorem Guarded.older (guarded : Guarded server world) (id : String) (row : SessionRequest)
    (there : world.tables.session id = some row) (kind : row.authorityKind = .temporaryPassword) :
    ∃ generation access, row.temporaryAccessGeneration = some generation ∧
      world.tables.accessOf row.targetDeviceId = some access ∧ generation ≤ access.generation := by
  obtain ⟨guest, member, origin⟩ := guarded.origin id row there kind
  have remembered := guarded.guests guest member
  obtain ⟨current, found, extended⟩ := guarded.extended guest.access remembered.seen
  have own : guest.access.deviceRowId = row.targetDeviceId :=
    remembered.earned.owner.trans origin.target.symm
  exact ⟨guest.access.generation, current, origin.generation, own ▸ found, extended.generation⟩

/-- What was published in one generation has one password. -/
theorem alike_performed (guarded : Guarded server world)
    (performed : event.perform server world.tables = some after) :
    ∀ one ∈ world.seen ++ after.access, ∀ other ∈ world.seen ++ after.access,
      one.deviceRowId = other.deviceRowId → one.generation = other.generation →
      one.salt = other.salt ∧ one.verifierHmac = other.verifierHmac := by
  have evolution := perform_evolution guarded.known performed
  have single := rows_performed performed guarded.rows
  -- A row that was seen is extended by the row of its device.
  have across : ∀ one ∈ world.seen, ∀ other ∈ after.access, one.deviceRowId = other.deviceRowId →
      one.generation = other.generation → one.salt = other.salt ∧ one.verifierHmac = other.verifierHmac := by
    intro one seen other stored device generation
    obtain ⟨current, found, extended⟩ := guarded.extended one seen
    obtain ⟨latest, found', extended'⟩ := evolution.access one.deviceRowId current found
    rw [device, single other stored] at found'
    cases found'
    obtain ⟨_, salt, verifier, _⟩ := (extended.trans extended').material generation
    exact ⟨salt.symm, verifier.symm⟩
  intro one first other second device generation
  rcases List.mem_append.mp first with seen | stored <;> rcases List.mem_append.mp second with seen' | stored'
  · exact guarded.alike one seen other seen' device generation
  · exact across one seen other stored' device generation
  · have both := across other seen' one stored device.symm generation.symm
    exact ⟨both.1.symm, both.2.symm⟩
  · have found := single one stored
    rw [device, single other stored'] at found
    cases found
    exact ⟨rfl, rfl⟩

/-- The guest that an event creates was admitted by it. -/
theorem guest_performed (performed : event.perform server world.tables = some after)
    (member : guest ∈ event.guest world.tables) :
    ∃ preview expiresAt, event = .createGuest guest.call ∧
      GuestAdmitted server.access world.tables world.tables guest.call preview guest.access guest.target
        guest.mapping expiresAt ∧
      Inserted world.tables
        (shadowDevice guest.call.shadowRowId guest.call.shadowCode guest.target.tenantId none)
        (guestSession guest.call guest.target
          (shadowDevice guest.call.shadowRowId guest.call.shadowCode guest.target.tenantId none) guest.access)
        (guestController server.access guest.call guest.target guest.access expiresAt) after := by
  cases event with
  | createGuest call =>
    unfold Event.guest at member
    dsimp only at member
    obtain ⟨preview, access, target, mapping, expiresAt, admitted, outcome⟩ :=
      createGuest_ok (ok_of_toOption performed)
    split at member
    next target' missing found =>
      rw [admitted.previewedTarget, bind_some, admitted.foundTarget] at found
      cases found
      rw [admitted.foundAccess, admitted.foundMapping] at member
      cases List.mem_singleton.mp member
      have inserted := outcome.resolve_left fun kept => by
        rw [missing] at kept
        cases kept.2
      exact ⟨preview, expiresAt, rfl, admitted, inserted⟩
    · cases member
  | _ => cases member

/-- What is remembered of a guest is remembered after every event. -/
theorem Remembered.stays {New : SessionRequest → Prop} {guests : List GuestCreation}
    (remembered : Remembered server world guest) (evolution : Evolution New world.tables after) :
    Remembered server ⟨after, world.seen ++ after.access, guests⟩ guest where
  earned := remembered.earned
  seen := List.mem_append_left _ remembered.seen
  pin := evolution.pins _ _ remembered.pin
  shadow := by
    obtain ⟨device, found, kind⟩ := remembered.shadow
    obtain ⟨later, found', same⟩ := evolution.devices _ device found
    exact ⟨later, found', same.trans kind⟩

/-- **A new guest is remembered as it was admitted.** -/
theorem remembered_new {guests : List GuestCreation} (guarded : Guarded server world)
    (possible : event.possible world = true)
    (performed : event.perform server world.tables = some after)
    (member : guest ∈ event.guest world.tables) :
    Remembered server ⟨after, world.seen ++ after.access, guests⟩ guest := by
  obtain ⟨preview, expiresAt, rfl, admitted, inserted⟩ := guest_performed performed member
  have evolution := perform_evolution guarded.known performed
  have stored := guarded.stored guest.access (row_mem admitted.foundAccess)
  have owner : guest.access.deviceRowId = guest.target.id := row_key admitted.foundAccess
  have looked : preview ∈ world.seen ∧ guest.call.previewTarget = some preview.deviceRowId := by
    have checked : guest.call.previewAccess.all (fun access =>
      decide (access ∈ world.seen) && decide (guest.call.previewTarget = some access.deviceRowId)) = true :=
      possible
    rw [admitted.previewed, Option.all_some, Bool.and_eq_true] at checked
    exact ⟨of_decide_eq_true checked.1, of_decide_eq_true checked.2⟩
  have device : preview.deviceRowId = guest.access.deviceRowId :=
    (Option.some.inj (looked.2.symm.trans admitted.previewedTarget)).trans owner.symm
  -- The publication is still the one whose password was checked, so its salt and verifier are.
  have generation : preview.generation = guest.access.generation := congrArg Prod.fst admitted.unchanged
  obtain ⟨salt, verifier⟩ := guarded.alike preview looked.1 guest.access stored device generation
  refine ⟨⟨?_, owner, admitted.enabled, ⟨expiresAt, admitted.expiry, admitted.unexpired⟩, admitted.version,
    admitted.pinned, admitted.scopes⟩, List.mem_append_left _ stored,
    evolution.pins _ _ admitted.foundMapping, ?_⟩
  · simp [← verifyPassword_congr salt verifier, admitted.password]
  · refine ⟨shadowDevice guest.call.shadowRowId guest.call.shadowCode guest.target.tenantId none, ?_, rfl⟩
    rw [inserted.same]
    exact (row_append inserted.newDevice guest.call.shadowRowId).trans (if_pos rfl)

/-- **Every step keeps the invariant.** -/
theorem guarded_step {later : World} (guarded : Guarded server world)
    (taken : world.step server event = some later) : Guarded server later := by
  obtain ⟨possible, rfl | ⟨after, performed, rfl⟩⟩ := step_cases taken
  · exact guarded
  have evolution := perform_evolution guarded.known performed
  have single := rows_performed performed guarded.rows
  refine ⟨evolution.known, single, fun access stored => List.mem_append_right _ stored, ?_,
    alike_performed guarded performed, ?_, ?_, ?_⟩
  · intro access member
    rcases List.mem_append.mp member with seen | stored
    · obtain ⟨current, found, extended⟩ := guarded.extended access seen
      obtain ⟨latest, found', extended'⟩ := evolution.access access.deviceRowId current found
      exact ⟨latest, found', extended.trans extended'⟩
    · exact ⟨access, single access stored, Extended.refl access⟩
  · intro guest member
    rcases List.mem_append.mp member with old | new
    · exact (guarded.guests guest old).stays evolution
    · exact remembered_new guarded possible performed new
  · intro id row there kind
    rcases evolution.arrivals id row there (by rw [Tables.isRemote, kind, decide_eq_true rfl, Bool.true_or])
      with ⟨old, stood, _, continues⟩ | ⟨_, requests⟩
    · obtain ⟨guest, member, origin⟩ := guarded.origin id old stood (continues.kind.symm.trans kind)
      exact ⟨guest, List.mem_append_left _ member, origin.continues continues⟩
    · cases requests with
      | guest call preview access target mapping expiresAt admitted new =>
        refine ⟨⟨call, target, access, mapping⟩, List.mem_append_right _ ?_,
          ⟨rfl, rfl, rfl, rfl, rfl, rfl, rfl⟩⟩
        unfold Event.guest
        dsimp only
        rw [new, admitted.previewedTarget, bind_some, admitted.foundTarget]
        simp [admitted.foundAccess, admitted.foundMapping]
      | account call owner target => cases kind
  · rcases access_performed performed with same | ⟨new, written⟩
    · exact barred_kept evolution same guarded.barred
    · cases event with
      | publish call =>
        obtain ⟨document, device, _, published⟩ := publish_ok (ok_of_toOption performed)
        exact barred_published evolution published guarded.barred guarded.older
      | _ =>
        exact barred_kept evolution
          (access_unpublished performed fun _ other => by cases other) guarded.barred

theorem guarded_reach {start : World} {allowed : World → Event → Prop} (fresh : Fresh start)
    (reach : Reach (World.step server) allowed start world) : Guarded server world :=
  reach.invariant (I := Guarded server) (guarded_fresh fresh) fun _ _ _ guarded _ taken =>
    guarded_step guarded taken

/-! ### What a guest session rests on -/

/-- **A guest session with authority**, and the creation that it goes back to. -/
structure Bounded (server : Server) (tables : Tables) (row : SessionRequest) (time : Nat)
    (guest : GuestCreation) : Prop where
  session : guest.call.payload.sessionId = row.id
  password : server.access.verifyPassword guest.call.temporaryPassword (some guest.access) = true
  enabled : guest.access.enabled = true
  lease : ∃ expiry, guest.access.expiresAt = some expiry ∧ guest.call.now < expiry ∧ time < expiry
  scopes : ∃ scopes, row.requestedScopes = some scopes ∧ ∀ scope ∈ scopes, scope ∈ guest.access.allowedScopes
  target : row.targetDeviceId = guest.target.id
  version : ∃ target, tables.device row.targetDeviceId = some target ∧
    target.authVersion = guest.target.authVersion
  pin : tables.identityOf row.targetDeviceId = some guest.mapping ∧ guest.mapping.keyId = guest.access.keyId
  current : ∃ access, tables.accessOf row.targetDeviceId = some access ∧ access.enabled = true

theorem Guarded.browser (guarded : Guarded server world) {id : String} {row : SessionRequest}
    (there : world.tables.session id = some row) (kind : row.authorityKind = .temporaryPassword) :
    ∃ device, row.requesterDeviceId.bind world.tables.device = some device ∧
      device.principalKind = .browserController := by
  obtain ⟨guest, member, origin⟩ := guarded.origin id row there kind
  obtain ⟨device, found, browser⟩ := (guarded.guests guest member).shadow
  refine ⟨device, ?_, browser⟩
  rw [origin.requester]
  exact found

/-- **Once access is disabled, no guest session of that time has authority again.** -/
theorem disabled_access_ends_guests {later : World} (guarded : Guarded server world)
    {allowed : World → Event → Prop} (run : Reach (World.step server) allowed world later)
    {id : String} {row : SessionRequest} (there : world.tables.session id = some row)
    (kind : row.authorityKind = .temporaryPassword) {access : DeviceTemporaryAccess}
    (found : world.tables.accessOf row.targetDeviceId = some access) (off : access.enabled = false) :
    ∃ row', later.tables.session id = some row' ∧
      ∀ time, browserAuthorityValid server.access later.tables row' time false = false := by
  have barred : Unauthorized world.tables row := guarded.barred id row access there kind found off
  have kept : Guarded server later ∧ ∃ row', later.tables.session id = some row' ∧ Continues row row' ∧
      Unauthorized later.tables row' := by
    refine run.invariant (I := fun world => Guarded server world ∧ ∃ row',
      world.tables.session id = some row' ∧ Continues row row' ∧ Unauthorized world.tables row')
      ⟨guarded, row, there, Continues.refl row, barred⟩ ?_
    intro middle event later ⟨guarded, row', there', continues, lost⟩ _ taken
    have evolution := step_evolution guarded.known taken
    obtain ⟨latest, found', continues'⟩ := evolution.sessions id row' there'
      (by rw [Tables.isRemote, continues.kind, kind, decide_eq_true rfl, Bool.true_or])
    exact ⟨guarded_step guarded taken, latest, found', continues.trans continues',
      unauthorized_stays evolution there' continues' lost⟩
  obtain ⟨guarded', row', there', continues, lost⟩ := kept
  obtain ⟨device, asked, browser⟩ := guarded'.browser there' (continues.kind.trans kind)
  exact ⟨row', there', fun time => not_valid_of_unauthorized lost asked browser time⟩

/-- **Guest authority is bounded by what the resident published.** A guest session with authority was
created with the right password of a publication, whose bounds it keeps; and once access is disabled,
no session from before has authority again. -/
theorem guest_authority_bounded {start world : World} (fresh : Fresh start)
    (reach : Reach (World.step server) always start world) {id : String} {row : SessionRequest}
    (there : world.tables.session id = some row) (kind : row.authorityKind = .temporaryPassword) :
    (∀ time, browserAuthorityValid server.access world.tables row time false = true →
      ∃ guest ∈ world.guests, Bounded server world.tables row time guest) ∧
    (∀ published, Reach (World.step server) always world published →
      ∀ access, published.tables.accessOf row.targetDeviceId = some access → access.enabled = false →
      ∀ later, Reach (World.step server) always published later →
        ∃ row', later.tables.session id = some row' ∧
          ∀ time, browserAuthorityValid server.access later.tables row' time false = false) := by
  have guarded : Guarded server world := guarded_reach fresh reach
  obtain ⟨guest, member, origin⟩ := guarded.origin id row there kind
  have remembered := guarded.guests guest member
  refine ⟨fun time valid => ⟨guest, member, ?_⟩, fun published first access found off later second => ?_⟩
  · obtain ⟨device, asked, browser⟩ := guarded.browser there kind
    obtain ⟨_, ⟨_, valid⟩ | ⟨account, _⟩⟩ := browserAuthority_cases asked browser valid
    · obtain ⟨principal, target, access, mapping, holds⟩ := guestAuthority_holds valid
      have pinned : world.tables.identityOf row.targetDeviceId = some guest.mapping :=
        origin.target ▸ remembered.pin
      obtain ⟨expiry, given, unexpired⟩ := remembered.earned.unexpired
      obtain ⟨expiry', given', future⟩ := holds.unexpired
      cases Option.some.inj (given.symm.trans (origin.expiry.symm.trans given'))
      have version : some target.authVersion = some guest.target.authVersion :=
        holds.version.symm.trans origin.version
      exact {
        session := origin.id.symm
        password := remembered.earned.password
        enabled := remembered.earned.enabled
        lease := ⟨expiry, given, unexpired, future⟩
        scopes := ⟨_, origin.scopes, remembered.earned.scopes⟩
        target := origin.target
        version := ⟨target, holds.foundTarget, Option.some.inj version⟩
        pin := ⟨pinned, remembered.earned.pinned⟩
        current := ⟨access, holds.foundAccess, holds.enabled⟩ }
    · cases kind.symm.trans account
  · obtain ⟨row', there', _, continues⟩ := (reach_later first guarded.known).sessions id row there
      (by rw [Tables.isRemote, kind, decide_eq_true rfl, Bool.true_or])
    exact disabled_access_ends_guests (guarded_reach fresh (reach.trans first)) second there'
      (continues.kind.trans kind) (continues.target ▸ found) off

/-! ### A guest with the password -/

/-- A guest's session has authority until its lease expires, whatever is renewed. -/
theorem guest_authority_bounded_sample : ∃ (world : World) (row : SessionRequest) (guest : GuestCreation),
    world.tables.session "session-2" = some row ∧ Bounded sampleServer world.tables row 3000000 guest := by
  have ran : (run (World.step sampleServer) sampleWorld
      [.publish (samplePublish "enable"), .createGuest sampleGuestCall, .publish (samplePublish "renew")]).map
      (fun world => (world.tables.session "session-2").map fun row =>
        (row.authorityKind, browserAuthorityValid sampleServer.access world.tables row 3000000 false)) =
      some (some (.temporaryPassword, true)) := by decide +kernel
  obtain ⟨world, ran, view⟩ := map_eq_some_iff.mp ran
  obtain ⟨row, there, same⟩ := map_eq_some_iff.mp view
  obtain ⟨kind, valid⟩ := Prod.ext_iff.mp same
  obtain ⟨guest, _, bounded⟩ :=
    (guest_authority_bounded fresh_sampleWorld (run_reach ran) there kind).1 3000000 valid
  exact ⟨world, row, guest, there, bounded⟩

end MiniRemoteDesktop.Browser
