/-
**What is left of a browser session that has ended.**

The browser that closes its session and the publication that revokes it take the authority of its key
away. A device that rejects, closes or revokes the session changes only its status, which the check of
authority does not read.

* `Spares` — the step ends no live browser session through the device interface, an approved guest of an
  older generation apart; `finished_session_unauthorized` — **along runs of such steps an ended session
  has no authority**.
* `rejected_session_keeps_authority` — and otherwise it may have.
-/

import MiniRemoteDesktop.Browser.Forward

namespace MiniRemoteDesktop.Browser

open Checked Execution Rows
open Relay.Server (SessionStatus TransitionAction)

variable {server : Server}

/-! ### The steps -/

/-- The device ends the session, which is not yet over. -/
def ends (service : TemporaryAccessService) (tables : Tables) (row : SessionRequest) (current : Device)
    (action : TransitionAction) (now : Nat) : Prop :=
  isAvailable service tables row current now = true ∧
    (action = .close ∨ row.targetDeviceId = current.id) ∧ row.status ∈ action.expected

/-- The session is a guest's, of a generation before the current one. -/
def OfOlderGeneration (tables : Tables) (row : SessionRequest) : Prop :=
  row.authorityKind = .temporaryPassword ∧ ∃ generation access,
    row.temporaryAccessGeneration = some generation ∧ tables.accessOf row.targetDeviceId = some access ∧
      generation < access.generation

/-- **The step spares live browser sessions**: no device ends one, unless its generation is over. -/
def Spares (server : Server) (world : World) : Event → Prop
  | .transition sessionId current action now => ∀ row, world.tables.session sessionId = some row →
      world.tables.isBrowser row = true → ends server.access world.tables row current action now →
      OfOlderGeneration world.tables row
  | _ => True

/-! ### What ends a session -/

variable {before after : Tables}

variable {row later : SessionRequest}

theorem unauthorized_stays {New : SessionRequest → Prop} (evolution : Evolution New before after)
    {id : String} (there : before.session id = some row) (continues : Continues row later)
    (lost : Unauthorized before row) : Unauthorized after later := by
  have own : row.id = id := row_key there
  rcases lost with ⟨all⟩ | ⟨guest, past, generation, given, access, current, older⟩
  · refine .revoked fun controller member same => ?_
    have mine : controller.sessionId = id := same.trans (continues.id.trans own)
    have known : before.session controller.sessionId ≠ none := by
      simp [mine, there]
    obtain ⟨old, stood, linked, revoked⟩ := evolution.controllers controller member known
    exact revoked (all old stood (linked.trans (mine.trans own.symm)))
  · obtain ⟨latest, found, extended⟩ := evolution.access row.targetDeviceId access current
    exact .superseded (continues.kind.trans guest) (continues.past past) generation
      (continues.generation.trans given) latest (continues.target ▸ found)
      (older.trans_le extended.generation)

/-- The sessions that come to their end have no authority. -/
def Settles (before after : Tables) : Prop :=
  ∀ id row later, before.session id = some row → before.isBrowser row = true →
    ended row.status = false → after.session id = some later → ended later.status = true →
    Unauthorized after later

theorem settles_of_same (same : ∀ id row, before.session id = some row → before.isBrowser row = true →
    after.session id = some row) : Settles before after := by
  intro id row later there browser live found past
  cases Option.some.inj ((same id row there browser).symm.trans found)
  simp [live] at past

theorem settles_put {sessionId : String} (there : before.session sessionId = some row)
    (continues : Continues row later)
    (written : after.sessions = put SessionRequest.id before.sessions later)
    (settled : before.isBrowser row = true → ended row.status = false → ended later.status = true →
      Unauthorized after later) :
    Settles before after := by
  intro id other ended' found browser live found' past
  have mine : row.id = sessionId := row_key there
  rw [session_put written id continues.id] at found'
  by_cases same : row.id = id
  · rw [if_pos same] at found'
    cases found'
    have found'' : some row = some other := by rw [← there, ← found, ← same, mine]
    cases found''
    exact settled browser live past
  · rw [if_neg same] at found'
    have found'' : before.session id = some ended' := found'
    cases Option.some.inj (found.symm.trans found'')
    simp [live] at past

/-- The controllers of a session that is named are revoked. -/
theorem revokeControllers_revoked {sessionIds : List String} {now : Nat} {controllers : List BrowserController}
    {controller : BrowserController} (member : controller ∈ revokeControllers sessionIds now controllers)
    (named : controller.sessionId ∈ sessionIds) : controller.revokedAt.isSome := by
  obtain ⟨old, _, made⟩ := List.mem_map.mp member
  split at made
  · simp [← made]
  next unnamed =>
    rw [← made] at named
    exact absurd named unnamed

theorem settles_published {service : TemporaryAccessService} {view : Tables} {call : PublishCall}
    {document : TemporaryAccessDocument} {device : Device}
    (published : Published service view before call document device after) : Settles before after := by
  cases published with
  | repeated | renewed => exact settles_of_same fun _ _ there _ => there
  | replaced newer pinned free soon =>
    intro id row later there browser live found past
    have found := (session_revokeGuests _ device.id document.enabled call.later id).symm.trans found
    have found := (congrArg (Option.map _) there).symm.trans found
    rw [Option.map_some] at found
    have same := Option.some.inj found
    split at same
    next hit =>
      -- The controllers of the sessions that a publication revokes are revoked with them.
      refine .revoked fun controller member own => ?_
      have named : later.id ∈ (before.sessions.filter
          (revokedByPublication device.id document.enabled)).map (·.id) := by
        rw [← same]
        exact List.mem_map.mpr ⟨row, List.mem_filter.mpr ⟨row_mem there, hit⟩, rfl⟩
      exact revokeControllers_revoked member (own.symm ▸ named)
    · simp [← same, live] at past

variable {event : Event}

theorem ended_of_requested {tables : Tables} (requests : Requests server tables event row) :
    ended row.status = false := by
  cases requests <;> rfl

/-- **Every step that spares live sessions settles what it ends.** -/
theorem settles_performed {world : World} (spares : Spares server world event)
    (performed : event.perform server world.tables = some after) :
    Settles world.tables after := by
  cases event with
  | publish call =>
    obtain ⟨document, device, _, published⟩ := publish_ok (ok_of_toOption performed)
    exact settles_published published
  | issue call =>
    obtain ⟨_, challenges, rfl⟩ := issue_ok (ok_of_toOption performed)
    exact settles_of_same fun _ _ there _ => there
  | register call =>
    obtain ⟨challenge, enrolled, _, outcome, rfl⟩ := register_ok (ok_of_toOption performed)
    cases outcome <;> exact settles_of_same fun _ _ there _ => there
  | createGuest call =>
    obtain ⟨_, _, _, _, _, _, ⟨rfl, _⟩ | inserted⟩ := createGuest_ok (ok_of_toOption performed)
    · exact settles_of_same fun _ _ there _ => there
    · exact settles_of_same fun id row there _ => by
        rw [session_inserted inserted, if_neg, there]
        intro own
        simp [← own, inserted.newSession] at there
  | createAccount call =>
    obtain ⟨_, rfl | ⟨owner, target, inserted⟩⟩ := createAccount_ok (ok_of_toOption performed)
    · exact settles_of_same fun _ _ there _ => there
    · exact settles_of_same fun id row there _ => by
        rw [session_inserted inserted, if_neg, there]
        intro own
        simp [← own, inserted.newSession] at there
  | approve call =>
    obtain rfl | ⟨row, reservations, there, requested, rfl⟩ := approve_ok (ok_of_toOption performed)
    · exact settles_of_same fun _ _ there _ => there
    · exact settles_put there (continues_granted requested call) rfl nofun
  | transition sessionId current action now =>
    obtain ⟨row, there, available, entitled, ⟨_, rfl⟩ | ⟨expected, rfl⟩⟩ :=
      transition_ok (ok_of_toOption performed)
    · exact settles_of_same fun _ _ there _ => there
    · refine settles_put there (continues_endedBy row action now) rfl fun browser _ past => ?_
      obtain ⟨guest, generation, access, given, current', older⟩ :=
        spares row there browser ⟨available, entitled, expected⟩
      exact .superseded guest past generation given access current' older
  | close call =>
    obtain ⟨shadow, closed, ended', rfl⟩ := closeBrowser_ok (ok_of_toOption performed)
    obtain ⟨row, there, _, _, ⟨_, rfl⟩ | ⟨_, rfl⟩⟩ := transition_ok ended'
    · exact settles_of_same fun _ _ there _ => there
    · refine settles_put there (continues_endedBy row .close call.now) rfl fun _ _ _ =>
        .revoked fun controller member own => ?_
      have mine : row.id = call.sessionId := row_key there
      exact revokeControllers_revoked member (List.mem_singleton.mpr (own.trans mine))
  | elsewhere other =>
    change (if leavesAlone world.tables other then some other else none) = some after at performed
    split at performed
    next leaves =>
      cases performed
      exact settles_of_same fun id row there browser => leavesAlone_sessions leaves there
        (by rw [Tables.isRemote, browser, Bool.or_true])
    · cases performed

/-! ### Runs -/

/-- Ended browser sessions have no authority. -/
def Finished (tables : Tables) : Prop :=
  ∀ id row, tables.session id = some row → tables.isBrowser row = true → ended row.status = true →
    Unauthorized tables row

theorem finished_step {world later : World} (known : Known world.tables)
    (finished : Finished world.tables) (spares : Spares server world event)
    (taken : world.step server event = some later) : Finished later.tables := by
  obtain ⟨_, rfl | ⟨after, performed, rfl⟩⟩ := step_cases taken
  · exact finished
  have evolution := perform_evolution known performed
  intro id row there browser past
  rcases evolution.arrivals id row there (by rw [Tables.isRemote, browser, Bool.or_true]) with
    ⟨old, stood, remote, continues⟩ | ⟨_, requests⟩
  · have browser' : world.tables.isBrowser old = true :=
      (isBrowser_continues known evolution.devices stood continues).symm.trans browser
    cases live : ended old.status with
    | true => exact unauthorized_stays evolution stood continues (finished id old stood browser' live)
    | false => exact settles_performed spares performed id old row stood browser' live there past
  · simp [ended_of_requested requests] at past

/-- **Along runs that spare live sessions, an ended browser session has no authority**, at any time. -/
theorem finished_session_unauthorized {start world : World} (fresh : Fresh start)
    (reach : Reach (World.step server) (Spares server) start world) {id : String} {row : SessionRequest}
    (there : world.tables.session id = some row) (browser : world.tables.isBrowser row = true)
    (past : row.status = .rejected ∨ row.status = .closed ∨ row.status = .revoked) (time : Nat) :
    browserAuthorityValid server.access world.tables row time false = false := by
  have both : Known world.tables ∧ Finished world.tables := by
    refine reach.invariant (I := fun world => Known world.tables ∧ Finished world.tables)
      ⟨known_fresh fresh, fun id row there _ _ => ?_⟩ ?_
    · unfold Tables.session at there
      rw [fresh.sessions] at there
      cases there
    · intro middle event later ⟨known, finished⟩ spares taken
      exact ⟨(step_evolution known taken).known, finished_step known finished spares taken⟩
  have past : ended row.status = true := by rcases past with same | same | same <;> rw [same] <;> rfl
  obtain ⟨device, found, kind⟩ := (Option.any_eq_true _ _).mp browser
  exact not_valid_of_unauthorized (both.2 id row there browser past) found (of_decide_eq_true kind) time

/-! ### A session that is requested and rejected -/

/-- A user asks for their own device. -/
def sampleAccountCall : AccountCreateCall where
  payload :=
    { controllerPublicKey := List.replicate 32 2
      sessionId := "session-1"
      idempotencyKey := List.replicate 16 1
      targetDeviceId := "0000000001"
      accessMode := "attended"
      requestedScopes := ["screen.view"]
      requestedProfile := none
      routePolicy := "relay_only" }
  user := ⟨"user-1", "default", 1, "user"⟩
  now := 1000000
  shadowRowId := "row-2"
  shadowCode := "00"

/-- What is looked at of the session. -/
def sampleView (world : World) : Option (Bool × SessionStatus × Bool) :=
  (world.tables.session "session-1").map fun row =>
    (world.tables.isBrowser row, row.status,
      browserAuthorityValid sampleServer.access world.tables row 3000000 false)

/-- The publication of the sample device, as the guest finds it. -/
def sampleAccess : DeviceTemporaryAccess :=
  publishedRow sampleServer.access sampleDevice (samplePublish "enable").payload
    ((sampleDocument "enable").getD ⟨"", 0, 0, false, none, none, none, []⟩) 1000000

def sampleGuestCall : GuestCreateCall where
  payload :=
    { controllerPublicKey := List.replicate 32 3
      sessionId := "session-2"
      idempotencyKey := List.replicate 16 1
      targetDeviceId := "0000000001"
      accessMode := "attended"
      requestedScopes := ["screen.view"]
      requestedProfile := none
      routePolicy := "relay_only" }
  temporaryPassword := "ABCDEFGH"
  previewTarget := some "row-1"
  previewAccess := some sampleAccess
  now := 2000000
  later := 2000000
  shadowRowId := "row-3"
  shadowCode := "01"

/-- The device lets the guest in. -/
def sampleApprove : ApproveCall where
  sessionId := "session-2"
  callerId := "row-1"
  authorized := true
  repeats := false
  approvedScopes := ["screen.view"]
  approvedProfile := none
  grantExpiresAt := 50000000
  policyExpiresAt := 50000000
  created := some []
  now := 2500000
  later := 2500000

/-- `OfOlderGeneration`, computed. -/
def isOfOlderGeneration (tables : Tables) (row : SessionRequest) : Bool :=
  row.authorityKind = .temporaryPassword && row.temporaryAccessGeneration.any fun generation =>
    (tables.accessOf row.targetDeviceId).any fun access => generation < access.generation

/-- The browser closes one session, and the device that of a guest whose password it has replaced: no
authority is left of either. -/
theorem finished_session_unauthorized_sample : ∃ (world : World) (row guest : SessionRequest),
    world.tables.session "session-1" = some row ∧ row.status = .closed ∧
      browserAuthorityValid sampleServer.access world.tables row 3000000 false = false ∧
    world.tables.session "session-2" = some guest ∧ guest.status = .closed ∧
      browserAuthorityValid sampleServer.access world.tables guest 3000000 false = false := by
  have ran : (runChecked (fun world event => match event with
        | .transition id _ _ _ => (world.tables.session id).all (isOfOlderGeneration world.tables)
        | _ => true) (World.step sampleServer) sampleWorld
      [.createAccount sampleAccountCall, .close ⟨"session-1", true, 2000000, 2000000⟩,
        .publish (samplePublish "enable"), .createGuest sampleGuestCall, .approve sampleApprove,
        .publish (samplePublish "rotate"), .transition "session-2" sampleDevice .close 2900000]).bind
      (fun world => (world.tables.session "session-1").bind fun row =>
        (world.tables.session "session-2").map fun guest =>
          ((world.tables.isBrowser row, row.status), world.tables.isBrowser guest, guest.status)) =
      some ((true, .closed), true, .closed) := by decide +kernel
  obtain ⟨world, ran, view⟩ := Option.bind_eq_some_iff.mp ran
  obtain ⟨row, there, view⟩ := Option.bind_eq_some_iff.mp view
  obtain ⟨guest, beside, same⟩ := Option.map_eq_some_iff.mp view
  obtain ⟨one, other⟩ := Prod.mk.inj same
  obtain ⟨browser, closed⟩ := Prod.mk.inj one
  obtain ⟨browser', closed'⟩ := Prod.mk.inj other
  have reach : Reach (World.step sampleServer) (Spares sampleServer) sampleWorld world :=
    runChecked_reach ran fun world event passed => by
      cases event with
      | transition id current action now =>
        intro row there _ _
        simpa [isOfOlderGeneration, OfOlderGeneration, there, Option.any_eq_true, and_assoc] using passed
      | _ => exact trivial
  have unauthorized := fun {id row} => @finished_session_unauthorized _ _ _ fresh_sampleWorld reach id row
  exact ⟨world, row, guest, there, closed, unauthorized there browser (.inr (.inl closed)) 3000000,
    beside, closed', unauthorized beside browser' (.inr (.inl closed')) 3000000⟩

/-- **The device rejects a session of an account**, which has its authority as before. -/
theorem rejected_session_keeps_authority : ∃ (world : World) (row : SessionRequest), Fresh sampleWorld ∧
    Reach (World.step sampleServer) always sampleWorld world ∧
      world.tables.session "session-1" = some row ∧ world.tables.isBrowser row = true ∧
      row.status = .rejected ∧
      browserAuthorityValid sampleServer.access world.tables row 3000000 false = true := by
  have ran : (run (World.step sampleServer) sampleWorld
      [.createAccount sampleAccountCall, .transition "session-1" sampleDevice .reject 2000000]).map sampleView =
      some (some (true, .rejected, true)) := by decide +kernel
  obtain ⟨world, ran, view⟩ := Option.map_eq_some_iff.mp ran
  obtain ⟨row, there, same⟩ := Option.map_eq_some_iff.mp view
  obtain ⟨browser, same⟩ := Prod.ext_iff.mp same
  obtain ⟨status, valid⟩ := Prod.ext_iff.mp same
  exact ⟨world, row, fresh_sampleWorld, run_reach ran, there, browser, status, valid⟩

end MiniRemoteDesktop.Browser
