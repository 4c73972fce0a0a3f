/-
**Published access moves only forward.**

* `reach_evolution` — what no run takes back: pins, publications, sessions.
* `temporaryAccess_moves_forward` — **replayed documents have no effect**, disabled access needs a new
  generation, and a new generation revokes what was still requested.
-/

import MiniRemoteDesktop.Browser.Runs

namespace MiniRemoteDesktop.Browser

open Checked Execution Rows
open Relay.Server (unixMs)

variable {server : Server}

/-! ### Along a run -/

variable {allowed : World → Event → Prop} {world : World}

theorem reach_known {start : World} (reach : Reach (World.step server) allowed start world)
    (known : Known start.tables) :
    Known world.tables :=
  reach.invariant (I := fun world => Known world.tables) known
    fun _ _ _ known _ taken => (step_evolution known taken).known

/-- **What no run takes back.** -/
structure Later (before after : Tables) : Prop where
  pins : ∀ id mapping, before.identityOf id = some mapping → after.identityOf id = some mapping
  access : ∀ id, Advances (before.accessOf id) (after.accessOf id)
  sessions : ∀ id row, before.session id = some row → before.isRemote row = true →
    ∃ later, after.session id = some later ∧ after.isRemote later = true ∧ Continues row later

theorem Later.refl (tables : Tables) : Later tables tables :=
  ⟨fun _ _ pinned => pinned, fun _ => Advances.refl _,
    fun _ row there remote => ⟨row, there, remote, Continues.refl row⟩⟩

theorem Later.trans {before middle after : Tables} (first : Later before middle)
    (second : Later middle after) : Later before after where
  pins id mapping pinned := second.pins id mapping (first.pins id mapping pinned)
  access id row there := by
    obtain ⟨between, found, extended⟩ := first.access id row there
    obtain ⟨later, found', extended'⟩ := second.access id between found
    exact ⟨later, found', extended.trans extended'⟩
  sessions id row there remote := by
    obtain ⟨between, found, remote', continues⟩ := first.sessions id row there remote
    obtain ⟨later, found', remote'', continues'⟩ := second.sessions id between found remote'
    exact ⟨later, found', remote'', continues.trans continues'⟩

theorem later_of_evolution {New : SessionRequest → Prop} {before after : Tables} (known : Known before)
    (evolution : Evolution New before after) : Later before after where
  pins := evolution.pins
  access := evolution.access
  sessions id row there remote := by
    obtain ⟨later, found, continues⟩ := evolution.sessions id row there remote
    have same := isRemote_continues known evolution.devices there continues
    exact ⟨later, found, same.trans remote, continues⟩

theorem reach_later {start : World} (reach : Reach (World.step server) allowed start world)
    (known : Known start.tables) :
    Later start.tables world.tables := by
  have both : Known world.tables ∧ Later start.tables world.tables := by
    refine reach.invariant (I := fun world => Known world.tables ∧ Later start.tables world.tables)
      ⟨known, Later.refl _⟩ ?_
    intro middle event later ⟨known, before⟩ _ taken
    have evolution := step_evolution known taken
    exact ⟨evolution.known, before.trans (later_of_evolution known evolution)⟩
  exact both.2

/-! ### The row of a document -/

variable {service : TemporaryAccessService} {view before after : Tables} {call : PublishCall}
  {document : TemporaryAccessDocument} {device : Device}

/-- A document that had an effect is what its device has published. -/
theorem published_row (published : Published service view before call document device after)
    (effect : after ≠ before) :
    ∃ row, after.accessOf device.id = some row ∧ row.generation = document.generation ∧
      row.expiresAt = document.expiresAt ∧ row.enabled = document.enabled := by
  cases published with
  | repeated => exact absurd rfl effect
  | renewed row stored renewing soon =>
    have own : row.deviceRowId = device.id := row_key stored
    obtain ⟨generation, enabled, enabled', _⟩ := of_decide_eq_true renewing
    exact ⟨renewedRow service row call.payload document call.now,
      (accessOf_put rfl (renewedRow_owner stored) device.id).trans (if_pos rfl), generation.symm, rfl,
        enabled'.trans enabled.symm⟩
  | replaced newer pinned free soon =>
    exact ⟨_, (accessOf_put rfl rfl device.id).trans (if_pos rfl), rfl, rfl, rfl⟩

theorem document_read {payload : TemporaryAccessPublishIn} (signed : service.document payload = some document) :
    service.readDocument payload.accessJson = some document := by
  unfold TemporaryAccessService.document at signed
  dsimp only at signed
  split at signed
  · cases signed
  · exact (Option.filter_eq_some_iff.mp signed).1

/-- **A document that was published before**, or one of an older generation, has no effect. -/
theorem published_again (published : Published service view before call document device after)
    {row later : DeviceTemporaryAccess} (generation : row.generation = document.generation)
    (expiry : row.expiresAt = document.expiresAt) (stored : before.accessOf device.id = some later)
    (extended : Extended row later) : after = before := by
  have up := extended.generation
  cases published with
  | repeated => rfl
  | renewed other found renewing soon =>
    cases Option.some.inj (stored.symm.trans found)
    obtain ⟨same, _, _, _, _, ⟨old, held, new, wanted, longer⟩, _⟩ := of_decide_eq_true renewing
    have wanted' : row.expiresAt = some new := expiry.trans wanted
    rcases extended.lease (generation.trans same) with kept | ⟨first, second, began, reached, grown⟩
    · have both : some new = some old := wanted'.symm.trans (kept.symm.trans held)
      exact absurd longer (Option.some.inj both ▸ lt_irrefl _)
    · cases Option.some.inj (wanted'.symm.trans began)
      cases Option.some.inj (held.symm.trans reached)
      exact absurd longer grown.not_gt
  | replaced newer pinned free soon =>
    have down := newer later stored
    omega

theorem lease_soon (soon : expiresSoon document call.now = true) {expiry : Nat}
    (wanted : document.expiresAt = some expiry) : expiry ≤ call.now + 600 * 1000000 := by
  unfold TemporaryAccessDocument.expiresAt at wanted
  unfold expiresSoon at soon
  split at wanted
  next enabled =>
    rw [enabled, Bool.not_true, Bool.false_or] at soon
    obtain ⟨milliseconds, there, fits⟩ := (Option.any_eq_true _ _).mp soon
    rw [there, Option.map_some] at wanted
    have limit := of_decide_eq_true (Bool.and_eq_true_iff.mp fits).2
    have floor := Nat.div_mul_le_self call.now 1000
    unfold unixMs at limit
    have same := Option.some.inj wanted
    omega
  · cases wanted

/-! ### Forward -/

/-- **Published access moves forward** from a world on: `row` and `pin` along every run, `lease` and
`revokes` at every publication, `replay` for every document that had an effect. -/
structure MovesForward (server : Server) (world : World) : Prop where
  row : ∀ later, Reach (World.step server) always world later →
    ∀ id, Advances (world.tables.accessOf id) (later.tables.accessOf id)
  pin : ∀ later, Reach (World.step server) always world later → ∀ id mapping,
    world.tables.identityOf id = some mapping → later.tables.identityOf id = some mapping
  lease : ∀ call later, world.step server (.publish call) = some later → ∀ id before after,
    world.tables.accessOf id = some before → later.tables.accessOf id = some after →
    before.generation = after.generation → after.expiresAt ≠ before.expiresAt →
    ∃ expiry, after.expiresAt = some expiry ∧ expiry ≤ call.now + 600 * 1000000
  replay : ∀ call applied, world.step server (.publish call) = some applied →
    applied.tables ≠ world.tables → ∀ later, Reach (World.step server) always applied later →
    ∀ again : PublishCall, again.payload.accessJson = call.payload.accessJson →
    again.snapshot.rowId = call.snapshot.rowId → ∀ after, later.step server (.publish again) = some after →
    after.tables = later.tables
  revokes : ∀ call later, world.step server (.publish call) = some later → ∀ id access,
    later.tables.accessOf id = some access →
    (∀ before, world.tables.accessOf id = some before → before.generation < access.generation) →
    ∀ sessionId session, world.tables.session sessionId = some session → session.targetDeviceId = id →
    session.authorityKind = .temporaryPassword →
    (session.status = .requested ∨ session.status = .approved ∧ access.enabled = false) →
    ∃ revoked, later.tables.session sessionId = some revoked ∧ revoked.status = .revoked

/-- A publication that is performed is an accepted one. -/
theorem step_publish {later : World} (taken : world.step server (.publish call) = some later) :
    later.tables = world.tables ∨ ∃ document device,
      Admitted server.access world.tables world.tables call document device ∧
      Published server.access world.tables world.tables call document device later.tables := by
  obtain ⟨_, rfl | ⟨after, performed, rfl⟩⟩ := step_cases taken
  · exact .inl rfl
  · exact .inr (publish_ok (ok_of_toOption performed))

/-- **Temporary access that was published moves only forward.** -/
theorem temporaryAccess_moves_forward {start world : World} (fresh : Fresh start)
    (reach : Reach (World.step server) always start world) : MovesForward server world := by
  have known := reach_known reach (known_fresh fresh)
  refine ⟨fun later run => (reach_later run known).access, fun later run => (reach_later run known).pins,
    ?_, ?_, ?_⟩
  · intro call later taken id before after found found' generation changed
    rcases step_publish taken with same | ⟨document, device, _, published⟩
    · rw [same] at found'
      cases Option.some.inj (found.symm.trans found')
      exact absurd rfl changed
    generalize tables : later.tables = published' at published found'
    cases published with
    | repeated =>
      cases Option.some.inj (found.symm.trans found')
      exact absurd rfl changed
    | renewed row stored renewing soon =>
      rw [accessOf_put rfl (renewedRow_owner stored)] at found'
      by_cases own : device.id = id
      · rw [if_pos own] at found'
        cases found'
        obtain ⟨_, _, _, _, _, ⟨old, held, new, wanted, longer⟩, _⟩ := of_decide_eq_true renewing
        exact ⟨new, wanted, lease_soon soon wanted⟩
      · rw [if_neg own] at found'
        cases Option.some.inj (found.symm.trans found')
        exact absurd rfl changed
    | replaced newer pinned free soon =>
      have found' := (accessOf_put rfl (Eq.refl device.id) id).symm.trans found'
      by_cases own : device.id = id
      · rw [if_pos own] at found'
        cases found'
        exact absurd generation (newer before (own ▸ found)).ne
      · rw [if_neg own] at found'
        cases Option.some.inj (found.symm.trans found')
        exact absurd rfl changed
  · intro call applied taken effect later run again same rowId after taken'
    rcases step_publish taken' with done | ⟨document', device', admitted', published'⟩
    · exact done
    rcases step_publish taken with none | ⟨document, device, admitted, published⟩
    · exact absurd none effect
    obtain ⟨row, found, generation, expiry, _⟩ := published_row published effect
    have own : device'.id = device.id := by
      rw [row_key admitted'.found, row_key admitted.found, rowId]
    have read := document_read admitted'.signed
    rw [same, document_read admitted.signed] at read
    cases Option.some.inj read
    obtain ⟨latest, found', extended⟩ :=
      (reach_later run (step_evolution known taken).known).access device.id row found
    exact published_again published' generation expiry (own ▸ found') extended
  · intro call later taken id access found newer sessionId session there target guest status
    rcases step_publish taken with same | ⟨document, device, _, published⟩
    · rw [same] at found
      exact absurd (newer access found) (lt_irrefl _)
    generalize tables : later.tables = published' at published found
    cases published with
    | repeated => exact absurd (newer access found) (lt_irrefl _)
    | renewed row stored renewing soon =>
      rw [accessOf_put rfl (renewedRow_owner stored)] at found
      by_cases own : device.id = id
      · rw [if_pos own] at found
        cases found
        exact absurd (newer row (own ▸ stored)) (lt_irrefl _)
      · rw [if_neg own] at found
        exact absurd (newer access found) (lt_irrefl _)
    | replaced newer' pinned free soon =>
      have found := (accessOf_put rfl (Eq.refl device.id) id).symm.trans found
      by_cases own : device.id = id
      · rw [if_pos own] at found
        cases found
        have hit : revokedByPublication device.id document.enabled session = true := by
          unfold revokedByPublication
          rw [target, own, guest, decide_eq_true rfl, decide_eq_true rfl]
          rcases status with requested | ⟨approved, disabled⟩
          · simp [requested]
          · simp [approved, show document.enabled = false from disabled]
        refine ⟨session.revokedAt call.later, ?_, rfl⟩
        refine (session_revokeGuests _ device.id document.enabled call.later sessionId).trans ?_
        refine (congrArg (Option.map _) there).trans ?_
        simp [hit]
      · rw [if_neg own] at found
        exact absurd (newer access found) (lt_irrefl _)

/-! ### A device that publishes -/

def sampleKey : String := "0101010101010101010101010101010101010101010101010101010101010101"

/-- The documents of a device: a password for its first generation, a longer lease, another password, and
none. -/
def sampleDocument : String → Option TemporaryAccessDocument
  | "enable" => some ⟨"0000000001", 1, 1, true, some 60000, some "00000000000000000000000000000000",
      some "4142434445464748000000000000000000000000000000000000000000000000", ["screen.view"]⟩
  | "renew" => some ⟨"0000000001", 1, 1, true, some 90000, some "00000000000000000000000000000000",
      some "4142434445464748000000000000000000000000000000000000000000000000", ["screen.view"]⟩
  | "rotate" => some ⟨"0000000001", 1, 2, true, some 90000, some "00000000000000000000000000000000",
      some "4242434445464748000000000000000000000000000000000000000000000000", ["screen.view"]⟩
  | "disable" => some ⟨"0000000001", 1, 2, false, none, none, none, []⟩
  | _ => none

def sampleServer : Server where
  access :=
    { apiUrl := "https://relay.example"
      sha256 := id
      hmac := id
      pbkdf2 := fun password salt => password ++ salt ++ List.replicate 8 0
      verifies := fun _ _ _ => true
      readDocument := sampleDocument }
  enrollment :=
    { apiUrl := "https://relay.example"
      ttlSeconds := 60
      globalPerMinute := 1000
      ipPerMinute := 30
      keyPerMinute := 5
      sha256 := id
      serialDigest := id
      codeOfDigest := id
      verifies := fun _ _ _ => true
      readRegistration := fun
        | "machine" => some ⟨"serial", "host", "Linux 6"⟩
        | _ => none }

def sampleDevice : Device where
  id := "row-1"
  deviceId := "0000000001"
  principalKind := .physical
  tenantId := "default"
  isBound := true
  boundUserId := some "user-1"
  authVersion := 1
  authRevokedAt := none
  motherboardSerialDigest := none
  hostname := none
  osVersion := none
  os := "Linux"

def sampleWorld : World where
  tables :=
    { devices := [sampleDevice]
      users := [⟨"user-1", "default", 1, "user"⟩]
      identities := []
      access := []
      controllers := []
      sessions := []
      reservations := []
      challenges := [] }
  seen := []
  guests := []

def samplePublish (accessJson : String) : PublishCall where
  snapshot := ⟨"row-1", "0000000001", "default", 1, none, true, some "user-1"⟩
  payload := ⟨sampleKey, sampleKey, accessJson, ""⟩
  now := 1000000
  later := 1000000

theorem fresh_sampleWorld : Fresh sampleWorld := ⟨rfl, rfl, rfl, rfl, rfl⟩

/-- A device publishes a password, extends its lease and takes it back. -/
theorem temporaryAccess_moves_forward_sample :
    ∃ world, (world.tables.accessOf "row-1").map (fun row => (row.generation, row.enabled, row.expiresAt)) =
        some (1, true, some 90000000) ∧ MovesForward sampleServer world := by
  have ran : (run (World.step sampleServer) sampleWorld
      [.publish (samplePublish "enable"), .publish (samplePublish "renew")]).map
      (fun world => (world.tables.accessOf "row-1").map fun row =>
        (row.generation, row.enabled, row.expiresAt)) =
      some (some (1, true, some 90000000)) := by decide +kernel
  obtain ⟨world, ran, view⟩ := Option.map_eq_some_iff.mp ran
  exact ⟨world, view, temporaryAccess_moves_forward fresh_sampleWorld (run_reach ran)⟩

end MiniRemoteDesktop.Browser
