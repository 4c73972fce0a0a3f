/-
**Availability is earned, and revocation is final.**

A relay node is in service while it is available. It gets there by three healthy heartbeats in a row, and a
certificate, a resume or a new secret makes it start again.

* `Earned` — **the invariant**: the streak counts healthy heartbeats, and a node in service was moved there
  by the third of them.
* `availability_earned` — **what holds of a node in service and of a revoked one, over every run**.
-/

import MiniRemoteDesktop.Registry.Runs

namespace MiniRemoteDesktop.Registry

open Option (map_eq_some_iff mem_def)
open Execution
open Relay.Server (NodeState RegistrationStatus)
open RelayNode

/-! ### Heartbeats since the last restart -/

/-- **A restart**: a pickup that issues the certificate, a resume, or a commit that takes effect. -/
def Operation.restarts (before : Entry) : Operation → Bool
  | pickup _ => before.unissued
  | transition .resume => true
  | commitSecretRotation call => before.node.any fun node => !node.committedExact call
  | _ => false

def Operation.heartbeat : Operation → Option HeartbeatCall
  | recordHeartbeat call => some call
  | _ => none

/-- **The heartbeats since the last restart**, the last one first. -/
def recentHeartbeats : List (Operation × Entry) → List HeartbeatCall
  | [] => []
  | (operation, _) :: earlier =>
    if operation.restarts (latest earlier) then []
    else operation.heartbeat.toList ++ recentHeartbeats earlier

/-- How many of them are healthy before one is not. -/
def healthyRun (log : List (Operation × Entry)) : Nat :=
  ((recentHeartbeats log).takeWhile HeartbeatCall.healthy).length

variable {registry : RelayRegistry} {log : List (Operation × Entry)} {operation : Operation}
  {entry after : Entry}

variable {call : HeartbeatCall}

theorem healthyRun_healthy (healthy : call.healthy = true) :
    healthyRun ((.recordHeartbeat call, after) :: log) = healthyRun log + 1 := by
  have same : recentHeartbeats ((.recordHeartbeat call, after) :: log) = call :: recentHeartbeats log := rfl
  unfold healthyRun
  rw [same, List.takeWhile_cons_of_pos healthy, List.length_cons]

theorem healthyRun_kept (quiet : operation.heartbeat = none)
    (kept : operation.restarts (latest log) = false) :
    healthyRun ((operation, after) :: log) = healthyRun log := by
  have same : recentHeartbeats ((operation, after) :: log) = recentHeartbeats log := by
    simp [recentHeartbeats, Bool.eq_false_iff.mp kept, quiet]
  unfold healthyRun
  rw [same]

/-- The last three heartbeats since the last restart were healthy. -/
def ThreeHealthy (log : List (Operation × Entry)) : Prop :=
  ∃ third second first rest, recentHeartbeats log = third :: second :: first :: rest ∧
    third.healthy ∧ second.healthy ∧ first.healthy

theorem threeHealthy (long : 3 ≤ healthyRun log) : ThreeHealthy log := by
  unfold healthyRun at long
  obtain ⟨third, second, first, healthy, initial⟩ : ∃ third second first healthy,
      (recentHeartbeats log).takeWhile HeartbeatCall.healthy = third :: second :: first :: healthy := by
    match listed : (recentHeartbeats log).takeWhile HeartbeatCall.healthy with
    | [] | [_] | [_, _] =>
      simp [listed] at long
    | third :: second :: first :: healthy => exact ⟨third, second, first, healthy, rfl⟩
  have all : ∀ call ∈ third :: second :: first :: healthy, HeartbeatCall.healthy call = true :=
    fun call member => List.mem_takeWhile_imp (initial ▸ member)
  refine ⟨third, second, first, healthy ++ (recentHeartbeats log).dropWhile HeartbeatCall.healthy, ?_,
    all third (by simp), all second (by simp), all first (by simp)⟩
  calc recentHeartbeats log = (recentHeartbeats log).takeWhile HeartbeatCall.healthy ++
          (recentHeartbeats log).dropWhile HeartbeatCall.healthy := List.takeWhile_append_dropWhile.symm
    _ = _ := by rw [initial, List.cons_append, List.cons_append, List.cons_append]

/-! ### What an operation makes of a node -/

/-- **An operation other than a heartbeat**: the streak is kept or forgotten, and a node comes into service
by none. -/
structure Quiet (before : Entry) (operation : Operation) (next : RelayNode) : Prop where
  streak : next.healthyHeartbeatStreak = 0 ∨ operation.restarts before = false ∧
    ∃ old ∈ before.node, next.healthyHeartbeatStreak = old.healthyHeartbeatStreak
  state : (next.state ≠ .available ∧ next.state ≠ .degraded) ∨ operation.restarts before = false ∧
    ∃ old ∈ before.node, next.state = old.state ∧
      (old.effectiveDraining = false → next.effectiveDraining = false)

theorem Quiet.kept {old next : RelayNode} (found : entry.node = some old)
    (quiet : operation.restarts entry = false) (state : next.state = old.state)
    (streak : next.healthyHeartbeatStreak = old.healthyHeartbeatStreak)
    (draining : old.effectiveDraining = false → next.effectiveDraining = false) :
    Quiet entry operation next :=
  ⟨.inr ⟨quiet, old, found, streak⟩, .inr ⟨quiet, old, found, state, draining⟩⟩

variable {node : RelayNode}

theorem effectiveDraining_of_challenge (challenged : node.rotationChallenge.isSome) :
    node.effectiveDraining = true := by
  unfold effectiveDraining rotationInFlight
  simp [challenged]

theorem effectiveDraining_of_not_inFlight (desired : node.desiredDraining = false)
    (idle : node.rotationInFlight = false) : node.effectiveDraining = false := by
  simp [effectiveDraining, desired, idle]

theorem rotationInFlight_renewed (node : RelayNode) (fingerprint : String) (sequence : Int) :
    (node.renewed fingerprint sequence).rotationInFlight = false := by
  unfold rotationInFlight renewed
  simp

theorem pending_standing {next : RelayNode} {call : UploadCall} {secretDigest encrypted : List UInt8}
    {audits : List String} (taken : node.pending call secretDigest encrypted = .ok (next, audits)) :
    next.state = node.state ∧ next.healthyHeartbeatStreak = node.healthyHeartbeatStreak := by
  unfold pending at taken
  split at taken
  · cases (Checked.refused_ok taken).2
    exact ⟨rfl, rfl⟩
  · cases taken
    exact ⟨rfl, rfl⟩

/-- **Each operation but a heartbeat is quiet.** -/
theorem quiet_of_effect (effect : Effect registry entry operation after)
    (other : operation.heartbeat = none) : ∀ next ∈ after.node, Quiet entry operation next := by
  have stopped : ∀ {next : RelayNode}, next.healthyHeartbeatStreak = 0 → next.state ≠ .available →
      next.state ≠ .degraded → Quiet entry operation next :=
    fun none out lower => ⟨.inl none, .inl ⟨out, lower⟩⟩
  cases effect with
  | enrollmentRepeated _ | approved _ _ _ | rotationKept _ _ _ =>
    exact fun next found => .kept found rfl rfl rfl id
  | pickupPending _ listed pending =>
    exact fun next found => .kept found (not_unissued_of_pending listed pending) rfl rfl id
  | pickupRepeated _ listed issued =>
    exact fun next found => .kept found (not_unissued_of_issued listed issued) rfl rfl id
  | heartbeat _ _ => cases other
  | enrolled _ _ _ =>
    intro next found
    obtain ⟨old, _, rfl⟩ := map_eq_some_iff.mp found
    exact stopped rfl (fun state => nomatch state) fun state => nomatch state
  | pickedUp _ _ _ _ _ =>
    intro next found
    have out : next.healthyHeartbeatStreak = 0 ∧ next.state = .unavailable := by
      unfold Entry.issueCertificate at found
      cases there : entry.node with
      | none | some old =>
        rw [there] at found
        cases Option.some.inj (mem_def.mp found)
        exact ⟨rfl, rfl⟩
    exact stopped out.1 (fun state => nomatch out.2.symm.trans state)
      fun state => nomatch out.2.symm.trans state
  | renewalRepeated numbered | rotationStatus numbered =>
    intro next found
    cases Option.some.inj (mem_def.mp found)
    exact .kept numbered.foundNode rfl rfl rfl id
  | commitRepeated numbered exact =>
    intro next found
    cases Option.some.inj (mem_def.mp found)
    refine .kept numbered.foundNode ?_ rfl rfl id
    simp [Operation.restarts, numbered.foundNode, exact]
  | @renewed _ node _ _ _ _ _ _ numbered _ _ =>
    intro next found
    cases Option.some.inj (mem_def.mp found)
    refine ⟨.inr ⟨rfl, node, numbered.foundNode, rfl⟩, ?_⟩
    cases desired : node.desiredDraining with
    | true =>
      refine .inl ?_
      simp [renewed, desired]
    | false =>
      refine .inr ⟨rfl, node, numbered.foundNode, ?_, fun _ => ?_⟩
      · simp [renewed, desired]
      · exact effectiveDraining_of_not_inFlight desired (rotationInFlight_renewed _ _ _)
  | rotationRequested _ _ _ =>
    intro next found
    cases Option.some.inj (mem_def.mp found)
    exact stopped rfl (fun state => nomatch state) fun state => nomatch state
  | uploaded numbered _ _ _ challenged taken =>
    intro next found
    cases Option.some.inj (mem_def.mp found)
    obtain ⟨state, streak⟩ := pending_standing taken
    exact .kept numbered.foundNode rfl state streak fun idle =>
      nomatch (effectiveDraining_of_challenge challenged).symm.trans idle
  | committed _ _ _ _ _ =>
    intro next found
    cases Option.some.inj (mem_def.mp found)
    refine stopped rfl ?_ ?_
    all_goals
      unfold committed
      split <;> exact fun state => nomatch state
  | drained there _ =>
    intro next found
    cases Option.some.inj (mem_def.mp found)
    exact ⟨.inr ⟨rfl, _, there, rfl⟩, .inl ⟨fun state => (nomatch state), fun state => nomatch state⟩⟩
  | resumed _ _ _ =>
    intro next found
    cases Option.some.inj (mem_def.mp found)
    exact stopped rfl (fun state => nomatch state) fun state => nomatch state
  | revoked _ =>
    intro next found
    obtain ⟨old, _, rfl⟩ := map_eq_some_iff.mp found
    exact stopped rfl (fun state => nomatch state) fun state => nomatch state

/-! ### What a heartbeat makes of a node -/

/-- **A heartbeat**: a node in service is one that was, or that had two healthy heartbeats before. -/
theorem afterHeartbeat_cases (node : RelayNode) (healthy : Bool) (now : Nat) :
    (healthy = false ∧ node.afterHeartbeat healthy now = (now, 0, .unavailable)) ∨
    (healthy = true ∧ ∃ lease streak state, node.afterHeartbeat healthy now = (lease, streak, state) ∧
      ((streak = node.healthyHeartbeatStreak ∧ state = .draining) ∨
        (node.effectiveDraining = false ∧ (node.state = .available ∨ node.state = .degraded) ∧
          streak = 3 ∧ state = node.state) ∨
        (node.effectiveDraining = false ∧ streak ≤ node.healthyHeartbeatStreak + 1 ∧
          (state = .unavailable ∨ node.state = .unavailable ∧ 2 ≤ node.healthyHeartbeatStreak ∧
            state = .available)))) := by
  cases healthy with
  | false => exact .inl ⟨rfl, rfl⟩
  | true =>
    refine .inr ⟨rfl, ?_⟩
    unfold afterHeartbeat
    rw [if_pos rfl]
    split
    · exact ⟨_, _, _, rfl, .inl ⟨rfl, rfl⟩⟩
    next working =>
      have idle : node.effectiveDraining = false := Bool.eq_false_of_not_eq_true (not_or.mp working).1
      split
      next serving =>
        exact ⟨_, _, _, rfl, .inr (.inl ⟨idle, serving.1, rfl, rfl⟩)⟩
      · split
        next out =>
          refine ⟨_, _, _, rfl, .inr (.inr ⟨idle, Nat.min_le_left _ _, ?_⟩)⟩
          split
          next twice =>
            exact .inr ⟨out, twice, rfl⟩
          · exact .inl rfl
        · exact ⟨_, _, _, rfl, .inr (.inr ⟨idle, Nat.le_add_left _ _, .inl rfl⟩)⟩

theorem effectiveDraining_heartbeat (node : RelayNode) (call : HeartbeatCall) (endpoints : List String) :
    (node.heartbeat call endpoints).effectiveDraining = node.effectiveDraining := rfl

/-! ### The invariant -/

/-- The node is in service. -/
def Entry.available (entry : Entry) : Prop := ∃ node ∈ entry.node, node.state = .available

/-- **A heartbeat moved the node into service**, where it has been since: the third healthy one in a row. -/
def MovedIn (log : List (Operation × Entry)) : Prop :=
  ∃ later call after earlier, log = later ++ (.recordHeartbeat call, after) :: earlier ∧
    (∀ done ∈ later, done.2.available) ∧ after.available ∧ ¬ (latest earlier).available ∧
    ThreeHealthy ((.recordHeartbeat call, after) :: earlier)

/-- **The invariant.** -/
structure Earned (history : History) : Prop where
  latest : latest history.log = history.entry
  streak : ∀ node ∈ history.entry.node, node.healthyHeartbeatStreak ≤ healthyRun history.log
  whole : ∀ node ∈ history.entry.node, node.state ≠ .degraded
  idle : ∀ node ∈ history.entry.node, node.state = .available → node.effectiveDraining = false
  long : ∀ node ∈ history.entry.node, node.state = .available → 3 ≤ healthyRun history.log
  moved : history.entry.available → MovedIn history.log

theorem earned_start : Earned .start where
  latest := rfl
  streak := fun _ found => nomatch found
  whole := fun _ found => nomatch found
  idle := fun _ found => nomatch found
  long := fun _ found => nomatch found
  moved := fun ⟨_, found, _⟩ => nomatch found

variable {history : History}

theorem Earned.stays (earned : Earned history) (was : history.entry.available) (still : after.available) :
    MovedIn ((operation, after) :: history.log) := by
  obtain ⟨later, call, moved, earlier, split, serving, rest⟩ := earned.moved was
  refine ⟨(operation, after) :: later, call, moved, earlier, ?_, ?_, rest⟩
  · simp [split]
  · exact List.forall_mem_cons.mpr ⟨still, serving⟩

theorem Earned.quiet (earned : Earned history) (effect : Effect registry history.entry operation after)
    (other : operation.heartbeat = none) : Earned ⟨after, (operation, after) :: history.log⟩ := by
  have quiet := quiet_of_effect effect other
  have runs : operation.restarts history.entry = false →
      healthyRun ((operation, after) :: history.log) = healthyRun history.log := by
    intro kept
    exact healthyRun_kept other (earned.latest ▸ kept)
  refine ⟨rfl, fun node found => ?_, fun node found lower => ?_, fun node found serving => ?_,
    fun node found serving => ?_, fun ⟨node, found, serving⟩ => ?_⟩
  · show _ ≤ healthyRun ((operation, after) :: history.log)
    rcases (quiet node found).streak with none | ⟨kept, old, there, same⟩
    · simp [none]
    · rw [runs kept, same]
      exact earned.streak old there
  · rcases (quiet node found).state with ⟨_, whole⟩ | ⟨_, old, there, same, _⟩
    · exact whole lower
    · exact earned.whole old there (same ▸ lower)
  · rcases (quiet node found).state with ⟨out, _⟩ | ⟨_, old, there, same, idle⟩
    · exact absurd serving out
    · exact idle (earned.idle old there (same ▸ serving))
  · show 3 ≤ healthyRun ((operation, after) :: history.log)
    rcases (quiet node found).state with ⟨out, _⟩ | ⟨kept, old, there, same, _⟩
    · exact absurd serving out
    · rw [runs kept]
      exact earned.long old there (same ▸ serving)
  · rcases (quiet node found).state with ⟨out, _⟩ | ⟨_, old, there, same, _⟩
    · exact absurd serving out
    · exact earned.stays ⟨old, there, same ▸ serving⟩ ⟨node, found, serving⟩

theorem Earned.heartbeat {endpoints : List String} (earned : Earned history)
    (found : history.entry.node = some node)
    (same : after.node = some (node.heartbeat call endpoints)) :
    Earned ⟨after, (.recordHeartbeat call, after) :: history.log⟩ := by
  have there := mem_def.mpr found
  have streak := earned.streak node there
  -- What is said of the node holds of the one that is stored.
  have stored : ∀ {P : RelayNode → Prop}, P (node.heartbeat call endpoints) → ∀ next ∈ after.node, P next := by
    intro P holds next member
    cases Option.some.inj (same.symm.trans (mem_def.mp member))
    exact holds
  rcases afterHeartbeat_cases node call.healthy call.now with
    ⟨unhealthy, result⟩ | ⟨healthy, lease, count, state, result, cases⟩
  · have out : (node.heartbeat call endpoints).state = .unavailable := congrArg (·.2.2) result
    have none : (node.heartbeat call endpoints).healthyHeartbeatStreak = 0 := congrArg (·.2.1) result
    refine ⟨rfl, stored ?_, stored ?_, stored ?_, stored ?_, fun ⟨next, member, serving⟩ => ?_⟩
    · simp [none]
    · exact fun lower => nomatch out.symm.trans lower
    · exact fun serving => nomatch out.symm.trans serving
    · exact fun serving => nomatch out.symm.trans serving
    · exact stored (P := fun next => next.state ≠ .available)
        (fun serving => nomatch out.symm.trans serving) next member serving |>.elim
  · have longer : healthyRun ((.recordHeartbeat call, after) :: history.log) = healthyRun history.log + 1 :=
      healthyRun_healthy healthy
    have counted : (node.heartbeat call endpoints).healthyHeartbeatStreak = count := congrArg (·.2.1) result
    have stands : (node.heartbeat call endpoints).state = state := congrArg (·.2.2) result
    have facts : count ≤ healthyRun history.log + 1 ∧ state ≠ .degraded ∧
        (state = .available → node.effectiveDraining = false ∧ 3 ≤ healthyRun history.log + 1 ∧
          (node.state = .available ∨ node.state = .unavailable)) := by
      rcases cases with ⟨rfl, rfl⟩ | ⟨idle, serving, rfl, rfl⟩ | ⟨idle, more, rfl | ⟨out, twice, rfl⟩⟩
      · exact ⟨Nat.le_succ_of_le streak, fun lower => (nomatch lower), fun serving => nomatch serving⟩
      · have serving := serving.resolve_right (earned.whole node there)
        have long := earned.long node there serving
        exact ⟨Nat.le_succ_of_le long, earned.whole node there, fun _ =>
          ⟨idle, Nat.le_succ_of_le long, .inl serving⟩⟩
      · exact ⟨le_trans more (Nat.succ_le_succ streak), fun lower => (nomatch lower),
          fun serving => nomatch serving⟩
      · exact ⟨le_trans more (Nat.succ_le_succ streak), fun lower => (nomatch lower), fun _ =>
          ⟨idle, Nat.succ_le_succ (le_trans twice streak), .inr out⟩⟩
    obtain ⟨below, whole, serves⟩ := facts
    refine ⟨rfl, stored ?_, stored ?_, stored ?_, stored ?_, fun ⟨next, member, serving⟩ => ?_⟩
    · rw [counted]
      exact longer ▸ below
    · exact stands ▸ whole
    · intro serving
      rw [effectiveDraining_heartbeat]
      exact (serves (stands.symm.trans serving)).1
    · intro serving
      exact longer ▸ (serves (stands.symm.trans serving)).2.1
    · have now : state = .available := by
        cases Option.some.inj (same.symm.trans (mem_def.mp member))
        exact stands.symm.trans serving
      obtain ⟨_, long, was | out⟩ := serves now
      · exact earned.stays ⟨node, there, was⟩ ⟨next, member, serving⟩
      · refine ⟨[], call, after, history.log, rfl, List.forall_mem_nil _, ⟨next, member, serving⟩, ?_,
          threeHealthy (longer ▸ long)⟩
        rintro ⟨other, before, available⟩
        rw [earned.latest] at before
        cases Option.some.inj (found.symm.trans before)
        cases out.symm.trans available

/-- **Each operation keeps the invariant.** -/
theorem Earned.keep (earned : Earned history) (effect : Effect registry history.entry operation after) :
    Earned ⟨after, (operation, after) :: history.log⟩ := by
  cases heartbeat : operation.heartbeat with
  | none => exact earned.quiet effect heartbeat
  | some call =>
    cases effect with
    | heartbeat numbered _ => exact earned.heartbeat numbered.foundNode rfl
    | _ => cases heartbeat

/-! ### Revocation -/

/-- Both the node and its registration are revoked. A node that never picked a certificate up has no row. -/
def Entry.isRevoked (entry : Entry) : Prop :=
  (∃ registration ∈ entry.registration, registration.status = .revoked) ∧
    ∀ node ∈ entry.node, node.state = .revoked

/-- **No operation but another revocation succeeds on a revoked node.** -/
theorem revoke_of_isRevoked (effect : Effect registry entry operation after) (revoked : entry.isRevoked) :
    ∃ now, operation = .revoke now := by
  obtain ⟨⟨registration, listed, status⟩, out⟩ := revoked
  cases effect with
  | enrollmentRepeated live | enrolled live _ _ | approved live _ _ | pickupPending live _ _
  | pickupRepeated live _ _ | pickedUp live _ _ _ _ => exact absurd status (live.2 registration listed)
  | renewalRepeated numbered | renewed numbered _ _ | heartbeat numbered _ | uploaded numbered _ _ _ _ _
  | commitRepeated numbered _ | committed numbered _ _ _ _ | rotationStatus numbered =>
    exact absurd (out _ numbered.foundNode) numbered.active
  | rotationKept found active _ | rotationRequested found active _ | drained found active
  | resumed found active _ => exact absurd (out _ found) active
  | revoked _ => exact ⟨_, rfl⟩

/-- A node with a row has a registration. -/
def Entry.registered (entry : Entry) : Prop := entry.node.isSome → entry.registration.isSome

theorem registered_after (effect : Effect registry entry operation after) (registered : entry.registered) :
    after.registered := by
  cases effect with
  | enrolled _ _ _ | approved _ _ _ | pickedUp _ _ _ _ _ | renewed _ _ _ => exact fun _ => rfl
  | enrollmentRepeated _ | pickupPending _ _ _ | pickupRepeated _ _ _ | rotationKept _ _ _ => exact registered
  | renewalRepeated numbered | heartbeat numbered _ | uploaded numbered _ _ _ _ _
  | commitRepeated numbered _ | committed numbered _ _ _ _ | rotationStatus numbered =>
    exact fun _ => Option.isSome_iff_exists.mpr ⟨_, numbered.foundRegistration⟩
  | rotationRequested found _ _ | drained found _ | resumed found _ _ =>
    exact fun _ => registered (Option.isSome_iff_exists.mpr ⟨_, found⟩)
  | revoked _ =>
    intro there
    rw [Option.isSome_map] at there ⊢
    exact registered there

theorem isRevoked_revoke {now : Nat} (effect : Effect registry entry (.revoke now) after)
    (registered : entry.registered) : after.isRevoked := by
  cases effect with
  | revoked there =>
    refine ⟨?_, fun node found => ?_⟩
    · cases listed : entry.registration with
      | none =>
        refine absurd ⟨?_, listed⟩ there
        cases node : entry.node with
        | none => rfl
        | some _ =>
          have both := registered (node ▸ rfl)
          simp [listed] at both
      | some registration => exact ⟨_, rfl, rfl⟩
    · obtain ⟨old, _, rfl⟩ := map_eq_some_iff.mp found
      rfl

/-- **The invariant of revocation**: after one that succeeded there are only others. -/
structure Final (history : History) : Prop where
  registered : history.entry.registered
  final : ∀ later now after earlier, history.log = later ++ (.revoke now, after) :: earlier →
    history.entry.isRevoked ∧ ∀ done ∈ later, ∃ again, done.1 = .revoke again

theorem final_start : Final .start where
  registered := fun there => nomatch there
  final := fun _ _ _ _ split => nomatch (List.append_eq_nil_iff.mp split.symm).2

theorem Final.keep (holds : Final history) (effect : Effect registry history.entry operation after) :
    Final ⟨after, (operation, after) :: history.log⟩ := by
  refine ⟨registered_after effect holds.registered, fun later now given earlier split => ?_⟩
  cases later with
  | nil =>
    obtain ⟨⟨⟩, _⟩ := List.cons.inj split
    exact ⟨isRevoked_revoke effect holds.registered, List.forall_mem_nil _⟩
  | cons last later =>
    obtain ⟨rfl, rest⟩ := List.cons.inj split
    obtain ⟨revoked, only⟩ := holds.final later now given earlier rest
    obtain ⟨again, rfl⟩ := revoke_of_isRevoked effect revoked
    exact ⟨isRevoked_revoke effect holds.registered, List.forall_mem_cons.mpr ⟨⟨again, rfl⟩, only⟩⟩

/-! ### The result -/

/-- **Availability is earned, and revocation is final.** In every run of operations on a node, with any
arguments and at any times: a node in service is neither drained nor in a rotation, and the heartbeat that
moved it there was the third of three healthy ones since the last pickup that issued its certificate, the
last resume and the last commit; and after a revocation the node and its registration are revoked, nothing
but another revocation has succeeded, and nothing else succeeds. -/
theorem availability_earned {registry : RelayRegistry} {history : History}
    (reach : Reach (History.step registry) always .start history) :
    (∀ node ∈ history.entry.node, node.state = .available →
      node.desiredDraining = false ∧ node.rotationInFlight = false ∧ MovedIn history.log) ∧
    ∀ later now after earlier, history.log = later ++ (.revoke now, after) :: earlier →
      history.entry.isRevoked ∧ (∀ done ∈ later, ∃ again, done.1 = .revoke again) ∧
        ∀ operation, (∀ again, operation ≠ .revoke again) →
          (∃ error, operation.perform registry history.entry = .error error) ∧
            history.step registry operation = some history := by
  have earned : Earned history :=
    reach_keeps earned_start (fun _ _ _ earned _ effect => earned.keep effect) reach
  have final : Final history :=
    reach_keeps final_start (fun _ _ _ holds _ effect => holds.keep effect) reach
  refine ⟨fun node found serving => ?_, fun later now after earlier split => ?_⟩
  · obtain ⟨desired, rotation⟩ := Bool.or_eq_false_iff.mp (earned.idle node found serving)
    exact ⟨desired, rotation, earned.moved ⟨node, found, serving⟩⟩
  · obtain ⟨revoked, only⟩ := final.final later now after earlier split
    refine ⟨revoked, only, fun operation other => ?_⟩
    cases performed : operation.perform registry history.entry with
    | error error =>
      refine ⟨⟨error, rfl⟩, ?_⟩
      simp [History.step, performed]
    | ok result =>
      obtain ⟨again, same⟩ := revoke_of_isRevoked (perform_effect performed) revoked
      exact absurd same (other again)

/-- Whether a node is available. -/
def Entry.isAvailable (entry : Entry) : Bool := entry.node.any fun node => node.state = .available

theorem available_of_isAvailable (checked : entry.isAvailable = true) : entry.available := by
  obtain ⟨node, found, state⟩ := (Option.any_eq_true _ _).mp checked
  exact ⟨node, found, of_decide_eq_true state⟩

/-- A node with three heartbeats. -/
def sampleServing : List Operation := sampleStart ++ [
  .recordHeartbeat (sampleHeartbeat "first" 1 1 103),
  .recordHeartbeat (sampleHeartbeat "first" 2 1 104),
  .recordHeartbeat (sampleHeartbeat "first" 3 1 105)]

/-- The last call is a revocation. -/
def History.endsRevoked (history : History) : Bool :=
  match history.log with
  | (.revoke _, _) :: _ => true
  | _ => false

/-- In service after three heartbeats, and out of it for good after a revocation. -/
theorem availability_earned_sample :
    (∃ history : History, history.entry.available ∧ MovedIn history.log) ∧
    ∃ history : History, history.endsRevoked ∧ history.entry.isRevoked ∧
      history.step sampleRegistry (.recordHeartbeat (sampleHeartbeat "first" 4 1 107)) = some history := by
  constructor
  · have ran : (run (History.step sampleRegistry) .start sampleServing).map (fun history =>
        history.entry.isAvailable) = some true := by decide +kernel
    obtain ⟨history, reached, same⟩ := map_eq_some_iff.mp ran
    obtain ⟨node, found, serving⟩ := available_of_isAvailable same
    exact ⟨history, ⟨node, found, serving⟩,
      ((availability_earned (run_reach reached)).1 node found serving).2.2⟩
  · have ran : (run (History.step sampleRegistry) .start (sampleServing ++ [.revoke 106])).map
        History.endsRevoked = some true := by decide +kernel
    obtain ⟨history, reached, last⟩ := map_eq_some_iff.mp ran
    have ends := last
    unfold History.endsRevoked at ends
    split at ends
    next now after earlier split =>
      obtain ⟨revoked, _, refused⟩ := (availability_earned (run_reach reached)).2 [] now after earlier split
      exact ⟨history, last, revoked, (refused _ fun _ => Operation.noConfusion).2⟩
    · cases ends

/-- A certificate that is picked up again between two heartbeats. -/
def samplePickedAgain : List Operation := sampleStart ++ [
  .recordHeartbeat (sampleHeartbeat "first" 1 1 103),
  .recordHeartbeat (sampleHeartbeat "first" 2 1 104),
  .pickup (samplePickup "first" 105),
  .recordHeartbeat (sampleHeartbeat "first" 3 1 106)]

/-- The last call is a heartbeat after a pickup that left the node out. -/
def History.followsPickup (history : History) : Bool :=
  match history.log with
  | (.recordHeartbeat _, _) :: (.pickup _, given) :: _ => !given.isAvailable
  | _ => false

/-- **A pickup that gives the same certificate out again is no restart**: one heartbeat after it the node is
in service. -/
theorem exists_available_after_pickup : ∃ history : History,
    Reach (History.step sampleRegistry) always .start history ∧ history.entry.available ∧
      ∃ call after pickup given earlier, ¬ given.available ∧
        history.log = (.recordHeartbeat call, after) :: (.pickup pickup, given) :: earlier := by
  have ran : (run (History.step sampleRegistry) .start samplePickedAgain).map (fun history =>
      (history.entry.isAvailable, history.followsPickup)) = some (true, true) := by decide +kernel
  obtain ⟨history, reached, same⟩ := map_eq_some_iff.mp ran
  obtain ⟨available, last⟩ := Prod.mk.inj same
  refine ⟨history, run_reach reached, available_of_isAvailable available, ?_⟩
  unfold History.followsPickup at last
  split at last
  next call after pickup given earlier split =>
    refine ⟨call, after, pickup, given, earlier, ?_, split⟩
    rintro ⟨node, found, serving⟩
    simp [Entry.isAvailable, mem_def.mp found, serving] at last
  · cases last

end MiniRemoteDesktop.Registry
