/-
**Generations of a session, over every interleaving.**

A generation is used up when its attempt enters `InFlight` and committed when the attempt ends there.
The committed generation never passes the attempted one, a generation enters `InFlight` once, and a
commit moves the session to a candidate of a verified directory in another failure domain.

The failure domain an attempt avoids is captured in its first section and the domain it replaces is
read at the commit. They agree because an attempt whose generation is still above the committed one
has seen no commit since it began: that is what `Attempt.Numbered` carries.
-/

import MiniRemoteDesktop.Relay.Failover.Effects

namespace MiniRemoteDesktop.Relay

open Function (update_of_ne update_self)

/-! ### The planned route -/

/-- The evidence of a plan is that of a listed candidate in another failure domain. -/
def Plan.Avoids (plan : Plan) (failureDomain : String) : Prop :=
  ∃ candidate ∈ plan.access.directory.payload.candidates, candidate.failureDomain ≠ failureDomain ∧
      plan.routeEvidence.directoryId = plan.access.directory.payload.directoryId ∧
      plan.routeEvidence.nodeId = candidate.nodeId ∧
      plan.routeEvidence.failureDomain = candidate.failureDomain

variable {evidence : RelayRouteEvidence}

theorem VerifiedRelayAccess.avoids_of_routeEvidence {sha256 : Sha256} {access : VerifiedRelayAccess}
    {candidate : RelayDirectoryCandidate} {generation : Nat} {failureDomain : String}
    (member : candidate ∈ access.candidates) (other : candidate.failureDomain ≠ failureDomain)
    {credential : ServiceTurnRelayCredentials}
    (known : access.credentialsFor candidate.nodeId = some credential)
    (given : access.routeEvidence sha256 candidate.nodeId generation = .ok evidence) :
    Plan.Avoids ⟨access, evidence⟩ failureDomain := by
  obtain ⟨expected, computed, directory, node, domain, _⟩ :=
    access.routeEvidence_of_mem sha256 member known generation
  rw [given] at computed
  cases computed
  exact ⟨candidate, member, other, directory, node, domain⟩

variable {plan : Plan}

namespace Attempt

theorem planRecover_avoids {sha256 : Sha256} {attempt : Attempt} {access : VerifiedRelayAccess}
    (chosen : attempt.planRecover sha256 access = .proceed plan) :
    plan.Avoids attempt.activeFailureDomain := by
  unfold planRecover at chosen
  split at chosen
  · cases chosen
  rename_i candidate found
  split at chosen
  · cases chosen
  rename_i credential known
  split at chosen
  · cases chosen
  rename_i evidence given
  cases chosen
  have wanted := List.find?_some found
  simp only [Bool.and_eq_true, decide_eq_true_eq] at wanted
  exact VerifiedRelayAccess.avoids_of_routeEvidence (List.mem_of_find?_eq_some found)
    wanted.1.2 known given

theorem planOffer_avoids {sha256 : Sha256} {attempt : Attempt} {offer : RelayMigrationOffer}
    {access : VerifiedRelayAccess} (chosen : attempt.planOffer sha256 offer access = .proceed plan) :
    plan.Avoids attempt.activeFailureDomain := by
  unfold planOffer at chosen
  split at chosen
  · cases chosen
  split at chosen
  · cases chosen
  rename_i candidate found
  split at chosen
  · cases chosen
  rename_i other
  split at chosen
  · cases chosen
  rename_i credential known
  split at chosen
  · cases chosen
  rename_i evidence given
  cases chosen
  have named : candidate.nodeId = offer.nodeId := by simpa using List.find?_some found
  rw [← named] at known given
  exact VerifiedRelayAccess.avoids_of_routeEvidence (List.mem_of_find?_eq_some found) other known given

/-- **Both sides leave the failure domain** that was active when the attempt began. -/
theorem plan_avoids {sha256 : Sha256} {attempt : Attempt}
    {refreshed : Except RelayClientError VerifiedRelayAccess} {nowMs : Nat}
    (chosen : attempt.plan sha256 refreshed nowMs = .proceed plan) :
    plan.Avoids attempt.activeFailureDomain := by
  unfold Attempt.plan accessAfterRefresh at chosen
  split at chosen
  next decision refused =>
    subst chosen
    repeat' split at refused
    all_goals cases refused
  · split at chosen
    · exact planRecover_avoids chosen
    · exact planOffer_avoids chosen

/-- **The numbering of an attempt** that has not reached its commit section. -/
structure Numbered (session : RelaySessionState) (attempt : Attempt) : Prop where
  next : attempt.generation ≤ session.highestAttemptedGeneration + 1
  inFlight : ∀ generation, session.phase = .inFlight generation → attempt.generation ≤ generation
  domain : session.generation < attempt.generation →
    attempt.activeFailureDomain = session.activeFailureDomain

end Attempt

/-- **The numbering of a session.** -/
structure RelaySessionState.Numbered (session : RelaySessionState) : Prop where
  committed : session.generation ≤ session.highestAttemptedGeneration
  planning : ∀ generation, session.phase = .planning generation →
    generation = session.highestAttemptedGeneration + 1
  inFlight : ∀ generation, session.phase = .inFlight generation →
    generation = session.highestAttemptedGeneration ∧ session.generation < generation

namespace Failover

open Execution RelaySessionState

/-! ### Changes of the session -/

variable {next : RelaySessionState}

/-- **Every change keeps the numbering of the session.** -/
theorem Moves.numbered {session : RelaySessionState} (moves : Moves session next)
    (numbered : session.Numbered) : next.Numbered := by
  cases moves with
  | same => exact numbered
  | observed health since live => exact ⟨numbered.committed, numbered.planning, numbered.inFlight⟩
  | planned health since generation live phase following =>
    refine ⟨numbered.committed, ?_, nofun⟩
    rintro other ⟨⟩
    exact following
  | entered generation live phase =>
    have following := numbered.planning generation phase
    have committed := numbered.committed
    refine ⟨by show session.generation ≤ generation; omega, nofun, ?_⟩
    rintro other ⟨⟩
    exact ⟨rfl, by show session.generation < generation; omega⟩
  | released generation live phase | terminated reason live => exact ⟨numbered.committed, nofun, nofun⟩
  | committed generation plan mux live phase =>
    exact ⟨le_of_eq (numbered.inFlight generation phase).1, nofun, nofun⟩

/-- **Every change keeps the numbering of an attempt.** After a commit no attempt is above the
committed generation. -/
theorem Moves.attempt_numbered {session : RelaySessionState} {attempt : Attempt}
    (moves : Moves session next) (numbered : session.Numbered) (own : attempt.Numbered session) :
    attempt.Numbered next := by
  cases moves with
  | same => exact own
  | observed health since live => exact ⟨own.next, own.inFlight, own.domain⟩
  | planned health since generation live phase following | released generation live phase
  | terminated reason live => exact ⟨own.next, nofun, own.domain⟩
  | entered generation live phase =>
    have following := numbered.planning generation phase
    have bound : attempt.generation ≤ generation := by
      simp [following, own.next]
    refine ⟨le_trans bound (Nat.le_succ _), ?_, own.domain⟩
    rintro other ⟨⟩
    exact bound
  | committed generation plan mux live phase =>
    have bound := own.inFlight generation phase
    exact ⟨own.next, nofun, fun above => absurd bound (Nat.not_le.mpr above)⟩

theorem Moves.highest_le {session : RelaySessionState} (moves : Moves session next)
    (numbered : session.Numbered) :
    session.highestAttemptedGeneration ≤ next.highestAttemptedGeneration := by
  cases moves with
  | entered generation live phase =>
    have following := numbered.planning generation phase
    show session.highestAttemptedGeneration ≤ generation
    omega
  | _ => exact le_rfl

/-- The change into `InFlight` uses the generation up. -/
theorem Moves.enters {session : RelaySessionState} (moves : Moves session next)
    (numbered : session.Numbered) {generation : Nat} (before : session.phase ≠ .inFlight generation)
    (after : next.phase = .inFlight generation) :
    session.highestAttemptedGeneration < generation ∧
      next.highestAttemptedGeneration = generation := by
  cases moves with
  | entered other live phase =>
    cases after
    have following := numbered.planning generation phase
    exact ⟨by omega, rfl⟩
  | same | observed health since live => exact absurd after before
  | planned | released | committed | terminated => cases after

/-! ### The attempts of a run -/

/-- The attempt of a task, until its commit section. -/
def Task.attempt : Task → Option Attempt
  | .refreshing attempt | .freezing attempt _ | .rechecking attempt _ | .executing attempt _ =>
    some attempt
  | _ => none

/-- The attempt of a task with its plan, until its commit section. -/
def Task.planned : Task → Option (Attempt × Plan)
  | .freezing attempt plan | .rechecking attempt plan | .executing attempt plan =>
    some (attempt, plan)
  | _ => none

/-- The route of a `Migrated` outcome. -/
def migratedRoute : RelayRecoveryOutcome → Option RelayRouteEvidence
  | .migrated evidence => some evidence
  | _ => none

/-- The route a call has decided to report. -/
def Task.migrated : Task → Option RelayRouteEvidence
  | .thawing _ outcome | .returned (.ok outcome) => migratedRoute outcome
  | _ => none

section Acts

variable {config : Config} {task : TaskId} {shared next : Shared} {slot after : Slot}
  {action : Action} (acts : Acts config task shared slot action next after)

include acts

/-- An attempt begins with the next generation and the active failure domain. -/
theorem Acts.attempt_begins {attempt : Attempt} (held : after.task.attempt = some attempt) :
    slot.task.attempt = some attempt ∨
      attempt.generation = shared.session.highestAttemptedGeneration + 1 ∧
        attempt.activeFailureDomain = shared.session.activeFailureDomain ∧
        next.session.phase = .planning attempt.generation ∧
        next.session.highestAttemptedGeneration = shared.session.highestAttemptedGeneration ∧
        next.session.activeFailureDomain = shared.session.activeFailureDomain := by
  cases acts with
  | planned call health since other failed absent live phase numbered domain sent =>
    cases failed with
    | some error => cases held
    | none =>
      cases held
      exact .inr ⟨numbered, domain, rfl, rfl, rfl⟩
  | entered result nowMs other plan refreshing decided live phase =>
    cases held
    exact .inl (by rw [refreshing]; rfl)
  | froze other plan following freezing options =>
    left
    rw [freezing]
    rcases options with rfl | rfl
    · exact held
    · exact held
  | rechecked other plan rechecking =>
    left
    rw [rechecking]
    exact held
  | guardIdle | guardReset | guardDiscard | guardReleased | guardLost | guardThawed | thawed =>
    exact .inl held
  | _ => cases held

/-- A plan is what the attempt chose after its refresh, on the way into `InFlight`. -/
theorem Acts.plan_chosen {attempt : Attempt} (held : after.task.planned = some (attempt, plan)) :
    slot.task.planned = some (attempt, plan) ∨
      (∃ result nowMs, attempt.plan config.sha256 result nowMs = .proceed plan) ∧
        attempt.generation = next.session.highestAttemptedGeneration := by
  cases acts with
  | planned call health since other failed absent live phase numbered domain sent =>
    cases failed with
    | some error => cases held
    | none => cases held
  | entered result nowMs other chosen refreshing decided live phase =>
    cases held
    exact .inr ⟨⟨result, nowMs, decided⟩, rfl⟩
  | froze other chosen following freezing options =>
    left
    rw [freezing]
    rcases options with rfl | rfl
    · exact held
    · exact held
  | rechecked other chosen rechecking =>
    left
    rw [rechecking]
    exact held
  | guardIdle | guardReset | guardDiscard | guardReleased | guardLost | guardThawed | thawed =>
    exact .inl held
  | _ => cases held

/-- A call decides to report a migration in its commit section. -/
theorem Acts.migrated_decided (decided : after.task.migrated = some evidence) :
    slot.task.migrated = some evidence ∨
      ∃ attempt plan, slot.task = .executing attempt plan ∧ evidence = plan.routeEvidence ∧
        shared.session.phase = .inFlight attempt.generation ∧
        next.session.generation = attempt.generation ∧
        next.session.latestAccess = plan.access ∧
        next.session.activeDirectoryId = plan.routeEvidence.directoryId ∧
        next.session.activeNodeId = plan.routeEvidence.nodeId ∧
        next.session.activeFailureDomain = plan.routeEvidence.failureDomain := by
  cases acts with
  | committed result attempt plan mux executing live phase =>
    cases decided
    exact .inr ⟨attempt, plan, executing, rfl, phase, rfl, rfl, rfl, rfl, rfl⟩
  | answered call health since result absent live other =>
    cases result with
    | error error => cases decided
    | ok outcome =>
      cases outcome with
      | migrated given => exact absurd rfl (other given)
      | healthy | grace | inProgress | suppressedStaleHealth | retryable | suppressedLate
      | terminal => cases decided
  | planned call health since other failed absent live phase numbered domain sent =>
    cases failed with
    | some error => cases decided
    | none => cases decided
  | froze other chosen following freezing options =>
    rcases options with rfl | rfl
    · cases decided
    · cases decided
  | finished result finished =>
    left
    unfold finishResult at finished
    repeat' split at finished
    all_goals cases finished
    next outcome thawing _ =>
      rw [thawing]
      exact decided
    · cases decided
    · cases decided
  | guardIdle | guardReset | guardDiscard | guardReleased | guardLost | guardThawed | thawed =>
    exact .inl decided
  | _ => cases decided

/-- Nothing but a reported commit changes the committed generation. -/
theorem Acts.generation_kept (other : after.task.migrated = none ∨ slot.task.migrated ≠ none) :
    next.session.generation = shared.session.generation := by
  cases acts with
  | committed result attempt plan mux executing live phase =>
    rcases other with silent | decided
    · cases silent
    · rw [executing] at decided
      exact absurd rfl decided
  | _ => rfl

end Acts

/-! ### Runs -/

/-- **The numbering of a session and of every attempt on it.** -/
structure World.Numbered (world : World) : Prop where
  session : world.shared.session.Numbered
  attempts : ∀ task attempt, (world.slots task).task.attempt = some attempt →
    attempt.Numbered world.shared.session
  plans : ∀ task attempt plan, (world.slots task).task.planned = some (attempt, plan) →
    plan.Avoids attempt.activeFailureDomain

theorem Task.attempt_of_planned {task : Task} {attempt : Attempt}
    (held : task.planned = some (attempt, plan)) : task.attempt = some attempt := by
  unfold Task.planned at held
  split at held
  all_goals cases held
  all_goals rfl

section Runs

variable {config : Config} {world next : World} {label : Label}

/-- **One step keeps the numbering.** -/
theorem Steps.numbered (steps : Steps config world label next) (numbered : world.Numbered) :
    next.Numbered := by
  have session := steps.moves.numbered numbered.session
  cases steps with
  | cleanupFreeze freezing | cleanupFinish closing => exact ⟨session, numbered.attempts, numbered.plans⟩
  | task actor action shared after acts =>
    refine ⟨session, ?_, ?_⟩
    · intro task attempt held
      have carried : ∀ other, (world.slots other).task.attempt = some attempt →
          attempt.Numbered shared.session := fun other before =>
        acts.moves.attempt_numbered numbered.session (numbered.attempts other attempt before)
      by_cases own : task = actor
      · subst own
        simp only [update_self] at held
        rcases acts.attempt_begins held with before | ⟨following, domain, phase, highest, kept⟩
        · exact carried task before
        · refine ⟨by rw [highest, following], ?_, fun _ => by rw [domain, kept]⟩
          intro generation inFlight
          simp [phase] at inFlight
      · simp only [update_of_ne own] at held
        exact carried task held
    · intro task attempt plan held
      by_cases own : task = actor
      · subst own
        simp only [update_self] at held
        rcases acts.plan_chosen held with before | ⟨⟨result, nowMs, chosen⟩, _⟩
        · exact numbered.plans task attempt plan before
        · exact Attempt.plan_avoids chosen
      · simp only [update_of_ne own] at held
        exact numbered.plans task attempt plan held

theorem World.start_numbered (context : RelayAccessContext) (access : VerifiedRelayAccess)
    (directoryId nodeId failureDomain : String) (mux : Mux) (frozen : Bool) :
    (World.start (.installed context access directoryId nodeId failureDomain mux) frozen).Numbered := by
  refine ⟨⟨le_rfl, nofun, nofun⟩, ?_, ?_⟩
  · rintro task attempt ⟨⟩
  · rintro task attempt plan ⟨⟩

/-- **A run keeps the numbering.** -/
theorem reach_numbered {allowed : World → Label → Prop} {later : World}
    (reach : Reach config.step allowed world later) (numbered : world.Numbered) : later.Numbered :=
  reach.invariant numbered fun _ _ _ numbered _ taken => (step_steps taken).numbered numbered

theorem reach_highest_le {later : World} (reach : Reach config.step always world later)
    (numbered : world.Numbered) :
    world.shared.session.highestAttemptedGeneration ≤
      later.shared.session.highestAttemptedGeneration := by
  refine reach.monotone (I := World.Numbered)
    (fun world => world.shared.session.highestAttemptedGeneration) numbered ?_
  intro _ _ _ numbered _ taken
  have steps := step_steps taken
  exact ⟨steps.numbered numbered, steps.moves.highest_le numbered.session⟩

/-- The session enters `InFlight` with this generation. -/
def World.Enters (world next : World) (generation : Nat) : Prop :=
  world.shared.session.phase ≠ .inFlight generation ∧
    next.shared.session.phase = .inFlight generation

/-- The call of this task decides to report a migration to this route. -/
def World.Migrates (world next : World) (task : TaskId) (evidence : RelayRouteEvidence) : Prop :=
  (world.slots task).task.migrated = none ∧ (next.slots task).task.migrated = some evidence

/-- **A reported migration** raises the committed generation and moves the session to a candidate of
a verified directory outside its active failure domain. -/
theorem Steps.migrates (steps : Steps config world label next) (numbered : world.Numbered)
    {task : TaskId} (migrates : world.Migrates next task evidence) :
    world.shared.session.generation < next.shared.session.generation ∧
      ∃ candidate ∈ next.shared.session.latestAccess.directory.payload.candidates,
        candidate.failureDomain ≠ world.shared.session.activeFailureDomain ∧
          next.shared.session.activeDirectoryId =
            next.shared.session.latestAccess.directory.payload.directoryId ∧
          next.shared.session.activeNodeId = candidate.nodeId ∧
          next.shared.session.activeFailureDomain = candidate.failureDomain ∧
          evidence.nodeId = candidate.nodeId := by
  obtain ⟨undecided, decided⟩ := migrates
  cases steps with
  | cleanupFreeze freezing | cleanupFinish closing => cases undecided.symm.trans decided
  | task actor action shared after acts =>
    by_cases own : task = actor
    · subst own
      simp only [update_self] at decided
      rcases acts.migrated_decided decided with before | ⟨attempt, plan, executing, rfl, phase,
        generation, access, directory, node, domain⟩
      · cases undecided.symm.trans before
      have planned : (world.slots task).task.planned = some (attempt, plan) := by
        rw [executing]
        rfl
      have above := (numbered.session.inFlight _ phase).2
      have captured := (numbered.attempts task attempt (Task.attempt_of_planned planned)).domain above
      obtain ⟨candidate, member, other, listed, named, located⟩ :=
        numbered.plans task attempt plan planned
      refine ⟨by show _ < shared.session.generation; rw [generation]; exact above, candidate, ?_⟩
      rw [captured] at other
      simpa [access, directory, node, domain] using ⟨member, other, listed, named, located, named⟩
    · simp only [update_of_ne own] at decided
      cases undecided.symm.trans decided

/-- A step in which no call decides to report a migration keeps the committed generation. -/
theorem Steps.generation_kept (steps : Steps config world label next)
    (silent : ∀ task evidence, ¬ world.Migrates next task evidence) :
    next.shared.session.generation = world.shared.session.generation := by
  cases steps with
  | cleanupFreeze freezing => rfl
  | cleanupFinish closing => rfl
  | task actor action shared after acts =>
    refine acts.generation_kept ?_
    cases decided : after.task.migrated with
    | none => exact .inl rfl
    | some evidence =>
      right
      intro undecided
      refine silent actor evidence ⟨undecided, ?_⟩
      simp [decided]

/-- **The generation discipline.** In every state of every interleaving the committed generation is
at most the attempted one and the phase carries the generation it must; a generation that enters
`InFlight` is below every generation that enters it later; and a reported migration, and nothing
else, raises the committed generation, to a candidate in another failure domain. -/
theorem generation_discipline (config : Config) (context : RelayAccessContext)
    (access : VerifiedRelayAccess) (directoryId nodeId failureDomain : String) (mux : Mux)
    (frozen : Bool) {world : World}
    (reach : Reach config.step always
      (.start (.installed context access directoryId nodeId failureDomain mux) frozen) world) :
    world.shared.session.generation ≤ world.shared.session.highestAttemptedGeneration ∧
      (∀ generation, world.shared.session.phase = .planning generation →
        generation = world.shared.session.highestAttemptedGeneration + 1) ∧
      (∀ generation, world.shared.session.phase = .inFlight generation →
        generation = world.shared.session.highestAttemptedGeneration) ∧
      ∀ label next, config.step world label = some next →
        (∀ generation, world.Enters next generation → ∀ later again last following,
          Reach config.step always next later → config.step later again = some last →
          later.Enters last following → generation < following) ∧
        (∀ task evidence, world.Migrates next task evidence →
          world.shared.session.generation < next.shared.session.generation ∧
            ∃ candidate ∈ next.shared.session.latestAccess.directory.payload.candidates,
              candidate.failureDomain ≠ world.shared.session.activeFailureDomain ∧
                next.shared.session.activeDirectoryId =
                  next.shared.session.latestAccess.directory.payload.directoryId ∧
                next.shared.session.activeNodeId = candidate.nodeId ∧
                next.shared.session.activeFailureDomain = candidate.failureDomain ∧
                evidence.nodeId = candidate.nodeId) ∧
        ((∀ task evidence, ¬ world.Migrates next task evidence) →
          next.shared.session.generation = world.shared.session.generation) := by
  have numbered := reach_numbered reach
    (World.start_numbered context access directoryId nodeId failureDomain mux frozen)
  refine ⟨numbered.session.committed, numbered.session.planning,
    fun generation phase => (numbered.session.inFlight generation phase).1, ?_⟩
  intro label next taken
  have steps := step_steps taken
  refine ⟨?_, fun task evidence => steps.migrates numbered, steps.generation_kept⟩
  intro generation enters later again last following reached retaken reenters
  have onward := steps.numbered numbered
  have used := (steps.moves.enters numbered.session enters.1 enters.2).2
  have grown := reach_highest_le reached onward
  have fresh := ((step_steps retaken).moves.enters (reach_numbered reached onward).session
    reenters.1 reenters.2).1
  omega

end Runs

/-! ### A session with two relays -/

namespace TwoRelays

/-- A relay in a failure domain of its own. -/
def relay (nodeId : String) : RelayDirectoryCandidate where
  nodeId := nodeId
  region := "eu"
  failureDomain := nodeId
  endpoints := [⟨.udp, nodeId, 3478⟩]
  capabilities := 0
  loadClass := 0
  selectionReason := "nearest"
  reservation := ⟨nodeId, 1000⟩

def context : RelayAccessContext where
  sessionId := "session"
  policyRevision := 1
  intendedPeerId := "peer"
  generation := none
  refresh := none
  peerDigest := "peer-sha256-7337b557e97238c9542d742ae7ed9cb7008be9111f085dea2d6e6de779263e72"

def payload : RelayDirectoryPayload where
  formatVersion := relayDirectoryFormatVersion
  policyRevision := 1
  directoryId := "directory"
  issuedAtMs := 0
  expiresAtMs := 1000
  sessionId := "session"
  intendedPeerDigest := context.peerDigest
  candidates := [relay "relay-a", relay "relay-b"]

theorem payload_contract : payload.validateContract = .ok () := by
  decide

def credentials (nodeId : String) : ServiceTurnRelayCredentials :=
  ⟨["turn:" ++ nodeId ++ ":3478?transport=udp"], "user", "secret", 1⟩

def access : VerifiedRelayAccess where
  directory := ⟨payload, payload_contract⟩
  credentials := (Finmap.singleton "relay-a" (credentials "relay-a")).insert "relay-b"
    (credentials "relay-b")
  generation := none
  relayUrlDigest := none

/-- The digests of the peer and of the addresses of the second relay. -/
def sha256 : Sha256 := fun input =>
  if input = Text.bytes "MRD_RELAY_PEER_V1" ++ [0] ++ Text.bytes "peer" then
    #v[115, 55, 181, 87, 233, 114, 56, 201, 84, 45, 116, 42, 231, 237, 156, 183,
    0, 139, 233, 17, 31, 8, 93, 234, 45, 110, 109, 231, 121, 38, 62, 114]
  else
    #v[93, 57, 240, 62, 131, 5, 14, 68, 208, 62, 195, 6, 218, 186, 23, 10,
    130, 237, 131, 117, 49, 103, 17, 117, 206, 170, 53, 56, 145, 128, 12, 223]

def config : Config := ⟨sha256, 0⟩

/-- The session on the first relay. -/
def session : RelaySessionState :=
  .installed context access "directory" "relay-a" "relay-a" 0

example :
    (installSessionInner context access "relay-a" 0 ⟨"session", false⟩ false 0).toOption.map
        (fun session => (session.activeDirectoryId, session.activeNodeId, session.activeFailureDomain)) =
      some ("directory", "relay-a", "relay-a") := by
  decide

def start : World := .start session false

/-- The connection of the session fails; the call of this task begins an attempt. -/
def fails (task : TaskId) : Label := .task task (.call (.observeHealth 0 .failed 0))

/-- The attempt of this task goes on to the executor. -/
def proceeds (task : TaskId) : List Label :=
  [.task task (.refreshed (.ok access) 0), .task task (.froze true), .task task .recheck]

/-- The route to the second relay. -/
def route (generation : Nat) : RelayRouteEvidence where
  sessionId := "session"
  directoryId := "directory"
  nodeId := "relay-b"
  region := "eu"
  failureDomain := "relay-b"
  generation := generation
  urlsDigest := sha256 []

/-- The executor hands the connection through the second relay back. -/
def commits (task : TaskId) (generation : Nat) : Label :=
  .task task (.executed (.ok ⟨generation, route generation, 1, ⟨"session", false⟩⟩))

/-- The directory is unreachable and the cached one has expired. -/
def unreachable (task : TaskId) : Label := .task task (.refreshed (.error .backendUnavailable) 2000)

/-- The executor reports that the transport to the second relay is not available. -/
def breaks (task : TaskId) : Label :=
  .task task (.executed (.error ⟨.transportUnavailable, false⟩))

theorem executing_enabled :
    (run config.step start (fails 0 :: proceeds 0)).isSome := by
  decide

/-- The first attempt is with the executor. -/
def executing : World := (run config.step start (fails 0 :: proceeds 0)).get executing_enabled

theorem executing_reach : Reach config.step always start executing :=
  run_reach (Option.some_get executing_enabled).symm

theorem committed_enabled : (config.step executing (commits 0 1)).isSome := by
  decide

/-- The first attempt has migrated the session. -/
def committed : World := (config.step executing (commits 0 1)).get committed_enabled

theorem generation_discipline_committed :
    executing.shared.session.phase = .inFlight 1 ∧
      executing.shared.session.highestAttemptedGeneration = 1 ∧
      executing.Migrates committed 0 (route 1) ∧
      executing.shared.session.generation < committed.shared.session.generation := by
  have discipline := generation_discipline config context access "directory" "relay-a" "relay-a" 0
    false executing_reach
  have phase : executing.shared.session.phase = .inFlight 1 := by decide
  have migrates : executing.Migrates committed 0 (route 1) := by
    constructor <;> decide
  have taken : config.step executing (commits 0 1) = some committed :=
    (Option.some_get committed_enabled).symm
  exact ⟨phase, (discipline.2.2.1 1 phase).symm, migrates,
    ((discipline.2.2.2 (commits 0 1) committed taken).2.1 0 (route 1) migrates).1⟩

end TwoRelays

end Failover

end MiniRemoteDesktop.Relay
