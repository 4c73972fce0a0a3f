/-
**The failover coordinator as a machine** (`mrd-service`, `relay/migration.rs`).

Any number of calls run on one session, each an async task that gives up the processor at its
awaits. A step of the machine is one section of a task: the code from one await to the next that
touches something shared (the session lock, the input barrier, a spawned task). An action carries
what the environment answers there: the refreshed directory, the freeze, the executor's commit.
Every interleaving is a list of labels.

A caller may drop a future at any await (`cancel`). However an attempt ends, its cancellation guard
is dropped and spawns a clean-up task, which takes the session lock (`guardFirst`), asks the
executor to discard, takes the lock again (`guardSecond`) and thaws the input (`guardThaw`). A
commit and a failed migration spawn a thaw task (`thaw`); the first termination spawns the terminal
clean-up, which freezes and then closes every transport (`cleanupFreeze`, `cleanupFinish`).

A task has one `Slot`; a step reads and writes the shared state and the slot of the task it belongs
to. `owner` records which task installed the current phase, `closed` that an attempt has closed the
barrier, and `froze` that its freeze has succeeded; no step reads them.
-/

import MiniRemoteDesktop.Lib.Execution
import MiniRemoteDesktop.Relay.Failover.State

namespace MiniRemoteDesktop.Relay.Failover

/-! ### Tasks -/

abbrev TaskId := Nat

/-- **Where a call is.** `thawing` waits for the thaw task it spawned, `late` for the discard it
asked for, `awaitingCleanup` for the terminal clean-up. -/
inductive Task
  | absent
  | refreshing (attempt : Attempt)
  | freezing (attempt : Attempt) (plan : Plan)
  | rechecking (attempt : Attempt) (plan : Plan)
  | executing (attempt : Attempt) (plan : Plan)
  | terminalizing (attempt : Attempt) (reason : RelayTerminalSecurityReason)
  | thawing (attempt : Attempt) (outcome : RelayRecoveryOutcome)
  | late (attempt : Attempt)
  | awaitingCleanup (reason : RelayTerminalSecurityReason)
  | returned (result : RecoveryResult)
  | cancelled

/-- A call that has begun and not ended. -/
def Task.running : Task → Bool
  | .absent | .returned _ | .cancelled => false
  | _ => true

/-- **A cancellation guard**: held by its attempt, then a clean-up task in one of its sections. -/
inductive Guard
  | absent
  | held (generation : Nat)
  | pending (generation : Nat)
  | resetting (generation : Nat)
  | thawing (generation : Nat)
  | finished
  deriving DecidableEq

/-- The guard once its attempt's future is gone. -/
def Guard.dropped : Guard → Guard
  | held generation => pending generation
  | guard => guard

inductive ThawTask
  | absent
  | pending
  | finished
  deriving DecidableEq

/-- A call with the guard it holds and the thaw task it spawned. -/
structure Slot where
  task : Task
  guard : Guard
  thaw : ThawTask
  (froze closed : Bool)

namespace Slot

def absent : Slot := ⟨.absent, .absent, .absent, false, false⟩

/-- The future of the call is gone: its guard becomes a clean-up task. -/
def ended (slot : Slot) (task : Task) : Slot := { slot with task := task, guard := slot.guard.dropped }

/-- The call returns. -/
def answer (slot : Slot) (result : RecoveryResult) : Slot := slot.ended (.returned result)

end Slot

/-! ### Shared state -/

/-- The terminal clean-up task: it freezes, starts `close_all` in the same section, and reports. -/
inductive CleanupTask
  | absent
  | freezing
  | closing
  | finished
  deriving DecidableEq

/-- **What the tasks share**: the session behind its lock, the input barrier, the terminal clean-up
and the calls made to the executor. -/
structure Shared where
  session : RelaySessionState
  frozen : Bool
  cleanup : CleanupTask
  closeAlls : Nat
  discarded : List Nat
  owner : Option TaskId

namespace Shared

/-- A session before its first call; its input may be frozen or not. -/
def start (session : RelaySessionState) (frozen : Bool) : Shared :=
  ⟨session, frozen, .absent, 0, [], none⟩

/-- A call to `discard_loser`. -/
def discard (shared : Shared) (generation : Nat) : Shared :=
  { shared with discarded := shared.discarded ++ [generation] }

/-- A new session state, installed by `owner`. -/
def install (shared : Shared) (session : RelaySessionState) (owner : Option TaskId) : Shared :=
  { shared with session := session, owner := owner }

end Shared

/-- **One session, its input barrier and every task on it.** -/
structure World where
  shared : Shared
  slots : TaskId → Slot

def World.start (session : RelaySessionState) (frozen : Bool) : World :=
  ⟨.start session frozen, fun _ => .absent⟩

/-! ### Actions -/

/-- What a caller asks of the coordinator. -/
inductive Call
  | observeHealth (observedGeneration : Nat) (health : RelayConnectionHealth) (nowMs : Nat)
  | acceptRemoteOffer (offer : RelayMigrationOffer)
  | terminateSecurity (reason : RelayTerminalSecurityReason)

/-- The sections of a call, its guard and its thaw task, with the environment's answers. -/
inductive Action
  | call (call : Call)
  | refreshed (result : Except RelayClientError VerifiedRelayAccess) (nowMs : Nat)
  | froze (succeeded : Bool)
  | recheck
  | executed (result : Except RelayMigrationFailure RelayMigrationCommit)
  | terminalize
  | finish
  | cancel
  | cancelFreezing
  | guardFirst
  | guardSecond
  | guardThaw
  | thaw

inductive Label
  | task (task : TaskId) (action : Action)
  | cleanupFreeze
  | cleanupFinish

/-- The constants of a coordinator. -/
structure Config where
  sha256 : Sha256
  disconnectedGraceMs : Nat

section Sections

variable (task : TaskId) (shared : Shared) (slot : Slot)

/-- The locked section of `terminalize`, and the wait for the clean-up. -/
def terminalizeBy (reason : RelayTerminalSecurityReason) : Shared × Slot :=
  match shared.session.terminalReason with
  | some existing => (shared, { slot with task := .awaitingCleanup existing })
  | none =>
    ({ shared.install (shared.session.terminalize reason).1 none with cleanup := .freezing },
      { slot with task := .awaitingCleanup reason })

/-- `retryable_or_suppressed`. -/
def retryBy (generation : Nat) (code : RelayMigrationFailureCode) : Shared × Slot :=
  match shared.session.clearPhase generation with
  | some session => (shared.install session none, slot.answer (.ok (.retryable code)))
  | none => (shared, slot.answer (.ok (.suppressedLate generation)))

/-- An admission: the attempt holds a guard and asks for a refresh, if its context allows one. -/
def admitBy (sha256 : Sha256) : RelaySessionState × RelaySessionState.Admission → Shared × Slot
  | (session, .answered result) =>
    (shared.install session shared.owner, { slot with task := .returned result })
  | (session, .admitted attempt) =>
    let held : Slot := { slot with guard := .held attempt.generation }
    match attempt.refreshContext sha256 with
    | .error error => (shared.install session (some task), held.answer (.error error))
    | .ok _ => (shared.install session (some task), { held with task := .refreshing attempt })

/-- A call begins: its first locked section. -/
def Config.begin (config : Config) : Call → Shared × Slot
  | .observeHealth observedGeneration health nowMs =>
    admitBy task shared slot config.sha256
      (shared.session.observeHealth config.disconnectedGraceMs observedGeneration health nowMs)
  | .acceptRemoteOffer offer =>
    admitBy task shared slot config.sha256 (shared.session.acceptRemoteOffer offer)
  | .terminateSecurity reason => terminalizeBy shared slot reason

/-- After the refresh: enter `InFlight`, or end one of the other ways. -/
def planBy (attempt : Attempt) : PlanDecision → Shared × Slot
  | .proceed plan =>
    match shared.session.enterInFlight attempt.generation with
    | some session =>
      (shared.install session (some task), { slot with task := .freezing attempt plan })
    | none => (shared, slot.answer (.ok (.suppressedLate attempt.generation)))
  | .retry code => retryBy shared slot attempt.generation code
  | .terminate reason => terminalizeBy shared slot reason
  | .reject error => (shared, slot.answer (.error error))

/-- After the executor: commit, or end one of the other ways. -/
def executedBy (attempt : Attempt) (plan : Plan) :
    Except RelayMigrationFailure RelayMigrationCommit → Shared × Slot
  | .error failure =>
    if failure.terminalSecurity then terminalizeBy shared slot .routeEvidenceMismatch
    else match shared.session.clearPhase attempt.generation with
      | some session =>
        (shared.install session none,
          { slot with task := .thawing attempt (.retryable failure.code), thaw := .pending })
      | none => (shared, slot.answer (.ok (.suppressedLate attempt.generation)))
  | .ok commit =>
    if attempt.commitMismatch plan commit then
      (shared.discard attempt.generation,
        { slot with task := .terminalizing attempt .routeEvidenceMismatch })
    else match shared.session.commit attempt.generation plan commit.mux with
      | some session =>
        (shared.install session none,
          { slot with task := .thawing attempt (.migrated commit.routeEvidence), thaw := .pending })
      | none => (shared.discard attempt.generation, { slot with task := .late attempt })

/-- The first locked section of the guard's clean-up task. -/
def guardFirstBy (generation : Nat) : Shared × Slot :=
  if shared.session.terminalReason.isSome then (shared, { slot with guard := .finished })
  else if shared.session.phase = .planning generation then
    (shared.install { shared.session with phase := .idle } none, { slot with guard := .finished })
  else if shared.session.phase = .inFlight generation then
    (shared.discard generation, { slot with guard := .resetting generation })
  else (shared, { slot with guard := .finished })

/-- Its second locked section, after the discard. -/
def guardSecondBy (generation : Nat) : Shared × Slot :=
  if shared.session.isInFlight generation then
    (shared.install { shared.session with phase := .idle } none,
      { slot with guard := .thawing generation })
  else (shared, { slot with guard := .finished })

/-- The answer of a call that waits for nothing but other tasks, once they are done. -/
def finishResult : Option RecoveryResult :=
  match slot.task with
  | .thawing _ outcome => if slot.thaw = .finished then some (.ok outcome) else none
  | .late attempt => some (.ok (.suppressedLate attempt.generation))
  | .awaitingCleanup reason =>
    if shared.cleanup = .finished then some (.ok (.terminal reason)) else none
  | _ => none

/-- **One section of a task.** A freeze that fails or is dropped half-way leaves the barrier
frozen. -/
def Config.act (config : Config) : Action → Option (Shared × Slot)
  | .call call =>
    match slot.task with
    | .absent => some (config.begin task shared slot call)
    | _ => none
  | .refreshed result nowMs =>
    match slot.task with
    | .refreshing attempt =>
      some (planBy task shared slot attempt (attempt.plan config.sha256 result nowMs))
    | _ => none
  | .froze succeeded =>
    match slot.task with
    | .freezing attempt plan =>
      some ({ shared with frozen := true }, { slot with
          task :=
            if succeeded then
              if attempt.offer.isSome then .executing attempt plan else .rechecking attempt plan
            else .terminalizing attempt .inputSafetyFailure
          froze := succeeded
          closed := true })
    | _ => none
  | .recheck =>
    match slot.task with
    | .rechecking attempt plan =>
      if shared.session.isInFlight attempt.generation then
        some (shared, { slot with task := .executing attempt plan })
      else some (shared, slot.answer (.ok (.suppressedLate attempt.generation)))
    | _ => none
  | .executed result =>
    match slot.task with
    | .executing attempt plan => some (executedBy shared slot attempt plan result)
    | _ => none
  | .terminalize =>
    match slot.task with
    | .terminalizing _ reason => some (terminalizeBy shared slot reason)
    | _ => none
  | .finish => (finishResult shared slot).map fun result => (shared, slot.answer result)
  | .cancel => if slot.task.running then some (shared, slot.ended .cancelled) else none
  | .cancelFreezing =>
    match slot.task with
    | .freezing _ _ =>
      some ({ shared with frozen := true }, { slot.ended .cancelled with closed := true })
    | _ => none
  | .guardFirst =>
    match slot.guard with
    | .pending generation => some (guardFirstBy shared slot generation)
    | _ => none
  | .guardSecond =>
    match slot.guard with
    | .resetting generation => some (guardSecondBy shared slot generation)
    | _ => none
  | .guardThaw =>
    match slot.guard with
    | .thawing _ => some ({ shared with frozen := false }, { slot with guard := .finished })
    | _ => none
  | .thaw =>
    match slot.thaw with
    | .pending => some ({ shared with frozen := false }, { slot with thaw := .finished })
    | _ => none

end Sections

/-- **One step.** -/
def Config.step (config : Config) (world : World) : Label → Option World
  | .task task action =>
    (config.act task world.shared (world.slots task) action).map fun (shared, slot) =>
      ⟨shared, Function.update world.slots task slot⟩
  | .cleanupFreeze =>
    if world.shared.cleanup = .freezing then
      some { world with
        shared := { world.shared with
          cleanup := .closing, frozen := true, closeAlls := world.shared.closeAlls + 1 } }
    else none
  | .cleanupFinish =>
    if world.shared.cleanup = .closing then
      some { world with shared := { world.shared with cleanup := .finished } }
    else none

end MiniRemoteDesktop.Relay.Failover
