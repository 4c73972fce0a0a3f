/-
**The input barrier, over every interleaving.**

An attempt freezes the input of the session before it hands the session to the executor, and the end
of a session freezes it for good. Thawing is decided with the phase, under the lock, but done later,
by a task of its own that looks at nothing: a thaw that was decided for one attempt can land after
the freeze of the next one, or after the freeze of the terminal clean-up
(`TwoRelays.late_thaw_opens_barrier`).

`Unthawed` excludes this: besides what `Apart` asks, no freeze succeeds while a decided thaw is still
outstanding. Under it the barrier holds (`barrier_of_unthawed`).
-/

import MiniRemoteDesktop.Input.Registry
import MiniRemoteDesktop.Relay.Failover.Ownership

namespace MiniRemoteDesktop

open Option (some_get)
open Function (update_of_ne update_self)

/-! ### The barrier of the service -/

namespace Input.ControlInputRegistry

variable {σ : Type} (injector : InputInjector σ) (order : IterationOrder) (sessionId : SessionId)
  (registry : ControlInputRegistry σ)

end Input.ControlInputRegistry

namespace Relay.Failover

open Execution RelaySessionState

/-! ### Thaws and barred attempts -/

/-- An attempt whose freeze has succeeded and that has not left its phase. -/
def Task.barred : Task → Bool
  | .rechecking _ _ | .executing _ _ => true
  | _ => false

theorem Task.pastFreeze_of_barred {task : Task} (barred : task.barred) : task.pastFreeze := by
  cases task with
  | rechecking | executing => rfl
  | _ => cases barred

/-- A thaw has been decided and not been done. -/
def Slot.thaws (slot : Slot) : Prop :=
  slot.thaw = .pending ∨ ∃ generation, slot.guard = .thawing generation

/-- **An attempt whose freeze has succeeded and whose phase has not been left**, by its call or, once
the call is dropped, by its guard. -/
def World.Barred (world : World) (task : TaskId) : Prop :=
  (world.slots task).task.barred ∨ (world.slots task).froze ∧ world.shared.owner = some task ∧
      ∃ generation, world.shared.session.phase = .inFlight generation

section Acts

variable {config : Config} {task : TaskId} {shared next : Shared} {slot after : Slot}
  {action : Action} (acts : Acts config task shared slot action next after)

include acts

theorem Acts.froze_kept (froze : after.froze) :
    slot.froze ∨ action = .froze true ∧ next.frozen = true := by
  cases acts with
  | froze => exact .inr ⟨rfl, rfl⟩
  | frozeFailed => cases froze
  | _ =>
    exact .inl froze

theorem Acts.barred (barred : after.task.barred) :
    slot.task.barred ∨ action = .froze true ∧ next.frozen = true := by
  cases acts with
  | planned call health since attempt failed =>
    cases failed with
    | some error => cases barred
    | none => cases barred
  | froze => exact .inr ⟨rfl, rfl⟩
  | rechecked attempt plan rechecking =>
    left
    rw [rechecking]
    rfl
  | guardIdle | guardReset | guardDiscard | guardReleased | guardLost | guardThawed | thawed =>
    exact .inl barred
  | _ => cases barred

/-- A call spawns a thaw in the section that gives `InFlight` up. -/
theorem Acts.thaw_spawned (pending : after.thaw = .pending) :
    slot.thaw = .pending ∨ (∃ attempt plan, slot.task.planned = some (attempt, plan)) ∧
      shared.session.terminalReason = none ∧ next.session.terminalReason = none ∧
      next.session.phase = .idle ∧ after.task.barred = false := by
  cases acts with
  | cleared result attempt plan code executing live
  | committed result attempt plan mux executing live =>
    exact .inr ⟨⟨attempt, plan, by rw [executing]; rfl⟩, live, live, rfl, rfl⟩
  | thawed => cases pending
  | _ =>
    exact .inl pending

/-- **A thaw is decided by the owner of the phase**, in the section that gives it up. -/
theorem Acts.thaws_decided (fits : slot.Fits shared task) (thaws : after.thaws) :
    slot.thaws ∨ shared.session.terminalReason = none ∧ shared.owner = some task ∧
      next.session.terminalReason = none ∧ next.session.phase = .idle ∧
      after.task.barred = false := by
  rcases thaws with pending | ⟨generation, thawing⟩
  · rcases acts.thaw_spawned pending with kept | ⟨⟨attempt, plan, planned⟩, live, still, idle, free⟩
    · exact .inl (.inl kept)
    · exact .inr ⟨live, ((fits.inFlight planned).2 live).2, still, idle, free⟩
  · rcases acts.thawing thawing with kept | ⟨resetting, live, same, still, idle⟩
    · exact .inl (.inr ⟨generation, kept⟩)
    · obtain ⟨past, _, holder⟩ := fits.resetting resetting live
      refine .inr ⟨live, holder, still, idle, ?_⟩
      rw [same, ← Bool.not_eq_true]
      intro barred
      have frozen := Task.pastFreeze_of_barred barred
      simp [Task.pastFreeze_of_over past] at frozen

/-- A section thaws, freezes or leaves the barrier alone. -/
theorem Acts.barrier :
    next.frozen = true ∨ next.frozen = shared.frozen ∨
      slot.thaws ∧ next.session = shared.session ∧ next.owner = shared.owner ∧
        after.task = slot.task ∧ after.froze = slot.froze := by
  cases acts with
  | froze | frozeFailed | cancelledFreezing => exact .inl rfl
  | guardThawed generation thawing => exact .inr (.inr ⟨.inr ⟨generation, thawing⟩, rfl, rfl, rfl, rfl⟩)
  | thawed pending => exact .inr (.inr ⟨.inl pending, rfl, rfl, rfl, rfl⟩)
  | _ =>
    exact .inr (.inl rfl)

/-- The barrier stays closed unless the task has a thaw to do. -/
theorem Acts.frozen_kept (closed : shared.frozen = true) (silent : ¬ slot.thaws) :
    next.frozen = true := by
  rcases acts.barrier with frozen | same | ⟨thaws, _⟩
  · exact frozen
  · simp [same, closed]
  · exact absurd thaws silent

end Acts

/-! ### Runs -/

/-- **No freeze while a decided thaw is outstanding**, neither of an attempt nor of the terminal
clean-up. -/
def Unthawed (world : World) (label : Label) : Prop :=
  Apart world label ∧ (label = .cleanupFreeze ∨ (∃ task, label = .task task (.froze true)) →
      ∀ other, ¬ (world.slots other).thaws)

/-- **The barrier**: it is closed for barred attempts and after the terminal clean-up, and an
outstanding thaw finds neither. -/
structure World.Shut (world : World) : Prop where
  owned : world.Owned
  barred : ∀ task, world.Barred task → world.shared.frozen = true
  closed : world.shared.cleanup = .closing ∨ world.shared.cleanup = .finished →
    world.shared.frozen = true
  thaws : ∀ task, (world.slots task).thaws → (∀ other, ¬ world.Barred other) ∧
    world.shared.cleanup ≠ .closing ∧ world.shared.cleanup ≠ .finished

section Runs

variable {config : Config} {world next : World} {label : Label}

theorem World.start_shut (context : RelayAccessContext) (access : VerifiedRelayAccess)
    (directoryId nodeId failureDomain : String) (mux : Mux) (frozen : Bool) :
    (World.start (.installed context access directoryId nodeId failureDomain mux) frozen).Shut := by
  refine ⟨start_owned .., ?_, ?_, ?_⟩
  · rintro task (barred | ⟨froze, _⟩)
    · cases barred
    · cases froze
  · rintro (closing | finished)
    · cases closing
    · cases finished
  · rintro task (pending | ⟨generation, thawing⟩)
    · cases pending
    · cases thawing

section Task

variable {actor : TaskId} {action : Action} {shared : Shared} {after : Slot}
  (acts : Acts config actor world.shared (world.slots actor) action shared after)
  (shut : world.Shut)

include acts shut

theorem World.Shut.barred_before {task : TaskId}
    (barred : World.Barred ⟨shared, Function.update world.slots actor after⟩ task) :
    world.Barred task ∨ action = .froze true ∧ shared.frozen = true := by
  rcases barred with held | keeps
  · by_cases own : task = actor
    · subst own
      simp only [update_self] at held
      exact (acts.barred held).imp_left .inl
    · simp only [update_of_ne own] at held
      exact .inl (.inl held)
  · rcases shut.owned.keeps_before acts (fun early => (shut.owned.early actor early).1) keeps with
      before | ⟨froze, unfrozen⟩
    · exact .inl (.inr before)
    · exact .inr ((acts.froze_kept froze).resolve_left (by rw [unfrozen]; nofun))

/-- A thaw that is outstanding after a section was so before, or has just been decided. -/
theorem World.Shut.thaws_before {task : TaskId}
    (thaws : (Function.update world.slots actor after task).thaws) :
    (world.slots task).thaws ∨ world.shared.session.terminalReason = none ∧
      world.shared.owner = some actor ∧ shared.session.terminalReason = none ∧
      shared.session.phase = .idle ∧ after.task.barred = false := by
  by_cases own : task = actor
  · subst own
    rw [update_self] at thaws
    exact acts.thaws_decided (shut.owned.fits task) thaws
  · rw [update_of_ne own] at thaws
    exact .inl thaws

/-- A section that decides a thaw leaves no attempt barred. -/
theorem World.Shut.free_of_decided (live : world.shared.session.terminalReason = none)
    (owner : world.shared.owner = some actor) (idle : shared.session.phase = .idle)
    (free : after.task.barred = false) (task : TaskId) :
    ¬ World.Barred ⟨shared, Function.update world.slots actor after⟩ task := by
  rintro (held | ⟨_, _, generation, phase⟩)
  · by_cases own : task = actor
    · subst own
      simp [free] at held
    · simp only [update_of_ne own] at held
      have owns := shut.owned.owner_of_pastFreeze live (Task.pastFreeze_of_barred held)
      exact own (Option.some.inj (owns.symm.trans owner))
  · cases idle.symm.trans phase

end Task

/-- **One step keeps the barrier.** -/
theorem Steps.shut (steps : Steps config world label next) (unthawed : Unthawed world label)
    (shut : world.Shut) : next.Shut := by
  have owned := steps.owned unthawed.1 shut.owned
  cases steps with
  | cleanupFreeze freezing =>
    exact ⟨owned, fun _ _ => rfl, fun _ => rfl,
      fun task thaws => absurd thaws (unthawed.2 (.inl rfl) task)⟩
  | cleanupFinish closing =>
    exact ⟨owned, shut.barred, fun _ => shut.closed (.inl closing),
      fun task thaws => absurd closing (shut.thaws task thaws).2.1⟩
  | task actor action shared after acts =>
    refine ⟨owned, ?_, ?_, ?_⟩
    · intro task barred
      rcases shut.barred_before acts barred with before | ⟨_, frozen⟩
      · exact acts.frozen_kept (shut.barred task before)
          fun thaws => (shut.thaws actor thaws).1 task before
      · exact frozen
    · intro closed
      rcases acts.cleanup with ⟨_, _, same, _⟩ | ⟨_, _, _, freezing, _⟩
      · have closed : world.shared.cleanup = .closing ∨ world.shared.cleanup = .finished :=
          same ▸ closed
        refine acts.frozen_kept (shut.closed closed) fun thaws => ?_
        obtain ⟨_, closing, finished⟩ := shut.thaws actor thaws
        exact closed.elim closing finished
      · rcases closed with closing | finished
        · cases freezing.symm.trans closing
        · cases freezing.symm.trans finished
    · intro task thaws
      rcases shut.thaws_before acts thaws with before | ⟨live, owner, still, idle, free⟩
      · obtain ⟨none, closing, finished⟩ := shut.thaws task before
        refine ⟨?_, ?_⟩
        · intro other barred
          rcases shut.barred_before acts barred with held | ⟨froze, _⟩
          · exact none other held
          · exact unthawed.2 (.inr ⟨actor, by rw [froze]⟩) task before
        · rcases acts.cleanup with ⟨_, _, same, _⟩ | ⟨_, _, _, freezing, _⟩
          · simpa [same] using ⟨closing, finished⟩
          · simp [freezing]
      · refine ⟨shut.free_of_decided acts live owner idle free, ?_⟩
        have absent : shared.cleanup = .absent := (owned.ends.live still).2.1
        simp [absent]

end Runs

/-- **The barrier holds**, in every interleaving that freezes only after the decided thaws are done:
it is closed while an attempt whose freeze has succeeded is in its phase, and from the freeze of the
terminal clean-up on. -/
theorem barrier_of_unthawed (config : Config) (context : RelayAccessContext)
    (access : VerifiedRelayAccess) (directoryId nodeId failureDomain : String) (mux : Mux)
    (frozen : Bool) {world : World}
    (reach : Reach config.step Unthawed
      (.start (.installed context access directoryId nodeId failureDomain mux) frozen) world) :
    (∀ task, world.Barred task → world.shared.frozen = true) ∧
      (world.shared.cleanup = .closing ∨ world.shared.cleanup = .finished →
        world.shared.frozen = true) := by
  have shut : world.Shut := reach.invariant (World.start_shut ..) fun _ _ _ shut unthawed taken =>
    (step_steps taken).shut unthawed shut
  exact ⟨shut.barred, shut.closed⟩

namespace TwoRelays

def isUnthawed (world : World) (label : Label) : Bool :=
  isApart world label && match label with
  | .cleanupFreeze | .task _ (.froze true) => [0, 1].all fun other =>
    decide ((world.slots other).thaw ≠ .pending) && !Guard.isThawing (world.slots other).guard
  | _ => true

theorem unthawed_of_isUnthawed {world : World} {label : Label} (ofTwo : OfTwo world)
    (checked : isUnthawed world label) : Unthawed world label := by
  obtain ⟨apart, silent⟩ := Bool.and_eq_true_iff.mp checked
  refine ⟨apart_of_isApart ofTwo apart, fun freezes other thaws => ?_⟩
  have both : [0, 1].all fun other => decide ((world.slots other).thaw ≠ .pending) &&
      !Guard.isThawing (world.slots other).guard := by
    rcases freezes with rfl | ⟨task, rfl⟩
    · exact silent
    · exact silent
  have none := ofTwo.all (fun slot => decide (slot.thaw ≠ .pending) &&
    !Guard.isThawing slot.guard) rfl both other
  obtain ⟨spawned, decided⟩ := Bool.and_eq_true_iff.mp none
  rcases thaws with pending | ⟨generation, thawing⟩
  · exact of_decide_eq_true spawned pending
  · rw [thawing] at decided
    cases decided

/-- The first attempt fails with the executor and has thawed the input when the second one freezes it
again. -/
def frozenAgain : List Label :=
  fails 0 :: proceeds 0 ++ [breaks 0, .task 0 .thaw, .task 0 .finish, fails 1,
    .task 1 (.refreshed (.ok access) 0), .task 1 (.froze true)]

theorem barrier_of_unthawed_barred : ∃ world, runChecked isUnthawed config.step start frozenAgain =
    some world ∧ world.Barred 1 ∧ world.shared.frozen = true := by
  have seen : (runChecked isUnthawed config.step start frozenAgain).map
      (fun world => (world.slots 1).task.barred) = some true := by decide
  obtain ⟨world, reached, barred⟩ := Option.map_eq_some_iff.mp seen
  refine ⟨world, reached, .inl barred, ?_⟩
  refine (barrier_of_unthawed config context access "directory" "relay-a" "relay-a" 0 false
    (runChecked_reach_of reached (I := OfTwo) (fun _ _ => rfl) ?_ ?_)).1 1 (.inl barred)
  · intro world label next ofTwo checked taken
    exact ofTwo.step (Bool.and_eq_true_iff.mp (Bool.and_eq_true_iff.mp checked).1).1 taken
  · exact fun world label ofTwo checked => unthawed_of_isUnthawed ofTwo checked

/-- The first attempt fails with the executor, the second one freezes the input, and then the thaw of
the first one is done. -/
def thawing : List Label :=
  fails 0 :: proceeds 0 ++ breaks 0 :: fails 1 :: proceeds 1 ++ [.task 0 .thaw]

theorem thawed_enabled : (run config.step start thawing).isSome := by
  decide

def thawed : World := (run config.step start thawing).get thawed_enabled

/-- The first attempt fails with the executor, the session ends and is cleaned up, and then the thaw
of the first one is done. -/
def reopening : List Label :=
  fails 0 :: proceeds 0 ++ [breaks 0, .task 1 (.call (.terminateSecurity .relayRevoked)),
    .cleanupFreeze, .cleanupFinish, .task 0 .thaw]

theorem reopened_enabled : (run config.step start reopening).isSome := by
  decide

def reopened : World := (run config.step start reopening).get reopened_enabled

/-- **A late thaw opens the barrier**, of a running attempt and of a session that has ended. -/
theorem late_thaw_opens_barrier :
    ¬ (∀ world, Reach config.step always start world →
        ∀ task, world.Barred task → world.shared.frozen = true) ∧
      ¬ ∀ world, Reach config.step always start world →
        world.shared.cleanup = .finished → world.shared.frozen = true := by
  constructor
  · intro barrier
    have frozen := barrier thawed (run_reach (some_get thawed_enabled).symm) 1 (.inl (by decide))
    have opened : thawed.shared.frozen = false := by decide
    cases opened.symm.trans frozen
  · intro barrier
    have frozen := barrier reopened (run_reach (some_get reopened_enabled).symm) (by decide)
    have opened : reopened.shared.frozen = false := by decide
    cases opened.symm.trans frozen

end TwoRelays

end Relay.Failover

end MiniRemoteDesktop
