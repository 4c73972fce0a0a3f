/-
**Who may leave a phase.**

An attempt installs `Planning` and `InFlight` for its generation, and every later section checks the
phase before it writes. The check compares generations, and a generation is used up only on the way
into `InFlight`: an attempt that fails before that leaves a guard behind whose generation the next
attempt takes again. The guard then finds "its" `Planning` and resets the phase of a running attempt
(`TwoRelays.stale_guard_resets_phase`). A guard also thaws the input after it has given the phase up,
when the next attempt may have frozen it.

`Undisturbed` excludes the two: no attempt begins while a guard of its generation is pending, and no
freeze is done, with whatever answer, while a guard is about to thaw. Under it every phase is left by
its owner alone, and no guard opens the barrier that another attempt has closed
(`exclusive_of_undisturbed`).
-/

import MiniRemoteDesktop.Relay.Failover.Terminal

namespace MiniRemoteDesktop.Relay.Failover

open Option (some_get)
open Function (update_of_ne update_self)
open Execution RelaySessionState

/-! ### Ownership -/

/-- Unless the session has ended, it is in this phase, and the task installed it. -/
def Shared.Holds (shared : Shared) (task : TaskId) (phase : RelayMigrationPhase) : Prop :=
  shared.session.terminalReason = none → shared.session.phase = phase ∧ shared.owner = some task

/-- What a guard of an attempt that is over can rely on. -/
def Guard.Fits (shared : Shared) (task : TaskId) : Guard → Prop
  | held _ => False
  | pending generation =>
    shared.session.phase = .planning generation ∨ shared.session.phase = .inFlight generation →
      shared.owner = some task
  | resetting generation => shared.Holds task (.inFlight generation)
  | absent | thawing _ | finished => True

/-- **What a task and its guard can rely on** in each section. -/
def Slot.Fits (shared : Shared) (task : TaskId) (slot : Slot) : Prop :=
  match slot.task with
  | .absent => slot.guard = .absent
  | .refreshing attempt =>
    slot.guard = .held attempt.generation ∧ shared.Holds task (.planning attempt.generation)
  | .freezing attempt _ | .rechecking attempt _ | .executing attempt _ | .terminalizing attempt _ =>
    slot.guard = .held attempt.generation ∧ shared.Holds task (.inFlight attempt.generation)
  | .thawing attempt _ =>
    slot.guard = .held attempt.generation ∧
      attempt.generation ≤ shared.session.highestAttemptedGeneration ∧
      shared.session.phase ≠ .inFlight attempt.generation
  | .late _ | .awaitingCleanup _ => shared.session.terminalReason ≠ none
  | .returned _ | .cancelled => slot.guard.Fits shared task

variable (task : TaskId) (shared next : Shared) in
/-- **How a section of a task changes the phase and its owner.** -/
inductive Hands : Prop
  | kept : next.session.terminalReason = shared.session.terminalReason →
      next.session.phase = shared.session.phase →
      next.session.highestAttemptedGeneration = shared.session.highestAttemptedGeneration →
      next.owner = shared.owner → Hands
  | taken : shared.session.terminalReason = none → shared.session.phase = .idle →
      next.session.phase = .planning (shared.session.highestAttemptedGeneration + 1) →
      next.session.highestAttemptedGeneration = shared.session.highestAttemptedGeneration →
      next.owner = some task → Hands
  | entered (generation : Nat) : shared.session.terminalReason = none →
      shared.session.phase = .planning generation → shared.owner = some task →
      next.session.phase = .inFlight generation →
      next.session.highestAttemptedGeneration = generation → next.owner = some task →
      Hands
  | released : shared.session.terminalReason = none → shared.owner = some task →
      next.session.phase = .idle →
      next.session.highestAttemptedGeneration = shared.session.highestAttemptedGeneration →
      Hands
  | ended : next.session.terminalReason ≠ none → next.session.phase = .terminal →
      next.session.highestAttemptedGeneration = shared.session.highestAttemptedGeneration →
      Hands

variable {phase : RelayMigrationPhase}

theorem not_installed (bare : phase = .idle ∨ phase = .terminal) (generation : Nat) :
    ¬ (phase = .planning generation ∨ phase = .inFlight generation) := by
  rcases bare with rfl | rfl
  · simp
  · simp

variable {guard : Guard}

section Stable

variable {task other : TaskId} {shared next : Shared} {slot : Slot}

theorem Shared.Holds.stable (holds : shared.Holds other phase) (hands : Hands task shared next)
    (apart : other ≠ task) (installed : phase ≠ .idle) :
    next.Holds other phase := by
  intro live
  cases hands with
  | kept reason same highest owner =>
    rw [same, owner]
    exact holds (reason ▸ live)
  | taken before idle =>
    exact absurd ((holds before).1.symm.trans idle) installed
  | entered generation before planning owner | released before owner =>
    exact absurd (Option.some.inj ((holds before).2.symm.trans owner)) apart
  | ended terminal => exact absurd live terminal

theorem Guard.Fits.stable (fits : guard.Fits shared other) (hands : Hands task shared next)
    (apart : other ≠ task)
    (fresh : shared.session.phase = .idle → next.session.phase =
      .planning (shared.session.highestAttemptedGeneration + 1) → guard ≠ .pending
        (shared.session.highestAttemptedGeneration + 1)) :
    guard.Fits next other := by
  cases guard with
  | held generation => exact fits
  | absent | thawing | finished => trivial
  | resetting generation => exact Shared.Holds.stable fits hands apart nofun
  | pending generation =>
    intro phase
    cases hands with
    | kept reason same highest owner =>
      rw [owner]
      exact fits (same ▸ phase)
    | taken live idle planning highest owner =>
      rcases phase with again | inFlight
      · cases planning.symm.trans again
        exact absurd rfl (fresh idle planning)
      · cases planning.symm.trans inFlight
    | entered current live planning owner inFlight =>
      rcases phase with again | same
      · cases inFlight.symm.trans again
      · cases inFlight.symm.trans same
        exact absurd (Option.some.inj ((fits (.inl planning)).symm.trans owner)) apart
    | released live owner idle => exact absurd phase (not_installed (.inl idle) generation)
    | ended terminal final => exact absurd phase (not_installed (.inr final) generation)

/-- **A slot is not disturbed by the sections of the other tasks.** -/
theorem Slot.Fits.stable (fits : slot.Fits shared other) (hands : Hands task shared next)
    (apart : other ≠ task) (numbered : shared.session.Numbered)
    (kept : shared.session.terminalReason ≠ none → next.session.terminalReason ≠ none)
    (fresh : shared.session.phase = .idle →
      next.session.phase = .planning (shared.session.highestAttemptedGeneration + 1) →
      slot.guard ≠ .pending (shared.session.highestAttemptedGeneration + 1)) :
    slot.Fits next other := by
  unfold Slot.Fits at fits ⊢
  cases same : slot.task with
  | absent =>
    simpa [same] using fits
  | late | awaitingCleanup =>
    rw [same] at fits
    exact kept fits
  | returned | cancelled =>
    rw [same] at fits
    exact Guard.Fits.stable fits hands apart fresh
  | thawing attempt outcome =>
    rw [same] at fits
    obtain ⟨held, below, gone⟩ := fits
    refine ⟨held, ?_⟩
    cases hands with
    | kept reason same highest owner =>
      rw [highest, same]
      exact ⟨below, gone⟩
    | taken live idle planning highest =>
      rw [highest, planning]
      exact ⟨below, nofun⟩
    | entered generation live planning owner inFlight highest =>
      have following := numbered.planning generation planning
      rw [highest, inFlight]
      refine ⟨by omega, ?_⟩
      rintro ⟨⟩
      omega
    | released live owner idle highest =>
      rw [highest, idle]
      exact ⟨below, nofun⟩
    | ended terminal phase highest =>
      rw [highest, phase]
      exact ⟨below, nofun⟩
  | _ =>
    rw [same] at fits
    exact ⟨fits.1, fits.2.stable hands apart nofun⟩

end Stable

/-! ### The section of a task and its own slot -/

variable {generation : Nat}

section Own

variable {config : Config} {task : TaskId} {shared next : Shared} {slot after : Slot}
  {action : Action}

section

variable (fits : slot.Fits shared task)
include fits

/-- The guard of a call is not held once the call is over or waits for the end of the session. -/
theorem Slot.Fits.loose (begun : slot.guard ≠ .absent) (dropped : slot.guard.dropped = slot.guard) :
    slot.task.running = false ∧ slot.task ≠ .absent ∧ slot.guard.Fits shared task ∨
      shared.session.terminalReason ≠ none ∧
        ((∃ attempt, slot.task = .late attempt) ∨ ∃ reason, slot.task = .awaitingCleanup reason) := by
  have loose : ∀ generation, slot.guard ≠ .held generation := by
    intro generation held
    rw [held] at dropped
    cases dropped
  unfold Slot.Fits at fits
  cases same : slot.task with
  | absent =>
    rw [same] at fits
    exact absurd fits begun
  | late attempt =>
    rw [same] at fits
    exact .inr ⟨fits, .inl ⟨attempt, rfl⟩⟩
  | awaitingCleanup reason =>
    rw [same] at fits
    exact .inr ⟨fits, .inr ⟨reason, rfl⟩⟩
  | returned | cancelled =>
    rw [same] at fits
    exact .inl ⟨rfl, nofun, fits⟩
  | _ =>
    rw [same] at fits
    exact absurd fits.1 (loose _)

theorem Slot.Fits.pending (pending : slot.guard = .pending generation)
    (live : shared.session.terminalReason = none) :
    slot.task.running = false ∧ slot.task ≠ .absent ∧ (Guard.pending generation).Fits shared task := by
  rw [← pending]
  exact (fits.loose (by rw [pending]; nofun) (by rw [pending]; rfl)).resolve_right
    fun ended => ended.1 live

theorem Slot.Fits.resetting (resetting : slot.guard = .resetting generation)
    (live : shared.session.terminalReason = none) :
    slot.task.running = false ∧ slot.task ≠ .absent ∧ shared.owner = some task := by
  obtain ⟨stopped, begun, holds⟩ := (fits.loose (by rw [resetting]; nofun)
    (by rw [resetting]; rfl)).resolve_right fun ended => ended.1 live
  rw [resetting] at holds
  exact ⟨stopped, begun, (holds live).2⟩

theorem Slot.Fits.refreshing {attempt : Attempt} (refreshing : slot.task = .refreshing attempt) :
    slot.guard = .held attempt.generation ∧ shared.Holds task (.planning attempt.generation) := by
  simpa [Slot.Fits, refreshing] using fits

/-- The attempts that hold `InFlight`. -/
theorem Slot.Fits.inFlight {attempt : Attempt} {plan : Plan}
    (planned : slot.task.planned = some (attempt, plan)) :
    slot.guard = .held attempt.generation ∧ shared.Holds task (.inFlight attempt.generation) := by
  unfold Slot.Fits at fits
  unfold Task.planned at planned
  split at planned
  next same =>
    cases planned
    simpa [same] using fits
  next same =>
    cases planned
    simpa [same] using fits
  next same =>
    cases planned
    simpa [same] using fits
  · cases planned

end

/-- **A section changes the phase it owns, or none.** -/
theorem Acts.hands (acts : Acts config task shared slot action next after)
    (fits : slot.Fits shared task)
    (running : shared.session.terminalReason = none → shared.session.phase ≠ .terminal) :
    Hands task shared next := by
  cases acts with
  | planned call health since attempt failed absent live phase numbered domain begins =>
    have idle : shared.session.phase = .idle := phase.resolve_right (running live)
    exact .taken live idle (by rw [← numbered]; rfl) rfl rfl
  | entered result nowMs attempt plan refreshing decided live phase =>
    exact .entered attempt.generation live phase ((fits.refreshing refreshing).2 live).2 rfl rfl rfl
  | retried _ attempt code refreshing live =>
    exact .released live ((fits.refreshing refreshing).2 live).2 rfl rfl
  | terminated _ reason alive live => exact .ended nofun rfl rfl
  | cleared result attempt plan code executing live
  | committed result attempt plan mux executing live =>
    have planned : slot.task.planned = some (attempt, plan) := by rw [executing]; rfl
    exact .released live ((fits.inFlight planned).2 live).2 rfl rfl
  | guardReset generation pending live phase =>
    exact .released live ((fits.pending pending live).2.2 (.inl phase)) rfl rfl
  | guardReleased generation resetting live phase =>
    exact .released live (fits.resetting resetting live).2.2 rfl rfl
  | _ => exact .kept rfl rfl rfl rfl

/-- The guard of an attempt that gives up in its own phase. -/
theorem Shared.Holds.pending (holds : shared.Holds task phase)
    (ended : shared.session.terminalReason ≠ none → shared.session.phase = .terminal)
    (generation : Nat) : (Guard.pending generation).Fits shared task := by
  intro installed
  by_cases live : shared.session.terminalReason = none
  · exact (holds live).2
  · exact absurd installed (not_installed (.inr (ended live)) generation)

/-- The guard of an attempt that gives up after the session has ended. -/
theorem Guard.fits_of_ended (guard : Guard) (past : shared.session.terminalReason ≠ none)
    (ended : shared.session.terminalReason ≠ none → shared.session.phase = .terminal) :
    guard.dropped.Fits shared task := by
  have holds : shared.Holds task .idle := fun live => absurd live past
  have pending : ∀ generation, (Guard.pending generation).Fits shared task := holds.pending ended
  cases guard with
  | held generation | pending generation => exact pending generation
  | resetting generation => exact fun live => absurd live past
  | absent | thawing | finished => trivial

theorem Guard.Fits.dropped (fits : guard.Fits shared task) :
    guard.dropped.Fits shared task := by
  cases guard with
  | held generation => exact fits.elim
  | _ => exact fits

/-- **However a call is dropped, its guard fits.** -/
theorem Slot.Fits.dropped (fits : slot.Fits shared task) (numbered : shared.session.Numbered)
    (ended : shared.session.terminalReason ≠ none → shared.session.phase = .terminal) :
    slot.guard.dropped.Fits shared task := by
  unfold Slot.Fits at fits
  cases same : slot.task with
  | absent =>
    rw [same] at fits
    rw [fits]
    trivial
  | thawing attempt outcome =>
    rw [same] at fits
    obtain ⟨held, below, gone⟩ := fits
    rw [held]
    rintro (planning | inFlight)
    · have following := numbered.planning _ planning
      omega
    · exact absurd inFlight gone
  | late | awaitingCleanup =>
    rw [same] at fits
    exact Guard.fits_of_ended slot.guard fits ended
  | returned | cancelled =>
    rw [same] at fits
    exact Guard.Fits.dropped fits
  | _ =>
    rw [same] at fits
    rw [fits.1]
    exact fits.2.pending ended _

theorem Slot.fits_of_over (begun : slot.task ≠ .absent) (past : slot.task.running = false)
    (guard : slot.guard.Fits shared task) : slot.Fits shared task := by
  unfold Slot.Fits
  cases same : slot.task with
  | absent => exact absurd same begun
  | returned | cancelled => exact guard
  | _ =>
    rw [same] at past
    cases past

theorem Slot.Fits.move_guard (fits : slot.Fits shared task) (begun : slot.guard ≠ .absent)
    (dropped : slot.guard.dropped = slot.guard) (moved : guard.Fits shared task) :
    { slot with guard := guard }.Fits shared task := by
  rcases fits.loose begun dropped with ⟨past, present, _⟩ | ⟨ended, ⟨attempt, late⟩ | ⟨reason, awaits⟩⟩
  · exact Slot.fits_of_over present past moved
  · simp [Slot.Fits, late, ended]
  · simp [Slot.Fits, awaits, ended]

/-- **A section leaves its own slot fitting.** -/
theorem Acts.fits (acts : Acts config task shared slot action next after)
    (fits : slot.Fits shared task) (numbered : shared.session.Numbered)
    (ended : shared.session.terminalReason ≠ none → shared.session.phase = .terminal) :
    after.Fits next task := by
  have past : ∀ {done : Task}, done ≠ .absent → done.running = false →
      (slot.ended done).Fits shared task :=
    fun begun stopped => Slot.fits_of_over begun stopped (fits.dropped numbered ended)
  have executing : ∀ {attempt plan}, slot.task = .executing attempt plan →
      slot.guard = .held attempt.generation ∧ shared.Holds task (.inFlight attempt.generation) :=
    fun same => fits.inFlight (by rw [same]; rfl)
  have freezing : ∀ {attempt plan}, slot.task = .freezing attempt plan →
      slot.guard = .held attempt.generation ∧ shared.Holds task (.inFlight attempt.generation) :=
    fun same => fits.inFlight (by rw [same]; rfl)
  cases acts with
  | refused call reason absent terminal | answered call health since result absent live other =>
    unfold Slot.Fits at fits
    rw [absent] at fits
    exact Slot.fits_of_over nofun rfl (by rw [fits]; trivial)
  | planned call health since attempt failed absent live phase following domain begins =>
    cases failed with
    | some error => exact fun _ => rfl
    | none => exact ⟨rfl, fun _ => ⟨rfl, rfl⟩⟩
  | entered result nowMs attempt plan refreshing decided live phase =>
    exact ⟨(fits.refreshing refreshing).1, fun _ => ⟨rfl, rfl⟩⟩
  | suppressed => exact past nofun rfl
  | retried _ attempt code refreshing live phase =>
    refine Slot.fits_of_over nofun rfl ?_
    show slot.guard.dropped.Fits _ _
    rw [(fits.refreshing refreshing).1]
    exact fun installed => absurd installed (not_installed (.inl rfl) attempt.generation)
  | rejected => exact past nofun rfl
  | terminated => exact nofun
  | joined _ existing alive terminal => exact fun live => nomatch live.symm.trans terminal
  | froze attempt plan following before options =>
    rcases options with rfl | rfl
    · exact freezing before
    · exact freezing before
  | frozeFailed attempt plan before => exact freezing before
  | rechecked attempt plan rechecking => exact fits.inFlight (by rw [rechecking]; rfl)
  | cleared result attempt plan code before live phase =>
    obtain ⟨held, holds⟩ := executing before
    exact ⟨held, le_of_eq (numbered.inFlight _ (holds live).1).1, nofun⟩
  | mismatched result attempt plan before => exact executing before
  | committed result attempt plan mux before live phase =>
    obtain ⟨held, holds⟩ := executing before
    exact ⟨held, le_of_eq (numbered.inFlight _ phase).1, nofun⟩
  | lost result attempt plan before gone =>
    intro live
    rcases gone with terminal | phase
    · exact terminal live
    · exact phase ((executing before).2 live).1
  | finished => exact past nofun rfl
  | cancelled => exact past nofun rfl
  | cancelledFreezing =>
    have stopped : (slot.ended .cancelled).Fits shared task := past nofun rfl
    exact stopped
  | guardIdle generation pending =>
    exact fits.move_guard (by rw [pending]; nofun) (by rw [pending]; rfl) trivial
  | guardReset generation pending live phase =>
    obtain ⟨stopped, begun, _⟩ := fits.pending pending live
    exact Slot.fits_of_over begun stopped trivial
  | guardDiscard generation pending live phase =>
    obtain ⟨_, _, own⟩ := fits.pending pending live
    have moved : (Guard.resetting generation).Fits shared task := fun _ => ⟨phase, own (.inr phase)⟩
    exact fits.move_guard (by rw [pending]; nofun) (by rw [pending]; rfl) moved
  | guardReleased generation resetting live phase =>
    obtain ⟨stopped, begun, _⟩ := fits.resetting resetting live
    exact Slot.fits_of_over begun stopped trivial
  | guardLost generation resetting =>
    exact fits.move_guard (by rw [resetting]; nofun) (by rw [resetting]; rfl) trivial
  | guardThawed generation thawing =>
    exact fits.move_guard (by rw [thawing]; nofun) (by rw [thawing]; rfl) trivial
  | thawed => exact fits

end Own

/-! ### Runs -/

/-- The sections of a call before its freeze. -/
def Task.early : Task → Bool
  | .absent | .refreshing _ | .freezing _ _ => true
  | _ => false

/-- The sections of a call after its freeze, whatever the freeze has answered, until the call has left
its phase. -/
def Task.pastFreeze : Task → Bool
  | .rechecking _ _ | .executing _ _ | .terminalizing _ _ => true
  | _ => false

/-- A freeze that is done, refused or dropped half-way. -/
def Action.freezes : Action → Bool
  | .froze _ | .cancelFreezing => true
  | _ => false

def Label.freezes : Label → Bool
  | .task _ action => action.freezes
  | _ => false

/-- **No attempt begins while a guard of its generation is pending.** -/
def Apart (world : World) : Label → Prop
  | .task _ (.call call) =>
    world.shared.session.phase = .idle → call.asks world.shared.session →
      ∀ other, (world.slots other).guard ≠
        .pending (world.shared.session.highestAttemptedGeneration + 1)
  | _ => True

/-- **Nor is a freeze done while a guard is about to thaw**, whatever the freeze answers. -/
def Undisturbed (world : World) (label : Label) : Prop :=
  Apart world label ∧
    (label.freezes → ∀ other generation, (world.slots other).guard ≠ .thawing generation)

/-- An attempt that has left this mark on its slot and holds `InFlight`. -/
def World.Keeps (world : World) (mark : Slot → Bool) (task : TaskId) : Prop :=
  mark (world.slots task) ∧ world.shared.owner = some task ∧
    ∃ generation, world.shared.session.phase = .inFlight generation

/-- **An attempt that has closed the barrier and not left its phase**: its call is past the freeze, or
the call was dropped and the attempt still holds `InFlight`. -/
def World.Closes (world : World) (task : TaskId) : Prop :=
  (world.slots task).task.pastFreeze ∨ world.Keeps (·.closed) task

/-- **Every slot fits**, and a call leaves no mark before its freeze. -/
structure World.Owned (world : World) : Prop where
  numbered : world.Numbered
  ends : world.Ends
  owner : ∀ generation, world.shared.session.phase = .planning generation ∨
    world.shared.session.phase = .inFlight generation → world.shared.owner ≠ none
  fits : ∀ task, (world.slots task).Fits world.shared task
  early : ∀ task, (world.slots task).task.early →
    (world.slots task).froze = false ∧ (world.slots task).closed = false

/-- **No guard is about to open the barrier that an attempt has closed.** -/
structure World.Sheltered (world : World) : Prop extends World.Owned world where
  thaws : ∀ task generation, (world.slots task).guard = .thawing generation →
    ∀ other, ¬ world.Closes other

theorem Guard.thawing_of_dropped (dropped : guard.dropped = .thawing generation) :
    guard = .thawing generation := by
  cases guard with
  | held other => cases dropped
  | _ => exact dropped

section Acts

variable {config : Config} {task : TaskId} {shared next : Shared} {slot after : Slot}
  {action : Action} (acts : Acts config task shared slot action next after)

include acts

/-- A guard is about to thaw once it has given up the phase of its attempt. -/
theorem Acts.thawing (thaws : after.guard = .thawing generation) :
    slot.guard = .thawing generation ∨
      slot.guard = .resetting generation ∧ shared.session.terminalReason = none ∧
        after.task = slot.task ∧ next.session.terminalReason = none ∧ next.session.phase = .idle := by
  cases acts with
  | planned call health since attempt failed =>
    cases failed with
    | some error => cases thaws
    | none => cases thaws
  | guardReleased other resetting live phase =>
    cases thaws
    exact .inr ⟨resetting, live, rfl, live, rfl⟩
  | suppressed | retried | rejected | finished | cancelled | cancelledFreezing =>
    exact .inl (Guard.thawing_of_dropped thaws)
  | guardIdle | guardReset | guardDiscard | guardLost | guardThawed => cases thaws
  | _ => exact .inl thaws

theorem Acts.early_kept (early : after.task.early) :
    slot.task.early ∧ after.froze = slot.froze ∧ after.closed = slot.closed := by
  cases acts with
  | planned call health since attempt failed absent =>
    rw [absent]
    exact ⟨rfl, rfl, rfl⟩
  | entered result nowMs attempt plan refreshing =>
    rw [refreshing]
    exact ⟨rfl, rfl, rfl⟩
  | froze attempt plan following freezing options =>
    rcases options with rfl | rfl
    · cases early
    · cases early
  | guardIdle | guardReset | guardDiscard | guardReleased | guardLost | guardThawed | thawed =>
    exact ⟨early, rfl, rfl⟩
  | _ => cases early

/-- A call enters `InFlight` before its freeze. -/
theorem Acts.early_of_entered {entered : Nat} (planning : shared.session.phase = .planning generation)
    (inFlight : next.session.phase = .inFlight entered) : slot.task.early := by
  cases acts with
  | entered result nowMs attempt plan refreshing =>
    rw [refreshing]
    rfl
  | planned | retried | terminated | cleared | committed | guardReset | guardReleased =>
    cases inFlight
  | _ => cases planning.symm.trans inFlight

theorem Acts.pastFreeze_before (past : after.task.pastFreeze) :
    slot.task.pastFreeze ∨ action.freezes := by
  cases acts with
  | planned call health since attempt failed =>
    cases failed with
    | some error => cases past
    | none => cases past
  | froze | frozeFailed => exact .inr rfl
  | rechecked attempt plan same | mismatched result attempt plan same =>
    rw [same]
    exact .inl rfl
  | guardIdle | guardReset | guardDiscard | guardReleased | guardLost | guardThawed | thawed =>
    exact .inl past
  | _ => cases past

theorem Acts.closed_before (closed : after.closed) : slot.closed ∨ action.freezes := by
  cases acts with
  | froze | frozeFailed | cancelledFreezing => exact .inr rfl
  | _ => exact .inl closed

end Acts

/-- A call past its freeze still holds `InFlight`, unless the session has ended. -/
theorem Slot.Fits.pastFreeze {task : TaskId} {shared : Shared} {slot : Slot}
    (fits : slot.Fits shared task) (past : slot.task.pastFreeze) :
    ∃ generation, shared.Holds task (.inFlight generation) := by
  unfold Slot.Fits at fits
  unfold Task.pastFreeze at past
  split at past
  next same =>
    rw [same] at fits
    exact ⟨_, fits.2⟩
  next same =>
    rw [same] at fits
    exact ⟨_, fits.2⟩
  next same =>
    rw [same] at fits
    exact ⟨_, fits.2⟩
  · cases past

theorem Task.pastFreeze_of_over {task : Task} (past : task.running = false) :
    task.pastFreeze = false := by
  cases task with
  | rechecking | executing | terminalizing => cases past
  | _ => rfl

variable {task : TaskId}

section Runs

variable {config : Config} {world next : World} {label : Label}

theorem World.start_owned (context : RelayAccessContext) (access : VerifiedRelayAccess)
    (directoryId nodeId failureDomain : String) (mux : Mux) (frozen : Bool) :
    (World.start (.installed context access directoryId nodeId failureDomain mux) frozen).Owned := by
  refine ⟨start_numbered .., start_ends .., ?_, fun _ => rfl, fun _ _ => ⟨rfl, rfl⟩⟩
  intro generation installed
  exact absurd installed (not_installed (.inl rfl) generation)

theorem Hands.owner {shared next : Shared} (hands : Hands task shared next)
    (owned : ∀ generation, shared.session.phase = .planning generation ∨ shared.session.phase =
      .inFlight generation → shared.owner ≠ none)
    (generation : Nat)
    (installed : next.session.phase = .planning generation ∨ next.session.phase = .inFlight generation) :
    next.owner ≠ none := by
  cases hands with
  | kept reason same highest owner =>
    rw [owner]
    exact owned generation (same ▸ installed)
  | taken _ _ _ _ owner | entered _ _ _ _ _ _ owner =>
    rw [owner]
    nofun
  | released _ _ idle => exact absurd installed (not_installed (.inl idle) generation)
  | ended _ terminal => exact absurd installed (not_installed (.inr terminal) generation)

/-- A call past its freeze owns the phase of a session that has not ended. -/
theorem World.Owned.owner_of_pastFreeze (owned : world.Owned)
    (live : world.shared.session.terminalReason = none)
    (past : (world.slots task).task.pastFreeze) : world.shared.owner = some task := by
  obtain ⟨generation, holds⟩ := (owned.fits task).pastFreeze past
  exact (holds live).2

section Task

variable {actor : TaskId} {action : Action} {shared : Shared} {after : Slot}
  (acts : Acts config actor world.shared (world.slots actor) action shared after)
  (owned : world.Owned)

include acts owned

theorem World.Owned.hands : Hands actor world.shared shared :=
  acts.hands (owned.fits actor) fun live => (owned.ends.live live).1

/-- **An attempt that holds `InFlight` with a mark did so before the section**, unless the section made
the mark. -/
theorem World.Owned.keeps_before {mark : Slot → Bool}
    (unmarked : (world.slots actor).task.early → mark (world.slots actor) = false)
    (keeps : World.Keeps ⟨shared, Function.update world.slots actor after⟩ mark task) :
    world.Keeps mark task ∨ mark after ∧ mark (world.slots actor) = false := by
  obtain ⟨marked, owner, generation, phase⟩ := keeps
  have hands := owned.hands acts
  by_cases own : task = actor
  · subst own
    simp only [update_self] at marked
    cases before : mark (world.slots task) with
    | false => exact .inr ⟨marked, rfl⟩
    | true =>
      left
      cases hands with
      | kept _ same _ kept => exact ⟨before, kept ▸ owner, generation, same ▸ phase⟩
      | taken _ _ planning => cases planning.symm.trans phase
      | entered _ _ planning => cases before.symm.trans (unmarked (acts.early_of_entered planning phase))
      | released _ _ idle => cases idle.symm.trans phase
      | ended _ terminal => cases terminal.symm.trans phase
  · simp only [update_of_ne own] at marked
    left
    cases hands with
    | kept _ same _ kept => exact ⟨marked, kept ▸ owner, generation, same ▸ phase⟩
    | taken _ _ _ _ taker | entered _ _ _ _ _ _ taker =>
      exact absurd (Option.some.inj (owner.symm.trans taker)) own
    | released _ _ idle => cases idle.symm.trans phase
    | ended _ terminal => cases terminal.symm.trans phase

/-- An attempt that has closed the barrier did so before the section, or by it. -/
theorem World.Owned.closes_before
    (closes : World.Closes ⟨shared, Function.update world.slots actor after⟩ task) :
    world.Closes task ∨ action.freezes := by
  rcases closes with past | keeps
  · by_cases own : task = actor
    · subst own
      simp only [update_self] at past
      exact (acts.pastFreeze_before past).imp_left .inl
    · simp only [update_of_ne own] at past
      exact .inl (.inl past)
  · rcases owned.keeps_before acts (fun early => (owned.early actor early).2) keeps with
      before | ⟨closed, unclosed⟩
    · exact .inl (.inr before)
    · exact .inr ((acts.closed_before closed).resolve_left (by rw [unclosed]; nofun))

/-- A thaw that is outstanding after a section was so before, or has just been decided by the owner of
the phase. -/
theorem World.Owned.thawing_before
    (thaws : (Function.update world.slots actor after task).guard = .thawing generation) :
    (∃ slot, (world.slots slot).guard = .thawing generation) ∨
      world.shared.session.terminalReason = none ∧ world.shared.owner = some actor ∧
        after.task.pastFreeze = false ∧ shared.session.phase = .idle := by
  by_cases own : task = actor
  · subst own
    rw [update_self] at thaws
    rcases acts.thawing thaws with kept | ⟨resetting, live, same, _, idle⟩
    · exact .inl ⟨task, kept⟩
    · obtain ⟨ended, _, holder⟩ := (owned.fits task).resetting resetting live
      exact .inr ⟨live, holder, by rw [same]; exact Task.pastFreeze_of_over ended, idle⟩
  · rw [update_of_ne own] at thaws
    exact .inl ⟨task, thaws⟩

end Task

/-- **One step keeps every slot fitting**, when no attempt begins next to a pending guard of its
generation. -/
theorem Steps.owned (steps : Steps config world label next) (apart : Apart world label)
    (owned : world.Owned) : next.Owned := by
  have numbered := steps.numbered owned.numbered
  have ends := steps.ends owned.ends
  cases steps with
  | cleanupFreeze | cleanupFinish => exact ⟨numbered, ends, owned.owner, owned.fits, owned.early⟩
  | task actor action shared after acts =>
    have hands := owned.hands acts
    refine ⟨numbered, ends, hands.owner owned.owner, ?_, ?_⟩
    · intro task
      by_cases own : task = actor
      · subst own
        simp only [update_self]
        exact acts.fits (owned.fits task) owned.numbered.session fun ended =>
          (owned.ends.ended ended).1
      · simp only [update_of_ne own]
        refine (owned.fits task).stable hands own owned.numbered.session ?_ ?_
        · intro ended
          obtain ⟨reason, ended⟩ := Option.ne_none_iff_exists'.mp ended
          rw [acts.moves.same_of_ended ended, ended]
          nofun
        · intro idle planning
          obtain ⟨call, rfl, asks⟩ := acts.asks idle planning
          exact apart idle asks task
    · intro task early
      by_cases own : task = actor
      · subst own
        simp only [update_self] at early ⊢
        obtain ⟨before, froze, closed⟩ := acts.early_kept early
        rw [froze, closed]
        exact owned.early task before
      · simp only [update_of_ne own] at early ⊢
        exact owned.early task early

/-- **One undisturbed step shelters every attempt**: a guard that decides to thaw owned the phase when
it gave it up, so that no attempt had closed the barrier, and none closes it before the thaw. -/
theorem Steps.sheltered (steps : Steps config world label next) (undisturbed : Undisturbed world label)
    (sheltered : world.Sheltered) : next.Sheltered := by
  have owned := sheltered.toOwned
  refine ⟨steps.owned undisturbed.1 owned, ?_⟩
  cases steps with
  | cleanupFreeze | cleanupFinish => exact sheltered.thaws
  | task actor action shared after acts =>
    intro task generation thaws other closes
    rcases owned.thawing_before acts thaws with ⟨slot, thawing⟩ | ⟨live, holder, free, idle⟩
    · rcases owned.closes_before acts closes with before | freezes
      · exact sheltered.thaws slot generation thawing other before
      · exact undisturbed.2 freezes slot generation thawing
    · rcases closes with past | ⟨_, _, entered, phase⟩
      · by_cases own : other = actor
        · subst own
          simp [free] at past
        · simp only [update_of_ne own] at past
          have owner := owned.owner_of_pastFreeze live past
          exact own (Option.some.inj (owner.symm.trans holder))
      · cases idle.symm.trans phase

theorem reach_sheltered {later : World} (reach : Reach config.step Undisturbed world later)
    (sheltered : world.Sheltered) : later.Sheltered :=
  reach.invariant sheltered fun _ _ _ sheltered undisturbed taken =>
    (step_steps taken).sheltered undisturbed sheltered

end Runs

/-- **What a step may do to the attempt of another task**: the phase of an attempt is left by a
section of that attempt or of its guard, or by the end of the session; a guard discards the generation
of its own attempt; and a guard does not thaw the input of an attempt from its freeze, successful or
not, until the attempt has left its phase. -/
structure Exclusive (world : World) (label : Label) (next : World) : Prop where
  phase : ∀ generation, world.shared.session.phase = .planning generation ∨
      world.shared.session.phase = .inFlight generation →
    next.shared.session.phase ≠ world.shared.session.phase →
    next.shared.session.phase = .terminal ∨
      ∃ owner action, world.shared.owner = some owner ∧ label = .task owner action
  discard : ∀ task, label = .task task .guardFirst →
    next.shared.discarded ≠ world.shared.discarded → world.shared.owner = some task
  thaw : ∀ task, label = .task task .guardThaw → ∀ other, ¬ world.Closes other

theorem guardThaw_enabled {config : Config} {world next : World}
    (taken : config.step world (.task task .guardThaw) = some next) :
    ∃ generation, (world.slots task).guard = .thawing generation := by
  obtain ⟨_, acted, _⟩ := Option.map_eq_some_iff.mp taken
  simp only [Config.act] at acted
  split at acted
  next generation thawing =>
    exact ⟨generation, thawing⟩
  · cases acted

theorem World.Sheltered.exclusive {config : Config} {world next : World} {label : Label}
    (sheltered : world.Sheltered) (taken : config.step world label = some next) :
    Exclusive world label next := by
  have owned := sheltered.toOwned
  cases step_steps taken with
  | cleanupFreeze | cleanupFinish => exact ⟨fun _ _ left => absurd rfl left, nofun, nofun⟩
  | task actor action shared after acts =>
    refine ⟨?_, ?_, ?_⟩
    · intro generation installed left
      cases owned.hands acts with
      | kept _ same => exact absurd same left
      | taken _ idle => exact absurd installed (not_installed (.inl idle) generation)
      | entered _ _ _ owner | released _ owner => exact .inr ⟨actor, action, owner, rfl⟩
      | ended _ terminal => exact .inl terminal
    · rintro task ⟨⟩ discarded
      cases acts with
      | guardDiscard generation pending live phase =>
        exact ((owned.fits actor).pending pending live).2.2 (.inr phase)
      | _ =>
        exact absurd rfl discarded
    · rintro task ⟨⟩ other
      obtain ⟨generation, thawing⟩ := guardThaw_enabled taken
      exact sheltered.thaws actor generation thawing other

/-- **A phase is left by its owner alone**, in every undisturbed interleaving: whatever step is taken
from a state that such an interleaving reaches, it is exclusive. -/
theorem exclusive_of_undisturbed (config : Config) (context : RelayAccessContext)
    (access : VerifiedRelayAccess) (directoryId nodeId failureDomain : String) (mux : Mux)
    (frozen : Bool) {world next : World} {label : Label}
    (reach : Reach config.step Undisturbed
      (.start (.installed context access directoryId nodeId failureDomain mux) frozen) world)
    (taken : config.step world label = some next) : Exclusive world label next :=
  (reach_sheltered reach ⟨World.start_owned .., fun _ _ thawing => nomatch thawing⟩).exclusive taken

namespace TwoRelays

/-- Only the tasks 0 and 1 have begun. -/
def OfTwo (world : World) : Prop := ∀ task, 2 ≤ task → world.slots task = .absent

def Label.ofTwo : Label → Bool
  | .task task _ => decide (task < 2)
  | _ => true

theorem OfTwo.step {world next : World} {label : Label} (ofTwo : OfTwo world) (two : Label.ofTwo label)
    (taken : config.step world label = some next) : OfTwo next := by
  cases step_steps taken with
  | cleanupFreeze | cleanupFinish => exact ofTwo
  | task actor action shared after acts =>
    intro task beyond
    have below : actor < 2 := of_decide_eq_true two
    simpa [update_of_ne (Nat.lt_of_lt_of_le below beyond).ne'] using ofTwo task beyond

/-- A check that an absent slot passes, and the slots of the two tasks. -/
theorem OfTwo.all {world : World} (ofTwo : OfTwo world) (check : Slot → Bool) (absent : check .absent)
    (both : [0, 1].all fun task => check (world.slots task)) (task : TaskId) :
    check (world.slots task) := by
  obtain ⟨first, second, _⟩ : check (world.slots 0) ∧ check (world.slots 1) ∧ True := by
    simpa using both
  match task with
  | 0 => exact first
  | 1 => exact second
  | other + 2 =>
    simp [ofTwo (other + 2) (Nat.le_add_left 2 other), absent]

def isApart (world : World) (label : Label) : Bool :=
  Label.ofTwo label && match label with
  | .task _ (.call _) => [0, 1].all fun other => decide ((world.slots other).guard ≠
      .pending (world.shared.session.highestAttemptedGeneration + 1))
  | _ => true

theorem apart_of_isApart {world : World} {label : Label} (ofTwo : OfTwo world)
    (checked : isApart world label) : Apart world label := by
  unfold Apart
  split
  · intro _ _ other
    have both := (Bool.and_eq_true_iff.mp checked).2
    exact of_decide_eq_true (ofTwo.all (fun slot => decide (slot.guard ≠
      .pending (world.shared.session.highestAttemptedGeneration + 1))) (by simp [Slot.absent]) both other)
  · trivial

def Guard.isThawing : Guard → Bool
  | .thawing _ => true
  | _ => false

def isUndisturbed (world : World) (label : Label) : Bool :=
  isApart world label &&
    (!label.freezes || [0, 1].all fun other => !Guard.isThawing (world.slots other).guard)

theorem undisturbed_of_isUndisturbed {world : World} {label : Label} (ofTwo : OfTwo world)
    (checked : isUndisturbed world label) : Undisturbed world label := by
  obtain ⟨apart, silent⟩ := Bool.and_eq_true_iff.mp checked
  refine ⟨apart_of_isApart ofTwo apart, fun freezes other generation thawing => ?_⟩
  rw [freezes] at silent
  have none := ofTwo.all (fun slot => !Guard.isThawing slot.guard) rfl silent other
  rw [thawing] at none
  cases none

/-- The first attempt has frozen the input and is dropped; its guard gives the phase up, and a second
attempt begins before the guard has thawed. -/
def handedOver : List Label :=
  [fails 0, .task 0 (.refreshed (.ok access) 0), .task 0 (.froze true), .task 0 .cancel,
    .task 0 .guardFirst, .task 0 .guardSecond, fails 1, .task 1 (.refreshed (.ok access) 0)]

theorem exclusive_of_undisturbed_thaw : ∃ world next,
    config.step world (.task 0 .guardThaw) = some next ∧
      world.shared.session.phase = .inFlight 2 ∧ world.shared.owner = some 1 ∧
      world.shared.frozen = true ∧ next.shared.frozen = false ∧
      Exclusive world (.task 0 .guardThaw) next := by
  have ran : (runChecked isUndisturbed config.step start handedOver).isSome := by decide
  obtain ⟨world, reached⟩ := Option.isSome_iff_exists.mp ran
  have seen : ((runChecked isUndisturbed config.step start handedOver).map fun world =>
      (world.shared.session.phase, world.shared.owner, world.shared.frozen,
        (config.step world (.task 0 .guardThaw)).map (·.shared.frozen))) =
      some (.inFlight 2, some 1, true, some false) := by decide
  rw [reached] at seen
  obtain ⟨phase, owner, frozen, thaws⟩ : _ ∧ _ ∧ _ ∧ _ := by simpa using seen
  obtain ⟨next, taken, opened⟩ := thaws
  refine ⟨world, next, taken, phase, owner, frozen, opened, ?_⟩
  refine exclusive_of_undisturbed config context access "directory" "relay-a" "relay-a" 0 false
    (runChecked_reach_of reached (I := OfTwo) (fun _ _ => rfl) ?_ ?_) taken
  · intro world label next ofTwo checked taken
    exact ofTwo.step (Bool.and_eq_true_iff.mp (Bool.and_eq_true_iff.mp checked).1).1 taken
  · exact fun world label ofTwo checked => undisturbed_of_isUndisturbed ofTwo checked

/-- The first attempt fails while it plans, and a second one begins. -/
def replanning : List Label := [fails 0, unreachable 0, fails 1]

theorem replanned_enabled : (run config.step start replanning).isSome := by
  decide

def replanned : World := (run config.step start replanning).get replanned_enabled

theorem reset_enabled : (config.step replanned (.task 0 .guardFirst)).isSome := by
  decide

/-- The guard of the first attempt has run. -/
def reset : World := (config.step replanned (.task 0 .guardFirst)).get reset_enabled

/-- **A stale guard resets the phase of a running attempt.** The first attempt has failed in `Planning`
without using its generation up, the second one has installed `Planning` with the same generation, and
the guard of the first one takes it away. -/
theorem stale_guard_resets_phase :
    ¬ ∀ world label next, Reach config.step always start world →
      config.step world label = some next → Exclusive world label next := by
  intro exclusive
  have stolen := (exclusive replanned (.task 0 .guardFirst) reset
    (run_reach (some_get replanned_enabled).symm) (some_get reset_enabled).symm).phase 1
    (.inl (by decide)) (by decide)
  have idle : reset.shared.session.phase = .idle := by decide
  have second : replanned.shared.owner = some 1 := by decide
  rcases stolen with terminal | ⟨owner, action, owns, same⟩
  · cases idle.symm.trans terminal
  · cases same
    cases second.symm.trans owns

end TwoRelays

end MiniRemoteDesktop.Relay.Failover
