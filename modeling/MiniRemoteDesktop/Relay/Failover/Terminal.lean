/-
**The terminal security state, over every interleaving.**

A session that has ended for a security reason does not change any more: every section that writes
it checks first (`Moves.same_of_ended`). The calls that begin afterwards report the first reason, an
attempt that was already running can no longer report a migration, and the terminal clean-up is
spawned with the first termination and starts `close_all` once.
-/

import MiniRemoteDesktop.Relay.Failover.Generation

namespace MiniRemoteDesktop.Relay.Failover

open Execution RelaySessionState

/-! ### Sections -/

variable {reason : RelayTerminalSecurityReason}

/-- **An ended session is not written.** -/
theorem Moves.same_of_ended {session next : RelaySessionState} (moves : Moves session next)
    (ended : session.terminalReason = some reason) :
    next = session := by
  cases moves with
  | same => rfl
  | observed health since live | planned health since generation live phase following
  | entered generation live phase | released generation live phase
  | committed generation plan mux live phase | terminated other live => cases live.symm.trans ended

/-- The answers of a call that decides after the session has ended. -/
inductive LateAnswer (reason : RelayTerminalSecurityReason) : RecoveryResult → Prop
  | terminal : LateAnswer reason (.ok (.terminal reason))
  | suppressed (generation : Nat) : LateAnswer reason (.ok (.suppressedLate generation))
  | rejected (error : RelayFailoverConfigError) : LateAnswer reason (.error error)

/-- The calls that begin after the session has ended: none yet, waiting for the clean-up, dropped,
or answered with the reason. -/
def Task.Late (reason : RelayTerminalSecurityReason) : Task → Prop
  | .absent | .cancelled => True
  | .awaitingCleanup given => given = reason
  | .returned result => result = .ok (.terminal reason)
  | _ => False

/-- The calls that had not decided when the session ended: neither returned by then nor past a commit
or a failed migration. -/
def Task.Undecided (reason : RelayTerminalSecurityReason) : Task → Prop
  | .thawing _ _ => False
  | .returned result => LateAnswer reason result
  | _ => True

section Acts

variable {config : Config} {task : TaskId} {shared next : Shared} {slot after : Slot}
  {action : Action} (acts : Acts config task shared slot action next after)

include acts

/-- A section leaves the clean-up alone, or it is the first termination and spawns it. -/
theorem Acts.cleanup :
    next.session.terminalReason = shared.session.terminalReason ∧
        (next.session.phase = .terminal → shared.session.phase = .terminal) ∧
        next.cleanup = shared.cleanup ∧ next.closeAlls = shared.closeAlls ∨
      shared.session.terminalReason = none ∧ next.session.terminalReason ≠ none ∧
        next.session.phase = .terminal ∧ next.cleanup = .freezing ∧
        next.closeAlls = shared.closeAlls := by
  cases acts with
  | terminated action reason alive live => exact .inr ⟨live, nofun, rfl, rfl, rfl⟩
  | planned | entered | retried | cleared | committed | guardReset | guardReleased =>
    exact .inl ⟨rfl, nofun, rfl, rfl⟩
  | _ => exact .inl ⟨rfl, id, rfl, rfl⟩

/-- A call waits for the clean-up with the reason the session ended for. -/
theorem Acts.awaiting (awaits : after.task = .awaitingCleanup reason) :
    slot.task = .awaitingCleanup reason ∨ next.session.terminalReason = some reason := by
  cases acts with
  | terminated action given alive live =>
    cases awaits
    exact .inr rfl
  | joined action existing alive ended =>
    cases awaits
    exact .inr ended
  | planned call health since attempt failed absent live phase numbered domain sent =>
    cases failed with
    | some error => cases awaits
    | none => cases awaits
  | froze attempt plan following freezing options =>
    rcases options with rfl | rfl
    · cases awaits
    · cases awaits
  | guardIdle | guardReset | guardDiscard | guardReleased | guardLost | guardThawed | thawed =>
    exact .inl awaits
  | _ => cases awaits

/-- A call that begins on an ended session waits for the clean-up or reports the reason. -/
theorem Acts.late_call (ended : shared.session.terminalReason = some reason)
    (late : slot.task.Late reason) :
    after.task.Late reason := by
  have phase : ∀ {other : Task}, slot.task = other → other.Late reason := fun same => same ▸ late
  cases acts with
  | refused _ _ _ terminal =>
    cases terminal.symm.trans ended
    exact rfl
  | joined _ _ _ terminal =>
    cases terminal.symm.trans ended
    exact rfl
  | cancelled => trivial
  | finished result finished =>
    unfold finishResult at finished
    split at finished
    next other =>
      exact (phase other).elim
    next other =>
      exact (phase other).elim
    next given other =>
      have same : given = reason := phase other
      split at finished
      · cases finished
        rw [same]
        rfl
      · cases finished
    · cases finished
  | answered _ _ _ _ _ live | planned _ _ _ _ _ _ live | entered _ _ _ _ _ _ live
  | retried _ _ _ _ live | terminated _ _ _ live | cleared _ _ _ _ _ live
  | committed _ _ _ _ _ live => cases live.symm.trans ended
  | rejected _ _ _ other | froze _ _ _ other | frozeFailed _ _ other | rechecked _ _ other
  | mismatched _ _ _ other | lost _ _ _ other | cancelledFreezing _ _ other =>
    exact (phase other).elim
  | suppressed _ _ lost =>
    rcases lost with ⟨other, _⟩ | ⟨⟨_, other⟩ | ⟨_, other⟩, _⟩
    · exact (phase other).elim
    · exact (phase other).elim
    · exact (phase other).elim
  | _ =>
    exact late

/-- A call that decides on an ended session does not report a migration. -/
theorem Acts.late_answer (ended : shared.session.terminalReason = some reason)
    (undecided : slot.task.Undecided reason)
    (awaiting : ∀ other, slot.task = .awaitingCleanup other → other = reason) :
    after.task.Undecided reason := by
  cases acts with
  | refused _ _ _ terminal =>
    cases terminal.symm.trans ended
    exact .terminal
  | suppressed _ attempt => exact .suppressed attempt.generation
  | rejected _ _ error => exact .rejected error
  | finished result finished =>
    unfold finishResult at finished
    split at finished
    next thawing =>
      rw [thawing] at undecided
      exact undecided.elim
    · cases finished
      exact .suppressed _
    next other same =>
      split at finished
      · cases finished
        rw [awaiting other same]
        exact .terminal
      · cases finished
    · cases finished
  | froze _ _ _ _ options =>
    rcases options with rfl | rfl
    · trivial
    · trivial
  | joined | frozeFailed | rechecked | mismatched | lost | cancelled | cancelledFreezing => trivial
  | answered _ _ _ _ _ live | planned _ _ _ _ _ _ live | entered _ _ _ _ _ _ live
  | retried _ _ _ _ live | terminated _ _ _ live | cleared _ _ _ _ _ live
  | committed _ _ _ _ _ live => cases live.symm.trans ended
  | _ =>
    exact undecided

end Acts

/-! ### Runs -/

/-- **The end of a session and its clean-up.** -/
structure World.Ends (world : World) : Prop where
  live : world.shared.session.terminalReason = none →
    world.shared.session.phase ≠ .terminal ∧ world.shared.cleanup = .absent ∧ world.shared.closeAlls = 0
  ended : world.shared.session.terminalReason ≠ none →
    world.shared.session.phase = .terminal ∧
      (world.shared.cleanup = .freezing ∧ world.shared.closeAlls = 0 ∨
        (world.shared.cleanup = .closing ∨ world.shared.cleanup = .finished) ∧
          world.shared.closeAlls = 1)
  awaiting : ∀ task reason, (world.slots task).task = .awaitingCleanup reason →
    world.shared.session.terminalReason = some reason

section Runs

variable {config : Config} {world next : World} {label : Label}

theorem World.start_ends (context : RelayAccessContext) (access : VerifiedRelayAccess)
    (directoryId nodeId failureDomain : String) (mux : Mux) (frozen : Bool) :
    (World.start (.installed context access directoryId nodeId failureDomain mux) frozen).Ends := by
  refine ⟨fun _ => ⟨nofun, rfl, rfl⟩, fun ended => absurd rfl ended, ?_⟩
  rintro task reason ⟨⟩

/-- The clean-up task moves on by itself: the session has ended, and the slots do not change. -/
theorem World.Ends.cleanup (ends : world.Ends) {cleanup : CleanupTask} {closeAlls : Nat}
    {frozen : Bool} (spawned : world.shared.cleanup ≠ .absent)
    (following : (cleanup = .closing ∨ cleanup = .finished) ∧ closeAlls = 1) :
    World.Ends { world with shared := { world.shared with
      cleanup := cleanup, frozen := frozen, closeAlls := closeAlls } } := by
  have ended : world.shared.session.terminalReason ≠ none :=
    fun live => spawned (ends.live live).2.1
  exact ⟨fun live => absurd live ended, fun _ => ⟨(ends.ended ended).1, .inr following⟩, ends.awaiting⟩

/-- **One step keeps it.** -/
theorem Steps.ends (steps : Steps config world label next) (ends : world.Ends) : next.Ends := by
  cases steps with
  | cleanupFreeze freezing =>
    have spawned : world.shared.cleanup ≠ .absent := by rw [freezing]; nofun
    have ended : world.shared.session.terminalReason ≠ none :=
      fun live => spawned (ends.live live).2.1
    refine ends.cleanup spawned ⟨.inl rfl, ?_⟩
    rcases (ends.ended ended).2 with ⟨_, none⟩ | ⟨closing | finished, _⟩
    · rw [none]
    · cases freezing.symm.trans closing
    · cases freezing.symm.trans finished
  | cleanupFinish closing =>
    have spawned : world.shared.cleanup ≠ .absent := by rw [closing]; nofun
    have ended : world.shared.session.terminalReason ≠ none :=
      fun live => spawned (ends.live live).2.1
    refine ends.cleanup spawned ⟨.inr rfl, ?_⟩
    rcases (ends.ended ended).2 with ⟨freezing, _⟩ | ⟨_, once⟩
    · cases closing.symm.trans freezing
    · exact once
  | task actor action shared after acts =>
    refine ⟨?_, ?_, ?_⟩
    · intro live
      rcases acts.cleanup with ⟨reason, phase, cleanup, closes⟩ | ⟨_, ended, _⟩
      · obtain ⟨running, absent, none⟩ := ends.live (reason ▸ live)
        exact ⟨fun terminal => running (phase terminal), cleanup.trans absent, closes.trans none⟩
      · exact absurd live ended
    · intro ended
      rcases acts.cleanup with ⟨reason, _, cleanup, closes⟩ | ⟨live, _, phase, cleanup, closes⟩
      · have before : world.shared.session.terminalReason ≠ none := reason ▸ ended
        obtain ⟨given, other⟩ := Option.ne_none_iff_exists'.mp before
        show shared.session.phase = _ ∧ _
        rw [acts.moves.same_of_ended other]
        simp only [cleanup, closes]
        exact ends.ended before
      · exact ⟨phase, .inl ⟨cleanup, closes.trans (ends.live live).2.2⟩⟩
    · intro task reason awaits
      have kept : world.shared.session.terminalReason = some reason →
          shared.session.terminalReason = some reason := by
        intro ended
        simp [acts.moves.same_of_ended ended, ended]
      by_cases own : task = actor
      · subst own
        simp only [Function.update_self] at awaits
        rcases acts.awaiting awaits with before | ended
        · exact kept (ends.awaiting task reason before)
        · exact ended
      · simp only [Function.update_of_ne own] at awaits
        exact kept (ends.awaiting task reason awaits)

variable {allowed : World → Label → Prop}

variable {later : World}

theorem reach_ends (reach : Reach config.step allowed world later) (ends : world.Ends) :
    later.Ends :=
  reach.invariant ends fun _ _ _ ends _ taken => (step_steps taken).ends ends

/-- The session of an ended run is the session it ended with. -/
theorem reach_session_of_ended (reach : Reach config.step allowed world later)
    (ended : world.shared.session.terminalReason = some reason) :
    later.shared.session = world.shared.session := by
  refine reach.invariant (I := fun later => later.shared.session = world.shared.session) rfl ?_
  intro middle label next same _ taken
  rw [(step_steps taken).moves.same_of_ended (by rw [same]; exact ended), same]

/-- **One task along a run on an ended session**: what its own sections keep stays true. -/
theorem reach_task_of_ended {P : Task → Prop} {task : TaskId}
    (keep : ∀ {action shared next slot after}, Acts config task shared slot action next after →
      shared.session.terminalReason = some reason → (∀ other, slot.task = .awaitingCleanup other →
        other = reason) → P slot.task → P after.task)
    (reach : Reach config.step allowed world later) (ends : world.Ends)
    (ended : world.shared.session.terminalReason = some reason) (holds : P (world.slots task).task) :
    P (later.slots task).task := by
  induction reach with
  | refl => exact holds
  | @tail middle next label reach admitted taken ih =>
    have still : middle.shared.session.terminalReason = some reason := by
      simp [reach_session_of_ended reach ended, ended]
    cases step_steps taken with
    | cleanupFreeze | cleanupFinish => exact ih
    | task actor action shared after acts =>
      by_cases own : task = actor
      · subst own
        simp only [Function.update_self]
        refine keep acts still ?_ ih
        intro other awaits
        have given := (reach_ends reach ends).awaiting task other awaits
        exact Option.some.inj (given.symm.trans still)
      · simp [Function.update_of_ne own, ih]

end Runs

/-- **The terminal state is absorbing.** Once a session has ended for a reason, every later state of
every interleaving has the same session, in phase `Terminal`; a call that begins later reports that
reason; a call that was running and had neither committed nor failed reports that reason, or that it
is late, or an error; and `close_all` is started once, by a clean-up that was spawned with the
termination and is never held up. -/
theorem terminal_absorbing (config : Config) (context : RelayAccessContext)
    (access : VerifiedRelayAccess) (directoryId nodeId failureDomain : String) (mux : Mux)
    (frozen : Bool) {world later : World} {reason : RelayTerminalSecurityReason}
    (reach : Reach config.step always
      (.start (.installed context access directoryId nodeId failureDomain mux) frozen) world)
    (ended : world.shared.session.terminalReason = some reason)
    (onward : Reach config.step always world later) :
    later.shared.session = world.shared.session ∧ later.shared.session.phase = .terminal ∧
      later.shared.session.terminalReason = some reason ∧
      (∀ task result, (world.slots task).task = .absent →
        (later.slots task).task = .returned result → result = .ok (.terminal reason)) ∧
      (∀ task result, (world.slots task).task.running →
        (∀ attempt outcome, (world.slots task).task ≠ .thawing attempt outcome) →
        (later.slots task).task = .returned result → LateAnswer reason result) ∧
      (later.shared.closeAlls = 1 ∧ config.step later .cleanupFreeze = none ∨
        later.shared.closeAlls = 0 ∧ ∃ next, config.step later .cleanupFreeze = some next ∧
          next.shared.closeAlls = 1) := by
  have ends := reach_ends reach
    (World.start_ends context access directoryId nodeId failureDomain mux frozen)
  have same := reach_session_of_ended onward ended
  have still : later.shared.session.terminalReason = some reason := by rw [same]; exact ended
  obtain ⟨phase, closes⟩ := (reach_ends onward ends).ended (by rw [still]; nofun)
  refine ⟨same, phase, still, ?_, ?_, ?_⟩
  · intro task result absent returned
    have before : (world.slots task).task.Late reason := by
      rw [absent]
      trivial
    have late := reach_task_of_ended (fun acts ended _ late => acts.late_call ended late) onward ends
      ended before
    rw [returned] at late
    exact late
  · intro task result running undecided returned
    have waiting : (world.slots task).task.Undecided reason := by
      unfold Task.Undecided
      split
      next attempt outcome thawing =>
        exact undecided attempt outcome thawing
      next answered =>
        rw [answered] at running
        cases running
      · trivial
    have late := reach_task_of_ended (fun acts ended awaiting undecided =>
      acts.late_answer ended undecided awaiting) onward ends ended waiting
    rw [returned] at late
    exact late
  · rcases closes with ⟨freezing, none⟩ | ⟨begun, once⟩
    · refine .inr ⟨none, _, if_pos freezing, ?_⟩
      simp [none]
    · refine .inl ⟨once, if_neg ?_⟩
      rcases begun with closing | finished
      · rw [closing]
        nofun
      · rw [finished]
        nofun

namespace TwoRelays

theorem revoked_enabled : (config.step executing
    (.task 1 (.call (.terminateSecurity .relayRevoked)))).isSome := by
  decide

/-- The relay is revoked while the first attempt is with the executor. -/
def revoked : World := (config.step executing
    (.task 1 (.call (.terminateSecurity .relayRevoked)))).get revoked_enabled

theorem revoked_reach : Reach config.step always start revoked :=
  executing_reach.tail trivial (Option.some_get revoked_enabled).symm

/-- The executor of the first attempt comes back, and the health is observed again. -/
def overtaking : List Label := [commits 0 1, fails 2, .cleanupFreeze]

theorem overtaken_enabled : (run config.step revoked overtaking).isSome := by
  decide

def overtaken : World := (run config.step revoked overtaking).get overtaken_enabled

theorem terminal_absorbing_overtaken :
    revoked.shared.session.terminalReason = some .relayRevoked ∧
      overtaken.shared.session = revoked.shared.session ∧
      overtaken.shared.session.phase = .terminal ∧
      config.step overtaken .cleanupFreeze = none := by
  have ended : revoked.shared.session.terminalReason = some .relayRevoked := by decide
  have closed : overtaken.shared.closeAlls ≠ 0 := by decide
  obtain ⟨same, phase, _, _, _, closes⟩ := terminal_absorbing config context access "directory"
    "relay-a" "relay-a" 0 false revoked_reach ended
    (run_reach (Option.some_get overtaken_enabled).symm)
  refine ⟨ended, same, phase, ?_⟩
  rcases closes with ⟨_, disabled⟩ | ⟨unclosed, _⟩
  · exact disabled
  · exact absurd unclosed closed

end TwoRelays

end MiniRemoteDesktop.Relay.Failover
