/-
**What one section of a task can do.**

`Acts` lists the branches of `Config.act`, each with the checks that led to it and the shared state
and slot it leaves. `act_acts` is the only proof that opens the sections of the coordinator; every
invariant is a case analysis over `Acts`.
-/

import MiniRemoteDesktop.Relay.Failover.Step

namespace MiniRemoteDesktop.Relay

variable {session : RelaySessionState} {generation : Nat}

namespace RelaySessionState

/-- A health observation changes the health and the time of the disconnect. -/
def observed (session : RelaySessionState) (health : RelayConnectionHealth) (since : Option Nat) :
    RelaySessionState :=
  { session with health := health, disconnectedAtMs := since }

/-! ### Admission -/

/-- **The outcomes of an admission section.** -/
inductive AdmissionOutcome (session : RelaySessionState) :
    RelaySessionState × RelaySessionState.Admission → Prop
  | ended (reason : RelayTerminalSecurityReason) : session.terminalReason = some reason →
      AdmissionOutcome session (session, .answered (.ok (.terminal reason)))
  | answered (health : RelayConnectionHealth) (since : Option Nat) (result : RecoveryResult) :
      session.terminalReason = none → (∀ evidence, result ≠ .ok (.migrated evidence)) →
      AdmissionOutcome session (session.observed health since, .answered result)
  | admitted (health : RelayConnectionHealth) (since : Option Nat)
      (offer : Option RelayMigrationOffer) :
      session.terminalReason = none → (session.phase = .idle ∨ session.phase = .terminal) →
      AdmissionOutcome session
        ((session.observed health since).beginPlanning (session.highestAttemptedGeneration + 1) offer)

theorem observeHealth_outcome (disconnectedGraceMs : Nat) (session : RelaySessionState)
    (observedGeneration : Nat) (health : RelayConnectionHealth) (nowMs : Nat) :
    AdmissionOutcome session
      (session.observeHealth disconnectedGraceMs observedGeneration health nowMs) := by
  unfold observeHealth
  split
  next reason terminal =>
    exact .ended reason terminal
  rename_i live
  split
  · exact .answered session.health session.disconnectedAtMs _ live nofun
  split
  · exact .answered health none _ live nofun
  split
  · exact .answered health session.disconnectedAtMs _ live nofun
  · exact .answered health session.disconnectedAtMs _ live nofun
  all_goals
    rename_i phase
    simp only
    split
    · exact .answered health _ _ live nofun
    split
    · exact .answered health _ _ live nofun
    next generation next =>
      rw [checkedAdd_eq_some next]
      exact .admitted health _ none live (by simp [phase])

theorem acceptRemoteOffer_outcome (session : RelaySessionState) (offer : RelayMigrationOffer) :
    AdmissionOutcome session (session.acceptRemoteOffer offer) := by
  unfold acceptRemoteOffer
  split
  next reason terminal =>
    exact .ended reason terminal
  rename_i live
  split
  · exact .answered session.health session.disconnectedAtMs _ live nofun
  · exact .answered session.health session.disconnectedAtMs _ live nofun
  · exact .answered session.health session.disconnectedAtMs _ live nofun
  rename_i phase
  split
  · exact .answered session.health session.disconnectedAtMs _ live nofun
  rename_i expected next
  split
  · exact .answered session.health session.disconnectedAtMs _ live nofun
  rename_i matched
  have matched : offer.generation = session.highestAttemptedGeneration + 1 := by
    rw [not_not.mp matched, checkedAdd_eq_some next]
  rw [matched]
  exact .admitted session.health session.disconnectedAtMs (some offer) live (.inl phase)

/-! ### Later sections -/

variable {next : RelaySessionState}

theorem enterInFlight_eq_some (entered : session.enterInFlight generation = some next) :
    session.terminalReason = none ∧ session.phase = .planning generation ∧
      next = { session with
        phase := .inFlight generation, highestAttemptedGeneration := generation } := by
  unfold enterInFlight at entered
  split at entered
  · cases entered
  rename_i owned
  obtain ⟨live, phase⟩ := not_or.mp owned
  exact ⟨by simpa using live, not_not.mp phase, (Option.some.inj entered).symm⟩

theorem enterInFlight_eq_none (refused : session.enterInFlight generation = none) :
    session.terminalReason ≠ none ∨ session.phase ≠ .planning generation := by
  unfold enterInFlight at refused
  split at refused
  next lost =>
    rcases lost with terminal | phase
    · left
      intro live
      simp [live] at terminal
    · exact .inr phase
  · cases refused

theorem isInFlight_iff :
    session.isInFlight generation ↔
      session.terminalReason = none ∧ session.phase = .inFlight generation := by
  simp [isInFlight]

theorem clearPhase_eq_some (cleared : session.clearPhase generation = some next) :
    session.terminalReason = none ∧
      (session.phase = .planning generation ∨ session.phase = .inFlight generation) ∧
      next = { session with phase := .idle } := by
  unfold clearPhase at cleared
  split at cleared
  next owned =>
    exact ⟨owned.2, owned.1, (Option.some.inj cleared).symm⟩
  · cases cleared

theorem clearPhase_eq_none (refused : session.clearPhase generation = none) :
    session.terminalReason ≠ none ∨
      (session.phase ≠ .planning generation ∧ session.phase ≠ .inFlight generation) := by
  unfold clearPhase at refused
  split at refused
  · cases refused
  rename_i lost
  by_cases live : session.terminalReason = none
  · right
    refine ⟨fun phase => lost ⟨.inl phase, live⟩, fun phase => lost ⟨.inr phase, live⟩⟩
  · exact .inl live

end RelaySessionState

namespace Failover

open RelaySessionState

/-! ### Branches -/

/-- **The calls that can begin this attempt.** -/
def Call.Begins (session : RelaySessionState) (attempt : Attempt) : Call → Prop
  | .observeHealth observedGeneration health _ =>
    observedGeneration = session.generation ∧ health ≠ .connected ∧ attempt.offer = none
  | .acceptRemoteOffer offer =>
    attempt.offer = some offer ∧ offer.generation = attempt.generation
  | .terminateSecurity _ => False

/-- The calls that ask for an attempt on this session. -/
def Call.asks (session : RelaySessionState) : Call → Bool
  | .observeHealth observedGeneration health _ =>
    decide (observedGeneration = session.generation) && decide (health ≠ .connected)
  | .acceptRemoteOffer offer =>
    decide (offer.generation = session.highestAttemptedGeneration + 1)
  | .terminateSecurity _ => false

variable (config : Config) (task : TaskId) (shared : Shared) (slot : Slot) in
/-- **The branches of a section**, with their checks and what they leave. -/
inductive Acts :
    Action → Shared → Slot → Prop
  /-- A call on a terminal session. -/
  | refused (call : Call) (reason : RelayTerminalSecurityReason) : slot.task = .absent →
      shared.session.terminalReason = some reason →
      Acts (.call call) shared
        { slot with task := .returned (.ok (.terminal reason)) }
  /-- A call that is answered without an attempt. -/
  | answered (call : Call) (health : RelayConnectionHealth) (since : Option Nat)
      (result : RecoveryResult) : slot.task = .absent → shared.session.terminalReason = none →
      (∀ evidence, result ≠ .ok (.migrated evidence)) →
      Acts (.call call)
        (shared.install (shared.session.observed health since) shared.owner)
        { slot with task := .returned result }
  /-- A call becomes an attempt; `failed` says that its refresh context was rejected. -/
  | planned (call : Call) (health : RelayConnectionHealth) (since : Option Nat) (attempt : Attempt)
      (failed : Option RelayFailoverConfigError) : slot.task = .absent →
      shared.session.terminalReason = none →
      (shared.session.phase = .idle ∨ shared.session.phase = .terminal) →
      attempt.generation = shared.session.highestAttemptedGeneration + 1 →
      attempt.activeFailureDomain = shared.session.activeFailureDomain →
      call.Begins shared.session attempt →
      Acts (.call call) (shared.install
          { shared.session.observed health since with phase := .planning attempt.generation }
          (some task))
        { slot with
          task := failed.elim (.refreshing attempt) fun error => .returned (.error error)
          guard := if failed.isSome then .pending attempt.generation else .held attempt.generation }
  | entered (result : Except RelayClientError VerifiedRelayAccess) (nowMs : Nat) (attempt : Attempt)
      (plan : Plan) : slot.task = .refreshing attempt →
      attempt.plan config.sha256 result nowMs = .proceed plan →
      shared.session.terminalReason = none →
      shared.session.phase = .planning attempt.generation →
      Acts (.refreshed result nowMs) (shared.install { shared.session with
            phase := .inFlight attempt.generation
            highestAttemptedGeneration := attempt.generation }
          (some task))
        { slot with task := .freezing attempt plan }
  /-- An attempt that no longer finds its phase gives up. -/
  | suppressed (action : Action) (attempt : Attempt) :
      (slot.task = .refreshing attempt ∧ (shared.session.terminalReason ≠ none ∨
          shared.session.phase ≠ .planning attempt.generation) ∨
        ((∃ plan, slot.task = .rechecking attempt plan) ∨ ∃ plan, slot.task = .executing attempt plan) ∧
          (shared.session.terminalReason ≠ none ∨
            shared.session.phase ≠ .inFlight attempt.generation)) →
      Acts action shared
        (slot.answer (.ok (.suppressedLate attempt.generation)))
  | retried (action : Action) (attempt : Attempt) (code : RelayMigrationFailureCode) :
      slot.task = .refreshing attempt → shared.session.terminalReason = none →
      (shared.session.phase = .planning attempt.generation ∨
        shared.session.phase = .inFlight attempt.generation) →
      (∃ result nowMs, action = .refreshed result nowMs ∧
        attempt.plan config.sha256 result nowMs = .retry code) →
      Acts action (shared.install { shared.session with phase := .idle } none)
        (slot.answer (.ok (.retryable code)))
  | rejected (action : Action) (attempt : Attempt) (error : RelayFailoverConfigError) :
      slot.task = .refreshing attempt →
      Acts action shared (slot.answer (.error error))
  /-- The first termination of the session. -/
  | terminated (action : Action) (reason : RelayTerminalSecurityReason) :
      (slot.task = .absent ∨ slot.task.running) → shared.session.terminalReason = none →
      Acts action { shared.install { shared.session with
            phase := .terminal, terminalReason := some reason } none with cleanup := .freezing }
        { slot with task := .awaitingCleanup reason }
  /-- A later termination waits for the first one. -/
  | joined (action : Action) (existing : RelayTerminalSecurityReason) :
      (slot.task = .absent ∨ slot.task.running) →
      shared.session.terminalReason = some existing →
      Acts action shared { slot with task := .awaitingCleanup existing }
  | froze (attempt : Attempt) (plan : Plan) (next : Task) : slot.task = .freezing attempt plan →
      (next = .executing attempt plan ∨ next = .rechecking attempt plan) →
      Acts (.froze true) { shared with frozen := true }
        { slot with task := next, froze := true, closed := true }
  | frozeFailed (attempt : Attempt) (plan : Plan) : slot.task = .freezing attempt plan →
      Acts (.froze false) { shared with frozen := true }
        { slot with task := .terminalizing attempt .inputSafetyFailure, froze := false, closed := true }
  | rechecked (attempt : Attempt) (plan : Plan) : slot.task = .rechecking attempt plan →
      Acts .recheck shared { slot with task := .executing attempt plan }
  | cleared (result : Except RelayMigrationFailure RelayMigrationCommit) (attempt : Attempt)
      (plan : Plan) (code : RelayMigrationFailureCode) : slot.task = .executing attempt plan →
      shared.session.terminalReason = none →
      (shared.session.phase = .planning attempt.generation ∨
        shared.session.phase = .inFlight attempt.generation) →
      (∃ failure, result = .error failure ∧ failure.terminalSecurity = false) →
      Acts (.executed result)
        (shared.install { shared.session with phase := .idle } none)
        { slot with task := .thawing attempt (.retryable code), thaw := .pending }
  | mismatched (result : Except RelayMigrationFailure RelayMigrationCommit) (attempt : Attempt)
      (plan : Plan) : slot.task = .executing attempt plan →
      Acts (.executed result) (shared.discard attempt.generation)
        { slot with task := .terminalizing attempt .routeEvidenceMismatch }
  | committed (result : Except RelayMigrationFailure RelayMigrationCommit) (attempt : Attempt)
      (plan : Plan) (mux : Mux) : slot.task = .executing attempt plan →
      shared.session.terminalReason = none →
      shared.session.phase = .inFlight attempt.generation →
      (∃ commit, result = .ok commit ∧ attempt.commitMismatch plan commit = false) →
      Acts (.executed result) (shared.install { shared.session with
            latestAccess := plan.access
            activeDirectoryId := plan.routeEvidence.directoryId
            activeNodeId := plan.routeEvidence.nodeId
            activeFailureDomain := plan.routeEvidence.failureDomain
            generation := attempt.generation
            health := .connected
            disconnectedAtMs := none
            phase := .idle
            activeMux := mux }
          none)
        { slot with task := .thawing attempt (.migrated plan.routeEvidence), thaw := .pending }
  | lost (result : Except RelayMigrationFailure RelayMigrationCommit) (attempt : Attempt)
      (plan : Plan) : slot.task = .executing attempt plan →
      (shared.session.terminalReason ≠ none ∨ shared.session.phase ≠ .inFlight attempt.generation) →
      Acts (.executed result) (shared.discard attempt.generation)
        { slot with task := .late attempt }
  | finished (result : RecoveryResult) : finishResult shared slot = some result →
      Acts .finish shared (slot.answer result)
  | cancelled : slot.task.running →
      Acts .cancel shared (slot.ended .cancelled)
  | cancelledFreezing (attempt : Attempt) (plan : Plan) : slot.task = .freezing attempt plan →
      Acts .cancelFreezing { shared with frozen := true }
        { slot.ended .cancelled with closed := true }
  | guardIdle (generation : Nat) : slot.guard = .pending generation →
      Acts .guardFirst shared { slot with guard := .finished }
  | guardReset (generation : Nat) : slot.guard = .pending generation →
      shared.session.terminalReason = none → shared.session.phase = .planning generation →
      Acts .guardFirst
        (shared.install { shared.session with phase := .idle } none)
        { slot with guard := .finished }
  | guardDiscard (generation : Nat) : slot.guard = .pending generation →
      shared.session.terminalReason = none → shared.session.phase = .inFlight generation →
      Acts .guardFirst (shared.discard generation)
        { slot with guard := .resetting generation }
  | guardReleased (generation : Nat) : slot.guard = .resetting generation →
      shared.session.terminalReason = none → shared.session.phase = .inFlight generation →
      Acts .guardSecond
        (shared.install { shared.session with phase := .idle } none)
        { slot with guard := .thawing generation }
  | guardLost (generation : Nat) : slot.guard = .resetting generation →
      Acts .guardSecond shared { slot with guard := .finished }
  | guardThawed (generation : Nat) : slot.guard = .thawing generation →
      Acts .guardThaw { shared with frozen := false }
        { slot with guard := .finished }
  | thawed : slot.thaw = .pending →
      Acts .thaw { shared with frozen := false } { slot with thaw := .finished }

variable {config : Config} {task : TaskId} {shared : Shared} {slot : Slot}

variable {action : Action}

theorem terminalizeBy_acts (reason : RelayTerminalSecurityReason)
    (alive : slot.task = .absent ∨ slot.task.running) :
    Acts config task shared slot action (terminalizeBy shared slot reason).1
      (terminalizeBy shared slot reason).2 := by
  unfold terminalizeBy
  split
  next existing terminal =>
    exact .joined action existing alive terminal
  next live =>
    have terminalized : (shared.session.terminalize reason).1 =
        { shared.session with phase := .terminal, terminalReason := some reason } := by
      simp [RelaySessionState.terminalize, live]
    rw [terminalized]
    exact .terminated action reason alive live

theorem admitBy_acts (call : Call) {admission : RelaySessionState × Admission}
    (absent : slot.task = .absent) (outcome : AdmissionOutcome shared.session admission)
    (begins : ∀ attempt, admission.2 = .admitted attempt → call.Begins shared.session attempt) :
    Acts config task shared slot (.call call) (admitBy task shared slot config.sha256 admission).1
      (admitBy task shared slot config.sha256 admission).2 := by
  cases outcome with
  | ended reason terminal => exact .refused call reason absent terminal
  | answered health since result live other => exact .answered call health since result absent live other
  | admitted health since offer live phase =>
    have begun := begins _ rfl
    let attempt := (shared.session.observed health since).attempt
      (shared.session.highestAttemptedGeneration + 1) offer
    simp only [beginPlanning, admitBy]
    split
    next error _ =>
      exact .planned call health since attempt (some error) absent live phase rfl rfl begun
    · exact .planned call health since attempt none absent live phase rfl rfl begun

variable {attempt : Attempt}

theorem observeHealth_begins {disconnectedGraceMs : Nat} {observedGeneration : Nat}
    {health : RelayConnectionHealth} {nowMs : Nat}
    (admitted : (session.observeHealth disconnectedGraceMs observedGeneration health nowMs).2 =
      .admitted attempt) :
    (Call.observeHealth observedGeneration health nowMs).Begins session attempt := by
  unfold observeHealth at admitted
  split at admitted
  · cases admitted
  split at admitted
  · cases admitted
  rename_i current
  split at admitted
  · cases admitted
  rename_i unhealthy
  simp only at admitted
  repeat' split at admitted
  all_goals first | cases admitted; exact ⟨not_not.mp current, unhealthy, rfl⟩ | cases admitted

theorem acceptRemoteOffer_begins {offer : RelayMigrationOffer}
    (admitted : (session.acceptRemoteOffer offer).2 = .admitted attempt) :
    (Call.acceptRemoteOffer offer).Begins session attempt := by
  unfold acceptRemoteOffer at admitted
  repeat' split at admitted
  all_goals first | cases admitted; exact ⟨rfl, rfl⟩ | cases admitted

theorem begin_acts (call : Call) (absent : slot.task = .absent) :
    Acts config task shared slot (.call call) (config.begin task shared slot call).1
      (config.begin task shared slot call).2 := by
  cases call with
  | observeHealth observedGeneration health nowMs =>
    exact admitBy_acts _ absent (observeHealth_outcome ..) fun _ => observeHealth_begins
  | acceptRemoteOffer offer =>
    exact admitBy_acts _ absent (acceptRemoteOffer_outcome ..) fun _ => acceptRemoteOffer_begins
  | terminateSecurity reason => exact terminalizeBy_acts reason (.inl absent)

theorem retryBy_acts (code : RelayMigrationFailureCode) (refreshing : slot.task = .refreshing attempt)
    (decided : ∃ result nowMs, action = .refreshed result nowMs ∧
      attempt.plan config.sha256 result nowMs = .retry code) :
    Acts config task shared slot action (retryBy shared slot attempt.generation code).1
      (retryBy shared slot attempt.generation code).2 := by
  unfold retryBy
  split
  next session cleared =>
    obtain ⟨live, phase, rfl⟩ := clearPhase_eq_some cleared
    exact .retried action attempt code refreshing live phase decided
  next refused =>
    refine .suppressed action attempt (.inl ⟨refreshing, ?_⟩)
    exact (clearPhase_eq_none refused).imp_right And.left

theorem planBy_acts (result : Except RelayClientError VerifiedRelayAccess) (nowMs : Nat)
    (refreshing : slot.task = .refreshing attempt) {decision : PlanDecision}
    (decided : attempt.plan config.sha256 result nowMs = decision) :
    Acts config task shared slot (.refreshed result nowMs)
      (planBy task shared slot attempt decision).1 (planBy task shared slot attempt decision).2 := by
  have running : slot.task.running := by rw [refreshing]; rfl
  cases decision with
  | proceed plan =>
    simp only [planBy]
    split
    next session entered =>
      obtain ⟨live, phase, rfl⟩ := enterInFlight_eq_some entered
      exact .entered result nowMs attempt plan refreshing decided live phase
    next refused =>
      exact .suppressed _ attempt (.inl ⟨refreshing, enterInFlight_eq_none refused⟩)
  | retry code => exact retryBy_acts code refreshing ⟨result, nowMs, rfl, decided⟩
  | terminate reason => exact terminalizeBy_acts reason (.inr running)
  | reject error => exact .rejected _ attempt error refreshing

theorem executedBy_acts (result : Except RelayMigrationFailure RelayMigrationCommit) {plan : Plan}
    (executing : slot.task = .executing attempt plan) :
    Acts config task shared slot (.executed result) (executedBy shared slot attempt plan result).1
      (executedBy shared slot attempt plan result).2 := by
  have running : slot.task.running := by rw [executing]; rfl
  cases result with
  | error failure =>
    simp only [executedBy]
    split
    · exact terminalizeBy_acts _ (.inr running)
    rename_i retryable
    split
    next session cleared =>
      obtain ⟨live, phase, rfl⟩ := clearPhase_eq_some cleared
      exact .cleared _ attempt plan failure.code executing live phase
        ⟨failure, rfl, Bool.not_eq_true _ ▸ retryable⟩
    next refused =>
      refine .suppressed _ attempt (.inr ⟨.inr ⟨plan, executing⟩, ?_⟩)
      exact (clearPhase_eq_none refused).imp_right And.right
  | ok commit =>
    simp only [executedBy]
    split
    · exact .mismatched _ attempt plan executing
    rename_i matched
    have same : commit.routeEvidence = plan.routeEvidence := by
      unfold Attempt.commitMismatch at matched
      simp only [Bool.or_eq_true, bne_iff_ne, not_or, not_not] at matched
      exact matched.1.1.2
    split
    next session committed =>
      unfold RelaySessionState.commit at committed
      split at committed
      next inFlight =>
        cases committed
        obtain ⟨live, phase⟩ := isInFlight_iff.mp inFlight
        rw [same]
        exact .committed _ attempt plan commit.mux executing live phase
          ⟨commit, rfl, Bool.not_eq_true _ ▸ matched⟩
      · cases committed
    next refused =>
      unfold RelaySessionState.commit at refused
      split at refused
      · cases refused
      rename_i lost
      rw [isInFlight_iff, not_and_or] at lost
      exact .lost _ attempt plan executing lost

theorem guardFirstBy_acts (pending : slot.guard = .pending generation) :
    Acts config task shared slot .guardFirst (guardFirstBy shared slot generation).1
      (guardFirstBy shared slot generation).2 := by
  unfold guardFirstBy
  split
  · exact .guardIdle generation pending
  rename_i live
  have live : shared.session.terminalReason = none := by simpa using live
  split
  next phase =>
    exact .guardReset generation pending live phase
  split
  next phase =>
    exact .guardDiscard generation pending live phase
  · exact .guardIdle generation pending

theorem guardSecondBy_acts (resetting : slot.guard = .resetting generation) :
    Acts config task shared slot .guardSecond (guardSecondBy shared slot generation).1
      (guardSecondBy shared slot generation).2 := by
  unfold guardSecondBy
  split
  next inFlight =>
    obtain ⟨live, phase⟩ := isInFlight_iff.mp inFlight
    exact .guardReleased generation resetting live phase
  · exact .guardLost generation resetting

/-- A freeze, whatever it answers. -/
theorem froze_acts (succeeded : Bool) {plan : Plan} (freezing : slot.task = .freezing attempt plan) :
    Acts config task shared slot (.froze succeeded) { shared with frozen := true } { slot with
        task :=
          if succeeded then
            if attempt.offer.isSome then .executing attempt plan else .rechecking attempt plan
          else .terminalizing attempt .inputSafetyFailure
        froze := succeeded
        closed := true } := by
  cases succeeded with
  | false => exact .frozeFailed attempt plan freezing
  | true =>
    refine .froze attempt plan _ freezing ?_
    rw [if_pos rfl]
    split
    · exact .inl rfl
    · exact .inr rfl

variable {next : Shared} {after : Slot}

theorem recheck_acts {plan : Plan} (rechecking : slot.task = .rechecking attempt plan)
    (acted : (if shared.session.isInFlight attempt.generation then
        some (shared, { slot with task := .executing attempt plan })
      else some (shared, slot.answer (.ok (.suppressedLate attempt.generation)))) =
        some (next, after)) :
    Acts config task shared slot .recheck next after := by
  split at acted
  · cases acted
    exact .rechecked attempt plan rechecking
  next lost =>
    cases acted
    rw [isInFlight_iff, not_and_or] at lost
    exact .suppressed _ attempt (.inr ⟨.inl ⟨plan, rechecking⟩, lost⟩)

/-- The branches of a section that always answers are those of its answer. -/
theorem Acts.of_some {result : Shared × Slot} (acted : some result = some (next, after))
    (acts : Acts config task shared slot action result.1 result.2) :
    Acts config task shared slot action next after := by
  cases acted
  exact acts

/-- **Every section takes one of the branches.** -/
theorem act_acts (acted : config.act task shared slot action = some (next, after)) :
    Acts config task shared slot action next after := by
  cases action with
  | call call =>
    simp only [Config.act] at acted
    split at acted
    next absent =>
      exact .of_some acted (begin_acts call absent)
    · cases acted
  | refreshed result nowMs =>
    simp only [Config.act] at acted
    split at acted
    next attempt refreshing =>
      exact .of_some acted (planBy_acts result nowMs refreshing rfl)
    · cases acted
  | froze succeeded =>
    simp only [Config.act] at acted
    split at acted
    next attempt plan freezing =>
      exact .of_some acted (froze_acts succeeded freezing)
    · cases acted
  | recheck =>
    simp only [Config.act] at acted
    split at acted
    next attempt plan rechecking =>
      exact recheck_acts rechecking acted
    · cases acted
  | executed result =>
    simp only [Config.act] at acted
    split at acted
    next attempt plan executing =>
      exact .of_some acted (executedBy_acts result executing)
    · cases acted
  | terminalize =>
    simp only [Config.act] at acted
    split at acted
    next attempt reason terminalizing =>
      exact .of_some acted (terminalizeBy_acts reason (.inr (by rw [terminalizing]; rfl)))
    · cases acted
  | finish =>
    obtain ⟨result, finished, ⟨⟩⟩ := Option.map_eq_some_iff.mp acted
    exact .finished result finished
  | cancel =>
    simp only [Config.act] at acted
    split at acted
    next running =>
      exact .of_some acted (.cancelled running)
    · cases acted
  | cancelFreezing =>
    simp only [Config.act] at acted
    split at acted
    next attempt plan freezing =>
      exact .of_some acted (.cancelledFreezing attempt plan freezing)
    · cases acted
  | guardFirst =>
    simp only [Config.act] at acted
    split at acted
    next generation pending =>
      exact .of_some acted (guardFirstBy_acts pending)
    · cases acted
  | guardSecond =>
    simp only [Config.act] at acted
    split at acted
    next generation resetting =>
      exact .of_some acted (guardSecondBy_acts resetting)
    · cases acted
  | guardThaw =>
    simp only [Config.act] at acted
    split at acted
    next generation thawing =>
      exact .of_some acted (.guardThawed generation thawing)
    · cases acted
  | thaw =>
    simp only [Config.act] at acted
    split at acted
    next pending =>
      exact .of_some acted (.thawed pending)
    · cases acted

/-! ### Steps of the machine -/

/-- **The branches of a step.** -/
inductive Steps (config : Config) (world : World) : Label → World → Prop
  | task (task : TaskId) (action : Action) (next : Shared) (after : Slot) :
      Acts config task world.shared (world.slots task) action next after →
      Steps config world (.task task action) ⟨next, Function.update world.slots task after⟩
  | cleanupFreeze : world.shared.cleanup = .freezing →
      Steps config world .cleanupFreeze { world with
        shared := { world.shared with
          cleanup := .closing, frozen := true, closeAlls := world.shared.closeAlls + 1 } }
  | cleanupFinish : world.shared.cleanup = .closing →
      Steps config world .cleanupFinish
        { world with shared := { world.shared with cleanup := .finished } }

theorem step_steps {world next : World} {label : Label} (taken : config.step world label = some next) :
    Steps config world label next := by
  cases label with
  | task task action =>
    obtain ⟨⟨shared, slot⟩, acted, rfl⟩ := Option.map_eq_some_iff.mp taken
    exact .task task action shared slot (act_acts acted)
  | cleanupFreeze =>
    simp only [Config.step] at taken
    split at taken
    next freezing =>
      cases taken
      exact .cleanupFreeze freezing
    · cases taken
  | cleanupFinish =>
    simp only [Config.step] at taken
    split at taken
    next closing =>
      cases taken
      exact .cleanupFinish closing
    · cases taken

/-! ### What a step does to the session -/

variable (session : RelaySessionState) in
/-- **The changes of a session.** Every one of them checks that the session has not ended. -/
inductive Moves : RelaySessionState → Prop
  | same : Moves session
  | observed (health : RelayConnectionHealth) (since : Option Nat) :
      session.terminalReason = none → Moves (session.observed health since)
  | planned (health : RelayConnectionHealth) (since : Option Nat) (generation : Nat) :
      session.terminalReason = none → (session.phase = .idle ∨ session.phase = .terminal) →
      generation = session.highestAttemptedGeneration + 1 →
      Moves { session.observed health since with phase := .planning generation }
  | entered (generation : Nat) : session.terminalReason = none →
      session.phase = .planning generation →
      Moves
        { session with phase := .inFlight generation, highestAttemptedGeneration := generation }
  | released (generation : Nat) : session.terminalReason = none →
      (session.phase = .planning generation ∨ session.phase = .inFlight generation) →
      Moves { session with phase := .idle }
  | committed (generation : Nat) (plan : Plan) (mux : Mux) : session.terminalReason = none →
      session.phase = .inFlight generation →
      Moves { session with
          latestAccess := plan.access
          activeDirectoryId := plan.routeEvidence.directoryId
          activeNodeId := plan.routeEvidence.nodeId
          activeFailureDomain := plan.routeEvidence.failureDomain
          generation := generation
          health := .connected
          disconnectedAtMs := none
          phase := .idle
          activeMux := mux }
  | terminated (reason : RelayTerminalSecurityReason) : session.terminalReason = none →
      Moves { session with phase := .terminal, terminalReason := some reason }

theorem Acts.moves (acts : Acts config task shared slot action next after) :
    Moves shared.session next.session := by
  cases acts with
  | answered call health since result absent live other => exact .observed health since live
  | planned call health since attempt failed absent live phase numbered domain sent =>
    exact .planned health since attempt.generation live phase numbered
  | entered result nowMs attempt plan refreshing decided live phase =>
    exact .entered attempt.generation live phase
  | retried action attempt code refreshing live phase
  | cleared result attempt plan code executing live phase =>
    exact .released attempt.generation live phase
  | terminated action reason alive live => exact .terminated reason live
  | committed result attempt plan mux executing live phase =>
    exact .committed attempt.generation plan mux live phase
  | guardReset generation pending live phase => exact .released generation live (.inl phase)
  | guardReleased generation resetting live phase => exact .released generation live (.inr phase)
  | _ => exact .same

/-- An idle session goes to `Planning` in the first section of a call that asks for it. -/
theorem Acts.asks (acts : Acts config task shared slot action next after)
    (idle : shared.session.phase = .idle) (planning : next.session.phase = .planning generation) :
    ∃ call, action = .call call ∧ call.asks shared.session := by
  cases acts with
  | planned call health since attempt failed absent live phase following domain begins =>
    refine ⟨call, rfl, ?_⟩
    cases call with
    | observeHealth observedGeneration health nowMs =>
      show (decide _ && decide _) = true
      simp [decide_eq_true begins.1, decide_eq_true begins.2.1]
    | acceptRemoteOffer offer => exact decide_eq_true (begins.2.trans following)
    | terminateSecurity reason => exact begins.elim
  | entered _ _ _ _ _ _ _ phase => cases idle.symm.trans phase
  | retried | terminated | cleared | committed | guardReset | guardReleased => cases planning
  | _ => cases idle.symm.trans planning

theorem Steps.moves {world next : World} {label : Label} (steps : Steps config world label next) :
    Moves world.shared.session next.shared.session := by
  cases steps with
  | task task action next after acts => exact acts.moves
  | cleanupFreeze | cleanupFinish => exact .same

end Failover

end MiniRemoteDesktop.Relay
