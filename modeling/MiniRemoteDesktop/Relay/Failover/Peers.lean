/-
**A controller and an agent** (`mrd-service`, `relay/migration.rs` and `relay/executor.rs`).

The controller of a session begins its attempts itself, and its executor sends an offer for the
attempt; the agent begins an attempt for an offer that reaches it. Offers may be lost, delayed,
repeated, or never sent at all. Each side counts the generations that have entered its own `InFlight`,
and the agent takes an offer only for its own count plus one.

The controller uses its generation up before it has sent anything. When the migration then fails, the
agent is one generation behind, and answers every later offer as a late one
(`TwoRelays.unsent_offer_desynchronises`).

`Synchronised` excludes this: the controller gives `InFlight` up only once the agent has its
generation at least in `Planning`, and the agent gives `Planning` up only while the controller is
still in `InFlight`. Both are read off the section that is about to run and the two states before it
(`Action.givesUp`). Under it the counts differ by at most what the two phases account for, so that
they agree when both sides are idle (`inStep_of_synchronised`).
-/

import MiniRemoteDesktop.Relay.Failover.Terminal

namespace MiniRemoteDesktop.Relay

namespace RelaySessionState

/-- One while a generation is used up and not given up. -/
def flying (session : RelaySessionState) : Nat :=
  match session.phase with
  | .inFlight _ => 1
  | _ => 0

/-- One while a generation is planned for. -/
def planning (session : RelaySessionState) : Nat :=
  match session.phase with
  | .planning _ => 1
  | _ => 0

/-- The count of the agent follows that of the controller, up to what the two phases account for. -/
def Follows (agent controller : RelaySessionState) : Prop :=
  agent.highestAttemptedGeneration ≤ controller.highestAttemptedGeneration ∧
    controller.highestAttemptedGeneration ≤
      agent.highestAttemptedGeneration + controller.flying + agent.planning

end RelaySessionState

namespace Failover

open Execution RelaySessionState

/-! ### The two coordinators -/

/-- **Both ends of a session**, and the offers the controller has sent. -/
structure Peers where
  (controller agent : World)
  sent : List RelayMigrationOffer

/-- The constants of the two coordinators. -/
structure PeerConfig where
  (controller agent : Config)

inductive PeerLabel
  | controller (label : Label)
  | agent (label : Label)
  | send (task : TaskId)

/-- The controller takes no offers. -/
def Label.ofController : Label → Bool
  | .task _ (.call (.acceptRemoteOffer _)) => false
  | _ => true

/-- The agent watches no health, and the offers that reach it have been sent. -/
def Label.ofAgent (sent : List RelayMigrationOffer) : Label → Bool
  | .task _ (.call (.observeHealth _ _ _)) => false
  | .task _ (.call (.acceptRemoteOffer offer)) => decide (offer ∈ sent)
  | _ => true

/-- The offer the executor sends for an attempt. -/
def offerOf (attempt : Attempt) (plan : Plan) : RelayMigrationOffer where
  sessionId := attempt.context.sessionId
  generation := attempt.generation
  directoryId := plan.routeEvidence.directoryId
  nodeId := plan.routeEvidence.nodeId

/-- **One step of the two coordinators.** -/
def PeerConfig.step (config : PeerConfig) (peers : Peers) : PeerLabel → Option Peers
  | .controller label =>
    if label.ofController then
      (config.controller.step peers.controller label).map fun next =>
        { peers with controller := next }
    else none
  | .agent label =>
    if label.ofAgent peers.sent then
      (config.agent.step peers.agent label).map fun next => { peers with agent := next }
    else none
  | .send task =>
    match (peers.controller.slots task).task with
    | .executing attempt plan => some { peers with sent := offerOf attempt plan :: peers.sent }
    | _ => none

/-- The offer the controller would send next is taken by the agent. -/
def Peers.InStep (peers : Peers) : Prop :=
  peers.controller.shared.session.phase = .idle →
    peers.controller.shared.session.terminalReason = none →
    peers.agent.shared.session.phase = .idle → peers.agent.shared.session.terminalReason = none →
    ∀ offer, checkedAdd peers.controller.shared.session.highestAttemptedGeneration 1 =
        some offer.generation →
      ∃ attempt, (peers.agent.shared.session.acceptRemoteOffer offer).2 = .admitted attempt

/-- **The sections that give a phase up for `Idle`**, before they run: a failed refresh, a migration
that failed without a security reason or matches its plan, and the sections of a guard, each of an
attempt that still finds its phase. -/
def Action.givesUp (config : Config) (shared : Shared) (slot : Slot) : Action → Bool
  | .refreshed result nowMs =>
    match slot.task with
    | .refreshing attempt =>
      (match attempt.plan config.sha256 result nowMs with
        | .retry _ => true
        | _ => false) &&
        (shared.session.clearPhase attempt.generation).isSome
    | _ => false
  | .executed (.error failure) =>
    match slot.task with
    | .executing attempt _ =>
      !failure.terminalSecurity && (shared.session.clearPhase attempt.generation).isSome
    | _ => false
  | .executed (.ok commit) =>
    match slot.task with
    | .executing attempt plan =>
      !attempt.commitMismatch plan commit && shared.session.isInFlight attempt.generation
    | _ => false
  | .guardFirst =>
    match slot.guard with
    | .pending generation => decide (shared.session.phase = .planning generation)
    | _ => false
  | .guardSecond =>
    match slot.guard with
    | .resetting generation => shared.session.isInFlight generation
    | _ => false
  | _ => false

def Label.givesUp (config : Config) (world : World) : Label → Bool
  | .task actor action => action.givesUp config world.shared (world.slots actor)
  | _ => false

/-- The agent has admitted the offer of this generation, or has ended. -/
def Peers.Reached (peers : Peers) (generation : Nat) : Prop :=
  generation ≤ peers.agent.shared.session.highestAttemptedGeneration ∨
    peers.agent.shared.session.phase = .planning generation ∨
    peers.agent.shared.session.terminalReason ≠ none

/-- The controller still migrates for this generation, or has ended. -/
def Peers.Awaited (peers : Peers) (generation : Nat) : Prop :=
  peers.controller.shared.session.phase = .inFlight generation ∨
    peers.controller.shared.session.terminalReason ≠ none

/-- **No generation is given up before the other side has it.** -/
def Synchronised (config : PeerConfig) (peers : Peers) : PeerLabel → Prop
  | .controller label => label.givesUp config.controller peers.controller →
    ∀ generation, peers.controller.shared.session.phase = .inFlight generation →
      peers.Reached generation
  | .agent label => label.givesUp config.agent peers.agent →
    ∀ generation, peers.agent.shared.session.phase = .planning generation → peers.Awaited generation
  | .send _ => True

/-- A section that leaves an installed phase for `Idle` gives it up. -/
theorem Acts.givesUp {config : Config} {task : TaskId} {shared next : Shared} {slot after : Slot}
    {action : Action} (acts : Acts config task shared slot action next after)
    (busy : shared.session.phase ≠ .idle) (idle : next.session.phase = .idle) :
    action.givesUp config shared slot := by
  have cleared : ∀ {generation}, shared.session.terminalReason = none →
      (shared.session.phase = .planning generation ∨ shared.session.phase = .inFlight generation) →
      (shared.session.clearPhase generation).isSome := fun live phase => by
    rw [clearPhase, if_pos ⟨phase, live⟩]
    rfl
  cases acts with
  | planned | entered | terminated => cases idle
  | retried action attempt code refreshing live phase decided =>
    obtain ⟨result, nowMs, rfl, decided⟩ := decided
    simp [Action.givesUp, refreshing, decided, cleared live phase]
  | cleared result attempt plan code executing live phase failed =>
    obtain ⟨failure, rfl, retryable⟩ := failed
    simp [Action.givesUp, executing, retryable, cleared live phase]
  | committed result attempt plan mux executing live phase matched =>
    obtain ⟨commit, rfl, matched⟩ := matched
    simp [Action.givesUp, executing, matched, isInFlight_iff.mpr ⟨live, phase⟩]
  | guardReset generation pending live phase =>
    simp [Action.givesUp, pending, phase]
  | guardReleased generation resetting live phase =>
    simp only [Action.givesUp, resetting, isInFlight_iff.mpr ⟨live, phase⟩]
  | _ => exact absurd idle busy

theorem Steps.givesUp {config : Config} {world next : World} {label : Label}
    (steps : Steps config world label next) (busy : world.shared.session.phase ≠ .idle)
    (idle : next.shared.session.phase = .idle) : label.givesUp config world := by
  cases steps with
  | cleanupFreeze | cleanupFinish => exact absurd idle busy
  | task task action shared after acts => exact acts.givesUp busy idle

/-! ### One side moves -/

section Phases

variable {session : RelaySessionState} {generation : Nat}

theorem flying_idle (idle : session.phase = .idle) : session.flying = 0 := by
  simp [flying, idle]

theorem flying_terminal (terminal : session.phase = .terminal) : session.flying = 0 := by
  simp [flying, terminal]

theorem flying_planning (planning : session.phase = .planning generation) : session.flying = 0 := by
  simp [flying, planning]

theorem flying_inFlight (inFlight : session.phase = .inFlight generation) : session.flying = 1 := by
  simp [flying, inFlight]

theorem planning_idle (idle : session.phase = .idle) : session.planning = 0 := by
  simp [planning, idle]

theorem planning_terminal (terminal : session.phase = .terminal) : session.planning = 0 := by
  simp [planning, terminal]

theorem planning_planning (planned : session.phase = .planning generation) :
    session.planning = 1 := by
  simp [planning, planned]

theorem planning_inFlight (inFlight : session.phase = .inFlight generation) :
    session.planning = 0 := by
  simp [planning, inFlight]

end Phases

variable {next controller agent : RelaySessionState}

/-- **The controller moves**: it enters `InFlight` with one generation more, and gives it up when the
agent has it. -/
theorem Moves.followed (moves : Moves controller next) (numbered : controller.Numbered)
    (planned : agent.Numbered) (follows : agent.Follows controller)
    (given : ∀ generation, controller.phase = .inFlight generation → next.phase = .idle →
      generation ≤ agent.highestAttemptedGeneration ∨ agent.phase = .planning generation)
    (live : next.terminalReason = none) : agent.Follows next := by
  obtain ⟨below, above⟩ := follows
  have gone : ∀ generation, controller.phase = .inFlight generation → next.phase = .idle →
      controller.highestAttemptedGeneration ≤ agent.highestAttemptedGeneration + agent.planning := by
    intro generation inFlight idle
    have current := (numbered.inFlight generation inFlight).1
    rcases given generation inFlight idle with reached | planning
    · omega
    · have following := planned.planning generation planning
      have one := planning_planning planning
      omega
  cases moves with
  | same => exact ⟨below, above⟩
  | observed health since => exact ⟨below, above⟩
  | planned health since generation _ phase following =>
    have landed : controller.flying = 0 := phase.elim flying_idle flying_terminal
    refine ⟨below, ?_⟩
    show controller.highestAttemptedGeneration ≤ agent.highestAttemptedGeneration + 0 + agent.planning
    omega
  | entered generation _ phase =>
    have following := numbered.planning generation phase
    have landed := flying_planning phase
    refine ⟨?_, ?_⟩
    · show agent.highestAttemptedGeneration ≤ generation
      omega
    · show generation ≤ agent.highestAttemptedGeneration + 1 + agent.planning
      omega
  | released generation _ phase =>
    refine ⟨below, ?_⟩
    show controller.highestAttemptedGeneration ≤ agent.highestAttemptedGeneration + 0 + agent.planning
    rcases phase with planning | inFlight
    · have landed := flying_planning planning
      omega
    · have left := gone generation inFlight rfl
      omega
  | committed generation plan mux _ phase =>
    refine ⟨below, ?_⟩
    have left := gone generation phase rfl
    show controller.highestAttemptedGeneration ≤ agent.highestAttemptedGeneration + 0 + agent.planning
    omega
  | terminated reason => cases live

/-- **The agent moves**: it enters `InFlight` with a generation of the controller, and gives `Planning`
up while the controller is still there. -/
theorem Moves.follows (moves : Moves agent next) (numbered : controller.Numbered)
    (planned : agent.Numbered) (follows : agent.Follows controller)
    (known : ∀ generation, agent.phase = .planning generation →
      generation ≤ controller.highestAttemptedGeneration)
    (given : ∀ generation, agent.phase = .planning generation → next.phase = .idle →
      controller.phase = .inFlight generation)
    (live : next.terminalReason = none) : next.Follows controller := by
  obtain ⟨below, above⟩ := follows
  cases moves with
  | same => exact ⟨below, above⟩
  | observed health since => exact ⟨below, above⟩
  | planned health since generation _ phase following =>
    refine ⟨below, ?_⟩
    have free : agent.planning = 0 := phase.elim planning_idle planning_terminal
    show controller.highestAttemptedGeneration ≤
      agent.highestAttemptedGeneration + controller.flying + 1
    omega
  | entered generation _ phase =>
    have following := planned.planning generation phase
    have one := planning_planning phase
    refine ⟨known generation phase, ?_⟩
    show controller.highestAttemptedGeneration ≤ generation + controller.flying + 0
    omega
  | released generation _ phase =>
    refine ⟨below, ?_⟩
    show controller.highestAttemptedGeneration ≤
      agent.highestAttemptedGeneration + controller.flying + 0
    rcases phase with planning | inFlight
    · have following := planned.planning generation planning
      have flight := given generation planning rfl
      have current := (numbered.inFlight generation flight).1
      have one := flying_inFlight flight
      omega
    · have free := planning_inFlight inFlight
      omega
  | committed generation plan mux _ phase =>
    refine ⟨below, ?_⟩
    have free := planning_inFlight phase
    show controller.highestAttemptedGeneration ≤
      agent.highestAttemptedGeneration + controller.flying + 0
    omega
  | terminated reason => cases live

/-! ### Runs -/

variable {label : Label}

theorem Steps.planning_sent {config : Config} {world next : World}
    (steps : Steps config world label next) (ends : world.Ends) {sent : List RelayMigrationOffer}
    (ofAgent : label.ofAgent sent) {generation : Nat}
    (planning : next.shared.session.phase = .planning generation) :
    world.shared.session.phase = .planning generation ∨
      ∃ offer ∈ sent, offer.generation = generation := by
  cases steps with
  | cleanupFreeze | cleanupFinish => exact .inl planning
  | task actor action shared after acts =>
    have moves := acts.moves
    generalize reached : shared.session = session at moves planning
    cases moves with
    | same => exact .inl planning
    | observed => exact .inl planning
    | entered | released | committed | terminated => cases planning
    | planned health since other live phase following =>
      cases planning
      have idle := phase.resolve_right (ends.live live).1
      have begun : shared.session.phase = .planning generation := by rw [reached]
      obtain ⟨call, rfl, asks⟩ := acts.asks idle begun
      right
      cases call with
      | observeHealth => cases ofAgent
      | terminateSecurity => cases asks
      | acceptRemoteOffer offer =>
        exact ⟨offer, of_decide_eq_true ofAgent, (of_decide_eq_true asks).trans following.symm⟩

/-- **What links the two sides.** -/
structure Peers.Linked (peers : Peers) : Prop where
  controllerNumbered : peers.controller.Numbered
  controllerEnds : peers.controller.Ends
  agentNumbered : peers.agent.Numbered
  agentEnds : peers.agent.Ends
  counted : ∀ task attempt plan, (peers.controller.slots task).task.planned = some (attempt, plan) →
    attempt.generation ≤ peers.controller.shared.session.highestAttemptedGeneration
  sent : ∀ offer ∈ peers.sent,
    offer.generation ≤ peers.controller.shared.session.highestAttemptedGeneration
  known : ∀ generation, peers.agent.shared.session.phase = .planning generation →
    generation ≤ peers.controller.shared.session.highestAttemptedGeneration
  follows : peers.controller.shared.session.terminalReason = none →
    peers.agent.shared.session.terminalReason = none →
    peers.agent.shared.session.Follows peers.controller.shared.session

section Runs

variable {config : PeerConfig} {peers : Peers}

theorem Moves.live_before {session : RelaySessionState} (moves : Moves session next)
    (live : next.terminalReason = none) : session.terminalReason = none := by
  cases before : session.terminalReason with
  | none => rfl
  | some reason =>
    rw [moves.same_of_ended before] at live
    exact before.symm.trans live

theorem Peers.Linked.controller_step (linked : peers.Linked) {next : World}
    (steps : Steps config.controller peers.controller label next)
    (given : ∀ generation, peers.controller.shared.session.phase = .inFlight generation →
      next.shared.session.phase = .idle → peers.Reached generation) :
    Peers.Linked { peers with controller := next } := by
  have grown := steps.moves.highest_le linked.controllerNumbered.session
  refine ⟨steps.numbered linked.controllerNumbered, steps.ends linked.controllerEnds,
    linked.agentNumbered, linked.agentEnds, ?_, ?_, ?_, ?_⟩
  · intro task attempt plan held
    cases steps with
    | cleanupFreeze | cleanupFinish => exact linked.counted task attempt plan held
    | task actor action shared after acts =>
      by_cases own : task = actor
      · subst own
        simp only [Function.update_self] at held
        rcases acts.plan_chosen held with before | ⟨_, used⟩
        · exact le_trans (linked.counted task attempt plan before) grown
        · exact le_of_eq used
      · simp only [Function.update_of_ne own] at held
        exact le_trans (linked.counted task attempt plan held) grown
  · intro offer member
    exact le_trans (linked.sent offer member) grown
  · intro generation planning
    exact le_trans (linked.known generation planning) grown
  · intro live agentLive
    refine steps.moves.followed linked.controllerNumbered.session linked.agentNumbered.session
      (linked.follows (steps.moves.live_before live) agentLive) ?_ live
    intro generation inFlight idle
    rcases given generation inFlight idle with reached | planning | ended
    · exact .inl reached
    · exact .inr planning
    · exact absurd agentLive ended

theorem Peers.Linked.agent_step (linked : peers.Linked) {next : World}
    (steps : Steps config.agent peers.agent label next) (ofAgent : label.ofAgent peers.sent)
    (given : ∀ generation, peers.agent.shared.session.phase = .planning generation →
      next.shared.session.phase = .idle → peers.Awaited generation) :
    Peers.Linked { peers with agent := next } := by
  refine ⟨linked.controllerNumbered, linked.controllerEnds, steps.numbered linked.agentNumbered,
    steps.ends linked.agentEnds, linked.counted, linked.sent, ?_, ?_⟩
  · intro generation planning
    rcases steps.planning_sent linked.agentEnds ofAgent planning with before | ⟨offer, member, rfl⟩
    · exact linked.known generation before
    · exact linked.sent offer member
  · intro controllerLive live
    refine steps.moves.follows linked.controllerNumbered.session linked.agentNumbered.session
      (linked.follows controllerLive (steps.moves.live_before live)) linked.known ?_ live
    intro generation planning idle
    exact (given generation planning idle).resolve_right fun ended => ended controllerLive

/-- **One synchronised step keeps the two sides linked.** -/
theorem Peers.Linked.step (linked : peers.Linked) {label : PeerLabel} {next : Peers}
    (synchronised : Synchronised config peers label) (taken : config.step peers label = some next) :
    next.Linked := by
  cases label with
  | controller label =>
    simp only [PeerConfig.step] at taken
    split at taken
    · obtain ⟨world, moved, rfl⟩ := Option.map_eq_some_iff.mp taken
      refine linked.controller_step (step_steps moved) fun generation inFlight idle => ?_
      exact synchronised ((step_steps moved).givesUp (by rw [inFlight]; nofun) idle) generation inFlight
    · cases taken
  | agent label =>
    simp only [PeerConfig.step] at taken
    split at taken
    next ofAgent =>
      obtain ⟨world, moved, rfl⟩ := Option.map_eq_some_iff.mp taken
      refine linked.agent_step (step_steps moved) ofAgent fun generation planning idle => ?_
      exact synchronised ((step_steps moved).givesUp (by rw [planning]; nofun) idle) generation planning
    · cases taken
  | send task =>
    simp only [PeerConfig.step] at taken
    split at taken
    next attempt plan executing =>
      cases taken
      refine ⟨linked.controllerNumbered, linked.controllerEnds, linked.agentNumbered,
        linked.agentEnds, linked.counted, ?_, linked.known, linked.follows⟩
      intro offer member
      rcases List.mem_cons.mp member with rfl | before
      · exact linked.counted task attempt plan (by rw [executing]; rfl)
      · exact linked.sent offer before
    · cases taken

theorem Peers.Linked.inStep (linked : peers.Linked) : peers.InStep := by
  intro controllerIdle controllerLive agentIdle agentLive offer next
  obtain ⟨below, above⟩ := linked.follows controllerLive agentLive
  have landed := flying_idle controllerIdle
  have free := planning_idle agentIdle
  have same : peers.controller.shared.session.highestAttemptedGeneration =
      peers.agent.shared.session.highestAttemptedGeneration := by omega
  rw [same] at next
  unfold acceptRemoteOffer
  simp only [agentLive, agentIdle, next]
  simpa using ⟨_, rfl⟩

end Runs

/-- **The two sides stay in step**, in every synchronised interleaving of any number of calls on both
sides and of any loss, delay and repetition of offers: whenever both are idle and neither has ended,
the agent takes the next offer of the controller. -/
theorem inStep_of_synchronised (config : PeerConfig) (context peerContext : RelayAccessContext)
    (access peerAccess : VerifiedRelayAccess) (directoryId nodeId failureDomain : String)
    (peerDirectoryId peerNodeId peerFailureDomain : String) (mux peerMux : Mux)
    (frozen peerFrozen : Bool) {peers : Peers}
    (reach : Reach config.step (Synchronised config)
      ⟨.start (.installed context access directoryId nodeId failureDomain mux) frozen,
        .start (.installed peerContext peerAccess peerDirectoryId peerNodeId peerFailureDomain
          peerMux) peerFrozen, []⟩ peers) : peers.InStep := by
  refine Peers.Linked.inStep (reach.invariant ?_ fun _ _ _ linked synchronised taken =>
    linked.step synchronised taken)
  refine ⟨World.start_numbered .., World.start_ends .., World.start_numbered ..,
    World.start_ends .., ?_, nofun, nofun, fun _ _ => ⟨le_rfl, le_rfl⟩⟩
  rintro task attempt plan ⟨⟩

namespace TwoRelays

def peerConfig : PeerConfig := ⟨config, config⟩

def peers : Peers := ⟨start, start, []⟩

def isSynchronised (peers : Peers) : PeerLabel → Bool
  | .controller label => !label.givesUp config peers.controller ||
    match peers.controller.shared.session.phase with
    | .inFlight generation =>
      decide (generation ≤ peers.agent.shared.session.highestAttemptedGeneration)
    | _ => true
  | .agent label => !label.givesUp config peers.agent ||
    match peers.agent.shared.session.phase with
    | .planning generation =>
      decide (peers.controller.shared.session.phase = .inFlight generation)
    | _ => true
  | .send _ => true

theorem synchronised_of_isSynchronised {peers : Peers} {label : PeerLabel}
    (checked : isSynchronised peers label) : Synchronised peerConfig peers label := by
  cases label with
  | controller label =>
    intro givesUp generation inFlight
    have givesUp : label.givesUp config peers.controller = true := givesUp
    simp only [isSynchronised, givesUp, inFlight, Bool.not_true, Bool.false_or, decide_eq_true_eq]
      at checked
    exact .inl checked
  | agent label =>
    intro givesUp generation planning
    have givesUp : label.givesUp config peers.agent = true := givesUp
    simp only [isSynchronised, givesUp, planning, Bool.not_true, Bool.false_or, decide_eq_true_eq]
      at checked
    exact .inl checked
  | send => trivial

/-- The offers of the first two generations. -/
def offer (generation : Nat) : RelayMigrationOffer := ⟨"session", generation, "directory", "relay-b"⟩

/-- A whole failover: the controller sends its offer, the agent takes it, and both commit. -/
def failover : List PeerLabel :=
  (fails 0 :: proceeds 0).map .controller ++ [.send 0] ++
    [.task 0 (.call (.acceptRemoteOffer (offer 1))), .task 0 (.refreshed (.ok access) 0),
      .task 0 (.froze true), commits 0 1, .task 0 .thaw, .task 0 .finish].map .agent ++
    [commits 0 1, .task 0 .thaw, .task 0 .finish].map .controller

theorem inStep_of_synchronised_failover : ∃ peers', runChecked isSynchronised peerConfig.step peers
      failover = some peers' ∧ peers'.controller.shared.session.phase = .idle ∧
    peers'.controller.shared.session.generation = 1 ∧
    peers'.agent.shared.session.phase = .idle ∧ peers'.agent.shared.session.generation = 1 ∧
    peers'.InStep := by
  have seen : (runChecked isSynchronised peerConfig.step peers failover).map (fun peers =>
      (peers.controller.shared.session.phase, peers.controller.shared.session.generation,
        peers.agent.shared.session.phase, peers.agent.shared.session.generation)) =
      some (.idle, 1, .idle, 1) := by decide
  obtain ⟨peers', ran, seen⟩ := Option.map_eq_some_iff.mp seen
  obtain ⟨controller, first, agent, second⟩ : _ ∧ _ ∧ _ ∧ _ := by simpa using seen
  refine ⟨peers', ran, controller, first, agent, second, ?_⟩
  exact inStep_of_synchronised peerConfig context context access access "directory" "relay-a" "relay-a"
    "directory" "relay-a" "relay-a" 0 0 false false
    (runChecked_reach ran fun _ _ => synchronised_of_isSynchronised)

/-- The migration of the controller fails before its offer is sent. -/
def unsent : List PeerLabel := (fails 0 :: proceeds 0 ++ [breaks 0]).map .controller

theorem desynchronised_enabled : (run peerConfig.step peers unsent).isSome := by
  decide

def desynchronised : Peers := (run peerConfig.step peers unsent).get desynchronised_enabled

/-- **An offer that is never sent desynchronises the two sides.** Both are idle, and the agent answers
the next offer of the controller as a late one. -/
theorem unsent_offer_desynchronises :
    ¬ ∀ peers', Reach peerConfig.step always peers peers' → peers'.InStep := by
  intro inStep
  obtain ⟨attempt, taken⟩ := inStep desynchronised
    (run_reach (Option.some_get desynchronised_enabled).symm) (by decide) (by decide)
    (by decide) (by decide) (offer 2) (by decide)
  have late : (desynchronised.agent.shared.session.acceptRemoteOffer (offer 2)).2 =
      .answered (.ok (.suppressedLate 2)) := rfl
  cases late.symm.trans taken

end TwoRelays

end Failover

end MiniRemoteDesktop.Relay
