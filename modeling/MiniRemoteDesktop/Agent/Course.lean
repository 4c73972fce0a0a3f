/-
**The course of the loop.**

Most of the loop is plumbing: it reads clocks, sends messages, and calls the few methods that change
something. `Course K` lists these methods, and says that each has the property `K`; if `K` composes,
every round has it (`Course.iterate`). A proof about the runs of the agent then speaks of the listed
methods only.
-/

import MiniRemoteDesktop.Agent.Loop
import MiniRemoteDesktop.Lib.Contract

namespace MiniRemoteDesktop.Agent

open AgentRuntime
open Procedure (Composes Meets Moves)
open Procedure

/-! ### The manager -/

variable {manager : ConsentManager}

theorem ConsentManager.onRegistry_meets {α : Type} {method : ConsentAuthorityState.Method α}
    {Q : α → ConsentAuthorityState → Prop} {E : ConsentRegistryError → ConsentAuthorityState → Prop}
    (meets : Meets method manager.registry Q E) :
    Meets (ConsentManager.onRegistry method) manager
      (fun value later => ∃ registry, later = { manager with registry } ∧ Q value registry)
      fun error later => ∃ registry, later = { manager with registry } ∧ E error registry := by
  have is : ConsentManager.onRegistry method manager =
      ({ manager with registry := (method manager.registry).1 }, (method manager.registry).2) := rfl
  unfold Meets at meets ⊢
  rw [is]
  rcases outcome : method manager.registry with ⟨registry, error | value⟩ <;> rw [outcome] at meets
  · exact ⟨registry, rfl, meets⟩
  · exact ⟨registry, rfl, meets⟩

/-- **The steps of the manager that put nothing on screen.** -/
structure Dismissals (R : ConsentManager → ConsentManager → Prop) : Prop where
  expires : ∀ attemptId context, Moves R (ConsentManager.onRegistry
    (ConsentAuthorityState.complete attemptId .expired ∅ context))
  withdraws : ∀ cancel nowMs, Moves R (ConsentManager.onRegistry
    (ConsentAuthorityState.cancel cancel nowMs))
  closes : ∀ reason, Moves R (ConsentManager.closeActive reason)
  queues : ∀ f : List ManagedPrompt → List ManagedPrompt, Moves R (change fun manager =>
    { manager with queued := f manager.queued } : ConsentManager.Method Unit)
  clears : Moves R (change fun manager =>
    { manager with active := none, queued := [] } : ConsentManager.Method Unit)

namespace Dismissals

open ConsentManager

variable {R : ConsentManager → ConsentManager → Prop} [IsPreorder ConsentManager R]
  (dismissals : Dismissals R)

include dismissals

variable (prompt : ManagedPrompt) (now : Nat)

theorem completeExpiredPrompt (nowMs : Nat) :
    Moves R (completeExpiredPrompt prompt nowMs) := by
  refine .bind (dismissals.expires _ _) fun outcome => ?_
  cases outcome <;> exact .pure _

theorem cancelManagedPrompt (nowMs : Nat) :
    Moves R (cancelManagedPrompt prompt nowMs) := by
  refine .bind (dismissals.withdraws _ _) fun outcome => ?_
  cases outcome with
  | cancelled answer => exact .pure _
  | ignored => exact .fail _

omit [IsPreorder ConsentManager R] in
theorem unqueue : Moves R (unqueue prompt) :=
  dismissals.queues fun queued => queued.erase prompt

omit dismissals in
theorem closeQueued {condition : ManagedPrompt → Bool} {close : ManagedPrompt → Method (List Answer)}
    (each : ∀ prompt, Moves R (close prompt)) (prompts : List ManagedPrompt) :
    Moves R (closeQueued condition close prompts) := by
  induction prompts with
  | nil => exact .pure _
  | cons prompt rest ih =>
    exact .bind (.ite (fun _ => each prompt) fun _ => .pure _) fun _ => .bind ih fun _ => .pure _

theorem expireActive (nowMs : Nat) : Moves R (expireActive nowMs) := by
  refine .bind .read fun manager => ?_
  cases manager.active with
  | none => exact .fail _
  | some active =>
    exact .bind (dismissals.completeExpiredPrompt _ _) fun _ =>
      .bind (dismissals.closes _) fun _ => .pure _

theorem expireQueuedDue (nowMs : Nat) : Moves R (expireQueuedDue now nowMs) :=
  .bind .read fun _ => closeQueued (fun _ => .bind (dismissals.unqueue _) fun _ =>
    dismissals.completeExpiredPrompt _ _) _

theorem expireDue (nowMs : Nat) : Moves R (expireDue now nowMs) :=
  .bind .read fun _ => .bind (.ite (fun _ => dismissals.expireActive _) fun _ => .pure _) fun _ =>
    .bind (dismissals.expireQueuedDue _ _) fun _ => .pure _

theorem withdrawActive (desktop : TrustedDesktopState) (nowMs : Nat) :
    Moves R (withdrawActive desktop nowMs) := by
  refine .bind .read fun manager => ?_
  cases manager.active with
  | none => exact .pure _
  | some active =>
    refine .ite (fun _ => ?_) fun _ => .pure _
    exact .bind (dismissals.cancelManagedPrompt _ _) fun _ =>
      .bind (dismissals.closes _) fun _ => .pure _

theorem invalidateDesktopPrompts (desktop : TrustedDesktopState) (nowMs : Nat) :
    Moves R (invalidateDesktopPrompts now desktop nowMs) :=
  .bind (dismissals.expireDue _ _) fun _ => .bind (dismissals.withdrawActive _ _) fun _ =>
    .bind .read fun _ => .bind (closeQueued (fun _ =>
      .bind (dismissals.cancelManagedPrompt _ _) fun _ => .bind (dismissals.unqueue _) fun _ => .pure _)
      _) fun _ => .pure _

theorem cancel (withdrawal : CancelConsent) (now nowMs : Nat) :
    Moves R (cancel withdrawal now nowMs) := by
  refine .bind (dismissals.expireDue _ _) fun expired => .bind .read fun manager => ?_
  refine .ite (fun _ => ?_) fun _ => .ite (fun _ => ?_) fun _ => .pure _
  all_goals
    refine .bind (dismissals.withdraws _ _) fun outcome => ?_
    cases outcome with
    | ignored => exact .pure _
    | cancelled answer => ?_
  · exact .bind (dismissals.closes _) fun _ => .pure _
  · exact .bind (dismissals.queues _) fun _ => .pure _

theorem shutdown (nowMs : Nat) : Moves R (shutdown nowMs) :=
  .bind .read fun _ => .bind dismissals.clears fun _ =>
    .sweep fun _ _ => .bind (dismissals.withdraws _ _) fun _ => .pure _

section

variable (shows : ∀ active : ActivePrompt, Moves R (change fun manager => { manager with
      active := some active } : Method Unit))
  (instants : Nat → Nat) (context : TrustedConsentContext)
include shows instants context

/-- Going on with the queue, where a prompt may appear. -/
theorem startNext : Moves R (startNext instants context) := by
  have starts : ∀ (prompts : List ManagedPrompt) (tick : Nat),
      Moves R (startFrom instants context prompts tick) := by
    intro prompts
    induction prompts with
    | nil => exact fun _ => .pure _
    | cons prompt rest ih =>
      intro tick
      refine .bind (dismissals.queues fun _ => rest) fun _ => .ite (fun _ => ?_) fun _ =>
        .ite (fun _ => ?_) fun _ => .bind (shows _) fun _ => .pure _
      · exact .bind (dismissals.completeExpiredPrompt _ _) fun _ => .bind (ih _) fun _ => .pure _
      · exact .bind (dismissals.cancelManagedPrompt _ _) fun _ => .bind (ih _) fun _ => .pure _
  exact .bind .read fun _ => .ite (fun _ => .pure _) fun _ => starts _ _

theorem activate : Moves R (activate instants context) :=
  .bind (dismissals.expireQueuedDue _ _) fun _ => .bind (dismissals.startNext shows _ _) fun _ =>
    .pure _

end

end Dismissals

/-! ### The runtime -/

variable {ω σ α : Type}

variable {runtime : AgentRuntime ω σ}

theorem AgentRuntime.onManager_meets {method : ConsentManager.Method α}
    {Q : α → ConsentManager → Prop} {E : ConsentRegistryError → ConsentManager → Prop}
    (attended : runtime.authority = some manager) (meets : Meets method manager Q E) :
    Meets (onManager method) runtime
      (fun value t => ∃ later, t = { runtime with authority := some later } ∧ Q value later)
      fun error t => ∃ cause later, error = .consentStateUnavailable (some cause) ∧
        t = { runtime with authority := some later } ∧ E cause later := by
  have is : onManager method runtime = ({ runtime with authority := some (method manager).1 },
        (method manager).2.mapError fun error => .consentStateUnavailable (some error)) := by
    rw [onManager, attended]
  unfold Meets at meets ⊢
  rw [is]
  rcases outcome : method manager with ⟨later, error | value⟩ <;> rw [outcome] at meets
  · exact ⟨error, later, rfl, rfl, meets⟩
  · exact ⟨later, rfl, meets⟩

theorem AgentRuntime.onManager_unattended (method : ConsentManager.Method α)
    (unattended : runtime.authority = none) :
    onManager method runtime = (runtime, .error (.consentStateUnavailable none)) := by
  rw [onManager, unattended]

/-- Whether an error comes from somewhere else than the consent registry. -/
def AgentRuntimeError.isOrdinary : AgentRuntimeError → Bool
  | .consentStateUnavailable (some _) => false
  | _ => true

/-- **The questions, the messages and the counters of the loop**: what has no effect on authority. -/
structure Plumbing (platform : Platform ω σ)
    (K : {α : Type} → AgentRuntime.Method ω σ α → Prop) : Prop where
  composes : Composes (AgentRuntimeError.isOrdinary · = true) K
  nowMs : K (ask platform.nowMs)
  instants : K (ask platform.instants)
  currentState : K (ask platform.currentState)
  consentAvailable : K (ask platform.consentAvailable)
  capabilities : K (ask platform.capabilities)
  renderMetrics : K (ask platform.renderMetrics)
  flushStopping : K (ask platform.flushStopping)
  send : ∀ message, K (enqueue platform message none)
  stopping : ∀ context : AgentEventContext, K (change fun runtime =>
    { runtime with sent := ⟨.agentStopping context, none⟩ :: runtime.sent })
  remembers : ∀ desktop, K (change fun runtime =>
    { runtime with lastDesktopState := some desktop })
  sequence : ∀ sequence, K (change fun runtime =>
    { runtime with eventSequence := sequence })
  revision : ∀ revision, K (change fun runtime =>
    { runtime with capabilityRevision := revision })

variable {platform : Platform ω σ} {K : {α : Type} → AgentRuntime.Method ω σ α → Prop}

namespace Plumbing

theorem mono {L : {α : Type} → AgentRuntime.Method ω σ α → Prop} (plumbing : Plumbing platform K)
    (composes : Composes (AgentRuntimeError.isOrdinary · = true) L)
    (weaker : ∀ {α : Type} {m : AgentRuntime.Method ω σ α}, K m → L m) :
    Plumbing platform L where
  composes := composes
  nowMs := weaker plumbing.nowMs
  instants := weaker plumbing.instants
  currentState := weaker plumbing.currentState
  consentAvailable := weaker plumbing.consentAvailable
  capabilities := weaker plumbing.capabilities
  renderMetrics := weaker plumbing.renderMetrics
  flushStopping := weaker plumbing.flushStopping
  send message := weaker (plumbing.send message)
  stopping context := weaker (plumbing.stopping context)
  remembers desktop := weaker (plumbing.remembers desktop)
  sequence sequence := weaker (plumbing.sequence sequence)
  revision revision := weaker (plumbing.revision revision)

variable (plumbing : Plumbing platform K)

include plumbing

theorem readInstant : K (readInstant platform) :=
  plumbing.composes.bind plumbing.instants fun _ => plumbing.composes.pure _

theorem resolveDesktopState : K (resolveDesktopState platform) := by
  refine plumbing.composes.bind plumbing.composes.read fun runtime => ?_
  split
  · refine plumbing.composes.bind plumbing.currentState fun found => ?_
    cases found with
    | none => exact plumbing.composes.fail _ rfl
    | some desktop =>
      exact plumbing.composes.bind (plumbing.composes.refuse _ _ rfl) fun _ => plumbing.composes.pure _
  · exact plumbing.composes.pure _

theorem trustedConsentContext : K (trustedConsentContext platform) :=
  plumbing.composes.bind plumbing.composes.read fun _ =>
    plumbing.composes.bind (plumbing.composes.refuse _ _ rfl) fun _ =>
      plumbing.composes.bind plumbing.resolveDesktopState fun _ =>
        plumbing.composes.bind plumbing.nowMs fun _ => plumbing.composes.pure _

theorem nextEventContext (desktop : TrustedDesktopState) : K (nextEventContext platform desktop) := by
  refine plumbing.composes.bind plumbing.composes.read fun runtime => ?_
  split
  · exact plumbing.composes.fail _ rfl
  · exact plumbing.composes.bind (plumbing.sequence _) fun _ =>
      plumbing.composes.bind plumbing.nowMs fun _ => plumbing.composes.pure _

theorem genericExecutorCapabilities : K (genericExecutorCapabilities platform) := by
  refine plumbing.composes.bind plumbing.composes.read fun runtime => ?_
  split
  · exact plumbing.composes.pure _
  · exact plumbing.composes.bind plumbing.capabilities fun _ => plumbing.composes.pure _

theorem sendCapabilities (desktop : TrustedDesktopState) : K (sendCapabilities platform desktop) := by
  refine plumbing.composes.bind plumbing.composes.read fun runtime => plumbing.composes.bind ?_
    fun _ => plumbing.composes.bind ?_ fun _ => plumbing.composes.bind plumbing.nowMs fun _ =>
      plumbing.send _
  · split
    · exact plumbing.genericExecutorCapabilities
    · exact plumbing.composes.pure _
  · split
    · exact plumbing.consentAvailable
    · exact plumbing.composes.pure _

theorem noteDesktop (desktop : TrustedDesktopState) : K (noteDesktop platform desktop) := by
  refine plumbing.composes.bind plumbing.composes.read fun runtime => ?_
  split
  · refine plumbing.composes.bind (plumbing.remembers _) fun _ => ?_
    split
    · exact plumbing.composes.fail _ rfl
    · exact plumbing.composes.bind (plumbing.revision _) fun _ => plumbing.sendCapabilities _
  · exact plumbing.composes.pure _

theorem resolveBinding (sessionId : SessionId) (nowMs : Nat) :
    K (resolveBinding platform sessionId nowMs) := by
  refine plumbing.composes.bind plumbing.readInstant fun _ =>
    plumbing.composes.bind plumbing.composes.read fun runtime => ?_
  cases runtime.authority with
  | none => exact plumbing.composes.fail _ rfl
  | some manager => exact plumbing.composes.pure _

theorem connect : K (connect platform) :=
  plumbing.composes.bind plumbing.resolveDesktopState fun _ =>
    plumbing.composes.bind (plumbing.remembers _) fun _ => plumbing.sendCapabilities _

theorem handleHeartbeat : K (handleHeartbeat platform) := by
  refine plumbing.composes.bind plumbing.resolveDesktopState fun desktop =>
    plumbing.composes.bind (plumbing.nextEventContext _) fun _ =>
      plumbing.composes.bind (plumbing.send _) fun _ =>
        plumbing.composes.bind plumbing.composes.read fun runtime => plumbing.composes.bind ?_ fun _ =>
          plumbing.composes.forEach (fun metrics _ => ?_) _ _
  · split
    · exact plumbing.renderMetrics
    · exact plumbing.composes.pure _
  · exact plumbing.composes.bind (plumbing.nextEventContext _) fun _ =>
      plumbing.composes.bind (plumbing.composes.refuse _ _ rfl) fun _ => plumbing.send _

end Plumbing

/-- **The calls that release something.** -/
structure Releases (platform : Platform ω σ)
    (K : {α : Type} → AgentRuntime.Method ω σ α → Prop) : Prop extends Plumbing platform K where
  revoked : ∀ invalidation, K (note (.revoked invalidation))
  releaseSession : ∀ sessionId, K (onInput none
    (InputResourceManager.releaseSession platform.device platform.order sessionId))
  releaseAll : K (onInput none (InputResourceManager.releaseAll platform.device platform.order))
  revokes : ∀ sessionId, K (ask (platform.revokeSession sessionId))
  retires : ∀ condition, K (retireReceipts condition)

namespace Releases

variable (releases : Releases platform K)

include releases

theorem releaseInput : K (releaseInput platform) := by
  refine releases.composes.bind releases.releaseAll fun released => ?_
  rcases released with _ | _ | _
  · exact releases.retires _
  · exact releases.composes.fail _ rfl
  · exact releases.retires _

theorem releaseInvalidation (invalidation : AuthorityInvalidation) (failed : Bool × Bool) :
    K (releaseInvalidation platform invalidation failed) := by
  refine releases.composes.bind (releases.revoked _) fun _ =>
    releases.composes.bind (releases.releaseSession _) fun _ =>
      releases.composes.bind (releases.composes.bind releases.composes.read fun runtime => ?_) fun _ =>
        releases.composes.bind (releases.composes.when (releases.retires _)) fun _ =>
          releases.composes.pure _
  split
  · exact releases.composes.bind (releases.revokes _) fun _ => releases.composes.pure _
  · exact releases.composes.pure _

theorem releaseAuthorityInvalidations (invalidations : List AuthorityInvalidation) :
    K (releaseAuthorityInvalidations platform invalidations) :=
  releases.composes.bind (releases.composes.forEach releases.releaseInvalidation _ _) fun _ =>
    releases.composes.bind (releases.composes.refuse _ _ rfl) fun _ =>
      releases.composes.refuse _ _ rfl

theorem releaseFailed (sessionId : SessionId) (released : List SessionId) :
    K (releaseFailed platform sessionId released) := by
  unfold AgentRuntime.releaseFailed
  split
  · exact releases.composes.bind (releases.releaseSession _) fun _ => releases.composes.pure _
  · exact releases.composes.pure _

end Releases

/-- **The calls that take authority back.** -/
structure Withdrawals (platform : Platform ω σ)
    (K : {α : Type} → AgentRuntime.Method ω σ α → Prop) : Prop extends Releases platform K where
  answers : ∀ answer : Answer,
    K (enqueue platform (.consentResult answer.result) (some answer.attemptId))
  takesDue : ∀ now nowMs,
    K (onManager (ConsentManager.onRegistry (ConsentAuthorityState.takeDue now nowMs)))
  takesForeign : ∀ desktop,
    K (onManager (ConsentManager.onRegistry (ConsentAuthorityState.takeDesktopMismatch desktop)))
  withdraws : ∀ now desktop nowMs,
    K (onManager (ConsentManager.invalidateDesktopPrompts now desktop nowMs))
  drains : K (onManager (ConsentManager.onRegistry ConsentAuthorityState.drain))
  shuts : ∀ nowMs, K (onManager (ConsentManager.shutdown nowMs))
  sweeps : ∀ {steps : List (AgentRuntime.Method ω σ Unit)}, (∀ step ∈ steps, K step) →
    K (sweep id steps)
  completes : K (change fun runtime => { runtime with cleanupComplete := true })

namespace Withdrawals

variable (withdrawals : Withdrawals platform K)

include withdrawals

theorem sendAnswers (answers : List Answer) : K (sendAnswers platform answers) := by
  induction answers with
  | nil => exact withdrawals.composes.pure _
  | cons answer rest ih => exact withdrawals.composes.bind (withdrawals.answers _) fun _ => ih

theorem reconcileDueAuthority : K (reconcileDueAuthority platform) := by
  refine withdrawals.composes.bind withdrawals.nowMs fun nowMs =>
    withdrawals.composes.bind (withdrawals.composes.bind withdrawals.composes.read fun runtime => ?_)
      fun invalidations =>
        withdrawals.composes.bind (withdrawals.releaseAuthorityInvalidations _) fun _ =>
          withdrawals.composes.pure _
  split
  · exact withdrawals.composes.bind withdrawals.readInstant fun _ => withdrawals.takesDue _ _
  · exact withdrawals.composes.pure _

theorem reconcileDesktopAuthority (desktop : TrustedDesktopState) :
    K (reconcileDesktopAuthority platform desktop) := by
  refine withdrawals.composes.bind withdrawals.composes.read fun runtime =>
    withdrawals.composes.bind (withdrawals.composes.bind withdrawals.composes.read fun runtime => ?_)
      fun withdrawn =>
        withdrawals.composes.bind (withdrawals.releaseAuthorityInvalidations _) fun _ =>
          withdrawals.composes.bind (withdrawals.composes.when withdrawals.releaseInput) fun _ =>
            withdrawals.sendAnswers _
  split
  · exact withdrawals.composes.bind withdrawals.nowMs fun _ =>
      withdrawals.composes.bind withdrawals.readInstant fun _ =>
        withdrawals.composes.bind (withdrawals.withdraws _ _ _) fun _ =>
          withdrawals.composes.bind (withdrawals.takesForeign _) fun _ => withdrawals.composes.pure _
  · exact withdrawals.composes.pure _

theorem terminalCleanup : K (terminalCleanup platform) := by
  refine withdrawals.composes.bind withdrawals.composes.read fun runtime => ?_
  split
  · exact withdrawals.composes.pure _
  · refine withdrawals.composes.bind (withdrawals.composes.bind withdrawals.composes.read
      fun runtime => withdrawals.composes.bind ?_ fun invalidations => withdrawals.sweeps ?_)
        fun _ => withdrawals.completes
    · split
      · exact withdrawals.drains
      · exact withdrawals.composes.pure _
    · intro step listed
      simp only [List.mem_cons, List.not_mem_nil, or_false] at listed
      rcases listed with rfl | rfl | rfl
      · exact withdrawals.releaseAuthorityInvalidations _
      · exact withdrawals.releaseInput
      · exact withdrawals.composes.bind withdrawals.nowMs fun _ =>
          withdrawals.composes.bind withdrawals.composes.read fun _ =>
            withdrawals.composes.when (withdrawals.shuts _)

end Withdrawals

/-- **The methods of the rounds**, but for the completion of a prompt. -/
structure Rounds (platform : Platform ω σ)
    (K : {α : Type} → AgentRuntime.Method ω σ α → Prop) : Prop extends Plumbing platform K where
  answers : ∀ answer : Answer,
    K (enqueue platform (.consentResult answer.result) (some answer.attemptId))
  stops : ∀ {α : Type} (error : AgentRuntimeError), K (fail error : Method ω σ α)
  reconcileDue : K (reconcileDueAuthority platform)
  reconcileDesktop : ∀ desktop, K (reconcileDesktopAuthority platform desktop)
  expireDue : ∀ now nowMs, K (onManager (ConsentManager.expireDue now nowMs))
  admits : ∀ request context now,
    K (onManager (attempt (ConsentManager.admitPrompt request context now)))
  cancels : ∀ cancel now nowMs, K (onManager (ConsentManager.cancel cancel now nowMs))
  activates : K (activateAdmitted platform)
  executes : ∀ execute nowMs, K (executeOutcome platform execute nowMs)
  inputs : ∀ envelope nowMs, K (inputOutcome platform envelope nowMs)
  renders : ∀ unit, K (ask (platform.renderAccessUnit unit))
  captures : K (ask platform.captureAccessUnits)
  emits : ∀ desktop unit, K (sendCaptured platform desktop unit)
  ends : K (terminalCleanup platform)

namespace Rounds

variable (rounds : Rounds platform K)

include rounds

theorem sendAnswers (answers : List Answer) : K (sendAnswers platform answers) := by
  induction answers with
  | nil => exact rounds.composes.pure _
  | cons answer rest ih => exact rounds.composes.bind (rounds.answers _) fun _ => ih

theorem handleManagedConsent (request : ConsentRequest) :
    K (handleManagedConsent platform request) := by
  refine rounds.composes.bind rounds.composes.read fun runtime => ?_
  split
  · exact rounds.composes.bind rounds.nowMs fun _ => rounds.send _
  · refine rounds.composes.bind rounds.trustedConsentContext fun context =>
      rounds.composes.bind rounds.readInstant fun now =>
        rounds.composes.bind (rounds.expireDue _ _) fun due =>
          rounds.composes.bind (rounds.sendAnswers _) fun _ =>
            rounds.composes.bind rounds.readInstant fun admittedAt =>
              rounds.composes.bind (rounds.admits _ _ _) fun outcome => ?_
    split
    · exact rounds.send _
    · exact rounds.activates
    · exact rounds.composes.bind rounds.nowMs fun _ => rounds.send _
    · exact rounds.composes.bind rounds.nowMs fun _ => rounds.send _
    · exact rounds.composes.bind rounds.nowMs fun _ => rounds.send _
    · exact rounds.stops _

theorem handleConsentDeadline : K (handleConsentDeadline platform) :=
  rounds.composes.bind rounds.nowMs fun _ => rounds.composes.bind rounds.readInstant fun _ =>
    rounds.composes.bind (rounds.expireDue _ _) fun _ => rounds.sendAnswers _

theorem handleManagedCancel (cancel : CancelConsent) : K (handleManagedCancel platform cancel) := by
  refine rounds.composes.bind rounds.nowMs fun _ =>
    rounds.composes.bind rounds.composes.read fun runtime => ?_
  split
  · exact rounds.composes.bind rounds.readInstant fun _ =>
      rounds.composes.bind (rounds.cancels _ _ _) fun _ => rounds.sendAnswers _
  · exact rounds.composes.pure _

theorem handleExecute (execute : ExecuteCommand) : K (handleExecute platform execute) :=
  rounds.composes.bind rounds.nowMs fun _ => rounds.composes.bind (rounds.executes _ _) fun _ =>
    rounds.composes.bind rounds.nowMs fun _ => rounds.send _

theorem handleInput (envelope : InputEventEnvelope) : K (handleInput platform envelope) :=
  rounds.composes.bind rounds.nowMs fun _ => rounds.composes.bind (rounds.inputs _ _) fun _ =>
    rounds.send _

theorem handleStop (stop : StopAgent) : K (handleStop platform stop) := by
  refine rounds.composes.bind rounds.readInstant fun anchor =>
    rounds.composes.bind rounds.nowMs fun nowMs =>
      rounds.composes.bind (rounds.composes.refuse _ _ rfl) fun _ => ?_
  split
  · exact rounds.composes.fail _ rfl
  · refine rounds.composes.bind rounds.ends fun _ =>
      rounds.composes.bind rounds.readInstant fun now =>
        rounds.composes.bind (rounds.composes.refuse _ _ rfl) fun _ =>
          rounds.composes.bind rounds.resolveDesktopState fun _ =>
            rounds.composes.bind (rounds.nextEventContext _) fun context =>
              rounds.composes.bind (rounds.stopping _) fun _ =>
                rounds.composes.bind rounds.flushStopping fun flushed => ?_
    cases flushed with
    | ok exit => exact rounds.composes.pure _
    | error error => exact rounds.stops _

theorem pumpCaptureAccessUnits : K (pumpCaptureAccessUnits platform) := by
  refine rounds.composes.bind rounds.resolveDesktopState fun desktop =>
    rounds.composes.bind rounds.composes.read fun runtime => ?_
  split
  · refine rounds.composes.bind rounds.captures fun units => ?_
    cases units with
    | none => exact rounds.composes.fail _ rfl
    | some units => exact rounds.composes.forEach (fun unit _ => rounds.emits _ unit) _ _
  · exact rounds.composes.pure _

theorem followDesktop : K (followDesktop platform) :=
  rounds.composes.bind rounds.resolveDesktopState fun _ =>
    rounds.composes.bind (rounds.reconcileDesktop _) fun _ => rounds.noteDesktop _

theorem handleMessage (message : ServiceToAgent) : K (handleMessage platform message) := by
  cases message with
  | stopAgent stop =>
    exact rounds.composes.bind (rounds.handleStop stop) fun _ => rounds.composes.pure _
  | execute execute =>
    exact rounds.composes.bind (rounds.handleExecute execute) fun _ => rounds.composes.pure _
  | consentRequest request =>
    exact rounds.composes.bind (rounds.handleManagedConsent request) fun _ => rounds.composes.pure _
  | cancelConsent cancel =>
    exact rounds.composes.bind (rounds.handleManagedCancel cancel) fun _ => rounds.composes.pure _
  | inputEvent envelope =>
    exact rounds.composes.bind (rounds.handleInput envelope) fun _ => rounds.composes.pure _
  | renderAccessUnit unit =>
    refine rounds.composes.bind rounds.composes.read fun runtime => rounds.composes.bind ?_ fun _ =>
      rounds.composes.bind (rounds.composes.refuse _ _ rfl) fun _ => rounds.composes.pure _
    split
    · exact rounds.renders unit
    · exact rounds.composes.pure _
  | agentChallenge => exact rounds.composes.fail _ rfl

theorem handleEvent (event : RegisteredLoopEvent) (dueSessions : List SessionId)
    (other : ∀ completion, event ≠ .consent (some completion)) :
    K (handleEvent platform event dueSessions) := by
  cases event with
  | inbound event =>
    rcases event with _ | message | _ | _
    · exact rounds.composes.bind rounds.ends fun _ => rounds.composes.pure _
    · exact rounds.handleMessage message
    · exact rounds.composes.fail _ rfl
    · exact rounds.composes.bind rounds.ends fun _ => rounds.composes.pure _
  | consent completion =>
    cases completion with
    | none => exact rounds.composes.fail _ rfl
    | some completion => exact absurd rfl (other completion)
  | consentDeadline =>
    exact rounds.composes.bind rounds.handleConsentDeadline fun _ => rounds.composes.pure _
  | desktopChanged alive =>
    cases alive with
    | true => exact rounds.composes.bind rounds.followDesktop fun _ => rounds.composes.pure _
    | false => exact rounds.composes.bind rounds.ends fun _ => rounds.composes.fail _ rfl
  | sourceClosed => exact rounds.composes.bind rounds.ends fun _ => rounds.composes.fail _ rfl
  | heartbeat => exact rounds.composes.bind rounds.handleHeartbeat fun _ => rounds.composes.pure _
  | capture =>
    exact rounds.composes.bind rounds.pumpCaptureAccessUnits fun _ => rounds.composes.pure _
  | writerTerminal => exact rounds.composes.fail _ rfl

theorem prepares (event : RegisteredLoopEvent) {next : List SessionId → AgentRuntime.Method ω σ α}
    (handles : ∀ due, K (next due)) :
    K (do
      let dueSessions ←
        (if looksAtDeadlines event then reconcileDueAuthority platform else pure [])
      when (looksAtDesktop event) (AgentRuntime.followDesktop platform)
      next dueSessions) := by
  refine rounds.composes.bind ?_ fun dueSessions =>
    rounds.composes.bind (rounds.composes.when rounds.followDesktop) fun _ => handles dueSessions
  split
  · exact rounds.reconcileDue
  · exact rounds.composes.pure _

/-- A completion of a prompt, where it has the property whatever was released before. -/
theorem consents
    (completes : ∀ completion released, K (handleConsentCompletion platform completion released))
    (completion : BackendCompletion) : K (iterate platform (.consent (some completion))) :=
  rounds.prepares _ fun _ => rounds.composes.bind (completes _ _) fun _ => rounds.composes.pure _

end Rounds

/-- **The methods of all rounds.** -/
structure Course (platform : Platform ω σ)
    (K : {α : Type} → AgentRuntime.Method ω σ α → Prop) : Prop extends Rounds platform K where
  completion : ∀ completion, K (iterate platform (.consent (some completion)))

/-- **Every round has the property that its methods have.** -/
theorem Course.iterate (course : Course platform K) (event : RegisteredLoopEvent) :
    K (iterate platform event) := by
  by_cases completes : ∃ completion, event = .consent (some completion)
  · obtain ⟨completion, rfl⟩ := completes
    exact course.completion completion
  · exact course.prepares event fun due =>
      course.handleEvent event due fun completion is => completes ⟨completion, is⟩

/-! ### Runs -/

/-- What every method of the loop keeps holds along every run. -/
theorem Course.run {I : AgentRuntime ω σ → Prop}
    (course : Course platform (Procedure.Moves (Procedure.Keeping I)))
    {first last : LoopState ω σ} (holds : I first.runtime)
    (reach : Execution.Reach (LoopState.step platform) Execution.always first last) :
    I last.runtime := by
  refine reach.invariant (I := fun state => I state.runtime) holds ?_
  intro before label after kept _ stepped
  unfold LoopState.step at stepped
  split at stepped
  · cases stepped
    exact course.connect _ kept
  · cases stepped
    exact course.iterate _ _ kept
  · cases stepped
    exact course.ends _ kept
  · cases stepped

end MiniRemoteDesktop.Agent
