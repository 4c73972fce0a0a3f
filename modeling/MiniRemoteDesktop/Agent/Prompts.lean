/-
**The consent manager** (`mrd-session-agent`, `consent.rs`).

The manager shows one prompt at a time and queues the others. The prompt on screen is `active`: it is
`prompting` while its request waits for an answer, and `closing` after the request was answered
without the user and the surface has still to go away. A surface that closed is reported by a
`BackendCompletion`; these come from outside, so any of them may arrive at any time, for any attempt.

A method reads the monotonic clock several times. `instants` gives the readings of one call in order;
nothing says that they grow. `admitted` lists the prompts that were admitted, newest first.
-/

import MiniRemoteDesktop.Agent.Consent

namespace MiniRemoteDesktop.Agent

open Procedure

inductive ConsentBackendDecision
  | approved (scopes : PermissionScopes)
  | denied
  | dismissed
  | cancelled

inductive ConsentAbortReason
  | service (reason : ConsentCancelReason)
  | desktopChanged
  | promptExpired
  | runtimeStopping
  | serviceDisconnected

inductive BackendCompletionOutcome
  | decision (decision : ConsentBackendDecision)
  | unavailable
  | backendFailed

structure BackendCompletion where
  attemptId : Nat
  outcome : BackendCompletionOutcome

structure ManagedPrompt where
  pending : PendingConsentPrompt
  context : TrustedConsentContext
  deadline : Nat
  deriving DecidableEq

inductive ActivePromptPhase
  | prompting
  | closing
  deriving DecidableEq

/-- The prompt on screen; `abort` is what its surface was told. -/
structure ActivePrompt where
  prompt : ManagedPrompt
  phase : ActivePromptPhase
  abort : Option ConsentAbortReason

structure ConsentManager where
  registry : ConsentAuthorityState
  queued : List ManagedPrompt
  active : Option ActivePrompt
  admitted : List PendingConsentPrompt

inductive ConsentManagerBeginOutcome
  | promptAdmitted
  | cached (result : ConsentResult)

structure ConsentManagerCompletion where
  results : List Answer
  freshAuthorityChange : Option FreshAuthorityChange

def exactCancelMatches (request : ConsentRequest) (cancel : CancelConsent) : Bool :=
  request.requestToken == cancel.requestToken && request.requestId == cancel.requestId &&
    request.sessionId == cancel.sessionId

namespace ManagedPrompt

/-- Whether the time of a prompt is over, by one of the two clocks. -/
def isDue (prompt : ManagedPrompt) (now nowMs : Nat) : Bool :=
  prompt.deadline ≤ now || prompt.pending.request.expiresAtMs ≤ nowMs

def isForeign (prompt : ManagedPrompt) (desktop : TrustedDesktopState) : Bool :=
  prompt.context.desktopEpoch != desktop.desktopEpoch ||
    prompt.context.desktopKind != desktop.desktopKind

/-- The cancellation of `cancel_managed_prompt`. -/
def cancellation (prompt : ManagedPrompt) : CancelConsent where
  requestToken := prompt.pending.request.requestToken
  requestId := prompt.pending.request.requestId
  sessionId := prompt.pending.request.sessionId
  reason := .sessionClosed

end ManagedPrompt

/-- What the registry is told about a surface that closed by itself. -/
def BackendCompletionOutcome.decided : BackendCompletionOutcome → ConsentDecision × PermissionScopes
  | .decision (.approved scopes) => (.approved, scopes)
  | .decision .denied => (.denied, ∅)
  | .decision .dismissed | .decision .cancelled | .unavailable | .backendFailed => (.dismissed, ∅)

namespace ConsentManager

/-- A method of the manager. -/
abbrev Method (α : Type) := Procedure ConsentManager ConsentRegistryError α

def new : ConsentManager := ⟨.empty, [], none, []⟩

def hasActivePrompt (manager : ConsentManager) : Bool := manager.active.isSome

def needsActivation (manager : ConsentManager) : Bool :=
  manager.active.isNone && !manager.queued.isEmpty

/-- Call a method of the registry. -/
def onRegistry {α : Type} (method : ConsentAuthorityState.Method α) : Method α := fun manager =>
  let answered := method manager.registry
  ({ manager with registry := answered.1 }, answered.2)

/-- `complete_expired_prompt`: at most one answer. -/
def completeExpiredPrompt (prompt : ManagedPrompt) (nowMs : Nat) : Method (List Answer) := do
  let context := { prompt.context with nowMs := max nowMs prompt.pending.request.expiresAtMs }
  match ← onRegistry (ConsentAuthorityState.complete prompt.pending.attemptId .expired ∅ context) with
  | .completed completion => return [completion.answer]
  | .ignored => return []

/-- `cancel_managed_prompt`, where an ignored cancellation is an error. -/
def cancelManagedPrompt (prompt : ManagedPrompt) (nowMs : Nat) : Method (List Answer) := do
  match ← onRegistry (ConsentAuthorityState.cancel prompt.cancellation nowMs) with
  | .cancelled answer => return [answer]
  | .ignored => fail .unavailable

/-- The surface of the prompt on screen is told to close. -/
def closeActive (reason : ConsentAbortReason) : Method Unit :=
  change fun manager =>
    { manager with
      active := manager.active.map fun active => { active with phase := .closing, abort := some reason } }

def unqueue (prompt : ManagedPrompt) : Method Unit :=
  change fun manager => { manager with queued := manager.queued.erase prompt }

/-- Close the queued prompts that meet a condition, in queue order. -/
def closeQueued (condition : ManagedPrompt → Bool) (close : ManagedPrompt → Method (List Answer)) :
    List ManagedPrompt → Method (List Answer)
  | [] => return []
  | prompt :: rest => do
    let answers ← (if condition prompt then close prompt else pure [])
    let later ← closeQueued condition close rest
    return answers ++ later

/-! ### Deadlines -/

/-- `expire_active`; both callers have seen a prompt on screen. -/
def expireActive (nowMs : Nat) : Method (List Answer) := do
  match (← read).active with
  | none => fail .unavailable
  | some active =>
    let answers ← completeExpiredPrompt active.prompt nowMs
    closeActive .promptExpired
    return answers

def expireQueuedDue (now nowMs : Nat) : Method (List Answer) := do
  let manager ← read
  closeQueued (·.isDue now nowMs) (fun prompt => do
    unqueue prompt
    completeExpiredPrompt prompt nowMs) manager.queued

/-- Whether the prompt on screen waits for an answer and its time is over. -/
def activeDue (manager : ConsentManager) (now nowMs : Nat) : Bool :=
  manager.active.any fun active => active.phase == .prompting && active.prompt.isDue now nowMs

def expireDue (now nowMs : Nat) : Method (List Answer) := do
  let manager ← read
  let answers ← (if manager.activeDue now nowMs then expireActive nowMs else pure [])
  let later ← expireQueuedDue now nowMs
  return answers ++ later

/-! ### The next prompt -/

/-- The loop of `start_next` over the queue: prompts that are due expire, prompts of another authority
are cancelled, and the first other one goes on screen. -/
def startFrom (instants : Nat → Nat) (context : TrustedConsentContext) :
    List ManagedPrompt → Nat → Method (List Answer)
  | [], _ => return []
  | prompt :: rest, tick => do
    change fun manager => { manager with queued := rest }
    if prompt.isDue (instants tick) context.nowMs then
      let answers ← completeExpiredPrompt prompt context.nowMs
      let later ← startFrom instants context rest (tick + 1)
      return answers ++ later
    else if !prompt.context.sameAuthority context then
      let answers ← cancelManagedPrompt prompt context.nowMs
      let later ← startFrom instants context rest (tick + 1)
      return answers ++ later
    else
      change fun manager =>
        { manager with active := some { prompt, phase := .prompting, abort := none } }
      return []

def startNext (instants : Nat → Nat) (context : TrustedConsentContext) : Method (List Answer) := do
  let manager ← read
  if manager.active.isSome then return [] else startFrom instants context manager.queued 0

/-- `activate`, and `resume_after_fresh_authority`, which does the same. -/
def activate (instants : Nat → Nat) (context : TrustedConsentContext) : Method (List Answer) := do
  let expired ← expireQueuedDue (instants 0) context.nowMs
  let started ← startNext (fun tick => instants (tick + 1)) context
  return expired ++ started

/-! ### Admission -/

/-- `admit`. -/
def admitPrompt (request : ConsentRequest) (context : TrustedConsentContext) (now : Nat) :
    Method ConsentManagerBeginOutcome := do
  match ← onRegistry (ConsentAuthorityState.beginAt request context now) with
  | .cached result => return .cached result
  | .prompt pending =>
    let deadline := now + (pending.request.expiresAtMs - context.nowMs)
    change fun manager =>
      { manager with
        queued := manager.queued ++ [{ pending, context, deadline }]
        admitted := pending :: manager.admitted }
    return .promptAdmitted

/-! ### Completion -/

/-- The decision of the surface on the prompt it showed. -/
def decideActive (active : ActivePrompt) (outcome : BackendCompletionOutcome)
    (context : TrustedConsentContext) : Method ConsentManagerCompletion := do
  let (decision, scopes) := outcome.decided
  match ← onRegistry (ConsentAuthorityState.complete active.prompt.pending.attemptId decision scopes
    context) with
  | .ignored => return { results := [], freshAuthorityChange := none }
  | .completed completed =>
    return {
      results := [completed.answer]
      freshAuthorityChange :=
        if completed.bindingChanged then
          some { sessionId := completed.answer.result.sessionId
                 consentRequestId := completed.answer.result.requestId
                 authorityGeneration := active.prompt.pending.attemptId }
        else none }

/-- The prompt on screen goes away. -/
def takeActive : Method Unit := change fun manager => { manager with active := none }

/-- `ConsentManager::complete`: a completion for another attempt than the one on screen is stale. -/
def complete (instants : Nat → Nat) (completion : BackendCompletion)
    (context : TrustedConsentContext) : Method ConsentManagerCompletion := do
  match (← read).active with
  | none => return { results := [], freshAuthorityChange := none }
  | some active =>
    if active.prompt.pending.attemptId ≠ completion.attemptId then
      return { results := [], freshAuthorityChange := none }
    else if active.phase = .prompting ∧ active.prompt.isDue (instants 0) context.nowMs then
      -- the deadline won: the surface has closed, and its decision is ignored
      let expired ← expireActive context.nowMs
      takeActive
      let queued ← expireQueuedDue (instants 0) context.nowMs
      let started ← startNext (fun tick => instants (tick + 1)) context
      return { results := expired ++ queued ++ started, freshAuthorityChange := none }
    else
      takeActive
      let decided ← (if active.phase ≠ .closing then decideActive active completion.outcome context
        else pure { results := [], freshAuthorityChange := none })
      let queued ← expireQueuedDue (instants 0) context.nowMs
      -- a fresh authority waits until the runtime has released the input of the old one
      let started ← (if decided.freshAuthorityChange.isNone then
        startNext (fun tick => instants (tick + 1)) context else pure [])
      return { decided with results := decided.results ++ queued ++ started }

/-! ### Withdrawal -/

/-- The prompt on screen is cancelled if it waits for an answer on another desktop. -/
def withdrawActive (desktop : TrustedDesktopState) (nowMs : Nat) : Method (List Answer) := do
  match (← read).active with
  | none => return []
  | some active =>
    if active.prompt.isForeign desktop ∧ active.phase = .prompting then
      let answers ← cancelManagedPrompt active.prompt nowMs
      closeActive .desktopChanged
      return answers
    else return []

def invalidateDesktopPrompts (now : Nat) (desktop : TrustedDesktopState) (nowMs : Nat) :
    Method (List Answer) := do
  let expired ← expireDue now nowMs
  let answers ← withdrawActive desktop nowMs
  let manager ← read
  let queued ← closeQueued (·.isForeign desktop) (fun prompt => do
    let answers ← cancelManagedPrompt prompt nowMs
    unqueue prompt
    return answers) manager.queued
  return expired ++ answers ++ queued

/-- `ConsentManager::cancel`: the prompt on screen is looked at first, whatever its phase. -/
def cancel (cancel : CancelConsent) (now nowMs : Nat) : Method (List Answer) := do
  let expired ← expireDue now nowMs
  let manager ← read
  if manager.active.any fun active => exactCancelMatches active.prompt.pending.request cancel then
    match ← onRegistry (ConsentAuthorityState.cancel cancel nowMs) with
    | .ignored => return expired
    | .cancelled answer =>
      closeActive (.service cancel.reason)
      return expired ++ [answer]
  else if manager.queued.any fun prompt => exactCancelMatches prompt.pending.request cancel then
    match ← onRegistry (ConsentAuthorityState.cancel cancel nowMs) with
    | .ignored => return expired
    | .cancelled answer =>
      change fun manager =>
        { manager with
          queued := manager.queued.eraseP fun prompt =>
            exactCancelMatches prompt.pending.request cancel }
      return expired ++ [answer]
  else return expired

/-- `shutdown`: every prompt is cancelled in the registry, and nothing is answered. The loop of the
source remembers the first error of the lock; a cancellation that is ignored is none. -/
def shutdown (nowMs : Nat) : Method Unit := do
  let manager ← read
  change fun manager => { manager with active := none, queued := [] }
  sweep (fun prompt => do
    let _ ← onRegistry (ConsentAuthorityState.cancel (ManagedPrompt.cancellation prompt) nowMs)
    return ()) ((manager.active.map ActivePrompt.prompt).toList ++ manager.queued)

end ConsentManager

end MiniRemoteDesktop.Agent
