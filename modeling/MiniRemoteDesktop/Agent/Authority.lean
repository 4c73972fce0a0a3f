/-
**What an authorization rests on.**

* `validateExecuteGrant_ok`, `validateExecuteCommand_ok` — a command that passes is the one that was
  sent, and its grant lies within the context.
* `validateInputEvent_ok`, `screen_ok` — an event that passes is `Admissible`, and it is new.
-/

import MiniRemoteDesktop.Agent.Course
import MiniRemoteDesktop.Lib.Checked

namespace MiniRemoteDesktop.Agent

open Procedure (Meets)
open Checked

/-! ### Grants -/

/-- **A grant that passes lies within its context.** -/
structure Within (claims : ExecuteGrantClaims) (context : ExecutionContext) : Prop where
  registrationId : claims.registrationId = context.registrationId
  registrationEpoch : claims.registrationEpoch = context.registrationEpoch
  sessionId : claims.sessionId = context.sessionId
  peer : claims.peer = context.peer
  policyRevision : claims.policyRevision = context.policyRevision
  windowsSessionId : claims.windowsSessionId = context.windowsSessionId
  desktopEpoch : claims.desktopEpoch = context.desktopEpoch
  desktopKind : claims.desktopKind = context.desktopKind
  scopes : claims.scopes ⊆ context.authorizationScopes
  expires : claims.expiresAtMs ≤ context.authorizationExpiresAtMs

variable {context : ExecutionContext}

variable {digests : Digests}

theorem validateExecuteGrant_ok {grant : ExecuteGrant} {commandDigest : Digest}
    {required : PermissionScopes} {purpose : ExecutionPurpose} {authorized : AuthorizedGrant}
    (passed : validateExecuteGrant digests grant context commandDigest required purpose =
      .ok authorized) :
    authorized = { claims := grant.claims, issuerKeyId := grant.issuerKeyId } ∧
      Within grant.claims context ∧ required ⊆ grant.claims.scopes ∧
      grant.issuerKeyId = context.expectedIssuerKeyId ∧ digests.verify grant ∧
      grant.claims.commandDigest = commandDigest ∧
      (purpose = .start → context.nowMs < grant.claims.expiresAtMs) := by
  obtain ⟨-, passed⟩ := refused_ok passed
  obtain ⟨issuer, passed⟩ := refused_ok passed
  obtain ⟨-, passed⟩ := refused_ok passed
  obtain ⟨verified, passed⟩ := refused_ok passed
  -- the shape of the claims
  obtain ⟨-, passed⟩ := refused_ok passed
  obtain ⟨-, passed⟩ := refused_ok passed
  obtain ⟨-, passed⟩ := refused_ok passed
  obtain ⟨-, passed⟩ := refused_ok passed
  obtain ⟨-, passed⟩ := refused_ok passed
  obtain ⟨-, passed⟩ := refused_ok passed
  obtain ⟨-, passed⟩ := refused_ok passed
  obtain ⟨-, passed⟩ := refused_ok passed
  obtain ⟨-, passed⟩ := refused_ok passed
  obtain ⟨-, passed⟩ := refused_ok passed
  obtain ⟨-, passed⟩ := refused_ok passed
  -- the context
  obtain ⟨registration, passed⟩ := refused_ok passed
  obtain ⟨epoch, passed⟩ := refused_ok passed
  obtain ⟨session, passed⟩ := refused_ok passed
  obtain ⟨device, passed⟩ := refused_ok passed
  obtain ⟨key, passed⟩ := refused_ok passed
  obtain ⟨policy, passed⟩ := refused_ok passed
  obtain ⟨windows, passed⟩ := refused_ok passed
  obtain ⟨desktopEpoch, passed⟩ := refused_ok passed
  obtain ⟨desktopKind, passed⟩ := refused_ok passed
  obtain ⟨command, passed⟩ := refused_ok passed
  obtain ⟨-, passed⟩ := refused_ok passed
  obtain ⟨needed, passed⟩ := refused_ok passed
  obtain ⟨scopes, passed⟩ := refused_ok passed
  -- the times
  obtain ⟨-, passed⟩ := refused_ok passed
  obtain ⟨-, passed⟩ := refused_ok passed
  obtain ⟨expires, passed⟩ := refused_ok passed
  obtain ⟨-, passed⟩ := refused_ok passed
  obtain ⟨-, passed⟩ := refused_ok passed
  obtain ⟨fresh, passed⟩ := refused_ok passed
  have peer : grant.claims.peer = context.peer := by
    rcases same : grant.claims.peer with ⟨_, _⟩
    rcases other : context.peer with ⟨_, _⟩
    rw [same, other] at device key
    exact congrArg₂ _ (not_not.mp device) (not_not.mp key)
  exact ⟨(Except.ok.inj passed).symm, ⟨not_not.mp registration, not_not.mp epoch, not_not.mp session,
    peer, not_not.mp policy, not_not.mp windows, not_not.mp desktopEpoch, not_not.mp desktopKind,
    not_not.mp scopes, Nat.le_of_not_lt expires⟩, not_not.mp needed, not_not.mp issuer,
    by simpa using verified, not_not.mp command,
    fun start => Nat.lt_of_not_le fun late => fresh ⟨start, late⟩⟩

variable {execute : ExecuteCommand}

theorem validateExecuteCommand_ok {authorized : AuthorizedCommand}
    (passed : validateExecuteCommand digests execute context = .ok authorized) :
    authorized = {
        commandId := execute.commandId
        command := execute.command
        grant := { claims := execute.grant.claims, issuerKeyId := execute.grant.issuerKeyId } } ∧
      Within execute.grant.claims context ∧
      execute.command.requiredScopes ⊆ execute.grant.claims.scopes ∧
      execute.grant.issuerKeyId = context.expectedIssuerKeyId ∧
      digests.verify execute.grant ∧
      execute.grant.claims.commandDigest = digests.commandDigest execute.commandId execute.command ∧
      (¬ execute.command.isCleanup →
        context.desktopKind = .default ∧ context.nowMs < execute.grant.claims.expiresAtMs) := by
  unfold validateExecuteCommand at passed
  obtain ⟨-, passed⟩ := guarded_ok passed
  obtain ⟨-, passed⟩ := guarded_ok passed
  obtain ⟨-, passed⟩ := guarded_ok passed
  have later : ∃ purpose, purpose = (if execute.command.isCleanup then ExecutionPurpose.cleanup
      else .start) ∧ ¬ (purpose = .start ∧ context.desktopKind ≠ .default) ∧
      (do
        let grant ← validateExecuteGrant digests execute.grant context
          (digests.commandDigest execute.commandId execute.command) execute.command.requiredScopes
          purpose
        return { commandId := execute.commandId, command := execute.command, grant }) =
          (.ok authorized : Except GrantValidationError AuthorizedCommand) := by
    cases malformed : malformedCommand execute.command with
    | some error =>
      rw [malformed] at passed
      cases passed
    | none =>
      rw [malformed] at passed
      exact ⟨_, rfl, guarded_ok passed⟩
  obtain ⟨purpose, is, kind, passed⟩ := later
  obtain ⟨grant, valid, ⟨⟩⟩ := bind_ok passed
  obtain ⟨rfl, inside, scopes, issuer, verified, digest, fresh⟩ := validateExecuteGrant_ok valid
  refine ⟨rfl, inside, scopes, issuer, verified, digest, fun starts => ?_⟩
  rw [if_neg starts] at is
  exact ⟨not_not.mp fun other => kind ⟨is, other⟩, fresh is⟩

/-! ### Input events -/

/-- **An event that passes** belongs to the resource and to its session; unless it only releases, it
lies within the scopes of the command and of the session, in time and on the desktop. -/
structure Admissible (envelope : InputEventEnvelope) (resource : AuthorizedInputResource)
    (context : ExecutionContext) : Prop where
  sessionId : envelope.sessionId = resource.grant.claims.sessionId
  resourceId : envelope.resourceId = resource.resourceId
  startGrantId : envelope.startGrantId = resource.startGrantId
  contextSession : context.sessionId = resource.grant.claims.sessionId
  peer : context.peer = resource.grant.claims.peer
  needs : ∀ scope, envelope.event.requiredScope = some scope →
    scope ∈ resource.inputScopes ∧ scope ∈ context.authorizationScopes ∧
      context.nowMs < context.authorizationExpiresAtMs ∧
      context.nowMs < resource.grant.claims.expiresAtMs ∧
      context.policyRevision = resource.grant.claims.policyRevision ∧
      context.desktopEpoch = resource.grant.claims.desktopEpoch ∧ context.desktopKind = .default

variable {envelope : InputEventEnvelope} {payload : InputEventPayload}

theorem validateInputEvent_ok {resource : AuthorizedInputResource}
    (passed : validateInputEvent envelope resource context = .ok payload) :
    payload = envelope.event ∧ Admissible envelope resource context := by
  obtain ⟨_, -, passed⟩ := bind_ok passed
  obtain ⟨belongs, passed⟩ := guarded_ok passed
  simp only [not_or, not_not, not_lt] at belongs
  obtain ⟨session, id, grant, -, -, contextSession, peer, -⟩ := belongs
  cases needed : envelope.event.requiredScope with
  | none =>
    rw [needed] at passed
    refine ⟨(Except.ok.inj passed).symm, session, id, grant, contextSession, peer, fun scope is => ?_⟩
    simp [needed] at is
  | some required =>
    rw [needed] at passed
    obtain ⟨covered, passed⟩ := guarded_ok passed
    obtain ⟨policy, passed⟩ := guarded_ok passed
    obtain ⟨desktop, passed⟩ := guarded_ok passed
    simp only [not_or, not_not, not_le, not_lt] at covered desktop
    obtain ⟨named, approved, fresh, -, -, unexpired⟩ := covered
    obtain ⟨epoch, -, kind⟩ := desktop
    refine ⟨(Except.ok.inj passed).symm, session, id, grant, contextSession, peer, ?_⟩
    intro scope is
    rw [needed] at is
    cases is
    exact ⟨named, approved, unexpired, fresh, not_not.mp policy, epoch, kind⟩

/-- An event that reaches the device is new, and it passed. -/
theorem screen_ok {state : InputResourceState} {commitment : Digest}
    (passed : InputResourceManager.screen digests state envelope context = .ok (commitment, payload)) :
    envelope.commitment digests = .ok commitment ∧ state.replay.lookup envelope.sequence = none ∧
      validateInputEvent envelope state.resource context = .ok payload ∧
      state.lastSequence < envelope.sequence := by
  obtain ⟨committed, commits, passed⟩ := bind_ok passed
  cases cached : state.replay.lookup envelope.sequence with
  | some answer =>
    rw [cached] at passed
    cases passed
  | none =>
    rw [cached] at passed
    obtain ⟨event, valid, passed⟩ := bind_ok passed
    obtain ⟨later, ⟨⟩⟩ := guarded_ok passed
    refine ⟨?_, rfl, ?_, Nat.lt_of_not_le later⟩
    · cases given : envelope.commitment digests with
      | error rejection =>
        rw [given] at commits
        cases commits
      | ok digest =>
        rw [given] at commits
        exact congrArg _ (Except.ok.inj commits)
    · cases given : validateInputEvent envelope state.resource context with
      | error rejection =>
        rw [given] at valid
        cases valid
      | ok event =>
        rw [given] at valid
        exact congrArg _ (Except.ok.inj valid)

/-! ### Authorizations -/

namespace AgentRuntime

variable {ω σ : Type}

/-- Only the world moved on. -/
def Elsewhere (before after : AgentRuntime ω σ) : Prop := ∃ world, after = { before with world }

instance : IsPreorder (AgentRuntime ω σ) Elsewhere where
  refl runtime := ⟨runtime.world, rfl⟩
  trans _ _ _ := by
    rintro ⟨world, rfl⟩ ⟨other, rfl⟩
    exact ⟨other, rfl⟩

theorem ask_elsewhere {α : Type} (question : ω → α × ω) :
    Procedure.Moves Elsewhere (ask question : Method ω σ α) :=
  fun _ => ⟨_, rfl⟩

/-- The authority, the input backend and the log stay what they are. -/
structure Still (before after : AgentRuntime ω σ) : Prop where
  authority : after.authority = before.authority
  input : after.input = before.input
  log : after.log = before.log

instance : IsPreorder (AgentRuntime ω σ) Still where
  refl _ := ⟨rfl, rfl, rfl⟩
  trans _ _ _ first second := ⟨second.authority.trans first.authority,
    second.input.trans first.input, second.log.trans first.log⟩

theorem Elsewhere.still {before after : AgentRuntime ω σ} (elsewhere : Elsewhere before after) :
    Still before after := by
  obtain ⟨world, rfl⟩ := elsewhere
  exact ⟨rfl, rfl, rfl⟩

theorem ask_still {α : Type} (question : ω → α × ω) :
    Procedure.Moves Still (ask question : Method ω σ α) :=
  fun _ => ⟨rfl, rfl, rfl⟩

theorem enqueue_still (platform : Platform ω σ) (message : AgentToService) (answers : Option Nat) :
    Procedure.Moves Still (enqueue platform message answers) := by
  refine .bind (ask_still _) fun sent => ?_
  cases sent with
  | true => exact fun _ => ⟨rfl, rfl, rfl⟩
  | false => exact .fail _

/-- **The plumbing leaves all three alone.** -/
theorem plumbing_still (platform : Platform ω σ) : Plumbing platform (Procedure.Moves Still) where
  composes := Procedure.Moves.composes _ Still
  nowMs := ask_still _
  instants := ask_still _
  currentState := ask_still _
  consentAvailable := ask_still _
  capabilities := ask_still _
  renderMetrics := ask_still _
  flushStopping := ask_still _
  send message := enqueue_still platform message none
  stopping _ _ := ⟨rfl, rfl, rfl⟩
  remembers _ _ := ⟨rfl, rfl, rfl⟩
  sequence _ _ := ⟨rfl, rfl, rfl⟩
  revision _ _ := ⟨rfl, rfl, rfl⟩

theorem retireReceipts_still (condition : CleanupReceipt → Bool) :
    Procedure.Moves Still (retireReceipts condition : Method ω σ Unit) :=
  fun _ => ⟨rfl, rfl, rfl⟩

theorem recordOutcome_still (runtime : AgentRuntime ω σ) (authorized : AuthorizedCommand)
    (binding : TrustedSessionBinding) (outcome : CommandOutcome) :
    Still runtime (runtime.recordOutcome authorized binding outcome) := by
  unfold recordOutcome
  simp only
  split
  · exact ⟨rfl, rfl, rfl⟩
  · split
    · split <;> exact ⟨rfl, rfl, rfl⟩
    · exact ⟨rfl, rfl, rfl⟩

/-- **What is known of an authorization.** -/
structure Authorized (platform : Platform ω σ) (runtime : AgentRuntime ω σ) (execute : ExecuteCommand)
    (moment : Moment) (authorization : Authorization) : Prop where
  taken : authorization.moment = moment
  valid : validateExecuteCommand platform.digests execute (executionContext authorization.binding
    ⟨authorization.binding.desktopEpoch, authorization.binding.desktopKind⟩ moment.nowMs) =
      .ok authorization.command
  cleanup : execute.command.isCleanup → receiptBinding platform runtime execute moment.desktop =
      some (authorization.binding, authorization.retired)
  start : ¬ execute.command.isCleanup → authorization.retired = false ∧
    bindingMatchesRuntime platform authorization.binding moment.desktop ∧
    ∃ manager, runtime.authority = some manager ∧ ∃ now,
      manager.registry.resolve execute.grant.claims.sessionId moment.nowMs now =
        some authorization.binding

variable {platform : Platform ω σ}

theorem Authorized.command {runtime : AgentRuntime ω σ} {moment : Moment}
    {authorization : Authorization}
    (authorized : Authorized platform runtime execute moment authorization) :
    authorization.command.command = execute.command := by
  rw [(validateExecuteCommand_ok authorized.valid).1]

/-- The binding in force, at some reading of the monotonic clock. -/
theorem resolveBinding_meets (sessionId : SessionId) (nowMs : Nat) (runtime : AgentRuntime ω σ) :
    Meets (resolveBinding platform sessionId nowMs) runtime
      (fun found t => Elsewhere runtime t ∧ ∃ manager, runtime.authority = some manager ∧
        ∃ now, manager.registry.resolve sessionId nowMs now = found)
      fun _ t => Elsewhere runtime t := by
  have asks : Procedure.Moves Elsewhere (readInstant platform : Method ω σ Nat) :=
    .bind (ask_elsewhere _) fun _ => .pure _
  refine .bind (asks.meets runtime) fun now t elsewhere =>
    .bind (R := fun seen u => seen.authority = runtime.authority ∧ Elsewhere runtime u)
      (.read ⟨?_, elsewhere⟩) fun seen u ⟨same, left⟩ => ?_
  · obtain ⟨world, rfl⟩ := elsewhere
    rfl
  · cases found : seen.authority with
    | none => exact .fail left
    | some manager => exact .pure ⟨left, manager, same.symm.trans found, now, rfl⟩

/-- **`authorize` answers authorizations that rest on something.** -/
theorem authorize_meets (execute : ExecuteCommand) (moment : Moment) (runtime : AgentRuntime ω σ) :
    Meets (authorize platform execute moment) runtime (fun found t => Elsewhere runtime t ∧
        ∀ authorization ∈ found, Authorized platform runtime execute moment authorization)
      fun _ t => Elsewhere runtime t := by
  refine .bind (R := fun found t => Elsewhere runtime t ∧ (execute.command.isCleanup →
      receiptBinding platform runtime execute moment.desktop = found) ∧
    (¬ execute.command.isCleanup → ∀ binding, found = some binding → binding.2 = false ∧
      ∃ manager, runtime.authority = some manager ∧ ∃ now,
        manager.registry.resolve execute.grant.claims.sessionId moment.nowMs now = some binding.1))
    ?_ fun found t ⟨elsewhere, cleanup, start⟩ => ?_
  · unfold commandBinding
    refine .ite (fun cleans => ?_) fun starts => ?_
    · exact .bind (R := fun seen t => seen = runtime ∧ t = runtime) (.read ⟨rfl, rfl⟩)
        fun seen t ⟨same, left⟩ => .pure ⟨left ▸ refl_of Elsewhere _, fun _ => same ▸ rfl,
          fun starts => absurd cleans starts⟩
    · refine .bind (resolveBinding_meets _ _ runtime) fun found t ⟨elsewhere, manager, there, now, is⟩ =>
        .pure ⟨elsewhere, fun cleans => absurd cleans starts, fun _ binding listed => ?_⟩
      obtain ⟨inner, among, rfl⟩ := Option.map_eq_some_iff.mp listed
      exact ⟨rfl, manager, there, now, is.trans among⟩
  · rcases found with _ | ⟨binding, retired⟩
    · exact .pure ⟨elsewhere, fun other listed => absurd listed (Option.not_mem_none other)⟩
    · refine .ite (fun allowed => ?_) fun _ => ?_
      · simp only
        split
        next command valid =>
          refine .pure ⟨elsewhere, ?_⟩
          rintro _ ⟨⟩
          refine ⟨rfl, valid, cleanup, fun starts => ?_⟩
          obtain ⟨rfl, resolved⟩ := start starts _ rfl
          exact ⟨rfl, (Bool.false_or _).symm.trans allowed, resolved⟩
        · exact .pure ⟨elsewhere, fun other listed => absurd listed (Option.not_mem_none other)⟩
      · exact .pure ⟨elsewhere, fun other listed => absurd listed (Option.not_mem_none other)⟩

end AgentRuntime

end MiniRemoteDesktop.Agent
