/-
**Local consent bounds what the agent does.**

* `Approval`, `Consented` — the local user approved a prompt, and the authority that came of it was
  neither replaced nor taken back since.
* `Deed.Warranted` — what a privileged deed rests on: a start that calls a backend, an event that is
  no release, a captured frame that is sent.
-/

import MiniRemoteDesktop.Agent.Bindings
import MiniRemoteDesktop.Agent.Exclusion
import MiniRemoteDesktop.Lib.Journal

namespace MiniRemoteDesktop.Agent

open Procedure (Keeping Meets Moves)
open InputResourceManager (Handling Follows Releasing isRelease neededScope)
open ConsentManager
open InputResourceManager

variable {ω σ : Type}

/-! ### What a deed may rest on -/

/-- Whether the authority of a session changes. -/
def Act.changes (act : Act) (sessionId : SessionId) : Prop :=
  match act with
  | .approved _ change => change.sessionId = sessionId
  | .revoked invalidation => invalidation.sessionId = sessionId
  | .handed .. | .called _ | .emitted .. => False

/-- **The local user approved a prompt.** The completion names the attempt of a prompt that was
admitted, the user granted some of the scopes that it asked for, and the binding in the registry has
these scopes, and the peer, the policy and the lifetime of the request. -/
structure Approval (prompt : PendingConsentPrompt) (binding : TrustedSessionBinding)
    (deed : Deed ω σ) : Prop where
  completed : ∃ completion change, deed.act = .approved completion change ∧
    completion.attemptId = prompt.attemptId ∧
    completion.outcome = .decision (.approved binding.approvedScopes) ∧
    change = ⟨prompt.request.sessionId, prompt.request.requestId, prompt.attemptId⟩
  bound : ∃ manager ∈ deed.state.authority, prompt ∈ manager.admitted ∧
    manager.registry.bindings.lookup prompt.request.sessionId = some binding
  within : binding.approvedScopes ⊆ prompt.request.requestedScopes
  session : binding.sessionId = prompt.request.sessionId
  peer : binding.peer = prompt.request.peer
  policyRevision : binding.policyRevision = prompt.request.policyRevision
  expires : binding.authorizationExpiresAtMs = prompt.request.authorizationExpiresAtMs

/-- **A consent that stands**: it was given, and the authority of its session did not change since. -/
def Consented (log : List (Deed ω σ)) (prompt : PendingConsentPrompt)
    (binding : TrustedSessionBinding) : Prop :=
  Journal.Lasts (Approval prompt binding) (fun deed => deed.act.changes prompt.request.sessionId) log

/-- **The consent that a deed rests on.** It stands, its binding is the one in force, the time is not
over by the clock that was read for the deed, the registration and the desktop are those of the deed,
and the user approved the scopes that the deed needs. -/
structure Warrant (platform : Platform ω σ) (log : List (Deed ω σ)) (state : AgentState ω σ)
    (moment : Moment) (sessionId : SessionId) (needed : PermissionScopes)
    (prompt : PendingConsentPrompt) (binding : TrustedSessionBinding) : Prop where
  consented : Consented log prompt binding
  session : prompt.request.sessionId = sessionId
  inForce : ∃ manager ∈ state.authority, manager.registry.bindings.lookup sessionId = some binding
  fresh : moment.nowMs < prompt.request.authorizationExpiresAtMs
  registrationId : binding.registrationId = platform.identity.registrationId
  registrationEpoch : binding.registrationEpoch = platform.identity.registrationEpoch
  desktopEpoch : binding.desktopEpoch = moment.desktop.desktopEpoch
  desktopKind : moment.desktop.desktopKind = .default
  needed : needed ⊆ binding.approvedScopes

/-- The verifier accepted a grant for this command, by the issuer of the session. -/
def Signed (platform : Platform ω σ) (binding : TrustedSessionBinding) (command : AuthorizedCommand) :
    Prop :=
  ∃ grant : ExecuteGrant, platform.digests.verify grant ∧ grant.claims = command.grant.claims ∧
    grant.issuerKeyId = binding.expectedIssuerKeyId ∧
    grant.claims.commandDigest = platform.digests.commandDigest command.commandId command.command

/-- The claims of a command name the peer and the policy of a request. -/
structure Names (command : AuthorizedCommand) (request : ConsentRequest) : Prop where
  session : command.grant.claims.sessionId = request.sessionId
  peer : command.grant.claims.peer = request.peer
  policyRevision : command.grant.claims.policyRevision = request.policyRevision

/-- **A start that may be called.** -/
def CallWarranted (platform : Platform ω σ) (log : List (Deed ω σ)) (state : AgentState ω σ)
    (authorization : Authorization) : Prop :=
  ∃ prompt binding, Warrant platform log state authorization.moment
      authorization.command.grant.claims.sessionId authorization.command.command.requiredScopes
      prompt binding ∧
    Names authorization.command prompt.request ∧ Signed platform binding authorization.command

/-- **The start of an input resource**: the event lies within the scopes that a signed command of the
same session named. -/
def StartedFor (platform : Platform ω σ) (log : List (Deed ω σ)) (envelope : InputEventEnvelope)
    (request : ConsentRequest) (scope : PermissionScope) : Prop :=
  ∃ deed ∈ log, ∃ authorization inputScopes, deed.act = .called authorization ∧
    authorization.command.command = .startInput envelope.resourceId inputScopes ∧
    authorization.command.grant.claims.grantId = envelope.startGrantId ∧
    Names authorization.command request ∧ scope ∈ inputScopes ∧
    ∃ binding, Signed platform binding authorization.command

/-- **An event that may reach the device.** -/
def EventWarranted (platform : Platform ω σ) (log : List (Deed ω σ)) (state : AgentState ω σ)
    (event : Input.InputEvent) (cause : Option (InputEventEnvelope × Moment)) : Prop :=
  ∃ envelope moment prompt binding, cause = some (envelope, moment) ∧
    Warrant platform log state moment envelope.sessionId {neededScope event} prompt binding ∧
    StartedFor platform log envelope prompt.request (neededScope event)

/-- **A privileged deed has a warrant**, in the log before it. -/
def Deed.Warranted (platform : Platform ω σ) (deed : Deed ω σ) (log : List (Deed ω σ)) : Prop :=
  match deed.act with
  | .called authorization => ¬ authorization.command.command.isCleanup →
      CallWarranted platform log deed.state authorization
  | .handed event cause => ¬ isRelease event → EventWarranted platform log deed.state event cause
  | .emitted message moment => ∃ prompt binding,
      Warrant platform log deed.state moment message.unit.sessionId {.screenView} prompt binding
  | .approved .. | .revoked _ => True

variable {log : List (Deed ω σ)}

namespace AgentRuntime

variable {α : Type}

/-- The resource was opened by a start that is in the log. -/
def Started (log : List (Deed ω σ)) (resource : AuthorizedInputResource) : Prop :=
  ∃ deed ∈ log, ∃ authorization, deed.act = .called authorization ∧
    authorizeInputResource authorization.command = some resource

/-- The authority of a session rests on a consent that stands. -/
def Rests (log : List (Deed ω σ)) (sessionId : SessionId) (binding : TrustedSessionBinding) : Prop :=
  ∃ prompt, Consented log prompt binding ∧ prompt.request.sessionId = sessionId

/-- **What holds between the calls of the loop.** -/
structure Upheld (platform : Platform ω σ) (runtime : AgentRuntime ω σ) : Prop where
  justified : Journal.Justified (Deed.Warranted platform) runtime.log
  regular : ∀ manager ∈ runtime.authority, manager.Regular
  rests : ∀ manager ∈ runtime.authority, ∀ sessionId binding,
    manager.registry.bindings.lookup sessionId = some binding → Rests runtime.log sessionId binding
  started : ∀ input ∈ runtime.input, ∀ id state, input.resources.lookup id = some state →
    Started runtime.log state.resource

variable {platform : Platform ω σ} {runtime : AgentRuntime ω σ}

/-! ### What keeps it -/

variable {later : AgentRuntime ω σ}

theorem Upheld.frame (upheld : Upheld platform runtime) (still : Still runtime later) :
    Upheld platform later where
  justified := still.log ▸ upheld.justified
  regular := still.authority ▸ upheld.regular
  rests := still.authority ▸ still.log ▸ upheld.rests
  started := still.input ▸ still.log ▸ upheld.started

theorem keeps_of_still {m : Method ω σ α} (moves : Moves Still m) :
    Moves (Keeping (Upheld platform)) m :=
  fun runtime upheld => upheld.frame (moves runtime)

theorem ask_upheld (question : ω → α × ω) :
    Moves (Keeping (Upheld platform)) (ask question : Method ω σ α) :=
  keeps_of_still (ask_still question)

theorem plumbing_upheld : Plumbing platform (Moves (Keeping (Upheld platform))) :=
  (plumbing_still platform).mono (Moves.composes _ _) keeps_of_still

variable {binding : TrustedSessionBinding} {sessionId : SessionId}

variable (envelope : InputEventEnvelope) (new : List (Deed ω σ))

theorem Rests.append (rests : Rests log sessionId binding)
    (harmless : ∀ deed ∈ new, ¬ deed.act.changes sessionId) : Rests (new ++ log) sessionId binding := by
  obtain ⟨prompt, consented, is⟩ := rests
  exact ⟨prompt, consented.append (is ▸ harmless), is⟩

variable {resource : AuthorizedInputResource}

theorem Started.append (started : Started log resource) :
    Started (new ++ log) resource := by
  obtain ⟨deed, listed, opened⟩ := started
  exact ⟨deed, List.mem_append_right _ listed, opened⟩

/-- **Deeds that change no authority** are written down, each with its warrant. -/
theorem Upheld.write (upheld : Upheld platform runtime)
    (harmless : ∀ deed ∈ new, ∀ sessionId, ¬ deed.act.changes sessionId)
    (warranted : ∀ deed ∈ new, ∀ between, (∀ other ∈ between, other ∈ new) → deed.Warranted platform
      (between ++ runtime.log)) :
    Upheld platform { runtime with log := new ++ runtime.log } where
  justified := upheld.justified.append warranted
  regular := upheld.regular
  rests manager there sessionId binding found :=
    (upheld.rests manager there sessionId binding found).append new fun deed listed =>
      harmless deed listed sessionId
  started input found id state among := (upheld.started input found id state among).append new

theorem onManager_upheld {method : ConsentManager.Method α}
    (neutral : Moves ConsentManager.Neutral method) :
    Moves (Keeping (Upheld platform)) (onManager method : Method ω σ α) := by
  intro runtime upheld
  unfold onManager
  cases found : runtime.authority with
  | none => exact upheld
  | some manager =>
    have undecided := neutral manager (upheld.regular manager found)
    refine ⟨upheld.justified, ?_, ?_, upheld.started⟩
    · rintro _ ⟨⟩
      exact undecided.regular
    · rintro _ ⟨⟩ sessionId binding there
      rw [undecided.bindings] at there
      exact upheld.rests manager found sessionId binding there

variable {prompt : PendingConsentPrompt} {needed : PermissionScopes}

/-- A warrant holds wherever the same authority is in force. -/
theorem warrant_append {state later : AgentState ω σ} {moment : Moment}
    (warrant : Warrant platform log state moment sessionId needed prompt binding)
    (harmless : ∀ deed ∈ new, ∀ sessionId, ¬ deed.act.changes sessionId)
    (authority : later.authority = state.authority) :
    Warrant platform (new ++ log) later moment sessionId needed prompt binding :=
  { warrant with
    consented := warrant.consented.append fun deed listed => harmless deed listed _
    inForce := authority ▸ warrant.inForce }

/-- **The input backend is called**: what it hands to the device is warranted, and its resources stay
what they are. -/
theorem Upheld.hands {cause : Option (InputEventEnvelope × Moment)}
    {call : InputResourceManager σ → InputResourceManager σ × α} (allowed : Input.InputEvent → Prop)
    (upheld : Upheld platform runtime)
    (handles : ∀ input ∈ runtime.input,
      Handling allowed { input with injector := { input.injector with sent := [] } }
        (call { input with injector := { input.injector with sent := [] } }).1)
    (warranted : ∀ event, allowed event → ¬ isRelease event → ∀ between : List (Deed ω σ),
      (∀ deed ∈ between, ∀ sessionId, ¬ deed.act.changes sessionId) →
        EventWarranted platform (between ++ runtime.log) runtime.toAgentState event cause) :
    Upheld platform (onInput cause call runtime).1 := by
  unfold onInput
  cases found : runtime.input with
  | none => exact upheld
  | some input =>
    have handling := handles input found
    have harmless : ∀ deed ∈ (call { input with
        injector := { input.injector with sent := [] } }).1.injector.sent.map (fun event =>
          (⟨.handed event cause, runtime.toAgentState⟩ : Deed ω σ)),
        ∀ sessionId, ¬ deed.act.changes sessionId := by
      intro deed listed sessionId
      obtain ⟨event, -, rfl⟩ := List.mem_map.mp listed
      exact id
    have written := upheld.write _ harmless fun deed listed between among => by
      obtain ⟨event, sent, rfl⟩ := List.mem_map.mp listed
      obtain ⟨events, are, allows⟩ := handling.sends
      rw [are, List.append_nil] at sent
      exact fun privileged => warranted event (allows event sent) privileged between
        fun other here => harmless other (among other here)
    refine ⟨written.justified, written.regular, written.rests, ?_⟩
    rintro _ ⟨⟩ id state there
    obtain ⟨earlier, before, same⟩ := handling.inherits id state there
    rw [same]
    exact written.started input found id earlier before

theorem releases_upheld {call : InputResourceManager σ → InputResourceManager σ × α}
    (releasing : ∀ input, Releasing input (call input).1) :
    Moves (Keeping (Upheld platform)) (onInput none call : Method ω σ _) :=
  fun _ upheld => upheld.hands (fun event => isRelease event) (fun _ _ => (releasing _).handling fun _ => id)
    fun _ released privileged => absurd released privileged

/-! ### Taking authority back -/

/-- The sessions that lost their authority have none. -/
def Unbound (taken : List AuthorityInvalidation) (runtime : AgentRuntime ω σ) : Prop :=
  ∀ manager ∈ runtime.authority, ∀ invalidation ∈ taken,
    manager.registry.bindings.lookup invalidation.sessionId = none

/-- A revocation of a session without authority ends no consent that an authority rests on. -/
theorem Upheld.revoke {invalidation : AuthorityInvalidation} (upheld : Upheld platform runtime)
    (unbound : Unbound [invalidation] runtime) :
    Upheld platform (note (.revoked invalidation) runtime).1 := by
  refine ⟨⟨trivial, upheld.justified⟩, upheld.regular, ?_, ?_⟩
  · intro manager there sessionId binding found
    refine Rests.append [_] (upheld.rests manager there sessionId binding found) ?_
    intro deed listed same
    rw [List.mem_singleton.mp listed] at same
    have gone := unbound manager there invalidation (.head _)
    rw [show invalidation.sessionId = sessionId from same, found] at gone
    cases gone
  · intro input found id state among
    exact Started.append [_] (upheld.started input found id state among)

variable (platform)

theorem releases_authority :
    Releases platform (Moves (Procedure.Framing fun runtime : AgentRuntime ω σ =>
      runtime.authority)) where
  toPlumbing := (plumbing_still platform).mono (Moves.composes _ _) fun moves runtime =>
    (moves runtime).authority
  revoked _ _ := rfl
  releaseSession _ runtime := by
    unfold onInput
    cases found : runtime.input <;> rfl
  releaseAll runtime := by
    unfold onInput
    cases found : runtime.input <;> rfl
  revokes _ _ := rfl
  retires _ _ := rfl

variable {platform}

/-- **Taking authority back.** -/
theorem releaseInvalidation_upheld (invalidation : AuthorityInvalidation) (failed : Bool × Bool)
    (upheld : Upheld platform runtime) (unbound : Unbound [invalidation] runtime) :
    Upheld platform (releaseInvalidation platform invalidation failed runtime).1 := by
  have rest : Moves (Keeping (Upheld platform)) (do
      let released ← onInput none (releaseSession platform.device platform.order invalidation.sessionId)
      let inputFailed := released.any fun answer => !answer.isOk
      let mediaFailed ← revocationFailed platform invalidation.sessionId
      Procedure.when (!inputFailed && !mediaFailed) (retireReceipts fun receipt =>
          receipt.binding.sessionId == invalidation.sessionId &&
            receipt.binding.authorityGeneration == invalidation.authorityGeneration &&
            receipt.binding.consentRequestId == invalidation.consentRequestId)
      return (failed.1 || inputFailed, failed.2 || mediaFailed)) := by
    refine .bind (releases_upheld (releaseSession_releasing _ _ _)) fun released =>
      .bind (.bind .read fun seen => .ite (fun _ => ?_) fun _ => .pure _) fun _ =>
        .bind (.when fun _ => keeps_of_still (retireReceipts_still _)) fun _ => .pure _
    exact .bind (ask_upheld _) fun _ => .pure _
  exact rest _ (upheld.revoke unbound)

variable {taken : List AuthorityInvalidation}

theorem releaseAuthorityInvalidations_upheld (upheld : Upheld platform runtime)
    (unbound : Unbound taken runtime) :
    Upheld platform (releaseAuthorityInvalidations platform taken runtime).1 := by
  refine Meets.left (.bind (R := fun _ t => Upheld platform t ∧ t.authority = runtime.authority)
    (.forEach ⟨upheld, rfl⟩ fun invalidation listed failed t ⟨kept, same⟩ => ?_) fun failed t kept =>
      .of_left ?_)
  · refine (Meets.of_left (I := fun t => Upheld platform t ∧ t.authority = runtime.authority)
      ⟨releaseInvalidation_upheld _ _ kept ?_, ?_⟩).conseq (fun _ _ => id) fun _ _ => And.left
    · intro manager there other among
      rw [List.mem_singleton.mp among]
      exact unbound manager (same ▸ there) _ ((platform.invalidationOrder_perm taken).mem_iff.mp listed)
    · exact ((releases_authority platform).releaseInvalidation invalidation failed t).trans same
  · exact Moves.bind (R := Keeping (Upheld platform)) (.refuse _ _) (fun _ => .refuse _ _) t kept.1

variable {manager : ConsentManager}

theorem Upheld.keyed (upheld : Upheld platform runtime) (there : manager ∈ runtime.authority)
    (sessionId : SessionId) (binding : TrustedSessionBinding)
    (found : manager.registry.bindings.lookup sessionId = some binding) :
    binding.sessionId = sessionId := by
  obtain ⟨prompt, consented, is⟩ := upheld.rests manager there sessionId binding found
  obtain ⟨deed, -, approval⟩ := consented.source
  exact approval.session.trans is

variable {registry : ConsentAuthorityState}

theorem Upheld.narrow (upheld : Upheld platform runtime) (there : runtime.authority = some manager)
    (regular : registry.Regular manager.admitted)
    (narrowed : manager.registry.Narrowed registry taken) :
    Upheld platform { runtime with authority := some { manager with registry } } where
  justified := upheld.justified
  regular := by
    rintro _ ⟨⟩
    exact regular
  rests := by
    rintro _ ⟨⟩ sessionId binding found
    exact upheld.rests manager there sessionId binding (narrowed.bindings sessionId binding found)
  started := upheld.started

theorem takes_upheld (taken : α → List AuthorityInvalidation) {method : ConsentAuthorityState.Method α}
    (takes : ∀ manager : ConsentManager, manager ∈ runtime.authority → Meets method manager.registry
        (fun value later => later.Regular manager.admitted ∧
          manager.registry.Narrowed later (taken value)) fun _ _ => False)
    (upheld : Upheld platform runtime) :
    Meets (onManager (onRegistry method) : Method ω σ α) runtime
      (fun value t => Upheld platform t ∧ Unbound (taken value) t) fun _ t => Upheld platform t := by
  cases found : runtime.authority with
  | none =>
    simp [Meets, onManager_unattended _ found, upheld]
  | some manager =>
    refine (onManager_meets found (onRegistry_meets (takes manager found))).conseq ?_ ?_
    · rintro value _ ⟨_, rfl, registry, rfl, regular, narrowed⟩
      refine ⟨upheld.narrow found regular narrowed, ?_⟩
      rintro _ ⟨⟩
      exact narrowed.taken
    · rintro _ _ ⟨_, _, -, -, _, -, failed⟩
      exact failed.elim

theorem takeBindings_upheld (condition : TrustedSessionBinding → Bool)
    (upheld : Upheld platform runtime) :
    Meets (onManager (onRegistry (ConsentAuthorityState.takeBindings condition)) :
      Method ω σ _) runtime (fun taken t => Upheld platform t ∧ Unbound taken t)
      fun _ t => Upheld platform t :=
  takes_upheld id (fun _ there =>
    ConsentAuthorityState.takeBindings_meets (upheld.keyed there) (upheld.regular _ there) condition)
    upheld

theorem reconcileDueAuthority_upheld :
    Moves (Keeping (Upheld platform)) (reconcileDueAuthority platform) := by
  intro runtime upheld
  refine Meets.left (.bind (R := fun _ s => Upheld platform s)
    (.of_left (ask_upheld platform.nowMs runtime upheld)) fun nowMs s first => ?_)
  refine .bind (R := fun taken t => Upheld platform t ∧ Unbound taken t) (.reads ?_)
    fun taken t second => .bind (R := fun _ u => Upheld platform u)
      (.of_left (releaseAuthorityInvalidations_upheld second.1 second.2)) fun _ _ third => .pure third
  refine .ite (fun _ => ?_) fun _ => .pure ⟨first, fun _ _ _ listed => absurd listed List.not_mem_nil⟩
  exact .bind (R := fun _ u => Upheld platform u)
    (.of_left (plumbing_upheld.readInstant s first)) fun now u kept => takeBindings_upheld _ kept

theorem releaseInput_upheld : Moves (Keeping (Upheld platform)) (releaseInput platform) := by
  refine .bind (releases_upheld (releaseAll_releasing _ _)) fun released => ?_
  rcases released with _ | _ | _
  · exact keeps_of_still (retireReceipts_still _)
  · exact .fail _
  · exact keeps_of_still (retireReceipts_still _)

theorem sendAnswers_upheld (answers : List Answer) :
    Moves (Keeping (Upheld platform)) (sendAnswers platform answers) := by
  induction answers with
  | nil => exact .pure _
  | cons answer rest ih =>
    exact .bind (keeps_of_still (enqueue_still platform _ _)) fun _ => ih

theorem reconcileDesktopAuthority_upheld (desktop : TrustedDesktopState) :
    Moves (Keeping (Upheld platform)) (reconcileDesktopAuthority platform desktop) := by
  intro runtime upheld
  refine Meets.left (.reads (.bind (R := fun withdrawn t => Upheld platform t ∧ Unbound withdrawn.2 t)
    (.reads (.ite (fun _ => ?_) fun _ => .pure ⟨upheld, fun _ _ _ listed => absurd listed
      List.not_mem_nil⟩)) fun withdrawn t taken => ?_))
  · have before : Moves (Keeping (Upheld platform)) (do
        let nowMs ← readClock platform
        let now ← readInstant platform
        onManager (invalidateDesktopPrompts now desktop nowMs) : Method ω σ _) :=
      .bind (ask_upheld _) fun nowMs => .bind plumbing_upheld.readInstant fun now =>
        onManager_upheld (dismissals_neutral.invalidateDesktopPrompts _ _ _)
    refine .bind (R := fun _ s => Upheld platform s) (.of_left (ask_upheld _ runtime upheld))
      fun nowMs s first => .bind (R := fun _ s => Upheld platform s)
        (.of_left (plumbing_upheld.readInstant s first)) fun now t second =>
          .bind (R := fun _ s => Upheld platform s) (.of_left (onManager_upheld
            (dismissals_neutral.invalidateDesktopPrompts _ _ _) t second))
            fun results u third => .bind (takeBindings_upheld _ third) fun taken v last => .pure last
  · exact .bind (R := fun _ u => Upheld platform u)
      (.of_left (releaseAuthorityInvalidations_upheld taken.1 taken.2)) fun _ u kept =>
        .of_left (Moves.bind (R := Keeping (Upheld platform)) (.when fun _ => releaseInput_upheld)
          (fun _ => sendAnswers_upheld _) u kept)

theorem shutdownConsent_upheld : Moves (Keeping (Upheld platform)) (shutdownConsent platform) :=
  .bind (ask_upheld _) fun _ => .bind .read fun _ => .when fun _ =>
    onManager_upheld (dismissals_neutral.shutdown _)

theorem terminalCleanup_upheld : Moves (Keeping (Upheld platform)) (terminalCleanup platform) := by
  intro runtime upheld
  refine Meets.left (.reads (.ite (fun _ => .pure upheld) fun _ => ?_))
  refine .bind (R := fun _ t => Upheld platform t) (.reads (.bind (R := fun taken t =>
    Upheld platform t ∧ Unbound taken t) (.ite (fun _ => takeBindings_upheld _ upheld) fun _ =>
      .pure ⟨upheld, fun _ _ _ listed => absurd listed List.not_mem_nil⟩) fun taken t kept => ?_))
    fun _ t kept => .change (kept.frame ⟨rfl, rfl, rfl⟩)
  -- the bindings are gone when the first step starts, and the other steps need nothing
  have first := releaseAuthorityInvalidations_upheld kept.1 kept.2
  exact .of_left (I := Upheld platform) (shutdownConsent_upheld _ (releaseInput_upheld _ first))

/-! ### Giving authority -/

theorem activates_upheld (results : List Answer → List Answer) :
    Moves (Keeping (Upheld platform)) (do
      let context ← trustedConsentContext platform
      let instants ← ask platform.instants
      let answers ← onManager (activate instants context)
      sendAnswers platform (results answers)) :=
  .bind plumbing_upheld.trustedConsentContext fun _ => .bind (ask_upheld _) fun _ =>
    .bind (onManager_upheld (dismissals_neutral.activate
      shows_neutral _ _)) fun _ => sendAnswers_upheld _

theorem activateAdmitted_upheld : Moves (Keeping (Upheld platform)) (activateAdmitted platform) := by
  refine .bind .read fun seen => ?_
  split
  · exact .bind releaseInput_upheld fun _ => activates_upheld id
  · exact .pure _

/-- A new authority, before it is written down: every other authority rests on a consent. -/
structure Fresh (platform : Platform ω σ) (completion : BackendCompletion)
    (change : FreshAuthorityChange) (runtime : AgentRuntime ω σ) : Prop where
  justified : Journal.Justified (Deed.Warranted platform) runtime.log
  granted : ∃ before after prompt binding, runtime.authority = some after ∧
    ConsentManager.Granted before completion change prompt binding after ∧
    ∀ sessionId binding, before.registry.bindings.lookup sessionId = some binding →
      Rests runtime.log sessionId binding
  started : ∀ input ∈ runtime.input, ∀ id state, input.resources.lookup id = some state →
    Started runtime.log state.resource

/-- **The approval is written down.** -/
theorem Fresh.approved {completion : BackendCompletion} {change : FreshAuthorityChange}
    (fresh : Fresh platform completion change runtime) :
    Upheld platform (note (.approved completion change) runtime).1 := by
  obtain ⟨before, after, prompt, binding, there, granted, rests⟩ := fresh.granted
  refine ⟨⟨trivial, fresh.justified⟩, ?_, ?_, ?_⟩
  · intro manager found
    rw [show runtime.authority = some manager from found] at there
    cases there
    exact granted.regular
  · intro manager found sessionId other among
    rw [show runtime.authority = some manager from found] at there
    cases there
    rw [granted.bindings, Table.lookup_insert_alist] at among
    split at among
    next same =>
      cases among
      have bound : after.registry.bindings.lookup prompt.request.sessionId = some binding := by
        simp [granted.bindings]
      refine ⟨prompt, Journal.Lasts.given ⟨⟨completion, change, rfl, granted.attempt, granted.approved,
        granted.change⟩, ⟨after, found, granted.admitted, bound⟩, granted.within, granted.session,
        granted.peer, granted.policyRevision, granted.expires⟩, same.symm⟩
    next differs =>
      refine Rests.append [_] (rests sessionId other among) fun deed listed is => differs ?_
      rw [List.mem_singleton.mp listed] at is
      rw [← show change.sessionId = sessionId from is, granted.change]
  · intro input found id state among
    exact Started.append [_] (fresh.started input found id state among)

theorem completes_upheld (instants : Nat → Nat) (completion : BackendCompletion)
    (context : TrustedConsentContext) (upheld : Upheld platform runtime) :
    Meets (onManager (complete instants completion context) : Method ω σ _) runtime
      (fun completed t => match completed.freshAuthorityChange with
        | none => Upheld platform t
        | some change => Fresh platform completion change t)
      fun _ t => Upheld platform t := by
  cases found : runtime.authority with
  | none =>
    simp [Meets, onManager_unattended _ found, upheld]
  | some manager =>
    have undecided : ∀ later, ConsentManager.Undecided manager later →
        Upheld platform { runtime with authority := some later } := by
      refine fun later kept => ⟨upheld.justified, ?_, ?_, upheld.started⟩
      · rintro _ ⟨⟩
        exact kept.regular
      · rintro _ ⟨⟩ sessionId binding among
        exact upheld.rests manager found sessionId binding (kept.bindings ▸ among)
    refine (onManager_meets found (complete_grants (upheld.regular manager found)
      instants completion context)).conseq ?_ ?_
    · rintro completed _ ⟨later, rfl, decided⟩
      cases changed : completed.freshAuthorityChange with
      | none =>
        rw [changed] at decided
        exact undecided later decided
      | some change =>
        rw [changed] at decided
        obtain ⟨prompt, binding, granted⟩ := decided
        exact ⟨upheld.justified, ⟨manager, later, prompt, binding, rfl, granted,
          upheld.rests manager found⟩, upheld.started⟩
    · rintro _ _ ⟨_, later, -, rfl, kept⟩
      exact undecided later kept

theorem settleFreshAuthority_upheld (change : FreshAuthorityChange) (released : List SessionId) :
    Moves (Keeping (Upheld platform)) (settleFreshAuthority platform change released) := by
  refine .bind (.ite (fun _ => .bind (releases_upheld
    (releaseSession_releasing _ _ _)) fun _ => .pure _) fun _ => .pure _)
      fun failed => .bind (.when fun _ => .bind ?_ fun _ => .fail _) fun _ =>
        keeps_of_still (retireReceipts_still _)
  intro runtime upheld
  exact (takes_upheld (fun _ => []) (fun manager there =>
    ConsentAuthorityState.invalidateFreshAuthority_meets (upheld.regular manager there) change)
    upheld).conseq (fun _ _ => And.left) (fun _ _ => id) |>.left

/-- **A completion upholds what holds.** -/
theorem handleConsentCompletion_upheld (completion : BackendCompletion) (released : List SessionId) :
    Moves (Keeping (Upheld platform)) (handleConsentCompletion platform completion released) := by
  intro runtime upheld
  refine Meets.left (.bind (R := fun _ t => Upheld platform t)
    (.of_left (plumbing_upheld.trustedConsentContext runtime upheld)) fun context s first =>
      .bind (R := fun _ t => Upheld platform t) (.of_left (ask_upheld _ s first)) fun instants t second =>
        .bind (completes_upheld instants completion context second) fun completed u third => ?_)
  cases changed : completed.freshAuthorityChange with
  | none =>
    rw [changed] at third
    exact .of_left (sendAnswers_upheld _ u third)
  | some change =>
    rw [changed] at third
    exact .bind (R := fun _ v => Upheld platform v) (.of_left (I := Upheld platform) third.approved)
      fun _ v kept => .bind (R := fun _ w => Upheld platform w)
        (.of_left (settleFreshAuthority_upheld change released v kept)) fun _ w still =>
          .of_left (activates_upheld (completed.results ++ ·) w still)

/-! ### Privileged deeds -/

theorem resolve_some {nowMs now : Nat}
    (resolved : registry.resolve sessionId nowMs now = some binding) :
    registry.bindings.lookup sessionId = some binding ∧ nowMs < binding.authorizationExpiresAtMs := by
  obtain ⟨found, inTime⟩ := Option.filter_eq_some_iff.mp resolved
  simp only [Bool.and_eq_true, decide_eq_true_eq] at inTime
  exact ⟨found, inTime.1⟩

variable {desktop : TrustedDesktopState}

/-- **The binding in force is a warrant**, on its desktop and in its time. -/
theorem Upheld.warrant {nowMs : Nat} (upheld : Upheld platform runtime)
    (there : manager ∈ runtime.authority)
    (found : manager.registry.bindings.lookup sessionId = some binding)
    (inTime : nowMs < binding.authorizationExpiresAtMs)
    (fits : bindingMatchesRuntime platform binding desktop) (covers : needed ⊆ binding.approvedScopes) :
    ∃ prompt, Warrant platform runtime.log runtime.toAgentState { nowMs, desktop } sessionId needed
        prompt binding ∧
      binding.peer = prompt.request.peer ∧ binding.policyRevision = prompt.request.policyRevision := by
  simp only [bindingMatchesRuntime, bindingMatchesRegistration, Bool.and_eq_true, beq_iff_eq] at fits
  obtain ⟨⟨⟨⟨⟨id, epoch⟩, -⟩, desktopEpoch⟩, kind⟩, isDefault⟩ := fits
  obtain ⟨prompt, consented, is⟩ := upheld.rests manager there sessionId binding found
  obtain ⟨deed, -, approval⟩ := consented.source
  exact ⟨prompt, {
    consented := consented
    session := is
    inForce := ⟨manager, there, found⟩
    fresh := approval.expires ▸ inTime
    registrationId := id
    registrationEpoch := epoch
    desktopEpoch := desktopEpoch
    desktopKind := kind.symm.trans isDefault
    needed := covers }, approval.peer, approval.policyRevision⟩

variable {authorization : Authorization}

/-- **A start that is authorized may be called.** -/
theorem Upheld.authorized {execute : ExecuteCommand} {moment : Moment}
    (upheld : Upheld platform runtime)
    (authorized : Authorized platform runtime execute moment authorization)
    (starts : ¬ authorization.command.command.isCleanup) :
    CallWarranted platform runtime.log runtime.toAgentState authorization := by
  obtain ⟨is, inside, scopes, issuer, verified, digest, -⟩ :=
    validateExecuteCommand_ok authorized.valid
  rw [authorized.command] at starts
  obtain ⟨-, fits, manager, there, now, resolved⟩ := authorized.start starts
  obtain ⟨found, inTime⟩ := resolve_some resolved
  obtain ⟨prompt, warrant, peer, policy⟩ :=
    upheld.warrant there found inTime fits (scopes.trans inside.scopes)
  refine ⟨prompt, authorization.binding, ?_, ?_, ?_⟩
  · simp [authorized.taken, is, warrant]
  · rw [is]
    exact ⟨warrant.session.symm, inside.peer.trans peer, inside.policyRevision.trans policy⟩
  · rw [is]
    exact ⟨execute.grant, verified, rfl, issuer, digest⟩

theorem Upheld.call (upheld : Upheld platform runtime)
    (allowed : ¬ authorization.command.command.isCleanup → CallWarranted platform runtime.log
      runtime.toAgentState authorization) :
    Upheld platform (note (.called authorization) runtime).1 := by
  refine upheld.write [⟨.called authorization, runtime.toAgentState⟩] ?_ ?_
  · intro deed listed sessionId
    rw [List.mem_singleton.mp listed]
    exact id
  · intro deed listed between among
    rw [List.mem_singleton.mp listed]
    intro starts
    obtain ⟨prompt, binding, warrant, names, signed⟩ := allowed starts
    refine ⟨prompt, binding, warrant_append between warrant (fun other here sessionId => ?_) rfl, names, signed⟩
    rw [List.mem_singleton.mp (among other here)]
    exact id

theorem starts_upheld {deed : Deed ω σ} (upheld : Upheld platform runtime)
    (listed : deed ∈ runtime.log) (is : deed.act = .called authorization) :
    Upheld platform (onInput none (start platform.device authorization.command) runtime).1 := by
  unfold onInput
  cases found : runtime.input with
  | none => exact upheld
  | some input =>
    rcases start_cases platform.device authorization.command
      { input with injector := { input.injector with sent := [] } } with
      ⟨rejection, refused⟩ | ⟨resource, opens, -, opened⟩
    · simp only [refused]
      refine ⟨upheld.justified, upheld.regular, upheld.rests, ?_⟩
      rintro _ ⟨⟩
      exact upheld.started input found
    · simp only [opened]
      refine ⟨upheld.justified, upheld.regular, upheld.rests, ?_⟩
      rintro _ ⟨⟩ id state there
      rw [Table.lookup_insert_alist] at there
      split at there
      · cases there
        exact ⟨deed, listed, authorization, is, opens⟩
      · exact upheld.started input found id state there

theorem dispatch_upheld (capabilities : Finset AgentCapability) (upheld : Upheld platform runtime)
    (allowed : ¬ authorization.command.command.isCleanup → CallWarranted platform runtime.log
      runtime.toAgentState authorization) :
    Upheld platform (dispatch platform capabilities authorization runtime).1 := by
  have generic : Upheld platform (executeGeneric platform capabilities authorization runtime).1 := by
    refine Meets.left (.reads (.ite (fun _ => ?_) fun _ => .pure upheld))
    exact .bind (R := fun _ t => Upheld platform t) (.of_left (I := Upheld platform) (upheld.call allowed))
      fun _ t kept => .of_left (ask_upheld _ t kept)
  unfold dispatch
  cases command : authorization.command.command with
  | startInput id scopes =>
    refine Meets.left (.bind (R := fun _ t => Upheld platform t) (.reads ?_) fun answer t kept => ?_)
    · by_cases present : runtime.input.isSome
      · refine .bind (R := fun _ t => t = (note (.called authorization) runtime).1)
          (.when (fun _ => rfl) fun missing => absurd present missing) fun _ t noted => ?_
        subst noted
        exact .of_left (starts_upheld (upheld.call allowed) (.head _) rfl)
      · refine .bind (R := fun _ t => t = runtime) (.when (fun there => absurd there present) fun _ => rfl)
          fun _ t same => ?_
        subst same
        refine .of_left (I := Upheld platform) ?_
        unfold onInput
        rw [Option.not_isSome_iff_eq_none.mp present]
        exact upheld
    · split
      · exact .pure kept
      · exact .pure kept
  | stopInput id =>
    refine Meets.left (.bind (R := fun _ t => Upheld platform t) (.reads ?_) fun answer t kept => ?_)
    · exact .bind (R := fun _ t => Upheld platform t) (.when (fun _ => .of_left (I := Upheld platform)
        (upheld.call allowed)) fun _ => upheld) fun _ t kept =>
          .of_left (releases_upheld (fun _ => stop_releasing _ _ id) t kept)
    · cases answer with
      | none => exact .pure kept
      | some outcome => exact .pure kept
  | _ => exact generic

theorem callWarranted_still
    (warranted : CallWarranted platform runtime.log runtime.toAgentState authorization)
    (still : Still runtime later) :
    CallWarranted platform later.log later.toAgentState authorization := by
  obtain ⟨prompt, binding, warrant, names, signed⟩ := warranted
  refine ⟨prompt, binding, ?_, names, signed⟩
  rw [still.log]
  exact warrant_append [] warrant (fun _ listed => absurd listed List.not_mem_nil) still.authority

theorem executeOnce_upheld (blocked : Bool) (upheld : Upheld platform runtime)
    (allowed : ¬ authorization.command.command.isCleanup → CallWarranted platform runtime.log
      runtime.toAgentState authorization) :
    Upheld platform (executeOnce platform authorization blocked runtime).1 := by
  have performs : ∀ s : AgentRuntime ω σ, Still runtime s →
      Upheld platform (perform platform authorization blocked s).1 := by
    intro s still
    refine Meets.left (.ite (fun _ => .pure (upheld.frame still)) fun _ => ?_)
    refine .bind (((plumbing_still platform).genericExecutorCapabilities.meets s).conseq
      (fun _ _ more => trans_of Still still more) fun _ _ more => upheld.frame (trans_of Still still more))
      fun capabilities t later => .reads (.ite (fun _ => .pure (upheld.frame later)) fun _ => ?_)
    exact .of_left (dispatch_upheld capabilities (upheld.frame later) fun starts =>
      callWarranted_still (allowed starts) later)
  refine Meets.left (.reads (.changes ?_))
  have reserved : ∀ replay, Still runtime { runtime with replay } := fun _ => ⟨rfl, rfl, rfl⟩
  split
  · exact .fail (upheld.frame (reserved _))
  · exact .pure (upheld.frame (reserved _))
  · exact .bind (R := fun _ t => Upheld platform t) (.of_left (performs _ (reserved _))) fun outcome t kept =>
      .changes (.changes (.pure ((kept.frame (recordOutcome_still t _ _ _)).frame ⟨rfl, rfl, rfl⟩)))

/-- **An execute message upholds what holds.** -/
theorem executeOutcome_upheld (execute : ExecuteCommand) (nowMs : Nat) :
    Moves (Keeping (Upheld platform)) (executeOutcome platform execute nowMs) := by
  refine fun runtime upheld => Meets.left (.reads (.ite (fun _ => ?_) fun _ => .pure upheld))
  refine .bind (R := fun _ t => Upheld platform t)
    (.of_left (plumbing_upheld.resolveDesktopState runtime upheld)) fun desktop s first =>
      .bind (R := fun _ t => Upheld platform t)
        (.of_left (reconcileDesktopAuthority_upheld desktop s first)) fun _ t second =>
          .bind (R := fun _ t => Upheld platform t) (.of_left (plumbing_upheld.readInstant t second))
            fun now u third => .changes (.reads ?_)
  have pruned : Upheld platform (pruneCleanupReceipts now u).1 := third.frame ⟨rfl, rfl, rfl⟩
  refine .bind ((authorize_meets execute { nowMs, desktop } (pruneCleanupReceipts now u).1).conseq
    (fun _ _ => id) fun _ y elsewhere => pruned.frame elsewhere.still) fun found y ⟨elsewhere, rests⟩ => ?_
  cases found with
  | none => exact .pure (pruned.frame elsewhere.still)
  | some authorization =>
    exact .of_left (executeOnce_upheld _ (pruned.frame elsewhere.still) fun starts =>
      callWarranted_still (pruned.authorized (rests authorization rfl) starts) elsewhere.still)

theorem authorizeInputResource_some {command : AuthorizedCommand}
    (opens : authorizeInputResource command = some resource) :
    command.command = .startInput resource.resourceId resource.inputScopes ∧
      command.grant.claims.grantId = resource.startGrantId ∧ resource.grant = command.grant := by
  unfold authorizeInputResource at opens
  split at opens
  next id scopes is =>
    cases opens
    exact ⟨is, rfl, rfl⟩
  · cases opens

/-- **An event that passes may reach the device.** -/
theorem Upheld.admitted {input : InputResourceManager σ} {state : InputResourceState}
    {envelope : InputEventEnvelope} {scope : PermissionScope} (moment : Moment)
    (upheld : Upheld platform runtime) (present : input ∈ runtime.input)
    (found : input.resources.lookup envelope.resourceId = some state)
    (admissible : Admissible envelope state.resource (executionContext binding moment.desktop moment.nowMs))
    (needs : envelope.event.requiredScope = some scope) (peer : binding.peer = prompt.request.peer)
    (session : binding.sessionId = prompt.request.sessionId)
    (policy : binding.policyRevision = prompt.request.policyRevision) :
    StartedFor platform runtime.log envelope prompt.request scope := by
  obtain ⟨named, -, -, -, revision, -⟩ := admissible.needs scope needs
  obtain ⟨deed, listed, authorization, is, opens⟩ := upheld.started input present _ state found
  obtain ⟨command, grant, same⟩ := authorizeInputResource_some opens
  obtain ⟨earlier, warranted⟩ := upheld.justified.of_mem listed
  unfold Deed.Warranted at warranted
  rw [is] at warranted
  obtain ⟨_, other, -, -, signed⟩ := warranted (by rw [command]; exact Bool.false_ne_true)
  refine ⟨deed, listed, authorization, state.resource.inputScopes, is, ?_, ?_, ⟨?_, ?_, ?_⟩, named,
    other, signed⟩
  · rw [command, admissible.resourceId]
  · rw [grant, admissible.startGrantId]
  · rw [← same, ← admissible.contextSession]
    exact session
  · rw [← same, ← admissible.peer]
    exact peer
  · rw [← same, ← revision]
    exact policy

theorem injectEvent_upheld (upheld : Upheld platform runtime) (there : manager ∈ runtime.authority)
    (found : manager.registry.bindings.lookup envelope.sessionId = some binding)
    (fits : bindingMatchesRuntime platform binding desktop) :
    Upheld platform (injectEvent platform envelope binding desktop runtime).1 := by
  refine Meets.left (.bind (R := fun _ t => Elsewhere runtime t) ((ask_elsewhere _).meets runtime |>.conseq
    (fun _ _ => id) fun _ _ elsewhere => upheld.frame elsewhere.still) fun nowMs t elsewhere => ?_)
  have kept := upheld.frame elsewhere.still
  have same : manager ∈ t.authority := elsewhere.still.authority ▸ there
  refine .bind (R := fun _ u => Upheld platform u) (.of_left ?_) fun answer u last => ?_
  · refine kept.hands (fun event => ∃ input ∈ t.input, ∃ state commitment payload,
      input.resources.lookup envelope.resourceId = some state ∧ screen
        platform.digests state envelope (executionContext binding desktop nowMs) =
          .ok (commitment, payload) ∧ Follows payload event)
      (fun input present => (handle_handling platform.device platform.order
        platform.digests envelope _ _).mono fun event ⟨state, rest⟩ => ⟨input, present, state, rest⟩) ?_
    rintro event ⟨input, present, state, commitment, payload, among, screened, follows⟩ privileged
      between harmless
    obtain ⟨-, -, valid, -⟩ := screen_ok screened
    obtain ⟨rfl, admissible⟩ := validateInputEvent_ok valid
    have needs := follows.resolve_left privileged
    obtain ⟨-, approved, inTime, -⟩ := admissible.needs _ needs
    obtain ⟨prompt, warrant, peer, policy⟩ := kept.warrant same found inTime fits
      (Finset.singleton_subset_iff.mpr approved)
    refine ⟨envelope, { nowMs, desktop }, prompt, binding, rfl, warrant_append between warrant harmless rfl, ?_⟩
    have session : binding.sessionId = prompt.request.sessionId :=
      (kept.keyed same _ _ found).trans warrant.session.symm
    obtain ⟨deed, listed, started⟩ := kept.admitted { nowMs, desktop } present among
      admissible needs peer session policy
    exact ⟨deed, List.mem_append_right _ listed, started⟩
  · cases answer with
    | none => exact .fail last
    | some outcome =>
      refine .ite (fun _ => .bind (R := fun _ v => Upheld platform v) (.of_left (releases_upheld
        (releaseAll_releasing _ _) u last)) fun released v ended => ?_) fun _ =>
          .pure last
      split
      · exact .fail ended
      · exact .pure ended

/-- **An input event upholds what holds.** -/
theorem inputOutcome_upheld (nowMs : Nat) :
    Moves (Keeping (Upheld platform)) (inputOutcome platform envelope nowMs) := by
  refine fun runtime upheld => Meets.left (.reads (.ite (fun _ => ?_) fun _ => .pure upheld))
  refine .bind (R := fun _ t => Upheld platform t)
    (.of_left (plumbing_upheld.resolveDesktopState runtime upheld)) fun desktop s first =>
      .bind (R := fun _ t => Upheld platform t)
        (.of_left (reconcileDesktopAuthority_upheld desktop s first)) fun _ t second => .reads ?_
  refine .ite (fun _ => .pure second) fun _ => .bind ((resolveBinding_meets envelope.sessionId nowMs
    t).conseq (fun _ _ => id) fun _ u elsewhere => second.frame elsewhere.still) ?_
  rintro found u ⟨elsewhere, manager, there, now, resolved⟩
  have kept := second.frame elsewhere.still
  cases found with
  | none => exact .pure kept
  | some binding =>
    refine .ite (fun fits => .of_left ?_) fun _ => .pure kept
    exact injectEvent_upheld envelope kept (elsewhere.still.authority ▸ there) (resolve_some resolved).1
      fits

/-- **A captured frame upholds what holds.** -/
theorem sendCaptured_upheld (desktop : TrustedDesktopState) (unit : EncodedMediaAccessUnit) :
    Moves (Keeping (Upheld platform)) (sendCaptured platform desktop unit) := by
  refine fun runtime upheld => Meets.left (.bind (R := fun _ t => Upheld platform t)
    (.of_left (ask_upheld _ runtime upheld)) fun nowMs s first => .bind ((resolveBinding_meets
      unit.sessionId nowMs s).conseq (fun _ _ => id) fun _ u elsewhere => first.frame elsewhere.still) ?_)
  rintro found t ⟨elsewhere, manager, there, now, resolved⟩
  have second := first.frame elsewhere.still
  refine .bind (R := fun _ u => u = t ∧ ∃ binding, found = some binding ∧
    bindingMatchesRuntime platform binding desktop ∧ .screenView ∈ binding.approvedScopes)
    (.refuse (fun _ => second) fun passed => ⟨rfl, ?_⟩) fun _ u ⟨same, binding, is, fits, views⟩ => ?_
  · cases found with
    | none => exact absurd rfl passed
    | some binding => exact ⟨binding, rfl, by simpa using passed⟩
  subst same is
  refine .bind (((plumbing_still platform).nextEventContext desktop).meets u |>.conseq
    (fun _ _ => id) fun _ _ still => second.frame still) fun context v still => ?_
  have third := second.frame still
  split
  · exact .fail third
  next message into =>
    have unit_is : message.unit = unit := by
      unfold intoIpc at into
      simp only at into
      split at into
      · cases into
        rfl
      · cases into
    obtain ⟨bound, inTime⟩ := resolve_some resolved
    have same : manager ∈ v.authority :=
      still.authority ▸ elsewhere.still.authority ▸ there
    obtain ⟨prompt, warrant, -⟩ := third.warrant same bound inTime fits
      (Finset.singleton_subset_iff.mpr views)
    refine .bind (R := fun _ w => Upheld platform w) (.of_left (I := Upheld platform) ?_) fun _ w last =>
      .of_left (keeps_of_still (enqueue_still platform _ _) w last)
    refine third.write [⟨.emitted message { nowMs, desktop }, v.toAgentState⟩] ?_ ?_
    · intro deed listed sessionId
      rw [List.mem_singleton.mp listed]
      exact id
    · intro deed listed between among
      rw [List.mem_singleton.mp listed]
      refine ⟨prompt, binding, ?_⟩
      rw [unit_is]
      refine warrant_append between warrant (fun other here sessionId => ?_) rfl
      rw [List.mem_singleton.mp (among other here)]
      exact id

/-! ### The runs -/

/-- **Every round upholds what holds.** -/
theorem rounds_upheld (platform : Platform ω σ) : Rounds platform (Moves (Keeping (Upheld platform))) where
  toPlumbing := plumbing_upheld
  answers _ := keeps_of_still (enqueue_still platform _ _)
  stops _ := .fail _
  reconcileDue := reconcileDueAuthority_upheld
  reconcileDesktop := reconcileDesktopAuthority_upheld
  expireDue _ _ := onManager_upheld (dismissals_neutral.expireDue _ _)
  admits _ _ _ := onManager_upheld (.attempt (admitPrompt_neutral _ _ _))
  cancels _ _ _ := onManager_upheld (dismissals_neutral.cancel _ _ _)
  activates := activateAdmitted_upheld
  executes := executeOutcome_upheld
  inputs := inputOutcome_upheld
  renders _ := ask_upheld _
  captures := ask_upheld _
  emits := sendCaptured_upheld
  ends := terminalCleanup_upheld

theorem course_upheld (platform : Platform ω σ) : Course platform (Moves (Keeping (Upheld platform))) where
  toRounds := rounds_upheld platform
  completion := (rounds_upheld platform).consents handleConsentCompletion_upheld

theorem upheld_new (world : ω) (attended : Bool) (device : Option σ) :
    Upheld platform (.new world attended device) where
  justified := trivial
  regular manager there := by
    cases attended with
    | true =>
      cases there
      exact regular_new
    | false => cases there
  rests manager there sessionId binding found := by
    cases attended with
    | true =>
      cases there
      cases found
    | false => cases there
  started input found id state there := by
    obtain ⟨inner, -, rfl⟩ := Option.map_eq_some_iff.mp found
    cases there

end AgentRuntime

/-- **Local consent bounds every privileged deed.** Along every run of the loop, whatever the clocks, the
desktop, the device, the executor and the peers do: where a backend was called for a start, an event
other than a release was handed to the device, or a captured frame was sent, the log before it has the
completion by which the local user approved a prompt of that session, for scopes that the prompt asked
for. The authority of the session did not change since, its time was not over by the clock that was
read for the deed, it is for the same peer, policy, registration and desktop, and the scopes that the
deed needs are among the approved ones; for an event they are also among those that a signed start
named. -/
theorem consent_bounds_deeds {ω σ : Type} (platform : Platform ω σ) (world : ω) (attended : Bool)
    (device : Option σ) (state : LoopState ω σ)
    (reach : Execution.Reach (LoopState.step platform) Execution.always
      (.start world attended device) state)
    (later earlier : List (Deed ω σ)) (deed : Deed ω σ)
    (logged : state.runtime.log = later ++ deed :: earlier) : deed.Warranted platform earlier := by
  have upheld := (AgentRuntime.course_upheld platform).run
    (AgentRuntime.upheld_new world attended device) reach
  exact (logged ▸ upheld.justified).split

/-- The deed behind an event that was handed to the device. -/
theorem handedEvents_split {event : Input.InputEvent} (listed : event ∈ handedEvents log) :
    ∃ later deed earlier cause, log = later ++ deed :: earlier ∧ deed.act = .handed event cause := by
  obtain ⟨deed, among, is⟩ := List.mem_filterMap.mp listed
  obtain ⟨later, earlier, split⟩ := List.append_of_mem among
  cases act : deed.act with
  | handed other cause =>
    rw [act] at is
    cases is
    exact ⟨later, deed, earlier, cause, split, act⟩
  | called | emitted | approved | revoked =>
    simp [act] at is

theorem consent_bounds_pressed_key : ∃ (log : List (Deed Nat Unit)) (state : AgentState Nat Unit)
    (moment : Moment) (sessionId : SessionId) (prompt : PendingConsentPrompt)
    (binding : TrustedSessionBinding),
    Warrant (.sample 5 5) log state moment sessionId {.inputKeyboard} prompt binding := by
  obtain ⟨state, ran, seen⟩ := Option.map_eq_some_iff.mp keyThenPrompt_runs
  have listed : .key (.virtualKey 65) true ∈ handedEvents state.runtime.log := by
    rw [(Prod.mk.inj seen).2]
    exact .tail _ (List.mem_singleton_self _)
  obtain ⟨later, deed, earlier, cause, logged, is⟩ := handedEvents_split listed
  have warranted := consent_bounds_deeds (.sample 5 5) 0 true (some ()) state
    (Execution.run_reach ran) later earlier deed logged
  unfold Deed.Warranted at warranted
  rw [is] at warranted
  obtain ⟨envelope, moment, prompt, binding, -, warrant, -⟩ := warranted Bool.false_ne_true
  exact ⟨earlier, deed.state, moment, envelope.sessionId, prompt, binding, warrant⟩

end MiniRemoteDesktop.Agent
