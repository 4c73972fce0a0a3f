/-
**No remote input while a consent prompt is on screen.**

* The steps that put a prompt on screen find the backend idle: the first prompt because the input was
  released for it, a later one because the one before it was still there.
* `prompts_exclude_input` — **a prompt on screen and input exclude each other** in every run.
-/

import MiniRemoteDesktop.Agent.Held
import MiniRemoteDesktop.Agent.Authority

namespace MiniRemoteDesktop.Agent

open Procedure (Moves Meets Keeping)
open InputResourceManager
open ConsentManager

/-! ### The manager -/

namespace ConsentManager

/-- **No prompt appears.** -/
def Settling (before after : ConsentManager) : Prop :=
  after.hasActivePrompt → before.hasActivePrompt

instance : IsPreorder ConsentManager Settling where
  refl _ := id
  trans _ _ _ first second := first ∘ second

theorem settling_of_active {before after : ConsentManager} (same : after.active = before.active) :
    Settling before after := by
  intro active
  rw [hasActivePrompt, ← same]
  exact active

theorem onRegistry_settling {α : Type} (method : ConsentAuthorityState.Method α) :
    Moves Settling (onRegistry method) :=
  fun _ => settling_of_active rfl

theorem dismissals_settling : Dismissals Settling where
  expires _ _ := onRegistry_settling _
  withdraws _ _ := onRegistry_settling _
  closes reason manager active := by
    have closed : (manager.active.map fun active =>
        { active with phase := .closing, abort := some reason }).isSome := active
    rw [Option.isSome_map] at closed
    exact closed
  queues _ _ := settling_of_active rfl
  clears _ := nofun

theorem admitPrompt_settling (request : ConsentRequest) (context : TrustedConsentContext)
    (now : Nat) : Moves Settling (admitPrompt request context now) := by
  refine .bind (onRegistry_settling _) fun outcome => ?_
  cases outcome with
  | cached result => exact .pure _
  | prompt pending => exact .bind (fun _ => settling_of_active rfl) fun _ => .pure _

variable (instants : Nat → Nat) (completion : BackendCompletion) (context : TrustedConsentContext)

/-- A completion puts a prompt on screen only where there was one. -/
theorem complete_settling : Moves Settling (complete instants completion context) := by
  intro manager active
  cases shown : manager.active with
  | some prompt => simp only [hasActivePrompt, shown, Option.isSome_some]
  | none =>
    have left : (complete instants completion context manager).1 = manager := by
      simp only [complete, bind, Procedure.andThen, Procedure.read, shown]
      rfl
    simpa [left] using active

/-- A fresh authority comes from a prompt that was on screen. -/
theorem complete_fresh (manager : ConsentManager) :
    Meets (complete instants completion context) manager
      (fun completed _ => completed.freshAuthorityChange.isSome → manager.hasActivePrompt)
      fun _ _ => True := by
  cases shown : manager.active with
  | some prompt =>
    unfold Meets
    split
    · intro _
      simp [hasActivePrompt, shown]
    · trivial
  | none =>
    refine .bind (R := fun seen _ => seen = manager) (.read rfl) fun seen _ same => ?_
    rw [same, shown]
    exact .pure nofun

end ConsentManager

/-! ### The runtime -/

namespace AgentRuntime

open InputResourceManager (Sound Releasing Idle isRelease)

variable {ω σ : Type} {α : Type}

/-- Whether something was handed to the device. -/
def isHanded : Act → Bool
  | .handed .. => true
  | .called _ | .emitted .. | .approved .. | .revoked _ => false

/-- The input backend, if there is one, holds nothing. -/
def Resting (runtime : AgentRuntime ω σ) : Prop := ∀ input ∈ runtime.input, Idle input

/-- **A prompt on screen excludes input.** -/
structure Guarded (runtime : AgentRuntime ω σ) : Prop where
  sound : ∀ input ∈ runtime.input, Sound input
  resting : runtime.promptActive → Resting runtime
  logged : ∀ deed ∈ runtime.log, ∀ event cause, deed.act = .handed event cause →
    deed.state.promptActive → isRelease event

/-- **What nearly every step does.** -/
structure Easing (before after : AgentRuntime ω σ) : Prop where
  guarded : Guarded before → Guarded after
  settling : after.promptActive → before.promptActive
  resting : Resting before → Resting after

instance : IsPreorder (AgentRuntime ω σ) Easing where
  refl _ := ⟨id, id, id⟩
  trans _ _ _ first second := ⟨second.guarded ∘ first.guarded, first.settling ∘ second.settling,
    second.resting ∘ first.resting⟩

variable {before after : AgentRuntime ω σ}

theorem Still.easing (still : Still before after) :
    Easing before after := by
  obtain ⟨authority, input, log⟩ := still
  have active : after.promptActive = before.promptActive := by
    simp [AgentState.promptActive, authority]
  have rests : Resting before → Resting after := by
    intro rest manager found
    exact rest manager (input ▸ found)
  refine ⟨fun guarded => ⟨fun manager found => guarded.sound manager (input ▸ found), ?_, ?_⟩,
    fun shown => active ▸ shown, rests⟩
  · intro shown
    exact rests (guarded.resting (active ▸ shown))
  · rw [log]
    exact guarded.logged

theorem Guarded.frame (guarded : Guarded before) (still : Still before after) : Guarded after :=
  still.easing.guarded guarded

theorem ask_easing (question : ω → α × ω) : Moves Easing (ask question : Method ω σ α) :=
  fun runtime => (ask_still question runtime).easing

theorem note_easing (act : Act) (other : isHanded act = false) :
    Moves Easing (note act : Method ω σ Unit) := by
  intro runtime
  refine ⟨fun guarded => ⟨guarded.sound, guarded.resting, ?_⟩, id, id⟩
  intro deed listed event cause is shown
  rcases List.mem_cons.mp listed with rfl | earlier
  · have handed : isHanded act := congrArg isHanded is
    simp [other] at handed
  · exact guarded.logged deed earlier event cause is shown

theorem onManager_easing {method : ConsentManager.Method α}
    (settling : Moves ConsentManager.Settling method) :
    Moves Easing (onManager method : Method ω σ α) := by
  intro runtime
  have settles : (onManager method runtime).1.promptActive → runtime.promptActive := by
    cases found : runtime.authority with
    | none =>
      simp [onManager, found]
    | some manager =>
      rw [onManager, found, AgentState.promptActive, AgentState.promptActive, found]
      exact settling manager
  have same : (onManager method runtime).1.input = runtime.input ∧
      (onManager method runtime).1.log = runtime.log := by
    unfold onManager
    split <;> exact ⟨rfl, rfl⟩
  have rests : Resting runtime → Resting (onManager method runtime).1 := by
    intro rest input found
    exact rest input (same.1 ▸ found)
  refine ⟨fun guarded => ⟨fun input found => guarded.sound input (same.1 ▸ found), ?_, ?_⟩, settles,
    rests⟩
  · intro shown
    exact rests (guarded.resting (settles shown))
  · rw [same.2]
    exact guarded.logged

/-! ### Calls of the input backend -/

variable {input : InputResourceManager σ}

theorem sound_cleared (sound : Sound input) :
    Sound { input with injector := { input.injector with sent := [] } } :=
  sound.same rfl (fun probe => by cases probe <;> rfl) fun held => by cases held <;> rfl

theorem idle_cleared (idle : Idle input) :
    Idle { input with injector := { input.injector with sent := [] } } :=
  ⟨idle.resources, idle.buttonHolders, idle.keyHolders, idle.activeButtons, idle.activeKeys⟩

variable {call : InputResourceManager σ → InputResourceManager σ × α} {runtime : AgentRuntime ω σ}

variable {cause : Option (InputEventEnvelope × Moment)}

/-- A call keeps the exclusion if it keeps the backend in step and idle, and sends releases only where
a prompt is on screen. -/
theorem onInput_guarded (sound : ∀ input, Sound input → Sound (call input).1)
    (idle : ∀ input, Idle input → Idle (call input).1)
    (releases : runtime.promptActive → ∀ input : InputResourceManager σ, input.injector.sent = [] →
      Idle input → ∀ event ∈ (call input).1.injector.sent, isRelease event) :
    Easing runtime (onInput cause call runtime).1 := by
  unfold onInput
  cases found : runtime.input with
  | none => exact refl_of Easing _
  | some input =>
    have rests : Resting runtime → Idle (call { input with
        injector := { input.injector with sent := [] } }).1 := fun rest =>
      idle _ (idle_cleared (rest input found))
    refine ⟨fun guarded => ⟨?_, ?_, ?_⟩, id, ?_⟩
    · rintro _ ⟨⟩
      exact sound _ (sound_cleared (guarded.sound input found))
    · rintro shown _ ⟨⟩
      exact rests (guarded.resting shown)
    · intro deed listed event owner is shown
      rcases List.mem_append.mp listed with new | earlier
      · obtain ⟨sent, among, rfl⟩ := List.mem_map.mp new
        cases is
        exact releases shown _ rfl (idle_cleared (guarded.resting shown input found)) _ among
      · exact guarded.logged deed earlier event owner is shown
    · rintro rest _ ⟨⟩
      exact rests rest

theorem onInput_easing (cause : Option (InputEventEnvelope × Moment))
    (sound : ∀ input, Sound input → Sound (call input).1)
    (idle : ∀ input, Idle input → Idle (call input).1)
    (releasing : ∀ input, Releasing input (call input).1) :
    Moves Easing (onInput cause call : Method ω σ _) := by
  intro runtime
  refine onInput_guarded sound idle fun _ input nothing _ event listed => ?_
  obtain ⟨events, sent, released⟩ := (releasing input).releases
  rw [sent, nothing, List.append_nil] at listed
  exact released event listed

variable (platform : Platform ω σ)

theorem releaseSession_easing (sessionId : SessionId) : Moves Easing (onInput none
    (releaseSession platform.device platform.order sessionId) :
    Method ω σ _) :=
  onInput_easing none (releaseSession_sound _ _ sessionId)
    (fun _ idle => (idle.releaseSession _ _ sessionId).symm ▸ idle)
    (releaseSession_releasing _ _ sessionId)

theorem releaseAll_easing : Moves Easing (onInput none
    (releaseAll platform.device platform.order) : Method ω σ _) :=
  onInput_easing none (releaseAll_sound _ _) (fun _ idle => idle.releaseAll _ _)
    (releaseAll_releasing _ _)

/-! ### The plumbing and the clean-ups -/

theorem plumbing_easing : Plumbing platform (Moves Easing) :=
  (plumbing_still platform).mono (Moves.composes _ Easing) fun moves s => (moves s).easing

theorem retireReceipts_easing (condition : CleanupReceipt → Bool) :
    Moves Easing (retireReceipts condition : Method ω σ Unit) :=
  fun runtime => (retireReceipts_still condition runtime).easing

theorem withdrawals_easing : Withdrawals platform (Moves Easing) where
  toPlumbing := plumbing_easing platform
  revoked _ := note_easing _ rfl
  releaseSession := releaseSession_easing platform
  releaseAll := releaseAll_easing platform
  revokes _ := ask_easing _
  retires := retireReceipts_easing
  answers _ s := (enqueue_still platform _ _ s).easing
  takesDue _ _ := onManager_easing (onRegistry_settling _)
  takesForeign _ := onManager_easing (onRegistry_settling _)
  withdraws _ _ _ := onManager_easing (dismissals_settling.invalidateDesktopPrompts _ _ _)
  drains := onManager_easing (onRegistry_settling _)
  shuts _ := onManager_easing (dismissals_settling.shutdown _)
  sweeps each := .sweep each
  completes _ := Still.easing ⟨rfl, rfl, rfl⟩

theorem settleFreshAuthority_easing (change : FreshAuthorityChange) (released : List SessionId) :
    Moves Easing (settleFreshAuthority platform change released) := by
  refine .bind ((withdrawals_easing platform).releaseFailed _ _) fun failed =>
    .bind (.when fun _ => ?_) fun _ => retireReceipts_easing _
  · exact .bind (onManager_easing (onRegistry_settling _)) fun _ => .fail _

/-! ### Putting a prompt on screen -/

/-- With an idle backend, the manager may do what it likes. -/
theorem onManager_resting (method : ConsentManager.Method α) (guarded : Guarded runtime)
    (rest : Resting runtime) :
    Guarded (onManager method runtime).1 := by
  unfold onManager
  split
  · exact guarded
  · exact ⟨guarded.sound, fun _ => rest, guarded.logged⟩

theorem releaseInput_rests (guarded : Guarded runtime) :
    Meets (releaseInput platform) runtime (fun _ t => Guarded t ∧ Resting t) fun _ t => Guarded t := by
  have kept := (releaseAll_easing platform runtime).guarded guarded
  refine .bind (R := fun answer t => Guarded t ∧ (answer = some (.ok ()) ∨ answer = none →
    Resting t)) ?_ fun answer t holds => ?_
  · unfold Meets
    unfold onInput at kept ⊢
    cases found : runtime.input with
    | none =>
      rw [found] at kept
      refine ⟨kept, fun _ input there => ?_⟩
      simp [found] at there
    | some input =>
      rw [found] at kept
      refine ⟨kept, ?_⟩
      rintro (done | done) later ⟨⟩
      · exact releaseAll_idle _ _ (sound_cleared (guarded.sound input found)) (Option.some.inj done)
      · cases done
  · have eased := retireReceipts_easing (ω := ω) (σ := σ) (fun receipt => receipt.capability == .input) t
    rcases answer with _ | _ | _
    · exact Meets.change ⟨eased.guarded holds.1, eased.resting (holds.2 (.inr rfl))⟩
    · exact Meets.fail holds.1
    · exact Meets.change ⟨eased.guarded holds.1, eased.resting (holds.2 (.inl rfl))⟩

theorem activates_guarded (results : List Answer → List Answer) (guarded : Guarded runtime)
    (rest : Resting runtime) :
    Guarded ((do
      let context ← trustedConsentContext platform
      let instants ← ask platform.instants
      let answers ← onManager (activate instants context)
      sendAnswers platform (results answers)) runtime).1 := by
  refine Meets.left (.bind (R := fun _ t => Guarded t ∧ Resting t) ?_ fun context t holds =>
    .bind (R := fun _ t => Guarded t ∧ Resting t) ?_ fun instants u still =>
      .bind (R := fun _ t => Guarded t) ?_ fun answers v kept => ?_)
  · exact (((plumbing_easing platform).trustedConsentContext).meets runtime).conseq
      (fun _ _ eased => ⟨eased.guarded guarded, eased.resting rest⟩) fun _ _ eased =>
        eased.guarded guarded
  · exact ((ask_easing _).meets t).conseq
      (fun _ _ eased => ⟨eased.guarded holds.1, eased.resting holds.2⟩) fun _ _ eased =>
        eased.guarded holds.1
  · exact .of_left (onManager_resting _ still.1 still.2)
  · exact .of_left (((withdrawals_easing platform).sendAnswers _ v).guarded kept)

theorem activateAdmitted_guarded :
    Moves (Procedure.Keeping Guarded) (activateAdmitted platform) := by
  refine fun runtime guarded => Meets.left (.bind (R := fun _ t => Guarded t) (.read guarded)
    fun seen t kept => ?_)
  split
  · exact .bind (releaseInput_rests platform kept) fun _ u holds =>
      .of_left (activates_guarded platform id holds.1 holds.2)
  · exact .pure kept

/-- A fresh authority lets the next prompt appear where there was one before. -/
theorem handleConsentCompletion_guarded (completion : BackendCompletion) (released : List SessionId) :
    Moves (Procedure.Keeping Guarded) (handleConsentCompletion platform completion released) := by
  intro runtime guarded
  refine Meets.left (.bind (R := fun _ t => Guarded t) ?_ fun context s first =>
    .bind (R := fun _ t => Guarded t) ?_ fun instants t second =>
      .bind (R := fun completed u => Guarded u ∧
        (completed.freshAuthorityChange.isSome → Resting u)) ?_ fun completed u third => ?_)
  · exact .of_left (((plumbing_easing platform).trustedConsentContext runtime).guarded guarded)
  · exact .of_left ((ask_easing _ s).guarded first)
  · have eased := onManager_easing (ω := ω) (σ := σ) (complete_settling instants completion context) t
    cases found : t.authority with
    | none =>
      simp [Meets, onManager, found, second]
    | some manager =>
      have fresh := complete_fresh instants completion context manager
      unfold Meets at fresh ⊢
      unfold onManager at eased ⊢
      rw [found] at eased ⊢
      simp only at eased ⊢
      rcases outcome : complete instants completion context manager
        with ⟨later, error | completed⟩ <;> rw [outcome] at eased fresh
      · exact eased.guarded second
      · refine ⟨eased.guarded second, fun changed => eased.resting (second.resting ?_)⟩
        simp [AgentState.promptActive, found, fresh changed]
  · rcases fresh : completed.freshAuthorityChange with _ | change
    · exact .of_left (((withdrawals_easing platform).sendAnswers _ u).guarded third.1)
    · have rest := third.2 (by rw [fresh]; rfl)
      refine .bind (R := fun _ v => Guarded v ∧ Resting v) ?_ fun _ v still =>
        .bind (R := fun _ w => Guarded w ∧ Resting w) ?_ fun _ w kept =>
          .of_left (activates_guarded platform (completed.results ++ ·) kept.1 kept.2)
      · exact ((note_easing (.approved completion change) rfl).meets u).conseq
          (fun _ _ eased => ⟨eased.guarded third.1, eased.resting rest⟩) fun _ _ eased =>
            eased.guarded third.1
      · exact ((settleFreshAuthority_easing platform change released).meets v).conseq
          (fun _ _ eased => ⟨eased.guarded still.1, eased.resting still.2⟩) fun _ _ eased =>
            eased.guarded still.1

/-! ### Input without a prompt -/

/-- With no prompt on screen, a call of the backend only has to keep it in step. -/
theorem onInput_quiet (sound : ∀ input, Sound input → Sound (call input).1)
    (guarded : Guarded runtime) (quiet : ¬ runtime.promptActive) :
    Guarded (onInput cause call runtime).1 := by
  unfold onInput
  cases found : runtime.input with
  | none => exact guarded
  | some input =>
    refine ⟨?_, fun shown => absurd shown quiet, ?_⟩
    · rintro _ ⟨⟩
      exact sound _ (sound_cleared (guarded.sound input found))
    · intro deed listed event owner is shown
      rcases List.mem_append.mp listed with new | earlier
      · obtain ⟨sent, -, rfl⟩ := List.mem_map.mp new
        exact absurd shown quiet
      · exact guarded.logged deed earlier event owner is shown

/-- A state that eased from one without a prompt has none. -/
theorem Easing.quiet (eased : Easing before after) (quiet : ¬ before.promptActive) :
    ¬ after.promptActive :=
  fun shown => quiet (eased.settling shown)

variable (envelope : InputEventEnvelope) (authorization : Authorization)

theorem callInput_easing (moves : Moves Easing (onInput none call : Method ω σ _)) :
    Moves Easing (callInput authorization call : Method ω σ _) :=
  .bind .read fun _ => .bind (.when fun _ => note_easing _ rfl) fun _ => moves

theorem dispatch_guarded (capabilities : Finset AgentCapability) (authorization : Authorization)
    (guarded : Guarded runtime)
    (quiet : authorization.command.command.isStartInput → ¬ runtime.promptActive) :
    Guarded (dispatch platform capabilities authorization runtime).1 := by
  have generic : Moves Easing (executeGeneric platform capabilities authorization) := by
    refine .bind .read fun seen => ?_
    split
    · exact .bind (note_easing _ rfl) fun _ => ask_easing _
    · exact .pure _
  unfold dispatch
  cases command : authorization.command.command with
  | startInput id scopes =>
    rw [command] at quiet
    refine Meets.left (.bind (R := fun _ t => Guarded t) (.bind (R := fun _ t => Guarded t ∧
      ¬ t.promptActive) (.read ⟨guarded, quiet rfl⟩) fun seen t holds => .bind (R := fun _ u =>
        Guarded u ∧ ¬ u.promptActive) ?_ fun _ u still => .of_left ?_) fun answer t kept => ?_)
    · have moves : Moves Easing (Procedure.when seen.input.isSome (note (.called authorization)) :
          Method ω σ Unit) := .when fun _ => note_easing _ rfl
      exact (moves.meets t).conseq
        (fun _ _ eased => ⟨eased.guarded holds.1, eased.quiet holds.2⟩) fun _ _ eased =>
          eased.guarded holds.1
    · exact onInput_quiet (start_sound _ _) still.1 still.2
    · split
      · exact .pure kept
      · exact .pure kept
  | stopInput id =>
    have moves := callInput_easing (ω := ω) authorization (onInput_easing none
      (fun _ => stop_sound platform.device platform.order id)
      (fun _ idle => (idle.stop _ _ _).symm ▸ idle)
      fun _ => stop_releasing _ _ _)
    refine ((Moves.bind moves fun answer => ?_ : Moves Easing _) runtime).guarded guarded
    cases answer with
    | none => exact .pure _
    | some outcome => exact .pure _
  | _ => exact (generic runtime).guarded guarded

/-- A command may do what it likes to the backend unless it starts input under a prompt. -/
theorem executeOnce_guarded (blocked : Bool) (guarded : Guarded runtime)
    (blocks : runtime.promptActive → authorization.command.command.isStartInput → blocked) :
    Guarded (executeOnce platform authorization blocked runtime).1 := by
  have performs : ∀ s : AgentRuntime ω σ, Easing runtime s →
      Guarded (perform platform authorization blocked s).1 := by
    intro s eased
    refine Meets.left (.ite (fun _ => .pure (eased.guarded guarded)) fun _ => ?_)
    refine .bind (R := fun _ t => Easing runtime t) ?_ fun capabilities t later =>
      .bind (R := fun _ u => Easing runtime u) (.read later) fun seen u still => ?_
    · exact ((plumbing_easing platform).genericExecutorCapabilities.meets s).conseq
        (fun _ _ later => trans_of Easing eased later) fun _ _ later => later.guarded (eased.guarded guarded)
    · refine .ite (fun _ => .pure (still.guarded guarded)) fun allowed => .of_left ?_
      refine dispatch_guarded platform capabilities authorization (still.guarded guarded) ?_
      intro starts shown
      have refused : blocked = true := blocks (still.settling shown) starts
      refine allowed ?_
      simp [refuses, refused, starts]
  refine Meets.left (.bind (R := fun seen t => runtime = seen ∧ runtime = t) (.read ⟨rfl, rfl⟩)
    fun seen t ⟨same, left⟩ => ?_)
  subst same left
  refine .bind (R := fun _ t => Easing runtime t) (.change (Still.easing ⟨rfl, rfl, rfl⟩)) fun _ t eased => ?_
  split
  · exact .fail (eased.guarded guarded)
  · exact .pure (eased.guarded guarded)
  · exact .bind (R := fun _ u => Guarded u) (.of_left (performs t eased)) fun outcome u kept =>
      .bind (R := fun _ v => Guarded v) (.change (kept.frame (recordOutcome_still u _ _ _)))
        fun _ v still => .bind (R := fun _ w => Guarded w)
          (.change (still.frame ⟨rfl, rfl, rfl⟩)) fun _ _ last => .pure last

theorem executeOutcome_guarded (execute : ExecuteCommand) (nowMs : Nat) :
    Moves (Procedure.Keeping Guarded) (executeOutcome platform execute nowMs) := by
  refine fun runtime guarded => Meets.left (.bind (R := fun _ t => Guarded t) (.read guarded)
    fun seen s first => .ite (fun _ => ?_) fun _ => .pure first)
  refine .bind (R := fun _ t => Guarded t)
    (.of_left (((plumbing_easing platform).resolveDesktopState s).guarded first)) fun desktop t second =>
      .bind (R := fun _ t => Guarded t)
        (.of_left (((withdrawals_easing platform).reconcileDesktopAuthority desktop t).guarded second))
        fun _ u third => .bind (R := fun _ t => Guarded t)
          (.of_left (((plumbing_easing platform).readInstant u).guarded third)) fun now v fourth =>
            .bind (R := fun _ t => Guarded t) (.change (fourth.frame ⟨rfl, rfl, rfl⟩))
              fun _ w fifth => .bind (R := fun seen t => seen = w ∧ t = w) (.read ⟨rfl, rfl⟩) ?_
  rintro seen x ⟨rfl, rfl⟩
  refine .bind ((authorize_meets execute { nowMs, desktop } x).conseq (fun _ _ => id)
    fun _ y elsewhere => elsewhere.still.easing.guarded fifth) fun found y ⟨elsewhere, rests⟩ => ?_
  cases found with
  | none => exact .pure (elsewhere.still.easing.guarded fifth)
  | some authorization =>
    refine .of_left (executeOnce_guarded platform authorization _ (elsewhere.still.easing.guarded fifth) ?_)
    intro shown starts
    rw [(rests authorization rfl).command] at starts
    simpa using ⟨elsewhere.still.easing.settling shown, starts⟩

theorem injectEvent_guarded (binding : TrustedSessionBinding) (desktop : TrustedDesktopState)
    (guarded : Guarded runtime) (quiet : ¬ runtime.promptActive) :
    Guarded (injectEvent platform envelope binding desktop runtime).1 := by
  refine Meets.left (.bind (R := fun _ t => Guarded t ∧ ¬ t.promptActive) ?_ fun nowMs t holds =>
    .bind (R := fun _ u => Guarded u) (.of_left ?_) fun answer u kept => ?_)
  · exact ((ask_easing _).meets runtime).conseq
      (fun _ _ eased => ⟨eased.guarded guarded, eased.quiet quiet⟩) fun _ _ eased => eased.guarded guarded
  · exact onInput_quiet (fun _ => handle_sound _ _ _ _ _) holds.1 holds.2
  · cases answer with
    | none => exact .fail kept
    | some outcome =>
      refine .ite (fun _ => .bind (R := fun _ v => Guarded v)
        (.of_left ((releaseAll_easing platform u).guarded kept)) fun released v last => ?_) fun _ =>
          .pure kept
      split
      · exact .fail last
      · exact .pure last

theorem inputOutcome_guarded (nowMs : Nat) :
    Moves (Procedure.Keeping Guarded) (inputOutcome platform envelope nowMs) := by
  refine fun runtime guarded => Meets.left (.bind (R := fun _ t => Guarded t) (.read guarded)
    fun seen s first => .ite (fun _ => ?_) fun _ => .pure first)
  refine .bind (R := fun _ t => Guarded t)
    (.of_left (((plumbing_easing platform).resolveDesktopState s).guarded first)) fun desktop t second =>
      .bind (R := fun _ t => Guarded t)
        (.of_left (((withdrawals_easing platform).reconcileDesktopAuthority desktop t).guarded second))
        fun _ u third =>
          .bind (R := fun seen v => seen = u ∧ v = u) (.read ⟨rfl, rfl⟩) ?_
  rintro seen v ⟨rfl, rfl⟩
  refine .ite (fun _ => .pure third) fun quiet => .bind ((((plumbing_easing platform).resolveBinding
    envelope.sessionId nowMs).meets v).conseq (fun _ _ => id) fun _ _ eased => eased.guarded third)
      fun found w eased => ?_
  cases found with
  | none => exact .pure (eased.guarded third)
  | some binding =>
    exact .ite (fun _ => .of_left (injectEvent_guarded platform envelope binding desktop
      (eased.guarded third) (eased.quiet quiet))) fun _ => .pure (eased.guarded third)

theorem sendCaptured_easing (desktop : TrustedDesktopState) (unit : EncodedMediaAccessUnit) :
    Moves Easing (sendCaptured platform desktop unit) := by
  refine .bind (ask_easing _) fun nowMs => .bind ((plumbing_easing platform).resolveBinding _ _)
    fun binding => .bind (.refuse _ _) fun _ =>
      .bind ((plumbing_easing platform).nextEventContext _) fun context => ?_
  split
  · exact .fail _
  · exact .bind (note_easing _ rfl) fun _ s => (enqueue_still platform _ _ s).easing

/-! ### The runs -/

/-- **Every round keeps prompts and input apart.** -/
theorem rounds_guarded : Rounds platform (Moves (Procedure.Keeping Guarded)) where
  toPlumbing := (plumbing_easing platform).mono (Moves.composes _ _) fun moves s => (moves s).guarded
  answers _ s := (enqueue_still platform _ _ s).easing.guarded
  stops _ _ := id
  reconcileDue s := ((withdrawals_easing platform).reconcileDueAuthority s).guarded
  reconcileDesktop desktop s := ((withdrawals_easing platform).reconcileDesktopAuthority desktop s).guarded
  expireDue now nowMs s := (onManager_easing (dismissals_settling.expireDue now nowMs) s).guarded
  admits request context now s :=
    (onManager_easing (.attempt (admitPrompt_settling request context now)) s).guarded
  cancels cancel now nowMs s :=
    (onManager_easing (dismissals_settling.cancel cancel now nowMs) s).guarded
  activates := activateAdmitted_guarded platform
  executes := executeOutcome_guarded platform
  inputs := inputOutcome_guarded platform
  renders _ s := (ask_easing _ s).guarded
  captures s := (ask_easing _ s).guarded
  emits desktop unit s := (sendCaptured_easing platform desktop unit s).guarded
  ends s := ((withdrawals_easing platform).terminalCleanup s).guarded

theorem course_guarded : Course platform (Moves (Procedure.Keeping Guarded)) where
  toRounds := rounds_guarded platform
  completion := (rounds_guarded platform).consents (handleConsentCompletion_guarded platform)

theorem guarded_new (world : ω) (attended : Bool) (device : Option σ) :
    Guarded (.new world attended device) where
  sound input found := by
    obtain ⟨state, -, rfl⟩ := Option.map_eq_some_iff.mp found
    exact sound_new state
  resting shown := by
    cases attended with
    | true | false => exact absurd shown Bool.false_ne_true
  logged deed listed := absurd listed List.not_mem_nil

end AgentRuntime

/-- **A prompt on screen excludes input.** Along every run of the loop, whatever the clocks, the
desktop, the device and the peers do: while the manager has a prompt on screen, waiting or closing, the
input backend has no resource and holds nothing down; and what the device was handed while a prompt was
on screen are releases. -/
theorem prompts_exclude_input {ω σ : Type} (platform : Platform ω σ) (world : ω) (attended : Bool)
    (device : Option σ) (state : LoopState ω σ)
    (reach : Execution.Reach (LoopState.step platform) Execution.always
      (.start world attended device) state) :
    (∀ manager ∈ state.runtime.authority, manager.active.isSome →
      ∀ input ∈ state.runtime.input, input.resources = ∅ ∧ input.buttonHolders = ∅ ∧
        input.keyHolders = ∅ ∧ input.injector.activeButtons = [] ∧ input.injector.activeKeys = []) ∧
    ∀ deed ∈ state.runtime.log, ∀ event cause, deed.act = .handed event cause →
      (∃ manager ∈ deed.state.authority, manager.active.isSome) → isRelease event := by
  have guarded := (AgentRuntime.course_guarded platform).run
    (AgentRuntime.guarded_new world attended device) reach
  refine ⟨?_, ?_⟩
  · intro manager there active input found
    have idle := guarded.resting (by rw [AgentState.promptActive, there]; exact active) input found
    exact ⟨idle.resources, idle.buttonHolders, idle.keyHolders, idle.activeButtons, idle.activeKeys⟩
  · rintro deed listed event cause is ⟨manager, there, active⟩
    refine guarded.logged deed listed event cause is ?_
    rw [AgentState.promptActive, there]
    exact active

/-- A key goes down, and another request brings a prompt. -/
def keyThenPrompt : List LoopLabel :=
  [.connect, .hears (.consentRequest (.sample 1)), .approves 1 {.inputKeyboard},
    .hears (.execute (.sample 2 (.startInput (.replicate 16 7) {.inputKeyboard}))),
    .hears (.inputEvent
      { requestToken := 1
        sessionId := ⟨"s"⟩
        resourceId := .replicate 16 7
        startGrantId := .replicate 32 2
        sequence := 1
        expiresAtMs := 100
        event := .key (.virtualKey 65) true }),
    .hears (.consentRequest (.sample 3))]

/-- What the device was handed, newest first. -/
def handedEvents {ω σ : Type} (log : List (Deed ω σ)) : List Input.InputEvent :=
  log.filterMap fun deed =>
    match deed.act with
    | .handed event _ => some event
    | .called _ | .emitted .. | .approved .. | .revoked _ => none

theorem keyThenPrompt_runs : (Execution.run (LoopState.step (.sample 5 5))
    (.start 0 true (some ())) keyThenPrompt).map (fun state =>
      (state.runtime.promptActive, handedEvents state.runtime.log)) =
    some (true, [.key (.virtualKey 65) false, .key (.virtualKey 65) true]) := by
  decide +kernel

theorem prompts_exclude_pressed_key : ∃ state : LoopState Nat Unit, state.runtime.promptActive ∧
    handedEvents state.runtime.log = [.key (.virtualKey 65) false, .key (.virtualKey 65) true] ∧
    ∀ manager ∈ state.runtime.authority, manager.active.isSome →
      ∀ input ∈ state.runtime.input, input.injector.activeKeys = [] := by
  obtain ⟨state, ran, seen⟩ := Option.map_eq_some_iff.mp keyThenPrompt_runs
  obtain ⟨shown, handed⟩ := Prod.mk.inj seen
  refine ⟨state, shown, handed, fun manager there active input found => ?_⟩
  exact ((prompts_exclude_input (.sample 5 5) 0 true (some ()) state
    (Execution.run_reach ran)).1 manager there active input found).2.2.2.2

end MiniRemoteDesktop.Agent
