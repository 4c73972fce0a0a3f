/-
**The input backend of the session agent, over its runs** (`mrd-session-agent`, `input.rs`).

* `PlatformInjector.recorded` — any device, with a record of the events that it accepted beside it: what
  is physically down is what the record says was pressed last.
* `records` — what a manager knows of a resource apart from what it holds. Only a start, and the event
  that is injected, change it.
-/

import MiniRemoteDesktop.Agent.Authority
import MiniRemoteDesktop.Agent.Held

namespace MiniRemoteDesktop.Agent

open Input (InputEvent InputError HeldInput)
open Procedure (Framing Keeping Moves)
open InputResourceManager
open Table

variable {σ : Type}

/-! ### Calls -/

inductive InputCall
  | start (command : AuthorizedCommand)
  | handle (envelope : InputEventEnvelope) (context : ExecutionContext)
  | stop (id : Id)
  | releaseSession (sessionId : SessionId)
  | releaseAll

/-- Whether a call opens a resource with an id. -/
def InputCall.opens (call : InputCall) (id : Id) : Prop :=
  ∃ command resource, call = .start command ∧ authorizeInputResource command = some resource ∧
    resource.resourceId = id

/-- Whether a call is to release a resource. -/
def InputCall.releases (call : InputCall) (resource : AuthorizedInputResource) : Prop :=
  match call with
  | .stop id => resource.resourceId = id
  | .releaseSession sessionId => resource.sessionId = sessionId
  | .releaseAll => True
  | .start _ | .handle .. => False

variable {state : InputResourceState} {id : Id}

variable {before after : InputResourceManager σ}

namespace InputResourceManager

variable (device : PlatformInjector σ) (order : ReleaseOrder) (digests : Digests)

/-- One call, whatever it answers. -/
def perform (call : InputCall) (manager : InputResourceManager σ) : InputResourceManager σ :=
  match call with
  | .start command => (start device command manager).1
  | .handle envelope context => (handle device order digests envelope context manager).1
  | .stop id => (stop device order id manager).1
  | .releaseSession sessionId => (releaseSession device order sessionId manager).1
  | .releaseAll => (releaseAll device order manager).1

/-- **The runs of the backend.** -/
def step (manager : InputResourceManager σ) (call : InputCall) : Option (InputResourceManager σ) :=
  some (perform device order digests call manager)

theorem perform_sound (call : InputCall) {manager : InputResourceManager σ} (sound : Sound manager) :
    Sound (perform device order digests call manager) := by
  cases call with
  | start command => exact start_sound device command manager sound
  | handle envelope context => exact handle_sound device order digests envelope context sound
  | stop id => exact stop_sound device order id sound
  | releaseSession sessionId => exact releaseSession_sound device order sessionId manager sound
  | releaseAll => exact releaseAll_sound device order manager sound

/-! ### What is known of a resource -/

/-- What a manager knows of a resource, apart from what it holds. -/
def records (manager : InputResourceManager σ) (id : Id) :
    Option (AuthorizedInputResource × Nat × AList fun _ : Nat => Digest × InputAckOutcome) :=
  (manager.resources.lookup id).map fun state => (state.resource, state.lastSequence, state.replay)

variable {manager : InputResourceManager σ}

theorem records_some (found : manager.resources.lookup id = some state) :
    manager.records id = some (state.resource, state.lastSequence, state.replay) := by
  rw [records, found]
  rfl

/-- A resource with the same record differs in what it holds only. -/
theorem records_same {later : InputResourceState} (same : after.records id = before.records id)
    (found : after.resources.lookup id = some later) :
    ∃ earlier, before.resources.lookup id = some earlier ∧
      later = { earlier with pressed := later.pressed } := by
  rw [records_some found] at same
  obtain ⟨earlier, there, is⟩ := Option.map_eq_some_iff.mp same.symm
  obtain ⟨resource, last, replay⟩ : earlier.resource = later.resource ∧
      earlier.lastSequence = later.lastSequence ∧ earlier.replay = later.replay := by
    simpa using is
  refine ⟨earlier, there, ?_⟩
  rw [resource, last, replay]

/-- Another state for a resource, with the same record. -/
theorem records_insert {other : InputResourceState} (found : manager.resources.lookup id = some state)
    (same : other = { state with pressed := other.pressed }) {later : InputResourceManager σ}
    (inserted : later.resources = manager.resources.insert id other) :
    later.records = manager.records := by
  funext probe
  rw [records, records, inserted, lookup_insert_alist]
  split
  next is =>
    rw [is, found, same]
    rfl
  · rfl

theorem transition_records (id : Id) (input : AgentHeldInput) (pressed : Bool) :
    Moves (Framing records) (transition device id input pressed) := by
  intro manager
  rcases transition_outcome device id input pressed manager with
    ⟨unchanged, -⟩ | ⟨state, found, -, ⟨inner, error, failed⟩ | ⟨inner, -, done⟩ | ⟨-, done⟩⟩
  · rw [unchanged]
    exact rfl
  · rw [failed]
    exact rfl
  all_goals
    rw [done]
    exact records_insert found rfl (resources_transitioned ..)

theorem releaseState_records (state : InputResourceState) :
    Moves (Framing records) (releaseState device order state) :=
  .sweep fun _ _ => transition_records device _ _ _

theorem inject_records (event : InputEvent) : Moves (Framing records) (inject device event) := by
  intro manager
  obtain ⟨inner, done | ⟨error, failed⟩⟩ := inject_outcome device event manager
  · rw [done]
    exact rfl
  · rw [failed]
    exact rfl

/-- **An event at the device changes no record.** -/
theorem injectValidated_records (id : Id) (payload : InputEventPayload) :
    Moves (Framing records) (injectValidated device order id payload) := by
  cases payload with
  | mouseMove | mouseWheel | mouseHorizontalWheel => exact inject_records device _
  | mouseButton | key => exact transition_records device _ _ _
  | releaseAll =>
    refine .bind .read fun manager => ?_
    split
    · exact .pure _
    · exact releaseState_records device order _

/-- **What becomes of an event**: its resource is not open, it is answered at once, or it is injected. -/
inductive Handled (envelope : InputEventEnvelope) (context : ExecutionContext)
    (manager : InputResourceManager σ) (handled : InputResourceManager σ × InputAckOutcome) : Prop
  | closed (missing : manager.resources.lookup envelope.resourceId = none)
      (is : handled = (manager, .rejected .grant))
  | answered (state : InputResourceState)
      (found : manager.resources.lookup envelope.resourceId = some state)
      (screened : screen digests state envelope context = .error handled.2)
      (same : handled.1 = manager)
  | injected (state later : InputResourceState) (commitment : Digest) (payload : InputEventPayload)
      (found : manager.resources.lookup envelope.resourceId = some state)
      (screened : screen digests state envelope context = .ok (commitment, payload))
      (there : (injectValidated device order envelope.resourceId payload manager).1.resources.lookup
        envelope.resourceId = some later)
      (same : later = { state with pressed := later.pressed })
      (answer : handled.2 = ackOf (injectValidated device order envelope.resourceId payload manager).2)
      (resources : handled.1.resources =
        (injectValidated device order envelope.resourceId payload manager).1.resources.insert
          envelope.resourceId (remember later envelope.sequence commitment handled.2))
      (injector : handled.1.injector =
        (injectValidated device order envelope.resourceId payload manager).1.injector)

theorem handle_handled (envelope : InputEventEnvelope) (context : ExecutionContext)
    (manager : InputResourceManager σ) :
    Handled device order digests envelope context manager
      (handle device order digests envelope context manager) := by
  unfold handle
  split
  next missing =>
    exact .closed missing rfl
  next state found =>
    split
    next answer screened =>
      exact .answered state found screened rfl
    next commitment payload screened =>
      have same := injectValidated_records device order envelope.resourceId payload manager
      have known := congrFun same envelope.resourceId
      simp only
      split
      next gone =>
        rw [records_some found, records, gone] at known
        cases known
      next later there =>
        obtain ⟨earlier, before, kept⟩ := records_same known there
        cases found.symm.trans before
        exact .injected state later commitment payload found screened there kept rfl rfl rfl

/-! ### The injector -/

/-- The injector moves along a relation. -/
def Along (R : TrackedInputInjector σ → TrackedInputInjector σ → Prop)
    (before after : InputResourceManager σ) : Prop := R before.injector after.injector

variable {R : TrackedInputInjector σ → TrackedInputInjector σ → Prop} [IsPreorder _ R]

instance : IsPreorder (InputResourceManager σ) (Along R) where
  refl manager := refl_of R manager.injector
  trans _ _ _ first second := trans_of R first second

variable (injects : ∀ event, Moves R (TrackedInputInjector.inject device event))

include injects

omit [IsPreorder _ R] in
theorem inject_along (event : InputEvent) : Moves (Along R) (inject device event) :=
  fun manager => injects event manager.injector

theorem transition_along (id : Id) (input : AgentHeldInput) (pressed : Bool) :
    Moves (Along R) (transition device id input pressed) := by
  have same : ∀ (manager other : InputResourceManager σ), other.injector = manager.injector →
      Along R manager other := by
    intro manager other equal
    rw [Along, equal]
    exact refl_of R _
  refine .bind .read fun manager => ?_
  split
  · exact .pure _
  next state found =>
    refine .ite (fun _ => .pure _) fun _ => .ite (fun _ => .bind (inject_along device injects _)
      fun _ => ?_) fun _ => ?_
    all_goals
      refine .ite (fun _ => .change fun later => same _ _ ?_) fun _ => .change fun later => same _ _ ?_
      · exact injector_press ..
      · exact injector_release ..

theorem releaseState_along (state : InputResourceState) :
    Moves (Along R) (releaseState device order state) :=
  .sweep fun _ _ => transition_along device injects _ _ _

theorem retire_along (copy : InputResourceState) : Moves (Along R) (retire device order copy) :=
  .bind (releaseState_along device order injects copy) fun _ => .change fun _ => refl_of R _

theorem injectValidated_along (id : Id) (payload : InputEventPayload) :
    Moves (Along R) (injectValidated device order id payload) := by
  cases payload with
  | mouseMove | mouseWheel | mouseHorizontalWheel => exact inject_along device injects _
  | mouseButton | key => exact transition_along device injects _ _ _
  | releaseAll =>
    refine .bind .read fun manager => ?_
    split
    · exact .pure _
    · exact releaseState_along device order injects _

theorem handle_along (envelope : InputEventEnvelope) (context : ExecutionContext)
    (manager : InputResourceManager σ) :
    Along R manager (handle device order digests envelope context manager).1 := by
  rcases handle_handled device order digests envelope context manager with
    ⟨-, is⟩ | ⟨_, -, -, same⟩ | ⟨_, _, _, payload, -, -, -, -, -, -, injector⟩
  · rw [is]
    exact refl_of (Along R) manager
  · rw [same]
    exact refl_of (Along R) manager
  · rw [Along, injector]
    exact injectValidated_along device order injects envelope.resourceId payload manager

theorem stop_along (id : Id) (manager : InputResourceManager σ) :
    Along R manager (stop device order id manager).1 := by
  unfold stop
  split
  · exact refl_of (Along R) manager
  next state _ =>
    have moved := releaseState_along device order injects state manager
    rcases released : releaseState device order state manager with ⟨later, error | _⟩ <;>
      rw [released] at moved <;> exact moved

/-- **Every call moves the injector along what the device moves it along.** -/
theorem perform_along (call : InputCall) (manager : InputResourceManager σ) :
    Along R manager (perform device order digests call manager) := by
  have retires : ∀ copies, Moves (Along R) (Procedure.sweep (retire device order) copies) :=
    fun copies => .sweep fun _ _ => retire_along device order injects _
  cases call with
  | start command =>
    rcases start_cases device command manager with ⟨rejection, refused⟩ | ⟨resource, -, -, opened⟩
    · simpa [perform, refused] using refl_of (Along R) manager
    · simp only [perform, opened]
      exact refl_of R manager.injector
  | handle envelope context => exact handle_along device order digests injects envelope context manager
  | stop id => exact stop_along device order injects id manager
  | releaseSession sessionId => exact retires _ manager
  | releaseAll =>
    have moved := retires (order.resources manager.resources) manager
    rcases releaseAll_cases device order manager with ⟨-, done⟩ | ⟨error, failed⟩
    · simp only [perform, done]
      exact moved
    · simp [perform, failed, moved]

end InputResourceManager

/-! ### The record of a device -/

/-- **A device with a record** of the events that it accepted, newest first. -/
def PlatformInjector.recorded (device : PlatformInjector σ) : PlatformInjector (σ × List InputEvent) where
  inject state event :=
    match device.inject state.1 event with
    | (inner, .ok ()) => ((inner, event :: state.2), .ok ())
    | (inner, .error error) => ((inner, state.2), .error error)
  resetIdleState state := (device.resetIdleState state.1, state.2)
  isAvailable state := device.isAvailable state.1

/-- What a record says of an input: whether it was pressed or released last. -/
def lastTransition (held : HeldInput) (accepted : List InputEvent) : Option Bool :=
  accepted.findSome? fun event =>
    if event = held.event true then some true
    else if event = held.event false then some false else none

theorem HeldInput_event_injective {first second : HeldInput} {pressed other : Bool}
    (same : first.event pressed = second.event other) : first = second ∧ pressed = other := by
  cases first <;> cases second <;> cases same <;> exact ⟨rfl, rfl⟩

namespace TrackedInputInjector

/-- What is tracked is what the record says. -/
def Faithful (tracked : TrackedInputInjector (σ × List InputEvent)) : Prop :=
  ∀ held, tracked.active held = true ↔ lastTransition held tracked.inner.2 = some true

/-- An accepted event changes what is tracked as it changes the record. -/
theorem Faithful.accepted {tracked : TrackedInputInjector (σ × List InputEvent)} {inner : σ}
    (faithful : Faithful tracked) (event : InputEvent) :
    Faithful ({ tracked with
      inner := (inner, event :: tracked.inner.2), sent := event :: tracked.sent }.updatePressedState
        event) := by
  intro probe
  have unchanged : ∀ event, isTransition event = false →
      ∀ held pressed, event ≠ HeldInput.event held pressed := by
    rintro _ moves held pressed rfl
    cases held <;> cases moves
  cases moves : isTransition event with
  | false =>
    have same : lastTransition probe (event :: tracked.inner.2) =
        lastTransition probe tracked.inner.2 := by
      rw [lastTransition, List.findSome?_cons, if_neg (unchanged event moves probe true),
        if_neg (unchanged event moves probe false)]
      rfl
    have tracks : ∀ later : TrackedInputInjector (σ × List InputEvent),
        later.updatePressedState event = later := by
      intro later
      cases event with
      | mouseMove | mouseWheel | mouseHorizontalWheel => rfl
      | mouseButton | key => cases moves
    rw [tracks]
    show TrackedInputInjector.active _ probe = true ↔ lastTransition probe (event :: _) = some true
    rw [same, ← faithful probe]
    cases probe <;> rfl
  | true =>
    obtain ⟨held, pressed, rfl⟩ : ∃ held pressed, event = HeldInput.event held pressed := by
      cases event with
      | mouseMove | mouseWheel | mouseHorizontalWheel => cases moves
      | mouseButton button pressed => exact ⟨.button button, pressed, rfl⟩
      | key key pressed => exact ⟨.key key, pressed, rfl⟩
    rw [active_update]
    have inner_update : ∀ later : TrackedInputInjector (σ × List InputEvent),
        (later.updatePressedState (held.event pressed)).inner = later.inner := by
      intro later
      cases held <;> cases pressed <;> rfl
    rw [inner_update]
    show _ ↔ lastTransition probe (held.event pressed :: _) = some true
    by_cases is : probe = held
    · subst is
      rw [if_pos rfl, lastTransition, List.findSome?_cons]
      cases pressed with
      | true => rw [if_pos rfl]; exact ⟨fun _ => rfl, fun _ => rfl⟩
      | false =>
        rw [if_neg fun same => Bool.false_ne_true (HeldInput_event_injective same).2, if_pos rfl]
        exact ⟨fun impossible => absurd impossible Bool.false_ne_true, fun impossible => by
          cases impossible⟩
    · have differs : ∀ other, held.event pressed ≠ probe.event other := fun other same =>
        is (HeldInput_event_injective same).1.symm
      have same : lastTransition probe (held.event pressed :: tracked.inner.2) =
          lastTransition probe tracked.inner.2 := by
        simp [lastTransition, differs true, differs false]
      rw [if_neg is, same, ← faithful probe]
      cases probe <;> rfl

theorem inject_faithful (device : PlatformInjector σ) (event : InputEvent) :
    Moves (Keeping Faithful) (inject device.recorded event) := by
  intro tracked faithful
  unfold inject PlatformInjector.recorded
  simp only
  rcases answered : device.inject tracked.inner.1 event with ⟨inner, error | _⟩
  · exact faithful
  · exact faithful.accepted event

end TrackedInputInjector

variable {sequence : Nat}

namespace InputResourceManager

/-! ### Tables and device in step -/

variable {manager : InputResourceManager σ}

theorem pressing_pos_iff (input : AgentHeldInput) :
    0 < pressing manager.resources input ↔
      ∃ id state, manager.resources.lookup id = some state ∧ state.pressed.contains input := by
  constructor
  · intro positive
    by_contra nothing
    have none : pressing manager.resources input = 0 := by
      refine List.sum_eq_zero fun count listed => ?_
      obtain ⟨⟨id, state⟩, among, rfl⟩ := List.mem_map.mp listed
      have found := (mem_entries_alist _ _ _).mp among
      cases held : state.pressed.contains input with
      | false => exact congrArg Bool.toNat held
      | true => exact absurd ⟨id, state, found, held⟩ nothing
    omega
  · rintro ⟨id, state, found, held⟩
    have below := le_pressing found input
    rw [held] at below
    exact below

/-- **The counts are the numbers of holders, and what is down is what some resource holds.** -/
structure InStep (manager : InputResourceManager (σ × List InputEvent)) : Prop where
  buttons : ∀ button, (manager.buttonHolders.lookup button).getD 0 =
    pressing manager.resources (.button button)
  keys : ∀ key, (manager.keyHolders.lookup key).getD 0 = pressing manager.resources (.key key)
  down : ∀ held, lastTransition held manager.injector.inner.2 = some true ↔
    ∃ id state input, manager.resources.lookup id = some state ∧ state.pressed.contains input ∧
      AgentHeldInput.physical input = held

theorem Sound.inStep {manager : InputResourceManager (σ × List InputEvent)} (sound : Sound manager)
    (faithful : manager.injector.Faithful) : InStep manager where
  buttons button := sound.counted (.button button)
  keys key := sound.counted (.key key)
  down held := by
    rw [← faithful held, sound.down]
    constructor
    · rintro ⟨input, is, positive⟩
      rw [sound.counted, pressing_pos_iff] at positive
      obtain ⟨id, state, found, holds⟩ := positive
      exact ⟨id, state, input, found, holds, is⟩
    · rintro ⟨id, state, input, found, holds, is⟩
      refine ⟨input, is, ?_⟩
      rw [sound.counted, pressing_pos_iff]
      exact ⟨id, state, found, holds⟩

/-! ### Every held input is tried -/

/-- Whatever a resource still holds of an input, the device was told to release it. -/
def Tried (id : Id) (input : AgentHeldInput) (before after : InputResourceManager σ) : Prop :=
  ∃ attempts, after.injector.sent = attempts ++ before.injector.sent ∧
    ∀ later, after.resources.lookup id = some later → later.pressed.contains input →
      input.physical.event false ∈ attempts

variable {input : AgentHeldInput}

variable {first third : InputResourceManager σ}

theorem Tried.since {second : InputResourceManager σ} (releasing : Releasing first second)
    (tried : Tried id input second third) :
    Tried id input first third := by
  obtain ⟨old, before, -⟩ := releasing.releases
  obtain ⟨attempts, sent, told⟩ := tried
  refine ⟨attempts ++ old, by rw [sent, before, List.append_assoc], fun later found held => ?_⟩
  exact List.mem_append_left _ (told later found held)

theorem Tried.then {second : InputResourceManager σ} (tried : Tried id input first second)
    (releasing : Releasing second third) :
    Tried id input first third := by
  obtain ⟨attempts, before, told⟩ := tried
  obtain ⟨new, sent, -⟩ := releasing.releases
  refine ⟨new ++ attempts, by rw [sent, before, List.append_assoc], fun later found held => ?_⟩
  obtain ⟨earlier, there, -, below⟩ := releasing.shrinks id later found
  exact List.mem_append_right _ (told earlier there (below input held))

variable (device : PlatformInjector σ) (order : ReleaseOrder) (digests : Digests)

theorem transition_tried (id : Id) (input : AgentHeldInput) (manager : InputResourceManager σ) :
    Tried id input manager (transition device id input false manager).1 := by
  have absent : ∀ (first : InputResourceManager σ) (state : InputResourceState) later,
      (first.transitioned id state input false).resources.lookup id = some later →
        later.pressed.contains input = false := by
    intro first state later found
    rw [resources_transitioned, lookup_insert_alist, if_pos rfl] at found
    cases found
    simp [contains_after]
  rcases transition_outcome device id input false manager with
    ⟨unchanged, lacks⟩ | ⟨state, found, -, ⟨inner, error, failed⟩ | ⟨inner, -, done⟩ | ⟨-, done⟩⟩
  · rw [unchanged]
    exact ⟨[], rfl, fun later found held => absurd (lacks later found) (by simpa using held)⟩
  · rw [failed]
    exact ⟨[_], rfl, fun _ _ _ => List.mem_singleton_self _⟩
  · rw [done]
    refine ⟨[input.physical.event false], ?_, fun later found held =>
      absurd (absent _ _ later found) (by simpa using held)⟩
    rw [injector_transitioned]
    exact sent_update ..
  · rw [done]
    refine ⟨[], ?_, fun later found held => absurd (absent _ _ later found) (by simpa using held)⟩
    simp [injector_transitioned]

theorem releaseState_tried (held : state.pressed.contains input) (manager : InputResourceManager σ) :
    Tried state.resource.resourceId input manager (releaseState device order state manager).1 := by
  have sweeps : ∀ (inputs : List AgentHeldInput) (manager : InputResourceManager σ),
      input ∈ inputs → Tried state.resource.resourceId input manager (Procedure.sweep (fun input =>
        transition device state.resource.resourceId input false) inputs manager).1 := by
    intro inputs
    induction inputs with
    | nil => exact fun _ listed => absurd listed List.not_mem_nil
    | cons first rest ih =>
      intro manager listed
      rcases List.mem_cons.mp listed with rfl | listed
      · exact (transition_tried device _ input manager).then
          (Procedure.Moves.sweep (fun _ _ => transition_releasing device _ _) _)
      · exact (ih _ listed).since (transition_releasing device _ _ manager)
  exact sweeps _ manager ((order.mem_held state input).mpr held)

theorem retireAll_tried {copies : List InputResourceState} {copy : InputResourceState}
    (listed : copy ∈ copies) (held : copy.pressed.contains input) (manager : InputResourceManager σ) :
    Tried copy.resource.resourceId input manager
      (Procedure.sweep (retire device order) copies manager).1 := by
  have here : ∀ manager, Tried copy.resource.resourceId input manager
      (retire device order copy manager).1 := by
    intro manager
    have tried := releaseState_tried device order held manager
    rcases retire_cases device order copy manager with ⟨-, done⟩ | ⟨error, failed⟩
    · simpa [done] using tried.then (removeResource_releasing _)
    · simp [failed, tried]
  induction copies generalizing manager with
  | nil => exact absurd listed List.not_mem_nil
  | cons first rest ih =>
    rcases List.mem_cons.mp listed with rfl | listed
    · exact (here manager).then (retireAll_releasing device order rest _)
    · exact (ih listed _).since (retire_releasing device order first manager)

theorem mem_resources (found : manager.resources.lookup id = some state) :
    state ∈ order.resources manager.resources :=
  (order.resources_perm _).mem_iff.mpr
    (List.mem_map.mpr ⟨⟨id, state⟩, (mem_entries_alist _ _ _).mpr found, rfl⟩)

variable {call : InputCall}

/-- **A call that is to release a resource tries every input that it holds**, whatever fails. -/
theorem perform_tried (sound : Sound manager) (found : manager.resources.lookup id = some state)
    (releases : call.releases state.resource) (input : AgentHeldInput)
    (held : state.pressed.contains input) :
    Tried id input manager (perform device order digests call manager) := by
  have keyed := sound.keyed id state found
  subst keyed
  cases call with
  | start | handle => exact releases.elim
  | stop id =>
    cases releases
    have tried := releaseState_tried device order held manager
    unfold perform stop
    simp only [found]
    rcases released : releaseState device order state manager with ⟨later, error | _⟩ <;>
      rw [released] at tried
    · exact tried
    · exact tried.then (removeResource_releasing _)
  | releaseSession sessionId =>
    have among : state ∈ (order.resources manager.resources).filter fun state =>
        state.resource.sessionId = sessionId :=
      List.mem_filter.mpr ⟨mem_resources order found, decide_eq_true (p := _ = _) releases⟩
    exact retireAll_tried device order among held manager
  | releaseAll =>
    have tried := retireAll_tried device order (mem_resources order found) held manager
    rcases releaseAll_cases device order manager with ⟨-, done⟩ | ⟨error, failed⟩
    · simp only [perform, done]
      exact tried
    · simp [perform, failed, tried]

/-- What the calls that release tell a resource that stays. -/
theorem perform_removed {manager : InputResourceManager (σ × List InputEvent)}
    (step : InStep (perform device.recorded order digests call manager))
    (gone : (perform device.recorded order digests call manager).resources.lookup id = none)
    (input : AgentHeldInput)
    (down : lastTransition input.physical (perform device.recorded order digests call
      manager).injector.inner.2 = some true) :
    ∃ other later, other ≠ id ∧ (perform device.recorded order digests call manager).resources.lookup
      other = some later ∧ later.pressed.contains input := by
  obtain ⟨other, later, found, there, held, is⟩ := (step.down _).mp down
  refine ⟨other, later, ?_, there, AgentHeldInput.physical_injective is ▸ held⟩
  rintro rfl
  simp [gone] at there

/-! ### Each event at most once -/

/-- Whether an event reaches the device. -/
def Injects (manager : InputResourceManager σ) (envelope : InputEventEnvelope)
    (context : ExecutionContext) : Prop :=
  ∃ state, manager.resources.lookup envelope.resourceId = some state ∧
    ∃ passed, screen digests state envelope context = .ok passed

variable {commitment : Digest}

variable {envelope : InputEventEnvelope}

/-- What is answered to an event that does not reach the device. -/
theorem screen_error {context : ExecutionContext} {answer : InputAckOutcome}
    (commits : envelope.commitment digests = .ok commitment)
    (screened : screen digests state envelope context = .error answer) :
    (∃ known cached, state.replay.lookup envelope.sequence = some (known, cached) ∧
      answer = if known = commitment then cached else .rejected .replay) ∨
    (state.replay.lookup envelope.sequence = none ∧ (answer = .rejected .replay ∨
      ∃ reason, validateInputEvent envelope state.resource context = .error reason ∧
        answer = .rejected reason)) := by
  unfold screen at screened
  rw [commits] at screened
  cases cached : state.replay.lookup envelope.sequence with
  | some entry =>
    rw [cached] at screened
    exact .inl ⟨entry.1, entry.2, rfl, (Except.error.inj screened).symm⟩
  | none =>
    rw [cached] at screened
    refine .inr ⟨rfl, ?_⟩
    cases valid : validateInputEvent envelope state.resource context with
    | error reason =>
      rw [valid] at screened
      exact .inr ⟨reason, rfl, (Except.error.inj screened).symm⟩
    | ok payload =>
      rw [valid] at screened
      by_cases late : envelope.sequence ≤ state.lastSequence
      · refine .inl ?_
        have thrown : (Except.error (.rejected .replay) : Except InputAckOutcome (Digest × InputEventPayload)) =
            .error answer := by
          rw [← screened]
          simp [late, bind, Except.bind, Except.mapError]
          rfl
        exact (Except.error.inj thrown).symm
      · simp [late, bind, Except.bind, Except.mapError, pure, Except.pure] at screened

variable {entry : Digest × InputAckOutcome}

/-- What a cache remembers: the new answer, or what it knew before. -/
theorem remember_lookup {probe : Nat} {outcome : InputAckOutcome}
    (found : (remember state sequence commitment outcome).replay.lookup probe = some entry) :
    (probe = sequence ∧ entry = (commitment, outcome)) ∨ state.replay.lookup probe = some entry := by
  have inserted : (state.replay.insert sequence (commitment, outcome)).lookup probe = some entry := by
    unfold remember at found
    simp only at found
    split at found
    · cases oldest : oldestSequence (state.replay.insert sequence (commitment, outcome)) with
      | none =>
        simpa [oldest] using found
      | some old =>
        rw [oldest] at found
        have erased : ((state.replay.insert sequence (commitment, outcome)).erase old).lookup probe =
            some entry := found
        rw [lookup_erase_alist] at erased
        split at erased
        · cases erased
        · exact erased
    · exact found
  rw [lookup_insert_alist] at inserted
  split at inserted
  next same =>
    exact .inl ⟨same, (Option.some.inj inserted).symm⟩
  · exact .inr inserted

/-- **What an open resource knows of an event that was injected.** -/
def Knows (id : Id) (sequence : Nat) (entry : Digest × InputAckOutcome)
    (manager : InputResourceManager σ) : Prop :=
  ∀ state, manager.resources.lookup id = some state → sequence ≤ state.lastSequence ∧
    ∀ cached, state.replay.lookup sequence = some cached → cached = entry

theorem Knows.releasing (knows : Knows id sequence entry before) (releasing : Releasing before after) :
    Knows id sequence entry after := by
  intro state found
  obtain ⟨earlier, there, same, -⟩ := releasing.shrinks id state found
  rw [same]
  exact knows earlier there

theorem handle_knows {context : ExecutionContext} (injects : Injects digests manager envelope context)
    (commits : envelope.commitment digests = .ok commitment) :
    Knows envelope.resourceId envelope.sequence
      (commitment, (handle device order digests envelope context manager).2)
      (handle device order digests envelope context manager).1 := by
  obtain ⟨state, found, passed, screened⟩ := injects
  rcases handle_handled device order digests envelope context manager with
    ⟨missing, -⟩ | ⟨other, there, failed, -⟩ |
      ⟨other, last, known, payload, there, passes, among, same, answer, resources, -⟩
  · simp [missing] at found
  · rw [found] at there
    cases there
    simp [screened] at failed
  · obtain ⟨committed, fresh, -⟩ := screen_ok passes
    rw [commits] at committed
    cases committed
    intro after here
    rw [resources, lookup_insert_alist, if_pos rfl] at here
    cases here
    refine ⟨Nat.le_refl _, fun cached listed => ?_⟩
    rcases remember_lookup listed with ⟨-, is⟩ | earlier
    · exact is
    · rw [same] at earlier
      simp [show other.replay.lookup envelope.sequence = some cached from earlier] at fresh

/-- **Every call that does not open the resource again keeps what it knows.** -/
theorem perform_knows (knows : Knows id sequence entry manager) (other : ¬ call.opens id) :
    Knows id sequence entry (perform device order digests call manager) := by
  cases call with
  | start command =>
    rcases start_cases device command manager with ⟨rejection, refused⟩ | ⟨resource, opens, -, opened⟩
    · simp [perform, refused, knows]
    · simp only [perform, opened]
      intro state found
      rw [lookup_insert_alist, if_neg fun same =>
        other ⟨command, resource, rfl, opens, same.symm⟩] at found
      exact knows state found
  | handle envelope context =>
    have same := injectValidated_records device order envelope.resourceId
    rcases handle_handled device order digests envelope context manager with
      ⟨-, is⟩ | ⟨_, -, -, is⟩ |
        ⟨state, later, commitment, payload, found, passes, there, kept, -, resources, -⟩
    · simp [perform, is, knows]
    · simp [perform, is, knows]
    · intro after here
      obtain ⟨-, fresh, -, newer⟩ := screen_ok passes
      simp only [perform] at here
      rw [resources, lookup_insert_alist] at here
      split at here
      next is =>
        cases here
        subst is
        obtain ⟨below, entries⟩ := knows state found
        refine ⟨Nat.le_of_lt (Nat.lt_of_le_of_lt below newer), fun cached listed => ?_⟩
        rcases remember_lookup listed with ⟨equal, -⟩ | earlier
        · omega
        · rw [kept] at earlier
          exact entries cached earlier
      · obtain ⟨earlier, before, stays⟩ := records_same (congrFun (same payload manager) id) here
        rw [stays]
        exact knows earlier before
  | stop id => exact knows.releasing (stop_releasing device order id)
  | releaseSession sessionId => exact knows.releasing (releaseSession_releasing device order sessionId manager)
  | releaseAll => exact knows.releasing (releaseAll_releasing device order manager)

/-- The answer to an event that was injected before, by what is left of its resource. -/
def AnswersAgain (envelope : InputEventEnvelope) (context : ExecutionContext)
    (recorded : InputAckOutcome) (state : Option InputResourceState) (answer : InputAckOutcome) : Prop :=
  match state with
  | none => answer = .rejected .grant
  | some state =>
    if (state.replay.lookup envelope.sequence).isSome then answer = recorded
    else answer = .rejected .replay ∨
      ∃ reason, validateInputEvent envelope state.resource context = .error reason ∧
        answer = .rejected reason

/-- **What an injected event means for the events of its resource**: later ones have later sequences;
its own sequence reaches the device no more, and the same event is answered from the cache as long as
the cache has it. -/
structure Once (first : InputEventEnvelope) (recorded : InputAckOutcome)
    (manager : InputResourceManager σ) : Prop where
  ordered : ∀ second context, second.resourceId = first.resourceId →
    Injects digests manager second context → first.sequence < second.sequence
  silent : ∀ second context, second.resourceId = first.resourceId → second.sequence = first.sequence →
    (handle device order digests second context manager).1 = manager
  answer : ∀ second context, second.resourceId = first.resourceId → second.sequence = first.sequence →
    second.commitment digests = first.commitment digests →
      AnswersAgain second context recorded (manager.resources.lookup first.resourceId)
        (handle device order digests second context manager).2

theorem Knows.once {first : InputEventEnvelope} {recorded : InputAckOutcome}
    (commits : first.commitment digests = .ok commitment)
    (knows : Knows first.resourceId first.sequence (commitment, recorded) manager) :
    Once device order digests first recorded manager := by
  have ordered : ∀ second context, second.resourceId = first.resourceId →
      Injects digests manager second context → first.sequence < second.sequence := by
    rintro second context is ⟨state, found, ⟨_, _⟩, passes⟩
    obtain ⟨-, -, -, newer⟩ := screen_ok passes
    exact Nat.lt_of_le_of_lt (knows state (is ▸ found)).1 newer
  refine ⟨ordered, fun second context is same => ?_, fun second context is same commitments => ?_⟩
  · rcases handle_handled device order digests second context manager with
      ⟨-, whole⟩ | ⟨_, -, -, kept⟩ | ⟨state, _, _, _, found, passes, -, -, -, -, -⟩
    · rw [whole]
    · exact kept
    · have later := ordered second context is ⟨state, found, _, passes⟩
      omega
  · rcases handle_handled device order digests second context manager with
      ⟨missing, whole⟩ | ⟨state, found, failed, -⟩ | ⟨state, _, _, _, found, passes, -, -, -, -, -⟩
    · rw [is] at missing
      rw [missing, whole]
      exact rfl
    · rw [← is, found]
      unfold AnswersAgain
      simp only
      rcases screen_error digests (commitments.trans commits) failed with
        ⟨known, cached, there, answers⟩ | ⟨absent, answers⟩
      · rw [there]
        cases (knows state (is ▸ found)).2 _ (same ▸ there)
        exact answers.trans (if_pos rfl)
      · simp [absent, answers]
    · have later := ordered second context is ⟨state, found, _, passes⟩
      omega

end InputResourceManager

open InputResourceManager (InStep Tried Injects Once Sound perform step)

/-- **The input backend of the agent keeps the physical input in step with its resources, and injects
each event at most once.** In every state that any calls lead to, with any answers of the device: the
counts are the numbers of resources that hold an input, and what was pressed last at the device is what
some resource holds. A call that is to release a resource tries every input that it holds; where the
resource is gone afterwards, only another resource keeps such an input down. And an injected event is
`Once`, until its resource is opened again. -/
theorem input_in_step (device : PlatformInjector σ) (order : ReleaseOrder) (digests : Digests) (inner : σ)
    (manager : InputResourceManager (σ × List InputEvent))
    (reach : Execution.Reach (step device.recorded order digests) Execution.always
      (.new (inner, [])) manager) :
    InStep manager ∧
    (∀ call id state input, manager.resources.lookup id = some state → call.releases state.resource →
      state.pressed.contains input →
        Tried id input manager (perform device.recorded order digests call manager) ∧
        ((perform device.recorded order digests call manager).resources.lookup id = none →
          lastTransition input.physical
            (perform device.recorded order digests call manager).injector.inner.2 = some true →
          ∃ other later, other ≠ id ∧ (perform device.recorded order digests call
            manager).resources.lookup other = some later ∧ later.pressed.contains input)) ∧
    (∀ first context, Injects digests manager first context → ∀ later,
      Execution.Reach (step device.recorded order digests) (fun _ call => ¬ call.opens first.resourceId)
        (perform device.recorded order digests (.handle first context) manager) later →
      Once device.recorded order digests first
        (handle device.recorded order digests first context manager).2 later) := by
  have kept : ∀ call (manager : InputResourceManager (σ × List InputEvent)),
      Sound manager ∧ manager.injector.Faithful →
      Sound (perform device.recorded order digests call manager) ∧
        (perform device.recorded order digests call manager).injector.Faithful := by
    intro call manager ⟨sound, faithful⟩
    exact ⟨perform_sound _ _ _ call sound, perform_along
      (R := Keeping TrackedInputInjector.Faithful) device.recorded order digests
      (TrackedInputInjector.inject_faithful device) call manager faithful⟩
  have holds : Sound manager ∧ manager.injector.Faithful := by
    refine reach.invariant (I := fun manager => Sound manager ∧ manager.injector.Faithful)
      ⟨sound_new _, fun held => ?_⟩ ?_
    · constructor
      · intro impossible
        cases held <;>
          simp [new, TrackedInputInjector.new, TrackedInputInjector.active] at impossible
      · rintro ⟨⟩
    · rintro before call _ invariant - ⟨⟩
      exact kept call before invariant
  refine ⟨holds.1.inStep holds.2, fun call id state input found releases held => ⟨?_, fun gone down =>
    ?_⟩, fun first context injects later after => ?_⟩
  · exact perform_tried _ _ _ holds.1 found releases input held
  · obtain ⟨sound, faithful⟩ := kept call manager holds
    exact perform_removed _ _ _ (sound.inStep faithful) gone input down
  · obtain ⟨state, found, ⟨commitment, payload⟩, passes⟩ := id injects
    obtain ⟨commits, -⟩ := screen_ok passes
    refine InputResourceManager.Knows.once _ _ _ commits (after.invariant
      (I := InputResourceManager.Knows first.resourceId first.sequence _)
      (handle_knows _ _ _ injects commits) ?_)
    rintro before call _ knows other ⟨⟩
    exact perform_knows _ _ _ knows other

/-! ### A cache that is full -/

/-- A start of a pointer resource, as `ExecuteCommand.sample` asks for it. -/
def AuthorizedCommand.sample : AuthorizedCommand :=
  let execute := ExecuteCommand.sample 2 (.startInput (.replicate 16 7) {.inputPointer})
  { commandId := execute.commandId
    command := execute.command
    grant := { claims := execute.grant.claims, issuerKeyId := execute.grant.issuerKeyId } }

/-- The resource that it opens. -/
def AuthorizedInputResource.sample : AuthorizedInputResource where
  resourceId := .replicate 16 7
  startGrantId := .replicate 32 2
  inputScopes := {.inputPointer}
  grant := AuthorizedCommand.sample.grant

/-- A mouse move of this resource. -/
def InputEventEnvelope.sample (sequence : Nat) : InputEventEnvelope where
  requestToken := 1
  sessionId := ⟨"s"⟩
  resourceId := .replicate 16 7
  startGrantId := .replicate 32 2
  sequence := sequence
  expiresAtMs := 100
  event := .mouseMove 0 0

open InputEventEnvelope

/-- The session that the resource belongs to, at a time. -/
def ExecutionContext.sample (nowMs : Nat) : ExecutionContext where
  registrationId := .replicate 16 1
  registrationEpoch := 1
  sessionId := ⟨"s"⟩
  peer := { deviceId := ⟨"d"⟩, keyId := .replicate 32 1 }
  policyRevision := 1
  windowsSessionId := 1
  desktopEpoch := 1
  desktopKind := .default
  nowMs := nowMs
  expectedIssuerKeyId := .replicate 32 1
  authorizationScopes := {.inputPointer}
  authorizationExpiresAtMs := 200

namespace InputResourceManager

/-- The device of the sample world, with its record. -/
abbrev sampleDevice : PlatformInjector (Unit × List InputEvent) := (Platform.sample 1 1).device.recorded

/-- A call in the sample world. -/
abbrev performs (call : InputCall) (manager : InputResourceManager (Unit × List InputEvent)) :
    InputResourceManager (Unit × List InputEvent) :=
  perform sampleDevice .sample (Platform.sample 1 1).digests call manager

/-- The resource is open, and nothing happened yet. -/
def opened : InputResourceManager (Unit × List InputEvent) :=
  performs (.start .sample) (.new ((), []))

/-- So many mouse moves, each with the next sequence. -/
def moves : Nat → InputResourceManager (Unit × List InputEvent)
  | 0 => opened
  | count + 1 => performs (.handle (.sample (count + 1)) (.sample 1)) (moves count)

theorem sample_shape (positive : 0 < sequence) (bounded : sequence < u64Max) :
    (sample sequence).validateShape = .ok () := by
  unfold validateShape sample
  simp only
  rw [if_neg ?_]
  rintro (token | blank | long | null | id | grant | zero | last | never | shape)
  · exact absurd token (by decide)
  · exact absurd blank (by decide)
  · exact absurd long (by decide)
  · exact absurd null (by decide)
  · exact absurd id (by decide +kernel)
  · exact absurd grant (by decide +kernel)
  · omega
  · omega
  · exact absurd never (by decide)
  · exact absurd shape (by decide)

theorem sample_valid (positive : 0 < sequence) (bounded : sequence < u64Max) :
    validateInputEvent (.sample sequence) .sample (.sample 1) = .ok (.mouseMove 0 0) := by
  have same : validateInputEvent (.sample sequence) .sample (.sample 1) =
      (sample sequence).validateShape.bind fun _ =>
        validateInputEvent (.sample 1) .sample (.sample 1) := by
    unfold validateInputEvent
    rw [sample_shape positive bounded, sample_shape Nat.one_pos (by decide)]
    rfl
  rw [same, sample_shape positive bounded]
  show validateInputEvent (.sample 1) .sample (.sample 1) = _
  decide +kernel

/-- What the moves leave of the resource, as long as the cache is not full. -/
structure Moved (count : Nat) (state : InputResourceState) : Prop where
  resource : state.resource = .sample
  last : state.lastSequence = count
  length : state.replay.entries.length = count
  cached : ∀ sequence, (state.replay.lookup sequence).isSome ↔ 0 < sequence ∧ sequence ≤ count

variable {count : Nat}

/-- A move goes through: the cache has it, unless it is too many. -/
theorem move_remembers (moved : Moved count state) (bounded : count + 1 < u64Max)
    {manager : InputResourceManager (Unit × List InputEvent)}
    (found : manager.resources.lookup (.replicate 16 7) = some state) :
    ∃ later commitment answer, (performs (.handle (.sample (count + 1)) (.sample 1))
        manager).resources.lookup (.replicate 16 7) =
          some (remember later (count + 1) commitment answer) ∧
      later.resource = .sample ∧ later.replay = state.replay := by
  have passes : ∃ commitment, screen (Platform.sample 1 1).digests state (.sample (count + 1))
      (.sample 1) = .ok (commitment, .mouseMove 0 0) := by
    have absent : state.replay.lookup (sample (count + 1)).sequence = none := by
      rw [← Option.not_isSome_iff_eq_none]
      intro there
      have below := ((moved.cached _).mp there).2
      exact absurd below (Nat.not_succ_le_self count)
    have newer : ¬ (sample (count + 1)).sequence ≤ state.lastSequence := by
      rw [moved.last]
      exact Nat.not_succ_le_self count
    refine ⟨.replicate 32 1, ?_⟩
    unfold screen commitment
    rw [sample_shape (Nat.succ_pos count) bounded, absent, moved.resource,
      sample_valid (Nat.succ_pos count) bounded]
    simp only [newer]
    rfl
  obtain ⟨commitment, passes⟩ := passes
  rcases handle_handled sampleDevice .sample (Platform.sample 1 1).digests (.sample (count + 1))
    (.sample 1) manager with
    ⟨missing, -⟩ | ⟨_, there, failed, -⟩ | ⟨_, later, known, payload, there, also, after, same, -, resources, -⟩
  · exact absurd (found.symm.trans missing) (Option.some_ne_none _)
  · cases found.symm.trans there
    simp [passes] at failed
  · cases found.symm.trans there
    refine ⟨later, known, (handle sampleDevice .sample (Platform.sample 1 1).digests
      (.sample (count + 1)) (.sample 1) manager).2,
      (congrArg (AList.lookup _) resources).trans (AList.lookup_insert _), ?_, ?_⟩
    · rw [same]
      exact moved.resource
    · rw [same]

theorem length_insert_new {replay : AList fun _ : Nat => Digest × InputAckOutcome}
    (absent : replay.lookup sequence = none) (entry : Digest × InputAckOutcome) :
    (replay.insert sequence entry).entries.length = replay.entries.length + 1 := by
  rw [length_entries, length_entries, weigh_insert_new _ _ absent, Nat.add_comm]

theorem Moved.absent (moved : Moved count state) :
    state.replay.lookup (count + 1) = none := by
  rw [← Option.not_isSome_iff_eq_none, moved.cached]
  omega

/-- As many moves as the cache has room for are all in it. -/
theorem moves_moved (few : count ≤ inputReplayCacheCapacity) :
    ∃ state, (moves count).resources.lookup (.replicate 16 7) = some state ∧ Moved count state := by
  induction count with
  | zero =>
    have here : (opened.resources.lookup (.replicate 16 7)).map (fun state =>
        (state.resource, state.lastSequence, state.replay.entries.length)) = some (.sample, 0, 0) := by
      decide
    obtain ⟨state, found, is⟩ := Option.map_eq_some_iff.mp here
    simp only [Prod.mk.injEq] at is
    obtain ⟨resource, last, length⟩ := is
    have empty : state.replay = ∅ := AList.ext (List.length_eq_zero_iff.mp length)
    refine ⟨state, found, resource, last, length, fun sequence => ?_⟩
    rw [empty]
    exact ⟨fun impossible => (Bool.false_ne_true impossible).elim, fun ⟨_, _⟩ => by omega⟩
  | succ count ih =>
    obtain ⟨state, found, moved⟩ := ih (Nat.le_of_succ_le few)
    have capacity : inputReplayCacheCapacity = 4096 := rfl
    have bounded : count + 1 < u64Max := by
      rw [u64Max]
      omega
    obtain ⟨later, commitment, answer, there, resource, replay⟩ := move_remembers moved bounded found
    have length := length_insert_new moved.absent (commitment, answer)
    have remembered : (remember later (count + 1) commitment answer).replay =
        state.replay.insert (count + 1) (commitment, answer) := by
      have room : ¬ inputReplayCacheCapacity <
          (state.replay.insert (count + 1) (commitment, answer)).entries.length := by
        rw [length, moved.length]
        omega
      unfold remember
      rw [replay]
      exact if_neg room
    refine ⟨_, there, resource, rfl, ?_, fun sequence => ?_⟩
    · rw [remembered, length, moved.length]
    · rw [remembered, lookup_insert_alist]
      split
      next is =>
        simp [is]
      next other =>
        rw [moved.cached]
        omega

/-- One move more than the cache has room for, and it forgets the first. -/
theorem first_forgotten {room : Nat} (capacity : room = inputReplayCacheCapacity) :
    ∃ state, (moves (room + 1)).resources.lookup (.replicate 16 7) = some state ∧
      state.resource = .sample ∧ state.replay.lookup 1 = none := by
  obtain ⟨state, found, moved⟩ := moves_moved (le_of_eq capacity)
  have bounded : room + 1 < u64Max := by
    rw [capacity]
    decide
  obtain ⟨later, commitment, answer, there, resource, replay⟩ := move_remembers moved bounded found
  refine ⟨_, there, resource, ?_⟩
  have length := length_insert_new moved.absent (commitment, answer)
  have oldest : oldestSequence (state.replay.insert (room + 1) (commitment, answer)) = some 1 := by
    have keys : ∀ sequence, sequence ∈ (state.replay.insert (room + 1) (commitment, answer)).keys ↔
        0 < sequence ∧ sequence ≤ room + 1 := by
      intro sequence
      rw [← AList.mem_keys, AList.mem_insert, ← AList.lookup_isSome, moved.cached]
      omega
    refine List.min?_eq_some_iff.mpr ⟨(keys 1).mpr ⟨by omega, by omega⟩, fun sequence listed => ?_⟩
    exact ((keys sequence).mp listed).1
  have full : inputReplayCacheCapacity <
      (state.replay.insert (room + 1) (commitment, answer)).entries.length := by
    rw [length, moved.length]
    omega
  unfold remember
  rw [replay]
  simp only [full, if_true, oldest]
  exact (lookup_erase_alist _ _ _).trans (if_pos rfl)

theorem moves_reach (count : Nat) (id : Id) :
    Execution.Reach (step sampleDevice .sample (Platform.sample 1 1).digests)
      (fun _ call => ¬ call.opens id) (moves 1) (moves (count + 1)) := by
  induction count with
  | zero => exact .refl
  | succ count ih =>
    have opensNone : ¬ (InputCall.handle (.sample (count + 2)) (.sample 1)).opens id := by
      rintro ⟨command, resource, ⟨⟩, -⟩
    exact ih.tail opensNone rfl

/-- An event that the cache forgot and whose time is over is refused for that. -/
theorem first_refused {room : Nat} (capacity : room = inputReplayCacheCapacity) :
    (handle sampleDevice .sample (Platform.sample 1 1).digests (.sample 1) (.sample 150)
      (moves (room + 1))).2 = .rejected .grant := by
  obtain ⟨state, found, resource, forgotten⟩ := first_forgotten capacity
  have expired : validateInputEvent (.sample 1) .sample (.sample 150) = .error .grant := by
    decide +kernel
  have screened : screen (Platform.sample 1 1).digests state (.sample 1) (.sample 150) =
      .error (.rejected .grant) := by
    have absent : state.replay.lookup (sample 1).sequence = none := forgotten
    unfold screen commitment
    rw [sample_shape Nat.one_pos (by decide), absent, resource, expired]
    rfl
  unfold handle
  rw [show (sample 1).resourceId = Vector.replicate 16 7 from rfl, found]
  simp only [screened]

/-- A move is injected, as many moves follow as the cache has room for, and the move comes again when
its time is over: the answer is neither the recorded one nor a replay. -/
theorem forgotten_event_refused :
    ¬ ∀ manager, Execution.Reach (step sampleDevice .sample
        (Platform.sample 1 1).digests) Execution.always (.new ((), [])) manager →
      ∀ first context, Injects (Platform.sample 1 1).digests manager first context → ∀ later,
        Execution.Reach (step sampleDevice .sample (Platform.sample 1 1).digests)
          (fun _ call => ¬ call.opens first.resourceId)
          (perform sampleDevice .sample (Platform.sample 1 1).digests
            (.handle first context) manager) later → ∀ moment,
        (handle sampleDevice .sample (Platform.sample 1 1).digests first moment later).2 =
          (handle sampleDevice .sample (Platform.sample 1 1).digests first context manager).2 ∨
        (handle sampleDevice .sample
            (Platform.sample 1 1).digests first moment later).2 = .rejected .replay := by
  intro claim
  have applied : (handle sampleDevice .sample
      (Platform.sample 1 1).digests (.sample 1) (.sample 1) opened).2 = .applied := by
    decide +kernel
  have injects : Injects (Platform.sample 1 1).digests opened (.sample 1) (.sample 1) := by
    have passes : (opened.resources.lookup (.replicate 16 7)).any (fun state =>
        (screen (Platform.sample 1 1).digests state (.sample 1) (.sample 1)).isOk) = true := by
      decide +kernel
    obtain ⟨state, found, ok⟩ := (Option.any_eq_true _ _).mp passes
    cases screened : screen (Platform.sample 1 1).digests state (.sample 1) (.sample 1) with
    | ok passed => exact ⟨state, found, passed, screened⟩
    | error answer =>
      rw [screened] at ok
      cases ok
  have ran : Execution.run (step sampleDevice .sample (Platform.sample 1 1).digests)
      (.new ((), [])) [.start .sample] = some opened := rfl
  have answers := claim opened (Execution.run_reach ran) (.sample 1) (.sample 1) injects _
    (moves_reach inputReplayCacheCapacity _) (.sample 150)
  rw [first_refused rfl, applied] at answers
  rcases answers with applied | replayed
  · cases applied
  · cases replayed

/-- After the left button was pressed, a resource holds it. -/
theorem input_in_step_pressed_button :
    ∃ id state input, (performs (.handle { sample 1 with event := .mouseButton .left true } (.sample 1))
        opened).resources.lookup id = some state ∧
      state.pressed.contains input ∧ AgentHeldInput.physical input = .button .left := by
  have ran : Execution.run (step sampleDevice .sample (Platform.sample 1 1).digests)
      (.new ((), [])) [.start .sample,
        .handle { sample 1 with event := .mouseButton .left true } (.sample 1)] =
      some (performs (.handle { sample 1 with
        event := .mouseButton .left true } (.sample 1)) opened) := rfl
  refine ((input_in_step (Platform.sample 1 1).device .sample (Platform.sample 1 1).digests () _
    (Execution.run_reach ran)).1.down (.button .left)).mp ?_
  decide +kernel

end InputResourceManager

end MiniRemoteDesktop.Agent
