/-
**Held input of the agent.**

* `Releasing` — what a clean-up can do: it adds no resource and no held input, and it sends the device
  releases only.
* `releaseAll_idle` — a clean-up that succeeds leaves nothing: no resource, no holder, nothing down.
-/

import MiniRemoteDesktop.Agent.Input

namespace MiniRemoteDesktop.Agent

open List (mem_cons mem_map mem_singleton)
open Input (InputEvent InputError HeldInput)
open Table

/-! ### Sets and counts -/

namespace PressedInputs

theorem contains_insert (pressed : PressedInputs) (input probe : AgentHeldInput) :
    (pressed.insert input).contains probe = if probe = input then true else pressed.contains probe := by
  by_cases same : probe = input
  · subst same
    cases probe <;> simp [insert, contains]
  · rw [if_neg same, Bool.eq_iff_iff]
    cases input <;> cases probe <;> simp only [contains, decide_eq_true_eq] <;> simp_all [insert]

theorem contains_remove (pressed : PressedInputs) (input probe : AgentHeldInput) :
    (pressed.remove input).contains probe =
      if probe = input then false else pressed.contains probe := by
  by_cases same : probe = input
  · subst same
    cases probe <;> simp [remove, contains]
  · rw [if_neg same, Bool.eq_iff_iff]
    cases input <;> cases probe <;> simp only [contains, decide_eq_true_eq] <;> simp_all [remove]

theorem contains_empty (input : AgentHeldInput) : empty.contains input = false := by
  cases input <;> simp [empty, contains]

end PressedInputs

theorem AgentHeldInput.physical_injective {first second : AgentHeldInput}
    (same : first.physical = second.physical) : first = second := by
  rcases first with ⟨_ | _⟩ | ⟨⟨_⟩⟩ <;> rcases second with ⟨_ | _⟩ | ⟨⟨_⟩⟩ <;>
    simp_all [AgentHeldInput.physical, toInputButton, toInputKey]

theorem ReleaseOrder.mem_held (order : ReleaseOrder) (state : InputResourceState)
    (input : AgentHeldInput) : input ∈ order.held state ↔ state.pressed.contains input := by
  cases input <;>
    simp [ReleaseOrder.held, PressedInputs.contains, order.mem_buttons, order.mem_keys]

namespace TrackedInputInjector

variable {σ : Type} (tracked : TrackedInputInjector σ)

theorem mem_pushUnique {α : Type} [DecidableEq α] (items : List α) (value probe : α) :
    probe ∈ pushUnique items value ↔ probe = value ∨ probe ∈ items := by
  unfold pushUnique
  split
  next present =>
    exact ⟨.inr, fun cases => cases.elim (· ▸ present) id⟩
  · simp [or_comm]

theorem active_update (held probe : HeldInput) (pressed : Bool) :
    (tracked.updatePressedState (held.event pressed)).active probe =
      if probe = held then pressed else tracked.active probe := by
  by_cases same : probe = held
  · subst same
    cases probe <;> cases pressed <;>
      simp [HeldInput.event, updatePressedState, active, mem_pushUnique]
  · rw [if_neg same, Bool.eq_iff_iff]
    cases held <;> cases probe <;> cases pressed <;> simp only [active, decide_eq_true_eq] <;>
      simp_all [HeldInput.event, updatePressedState, mem_pushUnique]

end TrackedInputInjector

namespace InputResourceManager

variable {σ : Type} (manager : InputResourceManager σ)

theorem holders_setHolders (count : Nat) (input probe : AgentHeldInput) :
    (manager.setHolders count input).holders probe =
      if probe = input then count else manager.holders probe := by
  cases input <;> cases probe <;> simp [setHolders, holders, lookup_insert_alist]
  all_goals split <;> rfl

theorem holders_removeHolders (input probe : AgentHeldInput) :
    (manager.removeHolders input).holders probe =
      if probe = input then 0 else manager.holders probe := by
  cases input <;> cases probe <;> simp [removeHolders, holders, lookup_erase_alist]
  all_goals split <;> rfl

theorem resources_setHolders (count : Nat) (input : AgentHeldInput) :
    (manager.setHolders count input).resources = manager.resources := by
  cases input <;> rfl

theorem resources_removeHolders (input : AgentHeldInput) :
    (manager.removeHolders input).resources = manager.resources := by
  cases input <;> rfl

theorem injector_setHolders (count : Nat) (input : AgentHeldInput) :
    (manager.setHolders count input).injector = manager.injector := by
  cases input <;> rfl

theorem injector_removeHolders (input : AgentHeldInput) :
    (manager.removeHolders input).injector = manager.injector := by
  cases input <;> rfl

variable {manager}

section

variable (id : Id) (state : InputResourceState)
include id state

theorem holders_setPressed (pressed : PressedInputs) (probe : AgentHeldInput) :
    (manager.setPressed id state pressed).holders probe = manager.holders probe := by
  cases probe <;> rfl

/-! ### Pressing and releasing -/

theorem holders_press (input probe : AgentHeldInput) :
    (manager.press id state input).holders probe =
      if probe = input then manager.holders input + 1 else manager.holders probe := by
  rw [press, holders_setHolders, holders_setPressed]

theorem resources_press (input : AgentHeldInput) :
    (manager.press id state input).resources =
      manager.resources.insert id { state with pressed := state.pressed.insert input } :=
  resources_setHolders ..

theorem injector_press (input : AgentHeldInput) :
    (manager.press id state input).injector = manager.injector :=
  injector_setHolders ..

theorem holders_release (input probe : AgentHeldInput) :
    (manager.release id state input).holders probe =
      if probe = input then manager.holders input - 1 else manager.holders probe := by
  unfold release
  split
  next few =>
    rw [holders_removeHolders, holders_setPressed]
    split
    · omega
    · rfl
  · rw [holders_setHolders, holders_setPressed]

theorem resources_release (input : AgentHeldInput) :
    (manager.release id state input).resources =
      manager.resources.insert id { state with pressed := state.pressed.remove input } := by
  unfold release
  split
  · exact resources_removeHolders ..
  · exact resources_setHolders ..

theorem injector_release (input : AgentHeldInput) :
    (manager.release id state input).injector = manager.injector := by
  unfold release
  split
  · exact injector_removeHolders ..
  · exact injector_setHolders ..

end

/-! ### Counting -/

/-- **The number of resources that hold an input.** -/
def pressing (resources : AList fun _ : Id => InputResourceState) (input : AgentHeldInput) : Nat :=
  weigh (fun state => (state.pressed.contains input).toNat) resources

variable {resources : AList fun _ : Id => InputResourceState}

variable {state : InputResourceState} {id : Id}

theorem pressing_insert (found : resources.lookup id = some state) (other : InputResourceState)
    (input : AgentHeldInput) :
    pressing (resources.insert id other) input + (state.pressed.contains input).toNat =
      pressing resources input + (other.pressed.contains input).toNat := by
  have weighed := weigh_erase (fun state => (state.pressed.contains input).toNat) found
  rw [pressing, pressing, weigh_insert]
  omega

theorem le_pressing (found : resources.lookup id = some state) (input : AgentHeldInput) :
    (state.pressed.contains input).toNat ≤ pressing resources input := by
  have weighed := weigh_erase (fun state => (state.pressed.contains input).toNat) found
  rw [pressing]
  omega

/-- **The tables and the device agree.** -/
structure Sound (manager : InputResourceManager σ) : Prop where
  keyed : Table.Every (fun id state => state.resource.resourceId = id) manager.resources
  counted : ∀ input, manager.holders input = pressing manager.resources input
  down : ∀ held, manager.injector.active held = true ↔
    ∃ input : AgentHeldInput, input.physical = held ∧ 0 < manager.holders input

theorem sound_new (inner : σ) : Sound (new inner) where
  keyed := by
    rintro id state ⟨⟩
  counted input := by cases input <;> rfl
  down held := by
    constructor
    · intro impossible
      cases held <;> simp [new, TrackedInputInjector.new, TrackedInputInjector.active] at impossible
    · rintro ⟨input, -, positive⟩
      cases input <;> exact absurd positive (Nat.lt_irrefl 0)

variable {input : AgentHeldInput} {pressed : Bool} {other : InputResourceState}

/-- Giving a resource another state with what it holds changed at one input only. -/
theorem pressing_update {probe : AgentHeldInput} (found : manager.resources.lookup id = some state)
    (differs : state.pressed.contains input = !pressed)
    (updated : ∀ probe, other.pressed.contains probe = if probe = input then pressed else
      state.pressed.contains probe) :
    pressing (manager.resources.insert id other) probe =
      if probe = input then
        if pressed then pressing manager.resources input + 1
        else pressing manager.resources input - 1
      else pressing manager.resources probe := by
  have balance := pressing_insert found other probe
  have bound := le_pressing found probe
  rw [updated probe] at balance
  by_cases same : probe = input
  · subst same
    rw [if_pos rfl] at balance ⊢
    rw [differs] at balance bound
    cases pressed
    · rw [if_neg (by decide)]
      simp only [Bool.not_false, Bool.toNat_true, Bool.toNat_false] at balance bound
      omega
    · rw [if_pos rfl]
      simp only [Bool.not_true, Bool.toNat_true, Bool.toNat_false] at balance
      omega
  · rw [if_neg same] at balance ⊢
    omega

/-! ### One transition -/

/-- The manager after a resource that holds `state` pressed or released an input. -/
def transitioned (manager : InputResourceManager σ) (id : Id) (state : InputResourceState)
    (input : AgentHeldInput) (pressed : Bool) : InputResourceManager σ :=
  if pressed then manager.press id state input else manager.release id state input

/-- What the resource holds after it. -/
def PressedInputs.after (held : PressedInputs) (input : AgentHeldInput) (pressed : Bool) :
    PressedInputs :=
  if pressed then held.insert input else held.remove input

theorem contains_after (held : PressedInputs) (input probe : AgentHeldInput) (pressed : Bool) :
    (PressedInputs.after held input pressed).contains probe =
      if probe = input then pressed else held.contains probe := by
  cases pressed
  · exact PressedInputs.contains_remove ..
  · exact PressedInputs.contains_insert ..

theorem holders_transitioned (id : Id) (state : InputResourceState) (input probe : AgentHeldInput)
    (pressed : Bool) : (manager.transitioned id state input pressed).holders probe =
      if probe = input then
        if pressed then manager.holders input + 1 else manager.holders input - 1
      else manager.holders probe := by
  cases pressed
  · exact holders_release ..
  · exact holders_press ..

theorem resources_transitioned (id : Id) (state : InputResourceState) (input : AgentHeldInput)
    (pressed : Bool) : (manager.transitioned id state input pressed).resources =
      manager.resources.insert id
        { state with pressed := PressedInputs.after state.pressed input pressed } := by
  cases pressed
  · exact resources_release ..
  · exact resources_press ..

theorem injector_transitioned (id : Id) (state : InputResourceState) (input : AgentHeldInput)
    (pressed : Bool) : (manager.transitioned id state input pressed).injector = manager.injector := by
  cases pressed
  · exact injector_release ..
  · exact injector_press ..

/-- The injector after the device was handed an event, whatever it answered. -/
def handed (injector : TrackedInputInjector σ) (event : InputEvent) (inner : σ) :
    TrackedInputInjector σ :=
  { injector with inner, sent := event :: injector.sent }

variable (device : PlatformInjector σ)

theorem inject_outcome (event : InputEvent) (manager : InputResourceManager σ) :
    ∃ inner, inject device event manager =
        ({ manager with injector := (handed manager.injector event inner).updatePressedState event },
          .ok ()) ∨
      ∃ error, inject device event manager =
        ({ manager with injector := handed manager.injector event inner }, .error error) := by
  rcases answered : device.inject manager.injector.inner event with ⟨inner, _ | _⟩
  next error =>
    exact ⟨inner, .inr ⟨error, by
      simp only [inject, TrackedInputInjector.inject, answered, handed]⟩⟩
  · exact ⟨inner, .inl (by simp only [inject, TrackedInputInjector.inject, answered, handed])⟩

/-- **Everything a transition can do**: nothing, because the resource holds the input as asked; fail
at the device; or change what the resource holds, with the device told if it has to be. -/
theorem transition_outcome (id : Id) (input : AgentHeldInput) (pressed : Bool)
    (manager : InputResourceManager σ) :
    (transition device id input pressed manager = (manager, .ok ()) ∧
      ∀ state, manager.resources.lookup id = some state → state.pressed.contains input = pressed) ∨
    ∃ state, manager.resources.lookup id = some state ∧ state.pressed.contains input = !pressed ∧
      ((∃ inner error, transition device id input pressed manager = ({ manager with
           injector := handed manager.injector (input.physical.event pressed) inner },
          .error error)) ∨
      (∃ inner, manager.isPhysical input pressed ∧ transition device id input pressed manager =
        ({ manager with
           injector := (handed manager.injector (input.physical.event pressed)
             inner).updatePressedState (input.physical.event pressed) }.transitioned id state input
          pressed, .ok ())) ∨
      (manager.isPhysical input pressed = false ∧ transition device id input pressed manager =
        (manager.transitioned id state input pressed, .ok ()))) := by
  cases found : manager.resources.lookup id with
  | none =>
    refine .inl ⟨?_, fun state impossible => nomatch impossible⟩
    simp only [transition, bind, Procedure.andThen, Procedure.read, found]
    rfl
  | some state =>
    by_cases same : state.pressed.contains input = pressed
    · refine .inl ⟨?_, fun other equal => Option.some.inj equal ▸ same⟩
      simp only [transition, bind, Procedure.andThen, Procedure.read, found, if_pos same]
      rfl
    · refine .inr ⟨state, rfl, by cases pressed <;> simp_all, ?_⟩
      cases physical : manager.isPhysical input pressed with
      | false =>
        refine .inr (.inr ⟨rfl, ?_⟩)
        cases pressed <;>
          simp [transition, bind, Procedure.andThen, Procedure.read, found, same, physical,
            Procedure.change, transitioned]
      | true =>
        obtain ⟨inner, answered | ⟨error, answered⟩⟩ :=
          inject_outcome device (input.physical.event pressed) manager
        · refine .inr (.inl ⟨inner, rfl, ?_⟩)
          cases pressed <;>
            simp [transition, bind, Procedure.andThen, Procedure.read, found, same, physical,
              answered, Procedure.change, transitioned]
        · refine .inl ⟨inner, error, ?_⟩
          cases pressed <;>
            simp [transition, bind, Procedure.andThen, Procedure.read, found, same, physical, answered]

/-! ### Transitions keep the tables and the device in step -/

variable {first : InputResourceManager σ}

/-- Only what is down, what the resources are and the counts matter. -/
theorem Sound.same {second : InputResourceManager σ} (sound : Sound first)
    (resources : second.resources = first.resources)
    (holders : ∀ input, second.holders input = first.holders input)
    (active : ∀ held, second.injector.active held = first.injector.active held) : Sound second where
  keyed := resources ▸ sound.keyed
  counted input := by rw [holders, resources, sound.counted]
  down held := by
    simp [active, holders, sound.down held]

/-- The device is told exactly when the count passes between zero and one. -/
theorem told_iff {active : Bool} (here : active = true ↔ 0 < manager.holders input)
    (held : (!pressed).toNat ≤ manager.holders input) :
    (if manager.isPhysical input pressed = true then pressed else active) = true ↔
      0 < (if pressed then manager.holders input + 1 else manager.holders input - 1) := by
  unfold isPhysical
  cases pressed
  · by_cases last : manager.holders input = 1
    · simp [last]
    · simp only [Bool.not_false, Bool.toNat_true] at held
      simp [last, here]
      omega
  · by_cases first : manager.holders input = 0
    · simp [first]
    · simp [first, here]
      omega

theorem Sound.transitioned {injector : TrackedInputInjector σ} (sound : Sound manager)
    (found : manager.resources.lookup id = some state)
    (differs : state.pressed.contains input = !pressed)
    (physical : ∀ held, injector.active held = if manager.isPhysical input pressed ∧ held =
      input.physical then pressed else manager.injector.active held) :
    Sound ({ manager with injector }.transitioned id state input pressed) := by
  have counts : ∀ probe : AgentHeldInput,
      ({ manager with injector }.transitioned id state input pressed).holders probe =
        if probe = input then
          if pressed then manager.holders input + 1 else manager.holders input - 1
        else manager.holders probe := by
    intro probe
    rw [holders_transitioned]
    cases input <;> cases probe <;> rfl
  have held : (!pressed).toNat ≤ manager.holders input := by
    rw [sound.counted, ← differs]
    exact le_pressing found input
  refine ⟨?_, ?_, ?_⟩
  · rw [resources_transitioned]
    exact sound.keyed.insert (sound.keyed id state found)
  · intro probe
    rw [counts, resources_transitioned]
    rw [pressing_update found differs fun probe => contains_after ..]
    simp only [sound.counted]
  · intro probe
    rw [injector_transitioned]
    show injector.active probe = true ↔ _
    rw [physical]
    by_cases same : probe = input.physical
    · subst same
      have here : manager.injector.active input.physical = true ↔ 0 < manager.holders input := by
        rw [sound.down]
        exact ⟨fun ⟨other, equal, positive⟩ => AgentHeldInput.physical_injective equal ▸ positive,
          fun positive => ⟨input, rfl, positive⟩⟩
      have after : (∃ other : AgentHeldInput, other.physical = input.physical ∧
          0 < ({ manager with injector }.transitioned id state input pressed).holders other) ↔
            0 < (if pressed then manager.holders input + 1 else manager.holders input - 1) := by
        constructor
        · rintro ⟨other, equal, positive⟩
          simpa [AgentHeldInput.physical_injective equal, counts] using positive
        · intro positive
          exact ⟨input, rfl, by rw [counts, if_pos rfl]; exact positive⟩
      simpa [after] using told_iff here held
    · rw [if_neg fun both => same both.2, sound.down]
      refine exists_congr fun other => and_congr_right fun equal => ?_
      have different : other ≠ input := fun equals => same (equals ▸ equal.symm)
      rw [counts, if_neg different]

theorem transition_sound (id : Id) (input : AgentHeldInput) (pressed : Bool) :
    Procedure.Moves (Procedure.Keeping Sound) (transition device id input pressed) := by
  intro manager sound
  rcases transition_outcome device id input pressed manager with
    ⟨unchanged, -⟩ | ⟨state, found, differs, ⟨inner, error, failed⟩ | ⟨inner, physical, done⟩ |
      ⟨silent, done⟩⟩
  · simp [unchanged, sound]
  · rw [failed]
    exact sound.same rfl (fun probe => by cases probe <;> rfl) fun probe => by cases probe <;> rfl
  · rw [done]
    refine sound.transitioned found differs fun probe => ?_
    rw [TrackedInputInjector.active_update]
    simp only [physical, true_and]
    cases probe <;> rfl
  · rw [done]
    refine sound.transitioned found differs fun probe => ?_
    rw [if_neg fun both => by rw [silent] at both; exact absurd both.1 (by decide)]

/-- The press or the release of a button or a key. -/
def isTransition : InputEvent → Bool
  | .mouseButton .. | .key .. => true
  | .mouseMove .. | .mouseWheel _ | .mouseHorizontalWheel _ => false

/-! ### What a clean-up can do -/

/-- The release of a button or a key. -/
def isRelease : InputEvent → Bool
  | .mouseButton _ pressed | .key _ pressed => !pressed
  | .mouseMove .. | .mouseWheel _ | .mouseHorizontalWheel _ => false

/-- **A clean-up** adds no resource and no held input, and sends releases only. -/
structure Releasing (before after : InputResourceManager σ) : Prop where
  shrinks : ∀ id state, after.resources.lookup id = some state →
    ∃ earlier, before.resources.lookup id = some earlier ∧
      state = { earlier with pressed := state.pressed } ∧
      ∀ input, state.pressed.contains input → earlier.pressed.contains input
  releases : ∃ events, after.injector.sent = events ++ before.injector.sent ∧
    ∀ event ∈ events, isRelease event

instance : IsPreorder (InputResourceManager σ) Releasing where
  refl _ := ⟨fun _ state found => ⟨state, found, rfl, fun _ held => held⟩, [], rfl, fun _ => nofun⟩
  trans first second third early late := by
    refine ⟨?_, ?_⟩
    · intro id state found
      obtain ⟨middle, between, same, below⟩ := late.shrinks id state found
      obtain ⟨earlier, before, equal, under⟩ := early.shrinks id middle between
      refine ⟨earlier, before, ?_, fun input held => under input (below input held)⟩
      rw [same, equal]
    · obtain ⟨old, sent, released⟩ := early.releases
      obtain ⟨new, later, also⟩ := late.releases
      refine ⟨new ++ old, by rw [later, sent, List.append_assoc], fun event listed => ?_⟩
      exact (List.mem_append.mp listed).elim (also event) (released event)

theorem isRelease_event (held : HeldInput) : isRelease (held.event false) = true := by
  cases held <;> rfl

theorem sent_update (injector : TrackedInputInjector σ) (event : InputEvent) :
    (injector.updatePressedState event).sent = injector.sent := by
  rcases event with _ | ⟨_, _ | _⟩ | _ | _ | ⟨_, _ | _⟩ <;> rfl

theorem shrinks_transitioned (same : first.resources = manager.resources)
    (found : manager.resources.lookup id = some state) (probe : Id) (later : InputResourceState)
    (there : (first.transitioned id state input false).resources.lookup probe = some later) :
    ∃ earlier, manager.resources.lookup probe = some earlier ∧
      later = { earlier with pressed := later.pressed } ∧
      ∀ input, later.pressed.contains input → earlier.pressed.contains input := by
  rw [resources_transitioned, same, lookup_insert_alist] at there
  split at there
  next equal =>
    cases there
    refine ⟨state, equal ▸ found, rfl, fun other held => ?_⟩
    rw [contains_after] at held
    split at held
    · cases held
    · exact held
  · exact ⟨later, there, rfl, fun _ held => held⟩

theorem transition_releasing (id : Id) (input : AgentHeldInput) :
    Procedure.Moves Releasing (transition device id input false) := by
  intro manager
  rcases transition_outcome device id input false manager with
    ⟨unchanged, -⟩ | ⟨state, found, -, ⟨inner, error, failed⟩ | ⟨inner, -, done⟩ | ⟨-, done⟩⟩
  · rw [unchanged]
    exact refl_of Releasing manager
  · rw [failed]
    refine ⟨fun _ state found => ⟨state, found, rfl, fun _ held => held⟩, [input.physical.event false],
      rfl, fun event listed => ?_⟩
    rw [mem_singleton.mp listed]
    exact isRelease_event _
  · rw [done]
    refine ⟨shrinks_transitioned rfl found, [input.physical.event false], ?_, fun event listed => ?_⟩
    · rw [injector_transitioned]
      exact sent_update ..
    · simp [mem_singleton.mp listed, isRelease_event _]
  · rw [done]
    refine ⟨shrinks_transitioned rfl found, [], ?_, fun _ => nofun⟩
    rw [injector_transitioned]
    rfl

/-- A release that succeeds leaves the resource without the input. -/
theorem transition_released (succeeded : (transition device id input false manager).2 = .ok ())
    (state : InputResourceState)
    (found : (transition device id input false manager).1.resources.lookup id = some state) :
    state.pressed.contains input = false := by
  rcases transition_outcome device id input false manager with
    ⟨unchanged, released⟩ | ⟨earlier, there, -, ⟨inner, error, failed⟩ | ⟨inner, -, done⟩ | ⟨-, done⟩⟩
  · rw [unchanged] at found
    exact released state found
  · simp [failed] at succeeded
  all_goals
    rw [done] at found
    rw [resources_transitioned, lookup_insert_alist, if_pos rfl] at found
    cases found
    simp [contains_after]

theorem releases_released {inputs : List AgentHeldInput} {manager : InputResourceManager σ}
    (succeeded : (Procedure.sweep (fun input => transition device id input false) inputs manager).2
      = .ok ())
    (state : InputResourceState)
    (found : (Procedure.sweep (fun input => transition device id input false) inputs
      manager).1.resources.lookup id = some state) :
    ∀ input ∈ inputs, state.pressed.contains input = false := by
  induction inputs generalizing manager with
  | nil => exact fun _ => nofun
  | cons first rest ih =>
    obtain ⟨here, later⟩ := Procedure.sweep_ok succeeded
    intro input listed
    rcases mem_cons.mp listed with rfl | listed
    · -- what is released stays released: the rest of the sweep adds nothing
      obtain ⟨earlier, there, -, below⟩ :=
        (Procedure.Moves.sweep (R := Releasing) (fun _ _ => transition_releasing device id _)
          (transition device id input false manager).1).shrinks id state found
      have absent := transition_released device here earlier there
      by_contra held
      simp [below input (by simpa using held)] at absent
    · exact ih later found input listed

variable (order : ReleaseOrder)

theorem releaseState_releasing (state : InputResourceState) :
    Procedure.Moves Releasing (releaseState device order state) :=
  Procedure.Moves.sweep fun _ _ => transition_releasing device _ _

theorem releaseState_sound (state : InputResourceState) :
    Procedure.Moves (Procedure.Keeping Sound) (releaseState device order state) :=
  Procedure.Moves.sweep fun _ _ => transition_sound device _ _ _

/-- What the copies hold covers what their resources hold. -/
def Covered (copies : List InputResourceState) (manager : InputResourceManager σ) : Prop :=
  ∀ copy ∈ copies, ∀ state, manager.resources.lookup copy.resource.resourceId = some state →
    ∀ input, state.pressed.contains input → copy.pressed.contains input

variable {copies : List InputResourceState}

theorem Covered.releasing {later : InputResourceManager σ} (covered : Covered copies manager)
    (releasing : Releasing manager later) :
    Covered copies later := by
  intro copy listed state found input held
  obtain ⟨earlier, there, -, below⟩ := releasing.shrinks _ state found
  exact covered copy listed earlier there input (below input held)

variable {copy : InputResourceState}

theorem releaseState_emptied (covered : Covered [copy] manager)
    (succeeded : (releaseState device order copy manager).2 = .ok ()) (state : InputResourceState)
    (found : (releaseState device order copy manager).1.resources.lookup copy.resource.resourceId =
      some state)
    (input : AgentHeldInput) : state.pressed.contains input = false := by
  by_contra held
  have kept := covered.releasing (releaseState_releasing device order copy manager) copy
    (.head _) state found input (by simpa using held)
  have released := releases_released device succeeded state found input
    ((order.mem_held copy input).mpr kept)
  exact held released

theorem pressing_erase
    (nothing : ∀ state, resources.lookup id = some state → ∀ input, state.pressed.contains input = false)
    (input : AgentHeldInput) :
    pressing (resources.erase id) input = pressing resources input := by
  cases found : resources.lookup id with
  | none => rw [erase_of_missing found]
  | some state =>
    have weighed := weigh_erase (fun state => (state.pressed.contains input).toNat) found
    simp only [nothing state found input, Bool.toNat_false, Nat.zero_add] at weighed
    exact weighed

theorem Sound.removeResource (sound : Sound manager)
    (nothing : ∀ state, manager.resources.lookup id = some state → ∀ input, state.pressed.contains
      input = false) :
    Sound (manager.removeResource id) where
  keyed := sound.keyed.erase id
  counted input := by
    show manager.holders input = pressing (manager.resources.erase id) input
    rw [sound.counted, pressing_erase nothing]
  down := sound.down

theorem removeResource_releasing (id : Id) : Releasing manager (manager.removeResource id) := by
  refine ⟨fun probe state found => ⟨state, ?_, rfl, fun _ held => held⟩, [], rfl, fun _ => nofun⟩
  have kept : (manager.resources.erase id).lookup probe = some state := found
  rw [lookup_erase_alist] at kept
  split at kept
  · cases kept
  · exact kept

theorem retire_releasing (copy : InputResourceState) :
    Procedure.Moves Releasing (retire device order copy) :=
  .bind (releaseState_releasing device order copy) fun _ =>
    .change fun _ => removeResource_releasing _

theorem retire_cases (copy : InputResourceState) (manager : InputResourceManager σ) :
    ((releaseState device order copy manager).2 = .ok () ∧ retire device order copy manager =
      ((releaseState device order copy manager).1.removeResource copy.resource.resourceId, .ok ())) ∨
    ∃ error, retire device order copy manager =
      ((releaseState device order copy manager).1, .error error) := by
  rcases released : releaseState device order copy manager with ⟨later, error | _⟩
  · refine .inr ⟨error, ?_⟩
    simp only [retire, bind, Procedure.andThen, released]
  · refine .inl ⟨rfl, ?_⟩
    simp only [retire, bind, Procedure.andThen, released]
    rfl

theorem retire_sound (listed : copy ∈ copies) :
    Procedure.Moves (Procedure.Keeping fun manager => Sound manager ∧ Covered copies manager)
      (retire device order copy) := by
  rintro manager ⟨sound, covered⟩
  refine ⟨?_, covered.releasing (retire_releasing device order copy manager)⟩
  have kept := releaseState_sound device order copy manager sound
  rcases retire_cases device order copy manager with ⟨succeeded, done⟩ | ⟨error, failed⟩
  · rw [done]
    refine kept.removeResource fun state found => ?_
    refine releaseState_emptied device order (fun other among => ?_) succeeded state found
    rw [mem_singleton.mp among]
    exact covered copy listed
  · simp [failed, kept]

/-! ### Releasing everything -/

theorem covered_resources (sound : Sound manager) :
    Covered (order.resources manager.resources) manager := by
  intro copy listed state found input held
  obtain ⟨⟨id, other⟩, among, rfl⟩ := mem_map.mp ((order.resources_perm _).mem_iff.mp listed)
  have there := (mem_entries_alist _ _ _).mp among
  rw [sound.keyed id other there, there] at found
  cases found
  exact held

theorem retireAll_releasing (copies : List InputResourceState) :
    Procedure.Moves Releasing (Procedure.sweep (retire device order) copies) :=
  .sweep fun _ _ => retire_releasing device order _

/-- Retiring copies of what is there keeps the tables and the device in step. -/
theorem retireAll_sound (sound : Sound manager) (among : copies ⊆ order.resources manager.resources) :
    Sound (Procedure.sweep (retire device order) copies manager).1 := by
  have covered : Covered copies manager := fun copy listed =>
    covered_resources order sound copy (among listed)
  have kept := Procedure.Moves.sweep
    (R := Procedure.Keeping fun manager => Sound manager ∧ Covered copies manager)
    fun copy listed => retire_sound device order listed
  exact (kept manager ⟨sound, covered⟩).1

theorem retireAll_gone {manager : InputResourceManager σ}
    (succeeded : (Procedure.sweep (retire device order) copies manager).2 = .ok ()) :
    ∀ copy ∈ copies, (Procedure.sweep (retire device order) copies manager).1.resources.lookup
      copy.resource.resourceId = none := by
  induction copies generalizing manager with
  | nil => exact fun _ => nofun
  | cons first rest ih =>
    obtain ⟨here, later⟩ := Procedure.sweep_ok succeeded
    intro copy listed
    rcases mem_cons.mp listed with rfl | listed
    · have removed : (retire device order copy manager).1.resources.lookup
          copy.resource.resourceId = none := by
        rcases retire_cases device order copy manager with ⟨-, done⟩ | ⟨error, failed⟩
        · rw [done]
          exact (lookup_erase_alist _ _ _).trans (if_pos rfl)
        · simp [failed] at here
      -- the rest of the sweep brings no resource back
      cases found : (Procedure.sweep (retire device order) (copy :: rest) manager).1.resources.lookup
          copy.resource.resourceId with
      | none => rfl
      | some state =>
        obtain ⟨earlier, there, -⟩ :=
          (retireAll_releasing device order rest _).shrinks _ state found
        simp [removed] at there
    · exact ih later copy listed

theorem releaseSession_sound (sessionId : SessionId) :
    Procedure.Moves (Procedure.Keeping Sound) (releaseSession device order sessionId) :=
  fun _ sound => retireAll_sound device order sound (List.filter_subset_self _)

theorem releaseSession_releasing (sessionId : SessionId) :
    Procedure.Moves Releasing (releaseSession device order sessionId) :=
  fun manager => retireAll_releasing device order _ manager

/-- **Nothing is held**: no resource, no holder, nothing physically down. -/
structure Idle (manager : InputResourceManager σ) : Prop where
  resources : manager.resources = ∅
  buttonHolders : manager.buttonHolders = ∅
  keyHolders : manager.keyHolders = ∅
  activeButtons : manager.injector.activeButtons = []
  activeKeys : manager.injector.activeKeys = []

theorem releaseAll_cases (manager : InputResourceManager σ) :
    let retired := Procedure.sweep (retire device order) (order.resources manager.resources) manager
    (retired.2 = .ok () ∧ releaseAll device order manager =
      ({ retired.1 with buttonHolders := ∅, keyHolders := ∅ }, .ok ())) ∨
    ∃ error, releaseAll device order manager = (retired.1, .error error) := by
  rcases retired : Procedure.sweep (retire device order) (order.resources manager.resources) manager
    with ⟨later, error | _⟩
  · refine .inr ⟨error, ?_⟩
    simp only [releaseAll, bind, Procedure.andThen, Procedure.read, retired]
  · refine .inl ⟨rfl, ?_⟩
    simp only [releaseAll, bind, Procedure.andThen, Procedure.read, retired]
    rfl

theorem releaseAll_releasing : Procedure.Moves Releasing (releaseAll device order) := by
  intro manager
  have kept := retireAll_releasing device order (order.resources manager.resources) manager
  rcases releaseAll_cases device order manager with ⟨-, done⟩ | ⟨error, failed⟩
  · rw [done]
    exact ⟨kept.shrinks, kept.releases⟩
  · simp [failed, kept]

theorem retireAll_empty (sound : Sound manager)
    (succeeded : (Procedure.sweep (retire device order) (order.resources manager.resources)
      manager).2 = .ok ()) :
    (Procedure.sweep (retire device order) (order.resources manager.resources)
      manager).1.resources = ∅ := by
  have gone := retireAll_gone device order succeeded
  have kept := retireAll_releasing device order (order.resources manager.resources) manager
  refine AList.ext (List.eq_nil_iff_forall_not_mem.mpr ?_)
  rintro ⟨id, state⟩ listed
  have found := (mem_entries_alist _ _ _).mp listed
  obtain ⟨earlier, there, -⟩ := kept.shrinks id state found
  have among : earlier ∈ order.resources manager.resources :=
    (order.resources_perm _).mem_iff.mpr
      (mem_map.mpr ⟨⟨id, earlier⟩, (mem_entries_alist _ _ _).mpr there, rfl⟩)
  have missing := gone earlier among
  rw [sound.keyed id earlier there, found] at missing
  cases missing

/-- **A clean-up that succeeds leaves nothing held.** -/
theorem releaseAll_idle (sound : Sound manager)
    (succeeded : (releaseAll device order manager).2 = .ok ()) :
    Idle (releaseAll device order manager).1 := by
  rcases releaseAll_cases device order manager with ⟨done, left⟩ | ⟨error, failed⟩
  · have empty := retireAll_empty device order sound done
    have kept := retireAll_sound device order sound (List.Subset.refl _)
    have up : ∀ held, (Procedure.sweep (retire device order) (order.resources manager.resources)
        manager).1.injector.active held ≠ true := by
      intro held active
      obtain ⟨input, -, positive⟩ := (kept.down held).mp active
      rw [kept.counted, empty] at positive
      exact absurd positive (Nat.lt_irrefl 0)
    rw [left]
    refine ⟨empty, rfl, rfl, List.eq_nil_iff_forall_not_mem.mpr fun button listed => ?_,
      List.eq_nil_iff_forall_not_mem.mpr fun key listed => ?_⟩
    · exact up (.button button) (decide_eq_true listed)
    · exact up (.key key) (decide_eq_true listed)
  · simp [failed] at succeeded

theorem Idle.sound (idle : Idle manager) : Sound manager where
  keyed := by
    rw [idle.resources]
    rintro id state ⟨⟩
  counted input := by
    rw [idle.resources]
    cases input with
    | button button => rw [holders, idle.buttonHolders]; rfl
    | key key => rw [holders, idle.keyHolders]; rfl
  down held := by
    constructor
    · intro active
      cases held with
      | button button => simp [TrackedInputInjector.active, idle.activeButtons] at active
      | key key => simp [TrackedInputInjector.active, idle.activeKeys] at active
    · rintro ⟨input, -, positive⟩
      cases input with
      | button button =>
        rw [holders, idle.buttonHolders] at positive
        exact absurd positive (Nat.lt_irrefl 0)
      | key key =>
        rw [holders, idle.keyHolders] at positive
        exact absurd positive (Nat.lt_irrefl 0)

theorem releaseAll_sound : Procedure.Moves (Procedure.Keeping Sound) (releaseAll device order) := by
  intro manager sound
  rcases answered : (releaseAll device order manager).2 with error | _
  · rcases releaseAll_cases device order manager with ⟨-, done⟩ | ⟨_, failed⟩
    · simp [done] at answered
    · rw [failed]
      exact retireAll_sound device order sound (List.Subset.refl _)
  · exact (releaseAll_idle device order sound answered).sound

/-! ### With nothing held, a clean-up does nothing -/

theorem resources_empty (idle : Idle manager) : order.resources manager.resources = [] := by
  have perm := order.resources_perm manager.resources
  rw [idle.resources] at perm ⊢
  exact List.perm_nil.mp perm

theorem Idle.releaseAll (idle : Idle manager) :
    Idle (releaseAll device order manager).1 := by
  refine releaseAll_idle device order idle.sound ?_
  simp only [InputResourceManager.releaseAll, bind, Procedure.andThen, Procedure.read,
    resources_empty order idle]
  rfl

theorem Idle.releaseSession (idle : Idle manager) (sessionId : SessionId) :
    (releaseSession device order sessionId manager).1 = manager := by
  simp only [InputResourceManager.releaseSession, bind, Procedure.andThen, Procedure.read,
    resources_empty order idle]
  rfl

theorem Idle.stop (idle : Idle manager) (id : Id) : (stop device order id manager).1 = manager := by
  simp [InputResourceManager.stop, idle.resources]

/-! ### Stopping, starting and injecting -/

theorem stop_releasing (id : Id) : Releasing manager (stop device order id manager).1 := by
  unfold InputResourceManager.stop
  split
  · exact refl_of Releasing _
  next state found =>
    have released := releaseState_releasing device order state manager
    simp only
    split
    · exact trans_of Releasing released (removeResource_releasing _)
    · exact released

theorem stop_sound (id : Id) (sound : Sound manager) : Sound (stop device order id manager).1 := by
  unfold InputResourceManager.stop
  split
  · exact sound
  next state found =>
    have kept := releaseState_sound device order state manager sound
    simp only
    split
    next succeeded =>
      refine kept.removeResource fun later there => ?_
      have covered : Covered [state] manager := by
        intro copy listed other same input held
        rw [mem_singleton.mp listed] at same ⊢
        rw [sound.keyed id state found, found] at same
        cases same
        exact held
      refine releaseState_emptied device order covered succeeded later ?_
      rw [sound.keyed id state found]
      exact there
    · exact kept

theorem Sound.opened (sound : Sound manager) (state : InputResourceState)
    (fresh : state.resource.resourceId ∉ manager.resources) (nothing : state.pressed = .empty) :
    Sound { manager with
      resources := manager.resources.insert state.resource.resourceId state } where
  keyed := sound.keyed.insert rfl
  counted input := by
    have missing := AList.lookup_eq_none.mpr fresh
    refine (sound.counted input).trans ?_
    simp [pressing, weigh_insert_new _ _ missing, nothing, PressedInputs.contains_empty]
  down := sound.down

/-- A start refuses, or opens a resource that was not there. -/
theorem start_cases (command : AuthorizedCommand) (manager : InputResourceManager σ) :
    (∃ rejection, start device command manager = (manager, .error rejection)) ∨
    ∃ resource, authorizeInputResource command = some resource ∧
      resource.resourceId ∉ manager.resources ∧ start device command manager = ({ manager with
           resources := manager.resources.insert resource.resourceId
             { resource, pressed := .empty, lastSequence := 0, replay := ∅ } }, .ok ()) := by
  by_cases starts : command.command.isStartInput
  · by_cases available : device.isAvailable manager.injector.inner
    · cases opened : authorizeInputResource command with
      | none =>
        refine .inl ⟨.grant, ?_⟩
        simp [start, bind, Procedure.andThen, Procedure.read, starts, available, opened, Procedure.fail]
      | some resource =>
        cases taken : manager.isTaken resource with
        | true =>
          refine .inl ⟨.replay, ?_⟩
          simp [start, bind, Procedure.andThen, Procedure.read, starts, available, opened,
            Procedure.fail, taken]
        | false =>
          refine .inr ⟨resource, rfl, fun there => ?_, ?_⟩
          · simp [isTaken, there] at taken
          · simp [start, bind, Procedure.andThen, Procedure.read, starts, available, opened,
              Procedure.change, taken]
    · refine .inl ⟨.unsupported, ?_⟩
      simp [start, bind, Procedure.andThen, Procedure.read, starts, available, Procedure.fail]
  · refine .inl ⟨.grant, ?_⟩
    simp [start, bind, Procedure.andThen, starts, Procedure.fail]

theorem start_sound (command : AuthorizedCommand) :
    Procedure.Moves (Procedure.Keeping Sound) (start device command) := by
  intro manager sound
  rcases start_cases device command manager with ⟨rejection, refused⟩ | ⟨resource, -, fresh, opened⟩
  · simp [refused, sound]
  · rw [opened]
    exact sound.opened { resource, pressed := .empty, lastSequence := 0, replay := ∅ } fresh rfl

theorem inject_sound (event : InputEvent) (moves : isTransition event = false) :
    Procedure.Moves (Procedure.Keeping Sound) (inject device event) := by
  intro manager sound
  have same : ∀ inner held, ((handed manager.injector event inner).updatePressedState event).active
      held = manager.injector.active held := by
    intro inner held
    cases event with
    | mouseMove | mouseWheel | mouseHorizontalWheel => cases held <;> rfl
    | mouseButton | key => cases moves
  obtain ⟨inner, done | ⟨error, failed⟩⟩ := inject_outcome device event manager
  · rw [done]
    exact sound.same rfl (fun probe => by cases probe <;> rfl) (same inner)
  · rw [failed]
    exact sound.same rfl (fun probe => by cases probe <;> rfl) fun held => by cases held <;> rfl

theorem injectValidated_sound (id : Id) (event : InputEventPayload) :
    Procedure.Moves (Procedure.Keeping Sound) (injectValidated device order id event) := by
  cases event with
  | mouseMove | mouseWheel | mouseHorizontalWheel => exact inject_sound device _ rfl
  | mouseButton | key => exact transition_sound device _ _ _
  | releaseAll =>
    refine .bind .read fun seen => ?_
    split
    · exact .pure _
    · exact releaseState_sound device order _

theorem Sound.remembered (sound : Sound manager) (found : manager.resources.lookup id = some state)
    (resource : other.resource = state.resource) (pressed : other.pressed = state.pressed) :
    Sound { manager with resources := manager.resources.insert id other } where
  keyed := sound.keyed.insert (resource ▸ sound.keyed id state found)
  counted input := by
    have balance := pressing_insert found other input
    rw [pressed] at balance
    exact (sound.counted input).trans (Nat.add_right_cancel balance).symm
  down := sound.down

theorem handle_sound (digests : Digests) (envelope : InputEventEnvelope)
    (context : ExecutionContext) (sound : Sound manager) :
    Sound (handle device order digests envelope context manager).1 := by
  unfold handle
  split
  · exact sound
  · split
    · exact sound
    next event _ =>
      have kept := injectValidated_sound device order envelope.resourceId event manager sound
      simp only
      split
      · exact kept
      next found =>
        exact kept.remembered found rfl rfl

/-! ### What an event hands to the device -/

/-- The scope that an event at the device needs. -/
def neededScope : InputEvent → PermissionScope
  | .mouseMove .. | .mouseButton .. | .mouseWheel _ | .mouseHorizontalWheel _ => .inputPointer
  | .key .. => .inputKeyboard

/-- **Resources stay what they are**, none appears, and the device is handed allowed events only. -/
structure Handling (allowed : InputEvent → Prop) (before after : InputResourceManager σ) : Prop where
  inherits : ∀ id state, after.resources.lookup id = some state →
    ∃ earlier, before.resources.lookup id = some earlier ∧ state.resource = earlier.resource
  sends : ∃ events, after.injector.sent = events ++ before.injector.sent ∧
    ∀ event ∈ events, allowed event

theorem Handling.refl (allowed : InputEvent → Prop) (manager : InputResourceManager σ) :
    Handling allowed manager manager :=
  ⟨fun _ state found => ⟨state, found, rfl⟩, [], rfl, fun _ => nofun⟩

variable {allowed : InputEvent → Prop}

variable {before : InputResourceManager σ}

theorem Handling.mono {more : InputEvent → Prop} {after : InputResourceManager σ}
    (handling : Handling allowed before after) (allows : ∀ event, allowed event → more event) :
    Handling more before after := by
  obtain ⟨events, sent, within⟩ := handling.sends
  exact ⟨handling.inherits, events, sent, fun event listed => allows event (within event listed)⟩

theorem Releasing.handling {after : InputResourceManager σ} (releasing : Releasing before after)
    (allows : ∀ event, isRelease event → allowed event) :
    Handling allowed before after := by
  refine ⟨fun id state found => ?_, ?_⟩
  · obtain ⟨earlier, there, same, -⟩ := releasing.shrinks id state found
    exact ⟨earlier, there, by rw [same]⟩
  · obtain ⟨events, sent, released⟩ := releasing.releases
    exact ⟨events, sent, fun event listed => allows event (released event listed)⟩

theorem inject_handling {event : InputEvent} (allows : allowed event)
    (manager : InputResourceManager σ) : Handling allowed manager (inject device event manager).1 := by
  obtain ⟨inner, done | ⟨error, failed⟩⟩ := inject_outcome device event manager
  · rw [done]
    refine ⟨fun _ state found => ⟨state, found, rfl⟩, [event], sent_update _ _, fun other listed => ?_⟩
    rw [mem_singleton.mp listed]
    exact allows
  · rw [failed]
    refine ⟨fun _ state found => ⟨state, found, rfl⟩, [event], rfl, fun other listed => ?_⟩
    rw [mem_singleton.mp listed]
    exact allows

theorem transition_handling (allows : allowed (input.physical.event pressed)) (id : Id)
    (manager : InputResourceManager σ) :
    Handling allowed manager (transition device id input pressed manager).1 := by
  have same : ∀ (first : InputResourceManager σ) (state : InputResourceState),
      first.resources = manager.resources → manager.resources.lookup id = some state →
      ∀ probe later, (first.transitioned id state input pressed).resources.lookup probe = some later →
        ∃ earlier, manager.resources.lookup probe = some earlier ∧
          later.resource = earlier.resource := by
    intro first state equal found probe later there
    rw [resources_transitioned, equal, lookup_insert_alist] at there
    split at there
    next is =>
      cases there
      exact ⟨state, is ▸ found, rfl⟩
    · exact ⟨later, there, rfl⟩
  have only : ∀ event ∈ [input.physical.event pressed], allowed event := by
    intro event listed
    rw [mem_singleton.mp listed]
    exact allows
  rcases transition_outcome device id input pressed manager with
    ⟨unchanged, -⟩ | ⟨state, found, -, ⟨inner, error, failed⟩ | ⟨inner, -, done⟩ | ⟨-, done⟩⟩
  · rw [unchanged]
    exact .refl allowed manager
  · rw [failed]
    exact ⟨fun _ state found => ⟨state, found, rfl⟩, _, rfl, only⟩
  · rw [done]
    refine ⟨same _ state rfl found, [input.physical.event pressed], ?_, only⟩
    rw [injector_transitioned]
    exact sent_update ..
  · rw [done]
    refine ⟨same _ state rfl found, [], ?_, fun _ => nofun⟩
    rw [injector_transitioned]
    rfl

/-- What may come of an event: releases, and what the scope of the event covers. -/
def Follows (payload : InputEventPayload) (event : InputEvent) : Prop :=
  isRelease event ∨ payload.requiredScope = some (neededScope event)

theorem injectValidated_handling (id : Id) (payload : InputEventPayload)
    (manager : InputResourceManager σ) :
    Handling (Follows payload) manager (injectValidated device order id payload manager).1 := by
  cases payload with
  | mouseMove | mouseWheel | mouseHorizontalWheel => exact inject_handling device (.inr rfl) manager
  | mouseButton | key => exact transition_handling device (.inr rfl) id manager
  | releaseAll =>
    have moves : Procedure.Moves Releasing (injectValidated device order id .releaseAll) := by
      refine .bind .read fun seen => ?_
      split
      · exact .pure _
      · exact releaseState_releasing device order _
    exact (moves manager).handling fun event released => .inl released

/-- **The device is handed what a screened event allows.** -/
theorem handle_handling (digests : Digests) (envelope : InputEventEnvelope)
    (context : ExecutionContext) (manager : InputResourceManager σ) :
    Handling (fun event => ∃ state commitment payload,
        manager.resources.lookup envelope.resourceId = some state ∧
        screen digests state envelope context = .ok (commitment, payload) ∧ Follows payload event)
      manager (handle device order digests envelope context manager).1 := by
  unfold handle
  split
  · exact .refl _ manager
  next state found =>
    split
    · exact .refl _ manager
    next commitment payload screened =>
      have handles := injectValidated_handling device order envelope.resourceId payload manager
      obtain ⟨events, sent, follow⟩ := handles.sends
      have allowed : ∀ event ∈ events, ∃ state commitment payload,
          manager.resources.lookup envelope.resourceId = some state ∧
          screen digests state envelope context = .ok (commitment, payload) ∧
          Follows payload event :=
        fun event listed => ⟨state, commitment, payload, found, screened, follow event listed⟩
      simp only
      split
      · exact ⟨handles.inherits, events, sent, allowed⟩
      next later there =>
        refine ⟨fun probe last is => ?_, events, sent, allowed⟩
        rw [lookup_insert_alist] at is
        split at is
        next same =>
          cases is
          subst same
          exact handles.inherits _ later there
        · exact handles.inherits probe last is

end InputResourceManager

end MiniRemoteDesktop.Agent
