/-
**Held input and the physical device.**

The tables of the registry say which sessions hold which buttons and keys; the device knows only
the presses and releases it accepted. `Refines` relates the two: every count is the number of
holders, no count is zero, and an input has a count exactly when the last event the device accepted
for it was a press.

* `transitionSession_outcome` — everything a press or release can do, with the injection in it.
* `perform_refines` — every call refines: all of them touch the tables through transitions only.
-/

import MiniRemoteDesktop.Input.Registry

namespace MiniRemoteDesktop.Input

open PressedTables
open SessionPressedInput

/-! ### Tables -/

namespace SessionPressedInput

theorem contains_insert (state : SessionPressedInput) (input other : HeldInput) :
    (state.insert input).contains other ↔ other = input ∨ state.contains other := by
  cases input <;> cases other <;> simp only [contains, decide_eq_true_eq] <;> simp [insert]

theorem contains_remove (state : SessionPressedInput) (input other : HeldInput) :
    (state.remove input).contains other ↔ other ≠ input ∧ state.contains other := by
  cases input <;> cases other <;> simp only [contains, decide_eq_true_eq] <;> simp [remove]

theorem contains_empty (input : HeldInput) : ¬ empty.contains input := by
  cases input <;> simp [empty, contains]

end SessionPressedInput

variable {sessionId : SessionId} {input : HeldInput}

namespace PressedTables

/-- **The sessions that hold an input.** -/
def holders (tables : PressedTables) (input : HeldInput) : Finset SessionId :=
  tables.pressedBySession.keys.filter fun sessionId => tables.heldBySession sessionId input

theorem heldBySession_iff {tables : PressedTables} :
    tables.heldBySession sessionId input ↔
      ∃ state, tables.pressedBySession.lookup sessionId = some state ∧ state.contains input := by
  exact Option.any_eq_true _ _

theorem mem_holders {tables : PressedTables} :
    sessionId ∈ tables.holders input ↔ tables.heldBySession sessionId input := by
  unfold holders
  rw [Finset.mem_filter, and_iff_right_iff_imp]
  intro held
  obtain ⟨state, found, _⟩ := heldBySession_iff.mp held
  exact Finmap.mem_iff.mpr ⟨state, found⟩

variable (tables : PressedTables)

theorem holderCount_setHolderCount (count : Nat) (input other : HeldInput) :
    (tables.setHolderCount count input).holderCount other =
      if other = input then some count else tables.holderCount other := by
  cases input <;> cases other <;> simp [setHolderCount, holderCount, Table.lookup_insert_eq]

theorem holderCount_removeHolderCount (input other : HeldInput) :
    (tables.removeHolderCount input).holderCount other =
      if other = input then none else tables.holderCount other := by
  cases input <;> cases other <;> simp [removeHolderCount, holderCount, Table.lookup_erase_eq]

theorem setHolderCount_pressed (count : Nat) (input : HeldInput) :
    (tables.setHolderCount count input).pressedBySession = tables.pressedBySession := by
  cases input <;> rfl

theorem removeHolderCount_pressed (input : HeldInput) :
    (tables.removeHolderCount input).pressedBySession = tables.pressedBySession := by
  cases input <;> rfl

variable {second first : PressedTables}

/-- The count tables, which pressing and releasing in a session's own set leave alone. -/
theorem holderCount_of_counts (buttons : first.buttonHolderCounts = second.buttonHolderCounts)
    (keys : first.keyHolderCounts = second.keyHolderCounts) (input : HeldInput) :
    first.holderCount input = second.holderCount input := by
  cases input with
  | button held => rw [holderCount, holderCount, buttons]
  | key held => rw [holderCount, holderCount, keys]

theorem heldBySession_of_pressed (pressed : first.pressedBySession = second.pressedBySession)
    (sessionId : SessionId) (input : HeldInput) :
    first.heldBySession sessionId input = second.heldBySession sessionId input := by
  simp [heldBySession, pressed]

/-! ### Pressing -/

theorem holderCount_press (sessionId : SessionId) (input other : HeldInput) (holders : Nat) :
    (tables.press sessionId input holders).holderCount other =
      if other = input then some (holders + 1) else tables.holderCount other := by
  unfold press
  rw [holderCount_setHolderCount]
  rfl

theorem heldBySession_press (sessionId probe : SessionId) (input other : HeldInput) (holders : Nat) :
    (tables.press sessionId input holders).heldBySession probe other ↔
      (probe = sessionId ∧ other = input) ∨ tables.heldBySession probe other := by
  unfold press
  rw [heldBySession_of_pressed (setHolderCount_pressed ..), heldBySession_iff, heldBySession_iff]
  simp only [insertPressed, Table.lookup_insert_eq]
  by_cases same : probe = sessionId
  · subst same
    cases tables.pressedBySession.lookup probe with
    | none => simp [contains_insert, contains_empty]
    | some state => simp [contains_insert]
  · simp [same]

theorem holders_press (sessionId : SessionId) (input other : HeldInput) (holders : Nat) :
    (tables.press sessionId input holders).holders other =
      if other = input then insert sessionId (tables.holders other) else tables.holders other := by
  ext probe
  rw [mem_holders, heldBySession_press]
  split
  next same =>
    simp [mem_holders, same]
  next different =>
    simp [mem_holders, different]

/-! ### Releasing -/

theorem holderCount_removeEmptySessionState (sessionId : SessionId) (input : HeldInput) :
    (tables.removeEmptySessionState sessionId).holderCount input = tables.holderCount input := by
  unfold removeEmptySessionState
  split
  · exact holderCount_of_counts rfl rfl input
  · rfl

theorem heldBySession_removeEmptySessionState (sessionId probe : SessionId) (input : HeldInput) :
    (tables.removeEmptySessionState sessionId).heldBySession probe input ↔
      tables.heldBySession probe input := by
  unfold removeEmptySessionState
  split
  next emptied =>
    obtain ⟨state, found, empty⟩ := (Option.any_eq_true _ _).mp emptied
    rw [heldBySession_iff, heldBySession_iff]
    by_cases same : probe = sessionId
    · subst same
      have empty : state = .empty := of_decide_eq_true empty
      simp [found, empty, contains_empty]
    · simp [same]
  · rfl

theorem holderCount_removePressed (sessionId : SessionId) (input other : HeldInput) :
    (tables.removePressed sessionId input).holderCount other = tables.holderCount other := by
  unfold removePressed
  split
  · rfl
  · exact holderCount_of_counts rfl rfl other

theorem heldBySession_removePressed (sessionId probe : SessionId) (input other : HeldInput) :
    (tables.removePressed sessionId input).heldBySession probe other ↔
      ¬ (probe = sessionId ∧ other = input) ∧ tables.heldBySession probe other := by
  unfold removePressed
  rw [heldBySession_iff, heldBySession_iff]
  split
  next missing =>
    by_cases same : probe = sessionId
    · subst same
      simp [missing]
    · simp [same]
  next state found =>
    by_cases same : probe = sessionId
    · subst same
      simp [found, contains_remove]
    · simp [same]

theorem holderCount_release (sessionId : SessionId) (input other : HeldInput) (holders : Nat) :
    (tables.release sessionId input holders).holderCount other =
      if other = input then (if holders ≤ 1 then none else some (holders - 1))
      else tables.holderCount other := by
  simp only [release, holderCount_removeEmptySessionState]
  split
  · rw [holderCount_removeHolderCount, holderCount_removePressed]
  · rw [holderCount_setHolderCount, holderCount_removePressed]

theorem heldBySession_release (sessionId probe : SessionId) (input other : HeldInput) (holders : Nat) :
    (tables.release sessionId input holders).heldBySession probe other ↔
      ¬ (probe = sessionId ∧ other = input) ∧ tables.heldBySession probe other := by
  simp only [release, heldBySession_removeEmptySessionState]
  rw [← heldBySession_removePressed]
  split
  · rw [heldBySession_of_pressed (removeHolderCount_pressed ..)]
  · rw [heldBySession_of_pressed (setHolderCount_pressed ..)]

theorem holders_release (sessionId : SessionId) (input other : HeldInput) (holders : Nat) :
    (tables.release sessionId input holders).holders other =
      if other = input then (tables.holders other).erase sessionId else tables.holders other := by
  ext probe
  rw [mem_holders, heldBySession_release]
  split
  next same =>
    simp [mem_holders, same]
  next different =>
    simp [mem_holders, different]

end PressedTables

/-! ### The device -/

theorem HeldInput.event_inj {other : HeldInput} {pressed up : Bool} :
    input.event pressed = other.event up ↔ input = other ∧ pressed = up := by
  cases input <;> cases other <;> simp [event]

/-- What an event says about an input: pressed, released, or nothing. -/
def HeldInput.heard (input : HeldInput) (event : InputEvent) : Option Bool :=
  if event = input.event true then some true
  else if event = input.event false then some false
  else none

/-- **The last event the device accepted for an input**, as pressed or released. -/
def lastInjected (recorded : List InputEvent) (input : HeldInput) : Option Bool :=
  recorded.findSome? input.heard

theorem heard_event (input other : HeldInput) (pressed : Bool) :
    other.heard (input.event pressed) = if other = input then some pressed else none := by
  unfold HeldInput.heard
  simp only [HeldInput.event_inj]
  by_cases same : other = input
  · subst same
    cases pressed <;> simp
  · have different : input ≠ other := fun equal => same equal.symm
    simp [same, different]

theorem lastInjected_cons (recorded : List InputEvent) (input other : HeldInput) (pressed : Bool) :
    lastInjected (input.event pressed :: recorded) other =
      if other = input then some pressed else lastInjected recorded other := by
  unfold lastInjected
  rw [List.findSome?_cons, heard_event]
  by_cases same : other = input <;> simp [same]

namespace ControlInputRegistry

variable {σ : Type}

/-- **The device follows the tables.** -/
structure Refines (registry : ControlInputRegistry σ) : Prop where
  /-- A count is the number of sessions that hold the input. -/
  count : ∀ input, (registry.holderCount input).getD 0 = (registry.holders input).card
  positive : ∀ input, registry.holderCount input ≠ some 0
  /-- No count: the last accepted event was a release, or there was none. -/
  physical : ∀ input, registry.holderCount input = none ↔
    lastInjected registry.recorded input ≠ some true

theorem withInjector_refines (device : σ) : Refines (withInjector device) where
  count input := by cases input <;> rfl
  positive input := by cases input <;> nofun
  physical input := by cases input <;> exact iff_of_true rfl nofun

variable {registry : ControlInputRegistry σ}

theorem Refines.of_same {other : ControlInputRegistry σ} (refines : Refines registry)
    (tables : other.toPressedTables = registry.toPressedTables)
    (recorded : other.recorded = registry.recorded) : Refines other where
  count := by rw [tables]; exact refines.count
  positive := by rw [tables]; exact refines.positive
  physical := by rw [tables, recorded]; exact refines.physical

variable (injector : InputInjector σ)

/-! ### One press or release -/

/-- The registry after a press or release that the device and the tables took in. -/
def transitioned (registry : ControlInputRegistry σ) (device : σ) (sessionId : SessionId)
    (input : HeldInput) (pressed physical : Bool) : ControlInputRegistry σ :=
  let holders := (registry.holderCount input).getD 0
  { registry with
    injector := device
    recorded := if physical then input.event pressed :: registry.recorded else registry.recorded
    toPressedTables :=
      if pressed then registry.press sessionId input holders
      else registry.release sessionId input holders }

variable (registry : ControlInputRegistry σ) (sessionId : SessionId) (input : HeldInput) (pressed :
  Bool) in
/-- **Everything a press or release can do.** -/
inductive TransitionOutcome : ControlInputRegistry σ × Except InputError Nat → Prop
  | idle : pressed = registry.heldBySession sessionId input →
      TransitionOutcome (registry, .ok 0)
  | refused (device : σ) (error : InputError) :
      TransitionOutcome
        ({ registry with injector := device }, .error error)
  | moved (device : σ) (physical : Bool) : pressed ≠ registry.heldBySession sessionId input →
      physical = ((pressed && (registry.holderCount input).getD 0 == 0) ||
        (!pressed && (registry.holderCount input).getD 0 == 1)) →
      TransitionOutcome
        (registry.transitioned device sessionId input pressed physical, .ok physical.toNat)

theorem transitionSession_outcome (registry : ControlInputRegistry σ) (sessionId : SessionId)
    (input : HeldInput) (pressed : Bool) :
    TransitionOutcome registry sessionId input pressed
      (transitionSession injector sessionId input pressed registry) := by
  show TransitionOutcome registry sessionId input pressed
    ((if pressed = registry.heldBySession sessionId input then _ else _ : Method σ Nat) registry)
  by_cases idle : pressed = registry.heldBySession sessionId input
  · rw [if_pos idle]
    exact .idle idle
  rw [if_neg idle]
  generalize transition : ((pressed && (registry.holderCount input).getD 0 == 0) ||
    (!pressed && (registry.holderCount input).getD 0 == 1)) = physical
  cases physical with
  | false =>
    have outcome := TransitionOutcome.moved registry.injector false idle transition.symm
    cases pressed <;> exact outcome
  | true =>
    simp only [if_true, bind, Procedure.andThen, inject]
    rcases injector.inject registry.injector (input.event pressed) with ⟨device, error | _⟩
    · exact .refused device error
    · have outcome := TransitionOutcome.moved device true idle transition.symm
      cases pressed <;> exact outcome

theorem Refines.press (refines : Refines registry) (device : σ) {physical : Bool}
    (free : registry.heldBySession sessionId input = false)
    (first : physical = ((registry.holderCount input).getD 0 == 0)) :
    Refines (registry.transitioned device sessionId input true physical) := by
  have absent : sessionId ∉ registry.holders input := by
    rw [mem_holders, free]
    nofun
  refine ⟨fun other => ?_, fun other => ?_, fun other => ?_⟩
  · simp only [transitioned, if_true]
    rw [holderCount_press, holders_press]
    split
    next same =>
      simp [same, Finset.card_insert_of_notMem absent, ← refines.count input]
    · exact refines.count other
  · simp only [transitioned, if_true]
    rw [holderCount_press]
    split
    · nofun
    · exact refines.positive other
  · simp only [transitioned, if_true]
    rw [holderCount_press]
    split
    next same =>
      -- A press that the device does not hear of finds another holder, so the last event was one.
      refine iff_of_false nofun (not_not.mpr ?_)
      cases physical with
      | true =>
        simp [lastInjected_cons, same]
      | false =>
        rw [same, if_neg nofun]
        by_contra silent
        simp [(refines.physical input).mpr silent] at first
    next different =>
      rw [refines.physical other]
      cases physical with
      | true => rw [if_pos rfl, lastInjected_cons, if_neg different]
      | false => rfl

theorem Refines.release (refines : Refines registry) (device : σ) {physical : Bool}
    (held : registry.heldBySession sessionId input = true)
    (last : physical = ((registry.holderCount input).getD 0 == 1)) :
    Refines (registry.transitioned device sessionId input false physical) := by
  have member : sessionId ∈ registry.holders input := mem_holders.mpr held
  have some : 0 < (registry.holderCount input).getD 0 := by
    rw [refines.count input]
    exact Finset.card_pos.mpr ⟨sessionId, member⟩
  refine ⟨fun other => ?_, fun other => ?_, fun other => ?_⟩
  · simp only [transitioned, if_neg Bool.false_ne_true]
    rw [holderCount_release, holders_release]
    split
    next same =>
      rw [same, Finset.card_erase_of_mem member, ← refines.count input]
      split
      · show 0 = _
        omega
      · rfl
    · exact refines.count other
  · simp only [transitioned, if_neg Bool.false_ne_true]
    rw [holderCount_release]
    split
    · split
      · nofun
      next more =>
        intro zero
        have := Option.some.inj zero
        omega
    · exact refines.positive other
  · simp only [transitioned, if_neg Bool.false_ne_true]
    rw [holderCount_release]
    split
    next same =>
      cases physical with
      | true =>
        have one : (registry.holderCount input).getD 0 = 1 := beq_iff_eq.mp last.symm
        simp [lastInjected_cons, same, one]
      | false =>
        have more : ¬ (registry.holderCount input).getD 0 ≤ 1 := by
          have other : (registry.holderCount input).getD 0 ≠ 1 := beq_eq_false_iff_ne.mp last.symm
          omega
        rw [if_neg more, if_neg nofun, same, ← refines.physical input]
        refine iff_of_false nofun ?_
        intro none
        simp [none] at some
    next different =>
      rw [refines.physical other]
      cases physical with
      | true => rw [if_pos rfl, lastInjected_cons, if_neg different]
      | false => rfl

/-- **One press or release keeps the device and the tables together**, whatever the device answers. -/
theorem transitionSession_refines (sessionId : SessionId) (input : HeldInput) (pressed : Bool) :
    (transitionSession injector sessionId input pressed).Moves (Procedure.Keeping Refines) := by
  intro registry refines
  have outcome := transitionSession_outcome injector registry sessionId input pressed
  generalize transitionSession injector sessionId input pressed registry = result at outcome
  cases outcome with
  | idle => exact refines
  | refused => exact refines.of_same rfl rfl
  | moved device physical moving transition =>
    cases pressed with
    | true =>
      refine refines.press device (Bool.eq_false_iff.mpr moving.symm) ?_
      simpa using transition
    | false =>
      refine refines.release device (Bool.eq_true_of_not_eq_false moving.symm) ?_
      simpa using transition

variable {error : InputError}

/-- **A failed injection changes no table.** -/
theorem transitionSession_error {pressed : Bool}
    (failed : (transitionSession injector sessionId input pressed registry).2 = .error error) :
    (transitionSession injector sessionId input pressed registry).1.toPressedTables =
      registry.toPressedTables := by
  have outcome := transitionSession_outcome injector registry sessionId input pressed
  generalize transitionSession injector sessionId input pressed registry = result at outcome failed
  cases outcome with
  | idle | moved => cases failed
  | refused => rfl

/-! ### Whole calls -/

open Procedure

theorem quiet_refines {f : ControlInputRegistry σ → ControlInputRegistry σ}
    (tables : ∀ registry, (f registry).toPressedTables = registry.toPressedTables)
    (recorded : ∀ registry, (f registry).recorded = registry.recorded)
    (registry : ControlInputRegistry σ) : Keeping Refines registry (f registry) :=
  fun refines => refines.of_same (tables registry) (recorded registry)

theorem countLane_refines (lane : ControlInputLane)
    (count : ControlLaneCounters → ControlLaneCounters) (registry : ControlInputRegistry σ) :
    Keeping Refines registry (countLane lane count registry) :=
  quiet_refines (countLane_tables lane count) (countLane_recorded lane count) registry

theorem releaseSteps_refines : ReleaseSteps injector (Keeping Refines) where
  transition := transitionSession_refines injector
  forget sessionId := quiet_refines (fun _ => rfl) fun _ => rfl
  reset := by
    refine quiet_refines (fun registry => ?_) fun registry => ?_ <;>
      unfold resetInputIfIdle <;> split <;> rfl

/-- An event that is neither a press nor a release says nothing about held input. -/
theorem inject_refines {event : InputEvent}
    (other : ∀ (input : HeldInput) (pressed : Bool), event ≠ input.event pressed) :
    (inject injector event).Moves (Keeping Refines) := by
  intro registry refines
  unfold inject
  split
  · refine ⟨refines.count, refines.positive, fun input => ?_⟩
    rw [refines.physical input]
    show _ ↔ lastInjected (event :: registry.recorded) input ≠ _
    unfold lastInjected
    simp [HeldInput.heard, other input true, other input false]
  · exact refines.of_same rfl rfl

theorem injectSessionInput_refines (sessionId : SessionId) (event : InputEvent) :
    (injectSessionInput injector sessionId event).Moves (Keeping Refines) := by
  cases event with
  | mouseButton button pressed | key key pressed => exact transitionSession_refines injector sessionId _ pressed
  | mouseMove _ _ | mouseWheel _ | mouseHorizontalWheel _ =>
    refine .bind (inject_refines injector ?_) fun _ => .pure _
    intro input pressed
    cases input <;> nofun

variable (order : IterationOrder)

theorem dispatch_refines (sessionId : SessionId) (event : ControlInputEvent)
    (releaseScope : Option ControlInputScope) :
    (dispatch injector order (some sessionId) event releaseScope).Moves (Keeping Refines) := by
  cases event with
  | releaseAll =>
    cases releaseScope with
    | none => exact (releaseSteps_refines injector).releaseSessionAll order sessionId
    | some scope => exact (releaseSteps_refines injector).releaseSessionScope order sessionId scope
  | mouseMove _ _ | mouseWheel _ | mouseHorizontalWheel _ | mouseButton _ _ | key _ _ =>
    exact injectSessionInput_refines injector sessionId _

/-- Recording an event touches the cached mouse move only. -/
theorem recordSuccessfulRealtimeEvent_quiet (sessionId : Option SessionId)
    (event : ControlInputEvent) (releaseScope : Option ControlInputScope)
    (registry : ControlInputRegistry σ) :
    (recordSuccessfulRealtimeEvent sessionId event releaseScope registry).toPressedTables =
        registry.toPressedTables ∧
      (recordSuccessfulRealtimeEvent sessionId event releaseScope registry).recorded =
        registry.recorded := by
  unfold recordSuccessfulRealtimeEvent
  split
  · exact ⟨rfl, rfl⟩
  · split
    · exact ⟨rfl, rfl⟩
    · exact ⟨rfl, rfl⟩
  · exact ⟨rfl, rfl⟩

variable (coalescing : Bool)

theorem handleEventWith_refines (sessionId : SessionId) (event : ControlInputEvent)
    (releaseScope : Option ControlInputScope) :
    (handleEventWith injector order coalescing (some sessionId) event releaseScope).Moves
      (Keeping Refines) := by
  refine .bind (.change (countLane_refines _ _)) fun _ => .bind .read fun registry => ?_
  split
  · exact .bind (.change (countLane_refines _ _)) fun _ => .fail _
  split
  · exact .bind (.change (countLane_refines _ _)) fun _ => .pure _
  refine .bind (.attempt (dispatch_refines injector order sessionId event releaseScope)) fun answer => ?_
  split
  · refine .bind (.change (quiet_refines ?_ ?_)) fun _ =>
      .bind (.change (countLane_refines _ _)) fun _ => .pure _
    · intro registry
      exact (recordSuccessfulRealtimeEvent_quiet (some sessionId) event releaseScope registry).1
    · intro registry
      exact (recordSuccessfulRealtimeEvent_quiet (some sessionId) event releaseScope registry).2
  · exact .bind (.change (countLane_refines _ _)) fun _ => .fail _

theorem freezeSessionForMigration_refines (sessionId : SessionId) :
    (freezeSessionForMigration injector order sessionId).Moves (Keeping Refines) := by
  refine .bind (.attempt ((releaseSteps_refines injector).releaseSessionAll order sessionId))
    fun answer => .bind (.change (quiet_refines (fun _ => rfl) fun _ => rfl)) fun _ => ?_
  split
  · exact .pure _
  · exact .fail _

theorem performWith_refines (refines : Refines registry) (operation : Operation) :
    Refines (performWith injector order coalescing registry operation) := by
  cases operation with
  | handleSessionEvent sessionId event =>
    exact handleEventWith_refines injector order coalescing sessionId event none registry refines
  | handleAuthenticatedSessionEvent sessionId scope event =>
    exact handleEventWith_refines injector order coalescing sessionId event _ registry refines
  | releaseSessionScope sessionId scope =>
    exact (releaseSteps_refines injector).releaseSessionScope order sessionId scope registry refines
  | releaseSessionAll sessionId =>
    exact (releaseSteps_refines injector).releaseSessionAll order sessionId registry refines
  | releaseAllSessions =>
    exact (releaseSteps_refines injector).releaseAllSessions order registry refines
  | freezeSessionForMigration sessionId =>
    exact freezeSessionForMigration_refines injector order sessionId registry refines
  | thawSessionAfterMigration sessionId => exact refines.of_same rfl rfl

theorem runWith_refines (calls : List (IterationOrder × Operation)) (refines : Refines registry) :
    Refines (runWith injector coalescing registry calls) := by
  induction calls generalizing registry with
  | nil => exact refines
  | cons call rest ih => exact ih (performWith_refines injector call.1 coalescing refines call.2)

/-! ### Failed injections -/

theorem inject_tables (event : InputEvent) :
    (inject injector event).Moves (Framing fun registry => registry.toPressedTables) := by
  intro registry
  unfold inject
  split <;> rfl

variable {releaseScope : Option ControlInputScope} {event : ControlInputEvent}

theorem dispatch_error (single : event ≠ .releaseAll)
    (failed : (dispatch injector order (some sessionId) event releaseScope registry).2 = .error error) :
    (dispatch injector order (some sessionId) event releaseScope registry).1.toPressedTables =
      registry.toPressedTables := by
  cases event with
  | releaseAll => exact (single rfl).elim
  | mouseButton _ _ | key _ _ => exact transitionSession_error injector failed
  | mouseMove _ _ | mouseWheel _ | mouseHorizontalWheel _ =>
    exact Moves.bind (inject_tables injector _) (fun _ => .pure _) registry

theorem handleEventWith_error {coalescing : Bool} (single : event ≠ .releaseAll)
    (failed : (handleEventWith injector order coalescing (some sessionId) event releaseScope
      registry).2 = .error error) :
    (handleEventWith injector order coalescing (some sessionId) event releaseScope
      registry).1.toPressedTables = registry.toPressedTables := by
  have outcome := handleEventWith_outcome injector order coalescing registry sessionId event releaseScope
  generalize handleEventWith injector order coalescing (some sessionId) event releaseScope registry =
    result at outcome failed
  cases outcome with
  | frozen count _ _ _ => exact countLane_tables _ count registry
  | coalesced | handled => cases failed
  | failed before after dispatched _ _ _ answered =>
    have unchanged := dispatch_error injector order single (by rw [answered])
    rw [answered, countLane_tables] at unchanged
    rw [countLane_tables]
    exact unchanged

/-- **The physical input state refines the sessions' pressed sets**, for every device, every
pattern of its successes and failures and every run of calls; and a failed injection, in whatever
state it happens, changes neither the pressed sets nor the counts. -/
theorem heldInput_refines_pressedSets (device : σ) (calls : List (IterationOrder × Operation)) :
    Refines (run injector (withInjector device) calls) ∧
      (∀ (registry : ControlInputRegistry σ) sessionId input pressed error,
        (transitionSession injector sessionId input pressed registry).2 = .error error →
          (transitionSession injector sessionId input pressed registry).1.toPressedTables =
            registry.toPressedTables) ∧
      ∀ (registry : ControlInputRegistry σ) order sessionId event releaseScope error,
        event ≠ .releaseAll →
          (handleEventInner injector order (some sessionId) event releaseScope registry).2 =
            .error error →
          (handleEventInner injector order (some sessionId) event releaseScope
            registry).1.toPressedTables = registry.toPressedTables := by
  refine ⟨runWith_refines injector true calls (withInjector_refines device), ?_, ?_⟩
  · intro registry sessionId input pressed error failed
    exact transitionSession_error injector failed
  · intro registry order sessionId event releaseScope error single failed
    exact handleEventWith_error injector order single failed

end ControlInputRegistry

end MiniRemoteDesktop.Input
