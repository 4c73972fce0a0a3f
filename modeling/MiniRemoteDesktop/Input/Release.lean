/-
**What a release leaves pressed.**

`release_session_all` visits the buttons a session holds, then its keys, and returns at the first
release the device refuses. An input that only this session holds is then released unless it comes
after that refusal.

* `WouldAccept` — the device accepts a release where a visit that never gives up reaches it.
* `stranded` — the releases from the first refused one on; it reads the device alone.
* `releaseLoop_spec` — the loop over the inputs of a scope leaves exactly these pressed.
-/

import MiniRemoteDesktop.Input.Coalescing

namespace MiniRemoteDesktop.Input.ControlInputRegistry

open SessionPressedInput (contains)
open PressedTables

variable {σ : Type} (injector : InputInjector σ)

/-! ### The device alone -/

/-- The device after releases were attempted, whether it accepted them or not. -/
def attempts (device : σ) (inputs : List HeldInput) : σ :=
  inputs.foldl (fun device input => (injector.inject device (input.event false)).1) device

/-- **The device would accept a release** where a best-effort visit reaches it: after the releases before
it were attempted, whether the device accepted them or not. -/
def WouldAccept (device : σ) (visit : List HeldInput) (input : HeldInput) : Prop :=
  (injector.inject (attempts injector device (visit.takeWhile (· ≠ input))) (input.event false)).2 = .ok ()

/-- **The first release the device refuses, and all that come after it.** -/
def stranded (device : σ) : List HeldInput → List HeldInput
  | [] => []
  | input :: rest =>
    match (injector.inject device (input.event false)).2 with
    | .ok () => stranded (injector.inject device (input.event false)).1 rest
    | .error _ => input :: rest

variable {injector}

variable {input : HeldInput}

variable {device : σ}

theorem stranded_accepted (rest : List HeldInput)
    (accepted : (injector.inject device (input.event false)).2 = .ok ()) :
    stranded injector device (input :: rest) =
      stranded injector (injector.inject device (input.event false)).1 rest := by
  rw [stranded, accepted]

theorem stranded_refused {error : InputError} (rest : List HeldInput)
    (refused : (injector.inject device (input.event false)).2 = .error error) :
    stranded injector device (input :: rest) = input :: rest := by
  rw [stranded, refused]

variable {inputs : List HeldInput}

theorem mem_of_stranded (left : input ∈ stranded injector device inputs) : input ∈ inputs := by
  induction inputs generalizing device with
  | nil => exact left
  | cons first rest ih =>
    unfold stranded at left
    split at left
    · exact .tail _ (ih left)
    · exact left

/-- A refusal among the first inputs strands all of the later ones. -/
theorem stranded_append (device : σ) (first later : List HeldInput) :
    stranded injector device (first ++ later) =
      if stranded injector device first = [] then
        stranded injector (attempts injector device first) later
      else stranded injector device first ++ later := by
  induction first generalizing device with
  | nil => exact (if_pos rfl).symm
  | cons input rest ih =>
    rw [List.cons_append]
    cases answer : (injector.inject device (input.event false)).2 with
    | ok =>
      rw [stranded_accepted _ answer, stranded_accepted _ answer, ih]
      rfl
    | error error =>
      simp [stranded_refused _ answer, List.cons_ne_nil _ _]

theorem wouldAccept_head {rest : List HeldInput} :
    WouldAccept injector device (input :: rest) input ↔
      (injector.inject device (input.event false)).2 = .ok () := by
  simp [WouldAccept, attempts]

theorem wouldAccept_later {first : HeldInput} {rest : List HeldInput} (different : first ≠ input) :
    WouldAccept injector device (first :: rest) input ↔
      WouldAccept injector (injector.inject device (first.event false)).1 rest input := by
  simp [WouldAccept, attempts, different]

/-- **The device would refuse all that a refusal strands** exactly when no release it would accept comes
after one it would refuse. -/
theorem stranded_refused_iff (distinct : inputs.Nodup) :
    (∀ input ∈ stranded injector device inputs, ¬ WouldAccept injector device inputs input) ↔
      inputs.Pairwise fun earlier later => WouldAccept injector device inputs later →
        WouldAccept injector device inputs earlier := by
  induction inputs generalizing device with
  | nil => exact iff_of_true nofun .nil
  | cons first rest ih =>
    obtain ⟨fresh, distinct⟩ := List.nodup_cons.mp distinct
    have shifted {input : HeldInput} (listed : input ∈ rest) :
        WouldAccept injector device (first :: rest) input ↔
          WouldAccept injector (injector.inject device (first.event false)).1 rest input :=
      wouldAccept_later fun same => fresh (same ▸ listed)
    rw [List.pairwise_cons]
    cases answer : (injector.inject device (first.event false)).2 with
    | ok =>
      have accepted : WouldAccept injector device (first :: rest) first := wouldAccept_head.mpr answer
      rw [stranded_accepted _ answer, and_iff_right fun _ _ _ => accepted,
        List.Pairwise.iff_of_mem fun earlier later =>
          imp_congr (shifted later) (shifted earlier), ← ih distinct]
      exact forall₂_congr fun input left => not_congr (shifted (mem_of_stranded left))
    | error error =>
      have refused : ¬ WouldAccept injector device (first :: rest) first := fun accepted =>
        nomatch answer.symm.trans (wouldAccept_head.mp accepted)
      rw [stranded_refused _ answer]
      constructor
      · intro none
        refine ⟨fun later listed accepted => (none later (.tail _ listed) accepted).elim, ?_⟩
        exact List.pairwise_of_forall_mem_list fun earlier _ later listed accepted =>
          (none later (.tail _ listed) accepted).elim
      · rintro ⟨before, _⟩ input member accepted
        rcases List.mem_cons.mp member with rfl | listed
        · exact refused accepted
        · exact refused (before input listed accepted)

variable (injector)

/-! ### One release -/

/-- The session is the only holder of the input, going by its count. -/
def soleInput (tables : PressedTables) (input : HeldInput) : Bool :=
  tables.holderCount input == some 1

variable {registry : ControlInputRegistry σ}

theorem Refines.soleInput_iff (refines : Refines registry) (sessionId : SessionId) (input : HeldInput) :
    registry.heldBySession sessionId input ∧ soleInput registry.toPressedTables input ↔
      registry.holders input = {sessionId} := by
  have counted := refines.count input
  have positive := refines.positive input
  rw [← mem_holders, soleInput, beq_iff_eq]
  constructor
  · rintro ⟨member, one⟩
    rw [one] at counted
    obtain ⟨holder, only⟩ := Finset.card_eq_one.mp counted.symm
    rw [only, Finset.mem_singleton] at member
    rw [only, member]
  · intro only
    refine ⟨only ▸ Finset.mem_singleton_self _, ?_⟩
    rw [only, Finset.card_singleton] at counted
    cases count : registry.holderCount input with
    | none => rw [count] at counted; cases counted
    | some holders => rw [count] at counted; exact congrArg some counted

variable {sessionId : SessionId}

/-- A release of an input that others hold too does not reach the device. -/
theorem transitionSession_shared (held : registry.heldBySession sessionId input = true)
    (shared : soleInput registry.toPressedTables input = false) :
    transitionSession injector sessionId input false registry =
      (registry.transitioned registry.injector sessionId input false false, .ok 0) := by
  have several : ((registry.holderCount input).getD 0 == 1) = false := by
    cases count : registry.holderCount input with
    | none => rfl
    | some holders =>
      rw [soleInput, count] at shared
      simpa using shared
  show (if false = registry.heldBySession sessionId input then _ else _ : Method σ Nat) registry = _
  rw [if_neg (held ▸ Bool.false_ne_true)]
  simp only [several]
  rfl

theorem transitionSession_sole (held : registry.heldBySession sessionId input = true)
    (sole : soleInput registry.toPressedTables input = true) :
    transitionSession injector sessionId input false registry =
      match (injector.inject registry.injector (input.event false)).2 with
      | .ok () =>
        (registry.transitioned (injector.inject registry.injector (input.event false)).1 sessionId
          input false true, .ok 1)
      | .error error =>
        ({ registry with injector := (injector.inject registry.injector (input.event false)).1 },
          .error error) := by
  have one : ((registry.holderCount input).getD 0 == 1) = true := by
    rw [soleInput, beq_iff_eq] at sole
    simp [sole]
  show (if false = registry.heldBySession sessionId input then _ else _ : Method σ Nat) registry = _
  rw [if_neg (held ▸ Bool.false_ne_true)]
  have physical : ((false && (registry.holderCount input).getD 0 == 0) ||
      (!false && (registry.holderCount input).getD 0 == 1)) = true := by
    simp [one]
  simp only [physical, if_true, bind, Procedure.andThen, inject]
  rcases injector.inject registry.injector (input.event false) with ⟨device, error | _⟩
  · rfl
  · rfl

theorem heldBySession_transitioned (registry : ControlInputRegistry σ) (device : σ)
    (sessionId probe : SessionId) (input other : HeldInput) (physical : Bool) :
    (registry.transitioned device sessionId input false physical).heldBySession probe other ↔
      ¬ (probe = sessionId ∧ other = input) ∧ registry.heldBySession probe other :=
  heldBySession_release _ _ _ _ _ _

theorem holderCount_transitioned (registry : ControlInputRegistry σ) (device : σ)
    (sessionId : SessionId) {other : HeldInput} (physical : Bool) (different : other ≠ input) :
    (registry.transitioned device sessionId input false physical).holderCount other =
      registry.holderCount other := by
  show holderCount (registry.release sessionId input _) other = _
  rw [holderCount_release, if_neg different]

/-! ### The loop over a scope -/

/-- The loop of `release_session_scope` over the inputs it visits. -/
def releaseLoop (sessionId : SessionId) (inputs : List HeldInput) (released : Nat) : Method σ Nat :=
  Procedure.forEach (fun input released => do
    let count ← transitionSession injector sessionId input false
    return saturatingAdd32 released count) inputs released

theorem releaseLoop_cons (sessionId : SessionId) (input : HeldInput) (rest : List HeldInput)
    (released : Nat) (registry : ControlInputRegistry σ) :
    releaseLoop injector sessionId (input :: rest) released registry =
      match transitionSession injector sessionId input false registry with
      | (next, .ok count) => releaseLoop injector sessionId rest (saturatingAdd32 released count) next
      | (next, .error error) => (next, .error error) := by
  simp only [releaseLoop, Procedure.forEach, bind, Procedure.andThen, pure]
  rcases transitionSession injector sessionId input false registry with ⟨next, error | count⟩
  · rfl
  · rfl

/-- **What a loop over held inputs leaves**: the shared ones are released, and of the others all
but the stranded. -/
structure LoopResult (sessionId : SessionId) (inputs : List HeldInput)
    (before : ControlInputRegistry σ) (result : ControlInputRegistry σ × Except InputError Nat) :
    Prop where
  refines : Refines result.1
  /-- Other sessions, and inputs the loop does not visit, stay as they are. -/
  others : ∀ probe, probe ≠ sessionId → ∀ input,
    (result.1.heldBySession probe input ↔ before.heldBySession probe input)
  unvisited : ∀ input, input ∉ inputs →
    (result.1.heldBySession sessionId input ↔ before.heldBySession sessionId input) ∧
      result.1.holderCount input = before.holderCount input
  sole : ∀ input ∈ inputs, soleInput before.toPressedTables input →
    (result.1.heldBySession sessionId input ↔
      input ∈ stranded injector before.injector (inputs.filter (soleInput before.toPressedTables)))
  finished : ∀ count, result.2 = .ok count →
    stranded injector before.injector (inputs.filter (soleInput before.toPressedTables)) = [] ∧
      result.1.injector =
        attempts injector before.injector (inputs.filter (soleInput before.toPressedTables)) ∧
      ∀ input ∈ inputs, ¬ result.1.heldBySession sessionId input
  stopped : ∀ error, result.2 = .error error →
    stranded injector before.injector (inputs.filter (soleInput before.toPressedTables)) ≠ []

variable {injector}

variable {rest : List HeldInput}

/-- The counts of the inputs that are still to come stay as they are. -/
theorem filter_soleInput (registry : ControlInputRegistry σ) (device : σ) (sessionId : SessionId)
    (physical : Bool) (fresh : input ∉ rest) :
    rest.filter (soleInput
        (registry.transitioned device sessionId input false physical).toPressedTables) =
      rest.filter (soleInput registry.toPressedTables) := by
  refine List.filter_congr fun other listed => ?_
  have different : other ≠ input := by
    rintro rfl
    exact fresh listed
  simp [soleInput, holderCount_transitioned registry device sessionId physical different]

theorem LoopResult.cons {physical : Bool} {result : ControlInputRegistry σ × Except InputError Nat}
    (fresh : input ∉ rest)
    (later : LoopResult injector sessionId rest (registry.transitioned device sessionId input false
      physical) result)
    (left : stranded injector registry.injector ((input :: rest).filter
      (soleInput registry.toPressedTables)) = stranded injector device (rest.filter
        (soleInput registry.toPressedTables)))
    (moved : attempts injector registry.injector ((input :: rest).filter
      (soleInput registry.toPressedTables)) = attempts injector device (rest.filter
        (soleInput registry.toPressedTables))) :
    LoopResult injector sessionId (input :: rest) registry result := by
  have counts := filter_soleInput registry device sessionId physical fresh
  have gone : ¬ result.1.heldBySession sessionId input := by
    simp [(later.unvisited input fresh).1, heldBySession_transitioned]
  have sole := later.sole
  have finished := later.finished
  have stopped := later.stopped
  rw [counts] at sole finished stopped
  refine ⟨later.refines, ?_, ?_, ?_, ?_, ?_⟩
  · intro probe different other
    rw [later.others probe different, heldBySession_transitioned]
    exact and_iff_right fun equal => different equal.1
  · intro other absent
    obtain ⟨different, outside⟩ := not_or.mp (mt List.mem_cons.mpr absent)
    obtain ⟨same, counted⟩ := later.unvisited other outside
    rw [same, counted, heldBySession_transitioned,
      holderCount_transitioned registry device sessionId physical different]
    exact ⟨and_iff_right fun equal => different equal.2, rfl⟩
  · rw [left]
    intro other member only
    rcases List.mem_cons.mp member with rfl | listed
    · refine iff_of_false gone fun kept => fresh ?_
      exact List.mem_of_mem_filter (mem_of_stranded kept)
    · refine sole other listed ?_
      have different : other ≠ input := by
        rintro rfl
        exact fresh listed
      rw [soleInput, holderCount_transitioned registry device sessionId physical different]
      exact only
  · rw [left, moved]
    intro count answered
    obtain ⟨none, reached, released⟩ := finished count answered
    refine ⟨none, reached, fun other member => ?_⟩
    rcases List.mem_cons.mp member with rfl | listed
    · exact gone
    · exact released other listed
  · rw [left]
    exact stopped

variable (injector)

theorem releaseLoop_spec (refines : Refines registry) (distinct : inputs.Nodup)
    (held : ∀ input ∈ inputs, registry.heldBySession sessionId input) (released : Nat) :
    LoopResult injector sessionId inputs registry
      (releaseLoop injector sessionId inputs released registry) := by
  induction inputs generalizing registry released with
  | nil =>
    refine ⟨refines, fun _ _ _ => Iff.rfl, fun _ _ => ⟨Iff.rfl, rfl⟩, nofun, fun _ _ => ⟨rfl, rfl, nofun⟩, ?_⟩
    rintro error ⟨⟩
  | cons input rest ih =>
    obtain ⟨fresh, distinct⟩ := List.nodup_cons.mp distinct
    have heldFirst := held input (.head _)
    have continued (device : σ) (released : Nat) :=
      ih (refines.release device heldFirst rfl) distinct (fun other listed => by
        refine (heldBySession_transitioned registry device sessionId sessionId input other _).mpr ?_
        refine ⟨?_, held other (.tail _ listed)⟩
        rintro ⟨_, rfl⟩
        exact fresh listed) released
    have exact : ((registry.holderCount input).getD 0 == 1) =
        soleInput registry.toPressedTables input := by
      rw [soleInput]
      cases registry.holderCount input with
      | none => rfl
      | some holders => rfl
    rw [exact] at continued
    rw [releaseLoop_cons]
    cases sole : soleInput registry.toPressedTables input with
    | false =>
      -- Others hold it too: the device hears nothing and the visit goes on.
      rw [sole] at continued
      rw [transitionSession_shared injector heldFirst sole]
      have listed : (input :: rest).filter (soleInput registry.toPressedTables) =
          rest.filter (soleInput registry.toPressedTables) := by
        simp [sole ▸ Bool.false_ne_true]
      refine (continued registry.injector _).cons fresh ?_ ?_
      · rw [listed]
      · rw [listed]
    | true =>
      rw [sole] at continued
      rw [transitionSession_sole injector heldFirst sole]
      have listed : (input :: rest).filter (soleInput registry.toPressedTables) =
          input :: rest.filter (soleInput registry.toPressedTables) := by
        simp [sole]
      cases answer : (injector.inject registry.injector (input.event false)).2 with
      | ok =>
        refine (continued _ _).cons fresh ?_ ?_
        · rw [listed, stranded_accepted _ answer]
        · rw [listed]
          rfl
      | error error =>
        -- The loop returns here, and everything it has not visited stays held.
        have whole : stranded injector registry.injector
            ((input :: rest).filter (soleInput registry.toPressedTables)) =
              (input :: rest).filter (soleInput registry.toPressedTables) := by
          rw [listed, stranded_refused _ answer]
        refine ⟨refines.of_same rfl rfl, fun _ _ _ => Iff.rfl, fun _ _ => ⟨Iff.rfl, rfl⟩, ?_, nofun, ?_⟩
        · rw [whole]
          intro other member only
          exact iff_of_true (held other member) (List.mem_filter.mpr ⟨member, only⟩)
        · rw [whole, listed]
          intro _ _
          exact List.cons_ne_nil _ _

/-! ### The two scopes -/

variable (order : IterationOrder)

/-- The inputs of one scope, as an input belongs to it. -/
def InScope (scope : ControlInputScope) : HeldInput → Prop
  | .button _ => scope = .pointer
  | .key _ => scope = .keyboard

theorem mem_heldInScope (sessionId : SessionId) (scope : ControlInputScope)
    (state : SessionPressedInput) (input : HeldInput) :
    input ∈ heldInScope order sessionId scope state ↔ InScope scope input ∧ state.contains input := by
  have buttons := (order.buttonsExact sessionId state.buttons).2
  have keys := (order.keysExact sessionId state.keys).2
  cases scope <;> cases input <;>
    simp [heldInScope, InScope, contains, buttons, keys]

theorem heldInScope_nodup (sessionId : SessionId) (scope : ControlInputScope)
    (state : SessionPressedInput) : (heldInScope order sessionId scope state).Nodup := by
  have buttons := (order.buttonsExact sessionId state.buttons).1
  have keys := (order.keysExact sessionId state.keys).1
  cases scope with
  | pointer =>
    rw [heldInScope, if_pos rfl, if_neg nofun, List.map_nil, List.append_nil]
    exact buttons.map fun _ _ same => HeldInput.button.inj same
  | keyboard =>
    rw [heldInScope, if_neg nofun, if_pos rfl, List.map_nil, List.nil_append]
    exact keys.map fun _ _ same => HeldInput.key.inj same

/-- The inputs of a scope that a session holds, in the order in which they are visited. -/
def scopeInputs (sessionId : SessionId) (scope : ControlInputScope) (tables : PressedTables) :
    List HeldInput :=
  match tables.pressedBySession.lookup sessionId with
  | none => []
  | some state => heldInScope order sessionId scope state

theorem mem_scopeInputs (sessionId : SessionId) (scope : ControlInputScope) (tables : PressedTables)
    (input : HeldInput) : input ∈ scopeInputs order sessionId scope tables ↔
      InScope scope input ∧ tables.heldBySession sessionId input := by
  rw [scopeInputs, heldBySession_iff]
  split
  next missing =>
    simp [missing]
  next state found =>
    simp [mem_heldInScope, found]

theorem scopeInputs_nodup (sessionId : SessionId) (scope : ControlInputScope)
    (tables : PressedTables) : (scopeInputs order sessionId scope tables).Nodup := by
  rw [scopeInputs]
  split
  · exact List.nodup_nil
  · exact heldInScope_nodup order sessionId scope _

/-- The inputs of a scope depend on what the session holds in it alone. -/
theorem scopeInputs_congr {scope : ControlInputScope} {first second : PressedTables}
    (same : ∀ input, InScope scope input → (first.heldBySession sessionId input ↔
      second.heldBySession sessionId input)) :
    scopeInputs order sessionId scope first = scopeInputs order sessionId scope second := by
  have listed (input : HeldInput) : input ∈ scopeInputs order sessionId scope first ↔
      input ∈ scopeInputs order sessionId scope second := by
    simpa [mem_scopeInputs] using and_congr_right (same input)
  have emptied {items : List HeldInput} (none : ∀ input, input ∉ items) : items = [] :=
    List.eq_nil_iff_forall_not_mem.mpr none
  unfold scopeInputs at listed ⊢
  split
  next missing =>
    rw [missing] at listed
    exact (emptied fun input member => List.not_mem_nil ((listed input).mpr member)).symm
  next state found =>
    rw [found] at listed
    split
    next missing =>
      rw [missing] at listed
      exact emptied fun input member => List.not_mem_nil ((listed input).mp member)
    next other foundOther =>
      rw [foundOther] at listed
      simp only [mem_heldInScope] at listed
      cases scope with
      | pointer =>
        have buttons : state.buttons = other.buttons := by
          ext button
          simpa [InScope, contains] using listed (.button button)
        simp [heldInScope, buttons]
      | keyboard =>
        have keys : state.keys = other.keys := by
          ext key
          simpa [InScope, contains] using listed (.key key)
        simp [heldInScope, keys]

theorem releaseHeld_loop (sessionId : SessionId) (scope : ControlInputScope)
    (registry : ControlInputRegistry σ) :
    releaseHeld injector order sessionId scope registry =
      match releaseLoop injector sessionId
        (scopeInputs order sessionId scope registry.toPressedTables) 0 registry with
      | (next, .ok count) => (resetInputIfIdle injector next, .ok count)
      | (next, .error error) => (next, .error error) := by
  unfold releaseHeld scopeInputs
  simp only [bind, Procedure.andThen, Procedure.read, pure]
  cases registry.pressedBySession.lookup sessionId with
  | none => rfl
  | some state =>
    simp only [releaseLoop, bind, Procedure.andThen, pure]
    generalize Procedure.forEach _ _ 0 registry = result
    rcases result with ⟨next, error | count⟩
    · rfl
    · rfl

theorem resetInputIfIdle_tables (registry : ControlInputRegistry σ) :
    (resetInputIfIdle injector registry).toPressedTables = registry.toPressedTables := by
  unfold resetInputIfIdle
  split
  · rfl
  · rfl

/-- The device is not reset while anybody holds an input. -/
theorem resetInputIfIdle_held {holders : Nat} (counted : registry.holderCount input = some holders) :
    resetInputIfIdle injector registry = registry := by
  refine if_neg ?_
  rintro ⟨buttons, keys⟩
  cases input with
  | button button => rw [holderCount, buttons] at counted; cases counted
  | key key => rw [holderCount, keys] at counted; cases counted

/-- **The inputs `release_session_all` sends releases for**: the session's own, buttons first. -/
def ownInputs (sessionId : SessionId) (tables : PressedTables) : List HeldInput :=
  (scopeInputs order sessionId .pointer tables ++
    scopeInputs order sessionId .keyboard tables).filter (soleInput tables)

theorem ownInputs_nodup (sessionId : SessionId) (tables : PressedTables) :
    (ownInputs order sessionId tables).Nodup := by
  refine List.Nodup.filter _ (List.nodup_append.mpr
    ⟨scopeInputs_nodup .., scopeInputs_nodup .., fun button pointer key keyboard same => ?_⟩)
  have first := ((mem_scopeInputs ..).mp pointer).1
  have second := ((mem_scopeInputs ..).mp keyboard).1
  rw [same] at first
  cases key with
  | button => cases second
  | key => cases first

theorem releaseSessionAll_loops (sessionId : SessionId) (registry : ControlInputRegistry σ) :
    (releaseSessionAll injector order sessionId registry).1 =
      match releaseLoop injector sessionId
        (scopeInputs order sessionId .pointer registry.toPressedTables) 0
        (forgetMouseMove sessionId registry) with
      | (next, .ok _) =>
        (releaseHeld injector order sessionId .keyboard (resetInputIfIdle injector next)).1
      | (next, .error _) => next := by
  show (Procedure.andThen (releaseHeld injector order sessionId .pointer) _
    (forgetMouseMove sessionId registry)).1 = _
  unfold Procedure.andThen
  rw [releaseHeld_loop]
  show _ = match releaseLoop injector sessionId (scopeInputs order sessionId .pointer
      (forgetMouseMove sessionId registry).toPressedTables) 0 (forgetMouseMove sessionId registry) with
    | (next, .ok _) => _
    | (next, .error _) => _
  generalize releaseLoop injector sessionId _ 0 (forgetMouseMove sessionId registry) = result
  rcases result with ⟨next, error | pointer⟩
  · rfl
  · show (Procedure.andThen (releaseHeld injector order sessionId .keyboard) _
      (resetInputIfIdle injector next)).1 = _
    unfold Procedure.andThen
    dsimp only
    rcases releaseHeld injector order sessionId .keyboard (resetInputIfIdle injector next) with
      ⟨last, error | keyboard⟩
    · rfl
    · rfl

/-- A scope that fails keeps the registry of its loop, one that succeeds resets an idle device. -/
theorem releaseHeld_state (sessionId : SessionId) (scope : ControlInputScope)
    (registry : ControlInputRegistry σ) :
    (releaseHeld injector order sessionId scope registry).1.toPressedTables =
      (releaseLoop injector sessionId
        (scopeInputs order sessionId scope registry.toPressedTables) 0 registry).1.toPressedTables := by
  rw [releaseHeld_loop]
  split
  next next count answered =>
    rw [answered, resetInputIfIdle_tables]
  next next error answered =>
    rw [answered]

/-- The loop over the buttons; it reads neither the cached mouse moves nor what was recorded. -/
theorem pointerLoop_spec (refines : Refines registry) (sessionId : SessionId) :
    LoopResult injector sessionId (scopeInputs order sessionId .pointer registry.toPressedTables)
      registry
      (releaseLoop injector sessionId (scopeInputs order sessionId .pointer registry.toPressedTables)
        0 (forgetMouseMove sessionId registry)) := by
  have forgotten : Refines (forgetMouseMove sessionId registry) := refines.of_same rfl rfl
  have looped := releaseLoop_spec injector forgotten
    (scopeInputs_nodup order sessionId .pointer registry.toPressedTables)
    (fun input member => ((mem_scopeInputs ..).mp member).2) 0
  exact ⟨looped.refines, looped.others, looped.unvisited, looped.sole, looped.finished, looped.stopped⟩

theorem keyboardLoop_spec (refines : Refines registry) (sessionId : SessionId) :
    LoopResult injector sessionId (scopeInputs order sessionId .keyboard registry.toPressedTables)
      registry
      (releaseLoop injector sessionId (scopeInputs order sessionId .keyboard registry.toPressedTables)
        0 registry) :=
  releaseLoop_spec injector refines (scopeInputs_nodup order sessionId .keyboard _)
    (fun _ member => ((mem_scopeInputs ..).mp member).2) 0

theorem resetInputIfIdle_refines (refines : Refines registry) :
    Refines (resetInputIfIdle injector registry) :=
  (releaseSteps_refines injector).reset registry refines

theorem releaseSessionAll_others (refines : Refines registry) (sessionId probe : SessionId)
    (different : probe ≠ sessionId) (input : HeldInput) :
    (releaseSessionAll injector order sessionId registry).1.heldBySession probe input ↔
      registry.heldBySession probe input := by
  have first := pointerLoop_spec injector order refines sessionId
  rw [releaseSessionAll_loops]
  generalize releaseLoop injector sessionId (scopeInputs order sessionId .pointer
    registry.toPressedTables) 0 (forgetMouseMove sessionId registry) = result at first
  rcases result with ⟨next, error | count⟩
  · exact first.others probe different input
  · have second := keyboardLoop_spec injector order (resetInputIfIdle_refines injector first.refines)
      sessionId
    rw [heldBySession_of_pressed (congrArg _ (releaseHeld_state ..)),
      second.others probe different, heldBySession_of_pressed
        (congrArg _ (resetInputIfIdle_tables injector next))]
    exact first.others probe different input

/-- **What stays pressed after `release_session_all`**: of the inputs only this session held, the
stranded ones. -/
theorem releaseSessionAll_held (refines : Refines registry) (sessionId : SessionId)
    (only : registry.holders input = {sessionId}) :
    (releaseSessionAll injector order sessionId registry).1.heldBySession sessionId input ↔
      input ∈ stranded injector registry.injector
        (ownInputs order sessionId registry.toPressedTables) := by
  obtain ⟨held, sole⟩ := (refines.soleInput_iff sessionId input).mpr only
  have pointer := mem_scopeInputs order sessionId .pointer registry.toPressedTables
  have keyboard := mem_scopeInputs order sessionId .keyboard registry.toPressedTables
  have buttonOrKey : ∀ input, InScope .pointer input ↔ ¬ InScope .keyboard input := by
    rintro (button | key)
    · exact iff_of_true rfl nofun
    · exact iff_of_false nofun fun outside => outside rfl
  have first := pointerLoop_spec injector order refines sessionId
  rw [releaseSessionAll_loops, ownInputs, List.filter_append, stranded_append]
  generalize releaseLoop injector sessionId (scopeInputs order sessionId .pointer
    registry.toPressedTables) 0 (forgetMouseMove sessionId registry) = result at first
  rcases result with ⟨buttonsDone, error | count⟩
  · -- The buttons failed: the keys are not visited.
    rw [if_neg (first.stopped error rfl), List.mem_append]
    show buttonsDone.heldBySession sessionId input ↔ _
    by_cases button : InScope .pointer input
    · rw [first.sole input ((pointer input).mpr ⟨button, held⟩) sole]
      refine (or_iff_left fun key => ?_).symm
      exact (buttonOrKey input).mp button ((keyboard input).mp (List.mem_of_mem_filter key)).1
    · rw [(first.unvisited input fun member => button ((pointer input).mp member).1).1]
      refine iff_of_true held (.inr (List.mem_filter.mpr ⟨(keyboard input).mpr ⟨?_, held⟩, sole⟩))
      exact not_not.mp fun other => button ((buttonOrKey input).mpr other)
  · obtain ⟨none, reached, released⟩ := first.finished count rfl
    rw [if_pos none]
    dsimp only
    have second := keyboardLoop_spec injector order (resetInputIfIdle_refines injector first.refines)
      sessionId
    generalize settled : resetInputIfIdle injector buttonsDone = idle at second
    have tables : idle.toPressedTables = buttonsDone.toPressedTables := by
      rw [← settled, resetInputIfIdle_tables]
    -- The buttons did not touch the keys, so the second scope finds the keys of the start.
    have kept (key : HeldInput) (inside : InScope .keyboard key) :
        (idle.heldBySession sessionId key ↔ registry.heldBySession sessionId key) ∧
          idle.holderCount key = registry.holderCount key := by
      rw [tables]
      exact first.unvisited key fun member => (buttonOrKey key).mp ((pointer key).mp member).1 inside
    have keys : scopeInputs order sessionId .keyboard idle.toPressedTables =
        scopeInputs order sessionId .keyboard registry.toPressedTables :=
      scopeInputs_congr order fun key inside => (kept key inside).1
    have soleKeys : (scopeInputs order sessionId .keyboard registry.toPressedTables).filter
          (soleInput idle.toPressedTables) =
        (scopeInputs order sessionId .keyboard registry.toPressedTables).filter
          (soleInput registry.toPressedTables) :=
      List.filter_congr fun key member => by
        simp [soleInput, (kept key ((keyboard key).mp member).1).2]
    rw [heldBySession_of_pressed (congrArg _ (releaseHeld_state ..)), keys]
    rw [keys] at second
    have secondSole := second.sole
    rw [soleKeys] at secondSole
    by_cases key : InScope .keyboard input
    · have counted : idle.holderCount input = some 1 := by
        simp [(kept input key).2, beq_iff_eq.mp sole]
      have device : idle.injector = buttonsDone.injector := by
        rw [← settled, resetInputIfIdle_held injector (tables ▸ counted)]
      rw [secondSole input ((keyboard input).mpr ⟨key, held⟩) (beq_iff_eq.mpr counted), device, reached]
    · have button : InScope .pointer input := (buttonOrKey input).mpr key
      have outside : input ∉ scopeInputs order sessionId .keyboard registry.toPressedTables :=
        fun member => key ((keyboard input).mp member).1
      rw [(second.unvisited input outside).1, heldBySession_of_pressed (congrArg _ tables)]
      refine iff_of_false (released input ((pointer input).mpr ⟨button, held⟩)) fun left => ?_
      exact outside (List.mem_of_mem_filter (mem_of_stranded left))

/-! ### Completeness -/

/-- **An input is released**: no session holds it, and it is not pressed on the device. -/
def Released (registry : ControlInputRegistry σ) (input : HeldInput) : Prop :=
  registry.holders input = ∅ ∧ lastInjected registry.recorded input ≠ some true

/-- **A release reached everything it could**: what only this session held and the device would
release, visited in the same order without giving up, is released afterwards. -/
def Complete (sessionId : SessionId) (before after : ControlInputRegistry σ) : Prop :=
  ∀ input, before.holders input = {sessionId} →
    WouldAccept injector before.injector (ownInputs order sessionId before.toPressedTables) input →
    Released after input

theorem Refines.released_iff (refines : Refines registry) (input : HeldInput) :
    Released registry input ↔ registry.holders input = ∅ := by
  refine and_iff_left_of_imp fun none => (refines.physical input).mp ?_
  have counted := refines.count input
  rw [none, Finset.card_empty] at counted
  cases count : registry.holderCount input with
  | none => rfl
  | some holders =>
    rw [count] at counted
    exact (refines.positive input (by rw [count]; exact congrArg some counted)).elim

/-- A session's own input is released when the session no longer holds it. -/
theorem releaseSessionAll_released (refines : Refines registry) (sessionId : SessionId)
    (only : registry.holders input = {sessionId}) :
    Released (releaseSessionAll injector order sessionId registry).1 input ↔
      input ∉ stranded injector registry.injector
        (ownInputs order sessionId registry.toPressedTables) := by
  have after := (releaseSteps_refines injector).releaseSessionAll order sessionId registry refines
  rw [after.released_iff, ← releaseSessionAll_held injector order refines sessionId only,
    Finset.eq_empty_iff_forall_notMem]
  constructor
  · intro none held
    exact none sessionId (mem_holders.mpr held)
  · intro gone probe member
    have held := mem_holders.mp member
    by_cases same : probe = sessionId
    · exact gone (same ▸ held)
    · rw [releaseSessionAll_others injector order refines sessionId probe same] at held
      have holder := mem_holders.mpr held
      rw [only, Finset.mem_singleton] at holder
      exact same holder

/-- **No input the device would release is visited after one it would refuse.** -/
def NoneBlocked (sessionId : SessionId) (registry : ControlInputRegistry σ) : Prop :=
  let visit := ownInputs order sessionId registry.toPressedTables
  visit.Pairwise fun earlier later => WouldAccept injector registry.injector visit later →
    WouldAccept injector registry.injector visit earlier

theorem complete_iff (refines : Refines registry) (sessionId : SessionId) :
    Complete injector order sessionId registry (releaseSessionAll injector order sessionId registry).1 ↔
      NoneBlocked injector order sessionId registry := by
  have released {input : HeldInput} (only : registry.holders input = {sessionId}) :=
    releaseSessionAll_released injector order refines sessionId only
  rw [NoneBlocked, ← stranded_refused_iff (ownInputs_nodup ..)]
  constructor
  · intro complete input left accepts
    obtain ⟨member, sole⟩ := List.mem_filter.mp (mem_of_stranded left)
    have held : registry.heldBySession sessionId input := by
      rcases List.mem_append.mp member with listed | listed
      · exact ((mem_scopeInputs ..).mp listed).2
      · exact ((mem_scopeInputs ..).mp listed).2
    have only := (refines.soleInput_iff sessionId input).mp ⟨held, sole⟩
    exact (released only).mp (complete input only accepts) left
  · intro refused input only accepts
    exact (released only).mpr fun left => refused input left accepts

/-- Freezing a session releases the same way, and then only marks it. -/
theorem freezeSessionForMigration_released (sessionId : SessionId)
    (registry : ControlInputRegistry σ) (input : HeldInput) :
    Released (freezeSessionForMigration injector order sessionId registry).1 input ↔
      Released (releaseSessionAll injector order sessionId registry).1 input := by
  show Released (Procedure.andThen (releaseSessionAll injector order sessionId).attempt _
    registry).1 input ↔ _
  unfold Procedure.andThen Procedure.attempt
  rcases releaseSessionAll injector order sessionId registry with ⟨next, error | count⟩
  · exact Iff.rfl
  · exact Iff.rfl

/-- **A release is complete exactly when nothing the device would release comes after a refusal.**
For every device, every run before and every order of the hash sets: the call visits the inputs only this
session holds, and an input the device would release there is stranded by an earlier one it refuses.
Freezing a session for a migration leaves the same ones. -/
theorem release_complete_iff (device : σ) (calls : List (IterationOrder × Operation))
    (sessionId : SessionId) :
    let registry := run injector (withInjector device) calls
    (Complete injector order sessionId registry
        (releaseSessionAll injector order sessionId registry).1 ↔
        NoneBlocked injector order sessionId registry) ∧
      (Complete injector order sessionId registry
          (freezeSessionForMigration injector order sessionId registry).1 ↔
        NoneBlocked injector order sessionId registry) := by
  intro registry
  have refines : Refines registry := runWith_refines injector true calls (withInjector_refines device)
  have complete := complete_iff injector order refines sessionId
  refine ⟨complete, ?_⟩
  unfold Complete
  simp only [freezeSessionForMigration_released]
  exact complete

/-! ### A button that cannot be released -/

/-- A session presses the left button and the key `0x41`. -/
noncomputable def pressRun : List (IterationOrder × Operation) :=
  [(someOrder, .handleSessionEvent ⟨"session"⟩ (.mouseButton .left true)),
    (someOrder, .handleSessionEvent ⟨"session"⟩ (.key (.virtualKey 0x41) true))]

/-- A device that fails the first release and accepts everything after it. -/
def failsOnceInjector : InputInjector Bool where
  inject shouldFail event :=
    match event with
    | .mouseButton _ false | .key _ false =>
      if shouldFail then (false, .error (.platform "release failed")) else (false, .ok ())
    | _ => (shouldFail, .ok ())
  resetIdleState := id

/-- A device that fails every release of a key. -/
def failsKeyReleaseInjector : InputInjector Unit where
  inject _ event :=
    match event with
    | .key _ false => ((), .error (.platform "key release failed"))
    | _ => ((), .ok ())
  resetIdleState := id

/-- The button is visited before the key, whatever the device is. -/
theorem ownInputs_pressed {tables : PressedTables}
    (pressed : tables.pressedBySession.lookup ⟨"session"⟩ = some ⟨{.left}, {.virtualKey 0x41}⟩)
    (button : tables.holderCount (.button .left) = some 1)
    (key : tables.holderCount (.key (.virtualKey 0x41)) = some 1) :
    ownInputs someOrder ⟨"session"⟩ tables = [.button .left, .key (.virtualKey 0x41)] := by
  simp [ownInputs, scopeInputs, pressed, heldInScope, someOrder, soleInput, button, key]

theorem failsOnce_blocks : ¬ NoneBlocked failsOnceInjector someOrder ⟨"session"⟩
    (run failsOnceInjector (withInjector true) pressRun) := by
  intro none
  rw [NoneBlocked, ownInputs_pressed (by decide) (by decide) (by decide)] at none
  have accepted := (List.pairwise_cons.mp none).1 (.key (.virtualKey 0x41)) (.head _) rfl
  cases accepted

/-- **The key stays down**, though the device would release it after the button, because the button
before it could not be released. -/
theorem refused_button_strands_key :
    let registry := run failsOnceInjector (withInjector true) pressRun
    ¬ Complete failsOnceInjector someOrder ⟨"session"⟩ registry
      (releaseSessionAll failsOnceInjector someOrder ⟨"session"⟩ registry).1 := by
  intro registry complete
  have refines : Refines registry :=
    runWith_refines failsOnceInjector true pressRun (withInjector_refines true)
  exact failsOnce_blocks ((complete_iff failsOnceInjector someOrder refines ⟨"session"⟩).mp complete)

/-- A freeze is not complete on the device that fails once; where only the key is refused, the button
before it is released all the same. -/
theorem release_complete_iff_sample :
    let failing := run failsOnceInjector (withInjector true) pressRun
    let registry := run failsKeyReleaseInjector (withInjector ()) pressRun
    ¬ Complete failsOnceInjector someOrder ⟨"session"⟩ failing
        (freezeSessionForMigration failsOnceInjector someOrder ⟨"session"⟩ failing).1 ∧
      Complete failsKeyReleaseInjector someOrder ⟨"session"⟩ registry
        (releaseSessionAll failsKeyReleaseInjector someOrder ⟨"session"⟩ registry).1 := by
  refine ⟨(release_complete_iff failsOnceInjector someOrder true pressRun ⟨"session"⟩).2.not.mpr
    failsOnce_blocks, ?_⟩
  refine (release_complete_iff failsKeyReleaseInjector someOrder () pressRun ⟨"session"⟩).1.mpr ?_
  rw [NoneBlocked, ownInputs_pressed (by decide) (by decide) (by decide)]
  refine .cons ?_ (List.pairwise_singleton _ _)
  intro later member accepted
  cases List.mem_singleton.mp member
  cases accepted

end MiniRemoteDesktop.Input.ControlInputRegistry
