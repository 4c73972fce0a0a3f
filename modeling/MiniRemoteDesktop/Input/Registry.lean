/-
**The control input registry** (`mrd-service`, `control_input.rs`).

One registry serves every session. It remembers which buttons and keys each session holds, counts
the holders of each, and sends the device an event only when the first holder presses or the last
one releases. Mouse moves that repeat a session's last one are dropped, and a session that is
frozen for a relay migration is refused everything but a release.

The device is a parameter: any state, any answer to any event. `recorded` lists the events it
accepted, newest first; nothing in the registry reads it. Buttons and keys are treated alike, so
the model has one `HeldInput` for both, with the two tables of the source under it.
-/

import MiniRemoteDesktop.Lib.Procedure
import MiniRemoteDesktop.Lib.Table
import MiniRemoteDesktop.Proto
import Mathlib.Data.Finset.Sort
import Mathlib.Data.String.Basic

namespace MiniRemoteDesktop.Input

open Procedure

/-! ### Events -/

/-- `ControlInputButton` of the IPC protocol. -/
inductive ControlInputButton
  | left
  | right
  | middle
  | x1
  | x2
  deriving DecidableEq

/-- `ControlInputKey` of the IPC protocol. -/
inductive ControlInputKey
  | virtualKey (code : UInt16)
  deriving DecidableEq

inductive ControlInputEvent
  | mouseMove (x y : Int32)
  | mouseWheel (delta : Int32)
  | mouseHorizontalWheel (delta : Int32)
  | mouseButton (button : ControlInputButton) (pressed : Bool)
  | key (key : ControlInputKey) (pressed : Bool)
  | releaseAll
  deriving DecidableEq

inductive InputButton
  | left
  | right
  | middle
  | other (code : UInt16)
  deriving DecidableEq

inductive InputKey
  | virtualKey (code : UInt16)
  deriving DecidableEq

inductive InputEvent
  | mouseMove (x y : Int32)
  | mouseButton (button : InputButton) (pressed : Bool)
  | mouseWheel (delta : Int32)
  | mouseHorizontalWheel (delta : Int32)
  | key (key : InputKey) (pressed : Bool)
  deriving DecidableEq

inductive InputError
  | unavailable (reason : String)
  | invalidEvent (reason : String)
  | uipiDenied
  | platform (reason : String)

def InputError.toString : InputError → String
  | unavailable reason => "input injector unavailable: " ++ reason
  | invalidEvent reason => "invalid input event: " ++ reason
  | uipiDenied => "input injection was blocked by Windows UIPI"
  | platform reason => "platform input injection failed: " ++ reason

inductive ControlInputLane
  | reliable
  | realtime
  | cleanup
  deriving DecidableEq

def inputLane : ControlInputEvent → ControlInputLane
  | .mouseMove _ _ | .mouseWheel _ | .mouseHorizontalWheel _ => .realtime
  | .mouseButton _ _ | .key _ _ => .reliable
  | .releaseAll => .cleanup

def inputButtonFromIpc : ControlInputButton → InputButton
  | .left => .left
  | .right => .right
  | .middle => .middle
  | .x1 => .other 1
  | .x2 => .other 2

def inputKeyFromIpc : ControlInputKey → InputKey
  | .virtualKey code => .virtualKey code

def inputEventFromIpc : ControlInputEvent → Except InputError InputEvent
  | .mouseMove x y => .ok (.mouseMove x y)
  | .mouseWheel delta => .ok (.mouseWheel delta)
  | .mouseHorizontalWheel delta => .ok (.mouseHorizontalWheel delta)
  | .mouseButton button pressed => .ok (.mouseButton (inputButtonFromIpc button) pressed)
  | .key key pressed => .ok (.key (inputKeyFromIpc key) pressed)
  | .releaseAll => .error (.invalidEvent "release_all is not a single input event")

inductive ControlInputScope
  | pointer
  | keyboard
  deriving DecidableEq

/-! ### What sessions hold -/

/-- A button or a key: what a session can hold down. -/
inductive HeldInput
  | button (button : InputButton)
  | key (key : InputKey)
  deriving DecidableEq

def HeldInput.event (input : HeldInput) (pressed : Bool) : InputEvent :=
  match input with
  | .button held => .mouseButton held pressed
  | .key held => .key held pressed

structure SessionPressedInput where
  buttons : Finset InputButton
  keys : Finset InputKey
  deriving DecidableEq

namespace SessionPressedInput

def empty : SessionPressedInput := ⟨∅, ∅⟩

def contains (state : SessionPressedInput) : HeldInput → Bool
  | .button button => button ∈ state.buttons
  | .key key => key ∈ state.keys

def insert (state : SessionPressedInput) : HeldInput → SessionPressedInput
  | .button button => { state with buttons := Insert.insert button state.buttons }
  | .key key => { state with keys := Insert.insert key state.keys }

def remove (state : SessionPressedInput) : HeldInput → SessionPressedInput
  | .button button => { state with buttons := state.buttons.erase button }
  | .key key => { state with keys := state.keys.erase key }

end SessionPressedInput

/-- The three tables of held input: what each session holds, and the number of holders. -/
structure PressedTables where
  pressedBySession : Finmap fun _ : SessionId => SessionPressedInput
  buttonHolderCounts : Finmap fun _ : InputButton => Nat
  keyHolderCounts : Finmap fun _ : InputKey => Nat

namespace PressedTables

def holderCount (tables : PressedTables) : HeldInput → Option Nat
  | .button button => tables.buttonHolderCounts.lookup button
  | .key key => tables.keyHolderCounts.lookup key

def setHolderCount (tables : PressedTables) (count : Nat) : HeldInput → PressedTables
  | .button button =>
    { tables with buttonHolderCounts := tables.buttonHolderCounts.insert button count }
  | .key key => { tables with keyHolderCounts := tables.keyHolderCounts.insert key count }

def removeHolderCount (tables : PressedTables) : HeldInput → PressedTables
  | .button button => { tables with buttonHolderCounts := tables.buttonHolderCounts.erase button }
  | .key key => { tables with keyHolderCounts := tables.keyHolderCounts.erase key }

def heldBySession (tables : PressedTables) (sessionId : SessionId) (input : HeldInput) : Bool :=
  (tables.pressedBySession.lookup sessionId).any fun state => state.contains input

/-- `entry(session).or_default()`, then the input. -/
def insertPressed (tables : PressedTables) (sessionId : SessionId) (input : HeldInput) :
    PressedTables :=
  let state := (tables.pressedBySession.lookup sessionId).getD .empty
  { tables with pressedBySession := tables.pressedBySession.insert sessionId (state.insert input) }

def removePressed (tables : PressedTables) (sessionId : SessionId) (input : HeldInput) :
    PressedTables :=
  match tables.pressedBySession.lookup sessionId with
  | none => tables
  | some state =>
    { tables with pressedBySession := tables.pressedBySession.insert sessionId (state.remove input) }

def removeEmptySessionState (tables : PressedTables) (sessionId : SessionId) : PressedTables :=
  if (tables.pressedBySession.lookup sessionId).any fun state => state = .empty then
    { tables with pressedBySession := tables.pressedBySession.erase sessionId }
  else tables

/-- The tables after a session pressed an input that `holders` others hold. -/
def press (tables : PressedTables) (sessionId : SessionId) (input : HeldInput) (holders : Nat) :
    PressedTables :=
  (tables.insertPressed sessionId input).setHolderCount (holders + 1) input

/-- The tables after one of `holders` holders released an input. -/
def release (tables : PressedTables) (sessionId : SessionId) (input : HeldInput) (holders : Nat) :
    PressedTables :=
  let removed := tables.removePressed sessionId input
  let counted :=
    if holders ≤ 1 then removed.removeHolderCount input
    else removed.setHolderCount (holders - 1) input
  counted.removeEmptySessionState sessionId

end PressedTables

/-! ### The registry -/

structure ControlLaneCounters where
  acceptedMessages : Nat := 0
  injectedMessages : Nat := 0
  failedMessages : Nat := 0
  droppedMessages : Nat := 0
  coalescedMessages : Nat := 0
  lastError : Option String := none

/-- **A device**: how it answers an event, and its reset. -/
structure InputInjector (σ : Type) where
  inject : σ → InputEvent → σ × Except InputError Unit
  resetIdleState : σ → σ

structure ControlInputRegistry (σ : Type) extends PressedTables where
  injector : σ
  recorded : List InputEvent
  (reliable realtime : ControlLaneCounters)
  lastRealtimeMouseMoveBySession : Finmap fun _ : SessionId => Int32 × Int32
  migrationFrozenSessions : Finset SessionId

/-- **The order in which the hash sets are iterated**: any enumeration, for any session and set. -/
structure IterationOrder where
  buttons : SessionId → Finset InputButton → List InputButton
  keys : SessionId → Finset InputKey → List InputKey
  buttonsExact : ∀ sessionId set, (buttons sessionId set).Nodup ∧
    ∀ button, button ∈ buttons sessionId set ↔ button ∈ set
  keysExact : ∀ sessionId set, (keys sessionId set).Nodup ∧ ∀ key, key ∈ keys sessionId set ↔ key ∈ set

/-- `u32::saturating_add`. -/
def saturatingAdd32 (a b : Nat) : Nat := min (a + b) (2 ^ 32 - 1)

structure ControlInputResult where
  lane : ControlInputLane
  eventCount : Nat

instance : LinearOrder SessionId :=
  LinearOrder.lift' SessionId.value fun first second same => by
    cases first
    cases second
    exact congrArg _ same

namespace ControlInputRegistry

variable {σ : Type}

/-- A method of the registry. -/
abbrev Method (σ α : Type) := Procedure (ControlInputRegistry σ) InputError α

def withInjector (device : σ) : ControlInputRegistry σ where
  injector := device
  recorded := []
  reliable := {}
  realtime := {}
  lastRealtimeMouseMoveBySession := ∅
  pressedBySession := ∅
  migrationFrozenSessions := ∅
  buttonHolderCounts := ∅
  keyHolderCounts := ∅

/-- Change the counters of a lane; clean-up counts as reliable. -/
def countLane (lane : ControlInputLane) (count : ControlLaneCounters → ControlLaneCounters)
    (registry : ControlInputRegistry σ) : ControlInputRegistry σ :=
  match lane with
  | .reliable | .cleanup => { registry with reliable := count registry.reliable }
  | .realtime => { registry with realtime := count registry.realtime }

variable (injector : InputInjector σ)

/-- Send one event to the device. -/
def inject (event : InputEvent) : Method σ Unit := fun registry =>
  match injector.inject registry.injector event with
  | (device, .ok ()) =>
    ({ registry with injector := device, recorded := event :: registry.recorded }, .ok ())
  | (device, .error error) => ({ registry with injector := device }, .error error)

/-- `transition_session_button` and `transition_session_key`: a session presses or releases an
input, and the device hears of the first press and the last release. -/
def transitionSession (sessionId : SessionId) (input : HeldInput) (pressed : Bool) :
    Method σ Nat := do
  let registry ← read
  if pressed = registry.heldBySession sessionId input then return 0
  let holders := (registry.holderCount input).getD 0
  let physicalTransition := (pressed && holders == 0) || (!pressed && holders == 1)
  if physicalTransition then inject injector (input.event pressed)
  if pressed then
    change fun registry =>
      { registry with toPressedTables := registry.press sessionId input holders }
  else
    change fun registry =>
      { registry with toPressedTables := registry.release sessionId input holders }
  return physicalTransition.toNat

def transitionSessionButton (sessionId : SessionId) (button : InputButton) (pressed : Bool) :
    Method σ Nat :=
  transitionSession injector sessionId (.button button) pressed

def transitionSessionKey (sessionId : SessionId) (key : InputKey) (pressed : Bool) : Method σ Nat :=
  transitionSession injector sessionId (.key key) pressed

def injectSessionInput (sessionId : SessionId) (event : InputEvent) : Method σ Nat :=
  match event with
  | .mouseButton button pressed => transitionSessionButton injector sessionId button pressed
  | .key key pressed => transitionSessionKey injector sessionId key pressed
  | event => do
    inject injector event
    return 1

def resetInputIfIdle (registry : ControlInputRegistry σ) : ControlInputRegistry σ :=
  if registry.buttonHolderCounts = ∅ ∧ registry.keyHolderCounts = ∅ then
    { registry with injector := injector.resetIdleState registry.injector }
  else registry

def forgetMouseMove (sessionId : SessionId) (registry : ControlInputRegistry σ) :
    ControlInputRegistry σ :=
  { registry with
    lastRealtimeMouseMoveBySession := registry.lastRealtimeMouseMoveBySession.erase sessionId }

variable (order : IterationOrder)

/-- The inputs of one scope that a session holds, buttons first, in iteration order. -/
def heldInScope (sessionId : SessionId) (scope : ControlInputScope) (state : SessionPressedInput) :
    List HeldInput :=
  let buttons := if scope = .pointer then order.buttons sessionId state.buttons else []
  let keys := if scope = .keyboard then order.keys sessionId state.keys else []
  buttons.map .button ++ keys.map .key

/-- Release what a session holds in a scope; the part of `release_session_scope` after the cached
mouse move is forgotten. -/
def releaseHeld (sessionId : SessionId) (scope : ControlInputScope) : Method σ Nat := do
  let registry ← read
  match registry.pressedBySession.lookup sessionId with
  | none =>
    change (resetInputIfIdle injector)
    return 0
  | some state =>
    let release (input : HeldInput) (released : Nat) : Method σ Nat := do
      let count ← transitionSession injector sessionId input false
      return saturatingAdd32 released count
    let released ← forEach release (heldInScope order sessionId scope state) 0
    change (resetInputIfIdle injector)
    return released

def releaseSessionScope (sessionId : SessionId) (scope : ControlInputScope) : Method σ Nat := do
  if scope = .pointer then change (forgetMouseMove sessionId)
  releaseHeld injector order sessionId scope

def releaseSessionAll (sessionId : SessionId) : Method σ Nat := do
  let pointer ← releaseSessionScope injector order sessionId .pointer
  let keyboard ← releaseSessionScope injector order sessionId .keyboard
  return saturatingAdd32 pointer keyboard

/-- What a round over the pending sessions has collected so far. -/
structure ReleaseRound where
  released : Nat
  lastError : Option InputError
  retry : List SessionId

def releasePending (sessionId : SessionId) (round : ReleaseRound) : Method σ ReleaseRound := do
  match ← (releaseSessionAll injector order sessionId).attempt with
  | .ok count => return { round with released := saturatingAdd32 round.released count }
  | .error error =>
    return { round with lastError := some error, retry := round.retry ++ [sessionId] }

/-- The rounds of `release_all_sessions`, each over the sessions the one before could not finish. -/
def releaseRounds : Nat → List SessionId → Nat → Option InputError → Method σ Nat
  | 0, _, released, lastError =>
    match lastError with
    | some error => fail error
    | none => pure released
  | rounds + 1, pending, released, lastError => do
    let round ← forEach (releasePending injector order) pending ⟨released, lastError, []⟩
    if round.retry = [] then return round.released
    else releaseRounds rounds round.retry round.released round.lastError

def releaseAllSessions : Method σ Nat := do
  let registry ← read
  let pending := registry.pressedBySession.keys ∪ registry.lastRealtimeMouseMoveBySession.keys
  releaseRounds injector order 3 (pending.sort (· ≤ ·)) 0 none

/-- Release what the session holds, then refuse its input, also when the release failed. -/
def freezeSessionForMigration (sessionId : SessionId) : Method σ Nat := do
  let released ← (releaseSessionAll injector order sessionId).attempt
  change fun registry =>
    { registry with
      migrationFrozenSessions := insert sessionId registry.migrationFrozenSessions }
  match released with
  | .ok count => return count
  | .error error => fail error

def thawSessionAfterMigration (sessionId : SessionId) : Method σ Bool := do
  let registry ← read
  change fun registry =>
    { registry with migrationFrozenSessions := registry.migrationFrozenSessions.erase sessionId }
  return decide (sessionId ∈ registry.migrationFrozenSessions)

/-! ### Events of a session -/

def shouldCoalesceRealtimeEvent (registry : ControlInputRegistry σ) (sessionId : Option SessionId)
    (event : ControlInputEvent) : Bool :=
  match sessionId, event with
  | some sessionId, .mouseMove x y =>
    registry.lastRealtimeMouseMoveBySession.lookup sessionId == some (x, y)
  | _, _ => false

def recordSuccessfulRealtimeEvent (sessionId : Option SessionId) (event : ControlInputEvent)
    (releaseScope : Option ControlInputScope) (registry : ControlInputRegistry σ) :
    ControlInputRegistry σ :=
  match sessionId, event with
  | some sessionId, .mouseMove x y =>
    { registry with
      lastRealtimeMouseMoveBySession :=
        registry.lastRealtimeMouseMoveBySession.insert sessionId (x, y) }
  | some sessionId, .releaseAll =>
    if releaseScope = none ∨ releaseScope = some .pointer then registry.forgetMouseMove sessionId
    else registry
  | _, _ => registry

/-- The effect of an accepted event, before it is counted. -/
def dispatch (sessionId : Option SessionId) (event : ControlInputEvent)
    (releaseScope : Option ControlInputScope) : Method σ Nat :=
  match sessionId, event with
  | some sessionId, .releaseAll =>
    match releaseScope with
    | some scope => releaseSessionScope injector order sessionId scope
    | none => releaseSessionAll injector order sessionId
  | none, .releaseAll => pure 0
  | some sessionId, event =>
    match inputEventFromIpc event with
    | .ok input => injectSessionInput injector sessionId input
    | .error error => fail error
  | none, event =>
    match inputEventFromIpc event with
    | .ok input => do
      inject injector input
      return 1
    | .error error => fail error

/-- `handle_event_inner`, with the coalescing of mouse moves switched on or off. -/
def handleEventWith (coalescing : Bool) (sessionId : Option SessionId) (event : ControlInputEvent)
    (releaseScope : Option ControlInputScope) : Method σ ControlInputResult := do
  let lane := inputLane event
  change (countLane lane fun counters =>
    { counters with acceptedMessages := counters.acceptedMessages + 1 })
  let registry ← read
  if (sessionId.any fun sessionId => sessionId ∈ registry.migrationFrozenSessions) &&
      event != .releaseAll then
    change (countLane lane fun counters =>
      { counters with droppedMessages := counters.droppedMessages + 1 })
    fail (.invalidEvent "control input is frozen during relay migration")
  else if coalescing && registry.shouldCoalesceRealtimeEvent sessionId event then
    change (countLane lane fun counters =>
      { counters with coalescedMessages := counters.coalescedMessages + 1 })
    return ⟨lane, 0⟩
  else
    match ← (dispatch injector order sessionId event releaseScope).attempt with
    | .ok eventCount =>
      change (recordSuccessfulRealtimeEvent sessionId event releaseScope)
      change (countLane lane fun counters =>
        { counters with
          injectedMessages := counters.injectedMessages + eventCount, lastError := none })
      return ⟨lane, eventCount⟩
    | .error error =>
      change (countLane lane fun counters =>
        { counters with
          failedMessages := counters.failedMessages + 1, lastError := some error.toString })
      fail error

def handleEventInner (sessionId : Option SessionId) (event : ControlInputEvent)
    (releaseScope : Option ControlInputScope) : Method σ ControlInputResult :=
  handleEventWith injector order true sessionId event releaseScope

variable (coalescing : Bool) (registry : ControlInputRegistry σ) (sessionId : SessionId) (event :
  ControlInputEvent) (releaseScope : Option ControlInputScope) in
/-- **Everything an event of a session can do.** The counters of the lanes aside, a frozen or
coalesced event changes nothing, and the others are dispatched. -/
inductive EventOutcome :
    ControlInputRegistry σ × Except InputError ControlInputResult → Prop
  | frozen (count : ControlLaneCounters → ControlLaneCounters) (error : InputError) :
      sessionId ∈ registry.migrationFrozenSessions → event ≠ .releaseAll →
      EventOutcome
        (countLane (inputLane event) count registry, .error error)
  | coalesced (count : ControlLaneCounters → ControlLaneCounters) (result : ControlInputResult) :
      (sessionId ∉ registry.migrationFrozenSessions ∨ event = .releaseAll) → coalescing = true →
      registry.shouldCoalesceRealtimeEvent (some sessionId) event →
      EventOutcome
        (countLane (inputLane event) count registry, .ok result)
  | handled (before after : ControlLaneCounters → ControlLaneCounters) (eventCount : Nat)
      (dispatched : ControlInputRegistry σ) (result : ControlInputResult) :
      (sessionId ∉ registry.migrationFrozenSessions ∨ event = .releaseAll) →
      ¬ (coalescing = true ∧ registry.shouldCoalesceRealtimeEvent (some sessionId) event) →
      dispatch injector order (some sessionId) event releaseScope
        (countLane (inputLane event) before registry) = (dispatched, .ok eventCount) →
      EventOutcome (countLane (inputLane event) after
          (recordSuccessfulRealtimeEvent (some sessionId) event releaseScope dispatched), .ok result)
  | failed (before after : ControlLaneCounters → ControlLaneCounters)
      (dispatched : ControlInputRegistry σ) (error : InputError) :
      (sessionId ∉ registry.migrationFrozenSessions ∨ event = .releaseAll) →
      ¬ (coalescing = true ∧ registry.shouldCoalesceRealtimeEvent (some sessionId) event) →
      dispatch injector order (some sessionId) event releaseScope
        (countLane (inputLane event) before registry) = (dispatched, .error error) →
      EventOutcome
        (countLane (inputLane event) after dispatched, .error error)

variable (lane : ControlInputLane) (count : ControlLaneCounters → ControlLaneCounters)

theorem countLane_twice (first second : ControlLaneCounters → ControlLaneCounters)
    (registry : ControlInputRegistry σ) :
    countLane lane second (countLane lane first registry) =
      countLane lane (second ∘ first) registry := by
  cases lane <;> rfl

section

variable (registry : ControlInputRegistry σ)
include registry

theorem countLane_tables :
    (countLane lane count registry).toPressedTables = registry.toPressedTables := by
  cases lane <;> rfl

theorem countLane_recorded :
    (countLane lane count registry).recorded = registry.recorded := by
  cases lane <;> rfl

theorem countLane_frozen :
    (countLane lane count registry).migrationFrozenSessions = registry.migrationFrozenSessions := by
  cases lane <;> rfl

theorem countLane_lastMove :
    (countLane lane count registry).lastRealtimeMouseMoveBySession =
      registry.lastRealtimeMouseMoveBySession := by
  cases lane <;> rfl

theorem shouldCoalesceRealtimeEvent_countLane (sessionId : Option SessionId)
    (event : ControlInputEvent) :
    (countLane lane count registry).shouldCoalesceRealtimeEvent sessionId event =
      registry.shouldCoalesceRealtimeEvent sessionId event := by
  simp [shouldCoalesceRealtimeEvent, countLane_lastMove]

end

theorem handleEventWith_outcome (coalescing : Bool) (registry : ControlInputRegistry σ)
    (sessionId : SessionId) (event : ControlInputEvent) (releaseScope : Option ControlInputScope) :
    EventOutcome injector order coalescing registry sessionId event releaseScope
      (handleEventWith injector order coalescing (some sessionId) event releaseScope registry) := by
  let accepted : ControlLaneCounters → ControlLaneCounters := fun counters =>
    { counters with acceptedMessages := counters.acceptedMessages + 1 }
  show EventOutcome injector order coalescing registry sessionId event releaseScope
    ((if _ then _ else if _ then _ else _ : Method σ ControlInputResult)
      (countLane (inputLane event) accepted registry))
  rw [countLane_frozen, shouldCoalesceRealtimeEvent_countLane]
  by_cases frozen : sessionId ∈ registry.migrationFrozenSessions ∧ event ≠ .releaseAll
  · rw [if_pos (by simpa using frozen)]
    show EventOutcome injector order coalescing registry sessionId event releaseScope
      (countLane _ _ (countLane _ _ registry), _)
    rw [countLane_twice]
    exact .frozen _ _ frozen.1 frozen.2
  have admitted : sessionId ∉ registry.migrationFrozenSessions ∨ event = .releaseAll := by
    by_cases member : sessionId ∈ registry.migrationFrozenSessions
    · exact .inr (not_not.mp fun other => frozen ⟨member, other⟩)
    · exact .inl member
  rw [if_neg (by simpa using frozen)]
  by_cases coalesce : coalescing = true ∧ registry.shouldCoalesceRealtimeEvent (some sessionId) event
  · rw [if_pos (by simpa using coalesce)]
    show EventOutcome injector order coalescing registry sessionId event releaseScope
      (countLane _ _ (countLane _ _ registry), _)
    rw [countLane_twice]
    exact .coalesced _ _ admitted coalesce.1 coalesce.2
  rw [if_neg (by simpa using coalesce)]
  rcases dispatched : dispatch injector order (some sessionId) event releaseScope
    (countLane (inputLane event) accepted registry) with ⟨after, error | eventCount⟩
  · simp only [bind, andThen, attempt, dispatched]
    exact .failed _ _ after error admitted coalesce dispatched
  · simp only [bind, andThen, attempt, dispatched]
    exact .handled _ _ eventCount after _ admitted coalesce dispatched

/-! ### Calls -/

/-- A call on the registry. -/
inductive Operation
  | handleSessionEvent (sessionId : SessionId) (event : ControlInputEvent)
  | handleAuthenticatedSessionEvent (sessionId : SessionId) (scope : ControlInputScope)
      (event : ControlInputEvent)
  | releaseSessionScope (sessionId : SessionId) (scope : ControlInputScope)
  | releaseSessionAll (sessionId : SessionId)
  | releaseAllSessions
  | freezeSessionForMigration (sessionId : SessionId)
  | thawSessionAfterMigration (sessionId : SessionId)

/-- The registry a call leaves, with coalescing on or off. -/
def performWith (coalescing : Bool) (registry : ControlInputRegistry σ) :
    Operation → ControlInputRegistry σ
  | .handleSessionEvent sessionId event =>
    (handleEventWith injector order coalescing (some sessionId) event none registry).1
  | .handleAuthenticatedSessionEvent sessionId scope event =>
    (handleEventWith injector order coalescing (some sessionId) event (some scope) registry).1
  | .releaseSessionScope sessionId scope =>
    (releaseSessionScope injector order sessionId scope registry).1
  | .releaseSessionAll sessionId => (releaseSessionAll injector order sessionId registry).1
  | .releaseAllSessions => (releaseAllSessions injector order registry).1
  | .freezeSessionForMigration sessionId =>
    (freezeSessionForMigration injector order sessionId registry).1
  | .thawSessionAfterMigration sessionId => (thawSessionAfterMigration sessionId registry).1

/-- **A run of calls**; each iterates the hash sets in an order of its own. -/
def runWith (coalescing : Bool) (registry : ControlInputRegistry σ)
    (calls : List (IterationOrder × Operation)) : ControlInputRegistry σ :=
  calls.foldl (fun registry call => performWith injector call.1 coalescing registry call.2) registry

/-- A run of the registry of the source. -/
def run (registry : ControlInputRegistry σ) (calls : List (IterationOrder × Operation)) :
    ControlInputRegistry σ :=
  runWith injector true registry calls

/-! ### What a release can do -/

section Releases

open Procedure

variable {R : ControlInputRegistry σ → ControlInputRegistry σ → Prop}
  [IsPreorder _ R]

/-- The steps a release of held input is made of move along `R`. -/
structure HeldSteps (R : ControlInputRegistry σ → ControlInputRegistry σ → Prop) : Prop where
  transition : ∀ sessionId input pressed, Moves R (transitionSession injector sessionId input pressed)
  reset : ∀ registry, R registry (resetInputIfIdle injector registry)

/-- The steps every release is made of move along `R`. -/
structure ReleaseSteps (R : ControlInputRegistry σ → ControlInputRegistry σ → Prop) : Prop extends
    HeldSteps injector R where
  forget : ∀ sessionId registry, R registry (forgetMouseMove sessionId registry)

variable {injector}

theorem HeldSteps.releaseHeld (steps : HeldSteps injector R) (sessionId : SessionId)
    (scope : ControlInputScope) : Moves R (releaseHeld injector order sessionId scope) := by
  refine .bind .read fun registry => ?_
  split
  · exact .bind (.change steps.reset) fun _ => .pure _
  · refine .bind (.forEach (fun input released => ?_) _ _) fun _ => ?_
    · exact .bind (steps.transition sessionId input false) fun _ => .pure _
    · exact .bind (.change steps.reset) fun _ => .pure _

section

variable (steps : ReleaseSteps injector R)
include steps

theorem ReleaseSteps.releaseSessionScope (sessionId : SessionId) (scope : ControlInputScope) :
    Moves R (releaseSessionScope injector order sessionId scope) := by
  unfold ControlInputRegistry.releaseSessionScope
  split
  · exact .bind (.change (steps.forget sessionId)) fun _ => steps.releaseHeld order sessionId scope
  · exact steps.releaseHeld order sessionId scope

theorem ReleaseSteps.releaseSessionAll (sessionId : SessionId) :
    Moves R (releaseSessionAll injector order sessionId) :=
  .bind (steps.releaseSessionScope order sessionId .pointer) fun _ =>
    .bind (steps.releaseSessionScope order sessionId .keyboard) fun _ => .pure _

theorem ReleaseSteps.releasePending (sessionId : SessionId) (round : ReleaseRound) :
    Moves R (releasePending injector order sessionId round) := by
  refine .bind (.attempt (steps.releaseSessionAll order sessionId)) fun answer => ?_
  split
  · exact .pure _
  · exact .pure _

theorem ReleaseSteps.releaseRounds (rounds : Nat) (pending : List SessionId) (released : Nat)
    (lastError : Option InputError) :
    Moves R (releaseRounds injector order rounds pending released lastError) := by
  induction rounds generalizing pending released lastError with
  | zero =>
    unfold ControlInputRegistry.releaseRounds
    split
    · exact .fail _
    · exact .pure _
  | succ rounds ih =>
    refine .bind (.forEach (steps.releasePending order) _ _) fun round => ?_
    split
    · exact .pure _
    · exact ih _ _ _

theorem ReleaseSteps.releaseAllSessions :
    Moves R (releaseAllSessions injector order) :=
  .bind .read fun _ => steps.releaseRounds order 3 _ _ _

end

end Releases

end ControlInputRegistry

end MiniRemoteDesktop.Input
