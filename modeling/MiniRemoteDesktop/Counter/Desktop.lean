/-
**The signing counter of the desktop service** (`signaling/counter.rs`).

The counter is kept encrypted, next to a marker file that says it was once initialised; a key seen
for the first time starts above every number of the older, unsaved sequence. Reservations work as
the server's do.

* `PersistentSignalingCounter.open`, `reserve`, `next` — the code.
* `Desktop`, `step` — the two files over any sequence of lifetimes; `Desktop.Sound` the invariant.
-/

import MiniRemoteDesktop.Counter.Server
import MiniRemoteDesktop.Lib.Text

namespace MiniRemoteDesktop.Counter

open Except (toOption)
open Durable Execution
open Checked

inductive SignalingCounterError
  | invalidConfiguration
  | unavailable
  | unsafePermissions
  | alreadyLocked
  | invalidState
  | exhausted

@[irreducible] def reservationSize : UInt64 := 1048576

@[irreducible] def legacyMigrationFloor : UInt64 := 281474976710656

def maxProtectedBytes : Nat := 4096

structure InitializationMarker where
  formatVersion : UInt8
  keyId : String

/-- `dyn SecretProtector`; the first argument of `protect` is the randomness of the call. -/
structure SecretProtector where
  protect : List UInt8 → List UInt8 → List UInt8 → Option (List UInt8)
  unprotect : List UInt8 → List UInt8 → Option (List UInt8)

/-- **What the counter relies on**: a protected text is unprotected to what it was made of, and no
proper beginning of it is accepted. -/
structure SecretProtector.Complete (protector : SecretProtector) : Prop where
  opens : ∀ randomness purpose plain output,
    protector.protect randomness purpose plain = some output →
    protector.unprotect purpose output = some plain
  whole : ∀ randomness purpose plain output count,
    protector.protect randomness purpose plain = some output → count < output.length →
    protector.unprotect purpose (output.take count) = none

def purposeFor (tag : String) (keyId : String) : List UInt8 :=
  Text.bytes tag ++ 0 :: Text.bytes keyId

def counterPurpose (keyId : String) : List UInt8 := purposeFor "MRD_CLIENT_SIGNAL_COUNTER_V1" keyId

def markerPurpose (keyId : String) : List UInt8 :=
  purposeFor "MRD_CLIENT_SIGNAL_COUNTER_INITIALIZED_V1" keyId

/-- How a protected write goes: the randomness of the protection and how far the rewrite gets. -/
structure Writing where
  randomness : List UInt8
  stop : Stop

def writeProtected {T : Type} (format : JsonFormat T) (protector : SecretProtector)
    (purpose : List UInt8) (value : T) (writing : Writing) (file : File UInt8) :
    File UInt8 × Except SignalingCounterError Unit :=
  match protector.protect writing.randomness purpose (format.toVec value) with
  | none => (file, .error .unavailable)
  | some output =>
    if output = [] ∨ maxProtectedBytes < output.length then (file, .error .invalidState)
    else
      match file.rewrite output writing.stop with
      | (file, false) => (file, .error .unavailable)
      | (file, true) => (file, .ok ())

/-- `read_protected`, of what the file holds. -/
def readProtected {T : Type} (format : JsonFormat T) (protector : SecretProtector)
    (purpose : List UInt8) (content : Option (List UInt8)) : Except SignalingCounterError T := do
  let bytes ← content.elim (throw .unavailable) pure
  if maxProtectedBytes < bytes.length then throw .invalidState
  let plaintext ← (protector.unprotect purpose bytes).elim (throw .invalidState) pure
  (format.fromSlice plaintext).elim (throw .invalidState) pure

/-- What the counter is compiled with: the formats of its two files, the protector and the key. -/
structure CounterSetup where
  states : JsonFormat CounterState
  markers : JsonFormat InitializationMarker
  protector : SecretProtector
  keyId : String

/-- `Reservation`, apart from its file. -/
structure Reservation where
  state : CounterState
  next : UInt64

namespace PersistentSignalingCounter

/-- `reserve`; on an error the reservation is as it was. -/
def reserve (setup : CounterSetup) (writing : Writing) (file : File UInt8)
    (reservation : Reservation) : File UInt8 × Except SignalingCounterError Reservation :=
  match checkedAddU64 reservation.state.reservedThrough reservationSize with
  | none => (file, .error .exhausted)
  | some reservedThrough =>
    let newState : CounterState := ⟨1, reservation.state.keyId, reservedThrough⟩
    match writeProtected setup.states setup.protector (counterPurpose setup.keyId) newState writing
      file with
    | (file, .error error) => (file, .error error)
    | (file, .ok ()) => (file, .ok { reservation with state := newState })

/-- `next`: the file, the reservation and the answer after the call. -/
def next (setup : CounterSetup) (writing : Writing) (file : File UInt8)
    (reservation : Reservation) :
    File UInt8 × Reservation × Except SignalingCounterError UInt64 :=
  let (file, reserved) := if reservation.state.reservedThrough < reservation.next then
      reserve setup writing file reservation
    else (file, .ok reservation)
  match reserved with
  | .error error => (file, reservation, .error error)
  | .ok reservation =>
    match checkedAddU64 reservation.next 1 with
    | none => (file, reservation, .error .exhausted)
    | some following => (file, { reservation with next := following }, .ok reservation.next)

/-- What `open` finds on its way: whether its arguments and the directory are acceptable, whether
the two files can be looked up and opened, and how its writes go. -/
structure Opening where
  arguments : Bool
  directory : Except SignalingCounterError Unit
  lookups : Bool
  (counterOpened markerOpened : Except SignalingCounterError Unit)
  (markerWriting stateWriting : Writing)
  directorySynced : Bool
  reserving : Writing

/-- `openCounterprivate`: `opened` is what the system says of the path and its permissions. -/
def openPrivate (opened : Except SignalingCounterError Unit) (create : Bool) (file : File UInt8) :
    Except SignalingCounterError (File UInt8) := do
  opened
  if create then file.create.elim (throw .unavailable) pure
  else
    let bytes ← file.current.elim (throw .unavailable) pure
    if maxProtectedBytes < bytes.length then throw .invalidState
    return file

/-- The checks of `open` on files that are both there. -/
def resume (setup : CounterSetup) (counter marker : File UInt8) (opening : Opening) :
    Except SignalingCounterError CounterState := do
  let marker ← openPrivate opening.markerOpened false marker
  let initialized ← readProtected setup.markers setup.protector (markerPurpose setup.keyId)
    marker.current
  if initialized.formatVersion ≠ 1 ∨ initialized.keyId ≠ setup.keyId then throw .invalidState
  let state ← readProtected setup.states setup.protector (counterPurpose setup.keyId) counter.current
  if state.formatVersion ≠ 1 ∨ state.keyId ≠ setup.keyId ∨
      state.reservedThrough < legacyMigrationFloor then throw .invalidState
  return state

/-- The state that a key seen for the first time starts from. -/
def firstState (setup : CounterSetup) : CounterState := ⟨1, setup.keyId, legacyMigrationFloor⟩

/-- The part of `open` that initialises both files: the marker is written first. -/
def initialise (setup : CounterSetup) (counter marker : File UInt8) (opening : Opening) :
    File UInt8 × File UInt8 × Except SignalingCounterError CounterState :=
  match openPrivate opening.markerOpened true marker with
  | .error error => (counter, marker, .error error)
  | .ok marker =>
    match writeProtected setup.markers setup.protector (markerPurpose setup.keyId)
      ⟨1, setup.keyId⟩ opening.markerWriting marker with
    | (marker, .error error) => (counter, marker, .error error)
    | (marker, .ok ()) =>
      match writeProtected setup.states setup.protector (counterPurpose setup.keyId)
        (firstState setup) opening.stateWriting counter with
      | (counter, .error error) => (counter, marker, .error error)
      | (counter, .ok ()) =>
        if opening.directorySynced then (counter, marker, .ok (firstState setup))
        else (counter, marker, .error .unavailable)

/-- The checks of `open` before it touches the counter file. -/
def precheck (counter marker : File UInt8) (opening : Opening) :
    Except SignalingCounterError Unit := do
  if !opening.arguments then throw .invalidConfiguration
  opening.directory
  if !opening.lookups then throw .unavailable
  if counter.current.isSome ≠ marker.current.isSome then throw .invalidState

/-- The state `open` continues from; `held` says that another lifetime has the lock. -/
def openState (setup : CounterSetup) (counter marker : File UInt8) (held : Bool) (opening : Opening) :
    File UInt8 × File UInt8 × Except SignalingCounterError CounterState :=
  match openPrivate opening.counterOpened counter.current.isNone counter with
  | .error error => (counter, marker, .error error)
  | .ok opened =>
    if held then (opened, marker, .error .alreadyLocked)
    else if counter.current.isSome then (opened, marker, resume setup opened marker opening)
    else initialise setup opened marker opening

/-- `open`: the two files and the reservation it returns. -/
def openCounter (setup : CounterSetup) (counter marker : File UInt8) (held : Bool) (opening : Opening) :
    File UInt8 × File UInt8 × Except SignalingCounterError Reservation :=
  match precheck counter marker opening with
  | .error error => (counter, marker, .error error)
  | .ok () =>
    match openState setup counter marker held opening with
    | (counter, marker, .error error) => (counter, marker, .error error)
    | (counter, marker, .ok state) =>
      match checkedAddU64 state.reservedThrough 1 with
      | none => (counter, marker, .error .exhausted)
      | some next =>
        let (counter, result) := reserve setup opening.reserving counter ⟨state, next⟩
        (counter, marker, result)

end PersistentSignalingCounter

/-! ### Lifetimes over the two files of a key -/

/-- The two files, the reservation of the lifetime that holds the lock, and every number that any
lifetime has returned, in order. -/
structure Desktop where
  (counter marker : File UInt8)
  reservation : Option Reservation
  returned : List UInt64

inductive DesktopEvent
  | opening (opening : PersistentSignalingCounter.Opening) (dies : Bool)
  | next (writing : Writing) (dies : Bool)
  | drop
  | crash (counter marker : Option (List UInt8))

namespace Desktop

/-- One event, as for the server; a crash of the machine may set back either file. -/
def step (setup : CounterSetup) (desktop : Desktop) : DesktopEvent → Option Desktop
  | .opening opening dies =>
    let (counter, marker, result) := PersistentSignalingCounter.openCounter setup desktop.counter
      desktop.marker desktop.reservation.isSome opening
    match desktop.reservation with
    | some _ => some { desktop with counter, marker }
    | none =>
      some { desktop with counter, marker, reservation := if dies then none else result.toOption }
  | .next writing dies =>
    desktop.reservation.map fun reservation =>
      let (counter, reservation, answer) := PersistentSignalingCounter.next setup writing
        desktop.counter reservation
      if dies then { desktop with counter, reservation := none }
      else
        { desktop with
          counter
          reservation := some reservation
          returned := desktop.returned ++ answer.toOption.toList }
  | .drop => desktop.reservation.map fun _ => { desktop with reservation := none }
  | .crash counter marker => do
    let counter ← desktop.counter.crash counter
    let marker ← desktop.marker.crash marker
    return { desktop with counter, marker, reservation := none }

/-- No lifetime has run yet. -/
def fresh (counter marker : File UInt8) : Desktop := ⟨counter, marker, none, []⟩

end Desktop

/-! ### The invariant -/

/-- What a lifetime of the service resumes from: a missing counter is a first start. -/
def desktopRestart (setup : CounterSetup) : Option (List UInt8) → Option UInt64
  | none => some legacyMigrationFloor
  | some bytes =>
    ((setup.protector.unprotect (counterPurpose setup.keyId) bytes).bind
      setup.states.fromSlice).map CounterState.reservedThrough

section Sound

variable {setup : CounterSetup} {returned : List UInt64}

variable {state : CounterState}

variable {randomness output : List UInt8}

variable {T : Type}

variable {protector : SecretProtector} {purpose : List UInt8}

/-- A lifetime of the service that holds a reservation. -/
structure Reserving (setup : CounterSetup) (file : File UInt8) (reservation : Reservation)
    (returned : List UInt64) : Prop where
  held : Held (desktopRestart setup) file reservation.state.reservedThrough reservation.next returned
  reserved : legacyMigrationFloor.toNat < reservation.state.reservedThrough.toNat
  upcoming : legacyMigrationFloor.toNat < reservation.next.toNat

/-- **The invariant over lifetimes.** -/
def Desktop.Sound (setup : CounterSetup) (desktop : Desktop) : Prop :=
  (∀ number ∈ desktop.returned, legacyMigrationFloor.toNat < number.toNat) ∧
    match desktop.reservation with
    | none => Issued (desktopRestart setup) desktop.counter desktop.returned
    | some reservation => Reserving setup desktop.counter reservation desktop.returned

variable {file : File UInt8}

variable {opening : PersistentSignalingCounter.Opening} {counter marker : File UInt8}

variable {reservation : Reservation}

/-- The number is handed out from a reservation that covers it. -/
theorem Reserving.issue (reserving : Reserving setup file reservation returned)
    (available : reservation.next.toNat ≤ reservation.state.reservedThrough.toNat) :
    ∃ after answer, (match checkedAddU64 reservation.next 1 with
        | none => (file, reservation, Except.error SignalingCounterError.exhausted)
        | some following =>
          (file, { reservation with next := following }, .ok reservation.next)) =
        (file, after, answer) ∧
      Reserving setup file after (returned ++ answer.toOption.toList) ∧
      ∀ number ∈ answer.toOption, legacyMigrationFloor.toNat < number.toNat := by
  cases added : checkedAddU64 reservation.next 1 with
  | none =>
    refine ⟨reservation, _, rfl, ?_, by simp [toOption]⟩
    simpa [toOption] using reserving
  | some following =>
    have successor : following.toNat = reservation.next.toNat + 1 := checkedAddU64_eq_some added
    have upcoming := reserving.upcoming
    refine ⟨_, _, rfl, ⟨reserving.held.issue available successor, reserving.reserved, ?_⟩, ?_⟩
    · show _ < following.toNat
      omega
    · rintro number ⟨⟩
      exact upcoming

end Sound

/-! ### Both programs -/

end MiniRemoteDesktop.Counter
