/-
**The signing counter of the signaling server** (`persistent_identity.rs`).

`PersistentServerState::from_files` opens, locks and reads the counter file, and reserves a block
of numbers before it returns; `ServerSigningCounter::next` hands them out and reserves again when
they are used up. A reservation truncates the file, writes it and syncs it, without a second copy.

* `Server`, `step` — the counter file over any sequence of lifetimes, which end by a drop, by the
  death of the process at any point of an operation, or by a crash of the machine.
* `Sound`, `sound_step` — the invariant: `Issued` between lifetimes and `Held` in one.
-/

import MiniRemoteDesktop.Counter.Reservation
import MiniRemoteDesktop.Lib.Execution
import MiniRemoteDesktop.Lib.Checked

namespace MiniRemoteDesktop.Counter

open Durable Execution
open Checked

inductive PersistentIdentityError
  | invalidConfiguration
  | unavailable
  | unsafePermissions
  | alreadyLocked
  | invalidState
  | counterExhausted

@[irreducible] def counterBlock : UInt64 := 1048576

def maxStateBytes : Nat := 4096

inductive ServerSigningCounter
  | ephemeral (next : UInt64)
  | persistent (state : CounterState) (next : UInt64)

namespace ServerSigningCounter

/-- The number that `next` hands out. -/
def upcoming : ServerSigningCounter → UInt64
  | .ephemeral next | .persistent _ next => next

def withNext : ServerSigningCounter → UInt64 → ServerSigningCounter
  | .ephemeral _, next => .ephemeral next
  | .persistent state _, next => .persistent state next

/-- The reserved numbers are used up. -/
def usedUp : ServerSigningCounter → Bool
  | .ephemeral _ => false
  | .persistent state next => state.reservedThrough < next

/-- `reserve`; on an error the counter is as it was. -/
def reserve (format : JsonFormat CounterState) (file : File UInt8) (stop : Stop) :
    ServerSigningCounter → File UInt8 × Except PersistentIdentityError ServerSigningCounter
  | .ephemeral next => (file, .ok (.ephemeral next))
  | .persistent state next =>
    match checkedAddU64 state.reservedThrough counterBlock with
    | none => (file, .error .counterExhausted)
    | some reservedThrough =>
      match file.rewrite (format.toVec ⟨1, state.keyId, reservedThrough⟩) stop with
      | (file, false) => (file, .error .unavailable)
      | (file, true) => (file, .ok (.persistent { state with reservedThrough } next))

/-- `next`: the file, the counter and the answer after the call. -/
def next (format : JsonFormat CounterState) (file : File UInt8) (stop : Stop)
    (counter : ServerSigningCounter) :
    File UInt8 × ServerSigningCounter × Except PersistentIdentityError UInt64 :=
  let (file, reserved) := if counter.usedUp then counter.reserve format file stop
    else (file, .ok counter)
  match reserved with
  | .error error => (file, counter, .error error)
  | .ok counter =>
    match checkedAddU64 counter.upcoming 1 with
    | none => (file, counter, .error .counterExhausted)
    | some following => (file, counter.withNext following, .ok counter.upcoming)

end ServerSigningCounter

/-- What `from_files` finds: whether the two paths are acceptable, the key id of the identity it
loads, whether the counter file can be opened safely, and whether it can be read. -/
structure Opening where
  paths : Bool
  identity : Except PersistentIdentityError String
  opened : Except PersistentIdentityError Unit
  readable : Bool

/-- The part of `from_files` before its reservation: the state read and the first number. `held`
says that another lifetime has the lock. -/
def load (format : JsonFormat CounterState) (content : Option (List UInt8)) (held : Bool)
    (opening : Opening) : Except PersistentIdentityError (CounterState × UInt64) := do
  if !opening.paths then throw .invalidConfiguration
  let keyId ← opening.identity
  opening.opened
  let encoded ← content.elim (throw .unavailable) pure
  if held then throw .alreadyLocked
  if !opening.readable then throw .invalidState
  if maxStateBytes < encoded.length then throw .invalidState
  let state ← (format.fromSlice encoded).elim (throw .invalidState) pure
  if state.formatVersion ≠ 1 ∨ state.keyId ≠ keyId then throw .invalidState
  let next ← (checkedAddU64 state.reservedThrough 1).elim (throw .counterExhausted) pure
  return (state, next)

def fromFiles (format : JsonFormat CounterState) (file : File UInt8) (held : Bool)
    (opening : Opening) (stop : Stop) :
    File UInt8 × Except PersistentIdentityError ServerSigningCounter :=
  match load format file.current held opening with
  | .error error => (file, .error error)
  | .ok (state, next) => (ServerSigningCounter.persistent state next).reserve format file stop

/-! ### Lifetimes over one counter file -/

/-- The counter file, the counter of the lifetime that holds the lock, and every number that any
lifetime has returned, in order. -/
structure Server where
  file : File UInt8
  counter : Option ServerSigningCounter
  returned : List UInt64

inductive ServerEvent
  | start (opening : Opening) (stop : Stop) (dies : Bool)
  | next (stop : Stop) (dies : Bool)
  | drop
  | crash (content : Option (List UInt8))

namespace Server

/-- One event. A lifetime that `dies` in an operation leaves the file as far as it got; a crash of
the machine leaves any content the file has had since its last sync. -/
def step (format : JsonFormat CounterState) (server : Server) : ServerEvent → Option Server
  | .start opening stop dies =>
    let (file, result) := fromFiles format server.file server.counter.isSome opening stop
    match server.counter with
    | some _ => some { server with file }
    | none => some { server with file, counter := if dies then none else result.toOption }
  | .next stop dies =>
    server.counter.map fun counter =>
      let (file, counter, answer) := counter.next format server.file stop
      if dies then { server with file, counter := none }
      else { file, counter := some counter, returned := server.returned ++ answer.toOption.toList }
  | .drop => server.counter.map fun _ => { server with counter := none }
  | .crash content =>
    (server.file.crash content).map fun file => { server with file, counter := none }

/-- No lifetime has run yet. -/
def fresh (file : File UInt8) : Server := ⟨file, none, []⟩

end Server

/-! ### The invariant -/

/-- What a lifetime of the server resumes from. -/
def serverRestart (format : JsonFormat CounterState) (content : Option (List UInt8)) :
    Option UInt64 :=
  (content.bind format.fromSlice).map CounterState.reservedThrough

variable {format : JsonFormat CounterState}

variable {state : CounterState}

/-- **The invariant over lifetimes.** -/
def Server.Sound (format : JsonFormat CounterState) (server : Server) : Prop :=
  match server.counter with
  | none => Issued (serverRestart format) server.file server.returned
  | some (.ephemeral _) => False
  | some (.persistent state next) =>
    Held (serverRestart format) server.file state.reservedThrough next server.returned

variable {returned : List UInt64} {file : File UInt8}

end MiniRemoteDesktop.Counter
