/-
**Transactions that hold named locks until they commit.**

A request waits until it has its locks, reads a shared state as it is committed, and later commits; in
between others commit. What it read may be old by then, except for the part that its locks protect.

* `Protocol` — the locks of a request, what its commit makes of the shared state, given what it read, and
  what may happen to that state without any lock.
* `step` — the interleavings: requests start, look again, commit and are given up.
* `shared_invariant` — **the invariant rule**: for a commit, what was read may be taken to agree on its
  locks.
-/

import Mathlib.Data.List.Pairwise
import MiniRemoteDesktop.Lib.Execution

namespace Locking

open Execution

variable {ρ σ κ : Type}

structure Protocol (ρ σ κ : Type) where
  locks : ρ → List κ
  commit : σ → σ → ρ → Option σ
  outside : σ → σ → Bool

/-- A request under way, and the state that it read. -/
structure Flight (ρ σ : Type) where
  request : ρ
  view : σ

structure System (ρ σ : Type) where
  shared : σ
  flights : List (Flight ρ σ)

inductive Event (ρ σ : Type)
  | start (request : ρ)
  | look (index : Nat)
  | commit (index : Nat)
  | giveUp (index : Nat)
  | outside (after : σ)

/-- None of the locks is held. -/
def free [DecidableEq κ] (protocol : Protocol ρ σ κ) (flights : List (Flight ρ σ)) (request : ρ) : Bool :=
  flights.all fun flight => (protocol.locks request).all fun lock => lock ∉ protocol.locks flight.request

/-- The flight has read the state again. -/
def Flight.looked (flight : Flight ρ σ) (shared : σ) : Flight ρ σ := { flight with view := shared }

def step [DecidableEq κ] (protocol : Protocol ρ σ κ) (system : System ρ σ) : Event ρ σ → Option (System ρ σ)
  | .start request =>
    if free protocol system.flights request then
      some { system with flights := ⟨request, system.shared⟩ :: system.flights }
    else none
  | .look index => some { system with flights := system.flights.modify index (·.looked system.shared) }
  | .commit index =>
    match system.flights[index]? with
    | none => none
    | some flight => some
      { shared := (protocol.commit flight.view system.shared flight.request).getD system.shared
        flights := system.flights.eraseIdx index }
  | .giveUp index => some { system with flights := system.flights.eraseIdx index }
  | .outside after => if protocol.outside system.shared after then some { system with shared := after } else none

/-- **What the locks protect**: commits and the outside keep to it. -/
structure Frames (protocol : Protocol ρ σ κ) (Agree : κ → σ → σ → Prop) : Prop where
  refl : ∀ lock shared, Agree lock shared shared
  trans : ∀ lock first second third, Agree lock first second → Agree lock second third → Agree lock first third
  commit : ∀ view shared request after, protocol.commit view shared request = some after →
    ∀ lock, lock ∉ protocol.locks request → Agree lock shared after
  outside : ∀ shared after, protocol.outside shared after = true → ∀ lock, Agree lock shared after

/-- No two requests hold one lock, and each knows what its locks protect. -/
structure Locked (protocol : Protocol ρ σ κ) (Agree : κ → σ → σ → Prop) (system : System ρ σ) : Prop where
  apart : system.flights.Pairwise fun one other =>
    ∀ lock ∈ protocol.locks one.request, lock ∉ protocol.locks other.request
  current : ∀ flight ∈ system.flights, ∀ lock ∈ protocol.locks flight.request,
    Agree lock flight.view system.shared

variable {protocol : Protocol ρ σ κ} {Agree : κ → σ → σ → Prop} {system later : System ρ σ}

theorem locked_start {shared : σ} : Locked protocol Agree ⟨shared, []⟩ :=
  ⟨List.Pairwise.nil, fun _ member => nomatch member⟩

variable {flights : List (Flight ρ σ)}

/-- The other requests hold none of the locks of one of them. -/
theorem Locked.others {index : Nat} {flight other : Flight ρ σ}
    (apart : flights.Pairwise fun one other => ∀ lock ∈ protocol.locks one.request,
      lock ∉ protocol.locks other.request)
    (found : flights[index]? = some flight) (member : other ∈ flights.eraseIdx index) :
    ∀ lock ∈ protocol.locks other.request, lock ∉ protocol.locks flight.request := by
  induction flights generalizing index with
  | nil => cases found
  | cons first rest ih =>
    obtain ⟨before, apart⟩ := List.pairwise_cons.mp apart
    cases index with
    | zero =>
      cases found
      exact fun lock held own => before other member lock own held
    | succ index =>
      rw [List.getElem?_cons_succ] at found
      rw [List.eraseIdx_cons_succ] at member
      rcases List.mem_cons.mp member with rfl | there
      · exact before flight (List.mem_of_getElem? found)
      · exact ih apart found there

theorem apart_looked {shared : σ} (index : Nat)
    (apart : flights.Pairwise fun one other => ∀ lock ∈ protocol.locks one.request,
      lock ∉ protocol.locks other.request) :
    (flights.modify index (·.looked shared)).Pairwise fun one other =>
      ∀ lock ∈ protocol.locks one.request, lock ∉ protocol.locks other.request := by
  have same : (flights.modify index (·.looked shared)).map (·.request) = flights.map (·.request) := by
    refine List.ext_getElem? fun position => ?_
    rw [List.getElem?_map, List.getElem?_map, List.getElem?_modify]
    cases flights[position]? with
    | none => rfl
    | some flight =>
      show some (if index = position then flight.looked shared else flight).request = some flight.request
      split <;> rfl
  have requests : (flights.map (·.request)).Pairwise fun one other =>
      ∀ lock ∈ protocol.locks one, lock ∉ protocol.locks other := List.pairwise_map.mpr apart
  rw [← same] at requests
  exact List.pairwise_map.mp requests

theorem locked_step [DecidableEq κ] {event : Event ρ σ} (frames : Frames protocol Agree)
    (locked : Locked protocol Agree system) (taken : step protocol system event = some later) :
    Locked protocol Agree later := by
  cases event with
  | start request =>
    unfold step at taken
    dsimp only at taken
    split at taken
    next clear =>
      cases taken
      have clear := List.all_eq_true.mp clear
      refine ⟨List.pairwise_cons.mpr ⟨fun other member lock own => ?_, locked.apart⟩, fun flight member => ?_⟩
      · exact of_decide_eq_true (List.all_eq_true.mp (clear other member) lock own)
      · rcases List.mem_cons.mp member with rfl | stood
        · exact fun lock _ => frames.refl lock system.shared
        · exact locked.current flight stood
    · cases taken
  | look index =>
    cases taken
    refine ⟨apart_looked index locked.apart, fun flight member => ?_⟩
    obtain ⟨position, _, found⟩ := List.getElem_of_mem member
    rw [List.getElem_modify] at found
    split at found
    · rw [← found]
      exact fun lock _ => frames.refl lock system.shared
    · exact locked.current flight (found ▸ List.getElem_mem _)
  | commit index =>
    unfold step at taken
    dsimp only at taken
    split at taken
    · cases taken
    next flight found =>
      cases taken
      refine ⟨locked.apart.sublist (List.eraseIdx_sublist _ _), fun other member lock held => ?_⟩
      have known := locked.current other ((List.eraseIdx_sublist _ _).subset member) lock held
      have clear := Locked.others locked.apart found member lock held
      cases outcome : protocol.commit flight.view system.shared flight.request with
      | none => exact known
      | some after =>
        exact frames.trans lock _ _ _ known (frames.commit _ _ _ _ outcome lock clear)
  | giveUp index =>
    cases taken
    exact ⟨locked.apart.sublist (List.eraseIdx_sublist _ _),
      fun other member => locked.current other ((List.eraseIdx_sublist _ _).subset member)⟩
  | outside after =>
    unfold step at taken
    dsimp only at taken
    split at taken
    next fits =>
      cases taken
      exact ⟨locked.apart, fun flight member lock held =>
        frames.trans lock _ _ _ (locked.current flight member lock held) (frames.outside _ _ fits lock)⟩
    · cases taken

/-- **The invariant rule.** -/
theorem shared_invariant [DecidableEq κ] {I : σ → Prop} (frames : Frames protocol Agree)
    (reach : Reach (step protocol) always system later) (locked : Locked protocol Agree system)
    (start : I system.shared)
    (commits : ∀ view shared request after, I shared →
      (∀ lock ∈ protocol.locks request, Agree lock view shared) →
      protocol.commit view shared request = some after → I after)
    (outside : ∀ shared after, I shared → protocol.outside shared after = true → I after) :
    Locked protocol Agree later ∧ I later.shared := by
  refine reach.invariant (I := fun system => Locked protocol Agree system ∧ I system.shared)
    ⟨locked, start⟩ ?_
  intro middle event next ⟨locked, holds⟩ _ taken
  refine ⟨locked_step frames locked taken, ?_⟩
  cases event with
  | start request =>
    unfold step at taken
    dsimp only at taken
    split at taken
    · cases taken
      exact holds
    · cases taken
  | look index | giveUp index =>
    cases taken
    exact holds
  | commit index =>
    unfold step at taken
    dsimp only at taken
    split at taken
    · cases taken
    next flight found =>
      cases taken
      cases outcome : protocol.commit flight.view middle.shared flight.request with
      | none => exact holds
      | some after =>
        exact commits _ _ _ _ holds (locked.current flight (List.mem_of_getElem? found)) outcome
  | outside after =>
    unfold step at taken
    dsimp only at taken
    split at taken
    next fits =>
      cases taken
      exact outside _ _ holds fits
    · cases taken

end Locking
