/-
**The replay window of the control lane** (`mrd-session`, `control_envelope.rs`).

`ControlSequenceWindow` keeps the observations of the last `width` sequence numbers in two maps:
`bySequence` (what was observed at a sequence) and `sequenceByEvent` (where an event identifier was
used). `observe` answers `FirstSeen`, `ExactRetry` or an error and prunes below a moving floor.

* `observe_consistent` — one call keeps it; `observeAll_safe` — any run of calls from `new` keeps it
  together with the history of accepted sequences (`History`).
* `controlSequenceWindow_replay_safe` — what a caller may rely on, over every run.
-/

import MiniRemoteDesktop.Lib.Table
import Mathlib.Data.Finset.Sort
import Mathlib.Data.UInt
import Mathlib.Order.Interval.Finset.Nat

namespace MiniRemoteDesktop.Session

open Finmap (lookup_insert lookup_insert_of_ne mem_iff mem_keys)

/-! ### The window -/

def controlSequenceWindowMaxWidth : Nat := 4096

inductive ControlSequenceDecision
  | firstSeen
  | exactRetry
  deriving DecidableEq

inductive ControlSequenceError
  | invalid
  | duplicate
  | outOfWindow
  deriving DecidableEq

/-- A `[u8; 32]` commitment of the authenticated event. -/
abbrev Commitment := Vector UInt8 32

structure ControlSequenceObservation where
  eventId : UInt64
  commitment : Commitment

structure ControlSequenceWindow where
  width : Nat
  highest : Option UInt64
  bySequence : Finmap fun _ : UInt64 => ControlSequenceObservation
  sequenceByEvent : Finmap fun _ : UInt64 => UInt64

def saturatingSub (a b : UInt64) : UInt64 := if a ≤ b then 0 else a - b

/-- The lowest sequence that is still inside the window. -/
def replayFloor (highest : UInt64) (width : Nat) : UInt64 :=
  saturatingSub highest (saturatingSub (UInt64.ofNat width) 1)

/-! ### The floor -/

theorem saturatingSub_toNat (a b : UInt64) : (saturatingSub a b).toNat = a.toNat - b.toNat := by
  unfold saturatingSub
  split
  next below =>
    have := UInt64.le_iff_toNat_le.mp below
    simp only [UInt64.toNat_zero]
    omega
  next above =>
    exact UInt64.toNat_sub_of_le a b (by grind)

/-- **No wrap.** The floor is the subtraction of natural numbers, for every sequence up to
`u64::MAX` and every width the constructor can produce. -/
theorem replayFloor_toNat (highest : UInt64) {width : Nat}
    (bounded : width ≤ controlSequenceWindowMaxWidth) :
    (replayFloor highest width).toNat = highest.toNat - (width - 1) := by
  have small : width < 2 ^ 64 := lt_of_le_of_lt bounded (by decide)
  simp [replayFloor, saturatingSub_toNat, UInt64.toNat_ofNat_of_lt' small]

theorem replayFloor_mono {lower higher : UInt64} (width : Nat) (le : lower ≤ higher) :
    replayFloor lower width ≤ replayFloor higher width := by
  rw [UInt64.le_iff_toNat_le] at le ⊢
  simp only [replayFloor, saturatingSub_toNat]
  omega

namespace ControlSequenceWindow

/-- `width.clamp(1, CONTROL_SEQUENCE_WINDOW_MAX_WIDTH)` and empty maps. -/
def new (width : Nat) : ControlSequenceWindow where
  width := max 1 (min width controlSequenceWindowMaxWidth)
  highest := none
  bySequence := ∅
  sequenceByEvent := ∅

def len (window : ControlSequenceWindow) : Nat := window.bySequence.keys.card

def capacity (window : ControlSequenceWindow) : Nat := window.width

/-- Forget one stale observation in both maps. -/
def forget (window : ControlSequenceWindow) (entry : UInt64 × UInt64) : ControlSequenceWindow :=
  { window with
    bySequence := window.bySequence.erase entry.1
    sequenceByEvent := window.sequenceByEvent.erase entry.2 }

/-- `by_sequence.range(..floor)` as (sequence, event) pairs, in ascending order. -/
def staleBelow (window : ControlSequenceWindow) (floor : UInt64) : List (UInt64 × UInt64) :=
  ((window.bySequence.keys.filter (· < floor)).sort (· ≤ ·)).filterMap fun sequence =>
    (window.bySequence.lookup sequence).map fun observation => (sequence, observation.eventId)

def prune (window : ControlSequenceWindow) : ControlSequenceWindow :=
  match window.highest with
  | none => window
  | some highest => (window.staleBelow (replayFloor highest window.width)).foldl forget window

/-- The window after a sequence was accepted, before pruning. -/
def record (window : ControlSequenceWindow) (sequence eventId : UInt64) (commitment : Commitment) :
    ControlSequenceWindow :=
  { window with
    highest := some (window.highest.elim sequence fun highest => max highest sequence)
    bySequence := window.bySequence.insert sequence ⟨eventId, commitment⟩
    sequenceByEvent := window.sequenceByEvent.insert eventId sequence }

def observe (window : ControlSequenceWindow) (sequence eventId : UInt64) (commitment : Commitment) :
    ControlSequenceWindow × Except ControlSequenceError ControlSequenceDecision :=
  if sequence = 0 ∨ eventId = 0 then (window, .error .invalid)
  else match window.bySequence.lookup sequence with
    | some observed =>
      if observed.eventId = eventId ∧ observed.commitment = commitment then (window, .ok .exactRetry)
      else (window, .error .duplicate)
    | none =>
      if (window.sequenceByEvent.lookup eventId).isSome then (window, .error .duplicate)
      else if window.highest.any fun highest => sequence < replayFloor highest window.width then
        (window, .error .outOfWindow)
      else ((window.record sequence eventId commitment).prune, .ok .firstSeen)

/-! ### What pruning removes -/

section

variable (stale : List (UInt64 × UInt64)) (window : ControlSequenceWindow)
include stale window

theorem foldl_forget_frame :
    (stale.foldl forget window).highest = window.highest ∧
      (stale.foldl forget window).width = window.width := by
  induction stale generalizing window with
  | nil => exact ⟨rfl, rfl⟩
  | cons entry rest ih =>
    rw [List.foldl_cons]
    exact ih (forget window entry)

theorem foldl_forget_bySequence (sequence : UInt64) :
    (stale.foldl forget window).bySequence.lookup sequence =
      if sequence ∈ stale.map Prod.fst then none else window.bySequence.lookup sequence := by
  induction stale generalizing window with
  | nil => simp
  | cons entry rest ih =>
    rw [List.foldl_cons, ih, forget, Table.lookup_erase_eq]
    by_cases inRest : sequence ∈ rest.map Prod.fst
    · simp [inRest]
    · by_cases same : sequence = entry.1 <;> simp [inRest, same]

theorem foldl_forget_sequenceByEvent (eventId : UInt64) :
    (stale.foldl forget window).sequenceByEvent.lookup eventId =
      if eventId ∈ stale.map Prod.snd then none else window.sequenceByEvent.lookup eventId := by
  induction stale generalizing window with
  | nil => simp
  | cons entry rest ih =>
    rw [List.foldl_cons, ih, forget, Table.lookup_erase_eq]
    by_cases inRest : eventId ∈ rest.map Prod.snd
    · simp [inRest]
    · by_cases same : eventId = entry.2 <;> simp [inRest, same]

end

theorem mem_staleBelow (window : ControlSequenceWindow) (floor sequence eventId : UInt64) :
    (sequence, eventId) ∈ window.staleBelow floor ↔
      sequence < floor ∧ ∃ observation, window.bySequence.lookup sequence = some observation ∧
        observation.eventId = eventId := by
  simp only [staleBelow, List.mem_filterMap, Finset.mem_sort, Finset.mem_filter, mem_keys,
    mem_iff, Option.map_eq_some_iff, Prod.mk.injEq]
  constructor
  · rintro ⟨other, ⟨_, below⟩, observation, found, rfl, same⟩
    exact ⟨below, observation, found, same⟩
  · rintro ⟨below, observation, found, same⟩
    exact ⟨sequence, ⟨⟨observation, found⟩, below⟩, observation, found, rfl, same⟩

/-! ### The invariant -/

/-- **The two maps of a window agree, and hold only what is inside it.** -/
structure Consistent (window : ControlSequenceWindow) : Prop where
  width_pos : 1 ≤ window.width
  width_le : window.width ≤ controlSequenceWindowMaxWidth
  /-- The maps are inverse to each other. -/
  inverse : ∀ sequence eventId, window.sequenceByEvent.lookup eventId = some sequence ↔
    ∃ commitment, window.bySequence.lookup sequence = some ⟨eventId, commitment⟩
  /-- What is retained lies between the floor and the highest accepted sequence. -/
  retained : ∀ sequence observation, window.bySequence.lookup sequence = some observation →
    ∃ highest, window.highest = some highest ∧
      replayFloor highest window.width ≤ sequence ∧ sequence ≤ highest
  /-- Only valid identifiers are retained. -/
  valid : ∀ sequence observation, window.bySequence.lookup sequence = some observation →
    sequence ≠ 0 ∧ observation.eventId ≠ 0

theorem new_consistent (width : Nat) : (new width).Consistent where
  width_pos := le_max_left _ _
  width_le := max_le (by decide) (min_le_right _ _)
  inverse sequence eventId := by simp [new]
  retained sequence observation found := by simp [new] at found
  valid sequence observation found := by simp [new] at found

variable {window : ControlSequenceWindow}

variable {highest : UInt64}

/-- Pruning keeps exactly the observations at or above the floor. -/
theorem prune_bySequence (known : window.highest = some highest) (sequence : UInt64) :
    window.prune.bySequence.lookup sequence =
      if sequence < replayFloor highest window.width then none
      else window.bySequence.lookup sequence := by
  rw [prune, known]
  simp only [foldl_forget_bySequence]
  by_cases below : sequence < replayFloor highest window.width
  · rw [if_pos below]
    cases found : window.bySequence.lookup sequence with
    | none => simp
    | some observation =>
      have member : sequence ∈ (window.staleBelow (replayFloor highest window.width)).map Prod.fst :=
        List.mem_map.mpr ⟨(sequence, observation.eventId),
          (mem_staleBelow _ _ _ _).mpr ⟨below, observation, found, rfl⟩, rfl⟩
      rw [if_pos member]
  · rw [if_neg below, if_neg]
    rintro member
    obtain ⟨⟨other, eventId⟩, stale, rfl⟩ := List.mem_map.mp member
    exact below ((mem_staleBelow _ _ _ _).mp stale).1

/-- Pruning a window whose maps are inverse keeps exactly the events of the observations it
keeps. -/
theorem prune_sequenceByEvent (known : window.highest = some highest)
    (inverse : ∀ sequence eventId, window.sequenceByEvent.lookup eventId = some sequence ↔
      ∃ commitment, window.bySequence.lookup sequence = some ⟨eventId, commitment⟩)
    (sequence eventId : UInt64) :
    window.prune.sequenceByEvent.lookup eventId = some sequence ↔
      window.sequenceByEvent.lookup eventId = some sequence ∧
        ¬ sequence < replayFloor highest window.width := by
  rw [prune, known]
  simp only [foldl_forget_sequenceByEvent]
  by_cases stale :
      eventId ∈ (window.staleBelow (replayFloor highest window.width)).map Prod.snd
  · obtain ⟨⟨other, _⟩, member, rfl⟩ := List.mem_map.mp stale
    obtain ⟨below, observation, found, same⟩ := (mem_staleBelow _ _ _ _).mp member
    have bound : window.sequenceByEvent.lookup observation.eventId = some other :=
      (inverse other observation.eventId).mpr ⟨observation.commitment, found⟩
    rw [if_pos stale, ← same, bound]
    simp only [reduceCtorEq, Option.some.injEq, false_iff, not_and, not_not]
    rintro rfl
    exact below
  · rw [if_neg stale]
    refine ⟨fun bound => ⟨bound, fun below => stale ?_⟩, fun kept => kept.1⟩
    obtain ⟨commitment, found⟩ := (inverse sequence eventId).mp bound
    exact List.mem_map.mpr ⟨(sequence, eventId),
      (mem_staleBelow _ _ _ _).mpr ⟨below, _, found, rfl⟩, rfl⟩

theorem prune_frame (window : ControlSequenceWindow) :
    window.prune.highest = window.highest ∧ window.prune.width = window.width := by
  unfold prune
  split
  · exact ⟨rfl, rfl⟩
  · exact foldl_forget_frame _ _

/-! ### One call -/

/-- **What a call accepts**: both identifiers valid, the sequence not retained and not below the
floor, the event not bound to a retained sequence. -/
def Accepts (window : ControlSequenceWindow) (sequence eventId : UInt64) : Prop :=
  sequence ≠ 0 ∧ eventId ≠ 0 ∧ window.bySequence.lookup sequence = none ∧
    window.sequenceByEvent.lookup eventId = none ∧
    ∀ highest, window.highest = some highest → replayFloor highest window.width ≤ sequence

/-- **The answers of `observe`**, each with the state it leaves. -/
theorem observe_cases (window : ControlSequenceWindow) (sequence eventId : UInt64)
    (commitment : Commitment) :
    (window.Accepts sequence eventId ∧ window.observe sequence eventId commitment =
        ((window.record sequence eventId commitment).prune, .ok .firstSeen)) ∨
      (¬ window.Accepts sequence eventId ∧ (sequence ≠ 0 ∧ eventId ≠ 0 ∧
          window.bySequence.lookup sequence = some ⟨eventId, commitment⟩) ∧
        window.observe sequence eventId commitment = (window, .ok .exactRetry)) ∨
      (¬ window.Accepts sequence eventId ∧ ¬ (sequence ≠ 0 ∧ eventId ≠ 0 ∧
          window.bySequence.lookup sequence = some ⟨eventId, commitment⟩) ∧
        ∃ error, window.observe sequence eventId commitment = (window, .error error)) := by
  unfold observe Accepts
  by_cases invalid : sequence = 0 ∨ eventId = 0
  · rw [if_pos invalid]
    refine .inr (.inr ⟨fun ⟨first, second, _⟩ => ?_, fun ⟨first, second, _⟩ => ?_, _, rfl⟩)
    · exact invalid.elim first second
    · exact invalid.elim first second
  · rw [if_neg invalid]
    obtain ⟨sequenceValid, eventValid⟩ := not_or.mp invalid
    cases found : window.bySequence.lookup sequence with
    | some observed =>
      obtain ⟨observedEvent, observedCommitment⟩ := observed
      by_cases same : observedEvent = eventId ∧ observedCommitment = commitment
      · obtain ⟨rfl, rfl⟩ := same
        exact .inr (.inl ⟨(fun accepts => nomatch accepts.2.2.1),
          ⟨sequenceValid, eventValid, rfl⟩, by simp⟩)
      · refine .inr (.inr ⟨(fun accepts => nomatch accepts.2.2.1), fun retry => same ?_, .duplicate, ?_⟩)
        · simpa using retry.2.2
        · simp [same]
    | none =>
      have noRetry : ¬ (sequence ≠ 0 ∧ eventId ≠ 0 ∧
          (none : Option ControlSequenceObservation) = some ⟨eventId, commitment⟩) :=
        fun retry => nomatch retry.2.2
      cases bound : window.sequenceByEvent.lookup eventId with
      | some other =>
        exact .inr (.inr ⟨(fun accepts => nomatch accepts.2.2.2.1), noRetry, .duplicate, by simp⟩)
      | none =>
        cases known : window.highest with
        | none => exact .inl ⟨⟨sequenceValid, eventValid, rfl, rfl, nofun⟩, by simp⟩
        | some highest =>
          by_cases below : sequence < replayFloor highest window.width
          · refine .inr (.inr ⟨fun accepts => ?_, noRetry, .outOfWindow, by simp [below]⟩)
            have := accepts.2.2.2.2 highest rfl
            grind
          · refine .inl ⟨⟨sequenceValid, eventValid, rfl, rfl, ?_⟩, by simp [below]⟩
            rintro other ⟨⟩
            grind

theorem record_prune_bySequence (sequence eventId : UInt64) (commitment : Commitment)
    (known : (window.record sequence eventId commitment).highest = some highest) (probe : UInt64) :
    (window.record sequence eventId commitment).prune.bySequence.lookup probe =
      if probe < replayFloor highest window.width then none
      else if probe = sequence then some ⟨eventId, commitment⟩
      else window.bySequence.lookup probe := by
  rw [prune_bySequence known]
  simp [record, Table.lookup_insert_eq]

/-- The highest sequence after an accepted call is the old one or the new sequence. -/
theorem record_highest (window : ControlSequenceWindow) (sequence eventId : UInt64)
    (commitment : Commitment) :
    ∃ highest, (window.record sequence eventId commitment).highest = some highest ∧
      sequence ≤ highest ∧ (∀ old, window.highest = some old → old ≤ highest) ∧
      (highest = sequence ∨ window.highest = some highest) := by
  unfold record
  cases window.highest with
  | none => exact ⟨sequence, rfl, by grind, nofun, .inl rfl⟩
  | some old =>
    have larger : max old sequence = if old ≤ sequence then sequence else old := rfl
    refine ⟨max old sequence, rfl, ?_, ?_, ?_⟩
    · grind
    · rintro _ ⟨⟩
      grind
    · by_cases below : old ≤ sequence
      · exact .inl (by rw [larger, if_pos below])
      · exact .inr (by rw [larger, if_neg below])

/-- The maps of a recorded window are inverse, when the call was accepted. -/
theorem record_inverse (consistent : window.Consistent) {newSequence newEvent : UInt64}
    (accepts : window.Accepts newSequence newEvent) (newCommitment : Commitment)
    (sequence eventId : UInt64) :
    (window.record newSequence newEvent newCommitment).sequenceByEvent.lookup eventId = some sequence ↔
      ∃ commitment, (window.record newSequence newEvent newCommitment).bySequence.lookup sequence =
        some ⟨eventId, commitment⟩ := by
  obtain ⟨_, _, freshSequence, freshEvent, _⟩ := accepts
  simp only [record]
  by_cases sameSequence : sequence = newSequence
  · subst sameSequence
    rw [lookup_insert]
    by_cases sameEvent : eventId = newEvent
    · subst sameEvent
      simp
    · rw [lookup_insert_of_ne _ sameEvent]
      simp only [Option.some.injEq, ControlSequenceObservation.mk.injEq, exists_and_left]
      constructor
      · intro bound
        obtain ⟨_, found⟩ := (consistent.inverse _ _).mp bound
        simp [freshSequence] at found
      · exact fun same => (sameEvent same.1.symm).elim
  · rw [lookup_insert_of_ne _ sameSequence]
    by_cases sameEvent : eventId = newEvent
    · subst sameEvent
      rw [lookup_insert]
      constructor
      · intro same
        exact (sameSequence (Option.some.inj same).symm).elim
      · intro found
        simp [(consistent.inverse sequence eventId).mpr found] at freshEvent
    · simpa [lookup_insert_of_ne _ sameEvent] using consistent.inverse sequence eventId

variable {sequence eventId : UInt64}

/-- **An accepted call keeps the invariant.** -/
theorem accept_consistent (consistent : window.Consistent) (accepts : window.Accepts sequence eventId)
    (commitment : Commitment) :
    (window.record sequence eventId commitment).prune.Consistent := by
  obtain ⟨highest, known, sequenceLe, oldLe, _⟩ :=
    record_highest window sequence eventId commitment
  have lookups := record_prune_bySequence sequence eventId commitment known
  obtain ⟨keptHighest, keptWidth⟩ := prune_frame (window.record sequence eventId commitment)
  have width : (window.record sequence eventId commitment).prune.width = window.width := keptWidth
  refine ⟨?_, ?_, ?_, ?_, ?_⟩
  · simp [width, consistent.width_pos]
  · simp [width, consistent.width_le]
  · intro probe event
    rw [prune_sequenceByEvent known (record_inverse consistent accepts commitment),
      record_inverse consistent accepts commitment, prune_bySequence known]
    by_cases below : probe < replayFloor highest (window.record sequence eventId commitment).width
    · simp [below]
    · simp [below]
  · intro probe observation found
    rw [lookups probe] at found
    rw [keptHighest, width]
    refine ⟨highest, known, ?_, ?_⟩
    · by_contra above
      rw [if_pos (by grind)] at found
      cases found
    · split at found
      · cases found
      · split at found
        · grind
        · obtain ⟨old, oldKnown, _, inside⟩ := consistent.retained probe observation found
          have := oldLe old oldKnown
          grind
  · intro probe observation found
    rw [lookups probe] at found
    split at found
    · cases found
    · split at found
      next same =>
        cases found
        exact ⟨same ▸ accepts.1, accepts.2.1⟩
      · exact consistent.valid probe observation found

/-- At most `width` sequences fit between the floor and the highest one. -/
theorem Consistent.len_le (consistent : window.Consistent) :
    window.len ≤ window.capacity := by
  unfold len capacity
  cases known : window.highest with
  | none =>
    have empty : window.bySequence.keys = ∅ := by
      refine Finset.eq_empty_of_forall_notMem fun sequence member => ?_
      obtain ⟨observation, found⟩ := mem_iff.mp (mem_keys.mp member)
      obtain ⟨_, other, _⟩ := consistent.retained sequence observation found
      simp [known] at other
    simp [empty]
  | some highest =>
    have inside : window.bySequence.keys.image UInt64.toNat ⊆
        Finset.Icc (highest.toNat - (window.width - 1)) highest.toNat := by
      intro value member
      obtain ⟨sequence, key, rfl⟩ := Finset.mem_image.mp member
      obtain ⟨observation, found⟩ := mem_iff.mp (mem_keys.mp key)
      obtain ⟨other, same, above, below⟩ := consistent.retained sequence observation found
      rw [known] at same
      cases same
      rw [Finset.mem_Icc, ← replayFloor_toNat highest consistent.width_le]
      exact ⟨UInt64.le_iff_toNat_le.mp above, UInt64.le_iff_toNat_le.mp below⟩
    have counted := Finset.card_le_card inside
    rw [Finset.card_image_of_injective _ (fun a b same => UInt64.toNat_inj.mp same),
      Nat.card_Icc] at counted
    have := consistent.width_pos
    omega

/-! ### Whole runs -/

/-- One call of `observe`. -/
structure ObserveCall where
  (sequence eventId : UInt64)
  commitment : Commitment

/-- The window after a list of calls, with the sequences that were answered `FirstSeen`, newest
first. -/
def observeAll (window : ControlSequenceWindow) (accepted : List UInt64) :
    List ObserveCall → ControlSequenceWindow × List UInt64
  | [] => (window, accepted)
  | call :: rest =>
    let (next, answer) := window.observe call.sequence call.eventId call.commitment
    if answer = .ok .firstSeen then observeAll next (call.sequence :: accepted) rest
    else observeAll next accepted rest

/-- **The window remembers its history**: `highest` is the greatest accepted sequence, every
accepted sequence still above the floor is retained, and none was accepted twice. -/
structure History (window : ControlSequenceWindow) (accepted : List UInt64) : Prop where
  consistent : window.Consistent
  nodup : accepted.Nodup
  nothing : window.highest = none → accepted = []
  greatest : ∀ highest, window.highest = some highest →
    highest ∈ accepted ∧ ∀ sequence ∈ accepted, sequence ≤ highest
  remembers : ∀ sequence ∈ accepted, ∀ highest, window.highest = some highest →
    replayFloor highest window.width ≤ sequence →
    (window.bySequence.lookup sequence).isSome
  recorded : ∀ sequence observation, window.bySequence.lookup sequence = some observation →
    sequence ∈ accepted

theorem new_history (width : Nat) : (new width).History [] where
  consistent := new_consistent width
  nodup := List.nodup_nil
  nothing _ := rfl
  greatest highest known := nomatch known
  remembers sequence member := nomatch member
  recorded sequence observation found := by simp [new] at found

variable {accepted : List UInt64}

theorem History.fresh (history : window.History accepted) (accepts : window.Accepts sequence eventId) :
    sequence ∉ accepted := by
  intro member
  obtain ⟨_, _, missing, _, inside⟩ := accepts
  cases known : window.highest with
  | none =>
    simp [history.nothing known] at member
  | some highest =>
    have := history.remembers sequence member highest known (inside highest known)
    simp [missing] at this

theorem accept_history (history : window.History accepted) (accepts : window.Accepts sequence eventId)
    (commitment : Commitment) :
    (window.record sequence eventId commitment).prune.History (sequence :: accepted) := by
  obtain ⟨highest, known, sequenceLe, oldLe, eitherHighest⟩ :=
    record_highest window sequence eventId commitment
  have lookups := record_prune_bySequence sequence eventId commitment known
  obtain ⟨keptHighest, keptWidth⟩ := prune_frame (window.record sequence eventId commitment)
  have width : (window.record sequence eventId commitment).prune.width = window.width := keptWidth
  have highestEq : (window.record sequence eventId commitment).prune.highest = some highest :=
    keptHighest.trans known
  refine ⟨accept_consistent history.consistent accepts commitment,
    List.nodup_cons.mpr ⟨history.fresh accepts, history.nodup⟩, ?_, ?_, ?_, ?_⟩
  · intro missing
    simp [highestEq] at missing
  · intro other same
    rw [highestEq] at same
    cases same
    refine ⟨?_, fun probe member => ?_⟩
    · rcases eitherHighest with rfl | old
      · exact (.head _)
      · exact .tail _ (history.greatest highest old).1
    · rcases List.mem_cons.mp member with rfl | member
      · exact sequenceLe
      · cases oldKnown : window.highest with
        | none =>
          simp [history.nothing oldKnown] at member
        | some old =>
          have := (history.greatest old oldKnown).2 probe member
          have := oldLe old oldKnown
          grind
  · intro probe member other same above
    rw [highestEq] at same
    cases same
    rw [width] at above
    rw [lookups probe, if_neg (by grind)]
    by_cases new : probe = sequence
    · simp [new]
    · rw [if_neg new]
      have member := (List.mem_cons.mp member).resolve_left new
      cases oldKnown : window.highest with
      | none =>
        simp [history.nothing oldKnown] at member
      | some old =>
        have raised := replayFloor_mono window.width (oldLe old oldKnown)
        exact history.remembers probe member old oldKnown (by grind)
  · intro probe observation found
    rw [lookups probe] at found
    split at found
    · cases found
    · split at found
      next same =>
        exact same ▸ (.head _)
      · exact .tail _ (history.recorded probe observation found)

/-- **Every run of calls keeps the history.** -/
theorem observeAll_history (calls : List ObserveCall) (history : window.History accepted) :
    (observeAll window accepted calls).1.History (observeAll window accepted calls).2 := by
  induction calls generalizing window accepted with
  | nil => exact history
  | cons call rest ih =>
    rcases observe_cases window call.sequence call.eventId call.commitment with
      ⟨accepts, answer⟩ | ⟨_, _, answer⟩ | ⟨_, _, error, answer⟩
    · simpa [observeAll, answer] using ih (accept_history history accepts call.commitment)
    · simp [observeAll, answer, reduceCtorEq, ih history]
    · simp [observeAll, answer, reduceCtorEq, ih history]

/-! ### Replay safety -/

/-- **Replay safety of a window**, given the sequences it answered `FirstSeen`. -/
structure ReplaySafe (window : ControlSequenceWindow) (accepted : List UInt64) : Prop where
  /-- No sequence is answered `FirstSeen` twice, even after it was pruned. -/
  once : accepted.Nodup
  inverse : ∀ sequence eventId, window.sequenceByEvent.lookup eventId = some sequence ↔
    ∃ commitment, window.bySequence.lookup sequence = some ⟨eventId, commitment⟩
  greatest : ∀ highest, window.highest = some highest ↔
    highest ∈ accepted ∧ ∀ sequence ∈ accepted, sequence ≤ highest
  inside : ∀ sequence observation, window.bySequence.lookup sequence = some observation →
    ∃ highest, window.highest = some highest ∧
      replayFloor highest window.width ≤ sequence ∧ sequence ≤ highest
  bounded : window.len ≤ window.capacity
  firstSeen_iff : ∀ sequence eventId commitment,
    (window.observe sequence eventId commitment).2 = .ok .firstSeen ↔ sequence ≠ 0 ∧ eventId ≠ 0 ∧
        (∀ highest, window.highest = some highest → replayFloor highest window.width ≤ sequence) ∧
        sequence ∉ accepted ∧
        ∀ retained observation, window.bySequence.lookup retained = some observation →
          observation.eventId ≠ eventId
  exactRetry_iff : ∀ sequence eventId commitment,
    (window.observe sequence eventId commitment).2 = .ok .exactRetry ↔
      window.bySequence.lookup sequence = some ⟨eventId, commitment⟩
  unchanged : ∀ sequence eventId commitment,
    (window.observe sequence eventId commitment).2 ≠ .ok .firstSeen →
      (window.observe sequence eventId commitment).1 = window
  /-- The floor is computed without wrapping, up to `u64::MAX`. -/
  noWrap : ∀ highest : UInt64,
    (replayFloor highest window.width).toNat = highest.toNat - (window.width - 1)

/-- The acceptance test of the code, read over the history. -/
theorem History.accepts_iff (history : window.History accepted) (sequence eventId : UInt64) :
    window.Accepts sequence eventId ↔ sequence ≠ 0 ∧ eventId ≠ 0 ∧
        (∀ highest, window.highest = some highest → replayFloor highest window.width ≤ sequence) ∧
        sequence ∉ accepted ∧
        ∀ retained observation, window.bySequence.lookup retained = some observation →
          observation.eventId ≠ eventId := by
  constructor
  · intro accepts
    refine ⟨accepts.1, accepts.2.1, accepts.2.2.2.2, history.fresh accepts, ?_⟩
    rintro retained ⟨_, commitment⟩ found rfl
    have bound := (history.consistent.inverse _ _).mpr ⟨commitment, found⟩
    simp [accepts.2.2.2.1] at bound
  · rintro ⟨sequenceValid, eventValid, inside, fresh, unbound⟩
    refine ⟨sequenceValid, eventValid, ?_, ?_, inside⟩
    · by_contra found
      obtain ⟨observation, found⟩ := Option.ne_none_iff_exists'.mp found
      exact fresh (history.recorded sequence observation found)
    · by_contra bound
      obtain ⟨retained, bound⟩ := Option.ne_none_iff_exists'.mp bound
      obtain ⟨commitment, found⟩ := (history.consistent.inverse _ _).mp bound
      exact unbound retained _ found rfl

theorem History.replaySafe (history : window.History accepted) : window.ReplaySafe accepted where
  once := history.nodup
  inverse := history.consistent.inverse
  greatest highest := by
    refine ⟨history.greatest highest, fun ⟨member, above⟩ => ?_⟩
    cases known : window.highest with
    | none =>
      simp [history.nothing known] at member
    | some other =>
      obtain ⟨otherMember, otherAbove⟩ := history.greatest other known
      have := above other otherMember
      have := otherAbove highest member
      congr 1
      grind
  inside := history.consistent.retained
  bounded := history.consistent.len_le
  firstSeen_iff sequence eventId commitment := by
    rw [← history.accepts_iff]
    rcases observe_cases window sequence eventId commitment with
      ⟨accepts, answer⟩ | ⟨rejects, _, answer⟩ | ⟨rejects, _, error, answer⟩
    · simp [answer, accepts]
    · simp [answer, rejects]
    · simp [answer, rejects]
  exactRetry_iff sequence eventId commitment := by
    have nonzero := history.consistent.valid sequence ⟨eventId, commitment⟩
    rcases observe_cases window sequence eventId commitment with
      ⟨accepts, answer⟩ | ⟨_, retry, answer⟩ | ⟨_, noRetry, error, answer⟩
    · simp [answer, accepts.2.2.1]
    · simp [answer, retry.2.2]
    · simp only [answer, reduceCtorEq, false_iff]
      intro found
      exact noRetry ⟨(nonzero found).1, (nonzero found).2, found⟩
  unchanged sequence eventId commitment notFirst := by
    rcases observe_cases window sequence eventId commitment with
      ⟨_, answer⟩ | ⟨_, _, answer⟩ | ⟨_, _, error, answer⟩
    · exact (notFirst (by rw [answer])).elim
    · rw [answer]
    · rw [answer]
  noWrap highest := replayFloor_toNat highest history.consistent.width_le

/-- **Replay safety over every run**: for every width given to `new` and every finite sequence of
`observe` calls. -/
theorem controlSequenceWindow_replay_safe (width : Nat) (calls : List ObserveCall) :
    (observeAll (new width) [] calls).1.ReplaySafe (observeAll (new width) [] calls).2 :=
  (observeAll_history calls (new_history width)).replaySafe

end ControlSequenceWindow

end MiniRemoteDesktop.Session
