/-
**What a target remembers of the control input it has taken** (`mrd-service`, `lan_control_input.rs`,
`AuthenticatedControlReplayState`).

Realtime events go through a `ControlSequenceWindow` and have to come in order. Reliable and cleanup events
share one sequence of their own: a reliable event comes next in it, a cleanup event may skip one number.
Each event that is taken has its acknowledgement cached, for retries.

* `observe`, `cacheAck` — the code; `deliver` — a call as its callers make it, an acknowledgement cached for
  every event that is seen first.
* `replay_in_order` — **over every run, each event is taken once and in order, retries find their
  acknowledgement, and the tables stay bounded**. A retry finds its acknowledgement on the lane on which
  the event was first seen: under the other lane of the pair none is cached.
-/

import MiniRemoteDesktop.Session.SequenceWindow

namespace MiniRemoteDesktop.Control

open List (kerase length_map mem_cons mem_filter mem_map subperm_of_subset)
open AList (lookup_isSome mem_keys)
open UInt64 (le_antisymm le_iff_toNat_le le_of_lt le_refl lt_irrefl lt_of_le_of_lt not_lt)
open Session (Commitment ControlSequenceDecision ControlSequenceError ControlSequenceWindow)
open Table

def controlInputReplayWindowWidth : Nat := 128

inductive AuthenticatedControlReplayLane
  | reliable
  | cleanup
  | realtime
  deriving DecidableEq

structure AuthenticatedControlReplayState where
  realtimeWindow : ControlSequenceWindow
  (realtimeHighestSequence reliableNextSequence : UInt64)
  reliableObservations : AList fun _ : UInt64 => UInt64 × Commitment
  reliableSequenceByEvent : AList fun _ : UInt64 => UInt64
  acknowledgements : AList fun _ : AuthenticatedControlReplayLane × UInt64 => List UInt8
  expiresAtMs : UInt64

/-- `u64::saturating_add` of one. -/
def saturatingSucc (value : UInt64) : UInt64 := if value = UInt64.ofNat (2 ^ 64 - 1) then value else value + 1

namespace AuthenticatedControlReplayState

/-! ### The code -/

def new (expiresAtMs : UInt64) : AuthenticatedControlReplayState where
  realtimeWindow := .new controlInputReplayWindowWidth
  realtimeHighestSequence := 0
  reliableNextSequence := 1
  reliableObservations := ∅
  reliableSequenceByEvent := ∅
  acknowledgements := ∅
  expiresAtMs

/-- Forget a sequence and all that is kept about it. -/
def forget (state : AuthenticatedControlReplayState) (oldest : UInt64) :
    AuthenticatedControlReplayState :=
  { state with
    reliableObservations := state.reliableObservations.erase oldest
    reliableSequenceByEvent := match state.reliableObservations.lookup oldest with
      | some (oldEventId, _) => state.reliableSequenceByEvent.erase oldEventId
      | none => state.reliableSequenceByEvent
    acknowledgements := (state.acknowledgements.erase (.reliable, oldest)).erase (.cleanup, oldest) }

/-- One round of `prune_reliable_observations`: forget the lowest sequence. -/
def forgetOldest (state : AuthenticatedControlReplayState) : AuthenticatedControlReplayState :=
  match state.reliableObservations.keys.min? with
  | none => state
  | some oldest => state.forget oldest

/-- The rounds of a loop that runs while the table is too long; a round makes it shorter. -/
def pruneRounds : Nat → AuthenticatedControlReplayState → AuthenticatedControlReplayState
  | 0, state => state
  | rounds + 1, state =>
    if controlInputReplayWindowWidth < state.reliableObservations.entries.length then
      pruneRounds rounds state.forgetOldest
    else state

def pruneReliableObservations (state : AuthenticatedControlReplayState) :
    AuthenticatedControlReplayState :=
  pruneRounds state.reliableObservations.entries.length state

/-- A reliable or cleanup event is taken; `used` is the last number that is used up by it. -/
def record (state : AuthenticatedControlReplayState) (sequence eventId : UInt64)
    (commitment : Commitment) (used : UInt64) : AuthenticatedControlReplayState :=
  { state with
    reliableObservations := state.reliableObservations.insert sequence (eventId, commitment)
    reliableSequenceByEvent := state.reliableSequenceByEvent.insert eventId sequence
    reliableNextSequence := saturatingSucc used }

/-- What a sequence below the next one is: a retry, or a number that was used. -/
def earlier (state : AuthenticatedControlReplayState) (sequence eventId : UInt64)
    (commitment : Commitment) : Except ControlSequenceError ControlSequenceDecision :=
  match state.reliableObservations.lookup sequence with
  | some (observedEventId, observedCommitment) =>
    if observedEventId = eventId ∧ observedCommitment = commitment then .ok .exactRetry
    else .error .duplicate
  | none => .error .outOfWindow

def observe (state : AuthenticatedControlReplayState) (lane : AuthenticatedControlReplayLane)
    (sequence eventId : UInt64) (commitment : Commitment) :
    AuthenticatedControlReplayState × Except ControlSequenceError ControlSequenceDecision :=
  if lane = .realtime then
    if sequence < state.realtimeHighestSequence then (state, .error .outOfWindow)
    else
      let (window, answer) := state.realtimeWindow.observe sequence eventId commitment
      match answer with
      | .error error => ({ state with realtimeWindow := window }, .error error)
      | .ok .firstSeen =>
        ({ state with realtimeWindow := window, realtimeHighestSequence := sequence }, .ok .firstSeen)
      | .ok decision => ({ state with realtimeWindow := window }, .ok decision)
  else if sequence = 0 ∨ sequence = UInt64.ofNat (2 ^ 64 - 1) ∨ eventId = 0 then
    (state, .error .invalid)
  else if lane = .cleanup then
    if saturatingSucc state.reliableNextSequence < sequence then (state, .error .outOfWindow)
    else if sequence < state.reliableNextSequence then
      (state, state.earlier sequence eventId commitment)
    else if (state.reliableSequenceByEvent.lookup eventId).isSome then (state, .error .duplicate)
    else ((state.record sequence eventId commitment sequence).pruneReliableObservations, .ok .firstSeen)
  else if state.reliableNextSequence < sequence then (state, .error .outOfWindow)
  else if sequence < state.reliableNextSequence then
    (state, state.earlier sequence eventId commitment)
  else if (state.reliableSequenceByEvent.lookup eventId).isSome then (state, .error .duplicate)
  else ((state.record sequence eventId commitment state.reliableNextSequence).pruneReliableObservations,
    .ok .firstSeen)

def cachedAck (state : AuthenticatedControlReplayState) (lane : AuthenticatedControlReplayLane)
    (sequence : UInt64) : Option (List UInt8) :=
  state.acknowledgements.lookup (lane, sequence)

/-- The sequences that have an acknowledgement on a lane. -/
def acknowledged (state : AuthenticatedControlReplayState) (lane : AuthenticatedControlReplayLane) :
    List UInt64 :=
  (state.acknowledgements.keys.filter (·.1 = lane)).map Prod.snd

/-- Drop a realtime acknowledgement. -/
def dropAck (state : AuthenticatedControlReplayState) (oldest : UInt64) :
    AuthenticatedControlReplayState :=
  { state with acknowledgements := state.acknowledgements.erase (.realtime, oldest) }

/-- The rounds of the loop of `cache_ack`. -/
def dropRounds : Nat → AuthenticatedControlReplayState → AuthenticatedControlReplayState
  | 0, state => state
  | rounds + 1, state =>
    if controlInputReplayWindowWidth < (state.acknowledged .realtime).length then
      match (state.acknowledged .realtime).min? with
      | none => state
      | some oldest => dropRounds rounds (state.dropAck oldest)
    else state

def cacheAck (state : AuthenticatedControlReplayState) (lane : AuthenticatedControlReplayLane)
    (sequence : UInt64) (datagram : List UInt8) : AuthenticatedControlReplayState :=
  let state := { state with acknowledgements := state.acknowledgements.insert (lane, sequence) datagram }
  if lane = .realtime then dropRounds (state.acknowledged lane).length state else state

/-! ### Calls -/

/-- An event as it is observed, with the acknowledgement that is cached if it is seen first. -/
structure ReplayCall where
  lane : AuthenticatedControlReplayLane
  (sequence eventId : UInt64)
  commitment : Commitment
  ack : List UInt8

/-- Observe an event; cache its acknowledgement if it was seen first. -/
def deliver (state : AuthenticatedControlReplayState) (call : ReplayCall) :
    AuthenticatedControlReplayState × Except ControlSequenceError ControlSequenceDecision :=
  let (next, answer) := state.observe call.lane call.sequence call.eventId call.commitment
  if answer = .ok .firstSeen then (next.cacheAck call.lane call.sequence call.ack, answer)
  else (next, answer)

/-- The state after a list of calls, with those that were seen first, newest first. -/
def deliverAll (state : AuthenticatedControlReplayState) (seen : List ReplayCall) :
    List ReplayCall → AuthenticatedControlReplayState × List ReplayCall
  | [] => (state, seen)
  | call :: rest =>
    let (next, answer) := state.deliver call
    if answer = .ok .firstSeen then deliverAll next (call :: seen) rest else deliverAll next seen rest

/-! ### Events in order -/

/-- The reliable and cleanup events among some calls. -/
def orderedOf (calls : List ReplayCall) : List ReplayCall := calls.filter (·.lane ≠ .realtime)

def realtimeOf (calls : List ReplayCall) : List ReplayCall := calls.filter (·.lane = .realtime)

/-- The sequence of the newest call, `0` where there was none. -/
def lastSequence : List ReplayCall → UInt64
  | [] => 0
  | call :: _ => call.sequence

/-- **A call comes next** after a sequence, by the rule of its lane. -/
def Follows (previous : UInt64) (call : ReplayCall) : Prop :=
  match call.lane with
  | .reliable => call.sequence.toNat = previous.toNat + 1
  | .cleanup =>
    call.sequence.toNat = previous.toNat + 1 ∨ call.sequence.toNat = previous.toNat + 2
  | .realtime => previous < call.sequence

/-- Each call comes next after those before it; the newest is first. -/
def InOrder : List ReplayCall → Prop
  | [] => True
  | call :: earlier => Follows (lastSequence earlier) call ∧ InOrder earlier

variable {call : ReplayCall}

theorem Follows.lt {previous : UInt64} (follows : Follows previous call) :
    previous < call.sequence := by
  unfold Follows at follows
  rw [UInt64.lt_iff_toNat_lt]
  split at follows
  · omega
  · omega
  · exact UInt64.lt_iff_toNat_lt.mp follows

variable {calls : List ReplayCall}

theorem InOrder.le_last (inOrder : InOrder calls) :
    ∀ call ∈ calls, call.sequence ≤ lastSequence calls := by
  induction calls with
  | nil => exact fun _ listed => nomatch listed
  | cons newest earlier ih =>
    intro call listed
    rcases mem_cons.mp listed with rfl | listed
    · exact le_refl _
    · exact le_of_lt (lt_of_le_of_lt (ih inOrder.2 call listed) inOrder.1.lt)

/-- **The sequences of calls in order are strictly increasing.** -/
theorem InOrder.increasing (inOrder : InOrder calls) :
    calls.Pairwise fun later earlier => earlier.sequence < later.sequence := by
  induction calls with
  | nil => exact .nil
  | cons newest earlier ih =>
    refine .cons (fun call listed => ?_) (ih inOrder.2)
    exact lt_of_le_of_lt (inOrder.2.le_last call listed) inOrder.1.lt

theorem InOrder.unique (inOrder : InOrder calls) {first second : ReplayCall} (one : first ∈ calls)
    (other : second ∈ calls) (same : first.sequence = second.sequence) :
    first = second := by
  induction calls with
  | nil => cases one
  | cons newest earlier ih =>
    have above : ∀ call ∈ earlier, call.sequence ≠ newest.sequence := fun call listed =>
      UInt64.ne_of_lt (lt_of_le_of_lt (inOrder.2.le_last call listed) inOrder.1.lt)
    rcases mem_cons.mp one with rfl | left <;> rcases mem_cons.mp other with rfl | right
    · rfl
    · exact (above second right same.symm).elim
    · exact (above first left same).elim
    · exact ih inOrder.2 left right

/-! ### The reliable and cleanup events -/

/-- **What the reliable tables hold** about the reliable and cleanup events that were seen first. -/
structure Ordered (state : AuthenticatedControlReplayState) (calls : List ReplayCall) : Prop where
  inOrder : InOrder calls
  next : state.reliableNextSequence.toNat = (lastSequence calls).toNat + 1
  observed : ∀ sequence observation, state.reliableObservations.lookup sequence = some observation →
    ∃ call ∈ calls, call.sequence = sequence ∧ (call.eventId, call.commitment) = observation ∧
      state.cachedAck call.lane sequence = some call.ack
  inverse : ∀ sequence eventId, state.reliableSequenceByEvent.lookup eventId = some sequence ↔
    ∃ commitment, state.reliableObservations.lookup sequence = some (eventId, commitment)
  acked : ∀ lane sequence, lane ≠ .realtime → (state.cachedAck lane sequence).isSome →
    (state.reliableObservations.lookup sequence).isSome ∧
      ∃ call ∈ calls, call.lane = lane ∧ call.sequence = sequence
  newest : ∀ call ∈ calls.head?,
    state.reliableObservations.lookup call.sequence = some (call.eventId, call.commitment)

variable (expiresAtMs : UInt64)

theorem new_ordered : (new expiresAtMs).Ordered [] where
  inOrder := trivial
  next := rfl
  observed _ _ found := nomatch found
  inverse _ _ := ⟨(fun found => nomatch found), (fun ⟨_, found⟩ => nomatch found)⟩
  acked _ _ _ found := nomatch found
  newest _ none := nomatch none

variable {state other : AuthenticatedControlReplayState}

theorem Ordered.of_same (ordered : state.Ordered calls)
    (next : other.reliableNextSequence = state.reliableNextSequence)
    (observations : other.reliableObservations = state.reliableObservations)
    (events : other.reliableSequenceByEvent = state.reliableSequenceByEvent)
    (acks : ∀ lane sequence, lane ≠ .realtime → other.cachedAck lane sequence = state.cachedAck lane
      sequence)
    (lanes : ∀ call ∈ calls, call.lane ≠ .realtime) : other.Ordered calls where
  inOrder := ordered.inOrder
  next := next ▸ ordered.next
  observed sequence observation found := by
    rw [observations] at found
    obtain ⟨call, listed, same, is, cached⟩ := ordered.observed sequence observation found
    exact ⟨call, listed, same, is, (acks call.lane sequence (lanes call listed)).trans cached⟩
  inverse sequence eventId := by
    rw [observations, events]
    exact ordered.inverse sequence eventId
  acked lane sequence reliable found := by
    rw [acks lane sequence reliable] at found
    rw [observations]
    exact ordered.acked lane sequence reliable found
  newest call first := by
    rw [observations]
    exact ordered.newest call first

variable {observation : UInt64 × Commitment} {sequence : UInt64}

theorem Ordered.le_last (ordered : state.Ordered calls)
    (found : state.reliableObservations.lookup sequence = some observation) :
    sequence ≤ lastSequence calls := by
  obtain ⟨call, listed, rfl, -⟩ := ordered.observed sequence observation found
  exact ordered.inOrder.le_last call listed

variable {oldest : UInt64}

/-- **Forgetting a sequence** leaves the others as they were. -/
theorem Ordered.forget (ordered : state.Ordered calls) (lanes : ∀ call ∈ calls, call.lane ≠ .realtime)
    (spared : ∀ call ∈ calls.head?, call.sequence ≠ oldest)
    (held : state.reliableObservations.lookup oldest = some observation) :
    (state.forget oldest).Ordered calls := by
  have observations : ∀ probe, (state.forget oldest).reliableObservations.lookup probe =
      if probe = oldest then none else state.reliableObservations.lookup probe :=
    lookup_erase_alist _ _
  have events : ∀ probe, (state.forget oldest).reliableSequenceByEvent.lookup probe =
      if probe = observation.1 then none else state.reliableSequenceByEvent.lookup probe := by
    intro probe
    simpa [AuthenticatedControlReplayState.forget, held] using lookup_erase_alist _ _ _
  have acks : ∀ lane sequence, lane ≠ .realtime → (state.forget oldest).cachedAck lane sequence =
      if sequence = oldest then none else state.cachedAck lane sequence := by
    intro lane sequence reliable
    show ((state.acknowledgements.erase (.reliable, oldest)).erase (.cleanup, oldest)).lookup _ = _
    rw [lookup_erase_alist, lookup_erase_alist]
    by_cases same : sequence = oldest
    · cases lane <;> simp_all
    · simp [same, cachedAck]
  refine ⟨ordered.inOrder, ordered.next, ?_, ?_, ?_, fun call first => ?_⟩
  · intro sequence other found
    rw [observations] at found
    split at found
    · cases found
    next differs =>
      obtain ⟨call, listed, same, is, cached⟩ := ordered.observed sequence other found
      refine ⟨call, listed, same, is, ?_⟩
      simp [acks _ _ (lanes call listed), differs, cached]
  · intro sequence eventId
    rw [observations, events]
    by_cases gone : sequence = oldest
    · rw [if_pos gone]
      refine ⟨fun found => ?_, (fun ⟨_, found⟩ => nomatch found)⟩
      split at found
      · cases found
      next differs =>
        obtain ⟨commitment, is⟩ := (ordered.inverse sequence eventId).mp found
        rw [gone, held] at is
        exact (differs (congrArg Prod.fst (Option.some.inj is)).symm).elim
    · rw [if_neg gone]
      split
      next same =>
        refine ⟨(fun found => nomatch found), fun found => ?_⟩
        have here := (ordered.inverse sequence eventId).mpr found
        have there := (ordered.inverse oldest eventId).mpr ⟨observation.2, by rw [held, same]⟩
        rw [here] at there
        exact (gone (Option.some.inj there)).elim
      · exact ordered.inverse sequence eventId
  · intro lane sequence reliable found
    rw [acks lane sequence reliable] at found
    split at found
    · cases found
    next differs =>
      simpa [observations, differs] using ordered.acked lane sequence reliable found
  · simpa [observations, spared call first] using ordered.newest call first

theorem saturatingSucc_toNat {value : UInt64} (below : value.toNat < 2 ^ 64 - 1) :
    (saturatingSucc value).toNat = value.toNat + 1 := by
  unfold saturatingSucc
  rw [if_neg]
  · rw [UInt64.toNat_add]
    exact Nat.mod_eq_of_lt (by simpa using by omega)
  · rintro rfl
    exact absurd below (by decide)

/-- **An event that comes next is taken.** -/
theorem Ordered.take (ordered : state.Ordered calls) {used : UInt64} (lane : call.lane ≠ .realtime)
    (follows : Follows (lastSequence calls) call) (is : used = call.sequence)
    (below : call.sequence.toNat < 2 ^ 64 - 1)
    (unused : state.reliableSequenceByEvent.lookup call.eventId = none) :
    ((state.record call.sequence call.eventId call.commitment used).cacheAck call.lane call.sequence
      call.ack).Ordered (call :: calls) := by
  have fresh : state.reliableObservations.lookup call.sequence = none := by
    rcases found : state.reliableObservations.lookup call.sequence with _ | observation
    · rfl
    · exact absurd (lt_of_le_of_lt (ordered.le_last found) follows.lt) (lt_irrefl _)
  obtain ⟨taken, made⟩ : ∃ taken, taken = (state.record call.sequence call.eventId call.commitment
    used).cacheAck call.lane call.sequence call.ack := ⟨_, rfl⟩
  have plain : taken = { state.record call.sequence call.eventId call.commitment used with
      acknowledgements := state.acknowledgements.insert (call.lane, call.sequence) call.ack } :=
    made.trans (if_neg lane)
  have observations : ∀ probe, taken.reliableObservations.lookup probe =
      if probe = call.sequence then some (call.eventId, call.commitment)
      else state.reliableObservations.lookup probe := by
    rw [plain]
    exact fun probe => lookup_insert_alist _ _ probe _
  have events : ∀ probe, taken.reliableSequenceByEvent.lookup probe =
      if probe = call.eventId then some call.sequence
      else state.reliableSequenceByEvent.lookup probe := by
    rw [plain]
    exact fun probe => lookup_insert_alist _ _ probe _
  have acks : ∀ lane sequence, taken.cachedAck lane sequence =
      if (lane, sequence) = (call.lane, call.sequence) then some call.ack
      else state.cachedAck lane sequence := by
    rw [plain]
    exact fun lane sequence => lookup_insert_alist _ _ (lane, sequence) _
  rw [← made]
  refine ⟨⟨follows, ordered.inOrder⟩, ?_, ?_, ?_, ?_, fun other first => ?_⟩
  · rw [plain]
    show (saturatingSucc used).toNat = _
    rw [is, saturatingSucc_toNat below]
    rfl
  · intro sequence observation found
    rw [observations sequence] at found
    split at found
    next same =>
      refine ⟨call, (.head _), same.symm, Option.some.inj found, ?_⟩
      rw [acks call.lane sequence, if_pos (by rw [same])]
    next differs =>
      obtain ⟨other, listed, same, value, cached⟩ := ordered.observed sequence observation found
      refine ⟨other, .tail _ listed, same, value, ?_⟩
      rw [acks other.lane sequence, if_neg fun equal => differs (congrArg Prod.snd equal)]
      exact cached
  · intro sequence eventId
    rw [events eventId, observations sequence]
    by_cases here : sequence = call.sequence
    · rw [if_pos here]
      split
      next same =>
        rw [here, same]
        exact ⟨fun _ => ⟨call.commitment, rfl⟩, fun _ => rfl⟩
      next differs =>
        refine ⟨fun found => ?_, fun ⟨_, equal⟩ => ?_⟩
        · obtain ⟨commitment, held⟩ := (ordered.inverse sequence eventId).mp found
          rw [here, fresh] at held
          cases held
        · exact (differs (congrArg Prod.fst (Option.some.inj equal)).symm).elim
    · rw [if_neg here]
      split
      next same =>
        refine ⟨fun equal => (here (Option.some.inj equal).symm).elim, fun found => ?_⟩
        rw [same] at found
        simp [(ordered.inverse sequence call.eventId).mpr found] at unused
      · exact ordered.inverse sequence eventId
  · intro probe sequence reliable found
    rw [acks probe sequence] at found
    rw [observations sequence]
    split at found
    next same =>
      cases same
      simp
    · obtain ⟨held, other, listed, is⟩ := ordered.acked probe sequence reliable found
      refine ⟨?_, other, .tail _ listed, is⟩
      split <;> simp_all
  · cases first
    simp [observations]

variable {lane : AuthenticatedControlReplayLane}

/-- Forgetting another sequence may wait until the acknowledgement is cached. -/
theorem forget_cacheAck (state : AuthenticatedControlReplayState) (reliable : lane ≠ .realtime)
    (differs : sequence ≠ oldest) (datagram : List UInt8) :
    (state.forget oldest).cacheAck lane sequence datagram =
      (state.cacheAck lane sequence datagram).forget oldest := by
  have insert_erase : ∀ (acks : AList fun _ : AuthenticatedControlReplayLane × UInt64 => List UInt8)
      (other : AuthenticatedControlReplayLane),
      (acks.erase (other, oldest)).insert (lane, sequence) datagram =
        (acks.insert (lane, sequence) datagram).erase (other, oldest) := by
    intro acks other
    refine AList.ext ?_
    have apart : (other, oldest) ≠ (lane, sequence) := fun same => differs (congrArg Prod.snd same).symm
    show _ :: kerase _ (kerase _ _) = kerase _ (_ :: kerase _ _)
    rw [List.kerase_cons_ne apart, List.kerase_comm]
  unfold cacheAck
  simp [reliable, forget, insert_erase]

/-- A table that is too long by one loses its lowest sequence. -/
theorem prune_cases
    (short : state.reliableObservations.entries.length ≤ controlInputReplayWindowWidth + 1) :
    (state.reliableObservations.entries.length ≤ controlInputReplayWindowWidth ∧
      state.pruneReliableObservations = state) ∨
    ∃ oldest observation, state.reliableObservations.lookup oldest = some observation ∧
      (∀ sequence ∈ state.reliableObservations.keys, oldest ≤ sequence) ∧
      state.pruneReliableObservations = state.forget oldest ∧
      controlInputReplayWindowWidth < state.reliableObservations.entries.length ∧
      (state.forget oldest).reliableObservations.entries.length ≤ controlInputReplayWindowWidth := by
  unfold pruneReliableObservations
  rcases size : state.reliableObservations.entries.length with _ | rounds
  · exact .inl ⟨Nat.zero_le _, rfl⟩
  rw [size] at short
  by_cases long : controlInputReplayWindowWidth < rounds + 1
  · refine .inr ?_
    have some_key : state.reliableObservations.keys ≠ [] := by
      intro empty
      have none : state.reliableObservations.keys.length = 0 := by rw [empty]; rfl
      simp [AList.keys, List.keys, length_map, size] at none
    obtain ⟨oldest, least⟩ := Option.isSome_iff_exists.mp (List.isSome_min?_of_ne_nil some_key)
    obtain ⟨listed, lowest⟩ := List.min?_eq_some_iff.mp least
    obtain ⟨observation, held⟩ := Option.isSome_iff_exists.mp (lookup_isSome.mpr (mem_keys.mpr listed))
    have fewer : (state.forget oldest).reliableObservations.entries.length ≤
        controlInputReplayWindowWidth := by
      have weight := weigh_erase (fun _ => 1) held
      rw [← length_entries, ← length_entries, size] at weight
      show (state.reliableObservations.erase oldest).entries.length ≤ _
      omega
    have round : state.forgetOldest = state.forget oldest := by
      simp [forgetOldest, least]
    refine ⟨oldest, observation, held, lowest, ?_, long, fewer⟩
    unfold pruneRounds
    rw [size, if_pos long, round]
    cases rounds with
    | zero => rfl
    | succ rounds => exact if_neg (Nat.not_lt_of_le fewer)
  · refine .inl ⟨Nat.le_of_not_lt long, ?_⟩
    rw [pruneRounds, size, if_neg long]

theorem cacheAck_plain (state : AuthenticatedControlReplayState) (reliable : lane ≠ .realtime)
    (sequence : UInt64) (datagram : List UInt8) :
    state.cacheAck lane sequence datagram =
      { state with acknowledgements := state.acknowledgements.insert (lane, sequence) datagram } :=
  if_neg reliable

/-- **A reliable or cleanup event is taken, and the tables stay bounded.** -/
theorem Ordered.accept (ordered : state.Ordered calls) (lanes : ∀ call ∈ calls, call.lane ≠ .realtime)
    (few : state.reliableObservations.entries.length ≤ controlInputReplayWindowWidth) {used : UInt64}
    (lane : call.lane ≠ .realtime) (follows : Follows (lastSequence calls) call)
    (is : used = call.sequence) (below : call.sequence.toNat < 2 ^ 64 - 1)
    (unused : state.reliableSequenceByEvent.lookup call.eventId = none) :
    let taken := (state.record call.sequence call.eventId call.commitment
      used).pruneReliableObservations.cacheAck call.lane call.sequence call.ack
    taken.Ordered (call :: calls) ∧
      taken.reliableObservations.entries.length ≤ controlInputReplayWindowWidth := by
  have recorded := ordered.take lane follows is below unused
  have short : (state.record call.sequence call.eventId call.commitment
      used).reliableObservations.entries.length ≤ controlInputReplayWindowWidth + 1 := by
    show (state.reliableObservations.insert _ _).entries.length ≤ _
    rw [length_entries, weigh_insert]
    have := weigh_erase_le (fun _ => 1) state.reliableObservations call.sequence
    rw [length_entries] at few
    omega
  rcases prune_cases short with ⟨fits, same⟩ | ⟨oldest, observation, held, lowest, same, long, fits⟩
  · rw [same]
    refine ⟨recorded, ?_⟩
    simp [cacheAck_plain _ lane, fits]
  · have differs : call.sequence ≠ oldest := by
      rintro rfl
      have alone : ∀ sequence ∈ (state.record call.sequence call.eventId call.commitment
          used).reliableObservations, sequence ∈ [call.sequence] := by
        intro sequence member
        have above := lowest sequence (mem_keys.mp member)
        obtain ⟨other, found⟩ := Option.isSome_iff_exists.mp (lookup_isSome.mpr member)
        rw [show (state.record call.sequence call.eventId call.commitment used).reliableObservations =
          state.reliableObservations.insert _ _ from rfl, lookup_insert_alist] at found
        split at found
        next equal =>
          simp [equal]
        · have strict := lt_of_le_of_lt (ordered.le_last found) follows.lt
          exact absurd (lt_of_le_of_lt above strict) (lt_irrefl _)
      have one := length_le_of_keys alone
      have : (1 : Nat) < controlInputReplayWindowWidth := by decide
      rw [List.length_singleton] at one
      omega
    rw [same, forget_cacheAck _ lane differs]
    have kept : (state.record call.sequence call.eventId call.commitment used |>.cacheAck call.lane
        call.sequence call.ack).reliableObservations.lookup oldest = some observation := by
      simp [cacheAck_plain _ lane, held]
    refine ⟨recorded.forget ?_ (fun other first => ?_) kept, ?_⟩
    · intro other listed
      rcases mem_cons.mp listed with rfl | listed <;> simp_all
    · cases first
      exact differs
    · rw [cacheAck_plain _ lane]
      exact fits

/-! ### The realtime events -/

theorem mem_acknowledged (state : AuthenticatedControlReplayState)
    (lane : AuthenticatedControlReplayLane) (sequence : UInt64) :
    sequence ∈ state.acknowledged lane ↔ (state.cachedAck lane sequence).isSome := by
  unfold acknowledged cachedAck
  rw [lookup_isSome, mem_keys, mem_map]
  constructor
  · rintro ⟨⟨other, _⟩, listed, rfl⟩
    obtain ⟨listed, same⟩ := mem_filter.mp listed
    simp [← show other = lane from of_decide_eq_true same, listed]
  · intro listed
    exact ⟨(lane, sequence), mem_filter.mpr ⟨listed, decide_eq_true rfl⟩, rfl⟩

theorem acknowledged_nodup (state : AuthenticatedControlReplayState)
    (lane : AuthenticatedControlReplayLane) : (state.acknowledged lane).Nodup := by
  refine (state.acknowledgements.keys_nodup.filter _).map_on ?_
  intro first one second other same
  have left := of_decide_eq_true (mem_filter.mp one).2
  have right := of_decide_eq_true (mem_filter.mp other).2
  exact Prod.ext (left.trans right.symm) same

/-- As many acknowledgements as there are sequences with one. -/
theorem acknowledged_length (fewer : ∀ sequence, (other.cachedAck lane sequence).isSome →
      (state.cachedAck lane sequence).isSome) :
    (other.acknowledged lane).length ≤ (state.acknowledged lane).length := by
  refine (subperm_of_subset (other.acknowledged_nodup lane) fun sequence listed => ?_).length_le
  exact (mem_acknowledged _ _ _).mpr (fewer sequence ((mem_acknowledged _ _ _).mp listed))

theorem dropAck_cachedAck (state : AuthenticatedControlReplayState) (oldest : UInt64)
    (lane : AuthenticatedControlReplayLane) (sequence : UInt64) :
    (state.dropAck oldest).cachedAck lane sequence =
      if (lane, sequence) = (AuthenticatedControlReplayLane.realtime, oldest) then none
      else state.cachedAck lane sequence :=
  lookup_erase_alist _ _ _

theorem dropAck_subset (state : AuthenticatedControlReplayState) (oldest sequence : UInt64)
    (found : ((state.dropAck oldest).cachedAck .realtime sequence).isSome) :
    (state.cachedAck .realtime sequence).isSome := by
  rw [dropAck_cachedAck] at found
  split at found <;> simp_all

theorem dropAck_shorter (listed : oldest ∈ state.acknowledged .realtime) :
    ((state.dropAck oldest).acknowledged .realtime).length + 1 ≤
      (state.acknowledged .realtime).length := by
  have gone : oldest ∉ (state.dropAck oldest).acknowledged .realtime := by
    simp [mem_acknowledged, dropAck_cachedAck]
  refine (subperm_of_subset (List.nodup_cons.mpr ⟨gone, acknowledged_nodup _ _⟩) ?_).length_le
  intro sequence member
  rcases mem_cons.mp member with rfl | member
  · exact listed
  · exact (mem_acknowledged _ _ _).mpr
      (dropAck_subset state oldest sequence ((mem_acknowledged _ _ _).mp member))

/-- **What dropping the oldest acknowledgements leaves**: those of other lanes, and that of the highest
sequence. -/
theorem dropRounds_spec (rounds : Nat) {top : UInt64}
    (topmost : ∀ sequence, (state.cachedAck .realtime sequence).isSome → sequence ≤ top)
    (enough : (state.acknowledged .realtime).length ≤ controlInputReplayWindowWidth + rounds) :
    ∃ acknowledgements, dropRounds rounds state = { state with acknowledgements } ∧
      (∀ lane sequence, lane ≠ .realtime ∨ sequence = top →
        (dropRounds rounds state).cachedAck lane sequence = state.cachedAck lane sequence) ∧
      (∀ sequence, ((dropRounds rounds state).cachedAck .realtime sequence).isSome →
        (state.cachedAck .realtime sequence).isSome) ∧
      ((dropRounds rounds state).acknowledged .realtime).length ≤ controlInputReplayWindowWidth := by
  induction rounds generalizing state with
  | zero => exact ⟨_, rfl, fun _ _ _ => rfl, fun _ => id, enough⟩
  | succ rounds ih =>
    unfold dropRounds
    split
    next long =>
      split
      next empty =>
        have none := List.min?_eq_none_iff.mp empty
        simp [none] at long
      next oldest least =>
        obtain ⟨listed, lowest⟩ := List.min?_eq_some_iff.mp least
        have below : oldest ≠ top := by
          rintro rfl
          have alone : state.acknowledged .realtime ⊆ [oldest] := by
            intro sequence member
            have above := topmost sequence ((mem_acknowledged _ _ _).mp member)
            simp [le_antisymm above (lowest sequence member)]
          have one := (subperm_of_subset (state.acknowledged_nodup _) alone).length_le
          have : (1 : Nat) < controlInputReplayWindowWidth := by decide
          rw [List.length_singleton] at one
          omega
        have shorter := dropAck_shorter listed
        obtain ⟨acks, made, kept, fewer, short⟩ := ih
          (fun sequence found => topmost sequence (state.dropAck_subset oldest sequence found)) (by omega)
        refine ⟨acks, made, fun lane sequence spared => ?_, fun sequence found =>
          state.dropAck_subset oldest sequence (fewer sequence found), short⟩
        rw [kept lane sequence spared, dropAck_cachedAck, if_neg]
        rintro ⟨⟩
        rcases spared with other | same <;> simp_all
    next short =>
      exact ⟨_, rfl, fun _ _ _ => rfl, fun _ => id, Nat.le_of_not_lt short⟩

/-- **What is held about the realtime events** that were seen first. -/
structure Current (state : AuthenticatedControlReplayState) (calls : List ReplayCall) : Prop where
  inOrder : InOrder calls
  history : state.realtimeWindow.History (calls.map (·.sequence))
  highest : state.realtimeHighestSequence = lastSequence calls
  observed : ∀ sequence observation,
    state.realtimeWindow.bySequence.lookup sequence = some observation →
    ∃ call ∈ calls, call.sequence = sequence ∧ observation = ⟨call.eventId, call.commitment⟩
  newest : ∀ call ∈ calls.head?, state.cachedAck .realtime call.sequence = some call.ack
  below : ∀ sequence, (state.cachedAck .realtime sequence).isSome → sequence ≤ lastSequence calls
  few : (state.acknowledged .realtime).length ≤ controlInputReplayWindowWidth

theorem new_current : (new expiresAtMs).Current [] where
  inOrder := trivial
  history := ControlSequenceWindow.new_history _
  highest := rfl
  observed sequence observation found := by simp [new, ControlSequenceWindow.new] at found
  newest _ none := nomatch none
  below _ found := nomatch found
  few := Nat.zero_le _

/-- Only the window and the realtime acknowledgements matter. -/
theorem Current.of_same (current : state.Current calls)
    (window : other.realtimeWindow = state.realtimeWindow)
    (highest : other.realtimeHighestSequence = state.realtimeHighestSequence)
    (acks : ∀ sequence, other.cachedAck .realtime sequence = state.cachedAck .realtime sequence) :
    other.Current calls where
  inOrder := current.inOrder
  history := window ▸ current.history
  highest := highest.trans current.highest
  observed := window ▸ current.observed
  newest call first := (acks call.sequence).trans (current.newest call first)
  below sequence found := current.below sequence (acks sequence ▸ found)
  few := (acknowledged_length fun sequence found => acks sequence ▸ found).trans current.few

/-- **A realtime event that the window accepts is taken.** -/
theorem Current.accept (current : state.Current calls) (lane : call.lane = .realtime)
    (notBelow : ¬ call.sequence < state.realtimeHighestSequence)
    (accepts : state.realtimeWindow.Accepts call.sequence call.eventId) :
    let taken := { state with
      realtimeWindow := (state.realtimeWindow.record call.sequence call.eventId call.commitment).prune
      realtimeHighestSequence := call.sequence }.cacheAck call.lane call.sequence call.ack
    taken.Current (call :: calls) ∧
      (∀ lane sequence, lane ≠ .realtime → taken.cachedAck lane sequence = state.cachedAck lane sequence) ∧
      taken.reliableNextSequence = state.reliableNextSequence ∧
      taken.reliableObservations = state.reliableObservations ∧
      taken.reliableSequenceByEvent = state.reliableSequenceByEvent := by
  intro taken
  have above : lastSequence calls < call.sequence := by
    rw [← current.highest]
    rcases UInt64.lt_or_eq_of_le (not_lt.mp notBelow) with below | same
    · exact below
    · exfalso
      rw [current.highest] at same
      rcases calls with _ | ⟨newest, earlier⟩
      · exact accepts.1 same.symm
      · exact current.history.fresh accepts (mem_map.mpr ⟨newest, (.head _), same⟩)
  obtain ⟨inserted, made⟩ : ∃ inserted : AuthenticatedControlReplayState, inserted = { state with
      realtimeWindow := (state.realtimeWindow.record call.sequence call.eventId call.commitment).prune
      realtimeHighestSequence := call.sequence
      acknowledgements := state.acknowledgements.insert (.realtime, call.sequence) call.ack } := ⟨_, rfl⟩
  have acks : ∀ lane sequence, inserted.cachedAck lane sequence =
      if (lane, sequence) = (AuthenticatedControlReplayLane.realtime, call.sequence) then some call.ack
      else state.cachedAck lane sequence := by
    rw [made]
    exact fun lane sequence => lookup_insert_alist _ _ (lane, sequence) _
  have topmost : ∀ sequence, (inserted.cachedAck .realtime sequence).isSome →
      sequence ≤ call.sequence := by
    intro sequence found
    rw [acks] at found
    split at found
    next same =>
      cases same
      exact le_refl _
    · exact le_of_lt (lt_of_le_of_lt (current.below sequence found) above)
  obtain ⟨acknowledgements, dropped, kept, fewer, few⟩ := dropRounds_spec
    (inserted.acknowledged .realtime).length topmost (Nat.le_add_left _ _)
  have is : taken = dropRounds (inserted.acknowledged .realtime).length inserted := by
    show cacheAck _ _ _ _ = _
    simp [cacheAck, lane, made]
  rw [← is] at dropped kept fewer few
  have looked := ControlSequenceWindow.record_highest state.realtimeWindow call.sequence call.eventId
    call.commitment
  refine ⟨⟨⟨?_, current.inOrder⟩, ?_, ?_, ?_, ?_, ?_, few⟩, ?_, ?_⟩
  · simp [Follows, lane, above]
  · rw [dropped, made]
    exact ControlSequenceWindow.accept_history current.history accepts _
  · rw [dropped, made]
    rfl
  · intro sequence observation found
    rw [dropped, made] at found
    obtain ⟨highest, known, -⟩ := looked
    rw [show _ = _ from ControlSequenceWindow.record_prune_bySequence _ _ _ known sequence] at found
    split at found
    · cases found
    · split at found
      next same =>
        exact ⟨call, (.head _), same.symm, (Option.some.inj found).symm⟩
      · obtain ⟨other, listed, holds⟩ := current.observed sequence observation found
        exact ⟨other, .tail _ listed, holds⟩
  · rintro first ⟨⟩
    simp [kept _ _ (.inr rfl), acks]
  · intro sequence found
    exact topmost sequence (fewer sequence found)
  · intro lane sequence other
    rw [kept _ _ (.inl other), acks, if_neg]
    rintro ⟨⟩
    exact other rfl
  · rw [dropped, made]
    exact ⟨rfl, rfl, rfl⟩

/-- Pruning the reliable tables leaves the realtime events alone. -/
theorem pruneReliableObservations_realtime (state : AuthenticatedControlReplayState) :
    state.pruneReliableObservations.realtimeWindow = state.realtimeWindow ∧
      state.pruneReliableObservations.realtimeHighestSequence = state.realtimeHighestSequence ∧
      ∀ sequence, state.pruneReliableObservations.cachedAck .realtime sequence =
        state.cachedAck .realtime sequence := by
  unfold pruneReliableObservations
  generalize state.reliableObservations.entries.length = rounds
  induction rounds generalizing state with
  | zero => exact ⟨rfl, rfl, fun _ => rfl⟩
  | succ rounds ih =>
    unfold pruneRounds
    split
    · obtain ⟨window, highest, acks⟩ := ih state.forgetOldest
      rw [window, highest]
      unfold forgetOldest at acks ⊢
      split at acks
      · exact ⟨rfl, rfl, acks⟩
      · refine ⟨rfl, rfl, fun sequence => (acks sequence).trans ?_⟩
        show ((state.acknowledgements.erase _).erase _).lookup _ = _
        rw [lookup_erase_alist, lookup_erase_alist, if_neg (by simp), if_neg (by simp)]
        rfl
    · exact ⟨rfl, rfl, fun _ => rfl⟩

/-! ### One call -/

variable (state : AuthenticatedControlReplayState) (lane : AuthenticatedControlReplayLane)
  (sequence eventId : UInt64) (commitment : Commitment) in
/-- **What a call of `observe` can do**, with the state and the answer it leaves. -/
inductive Observed :
    AuthenticatedControlReplayState × Except ControlSequenceError ControlSequenceDecision → Prop
  | realtime (isRealtime : lane = .realtime) (notBelow : ¬ sequence < state.realtimeHighestSequence)
      (accepts : state.realtimeWindow.Accepts sequence eventId) :
      Observed ({ state with
        realtimeWindow := (state.realtimeWindow.record sequence eventId commitment).prune
        realtimeHighestSequence := sequence }, .ok .firstSeen)
  | ordered (used : UInt64) (notRealtime : lane ≠ .realtime) (below : sequence.toNat < 2 ^ 64 - 1)
      (notPast : state.reliableNextSequence ≤ sequence)
      (reliable : lane = .reliable → sequence ≤ state.reliableNextSequence)
      (cleanup : sequence ≤ saturatingSucc state.reliableNextSequence)
      (unused : state.reliableSequenceByEvent.lookup eventId = none) (is : used = sequence) :
      Observed
        ((state.record sequence eventId commitment used).pruneReliableObservations, .ok .firstSeen)
  | retryRealtime (isRealtime : lane = .realtime)
      (notBelow : ¬ sequence < state.realtimeHighestSequence)
      (held : state.realtimeWindow.bySequence.lookup sequence = some ⟨eventId, commitment⟩) :
      Observed (state, .ok .exactRetry)
  | retryOrdered (notRealtime : lane ≠ .realtime)
      (held : state.reliableObservations.lookup sequence = some (eventId, commitment)) :
      Observed (state, .ok .exactRetry)
  | refused (error : ControlSequenceError) :
      Observed (state, .error error)

theorem earlier_observed (state : AuthenticatedControlReplayState) (notRealtime : lane ≠ .realtime)
    (sequence eventId : UInt64) (commitment : Commitment) :
    Observed state lane sequence eventId commitment (state, state.earlier sequence eventId commitment) := by
  unfold earlier
  split
  next observedEventId observedCommitment held =>
    split
    next same =>
      obtain ⟨rfl, rfl⟩ := same
      exact .retryOrdered notRealtime held
    · exact .refused _
  · exact .refused _

theorem lt_max_of_ne {value : UInt64} (differs : value ≠ UInt64.ofNat (2 ^ 64 - 1)) :
    value.toNat < 2 ^ 64 - 1 := by
  have bound := value.toNat_lt
  rcases Nat.lt_or_ge value.toNat (2 ^ 64 - 1) with below | top
  · exact below
  · refine (differs (UInt64.toNat_inj.mp ?_)).elim
    rw [UInt64.toNat_ofNat']
    omega

theorem observe_observed (state : AuthenticatedControlReplayState)
    (lane : AuthenticatedControlReplayLane) (sequence eventId : UInt64) (commitment : Commitment) :
    Observed state lane sequence eventId commitment (state.observe lane sequence eventId commitment) := by
  unfold observe
  split
  next isRealtime =>
    split
    · exact .refused _
    next notBelow =>
      rcases ControlSequenceWindow.observe_cases state.realtimeWindow sequence eventId commitment with
        ⟨accepts, answer⟩ | ⟨-, retry, answer⟩ | ⟨-, -, error, answer⟩
      · simpa [answer] using .realtime isRealtime notBelow accepts
      · simpa [answer] using .retryRealtime isRealtime notBelow retry.2.2
      · simpa [answer] using .refused error
  next notRealtime =>
    split
    · exact .refused _
    next valid =>
      obtain ⟨-, notMax, -⟩ := not_or.mp valid |>.imp id not_or.mp
      have below := lt_max_of_ne notMax
      split
      next isCleanup =>
        split
        · exact .refused _
        next notFar =>
          split
          · exact earlier_observed state notRealtime sequence eventId commitment
          next notPast =>
            split
            · exact .refused _
            next unused =>
              refine .ordered _ notRealtime below (not_lt.mp notPast) (fun reliable => ?_)
                (not_lt.mp notFar) (Option.not_isSome_iff_eq_none.mp unused) rfl
              simp [isCleanup] at reliable
      · split
        · exact .refused _
        next notFar =>
          split
          · exact earlier_observed state notRealtime sequence eventId commitment
          next notPast =>
            split
            · exact .refused _
            next unused =>
              have low := not_lt.mp notPast
              have high := not_lt.mp notFar
              have same := le_antisymm low high
              refine .ordered _ notRealtime below low (fun _ => high) ?_
                (Option.not_isSome_iff_eq_none.mp unused) same
              simp [le_iff_toNat_le, same, saturatingSucc_toNat below]

/-! ### Whole runs -/

/-- **What a state has to do with the events that were seen first.** -/
structure Remembers (state : AuthenticatedControlReplayState) (seen : List ReplayCall) : Prop where
  ordered : state.Ordered (orderedOf seen)
  current : state.Current (realtimeOf seen)
  few : state.reliableObservations.entries.length ≤ controlInputReplayWindowWidth

theorem new_remembers : (new expiresAtMs).Remembers [] :=
  ⟨new_ordered _, new_current _, Nat.zero_le _⟩

theorem mem_orderedOf :
    call ∈ orderedOf calls ↔ call ∈ calls ∧ call.lane ≠ .realtime := by
  unfold orderedOf
  simp

theorem mem_realtimeOf :
    call ∈ realtimeOf calls ↔ call ∈ calls ∧ call.lane = .realtime := by
  unfold realtimeOf
  simp

/-- **One call**: an event that is seen first is remembered; every other answer changes nothing. -/
theorem Remembers.deliver {seen : List ReplayCall} (remembers : state.Remembers seen)
    (call : ReplayCall) :
    ((state.deliver call).2 = .ok .firstSeen ∧ (state.deliver call).1.Remembers (call :: seen)) ∨
      ((state.deliver call).2 ≠ .ok .firstSeen ∧ (state.deliver call).1 = state) := by
  unfold AuthenticatedControlReplayState.deliver
  have observed := state.observe_observed call.lane call.sequence call.eventId call.commitment
  generalize state.observe call.lane call.sequence call.eventId call.commitment = outcome at observed
  cases observed with
  | realtime isRealtime notBelow accepts =>
    refine .inl ⟨rfl, ?_⟩
    obtain ⟨current, acks, next, observations, events⟩ :=
      remembers.current.accept isRealtime notBelow accepts
    have plain : orderedOf (call :: seen) = orderedOf seen :=
      List.filter_cons_of_neg (by rw [isRealtime]; decide)
    have first : realtimeOf (call :: seen) = call :: realtimeOf seen :=
      List.filter_cons_of_pos (decide_eq_true isRealtime)
    refine ⟨?_, first ▸ current,
      le_of_eq_of_le (congrArg (fun table => table.entries.length) observations) remembers.few⟩
    rw [plain]
    exact remembers.ordered.of_same next observations events acks
      fun other listed => (mem_orderedOf.mp listed).2
  | ordered used notRealtime below notPast reliable cleanup unused is =>
    refine .inl ⟨rfl, ?_⟩
    have next := remembers.ordered.next
    have follows : Follows (lastSequence (orderedOf seen)) call := by
      rw [le_iff_toNat_le] at notPast cleanup
      unfold Follows
      split
      next lane =>
        have high := le_iff_toNat_le.mp (reliable lane)
        omega
      · rw [saturatingSucc_toNat (by omega)] at cleanup
        omega
      next lane =>
        exact (notRealtime lane).elim
    obtain ⟨ordered, few⟩ := remembers.ordered.accept (fun other listed => (mem_orderedOf.mp listed).2)
      remembers.few notRealtime follows is below unused
    obtain ⟨window, highest, acks⟩ := pruneReliableObservations_realtime
      (state.record call.sequence call.eventId call.commitment used)
    have first : orderedOf (call :: seen) = call :: orderedOf seen :=
      List.filter_cons_of_pos (decide_eq_true notRealtime)
    have plain : realtimeOf (call :: seen) = realtimeOf seen :=
      List.filter_cons_of_neg (by rw [decide_eq_true_iff]; exact notRealtime)
    refine ⟨first ▸ ordered, ?_, few⟩
    rw [plain]
    show Current (cacheAck _ _ _ _) _
    rw [cacheAck_plain _ notRealtime]
    refine remembers.current.of_same window highest fun sequence => ?_
    refine Eq.trans ?_ (acks sequence)
    refine (lookup_insert_alist _ _ _ _).trans (if_neg fun same => ?_)
    exact notRealtime (congrArg Prod.fst same).symm
  | retryRealtime isRealtime notBelow held | retryOrdered notRealtime held | refused error =>
    exact .inr ⟨by simp, rfl⟩

/-- **Every run of calls remembers the events that were seen first.** -/
theorem deliverAll_remembers (calls : List ReplayCall) {seen : List ReplayCall}
    (remembers : state.Remembers seen) :
    (deliverAll state seen calls).1.Remembers (deliverAll state seen calls).2 := by
  induction calls generalizing state seen with
  | nil => exact remembers
  | cons call rest ih =>
    unfold deliverAll
    rcases remembers.deliver call with ⟨first, next⟩ | ⟨other, same⟩ <;> simp_all

/-- The acknowledgements of the lanes other than the realtime one. -/
def otherAcknowledgements (state : AuthenticatedControlReplayState) :
    List (AuthenticatedControlReplayLane × UInt64) :=
  state.acknowledgements.keys.filter (·.1 ≠ .realtime)

/-- A reliable or cleanup event has one acknowledgement. -/
theorem Ordered.few_acknowledgements (ordered : state.Ordered calls) :
    state.otherAcknowledgements.length ≤ state.reliableObservations.entries.length := by
  have cached : ∀ key ∈ state.otherAcknowledgements, (state.reliableObservations.lookup key.2).isSome ∧
        ∃ call ∈ calls, call.lane = key.1 ∧ call.sequence = key.2 := by
    rintro ⟨lane, sequence⟩ listed
    obtain ⟨listed, other⟩ := mem_filter.mp listed
    exact ordered.acked lane sequence (of_decide_eq_true other)
      (lookup_isSome.mpr (mem_keys.mpr listed))
  have distinct : (state.otherAcknowledgements.map Prod.snd).Nodup := by
    refine (state.acknowledgements.keys_nodup.filter _).map_on ?_
    intro first one second other same
    obtain ⟨-, left, among, lane, sequence⟩ := cached first one
    obtain ⟨-, right, among', lane', sequence'⟩ := cached second other
    have one := ordered.inOrder.unique among among' (sequence.trans (same.trans sequence'.symm))
    exact Prod.ext (lane.symm.trans ((congrArg ReplayCall.lane one).trans lane')) same
  rw [← length_map (f := Prod.snd)]
  refine length_keys_le distinct fun sequence listed => ?_
  obtain ⟨key, among, rfl⟩ := mem_map.mp listed
  exact lookup_isSome.mp (cached key among).1

/-- **Replay safety of a state**, given the events that were seen first, newest first. -/
structure ReplaySafe (state : AuthenticatedControlReplayState) (seen : List ReplayCall) : Prop where
  /-- Reliable and cleanup sequences increase together, a reliable one by exactly one and a cleanup one by
  at most two. -/
  ordered : (orderedOf seen).Pairwise fun later earlier => earlier.sequence < later.sequence
  steps : ∀ later call earlier, orderedOf seen = later ++ call :: earlier →
    (call.lane = .reliable → call.sequence.toNat = (lastSequence earlier).toNat + 1) ∧
      call.sequence.toNat ≤ (lastSequence earlier).toNat + 2
  realtime : (realtimeOf seen).Pairwise fun later earlier => earlier.sequence < later.sequence
  /-- A retry is a retry of an event that was seen first in the same order of events. On the lane of that
  event its acknowledgement is the one that was cached for it. -/
  retry : ∀ lane sequence eventId commitment,
    (state.observe lane sequence eventId commitment).2 = .ok .exactRetry →
    ∃ call ∈ seen, (call.lane = .realtime ↔ lane = .realtime) ∧ call.sequence = sequence ∧
      call.eventId = eventId ∧ call.commitment = commitment ∧
      (call.lane = lane → state.cachedAck lane sequence = some call.ack)
  inverse : ∀ sequence eventId, state.reliableSequenceByEvent.lookup eventId = some sequence ↔
    ∃ commitment, state.reliableObservations.lookup sequence = some (eventId, commitment)
  observations : state.reliableObservations.entries.length ≤ controlInputReplayWindowWidth
  events : state.reliableSequenceByEvent.entries.length ≤ controlInputReplayWindowWidth
  realtimeAcks : (state.acknowledged .realtime).length ≤ controlInputReplayWindowWidth
  otherAcks : state.otherAcknowledgements.length ≤ controlInputReplayWindowWidth
  unchanged : ∀ lane sequence eventId commitment error,
    (state.observe lane sequence eventId commitment).2 = .error error →
    (state.observe lane sequence eventId commitment).1 = state

theorem InOrder.steps (inOrder : InOrder calls) :
    ∀ later call earlier, calls = later ++ call :: earlier → Follows (lastSequence earlier) call := by
  induction calls with
  | nil => exact fun later call earlier split => absurd split (by simp)
  | cons newest rest ih =>
    intro later call earlier split
    cases later with
    | nil =>
      obtain ⟨rfl, rfl⟩ := List.cons.inj split
      exact inOrder.1
    | cons other later => exact ih inOrder.2 later call earlier (List.cons.inj split).2

/-- There are as many event identifiers as there are sequences. -/
theorem Ordered.few_events (ordered : state.Ordered calls) :
    state.reliableSequenceByEvent.entries.length ≤ state.reliableObservations.entries.length := by
  have found : ∀ eventId ∈ state.reliableSequenceByEvent.keys,
      eventId ∈ state.reliableObservations.entries.map fun entry => entry.2.1 := by
    intro eventId listed
    obtain ⟨sequence, bound⟩ := Option.isSome_iff_exists.mp (lookup_isSome.mpr (mem_keys.mpr listed))
    obtain ⟨commitment, held⟩ := (ordered.inverse sequence eventId).mp bound
    exact mem_map.mpr ⟨⟨sequence, eventId, commitment⟩, (mem_entries_alist _ _ _).mpr held, rfl⟩
  have counted := (subperm_of_subset state.reliableSequenceByEvent.keys_nodup found).length_le
  rw [length_map] at counted
  exact (length_map _).symm.trans_le counted

/-- The window retains nothing above the newest realtime event, whose acknowledgement is cached. -/
theorem Current.retry (current : state.Current calls) {eventId : UInt64} {commitment : Commitment}
    (notBelow : ¬ sequence < state.realtimeHighestSequence)
    (held : state.realtimeWindow.bySequence.lookup sequence = some ⟨eventId, commitment⟩) :
    ∃ call ∈ calls, call.sequence = sequence ∧ call.eventId = eventId ∧ call.commitment = commitment ∧
      state.cachedAck .realtime sequence = some call.ack := by
  obtain ⟨call, listed, same, is⟩ := current.observed sequence _ held
  obtain ⟨rfl, rfl⟩ : eventId = call.eventId ∧ commitment = call.commitment := by
    simpa using is
  refine ⟨call, listed, same, rfl, rfl, ?_⟩
  have order := current.inOrder
  have newest := current.newest
  rw [current.highest] at notBelow
  rcases calls with _ | ⟨first, earlier⟩
  · cases listed
  · have top := le_antisymm (not_lt.mp notBelow) (same ▸ order.le_last call listed)
    have one : call = first := order.unique listed (.head _) (same.trans top.symm)
    rw [← same, one]
    exact newest first rfl

theorem Remembers.replaySafe {seen : List ReplayCall} (remembers : state.Remembers seen) :
    state.ReplaySafe seen where
  ordered := remembers.ordered.inOrder.increasing
  steps later call earlier split := by
    have follows := remembers.ordered.inOrder.steps later call earlier split
    have notRealtime : call.lane ≠ .realtime := by
      refine (mem_orderedOf.mp (split ▸ ?_ : call ∈ orderedOf seen)).2
      exact List.mem_append_right _ (.head _)
    unfold Follows at follows
    split at follows
    next reliable =>
      exact ⟨fun _ => follows, by omega⟩
    next cleanup =>
      refine ⟨fun reliable => ?_, by omega⟩
      simp [cleanup] at reliable
    next realtime =>
      exact (notRealtime realtime).elim
  realtime := remembers.current.inOrder.increasing
  retry lane sequence eventId commitment answered := by
    have observed := state.observe_observed lane sequence eventId commitment
    generalize state.observe lane sequence eventId commitment = outcome at observed answered
    cases observed with
    | realtime => cases answered
    | ordered => cases answered
    | retryRealtime isRealtime notBelow held =>
      obtain ⟨call, listed, same, event, commit, cached⟩ := remembers.current.retry notBelow held
      obtain ⟨among, lane'⟩ := mem_realtimeOf.mp listed
      exact ⟨call, among, ⟨fun _ => isRealtime, fun _ => lane'⟩, same, event, commit,
        fun _ => isRealtime ▸ cached⟩
    | retryOrdered notRealtime held =>
      obtain ⟨call, listed, same, is, cached⟩ := remembers.ordered.observed sequence _ held
      obtain ⟨among, lane'⟩ := mem_orderedOf.mp listed
      obtain ⟨event, commit⟩ := Prod.mk.inj is
      exact ⟨call, among, ⟨fun other => (lane' other).elim, fun other => (notRealtime other).elim⟩,
        same, event, commit, fun equal => equal ▸ cached⟩
    | refused error => cases answered
  inverse := remembers.ordered.inverse
  observations := remembers.few
  events := remembers.ordered.few_events.trans remembers.few
  realtimeAcks := remembers.current.few
  otherAcks := remembers.ordered.few_acknowledgements.trans remembers.few
  unchanged lane sequence eventId commitment error answered := by
    have observed := state.observe_observed lane sequence eventId commitment
    generalize state.observe lane sequence eventId commitment = outcome at observed answered
    cases observed <;> simp_all

/-- **Input events are taken once and in order**, in every run of calls from a new state. -/
theorem replay_in_order (expiresAtMs : UInt64) (calls : List ReplayCall) :
    (deliverAll (new expiresAtMs) [] calls).1.ReplaySafe (deliverAll (new expiresAtMs) [] calls).2 :=
  (deliverAll_remembers calls (new_remembers expiresAtMs)).replaySafe

/-- A reliable event that comes again as a cleanup event is a retry without an acknowledgement. -/
theorem retry_on_other_lane :
    ¬ ∀ (expiresAtMs : UInt64) (calls : List ReplayCall) (lane : AuthenticatedControlReplayLane)
        (sequence eventId : UInt64) (commitment : Commitment),
      ((deliverAll (new expiresAtMs) [] calls).1.observe lane sequence eventId commitment).2 =
        .ok .exactRetry →
      ((deliverAll (new expiresAtMs) [] calls).1.cachedAck lane sequence).isSome := by
  intro always
  have cached := always 10 [⟨.reliable, 1, 1, Vector.replicate 32 0, [1]⟩] .cleanup 1 1
    (Vector.replicate 32 0) (by decide)
  exact absurd cached (by decide)

end AuthenticatedControlReplayState

end MiniRemoteDesktop.Control
