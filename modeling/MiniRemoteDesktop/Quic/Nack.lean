/-
**Tracking lost packets** (`NackReceiver`).

The receiver keeps one cursor, the number it expects next, and the set of the numbers that were skipped. A
packet takes its number out of the set, a gap of less than a thousand puts the numbers between in, and the
cursor is put behind the packet, whichever it was.

Numbers are taken modulo `2 ^ 32`. A sender that never starts again numbers its packets by their index, so
that a link knows which packet a number stands for.

* `NackReceiver.processPacket` — the receiver.
* `exact_of_inOrder` — **the tracking is exact as long as packets come in order**.
-/

import MiniRemoteDesktop.Lib.Execution
import Mathlib.Algebra.Group.Nat.Defs
import Mathlib.Data.Finset.Insert
import Mathlib.Data.Finset.Erase

namespace MiniRemoteDesktop.Quic.Nack

open List (mem_cons)
open UInt32 (ofNat_add toNat toNat_ofNat' toNat_sub)
open Execution

/-! ### The receiver -/

structure NackConfig where
  enabled : Bool
  nackTimeout : Nat

structure NackReceiver where
  config : NackConfig
  expectedSequence : UInt32
  missingSequences : Finset UInt32
  nackRetries : UInt32 → Option Nat
  lastNackTime : Option Nat

/-- The message names the missing numbers in no particular order. -/
structure NackMessage where
  sequenceNumbers : Finset UInt32

/-- The range `low..high`, which is empty when `high` is below. -/
def range (low high : UInt32) : List UInt32 :=
  (List.range' low.toNat (high.toNat - low.toNat)).map UInt32.ofNat

namespace NackReceiver

def new (config : NackConfig) (initialSequence : UInt32) : NackReceiver :=
  ⟨config, initialSequence, ∅, fun _ => none, none⟩

def shouldSendNack (receiver : NackReceiver) (now : Nat) : Bool :=
  if receiver.config.enabled = false ∨ receiver.missingSequences = ∅ then false
  else receiver.lastNackTime.all fun last => receiver.config.nackTimeout ≤ now - last

/-- One round of the loop over a gap. -/
def markMissing (receiver : NackReceiver) (missing : UInt32) : NackReceiver :=
  { receiver with
    missingSequences := insert missing receiver.missingSequences
    nackRetries := Function.update receiver.nackRetries missing (some 0) }

def processPacket (receiver : NackReceiver) (seq : UInt32) (now : Nat) :
    NackReceiver × Option NackMessage :=
  let found := { receiver with
    missingSequences := receiver.missingSequences.erase seq
    nackRetries := Function.update receiver.nackRetries seq none }
  let seqDelta := seq - receiver.expectedSequence
  let marked := if 0 < seqDelta ∧ seqDelta < 1000 then
    (range receiver.expectedSequence seq).foldl markMissing found else found
  let moved := { marked with expectedSequence := seq + 1 }
  (moved, if moved.shouldSendNack now then some ⟨moved.missingSequences⟩ else none)

end NackReceiver

/-! ### The link -/

/-- A packet that arrives: its index, which the sender counts, and when. -/
structure Arrival where
  (index now : Nat)

/-- **The receiver beside what arrived.** `next` is above every index so far. -/
structure NackLink where
  receiver : NackReceiver
  (initial next : Nat)
  received : List Nat

namespace NackLink

def new (config : NackConfig) (initialSequence : UInt32) : NackLink :=
  ⟨.new config initialSequence, initialSequence.toNat, initialSequence.toNat, []⟩

def arrive (link : NackLink) (arrival : Arrival) : NackLink :=
  { link with
    receiver := (link.receiver.processPacket (UInt32.ofNat arrival.index) arrival.now).1
    next := max link.next (arrival.index + 1)
    received := arrival.index :: link.received }

def step (link : NackLink) (arrival : Arrival) : Option NackLink := some (link.arrive arrival)

end NackLink

/-- The gap before a packet is below a thousand. -/
def GapBelow (link : NackLink) (arrival : Arrival) : Prop := arrival.index < link.next + 1000

/-- **In order**: the newest packet again, or a newer one, where no gap goes across the wrap. -/
def InOrder (link : NackLink) (arrival : Arrival) : Prop :=
  arrival.index + 1 = link.next ∨ (link.next ≤ arrival.index ∧ arrival.index < link.next + 1000 ∧
      arrival.index / 2 ^ 32 = link.next / 2 ^ 32)

/-- **What the tracking should be.** A number stands for the last packet that had it, of those before the
highest. -/
structure Exact (link : NackLink) : Prop where
  /-- The cursor is behind the highest packet, and so never moves backwards. -/
  expected : link.receiver.expectedSequence = UInt32.ofNat link.next
  received : ∀ index ∈ link.received, link.next ≤ index + 2 ^ 32 →
    UInt32.ofNat index ∉ link.receiver.missingSequences
  skipped : ∀ index, link.initial ≤ index → index < link.next → link.next ≤ index + 2 ^ 32 →
    index ∉ link.received → UInt32.ofNat index ∈ link.receiver.missingSequences

/-! ### One packet -/

theorem ofNat_ne {first second : Nat} (below : first < second) (near : second < first + 2 ^ 32) :
    UInt32.ofNat first ≠ UInt32.ofNat second := by
  intro same
  have numbers := congrArg toNat same
  rw [toNat_ofNat', toNat_ofNat'] at numbers
  omega

/-- The numbers of a gap that does not go across the wrap. -/
theorem mem_range {low high : Nat} (below : low ≤ high) (era : high / 2 ^ 32 = low / 2 ^ 32)
    {number : UInt32} : number ∈ range (UInt32.ofNat low) (UInt32.ofNat high) ↔
      ∃ index, low ≤ index ∧ index < high ∧ UInt32.ofNat index = number := by
  unfold range
  rw [List.mem_map, toNat_ofNat', toNat_ofNat']
  have lowSplit := Nat.div_add_mod low (2 ^ 32)
  have highSplit := Nat.div_add_mod high (2 ^ 32)
  have shift : ∀ index, UInt32.ofNat (2 ^ 32 * (low / 2 ^ 32) + index) = UInt32.ofNat index := by
    intro index
    apply toNat.inj
    simp
  constructor
  · rintro ⟨index, member, rfl⟩
    obtain ⟨least, most⟩ := List.mem_range'_1.mp member
    exact ⟨2 ^ 32 * (low / 2 ^ 32) + index, by omega, by omega, shift index⟩
  · rintro ⟨index, least, most, rfl⟩
    refine ⟨index - 2 ^ 32 * (low / 2 ^ 32), List.mem_range'_1.mpr ⟨by omega, by omega⟩, ?_⟩
    rw [← shift, Nat.add_sub_cancel' (by omega)]

theorem missing_foldl (numbers : List UInt32) (receiver : NackReceiver) (number : UInt32) :
    number ∈ (numbers.foldl NackReceiver.markMissing receiver).missingSequences ↔
      number ∈ numbers ∨ number ∈ receiver.missingSequences := by
  induction numbers generalizing receiver with
  | nil => simp
  | cons first rest ih =>
    rw [List.foldl_cons, ih]
    simp only [NackReceiver.markMissing, Finset.mem_insert, mem_cons]
    tauto

theorem missing_processPacket (receiver : NackReceiver) (seq : UInt32) (now : Nat) (number : UInt32) :
    number ∈ (receiver.processPacket seq now).1.missingSequences ↔
      (0 < seq - receiver.expectedSequence ∧ seq - receiver.expectedSequence < 1000 ∧
        number ∈ range receiver.expectedSequence seq) ∨
      (number ≠ seq ∧ number ∈ receiver.missingSequences) := by
  unfold NackReceiver.processPacket
  dsimp only
  split
  next gap =>
    simp [missing_foldl, gap.1, gap.2]
  next none =>
    rw [Finset.mem_erase]
    constructor
    · exact .inr
    · rintro (⟨first, second, _⟩ | kept)
      · exact absurd ⟨first, second⟩ none
      · exact kept

/-! ### Runs -/

/-- **The invariant**: the tracking is exact, and `next` is above what arrived. -/
structure Tracked (link : NackLink) : Prop where
  exact : Exact link
  above : ∀ index ∈ link.received, index < link.next

theorem tracked_new (config : NackConfig) (initialSequence : UInt32) :
    Tracked (.new config initialSequence) where
  exact :=
    { expected := (UInt32.ofNat_toNat).symm
      received := List.forall_mem_nil _
      skipped := fun _ least below _ _ => absurd least (Nat.not_le.mpr below) }
  above := List.forall_mem_nil _

variable {link : NackLink} {arrival : Arrival}

theorem Tracked.again (tracked : Tracked link) (newest : arrival.index + 1 = link.next) :
    Tracked (link.arrive arrival) := by
  have next : (link.arrive arrival).next = link.next := by
    show max link.next (arrival.index + 1) = link.next
    simp [newest]
  have back : UInt32.ofNat arrival.index - link.receiver.expectedSequence = UInt32.ofNat (2 ^ 32 - 1) := by
    apply toNat.inj
    rw [tracked.exact.expected, ← newest, toNat_sub, toNat_ofNat', toNat_ofNat', toNat_ofNat']
    omega
  have missing : ∀ number, number ∈ (link.arrive arrival).receiver.missingSequences ↔
      number ≠ UInt32.ofNat arrival.index ∧ number ∈ link.receiver.missingSequences := by
    intro number
    refine (missing_processPacket _ _ arrival.now _).trans ⟨?_, .inr⟩
    rintro (⟨_, small, _⟩ | kept)
    · simp [back] at small
    · exact kept
  refine ⟨⟨?_, fun index member near lost => ?_, fun index least below near unknown => ?_⟩,
    fun index member => ?_⟩
  · show UInt32.ofNat arrival.index + 1 = UInt32.ofNat (link.arrive arrival).next
    simp [next, ← newest, ofNat_add]
  · obtain ⟨other, lost⟩ := (missing _).mp lost
    rcases mem_cons.mp member with rfl | before
    · exact other rfl
    · exact tracked.exact.received index before (next ▸ near) lost
  · rw [next] at below near
    have apart : index ≠ arrival.index := fun same => unknown (same ▸ (.head _))
    refine (missing _).mpr ⟨ofNat_ne (by omega) (by omega), ?_⟩
    exact tracked.exact.skipped index least below near fun before => unknown (.tail _ before)
  · rw [next]
    rcases mem_cons.mp member with rfl | before
    · omega
    · exact tracked.above index before

theorem Tracked.newer (tracked : Tracked link) (least : link.next ≤ arrival.index)
    (gap : arrival.index < link.next + 1000) (era : arrival.index / 2 ^ 32 = link.next / 2 ^ 32) :
    Tracked (link.arrive arrival) := by
  have next : (link.arrive arrival).next = arrival.index + 1 := by
    show max link.next (arrival.index + 1) = arrival.index + 1
    exact max_eq_right (Nat.le_succ_of_le least)
  have delta : (UInt32.ofNat arrival.index - link.receiver.expectedSequence).toNat =
      arrival.index - link.next := by
    rw [tracked.exact.expected, toNat_sub, toNat_ofNat', toNat_ofNat']
    omega
  have missing : ∀ number, number ∈ (link.arrive arrival).receiver.missingSequences ↔
      (∃ index, link.next ≤ index ∧ index < arrival.index ∧ UInt32.ofNat index = number) ∨
        (number ≠ UInt32.ofNat arrival.index ∧ number ∈ link.receiver.missingSequences) := by
    intro number
    refine (missing_processPacket _ _ arrival.now _).trans (or_congr_left ?_)
    rw [UInt32.lt_iff_toNat_lt, UInt32.lt_iff_toNat_lt, delta, tracked.exact.expected, mem_range least era]
    constructor
    · exact fun ⟨_, _, skipped⟩ => skipped
    · rintro ⟨index, first, last, same⟩
      refine ⟨?_, ?_, index, first, last, same⟩
      · show 0 < arrival.index - link.next
        omega
      · show arrival.index - link.next < 1000
        omega
  refine ⟨⟨?_, fun index member near lost => ?_, fun index initial below near unknown => ?_⟩,
    fun index member => ?_⟩
  · show UInt32.ofNat arrival.index + 1 = UInt32.ofNat (link.arrive arrival).next
    simp [next, ofNat_add]
  · rw [next] at near
    rcases mem_cons.mp member with rfl | before
    · rcases (missing _).mp lost with ⟨other, _, below, same⟩ | ⟨other, _⟩
      · exact ofNat_ne below (by omega) same
      · exact other rfl
    · have under := tracked.above index before
      rcases (missing _).mp lost with ⟨other, first, below, same⟩ | ⟨_, lost⟩
      · exact ofNat_ne (Nat.lt_of_lt_of_le under first) (by omega) same.symm
      · exact tracked.exact.received index before (by omega) lost
  · rw [next] at below near
    have apart : index ≠ arrival.index := fun same => unknown (same ▸ (.head _))
    refine (missing _).mpr ?_
    by_cases old : index < link.next
    · refine .inr ⟨ofNat_ne (by omega) (by omega), ?_⟩
      exact tracked.exact.skipped index initial old (by omega) fun before =>
        unknown (.tail _ before)
    · exact .inl ⟨index, Nat.not_lt.mp old, by omega, rfl⟩
  · rw [next]
    rcases mem_cons.mp member with rfl | before
    · exact Nat.lt_succ_self _
    · have under := tracked.above index before
      omega

/-- **The tracking is exact as long as packets come in order**: in every run of such packets, whatever was
lost of them, and however often the numbers wrapped. -/
theorem exact_of_inOrder {config : NackConfig} {initialSequence : UInt32} {link : NackLink}
    (reach : Reach NackLink.step InOrder (.new config initialSequence) link) : Exact link := by
  refine (reach.invariant (tracked_new config initialSequence) ?_).exact
  rintro link arrival later tracked admitted ⟨⟩
  rcases admitted with newest | ⟨least, gap, era⟩
  · exact tracked.again newest
  · exact tracked.newer least gap era

def sampleConfig : NackConfig := ⟨true, 50⟩

/-- Whether a packet is in order. -/
def isInOrder (link : NackLink) (arrival : Arrival) : Bool :=
  arrival.index + 1 = link.next || (link.next ≤ arrival.index && arrival.index < link.next + 1000 &&
    arrival.index / 2 ^ 32 = link.next / 2 ^ 32)

theorem inOrder_of_isInOrder {link : NackLink} {arrival : Arrival} (checked : isInOrder link arrival = true) :
    InOrder link arrival := by
  unfold isInOrder at checked
  simp only [Bool.or_eq_true, Bool.and_eq_true, decide_eq_true_eq, and_assoc] at checked
  exact checked

/-- Two packets are lost, and the third is repeated. -/
theorem exact_of_inOrder_lost : ∃ link : NackLink, link.receiver.missingSequences = {1, 2} ∧ Exact link := by
  have ran : (runChecked isInOrder NackLink.step (.new sampleConfig 0) [⟨0, 0⟩, ⟨3, 1⟩, ⟨3, 2⟩]).map
      (fun link => link.receiver.missingSequences) = some {1, 2} := by decide
  obtain ⟨link, reached, same⟩ := Option.map_eq_some_iff.mp ran
  exact ⟨link, same, exact_of_inOrder (runChecked_reach reached fun _ _ => inOrder_of_isInOrder)⟩

/-- **One late packet is enough**: it moves the cursor back, and the next packet makes the receiver ask for
one that it has. -/
theorem not_exact : ¬ ∀ (config : NackConfig) (initialSequence : UInt32) (link : NackLink),
    Reach NackLink.step GapBelow (.new config initialSequence) link → Exact link := by
  intro exact
  have ran : (runChecked (fun link arrival => decide (arrival.index < link.next + 1000)) NackLink.step
      (.new sampleConfig 0) [⟨1, 0⟩, ⟨0, 1⟩, ⟨2, 2⟩]).map
      (fun link => (link.received, link.next, decide (1 ∈ link.receiver.missingSequences))) =
      some ([2, 0, 1], 3, true) := by decide
  obtain ⟨link, reached, same⟩ := Option.map_eq_some_iff.mp ran
  obtain ⟨received, rest⟩ := Prod.mk.inj same
  obtain ⟨next, missing⟩ := Prod.mk.inj rest
  have tracking := exact sampleConfig 0 link (runChecked_reach reached fun _ _ => of_decide_eq_true)
  exact tracking.received 1 (received ▸ by decide) (next ▸ by decide) (of_decide_eq_true missing)

end MiniRemoteDesktop.Quic.Nack
