/-
**The headers of parity packets** (`FecEncoder::add_data_packet`, `FecEncoder::flush`).

A parity packet names its block by the number of the first data packet and by how many there are. The
encoder takes the first number from a counter that is one short of the end of a full block, and the size of
a flushed block from the buffer that it has just cleared.

* `Identifies` — a header that names its block.
* `not_identifies` — **no header does**.
-/

import MiniRemoteDesktop.Quic.Fec
import Mathlib.Data.List.Induction

namespace MiniRemoteDesktop.Quic.Fec

open List (append_assoc cons_append length_append length_singleton map_eq_nil_iff mem_map)
open FecEncoder

/-! ### What a call emits -/

/-- The block of the data packets that the encoder holds at a call, with what the call emits. -/
def Sender.emits (sender : Sender) : Sending → Block
  | .packet data => .ending (sender.sent + 1) (sender.pending ++ [data]) (sender.encoder.addDataPacket data).2
  | .flush => .ending sender.sent sender.pending sender.encoder.flush.2

open Sender

/-- The sender after some calls. -/
def Sender.after (config : FecConfig) (sendings : List Sending) : Sender :=
  sendings.foldl perform (new config)

/-- **A header that names its block**: the number of the first packet, and how many there are. -/
def Identifies (block : Block) (fec : FecPacket) : Prop :=
  fec.baseSequence = UInt32.ofNat block.start ∧ fec.blockSize.toNat = block.packets.length

/-- Every header that is emitted in a run of calls names its block. -/
def HeadersIdentify (config : FecConfig) (sendings : List Sending) : Prop :=
  ∀ earlier sending later, sendings = earlier ++ sending :: later →
    ∀ fec ∈ ((after config earlier).emits sending).parity,
      Identifies ((after config earlier).emits sending) fec

def Sending.data : Sending → Option Bytes
  | packet data => some data
  | flush => none

/-- **No call ends a block**: there are fewer packets than a block has, and a flush comes before all of
them. -/
def EndsNoBlock (config : FecConfig) (sendings : List Sending) : Prop :=
  ∀ earlier sending later, sendings = earlier ++ sending :: later →
    if sending = .flush then earlier.filterMap Sending.data = []
    else (earlier.filterMap Sending.data).length + 1 < config.blockSize

/-! ### No header names its block -/

/-- The encoder beside what the sender knows of its calls. -/
structure Counted (config : FecConfig) (sender : Sender) : Prop where
  settings : sender.encoder.config = config
  buffer : sender.encoder.buffer = sender.pending
  sequence : sender.encoder.sequence = UInt32.ofNat sender.sent
  within : sender.pending.length ≤ sender.sent
  room : sender.pending.length < config.blockSize ∨ sender.pending = []

variable {config : FecConfig} {sender : Sender}

theorem counted_perform (counted : Counted config sender) (sending : Sending) :
    Counted config (sender.perform sending) := by
  obtain ⟨rfl, buffer, sequence, within, room⟩ := counted
  cases sending with
  | packet data =>
    have next : sender.encoder.sequence + 1 = UInt32.ofNat (sender.sent + 1) := by
      simp [sequence]
    unfold perform addDataPacket
    dsimp only
    rw [buffer]
    by_cases short : (sender.pending ++ [data]).length < sender.encoder.config.blockSize
    · rw [if_pos short, if_pos short]
      refine ⟨rfl, rfl, next, ?_, .inl short⟩
      simp [Nat.succ_le_succ within]
    · rw [if_neg short, if_neg short]
      exact ⟨rfl, rfl, next, Nat.zero_le _, .inr rfl⟩
  | flush =>
    unfold perform flush
    dsimp only
    rw [buffer]
    by_cases empty : sender.pending = []
    · rw [if_pos empty, if_pos empty]
      exact ⟨rfl, buffer, sequence, within, room⟩
    · simpa [empty] using ⟨rfl, rfl, sequence, Nat.zero_le _, .inr rfl⟩

theorem counted_after (config : FecConfig) (sendings : List Sending) :
    Counted config (after config sendings) := by
  refine List.foldlRecOn sendings perform ⟨rfl, rfl, rfl, le_rfl, .inr rfl⟩ ?_
  exact fun sender counted sending _ => counted_perform counted sending

/-- The first number of a full block is one above the header's. -/
theorem sequence_sub_ne {sent size : Nat} (within : size ≤ sent) :
    UInt32.ofNat sent - UInt32.ofNat (size + 1) ≠ UInt32.ofNat (sent - size) := by
  intro same
  have numbers := congrArg UInt32.toNat same
  rw [UInt32.toNat_sub, UInt32.toNat_ofNat', UInt32.toNat_ofNat', UInt32.toNat_ofNat'] at numbers
  omega

/-- **No header names its block.** -/
theorem not_identifies (counted : Counted config sender) (sending : Sending) :
    ∀ fec ∈ (sender.emits sending).parity, ¬ Identifies (sender.emits sending) fec := by
  obtain ⟨rfl, buffer, sequence, within, room⟩ := counted
  intro fec emitted ⟨base, size⟩
  cases sending with
  | packet data =>
    change fec ∈ (sender.encoder.addDataPacket data).2 at emitted
    change fec.baseSequence = UInt32.ofNat (sender.sent + 1 - (sender.pending ++ [data]).length) at base
    change fec.blockSize.toNat = (sender.pending ++ [data]).length at size
    rw [length_append, length_singleton] at base size
    rw [Nat.add_sub_add_right] at base
    unfold addDataPacket at emitted
    dsimp only at emitted
    rw [buffer] at emitted
    split at emitted
    · cases emitted
    next full =>
      rw [length_append, length_singleton] at full
      obtain ⟨parity, _, rfl⟩ := mem_map.mp emitted
      by_cases last : sender.encoder.config.blockSize = sender.pending.length + 1
      · rw [last, sequence] at base
        exact sequence_sub_ne within base
      · -- What is left is a block size of zero: a block of one packet.
        have empty : sender.pending.length = 0 := by
          rcases room with short | empty
          · omega
          · simp [empty]
        have none : sender.encoder.config.blockSize = 0 := by omega
        simp [none] at size
  | flush =>
    change fec ∈ sender.encoder.flush.2 at emitted
    unfold flush at emitted
    rw [buffer] at emitted
    split at emitted
    · cases emitted
    next some =>
      obtain ⟨parity, _, rfl⟩ := mem_map.mp emitted
      exact some (List.length_eq_zero_iff.mp size.symm)

/-! ### Calls that end no block -/

theorem emits_ne_nil (counted : Counted config sender) (some : config.parityCount ≠ 0) (sending : Sending)
    (ends : if sending = .flush then sender.pending ≠ [] else config.blockSize ≤ sender.pending.length + 1) :
    (sender.emits sending).parity ≠ [] := by
  obtain ⟨rfl, buffer, _, _, _⟩ := counted
  have generated : ∀ encoder : FecEncoder, encoder.config = sender.encoder.config →
      encoder.generateParity ≠ [] := by
    intro encoder same empty
    have length := congrArg List.length empty
    rw [generateParity_eq, List.length_map, List.length_range, same] at length
    exact some length
  cases sending with
  | packet data =>
    rw [if_neg (by simp)] at ends
    show (sender.encoder.addDataPacket data).2 ≠ []
    unfold addDataPacket
    rw [buffer, if_neg (by rw [length_append, length_singleton]; omega)]
    intro empty
    exact generated _ (by rfl) (map_eq_nil_iff.mp empty)
  | flush =>
    rw [if_pos rfl] at ends
    show sender.encoder.flush.2 ≠ []
    unfold flush
    rw [buffer, if_neg ends]
    intro empty
    exact generated _ rfl (map_eq_nil_iff.mp empty)

theorem emits_eq_nil_of_count (counted : Counted config sender) (none : config.parityCount = 0)
    (sending : Sending) : (sender.emits sending).parity = [] := by
  obtain ⟨rfl, _, _, _, _⟩ := counted
  have generated : ∀ encoder : FecEncoder, encoder.config = sender.encoder.config →
      encoder.generateParity = [] := by
    intro encoder same
    simp [generateParity_eq, same, none]
  cases sending with
  | packet data =>
    show (sender.encoder.addDataPacket data).2 = []
    unfold addDataPacket
    dsimp only
    split
    · rfl
    · exact map_eq_nil_iff.mpr (generated _ rfl)
  | flush =>
    show sender.encoder.flush.2 = []
    unfold flush
    split
    · rfl
    · exact map_eq_nil_iff.mpr (generated _ rfl)

theorem emits_eq_nil (counted : Counted config sender) (sending : Sending)
    (goes : if sending = .flush then sender.pending = [] else sender.pending.length + 1 < config.blockSize) :
    (sender.emits sending).parity = [] := by
  obtain ⟨rfl, buffer, _, _, _⟩ := counted
  cases sending with
  | packet data =>
    rw [if_neg (by simp)] at goes
    show (sender.encoder.addDataPacket data).2 = []
    unfold addDataPacket
    rw [buffer, if_pos (by rw [length_append, length_singleton]; exact goes)]
  | flush =>
    rw [if_pos rfl] at goes
    show sender.encoder.flush.2 = []
    simp [flush, buffer, goes]

theorem EndsNoBlock.initial {earlier later : List Sending} (ends : EndsNoBlock config (earlier ++ later)) :
    EndsNoBlock config earlier := by
  intro before sending rest split
  refine ends before sending (rest ++ later) ?_
  simp [split]

theorem pending_of_endsNoBlock {sendings : List Sending} (ends : EndsNoBlock config sendings) :
    (after config sendings).pending = sendings.filterMap Sending.data := by
  induction sendings using List.reverseRecOn with
  | nil => rfl
  | append_singleton sendings sending ih =>
    have pending := ih ends.initial
    have goes := ends sendings sending [] rfl
    have step : after config (sendings ++ [sending]) = (after config sendings).perform sending := by
      simp [after]
    rw [step, List.filterMap_append]
    cases sending with
    | packet data =>
      rw [if_neg (by simp), ← pending] at goes
      have settings := (counted_after config sendings).settings
      unfold perform
      dsimp only
      rw [settings, if_pos (by rw [length_append, length_singleton]; exact goes), ← pending]
      rfl
    | flush =>
      rw [if_pos rfl, ← pending] at goes
      unfold perform
      dsimp only
      rw [if_pos goes, pending]
      exact (List.append_nil _).symm

/-- **The headers of a run name their blocks exactly when no parity packet is emitted**: there are none to
emit, or no call ends a block. -/
theorem headers_identify_iff (config : FecConfig) (sendings : List Sending) :
    HeadersIdentify config sendings ↔ config.parityCount = 0 ∨ EndsNoBlock config sendings := by
  constructor
  · intro identify
    by_cases none : config.parityCount = 0
    · exact .inl none
    · refine .inr ?_
      -- The first call that ends a block emits a header, which is wrong.
      induction sendings using List.reverseRecOn with
      | nil => exact fun earlier _ _ split => absurd split.symm (by simp)
      | append_singleton sendings last ih =>
        have before : EndsNoBlock config sendings := by
          refine ih fun earlier sending later split => identify earlier sending (later ++ [last]) ?_
          simp [split]
        intro earlier sending later split
        rcases List.eq_nil_or_concat later with rfl | ⟨rest, other, rfl⟩
        · obtain ⟨rfl, same⟩ := List.append_inj' split rfl
          cases List.singleton_inj.mp same
          have counted := counted_after config sendings
          by_contra ends
          obtain ⟨fec, emitted⟩ := List.exists_mem_of_ne_nil _ (emits_ne_nil counted none last (by
            rw [← pending_of_endsNoBlock before] at ends
            by_cases flush : last = .flush
            · rw [if_pos flush] at ends ⊢
              exact ends
            · rw [if_neg flush] at ends ⊢
              exact Nat.not_lt.mp ends))
          exact not_identifies counted last fec emitted (identify sendings last [] rfl fec emitted)
        · rw [List.concat_eq_append, ← cons_append, ← append_assoc] at split
          obtain ⟨front, _⟩ := List.append_inj' split rfl
          exact before earlier sending rest front
  · rintro (none | ends) earlier sending later split fec emitted
    · simp [emits_eq_nil_of_count (counted_after config earlier) none] at emitted
    · have before : EndsNoBlock config earlier := (split ▸ ends).initial
      rw [emits_eq_nil (counted_after config earlier) sending (by
        rw [pending_of_endsNoBlock before]
        exact ends earlier sending later split)] at emitted
      cases emitted

/-- Three packets make a block, whose header says that it starts before the first of them. -/
theorem not_headers_identify : ¬ HeadersIdentify ⟨.xor, 3, 1⟩ [.packet [1], .packet [2], .packet [3]] := by
  intro identify
  have named := identify [.packet [1], .packet [2]] (.packet [3]) [] rfl
    ⟨UInt32.ofNat 2 - UInt32.ofNat 3, 3, 0, [0]⟩ (by decide)
  exact absurd named.1 (by decide)

end MiniRemoteDesktop.Quic.Fec
