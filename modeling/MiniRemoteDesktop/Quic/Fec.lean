/-
**Forward error correction of the low-latency transport** (`FecEncoder` and `FecDecoder`).

The encoder gathers `block_size` data packets and emits `parity_count` parity packets, all of which
carry the same exclusive or. The decoder keeps one open block: its first sequence number, the data
packets by offset and the parity packets by index; it answers with the whole block once nothing is
missing or once it holds as many parity packets as data packets are missing.

* `FecEncoder`, `FecDecoder` — the two ends. `u32` and `u16` fields wrap and truncate as the
  source's casts do; `none` is a panic.
* `Faithful` — what the receiving side relies on: whole blocks only, and one lost packet recovered.
* `Shaped` — what the encoder guarantees of a block (`shaped_of_mem_send`).
* `Recoverable`, `Orderly` — the deliveries at which the decoder is right.
-/

import MiniRemoteDesktop.Lib.Execution
import MiniRemoteDesktop.Lib.Parity
import Mathlib.Tactic.NormNum
import Mathlib.Data.List.ReduceOption

namespace MiniRemoteDesktop.Quic.Fec

open Execution

/-! ### The encoder -/

/-- The Reed–Solomon scheme is a placeholder in the source: it generates the same parity. -/
inductive FecScheme
  | xor
  | reedSolomon
  deriving DecidableEq

structure FecConfig where
  scheme : FecScheme
  (blockSize parityCount : Nat)
  deriving DecidableEq

abbrev Bytes := List UInt8

structure ParityPacket where
  index : UInt16
  data : Bytes

structure FecPacket where
  baseSequence : UInt32
  (blockSize parityIndex : UInt16)
  data : Bytes
  deriving DecidableEq

/-- The inner loop of both ends: exclusive or of a packet into an accumulator. -/
def xorInto : Bytes → Bytes → Bytes := Parity.into fun a b => a ^^^ b

/-- The length of the longest packet. -/
def maxLen (packets : List Bytes) : Nat := (packets.map List.length).max?.getD 0

/-- The bytes that every parity packet of a block carries. -/
def parityOf (packets : List Bytes) : Bytes :=
  packets.foldl xorInto (List.replicate (maxLen packets) 0)

structure FecEncoder where
  config : FecConfig
  buffer : List Bytes
  sequence : UInt32

namespace FecEncoder

def new (config : FecConfig) : FecEncoder := ⟨config, [], 0⟩

def generateXorParity (encoder : FecEncoder) : List ParityPacket :=
  (List.range encoder.config.parityCount).map fun index =>
    ⟨UInt16.ofNat index, parityOf encoder.buffer⟩

def generateRsParity (encoder : FecEncoder) : List ParityPacket := encoder.generateXorParity

def generateParity (encoder : FecEncoder) : List ParityPacket :=
  match encoder.config.scheme with
  | .xor => encoder.generateXorParity
  | .reedSolomon => encoder.generateRsParity

/-- `add_data_packet`. The header is built from the number of the block's last packet. -/
def addDataPacket (encoder : FecEncoder) (data : Bytes) : FecEncoder × List FecPacket :=
  let seq := encoder.sequence
  let pushed := { encoder with buffer := encoder.buffer ++ [data], sequence := seq + 1 }
  if pushed.buffer.length < encoder.config.blockSize then (pushed, [])
  else
    ({ pushed with buffer := [] }, pushed.generateParity.map fun parity =>
      { baseSequence := seq - UInt32.ofNat encoder.config.blockSize
        blockSize := UInt16.ofNat encoder.config.blockSize
        parityIndex := parity.index
        data := parity.data })

/-- `flush`. The header's size is read from the buffer after it was cleared. -/
def flush (encoder : FecEncoder) : FecEncoder × List FecPacket :=
  if encoder.buffer = [] then (encoder, [])
  else
    let seq := encoder.sequence - UInt32.ofNat encoder.buffer.length
    let cleared := { encoder with buffer := [] }
    (cleared, encoder.generateParity.map fun parity =>
      { baseSequence := seq
        blockSize := UInt16.ofNat cleared.buffer.length
        parityIndex := parity.index
        data := parity.data })

end FecEncoder

/-! ### The decoder -/

structure FecDecoder where
  config : FecConfig
  buffer : List (Option Bytes)
  parityPackets : List (Option FecPacket)
  baseSequence : Option UInt32
  deriving DecidableEq

namespace FecDecoder

def new (config : FecConfig) : FecDecoder := ⟨config, [], [], none⟩

def reset (decoder : FecDecoder) : FecDecoder :=
  { decoder with buffer := [], parityPackets := [], baseSequence := none }

/-- `buffer.drain(..).map(|p| p.unwrap())`. -/
def drain (buffer : List (Option Bytes)) : Option (List Bytes) := buffer.mapM id

/-- The packet put in the place of the missing one at `place`: the parity and every other packet
that is there. -/
def recoveredData (parityData : Bytes) (buffer : List (Option Bytes)) (place : Nat) : Bytes :=
  buffer.zipIdx.foldl (fun recovered held =>
    if place ≠ held.2 then
      match held.1 with
      | some data => xorInto recovered data
      | none => recovered
    else recovered) parityData

/-- One round of the loop over the places of the buffer. -/
def recoverPlace (parityData : Bytes) (buffer : List (Option Bytes)) (place : Nat) :
    List (Option Bytes) :=
  if buffer[place]? = some none then
    buffer.set place (some (recoveredData parityData buffer place))
  else buffer

def recoverWithXorInternal (parityData : Bytes) (buffer : List (Option Bytes)) :
    List (Option Bytes) :=
  (List.range buffer.length).foldl (recoverPlace parityData) buffer

def missingCount (decoder : FecDecoder) : Nat := decoder.buffer.countP fun p => p.isNone

def fecCount (decoder : FecDecoder) : Nat := decoder.parityPackets.countP fun p => p.isSome

def tryRecover (decoder : FecDecoder) : Option (FecDecoder × List Bytes) :=
  if decoder.missingCount = 0 then
    (drain decoder.buffer).map fun recovered => (decoder.reset, recovered)
  else if decoder.missingCount ≤ decoder.fecCount then
    match decoder.parityPackets.head?.join with
    | some parity =>
      (drain (recoverWithXorInternal parity.data decoder.buffer)).map fun recovered =>
        (decoder.reset, recovered)
    | none => some (decoder, [])
  else some (decoder, [])

/-- The block that the first packet of an idle decoder opens. -/
def openAt (decoder : FecDecoder) (base : UInt32) (size : Nat) : FecDecoder :=
  match decoder.baseSequence with
  | some _ => decoder
  | none =>
    { decoder with
      baseSequence := some base
      buffer := List.replicate size none
      parityPackets := List.replicate decoder.config.parityCount none }

/-- `process_data`; the write to the buffer panics outside it. -/
def processData (decoder : FecDecoder) (seq : UInt32) (data : Bytes) :
    Option (FecDecoder × List Bytes) :=
  let opened := decoder.openAt seq decoder.config.blockSize
  let offset := (seq - opened.baseSequence.getD seq).toNat
  if decoder.config.blockSize ≤ offset then some (opened, [])
  else if offset < opened.buffer.length then
    tryRecover { opened with buffer := opened.buffer.set offset (some data) }
  else none

def processFec (decoder : FecDecoder) (fec : FecPacket) : Option (FecDecoder × List Bytes) :=
  let opened := decoder.openAt fec.baseSequence fec.blockSize.toNat
  let fecIdx := fec.parityIndex.toNat
  if opened.parityPackets.length ≤ fecIdx then some (opened, [])
  else tryRecover { opened with parityPackets := opened.parityPackets.set fecIdx (some fec) }

end FecDecoder

/-! ### The sending side -/

/-- What the sender does with its encoder. -/
inductive Sending
  | packet (data : Bytes)
  | flush
  deriving DecidableEq

/-- The data packets of one block, the number of the first one, and the parity packets emitted
when the block ended. -/
structure Block where
  start : Nat
  packets : List Bytes
  parity : List FecPacket

/-- The block of the last packets of `sent` packets. -/
def Block.ending (sent : Nat) (packets : List Bytes) (parity : List FecPacket) : Block :=
  ⟨sent - packets.length, packets, parity⟩

/-- The sender: its encoder, the packets of the block that is still open, and the blocks so far. -/
structure Sender where
  encoder : FecEncoder
  sent : Nat
  pending : List Bytes
  blocks : List Block

namespace Sender

def new (config : FecConfig) : Sender := ⟨FecEncoder.new config, 0, [], []⟩

/-- A block ends with its `block_size`-th packet, or when the sender flushes what it has. -/
def perform (sender : Sender) : Sending → Sender
  | .packet data =>
    let (encoder, parity) := sender.encoder.addDataPacket data
    let packets := sender.pending ++ [data]
    if packets.length < sender.encoder.config.blockSize then
      { sender with encoder := encoder, sent := sender.sent + 1, pending := packets }
    else
      { encoder := encoder
        sent := sender.sent + 1
        pending := []
        blocks := sender.blocks ++ [.ending (sender.sent + 1) packets parity] }
  | .flush =>
    let (encoder, parity) := sender.encoder.flush
    if sender.pending = [] then { sender with encoder := encoder }
    else
      { encoder := encoder
        sent := sender.sent
        pending := []
        blocks := sender.blocks ++ [.ending sender.sent sender.pending parity] }

/-- The blocks, with the packets of an unfinished one as a last block that has no parity. -/
def allBlocks (sender : Sender) : List Block :=
  if sender.pending = [] then sender.blocks
  else sender.blocks ++ [.ending sender.sent sender.pending []]

end Sender

/-- The blocks of everything the sender does. -/
def send (config : FecConfig) (sendings : List Sending) : List Block :=
  (sendings.foldl Sender.perform (Sender.new config)).allBlocks

/-! ### The receiving side -/

/-- One packet that reaches the decoder: the data packet at a place of a block, or one of the
block's parity packets. -/
inductive Delivery
  | data (block place : Nat)
  | parity (block index : Nat)
  deriving DecidableEq

namespace Delivery

def block : Delivery → Nat
  | .data block _ => block
  | .parity block _ => block

end Delivery

/-- The decoder with the history of its link: what was delivered, what it answered, and the block
whose packet opened the decoder. -/
structure Link where
  decoder : FecDecoder
  delivered : List Delivery
  answers : List (List Bytes)
  collecting : Option Nat
  crashed : Bool
  deriving DecidableEq

namespace Link

def new (config : FecConfig) : Link := ⟨FecDecoder.new config, [], [], none, false⟩

/-- The sequence number that a data packet is sent with. -/
def sequenceOf (block : Block) (place : Nat) : UInt32 := UInt32.ofNat (block.start + place)

/-- What the decoder does with a packet; `none` when the sender sent no such packet. -/
def receive (blocks : List Block) (decoder : FecDecoder) :
    Delivery → Option (Option (FecDecoder × List Bytes))
  | .data b place => do
    let block ← blocks[b]?
    let data ← block.packets[place]?
    return decoder.processData (sequenceOf block place) data
  | .parity b index => do
    let block ← blocks[b]?
    let fec ← block.parity[index]?
    return decoder.processFec fec

/-- The link after the decoder's answer to a packet. -/
def answered (link : Link) (delivery : Delivery) : Option (FecDecoder × List Bytes) → Link
  | none => { link with delivered := delivery :: link.delivered, crashed := true }
  | some (decoder, answer) =>
    { decoder := decoder
      delivered := delivery :: link.delivered
      answers := link.answers ++ [answer]
      collecting :=
        if decoder.baseSequence.isNone then none
        else if link.decoder.baseSequence.isNone then some delivery.block
        else link.collecting
      crashed := link.crashed }

end Link

/-- One delivery: of a packet that was sent, not delivered before, to a decoder that runs. -/
def deliver (blocks : List Block) (link : Link) (delivery : Delivery) : Option Link :=
  if link.crashed ∨ delivery ∈ link.delivered then none
  else (Link.receive blocks link.decoder delivery).map (link.answered delivery)

/-- The places of a block whose data packet was not delivered, of the first `size` ones. -/
def lostPlaces (size b : Nat) (delivered : List Delivery) : List Nat :=
  (List.range size).filter fun place => Delivery.data b place ∉ delivered

/-- **What the receiver relies on.** Every list it gets is the packets of one block in order, and
a block of which one data packet was lost and a parity packet was delivered is recovered. -/
structure Faithful (blocks : List Block) (link : Link) : Prop where
  running : link.crashed = false
  whole : ∀ answer ∈ link.answers, answer ≠ [] → ∃ block ∈ blocks, answer = block.packets
  recovered : ∀ b block, blocks[b]? = some block → (∃ index, Delivery.parity b index ∈ link.delivered) →
    (lostPlaces block.packets.length b link.delivered).length = 1 →
    block.packets ∈ link.answers

section

open Link (sequenceOf)
open Execution
open FecDecoder

/-! ### What the encoder guarantees -/

theorem xor_law : Parity.Law (fun a b : UInt8 => a ^^^ b) 0 where
  comm := UInt8.xor_comm
  assoc := UInt8.xor_assoc
  cancel a b := by rw [UInt8.xor_assoc, UInt8.xor_self, UInt8.xor_zero]
  unit a := UInt8.zero_xor

/-- A block as the encoder ends it: not empty, not longer than configured, and every parity packet
carries the parity of the block's packets under its own index. -/
structure Shaped (config : FecConfig) (block : Block) : Prop where
  nonempty : block.packets ≠ []
  short : block.packets.length ≤ config.blockSize
  parity : ∀ index fec, block.parity[index]? = some fec →
    index < config.parityCount ∧ fec.parityIndex = UInt16.ofNat index ∧
      fec.data = parityOf block.packets
  announced : ∀ fec ∈ block.parity, block.packets.length = config.blockSize →
    fec.blockSize = UInt16.ofNat config.blockSize

theorem generateParity_eq (encoder : FecEncoder) :
    encoder.generateParity = (List.range encoder.config.parityCount).map fun index =>
      ⟨UInt16.ofNat index, parityOf encoder.buffer⟩ := by
  unfold FecEncoder.generateParity
  cases encoder.config.scheme <;> rfl

variable {config : FecConfig} {packets : List Bytes}

/-- A block whose parity packets are the generated ones under some header. -/
theorem shaped_of_generated {start : Nat} {base : UInt32} {size : UInt16} (nonempty : packets ≠ [])
    (short : packets.length ≤ config.blockSize)
    (announced : packets.length = config.blockSize → size = UInt16.ofNat config.blockSize) :
    Shaped config ⟨start, packets, (List.range config.parityCount).map fun index =>
      ⟨base, size, UInt16.ofNat index, parityOf packets⟩⟩ where
  nonempty := nonempty
  short := short
  parity := by
    intro index fec found
    rw [List.getElem?_map, Option.map_eq_some_iff] at found
    obtain ⟨place, found, rfl⟩ := found
    obtain ⟨inside, rfl⟩ := List.getElem?_eq_some_iff.mp found
    rw [List.getElem_range]
    exact ⟨by simpa using inside, rfl, rfl⟩
  announced := by
    intro fec member full
    obtain ⟨_, _, rfl⟩ := List.mem_map.mp member
    exact announced full

/-- The sender between two of its actions. -/
structure Sending.Ready (config : FecConfig) (sender : Sender) : Prop where
  settings : sender.encoder.config = config
  buffer : sender.encoder.buffer = sender.pending
  room : sender.pending.length < config.blockSize
  shaped : ∀ block ∈ sender.blocks, Shaped config block

theorem ready_perform {sender : Sender} (positive : 1 ≤ config.blockSize)
    (ready : Sending.Ready config sender) (sending : Sending) :
    Sending.Ready config (sender.perform sending) := by
  obtain ⟨rfl, buffer, room, shaped⟩ := ready
  cases sending with
  | packet data =>
    unfold Sender.perform FecEncoder.addDataPacket
    simp only [generateParity_eq, List.map_map]
    by_cases short : (sender.pending ++ [data]).length < sender.encoder.config.blockSize
    · rw [if_pos short, buffer, if_pos short]
      exact ⟨rfl, rfl, short, shaped⟩
    · rw [if_neg short, buffer, if_neg short]
      refine ⟨rfl, rfl, positive, ?_⟩
      intro block member
      rcases List.mem_append.mp member with old | new
      · exact shaped block old
      · rw [List.mem_singleton.mp new]
        refine shaped_of_generated (by simp) ?_ fun _ => rfl
        rw [List.length_append, List.length_singleton]
        omega
  | flush =>
    unfold Sender.perform FecEncoder.flush
    simp only [generateParity_eq, List.map_map, buffer]
    by_cases empty : sender.pending = []
    · rw [if_pos empty, if_pos empty]
      exact ⟨rfl, buffer, room, shaped⟩
    · rw [if_neg empty, if_neg empty]
      refine ⟨rfl, rfl, positive, ?_⟩
      intro block member
      rcases List.mem_append.mp member with old | new
      · exact shaped block old
      · rw [List.mem_singleton.mp new]
        refine shaped_of_generated empty room.le fun full => ?_
        omega

variable {block : Block}

/-- **Every block the sender forms is shaped.** -/
theorem shaped_of_mem_send {sendings : List Sending} (positive : 1 ≤ config.blockSize)
    (member : block ∈ send config sendings) :
    Shaped config block := by
  have ready : Sending.Ready config (sendings.foldl Sender.perform (Sender.new config)) := by
    refine List.foldlRecOn sendings Sender.perform ⟨rfl, rfl, positive, by simp [Sender.new]⟩ ?_
    intro sender ready sending _
    exact ready_perform positive ready sending
  unfold send Sender.allBlocks at member
  split at member
  · exact ready.shaped block member
  next unfinished =>
    rcases List.mem_append.mp member with old | new
    · exact ready.shaped block old
    · rw [List.mem_singleton.mp new]
      exact ⟨unfinished, ready.room.le, by simp [Block.ending], by simp [Block.ending]⟩

/-! ### Filling one hole of the buffer -/

theorem drain_map_some (packets : List Bytes) :
    drain (packets.map some) = some packets := by
  unfold drain
  induction packets with
  | nil => rfl
  | cons packet rest ih => simp [ih]

/-- The buffer of a block of which only the packet at `place` is missing. -/
def holed (packets : List Bytes) (place : Nat) : List (Option Bytes) :=
  (packets.map some).set place none

theorem reduceOption_holed (packets : List Bytes) (place : Nat) :
    (holed packets place).reduceOption = packets.eraseIdx place := by
  unfold holed
  induction packets generalizing place with
  | nil => rfl
  | cons packet rest ih =>
    cases place with
    | zero => simp [List.reduceOption, List.filterMap_map]
    | succ place => simp [ih]

/-- The test for the own place is redundant: nothing is held there. -/
theorem recoveredData_eq (parityData : Bytes) (buffer : List (Option Bytes)) (place : Nat)
    (hole : buffer[place]? = some none) :
    recoveredData parityData buffer place = buffer.reduceOption.foldl xorInto parityData := by
  have general : ∀ (tail : List (Option Bytes)) (skipped : Nat) (acc : Bytes),
      (∀ held, (held, place) ∈ tail.zipIdx skipped → held = none) →
      (tail.zipIdx skipped).foldl (fun recovered held =>
        if place ≠ held.2 then held.1.elim recovered (xorInto recovered) else recovered) acc =
          tail.reduceOption.foldl xorInto acc := by
    intro tail
    induction tail with
    | nil => intros; rfl
    | cons held tail ih =>
      intro skipped acc empty
      have later : ∀ other, (other, place) ∈ tail.zipIdx (skipped + 1) → other = none :=
        fun other member => empty other (List.mem_cons_of_mem _ member)
      rw [List.zipIdx_cons, List.foldl_cons, ih _ _ later]
      by_cases own : place = skipped
      · have nothing : held = none := empty held (own ▸ List.mem_cons_self)
        simp [nothing]
      · rw [if_pos own]
        cases held with
        | none => rfl
        | some data => rfl
  have gathered := general buffer 0 parityData fun held member =>
    Option.some.inj ((List.mem_zipIdx_iff_getElem?.mp member).symm.trans hole)
  rw [← gathered, recoveredData]
  congr 1
  funext recovered held
  rcases held with ⟨_ | _, _⟩ <;> rfl

variable {place : Nat}

theorem recoverPlace_of_some {parityData : Bytes} {buffer : List (Option Bytes)}
    (held : buffer[place]? ≠ some none) :
    recoverPlace parityData buffer place = buffer := by
  simp [recoverPlace, held]

theorem map_some_getElem?_ne (packets : List Bytes) (place : Nat) :
    (packets.map some)[place]? ≠ some none := by
  rw [List.getElem?_map]
  cases packets[place]? <;> simp

variable {packet : Bytes}

/-- **The loop fills the one hole** with the parity of the packets that are there. -/
theorem recover_holed {parityData : Bytes} (found : packets[place]? = some packet)
    (restored : (packets.eraseIdx place).foldl xorInto parityData = packet) :
    recoverWithXorInternal parityData (holed packets place) = packets.map some := by
  obtain ⟨inside, value⟩ := List.getElem?_eq_some_iff.mp found
  have hole : (holed packets place)[place]? = some none := by
    unfold holed
    rw [List.getElem?_set_self (by simpa using inside)]
  have filled : recoverPlace parityData (holed packets place) place = packets.map some := by
    unfold recoverPlace
    rw [if_pos hole, recoveredData_eq _ _ _ hole, reduceOption_holed, restored, holed, List.set_set]
    refine List.ext_getElem? fun other => ?_
    rw [List.getElem?_set]
    split
    next same =>
      subst same
      rw [if_pos (by simpa using inside), List.getElem?_map, found]
      rfl
    · rfl
  have full : ∀ places : List Nat, places.foldl (recoverPlace parityData)
      (packets.map some) = packets.map some := by
    intro places
    induction places with
    | nil => rfl
    | cons other places ih =>
      simp [recoverPlace_of_some (map_some_getElem?_ne packets other), ih]
  have loop : ∀ places : List Nat, place ∈ places →
      places.foldl (recoverPlace parityData) (holed packets place) = packets.map some := by
    intro places
    induction places with
    | nil => simp
    | cons other places ih =>
      intro member
      rw [List.foldl_cons]
      by_cases own : other = place
      · rw [own, filled, full]
      · have kept : (holed packets place)[other]? ≠ some none := by
          simp [holed, List.getElem?_set_ne (Ne.symm own)]
        rw [recoverPlace_of_some kept]
        exact ih ((List.mem_cons.mp member).resolve_left (Ne.symm own))
  exact loop _ (List.mem_range.mpr (by simpa [holed] using inside))

/-- A packet as long as every other one of its block. -/
def Longest (packets : List Bytes) (packet : Bytes) : Prop :=
  ∀ other ∈ packets, other.length ≤ packet.length

instance (packets : List Bytes) (packet : Bytes) : Decidable (Longest packets packet) :=
  inferInstanceAs (Decidable (∀ other ∈ packets, other.length ≤ packet.length))

theorem maxLen_eq (member : packet ∈ packets) (longest : Longest packets packet) :
    maxLen packets = packet.length := by
  have largest : (packets.map List.length).max? = some packet.length := by
    refine List.max?_eq_some_iff.mpr ⟨List.mem_map_of_mem member, ?_⟩
    intro size sized
    obtain ⟨other, inside, rfl⟩ := List.mem_map.mp sized
    exact longest other inside
  simp [maxLen, largest]

/-- **A lost packet that is a longest one** is the parity of the others and the block's parity. -/
theorem restored_of_longest (found : packets[place]? = some packet) (longest : Longest packets packet) :
    (packets.eraseIdx place).foldl xorInto (parityOf packets) = packet := by
  obtain ⟨inside, rfl⟩ := List.getElem?_eq_some_iff.mp found
  have split : packets.Perm (packets[place] :: packets.eraseIdx place) :=
    (List.getElem_cons_eraseIdx_perm inside).symm
  unfold parityOf
  rw [maxLen_eq (List.getElem_mem inside) longest]
  exact Parity.restore xor_law split

/-! ### The deliveries at which the decoder is right -/

/-- A parity packet of the block was delivered that goes to the given slot. -/
def filled (b : Nat) (delivered : List Delivery) (slot : Nat) : Bool :=
  delivered.any fun
    | .parity block index => block = b ∧ (UInt16.ofNat index).toNat = slot
    | .data _ _ => false

/-- The parity slots that the delivered packets of a block fill. -/
def filledSlots (count b : Nat) (delivered : List Delivery) : List Nat :=
  (List.range count).filter (filled b delivered)

/-- **When recovery is right.** The decoder tries as soon as it has as many parity packets as
packets are missing. All parities are equal, so it must then be one packet that is missing, a
longest one of the block, and the first slot must be filled, the only one that is read; with the
first slot empty nothing is tried, which is right only while more than one packet is missing. -/
def Recoverable (config : FecConfig) (b : Nat) (block : Block) (delivered : List Delivery) : Prop :=
  let lost := lostPlaces config.blockSize b delivered
  let slots := filledSlots config.parityCount b delivered
  lost ≠ [] → lost.length ≤ slots.length →
    if 0 ∈ slots then
      ∃ place packet, lost = [place] ∧ block.packets[place]? = some packet ∧
        Longest block.packets packet
    else 2 ≤ lost.length

variable (config : FecConfig) (blocks : List Block) (link : Link) in
/-- **The deliveries that reach no defect**, by what the link has seen before.

* An idle decoder is opened by the first packet of a block, or, where blocks are of one packet, by
  a parity packet that goes to the first slot.
* An open block is given its own data packets, and, if it was not flushed, its own parity packets;
  whatever the delivery completes is recoverable.
* A data packet of a block that was opened before falls outside the open block's window. -/
inductive Orderly : Delivery → Prop
  | opening {b : Nat} : link.collecting = none → Orderly (.data b 0)
  | alone {b index : Nat} : link.collecting = none → config.blockSize = 1 →
      UInt16.ofNat index = 0 → Orderly (.parity b index)
  | data {b place : Nat} {block : Block} : link.collecting = some b → blocks[b]? = some block →
      place < 2 ^ 32 → Recoverable config b block (.data b place :: link.delivered) →
      Orderly (.data b place)
  | parity {b index : Nat} {block : Block} : link.collecting = some b →
      blocks[b]? = some block → block.packets.length = config.blockSize →
      Recoverable config b block (.parity b index :: link.delivered) →
      Orderly (.parity b index)
  | late {b other place : Nat} {block openBlock : Block} : link.collecting = some other →
      other ≠ b → blocks[b]? = some block → blocks[other]? = some openBlock →
      Delivery.data b 0 ∈ link.delivered →
      config.blockSize ≤ (sequenceOf block place - sequenceOf openBlock 0).toNat →
      Orderly (.data b place)

/-! ### The decoder that holds what was delivered of a block -/

/-- What the decoder holds at a place of an open block. -/
def heldAt (b : Nat) (block : Block) (delivered : List Delivery) (place : Nat) : Option Bytes :=
  if Delivery.data b place ∈ delivered then block.packets[place]? else none

/-- The bytes in a parity slot of an open block. -/
def parityAt (b : Nat) (block : Block) (delivered : List Delivery) (slot : Nat) : Option Bytes :=
  if filled b delivered slot then some (parityOf block.packets) else none

/-- **The decoder holds exactly what was delivered of block `b`.** -/
structure Stored (config : FecConfig) (b : Nat) (block : Block) (delivered : List Delivery)
    (decoder : FecDecoder) : Prop where
  settings : decoder.config = config
  buffer : decoder.buffer = (List.range config.blockSize).map (heldAt b block delivered)
  parity : decoder.parityPackets.map (Option.map FecPacket.data) =
    (List.range config.parityCount).map (parityAt b block delivered)

/-- The decoder has nothing to answer yet. -/
def Waiting (config : FecConfig) (b : Nat) (delivered : List Delivery) : Prop :=
  let lost := lostPlaces config.blockSize b delivered
  let slots := filledSlots config.parityCount b delivered
  lost ≠ [] ∧ (lost.length ≤ slots.length → 0 ∉ slots ∧ 2 ≤ lost.length)

/-- Every delivered packet of the block is one of its packets. -/
def Present (b : Nat) (block : Block) (delivered : List Delivery) : Prop :=
  ∀ place, Delivery.data b place ∈ delivered → place < block.packets.length

variable {delivered : List Delivery} {b : Nat}

theorem heldAt_isNone (present : Present b block delivered) (place : Nat) :
    (heldAt b block delivered place).isNone = decide (Delivery.data b place ∉ delivered) := by
  unfold heldAt
  by_cases arrived : Delivery.data b place ∈ delivered
  · simp [arrived, List.getElem?_eq_getElem (present place arrived)]
  · simp [arrived]

variable {decoder : FecDecoder}

theorem missingCount_stored (stored : Stored config b block delivered decoder)
    (present : Present b block delivered) :
    decoder.missingCount = (lostPlaces config.blockSize b delivered).length := by
  unfold missingCount lostPlaces
  rw [stored.buffer, List.countP_map, List.countP_eq_length_filter]
  congr 2
  funext place
  exact heldAt_isNone present place

theorem fecCount_stored (stored : Stored config b block delivered decoder) :
    decoder.fecCount = (filledSlots config.parityCount b delivered).length := by
  have counted : decoder.fecCount =
      (decoder.parityPackets.map (Option.map FecPacket.data)).countP fun p => p.isSome := by
    unfold fecCount
    rw [List.countP_map]
    congr 1
    funext held
    cases held <;> rfl
  rw [counted, stored.parity, List.countP_map, List.countP_eq_length_filter]
  congr 2
  funext slot
  show (parityAt b block delivered slot).isSome = _
  unfold parityAt
  cases filled b delivered slot <;> rfl

/-- The parity that recovery reads, as far as its bytes matter. -/
theorem head_stored (stored : Stored config b block delivered decoder) :
    decoder.parityPackets.head?.join.map FecPacket.data =
      if 0 ∈ filledSlots config.parityCount b delivered then some (parityOf block.packets)
      else none := by
  have first : decoder.parityPackets.head?.join.map FecPacket.data =
      (decoder.parityPackets.map (Option.map FecPacket.data)).head?.join := by
    cases decoder.parityPackets with
    | nil => rfl
    | cons held rest => rfl
  rw [first, stored.parity, filledSlots]
  cases config.parityCount with
  | zero => rfl
  | succ count =>
    rw [List.range_succ_eq_map]
    show parityAt b block delivered 0 = _
    unfold parityAt
    cases full : filled b delivered 0 <;> simp [full]

theorem arrived_of_not_lost {size : Nat} (inside : place < size)
    (found : place ∉ lostPlaces size b delivered) : Delivery.data b place ∈ delivered := by
  by_contra missing
  exact found (List.mem_filter.mpr ⟨List.mem_range.mpr inside, by simpa using missing⟩)

theorem not_arrived_of_lost {size : Nat} (lost : place ∈ lostPlaces size b delivered) :
    Delivery.data b place ∉ delivered := by
  simpa using (List.mem_filter.mp lost).2

section

variable (shaped : Shaped config block) (present : Present b block delivered)
include shaped present

/-- A block of which all places but one that it has are delivered is a full one. -/
theorem full_of_lost
    (own : ∀ place ∈ lostPlaces config.blockSize b delivered, place < block.packets.length) :
    block.packets.length = config.blockSize := by
  refine le_antisymm shaped.short (not_lt.mp fun shorter => ?_)
  by_cases lost : block.packets.length ∈ lostPlaces config.blockSize b delivered
  · exact lt_irrefl _ (own _ lost)
  · exact lt_irrefl _ (present _ (arrived_of_not_lost shorter lost))

theorem buffer_of_all (all : lostPlaces config.blockSize b delivered = []) :
    (List.range config.blockSize).map (heldAt b block delivered) = block.packets.map some := by
  have full := full_of_lost shaped present (by simp [all])
  refine List.ext_getElem (by simp [full]) fun place inside _ => ?_
  have bound : place < config.blockSize := by simpa using inside
  have arrived : Delivery.data b place ∈ delivered := arrived_of_not_lost bound (by simp [all])
  simp [heldAt, arrived]

/-- With one packet lost the buffer is the block with a hole. -/
theorem buffer_of_one (one : lostPlaces config.blockSize b delivered = [place])
    (found : block.packets[place]? = some packet) :
    (List.range config.blockSize).map (heldAt b block delivered) = holed block.packets place := by
  obtain ⟨own, _⟩ := List.getElem?_eq_some_iff.mp found
  have full := full_of_lost shaped present (by simp [one, own])
  refine List.ext_getElem (by simp [holed, full]) fun other inside _ => ?_
  have bound : other < config.blockSize := by simpa using inside
  simp only [holed, List.getElem_map, List.getElem_range, List.getElem_set]
  by_cases same : place = other
  · subst same
    have lost : place ∈ lostPlaces config.blockSize b delivered := by simp [one]
    simp [heldAt, not_arrived_of_lost lost]
  · have arrived : Delivery.data b other ∈ delivered :=
      arrived_of_not_lost bound (by simpa [one] using Ne.symm same)
    simp [same, heldAt, arrived]

end

/-- **What the decoder answers when it holds what was delivered of a block**: nothing while it
waits, and the block otherwise. -/
theorem tryRecover_stored (stored : Stored config b block delivered decoder)
    (shaped : Shaped config block) (present : Present b block delivered)
    (recoverable : Recoverable config b block delivered) :
    (decoder.tryRecover = some (decoder, []) ∧ Waiting config b delivered) ∨
      decoder.tryRecover = some (decoder.reset, block.packets) := by
  have missing := missingCount_stored stored present
  have held := fecCount_stored stored
  have head := head_stored stored
  unfold tryRecover
  rw [missing, held]
  by_cases all : lostPlaces config.blockSize b delivered = []
  · right
    rw [if_pos (by simp [all]), stored.buffer, buffer_of_all shaped present all, drain_map_some]
    rfl
  · rw [if_neg (by simpa using all)]
    by_cases enough : (lostPlaces config.blockSize b delivered).length ≤
        (filledSlots config.parityCount b delivered).length
    · have outcome := recoverable all enough
      rw [if_pos enough]
      by_cases first : 0 ∈ filledSlots config.parityCount b delivered
      · rw [if_pos first] at head outcome
        obtain ⟨place, packet, one, found, longest⟩ := outcome
        right
        obtain ⟨parity, read, data⟩ := Option.map_eq_some_iff.mp head
        rw [read]
        show Option.map _ (drain _) = _
        rw [stored.buffer, buffer_of_one shaped present one found, data,
          recover_holed found (restored_of_longest found longest), drain_map_some]
        rfl
      · rw [if_neg first] at head outcome
        rw [Option.map_eq_none_iff.mp head]
        exact .inl ⟨rfl, all, fun _ => ⟨first, outcome⟩⟩
    · rw [if_neg enough]
      exact .inl ⟨rfl, all, fun contrary => absurd contrary enough⟩

/-! ### Storing one more packet -/

theorem set_map_range {α : Type} (size place : Nat) (value : Nat → α) (new : α) :
    ((List.range size).map value).set place new =
      (List.range size).map (Function.update value place new) := by
  refine List.ext_getElem (by simp) fun other inside _ => ?_
  simp only [List.getElem_set, List.getElem_map, List.getElem_range, Function.update_apply]
  by_cases same : place = other
  · simp [same]
  · simp [same, Ne.symm same]

theorem heldAt_data (found : block.packets[place]? = some packet) :
    Function.update (heldAt b block delivered) place (some packet) =
      heldAt b block (.data b place :: delivered) := by
  funext other
  rw [Function.update_apply]
  by_cases same : other = place
  · subst same
    simp [heldAt, found]
  · simp [same, heldAt]

theorem heldAt_parity (b index : Nat) (block : Block) (delivered : List Delivery) :
    heldAt b block (.parity b index :: delivered) = heldAt b block delivered := by
  funext place
  simp [heldAt]

theorem parityAt_data (b place : Nat) (block : Block) (delivered : List Delivery) :
    parityAt b block (.data b place :: delivered) = parityAt b block delivered := by
  funext slot
  simp [parityAt, filled]

theorem filled_parity (b index slot : Nat) (delivered : List Delivery) :
    filled b (.parity b index :: delivered) slot =
      (decide ((UInt16.ofNat index).toNat = slot) || filled b delivered slot) := by
  simp [filled]

theorem parityAt_parity (b index : Nat) (block : Block) (delivered : List Delivery) :
    Function.update (parityAt b block delivered) (UInt16.ofNat index).toNat
        (some (parityOf block.packets)) =
      parityAt b block (.parity b index :: delivered) := by
  funext slot
  rw [Function.update_apply, parityAt, parityAt, filled_parity]
  by_cases same : slot = (UInt16.ofNat index).toNat
  · simp [same]
  · rw [if_neg same, decide_eq_false (Ne.symm same), Bool.false_or]

theorem offset_eq (small : place < 2 ^ 32) :
    (sequenceOf block place - sequenceOf block 0).toNat = place := by
  simp [sequenceOf, UInt32.add_comm, UInt32.toNat_ofNat_of_lt' small]

theorem Stored.data (stored : Stored config b block delivered decoder)
    (found : block.packets[place]? = some packet) :
    Stored config b block (.data b place :: delivered)
      { decoder with buffer := decoder.buffer.set place (some packet) } where
  settings := stored.settings
  buffer := by
    simp [stored.buffer, set_map_range, heldAt_data found]
  parity := by rw [parityAt_data]; exact stored.parity

section

variable (stored : Stored config b block delivered decoder) (shaped : Shaped config block)
include stored shaped

theorem Stored.parity_packet {index : Nat} {fec : FecPacket} (found : block.parity[index]? = some fec) :
    Stored config b block (.parity b index :: delivered) { decoder with
        parityPackets := decoder.parityPackets.set fec.parityIndex.toNat (some fec) } where
  settings := stored.settings
  buffer := by rw [heldAt_parity]; exact stored.buffer
  parity := by
    obtain ⟨_, slot, data⟩ := shaped.parity index fec found
    show (decoder.parityPackets.set _ _).map _ = _
    rw [List.map_set, stored.parity, Option.map_some, data, slot, set_map_range, parityAt_parity]

theorem processData_stored (base : decoder.baseSequence = some (sequenceOf block 0))
    (found : block.packets[place]? = some packet) (small : place < 2 ^ 32) :
    decoder.processData (sequenceOf block place) packet = tryRecover
        { decoder with buffer := decoder.buffer.set place (some packet) } := by
  obtain ⟨inside, _⟩ := List.getElem?_eq_some_iff.mp found
  have bound : place < config.blockSize := lt_of_lt_of_le inside shaped.short
  unfold processData openAt
  simp only [base, Option.getD_some, offset_eq small, stored.settings]
  rw [if_neg (not_le.mpr bound), if_pos (by simpa [stored.buffer] using bound)]

theorem processFec_stored {index : Nat} {fec : FecPacket}
    (base : decoder.baseSequence = some (sequenceOf block 0))
    (found : block.parity[index]? = some fec) :
    decoder.processFec fec = tryRecover { decoder with
          parityPackets := decoder.parityPackets.set fec.parityIndex.toNat (some fec) } := by
  obtain ⟨inside, slot, _⟩ := shaped.parity index fec found
  have length : decoder.parityPackets.length = config.parityCount := by
    have lengths := congrArg List.length stored.parity
    simpa using lengths
  have below : fec.parityIndex.toNat < config.parityCount := by
    simpa [slot] using lt_of_le_of_lt (Nat.mod_le _ _) inside
  simp [processFec, openAt, base, not_le.mpr (length ▸ below)]

end

end

end MiniRemoteDesktop.Quic.Fec
