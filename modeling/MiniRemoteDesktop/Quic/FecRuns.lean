/-
**Whole deliveries of error-corrected blocks.**

* `faithful_of_orderly` — along every run of orderly deliveries the decoder is `Faithful`.
* `two_losses_are_returned_corrupted` — without that condition it is not.
-/

import MiniRemoteDesktop.Quic.Fec

namespace MiniRemoteDesktop.Quic.Fec

open Link (sequenceOf)
open Execution
open FecDecoder

/-! ### The invariant of an orderly run -/

/-- A delivered packet is one that was sent. -/
def Sent (blocks : List Block) : Delivery → Prop
  | .data b place => ∃ block, blocks[b]? = some block ∧ place < block.packets.length
  | .parity b index => ∃ block, blocks[b]? = some block ∧ index < block.parity.length

/-- **The run invariant.** The decoder is idle, or holds what was delivered of one block and waits
for more of it; every other block of which anything was delivered was answered. -/
structure Aligned (config : FecConfig) (blocks : List Block) (link : Link) : Prop where
  running : link.crashed = false
  settings : link.decoder.config = config
  whole : ∀ answer ∈ link.answers, answer ≠ [] → ∃ block ∈ blocks, answer = block.packets
  sent : ∀ delivery ∈ link.delivered, Sent blocks delivery
  full : ∀ b index block, Delivery.parity b index ∈ link.delivered → blocks[b]? = some block →
    block.packets.length = config.blockSize
  opened : ∀ delivery ∈ link.delivered,
    config.blockSize = 1 ∨ Delivery.data delivery.block 0 ∈ link.delivered
  settled : ∀ delivery ∈ link.delivered, link.collecting ≠ some delivery.block →
    ∀ block, blocks[delivery.block]? = some block → block.packets ∈ link.answers
  touched : ∀ b, link.collecting = some b → ∃ delivery ∈ link.delivered, delivery.block = b
  idle : link.collecting = none → link.decoder.baseSequence = none
  busy : ∀ b, link.collecting = some b → ∃ block, blocks[b]? = some block ∧
    link.decoder.baseSequence = some (sequenceOf block 0) ∧
    Stored config b block link.delivered link.decoder ∧ Waiting config b link.delivered

theorem aligned_new (config : FecConfig) (blocks : List Block) :
    Aligned config blocks (Link.new config) where
  running := rfl
  settings := rfl
  whole := by simp [Link.new]
  sent := by simp [Link.new]
  full := by simp [Link.new]
  opened := by simp [Link.new]
  settled := by simp [Link.new]
  touched := by simp [Link.new]
  idle _ := rfl
  busy := by simp [Link.new]

variable {blocks : List Block}

/-- **A block with a parity packet and one lost packet is not waited for.** -/
theorem Aligned.faithful {config : FecConfig} {link : Link}
    (shaped : ∀ block ∈ blocks, Shaped config block) (aligned : Aligned config blocks link) :
    Faithful blocks link where
  running := aligned.running
  whole := aligned.whole
  recovered := by
    intro b block found ⟨index, arrived⟩ one
    by_cases collecting : link.collecting = some b
    · obtain ⟨_, _, _, _, lost, waits⟩ := aligned.busy b collecting
      rw [aligned.full b index block arrived found] at one
      have slot : (UInt16.ofNat index).toNat ∈ filledSlots config.parityCount b link.delivered := by
        obtain ⟨_, found', inside⟩ := aligned.sent _ arrived
        rw [found] at found'
        cases found'
        have shape := (shaped block (List.mem_of_getElem? found)).parity index _
          (List.getElem?_eq_getElem inside)
        refine List.mem_filter.mpr ⟨List.mem_range.mpr ?_, ?_⟩
        · simpa using lt_of_le_of_lt (Nat.mod_le _ _) shape.1
        · exact List.any_eq_true.mpr ⟨_, arrived, by simp⟩
      have enough := (waits (one ▸ List.length_pos_of_mem slot)).2
      omega
    · exact aligned.settled _ arrived collecting block found

/-- What an orderly delivery adds to the history: a packet that was sent, of a full block if it is a
parity packet, and of a block whose first packet is there. -/
structure Joins (config : FecConfig) (blocks : List Block) (link : Link) (delivery : Delivery)
    (block : Block) : Prop where
  found : blocks[delivery.block]? = some block
  sent : Sent blocks delivery
  full : ∀ b index, delivery = .parity b index → block.packets.length = config.blockSize
  opened : config.blockSize = 1 ∨ Delivery.data delivery.block 0 ∈ delivery :: link.delivered

variable {decoder : FecDecoder}

section Joining

variable {config : FecConfig} {blocks : List Block} {link : Link} {delivery : Delivery}
  {block : Block}

section

variable (joins : Joins config blocks link delivery block) (aligned : Aligned config blocks link)
include joins aligned

theorem Joins.sent_cons :
    ∀ other ∈ delivery :: link.delivered, Sent blocks other :=
  List.forall_mem_cons.mpr ⟨joins.sent, aligned.sent⟩

theorem Joins.full_cons (b index : Nat) (other : Block)
    (member : Delivery.parity b index ∈ delivery :: link.delivered) (found : blocks[b]? = some other) :
    other.packets.length = config.blockSize := by
  rcases List.mem_cons.mp member with rfl | old
  · have same : some block = some other := joins.found.symm.trans found
    cases same
    exact joins.full b index rfl
  · exact aligned.full b index other old found

theorem Joins.opened_cons :
    ∀ other ∈ delivery :: link.delivered, config.blockSize = 1 ∨
      Delivery.data other.block 0 ∈ delivery :: link.delivered := by
  refine List.forall_mem_cons.mpr ⟨joins.opened, fun other member => ?_⟩
  exact (aligned.opened other member).imp_right (List.mem_cons_of_mem _)

end

section

variable (aligned : Aligned config blocks link) (joins : Joins config blocks link delivery block)
include aligned joins

/-- The block is answered and the decoder is idle again. -/
theorem Aligned.completed (own : ∀ b, link.collecting = some b → b = delivery.block)
    (settings : decoder.config = config) :
    Aligned config blocks (link.answered delivery (some (decoder.reset, block.packets))) where
  running := aligned.running
  settings := settings
  whole := by
    intro answer member nonempty
    rcases List.mem_append.mp member with old | new
    · exact aligned.whole answer old nonempty
    · exact ⟨block, List.mem_of_getElem? joins.found, List.mem_singleton.mp new⟩
  sent := joins.sent_cons aligned
  full := joins.full_cons aligned
  opened := joins.opened_cons aligned
  settled := by
    intro other member _ answered found
    refine List.mem_append.mpr ?_
    by_cases same : other.block = delivery.block
    · rw [same, joins.found] at found
      cases found
      exact .inr (.head _)
    · rcases List.mem_cons.mp member with rfl | old
      · exact absurd rfl same
      · exact .inl (aligned.settled other old (fun open' => same (own _ open')) answered found)
  touched := by
    rintro b ⟨⟩
  idle _ := rfl
  busy := by
    rintro b ⟨⟩

theorem Aligned.waits (own : ∀ b, link.collecting = some b → b = delivery.block)
    (base : decoder.baseSequence = some (sequenceOf block 0))
    (stored : Stored config delivery.block block (delivery :: link.delivered) decoder)
    (waiting : Waiting config delivery.block (delivery :: link.delivered)) :
    Aligned config blocks (link.answered delivery (some (decoder, []))) := by
  have collecting : (link.answered delivery (some (decoder, []))).collecting =
      some delivery.block := by
    show (if decoder.baseSequence.isNone then none else _) = _
    rw [base]
    cases now : link.collecting with
    | none => simp [aligned.idle now]
    | some b =>
      obtain ⟨_, _, before, _⟩ := aligned.busy b now
      simp [before, own b now]
  refine
    { running := aligned.running
      settings := stored.settings
      whole := ?_
      sent := joins.sent_cons aligned
      full := joins.full_cons aligned
      opened := joins.opened_cons aligned
      settled := ?_
      touched := ?_
      idle := ?_
      busy := ?_ }
  · intro answer member nonempty
    rcases List.mem_append.mp member with old | new
    · exact aligned.whole answer old nonempty
    · exact absurd (List.mem_singleton.mp new) nonempty
  · intro other member elsewhere answered found
    rw [collecting] at elsewhere
    rcases List.mem_cons.mp member with rfl | old
    · exact absurd rfl elsewhere
    · refine List.mem_append.mpr (.inl (aligned.settled other old ?_ answered found))
      intro open'
      exact elsewhere (congrArg some (own _ open').symm)
  · intro b now
    rw [collecting] at now
    cases now
    exact ⟨delivery, (.head _), rfl⟩
  · intro none
    simp [collecting] at none
  · intro b now
    rw [collecting] at now
    cases now
    exact ⟨block, joins.found, base, stored, waiting⟩

/-- What the decoder does with a packet that it stores into the block the delivery is of. -/
theorem Aligned.tried (shaped : Shaped config block)
    (own : ∀ b, link.collecting = some b → b = delivery.block)
    (base : decoder.baseSequence = some (sequenceOf block 0))
    (stored : Stored config delivery.block block (delivery :: link.delivered) decoder)
    (recoverable : Recoverable config delivery.block block (delivery :: link.delivered)) :
    Aligned config blocks (link.answered delivery decoder.tryRecover) := by
  have present : Present delivery.block block (delivery :: link.delivered) := by
    intro place member
    obtain ⟨other, same, inside⟩ := joins.sent_cons aligned _ member
    rw [joins.found] at same
    cases same
    exact inside
  rcases tryRecover_stored stored shaped present recoverable with ⟨result, waiting⟩ | result
  · rw [result]
    exact aligned.waits joins own base stored waiting
  · rw [result]
    exact aligned.completed joins own stored.settings

/-- A packet of an answered block that the decoder discards. -/
theorem Aligned.discards {other : Nat} (collecting : link.collecting = some other)
    (elsewhere : other ≠ delivery.block) (answered : block.packets ∈ link.answers) (place : Nat)
    (data : delivery = .data delivery.block place) :
    Aligned config blocks (link.answered delivery (some (link.decoder, []))) := by
  obtain ⟨openBlock, found, base, stored, waiting⟩ := aligned.busy other collecting
  have unchanged : (link.answered delivery (some (link.decoder, []))).collecting =
      some other := by
    simp [Link.answered, base, collecting]
  have held : heldAt other openBlock (delivery :: link.delivered) =
      heldAt other openBlock link.delivered := by
    funext place
    rw [data]
    simp [heldAt, elsewhere]
  have slots : filled other (delivery :: link.delivered) = filled other link.delivered := by
    funext slot
    rw [data]
    simp [filled]
  have lost : lostPlaces config.blockSize other (delivery :: link.delivered) =
      lostPlaces config.blockSize other link.delivered := by
    unfold lostPlaces
    rw [data]
    simp [elsewhere]
  have parities : parityAt other openBlock (delivery :: link.delivered) =
      parityAt other openBlock link.delivered := by
    funext slot
    simp [parityAt, slots]
  have waits : Waiting config other (delivery :: link.delivered) := by
    unfold Waiting filledSlots
    rw [lost, slots]
    exact waiting
  refine
    { running := aligned.running
      settings := aligned.settings
      whole := ?_
      sent := joins.sent_cons aligned
      full := joins.full_cons aligned
      opened := joins.opened_cons aligned
      settled := ?_
      touched := ?_
      idle := ?_
      busy := ?_ }
  · intro answer member nonempty
    rcases List.mem_append.mp member with old | new
    · exact aligned.whole answer old nonempty
    · exact absurd (List.mem_singleton.mp new) nonempty
  · intro item member away block' found'
    rw [unchanged] at away
    refine List.mem_append.mpr (.inl ?_)
    rcases List.mem_cons.mp member with rfl | old
    · rw [joins.found] at found'
      cases found'
      exact answered
    · exact aligned.settled item old (collecting ▸ away) block' found'
  · intro b now
    obtain ⟨item, member, same⟩ := aligned.touched b (collecting.trans (unchanged.symm.trans now))
    exact ⟨item, .tail _ member, same⟩
  · intro none
    simp [unchanged] at none
  · intro b now
    rw [unchanged] at now
    cases now
    refine ⟨openBlock, found, base, ⟨stored.settings, ?_, ?_⟩, ?_⟩
    · exact stored.buffer.trans (congrArg (List.map · _) held.symm)
    · exact stored.parity.trans (congrArg (List.map · _) parities.symm)
    · exact waits

end

end Joining

/-! ### One delivery -/

variable {delivery : Delivery}

theorem deliver_cases {link next : Link} (taken : deliver blocks link delivery = some next) :
    delivery ∉ link.delivered ∧
      ((∃ b place block packet, delivery = .data b place ∧ blocks[b]? = some block ∧
          block.packets[place]? = some packet ∧
          next = link.answered delivery (link.decoder.processData (sequenceOf block place) packet)) ∨
        ∃ b index block fec, delivery = .parity b index ∧ blocks[b]? = some block ∧
          block.parity[index]? = some fec ∧
          next = link.answered delivery (link.decoder.processFec fec)) := by
  unfold deliver at taken
  split at taken
  · cases taken
  rename_i fresh
  refine ⟨fun member => fresh (.inr member), ?_⟩
  obtain ⟨result, received, rfl⟩ := Option.map_eq_some_iff.mp taken
  cases delivery with
  | data b place =>
    obtain ⟨block, found, received⟩ := Option.bind_eq_some_iff.mp received
    obtain ⟨packet, inside, ⟨⟩⟩ := Option.bind_eq_some_iff.mp received
    exact .inl ⟨b, place, block, packet, rfl, found, inside, rfl⟩
  | parity b index =>
    obtain ⟨block, found, received⟩ := Option.bind_eq_some_iff.mp received
    obtain ⟨fec, inside, ⟨⟩⟩ := Option.bind_eq_some_iff.mp received
    exact .inr ⟨b, index, block, fec, rfl, found, inside, rfl⟩

/-- Nothing was delivered of the block. -/
def Untouched (b : Nat) (delivered : List Delivery) : Prop :=
  ∀ delivery ∈ delivered, delivery.block ≠ b

variable {b : Nat}

variable {delivered : List Delivery}

theorem filled_of_untouched (untouched : Untouched b delivered) (slot : Nat) :
    filled b delivered slot = false := by
  refine List.any_eq_false.mpr fun delivery member => ?_
  have other := untouched delivery member
  cases delivery with
  | data _ _ => simp
  | parity block index => simp [show block ≠ b from other]

/-- The decoder right after it was opened for a block of which nothing was delivered. -/
theorem stored_openAt {config : FecConfig} (block : Block) (base : UInt32)
    (settings : decoder.config = config) (untouched : Untouched b delivered) :
    Stored config b block delivered { decoder with
        baseSequence := some base
        buffer := List.replicate config.blockSize none
        parityPackets := List.replicate config.parityCount none } where
  settings := settings
  buffer := by
    have nothing : heldAt b block delivered = fun _ => none := by
      funext place
      rw [heldAt, if_neg fun member => untouched _ member rfl]
    simp [nothing]
  parity := by
    have nothing : parityAt b block delivered = fun _ => none := by
      funext slot
      simp [parityAt, filled_of_untouched untouched]
    simp [nothing]

section Steps

variable {config : FecConfig} {blocks : List Block} {link : Link}

theorem Aligned.no_other (idle : link.collecting = none) (other : Nat)
    (busy : link.collecting = some other) : other = b := by
  simp [idle] at busy

theorem Aligned.only_own (collecting : link.collecting = some b) (other : Nat)
    (busy : link.collecting = some other) : other = b :=
  Option.some.inj (busy.symm.trans collecting)

theorem Aligned.opened_of_busy (aligned : Aligned config blocks link)
    (collecting : link.collecting = some b) :
    config.blockSize = 1 ∨ Delivery.data b 0 ∈ link.delivered := by
  obtain ⟨delivery, member, rfl⟩ := aligned.touched b collecting
  exact aligned.opened delivery member

/-- The first packet of a block opens the idle decoder. -/
theorem aligned_opening {block : Block} {packet : Bytes} (positive : 1 ≤ config.blockSize)
    (shaped : Shaped config block) (aligned : Aligned config blocks link)
    (idle : link.collecting = none) (fresh : Delivery.data b 0 ∉ link.delivered)
    (found : blocks[b]? = some block) (first : block.packets[0]? = some packet) :
    Aligned config blocks (link.answered (.data b 0)
      (link.decoder.processData (sequenceOf block 0) packet)) := by
  obtain ⟨inside, _⟩ := List.getElem?_eq_some_iff.mp first
  have joins : Joins config blocks link (.data b 0) block :=
    ⟨found, ⟨block, found, inside⟩, (by intro _ _ contrary; cases contrary), .inr (.head _)⟩
  have result : link.decoder.processData (sequenceOf block 0) packet = tryRecover { link.decoder with
          baseSequence := some (sequenceOf block 0)
          buffer := (List.replicate config.blockSize none).set 0 (some packet)
          parityPackets := List.replicate config.parityCount none } := by
    unfold processData openAt
    have offset := @offset_eq block 0 (by norm_num)
    simp only [aligned.idle idle, aligned.settings, Option.getD_some, offset, List.length_replicate]
    rw [if_neg (by omega), if_pos (by omega)]
  rw [result]
  by_cases single : config.blockSize = 1
  · -- Blocks of one packet: the packet is the block, whatever was delivered of it before.
    have empty : Untouched b [] := by simp [Untouched]
    have stored := (stored_openAt block (sequenceOf block 0) aligned.settings empty).data first
    have all : lostPlaces config.blockSize b [Delivery.data b 0] = [] := by
      simp [single, lostPlaces]
    rcases tryRecover_stored stored shaped (by simpa [Present] using inside)
      (fun lost => absurd all lost) with ⟨_, waiting⟩ | answer
    · exact absurd all waiting.1
    · rw [answer]
      exact aligned.completed joins (Aligned.no_other idle) aligned.settings
  · have untouched : Untouched b link.delivered := by
      intro delivery member same
      rcases aligned.opened delivery member with one | before
      · exact single one
      · exact fresh (same ▸ before)
    have stored :=
      (stored_openAt block (sequenceOf block 0) aligned.settings untouched).data first
    refine aligned.tried joins shaped (Aligned.no_other idle) rfl stored fun lost enough => ?_
    have noSlots : filledSlots config.parityCount b (.data b 0 :: link.delivered) = [] := by
      refine List.filter_eq_nil_iff.mpr fun slot _ => ?_
      have empty := filled_of_untouched untouched slot
      simpa [filled] using empty
    have none := Nat.le_zero.mp (enough.trans_eq (congrArg List.length noSlots))
    exact absurd (List.eq_nil_of_length_eq_zero none) lost

/-- Where blocks are of one packet, a parity packet is the block. -/
theorem aligned_alone {index : Nat} {block : Block} {fec : FecPacket} (shaped : Shaped config block)
    (aligned : Aligned config blocks link) (idle : link.collecting = none)
    (single : config.blockSize = 1) (slot : UInt16.ofNat index = 0) (found : blocks[b]? = some block)
    (parity : block.parity[index]? = some fec) :
    Aligned config blocks (link.answered (.parity b index) (link.decoder.processFec fec)) := by
  obtain ⟨inside, _⟩ := List.getElem?_eq_some_iff.mp parity
  obtain ⟨below, slotted, data⟩ := shaped.parity index fec parity
  have one : block.packets.length = config.blockSize := by
    have positive := List.length_pos_of_ne_nil shaped.nonempty
    have short := shaped.short
    omega
  have joins : Joins config blocks link (.parity b index) block :=
    ⟨found, ⟨block, found, inside⟩, fun _ _ _ => one, .inl single⟩
  have size : fec.blockSize.toNat = config.blockSize := by
    simp [shaped.announced fec (List.mem_of_getElem? parity) one, single]
  -- The header's base is one too small, but the decoder forgets it at once.
  have result : link.decoder.processFec fec = tryRecover { link.decoder with
          baseSequence := some fec.baseSequence
          buffer := List.replicate config.blockSize none
          parityPackets :=
            (List.replicate config.parityCount none).set fec.parityIndex.toNat (some fec) } := by
    unfold processFec openAt
    simp only [aligned.idle idle, aligned.settings, size, List.length_replicate]
    rw [if_neg (by rw [slotted, slot]; exact not_le.mpr (Nat.zero_lt_of_lt below))]
  have empty : Untouched b [] := by simp [Untouched]
  have stored :=
    (stored_openAt block fec.baseSequence aligned.settings empty).parity_packet shaped parity
  obtain ⟨packet, packets⟩ := List.length_eq_one_iff.mp (one.trans single)
  have lost : lostPlaces config.blockSize b [Delivery.parity b index] = [0] := by
    simp [single, lostPlaces]
  have filledFirst : 0 ∈ filledSlots config.parityCount b [Delivery.parity b index] := by
    refine List.mem_filter.mpr ⟨List.mem_range.mpr (Nat.zero_lt_of_lt below), ?_⟩
    exact List.any_eq_true.mpr ⟨_, List.mem_singleton_self _,
      decide_eq_true ⟨rfl, congrArg UInt16.toNat slot⟩⟩
  have recoverable : Recoverable config b block [Delivery.parity b index] := by
    intro _ _
    rw [if_pos filledFirst]
    refine ⟨0, packet, lost, by simp [packets], ?_⟩
    intro other member
    rw [packets, List.mem_singleton] at member
    exact le_of_eq (congrArg _ member)
  rw [result]
  rcases tryRecover_stored stored shaped (by simp [Present]) recoverable with
    ⟨_, waiting⟩ | answer
  · rw [Waiting, lost] at waiting
    exact absurd filledFirst (waiting.2 (List.length_pos_of_mem filledFirst)).1
  · rw [answer]
    exact aligned.completed joins (Aligned.no_other idle) aligned.settings

/-- **Every orderly delivery keeps the link aligned.** -/
theorem aligned_step {next : Link} (positive : 1 ≤ config.blockSize)
    (shaped : ∀ block ∈ blocks, Shaped config block) (aligned : Aligned config blocks link)
    (orderly : Orderly config blocks link delivery) (taken : deliver blocks link delivery = some next) :
    Aligned config blocks next := by
  obtain ⟨fresh, ⟨b, place, block, packet, rfl, found, inside, rfl⟩ |
    ⟨b, index, block, fec, rfl, found, inside, rfl⟩⟩ := deliver_cases taken
  · have shape := shaped block (List.mem_of_getElem? found)
    obtain ⟨within, _⟩ := List.getElem?_eq_some_iff.mp inside
    have joins : config.blockSize = 1 ∨ Delivery.data b 0 ∈ Delivery.data b place :: link.delivered →
        Joins config blocks link (.data b place) block :=
      fun opened => ⟨found, ⟨block, found, within⟩, (by intro _ _ contrary; cases contrary), opened⟩
    cases orderly with
    | opening idle =>
      exact aligned_opening positive shape aligned idle fresh found inside
    | data collecting found' small recoverable =>
      rw [found] at found'
      cases found'
      obtain ⟨_, same, base, stored, _⟩ := aligned.busy b collecting
      rw [found] at same
      cases same
      rw [processData_stored stored shape base inside small]
      exact aligned.tried (joins ((aligned.opened_of_busy collecting).imp_right
        (List.mem_cons_of_mem _))) shape (Aligned.only_own collecting) base (stored.data inside)
        recoverable
    | late collecting elsewhere found' openFound before outside =>
      rw [found] at found'
      cases found'
      obtain ⟨_, same, base, _⟩ := aligned.busy _ collecting
      rw [openFound] at same
      cases same
      have discarded : link.decoder.processData (sequenceOf block place) packet =
          some (link.decoder, []) := by
        simp [processData, openAt, base, aligned.settings, outside]
      have answered := aligned.settled _ before
        (fun same => elsewhere (Option.some.inj (collecting.symm.trans same))) block found
      rw [discarded]
      exact aligned.discards (joins (.inr (.tail _ before))) collecting elsewhere answered place rfl
  · have shape := shaped block (List.mem_of_getElem? found)
    obtain ⟨within, _⟩ := List.getElem?_eq_some_iff.mp inside
    cases orderly with
    | alone idle single slot =>
      exact aligned_alone shape aligned idle single slot found inside
    | parity collecting found' full recoverable =>
      rw [found] at found'
      cases found'
      obtain ⟨_, same, base, stored, _⟩ := aligned.busy b collecting
      rw [found] at same
      cases same
      have joins : Joins config blocks link (.parity b index) block :=
        ⟨found, ⟨block, found, within⟩, fun _ _ _ => full,
          (aligned.opened_of_busy collecting).imp_right (List.mem_cons_of_mem _)⟩
      rw [processFec_stored stored shape base inside]
      exact aligned.tried joins shape (Aligned.only_own collecting) base
        (stored.parity_packet shape inside) recoverable

end Steps

/-! ### Whole runs -/

/-- **Along every run of orderly deliveries the decoder is faithful**: it answers with whole blocks
only, and a block of which one packet is lost and a parity packet delivered is recovered. -/
theorem faithful_of_orderly {config : FecConfig} (positive : 1 ≤ config.blockSize)
    (sendings : List Sending) {link : Link}
    (reach : Reach (deliver (send config sendings))
      (Orderly config (send config sendings)) (Link.new config) link) :
    Faithful (send config sendings) link := by
  have shaped : ∀ block ∈ send config sendings, Shaped config block :=
    fun _ => shaped_of_mem_send positive
  have aligned : Aligned config (send config sendings) link :=
    reach.invariant (aligned_new config _) fun _ _ _ aligned orderly taken =>
      aligned_step positive shaped aligned orderly taken
  exact aligned.faithful shaped

/-- The default parity count, with blocks of three packets. -/
def threeByTwo : FecConfig := ⟨.xor, 3, 2⟩

/-- Three packets, the second of them the longest. -/
def longSecond : List Block := send threeByTwo [.packet [1], .packet [2, 3], .packet [4]]

/-- The link after the first packet, the third packet and the first parity packet. -/
def afterOne : Link :=
  ⟨⟨threeByTwo, [some [1], none, none], [none, none], some 0⟩, [.data 0 0], [[]], some 0, false⟩

def afterTwo : Link :=
  ⟨⟨threeByTwo, [some [1], none, some [4]], [none, none], some 0⟩, [.data 0 2, .data 0 0],
    [[], []], some 0, false⟩

def afterParity : Link :=
  ⟨new threeByTwo, [.parity 0 0, .data 0 2, .data 0 0], [[], [], [[1], [2, 3], [4]]], none, false⟩

/-- The lost second packet is recovered. -/
theorem faithful_of_orderly_lost_packet :
    Reach (deliver longSecond) (Orderly threeByTwo longSecond) (Link.new threeByTwo) afterParity ∧
      [[1], [2, 3], [4]] ∈ afterParity.answers ∧ Faithful longSecond afterParity := by
  have first : deliver longSecond (Link.new threeByTwo) (.data 0 0) = some afterOne := by decide
  have third : deliver longSecond afterOne (.data 0 2) = some afterTwo := by decide
  have parity : deliver longSecond afterTwo (.parity 0 0) = some afterParity := by decide
  have complete : Orderly threeByTwo longSecond afterTwo (.parity 0 0) := by
    refine .parity rfl rfl rfl fun _ _ => ?_
    rw [if_pos (by decide)]
    exact ⟨1, [2, 3], by decide, rfl, by decide⟩
  have reach : Reach (deliver longSecond) (Orderly threeByTwo longSecond) (Link.new threeByTwo)
      afterParity := by
    refine ((Reach.single (.opening rfl) first).tail ?_ third).tail complete parity
    exact .data rfl rfl (by decide) fun _ enough => absurd enough (by decide)
  exact ⟨reach, by decide, faithful_of_orderly (by decide) _ reach⟩

/-- **Two losses, two parities**: the decoder returns two packets that were never sent. -/
theorem two_losses_are_returned_corrupted :
    ¬ ∀ config : FecConfig, 1 ≤ config.blockSize → ∀ (sendings : List Sending) (link : Link),
      Reach (deliver (send config sendings)) always (Link.new config) link →
      Faithful (send config sendings) link := by
  intro faithful
  have ran : run (deliver (send threeByTwo [.packet [1], .packet [2], .packet [3]]))
      (Link.new threeByTwo) [.data 0 0, .parity 0 0, .parity 0 1] =
      some ⟨new threeByTwo, [.parity 0 1, .parity 0 0, .data 0 0],
        [[], [], [[1], [1], [0]]], none, false⟩ := by
    decide
  obtain ⟨block, member, same⟩ := (faithful threeByTwo (by decide) _ _ (run_reach ran)).whole
    [[1], [1], [0]] (by decide) (by decide)
  revert block
  decide

end MiniRemoteDesktop.Quic.Fec
