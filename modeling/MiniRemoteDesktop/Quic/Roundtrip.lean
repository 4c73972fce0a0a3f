/-
**The round trip of a payload** through a fragmenter and a reassembler.

* `media_lost` — a longer piece is written with a truncated length, which the decoder refuses: the
  schedule that pushes the first datagram last delivers nothing.
* `fragmentation_roundTrip` — **exactly when** the datagrams of a payload deliver it.
-/

import MiniRemoteDesktop.Quic.Schedule

namespace MiniRemoteDesktop.Quic

open Bytes Chunks Reassembler Table
open QuicMediaFragment

variable {μ : Type}

/-! ### What is sent -/

/-- The frame that `fragment_access_unit` sends. -/
def auFrame (frameId : UInt32) (timestampUs : UInt64) (isKeyframe : Bool) (payload : List UInt8) :
    QuicAuFrame :=
  ⟨frameId, ⟨timestampUs, isKeyframe⟩, payload⟩

/-- The frame that `fragment_media_payload_v3` sends. -/
def mediaFrame (payloadType : QuicMediaPayloadType) (codec : QuicMediaCodec)
    (profileId frameId : UInt32) (timestampUs : UInt64) (isKeyframe : Bool)
    (payload : List UInt8) : QuicMediaFrame :=
  ⟨frameId, ⟨payloadType, codec, profileId, timestampUs,
    if isKeyframe then quicMediaV3FlagKeyframe else 0⟩, payload⟩

/-- The receiver reads the keyframe flag that was sent. -/
theorem isKeyframe_mediaFrame (payloadType : QuicMediaPayloadType) (codec : QuicMediaCodec)
    (profileId frameId : UInt32) (timestampUs : UInt64) (isKeyframe : Bool)
    (payload : List UInt8) :
    (mediaFrame payloadType codec profileId frameId timestampUs isKeyframe payload).isKeyframe =
      isKeyframe := by
  show ((if isKeyframe then quicMediaV3FlagKeyframe else 0) &&& quicMediaV3FlagKeyframe != 0) =
    isKeyframe
  cases isKeyframe <;> decide

section Fragmented

variable {format : Format μ} {headerLen maxDatagramSize : Nat} {tooSmall tooMany : String}
  {encodeWithPayload : Fragment μ → List UInt8 → List UInt8} {frame : CompletedFrame μ}
  {datagrams : List (List UInt8)}

section

variable (fragmented : fragmentPayload headerLen tooSmall tooMany encodeWithPayload frame.frameId
      frame.info frame.payload maxDatagramSize = .ok datagrams)
include fragmented

/-- The datagrams of a payload are no longer than they may be. -/
theorem length_le_of_fragmented
    (length : ∀ fragment payload, (encodeWithPayload fragment payload).length =
      headerLen + payload.length) :
    ∀ datagram ∈ datagrams, datagram.length ≤ maxDatagramSize := by
  obtain ⟨header, -, rfl⟩ := fragmentPayload_ok fragmented
  intro datagram member
  obtain ⟨index, inside, rfl⟩ := List.mem_mapIdx.mp member
  have short := length_le_of_mem_pieces (List.getElem_mem inside)
  rw [length]
  omega

theorem sent_of_fragmented
    (read : ∀ fragment : Fragment μ, fragment.fragmentIndex < fragment.fragmentCount →
      ∀ piece ∈ pieces (maxDatagramSize - headerLen) frame.payload, format.decode (encodeWithPayload
        fragment piece) = .ok { fragment with payload := piece }) :
    Sent format frame (pieces (maxDatagramSize - headerLen) frame.payload) datagrams := by
  obtain ⟨header, few, rfl⟩ := fragmentPayload_ok fragmented
  have small : (pieces (maxDatagramSize - headerLen) frame.payload).length < 2 ^ 16 := by omega
  refine ⟨small, flatten_pieces (by omega) _, ?_⟩
  refine List.ext_getElem ?_ ?_
  · simp [fragmentsOf]
  · intro index _ inside
    have below : index < (pieces (maxDatagramSize - headerLen) frame.payload).length := by
      simpa [fragmentsOf] using inside
    have place : UInt16.ofNat index <
        UInt16.ofNat (pieces (maxDatagramSize - headerLen) frame.payload).length := by
      rw [UInt16.lt_iff_toNat_lt, UInt16.toNat_ofNat_of_lt' (below.trans small),
        UInt16.toNat_ofNat_of_lt' small]
      exact below
    simp only [List.getElem_map, List.getElem_mapIdx, fragmentsOf]
    exact read _ place _ (List.getElem_mem below)

end

theorem roundTrips_of_fragmented (sound : format.Sound)
    (fragmented : fragmentPayload headerLen tooSmall tooMany encodeWithPayload frame.frameId
      frame.info frame.payload maxDatagramSize = .ok datagrams)
    (length : ∀ fragment payload,
      (encodeWithPayload fragment payload).length = headerLen + payload.length)
    (read : ∀ fragment : Fragment μ, fragment.fragmentIndex < fragment.fragmentCount →
      ∀ piece ∈ pieces (maxDatagramSize - headerLen) frame.payload,
        format.decode (encodeWithPayload fragment piece) = .ok { fragment with payload := piece }) :
    format.RoundTrips frame datagrams maxDatagramSize where
  sizes := length_le_of_fragmented fragmented length
  delivers _ _ _ _ schedule := (sent_of_fragmented fragmented read).delivers sound schedule

end Fragmented

/-- **Access units come back.** -/
theorem au_roundTrips {frameId : UInt32} {timestampUs : UInt64} {isKeyframe : Bool}
    {payload : List UInt8} {maxDatagramSize : Nat} {datagrams : List (List UInt8)}
    (fragmented : fragmentAccessUnit frameId timestampUs isKeyframe payload maxDatagramSize =
      .ok datagrams) :
    auFormat.RoundTrips (auFrame frameId timestampUs isKeyframe payload) datagrams maxDatagramSize :=
  roundTrips_of_fragmented au_sound fragmented length_au_datagram fun _ inside piece _ =>
    au_decode_encode inside piece

/-! ### A reassembler that sees one frame only -/

section Alone

variable {format : Format μ} {frameId : UInt32}

/-- The calls push no fragment of another frame. -/
def Format.OnlyFrame (format : Format μ) (frameId : UInt32) (calls : List Call) : Prop :=
  ∀ call ∈ calls, ∀ datagram fragment, call.datagram = some datagram →
    format.decode datagram = .ok fragment → fragment.frameId = frameId

/-- A reassembler without expiry, and with room for one frame. -/
def roomForOne : Reassembler μ := Reassembler.new ⟨0, 1⟩

theorem perform_alone (sound : format.Sound) {reassembler : Reassembler μ} {call : Call}
    (own : format.OnlyFrame frameId [call])
    (limits : SameLimits roomForOne reassembler)
    (alone : ∀ pending ∈ reassembler.pending, pending = frameId) :
    SameLimits roomForOne (format.perform reassembler call).2 ∧
      ∀ pending ∈ (format.perform reassembler call).2.pending, pending = frameId := by
  obtain ⟨erased, pruned⟩ := reassembler.pruneExpiredAt_pending call.now
  have before : ∀ pending ∈ (reassembler.pruneExpiredAt call.now).pending, pending = frameId :=
    fun pending member => alone pending (mem_of_mem_eraseAll (erased ▸ member))
  cases pushed : call.datagram with
  | none =>
    obtain ⟨tie, performed⟩ := format.perform_prune pushed reassembler
    obtain ⟨⟨frameIds, evicted⟩, -, enforced⟩ :=
      enforcePendingLimit_spec tie (reassembler.pruneExpiredAt call.now)
    rw [performed]
    exact ⟨limits.trans (pruned.trans enforced),
      fun pending member => before pending (mem_of_mem_eraseAll (evicted ▸ member))⟩
  | some datagram =>
    obtain ⟨tie, result, after, performed, effect⟩ := sound.push pushed reassembler
    rw [performed]
    refine ⟨limits.trans (pruned.trans effect.limits), ?_⟩
    intro pending member
    rcases effect.mem_pending member with earlier | ⟨fragment, decoded, rfl⟩
    · exact before pending earlier
    · exact own call (List.mem_singleton_self _) datagram fragment pushed decoded

theorem after_alone (sound : format.Sound) {calls : List Call} (own : format.OnlyFrame frameId calls) :
    SameLimits roomForOne (format.after roomForOne calls) ∧
      ∀ pending ∈ (format.after roomForOne calls).pending, pending = frameId := by
  induction calls using List.reverseRecOn with
  | nil => exact ⟨.refl _, fun pending member => absurd member (AList.notMem_empty _)⟩
  | append_singleton calls call ih =>
    rw [Format.after_append]
    obtain ⟨limits, alone⟩ := ih fun earlier member => own earlier (List.mem_append_left _ member)
    exact perform_alone sound (fun later member => own later (List.mem_append_right _ member))
      limits alone

theorem undisturbed_alone (sound : format.Sound) {calls : List Call} {call : Call}
    (own : format.OnlyFrame frameId (calls ++ [call])) :
    format.Undisturbed frameId (format.after roomForOne calls) call := by
  obtain ⟨limits, alone⟩ :=
    after_alone sound fun earlier member => own earlier (List.mem_append_left _ member)
  obtain ⟨erased, -⟩ := (format.after roomForOne calls).pruneExpiredAt_pending call.now
  have config : (format.after roomForOne calls).config = ⟨0, 1⟩ := limits.config
  have few : ∀ pending : Pending μ, (∀ other ∈ pending, other = frameId) →
      pending.entries.length ≤ max (format.after roomForOne calls).config.maxPendingFrames 1 := by
    intro pending only
    rw [config]
    show pending.entries.length ≤ [frameId].length
    exact length_le_of_keys fun other member => List.mem_singleton.mpr (only other member)
  refine ⟨?_, few _ alone, ?_⟩
  · rw [expiring, config, if_pos rfl]
    exact List.not_mem_nil
  · intro datagram fragment pushed decoded
    refine few _ fun other member => ?_
    rcases (AList.mem_insert _).mp member with rfl | before
    · exact own call (List.mem_append_right _ (List.mem_singleton_self _)) datagram fragment pushed
        decoded
    · exact alone other (mem_of_mem_eraseAll (erased ▸ before))

/-- The push of a datagram at one and the same time. -/
def pushOf (datagram : List UInt8) : Call := .pushDatagram datagram 0 fun _ => 0

/-- **The schedule with the first datagram last**, all others in order before it. -/
theorem schedule_firstLast (sound : format.Sound) {first : List UInt8} {others : List (List UInt8)}
    (apart : first ∉ others)
    (own : ∀ datagram ∈ first :: others, ∀ fragment, format.decode datagram = .ok fragment →
      fragment.frameId = frameId) :
    Schedule format frameId (first :: others) roomForOne (others.map pushOf) (pushOf first) [] := by
  have only : format.OnlyFrame frameId (others.map pushOf ++ [pushOf first]) := by
    intro call member datagram fragment pushed decoded
    refine own datagram ?_ fragment decoded
    rcases List.mem_append.mp member with early | final
    · obtain ⟨other, listed, rfl⟩ := List.mem_map.mp early
      cases pushed
      exact .tail _ listed
    · cases List.mem_singleton.mp final
      cases pushed
      exact (.head _)
  refine ⟨rfl, rfl, rfl, ?_, ⟨⟨first, (.head _), rfl⟩, ?_⟩, ?_, nofun, ?_⟩
  · intro call member
    obtain ⟨other, listed, rfl⟩ := List.mem_map.mp member
    exact .inl ⟨other, .tail _ listed, rfl⟩
  · intro call member same
    obtain ⟨other, listed, rfl⟩ := List.mem_map.mp member
    cases same
    exact apart listed
  · intro datagram member
    rcases List.mem_cons.mp member with rfl | listed
    · exact .inl rfl
    · exact .inr ⟨pushOf datagram, List.mem_map_of_mem listed, rfl⟩
  · intro done call todo split
    refine undisturbed_alone sound fun earlier member => ?_
    refine only earlier ?_
    rw [split, ← List.singleton_append, ← List.append_assoc]
    exact List.mem_append_left _ member

/-- A datagram that the decoder refuses hands nothing out. -/
theorem failed_of_refused (sound : format.Sound) {datagram : List UInt8} {error : QuinnTransportError}
    (refused : format.decode datagram = .error error) (reassembler : Reassembler μ) :
    (format.perform reassembler (pushOf datagram)).1 = some (.failed error) := by
  have pushed : (pushOf datagram).datagram = some datagram := rfl
  obtain ⟨tie, result, after, performed, effect⟩ := sound.push pushed reassembler
  rw [refused] at effect
  rw [performed]
  cases effect
  rfl

end Alone

section Media

variable {payloadType : QuicMediaPayloadType} {codec : QuicMediaCodec} {profileId frameId : UInt32}
  {timestampUs : UInt64} {isKeyframe : Bool} {payload : List UInt8} {maxDatagramSize : Nat}
  {datagrams : List (List UInt8)}

/-- **Media payloads come back** if no piece is too long for the header. -/
theorem media_roundTrips
    (fragmented : fragmentMediaPayloadV3 payloadType codec profileId frameId timestampUs isKeyframe
      payload maxDatagramSize = .ok datagrams)
    (short : min payload.length (maxDatagramSize - quicMediaV3FragmentHeaderLen) < 2 ^ 32) :
    mediaFormat.RoundTrips
      (mediaFrame payloadType codec profileId frameId timestampUs isKeyframe payload) datagrams
      maxDatagramSize := by
  refine roundTrips_of_fragmented media_sound fragmented length_media_datagram ?_
  intro fragment inside piece member
  have length : piece.length < 2 ^ 32 := by
    refine lt_of_le_of_lt (le_min ?_ (length_le_of_mem_pieces member)) short
    rw [← flatten_pieces (Nat.sub_pos_of_lt (fragmentPayload_ok fragmented).1) payload]
    exact (List.sublist_flatten_of_mem member).length_le
  show decode _ = _
  rw [media_decode_encode inside, if_neg (not_not_intro (Nat.mod_eq_of_lt length))]

/-- A datagram that was written for the frame is read as one of it, or refused. -/
theorem media_decode_own {fragment read : QuicMediaFragment} {piece : List UInt8}
    (inside : fragment.fragmentIndex < fragment.fragmentCount)
    (decoded : decode (encodeWithPayload fragment piece) =
      .ok read) : read.frameId = fragment.frameId := by
  rw [media_decode_encode inside] at decoded
  obtain ⟨-, ⟨⟩⟩ := Checked.refused_ok decoded
  rfl

/-- The place of a fragment can be read off its datagram, however long the piece is. -/
theorem media_fragmentIndex (fragment : QuicMediaFragment) (piece : List UInt8) :
    littleEndianAt UInt16 (encodeWithPayload fragment piece) 24 = fragment.fragmentIndex := by
  simp [encodeWithPayload]

section

variable (fragmented : fragmentMediaPayloadV3 payloadType codec profileId frameId timestampUs
      isKeyframe payload maxDatagramSize = .ok datagrams)
include fragmented

/-- The datagrams of a payload are written for its frame. -/
theorem media_own :
    ∀ datagram ∈ datagrams, ∀ fragment, mediaFormat.decode datagram = .ok fragment →
      fragment.frameId = frameId := by
  obtain ⟨header, few, rfl⟩ := fragmentPayload_ok fragmented
  intro datagram member fragment decoded
  obtain ⟨index, inside, rfl⟩ := List.mem_mapIdx.mp member
  refine media_decode_own ?_ decoded
  simp only [UInt16.lt_iff_toNat_lt, UInt16.toNat_ofNat']
  omega

theorem media_nodup : datagrams.Nodup := by
  obtain ⟨header, few, rfl⟩ := fragmentPayload_ok fragmented
  refine List.Nodup.of_map (fun datagram => littleEndianAt UInt16 datagram 24) ?_
  have places := PendingFrame.nodup_ofNat (Nat.lt_succ_of_le few)
  convert places using 1
  refine List.ext_getElem (by simp) ?_
  intro index _ _
  simp [media_fragmentIndex]

/-- A first piece that is too long for the header is refused. -/
theorem media_first_refused
    (long : 2 ^ 32 ≤ min payload.length (maxDatagramSize - quicMediaV3FragmentHeaderLen)) :
    ∃ first others error, datagrams = first :: others ∧ mediaFormat.decode first = .error error := by
  obtain ⟨header, few, rfl⟩ := fragmentPayload_ok fragmented
  have nonempty : 0 < (pieces (maxDatagramSize - quicMediaV3FragmentHeaderLen) payload).length := by
    rw [length_pieces (Nat.sub_pos_of_lt header)]
    omega
  have full := length_first_piece nonempty
  generalize pieces (maxDatagramSize - quicMediaV3FragmentHeaderLen) payload = cut at few nonempty full
  cases cut with
  | nil => exact absurd nonempty (lt_irrefl 0)
  | cons piece rest =>
    have length : piece.length =
        min (maxDatagramSize - quicMediaV3FragmentHeaderLen) payload.length := full
    rw [List.mapIdx_cons]
    refine ⟨_, _, _, rfl, (media_decode_encode ?_ piece).trans (if_pos ?_)⟩
    · simp only [UInt16.lt_iff_toNat_lt, UInt16.toNat_ofNat']
      omega
    · omega

/-- **A piece that is too long is lost.** -/
theorem media_lost
    (long : 2 ^ 32 ≤ min payload.length (maxDatagramSize - quicMediaV3FragmentHeaderLen)) :
    ¬ mediaFormat.RoundTrips
      (mediaFrame payloadType codec profileId frameId timestampUs isKeyframe payload) datagrams
      maxDatagramSize := by
  intro trips
  obtain ⟨first, others, error, rfl, refused⟩ := media_first_refused fragmented long
  have apart := (List.nodup_cons.mp (media_nodup fragmented)).1
  have schedule := schedule_firstLast media_sound apart (media_own fragmented)
  have answer := (trips.delivers _ _ _ _ schedule).onLast
  rw [failed_of_refused media_sound refused] at answer
  cases answer

end

end Media

/-! ### Exactly when a payload comes back -/

/-- **The round trip of both fragmenters**: the datagrams of an access unit deliver it, and those of a
media payload exactly when its pieces are shorter than `2^32` bytes. -/
theorem fragmentation_roundTrip (payloadType : QuicMediaPayloadType) (codec : QuicMediaCodec)
    (profileId frameId : UInt32) (timestampUs : UInt64) (isKeyframe : Bool) (payload : List UInt8)
    (maxDatagramSize : Nat) :
    (∀ datagrams : List (List UInt8),
      fragmentMediaPayloadV3 payloadType codec profileId frameId timestampUs isKeyframe payload
        maxDatagramSize = .ok datagrams →
      (mediaFormat.RoundTrips
          (mediaFrame payloadType codec profileId frameId timestampUs isKeyframe payload) datagrams
          maxDatagramSize ∧
        (mediaFrame payloadType codec profileId frameId timestampUs isKeyframe payload).isKeyframe =
          isKeyframe ↔
        min payload.length (maxDatagramSize - quicMediaV3FragmentHeaderLen) < 2 ^ 32)) ∧
    ∀ datagrams : List (List UInt8),
      fragmentAccessUnit frameId timestampUs isKeyframe payload maxDatagramSize = .ok datagrams →
      auFormat.RoundTrips (auFrame frameId timestampUs isKeyframe payload) datagrams
        maxDatagramSize := by
  constructor
  · intro datagrams fragmented
    constructor
    · rintro ⟨trips, -⟩
      by_contra long
      exact media_lost fragmented (not_lt.mp long) trips
    · intro short
      exact ⟨media_roundTrips fragmented short, isKeyframe_mediaFrame _ _ _ _ _ _ _⟩
  · intro datagrams fragmented
    exact au_roundTrips fragmented

/-- An access unit of three datagrams: the first one, and then all of them in reverse. -/
example : (fragmentAccessUnit 7 0 true [1, 2, 3, 4, 5] 19).toOption.map (fun datagrams =>
    ((auFormat.answers (.new ⟨100, 4⟩) ((datagrams.take 1 ++ datagrams.reverse).map
      (.pushDatagram · 0 fun _ => 0))).filterMap (completedFrame 7)).map (·.payload)) =
    some [[1, 2, 3, 4, 5]] := by
  decide +kernel

/-- **A payload of `2^32` bytes in one datagram is lost**: it is fragmented without an error, but its
datagram does not deliver it. -/
theorem fragmented_payload_is_lost : ∃ datagrams,
    fragmentMediaPayloadV3 .accessUnit .h264 0 1 0 true (List.replicate (2 ^ 32) 0)
      (2 ^ 32 + 32) = .ok datagrams ∧
    ¬ mediaFormat.RoundTrips
      (mediaFrame .accessUnit .h264 0 1 0 true (List.replicate (2 ^ 32) 0)) datagrams
      (2 ^ 32 + 32) := by
  have header : quicMediaV3FragmentHeaderLen < 2 ^ 32 + 32 := by decide
  have room : 2 ^ 32 + 32 - quicMediaV3FragmentHeaderLen = 2 ^ 32 := rfl
  have few : max (divCeil (List.replicate (2 ^ 32) (0 : UInt8)).length
      (2 ^ 32 + 32 - quicMediaV3FragmentHeaderLen)) 1 ≤ 65535 := by
    rw [List.length_replicate, room]
    decide
  obtain ⟨datagrams, fragmented⟩ := fragmentPayload_returns header few
  refine ⟨datagrams, fragmented, media_lost fragmented ?_⟩
  rw [List.length_replicate, room, min_self]

end MiniRemoteDesktop.Quic
