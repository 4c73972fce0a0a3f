/-
**TURN over a stream** (`mrd-transport-webrtc`, `turn_stream.rs`).

A TURN server that is reached by TCP or TLS gets its datagrams one after the other on a stream. STUN
messages go out as they are; a ChannelData message is padded to four bytes on the stream, whether or not
the datagram was.

* `encodeStreamFrame` — a datagram on the stream; `readStreamFrame` — the next message from the stream.
* `stream_lossless` — what was encoded is read back, message by message, however the bytes arrive, and
  what is read can be encoded again.
-/

import MiniRemoteDesktop.Lib.Checked
import MiniRemoteDesktop.Lib.Stream
import MiniRemoteDesktop.Lib.Word

namespace MiniRemoteDesktop.Turn

open List (append_assoc length_append length_take map_map mem_map take_left)
open Procedure (fail refuse)
open Bytes (bigEndianAt byteAt slice)
open Stream (Incoming readExact readExact_answers readExact_meets)

def maxTurnDatagram : Nat := 65507

def stunHeaderLen : Nat := 20

def channelDataHeaderLen : Nat := 4

def stunMagicCookie : List UInt8 := [0x21, 0x12, 0xa4, 0x42]

/-- `io::Error`, by its kind. -/
inductive FrameError
  | unexpectedEof
  | invalidData (message : String)
  deriving DecidableEq

/-- `(length + 3) & !3`. -/
def roundUpToFour (length : Nat) : Nat := (length + 3) / 4 * 4

/-- The length in the header of a message of either kind. -/
def bodyLen (bytes : List UInt8) : Nat := (bigEndianAt UInt16 bytes 2).toNat

structure DatagramFrame where
  wireLen : Nat
  channelData : Bool

def classifyDatagram (datagram : List UInt8) : Except FrameError DatagramFrame :=
  if datagram.length < channelDataHeaderLen ∨ maxTurnDatagram < datagram.length then
    .error (.invalidData "invalid TURN datagram length")
  else if byteAt datagram 0 >>> 6 = 0 then
    if datagram.length < stunHeaderLen ∨ slice datagram 4 4 ≠ stunMagicCookie then
      .error (.invalidData "invalid STUN datagram")
    else if bodyLen datagram % 4 ≠ 0 ∨ datagram.length ≠ stunHeaderLen + bodyLen datagram then
      .error (.invalidData "inconsistent STUN datagram length")
    else .ok { wireLen := stunHeaderLen + bodyLen datagram, channelData := false }
  else if byteAt datagram 0 >>> 6 = 1 then
    let wireLen := channelDataHeaderLen + bodyLen datagram
    if datagram.length ≠ wireLen ∧ datagram.length ≠ roundUpToFour wireLen then
      .error (.invalidData "inconsistent ChannelData datagram length")
    else .ok { wireLen, channelData := true }
  else .error (.invalidData "invalid TURN datagram frame type")

/-- `Vec::resize`, to a length that is not smaller. -/
def padTo (length : Nat) (bytes : List UInt8) : List UInt8 :=
  bytes ++ List.replicate (length - bytes.length) 0

def encodeStreamFrame (datagram : List UInt8) : Except FrameError (List UInt8) := do
  let frame ← classifyDatagram datagram
  let encoded := datagram.take frame.wireLen
  return if frame.channelData then padTo (roundUpToFour frame.wireLen) encoded else encoded

/-- The next message from the stream. -/
def readStreamFrame : Procedure (Incoming UInt8) FrameError (List UInt8) := do
  let header ← readExact .unexpectedEof channelDataHeaderLen
  if byteAt header 0 >>> 6 = 0 then
    refuse (bodyLen header % 4 ≠ 0 ∨ maxTurnDatagram < stunHeaderLen + bodyLen header)
      (.invalidData "invalid STUN stream length")
    let rest ← readExact .unexpectedEof (stunHeaderLen + bodyLen header - channelDataHeaderLen)
    refuse (slice (header ++ rest) 4 4 ≠ stunMagicCookie) (.invalidData "invalid STUN magic cookie")
    return header ++ rest
  else if byteAt header 0 >>> 6 = 1 then
    let wireLen := channelDataHeaderLen + bodyLen header
    refuse (maxTurnDatagram < wireLen) (.invalidData "invalid ChannelData stream length")
    let rest ← readExact .unexpectedEof (roundUpToFour wireLen - channelDataHeaderLen)
    return (header ++ rest).take wireLen
  else fail (.invalidData "invalid TURN stream frame type")

/-- Read one message after the other. -/
def readFrames : Nat → Procedure (Incoming UInt8) FrameError (List (List UInt8))
  | 0 => return []
  | count + 1 => do
    let frame ← readStreamFrame
    let later ← readFrames count
    return frame :: later

/-! ### Messages -/

/-- The message in a datagram: a ChannelData message ends at its declared length. -/
def messageOf (datagram : List UInt8) : List UInt8 :=
  if byteAt datagram 0 >>> 6 = 1 then datagram.take (channelDataHeaderLen + bodyLen datagram)
  else datagram

/-- **A message**, as it is on the stream without its padding. -/
structure Message (bytes : List UInt8) : Prop where
  header : channelDataHeaderLen ≤ bytes.length
  short : bytes.length ≤ maxTurnDatagram
  kind : (byteAt bytes 0 >>> 6 = 0 ∧ bodyLen bytes % 4 = 0 ∧
      bytes.length = stunHeaderLen + bodyLen bytes ∧ slice bytes 4 4 = stunMagicCookie) ∨
    (byteAt bytes 0 >>> 6 = 1 ∧ bytes.length = channelDataHeaderLen + bodyLen bytes)

/-- A message with the padding that it gets on the stream. -/
def padded (message : List UInt8) : List UInt8 :=
  if byteAt message 0 >>> 6 = 1 then padTo (roundUpToFour message.length) message else message

theorem le_roundUpToFour (length : Nat) : length ≤ roundUpToFour length := by
  unfold roundUpToFour
  omega

theorem byteAt_take {bytes : List UInt8} {count index : Nat} (inside : index < count) :
    byteAt (bytes.take count) index = byteAt bytes index := by
  simp [byteAt, inside]

theorem bodyLen_take {bytes : List UInt8} {count : Nat} (inside : 4 ≤ count) :
    bodyLen (bytes.take count) = bodyLen bytes := by
  have same : slice (bytes.take count) 2 2 = slice bytes 2 2 := by
    unfold slice
    rw [List.drop_take, List.take_take]
    congr 1
    omega
  simp [bodyLen, bigEndianAt, same]

/-- **What is accepted is a message**, and it goes out padded. -/
theorem encodeStreamFrame_ok {datagram encoded : List UInt8}
    (accepted : encodeStreamFrame datagram = .ok encoded) :
    Message (messageOf datagram) ∧ encoded = padded (messageOf datagram) := by
  obtain ⟨frame, classified, is⟩ := Checked.bind_ok accepted
  have value := Except.ok.inj is
  obtain ⟨lengths, classified⟩ := Checked.refused_ok classified
  obtain ⟨long, short⟩ := not_or.mp lengths
  split at classified
  next stun =>
    obtain ⟨cookie, classified⟩ := Checked.refused_ok classified
    obtain ⟨body, classified⟩ := Checked.refused_ok classified
    obtain ⟨-, cookie⟩ := not_or.mp cookie
    obtain ⟨divides, whole⟩ := not_or.mp body
    cases classified
    have other : ¬ byteAt datagram 0 >>> 6 = 1 := by
      simp [stun]
    have message : messageOf datagram = datagram := if_neg other
    have all : datagram.take (stunHeaderLen + bodyLen datagram) = datagram :=
      List.take_of_length_le (le_of_eq (not_not.mp whole))
    rw [message]
    refine ⟨⟨Nat.le_of_not_lt long, Nat.le_of_not_lt short, .inl ⟨stun, not_not.mp divides,
      not_not.mp whole, not_not.mp cookie⟩⟩, ?_⟩
    simp [← value, padded, other, all]
  next notStun =>
    split at classified
    next channel =>
      obtain ⟨lengths, ⟨⟩⟩ := Checked.refused_ok classified
      have message : messageOf datagram = datagram.take (channelDataHeaderLen + bodyLen datagram) :=
        if_pos channel
      have bound : channelDataHeaderLen + bodyLen datagram ≤ datagram.length := by
        have up := le_roundUpToFour (channelDataHeaderLen + bodyLen datagram)
        by_cases exact : datagram.length = channelDataHeaderLen + bodyLen datagram
        · omega
        · have wide := not_not.mp fun wide => lengths ⟨exact, wide⟩
          omega
      have whole : (messageOf datagram).length = channelDataHeaderLen + bodyLen datagram := by
        rw [message, length_take]
        omega
      have body : bodyLen (messageOf datagram) = bodyLen datagram := by
        rw [message]
        exact bodyLen_take (Nat.le_add_right _ _)
      have first : byteAt (messageOf datagram) 0 = byteAt datagram 0 := by
        rw [message]
        exact byteAt_take (Nat.lt_of_lt_of_le (by decide) (Nat.le_add_right _ _))
      refine ⟨⟨?_, ?_, .inr ⟨by rw [first, channel], by rw [whole, body]⟩⟩, ?_⟩
      · simp [whole]
      · rw [whole]
        omega
      · simp [← value, padded, first, channel, whole, ← message]
    · cases classified

variable {message : List UInt8}

theorem encodeStreamFrame_message (sound : Message message) :
    encodeStreamFrame message = .ok (padded message) := by
  have lengths : ¬ (message.length < channelDataHeaderLen ∨ maxTurnDatagram < message.length) := by
    have := sound.header
    have := sound.short
    omega
  unfold encodeStreamFrame classifyDatagram padded
  rw [if_neg lengths]
  rcases sound.kind with ⟨stun, divides, whole, cookie⟩ | ⟨channel, whole⟩
  · have other : ¬ byteAt message 0 >>> 6 = 1 := by
      simp [stun]
    have opening : ¬ (message.length < stunHeaderLen ∨ slice message 4 4 ≠ stunMagicCookie) :=
      not_or.mpr ⟨by omega, not_not.mpr cookie⟩
    have body : ¬ (bodyLen message % 4 ≠ 0 ∨ message.length ≠ stunHeaderLen + bodyLen message) :=
      not_or.mpr ⟨not_not.mpr divides, not_not.mpr whole⟩
    rw [if_pos stun, if_neg opening, if_neg body, if_neg other]
    simp [← whole]
  · have other : ¬ byteAt message 0 >>> 6 = 0 := by
      simp [channel]
    have opening : ¬ (message.length ≠ channelDataHeaderLen + bodyLen message ∧
        message.length ≠ roundUpToFour (channelDataHeaderLen + bodyLen message)) :=
      fun differs => differs.1 whole
    rw [if_neg other, if_pos channel, if_pos channel]
    show (if _ then _ else _ : Except FrameError DatagramFrame).bind _ = _
    rw [if_neg opening]
    show Except.ok (padTo (roundUpToFour (channelDataHeaderLen + bodyLen message))
      (message.take (channelDataHeaderLen + bodyLen message))) = _
    simp [← whole]

/-! ### Reading -/

variable {back : List UInt8} {incoming : Incoming UInt8}

/-- **A message that was sent is read back**, whatever comes after it. -/
theorem readStreamFrame_meets (sound : Message message)
    (arrives : incoming.bytes = padded message ++ back) :
    Procedure.Meets readStreamFrame incoming (fun frame rest => frame = message ∧ rest.bytes = back)
      (fun _ _ => False) := by
  have long := sound.header
  have short := sound.short
  have header : (message.take channelDataHeaderLen).length = channelDataHeaderLen := by
    rw [length_take]
    omega
  have first : byteAt (message.take channelDataHeaderLen) 0 = byteAt message 0 :=
    byteAt_take (by decide)
  have body : bodyLen (message.take channelDataHeaderLen) = bodyLen message := bodyLen_take (by decide)
  have parts : message.take channelDataHeaderLen ++ message.drop channelDataHeaderLen = message :=
    List.take_append_drop _ _
  rcases sound.kind with ⟨stun, divides, whole, cookie⟩ | ⟨channel, whole⟩
  · have other : ¬ byteAt message 0 >>> 6 = 1 := by
      simp [stun]
    have plain : padded message = message := if_neg other
    rw [plain, ← parts, append_assoc] at arrives
    refine .bind (readExact_meets _ arrives header) ?_
    rintro _ between ⟨rfl, bytes⟩
    rw [first, body, if_pos stun]
    refine .refuses (fun refused => ?_) fun _ => ?_
    · rcases refused with odd | wide
      · exact odd divides
      · omega
    have size : (message.drop channelDataHeaderLen).length =
        stunHeaderLen + bodyLen message - channelDataHeaderLen := by
      simp [whole]
    refine .bind (readExact_meets _ bytes size) ?_
    rintro _ last ⟨rfl, bytes⟩
    rw [parts]
    exact .refuses (fun wrong => wrong cookie) fun _ => .pure ⟨rfl, bytes⟩
  · have other : ¬ byteAt message 0 >>> 6 = 0 := by
      simp [channel]
    have wide : padded message = message.take channelDataHeaderLen ++
        (message.drop channelDataHeaderLen ++
          List.replicate (roundUpToFour message.length - message.length) 0) := by
      rw [← append_assoc, parts]
      exact if_pos channel
    rw [wide, append_assoc] at arrives
    refine .bind (readExact_meets _ arrives header) ?_
    rintro _ between ⟨rfl, bytes⟩
    rw [first, body, if_neg other, if_pos channel]
    refine .refuses (fun refused => by omega) fun _ => ?_
    have up := le_roundUpToFour message.length
    have size : (message.drop channelDataHeaderLen ++
          List.replicate (roundUpToFour message.length - message.length) 0).length =
        roundUpToFour (channelDataHeaderLen + bodyLen message) - channelDataHeaderLen := by
      rw [length_append, List.length_drop, List.length_replicate, ← whole]
      omega
    refine .bind (readExact_meets _ bytes size) ?_
    rintro _ last ⟨rfl, bytes⟩
    refine .pure ⟨?_, bytes⟩
    rw [← append_assoc, parts, ← whole, take_left]

/-- **One message after the other**, to the end of the stream. -/
theorem readFrames_meets {messages : List (List UInt8)} (sound : ∀ message ∈ messages, Message message)
    (arrives : incoming.bytes = (messages.map padded).flatten) :
    Procedure.Meets (readFrames messages.length) incoming
      (fun frames rest => frames = messages ∧ rest.bytes = []) (fun _ _ => False) := by
  induction messages generalizing incoming with
  | nil => exact .pure ⟨rfl, arrives⟩
  | cons message messages ih =>
    rw [List.map_cons, List.flatten_cons] at arrives
    refine .bind (readStreamFrame_meets (sound message (.head _)) arrives) ?_
    rintro _ between ⟨rfl, bytes⟩
    refine .bind (ih (List.forall_mem_cons.mp sound).2 bytes) ?_
    rintro _ last ⟨rfl, ended⟩
    exact .pure ⟨rfl, ended⟩

theorem byteAt_append_left {front : List UInt8} {index : Nat} (inside : index < front.length) :
    byteAt (front ++ back) index = byteAt front index := by
  rw [← byteAt_take inside, take_left]

theorem bodyLen_append {front : List UInt8} (inside : 4 ≤ front.length) :
    bodyLen (front ++ back) = bodyLen front := by
  rw [← bodyLen_take inside, take_left]

/-- **What is read is a message.** -/
theorem readStreamFrame_message (incoming : Incoming UInt8) :
    Procedure.Meets readStreamFrame incoming (fun frame _ => Message frame) (fun _ _ => True) := by
  refine .bind (readExact_answers _ _ incoming) ?_
  rintro header between ⟨-, size⟩
  have inside : 0 < header.length := by
    rw [size]
    decide
  refine .ite (fun stun => ?_) fun _ => .ite (fun channel => ?_) fun _ => .fail trivial
  · refine .refuses (fun _ => trivial) fun bounds => ?_
    obtain ⟨divides, short⟩ := not_or.mp bounds
    refine .bind (readExact_answers _ _ between) ?_
    rintro rest last ⟨-, whole⟩
    refine .refuses (fun _ => trivial) fun cookie => .pure ?_
    have length : (header ++ rest).length = stunHeaderLen + bodyLen header := by
      rw [length_append, whole, size]
      have : channelDataHeaderLen ≤ stunHeaderLen := by decide
      omega
    refine ⟨?_, ?_, .inl ⟨?_, ?_, ?_, not_not.mp cookie⟩⟩
    · rw [length_append]
      omega
    · omega
    · rw [byteAt_append_left inside, stun]
    · simp [bodyLen_append (le_of_eq size.symm), not_not.mp divides]
    · rw [bodyLen_append (le_of_eq size.symm), length]
  · refine .refuses (fun _ => trivial) fun short => ?_
    refine .bind (readExact_answers _ _ between) ?_
    rintro rest last ⟨-, whole⟩
    refine .pure ?_
    have up := le_roundUpToFour (channelDataHeaderLen + bodyLen header)
    have length : ((header ++ rest).take (channelDataHeaderLen + bodyLen header)).length =
        channelDataHeaderLen + bodyLen header := by
      rw [length_take, length_append, whole, size]
      omega
    have header : 4 ≤ channelDataHeaderLen + bodyLen header := Nat.le_add_right _ _
    refine ⟨by omega, by omega, .inr ⟨?_, ?_⟩⟩
    · rw [byteAt_take (by omega), byteAt_append_left inside, channel]
    · rw [length, bodyLen_take header, bodyLen_append (le_of_eq size.symm)]

/-- **TURN over a stream loses nothing.** Datagrams that are all accepted, encoded one after the other
and arriving in pieces of any sizes, are read back as the list of their messages, with nothing left on the
stream; and whatever is read from a stream is a datagram that is accepted, whose encoding is read as the
same message, and that is no longer than a datagram may be. -/
theorem stream_lossless :
    (∀ (datagrams encodings : List (List UInt8)) (incoming : Incoming UInt8),
      datagrams.map encodeStreamFrame = encodings.map .ok → incoming.bytes = encodings.flatten →
      ∃ rest, readFrames datagrams.length incoming = (rest, .ok (datagrams.map messageOf)) ∧
        rest.bytes = []) ∧
      ∀ (incoming rest : Incoming UInt8) (frame : List UInt8),
        readStreamFrame incoming = (rest, .ok frame) →
        frame.length ≤ maxTurnDatagram ∧ ∃ encoded, encodeStreamFrame frame = .ok encoded ∧
          ∀ again : Incoming UInt8, again.bytes = encoded →
            ∃ rest, readStreamFrame again = (rest, .ok frame) ∧ rest.bytes = [] := by
  constructor
  · intro datagrams encodings incoming accepted arrives
    have each : ∀ datagram ∈ datagrams, Message (messageOf datagram) ∧
        encodeStreamFrame datagram = .ok (padded (messageOf datagram)) := by
      intro datagram listed
      have taken : encodeStreamFrame datagram ∈ encodings.map .ok :=
        accepted ▸ List.mem_map_of_mem listed
      obtain ⟨encoded, -, is⟩ := mem_map.mp taken
      obtain ⟨message, rfl⟩ := encodeStreamFrame_ok is.symm
      exact ⟨message, is.symm⟩
    have sent : encodings = (datagrams.map messageOf).map padded := by
      have inject : Function.Injective (Except.ok : List UInt8 → Except FrameError (List UInt8)) :=
        fun _ _ => Except.ok.inj
      refine inject.list_map ?_
      simpa [← accepted] using List.map_congr_left fun datagram listed => (each datagram listed).2
    have messages : ∀ message ∈ datagrams.map messageOf, Message message := by
      intro message listed
      obtain ⟨datagram, among, rfl⟩ := mem_map.mp listed
      exact (each datagram among).1
    have read := readFrames_meets messages (sent ▸ arrives)
    rw [List.length_map] at read
    obtain ⟨rest, value, ran, rfl, ended⟩ := read.total
    exact ⟨rest, ran, ended⟩
  · intro incoming rest frame read
    have message := (readStreamFrame_message incoming).ok read
    refine ⟨message.short, padded frame, encodeStreamFrame_message message, fun again arrives => ?_⟩
    have back := readStreamFrame_meets message (arrives.trans (List.append_nil _).symm)
    obtain ⟨rest, value, ran, rfl, ended⟩ := back.total
    exact ⟨rest, ran, ended⟩

/-- A binding request without attributes. -/
def bindingRequest : List UInt8 := [0, 1, 0, 0] ++ stunMagicCookie ++ List.replicate 12 7

/-- A ChannelData message with one byte, sent without padding. -/
def channelByte : List UInt8 := [0x40, 0, 0, 1, 9]

theorem stream_lossless_two_datagrams :
    (∃ rest, readFrames 2 ⟨[bindingRequest ++ [0x40], [0, 0, 1], [9, 0, 0, 0]], by decide⟩ =
        (rest, .ok [bindingRequest, channelByte]) ∧ rest.bytes = []) ∧
      ∃ encoded, encodeStreamFrame channelByte = .ok encoded ∧
        ∀ again : Incoming UInt8, again.bytes = encoded →
          ∃ rest, readStreamFrame again = (rest, .ok channelByte) ∧ rest.bytes = [] :=
  ⟨stream_lossless.1 [bindingRequest, channelByte] [bindingRequest, channelByte ++ [0, 0, 0]]
      ⟨[bindingRequest ++ [0x40], [0, 0, 1], [9, 0, 0, 0]], by decide⟩ (by decide) (by decide),
    (stream_lossless.2 ⟨[channelByte ++ [0, 0, 0]], by decide⟩ ⟨[], by decide⟩ channelByte rfl).2⟩

end MiniRemoteDesktop.Turn
