/-
**The reassemblers of media frames and access units** (`mrd-transport-quic-quinn`).

A reassembler keeps the frames it has seen some fragments of. Both of them share the table, the
expiry of frames that have not grown for a while, the eviction of the oldest frames beyond a limit,
and the completion of a frame; `pushFragment` is different in each, because they check the byte limit
and a repeated fragment at different points.

* `pruneExpiredAt`, `enforcePendingLimit`, `completeFrame` — the shared parts, over any metadata.
* `QuicMediaReassembler.pushFragment`, `QuicAuReassembler.pushFragment` — one datagram.

The hash map of the source iterates in an order of its own, which decides among frames of the same
age: `tie` is that choice. Sums of lengths of buffers that are held at once do not reach the end of
`usize` and are natural numbers here.
-/

import MiniRemoteDesktop.Lib.Table
import MiniRemoteDesktop.Proto
import MiniRemoteDesktop.Quic.Datagram

namespace MiniRemoteDesktop.Quic

/-! ### The state -/

structure QuicAuReassemblerConfig where
  (frameTimeout maxPendingFrames : Nat)

structure QuicAuReassemblerStats where
  (completedFrames expiredFrames evictedFrames duplicateFragments rejectedFragments : Nat)

/-- `PendingMediaFrame` and `PendingFrame`. -/
structure PendingFrame (μ : Type) where
  info : μ
  fragmentCount : UInt16
  (createdAt updatedAt : Nat)
  fragments : AList fun _ : UInt16 => List UInt8

/-- `QuicMediaFrame` and `QuicAuFrame`. -/
structure CompletedFrame (μ : Type) where
  frameId : UInt32
  info : μ
  payload : List UInt8

abbrev QuicMediaFrame := CompletedFrame MediaInfo

abbrev QuicAuFrame := CompletedFrame AuInfo

def QuicMediaFrame.isKeyframe (frame : QuicMediaFrame) : Bool :=
  frame.info.flags &&& quicMediaV3FlagKeyframe != 0

abbrev Pending (μ : Type) := AList fun _ : UInt32 => PendingFrame μ

/-- `QuicMediaReassembler` and `QuicAuReassembler`. -/
structure Reassembler (μ : Type) where
  config : QuicAuReassemblerConfig
  stats : QuicAuReassemblerStats
  pending : Pending μ
  (maxFrameBytes maxTotalBytes : Option Nat)

/-- What a call answers. `panicked` stands for a failed index or `expect`. -/
inductive Pushed (μ : Type)
  | incomplete
  | completed (frame : CompletedFrame μ)
  | failed (error : QuinnTransportError)
  | panicked

/-- Which of the frames of the same age the hash map lists first. -/
abbrev Tie := List UInt32 → UInt32

/-- `limit.is_some_and(|limit| total > limit)`. -/
def exceeds (limit : Option Nat) (total : Nat) : Prop := ∃ bound ∈ limit, bound < total

instance (limit : Option Nat) (total : Nat) : Decidable (exceeds limit total) :=
  match limit with
  | none => .isFalse fun ⟨_, absent, _⟩ => nomatch absent
  | some bound =>
    decidable_of_iff (bound < total)
      ⟨fun above => ⟨bound, rfl, above⟩, fun ⟨_, present, above⟩ => Option.some.inj present ▸ above⟩

variable {μ : Type}

namespace PendingFrame

def new (fragment : Fragment μ) (now : Nat) : PendingFrame μ where
  info := fragment.info
  fragmentCount := fragment.fragmentCount
  createdAt := now
  updatedAt := now
  fragments := ∅

/-- The bytes that are kept for the frame. -/
def bytes (frame : PendingFrame μ) : Nat := Table.weigh List.length frame.fragments

/-- The payload of a frame that has as many fragments as it counts. -/
def payload (frame : PendingFrame μ) (missing : String) : Except QuinnTransportError (List UInt8) := do
  let parts ← (List.range frame.fragmentCount.toNat).mapM fun index =>
    match frame.fragments.lookup (UInt16.ofNat index) with
    | some chunk => .ok chunk
    | none => .error (.message missing)
  return parts.flatten

end PendingFrame

namespace Reassembler

def new (config : QuicAuReassemblerConfig) : Reassembler μ where
  config := config
  stats := ⟨0, 0, 0, 0, 0⟩
  pending := ∅
  maxFrameBytes := none
  maxTotalBytes := none

def pendingBytes (reassembler : Reassembler μ) : Nat :=
  Table.weigh PendingFrame.bytes reassembler.pending

/-! ### Counters -/

def reject (reassembler : Reassembler μ) : Reassembler μ :=
  { reassembler with
    stats.rejectedFragments := saturatingAdd reassembler.stats.rejectedFragments 1 }

def countDuplicate (reassembler : Reassembler μ) : Reassembler μ :=
  { reassembler with
    stats.duplicateFragments := saturatingAdd reassembler.stats.duplicateFragments 1 }

def countCompleted (reassembler : Reassembler μ) : Reassembler μ :=
  { reassembler with
    stats.completedFrames := saturatingAdd reassembler.stats.completedFrames 1 }

def remove (reassembler : Reassembler μ) (frameId : UInt32) : Reassembler μ :=
  { reassembler with pending := reassembler.pending.erase frameId }

/-! ### Expiry -/

def expiredFrames (reassembler : Reassembler μ) (now : Nat) : List UInt32 :=
  (reassembler.pending.entries.filter fun entry =>
    reassembler.config.frameTimeout ≤ now - entry.2.updatedAt).map Sigma.fst

def expire (reassembler : Reassembler μ) (frameId : UInt32) : Reassembler μ :=
  match reassembler.pending.lookup frameId with
  | none => reassembler.remove frameId
  | some _ =>
    { reassembler.remove frameId with
      stats.expiredFrames := saturatingAdd reassembler.stats.expiredFrames 1 }

def pruneExpiredAt (reassembler : Reassembler μ) (now : Nat) : Reassembler μ :=
  if reassembler.config.frameTimeout = 0 then reassembler
  else (reassembler.expiredFrames now).foldl expire reassembler

/-! ### Eviction -/

/-- The frames with the least `created_at`. -/
def oldestFrames (pending : Pending μ) : List UInt32 :=
  (pending.entries.filter fun entry =>
    pending.entries.all fun other => entry.2.createdAt ≤ other.2.createdAt).map Sigma.fst

/-- `pending.iter().min_by_key(created_at)`. -/
def oldestFrame (tie : Tie) (pending : Pending μ) : Option UInt32 :=
  match oldestFrames pending with
  | [] => none
  | first :: rest =>
    if tie (first :: rest) ∈ first :: rest then some (tie (first :: rest)) else some first

def evict (reassembler : Reassembler μ) (frameId : UInt32) : Reassembler μ :=
  { reassembler.remove frameId with
    stats.evictedFrames := saturatingAdd reassembler.stats.evictedFrames 1 }

/-- The condition of the eviction loop. -/
def overLimit (reassembler : Reassembler μ) : Prop :=
  max reassembler.config.maxPendingFrames 1 < reassembler.pending.entries.length ∨
    exceeds reassembler.maxTotalBytes reassembler.pendingBytes

instance (reassembler : Reassembler μ) : Decidable reassembler.overLimit :=
  inferInstanceAs (Decidable (_ ∨ _))

variable {pending : Pending μ}

theorem mem_oldestFrame {tie : Tie} {frameId : UInt32}
    (oldest : oldestFrame tie pending = some frameId) : frameId ∈ pending := by
  have listed : frameId ∈ oldestFrames pending := by
    unfold oldestFrame at oldest
    cases candidates : oldestFrames pending with
    | nil =>
      simp [candidates] at oldest
    | cons first rest =>
      rw [candidates] at oldest
      simp only at oldest
      split at oldest
      · cases oldest
        assumption
      · cases oldest
        exact (.head _)
  obtain ⟨entry, member, rfl⟩ := List.mem_map.mp listed
  exact AList.mem_keys.mpr (List.mem_map.mpr ⟨entry, (List.mem_filter.mp member).1, rfl⟩)

theorem length_erase_lt {frameId : UInt32} (member : frameId ∈ pending) :
    (pending.erase frameId).entries.length < pending.entries.length := by
  obtain ⟨frame, found⟩ := Option.isSome_iff_exists.mp (AList.lookup_isSome.mpr member)
  have weighed := Table.weigh_erase (fun _ => 1) found
  rw [Table.length_entries, Table.length_entries]
  omega

/-- Evict the oldest frames while there are too many frames or bytes. -/
def enforcePendingLimit (tie : Tie) (reassembler : Reassembler μ) : Reassembler μ :=
  if reassembler.overLimit then
    match _oldest : oldestFrame tie reassembler.pending with
    | none => reassembler
    | some frameId => enforcePendingLimit tie (reassembler.evict frameId)
  else reassembler
termination_by reassembler.pending.entries.length
decreasing_by exact length_erase_lt (mem_oldestFrame _oldest)

def pruneExpired (reassembler : Reassembler μ) (now : Nat) (tie : Tie) : Reassembler μ :=
  (reassembler.pruneExpiredAt now).enforcePendingLimit tie

/-! ### Completion -/

/-- The end of both `push_fragment`: hand the frame out once it has all its fragments. -/
def completeFrame (missing : String) (reassembler : Reassembler μ) (frameId : UInt32) :
    Pushed μ × Reassembler μ :=
  if frameId ∉ reassembler.pending then (.incomplete, reassembler)
  else
    match reassembler.pending.lookup frameId with
    | none => (.panicked, reassembler)
    | some frame =>
      if frame.fragments.entries.length ≠ frame.fragmentCount.toNat then (.incomplete, reassembler)
      else if frame.fragmentCount = 1 then
        match frame.fragments.entries with
        | [] => (.panicked, reassembler.remove frameId)
        | only :: _ =>
          (.completed ⟨frameId, frame.info, only.2⟩, (reassembler.remove frameId).countCompleted)
      else
        match frame.payload missing with
        | .error error => (.failed error, reassembler.remove frameId)
        | .ok payload =>
          (.completed ⟨frameId, frame.info, payload⟩, (reassembler.remove frameId).countCompleted)

end Reassembler

/-! ### Pushing a fragment -/

open Reassembler

/-- The frame of the fragment, with the fragment added. -/
def PendingFrame.add (frame : PendingFrame μ) (fragment : Fragment μ) (now : Nat) : PendingFrame μ :=
  { frame with
    updatedAt := now
    fragments := frame.fragments.insert fragment.fragmentIndex fragment.payload }

namespace QuicMediaReassembler

abbrev Self := Reassembler MediaInfo

def frameLimit : QuinnTransportError :=
  .message "media v3 frame exceeds configured reassembly byte limit"

/-- The part of `push_fragment` after the byte limit was checked. -/
def insertFragment (reassembler : Self) (fragment : QuicMediaFragment) (now : Nat) (tie : Tie) :
    Pushed MediaInfo × Self :=
  let entry := (reassembler.pending.lookup fragment.frameId).getD (.new fragment now)
  if entry.info ≠ fragment.info ∨ entry.fragmentCount ≠ fragment.fragmentCount then
    (.failed (.message "inconsistent media v3 fragment metadata for frame"),
      (reassembler.remove fragment.frameId).reject)
  else
    let inserted : Self :=
      { reassembler with
        pending := reassembler.pending.insert fragment.frameId (entry.add fragment now) }
    completeFrame "missing media v3 fragment during reassembly" (inserted.enforcePendingLimit tie)
      fragment.frameId

def pushFragment (reassembler : Self) (decoded : Except QuinnTransportError QuicMediaFragment)
    (now : Nat) (tie : Tie) : Pushed MediaInfo × Self :=
  let pruned := reassembler.pruneExpiredAt now
  match decoded with
  | .error error => (.failed error, pruned.reject)
  | .ok fragment =>
    match pruned.pending.lookup fragment.frameId with
    | some existing =>
      if fragment.fragmentIndex ∈ existing.fragments then (.incomplete, pruned.countDuplicate)
      else if exceeds pruned.maxFrameBytes (existing.bytes + fragment.payload.length) then
        (.failed frameLimit, (pruned.remove fragment.frameId).reject)
      else insertFragment pruned fragment now tie
    | none =>
      if exceeds pruned.maxFrameBytes fragment.payload.length then
        (.failed frameLimit, pruned.reject)
      else insertFragment pruned fragment now tie

def pushDatagram (reassembler : Self) (datagram : List UInt8) (now : Nat) (tie : Tie) :
    Pushed MediaInfo × Self :=
  pushFragment reassembler (QuicMediaFragment.decode datagram) now tie

def pushDatagramOwned (reassembler : Self) (datagram : List UInt8) (now : Nat) (tie : Tie) :
    Pushed MediaInfo × Self :=
  pushFragment reassembler (QuicMediaFragment.decodeOwned datagram) now tie

end QuicMediaReassembler

namespace QuicAuReassembler

abbrev Self := Reassembler AuInfo

/-- The check of the byte limit, after the fragment was added. -/
def checkFrameBytes (reassembler : Self) (frameId : UInt32) (tie : Tie) : Pushed AuInfo × Self :=
  match reassembler.maxFrameBytes, reassembler.pending.lookup frameId with
  | some _, none => (.panicked, reassembler)
  | some limit, some frame =>
    if limit < frame.bytes then
      (.failed (.message "legacy frame exceeds configured reassembly byte limit"),
        (reassembler.remove frameId).reject)
    else
      completeFrame "missing fragment during reassembly" (reassembler.enforcePendingLimit tie) frameId
  | none, _ =>
    completeFrame "missing fragment during reassembly" (reassembler.enforcePendingLimit tie) frameId

def pushFragment (reassembler : Self) (decoded : Except QuinnTransportError QuicAuFragment)
    (now : Nat) (tie : Tie) : Pushed AuInfo × Self :=
  let pruned := reassembler.pruneExpiredAt now
  match decoded with
  | .error error => (.failed error, pruned)
  | .ok fragment =>
    let entry := (pruned.pending.lookup fragment.frameId).getD (.new fragment now)
    if entry.info ≠ fragment.info ∨ entry.fragmentCount ≠ fragment.fragmentCount then
      (.failed (.message "inconsistent fragment metadata for frame"),
        (pruned.remove fragment.frameId).reject)
    else if fragment.fragmentIndex ∈ entry.fragments then
      let touched : Self :=
        { pruned with
          pending := pruned.pending.insert fragment.frameId { entry with updatedAt := now } }
      (.incomplete, touched.countDuplicate)
    else
      let inserted : Self :=
        { pruned with
          pending := pruned.pending.insert fragment.frameId (entry.add fragment now) }
      checkFrameBytes inserted fragment.frameId tie

def pushDatagram (reassembler : Self) (datagram : List UInt8) (now : Nat) (tie : Tie) :
    Pushed AuInfo × Self :=
  pushFragment reassembler (QuicAuFragment.decode datagram) now tie

def pushDatagramOwned (reassembler : Self) (datagram : List UInt8) (now : Nat) (tie : Tie) :
    Pushed AuInfo × Self :=
  pushFragment reassembler (QuicAuFragment.decodeOwned datagram) now tie

end QuicAuReassembler

/-! ### Sequences of calls -/

/-- The two ways into a reassembler, and the decoder behind them. -/
structure Format (μ : Type) where
  decode : List UInt8 → Except QuinnTransportError (Fragment μ)
  (pushDatagram pushDatagramOwned : Reassembler μ → List UInt8 → Nat → Tie → Pushed μ × Reassembler μ)

def mediaFormat : Format MediaInfo where
  decode := QuicMediaFragment.decode
  pushDatagram := QuicMediaReassembler.pushDatagram
  pushDatagramOwned := QuicMediaReassembler.pushDatagramOwned

def auFormat : Format AuInfo where
  decode := QuicAuFragment.decode
  pushDatagram := QuicAuReassembler.pushDatagram
  pushDatagramOwned := QuicAuReassembler.pushDatagramOwned

/-- A call of the reassembler, with the time it reads and the order its hash map iterates in. -/
inductive Call
  | pushDatagram (datagram : List UInt8) (now : Nat) (tie : Tie)
  | pushDatagramOwned (datagram : List UInt8) (now : Nat) (tie : Tie)
  | pruneExpired (now : Nat) (tie : Tie)

/-- The datagram that a call pushes. -/
def Call.datagram : Call → Option (List UInt8)
  | .pushDatagram datagram _ _ | .pushDatagramOwned datagram _ _ => some datagram
  | .pruneExpired _ _ => none

def Call.now : Call → Nat
  | .pushDatagram _ now _ | .pushDatagramOwned _ now _ | .pruneExpired now _ => now

/-- One call; only a push answers. -/
def Format.perform (format : Format μ) (reassembler : Reassembler μ) :
    Call → Option (Pushed μ) × Reassembler μ
  | .pushDatagram datagram now tie =>
    let pushed := format.pushDatagram reassembler datagram now tie
    (some pushed.1, pushed.2)
  | .pushDatagramOwned datagram now tie =>
    let pushed := format.pushDatagramOwned reassembler datagram now tie
    (some pushed.1, pushed.2)
  | .pruneExpired now tie => (none, reassembler.pruneExpired now tie)

/-- The reassembler after a sequence of calls. -/
def Format.after (format : Format μ) (reassembler : Reassembler μ) (calls : List Call) :
    Reassembler μ :=
  calls.foldl (fun state call => (format.perform state call).2) reassembler

/-- What a sequence of calls answers, call by call. -/
def Format.answers (format : Format μ) (reassembler : Reassembler μ) :
    List Call → List (Option (Pushed μ))
  | [] => []
  | call :: rest =>
    (format.perform reassembler call).1 ::
      format.answers (format.perform reassembler call).2 rest

end MiniRemoteDesktop.Quic
