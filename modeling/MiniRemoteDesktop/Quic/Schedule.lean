/-
**Schedules of the fragments of one frame.**

The datagrams of a frame arrive in any order, some of them more than once, between datagrams of other
frames. What counts for the frame is which of its fragments have come.

* `Delivers` — the frame is handed out once, by `last`.
* `Sent.delivers` — **every schedule of sent datagrams delivers the frame**, for any sound format.

`Collected` is the invariant: the pending frame holds exactly the fragments that have come.
-/

import MiniRemoteDesktop.Quic.Push

namespace MiniRemoteDesktop.Quic

open Reassembler Table

variable {μ : Type}

/-! ### Schedules -/

/-- The call pushes one of the datagrams. -/
def Call.Pushes (call : Call) (datagrams : List (List UInt8)) : Prop :=
  ∃ datagram ∈ datagrams, call.datagram = some datagram

/-- The call is about other frames: it pushes none of the datagrams, and no fragment of the frame. -/
structure Format.Foreign (format : Format μ) (frameId : UInt32) (datagrams : List (List UInt8))
    (call : Call) : Prop where
  other : ¬ call.Pushes datagrams
  apart (datagram : List UInt8) (fragment : Fragment μ) (pushed : call.datagram = some datagram)
    (decoded : format.decode datagram = .ok fragment) : fragment.frameId ≠ frameId

/-- At this call the frame does not expire, and with the frame of the pushed fragment there are not
more frames pending than may be. -/
structure Format.Undisturbed (format : Format μ) (frameId : UInt32) (reassembler : Reassembler μ)
    (call : Call) : Prop where
  kept : frameId ∉ reassembler.expiring call.now
  few : reassembler.pending.entries.length ≤ max reassembler.config.maxPendingFrames 1
  room (datagram : List UInt8) (fragment : Fragment μ) (pushed : call.datagram = some datagram)
    (decoded : format.decode datagram = .ok fragment) :
    ((reassembler.pruneExpiredAt call.now).pending.insert fragment.frameId
      ((reassembler.pruneExpiredAt call.now).entryOf fragment call.now)).entries.length ≤
        max reassembler.config.maxPendingFrames 1

/-- **A schedule of the datagrams of a frame.** -/
structure Schedule (format : Format μ) (frameId : UInt32) (datagrams : List (List UInt8))
    (reassembler : Reassembler μ) (before : List Call) (last : Call) (rest : List Call) : Prop where
  fresh : reassembler.pending.lookup frameId = none
  frameBytes : reassembler.maxFrameBytes = none
  totalBytes : reassembler.maxTotalBytes = none
  /-- Before the frame is complete, its datagrams may be repeated. -/
  early : ∀ call ∈ before, call.Pushes datagrams ∨ format.Foreign frameId datagrams call
  missing : last.Pushes datagrams ∧ ∀ call ∈ before, call.datagram ≠ last.datagram
  all : ∀ datagram ∈ datagrams, last.datagram = some datagram ∨
    ∃ call ∈ before, call.datagram = some datagram
  late : ∀ call ∈ rest, format.Foreign frameId datagrams call
  undisturbed : ∀ done call todo, before ++ last :: rest = done ++ call :: todo →
    format.Undisturbed frameId (format.after reassembler done) call

/-- The completed frame of that number in an answer. -/
def completedFrame (frameId : UInt32) : Option (Pushed μ) → Option (CompletedFrame μ)
  | some (.completed frame) => if frame.frameId = frameId then some frame else none
  | _ => none

/-- **The frame is handed out once, by `last`.** -/
structure Format.Delivers (format : Format μ) (frame : CompletedFrame μ)
    (reassembler : Reassembler μ) (before : List Call) (last : Call) (rest : List Call) : Prop where
  onLast : (format.perform (format.after reassembler before) last).1 = some (.completed frame)
  once : (format.answers reassembler (before ++ last :: rest)).filterMap
    (completedFrame frame.frameId) = [frame]

/-- **The round trip of a frame**: its datagrams are small enough, and every schedule delivers it. -/
structure Format.RoundTrips (format : Format μ) (frame : CompletedFrame μ)
    (datagrams : List (List UInt8)) (maxDatagramSize : Nat) : Prop where
  sizes : ∀ datagram ∈ datagrams, datagram.length ≤ maxDatagramSize
  delivers (reassembler : Reassembler μ) (before : List Call) (last : Call) (rest : List Call)
    (schedule : Schedule format frame.frameId datagrams reassembler before last rest) :
    format.Delivers frame reassembler before last rest

/-! ### The fragments of a frame -/

/-- The fragments of a frame whose payload is cut into `parts`. -/
def fragmentsOf (frame : CompletedFrame μ) (parts : List (List UInt8)) : List (Fragment μ) :=
  parts.mapIdx fun index part =>
    ⟨frame.frameId, frame.info, UInt16.ofNat index, UInt16.ofNat parts.length, part⟩

/-- **The datagrams decode to the fragments of the frame.** -/
structure Sent (format : Format μ) (frame : CompletedFrame μ) (parts datagrams : List (List UInt8)) :
    Prop where
  few : parts.length < 2 ^ 16
  whole : parts.flatten = frame.payload
  decoded : datagrams.map format.decode = (fragmentsOf frame parts).map .ok

variable {format : Format μ} {frame : CompletedFrame μ} {parts datagrams : List (List UInt8)}
  {reassembler : Reassembler μ}

theorem mem_fragmentsOf {fragment : Fragment μ} :
    fragment ∈ fragmentsOf frame parts ↔ ∃ index part, parts[index]? = some part ∧
      fragment = ⟨frame.frameId, frame.info, UInt16.ofNat index, UInt16.ofNat parts.length, part⟩ := by
  unfold fragmentsOf
  rw [List.mem_mapIdx]
  constructor
  · rintro ⟨index, inside, rfl⟩
    exact ⟨index, _, List.getElem?_eq_getElem inside, rfl⟩
  · rintro ⟨index, part, found, rfl⟩
    obtain ⟨inside, rfl⟩ := List.getElem?_eq_some_iff.mp found
    exact ⟨index, inside, rfl⟩

theorem nodup_fragmentIndex (few : parts.length < 2 ^ 16) :
    ((fragmentsOf frame parts).map Fragment.fragmentIndex).Nodup := by
  have places : (fragmentsOf frame parts).map Fragment.fragmentIndex =
      (List.range parts.length).map UInt16.ofNat := by
    refine List.ext_getElem ?_ ?_
    · simp [fragmentsOf]
    · intro index _ _
      simp [fragmentsOf]
  rw [places]
  exact PendingFrame.nodup_ofNat few

theorem fragmentsOf_index (few : parts.length < 2 ^ 16) {first second : Fragment μ}
    (member : first ∈ fragmentsOf frame parts) (also : second ∈ fragmentsOf frame parts)
    (same : first.fragmentIndex = second.fragmentIndex) : first = second :=
  List.inj_on_of_nodup_map (nodup_fragmentIndex few) member also same

namespace Sent

/-- A datagram of the frame decodes to a fragment of it. -/
theorem fragment (sent : Sent format frame parts datagrams) {datagram : List UInt8}
    (member : datagram ∈ datagrams) :
    ∃ fragment ∈ fragmentsOf frame parts, format.decode datagram = .ok fragment := by
  have listed : format.decode datagram ∈ datagrams.map format.decode :=
    List.mem_map_of_mem member
  rw [sent.decoded] at listed
  obtain ⟨fragment, among, same⟩ := List.mem_map.mp listed
  exact ⟨fragment, among, same.symm⟩

theorem datagram (sent : Sent format frame parts datagrams) {fragment : Fragment μ}
    (member : fragment ∈ fragmentsOf frame parts) :
    ∃ datagram ∈ datagrams, format.decode datagram = .ok fragment := by
  have listed : .ok fragment ∈ (fragmentsOf frame parts).map (Except.ok (ε := QuinnTransportError)) :=
    List.mem_map_of_mem member
  rw [← sent.decoded] at listed
  exact List.mem_map.mp listed

/-- Different datagrams of the frame decode to different fragments. -/
theorem decode_injective (sent : Sent format frame parts datagrams) {first second : List UInt8}
    {fragment : Fragment μ} (member : first ∈ datagrams) (also : second ∈ datagrams)
    (left : format.decode first = .ok fragment) (right : format.decode second = .ok fragment) :
    first = second := by
  have distinct : (datagrams.map format.decode).Nodup := by
    rw [sent.decoded]
    exact (List.Nodup.of_map _ (nodup_fragmentIndex sent.few)).map (fun _ _ => Except.ok.inj)
  exact List.inj_on_of_nodup_map distinct member also (left.trans right.symm)

end Sent

/-! ### Calls about other frames -/

variable {call : Call}

variable {frameId : UInt32}

/-- The expiry at the beginning of an undisturbed call leaves the frame alone. -/
theorem Format.Undisturbed.lookup_pruned (undisturbed : format.Undisturbed frameId reassembler call) :
    (reassembler.pruneExpiredAt call.now).pending.lookup frameId =
      reassembler.pending.lookup frameId := by
  rw [(reassembler.pruneExpiredAt_pending call.now).1, lookup_eraseAll, if_neg undisturbed.kept]

variable {now : Nat}

/-- With room for the frame of the fragment, nothing is evicted. -/
theorem withFragment_of_room {fragment : Fragment μ} (tie : Tie)
    (unlimited : reassembler.maxTotalBytes = none)
    (room : (reassembler.pending.insert fragment.frameId (reassembler.entryOf fragment
      now)).entries.length ≤ max reassembler.config.maxPendingFrames 1) :
    reassembler.withFragment fragment now tie = { reassembler with
        pending := reassembler.pending.insert fragment.frameId
          ((reassembler.entryOf fragment now).add fragment now) } := by
  refine enforcePendingLimit_within ?_
  rintro (many | ⟨bound, configured, -⟩)
  · rw [length_entries, weigh_insert] at room many
    exact absurd room (not_le.mpr many)
  · simp [unlimited] at configured

/-- **A call about other frames** leaves the frame as it is. -/
theorem Format.Foreign.lookup_perform (sound : format.Sound)
    (foreign : format.Foreign frameId datagrams call)
    (undisturbed : format.Undisturbed frameId reassembler call)
    (unlimited : reassembler.maxTotalBytes = none) :
    (format.perform reassembler call).2.pending.lookup frameId = reassembler.pending.lookup frameId ∧
      SameLimits reassembler (format.perform reassembler call).2 := by
  obtain ⟨erased, pruned⟩ := reassembler.pruneExpiredAt_pending call.now
  rw [← undisturbed.lookup_pruned]
  cases pushed : call.datagram with
  | none =>
    obtain ⟨tie, performed⟩ := format.perform_prune pushed reassembler
    have within : ¬ (reassembler.pruneExpiredAt call.now).overLimit := by
      rintro (many | ⟨bound, configured, -⟩)
      · have fewer : (reassembler.pruneExpiredAt call.now).pending.entries.length ≤
            reassembler.pending.entries.length := by
          simpa [erased, length_entries] using weigh_eraseAll_le _ _ _
        rw [pruned.config] at many
        exact absurd (fewer.trans undisturbed.few) (not_le.mpr many)
      · simp [pruned.total, unlimited] at configured
    rw [performed, pruneExpired, enforcePendingLimit_within within]
    exact ⟨rfl, pruned⟩
  | some datagram =>
    obtain ⟨tie, result, after, performed, effect⟩ := sound.push pushed reassembler
    have apart := foreign.apart datagram
    have room := undisturbed.room datagram
    rw [performed]
    generalize reassembler.pruneExpiredAt call.now = left at erased pruned effect room
    generalize format.decode datagram = decoded at apart room effect
    cases effect with
    | refused pending limits =>
      rw [pending]
      exact ⟨rfl, pruned.trans limits⟩
    | @dropped fragment _ _ pending limits _ =>
      rw [pending, AList.lookup_erase_ne (apart fragment pushed rfl).symm]
      exact ⟨rfl, pruned.trans limits⟩
    | @repeated fragment _ _ _ _ pending limits =>
      refine ⟨?_, pruned.trans limits⟩
      rcases pending with pending | pending
      · rw [pending]
      · rw [pending, AList.lookup_insert_ne (apart fragment pushed rfl).symm]
    | @added fragment missing _ _ _ _ =>
      have different := (apart fragment pushed rfl).symm
      have kept := withFragment_of_room tie (pruned.total.trans unlimited)
        (pruned.config ▸ room fragment pushed rfl)
      obtain ⟨pending, limits, -⟩ :=
        completeFrame_frame missing (left.withFragment fragment call.now tie) fragment.frameId
      have inserted : (left.withFragment fragment call.now tie).pending.lookup frameId =
          left.pending.lookup frameId := by
        rw [kept, AList.lookup_insert_ne different]
      refine ⟨?_, pruned.trans (.trans ?_ limits)⟩
      · rcases pending with pending | pending
        · rw [pending, inserted]
        · rw [pending, AList.lookup_erase_ne different, inserted]
      · simpa [kept] using ⟨rfl, rfl, rfl⟩

/-- A call about other frames does not hand the frame out. -/
theorem Format.Foreign.completedFrame_perform (sound : format.Sound)
    (foreign : format.Foreign frameId datagrams call) (reassembler : Reassembler μ) :
    completedFrame frameId (format.perform reassembler call).1 = none := by
  cases pushed : call.datagram with
  | none =>
    obtain ⟨tie, performed⟩ := format.perform_prune pushed reassembler
    rw [performed]
    rfl
  | some datagram =>
    obtain ⟨tie, result, after, performed, effect⟩ := sound.push pushed reassembler
    have apart := foreign.apart datagram
    rw [performed]
    generalize format.decode datagram = decoded at apart effect
    cases effect with
    | refused | dropped | repeated => rfl
    | @added fragment missing _ _ _ _ =>
      obtain ⟨-, -, own⟩ := completeFrame_frame missing
        ((reassembler.pruneExpiredAt call.now).withFragment fragment call.now tie) fragment.frameId
      generalize completeFrame missing _ fragment.frameId = completion at own
      cases answer : completion.1 with
      | incomplete | failed | panicked => rfl
      | completed frame =>
        simpa [completedFrame, if_neg, own frame answer] using apart fragment pushed rfl

/-! ### The fragments that have come -/

/-- The fragment of the frame at a place, if it is held. -/
def Reassembler.held (reassembler : Reassembler μ) (frameId : UInt32) (index : UInt16) :
    Option (List UInt8) :=
  (reassembler.pending.lookup frameId).bind fun frame => frame.fragments.lookup index

/-- **The pending frame holds exactly the fragments that have come.** -/
structure Collected (frame : CompletedFrame μ) (parts : List (List UInt8)) (come : List (Fragment μ))
    (reassembler : Reassembler μ) : Prop where
  frameBytes : reassembler.maxFrameBytes = none
  totalBytes : reassembler.maxTotalBytes = none
  few : parts.length < 2 ^ 16
  own : come ⊆ fragmentsOf frame parts
  agreed (pending : PendingFrame μ) (found : reassembler.pending.lookup frame.frameId = some pending) :
    pending.info = frame.info ∧ pending.fragmentCount = UInt16.ofNat parts.length
  held (index : UInt16) (payload : List UInt8) :
    reassembler.held frame.frameId index = some payload ↔
      ∃ fragment ∈ come, fragment.fragmentIndex = index ∧ fragment.payload = payload

namespace Collected

variable {come : List (Fragment μ)} {pending : PendingFrame μ}

theorem held_of_pending (found : reassembler.pending.lookup frame.frameId = some pending)
    (index : UInt16) :
    reassembler.held frame.frameId index = pending.fragments.lookup index := by
  rw [Reassembler.held, found]
  rfl

theorem index_lt (few : parts.length < 2 ^ 16) {fragment : Fragment μ}
    (member : fragment ∈ fragmentsOf frame parts) :
    fragment.fragmentIndex < UInt16.ofNat parts.length := by
  obtain ⟨index, part, found, rfl⟩ := mem_fragmentsOf.mp member
  have inside := (List.getElem?_eq_some_iff.mp found).1
  rw [UInt16.lt_iff_toNat_lt, UInt16.toNat_ofNat_of_lt' few,
    UInt16.toNat_ofNat_of_lt' (inside.trans few)]
  exact inside

section

variable (collected : Collected frame parts come reassembler)
  (found : reassembler.pending.lookup frame.frameId = some pending)
include collected found

theorem inside : pending.Inside := by
  intro index member
  obtain ⟨payload, located⟩ := Option.isSome_iff_exists.mp (AList.lookup_isSome.mpr member)
  rw [← held_of_pending found, collected.held] at located
  obtain ⟨fragment, arrived, rfl, -⟩ := located
  rw [(collected.agreed pending found).2]
  exact index_lt collected.few (collected.own arrived)

theorem lookup_fragment {fragment : Fragment μ} (arrived : fragment ∈ come) :
    pending.fragments.lookup fragment.fragmentIndex = some fragment.payload := by
  rw [← held_of_pending found, collected.held]
  exact ⟨fragment, arrived, rfl, rfl⟩

theorem arrived_of_mem {fragment : Fragment μ} (member : fragment ∈ fragmentsOf frame parts)
    (taken : fragment.fragmentIndex ∈ pending.fragments) : fragment ∈ come := by
  obtain ⟨payload, located⟩ := Option.isSome_iff_exists.mp (AList.lookup_isSome.mpr taken)
  rw [← held_of_pending found, collected.held] at located
  obtain ⟨other, arrived, same, -⟩ := located
  rwa [← fragmentsOf_index collected.few (collected.own arrived) member same]

/-- The frame counts as full exactly when all its fragments have come. -/
theorem full_iff :
    pending.fragments.entries.length = pending.fragmentCount.toNat ↔
      ∀ fragment ∈ fragmentsOf frame parts, fragment ∈ come := by
  rw [PendingFrame.full_iff (collected.inside found), (collected.agreed pending found).2]
  constructor
  · intro full fragment member
    exact collected.arrived_of_mem found member (full _ (index_lt collected.few member))
  · intro all index below
    rw [UInt16.lt_iff_toNat_lt, UInt16.toNat_ofNat_of_lt' collected.few] at below
    have member : (⟨frame.frameId, frame.info, UInt16.ofNat index.toNat,
        UInt16.ofNat parts.length, parts.get ⟨index.toNat, below⟩⟩ : Fragment μ) ∈
        fragmentsOf frame parts :=
      mem_fragmentsOf.mpr ⟨index.toNat, _, List.getElem?_eq_getElem below, rfl⟩
    have located := collected.lookup_fragment found (all _ member)
    rw [UInt16.ofNat_toNat] at located
    exact AList.lookup_isSome.mp (by rw [located]; rfl)

theorem parts_eq (all : ∀ fragment ∈ fragmentsOf frame parts, fragment ∈ come) :
    pending.parts = parts := by
  have count : pending.fragmentCount.toNat = parts.length := by
    rw [(collected.agreed pending found).2, UInt16.toNat_ofNat_of_lt' collected.few]
  refine List.ext_getElem (pending.length_parts.trans count) ?_
  intro index inside below
  have member : (⟨frame.frameId, frame.info, UInt16.ofNat index, UInt16.ofNat parts.length,
      parts.get ⟨index, below⟩⟩ : Fragment μ) ∈ fragmentsOf frame parts :=
    mem_fragmentsOf.mpr ⟨index, _, List.getElem?_eq_getElem below, rfl⟩
  have located := collected.lookup_fragment found (all _ member)
  apply Option.some.inj
  rw [← List.getElem?_eq_getElem inside, PendingFrame.getElem?_parts (count ▸ below), located]
  rfl

end

/-! ### A fragment of the frame -/

variable {after : Reassembler μ}

theorem congr (collected : Collected frame parts come reassembler)
    (same : after.pending.lookup frame.frameId = reassembler.pending.lookup frame.frameId)
    (limits : SameLimits reassembler after) : Collected frame parts come after := by
  refine ⟨limits.frame.trans collected.frameBytes, limits.total.trans collected.totalBytes,
    collected.few, collected.own, ?_, ?_⟩
  · intro pending found
    exact collected.agreed pending (same ▸ found)
  · intro index payload
    rw [Reassembler.held, same]
    exact collected.held index payload

/-- The frame that a fragment belongs to, pending or new. -/
theorem entryOf (collected : Collected frame parts come reassembler) {fragment : Fragment μ}
    (member : fragment ∈ fragmentsOf frame parts) (now : Nat) :
    (reassembler.entryOf fragment now).info = frame.info ∧
      (reassembler.entryOf fragment now).fragmentCount = UInt16.ofNat parts.length ∧
      ∀ index, (reassembler.entryOf fragment now).fragments.lookup index =
        reassembler.held frame.frameId index := by
  obtain ⟨place, part, -, rfl⟩ := mem_fragmentsOf.mp member
  unfold Reassembler.entryOf Reassembler.held
  cases found : reassembler.pending.lookup frame.frameId with
  | none => exact ⟨rfl, rfl, fun _ => rfl⟩
  | some pending =>
    obtain ⟨info, count⟩ := collected.agreed pending found
    exact ⟨info, count, fun _ => rfl⟩

theorem frameId_eq {fragment : Fragment μ} (member : fragment ∈ fragmentsOf frame parts) :
    fragment.frameId = frame.frameId := by
  obtain ⟨place, part, -, rfl⟩ := mem_fragmentsOf.mp member
  rfl

section

variable (collected : Collected frame parts come reassembler)
include collected

theorem add {fragment : Fragment μ} (member : fragment ∈ fragmentsOf frame parts)
    (inserted : after.pending.lookup frame.frameId = some ((reassembler.entryOf fragment now).add
      fragment now))
    (limits : SameLimits reassembler after) : Collected frame parts (fragment :: come) after := by
  obtain ⟨info, count, fragments⟩ := collected.entryOf member now
  refine ⟨limits.frame.trans collected.frameBytes, limits.total.trans collected.totalBytes,
    collected.few, List.cons_subset.mpr ⟨member, collected.own⟩, ?_, ?_⟩
  · intro pending found
    rw [inserted] at found
    cases found
    exact ⟨info, count⟩
  · intro index payload
    rw [held_of_pending inserted, PendingFrame.add, lookup_insert_alist, fragments]
    by_cases same : index = fragment.fragmentIndex
    · rw [if_pos same, Option.some.injEq]
      constructor
      · rintro rfl
        exact ⟨fragment, (.head _), same.symm, rfl⟩
      · rintro ⟨other, arrived, place, rfl⟩
        have also : other ∈ fragmentsOf frame parts := by
          rcases List.mem_cons.mp arrived with rfl | earlier
          · exact member
          · exact collected.own earlier
        rw [fragmentsOf_index collected.few also member (place.trans same)]
    · rw [if_neg same, collected.held]
      constructor
      · rintro ⟨other, arrived, place⟩
        exact ⟨other, .tail _ arrived, place⟩
      · rintro ⟨other, arrived, rfl, payload⟩
        rcases List.mem_cons.mp arrived with rfl | earlier
        · exact absurd rfl same
        · exact ⟨other, earlier, rfl, payload⟩

theorem again {fragment : Fragment μ} (arrived : fragment ∈ come) :
    Collected frame parts (fragment :: come) reassembler := by
  refine ⟨collected.frameBytes, collected.totalBytes, collected.few,
    List.cons_subset.mpr ⟨collected.own arrived, collected.own⟩, collected.agreed, ?_⟩
  intro index payload
  rw [collected.held]
  constructor
  · rintro ⟨other, earlier, place⟩
    exact ⟨other, .tail _ earlier, place⟩
  · rintro ⟨other, later, place⟩
    rcases List.mem_cons.mp later with rfl | earlier
    · exact ⟨other, arrived, place⟩
    · exact ⟨other, earlier, place⟩

theorem touched (found : reassembler.pending.lookup frame.frameId = some pending) (now : Nat)
    (replaced : after.pending.lookup frame.frameId = some { pending with updatedAt := now })
    (limits : SameLimits reassembler after) : Collected frame parts come after := by
  refine ⟨limits.frame.trans collected.frameBytes, limits.total.trans collected.totalBytes,
    collected.few, collected.own, ?_, ?_⟩
  · intro held located
    rw [replaced] at located
    cases located
    exact collected.agreed pending found
  · intro index payload
    rw [held_of_pending replaced, ← collected.held, held_of_pending found]

/-- **A push of a fragment of the frame**: it is a repetition, or the push ends with the completion
of a frame that holds it. -/
theorem push {fragment : Fragment μ} {tie : Tie} {result : Pushed μ}
    (member : fragment ∈ fragmentsOf frame parts)
    (room : (reassembler.pending.insert fragment.frameId (reassembler.entryOf fragment
      now)).entries.length ≤ max reassembler.config.maxPendingFrames 1)
    (effect : PushEffect reassembler now tie (.ok fragment) result after) :
    (fragment ∈ come ∧ result = .incomplete ∧ Collected frame parts (fragment :: come) after) ∨
    (fragment ∉ come ∧ ∃ missing next pending, Collected frame parts (fragment :: come) next ∧
      next.pending.lookup frame.frameId = some pending ∧
      completeFrame missing next frame.frameId = (result, after)) := by
  obtain ⟨info, count, fragments⟩ := collected.entryOf member now
  have same := frameId_eq member
  cases effect with
  | dropped _ _ contradicts =>
    -- without a byte limit only contradicting metadata drops a frame
    obtain ⟨place, part, -, rfl⟩ := mem_fragmentsOf.mp member
    rcases contradicts collected.frameBytes with different | different
    · exact absurd info different
    · exact absurd count different
  | @repeated _ existing _ found taken pending limits =>
    rw [same] at found
    have arrived := collected.arrived_of_mem found member taken
    refine .inl ⟨arrived, rfl, ?_⟩
    rcases pending with pending | pending
    · exact (collected.again arrived).congr (by rw [pending]) limits
    · refine (collected.again arrived).touched found now ?_ limits
      simp [pending, same]
  | @added _ missing _ _ vacant _ =>
    have kept := withFragment_of_room tie collected.totalBytes room
    have located : (reassembler.withFragment fragment now tie).pending.lookup frame.frameId =
        some ((reassembler.entryOf fragment now).add fragment now) := by
      simp [kept, same]
    have limits : SameLimits reassembler (reassembler.withFragment fragment now tie) := by
      rw [kept]
      exact ⟨rfl, rfl, rfl⟩
    refine .inr ⟨?_, missing, _, _, collected.add member located limits, located, by rw [same]⟩
    intro arrived
    have taken := (collected.held _ _).mpr ⟨fragment, arrived, rfl, rfl⟩
    rw [← fragments] at taken
    exact vacant (AList.lookup_isSome.mp (by rw [taken]; rfl))

end

section

variable {datagram : List UInt8} {fragment : Fragment μ}
  (collected : Collected frame parts come reassembler) (sound : format.Sound)
  (undisturbed : format.Undisturbed frame.frameId reassembler call)
  (pushed : call.datagram = some datagram) (decoded : format.decode datagram = .ok fragment)
  (member : fragment ∈ fragmentsOf frame parts)
include collected sound undisturbed pushed decoded member

theorem perform :
    (fragment ∈ come ∧ (format.perform reassembler call).1 = some .incomplete ∧
      Collected frame parts (fragment :: come) (format.perform reassembler call).2) ∨
    (fragment ∉ come ∧ ∃ missing next pending result, Collected frame parts (fragment :: come) next ∧
      next.pending.lookup frame.frameId = some pending ∧
      (format.perform reassembler call).1 = some result ∧
      completeFrame missing next frame.frameId = (result, (format.perform reassembler call).2)) := by
  obtain ⟨tie, result, after, performed, effect⟩ := sound.push pushed reassembler
  have limits := (reassembler.pruneExpiredAt_pending call.now).2
  have pruned := collected.congr undisturbed.lookup_pruned limits
  have room := undisturbed.room datagram fragment pushed decoded
  rw [← limits.config] at room
  rw [decoded] at effect
  rw [performed]
  rcases pruned.push member room effect with
    ⟨arrived, rfl, kept⟩ | ⟨new, missing, next, pending, kept, found, completion⟩
  · exact .inl ⟨arrived, rfl, kept⟩
  · exact .inr ⟨new, missing, next, pending, result, kept, found, rfl, completion⟩

/-- The push of a fragment while another one is still missing. -/
theorem push_early {absent : Fragment μ} (other : absent ∈ fragmentsOf frame parts)
    (missing : absent ∉ fragment :: come) :
    (format.perform reassembler call).1 = some .incomplete ∧
      Collected frame parts (fragment :: come) (format.perform reassembler call).2 := by
  rcases collected.perform sound undisturbed pushed decoded member with
    ⟨-, answer, kept⟩ | ⟨-, text, next, pending, result, kept, found, answer, completion⟩
  · exact ⟨answer, kept⟩
  · have short : ¬ pending.fragments.entries.length = pending.fragmentCount.toNat :=
      fun full => missing ((kept.full_iff found).mp full absent other)
    rw [completeFrame_of_pending found (kept.inside found), if_neg short, Prod.mk.injEq] at completion
    rw [answer, ← completion.1, ← completion.2]
    exact ⟨rfl, kept⟩

/-- **The push of the last missing fragment.** -/
theorem push_last (missing : fragment ∉ come)
    (all : ∀ other ∈ fragmentsOf frame parts, other ∈ fragment :: come)
    (whole : parts.flatten = frame.payload) :
    (format.perform reassembler call).1 = some (.completed frame) := by
  rcases collected.perform sound undisturbed pushed decoded member with
    ⟨arrived, -⟩ | ⟨-, text, next, pending, result, kept, found, answer, completion⟩
  · exact absurd arrived missing
  · rw [completeFrame_of_pending found (kept.inside found), if_pos ((kept.full_iff found).mpr all),
      kept.parts_eq found all, whole, (kept.agreed pending found).1, Prod.mk.injEq] at completion
    rw [answer, ← completion.1]

end

end Collected

/-! ### The run -/

variable {before rest : List Call} {last : Call}

/-- The fragments that have come are those of the datagrams pushed so far. -/
def Brought (format : Format μ) (datagrams : List (List UInt8)) (done : List Call)
    (come : List (Fragment μ)) : Prop :=
  ∀ fragment, fragment ∈ come ↔ ∃ call ∈ done, ∃ datagram ∈ datagrams,
    call.datagram = some datagram ∧ format.decode datagram = .ok fragment

variable {come : List (Fragment μ)}

theorem Brought.push {done : List Call} (brought : Brought format datagrams done come)
    {datagram : List UInt8} {fragment : Fragment μ} (pushed : call.datagram = some datagram)
    (member : datagram ∈ datagrams) (decoded : format.decode datagram = .ok fragment) :
    Brought format datagrams (done ++ [call]) (fragment :: come) := by
  intro other
  rw [List.mem_cons, brought other]
  constructor
  · rintro (rfl | ⟨earlier, among, origin⟩)
    · exact ⟨call, List.mem_append_right _ (List.mem_singleton_self _), datagram, member, pushed,
        decoded⟩
    · exact ⟨earlier, List.mem_append_left _ among, origin⟩
  · rintro ⟨pusher, among, origin, listed, datum, read⟩
    rcases List.mem_append.mp among with earlier | now
    · exact .inr ⟨pusher, earlier, origin, listed, datum, read⟩
    · rw [List.mem_singleton.mp now, pushed] at datum
      cases datum
      rw [decoded] at read
      exact .inl (Except.ok.inj read).symm

theorem Brought.skip {done : List Call} (brought : Brought format datagrams done come)
    (other : ¬ call.Pushes datagrams) :
    Brought format datagrams (done ++ [call]) come := by
  intro fragment
  rw [brought fragment]
  constructor
  · rintro ⟨earlier, among, origin⟩
    exact ⟨earlier, List.mem_append_left _ among, origin⟩
  · rintro ⟨pusher, among, origin, listed, datum, read⟩
    rcases List.mem_append.mp among with earlier | now
    · exact ⟨pusher, earlier, origin, listed, datum, read⟩
    · rw [List.mem_singleton.mp now] at datum
      exact absurd ⟨origin, listed, datum⟩ other

/-- No earlier call brings the fragment of the last missing datagram. -/
theorem Sent.last_missing (sent : Sent format frame parts datagrams)
    (schedule : Schedule format frame.frameId datagrams reassembler before last rest)
    {datagram : List UInt8} {fragment : Fragment μ} (member : datagram ∈ datagrams)
    (pushed : last.datagram = some datagram) (decoded : format.decode datagram = .ok fragment)
    (among : call ∈ before) {other : List UInt8} (listed : other ∈ datagrams)
    (datum : call.datagram = some other) : format.decode other ≠ .ok fragment := by
  intro read
  have same := sent.decode_injective listed member read decoded
  rw [same, ← pushed] at datum
  exact schedule.missing.2 call among datum

/-- **What has come before the last missing datagram**, and that the frame was not handed out. -/
theorem Sent.collect (sound : format.Sound) (sent : Sent format frame parts datagrams)
    (schedule : Schedule format frame.frameId datagrams reassembler before last rest)
    (done todo : List Call) (split : before = done ++ todo) :
    (∃ come, Brought format datagrams done come ∧
      Collected frame parts come (format.after reassembler done)) ∧
    (format.answers reassembler done).filterMap (completedFrame frame.frameId) = [] := by
  induction done using List.reverseRecOn generalizing todo with
  | nil =>
    have absent : ∀ index, reassembler.held frame.frameId index = none := by
      intro index
      simp [Reassembler.held, schedule.fresh]
    refine ⟨⟨[], by simp [Brought], schedule.frameBytes, schedule.totalBytes, sent.few,
      List.nil_subset _, ?_, ?_⟩, rfl⟩
    · intro pending found
      simp [Format.after, schedule.fresh] at found
    · intro index payload
      simp [Format.after, absent]
  | append_singleton done call ih =>
    have among : call ∈ before := by
      simp [split]
    obtain ⟨⟨come, brought, collected⟩, silent⟩ := ih (call :: todo) (by rw [split]; simp)
    have undisturbed := schedule.undisturbed done call (todo ++ last :: rest) (by
      rw [split]
      simp)
    rw [Format.after_append, Format.answers_append, List.filterMap_append, silent, List.nil_append]
    rcases schedule.early call among with ⟨datagram, member, pushed⟩ | foreign
    · obtain ⟨final, listed, expected⟩ := schedule.missing.1
      obtain ⟨fragment, own, decoded⟩ := sent.fragment member
      obtain ⟨absent, other, read⟩ := sent.fragment listed
      have missing : absent ∉ fragment :: come := by
        rintro arrived
        obtain ⟨pusher, earlier, origin, datagrams, datum, again⟩ :=
          (brought.push pushed member decoded absent).mp arrived
        have before : pusher ∈ before := by
          rw [split]
          exact List.mem_append_left _ earlier
        exact sent.last_missing schedule listed expected read before datagrams datum again
      obtain ⟨answer, kept⟩ :=
        collected.push_early sound undisturbed pushed decoded own other missing
      refine ⟨⟨fragment :: come, brought.push pushed member decoded, kept⟩, ?_⟩
      rw [Format.answers, answer]
      rfl
    · obtain ⟨same, limits⟩ := foreign.lookup_perform sound undisturbed collected.totalBytes
      refine ⟨⟨come, brought.skip foreign.other, collected.congr same limits⟩, ?_⟩
      simp [Format.answers, List.filterMap_cons_none (foreign.completedFrame_perform sound _)]

theorem foreign_answers (sound : format.Sound) {calls : List Call}
    (late : ∀ call ∈ calls, format.Foreign frameId datagrams call) (reassembler : Reassembler μ) :
    (format.answers reassembler calls).filterMap (completedFrame frameId) = [] := by
  induction calls generalizing reassembler with
  | nil => rfl
  | cons call rest ih =>
    have foreign := late call (.head _)
    rw [Format.answers, List.filterMap_cons_none (foreign.completedFrame_perform sound _)]
    exact ih (List.forall_mem_cons.mp late).2 _

/-- **Every schedule of the datagrams of a frame delivers it.** -/
theorem Sent.delivers (sound : format.Sound) (sent : Sent format frame parts datagrams)
    (schedule : Schedule format frame.frameId datagrams reassembler before last rest) :
    format.Delivers frame reassembler before last rest := by
  obtain ⟨⟨come, brought, collected⟩, silent⟩ := sent.collect sound schedule before [] (by simp)
  obtain ⟨datagram, member, pushed⟩ := schedule.missing.1
  obtain ⟨fragment, own, decoded⟩ := sent.fragment member
  have missing : fragment ∉ come := by
    intro arrived
    obtain ⟨call, among, other, listed, datum, read⟩ := (brought fragment).mp arrived
    exact sent.last_missing schedule member pushed decoded among listed datum read
  have all : ∀ other ∈ fragmentsOf frame parts, other ∈ fragment :: come := by
    intro other belongs
    obtain ⟨origin, listed, read⟩ := sent.datagram belongs
    rw [List.mem_cons]
    rcases schedule.all origin listed with here | ⟨call, among, datum⟩
    · rw [pushed] at here
      cases here
      rw [decoded] at read
      exact .inl (Except.ok.inj read).symm
    · exact .inr ((brought other).mpr ⟨call, among, origin, listed, datum, read⟩)
  have answer := collected.push_last sound (schedule.undisturbed before last rest rfl) pushed
    decoded own missing all sent.whole
  have handed : completedFrame frame.frameId (some (.completed frame)) = some frame := if_pos rfl
  refine ⟨answer, ?_⟩
  rw [Format.answers_append, List.filterMap_append, silent, List.nil_append, Format.answers, answer,
    List.filterMap_cons_some handed, foreign_answers sound schedule.late]

end MiniRemoteDesktop.Quic
