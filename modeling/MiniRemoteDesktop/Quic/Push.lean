/-
**What one push does**, for both reassemblers at once.

* `pruneExpiredAt_pending`, `enforcePendingLimit_spec` — expiry and eviction only take frames out of
  the table, and after the eviction it is within the limits.
* `PushEffect` — **everything a push can do** after the expiry: refuse the datagram, drop its frame,
  count a repetition, or add the fragment.
-/

import MiniRemoteDesktop.Quic.Reassembler

namespace MiniRemoteDesktop.Quic

open List (length_map mem_map mem_range)
open QuicAuReassembler (checkFrameBytes)
open Table
open QuicMediaReassembler

variable {μ : Type}

/-- The configuration of a reassembler, which no call changes. -/
structure SameLimits (reassembler after : Reassembler μ) : Prop where
  config : after.config = reassembler.config
  frame : after.maxFrameBytes = reassembler.maxFrameBytes
  total : after.maxTotalBytes = reassembler.maxTotalBytes

theorem SameLimits.refl (reassembler : Reassembler μ) : SameLimits reassembler reassembler :=
  ⟨rfl, rfl, rfl⟩

theorem SameLimits.trans {first second third : Reassembler μ} (left : SameLimits first second)
    (right : SameLimits second third) : SameLimits first third :=
  ⟨right.config.trans left.config, right.frame.trans left.frame, right.total.trans left.total⟩

variable {reassembler : Reassembler μ}

variable {tie : Tie}

namespace Reassembler

/-! ### Expiry -/

/-- The frames that the expiry at `now` removes. -/
def expiring (reassembler : Reassembler μ) (now : Nat) : List UInt32 :=
  if reassembler.config.frameTimeout = 0 then [] else reassembler.expiredFrames now

theorem expire_pending (reassembler : Reassembler μ) (frameId : UInt32) :
    (reassembler.expire frameId).pending = reassembler.pending.erase frameId ∧
      SameLimits reassembler (reassembler.expire frameId) := by
  unfold expire
  cases reassembler.pending.lookup frameId <;> exact ⟨rfl, rfl, rfl, rfl⟩

theorem foldl_expire (reassembler : Reassembler μ) (frameIds : List UInt32) :
    (frameIds.foldl expire reassembler).pending = eraseAll reassembler.pending frameIds ∧
      SameLimits reassembler (frameIds.foldl expire reassembler) := by
  unfold eraseAll
  induction frameIds generalizing reassembler with
  | nil => exact ⟨rfl, .refl _⟩
  | cons frameId rest ih =>
    obtain ⟨erased, limits⟩ := reassembler.expire_pending frameId
    obtain ⟨pending, later⟩ := ih (reassembler.expire frameId)
    rw [List.foldl_cons, List.foldl_cons, pending, erased]
    exact ⟨rfl, limits.trans later⟩

theorem pruneExpiredAt_pending (reassembler : Reassembler μ) (now : Nat) :
    (reassembler.pruneExpiredAt now).pending = eraseAll reassembler.pending (reassembler.expiring now) ∧
      SameLimits reassembler (reassembler.pruneExpiredAt now) := by
  unfold pruneExpiredAt expiring
  by_cases off : reassembler.config.frameTimeout = 0
  · simpa [off] using ⟨rfl, .refl _⟩
  · simp [off, reassembler.foldl_expire _]

/-! ### Eviction -/

theorem oldestFrame_eq_none {pending : Pending μ} (none : oldestFrame tie pending = none) :
    pending.entries = [] := by
  by_contra nonempty
  obtain ⟨age, least⟩ : ∃ age, (pending.entries.map fun entry => entry.2.createdAt).min? = some age :=
    Option.isSome_iff_exists.mp (List.isSome_min?_of_ne_nil (by simpa using nonempty))
  obtain ⟨listed, below⟩ := List.min?_eq_some_iff.mp least
  obtain ⟨entry, member, rfl⟩ := mem_map.mp listed
  have oldest : entry.1 ∈ oldestFrames pending := by
    refine mem_map.mpr ⟨entry, List.mem_filter.mpr ⟨member, ?_⟩, rfl⟩
    refine List.all_eq_true.mpr fun other present => decide_eq_true ?_
    exact below _ (mem_map.mpr ⟨other, present, rfl⟩)
  unfold oldestFrame at none
  cases candidates : oldestFrames pending with
  | nil =>
    simp [candidates] at oldest
  | cons first rest =>
    rw [candidates] at none
    simp only at none
    split at none <;> cases none

theorem not_overLimit_of_empty (empty : reassembler.pending.entries = []) :
    ¬ reassembler.overLimit := by
  rintro (many | ⟨limit, -, above⟩)
  · rw [empty] at many
    exact Nat.not_lt_zero _ many
  · rw [pendingBytes, weigh, empty] at above
    exact Nat.not_lt_zero _ above

/-- **The eviction loop** only takes frames out of the table, and stops within the limits. -/
theorem enforcePendingLimit_spec (tie : Tie) (reassembler : Reassembler μ) :
    (∃ frameIds, (reassembler.enforcePendingLimit tie).pending =
        eraseAll reassembler.pending frameIds) ∧
      ¬ (reassembler.enforcePendingLimit tie).overLimit ∧
      SameLimits reassembler (reassembler.enforcePendingLimit tie) := by
  induction reassembler using enforcePendingLimit.induct tie with
  | case1 reassembler above none =>
    rw [enforcePendingLimit, if_pos above]
    split
    · exact ⟨⟨[], rfl⟩, not_overLimit_of_empty (oldestFrame_eq_none none), .refl _⟩
    next some =>
      simp [none] at some
  | case2 reassembler above frameId oldest ih =>
    rw [enforcePendingLimit, if_pos above]
    split
    next none =>
      simp [oldest] at none
    next chosen some =>
      rw [oldest] at some
      cases some
      obtain ⟨⟨frameIds, erased⟩, within, limits⟩ := ih
      exact ⟨⟨frameId :: frameIds, erased⟩, within, limits.config, limits.frame, limits.total⟩
  | case3 reassembler within =>
    rw [enforcePendingLimit, if_neg within]
    exact ⟨⟨[], rfl⟩, within, .refl _⟩

theorem enforcePendingLimit_within (within : ¬ reassembler.overLimit) :
    reassembler.enforcePendingLimit tie = reassembler := by
  rw [enforcePendingLimit, if_neg within]

end Reassembler

/-! ### Completion -/

variable {frame : PendingFrame μ}

namespace PendingFrame

/-- The places of a frame of `count` fragments. -/
def places (count : UInt16) : List UInt16 := (List.range count.toNat).map UInt16.ofNat

theorem toNat_ofNat_place {count : UInt16} {index : Nat} (inside : index < count.toNat) :
    (UInt16.ofNat index).toNat = index :=
  UInt16.toNat_ofNat_of_lt' (inside.trans count.toNat_lt)

theorem mem_places {count index : UInt16} : index ∈ places count ↔ index < count := by
  unfold places
  rw [mem_map, UInt16.lt_iff_toNat_lt]
  constructor
  · rintro ⟨place, inside, rfl⟩
    simp [toNat_ofNat_place (mem_range.mp inside), mem_range.mp inside]
  · intro inside
    exact ⟨index.toNat, mem_range.mpr inside, UInt16.ofNat_toNat⟩

theorem nodup_ofNat {count : Nat} (small : count < 2 ^ 16) :
    ((List.range count).map UInt16.ofNat).Nodup := by
  refine List.Nodup.map_on ?_ List.nodup_range
  intro first inside second also same
  have inside := mem_range.mp inside
  have also := mem_range.mp also
  have values := congrArg UInt16.toNat same
  simp only [UInt16.toNat_ofNat'] at values
  omega

theorem nodup_places (count : UInt16) : (places count).Nodup := nodup_ofNat count.toNat_lt

/-- The fragments of a frame have their places in it. -/
def Inside (frame : PendingFrame μ) : Prop :=
  ∀ index ∈ frame.fragments, index < frame.fragmentCount

/-- The fragments in order. -/
def parts (frame : PendingFrame μ) : List (List UInt8) :=
  (places frame.fragmentCount).map fun index => (frame.fragments.lookup index).getD []

theorem length_parts (frame : PendingFrame μ) : frame.parts.length = frame.fragmentCount.toNat := by
  simp [parts, places]

theorem getElem?_parts {index : Nat} (below : index < frame.fragmentCount.toNat) :
    frame.parts[index]? = some ((frame.fragments.lookup (UInt16.ofNat index)).getD []) := by
  simp [parts, places, List.getElem?_range below]

/-- As many fragments as the frame counts means that none is missing. -/
theorem full_iff (inside : frame.Inside) :
    frame.fragments.entries.length = frame.fragmentCount.toNat ↔
      ∀ index < frame.fragmentCount, index ∈ frame.fragments := by
  have pigeonhole : frame.fragments.entries.length = (places frame.fragmentCount).length ↔
      ∀ index ∈ places frame.fragmentCount, index ∈ frame.fragments :=
    length_eq_iff_full (nodup_places _) fun index member => mem_places.mpr (inside index member)
  rw [places, length_map, List.length_range] at pigeonhole
  rw [pigeonhole]
  exact forall_congr' fun index => by rw [← mem_places, places]

theorem payload_of_full (missing : String)
    (full : ∀ index < frame.fragmentCount, index ∈ frame.fragments) :
    frame.payload missing = .ok frame.parts.flatten := by
  have each : ∀ index ∈ List.range frame.fragmentCount.toNat,
      ∃ chunk, frame.fragments.lookup (UInt16.ofNat index) = some chunk := by
    intro index listed
    have inside := mem_range.mp listed
    refine Option.isSome_iff_exists.mp (AList.lookup_isSome.mpr (full _ ?_))
    rwa [UInt16.lt_iff_toNat_lt, toNat_ofNat_place inside]
  unfold payload
  rw [Checked.mapM_ok (g := fun index =>
    (frame.fragments.lookup (UInt16.ofNat index)).getD []), parts, places, List.map_map]
  · rfl
  · intro index listed
    obtain ⟨chunk, found⟩ := each index listed
    simp [found]

end PendingFrame

variable {frameId : UInt32}

namespace Reassembler

theorem completeFrame_of_missing {missing : String}
    (absent : reassembler.pending.lookup frameId = none) :
    completeFrame missing reassembler frameId = (.incomplete, reassembler) := by
  simp [completeFrame, AList.lookup_eq_none.mp absent]

/-- **The end of a push** for a frame that is still there. -/
theorem completeFrame_of_pending {missing : String}
    (found : reassembler.pending.lookup frameId = some frame) (inside : frame.Inside) :
    completeFrame missing reassembler frameId =
      if frame.fragments.entries.length = frame.fragmentCount.toNat then
        (.completed ⟨frameId, frame.info, frame.parts.flatten⟩,
          (reassembler.remove frameId).countCompleted)
      else (.incomplete, reassembler) := by
  have present : frameId ∈ reassembler.pending := AList.lookup_isSome.mp (by rw [found]; rfl)
  rw [completeFrame, if_neg (not_not_intro present), found]
  simp only
  by_cases length : frame.fragments.entries.length = frame.fragmentCount.toNat
  · have full := (PendingFrame.full_iff inside).mp length
    rw [if_neg (not_not_intro length), if_pos length]
    by_cases single : frame.fragmentCount = 1
    · -- the only entry is the fragment at place 0
      rw [if_pos single]
      obtain ⟨only, entries⟩ : ∃ only, frame.fragments.entries = [only] := by
        rw [single] at length
        exact List.length_eq_one_iff.mp length
      have held : frame.fragments.lookup only.1 = some only.2 := by
        simp [← mem_entries_alist, entries]
      have first : only.1 = 0 := by
        have below := inside only.1 (AList.lookup_isSome.mp (by rw [held]; rfl))
        rw [single, UInt16.lt_iff_toNat_lt] at below
        exact UInt16.toNat_inj.mp (Nat.lt_one_iff.mp below)
      rw [first] at held
      have parts : frame.parts = [only.2] := by
        rw [PendingFrame.parts, single]
        show [(frame.fragments.lookup 0).getD []] = [only.2]
        simp [held]
      simp [entries, parts]
    · simp [single, PendingFrame.payload_of_full missing full]
  · simp [length]

theorem completeFrame_frame (missing : String) (reassembler : Reassembler μ) (frameId : UInt32) :
    ((completeFrame missing reassembler frameId).2.pending = reassembler.pending ∨
        (completeFrame missing reassembler frameId).2.pending = reassembler.pending.erase frameId) ∧
      SameLimits reassembler (completeFrame missing reassembler frameId).2 ∧
      ∀ frame, (completeFrame missing reassembler frameId).1 = .completed frame →
        frame.frameId = frameId := by
  have kept : SameLimits reassembler (reassembler.remove frameId) := ⟨rfl, rfl, rfl⟩
  unfold completeFrame
  split
  · exact ⟨.inl rfl, .refl _, nofun⟩
  split
  · exact ⟨.inl rfl, .refl _, nofun⟩
  split
  · exact ⟨.inl rfl, .refl _, nofun⟩
  split
  · split
    · exact ⟨.inr rfl, kept, nofun⟩
    · refine ⟨.inr rfl, ⟨rfl, rfl, rfl⟩, ?_⟩
      rintro _ ⟨⟩
      rfl
  · split
    · exact ⟨.inr rfl, kept, nofun⟩
    · refine ⟨.inr rfl, ⟨rfl, rfl, rfl⟩, ?_⟩
      rintro _ ⟨⟩
      rfl

end Reassembler

/-! ### One push -/

open Reassembler

/-- The frame that a fragment belongs to, pending or new. -/
def Reassembler.entryOf (reassembler : Reassembler μ) (fragment : Fragment μ) (now : Nat) :
    PendingFrame μ :=
  (reassembler.pending.lookup fragment.frameId).getD (.new fragment now)

open Reassembler

/-- The reassembler with the fragment added and the limits enforced. -/
def Reassembler.withFragment (reassembler : Reassembler μ) (fragment : Fragment μ) (now : Nat)
    (tie : Tie) : Reassembler μ :=
  enforcePendingLimit tie { reassembler with
      pending := reassembler.pending.insert fragment.frameId
        ((reassembler.entryOf fragment now).add fragment now) }

theorem Reassembler.withFragment_spec (reassembler : Reassembler μ) (fragment : Fragment μ)
    (now : Nat) (tie : Tie) :
    (∃ frameIds, (reassembler.withFragment fragment now tie).pending =
        eraseAll (reassembler.pending.insert fragment.frameId
          ((reassembler.entryOf fragment now).add fragment now)) frameIds) ∧
      ¬ (reassembler.withFragment fragment now tie).overLimit ∧
      SameLimits reassembler (reassembler.withFragment fragment now tie) := by
  obtain ⟨pending, within, limits⟩ := enforcePendingLimit_spec tie { reassembler with
      pending := reassembler.pending.insert fragment.frameId
        ((reassembler.entryOf fragment now).add fragment now) }
  exact ⟨pending, within, limits.config, limits.frame, limits.total⟩

variable {fragment : Fragment μ} {now : Nat}

/-- The limits may remove the frame of the fragment, but do not change it. -/
theorem Reassembler.lookup_withFragment
    (found : (reassembler.withFragment fragment now tie).pending.lookup fragment.frameId = some frame) :
    frame = (reassembler.entryOf fragment now).add fragment now := by
  obtain ⟨⟨frameIds, pending⟩, -, -⟩ := reassembler.withFragment_spec fragment now tie
  rw [pending, lookup_eraseAll, AList.lookup_insert] at found
  by_cases evicted : fragment.frameId ∈ frameIds
  · simp [evicted] at found
  · rw [if_neg evicted] at found
    exact (Option.some.inj found).symm

/-- **Everything a push can do** to the reassembler that the expiry at its beginning leaves. -/
inductive PushEffect (pruned : Reassembler μ) (now : Nat) (tie : Tie) :
    Except QuinnTransportError (Fragment μ) → Pushed μ → Reassembler μ → Prop
  /-- The datagram is no fragment. -/
  | refused {error : QuinnTransportError} {after : Reassembler μ}
      (pending : after.pending = pruned.pending) (limits : SameLimits pruned after) :
      PushEffect pruned now tie (.error error) (.failed error) after
  /-- The fragment contradicts its frame or makes it too large, and the frame is dropped. -/
  | dropped {fragment : Fragment μ} {error : QuinnTransportError} {after : Reassembler μ}
      (pending : after.pending = pruned.pending.erase fragment.frameId)
      (limits : SameLimits pruned after)
      (contradicts : pruned.maxFrameBytes = none → (pruned.entryOf fragment now).info ≠ fragment.info ∨
          (pruned.entryOf fragment now).fragmentCount ≠ fragment.fragmentCount) :
      PushEffect pruned now tie (.ok fragment) (.failed error) after
  /-- The place of the fragment is taken. -/
  | repeated {fragment : Fragment μ} {existing : PendingFrame μ} {after : Reassembler μ}
      (found : pruned.pending.lookup fragment.frameId = some existing)
      (taken : fragment.fragmentIndex ∈ existing.fragments)
      (pending : after.pending = pruned.pending ∨ after.pending =
        pruned.pending.insert fragment.frameId { existing with updatedAt := now })
      (limits : SameLimits pruned after) :
      PushEffect pruned now tie (.ok fragment) .incomplete after
  | added {fragment : Fragment μ} (missing : String)
      (info : (pruned.entryOf fragment now).info = fragment.info)
      (count : (pruned.entryOf fragment now).fragmentCount = fragment.fragmentCount)
      (vacant : fragment.fragmentIndex ∉ (pruned.entryOf fragment now).fragments)
      (within : ¬ exceeds pruned.maxFrameBytes ((pruned.entryOf fragment now).add fragment now).bytes) :
      PushEffect pruned now tie (.ok fragment)
        (completeFrame missing (pruned.withFragment fragment now tie) fragment.frameId).1
        (completeFrame missing (pruned.withFragment fragment now tie) fragment.frameId).2

section PushEffect

variable {pruned after : Reassembler μ} {now : Nat} {tie : Tie}
  {decoded : Except QuinnTransportError (Fragment μ)} {result : Pushed μ}

theorem PushEffect.limits (effect : PushEffect pruned now tie decoded result after) :
    SameLimits pruned after := by
  cases effect with
  | refused _ limits | dropped _ limits _ | repeated _ _ _ limits => exact limits
  | @added fragment missing =>
    obtain ⟨-, limits, -⟩ :=
      completeFrame_frame missing (pruned.withFragment fragment now tie) fragment.frameId
    exact (pruned.withFragment_spec fragment now tie).2.2.trans limits

/-- A push brings no frame into the table but that of its fragment. -/
theorem PushEffect.mem_pending (effect : PushEffect pruned now tie decoded result after)
    (member : frameId ∈ after.pending) :
    frameId ∈ pruned.pending ∨ ∃ fragment, decoded = .ok fragment ∧ fragment.frameId = frameId := by
  cases effect with
  | refused pending _ => exact .inl (pending ▸ member)
  | dropped pending _ _ =>
    rw [pending] at member
    exact .inl (AList.mem_erase.mp member).2
  | @repeated fragment _ _ _ _ pending _ =>
    rcases pending with pending | pending
    · exact .inl (pending ▸ member)
    · rw [pending, AList.mem_insert] at member
      rcases member with same | before
      · exact .inr ⟨fragment, rfl, same.symm⟩
      · exact .inl before
  | @added fragment missing _ _ _ _ =>
    obtain ⟨pending, -, -⟩ :=
      completeFrame_frame missing (pruned.withFragment fragment now tie) fragment.frameId
    have kept : frameId ∈ (pruned.withFragment fragment now tie).pending := by
      rcases pending with pending | pending
      · exact pending ▸ member
      · rw [pending] at member
        exact (AList.mem_erase.mp member).2
    obtain ⟨⟨frameIds, erased⟩, -, -⟩ := pruned.withFragment_spec fragment now tie
    rw [erased] at kept
    rcases (AList.mem_insert _).mp (mem_of_mem_eraseAll kept) with same | before
    · exact .inr ⟨fragment, rfl, same.symm⟩
    · exact .inl before

end PushEffect

/-- Both ways into a reassembler have such an effect, and fragments have a place in their frame. -/
structure Format.Sound (format : Format μ) : Prop where
  pushDatagram (reassembler : Reassembler μ) (datagram : List UInt8) (now : Nat) (tie : Tie) :
    PushEffect (reassembler.pruneExpiredAt now) now tie (format.decode datagram)
      (format.pushDatagram reassembler datagram now tie).1
      (format.pushDatagram reassembler datagram now tie).2
  pushDatagramOwned (reassembler : Reassembler μ) (datagram : List UInt8) (now : Nat) (tie : Tie) :
    PushEffect (reassembler.pruneExpiredAt now) now tie (format.decode datagram)
      (format.pushDatagramOwned reassembler datagram now tie).1
      (format.pushDatagramOwned reassembler datagram now tie).2
  inside {datagram : List UInt8} {fragment : Fragment μ}
    (decoded : format.decode datagram = .ok fragment) :
    fragment.fragmentIndex < fragment.fragmentCount

theorem PendingFrame.bytes_add (now : Nat) (vacant : fragment.fragmentIndex ∉ frame.fragments) :
    (frame.add fragment now).bytes = fragment.payload.length + frame.bytes :=
  weigh_insert_new List.length fragment.payload (AList.lookup_eq_none.mpr vacant)

/-- The media reassembler once the byte limit was checked. -/
theorem media_insertFragment {pruned : QuicMediaReassembler.Self} {fragment : QuicMediaFragment}
    (vacant : fragment.fragmentIndex ∉ (pruned.entryOf fragment now).fragments)
    (within : ¬ exceeds pruned.maxFrameBytes ((pruned.entryOf fragment now).bytes +
      fragment.payload.length)) :
    PushEffect pruned now tie (.ok fragment) (insertFragment pruned fragment now tie).1
      (insertFragment pruned fragment now tie).2 := by
  unfold insertFragment
  by_cases contradicts : (pruned.entryOf fragment now).info ≠ fragment.info ∨
      (pruned.entryOf fragment now).fragmentCount ≠ fragment.fragmentCount
  · rw [← entryOf, if_pos contradicts]
    exact .dropped rfl ⟨rfl, rfl, rfl⟩ fun _ => contradicts
  · rw [← entryOf, if_neg contradicts]
    obtain ⟨info, count⟩ := not_or.mp contradicts
    refine .added _ (not_not.mp info) (not_not.mp count) vacant ?_
    rwa [PendingFrame.bytes_add now vacant, Nat.add_comm]

theorem media_pushFragment (reassembler : QuicMediaReassembler.Self)
    (decoded : Except QuinnTransportError QuicMediaFragment) (now : Nat) (tie : Tie) :
    PushEffect (reassembler.pruneExpiredAt now) now tie decoded
      (pushFragment reassembler decoded now tie).1
      (pushFragment reassembler decoded now tie).2 := by
  unfold pushFragment
  generalize reassembler.pruneExpiredAt now = pruned
  cases decoded with
  | error error => exact .refused rfl ⟨rfl, rfl, rfl⟩
  | ok fragment =>
    simp only
    cases found : pruned.pending.lookup fragment.frameId with
    | none =>
      have entry : pruned.entryOf fragment now = .new fragment now := by
        simp [entryOf, found]
      have empty : (PendingFrame.new fragment now).bytes = 0 := rfl
      by_cases above : exceeds pruned.maxFrameBytes fragment.payload.length
      · rw [if_pos above]
        refine .dropped (erase_of_missing found).symm ⟨rfl, rfl, rfl⟩ fun unlimited => ?_
        obtain ⟨bound, configured, -⟩ := above
        simp [unlimited] at configured
      · rw [if_neg above]
        refine media_insertFragment ?_ ?_
        · rw [entry]
          exact AList.notMem_empty _
        · rwa [entry, empty, Nat.zero_add]
    | some existing =>
      have entry : pruned.entryOf fragment now = existing := by
        simp [entryOf, found]
      simp only
      by_cases taken : fragment.fragmentIndex ∈ existing.fragments
      · simpa [taken] using .repeated found taken (.inl rfl) ⟨rfl, rfl, rfl⟩
      rw [if_neg taken]
      by_cases above : exceeds pruned.maxFrameBytes (existing.bytes + fragment.payload.length)
      · rw [if_pos above]
        refine .dropped rfl ⟨rfl, rfl, rfl⟩ fun unlimited => ?_
        obtain ⟨bound, configured, -⟩ := above
        simp [unlimited] at configured
      · simpa [above] using media_insertFragment (by rwa [entry]) (by rwa [entry])

theorem au_checkFrameBytes {pruned : QuicAuReassembler.Self} {fragment : QuicAuFragment}
    (info : (pruned.entryOf fragment now).info = fragment.info)
    (count : (pruned.entryOf fragment now).fragmentCount = fragment.fragmentCount)
    (vacant : fragment.fragmentIndex ∉ (pruned.entryOf fragment now).fragments) :
    let inserted : QuicAuReassembler.Self :=
      { pruned with
        pending := pruned.pending.insert fragment.frameId
          ((pruned.entryOf fragment now).add fragment now) }
    PushEffect pruned now tie (.ok fragment) (checkFrameBytes inserted fragment.frameId tie).1
      (checkFrameBytes inserted fragment.frameId tie).2 := by
  intro inserted
  have found : inserted.pending.lookup fragment.frameId =
      some ((pruned.entryOf fragment now).add fragment now) := AList.lookup_insert _
  have emptied : inserted.pending.erase fragment.frameId = pruned.pending.erase fragment.frameId :=
    erase_insert_alist _ _ _
  unfold checkFrameBytes
  rw [found]
  cases configured : pruned.maxFrameBytes with
  | none =>
    refine .added _ info count vacant ?_
    rintro ⟨bound, impossible, -⟩
    simp [configured] at impossible
  | some limit =>
    simp only
    by_cases above : limit < ((pruned.entryOf fragment now).add fragment now).bytes
    · rw [if_pos above]
      refine .dropped emptied ⟨rfl, rfl, rfl⟩ fun unlimited => ?_
      simp [configured] at unlimited
    · rw [if_neg above]
      refine .added _ info count vacant ?_
      rintro ⟨bound, same, beyond⟩
      rw [configured] at same
      cases same
      exact above beyond

theorem au_pushFragment (reassembler : QuicAuReassembler.Self)
    (decoded : Except QuinnTransportError QuicAuFragment) (now : Nat) (tie : Tie) :
    PushEffect (reassembler.pruneExpiredAt now) now tie decoded
      (QuicAuReassembler.pushFragment reassembler decoded now tie).1
      (QuicAuReassembler.pushFragment reassembler decoded now tie).2 := by
  unfold QuicAuReassembler.pushFragment
  generalize reassembler.pruneExpiredAt now = pruned
  cases decoded with
  | error error => exact .refused rfl ⟨rfl, rfl, rfl⟩
  | ok fragment =>
    simp only
    rw [← entryOf]
    by_cases contradicts : (pruned.entryOf fragment now).info ≠ fragment.info ∨
        (pruned.entryOf fragment now).fragmentCount ≠ fragment.fragmentCount
    · simpa [contradicts] using .dropped rfl ⟨rfl, rfl, rfl⟩ fun _ => contradicts
    rw [if_neg contradicts]
    obtain ⟨info, count⟩ := not_or.mp contradicts
    by_cases taken : fragment.fragmentIndex ∈ (pruned.entryOf fragment now).fragments
    · rw [if_pos taken]
      cases found : pruned.pending.lookup fragment.frameId with
      | none =>
        -- a new frame has no fragment yet
        have entry : pruned.entryOf fragment now = .new fragment now := by
          simp [entryOf, found]
        rw [entry] at taken
        exact absurd taken (AList.notMem_empty _)
      | some existing =>
        have entry : pruned.entryOf fragment now = existing := by
          simp [entryOf, found]
        rw [entry] at taken ⊢
        exact .repeated found taken (.inr rfl) ⟨rfl, rfl, rfl⟩
    · simpa [taken] using au_checkFrameBytes (not_not.mp info) (not_not.mp count) taken

/-- **The media reassembler.** -/
theorem media_sound : mediaFormat.Sound where
  pushDatagram reassembler datagram := media_pushFragment reassembler _
  pushDatagramOwned reassembler datagram now tie := by
    have owned : mediaFormat.pushDatagramOwned reassembler datagram now tie =
        mediaFormat.pushDatagram reassembler datagram now tie := by
      show pushFragment _ _ _ _ = pushFragment _ _ _ _
      rw [media_decodeOwned]
    rw [owned]
    exact media_pushFragment reassembler _ now tie
  inside := media_decode_inside

/-- **The access unit reassembler.** -/
theorem au_sound : auFormat.Sound where
  pushDatagram reassembler datagram := au_pushFragment reassembler _
  pushDatagramOwned reassembler datagram now tie := by
    have owned : auFormat.pushDatagramOwned reassembler datagram now tie =
        auFormat.pushDatagram reassembler datagram now tie := by
      show QuicAuReassembler.pushFragment _ _ _ _ = QuicAuReassembler.pushFragment _ _ _ _
      rw [au_decodeOwned]
    rw [owned]
    exact au_pushFragment reassembler _ now tie
  inside := au_decode_inside

/-! ### Calls -/

/-- **A push**, whichever way the datagram comes in. -/
theorem Format.Sound.push {format : Format μ} (sound : format.Sound) {call : Call}
    {datagram : List UInt8} (pushed : call.datagram = some datagram) (reassembler : Reassembler μ) :
    ∃ tie result after, format.perform reassembler call = (some result, after) ∧
      PushEffect (reassembler.pruneExpiredAt call.now) call.now tie (format.decode datagram)
        result after := by
  cases call with
  | pushDatagram _ now tie =>
    cases pushed
    exact ⟨tie, _, _, rfl, sound.pushDatagram reassembler datagram now tie⟩
  | pushDatagramOwned _ now tie =>
    cases pushed
    exact ⟨tie, _, _, rfl, sound.pushDatagramOwned reassembler datagram now tie⟩
  | pruneExpired now tie => cases pushed

variable (format : Format μ) (start : Reassembler μ)

theorem Format.perform_prune {call : Call} (idle : call.datagram = none) (reassembler : Reassembler μ) :
    ∃ tie, format.perform reassembler call = (none, reassembler.pruneExpired call.now tie) := by
  cases call with
  | pushDatagram | pushDatagramOwned => cases idle
  | pruneExpired now tie => exact ⟨tie, rfl⟩

theorem Format.after_append (calls : List Call) (call : Call) :
    format.after start (calls ++ [call]) = (format.perform (format.after start calls) call).2 := by
  simp [Format.after]

theorem Format.answers_append (first second : List Call) :
    format.answers start (first ++ second) =
      format.answers start first ++ format.answers (format.after start first) second := by
  induction first generalizing start with
  | nil => rfl
  | cons call rest ih =>
    rw [List.cons_append, Format.answers, ih]
    rfl

end MiniRemoteDesktop.Quic
