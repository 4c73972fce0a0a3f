/-
**What a reassembler retains**, whatever datagrams it is sent.

* `Format.AgreedOn` — a completed frame is the concatenation of datagrams that were pushed, one for
  each place, all with the metadata and the fragment count of the frame.
* `reassembly_bounds` — **the limits hold after every sequence of calls**, no call panics, and a
  frame is only completed from fragments that agreed.
-/

import MiniRemoteDesktop.Quic.Push

namespace MiniRemoteDesktop.Quic

open Reassembler Table

variable {μ : Type}

/-! ### The limits -/

/-- A new reassembler with both byte limits configured. -/
def Reassembler.limited (config : QuicAuReassemblerConfig) (limit total : Nat) : Reassembler μ :=
  { Reassembler.new config with maxFrameBytes := some limit, maxTotalBytes := some total }

/-- **The limits of the configuration.** -/
structure Bounded (config : QuicAuReassemblerConfig) (limit total : Nat)
    (reassembler : Reassembler μ) : Prop where
  frames : reassembler.pending.entries.length ≤ max 1 config.maxPendingFrames
  frame (frameId : UInt32) (frame : PendingFrame μ)
    (found : reassembler.pending.lookup frameId = some frame) :
    frame.bytes ≤ limit ∧ (frame.fragments.entries.map Sigma.fst).Nodup ∧ frame.Inside
  total : reassembler.pendingBytes ≤ total

/-- **The frame is made of fragments that agreed**, one of the datagrams for each place. -/
def Format.AgreedOn (format : Format μ) (datagrams : List (List UInt8))
    (frame : CompletedFrame μ) : Prop :=
  ∃ parts : List (List UInt8), parts ≠ [] ∧ parts.length < 2 ^ 16 ∧ frame.payload = parts.flatten ∧
    ∀ index part, parts[index]? = some part → ∃ datagram ∈ datagrams,
      format.decode datagram = .ok ⟨frame.frameId, frame.info, UInt16.ofNat index,
        UInt16.ofNat parts.length, part⟩

/-- What may be asked of a call's answer after the calls before it. -/
structure Format.Harmless (format : Format μ) (start : Reassembler μ) (calls : List Call)
    (call : Call) : Prop where
  returns : (format.perform (format.after start calls) call).1 ≠ some .panicked
  agreed (frame : CompletedFrame μ)
    (completed : (format.perform (format.after start calls) call).1 = some (.completed frame)) :
    format.AgreedOn ((calls ++ [call]).filterMap Call.datagram) frame

/-! ### The invariant -/

/-- What is known of a pending frame once the datagrams `seen` were pushed. -/
structure Received (format : Format μ) (limit : Nat) (seen : List (List UInt8)) (frameId : UInt32)
    (frame : PendingFrame μ) : Prop where
  bytes : frame.bytes ≤ limit
  inside : frame.Inside
  pushed (index : UInt16) (payload : List UInt8)
    (held : frame.fragments.lookup index = some payload) : ∃ datagram ∈ seen,
      format.decode datagram = .ok ⟨frameId, frame.info, index, frame.fragmentCount, payload⟩

/-- The invariant of a run. -/
structure Retained (format : Format μ) (config : QuicAuReassemblerConfig) (limit total : Nat)
    (seen : List (List UInt8)) (reassembler : Reassembler μ) : Prop where
  config : reassembler.config = config
  frame : reassembler.maxFrameBytes = some limit
  total : reassembler.maxTotalBytes = some total
  within : ¬ reassembler.overLimit
  frames : Every (Received format limit seen) reassembler.pending

variable {format : Format μ} {config : QuicAuReassemblerConfig} {limit total : Nat}
  {seen more : List (List UInt8)} {reassembler after : Reassembler μ}

variable {frame : PendingFrame μ}

theorem Received.mono {frameId : UInt32} (received : Received format limit seen frameId frame)
    (grown : seen ⊆ more) :
    Received format limit more frameId frame := by
  refine ⟨received.bytes, received.inside, ?_⟩
  intro index payload held
  obtain ⟨datagram, member, decoded⟩ := received.pushed index payload held
  exact ⟨datagram, grown member, decoded⟩

theorem Retained.mono (retained : Retained format config limit total seen reassembler)
    (grown : seen ⊆ more) : Retained format config limit total more reassembler :=
  { retained with frames := retained.frames.mono fun _ _ received => received.mono grown }

theorem Retained.bounded (retained : Retained format config limit total seen reassembler) :
    Bounded config limit total reassembler := by
  obtain ⟨few, light⟩ := not_or.mp retained.within
  refine ⟨?_, ?_, ?_⟩
  · rw [retained.config] at few
    simp [max_comm, not_lt.mp few]
  · intro frameId frame found
    have received := retained.frames frameId frame found
    exact ⟨received.bytes, frame.fragments.nodupKeys, received.inside⟩
  · refine not_lt.mp fun above => light ⟨total, retained.total, above⟩

/-- A smaller table with the same limits is within them too. -/
theorem not_overLimit_of_le (within : ¬ reassembler.overLimit) (limits : SameLimits reassembler after)
    (fewer : after.pending.entries.length ≤ reassembler.pending.entries.length)
    (lighter : after.pendingBytes ≤ reassembler.pendingBytes) : ¬ after.overLimit := by
  rintro (many | ⟨bound, configured, above⟩)
  · rw [limits.config] at many
    exact within (.inl (lt_of_lt_of_le many fewer))
  · rw [limits.total] at configured
    exact within (.inr ⟨bound, configured, lt_of_lt_of_le above lighter⟩)

variable {datagram : List UInt8} {now : Nat}

section

variable (retained : Retained format config limit total seen reassembler)
include retained

theorem Retained.eraseAll (limits : SameLimits reassembler after) (frameIds : List UInt32)
    (pending : after.pending = Table.eraseAll reassembler.pending frameIds) :
    Retained format config limit total seen after := by
  refine ⟨limits.config.trans retained.config, limits.frame.trans retained.frame,
    limits.total.trans retained.total, ?_, ?_⟩
  · refine not_overLimit_of_le retained.within limits ?_ ?_
    · simpa [pending, length_entries] using weigh_eraseAll_le _ _ _
    · simpa [pendingBytes, pending] using weigh_eraseAll_le _ _ _
  · simp [pending, retained.frames.eraseAll frameIds]

/-! ### The steps -/

theorem pruneExpiredAt_retained (now : Nat) :
    Retained format config limit total seen (reassembler.pruneExpiredAt now) := by
  obtain ⟨pending, limits⟩ := reassembler.pruneExpiredAt_pending now
  exact retained.eraseAll limits _ pending

theorem pruneExpired_retained (now : Nat) (tie : Tie) :
    Retained format config limit total seen (reassembler.pruneExpired now tie) := by
  obtain ⟨⟨frameIds, pending⟩, -, limits⟩ :=
    enforcePendingLimit_spec tie (reassembler.pruneExpiredAt now)
  exact (pruneExpiredAt_retained retained now).eraseAll limits _ pending

variable {fragment : Fragment μ}

/-- The frame of an accepted fragment, with the fragment in it. -/
theorem Retained.received_add (decoded : format.decode datagram = .ok fragment)
    (inside : fragment.fragmentIndex < fragment.fragmentCount)
    (info : (reassembler.entryOf fragment now).info = fragment.info)
    (count : (reassembler.entryOf fragment now).fragmentCount = fragment.fragmentCount)
    (within : ¬ exceeds reassembler.maxFrameBytes ((reassembler.entryOf fragment now).add fragment
      now).bytes) :
    Received format limit (seen ++ [datagram]) fragment.frameId
      ((reassembler.entryOf fragment now).add fragment now) := by
  have earlier : ∀ index payload,
      (reassembler.entryOf fragment now).fragments.lookup index = some payload →
      index < fragment.fragmentCount ∧ ∃ datagram ∈ seen, format.decode datagram =
        .ok ⟨fragment.frameId, fragment.info, index, fragment.fragmentCount, payload⟩ := by
    intro index payload held
    cases found : reassembler.pending.lookup fragment.frameId with
    | none =>
      rw [entryOf, found] at held
      cases held
    | some existing =>
      have entry : reassembler.entryOf fragment now = existing := by
        simp [entryOf, found]
      rw [entry] at info count held
      have received := retained.frames _ _ found
      rw [← info, ← count]
      exact ⟨received.inside index (AList.lookup_isSome.mp (by rw [held]; rfl)),
        received.pushed index payload held⟩
  have split : ∀ index payload,
      ((reassembler.entryOf fragment now).add fragment now).fragments.lookup index =
        some payload → index = fragment.fragmentIndex ∧ payload = fragment.payload ∨
        (reassembler.entryOf fragment now).fragments.lookup index = some payload := by
    intro index payload held
    rw [PendingFrame.add, lookup_insert_alist] at held
    by_cases same : index = fragment.fragmentIndex
    · rw [if_pos same] at held
      exact .inl ⟨same, (Option.some.inj held).symm⟩
    · rw [if_neg same] at held
      exact .inr held
  refine ⟨?_, ?_, ?_⟩
  · exact not_lt.mp fun above => within ⟨limit, retained.frame, above⟩
  · intro index member
    obtain ⟨payload, held⟩ := Option.isSome_iff_exists.mp (AList.lookup_isSome.mpr member)
    show index < (reassembler.entryOf fragment now).fragmentCount
    rw [count]
    obtain ⟨rfl, -⟩ | held := split index payload held
    · exact inside
    · exact (earlier index payload held).1
  · intro index payload held
    show ∃ datagram ∈ _, format.decode datagram =
      .ok ⟨_, (reassembler.entryOf fragment now).info, index,
        (reassembler.entryOf fragment now).fragmentCount, payload⟩
    rw [info, count]
    obtain ⟨rfl, rfl⟩ | held := split index payload held
    · exact ⟨datagram, List.mem_append_right _ (List.mem_singleton_self _), decoded⟩
    · obtain ⟨earlier, member, read⟩ := (earlier index payload held).2
      exact ⟨earlier, List.mem_append_left _ member, read⟩

theorem Retained.withFragment (tie : Tie)
    (received : Received format limit more fragment.frameId ((reassembler.entryOf fragment now).add
      fragment now))
    (grown : seen ⊆ more) :
    Retained format config limit total more (reassembler.withFragment fragment now tie) := by
  obtain ⟨⟨frameIds, pending⟩, within, limits⟩ := reassembler.withFragment_spec fragment now tie
  refine ⟨limits.config.trans retained.config, limits.frame.trans retained.frame,
    limits.total.trans retained.total, within, ?_⟩
  rw [pending]
  exact ((retained.mono grown).frames.insert received).eraseAll frameIds

end

/-- A full frame is made of the fragments that were pushed for it. -/
theorem Received.agreedOn {frameId : UInt32} (received : Received format limit seen frameId frame)
    (some : frame.fragmentCount ≠ 0)
    (length : frame.fragments.entries.length = frame.fragmentCount.toNat) :
    format.AgreedOn seen ⟨frameId, frame.info, frame.parts.flatten⟩ := by
  have full := (PendingFrame.full_iff received.inside).mp length
  have size := frame.length_parts
  refine ⟨frame.parts, ?_, size ▸ frame.fragmentCount.toNat_lt, rfl, ?_⟩
  · intro empty
    rw [empty] at size
    exact some (UInt16.toNat_inj.mp size.symm)
  · intro index part found
    have below : index < frame.fragmentCount.toNat := size ▸ (List.getElem?_eq_some_iff.mp found).1
    have inside : UInt16.ofNat index < frame.fragmentCount := by
      rwa [UInt16.lt_iff_toNat_lt, PendingFrame.toNat_ofNat_place below]
    obtain ⟨payload, held⟩ :=
      Option.isSome_iff_exists.mp (AList.lookup_isSome.mpr (full _ inside))
    have same : part = payload := by
      rw [PendingFrame.getElem?_parts below, held] at found
      exact (Option.some.inj found).symm
    rw [size, UInt16.ofNat_toNat, same]
    exact received.pushed _ _ held

/-- **A push keeps the invariant**, does not panic, and completes only agreed frames. -/
theorem PushEffect.retained {tie : Tie} {decoded : Except QuinnTransportError (Fragment μ)}
    {result : Pushed μ} (effect : PushEffect reassembler now tie decoded result after)
    (sound : format.Sound) (read : format.decode datagram = decoded)
    (retained : Retained format config limit total seen reassembler) :
    Retained format config limit total (seen ++ [datagram]) after ∧ result ≠ .panicked ∧
      ∀ frame, result = .completed frame → format.AgreedOn (seen ++ [datagram]) frame := by
  have grown : seen ⊆ seen ++ [datagram] := List.subset_append_left _ _
  have later := retained.mono grown
  cases effect with
  | refused pending limits =>
    exact ⟨later.eraseAll limits [] pending, by rintro ⟨⟩, by rintro _ ⟨⟩⟩
  | dropped pending limits _ =>
    exact ⟨later.eraseAll limits [_] pending, by rintro ⟨⟩, by rintro _ ⟨⟩⟩
  | @repeated fragment existing _ found taken pending limits =>
    refine ⟨?_, by rintro ⟨⟩, by rintro _ ⟨⟩⟩
    rcases pending with same | touched
    · exact later.eraseAll limits [] same
    · have received := later.frames _ _ found
      refine ⟨limits.config.trans later.config, limits.frame.trans later.frame,
        limits.total.trans later.total, ?_, ?_⟩
      · refine not_overLimit_of_le later.within limits ?_ ?_
        · rw [touched, length_entries, length_entries]
          refine (weigh_replace _ found ?_).le
          rfl
        · rw [pendingBytes, touched]
          refine (weigh_replace _ found ?_).le
          rfl
      · rw [touched]
        exact later.frames.insert ⟨received.bytes, received.inside, received.pushed⟩
  | @added fragment missing info count vacant within =>
    have inside := sound.inside read
    have kept := retained.withFragment tie (retained.received_add read inside info count within) grown
    cases found : (reassembler.withFragment fragment now tie).pending.lookup fragment.frameId with
    | none =>
      rw [completeFrame_of_missing found]
      exact ⟨kept, by rintro ⟨⟩, by rintro _ ⟨⟩⟩
    | some frame =>
      have received := kept.frames _ _ found
      rw [completeFrame_of_pending found received.inside]
      by_cases length : frame.fragments.entries.length = frame.fragmentCount.toNat
      · rw [if_pos length]
        refine ⟨kept.eraseAll ⟨rfl, rfl, rfl⟩ [fragment.frameId] rfl, by rintro ⟨⟩, ?_⟩
        rintro _ ⟨⟩
        refine received.agreedOn ?_ length
        simp [lookup_withFragment found, PendingFrame.add, count, fragmentCount_ne_zero inside]
      · rw [if_neg length]
        exact ⟨kept, by rintro ⟨⟩, by rintro _ ⟨⟩⟩

/-! ### Runs -/

theorem perform_retained (sound : format.Sound)
    (retained : Retained format config limit total seen reassembler) (call : Call) :
    Retained format config limit total (seen ++ [call].filterMap Call.datagram)
        (format.perform reassembler call).2 ∧
      (format.perform reassembler call).1 ≠ some .panicked ∧
      ∀ frame, (format.perform reassembler call).1 = some (.completed frame) →
        format.AgreedOn (seen ++ [call].filterMap Call.datagram) frame := by
  cases pushed : call.datagram with
  | none =>
    obtain ⟨tie, performed⟩ := format.perform_prune pushed reassembler
    have same : [call].filterMap Call.datagram = [] := by rw [List.filterMap_cons_none pushed]; rfl
    rw [performed, same, List.append_nil]
    exact ⟨pruneExpired_retained retained call.now tie, nofun, nofun⟩
  | some datagram =>
    obtain ⟨tie, result, after, performed, effect⟩ := sound.push pushed reassembler
    have same : [call].filterMap Call.datagram = [datagram] := by
      simp [List.filterMap_cons_some pushed]
    rw [performed, same]
    obtain ⟨kept, returns, agreed⟩ :=
      effect.retained sound rfl (pruneExpiredAt_retained retained call.now)
    exact ⟨kept, fun panics => returns (Option.some.inj panics),
      fun frame completed => agreed frame (Option.some.inj completed)⟩

theorem after_retained (sound : format.Sound) (config : QuicAuReassemblerConfig)
    (limit total : Nat) (calls : List Call) :
    Retained format config limit total (calls.filterMap Call.datagram)
      (format.after (limited config limit total) calls) := by
  induction calls using List.reverseRecOn with
  | nil =>
    refine ⟨rfl, rfl, rfl, not_overLimit_of_empty rfl, ?_⟩
    rintro frameId frame ⟨⟩
  | append_singleton calls call ih =>
    simpa [Format.after_append] using (perform_retained sound ih call).1

theorem harmless_of_sound (sound : format.Sound) (config : QuicAuReassemblerConfig)
    (limit total : Nat) (calls : List Call) (call : Call) :
    format.Harmless (limited config limit total) calls call := by
  obtain ⟨-, returns, agreed⟩ :=
    perform_retained sound (after_retained sound config limit total calls) call
  refine ⟨returns, ?_⟩
  simpa using agreed

/-- **The memory of both reassemblers is bounded**: after every sequence of calls the limits hold,
and the next call neither panics nor completes a frame from fragments that did not agree. -/
theorem reassembly_bounds (config : QuicAuReassemblerConfig) (limit total : Nat)
    (calls : List Call) (call : Call) :
    (Bounded config limit total (mediaFormat.after (limited config limit total) calls) ∧
      mediaFormat.Harmless (limited config limit total) calls call) ∧
    (Bounded config limit total (auFormat.after (limited config limit total) calls) ∧
      auFormat.Harmless (limited config limit total) calls call) :=
  ⟨⟨(after_retained media_sound config limit total calls).bounded,
      harmless_of_sound media_sound config limit total calls call⟩,
    (after_retained au_sound config limit total calls).bounded,
      harmless_of_sound au_sound config limit total calls call⟩

end MiniRemoteDesktop.Quic
