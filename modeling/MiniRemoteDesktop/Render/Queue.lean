/-
**The render queues of the sessions** (`mrd-service`, `media_render_queue_registry.rs`).

A session has one queue of frames that wait for its render worker. Whether a worker runs is a flag of the
queue, and the queue is an entry of a map that other calls create and remove.

* `enqueueBounded`, `takeNextOrFinish`, `takeLatestOrFinish`, `remove` — the methods of the registry.
* `stateOf` — the queue of a session, empty and without a worker where there is no entry. Every method is a
  change of this view (`stateOf_store`, `stateOf_takes`).
-/

import MiniRemoteDesktop.Lib.Table
import MiniRemoteDesktop.Proto

namespace MiniRemoteDesktop.Render

/-- `start`: the caller starts a worker with this frame. -/
inductive MediaRenderQueueEnqueue (φ : Type)
  | start (frame : φ)
  | queued (replaced : Bool) (depth : Nat)

/-- A queue, of frames of any kind; instants are milliseconds. -/
structure MediaRenderQueueState (φ : Type) where
  running : Bool
  pending : List φ
  (lastEnqueueAt lastPresentAt : Option Nat)

/-- `MediaRenderQueueState::default()`. -/
def MediaRenderQueueState.empty (φ : Type) : MediaRenderQueueState φ where
  running := false
  pending := []
  lastEnqueueAt := none
  lastPresentAt := none

/-- The queues of the sessions. -/
structure MediaRenderQueueRegistry (φ : Type) where
  queues : Finmap fun _ : SessionId => MediaRenderQueueState φ

inductive LanRenderQueuePolicy
  | latest
  | pacedFifo

namespace MediaRenderQueueRegistry

variable {φ : Type}

def new : MediaRenderQueueRegistry φ where
  queues := ∅

/-- The queue of a session, as `entry().or_default()` finds it. -/
def stateOf (registry : MediaRenderQueueRegistry φ) (sessionId : SessionId) : MediaRenderQueueState φ :=
  (registry.queues.lookup sessionId).getD (.empty φ)

def store (registry : MediaRenderQueueRegistry φ) (sessionId : SessionId)
    (state : MediaRenderQueueState φ) : MediaRenderQueueRegistry φ :=
  { queues := registry.queues.insert sessionId state }

/-- Enqueue a frame; the oldest one makes room where too many wait. -/
def enqueueBounded (registry : MediaRenderQueueRegistry φ) (sessionId : SessionId) (frame : φ)
    (maxPendingFrames : Nat) : MediaRenderQueueRegistry φ × MediaRenderQueueEnqueue φ :=
  let state := registry.stateOf sessionId
  if ¬ state.running then (registry.store sessionId { state with running := true }, .start frame)
  else
    let maxPendingFrames := max maxPendingFrames 1
    let replaced := decide (maxPendingFrames ≤ state.pending.length)
    let pending := (if replaced then state.pending.tail else state.pending) ++ [frame]
    (registry.store sessionId { state with pending }, .queued replaced pending.length)

/-- The oldest frame, or the worker is done. -/
def takeNextOrFinish (registry : MediaRenderQueueRegistry φ) (sessionId : SessionId) :
    MediaRenderQueueRegistry φ × Option φ :=
  match registry.queues.lookup sessionId with
  | none => (registry, none)
  | some state =>
    match state.pending with
    | frame :: rest => (registry.store sessionId { state with pending := rest }, some frame)
    | [] => (registry.store sessionId { state with running := false }, none)

/-- The newest frame, with the number of those it makes stale. -/
def takeLatestOrFinish (registry : MediaRenderQueueRegistry φ) (sessionId : SessionId) :
    MediaRenderQueueRegistry φ × Option φ × Nat :=
  match registry.queues.lookup sessionId with
  | none => (registry, none, 0)
  | some state =>
    match state.pending.getLast? with
    | none => (registry.store sessionId { state with running := false }, none, 0)
    | some frame =>
      (registry.store sessionId { state with pending := [] }, some frame, state.pending.length - 1)

def takeNextLanRenderFrameForPolicy (registry : MediaRenderQueueRegistry φ) (sessionId : SessionId) :
    LanRenderQueuePolicy → MediaRenderQueueRegistry φ × Option φ × Nat
  | .latest => registry.takeLatestOrFinish sessionId
  | .pacedFifo =>
    ((registry.takeNextOrFinish sessionId).1, (registry.takeNextOrFinish sessionId).2, 0)

/-- `checked_duration_since`. -/
def gapSince (last : Option Nat) (now : Nat) : Option Nat :=
  last.bind fun last => if last ≤ now then some (now - last) else none

/-- Note an enqueued frame; how long after the previous one it came. -/
def recordEnqueued (registry : MediaRenderQueueRegistry φ) (sessionId : SessionId) (now : Nat) :
    MediaRenderQueueRegistry φ × Option Nat :=
  let state := registry.stateOf sessionId
  (registry.store sessionId { state with lastEnqueueAt := some now }, gapSince state.lastEnqueueAt now)

/-- Note a presented frame likewise. -/
def recordPresented (registry : MediaRenderQueueRegistry φ) (sessionId : SessionId) (now : Nat) :
    MediaRenderQueueRegistry φ × Option Nat :=
  let state := registry.stateOf sessionId
  (registry.store sessionId { state with lastPresentAt := some now }, gapSince state.lastPresentAt now)

def remove (registry : MediaRenderQueueRegistry φ) (sessionId : SessionId) :
    MediaRenderQueueRegistry φ :=
  { queues := registry.queues.erase sessionId }

/-! ### The queue of a session afterwards -/

variable (registry : MediaRenderQueueRegistry φ) (sessionId probe : SessionId)

theorem stateOf_store (state : MediaRenderQueueState φ) :
    (registry.store sessionId state).stateOf probe =
      if probe = sessionId then state else registry.stateOf probe := by
  unfold stateOf store
  rw [Table.lookup_insert_eq]
  split <;> rfl

theorem stateOf_remove :
    (registry.remove sessionId).stateOf probe =
      if probe = sessionId then .empty φ else registry.stateOf probe := by
  unfold stateOf remove
  rw [Table.lookup_erase_eq]
  split <;> rfl

/-- **What a worker gets**, by the queue it finds. -/
inductive Taken (state : MediaRenderQueueState φ) : MediaRenderQueueState φ × Option φ → Prop
  | finished (last : MediaRenderQueueState φ) (empty : state.pending = []) (same : last.pending = [])
      (stopped : last.running = false) : Taken state (last, none)
  | frame (stale : List φ) (frame : φ) (rest : List φ) (last : MediaRenderQueueState φ)
      (split : state.pending = stale ++ frame :: rest) (left : last.pending = rest)
      (still : last.running = state.running) : Taken state (last, some frame)

theorem takeNext_taken (registry : MediaRenderQueueRegistry φ) (sessionId : SessionId) :
    let taken := registry.takeNextOrFinish sessionId
    (∀ probe, probe ≠ sessionId → taken.1.stateOf probe = registry.stateOf probe) ∧
      Taken (registry.stateOf sessionId) (taken.1.stateOf sessionId, taken.2) := by
  unfold takeNextOrFinish
  split
  next missing =>
    have empty : registry.stateOf sessionId = .empty φ := by
      simp [stateOf, missing]
    refine ⟨fun _ _ => rfl, ?_⟩
    rw [empty]
    exact .finished _ rfl rfl rfl
  next state found =>
    have here : registry.stateOf sessionId = state := by
      simp [stateOf, found]
    rw [here]
    split
    next frame rest pending =>
      refine ⟨fun probe other => (stateOf_store ..).trans (if_neg other), ?_⟩
      rw [show (_ : MediaRenderQueueState φ) = _ from stateOf_store .., if_pos rfl]
      exact .frame [] frame rest _ pending rfl rfl
    next pending =>
      refine ⟨fun probe other => (stateOf_store ..).trans (if_neg other), ?_⟩
      rw [show (_ : MediaRenderQueueState φ) = _ from stateOf_store .., if_pos rfl]
      exact .finished _ pending pending rfl

theorem takeLatest_taken (registry : MediaRenderQueueRegistry φ) (sessionId : SessionId) :
    let taken := registry.takeLatestOrFinish sessionId
    (∀ probe, probe ≠ sessionId → taken.1.stateOf probe = registry.stateOf probe) ∧
      Taken (registry.stateOf sessionId) (taken.1.stateOf sessionId, taken.2.1) := by
  unfold takeLatestOrFinish
  split
  next missing =>
    have empty : registry.stateOf sessionId = .empty φ := by
      simp [stateOf, missing]
    refine ⟨fun _ _ => rfl, ?_⟩
    rw [empty]
    exact .finished _ rfl rfl rfl
  next state found =>
    have here : registry.stateOf sessionId = state := by
      simp [stateOf, found]
    rw [here]
    split
    next pending =>
      refine ⟨fun probe other => (stateOf_store ..).trans (if_neg other), ?_⟩
      rw [show (_ : MediaRenderQueueState φ) = _ from stateOf_store .., if_pos rfl]
      have empty := List.getLast?_eq_none_iff.mp pending
      exact .finished _ empty empty rfl
    next frame pending =>
      refine ⟨fun probe other => (stateOf_store ..).trans (if_neg other), ?_⟩
      rw [show (_ : MediaRenderQueueState φ) = _ from stateOf_store .., if_pos rfl]
      obtain ⟨stale, split⟩ := List.getLast?_eq_some_iff.mp pending
      exact .frame stale frame [] _ split rfl rfl

/-- **A worker takes a frame, or is done.** Other queues stay as they are. -/
theorem takes_taken (registry : MediaRenderQueueRegistry φ) (sessionId : SessionId)
    (policy : LanRenderQueuePolicy) :
    let taken := registry.takeNextLanRenderFrameForPolicy sessionId policy
    (∀ probe, probe ≠ sessionId → taken.1.stateOf probe = registry.stateOf probe) ∧
      Taken (registry.stateOf sessionId) (taken.1.stateOf sessionId, taken.2.1) := by
  cases policy with
  | latest => exact registry.takeLatest_taken sessionId
  | pacedFifo => exact registry.takeNext_taken sessionId

/-- **What an enqueue does**: it starts a worker where none runs, and else adds the frame to the end, after
it has dropped the oldest one where the queue is full. -/
inductive Enqueued (state : MediaRenderQueueState φ) (frame : φ) (maxPendingFrames : Nat) :
    MediaRenderQueueState φ × MediaRenderQueueEnqueue φ → Prop
  | start (next : MediaRenderQueueState φ) (idle : state.running = false) (runs : next.running = true)
      (same : next.pending = state.pending) :
      Enqueued state frame maxPendingFrames (next, .start frame)
  | queued (next : MediaRenderQueueState φ) (replaced : Bool) (depth : Nat) (dropped kept : List φ)
      (busy : state.running = true) (runs : next.running = true)
      (split : state.pending = dropped ++ kept) (added : next.pending = kept ++ [frame])
      (one : dropped.length = if max maxPendingFrames 1 ≤ state.pending.length then 1 else 0) :
      Enqueued state frame maxPendingFrames (next, .queued replaced depth)

theorem enqueueBounded_enqueued (registry : MediaRenderQueueRegistry φ) (sessionId : SessionId)
    (frame : φ) (maxPendingFrames : Nat) :
    let queued := registry.enqueueBounded sessionId frame maxPendingFrames
    (∀ probe, probe ≠ sessionId → queued.1.stateOf probe = registry.stateOf probe) ∧
      Enqueued (registry.stateOf sessionId) frame maxPendingFrames
        (queued.1.stateOf sessionId, queued.2) := by
  unfold enqueueBounded
  dsimp only
  split
  next idle =>
    refine ⟨fun probe other => (stateOf_store ..).trans (if_neg other), ?_⟩
    rw [show (_ : MediaRenderQueueState φ) = _ from stateOf_store .., if_pos rfl]
    exact .start _ (Bool.eq_false_iff.mpr idle) rfl rfl
  next busy =>
    have running := not_not.mp busy
    refine ⟨fun probe other => (stateOf_store ..).trans (if_neg other), ?_⟩
    rw [show (_ : MediaRenderQueueState φ) = _ from stateOf_store .., if_pos rfl]
    by_cases full : max maxPendingFrames 1 ≤ (registry.stateOf sessionId).pending.length
    · refine .queued _ _ _ ((registry.stateOf sessionId).pending.take 1)
        (registry.stateOf sessionId).pending.tail running running ?_ ?_ ?_
      · rw [← List.drop_one, List.take_append_drop]
      · simp [full]
      · rw [if_pos full, List.length_take]
        have := le_max_right maxPendingFrames 1
        omega
    · refine .queued _ _ _ [] (registry.stateOf sessionId).pending running running rfl ?_ ?_
      · simp [full]
      · simp [full]

end MediaRenderQueueRegistry

end MiniRemoteDesktop.Render
