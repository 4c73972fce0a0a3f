/-
**The render workers** (`mrd-service`, `media_render_worker.rs`).

An enqueue that finds no running worker starts one with its frame. A worker renders its frame, takes the next
one from the queue of its session, and ends when there is none; meanwhile any call may change the queue, or
remove it.

* `step` — a call of the registry, or a step of a worker.
* `one_worker` — **where no frame is enqueued for a session whose queue was removed under a live worker**, a
  session has one worker, which renders its frames in order; `second_worker` — otherwise it gets a second.
-/

import MiniRemoteDesktop.Lib.Execution
import MiniRemoteDesktop.Render.Queue

namespace MiniRemoteDesktop.Render

open Execution
open MediaRenderQueueState

variable {φ : Type}

/-- A live worker, with the frame that it has still to render. -/
structure RenderWorker (φ : Type) where
  sessionId : SessionId
  frame : Option φ

/-- The registry and the live workers; with what was enqueued and rendered for each session, and the bound
of its last enqueue. -/
structure RenderService (φ : Type) where
  registry : MediaRenderQueueRegistry φ
  workers : List (RenderWorker φ)
  (enqueued rendered : SessionId → List φ)
  bound : SessionId → Nat

def RenderService.new : RenderService φ where
  registry := .new
  workers := []
  enqueued _ := []
  rendered _ := []
  bound _ := 1

inductive RenderStep (φ : Type)
  | recordsEnqueued (sessionId : SessionId) (now : Nat)
  | enqueues (sessionId : SessionId) (frame : φ) (maxPendingFrames : Nat)
  | renders (worker : Nat)
  | recordsPresented (sessionId : SessionId) (now : Nat)
  | takes (worker : Nat) (policy : LanRenderQueuePolicy)
  | removes (sessionId : SessionId)

/-- A frame is enqueued, and a worker started if it has to be. -/
def RenderService.enqueue (service : RenderService φ) (sessionId : SessionId) (frame : φ)
    (maxPendingFrames : Nat) : RenderService φ :=
  let queued := service.registry.enqueueBounded sessionId frame maxPendingFrames
  { service with
    registry := queued.1
    workers := match queued.2 with
      | .start frame => service.workers ++ [{ sessionId, frame := some frame }]
      | .queued _ _ => service.workers
    enqueued := Function.update service.enqueued sessionId (service.enqueued sessionId ++ [frame])
    bound := Function.update service.bound sessionId (max maxPendingFrames 1) }

/-- A worker that has rendered its frame takes the next one, or ends. -/
def RenderService.take (service : RenderService φ) (worker : Nat) (sessionId : SessionId)
    (policy : LanRenderQueuePolicy) : RenderService φ :=
  let taken := service.registry.takeNextLanRenderFrameForPolicy sessionId policy
  { service with
    registry := taken.1
    workers := match taken.2.1 with
      | some frame => service.workers.set worker { sessionId, frame := some frame }
      | none => service.workers.eraseIdx worker }

def step (service : RenderService φ) : RenderStep φ → Option (RenderService φ)
  | .recordsEnqueued sessionId now =>
    some { service with registry := (service.registry.recordEnqueued sessionId now).1 }
  | .enqueues sessionId frame maxPendingFrames => some (service.enqueue sessionId frame maxPendingFrames)
  | .renders worker =>
    match service.workers[worker]? with
    | some ⟨sessionId, some frame⟩ =>
      some { service with
        workers := service.workers.set worker { sessionId, frame := none }
        rendered := Function.update service.rendered sessionId (service.rendered sessionId ++ [frame]) }
    | _ => none
  | .recordsPresented sessionId now =>
    some { service with registry := (service.registry.recordPresented sessionId now).1 }
  | .takes worker policy =>
    match service.workers[worker]? with
    | some ⟨sessionId, none⟩ => some (service.take worker sessionId policy)
    | _ => none
  | .removes sessionId => some { service with registry := service.registry.remove sessionId }

/-! ### The law -/

/-- The live workers of a session. -/
def RenderService.live (service : RenderService φ) (sessionId : SessionId) : List (RenderWorker φ) :=
  service.workers.filter (·.sessionId = sessionId)

def RenderService.pending (service : RenderService φ) (sessionId : SessionId) : List φ :=
  (service.registry.stateOf sessionId).pending

def RenderService.running (service : RenderService φ) (sessionId : SessionId) : Bool :=
  (service.registry.stateOf sessionId).running

/-- **What is promised for a session.** -/
structure Lawful (service : RenderService φ) (sessionId : SessionId) : Prop where
  one : (service.live sessionId).length ≤ 1
  /-- The frames are rendered in the order in which they were enqueued. -/
  ordered : (service.rendered sessionId).Sublist (service.enqueued sessionId)
  served : service.pending sessionId ≠ [] → service.live sessionId ≠ []
  few : (service.pending sessionId).length ≤ service.bound sessionId

/-- **No frame is enqueued for a session that has a worker and is not running**, nor with a bound below
the frames that wait already. -/
def Undisturbed (service : RenderService φ) : RenderStep φ → Prop
  | .enqueues sessionId _ maxPendingFrames =>
    (service.running sessionId = false → service.live sessionId = []) ∧
      (service.pending sessionId).length ≤ max maxPendingFrames 1
  | _ => True

/-! ### The invariant -/

/-- The frames that the workers of a session have still to render. -/
def RenderService.held (service : RenderService φ) (sessionId : SessionId) : List φ :=
  (service.live sessionId).filterMap (·.frame)

/-- **A session that is served**: its flag is up only with one worker, frames wait only while it is up, and
what is rendered, held and waiting is in order. -/
structure Serving (service : RenderService φ) (sessionId : SessionId) : Prop where
  one : (service.live sessionId).length ≤ 1
  runs : service.running sessionId = true → (service.live sessionId).length = 1
  waits : service.pending sessionId ≠ [] → service.running sessionId = true
  ordered : (service.rendered sessionId ++ service.held sessionId ++ service.pending sessionId).Sublist
    (service.enqueued sessionId)
  few : (service.pending sessionId).length ≤ service.bound sessionId

theorem new_serving (sessionId : SessionId) : Serving (.new : RenderService φ) sessionId where
  one := Nat.zero_le _
  runs up := nomatch up
  waits waiting := (waiting rfl).elim
  ordered := .slnil
  few := Nat.zero_le _

variable {service : RenderService φ} {sessionId : SessionId}

theorem Serving.lawful (serving : Serving service sessionId) : Lawful service sessionId where
  one := serving.one
  ordered := ((List.sublist_append_left _ _).trans (List.sublist_append_left _ _)).trans serving.ordered
  served waiting none := by
    have one := serving.runs (serving.waits waiting)
    simp [none] at one
  few := serving.few

variable {next : RenderService φ}

/-- A session is served as before where nothing of it changed. -/
theorem Serving.of_same (serving : Serving service sessionId)
    (live : next.live sessionId = service.live sessionId)
    (running : next.running sessionId = service.running sessionId)
    (pending : next.pending sessionId = service.pending sessionId)
    (rendered : next.rendered sessionId = service.rendered sessionId)
    (enqueued : next.enqueued sessionId = service.enqueued sessionId)
    (bound : next.bound sessionId = service.bound sessionId) : Serving next sessionId where
  one := live ▸ serving.one
  runs := by
    rw [running, live]
    exact serving.runs
  waits := by
    rw [pending, running]
    exact serving.waits
  ordered := by
    unfold RenderService.held
    rw [rendered, live, pending, enqueued]
    exact serving.ordered
  few := by
    simp [pending, bound, serving.few]

/-! ### One step -/

variable {worker : RenderWorker φ} {index : Nat}

theorem split_at {workers : List (RenderWorker φ)} (found : workers[index]? = some worker) :
    ∃ before after, workers = before ++ worker :: after ∧
      (∀ other, workers.set index other = before ++ other :: after) ∧
      workers.eraseIdx index = before ++ after := by
  obtain ⟨inside, is⟩ := List.getElem?_eq_some_iff.mp found
  refine ⟨workers.take index, workers.drop (index + 1), ?_, fun other => ?_,
    List.eraseIdx_eq_take_drop_succ _ _⟩
  · conv_lhs => rw [← List.take_append_drop index workers, List.drop_eq_getElem_cons inside, is]
  · simp [List.set_eq_take_append_cons_drop, inside]

variable {before after : List (RenderWorker φ)}

/-- The workers of other sessions, after a worker went on or ended. -/
theorem live_other (other : worker.sessionId ≠ sessionId) :
    (before ++ worker :: after).filter (·.sessionId = sessionId) =
      (before ++ after).filter (·.sessionId = sessionId) := by
  rw [List.filter_append, List.filter_append, List.filter_cons_of_neg (by simpa using other)]

theorem live_only (one : ((before ++ worker :: after).filter (·.sessionId = sessionId)).length ≤ 1)
    (own : worker.sessionId = sessionId) (next : RenderWorker φ) (same : next.sessionId = sessionId) :
    (before ++ worker :: after).filter (·.sessionId = sessionId) = [worker] ∧
      (before ++ next :: after).filter (·.sessionId = sessionId) = [next] ∧
      (before ++ after).filter (·.sessionId = sessionId) = [] := by
  rw [List.filter_append, List.filter_cons_of_pos (by simpa using own), List.length_append,
    List.length_cons] at one
  have first : before.filter (·.sessionId = sessionId) = [] := List.length_eq_zero_iff.mp (by omega)
  have last : after.filter (·.sessionId = sessionId) = [] := List.length_eq_zero_iff.mp (by omega)
  refine ⟨?_, ?_, ?_⟩
  · rw [List.filter_append, List.filter_cons_of_pos (by simpa using own), first, last, List.nil_append]
  · rw [List.filter_append, List.filter_cons_of_pos (by simpa using same), first, last, List.nil_append]
  · rw [List.filter_append, first, last, List.nil_append]

variable {maxPendingFrames : Nat} {frame : φ}

section

variable (serving : Serving service sessionId)
include serving

/-- **An enqueue keeps its session served**, where it starts a worker only if there is none. -/
theorem Serving.enqueue
    (undisturbed : Undisturbed service (.enqueues sessionId frame maxPendingFrames)) :
    Serving (service.enqueue sessionId frame maxPendingFrames) sessionId := by
  obtain ⟨alone, room⟩ := undisturbed
  obtain ⟨-, here⟩ := service.registry.enqueueBounded_enqueued sessionId frame maxPendingFrames
  have enqueued : (service.enqueue sessionId frame maxPendingFrames).enqueued sessionId =
      service.enqueued sessionId ++ [frame] := Function.update_self ..
  have bound : (service.enqueue sessionId frame maxPendingFrames).bound sessionId =
      max maxPendingFrames 1 := Function.update_self ..
  generalize made : service.enqueue sessionId frame maxPendingFrames = next at enqueued bound ⊢
  rcases queued : service.registry.enqueueBounded sessionId frame maxPendingFrames with ⟨registry, answer⟩
  rw [queued] at here
  have registry_eq : next.registry = registry := by
    rw [← made, RenderService.enqueue, queued]
  have rendered : next.rendered = service.rendered := by
    rw [← made]
    rfl
  have order := serving.ordered
  cases here with
  | start next' idle runs same =>
    have workers : next.workers = service.workers ++ [{ sessionId, frame := some frame }] := by
      rw [← made, RenderService.enqueue, queued]
    have none := alone idle
    have empty : service.pending sessionId = [] := by
      by_contra waiting
      exact Bool.false_ne_true (idle.symm.trans (serving.waits waiting))
    have live : next.live sessionId = [{ sessionId, frame := some frame }] := by
      unfold RenderService.live at none ⊢
      simp [workers, none]
    have pending : next.pending sessionId = [] := by
      unfold RenderService.pending
      rw [registry_eq, same]
      exact empty
    refine ⟨by rw [live]; rfl, fun _ => by rw [live]; rfl, fun waiting => (waiting pending).elim, ?_, ?_⟩
    · unfold RenderService.held at order ⊢
      rw [none, empty, List.filterMap_nil, List.append_nil, List.append_nil] at order
      simpa [live, pending, rendered, enqueued] using order.append_right [frame]
    · simp [pending]
  | queued next' replaced depth dropped kept busy runs split added one =>
    have workers : next.workers = service.workers := by
      rw [← made, RenderService.enqueue, queued]
    have live : next.live sessionId = service.live sessionId := by
      simp [RenderService.live, workers]
    have pending : next.pending sessionId = kept ++ [frame] := by
      simp [RenderService.pending, registry_eq, added]
    refine ⟨live ▸ serving.one, fun _ => live ▸ serving.runs busy, fun _ => ?_, ?_, ?_⟩
    · simp [RenderService.running, registry_eq, runs]
    · unfold RenderService.held at order ⊢
      rw [live, pending, rendered, enqueued, ← List.append_assoc]
      refine List.Sublist.append_right ?_ [frame]
      refine List.Sublist.trans (List.Sublist.append_left ?_ _) order
      simp [show service.pending sessionId = dropped ++ kept from split]
    · have before : (dropped ++ kept).length ≤ max maxPendingFrames 1 := by
        rw [← split]
        exact room
      rw [split] at one
      rw [pending, bound]
      rw [List.length_append] at before one ⊢
      rw [List.length_singleton]
      split at one <;> omega

/-- **A worker that takes a frame, or ends, keeps its session served.** -/
theorem Serving.take (found : service.workers[index]? = some ⟨sessionId, none⟩)
    (policy : LanRenderQueuePolicy) :
    Serving (service.take index sessionId policy) sessionId := by
  obtain ⟨-, here⟩ := service.registry.takes_taken sessionId policy
  obtain ⟨before, after, workers, set, erase⟩ := split_at found
  have one := serving.one
  have order := serving.ordered
  unfold RenderService.held at order
  unfold RenderService.live at one order
  rw [workers] at one
  generalize made : service.take index sessionId policy = next
  rcases taken : service.registry.takeNextLanRenderFrameForPolicy sessionId policy with
    ⟨registry, answer, stale⟩
  rw [taken] at here
  have registry_eq : next.registry = registry := by
    rw [← made, RenderService.take, taken]
  have rendered : next.rendered = service.rendered := by
    rw [← made]
    rfl
  have enqueued : next.enqueued = service.enqueued := by
    rw [← made]
    rfl
  have bound : next.bound = service.bound := by
    rw [← made]
    rfl
  cases here with
  | finished last empty same stopped =>
    obtain ⟨was, -, none⟩ := live_only one rfl ⟨sessionId, none⟩ rfl
    rw [workers, was] at order
    have live : next.live sessionId = [] := by
      simp [RenderService.live, ← made, RenderService.take, taken, erase, none]
    have pending : next.pending sessionId = [] := by
      simp [RenderService.pending, registry_eq, same]
    have running : next.running sessionId = false := by
      simp [RenderService.running, registry_eq, stopped]
    refine ⟨by rw [live]; exact Nat.zero_le _, fun up => ?_, fun waiting => (waiting pending).elim, ?_, ?_⟩
    · simp [running] at up
    · unfold RenderService.held
      rw [live, pending, rendered, enqueued, List.filterMap_nil, List.append_nil, List.append_nil]
      exact ((List.sublist_append_left _ _).trans (List.sublist_append_left _ _)).trans order
    · simp [pending]
  | frame older frame rest last split left still =>
    obtain ⟨was, now, -⟩ := live_only one rfl ⟨sessionId, some frame⟩ rfl
    have few := serving.few
    rw [workers, was] at order
    have live : next.live sessionId = [⟨sessionId, some frame⟩] := by
      simp [RenderService.live, ← made, RenderService.take, taken, set, now]
    have pending : next.pending sessionId = rest := by
      simp [RenderService.pending, registry_eq, left]
    have was_pending : service.pending sessionId = older ++ frame :: rest := split
    have running : next.running sessionId = service.running sessionId := by
      simp [RenderService.running, registry_eq, still]
    have up : service.running sessionId = true := serving.waits (by rw [was_pending]; simp)
    refine ⟨by rw [live]; rfl, fun _ => by rw [live]; rfl, fun _ => running.trans up, ?_, ?_⟩
    · unfold RenderService.held
      rw [live, pending, rendered, enqueued]
      refine List.Sublist.trans ?_ order
      rw [was_pending]
      simp
    · rw [was_pending, List.length_append, List.length_cons] at few
      rw [pending, bound]
      omega

/-- **A worker that renders its frame keeps its session served.** -/
theorem Serving.render (found : service.workers[index]? = some ⟨sessionId, some frame⟩) :
    Serving { service with
      workers := service.workers.set index { sessionId, frame := none }
      rendered := Function.update service.rendered sessionId
        (service.rendered sessionId ++ [frame]) } sessionId := by
  obtain ⟨before, after, workers, set, -⟩ := split_at found
  have one := serving.one
  have order := serving.ordered
  have runs := serving.runs
  unfold RenderService.held at order
  unfold RenderService.live at one order runs
  rw [workers] at one
  obtain ⟨was, now, -⟩ := live_only one rfl ⟨sessionId, none⟩ rfl
  rw [workers, was] at order
  have live : (service.workers.set index ⟨sessionId, none⟩).filter (·.sessionId = sessionId) =
      [⟨sessionId, none⟩] := by
    rw [set, now]
  refine ⟨?_, ?_, serving.waits, ?_, serving.few⟩
  · show ((service.workers.set index _).filter _).length ≤ 1
    simp [live]
  · intro _
    show ((service.workers.set index _).filter _).length = 1
    simp [live]
  · show ((Function.update service.rendered sessionId _ sessionId ++
      ((service.workers.set index _).filter _).filterMap (·.frame)) ++ service.pending sessionId).Sublist _
    rw [live, Function.update_self]
    simpa using order

/-- A session whose queue is removed has nothing that waits. -/
theorem Serving.remove :
    Serving { service with registry := service.registry.remove sessionId } sessionId := by
  have empty : (service.registry.remove sessionId).stateOf sessionId = .empty φ :=
    (service.registry.stateOf_remove sessionId sessionId).trans (if_pos rfl)
  have pending : ({ service with registry := service.registry.remove sessionId } :
      RenderService φ).pending sessionId = [] := congrArg pending empty
  refine ⟨serving.one, fun up => ?_, fun waiting => (waiting pending).elim, ?_, ?_⟩
  · exact (Bool.false_ne_true ((congrArg running empty).symm.trans up)).elim
  · rw [pending, List.append_nil]
    exact (List.sublist_append_left _ _).trans serving.ordered
  · simp [pending]

/-- A session is served as before where its queue has the same flag and the same frames. -/
theorem Serving.registry {registry : MediaRenderQueueRegistry φ}
    (running : (registry.stateOf sessionId).running = (service.registry.stateOf sessionId).running)
    (pending : (registry.stateOf sessionId).pending = (service.registry.stateOf sessionId).pending) :
    Serving { service with registry } sessionId :=
  serving.of_same rfl running pending rfl rfl rfl

end

section

variable {probe : SessionId} (serving : Serving service probe) (other : probe ≠ sessionId)
include serving other

theorem Serving.enqueue_other (frame : φ) (maxPendingFrames : Nat) :
    Serving (service.enqueue sessionId frame maxPendingFrames) probe := by
  obtain ⟨same, -⟩ := service.registry.enqueueBounded_enqueued sessionId frame maxPendingFrames
  have state := same probe other
  refine serving.of_same ?_ (congrArg running state)
    (congrArg pending state) rfl (Function.update_of_ne other _ _)
    (Function.update_of_ne other _ _)
  unfold RenderService.live RenderService.enqueue
  dsimp only
  split
  · rw [List.filter_append, List.filter_cons_of_neg (by simpa using fun equal => other equal.symm),
      List.filter_nil, List.append_nil]
  · rfl

theorem Serving.take_other (found : service.workers[index]? = some ⟨sessionId, none⟩)
    (policy : LanRenderQueuePolicy) :
    Serving (service.take index sessionId policy) probe := by
  obtain ⟨same, -⟩ := service.registry.takes_taken sessionId policy
  obtain ⟨before, after, workers, set, erase⟩ := split_at found
  have state := same probe other
  have apart : sessionId ≠ probe := fun equal => other equal.symm
  refine serving.of_same ?_ (congrArg running state) (congrArg pending state) rfl rfl rfl
  unfold RenderService.live RenderService.take
  dsimp only
  split
  · rw [set, workers, live_other apart, live_other apart]
  · rw [erase, workers, live_other apart]

theorem Serving.render_other (found : service.workers[index]? = some ⟨sessionId, some frame⟩) :
    Serving { service with
      workers := service.workers.set index { sessionId, frame := none }
      rendered := Function.update service.rendered sessionId
        (service.rendered sessionId ++ [frame]) } probe := by
  obtain ⟨before, after, workers, set, -⟩ := split_at found
  have apart : sessionId ≠ probe := fun equal => other equal.symm
  refine serving.of_same ?_ rfl rfl (Function.update_of_ne other _ _) rfl rfl
  show (service.workers.set index _).filter _ = service.workers.filter _
  rw [set, workers, live_other apart, live_other apart]

end

/-- **One step keeps every session served.** -/
theorem step_serving {label : RenderStep φ} (serving : ∀ sessionId, Serving service sessionId)
    (undisturbed : Undisturbed service label) (taken : step service label = some next)
    (probe : SessionId) : Serving next probe := by
  cases label with
  | recordsEnqueued sessionId now =>
    cases taken
    have state := service.registry.stateOf_store sessionId probe
      { service.registry.stateOf sessionId with lastEnqueueAt := some now }
    by_cases own : probe = sessionId
    · rw [if_pos own] at state
      refine (serving probe).registry ?_ ?_
      · exact (congrArg running state).trans (by rw [own])
      · exact (congrArg pending state).trans (by rw [own])
    · rw [if_neg own] at state
      exact (serving probe).registry (congrArg running state) (congrArg pending state)
  | enqueues sessionId frame maxPendingFrames =>
    cases taken
    by_cases own : probe = sessionId
    · simpa [own] using (serving sessionId).enqueue undisturbed
    · exact (serving probe).enqueue_other own frame maxPendingFrames
  | renders worker =>
    unfold step at taken
    dsimp only at taken
    split at taken
    next sessionId frame found =>
      cases taken
      by_cases own : probe = sessionId
      · simpa [own] using (serving sessionId).render found
      · exact (serving probe).render_other own found
    · cases taken
  | recordsPresented sessionId now =>
    cases taken
    have state := service.registry.stateOf_store sessionId probe
      { service.registry.stateOf sessionId with lastPresentAt := some now }
    by_cases own : probe = sessionId
    · rw [if_pos own] at state
      refine (serving probe).registry ?_ ?_
      · exact (congrArg running state).trans (by rw [own])
      · exact (congrArg pending state).trans (by rw [own])
    · rw [if_neg own] at state
      exact (serving probe).registry (congrArg running state) (congrArg pending state)
  | takes worker policy =>
    unfold step at taken
    dsimp only at taken
    split at taken
    next sessionId found =>
      cases taken
      by_cases own : probe = sessionId
      · simpa [own] using (serving sessionId).take found policy
      · exact (serving probe).take_other own found policy
    · cases taken
  | removes sessionId =>
    cases taken
    by_cases own : probe = sessionId
    · simpa [own] using (serving sessionId).remove
    · have state := (service.registry.stateOf_remove sessionId probe).trans (if_neg own)
      exact (serving probe).registry (congrArg running state) (congrArg pending state)

/-- **A frame that disturbs its session** leaves it with a second worker, or with too many frames. -/
theorem disturbed
    (lawful : Lawful (service.enqueue sessionId frame maxPendingFrames) sessionId) :
    Undisturbed service (.enqueues sessionId frame maxPendingFrames) := by
  obtain ⟨-, here⟩ := service.registry.enqueueBounded_enqueued sessionId frame maxPendingFrames
  have one := lawful.one
  have few := lawful.few
  rw [show (service.enqueue sessionId frame maxPendingFrames).bound sessionId =
    max maxPendingFrames 1 from Function.update_self ..] at few
  unfold RenderService.pending RenderService.enqueue at few
  unfold RenderService.live RenderService.enqueue at one
  dsimp only at one few
  generalize service.registry.enqueueBounded sessionId frame maxPendingFrames = queued at here one few
  obtain ⟨registry, answer⟩ := queued
  cases here with
  | start next idle runs same =>
    refine ⟨fun _ => ?_, ?_⟩
    · dsimp only at one
      rw [List.filter_append, List.length_append, List.filter_cons_of_pos (by simp),
        List.length_cons] at one
      exact List.length_eq_zero_iff.mp (by unfold RenderService.live; omega)
    · rw [same] at few
      exact few
  | queued next replaced depth dropped kept busy runs split added drops =>
    refine ⟨fun idle => ?_, ?_⟩
    · exact (Bool.false_ne_true (idle.symm.trans busy)).elim
    · unfold RenderService.pending
      rw [added, List.length_append, List.length_singleton] at few
      rw [split, List.length_append] at drops ⊢
      split at drops <;> omega

/-! ### Whole runs -/

theorem reach_serving (reach : Reach step Undisturbed .new service) :
    ∀ sessionId, Serving service sessionId :=
  reach.invariant (I := fun service => ∀ sessionId, Serving service sessionId) new_serving
    fun _ _ _ serving undisturbed taken => step_serving serving undisturbed taken

/-- **One worker for each session**: in every state of a run in which no frame disturbs its session; and a
step from such a state keeps the promise exactly when it does not disturb. -/
theorem one_worker {service : RenderService φ} (reach : Reach step Undisturbed .new service) :
    (∀ sessionId, Lawful service sessionId) ∧ ∀ label next, step service label = some next →
        ((∀ sessionId, Lawful next sessionId) ↔ Undisturbed service label) := by
  have serving := reach_serving reach
  refine ⟨fun sessionId => (serving sessionId).lawful, fun label next taken => ⟨fun lawful => ?_,
    fun undisturbed sessionId => (step_serving serving undisturbed taken sessionId).lawful⟩⟩
  cases label with
  | enqueues sessionId frame maxPendingFrames =>
    cases taken
    exact disturbed (lawful sessionId)
  | recordsEnqueued => trivial
  | renders => trivial
  | recordsPresented => trivial
  | takes => trivial
  | removes => trivial

instance [DecidableEq φ] (service : RenderService φ) (label : RenderStep φ) :
    Decidable (Undisturbed service label) := by
  unfold Undisturbed
  cases label <;> infer_instance

/-- Two frames, a queue that is removed after its worker ended, and a third frame. -/
def servedRun (sessionId : SessionId) : List (RenderStep Nat) :=
  [.enqueues sessionId 1 2, .enqueues sessionId 2 2, .renders 0, .takes 0 .pacedFifo, .renders 0,
    .takes 0 .latest, .removes sessionId, .enqueues sessionId 3 1, .renders 0]

theorem one_worker_served :
    ∃ service : RenderService Nat, service.rendered ⟨"s"⟩ = [1, 2, 3] ∧
      (∀ sessionId, Lawful service sessionId) ∧
      ∀ label next, step service label = some next →
        ((∀ sessionId, Lawful next sessionId) ↔ Undisturbed service label) := by
  have rendered : (runChecked (fun service label => decide (Undisturbed service label)) step
      (.new : RenderService Nat) (servedRun ⟨"s"⟩)).map (fun service => service.rendered ⟨"s"⟩) =
        some [1, 2, 3] := by
    decide
  obtain ⟨service, checked, all⟩ := Option.map_eq_some_iff.mp rendered
  exact ⟨service, all, one_worker (runChecked_reach checked fun _ _ => of_decide_eq_true)⟩

/-- The queue of a session is removed while its worker renders, and a frame comes. -/
def removedUnderWorker (sessionId : SessionId) : List (RenderStep Nat) :=
  [.enqueues sessionId 1 2, .removes sessionId, .enqueues sessionId 2 2]

/-- **A session gets a second worker** where its queue is removed while the first one renders. -/
theorem second_worker :
    ¬ ∀ service : RenderService Nat, Reach step always .new service →
      ∀ sessionId, (service.live sessionId).length ≤ 1 := by
  intro law
  have ran : run step (.new : RenderService Nat) (removedUnderWorker ⟨"s"⟩) = some _ := rfl
  exact absurd (law _ (run_reach ran) ⟨"s"⟩) (by decide)

end MiniRemoteDesktop.Render
