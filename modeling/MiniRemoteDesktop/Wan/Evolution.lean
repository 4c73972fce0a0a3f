/-
**How a session state may change.**

* `Evolves` — one session state comes after another in the life of a session. What it keeps: who takes
  part, a bound key, a bound request, the accepted events, and everything once the session is
  terminal.
* `Consistent` — what the accepted events of a session say about its phase and its request.
-/

import MiniRemoteDesktop.Wan.Registry

namespace MiniRemoteDesktop.Wan

open List (mem_append mem_singleton)

namespace WanSessionState

/-! ### One session -/

/-- `after` comes after `before` in the life of a session. -/
def Evolves (before after : WanSessionState) : Prop :=
  ∃ operations, after = before.performAll operations

namespace Evolves

variable {before middle after : WanSessionState}

theorem refl (state : WanSessionState) : Evolves state state := ⟨[], rfl⟩

theorem perform (state : WanSessionState) (operation : Operation) :
    Evolves state (state.perform operation) := ⟨[operation], rfl⟩

theorem trans (first : Evolves before middle) (second : Evolves middle after) :
    Evolves before after := by
  obtain ⟨early, rfl⟩ := first
  obtain ⟨late, rfl⟩ := second
  exact ⟨early ++ late, List.foldl_append.symm⟩

/-- **The rule of a session's life**: what every operation keeps, with what it needs to know. -/
theorem keeps {I : WanSessionState → Prop} (evolves : Evolves before after) (start : I before)
    (keep : ∀ state operation, I state → I (state.perform operation)) : I after := by
  obtain ⟨operations, rfl⟩ := evolves
  induction operations generalizing before with
  | nil => exact start
  | cons operation rest ih => exact ih (keep _ _ start)

theorem built (evolves : Evolves before after) (built : before.Built) : after.Built := by
  obtain ⟨role, identity, operations, rfl⟩ := built
  obtain ⟨later, rfl⟩ := evolves
  exact ⟨role, identity, operations ++ later, List.foldl_append.symm⟩

theorem terminal (evolves : Evolves before after) (terminal : before.phase.isTerminal) :
    after = before := by
  obtain ⟨operations, rfl⟩ := evolves
  exact performAll_terminal operations terminal

end Evolves

/-- Two states with the same role and the same identity, up to the target key. -/
def SameParties (first second : WanSessionState) : Prop :=
  first.role = second.role ∧ first.identity.binding = second.identity.binding ∧
    first.identity.controllerKeyFingerprint = second.identity.controllerKeyFingerprint ∧
    first.identity.deadlineUnixMs = second.identity.deadlineUnixMs

theorem bindTargetKeyFingerprint_parties (identity : WanSessionIdentity) (fingerprint : String) :
    (identity.bindTargetKeyFingerprint fingerprint).1.binding = identity.binding ∧
      (identity.bindTargetKeyFingerprint fingerprint).1.controllerKeyFingerprint =
        identity.controllerKeyFingerprint ∧
      (identity.bindTargetKeyFingerprint fingerprint).1.deadlineUnixMs = identity.deadlineUnixMs := by
  unfold WanSessionIdentity.bindTargetKeyFingerprint
  split
  · split
    · split <;> exact ⟨rfl, rfl, rfl⟩
    · exact ⟨rfl, rfl, rfl⟩
  · exact ⟨rfl, rfl, rfl⟩

theorem apply_role (state : WanSessionState) (event : WanSessionEvent) (nowUnixMs : Nat) :
    (state.apply event nowUnixMs).1.role = state.role := by
  have outcome := apply_outcome state event nowUnixMs
  generalize state.apply event nowUnixMs = result at outcome
  cases outcome with
  | advanced bound _ _ _ bind => exact (bindEvent_frame bind).1
  | _ => rfl

theorem perform_parties (state : WanSessionState) (operation : Operation) :
    SameParties (state.perform operation) state := by
  cases operation with
  | apply event nowUnixMs =>
    have same := apply_identity state event nowUnixMs
    refine ⟨apply_role state event nowUnixMs, ?_⟩
    simp [perform, same]
  | bindControllerTargetKey fingerprint =>
    rw [perform, bindControllerTargetKey]
    split
    · exact ⟨rfl, rfl, rfl, rfl⟩
    · exact ⟨rfl, bindTargetKeyFingerprint_parties state.identity fingerprint⟩

variable {before after : WanSessionState}

theorem Evolves.parties (evolves : Evolves before after) :
    SameParties after before := by
  refine evolves.keeps (I := fun state => SameParties state before) ⟨rfl, rfl, rfl, rfl⟩ ?_
  intro state operation same
  have step := perform_parties state operation
  exact ⟨step.1.trans same.1, step.2.1.trans same.2.1, step.2.2.1.trans same.2.2.1,
    step.2.2.2.trans same.2.2.2⟩

/-! ### Accepted events -/

/-- **What the accepted events say.** -/
structure Consistent (state : WanSessionState) : Prop where
  unbound : state.phase = .created → state.requestCommitment = none
  bound : ∀ commitment, .backendBound commitment ∈ state.acceptedEvents →
    state.requestCommitment = some commitment
  failed : ∀ failure, .failed failure ∈ state.acceptedEvents → state.phase = .failed

variable {state : WanSessionState}

theorem Consistent.setTerminalFailure (consistent : Consistent state) (failure : WanSessionFailure) :
    Consistent (state.setTerminalFailure failure) where
  unbound := nofun
  bound commitment member := by
    rcases mem_append.mp member with earlier | last
    · exact consistent.bound commitment earlier
    · cases mem_singleton.mp last
  failed _ _ := rfl

/-- No event is accepted as failed while the session is live. -/
theorem Consistent.not_failed (consistent : Consistent state) (live : state.phase.isTerminal = false)
    (failure : WanSessionFailure) :
    .failed failure ∉ state.acceptedEvents := by
  intro member
  rw [consistent.failed failure member] at live
  cases live

theorem Consistent.close (consistent : Consistent state) (live : state.phase.isTerminal = false) :
    Consistent state.close where
  unbound := nofun
  bound commitment member := by
    rcases mem_append.mp member with earlier | last
    · exact consistent.bound commitment earlier
    · cases mem_singleton.mp last
  failed failure member := by
    rcases mem_append.mp member with earlier | last
    · exact (consistent.not_failed live failure earlier).elim
    · cases mem_singleton.mp last

variable {event : WanSessionEvent} {nowUnixMs : Nat} {bound : WanSessionState}

/-- Only the binding of the backend changes the request. -/
theorem bindEvent_request (bind : state.bindEvent nowUnixMs event = .ok bound) :
    (∃ commitment, event = .backendBound commitment ∧ bound.requestCommitment = some commitment) ∨
      (event.targetPhase ≠ .backendBound ∧ bound.requestCommitment = state.requestCommitment) := by
  cases event with
  | backendBound commitment =>
    simp only [bindEvent] at bind
    split at bind
    · cases bind
      exact .inl ⟨commitment, rfl, rfl⟩
    · cases bind
  | negotiating | closed | failed _ =>
    cases bind
    exact .inr ⟨by rintro ⟨⟩, rfl⟩
  | awaitingConsent _ | granted _ | accessBound _ | relayVerified _ | streaming =>
    simp only [bindEvent] at bind
    split at bind
    · cases bind
      exact .inr ⟨by rintro ⟨⟩, rfl⟩
    · cases bind

theorem created_of_next {phase : WanSessionPhase} (order : phase.next = some .backendBound) :
    phase = .created := by
  cases phase <;> cases order
  rfl

theorem next_ne_created (phase : WanSessionPhase) : phase.next ≠ some .created := by
  cases phase <;> nofun

theorem Consistent.advance (consistent : Consistent state) (live : state.phase.isTerminal = false)
    (order : state.phase.next = some event.targetPhase)
    (bind : state.bindEvent nowUnixMs event = .ok bound) :
    Consistent (state.advance bound event) where
  unbound created := (next_ne_created state.phase (created ▸ order)).elim
  bound commitment member := by
    rcases bindEvent_request bind with ⟨_, rfl, set⟩ | ⟨other, kept⟩
    · have fresh := consistent.unbound (created_of_next order)
      rcases mem_append.mp member with earlier | last
      · simp [consistent.bound commitment earlier] at fresh
      · cases mem_singleton.mp last
        exact set
    · rcases mem_append.mp member with earlier | last
      · exact kept.trans (consistent.bound commitment earlier)
      · rw [← mem_singleton.mp last] at other
        exact (other rfl).elim
  failed failure member := by
    rcases mem_append.mp member with earlier | last
    · exact (consistent.not_failed live failure earlier).elim
    · rw [← mem_singleton.mp last] at order
      cases phase : state.phase <;> rw [phase] at order <;> cases order

theorem Consistent.perform (consistent : Consistent state) (operation : Operation) :
    Consistent (state.perform operation) := by
  cases operation with
  | apply event nowUnixMs =>
    have outcome := apply_outcome state event nowUnixMs
    rw [WanSessionState.perform]
    generalize state.apply event nowUnixMs = result at outcome
    cases outcome with
    | duplicate | terminal => exact consistent
    | rejected failure | failed failure => exact consistent.setTerminalFailure failure
    | closed live => exact consistent.close live
    | advanced bound live _ order bind => exact consistent.advance live order bind
  | bindControllerTargetKey fingerprint =>
    obtain ⟨identity, framed, _⟩ := bindControllerTargetKey_frame state fingerprint
    rw [WanSessionState.perform, framed]
    exact ⟨consistent.unbound, consistent.bound, consistent.failed⟩

/-- **Every session state is consistent.** -/
theorem Built.consistent (built : state.Built) : Consistent state := by
  obtain ⟨role, identity, operations, rfl⟩ := built
  refine Evolves.keeps ⟨operations, rfl⟩ ?_ fun state operation consistent =>
    consistent.perform operation
  exact ⟨fun _ => rfl, nofun, nofun⟩

/-- A bound request stays, and so do the accepted events. -/
theorem perform_history (consistent : Consistent state) (operation : Operation) :
    (∀ event ∈ state.acceptedEvents, event ∈ (state.perform operation).acceptedEvents) ∧
      ∀ commitment, state.requestCommitment = some commitment →
        (state.perform operation).requestCommitment = some commitment := by
  cases operation with
  | apply event nowUnixMs =>
    have outcome := apply_outcome state event nowUnixMs
    rw [perform]
    generalize state.apply event nowUnixMs = result at outcome
    cases outcome with
    | duplicate | terminal => exact ⟨fun _ => id, fun _ => id⟩
    | rejected | failed | closed => exact ⟨fun _ => List.mem_append_left _, fun _ => id⟩
    | advanced bound live _ order bind =>
      refine ⟨fun _ => List.mem_append_left _, ?_⟩
      intro commitment set
      rcases bindEvent_request bind with ⟨_, rfl, _⟩ | ⟨_, kept⟩
      · simp [consistent.unbound (created_of_next order)] at set
      · exact kept.trans set
  | bindControllerTargetKey fingerprint =>
    obtain ⟨identity, framed, _⟩ := bindControllerTargetKey_frame state fingerprint
    rw [perform, framed]
    exact ⟨fun _ => id, fun _ => id⟩

theorem Evolves.history (evolves : Evolves before after) (consistent : Consistent before) :
    (∀ event ∈ before.acceptedEvents, event ∈ after.acceptedEvents) ∧
      ∀ commitment, before.requestCommitment = some commitment →
        after.requestCommitment = some commitment := by
  have kept : Consistent after ∧ (∀ event ∈ before.acceptedEvents, event ∈ after.acceptedEvents) ∧
        ∀ commitment, before.requestCommitment = some commitment →
          after.requestCommitment = some commitment := by
    refine evolves.keeps (I := fun state => Consistent state ∧
      (∀ event ∈ before.acceptedEvents, event ∈ state.acceptedEvents) ∧
        ∀ commitment, before.requestCommitment = some commitment →
          state.requestCommitment = some commitment) ⟨consistent, fun _ => id, fun _ => id⟩ ?_
    rintro state operation ⟨consistent, events, request⟩
    obtain ⟨further, bound⟩ := perform_history consistent operation
    exact ⟨consistent.perform operation, fun event member => further event (events event member),
      fun commitment set => bound commitment (request commitment set)⟩
  exact kept.2

/-- An event that was not refused is among the accepted ones. -/
theorem apply_accepts {next : WanSessionState} {answer : TransitionResult}
    (applied : state.apply event nowUnixMs = (next, .ok answer)) :
    event ∈ next.acceptedEvents := by
  have outcome := apply_outcome state event nowUnixMs
  rw [applied] at outcome
  cases outcome with
  | duplicate member => exact member
  | failed failure _ _ same | closed _ _ same =>
    rw [same]
    exact List.mem_append_right _ (mem_singleton.mpr rfl)
  | advanced => exact List.mem_append_right _ (mem_singleton.mpr rfl)

theorem apply_failed (consistent : Consistent state) (failure : WanSessionFailure)
    (live : state.phase.isTerminal = false) (early : nowUnixMs < state.identity.deadlineUnixMs) :
    state.apply (.failed failure) nowUnixMs = (state.setTerminalFailure failure, .ok .applied) := by
  unfold apply
  rw [if_neg (consistent.not_failed live failure), if_neg (by rw [live]; nofun),
    if_neg (Nat.not_le.mpr early), if_neg]
  cases phase : state.phase with
  | closed | failed =>
    rw [phase] at live
    cases live
  | _ => simp

end WanSessionState

end MiniRemoteDesktop.Wan
