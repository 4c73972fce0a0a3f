/-
**What holds in every reachable WAN session state.**

* `phasesEntered_eq` — a live phase was reached through all its predecessors, in order.
* `wanSession_reachable_invariant` — the invariant, for every role, identity and run of operations.
-/

import MiniRemoteDesktop.Wan.Model

namespace MiniRemoteDesktop.Wan

namespace WanSessionState

/-! ### Runs -/

/-- A call on a session state. -/
inductive Operation
  | apply (event : WanSessionEvent) (nowUnixMs : Nat)
  | bindControllerTargetKey (fingerprint : String)

def perform (state : WanSessionState) : Operation → WanSessionState
  | .apply event nowUnixMs => (state.apply event nowUnixMs).1
  | .bindControllerTargetKey fingerprint => (state.bindControllerTargetKey fingerprint).1

def performAll (state : WanSessionState) (operations : List Operation) : WanSessionState :=
  operations.foldl perform state

/-- The phases a run enters, oldest first. -/
def phasesEntered (state : WanSessionState) : List Operation → List WanSessionPhase
  | [] => []
  | operation :: rest =>
    let next := state.perform operation
    if next.phase = state.phase then phasesEntered next rest
    else next.phase :: phasesEntered next rest

/-- The phases of the regular order, after `Created`. -/
def regularOrder : List WanSessionPhase :=
  [.backendBound, .awaitingConsent, .granted, .accessBound, .negotiating, .relayVerified, .streaming]

/-- A live phase at or after a milestone. -/
def Reached (milestone : WanSessionPhase) (state : WanSessionState) : Prop :=
  milestone.rank ≤ state.phase.rank ∧ state.phase.isTerminal = false

/-! ### Binding the target key -/

/-- Binding a key changes nothing but an absent target key. -/
theorem bindControllerTargetKey_frame (state : WanSessionState) (fingerprint : String) :
    ∃ identity, (state.bindControllerTargetKey fingerprint).1 = { state with identity := identity } ∧
      identity.deadlineUnixMs = state.identity.deadlineUnixMs ∧
      (state.identity.targetKeyFingerprint ≠ none → identity = state.identity) ∧
      (state.phase.isTerminal → identity = state.identity) := by
  unfold bindControllerTargetKey
  split
  · exact ⟨state.identity, rfl, rfl, fun _ => rfl, fun _ => rfl⟩
  rename_i permitted
  refine ⟨_, rfl, ?_, ?_, ?_⟩
  · unfold WanSessionIdentity.bindTargetKeyFingerprint
    split
    · split
      · split <;> rfl
      · rfl
    · rfl
  · intro bound
    unfold WanSessionIdentity.bindTargetKeyFingerprint
    split
    · split
      · split <;> rfl
      next missing =>
        exact (bound missing).elim
    · rfl
  · intro terminal
    obtain ⟨_, early⟩ := not_or.mp permitted
    rcases not_not.mp early with phase | phase | phase <;> rw [phase] at terminal <;> cases terminal

/-! ### The binding chain -/

/-- **The binding chain** request → grant → access → route proof. -/
structure Bindings (state : WanSessionState) : Prop where
  grant : Reached .granted state → ∃ grant, state.grant = some grant ∧
    state.requestCommitment = some grant.requestCommitment ∧
    grant.grantExpiresAtMs ≤ state.identity.deadlineUnixMs
  access : Reached .accessBound state → ∃ grant access, state.grant = some grant ∧
    state.access = some access ∧ access.generation = 0 ∧
    access.policyRevision = grant.policyRevision
  route : Reached .relayVerified state → ∃ grant access proof, state.grant = some grant ∧
    state.access = some access ∧ state.routeProof = some proof ∧ proof.access = access ∧
    proof.routePolicy = grant.routePolicy ∧
    (grant.routePolicy = .relayOnly → proof.localCandidateRelayed ∧ proof.remoteCandidateRelayed)

variable {state : WanSessionState}

/-- A session outside the regular phases has no binding to keep. -/
theorem Bindings.of_terminal (terminal : state.phase.isTerminal) :
    Bindings state where
  grant reached := by rw [reached.2] at terminal; cases terminal
  access reached := by rw [reached.2] at terminal; cases terminal
  route reached := by rw [reached.2] at terminal; cases terminal

variable (role : WanSessionRole) (identity : WanSessionIdentity)

theorem new_bindings :
    Bindings (new role identity) where
  grant reached := absurd reached.1 (by simp [new])
  access reached := absurd reached.1 (by simp [new])
  route reached := absurd reached.1 (by simp [new])

variable {target phase : WanSessionPhase}

theorem next_rank (order : phase.next = some target) :
    target.rank = phase.rank + 1 := by
  cases phase <;> cases order <;> rfl

/-- Before a regular step every milestone below its target was already reached. -/
theorem reached_before {milestone : WanSessionPhase} (live : state.phase.isTerminal = false)
    (order : state.phase.next = some target) (below : milestone.rank < target.rank) :
    Reached milestone state := by
  refine ⟨?_, live⟩
  rw [next_rank order] at below
  exact Nat.le_of_lt_succ below

/-- **One regular step keeps the chain.** The event of a phase is the only one that enters it, so
there is one case per event. -/
theorem advance_bindings {bound : WanSessionState} {event : WanSessionEvent} {nowUnixMs : Nat}
    (bindings : Bindings state) (live : state.phase.isTerminal = false)
    (order : state.phase.next = some event.targetPhase)
    (bind : state.bindEvent nowUnixMs event = .ok bound) : Bindings (state.advance bound event) := by
  cases event with
  | backendBound commitment | awaitingConsent commitment =>
    refine ⟨fun reached => ?_, fun reached => ?_, fun reached => ?_⟩ <;>
      exact absurd reached.1 (by simp [advance])
  | granted grant =>
    simp only [bindEvent] at bind
    split at bind
    next checked =>
      cases bind
      refine ⟨fun _ => ⟨grant, rfl, checked.1, checked.2.2.2⟩, fun reached => ?_, fun reached => ?_⟩ <;>
        exact absurd reached.1 (by simp [advance])
    · cases bind
  | accessBound access =>
    obtain ⟨grant, granted, committed, expires⟩ := bindings.grant (reached_before live order (by simp))
    simp only [bindEvent] at bind
    split at bind
    next checked =>
      cases bind
      rw [granted, Option.any_some, beq_iff_eq] at checked
      refine ⟨fun _ => ⟨grant, granted, committed, expires⟩,
        fun _ => ⟨grant, access, granted, rfl, checked.2, checked.1.symm⟩, fun reached => ?_⟩
      exact absurd reached.1 (by simp [advance])
    · cases bind
  | negotiating =>
    cases bind
    refine ⟨fun _ => bindings.grant (reached_before live order (by simp)),
      fun _ => bindings.access (reached_before live order (by simp)), fun reached => ?_⟩
    exact absurd reached.1 (by simp [advance])
  | relayVerified proof =>
    obtain ⟨grant, access, granted, bound, generation, revision⟩ :=
      bindings.access (reached_before live order (by simp))
    simp only [bindEvent] at bind
    split at bind
    next checked =>
      cases bind
      rw [granted, Option.any_some, beq_iff_eq] at checked
      obtain ⟨policy, relayed, sameAccess⟩ := checked
      refine ⟨fun _ => bindings.grant (reached_before live order (by simp)),
        fun _ => ⟨grant, access, granted, bound, generation, revision⟩,
        fun _ => ⟨grant, access, proof, granted, bound, rfl, ?_, policy.symm, fun relayOnly => ?_⟩⟩
      · rw [bound] at sameAccess
        exact (Option.some.inj sameAccess).symm
      · exact proof.relayed (policy.symm.trans relayOnly)
    · cases bind
  | streaming =>
    simp only [bindEvent] at bind
    split at bind
    · cases bind
      exact ⟨fun _ => bindings.grant (reached_before live order (by simp)),
        fun _ => bindings.access (reached_before live order (by simp)),
        fun _ => bindings.route (reached_before live order (by simp))⟩
    · cases bind
  | closed | failed _ =>
    cases current : state.phase <;> rw [current] at order <;> cases order

theorem apply_bindings (bindings : Bindings state) (event : WanSessionEvent) (nowUnixMs : Nat) :
    Bindings (state.apply event nowUnixMs).1 := by
  have outcome := apply_outcome state event nowUnixMs
  generalize state.apply event nowUnixMs = result at outcome
  cases outcome with
  | duplicate | terminal => exact bindings
  | rejected failure _ | failed failure _ => exact .of_terminal rfl
  | closed => exact .of_terminal rfl
  | advanced bound live _ order bind => exact advance_bindings bindings live order bind

theorem perform_bindings (bindings : Bindings state) (operation : Operation) :
    Bindings (state.perform operation) := by
  cases operation with
  | apply event nowUnixMs => exact apply_bindings bindings event nowUnixMs
  | bindControllerTargetKey fingerprint =>
    obtain ⟨identity, framed, deadline, _⟩ := bindControllerTargetKey_frame state fingerprint
    rw [perform, framed]
    refine ⟨fun reached => ?_, bindings.access, bindings.route⟩
    obtain ⟨grant, granted, committed, expires⟩ := bindings.grant reached
    exact ⟨grant, granted, committed, deadline ▸ expires⟩

variable (operations : List Operation)

theorem performAll_bindings (bindings : Bindings state) :
    Bindings (state.performAll operations) := by
  induction operations generalizing state with
  | nil => exact bindings
  | cons operation rest ih => exact ih (perform_bindings bindings operation)

theorem reachable_bindings (operations : List Operation) :
    Bindings ((new role identity).performAll operations) :=
  performAll_bindings operations (new_bindings role identity)

/-! ### Terminal states are final -/

theorem perform_terminal (terminal : state.phase.isTerminal) (operation : Operation) :
    state.perform operation = state := by
  cases operation with
  | apply event nowUnixMs =>
    have outcome := apply_outcome state event nowUnixMs
    rw [perform]
    generalize state.apply event nowUnixMs = result at outcome
    cases outcome with
    | duplicate | terminal => rfl
    | rejected _ live | failed _ live | closed live | advanced _ live =>
      simp [live] at terminal
  | bindControllerTargetKey fingerprint =>
    obtain ⟨identity, framed, _, _, kept⟩ := bindControllerTargetKey_frame state fingerprint
    rw [perform, framed, kept terminal]

/-- **`Closed` and `Failed` are final**: phase, failure and every binding stay. -/
theorem performAll_terminal (terminal : state.phase.isTerminal) :
    state.performAll operations = state := by
  induction operations with
  | nil => rfl
  | cons operation rest ih =>
    simpa [performAll, perform_terminal terminal] using ih

/-! ### The target key -/

theorem apply_identity (state : WanSessionState) (event : WanSessionEvent) (nowUnixMs : Nat) :
    (state.apply event nowUnixMs).1.identity = state.identity := by
  have outcome := apply_outcome state event nowUnixMs
  generalize state.apply event nowUnixMs = result at outcome
  cases outcome with
  | advanced bound _ _ _ bind => exact (bindEvent_frame bind).2.1
  | _ => rfl

variable {fingerprint : String}

theorem perform_targetKey (bound : state.identity.targetKeyFingerprint = some fingerprint)
    (operation : Operation) :
    (state.perform operation).identity.targetKeyFingerprint = some fingerprint := by
  cases operation with
  | apply event nowUnixMs =>
    simp [perform, apply_identity, bound]
  | bindControllerTargetKey other =>
    obtain ⟨identity, framed, _, kept, _⟩ := bindControllerTargetKey_frame state other
    rw [perform, framed, kept (by rw [bound]; nofun)]
    exact bound

theorem performAll_targetKey (bound : state.identity.targetKeyFingerprint = some fingerprint) :
    (state.performAll operations).identity.targetKeyFingerprint = some fingerprint := by
  induction operations generalizing state with
  | nil => exact bound
  | cons operation rest ih => exact ih (perform_targetKey bound operation)

/-! ### The regular order -/

/-- One operation stays in its phase, moves to the next one, or ends the session. -/
theorem perform_phase (state : WanSessionState) (operation : Operation) :
    (state.perform operation).phase = state.phase ∨
      state.phase.next = some (state.perform operation).phase ∨
      (state.perform operation).phase.isTerminal := by
  cases operation with
  | apply event nowUnixMs =>
    have outcome := apply_outcome state event nowUnixMs
    rw [perform]
    generalize state.apply event nowUnixMs = result at outcome
    cases outcome with
    | duplicate | terminal => exact .inl rfl
    | rejected | failed | closed => exact .inr (.inr rfl)
    | advanced _ _ _ order => exact .inr (.inl order)
  | bindControllerTargetKey fingerprint =>
    obtain ⟨identity, framed, _⟩ := bindControllerTargetKey_frame state fingerprint
    simp [perform, framed]

theorem drop_regularOrder (order : phase.next = some target) :
    regularOrder.drop phase.rank = target :: regularOrder.drop target.rank := by
  cases phase <;> cases order <;> rfl

theorem live_before {operations : List Operation}
    (live : (state.performAll operations).phase.isTerminal = false) :
    state.phase.isTerminal = false := by
  by_contra terminal
  rw [performAll_terminal operations (Bool.not_eq_false _ ▸ terminal)] at live
  exact terminal live

/-- **Along a run that stays live** the phases entered are the regular order from the first phase
to the last one. -/
theorem phasesEntered_eq (live : (state.performAll operations).phase.isTerminal = false) :
    regularOrder.drop state.phase.rank = state.phasesEntered operations ++
      regularOrder.drop (state.performAll operations).phase.rank := by
  induction operations generalizing state with
  | nil => rfl
  | cons operation rest ih =>
    have live : ((state.perform operation).performAll rest).phase.isTerminal = false := live
    have tail := ih live
    rw [phasesEntered]
    rcases perform_phase state operation with same | order | terminal
    · simp only [same, if_true]
      rw [same] at tail
      exact tail
    · have moved : (state.perform operation).phase ≠ state.phase := by
        intro same
        have := next_rank order
        rw [same] at this
        omega
      simp only [moved, if_false]
      rw [drop_regularOrder order, List.cons_append, tail]
      rfl
    · simp [live_before live] at terminal

/-! ### The invariant of reachable states -/

/-- **What holds of a session state** that was reached from `start` by `operations`. -/
structure Sound (start : WanSessionState) (operations : List Operation)
    (state : WanSessionState) : Prop where
  /-- A live phase was reached through all its predecessors, in order. -/
  inOrder : state.phase.isTerminal = false →
    start.phasesEntered operations = regularOrder.take state.phase.rank
  bindings : Bindings state
  /-- Once closed or failed, nothing changes any more. -/
  final : state.phase.isTerminal → ∀ later, state.performAll later = state
  targetKey : ∀ fingerprint, state.identity.targetKeyFingerprint = some fingerprint →
    ∀ later, (state.performAll later).identity.targetKeyFingerprint = some fingerprint
  /-- At or after the deadline the phase moves to `Failed` or not at all. -/
  deadline : ∀ event nowUnixMs, state.identity.deadlineUnixMs ≤ nowUnixMs →
    (state.apply event nowUnixMs).1.phase = state.phase ∨
      (state.apply event nowUnixMs).1.phase = .failed

theorem apply_after_deadline (event : WanSessionEvent) {nowUnixMs : Nat}
    (late : state.identity.deadlineUnixMs ≤ nowUnixMs) :
    (state.apply event nowUnixMs).1.phase = state.phase ∨
      (state.apply event nowUnixMs).1.phase = .failed := by
  have outcome := apply_outcome state event nowUnixMs
  generalize state.apply event nowUnixMs = result at outcome
  cases outcome with
  | duplicate | terminal => exact .inl rfl
  | rejected | failed => exact .inr rfl
  | closed _ early | advanced _ _ early => omega

/-- **The reachable-state invariant**, for every role, identity and finite run of operations. -/
theorem wanSession_reachable_invariant (role : WanSessionRole) (identity : WanSessionIdentity)
    (operations : List Operation) :
    Sound (new role identity) operations ((new role identity).performAll operations) where
  inOrder live := by
    rw [← List.append_cancel_right_eq _
      (regularOrder.drop ((new role identity).performAll operations).phase.rank),
      ← phasesEntered_eq operations live, List.take_append_drop]
    rfl
  bindings := reachable_bindings role identity operations
  final terminal later := performAll_terminal later terminal
  targetKey fingerprint bound later := performAll_targetKey later bound
  deadline event nowUnixMs late := apply_after_deadline event late

end WanSessionState

end MiniRemoteDesktop.Wan
