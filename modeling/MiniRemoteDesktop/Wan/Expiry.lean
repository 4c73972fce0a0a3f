/-
**Progress after authorization expiry.**

A grant carries two deadlines of its own, and the expiry sweep uses the least of the three. The
commit of generation zero checks all three at both of its clock readings. `begin_negotiation` and
`record_streaming` go through `apply`, which checks the identity deadline only: between the expiry
of the grant and the identity deadline they still move the session on, as long as no sweep came
first.

* `perform_within_iff` — a progress call respects the effective deadline exactly when it is not one
  of the two unchecked steps.
* `begin_negotiation_after_expiry` — a run that does not.
-/

import MiniRemoteDesktop.Wan.Coordinator

namespace MiniRemoteDesktop.Wan

open WanSessionState

variable {state : WanSessionState} {event : WanSessionEvent}

namespace WanSessionState

/-! ### The accepted events of a live session -/

/-- A live session has accepted one event for each phase behind it, in order. -/
def AcceptedInOrder (state : WanSessionState) : Prop :=
  state.phase.isTerminal = false →
    state.acceptedEvents.map WanSessionEvent.targetPhase = regularOrder.take state.phase.rank

variable {target phase : WanSessionPhase}

theorem take_regularOrder (order : phase.next = some target) :
    regularOrder.take target.rank = regularOrder.take phase.rank ++ [target] := by
  cases phase <;> cases order <;> rfl

theorem next_live (order : phase.next = some target) :
    target.isTerminal = false := by
  cases phase <;> cases order <;> rfl

theorem apply_accepted (accepted : AcceptedInOrder state) (event : WanSessionEvent) (nowUnixMs : Nat) :
    AcceptedInOrder (state.apply event nowUnixMs).1 := by
  have outcome := apply_outcome state event nowUnixMs
  generalize state.apply event nowUnixMs = result at outcome
  cases outcome with
  | duplicate | terminal => exact accepted
  | rejected | failed | closed => nofun
  | advanced bound live _ order _ =>
    intro _
    show (state.acceptedEvents ++ [event]).map WanSessionEvent.targetPhase = _
    rw [List.map_append, accepted live]
    exact (take_regularOrder order).symm

theorem performAll_accepted (operations : List Operation) (accepted : AcceptedInOrder state) :
    AcceptedInOrder (state.performAll operations) := by
  induction operations generalizing state with
  | nil => exact accepted
  | cons operation rest ih =>
    refine ih ?_
    cases operation with
    | apply event nowUnixMs => exact apply_accepted accepted event nowUnixMs
    | bindControllerTargetKey fingerprint =>
      obtain ⟨identity, framed, _⟩ := bindControllerTargetKey_frame state fingerprint
      rw [perform, framed]
      exact accepted

/-- **The accepted events of every reachable live session.** -/
theorem accepted_inOrder (role : WanSessionRole) (identity : WanSessionIdentity)
    (operations : List Operation) : AcceptedInOrder ((new role identity).performAll operations) :=
  performAll_accepted operations fun _ => rfl

/-- An event whose phase is still ahead was not accepted yet. -/
theorem AcceptedInOrder.ahead (accepted : AcceptedInOrder state) (live : state.phase.isTerminal = false)
    (ahead : event.targetPhase ∉ regularOrder.take state.phase.rank) :
    event ∉ state.acceptedEvents := by
  intro member
  rw [← accepted live] at ahead
  exact ahead (List.mem_map_of_mem member)

end WanSessionState

namespace Coordinator

open WanSessionState (performAll)

/-! ### One progress call -/

/-- **The effective deadline is respected**: with a grant installed, the call does not answer
`Applied` at or after it. -/
def Within (state : WanSessionState) (call : ProgressCall) : Prop :=
  state.grant.isSome → (call.perform state).2 = .ok .applied → call.answeredAt < effectiveDeadline state

/-- The grant or its policy has expired and the identity has not. -/
def GrantLapsed (state : WanSessionState) (nowUnixMs : Nat) : Prop :=
  nowUnixMs < state.identity.deadlineUnixMs ∧ ∃ grant, state.grant = some grant ∧
    (grant.grantExpiresAtMs ≤ nowUnixMs ∨ grant.policyExpiresAtMs ≤ nowUnixMs)

/-- **The two steps that look at the identity deadline only**: negotiation begun, or streaming
recorded, in the phase right before it and after the grant lapsed. -/
def Unchecked (state : WanSessionState) : ProgressCall → Prop
  | .beginNegotiation nowUnixMs _ => state.phase = .accessBound ∧ GrantLapsed state nowUnixMs
  | .recordStreaming nowUnixMs _ => state.phase = .relayVerified ∧ GrantLapsed state nowUnixMs
  | .commitGenerationZero _ => False

theorem lt_effectiveDeadline_iff {grant : GrantBinding} (granted : state.grant = some grant)
    (nowUnixMs : Nat) :
    nowUnixMs < effectiveDeadline state ↔ nowUnixMs < state.identity.deadlineUnixMs ∧
      nowUnixMs < grant.grantExpiresAtMs ∧ nowUnixMs < grant.policyExpiresAtMs := by
  unfold effectiveDeadline
  rw [granted]
  show nowUnixMs < min (min _ _) _ ↔ _
  omega

variable {nowUnixMs : Nat}

/-- Before the identity deadline, the effective deadline has passed exactly when the grant
lapsed. -/
theorem grantLapsed_iff (granted : state.grant.isSome)
    (early : nowUnixMs < state.identity.deadlineUnixMs) :
    GrantLapsed state nowUnixMs ↔ effectiveDeadline state ≤ nowUnixMs := by
  obtain ⟨grant, granted⟩ := Option.isSome_iff_exists.mp granted
  rw [← Nat.not_lt, lt_effectiveDeadline_iff granted]
  constructor
  · rintro ⟨_, other, same, lapsed⟩ within
    rw [granted] at same
    cases same
    omega
  · intro passed
    exact ⟨early, grant, granted, by omega⟩

/-- An event that is neither `Closed` nor `Failed` is applied only as the next regular step. -/
theorem applyEvent_applied {cleanup : Cleanup} (notClosed : event ≠ .closed)
    (notFailed : ∀ failure, event ≠ .failed failure)
    (applied : (applyEvent state event nowUnixMs cleanup).2 = .ok .applied) :
    nowUnixMs < state.identity.deadlineUnixMs ∧ state.phase.next = some event.targetPhase := by
  have outcome := apply_outcome state event nowUnixMs
  unfold applyEvent at applied
  generalize state.apply event nowUnixMs = result at outcome applied
  cases outcome with
  | duplicate =>
    simp only [Except.mapError, bind, Except.bind, pure, Except.pure] at applied
    split at applied <;> cases applied
  | terminal | rejected => cases applied
  | failed failure _ _ same => exact (notFailed failure same).elim
  | closed _ _ same => exact (notClosed same).elim
  | advanced _ _ early order _ => exact ⟨early, order⟩

/-- A regular step whose binding check passes is applied. -/
theorem applyEvent_advances {bound : WanSessionState} (cleanup : Cleanup)
    (live : state.phase.isTerminal = false) (early : nowUnixMs < state.identity.deadlineUnixMs)
    (fresh : event ∉ state.acceptedEvents) (order : state.phase.next = some event.targetPhase)
    (bind : state.bindEvent nowUnixMs event = .ok bound) :
    (applyEvent state event nowUnixMs cleanup).2 = .ok .applied := by
  have ahead : ¬ event.targetPhase.rank ≤ state.phase.rank := by
    rw [next_rank order]
    omega
  have running : event.targetPhase.isTerminal = false := next_live order
  have applied : state.apply event nowUnixMs = (state.advance bound event, .ok .applied) := by
    unfold apply
    rw [if_neg fresh, live, if_neg (by decide), if_neg (by omega), if_neg ahead]
    cases event with
    | closed | failed _ => cases running
    | _ =>
      simp only [order, bind, ne_eq, not_true_eq_false, if_false]
      rfl
  unfold applyEvent
  rw [applied]
  simp only [advance, running]
  rfl

/-- An unchecked step and the deadline: `event` is applied in the phase before its own. -/
theorem applyEvent_within_iff {cleanup : Cleanup} {before : WanSessionPhase}
    (granted : state.grant.isSome)
    (only : ∀ phase : WanSessionPhase, phase.next = some event.targetPhase ↔ phase = before)
    (notClosed : event ≠ .closed) (notFailed : ∀ failure, event ≠ .failed failure)
    (applies : state.phase = before → nowUnixMs < state.identity.deadlineUnixMs →
      (applyEvent state event nowUnixMs cleanup).2 = .ok .applied) :
    ((applyEvent state event nowUnixMs cleanup).2 = .ok .applied →
      nowUnixMs < effectiveDeadline state) ↔
      ¬ (state.phase = before ∧ GrantLapsed state nowUnixMs) := by
  constructor
  · rintro within ⟨phase, lapsed⟩
    have passed := (grantLapsed_iff granted lapsed.1).mp lapsed
    have := within (applies phase lapsed.1)
    omega
  · intro checked applied
    obtain ⟨early, order⟩ := applyEvent_applied notClosed notFailed applied
    by_contra passed
    refine checked ⟨(only state.phase).mp order, ?_⟩
    exact (grantLapsed_iff granted early).mpr (Nat.le_of_not_lt passed)

/-- **The commit checks every deadline**, at its last clock reading too. -/
theorem commitGenerationZero_within (commit : Commit) (state : WanSessionState)
    (applied : (commitGenerationZero commit state).2 = .ok .applied) :
    commit.committedAtMs < effectiveDeadline state := by
  unfold commitGenerationZero at applied
  split at applied
  · cases applied
  split at applied
  · have applied := afterCleanup_ok applied
    split at applied
    · cases applied
    rename_i timely
    split at applied
    · cases applied
    rename_i bound
    unfold Commit.DeadlineInvalidated at timely
    unfold Commit.BindingInvalidated at bound
    push Not at timely bound
    obtain ⟨_, _, _, identity, granted, _⟩ := bound
    rw [lt_effectiveDeadline_iff granted, identity]
    omega
  · cases afterCleanup_ok applied

/-- What a progress call relies on: the binding chain and the order of the accepted events. -/
structure Regular (state : WanSessionState) : Prop where
  bindings : WanSessionState.Bindings state
  accepted : WanSessionState.AcceptedInOrder state

theorem Regular.negotiating_applies (regular : Regular state) (cleanup : Cleanup)
    (phase : state.phase = .accessBound) (early : nowUnixMs < state.identity.deadlineUnixMs) :
    (applyEvent state .negotiating nowUnixMs cleanup).2 = .ok .applied := by
  have live : state.phase.isTerminal = false := by rw [phase]; rfl
  have fresh : .negotiating ∉ state.acceptedEvents :=
    regular.accepted.ahead live (by rw [phase]; decide)
  exact applyEvent_advances cleanup live early fresh (by rw [phase]; rfl) rfl

theorem Regular.streaming_applies (regular : Regular state) (cleanup : Cleanup)
    (phase : state.phase = .relayVerified) (early : nowUnixMs < state.identity.deadlineUnixMs) :
    (applyEvent state .streaming nowUnixMs cleanup).2 = .ok .applied := by
  have live : state.phase.isTerminal = false := by rw [phase]; rfl
  have fresh : .streaming ∉ state.acceptedEvents :=
    regular.accepted.ahead live (by rw [phase]; decide)
  obtain ⟨_, _, _, _, _, proven, _⟩ := regular.bindings.route ⟨Nat.le_of_eq (by rw [phase]), live⟩
  have bind : state.bindEvent nowUnixMs .streaming = .ok state := by
    simp [bindEvent, proven]
  exact applyEvent_advances cleanup live early fresh (by rw [phase]; rfl) bind

/-- **A progress call respects the effective deadline exactly when it is not an unchecked step.** -/
theorem Regular.within_iff (regular : Regular state) (call : ProgressCall) :
    Within state call ↔ ¬ Unchecked state call := by
  unfold Within
  by_cases granted : state.grant.isSome
  · simp only [granted, true_imp_iff]
    cases call with
    | beginNegotiation nowUnixMs cleanup =>
      refine applyEvent_within_iff granted ?_ nofun nofun (regular.negotiating_applies cleanup)
      intro phase
      cases phase <;> decide
    | recordStreaming nowUnixMs cleanup =>
      refine applyEvent_within_iff granted ?_ nofun nofun (regular.streaming_applies cleanup)
      intro phase
      cases phase <;> decide
    | commitGenerationZero commit =>
      exact iff_of_true (commitGenerationZero_within commit state) not_false
  · refine iff_of_true (fun present => (granted present).elim) ?_
    intro unchecked
    cases call with
    | beginNegotiation _ _ | recordStreaming _ _ =>
      obtain ⟨_, _, grant, present, _⟩ := unchecked
      exact granted (by rw [present]; rfl)
    | commitGenerationZero _ => exact unchecked

/-! ### Runs -/

theorem runCalls_regular (role : WanSessionRole) (identity : WanSessionIdentity)
    (calls : List Call) : Regular (runCalls (.new role identity) calls) := by
  obtain ⟨operations, ran⟩ := runCalls_eq_performAll calls (.new role identity)
  rw [ran]
  exact ⟨reachable_bindings role identity operations, accepted_inOrder role identity operations⟩

/-- Every progress call of a run meets `P` in the state it finds. -/
def EachProgress (P : WanSessionState → ProgressCall → Prop) (state : WanSessionState)
    (calls : List Call) : Prop :=
  ∀ before call after, calls = before ++ .progress call :: after → P (runCalls state before) call

/-- **No progress after authorization expiry, exactly**: a run keeps the effective deadline if and
only if none of its calls is an unchecked step. -/
theorem noProgressAfterExpiry_iff (role : WanSessionRole) (identity : WanSessionIdentity)
    (calls : List Call) :
    EachProgress Within (.new role identity) calls ↔
      EachProgress (fun state call => ¬ Unchecked state call) (.new role identity) calls := by
  constructor
  · intro within before call after split
    exact ((runCalls_regular role identity before).within_iff call).mp (within before call after split)
  · intro checked before call after split
    exact ((runCalls_regular role identity before).within_iff call).mpr
      (checked before call after split)

/-! ### A run that moves on after the grant lapsed -/

/-- A hexadecimal digest of one digit. -/
def digestOf (digit : Char) : String := String.ofList (List.replicate digestHexBytes digit)

/-- A target session until 1000 whose grant lapses at 500. -/
def lapsingIdentity : WanSessionIdentity where
  binding := ⟨⟨"session"⟩, ⟨"controller"⟩, ⟨"target"⟩, by decide, by decide, by decide, by decide⟩
  controllerKeyFingerprint := digestOf 'a'
  targetKeyFingerprint := some (digestOf 'b')
  deadlineUnixMs := 1000
  controllerKeyValid := by decide
  targetKeyValid := fun _ same => Option.some.inj same ▸ by decide
  deadlinePositive := by decide

def lapsingGrant : GrantBinding where
  requestCommitment := digestOf 'c'
  grantCommitment := some (digestOf 'd')
  approvedScopes := [.screenView]
  approvedProfile := none
  policyRevision := 1
  policyExpiresAtMs := 500
  grantExpiresAtMs := 500
  routePolicy := .relayOnly
  commitmentValid := by decide
  scopesNonempty := by decide
  scopesSorted := by decide
  revisionPositive := by decide
  expiryPositive := by decide
  grantWithinPolicy := by decide

def lapsingAccess : RelayAccessBinding where
  policyRevision := 1
  generation := 0
  directoryId := "directory"
  primaryNodeId := "node"
  relayUrlDigest := digestOf 'e'
  revisionPositive := by decide
  generationZero := rfl
  directoryValid := by decide
  nodeValid := by decide
  digestValid := by decide

def lapsingRun : List Call :=
  [.workflow (.backendBound (digestOf 'c')) 100 (.ok ()),
    .workflow (.awaitingConsent (digestOf 'f')) 100 (.ok ()),
    .workflow (.granted lapsingGrant) 100 (.ok ()),
    .workflow (.accessBound lapsingAccess) 100 (.ok ()),
    .progress (.beginNegotiation 600 (.ok ()))]

/-- **Negotiation begins at 600**, after the grant lapsed at 500, and the call answers `Applied`. -/
theorem begin_negotiation_after_expiry :
    ¬ EachProgress Within (.new .target lapsingIdentity) lapsingRun := by
  intro within
  have late := within (lapsingRun.take 4) (.beginNegotiation 600 (.ok ())) [] rfl
    (by decide) (by decide)
  exact absurd late (by decide)

end Coordinator

end MiniRemoteDesktop.Wan
