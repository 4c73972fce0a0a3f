/-
**Opening a session, and the whole coordinator.**

`start_controller` and `accept_verified_target_intent` are one method with a role, an identity and a
request of their own. The entry that such a call begins, or finds, is in its transcript; once the call
has succeeded that entry is bound to the request for as long as it is registered, **whatever the other
calls do**.

* `Opening`, `body_opening` — the two calls as one.
* `coordinator_closed` — **every call is safe**, so the run rule applies to the coordinator.
-/

import MiniRemoteDesktop.Wan.Safety

namespace MiniRemoteDesktop.Wan

namespace WanSessionCoordinator

open Coordinator (Answer Cleanup Commit)
open Interleaving (Duties Ensures Regular Settles Stable Taken Rules Safe Closed stable_true)

variable {digest : WanSessionRequest → String} {config : WanSessionCoordinatorConfig}
  {flagged : Prop} {α : Type}

/-! ### The entries a thread has begun -/

/-- The entry that `begin` answered. -/
def begunEntry : Taken (interface digest) → Option EntryId
  | ⟨.begin _ _, reply⟩ =>
    match (reply : Except WanSessionCoordinatorError Begun) with
    | .ok begun => some begun.entry
    | .error _ => none
  | _ => none

/-- The entries a thread began or found, in order. -/
def begins (taken : List (Taken (interface digest))) : List EntryId := taken.filterMap begunEntry

theorem begins_append (taken more : List (Taken (interface digest))) :
    begins (taken ++ more) = begins taken ++ begins more :=
  List.filterMap_append

variable {s : Shared}

theorem begunEntry_quiet {one : Taken (interface digest)} (quiet : Required flagged False s one.1) :
    begunEntry one = none := by
  obtain ⟨action, reply⟩ := one
  cases action with
  | begin => exact quiet.elim
  | _ => rfl

variable {taken : List (Taken (interface digest))}

/-- **A quiet method** begins nothing, as one part of a loud one. -/
theorem quiet_safe {P : Shared → Prop} {m : Method digest α} {R : α → Shared → Prop}
    (ensures : Meets config flagged False P m R) (ok : s.Ok config flagged) (holds : P s) :
    Safe (exec config) (rules digest config flagged True)
      (fun after result t => begins after = begins taken ∧ Later s t ∧
        ∀ value, result = .ok value → R value t) m taken s := by
  refine ((regular.frame ok (ensures.safe taken s ok holds)).mono ?_).requires_mono ?_
  · rintro _ result t ⟨post, -, later, more, rfl, met⟩
    refine ⟨?_, later, post⟩
    have silent : begins more = [] := by
      refine List.filterMap_eq_nil_iff.mpr fun one member => ?_
      obtain ⟨u, required⟩ := met one member
      exact begunEntry_quiet required
    simp [begins_append, silent]
  · intro s action required
    cases action with
    | begin => trivial
    | finalize => exact required
    | _ => trivial

/-! ### Beginning -/

/-- The entry is of a session between these parties. -/
def Parties (id : EntryId) (state : WanSessionState) (s : Shared) : Prop :=
  ∃ entry, s.entries[id]? = some entry ∧ entry.state.SameParties state

variable {state : WanSessionState}

theorem Parties.owns {id : EntryId} (parties : Parties id state s) :
    s.owns state.identity.binding.sessionId id := by
  obtain ⟨entry, found, same⟩ := parties
  exact ⟨entry, found, congrArg WanSessionBinding.sessionId same.2.1⟩

variable {t : Shared}

theorem Parties.later {id : EntryId} (parties : Parties id state s) (later : Later s t) :
    Parties id state t := by
  obtain ⟨entry, found, same⟩ := parties
  obtain ⟨after, there, evolves⟩ := later.evolves id entry found
  have kept := evolves.parties
  exact ⟨after, there, kept.1.trans same.1, kept.2.1.trans same.2.1, kept.2.2.1.trans same.2.2.1,
    kept.2.2.2.trans same.2.2.2⟩

theorem begin_parties {begun : Begun} (ran : s.begin config state = some (.ok begun, t)) :
    Parties begun.entry state t := by
  rcases begin_cases ran with ⟨id, entry, -, found, rfl, reply⟩ | ⟨-, ⟨-, reply⟩ | ⟨-, rfl, reply⟩⟩
  · split at reply
    next same =>
      cases reply
      refine ⟨entry, found, same.1, ?_⟩
      rw [same.2]
      exact ⟨rfl, rfl, rfl⟩
    · cases reply
  · cases reply
  · cases reply
    exact ⟨⟨state, none⟩, List.getElem?_concat_length, rfl, rfl, rfl, rfl⟩

variable (built : state.Built) (workflow : Bool)

theorem begin_safe (taken : List (Taken (interface digest))) (s : Shared) :
    Safe (exec config) (rules digest config flagged True)
      (fun after result t => t.Ok config flagged ∧ ∀ answer, result = .ok answer →
        ∃ id, begins after = begins taken ++ [id] ∧ Parties id state t)
      (begin state built : Method digest TransitionResult) taken s := by
  intro t later ok
  refine ⟨trivial, fun oracle (nowUnixMs : Nat) u _ ran => ?_⟩
  have met : Required flagged True t .now := trivial
  have kept := (exec_effect ran).ok ok met
  refine Safe.branch (fun late => ?_) fun early => ?_
  · exact ⟨kept, nofun⟩
  · intro v further ok
    refine ⟨trivial, fun oracle reply w _ ran => ?_⟩
    have met : Required flagged True v (.begin state built) := trivial
    have kept := (exec_effect ran).ok ok met
    cases reply with
    | error error => exact ⟨kept, nofun⟩
    | ok begun =>
      refine ⟨kept, fun _ _ => ⟨begun.entry, ?_, begin_parties ran⟩⟩
      rw [begins_append, begins_append, List.append_assoc]
      rfl

/-- **What a successful call leaves**, whatever the others did meanwhile. -/
theorem openSession_safe {role : WanSessionRole} {identity : WanSessionIdentity}
    {calculated : Except WanSessionCoordinatorError String}
    {workflow : Method digest TransitionResult}
    (safe : ∀ known, Meets config flagged False
      (fun s => s.owns identity.binding.sessionId known) workflow
      fun _ s => ∃ commitment, calculated = .ok commitment ∧ Committed known commitment s)
    (taken : List (Taken (interface digest))) (s : Shared) :
    Safe (exec config) (rules digest config flagged True)
      (fun after result t => ∀ answer, result = .ok answer → ∃ known commitment,
        begins after = begins taken ++ [known] ∧ calculated = .ok commitment ∧
        Parties known (.new role identity) t ∧ Committed known commitment t)
      (openSession role identity calculated workflow) taken s := by
  refine Safe.andThen ((begin_safe (built_new role identity) taken s).mono ?_)
  rintro after result t ⟨ok, begun⟩
  cases result with
  | error error => exact nofun
  | ok answer =>
    obtain ⟨known, transcript, parties⟩ := begun answer rfl
    have owned : t.owns identity.binding.sessionId known := parties.owns
    refine (quiet_safe (resumeSession_ensures (safe known) answer) ok owned).mono ?_
    rintro further result u ⟨quiet, later, post⟩ answer same
    obtain ⟨commitment, calculated, committed⟩ := post answer same
    exact ⟨known, commitment, quiet.trans transcript, calculated, parties.later later, committed⟩

/-! ### The two calls as one -/

/-- What a call that opens a session opens it with. -/
structure Opening where
  role : WanSessionRole
  identity : WanSessionIdentity
  calculated : Except WanSessionCoordinatorError String
  deriving DecidableEq

def Call.opening (digest : WanSessionRequest → String) : Call → Option Opening
  | startController identity request =>
    some ⟨.controller, identity, bindingMismatch (request.commitment digest)⟩
  | acceptVerifiedTargetIntent verified =>
    some ⟨.target, verified.identity, .ok verified.requestCommitment⟩
  | _ => none

theorem result_ok_bind {β : Type} (value : α) (next : α → Method digest β) :
    (result (.ok value) >>= next : Method digest β) = next value := rfl

theorem startController_cases (identity : WanSessionIdentity) (request : WanSessionRequest) :
    (∃ error, (startController workflow identity request : Method digest TransitionResult) =
      result (.error error)) ∨
    (startController workflow identity request : Method digest TransitionResult) =
      openSession .controller identity (bindingMismatch (request.commitment digest))
        (controllerWorkflow identity request) := by
  unfold startController requireWorkflow
  cases validateRequestIdentity identity request with
  | error error => exact .inl ⟨error, rfl⟩
  | ok _ =>
    cases workflow with
    | false => exact .inl ⟨_, rfl⟩
    | true => exact .inr rfl

theorem acceptVerifiedTargetIntent_cases (verified : VerifiedWanSessionIntent) :
    (∃ error, (acceptVerifiedTargetIntent workflow verified : Method digest TransitionResult) =
      result (.error error)) ∨
    (acceptVerifiedTargetIntent workflow verified : Method digest TransitionResult) =
      openSession .target verified.identity (.ok verified.requestCommitment)
        (targetWorkflow verified) := by
  unfold acceptVerifiedTargetIntent requireWorkflow
  cases validateRequestIdentity verified.identity verified.request with
  | error error => exact .inl ⟨error, rfl⟩
  | ok _ =>
    cases bindingMismatch (verified.request.commitment digest) with
    | error error => exact .inl ⟨error, rfl⟩
    | ok calculated =>
      rw [result_ok_bind, result_ok_bind]
      by_cases differs : calculated ≠ verified.requestCommitment
      · simpa [differs] using .inl ⟨_, rfl⟩
      · rw [if_neg differs]
        cases workflow with
        | false => exact .inl ⟨_, rfl⟩
        | true => exact .inr rfl

/-- The workflow of a new session, for either role. -/
structure Opening.Steps (opening : Opening) (steps : Method digest TransitionResult) : Prop where
  ensures (config : WanSessionCoordinatorConfig) (flagged : Prop) (known : EntryId) :
    Meets config flagged False (fun s => s.owns opening.identity.binding.sessionId known) steps
      fun _ s => ∃ commitment, opening.calculated = .ok commitment ∧ Committed known commitment s

/-- **A call that opens a session** is refused at once or goes on to open it. -/
theorem body_opening {call : Call} {opening : Opening} (opens : call.opening digest = some opening) :
    (∃ error, (call.body workflow : Method digest Returned) = result (.error error)) ∨
    ∃ steps : Method digest TransitionResult, opening.Steps steps ∧ call.body workflow =
      returning (openSession opening.role opening.identity opening.calculated steps) := by
  cases call with
  | startController identity request =>
    cases opens
    rcases startController_cases workflow identity request with ⟨error, refused⟩ | opened
    · exact .inl ⟨error, congrArg returning refused⟩
    · exact .inr ⟨_, ⟨fun _ _ => controllerWorkflow_ensures identity request⟩,
        congrArg returning opened⟩
  | acceptVerifiedTargetIntent verified =>
    cases opens
    rcases acceptVerifiedTargetIntent_cases workflow verified with ⟨error, refused⟩ | opened
    · exact .inl ⟨error, congrArg returning refused⟩
    · refine .inr ⟨_, ⟨fun _ _ known => ?_⟩, congrArg returning opened⟩
      exact (targetWorkflow_ensures verified known).conseq (fun _ _ holds => holds)
        fun _ _ committed => ⟨verified.requestCommitment, rfl, committed⟩
  | _ => cases opens

/-! ### All calls -/

/-- **What a call promises when it answers.** -/
def Answered (workflow : Bool) (call : Call) (taken : List (Taken (interface digest)))
    (value : Except WanSessionCoordinatorError Returned) (s : Shared) : Prop :=
  ∀ opening answer, call.opening digest = some opening → value = .ok answer → ∃ steps known commitment,
      (call.body workflow : Method digest Returned) =
        returning (openSession opening.role opening.identity opening.calculated steps) ∧
      begins taken = [known] ∧ opening.calculated = .ok commitment ∧
      Parties known (.new opening.role opening.identity) s ∧ Committed known commitment s

variable {m : Method digest TransitionResult}

theorem returning_safe {rules : Rules (interface digest) Shared (Oracle digest)}
    {Q : List (Taken (interface digest)) → Except WanSessionCoordinatorError Returned → Shared → Prop}
    (safe : Safe (exec config) rules (fun after result t => Q after (result.map .transition) t) m
      taken s) :
    Safe (exec config) rules Q (returning m) taken s := by
  refine Safe.andThen (safe.mono ?_)
  intro after result t holds
  cases result with
  | ok answer => exact holds
  | error error => exact holds

theorem returning_upholds (safe : Upholds config flagged True m) :
    Upholds config flagged True (returning m) :=
  regular.seq stable_true safe fun _ => Ensures.pure fun _ _ _ => trivial

theorem counting_upholds {m : Method digest Nat} (safe : Upholds config flagged True m) :
    Upholds config flagged True (counting m) :=
  regular.seq stable_true safe fun _ => Ensures.pure fun _ _ _ => trivial

theorem begin_settles :
    Settles (duties digest) (begin state built : Method digest TransitionResult) := by
  refine Settles.andThen (Settles.take nofun) fun nowUnixMs => ?_
  split
  · exact Settles.of _
  · refine Settles.andThen (Settles.take nofun) fun begun => ?_
    exact Settles.andThen (Settles.of begun) fun _ => trivial

theorem begin_upholds :
    Upholds config flagged True (begin state built : Method digest TransitionResult) :=
  ⟨begin_settles built, fun taken s _ _ => (begin_safe built taken s).mono fun _ _ _ _ _ _ => trivial⟩

theorem body_upholds {call : Call} (other : call.opening digest = none) :
    Upholds config flagged True (call.body workflow : Method digest Returned) := by
  cases call with
  | begin state built => exact returning_upholds (begin_upholds built)
  | approveTarget sessionId => exact returning_upholds (approveTarget_upholds workflow sessionId)
  | installControllerGrant sessionId verified =>
    exact returning_upholds (installControllerGrant_upholds workflow sessionId verified)
  | commitGenerationZero sessionId commit =>
    exact returning_upholds (commitGenerationZero_upholds sessionId commit)
  | beginNegotiation | recordStreaming | close | fail =>
    exact returning_upholds (applyWithOperation_upholds _ _)
  | expireDueSessions => exact counting_upholds expireDueSessions_upholds
  | shutdownActiveSessions => exact counting_upholds shutdownActiveSessions_upholds
  | startController | acceptVerifiedTargetIntent => cases other

theorem body_safe (call : Call) (s : Shared) (ok : s.Ok config flagged) :
    Safe (exec config) (rules digest config flagged True) (Answered workflow call)
      (call.body workflow : Method digest Returned) [] s := by
  cases opens : call.opening digest with
  | some opening =>
    rcases body_opening workflow opens with ⟨error, refused⟩ | ⟨steps, safe, opened⟩
    · rw [refused]
      exact fun _ _ _ same => nomatch same
    · rw [opened]
      refine returning_safe ((openSession_safe (safe.ensures config flagged) [] s).mono ?_)
      intro taken result t post other answer same answered
      rw [opens] at same
      cases same
      cases result with
      | error error => cases answered
      | ok transition =>
        obtain ⟨known, commitment, transcript, calculated, parties, committed⟩ := post transition rfl
        exact ⟨steps, known, commitment, opened, transcript, calculated, parties, committed⟩
  | none =>
    refine ((body_upholds workflow opens).safe [] s ok trivial).mono ?_
    intro taken value t _ opening answer same
    simp [opens] at same

theorem body_settles (config : WanSessionCoordinatorConfig) (workflow : Bool) (call : Call) :
    Settles (duties digest) (call.body workflow : Method digest Returned) := by
  cases opens : call.opening digest with
  | some opening =>
    rcases body_opening workflow opens with ⟨error, refused⟩ | ⟨steps, safe, opened⟩
    · rw [refused]
      exact Settles.of _
    · rw [opened]
      refine Settles.andThen (Settles.andThen (begin_settles (built_new _ _)) fun begun => ?_) fun _ => trivial
      exact (resumeSession_ensures (safe.ensures config True 0) begun).settles
  | none =>
    have safe : Upholds config True True (call.body workflow : Method digest Returned) :=
      body_upholds workflow opens
    exact safe.settles

theorem Committed.later {known : EntryId} {commitment : String} (parties : Parties known state s)
    (committed : Committed known commitment s) (later : Later s t) :
    Committed known commitment t := by
  have stable : Stable (rules (fun _ => "") ⟨0, 0⟩ True True) fun s =>
      s.owns state.identity.binding.sessionId known ∧ Committed known commitment s :=
    stable_seen _ known _
  exact (stable s t later ⟨parties.owns, committed⟩).2

/-- **Every call of the coordinator is safe.** -/
theorem coordinator_closed (digest : WanSessionRequest → String) (config : WanSessionCoordinatorConfig)
    (workflow : Bool) (flagged : Prop) :
    Closed (system digest config workflow) (rules digest config flagged True) (Answered workflow) where
  toRegular := regular
  background := by
    intro s t event ok ran
    obtain ⟨id, entry, receipt, found, started, effect⟩ := background_effect ran
    exact ⟨effect.ok found started ok, effect.later found⟩
  body := body_safe workflow
  stable := by
    intro call taken value s t later promised opening answer opens answered
    obtain ⟨steps, known, commitment, opened, transcript, calculated, parties, committed⟩ :=
      promised opening answer opens answered
    exact ⟨steps, known, commitment, opened, transcript, calculated, parties.later later,
      committed.later parties later⟩

/-- **Every session that a call leaves terminal is cleaned up.** -/
theorem coordinator_duties (digest : WanSessionRequest → String) (config : WanSessionCoordinatorConfig)
    (workflow : Bool) : (duties digest).Kept (system digest config workflow) where
  body := body_settles config workflow
  act := by
    rintro s t action oracle reply one ran (paid | ⟨id, sessionId, failed, ended, rfl⟩) other same
    · exact (exec_effect ran).cleaning (paid other same)
    · rw [ended] at same
      cases same
      exact finalize_cleaning ran
  background := by
    intro s t event one ran paid id ended
    obtain ⟨_, entry, receipt, found, started, effect⟩ := background_effect ran
    exact effect.cleaning found (paid id ended)

end WanSessionCoordinator

end MiniRemoteDesktop.Wan
