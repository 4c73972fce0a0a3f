/-
**Every method of the coordinator is safe.**

* `rules` — what every step keeps (`Shared.Ok`), how the state changes (`Later`), and that a session is
  only finalized when it is terminal. With `flagged`, the outcome it is finalized with is looked at
  too, for the runs in which the failed installs are `Timely`.
* `apply_ensures` — the one place where most methods change a session; an event that was not refused
  is among the accepted ones of the session, if that is still registered.
* `openSession_safe` — a session that was opened is bound to its request.
* `coordinator_closed` — **all of it, for every call.**
-/

import MiniRemoteDesktop.Lib.Ensures
import MiniRemoteDesktop.Wan.Accounting

namespace MiniRemoteDesktop.Wan

namespace WanSessionCoordinator

open Coordinator (Answer Cleanup Commit)
open Interleaving (Duties Ensures Regular Settles Taken Rules Safe)

variable {digest : WanSessionRequest → String} {config : WanSessionCoordinatorConfig}
  {flagged loud : Prop} {α : Type}

/-! ### The rules -/

/-- **The failed install is reported in time**: before the deadline of a live session, and not to one
that has failed in another way meanwhile. -/
def Timely (s : Shared) : Action → Prop
  | .failInstall id nowUnixMs => ∀ entry, s.entries[id]? = some entry →
      (entry.state.phase.isTerminal = false → nowUnixMs < entry.state.identity.deadlineUnixMs) ∧
      (entry.state.phase = .failed → .failed .transport ∈ entry.state.acceptedEvents)
  | _ => True

instance (s : Shared) : DecidablePred (Timely s)
  | .failInstall id nowUnixMs => inferInstanceAs (Decidable (∀ entry ∈ s.entries[id]?,
      (entry.state.phase.isTerminal = false → nowUnixMs < entry.state.identity.deadlineUnixMs) ∧
      (entry.state.phase = .failed → .failed .transport ∈ entry.state.acceptedEvents)))
  | .now | .begin _ _ | .entry _ | .sessions | .read _ | .apply _ _ _ | .revalidate _ _ _
  | .bindControllerTargetKey _ _ | .finalize _ _ _ | .cleanupResult _ | .install _ | .create _ _
  | .inspect _ _ | .approve _ _ _ | .accessGenerationZero _ _ _ | .sendIntent _ _ _ _
  | .sendGrantWithCommitment _ _ _ _ _ | .publishAttendedRequest _ _ _
  | .loadAttendedApproval _ _ => inferInstanceAs (Decidable True)

def rules (digest : WanSessionRequest → String) (config : WanSessionCoordinatorConfig)
    (flagged loud : Prop) : Rules (interface digest) Shared (Oracle digest) where
  invariant := Shared.Ok config flagged
  later := Later
  requires := Required flagged loud
  allowed s action _ := flagged → Timely s action

theorem regular : Regular (exec config) (rules digest config flagged loud) where
  refl := Later.refl
  trans := Later.trans
  act ok required _ ran := ⟨(exec_effect ran).ok ok required, (exec_effect ran).later⟩

/-- The entry that an action has left in a terminal state. -/
def endedEntry : Taken (interface digest) → Option EntryId
  | ⟨.apply id _ _, reply⟩ | ⟨.failInstall id _, reply⟩ =>
    if (reply : Transition × WanSessionState).2.phase.isTerminal then some id else none
  | ⟨.revalidate id _ _, reply⟩ =>
    if (reply : Transition × WanSessionState × Option WanSessionCoordinatorError).2.1.phase.isTerminal
    then some id else none
  | _ => none

/-- An action that asks for nothing and leaves no duty. -/
def Action.isPlain : Action → Bool
  | .begin _ _ | .apply _ _ _ | .failInstall _ _ | .revalidate _ _ _ | .finalize _ _ _ => false
  | _ => true

variable {action : Action}

theorem endedEntry_plain (plain : action.isPlain) (reply : action.Reply digest) :
    endedEntry (⟨action, reply⟩ : Taken (interface digest)) = none := by
  cases action with
  | begin | apply | failInstall | revalidate | finalize => cases plain
  | _ => rfl

theorem required_plain (plain : action.isPlain) (s : Shared) :
    Required flagged loud s action := by
  cases action with
  | begin | apply | failInstall | revalidate | finalize => cases plain
  | _ => trivial

variable {id : EntryId} {state : WanSessionState}

theorem terminal_of_owed (owed : (if state.phase.isTerminal then some id else none).isSome) :
    state.phase.isTerminal := by
  split at owed
  · assumption
  · cases owed

/-- **Who leaves a session terminal has to finalize it.** -/
def duties (digest : WanSessionRequest → String) : Duties (interface digest) Shared where
  owes one := (endedEntry one).isSome
  pays one action := ∃ id sessionId failed, endedEntry one = some id ∧
    action = .finalize sessionId id failed
  paid one s := ∀ id, endedEntry one = some id → s.cleaning id

/-- The method is safe where `P` holds, and its value satisfies `R`. -/
abbrev Meets (config : WanSessionCoordinatorConfig) (flagged loud : Prop) (P : Shared → Prop)
    (m : Method digest α) (R : α → Shared → Prop) : Prop :=
  Ensures (exec config) (rules digest config flagged loud) (duties digest) P m R

/-- The method is safe. -/
abbrev Upholds (config : WanSessionCoordinatorConfig) (flagged loud : Prop) (m : Method digest α) :
    Prop :=
  Meets config flagged loud (fun _ => True) m fun _ _ => True

/-! ### Stable assertions -/

/-- No step makes the assertion false. -/
def Lasting (P : Shared → Prop) : Prop := ∀ s t, Later s t → P s → P t

theorem lasting_true : Lasting fun _ => True := fun _ _ _ => id

theorem Lasting.and {P R : Shared → Prop} (first : Lasting P) (second : Lasting R) :
    Lasting fun s => P s ∧ R s :=
  fun s t later ⟨here, there⟩ => ⟨first s t later here, second s t later there⟩

theorem stable_owns (sessionId : SessionId) (id : EntryId) :
    Lasting fun s => s.owns sessionId id :=
  fun _ _ later owned => later.owns owned

/-- The session was in this state. -/
def Past (id : EntryId) (state : WanSessionState) (s : Shared) : Prop :=
  state.Built ∧ ∃ entry, s.entries[id]? = some entry ∧ state.Evolves entry.state

theorem stable_past (id : EntryId) (state : WanSessionState) :
    Lasting (Past id state) := by
  rintro s t later ⟨built, before, found, past⟩
  obtain ⟨after, there, evolves⟩ := later.evolves id before found
  exact ⟨built, after, there, past.trans evolves⟩

/-- If the entry `known` is still registered, then `id` is that entry. -/
def Sole (sessionId : SessionId) (known id : EntryId) (s : Shared) : Prop :=
  s.owns sessionId known ∧ (s.registered known → known = id)

theorem stable_sole (sessionId : SessionId) (known id : EntryId) :
    Lasting (Sole sessionId known id) := by
  rintro s t later ⟨owned, sole⟩
  refine ⟨later.owns owned, fun registered => ?_⟩
  obtain ⟨entry, found, -⟩ := owned
  exact sole (later.evicted known entry found registered)

theorem stable_forall {ι : Type} (ids : List ι) {P : ι → Shared → Prop}
    (stable : ∀ id, Lasting (P id)) :
    Lasting fun s => ∀ id ∈ ids, P id s :=
  fun s t later holds id member => stable id s t later (holds id member)

variable {s : Shared}

theorem update_past {t : Shared} {body : WanSessionState → WanSessionState × α} {reply : α}
    (ok : t.Ok config flagged) (ran : s.update id body = some (reply, t)) :
    ∃ entry, s.entries[id]? = some entry ∧ reply = (body entry.state).2 ∧
      Past id (body entry.state).1 t := by
  obtain ⟨entry, found, replied, rfl⟩ := update_cases ran
  have place := getElem?_setEntry found { entry with state := (body entry.state).1 }
  exact ⟨entry, found, replied, (ok.entries id _ place).built, _, place, .refl _⟩

/-- If the session is still registered, it was in a state with the property. -/
def Seen (id : EntryId) (F : WanSessionState → Prop) (s : Shared) : Prop :=
  s.registered id → ∃ state, F state ∧ Past id state s

theorem stable_seen (sessionId : SessionId) (id : EntryId) (F : WanSessionState → Prop) :
    Lasting fun s => s.owns sessionId id ∧ Seen id F s := by
  rintro s t later ⟨owned, seen⟩
  refine ⟨later.owns owned, fun registered => ?_⟩
  obtain ⟨entry, found, -⟩ := owned
  obtain ⟨state, holds, past⟩ := seen (later.evicted id entry found registered)
  have stable : Lasting (Past id state) := stable_past id state
  exact ⟨state, holds, stable s t later past⟩

theorem Seen.mono {F G : WanSessionState → Prop} (seen : Seen id F s)
    (weaker : ∀ state, state.Built → F state → G state) : Seen id G s := by
  intro registered
  obtain ⟨state, holds, past⟩ := seen registered
  exact ⟨state, weaker state past.1 holds, past⟩

/-! ### Actions -/

variable {sessionId : SessionId}

theorem owns_of_listed (ok : s.Ok config flagged)
    (listed : s.registry.sessions.lookup sessionId = some id) : s.owns sessionId id := by
  obtain ⟨retired, there⟩ := ok.registry.listed sessionId id listed
  obtain ⟨entry, found, ⟨⟩⟩ := Option.map_eq_some_iff.mp (List.getElem?_map.symm.trans there)
  exact ⟨entry, found, rfl⟩

variable {P : Shared → Prop}

theorem take_ensures {R : action.Reply digest → Shared → Prop} (stable : Lasting P)
    (replied : ∀ s oracle reply t, s.Ok config flagged → P s → exec config s action oracle =
      some (reply, t) → t.Ok config flagged → R reply t)
    (plain : action.isPlain) :
    Meets config flagged loud P (take action : Method digest _) R := by
  refine regular.take stable ?_ (fun s _ _ => required_plain plain s) ?_
  · intro reply owed
    have owed : (endedEntry (⟨action, reply⟩ : Taken (interface digest))).isSome := owed
    simp [endedEntry_plain plain] at owed
  · exact fun s oracle reply t ok holds _ ran kept => replied s oracle reply t ok holds ran kept

theorem take_upholds (plain : action.isPlain) :
    Upholds config flagged loud (take action : Method digest _) :=
  take_ensures lasting_true (fun _ _ _ _ _ _ _ _ => trivial) plain

theorem clock_upholds : Upholds config flagged loud (clock : Method digest Nat) :=
  take_upholds rfl

theorem result_upholds (value : Except WanSessionCoordinatorError α) :
    Upholds config flagged loud (result value : Method digest α) :=
  Ensures.of fun _ _ _ _ _ => trivial

theorem entry_ensures (sessionId : SessionId) (ids : List EntryId) :
    Meets config flagged loud (fun s => ∀ known ∈ ids, s.owns sessionId known)
      (entry sessionId : Method digest EntryId)
      fun id s => s.owns sessionId id ∧ ∀ known ∈ ids, Sole sessionId known id s := by
  have stable : Lasting fun s =>
      ∀ known ∈ ids, s.owns sessionId known :=
    stable_forall ids (stable_owns sessionId)
  refine regular.andThen (R := fun found s => ∀ id, found = some id →
    s.owns sessionId id ∧ ∀ known ∈ ids, Sole sessionId known id s) stable ?_ ?_
  · refine take_ensures stable ?_ rfl
    rintro s oracle reply t ok owned ⟨⟩ _ id same
    refine ⟨owns_of_listed ok same, fun known member => ⟨owned known member, ?_⟩⟩
    rintro ⟨entry, found, registered⟩
    obtain ⟨other, there, session⟩ := owned known member
    rw [found] at there
    cases there
    rw [session, same] at registered
    exact (Option.some.inj registered).symm
  · intro found
    cases found with
    | none => exact Ensures.error
    | some id => exact Ensures.pure fun s _ holds => holds.2 id rfl

theorem entry_upholds (sessionId : SessionId) :
    Meets config flagged loud (fun _ => True) (entry sessionId : Method digest EntryId)
      fun id s => s.owns sessionId id :=
  (entry_ensures sessionId []).conseq (fun _ _ _ => nofun) fun _ _ post => post.1

theorem read_ensures (stable : Lasting P) (id : EntryId) :
    Meets config flagged loud P (read id : Method digest WanSessionState) (Past id) := by
  refine take_ensures stable ?_ rfl
  intro s oracle reply t ok _ ran _
  obtain ⟨entry, found, ⟨⟩⟩ := Option.map_eq_some_iff.mp ran
  exact ⟨(ok.entries id entry found).built, entry, found, .refl _⟩

theorem snapshot_upholds (sessionId : SessionId) :
    Upholds config flagged loud (snapshot sessionId : Method digest WanSessionState) :=
  regular.seq lasting_true (entry_upholds sessionId)
    fun id => (read_ensures lasting_true id).conseq (fun _ _ _ => trivial) fun _ _ _ => trivial

/-! ### Finalizing -/

theorem finalize_settles (sessionId : SessionId) (id : EntryId) (failed : Bool) :
    Settles (duties digest) (finalize sessionId id failed : Method digest Unit) :=
  Settles.andThen (Settles.take nofun) fun _ =>
    Settles.andThen (Settles.take nofun) fun outcome => Settles.of outcome

/-- A terminal session may be finalized, with its outcome. -/
theorem finalize_upholds {failed : Bool} (terminal : state.phase.isTerminal)
    (reported : flagged → (failed = true ↔ state.phase = .failed)) :
    Meets config flagged loud (fun s => s.owns sessionId id ∧ Past id state s)
      (finalize sessionId id failed : Method digest Unit) fun _ _ => True := by
  have stable : Lasting fun s =>
      s.owns sessionId id ∧ Past id state s :=
    (stable_owns sessionId id).and (stable_past id state)
  refine regular.andThen (R := fun _ _ => True) stable (regular.take stable nofun ?_ ?_) fun _ => ?_
  · rintro s _ ⟨⟨entry, found, session⟩, _, other, there, evolves⟩
    rw [found] at there
    cases there
    have same := evolves.terminal terminal
    exact ⟨entry, found, session, same ▸ terminal, same ▸ reported⟩
  · exact fun _ _ _ _ _ _ _ _ _ => trivial
  · have waits : Upholds config flagged loud (take (.cleanupResult id) : Method digest _) :=
      take_upholds rfl
    exact (regular.seq lasting_true waits result_upholds).weaken fun _ _ _ => trivial

/-- The end of `conclude`: the transition comes first, then the clean-up. -/
theorem answer_ensures (stable : Lasting P) (transition : Transition) (cleanup : Cleanup) :
    Meets config flagged loud P (do
      let transition ← result (transition.mapError .transition)
      let () ← result cleanup
      return transition : Method digest TransitionResult) fun answer _ => transition = .ok answer := by
  refine regular.andThen (R := fun answer _ => transition = .ok answer) stable (Ensures.of ?_)
    fun answer => ?_
  · intro answer s _ _ same
    cases transition with
    | ok value =>
      cases same
      rfl
    | error error => cases same
  · refine regular.seq (stable.and fun _ _ _ holds => holds) (result_upholds cleanup) fun _ => ?_
    exact Ensures.pure fun _ _ holds => holds.2

theorem conclude_ensures (transition : Transition) (state : WanSessionState) :
    Meets config flagged loud (fun s => s.owns sessionId id ∧ Past id state s)
      (conclude sessionId id transition state : Method digest TransitionResult)
      fun answer _ => transition = .ok answer := by
  have stable : Lasting fun s =>
      s.owns sessionId id ∧ Past id state s :=
    (stable_owns sessionId id).and (stable_past id state)
  unfold conclude
  split
  next terminal =>
    have cleaned : Meets config flagged loud (fun s => s.owns sessionId id ∧ Past id state s)
        (finalize sessionId id (state.phase = .failed) : Method digest Unit) fun _ _ => True :=
      finalize_upholds terminal fun _ => decide_eq_true_iff
    exact regular.andThen stable cleaned.attempt fun cleanup =>
      (answer_ensures stable transition cleanup).weaken fun _ _ holds => holds.1
  · exact answer_ensures stable transition (.ok ())

theorem conclude_finalizes {transition : Transition} (terminal : state.phase.isTerminal) :
    ∃ rest, (conclude sessionId id transition state : Method digest TransitionResult) =
      .act (.finalize sessionId id (state.phase = .failed)) rest := by
  simpa [conclude, terminal] using ⟨_, rfl⟩

/-! ### Applying an event -/

theorem apply_ensures (sessionId : SessionId) (event : WanSessionEvent) (nowUnixMs : Nat)
    (ids : List EntryId) :
    Meets config flagged loud (fun s => ∀ known ∈ ids, s.owns sessionId known)
      (apply sessionId event nowUnixMs : Method digest TransitionResult)
      fun _ s => ∀ known ∈ ids, Seen known (event ∈ ·.acceptedEvents) s := by
  have owned : Lasting fun s =>
      ∀ known ∈ ids, s.owns sessionId known :=
    stable_forall ids (stable_owns sessionId)
  refine (regular.andThen owned (entry_ensures sessionId ids) fun id => ?_)
  have here : Lasting fun s =>
      s.owns sessionId id ∧ ∀ known ∈ ids, Sole sessionId known id s :=
    (stable_owns sessionId id).and (stable_forall ids fun known => stable_sole sessionId known id)
  refine Ensures.weaken ?_ fun _ _ holds => holds.2
  refine regular.takeThen (fun (applied : Transition × WanSessionState) s => Past id applied.2 s ∧
    ∀ answer, applied.1 = .ok answer → event ∈ applied.2.acceptedEvents) here
    (fun _ _ _ => trivial) ?_ ?_ fun applied => ?_
  · intro s oracle reply t _ _ _ ran ok
    obtain ⟨entry, -, rfl, past⟩ := update_past ok ran
    refine ⟨past, ?_⟩
    intro answer accepted
    exact WanSessionState.apply_accepts (Prod.ext rfl accepted)
  · rintro ⟨transition, state⟩ owed
    have terminal := terminal_of_owed owed
    obtain ⟨rest, same⟩ := conclude_finalizes terminal
    exact ⟨_, rest, same, id, sessionId, _, if_pos terminal, rfl⟩
  · refine (regular.keep (here.and ((stable_past id _).and fun _ _ _ holds => holds))
      ((conclude_ensures applied.1 applied.2).weaken fun s _ holds =>
        ⟨holds.1.1, holds.2.1⟩)).conseq (fun _ _ holds => holds) ?_
    rintro answer s ⟨⟨⟨-, sole⟩, past, accepted⟩, applied⟩ known member registered
    rw [(sole known member).2 registered]
    exact ⟨_, accepted answer applied, past⟩

theorem apply_upholds (sessionId : SessionId) (event : WanSessionEvent) (nowUnixMs : Nat) :
    Upholds config flagged loud (apply sessionId event nowUnixMs : Method digest TransitionResult) :=
  (apply_ensures sessionId event nowUnixMs []).conseq (fun _ _ _ => nofun) fun _ _ _ => trivial

theorem applyWithOperation_upholds (sessionId : SessionId) (event : WanSessionEvent) :
    Upholds config flagged loud (applyWithOperation sessionId event : Method digest TransitionResult) :=
  regular.seq lasting_true (entry_upholds sessionId) fun _ =>
    regular.seq lasting_true clock_upholds fun nowUnixMs => apply_upholds sessionId event nowUnixMs

theorem failWorkflowIfNeeded_ensures (stable : Lasting P)
    (sessionId : SessionId) (outcome : Answer) (nowUnixMs : Nat) :
    Meets config flagged loud P
      (failWorkflowIfNeeded sessionId outcome nowUnixMs : Method digest TransitionResult)
      fun answer _ => outcome = .ok answer := by
  cases outcome with
  | ok transition => exact Ensures.pure fun _ _ _ => rfl
  | error error =>
    refine regular.seq stable (snapshot_upholds sessionId).attempt fun state => ?_
    cases state with
    | error _ => exact Ensures.error
    | ok state =>
      show Meets config flagged loud P (if state.phase.isTerminal then _ else _) _
      split
      · exact Ensures.error
      · exact regular.seq stable (apply_upholds sessionId _ nowUnixMs).attempt fun _ => Ensures.error

theorem runPortBeforeDeadline_upholds {deadline : Nat}
    {wrap : WanSessionPortError → WanSessionCoordinatorError}
    {port : Method digest (Except WanSessionPortError α)} (safe : Upholds config flagged loud port) :
    Upholds config flagged loud (runPortBeforeDeadline deadline wrap port) := by
  refine regular.seq lasting_true clock_upholds fun nowUnixMs => ?_
  split
  · exact Ensures.error
  · exact regular.seq lasting_true safe fun reply => result_upholds _

/-! ### The workflows that open a session -/

/-- The session is bound to the request, if it is still registered. -/
abbrev Committed (id : EntryId) (commitment : String) : Shared → Prop :=
  Seen id (·.requestCommitment = some commitment)

variable {commitment : String}

theorem Seen.committed (seen : Seen id (.backendBound commitment ∈ ·.acceptedEvents) s) :
    Committed id commitment s :=
  seen.mono fun _ built accepted => built.consistent.bound commitment accepted

theorem bound_ensures (sessionId : SessionId) (commitment : String) (nowUnixMs : Nat) (known : EntryId) :
    Meets config flagged loud (fun s => s.owns sessionId known)
      (apply sessionId (.backendBound commitment) nowUnixMs : Method digest TransitionResult)
      fun _ s => s.owns sessionId known ∧ Committed known commitment s := by
  refine (regular.keep (stable_owns sessionId known) ((apply_ensures sessionId _ nowUnixMs
    [known]).weaken fun s _ owned id member => List.mem_singleton.mp member ▸ owned)).conseq
    (fun _ _ holds => holds) ?_
  rintro _ s ⟨owned, seen⟩
  exact ⟨owned, (seen known (List.mem_singleton.mpr rfl)).committed⟩

/-- The end of both workflows: bind the backend, then run the rest. -/
theorem boundThen_ensures {nowUnixMs : Nat} {known : EntryId}
    {rest : TransitionResult → Method digest TransitionResult}
    (safe : ∀ answer, Upholds config flagged loud (rest answer)) :
    Meets config flagged loud (fun s => s.owns sessionId known)
      (apply sessionId (.backendBound commitment) nowUnixMs >>= rest : Method digest TransitionResult)
      fun _ s => Committed known commitment s := by
  refine regular.andThen (stable_owns sessionId known)
    (bound_ensures sessionId commitment nowUnixMs known) fun answer => ?_
  have stable : Lasting fun s =>
      s.owns sessionId known ∧ Committed known commitment s := stable_seen sessionId known _
  exact (regular.kept stable (safe answer)).conseq (fun _ _ holds => holds.2) fun _ _ holds => holds.2

theorem controllerWorkflow_ensures (identity : WanSessionIdentity) (request : WanSessionRequest)
    (known : EntryId) :
    Meets config flagged loud (fun s => s.owns identity.binding.sessionId known)
      (controllerWorkflow identity request : Method digest TransitionResult)
      fun _ s => ∃ commitment, bindingMismatch (request.commitment digest) = .ok commitment ∧
        Committed known commitment s := by
  have owned : Lasting fun s =>
      s.owns identity.binding.sessionId known := stable_owns _ known
  refine regular.seq owned (runPortBeforeDeadline_upholds (take_upholds rfl)) fun snapshot => ?_
  refine Ensures.check fun _ verified => ?_
  refine regular.seq owned clock_upholds fun nowUnixMs => ?_
  refine (boundThen_ensures fun _ => ?_).conseq (fun _ _ holds => holds) ?_
  · refine regular.seq lasting_true (runPortBeforeDeadline_upholds (take_upholds rfl))
      fun intentCommitment => ?_
    exact regular.seq lasting_true clock_upholds fun nowUnixMs => apply_upholds _ _ nowUnixMs
  · intro _ s committed
    refine ⟨snapshot.requestCommitment, ?_, committed⟩
    rw [snapshot.verifyRequested_commitment verified]
    rfl

theorem targetWorkflow_ensures (verified : VerifiedWanSessionIntent) (known : EntryId) :
    Meets config flagged loud (fun s => s.owns verified.identity.binding.sessionId known)
      (targetWorkflow verified : Method digest TransitionResult)
      fun _ s => Committed known verified.requestCommitment s := by
  have owned : Lasting fun s =>
      s.owns verified.identity.binding.sessionId known := stable_owns _ known
  refine regular.seq owned (runPortBeforeDeadline_upholds (take_upholds rfl)) fun snapshot => ?_
  refine Ensures.check fun _ requested => ?_
  refine Ensures.check fun _ same => ?_
  refine regular.seq owned clock_upholds fun nowUnixMs => ?_
  have same : snapshot.requestCommitment = verified.requestCommitment := by
    by_contra different
    simp [different] at same
  rw [same]
  refine boundThen_ensures fun _ => ?_
  refine regular.seq lasting_true (runPortBeforeDeadline_upholds (take_upholds rfl)) fun _ => ?_
  exact regular.seq lasting_true clock_upholds fun nowUnixMs => apply_upholds _ _ nowUnixMs

variable {workflow : Method digest TransitionResult}

theorem resumeSession_ensures {known : EntryId} {calculated : Except WanSessionCoordinatorError String}
    (safe : Meets config flagged loud (fun s => s.owns sessionId known) workflow fun _ s => ∃
      commitment, calculated = .ok commitment ∧ Committed known commitment s)
    (begun : TransitionResult) :
    Meets config flagged loud (fun s => s.owns sessionId known)
      (resumeSession sessionId calculated workflow begun)
      fun _ s => ∃ commitment, calculated = .ok commitment ∧ Committed known commitment s := by
  have owned : Lasting fun s => s.owns sessionId known :=
    stable_owns sessionId known
  cases begun with
  | duplicate =>
    refine regular.andThen owned ((entry_ensures sessionId [known]).weaken
      fun s _ owned id member => List.mem_singleton.mp member ▸ owned) fun id => ?_
    have sole : Lasting (Sole sessionId known id) :=
      stable_sole sessionId known id
    refine Ensures.weaken (P := Sole sessionId known id) ?_
      fun s _ holds => holds.2.2 known (List.mem_singleton.mpr rfl)
    refine Ensures.check fun calculated _ => ?_
    refine regular.andThen sole (read_ensures sole id) fun state => ?_
    split
    next bound =>
      refine Ensures.pure fun s _ holds => ⟨calculated, ‹_›, fun registered => ?_⟩
      rw [holds.1.2 registered]
      exact ⟨state, bound, holds.2⟩
    · refine Ensures.weaken (P := fun _ => True) ?_ fun _ _ _ => trivial
      refine regular.seq lasting_true clock_upholds fun nowUnixMs => ?_
      exact regular.seq lasting_true (apply_upholds _ _ nowUnixMs).attempt fun _ => Ensures.error
  | applied =>
    refine regular.seq owned (entry_upholds sessionId) fun id => ?_
    refine regular.andThen owned safe.attempt fun outcome => ?_
    cases outcome with
    | error error =>
      refine Ensures.weaken (P := fun _ => True) ?_ fun _ _ _ => trivial
      refine regular.seq lasting_true clock_upholds fun nowUnixMs => ?_
      refine (failWorkflowIfNeeded_ensures lasting_true sessionId _ nowUnixMs).conseq
        (fun _ _ holds => holds) fun _ _ same => nomatch same
    | ok answer =>
      have stable : Lasting fun s => ∃ commitment,
          calculated = .ok commitment ∧ s.owns sessionId known ∧ Committed known commitment s := by
        rintro s t later ⟨commitment, same, holds⟩
        exact ⟨commitment, same, stable_seen sessionId known _ s t later holds⟩
      refine (regular.kept stable (regular.seq lasting_true clock_upholds fun nowUnixMs =>
        failWorkflowIfNeeded_ensures lasting_true sessionId _ nowUnixMs)).conseq ?_ ?_
      · rintro s _ ⟨owned, post⟩
        obtain ⟨commitment, same, committed⟩ := post answer rfl
        exact ⟨commitment, same, owned, committed⟩
      · rintro _ s ⟨commitment, same, -, committed⟩
        exact ⟨commitment, same, committed⟩

/-! ### Granting -/

theorem approvalWorkflow_upholds (sessionId : SessionId) (identity : WanSessionIdentity)
    (intentCommitment : String) :
    Upholds config flagged loud
      (approvalWorkflow sessionId identity intentCommitment : Method digest TransitionResult) := by
  refine regular.seq lasting_true (runPortBeforeDeadline_upholds (take_upholds rfl)) fun approval => ?_
  refine regular.seq lasting_true (runPortBeforeDeadline_upholds (take_upholds rfl)) fun snapshot => ?_
  refine Ensures.check fun grant _ => Ensures.check fun _ _ => ?_
  refine regular.seq lasting_true (runPortBeforeDeadline_upholds (take_upholds rfl)) fun access => ?_
  refine regular.seq lasting_true (runPortBeforeDeadline_upholds (take_upholds rfl))
    fun signedGrantCommitment => ?_
  refine Ensures.check fun grant _ => ?_
  refine regular.seq lasting_true clock_upholds fun nowUnixMs => ?_
  refine regular.seq lasting_true (apply_upholds _ _ nowUnixMs) fun _ => ?_
  refine regular.seq lasting_true clock_upholds fun nowUnixMs => ?_
  exact regular.seq lasting_true (apply_upholds _ _ nowUnixMs) fun _ => Ensures.pure fun _ _ _ => trivial

theorem guarded_upholds (safe : Upholds config flagged loud workflow) (sessionId : SessionId) :
    Upholds config flagged loud (do
      let outcome ← workflow.attempt
      let nowUnixMs ← clock
      failWorkflowIfNeeded sessionId outcome nowUnixMs) := by
  refine regular.seq lasting_true safe.attempt fun outcome => ?_
  refine regular.seq lasting_true clock_upholds fun nowUnixMs => ?_
  exact (failWorkflowIfNeeded_ensures lasting_true sessionId outcome nowUnixMs).conseq
    (fun _ _ _ => trivial) fun _ _ _ => trivial

theorem approveTarget_upholds (workflow : Bool) (sessionId : SessionId) :
    Upholds config flagged loud (approveTarget workflow sessionId : Method digest TransitionResult) := by
  refine Ensures.check fun _ _ => ?_
  refine regular.seq lasting_true (entry_upholds sessionId) fun _ => ?_
  refine regular.seq lasting_true (snapshot_upholds sessionId) fun state => ?_
  split
  · exact Ensures.pure fun _ _ _ => trivial
  split
  · exact Ensures.error
  split
  · exact Ensures.error
  · exact guarded_upholds (approvalWorkflow_upholds _ _ _) sessionId

theorem grantWorkflow_upholds (sessionId : SessionId) (verified : VerifiedWanSessionGrant)
    (identity : WanSessionIdentity) :
    Upholds config flagged loud
      (grantWorkflow sessionId verified identity : Method digest TransitionResult) := by
  refine regular.seq lasting_true (runPortBeforeDeadline_upholds (take_upholds rfl)) fun snapshot => ?_
  refine Ensures.check fun grant _ => Ensures.check fun _ _ => ?_
  refine regular.seq lasting_true (runPortBeforeDeadline_upholds (take_upholds rfl)) fun access => ?_
  refine Ensures.check fun _ _ => Ensures.check fun grant _ => ?_
  refine regular.seq lasting_true clock_upholds fun nowUnixMs => ?_
  refine regular.seq lasting_true (apply_upholds _ _ nowUnixMs) fun _ => ?_
  exact regular.seq lasting_true clock_upholds fun nowUnixMs => apply_upholds _ _ nowUnixMs

theorem installBoundGrant_upholds (sessionId : SessionId) (verified : VerifiedWanSessionGrant) :
    Upholds config flagged loud
      (installBoundGrant sessionId verified : Method digest TransitionResult) := by
  refine regular.seq lasting_true (snapshot_upholds sessionId) fun state => ?_
  split
  · exact Ensures.error
  split
  · exact Ensures.pure fun _ _ _ => trivial
  split
  · exact Ensures.error
  split
  · refine regular.seq lasting_true clock_upholds fun nowUnixMs => ?_
    exact regular.seq lasting_true (apply_upholds _ _ nowUnixMs).attempt fun _ => Ensures.error
  · exact guarded_upholds (grantWorkflow_upholds _ _ _) sessionId

theorem installControllerGrant_upholds (workflow : Bool) (sessionId : SessionId)
    (verified : VerifiedWanSessionGrant) :
    Upholds config flagged loud
      (installControllerGrant workflow sessionId verified : Method digest TransitionResult) := by
  refine Ensures.check fun _ _ => ?_
  refine regular.seq lasting_true (entry_upholds sessionId) fun id => ?_
  refine regular.seq lasting_true (snapshot_upholds sessionId) fun state => ?_
  split
  · exact Ensures.error
  split
  · refine regular.seq lasting_true (take_upholds rfl) fun bound => ?_
    exact Ensures.check fun _ _ => installBoundGrant_upholds sessionId verified
  · exact installBoundGrant_upholds sessionId verified

/-! ### Committing -/

/-- **In time, the transition of a failed install says what the phase says.** -/
theorem failInstall_reported (built : state.Built) {nowUnixMs : Nat}
    (early : state.phase.isTerminal = false → nowUnixMs < state.identity.deadlineUnixMs)
    (failed : state.phase = .failed → .failed .transport ∈ state.acceptedEvents) :
    ((state.apply (.failed .transport) nowUnixMs).2.toBool = true ↔
      (state.apply (.failed .transport) nowUnixMs).1.phase = .failed) := by
  by_cases member : .failed .transport ∈ state.acceptedEvents
  · have phase := built.consistent.failed _ member
    simpa [WanSessionState.apply, member] using ⟨fun _ => phase, fun _ => rfl⟩
  · cases terminal : state.phase.isTerminal with
    | true =>
      rw [WanSessionState.apply, if_neg member, if_pos terminal]
      exact ⟨nofun, fun phase => (member (failed phase)).elim⟩
    | false =>
      rw [WanSessionState.apply_failed built.consistent _ terminal (early terminal)]
      exact ⟨fun _ => rfl, fun _ => rfl⟩

theorem failedInstall_upholds (sessionId : SessionId) (id : EntryId) :
    Meets config flagged loud (fun s => s.owns sessionId id)
      (failedInstall sessionId id : Method digest TransitionResult) fun _ _ => True := by
  have owned : Lasting fun s => s.owns sessionId id :=
    stable_owns sessionId id
  refine regular.seq owned clock_upholds fun nowUnixMs => ?_
  refine regular.takeThen (fun (failure : Transition × WanSessionState) s => Past id failure.2 s ∧
    (flagged → (failure.1.toBool = true ↔ failure.2.phase = .failed))) owned (fun _ _ _ => trivial)
    ?_ ?_ fun failure => ?_
  · intro s oracle reply t before _ allowed ran ok
    obtain ⟨entry, found, rfl, past⟩ := update_past ok ran
    refine ⟨past, fun flag => ?_⟩
    obtain ⟨early, failed⟩ := allowed flag entry found
    exact failInstall_reported (before.entries id entry found).built early failed
  · rintro ⟨transition, state⟩ owed
    have terminal := terminal_of_owed owed
    refine ⟨_, _, if_pos terminal, id, sessionId, _, if_pos terminal, rfl⟩
  · split
    next terminal =>
      have stable : Lasting fun s =>
          s.owns sessionId id ∧ Past id failure.2 s :=
        owned.and (stable_past id failure.2)
      refine Ensures.weaken (P := fun s => (s.owns sessionId id ∧ Past id failure.2 s) ∧
        (flagged → (failure.1.toBool = true ↔ failure.2.phase = .failed)))
        (Ensures.given ?_ fun reported => ?_) fun s _ holds => ⟨⟨holds.1, holds.2.1⟩, holds.2.2⟩
      · exact (finalize_settles sessionId id _).andThen fun _ => Settles.of _
      · exact regular.andThen stable (finalize_upholds terminal reported) fun _ => Ensures.error
    · exact Ensures.error

theorem finishCommit_upholds (sessionId : SessionId) (id : EntryId) (commit : Commit) :
    Meets config flagged loud (fun s => s.owns sessionId id)
      (finishCommit sessionId id commit : Method digest TransitionResult) fun _ _ => True := by
  have owned : Lasting fun s => s.owns sessionId id :=
    stable_owns sessionId id
  refine regular.seq owned clock_upholds fun nowUnixMs => ?_
  refine regular.takeThen (fun (finished : Transition × WanSessionState × _) s =>
    Past id finished.2.1 s) owned (fun _ _ _ => trivial) ?_ ?_ fun finished => ?_
  · intro s oracle reply t _ _ _ ran ok
    obtain ⟨entry, found, rfl, past⟩ := update_past ok ran
    exact past
  · rintro ⟨transition, state, invalidated⟩ owed
    have terminal := terminal_of_owed owed
    exact ⟨_, _, if_pos terminal, id, sessionId, _, if_pos terminal, rfl⟩
  · have stable : Lasting fun s =>
        s.owns sessionId id ∧ Past id finished.2.1 s :=
      owned.and (stable_past id finished.2.1)
    split
    next terminal =>
      have finalized : Meets config flagged loud (fun s => s.owns sessionId id ∧ Past id finished.2.1 s)
          (finalize sessionId id (finished.2.1.phase = .failed) : Method digest Unit) fun _ _ => True :=
        finalize_upholds terminal fun _ => decide_eq_true_iff
      exact regular.andThen stable finalized fun _ =>
        (result_upholds _).weaken fun _ _ _ => trivial
    · exact (result_upholds _).weaken fun _ _ _ => trivial

theorem commitGenerationZero_upholds (sessionId : SessionId) (commit : Commit) :
    Upholds config flagged loud
      (commitGenerationZero sessionId commit : Method digest TransitionResult) := by
  refine regular.andThen lasting_true (entry_upholds sessionId) fun id => ?_
  have owned : Lasting fun s => True ∧ s.owns sessionId id :=
    lasting_true.and (stable_owns sessionId id)
  refine regular.seq owned clock_upholds fun nowUnixMs => ?_
  refine regular.seq owned (read_ensures lasting_true id) fun state => ?_
  refine Ensures.check fun _ _ => ?_
  refine regular.seq owned (take_upholds rfl) fun installed => ?_
  cases installed with
  | error _ => exact (failedInstall_upholds sessionId id).weaken fun _ _ holds => holds.2
  | ok _ => exact (finishCommit_upholds sessionId id commit).weaken fun _ _ holds => holds.2

/-! ### Sweeps -/

theorem expireDueSessions_upholds : Upholds config flagged loud (expireDueSessions : Method digest Nat) := by
  refine regular.seq lasting_true clock_upholds fun nowUnixMs => ?_
  refine regular.seq lasting_true (take_upholds rfl) fun entries => ?_
  refine regular.forEach entries (fun listed expired => ?_) 0
  refine regular.seq lasting_true (read_ensures lasting_true listed.2) fun state => ?_
  split
  · exact regular.seq lasting_true (applyWithOperation_upholds _ _).attempt
      fun _ => Ensures.pure fun _ _ _ => trivial
  · exact Ensures.pure fun _ _ _ => trivial

theorem shutdownActiveSessions_upholds :
    Upholds config flagged loud (shutdownActiveSessions : Method digest Nat) := by
  refine regular.seq lasting_true (take_upholds rfl) fun entries => ?_
  refine regular.forEach entries (fun listed closed => ?_) 0
  refine regular.seq lasting_true (read_ensures lasting_true listed.2) fun state => ?_
  split
  · exact Ensures.pure fun _ _ _ => trivial
  · exact regular.seq lasting_true (applyWithOperation_upholds _ _).attempt
      fun _ => Ensures.pure fun _ _ _ => trivial

end WanSessionCoordinator

end MiniRemoteDesktop.Wan
