/-
**Retrying a call that opened a session.**

A call of `start_controller` or `accept_verified_target_intent` that has succeeded may be made again
with the same arguments. While its session is registered and its deadline has not passed, the second
call looks the session up, compares its role, its **whole identity** and its request, and answers
`Duplicate`. The identity of a session changes once: when the first grant binds the key of a target
that was not known yet. From then on the argument of the first call is another identity.

* `retry_answers` — **a retry changes nothing** along every run, and alone it does answer.
* `pending_target_retry_conflicts` — a retry after the grant was installed.
-/

import MiniRemoteDesktop.Wan.Outcome

namespace MiniRemoteDesktop.Wan

open Coordinator

namespace WanSessionCoordinator

open Execution
open Interleaving (Admitted AdmittedAt Alone Label Machine Rules Safe Sound Taken Thread admits
  admitted_of_admits)
open Interleaving.Closed (ThreadSafe)

variable {digest : WanSessionRequest → String} {config : WanSessionCoordinatorConfig}
  {workflow : Bool} {known : EntryId} {identity : WanSessionIdentity} {same : Prop} {s t : Shared}

/-! ### The steps of a retry -/

/-- **The target key of the session is the one of the identity.** -/
def SameKey (known : EntryId) (identity : WanSessionIdentity) (s : Shared) : Prop :=
  ∃ entry, s.entries[known]? = some entry ∧
    entry.state.identity.targetKeyFingerprint = identity.targetKeyFingerprint

/-- The session is still registered, and a clock reading is before its deadline. -/
def InTime (known : EntryId) (identity : WanSessionIdentity) (s : Shared) (_ : Action)
    (oracle : Oracle digest) : Prop :=
  s.registered known ∧ ∀ nowUnixMs, oracle = .clock nowUnixMs → nowUnixMs < identity.deadlineUnixMs

/-- The step is in time; when it looks the session up, `same` says whether its key is the same. -/
def Retrying (known : EntryId) (identity : WanSessionIdentity) (same : Prop) (s : Shared)
    (action : Action) (oracle : Oracle digest) : Prop :=
  InTime known identity s action oracle ∧
    ∀ state built, action = .begin state built → (SameKey known identity s ↔ same)

/-- **The action changes nothing**, and it can be taken. -/
structure Harmless (digest : WanSessionRequest → String) (config : WanSessionCoordinatorConfig)
    (known : EntryId) (identity : WanSessionIdentity) (same : Prop) (s : Shared) (action : Action) :
    Prop where
  unchanged : ∀ (oracle : Oracle digest) reply t, Retrying known identity same s action oracle →
    exec config s action oracle = some (reply, t) → t = s
  enabled : s.registered known → (SameKey known identity s ↔ same) →
    ∃ (oracle : Oracle digest) (reply : action.Reply digest),
      Retrying known identity same s action oracle ∧ exec config s action oracle = some (reply, s)

/-- The rules of a retry. -/
def retryRules (digest : WanSessionRequest → String) (config : WanSessionCoordinatorConfig)
    (known : EntryId) (identity : WanSessionIdentity) (same : Prop) :
    Rules (interface digest) Shared (Oracle digest) :=
  (rules digest config False True).restrict (Harmless digest config known identity same)
    (Retrying known identity same)

/-- A plain action that never changes the shared state. -/
theorem harmless_of {action : Action} (plain : action.isPlain)
    (unchanged : ∀ (oracle : Oracle digest) reply t,
      exec config s action oracle = some (reply, t) → t = s)
    (enabled : s.registered known → ∃ (oracle : Oracle digest) (reply : action.Reply digest),
      InTime known identity s action oracle ∧ exec config s action oracle = some (reply, s)) :
    Harmless digest config known identity same s action where
  unchanged oracle reply t _ ran := unchanged oracle reply t ran
  enabled registered _ := by
    obtain ⟨oracle, reply, inTime, ran⟩ := enabled registered
    refine ⟨oracle, reply, ⟨inTime, fun state built equal => ?_⟩, ran⟩
    rw [equal] at plain
    cases plain

variable {oracle : Oracle digest}

theorem exec_now {nowUnixMs : Nat} (ran : exec config s .now oracle = some (nowUnixMs, t)) :
    oracle = .clock nowUnixMs ∧ t = s := by
  cases oracle with
  | clock reading =>
    cases ran
    exact ⟨rfl, rfl⟩
  | _ => cases ran

theorem harmless_now : Harmless digest config known identity same s .now := by
  refine harmless_of rfl (fun oracle nowUnixMs t ran => (exec_now ran).2) fun registered => ?_
  refine ⟨.clock 0, (0 : Nat), ⟨registered, fun nowUnixMs equal => ?_⟩, rfl⟩
  cases equal
  exact Nat.pos_of_ne_zero identity.deadlinePositive

theorem harmless_entry (sessionId : SessionId) :
    Harmless digest config known identity same s (.entry sessionId) := by
  refine harmless_of rfl (fun oracle reply t ran => ?_) fun registered => ?_
  · cases ran
    rfl
  · exact ⟨.none, _, ⟨registered, nofun⟩, rfl⟩

theorem harmless_read : Harmless digest config known identity same s (.read known) := by
  refine harmless_of rfl (fun oracle reply t ran => ?_) fun registered => ?_
  · obtain ⟨entry, found, ⟨⟩⟩ := Option.map_eq_some_iff.mp ran
    rfl
  · obtain ⟨entry, found, listed⟩ := registered
    refine ⟨.none, entry.state, ⟨⟨entry, found, listed⟩, nofun⟩, ?_⟩
    exact congrArg (Option.map _) found

/-! ### Looking the session up -/

theorem lookup_registered {state : WanSessionState} (registered : s.registered known)
    (parties : Parties known state s) :
    s.registry.sessions.lookup state.identity.binding.sessionId = some known := by
  obtain ⟨entry, found, listed⟩ := registered
  obtain ⟨other, there, session⟩ := parties.owns
  rw [found] at there
  cases there
  rw [← session]
  exact listed

variable {role : WanSessionRole}

/-- **`begin` finds the session that is there**, and compares its identity. -/
theorem begin_registered (config : WanSessionCoordinatorConfig) (registered : s.registered known)
    (parties : Parties known (.new role identity) s) :
    (SameKey known identity s →
      s.begin config (.new role identity) = some (.ok ⟨.duplicate, known⟩, s)) ∧
    (¬ SameKey known identity s →
      s.begin config (.new role identity) = some (.error .sessionConflict, s)) := by
  have listed := lookup_registered registered parties
  obtain ⟨entry, found, alike⟩ := parties
  have compared : s.begin config (.new role identity) =
      some (if entry.state.role = role ∧ entry.state.identity = identity then
        (.ok ⟨.duplicate, known⟩, s) else (.error .sessionConflict, s)) := by
    simp only [Shared.begin]
    rw [listed]
    simp only [found, Option.map_some]
    rfl
  rw [compared]
  constructor
  · rintro ⟨other, there, key⟩
    rw [found] at there
    cases there
    rw [if_pos ⟨alike.1, WanSessionIdentity.ext alike.2.1 alike.2.2.1 key alike.2.2.2⟩]
  · intro differs
    rw [if_neg fun equal => differs ⟨entry, found, by rw [equal.2]⟩]

variable (built : (WanSessionState.new role identity).Built)

theorem harmless_begin (parties : Parties known (.new role identity) s) :
    Harmless digest config known identity same s (.begin (.new role identity) built) where
  unchanged oracle reply t retrying ran := by
    obtain ⟨found, differs⟩ := begin_registered config retrying.1.1 parties
    by_cases key : SameKey known identity s
    · cases (found key).symm.trans ran
      rfl
    · cases (differs key).symm.trans ran
      rfl
  enabled registered key := by
    obtain ⟨found, differs⟩ := begin_registered config registered parties
    by_cases holds : SameKey known identity s
    · exact ⟨.none, _, ⟨⟨registered, nofun⟩, fun _ _ _ => key⟩, found holds⟩
    · exact ⟨.none, _, ⟨⟨registered, nofun⟩, fun _ _ _ => key⟩, differs holds⟩

/-- The answer of a retry, as far as the key decides it. -/
def Decided (same : Prop) (value : Except WanSessionCoordinatorError TransitionResult) : Prop :=
  (same → value = .ok .duplicate) ∧ (¬ same → value = .error .sessionConflict)

theorem begin_retry (parties : Parties known (.new role identity) s)
    (taken : List (Taken (interface digest))) :
    Safe (exec config) (retryRules digest config known identity same)
      (fun _ value t => Later s t ∧ t.Ok config False ∧ Decided same value)
      (begin (.new role identity) built : Method digest TransitionResult) taken s := by
  intro t later ok
  refine ⟨harmless_now, fun oracle (nowUnixMs : Nat) u retrying ran => ?_⟩
  obtain ⟨reading, rfl⟩ := exec_now ran
  refine Safe.branch (fun late => ?_) fun early => ?_
  · exact absurd (retrying.1.2 nowUnixMs reading) (Nat.not_lt.mpr late)
  intro v further ok
  have parties := parties.later (later.trans further)
  refine ⟨harmless_begin built parties, fun oracle reply w retrying ran => ?_⟩
  obtain ⟨found, differs⟩ := begin_registered config retrying.1.1 parties
  have key := retrying.2 _ _ rfl
  by_cases holds : SameKey known identity v
  · cases (found holds).symm.trans ran
    exact ⟨later.trans further, ok, fun _ => rfl, fun other => (other (key.mp holds)).elim⟩
  · cases (differs holds).symm.trans ran
    exact ⟨later.trans further, ok, fun other => (holds (key.mpr other)).elim, fun _ => rfl⟩

variable {steps : Method digest TransitionResult}

section

variable {commitment : String} (parties : Parties known (.new role identity) s)
  (committed : Committed known commitment s) (taken : List (Taken (interface digest)))
include parties committed taken

/-- **A retry that found its session** reads the request it is bound to. -/
theorem resumeSession_retry :
    Safe (exec config) (retryRules digest config known identity same)
      (fun _ value _ => value = .ok .duplicate)
      (resumeSession identity.binding.sessionId (.ok commitment) steps .duplicate) taken s := by
  intro t later ok
  refine ⟨harmless_entry _, fun oracle reply u retrying ran => ?_⟩
  cases ran
  have listed := lookup_registered retrying.1.1 (parties.later later)
  have committed := committed.later parties later
  have parties := parties.later later
  have found : t.registry.sessions.lookup identity.binding.sessionId = some known := listed
  show Safe _ _ _ (_ : Method digest TransitionResult) _ _
  rw [found]
  intro v further ok
  refine ⟨harmless_read, fun oracle reply w retrying ran => ?_⟩
  obtain ⟨entry, there, ⟨⟩⟩ := Option.map_eq_some_iff.mp ran
  obtain ⟨state, bound, built, other, same, evolves⟩ :=
    committed.later parties further retrying.1.1
  rw [there] at same
  cases same
  refine Safe.branch (fun _ => rfl) fun differs => ?_
  exact (differs ((evolves.history built.consistent).2 commitment bound)).elim

/-- **A retry changes nothing, and its answer depends on the target key alone.** -/
theorem retry_safe :
    Safe (exec config) (retryRules digest config known identity same)
      (fun _ value _ => Decided same value)
      (openSession role identity (.ok commitment) steps) taken s := by
  refine Safe.andThen ((begin_retry (built_new role identity) parties taken).mono ?_)
  rintro after result t ⟨later, ok, duplicate, conflict⟩
  by_cases holds : same
  · cases duplicate holds
    refine (resumeSession_retry (parties.later later) (committed.later parties later) after).mono ?_
    rintro _ value _ rfl
    exact ⟨fun _ => rfl, fun other => (other holds).elim⟩
  · cases conflict holds
    exact ⟨fun other => (holds other).elim, fun _ => rfl⟩

end

/-! ### Runs -/

/-- The coordinator when a call is made once more. -/
def calledAgain (workflow : Bool) (machine : Running digest) (call : Call) : Running digest :=
  { machine with threads := machine.threads ++ [⟨call, [], call.body workflow⟩] }

/-- **What a retry does**, wherever it is between its steps. -/
structure Retried (config : WanSessionCoordinatorConfig) (workflow : Bool) (known : EntryId)
    (identity : WanSessionIdentity) (same : Prop) (place : Nat) (machine : Running digest) : Prop where
  /-- Its steps change nothing. -/
  unchanged : ∀ oracle next, Admitted (Retrying known identity same) machine
      (.step place oracle : Label Call (Oracle digest) CleanupEvent) →
    (system digest config workflow).step machine (.step place oracle) = some next →
      next.shared = machine.shared
  /-- It answers `Duplicate` exactly when it found the same key, and a conflict otherwise. -/
  answer : ∀ thread value, machine.threads[place]? = some thread → thread.program = .done value →
    (value = .ok (.transition .duplicate) ↔ same) ∧ (¬ same → value = .error .sessionConflict)
  /-- Left alone, it answers. -/
  answers : machine.shared.registered known → (SameKey known identity machine.shared ↔ same) →
    ∃ next thread value, Reach (system digest config workflow).step
        (Alone place (Retrying known identity same)) machine next ∧
      next.shared = machine.shared ∧ next.threads[place]? = some thread ∧
      thread.program = .done value ∧ (value = .ok (.transition .duplicate) ↔ same)

variable {value : Except WanSessionCoordinatorError Returned}

/-- The answer of the call, from the answer of its method. -/
theorem Decided.answer {result : Except WanSessionCoordinatorError TransitionResult}
    (decided : Decided same result) (mapped : value = result.map .transition) :
    (value = .ok (.transition .duplicate) ↔ same) ∧ (¬ same → value = .error .sessionConflict) := by
  subst mapped
  by_cases holds : same
  · rw [decided.1 holds]
    exact ⟨⟨fun _ => holds, fun _ => rfl⟩, fun other => (other holds).elim⟩
  · rw [decided.2 holds]
    exact ⟨⟨nofun, fun other => (holds other).elim⟩, fun _ => rfl⟩

/-- The promise of a retry, for the run rule. -/
def RetryAnswer (same : Prop) (_ : List (Taken (interface digest)))
    (value : Except WanSessionCoordinatorError Returned) (_ : Shared) : Prop :=
  ∃ result, value = result.map .transition ∧ Decided same result

theorem body_retry {call : Call} {opening : Opening} {commitment : String}
    (body : call.body workflow = returning (openSession opening.role opening.identity
      opening.calculated steps))
    (calculated : opening.calculated = .ok commitment)
    (parties : Parties known (.new opening.role opening.identity) s)
    (committed : Committed known commitment s) :
    Safe (exec config) (retryRules digest config known opening.identity same) (RetryAnswer same)
      (call.body workflow : Method digest Returned) [] s := by
  rw [body, calculated]
  refine returning_safe ((retry_safe parties committed []).mono ?_)
  intro _ result _ decided
  exact ⟨result, rfl, decided⟩

variable {machine : Running digest}

/-- From the run rule of one thread to what the retry does. -/
theorem retried_of_safe {place : Nat} {thread : Thread _ Call _} (ok : machine.shared.Ok config False)
    (running : machine.threads[place]? = some thread)
    (safe : Safe (system digest config workflow).exec (retryRules digest config known identity same)
      (RetryAnswer same) thread.program thread.taken machine.shared) :
    Retried config workflow known identity same place machine where
  unchanged oracle next admitted taken := by
    obtain ⟨other, action, rest, reply, found, program, ran, -⟩ := Interleaving.step_thread taken
    rw [running] at found
    cases found
    rw [program] at safe
    obtain ⟨harmless, -⟩ := safe machine.shared (Later.refl _) ok
    exact harmless.unchanged oracle reply next.shared (admitted thread action rest running program) ran
  answer other value found answered := by
    rw [running] at found
    cases found
    rw [answered] at safe
    obtain ⟨result, mapped, decided⟩ := safe
    exact decided.answer mapped
  answers registered key := by
    obtain ⟨next, last, value, reach, unmoved, located, -, answered, result, mapped, decided⟩ :=
      safe.finishes running ok Later.refl fun action harmless => harmless.enabled registered key
    exact ⟨next, last, value, reach, unmoved, located, answered, (decided.answer mapped).1⟩

/-- **Retrying a call that has opened a session**, for every run up to the retry and every run after
it. `same` says whether the session has the target key of the argument when the retry looks it up. -/
theorem retry_answers (digest : WanSessionRequest → String) (config : WanSessionCoordinatorConfig)
    (workflow : Bool) {opening : Opening} {machine : Running digest}
    (reach : Reach (system digest config workflow).step always (start digest) machine)
    {index : Nat} {first : Thread (interface digest) Call _}
    (running : machine.threads[index]? = some first)
    (opens : first.tag.opening digest = some opening) {answer : Returned}
    (succeeded : first.program = .done (.ok answer)) :
    ∃ known, begins first.taken = [known] ∧ ∀ (same : Prop) (later : Running digest),
      Reach (system digest config workflow).step
        (AdmittedAt machine.threads.length (Retrying known opening.identity same))
        (calledAgain workflow machine first.tag) later →
      Retried config workflow known opening.identity same machine.threads.length later := by
  have closed := coordinator_closed digest config workflow False
  have sound : Sound (system digest config workflow) (rules digest config False True)
      (Answered workflow) machine := reach_sound (reach_admitted reach)
  obtain ⟨steps, known, commitment, body, transcript, calculated, parties, committed⟩ :=
    sound.answered running succeeded opening answer opens rfl
  refine ⟨known, transcript, fun same later ran => ?_⟩
  have called : (system digest config workflow).step machine (.call first.tag) =
      some (calledAgain workflow machine first.tag) := rfl
  have again := (closed.step_sound sound (admitted_always machine _) called).1
  have safe : ThreadSafe (system digest config workflow)
      (retryRules digest config known opening.identity same) machine.threads.length first.tag
      (RetryAnswer same) (calledAgain workflow machine first.tag) :=
    ⟨_, List.getElem?_concat_length, rfl, body_retry body calculated parties committed⟩
  obtain ⟨thread, located, -, safe⟩ := closed.sound_thread (fun _ _ _ _ _ holds => holds)
    (ran.mono fun machine label own => ⟨admitted_always machine label, own⟩) again safe
  have ok := closed.sound (reach_admitted (ran.mono fun _ _ _ => trivial)) again
  exact retried_of_safe ok.invariant located safe

/-! ### A retry after the grant was installed -/

/-- **A retry in time answers `Duplicate`.** -/
def RetriesIdempotent (digest : WanSessionRequest → String) (config : WanSessionCoordinatorConfig)
    (workflow : Bool) : Prop :=
  ∀ (machine later : Running digest) (index : Nat) (first thread : Thread (interface digest) Call _)
    (opening : Opening) (answer : Returned) (known : EntryId) value,
    Reach (system digest config workflow).step always (start digest) machine →
    machine.threads[index]? = some first → first.tag.opening digest = some opening →
    first.program = .done (.ok answer) → begins first.taken = [known] →
    Reach (system digest config workflow).step
      (AdmittedAt machine.threads.length (InTime known opening.identity))
      (calledAgain workflow machine first.tag) later →
    later.threads[machine.threads.length]? = some thread → thread.program = .done value →
      value = .ok (.transition .duplicate)

/-- `InTime`, where it can be decided. -/
def inTime (known : EntryId) (identity : WanSessionIdentity) (s : Shared) (_ : Action)
    (oracle : Oracle digest) : Bool :=
  (s.entries[known]?.any fun entry => s.registry.sessions.lookup entry.sessionId == some known) &&
    match oracle with
    | .clock nowUnixMs => nowUnixMs < identity.deadlineUnixMs
    | _ => true

theorem inTime_sound {action : Action} (passed : inTime known identity s action oracle) :
    InTime known identity s action oracle := by
  obtain ⟨listed, reading⟩ := Bool.and_eq_true_iff.mp passed
  refine ⟨?_, fun nowUnixMs equal => ?_⟩
  · cases found : s.entries[known]? with
    | none =>
      simp [found] at listed
    | some entry =>
      rw [found, Option.any_some, beq_iff_eq] at listed
      exact ⟨entry, found, listed⟩
  · rw [equal] at reading
    exact of_decide_eq_true reading

/-- The controller of the session does not know the key of its target yet. -/
def pendingIdentity : WanSessionIdentity :=
  { lapsingIdentity with
    targetKeyFingerprint := none
    targetKeyValid := fun _ bound => by cases bound }

def sampleRequest : WanSessionRequest where
  sessionId := ⟨"session"⟩
  idempotencyKey := Vector.replicate 16 1
  controllerDeviceId := ⟨"controller"⟩
  targetDeviceId := ⟨"target"⟩
  accessMode := .attended
  requestedScopes := [.screenView]
  requestedProfile := none
  routePolicy := .relayOnly

/-- The backend has recorded the request. -/
def sampleSnapshot : WanBackendSessionSnapshot sampleDigest where
  request := sampleRequest
  requestCommitment := digestOf 'c'
  status := .requested
  grant := none
  committed := by decide
  requestedBare _ := rfl
  approvedGrant approved := by cases approved
  grantCommitted _ member := by cases member
  grantWithin _ member := by cases member

/-- The grant that the target has signed with its key. -/
def sampleGrant : VerifiedWanSessionGrant where
  sessionId := ⟨"session"⟩
  controllerDeviceId := ⟨"controller"⟩
  targetDeviceId := ⟨"target"⟩
  targetKeyFingerprint := digestOf 'b'
  controllerKeyFingerprint := digestOf 'a'
  intentCommitment := digestOf 'f'
  grantCommitment := digestOf 'd'
  expiresAtMs := 500
  approvedScopes := [.screenView]
  approvedProfile := none
  policyRevision := 1
  policyExpiresAtMs := 500
  generation := 0
  directoryId := "directory"
  primaryNodeId := "node"
  routePolicy := .relayOnly

/-- `start_controller` runs to its end at 100. -/
def startRun : List (Label Call (Oracle sampleDigest) CleanupEvent) :=
  [.call (.startController pendingIdentity sampleRequest), .step 0 (.clock 100), .step 0 .none,
    .step 0 .none, .step 0 (.clock 100), .step 0 (.snapshot (.ok sampleSnapshot)),
    .step 0 (.clock 100), .step 0 .none, .step 0 .none, .step 0 (.clock 100),
    .step 0 (.commitment (.ok (digestOf 'f'))), .step 0 (.clock 100), .step 0 .none,
    .step 0 .none, .step 0 (.clock 100)]

/-- `install_controller_grant` runs until it has bound the target key. -/
def bindRun : List (Label Call (Oracle sampleDigest) CleanupEvent) :=
  [.call (.installControllerGrant ⟨"session"⟩ sampleGrant), .step 1 .none, .step 1 .none,
    .step 1 .none, .step 1 .none]

/-- The answer of a thread. -/
def answerOf (machine : Running digest) (index : Nat) :
    Option (Except WanSessionCoordinatorError Returned) :=
  machine.threads[index]?.bind fun thread => match thread.program with
    | .done value => some value
    | .act _ _ => none

theorem answerOf_eq_some {index : Nat} (answered : answerOf machine index = some value) :
    ∃ thread, machine.threads[index]? = some thread ∧ thread.program = .done value := by
  obtain ⟨thread, running, answered⟩ := Option.bind_eq_some_iff.mp answered
  refine ⟨thread, running, ?_⟩
  cases program : thread.program with
  | done other =>
    rw [program] at answered
    cases answered
    rfl
  | act action rest =>
    simp [program] at answered

def sampleOpening : Opening := ⟨.controller, pendingIdentity, .ok (digestOf 'c')⟩

/-- The first call has opened the session, as entry `0`. -/
def hasOpened (machine : Running sampleDigest) : Bool :=
  answerOf machine 0 == some (.ok (.transition .applied)) && (machine.threads[0]?.any fun thread =>
      thread.tag.opening sampleDigest == some sampleOpening && begins thread.taken == [0]) &&
    machine.threads.length == 2

theorem bindRun_opened : (run (system sampleDigest sampleConfig true).step (start sampleDigest)
    (startRun ++ bindRun)).any hasOpened = true := by
  decide

/-- What `hasOpened` has seen. -/
theorem hasOpened_first {machine : Running sampleDigest} (opened : hasOpened machine) :
    ∃ first, machine.threads[0]? = some first ∧
      first.tag.opening sampleDigest = some sampleOpening ∧ begins first.taken = [0] ∧
      first.program = .done (.ok (.transition .applied)) ∧ machine.threads.length = 2 := by
  obtain ⟨opened, count⟩ := Bool.and_eq_true_iff.mp opened
  obtain ⟨answered, tagged⟩ := Bool.and_eq_true_iff.mp opened
  obtain ⟨first, running, program⟩ := answerOf_eq_some (beq_iff_eq.mp answered)
  rw [running, Option.any_some] at tagged
  obtain ⟨opens, begun⟩ := Bool.and_eq_true_iff.mp tagged
  exact ⟨first, running, beq_iff_eq.mp opens, beq_iff_eq.mp begun, program, beq_iff_eq.mp count⟩

theorem retry_answers_after_binding : ∃ machine : Running sampleDigest, ∃ first known,
    machine.threads[0]? = some first ∧ begins first.taken = [known] ∧
      ∀ (same : Prop) (later : Running sampleDigest), Reach (system sampleDigest sampleConfig true).step
          (AdmittedAt machine.threads.length (Retrying known pendingIdentity same))
          (calledAgain true machine first.tag) later →
        Retried sampleConfig true known pendingIdentity same machine.threads.length later := by
  obtain ⟨machine, ran, opened⟩ := (Option.any_eq_true _ _).mp bindRun_opened
  obtain ⟨first, running, opens, -, program, -⟩ := hasOpened_first opened
  obtain ⟨known, begun, retried⟩ := retry_answers sampleDigest sampleConfig true (run_reach ran)
    running opens program
  exact ⟨machine, first, known, running, begun, retried⟩

/-- The call is made again at 200, before the deadline, and looks the session up. -/
def retryRun : List (Label Call (Oracle sampleDigest) CleanupEvent) :=
  [.step 2 (.clock 200), .step 2 .none]

/-- The retry, each of its steps in time. -/
def retryFrom (machine : Running sampleDigest) (call : Call) : Option (Running sampleDigest) :=
  runChecked (admits (inTime 0 pendingIdentity)) (system sampleDigest sampleConfig true).step
    (calledAgain true machine call) retryRun

/-- The retry ends, and its answer is a conflict. -/
def conflicts (machine : Running sampleDigest) : Bool :=
  machine.threads[0]?.any fun first => (retryFrom machine first.tag).any fun later =>
    answerOf later 2 == some (.error .sessionConflict)

theorem bindRun_conflicts : (run (system sampleDigest sampleConfig true).step (start sampleDigest)
    (startRun ++ bindRun)).any conflicts = true := by
  decide

/-- **The key of the target was bound between the two calls**: the same call, made again in time,
answers `SessionConflict`. -/
theorem pending_target_retry_conflicts : ¬ RetriesIdempotent sampleDigest sampleConfig true := by
  intro idempotent
  obtain ⟨machine, ran, opened⟩ := (Option.any_eq_true _ _).mp bindRun_opened
  obtain ⟨other, same, conflict⟩ := (Option.any_eq_true _ _).mp bindRun_conflicts
  rw [ran] at same
  cases same
  obtain ⟨first, running, opens, begun, program, count⟩ := hasOpened_first opened
  rw [conflicts, running, Option.any_some] at conflict
  obtain ⟨later, retried, answered⟩ := (Option.any_eq_true _ _).mp conflict
  obtain ⟨thread, located, ended⟩ := answerOf_eq_some (beq_iff_eq.mp answered)
  have reach : Reach (system sampleDigest sampleConfig true).step
      (AdmittedAt machine.threads.length (InTime 0 pendingIdentity))
      (calledAgain true machine first.tag) later := by
    refine runChecked_reach retried fun machine label passed oracle equal => ?_
    exact admitted_of_admits (fun _ _ _ => inTime_sound) passed
  rw [← count] at located
  have duplicate := idempotent machine later 0 first thread sampleOpening _ 0 _ (run_reach ran)
    running opens program begun reach located ended
  cases duplicate

end WanSessionCoordinator

end MiniRemoteDesktop.Wan
