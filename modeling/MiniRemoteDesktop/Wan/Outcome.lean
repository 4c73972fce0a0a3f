/-
**What every run of the coordinator keeps.**

* `outcome_of_timely` — where failed installs are reported in time, the backend is told the outcome
  that the session had.
* `late_install_reported_as_closed` — a run in which it is not: the deadline passes during an install
  that fails.
-/

import MiniRemoteDesktop.Wan.Expiry
import MiniRemoteDesktop.Wan.Opening

namespace MiniRemoteDesktop.Wan

open Coordinator

namespace WanSessionCoordinator

open Coordinator (Commit)
open Execution
open Interleaving (Admitted Label Machine Sound Thread admits admitted_of_admits)

variable {digest : WanSessionRequest → String} {config : WanSessionCoordinatorConfig}
  {workflow : Bool} {flagged : Prop}

/-- A state of the coordinator, with its calls in progress. -/
abbrev Running (digest : WanSessionRequest → String) :=
  Machine (interface digest) Call (Except WanSessionCoordinatorError Returned) Shared

theorem start_sound : Sound (system digest config workflow) (rules digest config flagged True)
    (Answered workflow) (start digest) where
  invariant := new_ok config flagged
  threads index thread running := by cases running

variable {machine : Running digest}

/-- **The invariant of every run** whose failed installs are timely, if that is asked for. -/
theorem reach_sound
    (reach : Reach (system digest config workflow).step (Admitted fun s action _ => flagged →
      Timely s action) (start digest) machine) :
    Sound (system digest config workflow) (rules digest config flagged True) (Answered workflow)
      machine :=
  (coordinator_closed digest config workflow flagged).sound reach start_sound

theorem admitted_always (machine : Running digest) (label : Label Call (Oracle digest) CleanupEvent) :
    Admitted (fun s action _ => False → Timely s action) machine label := by
  cases label with
  | call | background => trivial
  | step index oracle => exact fun _ _ _ _ _ never => never.elim

theorem reach_admitted {next : Running digest}
    (reach : Reach (system digest config workflow).step always machine next) :
    Reach (system digest config workflow).step
      (Admitted fun s action _ => False → Timely s action) machine next :=
  reach.mono fun machine label _ => admitted_always machine label

/-! ### The registry -/

/-- **The registry accounts for its sessions.** -/
structure Accounted (config : WanSessionCoordinatorConfig) (shared : Shared) : Prop where
  count : shared.registry.sessions.entries.length =
    shared.registry.activeSessions + shared.registry.terminalOrder.length
  distinct : shared.registry.terminalOrder.Nodup
  terminal : ∀ sessionId ∈ shared.registry.terminalOrder, ∃ id entry,
    shared.registry.sessions.lookup sessionId = some id ∧ shared.entries[id]? = some entry ∧
      entry.sessionId = sessionId ∧ entry.state.phase.isTerminal
  active : shared.registry.activeSessions ≤ config.maxSessions
  retained : shared.registry.terminalOrder.length ≤ config.maxTerminalSessions
  /-- The calls made for an entry are those of one clean-up, so far as it has come. -/
  once : ∀ id, ∃ failed, shared.callsOf id <+: cleanupCalls failed
  /-- A live session is registered. -/
  live : ∀ (id : EntryId) (entry : SessionEntry), shared.entries[id]? = some entry →
    entry.state.phase.isTerminal = false → shared.registry.sessions.lookup entry.sessionId = some id

variable {s : Shared}

theorem Shared.Ok.once (ok : s.Ok config flagged) (id : EntryId) :
    ∃ failed, s.callsOf id <+: cleanupCalls failed := by
  cases found : s.entries[id]? with
  | none =>
    rw [ok.unborn id (List.getElem?_eq_none_iff.mp found)]
    exact ⟨false, List.nil_prefix⟩
  | some entry =>
    have holds := ok.entries id entry found
    cases started : entry.cleanupReceipt with
    | none =>
      rw [holds.idle started]
      exact ⟨false, List.nil_prefix⟩
    | some receipt => exact ⟨receipt.failed, _, (holds.started receipt started).calls⟩

variable {id : EntryId} {entry : SessionEntry}

theorem Shared.Ok.retired_terminal (ok : s.Ok config flagged) (found : s.entries[id]? = some entry)
    (retired : entry.retired) :
    entry.state.phase.isTerminal := by
  cases started : entry.cleanupReceipt with
  | none =>
    simp [SessionEntry.retired, started] at retired
  | some receipt => exact ((ok.entries id entry found).started receipt started).terminal

theorem Shared.Ok.accounted (ok : s.Ok config flagged) : Accounted config s where
  count := ok.registry.count
  distinct := ok.registry.distinct
  terminal sessionId queued := by
    obtain ⟨id, listed, there⟩ := (ok.registry.queued sessionId).mp queued
    obtain ⟨entry, found, same⟩ := Option.map_eq_some_iff.mp (List.getElem?_map.symm.trans there)
    obtain ⟨session, retired⟩ := Prod.mk.inj same
    exact ⟨id, entry, listed, found, session, ok.retired_terminal found retired⟩
  active := ok.active
  retained := ok.retained
  once := ok.once
  live id entry found live := by
    refine ok.registry.present entry.sessionId id ?_
    rw [getElem?_view found]
    cases retired : entry.retired with
    | false => rfl
    | true =>
      simp [ok.retired_terminal found retired] at live

/-- **The accounting of the registry**, for every interleaving of the calls and the clean-ups. -/
theorem registry_accounting (digest : WanSessionRequest → String)
    (config : WanSessionCoordinatorConfig) (workflow : Bool) {machine : Running digest}
    (reach : Reach (system digest config workflow).step always (start digest) machine) :
    Accounted config machine.shared :=
  (reach_sound (reach_admitted reach)).invariant.accounted

/-! ### The outcome -/

/-- **The backend is told the outcome of every session.** -/
structure Reports (machine : Running digest) : Prop where
  /-- `close_backend` is told whether the session failed. -/
  outcome : ∀ id failed, (id, .closeBackend failed) ∈ machine.shared.calls → ∃ entry,
    machine.shared.entries[id]? = some entry ∧ entry.state.phase.isTerminal ∧
      (failed = true ↔ entry.state.phase = .failed)
  /-- The calls made for an entry are those of one clean-up, so far as it has come. -/
  single : ∀ id, ∃ failed, machine.shared.callsOf id <+: cleanupCalls failed
  /-- A clean-up is for the session of its entry, and has made all its calls when it is recorded. -/
  complete : ∀ (id : EntryId) (entry : SessionEntry) (receipt : CleanupReceipt),
    machine.shared.entries[id]? = some entry → entry.cleanupReceipt = some receipt →
      receipt.sessionId = entry.sessionId ∧
        (receipt.recorded → ∃ failed, machine.shared.callsOf id = cleanupCalls failed)
  /-- A call that has left a session terminal does not answer before its clean-up is started. -/
  started : ∀ (index : Nat) (thread : Thread (interface digest) Call _) answer one id,
    machine.threads[index]? = some thread → thread.program = .done answer → one ∈ thread.taken →
      endedEntry one = some id → machine.shared.cleaning id

theorem closeBackend_mem {failed other : Bool} (member : .closeBackend failed ∈ cleanupCalls other) :
    failed = other := by
  simpa [cleanupCalls] using member

theorem mem_callsOf {call : CleanupCall} (made : (id, call) ∈ s.calls) :
    call ∈ s.callsOf id :=
  List.mem_map.mpr ⟨(id, call), List.mem_filter.mpr ⟨made, decide_eq_true rfl⟩, rfl⟩

theorem Shared.Ok.outcome (ok : s.Ok config True) {failed : Bool}
    (made : (id, .closeBackend failed) ∈ s.calls) : ∃ entry, s.entries[id]? = some entry ∧
      entry.state.phase.isTerminal ∧ (failed = true ↔ entry.state.phase = .failed) := by
  have called := mem_callsOf made
  cases found : s.entries[id]? with
  | none =>
    simp [ok.unborn id (List.getElem?_eq_none_iff.mp found)] at called
  | some entry =>
    have holds := ok.entries id entry found
    cases started : entry.cleanupReceipt with
    | none =>
      simp [holds.idle started] at called
    | some receipt =>
      have cleanup := holds.started receipt started
      have same : failed = receipt.failed := by
        refine closeBackend_mem ?_
        rw [← cleanup.calls]
        exact List.mem_append_left _ called
      rw [same]
      exact ⟨entry, rfl, cleanup.terminal, cleanup.reported trivial⟩

theorem Shared.Ok.complete (ok : s.Ok config flagged) {receipt : CleanupReceipt}
    (found : s.entries[id]? = some entry) (started : entry.cleanupReceipt = some receipt) :
    receipt.sessionId = entry.sessionId ∧
      (receipt.recorded → ∃ failed, s.callsOf id = cleanupCalls failed) := by
  have cleanup := (ok.entries id entry found).started receipt started
  refine ⟨cleanup.session, fun recorded => ⟨receipt.failed, ?_⟩⟩
  simp [← cleanup.calls, cleanup.recorded recorded]

/-- **The true outcome is reported** in every run whose failed installs are timely. -/
theorem outcome_of_timely (digest : WanSessionRequest → String) (config : WanSessionCoordinatorConfig)
    (workflow : Bool) {machine : Running digest}
    (reach : Reach (system digest config workflow).step (Admitted fun s action _ => Timely s action)
      (start digest) machine) : Reports machine := by
  have sound : Sound (system digest config workflow) (rules digest config True True)
      (Answered workflow) machine := by
    refine reach_sound (reach.mono fun machine label admitted => ?_)
    cases label with
    | call | background => trivial
    | step index oracle =>
      exact fun thread action next running program _ => admitted thread action next running program
  have settled := (coordinator_duties digest config workflow).settled reach
    (fun index thread running => by cases running)
  refine ⟨fun id failed => sound.invariant.outcome, sound.invariant.once, ?_, ?_⟩
  · exact fun id entry receipt found started => sound.invariant.complete found started
  · intro index thread answer one id running answered member ended
    refine settled.paid running answered member ?_ id ended
    show (endedEntry one).isSome
    simp [ended]

/-! ### A failed install -/

/-- A digest for every request. -/
def sampleDigest : WanSessionRequest → String := fun _ => digestOf 'c'

def sampleConfig : WanSessionCoordinatorConfig := ⟨2, 1⟩

/-- What the session is before it negotiates, and the negotiation. -/
def sampleOperations : List WanSessionState.Operation :=
  [.apply (.backendBound (digestOf 'c')) 100, .apply (.awaitingConsent (digestOf 'f')) 100,
    .apply (.granted lapsingGrant) 100,
    .apply (.accessBound lapsingAccess) 100,
    .apply .negotiating 100]

/-- A target session that negotiates, until 1000. -/
def sampleState : WanSessionState :=
  (WanSessionState.new .target lapsingIdentity).performAll sampleOperations

theorem sampleState_built : sampleState.Built := ⟨_, _, sampleOperations, rfl⟩

/-- The route that the installer is asked to install. -/
def sampleCommit : Commit where
  role := .target
  identity := lapsingIdentity
  grant := lapsingGrant
  access := lapsingAccess
  proof := ⟨lapsingAccess, .relayOnly, true, true, fun _ => ⟨rfl, rfl⟩⟩
  startedAtMs := 0
  installed := false
  failedAtMs := 0
  committedAtMs := 0
  cleanup := .ok ()

/-- The session is begun at 100 and committed; the installer fails, and the clock then shows
`failedAtMs`. -/
def failedInstallRun (failedAtMs : Nat) : List (Label Call (Oracle sampleDigest) CleanupEvent) :=
  [.call (.begin sampleState sampleState_built), .step 0 (.clock 100), .step 0 .none,
    .call (.commitGenerationZero ⟨"session"⟩ sampleCommit), .step 1 .none, .step 1 (.clock 100),
    .step 1 .none, .step 1 (.installed (.error .cleanupFailed)), .step 1 (.clock failedAtMs),
    .step 1 .none, .step 1 .none] ++
  List.replicate 6 (.background (.called 0 (.ok ()))) ++
  [.background (.recorded 0), .background (.published 0), .step 1 .none]

/-- What is seen of a run: the clean-up calls, the phases, and the queue of the registry. -/
def observed (machine : Running sampleDigest) :
    List (EntryId × CleanupCall) × List WanSessionPhase × List SessionId :=
  (machine.shared.calls, machine.shared.entries.map fun entry => entry.state.phase,
    machine.shared.registry.terminalOrder)

theorem observed_late : (run (system sampleDigest sampleConfig false).step (start sampleDigest)
    (failedInstallRun 1000)).map observed =
      some ((cleanupCalls false).map fun call => (0, call), [.failed], [⟨"session"⟩]) := by
  decide

theorem observed_timely : (runChecked (admits fun s action _ => Timely s action)
    (system sampleDigest sampleConfig false).step (start sampleDigest) (failedInstallRun 500)).map
      observed = some ((cleanupCalls true).map fun call => (0, call), [.failed], [⟨"session"⟩]) := by
  decide

theorem registry_accounting_of_a_failed_install : ∃ machine : Running sampleDigest,
    machine.shared.registry.terminalOrder = [⟨"session"⟩] ∧ Accounted sampleConfig machine.shared := by
  obtain ⟨machine, ran, same⟩ := Option.map_eq_some_iff.mp observed_late
  exact ⟨machine, congrArg (fun seen => seen.2.2) same,
    registry_accounting sampleDigest sampleConfig false (run_reach ran)⟩

theorem outcome_of_timely_install : ∃ machine : Running sampleDigest,
    machine.shared.calls = (cleanupCalls true).map (fun call => (0, call)) ∧ Reports machine := by
  obtain ⟨machine, ran, same⟩ := Option.map_eq_some_iff.mp observed_timely
  refine ⟨machine, congrArg Prod.fst same, outcome_of_timely sampleDigest sampleConfig false
    (runChecked_reach ran fun machine label => admitted_of_admits ?_)⟩
  exact fun s action oracle passed => of_decide_eq_true passed

/-- **The deadline passes during an install that fails**: the session is `Failed`, and the backend is
told that it was closed. -/
theorem late_install_reported_as_closed : ¬ ∀ machine : Running sampleDigest,
    Reach (system sampleDigest sampleConfig false).step always (start sampleDigest) machine →
      Reports machine := by
  intro reports
  obtain ⟨machine, ran, same⟩ := Option.map_eq_some_iff.mp observed_late
  have calls : machine.shared.calls = (cleanupCalls false).map fun call => (0, call) :=
    congrArg Prod.fst same
  have phases : (machine.shared.entries.map fun entry => entry.state.phase) = [.failed] :=
    congrArg (fun seen => seen.2.1) same
  obtain ⟨entry, found, -, told⟩ := (reports machine (run_reach ran)).outcome 0 false
    (by rw [calls]; decide)
  have phase : entry.state.phase = .failed := by
    have there := congrArg (fun phases : List WanSessionPhase => phases[0]?) phases
    simp only [List.getElem?_map, found] at there
    exact Option.some.inj there
  exact absurd (told.mpr phase) (by decide)

end WanSessionCoordinator

end MiniRemoteDesktop.Wan
