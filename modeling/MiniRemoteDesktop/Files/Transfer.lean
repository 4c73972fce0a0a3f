/-
**File transfers that run and are cancelled** (`mrd-service`, `handlers/files.rs`).

`start_file_transfer` takes the lock of the registry four times, and copies between the third and the
fourth; any requests may come between. What the copy does to the disk, and the size it is estimated to have,
are answers of the environment.

* `allocateTransferId`, `upsert`, `cancel` — the methods of `FileTransferRegistry`.
* `find_upsert`, `find_cancel` — what is found under an identifier afterwards.
* `step` — one lock acquisition of a request, or the end of a copy.
* `transfers_lawful` — **where no request writes over a transfer that was cancelled meanwhile**, a cancelled
  transfer stays cancelled and no status moves back; `cancelled_transfer_completes` — otherwise it does.
-/

import MiniRemoteDesktop.Lib.Text
import MiniRemoteDesktop.Proto
import Mathlib.Data.List.Nodup
import MiniRemoteDesktop.Lib.Execution

namespace MiniRemoteDesktop.Files

/-! ### The file transfers of the service -/

section

open List (find?_cons_of_neg find?_cons_of_pos map_cons)

inductive FileTransferStatus
  | queued
  | running
  | completed
  | failed
  | cancelled
  deriving DecidableEq

inductive FileEntryKind
  | file
  | directory
  | symlink
  | other

structure FileEntry where
  (name path : String)
  kind : FileEntryKind
  (sizeBytes modifiedMs : Option Nat)
  readonly : Bool

structure FileTransferTaskSnapshot where
  transferId : String
  status : FileTransferStatus
  (sourceDeviceId targetDeviceId : Option DeviceId)
  (transportKind providerKind : String)
  providerCapabilities : List String
  (totalEntries copiedEntries : Nat)
  totalBytes : Option Nat
  copiedBytes : Nat
  error : Option String
  entries : List FileEntry

structure FileTransferRegistry where
  nextTransferSeq : Nat
  transfers : List FileTransferTaskSnapshot

/-- `format!("file-transfer-\x7b\x7d", seq)`. -/
def transferIdOf (seq : Nat) : String := "file-transfer-" ++ toString seq

theorem transferIdOf_injective : Function.Injective transferIdOf := fun _ _ same =>
  Text.toString_injective ((String.append_right_inj _).mp same)

/-- Replace the first transfer that has the identifier; add it at the end where there is none. -/
def upsertIn (transfer : FileTransferTaskSnapshot) :
    List FileTransferTaskSnapshot → List FileTransferTaskSnapshot
  | [] => [transfer]
  | candidate :: rest =>
    if candidate.transferId = transfer.transferId then transfer :: rest
    else candidate :: upsertIn transfer rest

/-- A transfer that is queued or running is cancelled. -/
def FileTransferTaskSnapshot.cancel (transfer : FileTransferTaskSnapshot) : FileTransferTaskSnapshot :=
  if transfer.status = .queued ∨ transfer.status = .running then { transfer with status := .cancelled }
  else transfer

/-- Cancel the first transfer that has the identifier. -/
def cancelIn (transferId : String) :
    List FileTransferTaskSnapshot → List FileTransferTaskSnapshot × Option FileTransferTaskSnapshot
  | [] => ([], none)
  | candidate :: rest =>
    if candidate.transferId = transferId then (candidate.cancel :: rest, some candidate.cancel)
    else (candidate :: (cancelIn transferId rest).1, (cancelIn transferId rest).2)

namespace FileTransferRegistry

/-- `FileTransferRegistry::default()`. -/
def new : FileTransferRegistry where
  nextTransferSeq := 0
  transfers := []

def allocateTransferId (registry : FileTransferRegistry) : FileTransferRegistry × String :=
  let seq := saturatingAdd registry.nextTransferSeq 1
  ({ registry with nextTransferSeq := seq }, transferIdOf seq)

def upsert (registry : FileTransferRegistry) (transfer : FileTransferTaskSnapshot) :
    FileTransferRegistry :=
  { registry with transfers := upsertIn transfer registry.transfers }

def list (registry : FileTransferRegistry) : List FileTransferTaskSnapshot := registry.transfers

def cancel (registry : FileTransferRegistry) (transferId : String) :
    FileTransferRegistry × Option FileTransferTaskSnapshot :=
  ({ registry with transfers := (cancelIn transferId registry.transfers).1 },
    (cancelIn transferId registry.transfers).2)

/-- The identifiers that are listed. -/
def ids (registry : FileTransferRegistry) : List String := registry.transfers.map (·.transferId)

/-- The first transfer with an identifier. -/
def find (registry : FileTransferRegistry) (transferId : String) : Option FileTransferTaskSnapshot :=
  registry.transfers.find? (·.transferId = transferId)

/-! ### What is found afterwards -/

variable (registry : FileTransferRegistry) (transfer : FileTransferTaskSnapshot) (transferId : String)

theorem find_upsert (probe : String) :
    (registry.upsert transfer).find probe =
      if probe = transfer.transferId then some transfer else registry.find probe := by
  unfold find upsert
  induction registry.transfers with
  | nil =>
    unfold upsertIn
    by_cases same : probe = transfer.transferId
    · simp [same]
    · rw [find?_cons_of_neg (by simpa using fun equal => same equal.symm), if_neg same]
  | cons candidate rest ih =>
    show (upsertIn transfer (candidate :: rest)).find? _ = _
    unfold upsertIn
    split
    next replaced =>
      by_cases same : probe = transfer.transferId
      · simp [same]
      · have other : ¬ candidate.transferId = probe := fun equal => same (equal.symm.trans replaced)
        rw [find?_cons_of_neg (by simpa using fun equal => same equal.symm), if_neg same,
          find?_cons_of_neg (by simpa using other)]
    next kept =>
      by_cases here : candidate.transferId = probe
      · have other : ¬ probe = transfer.transferId := fun equal => kept (here.trans equal)
        rw [find?_cons_of_pos (by simpa using here), if_neg other,
          find?_cons_of_pos (by simpa using here)]
      · rw [find?_cons_of_neg (by simpa using here), find?_cons_of_neg (by simpa using here)]
        exact ih

theorem cancelIn_answer (transfers : List FileTransferTaskSnapshot) :
    (cancelIn transferId transfers).2 =
      (transfers.find? (·.transferId = transferId)).map FileTransferTaskSnapshot.cancel := by
  induction transfers with
  | nil => rfl
  | cons candidate rest ih =>
    unfold cancelIn
    split
    next here =>
      rw [find?_cons_of_pos (by simpa using here)]
      rfl
    next other =>
      rw [find?_cons_of_neg (by simpa using other)]
      exact ih

theorem FileTransferTaskSnapshot.cancel_transferId :
    transfer.cancel.transferId = transfer.transferId := by
  unfold FileTransferTaskSnapshot.cancel
  split <;> rfl

theorem find_cancel (probe : String) :
    (registry.cancel transferId).1.find probe =
      if probe = transferId then (registry.find probe).map FileTransferTaskSnapshot.cancel
      else registry.find probe := by
  unfold find cancel
  induction registry.transfers with
  | nil => exact (ite_self none).symm
  | cons candidate rest ih =>
    show (cancelIn transferId (candidate :: rest)).1.find? _ = _
    have same := FileTransferTaskSnapshot.cancel_transferId candidate
    unfold cancelIn
    split
    next here =>
      by_cases found : candidate.transferId = probe
      · rw [find?_cons_of_pos (by simpa [same] using found), if_pos (found.symm.trans here),
          find?_cons_of_pos (by simpa using found)]
        rfl
      · rw [find?_cons_of_neg (by simpa [same] using found),
          if_neg (fun equal => found (here.trans equal.symm)),
          find?_cons_of_neg (by simpa using found)]
    next other =>
      by_cases found : candidate.transferId = probe
      · rw [find?_cons_of_pos (by simpa using found), if_neg (fun equal => other (found.trans equal)),
          find?_cons_of_pos (by simpa using found)]
      · rw [find?_cons_of_neg (by simpa using found), find?_cons_of_neg (by simpa using found)]
        exact ih

theorem ids_cancel :
    (registry.cancel transferId).1.ids = registry.ids := by
  unfold ids cancel
  induction registry.transfers with
  | nil => rfl
  | cons candidate rest ih =>
    show (cancelIn transferId (candidate :: rest)).1.map _ = _
    unfold cancelIn
    split
    · simp [FileTransferTaskSnapshot.cancel_transferId]
    · rw [map_cons, map_cons]
      exact congrArg _ ih

theorem ids_upsert :
    (registry.upsert transfer).ids =
      if transfer.transferId ∈ registry.ids then registry.ids
      else registry.ids ++ [transfer.transferId] := by
  unfold ids upsert
  induction registry.transfers with
  | nil => rfl
  | cons candidate rest ih =>
    show (upsertIn transfer (candidate :: rest)).map _ = _
    unfold upsertIn
    rw [map_cons]
    by_cases here : candidate.transferId = transfer.transferId
    · simp [here]
    · rw [if_neg here, map_cons, show (upsertIn transfer rest).map _ = _ from ih]
      by_cases later : transfer.transferId ∈ rest.map (·.transferId)
      · simp [later]
      · rw [if_neg later, if_neg fun member => (List.mem_cons.mp member).elim (fun same => here same.symm) later]
        rfl

theorem find_isSome :
    (registry.find transferId).isSome ↔ transferId ∈ registry.ids := by
  simp [find, ids]

/-- Where identifiers do not repeat, what is listed is what is found. -/
theorem find_of_mem {registry : FileTransferRegistry} (distinct : registry.ids.Nodup)
    {transfer : FileTransferTaskSnapshot} (listed : transfer ∈ registry.list) :
    registry.find transfer.transferId = some transfer := by
  obtain ⟨found, is⟩ := Option.isSome_iff_exists.mp
    ((registry.find_isSome transfer.transferId).mpr (List.mem_map_of_mem listed))
  have same : found.transferId = transfer.transferId := by
    simpa using List.find?_some is
  rw [is, List.inj_on_of_nodup_map distinct (List.mem_of_find?_eq_some is) listed same]

theorem mem_of_find {registry : FileTransferRegistry} {transferId : String}
    {transfer : FileTransferTaskSnapshot} (found : registry.find transferId = some transfer) :
    transfer ∈ registry.list ∧ transfer.transferId = transferId :=
  ⟨List.mem_of_find?_eq_some found, by simpa using List.find?_some found⟩

end FileTransferRegistry

end

open FileTransferRegistry (cancelIn_answer find_of_mem mem_of_find)
open Execution

/-! ### Requests -/

def localFileTransferProvider : String := "mrd-local"

def localFileTransferCapability : String := "service.file_transfer.local"

def externalFileTransferBridgeCapability : String := "service.file_transfer.external_bridge"

def rfileBridgeControlEndpoint : String := "http://127.0.0.1:18100"

structure FileTransferEntry where
  sourcePath : String
  fileName : Option String
  kind : FileEntryKind

structure FileTransferStartRequest where
  (sourceDeviceId targetDeviceId : Option DeviceId)
  entries : List FileTransferEntry
  (transportHint providerHint : Option String)

/-- `IpcResponse::Error`. -/
structure IpcError where
  (code message : String)
  deriving DecidableEq

def unsupportedFileTransferProviderHint (providerHint : Option String) : Option String :=
  match providerHint with
  | none => none
  | some hint =>
    let hint := Text.trim hint
    if hint = "" then none
    else
      let normalized := hint.toLower
      if normalized = localFileTransferProvider ∨ normalized = "local" ∨
          normalized = localFileTransferCapability then none
      else some hint

/-- The checks that come before a transfer gets its identifier. -/
def checkRequest (request : FileTransferStartRequest) : Except IpcError Unit :=
  if request.entries = [] then
    .error { code := "E_FILE_TRANSFER_EMPTY", message := "file transfer request is empty" }
  else
    match unsupportedFileTransferProviderHint request.providerHint with
    | some providerHint =>
      .error { code := "E_FILE_TRANSFER_PROVIDER_UNAVAILABLE",
               message := "file transfer provider hint `" ++ providerHint ++
                 "` is reserved for R-File handoff via rfile-bridge (" ++ rfileBridgeControlEndpoint ++
                 "); " ++ externalFileTransferBridgeCapability ++ " is not implemented in MRD" }
    | none => .ok ()

def transportKindOf (request : FileTransferStartRequest) : String :=
  (((request.transportHint.map Text.trim).filter (· ≠ "")).getD "local")

/-- The snapshot with which a transfer begins. -/
def initialTransfer (request : FileTransferStartRequest) (transferId : String)
    (totalBytes : Option Nat) : FileTransferTaskSnapshot where
  transferId
  status := .queued
  sourceDeviceId := request.sourceDeviceId
  targetDeviceId := request.targetDeviceId
  transportKind := transportKindOf request
  providerKind := localFileTransferProvider
  providerCapabilities := [localFileTransferCapability]
  totalEntries := request.entries.length
  copiedEntries := 0
  totalBytes
  copiedBytes := 0
  error := none
  entries := []

structure FileTransferCopyResult where
  (copiedEntries copiedBytes : Nat)
  entries : List FileEntry

/-- How the blocking copy ends: with its own result, or because its task failed. -/
inductive CopyOutcome
  | finished (result : Except String FileTransferCopyResult)
  | taskFailed (error : String)

/-- The snapshot after the copy. -/
def settle (transfer : FileTransferTaskSnapshot) : CopyOutcome → FileTransferTaskSnapshot
  | .finished (.ok result) =>
    { transfer with
      status := .completed
      copiedEntries := result.copiedEntries
      copiedBytes := result.copiedBytes
      entries := result.entries }
  | .finished (.error error) => { transfer with status := .failed, error := some error }
  | .taskFailed error =>
    { transfer with status := .failed, error := some ("file transfer task failed: " ++ error) }

/-! ### Steps -/

/-- How far a request that runs a transfer has come. -/
inductive TransferStage
  | allocated
  | queued
  | running
  | copied
  | answered
  deriving DecidableEq

/-- A request that runs a transfer, with its own snapshot of it. -/
structure TransferRun where
  stage : TransferStage
  transfer : FileTransferTaskSnapshot

structure TransferService where
  registry : FileTransferRegistry
  runs : List TransferRun

def TransferService.new : TransferService where
  registry := .new
  runs := []

inductive TransferStep
  | starts (request : FileTransferStartRequest) (totalBytes : Option Nat)
  | queues (run : Nat)
  | begins (run : Nat)
  | copies (run : Nat) (outcome : CopyOutcome)
  | settles (run : Nat)
  | cancels (transferId : String)
  | lists

/-- A request goes on: it is at `stage`, and leaves its snapshot and the registry changed. -/
def TransferService.advance (service : TransferService) (run : Nat) (stage next : TransferStage)
    (change : FileTransferTaskSnapshot → FileTransferTaskSnapshot) (write : Bool) :
    Option TransferService :=
  match service.runs[run]? with
  | none => none
  | some task =>
    if task.stage = stage then
      let transfer := change task.transfer
      some { registry := if write then service.registry.upsert transfer else service.registry
             runs := service.runs.set run { stage := next, transfer } }
    else none

def step (service : TransferService) : TransferStep → Option TransferService
  | .starts request totalBytes =>
    match checkRequest request with
    | .error _ => some service
    | .ok () =>
      let (registry, transferId) := service.registry.allocateTransferId
      some { registry
             runs := service.runs ++ [{ stage := .allocated
                                        transfer := initialTransfer request transferId totalBytes }] }
  | .queues run => service.advance run .allocated .queued id true
  | .begins run => service.advance run .queued .running
    (fun transfer => { transfer with status := .running }) true
  | .copies run outcome => service.advance run .running .copied (fun transfer => settle transfer outcome) false
  | .settles run => service.advance run .copied .answered id true
  | .cancels transferId => some { service with registry := (service.registry.cancel transferId).1 }
  | .lists => some service

variable {service : TransferService}

variable {next : TransferService} {stage : TransferStage} {run : Nat}

/-- **A request that goes on** was at its stage, and changed its snapshot. -/
theorem TransferService.advance_some {stage' : TransferStage}
    {change : FileTransferTaskSnapshot → FileTransferTaskSnapshot} {write : Bool}
    (taken : service.advance run stage stage' change write = some next) :
    ∃ task, service.runs[run]? = some task ∧ task.stage = stage ∧
      next = { registry := if write then service.registry.upsert (change task.transfer)
                 else service.registry
               runs := service.runs.set run { stage := stage', transfer := change task.transfer } } := by
  unfold TransferService.advance at taken
  split at taken
  · cases taken
  next task found =>
    split at taken
    next here =>
      exact ⟨task, found, here, (Option.some.inj taken).symm⟩
    · cases taken

/-! ### The law -/

/-- How far a status is along queued, running, ended. -/
def FileTransferStatus.rank : FileTransferStatus → Nat
  | .queued => 0
  | .running => 1
  | .completed => 2
  | .failed => 2
  | .cancelled => 2

/-- **A status moves forward**, or stays. -/
def FileTransferStatus.Before (first second : FileTransferStatus) : Prop :=
  first = second ∨ first.rank < second.rank

theorem FileTransferStatus.Before.trans {first second third : FileTransferStatus}
    (left : first.Before second) (right : second.Before third) : first.Before third := by
  rcases left with rfl | left
  · exact right
  · rcases right with rfl | right
    · exact .inr left
    · exact .inr (Nat.lt_trans left right)

variable {status : FileTransferStatus}

theorem FileTransferStatus.Before.cancelled (before : FileTransferStatus.Before .cancelled status) :
    status = .cancelled := by
  rcases before with rfl | below
  · rfl
  · cases status <;> exact absurd below (by decide)

/-- Every transfer that is listed stays listed, and its status moves forward. -/
def Advances (first second : FileTransferRegistry) : Prop :=
  ∀ transferId now, first.find transferId = some now →
    ∃ later, second.find transferId = some later ∧ now.status.Before later.status

theorem Advances.refl (registry : FileTransferRegistry) : Advances registry registry :=
  fun _ now found => ⟨now, found, .inl rfl⟩

theorem Advances.trans {first second third : FileTransferRegistry} (left : Advances first second)
    (right : Advances second third) : Advances first third := by
  intro transferId now found
  obtain ⟨later, found, before⟩ := left transferId now found
  obtain ⟨last, found, after⟩ := right transferId later found
  exact ⟨last, found, before.trans after⟩

/-- **No request writes over a transfer that was cancelled**, and the identifiers do not run out. -/
def Undisturbed (service : TransferService) : TransferStep → Prop
  | .starts request _ => checkRequest request = .ok () → service.registry.nextTransferSeq < u64Max
  | .begins run | .settles run => ∀ task ∈ service.runs[run]?,
      ∀ now ∈ service.registry.find task.transfer.transferId, now.status ≠ .cancelled
  | _ => True

/-! ### The invariant -/

/-- What is listed about a transfer, by how far its request has come. -/
def Listed (found : Option FileTransferTaskSnapshot) (task : TransferRun) : Prop :=
  match task.stage with
  | .allocated => task.transfer.status = .queued ∧ found = none
  | .queued => ∃ now, found = some now ∧ (now.status = .queued ∨ now.status = .cancelled)
  | .running => ∃ now, found = some now ∧ (now.status = .running ∨ now.status = .cancelled)
  | .copied => task.transfer.status.rank = 2 ∧
      ∃ now, found = some now ∧ (now.status = .running ∨ now.status = .cancelled)
  | .answered => ∃ now, found = some now

/-- **The invariant**: identifiers do not repeat, and the list agrees with the requests. -/
structure Coherent (service : TransferService) : Prop where
  allocated : ∀ task ∈ service.runs,
    ∃ seq ≤ service.registry.nextTransferSeq, task.transfer.transferId = transferIdOf seq
  distinctRuns : (service.runs.map (·.transfer.transferId)).Nodup
  distinct : service.registry.ids.Nodup
  owned : ∀ transferId ∈ service.registry.ids, transferId ∈ service.runs.map (·.transfer.transferId)
  listed : ∀ task ∈ service.runs, Listed (service.registry.find task.transfer.transferId) task

theorem new_coherent : Coherent .new where
  allocated _ among := nomatch among
  distinctRuns := List.nodup_nil
  distinct := List.nodup_nil
  owned _ among := nomatch among
  listed _ among := nomatch among

variable {task : TransferRun}

theorem Coherent.replace (coherent : Coherent service) {next : TransferRun}
    {registry : FileTransferRegistry} (found : service.runs[run]? = some task)
    (same : next.transfer.transferId = task.transfer.transferId)
    (seq : registry.nextTransferSeq = service.registry.nextTransferSeq)
    (distinct : registry.ids.Nodup)
    (owned : ∀ transferId ∈ registry.ids, transferId ∈ service.registry.ids ∨ transferId =
      task.transfer.transferId)
    (others : ∀ probe, probe ≠ task.transfer.transferId → registry.find probe =
      service.registry.find probe)
    (listed : Listed (registry.find task.transfer.transferId) next) :
    Coherent { registry, runs := service.runs.set run next } := by
  have member : task ∈ service.runs := List.mem_of_getElem? found
  have ids : (service.runs.set run next).map (·.transfer.transferId) =
      service.runs.map (·.transfer.transferId) := by
    have here : (service.runs.map (·.transfer.transferId))[run]? = some next.transfer.transferId := by
      simp [found, same]
    obtain ⟨inside, is⟩ := List.getElem?_eq_some_iff.mp here
    simpa [← is] using List.set_getElem_self inside
  have distinctRuns := coherent.distinctRuns
  rw [← ids] at distinctRuns
  refine ⟨?_, distinctRuns, distinct, ?_, ?_⟩
  · intro other among
    rw [seq]
    rcases List.mem_or_eq_of_mem_set among with old | rfl
    · exact coherent.allocated other old
    · exact same ▸ coherent.allocated task member
  · intro transferId among
    rw [ids]
    rcases owned transferId among with old | rfl
    · exact coherent.owned transferId old
    · exact List.mem_map_of_mem member
  · intro other among
    by_cases own : other.transfer.transferId = task.transfer.transferId
    · have one : other = next := List.inj_on_of_nodup_map distinctRuns among
        (List.mem_set (List.getElem?_eq_some_iff.mp found).1 next) (own.trans same.symm)
      rw [own, one]
      exact listed
    · have old := (List.mem_or_eq_of_mem_set among).resolve_right fun equal => own (equal ▸ same)
      rw [others _ own]
      exact coherent.listed other old

variable {transfer : FileTransferTaskSnapshot}

theorem Coherent.write (coherent : Coherent service) (found : service.runs[run]? = some task)
    (same : transfer.transferId = task.transfer.transferId)
    (listed : Listed (some transfer) { stage, transfer }) :
    Coherent { registry := service.registry.upsert transfer
               runs := service.runs.set run { stage, transfer } } := by
  have ids := service.registry.ids_upsert transfer
  refine coherent.replace found same rfl ?_ ?_ ?_ ?_
  · rw [ids]
    split
    · exact coherent.distinct
    next new =>
      exact List.nodup_append.mpr ⟨coherent.distinct, List.nodup_singleton _,
        fun first one second other equal => new (by
          rw [List.mem_singleton.mp other] at equal
          exact equal ▸ one)⟩
  · intro transferId among
    rw [ids] at among
    split at among
    · exact .inl among
    · rcases List.mem_append.mp among with old | new
      · exact .inl old
      · exact .inr ((List.mem_singleton.mp new).trans same)
  · intro probe other
    rw [service.registry.find_upsert, if_neg fun equal => other (equal.trans same)]
  · simp [service.registry.find_upsert, same.symm, listed]

/-- The list moves forward where a snapshot that is written comes after the one that is listed. -/
theorem advances_upsert (registry : FileTransferRegistry) (transfer : FileTransferTaskSnapshot)
    (forward : ∀ now, registry.find transfer.transferId = some now →
      now.status.Before transfer.status) : Advances registry (registry.upsert transfer) := by
  intro transferId now found
  rw [registry.find_upsert]
  split
  next same =>
    exact ⟨transfer, rfl, forward now (same ▸ found)⟩
  · exact ⟨now, found, .inl rfl⟩

theorem cancel_status (transfer : FileTransferTaskSnapshot) :
    (transfer.cancel.status = .cancelled ∧ (transfer.status = .queued ∨ transfer.status = .running ∨
      transfer.status = .cancelled)) ∨
      (transfer.cancel = transfer ∧ transfer.status ≠ .queued ∧ transfer.status ≠ .running) := by
  unfold FileTransferTaskSnapshot.cancel
  split
  next active =>
    exact .inl ⟨rfl, active.imp_right .inl⟩
  next ended =>
    exact .inr ⟨rfl, not_or.mp ended⟩

theorem cancel_active (active : status = .queued ∨ status = .running)
    (current : transfer.status = status ∨ transfer.status = .cancelled) :
    transfer.cancel.status = .cancelled := by
  rcases cancel_status transfer with ⟨cancelled, -⟩ | ⟨same, notQueued, notRunning⟩
  · exact cancelled
  · rw [same]
    refine current.resolve_left fun is => ?_
    rcases active with rfl | rfl
    · exact notQueued is
    · exact notRunning is

theorem Listed.cancel {found : Option FileTransferTaskSnapshot} (listed : Listed found task) :
    Listed (found.map FileTransferTaskSnapshot.cancel) task := by
  unfold Listed at listed ⊢
  split at listed
  · exact ⟨listed.1, by rw [listed.2]; rfl⟩
  · obtain ⟨now, rfl, status⟩ := listed
    exact ⟨now.cancel, rfl, .inr (cancel_active (.inl rfl) status)⟩
  · obtain ⟨now, rfl, status⟩ := listed
    exact ⟨now.cancel, rfl, .inr (cancel_active (.inr rfl) status)⟩
  · obtain ⟨ended, now, rfl, status⟩ := listed
    exact ⟨ended, now.cancel, rfl, .inr (cancel_active (.inr rfl) status)⟩
  · obtain ⟨now, rfl⟩ := listed
    exact ⟨now.cancel, rfl⟩

theorem Coherent.cancel (coherent : Coherent service) (transferId : String) :
    Coherent { service with registry := (service.registry.cancel transferId).1 } ∧
      Advances service.registry (service.registry.cancel transferId).1 := by
  have ids := service.registry.ids_cancel transferId
  have looked := service.registry.find_cancel transferId
  refine ⟨⟨coherent.allocated, coherent.distinctRuns, ids ▸ coherent.distinct, ids ▸ coherent.owned, ?_⟩, ?_⟩
  · intro task among
    have listed := coherent.listed task among
    rw [looked]
    split
    · exact listed.cancel
    · exact listed
  · intro probe now found
    rw [looked, found]
    split
    · refine ⟨now.cancel, rfl, ?_⟩
      rcases cancel_status now with ⟨cancelled, before⟩ | ⟨same, -⟩
      · rw [cancelled]
        rcases before with is | is | is <;> rw [is]
        · exact .inr (by decide)
        · exact .inr (by decide)
        · exact .inl rfl
      · exact .inl (congrArg _ same.symm)
    · exact ⟨now, rfl, .inl rfl⟩

theorem Coherent.start (coherent : Coherent service)
    (room : service.registry.nextTransferSeq < u64Max) (request : FileTransferStartRequest)
    (totalBytes : Option Nat) :
    Coherent {
      registry := service.registry.allocateTransferId.1
      runs := service.runs ++ [{
        stage := .allocated
        transfer := initialTransfer request service.registry.allocateTransferId.2 totalBytes }] } := by
  have seq : service.registry.allocateTransferId.1.nextTransferSeq =
      service.registry.nextTransferSeq + 1 := Nat.min_eq_left room
  have transferId : service.registry.allocateTransferId.2 =
      transferIdOf (service.registry.nextTransferSeq + 1) := congrArg transferIdOf seq
  have new : service.registry.allocateTransferId.2 ∉ service.runs.map (·.transfer.transferId) := by
    intro among
    obtain ⟨task, member, same⟩ := List.mem_map.mp among
    obtain ⟨other, below, is⟩ := coherent.allocated task member
    have equal := transferIdOf_injective (is.symm.trans (same.trans transferId))
    omega
  refine ⟨?_, ?_, coherent.distinct, ?_, ?_⟩
  · intro task among
    rw [seq]
    rcases List.mem_append.mp among with old | added
    · obtain ⟨other, below, is⟩ := coherent.allocated task old
      exact ⟨other, Nat.le_succ_of_le below, is⟩
    · simpa [List.mem_singleton.mp added] using ⟨_, Nat.le_refl _, transferId⟩
  · rw [List.map_append]
    refine List.nodup_append.mpr ⟨coherent.distinctRuns, List.nodup_singleton _, ?_⟩
    intro first one second other equal
    rw [equal, List.mem_singleton.mp other] at one
    exact new one
  · intro id among
    rw [List.map_append]
    exact List.mem_append_left _ (coherent.owned id among)
  · intro task among
    rcases List.mem_append.mp among with old | added
    · exact coherent.listed task old
    · rw [List.mem_singleton.mp added]
      refine ⟨rfl, ?_⟩
      have missing : ¬ (service.registry.find service.registry.allocateTransferId.2).isSome :=
        fun found => new (coherent.owned _ ((service.registry.find_isSome _).mp found))
      exact Option.not_isSome_iff_eq_none.mp missing

theorem settle_spec (transfer : FileTransferTaskSnapshot) (outcome : CopyOutcome) :
    (settle transfer outcome).transferId = transfer.transferId ∧
      (settle transfer outcome).status.rank = 2 := by
  rcases outcome with (_ | _) | _ <;> exact ⟨rfl, rfl⟩

/-- **One step keeps the invariant, and moves the list forward.** -/
theorem step_coherent {label : TransferStep} (coherent : Coherent service)
    (undisturbed : Undisturbed service label) (taken : step service label = some next) :
    Coherent next ∧ Advances service.registry next.registry := by
  cases label with
  | starts request totalBytes =>
    simp only [step] at taken
    split at taken
    · cases taken
      exact ⟨coherent, .refl _⟩
    next accepted =>
      cases taken
      exact ⟨coherent.start (undisturbed accepted) request totalBytes, .refl _⟩
  | queues run =>
    obtain ⟨task, found, stage, rfl⟩ := TransferService.advance_some taken
    have listed := coherent.listed task (List.mem_of_getElem? found)
    unfold Listed at listed
    rw [stage] at listed
    refine ⟨coherent.write found rfl ⟨_, rfl, .inl listed.1⟩, advances_upsert _ _ fun now here => ?_⟩
    rw [show service.registry.find (id task.transfer).transferId = none from listed.2] at here
    cases here
  | begins run =>
    simp only [step] at taken
    obtain ⟨task, found, stage, rfl⟩ := TransferService.advance_some taken
    have listed := coherent.listed task (List.mem_of_getElem? found)
    unfold Listed at listed
    rw [stage] at listed
    obtain ⟨now, here, status⟩ := listed
    refine ⟨coherent.write found rfl ⟨_, rfl, .inl rfl⟩, advances_upsert _ _ fun other same => ?_⟩
    cases here.symm.trans same
    rw [status.resolve_right (undisturbed task found now here)]
    exact .inr Nat.zero_lt_one
  | copies run outcome =>
    simp only [step] at taken
    obtain ⟨task, found, stage, rfl⟩ := TransferService.advance_some taken
    have listed := coherent.listed task (List.mem_of_getElem? found)
    unfold Listed at listed
    rw [stage] at listed
    obtain ⟨same, ended⟩ := settle_spec task.transfer outcome
    exact ⟨coherent.replace found same rfl coherent.distinct (fun _ => .inl) (fun _ _ => rfl)
      ⟨ended, listed⟩, .refl _⟩
  | settles run =>
    obtain ⟨task, found, stage, rfl⟩ := TransferService.advance_some taken
    have listed := coherent.listed task (List.mem_of_getElem? found)
    unfold Listed at listed
    rw [stage] at listed
    obtain ⟨ended, now, here, status⟩ := listed
    refine ⟨coherent.write found rfl ⟨_, rfl⟩, advances_upsert _ _ fun other same => ?_⟩
    cases here.symm.trans same
    rw [status.resolve_right (undisturbed task found now here)]
    exact .inr (by
      show 1 < (id task.transfer).status.rank
      rw [id, ended]
      decide)
  | cancels transferId =>
    cases taken
    exact coherent.cancel transferId
  | lists =>
    cases taken
    exact ⟨coherent, .refl _⟩

/-! ### Whole runs -/

/-- **What holds after a run in which nothing is disturbed**, of the states that come later. -/
structure Lawful (service : TransferService) : Prop where
  distinctRuns : (service.runs.map (·.transfer.transferId)).Nodup
  distinct : (service.registry.list.map (·.transferId)).Nodup
  /-- A transfer stays listed, and its status moves forward. -/
  forward : ∀ later, Reach step Undisturbed service later → ∀ transfer ∈ service.registry.list,
    ∃ now ∈ later.registry.list, now.transferId = transfer.transferId ∧
      transfer.status.Before now.status
  /-- A transfer of which a cancel answered that it is cancelled is listed as cancelled ever after. -/
  cancelled : ∀ transferId registry transfer,
    service.registry.cancel transferId = (registry, some transfer) → transfer.status = .cancelled →
    ∀ later, Reach step Undisturbed { service with registry } later →
      transferId ∈ later.registry.list.map (·.transferId) ∧
        ∀ now ∈ later.registry.list, now.transferId = transferId → now.status = .cancelled

theorem reach_coherent {later : TransferService} (coherent : Coherent service)
    (reach : Reach step Undisturbed service later) :
    Coherent later ∧ Advances service.registry later.registry := by
  refine reach.invariant (I := fun later => Coherent later ∧ Advances service.registry later.registry)
    ⟨coherent, .refl _⟩ ?_
  intro state label next ⟨holds, advanced⟩ undisturbed taken
  obtain ⟨kept, more⟩ := step_coherent holds undisturbed taken
  exact ⟨kept, advanced.trans more⟩

theorem Coherent.lawful (coherent : Coherent service) :
    Lawful service where
  distinctRuns := coherent.distinctRuns
  distinct := coherent.distinct
  forward later reach transfer among := by
    obtain ⟨holds, advanced⟩ := reach_coherent coherent reach
    obtain ⟨now, found, before⟩ := advanced _ transfer (find_of_mem coherent.distinct among)
    obtain ⟨listed, same⟩ := mem_of_find found
    exact ⟨now, listed, same, before⟩
  cancelled transferId registry transfer answered status later reach := by
    have cancel := coherent.cancel transferId
    rw [answered] at cancel
    obtain ⟨holds, advanced⟩ := reach_coherent cancel.1 reach
    have found : registry.find transferId = some transfer := by
      have answer := cancelIn_answer transferId service.registry.transfers
      have looked := service.registry.find_cancel transferId transferId
      rw [answered, if_pos rfl] at looked
      rw [looked]
      exact answer.symm.trans (congrArg Prod.snd answered)
    obtain ⟨now, here, before⟩ := advanced transferId transfer found
    rw [status] at before
    refine ⟨(later.registry.find_isSome transferId).mp (by rw [here]; rfl), fun other among same => ?_⟩
    have unique := find_of_mem holds.distinct among
    rw [same, here] at unique
    cases unique
    exact before.cancelled

/-- **Cancelled transfers stay cancelled**, in every run in which no request writes its snapshot over a
transfer that was cancelled meanwhile. -/
theorem transfers_lawful {service : TransferService} (reach : Reach step Undisturbed .new service) :
    Lawful service :=
  (reach_coherent new_coherent reach).1.lawful

/-- A request for one file. -/
def FileTransferStartRequest.sample : FileTransferStartRequest where
  sourceDeviceId := none
  targetDeviceId := none
  entries := [{ sourcePath := "report.txt", fileName := none, kind := .file }]
  transportHint := none
  providerHint := none

/-- A transfer that completes, and another that is cancelled while it is copied, and not written again. -/
def undisturbedRun : List TransferStep :=
  [.starts .sample none, .queues 0, .begins 0, .copies 0 (.finished (.ok ⟨1, 5, []⟩)), .settles 0,
    .starts .sample none, .queues 1, .begins 1, .cancels (transferIdOf 2)]

instance (service : TransferService) (label : TransferStep) : Decidable (Undisturbed service label) := by
  unfold Undisturbed
  cases label <;> infer_instance

theorem transfers_lawful_completed :
    ∃ service, Reach step Undisturbed .new service ∧
      service.registry.list.map (·.status) = [.completed, .cancelled] ∧ Lawful service := by
  have statuses : (runChecked (fun service label => decide (Undisturbed service label)) step .new
      undisturbedRun).map (fun service => service.registry.list.map (·.status)) =
        some [.completed, .cancelled] := by
    decide
  obtain ⟨service, checked, listed⟩ := Option.map_eq_some_iff.mp statuses
  have reach : Reach step Undisturbed .new service :=
    runChecked_reach checked fun _ _ => of_decide_eq_true
  exact ⟨service, reach, listed, transfers_lawful reach⟩

/-- **A transfer that is cancelled while it is copied is listed as completed afterwards**: the request
writes its own snapshot back. -/
theorem cancelled_transfer_completes :
    ¬ ∀ (service later : TransferService) (transferId : String) (registry : FileTransferRegistry)
        (transfer : FileTransferTaskSnapshot), Reach step always .new service →
      service.registry.cancel transferId = (registry, some transfer) → transfer.status = .cancelled →
      Reach step always { service with registry } later →
      ∀ now ∈ later.registry.list, now.transferId = transferId → now.status = .cancelled := by
  intro law
  have answered : ((run step .new [.starts .sample none, .queues 0, .begins 0]).bind fun service =>
      (service.registry.cancel (transferIdOf 1)).2.map (·.status)) = some .cancelled := by
    decide
  obtain ⟨service, before, answer⟩ := Option.bind_eq_some_iff.mp answered
  obtain ⟨transfer, cancelled, status⟩ := Option.map_eq_some_iff.mp answer
  have written : ((run step .new [.starts .sample none, .queues 0, .begins 0]).bind fun service =>
      (run step { service with registry := (service.registry.cancel (transferIdOf 1)).1 }
        [.copies 0 (.finished (.ok ⟨1, 5, []⟩)), .settles 0]).map fun later =>
          later.registry.list.map fun now => (now.transferId, now.status)) =
        some [(transferIdOf 1, .completed)] := by
    decide
  rw [before] at written
  obtain ⟨later, after, listed⟩ := Option.map_eq_some_iff.mp written
  obtain ⟨now, among, is⟩ := List.mem_map.mp (listed ▸ List.mem_cons_self)
  obtain ⟨same, completed⟩ := Prod.mk.inj is
  have still := law service later (transferIdOf 1) _ transfer (run_reach before)
    (Prod.ext rfl cancelled) status (run_reach after) now among same
  simp [completed] at still

end MiniRemoteDesktop.Files
