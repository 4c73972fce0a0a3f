/-
**The server's selection of relays and the client's** (`app/services/relay_directory.py` beside
`mrd-relay-control`, `selection.rs`).

The server scores with unbounded integers that it clamps by hand, where the client's arithmetic
saturates. It asks more of a node (an approved registration, an approved topology, an allowed region, an
unexpired certificate, free bandwidth) and keeps a second set while it selects, the physical hosts.

* `Server.score`, `Server.selectRelayNodes` — the code of the server.
* `same_selection` — **the selections are equal** on nodes that the server trusts.
-/

import MiniRemoteDesktop.Relay.ServerEndpoint
import Mathlib.Algebra.Group.Int.Defs

namespace MiniRemoteDesktop.Relay

open Server (endpointParts)
open Text (bytes)
open Ranking

namespace Server

/-! ### Nodes -/

/-- The states of a row; the table takes no other. -/
inductive NodeState
  | available
  | degraded
  | draining
  | unavailable
  | revoked
  deriving DecidableEq

inductive RegistrationStatus
  | pending
  | approved
  | revoked
  deriving DecidableEq

/-- A `datetime` is a number of microseconds since the epoch. -/
structure RelayNodeView where
  (nodeId region failureDomain : String)
  physicalHostId : Option String
  topologyApproved : Bool
  state : NodeState
  (leaseExpiresAt revokedAt : Option Nat)
  registrationStatus : RegistrationStatus
  certificateExpiresAt : Option Nat
  endpoints : List String
  (activeAllocations maxAllocations currentEgressBps maxEgressBps : Int)
  measuredRttMs : Option Int
  recentFailureBps : Int

structure ScoreWeights where
  (baseScore regionPreference rttPenaltyPerMs allocationUtilizationPenalty bandwidthHeadroomReward
    recentFailurePenalty softFullPenalty degradedPenalty : Int)

/-- The defaults of `RelayScoreWeights`. -/
def ScoreWeights.standard : ScoreWeights where
  baseScore := 1000000000
  regionPreference := 100000000
  rttPenaltyPerMs := 10000
  allocationUtilizationPenalty := 250000000
  bandwidthHeadroomReward := 100000000
  recentFailurePenalty := 300000000
  softFullPenalty := 100000000
  degradedPenalty := 200000000

structure SelectionPolicy where
  (allowedRegions preferredRegions : List String)
  acceptedTransports : List RelayTransport
  (maxBackups softAllocationLimitBps : Int)
  weights : ScoreWeights

/-! ### Scores -/

def ratioBps (current maximum : Int) : Int :=
  if maximum ≤ 0 then (basisPoints : Int) else min (max current 0) maximum * basisPoints / maximum

def weightedBps (valueBps weight : Int) : Int :=
  min (u64Max : Int) (max 0 valueBps * min (u64Max : Int) (max 0 weight) / basisPoints)

def saturatingAdd (left right : Int) : Int := min (u64Max : Int) (max 0 left + max 0 right)

def saturatingMultiply (left right : Int) : Int := min (u64Max : Int) (max 0 left * max 0 right)

def regionReward (policy : SelectionPolicy) (region : String) : Int :=
  match policy.preferredRegions.findIdx? fun preferred => preferred = region with
  | none => 0
  | some regionIndex =>
    let rank : Int := policy.preferredRegions.length - regionIndex
    saturatingMultiply rank policy.weights.regionPreference

/-- The round trip time to score with. -/
def rttOf (node : RelayNodeView) : Int :=
  match node.measuredRttMs with
  | none => unknownRttMs
  | some measured => min (unknownRttMs : Int) (max 0 measured)

def score (policy : SelectionPolicy) (node : RelayNodeView) : Int :=
  let allocationBps := ratioBps node.activeAllocations node.maxAllocations
  let bandwidthBps := ratioBps node.currentEgressBps node.maxEgressBps
  let bandwidthHeadroom := max 0 ((basisPoints : Int) - bandwidthBps)
  let rewards := saturatingAdd
    (saturatingAdd policy.weights.baseScore (regionReward policy node.region))
    (weightedBps bandwidthHeadroom policy.weights.bandwidthHeadroomReward)
  let penalties := saturatingAdd
    (saturatingAdd (saturatingMultiply (rttOf node) policy.weights.rttPenaltyPerMs)
      (weightedBps allocationBps policy.weights.allocationUtilizationPenalty))
    (weightedBps (min (basisPoints : Int) (max 0 node.recentFailureBps)) policy.weights.recentFailurePenalty)
  let penalties := if policy.softAllocationLimitBps ≤ allocationBps then
    saturatingAdd penalties policy.weights.softFullPenalty else penalties
  let penalties := if node.state = .degraded then
    saturatingAdd penalties policy.weights.degradedPenalty else penalties
  max 0 (rewards - penalties)

/-! ### Rejections and candidates -/

inductive RejectionCode
  | revoked
  | certificateUnapproved
  | topologyUnapproved
  | certificateExpired
  | staleLease
  | draining
  | unavailable
  | credentialScopeIncompatible
  | regionDisallowed
  | transportIncompatible
  | hardCapacityReached

def RejectionCode.asStr : RejectionCode → String
  | revoked => "revoked"
  | certificateUnapproved => "certificate_unapproved"
  | topologyUnapproved => "topology_unapproved"
  | certificateExpired => "certificate_expired"
  | staleLease => "stale_lease"
  | draining => "draining"
  | unavailable => "unavailable"
  | credentialScopeIncompatible => "credential_scope_incompatible"
  | regionDisallowed => "region_disallowed"
  | transportIncompatible => "transport_incompatible"
  | hardCapacityReached => "hard_capacity_reached"

/-- `_CREDENTIAL_SCOPE.fullmatch`; what it lets through is ASCII, one byte a character. -/
def credentialScope (value : String) : Bool :=
  1 ≤ (bytes value).length && (bytes value).length ≤ 128 && (bytes value).all fun byte =>
      Text.isAsciiAlphanumeric byte || byte == 46 || byte == 95 || byte == 45

/-- An instant that is not there has passed. -/
def hasPassed (instant : Option Nat) (now : Nat) : Bool :=
  match instant with
  | none => true
  | some instant => instant ≤ now

def rejectionReason (policy : SelectionPolicy) (node : RelayNodeView) (compatible : List String)
    (now : Nat) (requiredEgressBps : Int) : Option RejectionCode :=
  if node.revokedAt.isSome ∨ node.state = .revoked then some .revoked
  else if node.registrationStatus ≠ .approved then some .certificateUnapproved
  else if node.topologyApproved = false ∨ node.physicalHostId = none then some .topologyUnapproved
  else if hasPassed node.certificateExpiresAt now then some .certificateExpired
  else if hasPassed node.leaseExpiresAt now then some .staleLease
  else if node.state = .draining then some .draining
  else if node.state ≠ .available ∧ node.state ≠ .degraded then some .unavailable
  else if credentialScope node.nodeId = false then some .credentialScopeIncompatible
  else if node.region ∉ policy.allowedRegions then some .regionDisallowed
  else if compatible = [] then some .transportIncompatible
  else if node.maxAllocations ≤ 0 ∨ node.activeAllocations < 0 ∨
      node.maxAllocations ≤ node.activeAllocations ∨ node.maxEgressBps ≤ 0 ∨
      node.currentEgressBps < 0 ∨ node.maxEgressBps ≤ node.currentEgressBps ∨
      node.maxEgressBps - node.currentEgressBps < requiredEgressBps then some .hardCapacityReached
  else none

structure RelayRejection where
  nodeId : String
  code : RejectionCode

structure RelaySelectedNode where
  (nodeId region failureDomain : String)
  physicalHostId : Option String
  endpoints : List String
  score : Int
  selectionReason : String

structure RelaySelectionDecision where
  (selected eligible : List RelaySelectedNode)
  rejections : List RelayRejection

/-- The endpoints of a transport that the policy accepts. -/
def compatibleEndpoints (policy : SelectionPolicy) (endpoints : List String) : List String :=
  endpoints.filter fun endpoint => (endpointTransport endpoint).any policy.acceptedTransports.contains

def candidate (policy : SelectionPolicy) (node : RelayNodeView) : RelaySelectedNode where
  nodeId := node.nodeId
  region := node.region
  failureDomain := node.failureDomain
  physicalHostId := node.physicalHostId
  endpoints := compatibleEndpoints policy node.endpoints
  score := score policy node
  selectionReason := "eligible"

/-! ### The selection -/

/-- The key `(-score, node_id)`. -/
def compareCandidates : RelaySelectedNode → RelaySelectedNode → Ordering :=
  compareLex (compareOn fun item => -item.score) (compareOn fun item => bytes item.nodeId)

def compareRejections : RelayRejection → RelayRejection → Ordering :=
  compareLex (compareOn fun item => bytes item.nodeId) (compareOn fun item => bytes item.code.asStr)

/-- The loop over the sorted candidates. It ends at `limit` nodes, of which `count` are selected. -/
def selectNodes (limit : Nat) :
    (count : Nat) → (usedDomains : List String) → (usedPhysicalHosts : List (Option String)) →
      List RelaySelectedNode → List RelaySelectedNode
  | _, _, _, [] => []
  | count, usedDomains, usedPhysicalHosts, candidate :: rest =>
    if candidate.failureDomain ∈ usedDomains ∨ candidate.physicalHostId ∈ usedPhysicalHosts then
      selectNodes limit count usedDomains usedPhysicalHosts rest
    else
      let reason := if count = 0 then "preferred-region" else "failure-domain-backup"
      let chosen := { candidate with selectionReason := reason }
      if limit ≤ count + 1 then [chosen]
      else chosen :: selectNodes limit (count + 1) (candidate.failureDomain :: usedDomains)
        (candidate.physicalHostId :: usedPhysicalHosts) rest

/-- The candidates among the nodes, in their order. -/
def candidates (policy : SelectionPolicy) (nodes : List RelayNodeView) (now : Nat)
    (requiredEgressBps : Int) : List RelaySelectedNode :=
  (nodes.filter fun node => (rejectionReason policy node (compatibleEndpoints policy node.endpoints) now
    requiredEgressBps).isNone).map (candidate policy)

def rejections (policy : SelectionPolicy) (nodes : List RelayNodeView) (now : Nat)
    (requiredEgressBps : Int) : List RelayRejection :=
  nodes.filterMap fun node =>
    (rejectionReason policy node (compatibleEndpoints policy node.endpoints) now
      requiredEgressBps).map fun code => ⟨node.nodeId, code⟩

/-- `None` stands for the `ValueError` on a negative egress. -/
def selectRelayNodes (policy : SelectionPolicy) (nodes : List RelayNodeView) (now : Nat)
    (requiredEgressBps : Int) : Option RelaySelectionDecision :=
  if requiredEgressBps < 0 then none
  else
    let eligible := sortBy compareCandidates (candidates policy nodes now requiredEgressBps)
    some ⟨selectNodes (1 + max 0 (min policy.maxBackups 7)).toNat 0 [] [] eligible, eligible,
      sortBy compareRejections (rejections policy nodes now requiredEgressBps)⟩

end Server

/-! ### One node, one policy, seen from both sides -/

/-- The state of a node, as the server stores it. A node that enrols is not available yet. -/
def RelayNodeState.stored : RelayNodeState → Server.NodeState
  | ready => .available
  | degraded => .degraded
  | draining => .draining
  | enrolling | unavailable => .unavailable
  | revoked => .revoked

/-- **A node as both of them see it.** The client has milliseconds where the server has microseconds,
no lease where the server has none, and only endpoints that can be read. -/
structure SharedNode where
  view : Server.RelayNodeView
  snapshot : RelayNodeSnapshot
  nodeId : view.nodeId = snapshot.nodeId.value
  region : view.region = snapshot.region.value
  failureDomain : view.failureDomain = snapshot.failureDomain.value
  state : view.state = snapshot.state.stored
  /-- A node is revoked in both columns at once. -/
  revoked : view.revokedAt.isSome → snapshot.state = .revoked
  lease : view.leaseExpiresAt.getD 0 = 1000 * snapshot.leaseExpiresAtMs
  endpoints : view.endpoints.filterMap endpointParts = snapshot.endpoints
  activeAllocations : view.activeAllocations = snapshot.activeAllocations
  maxAllocations : view.maxAllocations = snapshot.maxAllocations
  currentEgressBps : view.currentEgressBps = snapshot.currentEgressBps
  maxEgressBps : view.maxEgressBps = snapshot.maxEgressBps
  recentFailureBps : view.recentFailureBps = snapshot.recentFailureBps
  measuredRttMs : view.measuredRttMs = snapshot.measuredRttMs.map fun rtt => (rtt : Int)
  /-- A measured round trip time is a `u32`. -/
  rttFits : ∀ rtt ∈ snapshot.measuredRttMs, rtt ≤ unknownRttMs

/-- Weights that are `u64`. -/
structure RelayScoreWeights.Fits (weights : RelayScoreWeights) : Prop where
  baseScore : weights.baseScore ≤ u64Max
  regionPreference : weights.regionPreference ≤ u64Max
  rttPenaltyPerMs : weights.rttPenaltyPerMs ≤ u64Max
  allocationUtilizationPenalty : weights.allocationUtilizationPenalty ≤ u64Max
  bandwidthHeadroomReward : weights.bandwidthHeadroomReward ≤ u64Max
  recentFailurePenalty : weights.recentFailurePenalty ≤ u64Max
  softFullPenalty : weights.softFullPenalty ≤ u64Max
  degradedPenalty : weights.degradedPenalty ≤ u64Max

/-- The same weights, as the server holds them. -/
def RelayScoreWeights.held (weights : RelayScoreWeights) : Server.ScoreWeights where
  baseScore := weights.baseScore
  regionPreference := weights.regionPreference
  rttPenaltyPerMs := weights.rttPenaltyPerMs
  allocationUtilizationPenalty := weights.allocationUtilizationPenalty
  bandwidthHeadroomReward := weights.bandwidthHeadroomReward
  recentFailurePenalty := weights.recentFailurePenalty
  softFullPenalty := weights.softFullPenalty
  degradedPenalty := weights.degradedPenalty

/-- **A policy as both of them hold it.** -/
structure SharedPolicy where
  server : Server.SelectionPolicy
  client : RelaySelectionPolicy
  preferredRegions : server.preferredRegions = client.preferredRegions.map (·.value)
  acceptedTransports : server.acceptedTransports = client.acceptedTransports
  maxBackups : server.maxBackups = client.maxBackups
  softAllocationLimitBps : server.softAllocationLimitBps = client.softAllocationLimitBps
  weights : server.weights = client.weights.held
  backupsFit : client.maxBackups ≤ 7
  weightsFit : client.weights.Fits

/-- **A node that the server trusts**: what the server asks of a node and the client does not. Its
identifier is one that credentials may carry (`credentialScope_of_identifier`). -/
structure SharedNode.Trusted (policy : SharedPolicy) (now : Nat) (node : SharedNode) :
    Prop where
  registration : node.view.registrationStatus = .approved
  topology : node.view.topologyApproved = true
  host : node.view.physicalHostId ≠ none
  certificate : Server.hasPassed node.view.certificateExpiresAt now = false
  region : node.view.region ∈ policy.server.allowedRegions

/-- One choice, made by both. -/
structure SameChoice (left : Server.RelaySelectedNode) (right : RelaySelectedCandidate) : Prop where
  nodeId : left.nodeId = right.nodeId.value
  region : left.region = right.region.value
  failureDomain : left.failureDomain = right.failureDomain.value
  endpoints : left.endpoints.filterMap endpointParts = right.endpoints
  score : left.score = right.score

/-- The two lists reject the same nodes. -/
def SameRejections (left : List Server.RelayRejection) (right : List RelayRejection) : Prop :=
  ∀ nodeId, nodeId ∈ left.map (·.nodeId) ↔ nodeId ∈ right.map (·.nodeId.value)

/-- **Two selections are equal**: the same primary and backups in the same order, or none of them, and
the same nodes rejected. -/
def SameSelection (left : Server.RelaySelectionDecision) :
    Except RelaySelectionError RelaySelectionDecision → Prop
  | .ok right => List.Forall₂ SameChoice left.selected right.selected ∧
      SameRejections left.rejections right.rejections
  | .error failed => left.selected = [] ∧ SameRejections left.rejections failed.rejections

/-! ### Equal scores -/

namespace Server

theorem ratioBps_cast (current maximum : Nat) :
    ratioBps current maximum = (Relay.ratioBps current maximum : Nat) := by
  unfold ratioBps Relay.ratioBps
  by_cases empty : maximum = 0
  · simp [empty]
  · rw [if_neg empty, if_neg (by omega), max_eq_left (Int.natCast_nonneg _)]
    have bounded : min current maximum * basisPoints / maximum ≤ basisPoints :=
      Nat.div_le_of_le_mul ((Nat.mul_le_mul_right _ (Nat.min_le_right _ _)))
    have short : min current maximum * basisPoints / maximum ≤ u64Max := bounded.trans (by decide)
    have cast : ((min current maximum : Nat) : Int) = min (current : Int) maximum := by omega
    rw [clampU128ToU64, min_eq_left short, Int.natCast_ediv, Int.natCast_mul, cast]

theorem weightedBps_cast (valueBps : Nat) {weight : Nat} (fits : weight ≤ u64Max) :
    weightedBps valueBps weight = (Relay.weightedBps valueBps weight : Nat) := by
  unfold weightedBps Relay.weightedBps clampU128ToU64
  have held : min (u64Max : Int) (max 0 (weight : Int)) = weight := by omega
  rw [held, max_eq_right (Int.natCast_nonneg valueBps), ← Int.natCast_mul, ← Int.natCast_ediv]
  omega

variable (left right : Nat)

theorem saturatingAdd_cast :
    saturatingAdd left right = (MiniRemoteDesktop.saturatingAdd left right : Nat) := by
  unfold saturatingAdd MiniRemoteDesktop.saturatingAdd
  omega

theorem saturatingMultiply_cast :
    saturatingMultiply left right = (saturatingMul left right : Nat) := by
  unfold saturatingMultiply saturatingMul
  rw [max_eq_right (Int.natCast_nonneg left), max_eq_right (Int.natCast_nonneg right),
    ← Int.natCast_mul]
  omega

/-- A factor that is clamped first makes no difference to a saturating product. -/
theorem saturatingMul_min :
    saturatingMul (min left u64Max) right = saturatingMul left right := by
  unfold saturatingMul
  rcases Nat.le_total left u64Max with small | large
  · rw [min_eq_left small]
  · rw [min_eq_right large]
    cases right with
    | zero => rfl
    | succ right =>
      have product : u64Max ≤ u64Max * (right + 1) := Nat.le_mul_of_pos_right _ (Nat.succ_pos right)
      rw [min_eq_right product, min_eq_right (product.trans (Nat.mul_le_mul_right _ large))]

end Server

variable {policy : SharedPolicy} {node : SharedNode}

theorem regionReward_eq (policy : SharedPolicy) (region : RegionId) :
    Server.regionReward policy.server region.value = (regionReward policy.client region : Nat) := by
  have found : (policy.server.preferredRegions.findIdx? fun preferred => preferred = region.value) =
      policy.client.preferredRegions.findIdx? fun preferred => preferred = region := by
    rw [policy.preferredRegions, List.findIdx?_map]
    congr 1
    funext preferred
    have same : preferred.value = region.value ↔ preferred = region :=
      ⟨fun equal => by cases preferred; cases region; cases equal; rfl, congrArg _⟩
    simp [same]
  unfold Server.regionReward regionReward
  rw [found, policy.weights, policy.preferredRegions, List.length_map]
  cases listed : policy.client.preferredRegions.findIdx? fun preferred => preferred = region with
  | none => rfl
  | some index =>
    have bound : index < policy.client.preferredRegions.length := by
      obtain ⟨bound, _⟩ := List.findIdx?_eq_some_iff_getElem.mp listed
      exact bound
    dsimp only
    rw [Server.saturatingMul_min, ← Server.saturatingMultiply_cast, Int.ofNat_sub (Nat.le_of_lt bound)]
    rfl

/-- **The scores are equal.** -/
theorem score_eq (policy : SharedPolicy) (node : SharedNode) :
    Server.score policy.server node.view = (score policy.client node.snapshot : Nat) := by
  have fits := policy.weightsFit
  have headroom : max 0 ((basisPoints : Int) -
      (ratioBps node.snapshot.currentEgressBps node.snapshot.maxEgressBps : Nat)) =
      (basisPoints - ratioBps node.snapshot.currentEgressBps node.snapshot.maxEgressBps : Nat) := by
    omega
  have rtt : Server.rttOf node.view = (node.snapshot.measuredRttMs.getD unknownRttMs : Nat) := by
    unfold Server.rttOf
    rw [node.measuredRttMs]
    cases known : node.snapshot.measuredRttMs with
    | none => rfl
    | some measured =>
      have := node.rttFits measured known
      show min (unknownRttMs : Int) (max 0 (measured : Int)) = measured
      omega
  have failures : min (basisPoints : Int) (max 0 (node.snapshot.recentFailureBps : Int)) =
      (min node.snapshot.recentFailureBps basisPoints : Nat) := by omega
  have degraded : node.snapshot.state.stored = .degraded ↔ node.snapshot.state = .degraded := by
    cases node.snapshot.state <;> decide
  unfold Server.score score
  rw [rtt, node.activeAllocations, node.maxAllocations, node.currentEgressBps, node.maxEgressBps,
    node.recentFailureBps, failures, node.region, regionReward_eq, node.state,
    policy.softAllocationLimitBps, policy.weights]
  simp only [Server.ratioBps_cast, headroom, degraded, RelayScoreWeights.held,
    Server.weightedBps_cast _ fits.bandwidthHeadroomReward,
    Server.weightedBps_cast _ fits.allocationUtilizationPenalty,
    Server.weightedBps_cast _ fits.recentFailurePenalty, Server.saturatingAdd_cast,
    Server.saturatingMultiply_cast, Int.ofNat_le]
  by_cases soft : policy.client.softAllocationLimitBps ≤
      ratioBps node.snapshot.activeAllocations node.snapshot.maxAllocations
  · by_cases worse : node.snapshot.state = .degraded
    · simp only [if_pos soft, if_pos worse, Server.saturatingAdd_cast]
      omega
    · simp only [if_pos soft, if_neg worse, Server.saturatingAdd_cast]
      omega
  · by_cases worse : node.snapshot.state = .degraded
    · simp only [if_neg soft, if_pos worse, Server.saturatingAdd_cast]
      omega
    · simp only [if_neg soft, if_neg worse]
      omega

/-! ### Equal rejections -/

theorem Server.credentialScope_of_identifier (identifier : BoundedIdentifier) :
    Server.credentialScope identifier.value = true := by
  have valid := identifier.valid
  unfold validateIdentifier at valid
  split at valid
  · cases valid
  rename_i nonempty
  split at valid
  · cases valid
  rename_i short
  split at valid
  · cases valid
  rename_i allowed
  have all := List.findIdx?_eq_none_iff.mp allowed
  have positive : 1 ≤ (bytes identifier.value).length :=
    List.length_pos_iff.mpr (by simpa using nonempty)
  have short : (bytes identifier.value).length ≤ 64 := Nat.not_lt.mp short
  unfold Server.credentialScope
  rw [decide_eq_true positive, decide_eq_true (by omega), Bool.true_and, Bool.true_and,
    List.all_eq_true]
  intro byte member
  have := all byte member
  revert this
  cases Text.isAsciiAlphanumeric byte <;> cases byte == 45 <;> cases byte == 95 <;>
    cases byte == 46 <;> decide

theorem compatibleEndpoints_eq (policy : SharedPolicy) (node : SharedNode) :
    (Server.compatibleEndpoints policy.server node.view.endpoints).filterMap endpointParts =
      node.snapshot.endpoints.filter fun endpoint => transportIsAccepted policy.client endpoint.transport
    := by
  rw [← node.endpoints, Server.compatibleEndpoints, policy.acceptedTransports, List.filterMap_filter,
    List.filter_filterMap]
  congr 1
  funext endpoint
  have read := Server.endpointParts_transport endpoint
  cases parts : endpointParts endpoint with
  | none =>
    split <;> rfl
  | some parts =>
    rw [parts] at read
    rw [← read]
    rfl

theorem compatible_iff (policy : SharedPolicy) (node : SharedNode) :
    Server.compatibleEndpoints policy.server node.view.endpoints = [] ↔
      ¬ hasCompatibleTransport policy.client node.snapshot := by
  have same := compatibleEndpoints_eq policy node
  have kept : ∀ endpoint ∈ Server.compatibleEndpoints policy.server node.view.endpoints,
      (endpointParts endpoint).isSome := by
    intro endpoint member
    have accepted := (List.mem_filter.mp member).2
    rw [← Server.endpointParts_transport] at accepted
    cases parts : endpointParts endpoint with
    | none =>
      simp [parts] at accepted
    | some _ => rfl
  constructor
  · intro empty
    rw [empty, List.filterMap_nil, eq_comm, List.filter_eq_nil_iff] at same
    unfold hasCompatibleTransport
    simpa using same
  · intro incompatible
    unfold hasCompatibleTransport at incompatible
    have none : (Server.compatibleEndpoints policy.server node.view.endpoints).filterMap
        endpointParts = [] := by
      rw [same, List.filter_eq_nil_iff]
      simpa using incompatible
    rw [List.filterMap_eq_nil_iff] at none
    refine List.eq_nil_iff_forall_not_mem.mpr fun endpoint member => ?_
    have := kept endpoint member
    simp [none endpoint member] at this

theorem stored_rejection (state : RelayNodeState) :
    state.rejection = none ↔ state.stored = .available ∨ state.stored = .degraded := by
  cases state <;> decide

theorem hasPassed_lease (node : SharedNode) (now : Nat) :
    Server.hasPassed node.view.leaseExpiresAt now = true ↔
      ¬ leaseIsFresh node.snapshot.leaseExpiresAtMs (now / 1000) := by
  have lease := node.lease
  unfold leaseIsFresh
  rw [decide_eq_true_iff]
  cases held : node.view.leaseExpiresAt with
  | none =>
    rw [held, Option.getD_none] at lease
    refine iff_of_true rfl ?_
    omega
  | some instant =>
    rw [held, Option.getD_some] at lease
    show decide (instant ≤ now) = true ↔ _
    rw [decide_eq_true_iff]
    omega

variable {now : Nat}

/-- **Both reject the same trusted nodes**, each for reasons of its own. -/
theorem rejectionReason_none_iff (trusted : node.Trusted policy now) :
    Server.rejectionReason policy.server node.view
        (Server.compatibleEndpoints policy.server node.view.endpoints) now 0 = none ↔
      rejectionReason policy.client node.snapshot (now / 1000) = none := by
  have scope := Server.credentialScope_of_identifier node.snapshot.nodeId
  have topology : ¬ (node.view.topologyApproved = false ∨ node.view.physicalHostId = none) :=
    not_or.mpr ⟨by rw [trusted.topology]; decide, trusted.host⟩
  have revoked : (node.view.revokedAt.isSome ∨ node.view.state = .revoked) ↔
      node.snapshot.state = .revoked := by
    rw [node.state]
    constructor
    · rintro (set | stored)
      · exact node.revoked set
      · revert stored
        cases node.snapshot.state <;> decide
    · exact fun same => .inr (by rw [same]; rfl)
  unfold Server.rejectionReason rejectionReason
  rw [if_neg (not_not.mpr trusted.registration), if_neg topology, trusted.certificate, node.nodeId,
    scope]
  by_cases stale : Server.hasPassed node.view.leaseExpiresAt now = true
  · rw [if_pos ((hasPassed_lease node now).mp stale), stale]
    split <;> simp
  rw [if_neg (fun other => stale ((hasPassed_lease node now).mpr other))]
  simp only [stale, if_false, Bool.false_eq_true]
  by_cases usable : node.snapshot.state.rejection = none
  · have stored := (stored_rejection _).mp usable
    rw [← node.state] at stored
    have present : ¬ (node.view.revokedAt.isSome ∨ node.view.state = .revoked) := by
      rw [revoked]
      intro same
      rw [same] at usable
      cases usable
    have settled : node.view.state ≠ .draining := by
      rcases stored with same | same <;> rw [same] <;> decide
    rw [usable, if_neg present, if_neg settled,
      if_neg (by rintro ⟨available, degraded⟩; exact stored.elim available degraded),
      if_neg (not_not.mpr trusted.region)]
    by_cases compatible : Server.compatibleEndpoints policy.server node.view.endpoints = []
    · simp [compatible, (compatible_iff policy node).mp compatible]
    · rw [if_neg compatible]
      rw [if_neg fun other => compatible ((compatible_iff policy node).mpr other),
        node.activeAllocations, node.maxAllocations, node.currentEgressBps, node.maxEgressBps]
      have capacity : ((node.snapshot.maxAllocations : Int) ≤ 0 ∨
            (node.snapshot.activeAllocations : Int) < 0 ∨
            (node.snapshot.maxAllocations : Int) ≤ node.snapshot.activeAllocations ∨
            (node.snapshot.maxEgressBps : Int) ≤ 0 ∨ (node.snapshot.currentEgressBps : Int) < 0 ∨
            (node.snapshot.maxEgressBps : Int) ≤ node.snapshot.currentEgressBps ∨
            (node.snapshot.maxEgressBps : Int) - node.snapshot.currentEgressBps < 0) ↔
          node.snapshot.maxAllocations ≤ node.snapshot.activeAllocations ∨
            node.snapshot.maxEgressBps ≤ node.snapshot.currentEgressBps := by
        omega
      by_cases full : node.snapshot.maxAllocations ≤ node.snapshot.activeAllocations ∨
          node.snapshot.maxEgressBps ≤ node.snapshot.currentEgressBps
      · rw [if_pos full, if_pos (capacity.mpr full)]
        simp
      · rw [if_neg full, if_neg fun other => full (capacity.mp other)]
        simp
  · obtain ⟨reason, rejected⟩ := Option.ne_none_iff_exists'.mp usable
    have unusable : node.view.state ≠ .available ∧ node.view.state ≠ .degraded := by
      rw [node.state]
      exact not_or.mp fun stored => usable ((stored_rejection _).mpr stored)
    rw [rejected, if_pos unusable]
    split
    · simp
    · split <;> simp

/-! ### Equal selections -/

theorem sameChoice_candidate (policy : SharedPolicy) (node : SharedNode) (reason : String) :
    SameChoice { Server.candidate policy.server node.view with selectionReason := reason }
      (candidate policy.client node.snapshot) where
  nodeId := node.nodeId
  region := node.region
  failureDomain := node.failureDomain
  endpoints := compatibleEndpoints_eq policy node
  score := score_eq policy node

theorem compare_neg (left right : Nat) :
    compare (-(left : Int)) (-(right : Int)) = compare right left := by
  rcases Nat.lt_trichotomy left right with less | same | greater
  · rw [Nat.compare_eq_gt.mpr less, compare_gt_iff_gt]
    omega
  · rw [Nat.compare_eq_eq.mpr same.symm, compare_eq_iff_eq]
    omega
  · rw [Nat.compare_eq_lt.mpr greater, compare_lt_iff_lt]
    omega

/-- The two orders of the candidates are one order of the nodes. -/
theorem compareCandidates_eq (policy : SharedPolicy) (left right : SharedNode) :
    Server.compareCandidates (Server.candidate policy.server left.view)
        (Server.candidate policy.server right.view) =
      compareCandidates (candidate policy.client left.snapshot)
        (candidate policy.client right.snapshot) := by
  show (compare (-Server.score policy.server left.view) (-Server.score policy.server right.view)).then
      (compare (bytes left.view.nodeId) (bytes right.view.nodeId)) =
    (compare (score policy.client right.snapshot) (score policy.client left.snapshot)).then
      (compare (bytes left.snapshot.nodeId.value) (bytes right.snapshot.nodeId.value))
  simp [score_eq, compare_neg, left.nodeId, right.nodeId]

/-- The trusted nodes that are not rejected. -/
def usable (policy : SharedPolicy) (now : Nat) (nodes : List SharedNode) : List SharedNode :=
  nodes.filter fun node => (rejectionReason policy.client node.snapshot (now / 1000)).isNone

theorem candidates_usable (policy : SharedPolicy) (now : Nat) (nodes : List SharedNode) :
    candidates policy.client (nodes.map (·.snapshot)) (now / 1000) =
      (usable policy now nodes).map fun node => candidate policy.client node.snapshot := by
  rw [candidates, usable, List.filter_map, List.map_map]
  rfl

variable {nodes : List SharedNode}

theorem Server.candidates_usable (trusted : ∀ node ∈ nodes, node.Trusted policy now) :
    Server.candidates policy.server (nodes.map (·.view)) now 0 =
      (usable policy now nodes).map fun node => Server.candidate policy.server node.view := by
  rw [Server.candidates, usable, List.filter_map, List.map_map]
  refine congrArg (List.map _) (List.filter_congr fun node member => ?_)
  have same := rejectionReason_none_iff (trusted node member)
  rw [← Option.isNone_iff_eq_none, ← Option.isNone_iff_eq_none] at same
  exact Bool.eq_iff_iff.mpr same

/-- **The same nodes are rejected.** -/
theorem sameRejections (trusted : ∀ node ∈ nodes, node.Trusted policy now) :
    SameRejections (sortBy Server.compareRejections
        (Server.rejections policy.server (nodes.map (·.view)) now 0))
      (sortBy compareRejections (rejections policy.client (nodes.map (·.snapshot)) (now / 1000))) := by
  intro nodeId
  have left : nodeId ∈ (sortBy Server.compareRejections
      (Server.rejections policy.server (nodes.map (·.view)) now 0)).map (·.nodeId) ↔
      ∃ node ∈ nodes, node.snapshot.nodeId.value = nodeId ∧
        Server.rejectionReason policy.server node.view
          (Server.compatibleEndpoints policy.server node.view.endpoints) now 0 ≠ none := by
    rw [((sortBy_perm _ _).map _).mem_iff, Server.rejections, List.filterMap_map, List.map_filterMap,
      List.mem_filterMap]
    refine exists_congr fun node => and_congr_right fun _ => ?_
    simp [Option.ne_none_iff_exists', node.nodeId, and_comm]
  have right : nodeId ∈ (sortBy compareRejections
      (rejections policy.client (nodes.map (·.snapshot)) (now / 1000))).map (·.nodeId.value) ↔
      ∃ node ∈ nodes, node.snapshot.nodeId.value = nodeId ∧
        rejectionReason policy.client node.snapshot (now / 1000) ≠ none := by
    rw [((sortBy_perm _ _).map _).mem_iff, rejections, List.filterMap_map, List.map_filterMap,
      List.mem_filterMap]
    refine exists_congr fun node => and_congr_right fun _ => ?_
    simp [Option.ne_none_iff_exists', and_comm]
  rw [left, right]
  refine exists_congr fun node => and_congr_right fun member => and_congr_right fun _ => ?_
  exact not_congr (rejectionReason_none_iff (trusted node member))

/-- Sorting the images by a comparison is sorting by the comparison of images. -/
theorem sortBy_map {α β : Type} (cmp : β → β → Ordering) (f : α → β) (list : List α) :
    sortBy cmp (list.map f) = (sortBy (fun a b => cmp (f a) (f b)) list).map f :=
  (List.map_insertionSort _ _ f list fun _ _ _ _ => Iff.rfl).symm

/-- **The two loops**, over nodes on hosts of their own: the server's second set never matters. -/
theorem selectNodes_firstOfEach {limit count : Nat} {usedDomains : List FailureDomainId}
    {usedPhysicalHosts : List (Option String)} (room : count < limit)
    (unused : ∀ node ∈ nodes, node.view.physicalHostId ∉ usedPhysicalHosts)
    (hosts : (nodes.map (·.view.physicalHostId)).Nodup) :
    List.Forall₂ SameChoice
      (Server.selectNodes limit count (usedDomains.map (·.value)) usedPhysicalHosts
        (nodes.map fun node => Server.candidate policy.server node.view))
      ((firstOfEach (·.failureDomain) usedDomains
        (nodes.map fun node => candidate policy.client node.snapshot)).take (limit - count)) := by
  induction nodes generalizing count usedDomains usedPhysicalHosts with
  | nil =>
    simp [Server.selectNodes, firstOfEach]
  | cons node rest ih =>
    obtain ⟨apart, hosts⟩ := List.nodup_cons.mp hosts
    rw [List.map_cons, List.map_cons, Server.selectNodes, firstOfEach]
    have domain : (Server.candidate policy.server node.view).failureDomain ∈ usedDomains.map (·.value) ↔
        (candidate policy.client node.snapshot).failureDomain ∈ usedDomains := by
      show node.view.failureDomain ∈ _ ↔ node.snapshot.failureDomain ∈ _
      rw [node.failureDomain]
      refine List.mem_map_of_injective fun left right same => ?_
      cases left
      cases right
      cases same
      rfl
    have free : (Server.candidate policy.server node.view).physicalHostId ∉ usedPhysicalHosts :=
      unused node (.head _)
    by_cases used : (candidate policy.client node.snapshot).failureDomain ∈ usedDomains
    · rw [if_pos used, if_pos (.inl (domain.mpr used))]
      exact ih room (List.forall_mem_cons.mp unused).2 hosts
    · rw [if_neg used, if_neg (not_or.mpr ⟨fun met => used (domain.mp met), free⟩)]
      obtain ⟨left, more⟩ : ∃ left, limit - count = left + 1 := ⟨limit - count - 1, by omega⟩
      rw [more, List.take_succ_cons]
      dsimp only
      split
      · have : left = 0 := by omega
        rw [this, List.take_zero]
        exact .cons (sameChoice_candidate policy node _) .nil
      · refine .cons (sameChoice_candidate policy node _) ?_
        have same : left = limit - (count + 1) := by omega
        have next := @ih (count + 1) (node.snapshot.failureDomain :: usedDomains)
          (node.view.physicalHostId :: usedPhysicalHosts) (by omega) ?_ hosts
        · rw [List.map_cons, ← node.failureDomain] at next
          rw [same]
          exact next
        · intro other member again
          rcases List.mem_cons.mp again with equal | before
          · exact apart (List.mem_map.mpr ⟨other, member, equal⟩)
          · exact unused other (.tail _ member) before

/-- **The two selectors agree**: they give each node the same score; and of nodes that the server
trusts, each on a host of its own, they select the same ones in the same order and reject the same
ones. -/
theorem same_selection (policy : SharedPolicy) (nodes : List SharedNode) (now : Nat) :
    (∀ node ∈ nodes, Server.score policy.server node.view = (score policy.client node.snapshot : Nat)) ∧
    ((∀ node ∈ nodes, node.Trusted policy now) → (nodes.map (·.view.physicalHostId)).Nodup →
      ∃ decision, Server.selectRelayNodes policy.server (nodes.map (·.view)) now 0 = some decision ∧
        SameSelection decision (selectRelays policy.client (nodes.map (·.snapshot)) (now / 1000))) := by
  refine ⟨fun node _ => score_eq policy node, fun trusted hosts => ?_⟩
  have rejected := sameRejections trusted
  let ranked := sortBy (fun left right : SharedNode =>
    compareCandidates (candidate policy.client left.snapshot)
      (candidate policy.client right.snapshot)) (usable policy now nodes)
  have clientRanked : sortBy compareCandidates (candidates policy.client (nodes.map (·.snapshot))
      (now / 1000)) = ranked.map fun node => candidate policy.client node.snapshot := by
    rw [candidates_usable, sortBy_map]
  have serverRanked : sortBy Server.compareCandidates (Server.candidates policy.server
      (nodes.map (·.view)) now 0) =
      ranked.map fun node => Server.candidate policy.server node.view := by
    rw [Server.candidates_usable trusted, sortBy_map]
    simp only [compareCandidates_eq]
    rfl
  have limit : (1 + max 0 (min policy.server.maxBackups 7)).toNat = policy.client.maxBackups + 1 := by
    have := policy.backupsFit
    rw [policy.maxBackups]
    omega
  have rankedHosts : (ranked.map (·.view.physicalHostId)).Nodup :=
    ((sortBy_perm _ _).map _).nodup_iff.mpr (hosts.sublist (List.filter_sublist.map _))
  have loops := @selectNodes_firstOfEach policy ranked (policy.client.maxBackups + 1) 0 [] []
    (Nat.succ_pos _) (fun _ _ => List.not_mem_nil) rankedHosts
  refine ⟨_, if_neg (by decide), ?_⟩
  unfold selectRelays
  rw [clientRanked]
  cases chosen : choose policy.client (sortBy compareRejections (rejections policy.client
      (nodes.map (·.snapshot)) (now / 1000)))
      (ranked.map fun node => candidate policy.client node.snapshot) with
  | ok decision =>
    obtain ⟨listed, selected, _⟩ := choose_ok chosen
    refine ⟨?_, listed ▸ rejected⟩
    rw [selected, serverRanked, limit]
    exact loops
  | error failed =>
    obtain ⟨listed, none⟩ := choose_error chosen
    refine ⟨?_, listed ▸ rejected⟩
    rw [List.map_eq_nil_iff] at none
    show Server.selectNodes _ 0 [] [] _ = []
    rw [serverRanked, none]
    rfl

/-! ### Two nodes -/

/-- A node with two endpoints, one of which the policy below does not accept. -/
def sharedSampleNode (nodeId host : String) (named : validateIdentifier nodeId = .ok ())
    (rttMs : Nat) (rttFits : rttMs ≤ unknownRttMs) : SharedNode where
  view :=
    { nodeId, region := "eu", failureDomain := nodeId, physicalHostId := some host
      topologyApproved := true, state := .degraded, leaseExpiresAt := some 9000000, revokedAt := none
      registrationStatus := .approved, certificateExpiresAt := some 9000000
      endpoints := ["turn:relay.example:3478?transport=udp", "turn:relay.example:3478?transport=tcp"]
      activeAllocations := 3, maxAllocations := 4, currentEgressBps := 1, maxEgressBps := 3
      measuredRttMs := some rttMs, recentFailureBps := 20000 }
  snapshot :=
    { nodeId := ⟨nodeId, named⟩, region := ⟨"eu", by decide⟩, failureDomain := ⟨nodeId, named⟩
      state := .degraded, leaseExpiresAtMs := 9000
      endpoints := [⟨.udp, "relay.example", 3478⟩, ⟨.tcp, "relay.example", 3478⟩]
      activeAllocations := 3, maxAllocations := 4, currentEgressBps := 1, maxEgressBps := 3
      recentFailureBps := 20000, measuredRttMs := some rttMs }
  nodeId := rfl
  region := rfl
  failureDomain := rfl
  state := rfl
  revoked := by rintro ⟨⟩
  lease := rfl
  endpoints := by
    show ["turn:relay.example:3478?transport=udp", "turn:relay.example:3478?transport=tcp"].filterMap
      endpointParts = [⟨.udp, "relay.example", 3478⟩, ⟨.tcp, "relay.example", 3478⟩]
    decide
  activeAllocations := rfl
  maxAllocations := rfl
  currentEgressBps := rfl
  maxEgressBps := rfl
  recentFailureBps := rfl
  measuredRttMs := rfl
  rttFits := by
    rintro rtt ⟨⟩
    exact rttFits

/-- Weights at which the rewards saturate. -/
def sharedSamplePolicy : SharedPolicy where
  server :=
    { allowedRegions := ["eu"], preferredRegions := ["eu"], acceptedTransports := [.udp]
      maxBackups := 1, softAllocationLimitBps := 7500
      weights := { Server.ScoreWeights.standard with baseScore := 2 ^ 64 - 1 } }
  client :=
    { preferredRegions := [⟨"eu", by decide⟩], acceptedTransports := [.udp], maxBackups := 1
      softAllocationLimitBps := 7500
      weights := ⟨2 ^ 64 - 1, 100000000, 10000, 250000000, 100000000, 300000000, 100000000, 200000000⟩ }
  preferredRegions := rfl
  acceptedTransports := rfl
  maxBackups := rfl
  softAllocationLimitBps := rfl
  weights := rfl
  backupsFit := by decide
  weightsFit := by constructor <;> decide

def sharedSampleNodes : List SharedNode :=
  [sharedSampleNode "far" "rack-1" (by decide) 70 (by decide),
    sharedSampleNode "near" "rack-2" (by decide) 30 (by decide)]

theorem same_selection_sample :
    (∃ decision, Server.selectRelayNodes sharedSamplePolicy.server (sharedSampleNodes.map (·.view)) 5000999 0 =
        some decision ∧
      SameSelection decision
        (selectRelays sharedSamplePolicy.client (sharedSampleNodes.map (·.snapshot)) 5000)) ∧
    (Server.selectRelayNodes sharedSamplePolicy.server (sharedSampleNodes.map (·.view)) 5000999 0).map
      (·.selected.map (·.nodeId)) = some ["near", "far"] := by
  refine ⟨(same_selection sharedSamplePolicy sharedSampleNodes 5000999).2 ?_ (by decide),
    by decide⟩
  intro node member
  rcases List.mem_cons.mp member with rfl | member
  · exact ⟨rfl, rfl, by rintro ⟨⟩, rfl, by decide⟩
  · cases List.mem_singleton.mp member
    exact ⟨rfl, rfl, by rintro ⟨⟩, rfl, by decide⟩

end MiniRemoteDesktop.Relay
