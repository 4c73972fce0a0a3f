/-
**Choosing the relays of a session** (`mrd-relay-control`, `selection.rs`).

Every node is rejected for a reason or becomes a candidate with a score. The candidates are sorted by
descending score, equal scores by node identifier; the first one is the primary, and the backups are
the next ones whose failure domain was not met yet, up to the limit of the policy.

* `selectRelays` — the selection.
* `selectRelays_law` — **the decision follows the law, and no order of the nodes changes it.**
-/

import MiniRemoteDesktop.Lib.Ranking
import MiniRemoteDesktop.Lib.Text
import MiniRemoteDesktop.Proto

namespace MiniRemoteDesktop.Relay

open Ranking

/-! ### Nodes -/

def maxIdentifierLen : Nat := 64

inductive IdentifierError
  | empty
  | tooLong (max : Nat)
  | invalidCharacter (index : Nat)
  deriving DecidableEq

def validateIdentifier (value : String) : Except IdentifierError Unit :=
  if (Text.bytes value).isEmpty then .error .empty
  else if maxIdentifierLen < (Text.bytes value).length then .error (.tooLong maxIdentifierLen)
  else match (Text.bytes value).findIdx? fun byte =>
      !Text.isAsciiAlphanumeric byte && !(byte == 45 || byte == 95 || byte == 46) with
    | some index => .error (.invalidCharacter index)
    | none => .ok ()

/-- **A bounded identifier**, which can only be made by its check. -/
structure BoundedIdentifier where
  value : String
  valid : validateIdentifier value = .ok ()
  deriving DecidableEq

abbrev RelayNodeId := BoundedIdentifier
abbrev RegionId := BoundedIdentifier
abbrev FailureDomainId := BoundedIdentifier

inductive RelayNodeState
  | enrolling
  | ready
  | degraded
  | draining
  | unavailable
  | revoked
  deriving DecidableEq

inductive RelayTransport
  | udp
  | tcp
  | tls
  deriving DecidableEq

structure RelayEndpoint where
  transport : RelayTransport
  host : String
  port : Nat
  deriving DecidableEq

structure RelayNodeSnapshot where
  nodeId : RelayNodeId
  region : RegionId
  failureDomain : FailureDomainId
  state : RelayNodeState
  leaseExpiresAtMs : Nat
  endpoints : List RelayEndpoint
  (activeAllocations maxAllocations currentEgressBps maxEgressBps recentFailureBps : Nat)
  measuredRttMs : Option Nat

def leaseIsFresh (leaseExpiresAtMs nowMs : Nat) : Bool := nowMs < leaseExpiresAtMs

/-! ### Scores -/

def basisPoints : Nat := 10000

/-- `u32::MAX`. -/
def unknownRttMs : Nat := 2 ^ 32 - 1

structure RelayScoreWeights where
  (baseScore regionPreference rttPenaltyPerMs allocationUtilizationPenalty bandwidthHeadroomReward
    recentFailurePenalty softFullPenalty degradedPenalty : Nat)

structure RelaySelectionPolicy where
  preferredRegions : List RegionId
  acceptedTransports : List RelayTransport
  (maxBackups softAllocationLimitBps : Nat)
  weights : RelayScoreWeights

def clampU128ToU64 (value : Nat) : Nat := min value u64Max

def ratioBps (current maximum : Nat) : Nat :=
  if maximum = 0 then basisPoints
  else clampU128ToU64 (min current maximum * basisPoints / maximum)

def weightedBps (valueBps weight : Nat) : Nat := clampU128ToU64 (valueBps * weight / basisPoints)

/-- The reward of a preferred region: the earlier it is listed, the higher. -/
def regionReward (policy : RelaySelectionPolicy) (region : RegionId) : Nat :=
  match policy.preferredRegions.findIdx? fun preferred => preferred = region with
  | some index =>
    saturatingMul (min (policy.preferredRegions.length - index) u64Max) policy.weights.regionPreference
  | none => 0

def score (policy : RelaySelectionPolicy) (node : RelayNodeSnapshot) : Nat :=
  let allocationUtilizationBps := ratioBps node.activeAllocations node.maxAllocations
  let bandwidthUtilizationBps := ratioBps node.currentEgressBps node.maxEgressBps
  let bandwidthHeadroomBps := basisPoints - bandwidthUtilizationBps
  let rewards := saturatingAdd (saturatingAdd policy.weights.baseScore
      (regionReward policy node.region))
    (weightedBps bandwidthHeadroomBps policy.weights.bandwidthHeadroomReward)
  let penalties := saturatingAdd (saturatingAdd
      (saturatingMul (node.measuredRttMs.getD unknownRttMs) policy.weights.rttPenaltyPerMs)
      (weightedBps allocationUtilizationBps policy.weights.allocationUtilizationPenalty))
    (weightedBps (min node.recentFailureBps basisPoints) policy.weights.recentFailurePenalty)
  let penalties := if policy.softAllocationLimitBps ≤ allocationUtilizationBps then
    saturatingAdd penalties policy.weights.softFullPenalty else penalties
  let penalties := if node.state = .degraded then
    saturatingAdd penalties policy.weights.degradedPenalty else penalties
  rewards - penalties

/-! ### Rejections and candidates -/

inductive RelayRejectionCode
  | staleLease
  | enrolling
  | draining
  | unavailable
  | revoked
  | transportIncompatible
  | hardCapacityReached

def RelayRejectionCode.asStr : RelayRejectionCode → String
  | staleLease => "stale_lease"
  | enrolling => "enrolling"
  | draining => "draining"
  | unavailable => "unavailable"
  | revoked => "revoked"
  | transportIncompatible => "transport_incompatible"
  | hardCapacityReached => "hard_capacity_reached"

structure RelayRejection where
  nodeId : RelayNodeId
  reason : RelayRejectionCode

structure RelaySelectedCandidate where
  nodeId : RelayNodeId
  region : RegionId
  failureDomain : FailureDomainId
  endpoints : List RelayEndpoint
  score : Nat
  deriving DecidableEq

structure RelaySelectionDecision where
  primary : RelaySelectedCandidate
  backups : List RelaySelectedCandidate
  rejections : List RelayRejection

structure RelaySelectionError where
  rejections : List RelayRejection

def transportIsAccepted (policy : RelaySelectionPolicy) (transport : RelayTransport) : Bool :=
  policy.acceptedTransports.contains transport

def hasCompatibleTransport (policy : RelaySelectionPolicy) (node : RelayNodeSnapshot) : Bool :=
  node.endpoints.any fun endpoint => transportIsAccepted policy endpoint.transport

/-- The states in which a node takes no new sessions. -/
def RelayNodeState.rejection : RelayNodeState → Option RelayRejectionCode
  | ready | degraded => none
  | enrolling => some .enrolling
  | draining => some .draining
  | unavailable => some .unavailable
  | revoked => some .revoked

def rejectionReason (policy : RelaySelectionPolicy) (node : RelayNodeSnapshot) (nowMs : Nat) :
    Option RelayRejectionCode :=
  if ¬ leaseIsFresh node.leaseExpiresAtMs nowMs then some .staleLease
  else match node.state.rejection with
    | some reason => some reason
    | none =>
      if ¬ hasCompatibleTransport policy node then some .transportIncompatible
      else if node.maxAllocations ≤ node.activeAllocations ∨
          node.maxEgressBps ≤ node.currentEgressBps then some .hardCapacityReached
      else none

def candidate (policy : RelaySelectionPolicy) (node : RelayNodeSnapshot) : RelaySelectedCandidate where
  nodeId := node.nodeId
  region := node.region
  failureDomain := node.failureDomain
  endpoints := node.endpoints.filter fun endpoint => transportIsAccepted policy endpoint.transport
  score := score policy node

/-! ### The selection -/

/-- Descending score, equal scores by node identifier. -/
def compareCandidates : RelaySelectedCandidate → RelaySelectedCandidate → Ordering :=
  compareLex (fun left right => compare right.score left.score)
    (compareOn fun candidate => Text.bytes candidate.nodeId.value)

def compareRejections : RelayRejection → RelayRejection → Ordering :=
  compareLex (compareOn fun rejection => Text.bytes rejection.nodeId.value)
    (compareOn fun rejection => Text.bytes rejection.reason.asStr)

/-- The candidates of the nodes that are not rejected. -/
def candidates (policy : RelaySelectionPolicy) (nodes : List RelayNodeSnapshot) (nowMs : Nat) :
    List RelaySelectedCandidate :=
  (nodes.filter fun node => (rejectionReason policy node nowMs).isNone).map (candidate policy)

/-- The rejections of the others. -/
def rejections (policy : RelaySelectionPolicy) (nodes : List RelayNodeSnapshot) (nowMs : Nat) :
    List RelayRejection :=
  nodes.filterMap fun node =>
    (rejectionReason policy node nowMs).map fun reason => ⟨node.nodeId, reason⟩

/-- The choice among sorted candidates. The domains that were met are a set that grows while the
backups are taken. -/
def choose (policy : RelaySelectionPolicy) (rejections : List RelayRejection) :
    List RelaySelectedCandidate → Except RelaySelectionError RelaySelectionDecision
  | [] => .error ⟨rejections⟩
  | primary :: rest =>
    .ok ⟨primary,
      (firstOfEach (·.failureDomain) [primary.failureDomain] rest).take policy.maxBackups, rejections⟩

def selectRelays (policy : RelaySelectionPolicy) (nodes : List RelayNodeSnapshot) (nowMs : Nat) :
    Except RelaySelectionError RelaySelectionDecision :=
  choose policy (sortBy compareRejections (rejections policy nodes nowMs))
    (sortBy compareCandidates (candidates policy nodes nowMs))

/-! ### The law of a selection -/

/-- The node takes new sessions under the policy. -/
def Eligible (policy : RelaySelectionPolicy) (nowMs : Nat) (node : RelayNodeSnapshot) : Prop :=
  rejectionReason policy node nowMs = none

/-- **The better rank**: a higher score, or the same score and a smaller identifier. -/
def Outranks (left right : RelaySelectedCandidate) : Prop :=
  right.score < left.score ∨ (left.score = right.score ∧
    compare (Text.bytes left.nodeId.value) (Text.bytes right.nodeId.value) = .lt)

/-- The rejections list every node that is not eligible, with its reason, and nothing else. -/
def Explained (policy : RelaySelectionPolicy) (nodes : List RelayNodeSnapshot) (nowMs : Nat)
    (rejections : List RelayRejection) : Prop :=
  ∀ rejection, rejection ∈ rejections ↔ ∃ node ∈ nodes, node.nodeId = rejection.nodeId ∧
    rejectionReason policy node nowMs = some rejection.reason

/-- The candidates that were chosen. -/
def RelaySelectionDecision.selected (decision : RelaySelectionDecision) : List RelaySelectedCandidate :=
  decision.primary :: decision.backups

/-- **What a decision is**, in terms of the nodes. -/
structure SelectionLaw (policy : RelaySelectionPolicy) (nodes : List RelayNodeSnapshot) (nowMs : Nat)
    (decision : RelaySelectionDecision) : Prop where
  explained : Explained policy nodes nowMs decision.rejections
  chosen : ∀ choice ∈ decision.selected, ∃ node ∈ nodes, Eligible policy nowMs node ∧
    choice = candidate policy node
  /-- The primary is the best of all. -/
  best : ∀ node ∈ nodes, Eligible policy nowMs node →
    decision.primary = candidate policy node ∨ Outranks decision.primary (candidate policy node)
  limit : decision.backups.length ≤ policy.maxBackups
  ranked : decision.selected.Pairwise Outranks
  domains : (decision.selected.map (·.failureDomain)).Nodup
  /-- Each choice is the best of its domain. -/
  representative : ∀ choice ∈ decision.selected, ∀ node ∈ nodes, Eligible policy nowMs node →
    node.failureDomain = choice.failureDomain →
      choice = candidate policy node ∨ Outranks choice (candidate policy node)
  /-- A node is left out for a better one of its domain, or because the limit was reached. -/
  leftOut : ∀ node ∈ nodes, Eligible policy nowMs node → candidate policy node ∉ decision.selected →
    (∃ choice ∈ decision.selected, choice.failureDomain = node.failureDomain ∧
      Outranks choice (candidate policy node)) ∨
    (decision.backups.length = policy.maxBackups ∧
      ∀ choice ∈ decision.backups, Outranks choice (candidate policy node))
  reachable : ∀ choice ∈ decision.selected, choice.endpoints ≠ [] ∧
    ∀ endpoint ∈ choice.endpoints, endpoint.transport ∈ policy.acceptedTransports

/-! ### The order of the candidates -/

variable {policy : RelaySelectionPolicy} {nodes other : List RelayNodeSnapshot} {nowMs : Nat}

instance : Std.TransCmp compareCandidates :=
  have : Std.TransCmp fun left right : RelaySelectedCandidate => compare right.score left.score :=
    inferInstanceAs (Std.TransCmp fun left right : RelaySelectedCandidate =>
      compareOn (·.score) right left)
  inferInstanceAs (Std.TransCmp (compareLex _ _))

instance : Std.TransCmp compareRejections :=
  inferInstanceAs (Std.TransCmp (compareLex _ _))

theorem nodeId_of_compare {left right : RelayNodeId}
    (same : compare (Text.bytes left.value) (Text.bytes right.value) = .eq) : left = right := by
  have equal : left.value = right.value :=
    Text.bytes_injective (Std.LawfulEqCmp.eq_of_compare same)
  cases left
  cases right
  cases equal
  rfl

theorem before_iff_outranks {left right : RelaySelectedCandidate} :
    Before compareCandidates left right ↔ Outranks left right := by
  show ((compare right.score left.score).then
    (compare (Text.bytes left.nodeId.value) (Text.bytes right.nodeId.value))) = .lt ↔ _
  rw [Ordering.then_eq_lt, Nat.compare_eq_lt, Nat.compare_eq_eq]
  exact or_congr_right (and_congr_left' eq_comm)

instance : IsTrans RelaySelectedCandidate Outranks where
  trans _ _ _ first second :=
    before_iff_outranks.mp ((before_iff_outranks.mpr first).trans (before_iff_outranks.mpr second))

variable {choice : RelaySelectedCandidate}

theorem mem_candidates :
    choice ∈ candidates policy nodes nowMs ↔
      ∃ node ∈ nodes, Eligible policy nowMs node ∧ choice = candidate policy node := by
  simp only [candidates, List.mem_map, List.mem_filter, Option.isNone_iff_eq_none, and_assoc]
  exact exists_congr fun node => and_congr_right fun _ => and_congr_right fun _ => eq_comm

theorem mem_rejections {rejection : RelayRejection} :
    rejection ∈ rejections policy nodes nowMs ↔ ∃ node ∈ nodes, node.nodeId = rejection.nodeId ∧
      rejectionReason policy node nowMs = some rejection.reason := by
  rw [rejections, List.mem_filterMap]
  refine exists_congr fun node => and_congr_right fun _ => ?_
  rw [Option.map_eq_some_iff]
  constructor
  · rintro ⟨reason, rejected, rfl⟩
    exact ⟨rfl, rejected⟩
  · rintro ⟨named, rejected⟩
    exact ⟨rejection.reason, rejected, by rw [named]⟩

theorem distinct_candidates (distinct : (nodes.map (·.nodeId)).Nodup) :
    Distinct compareCandidates (candidates policy nodes nowMs) := by
  rw [Distinct, candidates, List.pairwise_map]
  refine ((List.pairwise_map.mp distinct).sublist List.filter_sublist).imp ?_
  intro left right differ same
  exact differ (nodeId_of_compare (Ordering.then_eq_eq.mp same).2)

theorem distinct_rejections (distinct : (nodes.map (·.nodeId)).Nodup) :
    Distinct compareRejections (rejections policy nodes nowMs) := by
  rw [Distinct, rejections, List.pairwise_filterMap]
  refine (List.pairwise_map.mp distinct).imp ?_
  intro left right differ first isFirst second isSecond same
  obtain ⟨_, _, rfl⟩ := Option.map_eq_some_iff.mp isFirst
  obtain ⟨_, _, rfl⟩ := Option.map_eq_some_iff.mp isSecond
  exact differ (nodeId_of_compare (Ordering.then_eq_eq.mp same).1)

/-! ### The decision -/

/-- The candidates in the order of their rank. -/
def ranking (policy : RelaySelectionPolicy) (nodes : List RelayNodeSnapshot) (nowMs : Nat) :
    List RelaySelectedCandidate :=
  sortBy compareCandidates (candidates policy nodes nowMs)

theorem mem_ranking :
    choice ∈ ranking policy nodes nowMs ↔
      ∃ node ∈ nodes, Eligible policy nowMs node ∧ choice = candidate policy node :=
  mem_sortBy.trans mem_candidates

theorem pairwise_ranking (distinct : (nodes.map (·.nodeId)).Nodup) :
    (ranking policy nodes nowMs).Pairwise Outranks :=
  (pairwise_sortBy (distinct_candidates distinct)).imp before_iff_outranks.mp

variable {ranked : List RelaySelectedCandidate} {decision : RelaySelectionDecision}
  {listed : List RelayRejection}

/-- The choices are the first representatives of the domains. -/
theorem choose_ok (chosen : choose policy listed ranked = .ok decision) :
    decision.rejections = listed ∧
      decision.selected = (firstOfEach (·.failureDomain) [] ranked).take (policy.maxBackups + 1) ∧
      ∃ rest, ranked = decision.primary :: rest := by
  cases ranked with
  | nil => cases chosen
  | cons primary rest =>
    cases chosen
    exact ⟨rfl, rfl, rest, rfl⟩

theorem choose_error {failed : RelaySelectionError}
    (chosen : choose policy listed ranked = .error failed) :
    failed.rejections = listed ∧ ranked = [] := by
  cases ranked with
  | nil =>
    cases chosen
    exact ⟨rfl, rfl⟩
  | cons primary rest => cases chosen

/-- An eligible node has an endpoint that clients may use. -/
theorem endpoints_candidate {node : RelayNodeSnapshot} (eligible : Eligible policy nowMs node) :
    (candidate policy node).endpoints ≠ [] ∧
      ∀ endpoint ∈ (candidate policy node).endpoints, endpoint.transport ∈ policy.acceptedTransports := by
  have compatible : hasCompatibleTransport policy node := by
    by_contra incompatible
    unfold Eligible rejectionReason at eligible
    split at eligible
    · cases eligible
    split at eligible
    · cases eligible
    · cases eligible
  obtain ⟨endpoint, member, accepted⟩ := List.any_eq_true.mp compatible
  refine ⟨List.ne_nil_of_mem (List.mem_filter.mpr ⟨member, accepted⟩), fun endpoint member => ?_⟩
  exact List.contains_iff_mem.mp (List.mem_filter.mp member).2

/-- **A decision follows the law.** -/
theorem selectRelays_ok (distinct : (nodes.map (·.nodeId)).Nodup)
    (ok : selectRelays policy nodes nowMs = .ok decision) :
    SelectionLaw policy nodes nowMs decision := by
  obtain ⟨listed, taken, rest, first⟩ := choose_ok ok
  have ranked : (ranking policy nodes nowMs).Pairwise Outranks := pairwise_ranking distinct
  have first : ranking policy nodes nowMs = decision.primary :: rest := first
  have taken : decision.selected = (firstOfEach (·.failureDomain) []
    (ranking policy nodes nowMs)).take (policy.maxBackups + 1) := taken
  have part : decision.selected.Sublist (firstOfEach (·.failureDomain) [] (ranking policy nodes nowMs)) :=
    taken ▸ List.take_sublist _ _
  have short : decision.selected.length ≤ policy.maxBackups + 1 := by
    simp [taken]
  have chosen : ∀ choice ∈ decision.selected, ∃ node ∈ nodes, Eligible policy nowMs node ∧
      choice = candidate policy node := by
    intro choice member
    exact mem_ranking.mp ((firstOfEach_sublist _ _ _).subset (part.subset member))
  refine
    { explained := fun rejection => by rw [listed, mem_sortBy, mem_rejections]
      chosen := chosen
      best := fun node member eligible => ?_
      limit := Nat.le_of_succ_le_succ short
      ranked := ranked.sublist (part.trans (firstOfEach_sublist _ _ _))
      domains := (nodup_firstOfEach _ _ _).sublist (part.map _)
      representative := fun choice member node there eligible same => ?_
      leftOut := fun node member eligible missing => ?_
      reachable := fun choice member => ?_ }
  · have there := mem_ranking.mpr ⟨node, member, eligible, rfl⟩
    rw [first] at there ranked
    exact (List.mem_cons.mp there).imp Eq.symm ((List.pairwise_cons.mp ranked).1 _)
  · exact best_firstOfEach ranked (part.subset member) (mem_ranking.mpr ⟨node, there, eligible, rfl⟩)
      same
  · have there := mem_ranking.mpr ⟨node, member, eligible, rfl⟩
    rw [taken] at missing
    rcases left_out ranked there List.not_mem_nil missing with represented | ⟨full, ahead⟩
    · rw [← taken] at represented
      exact .inl represented
    · rw [← taken] at full ahead
      exact .inr ⟨Nat.succ.inj full, (List.forall_mem_cons.mp ahead).2⟩
  · obtain ⟨node, -, eligible, rfl⟩ := chosen choice member
    exact endpoints_candidate eligible

theorem selectRelays_perm (distinct : (nodes.map (·.nodeId)).Nodup) (perm : nodes.Perm other) :
    selectRelays policy other nowMs = selectRelays policy nodes nowMs := by
  have same : sortBy compareCandidates (candidates policy nodes nowMs) =
      sortBy compareCandidates (candidates policy other nowMs) :=
    sortBy_eq_of_perm (distinct_candidates distinct) ((perm.filter _).map _)
  have alike : sortBy compareRejections (rejections policy nodes nowMs) =
      sortBy compareRejections (rejections policy other nowMs) :=
    sortBy_eq_of_perm (distinct_rejections distinct) (perm.filterMap _)
  simp [selectRelays, same, alike]

/-- **The selection**, for every policy, time and list of nodes with different identifiers. -/
theorem selectRelays_law (policy : RelaySelectionPolicy) (nodes : List RelayNodeSnapshot) (nowMs : Nat)
    (distinct : (nodes.map (·.nodeId)).Nodup) :
    (∀ other, nodes.Perm other → selectRelays policy other nowMs = selectRelays policy nodes nowMs) ∧
    match selectRelays policy nodes nowMs with
    | .ok decision => SelectionLaw policy nodes nowMs decision
    | .error failed => Explained policy nodes nowMs failed.rejections ∧
        ∀ node ∈ nodes, ¬ Eligible policy nowMs node := by
  refine ⟨fun other perm => selectRelays_perm distinct perm, ?_⟩
  cases selected : selectRelays policy nodes nowMs with
  | ok decision => exact selectRelays_ok distinct selected
  | error failed =>
    obtain ⟨listed, none⟩ := choose_error selected
    refine ⟨fun rejection => by rw [listed, mem_sortBy, mem_rejections], fun node member eligible => ?_⟩
    have there : candidate policy node ∈ ranking policy nodes nowMs :=
      mem_ranking.mpr ⟨node, member, eligible, rfl⟩
    simp [ranking, none] at there

/-! ### An example -/

def sampleIdentifier : BoundedIdentifier := ⟨"a", by decide⟩

/-- Two nodes of one failure domain. -/
def sampleNode (nodeId : RelayNodeId) : RelayNodeSnapshot where
  nodeId := nodeId
  region := sampleIdentifier
  failureDomain := sampleIdentifier
  state := .ready
  leaseExpiresAtMs := 10
  endpoints := [⟨.udp, "relay", 3478⟩]
  activeAllocations := 1
  maxAllocations := 2
  currentEgressBps := 1
  maxEgressBps := 2
  recentFailureBps := 0
  measuredRttMs := some 5

def samplePolicy : RelaySelectionPolicy where
  preferredRegions := []
  acceptedTransports := [.udp]
  maxBackups := 1
  softAllocationLimitBps := 8000
  weights := ⟨100, 0, 1, 0, 0, 0, 0, 0⟩

def sampleNodes : List RelayNodeSnapshot :=
  [sampleNode ⟨"b", by decide⟩, sampleNode sampleIdentifier]

theorem sampleNodes_selected : (selectRelays samplePolicy sampleNodes 0).toOption.map
    (fun decision => (decision.primary.nodeId, decision.backups)) = some (sampleIdentifier, []) := by
  decide

theorem selectRelays_law_of_two_nodes : ∃ decision, selectRelays samplePolicy sampleNodes 0 = .ok decision ∧
    decision.primary.nodeId = sampleIdentifier ∧ decision.backups = [] ∧
      SelectionLaw samplePolicy sampleNodes 0 decision := by
  have law := (selectRelays_law samplePolicy sampleNodes 0 (by decide)).2
  have seen := sampleNodes_selected
  cases selected : selectRelays samplePolicy sampleNodes 0 with
  | ok decision =>
    rw [selected] at law seen
    obtain ⟨first, last⟩ := Prod.ext_iff.mp (Option.some.inj seen)
    exact ⟨decision, rfl, first, last, law⟩
  | error failed =>
    rw [selected] at seen
    cases seen

end MiniRemoteDesktop.Relay
