/-
**The score of a relay** (`mrd-relay-control`, `score`, `ratio_bps`, `weighted_bps`).

A score is what rewards are left after penalties. All sums and products saturate, or are computed in twice
the width and clamped.

* `score_antitone` — **a node that is worse scores no higher**.
* `scoreChecked_eq` — **no intermediate value leaves its type**.
-/

import MiniRemoteDesktop.Relay.Selection
import Mathlib.Order.MinMax

namespace MiniRemoteDesktop.Relay

open Option (bind_eq_bind bind_some)

/-! ### Saturating arithmetic is monotone -/

theorem saturatingAdd_mono {a b c d : Nat} (left : a ≤ b) (right : c ≤ d) :
    saturatingAdd a c ≤ saturatingAdd b d :=
  min_le_min (Nat.add_le_add left right) le_rfl

theorem saturatingMul_mono_left {a b : Nat} (c : Nat) (left : a ≤ b) : saturatingMul a c ≤ saturatingMul b c :=
  min_le_min (Nat.mul_le_mul_right c left) le_rfl

theorem ratioBps_mono {current other : Nat} (maximum : Nat) (more : current ≤ other) :
    ratioBps current maximum ≤ ratioBps other maximum := by
  unfold ratioBps
  split
  · exact le_rfl
  · refine min_le_min_right _ (Nat.div_le_div_right (Nat.mul_le_mul_right _ ?_))
    exact min_le_min_right _ more

theorem ratioBps_le (current maximum : Nat) : ratioBps current maximum ≤ basisPoints := by
  unfold ratioBps
  split
  · exact le_rfl
  next positive =>
    refine le_trans (min_le_left _ _) (Nat.div_le_of_le_mul ?_)
    exact Nat.mul_le_mul_right _ (min_le_right _ _)

theorem weightedBps_mono {value other : Nat} (weight : Nat) (more : value ≤ other) :
    weightedBps value weight ≤ weightedBps other weight :=
  min_le_min (Nat.div_le_div_right (Nat.mul_le_mul_right weight more)) le_rfl

/-! ### A node that is no better -/

/-- **The second node differs from the first only for the worse**: in its round trip, its allocations, its
egress, its failures or its state. -/
structure NoBetter (first second : RelayNodeSnapshot) : Prop where
  same : second = { first with
    state := second.state
    activeAllocations := second.activeAllocations
    currentEgressBps := second.currentEgressBps
    recentFailureBps := second.recentFailureBps
    measuredRttMs := second.measuredRttMs }
  state : second.state = first.state ∨ (first.state = .ready ∧ second.state = .degraded)
  allocations : first.activeAllocations ≤ second.activeAllocations
  egress : first.currentEgressBps ≤ second.currentEgressBps
  failures : first.recentFailureBps ≤ second.recentFailureBps
  rtt : second.measuredRttMs = none ∨
    ∃ rtt slower, first.measuredRttMs = some rtt ∧ second.measuredRttMs = some slower ∧ rtt ≤ slower

/-- The fields of a node fit their types. -/
structure RelayNodeSnapshot.Typed (node : RelayNodeSnapshot) : Prop where
  activeAllocations : node.activeAllocations < 2 ^ 32
  maxAllocations : node.maxAllocations < 2 ^ 32
  currentEgressBps : node.currentEgressBps < 2 ^ 64
  maxEgressBps : node.maxEgressBps < 2 ^ 64
  recentFailureBps : node.recentFailureBps < 2 ^ 16
  measuredRttMs : ∀ rtt ∈ node.measuredRttMs, rtt < 2 ^ 32

variable {second first : RelayNodeSnapshot}

theorem rtt_le_of_noBetter (typed : first.Typed) (worse : NoBetter first second) :
    first.measuredRttMs.getD unknownRttMs ≤ second.measuredRttMs.getD unknownRttMs := by
  rcases worse.rtt with unknown | ⟨rtt, slower, known, other, below⟩
  · rw [unknown]
    cases measured : first.measuredRttMs with
    | none => exact le_rfl
    | some rtt => exact Nat.le_sub_one_of_lt (typed.measuredRttMs rtt measured)
  · simp [known, other, below]

theorem penalty_mono {low high extra : Nat} {P Q : Prop} [Decidable P] [Decidable Q] (small : low ≤ u64Max)
    (below : low ≤ high) (implied : P → Q) :
    (if P then saturatingAdd low extra else low) ≤ if Q then saturatingAdd high extra else high := by
  by_cases holds : P
  · simpa [holds, implied holds] using saturatingAdd_mono below le_rfl
  · rw [if_neg holds]
    by_cases other : Q
    · rw [if_pos other]
      exact le_min (le_trans below (Nat.le_add_right _ _)) small
    · simp [other, below]

theorem penalty_le {low extra : Nat} {P : Prop} [Decidable P] (small : low ≤ u64Max) :
    (if P then saturatingAdd low extra else low) ≤ u64Max := by
  split
  · exact min_le_right _ _
  · exact small

variable (a : Nat) (policy : RelaySelectionPolicy) (b : Nat)

/-- **A node that is no better scores no higher.** -/
theorem score_antitone (typed : first.Typed) (worse : NoBetter first second) :
    score policy second ≤ score policy first := by
  have allocations : ratioBps first.activeAllocations first.maxAllocations ≤
      ratioBps second.activeAllocations second.maxAllocations := by
    rw [worse.same]
    exact ratioBps_mono _ worse.allocations
  have bandwidth : ratioBps first.currentEgressBps first.maxEgressBps ≤
      ratioBps second.currentEgressBps second.maxEgressBps := by
    rw [worse.same]
    exact ratioBps_mono _ worse.egress
  have region : second.region = first.region := by rw [worse.same]
  unfold score
  refine Nat.le_trans (Nat.sub_le_sub_right ?_ _) (Nat.sub_le_sub_left ?_ _)
  · rw [region]
    exact saturatingAdd_mono le_rfl (weightedBps_mono _ (Nat.sub_le_sub_left bandwidth _))
  · refine penalty_mono (penalty_le (min_le_right _ _)) (penalty_mono (min_le_right _ _) ?_ ?_) ?_
    · refine saturatingAdd_mono (saturatingAdd_mono ?_ (weightedBps_mono _ allocations)) ?_
      · exact saturatingMul_mono_left _ (rtt_le_of_noBetter typed worse)
      · exact weightedBps_mono _ (min_le_min worse.failures le_rfl)
    · exact fun limit => le_trans limit allocations
    · intro degraded
      rcases worse.state with same | ⟨ready, _⟩
      · exact same.trans degraded
      · cases ready.symm.trans degraded

/-! ### No intermediate value overflows -/

/-- The weights fit their type. -/
structure RelayScoreWeights.Typed (weights : RelayScoreWeights) : Prop where
  baseScore : weights.baseScore < 2 ^ 64
  regionPreference : weights.regionPreference < 2 ^ 64
  rttPenaltyPerMs : weights.rttPenaltyPerMs < 2 ^ 64
  allocationUtilizationPenalty : weights.allocationUtilizationPenalty < 2 ^ 64
  bandwidthHeadroomReward : weights.bandwidthHeadroomReward < 2 ^ 64
  recentFailurePenalty : weights.recentFailurePenalty < 2 ^ 64
  softFullPenalty : weights.softFullPenalty < 2 ^ 64
  degradedPenalty : weights.degradedPenalty < 2 ^ 64

/-- A value of an unsigned type of so many bits, or an overflow. -/
def fitting (bits value : Nat) : Option Nat := if value < 2 ^ bits then some value else none

theorem fitting_eq {bits value : Nat} (small : value < 2 ^ bits) : fitting bits value = some value :=
  if_pos small

/-- `ratio_bps`, with its types. -/
def ratioBpsChecked (current maximum : Nat) : Option Nat :=
  if maximum = 0 then some basisPoints
  else do
    let scaled ← fitting 128 (min current maximum * basisPoints)
    let quotient ← fitting 128 (scaled / maximum)
    fitting 64 (clampU128ToU64 quotient)

/-- `weighted_bps`, with its types. -/
def weightedBpsChecked (valueBps weight : Nat) : Option Nat := do
  let product ← fitting 128 (valueBps * weight)
  let weighted ← fitting 128 (product / basisPoints)
  fitting 64 (clampU128ToU64 weighted)

/-- **`score`, with the types of its intermediate values.** -/
def scoreChecked (policy : RelaySelectionPolicy) (node : RelayNodeSnapshot) : Option Nat := do
  let allocationUtilizationBps ← ratioBpsChecked node.activeAllocations node.maxAllocations
  let bandwidthUtilizationBps ← ratioBpsChecked node.currentEgressBps node.maxEgressBps
  let bandwidthHeadroomBps ← fitting 64 (basisPoints - bandwidthUtilizationBps)
  let region ← fitting 64 (regionReward policy node.region)
  let based ← fitting 64 (saturatingAdd policy.weights.baseScore region)
  let headroom ← weightedBpsChecked bandwidthHeadroomBps policy.weights.bandwidthHeadroomReward
  let rewards ← fitting 64 (saturatingAdd based headroom)
  let slow ← fitting 64
    (saturatingMul (node.measuredRttMs.getD unknownRttMs) policy.weights.rttPenaltyPerMs)
  let busy ← weightedBpsChecked allocationUtilizationBps policy.weights.allocationUtilizationPenalty
  let slowAndBusy ← fitting 64 (saturatingAdd slow busy)
  let failing ← weightedBpsChecked (min node.recentFailureBps basisPoints)
    policy.weights.recentFailurePenalty
  let penalties ← fitting 64 (saturatingAdd slowAndBusy failing)
  let penalties ← fitting 64 (if policy.softAllocationLimitBps ≤ allocationUtilizationBps then
    saturatingAdd penalties policy.weights.softFullPenalty else penalties)
  let penalties ← fitting 64 (if node.state = .degraded then
    saturatingAdd penalties policy.weights.degradedPenalty else penalties)
  fitting 64 (rewards - penalties)

theorem clamp_lt (value : Nat) : clampU128ToU64 value < 2 ^ 64 :=
  Nat.lt_of_le_of_lt (min_le_right _ _) (by decide)

theorem saturatingAdd_lt : saturatingAdd a b < 2 ^ 64 :=
  Nat.lt_of_le_of_lt (min_le_right _ _) (by decide)

theorem saturatingMul_lt : saturatingMul a b < 2 ^ 64 :=
  Nat.lt_of_le_of_lt (min_le_right _ _) (by decide)

theorem regionReward_lt (region : RegionId) :
    regionReward policy region < 2 ^ 64 := by
  unfold regionReward
  split
  · exact saturatingMul_lt _ _
  · decide

theorem ratioBpsChecked_eq {current maximum : Nat} (small : maximum < 2 ^ 64) :
    ratioBpsChecked current maximum = some (ratioBps current maximum) := by
  unfold ratioBpsChecked ratioBps
  split
  · rfl
  · have product : min current maximum * basisPoints < 2 ^ 128 :=
      calc min current maximum * basisPoints ≤ maximum * basisPoints :=
            Nat.mul_le_mul_right _ (min_le_right _ _)
        _ < 2 ^ 64 * basisPoints := Nat.mul_lt_mul_of_pos_right small (by decide)
        _ ≤ 2 ^ 128 := by decide
    rw [fitting_eq product, bind_eq_bind, bind_some,
      fitting_eq (Nat.lt_of_le_of_lt (Nat.div_le_self _ _) product),
      bind_some, fitting_eq (clamp_lt _)]

theorem weightedBpsChecked_eq {valueBps weight : Nat} (short : valueBps < 2 ^ 64)
    (small : weight < 2 ^ 64) : weightedBpsChecked valueBps weight = some (weightedBps valueBps weight) := by
  have product : valueBps * weight < 2 ^ 128 :=
    calc valueBps * weight ≤ valueBps * 2 ^ 64 := Nat.mul_le_mul_left _ (Nat.le_of_lt small)
      _ < 2 ^ 64 * 2 ^ 64 := Nat.mul_lt_mul_of_pos_right short (by decide)
      _ ≤ 2 ^ 128 := by decide
  unfold weightedBpsChecked weightedBps
  rw [fitting_eq product, bind_eq_bind, bind_some,
    fitting_eq (Nat.lt_of_le_of_lt (Nat.div_le_self _ _) product),
    bind_some, fitting_eq (clamp_lt _)]

theorem scoreChecked_eq {policy : RelaySelectionPolicy} {node : RelayNodeSnapshot}
    (weights : policy.weights.Typed) (typed : node.Typed) :
    scoreChecked policy node = some (score policy node) := by
  have wide : node.maxAllocations < 2 ^ 64 := Nat.lt_trans typed.maxAllocations (by decide)
  have few : ∀ {value : Nat}, value ≤ basisPoints → value < 2 ^ 64 :=
    fun below => Nat.lt_of_le_of_lt below (by decide)
  have headroom : basisPoints - ratioBps node.currentEgressBps node.maxEgressBps < 2 ^ 64 :=
    few (Nat.sub_le _ _)
  have penalties : ∀ {P : Prop} [Decidable P] {low extra : Nat}, low < 2 ^ 64 →
      (if P then saturatingAdd low extra else low) < 2 ^ 64 := by
    intro P _ low extra small
    split
    · exact saturatingAdd_lt _ _
    · exact small
  have total : score policy node < 2 ^ 64 :=
    Nat.lt_of_le_of_lt (Nat.sub_le _ _) (saturatingAdd_lt _ _)
  unfold scoreChecked
  simp only [ratioBpsChecked_eq wide, ratioBpsChecked_eq typed.maxEgressBps, bind_eq_bind,
    bind_some, fitting_eq headroom, fitting_eq (regionReward_lt _ _),
    fitting_eq (saturatingAdd_lt _ _), fitting_eq (saturatingMul_lt _ _),
    weightedBpsChecked_eq headroom weights.bandwidthHeadroomReward,
    weightedBpsChecked_eq (few (ratioBps_le _ _)) weights.allocationUtilizationPenalty,
    weightedBpsChecked_eq (few (min_le_right _ _)) weights.recentFailurePenalty,
    fitting_eq (penalties (saturatingAdd_lt _ _)), fitting_eq (penalties (penalties (saturatingAdd_lt _ _)))]
  exact fitting_eq total

/-- **A score is monotone and cannot overflow.** For every policy: a node that differs from another only for
the worse scores no higher; every intermediate value of a score fits its type; and a ratio is at most the
whole. -/
theorem score_monotone {policy : RelaySelectionPolicy} (weights : policy.weights.Typed) :
    (∀ first second : RelayNodeSnapshot, first.Typed → NoBetter first second →
      score policy second ≤ score policy first) ∧
    (∀ node : RelayNodeSnapshot, node.Typed → scoreChecked policy node = some (score policy node)) ∧
    (∀ current maximum, maximum < 2 ^ 64 →
      ratioBpsChecked current maximum = some (ratioBps current maximum) ∧
        ratioBps current maximum ≤ basisPoints) ∧
    ∀ valueBps weight, valueBps < 2 ^ 64 → weight < 2 ^ 64 →
      weightedBpsChecked valueBps weight = some (weightedBps valueBps weight) :=
  ⟨fun _ _ typed worse => score_antitone policy typed worse,
    fun _ typed => scoreChecked_eq weights typed,
    fun current maximum small => ⟨ratioBpsChecked_eq small, ratioBps_le current maximum⟩,
    fun _ _ short small => weightedBpsChecked_eq short small⟩

/-- The highest weights. -/
def heavyPolicy : RelaySelectionPolicy := { samplePolicy with
  weights := ⟨u64Max, u64Max, u64Max, u64Max, u64Max, u64Max, u64Max, u64Max⟩ }

/-- The sample node, slower and busier. -/
def worseNode : RelayNodeSnapshot := { sampleNode sampleIdentifier with
  state := .degraded
  activeAllocations := 2
  measuredRttMs := none }

theorem score_monotone_heavy :
    score heavyPolicy worseNode ≤ score heavyPolicy (sampleNode sampleIdentifier) ∧
      scoreChecked heavyPolicy (sampleNode sampleIdentifier) =
        some (score heavyPolicy (sampleNode sampleIdentifier)) := by
  have typed : (sampleNode sampleIdentifier).Typed := by
    refine ⟨by decide, by decide, by decide, by decide, by decide, ?_⟩
    intro rtt measured
    cases Option.some.inj (Option.mem_def.mp measured)
    decide
  have weights : heavyPolicy.weights.Typed := by
    constructor <;> decide
  have worse : NoBetter (sampleNode sampleIdentifier) worseNode :=
    ⟨rfl, .inr ⟨rfl, rfl⟩, by decide, by decide, by decide, .inl rfl⟩
  exact ⟨(score_monotone weights).1 _ _ typed worse, (score_monotone weights).2.1 _ typed⟩

end MiniRemoteDesktop.Relay
