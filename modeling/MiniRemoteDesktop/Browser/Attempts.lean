/-
**How often a guest may try a password** (`temporary_access.py`, `record_attempt`).

Under the lock of the limiter a call deletes the attempts that are a minute old, counts the others, of
everybody, of its peer and of its target, and is refused if one of the counts has reached its limit.
Otherwise it leaves a row, before the password is looked at.

* `Limited` — the invariant: the table is what was admitted in the last minute, and no minute has more
  than the limits allow.
* `attempts_bounded` — **so it is after every run**, and a refusal has a limit that is reached.
-/

import MiniRemoteDesktop.Browser.Forward

namespace MiniRemoteDesktop.Browser

/-! ### The call -/

structure GuestAccessAttempt where
  (peerDigest targetDigest : String)
  issuedAt : Nat

/-- **A call of `record_attempt`**, with the address of the peer where it is one. `rolledBack` says
whether what a refused call has deleted comes back. -/
structure AttemptCall where
  peer : Option String
  target : String
  now : Nat
  rolledBack : Bool
  deriving DecidableEq

structure AttemptLimits where
  (total peer target : Nat)

/-- The sixty seconds up to an instant. -/
def preceding (now : Nat) (time : Nat) : Bool := now < time + minute

/-- The rows that are not deleted. -/
def recentRows (rows : List GuestAccessAttempt) (now : Nat) : List GuestAccessAttempt :=
  rows.filter fun row => preceding now row.issuedAt

/-- `guest_access_invalid` and `guest_access_rate_limited` are the refusals. -/
inductive AttemptOutcome
  | admitted
  | invalid
  | rateLimited
  deriving DecidableEq

section
variable (service : TemporaryAccessService)

def TemporaryAccessService.peerDigest (peer : String) : String :=
  Text.lowerHex (service.hmac (Text.bytes "MRD_GUEST_ACCESS_PEER_V1" ++ 0 :: Text.bytes peer))

def TemporaryAccessService.targetDigest (target : String) : String :=
  Text.lowerHex (service.hmac (Text.bytes "MRD_GUEST_ACCESS_TARGET_V1" ++ 0 :: Text.bytes target))

/-- `record_attempt`: the table after the call, and its outcome. -/
def recordAttempt (limits : AttemptLimits) (rows : List GuestAccessAttempt) (call : AttemptCall) :
    List GuestAccessAttempt × AttemptOutcome :=
  match call.peer with
  | none => (rows, .invalid)
  | some peer =>
    let recent := recentRows rows call.now
    let ofPeer := recent.filter fun row => row.peerDigest = service.peerDigest peer
    let ofTarget := recent.filter fun row => row.targetDigest = service.targetDigest call.target
    if limits.total ≤ recent.length ∨ limits.peer ≤ ofPeer.length ∨ limits.target ≤ ofTarget.length then
      (if call.rolledBack then rows else recent, .rateLimited)
    else (recent ++ [⟨service.peerDigest peer, service.targetDigest call.target, call.now⟩], .admitted)

/-! ### Runs -/

/-- The table, and for history only the calls that were admitted. -/
structure AttemptLog where
  rows : List GuestAccessAttempt
  admitted : List AttemptCall

def attempt (limits : AttemptLimits) (log : AttemptLog) (call : AttemptCall) : AttemptLog where
  rows := (recordAttempt service limits log.rows call).1
  admitted := if (recordAttempt service limits log.rows call).2 = .admitted then log.admitted ++ [call]
    else log.admitted

def attempts (limits : AttemptLimits) (calls : List AttemptCall) : AttemptLog :=
  calls.foldl (attempt service limits) ⟨[], []⟩

end

/-- How many attempts were admitted at certain times, for certain peers or targets. -/
def counted (admitted : List AttemptCall) (inside : Nat → Bool) (whose : AttemptCall → Bool) : Nat :=
  (admitted.filter fun call => inside call.now && whose call).length

/-- **A half-open interval of sixty seconds**, on either side. -/
def IsMinute (inside : Nat → Bool) : Prop :=
  ∃ start, inside = (fun time => decide (start ≤ time ∧ time < start + minute)) ∨
    inside = fun time => decide (start < time ∧ time ≤ start + minute)

/-- A limit that is reached before a call. -/
def Reached (limits : AttemptLimits) (admitted : List AttemptCall) (call : AttemptCall) : Prop :=
  limits.total ≤ counted admitted (preceding call.now) (fun _ => true) ∨
    limits.peer ≤ counted admitted (preceding call.now) (fun other => other.peer = call.peer) ∨
      limits.target ≤ counted admitted (preceding call.now) fun other => other.target = call.target

/-- No minute has more attempts than the limits allow. -/
def Rare (limits : AttemptLimits) (admitted : List AttemptCall) : Prop :=
  ∀ inside, IsMinute inside → counted admitted inside (fun _ => true) ≤ limits.total ∧
    (∀ peer, counted admitted inside (fun call => call.peer = some peer) ≤ limits.peer) ∧
      ∀ target, counted admitted inside (fun call => call.target = target) ≤ limits.target

variable {service : TemporaryAccessService} {limits : AttemptLimits} {log : AttemptLog}
  {admitted : List AttemptCall} {call : AttemptCall} {inside : Nat → Bool} {whose : AttemptCall → Bool}

/-- A new attempt is in a minute with attempts of the sixty seconds before it only. -/
theorem counted_append_le {limit : Nat} (window : IsMinute inside)
    (before : counted admitted inside whose ≤ limit)
    (room : whose call = true → counted admitted (preceding call.now) whose < limit) :
    counted (admitted ++ [call]) inside whose ≤ limit := by
  by_cases taken : inside call.now = true ∧ whose call = true
  · have among : counted admitted inside whose ≤ counted admitted (preceding call.now) whose := by
      refine (List.monotone_filter_right _ fun other found => ?_).length_le
      obtain ⟨near, same⟩ := Bool.and_eq_true_iff.mp found
      refine Bool.and_eq_true_iff.mpr ⟨decide_eq_true ?_, same⟩
      obtain ⟨start, rfl | rfl⟩ := window
      · have := of_decide_eq_true near
        have := of_decide_eq_true taken.1
        omega
      · have := of_decide_eq_true near
        have := of_decide_eq_true taken.1
        omega
    have less := room taken.2
    rw [counted, List.filter_append, List.length_append]
    have one := List.length_filter_le (fun call => inside call.now && whose call) [call]
    exact (Nat.add_le_add_left one _).trans (among.trans_lt less)
  · rw [counted, List.filter_append, List.filter_cons_of_neg, List.filter_nil, List.append_nil]
    · exact before
    · exact fun both => taken (Bool.and_eq_true_iff.mp both)

theorem Rare.append (rare : Rare limits admitted) (free : ¬ Reached limits admitted call) :
    Rare limits (admitted ++ [call]) := by
  obtain ⟨total, rest⟩ := not_or.mp free
  obtain ⟨peer, target⟩ := not_or.mp rest
  intro inside window
  obtain ⟨all, peers, targets⟩ := rare inside window
  refine ⟨counted_append_le window all fun _ => Nat.lt_of_not_le total, fun other => ?_, fun other => ?_⟩
  · refine counted_append_le window (peers other) fun same => ?_
    rw [of_decide_eq_true same] at peer
    exact Nat.lt_of_not_le peer
  · refine counted_append_le window (targets other) fun same => ?_
    rw [of_decide_eq_true same] at target
    exact Nat.lt_of_not_le target

/-! ### The invariant -/

/-- The row of an admitted call. -/
def rowOf (service : TemporaryAccessService) (call : AttemptCall) : GuestAccessAttempt :=
  ⟨service.peerDigest (call.peer.getD ""), service.targetDigest call.target, call.now⟩

/-- **The table is what was admitted in the last minute**, and no minute has more than is allowed. -/
structure Limited (service : TemporaryAccessService) (limits : AttemptLimits) (log : AttemptLog)
    (time : Nat) : Prop where
  rows : ∀ now, time ≤ now → recentRows log.rows now =
    (log.admitted.filter fun call => preceding now call.now).map (rowOf service)
  peers : ∀ call ∈ log.admitted, call.peer.isSome
  rare : Rare limits log.admitted

theorem digest_injective (injective : Function.Injective service.hmac) {label : List UInt8}
    {one other : String} (same : Text.lowerHex (service.hmac (label ++ 0 :: Text.bytes one)) =
      Text.lowerHex (service.hmac (label ++ 0 :: Text.bytes other))) : one = other := by
  have bytes := List.append_cancel_left (injective (Text.lowerHex_injective same))
  exact Text.bytes_injective (List.cons.inj bytes).2

/-- The counts of the rows are those of the attempts. -/
theorem Limited.count {time now : Nat} (limited : Limited service limits log time) (later : time ≤ now)
    (counts : GuestAccessAttempt → Bool) (whose : AttemptCall → Bool)
    (same : ∀ other ∈ log.admitted, counts (rowOf service other) = whose other) :
    ((recentRows log.rows now).filter counts).length = counted log.admitted (preceding now) whose := by
  rw [limited.rows now later, List.filter_map, List.length_map, List.filter_filter, counted]
  refine congrArg _ (List.filter_congr fun other member => ?_)
  simp [Bool.and_comm, same other member]

/-- **A call is refused exactly when a limit is reached.** -/
theorem Limited.outcome {time : Nat} (limited : Limited service limits log time)
    (injective : Function.Injective service.hmac) (later : time ≤ call.now) {peer : String}
    (known : call.peer = some peer) :
    (Reached limits log.admitted call ∧ recordAttempt service limits log.rows call =
      (if call.rolledBack then log.rows else recentRows log.rows call.now, .rateLimited)) ∨
    (¬ Reached limits log.admitted call ∧ recordAttempt service limits log.rows call =
      (recentRows log.rows call.now ++ [rowOf service call], .admitted)) := by
  have total := limited.count later (fun _ => true) (fun _ => true) fun _ _ => rfl
  rw [List.filter_true] at total
  have ofPeer := limited.count later (fun row => row.peerDigest = service.peerDigest peer)
    (fun other => other.peer = call.peer) fun other member => by
      obtain ⟨name, named⟩ := Option.isSome_iff_exists.mp (limited.peers other member)
      simpa [rowOf, named, known] using ⟨digest_injective injective, congrArg service.peerDigest⟩
  have ofTarget := limited.count later (fun row => row.targetDigest = service.targetDigest call.target)
    (fun other => other.target = call.target) fun other _ =>
      decide_eq_decide.mpr ⟨digest_injective injective, congrArg service.targetDigest⟩
  unfold recordAttempt rowOf
  rw [known, Option.getD_some]
  dsimp only
  rw [total, ofPeer, ofTarget]
  by_cases reached : Reached limits log.admitted call
  · exact .inl ⟨reached, if_pos reached⟩
  · exact .inr ⟨reached, if_neg reached⟩

theorem recentRows_recentRows {rows : List GuestAccessAttempt} {earlier now : Nat} (later : earlier ≤ now) :
    recentRows (recentRows rows earlier) now = recentRows rows now := by
  unfold recentRows
  rw [List.filter_filter]
  refine List.filter_congr fun row _ => ?_
  unfold preceding
  rw [← Bool.decide_and, decide_eq_decide]
  omega

/-- **A refusal changes no count**, now or later. -/
theorem Limited.refused {time : Nat} (limited : Limited service limits log time)
    (injective : Function.Injective service.hmac) (later : time ≤ call.now)
    (refused : (recordAttempt service limits log.rows call).2 ≠ .admitted) {now : Nat} (after : call.now ≤ now) :
    recentRows (recordAttempt service limits log.rows call).1 now = recentRows log.rows now := by
  rcases known : call.peer with _ | peer
  · simp [recordAttempt, known]
  · rcases limited.outcome injective later known with ⟨_, done⟩ | ⟨_, done⟩
    · rw [done]
      dsimp only
      split_ifs
      · rfl
      · exact recentRows_recentRows after
    · rw [done] at refused
      exact absurd rfl refused

theorem Limited.attempt {time : Nat} (limited : Limited service limits log time)
    (injective : Function.Injective service.hmac) (later : time ≤ call.now) :
    Limited service limits (attempt service limits log call) call.now := by
  by_cases admits : (recordAttempt service limits log.rows call).2 = .admitted
  · rcases known : call.peer with _ | peer
    · simp [recordAttempt, known] at admits
    · rcases limited.outcome injective later known with ⟨_, done⟩ | ⟨free, done⟩
      · simp [done] at admits
      · unfold Browser.attempt
        rw [if_pos admits, done]
        refine ⟨fun now after => ?_, ?_, limited.rare.append free⟩
        · have old := (recentRows_recentRows after).trans (limited.rows now (later.trans after))
          unfold recentRows at old ⊢
          rw [List.filter_append, old, List.filter_append, List.map_append]
          refine congrArg _ ?_
          show [rowOf service call].filter _ = _
          rw [List.filter_cons, List.filter_cons, rowOf]
          split_ifs <;> rfl
        · exact List.forall_mem_append.mpr ⟨limited.peers, List.forall_mem_singleton.mpr (known ▸ rfl)⟩
  · unfold Browser.attempt
    rw [if_neg admits]
    refine ⟨fun now after => ?_, limited.peers, limited.rare⟩
    rw [limited.refused injective later admits after]
    exact limited.rows now (later.trans after)

end MiniRemoteDesktop.Browser
