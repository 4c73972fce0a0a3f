/-
**The buffer pool of `mrd-buffer-pool`, and what it conserves.**

The pool hands out zeroed buffers of `buffer_size` bytes, at most `max_buffers` of which it counts as
its own; what it hands out beyond them it only counts as temporary.

* `acquire`, `release`, `acquireAtLeast`, `shrink`, `clear` — the operations of `BufferPool`.
* `Ledger` — **the books of the pool**: what it keeps and what its callers hold of the pooled size,
  against what it has allocated and what it counts as temporary. They differ by the number of
  oversized buffers ever handed out, because `release` never takes such a buffer off the temporary
  count.
-/

import Mathlib.Data.List.Count
import MiniRemoteDesktop.Lib.Execution

namespace MiniRemoteDesktop.Buffer

open Execution

/-! ### The pool -/

structure BufferPoolConfig where
  (minBuffers maxBuffers bufferSize : Nat)
  deriving DecidableEq

structure BufferPool where
  config : BufferPoolConfig
  /-- The deque of idle buffers, its front first. -/
  available : List (List UInt8)
  (acquiredCount totalAllocated temporaryCount : Nat)
  deriving DecidableEq

/-- `vec![0u8; size]`. -/
def zeros (size : Nat) : List UInt8 := List.replicate size 0

namespace BufferPool

def new (config : BufferPoolConfig) : BufferPool where
  config := config
  available := List.replicate config.minBuffers (zeros config.bufferSize)
  acquiredCount := 0
  totalAllocated := config.minBuffers
  temporaryCount := 0

/-- A buffer of `buffer_size` zero bytes. -/
def acquire (pool : BufferPool) : List UInt8 × BufferPool :=
  let pool := { pool with acquiredCount := pool.acquiredCount + 1 }
  match pool.available with
  -- A reused buffer is cleared and resized, which leaves nothing of its old contents.
  | _ :: rest => (zeros pool.config.bufferSize, { pool with available := rest })
  | [] =>
    if pool.totalAllocated < pool.config.maxBuffers then
      (zeros pool.config.bufferSize, { pool with totalAllocated := pool.totalAllocated + 1 })
    else
      (zeros pool.config.bufferSize, { pool with temporaryCount := pool.temporaryCount + 1 })

/-- The guess of `release` whether a buffer is a temporary one. -/
def isTemporary (pool : BufferPool) (buffer : List UInt8) : Prop :=
  buffer.length ≤ pool.config.bufferSize ∧ 0 < pool.temporaryCount ∧
    pool.config.maxBuffers ≤ pool.available.length + pool.totalAllocated

instance (pool : BufferPool) (buffer : List UInt8) : Decidable (pool.isTemporary buffer) :=
  inferInstanceAs (Decidable (_ ∧ _ ∧ _))

/-- Take a buffer back, or let it go. -/
def release (pool : BufferPool) (buffer : List UInt8) : BufferPool :=
  let pool := { pool with acquiredCount := pool.acquiredCount - 1 }
  if pool.isTemporary buffer then
    { pool with temporaryCount := pool.temporaryCount - 1 }
  else if buffer.length ≤ pool.config.bufferSize ∧ pool.available.length < pool.totalAllocated then
    { pool with available := pool.available ++ [buffer] }
  else pool

/-- A buffer of `min_size` bytes; a larger one than usual is temporary. -/
def acquireAtLeast (pool : BufferPool) (minSize : Nat) : List UInt8 × BufferPool :=
  if minSize ≤ pool.config.bufferSize then pool.acquire
  else
    (zeros minSize, { pool with
        acquiredCount := pool.acquiredCount + 1
        temporaryCount := pool.temporaryCount + 1 })

/-- Drop idle buffers from the back of the deque while there are more than `min_buffers`. -/
def shrink (pool : BufferPool) : BufferPool :=
  if pool.config.minBuffers < pool.available.length then
    shrink { pool with
        available := pool.available.dropLast
        totalAllocated := pool.totalAllocated - 1 }
  else pool
termination_by pool.available.length
decreasing_by
  rw [List.length_dropLast]
  omega

/-- Forget every buffer. -/
def clear (pool : BufferPool) : BufferPool :=
  { pool with available := [], totalAllocated := 0 }

end BufferPool

/-! ### The pool and its callers -/

/-- The calls of a pool. -/
inductive Operation
  | acquire
  | acquireAtLeast (minSize : Nat)
  | release (buffer : List UInt8)
  | shrink
  | clear

/-- The pool, and the lengths of the buffers that were handed out and not yet returned. -/
structure Holding where
  pool : BufferPool
  outstanding : List Nat
  deriving DecidableEq

/-- A new pool, of which nothing is handed out. -/
def start (config : BufferPoolConfig) : Holding := ⟨.new config, []⟩

/-- The caller that got `handed` holds it from now on. -/
def Holding.take (held : Holding) (handed : List UInt8 × BufferPool) : Holding :=
  ⟨handed.2, handed.1.length :: held.outstanding⟩

/-- One call. A buffer comes back with the length it was handed out with, whatever its contents. -/
def step (held : Holding) : Operation → Option Holding
  | .acquire => some (held.take held.pool.acquire)
  | .acquireAtLeast minSize => some (held.take (held.pool.acquireAtLeast minSize))
  | .release buffer =>
    if buffer.length ∈ held.outstanding then
      some ⟨held.pool.release buffer, held.outstanding.erase buffer.length⟩
    else none
  | .shrink => some { held with pool := held.pool.shrink }
  | .clear => some { held with pool := held.pool.clear }

/-- A request for more bytes than a pooled buffer has. -/
def Operation.oversized (config : BufferPoolConfig) : Operation → Bool
  | .acquireAtLeast minSize => config.bufferSize < minSize
  | _ => false

/-- The calls that hand buffers out and take them back. -/
def Operation.exchanges : Operation → Bool
  | .acquire | .acquireAtLeast _ | .release _ => true
  | .shrink | .clear => false

/-! ### What one call does to the counters -/

namespace BufferPool

@[simp] theorem length_zeros (size : Nat) : (zeros size).length = size := List.length_replicate

theorem acquire_cases (pool : BufferPool) :
    pool.acquire.1 = zeros pool.config.bufferSize ∧
    pool.acquire.2.config = pool.config ∧
    pool.acquire.2.acquiredCount = pool.acquiredCount + 1 ∧
    ((pool.available.length = pool.acquire.2.available.length + 1 ∧
        pool.acquire.2.totalAllocated = pool.totalAllocated ∧
        pool.acquire.2.temporaryCount = pool.temporaryCount) ∨
      (pool.available.length = 0 ∧ pool.acquire.2.available.length = 0 ∧
        pool.totalAllocated < pool.config.maxBuffers ∧
        pool.acquire.2.totalAllocated = pool.totalAllocated + 1 ∧
        pool.acquire.2.temporaryCount = pool.temporaryCount) ∨
      (pool.available.length = 0 ∧ pool.acquire.2.available.length = 0 ∧
        pool.config.maxBuffers ≤ pool.totalAllocated ∧
        pool.acquire.2.totalAllocated = pool.totalAllocated ∧
        pool.acquire.2.temporaryCount = pool.temporaryCount + 1)) := by
  unfold acquire
  cases idle : pool.available with
  | cons first rest => simp
  | nil =>
    by_cases room : pool.totalAllocated < pool.config.maxBuffers
    · simp [room]
    · simp [room, Nat.le_of_not_lt room]

theorem release_cases (pool : BufferPool) (buffer : List UInt8) :
    (pool.release buffer).config = pool.config ∧
    (pool.release buffer).acquiredCount = pool.acquiredCount - 1 ∧
    (pool.release buffer).totalAllocated = pool.totalAllocated ∧
    ((pool.isTemporary buffer ∧ (pool.release buffer).available = pool.available ∧
        (pool.release buffer).temporaryCount = pool.temporaryCount - 1) ∨
      (¬ pool.isTemporary buffer ∧ buffer.length ≤ pool.config.bufferSize ∧
        pool.available.length < pool.totalAllocated ∧
        (pool.release buffer).available = pool.available ++ [buffer] ∧
        (pool.release buffer).temporaryCount = pool.temporaryCount) ∨
      (¬ pool.isTemporary buffer ∧ ¬ (buffer.length ≤ pool.config.bufferSize ∧
          pool.available.length < pool.totalAllocated) ∧
        (pool.release buffer).available = pool.available ∧
        (pool.release buffer).temporaryCount = pool.temporaryCount)) := by
  by_cases temporary : pool.isTemporary buffer
  · have released : pool.release buffer = { pool with
          acquiredCount := pool.acquiredCount - 1
          temporaryCount := pool.temporaryCount - 1 } := if_pos temporary
    rw [released]
    exact ⟨rfl, rfl, rfl, .inl ⟨temporary, rfl, rfl⟩⟩
  · by_cases pooled : buffer.length ≤ pool.config.bufferSize ∧
        pool.available.length < pool.totalAllocated
    · have released : pool.release buffer = { pool with
            acquiredCount := pool.acquiredCount - 1
            available := pool.available ++ [buffer] } :=
        (if_neg temporary).trans (if_pos pooled)
      rw [released]
      exact ⟨rfl, rfl, rfl, .inr (.inl ⟨temporary, pooled.1, pooled.2, rfl, rfl⟩)⟩
    · have released : pool.release buffer = { pool with acquiredCount := pool.acquiredCount - 1 } :=
        (if_neg temporary).trans (if_neg pooled)
      rw [released]
      exact ⟨rfl, rfl, rfl, .inr (.inr ⟨temporary, pooled, rfl, rfl⟩)⟩

end BufferPool

/-! ### The bounds, under every call -/

/-- What the pool keeps is part of what it has allocated, and that within its limit. -/
structure Bounds (config : BufferPoolConfig) (pool : BufferPool) : Prop where
  configured : pool.config = config
  kept : pool.available.length ≤ pool.totalAllocated
  limited : pool.totalAllocated ≤ config.maxBuffers

theorem bounds_new (config : BufferPoolConfig) (ordered : config.minBuffers ≤ config.maxBuffers) :
    Bounds config (.new config) where
  configured := rfl
  kept := by simp [BufferPool.new]
  limited := ordered

variable {config : BufferPoolConfig} {pool : BufferPool}

theorem Bounds.acquire (bounds : Bounds config pool) : Bounds config pool.acquire.2 := by
  obtain ⟨configured, kept, limited⟩ := bounds
  obtain ⟨-, same, -, popped | allocated | temporary⟩ := pool.acquire_cases
  · exact ⟨same.trans configured, by omega, by omega⟩
  · rw [configured] at allocated
    exact ⟨same.trans configured, by omega, by omega⟩
  · exact ⟨same.trans configured, by omega, by omega⟩

theorem Bounds.acquireAtLeast (bounds : Bounds config pool) (minSize : Nat) :
    Bounds config (pool.acquireAtLeast minSize).2 := by
  unfold BufferPool.acquireAtLeast
  by_cases fits : minSize ≤ pool.config.bufferSize
  · simp [fits, bounds.acquire]
  · simpa [fits] using ⟨bounds.configured, bounds.kept, bounds.limited⟩

theorem Bounds.release (bounds : Bounds config pool) (buffer : List UInt8) :
    Bounds config (pool.release buffer) := by
  obtain ⟨configured, kept, limited⟩ := bounds
  obtain ⟨same, -, allocated, ⟨-, idle, -⟩ | ⟨-, -, room, idle, -⟩ | ⟨-, -, idle, -⟩⟩ :=
    pool.release_cases buffer
  · exact ⟨same.trans configured, by rw [idle, allocated]; exact kept, by omega⟩
  · refine ⟨same.trans configured, ?_, by omega⟩
    rw [idle, allocated, List.length_append, List.length_singleton]
    exact room
  · exact ⟨same.trans configured, by rw [idle, allocated]; exact kept, by omega⟩

theorem Bounds.shrink (bounds : Bounds config pool) : Bounds config pool.shrink := by
  induction pool using BufferPool.shrink.induct with
  | case1 pool more ih =>
    rw [BufferPool.shrink, if_pos more]
    obtain ⟨configured, kept, limited⟩ := bounds
    refine ih ⟨configured, ?_, ?_⟩
    · show pool.available.dropLast.length ≤ pool.totalAllocated - 1
      rw [List.length_dropLast]
      omega
    · show pool.totalAllocated - 1 ≤ config.maxBuffers
      omega
  | case2 pool enough =>
    simp [BufferPool.shrink, enough, bounds]

theorem Bounds.clear (bounds : Bounds config pool) : Bounds config pool.clear :=
  ⟨bounds.configured, Nat.le_refl 0, Nat.zero_le _⟩

variable {held : Holding}

variable {after : Holding} {operation : Operation}

theorem step_bounds (bounds : Bounds config held.pool) (taken : step held operation = some after) :
    Bounds config after.pool := by
  cases operation with
  | acquire =>
    cases taken
    exact bounds.acquire
  | acquireAtLeast minSize =>
    cases taken
    exact bounds.acquireAtLeast minSize
  | release buffer =>
    by_cases owned : buffer.length ∈ held.outstanding
    · rw [step, if_pos owned] at taken
      cases taken
      exact bounds.release buffer
    · simp [step, owned] at taken
  | shrink =>
    cases taken
    exact bounds.shrink
  | clear =>
    cases taken
    exact bounds.clear

variable {operations : List Operation}

theorem run_bounds (ordered : config.minBuffers ≤ config.maxBuffers)
    (ran : run step (start config) operations = some held) : Bounds config held.pool :=
  (run_reach ran).invariant (I := fun held => Bounds config held.pool) (bounds_new config ordered)
    fun _ _ _ bounds _ taken => step_bounds bounds taken

/-! ### The books -/

/-- **The books of the pool** after `oversized` oversized requests. The last field is what makes
`release` push every buffer it does not take for a temporary one: below the limit the temporary
count holds nothing but oversized requests. -/
structure Ledger (config : BufferPoolConfig) (oversized : Nat) (held : Holding) : Prop where
  bounds : Bounds config held.pool
  counted : held.pool.acquiredCount = held.outstanding.length
  balanced : held.pool.available.length +
      held.outstanding.countP (fun length => length ≤ config.bufferSize) + oversized =
    held.pool.totalAllocated + held.pool.temporaryCount
  belowLimit : held.pool.totalAllocated < config.maxBuffers → held.pool.temporaryCount ≤ oversized

theorem ledger_start (config : BufferPoolConfig)
    (ordered : config.minBuffers ≤ config.maxBuffers) : Ledger config 0 (start config) where
  bounds := bounds_new config ordered
  counted := rfl
  balanced := by simp [start, BufferPool.new]
  belowLimit := fun _ => Nat.le_refl 0

variable {oversized : Nat}

section

variable (ledger : Ledger config oversized held)
include ledger

theorem Ledger.acquire :
    Ledger config oversized (held.take held.pool.acquire) := by
  obtain ⟨bounds, counted, balanced, belowLimit⟩ := ledger
  have within := bounds.acquire
  have configured := bounds.configured
  obtain ⟨handed, -, acquired, cases⟩ := held.pool.acquire_cases
  have length : held.pool.acquire.1.length = config.bufferSize := by
    simp [handed, configured]
  have holds : (held.take held.pool.acquire).outstanding.countP
        (fun length => length ≤ config.bufferSize) =
      held.outstanding.countP (fun length => length ≤ config.bufferSize) + 1 := by
    simp [Holding.take, length, List.countP_cons_of_pos]
  rw [configured] at cases
  refine ⟨within, ?_, ?_, ?_⟩
  · simp [Holding.take, ← counted, acquired]
  · rw [holds]
    simp only [Holding.take]
    omega
  · simp only [Holding.take]
    omega

theorem Ledger.oversizedRequest {minSize : Nat} (large : config.bufferSize < minSize) :
    Ledger config (oversized + 1) (held.take (held.pool.acquireAtLeast minSize)) := by
  obtain ⟨bounds, counted, balanced, belowLimit⟩ := ledger
  have refused : ¬ minSize ≤ held.pool.config.bufferSize := by
    rw [bounds.configured]
    omega
  have uncounted : ¬ (zeros minSize).length ≤ config.bufferSize := by
    rw [BufferPool.length_zeros]
    omega
  unfold BufferPool.acquireAtLeast
  rw [if_neg refused]
  refine ⟨⟨bounds.configured, bounds.kept, bounds.limited⟩, ?_, ?_, ?_⟩
  · simp [Holding.take, counted]
  · simp only [Holding.take]
    rw [List.countP_cons_of_neg (by simpa using uncounted)]
    omega
  · intro below
    exact Nat.succ_le_succ (belowLimit below)

theorem Ledger.acquireAtLeast (minSize : Nat) :
    Ledger config (oversized + if config.bufferSize < minSize then 1 else 0)
      (held.take (held.pool.acquireAtLeast minSize)) := by
  by_cases large : config.bufferSize < minSize
  · simp [large, ledger.oversizedRequest large]
  · rw [if_neg large, BufferPool.acquireAtLeast, if_pos (by rw [ledger.bounds.configured]; omega)]
    exact ledger.acquire

theorem Ledger.release {buffer : List UInt8} (owned : buffer.length ∈ held.outstanding) :
    Ledger config oversized ⟨held.pool.release buffer, held.outstanding.erase buffer.length⟩ := by
  obtain ⟨bounds, counted, balanced, belowLimit⟩ := ledger
  have within := bounds.release buffer
  have configured := bounds.configured
  have smaller := List.length_erase_of_mem owned
  have positive := List.length_pos_of_mem owned
  obtain ⟨-, acquired, allocated, cases⟩ := held.pool.release_cases buffer
  have returned : held.outstanding.countP (fun length => length ≤ config.bufferSize) =
      (held.outstanding.erase buffer.length).countP (fun length => length ≤ config.bufferSize) +
        if buffer.length ≤ config.bufferSize then 1 else 0 := by
    simp [(List.perm_cons_erase owned).countP_eq, List.countP_cons]
  simp only [BufferPool.isTemporary, configured] at cases
  refine ⟨within, by simp only; omega, ?_, ?_⟩
  · simp only
    by_cases small : buffer.length ≤ config.bufferSize
    · rw [if_pos small] at returned
      obtain ⟨⟨-, counts, -⟩, idle, temporary⟩ | ⟨-, -, -, idle, temporary⟩ |
        ⟨genuine, refused, -⟩ := cases
      · rw [idle]
        omega
      · rw [idle, List.length_append, List.length_singleton]
        omega
      · -- A pooled buffer that is neither taken for temporary nor kept would break the books.
        exfalso
        have kept := bounds.kept
        have idle : held.pool.available.length = held.pool.totalAllocated := by omega
        have full : config.maxBuffers ≤ held.pool.totalAllocated := by
          by_contra below
          have := belowLimit (by omega)
          omega
        exact genuine ⟨small, by omega, by omega⟩
    · rw [if_neg small] at returned
      obtain ⟨⟨fits, -⟩, -⟩ | ⟨-, fits, -⟩ | ⟨-, -, idle, temporary⟩ := cases
      · exact absurd fits small
      · exact absurd fits small
      · rw [idle]
        omega
  · simp only
    omega

/-- **One call** moves the books by the oversized request it makes, if it makes one. -/
theorem step_ledger (exchange : operation.exchanges = true) (taken : step held operation = some after) :
    Ledger config (oversized + if operation.oversized config then 1 else 0) after := by
  cases operation with
  | acquire =>
    cases taken
    exact ledger.acquire
  | acquireAtLeast minSize =>
    cases taken
    simp [Operation.oversized, ledger.acquireAtLeast minSize]
  | release buffer =>
    by_cases owned : buffer.length ∈ held.outstanding
    · rw [step, if_pos owned] at taken
      cases taken
      exact ledger.release owned
    · simp [step, owned] at taken
  | shrink | clear => cases exchange

/-- **A whole run**: the books are off by its oversized requests. -/
theorem run_ledger (exchange : ∀ operation ∈ operations, operation.exchanges = true)
    (ran : run step held operations = some after) :
    Ledger config (oversized + operations.countP (Operation.oversized config)) after := by
  induction operations generalizing oversized held with
  | nil =>
    cases ran
    exact ledger
  | cons operation rest ih =>
    obtain ⟨middle, taken, ran⟩ := Option.bind_eq_some_iff.mp ran
    have moved := step_ledger ledger (exchange operation (.head _)) taken
    have reached := ih moved (List.forall_mem_cons.mp exchange).2 ran
    rwa [Nat.add_assoc, Nat.add_comm (ite _ _ _), ← List.countP_cons] at reached

end

/-! ### Conservation -/

/-- The pool is whole: nothing is counted as handed out, every buffer it has allocated is idle, and
no temporary buffer is on its books. -/
def BufferPool.Whole (pool : BufferPool) : Prop :=
  pool.acquiredCount = 0 ∧ pool.available.length = pool.totalAllocated ∧ pool.temporaryCount = 0

/-- **Conservation of the pool.** In a run of requests and returns that ends with every buffer back,
the pool is whole exactly when no request was oversized. In every run, `shrink` and `clear`
included, the idle buffers stay within the allocated ones and these within the limit, and `acquire`
hands out exactly `buffer_size` zero bytes. -/
theorem conservation (config : BufferPoolConfig) (ordered : config.minBuffers ≤ config.maxBuffers) :
    (∀ operations held, run step (start config) operations = some held →
      (∀ operation ∈ operations, operation.exchanges = true) → held.outstanding = [] →
      (held.pool.Whole ↔ ∀ operation ∈ operations, operation.oversized config = false)) ∧
    ∀ operations held, run step (start config) operations = some held →
      held.pool.available.length ≤ held.pool.totalAllocated ∧
      held.pool.totalAllocated ≤ config.maxBuffers ∧
      held.pool.acquire.1 = zeros config.bufferSize := by
  constructor
  · intro operations held ran exchange returned
    obtain ⟨bounds, counted, balanced, -⟩ := run_ledger (ledger_start config ordered) exchange ran
    rw [returned, List.length_nil] at counted
    rw [returned, List.countP_nil] at balanced
    have none : operations.countP (Operation.oversized config) = 0 ↔
        ∀ operation ∈ operations, operation.oversized config = false := by
      simp
    rw [← none]
    constructor
    · rintro ⟨-, whole, temporary⟩
      omega
    · intro fitting
      have kept := bounds.kept
      exact ⟨counted, by omega, by omega⟩
  · intro operations held ran
    have bounds := run_bounds ordered ran
    refine ⟨bounds.kept, bounds.limited, ?_⟩
    simp [← bounds.configured, held.pool.acquire_cases.1]

theorem conservation_of_one_buffer :
    (0 ≤ 1 ∧ run step (start ⟨0, 1, 1⟩) [.acquire, .release [7]] =
        some ⟨⟨⟨0, 1, 1⟩, [[7]], 0, 1, 0⟩, []⟩) ∧
      BufferPool.Whole ⟨⟨0, 1, 1⟩, [[7]], 0, 1, 0⟩ := by
  refine ⟨by decide, ?_⟩
  refine ((conservation ⟨0, 1, 1⟩ (by decide)).1 [.acquire, .release [7]] _ rfl ?_ rfl).mpr ?_
  · decide
  · decide

/-- **An oversized buffer that is returned stays on the temporary count**, and the pooled buffer that
is returned after it is dropped in its place: everything is back, one buffer is allocated, and none
is idle. -/
theorem oversized_request_loses_a_buffer :
    ¬ ∀ (operations : List Operation) (held : Holding),
      run step (start ⟨0, 1, 1⟩) operations = some held →
      (∀ operation ∈ operations, operation.exchanges = true) → held.outstanding = [] →
      held.pool.Whole := by
  intro conserved
  have whole := conserved [.acquireAtLeast 2, .release [0, 0], .acquire, .release [0]]
    ⟨⟨⟨0, 1, 1⟩, [], 0, 1, 0⟩, []⟩ (by decide) (by decide) rfl
  exact absurd whole.2.1 (by decide)

end MiniRemoteDesktop.Buffer
