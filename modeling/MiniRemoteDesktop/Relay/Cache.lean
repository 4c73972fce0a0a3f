/-
**The cache of relay accesses** (`mrd-service`, `relay/cache.rs`).

A bounded cache that drops the least recently used entry. `order` lists the contexts from the least
to the most recently used; that it lists every cached context is carried by the cache, and is what
lets the eviction loop always find something to drop.

An access is cached behind a shared pointer. `Arc` tells two accesses apart by the backend answer
they came from, whatever their contents.

* `insert_bounded` — after an insertion the cache holds at most `capacity` entries.
* `insert_lookup`, `get_got` — what an insertion and a read leave in the cache.
* `cache_refines_lru` — **every run answers as a list of the recently used would**.
-/

import MiniRemoteDesktop.Relay.Access

namespace MiniRemoteDesktop.Relay

/-- **A shared access**, with the number of the backend answer that it was verified from. -/
structure SharedAccess where
  answer : Nat
  access : VerifiedRelayAccess

structure RelayDirectoryCache where
  capacity : Nat
  entries : AList fun _ : RelayAccessContext => SharedAccess
  order : List RelayAccessContext
  /-- Every cached context has its place in the order. -/
  covered : ∀ context ∈ entries.keys, context ∈ order

namespace RelayDirectoryCache

/-! ### The cache -/

def new (capacity : Nat) : RelayDirectoryCache where
  capacity := max capacity 1
  entries := ∅
  order := []
  covered := fun _ member => nomatch member

/-- What is cached for a context. -/
def lookup (cache : RelayDirectoryCache) (context : RelayAccessContext) : Option SharedAccess :=
  cache.entries.lookup context

/-- The order after a use of a context. -/
def touched (order : List RelayAccessContext) (context : RelayAccessContext) :
    List RelayAccessContext :=
  (order.filter fun candidate => candidate ≠ context) ++ [context]

variable {order : List RelayAccessContext} {context : RelayAccessContext}

variable {other : RelayAccessContext}

theorem mem_touched :
    other ∈ touched order context ↔ other ∈ order ∨ other = context := by
  unfold touched
  rw [List.mem_append, List.mem_singleton, List.mem_filter, decide_eq_true_iff]
  by_cases same : other = context
  · exact ⟨fun _ => .inr same, fun _ => .inr same⟩
  · exact ⟨fun found => found.imp And.left id, fun found => found.imp (⟨·, same⟩) id⟩

def touch (cache : RelayDirectoryCache) (context : RelayAccessContext) : RelayDirectoryCache :=
  { cache with
    order := touched cache.order context
    covered := fun other member => mem_touched.mpr (.inl (cache.covered other member)) }

def remove (cache : RelayDirectoryCache) (context : RelayAccessContext) : RelayDirectoryCache :=
  { cache with
    entries := cache.entries.erase context
    order := cache.order.filter fun candidate => candidate ≠ context
    covered := fun other member => by
      rw [AList.keys_erase, List.Nodup.mem_erase_iff cache.entries.keys_nodup] at member
      exact List.mem_filter.mpr ⟨cache.covered other member.2, decide_eq_true member.1⟩ }

def get (cache : RelayDirectoryCache) (context : RelayAccessContext) (nowMs : Nat) :
    Option SharedAccess × RelayDirectoryCache :=
  match cache.lookup context with
  | some shared =>
    if shared.access.isFresh nowMs then (some shared, cache.touch context)
    else (none, cache.remove context)
  | none => (none, cache)

/-- The eviction loop of `insert`, along the order. -/
def evict (capacity : Nat) (entries : AList fun _ : RelayAccessContext => SharedAccess) :
    List RelayAccessContext →
      (AList fun _ : RelayAccessContext => SharedAccess) × List RelayAccessContext
  | [] => (entries, [])
  | oldest :: rest =>
    if capacity < entries.keys.length then evict capacity (entries.erase oldest) rest
    else (entries, oldest :: rest)

variable {entries : AList fun _ : RelayAccessContext => SharedAccess}

theorem covered_rest {oldest : RelayAccessContext} {rest : List RelayAccessContext}
    (covered : ∀ context ∈ entries.keys, context ∈ oldest :: rest) :
    ∀ context ∈ (entries.erase oldest).keys, context ∈ rest := by
  intro context member
  rw [AList.keys_erase, List.Nodup.mem_erase_iff entries.keys_nodup] at member
  exact (List.mem_cons.mp (covered context member.2)).resolve_left member.1

theorem evict_covered (capacity : Nat) (covered : ∀ context ∈ entries.keys, context ∈ order) :
    ∀ context ∈ (evict capacity entries order).1.keys, context ∈ (evict capacity entries order).2 := by
  induction order generalizing entries with
  | nil => exact covered
  | cons oldest rest ih =>
    rw [evict]
    split
    · exact ih (covered_rest covered)
    · exact covered

variable (cache : RelayDirectoryCache)

theorem insert_covered (context : RelayAccessContext) (shared : SharedAccess) :
    ∀ other ∈ (cache.entries.insert context shared).keys, other ∈ touched cache.order context := by
  intro other member
  rw [AList.keys_insert] at member
  rcases List.mem_cons.mp member with same | member
  · exact mem_touched.mpr (.inr same)
  · exact mem_touched.mpr (.inl (cache.covered other (List.mem_of_mem_erase member)))

def insert (cache : RelayDirectoryCache) (context : RelayAccessContext) (shared : SharedAccess) :
    RelayDirectoryCache :=
  { cache with
    entries := (evict cache.capacity (cache.entries.insert context shared)
      (touched cache.order context)).1
    order := (evict cache.capacity (cache.entries.insert context shared)
      (touched cache.order context)).2
    covered := evict_covered cache.capacity (insert_covered cache context shared) }

/-! ### What the operations leave in the cache -/

theorem lookup_remove (context other : RelayAccessContext) :
    (cache.remove context).lookup other = if other = context then none else cache.lookup other :=
  Table.lookup_erase_alist cache.entries context other

/-- A cache holds nothing that another does not. -/
def Within (cache larger : RelayDirectoryCache) : Prop :=
  ∀ context shared, cache.lookup context = some shared → larger.lookup context = some shared

theorem Within.refl : cache.Within cache := fun _ _ known => known

theorem Within.trans {first second third : RelayDirectoryCache} (inner : first.Within second)
    (outer : second.Within third) : first.Within third :=
  fun context shared known => outer context shared (inner context shared known)

theorem remove_within (context : RelayAccessContext) :
    (cache.remove context).Within cache := by
  intro other shared known
  rw [lookup_remove] at known
  split at known
  · cases known
  · exact known

variable {shared : SharedAccess}

theorem lookup_evict {capacity : Nat}
    (known : (evict capacity entries order).1.lookup context = some shared) :
    entries.lookup context = some shared := by
  induction order generalizing entries with
  | nil => exact known
  | cons oldest rest ih =>
    rw [evict] at known
    split at known
    · have kept := ih known
      rw [Table.lookup_erase_alist] at kept
      split at kept
      · cases kept
      · exact kept
    · exact known

/-- **After an insertion** an entry is the one inserted or was there before. -/
theorem insert_lookup {cache : RelayDirectoryCache} {found : SharedAccess}
    (known : (cache.insert context shared).lookup other = some found) :
    (other = context ∧ found = shared) ∨ cache.lookup other = some found := by
  have held := lookup_evict known
  rw [Table.lookup_insert_alist] at held
  split at held
  · exact .inl ⟨‹_›, (Option.some.inj held).symm⟩
  · exact .inr held

theorem evict_bounded (capacity : Nat) (covered : ∀ context ∈ entries.keys, context ∈ order) :
    (evict capacity entries order).1.keys.length ≤ capacity := by
  induction order generalizing entries with
  | nil =>
    have empty : entries.keys = [] := List.eq_nil_iff_forall_not_mem.mpr fun context member =>
      List.not_mem_nil (covered context member)
    show entries.keys.length ≤ capacity
    simp [empty]
  | cons oldest rest ih =>
    rw [evict]
    split
    · exact ih (covered_rest covered)
    · exact Nat.not_lt.mp ‹_›

/-- **The cache is bounded**: the eviction loop ends with at most `capacity` entries. -/
theorem insert_bounded (context : RelayAccessContext) (shared : SharedAccess) :
    (cache.insert context shared).entries.keys.length ≤ cache.capacity :=
  evict_bounded cache.capacity (insert_covered cache context shared)

/-- **A read** finds the entry of its context when it is fresh, and otherwise leaves the context
without an entry; the other contexts keep theirs. -/
inductive Got (cache : RelayDirectoryCache) (context : RelayAccessContext) (nowMs : Nat) :
    Option SharedAccess × RelayDirectoryCache → Prop
  | hit (shared : SharedAccess) (known : cache.lookup context = some shared)
      (fresh : shared.access.isFresh nowMs = true) :
      Got cache context nowMs (some shared, cache.touch context)
  | miss (rest : RelayDirectoryCache) (within : rest.Within cache)
      (others : ∀ other, other ≠ context → rest.lookup other = cache.lookup other) :
      Got cache context nowMs (none, rest)

theorem get_got (context : RelayAccessContext) (nowMs : Nat) :
    cache.Got context nowMs (cache.get context nowMs) := by
  unfold get
  split
  next shared known =>
    split
    · exact .hit shared known ‹_›
    · refine .miss _ (remove_within cache context) fun other different => ?_
      rw [lookup_remove, if_neg different]
  · exact .miss cache (.refl cache) fun _ _ => rfl

theorem get_fresh {cache : RelayDirectoryCache} {nowMs : Nat}
    (known : cache.lookup context = some shared) (fresh : shared.access.isFresh nowMs = true) :
    (cache.get context nowMs).1 = some shared := by
  unfold get
  simp [known, fresh]

/-! ### The eviction loop ends -/

abbrev Entries := AList fun _ : RelayAccessContext => SharedAccess

/-- The loop as it stands: when the order runs dry, nothing is dropped any more. It has no result when
the rounds run out. -/
def evictLoop (capacity : Nat) :
    Nat → Entries → List RelayAccessContext → Option (Entries × List RelayAccessContext)
  | 0, _, _ => none
  | rounds + 1, entries, order =>
    if capacity < entries.keys.length then
      match order with
      | [] => evictLoop capacity rounds entries []
      | oldest :: rest => evictLoop capacity rounds (entries.erase oldest) rest
    else some (entries, order)

theorem evictLoop_ends (capacity : Nat) (covered : ∀ context ∈ entries.keys, context ∈ order) :
    evictLoop capacity (order.length + 1) entries order = some (evict capacity entries order) := by
  have bounded := evict_bounded capacity covered
  induction order generalizing entries with
  | nil => exact if_neg (Nat.not_lt.mpr bounded)
  | cons oldest rest ih =>
    rw [evict] at bounded ⊢
    rw [evictLoop]
    split_ifs at bounded ⊢ with past
    · exact ih (covered_rest covered) bounded
    · rfl

/-! ### The reference -/

inductive CacheCall
  | get (context : RelayAccessContext) (nowMs : Nat)
  | insert (context : RelayAccessContext) (shared : SharedAccess)
  | remove (context : RelayAccessContext)

/-- A call, and what it returns of an access. -/
def perform (cache : RelayDirectoryCache) : CacheCall → Option SharedAccess × RelayDirectoryCache
  | .get context nowMs => cache.get context nowMs
  | .insert context shared => (none, cache.insert context shared)
  | .remove context => (none, cache.remove context)

def answers (cache : RelayDirectoryCache) : List CacheCall → List (Option SharedAccess) × RelayDirectoryCache
  | [] => ([], cache)
  | call :: rest =>
    let later := answers (cache.perform call).2 rest
    ((cache.perform call).1 :: later.1, later.2)

/-- **A list of accesses**, from the least to the most recently used. -/
abbrev Recency := List (RelayAccessContext × SharedAccess)

namespace Recency

def without (recency : Recency) (context : RelayAccessContext) : Recency :=
  recency.filter fun entry => entry.1 ≠ context

/-- A hit or an insertion moves an access to the back, a stale access is dropped, and the front goes
while there are more than `capacity`. -/
def perform (capacity : Nat) (recency : Recency) : CacheCall → Option SharedAccess × Recency
  | .get context nowMs =>
    match recency.find? fun entry => entry.1 = context with
    | some entry =>
      if entry.2.access.isFresh nowMs then (some entry.2, recency.without context ++ [entry])
      else (none, recency.without context)
    | none => (none, recency)
  | .insert context shared =>
    let all := recency.without context ++ [(context, shared)]
    (none, all.drop (all.length - capacity))
  | .remove context => (none, recency.without context)

def answers (capacity : Nat) (recency : Recency) : List CacheCall → List (Option SharedAccess)
  | [] => []
  | call :: rest =>
    (recency.perform capacity call).1 :: answers capacity (recency.perform capacity call).2 rest

end Recency

/-! ### The cache refines it -/

variable {recency : Recency}

/-- **Both structures hold what the list holds.** -/
structure Refines (entries : Entries)
    (order : List RelayAccessContext) (recency : Recency) : Prop where
  keys : entries.keys.Perm order
  contexts : order = recency.map Prod.fst
  values : ∀ entry ∈ recency, entries.lookup entry.1 = some entry.2

theorem Refines.find (refines : Refines entries order recency) (context : RelayAccessContext) :
    recency.find? (fun entry => entry.1 = context) =
      (entries.lookup context).map fun shared => (context, shared) := by
  rcases found : recency.find? fun entry => entry.1 = context with _ | ⟨other, shared⟩
  · have absent : context ∉ entries := by
      intro member
      have listed := refines.keys.mem_iff.mp member
      rw [refines.contexts] at listed
      obtain ⟨entry, inside, same⟩ := List.mem_map.mp listed
      exact List.find?_eq_none.mp found entry inside (decide_eq_true same)
    simp [found, AList.lookup_eq_none.mpr absent]
  · obtain rfl : other = context := by simpa using List.find?_some found
    simp [found, refines.values _ (List.mem_of_find?_eq_some found)]

theorem Refines.filtered (refines : Refines entries order recency) (context : RelayAccessContext) :
    (entries.keys.erase context).Perm (order.filter fun other => other ≠ context) ∧
      (order.filter fun other => other ≠ context) = (recency.without context).map Prod.fst := by
  have nodup := refines.keys.nodup_iff.mp entries.keys_nodup
  constructor
  · refine (List.perm_ext_iff_of_nodup (entries.keys_nodup.erase context) (nodup.filter _)).mpr fun other => ?_
    simp [entries.keys_nodup.mem_erase_iff, refines.keys.mem_iff, and_comm]
  · rw [refines.contexts, List.filter_map]
    rfl

theorem Refines.erase (refines : Refines entries order recency) (context : RelayAccessContext) :
    Refines (entries.erase context) (order.filter fun other => other ≠ context)
      (recency.without context) := by
  obtain ⟨keys, contexts⟩ := refines.filtered context
  refine ⟨(AList.keys_erase context entries).symm ▸ keys, contexts, fun entry member => ?_⟩
  obtain ⟨inside, other⟩ := List.mem_filter.mp member
  simpa [Table.lookup_erase_alist, of_decide_eq_true other] using refines.values entry inside

theorem Refines.use {after : Entries} (refines : Refines entries order recency)
    (keys : after.keys.Perm (context :: entries.keys.erase context))
    (values : ∀ other, after.lookup other = if other = context then some shared else entries.lookup other) :
    Refines after (touched order context) (recency.without context ++ [(context, shared)]) := by
  obtain ⟨rest, contexts⟩ := refines.filtered context
  refine ⟨(keys.trans (rest.cons context)).trans (List.perm_append_singleton ..).symm, ?_, ?_⟩
  · rw [touched, contexts, List.map_append, List.map_singleton]
  · intro entry member
    rw [values]
    rcases List.mem_append.mp member with kept | last
    · obtain ⟨inside, other⟩ := List.mem_filter.mp kept
      simpa [of_decide_eq_true other] using refines.values entry inside
    · simp [List.mem_singleton.mp last]

theorem Refines.evict (capacity : Nat) (refines : Refines entries order recency) :
    Refines (evict capacity entries order).1 (evict capacity entries order).2
      (recency.drop (recency.length - capacity)) := by
  induction recency generalizing entries order with
  | nil =>
    obtain ⟨keys, rfl, _⟩ := refines
    simpa using ⟨keys, rfl, List.forall_mem_nil _⟩
  | cons oldest rest ih =>
    have front := refines.erase oldest.1
    obtain ⟨keys, rfl, values⟩ := refines
    have size := keys.length_eq
    have nodup := keys.nodup_iff.mp entries.keys_nodup
    rw [List.length_map, List.length_cons] at size
    have others : Recency.without (oldest :: rest) oldest.1 = rest := by
      rw [Recency.without, List.filter_cons_of_neg (by simp), List.filter_eq_self]
      exact fun entry member => decide_eq_true fun same =>
        (List.nodup_cons.mp nodup).1 (same ▸ List.mem_map_of_mem member)
    rw [others] at front
    rw [front.contexts] at front
    rw [List.map_cons, RelayDirectoryCache.evict, List.length_cons]
    split_ifs with past
    · rw [Nat.succ_sub (by omega), List.drop_succ_cons]
      exact ih front
    · rw [Nat.sub_eq_zero_of_le (by omega), List.drop_zero]
      exact ⟨keys, rfl, values⟩

/-- **Each call answers as the reference does.** -/
theorem Refines.perform {cache : RelayDirectoryCache} (refines : Refines cache.entries cache.order recency)
    (call : CacheCall) :
    (cache.perform call).1 = (recency.perform cache.capacity call).1 ∧
      Refines (cache.perform call).2.entries (cache.perform call).2.order
        (recency.perform cache.capacity call).2 ∧
      (cache.perform call).2.capacity = cache.capacity ∧
      (cache.entries.keys.length ≤ cache.capacity →
        (cache.perform call).2.entries.keys.length ≤ cache.capacity) := by
  have shorter {context} (bounded : cache.entries.keys.length ≤ cache.capacity) :
      (cache.remove context).entries.keys.length ≤ cache.capacity :=
    (AList.keys_erase context cache.entries ▸ List.length_erase_le).trans bounded
  cases call with
  | get context nowMs =>
    rw [RelayDirectoryCache.perform, Recency.perform, refines.find, get, lookup]
    rcases known : cache.entries.lookup context with _ | shared
    · exact ⟨rfl, refines, rfl, id⟩
    dsimp only [Option.map_some]
    split_ifs with fresh
    · have member : context ∈ cache.entries.keys :=
        AList.mem_keys.mp (AList.lookup_isSome.mp (by rw [known]; rfl))
      refine ⟨rfl, refines.use (List.perm_cons_erase member) fun other => ?_, rfl, id⟩
      split_ifs with same
      · exact same ▸ known
      · rfl
    · exact ⟨rfl, refines.erase context, rfl, shorter⟩
  | insert context shared =>
    exact ⟨rfl, (refines.use (.of_eq (AList.keys_insert ..)) fun other =>
      Table.lookup_insert_alist ..).evict cache.capacity, rfl, fun _ => insert_bounded ..⟩
  | remove context => exact ⟨rfl, refines.erase context, rfl, shorter⟩

/-- **The cache is a least-recently-used map**: in every run it answers as the reference does, its two
structures hold the same contexts, and no more than it may, and the eviction loop ends. -/
theorem cache_refines_lru (capacity : Nat) (calls : List CacheCall) :
    ((new capacity).answers calls).1 = Recency.answers (max capacity 1) [] calls ∧
      let cache := ((new capacity).answers calls).2
      (∀ context, context ∈ cache.entries ↔ context ∈ cache.order) ∧ cache.order.Nodup ∧
        cache.entries.keys.length ≤ max capacity 1 ∧
        ∀ context shared, ∃ rounds,
          evictLoop cache.capacity rounds (cache.entries.insert context shared)
            (touched cache.order context) =
          some ((cache.insert context shared).entries, (cache.insert context shared).order) := by
  have run : ∀ (cache : RelayDirectoryCache) (recency : Recency), Refines cache.entries cache.order recency →
      cache.entries.keys.length ≤ cache.capacity →
        (cache.answers calls).1 = Recency.answers cache.capacity recency calls ∧
          (∃ recency, Refines (cache.answers calls).2.entries (cache.answers calls).2.order recency) ∧
          (cache.answers calls).2.entries.keys.length ≤ cache.capacity := by
    induction calls with
    | nil => exact fun cache recency refines bounded => ⟨rfl, ⟨recency, refines⟩, bounded⟩
    | cons call rest ih =>
      intro cache recency refines bounded
      obtain ⟨answer, after, same, fits⟩ := refines.perform call
      obtain ⟨others, held, short⟩ := ih _ _ after (same.symm ▸ fits bounded)
      rw [same] at others short
      exact ⟨List.cons_eq_cons.mpr ⟨answer, others⟩, held, short⟩
  obtain ⟨same, ⟨_, refines⟩, bounded⟩ :=
    run (new capacity) [] ⟨.refl _, rfl, fun _ => nofun⟩ (Nat.zero_le _)
  refine ⟨same, fun context => refines.keys.mem_iff, refines.keys.nodup_iff.mp (AList.keys_nodup _), bounded,
    fun context shared => ⟨_, evictLoop_ends _ (insert_covered _ context shared)⟩⟩

end RelayDirectoryCache

end MiniRemoteDesktop.Relay
