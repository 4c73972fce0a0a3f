/-
**Finite tables.**

A hash map of the source is a `Finmap`, or an `AList` where its entries are also listed or counted.
What it holds after a write is one conditional on the key that is looked up, so that a proof splits
on the key once and never on the map.

* `weigh` — the sum of a weight of the entries, and how a write changes it.
* `length_eq_iff_full` — a table whose keys come from a list has as many entries as the list exactly
  when all of the list are keys.
-/

import Mathlib.Algebra.Order.Ring.Nat
import Mathlib.Data.Finmap

namespace Table

variable {α β : Type} [DecidableEq α]

theorem lookup_insert_eq (map : Finmap fun _ : α => β) (key probe : α) (value : β) :
    (map.insert key value).lookup probe = if probe = key then some value else map.lookup probe := by
  by_cases same : probe = key
  · subst same
    simp
  · simp [same]

theorem lookup_erase_eq (map : Finmap fun _ : α => β) (key probe : α) :
    (map.erase key).lookup probe = if probe = key then none else map.lookup probe := by
  by_cases same : probe = key
  · subst same
    simp
  · simp [same]

/-! ### Tables whose entries are listed -/

theorem lookup_insert_alist (map : AList fun _ : α => β) (key probe : α) (value : β) :
    (map.insert key value).lookup probe = if probe = key then some value else map.lookup probe := by
  by_cases same : probe = key
  · subst same
    simp
  · simp [same]

theorem lookup_erase_alist (map : AList fun _ : α => β) (key probe : α) :
    (map.erase key).lookup probe = if probe = key then none else map.lookup probe := by
  by_cases same : probe = key
  · subst same
    simp
  · simp [same]

theorem erase_insert_alist (map : AList fun _ : α => β) (key : α) (value : β) :
    (map.insert key value).erase key = map.erase key := by
  refine AList.ext ?_
  show (List.kinsert key value map.entries).kerase key = map.entries.kerase key
  exact List.kerase_cons_eq rfl

theorem mem_entries_alist (map : AList fun _ : α => β) (key : α) (value : β) :
    (⟨key, value⟩ : Sigma fun _ : α => β) ∈ map.entries ↔ map.lookup key = some value :=
  AList.mem_lookup_iff.symm

/-- Erasing a list of keys, one after the other. -/
def eraseAll (map : AList fun _ : α => β) (keys : List α) : AList fun _ : α => β :=
  keys.foldl (fun rest key => rest.erase key) map

theorem lookup_eraseAll (map : AList fun _ : α => β) (keys : List α) (probe : α) :
    (eraseAll map keys).lookup probe = if probe ∈ keys then none else map.lookup probe := by
  unfold eraseAll
  induction keys generalizing map with
  | nil => rfl
  | cons key rest ih =>
    rw [List.foldl_cons, ih, lookup_erase_alist]
    by_cases later : probe ∈ rest
    · simp [later]
    · rw [if_neg later]
      by_cases same : probe = key
      · simp [same]
      · rw [if_neg same, if_neg fun member => (List.mem_cons.mp member).elim same later]

variable {map : AList fun _ : α => β}

variable {keys : List α}

theorem mem_of_mem_eraseAll {probe : α} (member : probe ∈ eraseAll map keys) :
    probe ∈ map := by
  rw [← AList.lookup_isSome, lookup_eraseAll] at member
  by_cases erased : probe ∈ keys
  · simp [erased] at member
  · rw [if_neg erased] at member
    exact AList.lookup_isSome.mp member

/-! ### Properties of all entries -/

/-- All entries have the property. -/
def Every (P : α → β → Prop) (map : AList fun _ : α => β) : Prop :=
  ∀ key value, map.lookup key = some value → P key value

variable {P : α → β → Prop}

theorem Every.mono {Q : α → β → Prop} (every : Every P map)
    (weaker : ∀ key value, P key value → Q key value) : Every Q map :=
  fun key value found => weaker key value (every key value found)

variable {key : α} {value : β}

theorem Every.insert (every : Every P map) (holds : P key value) : Every P (map.insert key value) := by
  intro probe held found
  rw [lookup_insert_alist] at found
  by_cases same : probe = key
  · rw [if_pos same] at found
    cases found
    simp [same, holds]
  · rw [if_neg same] at found
    exact every probe held found

theorem Every.eraseAll (every : Every P map) (keys : List α) :
    Every P (eraseAll map keys) := by
  intro probe held found
  rw [lookup_eraseAll] at found
  by_cases erased : probe ∈ keys
  · simp [erased] at found
  · rw [if_neg erased] at found
    exact every probe held found

theorem Every.erase (every : Every P map) (key : α) : Every P (map.erase key) :=
  every.eraseAll [key]

omit [DecidableEq α] in
theorem length_le_of_keys (inside : ∀ key ∈ map, key ∈ keys) :
    map.entries.length ≤ keys.length := by
  have contained : map.keys ⊆ keys := fun key member => inside key (AList.mem_keys.mpr member)
  calc map.entries.length = map.keys.length := (List.length_map _).symm
    _ ≤ keys.length := (List.subperm_of_subset map.keys_nodup contained).length_le

omit [DecidableEq α] in
theorem length_keys_le (distinct : keys.Nodup) (inside : ∀ key ∈ keys, key ∈ map) :
    keys.length ≤ map.entries.length := by
  have contained : keys ⊆ map.keys := fun key listed => AList.mem_keys.mp (inside key listed)
  calc keys.length ≤ map.keys.length := (List.subperm_of_subset distinct contained).length_le
    _ = map.entries.length := List.length_map _

omit [DecidableEq α] in
/-- **The pigeonhole of a table**: its keys are all of the list, or there are fewer of them. -/
theorem length_eq_iff_full (distinct : keys.Nodup) (inside : ∀ key ∈ map, key ∈ keys) :
    map.entries.length = keys.length ↔ ∀ key ∈ keys, key ∈ map := by
  have contained : map.keys ⊆ keys := fun key member => inside key (AList.mem_keys.mpr member)
  have same : map.entries.length = map.keys.length := (List.length_map _).symm
  constructor
  · intro length key listed
    have perm := (List.subperm_of_subset map.keys_nodup contained).perm_of_length_le (length ▸ same.le)
    exact AList.mem_keys.mpr (perm.mem_iff.mpr listed)
  · intro full
    exact le_antisymm (length_le_of_keys inside) (length_keys_le distinct full)

/-! ### Weights -/

/-- The sum of the weights of the entries; with the weight `1`, their number. -/
def weigh (weight : β → Nat) (map : AList fun _ : α => β) : Nat :=
  (map.entries.map fun entry => weight entry.2).sum

omit [DecidableEq α] in
theorem length_entries (map : AList fun _ : α => β) :
    map.entries.length = weigh (fun _ => 1) map := by
  simp [weigh]

variable (weight : β → Nat)

theorem weigh_insert (map : AList fun _ : α => β) (key : α) (value : β) :
    weigh weight (map.insert key value) = weight value + weigh weight (map.erase key) := by
  rfl

theorem weigh_erase (found : map.lookup key = some value) :
    weight value + weigh weight (map.erase key) = weigh weight map := by
  have member : key ∈ map.entries.keys :=
    AList.mem_keys.mp (AList.lookup_isSome.mp (by rw [found]; rfl))
  obtain ⟨held, before, after, -, split, erased⟩ := List.exists_of_kerase member
  have listed : (⟨key, held⟩ : Sigma fun _ : α => β) ∈ map.entries := by
    simp [split]
  have same : held = value := by
    rw [mem_entries_alist, found] at listed
    exact (Option.some.inj listed).symm
  have rest : (map.erase key).entries = before ++ after := erased
  rw [weigh, weigh, rest, split, List.map_append, List.map_append, List.map_cons, List.sum_append,
    List.sum_append, List.sum_cons, same]
  simp only
  omega

theorem erase_of_missing (missing : map.lookup key = none) :
    map.erase key = map :=
  AList.ext (List.kerase_of_notMem_keys (AList.lookup_eq_none.mp missing))

theorem weigh_erase_le (map : AList fun _ : α => β) (key : α) :
    weigh weight (map.erase key) ≤ weigh weight map := by
  cases found : map.lookup key with
  | none => rw [erase_of_missing found]
  | some value =>
    have := weigh_erase weight found
    omega

theorem weigh_eraseAll_le (map : AList fun _ : α => β) (keys : List α) :
    weigh weight (eraseAll map keys) ≤ weigh weight map := by
  induction keys generalizing map with
  | nil => exact le_rfl
  | cons key rest ih => exact (ih (map.erase key)).trans (weigh_erase_le weight map key)

theorem weigh_replace {other : β} (found : map.lookup key = some value)
    (same : weight other = weight value) :
    weigh weight (map.insert key other) = weigh weight map := by
  rw [weigh_insert, same, weigh_erase weight found]

theorem weigh_insert_new (value : β) (missing : map.lookup key = none) :
    weigh weight (map.insert key value) = weight value + weigh weight map := by
  rw [weigh_insert, erase_of_missing missing]

end Table
