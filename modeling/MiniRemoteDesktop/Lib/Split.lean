/-
**Cutting a list at separators, and trimming it.**

* `free_of_mem_splitOnP`, `mem_of_mem_splitOnP`, `sum_splitOnP` — the pieces contain no separator and only
  elements of the list, and with one element for each of them they are as long as the list.
* `splitOnP_intercalate`, `splitOnP_join` — **joined pieces are cut at the places they were joined at**.
* `length_intercalate` — the length of joined pieces.
-/

import Mathlib.Data.List.DropRight
import Mathlib.Algebra.BigOperators.Group.List.Basic
import Mathlib.Algebra.Ring.Nat

namespace Split

open List (cons_ne_nil exists_cons_of_ne_nil length_append length_cons map_cons mem_cons
  splitOnP_ne_nil sum_cons)

variable {α : Type} {p : α → Bool}

/-! ### Cutting -/

variable {list : List α}

theorem free_of_mem_splitOnP : ∀ piece ∈ list.splitOnP p, ∀ a ∈ piece, p a = false := by
  induction list with
  | nil =>
    intro piece member a inside
    rw [List.splitOnP_nil, List.mem_singleton] at member
    simp [member] at inside
  | cons first rest ih =>
    rw [List.splitOnP_cons_eq_if_modifyHead]
    split
    · intro piece member a inside
      rcases mem_cons.mp member with rfl | member
      · cases inside
      · exact ih piece member a inside
    next kept =>
      obtain ⟨head, tail, cut⟩ := exists_cons_of_ne_nil (splitOnP_ne_nil p rest)
      rw [cut] at ih ⊢
      intro piece member a inside
      rcases mem_cons.mp member with rfl | member
      · rcases mem_cons.mp inside with rfl | inside
        · exact Bool.not_eq_true _ ▸ kept
        · exact ih head (.head _) a inside
      · exact ih piece (.tail _ member) a inside

theorem mem_of_mem_splitOnP : ∀ piece ∈ list.splitOnP p, ∀ a ∈ piece, a ∈ list := by
  induction list with
  | nil =>
    intro piece member a inside
    rw [List.splitOnP_nil, List.mem_singleton] at member
    rwa [member] at inside
  | cons first rest ih =>
    rw [List.splitOnP_cons_eq_if_modifyHead]
    split
    · intro piece member a inside
      rcases mem_cons.mp member with rfl | member
      · cases inside
      · exact .tail _ (ih piece member a inside)
    · obtain ⟨head, tail, cut⟩ := exists_cons_of_ne_nil (splitOnP_ne_nil p rest)
      rw [cut] at ih ⊢
      intro piece member a inside
      rcases mem_cons.mp member with rfl | member
      · rcases mem_cons.mp inside with rfl | inside
        · exact (.head _)
        · exact .tail _ (ih head (.head _) a inside)
      · exact .tail _ (ih piece (.tail _ member) a inside)

/-- Only the elements of the list decide where it is cut. -/
theorem splitOnP_congr {q : α → Bool} (same : ∀ a ∈ list, p a = q a) :
    list.splitOnP p = list.splitOnP q := by
  induction list with
  | nil => rfl
  | cons first rest ih =>
    rw [List.splitOnP_cons_eq_if_modifyHead, List.splitOnP_cons_eq_if_modifyHead,
      same first (.head _), ih fun a member => same a (.tail _ member)]

theorem sum_splitOnP (list : List α) :
    ((list.splitOnP p).map fun piece => piece.length + 1).sum = list.length + 1 := by
  induction list with
  | nil => rfl
  | cons first rest ih =>
    rw [List.splitOnP_cons_eq_if_modifyHead]
    split
    · rw [map_cons, sum_cons, ih, List.length_nil, length_cons]
      omega
    · obtain ⟨head, tail, cut⟩ := exists_cons_of_ne_nil (splitOnP_ne_nil p rest)
      rw [cut, map_cons, sum_cons] at ih
      rw [cut, List.modifyHead_cons, map_cons, sum_cons, length_cons, length_cons]
      omega

/-- The first piece starts with the first element, unless that is a separator. -/
theorem head_splitOnP {first : α} (kept : p first = false) (rest : List α) :
    ∃ more others, (first :: rest).splitOnP p = (first :: more) :: others := by
  obtain ⟨head, tail, cut⟩ := exists_cons_of_ne_nil (splitOnP_ne_nil p rest)
  refine ⟨head, tail, ?_⟩
  rw [List.splitOnP_cons_eq_if_modifyHead, if_neg (by rw [kept]; exact Bool.false_ne_true), cut,
    List.modifyHead_cons]

/-! ### Joining -/

variable {parts : List (List α)} {separator : α}

/-- **Joined lists are cut where they were joined**, and then each on its own. -/
theorem splitOnP_intercalate (cuts : p separator = true) (given : parts ≠ []) :
    ([separator].intercalate parts).splitOnP p = parts.flatMap fun part => part.splitOnP p := by
  induction parts with
  | nil => exact absurd rfl given
  | cons first rest ih =>
    cases rest with
    | nil => rw [List.intercalate_singleton, List.flatMap_singleton]
    | cons second others =>
      simp [List.splitOnP_append_cons _ _ cuts, ih (cons_ne_nil _ _)]

theorem splitOnP_join (cuts : p separator = true) (given : parts ≠ [])
    (free : ∀ part ∈ parts, ∀ a ∈ part, p a = false) :
    ([separator].intercalate parts).splitOnP p = parts := by
  rw [splitOnP_intercalate cuts given]
  clear given
  induction parts with
  | nil => rfl
  | cons first rest ih =>
    simp [List.splitOnP_eq_singleton (free first (.head _)), ih (List.forall_mem_cons.mp free).2]

theorem length_intercalate (given : parts ≠ []) :
    ([separator].intercalate parts).length + 1 = (parts.map fun part => part.length + 1).sum := by
  induction parts with
  | nil => exact absurd rfl given
  | cons first rest ih =>
    cases rest with
    | nil => rw [List.intercalate_singleton, List.map_singleton, List.sum_singleton]
    | cons second others =>
      have later := ih (cons_ne_nil _ _)
      rw [List.intercalate_cons_cons, map_cons, sum_cons, ← later, length_append,
        length_append, List.length_singleton]
      omega

theorem mem_intercalate {a : α} (member : a ∈ [separator].intercalate parts) :
    a = separator ∨ ∃ part ∈ parts, a ∈ part := by
  induction parts with
  | nil => cases member
  | cons first rest ih =>
    cases rest with
    | nil =>
      rw [List.intercalate_singleton] at member
      exact .inr ⟨first, List.mem_singleton_self _, member⟩
    | cons second others =>
      rw [List.intercalate_cons_cons, List.append_assoc, List.singleton_append] at member
      rcases List.mem_append.mp member with inside | member
      · exact .inr ⟨first, (.head _), inside⟩
      · rcases mem_cons.mp member with rfl | member
        · exact .inl rfl
        · rcases ih member with same | ⟨part, listed, inside⟩
          · exact .inl same
          · exact .inr ⟨part, .tail _ listed, inside⟩

theorem getLast?_intercalate {last : List α} (given : last ≠ []) :
    ([separator].intercalate (parts ++ [last])).getLast? = last.getLast? := by
  induction parts with
  | nil => rw [List.nil_append, List.intercalate_singleton]
  | cons first rest ih =>
    obtain ⟨head, tail, shape⟩ := exists_cons_of_ne_nil (List.append_ne_nil_of_right_ne_nil rest
      (cons_ne_nil last []))
    have some : ∃ a, last.getLast? = .some a := by
      rw [List.getLast?_eq_some_getLast given]
      exact ⟨_, rfl⟩
    obtain ⟨a, ends⟩ := some
    rw [List.cons_append, shape, List.intercalate_cons_cons, List.getLast?_append, ← shape, ih, ends]
    rfl

/-! ### Trimming -/

/-- The list without the elements at either end that satisfy the predicate. -/
def trimmed (p : α → Bool) (list : List α) : List α := ((list.dropWhile p).reverse.dropWhile p).reverse

theorem trimmed_eq_rdropWhile (list : List α) : trimmed p list = (list.dropWhile p).rdropWhile p := rfl

theorem trimmed_self (starts : ∀ a ∈ list.head?, p a = false)
    (ends : ∀ a ∈ list.getLast?, p a = false) : trimmed p list = list := by
  have front : list.dropWhile p = list := by
    cases list with
    | nil => rfl
    | cons first rest =>
      simp [starts first rfl]
  rw [trimmed_eq_rdropWhile, front, List.rdropWhile_eq_self_iff]
  intro given
  simp [ends _ (List.getLast?_eq_some_getLast given)]

theorem head?_trimmed : ∀ a ∈ (trimmed p list).head?, p a = false := by
  intro a first
  have initial : (list.dropWhile p).rdropWhile p <+: list.dropWhile p :=
    List.rdropWhile_prefix p _
  obtain ⟨tail, whole⟩ := initial
  have head : (list.dropWhile p).head? = some a := by
    rw [← whole, List.head?_append]
    rw [trimmed_eq_rdropWhile, Option.mem_def] at first
    simp [first]
  have kept := List.head?_dropWhile_not p list
  simpa [head] using kept

theorem length_trimmed_lt {a : α} (last : list.getLast? = some a) (dropped : p a = true) :
    (trimmed p list).length < list.length := by
  obtain ⟨front, rfl⟩ := List.getLast?_eq_some_iff.mp last
  have shorter : (trimmed p (front ++ [a])).length ≤ front.length := by
    rw [trimmed_eq_rdropWhile]
    have initial : ((front ++ [a]).dropWhile p).rdropWhile p = (front.dropWhile p).rdropWhile p := by
      by_cases all : ∀ b ∈ front, p b = true
      · rw [List.dropWhile_append_of_pos all, List.dropWhile_cons_of_pos dropped,
          List.dropWhile_eq_nil_iff.mpr all]
        rfl
      · rw [List.dropWhile_append, if_neg, List.rdropWhile_concat_pos p _ _ dropped]
        rw [List.isEmpty_iff, List.dropWhile_eq_nil_iff]
        exact all
    rw [initial]
    exact le_trans (List.rdropWhile_prefix p _).length_le (List.dropWhile_sublist p).length_le
  rw [length_append, List.length_singleton]
  omega

end Split
