/-
**Tables as lists of rows.**

A table of a database is the list of its rows, and a column (or a function of the row) is its key.

* `row` — the first row under a key.
* `put` — insert a row, or replace the one under its key; `row_put` — what is found afterwards.
-/

import Mathlib.Data.List.Basic

namespace Rows

variable {α κ : Type} [DecidableEq κ] {key : α → κ} {rows : List α}

/-- The first row under a key. -/
def row (key : α → κ) (rows : List α) (wanted : κ) : Option α := rows.find? fun found => key found = wanted

variable {wanted : κ} {found : α}

theorem row_mem (there : row key rows wanted = some found) : found ∈ rows :=
  List.mem_of_find?_eq_some there

theorem row_key (there : row key rows wanted = some found) :
    key found = wanted := by
  have fits := List.find?_some there
  exact of_decide_eq_true fits

theorem row_eq_none : row key rows wanted = none ↔ ∀ other ∈ rows, key other ≠ wanted := by
  simp [row]

/-- **An update that keeps the keys.** -/
theorem row_map {f : α → α} (keeps : ∀ other, key (f other) = key other) (wanted : κ) :
    row key (rows.map f) wanted = (row key rows wanted).map f := by
  unfold row
  rw [List.find?_map]
  have same : ((fun found => decide (key found = wanted)) ∘ f) = fun found => decide (key found = wanted) := by
    funext other
    exact decide_eq_decide.mpr (keeps other ▸ Iff.rfl)
  rw [same]

/-- **A new row.** -/
theorem row_append {new : α} (fresh : row key rows (key new) = none) (wanted : κ) :
    row key (rows ++ [new]) wanted = if key new = wanted then some new else row key rows wanted := by
  unfold row
  rw [List.find?_append]
  by_cases own : key new = wanted
  · rw [if_pos own]
    have before : rows.find? (fun found => decide (key found = wanted)) = none := own ▸ fresh
    rw [before, Option.none_or, List.find?_singleton, if_pos (decide_eq_true own)]
  · simp [own]

theorem row_append_of_some {new : α} (there : row key rows wanted = some found) :
    row key (rows ++ [new]) wanted = some found := by
  unfold row at there ⊢
  simp [there]

/-- Insert a row, or replace the rows under its key. -/
def put (key : α → κ) (rows : List α) (new : α) : List α :=
  if (row key rows (key new)).isSome then rows.map fun other => if key other = key new then new else other
  else rows ++ [new]

theorem row_put (new : α) (wanted : κ) :
    row key (put key rows new) wanted = if key new = wanted then some new else row key rows wanted := by
  unfold put
  split
  next there =>
    rw [row_map (fun other => by split <;> simp_all)]
    by_cases own : key new = wanted
    · rw [if_pos own]
      obtain ⟨found, exact⟩ := Option.isSome_iff_exists.mp there
      rw [own] at exact
      simp [exact, (row_key exact).trans own.symm]
    · rw [if_neg own]
      cases found : row key rows wanted with
      | none => rfl
      | some other => rw [Option.map_some, if_neg fun same => own (same.symm.trans (row_key found))]
  next missing =>
    exact row_append (Option.not_isSome_iff_eq_none.mp missing) wanted

theorem mem_put {new other : α} (member : other ∈ put key rows new) :
    other = new ∨ other ∈ rows ∧ key other ≠ key new := by
  unfold put at member
  split at member
  · obtain ⟨before, stood, same⟩ := List.mem_map.mp member
    split at same
    · exact .inl same.symm
    next other' =>
      exact .inr ⟨same ▸ stood, same ▸ other'⟩
  next missing =>
    rcases List.mem_append.mp member with before | last
    · exact .inr ⟨before, row_eq_none.mp (Option.not_isSome_iff_eq_none.mp missing) other before⟩
    · exact .inl (List.mem_singleton.mp last)

end Rows
