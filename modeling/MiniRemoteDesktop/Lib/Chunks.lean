/-
**Splitting a list into pieces of one size.**

`chunks size list` is the documented behaviour of `slice::chunks`: the pieces are taken from the
front, each of `size` elements, the last one shorter if `size` does not divide the length. Their
number is `divCeil`, and joined again they are the list.
-/

import Mathlib.Data.List.Flatten
import Mathlib.Algebra.Order.Ring.Nat

namespace Chunks

variable {α : Type}

def divCeil (number divisor : Nat) : Nat :=
  if number % divisor = 0 then number / divisor else number / divisor + 1

/-- `slice::chunks`, for a positive size. -/
def chunks (size : Nat) (list : List α) : List (List α) :=
  (List.range (divCeil list.length size)).map fun index => (list.drop (index * size)).take size

theorem le_divCeil_mul {number divisor : Nat} (positive : 0 < divisor) :
    number ≤ divCeil number divisor * divisor := by
  have split := Nat.div_add_mod number divisor
  have small := Nat.mod_lt number positive
  rw [Nat.mul_comm divisor] at split
  unfold divCeil
  by_cases divides : number % divisor = 0
  · rw [if_pos divides]
    omega
  · rw [if_neg divides, Nat.add_mul]
    omega

theorem divCeil_pos {number divisor : Nat} (positive : 0 < number) (nonzero : 0 < divisor) :
    0 < divCeil number divisor := by
  by_contra zero
  have bound := @le_divCeil_mul number divisor nonzero
  rw [Nat.eq_zero_of_not_pos zero, Nat.zero_mul] at bound
  omega

theorem divCeil_zero (divisor : Nat) : divCeil 0 divisor = 0 := by
  simp [divCeil]

@[simp] theorem length_chunks (size : Nat) (list : List α) :
    (chunks size list).length = divCeil list.length size := by
  simp [chunks]

variable {size : Nat}

theorem length_le_of_mem_chunks {list piece : List α} (member : piece ∈ chunks size list) :
    piece.length ≤ size := by
  obtain ⟨index, -, rfl⟩ := List.mem_map.mp member
  exact List.length_take_le _ _

theorem flatten_windows (size : Nat) (list : List α) (count : Nat) :
    ((List.range count).map fun index => (list.drop (index * size)).take size).flatten =
      list.take (count * size) := by
  induction count with
  | zero => rw [Nat.zero_mul, List.take_zero, List.range_zero, List.map_nil, List.flatten_nil]
  | succ count ih =>
    rw [List.range_succ, List.map_append, List.flatten_append, ih, List.map_singleton,
      List.flatten_singleton, Nat.succ_mul, List.take_add]

/-- **The pieces joined again are the list.** -/
theorem flatten_chunks (positive : 0 < size) (list : List α) :
    (chunks size list).flatten = list := by
  rw [chunks, flatten_windows, List.take_of_length_le (le_divCeil_mul positive)]

theorem length_first_chunk {list : List α} (inside : 0 < (chunks size list).length) :
    ((chunks size list)[0]).length = min size list.length := by
  simp [chunks]

end Chunks
