/-
**Parity of words of unequal lengths.**

`into op acc word` combines a word into an accumulator letter by letter, as far as the accumulator
reaches. `Law op zero` is what a parity letter needs: combining is commutative and associative,
a letter combined twice cancels, and `zero` changes nothing (exclusive or on bytes).

* `into_comm`, `into_cancel` — words commute, and a word combined twice cancels.
* `foldl_into_perm` — the parity of a list of words does not depend on their order.
-/

import Mathlib.Data.List.Perm.Basic

namespace Parity

variable {α : Type} {op : α → α → α} {zero : α}

/-- What the letters of a parity satisfy. -/
structure Law (op : α → α → α) (zero : α) : Prop where
  comm : ∀ a b, op a b = op b a
  assoc : ∀ a b c, op (op a b) c = op a (op b c)
  cancel : ∀ a b, op (op a b) b = a
  unit : ∀ a, op zero a = a

/-- Combine a word into an accumulator, as far as the accumulator reaches. -/
def into (op : α → α → α) : List α → List α → List α
  | [], _ => []
  | acc, [] => acc
  | a :: acc, b :: word => op a b :: into op acc word

@[simp] theorem into_nil (acc : List α) : into op acc [] = acc := by
  cases acc <;> rfl

section

variable (law : Law op zero)
include law

theorem into_comm (acc first second : List α) :
    into op (into op acc first) second = into op (into op acc second) first := by
  induction acc generalizing first second with
  | nil => rfl
  | cons a acc ih =>
    cases first with
    | nil => simp
    | cons b first =>
      cases second with
      | nil => simp
      | cons c second =>
        show op (op a b) c :: _ = op (op a c) b :: _
        rw [law.assoc, law.comm b c, ← law.assoc, ih]

theorem into_cancel (acc word : List α) :
    into op (into op acc word) word = acc := by
  induction acc generalizing word with
  | nil => rfl
  | cons a acc ih =>
    cases word with
    | nil => rfl
    | cons b word =>
      show op (op a b) b :: _ = a :: acc
      rw [law.cancel, ih]

theorem into_zeros (word : List α) :
    into op (List.replicate word.length zero) word = word := by
  induction word with
  | nil => rfl
  | cons b word ih =>
    show op zero b :: into op (List.replicate word.length zero) word = b :: word
    rw [law.unit, ih]

/-! ### The parity of several words -/

variable {others words : List (List α)}

theorem foldl_into_perm (same : words.Perm others) (acc : List α) :
    words.foldl (into op) acc = others.foldl (into op) acc := by
  induction same generalizing acc with
  | nil => rfl
  | cons word _ ih => exact ih _
  | swap first second rest =>
    simp [into_comm law]
  | trans _ _ first second => rw [first, second]

theorem foldl_into_comm (words : List (List α)) (acc word : List α) :
    words.foldl (into op) (into op acc word) = into op (words.foldl (into op) acc) word := by
  have moved : (word :: words).Perm (words ++ [word]) := (List.perm_append_singleton _ _).symm
  have folded := foldl_into_perm law moved acc
  simpa using folded

theorem foldl_into_cancel (words : List (List α)) (acc : List α) :
    words.foldl (into op) (words.foldl (into op) acc) = acc := by
  induction words generalizing acc with
  | nil => rfl
  | cons word words ih =>
    simp [← foldl_into_comm law, into_cancel law, ih]

/-- **One missing word is restored**: the parity combined with the words that are there. -/
theorem restore {missing : List α} (split : words.Perm (missing :: others)) :
    others.foldl (into op) (words.foldl (into op) (List.replicate missing.length zero)) =
      missing := by
  simp [foldl_into_perm law split, foldl_into_cancel law, into_zeros law]

end

end Parity
