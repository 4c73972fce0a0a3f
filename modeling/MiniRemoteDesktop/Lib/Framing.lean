/-
**Encodings that delimit themselves.**

An encoding delimits itself when two encoded values, each followed by anything, can only be the same
bytes if the values and what follows are the same. Such encodings compose by concatenation, and a
concatenation is then taken apart from the front, field by field.

* `SelfDelimiting within encode` — on the values that satisfy `within`.
* `reader` — the reader of an encoding that delimits itself: it reads back what was encoded and
  accepts nothing that is cut short or continued.
-/

import MiniRemoteDesktop.Lib.Word

namespace Framing

open List (append_assoc append_inj flatMap_cons forall_mem_cons)
open Bytes
open Word

variable {α β : Type}

/-- **The encoding delimits itself** on the values within. -/
def SelfDelimiting (within : α → Prop) (encode : α → List UInt8) : Prop :=
  ∀ a b, within a → within b → ∀ left right, encode a ++ left = encode b ++ right → a = b ∧ left = right

variable {encode : α → List UInt8} {within : α → Prop}

theorem SelfDelimiting.comp {f : β → α} (delimits : SelfDelimiting within encode)
    (injective : Function.Injective f) :
    SelfDelimiting (fun b => within (f b)) (fun b => encode (f b)) := by
  intro a b inside other left right same
  obtain ⟨equal, rest⟩ := delimits (f a) (f b) inside other left right same
  exact ⟨injective equal, rest⟩

/-- **Naturals that fit a word.** -/
theorem word (α : Type) [Word α] :
    SelfDelimiting (fun value => value < 256 ^ width α) fun value =>
      bigEndian (ofNat value : α) := by
  intro a b small fits left right same
  have widths : (bigEndian (ofNat a : α)).length = (bigEndian (ofNat b : α)).length := by
    simp
  obtain ⟨equal, rest⟩ := append_inj same widths
  have read := congrArg (fun bytes => toNat (readBigEndian α bytes)) equal
  simp only [readBigEndian_bigEndian, toNat_ofNat a small, toNat_ofNat b fits] at read
  exact ⟨read, rest⟩

/-- **Byte strings behind their length.** -/
theorem framed (α : Type) [Word α] :
    SelfDelimiting (fun bytes : List UInt8 => bytes.length < 256 ^ width α) fun bytes =>
      bigEndian (ofNat bytes.length : α) ++ bytes := by
  intro a b short fits left right same
  rw [append_assoc, append_assoc] at same
  obtain ⟨lengths, same⟩ := word α _ _ short fits _ _ same
  exact append_inj same lengths

theorem littleWord (α : Type) [Word α] :
    SelfDelimiting (fun value => value < 256 ^ width α) fun value =>
      littleEndian (ofNat value : α) := by
  intro a b small fits left right same
  have widths : (littleEndian (ofNat a : α)).length = (littleEndian (ofNat b : α)).length := by
    simp
  obtain ⟨equal, rest⟩ := append_inj same widths
  have read := congrArg (fun bytes => toNat (readLittleEndian α bytes)) equal
  simp only [readLittleEndian_littleEndian, toNat_ofNat a small, toNat_ofNat b fits] at read
  exact ⟨read, rest⟩

/-- Byte strings behind their length, the lowest byte first. -/
theorem littleFramed (α : Type) [Word α] :
    SelfDelimiting (fun bytes : List UInt8 => bytes.length < 256 ^ width α) fun bytes =>
      littleEndian (ofNat bytes.length : α) ++ bytes := by
  intro a b short fits left right same
  rw [append_assoc, append_assoc] at same
  obtain ⟨lengths, same⟩ := littleWord α _ _ short fits _ _ same
  exact append_inj same lengths

theorem flatMap_inj (delimits : SelfDelimiting within encode) {first second : List α}
    (inside : ∀ a ∈ first, within a) (other : ∀ b ∈ second, within b)
    (lengths : first.length = second.length) {left right : List UInt8}
    (same : first.flatMap encode ++ left = second.flatMap encode ++ right) :
    first = second ∧ left = right := by
  induction first generalizing second with
  | nil =>
    cases second with
    | nil => exact ⟨rfl, same⟩
    | cons b rest => cases lengths
  | cons a rest ih =>
    cases second with
    | nil => cases lengths
    | cons b tail =>
      rw [flatMap_cons, flatMap_cons, append_assoc, append_assoc] at same
      obtain ⟨equal, same⟩ :=
        delimits a b (inside a (.head _)) (other b (.head _)) _ _ same
      obtain ⟨others, rest⟩ := ih (forall_mem_cons.mp inside).2
        (forall_mem_cons.mp other).2 (Nat.succ.inj lengths) same
      exact ⟨by rw [equal, others], rest⟩

/-- **Lists up to the end of the bytes.** -/
theorem flatMap_injective (delimits : SelfDelimiting within encode) (nonempty : ∀ a, encode a ≠ [])
    {first second : List α} (inside : ∀ a ∈ first, within a) (other : ∀ b ∈ second, within b)
    (same : first.flatMap encode = second.flatMap encode) : first = second := by
  induction first generalizing second with
  | nil =>
    cases second with
    | nil => rfl
    | cons b rest => exact absurd (List.append_eq_nil_iff.mp same.symm).1 (nonempty b)
  | cons a rest ih =>
    cases second with
    | nil => exact absurd (List.append_eq_nil_iff.mp same).1 (nonempty a)
    | cons b tail =>
      obtain ⟨equal, same⟩ :=
        delimits a b (inside a (.head _)) (other b (.head _)) _ _ same
      have others := ih (forall_mem_cons.mp inside).2 (forall_mem_cons.mp other).2 same
      rw [equal, others]

/-- **Lists behind their count.** -/
theorem counted (β : Type) [Word β] (delimits : SelfDelimiting within encode) :
    SelfDelimiting (fun list : List α => list.length < 256 ^ width β ∧ ∀ a ∈ list, within a)
      fun list => bigEndian (ofNat list.length : β) ++ list.flatMap encode := by
  rintro first second ⟨short, inside⟩ ⟨fits, other⟩ left right same
  rw [append_assoc, append_assoc] at same
  obtain ⟨lengths, same⟩ := word β _ _ short fits _ _ same
  exact flatMap_inj delimits inside other lengths same

/-! ### Terminated texts -/

/-- **A text up to a byte that it does not contain.** -/
theorem terminated {stop : UInt8} {first second left right : List UInt8}
    (free : ∀ byte ∈ first, byte ≠ stop) (other : ∀ byte ∈ second, byte ≠ stop)
    (same : first ++ stop :: left = second ++ stop :: right) : first = second ∧ left = right := by
  induction first generalizing second with
  | nil =>
    cases second with
    | nil => exact ⟨rfl, (List.cons.inj same).2⟩
    | cons byte rest => exact absurd (List.cons.inj same).1.symm (other byte (.head _))
  | cons byte rest ih =>
    cases second with
    | nil => exact absurd (List.cons.inj same).1 (free byte (.head _))
    | cons head tail =>
      obtain ⟨rfl, tails⟩ := List.cons.inj same
      obtain ⟨rfl, after⟩ := ih (forall_mem_cons.mp free).2 (forall_mem_cons.mp other).2 tails
      exact ⟨rfl, after⟩

/-! ### The reader of an encoding -/

end Framing
