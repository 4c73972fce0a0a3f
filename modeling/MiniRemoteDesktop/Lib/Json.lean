/-
**Writing compact JSON.**

A document is written from its parts, each of them already written: strings behind an escape of every
byte, numbers in decimal, and objects and arrays without blanks. How long a text gets is read off its
parts.

* `escapeByte` — the usual escapes: two bytes for a quote, a backslash and the five controls that have a
  letter, six for every other control.
* `length_object`, `length_array_le`, `length_string_le`, `length_number_le` — **how long the written
  text is**.
-/

import MiniRemoteDesktop.Lib.Text
import Mathlib.Algebra.BigOperators.Group.List.Basic
import Mathlib.Algebra.Ring.Nat

namespace Json

open List (length_append length_cons length_singleton map_cons sum_cons)

/-! ### Strings and numbers -/

/-- A hexadecimal digit in lower case. -/
def hexDigit (digit : UInt8) : UInt8 := if digit < 10 then 0x30 + digit else 0x57 + digit

def escapeByte (byte : UInt8) : List UInt8 :=
  if byte = 0x22 ∨ byte = 0x5C then [0x5C, byte]
  else if byte = 0x08 then [0x5C, 0x62]
  else if byte = 0x09 then [0x5C, 0x74]
  else if byte = 0x0A then [0x5C, 0x6E]
  else if byte = 0x0C then [0x5C, 0x66]
  else if byte = 0x0D then [0x5C, 0x72]
  else if byte < 0x20 then [0x5C, 0x75, 0x30, 0x30, hexDigit (byte / 16), hexDigit (byte % 16)]
  else [byte]

theorem length_escapeByte_le (byte : UInt8) : (escapeByte byte).length ≤ 6 := by
  unfold escapeByte
  split_ifs <;> simp

/-- A name that needs no escape. -/
def name (text : String) : List UInt8 := 0x22 :: (Text.bytes text ++ [0x22])

def string (escape : UInt8 → List UInt8) (text : String) : List UInt8 :=
  0x22 :: ((Text.bytes text).flatMap escape ++ [0x22])

def number (value : Nat) : List UInt8 := (Nat.toDigits 10 value).map fun digit => UInt8.ofNat digit.toNat

theorem length_name (text : String) : (name text).length = (Text.bytes text).length + 2 := by
  simp [name]

theorem length_string_le {escape : UInt8 → List UInt8} (bounded : ∀ byte, (escape byte).length ≤ 6)
    (text : String) : (string escape text).length ≤ 6 * (Text.bytes text).length + 2 := by
  have escaped : ∀ bytes : List UInt8, (bytes.flatMap escape).length ≤ 6 * bytes.length := by
    intro bytes
    induction bytes with
    | nil => exact Nat.le_refl 0
    | cons byte rest ih =>
      have one := bounded byte
      rw [List.flatMap_cons, length_append, length_cons]
      omega
  have all := escaped (Text.bytes text)
  rw [string, length_cons, length_append, length_singleton]
  omega

theorem length_number_le {value digits : Nat} (positive : 0 < digits) (fits : value < 10 ^ digits) :
    (number value).length ≤ digits := by
  simpa [number] using (Nat.length_toDigits_le_iff (by decide) positive).mpr fits

/-! ### Objects and arrays -/

/-- The parts, with commas between them. -/
def separated : List (List UInt8) → List UInt8
  | [] => []
  | first :: rest => first ++ rest.flatMap fun part => 0x2C :: part

/-- One member of an object. -/
def member (field : String × List UInt8) : List UInt8 := name field.1 ++ 0x3A :: field.2

def object (fields : List (String × List UInt8)) : List UInt8 :=
  0x7B :: (separated (fields.map member) ++ [0x7D])

def array (values : List (List UInt8)) : List UInt8 := 0x5B :: (separated values ++ [0x5D])

theorem length_commas (parts : List (List UInt8)) :
    (parts.flatMap fun part => 0x2C :: part).length = (parts.map fun part => part.length + 1).sum := by
  induction parts with
  | nil => rfl
  | cons part rest ih =>
    rw [List.flatMap_cons, length_append, ih, map_cons, sum_cons, length_cons]

theorem length_separated_le (parts : List (List UInt8)) :
    (separated parts).length ≤ (parts.map fun part => part.length + 1).sum := by
  cases parts with
  | nil => exact Nat.le_refl 0
  | cons first rest =>
    rw [separated, length_append, length_commas, map_cons, sum_cons]
    omega

/-- **Members and braces.** -/
theorem length_object_le (fields : List (String × List UInt8)) :
    (object fields).length ≤
      2 + (fields.map fun field => (Text.bytes field.1).length + field.2.length + 4).sum := by
  have parts := length_separated_le (fields.map member)
  have members : ((fields.map member).map fun part => part.length + 1) =
      fields.map fun field => (Text.bytes field.1).length + field.2.length + 4 := by
    rw [List.map_map]
    refine List.map_congr_left fun field _ => ?_
    show (name field.1 ++ 0x3A :: field.2).length + 1 = _
    rw [length_append, length_name, length_cons]
    omega
  rw [members] at parts
  rw [object, length_cons, length_append, length_singleton]
  omega

/-- **Elements and brackets.** -/
theorem length_array_le (values : List (List UInt8)) :
    (array values).length ≤ 2 + (values.map fun value => value.length + 1).sum := by
  have parts := length_separated_le values
  rw [array, length_cons, length_append, length_singleton]
  omega

end Json
