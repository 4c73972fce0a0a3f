/-
**Fixed-width integers as bytes.**

* `Word α` — a machine integer of `width` bytes: the naturals below `256 ^ width`, whatever the type.
  Signed types are words through their two's complement.
* `littleEndian`, `bigEndian` and their readers, for every word at once, with both round trips: what
  is written is read back, and `width` bytes that are read are written back as they are.
-/

import Mathlib.Algebra.Order.Ring.Nat
import Mathlib.Data.UInt

namespace Bytes

/-! ### Naturals -/

/-- The `width` low bytes of a natural, least significant first. -/
def ofNatLe : Nat → Nat → List UInt8
  | 0, _ => []
  | width + 1, value => UInt8.ofNat value :: ofNatLe width (value / 256)

/-- The natural with the given bytes, least significant first. -/
def toNatLe : List UInt8 → Nat
  | [] => 0
  | byte :: rest => byte.toNat + 256 * toNatLe rest

@[simp] theorem length_ofNatLe (width value : Nat) : (ofNatLe width value).length = width := by
  induction width generalizing value with
  | zero => rfl
  | succ width ih => rw [ofNatLe, List.length_cons, ih]

theorem toNatLe_ofNatLe (width value : Nat) : toNatLe (ofNatLe width value) = value % 256 ^ width := by
  induction width generalizing value with
  | zero => rw [pow_zero, Nat.mod_one, ofNatLe, toNatLe]
  | succ width ih =>
    have low : (UInt8.ofNat value).toNat = value % 256 := UInt8.toNat_ofNat'
    rw [ofNatLe, toNatLe, ih, low, pow_succ', Nat.mod_mul]

theorem toNatLe_lt (bytes : List UInt8) : toNatLe bytes < 256 ^ bytes.length := by
  induction bytes with
  | nil => exact Nat.one_pos
  | cons byte rest ih =>
    have small : byte.toNat < 256 := byte.toNat_lt
    rw [toNatLe, List.length_cons, pow_succ]
    omega

theorem ofNatLe_toNatLe (bytes : List UInt8) : ofNatLe bytes.length (toNatLe bytes) = bytes := by
  induction bytes with
  | nil => rfl
  | cons byte rest ih =>
    have small : byte.toNat < 256 := byte.toNat_lt
    have high : (byte.toNat + 256 * toNatLe rest) / 256 = toNatLe rest := by omega
    have low : UInt8.ofNat (byte.toNat + 256 * toNatLe rest) = byte := by
      refine UInt8.toNat_inj.mp ?_
      rw [UInt8.toNat_ofNat']
      omega
    simp [toNatLe, ofNatLe, high, low, ih]

/-! ### Words -/

/-- A machine integer of `width` bytes. -/
class Word (α : Type) where
  width : Nat
  toNat : α → Nat
  ofNat : Nat → α
  toNat_lt : ∀ word, toNat word < 256 ^ width
  ofNat_toNat : ∀ word, ofNat (toNat word) = word
  toNat_ofNat : ∀ value, value < 256 ^ width → toNat (ofNat value) = value

instance : Word UInt8 where
  width := 1
  toNat := UInt8.toNat
  ofNat := UInt8.ofNat
  toNat_lt := UInt8.toNat_lt
  ofNat_toNat := fun _ => UInt8.ofNat_toNat
  toNat_ofNat := fun _ small => UInt8.toNat_ofNat_of_lt small

instance : Word UInt16 where
  width := 2
  toNat := UInt16.toNat
  ofNat := UInt16.ofNat
  toNat_lt := UInt16.toNat_lt
  ofNat_toNat := fun _ => UInt16.ofNat_toNat
  toNat_ofNat := fun _ small => UInt16.toNat_ofNat_of_lt small

instance : Word UInt32 where
  width := 4
  toNat := UInt32.toNat
  ofNat := UInt32.ofNat
  toNat_lt := UInt32.toNat_lt
  ofNat_toNat := fun _ => UInt32.ofNat_toNat
  toNat_ofNat := fun _ small => UInt32.toNat_ofNat_of_lt small

instance : Word UInt64 where
  width := 8
  toNat := UInt64.toNat
  ofNat := UInt64.ofNat
  toNat_lt := UInt64.toNat_lt
  ofNat_toNat := fun _ => UInt64.ofNat_toNat
  toNat_ofNat := fun _ small => UInt64.toNat_ofNat_of_lt small

instance : Word Int16 where
  width := 2
  toNat := fun word => word.toUInt16.toNat
  ofNat := fun value => (UInt16.ofNat value).toInt16
  toNat_lt := fun word => word.toUInt16.toNat_lt
  ofNat_toNat := fun word => by rw [UInt16.ofNat_toNat, Int16.toInt16_toUInt16]
  toNat_ofNat := fun value small => by
    simpa using Nat.mod_eq_of_lt small

instance : Word Int32 where
  width := 4
  toNat := fun word => word.toUInt32.toNat
  ofNat := fun value => (UInt32.ofNat value).toInt32
  toNat_lt := fun word => word.toUInt32.toNat_lt
  ofNat_toNat := fun word => by rw [UInt32.ofNat_toNat, Int32.toInt32_toUInt32]
  toNat_ofNat := fun value small => by
    simpa using Nat.mod_eq_of_lt small

variable {α : Type} [Word α]

def littleEndian (word : α) : List UInt8 := ofNatLe (Word.width α) (Word.toNat word)

def readLittleEndian (α : Type) [Word α] (bytes : List UInt8) : α := Word.ofNat (toNatLe bytes)

def bigEndian (word : α) : List UInt8 := (littleEndian word).reverse

def readBigEndian (α : Type) [Word α] (bytes : List UInt8) : α :=
  readLittleEndian α bytes.reverse

@[simp] theorem length_littleEndian (word : α) : (littleEndian word).length = Word.width α :=
  length_ofNatLe _ _

@[simp] theorem length_bigEndian (word : α) : (bigEndian word).length = Word.width α := by
  simp [bigEndian, length_littleEndian]

@[simp] theorem readLittleEndian_littleEndian (word : α) :
    readLittleEndian α (littleEndian word) = word := by
  rw [readLittleEndian, littleEndian, toNatLe_ofNatLe, Nat.mod_eq_of_lt (Word.toNat_lt word),
    Word.ofNat_toNat]

@[simp] theorem readBigEndian_bigEndian (word : α) : readBigEndian α (bigEndian word) = word := by
  simp [readBigEndian, bigEndian, readLittleEndian_littleEndian]

variable {bytes : List UInt8}

theorem littleEndian_readLittleEndian (whole : bytes.length = Word.width α) :
    littleEndian (readLittleEndian α bytes) = bytes := by
  rw [littleEndian, readLittleEndian, Word.toNat_ofNat _ (whole ▸ toNatLe_lt bytes), ← whole,
    ofNatLe_toNatLe]

theorem bigEndian_readBigEndian (whole : bytes.length = Word.width α) :
    bigEndian (readBigEndian α bytes) = bytes := by
  simp [bigEndian, readBigEndian, littleEndian_readLittleEndian (by rwa [List.length_reverse])]

@[simp] theorem width_uInt8 : Word.width UInt8 = 1 := rfl
@[simp] theorem width_uInt16 : Word.width UInt16 = 2 := rfl
@[simp] theorem width_uInt32 : Word.width UInt32 = 4 := rfl
@[simp] theorem width_uInt64 : Word.width UInt64 = 8 := rfl
@[simp] theorem width_int16 : Word.width Int16 = 2 := rfl
@[simp] theorem width_int32 : Word.width Int32 = 4 := rfl

/-! ### Windows -/

/-- `bytes[start..start + length]`. -/
def slice (bytes : List UInt8) (start length : Nat) : List UInt8 := (bytes.drop start).take length

variable {front back : List UInt8} {length : Nat}

/-- **Reading past a prefix.** -/
theorem slice_append {start : Nat} (past : front.length ≤ start) :
    slice (front ++ back) start length = slice back (start - front.length) length := by
  simp [slice, List.drop_append, List.drop_eq_nil_of_le past]

/-- **Reading exactly a prefix.** -/
theorem slice_front (whole : front.length = length) :
    slice (front ++ back) 0 length = front := by
  simp [slice, ← whole]

theorem slice_self (whole : bytes.length = length) :
    slice bytes 0 length = bytes := by
  simp [slice, ← whole]

theorem length_slice {start : Nat} (within : start + length ≤ bytes.length) :
    (slice bytes start length).length = length := by
  rw [slice, List.length_take, List.length_drop]
  omega

theorem slice_append_slice {first second : Nat} (whole : bytes.length = first + second) :
    slice bytes 0 first ++ slice bytes first second = bytes := by
  have rest : (bytes.drop first).take second = bytes.drop first :=
    List.take_of_length_le (by rw [List.length_drop]; omega)
  simp [slice, rest]

theorem drop_append_past {count : Nat} (past : front.length ≤ count) :
    (front ++ back).drop count = back.drop (count - front.length) := by
  simp [List.drop_append, List.drop_eq_nil_of_le past]

/-- `bytes[index]`, for an index inside. -/
def byteAt (bytes : List UInt8) (index : Nat) : UInt8 := bytes.getD index 0

/-- The big-endian word at `bytes[start..]`. -/
def bigEndianAt (α : Type) [Word α] (bytes : List UInt8) (start : Nat) : α :=
  readBigEndian α (slice bytes start (Word.width α))

/-- The little-endian word at `bytes[start..]`. -/
def littleEndianAt (α : Type) [Word α] (bytes : List UInt8) (start : Nat) : α :=
  readLittleEndian α (slice bytes start (Word.width α))

section Reading

variable {front back : List UInt8} {start index : Nat}

@[simp] theorem byteAt_cons_zero (byte : UInt8) : byteAt (byte :: back) 0 = byte := rfl

@[simp] theorem byteAt_cons_succ (byte : UInt8) : byteAt (byte :: back) (index + 1) = byteAt back index :=
  rfl

@[simp] theorem byteAt_append (past : front.length ≤ index) :
    byteAt (front ++ back) index = byteAt back (index - front.length) := by
  simp [byteAt, List.getElem?_append_right past]

@[simp] theorem bigEndianAt_self (word : α) : bigEndianAt α (bigEndian word) 0 = word := by
  rw [bigEndianAt, slice_self (length_bigEndian word), readBigEndian_bigEndian]

@[simp] theorem bigEndianAt_front (word : α) : bigEndianAt α (bigEndian word ++ back) 0 = word := by
  rw [bigEndianAt, slice_front (length_bigEndian word), readBigEndian_bigEndian]

@[simp] theorem bigEndianAt_append (past : front.length ≤ start) :
    bigEndianAt α (front ++ back) start = bigEndianAt α back (start - front.length) := by
  simp [bigEndianAt, slice_append past]

@[simp] theorem bigEndianAt_cons (byte : UInt8) :
    bigEndianAt α (byte :: back) (start + 1) = bigEndianAt α back start := by
  simp [bigEndianAt, slice]

theorem bigEndian_bigEndianAt (within : start + Word.width α ≤ back.length) :
    bigEndian (bigEndianAt α back start) = slice back start (Word.width α) :=
  bigEndian_readBigEndian (length_slice within)

@[simp] theorem littleEndianAt_front (word : α) :
    littleEndianAt α (littleEndian word ++ back) 0 = word := by
  rw [littleEndianAt, slice_front (length_littleEndian word), readLittleEndian_littleEndian]

@[simp] theorem littleEndianAt_append (past : front.length ≤ start) :
    littleEndianAt α (front ++ back) start = littleEndianAt α back (start - front.length) := by
  simp [littleEndianAt, slice_append past]

@[simp] theorem littleEndianAt_cons (byte : UInt8) :
    littleEndianAt α (byte :: back) (start + 1) = littleEndianAt α back start := by
  simp [littleEndianAt, slice]

end Reading

end Bytes
