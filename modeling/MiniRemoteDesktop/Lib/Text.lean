/-
**Byte-level tests on text.**

Source code that validates a string looks at its UTF-8 bytes: a length bound and a test on every
byte. The definitions here do the same, so that a bound counts bytes and not characters.

`fromUtf8Lossy` reads bytes as a string and puts a replacement character where they are not UTF-8;
`fromUtf8Lossy_bytes` says that the bytes of a string are read back as they are.

* `IsAscii` — only characters below 128; `bytes_ascii`: one byte a character.
* `ascii_of_bytes` — text whose bytes are below 128 is ASCII.
-/

import Mathlib.Init
import Mathlib.Tactic.ByContra

namespace Text

/-- The UTF-8 bytes of a string. -/
def bytes (value : String) : List UInt8 := value.toUTF8.data.toList

def isAsciiDigit (byte : UInt8) : Bool := 48 ≤ byte && byte ≤ 57

def isAsciiAlphanumeric (byte : UInt8) : Bool :=
  isAsciiDigit byte || (65 ≤ byte && byte ≤ 90) || (97 ≤ byte && byte ≤ 122)

/-- Exactly `count` lower-case hexadecimal digits. -/
def isLowerHex (count : Nat) (value : String) : Bool :=
  (bytes value).length == count &&
    (bytes value).all fun byte => isAsciiDigit byte || (97 ≤ byte && byte ≤ 102)

/-- **A safe identifier**: between one and `maximum` bytes, the first alphanumeric, every one
alphanumeric or one of `.`, `_`, `-`. -/
def isIdentifier (maximum : Nat) (value : String) : Bool :=
  match bytes value with
  | [] => false
  | first :: rest =>
    (first :: rest).length ≤ maximum && isAsciiAlphanumeric first && (first :: rest).all fun byte =>
        isAsciiAlphanumeric byte || byte == 46 || byte == 95 || byte == 45

/-! ### Trimming -/

def isWhitespace (char : Char) : Bool :=
  let code := char.toNat
  (9 ≤ code && code ≤ 13) || code == 0x20 || code == 0x85 || code == 0xA0 || code == 0x1680 ||
    (0x2000 ≤ code && code ≤ 0x200A) || code == 0x2028 || code == 0x2029 || code == 0x202F ||
    code == 0x205F || code == 0x3000

def isControl (char : Char) : Bool := char.toNat < 32 || (127 ≤ char.toNat && char.toNat < 160)

def trim (value : String) : String :=
  String.ofList ((value.toList.dropWhile isWhitespace).reverse.dropWhile isWhitespace).reverse

/-! ### Hexadecimal digits -/

/-- `format!("{byte:02x}")` for every byte. -/
def lowerHex (bytes : List UInt8) : String :=
  String.ofList (bytes.flatMap fun byte =>
    [Nat.digitChar (byte.toNat / 16), Nat.digitChar (byte.toNat % 16)])

theorem length_bytes_lowerHex (digits : List UInt8) :
    (bytes (lowerHex digits)).length = 2 * digits.length := by
  have encoded : bytes (lowerHex digits) = (lowerHex digits).toList.flatMap String.utf8EncodeChar := by
    simp [bytes, String.toUTF8_eq_toByteArray, ← String.utf8Encode_toList, List.utf8Encode]
  have ascii : ∀ nibble, nibble < 16 → (String.utf8EncodeChar (Nat.digitChar nibble)).length = 1 := by
    decide
  rw [encoded, lowerHex, String.toList_ofList]
  clear encoded
  induction digits with
  | nil => rfl
  | cons byte rest ih =>
    have small : byte.toNat < 256 := byte.toNat_lt
    have high := ascii (byte.toNat / 16) (by omega)
    have low := ascii (byte.toNat % 16) (by omega)
    simp only [List.flatMap_cons, List.flatMap_append, List.length_append, List.flatMap_nil,
      List.length_nil, List.length_cons] at ih ⊢
    omega

theorem lowerHex_injective : Function.Injective lowerHex := by
  have nibbles : ∀ first < 16, ∀ second < 16, Nat.digitChar first = Nat.digitChar second → first = second := by
    decide
  intro first second same
  have digits : first.flatMap _ = second.flatMap _ := String.ofList_injective same
  clear same
  induction first generalizing second with
  | nil =>
    cases second with
    | nil => rfl
    | cons byte rest => cases digits
  | cons byte rest ih =>
    cases second with
    | nil => cases digits
    | cons other others =>
      simp only [List.flatMap_cons, List.cons_append, List.nil_append, List.cons.injEq] at digits
      obtain ⟨high, low, tails⟩ := digits
      have small : byte.toNat < 256 := byte.toNat_lt
      have fits : other.toNat < 256 := other.toNat_lt
      have highs := nibbles _ (by omega) _ (by omega) high
      have lows := nibbles _ (by omega) _ (by omega) low
      have equal : byte = other := UInt8.toNat.inj (by omega)
      rw [equal, ih tails]

/-! ### Decimal numbers -/

theorem toString_injective : Function.Injective (toString : Nat → String) := by
  intro first second same
  rw [Nat.toString_eq_repr, Nat.toString_eq_repr] at same
  have digits := congrArg String.toList same
  rw [Nat.toList_repr, Nat.toList_repr] at digits
  calc first = Nat.ofDigitChars 10 (Nat.toDigits 10 first) 0 := Nat.ofDigitChars_ten_toDigits.symm
    _ = Nat.ofDigitChars 10 (Nat.toDigits 10 second) 0 := by rw [digits]
    _ = second := Nat.ofDigitChars_ten_toDigits

/-! ### Lossy decoding -/

/-- `0x80..=0xBF`. -/
def isContinuation (byte : UInt8) : Bool := 128 ≤ byte && byte ≤ 191

/-- The second bytes that may follow a first byte of a three or four byte character. -/
def isSecondByte (first second : UInt8) : Bool :=
  if first = 0xE0 then 0xA0 ≤ second && second ≤ 0xBF
  else if first = 0xED then 0x80 ≤ second && second ≤ 0x9F
  else if first = 0xF0 then 0x90 ≤ second && second ≤ 0xBF
  else if first = 0xF4 then 0x80 ≤ second && second ≤ 0x8F
  else isContinuation second

/-- How many bytes one replacement character stands for: the longest beginning of a character, or
one byte where no character begins. -/
def invalidWidth (bytes : List UInt8) : Nat :=
  match bytes with
  | first :: second :: rest =>
    if 0xE0 ≤ first ∧ first ≤ 0xEF ∧ isSecondByte first second then 2
    else if 0xF0 ≤ first ∧ first ≤ 0xF4 ∧ isSecondByte first second then
      match rest with
      | third :: _ => if isContinuation third then 3 else 2
      | [] => 2
    else 1
  | _ => 1

theorem invalidWidth_pos (bytes : List UInt8) : 0 < invalidWidth bytes := by
  unfold invalidWidth
  split
  · split
    · decide
    · split
      · split
        · split <;> decide
        · decide
      · decide
  · decide

/-- The characters that the bytes stand for. -/
def lossyChars (bytes : List UInt8) : List Char :=
  if bytes = [] then []
  else
    match bytes.toByteArray.utf8DecodeChar? 0 with
    | some char => char :: lossyChars (bytes.drop char.utf8Size)
    | none => Char.ofNat 0xFFFD :: lossyChars (bytes.drop (invalidWidth bytes))
termination_by bytes.length
decreasing_by
  · have := List.length_pos_iff.mpr ‹¬ bytes = []›
    have := Char.utf8Size_pos char
    rw [List.length_drop]
    omega
  · have := List.length_pos_iff.mpr ‹¬ bytes = []›
    have := invalidWidth_pos bytes
    rw [List.length_drop]
    omega

def fromUtf8Lossy (bytes : List UInt8) : String := String.ofList (lossyChars bytes)

theorem lossyChars_encode (chars : List Char) :
    lossyChars (chars.flatMap String.utf8EncodeChar) = chars := by
  induction chars with
  | nil => rw [List.flatMap_nil, lossyChars, if_pos rfl]
  | cons char rest ih =>
    have decoded : (List.flatMap String.utf8EncodeChar (char :: rest)).toByteArray.utf8DecodeChar? 0 =
        some char := List.utf8DecodeChar?_utf8Encode_cons
    have nonempty : List.flatMap String.utf8EncodeChar (char :: rest) ≠ [] := by
      intro empty
      have positive := Char.utf8Size_pos char
      have length := congrArg List.length empty
      rw [List.flatMap_cons, List.length_append, String.length_utf8EncodeChar, List.length_nil]
        at length
      omega
    rw [lossyChars, if_neg nonempty, decoded]
    simp [ih]

/-- **The bytes of a string are read back as they are.** -/
theorem fromUtf8Lossy_bytes (value : String) : fromUtf8Lossy (bytes value) = value := by
  have encoded : bytes value = value.toList.flatMap String.utf8EncodeChar := by
    simp [bytes, String.toUTF8_eq_toByteArray, ← String.utf8Encode_toList, List.utf8Encode]
  simp [encoded, fromUtf8Lossy, lossyChars_encode]

theorem bytes_injective : Function.Injective bytes := by
  intro first second same
  rw [← fromUtf8Lossy_bytes first, same, fromUtf8Lossy_bytes]

/-! ### ASCII text -/

section

/-- Only characters below 128. -/
def IsAscii (value : String) : Prop := ∀ char ∈ value.toList, char.toNat < 128

theorem bytes_eq_flatMap (value : String) : bytes value = value.toList.flatMap String.utf8EncodeChar := by
  rw [bytes, String.toUTF8_eq_toByteArray, ← String.utf8Encode_toList, List.utf8Encode]
  simp

theorem encode_ascii {char : Char} (ascii : char.toNat < 128) :
    String.utf8EncodeChar char = [UInt8.ofNat char.toNat] := by
  have small : char.val.toNat ≤ 0x7f := Nat.le_of_lt_succ ascii
  unfold String.utf8EncodeChar
  rw [if_pos small]
  rfl

/-- The encoding of another character starts with a byte that is not ASCII. -/
theorem encode_not_ascii {char : Char} (other : 128 ≤ char.toNat) :
    ∃ byte ∈ String.utf8EncodeChar char, 128 ≤ byte.toNat := by
  have large : ¬ char.val.toNat ≤ 0x7f := Nat.not_le_of_lt other
  unfold String.utf8EncodeChar
  rw [if_neg large]
  split
  · refine ⟨_, (.head _), ?_⟩
    rw [UInt8.toNat_ofNat']
    omega
  · split
    · refine ⟨_, (.head _), ?_⟩
      rw [UInt8.toNat_ofNat']
      omega
    · refine ⟨_, (.head _), ?_⟩
      rw [UInt8.toNat_ofNat']
      omega

variable {value : String}

theorem bytes_ascii (ascii : IsAscii value) :
    bytes value = value.toList.map fun char => UInt8.ofNat char.toNat := by
  rw [bytes_eq_flatMap, List.map_eq_flatMap, List.flatMap_def, List.flatMap_def]
  exact congrArg List.flatten (List.map_congr_left fun char member => encode_ascii (ascii char member))

theorem length_bytes_ascii (ascii : IsAscii value) :
    (bytes value).length = value.toList.length := by
  simp [bytes_ascii ascii]

theorem ascii_of_bytes (small : ∀ byte ∈ bytes value, byte.toNat < 128) :
    IsAscii value := by
  intro char member
  by_contra other
  obtain ⟨byte, inside, large⟩ := encode_not_ascii (Nat.not_lt.mp other)
  have listed : byte ∈ bytes value := by
    rw [bytes_eq_flatMap]
    exact List.mem_flatMap.mpr ⟨char, member, inside⟩
  have := small byte listed
  omega

end

end Text
