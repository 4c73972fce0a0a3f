/-
**Unpadded base64url, in its canonical form** (`app/core/mutable_base64url.py`).

A decoder takes six bits from each symbol and gives out eight at a time; it accepts a text only if as many
symbols stand there as the bytes need, and the bits that are left over are zero.

* `decodeCanonicalBase64url`, `encodeUnpaddedBase64url` — the two directions.
* `base64url_canonical` — **the decoder accepts exactly what the encoder writes**.

Both work on an accumulator, of which only the low bits that are still due are kept: `Regroups` is the
invariant of both.
-/

import Mathlib.Data.Nat.Digits.Lemmas
import MiniRemoteDesktop.Lib.Checked

namespace MiniRemoteDesktop.Registry

open Option (bind_eq_some_iff)

/-! ### Symbols -/

def base64urlAlphabet : List Char :=
  "ABCDEFGHIJKLMNOPQRSTUVWXYZabcdefghijklmnopqrstuvwxyz0123456789-_".toList

/-- `_DECODE`. -/
def symbolValue (symbol : Char) : Option Nat := base64urlAlphabet.idxOf? symbol

variable {value : Nat}

theorem symbolValue_spec {symbol : Char} (known : symbolValue symbol = some value) :
    value < 64 ∧ base64urlAlphabet[value]? = some symbol := by
  obtain ⟨inside, there, _⟩ := List.idxOf?_eq_some_iff.mp known
  exact ⟨inside, (List.getElem?_eq_getElem inside).trans (congrArg some there)⟩

/-! ### Coding -/

/-- Bits that came in and are still due, and what was given out. -/
structure Coder (α : Type) where
  (accumulator availableBits : Nat)
  output : List α

def Coder.start {α : Type} : Coder α := ⟨0, 0, []⟩

/-- One symbol of the decoder. -/
def decodeSymbol (coder : Coder UInt8) (value : Nat) : Coder UInt8 :=
  let accumulator := coder.accumulator * 2 ^ 6 + value
  let availableBits := coder.availableBits + 6
  if 8 ≤ availableBits then
    ⟨accumulator % 2 ^ (availableBits - 8), availableBits - 8,
      coder.output ++ [UInt8.ofNat (accumulator / 2 ^ (availableBits - 8))]⟩
  else ⟨accumulator, availableBits, coder.output⟩

def decodeCanonicalBase64url (value : String) (expectedLength : Nat) : Option (List UInt8) := do
  let values ← value.toList.mapM symbolValue
  let coder := values.foldl decodeSymbol .start
  if values.length ≠ (coder.output.length * 8 + 5) / 6 ∨ coder.accumulator ≠ 0 ∨
      coder.output.length ≠ expectedLength then none
  else some coder.output

/-- A symbol is given out if six bits are due. -/
def encodeSymbol (coder : Coder Char) : Coder Char :=
  if 6 ≤ coder.availableBits then
    let availableBits := coder.availableBits - 6
    ⟨coder.accumulator % 2 ^ availableBits, availableBits,
      coder.output ++ [base64urlAlphabet.getD (coder.accumulator / 2 ^ availableBits % 64) 'A']⟩
  else coder

/-- One byte of the encoder, after which at most two symbols are due. -/
def encodeByte (coder : Coder Char) (byte : UInt8) : Coder Char :=
  encodeSymbol (encodeSymbol
    ⟨coder.accumulator * 2 ^ 8 + byte.toNat, coder.availableBits + 8, coder.output⟩)

def encodeUnpaddedBase64url (bytes : List UInt8) : String :=
  let coder := bytes.foldl encodeByte .start
  String.ofList (if coder.availableBits = 0 then coder.output
    else coder.output ++
      [base64urlAlphabet.getD (coder.accumulator * 2 ^ (6 - coder.availableBits) % 64) 'A'])

/-! ### Digits of two widths -/

/-- The number that digits stand for, the highest first. -/
def number (base : Nat) (digits : List Nat) : Nat := digits.foldl (fun total digit => total * base + digit) 0

theorem number_append (base : Nat) (digits : List Nat) (digit : Nat) :
    number base (digits ++ [digit]) = number base digits * base + digit := by
  simp [number]

theorem number_eq_ofDigits (base : Nat) (digits : List Nat) :
    number base digits = Nat.ofDigits base digits.reverse := by
  induction digits using List.reverseRecOn with
  | nil => rfl
  | append_singleton digits digit ih =>
    rw [number_append, ih, List.reverse_append, List.reverse_singleton, List.singleton_append,
      Nat.ofDigits_cons]
    ring

variable {width other due bits digit : Nat} {digits others : List Nat}

theorem number_injective (positive : 0 < width) (small : ∀ digit ∈ digits, digit < 2 ^ width)
    (few : ∀ digit ∈ others, digit < 2 ^ width) (lengths : digits.length = others.length)
    (same : number (2 ^ width) digits = number (2 ^ width) others) : digits = others := by
  rw [number_eq_ofDigits, number_eq_ofDigits] at same
  refine List.reverse_inj.mp (Nat.ofDigits_inj_of_len_eq (Nat.one_lt_two_pow positive.ne') ?_ ?_ ?_ same)
  · simp [lengths]
  · exact fun digit member => small digit (List.mem_reverse.mp member)
  · exact fun digit member => few digit (List.mem_reverse.mp member)

/-- **What was read is what was given out and the bits that are still due.** -/
structure Regroups (width other : Nat) (digits others : List Nat) (due bits : Nat) : Prop where
  value : number (2 ^ width) digits = number (2 ^ other) others * 2 ^ bits + due
  length : digits.length * width = others.length * other + bits
  few : due < 2 ^ bits
  small : ∀ digit ∈ others, digit < 2 ^ other

namespace Regroups

theorem start (width other : Nat) : Regroups width other [] [] 0 0 :=
  ⟨rfl, by simp, Nat.two_pow_pos 0, List.forall_mem_nil _⟩

theorem take (regroups : Regroups width other digits others due bits) (small : digit < 2 ^ width) :
    Regroups width other (digits ++ [digit]) others (due * 2 ^ width + digit) (bits + width) where
  value := by
    rw [number_append, regroups.value, pow_add]
    ring
  length := by
    rw [List.length_append, List.length_singleton, Nat.add_mul, regroups.length]
    omega
  few := by
    have wide := Nat.mul_le_mul_right (2 ^ width) regroups.few
    rw [Nat.succ_mul, ← pow_add] at wide
    omega
  small := regroups.small

theorem give (regroups : Regroups width other digits others due (bits + other)) :
    Regroups width other digits (others ++ [due / 2 ^ bits]) (due % 2 ^ bits) bits where
  value := by
    have parts := Nat.div_add_mod due (2 ^ bits)
    rw [regroups.value, number_append, pow_add]
    linarith
  length := by
    rw [List.length_append, List.length_singleton, Nat.add_mul, regroups.length]
    omega
  few := Nat.mod_lt _ (Nat.two_pow_pos _)
  small := by
    refine List.forall_mem_append.mpr ⟨regroups.small, List.forall_mem_singleton.mpr ?_⟩
    have few := regroups.few
    rw [pow_add] at few
    exact Nat.div_lt_of_lt_mul few

end Regroups

/-! ### The decoder -/

variable {values : List Nat} {bytes : List UInt8}

/-- **Values that spell a list of bytes**: as many as the bytes need, with zeros after the last bit. -/
def Spells (values : List Nat) (bytes : List UInt8) : Prop :=
  (∀ value ∈ values, value < 2 ^ 6) ∧ ∃ bits < 6, Regroups 6 8 values (bytes.map UInt8.toNat) 0 bits

theorem Spells.injective {others : List Nat} (one : Spells values bytes) (two : Spells others bytes) :
    values = others := by
  obtain ⟨small, bits, few, value, length, _⟩ := one
  obtain ⟨otherSmall, otherBits, otherFew, otherValue, otherLength, _⟩ := two
  refine number_injective (by decide) small otherSmall (by omega) ?_
  rw [value, otherValue, show bits = otherBits by omega]

/-- What the decoder has read. -/
def Reads (values : List Nat) (coder : Coder UInt8) : Prop :=
  Regroups 6 8 values (coder.output.map UInt8.toNat) coder.accumulator coder.availableBits ∧
    coder.availableBits < 8

theorem reads_all (small : ∀ value ∈ values, value < 2 ^ 6) :
    Reads values (values.foldl decodeSymbol .start) := by
  induction values using List.reverseRecOn with
  | nil => exact ⟨.start 6 8, by decide⟩
  | append_singleton values value ih =>
    obtain ⟨regroups, few⟩ := ih fun other member => small other (List.mem_append_left _ member)
    rw [List.foldl_append]
    generalize values.foldl decodeSymbol .start = coder at regroups few
    have taken := regroups.take (small value (List.mem_append_right _ (.head _)))
    show Reads _ (decodeSymbol coder value)
    unfold decodeSymbol
    by_cases full : 8 ≤ coder.availableBits + 6
    · rw [if_pos full]
      obtain ⟨left, split⟩ : ∃ left, coder.availableBits + 6 = left + 8 :=
        ⟨_, (Nat.sub_add_cancel full).symm⟩
      rw [split] at taken ⊢
      have given := taken.give
      refine ⟨?_, by dsimp only; omega⟩
      rw [Nat.add_sub_cancel, List.map_append, List.map_singleton, UInt8.toNat_ofNat_of_lt'
        (given.small _ (List.mem_append_right _ (.head _)))]
      exact given
    · simpa [full] using ⟨taken, Nat.lt_of_not_le full⟩

/-- What the decoder makes of the values of all symbols. -/
def gathered (values : List Nat) (expectedLength : Option Nat) : Option (List UInt8) :=
  let coder := values.foldl decodeSymbol .start
  if values.length ≠ (coder.output.length * 8 + 5) / 6 ∨ coder.accumulator ≠ 0 ∨
      (expectedLength ≠ none ∧ expectedLength ≠ some coder.output.length) then none
  else some coder.output

theorem gathered_iff (small : ∀ value ∈ values, value < 2 ^ 6) (expectedLength : Option Nat) :
    gathered values expectedLength = some bytes ↔
      Spells values bytes ∧ (expectedLength = none ∨ expectedLength = some bytes.length) := by
  obtain ⟨regroups, few⟩ := reads_all small
  unfold gathered
  generalize values.foldl decodeSymbol .start = coder at regroups few ⊢
  have length := regroups.length
  rw [List.length_map] at length
  dsimp only
  constructor
  · intro made
    split at made
    · cases made
    next fits =>
      obtain ⟨enough, rest⟩ := not_or.mp fits
      obtain ⟨zero, asked⟩ := not_or.mp rest
      obtain rfl := Option.some.inj made
      refine ⟨⟨small, coder.availableBits, by omega, not_not.mp zero ▸ regroups⟩, by tauto⟩
  · rintro ⟨⟨_, bits, short, spelled⟩, asked⟩
    have count := spelled.length
    rw [List.length_map] at count
    have same := regroups.value.symm.trans spelled.value
    rw [show bits = coder.availableBits by omega, Nat.add_zero] at same
    have zero : coder.accumulator = 0 := by
      have left := congrArg (· % 2 ^ coder.availableBits) same
      simpa [Nat.mod_eq_of_lt regroups.few] using left
    rw [zero, Nat.add_zero] at same
    have output : coder.output = bytes := by
      refine List.map_injective_iff.mpr (fun _ _ => UInt8.toNat_inj.mp) ?_
      refine number_injective (by decide) regroups.small spelled.small ?_
        (Nat.eq_of_mul_eq_mul_right (Nat.two_pow_pos _) same)
      rw [List.length_map, List.length_map]
      omega
    rw [if_neg, output]
    rw [output] at length ⊢
    rw [zero]
    refine not_or.mpr ⟨by omega, not_or.mpr ⟨not_not.mpr rfl, by tauto⟩⟩

/-! ### The encoder -/

/-- What the encoder gave out. -/
def Writes (bytes : List UInt8) (coder : Coder Char) : Prop :=
  ∃ values, coder.output = values.map (base64urlAlphabet.getD · 'A') ∧
    Regroups 8 6 (bytes.map UInt8.toNat) values coder.accumulator coder.availableBits

theorem Writes.symbol {coder : Coder Char} (writes : Writes bytes coder) :
    Writes bytes (encodeSymbol coder) := by
  obtain ⟨values, output, regroups⟩ := writes
  unfold encodeSymbol
  split_ifs with full
  · obtain ⟨left, split⟩ : ∃ left, coder.availableBits = left + 6 := ⟨_, (Nat.sub_add_cancel full).symm⟩
    rw [split] at regroups ⊢
    have given := regroups.give
    refine ⟨_, ?_, given⟩
    dsimp only
    rw [Nat.add_sub_cancel, output, List.map_append, List.map_singleton,
      Nat.mod_eq_of_lt (b := 64) (given.small _ (List.mem_append_right _ (.head _)))]
  · exact ⟨values, output, regroups⟩

theorem encodeSymbol_availableBits (coder : Coder Char) : (encodeSymbol coder).availableBits =
    if 6 ≤ coder.availableBits then coder.availableBits - 6 else coder.availableBits := by
  unfold encodeSymbol
  split_ifs <;> rfl

theorem writes_all (bytes : List UInt8) : Writes bytes (bytes.foldl encodeByte .start) ∧
    (bytes.foldl encodeByte .start).availableBits < 6 := by
  induction bytes using List.reverseRecOn with
  | nil => exact ⟨⟨[], rfl, .start 8 6⟩, by decide⟩
  | append_singleton bytes byte ih =>
    rw [List.foldl_append]
    generalize bytes.foldl encodeByte .start = coder at ih
    obtain ⟨⟨values, output, regroups⟩, few⟩ := ih
    have taken : Writes (bytes ++ [byte])
        ⟨coder.accumulator * 2 ^ 8 + byte.toNat, coder.availableBits + 8, coder.output⟩ := by
      refine ⟨values, output, ?_⟩
      simpa using regroups.take byte.toNat_lt
    refine ⟨taken.symbol.symbol, ?_⟩
    show (encodeSymbol (encodeSymbol _)).availableBits < 6
    rw [encodeSymbol_availableBits, encodeSymbol_availableBits]
    dsimp only
    split_ifs <;> omega

theorem encode_spells (bytes : List UInt8) :
    ∃ values, Spells values bytes ∧
      (encodeUnpaddedBase64url bytes).toList = values.map (base64urlAlphabet.getD · 'A') := by
  obtain ⟨⟨values, output, regroups⟩, few⟩ := writes_all bytes
  unfold encodeUnpaddedBase64url
  rw [String.toList_ofList]
  generalize bytes.foldl encodeByte .start = coder at output regroups few ⊢
  obtain ⟨value, length, due, small⟩ := regroups
  have octets : ∀ digit ∈ bytes.map UInt8.toNat, digit < 2 ^ 8 := by
    rintro _ member
    obtain ⟨byte, _, rfl⟩ := List.mem_map.mp member
    exact byte.toNat_lt
  by_cases done : coder.availableBits = 0
  · rw [done] at value length due
    rw [Nat.lt_one_iff.mp due] at value
    refine ⟨values, ⟨small, 0, by decide, ⟨?_, by omega, by decide, octets⟩⟩, (if_pos done).trans output⟩
    simpa using value.symm
  · obtain ⟨left, split⟩ : ∃ left, 6 = coder.availableBits + left := ⟨_, (Nat.add_sub_cancel' few.le).symm⟩
    have shift : 2 ^ coder.availableBits * 2 ^ left = 2 ^ 6 := by rw [← pow_add, ← split]
    have last : coder.accumulator * 2 ^ left < 2 ^ 6 :=
      shift ▸ Nat.mul_lt_mul_of_pos_right due (Nat.two_pow_pos _)
    refine ⟨values ++ [coder.accumulator * 2 ^ left], ⟨?_, left, by omega, ⟨?_, ?_, ?_, octets⟩⟩, ?_⟩
    · exact List.forall_mem_append.mpr ⟨small, List.forall_mem_singleton.mpr last⟩
    · rw [number_append, value, ← shift]
      ring
    · rw [List.length_append, List.length_singleton]
      omega
    · exact Nat.two_pow_pos _
    · rw [if_neg done, show 6 - coder.availableBits = left by omega, Nat.mod_eq_of_lt (b := 64) last, output,
        List.map_append, List.map_singleton]

/-! ### Every text and every byte string -/

/-- What the decoder takes: the code points of a text, or bytes. -/
inductive Base64urlValue
  | text (codePoints : List Nat)
  | octets (value : List UInt8)

def Base64urlValue.symbols : Base64urlValue → List Nat
  | .text codePoints => codePoints
  | .octets value => value.map UInt8.toNat

/-- `_DECODE`, of which a character from 128 on has no entry. -/
def decodeEntry (character : Nat) : Option Nat :=
  if 128 ≤ character then none else symbolValue (Char.ofNat character)

/-- `decode_canonical_base64url`, with every argument it takes. -/
def decodeCanonical (value : Base64urlValue) (expectedLength : Option Nat) : Option (List UInt8) := do
  gathered (← value.symbols.mapM decodeEntry) expectedLength

theorem decodeEntry_spec {character : Nat} (known : decodeEntry character = some value) :
    value < 64 ∧ character = (base64urlAlphabet.getD value 'A').toNat := by
  unfold decodeEntry at known
  split at known
  · cases known
  next ascii =>
    obtain ⟨small, there⟩ := symbolValue_spec known
    have code : ∀ character < 128, (Char.ofNat character).toNat = character := by decide
    rw [List.getD_eq_getElem?_getD, there, Option.getD_some, code character (Nat.lt_of_not_le ascii)]
    exact ⟨small, rfl⟩

theorem decodeEntry_code : ∀ value < 64, decodeEntry (base64urlAlphabet.getD value 'A').toNat = some value := by
  decide +kernel

theorem decodeEntry_toNat (symbol : Char) : decodeEntry symbol.toNat = symbolValue symbol := by
  unfold decodeEntry
  split
  next large =>
    have ascii : (base64urlAlphabet.all fun known => known.toNat < 128) = true := by decide
    refine (List.idxOf?_eq_none_iff.mpr fun member => ?_).symm
    exact absurd (of_decide_eq_true (List.all_eq_true.mp ascii symbol member)) (Nat.not_lt.mpr large)
  · simp

theorem decodeCanonicalBase64url_eq (value : String) (length : Nat) :
    decodeCanonicalBase64url value length =
      decodeCanonical (.text (value.toList.map Char.toNat)) (some length) := by
  unfold decodeCanonicalBase64url decodeCanonical gathered Base64urlValue.symbols
  simp [show decodeEntry ∘ Char.toNat = symbolValue from funext decodeEntry_toNat, eq_comm]

/-- The values that the symbols stand for are the only ones with these symbols. -/
theorem decodeCanonical_spells {value : Base64urlValue} {expectedLength : Option Nat} :
    decodeCanonical value expectedLength = some bytes ↔
      ∃ values, value.symbols = values.map (fun value => (base64urlAlphabet.getD value 'A').toNat) ∧
        Spells values bytes ∧ (expectedLength = none ∨ expectedLength = some bytes.length) := by
  have read : ∀ {values}, value.symbols.mapM decodeEntry = some values ↔ (∀ value ∈ values, value < 2 ^ 6) ∧
      value.symbols = values.map fun value => (base64urlAlphabet.getD value 'A').toNat := by
    intro values
    rw [Checked.mapM_eq_some]
    constructor
    · intro each
      have small : ∀ value ∈ values, value < 2 ^ 6 := by
        intro value member
        obtain ⟨character, _, known⟩ := Checked.exists_left each member
        exact (decodeEntry_spec known).1
      refine ⟨small, ?_⟩
      rw [← List.forall₂_eq_eq_eq, List.forall₂_map_right_iff]
      exact each.imp fun character value known => (decodeEntry_spec known).2
    · rintro ⟨small, same⟩
      simpa [same] using fun value member => decodeEntry_code value (small value member)
  unfold decodeCanonical
  constructor
  · intro decoded
    obtain ⟨values, known, gathers⟩ := bind_eq_some_iff.mp decoded
    obtain ⟨small, same⟩ := read.mp known
    exact ⟨values, same, (gathered_iff small expectedLength).mp gathers⟩
  · rintro ⟨values, same, spells, asked⟩
    exact bind_eq_some_iff.mpr ⟨values, read.mpr ⟨spells.1, same⟩,
      (gathered_iff spells.1 expectedLength).mpr ⟨spells, asked⟩⟩

theorem decode_injective {first second : String} {length : Nat}
    (one : decodeCanonicalBase64url first length = some bytes)
    (two : decodeCanonicalBase64url second length = some bytes) : first = second := by
  rw [decodeCanonicalBase64url_eq] at one two
  obtain ⟨values, same, spells, _⟩ := decodeCanonical_spells.mp one
  obtain ⟨others, otherSame, otherSpells, _⟩ := decodeCanonical_spells.mp two
  rw [spells.injective otherSpells, ← otherSame] at same
  exact String.toList_injective (List.map_injective_iff.mpr (fun _ _ => Char.toNat_inj.mp) same)

/-- **Base64url is a canonical bijection**: the decoder accepts exactly what the encoder writes, and
nothing with a foreign character, of an impossible length, or with a bit left over. -/
theorem base64url_canonical (value : Base64urlValue) :
    (∀ bytes expectedLength, decodeCanonical value expectedLength = some bytes ↔
      value.symbols = (encodeUnpaddedBase64url bytes).toList.map Char.toNat ∧
        ∀ length, expectedLength = some length → bytes.length = length) ∧
    (((∃ character ∈ value.symbols, character ∉ base64urlAlphabet.map Char.toNat) ∨
      value.symbols.length % 4 = 1 ∨
      ((value.symbols.getLast?.bind decodeEntry).getD 0) % 2 ^ (value.symbols.length * 6 % 8) ≠ 0) →
      ∀ expectedLength, decodeCanonical value expectedLength = none) := by
  constructor
  · intro bytes expectedLength
    obtain ⟨values, spells, text⟩ := encode_spells bytes
    have asked : (expectedLength = none ∨ expectedLength = some bytes.length) ↔
        ∀ length, expectedLength = some length → bytes.length = length := by
      cases expectedLength <;> simp [eq_comm]
    rw [decodeCanonical_spells, ← asked, text, List.map_map]
    constructor
    · rintro ⟨others, same, otherSpells, fits⟩
      exact ⟨spells.injective otherSpells ▸ same, fits⟩
    · rintro ⟨same, fits⟩
      exact ⟨values, same, spells, fits⟩
  · intro wrong expectedLength
    refine Option.eq_none_iff_forall_ne_some.mpr fun bytes decoded => ?_
    obtain ⟨values, same, ⟨small, bits, few, number, length, _⟩, _⟩ := decodeCanonical_spells.mp decoded
    rw [same, List.length_map] at wrong
    rcases wrong with ⟨character, member, foreign⟩ | impossible | left
    · obtain ⟨value, listed, rfl⟩ := List.mem_map.mp member
      refine foreign (List.mem_map_of_mem ?_)
      rw [List.getD_eq_getElem?_getD, List.getElem?_eq_getElem (small value listed)]
      exact List.getElem_mem _
    · omega
    · refine left ?_
      clear left
      rcases List.eq_nil_or_concat' values with rfl | ⟨init, last, rfl⟩
      · rfl
      have known := decodeEntry_code last (small last (List.mem_append_right _ (.head _)))
      rw [List.map_append, List.map_singleton, List.getLast?_concat, Option.bind_some, known,
        Option.getD_some]
      rw [List.length_append, List.length_singleton] at length ⊢
      rw [show (init.length + 1) * 6 % 8 = bits by omega]
      rw [number_append, Nat.add_zero] at number
      refine Nat.dvd_iff_mod_eq_zero.mp ((Nat.dvd_add_right ?_).mp (Dvd.intro_left _ number.symm))
      exact Dvd.dvd.mul_left (pow_dvd_pow 2 few.le) _

/-- The texts of two values, and one that has bits left over. -/
example : encodeUnpaddedBase64url [0xfb, 0xff] = "-_8" ∧
    decodeCanonicalBase64url "-_8" 2 = some [0xfb, 0xff] ∧ decodeCanonicalBase64url "-_9" 2 = none := by
  decide

end MiniRemoteDesktop.Registry
