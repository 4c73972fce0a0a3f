/-
**Rounding of exact rationals.**

* `nearest` — to a number of significant bits, as a binary floating-point operation rounds its exact
  result while the exponent stays in range. `nearest_mono`: it keeps the order, also across powers
  of two; `nearest_le` bounds it from above.
* `fixedText` — a floating-point number with a fixed count of decimals, rounded from its exact value.
-/

import Mathlib.Data.Int.Log
import Mathlib.Data.Rat.Floor

namespace Rounding

open Int (cast_le log)

/-! ### To an integer -/

/-- The nearest integer, the even one of two that are as near. -/
def halfEven (x : ℚ) : ℤ :=
  let below := ⌊x⌋
  if x - below < 1 / 2 then below
  else if 1 / 2 < x - below then below + 1
  else if below % 2 = 0 then below else below + 1

theorem floor_le_halfEven (x : ℚ) : ⌊x⌋ ≤ halfEven x := by
  unfold halfEven
  dsimp only
  split
  · exact le_rfl
  · split
    · omega
    · split <;> omega

theorem halfEven_le_succ (x : ℚ) : halfEven x ≤ ⌊x⌋ + 1 := by
  unfold halfEven
  dsimp only
  split
  · omega
  · split
    · exact le_rfl
    · split <;> omega

variable {x : ℚ}

theorem halfEven_mono {y : ℚ} (ordered : x ≤ y) : halfEven x ≤ halfEven y := by
  have floors : ⌊x⌋ ≤ ⌊y⌋ := Int.floor_le_floor ordered
  rcases floors.lt_or_eq with apart | same
  · -- An integer lies between them.
    calc
      halfEven x ≤ ⌊x⌋ + 1 := halfEven_le_succ x
      _ ≤ ⌊y⌋ := apart
      _ ≤ halfEven y := floor_le_halfEven y
  · unfold halfEven
    dsimp only
    rw [← same]
    by_cases below : y - ⌊x⌋ < 1 / 2
    · rw [if_pos below, if_pos (by linarith)]
    · rw [if_neg below]
      by_cases above : 1 / 2 < y - ⌊x⌋
      · rw [if_pos above]
        split
        · omega
        · split
          · exact le_rfl
          · split <;> omega
      · rw [if_neg above]
        by_cases lower : x - ⌊x⌋ < 1 / 2
        · rw [if_pos lower]
          split <;> omega
        · rw [if_neg lower, if_neg (by linarith)]

theorem halfEven_intCast (n : ℤ) : halfEven n = n := by
  simp [halfEven]

theorem halfEven_le {n : ℤ} (bound : x ≤ n) : halfEven x ≤ n :=
  halfEven_intCast n ▸ halfEven_mono bound

theorem le_halfEven {n : ℤ} (bound : (n : ℚ) ≤ x) : n ≤ halfEven x :=
  halfEven_intCast n ▸ halfEven_mono bound

theorem halfEven_le_add_half (x : ℚ) : (halfEven x : ℚ) ≤ x + 1 / 2 := by
  have floor := Int.floor_le x
  unfold halfEven
  dsimp only
  split
  · linarith
  next far =>
    push Not at far
    split
    · push_cast
      linarith
    · split
      · linarith
      · push_cast
        linarith

/-! ### To a number of significant bits -/

/-- The exponent of the last significant bit. -/
def lastBit (precision : ℕ) (x : ℚ) : ℤ := log 2 x - (precision - 1)

/-- **The nearest number with `precision` significant bits.** -/
def nearest (precision : ℕ) (x : ℚ) : ℚ :=
  if x ≤ 0 then 0 else halfEven (x / 2 ^ lastBit precision x) * 2 ^ lastBit precision x

variable {precision : ℕ}

theorem nearest_of_pos (positive : 0 < x) :
    nearest precision x = halfEven (x / 2 ^ lastBit precision x) * 2 ^ lastBit precision x :=
  if_neg (not_le.mpr positive)

theorem zpow_lastBit (precision : ℕ) (x : ℚ) :
    (2 : ℚ) ^ log 2 x = 2 ^ ((precision : ℤ) - 1) * 2 ^ lastBit precision x := by
  rw [← zpow_add₀ two_ne_zero, lastBit]
  congr 1
  omega

/-- Rounding does not leave the powers of two around a number. -/
theorem nearest_bounds (some : 0 < precision) (positive : 0 < x) :
    (2 : ℚ) ^ log 2 x ≤ nearest precision x ∧ nearest precision x ≤ 2 ^ (log 2 x + 1) := by
  have unit : (0 : ℚ) < 2 ^ lastBit precision x := zpow_pos two_pos _
  have bits : ((precision : ℤ) - 1) = ((precision - 1 : ℕ) : ℤ) := by omega
  have low : (2 : ℚ) ^ log 2 x ≤ x := Int.zpow_log_le_self one_lt_two positive
  have high : x < (2 : ℚ) ^ (log 2 x + 1) := Int.lt_zpow_succ_log_self one_lt_two x
  have split := zpow_lastBit precision x
  rw [bits, zpow_natCast] at split
  rw [nearest_of_pos positive]
  constructor
  · rw [split]
    refine mul_le_mul_of_nonneg_right ?_ unit.le
    have rounded : ((2 ^ (precision - 1) : ℕ) : ℤ) ≤ halfEven (x / 2 ^ lastBit precision x) := by
      refine le_halfEven ((le_div_iff₀ unit).mpr ?_)
      push_cast
      simp [← split, low]
    have cast : (((2 ^ (precision - 1) : ℕ) : ℤ) : ℚ) ≤ halfEven (x / 2 ^ lastBit precision x) :=
      cast_le.mpr rounded
    push_cast at cast
    exact cast
  · rw [zpow_add_one₀ two_ne_zero, split]
    have rounded : halfEven (x / 2 ^ lastBit precision x) ≤ ((2 ^ (precision - 1) * 2 : ℕ) : ℤ) := by
      refine halfEven_le ((div_le_iff₀ unit).mpr ?_)
      push_cast
      rw [zpow_add_one₀ two_ne_zero, split] at high
      calc
        x ≤ 2 ^ (precision - 1) * 2 ^ lastBit precision x * 2 := high.le
        _ = 2 ^ (precision - 1) * 2 * 2 ^ lastBit precision x := by ring
    have cast : (halfEven (x / 2 ^ lastBit precision x) : ℚ) ≤ ((2 ^ (precision - 1) * 2 : ℕ) : ℤ) :=
      cast_le.mpr rounded
    push_cast at cast
    calc
      (halfEven (x / 2 ^ lastBit precision x) : ℚ) * 2 ^ lastBit precision x
          ≤ 2 ^ (precision - 1) * 2 * 2 ^ lastBit precision x :=
        mul_le_mul_of_nonneg_right cast unit.le
      _ = 2 ^ (precision - 1) * 2 ^ lastBit precision x * 2 := by ring

theorem nearest_nonneg (some : 0 < precision) (x : ℚ) : 0 ≤ nearest precision x := by
  by_cases positive : 0 < x
  · exact (zpow_pos two_pos _).le.trans (nearest_bounds some positive).1
  · simp [nearest, not_lt.mp positive]

/-- **Rounding keeps the order.** -/
theorem nearest_mono (some : 0 < precision) {y : ℚ} (ordered : x ≤ y) :
    nearest precision x ≤ nearest precision y := by
  by_cases positive : 0 < x
  · rcases (Int.log_mono_right positive ordered (b := 2)).lt_or_eq with apart | same
    · -- A power of two lies between them.
      calc
        nearest precision x ≤ 2 ^ (log 2 x + 1) := (nearest_bounds some positive).2
        _ ≤ 2 ^ log 2 y := zpow_le_zpow_right₀ one_le_two apart
        _ ≤ nearest precision y := (nearest_bounds some (positive.trans_le ordered)).1
    · have unit : (0 : ℚ) < 2 ^ lastBit precision x := zpow_pos two_pos _
      have bit : lastBit precision y = lastBit precision x := by rw [lastBit, lastBit, same]
      rw [nearest_of_pos positive, nearest_of_pos (positive.trans_le ordered), bit]
      refine mul_le_mul_of_nonneg_right (cast_le.mpr (halfEven_mono ?_)) unit.le
      exact div_le_div_of_nonneg_right ordered unit.le
  · simpa [nearest, not_lt.mp positive] using nearest_nonneg some y

theorem nearest_le (nonneg : 0 ≤ x) :
    nearest precision x ≤ x * (1 + 1 / 2 ^ precision) := by
  rcases nonneg.eq_or_lt with rfl | positive
  · simp [nearest]
  have unit : (0 : ℚ) < 2 ^ lastBit precision x := zpow_pos two_pos _
  have low : (2 : ℚ) ^ log 2 x ≤ x := Int.zpow_log_le_self one_lt_two positive
  have half : (2 : ℚ) ^ lastBit precision x / 2 = 2 ^ log 2 x / 2 ^ precision := by
    have split := zpow_lastBit precision x
    rw [zpow_sub_one₀ two_ne_zero, zpow_natCast] at split
    rw [split]
    field_simp
  rw [nearest_of_pos positive]
  calc
    (halfEven (x / 2 ^ lastBit precision x) : ℚ) * 2 ^ lastBit precision x
        ≤ (x / 2 ^ lastBit precision x + 1 / 2) * 2 ^ lastBit precision x :=
      mul_le_mul_of_nonneg_right (halfEven_le_add_half _) unit.le
    _ = x + 2 ^ lastBit precision x / 2 := by field_simp
    _ = x + 2 ^ log 2 x / 2 ^ precision := by rw [half]
    _ ≤ x + x / 2 ^ precision :=
      add_le_add_right (div_le_div_of_nonneg_right low (by positivity)) x
    _ = x * (1 + 1 / 2 ^ precision) := by ring

/-! ### Decimal text -/

/-- A nonnegative number with a fixed count of decimals. -/
def decimalText (digits : ℕ) (x : ℚ) : String :=
  let scaled := (halfEven (x * 10 ^ digits)).toNat
  let fraction := toString (scaled % 10 ^ digits)
  toString (scaled / 10 ^ digits) ++ "." ++
    String.ofList (List.replicate (digits - fraction.length) '0') ++ fraction

def signText : Float.Model.UnpackedFloat.Sign → String
  | .positive => ""
  | .negative => "-"

/-- **The text of a floating-point number with a fixed count of decimals.** -/
def fixedText (digits : ℕ) : Float.Model.UnpackedFloat → String
  | .notANumber => "NaN"
  | .infinity sign => signText sign ++ "inf"
  | .zero sign => signText sign ++ decimalText digits 0
  | .finite sign mantissa exponent _ =>
    signText sign ++ decimalText digits (mantissa * 2 ^ exponent)

end Rounding
