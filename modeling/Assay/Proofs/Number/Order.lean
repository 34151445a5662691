import Assay.Number.Basic
import Mathlib

/-! Numbers as places on the extended rational line. The order of exact numbers looks at signs and
leading digits before it multiplies anything out; it is the order of the rational numbers that they
stand for all the same, whatever the classes of the two numbers are.
-/

namespace Assay.Number

-----------------------------------------------------------------------------------------
-- Digits
-----------------------------------------------------------------------------------------

/-- A number lies below the power of ten that has one more digit than it. -/
theorem lt_pow_digitCount (n : Nat)
    : n < 10 ^ digitCount n := by
  induction n using Nat.strongRecOn with
  | ind n ih =>
      rw [digitCount]
      split
      · rename_i zero
        simp [zero]
      · rename_i nonzero
        have tenth : n / 10 < 10 ^ digitCount (n / 10) := ih (n / 10) (by omega)
        rw [pow_succ]
        omega

/-- A number other than zero reaches the power of ten that has as many digits. -/
theorem pow_digitCount_le {n : Nat} (nonzero : n ≠ 0)
    : 10 ^ digitCount n ≤ 10 * n := by
  induction n using Nat.strongRecOn with
  | ind n ih =>
      rw [digitCount, if_neg nonzero, pow_succ]
      by_cases small : n / 10 = 0
      · have one : digitCount (n / 10) = 0 := by rw [digitCount, if_pos small]
        rw [one]
        omega
      · have tenth : 10 ^ digitCount (n / 10) ≤ 10 * (n / 10) := ih (n / 10) (by omega) small
        omega

-----------------------------------------------------------------------------------------
-- Exact numbers as rational numbers
-----------------------------------------------------------------------------------------

namespace Scaled

/-- The rational number that an exact number stands for. -/
def toRat (a : Scaled)
    : ℚ :=
  a.coefficient * 10 ^ a.exponent

theorem toRat_pos_iff (a : Scaled)
    : 0 < a.toRat ↔ 0 < a.coefficient := by
  have scale : (0 : ℚ) < 10 ^ a.exponent := by positivity
  rw [toRat, mul_pos_iff_of_pos_right scale, Int.cast_pos]

theorem toRat_neg_iff (a : Scaled)
    : a.toRat < 0 ↔ a.coefficient < 0 := by
  have scale : (0 : ℚ) < 10 ^ a.exponent := by positivity
  rw [toRat, ← Int.cast_lt_zero (R := ℚ)]
  exact ⟨fun negative => neg_of_mul_neg_left negative scale.le,
    fun negative => mul_neg_of_neg_of_pos negative scale⟩

theorem toRat_of_zero {a : Scaled} (zero : a.coefficient = 0)
    : a.toRat = 0 := by
  simp [toRat, zero]

theorem abs_toRat (a : Scaled)
    : |a.toRat| = a.coefficient.natAbs * 10 ^ a.exponent := by
  have scale : (0 : ℚ) < 10 ^ a.exponent := by positivity
  rw [toRat, abs_mul, abs_of_pos scale, Nat.cast_natAbs, Int.cast_abs]

/-- An exact number has as many digits before the point as its magnitude says, so that it lies
between two powers of ten. -/
theorem abs_toRat_lt (a : Scaled)
    : |a.toRat| < 10 ^ a.magnitude := by
  have scale : (0 : ℚ) < 10 ^ a.exponent := by positivity
  have digits : (a.coefficient.natAbs : ℚ) < 10 ^ digitCount a.coefficient.natAbs := by
    exact_mod_cast lt_pow_digitCount a.coefficient.natAbs
  rw [abs_toRat, magnitude, zpow_add₀ (by norm_num), zpow_natCast]
  exact mul_lt_mul_of_pos_right digits scale

theorem le_abs_toRat {a : Scaled} (nonzero : a.coefficient ≠ 0)
    : 10 ^ a.magnitude ≤ 10 * |a.toRat| := by
  have scale : (0 : ℚ) < 10 ^ a.exponent := by positivity
  have digits : (10 : ℚ) ^ digitCount a.coefficient.natAbs ≤ 10 * a.coefficient.natAbs := by
    exact_mod_cast pow_digitCount_le (Int.natAbs_ne_zero.mpr nonzero)
  rw [abs_toRat, magnitude, zpow_add₀ (by norm_num), zpow_natCast, ← mul_assoc]
  exact mul_le_mul_of_nonneg_right digits scale.le

/-- Of two exact numbers, the one of the smaller magnitude lies nearer to zero. -/
theorem abs_toRat_lt_of_magnitude {a b : Scaled} (nonzero : b.coefficient ≠ 0)
    (smaller : a.magnitude < b.magnitude)
    : |a.toRat| < |b.toRat| := by
  have powers : (10 : ℚ) ^ (a.magnitude + 1) ≤ 10 ^ b.magnitude :=
    zpow_le_zpow_right₀ (by norm_num) (by omega)
  rw [zpow_add_one₀ (by norm_num)] at powers
  have below := abs_toRat_lt a
  have reached := le_abs_toRat nonzero
  linarith

/-- Multiplying out a coefficient over a smaller power of ten leaves the number as it is. -/
theorem alignedTo_mul {a : Scaled} {exponent : Int} (smaller : exponent ≤ a.exponent)
    : (a.alignedTo exponent : ℚ) * 10 ^ exponent = a.toRat := by
  have shifted : (10 : ℚ) ^ (a.exponent - exponent).toNat = 10 ^ (a.exponent - exponent) := by
    rw [← zpow_natCast, Int.toNat_of_nonneg (by omega)]
  have powers : (10 : ℚ) ^ (a.exponent - exponent) * 10 ^ exponent = 10 ^ a.exponent := by
    rw [← zpow_add₀ (by norm_num)]
    congr 1
    omega
  have aligned : (a.alignedTo exponent : ℚ) = a.coefficient * 10 ^ (a.exponent - exponent).toNat :=
    by simp [alignedTo]
  rw [aligned, shifted, mul_assoc, powers, toRat]

/-- Over a common power of ten the coefficients compare as the numbers do. -/
theorem compare_alignedTo {a b : Scaled} {exponent : Int} (left : exponent ≤ a.exponent)
    (right : exponent ≤ b.exponent)
    : compare (a.alignedTo exponent) (b.alignedTo exponent) = compare a.toRat b.toRat := by
  have scale : (0 : ℚ) < 10 ^ exponent := by positivity
  have increasing : StrictMono fun coefficient : ℤ => (coefficient : ℚ) * 10 ^ exponent :=
    fun _ _ less => mul_lt_mul_of_pos_right (Int.cast_lt.mpr less) scale
  rw [← alignedTo_mul left, ← alignedTo_mul right, ← cmp_eq_compare, ← cmp_eq_compare]
  exact (increasing.cmp_map_eq _ _).symm

theorem toRat_lt_of_sign {a b : Scaled} (apart : a.coefficient.sign < b.coefficient.sign)
    : a.toRat < b.toRat := by
  rcases lt_trichotomy a.coefficient 0 with negative | zero | positive
  · have left : a.toRat < 0 := (toRat_neg_iff a).mpr negative
    have right : ¬b.coefficient < 0 := by
      intro negative'
      rw [Int.sign_eq_neg_one_of_neg negative, Int.sign_eq_neg_one_of_neg negative'] at apart
      exact lt_irrefl _ apart
    rw [← toRat_neg_iff, not_lt] at right
    exact left.trans_le right
  · rw [zero, Int.sign_zero, Int.sign_pos_iff] at apart
    rw [toRat_of_zero zero]
    exact (toRat_pos_iff b).mpr apart
  · rw [Int.sign_eq_one_of_pos positive] at apart
    rcases Int.sign_trichotomy b.coefficient with one | zero | minus
    · omega
    · omega
    · omega

/-- Of two numbers with the same sign, the one nearer to zero is smaller exactly if they are
positive. -/
theorem compare_of_abs_lt {a b : Scaled} (same : a.coefficient.sign = b.coefficient.sign)
    (nonzero : a.coefficient ≠ 0) (nearer : |a.toRat| < |b.toRat|)
    : compare a.toRat b.toRat = if a.coefficient < 0 then .gt else .lt := by
  rcases lt_or_gt_of_ne nonzero with negative | positive
  · have other : b.coefficient < 0 := by
      rwa [Int.sign_eq_neg_one_of_neg negative, eq_comm, Int.sign_eq_neg_one_iff_neg] at same
    rw [abs_of_neg ((toRat_neg_iff a).mpr negative), abs_of_neg ((toRat_neg_iff b).mpr other),
      neg_lt_neg_iff] at nearer
    rw [if_pos negative, compare_gt_iff_gt]
    exact nearer
  · have other : 0 < b.coefficient := by
      rwa [Int.sign_eq_one_of_pos positive, eq_comm, Int.sign_eq_one_iff_pos] at same
    rw [abs_of_pos ((toRat_pos_iff a).mpr positive), abs_of_pos ((toRat_pos_iff b).mpr other)]
      at nearer
    rw [if_neg positive.not_gt, compare_lt_iff_lt]
    exact nearer

/-- The order of exact numbers is that of the rational numbers they stand for. -/
theorem order_eq_compare (a b : Scaled)
    : a.order b = compare a.toRat b.toRat := by
  unfold order
  cases signs : compare a.coefficient.sign b.coefficient.sign with
  | lt =>
      have apart : a.coefficient.sign < b.coefficient.sign := compare_lt_iff_lt.mp signs
      symm
      rw [compare_lt_iff_lt]
      exact toRat_lt_of_sign apart
  | gt =>
      have apart : b.coefficient.sign < a.coefficient.sign := compare_gt_iff_gt.mp signs
      symm
      rw [compare_gt_iff_gt]
      exact toRat_lt_of_sign apart
  | eq =>
      have same : a.coefficient.sign = b.coefficient.sign := compare_eq_iff_eq.mp signs
      dsimp only
      split
      · rename_i zero
        have other : b.coefficient = 0 := by
          rw [zero, Int.sign_zero] at same
          exact Int.sign_eq_zero_iff_zero.mp same.symm
        rw [toRat_of_zero zero, toRat_of_zero other, compare_eq_iff_eq.mpr rfl]
      · rename_i nonzero
        have other : b.coefficient ≠ 0 := by
          intro zero
          rw [zero, Int.sign_zero] at same
          exact nonzero (Int.sign_eq_zero_iff_zero.mp same)
        cases magnitudes : compare a.magnitude b.magnitude with
        | eq => exact compare_alignedTo (min_le_left _ _) (min_le_right _ _)
        | lt =>
            have nearer := abs_toRat_lt_of_magnitude other (compare_lt_iff_lt.mp magnitudes)
            exact (compare_of_abs_lt same nonzero nearer).symm
        | gt =>
            have nearer := abs_toRat_lt_of_magnitude nonzero (compare_gt_iff_gt.mp magnitudes)
            have signs : b.coefficient < 0 ↔ a.coefficient < 0 := by
              rw [← Int.sign_eq_neg_one_iff_neg, ← Int.sign_eq_neg_one_iff_neg, same]
            have turned : compare a.toRat b.toRat = (compare b.toRat a.toRat).swap := by
              rw [← cmp_eq_compare, ← cmp_eq_compare, cmp_swap]
            rw [turned, compare_of_abs_lt same.symm other nearer, if_congr signs rfl rfl,
              apply_ite Ordering.swap]
            rfl

end Scaled

-----------------------------------------------------------------------------------------
-- Places of numbers
-----------------------------------------------------------------------------------------

/-- A place on the extended rational line. -/
abbrev Place : Type := WithBot (WithTop ℚ)

/-- A rational number as a place. -/
def Place.ofRat (value : ℚ)
    : Place :=
  ((value : WithTop ℚ) : WithBot (WithTop ℚ))

/-- The end of the line on one of its sides. -/
def Place.infinite (negative : Bool)
    : Place :=
  if negative then ⊥ else ((⊤ : WithTop ℚ) : WithBot (WithTop ℚ))

/-- Where a number stands: an integer where it is, a finite binary or decimal number where its
mantissa times its power stands, and a mark for no number and a complex number nowhere. -/
def place?
    : Number → Option Place
  | .int value => some (.ofRat value)
  | .float (.nan _) | .decimal (.nan ..) | .complex .. => none
  | .float (.infinite negative) | .decimal (.infinite negative) => some (.infinite negative)
  | .float (.finite negative mantissa exponent) =>
      some (.ofRat ((if negative then -1 else 1) * mantissa * 2 ^ exponent))
  | .decimal (.finite negative coefficient exponent) =>
      some (.ofRat ((if negative then -1 else 1) * coefficient * 10 ^ exponent))

/-- The place of a part of the line. -/
def Extent.place
    : Extent → Place
  | .below => .infinite true
  | .finite value => .ofRat value.toRat
  | .above => .infinite false

theorem Place.strictMono_ofRat
    : StrictMono Place.ofRat := by
  intro first second less
  exact WithBot.coe_lt_coe.mpr (WithTop.coe_lt_coe.mpr less)

theorem Place.bot_lt_ofRat (value : ℚ)
    : Place.infinite true < .ofRat value :=
  WithBot.bot_lt_coe _

theorem Place.ofRat_lt_top (value : ℚ)
    : Place.ofRat value < .infinite false :=
  WithBot.coe_lt_coe.mpr (WithTop.coe_lt_top _)

/-- The order of the extended line, part by part. -/
theorem Extent.order_eq_compare (a b : Extent)
    : a.order b = compare a.place b.place := by
  symm
  cases a with
  | below =>
      cases b with
      | below => exact compare_eq_iff_eq.mpr rfl
      | finite value => exact compare_lt_iff_lt.mpr (Place.bot_lt_ofRat _)
      | above => exact compare_lt_iff_lt.mpr (WithBot.bot_lt_coe _)
  | finite value =>
      cases b with
      | below => exact compare_gt_iff_gt.mpr (Place.bot_lt_ofRat _)
      | finite other =>
          simp only [order, place, Scaled.order_eq_compare, ← cmp_eq_compare]
          exact Place.strictMono_ofRat.cmp_map_eq _ _
      | above => exact compare_lt_iff_lt.mpr (Place.ofRat_lt_top _)
  | above =>
      cases b with
      | below => exact compare_gt_iff_gt.mpr (WithBot.bot_lt_coe _)
      | finite value => exact compare_gt_iff_gt.mpr (Place.ofRat_lt_top _)
      | above => exact compare_eq_iff_eq.mpr rfl

/-- A binary number is scaled to a decimal one without a change of its value. -/
theorem toRat_binary (negative : Bool) (mantissa : Nat) (exponent : Int)
    : (Binary64.exactly negative mantissa exponent).toRat
      = (if negative then -1 else 1) * mantissa * 2 ^ exponent := by
  unfold Binary64.exactly Scaled.toRat
  by_cases whole : 0 ≤ exponent
  · have power : (2 : ℚ) ^ exponent.toNat = 2 ^ exponent := by
      rw [← zpow_natCast, Int.toNat_of_nonneg whole]
    rw [if_pos whole]
    push_cast
    rw [Nat.pow_eq, Nat.cast_pow, Nat.cast_ofNat, power, mul_one, mul_assoc]
  · have power : (5 : ℚ) ^ (-exponent).toNat * 10 ^ exponent = 2 ^ exponent := by
      have split : (10 : ℚ) ^ exponent = 2 ^ exponent * 5 ^ exponent := by
        rw [← mul_zpow]
        norm_num
      have inverse : (5 : ℚ) ^ (-exponent).toNat = (5 ^ exponent)⁻¹ := by
        rw [← zpow_natCast, Int.toNat_of_nonneg (by omega), zpow_neg]
      have nonzero : (5 : ℚ) ^ exponent ≠ 0 := zpow_ne_zero _ (by norm_num)
      rw [split, inverse]
      field_simp
    rw [if_neg whole]
    push_cast
    rw [Nat.pow_eq, Nat.cast_pow, Nat.cast_ofNat, mul_assoc, mul_assoc, power, mul_assoc]

theorem toRat_decimal (negative : Bool) (coefficient : Nat) (exponent : Int)
    : (Decimal.exactly negative coefficient exponent).toRat
      = (if negative then -1 else 1) * coefficient * 10 ^ exponent := by
  cases negative <;> simp [Decimal.exactly, Scaled.toRat]

/-- A number stands at the place of its part of the line. -/
theorem place?_eq (number : Number)
    : number.place? = number.extent?.map Extent.place := by
  cases number with
  | int value => simp [place?, extent?, Extent.place, Scaled.toRat]
  | float value =>
      cases value with
      | nan object => rfl
      | infinite negative => cases negative <;> rfl
      | finite negative mantissa exponent =>
          simp only [place?, extent?, Option.map_some, Extent.place, toRat_binary]
  | decimal value =>
      cases value with
      | nan negative signalling payload object => rfl
      | infinite negative => cases negative <;> rfl
      | finite negative coefficient exponent =>
          simp only [place?, extent?, Option.map_some, Extent.place, toRat_decimal]
  | complex real imaginary => rfl

/-- Numbers of any two classes are ordered as the places where they stand. -/
theorem order?_eq_compare (a b : Number)
    : a.order? b = (do
        let first ← a.place?
        let second ← b.place?
        some (compare first second)) := by
  rw [place?_eq, place?_eq]
  unfold order?
  cases a.extent? with
  | none => rfl
  | some first =>
      cases b.extent? with
      | none => rfl
      | some second => exact congrArg some (Extent.order_eq_compare first second)

end Assay.Number
