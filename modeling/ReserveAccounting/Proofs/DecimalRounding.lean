import Mathlib.Algebra.Order.Field.Power
import Mathlib.Algebra.Order.Field.Rat
import Mathlib.Algebra.Order.Floor.Semifield
import Mathlib.Data.Rat.Floor
import Mathlib.Tactic.Linarith
import Mathlib.Tactic.NormNum
import Mathlib.Tactic.Positivity
import Mathlib.Tactic.Ring
import ReserveAccounting.Decimal.Basic

/-!
# Values of decimals

A rounded decimal lies within half of the last digit that is kept of the exact
one, and rounding crosses no number that fits: what does not exceed such a
number does not exceed it after rounding either. The integer part of a number
lies between zero and the number.
-/

namespace ReserveAccounting
namespace Decimal

/-!
# Digits
-/

theorem lt_pow_digitCount (n : Nat) : n < 10 ^ digitCount n := by
  fun_induction digitCount n with
  | case1 n h => omega
  | case2 n h ih =>
      rw [pow_succ]
      omega

theorem pow_digitCount_le {n : Nat} (hn : 0 < n) : 10 ^ digitCount n ≤ 10 * n := by
  fun_induction digitCount n with
  | case1 n h => omega
  | case2 n h ih =>
      have hpart := ih (by omega)
      rw [pow_succ]
      omega

theorem dropDigits_eq (n k : Nat) : dropDigits n k = n / 10 ^ k := by
  unfold dropDigits
  split
  case isTrue h =>
    have hpow : 10 ^ digitCount n ≤ 10 ^ k := Nat.pow_le_pow_right (by decide) h
    exact (Nat.div_eq_of_lt ((lt_pow_digitCount n).trans_le hpow)).symm
  case isFalse => rfl

/--
The neighbour below is taken up to a half of the unit, the one above from a half
on, and at a half the even one of them.
-/
theorem nearest_cases (quotient rest unit : Nat) :
    let nearest :=
      if unit < 2 * rest || (2 * rest = unit && quotient % 2 = 1) then quotient + 1 else quotient
    (nearest = quotient ∧ 2 * rest ≤ unit ∨ nearest = quotient + 1 ∧ unit ≤ 2 * rest) ∧
      (2 * rest = unit → Even nearest) := by
  dsimp only
  split
  case isTrue h =>
    simp only [Bool.or_eq_true, Bool.and_eq_true, decide_eq_true_eq] at h
    exact ⟨Or.inr ⟨rfl, by omega⟩, fun htie => Nat.even_iff.mpr (by omega)⟩
  case isFalse h =>
    simp only [Bool.or_eq_true, Bool.and_eq_true, decide_eq_true_eq, not_or] at h
    exact ⟨Or.inl ⟨rfl, by omega⟩, fun htie => Nat.even_iff.mpr (by omega)⟩

theorem roundDigits_cases (n k : Nat) :
    (roundDigits n k = n / 10 ^ k ∧ 2 * (n % 10 ^ k) ≤ 10 ^ k ∨
      roundDigits n k = n / 10 ^ k + 1 ∧ 10 ^ k ≤ 2 * (n % 10 ^ k)) ∧
      (2 * (n % 10 ^ k) = 10 ^ k → Even (roundDigits n k)) := by
  unfold roundDigits
  split
  case isTrue h =>
    have hpow : 10 ^ (digitCount n + 1) ≤ 10 ^ k := Nat.pow_le_pow_right (by decide) h
    have hlt := lt_pow_digitCount n
    rw [pow_succ] at hpow
    rw [Nat.div_eq_of_lt (by omega), Nat.mod_eq_of_lt (by omega)]
    exact ⟨Or.inl ⟨rfl, by omega⟩, fun _ => Even.zero⟩
  case isFalse => exact nearest_cases (n / 10 ^ k) (n % 10 ^ k) (10 ^ k)

theorem roundDigits_near (n k : Nat) :
    2 * n ≤ 2 * (roundDigits n k * 10 ^ k) + 10 ^ k ∧
      2 * (roundDigits n k * 10 ^ k) ≤ 2 * n + 10 ^ k ∧
      (2 * n = 2 * (roundDigits n k * 10 ^ k) + 10 ^ k ∨
        2 * (roundDigits n k * 10 ^ k) = 2 * n + 10 ^ k → Even (roundDigits n k)) := by
  have hparts := Nat.div_add_mod n (10 ^ k)
  rw [mul_comm] at hparts
  have hrest := Nat.mod_lt n (Nat.pow_pos (n := k) (show 0 < 10 by decide))
  rcases roundDigits_cases n k with ⟨⟨hdown, hhalf⟩ | ⟨hup, hhalf⟩, heven⟩
  · rw [hdown] at heven ⊢
    exact ⟨by omega, by omega, fun htie => heven (by omega)⟩
  · rw [hup] at heven ⊢
    rw [add_mul, one_mul]
    exact ⟨by omega, by omega, fun htie => heven (by omega)⟩

theorem roundDigits_le {n k q : Nat} (h : n ≤ q * 10 ^ k) : roundDigits n k ≤ q := by
  have hnear := (roundDigits_near n k).right.left
  have hpow : 0 < 10 ^ k := Nat.pow_pos (by decide)
  by_contra hlt
  have hstep : (q + 1) * 10 ^ k ≤ roundDigits n k * 10 ^ k :=
    Nat.mul_le_mul_right _ (by omega)
  rw [add_mul, one_mul] at hstep
  omega

/-!
# Values
-/

variable {p : Precision} {x y : Decimal}

def magnitude (x : Decimal) : ℚ := x.coefficient * 10 ^ x.exponent

def toRat (x : Decimal) : ℚ := if x.negative then -x.magnitude else x.magnitude

theorem magnitude_nonneg (x : Decimal) : 0 ≤ x.magnitude := by
  unfold magnitude
  positivity

theorem abs_toRat (x : Decimal) : |x.toRat| = x.magnitude := by
  unfold toRat
  split
  · rw [abs_neg, abs_of_nonneg x.magnitude_nonneg]
  · exact abs_of_nonneg x.magnitude_nonneg

theorem magnitude_of_coefficient_eq_zero (h : x.coefficient = 0) : x.magnitude = 0 := by
  unfold magnitude
  rw [h, Nat.cast_zero, zero_mul]

theorem magnitude_eq_of_le {place : Int} (h : place ≤ x.exponent) :
    x.magnitude = (x.coefficient * 10 ^ (x.exponent - place).toNat : Nat) * 10 ^ place := by
  have hsplit : x.exponent = ((x.exponent - place).toNat : Int) + place := by omega
  unfold magnitude
  rw [hsplit, zpow_add₀ (by norm_num), zpow_natCast]
  push_cast
  rw [← hsplit]
  ring

theorem toRat_ofInt (n : Int) : (ofInt n).toRat = n := by
  unfold toRat magnitude ofInt
  simp only [zpow_zero, mul_one, Nat.cast_natAbs, decide_eq_true_eq]
  split
  case isTrue h => rw [abs_of_neg h]; push_cast; ring
  case isFalse h => rw [abs_of_nonneg (by omega)]

theorem magnitude_ofInt (n : Int) : (ofInt n).magnitude = |(n : ℚ)| := by
  rw [← abs_toRat, toRat_ofInt]

theorem pow_adjusted_le (h : x.coefficient ≠ 0) : (10 : ℚ) ^ x.adjusted ≤ x.magnitude := by
  have hdigits := pow_digitCount_le (Nat.pos_of_ne_zero h)
  have hcast : (10 : ℚ) ^ digitCount x.coefficient ≤ 10 * x.coefficient := by exact_mod_cast hdigits
  unfold adjusted magnitude
  rw [show x.exponent + digitCount x.coefficient - 1 =
    ((digitCount x.coefficient : Nat) : Int) + x.exponent - 1 by ring,
    zpow_sub_one₀ (by norm_num), zpow_add₀ (by norm_num), zpow_natCast]
  have hpow : (0 : ℚ) < 10 ^ x.exponent := by positivity
  nlinarith

theorem magnitude_lt_pow (x : Decimal) : x.magnitude < 10 ^ (x.adjusted + 1) := by
  have hcast : (x.coefficient : ℚ) < 10 ^ digitCount x.coefficient := by
    exact_mod_cast lt_pow_digitCount x.coefficient
  unfold adjusted magnitude
  rw [show x.exponent + digitCount x.coefficient - 1 + 1 =
    ((digitCount x.coefficient : Nat) : Int) + x.exponent by ring,
    zpow_add₀ (by norm_num), zpow_natCast]
  have hpow : (0 : ℚ) < 10 ^ x.exponent := by positivity
  nlinarith

theorem leNegOne_iff : x.leNegOne = true ↔ x.toRat ≤ -1 := by
  unfold leNegOne toRat
  have hnonneg := x.magnitude_nonneg
  cases hsign : x.negative with
  | false =>
      simp only [Bool.false_and, Bool.false_eq_true, false_iff, if_false]
      linarith
  | true =>
      simp only [Bool.true_and, if_true, Bool.and_eq_true, decide_eq_true_eq, ne_eq]
      constructor
      · intro h
        have hone : (10 : ℚ) ^ (0 : Int) ≤ 10 ^ x.adjusted :=
          zpow_le_zpow_right₀ (by norm_num) h.right
        rw [zpow_zero] at hone
        linarith [pow_adjusted_le h.left]
      · intro h
        have hne : x.coefficient ≠ 0 := by
          intro hzero
          rw [magnitude_of_coefficient_eq_zero hzero] at h
          norm_num at h
        refine ⟨hne, ?_⟩
        by_contra hlt
        have hone : (10 : ℚ) ^ (x.adjusted + 1) ≤ 10 ^ (0 : Int) :=
          zpow_le_zpow_right₀ (by norm_num) (by omega)
        rw [zpow_zero] at hone
        linarith [x.magnitude_lt_pow]

theorem truncate_eq (x : Decimal) :
    x.truncate = if x.negative then -(⌊x.magnitude⌋₊ : Int) else ⌊x.magnitude⌋₊ := by
  have hfloor : (if 0 ≤ x.exponent then x.coefficient * Nat.pow 10 x.exponent.toNat
      else dropDigits x.coefficient (-x.exponent).toNat) = ⌊x.magnitude⌋₊ := by
    split
    case isTrue h =>
      have hwhole := magnitude_eq_of_le h
      rw [zpow_zero, mul_one, Int.sub_zero] at hwhole
      rw [hwhole, Nat.floor_natCast]
      rfl
    case isFalse h =>
      have hpart : x.magnitude = x.coefficient / ((10 ^ (-x.exponent).toNat : Nat) : ℚ) := by
        have hexponent : x.exponent = -((-x.exponent).toNat : Int) := by omega
        unfold magnitude
        nth_rewrite 1 [hexponent]
        rw [zpow_neg, zpow_natCast]
        push_cast
        rfl
      rw [dropDigits_eq, hpart, Nat.floor_div_eq_div]
  unfold truncate
  rw [hfloor]

theorem truncate_nonneg (h : 0 ≤ x.toRat) : 0 ≤ x.truncate := by
  rw [truncate_eq]
  split
  case isTrue hsign =>
    unfold toRat at h
    rw [if_pos hsign] at h
    rw [Nat.floor_of_nonpos (by linarith)]
    decide
  case isFalse => exact Int.natCast_nonneg _

theorem truncate_of_nonpos (h : x.toRat ≤ 0) :
    x.toRat ≤ x.truncate ∧ (x.truncate : ℚ) < x.toRat + 1 := by
  have hnonneg := x.magnitude_nonneg
  have hbelow := Nat.floor_le hnonneg
  have habove := Nat.lt_floor_add_one x.magnitude
  rw [truncate_eq]
  unfold toRat at *
  cases hsign : x.negative with
  | true =>
      rw [if_pos rfl, if_pos rfl]
      push_cast
      constructor <;> linarith
  | false =>
      rw [hsign] at h
      have hzero : x.magnitude = 0 := le_antisymm h hnonneg
      simp [hzero]

/-!
# Rounding
-/

def exactMul (x y : Decimal) : Decimal :=
  ⟨x.negative ^^ y.negative, x.coefficient * y.coefficient, x.exponent + y.exponent⟩

theorem toRat_exactMul (x y : Decimal) : (x.exactMul y).toRat = x.toRat * y.toRat := by
  have hmagnitude : (x.exactMul y).magnitude = x.magnitude * y.magnitude := by
    unfold magnitude exactMul
    dsimp only
    rw [zpow_add₀ (by norm_num)]
    push_cast
    ring
  unfold toRat
  rw [hmagnitude]
  cases hx : x.negative <;> cases hy : y.negative <;> simp [exactMul, hx, hy]

/-- The exponent of the last digit that rounding keeps; a zero keeps every digit there is. -/
def Precision.keptPlace (p : Precision) (x : Decimal) : Int :=
  if x.coefficient = 0 then p.leastExponent else max (x.adjusted + 1 - p.digits) p.leastExponent

theorem roundDigits_le_pow {n k digits : Nat} (h : digitCount n ≤ digits + k) :
    roundDigits n k ≤ 10 ^ digits := by
  apply roundDigits_le
  rw [← pow_add]
  exact (lt_pow_digitCount n).le.trans (Nat.pow_le_pow_right (by decide) h)

theorem eq_pow_of_carry {rounded digits : Nat} (hcarry : digits < digitCount rounded)
    (hdigits : 0 < digits) (hle : rounded ≤ 10 ^ digits) : rounded = 10 ^ digits := by
  have hpos : 0 < rounded := by
    apply Nat.pos_of_ne_zero
    rintro rfl
    have hone : digitCount 0 = 1 := by rw [digitCount, if_pos (by decide)]
    omega
  have hge : 10 ^ (digits + 1) ≤ 10 * rounded :=
    (Nat.pow_le_pow_right (by decide) hcarry).trans (pow_digitCount_le hpos)
  rw [pow_succ] at hge
  omega

theorem magnitude_of_carry {rounded digits : Nat} (negative : Bool) (place : Int)
    (hdigits : 0 < digits) (hcarry : digits < digitCount rounded) (hle : rounded ≤ 10 ^ digits) :
    (⟨negative, rounded / 10, place + 1⟩ : Decimal).magnitude = rounded * 10 ^ place := by
  have htens : 10 * (rounded / 10) = rounded := by
    rw [eq_pow_of_carry hcarry hdigits hle]
    exact Nat.mul_div_cancel' (dvd_pow_self 10 hdigits.ne')
  have hcast : (rounded : ℚ) = 10 * (rounded / 10 : Nat) := by exact_mod_cast htens.symm
  unfold magnitude
  rw [hcast, zpow_add_one₀ (by norm_num)]
  ring

theorem roundDigits_near_magnitude {place : Int} (h : x.exponent ≤ place) :
    let rounded := roundDigits x.coefficient (place - x.exponent).toNat
    2 * |rounded * 10 ^ place - x.magnitude| ≤ (10 : ℚ) ^ place ∧
      (2 * |rounded * 10 ^ place - x.magnitude| = (10 : ℚ) ^ place → Even rounded) := by
  intro rounded
  rcases roundDigits_near x.coefficient (place - x.exponent).toNat with ⟨hlow, hhigh, heven⟩
  have hsplit : (10 : ℚ) ^ place = 10 ^ (place - x.exponent).toNat * 10 ^ x.exponent := by
    rw [← zpow_natCast, ← zpow_add₀ (by norm_num)]
    congr 1
    omega
  have hunit : (0 : ℚ) < 10 ^ x.exponent := by positivity
  have hdistance : 2 * |rounded * 10 ^ place - x.magnitude| =
      |2 * (rounded * 10 ^ (place - x.exponent).toNat) - 2 * (x.coefficient : ℚ)| *
        10 ^ x.exponent := by
    unfold magnitude
    rw [hsplit, ← mul_assoc, ← sub_mul, abs_mul, abs_of_pos hunit, ← mul_sub, abs_mul, abs_two]
    ring
  rw [hdistance, hsplit]
  constructor
  · refine mul_le_mul_of_nonneg_right (abs_le.mpr ⟨?_, ?_⟩) hunit.le
    · have hlow' : (2 : ℚ) * x.coefficient ≤
          2 * (rounded * 10 ^ (place - x.exponent).toNat) + 10 ^ (place - x.exponent).toNat := by
        exact_mod_cast hlow
      linarith
    · have hhigh' : (2 : ℚ) * (rounded * 10 ^ (place - x.exponent).toNat) ≤
          2 * x.coefficient + 10 ^ (place - x.exponent).toNat := by
        exact_mod_cast hhigh
      linarith
  · intro htie
    apply heven
    rcases eq_or_eq_neg_of_abs_eq (mul_right_cancel₀ hunit.ne' htie) with habove | hbelow
    · right
      have hexact : (2 : ℚ) * (rounded * 10 ^ (place - x.exponent).toNat) =
          2 * x.coefficient + 10 ^ (place - x.exponent).toNat := by linarith
      exact_mod_cast hexact
    · left
      have hexact : (2 : ℚ) * x.coefficient =
          2 * (rounded * 10 ^ (place - x.exponent).toNat) + 10 ^ (place - x.exponent).toNat := by
        linarith
      exact_mod_cast hexact

/--
A rounded number is a multiple of the last digit kept, and lies within half of
that digit of the exact number; of two that lie as near it is the even multiple.
Where rounding carries into one more digit, that number is a power of ten, so
that the digit given up is a zero.
-/
theorem round_onGrid (hdigits : 0 < p.digits) (h : round p x = .ok y) :
    y.negative = x.negative ∧ ∃ n : Nat, y.magnitude = n * 10 ^ p.keptPlace x ∧
      2 * |y.magnitude - x.magnitude| ≤ 10 ^ p.keptPlace x ∧
      (2 * |y.magnitude - x.magnitude| = 10 ^ p.keptPlace x → Even n) := by
  unfold round at h
  split at h
  case isTrue hzero =>
    cases h
    have hclamped : (⟨x.negative, x.coefficient,
        min (max x.exponent p.leastExponent) p.maxExponent⟩ : Decimal).magnitude = 0 :=
      magnitude_of_coefficient_eq_zero hzero
    refine ⟨rfl, 0, ?_, ?_, fun _ => Even.zero⟩
    · rw [hclamped, Nat.cast_zero, zero_mul]
    · rw [hclamped, magnitude_of_coefficient_eq_zero hzero, sub_self, abs_zero, mul_zero]
      positivity
  case isFalse hne =>
    have hplace : p.keptPlace x =
        max ((digitCount x.coefficient : Int) + x.exponent - p.digits) p.leastExponent := by
      unfold Precision.keptPlace adjusted
      rw [if_neg hne]
      congr 1
      ring
    dsimp only at h
    rw [← hplace] at h
    split at h
    case isTrue => cases h
    case isFalse =>
      split at h
      case isTrue hlow =>
        have hnear := roundDigits_near_magnitude hlow.le
        have hkept : digitCount x.coefficient ≤ p.digits + (p.keptPlace x - x.exponent).toNat := by
          omega
        split at h
        case isTrue hcarry =>
          split at h
          case isTrue => cases h
          case isFalse =>
            cases h
            have hcarried := magnitude_of_carry x.negative (p.keptPlace x) hdigits hcarry
              (roundDigits_le_pow hkept)
            refine ⟨rfl, _, hcarried, ?_⟩
            rw [hcarried]
            exact hnear
        case isFalse =>
          cases h
          exact ⟨rfl, _, rfl, hnear⟩
      case isFalse hhigh =>
        cases h
        have hunit : (0 : ℚ) < 10 ^ p.keptPlace x := by positivity
        refine ⟨rfl, _, magnitude_eq_of_le (not_lt.mp hhigh), ?_⟩
        rw [sub_self, abs_zero, mul_zero]
        exact ⟨hunit.le, fun htie => absurd htie hunit.ne⟩

theorem toRat_round_near (hdigits : 0 < p.digits) (h : round p x = .ok y) :
    2 * |y.toRat - x.toRat| ≤ 10 ^ p.keptPlace x := by
  rcases round_onGrid hdigits h with ⟨hsign, _, _, hnear, _⟩
  unfold toRat
  rw [hsign]
  cases x.negative with
  | false => exact hnear
  | true =>
      rw [if_pos rfl, if_pos rfl, neg_sub_neg, abs_sub_comm]
      exact hnear

theorem magnitude_round_le (hdigits : 0 < p.digits) (h : round p x = .ok y) {n : Nat}
    (hle : x.magnitude ≤ n * 10 ^ p.keptPlace x) : y.magnitude ≤ n * 10 ^ p.keptPlace x := by
  rcases round_onGrid hdigits h with ⟨_, m, hgrid, hnear, _⟩
  have hunit : (0 : ℚ) < 10 ^ p.keptPlace x := by positivity
  have hupper := (abs_le.mp (show |y.magnitude - x.magnitude| ≤ 10 ^ p.keptPlace x / 2 by
    linarith)).right
  rw [hgrid] at hupper ⊢
  have hcount : (m : ℚ) < n + 1 := by nlinarith
  have hle : m ≤ n := by exact_mod_cast Nat.lt_succ_iff.mp (by exact_mod_cast hcount)
  gcongr

theorem le_magnitude_round (hdigits : 0 < p.digits) (h : round p x = .ok y) {n : Nat}
    (hlt : 2 * (n * 10 ^ p.keptPlace x) < 2 * x.magnitude + 10 ^ p.keptPlace x) :
    n * 10 ^ p.keptPlace x ≤ y.magnitude := by
  rcases round_onGrid hdigits h with ⟨_, m, hgrid, hnear, _⟩
  have hunit : (0 : ℚ) < 10 ^ p.keptPlace x := by positivity
  have hlower := (abs_le.mp (show |y.magnitude - x.magnitude| ≤ 10 ^ p.keptPlace x / 2 by
    linarith)).left
  rw [hgrid] at hlower ⊢
  have hcount : (n : ℚ) < m + 1 := by nlinarith
  have hle : n ≤ m := by exact_mod_cast Nat.lt_succ_iff.mp (by exact_mod_cast hcount)
  gcongr

theorem magnitude_round_eq_iff (hdigits : 0 < p.digits) (h : round p x = .ok y) {n : Nat}
    (hle : x.magnitude ≤ n * 10 ^ p.keptPlace x) :
    y.magnitude = n * 10 ^ p.keptPlace x ↔
      2 * (n * 10 ^ p.keptPlace x) < 2 * x.magnitude + 10 ^ p.keptPlace x ∨
      2 * (n * 10 ^ p.keptPlace x) = 2 * x.magnitude + 10 ^ p.keptPlace x ∧ Even n := by
  rcases round_onGrid hdigits h with ⟨_, m, hgrid, hnear, htie⟩
  have hunit : (0 : ℚ) < 10 ^ p.keptPlace x := by positivity
  constructor
  · intro heq
    rw [heq, abs_of_nonneg (by linarith)] at hnear htie
    rcases lt_or_eq_of_le hnear with hlt | hhalf
    · exact Or.inl (by linarith)
    · have hmn : (m : ℚ) = n := mul_right_cancel₀ hunit.ne' (hgrid.symm.trans heq)
      have heven : Even m := htie hhalf
      rw [show m = n by exact_mod_cast hmn] at heven
      exact Or.inr ⟨by linarith, heven⟩
  · have hbelow := magnitude_round_le hdigits h hle
    rintro (hlt | ⟨hhalf, heven⟩)
    · exact le_antisymm hbelow (le_magnitude_round hdigits h hlt)
    · -- Half way, the neighbour below is the only other choice, and it is odd.
      refine le_antisymm hbelow (not_lt.mp fun hless => ?_)
      have hlower := (abs_le.mp (show |y.magnitude - x.magnitude| ≤ 10 ^ p.keptPlace x / 2 by
        linarith)).left
      rw [hgrid] at hlower hless
      have hmn : (m : ℚ) < n := lt_of_mul_lt_mul_right hless hunit.le
      have hnm : (n : ℚ) ≤ m + 1 := by nlinarith
      have hnext : n = m + 1 := by
        have hmn' : m < n := by exact_mod_cast hmn
        have hnm' : n ≤ m + 1 := by exact_mod_cast hnm
        omega
      have hcast : (n : ℚ) = m + 1 := by exact_mod_cast hnext
      have heven' : Even m := by
        apply htie
        rw [hcast] at hhalf
        rw [hgrid, abs_of_nonpos (by linarith)]
        linarith
      rw [Nat.even_iff] at heven heven'
      omega

theorem magnitude_round_eq_zero (hdigits : 0 < p.digits) (h : round p x = .ok y)
    (hx : x.magnitude = 0) : y.magnitude = 0 := by
  have hle := magnitude_round_le hdigits h (n := 0) (by rw [hx, Nat.cast_zero, zero_mul])
  rw [Nat.cast_zero, zero_mul] at hle
  exact le_antisymm hle y.magnitude_nonneg

theorem toRat_round_nonneg (hdigits : 0 < p.digits) (h : round p x = .ok y) (hx : 0 ≤ x.toRat) :
    0 ≤ y.toRat := by
  unfold toRat at *
  rw [(round_onGrid hdigits h).left]
  cases hsign : x.negative with
  | false => exact y.magnitude_nonneg
  | true =>
      rw [hsign, if_pos rfl] at hx
      rw [if_pos rfl, magnitude_round_eq_zero hdigits h (by linarith [x.magnitude_nonneg]),
        neg_zero]

theorem toRat_round_nonpos (hdigits : 0 < p.digits) (h : round p x = .ok y) (hx : x.toRat ≤ 0) :
    y.toRat ≤ 0 := by
  unfold toRat at *
  rw [(round_onGrid hdigits h).left]
  cases hsign : x.negative with
  | true =>
      rw [if_pos rfl]
      linarith [y.magnitude_nonneg]
  | false =>
      rw [hsign, if_neg Bool.false_ne_true] at hx
      rw [if_neg Bool.false_ne_true,
        magnitude_round_eq_zero hdigits h (le_antisymm hx x.magnitude_nonneg)]

/--
The last digit kept is less than one part in `10 ^ (digits - 1)` of what exceeds
the number, unless it is the least digit there is.
-/
theorem pow_keptPlace_lt {bound : ℚ} (hx : x.magnitude < bound)
    (hleast : 10 ^ p.leastExponent * 10 ^ p.digits < 10 * bound) :
    10 ^ p.keptPlace x * 10 ^ p.digits < 10 * bound := by
  unfold Precision.keptPlace
  split
  case isTrue => exact hleast
  case isFalse hne =>
    rcases max_choice (x.adjusted + 1 - p.digits) p.leastExponent with hmax | hmax
    · rw [hmax, ← zpow_natCast, ← zpow_add₀ (by norm_num), sub_add_cancel,
        zpow_add_one₀ (by norm_num)]
      linarith [pow_adjusted_le hne]
    · rw [hmax]
      exact hleast

theorem adjusted_lt {place : Int} (hne : x.coefficient ≠ 0) (hx : x.magnitude < 10 ^ place) :
    x.adjusted < place :=
  (zpow_lt_zpow_iff_right₀ (by norm_num)).mp ((pow_adjusted_le hne).trans_lt hx)

theorem le_adjusted {place : Int} (hx : 10 ^ place ≤ x.magnitude) : place ≤ x.adjusted :=
  Int.lt_add_one_iff.mp
    ((zpow_lt_zpow_iff_right₀ (by norm_num)).mp (hx.trans_lt x.magnitude_lt_pow))

theorem keptPlace_nonpos (hleast : p.leastExponent ≤ 0) (hx : x.magnitude < 10 ^ p.digits) :
    p.keptPlace x ≤ 0 := by
  unfold Precision.keptPlace
  split
  case isTrue => exact hleast
  case isFalse hne =>
    have hlt := adjusted_lt hne (show x.magnitude < 10 ^ (p.digits : Int) by rwa [zpow_natCast])
    omega

theorem exists_round (hmax : 0 < p.maxExponent)
    (hx : x.coefficient ≠ 0 → x.adjusted < p.maxExponent) : ∃ y, round p x = .ok y := by
  unfold round
  split
  case isTrue => exact ⟨_, rfl⟩
  case isFalse hne =>
    have hadjusted := hx hne
    unfold adjusted at hadjusted
    unfold Precision.fullExponent Precision.leastExponent
    dsimp only
    rw [if_neg (by omega)]
    split
    · split
      · rw [if_neg (by omega)]
        exact ⟨_, rfl⟩
      · exact ⟨_, rfl⟩
    · exact ⟨_, rfl⟩

end Decimal
end ReserveAccounting
