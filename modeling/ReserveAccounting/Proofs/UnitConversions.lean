import ReserveAccounting.BaseUnits
import ReserveAccounting.Proofs.DecimalTexts
import ReserveAccounting.Proofs.NearestDecimals
import ReserveAccounting.Scenario.Basic

/-!
# Conversions of units

An amount of whole units comes to base units by a product that keeps twenty-eight
digits, and only what is left after that rounding is cut to an integer. Amounts
whose product the digits can write lose their fraction and no more. Counts of
less than `10 ^ 28` base units come to whole units exactly, and back.
-/

namespace ReserveAccounting
namespace BaseUnits

open Decimal

variable {x : Decimal} {text : String} {decimals n : Int}

/-!
# The power of ten
-/

/-- The zeros that a whole unit is written with; the exponent stands for the others. -/
def writtenZeros (decimals : Int) : Nat := min decimals.toNat (Precision.standard.digits - 1)

def wholeUnit (decimals : Int) : Decimal :=
  ⟨false, 10 ^ writtenZeros decimals, decimals - writtenZeros decimals⟩

theorem writtenZeros_le (hdecimals : 0 ≤ decimals) : (writtenZeros decimals : Int) ≤ decimals := by
  unfold writtenZeros
  omega

theorem tenPow_of_beyond (hbeyond : Precision.standard.maxExponent < decimals) :
    tenPow .standard decimals = .error .tooLarge := if_pos hbeyond

theorem tenPow_eq_wholeUnit (hdecimals : 0 ≤ decimals)
    (hrange : decimals ≤ Precision.standard.maxExponent) :
    tenPow .standard decimals = .ok (wholeUnit decimals) := by
  have hleast : Precision.standard.leastExponent ≤ 0 := by decide
  unfold tenPow
  rw [if_neg (by omega), if_neg (by omega), if_neg (by omega)]
  rfl

theorem toRat_wholeUnit (decimals : Int) : (wholeUnit decimals).toRat = 10 ^ decimals := by
  unfold toRat magnitude wholeUnit
  rw [if_neg Bool.false_ne_true, Nat.cast_pow, Nat.cast_ofNat, ← zpow_natCast,
    ← zpow_add₀ (by norm_num), add_sub_cancel]

/-!
# Whole units to base units
-/

def exactUnits (x : Decimal) (decimals : Int) : ℚ := x.toRat * 10 ^ decimals

theorem toRat_exactMul_wholeUnit :
    (x.exactMul (wholeUnit decimals)).toRat = exactUnits x decimals := by
  rw [toRat_exactMul, toRat_wholeUnit]
  rfl

theorem ofText_eq (hread : Numeral.ofText? text = some (.number x)) :
    ofText text decimals = ofAmount (.number x) decimals := by
  unfold ofText Numeral.ofText
  rw [hread]
  rfl

theorem fieldAmount_eq {step : Document} {key : String}
    (hfield : Scenario.fieldText step key = .ok text)
    (hread : Numeral.ofText? text = some (.number x)) :
    Scenario.fieldAmount step key decimals =
      (ofText text decimals).mapError Fault.decimal := by
  have hnumeral : Scenario.fieldNumeral step key = .ok (.number x) := by
    unfold Scenario.fieldNumeral
    rw [hfield]
    dsimp only [bind, Except.bind]
    rw [hread]
  rw [ofText_eq hread]
  unfold Scenario.fieldAmount
  rw [hnumeral]
  rfl

theorem ofAmount_of_beyond (hbeyond : Precision.standard.maxExponent < decimals) :
    ofAmount (.number x) decimals = .error .tooLarge := by
  unfold ofAmount
  rw [tenPow_of_beyond hbeyond]
  rfl

section

variable (hdecimals : 0 ≤ decimals) (hrange : decimals ≤ Precision.standard.maxExponent)
include hdecimals hrange

theorem ofAmount_number :
    ofAmount (.number x) decimals =
      (Decimal.round .standard (x.exactMul (wholeUnit decimals))).map truncate := by
  unfold ofAmount
  rw [tenPow_eq_wholeUnit hdecimals hrange]
  change ((Decimal.round .standard (x.exactMul (wholeUnit decimals))).map Numeral.number).bind
    Numeral.truncate = _
  cases Decimal.round .standard (x.exactMul (wholeUnit decimals)) <;> rfl

theorem ofAmount_of_large
    (hlarge : 10 ^ (Precision.standard.maxExponent + 1) ≤ |exactUnits x decimals|) :
    ofAmount (.number x) decimals = .error .tooLarge := by
  rw [← toRat_exactMul_wholeUnit, abs_toRat] at hlarge
  have hne := coefficient_ne_zero_of_lt (by positivity) hlarge
  rw [ofAmount_number hdecimals hrange, round_of_beyond hne (le_adjusted hlarge)]
  rfl

/--
What is left of a number when it is cut to an integer; it is too large if it is
the power of ten with which the exponent range ends.
-/
def IsCut (r : ℚ) (answer : Except Failure Int) : Prop :=
  answer = .ok (towardZero r) ∨
    answer = .error .tooLarge ∧ |r| = 10 ^ (Precision.standard.maxExponent + 1)

variable (hsmall : |exactUnits x decimals| < 10 ^ (Precision.standard.maxExponent + 1))
include hsmall

theorem exists_nearest :
    ∃ r, NearestEven (10 ^ Precision.standard.keptPlace (x.exactMul (wholeUnit decimals)))
        (exactUnits x decimals) r ∧ IsCut r (ofAmount (.number x) decimals) := by
  rw [← toRat_exactMul_wholeUnit, abs_toRat] at hsmall
  obtain ⟨r, hnearest, hround⟩ := exists_nearestEven (p := .standard) (by decide) (by decide)
    fun hne => Int.lt_add_one_iff.mp (adjusted_lt hne hsmall)
  rw [toRat_exactMul_wholeUnit] at hnearest
  refine ⟨r, hnearest, ?_⟩
  unfold IsCut
  rw [ofAmount_number hdecimals hrange]
  rcases hround with ⟨y, hy, rfl⟩ | ⟨herror, hbeyond⟩
  · rw [hy, ← truncate_eq_towardZero]
    exact Or.inl rfl
  · rw [herror]
    exact Or.inr ⟨rfl, hbeyond⟩

theorem ofAmount_of_fits {m : Nat} {e : Int} (hm : m < 10 ^ Precision.standard.digits)
    (hfits : |exactUnits x decimals| = m * 10 ^ e) :
    ofAmount (.number x) decimals = .ok (towardZero (exactUnits x decimals)) := by
  obtain ⟨r, hnearest, hcut⟩ := exists_nearest hdecimals hrange hsmall
  rw [← toRat_exactMul_wholeUnit] at hnearest hfits
  have hkept := hnearest.of_fits (by decide) hm hfits
  rw [toRat_exactMul_wholeUnit] at hkept
  rcases hcut with hcut | ⟨-, hbeyond⟩
  · rw [hcut]
    rcases hkept with rfl | ⟨hless, hless'⟩
    · rfl
    · rw [towardZero_eq_zero hless, towardZero_eq_zero hless']
  · exfalso
    rcases hkept with rfl | ⟨-, hless'⟩
    · exact hsmall.ne hbeyond
    · have hone : (1 : ℚ) ≤ 10 ^ (Precision.standard.maxExponent + 1) :=
        one_le_zpow₀ (by norm_num) (by decide)
      exact absurd (hbeyond ▸ hless') (not_lt.mpr hone)

end

/-- With as many digits before the point as are kept, or fewer, one base unit at most is added. -/
theorem cases_of_isCut {answer : Except Failure Int} {q r : ℚ} {y : Decimal} (hy : y.toRat = q)
    (hnearest : NearestEven (10 ^ Precision.standard.keptPlace y) q r) (hcut : IsCut r answer)
    (hdigits : |q| < 10 ^ Precision.standard.digits) :
    answer = .ok (towardZero r) ∧ (towardZero r = towardZero q ∨
      |q| < |r| ∧ |r| = |(towardZero q : ℚ)| + 1 ∧ r = towardZero r) := by
  have hplace : Precision.standard.keptPlace y ≤ 0 := by
    apply keptPlace_nonpos (by decide)
    rwa [← abs_toRat, hy]
  have hunit : (0 : ℚ) < 10 ^ Precision.standard.keptPlace y := by positivity
  have hinteger : ∀ m : Nat, (m : ℚ) =
      (m * 10 ^ (-Precision.standard.keptPlace y).toNat : Nat) *
        10 ^ Precision.standard.keptPlace y := by
    intro m
    push_cast
    rw [mul_assoc, ← zpow_natCast, ← zpow_add₀ (by norm_num), Int.toNat_of_nonneg (by omega),
      neg_add_cancel, zpow_zero, mul_one]
  rcases hcut with hcut | ⟨-, hbeyond⟩
  · have hone := hinteger 1
    rw [Nat.cast_one, one_mul] at hone
    exact ⟨hcut, hnearest.towardZero_cases hunit (by exact_mod_cast hone)⟩
  · exfalso
    have hbound := hinteger (10 ^ Precision.standard.digits)
    have hle := hnearest.abs_le_of_le hunit (hdigits.le.trans (by exact_mod_cast hbound.le))
    rw [← hbound, hbeyond, Nat.cast_pow, Nat.cast_ofNat, ← zpow_natCast] at hle
    exact absurd hle (not_le.mpr (zpow_lt_zpow_right₀ (by norm_num) (by decide)))

/--
The base units in a text that denotes a number. A product that twenty-eight
digits can write is cut to an integer; any other is first rounded to the nearest
number with so many digits, and its integer part can then be one more, or have
another last digit where there are more digits than are kept. What is beyond the
exponent range is too large, and so is a whole unit beyond it.
-/
theorem ofText_number (hread : Numeral.ofText? text = some (.number x)) (hdecimals : 0 ≤ decimals) :
    let q := exactUnits x decimals
    let beyond : ℚ := 10 ^ (Precision.standard.maxExponent + 1)
    (∀ step key, Scenario.fieldText step key = .ok text →
      Scenario.fieldAmount step key decimals =
        (ofText text decimals).mapError Fault.decimal) ∧
    (Precision.standard.maxExponent < decimals ∨ beyond ≤ |q| →
      ofText text decimals = .error .tooLarge) ∧
    (decimals ≤ Precision.standard.maxExponent → |q| < beyond →
      (∀ (m : Nat) (e : Int), m < 10 ^ 28 → |q| = m * 10 ^ e →
        ofText text decimals = .ok (towardZero q)) ∧
      ∀ leading : Int, 10 ^ leading ≤ |q| → |q| < 10 ^ (leading + 1) →
        ∃ r, NearestEven (10 ^ max (leading - 27) Precision.standard.leastExponent) q r ∧
          IsCut r (ofText text decimals) ∧
          (|q| < 10 ^ 28 → ofText text decimals = .ok (towardZero r) ∧
            (towardZero r = towardZero q ∨
              |q| < |r| ∧ |r| = |(towardZero q : ℚ)| + 1 ∧ r = towardZero r))) := by
  intro q beyond
  refine ⟨fun step key hfield => fieldAmount_eq hfield hread, ?_⟩
  rw [ofText_eq hread]
  constructor
  · intro hlarge
    by_cases hrange : decimals ≤ Precision.standard.maxExponent
    · exact ofAmount_of_large hdecimals hrange (hlarge.resolve_left (not_lt.mpr hrange))
    · exact ofAmount_of_beyond (not_le.mp hrange)
  · intro hrange hsmall
    refine ⟨fun m e hm hfits => ofAmount_of_fits hdecimals hrange hsmall hm hfits, ?_⟩
    intro leading hlow hhigh
    obtain ⟨r, hnearest, hcut⟩ := exists_nearest hdecimals hrange hsmall
    have hplace : Precision.standard.keptPlace (x.exactMul (wholeUnit decimals)) =
        max (leading - 27) Precision.standard.leastExponent := by
      have hproduct : (x.exactMul (wholeUnit decimals)).magnitude = |q| := by
        rw [← abs_toRat, toRat_exactMul_wholeUnit]
      rw [keptPlace_eq (by rwa [hproduct]) (by rwa [hproduct])]
      congr 1
      change leading + 1 - 28 = leading - 27
      ring
    refine ⟨r, hplace ▸ hnearest, hcut, fun hdigits => ?_⟩
    exact cases_of_isCut toRat_exactMul_wholeUnit hnearest hcut hdigits

/-- Twenty-nine nines behind the point are no base unit, but they are rounded up to one. -/
theorem ofText_number_nines :
    let text := "0.99999999999999999999999999999"
    let x : Decimal := ⟨false, 99999999999999999999999999999, -29⟩
    Numeral.ofText? text = some (.number x) ∧ towardZero (exactUnits x 0) = 0 ∧
      ofText text 0 = .ok 1 ∧
      ∃ r, NearestEven (10 ^ max (-1 - 27 : Int) Precision.standard.leastExponent)
        (exactUnits x 0) r ∧ IsCut r (ofText text 0) := by
  intro text x
  have hread : Numeral.ofText? text = some (.number x) := by decide +kernel
  have hunits : exactUnits x 0 = 99999999999999999999999999999 / 10 ^ 29 := by
    unfold exactUnits toRat magnitude
    norm_num [x]
  have habs : |exactUnits x 0| = 99999999999999999999999999999 / 10 ^ 29 := by
    rw [hunits, abs_of_nonneg (by norm_num)]
  have hone : (1 : ℚ) ≤ 10 ^ (Precision.standard.maxExponent + 1) :=
    one_le_zpow₀ (by norm_num) (by decide)
  have hless : |exactUnits x 0| < 1 := by
    rw [habs]
    norm_num
  obtain ⟨r, hnearest, hcut, -⟩ := ((ofText_number hread le_rfl).right.right (by decide)
    (hless.trans_le hone)).right (-1) (by rw [habs]; norm_num) (by simpa using hless)
  exact ⟨hread, towardZero_eq_zero hless, by decide +kernel, r, hnearest, hcut⟩

/-!
# Base units to whole units
-/

theorem trimZeros_eq {ideal e : Int} {fuel c : Nat} (he : e + fuel = ideal) :
    ∃ t : Nat, (trimZeros ideal fuel c e).2 = e + t ∧ c = (trimZeros ideal fuel c e).1 * 10 ^ t ∧
      t ≤ fuel ∧ (t < fuel → (trimZeros ideal fuel c e).1 % 10 ≠ 0) := by
  induction fuel generalizing c e with
  | zero => exact ⟨0, (add_zero e).symm, (mul_one c).symm, le_rfl, fun h => absurd h (lt_irrefl 0)⟩
  | succ fuel ih =>
      rw [trimZeros]
      split
      case isTrue h =>
        simp only [Bool.and_eq_true, decide_eq_true_eq] at h
        obtain ⟨t, hexponent, hcoefficient, hle, hstop⟩ :=
          ih (c := c / 10) (e := e + 1) (by push_cast at he; omega)
        refine ⟨t + 1, ?_, ?_, by omega, fun hlt => hstop (by omega)⟩
        · rw [hexponent]
          push_cast
          ring
        · rw [pow_succ, ← mul_assoc, ← hcoefficient]
          omega
      case isFalse h =>
        simp only [Bool.and_eq_true, decide_eq_true_eq, not_and] at h
        exact ⟨0, (add_zero e).symm, (mul_one c).symm, Nat.zero_le _,
          fun _ => h (by push_cast at he; omega)⟩

theorem trimZeros_quotient (ideal : Int) (m : Nat) {k s : Nat} (hks : k ≤ s) :
    ∃ c t : Nat, trimZeros ideal s (m * 10 ^ (s - k)) (ideal - s) = (c, ideal - k + t) ∧
      m = c * 10 ^ t ∧ t ≤ k := by
  obtain ⟨t, hexponent, hcoefficient, hle, hstop⟩ :=
    trimZeros_eq (c := m * 10 ^ (s - k)) (show ideal - s + (s : Nat) = ideal by ring)
  rcases htrimmed : trimZeros ideal s (m * 10 ^ (s - k)) (ideal - s) with ⟨c, e⟩
  rw [htrimmed] at hexponent hcoefficient hstop
  dsimp only at hexponent hcoefficient hstop
  -- the zeros that were shifted in are among those taken off
  have hlong : s - k ≤ t := by
    by_contra hshort
    apply hstop (by omega)
    have hzeros : c = m * 10 ^ (s - k - t) := by
      apply Nat.eq_of_mul_eq_mul_right (Nat.pow_pos (n := t) (show 0 < 10 by decide))
      rw [← hcoefficient, mul_assoc, ← pow_add, Nat.sub_add_cancel (by omega)]
    rw [hzeros]
    exact Nat.mod_eq_zero_of_dvd ((dvd_pow_self 10 (by omega)).mul_left m)
  refine ⟨c, t - (s - k), ?_, ?_, by omega⟩
  · congr 1
    omega
  · apply Nat.eq_of_mul_eq_mul_right (Nat.pow_pos (n := s - k) (show 0 < 10 by decide))
    rw [hcoefficient, mul_assoc, ← pow_add, Nat.sub_add_cancel hlong]

theorem digitCount_le {m digits : Nat} (hdigits : 0 < digits) (hm : m < 10 ^ digits) :
    digitCount m ≤ digits := by
  rcases Nat.eq_zero_or_pos m with rfl | hpos
  · have hone : digitCount 0 = 1 := by rw [digitCount, if_pos (by decide)]
    omega
  · have hpow : 10 ^ digitCount m < 10 ^ (digits + 1) := by
      rw [pow_succ]
      exact (pow_digitCount_le hpos).trans_lt (by omega)
    exact Nat.lt_add_one_iff.mp ((Nat.pow_lt_pow_iff_right (by decide)).mp hpow)

theorem lt_digitCount_pow (k : Nat) : k < digitCount (10 ^ k) :=
  (Nat.pow_lt_pow_iff_right (by decide)).mp (lt_pow_digitCount (10 ^ k))

theorem round_eq_self {p : Decimal.Precision} (hdigits : digitCount x.coefficient ≤ p.digits)
    (hleast : p.leastExponent ≤ x.exponent) (hgreatest : x.exponent ≤ p.fullExponent)
    (hfull : p.fullExponent ≤ p.maxExponent) : Decimal.round p x = .ok x := by
  unfold Decimal.round
  split
  case isTrue =>
    rw [max_eq_left hleast, min_eq_left (hgreatest.trans hfull)]
  case isFalse =>
    dsimp only
    rw [if_neg (by omega), if_neg (by omega)]

theorem div_pow_eq {p : Decimal.Precision} {k : Nat} {e : Int}
    (hdigits : digitCount x.coefficient ≤ p.digits) :
    ∃ c t : Nat, Decimal.div p x ⟨false, 10 ^ k, e⟩ =
        Decimal.round p ⟨x.negative, c, x.exponent - e - k + t⟩ ∧
      x.coefficient = c * 10 ^ t ∧ t ≤ k := by
  have hpow : 10 ^ k ≠ 0 := (Nat.pow_pos (by decide)).ne'
  unfold Decimal.div
  dsimp only
  rw [if_neg hpow, Bool.xor_false]
  by_cases hzero : x.coefficient = 0
  · refine ⟨0, k, ?_, by rw [hzero, Nat.zero_mul], le_rfl⟩
    rw [if_pos hzero, sub_add_cancel]
  · obtain ⟨s, hshift, hks⟩ : ∃ s : Nat, (digitCount (10 ^ k) : Int) - digitCount x.coefficient +
        p.digits + 1 = s ∧ k ≤ s := by
      have hlong := lt_digitCount_pow k
      exact ⟨digitCount (10 ^ k) + p.digits + 1 - digitCount x.coefficient, by omega, by omega⟩
    have hdividend : x.coefficient * 10 ^ s = x.coefficient * 10 ^ (s - k) * 10 ^ k := by
      rw [mul_assoc, ← pow_add, Nat.sub_add_cancel hks]
    obtain ⟨c, t, htrimmed, hcoefficient, ht⟩ :=
      trimZeros_quotient (x.exponent - e) x.coefficient hks
    refine ⟨c, t, ?_, hcoefficient, ht⟩
    rw [if_neg hzero, hshift, Int.toNat_natCast, Int.toNat_of_nonpos (by omega)]
    change (if x.coefficient * 10 ^ s % (10 ^ k * 1) = 0 then
      let trimmed := trimZeros (x.exponent - e) s (x.coefficient * 10 ^ s / (10 ^ k * 1))
        (x.exponent - e - s)
      Decimal.round p ⟨x.negative, trimmed.1, trimmed.2⟩ else _) = _
    rw [hdividend, Nat.mul_one, Nat.mul_mod_left, if_pos rfl,
      Nat.mul_div_cancel _ (Nat.pos_of_ne_zero hpow), htrimmed]

section

variable (hn : |n| < 10 ^ 28) (hdecimals : 0 ≤ decimals)
  (hrange : decimals ≤ Precision.standard.maxExponent)

include hn in
theorem natAbs_lt : n.natAbs < 10 ^ Precision.standard.digits := by
  have hcast : (n.natAbs : Int) < 10 ^ 28 := by rwa [Int.natCast_natAbs]
  exact_mod_cast hcast

include hn hdecimals hrange

/--
Less than `10 ^ 28` base units are divided exactly: their digits are kept, and
of the zeros at the end no more are left out than a whole unit has.
-/
theorem toAmount_eq :
    ∃ c t : Nat, toAmount n decimals = .ok ⟨n < 0, c, t - decimals⟩ ∧ n.natAbs = c * 10 ^ t ∧
      t ≤ writtenZeros decimals ∧ digitCount c ≤ Precision.standard.digits := by
  have hcount := natAbs_lt hn
  have hfew : writtenZeros decimals ≤ 27 := Nat.min_le_right _ _
  have hzeros := writtenZeros_le hdecimals
  obtain ⟨c, t, hdiv, hcoefficient, ht⟩ :=
    div_pow_eq (x := ofInt n) (k := writtenZeros decimals)
      (e := decimals - writtenZeros decimals) (digitCount_le (by decide) hcount)
  have hdigits : digitCount c ≤ Precision.standard.digits := by
    apply digitCount_le (by decide)
    apply hcount.trans_le'
    rw [show n.natAbs = c * 10 ^ t from hcoefficient]
    exact Nat.le_mul_of_pos_right c (Nat.pow_pos (by decide))
  refine ⟨c, t, ?_, hcoefficient, ht, hdigits⟩
  have hplace :
      (ofInt n).exponent - (decimals - writtenZeros decimals) - writtenZeros decimals + t =
        t - decimals := by
    change 0 - (decimals - writtenZeros decimals) - writtenZeros decimals + t = t - decimals
    ring
  unfold toAmount
  rw [tenPow_eq_wholeUnit hdecimals hrange]
  refine hdiv.trans ?_
  rw [hplace]
  have hleast : Precision.standard.leastExponent ≤ -Precision.standard.maxExponent := by decide
  have hfull : 27 ≤ Precision.standard.fullExponent := by decide
  exact round_eq_self hdigits (by dsimp only; omega) (by dsimp only; omega) (by decide)

theorem ofAmount_of_exactUnits (hunits : exactUnits x decimals = n) :
    ofAmount (.number x) decimals = .ok n := by
  have hbound : |(n : ℚ)| < 10 ^ (28 : Int) := by exact_mod_cast hn
  have hsmall := hbound.trans_le (zpow_le_zpow_right₀ (by norm_num)
    (show 28 ≤ Precision.standard.maxExponent + 1 by decide))
  have hfits : |(n : ℚ)| = n.natAbs * 10 ^ (0 : Int) := by
    rw [zpow_zero, mul_one, Nat.cast_natAbs, Int.cast_abs]
  rw [← hunits] at hsmall hfits
  rw [ofAmount_of_fits hdecimals hrange hsmall (natAbs_lt hn) hfits, hunits, towardZero_intCast]

end

theorem toRat_quotient {c t : Nat} (hcount : n.natAbs = c * 10 ^ t) :
    (⟨n < 0, c, t - decimals⟩ : Decimal).toRat = n / 10 ^ decimals := by
  have hmagnitude : (⟨n < 0, c, t - decimals⟩ : Decimal).magnitude = |(n : ℚ)| / 10 ^ decimals := by
    rw [← Int.cast_abs, ← Nat.cast_natAbs, hcount]
    unfold magnitude
    push_cast
    rw [zpow_sub₀ (by norm_num), zpow_natCast, mul_div_assoc]
  unfold toRat
  rw [hmagnitude]
  simp only [decide_eq_true_eq]
  split
  case isTrue hneg =>
    rw [abs_of_neg (by exact_mod_cast hneg)]
    ring
  case isFalse hnonneg => rw [abs_of_nonneg (by exact_mod_cast not_lt.mp hnonneg)]

/--
Less than `10 ^ 28` base units come to whole units without any rounding. Their
fixed text is the expansion of that number, and they come back from it, from the
number itself, and from the text that may have an exponent.
-/
theorem toAmount_exact (hn : |n| < 10 ^ 28) (hdecimals : 0 ≤ decimals)
    (hrange : decimals ≤ Precision.standard.maxExponent) :
    ∃ amount, toAmount n decimals = .ok amount ∧ amount.toRat = n / 10 ^ decimals ∧
      Expands amount.fixed (n / 10 ^ decimals) ∧
      ofAmount (.number amount) decimals = .ok n ∧
      ofText amount.scientific decimals = .ok n ∧ ofText amount.fixed decimals = .ok n := by
  obtain ⟨c, t, hamount, hcount, ht, hdigits⟩ := toAmount_eq hn hdecimals hrange
  have hvalue : (⟨n < 0, c, t - decimals⟩ : Decimal).toRat = n / 10 ^ decimals :=
    toRat_quotient hcount
  have hback : ofAmount (.number ⟨n < 0, c, t - decimals⟩) decimals = .ok n := by
    apply ofAmount_of_exactUnits hn hdecimals hrange
    unfold exactUnits
    rw [hvalue, div_mul_cancel₀ _ (by positivity)]
  have hzeros := writtenZeros_le hdecimals
  have hexponent : (t : Int) - decimals ≤ 0 := by omega
  have hreadable : (⟨n < 0, c, t - decimals⟩ : Decimal).Readable := by
    have hmost : (Precision.standard.digits : Int) ≤ Numeral.maxReadAdjusted := by decide
    have hleast : Numeral.minReadExponent ≤ -Precision.standard.maxExponent := by decide
    constructor
    · unfold adjusted
      dsimp only
      omega
    · dsimp only
      omega
  refine ⟨_, hamount, hvalue, ?_, hback, ?_, ?_⟩
  · rw [← hvalue]
    apply expands_fixed
    rintro hneg rfl
    rw [Nat.zero_mul, Int.natAbs_eq_zero] at hcount
    rw [hcount] at hneg
    cases hneg
  · rw [ofText_eq (ofText?_scientific hreadable)]
    exact hback
  · rw [ofText_eq (ofText?_fixed hexponent hreadable)]
    exact hback

/-- Twelve hundred base units, of which a whole unit has `10 ^ 18`, are written with an exponent. -/
theorem toAmount_exact_minus_twelve_hundred :
    let amount : Decimal := ⟨true, 12, -16⟩
    toAmount (-1200) 18 = .ok amount ∧ amount.scientific = "-1.2E-15" ∧
      amount.fixed = "-0.0000000000000012" ∧ amount.toRat = (-1200 : Int) / 10 ^ (18 : Int) ∧
      Expands amount.fixed ((-1200 : Int) / 10 ^ (18 : Int)) ∧
      ofText amount.scientific 18 = .ok (-1200) := by
  intro amount
  obtain ⟨amount', hamount', hvalue, hexpands, -, hback, -⟩ :=
    toAmount_exact (show |(-1200 : Int)| < 10 ^ 28 by decide) (show (0 : Int) ≤ 18 by decide)
      (by decide)
  have hamount : toAmount (-1200) 18 = .ok amount := by decide +kernel
  obtain rfl : amount' = amount := Except.ok.inj (hamount'.symm.trans hamount)
  exact ⟨hamount, by decide +kernel, by decide +kernel, hvalue, hexpands, hback⟩

end BaseUnits
end ReserveAccounting
