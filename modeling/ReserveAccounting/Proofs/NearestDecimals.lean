import Mathlib.Algebra.Order.Floor.Ring
import ReserveAccounting.Proofs.DecimalRounding

/-!
# Nearest decimals

Rounding as a relation between values. The rounded number is the multiple of the
last digit kept that lies nearest to the exact one, an even multiple at a tie;
if that is beyond the exponent range, rounding fails. A multiple of that digit
is not moved, and while the last digit kept stands behind the point the integer
part moves by one at most.
-/

namespace ReserveAccounting
namespace Decimal

variable {p : Precision} {x y : Decimal} {unit q r : ℚ}

/-!
# Multiples of a unit
-/

/-- The multiple of a unit that is nearest to a number; of two that are as near the even one. -/
def NearestEven (unit q r : ℚ) : Prop :=
  ∃ m : ℤ, r = m * unit ∧ 2 * |r - q| ≤ unit ∧ (2 * |r - q| = unit → Even m)

namespace NearestEven

theorem neg (h : NearestEven unit q r) : NearestEven unit (-q) (-r) := by
  rcases h with ⟨m, hr, hnear, htie⟩
  have hdistance : |-r - -q| = |r - q| := by rw [neg_sub_neg, abs_sub_comm]
  refine ⟨-m, ?_, ?_, ?_⟩
  · rw [hr]
    push_cast
    ring
  · rw [hdistance]
    exact hnear
  · rw [hdistance]
    exact fun h => (htie h).neg

theorem le_of_le (h : NearestEven unit q r) (hunit : 0 < unit) {k : ℤ} (hq : q ≤ k * unit) :
    r ≤ k * unit := by
  rcases h with ⟨m, hr, hnear, _⟩
  have habove := (abs_le.mp (show |r - q| ≤ unit / 2 by linarith)).right
  rw [hr] at habove ⊢
  have hcount : (m : ℚ) < k + 1 := by nlinarith
  have hle : m ≤ k := by exact_mod_cast Int.lt_add_one_iff.mp (by exact_mod_cast hcount)
  gcongr

theorem ge_of_ge (h : NearestEven unit q r) (hunit : 0 < unit) {k : ℤ} (hq : k * unit ≤ q) :
    k * unit ≤ r := by
  have hneg := h.neg.le_of_le hunit (k := -k) (by push_cast; linarith)
  push_cast at hneg
  linarith

theorem eq_of_multiple (h : NearestEven unit q r) (hunit : 0 < unit) {k : ℤ} (hq : q = k * unit) :
    r = q :=
  le_antisymm ((h.le_of_le hunit hq.le).trans hq.ge) (hq.le.trans (h.ge_of_ge hunit hq.ge))

theorem eq_of_abs (h : NearestEven unit q r) (hunit : 0 < unit) {n : ℕ} (hq : |q| = n * unit) :
    r = q := by
  rcases eq_or_eq_neg_of_abs_eq hq with hpos | hneg
  · exact h.eq_of_multiple hunit (k := n) (by rw [hpos]; push_cast; rfl)
  · exact h.eq_of_multiple hunit (k := -n) (by rw [hneg]; push_cast; ring)

theorem abs_le_of_le (h : NearestEven unit q r) (hunit : 0 < unit) {n : ℕ} (hq : |q| ≤ n * unit) :
    |r| ≤ n * unit := by
  rcases abs_le.mp hq with ⟨hlow, hhigh⟩
  have hge := h.ge_of_ge hunit (k := -n) (by push_cast; linarith)
  have hle := h.le_of_le hunit (k := n) (by push_cast; exact hhigh)
  push_cast at hge hle
  exact abs_le.mpr ⟨by linarith, hle⟩

end NearestEven

/-!
# Integer parts
-/

def towardZero (q : ℚ) : ℤ := if q < 0 then ⌈q⌉ else ⌊q⌋

theorem towardZero_neg (q : ℚ) : towardZero (-q) = -towardZero q := by
  unfold towardZero
  rcases lt_trichotomy q 0 with hneg | rfl | hpos
  · rw [if_neg (by linarith), if_pos hneg, Int.floor_neg]
  · simp
  · rw [if_pos (by linarith), if_neg (by linarith), Int.ceil_neg]

theorem towardZero_intCast (n : ℤ) : towardZero n = n := by
  unfold towardZero
  rw [Int.ceil_intCast, Int.floor_intCast, ite_self]

theorem towardZero_eq_zero (hq : |q| < 1) : towardZero q = 0 := by
  rcases abs_lt.mp hq with ⟨hlow, hhigh⟩
  unfold towardZero
  split
  · next hneg => exact Int.ceil_eq_zero_iff.mpr ⟨hlow, hneg.le⟩
  · next hnonneg => exact Int.floor_eq_zero_iff.mpr ⟨not_lt.mp hnonneg, hhigh⟩

theorem truncate_eq_towardZero (x : Decimal) : x.truncate = towardZero x.toRat := by
  have hfloor : (⌊x.magnitude⌋₊ : ℤ) = ⌊x.magnitude⌋ :=
    Int.natCast_floor_eq_floor x.magnitude_nonneg
  have hwhole : towardZero x.magnitude = ⌊x.magnitude⌋ := if_neg (not_lt.mpr x.magnitude_nonneg)
  rw [truncate_eq, hfloor]
  unfold toRat
  cases x.negative with
  | true => rw [if_pos rfl, if_pos rfl, towardZero_neg, hwhole]
  | false => rw [if_neg Bool.false_ne_true, if_neg Bool.false_ne_true, hwhole]

/--
If the integers are multiples of the unit, rounding leaves the integer part as it
is, unless it rounds away from zero to the next integer.
-/
theorem NearestEven.towardZero_cases (h : NearestEven unit q r) (hunit : 0 < unit) {k : ℤ}
    (hone : 1 = k * unit) :
    towardZero r = towardZero q ∨
      |q| < |r| ∧ |r| = |(towardZero q : ℚ)| + 1 ∧ r = towardZero r := by
  have hmultiple : ∀ n : ℤ, (n : ℚ) = (n * k : ℤ) * unit := by
    intro n
    push_cast
    rw [mul_assoc, ← hone, mul_one]
  have hnonneg : ∀ q r : ℚ, NearestEven unit q r → 0 ≤ q →
      towardZero r = towardZero q ∨
        |q| < |r| ∧ |r| = |(towardZero q : ℚ)| + 1 ∧ r = towardZero r := by
    intro q r h hq
    have hzero : 0 ≤ r := by
      have hge := h.ge_of_ge hunit (k := 0) (by simpa using hq)
      simpa using hge
    have hlow : (⌊q⌋ : ℚ) ≤ r := by
      rw [hmultiple]
      exact h.ge_of_ge hunit (by rw [← hmultiple]; exact Int.floor_le q)
    have hhigh : r ≤ ((⌊q⌋ + 1 : ℤ) : ℚ) := by
      rw [hmultiple]
      refine h.le_of_le hunit ?_
      rw [← hmultiple]
      push_cast
      exact (Int.lt_floor_add_one q).le
    have hq' : towardZero q = ⌊q⌋ := if_neg (not_lt.mpr hq)
    have hr' : towardZero r = ⌊r⌋ := if_neg (not_lt.mpr hzero)
    rcases hhigh.lt_or_eq with hlt | heq
    · left
      rw [hq', hr', Int.floor_eq_iff]
      push_cast at hlt
      exact ⟨hlow, hlt⟩
    · right
      have hfloor : (0 : ℚ) ≤ (⌊q⌋ : ℚ) := by exact_mod_cast Int.floor_nonneg.mpr hq
      rw [hq', hr', abs_of_nonneg hq, abs_of_nonneg hzero, abs_of_nonneg hfloor]
      refine ⟨?_, ?_, ?_⟩
      · rw [heq]
        push_cast
        exact Int.lt_floor_add_one q
      · rw [heq]
        push_cast
        rfl
      · rw [heq, Int.floor_intCast]
  rcases le_total 0 q with hq | hq
  · exact hnonneg q r h hq
  · have hopposite := hnonneg (-q) (-r) h.neg (by linarith)
    rw [towardZero_neg, towardZero_neg, abs_neg, abs_neg] at hopposite
    rcases hopposite with hsame | ⟨hlt, hnext, hinteger⟩
    · exact Or.inl (neg_inj.mp hsame)
    · refine Or.inr ⟨hlt, ?_, ?_⟩
      · rw [hnext]
        push_cast
        rw [abs_neg]
      · push_cast at hinteger
        linarith

/-!
# Rounding
-/

theorem nearestEven_signed (negative : Bool) {n : Nat} (hr : r = n * unit)
    (hnear : 2 * |r - q| ≤ unit) (htie : 2 * |r - q| = unit → Even n) :
    NearestEven unit (if negative then -q else q) (if negative then -r else r) := by
  have hunsigned : NearestEven unit q r := ⟨n, hr, hnear, fun h => (htie h).natCast⟩
  cases negative with
  | true => exact hunsigned.neg
  | false => exact hunsigned

theorem nearestEven_round (hdigits : 0 < p.digits) (h : round p x = .ok y) :
    NearestEven (10 ^ p.keptPlace x) x.toRat y.toRat := by
  rcases round_onGrid hdigits h with ⟨hsign, n, hgrid, hnear, htie⟩
  unfold toRat
  rw [hsign]
  exact nearestEven_signed x.negative hgrid hnear htie

theorem round_eq_error (hdigits : 0 < p.digits) (hmax : 0 ≤ p.maxExponent) {failure : Failure}
    (hx : x.coefficient ≠ 0 → x.adjusted ≤ p.maxExponent) (h : round p x = .error failure) :
    failure = .tooLarge ∧ ∃ r, NearestEven (10 ^ p.keptPlace x) x.toRat r ∧
      |r| = 10 ^ (p.maxExponent + 1) := by
  unfold round at h
  split at h
  case isTrue => cases h
  case isFalse hne =>
    have hplace : p.keptPlace x =
        max ((digitCount x.coefficient : Int) + x.exponent - p.digits) p.leastExponent := by
      unfold Precision.keptPlace adjusted
      rw [if_neg hne]
      congr 1
      ring
    have hadjusted := hx hne
    unfold adjusted at hadjusted
    dsimp only at h
    rw [← hplace] at h
    have hfull : p.keptPlace x ≤ p.fullExponent := by
      rw [hplace]
      unfold Precision.fullExponent Precision.leastExponent
      omega
    rw [if_neg (by unfold Precision.fullExponent; omega)] at h
    split at h
    case isFalse => cases h
    case isTrue hlow =>
      split at h
      case isFalse => cases h
      case isTrue hcarry =>
        split at h
        case isFalse => cases h
        case isTrue hbeyond =>
          cases h
          have hkept : digitCount x.coefficient ≤
              p.digits + (p.keptPlace x - x.exponent).toNat := by
            omega
          have hpower := eq_pow_of_carry hcarry hdigits (roundDigits_le_pow hkept)
          have hnear := roundDigits_near_magnitude hlow.le
          dsimp only at hnear
          rw [hpower] at hnear
          refine ⟨rfl, _, nearestEven_signed x.negative rfl hnear.left hnear.right, ?_⟩
          have habs : ∀ b : Bool, ∀ a : ℚ, |if b then -a else a| = |a| := by
            intro b a
            cases b with
            | true => exact abs_neg a
            | false => rfl
          rw [habs, abs_of_nonneg (by positivity), Nat.cast_pow, Nat.cast_ofNat, ← zpow_natCast,
            ← zpow_add₀ (by norm_num)]
          congr 1
          unfold Precision.fullExponent at hbeyond hfull
          omega

theorem exists_nearestEven (hdigits : 0 < p.digits) (hmax : 0 ≤ p.maxExponent)
    (hx : x.coefficient ≠ 0 → x.adjusted ≤ p.maxExponent) :
    ∃ r, NearestEven (10 ^ p.keptPlace x) x.toRat r ∧
      ((∃ y, round p x = .ok y ∧ y.toRat = r) ∨
        round p x = .error .tooLarge ∧ |r| = 10 ^ (p.maxExponent + 1)) := by
  cases hround : round p x with
  | ok y => exact ⟨y.toRat, nearestEven_round hdigits hround, Or.inl ⟨y, rfl, rfl⟩⟩
  | error failure =>
      obtain ⟨rfl, r, hnearest, hbeyond⟩ := round_eq_error hdigits hmax hx hround
      exact ⟨r, hnearest, Or.inr ⟨rfl, hbeyond⟩⟩

theorem round_of_beyond (hne : x.coefficient ≠ 0) (hx : p.maxExponent < x.adjusted) :
    round p x = .error .tooLarge := by
  unfold adjusted at hx
  unfold round Precision.fullExponent
  rw [if_neg hne]
  dsimp only
  rw [if_pos (by omega)]

/-!
# Leading digits
-/

theorem coefficient_ne_zero_of_lt {bound : ℚ} (hbound : 0 < bound) (h : bound ≤ x.magnitude) :
    x.coefficient ≠ 0 := by
  intro hzero
  rw [magnitude_of_coefficient_eq_zero hzero] at h
  exact absurd h (not_le.mpr hbound)

theorem keptPlace_eq {leading : ℤ} (hlow : 10 ^ leading ≤ x.magnitude)
    (hhigh : x.magnitude < 10 ^ (leading + 1)) :
    p.keptPlace x = max (leading + 1 - p.digits) p.leastExponent := by
  have hne := coefficient_ne_zero_of_lt (by positivity) hlow
  have hadjusted : x.adjusted = leading := by
    have hle := le_adjusted hlow
    have hlt := adjusted_lt hne hhigh
    omega
  unfold Precision.keptPlace
  rw [if_neg hne, hadjusted]

/-- What the digits that are kept can write is not moved, or next to nothing before and after. -/
theorem NearestEven.of_fits (h : NearestEven (10 ^ p.keptPlace x) x.toRat r)
    (hleast : p.leastExponent + p.digits < 0) {m : ℕ} {e : ℤ} (hm : m < 10 ^ p.digits)
    (hx : |x.toRat| = m * 10 ^ e) : r = x.toRat ∨ |x.toRat| < 1 ∧ |r| < 1 := by
  have hunit : (0 : ℚ) < 10 ^ p.keptPlace x := by positivity
  by_cases hzero : x.coefficient = 0
  · left
    apply h.eq_of_abs hunit (n := 0)
    rw [abs_toRat, magnitude_of_coefficient_eq_zero hzero, Nat.cast_zero, zero_mul]
  · have hbound : x.magnitude < 10 ^ ((p.digits : ℤ) + e) := by
      have hcast : (m : ℚ) < 10 ^ p.digits := by exact_mod_cast hm
      rw [← abs_toRat, hx, zpow_add₀ (by norm_num), zpow_natCast]
      gcongr
    have hlt := adjusted_lt hzero hbound
    by_cases hplace : p.keptPlace x ≤ e
    · left
      apply h.eq_of_abs hunit (n := m * 10 ^ (e - p.keptPlace x).toNat)
      have hsplit : e = ((e - p.keptPlace x).toNat : ℤ) + p.keptPlace x := by omega
      rw [hx]
      nth_rewrite 1 [hsplit]
      rw [zpow_add₀ (by norm_num), zpow_natCast]
      push_cast
      ring
    · right
      -- only the least exponent is kept above what the digits ask for
      have hkept : p.keptPlace x = p.leastExponent := by
        unfold Precision.keptPlace at hplace ⊢
        rw [if_neg hzero] at hplace ⊢
        omega
      have htop : x.adjusted + 1 ≤ p.digits + p.keptPlace x := by omega
      have hle : |x.toRat| ≤ (10 ^ p.digits : ℕ) * 10 ^ p.keptPlace x := by
        rw [abs_toRat]
        push_cast
        rw [← zpow_natCast, ← zpow_add₀ (by norm_num)]
        exact x.magnitude_lt_pow.le.trans (zpow_le_zpow_right₀ (by norm_num) htop)
      have hsmall : ((10 ^ p.digits : ℕ) : ℚ) * 10 ^ p.keptPlace x < 1 := by
        push_cast
        rw [← zpow_natCast, ← zpow_add₀ (by norm_num), hkept]
        exact zpow_lt_one_of_neg₀ (by norm_num) (by omega)
      exact ⟨hle.trans_lt hsmall, (h.abs_le_of_le hunit hle).trans_lt hsmall⟩

end Decimal
end ReserveAccounting
