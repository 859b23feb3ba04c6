import Mathlib.Algebra.Order.Ring.Abs
import Mathlib.Tactic.Linarith
import ReserveAccounting.Proofs.FullWithdrawals
import ReserveAccounting.Proofs.ParRates

/-!
# One division and two

An amount over an asset is turned into units by one division, by the rounded
product of rate and index, and into shares by two, by the index and then by the
rate. Against the exact quotient each way is off by its own roundings; all of it
is stated on cross-products, so that no fraction is met. At a rate of one the
second division takes nothing away, and both ways give one number.
-/

namespace ReserveAccounting
namespace FixedPoint

variable {a b b' c d e held i n p q r s t u v x y : Int}

/-!
# Distances of cross-products
-/

theorem two_mul_abs_le (h : |x| ≤ b / 2) : 2 * |x| ≤ b := by omega

theorem two_mul_abs_combination_le (hc : 0 ≤ c) (hd : 0 ≤ d) (hx : 2 * |x| ≤ b) (hy : 2 * |y| ≤ b') :
    2 * |c * x + d * y| ≤ c * b + d * b' :=
  calc 2 * |c * x + d * y|
      ≤ 2 * (|c * x| + |d * y|) := Int.mul_le_mul_of_nonneg_left (abs_add_le _ _) (by decide)
    _ = c * (2 * |x|) + d * (2 * |y|) := by
        rw [abs_mul, abs_mul, abs_of_nonneg hc, abs_of_nonneg hd]
        ring
    _ ≤ c * b + d * b' :=
        add_le_add (Int.mul_le_mul_of_nonneg_left hx hc) (Int.mul_le_mul_of_nonneg_left hy hd)

theorem two_mul_abs_sub_le (hp : 0 ≤ p) (hu : 2 * |p * u - x| ≤ b) (hn : 2 * |p * n - x| ≤ b') :
    2 * p * |u - n| ≤ b + b' := by
  have hscaled : p * |u - n| = |p * u - p * n| := by
    rw [← mul_sub, abs_mul, abs_of_nonneg hp]
  have hthrough := abs_sub_le (p * u) x (p * n)
  rw [abs_sub_comm x] at hthrough
  rw [mul_assoc, hscaled]
  omega

theorem two_mul_abs_ediv_sub_le (hb : 0 < b) : 2 * |b * (a / b) - a| ≤ 2 * b := by
  have hlow := Int.lt_mul_ediv_self_add (x := a) hb
  have hhigh := Int.mul_ediv_self_le (x := a) hb.ne'
  rw [abs_of_nonpos (by omega)]
  omega

/-!
# Both ways against the exact quotient
-/

theorem rayDivFloor_ok (h : rayDivFloor a b = .ok r) : 0 ≤ a ∧ 0 < b ∧ r = a * ray / b := by
  unfold rayDivFloor at h
  rcases Act.exists_of_bind_ok h with ⟨_, ha, h⟩
  rcases Act.exists_of_bind_ok h with ⟨_, hb, h⟩
  have hnonneg := (requireOperand_eq_ok.mp hb).left
  split at h
  · cases h
  · next hzero =>
      split at h
      · cases h
      · cases h
        exact ⟨(requireOperand_eq_ok.mp ha).left, by omega, rfl⟩

theorem rayDivFloor_mul_le (h : rayDivFloor a b = .ok r) : r * b ≤ a * ray := by
  rcases rayDivFloor_ok h with ⟨_, hpos, rfl⟩
  exact Int.ediv_mul_le (a * ray) hpos.ne'

theorem lt_rayDivFloor_succ_mul (h : rayDivFloor a b = .ok r) : a * ray < r * b + b := by
  rcases rayDivFloor_ok h with ⟨_, hpos, rfl⟩
  have hfloor := Int.lt_mul_ediv_self_add (x := a * ray) hpos
  rw [mul_comm b] at hfloor
  exact hfloor

/-- The units for an amount: the product of rate and index is rounded, and the quotient by it. -/
theorem abs_units_sub_le (hr : rayMul e i = .ok r) (hu : rayDiv a r = .ok u) :
    2 * |e * i * u - ray * ray * a| ≤ e * i + ray * (u + 1) := by
  have hrate := two_mul_abs_le (abs_rayMul_sub_le hr)
  have hproduct := (abs_le.mp (abs_rayMul_sub_le hr)).right
  have hsplit : e * i * u - ray * ray * a = ray * (r * u - a * ray) + u * (e * i - ray * r) := by
    ring
  rw [abs_sub_comm] at hrate
  have hboth := two_mul_abs_combination_le (show 0 ≤ ray by decide) (rayDiv_nonneg hu)
    (two_mul_abs_le (abs_rayDiv_sub_le hu)) hrate
  rw [hsplit, mul_add, mul_one, mul_comm ray u]
  have hhalf : ray / 2 ≤ ray := by decide
  omega

theorem abs_shares_sub_le (hi : 0 ≤ i) (hq : rayDiv a i = .ok q) (hn : 2 * |e * n - q * ray| ≤ b) :
    2 * |e * i * n - ray * ray * a| ≤ i * b + ray * i := by
  have hsplit : e * i * n - ray * ray * a = i * (e * n - q * ray) + ray * (i * q - a * ray) := by
    ring
  rw [hsplit]
  exact two_mul_abs_combination_le hi (by decide) hn (two_mul_abs_le (abs_rayDiv_sub_le hq))

theorem abs_rayDivFloor_sub_le (h : rayDivFloor q e = .ok n) : 2 * |e * n - q * ray| ≤ 2 * e := by
  rcases rayDivFloor_ok h with ⟨_, hpos, rfl⟩
  exact two_mul_abs_ediv_sub_le hpos

theorem covered_sub_le (hi : ray ≤ i) (hs : rayMul held e = .ok s) (hv : rayMul s i = .ok v)
    (hle : a ≤ v) : 2 * (ray * ray * a - e * i * held) ≤ 2 * (ray * i) := by
  have hscaled := two_mul_abs_le (abs_rayMul_sub_le hs)
  have hvalue := two_mul_abs_le (abs_rayMul_sub_le hv)
  have hray : 0 ≤ ray := by decide
  have hcovered : ray * ray * a ≤ ray * ray * v := mul_le_mul_of_nonneg_left hle (by decide)
  have hsquare : ray * ray ≤ ray * i := mul_le_mul_of_nonneg_left hi hray
  have hsplit : ray * ray * v - e * i * held =
      ray * (ray * v - s * i) + i * (ray * s - held * e) := by
    ring
  have hnear := two_mul_abs_combination_le hray (hray.trans hi) hvalue hscaled
  rw [← hsplit, mul_comm i ray] at hnear
  have hupper := le_abs_self (ray * ray * v - e * i * held)
  omega

/-!
# Between the two ways
-/

/-- How far the two ways can be apart: by the roundings of both, and at a rate of one not at all. -/
def unitSlack (rate index units : Int) : Int :=
  if rate = ray then 0
  else (3 * (rate * index) + ray * (2 * index + units + 1)) / (2 * (rate * index))

theorem abs_sub_le_unitSlack (hp : 0 < e * i) (hpar : e = ray → u = n)
    (h : 2 * (e * i) * |u - n| ≤ 3 * (e * i) + ray * (2 * i + u + 1)) :
    |u - n| ≤ unitSlack e i u := by
  unfold unitSlack
  split
  · next hone => rw [hpar hone, sub_self, abs_zero]
  · rw [Int.le_ediv_iff_mul_le (by omega), mul_comm]
    exact h

theorem rayMul_ray_left (h : rayMul ray b = .ok r) : r = b := by
  rcases rayMul_ok h with ⟨_, _, _, rfl⟩
  simp only [ray]
  omega

theorem units_at_par (hr : rayMul ray i = .ok r) (hu : rayDiv a r = .ok u)
    (hq : rayDiv a i = .ok q) : u = q := by
  rw [rayMul_ray_left hr, hq] at hu
  cases hu
  rfl

theorem abs_units_sub_minted_le (hi : ray ≤ i) (hr : rayMul e i = .ok r) (hu : rayDiv a r = .ok u)
    (hq : rayDiv a i = .ok q) (hn : rayDivFloor q e = .ok n) : |u - n| ≤ unitSlack e i u := by
  have hray : 0 < ray := by decide
  have hpos : 0 < e := (rayDivFloor_ok hn).right.left
  have hproduct : 0 < e * i := Int.mul_pos hpos (by omega)
  apply abs_sub_le_unitSlack hproduct
  · rintro rfl
    cases (rayDivFloor_ray_of_rayDiv hi hq).symm.trans hn
    exact units_at_par hr hu hq
  · have hshares := abs_shares_sub_le (by omega) hq (abs_rayDivFloor_sub_le hn)
    have hboth := two_mul_abs_sub_le hproduct.le (abs_units_sub_le hr hu) hshares
    have hindex : 0 ≤ ray * i := Int.mul_nonneg hray.le (by omega)
    linarith

theorem abs_units_sub_handed_le (hi : ray ≤ i) (hr : rayMul e i = .ok r) (hu : rayDiv a r = .ok u)
    (hs : rayMul held e = .ok s) (hv : rayMul s i = .ok v) (hle : a ≤ v)
    (hq : rayDiv a i = .ok q) (ht : rayDiv q e = .ok t) : |u - min t held| ≤ unitSlack e i u := by
  have hray : 0 < ray := by decide
  have hpos : 0 < e := (rayDiv_ok ht).right.left
  have hproduct : 0 < e * i := Int.mul_pos hpos (by omega)
  have hindex : 0 ≤ ray * i := Int.mul_nonneg hray.le (by omega)
  have hunits := abs_units_sub_le hr hu
  apply abs_sub_le_unitSlack hproduct
  · rintro rfl
    cases (rayDiv_ray_of_rayDiv hi hq).symm.trans ht
    rw [rayMul_ray hs] at hv
    rw [min_eq_left (rayDiv_le_of_le_rayMul hi hv hle hq)]
    exact units_at_par hr hu hq
  · have hshares := abs_shares_sub_le (by omega) hq (two_mul_abs_le (abs_rayDiv_sub_le ht))
    have hasked := two_mul_abs_sub_le hproduct.le hunits hshares
    by_cases hcut : t ≤ held
    · rw [min_eq_left hcut]
      linarith
    · -- shares that are cut to what is held are fewer than asked, and still cover the amount
      rw [min_eq_right (not_le.mp hcut).le]
      rcases le_total held u with hfewer | hmore
      · have hcovered := covered_sub_le hi hs hv hle
        have habove := le_abs_self (e * i * u - ray * ray * a)
        rw [abs_of_nonneg (by omega)]
        linarith
      · have hwithin : |u - held| ≤ |u - t| := by
          rw [abs_of_nonpos (by omega), abs_of_nonpos (by omega)]
          omega
        have := Int.mul_le_mul_of_nonneg_left hwithin (show 0 ≤ 2 * (e * i) by omega)
        linarith

end FixedPoint
end ReserveAccounting
