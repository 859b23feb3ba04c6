import ReserveAccounting.Proofs.DecimalRounding
import ReserveAccounting.Proofs.Outcomes
import ReserveAccounting.SharePool

/-!
# Rebases

A rebase adds to the pooled total its product with a fraction above minus one;
the product is rounded to the digits that are kept, and then cut to an integer.
What the fraction leaves of a pool can be less than half of the last digit kept.
Down to that a rebase leaves the pool something; below, rounding takes the rest,
and of a total that has more digits than are kept it can take more than there is.
At just half the pool is emptied if its total is an even multiple of that digit.
-/

namespace ReserveAccounting
namespace SharePool

variable {p : SharePool} {fraction : Numeral} {x : Decimal} {delta : Int}

/-!
# The pooled total after a rebase
-/

theorem totalPooled_rebase (haccepted : fraction.leNegOne = .ok false)
    (hdelta : p.rebaseDelta fraction = .ok delta) :
    (Act.run (rebase fraction) p).2.totalPooled = p.totalPooled + delta := by
  apply Act.Leaves.state (p := fun p' : SharePool => p'.totalPooled = p.totalPooled + delta)
  unfold rebase
  rw [Act.leaves_bind, Act.leaves_current, haccepted, hdelta, Act.leaves_bind, Act.leaves_faulty]
  refine ⟨fun wipesOut h => ?_, nofun⟩
  cases h
  rw [if_neg Bool.false_ne_true, Act.leaves_bind, Act.leaves_faulty]
  refine ⟨fun delta' h => ?_, nofun⟩
  cases h
  dsimp only
  rw [Act.leaves_bind, Act.leaves_replace, Act.leaves_bind, Act.leaves_refusable]
  exact ⟨fun _ _ => rfl, fun _ _ => rfl⟩

theorem totalPooled_rebase_of_error {failure : Decimal.Failure}
    (hdelta : p.rebaseDelta fraction = .error failure) :
    (Act.run (rebase fraction) p).2.totalPooled = p.totalPooled := by
  apply Act.Leaves.state (p := fun p' : SharePool => p'.totalPooled = p.totalPooled)
  unfold rebase
  rw [Act.leaves_bind, Act.leaves_current, hdelta]
  refine Act.leaves_bind_faulty (fun _ => rfl) fun wipesOut _ => ?_
  rw [Act.leaves_ite]
  refine ⟨fun _ => rfl, fun _ => ?_⟩
  exact Act.leaves_bind_faulty (fun _ => rfl) nofun

/-!
# What a fraction comes to
-/

theorem rebaseDelta_number :
    p.rebaseDelta (.number x) =
      (Decimal.round .standard (x.exactMul (.ofInt p.totalPooled))).map Decimal.truncate := by
  change ((Decimal.round .standard (x.exactMul (.ofInt p.totalPooled))).map Numeral.number).bind
    Numeral.truncate = _
  cases Decimal.round .standard (x.exactMul (.ofInt p.totalPooled)) <;> rfl

theorem exists_of_rebaseDelta (h : p.rebaseDelta (.number x) = .ok delta) :
    ∃ y, Decimal.round .standard (x.exactMul (.ofInt p.totalPooled)) = .ok y ∧
      y.truncate = delta := by
  rw [rebaseDelta_number] at h
  cases hround : Decimal.round .standard (x.exactMul (.ofInt p.totalPooled)) with
  | ok y =>
      rw [hround] at h
      cases h
      exact ⟨y, rfl, rfl⟩
  | error e =>
      rw [hround] at h
      cases h

theorem rebaseDelta_of_no_number (hnumber : ∀ x, fraction ≠ .number x) :
    ∃ failure, p.rebaseDelta fraction = .error failure := by
  unfold rebaseDelta
  cases fraction with
  | number x => exact absurd rfl (hnumber x)
  | infinity negative =>
      unfold Numeral.mul
      dsimp only
      split
      · exact ⟨_, rfl⟩
      · exact ⟨_, rfl⟩
  | notANumber signaling =>
      cases signaling with
      | true => exact ⟨_, rfl⟩
      | false => exact ⟨_, rfl⟩

/-!
# What a fraction leaves
-/

/-- What a fraction leaves of the pooled total, or makes of it, before any rounding. -/
def left (p : SharePool) (x : Decimal) : ℚ := p.totalPooled * (1 + x.toRat)

/-- The last digit that is kept of the product of a fraction and the pooled total. -/
def lastDigit (p : SharePool) (x : Decimal) : ℚ :=
  10 ^ Decimal.Precision.standard.keptPlace (x.exactMul (.ofInt p.totalPooled))

/--
Rounding takes all that a fraction leaves: less than half of the last digit, or
just half of it where the total is an even multiple of that digit.
-/
def RoundedAway (p : SharePool) (x : Decimal) : Prop :=
  2 * p.left x < p.lastDigit x ∨
    2 * p.left x = p.lastDigit x ∧ ∃ n : Nat, Even n ∧ (p.totalPooled : ℚ) = n * p.lastDigit x

theorem not_roundedAway (hroom : p.lastDigit x < 2 * p.left x) : ¬p.RoundedAway x := by
  rintro (hless | ⟨hhalf, _⟩)
  · exact absurd hroom hless.not_gt
  · exact absurd hhalf hroom.ne'

theorem roundedAway_iff {n : Nat} (hgrid : (p.totalPooled : ℚ) = n * p.lastDigit x) :
    p.RoundedAway x ↔
      2 * p.left x < p.lastDigit x ∨ 2 * p.left x = p.lastDigit x ∧ Even n := by
  unfold RoundedAway
  refine or_congr_right (and_congr_right fun _ => ⟨?_, fun heven => ⟨n, heven, hgrid⟩⟩)
  rintro ⟨m, heven, hm⟩
  have hunit : p.lastDigit x ≠ 0 := by
    unfold lastDigit
    positivity
  have hmn : (m : ℚ) = n := mul_right_cancel₀ hunit (hm.symm.trans hgrid)
  have heq : m = n := by exact_mod_cast hmn
  rwa [← heq]

theorem toRat_product (p : SharePool) (x : Decimal) :
    (x.exactMul (.ofInt p.totalPooled)).toRat = p.left x - p.totalPooled := by
  unfold left
  rw [Decimal.toRat_exactMul, Decimal.toRat_ofInt]
  ring

theorem toRat_product_nonpos (hpool : 0 < p.totalPooled) (hx : x.toRat ≤ 0) :
    (x.exactMul (.ofInt p.totalPooled)).toRat ≤ 0 := by
  rw [Decimal.toRat_exactMul, Decimal.toRat_ofInt]
  exact mul_nonpos_of_nonpos_of_nonneg hx (by exact_mod_cast hpool.le)

theorem left_pos (hpool : 0 < p.totalPooled) (hx : -1 < x.toRat) : 0 < p.left x :=
  mul_pos (by exact_mod_cast hpool) (by linarith)

theorem lastDigit_lt {bound : ℚ} (hbound : 1 ≤ bound)
    (hproduct : |p.left x - p.totalPooled| < bound) : 10 ^ 27 * p.lastDigit x < bound := by
  have hleast : (10 : ℚ) ^ Decimal.Precision.standard.leastExponent ≤ 10 ^ (-28 : Int) :=
    zpow_le_zpow_right₀ (by norm_num) (by decide)
  have hdigits : (10 : ℚ) ^ (-28 : Int) * 10 ^ 28 = 1 := by norm_num
  have hlt : p.lastDigit x * 10 ^ 28 < 10 * bound := by
    apply Decimal.pow_keptPlace_lt
    · rwa [← Decimal.abs_toRat, toRat_product]
    · change 10 ^ Decimal.Precision.standard.leastExponent * 10 ^ 28 < 10 * bound
      linarith
  linarith

/--
A fraction that is not above zero takes at most half of the last digit more than
its exact part of the pool.
-/
theorem left_le_of_rebaseDelta (hpool : 0 < p.totalPooled) (hx : x.toRat ≤ 0)
    (hdelta : p.rebaseDelta (.number x) = .ok delta) :
    2 * p.left x ≤ 2 * (p.totalPooled + delta) + p.lastDigit x := by
  rcases exists_of_rebaseDelta hdelta with ⟨y, hround, rfl⟩
  have hproduct := toRat_product_nonpos hpool hx
  have hnear := Decimal.toRat_round_near (by decide) hround
  have hcut := (Decimal.truncate_of_nonpos
    (Decimal.toRat_round_nonpos (by decide) hround hproduct)).left
  rw [toRat_product] at hnear
  unfold lastDigit
  linarith [neg_abs_le (y.toRat - (p.left x - p.totalPooled))]

theorem rebaseDelta_nonneg (hpool : 0 < p.totalPooled) (hx : 0 ≤ x.toRat)
    (hdelta : p.rebaseDelta (.number x) = .ok delta) : 0 ≤ delta := by
  rcases exists_of_rebaseDelta hdelta with ⟨y, hround, rfl⟩
  apply Decimal.truncate_nonneg
  apply Decimal.toRat_round_nonneg (by decide) hround
  rw [Decimal.toRat_exactMul, Decimal.toRat_ofInt]
  exact mul_nonneg hx (by exact_mod_cast hpool.le)

/-!
# Totals that have no more digits than are kept
-/

theorem totalPooled_onGrid {place : Int} (hpool : 0 < p.totalPooled) (hplace : place ≤ 0) :
    ∃ n : Nat, (p.totalPooled : ℚ) = n * 10 ^ place := by
  have hgrid := Decimal.magnitude_eq_of_le (x := .ofInt p.totalPooled) hplace
  rw [Decimal.magnitude_ofInt, abs_of_pos (by exact_mod_cast hpool)] at hgrid
  exact ⟨_, hgrid⟩

theorem toRat_round_product (hpool : 0 < p.totalPooled) (hsmall : p.totalPooled < 10 ^ 28)
    (hx : -1 < x.toRat) (hneg : x.toRat ≤ 0) :
    ∃ y, Decimal.round .standard (x.exactMul (.ofInt p.totalPooled)) = .ok y ∧ y.toRat ≤ 0 ∧
      -(p.totalPooled : ℚ) ≤ y.toRat ∧ (y.toRat = -p.totalPooled ↔ p.RoundedAway x) := by
  have hsmall' : (p.totalPooled : ℚ) < 10 ^ 28 := by exact_mod_cast hsmall
  have hleft := left_pos hpool hx
  have hproduct := toRat_product_nonpos hpool hneg
  have hmagnitude : (x.exactMul (.ofInt p.totalPooled)).magnitude = p.totalPooled - p.left x := by
    rw [← Decimal.abs_toRat, abs_of_nonpos hproduct, toRat_product, neg_sub]
  have hfits : (x.exactMul (.ofInt p.totalPooled)).magnitude < 10 ^ 28 := by linarith
  rcases Decimal.exists_round (p := .standard) (by decide)
    (fun hne => (@Decimal.adjusted_lt _ 28 hne hfits).trans (by decide)) with ⟨y, hround⟩
  have hy := Decimal.toRat_round_nonpos (by decide) hround hproduct
  have hvalue : y.toRat = -y.magnitude := by rw [← Decimal.abs_toRat, abs_of_nonpos hy, neg_neg]
  obtain ⟨n, hgrid⟩ : ∃ n : Nat, (p.totalPooled : ℚ) = n * p.lastDigit x :=
    totalPooled_onGrid hpool (Decimal.keptPlace_nonpos (p := .standard) (by decide) hfits)
  have hbelow : (x.exactMul (.ofInt p.totalPooled)).magnitude ≤ n * p.lastDigit x := by linarith
  have hle : y.magnitude ≤ n * p.lastDigit x :=
    Decimal.magnitude_round_le (by decide) hround hbelow
  have hwhole : y.magnitude = n * p.lastDigit x ↔
      2 * (n * p.lastDigit x) < 2 * (x.exactMul (.ofInt p.totalPooled)).magnitude + p.lastDigit x ∨
      2 * (n * p.lastDigit x) =
        2 * (x.exactMul (.ofInt p.totalPooled)).magnitude + p.lastDigit x ∧ Even n :=
    Decimal.magnitude_round_eq_iff (by decide) hround hbelow
  refine ⟨y, hround, hy, by linarith, ?_⟩
  rw [hvalue, neg_inj, roundedAway_iff hgrid]
  rw [hmagnitude, ← hgrid] at hwhole
  rw [hwhole]
  refine or_congr ⟨fun h => by linarith, fun h => by linarith⟩ (and_congr_left fun _ => ?_)
  exact ⟨fun h => by linarith, fun h => by linarith⟩

/-!
# Pools that a rebase leaves positive
-/

theorem lt_toRat_of_accepted (haccepted : (Numeral.number x).leNegOne = .ok false) :
    -1 < x.toRat := by
  by_contra hle
  have hwipes := Decimal.leNegOne_iff.mpr (not_lt.mp hle)
  cases haccepted.symm.trans (congrArg Except.ok hwipes)

theorem lastDigit_lt_left (hpool : 0 < p.totalPooled) (hx : 0 ≤ x.toRat) :
    p.lastDigit x < 2 * p.left x := by
  have hone : (1 : ℚ) ≤ p.totalPooled := by exact_mod_cast hpool
  have hmore : p.totalPooled ≤ p.left x := by
    unfold left
    nlinarith
  have hlt : 10 ^ 27 * p.lastDigit x < p.left x :=
    lastDigit_lt (hone.trans hmore) (by rw [abs_of_nonneg] <;> linarith)
  linarith

theorem lastDigit_lt_of_parts (hpool : 0 < p.totalPooled) (hx : -1 < x.toRat)
    (hparts : 5 ≤ 10 ^ 28 * (1 + x.toRat)) : p.lastDigit x < 2 * p.left x := by
  rcases le_or_gt 0 x.toRat with hnonneg | hneg
  · exact lastDigit_lt_left hpool hnonneg
  · have hone : (1 : ℚ) ≤ p.totalPooled := by exact_mod_cast hpool
    have hleft := left_pos hpool hx
    have hless : p.left x < p.totalPooled := by
      unfold left
      nlinarith
    have hlt : 10 ^ 27 * p.lastDigit x < p.totalPooled :=
      lastDigit_lt hone (by rw [abs_of_neg] <;> linarith)
    have hkept : 5 * (p.totalPooled : ℚ) ≤ 10 ^ 28 * p.left x := by
      unfold left
      nlinarith
    linarith

theorem totalPooled_pos_of_room (hpool : 0 < p.totalPooled)
    (haccepted : (Numeral.number x).leNegOne = .ok false)
    (hroom : p.lastDigit x < 2 * p.left x) :
    0 < (Act.run (rebase (.number x)) p).2.totalPooled := by
  cases hdelta : p.rebaseDelta (.number x) with
  | error failure =>
      rw [totalPooled_rebase_of_error hdelta]
      exact hpool
  | ok delta =>
      rw [totalPooled_rebase haccepted hdelta]
      rcases le_or_gt 0 x.toRat with hnonneg | hneg
      · have hmore := rebaseDelta_nonneg hpool hnonneg hdelta
        omega
      · have hnear := left_le_of_rebaseDelta hpool hneg.le hdelta
        have hpos : (0 : ℚ) < p.totalPooled + delta := by linarith
        exact_mod_cast hpos

theorem totalPooled_of_small (hpool : 0 < p.totalPooled) (hsmall : p.totalPooled < 10 ^ 28)
    (haccepted : (Numeral.number x).leNegOne = .ok false) :
    0 ≤ (Act.run (rebase (.number x)) p).2.totalPooled ∧
      ((Act.run (rebase (.number x)) p).2.totalPooled = 0 ↔ p.RoundedAway x) := by
  rcases le_or_gt 0 x.toRat with hnonneg | hneg
  · have hroom := lastDigit_lt_left hpool hnonneg
    have hpos := totalPooled_pos_of_room hpool haccepted hroom
    exact ⟨hpos.le, iff_of_false hpos.ne' (not_roundedAway hroom)⟩
  · rcases toRat_round_product hpool hsmall (lt_toRat_of_accepted haccepted) hneg.le with
      ⟨y, hround, hnonpos, hbound, hwhole⟩
    rcases Decimal.truncate_of_nonpos hnonpos with ⟨hfrom, hbelow⟩
    have hcut : -p.totalPooled ≤ y.truncate := by exact_mod_cast hbound.trans hfrom
    rw [totalPooled_rebase haccepted (by rw [rebaseDelta_number, hround]; rfl), ← hwhole]
    refine ⟨by omega, fun hempty => ?_, fun htaken => ?_⟩
    · have hcutoff : y.truncate = -p.totalPooled := eq_neg_of_add_eq_zero_right hempty
      have hwhole' : (y.truncate : ℚ) = -p.totalPooled := by exact_mod_cast hcutoff
      linarith
    · rw [htaken] at hbelow
      have hhigh : y.truncate < -p.totalPooled + 1 := by exact_mod_cast hbelow
      omega

/--
What an accepted fraction does to a pool that is not empty. Any pool is left
something if the fraction leaves more than half of the last digit that is kept
of their product, so certainly if it leaves five parts in `10 ^ 28`. A pool whose
total has at most 28 digits is never driven below zero, and is emptied just
where rounding takes all that the fraction leaves.
-/
theorem rebase_keeps_what_rounding_leaves (hpool : 0 < p.totalPooled)
    (haccepted : fraction.leNegOne = .ok false) :
    (∀ x, fraction = .number x →
      (p.lastDigit x < 2 * p.left x → 0 < (Act.run (rebase fraction) p).2.totalPooled) ∧
      (5 ≤ 10 ^ 28 * (1 + x.toRat) → 0 < (Act.run (rebase fraction) p).2.totalPooled) ∧
      (p.totalPooled < 10 ^ 28 → 0 ≤ (Act.run (rebase fraction) p).2.totalPooled ∧
        ((Act.run (rebase fraction) p).2.totalPooled = 0 ↔ p.RoundedAway x))) ∧
    ((∀ x, fraction ≠ .number x) →
      (Act.run (rebase fraction) p).2.totalPooled = p.totalPooled) := by
  constructor
  · rintro x rfl
    exact ⟨totalPooled_pos_of_room hpool haccepted,
      fun hparts => totalPooled_pos_of_room hpool haccepted
        (lastDigit_lt_of_parts hpool (lt_toRat_of_accepted haccepted) hparts),
      fun hsmall => totalPooled_of_small hpool hsmall haccepted⟩
  · intro hnumber
    rcases rebaseDelta_of_no_number (p := p) hnumber with ⟨failure, hdelta⟩
    exact totalPooled_rebase_of_error hdelta

/-- Of two units a half leaves one; all but one part in `10 ^ 28` is rounded up to the whole. -/
theorem rebase_keeps_what_rounding_leaves_two_units :
    let p : SharePool := { fresh "stETH" 18 with totalShares := 2, totalPooled := 2 }
    let half : Decimal := ⟨true, 5, -1⟩
    let most : Decimal := ⟨true, 9999999999999999999999999999, -28⟩
    0 < p.totalPooled ∧ (Numeral.number half).leNegOne = .ok false ∧
      0 < (Act.run (rebase (.number half)) p).2.totalPooled ∧
      (Numeral.number most).leNegOne = .ok false ∧ 2 * p.left most < p.lastDigit most ∧
      (Act.run (rebase (.number most)) p).2.totalPooled = 0 := by
  intro p half most
  have hpool : 0 < p.totalPooled := by decide
  have hhalf : (Numeral.number half).leNegOne = .ok false := by decide +kernel
  have hparts : 5 ≤ 10 ^ 28 * (1 + half.toRat) := by
    norm_num [Decimal.toRat, Decimal.magnitude, half]
  have hmost : (Numeral.number most).leNegOne = .ok false := by decide +kernel
  have hplace :
      Decimal.Precision.standard.keptPlace (most.exactMul (.ofInt p.totalPooled)) = -27 := by
    decide +kernel
  have hnear : 2 * p.left most < p.lastDigit most := by
    unfold lastDigit
    rw [hplace]
    norm_num [left, Decimal.toRat, Decimal.magnitude, p, most]
  exact ⟨hpool, hhalf,
    ((rebase_keeps_what_rounding_leaves hpool hhalf).left half rfl).right.left hparts, hmost, hnear,
    (((rebase_keeps_what_rounding_leaves hpool hmost).left most rfl).right.right
      (by decide)).right.mpr (Or.inl hnear)⟩

/-- Of a total with one digit more than are kept, rounding can take more than there is. -/
example : (Act.run (rebase (.number ⟨true, 10 ^ 29 - 1, -29⟩))
    { fresh "stETH" 18 with totalShares := 2, totalPooled := 10 ^ 29 - 1 }).2.totalPooled = -1 := by
  decide +kernel

end SharePool
end ReserveAccounting
