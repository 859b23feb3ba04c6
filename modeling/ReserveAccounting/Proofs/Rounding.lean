import Mathlib.Algebra.Order.Ring.Abs
import Mathlib.Algebra.Order.Ring.Int
import Mathlib.Tactic.Ring
import ReserveAccounting.FixedPoint

/-!
# Rounding

What an accepted product or quotient is, how far it lies from the exact value,
and why a quotient of whole operands can be refused at all.
-/

namespace ReserveAccounting
namespace FixedPoint

variable {op : String} {unit a a' b b' r r' s i : Int}

/-!
# Accepted operations
-/

theorem requireOperand_eq_ok :
    requireOperand op a = .ok () ↔ 0 ≤ a ∧ a ≤ maxAmount := by
  unfold requireOperand
  split
  · simp; omega
  · split
    · simp; omega
    · simp; omega

theorem mulHalfUp_eq_ok :
    mulHalfUp op unit a b = .ok r ↔
      (0 ≤ a ∧ a ≤ maxAmount) ∧ (0 ≤ b ∧ b ≤ maxAmount) ∧
        ¬ (b ≠ 0 ∧ (maxAmount - unit / 2) / b < a) ∧ r = (a * b + unit / 2) / unit := by
  unfold mulHalfUp
  rw [← @requireOperand_eq_ok op a, ← @requireOperand_eq_ok op b]
  cases requireOperand op a with
  | error e => simp [bind, Except.bind]
  | ok u =>
      cases requireOperand op b with
      | error e => simp [bind, Except.bind]
      | ok v =>
          by_cases h : b ≠ 0 ∧ (maxAmount - unit / 2) / b < a
          · simp [bind, Except.bind, h]
          · simp [bind, Except.bind, h, eq_comm]

theorem divHalfUp_eq_ok :
    divHalfUp op unit a b = .ok r ↔
      (0 ≤ a ∧ a ≤ maxAmount) ∧ (0 ≤ b ∧ b ≤ maxAmount) ∧
        b ≠ 0 ∧ ¬ (maxAmount - b / 2) / unit < a ∧ r = (a * unit + b / 2) / b := by
  unfold divHalfUp
  rw [← @requireOperand_eq_ok op a, ← @requireOperand_eq_ok op b]
  cases requireOperand op a with
  | error e => simp [bind, Except.bind]
  | ok u =>
      cases requireOperand op b with
      | error e => simp [bind, Except.bind]
      | ok v =>
          by_cases hzero : b = 0
          · simp [bind, Except.bind, hzero]
          · by_cases h : (maxAmount - b / 2) / unit < a
            · simp [bind, Except.bind, hzero, h]
            · simp [bind, Except.bind, hzero, h, eq_comm]

theorem rayMul_ok (h : rayMul a b = .ok r) :
    0 ≤ a ∧ a ≤ maxAmount ∧ 0 ≤ b ∧ r = (a * b + ray / 2) / ray := by
  rcases mulHalfUp_eq_ok.mp h with ⟨⟨ha, hmax⟩, ⟨hb, _⟩, _, hr⟩
  exact ⟨ha, hmax, hb, hr⟩

theorem rayDiv_ok (h : rayDiv a b = .ok r) :
    0 ≤ a ∧ 0 < b ∧ r = (a * ray + b / 2) / b := by
  rcases divHalfUp_eq_ok.mp h with ⟨⟨ha, _⟩, ⟨hb, _⟩, hzero, _, hr⟩
  exact ⟨ha, by omega, hr⟩

theorem rayDiv_nonneg (h : rayDiv a b = .ok r) : 0 ≤ r := by
  rcases rayDiv_ok h with ⟨ha, hb, rfl⟩
  apply Int.ediv_nonneg _ hb.le
  have := Int.mul_nonneg ha (show 0 ≤ ray by decide)
  omega

theorem rayMul_nonneg (h : rayMul a b = .ok r) : 0 ≤ r := by
  rcases rayMul_ok h with ⟨ha, _, hb, rfl⟩
  apply Int.ediv_nonneg _ (by decide)
  have hproduct := Int.mul_nonneg ha hb
  have hhalf : 0 ≤ ray / 2 := by decide
  omega

theorem percentMul_le (ha : 0 ≤ a) (hb : b ≤ percentageFactor) (h : percentMul a b = .ok r) :
    0 ≤ r ∧ r ≤ a := by
  rcases mulHalfUp_eq_ok.mp h with ⟨_, ⟨hb', _⟩, _, rfl⟩
  have hproduct : a * b ≤ a * percentageFactor := Int.mul_le_mul_of_nonneg_left hb ha
  have hnonneg := Int.mul_nonneg ha hb'
  simp only [percentageFactor] at *
  omega

theorem percentMul_zero (hb : 0 ≤ b) (hmax : b ≤ maxAmount) : percentMul 0 b = .ok 0 := by
  have hroom : 0 ≤ (maxAmount - percentageFactor / 2) / b := Int.ediv_nonneg (by decide) hb
  apply mulHalfUp_eq_ok.mpr
  refine ⟨by decide, ⟨hb, hmax⟩, by omega, ?_⟩
  rw [Int.zero_mul]
  decide

theorem rayMul_zero_of_ok (h : rayMul a b = .ok r) : rayMul a 0 = .ok 0 := by
  rcases rayMul_ok h with ⟨ha, hmax, _, _⟩
  apply mulHalfUp_eq_ok.mpr
  refine ⟨⟨ha, hmax⟩, by decide, by simp, ?_⟩
  rw [Int.mul_zero]
  decide

theorem rayDiv_zero (hb : 0 < b) (hmax : b ≤ maxAmount) : rayDiv 0 b = .ok 0 := by
  have hhalf : 0 ≤ (maxAmount - b / 2) / ray := Int.ediv_nonneg (by omega) (by decide)
  apply divHalfUp_eq_ok.mpr
  refine ⟨by decide, ⟨hb.le, hmax⟩, by omega, by omega, ?_⟩
  rw [Int.zero_mul, Int.zero_add]
  exact (Int.ediv_eq_zero_of_lt (by omega) (by omega)).symm

theorem eq_zero_of_rayMul_zero (h : rayMul a 0 = .ok r) : r = 0 := by
  rcases rayMul_ok h with ⟨_, _, _, rfl⟩
  rw [Int.mul_zero]
  decide

theorem rayMul_of_le_right (h : rayMul a b = .ok r) (hb : 0 ≤ b') (hle : b' ≤ b) :
    ∃ r', rayMul a b' = .ok r' := by
  rcases mulHalfUp_eq_ok.mp h with ⟨ha, ⟨_, hmax⟩, hfits, _⟩
  refine ⟨_, mulHalfUp_eq_ok.mpr ⟨ha, ⟨hb, hle.trans hmax⟩, ?_, rfl⟩⟩
  intro hlarge
  rcases hlarge with ⟨hzero, hlt⟩
  apply hfits
  have hpos : 0 < b := by omega
  have hroom : 0 ≤ (maxAmount - ray / 2) / b := Int.ediv_nonneg (by decide) hpos.le
  have hquotient : (maxAmount - ray / 2) / b ≤ (maxAmount - ray / 2) / b' := by
    rw [Int.le_ediv_iff_mul_le (by omega)]
    exact (Int.mul_le_mul_of_nonneg_left hle hroom).trans
      (Int.ediv_mul_le (maxAmount - ray / 2) hpos.ne')
  exact ⟨hpos.ne', by omega⟩

theorem rayMul_of_le_left (h : rayMul a b = .ok r) (ha : 0 ≤ a') (hle : a' ≤ a) :
    ∃ r', rayMul a' b = .ok r' := by
  rcases mulHalfUp_eq_ok.mp h with ⟨⟨_, hmax⟩, hb, hfits, _⟩
  exact ⟨_, mulHalfUp_eq_ok.mpr ⟨⟨ha, hle.trans hmax⟩, hb,
    fun hlarge => hfits ⟨hlarge.left, hlarge.right.trans_le hle⟩, rfl⟩⟩

/-!
# Distance from the exact value
-/

theorem abs_nearest_sub_le (hb : 0 < b) : |b * ((a + b / 2) / b) - a| ≤ b / 2 := by
  have hlow := Int.lt_mul_ediv_self_add (x := a + b / 2) hb
  have hhigh := Int.mul_ediv_self_le (x := a + b / 2) hb.ne'
  rw [abs_le]
  constructor <;> omega

theorem abs_rayMul_sub_le (h : rayMul a b = .ok r) : |ray * r - a * b| ≤ ray / 2 := by
  rcases rayMul_ok h with ⟨_, _, _, rfl⟩
  exact abs_nearest_sub_le (by decide)

theorem abs_rayDiv_sub_le (h : rayDiv a b = .ok r) : |b * r - a * ray| ≤ b / 2 := by
  rcases rayDiv_ok h with ⟨_, hpos, rfl⟩
  exact abs_nearest_sub_le hpos

theorem abs_rayMul_add_sub_le (h : rayMul a (b + b') = .ok s) (hr : rayMul a b = .ok r)
    (hr' : rayMul a b' = .ok r') : |s - (r + r')| ≤ 1 := by
  have hs := abs_rayMul_sub_le h
  have hleft := abs_rayMul_sub_le hr
  have hright := abs_rayMul_sub_le hr'
  rw [mul_add] at hs
  rw [abs_le] at *
  simp only [ray] at *
  omega

/--
Shares that an amount is worth, up to half an index, change the value of what they
are added to by the amount, up to that and the rounding of the value before and after.
-/
theorem abs_gain_sub_le {total n i x before after : Int}
    (hshares : |i * n - x * ray| ≤ i / 2) (hbefore : rayMul total i = .ok before)
    (hafter : rayMul (total + n) i = .ok after) :
    2 * ray * |x - (after - before)| ≤ i + 2 * ray := by
  have hold := abs_rayMul_sub_le hbefore
  have hnew := abs_rayMul_sub_le hafter
  have hsplit : ray * (x - (after - before)) =
      (ray * before - total * i) - (ray * after - (total + n) * i) - (i * n - x * ray) := by
    ring
  have hscaled : |ray * (x - (after - before))| ≤ ray / 2 + ray / 2 + i / 2 := by
    rw [hsplit]
    calc |(ray * before - total * i) - (ray * after - (total + n) * i) - (i * n - x * ray)|
        ≤ |(ray * before - total * i) - (ray * after - (total + n) * i)| + |i * n - x * ray| :=
          abs_sub _ _
      _ ≤ |ray * before - total * i| + |ray * after - (total + n) * i| + |i * n - x * ray| :=
          Int.add_le_add_right (abs_sub _ _) _
      _ ≤ ray / 2 + ray / 2 + i / 2 :=
          Int.add_le_add (Int.add_le_add hold hnew) hshares
  rw [abs_mul, abs_of_pos (show 0 < ray by decide)] at hscaled
  rw [mul_assoc]
  omega

theorem rayMul_mono (h : rayMul a b = .ok r) (h' : rayMul a' b' = .ok r') (hleft : a ≤ a')
    (hright : b ≤ b') : r ≤ r' := by
  rcases rayMul_ok h with ⟨ha, _, hb, rfl⟩
  rcases rayMul_ok h' with ⟨_, _, _, rfl⟩
  have hprod : a * b ≤ a' * b' := mul_le_mul hleft hright hb (ha.trans hleft)
  exact Int.ediv_le_ediv (by decide) (by omega)

theorem rayMul_mono_right (h : rayMul a b = .ok r) (h' : rayMul a b' = .ok r') (hle : b ≤ b') :
    r ≤ r' := rayMul_mono h h' (Int.le_refl a) hle

theorem rayDiv_mono (h : rayDiv a b = .ok r) (h' : rayDiv a' b' = .ok r')
    (hcross : a * b' ≤ a' * b) : r ≤ r' := by
  rcases rayDiv_ok h with ⟨_, hpos, hr⟩
  rcases rayDiv_ok h' with ⟨_, hpos', rfl⟩
  have hfloor := Int.ediv_mul_le (a * ray + b / 2) hpos.ne'
  rw [← hr] at hfloor
  have hdouble : 2 * (r * b) ≤ 2 * (a * ray) + b := by omega
  have hscaled : (2 * (r * b')) * b ≤ (2 * (a' * ray) + b') * b := by
    calc (2 * (r * b')) * b = (2 * (r * b)) * b' := by ring
      _ ≤ (2 * (a * ray) + b) * b' := Int.mul_le_mul_of_nonneg_right hdouble hpos'.le
      _ = 2 * ray * (a * b') + b' * b := by ring
      _ ≤ 2 * ray * (a' * b) + b' * b :=
          Int.add_le_add_right (Int.mul_le_mul_of_nonneg_left hcross (by decide)) _
      _ = (2 * (a' * ray) + b') * b := by ring
  have hdoubled := Int.le_of_mul_le_mul_right hscaled hpos
  rw [Int.le_ediv_iff_mul_le hpos']
  omega

theorem rayDiv_mono_left (h : rayDiv a b = .ok r) (h' : rayDiv a' b = .ok r') (hle : a ≤ a') :
    r ≤ r' :=
  rayDiv_mono h h' (Int.mul_le_mul_of_nonneg_right hle (rayDiv_ok h).right.left.le)

/--
From an index of one on, no more shares are asked for than there are: the value
of shares, or less, divided by the index gives at most those shares back.
-/
theorem rayDiv_le_of_le_rayMul (hindex : ray ≤ i) (hvalue : rayMul s i = .ok r) (hle : a ≤ r)
    (h : rayDiv a i = .ok r') : r' ≤ s := by
  rcases rayMul_ok hvalue with ⟨_, _, _, rfl⟩
  rcases rayDiv_ok h with ⟨_, hpos, rfl⟩
  have hvalue' := Int.mul_ediv_self_le (x := s * i + ray / 2) (k := ray) (by decide)
  apply Int.le_of_lt_add_one
  apply Int.ediv_lt_of_lt_mul hpos
  have hexpand : (s + 1) * i = s * i + i := by ring
  rw [hexpand]
  by_cases hone : i = ray
  · -- at index one the value of shares is their number
    subst hone
    have hexact : (s * ray + ray / 2) / ray = s := by
      rw [Int.add_comm, Int.add_mul_ediv_right _ _ (by decide)]
      have : ray / 2 / ray = 0 := by decide
      omega
    rw [hexact] at hle
    have := Int.mul_le_mul_of_nonneg_right hle (show 0 ≤ ray by decide)
    simp only [ray] at *
    omega
  · simp only [ray] at *
    omega

/-!
# Refused quotients
-/

theorem requireOperand_error (ha : 0 ≤ a) {e : Refusal} (h : requireOperand op a = .error e) :
    e = .operandTooLarge op := by
  unfold requireOperand at h
  rw [if_neg (by omega)] at h
  split at h
  · cases h
    rfl
  · cases h

theorem rayDiv_error (ha : 0 ≤ a) (hb : 0 < b) {e : Refusal} (h : rayDiv a b = .error e) :
    e.kind = .overflow ∧ Fault.ofRefusal e = .refused e := by
  have hsize : (∃ op', e = .operandTooLarge op') ∨ ∃ op', e = .dividendTooLarge op' := by
    unfold rayDiv divHalfUp at h
    cases hopa : requireOperand "ray_div" a with
    | error e' =>
        simp only [hopa, bind, Except.bind] at h
        cases h
        exact Or.inl ⟨_, requireOperand_error ha hopa⟩
    | ok u =>
        cases hopb : requireOperand "ray_div" b with
        | error e' =>
            simp only [hopa, hopb, bind, Except.bind] at h
            cases h
            exact Or.inl ⟨_, requireOperand_error hb.le hopb⟩
        | ok v =>
            simp only [hopa, hopb, bind, Except.bind] at h
            rw [if_neg (by omega)] at h
            split at h
            · cases h
              exact Or.inr ⟨_, rfl⟩
            · cases h
  rcases hsize with ⟨op', rfl⟩ | ⟨op', rfl⟩
  · exact ⟨rfl, Fault.ofRefusal_of_figures_eq_nil rfl⟩
  · exact ⟨rfl, Fault.ofRefusal_of_figures_eq_nil rfl⟩

/-!
# Products with room
-/

theorem rayMul_of_room (ha : 0 ≤ a) (hmax : a ≤ maxAmount) (hb : 0 ≤ b) (hmax' : b ≤ maxAmount)
    (hroom : a * b + ray / 2 ≤ maxAmount) : ∃ r, rayMul a b = .ok r := by
  refine ⟨_, mulHalfUp_eq_ok.mpr ⟨⟨ha, hmax⟩, ⟨hb, hmax'⟩, ?_, rfl⟩⟩
  intro h
  rcases h with ⟨hzero, hlt⟩
  have hpos : 0 < b := by omega
  have hle : a ≤ (maxAmount - ray / 2) / b := by
    rw [Int.le_ediv_iff_mul_le hpos]
    omega
  omega

theorem mulHalfUp_error (ha : 0 ≤ a) (hb : 0 ≤ b) {e : Refusal}
    (h : mulHalfUp op unit a b = .error e) :
    e.kind = .overflow ∧ Fault.ofRefusal e = .refused e := by
  have hsize : (∃ op', e = .operandTooLarge op') ∨ ∃ op', e = .productTooLarge op' := by
    unfold mulHalfUp at h
    cases hopa : requireOperand op a with
    | error e' =>
        simp only [hopa, bind, Except.bind] at h
        cases h
        exact Or.inl ⟨_, requireOperand_error ha hopa⟩
    | ok u =>
        cases hopb : requireOperand op b with
        | error e' =>
            simp only [hopa, hopb, bind, Except.bind] at h
            cases h
            exact Or.inl ⟨_, requireOperand_error hb hopb⟩
        | ok v =>
            simp only [hopa, hopb, bind, Except.bind] at h
            split at h
            · cases h
              exact Or.inr ⟨_, rfl⟩
            · cases h
  rcases hsize with ⟨op', rfl⟩ | ⟨op', rfl⟩
  · exact ⟨rfl, Fault.ofRefusal_of_figures_eq_nil rfl⟩
  · exact ⟨rfl, Fault.ofRefusal_of_figures_eq_nil rfl⟩

theorem rayMul_error (ha : 0 ≤ a) (hb : 0 ≤ b) {e : Refusal} (h : rayMul a b = .error e) :
    e.kind = .overflow ∧ Fault.ofRefusal e = .refused e := mulHalfUp_error ha hb h

end FixedPoint
end ReserveAccounting
