import ReserveAccounting.Proofs.FullWithdrawals

/-!
# What a full withdrawal leaves

Below a rate of one a scaled balance asks for fewer shares than it was made of,
so that a holder who withdraws everything can keep some. What is kept scales to
one unit at most, and that unit is then worth what the index makes of it.
-/

namespace ReserveAccounting

open FixedPoint

namespace FixedPoint

variable {n i s asked rest left : Int}

/-!
# Shares that are not asked for
-/

theorem rest_mul_lt (hi : i < ray) (hs : rayMul n i = .ok s) (hasked : rayDiv s i = .ok asked) :
    (n - min asked n) * i < ray := by
  have hscaled := (abs_le.mp (abs_rayMul_sub_le hs)).left
  have hback := (abs_le.mp (abs_rayDiv_sub_le hasked)).left
  rcases le_total n asked with hall | hsome
  · rw [min_eq_right hall, sub_self, Int.zero_mul]
    decide
  · rw [min_eq_left hsome, sub_mul, mul_comm asked i]
    rw [mul_comm s ray] at hback
    simp only [ray] at *
    omega

theorem rayMul_le_one (hn : n * i < ray) (hs : rayMul n i = .ok s) : s = 0 ∨ s = 1 := by
  have hnear := (abs_le.mp (abs_rayMul_sub_le hs)).right
  have hnonneg := rayMul_nonneg hs
  simp only [ray] at *
  omega

theorem rayMul_unit (hs : s = 0 ∨ s = 1) (hleft : rayMul s i = .ok left) :
    2 * ray * left ≤ s * (2 * i + ray) ∧ (left ≤ 2 ↔ s = 0 ∨ 2 * i < 5 * ray) := by
  rcases rayMul_ok hleft with ⟨_, _, _, rfl⟩
  rcases hs with rfl | rfl
  · rw [Int.zero_mul, Int.zero_mul, show (0 + ray / 2) / ray = 0 by decide, Int.mul_zero]
    simp
  · simp only [ray]
    omega

end FixedPoint

/-!
# Balances after a withdrawal
-/

namespace RebasingLedger

variable {w w' : RebasingLedger} {holder : String} {index rate value scaled balance : Int}

theorem outcome_scaledBalanceOf (hrate : (Act.run snapshot w).1 = .ok rate)
    (hscaled : rayMul (w.ledger.sharesOf holder) rate = .ok scaled) :
    (Act.run (scaledBalanceOf holder) w).1 = .ok scaled :=
  (BalanceModel.outcome_scaledBalanceOf (m := .rebasing w)).trans
    (BalanceModel.scaledValue_of_rate hrate hscaled)

theorem outcome_balanceOf (hrate : (Act.run snapshot w).1 = .ok rate)
    (hscaled : rayMul (w.ledger.sharesOf holder) rate = .ok scaled)
    (hbalance : rayMul scaled index = .ok balance) :
    (Act.run (balanceOf holder index) w).1 = .ok balance :=
  (BalanceModel.outcome_balanceOf (m := .rebasing w)).trans
    (BalanceModel.presentedValue_of_scaledValue
      (BalanceModel.scaledValue_of_rate hrate hscaled) hbalance)

/--
After a holder has withdrawn everything at a rate below one, its balance can still
be read at that rate, and comes from one scaled unit at most. At two units or
fewer it stays just while the index is below two and a half.
-/
theorem withdraw_everything_leaves_one_unit (hrate : (Act.run snapshot w).1 = .ok rate)
    (hpos : 0 < rate) (hbelow : rate < ray) (hindex : ray ≤ index)
    (hrun : Act.run (withdraw holder everything index) w = (.ok value, w'))
    (hagain : (Act.run snapshot w').1 = .ok rate) :
    w'.ledger.sharesOf holder * rate < ray ∧
      ∃ scaled left, (Act.run (scaledBalanceOf holder) w').1 = .ok scaled ∧
        (scaled = 0 ∨ scaled = 1) ∧ (Act.run (balanceOf holder index) w').1 = .ok left ∧
        2 * ray * left ≤ scaled * (2 * index + ray) ∧
        (left ≤ 2 ↔ scaled = 0 ∨ 2 * index < 5 * ray) := by
  rcases (leaves_withdraw_rounded hrate hpos hindex).of_ok hrun with
    ⟨before, asked, hbefore, hvalue, hasked, hdebits⟩
  have hkept : w'.ledger.sharesOf holder =
      w.ledger.sharesOf holder - min asked (w.ledger.sharesOf holder) := by
    rw [ShareLedger.sharesOf_eq_held, hdebits.held_eq, if_pos rfl]
    rfl
  have hless : w'.ledger.sharesOf holder * rate < ray := by
    rw [hkept]
    exact rest_mul_lt hbelow hbefore hasked
  have hdebit_pos := hdebits.left
  -- what is left is part of what could be read before
  have hnonneg : 0 ≤ w'.ledger.sharesOf holder := by omega
  rcases rayMul_of_le_left hbefore hnonneg (by omega) with ⟨scaled, hscaled⟩
  rcases rayMul_of_le_left hvalue (rayMul_nonneg hscaled)
    (rayMul_mono hscaled hbefore (by omega) (Int.le_refl rate)) with ⟨left, hleft⟩
  have hunit := rayMul_le_one hless hscaled
  exact ⟨hless, scaled, left, outcome_scaledBalanceOf hagain hscaled, hunit,
    outcome_balanceOf hagain hscaled hleft, rayMul_unit hunit hleft⟩

/-- Two of five shares stay at a rate of 0.29, and are worth three units at an index of three. -/
theorem withdraw_everything_leaves_one_unit_two_of_five :
    let rate := 29 * ray / 100
    let w : RebasingLedger := { fresh (.feed ⟨"stETH", fun _ => rate, 0⟩) with
      ledger := ⟨.ofList [("alice", 5)], 5⟩ }
    (Act.run snapshot w).1 = .ok rate ∧ 0 < rate ∧ rate < ray ∧ ray ≤ 3 * ray ∧
      ∃ w', Act.run (withdraw "alice" everything (3 * ray)) w = (.ok 3, w') ∧
        (Act.run snapshot w').1 = .ok rate ∧ w'.ledger.sharesOf "alice" * rate < ray ∧
        ∃ scaled left, (Act.run (scaledBalanceOf "alice") w').1 = .ok scaled ∧
          (scaled = 0 ∨ scaled = 1) ∧ (Act.run (balanceOf "alice" (3 * ray)) w').1 = .ok left ∧
          left = 3 ∧ ¬ left ≤ 2 := by
  intro rate w
  have hrate : (Act.run snapshot w).1 = .ok rate := Act.eq_ok_of_toOption (by decide +kernel)
  have hpaid : (Act.run (withdraw "alice" everything (3 * ray)) w).1 = .ok 3 :=
    Act.eq_ok_of_toOption (by decide +kernel)
  have hrun := Act.run_of_outcome hpaid
  have hagain : (Act.run snapshot (Act.run (withdraw "alice" everything (3 * ray)) w).2).1 =
      .ok rate := Act.eq_ok_of_toOption (by decide +kernel)
  have hthree : (Act.run (balanceOf "alice" (3 * ray))
      (Act.run (withdraw "alice" everything (3 * ray)) w).2).1 = .ok 3 :=
    Act.eq_ok_of_toOption (by decide +kernel)
  rcases withdraw_everything_leaves_one_unit hrate (by decide) (by decide) (by decide) hrun hagain
    with ⟨hless, scaled, left, hscaled, hunit, hleft, _⟩
  cases hthree.symm.trans hleft
  exact ⟨hrate, by decide, by decide, by decide, _, hrun, hagain, hless, scaled, 3, hscaled, hunit,
    hleft, rfl, by decide⟩

end RebasingLedger
end ReserveAccounting
