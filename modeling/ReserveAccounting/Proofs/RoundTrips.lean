import ReserveAccounting.Proofs.BookedShares
import ReserveAccounting.Proofs.DepositRoundings

/-!
# Deposits that are withdrawn at once

A deposit that is withdrawn at once is divided and multiplied by the same index.
Both roundings are to the nearest, so that the two together can pay more than
was paid in: by at most half of the index, in ray, and half a unit.
-/

namespace ReserveAccounting

open FixedPoint

namespace FixedPoint

variable {a i n q rate s s' t v : Int}

/-!
# There and back, from an amount
-/

theorem rayMul_rayDiv_sub_le (hq : rayDiv a i = .ok q) (hle : s ≤ q) (hv : rayMul s i = .ok v) :
    2 * ray * (v - a) ≤ i + ray := by
  have hquotient := (abs_le.mp (abs_rayDiv_sub_le hq)).right
  have hvalue := (abs_le.mp (abs_rayMul_sub_le hv)).right
  have hproduct : s * i ≤ i * q := by
    rw [mul_comm i q]
    exact Int.mul_le_mul_of_nonneg_right hle (rayDiv_ok hq).right.left.le
  simp only [ray] at *
  omega

theorem rayMul_le_iff (hv : rayMul s i = .ok v) : v ≤ a ↔ 2 * (s * i) < (2 * a + 1) * ray := by
  rcases rayMul_ok hv with ⟨_, _, _, rfl⟩
  simp only [ray]
  omega

theorem rayMul_rayDivFloor_le (hn : rayDivFloor q rate = .ok n) (hs : rayMul n rate = .ok s) :
    s ≤ q := by
  have hcovered := rayDivFloor_mul_le hn
  have hscaled := (abs_le.mp (abs_rayMul_sub_le hs)).right
  simp only [ray] at *
  omega

theorem rayMul_add_rayDivFloor_le (hn : rayDivFloor q rate = .ok n) (hs : rayMul t rate = .ok s)
    (hs' : rayMul (t + n) rate = .ok s') : s' ≤ s + q := by
  have hcovered := rayDivFloor_mul_le hn
  rcases rayMul_ok hs with ⟨_, _, _, rfl⟩
  rcases rayMul_ok hs' with ⟨_, _, _, rfl⟩
  rw [add_mul]
  simp only [ray] at *
  omega

/--
What they add falls short of that by less than the value of one more share and a
unit, so by the whole units of the rate and one unit at most.
-/
theorem le_rayMul_add_rayDivFloor (hn : rayDivFloor q rate = .ok n) (hs : rayMul t rate = .ok s)
    (hs' : rayMul (t + n) rate = .ok s') : q - rate / ray - 1 ≤ s' - s := by
  have hbefore := (abs_le.mp (abs_rayMul_sub_le hs)).right
  have hafter := (abs_le.mp (abs_rayMul_sub_le hs')).left
  have hfloor := lt_rayDivFloor_succ_mul hn
  rw [add_mul] at hafter
  simp only [ray] at *
  omega

/--
Shares that were bought are worth half a unit at least: with one more they are
worth more than the whole units they were bought for.
-/
theorem worth_of_rayDivFloor (hn : rayDivFloor q rate = .ok n) (hpos : 0 < n) :
    ray ≤ 2 * (n * rate) := by
  have hfloor := lt_rayDivFloor_succ_mul hn
  rcases rayDivFloor_ok hn with ⟨_, hrate, hquotient⟩
  have hq_ne : q ≠ 0 := by
    intro hzero
    rw [hzero, Int.zero_mul, Int.zero_ediv] at hquotient
    omega
  have hshare : 1 * rate ≤ n * rate := Int.mul_le_mul_of_nonneg_right hpos hrate.le
  simp only [ray] at *
  omega

end FixedPoint

namespace BalanceModel

variable {m m' : BalanceModel} {holder : String} {index amount n scaled value : Int} {first : Bool}

/-!
# Shares that were bought
-/

theorem Buys.scaledValue_le (hbuys : m.Buys index amount n)
    (hscaled : m.scaledValue n = .ok scaled) :
    ∃ quotient, rayDiv amount index = .ok quotient ∧ scaled ≤ quotient ∧
      (m.isRebasing = false → scaled = quotient) := by
  cases m with
  | plain l =>
      cases hscaled
      exact ⟨n, hbuys, Int.le_refl n, fun _ => rfl⟩
  | rebasing w =>
      rcases hbuys with ⟨rate, quotient, hrate, hquotient, hshares⟩
      have hread : (rebasing w).rate? = some (.ok rate) := congrArg some hrate
      exact ⟨quotient, hquotient,
        rayMul_rayDivFloor_le hshares (rayMul_of_scaledValue hread hscaled), nofun⟩

theorem leaves_burn_bought (hindex : ray ≤ index) (hbuys : m.Buys index amount n) (hn : 0 < n)
    (hheld : m.ledger.sharesOf holder = n) :
    (burn holder everything index).Leaves m
      (fun paid _ => m.presentedValue index n = .ok paid)
      (fun e m' => e.IsOverflow ∧ m'.ledger = m.ledger) := by
  subst hheld
  unfold burn
  cases m with
  | plain l =>
      rw [leaves_dispatch_plain]
      exact (ShareLedger.leaves_burn_everything hindex hn).mono
        (fun _ _ h => presentedValue_of_scaledValue rfl h.left) (fun _ _ h => ⟨h.left, h.right⟩)
  | rebasing w =>
      rw [leaves_dispatch_rebasing]
      rcases hbuys with ⟨rate, quotient, hrate, hquotient, hshares⟩
      apply (RebasingLedger.leaves_withdraw_rounded hrate (rayDivFloor_ok hshares).right.left
        hindex).mono _ (fun _ _ h => ⟨h.right (worth_of_rayDivFloor hshares hn), h.left⟩)
      intro paid w' h
      rcases h with ⟨scaled, _, hscaled, hpaid, _⟩
      exact presentedValue_of_scaledValue (scaledValue_of_rate hrate hscaled) hpaid

/--
A holder without shares who deposits an amount and withdraws everything at once,
at the same rate, is paid what the quotient of the amount is worth, over an asset
what the shares scale to. Of both kinds of books this can be more than was paid
in, by half of the index and half a unit at most; just when it is not is an
inequality on the exact product. Only the size of the numbers can prevent the
withdrawal.
-/
theorem burn_after_mint_pays_rounded_amount (hindex : ray ≤ index)
    (hnone : m.ledger.sharesOf holder = 0)
    (hmint : Act.run (mint holder amount index) m = (.ok first, m'))
    (hsame : m'.rate? = m.rate?) :
    (∃ e m'', Act.run (burn holder everything index) m' = (.error e, m'') ∧ e.IsOverflow ∧
      m''.ledger = m'.ledger) ∨
    ∃ quotient scaled paid m'', Act.run (burn holder everything index) m' = (.ok paid, m'') ∧
      rayDiv amount index = .ok quotient ∧
      (Act.run (scaledBalanceOf holder) m').1 = .ok scaled ∧ scaled ≤ quotient ∧
      (m.isRebasing = false → scaled = quotient) ∧ rayMul scaled index = .ok paid ∧
      2 * ray * (paid - amount) ≤ index + ray ∧
      (paid ≤ amount ↔ 2 * (scaled * index) < (2 * amount + 1) * ray) := by
  rcases answers_mint.of_ok hmint with ⟨⟨n, hbuys, hcredits⟩, hkind⟩
  have hheld : m'.ledger.sharesOf holder = n := by
    rw [ShareLedger.sharesOf_eq_held, hcredits.held_eq, if_pos rfl,
      ← ShareLedger.sharesOf_eq_held, hnone, Int.zero_add]
  have hbuys' : m'.Buys index amount n := hbuys.of_rate hsame.symm
  have hleaves := leaves_burn_bought hindex hbuys' hcredits.left hheld
  cases hrun : Act.run (burn holder everything index) m' with
  | mk outcome m'' =>
      cases outcome with
      | error e =>
          rcases hleaves.of_error hrun with ⟨hoverflow, hledger⟩
          exact Or.inl ⟨e, m'', rfl, hoverflow, hledger⟩
      | ok paid =>
          rcases presentedValue_eq_ok (hleaves.of_ok hrun) with ⟨scaled, hscaled, hpaid⟩
          rcases hbuys'.scaledValue_le hscaled with ⟨quotient, hquotient, hle, hplain⟩
          refine Or.inr ⟨quotient, scaled, paid, m'', rfl, hquotient, ?_, hle, ?_, hpaid,
            rayMul_rayDiv_sub_le hquotient hle hpaid, rayMul_le_iff hpaid⟩
          · rw [outcome_scaledBalanceOf, hheld]
            exact hscaled
          · rw [← hkind]
            exact hplain

/-- Three units paid in at an index of two are two scaled units, and those are worth four. -/
theorem burn_after_mint_pays_rounded_amount_three_at_two :
    let m : BalanceModel := .rebasing (.fresh (.feed ⟨"stETH", fun _ => ray / 2, 0⟩))
    ray ≤ 2 * ray ∧ m.ledger.sharesOf "alice" = 0 ∧
      ∃ m', Act.run (mint "alice" 3 (2 * ray)) m = (.ok true, m') ∧ m'.rate? = m.rate? ∧
        ∃ quotient scaled paid m'', Act.run (burn "alice" everything (2 * ray)) m' =
          (.ok paid, m'') ∧ rayDiv 3 (2 * ray) = .ok quotient ∧
          (Act.run (scaledBalanceOf "alice") m').1 = .ok scaled ∧ scaled ≤ quotient ∧
          paid = 4 ∧ ¬ paid ≤ 3 := by
  intro m
  have hnone : m.ledger.sharesOf "alice" = 0 := by decide +kernel
  have hminted : (Act.run (mint "alice" 3 (2 * ray)) m).1 = .ok true :=
    Act.eq_ok_of_toOption (by decide +kernel)
  have hrun := Act.run_of_outcome hminted
  have hsame : (Act.run (mint "alice" 3 (2 * ray)) m).2.rate? = m.rate? := by
    have hread : m.rate? = some (.ok (ray / 2)) :=
      congrArg some (Act.eq_ok_of_toOption (by decide +kernel))
    have hread' : (Act.run (mint "alice" 3 (2 * ray)) m).2.rate? = some (.ok (ray / 2)) :=
      congrArg some (Act.eq_ok_of_toOption (by decide +kernel))
    rw [hread, hread']
  have hpaid : (Act.run (burn "alice" everything (2 * ray))
      (Act.run (mint "alice" 3 (2 * ray)) m).2).1 = .ok 4 :=
    Act.eq_ok_of_toOption (by decide +kernel)
  refine ⟨by decide, hnone, _, hrun, hsame, ?_⟩
  rcases burn_after_mint_pays_rounded_amount (show ray ≤ 2 * ray by decide) hnone hrun hsame with
    ⟨e, m'', hburned, _⟩ | ⟨quotient, scaled, paid, m'', hburned, hquotient, hscaled, hle, _⟩
  · rw [hburned] at hpaid
    cases hpaid
  · rw [hburned] at hpaid
    cases hpaid
    exact ⟨quotient, scaled, 4, m'', hburned, hquotient, hscaled, hle, rfl, by decide⟩

end BalanceModel
end ReserveAccounting
