import Mathlib.Algebra.Order.Ring.Abs
import Mathlib.Tactic.Positivity
import ReserveAccounting.Proofs.TokenRuns
import ReserveAccounting.Proofs.ViewValues

/-!
# Premiums

A premium raises the index so that what every holder has grows by its part of
the premium. No shares change hands. The part is rounded four times: the ratio
of premium and supply, the new index, and the balance before and after it. Each
rounding is half a unit of its own, which the steps after it scale.
-/

namespace ReserveAccounting

open FixedPoint

namespace FixedPoint

variable {premium supply premiumRay supplyRay ratio index index' scaled before after : Int}

/-!
# The rounding of a part
-/

theorem wadToRay_ok {a r : Int} (h : wadToRay a = .ok r) : r = a * wadRayRatio := by
  unfold wadToRay at h
  rcases Act.exists_of_bind_ok h with ⟨_, _, hr⟩
  split at hr
  · cases hr
  · cases hr
    rfl

theorem abs_ratio_sub_le (hpremium : wadToRay premium = .ok premiumRay)
    (hsupply : wadToRay supply = .ok supplyRay) (hratio : rayDiv premiumRay supplyRay = .ok ratio) :
    2 * |supply * ratio - premium * ray| ≤ supply := by
  have hnear := abs_rayDiv_sub_le hratio
  rw [wadToRay_ok hpremium, wadToRay_ok hsupply] at hnear
  have hscaled : wadRayRatio * |supply * ratio - premium * ray| ≤ supply * wadRayRatio / 2 := by
    calc wadRayRatio * |supply * ratio - premium * ray|
        = |wadRayRatio * (supply * ratio - premium * ray)| := by
          rw [abs_mul, abs_of_nonneg (show 0 ≤ wadRayRatio by decide)]
      _ = |supply * wadRayRatio * ratio - premium * wadRayRatio * ray| := by ring_nf
      _ ≤ supply * wadRayRatio / 2 := hnear
  simp only [wadRayRatio] at hscaled
  omega

/--
The growth of a balance against its part of the premium: each of the four
rounding errors, half a unit, is scaled by what is still multiplied with it.
-/
theorem abs_growth_sub_part_le (hratio : 2 * |supply * ratio - premium * ray| ≤ supply)
    (hindex : rayMul (ratio + ray) index = .ok index') (hbefore : rayMul scaled index = .ok before)
    (hafter : rayMul scaled index' = .ok after) (hpart : 0 ≤ ratio) :
    2 * ray * |supply * (after - before) - premium * before| ≤
      supply * (2 * ray + scaled + before + ratio) := by
  have hsupply : 0 ≤ supply := (mul_nonneg two_pos.le (abs_nonneg _)).trans hratio
  have hscaled : 0 ≤ scaled := (rayMul_ok hbefore).left
  have hvalue : 0 ≤ before := rayMul_nonneg hbefore
  have hnew := abs_rayMul_sub_le hindex
  have hold := abs_rayMul_sub_le hbefore
  have hgrown := abs_rayMul_sub_le hafter
  have hray : 0 < ray := by decide
  have heven : 2 * (ray / 2) = ray := by decide
  apply le_of_mul_le_mul_left _ hray
  calc ray * (2 * ray * |supply * (after - before) - premium * before|)
      = 2 * |ray * ray * (supply * (after - before) - premium * before)| := by
        rw [abs_mul, abs_of_nonneg (mul_pos hray hray).le]
        ring
    _ = 2 * |ray * before * (supply * ratio - premium * ray) +
          (supply * scaled * (ray * index' - (ratio + ray) * index) +
          (supply * ray * (ray * after - scaled * index') -
          supply * (ratio + ray) * (ray * before - scaled * index)))| := by ring_nf
    _ ≤ 2 * (|ray * before * (supply * ratio - premium * ray)| +
          (|supply * scaled * (ray * index' - (ratio + ray) * index)| +
          (|supply * ray * (ray * after - scaled * index')| +
          |supply * (ratio + ray) * (ray * before - scaled * index)|))) := by
        gcongr
        refine (abs_add_le _ _).trans (add_le_add_right ?_ _)
        refine (abs_add_le _ _).trans (add_le_add_right ?_ _)
        exact abs_sub _ _
    _ = ray * before * (2 * |supply * ratio - premium * ray|) +
          (supply * scaled * (2 * |ray * index' - (ratio + ray) * index|) +
          (supply * ray * (2 * |ray * after - scaled * index'|) +
          supply * (ratio + ray) * (2 * |ray * before - scaled * index|))) := by
        rw [abs_mul (ray * before), abs_mul (supply * scaled), abs_mul (supply * ray),
          abs_mul (supply * (ratio + ray)), abs_of_nonneg (mul_nonneg hray.le hvalue),
          abs_of_nonneg (mul_nonneg hsupply hscaled), abs_of_nonneg (mul_nonneg hsupply hray.le),
          abs_of_nonneg (mul_nonneg hsupply (add_nonneg hpart hray.le))]
        ring
    _ ≤ ray * before * supply + (supply * scaled * (2 * (ray / 2)) +
          (supply * ray * (2 * (ray / 2)) + supply * (ratio + ray) * (2 * (ray / 2)))) := by
        gcongr
    _ = ray * (supply * (2 * ray + scaled + before + ratio)) := by
        rw [heven]
        ring

end FixedPoint

/-!
# The premium of a token
-/

theorem ReserveIndex.cumulated_eq_ok {r : ReserveIndex} {supply premium index : Int}
    (h : r.cumulated supply premium = .ok index) :
    0 < supply ∧ 0 ≤ premium ∧ ∃ premiumRay supplyRay ratio,
      wadToRay premium = .ok premiumRay ∧ wadToRay supply = .ok supplyRay ∧
      rayDiv premiumRay supplyRay = .ok ratio ∧
      rayMul (ratio + ray) r.liquidityIndex = .ok index := by
  unfold cumulated at h
  split at h
  · cases h
  · next hsupply =>
      split at h
      · cases h
      · next hpremium =>
          rcases Act.exists_of_bind_ok h with ⟨premiumRay, hpremiumRay, h⟩
          rcases Act.exists_of_bind_ok h with ⟨supplyRay, hsupplyRay, h⟩
          rcases Act.exists_of_bind_ok h with ⟨ratio, hratio, hindex⟩
          exact ⟨by omega, by omega, premiumRay, supplyRay, ratio, hpremiumRay, hsupplyRay, hratio,
            hindex⟩

namespace DepositToken

variable {s s' : DepositToken} {premium supply ratio index : Int}

/-- A premium over a supply, their ratio in ray, and the index that it raises the present one to. -/
structure Spreads (s : DepositToken) (premium supply ratio index : Int) : Prop where
  presented : (Act.run totalSupply s).1 = .ok supply
  supply_pos : 0 < supply
  premium_nonneg : 0 ≤ premium
  quotient : ∃ premiumRay supplyRay, wadToRay premium = .ok premiumRay ∧
    wadToRay supply = .ok supplyRay ∧ rayDiv premiumRay supplyRay = .ok ratio
  product : rayMul (ratio + ray) s.index = .ok index
  rises : s.index ≤ index

theorem spreads_injectFlashLoanPremium {caller : String} :
    (injectFlashLoanPremium caller premium).Leaves s
      (fun index s' => s'.index = index ∧ ∃ supply ratio, s.Spreads premium supply ratio index)
      (fun _ _ => True) := by
  unfold injectFlashLoanPremium
  rw [Act.leaves_bind]
  apply leaves_requirePool.mono _ fun _ _ _ => trivial
  intro _ s₀ h
  rcases h with ⟨hsame, _⟩
  subst s₀
  rw [Act.leaves_bind]
  have hread : totalSupply.Leaves s
      (fun supply s₁ => s₁.reserve = s.reserve ∧ (Act.run totalSupply s).1 = .ok supply)
      (fun _ _ => True) := by
    apply Act.leaves_of_run
    · intro supply s₁ hrun
      exact ⟨(keeps_totalSupply.of_ok hrun).reserve, congrArg Prod.fst hrun⟩
    · intro _ _ _
      trivial
  apply hread.mono _ fun _ _ h => h
  intro supply s₁ h
  rcases h with ⟨hreserve, hsupply⟩
  rw [Act.leaves_bind, leaves_onReserve, hreserve]
  unfold ReserveIndex.cumulate
  rw [Act.leaves_bind, Act.leaves_current, Act.leaves_bind, Act.leaves_refusable]
  refine ⟨fun index hindex => ?_, fun _ _ => trivial⟩
  rcases ReserveIndex.cumulated_eq_ok hindex with
    ⟨hpos, hnonneg, premiumRay, supplyRay, ratio, hpremiumRay, hsupplyRay, hratio, hraised⟩
  apply ReserveIndex.leaves_raise.mono _ fun _ _ _ => trivial
  intro committed r h
  rcases h with ⟨rfl, _, hle, hcommitted⟩
  exact ⟨hcommitted, supply, ratio, hsupply, hpos, hnonneg,
    ⟨premiumRay, supplyRay, hpremiumRay, hsupplyRay, hratio⟩, hraised, hle⟩

theorem Spreads.grows (h : s.Spreads premium supply ratio index) {scaled after : Int}
    (hafter : rayMul scaled index = .ok after) :
    ∃ before, rayMul scaled s.index = .ok before ∧
      2 * ray * |supply * (after - before) - premium * before| ≤
        supply * (2 * ray + scaled + before + ratio) := by
  rcases h.quotient with ⟨premiumRay, supplyRay, hpremium, hsupply, hratio⟩
  have hindex : 0 ≤ s.index := (rayMul_ok h.product).right.right.left
  rcases rayMul_of_le_right hafter hindex h.rises with ⟨before, hbefore⟩
  exact ⟨before, hbefore, abs_growth_sub_part_le (abs_ratio_sub_le hpremium hsupply hratio) h.product
    hbefore hafter (rayDiv_nonneg hratio)⟩

theorem Spreads.supply_grows (h : s.Spreads premium supply ratio index) {scaled after : Int}
    (hscaled : (Act.run scaledTotalSupply s).1 = .ok scaled)
    (hafter : rayMul scaled index = .ok after) :
    2 * ray * |after - supply - premium| ≤ 2 * ray + scaled + supply + ratio := by
  rcases h.grows hafter with ⟨before, hbefore, hgrowth⟩
  have hpresented : (Act.run totalSupply s).1 = .ok before :=
    (Portion.outcome_presented .whole).trans (BalanceModel.presentedValue_of_scaledValue
      ((Portion.outcome_scaled .whole).symm.trans hscaled) hbefore)
  cases h.presented.symm.trans hpresented
  apply le_of_mul_le_mul_left _ h.supply_pos
  calc supply * (2 * ray * |after - supply - premium|)
      = 2 * ray * |supply * (after - supply) - premium * supply| := by
        rw [show supply * (after - supply) - premium * supply =
          supply * (after - supply - premium) by ring, abs_mul, abs_of_pos h.supply_pos]
        ring
    _ ≤ supply * (2 * ray + scaled + supply + ratio) := hgrowth

/--
An accepted premium moves no shares and lowers no index, and whatever a view
looks at, one holder or the whole, grows by its part of the premium: the growth
times the supply differs from the premium times the balance by no more than the
four roundings on the way. The whole supply grows by the premium itself. This is
so in both kinds of books and for a premium of any size, wherever the new value
fits a word; while the rate is held, the views afterwards show the new values.
-/
theorem premium_is_spread_pro_rata {caller : String}
    (h : Act.run (injectFlashLoanPremium caller premium) s = (.ok index, s')) :
    s'.model.ledger = s.model.ledger ∧ s'.index = index ∧ s.index ≤ s'.index ∧
      ∃ supply ratio, s.Spreads premium supply ratio index ∧
        (∀ (portion : Portion) (scaled after : Int),
          (Act.run portion.scaled s).1 = .ok scaled → rayMul scaled index = .ok after →
            (∃ before, rayMul scaled s.index = .ok before ∧
              (Act.run portion.presented s).1 = .ok before ∧
              2 * ray * |supply * (after - before) - premium * before| ≤
                supply * (2 * ray + scaled + before + ratio)) ∧
            (s'.model.rate? = s.model.rate? → (Act.run portion.scaled s').1 = .ok scaled ∧
              (Act.run portion.presented s').1 = .ok after)) ∧
        ∀ scaled after, (Act.run scaledTotalSupply s).1 = .ok scaled →
          rayMul scaled index = .ok after →
            2 * ray * |after - supply - premium| ≤ 2 * ray + scaled + supply + ratio := by
  rcases spreads_injectFlashLoanPremium.of_ok h with ⟨hindex, supply, ratio, hspreads⟩
  have hchanges := leaves_injectFlashLoanPremium.of_ok h
  have hledger : s'.model.ledger = s.model.ledger := hchanges.ledger
  refine ⟨hledger, hindex, hchanges.reserve, supply, ratio, hspreads, ?_,
    fun _ _ => hspreads.supply_grows⟩
  intro portion scaled after hscaled hafter
  rw [Portion.outcome_scaled] at hscaled
  constructor
  · rcases hspreads.grows hafter with ⟨before, hbefore, hgrowth⟩
    refine ⟨before, hbefore, ?_, hgrowth⟩
    rw [Portion.outcome_presented]
    exact BalanceModel.presentedValue_of_scaledValue hscaled hbefore
  · intro hheld
    have hscaled' : s'.model.scaledValue (portion.shares s'.model.ledger) = .ok scaled := by
      rw [BalanceModel.scaledValue_congr hheld, hledger]
      exact hscaled
    rw [Portion.outcome_scaled, Portion.outcome_presented, hindex]
    exact ⟨hscaled', BalanceModel.presentedValue_of_scaledValue hscaled' hafter⟩

/-- A premium of three times the supply, over an asset at one and a half and an index above one. -/
theorem premium_is_spread_pro_rata_large_premium :
    let half := ray / 2
    let start : DepositToken :=
      .atOne (.rebasing (.fresh (.feed ⟨"stETH", fun _ => ray + half, 0⟩))) none
    let s := [TokenCall.mint "pool" "Alice" 7 ray, .mint "pool" "bob" 4 ray,
      .raiseIndex (ray + half) "accrual"].foldl (fun s c => c.after s) start
    let s' := (Act.run (injectFlashLoanPremium "pool" 45) s).2
    let index := 6321428571428571428571428571
    Act.run (injectFlashLoanPremium "pool" 45) s = (.ok index, s') ∧
      (Act.run totalSupply s).1 = .ok 14 ∧ (Act.run (balanceOf "alice") s).1 = .ok 9 ∧
      (Act.run (balanceOf "alice") s').1 = .ok 38 ∧
      ∃ supply ratio, s.Spreads 45 supply ratio index ∧
        2 * ray * |supply * (38 - 9) - 45 * 9| ≤ supply * (2 * ray + 6 + 9 + ratio) := by
  intro half start s s' index
  have hinjected : Act.run (injectFlashLoanPremium "pool" 45) s = (.ok index, s') :=
    Act.run_of_outcome (Act.eq_ok_of_toOption (by decide +kernel))
  have hscaled : (Act.run (scaledBalanceOf "alice") s).1 = .ok 6 :=
    Act.eq_ok_of_toOption (by decide +kernel)
  have hbefore : (Act.run (balanceOf "alice") s).1 = .ok 9 :=
    Act.eq_ok_of_toOption (by decide +kernel)
  rcases premium_is_spread_pro_rata hinjected with ⟨_, _, _, supply, ratio, hspreads, hgrows, _⟩
  rcases (hgrows (.ofHolder "alice") 6 38 hscaled (Act.eq_ok_of_toOption (by decide +kernel))).left
    with ⟨before, _, hpresented, hgrowth⟩
  cases hbefore.symm.trans hpresented
  exact ⟨hinjected, Act.eq_ok_of_toOption (by decide +kernel), hbefore,
    Act.eq_ok_of_toOption (by decide +kernel), supply, ratio, hspreads, hgrowth⟩

end DepositToken
end ReserveAccounting
