import ReserveAccounting.Proofs.RoundTrips

/-!
# What a deposit is credited

A deposit over an asset is booked in shares that are rounded down, and is seen
through a product that is rounded to the nearest, together with all shares that
were there before. Whatever those were, a scaled view rises by no more than the
deposit has paid for, and lacks at most the whole units of one share and a unit.
-/

namespace ReserveAccounting

open FixedPoint
open DepositToken (Portion)

namespace RebasingLedger

variable {w w' : RebasingLedger} {holder : String} {amount index rate n : Int} {first : Bool}
  {portion : Portion}

def IsCredited (holder : String) (portion : Portion) : Prop :=
  portion = .ofHolder holder ∨ portion = .whole

theorem IsCredited.shares_eq {l l' : ShareLedger} (h : IsCredited holder portion)
    (hcredits : l.Credits (Text.lower holder) n l') : portion.shares l' = portion.shares l + n := by
  rcases h with rfl | rfl
  · change l'.sharesOf holder = l.sharesOf holder + n
    rw [ShareLedger.sharesOf_eq_held, hcredits.held_eq, if_pos rfl, ShareLedger.sharesOf_eq_held]
  · exact hcredits.totalShares_eq

theorem rayMul_of_scaledIn {value : Int} (hrate : (Act.run snapshot w).1 = .ok rate)
    (hview : (Act.run portion.scaledIn w).1 = .ok value) :
    rayMul (portion.shares w.ledger) rate = .ok value := by
  rw [portion.outcome_scaledIn] at hview
  have hread : (BalanceModel.rebasing w).rate? = some (.ok rate) := congrArg some hrate
  exact BalanceModel.rayMul_of_scaledValue hread hview

/--
After a deposit the scaled view of its holder, and that of the whole, has risen by
no more than the quotient of the amount by the index, and by no less than that
without the whole units of the rate and one unit more.
-/
theorem deposit_credits_what_shares_cover
    (hrun : Act.run (deposit holder amount index) w = (.ok first, w'))
    (hrate : (Act.run snapshot w).1 = .ok rate) (hsame : (Act.run snapshot w').1 = .ok rate) :
    ∃ scaled, rayDiv amount index = .ok scaled ∧
      ∀ portion, IsCredited holder portion → ∀ before after,
        (Act.run portion.scaledIn w).1 = .ok before →
        (Act.run portion.scaledIn w').1 = .ok after →
          scaled - rate / ray - 1 ≤ after - before ∧ after - before ≤ scaled := by
  rcases answers_deposit.of_ok hrun with ⟨n, ⟨rate', scaled, hrate', hscaled, hshares⟩, hcredits⟩
  cases hrate.symm.trans hrate'
  refine ⟨scaled, hscaled, fun portion hcredited before after hbefore hafter => ?_⟩
  have hold := rayMul_of_scaledIn hrate hbefore
  have hnew := rayMul_of_scaledIn hsame hafter
  rw [hcredited.shares_eq hcredits] at hnew
  have hmost := rayMul_add_rayDivFloor_le hshares hold hnew
  exact ⟨le_rayMul_add_rayDivFloor hshares hold hnew, by omega⟩

/-- At a rate of 2.9 a deposit of eight on top of four shares is credited five, the least there is. -/
theorem deposit_credits_what_shares_cover_on_top_of_four :
    let rate := 29 * ray / 10
    let w : RebasingLedger := { fresh (.feed ⟨"stETH", fun _ => rate, 0⟩) with
      ledger := ⟨.ofList [("alice", 4), ("bob", 2)], 6⟩ }
    ∃ w', Act.run (deposit "Alice" 8 ray) w = (.ok false, w') ∧
      (Act.run snapshot w).1 = .ok rate ∧ (Act.run snapshot w').1 = .ok rate ∧
      ∃ scaled, rayDiv 8 ray = .ok scaled ∧ scaled = 8 ∧
        (Act.run (scaledBalanceOf "Alice") w).1 = .ok 12 ∧
        (Act.run (scaledBalanceOf "Alice") w').1 = .ok 17 ∧
        scaled - rate / ray - 1 ≤ 17 - 12 ∧ (17 : Int) - 12 ≤ scaled := by
  intro rate w
  have hbooked : (Act.run (deposit "Alice" 8 ray) w).1 = .ok false :=
    Act.eq_ok_of_toOption (by decide +kernel)
  have hrun := Act.run_of_outcome hbooked
  have hrate : (Act.run snapshot w).1 = .ok rate := Act.eq_ok_of_toOption (by decide +kernel)
  have hsame : (Act.run snapshot (Act.run (deposit "Alice" 8 ray) w).2).1 = .ok rate :=
    Act.eq_ok_of_toOption (by decide +kernel)
  have hbefore : (Act.run (scaledBalanceOf "Alice") w).1 = .ok 12 :=
    Act.eq_ok_of_toOption (by decide +kernel)
  have hafter : (Act.run (scaledBalanceOf "Alice") (Act.run (deposit "Alice" 8 ray) w).2).1 =
      .ok 17 := Act.eq_ok_of_toOption (by decide +kernel)
  rcases deposit_credits_what_shares_cover hrun hrate hsame with ⟨scaled, hscaled, hcredited⟩
  have height : rayDiv 8 ray = .ok 8 := Act.eq_ok_of_toOption (by decide +kernel)
  cases height.symm.trans hscaled
  exact ⟨_, hrun, hrate, hsame, 8, hscaled, rfl, hbefore, hafter,
    hcredited (.ofHolder "Alice") (Or.inl rfl) 12 17 hbefore hafter⟩

end RebasingLedger
end ReserveAccounting
