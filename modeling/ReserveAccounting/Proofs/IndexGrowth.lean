import ReserveAccounting.Proofs.Outcomes
import ReserveAccounting.ReserveIndex

/-!
# Growth of the index

An index that may be committed is positive and not below the present one. A
call that raises the index commits such a value or fails and leaves the
reserve as it was.
-/

namespace ReserveAccounting
namespace ReserveIndex

open FixedPoint

variable {r : ReserveIndex}

theorem admits_eq_ok {index : Int} :
    r.admits index = .ok () ↔ 0 < index ∧ r.liquidityIndex ≤ index := by
  unfold admits
  split
  · simp; omega
  · split
    · simp; omega
    · simp; omega

theorem leaves_raise {index : Int} {reason : String} :
    (raise index reason).Leaves r
      (fun committed r' => committed = index ∧ 0 < index ∧ r.liquidityIndex ≤ index ∧
        r'.liquidityIndex = index)
      (fun _ r' => r' = r ∧ ¬ r.admits index = .ok ()) := by
  unfold raise
  rw [Act.leaves_bind, Act.leaves_current, Act.leaves_bind, Act.leaves_refusable]
  constructor
  · intro _ hadmits
    rcases admits_eq_ok.mp hadmits with ⟨hpos, hle⟩
    rw [Act.leaves_ite]
    constructor
    · intro hsame
      exact ⟨rfl, hpos, hle, hsame.symm⟩
    · intro _
      exact ⟨rfl, hpos, hle, rfl⟩
  · intro refusal hrefused
    refine ⟨rfl, ?_⟩
    rw [hrefused]
    intro h
    cases h

theorem leaves_cumulate {totalLiquidity amount : Int} :
    (cumulate totalLiquidity amount).Leaves r
      (fun index r' => 0 < index ∧ r.liquidityIndex ≤ index ∧ r'.liquidityIndex = index)
      (fun _ r' => r' = r) := by
  unfold cumulate
  rw [Act.leaves_bind, Act.leaves_current, Act.leaves_bind, Act.leaves_refusable]
  constructor
  · intro index _
    apply leaves_raise.mono
    · intro committed r' hleft
      rcases hleft with ⟨rfl, hpos, hle, hindex⟩
      exact ⟨hpos, hle, hindex⟩
    · intro _ r' h
      exact h.left
  · intro _ _
    exact rfl

end ReserveIndex
end ReserveAccounting
