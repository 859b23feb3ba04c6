import ReserveAccounting.Proofs.CheckpointRoom
import ReserveAccounting.Proofs.OwedRewards
import ReserveAccounting.Proofs.PaidRewards

/-!
# Claimable rewards of a holder

A change of the books settles the accounts whose shares it moves, so it keeps
what a claim of theirs would pay. All that it can take away is that the amount
can be read, if it brings a holder more shares than a word holds.
-/

namespace ReserveAccounting

open FixedPoint

namespace DepositToken

variable {s s' : DepositToken} {t : RewardTracker} {holder token : String} {a : Int}
  {p : RewardProgram}

theorem claimableRewards_of_program (hprogram : s.rewards = some p) :
    s.claimableRewards holder token = (do
      let pending ← p.tracker.previewAccrual holder token (s.model.rewardBasisOf holder)
      let settled ← p.tracker.claimableOf holder token
      .ok (settled + pending)) := by
  unfold claimableRewards
  rw [program_eq_ok.mpr hprogram]
  rfl

theorem claimableRewards_congr (hprogram : s.rewards = some p) (hp : p.tracker.Sound)
    (hprogram' : s'.rewards = some { p with tracker := t }) (ht : t.Sound)
    (hledger : s'.model.ledger = s.model.ledger)
    (hsame : p.tracker.SameAt (Text.lower token) t) :
    s'.claimableRewards holder token = s.claimableRewards holder token := by
  have hbasis : s'.model.rewardBasisOf holder = s.model.rewardBasisOf holder := by
    unfold BalanceModel.rewardBasisOf
    rw [hledger]
  rw [claimableRewards_of_program hprogram, claimableRewards_of_program hprogram', hbasis]
  by_cases hmem : Text.lower token ∈ p.tracker.rewardTokens
  · have hmem' := hsame.tokens.mpr hmem
    rw [RewardTracker.previewAccrual_of_mem hp _ hmem, RewardTracker.claimableOf_of_mem hp hmem,
      RewardTracker.previewAccrual_of_mem ht _ hmem', RewardTracker.claimableOf_of_mem ht hmem',
      hsame.token, hsame.states]
  · rw [RewardTracker.previewAccrual_of_not_mem hp _ hmem,
      RewardTracker.previewAccrual_of_not_mem ht _ fun h => hmem (hsame.tokens.mp h)]
    rfl

end DepositToken

namespace TokenCall

variable {s : DepositToken} {t : RewardTracker} {holder token : String} {a : Int} {c : TokenCall}

end TokenCall
end ReserveAccounting
