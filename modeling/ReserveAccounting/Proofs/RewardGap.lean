import Mathlib.Algebra.BigOperators.Group.Finset.Piecewise
import Mathlib.Algebra.BigOperators.Ring.Finset
import ReserveAccounting.Proofs.Checkpoints
import ReserveAccounting.Proofs.RewardSpecs

/-!
# The gap between earned and spread rewards

What accounts have earned in a reward token, taken exactly, would be what was
spread over them. Every checkpoint rounds once, to the nearest unit, and moves
the two apart by half a ray at most.
-/

namespace ReserveAccounting

open FixedPoint

namespace RewardTracker

variable {t t' : RewardTracker} {name x : String} {basisOf basisOf' : String → Int}
  {U : Finset String}

/-- What an account has earned in a reward token, in rays: accrued, and growing since. -/
def earning (t : RewardTracker) (name : String) (basisOf : String → Int) (x : String) : Int :=
  ray * (t.stateOf name x).accrued +
    basisOf x * ((t.tokenOf name).lifetimeIndex - (t.stateOf name x).index)

/-- What has been spread of a reward token, in rays. -/
def spread (t : RewardTracker) (name : String) : Int :=
  ray * ((t.tokenOf name).lifetimeRewards - (t.tokenOf name).undistributed)

/-- How much more some accounts have earned than was spread. -/
def gap (t : RewardTracker) (name : String) (basisOf : String → Int) (U : Finset String) : Int :=
  ∑ x ∈ U, t.earning name basisOf x - t.spread name

/-!
# What keeps the gap
-/

theorem earning_congr (h : t.SameEarnings t') :
    t'.earning name basisOf x = t.earning name basisOf x := by
  unfold earning
  rw [h.index, h.seen, h.accrued]

theorem gap_congr (h : t.SameEarnings t') : t'.gap name basisOf U = t.gap name basisOf U := by
  unfold gap spread
  rw [h.received, h.waiting]
  congr 1
  exact Finset.sum_congr rfl fun x _ => earning_congr h

theorem gap_basis (h : ∀ x ∈ U, basisOf' x = basisOf x ∨ t.Settled name x) :
    t.gap name basisOf' U = t.gap name basisOf U := by
  unfold gap
  congr 1
  apply Finset.sum_congr rfl
  intro x hx
  unfold earning
  rcases h x hx with hsame | hsettled
  · rw [hsame]
  · rw [hsettled, Int.sub_self, Int.mul_zero, Int.mul_zero]

theorem earning_withHolder (s : HolderRewardState) (y z : String) :
    (t.withHolder y z s).earning name basisOf x =
      if name = y ∧ x = z then
        ray * s.accrued + basisOf x * ((t.tokenOf name).lifetimeIndex - s.index)
      else t.earning name basisOf x := by
  unfold earning
  rw [stateOf_withHolder, tokenOf_withHolder]
  split <;> rfl

theorem gap_withHolder (s : HolderRewardState) (y : String) :
    (t.withHolder y x s).gap name basisOf U = t.gap name basisOf U +
      if name = y ∧ x ∈ U then
        ray * s.accrued + basisOf x * ((t.tokenOf name).lifetimeIndex - s.index) -
          t.earning name basisOf x
      else 0 := by
  have hearning : ∀ z ∈ U, (t.withHolder y x s).earning name basisOf z =
      t.earning name basisOf z + if z = x then
        (if name = y then
          ray * s.accrued + basisOf x * ((t.tokenOf name).lifetimeIndex - s.index) -
            t.earning name basisOf x
        else 0) else 0 := by
    intro z _
    rw [earning_withHolder]
    by_cases hz : z = x
    · subst hz
      by_cases hname : name = y
      · rw [if_pos ⟨hname, rfl⟩, if_pos rfl, if_pos hname]
        omega
      · rw [if_neg fun h => hname h.left, if_pos rfl, if_neg hname]
        omega
    · rw [if_neg fun h => hz h.right, if_neg hz]
      omega
  have hspread : (t.withHolder y x s).spread name = t.spread name := rfl
  unfold gap
  rw [Finset.sum_congr rfl hearning, Finset.sum_add_distrib, Finset.sum_ite_eq', hspread]
  by_cases hx : x ∈ U
  · by_cases hname : name = y
    · rw [if_pos hx, if_pos hname, if_pos ⟨hname, hx⟩]
      omega
    · rw [if_pos hx, if_neg hname, if_neg fun h => hname h.left]
      omega
  · rw [if_neg hx, if_neg fun h => hx h.right]
    omega

theorem gap_withHolder_stateOf (y : String) :
    (t.withHolder y x (t.stateOf y x)).gap name basisOf U = t.gap name basisOf U := by
  rw [gap_withHolder]
  split
  · next h =>
      rw [h.left]
      unfold earning
      omega
  · omega

/-!
# Counting checkpoints
-/

/-- One for a checkpoint in a reward token that is executed to its end, else none. -/
def checkpointCount (name holder token : String) (basis : Int) (t : RewardTracker) : Nat :=
  match Act.run (checkpoint holder token basis) t with
  | (.ok _, _) => if Text.lower token = name then 1 else 0
  | (.error _, _) => 0

def checkpointAllCount (name holder : String) (basis : Int) (t : RewardTracker) : Nat :=
  Act.tally (t.checkpointListed holder basis)
    (fun token => checkpointCount name holder token basis) t.rewardTokens t

def checkpointHoldersCount (name : String) (basisOf : String → Int) (accounts : List String)
    (t : RewardTracker) : Nat :=
  Act.tally (saveAndCheckpoint basisOf)
    (fun holder => checkpointAllCount name holder (basisOf holder)) accounts.eraseDups t

theorem abs_gap_checkpoint_le (ht : t.Sound) {token : String} (hx : Text.lower x = x) :
    |(Act.run (checkpoint x token (basisOf x)) t).2.gap name basisOf U - t.gap name basisOf U| ≤
      ray / 2 * checkpointCount name x token (basisOf x) t := by
  unfold checkpointCount
  rcases hrun : Act.run (checkpoint x token (basisOf x)) t with ⟨outcome, t'⟩
  cases outcome with
  | ok _ =>
      rcases (leaves_checkpoint ht).of_ok hrun with ⟨hmem, s, ⟨earned, hearned, rfl⟩, rfl⟩
      rw [hx] at hearned ⊢
      dsimp only
      rw [gap_withHolder, add_sub_cancel_left]
      by_cases hname : name = Text.lower token
      · subst hname
        rw [if_pos rfl]
        split
        · have hrounding := abs_rayMul_sub_le hearned
          unfold earning
          dsimp only
          rw [Int.sub_self, Int.mul_zero, mul_add, Nat.cast_one, mul_one]
          convert hrounding using 2
          omega
        · simp [ray]
      · rw [if_neg fun h => hname h.left, if_neg (Ne.symm hname)]
        simp
  | error _ =>
      have hgap : t'.gap name basisOf U = t.gap name basisOf U := by
        rcases (leaves_checkpoint ht).of_error hrun with rfl | ⟨_, rfl⟩
        · rfl
        · exact gap_withHolder_stateOf _
      rw [hgap]
      simp

theorem sound_checkpoint (ht : t.Sound) {token : String} {basis : Int} :
    (Act.run (checkpoint x token basis) t).2.Sound := by
  apply @Act.Leaves.state _ _ (checkpoint x token basis) t Sound
  apply (leaves_checkpoint ht).mono
  · intro _ t' h
    rcases h with ⟨hmem, s, _, rfl⟩
    exact sound_withHolder ht hmem (Text.lower_lower x) s
  · intro _ t' h
    rcases h with rfl | ⟨hmem, rfl⟩
    · exact ht
    · exact sound_withHolder ht hmem (Text.lower_lower x) _

theorem state_checkpointListed (ht : t.Sound) {token : String} {basis : Int} :
    (Act.run (t.checkpointListed x basis token) t').2 =
      (Act.run (checkpoint x token basis) t').2 := by
  unfold checkpointListed
  rw [requireName_of_sound ht]
  change (Act.run (checkpoint x token basis >>= fun _ => pure ()) t').2 = _
  rw [Act.run_bind]
  rcases Act.run (checkpoint x token basis) t' with ⟨outcome, t''⟩
  cases outcome <;> rfl

theorem state_saveAndCheckpoint (ht : t.Sound) :
    (Act.run (saveAndCheckpoint basisOf x) t).2 = (Act.run (checkpointAll x (basisOf x)) t).2 := by
  unfold saveAndCheckpoint
  rw [Act.run_bind_ok (Act.run_current t), saveStates_of_sound ht fun _ h => h]
  change (Act.run (checkpointAll x (basisOf x) >>= fun _ => pure _) t).2 = _
  rw [Act.run_bind]
  rcases Act.run (checkpointAll x (basisOf x)) t with ⟨outcome, t'⟩
  cases outcome <;> rfl

def Within (name : String) (basisOf : String → Int) (U : Finset String) (bound : Int)
    (t t' : RewardTracker) : Prop :=
  |t'.gap name basisOf U - t.gap name basisOf U| ≤ bound

theorem within_checkpointAll (ht : t.Sound) (hx : Text.lower x = x) :
    t.Within name basisOf U (ray / 2 * checkpointAllCount name x (basisOf x) t)
      (Act.run (checkpointAll x (basisOf x)) t).2 := by
  apply @Act.Leaves.state _ _ (checkpointAll x (basisOf x)) t
    (t.Within name basisOf U (ray / 2 * checkpointAllCount name x (basisOf x) t))
  rw [checkpointAll_eq, Act.leaves_bind, Act.leaves_current]
  apply Act.leaves_forEach
  apply @Act.leaves_mapEach_tally _ _ _ _ (t.checkpointListed x (basisOf x))
    (fun token => checkpointCount name x token (basisOf x)) Sound
    (fun t => t.gap name basisOf U) (ray / 2) t.rewardTokens
  · intro token _ t' ht'
    rw [state_checkpointListed ht]
    exact ⟨sound_checkpoint ht', abs_gap_checkpoint_le ht' hx⟩
  · exact ht

theorem within_checkpointHolders (ht : t.Sound) {accounts : List String}
    (hsmall : ∀ x ∈ accounts, Text.lower x = x) :
    t.Within name basisOf U (ray / 2 * checkpointHoldersCount name basisOf accounts t)
      (Act.run (checkpointHolders basisOf accounts) t).2 := by
  apply @Act.Leaves.state _ _ (checkpointHolders basisOf accounts) t
    (t.Within name basisOf U (ray / 2 * checkpointHoldersCount name basisOf accounts t))
  rw [checkpointHolders_eq, Act.leaves_bind]
  apply @Act.leaves_mapEach_tally _ _ _ _ (saveAndCheckpoint basisOf)
    (fun holder => checkpointAllCount name holder (basisOf holder)) Sound
    (fun t => t.gap name basisOf U) (ray / 2) accounts.eraseDups
  · intro x hx t' ht'
    have hsmallx := hsmall x (List.mem_eraseDups.mp hx)
    rw [state_saveAndCheckpoint ht']
    refine ⟨?_, within_checkpointAll ht' hsmallx⟩
    apply @Act.Leaves.state _ _ (checkpointAll x (basisOf x)) t' Sound
    have hsettles := @settles_checkpointAll t' basisOf (fun _ _ => True) x ht' hsmallx
      fun _ _ => trivial
    exact hsettles.mono
      (fun _ _ h => h.left.sound) (fun _ _ h => h.sound)
  · exact ht

end RewardTracker
end ReserveAccounting
