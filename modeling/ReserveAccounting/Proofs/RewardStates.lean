import ReserveAccounting.Proofs.Outcomes
import ReserveAccounting.Proofs.Rounding
import ReserveAccounting.Proofs.SmallLetters
import ReserveAccounting.Proofs.Tables
import ReserveAccounting.RewardTracker

/-!
# States of a tracker

A tracker is known by the state of each reward token and by the state of each
holder in it. The laws here say which of these states a call reads and what it
writes, for trackers that calls alone have filled.
-/

namespace ReserveAccounting

open FixedPoint

def HolderRewardState.Accrues (basis index : Int) (s s' : HolderRewardState) : Prop :=
  ∃ earned, rayMul basis (index - s.index) = .ok earned ∧
    s' = { s with accrued := s.accrued + earned, index := index }

namespace RewardTracker

variable {t : RewardTracker} {name x y : String}

def tokenOf (t : RewardTracker) (name : String) : RewardTokenState :=
  t.tokenStates.getD name ⟨0, 0, 0, 0⟩

def statesOf (t : RewardTracker) (name : String) : Table String HolderRewardState :=
  t.holderStates.getD name ∅

/-- The state of a holder in a reward token; one that has none is at the start. -/
def stateOf (t : RewardTracker) (name x : String) : HolderRewardState :=
  (t.statesOf name).getD x .fresh

theorem stateOf_of_not_mem (h : x ∉ (t.statesOf name).keys) : t.stateOf name x = .fresh := by
  unfold stateOf Table.getD
  rw [Table.get?_eq_none_iff.mpr h]
  rfl

/-- Integers at every place, one state for each registered token, and names in small letters. -/
structure Sound (t : RewardTracker) : Prop where
  strays : t.strays = []
  nodup : t.rewardTokens.Nodup
  small : ∀ name ∈ t.rewardTokens, Text.lower name = name
  tokens : t.tokenStates.keys = t.rewardTokens
  holders : t.holderStates.keys = t.rewardTokens
  waiting : ∀ name, 0 ≤ (t.tokenOf name).undistributed
  accounts : ∀ name, ∀ x ∈ (t.statesOf name).keys, Text.lower x = x

theorem sound_empty (capacity : Int) : (empty capacity).Sound where
  strays := rfl
  nodup := List.nodup_nil
  small name hname := by cases hname
  tokens := rfl
  holders := rfl
  waiting name := Int.le_refl 0
  accounts name x hx := by cases hx

theorem tokenOf_of_not_mem (ht : t.Sound) (h : name ∉ t.rewardTokens) :
    t.tokenOf name = ⟨0, 0, 0, 0⟩ := by
  unfold tokenOf Table.getD
  rw [Table.get?_eq_none_iff.mpr (ht.tokens ▸ h)]
  rfl

theorem statesOf_of_not_mem (ht : t.Sound) (h : name ∉ t.rewardTokens) : t.statesOf name = ∅ := by
  unfold statesOf Table.getD
  rw [Table.get?_eq_none_iff.mpr (ht.holders ▸ h)]
  rfl

/-!
# Reading
-/

theorem tokenFigure_of_sound (ht : t.Sound) (token : String) (s : RewardTokenState)
    (f : TokenFigure) : t.tokenFigure token s f = .ok (f.ofState s) := by
  unfold tokenFigure
  rw [ht.strays, Strays.figure_nil]

theorem holderFigure_of_sound (ht : t.Sound) (holder token : String) (s : HolderRewardState)
    (f : HolderFigure) : t.holderFigure holder token s f = .ok (f.ofState s) := by
  unfold holderFigure
  rw [ht.strays, Strays.figure_nil]

theorem get?_tokenStates (ht : t.Sound) (h : name ∈ t.rewardTokens) :
    t.tokenStates.get? name = some (t.tokenOf name) := by
  rcases Table.get?_of_mem_keys (ht.tokens ▸ h) with ⟨s, hs⟩
  rw [hs, tokenOf, Table.getD_of_get? hs]

theorem get?_holderStates (ht : t.Sound) (h : name ∈ t.rewardTokens) :
    t.holderStates.get? name = some (t.statesOf name) := by
  rcases Table.get?_of_mem_keys (ht.holders ▸ h) with ⟨hs, hget⟩
  rw [hget, statesOf, Table.getD_of_get? hget]

theorem tokenState_of_mem (ht : t.Sound) {token : String} (h : Text.lower token ∈ t.rewardTokens) :
    t.tokenState token = .ok (t.tokenOf (Text.lower token)) := by
  unfold tokenState
  rw [get?_tokenStates ht h]

theorem tokenState_of_not_mem (ht : t.Sound) {token : String}
    (h : Text.lower token ∉ t.rewardTokens) :
    t.tokenState token = .error (.ofRefusal (.unknownRewardToken token)) := by
  unfold tokenState
  rw [Table.get?_eq_none_iff.mpr (ht.tokens ▸ h)]

theorem holdersOf_of_mem (ht : t.Sound) (h : name ∈ t.rewardTokens) :
    t.holdersOf name = .ok (t.statesOf name) := by
  unfold holdersOf
  rw [get?_holderStates ht h]

theorem holderState_of_mem (ht : t.Sound) {holder token : String}
    (h : Text.lower token ∈ t.rewardTokens) :
    t.holderState holder token = .ok (t.stateOf (Text.lower token) (Text.lower holder)) := by
  unfold holderState
  rw [tokenState_of_mem ht h, holdersOf_of_mem ht h]
  rfl

theorem mem_of_tokenState (ht : t.Sound) {token : String} {s : RewardTokenState}
    (h : t.tokenState token = .ok s) : Text.lower token ∈ t.rewardTokens := by
  by_contra hmem
  rw [tokenState_of_not_mem ht hmem] at h
  cases h

theorem claimedOf_of_mem (ht : t.Sound) {holder token : String}
    (h : Text.lower token ∈ t.rewardTokens) :
    t.claimedOf holder token = .ok (t.stateOf (Text.lower token) (Text.lower holder)).claimed := by
  unfold claimedOf
  rw [holderState_of_mem ht h]
  exact holderFigure_of_sound ht holder token _ .claimed

theorem claimableOf_of_mem (ht : t.Sound) {holder token : String}
    (h : Text.lower token ∈ t.rewardTokens) :
    t.claimableOf holder token =
      .ok (t.stateOf (Text.lower token) (Text.lower holder)).claimable := by
  unfold claimableOf
  rw [holderState_of_mem ht h]
  change t.claimableIn holder token _ = _
  unfold claimableIn
  rw [holderFigure_of_sound ht, holderFigure_of_sound ht]
  rfl

theorem growthSince_of_sound (ht : t.Sound) (holder token : String) (s : RewardTokenState)
    (h : HolderRewardState) :
    t.growthSince holder token s h = .ok (s.lifetimeIndex - h.index) := by
  unfold growthSince
  rw [tokenFigure_of_sound ht, holderFigure_of_sound ht]
  rfl

theorem previewAccrual_of_mem (ht : t.Sound) {holder token : String} (basis : Int)
    (h : Text.lower token ∈ t.rewardTokens) :
    t.previewAccrual holder token basis =
      (rayMul basis ((t.tokenOf (Text.lower token)).lifetimeIndex -
        (t.stateOf (Text.lower token) (Text.lower holder)).index)).mapError Fault.ofRefusal := by
  unfold previewAccrual
  rw [tokenState_of_mem ht h, holderState_of_mem ht h]
  change (do
    let growth ← t.growthSince holder token _ _
    (rayMul basis growth).mapError Fault.ofRefusal) = _
  rw [growthSince_of_sound ht]
  rfl

theorem previewAccrual_of_not_mem (ht : t.Sound) {holder token : String} (basis : Int)
    (h : Text.lower token ∉ t.rewardTokens) :
    t.previewAccrual holder token basis = .error (.ofRefusal (.unknownRewardToken token)) := by
  unfold previewAccrual
  rw [tokenState_of_not_mem ht h]
  rfl

/-!
# Writing the state of a holder
-/

def withHolder (t : RewardTracker) (name x : String) (s : HolderRewardState) : RewardTracker :=
  { t with holderStates := t.holderStates.put name ((t.statesOf name).put x s) }

@[simp] theorem tokenOf_withHolder (s : HolderRewardState) :
    (t.withHolder name x s).tokenOf y = t.tokenOf y := rfl

theorem statesOf_withHolder (s : HolderRewardState) :
    (t.withHolder name x s).statesOf y =
      if y = name then (t.statesOf name).put x s else t.statesOf y := by
  unfold statesOf withHolder
  rw [Table.getD_put]
  rfl

theorem stateOf_withHolder (s : HolderRewardState) (name' x' : String) :
    (t.withHolder name x s).stateOf name' x' =
      if name' = name ∧ x' = x then s else t.stateOf name' x' := by
  unfold stateOf
  rw [statesOf_withHolder]
  by_cases hname : name' = name
  · subst hname
    rw [if_pos rfl, Table.getD_put]
    simp
  · simp [hname]

theorem withHolder_withHolder (s s' : HolderRewardState) :
    (t.withHolder name x s).withHolder name x s' = t.withHolder name x s' := by
  unfold withHolder statesOf
  simp only [Table.getD_put, if_true, Table.put_put]

theorem sound_withHolder (ht : t.Sound) (h : name ∈ t.rewardTokens) (hx : Text.lower x = x)
    (s : HolderRewardState) : (t.withHolder name x s).Sound where
  strays := ht.strays
  nodup := ht.nodup
  small := ht.small
  tokens := ht.tokens
  holders := by
    unfold withHolder
    rw [Table.keys_put, if_pos (ht.holders ▸ h)]
    exact ht.holders
  waiting := ht.waiting
  accounts name' y hy := by
    rw [statesOf_withHolder] at hy
    split at hy
    · rcases Table.mem_keys_put.mp hy with rfl | hy
      · exact hx
      · exact ht.accounts name y hy
    · exact ht.accounts name' y hy

theorem leaves_writeHolder (ht : t.Sound) {s : HolderRewardState}
    {settle : Strays RewardPlace → Strays RewardPlace} (hsettle : settle [] = [])
    {answered : Unit → RewardTracker → Prop} {failed : Fault → RewardTracker → Prop} :
    (writeHolder name x s settle).Leaves t answered failed ↔
      answered () (t.withHolder name x s) := by
  have hstate : { t with
      holderStates := t.holderStates.put name ((t.holderStates.getD name ∅).put x s)
      strays := settle t.strays } = t.withHolder name x s := by
    unfold withHolder statesOf
    rw [ht.strays, hsettle, ← ht.strays]
  unfold writeHolder
  rw [Act.leaves_update, hstate]

theorem leaves_openHolderState (ht : t.Sound) {holder token : String} :
    (openHolderState holder token).Leaves t
      (fun s t' => Text.lower token ∈ t.rewardTokens ∧
        s = t.stateOf (Text.lower token) (Text.lower holder) ∧
        t' = t.withHolder (Text.lower token) (Text.lower holder) s)
      (fun _ t' => Text.lower token ∉ t.rewardTokens ∧ t' = t) := by
  unfold openHolderState
  rw [Act.leaves_bind, Act.leaves_current, Act.leaves_bind, Act.leaves_faulty]
  by_cases h : Text.lower token ∈ t.rewardTokens
  · rw [holderState_of_mem ht h]
    constructor
    · intro s hs
      cases hs
      rw [Act.leaves_bind, leaves_writeHolder ht rfl]
      exact ⟨h, rfl, rfl⟩
    · intro e he
      cases he
  · have hstate : t.holderState holder token = .error (.ofRefusal (.unknownRewardToken token)) := by
      unfold holderState
      rw [tokenState_of_not_mem ht h]
      rfl
    rw [hstate]
    constructor
    · intro s hs
      cases hs
    · intro e _
      exact ⟨h, rfl⟩

theorem leaves_checkpoint (ht : t.Sound) {holder token : String} {basis : Int} :
    (checkpoint holder token basis).Leaves t
      (fun _ t' => Text.lower token ∈ t.rewardTokens ∧
        ∃ s, (t.stateOf (Text.lower token) (Text.lower holder)).Accrues basis
            (t.tokenOf (Text.lower token)).lifetimeIndex s ∧
          t' = t.withHolder (Text.lower token) (Text.lower holder) s)
      (fun _ t' => t' = t ∨ Text.lower token ∈ t.rewardTokens ∧
        t' = t.withHolder (Text.lower token) (Text.lower holder)
          (t.stateOf (Text.lower token) (Text.lower holder))) := by
  unfold checkpoint
  rw [Act.leaves_bind, Act.leaves_current, Act.leaves_bind, Act.leaves_faulty]
  constructor
  · intro s hs
    have hmem := mem_of_tokenState ht hs
    rw [tokenState_of_mem ht hmem] at hs
    cases hs
    rw [Act.leaves_bind]
    apply (leaves_openHolderState ht).mono
    · intro _ t' hleft
      rcases hleft with ⟨_, rfl, rfl⟩
      have hopened := sound_withHolder ht hmem (Text.lower_lower holder)
        (t.stateOf (Text.lower token) (Text.lower holder))
      simp only [growthSince_of_sound ht, holderFigure_of_sound ht, tokenFigure_of_sound ht]
      rw [Act.leaves_bind, Act.leaves_faulty]
      refine ⟨?_, fun _ h => by cases h⟩
      intro _ hleft
      rcases hleft with ⟨⟩
      rw [Act.leaves_bind, Act.leaves_refusable]
      refine ⟨fun earned hearned => ?_, fun _ _ => Or.inr ⟨hmem, rfl⟩⟩
      rw [Act.leaves_bind, Act.leaves_faulty]
      refine ⟨?_, fun _ h => by cases h⟩
      intro _ hleft
      rcases hleft with ⟨⟩
      rw [Act.leaves_bind, Act.leaves_faulty]
      refine ⟨?_, fun _ h => by cases h⟩
      intro _ hleft
      rcases hleft with ⟨⟩
      rw [Act.leaves_bind, leaves_writeHolder hopened rfl, withHolder_withHolder]
      exact ⟨hmem, _, ⟨earned, hearned, rfl⟩, rfl⟩
    · intro _ t' hleft
      rcases hleft with ⟨_, rfl⟩
      exact Or.inl rfl
  · intro _ _
    exact Or.inl rfl

end RewardTracker
end ReserveAccounting
