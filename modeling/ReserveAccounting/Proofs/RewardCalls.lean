import ReserveAccounting.Proofs.RewardStates

/-!
# Calls on a tracker

Registering, distributing and claiming write the state of one reward token or
of one holder. A distribution that is refused for the size of its amounts has
counted the amount already; a refused claim may have marked it as paid.
-/

namespace ReserveAccounting

open FixedPoint

/-- The state of a reward token after an amount was spread over a supply, or parked. -/
def RewardTokenState.Spreads (amount supply : Int) (s s' : RewardTokenState) : Prop :=
  ∃ increment,
    (if 0 < supply then rayDiv (amount + s.undistributed) supply else .ok 0) = .ok increment ∧
    s' = { s with
      lifetimeRewards := s.lifetimeRewards + amount
      undistributed := if increment = 0 then amount + s.undistributed else 0
      lifetimeIndex := s.lifetimeIndex + increment }

namespace RewardTracker

variable {t : RewardTracker} {name x y : String}

/-!
# Registering
-/

def withRegistered (t : RewardTracker) (name : String) : RewardTracker :=
  { t with
    rewardTokens := t.rewardTokens ++ [name]
    tokenStates := t.tokenStates.put name ⟨0, 0, 0, 0⟩
    holderStates := t.holderStates.put name ∅ }

theorem tokenOf_withRegistered (ht : t.Sound) (h : name ∉ t.rewardTokens) :
    (t.withRegistered name).tokenOf y = t.tokenOf y := by
  unfold withRegistered tokenOf
  rw [Table.getD_put]
  split
  · next hy =>
      rw [hy]
      exact (tokenOf_of_not_mem ht h).symm
  · rfl

theorem statesOf_withRegistered (ht : t.Sound) (h : name ∉ t.rewardTokens) :
    (t.withRegistered name).statesOf y = t.statesOf y := by
  unfold withRegistered statesOf
  rw [Table.getD_put]
  split
  · next hy =>
      rw [hy]
      exact (statesOf_of_not_mem ht h).symm
  · rfl

theorem sound_withRegistered (ht : t.Sound) (hsmall : Text.lower name = name)
    (h : name ∉ t.rewardTokens) : (t.withRegistered name).Sound where
  strays := ht.strays
  nodup := by
    apply List.nodup_append.mpr
    refine ⟨ht.nodup, List.nodup_singleton name, ?_⟩
    intro y hy z hz
    rw [List.mem_singleton] at hz
    intro hsame
    rcases hsame with rfl
    exact h (hz ▸ hy)
  small y hy := by
    rcases List.mem_append.mp hy with hy | hy
    · exact ht.small y hy
    · rw [List.mem_singleton.mp hy]
      exact hsmall
  tokens := by
    unfold withRegistered
    rw [Table.keys_put, if_neg (ht.tokens ▸ h), ht.tokens]
  holders := by
    unfold withRegistered
    rw [Table.keys_put, if_neg (ht.holders ▸ h), ht.holders]
  waiting y := by
    rw [tokenOf_withRegistered ht h]
    exact ht.waiting y
  accounts y := by
    rw [statesOf_withRegistered ht h]
    exact ht.accounts y

theorem leaves_register (ht : t.Sound) {token : String} :
    (register token).Leaves t
      (fun _ t' => Text.lower token ∈ t'.rewardTokens ∧ (t' = t ∨
        Text.lower token ∉ t.rewardTokens ∧ t' = t.withRegistered (Text.lower token)))
      (fun _ t' => t' = t) := by
  unfold register
  rw [Act.leaves_bind, Act.leaves_current, Act.leaves_ite, Table.contains_iff_mem_keys, ht.tokens]
  constructor
  · intro hmem
    exact ⟨hmem, Or.inl rfl⟩
  · intro hnew
    rw [Act.leaves_bind, Act.leaves_faulty]
    refine ⟨fun full _ => ?_, fun _ _ => rfl⟩
    rw [Act.leaves_ite]
    refine ⟨fun _ => rfl, fun _ => ⟨?_, Or.inr ⟨hnew, ?_⟩⟩⟩
    · exact List.mem_append_right _ (List.mem_singleton.mpr rfl)
    · unfold withRegistered
      rw [ht.strays]
      rfl

/-!
# Writing the state of a token
-/

def withToken (t : RewardTracker) (name : String) (s : RewardTokenState) : RewardTracker :=
  { t with tokenStates := t.tokenStates.put name s }

theorem tokenOf_withToken (s : RewardTokenState) :
    (t.withToken name s).tokenOf y = if y = name then s else t.tokenOf y := by
  unfold tokenOf withToken
  rw [Table.getD_put]

theorem withToken_withToken (s s' : RewardTokenState) :
    (t.withToken name s).withToken name s' = t.withToken name s' := by
  unfold withToken
  rw [Table.put_put]

theorem sound_withToken (ht : t.Sound) (h : name ∈ t.rewardTokens) {s : RewardTokenState}
    (hwaiting : 0 ≤ s.undistributed) : (t.withToken name s).Sound where
  strays := ht.strays
  nodup := ht.nodup
  small := ht.small
  tokens := by
    unfold withToken
    rw [Table.keys_put, if_pos (ht.tokens ▸ h)]
    exact ht.tokens
  holders := ht.holders
  waiting y := by
    rw [tokenOf_withToken]
    split
    · exact hwaiting
    · exact ht.waiting y
  accounts := ht.accounts

theorem leaves_writeToken (ht : t.Sound) {s : RewardTokenState} {figures : List TokenFigure}
    {answered : Unit → RewardTracker → Prop} {failed : Fault → RewardTracker → Prop} :
    (writeToken name s figures).Leaves t answered failed ↔ answered () (t.withToken name s) := by
  have hstate : { t with
      tokenStates := t.tokenStates.put name s
      strays := t.strays.without (figures.map (RewardPlace.ofToken name)).contains } =
        t.withToken name s := by
    unfold withToken
    rw [ht.strays, Strays.without_nil, ← ht.strays]
  unfold writeToken
  rw [Act.leaves_update, hstate]

/--
A distribution spreads its amount or parks it. One that is refused after its
amount was counted is refused for the size of the amounts.
-/
theorem leaves_distribute (ht : t.Sound) {token : String} {amount supply : Int} :
    (distribute token amount supply).Leaves t
      (fun _ t' => 0 ≤ amount ∧ Text.lower token ∈ t.rewardTokens ∧
        ∃ s, (t.tokenOf (Text.lower token)).Spreads amount supply s ∧
          t' = t.withToken (Text.lower token) s)
      (fun e t' => ¬ (0 ≤ amount ∧ Text.lower token ∈ t.rewardTokens) ∧ t' = t ∨
        0 ≤ amount ∧ Text.lower token ∈ t.rewardTokens ∧
        t' = t.withToken (Text.lower token) { t.tokenOf (Text.lower token) with
          lifetimeRewards := (t.tokenOf (Text.lower token)).lifetimeRewards + amount } ∧
        ∃ r, e = .refused r ∧ r.kind = .overflow) := by
  unfold distribute
  rw [Act.leaves_ite]
  refine ⟨fun hamount => Or.inl ⟨fun h => by omega, rfl⟩, fun hamount => ?_⟩
  have hnonneg : 0 ≤ amount := by omega
  rw [Act.leaves_bind, Act.leaves_current, Act.leaves_bind, Act.leaves_faulty]
  refine ⟨fun s hs => ?_, fun _ hunknown => Or.inl ⟨fun h => ?_, rfl⟩⟩
  rotate_left
  · rw [tokenState_of_mem ht h.right] at hunknown
    cases hunknown
  have hmem := mem_of_tokenState ht hs
  rw [tokenState_of_mem ht hmem] at hs
  cases hs
  have hwaiting := ht.waiting (Text.lower token)
  generalize t.tokenOf (Text.lower token) = s at hwaiting ⊢
  simp only [tokenFigure_of_sound ht, TokenFigure.ofState]
  rw [Act.leaves_bind, Act.leaves_faulty]
  refine ⟨?_, fun _ h => by cases h⟩
  intro _ hleft
  rcases hleft with ⟨⟩
  rw [Act.leaves_bind, leaves_writeToken ht, Act.leaves_bind, Act.leaves_faulty]
  refine ⟨?_, fun _ h => by cases h⟩
  intro _ hleft
  rcases hleft with ⟨⟩
  have hreceived : (t.withToken (Text.lower token)
      { s with lifetimeRewards := s.lifetimeRewards + amount }).Sound :=
    sound_withToken ht hmem hwaiting
  rw [Act.leaves_bind, Act.leaves_ofRefusable]
  constructor
  · intro increment hincrement
    rw [Act.leaves_ite]
    constructor
    · intro hsame
      rcases hsame with rfl
      rw [Act.leaves_bind, leaves_writeToken hreceived, withToken_withToken]
      refine ⟨hnonneg, hmem, _, ⟨0, hincrement, ?_⟩, rfl⟩
      rw [if_pos rfl, Int.add_zero]
    · intro hzero
      have hspread : (t.withToken (Text.lower token)
          { s with lifetimeRewards := s.lifetimeRewards + amount, undistributed := 0 }).Sound :=
        sound_withToken ht hmem (Int.le_refl 0)
      rw [Act.leaves_bind, leaves_writeToken hreceived, withToken_withToken, Act.leaves_bind,
        Act.leaves_faulty]
      refine ⟨?_, fun _ h => by cases h⟩
      intro _ hleft
      rcases hleft with ⟨⟩
      rw [Act.leaves_bind, leaves_writeToken hspread, withToken_withToken]
      refine ⟨hnonneg, hmem, _, ⟨increment, hincrement, ?_⟩, rfl⟩
      rw [if_neg hzero]
  · intro r hr
    by_cases hsupply : 0 < supply
    · rw [if_pos hsupply] at hr
      have hdividend : 0 ≤ amount + s.undistributed := by omega
      rcases rayDiv_error hdividend hsupply hr with ⟨hkind, hfault⟩
      exact Or.inr ⟨hnonneg, hmem, rfl, r, hfault, hkind⟩
    · rw [if_neg hsupply] at hr
      cases hr

theorem leaves_claim (ht : t.Sound) {holder token : String} {factor : Int} :
    (claim holder token factor).Leaves t
      (fun c t' => Text.lower token ∈ t.rewardTokens ∧
        c.claimable = (t.stateOf (Text.lower token) (Text.lower holder)).claimable ∧
        t' = t.withHolder (Text.lower token) (Text.lower holder)
          { t.stateOf (Text.lower token) (Text.lower holder) with
            claimed := (t.stateOf (Text.lower token) (Text.lower holder)).accrued })
      (fun _ t' => t' = t ∨ Text.lower token ∈ t.rewardTokens ∧
        t' = t.withHolder (Text.lower token) (Text.lower holder)
          { t.stateOf (Text.lower token) (Text.lower holder) with
            claimed := (t.stateOf (Text.lower token) (Text.lower holder)).accrued }) := by
  unfold claim
  rw [Act.leaves_ite]
  refine ⟨fun _ => Or.inl rfl, fun _ => ?_⟩
  rw [Act.leaves_bind, Act.leaves_current, Act.leaves_bind]
  apply (leaves_openHolderState ht).mono
  · intro _ t' hleft
    rcases hleft with ⟨hmem, rfl, rfl⟩
    have hopened := sound_withHolder ht hmem (Text.lower_lower holder)
      (t.stateOf (Text.lower token) (Text.lower holder))
    simp only [holderFigure_of_sound ht]
    rw [Act.leaves_bind, Act.leaves_faulty]
    refine ⟨?_, fun _ h => by cases h⟩
    intro _ hleft
    rcases hleft with ⟨⟩
    rw [Act.leaves_bind, Act.leaves_faulty]
    refine ⟨?_, fun _ h => by cases h⟩
    intro _ hleft
    rcases hleft with ⟨⟩
    rw [Act.leaves_bind, leaves_writeHolder hopened rfl, withHolder_withHolder, Act.leaves_bind,
      Act.leaves_refusable]
    exact ⟨fun _ _ => ⟨hmem, rfl, rfl⟩, fun _ _ => Or.inr ⟨hmem, rfl⟩⟩
  · intro _ t' hleft
    rcases hleft with ⟨_, rfl⟩
    exact Or.inl rfl

theorem leaves_recordTreasuryCut (ht : t.Sound) {token : String} {amount : Int} :
    (recordTreasuryCut token amount).Leaves t
      (fun _ t' => Text.lower token ∈ t.rewardTokens ∧
        t' = t.withToken (Text.lower token) { t.tokenOf (Text.lower token) with
          treasuryClaimed := (t.tokenOf (Text.lower token)).treasuryClaimed + amount })
      (fun _ t' => Text.lower token ∉ t.rewardTokens ∧ t' = t) := by
  unfold recordTreasuryCut
  rw [Act.leaves_bind, Act.leaves_current, Act.leaves_bind, Act.leaves_faulty]
  refine ⟨fun s hs => ?_, fun e he => ⟨fun hmem => ?_, rfl⟩⟩
  rotate_left
  · rw [tokenState_of_mem ht hmem] at he
    cases he
  have hmem := mem_of_tokenState ht hs
  rw [tokenState_of_mem ht hmem] at hs
  cases hs
  rw [Act.leaves_bind, tokenFigure_of_sound ht, Act.leaves_faulty]
  refine ⟨?_, fun _ h => by cases h⟩
  intro _ hleft
  rcases hleft with ⟨⟩
  rw [leaves_writeToken ht]
  exact ⟨hmem, rfl⟩

end RewardTracker
end ReserveAccounting
