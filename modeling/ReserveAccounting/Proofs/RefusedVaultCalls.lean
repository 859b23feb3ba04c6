import ReserveAccounting.Proofs.FailedVaultCalls
import ReserveAccounting.Proofs.LiveAsset
import ReserveAccounting.Proofs.RefusedCalls

/-!
# Refused calls of a vault

A vault collects its rewards before it changes anything, and the collection
stays when the change is refused. So a refused call leaves the shares, the
reserve and the units as they were, and of the rewards of the token it moves no
more than what its own claims move.
-/

namespace ReserveAccounting

open FixedPoint

/-!
# Claims of one account
-/

namespace RewardTracker

variable {t t' t'' : RewardTracker} {account name x token : String}

structure MovesOnly (account : String) (t t' : RewardTracker) : Prop where
  sound : t'.Sound
  rewardTokens : t'.rewardTokens = t.rewardTokens
  tokens : ∀ name, ∃ claimed, t'.tokenOf name = { t.tokenOf name with treasuryClaimed := claimed }
  others : ∀ name x, x ≠ account → t'.stateOf name x = t.stateOf name x

theorem MovesOnly.refl (ht : t.Sound) : MovesOnly account t t where
  sound := ht
  rewardTokens := rfl
  tokens name := ⟨(t.tokenOf name).treasuryClaimed, rfl⟩
  others _ _ _ := rfl

theorem MovesOnly.trans (h : MovesOnly account t t') (h' : MovesOnly account t' t'') :
    MovesOnly account t t'' where
  sound := h'.sound
  rewardTokens := h'.rewardTokens.trans h.rewardTokens
  tokens name := by
    rcases h.tokens name with ⟨_, heq⟩
    rcases h'.tokens name with ⟨claimed, heq'⟩
    exact ⟨claimed, by rw [heq', heq]⟩
  others name x hx := (h'.others name x hx).trans (h.others name x hx)

theorem MovesOnly.of_withHolder (ht : t.Sound) (hmem : name ∈ t.rewardTokens)
    (hx : Text.lower x = x) (s : HolderRewardState) : MovesOnly x t (t.withHolder name x s) where
  sound := sound_withHolder ht hmem hx s
  rewardTokens := rfl
  tokens y := ⟨(t.tokenOf y).treasuryClaimed, rfl⟩
  others y x' hx' := by
    rw [stateOf_withHolder, if_neg fun h => hx' h.right]

theorem movesOnly_checkpoint (ht : t.Sound) (hx : Text.lower x = x) {basis : Int} :
    (checkpoint x token basis).Leaves t (fun _ t' => MovesOnly x t t')
      (fun _ t' => MovesOnly x t t') := by
  apply (leaves_checkpoint ht).mono
  · intro _ t' h
    rw [hx] at h
    rcases h with ⟨hmem, s, _, rfl⟩
    exact MovesOnly.of_withHolder ht hmem hx s
  · intro _ t' h
    rw [hx] at h
    rcases h with rfl | ⟨hmem, rfl⟩
    · exact MovesOnly.refl ht
    · exact MovesOnly.of_withHolder ht hmem hx _

theorem movesOnly_claim (ht : t.Sound) (hx : Text.lower x = x) {factor : Int} :
    (claim x token factor).Leaves t (fun _ t' => MovesOnly x t t')
      (fun _ t' => MovesOnly x t t') := by
  apply (leaves_claim ht).mono
  · intro _ t' h
    rw [hx] at h
    rcases h with ⟨hmem, _, rfl⟩
    exact MovesOnly.of_withHolder ht hmem hx _
  · intro _ t' h
    rw [hx] at h
    rcases h with rfl | ⟨hmem, rfl⟩
    · exact MovesOnly.refl ht
    · exact MovesOnly.of_withHolder ht hmem hx _

theorem movesOnly_recordTreasuryCut (ht : t.Sound) {amount : Int} :
    (recordTreasuryCut token amount).Leaves t (fun _ t' => MovesOnly account t t')
      (fun _ t' => MovesOnly account t t') := by
  apply (leaves_recordTreasuryCut ht).mono
  · intro _ t' h
    rcases h with ⟨hmem, rfl⟩
    refine ⟨sound_withToken ht hmem (ht.waiting _), rfl, fun name => ?_, fun _ _ _ => rfl⟩
    rw [tokenOf_withToken]
    split
    · next heq =>
        rw [heq]
        exact ⟨_, rfl⟩
    · exact ⟨(t.tokenOf name).treasuryClaimed, rfl⟩
  · intro _ t' h
    rcases h with ⟨_, rfl⟩
    exact MovesOnly.refl ht

end RewardTracker

namespace DepositToken

variable {s s' s'' : DepositToken} {α : Type} {account holder token : String}

def PaidTo (account : String) (s s' : DepositToken) : Prop :=
  ∃ p t, s.rewards = some p ∧ s'.rewards = some { p with tracker := t } ∧
    p.tracker.MovesOnly account t

theorem Honest.paidTo (hs : s.Honest) (h : s'.rewards = s.rewards) : PaidTo account s s' := by
  rcases hs.program with ⟨p, hprogram, hp⟩
  exact ⟨p, p.tracker, hprogram, h.trans hprogram, RewardTracker.MovesOnly.refl hp.sound⟩

theorem PaidTo.of_rewards (h : PaidTo account s s') (hsame : s''.rewards = s'.rewards) :
    PaidTo account s s'' := by
  rcases h with ⟨p, t, hprogram, hprogram', hmoves⟩
  exact ⟨p, t, hprogram, hsame.trans hprogram', hmoves⟩

theorem paidTo_onRewards {m : Act RewardTracker α}
    (hm : ∀ t : RewardTracker, t.Sound →
      m.Leaves t (fun _ t' => t.MovesOnly account t') (fun _ t' => t.MovesOnly account t')) :
    Act.Stable (PaidTo account s) (onRewards m) := by
  apply Act.Stable.of_leaves
  intro s₁ h₁
  rcases h₁ with ⟨p, t, hprogram, hprogram', hmoves⟩
  rw [leaves_onRewards hprogram']
  apply (hm t hmoves.sound).mono
  · intro _ t' h
    exact ⟨p, t', hprogram, rfl, hmoves.trans h⟩
  · intro _ t' h
    exact ⟨p, t', hprogram, rfl, hmoves.trans h⟩

theorem paidTo_claim : Act.Stable (PaidTo (Text.lower holder) s) (claim holder token) := by
  apply stable_claim_of_parts
  · intro basis
    exact paidTo_onRewards fun _ ht =>
      RewardTracker.movesOnly_checkpoint ht (Text.lower_lower holder)
  · intro factor
    exact paidTo_onRewards fun _ ht => RewardTracker.movesOnly_claim ht (Text.lower_lower holder)
  · intro amount
    exact paidTo_onRewards fun _ ht => RewardTracker.movesOnly_recordTreasuryCut ht
  · intro s₁ events h₁
    exact h₁

theorem lasting_steady : Lasting Steady :=
  Lasting.of_calls (fun c _ hs => c.steady_after hs) fun _ _ hs h => hs.of_keeps h

theorem lasting_isOver (c : Option (Option SharePool)) : Lasting (IsOver c) where
  mint _ _ _ _ := stable_mint
  burn _ _ _ _ _ := stable_burn
  transfer _ _ _ := stable_transfer
  claim _ _ := stable_claim
  balanceOf _ := stable_balanceOf
  readRate := stable_onModel (BalanceModel.stable_dispatch fun _ =>
    RebasingLedger.stable_snapshot RebasingLedger.stable_exchangeRate)

end DepositToken

namespace StaticVault

variable {v v' : StaticVault} {address : String}

/-!
# What a refused call leaves
-/

/-- What a call that fails leaves of the token: all but what claims of the vault may have moved. -/
structure BacksOut (v : StaticVault) (e : Fault) (v' : StaticVault) : Prop where
  quiet : Quiet v v'
  rewards : e.IsPlain → v.token.PaidTo (Text.lower v.books.address) v'.token

/-- A vault within a call, before its legs: nothing has moved but what it has claimed. -/
def Claiming (address : String) (v v' : StaticVault) : Prop :=
  Quiet v v' ∧
    v'.Over address fun s => s.Steady ∧ v.token.PaidTo (Text.lower address) s

theorem Claiming.refl (hv : v.Over address DepositToken.Steady) : Claiming address v v :=
  ⟨Quiet.refl v, hv.address, ⟨hv.token, hv.token.honest.paidTo rfl⟩, hv.units⟩

theorem Claiming.leg {e : Fault} {s : DepositToken} (h : Claiming address v v')
    (hs : v'.token.BacksOut e s) : BacksOut v e { v' with token := s } := by
  rcases h with ⟨hquiet, hover⟩
  refine ⟨hquiet.trans (Quiet.of_keeps hs), fun hplain => ?_⟩
  rw [← hquiet.address, hover.address]
  exact hover.token.right.of_rewards (hs.rewards hplain)

theorem Claiming.backsOut {e : Fault} (h : Claiming address v v') : BacksOut v e v' :=
  h.leg (DepositToken.BacksOut.refl v'.token e)

theorem bystander_claiming (address : String) (v : StaticVault) : Bystander (Claiming address v) :=
  (bystander_quiet v).and (bystander_over fun token =>
    (DepositToken.lasting_steady.claim address token).and DepositToken.paidTo_claim)

theorem guards_claiming (address : String) (v : StaticVault) :
    Guards v.books.balances (Claiming address v) (BacksOut v) where
  units _ h := h.left.balances
  stands _ _ h := h.backsOut
  reads v₁ v₂ h hreads := by
    rcases h with ⟨hquiet, hover⟩
    refine ⟨hquiet.trans hreads.quiet, ?_⟩
    rcases hreads with ⟨htoken, hbooks⟩
    constructor
    · rw [hbooks]
      exact hover.address
    · exact ⟨hover.token.left.of_keeps htoken, hover.token.right.of_rewards htoken.rewards⟩
    · rw [hbooks]
      exact hover.units
  bystander := bystander_claiming address v
  restored _ _ saved h := ⟨h.quiet.withRestored saved, h.rewards⟩
  mint _ h _ _ _ _ := (DepositToken.backsOut_mint h.right.token.left).mono
    (fun _ _ _ => trivial) (fun _ _ hs => h.leg hs)
  burn _ h _ _ _ _ _ := (DepositToken.backsOut_burn h.right.token.left).mono
    (fun _ _ _ => trivial) (fun _ _ hs => h.leg hs)
  transfer _ h _ _ _ := (DepositToken.backsOut_transfer h.right.token.left).mono
    (fun _ _ _ => trivial) (fun _ _ hs => h.leg hs)

theorem backsOut_deposit {depositor recipient : String} {amount : Int} {fromUnderlying : Bool}
    (hv : v.Over address DepositToken.Steady) :
    (deposit depositor recipient amount fromUnderlying).Leaves v (fun _ _ => True)
      (fun e v' => v.BacksOut e v') :=
  (guards_claiming address v).deposit hv.units (Claiming.refl hv)

theorem backsOut_withdraw {owner recipient : String} {units : Int} {toUnderlying : Bool}
    (hv : v.Over address DepositToken.Steady) :
    (withdraw owner recipient units toUnderlying).Leaves v (fun _ _ => True)
      (fun e v' => v.BacksOut e v') :=
  (guards_claiming address v).withdraw (Claiming.refl hv)

theorem backsOut_withdrawValue {owner recipient : String} {value : Int} {toUnderlying : Bool}
    (hv : v.Over address DepositToken.Steady) :
    (withdrawValue owner recipient value toUnderlying).Leaves v (fun _ _ => True)
      (fun e v' => v.BacksOut e v') :=
  (guards_claiming address v).withdrawValue (Claiming.refl hv)

theorem backsOut_claimRewards {holder token : String} {forceUpdate : Bool}
    (hv : v.Over address DepositToken.Steady) :
    (claimRewards holder token forceUpdate).Leaves v (fun _ _ => True)
      (fun e v' => v.BacksOut e v') :=
  (((bystander_claiming address v).claimRewards_onFault holder token forceUpdate).after v
    (Claiming.refl hv)).mono (fun _ _ _ => trivial) (fun _ _ h => h.backsOut)

end StaticVault
end ReserveAccounting
