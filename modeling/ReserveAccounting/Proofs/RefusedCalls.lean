import ReserveAccounting.Proofs.PaidRewards
import ReserveAccounting.Proofs.RestoredRewards
import ReserveAccounting.Proofs.TransparentRuns

/-!
# Refused calls of a token

A call of a token that is refused leaves the shares, the reserve and the rewards
as they were. Only a call that is refused for the size of an amount may leave
more: a checkpoint or a claim that stops there keeps what it has written before.
-/

namespace ReserveAccounting

open FixedPoint

def Fault.IsPlain (e : Fault) : Prop := ∃ r, e = .refused r ∧ r.kind ≠ .overflow

theorem Fault.IsOverflow.not_isPlain {e : Fault} (h : e.IsOverflow) : ¬ e.IsPlain := by
  rcases h with ⟨r, rfl, hkind⟩
  intro hplain
  rcases hplain with ⟨r', heq, hother⟩
  cases heq
  exact hother hkind

/-!
# Tokens between two calls
-/

namespace DepositToken

variable {s s' : DepositToken} {α β : Type} {accounts : List String}

/-- A token between two calls: honest, with room for its checkpoints, and no rate is pinned. -/
structure Steady (s : DepositToken) : Prop where
  honest : s.Honest
  capped : ∀ p, s.rewards = some p → p.tracker.Capped s.model.ledger.held
  unpinned : s.model.pinned? = none

theorem Steady.of_keeps (hs : s.Steady) (h : s.Keeps (· = s.rewards) s') : s'.Steady where
  honest := hs.honest.of_keeps h
  capped p hp := by
    rw [h.ledger]
    exact hs.capped p (h.rewards.symm.trans hp)
  unpinned := h.alike.right.trans hs.unpinned

end DepositToken

namespace TokenCall

variable {s : DepositToken}

theorem steady_after (c : TokenCall) (hs : s.Steady) : (c.after s).Steady := by
  refine ⟨honest_after c hs.honest, ?_, ?_⟩
  · rcases hs.honest.program with ⟨p, hprogram, hp⟩
    rcases capped_after c hs.honest.shares ⟨p, hprogram, rfl⟩ hp.sound (hs.capped p hprogram) with
      ⟨_, ⟨p', hprogram', rfl⟩, _, hcapped⟩
    intro q hq
    rw [hprogram'] at hq
    cases hq
    exact hcapped
  · exact (atRest_after c ⟨hs.honest.shares.nonneg, hs.unpinned⟩).unpinned

end TokenCall

namespace DepositToken

variable {s s' : DepositToken} {α β : Type} {accounts : List String}

/-!
# Passes that are taken back
-/

/-- A call that leaves the rewards alone when it is refused, unless for the size of an amount. -/
def SparesRewards (s : DepositToken) (m : Act DepositToken α) : Prop :=
  m.Leaves s (fun _ _ => True) (fun e s' => e.IsPlain → s'.rewards = s.rewards)

theorem Steady.restorable (hs : s.Steady) : s.Restorable where
  nonneg := hs.honest.shares.nonneg
  tracker p hprogram := by
    rcases hs.honest.program with ⟨p', hprogram', hp⟩
    rw [hprogram] at hprogram'
    cases hprogram'
    exact hp.sound

theorem RestoresRewards.spares {m : Act DepositToken α} (h : s.RestoresRewards accounts m)
    (hs : s.Steady) (hsmall : ∀ x ∈ accounts, Text.lower x = x) : s.SparesRewards m := by
  apply h.mono (fun _ _ h => h)
  intro e s' hrestored hplain
  rcases hplain with ⟨r, rfl, hkind⟩
  rcases hrestored r rfl with hsame | ⟨p, t', hprogram, hrun⟩
  · exact hsame
  · have hstops := RewardTracker.stops_checkpointHolders (hs.restorable.tracker p hprogram)
      ((hs.capped p hprogram).of_basis fun x hx => Or.inl (rewardBasisOf_of_small hx)) hsmall
      (fun x _ => hs.honest.shares.nonneg (Text.lower x))
    exact absurd ⟨r, rfl, hkind⟩ (hstops.of_error hrun).left.not_isPlain

theorem spares_mint {caller holder : String} {amount index : Int} (hs : s.Steady) :
    s.SparesRewards (mint caller holder amount index) :=
  (restores_mint hs.restorable).spares hs (s.poolPass_small caller holder index)

theorem spares_burn {caller holder receiver : String} {amount index : Int} (hs : s.Steady) :
    s.SparesRewards (burn caller holder receiver amount index) :=
  (restores_burn hs.restorable).spares hs (s.poolPass_small caller holder index)

theorem spares_mintToTreasury {caller : String} {amount index : Int} (hs : s.Steady) :
    s.SparesRewards (mintToTreasury caller amount index) :=
  (restores_mintToTreasury hs.restorable).spares hs
    ((TokenCall.mintToTreasury caller amount index).pass_small s)

theorem spares_transfer {sender recipient : String} {amount : Int} (hs : s.Steady) :
    s.SparesRewards (transfer sender recipient amount) :=
  (restores_transfer hs.restorable).spares hs (s.movePass_small sender recipient)

theorem spares_transferOnLiquidation {caller sender recipient : String} {amount : Int}
    (hs : s.Steady) : s.SparesRewards (transferOnLiquidation caller sender recipient amount) :=
  (restores_transferOnLiquidation hs.restorable).spares hs
    ((TokenCall.transferOnLiquidation caller sender recipient amount).pass_small s)

end DepositToken

/-!
# Refused calls on the rewards
-/

namespace RewardTracker

variable {t : RewardTracker} {x token : String} {basisOf : String → Int}

theorem refused_checkpoint (ht : t.Sound) (h : t.Capped basisOf) (hx : Text.lower x = x)
    (hbasis : 0 ≤ basisOf x) :
    (checkpoint x token (basisOf x)).Leaves t (fun _ _ => True)
      (fun e t' => e.IsPlain → t' = t) := by
  by_cases hmem : Text.lower token ∈ t.rewardTokens
  · exact (stops_checkpoint ht h hmem hx hbasis).mono (fun _ _ h => h)
      (fun _ _ h hplain => absurd hplain h.left.not_isPlain)
  · apply (leaves_checkpoint ht).mono (fun _ _ _ => trivial)
    intro _ t' hleft _
    rcases hleft with rfl | ⟨hmem', _⟩
    · rfl
    · exact absurd hmem' hmem

theorem stops_claim (ht : t.Sound) (hpaid : t.PaysWithin)
    (hmem : Text.lower token ∈ t.rewardTokens) {factor : Int}
    (hfactor : 0 ≤ factor ∧ factor ≤ maxFactor) :
    (claim x token factor).Leaves t (fun _ _ => True) (fun e _ => e.IsOverflow) := by
  unfold claim
  rw [Act.leaves_ite]
  refine ⟨fun h => absurd hfactor h, fun _ => ?_⟩
  rw [Act.leaves_bind, Act.leaves_current, Act.leaves_bind]
  apply (leaves_openHolderState ht).mono
  · intro state t' hleft
    rcases hleft with ⟨_, rfl, rfl⟩
    have hopened := sound_withHolder ht hmem (Text.lower_lower x)
      (t.stateOf (Text.lower token) (Text.lower x))
    simp only [holderFigure_of_sound ht]
    rw [Act.leaves_bind, Act.leaves_faulty]
    refine ⟨?_, fun _ h => by cases h⟩
    intro _ hleft
    rcases hleft with ⟨⟩
    rw [Act.leaves_bind, Act.leaves_faulty]
    refine ⟨?_, fun _ h => by cases h⟩
    intro _ hleft
    rcases hleft with ⟨⟩
    rw [Act.leaves_bind, leaves_writeHolder hopened rfl, Act.leaves_bind, Act.leaves_refusable]
    refine ⟨fun _ _ => trivial, fun r hr => ?_⟩
    have hclaimable := hpaid (Text.lower token) (Text.lower x)
    rcases mulHalfUp_error (Int.sub_nonneg_of_le hclaimable) hfactor.left hr with ⟨hkind, hfault⟩
    exact ⟨r, hfault, hkind⟩
  · intro _ _ h
    exact absurd hmem h.left

end RewardTracker

namespace DepositToken

variable {s s' : DepositToken} {α β : Type} {holder token : String}

theorem spares_claim (hs : s.Steady) : s.SparesRewards (claim holder token) := by
  rcases hs.honest.program with ⟨p, hprogram, hp⟩
  have hrefused := @RewardTracker.refused_checkpoint _ _ token s.model.rewardBasisOf hp.sound
    ((hs.capped p hprogram).of_basis fun x hx => Or.inl (rewardBasisOf_of_small hx))
    (Text.lower_lower holder) (hs.honest.shares.nonneg _)
  apply leaves_claim_of_steps hprogram
  rw [hp.factor_eq]
  apply ((RewardTracker.leaves_checkpoint hp.sound).and
    ((RewardTracker.touches_checkpoint hp.sound hp.paid).and hrefused)).mono
  · intro _ t₁ hleft
    rcases hleft with ⟨⟨hmem, state, _, hwritten⟩, htouches, _⟩
    have hmem₁ : Text.lower token ∈ t₁.rewardTokens := by
      rw [hwritten]
      exact hmem
    refine ⟨fun _ h => (nomatch h), ?_⟩
    intro _ hleft
    cases hleft
    apply ((RewardTracker.leaves_claim htouches.sound).and
      (RewardTracker.stops_claim htouches.sound htouches.paid hmem₁ hp.factor)).mono
    · intro c t₂ hleft
      rcases hleft with ⟨⟨_, _, rfl⟩, _⟩
      have hsound₂ := RewardTracker.sound_withHolder htouches.sound hmem₁
        (Text.lower_lower (Text.lower holder))
      refine ⟨fun _ => ?_, fun _ _ => trivial⟩
      apply (RewardTracker.leaves_recordTreasuryCut (hsound₂ _)).mono
      · intro _ _ _ _
        trivial
      · intro _ _ h
        exact absurd hmem₁ h.left
    · intro e _ h hplain
      exact absurd hplain h.right.not_isPlain
  · intro e t' h hplain
    change some { p with tracker := t' } = s.rewards
    rw [h.right.right hplain, hprogram]

theorem spares_distributeRewards {amount : Int} (hs : s.Steady) :
    s.SparesRewards (distributeRewards token amount) := by
  rcases hs.honest.program with ⟨p, hprogram, hp⟩
  unfold distributeRewards SparesRewards
  rw [Act.leaves_bind, Act.leaves_current, leaves_onRewards hprogram]
  apply (RewardTracker.leaves_distribute hp.sound).mono
  · intro _ _ _
    trivial
  · intro e t' hleft hplain
    rcases hleft with ⟨_, rfl⟩ | ⟨_, _, _, hoverflow⟩
    · rw [hprogram]
    · exact absurd hplain (Fault.IsOverflow.not_isPlain hoverflow)

/-!
# What a refused call leaves
-/

/-- A call that fails keeps the books, and the rewards too unless it stops for size. -/
def BacksOut (s : DepositToken) (e : Fault) (s' : DepositToken) : Prop :=
  s.Keeps (fun rewards => e.IsPlain → rewards = s.rewards) s'

theorem BacksOut.refl (s : DepositToken) (e : Fault) : s.BacksOut e s :=
  Changes.refl rfl rfl fun _ => rfl

theorem Keeps.backsOut (h : s.Keeps (· = s.rewards) s') (e : Fault) : s.BacksOut e s' :=
  h.mono (fun _ h => h) (fun _ h => h) (fun _ h _ => h)

theorem Keeps.trans_backsOut {s'' : DepositToken} {e : Fault} (h : s.Keeps (· = s.rewards) s')
    (h' : s'.BacksOut e s'') : s.BacksOut e s'' :=
  (h.trans h').mono (fun _ h => h) (fun _ h => h)
    (fun _ hrewards hplain => (hrewards hplain).trans h.rewards)

theorem SparesRewards.backsOut {m : Act DepositToken α} {answered : α → DepositToken → Prop}
    {rewarded : Option RewardProgram → Prop} (hspares : s.SparesRewards m)
    (hkeeps : m.Leaves s answered (fun _ s' => s.Keeps rewarded s')) :
    m.Leaves s answered (fun e s' => s.BacksOut e s') := by
  apply (hkeeps.and hspares).mono
  · intro _ _ h
    exact h.left
  · intro e s' h
    exact ⟨h.left.alike, h.left.pool, h.left.treasury, h.left.ledger, h.left.reserve, h.right⟩

theorem backsOut_mint {caller holder : String} {amount index : Int} (hs : s.Steady) :
    (mint caller holder amount index).Leaves s (fun _ _ => True) (fun e s' => s.BacksOut e s') :=
  ((spares_mint hs).backsOut leaves_mint).mono (fun _ _ _ => trivial) (fun _ _ h => h)

theorem backsOut_burn {caller holder receiver : String} {amount index : Int} (hs : s.Steady) :
    (burn caller holder receiver amount index).Leaves s
      (fun _ _ => s.poolPass caller holder index = [Text.lower holder])
      (fun e s' => s.BacksOut e s') :=
  ((spares_burn hs).backsOut leaves_burn).mono (fun _ _ h => h.right) (fun _ _ h => h)

theorem backsOut_mintToTreasury {caller : String} {amount index : Int} (hs : s.Steady) :
    (mintToTreasury caller amount index).Leaves s (fun _ _ => True)
      (fun e s' => s.BacksOut e s') := by
  have hkeeps : (mintToTreasury caller amount index).Leaves s (fun _ _ => True)
      (fun _ s' => s.Keeps (fun _ => True) s') := by
    apply leaves_mintToTreasury.mono (fun _ _ _ => trivial)
    intro _ s' h
    rcases h with ⟨_, rfl⟩ | ⟨_, h⟩
    · exact Changes.refl rfl rfl trivial
    · exact h.mono (fun _ h => h) (fun _ h => h) (fun _ _ => trivial)
  exact (spares_mintToTreasury hs).backsOut hkeeps

theorem backsOut_transfer {sender recipient : String} {amount : Int} (hs : s.Steady) :
    (transfer sender recipient amount).Leaves s (fun _ _ => True)
      (fun e s' => s.BacksOut e s') :=
  ((spares_transfer hs).backsOut (leaves_transfer hs.honest.shares.nonneg)).mono
    (fun _ _ _ => trivial) (fun _ _ h => h)

theorem backsOut_transferOnLiquidation {caller sender recipient : String} {amount : Int}
    (hs : s.Steady) : (transferOnLiquidation caller sender recipient amount).Leaves s
      (fun _ _ => True) (fun e s' => s.BacksOut e s') :=
  ((spares_transferOnLiquidation hs).backsOut
    (leaves_transferOnLiquidation hs.honest.shares.nonneg)).mono
    (fun _ _ _ => trivial) (fun _ _ h => h)

theorem backsOut_distributeRewards {token : String} {amount : Int} (hs : s.Steady) :
    (distributeRewards token amount).Leaves s (fun _ _ => True) (fun e s' => s.BacksOut e s') := by
  have hkeeps : (distributeRewards token amount).Leaves s (fun _ s' => s.Keeps (fun _ => True) s')
      (fun _ s' => s.Keeps (fun _ => True) s') := by
    unfold distributeRewards
    rw [Act.leaves_bind, Act.leaves_current]
    exact keeps_onRewards
  exact ((spares_distributeRewards hs).backsOut hkeeps).mono (fun _ _ _ => trivial) (fun _ _ h => h)

theorem backsOut_claim {holder token : String} (hs : s.Steady) :
    (claim holder token).Leaves s (fun _ _ => True) (fun e s' => s.BacksOut e s') :=
  ((spares_claim hs).backsOut keeps_claim).mono (fun _ _ _ => trivial) (fun _ _ h => h)

theorem backsOut_injectFlashLoanPremium {caller : String} {premium : Int} :
    (injectFlashLoanPremium caller premium).Leaves s (fun _ _ => True)
      (fun e s' => s.BacksOut e s') :=
  leaves_injectFlashLoanPremium.mono (fun _ _ _ => trivial) (fun e _ h => h.backsOut e)

end DepositToken
end ReserveAccounting
