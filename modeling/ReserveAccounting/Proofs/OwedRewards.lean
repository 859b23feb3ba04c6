import ReserveAccounting.Proofs.RewardRuns

/-!
# Rewards owed to a holder

What has been paid to a holder and what a claim would pay now is owed to it
together. Distributions raise what is owed; no other call changes it, however
it ends and whoever makes it.
-/

namespace ReserveAccounting

open FixedPoint

namespace DepositToken

variable {s : DepositToken} {t : RewardTracker} {holder token : String} {a : Int}

/-- What a holder has been paid in a reward token, with what a claim would pay. -/
def owed (s : DepositToken) (holder token : String) : Except Fault Int := do
  let claimed ← s.ofTracker (·.claimedOf holder token)
  let claimable ← s.claimableRewards holder token
  .ok (claimed + claimable)

def pending (s : DepositToken) (t : RewardTracker) (holder token : String) : Except Refusal Int :=
  rayMul (s.model.rewardBasisOf holder)
    ((t.tokenOf (Text.lower token)).lifetimeIndex -
      (t.stateOf (Text.lower token) (Text.lower holder)).index)

theorem rewardBasisOf_lower (s : DepositToken) (holder : String) :
    s.model.rewardBasisOf (Text.lower holder) = s.model.rewardBasisOf holder := by
  unfold BalanceModel.rewardBasisOf
  rw [ShareLedger.sharesOf_eq_held, ShareLedger.sharesOf_eq_held, Text.lower_lower]

theorem claimableRewards_eq_ok (hprogram : s.Tracks t) (ht : t.Sound) :
    s.claimableRewards holder token = .ok a ↔
      Text.lower token ∈ t.rewardTokens ∧ ∃ earned, s.pending t holder token = .ok earned ∧
        a = (t.stateOf (Text.lower token) (Text.lower holder)).claimable + earned := by
  rcases hprogram with ⟨program, hrewards, rfl⟩
  unfold claimableRewards
  rw [program_eq_ok.mpr hrewards]
  change (do
    let pending ← program.tracker.previewAccrual holder token (s.model.rewardBasisOf holder)
    let settled ← program.tracker.claimableOf holder token
    .ok (settled + pending) : Except Fault Int) = .ok a ↔ _
  by_cases hmem : Text.lower token ∈ program.tracker.rewardTokens
  · rw [RewardTracker.previewAccrual_of_mem ht _ hmem, RewardTracker.claimableOf_of_mem ht hmem]
    unfold pending
    cases rayMul (s.model.rewardBasisOf holder)
      ((program.tracker.tokenOf (Text.lower token)).lifetimeIndex -
        (program.tracker.stateOf (Text.lower token) (Text.lower holder)).index) with
    | ok earned =>
        simp [Except.mapError, bind, Except.bind, hmem, eq_comm]
    | error r =>
        simp [Except.mapError, bind, Except.bind]
  · rw [RewardTracker.previewAccrual_of_not_mem ht _ hmem]
    simp [bind, Except.bind, hmem]

theorem owed_eq_ok (hprogram : s.Tracks t) (ht : t.Sound) :
    s.owed holder token = .ok a ↔
      Text.lower token ∈ t.rewardTokens ∧ ∃ earned, s.pending t holder token = .ok earned ∧
        a = (t.stateOf (Text.lower token) (Text.lower holder)).accrued + earned := by
  have hclaimable := @claimableRewards_eq_ok s t holder token
  rcases hprogram with ⟨program, hrewards, rfl⟩
  have hread : s.ofTracker (·.claimedOf holder token) = program.tracker.claimedOf holder token := by
    unfold ofTracker
    rw [program_eq_ok.mpr hrewards]
    rfl
  unfold owed
  rw [hread]
  constructor
  · intro h
    cases hclaimed : program.tracker.claimedOf holder token with
    | error e =>
        rw [hclaimed] at h
        cases h
    | ok claimed =>
        cases hview : s.claimableRewards holder token with
        | error e =>
            rw [hclaimed, hview] at h
            cases h
        | ok claimable =>
            rw [hclaimed, hview] at h
            cases h
            rcases (hclaimable ⟨program, hrewards, rfl⟩ ht).mp hview with
              ⟨hmem, earned, hearned, rfl⟩
            rw [RewardTracker.claimedOf_of_mem ht hmem] at hclaimed
            cases hclaimed
            refine ⟨hmem, earned, hearned, ?_⟩
            unfold HolderRewardState.claimable
            omega
  · intro hleft
    rcases hleft with ⟨hmem, earned, hearned, rfl⟩
    have hview := (hclaimable ⟨program, hrewards, rfl⟩ ht).mpr ⟨hmem, earned, hearned, rfl⟩
    rw [RewardTracker.claimedOf_of_mem ht hmem, hview]
    change Except.ok _ = Except.ok _
    congr 1
    unfold HolderRewardState.claimable
    omega

end DepositToken

/-!
# What keeps the sum owed
-/

namespace RewardTracker

variable {t t' t'' : RewardTracker} {name x : String} {basis basis' : Int}

/--
A holder in a reward token whose index stays: its state stays or accrues what
its basis has earned, and the basis stays unless the holder is settled.
-/
structure KeepsOwed (name x : String) (basis basis' : Int) (t t' : RewardTracker) : Prop where
  index : (t'.tokenOf name).lifetimeIndex = (t.tokenOf name).lifetimeIndex
  state : ((t'.stateOf name x).index = (t.stateOf name x).index ∧
      (t'.stateOf name x).accrued = (t.stateOf name x).accrued) ∨
    ((t'.stateOf name x).index = (t.tokenOf name).lifetimeIndex ∧ ∃ earned,
      rayMul basis ((t.tokenOf name).lifetimeIndex - (t.stateOf name x).index) = .ok earned ∧
      (t'.stateOf name x).accrued = (t.stateOf name x).accrued + earned)
  basis : basis' = basis ∨ t'.Settled name x

theorem Settles.keepsOwed {basisOf : String → Int} {p : String → String → Prop}
    (h : Settles basisOf p t t') (hbasis : basis' = basisOf x ∨ t'.Settled name x) :
    KeepsOwed name x (basisOf x) basis' t t' where
  index := by rw [h.differs.tokenOf_eq]
  state := by
    rcases h.states name x with hsame | ⟨earned, hearned, hstate⟩
    · rw [hsame]
      exact Or.inl ⟨rfl, rfl⟩
    · rw [hstate]
      exact Or.inr ⟨rfl, earned, hearned, rfl⟩
  basis := hbasis

theorem SameEarnings.keepsOwed (h : t.SameEarnings t') : KeepsOwed name x basis basis t t' where
  index := h.index name
  state := Or.inl ⟨h.seen name x, h.accrued name x⟩
  basis := Or.inl rfl

theorem KeepsOwed.of_sameEarnings (h : KeepsOwed name x basis basis' t t')
    (hsame : t'.SameEarnings t'') : KeepsOwed name x basis basis' t t'' where
  index := (hsame.index name).trans h.index
  state := by
    rw [hsame.seen, hsame.accrued]
    exact h.state
  basis := by
    unfold Settled
    rw [hsame.seen, hsame.index]
    exact h.basis

theorem KeepsOwed.eq {earned earned' : Int} (h : KeepsOwed name x basis basis' t t')
    (hbefore :
      rayMul basis ((t.tokenOf name).lifetimeIndex - (t.stateOf name x).index) = .ok earned)
    (hafter : rayMul basis' ((t'.tokenOf name).lifetimeIndex - (t'.stateOf name x).index) =
      .ok earned') :
    (t'.stateOf name x).accrued + earned' = (t.stateOf name x).accrued + earned := by
  have hsettled : t'.Settled name x → earned' = 0 := by
    intro hsettled
    rw [hsettled, Int.sub_self] at hafter
    exact eq_zero_of_rayMul_zero hafter
  rcases h.state with ⟨hindex, haccrued⟩ | ⟨hindex, accruing, haccruing, haccrued⟩
  · rcases h.basis with hbasis | hsame
    · rw [h.index, hindex, hbasis, hbefore] at hafter
      cases hafter
      rw [haccrued]
    · have hzero : (t.tokenOf name).lifetimeIndex - (t.stateOf name x).index = 0 := by
        have hseen : (t'.stateOf name x).index = (t'.tokenOf name).lifetimeIndex := hsame
        rw [hindex, h.index] at hseen
        omega
      rw [hzero] at hbefore
      rw [hsettled hsame, eq_zero_of_rayMul_zero hbefore, haccrued]
  · rw [hbefore] at haccruing
    cases haccruing
    rw [hsettled (hindex.trans h.index.symm), haccrued]
    omega

end RewardTracker

namespace TokenCall

variable {s : DepositToken} {t : RewardTracker} {holder token : String}

def Distributes (c : TokenCall) (token : String) : Prop :=
  ∃ spelled amount, c = distributeRewards spelled amount ∧ Text.lower spelled = Text.lower token

theorem settles_checkpointedFor {claimant spelled : String} (ht : t.Sound) :
    t.Settles s.model.rewardBasisOf (fun _ _ => True) (s.checkpointedFor t claimant spelled) := by
  have hcheckpoint := @RewardTracker.settles_checkpoint t s.model.rewardBasisOf
    (fun _ _ => True) (Text.lower claimant) ht spelled (fun _ _ => trivial)
  rw [Text.lower_lower] at hcheckpoint
  apply @Act.Leaves.state _ _ (RewardTracker.checkpoint (Text.lower claimant) spelled
    (s.model.rewardBasisOf (Text.lower claimant))) t
    (t.Settles s.model.rewardBasisOf fun _ _ => True)
  exact hcheckpoint.mono (fun _ _ h => h.left) (fun _ _ h => h)

theorem keepsOwed_after {c : TokenCall} (hs : s.model.ledger.Sound) (hprogram : s.Tracks t)
    (ht : t.Sound) (hc : ¬ c.Distributes token) :
    ∃ t', (c.after s).Tracks t' ∧ t'.Sound ∧
      RewardTracker.KeepsOwed (Text.lower token) (Text.lower holder)
        (s.model.rewardBasisOf (Text.lower holder))
        ((c.after s).model.rewardBasisOf (Text.lower holder)) t t' := by
  have hheldBasis : (c.after s).model.ledger.held (Text.lower holder) =
      s.model.ledger.held (Text.lower holder) →
      (c.after s).model.rewardBasisOf (Text.lower holder) =
        s.model.rewardBasisOf (Text.lower holder) := by
    intro hheld
    unfold BalanceModel.rewardBasisOf
    rw [ShareLedger.sharesOf_eq_held, ShareLedger.sharesOf_eq_held, Text.lower_lower, hheld]
  have hrewardBasis : c.isOfRewards = true → (c.after s).model.rewardBasisOf (Text.lower holder) =
      s.model.rewardBasisOf (Text.lower holder) := by
    intro hkind
    apply hheldBasis
    rw [ledger_after_of_rewards hkind hs]
  have hbooks : c.isOfRewards = false → ∃ t', (c.after s).Tracks t' ∧ t'.Sound ∧
      RewardTracker.KeepsOwed (Text.lower token) (Text.lower holder)
        (s.model.rewardBasisOf (Text.lower holder))
        ((c.after s).model.rewardBasisOf (Text.lower holder)) t t' := by
    intro hkind
    rcases tracks_after_of_books hkind hs hprogram ht with ⟨t', htracks, hpass, hheld⟩
    have hsettles : t.Settles s.model.rewardBasisOf (t.StatesOf (c.pass s)) t' := by
      rcases hpass with rfl | rfl
      · exact RewardTracker.Settles.refl ht
      · exact DepositToken.settles_afterPass ht (c.pass_small s)
    refine ⟨t', htracks, hsettles.sound, hsettles.keepsOwed ?_⟩
    rcases hheld (Text.lower holder) with hsame | hsettled
    · exact Or.inl (hheldBasis hsame)
    · exact Or.inr (hsettled _)
  cases c with
  | registerRewardToken spelled =>
      rcases tracks_after_registerRewardToken spelled hprogram ht with ⟨t', htracks, hpreserves⟩
      rw [hrewardBasis rfl]
      exact ⟨t', htracks, hpreserves.sound, hpreserves.earnings.keepsOwed⟩
  | setReserveFactor caller factor =>
      rw [hrewardBasis rfl]
      exact ⟨t, tracks_after_setReserveFactor caller factor hprogram, ht,
        (RewardTracker.SameEarnings.refl t).keepsOwed⟩
  | claim claimant spelled =>
      rcases tracks_after_claim claimant spelled hprogram ht with ⟨t', htracks, hpreserves⟩
      have hsettles := @settles_checkpointedFor s t claimant spelled ht
      rw [hrewardBasis rfl]
      exact ⟨t', htracks, hpreserves.sound,
        (hsettles.keepsOwed (Or.inl rfl)).of_sameEarnings hpreserves.earnings⟩
  | distributeRewards spelled amount =>
      have hother : Text.lower token ≠ Text.lower spelled :=
        fun h => hc ⟨spelled, amount, rfl, h.symm⟩
      rcases tracks_after (distributeRewards spelled amount) hs hprogram ht with
        ⟨t', htracks, ht', _⟩
      rcases tracks_after_distributeRewards spelled amount hprogram ht with
        ⟨t'', htracks', hwritten⟩
      cases htracks.unique htracks'
      rw [hrewardBasis rfl]
      refine ⟨t', htracks, ht', ?_⟩
      rcases hwritten with rfl | ⟨_, _, state, rfl, _⟩
      · exact (RewardTracker.SameEarnings.refl t').keepsOwed
      · constructor
        · rw [RewardTracker.tokenOf_withToken, if_neg hother]
        · exact Or.inl ⟨rfl, rfl⟩
        · exact Or.inl rfl
  | _ => exact hbooks rfl

theorem owed_after {c : TokenCall} {a b : Int} (hs : s.model.ledger.Sound) (hprogram : s.Tracks t)
    (ht : t.Sound) (hc : ¬ c.Distributes token) (hbefore : s.owed holder token = .ok a)
    (hafter : (c.after s).owed holder token = .ok b) : b = a := by
  rcases @keepsOwed_after s t holder token c hs hprogram ht hc with ⟨t', htracks, ht', hkeeps⟩
  rcases (DepositToken.owed_eq_ok hprogram ht).mp hbefore with ⟨_, earned, hearned, rfl⟩
  rcases (DepositToken.owed_eq_ok htracks ht').mp hafter with ⟨_, earned', hearned', rfl⟩
  unfold DepositToken.pending at hearned hearned'
  rw [← DepositToken.rewardBasisOf_lower] at hearned hearned'
  exact hkeeps.eq hearned hearned'

theorem owed_le_after_distributeRewards {spelled : String} {amount a b : Int}
    (hs : s.model.ledger.Sound) (hprogram : s.Tracks t) (ht : t.Sound)
    (hbefore : s.owed holder token = .ok a)
    (hafter : ((distributeRewards spelled amount).after s).owed holder token = .ok b) : a ≤ b := by
  by_cases hname : Text.lower spelled = Text.lower token
  · rcases tracks_after (distributeRewards spelled amount) hs hprogram ht with ⟨t', htracks, ht', _⟩
    rcases tracks_after_distributeRewards spelled amount hprogram ht with
      ⟨t'', htracks', hwritten⟩
    cases htracks.unique htracks'
    rcases (DepositToken.owed_eq_ok hprogram ht).mp hbefore with ⟨_, earned, hearned, rfl⟩
    rcases (DepositToken.owed_eq_ok htracks ht').mp hafter with ⟨_, earned', hearned', rfl⟩
    have hbasis : ((distributeRewards spelled amount).after s).model.rewardBasisOf =
        s.model.rewardBasisOf := by
      unfold BalanceModel.rewardBasisOf
      rw [ledger_after_of_rewards rfl hs]
    have hstate : ∀ x, t'.stateOf (Text.lower token) x = t.stateOf (Text.lower token) x := by
      intro x
      rcases hwritten with rfl | ⟨_, _, state, rfl, _⟩ <;> rfl
    have hraised : (t.tokenOf (Text.lower token)).lifetimeIndex ≤
        (t'.tokenOf (Text.lower token)).lifetimeIndex := by
      rcases hwritten with rfl | ⟨_, _, state, rfl, ⟨increment, hincrement, rfl⟩ | ⟨_, rfl⟩⟩
      · exact Int.le_refl _
      · have hnonneg : 0 ≤ increment := by
          split at hincrement
          · exact rayDiv_nonneg hincrement
          · cases hincrement
            exact Int.le_refl 0
        rw [RewardTracker.tokenOf_withToken, if_pos hname.symm, hname]
        dsimp only
        omega
      · rw [RewardTracker.tokenOf_withToken, if_pos hname.symm, hname]
    unfold DepositToken.pending at hearned hearned'
    rw [hbasis, hstate] at hearned'
    have hmore := rayMul_mono_right hearned hearned' (by omega)
    rw [hstate]
    omega
  · have hother : ¬ (distributeRewards spelled amount).Distributes token := by
      intro h
      rcases h with ⟨spelled', amount', hsame, hname'⟩
      cases hsame
      exact hname hname'
    exact (owed_after hs hprogram ht hother hbefore hafter).ge

theorem claimableRewards_claim {result : RewardClaim} {s' : DepositToken} (hprogram : s.Tracks t)
    (ht : t.Sound) (hrun : Act.run (DepositToken.claim holder token) s = (.ok result, s')) :
    s.claimableRewards holder token = .ok result.claimable ∧
      s'.claimableRewards holder token = .ok 0 := by
  have htracks := hprogram
  rcases hprogram with ⟨program, hrewards, rfl⟩
  rcases (DepositToken.leaves_claim hrewards ht).of_ok hrun with
    ⟨hkeeps, hmem, ⟨settled, ⟨earned, hearned, hstate⟩, hclaimable⟩, hleft⟩
  rw [DepositToken.rewardBasisOf_lower] at hearned
  constructor
  · apply (DepositToken.claimableRewards_eq_ok htracks ht).mpr
    refine ⟨hmem, earned, hearned, ?_⟩
    rw [hclaimable, hstate]
    unfold HolderRewardState.claimable
    dsimp only
    omega
  · rcases hkeeps.rewards with ⟨t', hpreserves, hrewards'⟩
    rcases hleft _ hrewards' with ⟨hsettled, hzero⟩
    have hkept := (@sound_checkpointedFor s program.tracker holder token ht).right
    apply (DepositToken.claimableRewards_eq_ok ⟨_, hrewards', rfl⟩ hpreserves.sound).mpr
    refine ⟨hpreserves.tokens _ (hkept.symm ▸ hmem), 0, ?_, ?_⟩
    · have hbasis : s'.model.rewardBasisOf holder = s.model.rewardBasisOf holder := by
        unfold BalanceModel.rewardBasisOf
        rw [hkeeps.ledger]
      unfold DepositToken.pending
      rw [hbasis]
      unfold RewardTracker.Settled at hsettled
      dsimp only at hsettled
      rw [hsettled, Int.sub_self]
      exact rayMul_zero_of_ok hearned
    · dsimp only at hzero
      rw [hzero]
      rfl

/--
After any run from empty books and an empty tracker: no call but a distribution
of the token changes what is owed to a holder in it, a distribution never lowers
it, and a claim pays exactly what the view has shown and leaves it at nothing.
-/
theorem owed_preserved {start : DepositToken} {program : RewardProgram}
    (hbooks : start.model.ledger = .empty) (hprogram : start.rewards = some program)
    (htracker : program.tracker = .empty program.tracker.capacity) (calls : List TokenCall)
    (holder token : String) :
    let s := afterAll calls start
    (∀ c : TokenCall, ¬ c.Distributes token → ∀ before after, s.owed holder token = .ok before →
        (c.after s).owed holder token = .ok after → after = before) ∧
      (∀ c : TokenCall, c.Distributes token → ∀ before after, s.owed holder token = .ok before →
        (c.after s).owed holder token = .ok after → before ≤ after) ∧
      ∀ result s', Act.run (DepositToken.claim holder token) s = (.ok result, s') →
        s.claimableRewards holder token = .ok result.claimable ∧
          s'.claimableRewards holder token = .ok 0 := by
  intro s
  have hinvariant : s.model.ledger.Sound ∧ ∃ t, s.Tracks t ∧ t.Sound := by
    apply afterAll_induction (p := fun s => s.model.ledger.Sound ∧ ∃ t, s.Tracks t ∧ t.Sound)
    · intro c s h
      rcases h with ⟨hsound, t, htracks, ht⟩
      rcases tracks_after c hsound htracks ht with ⟨t', htracks', ht', _⟩
      exact ⟨sound_after c hsound, t', htracks', ht'⟩
    · rw [hbooks]
      refine ⟨ShareLedger.sound_empty, program.tracker, ⟨program, hprogram, rfl⟩, ?_⟩
      rw [htracker]
      exact RewardTracker.sound_empty _
  rcases hinvariant with ⟨hsound, t, htracks, ht⟩
  refine ⟨?_, ?_, ?_⟩
  · intro c hc before after hbefore hafter
    exact owed_after hsound htracks ht hc hbefore hafter
  · intro c h before after hbefore hafter
    rcases h with ⟨spelled, amount, rfl, _⟩
    exact owed_le_after_distributeRewards hsound htracks ht hbefore hafter
  · intro result s' hrun
    exact claimableRewards_claim htracks ht hrun

/-- What is owed to a holder of all shares is what was distributed, and calls keep it. -/
theorem owed_preserved_one_holder :
    let program : RewardProgram := .empty 1000
    let start : DepositToken := .atOne (.plain .empty) (some program)
    let calls := [registerRewardToken "REW", mint "pool" "Alice" 3 ray, distributeRewards "rew" 10]
    let s := afterAll calls start
    start.model.ledger = .empty ∧ start.rewards = some program ∧
      program.tracker = .empty program.tracker.capacity ∧ s.owed "alice" "rew" = .ok 10 ∧
      (∀ c : TokenCall, ¬ c.Distributes "rew" → ∀ after,
        (c.after s).owed "alice" "rew" = .ok after → after = 10) ∧
      ∀ result s', Act.run (DepositToken.claim "alice" "rew") s = (.ok result, s') →
        result.claimable = 10 ∧ s'.claimableRewards "alice" "rew" = .ok 0 := by
  intro program start calls s
  have hbooks : start.model.ledger = .empty := rfl
  have hprogram : start.rewards = some program := rfl
  have htracker : program.tracker = .empty program.tracker.capacity := rfl
  have howed : s.owed "alice" "rew" = .ok 10 := Act.eq_ok_of_toOption (by decide +kernel)
  have hclaimable : s.claimableRewards "alice" "rew" = .ok 10 :=
    Act.eq_ok_of_toOption (by decide +kernel)
  rcases owed_preserved hbooks hprogram htracker calls "alice" "rew" with ⟨hkept, _, hclaimed⟩
  refine ⟨hbooks, hprogram, htracker, howed, ?_, ?_⟩
  · intro c hc after hafter
    exact hkept c hc 10 after howed hafter
  · intro result s' hrun
    rcases hclaimed result s' hrun with ⟨hpaid, hleft⟩
    rw [hclaimable] at hpaid
    exact ⟨(Except.ok.inj hpaid).symm, hleft⟩

end TokenCall
end ReserveAccounting
