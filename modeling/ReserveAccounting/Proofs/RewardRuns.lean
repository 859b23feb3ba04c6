import ReserveAccounting.Proofs.TokenRuns

/-!
# Rewards along a run

What each call of a run makes of the tracker: a change of the books settles the
accounts it is about before their shares move, a claim settles its holder, a
distribution spreads its amount, and nothing else touches what holders earn.
-/

namespace ReserveAccounting

open FixedPoint

namespace RewardTracker

variable {t : RewardTracker} {name x : String}

theorem settled_of_not_mem (ht : t.Sound) (h : name ∉ t.rewardTokens) : t.Settled name x := by
  have htoken : t.tokenOf name = ⟨0, 0, 0, 0⟩ := by
    rw [tokenOf, Table.getD, Table.get?_eq_none_iff.mpr (ht.tokens ▸ h)]
    rfl
  have hstates : t.statesOf name = ∅ := by
    rw [statesOf, Table.getD, Table.get?_eq_none_iff.mpr (ht.holders ▸ h)]
    rfl
  unfold Settled stateOf
  rw [htoken, hstates]
  rfl

end RewardTracker

namespace DepositToken

variable {s : DepositToken} {t : RewardTracker} {accounts : List String}

def Tracks (s : DepositToken) (t : RewardTracker) : Prop :=
  ∃ program, s.rewards = some program ∧ program.tracker = t

theorem Tracks.unique {t' : RewardTracker} (h : s.Tracks t) (h' : s.Tracks t') : t = t' := by
  rcases h with ⟨program, hrewards, rfl⟩
  rcases h' with ⟨program', hrewards', rfl⟩
  rw [hrewards] at hrewards'
  cases hrewards'
  rfl

def afterPass (s : DepositToken) (t : RewardTracker) (accounts : List String) : RewardTracker :=
  (Act.run (RewardTracker.checkpointHolders s.model.rewardBasisOf accounts) t).2

theorem settles_afterPass (ht : t.Sound) (hsmall : ∀ x ∈ accounts, Text.lower x = x) :
    t.Settles s.model.rewardBasisOf (t.StatesOf accounts) (s.afterPass t accounts) := by
  apply @Act.Leaves.state _ _ (RewardTracker.checkpointHolders s.model.rewardBasisOf accounts) t
    (t.Settles s.model.rewardBasisOf (t.StatesOf accounts))
  exact (RewardTracker.settles_checkpointHolders ht hsmall).mono (fun _ _ h => h.right.left)
    (fun _ _ h => h)

theorem Completes.settled (hprogram : s.Tracks t) (ht : t.Sound)
    (hsmall : ∀ x ∈ accounts, Text.lower x = x) (h : s.Completes accounts) {x : String}
    (hx : x ∈ accounts) (name : String) : (s.afterPass t accounts).Settled name x := by
  rcases hprogram with ⟨program, hrewards, rfl⟩
  have hsettles := @settles_afterPass s program.tracker accounts ht hsmall
  by_cases hname : name ∈ program.tracker.rewardTokens
  · rcases h program hrewards with ⟨saved, t', hrun⟩
    have hafter : s.afterPass program.tracker accounts = t' := by
      unfold afterPass
      rw [hrun]
    rw [hafter]
    have hsettles := (RewardTracker.settles_checkpointHolders ht hsmall).of_ok hrun
    exact hsettles.right.right x hx name hname
  · apply RewardTracker.settled_of_not_mem hsettles.sound
    rw [hsettles.differs.rewardTokens]
    exact hname

/-- What a failed call has left of a pass is the whole pass, or nothing. -/
theorem Abandons.rewards_eq {program : RewardProgram} {rewards : Option RewardProgram}
    (hprogram : s.rewards = some program) (ht : program.tracker.Sound)
    (hsmall : ∀ x ∈ accounts, Text.lower x = x) (h : s.Abandons accounts rewards) :
    rewards = some program ∨
      rewards = some { program with tracker := s.afterPass program.tracker accounts } := by
  rcases h with hsame | hpassed | ⟨program', saved, t', hrewards', hrun, hback⟩
  · exact Or.inl (hsame.trans hprogram)
  · right
    unfold passed at hpassed
    rw [hprogram, Option.map_some] at hpassed
    exact hpassed
  · left
    rw [hprogram] at hrewards'
    cases hrewards'
    rcases (RewardTracker.settles_checkpointHolders ht hsmall).of_ok hrun with ⟨hsaves, hsettles, _⟩
    rw [hsaves.restore_eq ht hsettles.differs] at hback
    exact hback

theorem Passes.rewards_eq {program : RewardProgram} {rewards : Option RewardProgram}
    (hprogram : s.rewards = some program) (h : s.Passes accounts rewards) :
    rewards = some { program with tracker := s.afterPass program.tracker accounts } := by
  have hpassed := h.left
  unfold passed at hpassed
  rw [hprogram, Option.map_some] at hpassed
  exact hpassed

theorem Abandons.tracks {s' : DepositToken} (hprogram : s.Tracks t) (ht : t.Sound)
    (hsmall : ∀ x ∈ accounts, Text.lower x = x) (h : s.Abandons accounts s'.rewards) :
    s'.Tracks t ∨ s'.Tracks (s.afterPass t accounts) := by
  rcases hprogram with ⟨program, hrewards, rfl⟩
  rcases h.rewards_eq hrewards ht hsmall with hsame | hpassed
  · exact Or.inl ⟨program, hsame, rfl⟩
  · exact Or.inr ⟨_, hpassed, rfl⟩

theorem Passes.tracks {s' : DepositToken} (hprogram : s.Tracks t)
    (h : s.Passes accounts s'.rewards) : s'.Tracks (s.afterPass t accounts) := by
  rcases hprogram with ⟨program, hrewards, rfl⟩
  exact ⟨_, h.rewards_eq hrewards, rfl⟩

theorem eq_of_mem_poolPass {caller holder x : String} {index : Int}
    (hx : x ∈ s.poolPass caller holder index) : x = Text.lower holder := by
  unfold poolPass at hx
  split at hx
  · exact List.mem_singleton.mp hx
  · cases hx

theorem mem_pair_of_mem_movePass {sender recipient x : String}
    (hx : x ∈ s.movePass sender recipient) : x ∈ [Text.lower sender, Text.lower recipient] := by
  unfold movePass at hx
  split at hx
  · cases hx
  · exact hx

theorem mem_pair_of_mem_seizurePass {caller sender recipient x : String}
    (hx : x ∈ s.seizurePass caller sender recipient) :
    x ∈ [Text.lower sender, Text.lower recipient] := by
  unfold seizurePass at hx
  split at hx
  · exact mem_pair_of_mem_movePass hx
  · cases hx

theorem poolPass_small (s : DepositToken) (caller holder : String) (index : Int) :
    ∀ x ∈ s.poolPass caller holder index, Text.lower x = x := by
  intro x hx
  rw [eq_of_mem_poolPass hx, Text.lower_lower]

theorem lower_of_mem_pair {sender recipient x : String}
    (hx : x ∈ [Text.lower sender, Text.lower recipient]) : Text.lower x = x := by
  rcases List.mem_pair.mp hx with rfl | rfl
  · exact Text.lower_lower sender
  · exact Text.lower_lower recipient

theorem movePass_small (s : DepositToken) (sender recipient : String) :
    ∀ x ∈ s.movePass sender recipient, Text.lower x = x :=
  fun _ hx => lower_of_mem_pair (mem_pair_of_mem_movePass hx)

end DepositToken

namespace TokenCall

variable {s : DepositToken} {t : RewardTracker}

theorem pass_small (c : TokenCall) (s : DepositToken) : ∀ x ∈ c.pass s, Text.lower x = x := by
  intro x hx
  cases c with
  | mint caller holder amount index => exact s.poolPass_small caller holder index x hx
  | burn caller holder receiver amount index => exact s.poolPass_small caller holder index x hx
  | mintToTreasury caller amount index =>
      unfold pass at hx
      dsimp only at hx
      split at hx
      · exact absurd hx List.not_mem_nil
      · exact s.poolPass_small caller s.treasury index x hx
  | transfer sender recipient amount => exact s.movePass_small sender recipient x hx
  | transferOnLiquidation caller sender recipient amount =>
      exact DepositToken.lower_of_mem_pair (DepositToken.mem_pair_of_mem_seizurePass hx)
  | _ => exact absurd hx List.not_mem_nil

/-!
# The tracker after each call
-/

/--
A change of the books leaves the tracker as it was or as its pass leaves it,
and shares have moved only where the accounts are settled.
-/
theorem tracks_after_of_books {c : TokenCall} (hc : c.isOfRewards = false)
    (hs : s.model.ledger.Sound) (hprogram : s.Tracks t) (ht : t.Sound) :
    ∃ t', (c.after s).Tracks t' ∧ (t' = t ∨ t' = s.afterPass t (c.pass s)) ∧
      ∀ x, (c.after s).model.ledger.held x = s.model.ledger.held x ∨ ∀ name, t'.Settled name x := by
  apply @Act.Leaves.state _ _ c.perform s fun s' =>
    ∃ t', s'.Tracks t' ∧ (t' = t ∨ t' = s.afterPass t (c.pass s)) ∧
      ∀ x, s'.model.ledger.held x = s.model.ledger.held x ∨ ∀ name, t'.Settled name x
  apply (leaves_perform c hs.nonneg).mono
  · intro _ s' h
    have hpasses := h.rewards hc
    refine ⟨_, hpasses.tracks hprogram, Or.inr rfl, ?_⟩
    intro x
    by_cases hx : x ∈ c.pass s
    · exact Or.inr fun name => hpasses.right.settled hprogram ht (c.pass_small s) hx name
    · exact Or.inl (h.ledger.right x hx)
  · intro _ s' h
    have hheld : ∀ x, s'.model.ledger.held x = s.model.ledger.held x := by
      intro x
      rw [h.ledger]
    rcases (h.rewards hc).tracks hprogram ht (c.pass_small s) with hsame | hpassed
    · exact ⟨t, hsame, Or.inl rfl, fun x => Or.inl (hheld x)⟩
    · exact ⟨_, hpassed, Or.inr rfl, fun x => Or.inl (hheld x)⟩

theorem ledger_after_of_rewards {c : TokenCall} (hc : c.isOfRewards = true)
    (hs : s.model.ledger.Sound) : (c.after s).model.ledger = s.model.ledger := by
  apply @Act.Leaves.state _ _ c.perform s fun s' => s'.model.ledger = s.model.ledger
  apply (leaves_perform c hs.nonneg).mono
  · intro _ s' h
    have hbooked := h.ledger.left
    cases c with
    | registerRewardToken token => exact hbooked
    | distributeRewards token amount => exact hbooked
    | claim holder token => exact hbooked
    | setReserveFactor caller factor => exact hbooked
    | _ => cases hc
  · intro _ s' h
    exact h.ledger

theorem tracks_after_registerRewardToken (token : String) (hprogram : s.Tracks t) (ht : t.Sound) :
    ∃ t', ((registerRewardToken token).after s).Tracks t' ∧ t.Preserves t' := by
  rcases hprogram with ⟨program, hrewards, rfl⟩
  apply @Act.Leaves.state _ _ (registerRewardToken token).perform s fun s' =>
    ∃ t', s'.Tracks t' ∧ program.tracker.Preserves t'
  rw [perform, Act.leaves_ending, DepositToken.registerRewardToken,
    DepositToken.leaves_onRewards hrewards]
  exact (RewardTracker.preserves_register ht).mono (fun _ t' h => ⟨t', ⟨_, rfl, rfl⟩, h⟩)
    (fun _ t' h => ⟨t', ⟨_, rfl, rfl⟩, h⟩)

theorem tracks_after_claim (holder token : String) (hprogram : s.Tracks t) (ht : t.Sound) :
    ∃ t', ((claim holder token).after s).Tracks t' ∧
      (s.checkpointedFor t holder token).Preserves t' := by
  rcases hprogram with ⟨program, hrewards, rfl⟩
  apply @Act.Leaves.state _ _ (claim holder token).perform s fun s' =>
    ∃ t', s'.Tracks t' ∧ (s.checkpointedFor program.tracker holder token).Preserves t'
  have htracks : ∀ s', s.Keeps
      (DepositToken.Earned program (s.checkpointedFor program.tracker holder token)) s' →
      ∃ t', s'.Tracks t' ∧ (s.checkpointedFor program.tracker holder token).Preserves t' := by
    intro s' h
    rcases h.rewards with ⟨t', hpreserves, hrewards'⟩
    exact ⟨t', ⟨_, hrewards', rfl⟩, hpreserves⟩
  rw [perform, Act.leaves_ending]
  exact (DepositToken.leaves_claim hrewards ht).mono (fun _ s' h => htracks s' h.keeps)
    (fun _ s' h => htracks s' h)

theorem tracks_after_setReserveFactor (caller : String) (factor : Int) (hprogram : s.Tracks t) :
    ((setReserveFactor caller factor).after s).Tracks t := by
  rcases hprogram with ⟨program, hrewards, rfl⟩
  apply @Act.Leaves.state _ _ (setReserveFactor caller factor).perform s fun s' =>
    s'.Tracks program.tracker
  rw [perform]
  apply DepositToken.leaves_setReserveFactor.mono
  · intro _ s' hleft
    rcases hleft with ⟨program', hrewards', _, h⟩
    rw [hrewards] at hrewards'
    cases hrewards'
    exact ⟨_, h.rewards, rfl⟩
  · intro _ s' hsame
    rcases hsame with rfl
    exact ⟨program, hrewards, rfl⟩

def Overflows (c : TokenCall) (s : DepositToken) : Prop :=
  match c with
  | distributeRewards token amount =>
      ∃ r, (Act.run (DepositToken.distributeRewards token amount) s).1 = .error (.refused r) ∧
        r.kind = .overflow
  | _ => False

theorem not_overflows_of_isOk {token : String} {amount : Int}
    (h : (Act.run (DepositToken.distributeRewards token amount) s).1.isOk = true) :
    ¬ (distributeRewards token amount).Overflows s := by
  intro hleft
  rcases hleft with ⟨r, hrun, _⟩
  rw [hrun] at h
  cases h

theorem tracks_after_distributeRewards (token : String) (amount : Int) (hprogram : s.Tracks t)
    (ht : t.Sound) :
    ∃ t', ((distributeRewards token amount).after s).Tracks t' ∧
      (t' = t ∨ 0 ≤ amount ∧ Text.lower token ∈ t.rewardTokens ∧ ∃ state,
        t' = t.withToken (Text.lower token) state ∧
        ((t.tokenOf (Text.lower token)).Spreads amount s.model.rewardBasisSupply state ∨
          (distributeRewards token amount).Overflows s ∧
          state = { t.tokenOf (Text.lower token) with
            lifetimeRewards := (t.tokenOf (Text.lower token)).lifetimeRewards + amount })) := by
  rcases hprogram with ⟨program, hrewards, rfl⟩
  have hspec := @RewardTracker.leaves_distribute program.tracker ht token amount
    s.model.rewardBasisSupply
  have hrun : Act.run (DepositToken.distributeRewards token amount) s =
      ((Act.run (RewardTracker.distribute token amount s.model.rewardBasisSupply)
        program.tracker).1, s.withTracker program
          (Act.run (RewardTracker.distribute token amount s.model.rewardBasisSupply)
            program.tracker).2) := by
    unfold DepositToken.distributeRewards
    rw [Act.run_bind_ok (Act.run_current s)]
    exact DepositToken.run_onRewards _ hrewards
  have hafter : (distributeRewards token amount).after s =
      s.withTracker program
        (Act.run (RewardTracker.distribute token amount s.model.rewardBasisSupply)
          program.tracker).2 := by
    unfold after perform
    dsimp only
    rw [Act.run_ending, hrun]
  rw [hafter]
  unfold Overflows
  dsimp only
  rw [hrun]
  rcases hcall : Act.run (RewardTracker.distribute token amount s.model.rewardBasisSupply)
    program.tracker with ⟨outcome, t'⟩
  refine ⟨t', ⟨_, rfl, rfl⟩, ?_⟩
  cases outcome with
  | ok document =>
      rcases hspec.of_ok hcall with ⟨hamount, hmem, state, hspreads, hwritten⟩
      exact Or.inr ⟨hamount, hmem, state, hwritten, Or.inl hspreads⟩
  | error e =>
      rcases hspec.of_error hcall with ⟨_, hsame⟩ | ⟨hamount, hmem, hwritten, r, rfl, hkind⟩
      · exact Or.inl hsame
      · exact Or.inr ⟨hamount, hmem, _, hwritten, Or.inr ⟨⟨r, rfl, hkind⟩, rfl⟩⟩

/-!
# Sound rewards
-/

theorem sound_checkpointedFor (holder token : String) (ht : t.Sound) :
    (s.checkpointedFor t holder token).Sound ∧
      (s.checkpointedFor t holder token).rewardTokens = t.rewardTokens := by
  apply @Act.Leaves.state _ _ (RewardTracker.checkpoint (Text.lower holder) token
    (s.model.rewardBasisOf (Text.lower holder))) t
    fun t' => t'.Sound ∧ t'.rewardTokens = t.rewardTokens
  apply (RewardTracker.leaves_checkpoint ht).mono
  · intro _ t' h
    rcases h with ⟨hmem, state, _, rfl⟩
    exact ⟨RewardTracker.sound_withHolder ht hmem (Text.lower_lower _) state, rfl⟩
  · intro _ t' h
    rcases h with rfl | ⟨hmem, rfl⟩
    · exact ⟨ht, rfl⟩
    · exact ⟨RewardTracker.sound_withHolder ht hmem (Text.lower_lower _) _, rfl⟩

theorem waiting_of_spreads {amount supply : Int} {state state' : RewardTokenState}
    (h : state.Spreads amount supply state') (hamount : 0 ≤ amount)
    (hwaiting : 0 ≤ state.undistributed) : 0 ≤ state'.undistributed := by
  rcases h with ⟨increment, _, rfl⟩
  dsimp only
  split <;> omega

theorem tracks_after (c : TokenCall) (hs : s.model.ledger.Sound) (hprogram : s.Tracks t)
    (ht : t.Sound) :
    ∃ t', (c.after s).Tracks t' ∧ t'.Sound ∧ ∀ name ∈ t.rewardTokens, name ∈ t'.rewardTokens := by
  have hbooks : c.isOfRewards = false → ∃ t', (c.after s).Tracks t' ∧ t'.Sound ∧
      ∀ name ∈ t.rewardTokens, name ∈ t'.rewardTokens := by
    intro hc
    rcases tracks_after_of_books hc hs hprogram ht with ⟨t', htracks, rfl | rfl, _⟩
    · exact ⟨t', htracks, ht, fun _ h => h⟩
    · have hsettles := @DepositToken.settles_afterPass s t (c.pass s) ht (c.pass_small s)
      exact ⟨_, htracks, hsettles.sound, fun _ h => hsettles.differs.rewardTokens.symm ▸ h⟩
  cases c with
  | registerRewardToken token =>
      rcases tracks_after_registerRewardToken token hprogram ht with ⟨t', htracks, hpreserves⟩
      exact ⟨t', htracks, hpreserves.sound, hpreserves.tokens⟩
  | claim holder token =>
      rcases tracks_after_claim holder token hprogram ht with ⟨t', htracks, hpreserves⟩
      have hkept := (@sound_checkpointedFor s t holder token ht).right
      exact ⟨t', htracks, hpreserves.sound, fun name h => hpreserves.tokens name (hkept ▸ h)⟩
  | setReserveFactor caller factor =>
      exact ⟨t, tracks_after_setReserveFactor caller factor hprogram, ht, fun _ h => h⟩
  | distributeRewards token amount =>
      rcases tracks_after_distributeRewards token amount hprogram ht with
        ⟨t', htracks, rfl | ⟨hamount, hmem, state, rfl, hstate⟩⟩
      · exact ⟨t', htracks, ht, fun _ h => h⟩
      · have hwaiting : 0 ≤ state.undistributed := by
          rcases hstate with hspreads | ⟨_, rfl⟩
          · exact waiting_of_spreads hspreads hamount (ht.waiting _)
          · exact ht.waiting _
        exact ⟨_, htracks, RewardTracker.sound_withToken ht hmem hwaiting, fun _ h => h⟩
  | _ => exact hbooks rfl

theorem tracks_afterAll {start : DepositToken} (hs : start.model.ledger.Sound)
    (hprogram : start.Tracks t) (ht : t.Sound) (calls : List TokenCall) :
    (afterAll calls start).model.ledger.Sound ∧
      ∃ t', (afterAll calls start).Tracks t' ∧ t'.Sound := by
  apply afterAll_induction (p := fun s => s.model.ledger.Sound ∧ ∃ t', s.Tracks t' ∧ t'.Sound)
  · intro c s h
    rcases h with ⟨hs, t, htracks, ht⟩
    rcases tracks_after c hs htracks ht with ⟨t', htracks', ht', _⟩
    exact ⟨sound_after c hs, t', htracks', ht'⟩
  · exact ⟨hs, t, hprogram, ht⟩

end TokenCall
end ReserveAccounting
