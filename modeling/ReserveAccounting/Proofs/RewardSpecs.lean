import ReserveAccounting.Proofs.RewardCalls
import ReserveAccounting.Proofs.TokenSpecs

/-!
# What the reward calls of a token change

Reward calls keep the books. Registering and marking rewards as paid keep what
holders have earned; a claim earns by the checkpoint it starts with, and by
nothing else.
-/

namespace ReserveAccounting

open FixedPoint

namespace RewardTracker

variable {t t' t'' : RewardTracker} {name x : String}

/-- Trackers in which everybody has earned the same and stands to earn the same. -/
structure SameEarnings (t t' : RewardTracker) : Prop where
  index : ∀ name, (t'.tokenOf name).lifetimeIndex = (t.tokenOf name).lifetimeIndex
  received : ∀ name, (t'.tokenOf name).lifetimeRewards = (t.tokenOf name).lifetimeRewards
  waiting : ∀ name, (t'.tokenOf name).undistributed = (t.tokenOf name).undistributed
  seen : ∀ name x, (t'.stateOf name x).index = (t.stateOf name x).index
  accrued : ∀ name x, (t'.stateOf name x).accrued = (t.stateOf name x).accrued

namespace SameEarnings

theorem refl (t : RewardTracker) : SameEarnings t t where
  index _ := rfl
  received _ := rfl
  waiting _ := rfl
  seen _ _ := rfl
  accrued _ _ := rfl

theorem trans (h : SameEarnings t t') (h' : SameEarnings t' t'') : SameEarnings t t'' where
  index name := (h'.index name).trans (h.index name)
  received name := (h'.received name).trans (h.received name)
  waiting name := (h'.waiting name).trans (h.waiting name)
  seen name x := (h'.seen name x).trans (h.seen name x)
  accrued name x := (h'.accrued name x).trans (h.accrued name x)

theorem settled (h : SameEarnings t t') (hx : t.Settled name x) : t'.Settled name x := by
  unfold Settled
  rw [h.seen, h.index]
  exact hx

theorem of_withRegistered (ht : t.Sound) (h : name ∉ t.rewardTokens) :
    SameEarnings t (t.withRegistered name) where
  index y := by rw [tokenOf_withRegistered ht h]
  received y := by rw [tokenOf_withRegistered ht h]
  waiting y := by rw [tokenOf_withRegistered ht h]
  seen y x := by rw [stateOf, statesOf_withRegistered ht h, stateOf]
  accrued y x := by rw [stateOf, statesOf_withRegistered ht h, stateOf]

theorem of_claimed (claimed : Int) :
    SameEarnings t (t.withHolder name x { t.stateOf name x with claimed := claimed }) where
  index _ := rfl
  received _ := rfl
  waiting _ := rfl
  seen name' x' := by
    rw [stateOf_withHolder]
    split
    · next heq => rw [heq.left, heq.right]
    · rfl
  accrued name' x' := by
    rw [stateOf_withHolder]
    split
    · next heq => rw [heq.left, heq.right]
    · rfl

theorem of_treasuryClaimed (claimed : Int) :
    SameEarnings t (t.withToken name { t.tokenOf name with treasuryClaimed := claimed }) where
  index name' := by
    rw [tokenOf_withToken]
    split
    · next heq => rw [heq]
    · rfl
  received name' := by
    rw [tokenOf_withToken]
    split
    · next heq => rw [heq]
    · rfl
  waiting name' := by
    rw [tokenOf_withToken]
    split
    · next heq => rw [heq]
    · rfl
  seen _ _ := rfl
  accrued _ _ := rfl

end SameEarnings

structure Preserves (t t' : RewardTracker) : Prop where
  sound : t'.Sound
  tokens : ∀ name ∈ t.rewardTokens, name ∈ t'.rewardTokens
  earnings : t.SameEarnings t'

theorem Preserves.refl (ht : t.Sound) : t.Preserves t where
  sound := ht
  tokens _ h := h
  earnings := SameEarnings.refl t

theorem preserves_register (ht : t.Sound) {token : String} :
    (register token).Leaves t (fun _ t' => t.Preserves t') (fun _ t' => t.Preserves t') := by
  apply (leaves_register ht).mono
  · intro _ t' hleft
    rcases hleft with ⟨_, rfl | ⟨hnew, rfl⟩⟩
    · exact Preserves.refl ht
    · exact ⟨sound_withRegistered ht (Text.lower_lower token) hnew,
        fun _ h => List.mem_append_left _ h, SameEarnings.of_withRegistered ht hnew⟩
  · intro _ t' hsame
    rcases hsame with rfl
    exact Preserves.refl ht

theorem preserves_claim (ht : t.Sound) {holder token : String} {factor : Int} :
    (claim holder token factor).Leaves t
      (fun c t' => t.Preserves t' ∧ Text.lower token ∈ t.rewardTokens ∧
        c.claimable = (t.stateOf (Text.lower token) (Text.lower holder)).claimable ∧
        (t'.stateOf (Text.lower token) (Text.lower holder)).claimable = 0)
      (fun _ t' => t.Preserves t') := by
  have hwrite : Text.lower token ∈ t.rewardTokens → ∀ claimed, t.Preserves
      (t.withHolder (Text.lower token) (Text.lower holder)
        { t.stateOf (Text.lower token) (Text.lower holder) with claimed := claimed }) := by
    intro hmem claimed
    exact ⟨sound_withHolder ht hmem (Text.lower_lower holder) _, fun _ h => h,
      SameEarnings.of_claimed claimed⟩
  apply (leaves_claim ht).mono
  · intro c t' hleft
    rcases hleft with ⟨hmem, hclaimable, rfl⟩
    refine ⟨hwrite hmem _, hmem, hclaimable, ?_⟩
    rw [stateOf_withHolder, if_pos ⟨rfl, rfl⟩]
    exact Int.sub_self _
  · intro _ t' hleft
    rcases hleft with rfl | ⟨hmem, rfl⟩
    · exact Preserves.refl ht
    · exact hwrite hmem _

theorem preserves_recordTreasuryCut (ht : t.Sound) {token : String} {amount : Int} :
    (recordTreasuryCut token amount).Leaves t
      (fun _ t' => t.Preserves t' ∧ ∀ name x, t'.stateOf name x = t.stateOf name x)
      (fun _ t' => t.Preserves t') := by
  apply (leaves_recordTreasuryCut ht).mono
  · intro _ t' hleft
    rcases hleft with ⟨hmem, rfl⟩
    refine ⟨⟨sound_withToken ht hmem (ht.waiting _), fun _ h => h,
      SameEarnings.of_treasuryClaimed _⟩, fun _ _ => rfl⟩
  · intro _ t' hsame
    rcases hsame with ⟨_, rfl⟩
    exact Preserves.refl ht

theorem Preserves.trans (h : t.Preserves t') (h' : t'.Preserves t'') : t.Preserves t'' where
  sound := h'.sound
  tokens name hname := h'.tokens name (h.tokens name hname)
  earnings := h.earnings.trans h'.earnings

end RewardTracker

namespace DepositToken

variable {s s' : DepositToken} {α : Type} {program : RewardProgram}

def withTracker (s : DepositToken) (program : RewardProgram) (t : RewardTracker) : DepositToken :=
  { s with rewards := some { program with tracker := t } }

theorem keeps_withTracker {t : RewardTracker} {rewarded : Option RewardProgram → Prop}
    (h : rewarded (some { program with tracker := t })) :
    s.Keeps rewarded (s.withTracker program t) where
  alike := ⟨rfl, rfl⟩
  pool := rfl
  treasury := rfl
  ledger := rfl
  reserve := rfl
  rewards := h

theorem stable_keeps_onRewards {m : Act RewardTracker α} :
    Act.Stable (fun s' => s.Keeps (fun _ => True) s') (onRewards m) :=
  stable_onRewards_of fun _ _ h => ⟨h.alike, h.pool, h.treasury, h.ledger, h.reserve, trivial⟩

theorem keeps_onRewards {m : Act RewardTracker α} :
    (onRewards m).Leaves s (fun _ s' => s.Keeps (fun _ => True) s')
      (fun _ s' => s.Keeps (fun _ => True) s') :=
  stable_keeps_onRewards.leaves (Changes.refl rfl rfl trivial)

def checkpointedFor (s : DepositToken) (t : RewardTracker) (holder token : String) :
    RewardTracker :=
  (Act.run (RewardTracker.checkpoint (Text.lower holder) token
    (s.model.rewardBasisOf (Text.lower holder))) t).2

def Earned (program : RewardProgram) (t : RewardTracker) (rewards : Option RewardProgram) : Prop :=
  ∃ t', t.Preserves t' ∧ rewards = some { program with tracker := t' }

theorem leaves_checkpoint_of_claim {holder token : String} (ht : program.tracker.Sound) :
    (RewardTracker.checkpoint (Text.lower holder) token
      (s.model.rewardBasisOf (Text.lower holder))).Leaves program.tracker
      (fun _ t => t = s.checkpointedFor program.tracker holder token ∧ t.Sound ∧
        Text.lower token ∈ program.tracker.rewardTokens ∧
        (program.tracker.stateOf (Text.lower token) (Text.lower holder)).Accrues
          (s.model.rewardBasisOf (Text.lower holder))
          (program.tracker.tokenOf (Text.lower token)).lifetimeIndex
          (t.stateOf (Text.lower token) (Text.lower holder)) ∧
        t.Settled (Text.lower token) (Text.lower holder))
      (fun _ t => t = s.checkpointedFor program.tracker holder token ∧ t.Sound) := by
  apply Act.leaves_of_run
  · intro _ t hrun
    have hafter : t = s.checkpointedFor program.tracker holder token := by
      unfold checkpointedFor
      rw [hrun]
    rcases (RewardTracker.leaves_checkpoint ht).of_ok hrun with ⟨hmem, settled, haccrues, hwritten⟩
    rw [Text.lower_lower] at haccrues hwritten
    have hsettled : t.stateOf (Text.lower token) (Text.lower holder) = settled := by
      rw [hwritten, RewardTracker.stateOf_withHolder, if_pos ⟨rfl, rfl⟩]
    refine ⟨hafter, ?_, hmem, ?_, ?_⟩
    · rw [hwritten]
      exact RewardTracker.sound_withHolder ht hmem (Text.lower_lower holder) settled
    · rw [hsettled]
      exact haccrues
    · unfold RewardTracker.Settled
      rw [hsettled, haccrues.index_eq, hwritten, RewardTracker.tokenOf_withHolder]
  · intro _ t hrun
    have hafter : t = s.checkpointedFor program.tracker holder token := by
      unfold checkpointedFor
      rw [hrun]
    refine ⟨hafter, ?_⟩
    rcases (RewardTracker.leaves_checkpoint ht).of_error hrun with hsame | ⟨hmem, hopened⟩
    · rw [hsame]
      exact ht
    · rw [hopened]
      exact RewardTracker.sound_withHolder ht hmem (Text.lower_lower _) _

/-- A claim has paid what its checkpoint has settled, and has left nothing to claim. -/
structure Pays (s : DepositToken) (program : RewardProgram) (holder token : String)
    (c : RewardClaim) (s' : DepositToken) : Prop where
  keeps : s.Keeps (Earned program (s.checkpointedFor program.tracker holder token)) s'
  registered : Text.lower token ∈ program.tracker.rewardTokens
  claimable : ∃ settled,
    (program.tracker.stateOf (Text.lower token) (Text.lower holder)).Accrues
      (s.model.rewardBasisOf (Text.lower holder))
      (program.tracker.tokenOf (Text.lower token)).lifetimeIndex settled ∧
    c.claimable = settled.claimable
  nothingLeft : ∀ p, s'.rewards = some p →
    p.tracker.Settled (Text.lower token) (Text.lower holder) ∧
    (p.tracker.stateOf (Text.lower token) (Text.lower holder)).claimable = 0

theorem leaves_claim_of_steps {holder token : String} (hprogram : s.rewards = some program)
    {answered : RewardClaim → DepositToken → Prop} {failed : Fault → DepositToken → Prop}
    (hsteps : (RewardTracker.checkpoint (Text.lower holder) token
        (s.model.rewardBasisOf (Text.lower holder))).Leaves program.tracker
      (fun _ t₁ =>
        (∀ e, program.factor = .error e → failed e (s.withTracker program t₁)) ∧
        ∀ factor, program.factor = .ok factor →
          (RewardTracker.claim (Text.lower holder) token factor).Leaves t₁
            (fun c t₂ =>
              (c.treasuryCut ≠ 0 →
                (RewardTracker.recordTreasuryCut token c.treasuryCut).Leaves t₂
                  (fun _ t₃ => ∀ events,
                    answered c { s.withTracker program t₃ with events := events })
                  (fun e t₃ => failed e (s.withTracker program t₃))) ∧
              (c.treasuryCut = 0 → ∀ events,
                answered c { s.withTracker program t₂ with events := events }))
            (fun e t₂ => failed e (s.withTracker program t₂)))
      (fun e t₁ => failed e (s.withTracker program t₁))) :
    (claim holder token).Leaves s answered failed := by
  unfold claim
  rw [Act.leaves_bind, Act.leaves_current, Act.leaves_bind, program_eq_ok.mpr hprogram,
    Act.leaves_faulty]
  refine ⟨?_, fun _ h => by cases h⟩
  intro _ hleft
  cases hleft
  rw [Act.leaves_bind, leaves_onRewards hprogram]
  apply hsteps.mono _ fun _ _ h => h
  intro _ t₁ hclaim
  rw [Act.leaves_bind, Act.leaves_faulty]
  refine ⟨fun factor hfactor => ?_, hclaim.left⟩
  rw [Act.leaves_bind, leaves_onRewards rfl]
  apply (hclaim.right factor hfactor).mono _ fun _ _ h => h
  intro c t₂ hcut
  dsimp only
  rw [Act.leaves_ite]
  constructor
  · intro hzero
    rw [Act.leaves_bind, leaves_onRewards rfl]
    apply (hcut.left hzero).mono _ fun _ _ h => h
    intro _ t₃ hanswered
    rw [Act.leaves_bind, leaves_emit, Act.leaves_bind, leaves_noteInfo]
    exact hanswered _
  · intro hzero
    rw [Act.leaves_bind, leaves_emit, Act.leaves_bind, leaves_noteInfo]
    exact hcut.right (not_not.mp hzero) _

/--
A claim pays what its checkpoint has settled and leaves nothing to claim. It
earns by that checkpoint alone, also when it fails after it.
-/
theorem leaves_claim {holder token : String} (hprogram : s.rewards = some program)
    (ht : program.tracker.Sound) :
    (claim holder token).Leaves s
      (fun c s' => s.Pays program holder token c s')
      (fun _ s' =>
        s.Keeps (Earned program (s.checkpointedFor program.tracker holder token)) s') := by
  apply leaves_claim_of_steps hprogram
  apply (leaves_checkpoint_of_claim ht).mono
  · intro _ t₁ hleft
    rcases hleft with ⟨hafter, ht₁, hmem, haccrues, hsettled⟩
    rw [← hafter]
    refine ⟨fun _ _ => keeps_withTracker ⟨t₁, RewardTracker.Preserves.refl ht₁, rfl⟩, ?_⟩
    intro factor _
    apply (RewardTracker.preserves_claim ht₁).mono
    · intro c t₂ hleft
      rcases hleft with ⟨hpreserves, _, hclaimable, hzero⟩
      rw [Text.lower_lower] at hclaimable hzero
      have hdone : ∀ t₃ events, t₁.Preserves t₃ →
          (t₃.stateOf (Text.lower token) (Text.lower holder)).claimable = 0 →
          s.Pays program holder token c { s.withTracker program t₃ with events := events } := by
        intro t₃ events hpreserves₃ hzero₃
        have hkeeps : s.Keeps (Earned program t₁) (s.withTracker program t₃) :=
          keeps_withTracker ⟨t₃, hpreserves₃, rfl⟩
        refine ⟨hafter ▸ hkeeps.ofEvents, hmem, ⟨_, haccrues, hclaimable⟩, ?_⟩
        intro p hleft
        rcases hleft with ⟨⟩
        exact ⟨hpreserves₃.earnings.settled hsettled, hzero₃⟩
      refine ⟨fun _ => ?_, fun _ events => hdone t₂ events hpreserves hzero⟩
      apply (RewardTracker.preserves_recordTreasuryCut hpreserves.sound).mono
      · intro _ t₃ hleft events
        rcases hleft with ⟨hcut, hsame⟩
        apply hdone t₃ events (hpreserves.trans hcut)
        rw [hsame]
        exact hzero
      · intro _ t₃ hcut
        exact keeps_withTracker ⟨t₃, hpreserves.trans hcut, rfl⟩
    · intro _ t₂ hpreserves
      exact keeps_withTracker ⟨t₂, hpreserves, rfl⟩
  · intro _ t₁ hleft
    rcases hleft with ⟨hafter, ht₁⟩
    rw [← hafter]
    exact keeps_withTracker ⟨t₁, RewardTracker.Preserves.refl ht₁, rfl⟩

theorem keeps_claim {holder token : String} :
    (claim holder token).Leaves s (fun _ s' => s.Keeps (fun _ => True) s')
      (fun _ s' => s.Keeps (fun _ => True) s') := by
  have hstable : Act.Stable (fun s' => s.Keeps (fun _ => True) s') (claim holder token) :=
    stable_claim_of_rewards (fun _ => stable_keeps_onRewards) fun _ _ h => h.ofEvents
  exact hstable.leaves (Changes.refl rfl rfl trivial)

theorem leaves_setReserveFactor {caller : String} {factor : Int} :
    (setReserveFactor caller factor).Leaves s
      (fun _ s' => ∃ program, s.rewards = some program ∧
        (0 ≤ factor ∧ factor ≤ RewardTracker.maxFactor) ∧ s.Keeps
          (· = some { program with reserveFactor := factor, strayFactor := none }) s')
      (fun _ s' => s' = s) := by
  unfold setReserveFactor
  rw [Act.leaves_bind, Act.leaves_current, Act.leaves_bind, Act.leaves_faulty]
  refine ⟨fun program hread => ?_, fun _ _ => rfl⟩
  have hprogram := program_eq_ok.mp hread
  rw [Act.leaves_bind]
  apply leaves_requirePool.mono
  · intro _ s₀ h
    rcases h with ⟨hsame, _⟩
    subst s₀
    rw [Act.leaves_bind, Act.leaves_refusable]
    refine ⟨fun _ hrange => ?_, fun _ _ => rfl⟩
    have hfactor : 0 ≤ factor ∧ factor ≤ RewardTracker.maxFactor := by
      unfold requireFactor at hrange
      split at hrange
      · next h => exact h
      · cases hrange
    rw [Act.leaves_update]
    exact ⟨program, hprogram, hfactor, ⟨rfl, rfl⟩, rfl, rfl, rfl, rfl, rfl⟩
  · intro _ s₀ h
    rcases h with ⟨hsame, _⟩
    exact hsame

end DepositToken
end ReserveAccounting
