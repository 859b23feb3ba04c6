import ReserveAccounting.Proofs.RewardRuns

/-!
# Rewards that were paid

Nobody is paid more than it has accrued, and a call on one reward token touches
the states of no other. A claim pays all that its checkpoint has settled, less
the part of the treasury.
-/

namespace ReserveAccounting

open FixedPoint

namespace RewardTracker

variable {t t' t'' : RewardTracker} {name x y token : String}

/-!
# Paid within what was accrued
-/

def PaysWithin (t : RewardTracker) : Prop :=
  ∀ name x, (t.stateOf name x).claimed ≤ (t.stateOf name x).accrued

theorem paysWithin_empty (capacity : Int) : (empty capacity).PaysWithin :=
  fun _ _ => Int.le_refl 0

theorem PaysWithin.of_states (h : t.PaysWithin)
    (hstates : ∀ name x, t'.stateOf name x = t.stateOf name x) : t'.PaysWithin := by
  intro name x
  rw [hstates]
  exact h name x

theorem PaysWithin.withHolder (h : t.PaysWithin) {s : HolderRewardState}
    (hs : s.claimed ≤ s.accrued) : (t.withHolder name x s).PaysWithin := by
  intro name' x'
  rw [stateOf_withHolder]
  split
  · exact hs
  · exact h name' x'

theorem claimed_le_of_accrues {basis index : Int} {s s' : HolderRewardState}
    (hs : s.claimed ≤ s.accrued) (h : s.Accrues basis index s') : s'.claimed ≤ s'.accrued := by
  rcases h with ⟨earned, hearned, rfl⟩
  have hnonneg := rayMul_nonneg hearned
  dsimp only
  omega

theorem PaysWithin.of_settles (h : t.PaysWithin) {basisOf : String → Int}
    {p : String → String → Prop} (hsettles : t.Settles basisOf p t') : t'.PaysWithin := by
  intro name x
  rcases hsettles.states name x with hsame | haccrues
  · rw [hsame]
    exact h name x
  · exact claimed_le_of_accrues (h name x) haccrues

/-!
# One reward token at a time
-/

structure SameAt (name : String) (t t' : RewardTracker) : Prop where
  tokens : name ∈ t'.rewardTokens ↔ name ∈ t.rewardTokens
  token : t'.tokenOf name = t.tokenOf name
  states : ∀ x, t'.stateOf name x = t.stateOf name x

theorem SameAt.refl (name : String) (t : RewardTracker) : SameAt name t t where
  tokens := Iff.rfl
  token := rfl
  states _ := rfl

theorem SameAt.trans (h : SameAt name t t') (h' : SameAt name t' t'') : SameAt name t t'' where
  tokens := h'.tokens.trans h.tokens
  token := h'.token.trans h.token
  states x := (h'.states x).trans (h.states x)

def AgreesOff (name : String) (t t' : RewardTracker) : Prop := ∀ y, y ≠ name → SameAt y t t'

namespace AgreesOff

theorem refl (name : String) (t : RewardTracker) : AgreesOff name t t :=
  fun y _ => SameAt.refl y t

theorem trans (h : AgreesOff name t t') (h' : AgreesOff name t' t'') : AgreesOff name t t'' :=
  fun y hy => (h y hy).trans (h' y hy)

theorem of_withHolder (s : HolderRewardState) : AgreesOff name t (t.withHolder name x s) := by
  intro y hy
  refine ⟨Iff.rfl, rfl, ?_⟩
  intro z
  rw [stateOf_withHolder, if_neg fun h => hy h.left]

theorem of_withToken (s : RewardTokenState) : AgreesOff name t (t.withToken name s) := by
  intro y hy
  refine ⟨Iff.rfl, ?_, fun _ => rfl⟩
  rw [tokenOf_withToken, if_neg hy]

theorem of_withRegistered (ht : t.Sound) (h : name ∉ t.rewardTokens) :
    AgreesOff name t (t.withRegistered name) := by
  intro y hy
  refine ⟨?_, tokenOf_withRegistered ht h, ?_⟩
  · change y ∈ t.rewardTokens ++ [name] ↔ _
    rw [List.mem_append, List.mem_singleton, or_iff_left hy]
  · intro x
    unfold stateOf
    rw [statesOf_withRegistered ht h]

end AgreesOff

/-- A sound tracker that pays within what was accrued, changed in one reward token. -/
structure Touches (name : String) (t t' : RewardTracker) : Prop where
  sound : t'.Sound
  paid : t'.PaysWithin
  off : t.AgreesOff name t'

namespace Touches

theorem refl (ht : t.Sound) (hpaid : t.PaysWithin) : Touches name t t where
  sound := ht
  paid := hpaid
  off := AgreesOff.refl name t

theorem trans (h : Touches name t t') (h' : Touches name t' t'') : Touches name t t'' where
  sound := h'.sound
  paid := h'.paid
  off := h.off.trans h'.off

theorem of_withHolder (ht : t.Sound) (hpaid : t.PaysWithin) (hmem : name ∈ t.rewardTokens)
    (hx : Text.lower x = x) {s : HolderRewardState} (hs : s.claimed ≤ s.accrued) :
    Touches name t (t.withHolder name x s) where
  sound := sound_withHolder ht hmem hx s
  paid := hpaid.withHolder hs
  off := AgreesOff.of_withHolder s

theorem of_withToken (ht : t.Sound) (hpaid : t.PaysWithin) (hmem : name ∈ t.rewardTokens)
    {s : RewardTokenState} (hwaiting : 0 ≤ s.undistributed) :
    Touches name t (t.withToken name s) where
  sound := sound_withToken ht hmem hwaiting
  paid := hpaid.of_states fun _ _ => rfl
  off := AgreesOff.of_withToken s

theorem of_withRegistered (ht : t.Sound) (hpaid : t.PaysWithin) (hname : Text.lower name = name)
    (hnew : name ∉ t.rewardTokens) : Touches name t (t.withRegistered name) where
  sound := sound_withRegistered ht hname hnew
  paid := hpaid.of_states fun y x => by
    unfold stateOf
    rw [statesOf_withRegistered ht hnew]
  off := AgreesOff.of_withRegistered ht hnew

end Touches

theorem touches_checkpoint (ht : t.Sound) (hpaid : t.PaysWithin) {basis : Int} :
    (checkpoint x token basis).Leaves t (fun _ t' => Touches (Text.lower token) t t')
      (fun _ t' => Touches (Text.lower token) t t') := by
  apply (leaves_checkpoint ht).mono
  · intro _ t' h
    rcases h with ⟨hmem, s, haccrues, rfl⟩
    exact Touches.of_withHolder ht hpaid hmem (Text.lower_lower x)
      (claimed_le_of_accrues (hpaid _ _) haccrues)
  · intro _ t' h
    rcases h with rfl | ⟨hmem, rfl⟩
    · exact Touches.refl ht hpaid
    · exact Touches.of_withHolder ht hpaid hmem (Text.lower_lower x) (hpaid _ _)

theorem touches_claim (ht : t.Sound) (hpaid : t.PaysWithin) {factor : Int} :
    (claim x token factor).Leaves t (fun _ t' => Touches (Text.lower token) t t')
      (fun _ t' => Touches (Text.lower token) t t') := by
  apply (leaves_claim ht).mono
  · intro _ t' h
    rcases h with ⟨hmem, _, rfl⟩
    exact Touches.of_withHolder ht hpaid hmem (Text.lower_lower x) (Int.le_refl _)
  · intro _ t' h
    rcases h with rfl | ⟨hmem, rfl⟩
    · exact Touches.refl ht hpaid
    · exact Touches.of_withHolder ht hpaid hmem (Text.lower_lower x) (Int.le_refl _)

theorem touches_recordTreasuryCut (ht : t.Sound) (hpaid : t.PaysWithin) {amount : Int} :
    (recordTreasuryCut token amount).Leaves t (fun _ t' => Touches (Text.lower token) t t')
      (fun _ t' => Touches (Text.lower token) t t') := by
  apply (leaves_recordTreasuryCut ht).mono
  · intro _ t' h
    rcases h with ⟨hmem, rfl⟩
    exact Touches.of_withToken ht hpaid hmem (ht.waiting _)
  · intro _ t' h
    rcases h with ⟨_, rfl⟩
    exact Touches.refl ht hpaid

theorem touches_register (ht : t.Sound) (hpaid : t.PaysWithin) :
    (register token).Leaves t (fun _ t' => Touches (Text.lower token) t t')
      (fun _ t' => Touches (Text.lower token) t t') := by
  apply (leaves_register ht).mono
  · intro _ t' h
    rcases h with ⟨_, rfl | ⟨hnew, rfl⟩⟩
    · exact Touches.refl ht hpaid
    · exact Touches.of_withRegistered ht hpaid (Text.lower_lower token) hnew
  · intro _ t' h
    rcases h with rfl
    exact Touches.refl ht hpaid

theorem touches_distribute (ht : t.Sound) (hpaid : t.PaysWithin) {amount supply : Int} :
    (distribute token amount supply).Leaves t (fun _ t' => Touches (Text.lower token) t t')
      (fun _ t' => Touches (Text.lower token) t t') := by
  apply (leaves_distribute ht).mono
  · intro _ t' h
    rcases h with ⟨hamount, hmem, s, ⟨increment, _, rfl⟩, rfl⟩
    have hwaiting := ht.waiting (Text.lower token)
    apply Touches.of_withToken ht hpaid hmem
    dsimp only
    split <;> omega
  · intro _ t' h
    rcases h with ⟨_, rfl⟩ | ⟨_, hmem, rfl, _⟩
    · exact Touches.refl ht hpaid
    · exact Touches.of_withToken ht hpaid hmem (ht.waiting _)

theorem leaves_claim_cut {factor : Int} :
    (claim x token factor).Leaves t
      (fun c _ => factor ≤ maxFactor ∧ percentMul c.claimable factor = .ok c.treasuryCut)
      (fun _ _ => True) := by
  unfold claim
  rw [Act.leaves_ite]
  refine ⟨fun _ => trivial, fun hfactor => ?_⟩
  rw [not_not] at hfactor
  rw [Act.leaves_bind, Act.leaves_current, Act.leaves_bind]
  apply Act.leaves_of_run _ fun _ _ _ => trivial
  intro s t₁ _
  rw [Act.leaves_bind, Act.leaves_faulty]
  refine ⟨fun accrued _ => ?_, fun _ _ => trivial⟩
  rw [Act.leaves_bind, Act.leaves_faulty]
  refine ⟨fun claimed _ => ?_, fun _ _ => trivial⟩
  dsimp only
  rw [Act.leaves_bind]
  apply Act.leaves_of_run _ fun _ _ _ => trivial
  intro _ t₂ _
  rw [Act.leaves_bind, Act.leaves_refusable]
  exact ⟨fun cut hcut => ⟨hfactor.right, hcut⟩, fun _ _ => trivial⟩

end RewardTracker

namespace DepositToken

variable {s s' : DepositToken} {program : RewardProgram} {t : RewardTracker} {holder token : String}

/-!
# Claims of a token
-/

def TouchesRewards (program : RewardProgram) (name : String) (s' : DepositToken) : Prop :=
  ∃ t', s'.rewards = some { program with tracker := t' } ∧ program.tracker.Touches name t'

theorem touches_onRewards {α : Type} {m : Act RewardTracker α} {name : String}
    (hm : ∀ t : RewardTracker, t.Sound → t.PaysWithin → m.Leaves t
      (fun _ t' => t.Touches name t') (fun _ t' => t.Touches name t')) :
    Act.Stable (TouchesRewards program name) (onRewards m) := by
  apply Act.Stable.of_leaves
  intro s hs
  rcases hs with ⟨t₁, hrewards, htouches⟩
  rw [leaves_onRewards hrewards]
  exact (hm t₁ htouches.sound htouches.paid).mono
    (fun _ t' h => ⟨t', rfl, htouches.trans h⟩) (fun _ t' h => ⟨t', rfl, htouches.trans h⟩)

theorem touches_claim (hprogram : s.rewards = some program) (ht : program.tracker.Sound)
    (hpaid : program.tracker.PaysWithin) :
    (claim holder token).Leaves s (fun _ s' => TouchesRewards program (Text.lower token) s')
      (fun _ s' => TouchesRewards program (Text.lower token) s') := by
  have hstable : Act.Stable (TouchesRewards program (Text.lower token)) (claim holder token) := by
    apply stable_claim_of_parts
    · intro basis
      exact touches_onRewards fun _ ht hpaid => RewardTracker.touches_checkpoint ht hpaid
    · intro factor
      exact touches_onRewards fun _ ht hpaid => RewardTracker.touches_claim ht hpaid
    · intro amount
      exact touches_onRewards fun _ ht hpaid => RewardTracker.touches_recordTreasuryCut ht hpaid
    · intro s' events h
      exact h
  exact hstable.leaves ⟨program.tracker, hprogram, RewardTracker.Touches.refl ht hpaid⟩

theorem leaves_claim_cut (hprogram : s.rewards = some program) :
    (claim holder token).Leaves s
      (fun c _ => ∃ factor, program.factor = .ok factor ∧ factor ≤ RewardTracker.maxFactor ∧
        percentMul c.claimable factor = .ok c.treasuryCut)
      (fun _ _ => True) := by
  apply leaves_claim_of_steps hprogram
  apply Act.leaves_of_run _ fun _ _ _ => trivial
  intro _ t₁ _
  refine ⟨fun _ _ => trivial, fun factor hfactor => ?_⟩
  apply RewardTracker.leaves_claim_cut.mono _ fun _ _ h => h
  intro c t₂ h
  refine ⟨fun _ => ?_, fun _ _ => ⟨factor, hfactor, h⟩⟩
  apply Act.leaves_of_run _ fun _ _ _ => trivial
  intro _ t₃ _ _
  exact ⟨factor, hfactor, h⟩

end DepositToken

/-!
# Honest tokens
-/

/-- A sound tracker that pays within what was accrued, and an integer factor within its bounds. -/
structure RewardProgram.Honest (p : RewardProgram) : Prop where
  sound : p.tracker.Sound
  paid : p.tracker.PaysWithin
  stray : p.strayFactor = none
  factor : 0 ≤ p.reserveFactor ∧ p.reserveFactor ≤ RewardTracker.maxFactor

theorem RewardProgram.Honest.factor_eq {p : RewardProgram} (hp : p.Honest) :
    p.factor = .ok p.reserveFactor := by
  unfold RewardProgram.factor
  rw [hp.stray]

structure DepositToken.Honest (s : DepositToken) : Prop where
  shares : s.model.ledger.Sound
  program : ∃ p, s.rewards = some p ∧ p.Honest

theorem DepositToken.factor_of_requireProgram {p : RewardProgram} (hstray : p.strayFactor = none)
    (h : requireProgram p = .ok ()) :
    0 ≤ p.reserveFactor ∧ p.reserveFactor ≤ RewardTracker.maxFactor := by
  unfold requireProgram requireFactor at h
  rw [hstray] at h
  dsimp only at h
  split at h
  · next hfactor => exact hfactor
  · cases h

theorem DepositToken.Honest.of_keeps {s s' : DepositToken} (hs : s.Honest)
    (h : s.Keeps (· = s.rewards) s') : s'.Honest where
  shares := by
    rw [h.ledger]
    exact hs.shares
  program := by
    rw [h.rewards]
    exact hs.program

theorem DepositToken.cutsWithin_claim {s : DepositToken} {holder token : String} (hs : s.Honest) :
    (claim holder token).Leaves s (fun c _ => 0 ≤ c.treasuryCut ∧ c.treasuryCut ≤ c.claimable)
      (fun _ _ => True) := by
  rcases hs.program with ⟨p, hprogram, hp⟩
  apply ((leaves_claim hprogram hp.sound).and (leaves_claim_cut hprogram)).mono
  · intro c s' h
    rcases h with ⟨hpays, factor, _, hbound, hcut⟩
    rcases hpays.claimable with ⟨settled, haccrues, hclaimable⟩
    have hpaid := RewardTracker.claimed_le_of_accrues
      (hp.paid (Text.lower token) (Text.lower holder)) haccrues
    have hnonneg : 0 ≤ c.claimable := by
      rw [hclaimable]
      exact Int.sub_nonneg_of_le hpaid
    exact percentMul_le hnonneg hbound hcut
  · intro _ _ _
    trivial

theorem RewardProgram.Honest.withTracker {p : RewardProgram} {t : RewardTracker} (hp : p.Honest)
    (ht : t.Sound) (hpaid : t.PaysWithin) : { p with tracker := t }.Honest where
  sound := ht
  paid := hpaid
  stray := hp.stray
  factor := hp.factor

namespace TokenCall

variable {s : DepositToken}

theorem honest_of_touches {p : RewardProgram} {name : String} {s' : DepositToken} (hp : p.Honest)
    (h : DepositToken.TouchesRewards p name s') : ∃ p', s'.rewards = some p' ∧ p'.Honest := by
  rcases h with ⟨t, hrewards, htouches⟩
  exact ⟨_, hrewards, hp.withTracker htouches.sound htouches.paid⟩

theorem honest_after_of_books {c : TokenCall} {p : RewardProgram} (hc : c.isOfRewards = false)
    (hs : s.model.ledger.Sound) (hprogram : s.rewards = some p) (hp : p.Honest) :
    ∃ p', (c.after s).rewards = some p' ∧ p'.Honest := by
  have hpass : ({ p with tracker := s.afterPass p.tracker (c.pass s) } : RewardProgram).Honest := by
    have hsettles := @DepositToken.settles_afterPass s p.tracker (c.pass s) hp.sound (c.pass_small s)
    exact hp.withTracker hsettles.sound (hp.paid.of_settles hsettles)
  apply @Act.Leaves.state _ _ c.perform s fun s' => ∃ p', s'.rewards = some p' ∧ p'.Honest
  apply (leaves_perform c hs.nonneg).mono
  · intro _ s' h
    exact ⟨_, (h.rewards hc).rewards_eq hprogram, hpass⟩
  · intro _ s' h
    rcases (h.rewards hc).rewards_eq hprogram hp.sound (c.pass_small s) with hsame | hpassed
    · exact ⟨p, hsame, hp⟩
    · exact ⟨_, hpassed, hpass⟩

theorem honest_after (c : TokenCall) (hs : s.Honest) : (c.after s).Honest := by
  refine ⟨sound_after c hs.shares, ?_⟩
  rcases hs.program with ⟨p, hprogram, hp⟩
  have hrewards : ∀ {α : Type} {m : Act RewardTracker α} {name : String},
      (∀ t : RewardTracker, t.Sound → t.PaysWithin → m.Leaves t
        (fun _ t' => t.Touches name t') (fun _ t' => t.Touches name t')) →
      (DepositToken.onRewards m).Leaves s (fun _ s' => ∃ p', s'.rewards = some p' ∧ p'.Honest)
        (fun _ s' => ∃ p', s'.rewards = some p' ∧ p'.Honest) := by
    intro α m name hm
    have hstart : DepositToken.TouchesRewards p name s :=
      ⟨p.tracker, hprogram, RewardTracker.Touches.refl hp.sound hp.paid⟩
    exact ((DepositToken.touches_onRewards hm).leaves hstart).mono
      (fun _ _ h => honest_of_touches hp h) (fun _ _ h => honest_of_touches hp h)
  apply @Act.Leaves.state _ _ c.perform s fun s' => ∃ p', s'.rewards = some p' ∧ p'.Honest
  cases c with
  | registerRewardToken token =>
      rw [perform, Act.leaves_ending]
      exact hrewards fun _ ht hpaid => RewardTracker.touches_register ht hpaid
  | distributeRewards token amount =>
      rw [perform, Act.leaves_ending, DepositToken.distributeRewards, Act.leaves_bind,
        Act.leaves_current]
      exact hrewards fun _ ht hpaid => RewardTracker.touches_distribute ht hpaid
  | claim holder token =>
      rw [perform, Act.leaves_ending]
      exact (DepositToken.touches_claim hprogram hp.sound hp.paid).mono
        (fun _ _ h => honest_of_touches hp h) (fun _ _ h => honest_of_touches hp h)
  | setReserveFactor caller factor =>
      apply DepositToken.leaves_setReserveFactor.mono
      · intro _ s' h
        rcases h with ⟨p', hprogram', hfactor, hkeeps⟩
        rw [hprogram] at hprogram'
        cases hprogram'
        exact ⟨_, hkeeps.rewards, hp.sound, hp.paid, rfl, hfactor⟩
      · intro _ s' hsame
        rcases hsame with rfl
        exact ⟨p, hprogram, hp⟩
  | _ =>
      apply Act.Leaves.of_state
      exact honest_after_of_books rfl hs.shares hprogram hp

end TokenCall
end ReserveAccounting
