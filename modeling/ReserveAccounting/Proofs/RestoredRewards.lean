import ReserveAccounting.Proofs.FailedCalls
import ReserveAccounting.Proofs.TransparentRuns

/-!
# Rewards after a refused change

A change of the books is refused either by a checkpoint of its own pass or, once
the pass is through, by the books. In the second case the saved states are put
back, and the tracker is the one from before, whichever accounts the pass went
over: the same account twice, or one that had no state yet.
-/

namespace ReserveAccounting

open FixedPoint

namespace DepositToken

variable {s s' : DepositToken} {α β : Type} {accounts : List String} {r : Refusal}

/-!
# Passes that are taken back
-/

def PassRefused (s : DepositToken) (accounts : List String) (r : Refusal) : Prop :=
  ∃ p t', s.rewards = some p ∧
    Act.run (RewardTracker.checkpointHolders s.model.rewardBasisOf accounts) p.tracker =
      (.error (.refused r), t')

theorem Completes.not_passRefused (h : s.Completes accounts) : ¬ s.PassRefused accounts r := by
  intro hrefused
  rcases hrefused with ⟨p, _, hprogram, hrun⟩
  rcases h p hprogram with ⟨_, _, hdone⟩
  rw [hrun] at hdone
  cases hdone

/-- A call that puts the rewards back when it is refused, unless its own pass is refused. -/
def RestoresRewards (s : DepositToken) (accounts : List String) (m : Act DepositToken α) : Prop :=
  m.Leaves s (fun _ _ => True)
    (WhenRefused fun r s' => s'.rewards = s.rewards ∨ s.PassRefused accounts r)

structure Restorable (s : DepositToken) : Prop where
  nonneg : ∀ name, 0 ≤ s.model.ledger.held name
  tracker : ∀ p, s.rewards = some p → p.tracker.Sound

theorem leaves_checkpointHolders_of_program {p : RewardProgram} (hprogram : s.rewards = some p)
    {answered : List RewardTracker.Saved → DepositToken → Prop}
    {failed : Fault → DepositToken → Prop} :
    (checkpointHolders accounts).Leaves s answered failed ↔
      (RewardTracker.checkpointHolders s.model.rewardBasisOf accounts).Leaves p.tracker
        (fun saved t => answered saved { s with rewards := some { p with tracker := t } })
        (fun e t => failed e { s with rewards := some { p with tracker := t } }) := by
  unfold checkpointHolders
  rw [Act.leaves_bind, Act.leaves_current, ← leaves_onRewards hprogram]
  split
  · next hnone =>
      rw [hprogram] at hnone
      cases hnone
  · rfl

theorem leaves_checkpointHolders_of_none (hnone : s.rewards = none)
    {answered : List RewardTracker.Saved → DepositToken → Prop}
    {failed : Fault → DepositToken → Prop} :
    (checkpointHolders accounts).Leaves s answered failed ↔ answered [] s := by
  unfold checkpointHolders
  rw [Act.leaves_bind, Act.leaves_current, hnone]
  rfl

theorem restores_applyChange {change : Act BalanceModel α} (hs : s.Restorable)
    (hsmall : ∀ x ∈ accounts, Text.lower x = x)
    (hchange : ∀ model : BalanceModel, model.ledger = s.model.ledger →
      model.isRebasing = s.model.isRebasing → change.Leaves model
        (fun _ model' => model.Alike model') (fun _ model' => model.Alike model')) :
    (applyChange accounts change).Leaves s (fun _ s' => s.Frame s')
      (WhenRefused fun r s' => s'.rewards = s.rewards ∨
        s.pins = true ∧ s.PassRefused accounts r) := by
  unfold applyChange
  apply (leaves_withPinnedRate (fun _ _ _ => True)
    (fun e _ rewards => ∀ r, e = .refused r → rewards = s.rewards ∨
      s.pins = true ∧ s.PassRefused accounts r) ?_ fun _ _ _ => Or.inl rfl).mono
    (fun _ _ h => h.left) (fun _ _ h => h.right)
  intro model hledger hkind hpins
  have hbasis : model.rewardBasisOf = s.model.rewardBasisOf := by
    unfold BalanceModel.rewardBasisOf
    rw [hledger]
  rw [Act.leaves_bind]
  rcases Option.eq_none_or_eq_some s.rewards with hprogram | ⟨p, hprogram⟩
  · have hnone : ({ s with model := model } : DepositToken).rewards = none := hprogram
    rw [leaves_checkpointHolders_of_none hnone, Act.leaves_onRefusal, leaves_onModel]
    apply (hchange model hledger hkind).mono
    · intro _ model' halike
      exact ⟨⟨halike, rfl⟩, trivial⟩
    · intro e model' halike
      cases e with
      | refused r =>
          refine ⟨⟨halike, rfl⟩, fun _ _ => Or.inl ?_⟩
          change s.rewards.map _ = _
          rw [hprogram]
          rfl
      | _ => exact ⟨⟨halike, rfl⟩, fun _ _ => Or.inl rfl⟩
  · have hprogram' : ({ s with model := model } : DepositToken).rewards = some p := hprogram
    have hp := hs.tracker p hprogram
    have hsettles := @RewardTracker.settles_checkpointHolders _ s.model.rewardBasisOf hp
      accounts hsmall
    rw [leaves_checkpointHolders_of_program hprogram']
    dsimp only
    rw [hbasis]
    apply Act.leaves_of_run
    · intro saved t' hrun
      rcases hsettles.of_ok hrun with ⟨hsaves, hsettled, _⟩
      rw [Act.leaves_onRefusal, leaves_onModel]
      apply (hchange model hledger hkind).mono
      · intro _ model' halike
        exact ⟨⟨halike, rfl⟩, trivial⟩
      · intro e model' halike
        cases e with
        | refused r =>
            refine ⟨⟨halike, rfl⟩, fun _ _ => Or.inl ?_⟩
            change some { p with tracker := t'.restore saved } = _
            rw [hsaves.restore_eq hp hsettled.differs, hprogram]
        | _ => exact ⟨⟨halike, rfl⟩, fun _ h => nomatch h⟩
    · intro e t' hrun
      refine ⟨⟨⟨rfl, rfl⟩, rfl⟩, fun r hr => Or.inr ⟨hpins, p, t', hprogram, ?_⟩⟩
      rw [hrun, hr]

/-!
# Calls that are refused
-/

theorem restores_bookAtIndex {caller holder : String} {index : Int} {reason : String}
    {change : Act BalanceModel α} {next : DepositToken → α → Act DepositToken β}
    (hs : s.Restorable)
    (hchange : ∀ model : BalanceModel, model.ledger = s.model.ledger →
      model.isRebasing = s.model.isRebasing → change.Leaves model
        (fun _ model' => model.Alike model') (fun _ model' => model.Alike model'))
    (hnext : ∀ t a, (next t a).Unfailing) :
    s.RestoresRewards (s.poolPass caller holder index) (do
      requirePool caller
      let t ← Act.current
      t.reserve.admits index
      let a ← applyChange [Text.lower holder] change
      let _ ← onReserve (ReserveIndex.raise index reason)
      next t a : Act DepositToken β) := by
  unfold RestoresRewards
  rw [Act.leaves_bind]
  apply leaves_requirePool.mono
  · intro _ s₀ h
    rcases h with ⟨hsame, hcaller⟩
    subst s₀
    rw [Act.leaves_bind, Act.leaves_current, Act.leaves_bind, Act.leaves_refusable]
    refine ⟨fun _ hadmits => ?_, fun _ _ _ _ => Or.inl rfl⟩
    rw [Act.leaves_bind]
    apply (restores_applyChange hs _ hchange).mono
    · intro a s₁ hframe
      rw [Act.leaves_bind, leaves_onReserve, hframe.reserve_eq]
      apply ReserveIndex.leaves_raise.mono
      · intro _ r _
        exact (hnext s a _).mono (fun _ _ _ => trivial) (fun _ _ h => h.elim)
      · intro _ r h
        exact absurd hadmits h.right
    · intro e s₁ h r hr
      rcases h r hr with hsame | ⟨hpins, hrefused⟩
      · exact Or.inl hsame
      · right
        unfold poolPass
        rw [hadmits, if_pos ⟨hcaller, rfl, hpins⟩]
        exact hrefused
    · intro x hx
      rw [List.mem_singleton.mp hx, Text.lower_lower]
  · intro _ s₀ h _ _
    rw [h.left]
    exact Or.inl rfl

theorem restores_mint {caller holder : String} {amount index : Int} (hs : s.Restorable) :
    s.RestoresRewards (s.poolPass caller holder index) (mint caller holder amount index) := by
  apply restores_bookAtIndex hs
  · intro model _ _
    exact BalanceModel.leaves_mint.mono (fun _ _ h => h.right) (fun _ _ h => h.right)
  · intro t first
    exact unfailing_reports ((unfailing_noteInfo _ _).bind fun _ => Act.unfailing_pure _)

theorem restores_burn {caller holder receiver : String} {amount index : Int} (hs : s.Restorable) :
    s.RestoresRewards (s.poolPass caller holder index)
      (burn caller holder receiver amount index) := by
  apply restores_bookAtIndex hs
  · intro model _ _
    exact BalanceModel.leaves_burn.mono (fun _ _ h => h.right) (fun _ _ h => h.right)
  · intro t burned
    exact unfailing_reports ((unfailing_noteInfo _ _).bind fun _ => Act.unfailing_pure _)

theorem RestoresRewards.afterPool {m : Act DepositToken α} {caller : String}
    (h : Text.lower caller = s.pool → s.RestoresRewards accounts m) :
    s.RestoresRewards accounts (do
      requirePool caller
      m : Act DepositToken α) := by
  unfold RestoresRewards
  rw [Act.leaves_bind]
  apply leaves_requirePool.mono
  · intro _ s₀ hsame
    rw [hsame.left]
    exact h hsame.right
  · intro _ s₀ hsame _ _
    rw [hsame.left]
    exact Or.inl rfl

theorem RestoresRewards.answering {m : Act DepositToken α} (h : s.RestoresRewards accounts m)
    (b : β) : s.RestoresRewards accounts (do
      let _ ← m
      return b : Act DepositToken β) := by
  unfold RestoresRewards
  rw [Act.leaves_bind]
  exact h

theorem restores_mintToTreasury {caller : String} {amount index : Int} (hs : s.Restorable) :
    s.RestoresRewards (if amount = 0 then [] else s.poolPass caller s.treasury index)
      (mintToTreasury caller amount index) := by
  apply RestoresRewards.afterPool
  intro _
  unfold RestoresRewards
  rw [Act.leaves_ite]
  refine ⟨fun _ => trivial, fun hzero => ?_⟩
  rw [Act.leaves_bind, Act.leaves_current, if_neg hzero]
  exact restores_mint hs

theorem restores_move {event sender recipient : String} {amount : Int} (hs : s.Restorable) :
    s.RestoresRewards (s.movePass sender recipient) (move event sender recipient amount) := by
  unfold move RestoresRewards
  rw [Act.leaves_bind, Act.leaves_current, Act.leaves_ite]
  refine ⟨fun _ _ _ => Or.inl rfl, fun haddress => ?_⟩
  rw [Act.leaves_bind]
  apply (restores_applyChange hs _ _).mono
  · intro _ s' _
    exact (unfailing_reports (Act.unfailing_note _) s').mono (fun _ _ _ => trivial)
      (fun _ _ h => h.elim)
  · intro e s' h r hr
    rcases h r hr with hsame | ⟨hpins, hrefused⟩
    · exact Or.inl hsame
    · right
      unfold movePass
      rw [if_neg]
      · exact hrefused
      · intro hleft
        rcases hleft with h | h
        · exact haddress h
        · exact h hpins
  · intro x hx
    rw [List.mem_cons, List.mem_singleton] at hx
    rcases hx with rfl | rfl <;> exact Text.lower_lower _
  · intro model hledger _
    have hnonneg : ∀ name, 0 ≤ model.ledger.held name := hledger ▸ hs.nonneg
    exact (BalanceModel.leaves_transfer hnonneg).mono (fun _ _ h => h.right) (fun _ _ h => h.right)

theorem restores_transfer {sender recipient : String} {amount : Int} (hs : s.Restorable) :
    s.RestoresRewards (s.movePass sender recipient) (transfer sender recipient amount) :=
  (restores_move hs).answering true

theorem restores_transferOnLiquidation {caller sender recipient : String} {amount : Int}
    (hs : s.Restorable) : s.RestoresRewards (s.seizurePass caller sender recipient)
      (transferOnLiquidation caller sender recipient amount) := by
  apply RestoresRewards.afterPool
  intro hcaller
  unfold seizurePass
  rw [if_pos hcaller]
  exact (restores_move hs).answering true

end DepositToken

namespace TokenCall

variable {s : DepositToken}

theorem restores_perform {c : TokenCall} (hc : c.isOfRewards = false) (hs : s.Restorable) :
    s.RestoresRewards (c.pass s) c.perform := by
  cases c with
  | mint caller holder amount index => exact (DepositToken.restores_mint hs).answering ()
  | burn caller holder receiver amount index => exact (DepositToken.restores_burn hs).answering ()
  | mintToTreasury caller amount index =>
      exact (DepositToken.restores_mintToTreasury hs).answering ()
  | transfer sender recipient amount => exact (DepositToken.restores_transfer hs).answering ()
  | transferOnLiquidation caller sender recipient amount =>
      exact (DepositToken.restores_transferOnLiquidation hs).answering ()
  | injectFlashLoanPremium caller premium =>
      exact Act.leaves_ending.mpr (DepositToken.leaves_injectFlashLoanPremium.mono
        (fun _ _ _ => trivial) (fun _ _ h _ _ => Or.inl h.rewards))
  | raiseIndex index reason =>
      exact Act.leaves_ending.mpr (DepositToken.leaves_raiseIndex.mono
        (fun _ _ _ => trivial) (fun _ _ h _ _ => Or.inl h.rewards))
  | moveAsset asset => exact trivial
  | _ => cases hc

/--
After any run, a change of the books whose checkpoints get to their end and
which is then refused leaves the rewards as they were, with the shares, the
index and the events.
-/
theorem refused_change_restores_rewards {start : DepositToken} {program : RewardProgram}
    (hshares : start.model.ledger.Sound) (hprogram : start.rewards = some program)
    (htracker : program.tracker.Sound) (calls : List TokenCall) (c : TokenCall)
    (hc : c.isOfRewards = false)
    (hcompletes : (afterAll calls start).Completes (c.pass (afterAll calls start)))
    {r : Refusal} {s' : DepositToken}
    (hrun : Act.run c.perform (afterAll calls start) = (.error (.refused r), s')) :
    let s := afterAll calls start
    s'.rewards = s.rewards ∧ s'.model.ledger = s.model.ledger ∧ s'.reserve = s.reserve ∧
      s'.events = s.events := by
  intro s
  rcases tracks_afterAll hshares ⟨program, hprogram, rfl⟩ htracker calls with
    ⟨hs, t, htracks, ht⟩
  have hrestorable : s.Restorable := by
    refine ⟨hs.nonneg, fun p hp => ?_⟩
    rw [htracks.unique ⟨p, hp, rfl⟩] at ht
    exact ht
  have hrewards : s'.rewards = s.rewards := by
    rcases (restores_perform hc hrestorable).of_error hrun r rfl with hsame | hrefused
    · exact hsame
    · exact absurd hrefused hcompletes.not_passRefused
  have hfails := (leaves_perform c hs.nonneg).of_error hrun
  exact ⟨hrewards, hfails.ledger, hfails.reserve, events_of_error c hrun⟩

/-- A transfer above the balance opens a state for a recipient that has none, and removes it. -/
theorem refused_change_restores_rewards_new_recipient :
    let program : RewardProgram := .empty 0
    let start : DepositToken := .atOne (.plain .empty) (some program)
    let calls := [mint "pool" "alice" 3 ray, registerRewardToken "rwd", distributeRewards "rwd" 10]
    let s := afterAll calls start
    let c := transfer "alice" "Bob" 5
    let s' := (Act.run c.perform s).2
    let sees (rewards : Option RewardProgram) := rewards.any fun p =>
      (p.tracker.statesOf "rwd").contains "bob"
    ∃ r, start.model.ledger.Sound ∧ start.rewards = some program ∧ program.tracker.Sound ∧
      s.Completes (c.pass s) ∧ sees (s.passed (c.pass s)) = true ∧
      Act.run c.perform s = (.error (.refused r), s') ∧ r.kind = .insufficientBalance ∧
      sees s.rewards = false ∧ s'.rewards = s.rewards ∧ s'.model.ledger = s.model.ledger ∧
      s'.reserve = s.reserve ∧ s'.events = s.events := by
  intro program start calls s c s' sees
  have hshares : start.model.ledger.Sound := ShareLedger.sound_empty
  have htracker : program.tracker.Sound := RewardTracker.sound_empty _
  have hcompletes : s.Completes (c.pass s) := isStopped_eq_false_iff.mp (by decide +kernel)
  have hrefused : (Act.refusal? (Act.run c.perform s).1).isSome = true := by decide +kernel
  let r := (Act.refusal? (Act.run c.perform s).1).getD default
  have hrun : Act.run c.perform s = (.error (.refused r), s') := Act.run_eq_refused hrefused
  have hrestored := refused_change_restores_rewards hshares rfl htracker calls c rfl hcompletes hrun
  exact ⟨r, hshares, rfl, htracker, hcompletes, by decide +kernel, hrun, by decide +kernel,
    by decide +kernel, hrestored⟩

end TokenCall
end ReserveAccounting
