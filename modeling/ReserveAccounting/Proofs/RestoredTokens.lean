import ReserveAccounting.Proofs.PaidRewards
import ReserveAccounting.Proofs.FailedCalls
import ReserveAccounting.Proofs.Snapshots

/-!
# Restored tokens

Whatever was done with a token, its snapshot can be read back, and the token
that is read differs in records alone: from then on it does and tells the same.
-/

namespace ReserveAccounting

/-!
# Views of a token
-/

namespace RebasingLedger

variable {w : RebasingLedger}

theorem leaves_measured {sharesOf : RebasingLedger → Int} :
    (do
      let rate ← snapshot
      let w ← Act.current
      FixedPoint.rayMul (sharesOf w) rate : Act RebasingLedger Int).Leaves w
      (fun _ w' => w'.ledger = w.ledger ∧ w'.pinned = w.pinned)
      (fun _ w' => w'.ledger = w.ledger ∧ w'.pinned = w.pinned) := by
  rw [Act.leaves_bind]
  apply leaves_snapshot.mono _ fun _ _ h => h
  intro rate w' h
  rw [Act.leaves_bind, Act.leaves_current, Act.leaves_refusable]
  exact ⟨fun _ _ => h, fun _ _ => h⟩

end RebasingLedger

namespace DepositToken

variable {s s' : DepositToken} {α : Type}

theorem reads_scaledBalanceOf {m : BalanceModel} {holder : String} :
    (BalanceModel.scaledBalanceOf holder).Leaves m
      (fun _ m' => m'.ledger = m.ledger ∧ m.Alike m')
      (fun _ m' => m'.ledger = m.ledger ∧ m.Alike m') :=
  BalanceModel.leaves_reading fun _ => RebasingLedger.leaves_measured

theorem reads_scaledTotalSupply {m : BalanceModel} :
    BalanceModel.scaledTotalSupply.Leaves m
      (fun _ m' => m'.ledger = m.ledger ∧ m.Alike m')
      (fun _ m' => m'.ledger = m.ledger ∧ m.Alike m') :=
  BalanceModel.leaves_reading fun _ => RebasingLedger.leaves_measured

theorem keeps_scaledBalanceAndSupply {holder : String} :
    (scaledBalanceAndSupply holder).Leaves s (fun _ s' => s.Keeps (· = s.rewards) s')
      (fun _ s' => s.Keeps (· = s.rewards) s') := by
  have hkeeps : ∀ s', s.Frame s' ∧ s'.model.ledger = s.model.ledger ∧ s'.rewards = s.rewards →
      s.Keeps (· = s.rewards) s' := fun s' h => h.left.changes h.right.left rfl h.right.right
  apply (leaves_withPinnedRate (fun _ l rewards => l = s.model.ledger ∧ rewards = s.rewards)
    (fun _ l rewards => l = s.model.ledger ∧ rewards = s.rewards) ?_ fun _ => ⟨rfl, rfl⟩).mono
    (fun _ s' h => hkeeps s' h) (fun _ s' h => hkeeps s' h)
  intro model hledger _ _
  unfold scaledBalanceOf scaledTotalSupply
  rw [Act.leaves_bind, leaves_onModel]
  apply reads_scaledBalanceOf.mono
  · intro balance model₁ h₁
    rw [Act.leaves_bind, leaves_onModel]
    apply reads_scaledTotalSupply.mono
    · intro supply model₂ h₂
      exact ⟨⟨⟨h₂.right.left.trans h₁.right.left, h₂.right.right.trans h₁.right.right⟩, rfl⟩,
        h₂.left.trans (h₁.left.trans hledger), rfl⟩
    · intro e model₂ h₂
      exact ⟨⟨⟨h₂.right.left.trans h₁.right.left, h₂.right.right.trans h₁.right.right⟩, rfl⟩,
        h₂.left.trans (h₁.left.trans hledger), rfl⟩
  · intro e model₁ h₁
    exact ⟨⟨h₁.right, rfl⟩, h₁.left.trans hledger, rfl⟩

theorem keeps_answering {β : Type} {m : Act DepositToken α} {f : α → β}
    (h : m.Leaves s (fun _ s' => s.Keeps (· = s.rewards) s')
      (fun _ s' => s.Keeps (· = s.rewards) s')) :
    (do return f (← m) : Act DepositToken β).Leaves s (fun _ s' => s.Keeps (· = s.rewards) s')
      (fun _ s' => s.Keeps (· = s.rewards) s') :=
  Act.leaves_bind.mpr h

theorem keeps_inspect {f : DepositToken → Except Fault α} :
    (Act.inspect f).Leaves s (fun _ s' => s.Keeps (· = s.rewards) s')
      (fun _ s' => s.Keeps (· = s.rewards) s') := by
  unfold Act.inspect
  rw [Act.leaves_bind, Act.leaves_current, Act.leaves_faulty]
  exact ⟨fun _ _ => Changes.refl rfl rfl rfl, fun _ _ => Changes.refl rfl rfl rfl⟩

theorem keeps_view (view : TokenView) :
    view.answer.Leaves s (fun _ s' => s.Keeps (· = s.rewards) s')
      (fun _ s' => s.Keeps (· = s.rewards) s') := by
  cases view with
  | balanceOf holder => exact keeps_answering keeps_balanceOf
  | scaledBalanceOf holder => exact keeps_answering (keeps_onModel reads_scaledBalanceOf)
  | totalSupply => exact keeps_answering keeps_totalSupply
  | scaledTotalSupply => exact keeps_answering (keeps_onModel reads_scaledTotalSupply)
  | scaledBalanceAndSupply holder => exact keeps_answering keeps_scaledBalanceAndSupply
  | _ => exact keeps_inspect

/-!
# Tokens between two steps
-/

/-- A token between two steps: honest in what it has of rewards, with a positive index and no pin. -/
structure WellKept (s : DepositToken) : Prop where
  shares : s.model.ledger.Sound
  unpinned : s.model.pinned? = none
  index : 0 < s.index
  program : ∀ p, s.rewards = some p → p.Honest

theorem WellKept.of_keeps (hs : s.WellKept) (h : s.Keeps (· = s.rewards) s') : s'.WellKept where
  shares := by
    rw [h.ledger]
    exact hs.shares
  unpinned := h.alike.right.trans hs.unpinned
  index := by
    unfold DepositToken.index
    rw [h.reserve]
    exact hs.index
  program := by
    rw [h.rewards]
    exact hs.program

theorem rewards_after_of_none (c : TokenCall) (hs : s.WellKept) (hnone : s.rewards = none) :
    (c.after s).rewards = none := by
  have hpassed : ∀ accounts, s.passed accounts = none := by
    intro accounts
    unfold passed
    rw [hnone]
    rfl
  have hbooks : c.isOfRewards = false → (c.after s).rewards = none := by
    intro hc
    apply @Act.Leaves.state _ _ c.perform s fun s' => s'.rewards = none
    apply (TokenCall.leaves_perform c hs.shares.nonneg).mono
    · intro _ s' h
      exact (h.rewards hc).left.trans (hpassed _)
    · intro _ s' h
      rcases h.rewards hc with hsame | hpass | ⟨p, _, _, hprogram, _⟩
      · exact hsame.trans hnone
      · exact hpass.trans (hpassed _)
      · rw [hnone] at hprogram
        cases hprogram
  cases c with
  | registerRewardToken token =>
      apply @Act.Leaves.state _ _ (TokenCall.registerRewardToken token).perform s
        fun s' => s'.rewards = none
      rw [TokenCall.perform, Act.leaves_ending, registerRewardToken, leaves_onRewards_none hnone]
      exact hnone
  | distributeRewards token amount =>
      apply @Act.Leaves.state _ _ (TokenCall.distributeRewards token amount).perform s
        fun s' => s'.rewards = none
      rw [TokenCall.perform, Act.leaves_ending, distributeRewards, Act.leaves_bind,
        Act.leaves_current, leaves_onRewards_none hnone]
      exact hnone
  | claim holder token =>
      apply @Act.Leaves.state _ _ (TokenCall.claim holder token).perform s
        fun s' => s'.rewards = none
      rw [TokenCall.perform, Act.leaves_ending, claim, Act.leaves_bind, Act.leaves_current,
        Act.leaves_bind, Act.leaves_faulty]
      refine ⟨fun p hp => ?_, fun _ _ => hnone⟩
      rw [program_eq_ok, hnone] at hp
      cases hp
  | setReserveFactor caller factor =>
      apply @Act.Leaves.state _ _ (TokenCall.setReserveFactor caller factor).perform s
        fun s' => s'.rewards = none
      apply leaves_setReserveFactor.mono
      · intro _ s' h
        rcases h with ⟨p, hprogram, _⟩
        rw [hnone] at hprogram
        cases hprogram
      · intro _ s' hsame
        rw [hsame]
        exact hnone
  | _ => exact hbooks rfl

theorem wellKept_after (c : TokenCall) (hs : s.WellKept) : (c.after s).WellKept where
  shares := TokenCall.sound_after c hs.shares
  unpinned := (TokenCall.atRest_after c ⟨hs.shares.nonneg, hs.unpinned⟩).unpinned
  index := hs.index.trans_le (TokenCall.index_le_after c hs.shares)
  program p hp := by
    cases hprogram : s.rewards with
    | none =>
        rw [rewards_after_of_none c hs hprogram] at hp
        cases hp
    | some q =>
        rcases (TokenCall.honest_after c ⟨hs.shares, q, hprogram, hs.program q hprogram⟩).program
          with ⟨p', hp', hhonest⟩
        rw [hp] at hp'
        cases hp'
        exact hhonest

/-!
# Names that stay
-/

structure SameNames (s s' : DepositToken) : Prop where
  pool : s'.pool = s.pool
  treasury : s'.treasury = s.treasury
  underlying : s'.underlying = s.underlying
  asset : s'.reserve.asset = s.reserve.asset

theorem stable_asset_raise {asset : Document} (index : Int) (reason : String) :
    Act.Stable (fun r => r.asset = asset) (ReserveIndex.raise index reason) := by
  unfold ReserveIndex.raise
  apply Act.Stable.of_current
  intro r hr
  apply (Act.Stable.refusable _).bind
  intro _
  apply Act.Stable.ite (Act.Stable.pure index)
  have hcommit : Act.Stable (fun r : ReserveIndex => r.asset = asset)
      (Act.replace (r.commit index reason)) := ⟨fun _ _ => hr⟩
  apply hcommit.bind
  intro _
  exact (Act.Stable.note _).bind fun _ => Act.Stable.pure index

theorem stable_asset_cumulate {asset : Document} (liquidity amount : Int) :
    Act.Stable (fun r => r.asset = asset) (ReserveIndex.cumulate liquidity amount) := by
  unfold ReserveIndex.cumulate
  apply Act.Stable.current.bind
  intro r
  apply (Act.Stable.refusable _).bind
  intro index
  exact stable_asset_raise index "premium"

theorem walk_sameNames (s : DepositToken) : Walk fun m => Act.Stable s.SameNames m where
  pure := Act.Stable.pure
  refuse := Act.Stable.refuse
  faulty := Act.Stable.faulty
  refusable := Act.Stable.refusable
  note := Act.Stable.note
  bind := Act.Stable.bind
  current _ hf := Act.Stable.current.bind hf
  emit _ _ _ _ _ := Act.Stable.update fun _ h => ⟨h.pool, h.treasury, h.underlying, h.asset⟩
  model _ := Act.Stable.within_aside fun _ _ h => ⟨h.pool, h.treasury, h.underlying, h.asset⟩
  pinned hm := by
    apply Act.Stable.bind
    · exact Act.Stable.within_aside fun _ _ h => ⟨h.pool, h.treasury, h.underlying, h.asset⟩
    · intro mine
      apply Act.Stable.ite _ hm
      exact hm.thenAlways fun _ h => ⟨h.pool, h.treasury, h.underlying, h.asset⟩
  restored saved hm :=
    hm.onRefusal fun _ h => ⟨h.pool, h.treasury, h.underlying, h.asset⟩
  raise index reason := Act.Stable.within (fun _ h => h.asset)
    (fun _ _ h hr => ⟨h.pool, h.treasury, h.underlying, hr⟩) (stable_asset_raise index reason)
  cumulate liquidity amount := Act.Stable.within (fun _ h => h.asset)
    (fun _ _ h hr => ⟨h.pool, h.treasury, h.underlying, hr⟩)
    (stable_asset_cumulate liquidity amount)
  rewards _ := stable_onRewards_of fun _ _ h => ⟨h.pool, h.treasury, h.underlying, h.asset⟩
  factor _ _ := Act.Stable.update fun _ h => ⟨h.pool, h.treasury, h.underlying, h.asset⟩
  asset _ := Act.Stable.update fun _ h => ⟨h.pool, h.treasury, h.underlying, h.asset⟩

end DepositToken

theorem BalanceModel.pinned?_withReads (n : Nat) (m : BalanceModel) :
    (m.withReads n).pinned? = m.pinned? := by
  cases m <;> rfl

namespace ReserveIndex

variable {r : ReserveIndex} {asset : Document}

theorem named_eq_self_iff : r.named asset = r ↔ r.asset.isGiven = true ∨ asset = r.asset := by
  unfold named
  split
  · next h => simp [h]
  · next h =>
      simp only [h, Bool.false_eq_true, false_or]
      constructor
      · intro hsame
        exact congrArg ReserveIndex.asset hsame
      · intro hsame
        rw [hsame]

theorem named_named : (r.named asset).named asset = r.named asset := by
  rw [named_eq_self_iff]
  unfold named
  split
  · next h => exact Or.inl h
  · exact Or.inr rfl

end ReserveIndex

namespace DepositToken

variable {s s' : DepositToken}

/-!
# Tokens that can be reached
-/

structure IsUnused (t : DepositToken) : Prop where
  shares : t.model.ledger = .empty
  unpinned : t.model.pinned? = none
  index : 0 < t.index
  rewards : ∀ p, t.rewards = some p → p.tracker = .empty p.tracker.capacity ∧ p.strayFactor = none

end DepositToken

/-- A token after it was made, and any calls, views and restorations. -/
inductive TokenStep.Reachable : DepositToken → Prop where
  | made {t s : DepositToken} (ht : t.IsUnused) (hmake : t.make = .ok s) : Reachable s
  | after {s : DepositToken} (hs : Reachable s) (step : TokenStep) :
      Reachable (Act.run step.answer s).2
  | restored {s s' : DepositToken} (hs : Reachable s)
      (hread : DepositToken.ofDocument s.rewards.isSome s.toDocument s.model.asset? = .ok s') : Reachable s'

namespace DepositToken

variable {s s' : DepositToken}

structure Restores (s : DepositToken) : Prop where
  kept : s.WellKept
  named : s.reserve.named s.underlying = s.reserve
  pool : Text.lower s.pool = s.pool
  treasury : Text.lower s.treasury = s.treasury

theorem Restores.legible (hs : s.Restores) : s.Legible where
  shares := hs.kept.shares.small
  unpinned := hs.kept.unpinned
  index := hs.kept.index
  named := hs.named
  pool := hs.pool
  treasury := hs.treasury
  rewards p hp := by
    have hhonest := hs.kept.program p hp
    exact ⟨hhonest.sound, hhonest.stray, hhonest.factor.left, hhonest.factor.right⟩

theorem Restores.of_sameNames (hs : s.Restores) (h : s.SameNames s') (hkept : s'.WellKept) :
    s'.Restores where
  kept := hkept
  named := by
    have hnamed := hs.named
    rw [ReserveIndex.named_eq_self_iff] at hnamed ⊢
    rw [h.asset, h.underlying]
    exact hnamed
  pool := by
    rw [h.pool]
    exact hs.pool
  treasury := by
    rw [h.treasury]
    exact hs.treasury

theorem requireProgram_of_make {t : DepositToken} {p : RewardProgram} (hp : t.rewards = some p)
    (hmake : t.make = .ok s) : requireProgram p = .ok () := by
  unfold make at hmake
  rw [hp] at hmake
  dsimp only at hmake
  cases hprogram : requireProgram p with
  | ok _ => rfl
  | error e =>
      rw [hprogram] at hmake
      cases hmake

theorem eq_of_make {t : DepositToken} (hmake : t.make = .ok s) :
    s = { t with
      pool := Text.lower t.pool
      treasury := Text.lower t.treasury
      reserve := t.reserve.named t.underlying } := by
  cases hp : t.rewards with
  | none =>
      unfold make at hmake
      rw [hp] at hmake
      cases hmake
      rfl
  | some p =>
      have hprogram := requireProgram_of_make hp hmake
      unfold make at hmake
      rw [hp] at hmake
      dsimp only at hmake
      rw [hprogram] at hmake
      cases hmake
      rfl

theorem restores_made {t : DepositToken} (ht : t.IsUnused) (hmake : t.make = .ok s) :
    s.Restores := by
  have hprogram := fun p hp => @requireProgram_of_make s t p hp hmake
  rw [eq_of_make hmake]
  refine ⟨⟨?_, ht.unpinned, ?_, ?_⟩, ReserveIndex.named_named, Text.lower_lower _,
    Text.lower_lower _⟩
  · rw [ht.shares]
    exact ShareLedger.sound_empty
  · have hindex := ht.index
    unfold index ReserveIndex.named at *
    split <;> exact hindex
  · intro p hp
    rcases ht.rewards p hp with ⟨hempty, hstray⟩
    refine ⟨?_, ?_, hstray, factor_of_requireProgram hstray (hprogram p hp)⟩
    · rw [hempty]
      exact RewardTracker.sound_empty _
    · rw [hempty]
      exact RewardTracker.paysWithin_empty _

theorem restores_recorded (hs : s.Restores) (r : TokenRecords) : (s.recorded r).Restores := by
  refine ⟨⟨?_, ?_, hs.kept.index, hs.kept.program⟩, ?_, hs.pool, hs.treasury⟩
  · change (s.model.withReads r.rateReads).ledger.Sound
    rw [BalanceModel.ledger_withReads]
    exact hs.kept.shares
  · change (s.model.withReads r.rateReads).pinned? = none
    rw [BalanceModel.pinned?_withReads]
    exact hs.kept.unpinned
  · change (s.reserve.withHistory (r.history, r.maxHistory)).named s.underlying = _
    rw [ReserveIndex.named_withHistory, hs.named]
    rfl

theorem restores_step (hs : s.Restores) (step : TokenStep) :
    (Act.run step.answer s).2.Restores := by
  have hnames := ((walk_sameNames s).step step).after s ⟨rfl, rfl, rfl, rfl⟩
  apply hs.of_sameNames hnames
  cases step with
  | call c =>
      have hkept := wellKept_after c hs.kept
      rw [TokenCall.after_eq] at hkept
      exact hkept
  | view view =>
      apply @Act.Leaves.state _ _ view.answer s WellKept
      exact (keeps_view view).mono (fun _ _ h => hs.kept.of_keeps h) (fun _ _ h => hs.kept.of_keeps h)

theorem reachable_atOne {model : BalanceModel} {rewards : Option RewardProgram}
    (hshares : model.ledger = .empty) (hunpinned : model.pinned? = none)
    (hrewards : ∀ p, rewards = some p →
      (p.tracker = .empty p.tracker.capacity ∧ p.strayFactor = none) ∧
        requireProgram p = .ok ()) :
    TokenStep.Reachable (.atOne model rewards) := by
  have hpool : Text.lower "pool" = "pool" := by decide +kernel
  have htreasury : Text.lower defaultTreasury = defaultTreasury := by decide +kernel
  have hmade : (atOne model rewards).make = .ok { atOne model rewards with
      pool := Text.lower "pool", treasury := Text.lower defaultTreasury } := by
    cases rewards with
    | none => rfl
    | some p =>
        unfold make
        change (requireProgram p >>= fun _ => _) = _
        rw [(hrewards p rfl).right]
        rfl
  rw [hpool, htreasury] at hmade
  have hindex : 0 < (atOne model rewards).index := by
    change 0 < FixedPoint.ray
    decide
  exact .made ⟨hshares, hunpinned, hindex, fun p hp => (hrewards p hp).left⟩ hmade

theorem reachable_after (c : TokenCall) (hs : TokenStep.Reachable s) :
    TokenStep.Reachable (c.after s) := by
  rw [TokenCall.after_eq]
  exact hs.after (.call c)

theorem restores_of_reachable (hs : TokenStep.Reachable s) : s.Restores := by
  induction hs with
  | made ht hmake => exact restores_made ht hmake
  | after _ step ih => exact restores_step ih step
  | restored _ hread ih =>
      rw [ofDocument_toDocument ih.legible] at hread
      cases hread
      exact restores_recorded ih _

theorem restored_alike (hs : TokenStep.Reachable s) :
    ∃ s', ofDocument s.rewards.isSome s.toDocument s.model.asset? = .ok s' ∧
      ∀ steps : List TokenStep, List.Forall₂
        (fun x y => x.1 = y.1 ∧ x.2.toDocument = y.2.toDocument ∧ x.2.holders = y.2.holders)
        (Act.trace TokenStep.answer steps s) (Act.trace TokenStep.answer steps s') := by
  refine ⟨_, ofDocument_toDocument (restores_of_reachable hs).legible, fun steps => ?_⟩
  apply (Act.Overlooks.forall₂_trace walk_overlooks.step steps s s.restoredRecords).imp
  rintro ⟨answer, s₁⟩ ⟨answer', s₂⟩ ⟨hanswer, r, rfl⟩
  exact ⟨hanswer, (toDocument_recorded r s₁).symm, (holders_recorded r s₁).symm⟩

end DepositToken
end ReserveAccounting
