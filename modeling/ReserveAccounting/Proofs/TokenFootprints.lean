import ReserveAccounting.Proofs.Footprints
import ReserveAccounting.Proofs.RewardFootprints

/-!
# Footprints of calls of a token

The calls that concern holders are walked through once, for any relation of
tokens that the steps of the calls respect. Tokens that match on the holders of
a call are one such relation, the tokens that have the same setting and the same
rates are another.
-/

namespace ReserveAccounting

open FixedPoint

structure RewardProgram.MatchesOn (p : String → Prop) (e : String → Int) (q q' : RewardProgram) :
    Prop where
  tracker : q.tracker.MatchesOn p e q'.tracker
  reserveFactor : q'.reserveFactor = q.reserveFactor
  strayFactor : q'.strayFactor = q.strayFactor

theorem RewardProgram.MatchesOn.factor_eq {p : String → Prop} {e : String → Int}
    {q q' : RewardProgram} (h : q.MatchesOn p e q') : q'.factor = q.factor := by
  simp [factor, h.reserveFactor, h.strayFactor]

theorem RewardProgram.MatchesOn.rel_mono {p q : String → Prop} {e : String → Int}
    {r r' : Option RewardProgram} (h : Option.Rel (MatchesOn p e) r r') (hpq : ∀ x, q x → p x) :
    Option.Rel (MatchesOn q e) r r' := by
  cases h with
  | none => exact .none
  | some h => exact .some ⟨h.tracker.mono hpq, h.reserveFactor, h.strayFactor⟩

theorem ReserveIndex.stable_raise_current (r : ReserveIndex) (reason : String) :
    Act.Stable (· = r) (raise r.liquidityIndex reason) := by
  constructor
  intro r' hr'
  cases hr'
  unfold raise
  rw [Act.run_bind_ok (Act.run_current r)]
  cases r.admits r.liquidityIndex with
  | ok _ =>
      rw [Act.bind_refusable, if_pos rfl]
      rfl
  | error _ => rfl

namespace DepositToken

variable {base s s' : DepositToken} {p : String → Prop} {d : Int} {e : String → Int}
  {R : DepositToken → DepositToken → Prop} {α : Type} {accounts : List String}

structure SameSetting (s s' : DepositToken) : Prop where
  pool : s'.pool = s.pool
  treasury : s'.treasury = s.treasury
  symbol : s'.symbol = s.symbol
  reserve : s'.reserve = s.reserve

theorem SameSetting.refl (s : DepositToken) : s.SameSetting s := ⟨rfl, rfl, rfl, rfl⟩

theorem SameSetting.index_eq (h : s.SameSetting s') : s'.index = s.index := by
  unfold index
  rw [h.reserve]

theorem SameSetting.within {model : BalanceModel} {rewards : Option RewardProgram}
    {events : List TokenEvent} (h : base.SameSetting s) :
    base.SameSetting { s with model := model, rewards := rewards, events := events } :=
  ⟨h.pool, h.treasury, h.symbol, h.reserve⟩

/-!
# A walk for two runs
-/

/--
What a relation of tokens in one setting needs for the calls of the books to
respect it: the steps of a call do, for accounts with some property and at the
index of the setting.
-/
structure PairedWalk (R : DepositToken → DepositToken → Prop) (p : String → Prop)
    (base : DepositToken) : Prop where
  left {s s' : DepositToken} : R s s' → base.SameSetting s
  right {s s' : DepositToken} : R s s' → base.SameSetting s'
  emit (kind : EventKind) (source target : String) (value index : Int) :
    Act.Respects R (emit kind source target value index)
  raise (reason : String) : Act.Respects R (onReserve (ReserveIndex.raise base.index reason))
  mint {account : String} (amount : Int) : Text.lower account = account → p account →
    Act.Respects R (applyChange [account] (BalanceModel.mint account amount base.index))
  burn {account : String} (amount : Int) : Text.lower account = account → p account →
    Act.Respects R (applyChange [account] (BalanceModel.burn account amount base.index))
  transfer {source target : String} (amount : Int) : Text.lower source = source → p source →
    Text.lower target = target → p target →
    Act.Respects R
      (applyChange [source, target] (BalanceModel.transfer source target amount base.index))

namespace PairedWalk

variable {caller holder receiver sender recipient event : String} {amount : Int}

theorem requirePool (w : PairedWalk R p base) :
    Act.Respects R (DepositToken.requirePool caller) := by
  unfold DepositToken.requirePool
  apply Act.Respects.of_current
  · intro s s' h
    rw [(w.right h).pool, (w.right h).symbol, (w.left h).pool, (w.left h).symbol]
  · intro s s' _
    exact Act.Respects.ite (Act.Respects.pure ()) (Act.Respects.refuse _)

theorem respects_mint (w : PairedWalk R p base) (hp : p (Text.lower holder)) :
    Act.Respects R (DepositToken.mint caller holder amount base.index) := by
  unfold DepositToken.mint
  apply Act.Respects.bind w.requirePool
  intro _
  apply Act.Respects.of_current
  · intro s s' h
    rw [(w.right h).pool, (w.right h).symbol, (w.right h).reserve, (w.left h).pool,
      (w.left h).symbol, (w.left h).reserve]
  · intro s s' _
    apply Act.Respects.bind (Act.Respects.refusable _)
    intro _
    apply Act.Respects.bind (w.mint amount (Text.lower_lower holder) hp)
    intro first
    apply Act.Respects.bind (w.raise "mint")
    intro _
    apply Act.Respects.bind (w.emit _ _ _ _ _)
    intro _
    apply Act.Respects.bind (w.emit _ _ _ _ _)
    intro _
    exact Act.Respects.bind (Act.Respects.note _) fun _ => Act.Respects.pure first

theorem respects_burn (w : PairedWalk R p base) (hp : p (Text.lower holder)) :
    Act.Respects R (DepositToken.burn caller holder receiver amount base.index) := by
  unfold DepositToken.burn
  apply Act.Respects.bind w.requirePool
  intro _
  apply Act.Respects.of_current
  · intro s s' h
    rw [(w.right h).symbol, (w.right h).reserve, (w.left h).symbol, (w.left h).reserve]
  · intro s s' _
    apply Act.Respects.bind (Act.Respects.refusable _)
    intro _
    apply Act.Respects.bind (w.burn amount (Text.lower_lower holder) hp)
    intro burned
    apply Act.Respects.bind (w.raise "burn")
    intro _
    apply Act.Respects.bind (w.emit _ _ _ _ _)
    intro _
    apply Act.Respects.bind (w.emit _ _ _ _ _)
    intro _
    exact Act.Respects.bind (Act.Respects.note _) fun _ => Act.Respects.pure burned

theorem respects_mintToTreasury (w : PairedWalk R p base) (hp : p (Text.lower base.treasury)) :
    Act.Respects R (mintToTreasury caller amount base.index) := by
  unfold mintToTreasury
  apply Act.Respects.bind w.requirePool
  intro _
  apply Act.Respects.ite (Act.Respects.pure false)
  apply Act.Respects.of_current
  · intro s s' h
    rw [(w.right h).treasury, (w.left h).treasury]
  · intro s s' h
    rw [(w.left h).treasury]
    exact w.respects_mint hp

theorem respects_move (w : PairedWalk R p base) (hsender : p (Text.lower sender))
    (hrecipient : p (Text.lower recipient)) :
    Act.Respects R (move event sender recipient amount) := by
  unfold move
  apply Act.Respects.of_current
  · intro s s' h
    rw [(w.right h).symbol, (w.right h).index_eq, (w.left h).symbol, (w.left h).index_eq]
  · intro s s' h
    apply Act.Respects.ite (Act.Respects.refuse _)
    rw [(w.left h).index_eq]
    apply Act.Respects.bind (w.transfer amount (Text.lower_lower sender) hsender
      (Text.lower_lower recipient) hrecipient)
    intro _
    apply Act.Respects.bind (w.emit _ _ _ _ _)
    intro _
    apply Act.Respects.bind (w.emit _ _ _ _ _)
    intro _
    exact Act.Respects.note _

theorem respects_transfer (w : PairedWalk R p base) (hsender : p (Text.lower sender))
    (hrecipient : p (Text.lower recipient)) :
    Act.Respects R (DepositToken.transfer sender recipient amount) :=
  Act.Respects.bind (w.respects_move hsender hrecipient) fun _ => Act.Respects.pure true

theorem respects_transferOnLiquidation (w : PairedWalk R p base) (hsender : p (Text.lower sender))
    (hrecipient : p (Text.lower recipient)) :
    Act.Respects R (transferOnLiquidation caller sender recipient amount) :=
  Act.Respects.bind w.requirePool fun _ =>
    Act.Respects.bind (w.respects_move hsender hrecipient) fun _ => Act.Respects.pure true

end PairedWalk

/-!
# Tokens that match
-/

structure MatchesOn (base : DepositToken) (p : String → Prop) (d : Int) (e : String → Int)
    (s s' : DepositToken) : Prop where
  left : base.SameSetting s
  right : base.SameSetting s'
  model : s.model.MatchesOn p d s'.model
  rewards : Option.Rel (RewardProgram.MatchesOn p e) s.rewards s'.rewards

theorem respects_onModel {m : Act BalanceModel α}
    (hm : Act.Respects (BalanceModel.MatchesOn p d) m) :
    Act.Respects (MatchesOn base p d e) (onModel m) :=
  Act.Respects.within (fun _ _ h => h.model)
    (fun _ _ _ _ h hmodel => ⟨h.left.within, h.right.within, hmodel, h.rewards⟩) hm

theorem MatchesOn.cases_rewards (h : MatchesOn base p d e s s') :
    s.rewards = none ∧ s'.rewards = none ∨
      ∃ q q', s.rewards = some q ∧ s'.rewards = some q' ∧ q.MatchesOn p e q' := by
  have hrewards := h.rewards
  cases hs : s.rewards with
  | none =>
      cases hs' : s'.rewards with
      | none => exact Or.inl ⟨rfl, rfl⟩
      | some q' =>
          rw [hs, hs'] at hrewards
          cases hrewards
  | some q =>
      cases hs' : s'.rewards with
      | none =>
          rw [hs, hs'] at hrewards
          cases hrewards
      | some q' =>
          rw [hs, hs'] at hrewards
          cases hrewards with
          | some hq => exact Or.inr ⟨q, q', rfl, rfl, hq⟩

theorem respects_onRewards {m : Act RewardTracker α}
    (hm : Act.Respects (RewardTracker.MatchesOn p e) m) :
    Act.Respects (MatchesOn base p d e) (onRewards m) := by
  apply Act.Respects.of_run
  intro s s' h
  rcases h.cases_rewards with ⟨hs, hs'⟩ | ⟨q, q', hs, hs', hq⟩
  · rw [run_onRewards_none m hs, run_onRewards_none m hs']
    exact ⟨rfl, h⟩
  · rw [run_onRewards m hs, run_onRewards m hs']
    exact ⟨hm.outcome_eq hq.tracker, h.left.within, h.right.within, h.model,
      .some ⟨hm.after hq.tracker, hq.reserveFactor, hq.strayFactor⟩⟩

/-!
# Changes of the books
-/

theorem respects_checkpointHolders (haccounts : ∀ x ∈ accounts, Text.lower x = x ∧ p x) :
    Act.Respects (MatchesOn base p d e) (checkpointHolders accounts) := by
  intro s s' h
  have hbasis : ∀ x ∈ accounts, s'.model.rewardBasisOf x = s.model.rewardBasisOf x := by
    intro x hx
    rcases haccounts x hx with ⟨hsmall, hp⟩
    exact h.model.rewardBasisOf_eq (hsmall.symm ▸ hp)
  unfold checkpointHolders
  rw [Act.pairs_current_left, Act.pairs_current_right,
    RewardTracker.checkpointHolders_congr hbasis]
  rcases h.cases_rewards with ⟨hs, hs'⟩ | ⟨q, q', hs, hs', _⟩
  · rw [hs, hs']
    exact ⟨rfl, h⟩
  · rw [hs, hs']
    exact respects_onRewards (RewardTracker.respects_checkpointHolders haccounts) s s' h

/-- Whatever the books are, what a pass has saved takes the rewards back. -/
def Restoring (s : DepositToken) (saved : List RewardTracker.Saved) (s' : DepositToken) : Prop :=
  ∀ model, withRestored saved { s' with model := model } = { s with model := model }

theorem restoring_checkpointHolders (hs : ∀ q, s.rewards = some q → q.tracker.Sound)
    (hsmall : ∀ x ∈ accounts, Text.lower x = x) :
    (checkpointHolders accounts).Leaves s (fun saved s' => s.Restoring saved s')
      (fun _ _ => True) := by
  apply leaves_checkpointHolders.mono _ fun _ _ _ => trivial
  intro saved s' hleft
  rcases hleft with ⟨rfl, hsaved⟩
  intro model
  unfold withRestored passed
  cases hrewards : s.rewards with
  | none =>
      rw [← hrewards]
      simp [hrewards]
  | some q =>
      rcases hsaved q hrewards with ⟨t', hrun⟩
      rcases (RewardTracker.settles_checkpointHolders (hs q hrewards) hsmall).of_ok hrun with
        ⟨hsaves, hsettles, _⟩
      simp [hrun, hsaves.restore_eq (hs q hrewards) hsettles.differs]

theorem MatchesOn.pairs_change {saved : List RewardTracker.Saved} {s₁ s₁' : DepositToken}
    {change : Act BalanceModel α} (h : MatchesOn base p d e s s')
    (h₁ : MatchesOn base p d e s₁ s₁') (hrestoring : s.Restoring saved s₁)
    (hrestoring' : s'.Restoring saved s₁')
    (hchange : Act.Respects (BalanceModel.MatchesOn p d) change) :
    ((onModel change).onRefusal (withRestored saved)).Pairs
      ((onModel change).onRefusal (withRestored saved)) s₁ s₁'
      (fun a b s₂ s₂' => a = b ∧ MatchesOn base p d e s₂ s₂')
      (fun r r' s₂ s₂' => r = r' ∧ MatchesOn base p d e s₂ s₂') := by
  have houtcome := hchange.outcome_eq h₁.model
  have hafter := hchange.after h₁.model
  unfold Act.Pairs
  simp only [Act.run_onRefusal, onModel, Act.run_within]
  rw [houtcome]
  cases (Act.run change s₁.model).1 with
  | ok a => exact ⟨rfl, h₁.left.within, h₁.right.within, hafter, h₁.rewards⟩
  | error r =>
      cases r with
      | refused r =>
          dsimp only
          rw [hrestoring, hrestoring']
          exact ⟨rfl, h.left.within, h.right.within, hafter, h.rewards⟩
      | _ => exact ⟨rfl, h₁.left.within, h₁.right.within, hafter, h₁.rewards⟩

theorem respects_applyChange {change : Act BalanceModel α}
    (haccounts : ∀ x ∈ accounts, Text.lower x = x ∧ p x)
    (hchange : Act.Respects (BalanceModel.MatchesOn p d) change) :
    Act.Respects (MatchesOn base p d e) (applyChange accounts change) := by
  have hsmall : ∀ x ∈ accounts, Text.lower x = x := fun x hx => (haccounts x hx).left
  have hcall : Act.Respects (MatchesOn base p d e) (do
      let saved ← checkpointHolders accounts
      (onModel change).onRefusal (withRestored saved) : Act DepositToken α) := by
    intro s s' h
    have hsound : (∀ q, s.rewards = some q → q.tracker.Sound) ∧
        ∀ q, s'.rewards = some q → q.tracker.Sound := by
      rcases h.cases_rewards with ⟨hs, hs'⟩ | ⟨q, q', hs, hs', hq⟩
      · simp [hs, hs']
      · simp [hs, hs', hq.tracker.left, hq.tracker.right]
    apply Act.Pairs.bind
    apply (((respects_checkpointHolders haccounts s s' h).and_left
      (restoring_checkpointHolders hsound.left hsmall)).and_right
      (restoring_checkpointHolders hsound.right hsmall)).mono
    · intro saved saved' s₁ s₁' hleft
      rcases hleft with ⟨⟨⟨rfl, h₁⟩, hrestoring⟩, hrestoring'⟩
      exact h.pairs_change h₁ hrestoring hrestoring' hchange
    · intro _ _ _ _ hleft
      exact hleft.left.left
  unfold applyChange withPinnedRate
  apply Act.Respects.bind (respects_onModel BalanceModel.respects_pinRate)
  intro mine
  apply Act.Respects.ite _ hcall
  exact Act.Respects.thenAlways hcall fun _ _ h =>
    ⟨h.left.within, h.right.within, h.model.unpinned, h.rewards⟩

theorem pairedWalk_matchesOn : PairedWalk (MatchesOn base p d e) p base where
  left h := h.left
  right h := h.right
  emit _ _ _ _ _ :=
    Act.Respects.update fun _ _ h => ⟨h.left.within, h.right.within, h.model, h.rewards⟩
  raise reason := by
    apply Act.Respects.within (Q := fun r r' => r = r' ∧ r = base.reserve)
    · intro s s' h
      exact ⟨h.left.reserve.trans h.right.reserve.symm, h.left.reserve⟩
    · intro s s' r r' h hr
      rcases hr with ⟨rfl, rfl⟩
      exact ⟨⟨h.left.pool, h.left.treasury, h.left.symbol, rfl⟩,
        ⟨h.right.pool, h.right.treasury, h.right.symbol, rfl⟩, h.model, h.rewards⟩
    · exact Act.Respects.of_stable (ReserveIndex.stable_raise_current base.reserve reason)
  mint amount hsmall hp := by
    apply respects_applyChange
    · simp [hsmall, hp]
    · exact BalanceModel.respects_mint (hsmall.symm ▸ hp)
  burn amount hsmall hp := by
    apply respects_applyChange
    · simp [hsmall, hp]
    · exact BalanceModel.respects_burn (hsmall.symm ▸ hp)
  transfer amount hsource hpsource htarget hptarget := by
    apply respects_applyChange
    · simp [hsource, hpsource, htarget, hptarget]
    · exact BalanceModel.respects_transfer (hsource.symm ▸ hpsource) (htarget.symm ▸ hptarget)

/-!
# Tokens in one setting
-/

structure Resembles (base s : DepositToken) : Prop where
  setting : base.SameSetting s
  rates : base.model.SameRates s.model

theorem Resembles.refl (s : DepositToken) : s.Resembles s :=
  ⟨.refl s, BalanceModel.sameRates_refl s.model⟩

theorem stable_resembles_onModel {m : Act BalanceModel α}
    (hm : Act.Stable base.model.SameRates m) : Act.Stable base.Resembles (onModel m) :=
  Act.Stable.within (fun _ h => h.rates) (fun _ _ h hm => ⟨h.setting.within, hm⟩) hm

theorem stable_resembles_applyChange (hrate : base.model.HasFixedRate)
    {onPlain : Act ShareLedger α} {onRebasing : Act RebasingLedger α}
    (hchange : ∀ {q : ReserveAsset → Prop}, Act.Stable q ReserveAsset.exchangeRate →
      Act.Stable (RebasingLedger.Over q) onRebasing) :
    Act.Stable base.Resembles
      (applyChange accounts (BalanceModel.dispatch onPlain onRebasing)) := by
  have hreading := BalanceModel.stable_sameRates hrate
  apply stable_applyChange_of
  · apply stable_resembles_onModel
    apply BalanceModel.stable_assetIs_dispatch
    exact (RebasingLedger.stable_pinRate hreading).bind fun _ => Act.Stable.pure _
  · intro s h
    exact ⟨h.setting.within, BalanceModel.assetIs_unpinned h.rates⟩
  · intro s rewards h
    exact ⟨h.setting.within, h.rates⟩
  · exact stable_resembles_onModel (BalanceModel.stable_assetIs_dispatch (hchange hreading))

theorem pairedWalk_resembles (hrate : base.model.HasFixedRate) :
    PairedWalk (fun s s' => s = s' ∧ base.Resembles s) (fun _ => True) base where
  left h := h.right.setting
  right h := h.left ▸ h.right.setting
  emit _ _ _ _ _ :=
    Act.Respects.of_stable (Act.Stable.update fun _ h => ⟨h.setting.within, h.rates⟩)
  raise reason := by
    apply Act.Respects.of_stable
    exact Act.Stable.within (fun _ h => h.setting.reserve)
      (fun _ _ h hr => ⟨⟨h.setting.pool, h.setting.treasury, h.setting.symbol, hr⟩, h.rates⟩)
      (ReserveIndex.stable_raise_current base.reserve reason)
  mint _ _ _ := Act.Respects.of_stable
    (stable_resembles_applyChange hrate fun hq => RebasingLedger.stable_deposit hq)
  burn _ _ _ := Act.Respects.of_stable
    (stable_resembles_applyChange hrate fun hq => RebasingLedger.stable_withdraw hq)
  transfer _ _ _ _ _ := Act.Respects.of_stable
    (stable_resembles_applyChange hrate fun hq => RebasingLedger.stable_transfer hq)

/-!
# Claims
-/

theorem respects_claim {holder token : String} (hp : p (Text.lower holder)) :
    Act.Respects (MatchesOn base p d e) (claim holder token) := by
  have hsmall : p (Text.lower (Text.lower holder)) := (Text.lower_lower holder).symm ▸ hp
  have hreport : ∀ (value index : Int) (fields : List (String × Document)) (c : RewardClaim),
      Act.Respects (MatchesOn base p d e) (do
        emit .rewardsClaimed (Text.lower holder) (Text.lower token) value index
        noteInfo "Rewards claimed" fields
        return c : Act DepositToken RewardClaim) := by
    intro value index fields c
    apply Act.Respects.bind (pairedWalk_matchesOn.emit _ _ _ _ _)
    intro _
    exact Act.Respects.bind (Act.Respects.note _) fun _ => Act.Respects.pure c
  unfold claim
  apply Act.Respects.of_current
  · intro s s' h
    simp only [h.model.rewardBasisOf_eq hsmall, h.right.index_eq, h.left.index_eq]
    rcases h.cases_rewards with ⟨hs, hs'⟩ | ⟨q, q', hs, hs', hq⟩
    · simp only [program, hs, hs']
    · simp only [program, hs, hs', Act.bind_value, hq.factor_eq]
  · intro s s' _
    apply Act.Respects.bind (Act.Respects.faulty _)
    intro q
    apply Act.Respects.bind (respects_onRewards (RewardTracker.respects_checkpoint hsmall))
    intro _
    apply Act.Respects.bind (Act.Respects.faulty _)
    intro factor
    apply Act.Respects.bind (respects_onRewards (RewardTracker.respects_claim hsmall))
    intro c
    apply Act.Respects.ite
    · apply Act.Respects.bind (respects_onRewards RewardTracker.respects_recordTreasuryCut)
      intro _
      exact hreport _ _ _ c
    · exact hreport _ _ _ c

end DepositToken
end ReserveAccounting
