import ReserveAccounting.Proofs.RateReadings
import ReserveAccounting.Proofs.TokenWalks

/-!
# One rate for a call

A deposit token pins a rate before its checkpoints and unpins it after the
change, whatever came of it; inside, the books use the pinned rate. So each call
and each view of a token over a rebasing asset takes one rate at most.
-/

namespace ReserveAccounting

namespace RateSource

def token (q : RateSource) (t : DepositToken) : DepositToken :=
  { t with model := q.model t.model.ledger }

end RateSource

namespace DepositToken

open RateSource (perCall)

variable {α : Type} {pinned : Option Int} {limit : Nat}

/-!
# Parts of a call
-/

theorem takesRates_onModel {m : Act BalanceModel α}
    (h : Act.TakesRates RateSource.model pinned limit m) :
    Act.TakesRates RateSource.token pinned limit (onModel m) :=
  Act.TakesRates.within (fun t => t.model.ledger) (fun l t => { t with model := .plain l })
    (fun _ _ => rfl) (fun _ _ _ _ => rfl) h

theorem takesRates_onReserve (m : Act ReserveIndex α) :
    Act.TakesRates RateSource.token pinned 0 (onReserve m) :=
  Act.TakesRates.within_aside (fun r t => { t with reserve := r }) m
    (fun _ _ _ => rfl) fun _ _ _ => rfl

theorem takesRates_onRewards (m : Act RewardTracker α) :
    Act.TakesRates RateSource.token pinned 0 (onRewards m) := by
  apply Act.TakesRates.of_blind
  intro t
  cases hprogram : t.rewards with
  | none =>
      refine ⟨.error .notSupported, t, fun q => ?_⟩
      have hnone : (q.token t).rewards = none := hprogram
      unfold Act.run onRewards
      rw [hnone]
  | some program =>
      refine ⟨(Act.run m program.tracker).1, { t with rewards := some { program with
        tracker := (Act.run m program.tracker).2 } }, fun q => ?_⟩
      have hsome : (q.token t).rewards = some program := hprogram
      rw [run_onRewards m hsome]
      rfl

theorem takesRates_emit (kind : EventKind) (source target : String) (value index : Int) :
    Act.TakesRates RateSource.token pinned 0 (emit kind source target value index) :=
  Act.TakesRates.update fun t =>
    ⟨{ t with events := t.events ++ [⟨kind, source, target, value, index⟩] }, fun _ => rfl⟩

theorem takesRates_requirePool (caller : String) :
    Act.TakesRates RateSource.token pinned 0 (requirePool caller) :=
  Act.TakesRates.of_current (fun _ _ _ => rfl) fun _ _ =>
    (Act.TakesRates.pure ()).ite (Act.TakesRates.refuse _)

theorem run_onModel_token {m : Act BalanceModel α} (q : RateSource) (t : DepositToken) :
    Act.run (onModel m) (q.token t) =
      ((Act.run m (q.model t.model.ledger)).1,
        { t with model := (Act.run m (q.model t.model.ledger)).2 }) := rfl

theorem pinsRate_withPinnedRate (m : Act DepositToken α) :
    Act.PinsRate RateSource.token (fun t => { t with model := t.model.unpinned }) (fun _ => m)
      (withPinnedRate m) where
  kept q t rate hpinned := by
    unfold withPinnedRate
    rw [Act.run_bind, run_onModel_token, BalanceModel.run_pinRate_pinned hpinned]
    rfl
  refused q t rate e hpinned hrate hrefused := by
    unfold withPinnedRate
    rw [Act.run_bind, run_onModel_token, BalanceModel.run_pinRate_refused hpinned hrate hrefused]
    rfl
  read q t rate hpinned hrate hchecked := by
    unfold withPinnedRate
    rw [Act.run_bind, run_onModel_token, BalanceModel.run_pinRate hpinned hrate hchecked]
    rfl
  unpins _ _ := rfl

theorem takesRates_withPinnedRate {m : Act DepositToken α}
    (hm : ∀ rate, Act.TakesRates RateSource.token (some rate) 0 m) :
    Act.TakesRates RateSource.token pinned (perCall pinned) (withPinnedRate m) :=
  (pinsRate_withPinnedRate m).takesRates hm

theorem takesRates_checkpointHolders (accounts : List String) :
    Act.TakesRates RateSource.token pinned 0 (checkpointHolders accounts) := by
  refine Act.TakesRates.of_current (fun _ _ _ => rfl) fun q t => ?_
  cases (q.token t).rewards with
  | none => exact Act.TakesRates.pure []
  | some program => exact takesRates_onRewards _

theorem takesRates_applyChange (accounts : List String) {change : Act BalanceModel α}
    (h : ∀ rate, Act.TakesRates RateSource.model (some rate) 0 change) :
    Act.TakesRates RateSource.token pinned (perCall pinned) (applyChange accounts change) := by
  apply takesRates_withPinnedRate
  intro rate
  apply (takesRates_checkpointHolders accounts).bind_quiet
  intro saved
  exact (takesRates_onModel (h rate)).onRefusal fun t => ⟨t.withRestored saved, fun _ => rfl⟩

/-!
# Calls and views
-/

theorem takesRates_balanceOf (holder : String) :
    Act.TakesRates RateSource.token pinned (perCall pinned) (balanceOf holder) :=
  Act.TakesRates.of_current (fun _ _ _ => rfl) fun _ _ => takesRates_onModel
    (BalanceModel.takesRates_dispatch (RebasingLedger.takesRates_balanceOf holder _))

theorem takesRates_totalSupply :
    Act.TakesRates RateSource.token pinned (perCall pinned) totalSupply :=
  Act.TakesRates.of_current (fun _ _ _ => rfl) fun _ _ => takesRates_onModel
    (BalanceModel.takesRates_dispatch (RebasingLedger.takesRates_totalSupply _))

theorem takesRates_scaledBalanceOf (holder : String) :
    Act.TakesRates RateSource.token pinned (perCall pinned) (scaledBalanceOf holder) :=
  takesRates_onModel
    (BalanceModel.takesRates_dispatch (RebasingLedger.takesRates_scaledBalanceOf holder))

theorem takesRates_scaledTotalSupply :
    Act.TakesRates RateSource.token pinned (perCall pinned) scaledTotalSupply :=
  takesRates_onModel (BalanceModel.takesRates_dispatch RebasingLedger.takesRates_scaledTotalSupply)

theorem takesRates_scaledBalanceAndSupply (holder : String) :
    Act.TakesRates RateSource.token pinned (perCall pinned) (scaledBalanceAndSupply holder) := by
  apply takesRates_withPinnedRate
  intro rate
  apply Act.TakesRates.bind_quiet (takesRates_scaledBalanceOf holder)
  intro balance
  apply Act.TakesRates.bind_quiet takesRates_scaledTotalSupply
  intro supply
  exact Act.TakesRates.pure _

theorem takesRates_mint (caller holder : String) (amount index : Int) :
    Act.TakesRates RateSource.token pinned (perCall pinned) (mint caller holder amount index) := by
  apply (takesRates_requirePool caller).bind_quiet
  intro _
  refine Act.TakesRates.of_current (fun _ _ _ => rfl) fun _ _ => ?_
  apply (Act.TakesRates.refusable _).bind_quiet
  intro _
  apply Act.TakesRates.then_quiet
  · exact takesRates_applyChange _ fun _ =>
      BalanceModel.takesRates_dispatch (RebasingLedger.takesRates_deposit _ amount index)
  · intro first
    apply (takesRates_onReserve _).bind_quiet
    intro _
    apply (takesRates_emit _ _ _ _ _).bind_quiet
    intro _
    apply (takesRates_emit _ _ _ _ _).bind_quiet
    intro _
    exact (Act.TakesRates.note _).bind_quiet fun _ => Act.TakesRates.pure first

theorem takesRates_burn (caller holder receiver : String) (amount index : Int) :
    Act.TakesRates RateSource.token pinned (perCall pinned)
      (burn caller holder receiver amount index) := by
  apply (takesRates_requirePool caller).bind_quiet
  intro _
  refine Act.TakesRates.of_current (fun _ _ _ => rfl) fun _ _ => ?_
  apply (Act.TakesRates.refusable _).bind_quiet
  intro _
  apply Act.TakesRates.then_quiet
  · exact takesRates_applyChange _ fun _ =>
      BalanceModel.takesRates_dispatch (RebasingLedger.takesRates_withdraw _ amount index)
  · intro burned
    apply (takesRates_onReserve _).bind_quiet
    intro _
    apply (takesRates_emit _ _ _ _ _).bind_quiet
    intro _
    apply (takesRates_emit _ _ _ _ _).bind_quiet
    intro _
    exact (Act.TakesRates.note _).bind_quiet fun _ => Act.TakesRates.pure burned

theorem takesRates_mintToTreasury (caller : String) (amount index : Int) :
    Act.TakesRates RateSource.token pinned (perCall pinned)
      (mintToTreasury caller amount index) := by
  apply (takesRates_requirePool caller).bind_quiet
  intro _
  apply ((Act.TakesRates.pure false).mono (Nat.zero_le _)).ite
  exact Act.TakesRates.of_current (fun _ _ _ => rfl) fun _ _ => takesRates_mint caller _ amount index

theorem takesRates_move (event sender recipient : String) (amount : Int) :
    Act.TakesRates RateSource.token pinned (perCall pinned) (move event sender recipient amount) := by
  refine Act.TakesRates.of_current (fun _ _ _ => rfl) fun _ _ => ?_
  apply (Act.TakesRates.of_refuse _).ite
  apply Act.TakesRates.then_quiet
  · exact takesRates_applyChange _ fun _ =>
      BalanceModel.takesRates_dispatch (RebasingLedger.takesRates_transfer _ _ amount _)
  · intro _
    apply (takesRates_emit _ _ _ _ _).bind_quiet
    intro _
    exact (takesRates_emit _ _ _ _ _).bind_quiet fun _ => Act.TakesRates.note _

theorem takesRates_transfer (sender recipient : String) (amount : Int) :
    Act.TakesRates RateSource.token pinned (perCall pinned) (transfer sender recipient amount) :=
  (takesRates_move _ sender recipient amount).then_quiet fun _ => Act.TakesRates.pure true

theorem takesRates_transferOnLiquidation (caller sender recipient : String) (amount : Int) :
    Act.TakesRates RateSource.token pinned (perCall pinned)
      (transferOnLiquidation caller sender recipient amount) :=
  (takesRates_requirePool caller).bind_quiet fun _ =>
    (takesRates_move _ sender recipient amount).then_quiet fun _ => Act.TakesRates.pure true

theorem takesRates_injectFlashLoanPremium (caller : String) (premium : Int) :
    Act.TakesRates RateSource.token pinned (perCall pinned)
      (injectFlashLoanPremium caller premium) := by
  apply (takesRates_requirePool caller).bind_quiet
  intro _
  apply Act.TakesRates.then_quiet takesRates_totalSupply
  intro liquidity
  apply (takesRates_onReserve _).bind_quiet
  intro index
  refine Act.TakesRates.of_current (fun _ _ _ => rfl) fun _ _ => ?_
  apply (takesRates_emit _ _ _ _ _).bind_quiet
  intro _
  exact (Act.TakesRates.note _).bind_quiet fun _ => Act.TakesRates.pure index

theorem takesRates_claim (holder token : String) :
    Act.TakesRates RateSource.token pinned 0 (claim holder token) := by
  refine Act.TakesRates.of_current (fun _ _ _ => rfl) fun _ _ => ?_
  apply (Act.TakesRates.faulty _).bind_quiet
  intro program
  apply (takesRates_onRewards _).bind_quiet
  intro _
  apply (Act.TakesRates.faulty _).bind_quiet
  intro factor
  apply (takesRates_onRewards _).bind_quiet
  intro result
  have hreport : ∀ index fields, Act.TakesRates RateSource.token pinned 0 (do
      emit .rewardsClaimed (Text.lower holder) (Text.lower token) result.claimable index
      noteInfo "Rewards claimed" fields
      return result : Act DepositToken RewardClaim) := by
    intro index fields
    apply (takesRates_emit _ _ _ _ _).bind_quiet
    intro _
    exact (Act.TakesRates.note _).bind_quiet fun _ => Act.TakesRates.pure result
  exact ((takesRates_onRewards _).bind_quiet fun _ => hreport _ _).ite (hreport _ _)

theorem takesRates_setReserveFactor (caller : String) (factor : Int) :
    Act.TakesRates RateSource.token pinned 0 (setReserveFactor caller factor) := by
  refine Act.TakesRates.of_current (fun _ _ _ => rfl) fun q t => ?_
  apply (Act.TakesRates.faulty _).bind_quiet
  intro program
  apply (takesRates_requirePool caller).bind_quiet
  intro _
  apply (Act.TakesRates.refusable _).bind_quiet
  intro _
  exact Act.TakesRates.update fun t =>
    ⟨{ t with rewards := some { program with reserveFactor := factor, strayFactor := none } },
      fun _ => rfl⟩

theorem takesRates_toDocument :
    Act.TakesRates RateSource.token pinned 0 (Act.inspect fun t => .ok t.toDocument) := by
  intro t symbol rates
  refine ⟨0, Nat.le_refl 0, .ok (RateSource.token ⟨.feed ⟨symbol, rates, 0⟩, none, 0⟩ t).toDocument,
    t, fun q _ hgives => ?_⟩
  have hmodel : (q.token t).model.toDocument =
      (RateSource.token ⟨.feed ⟨symbol, rates, 0⟩, none, 0⟩ t).model.toDocument := by
    change Document.record [("asset", .text q.asset.symbol), ("ledger", t.model.ledger.toDocument)] = _
    rw [hgives.left]
    rfl
  change (Except.ok (q.token t).toDocument, q.token t) = _
  unfold toDocument
  rw [hmodel]
  rfl

end DepositToken

/-!
# Steps of a token
-/

open FixedPoint
open RateSource (perCall)

variable {α β : Type} {pinned : Option Int} {limit : Nat}

theorem Act.TakesRates.answering {σ ρ : Type} {put : RateSource → ρ → σ} {m : Act σ α} (f : α → β)
    (hm : TakesRates put pinned limit m) :
    TakesRates put pinned limit (do return f (← m) : Act σ β) :=
  hm.then_quiet fun a => pure (f a)

theorem Act.TakesRates.inspect {σ ρ : Type} {put : RateSource → ρ → σ}
    {f : σ → Except Fault α} (hf : ∀ q q' r, f (put q r) = f (put q' r)) :
    TakesRates put pinned limit (Act.inspect f) := by
  apply TakesRates.mono _ (Nat.zero_le limit)
  exact of_current (fun q q' r => by rw [hf q q']) fun _ _ => faulty _

theorem TokenCall.takesRates_answer (c : TokenCall) (hc : ∀ asset, c ≠ .moveAsset asset) :
    Act.TakesRates RateSource.token pinned (perCall pinned) c.answer := by
  have hquiet : ∀ {m : Act DepositToken Document}, Act.TakesRates RateSource.token pinned 0 m →
      Act.TakesRates RateSource.token pinned (perCall pinned) m :=
    fun h => h.mono (Nat.zero_le _)
  cases c with
  | mint caller holder amount index =>
      exact (DepositToken.takesRates_mint caller holder amount index).answering _
  | burn caller holder receiver amount index =>
      exact (DepositToken.takesRates_burn caller holder receiver amount index).answering _
  | mintToTreasury caller amount index =>
      exact (DepositToken.takesRates_mintToTreasury caller amount index).answering _
  | transfer sender recipient amount =>
      exact (DepositToken.takesRates_transfer sender recipient amount).answering _
  | transferOnLiquidation caller sender recipient amount =>
      exact (DepositToken.takesRates_transferOnLiquidation caller sender recipient amount).answering _
  | injectFlashLoanPremium caller premium =>
      exact (DepositToken.takesRates_injectFlashLoanPremium caller premium).answering _
  | raiseIndex index reason => exact hquiet ((DepositToken.takesRates_onReserve _).answering _)
  | moveAsset asset => exact absurd rfl (hc asset)
  | registerRewardToken token => exact hquiet ((DepositToken.takesRates_onRewards _).answering _)
  | distributeRewards token amount =>
      exact hquiet (Act.TakesRates.of_current (fun _ _ _ => rfl) fun _ _ =>
        DepositToken.takesRates_onRewards _)
  | claim holder token => exact hquiet ((DepositToken.takesRates_claim holder token).answering _)
  | setReserveFactor caller factor =>
      exact hquiet ((DepositToken.takesRates_setReserveFactor caller factor).bind_quiet
        fun _ => Act.TakesRates.pure _)

theorem TokenView.takesRates_answer (v : TokenView) :
    Act.TakesRates RateSource.token pinned (perCall pinned) v.answer := by
  cases v with
  | balanceOf holder => exact (DepositToken.takesRates_balanceOf holder).answering _
  | totalSupply => exact DepositToken.takesRates_totalSupply.answering _
  | scaledBalanceOf holder => exact (DepositToken.takesRates_scaledBalanceOf holder).answering _
  | scaledTotalSupply => exact DepositToken.takesRates_scaledTotalSupply.answering _
  | scaledBalanceAndSupply holder =>
      apply (DepositToken.takesRates_scaledBalanceAndSupply holder).then_quiet
      intro p
      rcases p with ⟨balance, supply⟩
      exact Act.TakesRates.pure _
  | snapshot => exact (DepositToken.takesRates_toDocument).mono (Nat.zero_le _)
  | _ => exact Act.TakesRates.inspect fun _ _ _ => rfl

theorem TokenStep.takesRates_answer (step : TokenStep)
    (hstep : ∀ asset, step ≠ .call (.moveAsset asset)) :
    Act.TakesRates RateSource.token pinned (perCall pinned) step.answer := by
  cases step with
  | call c => exact c.takesRates_answer fun asset hc => hstep asset (congrArg TokenStep.call hc)
  | view v => exact v.takesRates_answer

/-!
# An asset in place of another
-/

/--
A call on books over an asset ends as over another that stands in for it: with
one outcome and one state, but for the assets, of which each has been read
equally often, at most so many times; and it leaves no rate pinned.
-/
def Act.EndsAlike {σ ρ : Type} (put : RateSource → ρ → σ) (limit : Nat) (m : Act σ α)
    (a b : ReserveAsset) (reads : Nat) (r : ρ) : Prop :=
  ∃ k ≤ limit, ∃ outcome r',
    Act.run m (put ⟨a, none, reads⟩ r) = (outcome, put ⟨a.afterReadings k, none, reads + k⟩ r') ∧
      Act.run m (put ⟨b, none, reads⟩ r) = (outcome, put ⟨b.afterReadings k, none, reads + k⟩ r')

theorem Act.TakesRates.endsAlike {σ ρ : Type} {put : RateSource → ρ → σ} {m : Act σ α}
    {a b : ReserveAsset} {rates : Nat → Int} (hm : TakesRates put none limit m)
    (hsymbol : b.symbol = a.symbol) (ha : ∀ i < limit, a.rateAt i = .ok (rates i))
    (hb : ∀ i < limit, b.rateAt i = .ok (rates i)) (reads : Nat) (r : ρ) :
    m.EndsAlike put limit a b reads r := by
  rcases hm r a.symbol rates with ⟨k, hk, outcome, r', hrun⟩
  refine ⟨k, hk, outcome, r', ?_, ?_⟩
  · exact hrun ⟨a, none, reads⟩ rfl ⟨rfl, ha⟩
  · exact hrun ⟨b, none, reads⟩ rfl ⟨hsymbol, hb⟩

/--
Whatever rates an asset gives, every call of books over it, and every call and
view of a token over it, reads it at most once and ends as over an asset that
always gives the rate of the first reading.
-/
theorem one_rate_per_call {a b : ReserveAsset} {rate : Int} (hsymbol : b.symbol = a.symbol)
    (hfirst : a.rateAt 0 = .ok rate) (halways : ∀ i, b.rateAt i = .ok rate) (reads : Nat) :
    (∀ (c : BookCall) (l : ShareLedger), c.onRebasing.EndsAlike RateSource.books 1 a b reads l) ∧
      ∀ (step : TokenStep) (t : DepositToken), (∀ asset, step ≠ .call (.moveAsset asset)) →
        step.answer.EndsAlike RateSource.token 1 a b reads t := by
  have hread : ∀ i < 1, a.rateAt i = .ok rate := by
    intro i hi
    cases Nat.lt_one_iff.mp hi
    exact hfirst
  constructor
  · intro c l
    exact c.takesRates_onRebasing.endsAlike hsymbol hread (fun i _ => halways i) reads l
  · intro step t hstep
    exact (step.takesRates_answer hstep).endsAlike hsymbol hread (fun i _ => halways i) reads t

/-- A mint of a token with rewards, over a feed whose rate doubles after the first reading. -/
theorem one_rate_per_call_doubled_rate :
    let a : ReserveAsset := .feed ⟨"rETH", fun i => if i = 0 then ray else 2 * ray, 0⟩
    let b : ReserveAsset := .feed ⟨"rETH", fun _ => ray, 0⟩
    let step : TokenStep := .call (.mint "pool" "alice" 100 ray)
    let t := DepositToken.atOne (.plain .empty) (some (.empty 0))
    b.symbol = a.symbol ∧ a.rateAt 0 = .ok ray ∧ (∀ i, b.rateAt i = .ok ray) ∧
      (∀ asset, step ≠ .call (.moveAsset asset)) ∧
      step.answer.EndsAlike RateSource.token 1 a b 0 t := by
  intro a b step t
  have hsymbol : b.symbol = a.symbol := rfl
  have hfirst : a.rateAt 0 = .ok ray := ReserveAsset.rateAt_feed _ 0
  have halways : ∀ i, b.rateAt i = .ok ray := fun i => ReserveAsset.rateAt_feed _ i
  have hstep : ∀ asset, step ≠ .call (.moveAsset asset) := by simp [step]
  exact ⟨hsymbol, hfirst, halways, hstep,
    (one_rate_per_call hsymbol hfirst halways 0).right step t hstep⟩

end ReserveAccounting
