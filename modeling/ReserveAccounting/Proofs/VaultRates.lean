import ReserveAccounting.Proofs.SingleRates
import ReserveAccounting.Proofs.VaultWalks

/-!
# Rates of a vault

A vault prices units at one reading of the rate, caps a withdrawal at the value
of its tokens at another, and then calls the deposit token, which pins a reading
of its own. Between these readings the rate may move. So a deposit is settled by
two readings and a withdrawal by three, and it goes as at one rate if they agree.
-/

namespace ReserveAccounting

namespace RateSource

def vault (q : RateSource) (v : StaticVault) : StaticVault := { v with token := q.token v.token }

end RateSource

namespace StaticVault

open FixedPoint
open RateSource (perCall)

variable {α : Type} {pinned : Option Int} {limit : Nat}

/-!
# Parts of a call
-/

theorem takesRates_onToken {m : Act DepositToken α}
    (h : Act.TakesRates RateSource.token pinned limit m) :
    Act.TakesRates RateSource.vault pinned limit (onToken m) :=
  Act.TakesRates.within (fun v => v.token) (fun t v => { v with token := t })
    (fun _ _ => rfl) (fun _ _ _ _ => rfl) h

theorem takesRates_onBalances (m : Act ShareLedger α) :
    Act.TakesRates RateSource.vault pinned 0 (onBalances m) :=
  Act.TakesRates.within_aside (fun l v => { v with books := { v.books with balances := l } }) m
    (fun _ _ _ => rfl) fun _ _ _ => rfl

theorem takesRates_onRewards (m : Act RewardTracker α) :
    Act.TakesRates RateSource.vault pinned 0 (onRewards m) :=
  Act.TakesRates.within_aside (fun r v => { v with books := { v.books with rewards := r } }) m
    (fun _ _ _ => rfl) fun _ _ _ => rfl

theorem takesRates_emit (kind : EventKind) (source target : String) (value : Int) :
    Act.TakesRates RateSource.vault pinned 0 (emit kind source target value) :=
  Act.TakesRates.update fun v =>
    ⟨{ v with
      books := { v.books with
        events := v.books.events ++ [⟨kind, source, target, value, v.token.index⟩] } },
      fun _ => rfl⟩

theorem takesRates_addRewardBalance (token : String) (delta : Int) :
    Act.TakesRates RateSource.vault pinned 0 (addRewardBalance token delta) := by
  apply Act.TakesRates.of_blind
  intro v
  cases hheld : v.rewardBalance token with
  | error e =>
      refine ⟨.error e, v, fun q => ?_⟩
      have hsame : (q.vault v).rewardBalance token = .error e := hheld
      unfold addRewardBalance
      rw [Act.run_bind_ok (Act.run_current _), hsame]
      rfl
  | ok held =>
      refine ⟨.ok (), { v with books := { v.books with
        rewardBalances := v.books.rewardBalances.put token (held + delta)
        strayBalances := v.books.strayBalances.without (· = token) } }, fun q => ?_⟩
      have hsame : (q.vault v).rewardBalance token = .ok held := hheld
      unfold addRewardBalance
      rw [Act.run_bind_ok (Act.run_current _), hsame]
      rfl

theorem takesRates_rate : Act.TakesRates RateSource.vault pinned (perCall pinned) rate := by
  refine Act.TakesRates.of_current (fun _ _ _ => rfl) fun q v => ?_
  apply Act.TakesRates.then_quiet
  · exact takesRates_onToken (DepositToken.takesRates_onModel
      (BalanceModel.takesRates_dispatch RebasingLedger.takesRates_snapshot))
  · intro r
    exact Act.TakesRates.refusable _

theorem takesRates_valueOf (units : Int) :
    Act.TakesRates RateSource.vault pinned (perCall pinned) (valueOf units) :=
  takesRates_rate.then_quiet fun _ => Act.TakesRates.refusable _

theorem takesRates_unitsFor (value : Int) :
    Act.TakesRates RateSource.vault pinned (perCall pinned) (unitsFor value) :=
  takesRates_rate.then_quiet fun _ => Act.TakesRates.refusable _

theorem takesRates_collectOne (token : String) :
    Act.TakesRates RateSource.vault pinned 0 (collectOne token) := by
  refine Act.TakesRates.of_current (fun _ _ _ => rfl) fun _ _ => ?_
  apply (Act.TakesRates.faulty _).bind_quiet
  intro pending
  apply (takesRates_onRewards _).bind_quiet
  intro _
  apply (Act.TakesRates.pure none).ite
  apply (takesRates_onToken (DepositToken.takesRates_claim _ token)).bind_quiet
  intro claim
  apply (takesRates_addRewardBalance token _).bind_quiet
  intro _
  refine Act.TakesRates.of_current (fun _ _ _ => rfl) fun _ _ => ?_
  exact (takesRates_onRewards _).bind_quiet fun _ => Act.TakesRates.pure _

theorem takesRates_collect (asked : Option String) :
    Act.TakesRates RateSource.vault pinned 0 (collect asked) := by
  refine Act.TakesRates.of_current (fun _ _ _ => rfl) fun q v => ?_
  cases (q.vault v).token.rewards with
  | none => exact Act.TakesRates.pure ∅
  | some program =>
      apply Act.TakesRates.bind_quiet
      · apply Act.TakesRates.mapEach
        intro token
        exact (Act.TakesRates.faulty _).bind_quiet fun _ => takesRates_collectOne token
      · intro results
        apply Act.TakesRates.ite
        · exact (Act.TakesRates.note _).bind_quiet fun _ => Act.TakesRates.pure _
        · exact Act.TakesRates.pure _

theorem takesRates_applyChange (accounts : List String) {change : Act StaticVault Unit}
    (h : Act.TakesRates RateSource.vault pinned limit change) :
    Act.TakesRates RateSource.vault pinned limit (applyChange accounts change) := by
  apply (takesRates_collect none).bind_quiet
  intro _
  refine Act.TakesRates.of_current (fun _ _ _ => rfl) fun _ _ => ?_
  apply (takesRates_onRewards _).bind_quiet
  intro saved
  exact h.onRefusal fun v => ⟨v.withRestored saved, fun _ => rfl⟩

theorem takesRates_takeTokens (depositor : String) (amount : Int) (fromUnderlying : Bool) :
    Act.TakesRates RateSource.vault pinned (perCall pinned)
      (takeTokens depositor amount fromUnderlying) := by
  refine Act.TakesRates.of_current (fun _ _ _ => rfl) fun _ _ => ?_
  apply Act.TakesRates.ite
  · exact (takesRates_onToken (DepositToken.takesRates_mint _ _ amount _)).then_quiet
      fun _ => Act.TakesRates.pure ()
  · exact (takesRates_onToken (DepositToken.takesRates_transfer depositor _ amount)).then_quiet
      fun _ => Act.TakesRates.pure ()

theorem takesRates_releaseTokens (recipient : String) (amount : Int) (toUnderlying : Bool) :
    Act.TakesRates RateSource.vault pinned (perCall pinned)
      (releaseTokens recipient amount toUnderlying) := by
  refine Act.TakesRates.of_current (fun _ _ _ => rfl) fun _ _ => ?_
  apply Act.TakesRates.ite
  · exact (takesRates_onToken (DepositToken.takesRates_burn _ _ recipient amount _)).then_quiet
      fun _ => Act.TakesRates.pure ()
  · exact (takesRates_onToken (DepositToken.takesRates_transfer _ recipient amount)).then_quiet
      fun _ => Act.TakesRates.pure ()

theorem takesRates_requireRecipient (recipient : String) :
    Act.TakesRates RateSource.vault pinned 0 (requireRecipient recipient) :=
  Act.TakesRates.of_current (fun _ _ _ => rfl) fun _ _ =>
    (Act.TakesRates.refuse _).ite (Act.TakesRates.pure _)

/-!
# Calls
-/

theorem takesRates_deposit (depositor recipient : String) (amount : Int) (fromUnderlying : Bool) :
    Act.TakesRates RateSource.vault pinned (perCall pinned + perCall pinned)
      (deposit depositor recipient amount fromUnderlying) := by
  apply (takesRates_requireRecipient recipient).bind_quiet
  intro recipient
  apply (Act.TakesRates.of_refuse _).ite
  apply (takesRates_unitsFor amount).bind
  intro units
  apply Act.TakesRates.ite
  · exact takesRates_rate.then_quiet fun _ => Act.TakesRates.refuse _
  · apply Act.TakesRates.then_quiet
    · apply takesRates_applyChange
      exact (takesRates_takeTokens _ amount fromUnderlying).then_quiet fun _ =>
        (takesRates_onBalances _).bind_quiet fun _ => Act.TakesRates.pure ()
    · intro _
      apply (takesRates_emit _ _ _ _).bind_quiet
      intro _
      refine Act.TakesRates.of_current (fun _ _ _ => rfl) fun _ _ => ?_
      exact (Act.TakesRates.note _).bind_quiet fun _ => Act.TakesRates.pure units

theorem takesRates_release (owner recipient : String) (units value : Int) (toUnderlying : Bool) :
    Act.TakesRates RateSource.vault pinned (perCall pinned + perCall pinned)
      (release owner recipient units value toUnderlying) := by
  apply (takesRates_requireRecipient recipient).bind_quiet
  intro recipient
  apply (Act.TakesRates.of_refuse _).ite
  refine Act.TakesRates.of_current (fun _ _ _ => rfl) fun _ _ => ?_
  apply (Act.TakesRates.of_refuse _).ite
  apply Act.TakesRates.bind (takesRates_onToken (DepositToken.takesRates_balanceOf _))
  intro held
  apply (Act.TakesRates.of_refuse _).ite
  apply Act.TakesRates.then_quiet
  · apply takesRates_applyChange
    exact (takesRates_releaseTokens recipient _ toUnderlying).then_quiet fun _ =>
      (takesRates_onBalances _).bind_quiet fun _ => Act.TakesRates.pure ()
  · intro _
    apply (takesRates_emit _ _ _ _).bind_quiet
    intro _
    exact (Act.TakesRates.note _).bind_quiet fun _ => Act.TakesRates.pure _

theorem takesRates_withdraw (owner recipient : String) (units : Int) (toUnderlying : Bool) :
    Act.TakesRates RateSource.vault pinned (perCall pinned + (perCall pinned + perCall pinned))
      (withdraw owner recipient units toUnderlying) := by
  refine Act.TakesRates.of_current (fun _ _ _ => rfl) fun _ _ => ?_
  exact (takesRates_valueOf _).bind fun value =>
    takesRates_release _ recipient _ value toUnderlying

theorem takesRates_withdrawValue (owner recipient : String) (value : Int) (toUnderlying : Bool) :
    Act.TakesRates RateSource.vault pinned (perCall pinned + (perCall pinned + perCall pinned))
      (withdrawValue owner recipient value toUnderlying) :=
  (takesRates_unitsFor value).bind fun units =>
    takesRates_release _ recipient units value toUnderlying

theorem takesRates_transfer (sender recipient : String) (units : Int) :
    Act.TakesRates RateSource.vault pinned 0 (transfer sender recipient units) := by
  apply (takesRates_requireRecipient recipient).bind_quiet
  intro recipient
  apply (takesRates_applyChange _ (takesRates_onBalances _)).bind_quiet
  intro _
  exact (takesRates_emit _ _ _ _).bind_quiet fun _ => Act.TakesRates.pure true

theorem takesRates_claimRewards (holder token : String) (forceUpdate : Bool) :
    Act.TakesRates RateSource.vault pinned 0 (claimRewards holder token forceUpdate) := by
  have hpay : Act.TakesRates RateSource.vault pinned 0
      (claimRewards holder token false) := by
    refine Act.TakesRates.of_current (fun _ _ _ => rfl) fun _ _ => ?_
    apply (takesRates_onRewards _).bind_quiet
    intro _
    apply (takesRates_onRewards _).bind_quiet
    intro result
    apply (takesRates_addRewardBalance _ _).bind_quiet
    intro _
    apply (takesRates_emit _ _ _ _).bind_quiet
    intro _
    exact (Act.TakesRates.note _).bind_quiet fun _ => Act.TakesRates.pure result
  cases forceUpdate with
  | false => exact hpay
  | true => exact (takesRates_collect (some token)).bind_quiet fun _ => hpay

end StaticVault
namespace VaultCall

open FixedPoint

/-- How often a call reads the rate at most. -/
def readings : VaultCall → Nat
  | deposit .. => 2
  | withdraw .. => 3
  | withdrawValue .. => 3
  | onToken _ => 1
  | _ => 0

theorem takesRates_answer (c : VaultCall) (hc : ∀ asset, c ≠ .onToken (.moveAsset asset)) :
    Act.TakesRates RateSource.vault none c.readings c.answer := by
  cases c with
  | deposit depositor recipient amount fromUnderlying =>
      exact (StaticVault.takesRates_deposit depositor recipient amount fromUnderlying).answering _
  | withdraw owner recipient units toUnderlying =>
      exact (StaticVault.takesRates_withdraw owner recipient units toUnderlying).then_quiet
        fun _ => Act.TakesRates.pure _
  | withdrawValue owner recipient value toUnderlying =>
      exact (StaticVault.takesRates_withdrawValue owner recipient value toUnderlying).then_quiet
        fun _ => Act.TakesRates.pure _
  | transfer sender recipient units =>
      exact (StaticVault.takesRates_transfer sender recipient units).answering _
  | claimRewards holder token forceUpdate =>
      exact (StaticVault.takesRates_claimRewards holder token forceUpdate).answering _
  | collect token => exact (StaticVault.takesRates_collect token).answering _
  | onToken c =>
      exact StaticVault.takesRates_onToken
        (c.takesRates_answer fun asset h => hc asset (congrArg VaultCall.onToken h))

/--
A call of a vault over an asset ends as over one that always gives the same
rate, as long as the asset gives that rate at the readings of the call: two of
them in a deposit, three in a withdrawal.
-/
theorem one_rate_while_steady {a b : ReserveAsset} {rate : Int} (c : VaultCall)
    (hc : ∀ asset, c ≠ .onToken (.moveAsset asset)) (hsymbol : b.symbol = a.symbol)
    (hsteady : ∀ i < c.readings, a.rateAt i = .ok rate) (halways : ∀ i, b.rateAt i = .ok rate)
    (reads : Nat) (v : StaticVault) :
    c.answer.EndsAlike RateSource.vault c.readings a b reads v :=
  (c.takesRates_answer hc).endsAlike hsymbol hsteady (fun i _ => halways i) reads v

/-- A deposit over a feed whose rate doubles after the second reading. -/
theorem one_rate_while_steady_doubled_rate :
    let a : ReserveAsset := .feed ⟨"rETH", fun i => if i < 2 then ray else 2 * ray, 0⟩
    let b : ReserveAsset := .feed ⟨"rETH", fun _ => ray, 0⟩
    let c : VaultCall := .deposit "alice" "alice" 100 false
    let v : StaticVault := ⟨.atOne (.plain ⟨Table.ofList [("alice", 100)], 100⟩) none, .unused "vault"⟩
    (∀ asset, c ≠ .onToken (.moveAsset asset)) ∧ b.symbol = a.symbol ∧
      (∀ i < c.readings, a.rateAt i = .ok ray) ∧ (∀ i, b.rateAt i = .ok ray) ∧
      c.answer.EndsAlike RateSource.vault c.readings a b 0 v := by
  intro a b c v
  have hc : ∀ asset, c ≠ .onToken (.moveAsset asset) := by simp [c]
  have hsymbol : b.symbol = a.symbol := rfl
  have hsteady : ∀ i < c.readings, a.rateAt i = .ok ray := by
    intro i hi
    have hearly : i < 2 := hi
    have hrate := ReserveAsset.rateAt_feed ⟨"rETH", fun i => if i < 2 then ray else 2 * ray, 0⟩ i
    dsimp only at hrate
    rwa [Nat.zero_add, if_pos hearly] at hrate
  have halways : ∀ i, b.rateAt i = .ok ray := fun i => ReserveAsset.rateAt_feed _ i
  exact ⟨hc, hsymbol, hsteady, halways, one_rate_while_steady c hc hsymbol hsteady halways 0 v⟩

/-- If the rate doubles in between, a deposit buys units for twice the shares that it brings. -/
example :
    let a : ReserveAsset := .feed ⟨"rETH", fun i => if i = 0 then ray else 2 * ray, 0⟩
    let v := RateSource.vault ⟨a, none, 0⟩
      ⟨.atOne (.plain ⟨Table.ofList [("alice", 100)], 100⟩) none, .unused "vault"⟩
    let ending := Act.run (StaticVault.deposit "alice" "alice" 100 false) v
    ending.1.toOption = some 100 ∧ ending.2.token.model.ledger.sharesOf "vault" = 50 := by
  decide +kernel

end VaultCall
end ReserveAccounting
