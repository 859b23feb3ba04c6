import ReserveAccounting.Proofs.Rebases
import ReserveAccounting.Proofs.RestoredTokens
import ReserveAccounting.Proofs.SolventPools

/-!
# Solvent scenarios

The asset of a rebasing reserve is an empty pool at first. What is taken in comes
with its value, what is paid out moves shares within the pool, and only a rebase
can take the value from behind the shares. So the pool is solvent after any steps
of which every rebase leaves five parts in `10 ^ 28`: what is brought in there is
handed on, and what is burned is paid out.
-/

namespace ReserveAccounting

open FixedPoint

/-!
# Rebases of a solvent pool
-/

/-- A fraction that, if it is accepted, leaves of a pool at least five parts in `10 ^ 28`. -/
def Numeral.Spares (fraction : Numeral) : Prop :=
  ∀ x, fraction = .number x → -1 < x.toRat → 5 ≤ 10 ^ 28 * (1 + x.toRat)

namespace SharePool

variable {p : SharePool} {fraction : Numeral} {delta : Int}

theorem stable_rebase_shares {shares : Table String Int} {issued : Int} :
    Act.Stable (fun p => p.shares = shares ∧ p.totalShares = issued) (rebase fraction) := by
  unfold rebase
  apply Act.Stable.of_current
  intro p hp
  apply Act.Stable.bind (Act.Stable.faulty _)
  intro wipesOut
  apply Act.Stable.ite (Act.Stable.refuse _)
  apply Act.Stable.bind (Act.Stable.faulty _)
  intro delta
  dsimp only
  apply Act.Stable.bind ⟨fun _ _ => hp⟩
  intro _
  apply Act.Stable.bind (Act.Stable.refusable _)
  intro rate
  apply Act.Stable.bind (Act.Stable.note _)
  intro _
  exact Act.Stable.pure _

theorem rebaseDelta_of_empty (hempty : p.totalPooled = 0)
    (hdelta : p.rebaseDelta fraction = .ok delta) : delta = 0 := by
  by_cases hnumber : ∃ x, fraction = .number x
  · rcases hnumber with ⟨x, rfl⟩
    rcases exists_of_rebaseDelta hdelta with ⟨y, hround, rfl⟩
    have hproduct : (x.exactMul (.ofInt p.totalPooled)).magnitude = 0 := by
      rw [← Decimal.abs_toRat, Decimal.toRat_exactMul, Decimal.toRat_ofInt, hempty, Int.cast_zero,
        mul_zero, abs_zero]
    rw [Decimal.truncate_eq, Decimal.magnitude_round_eq_zero (by decide) hround hproduct,
      Nat.floor_zero]
    split <;> rfl
  · rcases rebaseDelta_of_no_number (p := p) (not_exists.mp hnumber) with ⟨failure, herror⟩
    cases herror.symm.trans hdelta

theorem state_rebase_of_refused (hrefused : fraction.leNegOne ≠ .ok false) :
    (Act.run (rebase fraction) p).2 = p := by
  apply Act.Leaves.state (p := fun p' : SharePool => p' = p)
  unfold rebase
  rw [Act.leaves_bind, Act.leaves_current]
  refine Act.leaves_bind_faulty (fun _ => rfl) fun wipesOut hwipesOut => ?_
  rw [Act.leaves_ite]
  refine ⟨fun _ => rfl, fun hspared => ?_⟩
  cases haccepted : fraction.leNegOne with
  | error failure =>
      rw [haccepted] at hwipesOut
      cases hwipesOut
  | ok wipes =>
      rw [haccepted] at hwipesOut
      cases hwipesOut
      exact absurd (haccepted.trans (congrArg Except.ok (Bool.eq_false_of_not_eq_true hspared)))
        hrefused

theorem totalPooled_rebase_pos (hpool : 0 < p.totalPooled) (hspares : fraction.Spares)
    (haccepted : fraction.leNegOne = .ok false) :
    0 < (Act.run (rebase fraction) p).2.totalPooled := by
  by_cases hnumber : ∃ x, fraction = .number x
  · rcases hnumber with ⟨x, rfl⟩
    have hx := lt_toRat_of_accepted haccepted
    exact totalPooled_pos_of_room hpool haccepted
      (lastDigit_lt_of_parts hpool hx (hspares x rfl hx))
  · rcases rebaseDelta_of_no_number (p := p) (not_exists.mp hnumber) with ⟨failure, herror⟩
    rw [totalPooled_rebase_of_error herror]
    exact hpool

theorem totalPooled_rebase_of_empty (hempty : p.totalPooled = 0)
    (haccepted : fraction.leNegOne = .ok false) :
    (Act.run (rebase fraction) p).2.totalPooled = 0 := by
  cases hdelta : p.rebaseDelta fraction with
  | error failure => rw [totalPooled_rebase_of_error hdelta, hempty]
  | ok delta =>
      rw [totalPooled_rebase haccepted hdelta, hempty, rebaseDelta_of_empty hempty hdelta]
      rfl

theorem Solvent.rebase (h : p.Solvent) (hspares : fraction.Spares) :
    (Act.run (rebase fraction) p).2.Solvent := by
  rcases stable_rebase_shares.after p ⟨rfl, rfl⟩ with ⟨hshares, hissued⟩
  by_cases haccepted : fraction.leNegOne = .ok false
  · have hsound : (Act.run (SharePool.rebase fraction) p).2.Sound := by
      refine ⟨fun name => ?_, ?_⟩
      · rw [hshares]
        exact h.nonneg name
      · rw [hshares, hissued]
        exact h.total
    rcases h.totalShares_nonneg.eq_or_lt with hempty | hpositive
    · have hnothing := totalPooled_rebase_of_empty (h.pooled_of_empty hempty.symm) haccepted
      refine ⟨⟨hsound, hnothing.ge, fun _ => hnothing⟩, fun hany => ?_⟩
      rw [hissued, ← hempty] at hany
      exact absurd hany (lt_irrefl 0)
    · have hpooled := totalPooled_rebase_pos (h.pooled_pos hpositive) hspares haccepted
      refine ⟨⟨hsound, hpooled.le, fun hnone => ?_⟩, fun _ => hpooled⟩
      rw [hissued] at hnone
      exact absurd hnone hpositive.ne'
  · rw [state_rebase_of_refused haccepted]
    exact h

theorem stable_submit {holder : String} {amount : Int} :
    Act.Stable Solvent (submit holder amount) := by
  apply Act.Stable.of_leaves
  intro p hp
  apply leaves_submit.mono
  · rintro _ p' ⟨hamount, rfl⟩
    exact hp.taken holder hamount
  · rintro _ p' ⟨-, rfl⟩
    exact hp

theorem stable_transfer {sender recipient : String} {amount : Int} (hamount : 0 ≤ amount) :
    Act.Stable Solvent (transfer sender recipient amount) := by
  apply Act.Stable.of_leaves
  intro p hp
  apply leaves_transfer.mono
  · rintro n p' ⟨hheld, rfl, rfl⟩
    exact hp.moved recipient (hp.sharesFor_nonneg hamount) hheld
  · rintro _ p' ⟨rfl, -⟩
    exact hp

theorem solvent_fresh (symbol : String) (decimals : Int) : (fresh symbol decimals).Solvent where
  nonneg _ := le_rfl
  total := rfl
  pooled_nonneg := le_rfl
  pooled_of_empty _ := rfl
  pooled_pos h := absurd h (lt_irrefl 0)

end SharePool

/-!
# Tokens over a solvent pool
-/

namespace DepositToken

variable {c : Option (Option SharePool)} {α : Type}

def OverSolvent (t : DepositToken) : Prop := ∀ p, t.model.livePool = some (some p) → p.Solvent

theorem stable_overSolvent {m : Act DepositToken α} (h : ∀ c, Act.Stable (IsOver c) m) :
    Act.Stable OverSolvent m := by
  constructor
  intro t ht p hp
  apply ht p
  rw [← hp]
  exact ((h t.model.livePool).after t rfl).symm

theorem enduring_overSolvent : Enduring OverSolvent where
  mint _ _ _ _ := stable_overSolvent fun _ => stable_mint
  burn _ _ _ _ _ := stable_overSolvent fun _ => stable_burn
  transfer _ _ _ := stable_overSolvent fun c => (lasting_isOver c).transfer _ _ _
  claim _ _ := stable_overSolvent fun c => (lasting_isOver c).claim _ _
  balanceOf _ := stable_overSolvent fun c => (lasting_isOver c).balanceOf _
  readRate := stable_overSolvent fun c => (lasting_isOver c).readRate
  totalSupply := stable_overSolvent fun _ => stable_totalSupply
  raise _ _ := stable_overSolvent fun _ => stable_onReserve
  transferOnLiquidation _ _ _ _ := stable_overSolvent fun _ => stable_transferOnLiquidation
  injectFlashLoanPremium _ _ := stable_overSolvent fun _ => stable_injectFlashLoanPremium
  mintToTreasury _ _ _ := stable_overSolvent fun _ => stable_mintToTreasury
  distributeRewards _ _ := stable_overSolvent fun _ => stable_distributeRewards
  registerRewardToken _ := stable_overSolvent fun _ => stable_onRewards

theorem overSolvent_withPool {t : DepositToken} {p : SharePool} (hp : p.Solvent) :
    OverSolvent { t with model := t.model.withAsset (.pool p) } := by
  intro p' hpool
  cases hmodel : t.model with
  | plain l =>
      rw [hmodel] at hpool
      cases hpool
  | rebasing w =>
      rw [hmodel] at hpool
      cases hpool
      exact hp

end DepositToken

/-!
# Steps
-/

namespace Scenario

open DepositToken (OverSolvent)

variable {s : Scenario} {p : SharePool} {step : Document} {amount : Int} {k : Int → Prop} {α : Type}

theorem Over.solvent (hs : s.Over OverSolvent k) (hasset : s.asset? = some p) : p.Solvent :=
  hs.token p (livePool_of_asset hasset)

theorem Over.withSolvent (hs : s.Over OverSolvent k) (hp : p.Solvent) :
    (s.withPool p).Over OverSolvent k :=
  ⟨DepositToken.overSolvent_withPool hp, hs.units, hs.backing⟩

theorem stable_onAsset_of_solvent {m : Act SharePool α} (hm : Act.Stable SharePool.Solvent m) :
    Act.Stable (Over OverSolvent k) (onAsset m) := by
  apply Act.Stable.of_leaves
  intro s hs
  cases hasset : s.asset? with
  | some p =>
      rw [leaves_onAsset hasset]
      exact (hm.leaves (hs.solvent hasset)).mono (fun _ _ h => hs.withSolvent h)
        (fun _ _ h => hs.withSolvent h)
  | none =>
      apply (leaves_onAsset_of_none hasset).mono (fun _ _ h => h.elim)
      rintro _ s' rfl
      exact hs

theorem paying_of_solvent : Paying (Over OverSolvent k) where
  submit _ _ := stable_onAsset_of_solvent SharePool.stable_submit
  handOn _ _ _ hamount := stable_onAsset_of_solvent (SharePool.stable_transfer hamount.le)
  payOut s p receiver burned hs hasset hburned := by
    have hp := hs.solvent hasset
    have hpaid : 0 ≤ min burned (p.balanceOf s.pool) :=
      le_min hburned.le
        (SharePool.amountFor_nonneg hp.totalShares_nonneg hp.pooled_nonneg (hp.nonneg _))
    exact (stable_onAsset_of_solvent (SharePool.stable_transfer hpaid)).leaves hs

def SparesPools (step : Document) : Prop :=
  ∀ fraction, fieldNumeral step "fraction" = .ok fraction → fraction.Spares

/-!
# Runs
-/

theorem overSolvent_prepare {settings : Settings} {name : String} {d : Document}
    (h : prepare settings name d = .ok s) : OverSolvent s.token := by
  rcases exists_terms_of_prepare h with
    ⟨-, terms, _, underlying, _, _, _, model, -, -, hbooks, htoken⟩
  have hmodel : s.token.model = model := by
    rw [DepositToken.eq_of_make htoken]
    rfl
  intro p hp
  rw [hmodel] at hp
  rcases hbooks with rfl | ⟨asset, decimals, rfl⟩
  · cases hp
  · cases hp
    exact SharePool.solvent_fresh asset decimals

section AfterSteps

variable {settings : Settings} {name holder : String} {d : Document} {start : Scenario}
  {steps : List (Int × Document)} (hstart : (setUp settings name d).outcome = .ok start)
  (hspares : ∀ step ∈ steps, SparesPools step.2)

include hstart hspares

/-- Between the steps of a scenario whose rebases spare pools, the asset is a solvent pool. -/
theorem solvent_afterSteps (hasset : (start.afterSteps steps).asset? = some p) : p.Solvent := by
  rcases over_setUp hstart with ⟨made, hmade, hover⟩
  have hstarted : start.Over OverSolvent fun _ => True :=
    hover _ _ DepositToken.enduring_overSolvent.registerRewardToken
      (over_prepare hmade (overSolvent_prepare hmade) trivial)
  have hover := over_afterSteps_of DepositToken.enduring_overSolvent paying_of_solvent
    (fun _ => trivial) steps ?_ hstarted
  · exact hover.solvent hasset
  · intro step hstep fraction hfraction
    refine stable_onAsset_of_solvent ⟨fun p hp => ?_⟩
    exact hp.rebase (hspares step hstep fraction hfraction)

theorem run_withdraw_afterSteps {s₁ : Scenario} {receiver : String} {burned : Int}
    (hs : s = start.afterSteps steps) (hholder : fieldText step "holder" = .ok holder)
    (hreceiver : fieldTextOr step "receiver" holder = .ok receiver)
    (hamount : amountOrAll step s.decimals = .ok amount)
    (hburn : Act.run (onToken (DepositToken.burn s.pool holder receiver amount s.token.index)) s =
      (.ok burned, s₁)) :
    (Act.run (withdraw step) s).1 = .ok burned := by
  cases hasset : s.asset? with
  | some p =>
      have hp : p.Solvent := solvent_afterSteps hstart hspares (hs ▸ hasset)
      rcases run_withdraw_of_burn hasset hp hholder hreceiver hamount hburn with ⟨p', hpaid⟩
      rw [hpaid]
  | none =>
      have hasset₁ : s₁.asset? = none :=
        (asset?_of_onToken (fun _ => DepositToken.stable_burn) hburn).trans hasset
      unfold withdraw
      rw [Act.run_bind_ok (Act.run_current s), hholder, Act.bind_value, hreceiver, Act.bind_value,
        hamount, Act.bind_value, Act.run_bind_ok hburn, Act.run_bind_ok (Act.run_current s₁),
        hasset₁]
      rfl

/--
The legs of the asset, if there are any, stop no deposit of such a run: it comes to
what its mint comes to.
-/
theorem run_deposit_afterSteps (hs : s = start.afterSteps steps)
    (hholder : fieldText step "holder" = .ok holder)
    (hamount : fieldAmount step "amount" s.decimals = .ok amount) (hpositive : 0 < amount) :
    ∃ s', (s.asset? = none → s' = s) ∧
      (s.asset?.isSome → ∃ minted moved s₁,
        Act.run (onAsset (SharePool.submit holder amount)) s = (.ok minted, s₁) ∧
        Act.run (onAsset (SharePool.transfer holder s.pool amount)) s₁ = (.ok moved, s')) ∧
      (Act.run (deposit step) s).1 =
        (Act.run (onToken (DepositToken.mint s.pool holder amount s.token.index)) s').1 := by
  cases hasset : s.asset? with
  | some p =>
      have hp : p.Solvent := solvent_afterSteps hstart hspares (hs ▸ hasset)
      rcases run_deposit_of_solvent hasset hp hholder hamount hpositive with
        ⟨p₁, p₂, minted, moved, hsubmit, htransfer, hdeposit⟩
      refine ⟨s.withPool p₂, nofun, fun _ => ⟨minted, moved, _, hsubmit, htransfer⟩, ?_⟩
      rw [hdeposit]
  | none =>
      refine ⟨s, fun _ => rfl, nofun, ?_⟩
      unfold deposit
      rw [Act.run_bind_ok (Act.run_current s), hholder, Act.bind_value, hamount, Act.bind_value,
        hasset]
      dsimp only
      rw [if_neg (show ¬(none : Option SharePool).isSome = true from nofun), Act.run_bind]
      rcases Act.run (onToken (DepositToken.mint s.pool holder amount s.token.index)) s with
        ⟨e | first, s₁⟩
      · rfl
      · rfl

end AfterSteps

end Scenario
end ReserveAccounting
