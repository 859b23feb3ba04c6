import ReserveAccounting.Proofs.ReadyScenarios
import ReserveAccounting.Proofs.SuppliedTokens

/-!
# Backing and supply

A scenario books what backs a plain reserve beside the token. What is left of the
backing over the supply of the token, the surplus, moves only by rounding: steps
that neither bring tokens in nor take them out leave it as it is, and a deposit
or a withdrawal is off by what its amount and the supply are rounded by.
-/

namespace ReserveAccounting

open FixedPoint

/-- The actions that bring no tokens in and take none out, and those that pay for the growth. -/
def Action.keepsSurplus (a : Action) : Bool :=
  a ∈ [.transfer, .liquidate, .accrue, .distribute, .claim, .wrap, .unwrap, .claimStatic]

/-- The actions that exchange the underlying for tokens, or back. -/
def Action.exchanges (a : Action) : Bool := a ∈ [.deposit, .withdraw]

namespace Scenario

variable {s s' : Scenario} {step : Document} {total i b : Int}

/-!
# The surplus
-/

def surplus (s : Scenario) : Except Fault Int :=
  (Act.run DepositToken.totalSupply s.token).1.map fun supply => s.backingBalance - supply

def Stands (total i b : Int) : Scenario → Prop := Over (DepositToken.Issued total i) (· = b)

theorem asset?_of_plain (h : s.token.isRebasing = false) : s.asset? = none := by
  rcases DepositToken.exists_plain h with ⟨l, hmodel⟩
  rw [asset?_eq, hmodel]
  rfl

theorem Stands.asset? (hs : s.Stands total i b) : s.asset? = none :=
  asset?_of_plain hs.token.left.plain

theorem Stands.surplus_eq_ok (hs : s.Stands total i b) {n : Int} :
    s.surplus = .ok n ↔ ∃ supply, rayMul total i = .ok supply ∧ n = b - supply := by
  unfold surplus backingBalance
  rw [DepositToken.run_totalSupply hs.token, hs.asset?]
  dsimp only
  rw [show s.backing = b from hs.backing]
  cases rayMul total i with
  | ok supply =>
      change Except.ok (b - supply) = .ok n ↔ _
      simp [eq_comm]
  | error r =>
      change (Except.error _ : Except Fault Int) = .ok n ↔ _
      simp

/-!
# Steps that leave the surplus
-/

theorem leaves_onToken {α : Type} {m : Act DepositToken α}
    {answered : α → Scenario → Prop} {failed : Fault → Scenario → Prop} :
    (onToken m).Leaves s answered failed ↔
      m.Leaves s.token (fun a t => answered a { s with token := t })
        (fun e t => failed e { s with token := t }) :=
  Act.leaves_within

theorem Stands.leaves_totalSupply (hs : s.Stands total i b) :
    (onToken DepositToken.totalSupply).Leaves s
      (fun supply s' => s' = s ∧ rayMul total i = .ok supply) (fun _ _ => True) := by
  rw [leaves_onToken]
  apply Act.leaves_of_run
  · intro supply t hrun
    rw [DepositToken.run_totalSupply hs.token] at hrun
    cases hvalue : rayMul total i with
    | ok value =>
        rw [hvalue] at hrun
        cases hrun
        exact ⟨rfl, rfl⟩
    | error r =>
        rw [hvalue] at hrun
        cases hrun
  · intro _ _ _
    trivial

theorem Stands.leaves_raise {index : Int} {reason : String} (hs : s.Stands total i b) :
    (onToken (DepositToken.onReserve (ReserveIndex.raise index reason))).Leaves s
      (fun _ s' => i ≤ index ∧ s'.Stands total index b) (fun _ _ => True) := by
  rw [leaves_onToken, DepositToken.leaves_onReserve]
  apply ReserveIndex.leaves_raise.mono
  · intro _ r h
    rcases h with ⟨_, _, hle, hindex⟩
    refine ⟨?_, ⟨⟨hs.token.left.plain, hs.token.left.sound, hs.token.left.total⟩, hindex⟩,
      hs.units, hs.backing⟩
    rw [← hs.token.right]
    exact hle
  · intro _ _ _
    trivial

theorem Stands.leaves_addBacking {amount : Int} (hs : s.Stands total i b) (hamount : 0 ≤ amount) :
    (addBacking amount).Leaves s (fun _ s' => s'.Stands total i (b + amount)) (fun _ _ => True) := by
  unfold addBacking
  rw [Act.leaves_ite]
  constructor
  · intro hle
    have hzero : amount = 0 := by omega
    rw [hzero, Int.add_zero]
    exact hs
  · intro _
    rw [Act.leaves_bind, Act.leaves_current, hs.asset?]
    exact ⟨hs.token, hs.units, congrArg (· + amount) hs.backing⟩

theorem Stands.leaves_accrue (hs : s.Stands total i b) :
    (accrue step).Leaves s
      (fun _ s' => ∃ index before after, rayMul total i = .ok before ∧
        rayMul total index = .ok after ∧ s'.Stands total index (b + (after - before)))
      (fun _ _ => True) := by
  unfold accrue
  apply Act.leaves_bind_faulty fun _ => trivial
  intro multiplier _
  apply Act.leaves_bind_faulty fun _ => trivial
  intro index _
  rw [Act.leaves_bind]
  apply hs.leaves_totalSupply.mono _ fun _ _ h => h
  intro before s₀ h
  rcases h with ⟨rfl, hbefore⟩
  rw [Act.leaves_bind]
  apply hs.leaves_raise.mono _ fun _ _ h => h
  intro raised s₁ h
  rcases h with ⟨hle, hraised⟩
  rw [Act.leaves_bind]
  apply hraised.leaves_totalSupply.mono _ fun _ _ h => h
  intro after s₂ h
  rcases h with ⟨rfl, hafter⟩
  have hgrowth : before ≤ after := rayMul_mono_right hbefore hafter hle
  rw [Act.leaves_bind]
  apply (hraised.leaves_addBacking (sub_nonneg.mpr hgrowth)).mono _ fun _ _ h => h
  intro _ s₃ hpaid
  exact ⟨index, before, after, hbefore, hafter, hpaid⟩

/-!
# Deposits and withdrawals
-/

def Exchanged (s' : Scenario) (total i b : Int) : Prop :=
  ∃ x n, |i * n - x * ray| ≤ i / 2 ∧ s'.Stands (total + n) i (b + x)

theorem Stands.leaves_deposit (hs : s.Stands total i b) :
    (deposit step).Leaves s (fun _ s' => s'.Exchanged total i b) (fun _ _ => True) := by
  have hnone := hs.asset?
  unfold deposit
  rw [Act.leaves_bind, Act.leaves_current]
  apply Act.leaves_bind_faulty fun _ => trivial
  intro holder _
  apply Act.leaves_bind_faulty fun _ => trivial
  intro amount _
  rw [hnone]
  dsimp only
  rw [Act.leaves_ite]
  constructor
  · intro hasset
    cases hasset
  · intro _
    rw [hs.token.right, Act.leaves_bind, leaves_onToken]
    apply (DepositToken.leaves_mint_issued hs.token).mono _ fun _ _ h => h
    intro first t h
    rcases h with ⟨n, hn, hissued⟩
    rw [if_pos Option.isNone_none, Act.leaves_bind, Act.leaves_update]
    exact ⟨amount, n, abs_rayDiv_sub_le hn, hissued, hs.units, congrArg (· + amount) hs.backing⟩

theorem Stands.leaves_withdraw (hs : s.Stands total i b) (hi : ray ≤ i) :
    (withdraw step).Leaves s (fun _ s' => s'.Exchanged total i b) (fun _ _ => True) := by
  unfold withdraw
  rw [Act.leaves_bind, Act.leaves_current]
  apply Act.leaves_bind_faulty fun _ => trivial
  intro holder _
  apply Act.leaves_bind_faulty fun _ => trivial
  intro receiver _
  apply Act.leaves_bind_faulty fun _ => trivial
  intro amount _
  rw [hs.token.right, Act.leaves_bind, leaves_onToken]
  apply (DepositToken.leaves_burn_issued hs.token hi).mono _ fun _ _ h => h
  intro burned t h
  rcases h with ⟨n, hn, hissued⟩
  have hnone : Scenario.asset? { s with token := t } = none := asset?_of_plain hissued.left.plain
  rw [Act.leaves_bind, Act.leaves_current, hnone]
  refine ⟨-burned, -n, ?_, hissued, hs.units, congrArg (· - burned) hs.backing⟩
  have hworth := abs_rayDiv_sub_le hn
  rw [abs_sub_comm] at hworth
  rw [show i * -n - -burned * ray = burned * ray - i * n by ring]
  exact hworth

/-!
# All steps
-/

/-- What a step that an action made does to the surplus, where it can be computed. -/
def SettlesSurplus (a : Action) (s s' : Scenario) : Prop :=
  ∀ before after, s.surplus = .ok before → s'.surplus = .ok after →
    (a.keepsSurplus = true → after = before) ∧
    (a.exchanges = true → 2 * ray * |after - before| ≤ s.token.index + 2 * ray)

theorem settlesSurplus_of_supplies {action : Action} {total' i' b' : Int}
    (hs : s.Stands total i b) (hs' : s'.Stands total' i' b')
    (hsupplies : ∀ old new, rayMul total i = .ok old → rayMul total' i' = .ok new →
      (action.keepsSurplus = true → b' - new = b - old) ∧
      (action.exchanges = true → 2 * ray * |b' - new - (b - old)| ≤ i + 2 * ray)) :
    SettlesSurplus action s s' := by
  intro before after hbefore hafter
  rw [hs.surplus_eq_ok] at hbefore
  rw [hs'.surplus_eq_ok] at hafter
  rcases hbefore with ⟨old, hold, rfl⟩
  rcases hafter with ⟨new, hnew, rfl⟩
  rw [hs.token.right]
  exact hsupplies old new hold hnew

theorem settlesSurplus_of_stands {action : Action} (hs : s.Stands total i b)
    (hs' : s'.Stands total i b) (haction : action.exchanges = false) :
    SettlesSurplus action s s' := by
  apply settlesSurplus_of_supplies hs hs'
  intro old new hold hnew
  cases hold.symm.trans hnew
  rw [haction]
  exact ⟨fun _ => rfl, nofun⟩

theorem settlesSurplus_of_paid {index before after : Int} (hs : s.Stands total i b)
    (hbefore : rayMul total i = .ok before) (hafter : rayMul total index = .ok after)
    (hs' : s'.Stands total index (b + (after - before))) : SettlesSurplus .accrue s s' := by
  apply settlesSurplus_of_supplies hs hs'
  intro old new hold hnew
  cases hbefore.symm.trans hold
  cases hafter.symm.trans hnew
  exact ⟨fun _ => by omega, nofun⟩

theorem settlesSurplus_of_exchanged {action : Action} (hs : s.Stands total i b)
    (hs' : s'.Exchanged total i b) (haction : action.keepsSurplus = false) :
    SettlesSurplus action s s' := by
  rcases hs' with ⟨x, n, hworth, hs'⟩
  apply settlesSurplus_of_supplies hs hs'
  intro old new hold hnew
  rw [haction, show b + x - new - (b - old) = x - (new - old) by ring]
  exact ⟨nofun, fun _ => abs_gain_sub_le hworth hold hnew⟩

theorem settlesSurplus_of_other {action : Action} (hkeeps : action.keepsSurplus = false)
    (hexchanges : action.exchanges = false) : SettlesSurplus action s s' := by
  intro before after _ _
  rw [hkeeps, hexchanges]
  exact ⟨nofun, nofun⟩

theorem Stands.leaves_perform (hs : s.Stands total i b) (hi : ray ≤ i) (action : Action) :
    (perform action step).Leaves s (fun _ s' => SettlesSurplus action s s') (fun _ _ => True) := by
  have hstanding := DepositToken.standing_issued total i
  have hstable : ∀ {α : Type} {m : Act Scenario α}, action.exchanges = false →
      Act.Stable (Stands total i b) m →
      m.Leaves s (fun _ s' => SettlesSurplus action s s') (fun _ _ => True) := by
    intro α m haction hm
    exact (hm.leaves hs).mono (fun _ _ h => settlesSurplus_of_stands hs h haction)
      (fun _ _ _ => trivial)
  have hother : ∀ {α : Type} {m : Act Scenario α}, action.keepsSurplus = false →
      action.exchanges = false →
      m.Leaves s (fun _ s' => SettlesSurplus action s s') (fun _ _ => True) := by
    intro α m hkeeps hexchanges
    exact Act.leaves_of_run (fun _ _ _ => settlesSurplus_of_other hkeeps hexchanges)
      (fun _ _ _ => trivial)
  cases action with
  | deposit =>
      unfold perform
      rw [Act.leaves_bind]
      exact hs.leaves_deposit.mono (fun _ _ h => settlesSurplus_of_exchanged hs h rfl)
        (fun _ _ h => h)
  | withdraw =>
      unfold perform
      rw [Act.leaves_bind]
      exact (hs.leaves_withdraw hi).mono (fun _ _ h => settlesSurplus_of_exchanged hs h rfl)
        (fun _ _ h => h)
  | accrue =>
      unfold perform
      rw [Act.leaves_bind]
      apply hs.leaves_accrue.mono _ fun _ _ h => h
      intro _ s' h
      rcases h with ⟨index, old, new, hold, hnew, hs'⟩
      exact settlesSurplus_of_paid hs hold hnew hs'
  | transfer => exact hstable rfl ((stable_transfer hstanding).bind fun _ => Act.Stable.pure _)
  | liquidate =>
      refine hstable rfl (Act.Stable.bind ?_ fun _ => Act.Stable.pure _)
      exact stable_liquidate (DepositToken.stable_issued_transferOnLiquidation total i)
  | distribute =>
      exact hstable rfl (stable_distribute (DepositToken.stable_issued_distributeRewards total i))
  | claim => exact hstable rfl ((stable_claim hstanding).bind fun _ => Act.Stable.pure _)
  | wrap => exact hstable rfl ((stable_wrap hstanding).bind fun _ => Act.Stable.pure _)
  | unwrap => exact hstable rfl ((stable_unwrap hstanding).bind fun _ => Act.Stable.pure _)
  | claimStatic =>
      exact hstable rfl ((stable_claimStatic hstanding).bind fun _ => Act.Stable.pure _)
  | rebase => exact hother rfl rfl
  | flashLoan => exact hother rfl rfl
  | sweepDust => exact hother rfl rfl

theorem leaves_conclude_passed {number : Int} {action : Action} {expected : Option Document}
    {m : Act Scenario Document} {p : Scenario → Prop}
    (hm : m.Leaves s (fun _ s' => p s') (fun _ _ => True)) :
    (conclude number action expected m).Leaves s
      (fun r s' => r.ok = true → r.action = action.name ∧ p s') (fun _ _ => True) := by
  unfold Act.Leaves Act.run at hm
  unfold Act.Leaves Act.run conclude
  dsimp only at hm ⊢
  cases houtcome : (m s).outcome with
  | ok d =>
      rw [houtcome] at hm
      cases expected with
      | none => exact fun _ => ⟨rfl, hm⟩
      | some _ => trivial
  | error e =>
      cases e with
      | refused refusal =>
          dsimp only
          by_cases hexpected : isExpected expected refusal = true
          · rw [if_pos hexpected]
            intro hok
            cases hok
          · rw [if_neg hexpected]
            trivial
      | _ => trivial

theorem Stands.leaves_execute {number : Int} (hs : s.Stands total i b) (hi : ray ≤ i) :
    (execute number step).Leaves s
      (fun r s' => r.ok = true → ∃ action : Action, r.action = action.name ∧
        SettlesSurplus action s s')
      (fun _ _ => True) := by
  unfold execute
  split
  · trivial
  · apply Act.leaves_bind_faulty fun _ => trivial
    intro name _
    split
    · trivial
    · next action _ =>
        apply (leaves_conclude_passed (hs.leaves_perform hi action)).mono _ fun _ _ h => h
        intro r s' h hok
        rcases h hok with ⟨haction, hsettles⟩
        exact ⟨action, haction, hsettles⟩

/-!
# Runs
-/

theorem exists_stands {settings : Settings} {name : String} {d : Document} {start : Scenario}
    (hstart : (setUp settings name d).outcome = .ok start) (hplain : start.token.isRebasing = false)
    (steps : List (Int × Document)) :
    ∃ total i b, ray ≤ i ∧ (start.afterSteps steps).Stands total i b := by
  have habiding : ∀ kind, DepositToken.Abiding (DepositToken.Grounded kind) := fun _ =>
    DepositToken.Abiding.of_calls (fun c _ hs => hs.after c) fun _ _ hs h => hs.of_keeps h
  have hk : ∀ n : Int, (fun _ => True) n := fun _ => trivial
  rcases exists_started hstart with ⟨t, ht, hover⟩
  have hgrounded : t.Grounded t.isRebasing := by
    refine ⟨rfl, ?_, ht.index.ge⟩
    rw [ht.shares]
    exact ShareLedger.sound_empty
  have hstarted := hover _ _ (habiding t.isRebasing) hk hgrounded
  rw [hstarted.token.kind.symm.trans hplain] at hstarted
  have hafter := over_afterSteps (habiding false) hk steps hstarted
  exact ⟨_, _, _, hafter.token.index, hafter.token.issued, hafter.units, rfl⟩

/--
After any steps of a plain scenario, a step that passes leaves the surplus as it
is, or moves it by rounding if it is a deposit or a withdrawal.
-/
theorem surplus_settled {settings : Settings} {name : String} {d : Document} {start : Scenario}
    {number before after : Int} {r : StepResult}
    (hstart : (setUp settings name d).outcome = .ok start) (hplain : start.token.isRebasing = false)
    (steps : List (Int × Document))
    (hrun : Act.run (execute number step) (start.afterSteps steps) = (.ok r, s'))
    (hok : r.ok = true) (hbefore : (start.afterSteps steps).surplus = .ok before)
    (hafter : s'.surplus = .ok after) :
    ∃ action : Action, r.action = action.name ∧
      (action.keepsSurplus = true → after = before) ∧
      (action.exchanges = true →
        2 * ray * |after - before| ≤ (start.afterSteps steps).token.index + 2 * ray) := by
  rcases exists_stands hstart hplain steps with ⟨total, i, b, hi, hs⟩
  rcases (hs.leaves_execute hi).of_ok hrun hok with ⟨action, haction, hsettles⟩
  exact ⟨action, haction, hsettles before after hbefore hafter⟩

/-- At an index of one and a half, a unit buys one share, and one share is worth two units. -/
theorem surplus_settled_unit_deposit :
    let description : Document := .record [("reserve", .record [("asset", .text "ETH")])]
    let deposit (amount : String) : Document := .record
      [("action", .text "deposit"), ("holder", .text "alice"), ("amount", .text amount)]
    let steps : List (Int × Document) :=
      [(1, deposit "1"), (2, .record [("action", .text "accrue"), ("index", .text "1.5")])]
    let unit : Document := deposit "0.000000000000000001"
    ∃ start s' r, (setUp .defaults "plain" description).outcome = .ok start ∧
      start.token.isRebasing = false ∧
      Act.run (execute 3 unit) (start.afterSteps steps) = (.ok r, s') ∧ r.ok = true ∧
      r.action = Action.deposit.name ∧ (start.afterSteps steps).surplus = .ok 0 ∧
      s'.surplus = .ok (-1) ∧
      ∃ action : Action, r.action = action.name ∧ (action.keepsSurplus = true → (-1 : Int) = 0) ∧
        (action.exchanges = true →
          2 * ray * |(-1 : Int) - 0| ≤ (start.afterSteps steps).token.index + 2 * ray) := by
  intro description deposit steps unit
  let start := (setUp .defaults "plain" description).outcome.toOption.getD default
  let s' := (Act.run (execute 3 unit) (start.afterSteps steps)).2
  let r := (Act.run (execute 3 unit) (start.afterSteps steps)).1.toOption.getD default
  have hstart : (setUp .defaults "plain" description).outcome = .ok start :=
    Act.eq_ok_getD (by decide +kernel)
  have hplain : start.token.isRebasing = false := by decide +kernel
  have hrun : Act.run (execute 3 unit) (start.afterSteps steps) = (.ok r, s') :=
    Prod.ext (Act.eq_ok_getD (by decide +kernel)) rfl
  have hok : r.ok = true := by decide +kernel
  have hbefore : (start.afterSteps steps).surplus = .ok 0 :=
    Act.eq_ok_of_toOption (by decide +kernel)
  have hafter : s'.surplus = .ok (-1) := Act.eq_ok_of_toOption (by decide +kernel)
  exact ⟨start, s', r, hstart, hplain, hrun, hok, by decide +kernel, hbefore, hafter,
    surplus_settled hstart hplain steps hrun hok hbefore hafter⟩

end Scenario
end ReserveAccounting
