import ReserveAccounting.Proofs.FailedVaultCalls
import ReserveAccounting.Proofs.VaultWalks

/-!
# Plans of a vault

Deposits, withdrawals and transfers of units go alike. A call reads what it
needs and settles on a plan, which changes nothing. It then collects rewards,
checkpoints the holders of the plan, carries out its legs and reports it.
-/

namespace ReserveAccounting
namespace StaticVault

/-- What a call does once everything is read: its legs, and whom they concern. -/
inductive Plan where
  | take (depositor recipient : String) (amount units : Int) (fromUnderlying : Bool)
  | release (owner recipient : String) (units value : Int) (toUnderlying : Bool)
  | move (sender recipient : String) (units : Int)

namespace Plan

def accounts : Plan → List String
  | take _ recipient _ _ _ => [Text.lower recipient]
  | release owner _ _ _ _ => [Text.lower owner]
  | move sender recipient _ => [Text.lower sender, Text.lower recipient]

def legs : Plan → Act StaticVault Unit
  | take depositor recipient amount units fromUnderlying => do
      takeTokens (Text.lower depositor) amount fromUnderlying
      let _ ← onBalances (ShareLedger.applyDelta (Text.lower recipient) units .mint)
  | release owner recipient units value toUnderlying => do
      releaseTokens (Text.lower recipient) value toUnderlying
      let _ ← onBalances (ShareLedger.applyDelta (Text.lower owner) (-units) .burn)
  | move sender recipient units =>
      onBalances (ShareLedger.moveShares (Text.lower sender) (Text.lower recipient) units)

def report : Plan → Act StaticVault Unit
  | take depositor recipient _ units _ =>
      emit .deposit (Text.lower depositor) (Text.lower recipient) units
  | release owner recipient units _ _ =>
      emit .withdraw (Text.lower owner) (Text.lower recipient) units
  | move sender recipient units =>
      emit .transfer (Text.lower sender) (Text.lower recipient) units

def carryOut (p : Plan) : Act StaticVault Unit := do
  applyChange p.accounts p.legs
  p.report

def takes : Plan → Bool
  | take .. => true
  | _ => false

theorem accounts_small (p : Plan) : ∀ x ∈ p.accounts, Text.lower x = x := by
  cases p with
  | take depositor recipient amount units fromUnderlying => exact forall_small_singleton recipient
  | release owner recipient units value toUnderlying => exact forall_small_singleton owner
  | move sender recipient units => exact forall_small_pair sender recipient

end Plan

/-!
# What a call settles on
-/

variable {v : StaticVault}

def depositPlan (depositor recipient : String) (amount : Int) (fromUnderlying : Bool) :
    Act StaticVault Plan := do
  let _ ← requireRecipient recipient
  if amount ≤ 0 then
    Act.refuse (.depositNotPositive "depositor" (Text.lower depositor) amount)
  else
    let units ← unitsFor amount
    if units = 0 then
      let rate ← rate
      Act.refuse (.staticDepositWithoutUnits (Text.lower depositor) amount rate)
    else return .take depositor recipient amount units fromUnderlying

def releasePlan (owner recipient : String) (units value : Int) (toUnderlying : Bool) :
    Act StaticVault Plan := do
  let _ ← requireRecipient recipient
  if units ≤ 0 ∧ value ≤ 0 then
    Act.refuse (.staticWithdrawalNotPositive (Text.lower owner) units value)
  else
    let v ← Act.current
    let balance := v.unitsOf (Text.lower owner)
    if balance < units then
      Act.refuse (.staticWithdrawalAboveBalance (Text.lower owner) units balance)
    else
      let held ← onToken (DepositToken.balanceOf v.books.address)
      let value := min value held
      if units = 0 ∨ value = 0 then
        Act.refuse (.staticWithdrawalToNothing (Text.lower owner) units value)
      else return .release owner recipient units value toUnderlying

def withdrawPlan (owner recipient : String) (units : Int) (toUnderlying : Bool) :
    Act StaticVault Plan := do
  let v ← Act.current
  let units := if units = everything then v.unitsOf (Text.lower owner) else units
  let value ← valueOf units
  releasePlan owner recipient units value toUnderlying

def withdrawValuePlan (owner recipient : String) (value : Int) (toUnderlying : Bool) :
    Act StaticVault Plan := do
  let units ← unitsFor value
  releasePlan owner recipient units value toUnderlying

def transferPlan (sender recipient : String) (units : Int) : Act StaticVault Plan := do
  let _ ← requireRecipient recipient
  return .move sender recipient units

/-!
# Readings
-/

theorem Reads.trans {v' v'' : StaticVault} (h : Reads v v') (h' : Reads v' v'') : Reads v v'' where
  token := (h.token.trans h'.token).mono (fun _ h => h) (fun _ h => h)
    fun _ hsame => hsame.trans h.token.rewards
  books := h'.books.trans h.books

theorem reads_bind {α β : Type} {m : Act StaticVault α} {f : α → Act StaticVault β}
    {answered : β → Prop} (hm : m.Leaves v (fun _ v' => Reads v v') (fun _ v' => Reads v v'))
    (hf : ∀ a v', (f a).Leaves v' (fun b v'' => Reads v' v'' ∧ answered b)
      (fun _ v'' => Reads v' v'')) :
    (m >>= f).Leaves v (fun b v' => Reads v v' ∧ answered b) (fun _ v' => Reads v v') := by
  rw [Act.leaves_bind]
  apply hm.mono _ (fun _ _ h => h)
  intro a v' h
  exact (hf a v').mono (fun _ _ h' => ⟨h.trans h'.left, h'.right⟩) (fun _ _ h' => h.trans h')

theorem reads_requireRecipient {recipient : String} :
    (requireRecipient recipient).Leaves v (fun _ v' => Reads v v') (fun _ v' => Reads v v') := by
  apply leaves_requireRecipient.mono
  · intro _ v' h
    rw [h.right]
    exact Reads.refl v
  · intro _ v' hsame
    rw [hsame]
    exact Reads.refl v

theorem reads_convert {convert : Int → Except Refusal Int} :
    (do
      let r ← rate
      convert r : Act StaticVault Int).Leaves v (fun _ v' => Reads v v') (fun _ v' => Reads v v') :=
  reads_atRate.mono (fun _ _ h => h.left) (fun _ _ h => h)

theorem reads_depositPlan {depositor recipient : String} {amount : Int} {fromUnderlying : Bool} :
    (depositPlan depositor recipient amount fromUnderlying).Leaves v
      (fun p v' => Reads v v' ∧
        ∃ units, p = .take depositor recipient amount units fromUnderlying)
      (fun _ v' => Reads v v') := by
  unfold depositPlan
  apply reads_bind reads_requireRecipient
  intro _ v₁
  rw [Act.leaves_ite]
  refine ⟨fun _ => Reads.refl v₁, fun _ => ?_⟩
  apply reads_bind reads_convert
  intro units v₂
  rw [Act.leaves_ite]
  constructor
  · intro _
    apply reads_bind reads_rate
    intro _ v₃
    exact Reads.refl v₃
  · intro _
    exact ⟨Reads.refl v₂, units, rfl⟩

theorem reads_releasePlan {owner recipient : String} {units value : Int} {toUnderlying : Bool} :
    (releasePlan owner recipient units value toUnderlying).Leaves v
      (fun p v' => Reads v v' ∧ p.takes = false) (fun _ v' => Reads v v') := by
  unfold releasePlan
  apply reads_bind reads_requireRecipient
  intro _ v₁
  rw [Act.leaves_ite]
  refine ⟨fun _ => Reads.refl v₁, fun _ => ?_⟩
  rw [Act.leaves_bind, Act.leaves_current]
  dsimp only
  rw [Act.leaves_ite]
  refine ⟨fun _ => Reads.refl v₁, fun _ => ?_⟩
  apply reads_bind (reads_onToken DepositToken.keeps_balanceOf)
  intro held v₂
  rw [Act.leaves_ite]
  exact ⟨fun _ => Reads.refl v₂, fun _ => ⟨Reads.refl v₂, rfl⟩⟩

theorem reads_withdrawPlan {owner recipient : String} {units : Int} {toUnderlying : Bool} :
    (withdrawPlan owner recipient units toUnderlying).Leaves v
      (fun p v' => Reads v v' ∧ p.takes = false) (fun _ v' => Reads v v') := by
  unfold withdrawPlan
  rw [Act.leaves_bind, Act.leaves_current]
  exact reads_bind reads_convert fun _ _ => reads_releasePlan

theorem reads_withdrawValuePlan {owner recipient : String} {value : Int} {toUnderlying : Bool} :
    (withdrawValuePlan owner recipient value toUnderlying).Leaves v
      (fun p v' => Reads v v' ∧ p.takes = false) (fun _ v' => Reads v v') := by
  unfold withdrawValuePlan
  exact reads_bind reads_convert fun _ _ => reads_releasePlan

theorem reads_transferPlan {sender recipient : String} {units : Int} :
    (transferPlan sender recipient units).Leaves v
      (fun p v' => Reads v v' ∧ p.takes = false) (fun _ v' => Reads v v') := by
  unfold transferPlan
  apply reads_bind reads_requireRecipient
  intro _ v₁
  exact ⟨Reads.refl v₁, rfl⟩

end StaticVault

namespace VaultCall

variable {v : StaticVault} {answered : Unit → StaticVault → Prop}
  {failed : Fault → StaticVault → Prop} {c : VaultCall} {m : Act StaticVault StaticVault.Plan}

/-!
# Calls by plan
-/

def plan? : VaultCall → Option (Act StaticVault StaticVault.Plan)
  | deposit depositor recipient amount fromUnderlying =>
      some (StaticVault.depositPlan depositor recipient amount fromUnderlying)
  | withdraw owner recipient units toUnderlying =>
      some (StaticVault.withdrawPlan owner recipient units toUnderlying)
  | withdrawValue owner recipient value toUnderlying =>
      some (StaticVault.withdrawValuePlan owner recipient value toUnderlying)
  | transfer sender recipient units => some (StaticVault.transferPlan sender recipient units)
  | _ => none

def isDeposit : VaultCall → Bool
  | deposit .. => true
  | _ => false

theorem leaves_perform_iff (h : c.plan? = some m) :
    c.perform.Leaves v answered failed ↔
      m.Leaves v (fun p v' => p.carryOut.Leaves v' answered failed) failed := by
  cases c with
  | deposit depositor recipient amount fromUnderlying =>
      cases h
      unfold perform StaticVault.deposit StaticVault.depositPlan StaticVault.Plan.carryOut
      simp only [StaticVault.requireRecipient_bind, Act.leaves_ending, Act.leaves_bind,
        Act.leaves_current, Act.leaves_ite, Act.leaves_refuse, Act.leaves_pure]
      rfl
  | withdraw owner recipient units toUnderlying =>
      cases h
      unfold perform StaticVault.withdraw StaticVault.withdrawPlan StaticVault.release
        StaticVault.releasePlan StaticVault.Plan.carryOut
      simp only [StaticVault.requireRecipient_bind, Act.leaves_ending, Act.leaves_bind,
        Act.leaves_current, Act.leaves_ite, Act.leaves_refuse, Act.leaves_pure]
      rfl
  | withdrawValue owner recipient value toUnderlying =>
      cases h
      unfold perform StaticVault.withdrawValue StaticVault.withdrawValuePlan StaticVault.release
        StaticVault.releasePlan StaticVault.Plan.carryOut
      simp only [StaticVault.requireRecipient_bind, Act.leaves_ending, Act.leaves_bind,
        Act.leaves_current, Act.leaves_ite, Act.leaves_refuse, Act.leaves_pure]
      rfl
  | transfer sender recipient units =>
      cases h
      unfold perform StaticVault.transfer StaticVault.transferPlan StaticVault.Plan.carryOut
      simp only [StaticVault.requireRecipient_bind, Act.leaves_ending, Act.leaves_bind,
        Act.leaves_current, Act.leaves_ite, Act.leaves_refuse, Act.leaves_pure]
      rfl
  | _ => cases h

theorem reads_plan (h : c.plan? = some m) :
    m.Leaves v (fun p v' => v.Reads v' ∧ p.takes = c.isDeposit) (fun _ v' => v.Reads v') := by
  cases c with
  | deposit depositor recipient amount fromUnderlying =>
      cases h
      apply StaticVault.reads_depositPlan.mono _ (fun _ _ h => h)
      intro p v' h
      rcases h with ⟨hreads, units, rfl⟩
      exact ⟨hreads, rfl⟩
  | withdraw owner recipient units toUnderlying =>
      cases h
      exact StaticVault.reads_withdrawPlan
  | withdrawValue owner recipient value toUnderlying =>
      cases h
      exact StaticVault.reads_withdrawValuePlan
  | transfer sender recipient units =>
      cases h
      exact StaticVault.reads_transferPlan
  | _ => cases h

end VaultCall
end ReserveAccounting
