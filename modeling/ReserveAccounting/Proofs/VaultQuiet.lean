import ReserveAccounting.Proofs.RewardSpecs
import ReserveAccounting.StaticVault

/-!
# Quiet steps of a vault

Collecting rewards, forwarding them and checkpointing holders of units touch
neither shares nor units. Such steps compose, whatever comes of them.
-/

namespace ReserveAccounting
namespace StaticVault

variable {v v' v'' : StaticVault} {α : Type}

/-!
# Single steps
-/

theorem leaves_onRewards {α : Type} {m : Act RewardTracker α}
    {answered : α → StaticVault → Prop} {failed : Fault → StaticVault → Prop} :
    (onRewards m).Leaves v answered failed ↔
      m.Leaves v.books.rewards
        (fun a t => answered a { v with books := { v.books with rewards := t } })
        (fun e t => failed e { v with books := { v.books with rewards := t } }) :=
  Act.leaves_within

theorem leaves_onToken {α : Type} {m : Act DepositToken α}
    {answered : α → StaticVault → Prop} {failed : Fault → StaticVault → Prop} :
    (onToken m).Leaves v answered failed ↔
      m.Leaves v.token (fun a s => answered a { v with token := s })
        (fun e s => failed e { v with token := s }) :=
  Act.leaves_within

theorem leaves_emit {kind : EventKind} {source target : String} {value : Int}
    {answered : Unit → StaticVault → Prop} {failed : Fault → StaticVault → Prop} :
    (emit kind source target value).Leaves v answered failed ↔
      answered () { v with
        books := { v.books with
          events := v.books.events ++ [⟨kind, source, target, value, v.token.index⟩] } } := Iff.rfl

theorem leaves_noteInfo {message : String} {fields : List (String × Document)}
    {answered : Unit → StaticVault → Prop} {failed : Fault → StaticVault → Prop} :
    (noteInfo message fields).Leaves v answered failed ↔ answered () v := Iff.rfl

/-!
# Steps that keep shares and units
-/

structure Quiet (v v' : StaticVault) : Prop where
  token : v.token.Keeps (fun _ => True) v'.token
  address : v'.books.address = v.books.address
  balances : v'.books.balances = v.books.balances

theorem Quiet.refl (v : StaticVault) : Quiet v v where
  token := DepositToken.Changes.refl rfl rfl trivial
  address := rfl
  balances := rfl

theorem Quiet.trans (h : Quiet v v') (h' : Quiet v' v'') : Quiet v v'' where
  token := h.token.trans h'.token
  address := h'.address.trans h.address
  balances := h'.balances.trans h.balances

theorem Quiet.of_eq (h : v' = v) : Quiet v v' := by
  rw [h]
  exact Quiet.refl v

theorem Quiet.of_keeps {rewarded : Option RewardProgram → Prop} {s : DepositToken}
    (h : v.token.Keeps rewarded s) : Quiet v { v with token := s } where
  token := h.mono (fun _ h => h) (fun _ h => h) (fun _ _ => trivial)
  address := rfl
  balances := rfl

def IsQuiet (m : Act StaticVault α) : Prop :=
  ∀ v, m.Leaves v (fun _ v' => Quiet v v') (fun _ v' => Quiet v v')

theorem IsQuiet.of_stable {m : Act StaticVault α} (h : ∀ v, Act.Stable (Quiet v) m) : IsQuiet m :=
  fun v => (h v).leaves (Quiet.refl v)

/-!
# Rewards of a vault
-/

/-- A property that stands beside the rewards of a vault: collecting and forwarding them keep it. -/
structure Bystander (p : StaticVault → Prop) : Prop where
  claim : ∀ v, p v → ∀ token,
    Act.Stable p (onToken (DepositToken.claim v.books.address token))
  rewards : ∀ v rewards, p v → p { v with books := { v.books with rewards := rewards } }
  collected : ∀ v balances strays, p v →
    p { v with
      books := { v.books with rewardBalances := balances, strayBalances := strays } }

namespace Bystander

variable {p q : StaticVault → Prop}

theorem and (hp : Bystander p) (hq : Bystander q) : Bystander fun v => p v ∧ q v where
  claim v hv token := (hp.claim v hv.left token).and (hq.claim v hv.right token)
  rewards v t hv := ⟨hp.rewards v t hv.left, hq.rewards v t hv.right⟩
  collected v balances strays hv :=
    ⟨hp.collected v balances strays hv.left, hq.collected v balances strays hv.right⟩

theorem onRewards (hp : Bystander p) (m : Act RewardTracker α) : Act.Stable p (onRewards m) :=
  Act.Stable.within_aside fun v t hv => hp.rewards v t hv

theorem addRewardBalance (hp : Bystander p) (token : String) (delta : Int) :
    Act.Stable p (addRewardBalance token delta) := by
  unfold StaticVault.addRewardBalance
  apply Act.Stable.of_current
  intro v hv
  apply Act.Stable.bind (Act.Stable.faulty _)
  intro held
  exact ⟨fun _ _ => hp.collected v _ _ hv⟩

theorem collectOne (hp : Bystander p) (token : String) : Act.Stable p (collectOne token) := by
  unfold StaticVault.collectOne
  apply Act.Stable.of_current
  intro v hv
  apply Act.Stable.bind (Act.Stable.faulty _)
  intro pending
  apply Act.Stable.bind (hp.onRewards _)
  intro _
  apply Act.Stable.ite (Act.Stable.pure none)
  apply Act.Stable.bind (hp.claim v hv token)
  intro claim
  apply Act.Stable.bind (hp.addRewardBalance token _)
  intro _
  apply Act.Stable.bind Act.Stable.current
  intro v'
  apply Act.Stable.bind (hp.onRewards _)
  intro _
  exact Act.Stable.pure _

theorem collect (hp : Bystander p) (asked : Option String) : Act.Stable p (collect asked) := by
  unfold StaticVault.collect
  apply Act.Stable.bind Act.Stable.current
  intro v
  split
  · exact Act.Stable.pure ∅
  · apply Act.Stable.bind
    · apply Act.Stable.mapEach
      intro token
      apply Act.Stable.bind (Act.Stable.faulty _)
      intro _
      exact hp.collectOne token
    · intro results
      apply Act.Stable.ite
      · apply Act.Stable.bind (Act.Stable.note _)
        intro _
        exact Act.Stable.pure _
      · exact Act.Stable.pure _

end Bystander

theorem bystander_quiet (v : StaticVault) : Bystander (Quiet v) where
  claim v₁ _ token := by
    apply Act.Stable.of_leaves
    intro v₂ h
    rw [leaves_onToken]
    exact DepositToken.keeps_claim.mono (fun _ _ hkeeps => h.trans (Quiet.of_keeps hkeeps))
      (fun _ _ hkeeps => h.trans (Quiet.of_keeps hkeeps))
  rewards _ _ h := ⟨h.token, h.address, h.balances⟩
  collected _ _ _ h := ⟨h.token, h.address, h.balances⟩

theorem quiet_collect (token : Option String) : IsQuiet (collect token) :=
  IsQuiet.of_stable fun v => (bystander_quiet v).collect token

def payOut (holder token : String) : Act StaticVault RewardClaim := do
  let v ← Act.current
  let _ ← onRewards (RewardTracker.checkpoint (Text.lower holder) token
    (v.unitsOf (Text.lower holder)))
  let result ← onRewards (RewardTracker.claim (Text.lower holder) token 0)
  addRewardBalance (Text.lower token) (-result.claimable)
  emit .rewardsClaimed (Text.lower holder) (Text.lower token) result.claimable
  noteInfo "Static rewards claimed"
    [("event", .text "static.rewards_claimed"), ("token", .text (Text.lower token)),
      ("holder", Record.brief (Text.lower holder)), ("claimable", .int result.claimable)]
  return result

theorem claimRewards_false (holder token : String) :
    claimRewards holder token false = payOut holder token := rfl

theorem claimRewards_true (holder token : String) :
    claimRewards holder token true = (do
      let _ ← collect (some token)
      payOut holder token) := rfl

namespace Bystander

variable {p : StaticVault → Prop} {holder token : String}

theorem claimRewards_of {holds : Act StaticVault RewardClaim → Prop} (hp : Bystander p)
    (hbind : ∀ {β : Type} {m : Act StaticVault β} {f : β → Act StaticVault RewardClaim},
      Act.Stable p m → (∀ b, holds (f b)) → holds (m >>= f))
    (hreport : ∀ (value : Int) (fields : List (String × Document)) (c : RewardClaim), holds (do
      emit .rewardsClaimed (Text.lower holder) (Text.lower token) value
      noteInfo "Static rewards claimed" fields
      return c : Act StaticVault RewardClaim))
    (forceUpdate : Bool) : holds (claimRewards holder token forceUpdate) := by
  have hpay : holds (payOut holder token) := by
    unfold payOut
    apply hbind Act.Stable.current
    intro v
    apply hbind (hp.onRewards _)
    intro _
    apply hbind (hp.onRewards _)
    intro result
    apply hbind (hp.addRewardBalance _ _)
    intro _
    exact hreport _ _ result
  cases forceUpdate with
  | false => exact hpay
  | true =>
      rw [claimRewards_true]
      exact hbind (hp.collect _) fun _ => hpay

theorem claimRewards (hp : Bystander p) (holder token : String) (forceUpdate : Bool)
    (hevents : ∀ v events, p v → p { v with books := { v.books with events := events } }) :
    Act.Stable p (claimRewards holder token forceUpdate) := by
  apply hp.claimRewards_of (fun hm hf => hm.bind hf)
  intro value fields c
  apply Act.Stable.bind (Act.Stable.update fun v hv => hevents v _ hv)
  intro _
  exact (Act.Stable.note _).bind fun _ => Act.Stable.pure c

theorem claimRewards_onFault (hp : Bystander p) (holder token : String) (forceUpdate : Bool) :
    Act.KeptOnFault p (StaticVault.claimRewards holder token forceUpdate) := by
  apply hp.claimRewards_of (fun hm hf => Act.KeptOnFault.bind hm hf)
  intro value fields c
  apply Act.KeptOnFault.of_unfailing
  apply (Act.unfailing_update _).bind
  intro _
  exact (Act.unfailing_note _).bind fun _ => Act.unfailing_pure c

end Bystander

theorem quiet_claimRewards (holder token : String) (forceUpdate : Bool) :
    IsQuiet (claimRewards holder token forceUpdate) :=
  IsQuiet.of_stable fun v => (bystander_quiet v).claimRewards holder token forceUpdate
    fun _ _ h => ⟨h.token, h.address, h.balances⟩

theorem Quiet.withRestored (h : Quiet v v') (saved : List RewardTracker.Saved) :
    Quiet v (withRestored saved v') :=
  ⟨h.token, h.address, h.balances⟩

/--
A change of a vault sees shares and units as they were before rewards were
collected, and what it leaves of them stays.
-/
theorem leaves_applyChange {accounts : List String} {change : Act StaticVault Unit}
    {answered : StaticVault → Prop}
    (hchange : ∀ v', Quiet v v' → change.Leaves v' (fun _ v'' => answered v'')
      (fun _ v'' => Quiet v v'')) :
    (applyChange accounts change).Leaves v (fun _ v' => answered v') (fun _ v' => Quiet v v') := by
  unfold applyChange
  rw [Act.leaves_bind]
  apply (quiet_collect none v).mono _ (fun _ _ h => h)
  intro _ v₁ h₁
  rw [Act.leaves_bind, Act.leaves_current, Act.leaves_bind]
  apply (((bystander_quiet v).onRewards _).leaves h₁).mono _ (fun _ _ h => h)
  intro saved v₂ h₂
  rw [Act.leaves_onRefusal]
  apply (hchange v₂ h₂).mono (fun _ _ h => h)
  intro e v₃ h₃
  cases e with
  | refused r => exact h₃.withRestored saved
  | _ => exact h₃

end StaticVault
end ReserveAccounting
