import ReserveAccounting.Proofs.TokenWalks
import ReserveAccounting.Proofs.VaultInvariants

/-!
# Walks over the calls of a vault

What holds of the steps that calls and views of a vault are made of, and of
their sequences, holds of all calls and views. That none of them looks at the
events of the vault is one such property.
-/

namespace ReserveAccounting

/-!
# Trackers that stay sound
-/

namespace RewardTracker

theorem stable_register (token : String) : Act.Stable Sound (register token) := by
  apply Act.Stable.of_leaves
  intro t ht
  apply (leaves_register ht).mono
  · intro _ t' h
    rcases h.right with rfl | ⟨hnew, rfl⟩
    · exact ht
    · exact sound_withRegistered ht (Text.lower_lower token) hnew
  · intro _ t' hsame
    rw [hsame]
    exact ht

theorem stable_distribute (token : String) (amount supply : Int) :
    Act.Stable Sound (distribute token amount supply) := by
  apply Act.Stable.of_leaves
  intro t ht
  apply (leaves_distribute ht).mono
  · intro _ t' h
    rcases h with ⟨hamount, hmem, s, hspreads, rfl⟩
    exact sound_withToken ht hmem (TokenCall.waiting_of_spreads hspreads hamount (ht.waiting _))
  · intro _ t' h
    rcases h with ⟨_, rfl⟩ | ⟨_, hmem, rfl, _⟩
    · exact ht
    · exact sound_withToken ht hmem (ht.waiting _)

theorem stable_checkpoint (holder token : String) (basis : Int) :
    Act.Stable Sound (checkpoint holder token basis) := by
  apply Act.Stable.of_leaves
  intro t ht
  apply (leaves_checkpoint ht).mono
  · intro _ t' h
    rcases h with ⟨hmem, s, _, rfl⟩
    exact sound_withHolder ht hmem (Text.lower_lower holder) s
  · intro _ t' h
    rcases h with rfl | ⟨hmem, rfl⟩
    · exact ht
    · exact sound_withHolder ht hmem (Text.lower_lower holder) _

theorem stable_claim (holder token : String) (factor : Int) :
    Act.Stable Sound (claim holder token factor) := by
  apply Act.Stable.of_leaves
  intro t ht
  apply (leaves_claim ht).mono
  · intro _ t' h
    rcases h with ⟨hmem, _, rfl⟩
    exact sound_withHolder ht hmem (Text.lower_lower holder) _
  · intro _ t' h
    rcases h with rfl | ⟨hmem, rfl⟩
    · exact ht
    · exact sound_withHolder ht hmem (Text.lower_lower holder) _

end RewardTracker

/-!
# Calls of a vault
-/

namespace StaticVault

variable {α β : Type}

def withEvents (events : List TokenEvent) (v : StaticVault) : StaticVault :=
  { v with books := { v.books with events := events } }

def LeavesRewards (m : Act StaticVault α) : Prop :=
  ∀ t, Act.Stable (fun v => v.books.rewards = t) m

/-- A kind of property of calls that every step a vault is made of has, and their sequences. -/
structure Walk (P : {α : Type} → Act StaticVault α → Prop) : Prop where
  pure : ∀ {α : Type} (a : α), P (pure a : Act StaticVault α)
  refuse : ∀ {α : Type} (r : Refusal), P (Act.refuse r : Act StaticVault α)
  faulty : ∀ {α : Type} (x : Except Fault α), P (liftM x : Act StaticVault α)
  refusable : ∀ {α : Type} (x : Except Refusal α), P (liftM x : Act StaticVault α)
  note : ∀ r, P (Act.note r : Act StaticVault Unit)
  bind : ∀ {α β : Type} {m : Act StaticVault α} {f : α → Act StaticVault β},
    P m → (∀ a, P (f a)) → P (m >>= f)
  current : ∀ {β : Type} {f : StaticVault → Act StaticVault β},
    (∀ v events, f (withEvents events v) = f v) → (∀ v, P (f v)) → P (Act.current >>= f)
  emit : ∀ kind source target value, P (emit kind source target value)
  token : ∀ {α : Type} (m : Act DepositToken α), P (onToken m)
  units : ∀ {α : Type} {m : Act ShareLedger α}, Act.Stable ShareLedger.Sound m → P (onBalances m)
  rewards : ∀ {α : Type} {m : Act RewardTracker α},
    Act.Stable RewardTracker.Sound m → P (onRewards m)
  held : ∀ token delta, P (addRewardBalance token delta)
  checkpointed : ∀ {change : Act StaticVault Unit} (basisOf : String → Int) (accounts : List String),
    (∀ x ∈ accounts, Text.lower x = x) → LeavesRewards change → P change →
    P (do
      let saved ← onRewards (RewardTracker.checkpointHolders basisOf accounts)
      change.onRefusal (withRestored saved))

theorem leavesRewards_onToken (m : Act DepositToken α) : LeavesRewards (onToken m) :=
  fun _ => Act.Stable.within_aside fun _ _ h => h

theorem leavesRewards_onBalances (m : Act ShareLedger α) : LeavesRewards (onBalances m) :=
  fun _ => Act.Stable.within_aside fun _ _ h => h

theorem leavesRewards_legs {m : Act StaticVault Unit} {n : Act ShareLedger α}
    (hm : LeavesRewards m) :
    LeavesRewards (do
      m
      let _ ← onBalances n : Act StaticVault Unit) := fun t =>
  (hm t).bind fun _ => (leavesRewards_onBalances n t).bind fun _ => Act.Stable.pure ()

theorem leavesRewards_takeTokens (depositor : String) (amount : Int) (fromUnderlying : Bool) :
    LeavesRewards (takeTokens depositor amount fromUnderlying) := by
  intro t
  apply Act.Stable.current.bind
  intro v
  apply Act.Stable.ite
  · exact (leavesRewards_onToken _ t).bind fun _ => Act.Stable.pure ()
  · exact (leavesRewards_onToken _ t).bind fun _ => Act.Stable.pure ()

theorem leavesRewards_releaseTokens (recipient : String) (amount : Int) (toUnderlying : Bool) :
    LeavesRewards (releaseTokens recipient amount toUnderlying) := by
  intro t
  apply Act.Stable.current.bind
  intro v
  apply Act.Stable.ite
  · exact (leavesRewards_onToken _ t).bind fun _ => Act.Stable.pure ()
  · exact (leavesRewards_onToken _ t).bind fun _ => Act.Stable.pure ()

theorem requireRecipient_bind (recipient : String) (f : String → Act StaticVault α) :
    requireRecipient recipient >>= f = (do
      let v ← Act.current
      if Text.lower recipient = "" ∨ Text.lower recipient = zeroAccount then
        Act.refuse (.zeroAddress v.books.symbol "recipient")
      else f (Text.lower recipient)) := by
  unfold requireRecipient
  by_cases h : Text.lower recipient = "" ∨ Text.lower recipient = zeroAccount
  · simp only [if_pos h]
    rfl
  · simp only [if_neg h]
    rfl

theorem forall_small_singleton (holder : String) : ∀ x ∈ [Text.lower holder], Text.lower x = x := by
  intro x hx
  rw [List.mem_singleton.mp hx, Text.lower_lower]

theorem forall_small_pair (sender recipient : String) :
    ∀ x ∈ [Text.lower sender, Text.lower recipient], Text.lower x = x := by
  intro x hx
  rcases List.mem_cons.mp hx with rfl | hx
  · exact Text.lower_lower sender
  · exact forall_small_singleton recipient x hx

namespace Walk

variable {P : {α : Type} → Act StaticVault α → Prop} (hP : Walk P)

theorem ite (_ : Walk P) {c : Prop} [Decidable c] {m n : Act StaticVault α} (hm : P m)
    (hn : P n) : P (if c then m else n) := by
  split
  · exact hm
  · exact hn

include hP

theorem inspect {f : StaticVault → Except Fault α}
    (hf : ∀ v events, f (withEvents events v) = f v) : P (Act.inspect f) :=
  hP.current (fun v events => by rw [hf]) fun v => hP.faulty (f v)

theorem answering {m : Act StaticVault α} (f : α → β) (hm : P m) :
    P (do return f (← m) : Act StaticVault β) :=
  hP.bind hm fun a => hP.pure (f a)

theorem mapEach {f : β → Act StaticVault α} (hf : ∀ b, P (f b)) (items : List β) :
    P (Act.mapEach f items) := by
  induction items with
  | nil => exact hP.pure []
  | cons b rest ih => exact hP.bind (hf b) fun a => hP.bind ih fun as => hP.pure (a :: as)

theorem bind_requireRecipient {recipient : String} {f : String → Act StaticVault α}
    (hf : P (f (Text.lower recipient))) : P (StaticVault.requireRecipient recipient >>= f) := by
  rw [requireRecipient_bind]
  exact hP.current (fun _ _ => rfl) fun _ => hP.ite (hP.refuse _) hf

theorem rate : P rate := by
  refine hP.current (fun _ _ => rfl) ?_
  intro v
  split
  · exact hP.pure _
  · exact hP.bind (hP.token _) fun _ => hP.refusable _

theorem valueOf (units : Int) : P (valueOf units) := hP.bind hP.rate fun _ => hP.refusable _

theorem unitsFor (value : Int) : P (unitsFor value) := hP.bind hP.rate fun _ => hP.refusable _

theorem balanceValueOf (holder : String) : P (balanceValueOf holder) :=
  hP.current (fun _ _ => rfl) fun v => hP.valueOf (v.unitsOf holder)

theorem collectOne (token : String) : P (collectOne token) := by
  refine hP.current (fun _ _ => rfl) ?_
  intro v
  apply hP.bind (hP.faulty _)
  intro pending
  apply hP.bind (hP.rewards (RewardTracker.stable_register token))
  intro _
  apply hP.ite (hP.pure none)
  apply hP.bind (hP.token _)
  intro claim
  apply hP.bind (hP.held _ _)
  intro _
  refine hP.current (fun _ _ => rfl) ?_
  intro v'
  apply hP.bind (hP.rewards (RewardTracker.stable_distribute _ _ _))
  intro _
  exact hP.pure _

theorem collect (asked : Option String) : P (collect asked) := by
  refine hP.current (fun _ _ => rfl) ?_
  intro v
  split
  · exact hP.pure ∅
  · apply hP.bind
    · apply hP.mapEach
      intro token
      exact hP.bind (hP.faulty _) fun _ => hP.collectOne token
    · intro results
      apply hP.ite
      · exact hP.bind (hP.note _) fun _ => hP.pure _
      · exact hP.pure _

theorem applyChange {accounts : List String} (hsmall : ∀ x ∈ accounts, Text.lower x = x)
    {change : Act StaticVault Unit} (hrewards : LeavesRewards change) (hchange : P change) :
    P (applyChange accounts change) := by
  apply hP.bind (hP.collect none)
  intro _
  refine hP.current (fun _ _ => rfl) ?_
  intro v
  exact hP.checkpointed v.unitsOf accounts hsmall hrewards hchange

theorem takeTokens (depositor : String) (amount : Int) (fromUnderlying : Bool) :
    P (takeTokens depositor amount fromUnderlying) := by
  refine hP.current (fun _ _ => rfl) ?_
  intro v
  apply hP.ite
  · exact hP.bind (hP.token _) fun _ => hP.pure ()
  · exact hP.bind (hP.token _) fun _ => hP.pure ()

theorem releaseTokens (recipient : String) (amount : Int) (toUnderlying : Bool) :
    P (releaseTokens recipient amount toUnderlying) := by
  refine hP.current (fun _ _ => rfl) ?_
  intro v
  apply hP.ite
  · exact hP.bind (hP.token _) fun _ => hP.pure ()
  · exact hP.bind (hP.token _) fun _ => hP.pure ()

theorem deposit (depositor recipient : String) (amount : Int) (fromUnderlying : Bool) :
    P (deposit depositor recipient amount fromUnderlying) := by
  unfold StaticVault.deposit
  apply hP.bind_requireRecipient
  apply hP.ite (hP.refuse _)
  apply hP.bind (hP.unitsFor amount)
  intro units
  apply hP.ite
  · exact hP.bind hP.rate fun _ => hP.refuse _
  · apply hP.bind
    · apply hP.applyChange (forall_small_singleton recipient)
        (leavesRewards_legs (leavesRewards_takeTokens _ amount fromUnderlying))
      apply hP.bind (hP.takeTokens _ amount fromUnderlying)
      intro _
      exact hP.bind (hP.units ShareLedger.stable_issue) fun _ => hP.pure ()
    · intro _
      apply hP.bind (hP.emit _ _ _ _)
      intro _
      refine hP.current (fun _ _ => rfl) ?_
      intro v
      exact hP.bind (hP.note _) fun _ => hP.pure units

theorem release (owner recipient : String) (units value : Int) (toUnderlying : Bool) :
    P (release (Text.lower owner) recipient units value toUnderlying) := by
  unfold StaticVault.release
  apply hP.bind_requireRecipient
  apply hP.ite (hP.refuse _)
  refine hP.current (fun _ _ => rfl) ?_
  intro v
  apply hP.ite (hP.refuse _)
  apply hP.bind (hP.token _)
  intro held
  apply hP.ite (hP.refuse _)
  apply hP.bind
  · apply hP.applyChange (forall_small_singleton owner)
      (leavesRewards_legs (leavesRewards_releaseTokens _ _ toUnderlying))
    apply hP.bind (hP.releaseTokens _ _ toUnderlying)
    intro _
    exact hP.bind (hP.units ShareLedger.stable_cancel) fun _ => hP.pure ()
  · intro _
    apply hP.bind (hP.emit _ _ _ _)
    intro _
    exact hP.bind (hP.note _) fun _ => hP.pure _

theorem withdraw (owner recipient : String) (units : Int) (toUnderlying : Bool) :
    P (withdraw owner recipient units toUnderlying) := by
  refine hP.current (fun _ _ => rfl) ?_
  intro v
  apply hP.bind (hP.valueOf _)
  intro value
  exact hP.release owner recipient _ value toUnderlying

theorem withdrawValue (owner recipient : String) (value : Int) (toUnderlying : Bool) :
    P (withdrawValue owner recipient value toUnderlying) :=
  hP.bind (hP.unitsFor value) fun units => hP.release owner recipient units value toUnderlying

theorem transfer (sender recipient : String) (units : Int) :
    P (transfer sender recipient units) := by
  unfold StaticVault.transfer
  apply hP.bind_requireRecipient
  apply hP.bind
  · exact hP.applyChange (forall_small_pair sender recipient) (leavesRewards_onBalances _)
      (hP.units ShareLedger.stable_move)
  · intro _
    exact hP.bind (hP.emit _ _ _ _) fun _ => hP.pure true

theorem payOut (holder token : String) : P (payOut holder token) := by
  refine hP.current (fun _ _ => rfl) ?_
  intro v
  apply hP.bind (hP.rewards (RewardTracker.stable_checkpoint _ _ _))
  intro _
  apply hP.bind (hP.rewards (RewardTracker.stable_claim _ _ _))
  intro result
  apply hP.bind (hP.held _ _)
  intro _
  apply hP.bind (hP.emit _ _ _ _)
  intro _
  exact hP.bind (hP.note _) fun _ => hP.pure result

theorem claimRewards (holder token : String) (forceUpdate : Bool) :
    P (claimRewards holder token forceUpdate) := by
  cases forceUpdate with
  | false => exact hP.payOut holder token
  | true => exact hP.bind (hP.collect _) fun _ => hP.payOut holder token

end Walk

theorem walk_overlooks : Walk fun m => Act.Overlooks withEvents m where
  pure := Act.Overlooks.pure
  refuse := Act.Overlooks.refuse
  faulty := Act.Overlooks.faulty
  refusable := Act.Overlooks.refusable
  note := Act.Overlooks.note
  bind := Act.Overlooks.bind
  current := Act.Overlooks.of_current
  emit kind source target value := Act.Overlooks.update fun v events =>
    ⟨events ++ [⟨kind, source, target, value, v.token.index⟩], rfl⟩
  token m := Act.Overlooks.within_aside m (fun _ _ => rfl) fun _ _ events => ⟨events, rfl⟩
  units {_ m} _ := Act.Overlooks.within_aside m (fun _ _ => rfl) fun _ _ events => ⟨events, rfl⟩
  rewards {_ m} _ := Act.Overlooks.within_aside m (fun _ _ => rfl) fun _ _ events => ⟨events, rfl⟩
  held token delta := by
    intro v events
    refine ⟨events, ?_⟩
    unfold addRewardBalance
    rw [Act.run_bind_ok (Act.run_current _), Act.run_bind_ok (Act.run_current _)]
    change Act.run ((liftM (v.rewardBalance token) : Act StaticVault Int) >>= _) _ = _
    cases v.rewardBalance token <;> rfl
  checkpointed basisOf accounts _ _ hm := by
    apply Act.Overlooks.bind
    · exact Act.Overlooks.within_aside _ (fun _ _ => rfl) fun _ _ events => ⟨events, rfl⟩
    · intro saved
      exact hm.onRefusal fun _ events => ⟨events, rfl⟩

end StaticVault

/-!
# Steps of a vault
-/

def VaultCall.answer : VaultCall → Act StaticVault Document
  | deposit depositor recipient amount fromUnderlying => do
      return .int (← StaticVault.deposit depositor recipient amount fromUnderlying)
  | withdraw owner recipient units toUnderlying => do
      let (cancelled, value) ← StaticVault.withdraw owner recipient units toUnderlying
      return .tuple [.int cancelled, .int value]
  | withdrawValue owner recipient value toUnderlying => do
      let (cancelled, released) ← StaticVault.withdrawValue owner recipient value toUnderlying
      return .tuple [.int cancelled, .int released]
  | transfer sender recipient units => do
      return .bool (← StaticVault.transfer sender recipient units)
  | claimRewards holder token forceUpdate => do
      let c ← StaticVault.claimRewards holder token forceUpdate
      return c.toDocument
  | collect token => do
      let collected ← StaticVault.collect token
      return .record (collected.toList.map fun e => (e.1, .int e.2))
  | onToken c => StaticVault.onToken c.answer

inductive VaultView where
  | rate
  | valueOf (units : Int)
  | unitsFor (value : Int)
  | unitsOf (holder : String)
  | totalUnits
  | balanceValueOf (holder : String)
  | holders
  | claimableRewards (holder token : String)
  | totalClaimableRewards (token : String)
  | ofHolder (figure : HolderFigure) (holder token : String)
  | ofToken (figure : TokenFigure) (token : String)
  | rewardTokens
  | snapshot

def VaultView.answer : VaultView → Act StaticVault Document
  | rate => do return .int (← StaticVault.rate)
  | valueOf units => do return .int (← StaticVault.valueOf units)
  | unitsFor value => do return .int (← StaticVault.unitsFor value)
  | unitsOf holder => Act.inspect fun v => .ok (.int (v.unitsOf holder))
  | totalUnits => Act.inspect fun v => .ok (.int v.totalUnits)
  | balanceValueOf holder => do return .int (← StaticVault.balanceValueOf holder)
  | holders => Act.inspect fun v => .ok (.texts v.holders)
  | claimableRewards holder token =>
      Act.inspect fun v => (v.claimableRewards holder token).map Document.int
  | totalClaimableRewards token =>
      Act.inspect fun v => (v.totalClaimableRewards token).map Document.int
  | ofHolder figure holder token =>
      Act.inspect fun v => v.books.rewards.holderDocument figure holder token
  | ofToken figure token => Act.inspect fun v => v.books.rewards.tokenDocument figure token
  | rewardTokens => Act.inspect fun v => .ok (.list v.books.rewards.listedTokens)
  | snapshot => Act.inspect fun v => .ok v.books.toDocument

inductive VaultStep where
  | call (c : VaultCall)
  | view (v : VaultView)
  | token (step : TokenStep)

def VaultStep.answer : VaultStep → Act StaticVault Document
  | call c => c.answer
  | view v => v.answer
  | token step => StaticVault.onToken step.answer

namespace StaticVault.Walk

variable {P : {α : Type} → Act StaticVault α → Prop} (hP : Walk P)
include hP

theorem call (c : VaultCall) : P c.answer := by
  cases c with
  | deposit depositor recipient amount fromUnderlying =>
      exact hP.answering _ (hP.deposit depositor recipient amount fromUnderlying)
  | withdraw owner recipient units toUnderlying =>
      exact hP.bind (hP.withdraw owner recipient units toUnderlying) fun _ => hP.pure _
  | withdrawValue owner recipient value toUnderlying =>
      exact hP.bind (hP.withdrawValue owner recipient value toUnderlying) fun _ => hP.pure _
  | transfer sender recipient units => exact hP.answering _ (hP.transfer sender recipient units)
  | claimRewards holder token forceUpdate =>
      exact hP.answering _ (hP.claimRewards holder token forceUpdate)
  | collect token => exact hP.answering _ (hP.collect token)
  | onToken c => exact hP.token c.answer

theorem view (v : VaultView) : P v.answer := by
  cases v with
  | rate => exact hP.answering _ hP.rate
  | valueOf units => exact hP.answering _ (hP.valueOf units)
  | unitsFor value => exact hP.answering _ (hP.unitsFor value)
  | balanceValueOf holder => exact hP.answering _ (hP.balanceValueOf holder)
  | _ => exact hP.inspect fun _ _ => rfl

theorem step (step : VaultStep) : P step.answer := by
  cases step with
  | call c => exact hP.call c
  | view v => exact hP.view v
  | token step => exact hP.token step.answer

end StaticVault.Walk
end ReserveAccounting
