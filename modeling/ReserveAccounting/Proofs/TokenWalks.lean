import ReserveAccounting.Proofs.TransparentRuns
import ReserveAccounting.Proofs.UnseenRecords

/-!
# Walks over the calls of a token

What holds of the steps that calls and views of a token are made of, and of
their sequences, holds of all calls and views. That none of them looks at the
records of the token is one such property.
-/

namespace ReserveAccounting

/-!
# Calls of a token
-/

/-- What a token keeps of its past without ever looking at it. -/
structure TokenRecords where
  events : List TokenEvent
  history : List IndexCommit
  maxHistory : Int
  rateReads : Nat

namespace DepositToken

variable {α β : Type}

def recorded (r : TokenRecords) (t : DepositToken) : DepositToken :=
  { t with
    events := r.events
    reserve := t.reserve.withHistory (r.history, r.maxHistory)
    model := t.model.withReads r.rateReads }

theorem holders_recorded (r : TokenRecords) (t : DepositToken) :
    (t.recorded r).holders = t.holders := by
  unfold holders BalanceModel.holders
  exact congrArg ShareLedger.holders (BalanceModel.ledger_withReads r.rateReads t.model)

theorem isRebasing_recorded (r : TokenRecords) (t : DepositToken) :
    (t.recorded r).isRebasing = t.isRebasing :=
  BalanceModel.isRebasing_withReads r.rateReads t.model

theorem toDocument_recorded (r : TokenRecords) (t : DepositToken) :
    (t.recorded r).toDocument = t.toDocument := by
  have hmodel : (t.recorded r).model.toDocument = t.model.toDocument :=
    BalanceModel.toDocument_withReads r.rateReads t.model
  unfold toDocument
  rw [isRebasing_recorded, hmodel]
  rfl

/-- A kind of property of calls that every step a token is made of has, and their sequences. -/
structure Walk (P : {α : Type} → Act DepositToken α → Prop) : Prop where
  pure : ∀ {α : Type} (a : α), P (pure a : Act DepositToken α)
  refuse : ∀ {α : Type} (r : Refusal), P (Act.refuse r : Act DepositToken α)
  faulty : ∀ {α : Type} (x : Except Fault α), P (liftM x : Act DepositToken α)
  refusable : ∀ {α : Type} (x : Except Refusal α), P (liftM x : Act DepositToken α)
  note : ∀ r, P (Act.note r : Act DepositToken Unit)
  bind : ∀ {α β : Type} {m : Act DepositToken α} {f : α → Act DepositToken β},
    P m → (∀ a, P (f a)) → P (m >>= f)
  /-- What is taken from the present state may be anything but records. -/
  current : ∀ {β : Type} {f : DepositToken → Act DepositToken β},
    (∀ s r, f (recorded r s) = f s) → (∀ s, P (f s)) → P (Act.current >>= f)
  emit : ∀ kind source target value index, P (emit kind source target value index)
  model : ∀ {α : Type} {m : Act BalanceModel α},
    Act.Overlooks BalanceModel.withReads m → P (onModel m)
  pinned : ∀ {α : Type} {m : Act DepositToken α}, P m → P (withPinnedRate m)
  restored : ∀ {α : Type} {m : Act DepositToken α} (saved : List RewardTracker.Saved),
    P m → P (m.onRefusal (withRestored saved))
  raise : ∀ index reason, P (onReserve (ReserveIndex.raise index reason))
  cumulate : ∀ liquidity amount, P (onReserve (ReserveIndex.cumulate liquidity amount))
  rewards : ∀ {α : Type} (m : Act RewardTracker α), P (onRewards m)
  factor : ∀ (program : RewardProgram) (factor : Int), P (Act.update fun t =>
    { t with rewards := some { program with reserveFactor := factor, strayFactor := none } })
  asset : ∀ a, P (Act.update fun t => { t with model := t.model.withAsset a })

namespace Walk

variable {P : {α : Type} → Act DepositToken α → Prop} (hP : Walk P)

theorem ite (_ : Walk P) {c : Prop} [Decidable c] {m n : Act DepositToken α} (hm : P m)
    (hn : P n) : P (if c then m else n) := by
  split
  · exact hm
  · exact hn

include hP

theorem inspect {f : DepositToken → Except Fault α} (hf : ∀ s r, f (recorded r s) = f s) :
    P (Act.inspect f) :=
  hP.current (fun s r => by rw [hf]) fun s => hP.faulty (f s)

theorem requirePool (caller : String) : P (requirePool caller) :=
  hP.current (fun _ _ => rfl) fun _ => hP.ite (hP.pure ()) (hP.refuse _)

theorem balanceOf (holder : String) : P (balanceOf holder) := by
  refine hP.current (fun _ _ => rfl) fun s => hP.model ?_
  exact BalanceModel.overlooks_dispatch (RebasingLedger.overlooks_balanceOf holder s.index)

theorem totalSupply : P totalSupply := by
  refine hP.current (fun _ _ => rfl) fun s => hP.model ?_
  exact BalanceModel.overlooks_dispatch (RebasingLedger.overlooks_totalSupply s.index)

theorem scaledBalanceOf (holder : String) : P (scaledBalanceOf holder) :=
  hP.model (BalanceModel.overlooks_dispatch (RebasingLedger.overlooks_scaledBalanceOf holder))

theorem scaledTotalSupply : P scaledTotalSupply :=
  hP.model (BalanceModel.overlooks_dispatch RebasingLedger.overlooks_scaledTotalSupply)

theorem scaledBalanceAndSupply (holder : String) : P (scaledBalanceAndSupply holder) := by
  apply hP.pinned
  apply hP.bind (hP.scaledBalanceOf holder)
  intro balance
  apply hP.bind hP.scaledTotalSupply
  intro supply
  exact hP.pure _

theorem checkpointHolders (accounts : List String) : P (checkpointHolders accounts) := by
  apply hP.current
  · intro s r
    simp only [recorded, BalanceModel.rewardBasisOf_withReads]
  · intro s
    cases s.rewards with
    | none => exact hP.pure []
    | some program => exact hP.rewards _

theorem applyChange (accounts : List String) {change : Act BalanceModel α}
    (h : Act.Overlooks BalanceModel.withReads change) : P (applyChange accounts change) := by
  apply hP.pinned
  apply hP.bind (hP.checkpointHolders accounts)
  intro saved
  exact hP.restored saved (hP.model h)

theorem mint (caller holder : String) (amount index : Int) :
    P (mint caller holder amount index) := by
  apply hP.bind (hP.requirePool caller)
  intro _
  refine hP.current (fun _ _ => rfl) ?_
  intro s
  apply hP.bind (hP.refusable _)
  intro _
  apply hP.bind (hP.applyChange _
    (BalanceModel.overlooks_dispatch (RebasingLedger.overlooks_deposit _ amount index)))
  intro first
  apply hP.bind (hP.raise index "mint")
  intro _
  apply hP.bind (hP.emit _ _ _ _ _)
  intro _
  apply hP.bind (hP.emit _ _ _ _ _)
  intro _
  apply hP.bind (hP.note _)
  intro _
  exact hP.pure first

theorem burn (caller holder receiver : String) (amount index : Int) :
    P (burn caller holder receiver amount index) := by
  apply hP.bind (hP.requirePool caller)
  intro _
  refine hP.current (fun _ _ => rfl) ?_
  intro s
  apply hP.bind (hP.refusable _)
  intro _
  apply hP.bind (hP.applyChange _
    (BalanceModel.overlooks_dispatch (RebasingLedger.overlooks_withdraw _ amount index)))
  intro burned
  apply hP.bind (hP.raise index "burn")
  intro _
  apply hP.bind (hP.emit _ _ _ _ _)
  intro _
  apply hP.bind (hP.emit _ _ _ _ _)
  intro _
  apply hP.bind (hP.note _)
  intro _
  exact hP.pure burned

theorem mintToTreasury (caller : String) (amount index : Int) :
    P (mintToTreasury caller amount index) := by
  apply hP.bind (hP.requirePool caller)
  intro _
  apply hP.ite (hP.pure false)
  exact hP.current (fun _ _ => rfl) fun s => hP.mint caller s.treasury amount index

theorem move (event sender recipient : String) (amount : Int) :
    P (move event sender recipient amount) := by
  refine hP.current (fun _ _ => rfl) ?_
  intro s
  apply hP.ite (hP.refuse _)
  apply hP.bind (hP.applyChange _
    (BalanceModel.overlooks_dispatch (RebasingLedger.overlooks_transfer _ _ amount s.index)))
  intro _
  apply hP.bind (hP.emit _ _ _ _ _)
  intro _
  apply hP.bind (hP.emit _ _ _ _ _)
  intro _
  exact hP.note _

theorem transfer (sender recipient : String) (amount : Int) : P (transfer sender recipient amount) :=
  hP.bind (hP.move _ sender recipient amount) fun _ => hP.pure true

theorem transferOnLiquidation (caller sender recipient : String) (amount : Int) :
    P (transferOnLiquidation caller sender recipient amount) :=
  hP.bind (hP.requirePool caller) fun _ =>
    hP.bind (hP.move _ sender recipient amount) fun _ => hP.pure true

theorem injectFlashLoanPremium (caller : String) (premium : Int) :
    P (injectFlashLoanPremium caller premium) := by
  apply hP.bind (hP.requirePool caller)
  intro _
  apply hP.bind hP.totalSupply
  intro liquidity
  apply hP.bind (hP.cumulate liquidity premium)
  intro index
  refine hP.current (fun _ _ => rfl) ?_
  intro s
  apply hP.bind (hP.emit _ _ _ _ _)
  intro _
  apply hP.bind (hP.note _)
  intro _
  exact hP.pure index

theorem distributeRewards (token : String) (amount : Int) : P (distributeRewards token amount) := by
  apply hP.current
  · intro s r
    unfold BalanceModel.rewardBasisSupply
    exact congrArg (fun l : ShareLedger => onRewards (RewardTracker.distribute token amount
      l.totalShares)) (BalanceModel.ledger_withReads r.rateReads s.model)
  · intro s
    exact hP.rewards _

theorem claim (holder token : String) : P (claim holder token) := by
  apply hP.current
  · intro s r
    change (liftM s.program >>= fun program => onRewards (RewardTracker.checkpoint _ token
      ((s.model.withReads r.rateReads).rewardBasisOf _)) >>= _) = _
    rw [BalanceModel.rewardBasisOf_withReads]
    rfl
  · intro s
    apply hP.bind (hP.faulty _)
    intro program
    apply hP.bind (hP.rewards _)
    intro _
    apply hP.bind (hP.faulty _)
    intro factor
    apply hP.bind (hP.rewards _)
    intro result
    have hreport : ∀ fields, P (do
        DepositToken.emit .rewardsClaimed (Text.lower holder) (Text.lower token) result.claimable s.index
        noteInfo "Rewards claimed" fields
        return result : Act DepositToken RewardClaim) := by
      intro fields
      apply hP.bind (hP.emit _ _ _ _ _)
      intro _
      apply hP.bind (hP.note _)
      intro _
      exact hP.pure result
    exact hP.ite (hP.bind (hP.rewards _) fun _ => hreport _) (hreport _)

theorem setReserveFactor (caller : String) (factor : Int) : P (setReserveFactor caller factor) := by
  refine hP.current (fun _ _ => rfl) ?_
  intro s
  apply hP.bind (hP.faulty _)
  intro program
  apply hP.bind (hP.requirePool caller)
  intro _
  apply hP.bind (hP.refusable _)
  intro _
  exact hP.factor program factor

end Walk

theorem walk_overlooks : Walk fun m => Act.Overlooks recorded m where
  pure := Act.Overlooks.pure
  refuse := Act.Overlooks.refuse
  faulty := Act.Overlooks.faulty
  refusable := Act.Overlooks.refusable
  note := Act.Overlooks.note
  bind := Act.Overlooks.bind
  current := Act.Overlooks.of_current
  emit kind source target value index :=
    Act.Overlooks.update fun s r =>
      ⟨{ r with events := r.events ++ [⟨kind, source, target, value, index⟩] }, rfl⟩
  model hm := by
    refine Act.Overlooks.within ?_ ?_ hm
    · intro s r
      exact ⟨r.rateReads, rfl⟩
    · intro s b r n
      exact ⟨{ r with rateReads := n }, rfl⟩
  pinned hm := by
    apply Act.Overlooks.bind
    · refine Act.Overlooks.within ?_ ?_ (BalanceModel.overlooks_dispatch
        (RebasingLedger.overlooks_pinRate.bind fun p => ?_))
      · intro s r
        exact ⟨r.rateReads, rfl⟩
      · intro s b r n
        exact ⟨{ r with rateReads := n }, rfl⟩
      · rcases p with ⟨rate, mine⟩
        exact Act.Overlooks.pure mine
    · intro mine
      apply Act.Overlooks.ite _ hm
      apply hm.thenAlways
      intro s r
      refine ⟨r, ?_⟩
      change { recorded r s with model := (s.model.withReads r.rateReads).unpinned } = _
      rw [BalanceModel.unpinned_withReads]
      rfl
  restored saved hm := hm.onRefusal fun _ r => ⟨r, rfl⟩
  raise index reason := by
    refine Act.Overlooks.within ?_ ?_ (ReserveIndex.overlooks_raise index reason)
    · intro s r
      exact ⟨(r.history, r.maxHistory), rfl⟩
    · intro s reserve r h
      exact ⟨{ r with history := h.1, maxHistory := h.2 }, rfl⟩
  cumulate liquidity amount := by
    refine Act.Overlooks.within ?_ ?_ (ReserveIndex.overlooks_cumulate liquidity amount)
    · intro s r
      exact ⟨(r.history, r.maxHistory), rfl⟩
    · intro s reserve r h
      exact ⟨{ r with history := h.1, maxHistory := h.2 }, rfl⟩
  rewards m := by
    intro s r
    refine ⟨r, ?_⟩
    cases hprogram : s.rewards with
    | none =>
        have hnone : (recorded r s).rewards = none := hprogram
        unfold Act.run onRewards
        dsimp only
        rw [hprogram, hnone]
    | some program =>
        have hsome : (recorded r s).rewards = some program := hprogram
        rw [run_onRewards m hprogram, run_onRewards m hsome]
        rfl
  factor program factor := Act.Overlooks.update fun _ r => ⟨r, rfl⟩
  asset a := by
    apply Act.Overlooks.update
    intro s r
    refine ⟨r, ?_⟩
    change { recorded r s with model := (s.model.withReads r.rateReads).withAsset a } = _
    rw [BalanceModel.withAsset_withReads]
    rfl

end DepositToken

/-!
# Steps of a token
-/

inductive TokenView where
  | balanceOf (holder : String)
  | scaledBalanceOf (holder : String)
  | totalSupply
  | scaledTotalSupply
  | scaledBalanceAndSupply (holder : String)
  | index
  | isRebasing
  | holders
  | claimableRewards (holder token : String)
  | ofHolder (figure : HolderFigure) (holder token : String)
  | ofToken (figure : TokenFigure) (token : String)
  | rewardTokens
  | reserveFactor
  | snapshot

def TokenView.answer : TokenView → Act DepositToken Document
  | balanceOf holder => do return .int (← DepositToken.balanceOf holder)
  | scaledBalanceOf holder => do return .int (← DepositToken.scaledBalanceOf holder)
  | totalSupply => do return .int (← DepositToken.totalSupply)
  | scaledTotalSupply => do return .int (← DepositToken.scaledTotalSupply)
  | scaledBalanceAndSupply holder => do
      let (balance, supply) ← DepositToken.scaledBalanceAndSupply holder
      return .tuple [.int balance, .int supply]
  | index => Act.inspect fun t => .ok (.int t.index)
  | isRebasing => Act.inspect fun t => .ok (.bool t.isRebasing)
  | holders => Act.inspect fun t => .ok (.texts t.holders)
  | claimableRewards holder token =>
      Act.inspect fun t => (t.claimableRewards holder token).map Document.int
  | ofHolder figure holder token =>
      Act.inspect fun t => t.ofTracker (·.holderDocument figure holder token)
  | ofToken figure token => Act.inspect fun t => t.ofTracker (·.tokenDocument figure token)
  | rewardTokens => Act.inspect fun t => t.program.map fun p => .list p.tracker.listedTokens
  | reserveFactor => Act.inspect fun t => t.program.map (·.factorDocument)
  | snapshot => Act.inspect fun t => .ok t.toDocument

inductive TokenStep where
  | call (c : TokenCall)
  | view (v : TokenView)

def TokenStep.answer : TokenStep → Act DepositToken Document
  | call c => c.answer
  | view v => v.answer

namespace DepositToken.Walk

variable {α : Type} {P : {α : Type} → Act DepositToken α → Prop} (hP : Walk P)
include hP

theorem answering {β : Type} {m : Act DepositToken α} (f : α → β) (hm : P m) :
    P (do return f (← m) : Act DepositToken β) :=
  hP.bind hm fun a => hP.pure (f a)

theorem call (c : TokenCall) : P c.answer := by
  cases c with
  | mint caller holder amount index => exact hP.answering _ (hP.mint caller holder amount index)
  | burn caller holder receiver amount index =>
      exact hP.answering _ (hP.burn caller holder receiver amount index)
  | mintToTreasury caller amount index =>
      exact hP.answering _ (hP.mintToTreasury caller amount index)
  | transfer sender recipient amount =>
      exact hP.answering _ (hP.transfer sender recipient amount)
  | transferOnLiquidation caller sender recipient amount =>
      exact hP.answering _ (hP.transferOnLiquidation caller sender recipient amount)
  | injectFlashLoanPremium caller premium =>
      exact hP.answering _ (hP.injectFlashLoanPremium caller premium)
  | raiseIndex index reason => exact hP.answering _ (hP.raise index reason)
  | moveAsset asset => exact hP.bind (hP.asset asset) fun _ => hP.pure Document.null
  | registerRewardToken token => exact hP.answering _ (hP.rewards _)
  | distributeRewards token amount => exact hP.distributeRewards token amount
  | claim holder token => exact hP.answering _ (hP.claim holder token)
  | setReserveFactor caller factor =>
      exact hP.bind (hP.setReserveFactor caller factor) fun _ => hP.pure Document.null

theorem view (v : TokenView) : P v.answer := by
  cases v with
  | balanceOf holder => exact hP.answering _ (hP.balanceOf holder)
  | scaledBalanceOf holder => exact hP.answering _ (hP.scaledBalanceOf holder)
  | totalSupply => exact hP.answering _ hP.totalSupply
  | scaledTotalSupply => exact hP.answering _ hP.scaledTotalSupply
  | scaledBalanceAndSupply holder =>
      apply hP.bind (hP.scaledBalanceAndSupply holder)
      intro p
      rcases p with ⟨balance, supply⟩
      exact hP.pure _
  | isRebasing =>
      apply hP.inspect
      intro s r
      rw [DepositToken.isRebasing_recorded]
  | holders =>
      apply hP.inspect
      intro s r
      rw [DepositToken.holders_recorded]
  | claimableRewards holder token =>
      apply hP.inspect
      intro s r
      unfold DepositToken.claimableRewards
      change Except.map _ (s.program >>= fun program => program.tracker.previewAccrual holder token
        ((s.model.withReads r.rateReads).rewardBasisOf holder) >>= _) = _
      rw [BalanceModel.rewardBasisOf_withReads]
  | snapshot =>
      apply hP.inspect
      intro s r
      rw [DepositToken.toDocument_recorded]
  | _ => exact hP.inspect fun _ _ => rfl

theorem step (step : TokenStep) : P step.answer := by
  cases step with
  | call c => exact hP.call c
  | view v => exact hP.view v

end DepositToken.Walk
end ReserveAccounting
