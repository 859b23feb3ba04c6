import ReserveAccounting.Proofs.IndexGrowth
import ReserveAccounting.Proofs.TokenChanges

/-!
# What the calls of a token change

Each call is described by what it makes of the shares, of the index and of the
rewards. A rejected call keeps shares and index; it may leave checkpoints.
-/

namespace ReserveAccounting

open FixedPoint

namespace DepositToken

variable {s s' : DepositToken} {α : Type} {accounts : List String}
  {booked booked' : ShareLedger → Prop} {raised raised' : ReserveIndex → Prop}
  {rewarded rewarded' : Option RewardProgram → Prop}

structure Changes (booked : ShareLedger → Prop) (raised : ReserveIndex → Prop)
    (rewarded : Option RewardProgram → Prop) (s s' : DepositToken) : Prop where
  alike : s.model.Alike s'.model
  pool : s'.pool = s.pool
  treasury : s'.treasury = s.treasury
  ledger : booked s'.model.ledger
  reserve : raised s'.reserve
  rewards : rewarded s'.rewards

theorem Changes.mono (h : Changes booked raised rewarded s s')
    (hbooked : ∀ l, booked l → booked' l) (hraised : ∀ r, raised r → raised' r)
    (hrewarded : ∀ p, rewarded p → rewarded' p) : Changes booked' raised' rewarded' s s' where
  alike := h.alike
  pool := h.pool
  treasury := h.treasury
  ledger := hbooked _ h.ledger
  reserve := hraised _ h.reserve
  rewards := hrewarded _ h.rewards

theorem Changes.refl (hbooked : booked s.model.ledger) (hraised : raised s.reserve)
    (hrewarded : rewarded s.rewards) : Changes booked raised rewarded s s where
  alike := ⟨rfl, rfl⟩
  pool := rfl
  treasury := rfl
  ledger := hbooked
  reserve := hraised
  rewards := hrewarded

theorem Frame.changes (h : s.Frame s') (hbooked : booked s'.model.ledger)
    (hraised : raised s.reserve) (hrewarded : rewarded s'.rewards) :
    Changes booked raised rewarded s s' where
  alike := h.alike
  pool := by rw [h.rest]
  treasury := by rw [h.rest]
  ledger := hbooked
  reserve := by
    rw [h.rest]
    exact hraised
  rewards := hrewarded

theorem Frame.reserve_eq (h : s.Frame s') : s'.reserve = s.reserve := by
  rw [h.rest]

def Keeps (rewarded : Option RewardProgram → Prop) (s s' : DepositToken) : Prop :=
  Changes (· = s.model.ledger) (· = s.reserve) rewarded s s'

theorem Keeps.raises (h : s.Keeps rewarded s') :
    Changes (· = s.model.ledger) (fun r => s.index ≤ r.liquidityIndex) rewarded s s' :=
  h.mono (fun _ h => h) (fun _ h => h ▸ Int.le_refl _) (fun _ h => h)

theorem Keeps.trans {s'' : DepositToken} (h : s.Keeps rewarded s') (h' : s'.Keeps rewarded' s'') :
    s.Keeps rewarded' s'' where
  alike := ⟨h'.alike.left.trans h.alike.left, h'.alike.right.trans h.alike.right⟩
  pool := h'.pool.trans h.pool
  treasury := h'.treasury.trans h.treasury
  ledger := h'.ledger.trans h.ledger
  reserve := h'.reserve.trans h.reserve
  rewards := h'.rewards

/-!
# Pool calls
-/

theorem leaves_requirePool {caller : String} :
    (requirePool caller).Leaves s
      (fun _ s' => s' = s ∧ Text.lower caller = s.pool)
      (fun _ s' => s' = s ∧ Text.lower caller ≠ s.pool) := by
  unfold requirePool
  rw [Act.leaves_bind, Act.leaves_current, Act.leaves_ite]
  exact ⟨fun h => ⟨rfl, h⟩, fun h => ⟨rfl, h⟩⟩

def poolPass (s : DepositToken) (caller holder : String) (index : Int) : List String :=
  if Text.lower caller = s.pool ∧ (s.reserve.admits index).isOk ∧ s.pins then [Text.lower holder]
  else []

def movePass (s : DepositToken) (sender recipient : String) : List String :=
  if (Text.lower recipient = "" ∨ Text.lower recipient = zeroAccount) ∨ ¬ s.pins then []
  else [Text.lower sender, Text.lower recipient]

def Books (accounts : List String) (booked : ShareLedger → Prop) (s s' : DepositToken) : Prop :=
  Changes booked (fun r => s.index ≤ r.liquidityIndex) (s.Passes accounts) s s'

theorem leaves_emit {kind : EventKind} {source target : String} {value index : Int}
    {answered : Unit → DepositToken → Prop} {failed : Fault → DepositToken → Prop} :
    (emit kind source target value index).Leaves s answered failed ↔
      answered () { s with events := s.events ++ [⟨kind, source, target, value, index⟩] } := Iff.rfl

theorem leaves_noteInfo {message : String} {fields : List (String × Document)}
    {answered : Unit → DepositToken → Prop} {failed : Fault → DepositToken → Prop} :
    (noteInfo message fields).Leaves s answered failed ↔ answered () s := Iff.rfl

theorem Changes.ofEvents {events : List TokenEvent} (h : Changes booked raised rewarded s s') :
    Changes booked raised rewarded s { s' with events := events } where
  alike := h.alike
  pool := h.pool
  treasury := h.treasury
  ledger := h.ledger
  reserve := h.reserve
  rewards := h.rewards

/--
The steps that a mint and a burn share: the index is checked, the change is
booked after a pass over one account, and the index is committed.
-/
theorem leaves_bookAtIndex {β : Type} {caller holder : String} {index : Int} {reason : String}
    {change : Act BalanceModel α} {next : α → Act DepositToken β}
    {answered : β → DepositToken → Prop} {failed : Fault → DepositToken → Prop}
    (booked : ShareLedger → Prop) (hcaller : Text.lower caller = s.pool)
    (hchange : ∀ model : BalanceModel, model.ledger = s.model.ledger →
      model.isRebasing = s.model.isRebasing → change.Leaves model
        (fun _ model' => booked model'.ledger ∧ model.Alike model')
        (fun _ model' => model'.ledger = model.ledger ∧ model.Alike model'))
    (hnext : ∀ a s', s.Books [Text.lower holder] booked s' →
      s.poolPass caller holder index = [Text.lower holder] → (next a).Leaves s' answered failed)
    (hfail : ∀ e s', s.Keeps (s.Abandons (s.poolPass caller holder index)) s' → failed e s') :
    (do
      s.reserve.admits index
      let a ← applyChange [Text.lower holder] change
      let _ ← onReserve (ReserveIndex.raise index reason)
      next a : Act DepositToken β).Leaves s answered failed := by
  rw [Act.leaves_bind, Act.leaves_refusable]
  refine ⟨fun _ hadmits => ?_, fun _ _ => hfail _ _ (Changes.refl rfl rfl (Or.inl rfl))⟩
  have hpass : s.pins = true → s.poolPass caller holder index = [Text.lower holder] := by
    intro hpins
    unfold poolPass
    rw [hadmits, if_pos ⟨hcaller, rfl, hpins⟩]
  rw [Act.leaves_bind]
  apply (leaves_applyChange (fun _ => booked) hchange).mono
  · intro a s₁ h
    rcases h with ⟨hframe, hbooked, hrewards, hpins⟩
    rw [Act.leaves_bind, leaves_onReserve, hframe.reserve_eq]
    apply ReserveIndex.leaves_raise.mono
    · intro committed r h
      rcases h with ⟨rfl, _, hle, hindex⟩
      have hchanges : s.Books [Text.lower holder] booked s₁ :=
        hframe.changes hbooked (Int.le_refl _) hrewards
      have hraised : s.index ≤ r.liquidityIndex := by
        rw [hindex]
        exact hle
      exact hnext a _
        ⟨hchanges.alike, hchanges.pool, hchanges.treasury, hbooked, hraised, hrewards⟩ (hpass hpins)
    · intro e r h
      rcases h with ⟨_, hrefused⟩
      exact absurd hadmits hrefused
  · intro e s₁ h
    rcases h with ⟨hframe, hledger, hrewards⟩
    apply hfail
    refine hframe.changes hledger rfl ?_
    rcases hrewards with hrewards | ⟨hpins, hrewards⟩
    · exact Or.inl hrewards
    · rw [hpass hpins]
      exact hrewards

def MintBooks (s : DepositToken) (name : String) (amount index : Int) (l : ShareLedger) : Prop :=
  ∃ n, s.model.ledger.Credits name n l ∧ (s.isRebasing = false → rayDiv amount index = .ok n)

def BurnBooks (s : DepositToken) (name : String) (amount index : Int) (l : ShareLedger) : Prop :=
  ∃ n, s.model.ledger.Debits name n l ∧
    (s.isRebasing = false → s.model.ledger.BurnOf name amount index n)

def TransferBooks (s : DepositToken) (source target : String) (amount : Int) (l : ShareLedger) :
    Prop :=
  ∃ n, s.model.ledger.Moves source target n l ∧
    (s.isRebasing = false → s.model.ledger.TransferOf source amount s.index n)

theorem leaves_mint {caller holder : String} {amount index : Int} :
    (mint caller holder amount index).Leaves s
      (fun _ s' => s.Books [Text.lower holder] (s.MintBooks (Text.lower holder) amount index) s' ∧
        s.poolPass caller holder index = [Text.lower holder])
      (fun _ s' => s.Keeps (s.Abandons (s.poolPass caller holder index)) s') := by
  unfold mint
  rw [Act.leaves_bind]
  apply leaves_requirePool.mono
  · intro _ s₀ h
    rcases h with ⟨hsame, hcaller⟩
    subst s₀
    rw [Act.leaves_bind, Act.leaves_current]
    apply leaves_bookAtIndex (s.MintBooks (Text.lower holder) amount index) hcaller
    · intro model hledger hkind
      have hmint := @BalanceModel.leaves_mint model (Text.lower holder) amount index
      rw [hledger, Text.lower_lower, hkind] at hmint
      rw [hledger]
      exact hmint
    · intro first s' hbooks hpass
      rw [Act.leaves_bind, leaves_emit, Act.leaves_bind, leaves_emit, Act.leaves_bind,
        leaves_noteInfo]
      exact ⟨hbooks.ofEvents, hpass⟩
    · intro _ s' hkeeps
      exact hkeeps
  · intro _ s₀ h
    rcases h with ⟨hsame, _⟩
    subst s₀
    exact Changes.refl rfl rfl (Or.inl rfl)

theorem leaves_burn {caller holder receiver : String} {amount index : Int} :
    (burn caller holder receiver amount index).Leaves s
      (fun _ s' => s.Books [Text.lower holder] (s.BurnBooks (Text.lower holder) amount index) s' ∧
        s.poolPass caller holder index = [Text.lower holder])
      (fun _ s' => s.Keeps (s.Abandons (s.poolPass caller holder index)) s') := by
  unfold burn
  rw [Act.leaves_bind]
  apply leaves_requirePool.mono
  · intro _ s₀ h
    rcases h with ⟨hsame, hcaller⟩
    subst s₀
    rw [Act.leaves_bind, Act.leaves_current]
    apply leaves_bookAtIndex (s.BurnBooks (Text.lower holder) amount index) hcaller
    · intro model hledger hkind
      have hburn := @BalanceModel.leaves_burn model (Text.lower holder) amount index
      rw [hledger, Text.lower_lower, hkind] at hburn
      rw [hledger]
      exact hburn
    · intro burned s' hbooks hpass
      rw [Act.leaves_bind, leaves_emit, Act.leaves_bind, leaves_emit, Act.leaves_bind,
        leaves_noteInfo]
      exact ⟨hbooks.ofEvents, hpass⟩
    · intro _ s' hkeeps
      exact hkeeps
  · intro _ s₀ h
    rcases h with ⟨hsame, _⟩
    subst s₀
    exact Changes.refl rfl rfl (Or.inl rfl)

theorem leaves_mintToTreasury {caller : String} {amount index : Int} :
    (mintToTreasury caller amount index).Leaves s
      (fun _ s' => (amount = 0 ∧ s' = s) ∨ (amount ≠ 0 ∧
        s.Books [Text.lower s.treasury] (s.MintBooks (Text.lower s.treasury) amount index) s' ∧
        s.poolPass caller s.treasury index = [Text.lower s.treasury]))
      (fun _ s' => (amount = 0 ∧ s' = s) ∨ (amount ≠ 0 ∧
        s.Keeps (s.Abandons (s.poolPass caller s.treasury index)) s')) := by
  unfold mintToTreasury
  rw [Act.leaves_bind]
  apply leaves_requirePool.mono
  · intro _ s₀ hleft
    rcases hleft with ⟨hsame, _⟩
    subst s₀
    rw [Act.leaves_ite]
    constructor
    · intro hzero
      exact Or.inl ⟨hzero, rfl⟩
    · intro hzero
      rw [Act.leaves_bind, Act.leaves_current]
      apply leaves_mint.mono
      · intro _ s' h
        exact Or.inr ⟨hzero, h⟩
      · intro _ s' h
        exact Or.inr ⟨hzero, h⟩
  · intro _ s₀ hleft
    rcases hleft with ⟨hsame, _⟩
    subst s₀
    by_cases hzero : amount = 0
    · exact Or.inl ⟨hzero, rfl⟩
    · exact Or.inr ⟨hzero, Changes.refl rfl rfl (Or.inl rfl)⟩

/-!
# Moves
-/

theorem leaves_move {event sender recipient : String} {amount : Int}
    (hs : ∀ name, 0 ≤ s.model.ledger.held name) :
    (move event sender recipient amount).Leaves s
      (fun _ s' => s.Books [Text.lower sender, Text.lower recipient]
          (s.TransferBooks (Text.lower sender) (Text.lower recipient) amount) s' ∧
        s.movePass sender recipient = [Text.lower sender, Text.lower recipient])
      (fun _ s' => s.Keeps (s.Abandons (s.movePass sender recipient)) s') := by
  unfold move
  rw [Act.leaves_bind, Act.leaves_current, Act.leaves_ite]
  constructor
  · intro _
    exact Changes.refl rfl rfl (Or.inl rfl)
  · intro haddress
    have hpass : s.pins = true →
        s.movePass sender recipient = [Text.lower sender, Text.lower recipient] := by
      intro hpins
      unfold movePass
      rw [if_neg]
      intro hleft
      rcases hleft with h | h
      · exact haddress h
      · exact h hpins
    rw [Act.leaves_bind]
    apply (leaves_applyChange
      (fun _ => s.TransferBooks (Text.lower sender) (Text.lower recipient) amount) ?_).mono
    · intro _ s' hleft
      rcases hleft with ⟨hframe, hbooked, hrewards, hpins⟩
      rw [Act.leaves_bind, leaves_emit, Act.leaves_bind, leaves_emit, Act.leaves_note]
      exact ⟨(hframe.changes hbooked (Int.le_refl _) hrewards).ofEvents, hpass hpins⟩
    · intro _ s' hleft
      rcases hleft with ⟨hframe, hledger, hrewards⟩
      refine hframe.changes hledger rfl ?_
      rcases hrewards with hrewards | ⟨hpins, hrewards⟩
      · exact Or.inl hrewards
      · rw [hpass hpins]
        exact hrewards
    · intro model hledger hkind
      have hmove := @BalanceModel.leaves_transfer model (Text.lower sender) (Text.lower recipient)
        amount s.index (hledger ▸ hs)
      rw [hledger, Text.lower_lower, Text.lower_lower, hkind] at hmove
      rw [hledger]
      exact hmove

theorem leaves_transfer {sender recipient : String} {amount : Int}
    (hs : ∀ name, 0 ≤ s.model.ledger.held name) :
    (transfer sender recipient amount).Leaves s
      (fun _ s' => s.Books [Text.lower sender, Text.lower recipient]
          (s.TransferBooks (Text.lower sender) (Text.lower recipient) amount) s' ∧
        s.movePass sender recipient = [Text.lower sender, Text.lower recipient])
      (fun _ s' => s.Keeps (s.Abandons (s.movePass sender recipient)) s') := by
  unfold transfer
  rw [Act.leaves_bind]
  exact leaves_move hs

def seizurePass (s : DepositToken) (caller sender recipient : String) : List String :=
  if Text.lower caller = s.pool then s.movePass sender recipient else []

theorem leaves_transferOnLiquidation {caller sender recipient : String} {amount : Int}
    (hs : ∀ name, 0 ≤ s.model.ledger.held name) :
    (transferOnLiquidation caller sender recipient amount).Leaves s
      (fun _ s' => s.Books [Text.lower sender, Text.lower recipient]
          (s.TransferBooks (Text.lower sender) (Text.lower recipient) amount) s' ∧
        s.seizurePass caller sender recipient = [Text.lower sender, Text.lower recipient])
      (fun _ s' => s.Keeps (s.Abandons (s.seizurePass caller sender recipient)) s') := by
  unfold transferOnLiquidation
  rw [Act.leaves_bind]
  apply leaves_requirePool.mono
  · intro _ s₀ h
    rcases h with ⟨hsame, hcaller⟩
    subst s₀
    have hpass : s.seizurePass caller sender recipient = s.movePass sender recipient := by
      unfold seizurePass
      rw [if_pos hcaller]
    rw [Act.leaves_bind, hpass]
    exact leaves_move hs
  · intro _ s₀ h
    rcases h with ⟨hsame, _⟩
    subst s₀
    exact Changes.refl rfl rfl (Or.inl rfl)

/-!
# Premiums and the index
-/

theorem keeps_onModel {m : Act BalanceModel α}
    (h : m.Leaves s.model (fun _ b => b.ledger = s.model.ledger ∧ s.model.Alike b)
      (fun _ b => b.ledger = s.model.ledger ∧ s.model.Alike b)) :
    (onModel m).Leaves s (fun _ s' => s.Keeps (· = s.rewards) s')
      (fun _ s' => s.Keeps (· = s.rewards) s') := by
  rw [leaves_onModel]
  apply h.mono
  · intro _ b hb
    exact ⟨hb.right, rfl, rfl, hb.left, rfl, rfl⟩
  · intro _ b hb
    exact ⟨hb.right, rfl, rfl, hb.left, rfl, rfl⟩

theorem keeps_balanceOf {holder : String} :
    (balanceOf holder).Leaves s (fun _ s' => s.Keeps (· = s.rewards) s')
      (fun _ s' => s.Keeps (· = s.rewards) s') := by
  unfold balanceOf
  rw [Act.leaves_bind, Act.leaves_current]
  exact keeps_onModel BalanceModel.leaves_balanceOf

theorem keeps_totalSupply :
    totalSupply.Leaves s (fun _ s' => s.Keeps (· = s.rewards) s')
      (fun _ s' => s.Keeps (· = s.rewards) s') := by
  unfold totalSupply
  rw [Act.leaves_bind, Act.leaves_current]
  exact keeps_onModel BalanceModel.leaves_totalSupply

theorem leaves_injectFlashLoanPremium {caller : String} {premium : Int} :
    (injectFlashLoanPremium caller premium).Leaves s
      (fun _ s' => Changes (· = s.model.ledger) (fun r => s.index ≤ r.liquidityIndex)
        (· = s.rewards) s s')
      (fun _ s' => s.Keeps (· = s.rewards) s') := by
  unfold injectFlashLoanPremium
  rw [Act.leaves_bind]
  apply leaves_requirePool.mono
  · intro _ s₀ h
    rcases h with ⟨hsame, _⟩
    subst s₀
    rw [Act.leaves_bind]
    apply keeps_totalSupply.mono _ (fun _ _ h => h)
    · intro liquidity s₁ hkeeps
      rw [Act.leaves_bind, leaves_onReserve, hkeeps.reserve]
      apply ReserveIndex.leaves_cumulate.mono
      · intro index r h
        rcases h with ⟨_, hle, hindex⟩
        have hraised : s.index ≤ r.liquidityIndex := by
          rw [hindex]
          exact hle
        rw [Act.leaves_bind, Act.leaves_current, Act.leaves_bind, leaves_emit, Act.leaves_bind,
          leaves_noteInfo]
        exact ⟨hkeeps.alike, hkeeps.pool, hkeeps.treasury, hkeeps.ledger, hraised, hkeeps.rewards⟩
      · intro _ r heq
        rcases heq with rfl
        exact ⟨hkeeps.alike, hkeeps.pool, hkeeps.treasury, hkeeps.ledger, rfl, hkeeps.rewards⟩
  · intro _ s₀ h
    rcases h with ⟨hsame, _⟩
    subst s₀
    exact Changes.refl rfl rfl rfl

theorem leaves_raiseIndex {index : Int} {reason : String} :
    (onReserve (ReserveIndex.raise index reason)).Leaves s
      (fun _ s' => Changes (· = s.model.ledger) (fun r => s.index ≤ r.liquidityIndex)
        (· = s.rewards) s s')
      (fun _ s' => s.Keeps (· = s.rewards) s') := by
  rw [leaves_onReserve]
  apply ReserveIndex.leaves_raise.mono
  · intro _ r h
    rcases h with ⟨rfl, _, hle, hindex⟩
    refine ⟨⟨rfl, rfl⟩, rfl, rfl, rfl, ?_, rfl⟩
    rw [hindex]
    exact hle
  · intro _ r h
    rcases h with ⟨rfl, _⟩
    exact Changes.refl rfl rfl rfl

theorem changes_withAsset (s : DepositToken) (asset : ReserveAsset) :
    s.Keeps (· = s.rewards) { s with model := s.model.withAsset asset } where
  alike := BalanceModel.alike_withAsset s.model asset
  pool := rfl
  treasury := rfl
  ledger := BalanceModel.ledger_withAsset s.model asset
  reserve := rfl
  rewards := rfl

/-!
# Claims
-/

theorem stable_claim_of_parts {p : DepositToken → Prop} {holder token : String}
    (hcheckpoint : ∀ basis,
      Act.Stable p (onRewards (RewardTracker.checkpoint (Text.lower holder) token basis)))
    (hclaim : ∀ factor,
      Act.Stable p (onRewards (RewardTracker.claim (Text.lower holder) token factor)))
    (hcut : ∀ amount, Act.Stable p (onRewards (RewardTracker.recordTreasuryCut token amount)))
    (hevents : ∀ s events, p s → p { s with events := events }) :
    Act.Stable p (claim holder token) := by
  have hreport : ∀ (value index : Int) (fields : List (String × Document)) (c : RewardClaim),
      Act.Stable p (do
        emit .rewardsClaimed (Text.lower holder) (Text.lower token) value index
        noteInfo "Rewards claimed" fields
        return c : Act DepositToken RewardClaim) := by
    intro value index fields c
    apply Act.Stable.bind (Act.Stable.update fun s hs => hevents s _ hs)
    intro _
    apply Act.Stable.bind (Act.Stable.note _)
    intro _
    exact Act.Stable.pure c
  unfold claim
  apply Act.Stable.bind Act.Stable.current
  intro s
  apply Act.Stable.bind (Act.Stable.faulty _)
  intro program
  apply Act.Stable.bind (hcheckpoint _)
  intro _
  apply Act.Stable.bind (Act.Stable.faulty _)
  intro factor
  apply Act.Stable.bind (hclaim factor)
  intro c
  apply Act.Stable.ite
  · apply Act.Stable.bind (hcut _)
    intro _
    exact hreport _ _ _ c
  · exact hreport _ _ _ c

theorem stable_claim_of_rewards {p : DepositToken → Prop} {holder token : String}
    (hrewards : ∀ {β : Type} (m : Act RewardTracker β), Act.Stable p (onRewards m))
    (hevents : ∀ s events, p s → p { s with events := events }) :
    Act.Stable p (claim holder token) :=
  stable_claim_of_parts (fun _ => hrewards _) (fun _ => hrewards _) (fun _ => hrewards _) hevents

end DepositToken
end ReserveAccounting
