import ReserveAccounting.Proofs.VaultInvariants

/-!
# The supply behind a token

Over books of its own, the supply of a token is what its shares are worth at the
index. Moves and rewards change neither the number of shares nor the index. A
mint or a burn at the present index leaves the index, and issues or cancels the
shares that its amount is worth.
-/

namespace ReserveAccounting

open FixedPoint

/-!
# What a burn answers
-/

namespace DepositToken

variable {s s' : DepositToken} {p : DepositToken → Prop} {total i : Int}

theorem answers_burn {caller holder receiver : String} {amount index : Int}
    (hplain : s.isRebasing = false) :
    (burn caller holder receiver amount index).Leaves s
      (fun burned _ => s.model.ledger.BurnValue (Text.lower holder) amount index burned)
      (fun _ _ => True) := by
  have hchange : ∀ model : BalanceModel, model.ledger = s.model.ledger →
      model.isRebasing = s.model.isRebasing →
      (BalanceModel.burn (Text.lower holder) amount index).Leaves model
        (fun burned model' =>
          s.model.ledger.BurnValue (Text.lower holder) amount index burned ∧ model.Alike model')
        (fun _ model' => model'.ledger = model.ledger ∧ model.Alike model') := by
    intro model hledger hkind
    have hburned : (BalanceModel.burn (Text.lower holder) amount index).Leaves model
        (fun burned _ => s.model.ledger.BurnValue (Text.lower holder) amount index burned)
        (fun _ _ => True) := by
      cases model with
      | plain l =>
          have hanswers := @ShareLedger.answers_burn l (Text.lower holder) amount index
          rw [Text.lower_lower] at hanswers
          unfold BalanceModel.burn
          rw [BalanceModel.leaves_dispatch_plain, ← hledger]
          exact hanswers
      | rebasing w =>
          rw [show s.model.isRebasing = false from hplain] at hkind
          cases hkind
    exact (hburned.and BalanceModel.leaves_burn).mono
      (fun _ _ h => ⟨h.left, h.right.right⟩) (fun _ _ h => h.right)
  unfold burn
  rw [Act.leaves_bind]
  apply leaves_requirePool.mono
  · intro _ s₀ h
    rcases h with ⟨rfl, _⟩
    rw [Act.leaves_bind, Act.leaves_current, Act.leaves_bind, Act.leaves_refusable]
    refine ⟨fun _ _ => ?_, fun _ _ => trivial⟩
    rw [Act.leaves_bind]
    apply (leaves_applyChange
      (fun burned _ => s₀.model.ledger.BurnValue (Text.lower holder) amount index burned)
      hchange).mono
    · intro burned s₁ h
      rw [Act.leaves_bind]
      exact Act.leaves_of_run (fun _ _ _ => h.right.left) (fun _ _ _ => trivial)
    · intro _ _ _
      trivial
  · intro _ _ _
    trivial

/-!
# Calls beside the books
-/

namespace BesideBooks

theorem move (hp : BesideBooks p) (hevents : ∀ s events, p s → p { s with events := events })
    (event sender recipient : String) (amount : Int) :
    Act.Stable p (move event sender recipient amount) := by
  have hemit : ∀ kind source target value index,
      Act.Stable p (emit kind source target value index) :=
    fun _ _ _ _ _ => Act.Stable.update fun s hs => hevents s _ hs
  unfold DepositToken.move
  apply Act.Stable.bind Act.Stable.current
  intro s
  apply Act.Stable.ite (Act.Stable.refuse _)
  apply Act.Stable.bind (hp.applyChange _ _)
  intro _
  apply Act.Stable.bind (hemit _ _ _ _ _)
  intro _
  apply Act.Stable.bind (hemit _ _ _ _ _)
  intro _
  exact Act.Stable.note _

theorem standing (hp : BesideBooks p) (hevents : ∀ s events, p s → p { s with events := events }) :
    Standing p where
  transfer _ _ _ := (hp.move hevents _ _ _ _).bind fun _ => Act.Stable.pure true
  claim _ _ := stable_claim_of_rewards (fun m => hp.onRewards m) hevents
  balanceOf _ := Act.Stable.current.bind fun _ => hp.onModel _
  readRate := hp.onModel _

theorem transferOnLiquidation (hp : BesideBooks p)
    (hevents : ∀ s events, p s → p { s with events := events })
    (caller sender recipient : String) (amount : Int) :
    Act.Stable p (transferOnLiquidation caller sender recipient amount) :=
  (stable_requirePool_of caller).bind fun _ =>
    (hp.move hevents _ _ _ _).bind fun _ => Act.Stable.pure true

theorem distributeRewards (hp : BesideBooks p) (token : String) (amount : Int) :
    Act.Stable p (distributeRewards token amount) :=
  Act.Stable.current.bind fun _ => hp.onRewards _

theorem bookAtIndex {α β : Type} (hp : BesideBooks p) {caller : String} {accounts : List String}
    {index : Int} {reason : String} {change : Act BalanceModel α}
    {next : DepositToken → α → Act DepositToken β}
    (hraise : Act.Stable p (onReserve (ReserveIndex.raise index reason)))
    (hnext : ∀ t a, Act.Stable p (next t a)) :
    Act.Stable p (do
      requirePool caller
      let t ← Act.current
      t.reserve.admits index
      let a ← DepositToken.applyChange accounts change
      let _ ← onReserve (ReserveIndex.raise index reason)
      next t a : Act DepositToken β) := by
  apply Act.Stable.bind (stable_requirePool_of caller)
  intro _
  apply Act.Stable.bind Act.Stable.current
  intro t
  apply Act.Stable.bind (Act.Stable.refusable _)
  intro _
  apply Act.Stable.bind (hp.applyChange accounts change)
  intro a
  exact hraise.bind fun _ => hnext t a

end BesideBooks

/-!
# The index
-/

theorem besideBooks_index (i : Int) : BesideBooks fun s => s.index = i where
  model _ _ h := h
  rewards _ _ h := h

theorem standing_index (i : Int) : Standing fun s => s.index = i :=
  (besideBooks_index i).standing fun _ _ h => h

theorem stable_index_raise (i : Int) (reason : String) :
    Act.Stable (fun s => s.index = i) (onReserve (ReserveIndex.raise i reason)) := by
  apply Act.Stable.of_leaves
  intro s hs
  rw [leaves_onReserve]
  apply ReserveIndex.leaves_raise.mono
  · intro _ r h
    rcases h with ⟨_, _, _, hindex⟩
    exact hindex
  · intro _ r h
    rw [h.left]
    exact hs

theorem stable_index_emit {kind : EventKind} {source target : String} {value index : Int} :
    Act.Stable (fun s => s.index = i) (emit kind source target value index) :=
  Act.Stable.update fun _ h => h

theorem stable_index_mint (caller holder : String) (amount i : Int) :
    Act.Stable (fun s => s.index = i) (mint caller holder amount i) := by
  apply (besideBooks_index i).bookAtIndex (stable_index_raise i "mint")
  intro t first
  apply Act.Stable.bind stable_index_emit
  intro _
  apply Act.Stable.bind stable_index_emit
  intro _
  exact (Act.Stable.note _).bind fun _ => Act.Stable.pure first

theorem stable_index_burn (caller holder receiver : String) (amount i : Int) :
    Act.Stable (fun s => s.index = i) (burn caller holder receiver amount i) := by
  apply (besideBooks_index i).bookAtIndex (stable_index_raise i "burn")
  intro t burned
  apply Act.Stable.bind stable_index_emit
  intro _
  apply Act.Stable.bind stable_index_emit
  intro _
  exact (Act.Stable.note _).bind fun _ => Act.Stable.pure burned

/-!
# The shares
-/

structure Supplied (total : Int) (s : DepositToken) : Prop where
  plain : s.isRebasing = false
  sound : s.model.ledger.Sound
  total : s.model.ledger.totalShares = total

variable {booked : ShareLedger → Prop} {raised : ReserveIndex → Prop}
  {rewarded : Option RewardProgram → Prop}

theorem Supplied.of_keeps (hs : s.Supplied total) (h : s.Keeps rewarded s') :
    s'.Supplied total where
  plain := h.alike.left.trans hs.plain
  sound := by
    rw [h.ledger]
    exact hs.sound
  total := by
    rw [h.ledger]
    exact hs.total

theorem Supplied.of_changes {total' : Int} (hs : s.Supplied total)
    (h : s.Changes booked raised rewarded s') (hsound : s'.model.ledger.Sound)
    (htotal : s'.model.ledger.totalShares = total') : s'.Supplied total' where
  plain := h.alike.left.trans hs.plain
  sound := hsound
  total := htotal

theorem Supplied.of_moved {accounts : List String} {sender recipient : String} {amount : Int}
    (hs : s.Supplied total)
    (h : s.Books accounts (s.TransferBooks (Text.lower sender) (Text.lower recipient) amount) s') :
    s'.Supplied total := by
  rcases h.ledger with ⟨n, hmoves, _⟩
  apply hs.of_changes h
  · exact hmoves.sound (Text.lower_lower sender) (Text.lower_lower recipient) hs.sound
  · exact hmoves.totalShares_eq.trans hs.total

theorem standing_supplied (total : Int) : Standing (Supplied total) where
  transfer _ _ _ := Act.Stable.of_leaves fun _ hs =>
    (leaves_transfer hs.sound.nonneg).mono (fun _ _ h => hs.of_moved h.left)
      (fun _ _ h => hs.of_keeps h)
  claim _ _ := Act.Stable.of_leaves fun _ hs =>
    keeps_claim.mono (fun _ _ h => hs.of_keeps h) (fun _ _ h => hs.of_keeps h)
  balanceOf _ := Act.Stable.of_leaves fun _ hs =>
    keeps_balanceOf.mono (fun _ _ h => hs.of_keeps h) (fun _ _ h => hs.of_keeps h)
  readRate := Act.Stable.of_leaves fun _ hs =>
    keeps_readRate.mono (fun _ _ h => hs.of_keeps h) (fun _ _ h => hs.of_keeps h)

theorem stable_supplied_transferOnLiquidation (total : Int) (caller sender recipient : String)
    (amount : Int) :
    Act.Stable (Supplied total) (transferOnLiquidation caller sender recipient amount) :=
  Act.Stable.of_leaves fun _ hs =>
    (leaves_transferOnLiquidation hs.sound.nonneg).mono (fun _ _ h => hs.of_moved h.left)
      (fun _ _ h => hs.of_keeps h)

theorem stable_supplied_distributeRewards (total : Int) (token : String) (amount : Int) :
    Act.Stable (Supplied total) (distributeRewards token amount) :=
  Act.Stable.current.bind fun _ => Act.Stable.of_leaves fun _ hs =>
    keeps_onRewards.mono (fun _ _ h => hs.of_keeps h) (fun _ _ h => hs.of_keeps h)

/-!
# Shares at an index
-/

def Issued (total i : Int) (s : DepositToken) : Prop := s.Supplied total ∧ s.index = i

theorem standing_issued (total i : Int) : Standing (Issued total i) :=
  (standing_supplied total).and (standing_index i)

theorem stable_issued_transferOnLiquidation (total i : Int) (caller sender recipient : String)
    (amount : Int) :
    Act.Stable (Issued total i) (transferOnLiquidation caller sender recipient amount) :=
  (stable_supplied_transferOnLiquidation total caller sender recipient amount).and
    ((besideBooks_index i).transferOnLiquidation (fun _ _ h => h) caller sender recipient amount)

theorem stable_issued_distributeRewards (total i : Int) (token : String) (amount : Int) :
    Act.Stable (Issued total i) (distributeRewards token amount) :=
  (stable_supplied_distributeRewards total token amount).and
    ((besideBooks_index i).distributeRewards token amount)

theorem run_totalSupply (hs : s.Issued total i) :
    Act.run totalSupply s = ((rayMul total i).mapError Fault.ofRefusal, s) := by
  rcases exists_plain hs.left.plain with ⟨l, hmodel⟩
  have htotal : l.totalShares = total := by
    have htotal := hs.left.total
    rw [hmodel] at htotal
    exact htotal
  unfold totalSupply onModel BalanceModel.totalSupply BalanceModel.view
  rw [Act.run_bind_ok (Act.run_current s), Act.run_within, hmodel]
  change ((Act.run (Act.ofRefusable (rayMul l.totalShares s.index)) l).1,
    { s with model := .plain (Act.run (Act.ofRefusable (rayMul l.totalShares s.index)) l).2 }) = _
  rw [Act.run_ofRefusable, htotal, hs.right, ← hmodel]

theorem leaves_mint_issued {caller holder : String} {amount : Int} (hs : s.Issued total i) :
    (mint caller holder amount i).Leaves s
      (fun _ s' => ∃ n, rayDiv amount i = .ok n ∧ s'.Issued (total + n) i) (fun _ _ => True) := by
  apply (leaves_mint.and ((stable_index_mint caller holder amount i).leaves hs.right)).mono
  · intro _ s' h
    rcases h with ⟨⟨hbooks, _⟩, hindex⟩
    rcases hbooks.ledger with ⟨n, hcredits, hn⟩
    refine ⟨n, hn hs.left.plain, hs.left.of_changes hbooks ?_ ?_, hindex⟩
    · exact hcredits.sound (Text.lower_lower holder) hs.left.sound
    · rw [hcredits.totalShares_eq, hs.left.total]
  · intro _ _ _
    trivial

theorem leaves_burn_issued {caller holder receiver : String} {amount : Int}
    (hs : s.Issued total i) (hi : ray ≤ i) :
    (burn caller holder receiver amount i).Leaves s
      (fun burned s' => ∃ n, rayDiv burned i = .ok n ∧ s'.Issued (total - n) i)
      (fun _ _ => True) := by
  apply ((leaves_burn.and (answers_burn hs.left.plain)).and
    ((stable_index_burn caller holder receiver amount i).leaves hs.right)).mono
  · intro burned s' h
    rcases h with ⟨⟨⟨hbooks, _⟩, hburned⟩, hindex⟩
    rcases hbooks.ledger with ⟨n, hdebits, hn⟩
    refine ⟨n, (hn hs.left.plain).rayDiv_eq hburned hi, hs.left.of_changes hbooks ?_ ?_, hindex⟩
    · exact hdebits.sound (Text.lower_lower holder) hs.left.sound
    · rw [hdebits.totalShares_eq, hs.left.total]
  · intro _ _ _
    trivial

/-!
# Tokens from index one on
-/

structure Grounded (kind : Bool) (s : DepositToken) : Prop where
  kind : s.isRebasing = kind
  sound : s.model.ledger.Sound
  index : ray ≤ s.index

theorem Grounded.after {kind : Bool} (c : TokenCall) (hs : s.Grounded kind) :
    (c.after s).Grounded kind where
  kind := by
    have halike : s.model.Alike (c.after s).model := by
      apply @Act.Leaves.state _ _ c.perform s fun s' => s.model.Alike s'.model
      exact (TokenCall.leaves_perform c hs.sound.nonneg).mono (fun _ _ h => h.alike)
        (fun _ _ h => h.alike)
    exact halike.left.trans hs.kind
  sound := c.sound_after hs.sound
  index := hs.index.trans (c.index_le_after hs.sound)

theorem Grounded.of_keeps {kind : Bool} (hs : s.Grounded kind) (h : s.Keeps rewarded s') :
    s'.Grounded kind where
  kind := h.alike.left.trans hs.kind
  sound := by
    rw [h.ledger]
    exact hs.sound
  index := by
    unfold DepositToken.index
    rw [h.reserve]
    exact hs.index

theorem Grounded.issued (hs : s.Grounded false) : s.Issued s.model.ledger.totalShares s.index :=
  ⟨⟨hs.kind, hs.sound, rfl⟩, rfl⟩

end DepositToken
end ReserveAccounting
