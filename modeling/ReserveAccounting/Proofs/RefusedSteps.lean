import ReserveAccounting.Proofs.ReadyScenarios

/-!
# Refused steps

A step is a chain of calls, and nothing takes back the calls before the one that
is refused. This module says for each action what its refusals leave: the books
of the token in all cases, and what the earlier calls did to the rest.
-/

namespace ReserveAccounting

open FixedPoint

/-!
# The supply of a ready token
-/

namespace DepositToken

variable {s : DepositToken}

theorem leaves_totalSupply_ready (hs : s.Ready) :
    totalSupply.Leaves s
      (fun _ s' => s.Keeps (· = s.rewards) s' ∧ s'.model.livePool = s.model.livePool ∧
        ∃ scaled, s.model.Measures scaled)
      (fun e s' => s.Keeps (· = s.rewards) s' ∧ s'.model.livePool = s.model.livePool ∧
        ∀ scaled, s.model.Measures scaled → 0 ≤ s.index → e.IsOverflow) := by
  have hmeasured : totalSupply.Leaves s (fun _ _ => ∃ scaled, s.model.Measures scaled)
      (fun e _ => ∀ scaled, s.model.Measures scaled → 0 ≤ s.index → e.IsOverflow) := by
    unfold totalSupply
    rw [Act.leaves_bind, Act.leaves_current, leaves_onModel]
    apply (BalanceModel.leaves_totalSupply_measured hs.live hs.steady.unpinned).mono
    · intro _ _ h
      rcases h with ⟨scaled, hscaled, _⟩
      exact ⟨scaled, hscaled⟩
    · intro e _ h scaled hscaled hindex
      rcases h scaled hscaled with ⟨r, hr, rfl⟩
      rcases rayMul_error (hscaled.nonneg hs.steady.honest.shares) hindex hr with ⟨hkind, hfault⟩
      exact ⟨r, hfault, hkind⟩
  exact (keeps_totalSupply.and ((stable_totalSupply.leaves rfl).and hmeasured)).mono
    (fun _ _ h => h) (fun _ _ h => h)

theorem Ready.of_keeps {s' : DepositToken} (hs : s.Ready) (h : s.Keeps (· = s.rewards) s')
    (hpool : s'.model.livePool = s.model.livePool) : s'.Ready where
  steady := hs.steady.of_keeps h
  live := by
    unfold BalanceModel.IsLive
    rw [hpool]
    exact hs.live

theorem leaves_raise_ready {index : Int} {reason : String} (hs : s.Ready) :
    (onReserve (ReserveIndex.raise index reason)).Leaves s
      (fun _ s' => s'.Ready ∧ 0 < s'.index ∧ s'.model = s.model ∧ s'.rewards = s.rewards)
      (fun _ s' => s' = s) := by
  have hraise : (onReserve (ReserveIndex.raise index reason)).Leaves s
      (fun _ s' => 0 < s'.index ∧ s'.model = s.model ∧ s'.rewards = s.rewards)
      (fun _ s' => s' = s) := by
    rw [leaves_onReserve]
    apply ReserveIndex.leaves_raise.mono
    · intro _ r h
      rcases h with ⟨_, hpositive, _, hindex⟩
      exact ⟨hpositive.trans_eq hindex.symm, rfl, rfl⟩
    · intro _ r h
      rw [h.left]
  exact (((abiding_ready.raise _ _).leaves hs).and hraise).mono (fun _ _ h => h) (fun _ _ h => h.right)

end DepositToken

/-!
# Sweeps
-/

namespace DustSweeper

variable {sweeper : DustSweeper} {t : DepositToken} {caller : String} {backing : Int}

theorem leaves_orTooSmall {σ α : Type} {s : σ} {m : Act σ α} {answered : α → σ → Prop}
    {failed : Fault → σ → Prop} (hm : m.Leaves s answered failed) :
    (orTooSmall m).Leaves s
      (fun minted s' =>
        match minted with
        | .ok a => answered a s'
        | .error r => failed (.refused r) s')
      failed := by
  unfold Act.Leaves Act.run at hm
  unfold Act.Leaves Act.run orTooSmall
  dsimp only at hm ⊢
  cases houtcome : (m s).outcome with
  | ok a =>
      rw [houtcome] at hm
      exact hm
  | error e =>
      rw [houtcome] at hm
      cases e with
      | refused r =>
          dsimp only
          by_cases hsmall : r.kind.isA .roundingUnderflow = true
          · rw [if_pos hsmall]
            exact hm
          · rw [if_neg hsmall]
            exact hm
      | _ => exact hm

theorem leaves_measure :
    (sweeper.measure backing).Leaves t (fun _ t' => t.Keeps (· = t.rewards) t')
      (fun _ t' => t.Keeps (· = t.rewards) t') := by
  unfold measure
  rw [Act.leaves_bind]
  apply DepositToken.keeps_totalSupply.mono
  · intro supply t' h
    rw [Act.leaves_bind, Act.leaves_current]
    dsimp only
    rw [Act.leaves_ite]
    exact ⟨fun _ => h, fun _ => h⟩
  · intro _ _ h
    exact h

theorem backsOut_sweep (ht : t.Steady) :
    (sweeper.sweep caller backing).Leaves t (fun _ _ => True) (fun e t' => t.BacksOut e t') := by
  unfold sweep
  rw [Act.leaves_bind]
  apply leaves_measure.mono
  · intro report t' h
    rw [Act.leaves_ite]
    refine ⟨fun _ => trivial, fun _ => ?_⟩
    rw [Act.leaves_bind, Act.leaves_current, Act.leaves_bind]
    apply (leaves_orTooSmall (DepositToken.backsOut_mintToTreasury (ht.of_keeps h))).mono
    · intro minted _ _
      cases minted <;> trivial
    · intro _ _ h'
      exact h.trans_backsOut h'
  · intro e _ h
    exact h.backsOut e

end DustSweeper

/-!
# What a refused step leaves
-/

def Action.usesVault (a : Action) : Bool := a ∈ [.wrap, .unwrap, .claimStatic]

namespace Scenario

variable {s s' : Scenario} {p p' : SharePool} {action : Action} {step : Document} {e : Fault}
  {α : Type}

def units (s : Scenario) : ShareLedger :=
  match s.vault with
  | some books => books.balances
  | none => .empty

/-- A deposit took the asset in, and may have handed it to the pool, before it was refused. -/
def TookAssetIn (step : Document) (s : Scenario) (p p' : SharePool) : Prop :=
  ∃ holder amount, fieldText step "holder" = .ok holder ∧
    fieldAmount step "amount" s.decimals = .ok amount ∧ 0 < amount ∧
    (p' = p.taken holder amount ∨
      ∃ moved, Act.run (SharePool.transfer holder s.pool amount) (p.taken holder amount) =
        (.ok moved, p'))

/-- A rebase scaled the pooled total to one for which there is no rate. -/
def RebasedInVain (step : Document) (e : Fault) (p p' : SharePool) : Prop :=
  ∃ fraction delta r, fieldNumeral step "fraction" = .ok fraction ∧
    p.rebaseDelta fraction = .ok delta ∧
    p' = { p with totalPooled := p.totalPooled + delta, rebaseCount := p.rebaseCount + 1 } ∧
    p'.exchangeRate = .error r ∧ e = .ofRefusal r

/-- What a step leaves that stops with a fault. -/
structure LeftBy (action : Action) (step : Document) (e : Fault) (s s' : Scenario) : Prop where
  ledger : s'.token.model.ledger = s.token.model.ledger
  reserve : s'.token.reserve = s.token.reserve ∨ action = .accrue ∧ e.IsOverflow
  rewards : e.IsPlain → s'.token.rewards = s.token.rewards ∨
    action.usesVault = true ∧ ∃ books, s'.vault = some books ∧
      s.token.PaidTo (Text.lower books.address) s'.token
  asset : s'.asset? = s.asset? ∨ ∃ p p', s.asset? = some p ∧ s'.asset? = some p' ∧
    (action = .deposit ∧ TookAssetIn step s p p' ∨ action = .rebase ∧ RebasedInVain step e p p')
  units : s'.units = s.units
  backing : s'.backing = s.backing

theorem LeftBy.refl : s.LeftBy action step e s where
  ledger := rfl
  reserve := Or.inl rfl
  rewards _ := Or.inl rfl
  asset := Or.inl rfl
  units := rfl
  backing := rfl

structure BacksOut (s : Scenario) (e : Fault) (s' : Scenario) : Prop where
  token : s.token.BacksOut e s'.token
  asset : s'.asset? = s.asset?
  vault : s'.vault = s.vault
  backing : s'.backing = s.backing

theorem BacksOut.refl : s.BacksOut e s where
  token := DepositToken.BacksOut.refl s.token e
  asset := rfl
  vault := rfl
  backing := rfl

theorem units_congr (h : s'.vault = s.vault) : s'.units = s.units := by
  unfold units
  rw [h]

theorem BacksOut.leftBy (h : s.BacksOut e s') : s.LeftBy action step e s' where
  ledger := h.token.ledger
  reserve := Or.inl h.token.reserve
  rewards hplain := Or.inl (h.token.rewards hplain)
  asset := Or.inl h.asset
  units := units_congr h.vault
  backing := h.backing

theorem BacksOut.of_keeps {t : DepositToken} (h : s.token.Keeps (· = s.token.rewards) t)
    (hpool : t.model.livePool = s.token.model.livePool) : s.BacksOut e { s with token := t } where
  token := h.backsOut e
  asset := asset?_congr hpool
  vault := rfl
  backing := rfl

theorem backsOut_onToken {m : Act DepositToken α} {answered : α → DepositToken → Prop}
    (hm : m.Leaves s.token answered (fun e t => s.token.BacksOut e t))
    (hover : ∀ c, Act.Stable (DepositToken.IsOver c) m) :
    (onToken m).Leaves s (fun a s' => answered a s'.token ∧ s'.asset? = s.asset?)
      (fun e s' => s.BacksOut e s') := by
  unfold onToken
  rw [Act.leaves_within]
  apply (hm.and ((hover s.token.model.livePool).leaves rfl)).mono
  · intro _ t h
    exact ⟨h.left, asset?_congr h.right⟩
  · intro _ t h
    exact ⟨h.left, asset?_congr h.right, rfl, rfl⟩

theorem leftBy_onToken {m : Act DepositToken α} {answered : α → DepositToken → Prop}
    (hm : m.Leaves s.token answered (fun e t => s.token.BacksOut e t))
    (hover : ∀ c, Act.Stable (DepositToken.IsOver c) m) :
    (onToken m).Leaves s (fun _ _ => True) (fun e s' => s.LeftBy action step e s') :=
  (backsOut_onToken hm hover).mono (fun _ _ _ => trivial) (fun _ _ h => h.leftBy)

/-!
# Steps of one call
-/

theorem leftBy_transfer (hs : s.Ready) :
    (transfer step).Leaves s (fun _ _ => True) (fun e s' => s.LeftBy .transfer step e s') := by
  unfold transfer
  rw [Act.leaves_bind, Act.leaves_current]
  apply Act.leaves_bind_faulty fun _ => LeftBy.refl
  intro sender _
  apply Act.leaves_bind_faulty fun _ => LeftBy.refl
  intro recipient _
  apply Act.leaves_bind_faulty fun _ => LeftBy.refl
  intro amount _
  exact leftBy_onToken (DepositToken.backsOut_transfer hs.token.steady)
    fun _ => DepositToken.stable_transfer

theorem leftBy_liquidate (hs : s.Ready) :
    (liquidate step).Leaves s (fun _ _ => True) (fun e s' => s.LeftBy .liquidate step e s') := by
  unfold liquidate
  rw [Act.leaves_bind, Act.leaves_current]
  apply Act.leaves_bind_faulty fun _ => LeftBy.refl
  intro sender _
  apply Act.leaves_bind_faulty fun _ => LeftBy.refl
  intro recipient _
  apply Act.leaves_bind_faulty fun _ => LeftBy.refl
  intro amount _
  exact leftBy_onToken (DepositToken.backsOut_transferOnLiquidation hs.token.steady)
    fun _ => DepositToken.stable_transferOnLiquidation

theorem leftBy_distribute (hs : s.Ready) :
    (distribute step).Leaves s (fun _ _ => True) (fun e s' => s.LeftBy .distribute step e s') := by
  unfold distribute
  rw [Act.leaves_bind, Act.leaves_current]
  apply Act.leaves_bind_faulty fun _ => LeftBy.refl
  intro token _
  apply Act.leaves_bind_faulty fun _ => LeftBy.refl
  intro amount _
  exact leftBy_onToken (DepositToken.backsOut_distributeRewards hs.token.steady)
    fun _ => DepositToken.stable_distributeRewards

theorem leftBy_claim (hs : s.Ready) :
    (claim step).Leaves s (fun _ _ => True) (fun e s' => s.LeftBy .claim step e s') := by
  unfold claim
  apply Act.leaves_bind_faulty fun _ => LeftBy.refl
  intro holder _
  apply Act.leaves_bind_faulty fun _ => LeftBy.refl
  intro token _
  exact leftBy_onToken (DepositToken.backsOut_claim hs.token.steady)
    fun _ => DepositToken.stable_claim

theorem leftBy_sweepDust (hs : s.Ready) :
    sweepDust.Leaves s (fun _ _ => True) (fun e s' => s.LeftBy .sweepDust step e s') := by
  unfold sweepDust
  rw [Act.leaves_bind, Act.leaves_current]
  exact leftBy_onToken (DustSweeper.backsOut_sweep hs.token.steady) fun _ =>
    DustSweeper.stable_sweep DepositToken.stable_totalSupply fun _ _ =>
      DepositToken.stable_mintToTreasury

/-!
# Steps that book backing
-/

theorem leaves_addBacking {amount : Int} :
    (addBacking amount).Leaves s (fun _ _ => True) (fun _ _ => False) := by
  unfold addBacking
  rw [Act.leaves_ite]
  refine ⟨fun _ => trivial, fun hpos => ?_⟩
  rw [Act.leaves_bind, Act.leaves_current, Act.leaves_ite]
  constructor
  · intro hasset
    rcases Option.isSome_iff_exists.mp hasset with ⟨p, hp⟩
    rw [Act.leaves_bind, leaves_onAsset hp]
    apply SharePool.leaves_submit.mono (fun _ _ _ => trivial)
    intro _ _ h
    exact h.left (not_le.mp hpos)
  · intro _
    trivial

theorem leftBy_flashLoan :
    (flashLoan step).Leaves s (fun _ _ => True) (fun e s' => s.LeftBy .flashLoan step e s') := by
  unfold flashLoan
  rw [Act.leaves_bind, Act.leaves_current]
  apply Act.leaves_bind_faulty fun _ => LeftBy.refl
  intro premium _
  rw [Act.leaves_bind]
  apply (backsOut_onToken DepositToken.backsOut_injectFlashLoanPremium
    fun _ => DepositToken.stable_injectFlashLoanPremium).mono
  · intro index s' _
    rw [Act.leaves_bind]
    exact leaves_addBacking.mono (fun _ _ _ => trivial) (fun _ _ h => h.elim)
  · intro _ _ h
    exact h.leftBy

theorem leftBy_withdraw (hs : s.Ready) :
    (withdraw step).Leaves s (fun _ _ => True) (fun e s' => s.LeftBy .withdraw step e s') := by
  unfold withdraw
  rw [Act.leaves_bind, Act.leaves_current]
  apply Act.leaves_bind_faulty fun _ => LeftBy.refl
  intro holder _
  apply Act.leaves_bind_faulty fun _ => LeftBy.refl
  intro receiver _
  apply Act.leaves_bind_faulty fun _ => LeftBy.refl
  intro amount _
  rw [Act.leaves_bind]
  apply (backsOut_onToken (DepositToken.backsOut_burn hs.token.steady)
    fun _ => DepositToken.stable_burn).mono
  · intro burned s₁ h
    rcases h with ⟨hpass, hasset⟩
    rw [Act.leaves_bind, Act.leaves_current]
    cases hpool : s₁.asset? with
    | none => trivial
    | some p =>
        rcases DepositToken.exists_rate_of_pins (DepositToken.pins_of_poolPass hpass)
          (livePool_of_asset (hasset.symm.trans hpool)) hs.token.steady.unpinned with ⟨rate, hrate⟩
        dsimp only
        rw [Act.leaves_bind, leaves_onAsset hpool]
        exact (SharePool.leaves_transfer_of_balance hrate.left hrate.right
          (min_le_right _ _)).mono (fun _ _ _ => trivial) (fun _ _ h => h.elim)
  · intro _ _ h
    exact h.leftBy

theorem leftBy_accrue (hs : s.Ready) :
    (accrue step).Leaves s (fun _ _ => True) (fun e s' => s.LeftBy .accrue step e s') := by
  unfold accrue
  apply Act.leaves_bind_faulty fun _ => LeftBy.refl
  intro multiplier _
  apply Act.leaves_bind_faulty fun _ => LeftBy.refl
  intro index _
  unfold onToken
  rw [Act.leaves_bind, Act.leaves_within]
  apply (DepositToken.leaves_totalSupply_ready hs.token).mono
  · intro before t₁ h
    rcases h with ⟨hkeeps, hpool, scaled, hscaled⟩
    have hready : t₁.Ready := hs.token.of_keeps hkeeps hpool
    rw [Act.leaves_bind, Act.leaves_within]
    apply (DepositToken.leaves_raise_ready hready).mono
    · intro _ t₂ h
      rcases h with ⟨hready', hindex, hmodel, hrewards⟩
      rw [Act.leaves_bind, Act.leaves_within]
      apply (DepositToken.leaves_totalSupply_ready hready').mono
      · intro after t₃ _
        rw [Act.leaves_bind]
        exact leaves_addBacking.mono (fun _ _ _ => trivial) (fun _ _ h => h.elim)
      · intro e t₃ h
        rcases h with ⟨hkeeps', hpool', hoverflow⟩
        have hscaled' : t₂.model.Measures scaled :=
          hscaled.congr (hmodel ▸ hkeeps.ledger) (hmodel ▸ hpool)
        refine ⟨?_, Or.inr ⟨rfl, hoverflow scaled hscaled' hindex.le⟩, fun _ => Or.inl ?_,
          Or.inl (asset?_congr ?_), rfl, rfl⟩
        · exact hkeeps'.ledger.trans (hmodel ▸ hkeeps.ledger)
        · exact hkeeps'.rewards.trans (hrewards.trans hkeeps.rewards)
        · exact hpool'.trans (hmodel ▸ hpool)
    · intro e t₂ h
      rw [h]
      exact (BacksOut.of_keeps hkeeps hpool).leftBy
  · intro e t₁ h
    rcases h with ⟨hkeeps, hpool, _⟩
    exact (BacksOut.of_keeps hkeeps hpool).leftBy

/-!
# Steps that move the asset
-/

theorem BacksOut.leftBy_withPool (hp : s.asset? = some p)
    (hpool : action = .deposit ∧ TookAssetIn step s p p' ∨
      action = .rebase ∧ RebasedInVain step e p p')
    (h : (s.withPool p').BacksOut e s') : s.LeftBy action step e s' := by
  have hkeeps := (s.token.changes_withAsset (.pool p')).trans_backsOut h.token
  exact ⟨hkeeps.ledger, Or.inl hkeeps.reserve, fun hplain => Or.inl (hkeeps.rewards hplain),
    Or.inr ⟨p, p', hp, h.asset.trans (asset?_withPool hp p'), hpool⟩, units_congr h.vault,
    h.backing⟩

theorem leaves_rebase {fraction : Numeral} :
    (SharePool.rebase fraction).Leaves p (fun _ _ => True)
      (fun e p' => p' = p ∨ ∃ delta r, p.rebaseDelta fraction = .ok delta ∧
        p' = { p with totalPooled := p.totalPooled + delta, rebaseCount := p.rebaseCount + 1 } ∧
        p'.exchangeRate = .error r ∧ e = .ofRefusal r) := by
  unfold SharePool.rebase
  rw [Act.leaves_bind, Act.leaves_current]
  refine Act.leaves_bind_faulty (fun _ => Or.inl rfl) ?_
  intro wipesOut _
  rw [Act.leaves_ite]
  refine ⟨fun _ => Or.inl rfl, fun _ => ?_⟩
  refine Act.leaves_bind_faulty (fun _ => Or.inl rfl) ?_
  intro delta hdelta
  dsimp only
  rw [Act.leaves_bind, Act.leaves_replace, Act.leaves_bind, Act.leaves_refusable]
  constructor
  · intro rate _
    trivial
  · intro r hr
    cases hvalue : p.rebaseDelta fraction with
    | ok d =>
        rw [hvalue] at hdelta
        cases hdelta
        exact Or.inr ⟨_, r, rfl, rfl, hr, rfl⟩
    | error f =>
        rw [hvalue] at hdelta
        cases hdelta

theorem leftBy_rebase :
    (rebase step).Leaves s (fun _ _ => True) (fun e s' => s.LeftBy .rebase step e s') := by
  unfold rebase
  rw [Act.leaves_bind, Act.leaves_current, Act.leaves_ite]
  refine ⟨fun _ => LeftBy.refl, fun hasset => ?_⟩
  apply Act.leaves_bind_faulty fun _ => LeftBy.refl
  intro fraction hfraction
  rcases Option.ne_none_iff_exists'.mp (mt Option.isNone_iff_eq_none.mpr hasset) with ⟨p, hp⟩
  rw [leaves_onAsset hp]
  apply leaves_rebase.mono (fun _ _ h => h)
  intro e p' h
  rcases h with rfl | ⟨delta, r, hdelta, hpool, hrate, he⟩
  · rw [withPool_self hp]
    exact LeftBy.refl
  · exact BacksOut.refl.leftBy_withPool hp
      (Or.inr ⟨rfl, fraction, delta, r, hfraction, hdelta, hpool, hrate, he⟩)

theorem leftBy_deposit (hs : s.Ready) :
    (deposit step).Leaves s (fun _ _ => True) (fun e s' => s.LeftBy .deposit step e s') := by
  -- what follows the legs of the asset
  have hmint : ∀ (s₁ : Scenario) (caller holder : String) (amount index : Int), s₁.Ready →
      (do
        let first ← onToken (DepositToken.mint caller holder amount index)
        if s.asset?.isNone then
          Act.update fun s => { s with backing := s.backing + amount }
        return first : Act Scenario Bool).Leaves s₁ (fun _ _ => True)
        (fun e s' => s₁.BacksOut e s') := by
    intro s₁ caller holder amount index hs₁
    rw [Act.leaves_bind]
    apply (backsOut_onToken (DepositToken.backsOut_mint hs₁.token.steady)
      fun _ => DepositToken.stable_mint).mono
    · intro first s₂ _
      rw [Act.leaves_ite]
      exact ⟨fun _ => trivial, fun _ => trivial⟩
    · intro _ _ h
      exact h
  unfold deposit
  rw [Act.leaves_bind, Act.leaves_current]
  apply Act.leaves_bind_faulty fun _ => LeftBy.refl
  intro holder hholder
  apply Act.leaves_bind_faulty fun _ => LeftBy.refl
  intro amount hamount
  rw [Act.leaves_ite]
  constructor
  · intro hasset
    rcases Option.isSome_iff_exists.mp hasset with ⟨p, hp⟩
    rw [Act.leaves_bind, leaves_onAsset hp]
    apply SharePool.leaves_submit.mono
    · intro _ p₁ h
      rcases h with ⟨hpositive, rfl⟩
      rw [Act.leaves_bind, leaves_onAsset (asset?_withPool hp _)]
      apply Act.leaves_of_run
      · intro moved p₂ hrun
        rw [withPool_withPool]
        apply (hmint (s.withPool p₂) _ _ _ _ (hs.withPool p₂)).mono (fun _ _ h => h)
        intro _ _ h
        exact h.leftBy_withPool hp
          (Or.inl ⟨rfl, holder, amount, hholder, hamount, hpositive, Or.inr ⟨moved, hrun⟩⟩)
      · intro e p₂ hrun
        rw [(SharePool.leaves_transfer.of_error hrun).left, withPool_withPool]
        exact BacksOut.refl.leftBy_withPool hp
          (Or.inl ⟨rfl, holder, amount, hholder, hamount, hpositive, Or.inl rfl⟩)
    · intro _ p₁ h
      rw [h.right, withPool_self hp]
      exact LeftBy.refl
  · intro _
    exact (hmint s _ _ _ _ hs).mono (fun _ _ h => h) (fun _ _ h => h.leftBy)

/-!
# Steps through the vault
-/

theorem units_vaultBooks {books : VaultBooks} (h : s.vaultBooks = .ok books) :
    books.balances = s.units := by
  unfold vaultBooks at h
  unfold units
  cases hvault : s.vault with
  | some opened =>
      rw [hvault] at h
      cases h
      rfl
  | none =>
      rw [hvault] at h
      unfold StaticVault.open? at h
      dsimp only at h
      split at h
      · cases h
      · cases h
        rfl

theorem LeftBy.of_opened {books : VaultBooks} (h : s.vaultBooks = .ok books) :
    LeftBy action step e s { s with vault := some books } where
  ledger := rfl
  reserve := Or.inl rfl
  rewards _ := Or.inl rfl
  asset := Or.inl rfl
  units := units_vaultBooks h
  backing := rfl

theorem leftBy_onVault {m : Act StaticVault α} {books : VaultBooks} (hs : s.Ready)
    (hvault : action.usesVault = true) (hbooks : s.vaultBooks = .ok books)
    (hm : ∀ v : StaticVault, v.Over books.address DepositToken.Steady →
      m.Leaves v (fun _ _ => True) (fun e v' => v.BacksOut e v'))
    (hover : ∀ c, Act.Stable (StaticVault.Over books.address (DepositToken.IsOver c)) m) :
    (onVault m).Leaves { s with vault := some books } (fun _ _ => True)
      (fun e s' => s.LeftBy action step e s') := by
  have hunits := sound_vaultBooks hs.units hbooks
  have hsteady : StaticVault.Over books.address DepositToken.Steady ⟨s.token, books⟩ :=
    ⟨rfl, hs.token.steady, hunits⟩
  have hpool : StaticVault.Over books.address (DepositToken.IsOver s.token.model.livePool)
      ⟨s.token, books⟩ := ⟨rfl, rfl, hunits⟩
  rw [leaves_onVault rfl]
  apply ((hm _ hsteady).and ((hover _).leaves hpool)).mono (fun _ _ _ => trivial)
  intro e v h
  rcases h with ⟨hback, hpool'⟩
  refine ⟨hback.quiet.token.ledger, Or.inl hback.quiet.token.reserve, ?_,
    Or.inl (asset?_congr hpool'.token), ?_, rfl⟩
  · intro hplain
    refine Or.inr ⟨hvault, v.books, rfl, ?_⟩
    rw [hback.quiet.address]
    exact hback.rewards hplain
  · exact hback.quiet.balances.trans (units_vaultBooks hbooks)

theorem leftBy_openVault {m : Act Scenario α}
    (hm : ∀ books, s.vaultBooks = .ok books → m.Leaves { s with vault := some books }
      (fun _ _ => True) (fun e s' => s.LeftBy action step e s')) :
    (do
      openVault
      m : Act Scenario α).Leaves s (fun _ _ => True) (fun e s' => s.LeftBy action step e s') := by
  rw [Act.leaves_bind]
  apply leaves_openVault.mono
  · intro _ s₁ h
    rcases h with ⟨books, hbooks, rfl⟩
    exact hm books hbooks
  · intro _ s₁ h
    rw [h]
    exact LeftBy.refl

theorem leftBy_wrap (hs : s.Ready) :
    (wrap step).Leaves s (fun _ _ => True) (fun e s' => s.LeftBy .wrap step e s') := by
  unfold wrap
  apply Act.leaves_bind_faulty fun _ => LeftBy.refl
  intro holder _
  apply leftBy_openVault
  intro books hbooks
  rw [Act.leaves_bind, Act.leaves_current]
  apply Act.leaves_bind_faulty fun _ => LeftBy.of_opened hbooks
  intro amount _
  exact leftBy_onVault hs rfl hbooks (fun _ hv => StaticVault.backsOut_deposit hv)
    fun c => StaticVault.stable_deposit (DepositToken.lasting_isOver c)

theorem leftBy_unwrap (hs : s.Ready) :
    (unwrap step).Leaves s (fun _ _ => True) (fun e s' => s.LeftBy .unwrap step e s') := by
  unfold unwrap
  apply Act.leaves_bind_faulty fun _ => LeftBy.refl
  intro holder _
  apply leftBy_openVault
  intro books hbooks
  rw [Act.leaves_bind, Act.leaves_current]
  apply Act.leaves_bind_faulty fun _ => LeftBy.of_opened hbooks
  intro amount _
  rw [Act.leaves_ite]
  constructor
  · intro _
    exact leftBy_onVault hs rfl hbooks (fun _ hv => StaticVault.backsOut_withdraw hv)
      fun c => StaticVault.stable_withdraw (DepositToken.lasting_isOver c)
  · intro _
    exact leftBy_onVault hs rfl hbooks (fun _ hv => StaticVault.backsOut_withdrawValue hv)
      fun c => StaticVault.stable_withdrawValue (DepositToken.lasting_isOver c)

theorem leftBy_claimStatic (hs : s.Ready) :
    (claimStatic step).Leaves s (fun _ _ => True) (fun e s' => s.LeftBy .claimStatic step e s') := by
  unfold claimStatic
  apply leftBy_openVault
  intro books hbooks
  apply Act.leaves_bind_faulty fun _ => LeftBy.of_opened hbooks
  intro holder _
  apply Act.leaves_bind_faulty fun _ => LeftBy.of_opened hbooks
  intro token _
  exact leftBy_onVault hs rfl hbooks (fun _ hv => StaticVault.backsOut_claimRewards hv)
    fun c => StaticVault.stable_claimRewards fun _ => (DepositToken.lasting_isOver c).claim _ _

/-!
# All steps
-/

theorem leftBy_perform (hs : s.Ready) (action : Action) :
    (perform action step).Leaves s (fun _ _ => True) (fun e s' => s.LeftBy action step e s') := by
  unfold perform
  cases action <;> dsimp only
  case distribute => exact leftBy_distribute hs
  all_goals rw [Act.leaves_bind]
  case deposit => exact leftBy_deposit hs
  case withdraw => exact leftBy_withdraw hs
  case transfer => exact leftBy_transfer hs
  case liquidate => exact leftBy_liquidate hs
  case accrue => exact leftBy_accrue hs
  case rebase => exact leftBy_rebase
  case flashLoan => exact leftBy_flashLoan
  case claim => exact leftBy_claim hs
  case wrap => exact leftBy_wrap hs
  case unwrap => exact leftBy_unwrap hs
  case claimStatic => exact leftBy_claimStatic hs
  case sweepDust => exact leftBy_sweepDust hs

theorem leaves_conclude {number : Int} {expected : Option Document} {m : Act Scenario Document}
    {failed : Fault → Scenario → Prop} (hm : m.Leaves s (fun _ _ => True) failed) :
    (conclude number action expected m).Leaves s
      (fun r s' => r.ok = true ∨ ∃ refusal, isExpected expected refusal = true ∧
        r.action = action.name ∧ r.error = refusal.kind.name ∧ failed (.refused refusal) s')
      (fun _ _ => True) := by
  unfold Act.Leaves Act.run at hm
  unfold Act.Leaves Act.run conclude
  dsimp only at hm ⊢
  cases houtcome : (m s).outcome with
  | ok d =>
      cases expected with
      | none => exact Or.inl rfl
      | some _ => trivial
  | error e =>
      rw [houtcome] at hm
      cases e with
      | refused refusal =>
          dsimp only
          by_cases hexpected : isExpected expected refusal = true
          · rw [if_pos hexpected]
            exact Or.inr ⟨refusal, hexpected, rfl, rfl, hm⟩
          · rw [if_neg hexpected]
            trivial
      | _ => trivial

/-- What a step leaves that is recorded as an expected failure. -/
theorem expected_failure_leaves (hs : s.Reachable) {number : Int} {r : StepResult}
    (hrun : Act.run (execute number step) s = (.ok r, s')) (hfailed : r.ok = false) :
    ∃ action refusal, r.action = action.name ∧ r.error = refusal.kind.name ∧
      isExpected (expectation step) refusal = true ∧ s.LeftBy action step (.refused refusal) s' := by
  have hexecute : (execute number step).Leaves s
      (fun r s' => r.ok = true ∨ ∃ (action : Action) (refusal : Refusal),
        r.action = action.name ∧ r.error = refusal.kind.name ∧
        isExpected (expectation step) refusal = true ∧
        s.LeftBy action step (.refused refusal) s')
      (fun _ _ => True) := by
    unfold execute
    split
    · trivial
    · apply Act.leaves_bind_faulty fun _ => trivial
      intro name _
      split
      · trivial
      · next action _ =>
          apply (leaves_conclude (leftBy_perform hs.ready action)).mono
          · intro r s' h
            rcases h with hok | ⟨refusal, hexpected, haction, herror, hleft⟩
            · exact Or.inl hok
            · exact Or.inr ⟨action, refusal, haction, herror, hexpected, hleft⟩
          · intro _ _ h
            exact h
  rcases hexecute.of_ok hrun with hok | h
  · rw [hfailed] at hok
    cases hok
  · exact h

/-- A wei buys no share of the token, but the asset has taken it in already. -/
theorem expected_failure_leaves_wei :
    let description : Document :=
      .record [("reserve", .record [("asset", .text "stETH"), ("rebasing", .bool true)])]
    let deposit (holder amount : String) : List (String × Document) :=
      [("action", .text "deposit"), ("holder", .text holder), ("amount", .text amount)]
    let steps : List (Int × Document) :=
      [(1, .record (deposit "alice" "1")),
        (2, .record [("action", .text "rebase"), ("fraction", .text "2")])]
    let wei : Document := .record
      (deposit "bob" "0.000000000000000001" ++ [("expect_error", .text "InvalidMintAmountError")])
    ∃ start s s' r, (setUp .defaults "dust" description).outcome = .ok start ∧
      s = start.afterSteps steps ∧ Act.run (execute 3 wei) s = (.ok r, s') ∧ r.ok = false ∧
      s.asset?.map SharePool.totalPooled = some 3000000000000000000 ∧
      s'.asset?.map SharePool.totalPooled = some 3000000000000000001 ∧
      ∃ action refusal, r.action = action.name ∧ r.error = refusal.kind.name ∧
        isExpected (expectation wei) refusal = true ∧
        s.LeftBy action wei (.refused refusal) s' := by
  intro description deposit steps wei
  let start := (setUp .defaults "dust" description).outcome.toOption.getD default
  let s := start.afterSteps steps
  let s' := (Act.run (execute 3 wei) s).2
  let r := (Act.run (execute 3 wei) s).1.toOption.getD default
  have hstart : (setUp .defaults "dust" description).outcome = .ok start :=
    Act.eq_ok_getD (by decide +kernel)
  have hrun : Act.run (execute 3 wei) s = (.ok r, s') :=
    Prod.ext (Act.eq_ok_getD (by decide +kernel)) rfl
  have hfailed : r.ok = false := by decide +kernel
  have hbefore : s.asset?.map SharePool.totalPooled = some 3000000000000000000 := by decide +kernel
  have hafter : s'.asset?.map SharePool.totalPooled = some 3000000000000000001 := by decide +kernel
  have hreachable : s.Reachable := ⟨.defaults, "dust", description, start, steps, hstart, rfl⟩
  have hleft := expected_failure_leaves hreachable hrun hfailed
  exact ⟨start, s, s', r, hstart, rfl, hrun, hfailed, hbefore, hafter, hleft⟩

end Scenario
end ReserveAccounting
