import ReserveAccounting.Proofs.AssetLegs
import ReserveAccounting.Proofs.BurnedAmounts
import ReserveAccounting.Proofs.RefusedVaultCalls
import ReserveAccounting.Proofs.VaultPayoutRuns
import ReserveAccounting.Scenario.Step

/-!
# Scenarios under their steps

A scenario is set up with a fresh token. Whatever its steps do, and whatever
comes of them, what all calls of the token keep is kept, and the units of the
vault stay sound. So the token stays steady, and a rebasing reserve stays over a
pool.
-/

namespace ReserveAccounting

open FixedPoint

/-!
# Tokens of a scenario
-/

namespace DepositToken

variable {s : DepositToken} {α : Type}

structure Ready (s : DepositToken) : Prop where
  steady : s.Steady
  live : s.model.IsLive

theorem ready_of {m : Act DepositToken α} (h : Act.Stable Steady m)
    (hover : ∀ c, Act.Stable (IsOver c) m) : Act.Stable Ready m := by
  constructor
  intro s hs
  refine ⟨h.after s hs.steady, ?_⟩
  unfold BalanceModel.IsLive
  rw [(hover _).after s rfl]
  exact hs.live

theorem stable_distributeRewards {c : Option (Option SharePool)} {token : String} {amount : Int} :
    Act.Stable (IsOver c) (distributeRewards token amount) := by
  unfold distributeRewards
  apply Act.Stable.bind Act.Stable.current
  intro s
  exact stable_onRewards

/-- A property of tokens that every call of a scenario on its token keeps. -/
structure Enduring (q : DepositToken → Prop) : Prop extends Lasting q where
  totalSupply : Act.Stable q totalSupply
  raise : ∀ index reason, Act.Stable q (onReserve (ReserveIndex.raise index reason))
  transferOnLiquidation : ∀ caller sender recipient amount,
    Act.Stable q (transferOnLiquidation caller sender recipient amount)
  injectFlashLoanPremium : ∀ caller premium,
    Act.Stable q (injectFlashLoanPremium caller premium)
  mintToTreasury : ∀ caller amount index, Act.Stable q (mintToTreasury caller amount index)
  distributeRewards : ∀ token amount, Act.Stable q (distributeRewards token amount)
  registerRewardToken : ∀ token, Act.Stable q (registerRewardToken token)

/-- A property of tokens that the calls keep, and whatever is done to a pool behind the books. -/
structure Abiding (q : DepositToken → Prop) : Prop extends Enduring q where
  withPool : ∀ (s : DepositToken) (p : SharePool), q s →
    q { s with model := s.model.withAsset (.pool p) }

theorem Abiding.of_calls {q : DepositToken → Prop}
    (hcalls : ∀ (c : TokenCall) s, q s → q (c.after s))
    (hreading : ∀ s s', q s → s.Keeps (· = s.rewards) s' → q s') : Abiding q where
  toLasting := Lasting.of_calls hcalls hreading
  totalSupply := stable_of_reading hreading fun _ => keeps_totalSupply
  raise index reason := stable_of_call hcalls (.raiseIndex index reason) rfl
  transferOnLiquidation caller sender recipient amount :=
    stable_of_call hcalls (.transferOnLiquidation caller sender recipient amount) rfl
  injectFlashLoanPremium caller premium :=
    stable_of_call hcalls (.injectFlashLoanPremium caller premium) rfl
  mintToTreasury caller amount index :=
    stable_of_call hcalls (.mintToTreasury caller amount index) rfl
  distributeRewards token amount := stable_of_call hcalls (.distributeRewards token amount) rfl
  registerRewardToken token := stable_of_call hcalls (.registerRewardToken token) rfl
  withPool s p := hcalls (.moveAsset (.pool p)) s

theorem abiding_steady : Abiding Steady :=
  Abiding.of_calls (fun c _ hs => c.steady_after hs) fun _ _ hs h => hs.of_keeps h

theorem Ready.withPool (hs : s.Ready) (p : SharePool) :
    Ready { s with model := s.model.withAsset (.pool p) } where
  steady := TokenCall.steady_after (.moveAsset (.pool p)) hs.steady
  live := by
    intro h
    cases hmodel : s.model with
    | plain l =>
        rw [hmodel] at h
        cases h
    | rebasing w =>
        rw [hmodel] at h
        cases h

theorem abiding_ready : Abiding Ready where
  mint _ _ _ _ := ready_of (abiding_steady.mint _ _ _ _) fun c => (lasting_isOver c).mint _ _ _ _
  burn _ _ _ _ _ :=
    ready_of (abiding_steady.burn _ _ _ _ _) fun c => (lasting_isOver c).burn _ _ _ _ _
  transfer _ _ _ :=
    ready_of (abiding_steady.transfer _ _ _) fun c => (lasting_isOver c).transfer _ _ _
  claim _ _ := ready_of (abiding_steady.claim _ _) fun c => (lasting_isOver c).claim _ _
  balanceOf _ := ready_of (abiding_steady.balanceOf _) fun c => (lasting_isOver c).balanceOf _
  readRate := ready_of abiding_steady.readRate fun c => (lasting_isOver c).readRate
  totalSupply := ready_of abiding_steady.totalSupply fun _ => stable_totalSupply
  raise _ _ := ready_of (abiding_steady.raise _ _) fun _ => stable_onReserve
  transferOnLiquidation _ _ _ _ :=
    ready_of (abiding_steady.transferOnLiquidation _ _ _ _) fun _ => stable_transferOnLiquidation
  injectFlashLoanPremium _ _ :=
    ready_of (abiding_steady.injectFlashLoanPremium _ _) fun _ => stable_injectFlashLoanPremium
  mintToTreasury _ _ _ :=
    ready_of (abiding_steady.mintToTreasury _ _ _) fun _ => stable_mintToTreasury
  distributeRewards _ _ :=
    ready_of (abiding_steady.distributeRewards _ _) fun _ => stable_distributeRewards
  registerRewardToken _ := ready_of (abiding_steady.registerRewardToken _) fun _ => stable_onRewards
  withPool _ p hs := hs.withPool p

end DepositToken

namespace DustSweeper

variable {σ α : Type} {sweeper : DustSweeper} {caller : String} {backing : Int}

theorem stable_orTooSmall {p : σ → Prop} {m : Act σ α} (hm : Act.Stable p m) :
    Act.Stable p (orTooSmall m) := by
  constructor
  intro s hs
  have hafter : p (m s).state := hm.after s hs
  unfold Act.run orTooSmall
  dsimp only
  split
  · exact hafter
  · split <;> exact hafter
  · exact hafter

theorem stable_measure {q : DepositToken → Prop} (hsupply : Act.Stable q DepositToken.totalSupply) :
    Act.Stable q (sweeper.measure backing) := by
  unfold measure
  apply Act.Stable.bind hsupply
  intro supply
  apply Act.Stable.bind Act.Stable.current
  intro t
  apply Act.Stable.ite
  · apply Act.Stable.bind (Act.Stable.note _)
    intro _
    exact Act.Stable.pure _
  · exact Act.Stable.pure _

theorem stable_sweep {q : DepositToken → Prop} (hsupply : Act.Stable q DepositToken.totalSupply)
    (hmint : ∀ amount index, Act.Stable q (DepositToken.mintToTreasury caller amount index)) :
    Act.Stable q (sweeper.sweep caller backing) := by
  unfold sweep
  apply Act.Stable.bind (stable_measure hsupply)
  intro report
  apply Act.Stable.ite (Act.Stable.pure _)
  apply Act.Stable.bind Act.Stable.current
  intro t
  apply Act.Stable.bind (stable_orTooSmall (hmint _ _))
  intro minted
  split
  · exact (Act.Stable.note _).bind fun _ => Act.Stable.pure _
  · exact (Act.Stable.note _).bind fun _ => Act.Stable.pure _

end DustSweeper

/-!
# Steps
-/

namespace Scenario

variable {s : Scenario} {p : SharePool} {step : Document} {α : Type}
  {q : DepositToken → Prop} {k : Int → Prop}

structure Over (q : DepositToken → Prop) (k : Int → Prop) (s : Scenario) : Prop where
  token : q s.token
  units : ∀ books, s.vault = some books → books.balances.Sound
  backing : k s.backing

theorem stable_onToken {m : Act DepositToken α} (hm : Act.Stable q m) :
    Act.Stable (Over q k) (onToken m) :=
  Act.Stable.within (fun _ h => h.token) (fun _ _ h ht => ⟨ht, h.units, h.backing⟩) hm

theorem leaves_onAsset_of_none {m : Act SharePool α} (hasset : s.asset? = none) :
    (onAsset m).Leaves s (fun _ _ => False) (fun _ s' => s' = s) := by
  unfold onAsset onToken
  rw [Act.leaves_within, DepositToken.leaves_onModel]
  cases hmodel : s.token.model with
  | plain l =>
      rw [BalanceModel.leaves_dispatch_plain, Act.leaves_fail, ← hmodel]
  | rebasing w =>
      have hfeed : w.asset.pool? = none := by
        rw [asset?_eq, hmodel] at hasset
        exact hasset
      rw [BalanceModel.leaves_dispatch_rebasing]
      unfold RebasingLedger.onAsset
      rw [Act.leaves_within]
      cases hw : w.asset with
      | pool p =>
          rw [hw] at hfeed
          cases hfeed
      | feed f =>
          unfold Act.Leaves Act.run ReserveAsset.onPool
          dsimp only
          rw [← hw, ← hmodel]

theorem leaves_onAsset_of {m : Act SharePool α} :
    (onAsset m).Leaves s (fun _ s' => ∃ p, s' = s.withPool p)
      (fun _ s' => s' = s ∨ ∃ p, s' = s.withPool p) := by
  cases hasset : s.asset? with
  | some p =>
      rw [leaves_onAsset hasset]
      exact Act.leaves_of_run (fun _ p' _ => ⟨p', rfl⟩) (fun _ p' _ => Or.inr ⟨p', rfl⟩)
  | none =>
      exact (leaves_onAsset_of_none hasset).mono (fun _ _ h => h.elim) (fun _ _ h => Or.inl h)

theorem Over.withPool (hq : DepositToken.Abiding q) (hs : s.Over q k) (p : SharePool) :
    (s.withPool p).Over q k :=
  ⟨hq.withPool _ _ hs.token, hs.units, hs.backing⟩

theorem stable_onAsset (hq : DepositToken.Abiding q) {m : Act SharePool α} :
    Act.Stable (Over q k) (onAsset m) := by
  apply Act.Stable.of_leaves
  intro s hs
  apply leaves_onAsset_of.mono
  · intro _ s' h
    rcases h with ⟨p, rfl⟩
    exact hs.withPool hq p
  · intro _ s' h
    rcases h with rfl | ⟨p, rfl⟩
    · exact hs
    · exact hs.withPool hq p

theorem leaves_onVault {m : Act StaticVault α} {books : VaultBooks} (h : s.vault = some books)
    {answered : α → Scenario → Prop} {failed : Fault → Scenario → Prop} :
    (onVault m).Leaves s answered failed ↔
      m.Leaves ⟨s.token, books⟩
        (fun a v => answered a { s with token := v.token, vault := some v.books })
        (fun e v => failed e { s with token := v.token, vault := some v.books }) := by
  apply Act.leaves_embed
  unfold onVault
  rw [h]

theorem stable_onVault {m : Act StaticVault α}
    (hm : ∀ address, Act.Stable (StaticVault.Over address q) m) :
    Act.Stable (Over q k) (onVault m) := by
  apply Act.Stable.of_leaves
  intro s hs
  cases hvault : s.vault with
  | none =>
      unfold Act.Leaves Act.run onVault
      rw [hvault]
      exact hs
  | some books =>
      rw [leaves_onVault hvault]
      have hover : StaticVault.Over books.address q ⟨s.token, books⟩ :=
        ⟨rfl, hs.token, hs.units books hvault⟩
      have hafter : ∀ v : StaticVault, v.Over books.address q →
          Over q k { s with token := v.token, vault := some v.books } := by
        intro v h
        refine ⟨h.token, ?_, hs.backing⟩
        intro books' hbooks
        cases hbooks
        exact h.units
      exact ((hm books.address).leaves hover).mono (fun _ v h => hafter v h)
        (fun _ v h => hafter v h)

theorem sound_vaultBooks {books : VaultBooks}
    (hs : ∀ books, s.vault = some books → books.balances.Sound) (h : s.vaultBooks = .ok books) :
    books.balances.Sound := by
  unfold vaultBooks at h
  split at h
  · next hvault =>
      cases h
      exact hs _ hvault
  · unfold StaticVault.open? at h
    dsimp only at h
    split at h
    · cases h
    · cases h
      exact ShareLedger.sound_empty

theorem leaves_openVault :
    openVault.Leaves s
      (fun _ s' => ∃ books, s.vaultBooks = .ok books ∧ s' = { s with vault := some books })
      (fun _ s' => s' = s) := by
  unfold openVault
  rw [Act.leaves_bind, Act.leaves_current, Act.leaves_bind, Act.leaves_refusable]
  exact ⟨fun books hbooks => ⟨books, hbooks, rfl⟩, fun _ _ => rfl⟩

theorem stable_openVault : Act.Stable (Over q k) openVault := by
  apply Act.Stable.of_leaves
  intro s hs
  apply leaves_openVault.mono
  · intro _ s' h
    rcases h with ⟨books, hbooks, rfl⟩
    refine ⟨hs.token, ?_, hs.backing⟩
    intro books' hbooks'
    cases hbooks'
    exact sound_vaultBooks hs.units hbooks
  · intro _ s' h
    rw [h]
    exact hs

/-- A property that taking in and paying out at the asset keeps. -/
structure Paying (r : Scenario → Prop) : Prop where
  submit : ∀ holder amount, Act.Stable r (onAsset (SharePool.submit holder amount))
  handOn : ∀ sender recipient amount, 0 < amount →
    Act.Stable r (onAsset (SharePool.transfer sender recipient amount))
  payOut : ∀ s p receiver burned, r s → s.asset? = some p → 0 < burned →
    (onAsset (SharePool.transfer s.pool receiver (min burned (p.balanceOf s.pool)))).Leaves s
      (fun _ => r) (fun _ => r)

theorem paying_of_abiding (hq : DepositToken.Abiding q) : Paying (Over q k) where
  submit _ _ := stable_onAsset hq
  handOn _ _ _ _ := stable_onAsset hq
  payOut _ _ _ _ hs _ _ := (stable_onAsset hq).leaves hs

theorem stable_addBacking (hpaying : Paying (Over q k)) (hk : ∀ n, k n) {amount : Int} :
    Act.Stable (Over q k) (addBacking amount) := by
  unfold addBacking
  apply Act.Stable.ite (Act.Stable.pure ())
  apply Act.Stable.of_current
  intro s hs
  apply Act.Stable.ite
  · exact (hpaying.submit _ _).bind fun _ => Act.Stable.pure ()
  · exact ⟨fun _ _ => ⟨hs.token, hs.units, hk _⟩⟩

theorem stable_mintLeg (hmint : ∀ caller holder amount index,
      Act.Stable q (DepositToken.mint caller holder amount index)) (hk : ∀ n, k n)
    (caller holder : String) (amount index : Int) (plain : Bool) : Act.Stable (Over q k) (do
      let first ← onToken (DepositToken.mint caller holder amount index)
      if plain then
        Act.update fun s => { s with backing := s.backing + amount }
      return first : Act Scenario Bool) := by
  apply Act.Stable.bind (stable_onToken (hmint _ _ _ _))
  intro first
  apply Act.Stable.ite
  · refine Act.Stable.bind (Act.Stable.update fun _ h => ?_) fun _ => ?_
    · exact ⟨h.token, h.units, hk _⟩
    · exact Act.Stable.pure first
  · exact Act.Stable.pure first

theorem stable_deposit (hq : DepositToken.Enduring q) (hpaying : Paying (Over q k))
    (hk : ∀ n, k n) : Act.Stable (Over q k) (deposit step) := by
  apply Act.Stable.of_leaves
  intro s hs
  unfold deposit
  rw [Act.leaves_bind, Act.leaves_current]
  apply Act.leaves_bind_faulty fun _ => hs
  intro holder _
  apply Act.leaves_bind_faulty fun _ => hs
  intro amount _
  rw [Act.leaves_ite]
  constructor
  · intro hasset
    rcases Option.isSome_iff_exists.mp hasset with ⟨p, hp⟩
    -- an amount that was taken in is positive
    have htaken : (onAsset (SharePool.submit holder amount)).Leaves s (fun _ _ => 0 < amount)
        (fun _ _ => True) := by
      rw [leaves_onAsset hp]
      exact SharePool.leaves_submit.mono (fun _ _ h => h.left) (fun _ _ _ => trivial)
    rw [Act.leaves_bind]
    apply (((hpaying.submit _ _).leaves hs).and htaken).mono _ fun _ _ h => h.left
    rintro _ s₁ ⟨hs₁, hamount⟩
    exact ((hpaying.handOn _ _ _ hamount).bind fun _ => stable_mintLeg hq.mint hk _ _ _ _ _).leaves
      hs₁
  · intro _
    exact (stable_mintLeg hq.mint hk _ _ _ _ _).leaves hs

theorem stable_withdraw (hq : DepositToken.Enduring q) (hpaying : Paying (Over q k))
    (hk : ∀ n, k n) : Act.Stable (Over q k) (withdraw step) := by
  unfold withdraw
  apply Act.Stable.of_current
  intro s _
  apply Act.Stable.bind (Act.Stable.faulty _)
  intro holder
  apply Act.Stable.bind (Act.Stable.faulty _)
  intro receiver
  apply Act.Stable.bind (Act.Stable.faulty _)
  intro amount
  apply Act.Stable.of_leaves
  intro s₀ hs₀
  rw [Act.leaves_bind]
  have hburn : Act.Stable (Over q k)
      (onToken (DepositToken.burn s.pool holder receiver amount s.token.index)) :=
    stable_onToken (hq.burn _ _ _ _ _)
  have hpositive : Act.Answers (fun burned : Int => 0 < burned)
      (onToken (DepositToken.burn s.pool holder receiver amount s.token.index)) :=
    DepositToken.answers_burn_pos.within
  apply ((hburn.leaves hs₀).and (hpositive s₀)).mono _ fun _ _ h => h.left
  rintro burned s₁ ⟨hs₁, hburned⟩
  rw [Act.leaves_bind, Act.leaves_current]
  cases hasset : s₁.asset? with
  | none => exact ⟨hs₁.token, hs₁.units, hk _⟩
  | some p =>
      rw [Act.leaves_bind]
      exact (hpaying.payOut s₁ p receiver burned hs₁ hasset hburned).mono (fun _ _ h => h)
        (fun _ _ h => h)

theorem stable_transfer (hq : DepositToken.Standing q) : Act.Stable (Over q k) (transfer step) := by
  unfold transfer
  apply Act.Stable.bind Act.Stable.current
  intro s
  apply Act.Stable.bind (Act.Stable.faulty _)
  intro sender
  apply Act.Stable.bind (Act.Stable.faulty _)
  intro recipient
  apply Act.Stable.bind (Act.Stable.faulty _)
  intro amount
  exact stable_onToken (hq.transfer _ _ _)

theorem stable_liquidate (hseize : ∀ caller sender recipient amount,
      Act.Stable q (DepositToken.transferOnLiquidation caller sender recipient amount)) :
    Act.Stable (Over q k) (liquidate step) := by
  unfold liquidate
  apply Act.Stable.bind Act.Stable.current
  intro s
  apply Act.Stable.bind (Act.Stable.faulty _)
  intro sender
  apply Act.Stable.bind (Act.Stable.faulty _)
  intro recipient
  apply Act.Stable.bind (Act.Stable.faulty _)
  intro amount
  exact stable_onToken (hseize _ _ _ _)

theorem stable_accrue (hq : DepositToken.Enduring q) (hpaying : Paying (Over q k))
    (hk : ∀ n, k n) : Act.Stable (Over q k) (accrue step) := by
  unfold accrue
  apply Act.Stable.bind (Act.Stable.faulty _)
  intro multiplier
  apply Act.Stable.bind (Act.Stable.faulty _)
  intro index
  apply Act.Stable.bind (stable_onToken hq.totalSupply)
  intro before
  apply Act.Stable.bind (stable_onToken (hq.raise _ _))
  intro raised
  apply Act.Stable.bind (stable_onToken hq.totalSupply)
  intro after
  exact (stable_addBacking hpaying hk).bind fun _ => Act.Stable.pure raised

theorem stable_rebase {r : Scenario → Prop}
    (hrebase : ∀ fraction, fieldNumeral step "fraction" = .ok fraction →
      Act.Stable r (onAsset (SharePool.rebase fraction))) : Act.Stable r (rebase step) := by
  apply Act.Stable.of_leaves
  intro s hs
  unfold rebase
  rw [Act.leaves_bind, Act.leaves_current, Act.leaves_ite]
  refine ⟨fun _ => hs, fun _ => ?_⟩
  apply Act.leaves_bind_faulty fun _ => hs
  intro fraction hfraction
  exact (hrebase fraction hfraction).leaves hs

theorem stable_flashLoan (hq : DepositToken.Enduring q) (hpaying : Paying (Over q k))
    (hk : ∀ n, k n) : Act.Stable (Over q k) (flashLoan step) := by
  unfold flashLoan
  apply Act.Stable.bind Act.Stable.current
  intro s
  apply Act.Stable.bind (Act.Stable.faulty _)
  intro premium
  apply Act.Stable.bind (stable_onToken (hq.injectFlashLoanPremium _ _))
  intro index
  exact (stable_addBacking hpaying hk).bind fun _ => Act.Stable.pure index

theorem stable_distribute (hdistribute : ∀ token amount,
      Act.Stable q (DepositToken.distributeRewards token amount)) :
    Act.Stable (Over q k) (distribute step) := by
  unfold distribute
  apply Act.Stable.bind Act.Stable.current
  intro s
  apply Act.Stable.bind (Act.Stable.faulty _)
  intro token
  apply Act.Stable.bind (Act.Stable.faulty _)
  intro amount
  exact stable_onToken (hdistribute _ _)

theorem stable_claim (hq : DepositToken.Standing q) : Act.Stable (Over q k) (claim step) := by
  unfold claim
  apply Act.Stable.bind (Act.Stable.faulty _)
  intro holder
  apply Act.Stable.bind (Act.Stable.faulty _)
  intro token
  exact stable_onToken (hq.claim _ _)

theorem stable_wrap (hq : DepositToken.Standing q) : Act.Stable (Over q k) (wrap step) := by
  unfold wrap
  apply Act.Stable.bind (Act.Stable.faulty _)
  intro holder
  apply Act.Stable.bind stable_openVault
  intro _
  apply Act.Stable.bind Act.Stable.current
  intro s
  apply Act.Stable.bind (Act.Stable.faulty _)
  intro amount
  exact stable_onVault fun _ => StaticVault.stable_deposit_of hq nofun

theorem stable_unwrap (hq : DepositToken.Standing q) : Act.Stable (Over q k) (unwrap step) := by
  unfold unwrap
  apply Act.Stable.bind (Act.Stable.faulty _)
  intro holder
  apply Act.Stable.bind stable_openVault
  intro _
  apply Act.Stable.bind Act.Stable.current
  intro s
  apply Act.Stable.bind (Act.Stable.faulty _)
  intro amount
  apply Act.Stable.ite
  · exact stable_onVault fun _ => StaticVault.stable_withdraw_of hq nofun
  · exact stable_onVault fun _ => StaticVault.stable_withdrawValue_of hq nofun

theorem stable_claimStatic (hq : DepositToken.Standing q) :
    Act.Stable (Over q k) (claimStatic step) := by
  unfold claimStatic
  apply Act.Stable.bind stable_openVault
  intro _
  apply Act.Stable.bind (Act.Stable.faulty _)
  intro holder
  apply Act.Stable.bind (Act.Stable.faulty _)
  intro token
  exact stable_onVault fun _ => StaticVault.stable_claimRewards (hq.claim _)

theorem stable_sweepDust (hsupply : Act.Stable q DepositToken.totalSupply)
    (hmint : ∀ caller amount index, Act.Stable q (DepositToken.mintToTreasury caller amount index)) :
    Act.Stable (Over q k) sweepDust := by
  unfold sweepDust
  apply Act.Stable.bind Act.Stable.current
  intro s
  exact stable_onToken (DustSweeper.stable_sweep hsupply fun _ _ => hmint _ _ _)

theorem stable_perform (hq : DepositToken.Enduring q) (hpaying : Paying (Over q k))
    (hk : ∀ n, k n) (hrebase : ∀ fraction, fieldNumeral step "fraction" = .ok fraction →
      Act.Stable (Over q k) (onAsset (SharePool.rebase fraction))) (action : Action) :
    Act.Stable (Over q k) (perform action step) := by
  have hstanding := hq.toStanding
  cases action with
  | deposit => exact (stable_deposit hq hpaying hk).bind fun _ => Act.Stable.pure _
  | withdraw => exact (stable_withdraw hq hpaying hk).bind fun _ => Act.Stable.pure _
  | transfer => exact (stable_transfer hstanding).bind fun _ => Act.Stable.pure _
  | liquidate => exact (stable_liquidate hq.transferOnLiquidation).bind fun _ => Act.Stable.pure _
  | accrue => exact (stable_accrue hq hpaying hk).bind fun _ => Act.Stable.pure _
  | rebase => exact (stable_rebase hrebase).bind fun _ => Act.Stable.pure _
  | flashLoan => exact (stable_flashLoan hq hpaying hk).bind fun _ => Act.Stable.pure _
  | distribute => exact stable_distribute hq.distributeRewards
  | claim => exact (stable_claim hstanding).bind fun _ => Act.Stable.pure _
  | wrap => exact (stable_wrap hstanding).bind fun _ => Act.Stable.pure _
  | unwrap => exact (stable_unwrap hstanding).bind fun _ => Act.Stable.pure _
  | claimStatic => exact (stable_claimStatic hstanding).bind fun _ => Act.Stable.pure _
  | sweepDust =>
      exact (stable_sweepDust hq.totalSupply hq.mintToTreasury).bind fun _ => Act.Stable.pure _

theorem state_conclude {number : Int} {action : Action} {expected : Option Document}
    {m : Act Scenario Document} (s : Scenario) :
    (Act.run (conclude number action expected m) s).2 = (Act.run m s).2 := by
  unfold conclude Act.run
  dsimp only
  split
  · split <;> rfl
  · split <;> rfl
  · rfl

theorem stable_execute {r : Scenario → Prop} {number : Int}
    (h : ∀ action, Act.Stable r (perform action step)) : Act.Stable r (execute number step) := by
  unfold execute
  split
  · exact Act.Stable.refuse _
  · apply Act.Stable.bind (Act.Stable.faulty _)
    intro name
    split
    · exact Act.Stable.refuse _
    · next action _ =>
        constructor
        intro s hs
        rw [state_conclude]
        exact (h action).after s hs

/-!
# Setting up
-/

theorem stable_equip (hregister : ∀ token, Act.Stable q (DepositToken.registerRewardToken token))
    {reserve : Document} : Act.Stable (Over q k) (equip reserve) := by
  unfold equip
  apply Act.Stable.bind (Act.Stable.faulty _)
  intro tokens
  apply Act.Stable.bind
  · apply Act.Stable.forEach
    intro token
    apply Act.Stable.bind (Act.Stable.faulty _)
    intro name
    exact (stable_onToken (hregister name)).bind fun _ => Act.Stable.pure ()
  · intro _
    apply Act.Stable.of_current
    intro s hs
    apply Act.Stable.bind (Act.Stable.faulty _)
    intro field
    apply Act.Stable.bind (Act.Stable.faulty _)
    intro threshold
    apply Act.Stable.bind (Act.Stable.refusable _)
    intro sweeper
    exact ⟨fun _ _ => ⟨hs.token, hs.units, hs.backing⟩⟩

structure Started (t : DepositToken) : Prop where
  ready : t.Ready
  shares : t.model.ledger = .empty
  index : t.index = ray

theorem started_make {t t' : DepositToken} {capacity factor : Int} (h : t.make = .ok t')
    (hshares : t.model.ledger = .empty) (hrewards : t.rewards = some ⟨.empty capacity, factor, none⟩)
    (hpinned : t.model.pinned? = none) (hlive : t.model.IsLive) (hindex : t.index = ray) :
    Started t' := by
  have hnamed : ∀ asset, (t.reserve.named asset).liquidityIndex = t.index := by
    intro asset
    unfold ReserveIndex.named
    split <;> rfl
  unfold DepositToken.make at h
  rw [hrewards] at h
  rcases Act.exists_of_bind_ok h with ⟨_, hfactor, h⟩
  cases h
  refine ⟨⟨⟨VaultCall.honest_of_isFresh ⟨hshares, _, rfl, rfl, rfl, hfactor⟩, ?_, hpinned⟩, hlive⟩,
    hshares, (hnamed _).trans hindex⟩
  intro p hp
  cases hp
  exact RewardTracker.capped_empty _ _

def FreshBooks (model : BalanceModel) : Prop :=
  model = .plain .empty ∨
    ∃ asset decimals, model = .rebasing (.fresh (.pool (.fresh asset decimals)))

theorem exists_terms_of_prepare {settings : Settings} {name : String} {d : Document}
    (h : prepare settings name d = .ok s) :
    s.vault = none ∧ ∃ (terms : TokenTerms) (asset underlying : String)
        (capacity factor history : Int) (model : BalanceModel),
      terms.rewards = some ⟨.empty capacity, factor, none⟩ ∧
      terms.reserve = some (.fresh asset history) ∧
      FreshBooks model ∧ (terms.token underlying model).make = .ok s.token := by
  unfold prepare at h
  split at h
  · cases h
  · rcases Act.exists_of_bind_ok h with ⟨_, _, h⟩
    rcases Act.exists_of_bind_ok h with ⟨decimals, _, h⟩
    rcases Act.exists_of_bind_ok h with ⟨pool, _, h⟩
    rcases Act.exists_of_bind_ok h with ⟨_, _, h⟩
    rcases Act.exists_of_bind_ok h with ⟨asset, _, h⟩
    rcases Act.exists_of_bind_ok h with ⟨_, _, h⟩
    rcases Act.exists_of_bind_ok h with ⟨factor, _, h⟩
    rcases Act.exists_of_bind_ok h with ⟨rebasing, _, h⟩
    rcases Act.exists_of_bind_ok h with ⟨treasury, _, h⟩
    rcases Act.exists_of_bind_ok h with ⟨token, htoken, h⟩
    cases h
    refine ⟨rfl, ?_⟩
    split at htoken
    · unfold TokenTerms.onAsset at htoken
      refine ⟨_, asset, _, settings.maxRewardTokens, factor, settings.indexHistorySize, _, ?_, ?_,
        Or.inr ⟨asset, decimals, rfl⟩, htoken⟩
      · rfl
      · rfl
    · unfold TokenTerms.onLedger at htoken
      refine ⟨_, asset, _, settings.maxRewardTokens, factor, settings.indexHistorySize, _, ?_, ?_,
        Or.inl rfl, htoken⟩
      · rfl
      · rfl

theorem started_prepare {settings : Settings} {name : String} {d : Document}
    (h : prepare settings name d = .ok s) : Started s.token ∧ s.vault = none := by
  rcases exists_terms_of_prepare h with
    ⟨hvault, terms, asset, underlying, _, _, _, model, hrewards, hreserve, hbooks, htoken⟩
  have hindex : (terms.token underlying model).index = ray := by
    unfold TokenTerms.token DepositToken.index
    rw [hreserve]
    rfl
  refine ⟨started_make htoken ?_ hrewards ?_ ?_ hindex, hvault⟩
  · rcases hbooks with rfl | ⟨_, _, rfl⟩
    · rfl
    · rfl
  · rcases hbooks with rfl | ⟨_, _, rfl⟩
    · rfl
    · rfl
  · rcases hbooks with rfl | ⟨_, _, rfl⟩
    · exact nofun
    · exact nofun

theorem over_prepare {settings : Settings} {name : String} {d : Document}
    (h : prepare settings name d = .ok s) (htoken : q s.token) (hbacking : k s.backing) :
    s.Over q k := by
  refine ⟨htoken, ?_, hbacking⟩
  intro books hbooks
  rw [(started_prepare h).right] at hbooks
  cases hbooks

theorem over_setUp {settings : Settings} {name : String} {d : Document}
    (h : (setUp settings name d).outcome = .ok s) :
    ∃ made, prepare settings name d = .ok made ∧ ∀ (q : DepositToken → Prop) (k : Int → Prop),
      (∀ token, Act.Stable q (DepositToken.registerRewardToken token)) → made.Over q k →
      s.Over q k := by
  unfold setUp at h
  split at h
  · cases h
  · next made hmade =>
      refine ⟨made, hmade, ?_⟩
      intro q k hregister hover
      have hequipped : Over q k (equip (reservePart d) made).state :=
        (stable_equip hregister).after made hover
      dsimp only at h
      cases hrun : (equip (reservePart d) made).outcome with
      | error e =>
          rw [hrun] at h
          cases h
      | ok _ =>
          rw [hrun] at h
          cases h
          exact hequipped

/--
A scenario that is set up goes back to a token just made; what all calls keep of
that token holds once reward tokens and the sweeper are known.
-/
theorem exists_started {settings : Settings} {name : String} {d : Document}
    (h : (setUp settings name d).outcome = .ok s) :
    ∃ t, Started t ∧ ∀ (q : DepositToken → Prop) (k : Int → Prop), DepositToken.Abiding q →
      (∀ n, k n) → q t → s.Over q k := by
  rcases over_setUp h with ⟨made, hmade, hover⟩
  refine ⟨made.token, (started_prepare hmade).left, ?_⟩
  intro q k hq hk htoken
  exact hover q k hq.registerRewardToken (over_prepare hmade htoken (hk _))

/-!
# Runs
-/

def afterSteps (steps : List (Int × Document)) (s : Scenario) : Scenario :=
  steps.foldl (fun s step => (Act.run (execute step.1 step.2) s).2) s

def Reachable (s : Scenario) : Prop :=
  ∃ settings name d start steps, (setUp settings name d).outcome = .ok start ∧
    s = start.afterSteps steps

theorem over_afterSteps_of (hq : DepositToken.Enduring q) (hpaying : Paying (Over q k))
    (hk : ∀ n, k n) (steps : List (Int × Document))
    (hrebase : ∀ step ∈ steps, ∀ fraction, fieldNumeral step.2 "fraction" = .ok fraction →
      Act.Stable (Over q k) (onAsset (SharePool.rebase fraction)))
    (hs : s.Over q k) : (s.afterSteps steps).Over q k := by
  induction steps generalizing s with
  | nil => exact hs
  | cons step rest ih =>
      have hstep := stable_perform hq hpaying hk (hrebase step List.mem_cons_self)
      exact ih (fun step' hstep' => hrebase step' (List.mem_cons_of_mem _ hstep'))
        ((stable_execute hstep).after s hs)

theorem over_afterSteps (hq : DepositToken.Abiding q) (hk : ∀ n, k n)
    (steps : List (Int × Document)) (hs : s.Over q k) : (s.afterSteps steps).Over q k :=
  over_afterSteps_of hq.toEnduring (paying_of_abiding hq) hk steps
    (fun _ _ _ _ => stable_onAsset hq) hs

structure Ready (s : Scenario) : Prop where
  token : s.token.Ready
  units : ∀ books, s.vault = some books → books.balances.Sound

theorem Ready.withPool (hs : s.Ready) (p : SharePool) : (s.withPool p).Ready :=
  ⟨hs.token.withPool p, hs.units⟩

theorem Reachable.ready (hs : s.Reachable) : s.Ready := by
  rcases hs with ⟨settings, name, d, start, steps, hstart, rfl⟩
  rcases exists_started hstart with ⟨t, ht, hover⟩
  have hk : ∀ n : Int, (fun _ => True) n := fun _ => trivial
  have hafter := over_afterSteps DepositToken.abiding_ready hk steps
    (hover _ _ DepositToken.abiding_ready hk ht.ready)
  exact ⟨hafter.token, hafter.units⟩

end Scenario
end ReserveAccounting
