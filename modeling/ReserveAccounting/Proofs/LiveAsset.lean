import ReserveAccounting.Proofs.SharePools
import ReserveAccounting.Proofs.TokenSpecs

/-!
# The asset behind the books

A rebasing reserve stands over the pool of its asset. The calls of a token read
the rate of the pool and leave the pool as it is, whatever comes of them.
-/

namespace ReserveAccounting

open FixedPoint

namespace RebasingLedger

variable {q : ReserveAsset → Prop} {α : Type}

/-!
# Rebasing ledgers
-/

theorem stable_exchangeRate {c : Option SharePool} :
    Act.Stable (fun a : ReserveAsset => a.pool? = c) ReserveAsset.exchangeRate := by
  constructor
  intro a ha
  cases a with
  | pool p =>
      unfold Act.run ReserveAsset.exchangeRate
      dsimp only
      split <;> exact ha
  | feed f => exact ha

def Over (q : ReserveAsset → Prop) (w : RebasingLedger) : Prop := q w.asset

-- readings of the rate are all that happens to the asset
variable (hq : Act.Stable q ReserveAsset.exchangeRate)
include hq

theorem stable_snapshot : Act.Stable (Over q) snapshot := by
  unfold snapshot
  apply Act.Stable.bind Act.Stable.current
  intro w
  split
  · exact Act.Stable.pure _
  · apply Act.Stable.bind
    · exact Act.Stable.within (fun _ h => h) (fun _ _ _ h => h) hq
    · intro rate
      refine Act.Stable.bind (Act.Stable.update fun _ h => ?_) fun _ => ?_
      · exact h
      · exact Act.Stable.ite (Act.Stable.refuse _) (Act.Stable.pure _)

theorem stable_pinRate : Act.Stable (Over q) pinRate := by
  unfold pinRate
  apply Act.Stable.bind Act.Stable.current
  intro w
  split
  · exact Act.Stable.pure _
  · apply Act.Stable.bind (stable_snapshot hq)
    intro rate
    refine Act.Stable.bind (Act.Stable.update fun _ h => ?_) fun _ => ?_
    · exact h
    · exact Act.Stable.pure _

theorem stable_withPinnedRate {m : Int → Act RebasingLedger α}
    (hm : ∀ rate, Act.Stable (Over q) (m rate)) : Act.Stable (Over q) (withPinnedRate m) := by
  unfold withPinnedRate
  apply Act.Stable.bind (stable_pinRate hq)
  intro p
  exact Act.Stable.ite ((hm _).thenAlways fun _ h => h) (hm _)

omit hq in
theorem stable_onLedger {m : Act ShareLedger α} : Act.Stable (Over q) (onLedger m) :=
  Act.Stable.within_aside fun _ _ h => h

theorem stable_valued {sharesOf : RebasingLedger → Int} :
    Act.Stable (Over q) (do
      let rate ← snapshot
      let w ← Act.current
      rayMul (sharesOf w) rate : Act RebasingLedger Int) := by
  apply Act.Stable.bind (stable_snapshot hq)
  intro rate
  apply Act.Stable.bind Act.Stable.current
  intro w
  exact Act.Stable.refusable _

theorem stable_deposit {holder : String} {amount index : Int} :
    Act.Stable (Over q) (deposit holder amount index) := by
  unfold deposit
  apply Act.Stable.ite (Act.Stable.refuse _)
  apply Act.Stable.bind
  · apply stable_withPinnedRate hq
    intro rate
    apply Act.Stable.bind (Act.Stable.refusable _)
    intro scaled
    apply Act.Stable.ite (Act.Stable.refuse _)
    apply Act.Stable.bind (Act.Stable.refusable _)
    intro shares
    apply Act.Stable.ite (Act.Stable.refuse _)
    apply Act.Stable.bind Act.Stable.current
    intro w
    apply Act.Stable.bind stable_onLedger
    intro _
    exact Act.Stable.pure _
  · intro p
    apply Act.Stable.bind (Act.Stable.note _)
    intro _
    exact Act.Stable.pure _

theorem stable_withdraw {holder : String} {amount index : Int} :
    Act.Stable (Over q) (withdraw holder amount index) := by
  unfold withdraw
  apply Act.Stable.bind
  · apply stable_withPinnedRate hq
    intro rate
    apply Act.Stable.bind Act.Stable.current
    intro w
    apply Act.Stable.bind (Act.Stable.refusable _)
    intro scaled
    apply Act.Stable.bind (Act.Stable.refusable _)
    intro balance
    apply Act.Stable.ite (Act.Stable.refuse _)
    apply Act.Stable.ite (Act.Stable.refuse _)
    apply Act.Stable.bind (Act.Stable.refusable _)
    intro quotient
    apply Act.Stable.bind (Act.Stable.refusable _)
    intro shares
    apply Act.Stable.ite (Act.Stable.refuse _)
    apply Act.Stable.bind stable_onLedger
    intro _
    exact Act.Stable.pure _
  · intro p
    apply Act.Stable.bind (Act.Stable.note _)
    intro _
    exact Act.Stable.pure _

theorem stable_transfer {sender recipient : String} {amount index : Int} :
    Act.Stable (Over q) (transfer sender recipient amount index) := by
  unfold transfer
  apply Act.Stable.ite (Act.Stable.refuse _)
  apply stable_withPinnedRate hq
  intro rate
  apply Act.Stable.bind Act.Stable.current
  intro w
  apply Act.Stable.bind (Act.Stable.refusable _)
  intro scaled
  apply Act.Stable.bind (Act.Stable.refusable _)
  intro balance
  apply Act.Stable.ite (Act.Stable.refuse _)
  apply Act.Stable.bind (Act.Stable.refusable _)
  intro quotient
  apply Act.Stable.bind (Act.Stable.refusable _)
  intro shares
  apply Act.Stable.bind stable_onLedger
  intro _
  exact Act.Stable.pure _

end RebasingLedger

/-!
# Rates of a pool
-/

theorem ReserveAsset.leaves_exchangeRate {p : SharePool} :
    exchangeRate.Leaves (.pool p) (fun rate a => p.exchangeRate = .ok rate ∧ a = .pool p)
      (fun _ _ => ∀ rate, p.exchangeRate ≠ .ok rate) := by
  unfold Act.Leaves Act.run exchangeRate
  dsimp only
  cases p.exchangeRate with
  | ok rate => exact ⟨rfl, rfl⟩
  | error r =>
      intro rate h
      cases h

namespace RebasingLedger

variable {w : RebasingLedger} {p : SharePool}

theorem leaves_snapshot_of_pool (hpool : w.asset = .pool p) (hpinned : w.pinned = none) :
    snapshot.Leaves w (fun rate w' => p.HasRate rate ∧ w'.ledger = w.ledger)
      (fun _ _ => ∀ rate, ¬ p.HasRate rate) := by
  unfold snapshot
  rw [Act.leaves_bind, Act.leaves_current, hpinned]
  dsimp only
  rw [Act.leaves_bind]
  unfold onAsset
  rw [Act.leaves_within, hpool]
  apply ReserveAsset.leaves_exchangeRate.mono
  · intro rate a h
    rcases h with ⟨hrate, rfl⟩
    rw [Act.leaves_bind, Act.leaves_update, Act.leaves_ite]
    constructor
    · intro hle rate' h
      rcases h with ⟨hrate', hpos⟩
      rw [hrate] at hrate'
      cases hrate'
      omega
    · intro hpos
      exact ⟨⟨hrate, not_le.mp hpos⟩, rfl⟩
  · intro _ _ h rate hrate
    exact h rate hrate.left

end RebasingLedger

/-!
# Both kinds of books
-/

namespace BalanceModel

variable {c : Option (Option SharePool)} {α : Type}

/-- The asset that the books stand over, if any, by the pool behind it; a rate feed has none. -/
def livePool (m : BalanceModel) : Option (Option SharePool) := m.asset?.map ReserveAsset.pool?

theorem stable_dispatch {onPlain : Act ShareLedger α} {onRebasing : Act RebasingLedger α}
    (h : ∀ pool, Act.Stable (RebasingLedger.Over fun a => a.pool? = pool) onRebasing) :
    Act.Stable (fun m => m.livePool = c) (dispatch onPlain onRebasing) := by
  constructor
  intro m hm
  cases m with
  | plain l => exact hm
  | rebasing w =>
      have hpool := (h w.asset.pool?).after w rfl
      exact (congrArg some hpool).trans hm

theorem stable_balanceOf {holder : String} {index : Int} :
    Act.Stable (fun m => m.livePool = c) (balanceOf holder index) := by
  apply stable_dispatch
  intro pool
  apply Act.Stable.bind (RebasingLedger.stable_valued RebasingLedger.stable_exchangeRate)
  intro scaled
  exact Act.Stable.refusable _

theorem stable_totalSupply {index : Int} :
    Act.Stable (fun m => m.livePool = c) (totalSupply index) := by
  apply stable_dispatch
  intro pool
  apply Act.Stable.bind (RebasingLedger.stable_valued RebasingLedger.stable_exchangeRate)
  intro scaled
  exact Act.Stable.refusable _

theorem stable_pinRate : Act.Stable (fun m => m.livePool = c) pinRate := by
  apply stable_dispatch
  intro pool
  apply Act.Stable.bind (RebasingLedger.stable_pinRate RebasingLedger.stable_exchangeRate)
  intro p
  exact Act.Stable.pure _

theorem livePool_unpinned (m : BalanceModel) : m.unpinned.livePool = m.livePool := by
  cases m <;> rfl

end BalanceModel

/-!
# Calls of a token
-/

namespace DepositToken

variable {c : Option (Option SharePool)} {q : DepositToken → Prop} {α : Type}
  {accounts : List String}

theorem stable_applyChange_of {change : Act BalanceModel α}
    (hpin : Act.Stable q (onModel BalanceModel.pinRate))
    (hunpin : ∀ s, q s → q { s with model := s.model.unpinned })
    (hrewards : ∀ s rewards, q s → q { s with rewards := rewards })
    (hchange : Act.Stable q (onModel change)) : Act.Stable q (applyChange accounts change) := by
  have hcall : Act.Stable q (do
      let saved ← checkpointHolders accounts
      (onModel change).onRefusal (withRestored saved) : Act DepositToken α) := by
    apply Act.Stable.bind (stable_checkpointHolders_of hrewards)
    intro saved
    exact hchange.onRefusal fun s hs => hrewards s _ hs
  unfold applyChange withPinnedRate
  apply Act.Stable.bind hpin
  intro mine
  exact Act.Stable.ite (hcall.thenAlways hunpin) hcall

def IsOver (c : Option (Option SharePool)) (s : DepositToken) : Prop := s.model.livePool = c

theorem stable_onModel {m : Act BalanceModel α} (h : Act.Stable (fun b => b.livePool = c) m) :
    Act.Stable (IsOver c) (onModel m) :=
  Act.Stable.within (fun _ h => h) (fun _ _ _ h => h) h

theorem stable_onReserve {m : Act ReserveIndex α} : Act.Stable (IsOver c) (onReserve m) :=
  Act.Stable.within_aside fun _ _ h => h

theorem stable_onRewards {m : Act RewardTracker α} : Act.Stable (IsOver c) (onRewards m) :=
  stable_onRewards_of fun _ _ h => h

theorem stable_emit {kind : EventKind} {source target : String} {value index : Int} :
    Act.Stable (IsOver c) (emit kind source target value index) :=
  Act.Stable.update fun _ h => h

theorem stable_requirePool {caller : String} : Act.Stable (IsOver c) (requirePool caller) := by
  unfold requirePool
  apply Act.Stable.bind Act.Stable.current
  intro s
  exact Act.Stable.ite (Act.Stable.pure ()) (Act.Stable.refuse _)

theorem stable_balanceOf {holder : String} : Act.Stable (IsOver c) (balanceOf holder) := by
  unfold balanceOf
  apply Act.Stable.bind Act.Stable.current
  intro s
  exact stable_onModel BalanceModel.stable_balanceOf

theorem stable_totalSupply : Act.Stable (IsOver c) totalSupply := by
  unfold totalSupply
  apply Act.Stable.bind Act.Stable.current
  intro s
  exact stable_onModel BalanceModel.stable_totalSupply

theorem stable_applyChange {change : Act BalanceModel α}
    (h : Act.Stable (fun b => b.livePool = c) change) :
    Act.Stable (IsOver c) (applyChange accounts change) :=
  stable_applyChange_of (stable_onModel BalanceModel.stable_pinRate)
    (fun s hs => (BalanceModel.livePool_unpinned s.model).trans hs) (fun _ _ h => h)
    (stable_onModel h)

theorem stable_mint {caller holder : String} {amount index : Int} :
    Act.Stable (IsOver c) (mint caller holder amount index) := by
  unfold mint
  apply Act.Stable.bind stable_requirePool
  intro _
  apply Act.Stable.bind Act.Stable.current
  intro s
  apply Act.Stable.bind (Act.Stable.refusable _)
  intro _
  apply Act.Stable.bind
    (stable_applyChange (BalanceModel.stable_dispatch fun _ =>
      RebasingLedger.stable_deposit RebasingLedger.stable_exchangeRate))
  intro first
  apply Act.Stable.bind stable_onReserve
  intro _
  apply Act.Stable.bind stable_emit
  intro _
  apply Act.Stable.bind stable_emit
  intro _
  apply Act.Stable.bind (Act.Stable.note _)
  intro _
  exact Act.Stable.pure _

theorem stable_mintToTreasury {caller : String} {amount index : Int} :
    Act.Stable (IsOver c) (mintToTreasury caller amount index) := by
  unfold mintToTreasury
  apply Act.Stable.bind stable_requirePool
  intro _
  apply Act.Stable.ite (Act.Stable.pure false)
  apply Act.Stable.bind Act.Stable.current
  intro s
  exact stable_mint

theorem stable_burn {caller holder receiver : String} {amount index : Int} :
    Act.Stable (IsOver c) (burn caller holder receiver amount index) := by
  unfold burn
  apply Act.Stable.bind stable_requirePool
  intro _
  apply Act.Stable.bind Act.Stable.current
  intro s
  apply Act.Stable.bind (Act.Stable.refusable _)
  intro _
  apply Act.Stable.bind
    (stable_applyChange (BalanceModel.stable_dispatch fun _ =>
      RebasingLedger.stable_withdraw RebasingLedger.stable_exchangeRate))
  intro burned
  apply Act.Stable.bind stable_onReserve
  intro _
  apply Act.Stable.bind stable_emit
  intro _
  apply Act.Stable.bind stable_emit
  intro _
  apply Act.Stable.bind (Act.Stable.note _)
  intro _
  exact Act.Stable.pure _

theorem stable_move {event sender recipient : String} {amount : Int} :
    Act.Stable (IsOver c) (move event sender recipient amount) := by
  unfold move
  apply Act.Stable.bind Act.Stable.current
  intro s
  apply Act.Stable.ite (Act.Stable.refuse _)
  apply Act.Stable.bind
    (stable_applyChange (BalanceModel.stable_dispatch fun _ =>
      RebasingLedger.stable_transfer RebasingLedger.stable_exchangeRate))
  intro _
  apply Act.Stable.bind stable_emit
  intro _
  apply Act.Stable.bind stable_emit
  intro _
  exact Act.Stable.note _

theorem stable_transfer {sender recipient : String} {amount : Int} :
    Act.Stable (IsOver c) (transfer sender recipient amount) :=
  stable_move.bind fun _ => Act.Stable.pure true

theorem stable_transferOnLiquidation {caller sender recipient : String} {amount : Int} :
    Act.Stable (IsOver c) (transferOnLiquidation caller sender recipient amount) :=
  stable_requirePool.bind fun _ => stable_move.bind fun _ => Act.Stable.pure true

theorem stable_injectFlashLoanPremium {caller : String} {premium : Int} :
    Act.Stable (IsOver c) (injectFlashLoanPremium caller premium) := by
  unfold injectFlashLoanPremium
  apply Act.Stable.bind stable_requirePool
  intro _
  apply Act.Stable.bind stable_totalSupply
  intro liquidity
  apply Act.Stable.bind stable_onReserve
  intro index
  apply Act.Stable.bind Act.Stable.current
  intro s
  apply Act.Stable.bind stable_emit
  intro _
  apply Act.Stable.bind (Act.Stable.note _)
  intro _
  exact Act.Stable.pure _

theorem stable_claim {holder token : String} : Act.Stable (IsOver c) (claim holder token) :=
  stable_claim_of_rewards (fun _ => stable_onRewards) fun _ _ h => h

end DepositToken
end ReserveAccounting
