import ReserveAccounting.Proofs.LiveAsset
import ReserveAccounting.Proofs.CheckpointRoom
import ReserveAccounting.Proofs.TokenSpecs
import ReserveAccounting.Scenario.Basic

/-!
# The asset in a scenario

What a deposit brings in and a withdrawal takes out of a rebasing reserve moves
in the pool of its asset, and the supply of the reserve is measured at the rate
of that pool.
-/

namespace ReserveAccounting

open FixedPoint

/-!
# The measured supply
-/

namespace BalanceModel

variable {m m' : BalanceModel} {p : SharePool} {index scaled : Int}

/-- The supply of a model before the index: its shares, at the rate of the asset if it has one. -/
def Measures (m : BalanceModel) (scaled : Int) : Prop :=
  match m with
  | plain l => scaled = l.totalShares
  | rebasing w => ∃ p rate, w.asset = .pool p ∧ p.HasRate rate ∧
      rayMul w.ledger.totalShares rate = .ok scaled

/-- The books stand on their own, or over a pool; a rate feed is none. -/
def IsLive (m : BalanceModel) : Prop := m.livePool ≠ some none

theorem IsLive.exists_pool {w : RebasingLedger} (h : (rebasing w).IsLive) :
    ∃ p, w.asset = .pool p := by
  change some w.asset.pool? ≠ some none at h
  cases hasset : w.asset with
  | pool p => exact ⟨p, rfl⟩
  | feed f =>
      rw [hasset] at h
      exact absurd rfl h

theorem Measures.unique {other : Int} (h : m.Measures scaled) (h' : m.Measures other) :
    scaled = other := by
  cases m with
  | plain l => exact Eq.trans h h'.symm
  | rebasing w =>
      rcases h with ⟨p, rate, hpool, hrate, hscaled⟩
      rcases h' with ⟨p', rate', hpool', hrate', hother⟩
      cases hpool.symm.trans hpool'
      cases hrate.left.symm.trans hrate'.left
      cases hscaled.symm.trans hother
      rfl

theorem leaves_scaledTotalSupply_measured {w : RebasingLedger} (hpool : w.asset = .pool p)
    (hpinned : w.pinned = none) :
    RebasingLedger.scaledTotalSupply.Leaves w (fun scaled _ => (rebasing w).Measures scaled)
      (fun _ _ => ∀ scaled, ¬ (rebasing w).Measures scaled) := by
  unfold RebasingLedger.scaledTotalSupply
  rw [Act.leaves_bind]
  apply (RebasingLedger.leaves_snapshot_of_pool hpool hpinned).mono
  · intro rate w' h
    rcases h with ⟨hrate, hledger⟩
    rw [Act.leaves_bind, Act.leaves_current, hledger, Act.leaves_refusable]
    constructor
    · intro scaled hscaled
      exact ⟨p, rate, hpool, hrate, hscaled⟩
    · intro r hr scaled hscaled
      rcases hscaled with ⟨p', rate', hpool', hrate', hscaled⟩
      cases hpool.symm.trans hpool'
      cases hrate.left.symm.trans hrate'.left
      cases hr.symm.trans hscaled
  · intro _ w' h scaled hscaled
    rcases hscaled with ⟨p', rate', hpool', hrate', _⟩
    cases hpool.symm.trans hpool'
    exact h rate' hrate'

theorem leaves_totalSupply_measured (hlive : m.IsLive) (hpinned : m.pinned? = none) :
    (totalSupply index).Leaves m
      (fun supply _ => ∃ scaled, m.Measures scaled ∧ rayMul scaled index = .ok supply)
      (fun e _ => ∀ scaled, m.Measures scaled →
        ∃ r, rayMul scaled index = .error r ∧ e = .ofRefusal r) := by
  unfold totalSupply
  cases m with
  | plain l =>
      rw [leaves_dispatch_plain]
      unfold view
      rw [Act.leaves_bind, Act.leaves_current, Act.leaves_refusable]
      constructor
      · intro supply hsupply
        exact ⟨l.totalShares, rfl, hsupply⟩
      · intro r hr scaled hscaled
        rw [hscaled]
        exact ⟨r, hr, rfl⟩
  | rebasing w =>
      rcases hlive.exists_pool with ⟨p, hpool⟩
      rw [leaves_dispatch_rebasing]
      unfold RebasingLedger.totalSupply
      rw [Act.leaves_bind]
      apply (leaves_scaledTotalSupply_measured hpool hpinned).mono
      · intro scaled w' hscaled
        rw [Act.leaves_refusable]
        constructor
        · intro supply hsupply
          exact ⟨scaled, hscaled, hsupply⟩
        · intro r hr scaled' hscaled'
          rw [hscaled'.unique hscaled]
          exact ⟨r, hr, rfl⟩
      · intro _ w' h scaled hscaled
        exact absurd hscaled (h scaled)

theorem Measures.congr (h : m.Measures scaled) (hledger : m'.ledger = m.ledger)
    (hpool : m'.livePool = m.livePool) : m'.Measures scaled := by
  cases m with
  | plain l =>
      cases m' with
      | plain l' =>
          change l' = l at hledger
          rw [hledger]
          exact h
      | rebasing w' => cases hpool
  | rebasing w =>
      cases m' with
      | plain l' => cases hpool
      | rebasing w' =>
          rcases h with ⟨p, rate, hasset, hrate, hscaled⟩
          change some w'.asset.pool? = some w.asset.pool? at hpool
          rw [hasset] at hpool
          change w'.ledger = w.ledger at hledger
          refine ⟨p, rate, ?_, hrate, ?_⟩
          · cases hasset' : w'.asset with
            | pool p' =>
                rw [hasset'] at hpool
                cases hpool
                rfl
            | feed f =>
                rw [hasset'] at hpool
                cases hpool
          · rw [hledger]
            exact hscaled

theorem Measures.nonneg (h : m.Measures scaled) (hm : m.ledger.Sound) : 0 ≤ scaled := by
  cases m with
  | plain l =>
      have hheld := (hm.nonneg "").trans (hm.held_le_totalShares "")
      rw [h]
      exact hheld
  | rebasing w =>
      rcases h with ⟨p, rate, _, _, hscaled⟩
      exact rayMul_nonneg hscaled

theorem exists_rebasing (h : m.livePool = some (some p)) :
    ∃ w, m = rebasing w ∧ w.asset = .pool p := by
  cases m with
  | plain l => cases h
  | rebasing w =>
      change some w.asset.pool? = some (some p) at h
      refine ⟨w, rfl, ?_⟩
      cases hasset : w.asset with
      | pool p' =>
          rw [hasset] at h
          cases h
          rfl
      | feed f =>
          rw [hasset] at h
          cases h

theorem leaves_pinRate_of_pool (hpool : m.livePool = some (some p)) (hpinned : m.pinned? = none) :
    pinRate.Leaves m (fun _ _ => ∃ rate, p.HasRate rate) (fun _ _ => True) := by
  rcases exists_rebasing hpool with ⟨w, rfl, hasset⟩
  have hunpinned : w.pinned = none := hpinned
  unfold pinRate
  rw [leaves_dispatch_rebasing, Act.leaves_bind]
  unfold RebasingLedger.pinRate
  rw [Act.leaves_bind, Act.leaves_current, hunpinned]
  dsimp only
  rw [Act.leaves_bind]
  apply (RebasingLedger.leaves_snapshot_of_pool hasset hunpinned).mono
  · intro rate w' h
    exact ⟨rate, h.left⟩
  · intro _ _ _
    trivial

end BalanceModel

namespace DepositToken

variable {s : DepositToken} {p : SharePool}

/-- What can be pinned over a pool is a rate that can be used. -/
theorem exists_rate_of_pins (hpins : s.pins = true) (hpool : s.model.livePool = some (some p))
    (hpinned : s.model.pinned? = none) : ∃ rate, p.HasRate rate := by
  unfold pins at hpins
  split at hpins
  · next hrun => exact (BalanceModel.leaves_pinRate_of_pool hpool hpinned).of_ok hrun
  · cases hpins

theorem pins_of_poolPass {caller holder x : String} {index : Int}
    (h : s.poolPass caller holder index = [x]) : s.pins = true := by
  unfold poolPass at h
  split at h
  · next hpass => exact hpass.right.right
  · cases h

end DepositToken

/-!
# Calls on the asset
-/

namespace Scenario

variable {s s' : Scenario} {p : SharePool} {α : Type}

theorem asset?_eq (s : Scenario) : s.asset? = s.token.model.livePool.join := by
  unfold asset? BalanceModel.livePool
  cases s.token.model.asset? <;> rfl

theorem asset?_congr (h : s'.token.model.livePool = s.token.model.livePool) :
    s'.asset? = s.asset? := by
  rw [asset?_eq, asset?_eq, h]

theorem livePool_of_asset (h : s.asset? = some p) : s.token.model.livePool = some (some p) := by
  rw [asset?_eq] at h
  exact Option.join_eq_some_iff.mp h

def withPool (s : Scenario) (p : SharePool) : Scenario :=
  { s with token := { s.token with model := s.token.model.withAsset (.pool p) } }

theorem withPool_withPool (s : Scenario) (p p' : SharePool) :
    (s.withPool p).withPool p' = s.withPool p' := by
  unfold withPool
  cases s.token.model <;> rfl

theorem withPool_self (h : s.asset? = some p) : s.withPool p = s := by
  rcases BalanceModel.exists_rebasing (livePool_of_asset h) with ⟨w, hmodel, hasset⟩
  have hsame : s.token.model.withAsset (.pool p) = s.token.model := by
    rw [hmodel, ← hasset]
    rfl
  unfold withPool
  rw [hsame]

theorem leaves_onAsset {m : Act SharePool α} (h : s.asset? = some p)
    {answered : α → Scenario → Prop} {failed : Fault → Scenario → Prop} :
    (onAsset m).Leaves s answered failed ↔
      m.Leaves p (fun a p' => answered a (s.withPool p')) (fun e p' => failed e (s.withPool p')) := by
  rcases BalanceModel.exists_rebasing (livePool_of_asset h) with ⟨w, hmodel, hasset⟩
  unfold onAsset onToken withPool
  rw [Act.leaves_within, DepositToken.leaves_onModel, hmodel, BalanceModel.leaves_dispatch_rebasing]
  unfold RebasingLedger.onAsset
  rw [Act.leaves_within, hasset]
  exact Act.leaves_embed rfl

theorem run_onAsset (h : s.asset? = some p) (m : Act SharePool α) :
    Act.run (onAsset m) s = ((Act.run m p).1, s.withPool (Act.run m p).2) := by
  have hleaves : (onAsset m).Leaves s
      (fun a s' => (Except.ok a, s') = ((Act.run m p).1, s.withPool (Act.run m p).2))
      (fun e s' => (Except.error e, s') = ((Act.run m p).1, s.withPool (Act.run m p).2)) := by
    rw [leaves_onAsset h]
    apply Act.leaves_of_run
    · intro a p' hrun
      rw [hrun]
    · intro e p' hrun
      rw [hrun]
  rcases hrun : Act.run (onAsset m) s with ⟨e | a, s'⟩
  · exact hleaves.of_error hrun
  · exact hleaves.of_ok hrun

theorem asset?_withPool (h : s.asset? = some p) (p' : SharePool) :
    (s.withPool p').asset? = some p' := by
  rcases BalanceModel.exists_rebasing (livePool_of_asset h) with ⟨w, hmodel, _⟩
  unfold withPool asset?
  rw [hmodel]
  rfl

end Scenario
end ReserveAccounting
