import ReserveAccounting.Proofs.CheckpointRoom
import ReserveAccounting.Proofs.OwedRewards

/-!
# Rewards and the books

Beside a token that forwards rewards runs the same token without any. A call of
the books answers alike on both and leaves the same books, unless one of its
checkpoints is stopped: then it is refused for the size of the amounts and
books nothing. Calls of the rewards leave the books alone.
-/

namespace ReserveAccounting

open FixedPoint

/-!
# What can be withdrawn fits a word
-/

theorem RebasingLedger.leaves_withdraw_fits {w : RebasingLedger} {holder : String}
    {amount index : Int} :
    (withdraw holder amount index).Leaves w (fun _ _ => w.ledger.sharesOf holder ≤ maxAmount)
      (fun _ _ => True) := by
  unfold withdraw withPinnedRate
  rw [Act.leaves_bind, Act.leaves_bind]
  apply leaves_pinRate.mono
  · intro reading w₁ hpin
    rcases reading with ⟨rate, mine⟩
    have hledger : w₁.ledger = w.ledger := hpin.left
    have hheld : ∀ scaled, rayMul (w₁.internalSharesOf holder) rate = .ok scaled →
        w.ledger.sharesOf holder ≤ maxAmount := by
      intro scaled hscaled
      unfold internalSharesOf at hscaled
      rw [hledger] at hscaled
      exact (rayMul_ok hscaled).right.left
    dsimp only
    rw [Act.leaves_ite]
    constructor
    · intro _
      rw [Act.leaves_thenAlways, Act.leaves_bind, Act.leaves_current, Act.leaves_bind,
        Act.leaves_refusable]
      refine ⟨fun scaled hscaled => ?_, fun _ _ => trivial⟩
      have hfits := hheld scaled hscaled
      exact Act.leaves_of_run (fun _ _ _ => Act.leaves_of_run (fun _ _ _ => hfits)
        fun _ _ _ => trivial) fun _ _ _ => trivial
    · intro _
      rw [Act.leaves_bind, Act.leaves_current, Act.leaves_bind, Act.leaves_refusable]
      refine ⟨fun scaled hscaled => ?_, fun _ _ => trivial⟩
      have hfits := hheld scaled hscaled
      exact Act.leaves_of_run (fun _ _ _ => Act.leaves_of_run (fun _ _ _ => hfits)
        fun _ _ _ => trivial) fun _ _ _ => trivial
  · intro _ _ _
    trivial

theorem BalanceModel.leaves_burn_fits {m : BalanceModel} {holder : String} {amount index : Int} :
    (burn holder amount index).Leaves m (fun _ _ => m.ledger.sharesOf holder ≤ maxAmount)
      (fun _ _ => True) := by
  cases m with
  | plain l =>
      rw [Act.leaves_embed (show burn holder amount index (plain l) = Act.embed plain
        (ShareLedger.burn holder amount index) l from rfl)]
      unfold ShareLedger.burn
      rw [Act.leaves_bind, Act.leaves_current, Act.leaves_bind, Act.leaves_refusable]
      refine ⟨fun balance hbalance => ?_, fun _ _ => trivial⟩
      have hfits := (rayMul_ok hbalance).right.left
      exact Act.leaves_of_run (fun _ _ _ => hfits) fun _ _ _ => trivial
  | rebasing w =>
      rw [Act.leaves_embed (show burn holder amount index (rebasing w) = Act.embed rebasing
        (RebasingLedger.withdraw holder amount index) w from rfl)]
      exact RebasingLedger.leaves_withdraw_fits

namespace DepositToken

variable {s : DepositToken} {α β : Type} {events : List TokenEvent} {accounts : List String}

theorem leaves_burn_fits {caller holder receiver : String} {amount index : Int} :
    (burn caller holder receiver amount index).Leaves s
      (fun _ _ => s.model.ledger.held (Text.lower holder) ≤ maxAmount) (fun _ _ => True) := by
  unfold burn
  rw [Act.leaves_bind]
  apply leaves_requirePool.mono
  · intro _ s₀ h
    rcases h with ⟨hsame, hcaller⟩
    subst s₀
    rw [Act.leaves_bind, Act.leaves_current]
    apply leaves_bookAtIndex (fun _ => s.model.ledger.held (Text.lower holder) ≤ maxAmount) hcaller
    · intro model hledger _
      have hfits := @BalanceModel.leaves_burn_fits model (Text.lower holder) amount index
      rw [hledger, ShareLedger.sharesOf_eq_held, Text.lower_lower] at hfits
      exact (hfits.and BalanceModel.leaves_burn).mono
        (fun _ _ h => ⟨h.left, h.right.right⟩) (fun _ _ h => h.right)
    · intro _ s' hbooks _
      exact Act.leaves_of_run (fun _ _ _ => hbooks.ledger) fun _ _ _ => trivial
    · intro _ _ _
      trivial
  · intro _ _ _
    trivial

theorem held_le_of_burn {caller holder receiver : String} {amount index burned : Int}
    (h : (Act.run (burn caller holder receiver amount index) s).1 = .ok burned) :
    s.model.ledger.held (Text.lower holder) ≤ maxAmount := by
  rcases hrun : Act.run (burn caller holder receiver amount index) s with ⟨outcome, s'⟩
  rw [hrun] at h
  dsimp only at h
  rw [h] at hrun
  exact leaves_burn_fits.of_ok hrun

/-!
# A token without its rewards
-/

def withoutRewards (s : DepositToken) (events : List TokenEvent) : DepositToken :=
  { s with events := events, rewards := none }

/-- A call on a token does what another does on the token without its rewards. -/
def Mirrors (m n : Act DepositToken α) (s : DepositToken) (events : List TokenEvent) : Prop :=
  ∃ events', Act.run n (s.withoutRewards events) =
    ((Act.run m s).1, (Act.run m s).2.withoutRewards events')

theorem mirrors_pure (a : α) : Mirrors (pure a) (pure a) s events := ⟨events, rfl⟩

theorem mirrors_refuse (r : Refusal) :
    Mirrors (Act.refuse r : Act DepositToken α) (Act.refuse r) s events := ⟨events, rfl⟩

theorem mirrors_refusable (x : Except Refusal α) :
    Mirrors (liftM x : Act DepositToken α) (liftM x) s events := by
  cases x with
  | ok a => exact ⟨events, rfl⟩
  | error r => exact ⟨events, rfl⟩

theorem mirrors_onModel (m : Act BalanceModel α) : Mirrors (onModel m) (onModel m) s events :=
  ⟨events, rfl⟩

theorem mirrors_onReserve (m : Act ReserveIndex α) :
    Mirrors (onReserve m) (onReserve m) s events := ⟨events, rfl⟩

theorem mirrors_emit (kind : EventKind) (source target : String) (value index : Int) :
    Mirrors (emit kind source target value index) (emit kind source target value index) s events :=
  ⟨_, rfl⟩

theorem mirrors_note (r : Record) : Mirrors (Act.note r) (Act.note r) s events := ⟨events, rfl⟩

theorem Mirrors.bind {m n : Act DepositToken α} {f g : α → Act DepositToken β}
    (h : Mirrors m n s events)
    (hnext : ∀ a s' events', Act.run m s = (.ok a, s') → Mirrors (f a) (g a) s' events') :
    Mirrors (m >>= f) (n >>= g) s events := by
  rcases h with ⟨events', h⟩
  rcases hrun : Act.run m s with ⟨outcome, s'⟩
  rw [hrun] at h
  cases outcome with
  | ok a =>
      unfold Mirrors
      rw [Act.run_bind_ok hrun, Act.run_bind_ok h]
      exact hnext a s' events' hrun
  | error e =>
      unfold Mirrors
      rw [Act.run_bind_error hrun, Act.run_bind_error h]
      exact ⟨events', rfl⟩

theorem mirrors_current {f g : DepositToken → Act DepositToken α}
    (h : Mirrors (f s) (g (s.withoutRewards events)) s events) :
    Mirrors (Act.current >>= f) (Act.current >>= g) s events := by
  unfold Mirrors
  rw [Act.run_bind_ok (Act.run_current _), Act.run_bind_ok (Act.run_current _)]
  exact h

theorem mirrors_ite {c : Prop} [Decidable c] {m m' n n' : Act DepositToken α}
    (hthen : c → Mirrors m n s events) (helse : ¬ c → Mirrors m' n' s events) :
    Mirrors (if c then m else m') (if c then n else n') s events := by
  by_cases h : c
  · rw [if_pos h, if_pos h]
    exact hthen h
  · rw [if_neg h, if_neg h]
    exact helse h

theorem Mirrors.thenUnpinned {m n : Act DepositToken α} (h : Mirrors m n s events) :
    Mirrors (m.thenAlways fun t => { t with model := t.model.unpinned })
      (n.thenAlways fun t => { t with model := t.model.unpinned }) s events := by
  rcases h with ⟨events', h⟩
  refine ⟨events', ?_⟩
  rw [Act.run_thenAlways, Act.run_thenAlways, h]
  rfl

theorem Mirrors.onRefusal {m n : Act DepositToken α} {undo undo' : DepositToken → DepositToken}
    (h : Mirrors m n s events)
    (hundo : ∀ s events, undo' (s.withoutRewards events) = (undo s).withoutRewards events) :
    Mirrors (m.onRefusal undo) (n.onRefusal undo') s events := by
  rcases h with ⟨events', h⟩
  refine ⟨events', ?_⟩
  rw [Act.run_onRefusal, Act.run_onRefusal, h]
  rcases Act.run m s with ⟨outcome, s'⟩
  cases outcome with
  | ok a => rfl
  | error e =>
      cases e with
      | refused r =>
          dsimp only
          rw [hundo]
      | _ => rfl

theorem mirrors_requirePool (caller : String) :
    Mirrors (requirePool caller) (requirePool caller) s events :=
  mirrors_current (mirrors_ite (fun _ => mirrors_pure ()) fun _ => mirrors_refuse _)

theorem run_refusable_ok {x : Except Refusal α} {a : α} {s' : DepositToken}
    (h : Act.run (liftM x : Act DepositToken α) s = (.ok a, s')) : x = .ok a ∧ s' = s := by
  cases x with
  | ok b =>
      cases h
      exact ⟨rfl, rfl⟩
  | error r => cases h

theorem mirrors_withPinnedRate {m n : Act DepositToken α}
    (h : ∀ model events, model.ledger = s.model.ledger → s.pins = true →
      Mirrors m n { s with model := model } events) :
    Mirrors (withPinnedRate m) (withPinnedRate n) s events := by
  apply (mirrors_onModel BalanceModel.pinRate).bind
  intro mine s' events' hrun
  unfold onModel at hrun
  rw [Act.run_within] at hrun
  rcases hpin : Act.run BalanceModel.pinRate s.model with ⟨outcome, model⟩
  rw [hpin] at hrun
  cases hrun
  have hpins : s.pins = true := by
    unfold pins
    rw [hpin]
  have hinner := fun events => h model events (BalanceModel.leaves_pinRate.of_ok hpin).left hpins
  exact mirrors_ite (fun _ => (hinner events').thenUnpinned) fun _ => hinner events'

theorem Completes.of_ledger {model : BalanceModel} (hledger : model.ledger = s.model.ledger)
    (h : s.Completes accounts) : Completes { s with model := model } accounts := by
  have hbasis : model.rewardBasisOf = s.model.rewardBasisOf := by
    unfold BalanceModel.rewardBasisOf
    rw [hledger]
  unfold Completes
  rw [hbasis]
  exact h

theorem run_checkpointHolders (h : s.Completes accounts) :
    ∃ saved, Act.run (checkpointHolders accounts) s =
      (.ok saved, { s with rewards := s.passed accounts }) := by
  rcases hrun : Act.run (checkpointHolders accounts) s with ⟨outcome, s'⟩
  cases outcome with
  | ok saved =>
      rcases leaves_checkpointHolders.of_ok hrun with ⟨rfl, _⟩
      exact ⟨saved, rfl⟩
  | error e =>
      exfalso
      unfold checkpointHolders at hrun
      rw [Act.run_bind_ok (Act.run_current s)] at hrun
      cases hrewards : s.rewards with
      | none =>
          rw [hrewards] at hrun
          cases hrun
      | some program =>
          rcases h program hrewards with ⟨saved, t', hpass⟩
          rw [hrewards] at hrun
          dsimp only at hrun
          rw [run_onRewards _ hrewards, hpass] at hrun
          cases hrun

theorem mirrors_applyChange {change : Act BalanceModel α}
    (h : s.pins = true → s.Completes accounts) :
    Mirrors (applyChange accounts change) (applyChange accounts change) s events := by
  apply mirrors_withPinnedRate
  intro model events hledger hpins
  rcases run_checkpointHolders ((h hpins).of_ledger hledger) with ⟨saved, hrun⟩
  have hplain : Act.run (checkpointHolders accounts)
      (withoutRewards { s with model := model } events) =
        (.ok [], withoutRewards { s with model := model } events) := rfl
  have hchange : Mirrors ((onModel change).onRefusal (withRestored saved))
      ((onModel change).onRefusal (withRestored []))
      { s with model := model, rewards := passed { s with model := model } accounts } events :=
    (mirrors_onModel change).onRefusal fun _ _ => rfl
  unfold Mirrors
  rw [Act.run_bind_ok hrun, Act.run_bind_ok hplain]
  exact hchange

/-!
# Calls of the books
-/

theorem mirrors_bookAtIndex {caller holder : String} {index : Int} {reason : String}
    {change : Act BalanceModel α} {next : α → Act DepositToken β}
    (hcaller : Text.lower caller = s.pool) (h : s.Completes (s.poolPass caller holder index))
    (hnext : ∀ a s' events', Mirrors (next a) (next a) s' events') :
    Mirrors
      (do
        s.reserve.admits index
        let a ← applyChange [Text.lower holder] change
        let _ ← onReserve (ReserveIndex.raise index reason)
        next a : Act DepositToken β)
      (do
        s.reserve.admits index
        let a ← applyChange [Text.lower holder] change
        let _ ← onReserve (ReserveIndex.raise index reason)
        next a) s events := by
  apply (mirrors_refusable (s.reserve.admits index)).bind
  intro _ s₁ events₁ hrun
  rcases run_refusable_ok hrun with ⟨hadmits, rfl⟩
  have hcompletes : s₁.pins = true → s₁.Completes [Text.lower holder] := by
    intro hpins
    unfold poolPass at h
    rw [if_pos ⟨hcaller, by rw [hadmits]; rfl, hpins⟩] at h
    exact h
  apply (mirrors_applyChange hcompletes).bind
  intro a s₂ events₂ _
  apply (mirrors_onReserve _).bind
  intro _ s₃ events₃ _
  exact hnext a s₃ events₃

theorem mirrors_mint {caller holder : String} {amount index : Int}
    (h : s.Completes (s.poolPass caller holder index)) :
    Mirrors (mint caller holder amount index) (mint caller holder amount index) s events := by
  apply (mirrors_requirePool caller).bind
  intro _ s₁ events₁ hrun
  rcases leaves_requirePool.of_ok hrun with ⟨rfl, hcaller⟩
  apply mirrors_current
  apply mirrors_bookAtIndex hcaller h
  intro first s₂ events₂
  apply (mirrors_emit _ _ _ _ _).bind
  intro _ s₃ events₃ _
  apply (mirrors_emit _ _ _ _ _).bind
  intro _ s₄ events₄ _
  apply (mirrors_note _).bind
  intro _ s₅ events₅ _
  exact mirrors_pure first

theorem mirrors_burn {caller holder receiver : String} {amount index : Int}
    (h : s.Completes (s.poolPass caller holder index)) :
    Mirrors (burn caller holder receiver amount index) (burn caller holder receiver amount index)
      s events := by
  apply (mirrors_requirePool caller).bind
  intro _ s₁ events₁ hrun
  rcases leaves_requirePool.of_ok hrun with ⟨rfl, hcaller⟩
  apply mirrors_current
  apply mirrors_bookAtIndex hcaller h
  intro burned s₂ events₂
  apply (mirrors_emit _ _ _ _ _).bind
  intro _ s₃ events₃ _
  apply (mirrors_emit _ _ _ _ _).bind
  intro _ s₄ events₄ _
  apply (mirrors_note _).bind
  intro _ s₅ events₅ _
  exact mirrors_pure burned

theorem mirrors_mintToTreasury {caller : String} {amount index : Int}
    (h : amount ≠ 0 → s.Completes (s.poolPass caller s.treasury index)) :
    Mirrors (mintToTreasury caller amount index) (mintToTreasury caller amount index) s events := by
  apply (mirrors_requirePool caller).bind
  intro _ s₁ events₁ hrun
  rcases leaves_requirePool.of_ok hrun with ⟨rfl, _⟩
  apply mirrors_ite
  · intro _
    exact mirrors_pure false
  · intro hamount
    apply mirrors_current
    exact mirrors_mint (h hamount)

theorem mirrors_move {event sender recipient : String} {amount : Int}
    (h : s.Completes (s.movePass sender recipient)) :
    Mirrors (move event sender recipient amount) (move event sender recipient amount)
      s events := by
  apply mirrors_current
  apply mirrors_ite
  · intro _
    exact mirrors_refuse _
  · intro haddress
    have hcompletes : s.pins = true →
        s.Completes [Text.lower sender, Text.lower recipient] := by
      intro hpins
      unfold movePass at h
      rw [if_neg] at h
      · exact h
      · intro hleft
        rcases hleft with hzero | hpin
        · exact haddress hzero
        · exact hpin hpins
    apply (mirrors_applyChange hcompletes).bind
    intro _ s₁ events₁ _
    apply (mirrors_emit _ _ _ _ _).bind
    intro _ s₂ events₂ _
    apply (mirrors_emit _ _ _ _ _).bind
    intro _ s₃ events₃ _
    exact mirrors_note _

theorem mirrors_transfer {sender recipient : String} {amount : Int}
    (h : s.Completes (s.movePass sender recipient)) :
    Mirrors (transfer sender recipient amount) (transfer sender recipient amount) s events := by
  apply (mirrors_move h).bind
  intro _ s₁ events₁ _
  exact mirrors_pure true

theorem mirrors_transferOnLiquidation {caller sender recipient : String} {amount : Int}
    (h : s.Completes (s.seizurePass caller sender recipient)) :
    Mirrors (transferOnLiquidation caller sender recipient amount)
      (transferOnLiquidation caller sender recipient amount) s events := by
  apply (mirrors_requirePool caller).bind
  intro _ s₁ events₁ hrun
  rcases leaves_requirePool.of_ok hrun with ⟨rfl, hcaller⟩
  unfold seizurePass at h
  rw [if_pos hcaller] at h
  apply (mirrors_move h).bind
  intro _ s₂ events₂ _
  exact mirrors_pure true

theorem mirrors_injectFlashLoanPremium {caller : String} {premium : Int} :
    Mirrors (injectFlashLoanPremium caller premium) (injectFlashLoanPremium caller premium)
      s events := by
  apply (mirrors_requirePool caller).bind
  intro _ s₁ events₁ _
  have htotal : Mirrors totalSupply totalSupply s₁ events₁ :=
    mirrors_current (mirrors_onModel _)
  apply htotal.bind
  intro liquidity s₂ events₂ _
  apply (mirrors_onReserve _).bind
  intro index s₃ events₃ _
  apply mirrors_current
  apply (mirrors_emit _ _ _ _ _).bind
  intro _ s₄ events₄ _
  apply (mirrors_note _).bind
  intro _ s₅ events₅ _
  exact mirrors_pure index

end DepositToken
end ReserveAccounting
