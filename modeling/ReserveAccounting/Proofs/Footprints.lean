import ReserveAccounting.Proofs.LiveAsset
import ReserveAccounting.Proofs.PairedRuns
import ReserveAccounting.Proofs.RateReadings

/-!
# Footprints of changes of shares

A change of shares reads and writes the entries of the holders that it names,
and it adds to the total without reading it. On ledgers that agree on these
entries it ends the same and does the same, whatever the other entries are and
however far apart the totals are.
-/

namespace ReserveAccounting

open FixedPoint

theorem Table.get?_ensure {α β : Type} [DecidableEq α] (t : Table α β) (k k' : α) (v : β) :
    (t.ensure k v).get? k' = if k' = k then some (t.getD k v) else t.get? k' := by
  cases hget : t.get? k with
  | some w =>
      rw [ensure_of_get? hget, getD_of_get? hget]
      split
      · next heq => rw [heq, hget]
      · rfl
  | none =>
      rw [ensure_of_get?_eq_none hget, get?_put]
      simp [getD, hget]

namespace ShareLedger

variable {p : String → Prop} {d : Int} {l l' : ShareLedger} {name holder : String}
  {n amount index : Int} {reason : BalanceChange}

/-!
# Share ledgers
-/

/-- A ledger that agrees with another on some names, with a total that is off by some shares. -/
structure MatchesOn (p : String → Prop) (d : Int) (l l' : ShareLedger) : Prop where
  shares : ∀ x, p x → l'.shares.get? x = l.shares.get? x
  total : l'.totalShares = l.totalShares + d

namespace MatchesOn

theorem refl (l : ShareLedger) : l.MatchesOn p 0 l where
  shares _ _ := rfl
  total := (Int.add_zero _).symm

theorem mono {q : String → Prop} (h : l.MatchesOn p d l') (hpq : ∀ x, q x → p x) :
    l.MatchesOn q d l' where
  shares x hx := h.shares x (hpq x hx)
  total := h.total

theorem held_eq (h : l.MatchesOn p d l') (hname : p name) : l'.held name = l.held name := by
  simp [held, Table.getD, h.shares name hname]

theorem sharesOf_eq (h : l.MatchesOn p d l') (hp : p (Text.lower holder)) :
    l'.sharesOf holder = l.sharesOf holder := by
  rw [sharesOf_eq_held, sharesOf_eq_held, h.held_eq hp]

theorem withDelta (h : l.MatchesOn p d l') (hname : p name) (n : Int) (reason : BalanceChange) :
    (l.withDelta name n reason).MatchesOn p d (l'.withDelta name n reason) where
  shares x hx := by
    have hheld : l'.shares.getD name 0 = l.shares.getD name 0 := h.held_eq hname
    simp [ShareLedger.withDelta, Table.get?_put, hheld, h.shares x hx]
  total := by
    have htotal := h.total
    simp only [ShareLedger.withDelta]
    split <;> omega

theorem ensure (h : l.MatchesOn p d l') (hname : p name) :
    MatchesOn p d { l with shares := l.shares.ensure name 0 }
      { l' with shares := l'.shares.ensure name 0 } where
  shares x hx := by
    have hheld : l'.shares.getD name 0 = l.shares.getD name 0 := h.held_eq hname
    simp [Table.get?_ensure, hheld, h.shares x hx]
  total := h.total

end MatchesOn

theorem respects_applyDelta (hp : p (Text.lower holder)) :
    Act.Respects (MatchesOn p d) (applyDelta holder n reason) := by
  intro l l' h
  have hheld : l'.shares.getD (Text.lower holder) 0 = l.shares.getD (Text.lower holder) 0 :=
    h.held_eq hp
  unfold applyDelta
  rw [Act.pairs_current_left, Act.pairs_current_right]
  apply Act.Pairs.ite Iff.rfl
  · intro _
    exact ⟨rfl, h⟩
  · intro _
    dsimp only
    rw [hheld]
    apply Act.Pairs.ite Iff.rfl
    · intro _
      exact ⟨rfl, h⟩
    · intro _
      exact ⟨rfl, h.withDelta hp n reason⟩

theorem respects_mint (hp : p (Text.lower holder)) :
    Act.Respects (MatchesOn p d) (mint holder amount index) := by
  unfold mint
  apply Act.Respects.ite (Act.Respects.refuse _)
  apply Act.Respects.bind (Act.Respects.refusable _)
  intro delta
  apply Act.Respects.ite (Act.Respects.refuse _)
  apply Act.Respects.of_current
  · intro l l' h
    rw [h.sharesOf_eq hp]
  · intro l l' _
    exact Act.Respects.bind (respects_applyDelta hp) fun _ => Act.Respects.pure _

theorem respects_burn (hp : p (Text.lower holder)) :
    Act.Respects (MatchesOn p d) (burn holder amount index) := by
  unfold burn
  apply Act.Respects.of_current
  · intro l l' h
    simp only [balanceOf, h.sharesOf_eq hp]
  · intro l l' _
    apply Act.Respects.bind (Act.Respects.refusable _)
    intro balance
    apply Act.Respects.ite (Act.Respects.refuse _)
    apply Act.Respects.ite (Act.Respects.refuse _)
    apply Act.Respects.bind (Act.Respects.refusable _)
    intro delta
    apply Act.Respects.ite (Act.Respects.refuse _)
    exact Act.Respects.bind (respects_applyDelta hp) fun _ => Act.Respects.pure _

theorem respects_moveShares {sender recipient : String} (hsender : p (Text.lower sender))
    (hrecipient : p (Text.lower recipient)) :
    Act.Respects (MatchesOn p d) (moveShares sender recipient n) := by
  intro l l' h
  unfold moveShares
  rw [Act.pairs_current_left, Act.pairs_current_right, h.sharesOf_eq hsender]
  apply Act.Pairs.ite Iff.rfl
  · intro _
    exact ⟨rfl, h⟩
  · intro _
    apply Act.Pairs.ite Iff.rfl
    · intro _
      exact ⟨rfl, h.ensure hrecipient⟩
    · intro _
      have hboth : Act.Respects (MatchesOn p d) (do
          let _ ← applyDelta sender (-n) .transferOut
          let _ ← applyDelta recipient n .transferIn
          return : Act ShareLedger Unit) := by
        apply Act.Respects.bind (respects_applyDelta hsender)
        intro _
        exact Act.Respects.bind (respects_applyDelta hrecipient) fun _ => Act.Respects.pure _
      exact hboth l l' h

theorem respects_transfer {sender recipient : String} (hsender : p (Text.lower sender))
    (hrecipient : p (Text.lower recipient)) :
    Act.Respects (MatchesOn p d) (transfer sender recipient amount index) := by
  unfold transfer
  apply Act.Respects.ite (Act.Respects.refuse _)
  apply Act.Respects.of_current
  · intro l l' h
    simp only [balanceOf, h.sharesOf_eq hsender]
  · intro l l' _
    apply Act.Respects.bind (Act.Respects.refusable _)
    intro balance
    apply Act.Respects.ite (Act.Respects.refuse _)
    apply Act.Respects.bind (Act.Respects.refusable _)
    intro quotient
    exact Act.Respects.bind (respects_moveShares hsender hrecipient) fun _ => Act.Respects.pure _

/-!
## What a change leaves alone
-/

theorem matchesOn_withDelta (l : ShareLedger) (name : String) (n : Int) (reason : BalanceChange) :
    l.MatchesOn (· ≠ name) (if reason.changesSupply then n else 0)
      (l.withDelta name n reason) where
  shares x hx := Table.get?_put_of_ne l.shares hx _
  total := by
    simp only [withDelta]
    split <;> simp

theorem Credits.matchesOn (h : l.Credits name n l') : l.MatchesOn (· ≠ name) n l' := by
  rw [h.right]
  exact matchesOn_withDelta l name n .mint

theorem Debits.matchesOn (h : l.Debits name n l') : l.MatchesOn (· ≠ name) (-n) l' := by
  rw [h.right.right]
  exact matchesOn_withDelta l name (-n) .burn

theorem Moves.matchesOn {source target : String} (h : l.Moves source target n l') :
    l.MatchesOn (fun x => x ≠ source ∧ x ≠ target) 0 l' := by
  cases h with
  | inl hnone =>
      rw [hnone.right]
      constructor
      · intro x hx
        simp [Table.get?_ensure, hx.right]
      · simp
  | inr hsome =>
      rw [hsome.right.right]
      constructor
      · intro x hx
        simp [withDelta, Table.get?_put, hx.left, hx.right]
      · simp [withDelta, BalanceChange.changesSupply]

end ShareLedger

/-!
# Assets
-/

namespace ReserveAsset

variable {a a' : ReserveAsset}

structure SameRates (a a' : ReserveAsset) : Prop where
  symbol : a'.symbol = a.symbol
  rates : ∀ k, a'.rateAt k = a.rateAt k

theorem SameRates.refl (a : ReserveAsset) : a.SameRates a := ⟨rfl, fun _ => rfl⟩

theorem rateAt_after_reading (a : ReserveAsset) (k : Nat) :
    (Act.run exchangeRate a).2.rateAt k = a.rateAt (k + 1) :=
  rateAt_afterReadings a k 1

theorem respects_exchangeRate : Act.Respects SameRates exchangeRate := by
  apply Act.Respects.of_run
  intro a a' h
  constructor
  · exact h.rates 0
  · constructor
    · rw [symbol_after_reading, symbol_after_reading, h.symbol]
    · intro k
      rw [rateAt_after_reading, rateAt_after_reading, h.rates]

/-- An asset of which every reading gives the same rate, or fails in the same way. -/
def HasFixedRate (a : ReserveAsset) : Prop := ∀ k, a.rateAt k = a.rateAt 0

theorem HasFixedRate.of_sameRates (h : a.SameRates a') (ha : a.HasFixedRate) :
    a'.HasFixedRate := by
  intro k
  rw [h.rates, h.rates, ha]

theorem hasFixedRate_pool (p : SharePool) : (pool p).HasFixedRate := by
  have hsame : (Act.run exchangeRate (pool p)).2 = pool p := by
    unfold Act.run exchangeRate
    dsimp only
    cases p.exchangeRate <;> rfl
  intro k
  induction k with
  | zero => rfl
  | succ k ih =>
      rw [← rateAt_after_reading, hsame]
      exact ih

theorem stable_sameRates (ha : a.HasFixedRate) : Act.Stable a.SameRates exchangeRate := by
  constructor
  intro b hb
  constructor
  · rw [symbol_after_reading, hb.symbol]
  · intro k
    rw [rateAt_after_reading, hb.rates, ha, ha k]

end ReserveAsset

/-!
# Rebasing ledgers
-/

namespace RebasingLedger

variable {p : String → Prop} {d : Int} {w w' : RebasingLedger} {holder : String}
  {amount index : Int} {α : Type}

structure MatchesOn (p : String → Prop) (d : Int) (w w' : RebasingLedger) : Prop where
  ledger : w.ledger.MatchesOn p d w'.ledger
  asset : w.asset.SameRates w'.asset
  pinned : w'.pinned = w.pinned

theorem MatchesOn.internalSharesOf_eq (h : w.MatchesOn p d w') (hp : p (Text.lower holder)) :
    w'.internalSharesOf holder = w.internalSharesOf holder :=
  h.ledger.sharesOf_eq hp

theorem respects_onLedger {m : Act ShareLedger α}
    (hm : Act.Respects (ShareLedger.MatchesOn p d) m) :
    Act.Respects (MatchesOn p d) (onLedger m) :=
  Act.Respects.within (fun _ _ h => h.ledger) (fun _ _ _ _ h hl => ⟨hl, h.asset, h.pinned⟩) hm

theorem respects_snapshot : Act.Respects (MatchesOn p d) snapshot := by
  unfold snapshot
  apply Act.Respects.of_current
  · intro w w' h
    rw [h.pinned, h.asset.symbol]
  · intro w w' _
    cases w.pinned with
    | some rate => exact Act.Respects.pure rate
    | none =>
        apply Act.Respects.bind
        · exact Act.Respects.within (fun _ _ h => h.asset)
            (fun _ _ _ _ h ha => ⟨h.ledger, ha, h.pinned⟩) ReserveAsset.respects_exchangeRate
        · intro rate
          apply Act.Respects.bind
          · exact Act.Respects.update fun _ _ h => ⟨h.ledger, h.asset, h.pinned⟩
          · intro _
            exact Act.Respects.ite (Act.Respects.refuse _) (Act.Respects.pure rate)

theorem respects_pinRate : Act.Respects (MatchesOn p d) pinRate := by
  unfold pinRate
  apply Act.Respects.of_current
  · intro w w' h
    rw [h.pinned]
  · intro w w' _
    cases w.pinned with
    | some rate => exact Act.Respects.pure (rate, false)
    | none =>
        apply Act.Respects.bind respects_snapshot
        intro rate
        apply Act.Respects.bind
        · exact Act.Respects.update fun _ _ h => ⟨h.ledger, h.asset, rfl⟩
        · intro _
          exact Act.Respects.pure (rate, true)

theorem respects_withPinnedRate {m : Int → Act RebasingLedger α}
    (hm : ∀ rate, Act.Respects (MatchesOn p d) (m rate)) :
    Act.Respects (MatchesOn p d) (withPinnedRate m) := by
  unfold withPinnedRate
  apply Act.Respects.bind respects_pinRate
  intro pin
  exact Act.Respects.ite
    (Act.Respects.thenAlways (hm pin.1) fun _ _ h => ⟨h.ledger, h.asset, rfl⟩) (hm pin.1)

theorem respects_deposit (hp : p (Text.lower holder)) :
    Act.Respects (MatchesOn p d) (deposit holder amount index) := by
  unfold deposit
  apply Act.Respects.ite (Act.Respects.refuse _)
  apply Act.Respects.bind
  · apply respects_withPinnedRate
    intro rate
    apply Act.Respects.bind (Act.Respects.refusable _)
    intro scaled
    apply Act.Respects.ite (Act.Respects.refuse _)
    apply Act.Respects.bind (Act.Respects.refusable _)
    intro shares
    apply Act.Respects.ite (Act.Respects.refuse _)
    apply Act.Respects.of_current
    · intro w w' h
      rw [h.internalSharesOf_eq hp]
    · intro w w' _
      exact Act.Respects.bind (respects_onLedger (ShareLedger.respects_applyDelta hp))
        fun _ => Act.Respects.pure _
  · intro booking
    exact Act.Respects.bind (Act.Respects.note _) fun _ => Act.Respects.pure _

theorem respects_withdraw (hp : p (Text.lower holder)) :
    Act.Respects (MatchesOn p d) (withdraw holder amount index) := by
  unfold withdraw
  apply Act.Respects.bind
  · apply respects_withPinnedRate
    intro rate
    apply Act.Respects.of_current
    · intro w w' h
      rw [h.internalSharesOf_eq hp]
    · intro w w' _
      apply Act.Respects.bind (Act.Respects.refusable _)
      intro scaled
      apply Act.Respects.bind (Act.Respects.refusable _)
      intro balance
      apply Act.Respects.ite (Act.Respects.refuse _)
      apply Act.Respects.ite (Act.Respects.refuse _)
      apply Act.Respects.bind (Act.Respects.refusable _)
      intro quotient
      apply Act.Respects.bind (Act.Respects.refusable _)
      intro shares
      apply Act.Respects.ite (Act.Respects.refuse _)
      exact Act.Respects.bind (respects_onLedger (ShareLedger.respects_applyDelta hp))
        fun _ => Act.Respects.pure _
  · intro booking
    exact Act.Respects.bind (Act.Respects.note _) fun _ => Act.Respects.pure _

theorem respects_transfer {sender recipient : String} (hsender : p (Text.lower sender))
    (hrecipient : p (Text.lower recipient)) :
    Act.Respects (MatchesOn p d) (transfer sender recipient amount index) := by
  unfold transfer
  apply Act.Respects.ite (Act.Respects.refuse _)
  apply respects_withPinnedRate
  intro rate
  apply Act.Respects.of_current
  · intro w w' h
    rw [h.internalSharesOf_eq hsender]
  · intro w w' _
    apply Act.Respects.bind (Act.Respects.refusable _)
    intro scaled
    apply Act.Respects.bind (Act.Respects.refusable _)
    intro balance
    apply Act.Respects.ite (Act.Respects.refuse _)
    apply Act.Respects.bind (Act.Respects.refusable _)
    intro quotient
    apply Act.Respects.bind (Act.Respects.refusable _)
    intro shares
    exact Act.Respects.bind
      (respects_onLedger (ShareLedger.respects_moveShares hsender hrecipient))
      fun _ => Act.Respects.pure _

end RebasingLedger

/-!
# Both kinds of books
-/

namespace BalanceModel

variable {p : String → Prop} {d : Int} {m m' : BalanceModel} {holder : String}
  {amount index : Int} {α : Type}

inductive MatchesOn (p : String → Prop) (d : Int) : BalanceModel → BalanceModel → Prop where
  | plain {l l' : ShareLedger} (h : l.MatchesOn p d l') : MatchesOn p d (.plain l) (.plain l')
  | rebasing {w w' : RebasingLedger} (h : w.MatchesOn p d w') :
      MatchesOn p d (.rebasing w) (.rebasing w')

namespace MatchesOn

theorem ledger (h : m.MatchesOn p d m') : m.ledger.MatchesOn p d m'.ledger := by
  cases h with
  | plain h => exact h
  | rebasing h => exact h.ledger

theorem rewardBasisOf_eq (h : m.MatchesOn p d m') (hp : p (Text.lower holder)) :
    m'.rewardBasisOf holder = m.rewardBasisOf holder :=
  h.ledger.sharesOf_eq hp

theorem unpinned (h : m.MatchesOn p d m') : m.unpinned.MatchesOn p d m'.unpinned := by
  cases h with
  | plain h => exact .plain h
  | rebasing h => exact .rebasing ⟨h.ledger, h.asset, rfl⟩

end MatchesOn

theorem respects_dispatch {onPlain : Act ShareLedger α} {onRebasing : Act RebasingLedger α}
    (hplain : Act.Respects (ShareLedger.MatchesOn p d) onPlain)
    (hrebasing : Act.Respects (RebasingLedger.MatchesOn p d) onRebasing) :
    Act.Respects (MatchesOn p d) (dispatch onPlain onRebasing) := by
  apply Act.Respects.of_run
  intro m m' h
  cases h with
  | plain h => exact ⟨hplain.outcome_eq h, .plain (hplain.after h)⟩
  | rebasing h => exact ⟨hrebasing.outcome_eq h, .rebasing (hrebasing.after h)⟩

theorem respects_mint (hp : p (Text.lower holder)) :
    Act.Respects (MatchesOn p d) (mint holder amount index) :=
  respects_dispatch (ShareLedger.respects_mint hp) (RebasingLedger.respects_deposit hp)

theorem respects_burn (hp : p (Text.lower holder)) :
    Act.Respects (MatchesOn p d) (burn holder amount index) :=
  respects_dispatch (ShareLedger.respects_burn hp) (RebasingLedger.respects_withdraw hp)

theorem respects_transfer {sender recipient : String} (hsender : p (Text.lower sender))
    (hrecipient : p (Text.lower recipient)) :
    Act.Respects (MatchesOn p d) (transfer sender recipient amount index) :=
  respects_dispatch (ShareLedger.respects_transfer hsender hrecipient)
    (RebasingLedger.respects_transfer hsender hrecipient)

theorem respects_pinRate : Act.Respects (MatchesOn p d) pinRate := by
  apply respects_dispatch
  · unfold view
    apply Act.Respects.of_current
    · intro l l' _
      rfl
    · intro l l' _
      exact Act.Respects.refusable _
  · exact Act.Respects.bind RebasingLedger.respects_pinRate fun _ => Act.Respects.pure _

/-!
# Assets behind the books
-/

def AssetIs (q : ReserveAsset → Prop) (m : BalanceModel) : Prop := ∀ a, m.asset? = some a → q a

def HasFixedRate (m : BalanceModel) : Prop := m.AssetIs ReserveAsset.HasFixedRate

def SameRates (m m' : BalanceModel) : Prop := m'.AssetIs fun a' => m.AssetIs (·.SameRates a')

theorem sameRates_refl (m : BalanceModel) : m.SameRates m := by
  intro a ha a' ha'
  rw [ha] at ha'
  cases ha'
  exact ReserveAsset.SameRates.refl a

theorem MatchesOn.of_alike (halike : m.Alike m') (hrates : m.SameRates m')
    (hledger : m.ledger.MatchesOn p d m'.ledger) : m.MatchesOn p d m' := by
  rcases halike with ⟨hkind, hpinned⟩
  cases m with
  | plain l =>
      cases m' with
      | plain l' => exact .plain hledger
      | rebasing w' => cases hkind
  | rebasing w =>
      cases m' with
      | plain l' => cases hkind
      | rebasing w' => exact .rebasing ⟨hledger, hrates w'.asset rfl w.asset rfl, hpinned⟩

theorem MatchesOn.hasFixedRate (h : m.MatchesOn p d m') (hm : m.HasFixedRate) :
    m'.HasFixedRate := by
  cases h with
  | plain h => intro a ha; cases ha
  | rebasing h =>
      intro a ha
      cases ha
      exact ReserveAsset.HasFixedRate.of_sameRates h.asset (hm _ rfl)

variable {q : ReserveAsset → Prop}

theorem stable_assetIs_dispatch {onPlain : Act ShareLedger α} {onRebasing : Act RebasingLedger α}
    (h : Act.Stable (RebasingLedger.Over q) onRebasing) :
    Act.Stable (AssetIs q) (dispatch onPlain onRebasing) := by
  constructor
  intro m hm
  cases m with
  | plain l => intro a ha; cases ha
  | rebasing w =>
      intro a ha
      cases ha
      exact h.after w (hm w.asset rfl)

theorem assetIs_unpinned (h : m.AssetIs q) : m.unpinned.AssetIs q := by
  cases m with
  | plain l => exact h
  | rebasing w => exact h

theorem stable_sameRates (hm : m.HasFixedRate) :
    Act.Stable (fun a' => m.AssetIs (·.SameRates a')) ReserveAsset.exchangeRate := by
  constructor
  intro b hb a ha
  exact (ReserveAsset.stable_sameRates (hm a ha)).after b (hb a ha)

end BalanceModel
end ReserveAccounting
