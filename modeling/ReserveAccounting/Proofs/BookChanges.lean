import ReserveAccounting.BalanceModel
import ReserveAccounting.Proofs.ShareChanges

/-!
# Changes of the books

The two kinds of books change their shares alike: a mint credits one holder, a
burn debits one, a transfer moves shares between two, and what is refused
leaves the shares alone. A rate that a change pins is unpinned when it ends.
-/

namespace ReserveAccounting

open FixedPoint

namespace RebasingLedger

variable {α : Type} {w : RebasingLedger}

/-!
# Reading and pinning the rate
-/

theorem leaves_exchangeRate {a : ReserveAsset}
    {answered : Int → ReserveAsset → Prop} {failed : Fault → ReserveAsset → Prop}
    (hok : ∀ rate a', answered rate a') (hfail : ∀ e a', failed e a') :
    ReserveAsset.exchangeRate.Leaves a answered failed :=
  Act.leaves_of_run (fun rate a' _ => hok rate a') (fun e a' _ => hfail e a')

theorem leaves_snapshot :
    snapshot.Leaves w
      (fun _ w' => w'.ledger = w.ledger ∧ w'.pinned = w.pinned)
      (fun _ w' => w'.ledger = w.ledger ∧ w'.pinned = w.pinned) := by
  unfold snapshot
  rw [Act.leaves_bind, Act.leaves_current]
  cases hpin : w.pinned with
  | some rate => exact ⟨rfl, hpin⟩
  | none =>
      dsimp only
      rw [Act.leaves_bind, onAsset, Act.leaves_within]
      apply leaves_exchangeRate
      · intro rate a'
        rw [Act.leaves_bind, Act.leaves_update, Act.leaves_ite]
        constructor
        · intro _
          exact ⟨rfl, hpin⟩
        · intro _
          exact ⟨rfl, hpin⟩
      · intro e a'
        exact ⟨rfl, hpin⟩

theorem leaves_pinRate :
    pinRate.Leaves w
      (fun p w' => w'.ledger = w.ledger ∧ w'.pinned = some p.1 ∧
        (p.2 = false → w.pinned = some p.1) ∧ (p.2 = true → w.pinned = none))
      (fun _ w' => w'.ledger = w.ledger ∧ w'.pinned = w.pinned) := by
  unfold pinRate
  rw [Act.leaves_bind, Act.leaves_current]
  cases hpin : w.pinned with
  | some rate =>
      refine ⟨rfl, hpin, fun _ => rfl, ?_⟩
      intro h
      cases h
  | none =>
      dsimp only
      rw [Act.leaves_bind]
      apply leaves_snapshot.mono
      · intro rate w' hleft
        rcases hleft with ⟨hledger, _⟩
        refine ⟨hledger, rfl, ?_, fun _ => rfl⟩
        intro h
        cases h
      · intro e w' hleft
        rcases hleft with ⟨hledger, hpinned⟩
        exact ⟨hledger, hpinned.trans hpin⟩

/--
A call at a pinned rate sees the shares as they are, and what it leaves of them
stays; the pin is afterwards as it was before.
-/
theorem leaves_withPinnedRate {m : Int → Act RebasingLedger α}
    (answered : α → ShareLedger → Prop) (failed : Fault → ShareLedger → Prop)
    (hm : ∀ rate w₁, w₁.ledger = w.ledger →
      (m rate).Leaves w₁
        (fun a w' => answered a w'.ledger ∧ w'.pinned = w₁.pinned)
        (fun e w' => failed e w'.ledger ∧ w'.pinned = w₁.pinned))
    (hfail : ∀ e, failed e w.ledger) :
    (withPinnedRate m).Leaves w
      (fun a w' => answered a w'.ledger ∧ w'.pinned = w.pinned)
      (fun e w' => failed e w'.ledger ∧ w'.pinned = w.pinned) := by
  unfold withPinnedRate
  rw [Act.leaves_bind]
  apply leaves_pinRate.mono
  · intro h w₁ hleft
    rcases h with ⟨rate, mine⟩
    rcases hleft with ⟨hledger, hpinned, hnotMine, hmine⟩
    dsimp only at hpinned hnotMine hmine ⊢
    cases mine with
    | true =>
        rw [if_pos rfl, Act.leaves_thenAlways]
        apply (hm rate w₁ hledger).mono
        · intro a w' h
          rcases h with ⟨ha, _⟩
          exact ⟨ha, (hmine rfl).symm⟩
        · intro e w' h
          rcases h with ⟨he, _⟩
          exact ⟨he, (hmine rfl).symm⟩
    | false =>
        rw [if_neg Bool.false_ne_true]
        have hsame : w₁.pinned = w.pinned := hpinned.trans (hnotMine rfl).symm
        apply (hm rate w₁ hledger).mono
        · intro a w' h
          rcases h with ⟨ha, hkept⟩
          exact ⟨ha, hkept.trans hsame⟩
        · intro e w' h
          rcases h with ⟨he, hkept⟩
          exact ⟨he, hkept.trans hsame⟩
  · intro e w' h
    rcases h with ⟨hledger, hpinned⟩
    exact ⟨hledger ▸ hfail e, hpinned⟩

/-!
# Views and changes
-/

theorem leaves_valued {sharesOf : RebasingLedger → Int} {index : Int} :
    (do
      let scaled ← (do
        let rate ← snapshot
        let w ← Act.current
        rayMul (sharesOf w) rate : Act RebasingLedger Int)
      rayMul scaled index : Act RebasingLedger Int).Leaves w
      (fun _ w' => w'.ledger = w.ledger ∧ w'.pinned = w.pinned)
      (fun _ w' => w'.ledger = w.ledger ∧ w'.pinned = w.pinned) := by
  rw [Act.leaves_bind, Act.leaves_bind]
  apply leaves_snapshot.mono
  · intro rate w' h
    rw [Act.leaves_bind, Act.leaves_current, Act.leaves_refusable]
    refine ⟨fun scaled _ => ?_, fun _ _ => h⟩
    rw [Act.leaves_refusable]
    exact ⟨fun _ _ => h, fun _ _ => h⟩
  · intro e w' h
    exact h

theorem leaves_totalSupply {index : Int} :
    (totalSupply index).Leaves w
      (fun _ w' => w'.ledger = w.ledger ∧ w'.pinned = w.pinned)
      (fun _ w' => w'.ledger = w.ledger ∧ w'.pinned = w.pinned) := leaves_valued

theorem leaves_balanceOf {holder : String} {index : Int} :
    (balanceOf holder index).Leaves w
      (fun _ w' => w'.ledger = w.ledger ∧ w'.pinned = w.pinned)
      (fun _ w' => w'.ledger = w.ledger ∧ w'.pinned = w.pinned) := leaves_valued

theorem leaves_onLedger {m : Act ShareLedger α}
    {answered : α → RebasingLedger → Prop} {failed : Fault → RebasingLedger → Prop} :
    (onLedger m).Leaves w answered failed ↔
      m.Leaves w.ledger (fun a l => answered a { w with ledger := l })
        (fun e l => failed e { w with ledger := l }) :=
  Act.leaves_within

theorem leaves_deposit {holder : String} {amount index : Int} :
    (deposit holder amount index).Leaves w
      (fun _ w' => (∃ n, w.ledger.Credits (Text.lower holder) n w'.ledger) ∧ w'.pinned = w.pinned)
      (fun _ w' => w'.ledger = w.ledger ∧ w'.pinned = w.pinned) := by
  unfold deposit
  rw [Act.leaves_ite]
  constructor
  · intro _
    exact ⟨rfl, rfl⟩
  · intro _
    rw [Act.leaves_bind]
    refine (leaves_withPinnedRate
      (fun (p : Bool × Int × Int) l => w.ledger.Credits (Text.lower holder) p.2.1 l)
      (fun _ l => l = w.ledger) ?_ (fun _ => rfl)).mono ?_ ?_
    · intro rate w₁ hledger
      rw [Act.leaves_bind, Act.leaves_refusable]
      refine ⟨fun scaled _ => ?_, fun _ _ => ⟨hledger, rfl⟩⟩
      rw [Act.leaves_ite]
      refine ⟨fun _ => ⟨hledger, rfl⟩, fun _ => ?_⟩
      rw [Act.leaves_bind, Act.leaves_refusable]
      refine ⟨fun shares _ => ?_, fun _ _ => ⟨hledger, rfl⟩⟩
      rw [Act.leaves_ite]
      refine ⟨fun _ => ⟨hledger, rfl⟩, fun _ => ?_⟩
      rw [Act.leaves_bind, Act.leaves_current, Act.leaves_bind, leaves_onLedger]
      apply ShareLedger.leaves_applyDelta.mono
      · intro _ l' hleft
        rcases hleft with ⟨_, hsign, _, rfl⟩
        rw [Act.leaves_pure, hledger]
        exact ⟨⟨of_decide_eq_true hsign, rfl⟩, rfl⟩
      · intro _ l' hsame
        rcases hsame with rfl
        exact ⟨hledger, rfl⟩
    · intro hleft w' hcall
      rcases hleft with ⟨first, shares, rate⟩
      rcases hcall with ⟨hcredits, hpinned⟩
      exact ⟨⟨shares, hcredits⟩, hpinned⟩
    · intro _ w' h
      exact h

theorem leaves_withdraw {holder : String} {amount index : Int} :
    (withdraw holder amount index).Leaves w
      (fun _ w' => (∃ n, w.ledger.Debits (Text.lower holder) n w'.ledger) ∧ w'.pinned = w.pinned)
      (fun _ w' => w'.ledger = w.ledger ∧ w'.pinned = w.pinned) := by
  unfold withdraw
  rw [Act.leaves_bind]
  refine (leaves_withPinnedRate
    (fun (p : Int × Int × Int) l => w.ledger.Debits (Text.lower holder) p.2.1 l)
    (fun _ l => l = w.ledger) ?_ (fun _ => rfl)).mono ?_ ?_
  · intro rate w₁ hledger
    rw [Act.leaves_bind, Act.leaves_current, Act.leaves_bind, Act.leaves_refusable]
    refine ⟨fun scaled _ => ?_, fun _ _ => ⟨hledger, rfl⟩⟩
    rw [Act.leaves_bind, Act.leaves_refusable]
    refine ⟨fun balance _ => ?_, fun _ _ => ⟨hledger, rfl⟩⟩
    dsimp only
    rw [Act.leaves_ite]
    refine ⟨fun _ => ⟨hledger, rfl⟩, fun _ => ?_⟩
    rw [Act.leaves_ite]
    refine ⟨fun _ => ⟨hledger, rfl⟩, fun _ => ?_⟩
    rw [Act.leaves_bind, Act.leaves_refusable]
    refine ⟨fun quotient _ => ?_, fun _ _ => ⟨hledger, rfl⟩⟩
    rw [Act.leaves_bind, Act.leaves_refusable]
    refine ⟨fun shares _ => ?_, fun _ _ => ⟨hledger, rfl⟩⟩
    rw [Act.leaves_ite]
    refine ⟨fun _ => ⟨hledger, rfl⟩, fun _ => ?_⟩
    rw [Act.leaves_bind, leaves_onLedger]
    apply ShareLedger.leaves_applyDelta.mono
    · intro _ l' hleft
      rcases hleft with ⟨hzero, hsign, hheld, rfl⟩
      have hneg : ¬ 0 < -(min shares (w₁.internalSharesOf holder)) := of_decide_eq_false hsign
      rw [hledger] at hheld
      rw [Act.leaves_pure, hledger]
      dsimp only
      exact ⟨⟨by omega, by omega, rfl⟩, rfl⟩
    · intro _ l' hsame
      rcases hsame with rfl
      exact ⟨hledger, rfl⟩
  · intro hleft w' hcall
    rcases hleft with ⟨burned, shares, rate⟩
    rcases hcall with ⟨hdebits, hpinned⟩
    exact ⟨⟨shares, hdebits⟩, hpinned⟩
  · intro _ w' h
    exact h

theorem leaves_transfer {sender recipient : String} {amount index : Int}
    (hl : ∀ name, 0 ≤ w.ledger.held name) :
    (transfer sender recipient amount index).Leaves w
      (fun n w' => w.ledger.Moves (Text.lower sender) (Text.lower recipient) n w'.ledger ∧
        w'.pinned = w.pinned)
      (fun _ w' => w'.ledger = w.ledger ∧ w'.pinned = w.pinned) := by
  unfold transfer
  rw [Act.leaves_ite]
  constructor
  · intro _
    exact ⟨rfl, rfl⟩
  · intro _
    apply leaves_withPinnedRate
      (fun n l => w.ledger.Moves (Text.lower sender) (Text.lower recipient) n l)
      (fun _ l => l = w.ledger)
    · intro rate w₁ hledger
      rw [Act.leaves_bind, Act.leaves_current, Act.leaves_bind, Act.leaves_refusable]
      refine ⟨fun scaled _ => ?_, fun _ _ => ⟨hledger, rfl⟩⟩
      rw [Act.leaves_bind, Act.leaves_refusable]
      refine ⟨fun balance _ => ?_, fun _ _ => ⟨hledger, rfl⟩⟩
      rw [Act.leaves_ite]
      refine ⟨fun _ => ⟨hledger, rfl⟩, fun _ => ?_⟩
      rw [Act.leaves_bind, Act.leaves_refusable]
      refine ⟨fun quotient _ => ?_, fun _ _ => ⟨hledger, rfl⟩⟩
      rw [Act.leaves_bind, Act.leaves_refusable]
      refine ⟨fun shares _ => ?_, fun _ _ => ⟨hledger, rfl⟩⟩
      rw [Act.leaves_bind, leaves_onLedger]
      apply (ShareLedger.leaves_moveShares (hledger ▸ hl)).mono
      · intro _ l' hmoves
        rw [hledger] at hmoves
        exact ⟨hmoves, rfl⟩
      · intro _ l' hsame
        rcases hsame with rfl
        exact ⟨hledger, rfl⟩
    · intro _
      rfl

end RebasingLedger

/-!
# Both kinds of books
-/

namespace BalanceModel

variable {m m' : BalanceModel} {α : Type}

def pinned? : BalanceModel → Option Int
  | plain _ => none
  | rebasing w => w.pinned

/-- Books of one kind with the same pin. -/
def Alike (m m' : BalanceModel) : Prop := m'.isRebasing = m.isRebasing ∧ m'.pinned? = m.pinned?

theorem leaves_dispatch_plain {onPlain : Act ShareLedger α} {onRebasing : Act RebasingLedger α}
    {l : ShareLedger} {answered : α → BalanceModel → Prop} {failed : Fault → BalanceModel → Prop} :
    (dispatch onPlain onRebasing).Leaves (plain l) answered failed ↔
      onPlain.Leaves l (fun a l' => answered a (plain l')) (fun e l' => failed e (plain l')) :=
  Act.leaves_embed rfl

theorem leaves_dispatch_rebasing {onPlain : Act ShareLedger α} {onRebasing : Act RebasingLedger α}
    {w : RebasingLedger} {answered : α → BalanceModel → Prop}
    {failed : Fault → BalanceModel → Prop} :
    (dispatch onPlain onRebasing).Leaves (rebasing w) answered failed ↔
      onRebasing.Leaves w (fun a w' => answered a (rebasing w'))
        (fun e w' => failed e (rebasing w')) :=
  Act.leaves_embed rfl

theorem leaves_dispatch {onPlain : Act ShareLedger α} {onRebasing : Act RebasingLedger α}
    (answered : α → ShareLedger → Prop) (failed : Fault → ShareLedger → Prop)
    (hplain : ∀ l, m = plain l → onPlain.Leaves l answered failed)
    (hrebasing : ∀ w, m = rebasing w → onRebasing.Leaves w
      (fun a w' => answered a w'.ledger ∧ w'.pinned = w.pinned)
      (fun e w' => failed e w'.ledger ∧ w'.pinned = w.pinned)) :
    (dispatch onPlain onRebasing).Leaves m
      (fun a m' => answered a m'.ledger ∧ m.Alike m')
      (fun e m' => failed e m'.ledger ∧ m.Alike m') := by
  cases m with
  | plain l =>
      rw [leaves_dispatch_plain]
      apply (hplain l rfl).mono
      · intro a l' ha
        exact ⟨ha, rfl, rfl⟩
      · intro e l' he
        exact ⟨he, rfl, rfl⟩
  | rebasing w =>
      rw [leaves_dispatch_rebasing]
      apply (hrebasing w rfl).mono
      · intro a w' h
        rcases h with ⟨ha, hpinned⟩
        exact ⟨ha, rfl, hpinned⟩
      · intro e w' h
        rcases h with ⟨he, hpinned⟩
        exact ⟨he, rfl, hpinned⟩

theorem leaves_view {f : ShareLedger → Except Refusal α} {l : ShareLedger} :
    (view f).Leaves l (fun a l' => f l = .ok a ∧ l' = l) (fun _ l' => l' = l) := by
  unfold view
  rw [Act.leaves_bind, Act.leaves_current, Act.leaves_refusable]
  exact ⟨fun a h => ⟨h, rfl⟩, fun _ _ => rfl⟩

theorem leaves_reading {f : ShareLedger → Except Refusal α} {onRebasing : Act RebasingLedger α}
    (h : ∀ w, onRebasing.Leaves w (fun _ w' => w'.ledger = w.ledger ∧ w'.pinned = w.pinned)
      (fun _ w' => w'.ledger = w.ledger ∧ w'.pinned = w.pinned)) :
    (dispatch (view f) onRebasing).Leaves m
      (fun _ m' => m'.ledger = m.ledger ∧ m.Alike m')
      (fun _ m' => m'.ledger = m.ledger ∧ m.Alike m') := by
  apply leaves_dispatch (fun _ l => l = m.ledger) (fun _ l => l = m.ledger)
  · intro l hsame
    rcases hsame with rfl
    exact leaves_view.mono (fun _ _ h => h.right) (fun _ _ h => h)
  · intro w hsame
    rcases hsame with rfl
    exact h w

theorem leaves_totalSupply {index : Int} :
    (totalSupply index).Leaves m
      (fun _ m' => m'.ledger = m.ledger ∧ m.Alike m')
      (fun _ m' => m'.ledger = m.ledger ∧ m.Alike m') :=
  leaves_reading fun _ => RebasingLedger.leaves_totalSupply

theorem leaves_balanceOf {holder : String} {index : Int} :
    (balanceOf holder index).Leaves m
      (fun _ m' => m'.ledger = m.ledger ∧ m.Alike m')
      (fun _ m' => m'.ledger = m.ledger ∧ m.Alike m') :=
  leaves_reading fun _ => RebasingLedger.leaves_balanceOf

theorem leaves_mint {holder : String} {amount index : Int} :
    (mint holder amount index).Leaves m
      (fun _ m' => (∃ n, m.ledger.Credits (Text.lower holder) n m'.ledger ∧
        (m.isRebasing = false → rayDiv amount index = .ok n)) ∧ m.Alike m')
      (fun _ m' => m'.ledger = m.ledger ∧ m.Alike m') := by
  apply leaves_dispatch
    (fun _ l => ∃ n, m.ledger.Credits (Text.lower holder) n l ∧
      (m.isRebasing = false → rayDiv amount index = .ok n))
    (fun _ l => l = m.ledger)
  · intro l hsame
    rcases hsame with rfl
    apply ShareLedger.leaves_mint.mono
    · intro _ l' hleft
      rcases hleft with ⟨n, hcredits, hn⟩
      exact ⟨n, hcredits, fun _ => hn⟩
    · intro _ l' h
      exact h
  · intro w hsame
    rcases hsame with rfl
    apply RebasingLedger.leaves_deposit.mono
    · intro _ w' hleft
      rcases hleft with ⟨⟨n, hcredits⟩, hpinned⟩
      exact ⟨⟨n, hcredits, fun h => nomatch h⟩, hpinned⟩
    · intro _ w' h
      exact h

theorem leaves_burn {holder : String} {amount index : Int} :
    (burn holder amount index).Leaves m
      (fun _ m' => (∃ n, m.ledger.Debits (Text.lower holder) n m'.ledger ∧
        (m.isRebasing = false → m.ledger.BurnOf (Text.lower holder) amount index n)) ∧ m.Alike m')
      (fun _ m' => m'.ledger = m.ledger ∧ m.Alike m') := by
  apply leaves_dispatch
    (fun _ l => ∃ n, m.ledger.Debits (Text.lower holder) n l ∧
      (m.isRebasing = false → m.ledger.BurnOf (Text.lower holder) amount index n))
    (fun _ l => l = m.ledger)
  · intro l hsame
    rcases hsame with rfl
    apply ShareLedger.leaves_burn.mono
    · intro _ l' hleft
      rcases hleft with ⟨n, hdebits, hn⟩
      exact ⟨n, hdebits, fun _ => hn⟩
    · intro _ l' h
      exact h
  · intro w hsame
    rcases hsame with rfl
    apply RebasingLedger.leaves_withdraw.mono
    · intro _ w' hleft
      rcases hleft with ⟨⟨n, hdebits⟩, hpinned⟩
      exact ⟨⟨n, hdebits, fun h => nomatch h⟩, hpinned⟩
    · intro _ w' h
      exact h

theorem leaves_transfer {sender recipient : String} {amount index : Int}
    (hm : ∀ name, 0 ≤ m.ledger.held name) :
    (transfer sender recipient amount index).Leaves m
      (fun _ m' => (∃ n, m.ledger.Moves (Text.lower sender) (Text.lower recipient) n m'.ledger ∧
        (m.isRebasing = false → m.ledger.TransferOf (Text.lower sender) amount index n)) ∧
        m.Alike m')
      (fun _ m' => m'.ledger = m.ledger ∧ m.Alike m') := by
  apply leaves_dispatch
    (fun _ l => ∃ n, m.ledger.Moves (Text.lower sender) (Text.lower recipient) n l ∧
      (m.isRebasing = false → m.ledger.TransferOf (Text.lower sender) amount index n))
    (fun _ l => l = m.ledger)
  · intro l hsame
    rcases hsame with rfl
    apply (ShareLedger.leaves_transfer hm).mono
    · intro _ l' hleft
      rcases hleft with ⟨n, hmoves, hn⟩
      exact ⟨n, hmoves, fun _ => hn⟩
    · intro _ l' h
      exact h
  · intro w hsame
    rcases hsame with rfl
    apply (RebasingLedger.leaves_transfer hm).mono
    · intro n w' hleft
      rcases hleft with ⟨hmoves, hpinned⟩
      exact ⟨⟨n, hmoves, fun h => nomatch h⟩, hpinned⟩
    · intro _ w' h
      exact h

theorem leaves_pinRate :
    pinRate.Leaves m
      (fun mine m' => m'.ledger = m.ledger ∧ m'.isRebasing = m.isRebasing ∧
        (mine = true → m.pinned? = none) ∧ (mine = false → m'.pinned? = m.pinned?))
      (fun _ m' => m'.ledger = m.ledger ∧ m.Alike m') := by
  cases m with
  | plain l =>
      rw [Act.leaves_embed (show pinRate (plain l) = Act.embed plain _ l from rfl)]
      apply leaves_view.mono
      · intro mine l' hleft
        rcases hleft with ⟨hmine, rfl⟩
        cases hmine
        refine ⟨rfl, rfl, ?_, fun _ => rfl⟩
        intro h
        cases h
      · intro _ l' hsame
        rcases hsame with rfl
        exact ⟨rfl, rfl, rfl⟩
  | rebasing w =>
      rw [Act.leaves_embed (show pinRate (rebasing w) = Act.embed rebasing _ w from rfl),
        Act.leaves_bind]
      apply RebasingLedger.leaves_pinRate.mono
      · intro hleft w' hcall
        rcases hleft with ⟨rate, mine⟩
        rcases hcall with ⟨hledger, hpinned, hnotMine, hmine⟩
        exact ⟨hledger, rfl, hmine, fun h => hpinned.trans (hnotMine h).symm⟩
      · intro _ w' hleft
        rcases hleft with ⟨hledger, hpinned⟩
        exact ⟨hledger, rfl, hpinned⟩

theorem ledger_unpinned (m : BalanceModel) : m.unpinned.ledger = m.ledger := by
  cases m <;> rfl

theorem pinned?_unpinned (m : BalanceModel) : m.unpinned.pinned? = none := by
  cases m <;> rfl

theorem isRebasing_unpinned (m : BalanceModel) : m.unpinned.isRebasing = m.isRebasing := by
  cases m <;> rfl

theorem ledger_withAsset (m : BalanceModel) (a : ReserveAsset) :
    (m.withAsset a).ledger = m.ledger := by
  cases m <;> rfl

theorem alike_withAsset (m : BalanceModel) (a : ReserveAsset) : m.Alike (m.withAsset a) := by
  cases m <;> exact ⟨rfl, rfl⟩

end BalanceModel
end ReserveAccounting
