import ReserveAccounting.Proofs.TokenSpecs
import ReserveAccounting.Proofs.ViewValues

/-!
# The shares that a change books

An amount asks for shares: its quotient by the index, and over an asset the
quotient of that by the rate, which a mint rounds down and a transfer to the
nearest. What a change that answers has booked follows from the amount, the index
and the rate that a reading gives; nothing has to be known about the ledger.
-/

namespace ReserveAccounting

open FixedPoint

/-!
# How amounts are converted
-/

namespace BalanceModel

variable {m m' : BalanceModel} {index amount held n : Int}

/-- Shares for an amount: divided by the index, and over an asset once more by the rate. -/
def Converts (m : BalanceModel) (divide : Int → Int → Except Refusal Int) (index amount n : Int) :
    Prop :=
  match m.rate? with
  | none => rayDiv amount index = .ok n
  | some reading => ∃ rate scaled, reading = .ok rate ∧ rayDiv amount index = .ok scaled ∧
      divide scaled rate = .ok n

def Buys (m : BalanceModel) (index amount n : Int) : Prop := m.Converts rayDivFloor index amount n

/-- The shares that a transfer of an amount takes from one who has some, and no more than those. -/
def Hands (m : BalanceModel) (held index amount n : Int) : Prop :=
  ∃ value asked, m.presentedValue index held = .ok value ∧ amount ≤ value ∧
    m.Converts rayDiv index amount asked ∧ n = min asked held

theorem Buys.of_rate (h : m'.Buys index amount n) (hrate : m'.rate? = m.rate?) :
    m.Buys index amount n := by
  unfold Buys Converts at *
  rw [hrate] at h
  exact h

theorem Hands.of_rate (h : m'.Hands held index amount n) (hrate : m'.rate? = m.rate?) :
    m.Hands held index amount n := by
  unfold Hands presentedValue Converts at *
  rw [scaledValue_congr hrate, hrate] at h
  exact h

end BalanceModel

/-!
# Changes of the books
-/

namespace ShareLedger

variable {l : ShareLedger} {sender recipient : String} {amount index n : Int}

theorem answers_moveShares :
    (moveShares sender recipient n).Leaves l
      (fun _ l' => l.Moves (Text.lower sender) (Text.lower recipient) n l') (fun _ _ => True) := by
  unfold moveShares
  rw [Act.leaves_bind, Act.leaves_current, Act.leaves_ite]
  refine ⟨fun _ => trivial, fun hle => ?_⟩
  rw [Act.leaves_ite]
  refine ⟨fun hzero => Or.inl ⟨hzero, rfl⟩, fun _ => ?_⟩
  rw [Act.leaves_bind]
  apply leaves_applyDelta.mono _ fun _ _ _ => trivial
  intro _ l₁ h
  rcases h with ⟨_, _, _, rfl⟩
  rw [Act.leaves_bind]
  apply leaves_applyDelta.mono _ fun _ _ _ => trivial
  intro _ l₂ h
  rcases h with ⟨_, hsign, _, rfl⟩
  exact Or.inr ⟨of_decide_eq_true hsign, not_lt.mp hle, rfl⟩

theorem answers_transfer :
    (transfer sender recipient amount index).Leaves l
      (fun _ l' => ∃ n, l.TransferOf (Text.lower sender) amount index n ∧
        l.Moves (Text.lower sender) (Text.lower recipient) n l')
      (fun _ _ => True) := by
  unfold transfer
  rw [Act.leaves_ite]
  refine ⟨fun _ => trivial, fun _ => ?_⟩
  rw [Act.leaves_bind, Act.leaves_current, Act.leaves_bind, Act.leaves_refusable]
  refine ⟨fun value hvalue => ?_, fun _ _ => trivial⟩
  rw [Act.leaves_ite]
  refine ⟨fun _ => trivial, fun hle => ?_⟩
  rw [Act.leaves_bind, Act.leaves_refusable]
  refine ⟨fun asked hasked => ?_, fun _ _ => trivial⟩
  rw [Act.leaves_bind]
  apply answers_moveShares.mono _ fun _ _ _ => trivial
  intro _ l' hmoves
  exact ⟨_, ⟨value, asked, hvalue, not_lt.mp hle, hasked, rfl⟩, hmoves⟩

end ShareLedger

namespace RebasingLedger

variable {w : RebasingLedger} {holder sender recipient : String} {amount index : Int}

theorem answers_deposit :
    (deposit holder amount index).Leaves w
      (fun _ w' => ∃ n, (BalanceModel.rebasing w).Buys index amount n ∧
        w.ledger.Credits (Text.lower holder) n w'.ledger)
      (fun _ _ => True) := by
  unfold deposit
  rw [Act.leaves_ite]
  refine ⟨fun _ => trivial, fun _ => ?_⟩
  rw [Act.leaves_bind]
  apply (reads_withPinnedRate
    (fun (p : Bool × Int × Int) l => (BalanceModel.rebasing w).Buys index amount p.2.1 ∧
      w.ledger.Credits (Text.lower holder) p.2.1 l)
    (fun _ _ => True) ?_ fun _ _ _ => trivial).mono
    (fun p _ h => ⟨p.2.1, h⟩) (fun _ _ _ => trivial)
  intro rate w' hrate hledger
  rw [Act.leaves_bind, Act.leaves_refusable]
  refine ⟨fun scaled hscaled => ?_, fun _ _ => trivial⟩
  rw [Act.leaves_ite]
  refine ⟨fun _ => trivial, fun _ => ?_⟩
  rw [Act.leaves_bind, Act.leaves_refusable]
  refine ⟨fun shares hshares => ?_, fun _ _ => trivial⟩
  rw [Act.leaves_ite]
  refine ⟨fun _ => trivial, fun _ => ?_⟩
  rw [Act.leaves_bind, Act.leaves_current, Act.leaves_bind, leaves_onLedger, hledger]
  apply ShareLedger.leaves_applyDelta.mono _ fun _ _ _ => trivial
  intro _ l' h
  rcases h with ⟨_, hsign, _, rfl⟩
  exact ⟨⟨rate, scaled, hrate, hscaled, hshares⟩, of_decide_eq_true hsign, rfl⟩

theorem answers_transfer :
    (transfer sender recipient amount index).Leaves w
      (fun _ w' => ∃ n,
        (BalanceModel.rebasing w).Hands (w.ledger.held (Text.lower sender)) index amount n ∧
        w.ledger.Moves (Text.lower sender) (Text.lower recipient) n w'.ledger)
      (fun _ _ => True) := by
  unfold transfer
  rw [Act.leaves_ite]
  refine ⟨fun _ => trivial, fun _ => ?_⟩
  apply reads_withPinnedRate
    (fun _ l => ∃ n,
      (BalanceModel.rebasing w).Hands (w.ledger.held (Text.lower sender)) index amount n ∧
      w.ledger.Moves (Text.lower sender) (Text.lower recipient) n l)
    (fun _ _ => True) ?_ fun _ _ _ => trivial
  intro rate w' hrate hledger
  have hheld : w'.internalSharesOf sender = w.ledger.held (Text.lower sender) := by
    unfold internalSharesOf
    rw [hledger]
    rfl
  rw [Act.leaves_bind, Act.leaves_current, hheld, Act.leaves_bind, Act.leaves_refusable]
  refine ⟨fun scaled hscaled => ?_, fun _ _ => trivial⟩
  rw [Act.leaves_bind, Act.leaves_refusable]
  refine ⟨fun value hvalue => ?_, fun _ _ => trivial⟩
  rw [Act.leaves_ite]
  refine ⟨fun _ => trivial, fun hle => ?_⟩
  rw [Act.leaves_bind, Act.leaves_refusable]
  refine ⟨fun quotient hquotient => ?_, fun _ _ => trivial⟩
  rw [Act.leaves_bind, Act.leaves_refusable]
  refine ⟨fun asked hasked => ?_, fun _ _ => trivial⟩
  rw [Act.leaves_bind, leaves_onLedger, hledger]
  apply ShareLedger.answers_moveShares.mono _ fun _ _ _ => trivial
  intro _ l' hmoves
  refine ⟨_, ⟨value, asked, ?_, not_lt.mp hle, ⟨rate, quotient, hrate, hquotient, hasked⟩, rfl⟩,
    hmoves⟩
  exact BalanceModel.presentedValue_of_scaledValue
    (BalanceModel.scaledValue_of_rate hrate hscaled) hvalue

end RebasingLedger

namespace BalanceModel

variable {m : BalanceModel} {holder sender recipient : String} {amount index : Int}

theorem answers_mint :
    (mint holder amount index).Leaves m
      (fun _ m' => (∃ n, m.Buys index amount n ∧
        m.ledger.Credits (Text.lower holder) n m'.ledger) ∧ m'.isRebasing = m.isRebasing)
      (fun _ _ => True) := by
  unfold mint
  cases m with
  | plain l =>
      rw [leaves_dispatch_plain]
      apply ShareLedger.leaves_mint.mono _ fun _ _ _ => trivial
      intro _ l' h
      rcases h with ⟨n, hcredits, hn⟩
      exact ⟨⟨n, hn, hcredits⟩, rfl⟩
  | rebasing w =>
      rw [leaves_dispatch_rebasing]
      exact RebasingLedger.answers_deposit.mono (fun _ _ h => ⟨h, rfl⟩) (fun _ _ _ => trivial)

theorem answers_transfer :
    (transfer sender recipient amount index).Leaves m
      (fun _ m' => (∃ n, m.Hands (m.ledger.held (Text.lower sender)) index amount n ∧
        m.ledger.Moves (Text.lower sender) (Text.lower recipient) n m'.ledger) ∧
        m'.isRebasing = m.isRebasing)
      (fun _ _ => True) := by
  unfold transfer
  cases m with
  | plain l =>
      rw [leaves_dispatch_plain]
      apply ShareLedger.answers_transfer.mono _ fun _ _ _ => trivial
      intro _ l' h
      rcases h with ⟨n, ⟨value, asked, hvalue, hle, hasked, hn⟩, hmoves⟩
      exact ⟨⟨n, ⟨value, asked, presentedValue_of_scaledValue rfl hvalue, hle, hasked, hn⟩, hmoves⟩,
        rfl⟩
  | rebasing w =>
      rw [leaves_dispatch_rebasing]
      exact RebasingLedger.answers_transfer.mono (fun _ _ h => ⟨h, rfl⟩) (fun _ _ _ => trivial)

end BalanceModel

/-!
# Changes of a token
-/

namespace DepositToken

variable {s : DepositToken} {α : Type} {accounts : List String}
  {caller holder sender recipient : String} {amount index : Int}

theorem answers_applyChange {change : Act BalanceModel α} (booked : ShareLedger → Prop)
    (hchange : ∀ model : BalanceModel, model.ledger = s.model.ledger →
      model.rate? = s.model.rate? → change.Leaves model
        (fun _ model' => booked model'.ledger ∧ model'.isRebasing = model.isRebasing)
        (fun _ _ => True)) :
    (applyChange accounts change).Leaves s
      (fun _ s' => booked s'.model.ledger ∧ s'.isRebasing = s.isRebasing) (fun _ _ => True) := by
  have hpass : ∀ model : BalanceModel, model.ledger = s.model.ledger →
      model.rate? = s.model.rate? → model.isRebasing = s.model.isRebasing → (do
        let saved ← checkpointHolders accounts
        (onModel change).onRefusal (withRestored saved) : Act DepositToken α).Leaves
      { s with model := model }
      (fun _ s' => booked s'.model.ledger ∧ s'.isRebasing = s.isRebasing) (fun _ _ => True) := by
    intro model hledger hrate hkind
    rw [Act.leaves_bind]
    apply leaves_checkpointHolders.mono _ fun _ _ _ => trivial
    intro saved s₁ h
    rcases h with ⟨rfl, _⟩
    rw [Act.leaves_onRefusal, leaves_onModel]
    apply (hchange model hledger hrate).mono (fun _ _ h => ⟨h.left, h.right.trans hkind⟩)
    intro e _ _
    cases e <;> trivial
  unfold applyChange withPinnedRate
  rw [Act.leaves_bind, leaves_onModel]
  apply BalanceModel.reads_pinRate.mono _ fun _ _ _ => trivial
  intro mine model h
  rcases h with ⟨hrate, hledger, hkind⟩
  cases mine with
  | true =>
      rw [if_pos rfl, Act.leaves_thenAlways]
      apply (hpass model hledger hrate hkind).mono _ fun _ _ _ => trivial
      intro _ s' h
      rcases h with ⟨hbooked, hkept⟩
      rw [← BalanceModel.ledger_unpinned] at hbooked
      exact ⟨hbooked, (BalanceModel.isRebasing_unpinned _).trans hkept⟩
  | false => exact hpass model hledger hrate hkind

theorem answers_mint :
    (mint caller holder amount index).Leaves s
      (fun _ s' => (∃ n, s.model.Buys index amount n ∧
        s.model.ledger.Credits (Text.lower holder) n s'.model.ledger) ∧
        s'.isRebasing = s.isRebasing)
      (fun _ _ => True) := by
  unfold mint
  rw [Act.leaves_bind]
  apply leaves_requirePool.mono _ fun _ _ _ => trivial
  intro _ s₀ h
  rcases h with ⟨rfl, _⟩
  rw [Act.leaves_bind, Act.leaves_current, Act.leaves_bind, Act.leaves_refusable]
  refine ⟨fun _ _ => ?_, fun _ _ => trivial⟩
  rw [Act.leaves_bind]
  apply (answers_applyChange (fun l => ∃ n, s₀.model.Buys index amount n ∧
    s₀.model.ledger.Credits (Text.lower holder) n l) ?_).mono _ fun _ _ _ => trivial
  · intro model hledger hrate
    apply BalanceModel.answers_mint.mono _ fun _ _ _ => trivial
    intro _ model' h
    rcases h with ⟨⟨n, hbuys, hcredits⟩, hkind⟩
    rw [hledger, Text.lower_lower] at hcredits
    exact ⟨⟨n, hbuys.of_rate hrate, hcredits⟩, hkind⟩
  · intro _ s₁ h
    rw [Act.leaves_bind, leaves_onReserve]
    exact Act.leaves_of_run (fun _ _ _ => h) (fun _ _ _ => trivial)

theorem answers_mintToTreasury {index : Int} (hamount : amount ≠ 0) :
    (mintToTreasury caller amount index).Leaves s
      (fun _ s' => ∃ n, s.model.Buys index amount n ∧
        s.model.ledger.Credits (Text.lower s.treasury) n s'.model.ledger) (fun _ _ => True) := by
  unfold mintToTreasury
  rw [Act.leaves_bind]
  apply leaves_requirePool.mono _ fun _ _ _ => trivial
  intro _ s₀ h
  rcases h with ⟨rfl, _⟩
  rw [if_neg hamount, Act.leaves_bind, Act.leaves_current]
  exact answers_mint.mono (fun _ _ h => h.left) (fun _ _ _ => trivial)

theorem answers_transfer :
    (transfer sender recipient amount).Leaves s
      (fun _ s' => (∃ n,
        s.model.Hands (s.model.ledger.held (Text.lower sender)) s.index amount n ∧
        s.model.ledger.Moves (Text.lower sender) (Text.lower recipient) n s'.model.ledger) ∧
        s'.isRebasing = s.isRebasing)
      (fun _ _ => True) := by
  unfold transfer move
  rw [Act.leaves_bind, Act.leaves_bind, Act.leaves_current, Act.leaves_ite]
  refine ⟨fun _ => trivial, fun _ => ?_⟩
  rw [Act.leaves_bind]
  apply (answers_applyChange (fun l => ∃ n,
    s.model.Hands (s.model.ledger.held (Text.lower sender)) s.index amount n ∧
    s.model.ledger.Moves (Text.lower sender) (Text.lower recipient) n l) ?_).mono _
    fun _ _ _ => trivial
  · intro model hledger hrate
    apply BalanceModel.answers_transfer.mono _ fun _ _ _ => trivial
    intro _ model' h
    rcases h with ⟨⟨n, hhands, hmoves⟩, hkind⟩
    rw [hledger, Text.lower_lower, Text.lower_lower] at hmoves
    rw [hledger, Text.lower_lower] at hhands
    exact ⟨⟨n, hhands.of_rate hrate, hmoves⟩, hkind⟩
  · intro _ s₁ h
    exact h

end DepositToken
end ReserveAccounting
