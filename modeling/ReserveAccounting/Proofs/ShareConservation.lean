import ReserveAccounting.Proofs.TokenRuns

/-!
# Conservation of shares

However long a run is and whatever is rejected in it, the shares of all holders
sum to the total, and each call moves no shares but those it is about.
-/

namespace ReserveAccounting

open FixedPoint

def ShareLedger.OnlyMoves (l : ShareLedger) (holder : String) (n : Int) (l' : ShareLedger) : Prop :=
  l'.sharesOf holder = l.sharesOf holder + n ∧ l'.totalShares = l.totalShares + n ∧
    ∀ other, Text.lower other ≠ Text.lower holder → l'.sharesOf other = l.sharesOf other

def ShareLedger.Passes (l : ShareLedger) (sender recipient : String) (l' : ShareLedger) : Prop :=
  l'.totalShares = l.totalShares ∧
    (Text.lower sender ≠ Text.lower recipient →
      l'.sharesOf sender ≤ l.sharesOf sender ∧
        l'.sharesOf sender + l'.sharesOf recipient = l.sharesOf sender + l.sharesOf recipient) ∧
    (Text.lower sender = Text.lower recipient → l'.sharesOf sender = l.sharesOf sender) ∧
    ∀ other, Text.lower other ≠ Text.lower sender → Text.lower other ≠ Text.lower recipient →
      l'.sharesOf other = l.sharesOf other

namespace ShareLedger

variable {l l' : ShareLedger} {holder sender recipient : String} {n : Int}

theorem Credits.onlyMoves (h : l.Credits (Text.lower holder) n l') : l.OnlyMoves holder n l' := by
  refine ⟨?_, h.totalShares_eq, ?_⟩
  · rw [sharesOf_eq_held, h.held_eq, if_pos rfl, sharesOf_eq_held]
  · intro other hother
    rw [sharesOf_eq_held, h.held_eq, if_neg hother, sharesOf_eq_held]

theorem Debits.onlyMoves (h : l.Debits (Text.lower holder) n l') : l.OnlyMoves holder (-n) l' := by
  refine ⟨?_, h.totalShares_eq, ?_⟩
  · rw [sharesOf_eq_held, h.held_eq, if_pos rfl, sharesOf_eq_held]
    rfl
  · intro other hother
    rw [sharesOf_eq_held, h.held_eq, if_neg hother, sharesOf_eq_held]

theorem Moves.passes (h : l.Moves (Text.lower sender) (Text.lower recipient) n l') :
    l.Passes sender recipient l' := by
  have hn := h.nonneg
  refine ⟨h.totalShares_eq, ?_, ?_, ?_⟩
  · intro hdistinct
    have hsender := h.held_eq (Text.lower sender)
    have hrecipient := h.held_eq (Text.lower recipient)
    rw [if_pos rfl, if_neg hdistinct] at hsender
    rw [if_neg hdistinct.symm, if_pos rfl] at hrecipient
    simp only [sharesOf_eq_held]
    omega
  · intro hsame
    have hsender := h.held_eq (Text.lower sender)
    rw [if_pos rfl, if_pos hsame] at hsender
    simp only [sharesOf_eq_held]
    omega
  · intro other hsender hrecipient
    exact h.held_of_ne hsender hrecipient

end ShareLedger

namespace TokenCall

variable {s : DepositToken}

/-- The one change of shares that a call makes if it answers. -/
def Conserves (c : TokenCall) (s : DepositToken) (l' : ShareLedger) : Prop :=
  match c with
  | mint _ holder _ _ => ∃ n, 0 < n ∧ s.model.ledger.OnlyMoves holder n l'
  | burn _ holder _ _ _ => ∃ n, n < 0 ∧ s.model.ledger.OnlyMoves holder n l'
  | mintToTreasury _ amount _ =>
      if amount = 0 then l' = s.model.ledger
      else ∃ n, 0 < n ∧ s.model.ledger.OnlyMoves s.treasury n l'
  | transfer sender recipient _ => s.model.ledger.Passes sender recipient l'
  | transferOnLiquidation _ sender recipient _ => s.model.ledger.Passes sender recipient l'
  | _ => l' = s.model.ledger

theorem Booked.conserves {c : TokenCall} {l : ShareLedger} (h : c.Booked s l) :
    c.Conserves s l := by
  cases c with
  | mint caller holder amount index =>
      rcases h with ⟨n, h⟩
      exact ⟨n, h.left, h.onlyMoves⟩
  | burn caller holder receiver amount index =>
      rcases h with ⟨n, h⟩
      have hpos := h.left
      exact ⟨-n, by omega, h.onlyMoves⟩
  | mintToTreasury caller amount index =>
      unfold Booked at h
      unfold Conserves
      dsimp only at h ⊢
      split at h
      · next hzero =>
          rw [if_pos hzero]
          exact h
      · next hzero =>
          rw [if_neg hzero]
          rcases h with ⟨n, h⟩
          exact ⟨n, h.left, h.onlyMoves⟩
  | transfer sender recipient amount =>
      rcases h with ⟨n, h⟩
      exact h.passes
  | transferOnLiquidation caller sender recipient amount =>
      rcases h with ⟨n, h⟩
      exact h.passes
  | _ => exact h

/--
From empty books, after any run: nobody holds less than nothing, the shares sum
to the total, the index is positive, and a further call moves the shares it is
about if it answers, none if it is rejected, and does not lower the index.
-/
theorem shares_conserved {start : DepositToken} (hbooks : start.model.ledger = .empty)
    (hindex : 0 < start.index) (calls : List TokenCall) :
    let s := afterAll calls start
    (∀ holder, 0 ≤ s.model.ledger.sharesOf holder) ∧
      s.model.ledger.shares.values.sum = s.model.ledger.totalShares ∧
      0 < s.index ∧
      ∀ c : TokenCall, s.index ≤ (c.after s).index ∧
        match Act.run c.perform s with
        | (.ok _, s') => c.Conserves s s'.model.ledger
        | (.error _, s') => s'.model.ledger = s.model.ledger := by
  intro s
  have hinvariant : s.model.ledger.Sound ∧ 0 < s.index := by
    apply afterAll_induction (p := fun s => s.model.ledger.Sound ∧ 0 < s.index)
    · intro c s h
      rcases h with ⟨hsound, hpos⟩
      exact ⟨sound_after c hsound, lt_of_lt_of_le hpos (index_le_after c hsound)⟩
    · rw [hbooks]
      exact ⟨ShareLedger.sound_empty, hindex⟩
  rcases hinvariant with ⟨hsound, hpos⟩
  refine ⟨fun holder => hsound.nonneg _, hsound.total, hpos, ?_⟩
  intro c
  refine ⟨index_le_after c hsound, ?_⟩
  have hcall := leaves_perform c hsound.nonneg
  rcases hrun : Act.run c.perform s with ⟨outcome, s'⟩
  cases outcome with
  | ok _ => exact (hcall.of_ok hrun).ledger.left.conserves
  | error _ => exact (hcall.of_error hrun).ledger

/-- Two holders share what was minted, also after a burn that is rejected. -/
theorem shares_conserved_two_holders :
    let start : DepositToken := .atOne (.plain .empty) none
    let calls := [mint "pool" "Alice" 7 ray, transfer "alice" "Bob" 3,
      burn "pool" "bob" "bob" 1 (2 * ray), burn "pool" "carol" "carol" 1 (2 * ray)]
    let s := afterAll calls start
    start.model.ledger = .empty ∧ 0 < start.index ∧
      s.model.ledger.sharesOf "alice" = 4 ∧ s.model.ledger.sharesOf "bob" = 2 ∧
      (∀ holder, 0 ≤ s.model.ledger.sharesOf holder) ∧ s.model.ledger.shares.values.sum = 6 ∧
      ∀ c : TokenCall, s.index ≤ (c.after s).index := by
  intro start calls s
  have hbooks : start.model.ledger = .empty := rfl
  have hindex : 0 < start.index := by decide
  rcases shares_conserved hbooks hindex calls with ⟨hnonneg, hsum, _, hnext⟩
  have hshares : s.model.ledger.sharesOf "alice" = 4 ∧ s.model.ledger.sharesOf "bob" = 2 ∧
      s.model.ledger.totalShares = 6 := by decide +kernel
  rcases hshares with ⟨halice, hbob, htotal⟩
  exact ⟨hbooks, hindex, halice, hbob, hnonneg, hsum.trans htotal, fun c => (hnext c).left⟩

end TokenCall
end ReserveAccounting
