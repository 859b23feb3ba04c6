import ReserveAccounting.Proofs.ClaimableRewards
import ReserveAccounting.Proofs.VaultPlans
import ReserveAccounting.Proofs.VaultViews

/-!
# Totals of claimable rewards

What a vault has collected of a reward token and what waits for it in the
deposit token add up to a total. Collections shift it from one to the other, and
once nothing waits the calls that move tokens leave it alone.
-/

namespace ReserveAccounting

open FixedPoint

namespace StaticVault

variable {v v' v'' : StaticVault} {name token : String} {tokens : List String} {p : RewardProgram}
  {held : Int} {view : Except Fault Int}

/-!
# What is held and what waits
-/

structure Stands (name : String) (held : Int) (view : Except Fault Int) (v : StaticVault) :
    Prop where
  token : v.token.Honest
  listed : ∃ p, v.token.rewards = some p ∧ name ∈ p.tracker.rewardTokens
  strays : v.books.strayBalances = []
  held : v.heldOf name = held
  view : v.token.claimableRewards v.books.address name = view

namespace Stands

theorem withBalances (h : Stands name held view v) (l : ShareLedger) :
    Stands name held view { v with books := { v.books with balances := l } } :=
  ⟨h.token, h.listed, h.strays, h.held, h.view⟩

theorem withEvents (h : Stands name held view v) (events : List TokenEvent) :
    Stands name held view (withEvents events v) :=
  ⟨h.token, h.listed, h.strays, h.held, h.view⟩

theorem program (h : Stands name held view v) :
    ∃ p, v.token.rewards = some p ∧ p.Honest ∧ name ∈ p.tracker.rewardTokens := by
  rcases h.listed with ⟨p, hprogram, hmem⟩
  rcases h.token.program with ⟨p', hprogram', hp⟩
  rw [hprogram] at hprogram'
  cases hprogram'
  exact ⟨p, hprogram, hp, hmem⟩

end Stands

/-!
# Collecting
-/

theorem Collected.uncollected_eq (h : Collected name v v') (hprogram : v.token.rewards = some p)
    (hp : p.Honest) (hmem : name ∈ p.tracker.rewardTokens) :
    v.uncollected name = .ok (v'.heldOf name - v.heldOf name) := by
  rcases h with ⟨hnothing, _, hheld⟩ | ⟨_, received, _, hreceived, hheld, _⟩
  · rw [uncollected_of_nothing hprogram hp hmem hnothing, hheld, Int.sub_self]
  · rw [hreceived, hheld, add_sub_cancel_left]

/-- The vault has more shares than a word holds, so the deposit token cannot say what waits. -/
def Overfull (name : String) (held : Int) (v : StaticVault) : Prop :=
  maxAmount < v.token.model.rewardBasisOf v.books.address ∧
    ∃ e, Stands name held (.error e) v ∧ e.IsOverflow

/-- Nothing waits, or tokens were taken and there are too many of them to say. -/
def Stays (takes : Bool) (name : String) (held : Int) (v : StaticVault) : Prop :=
  Stands name held (.ok 0) v ∨ takes = true ∧ Overfull name held v

variable {takes : Bool}

theorem Stays.withBalances (h : Stays takes name held v) (l : ShareLedger) :
    Stays takes name held { v with books := { v.books with balances := l } } := by
  rcases h with h | ⟨htakes, hlarge, e, h, hover⟩
  · exact Or.inl (h.withBalances l)
  · exact Or.inr ⟨htakes, hlarge, e, h.withBalances l, hover⟩

theorem Stays.withEvents (h : Stays takes name held v) (events : List TokenEvent) :
    Stays takes name held (withEvents events v) := by
  rcases h with h | ⟨htakes, hlarge, e, h, hover⟩
  · exact Or.inl (h.withEvents events)
  · exact Or.inr ⟨htakes, hlarge, e, h.withEvents events, hover⟩

theorem Reads.aside (h : Reads v v') (name : String) : Aside name v v' where
  quiet := h.quiet
  rewards := by
    rw [h.books]
    exact RewardTracker.SameAt.refl name _
  held := by
    unfold heldOf
    rw [h.books]
  program p hprogram :=
    ⟨p.tracker, h.token.rewards.trans hprogram, RewardTracker.SameAt.refl name _⟩

theorem Reads.orderly (h : Reads v v') (hv : v.Orderly) : v'.Orderly where
  token := hv.token.of_keeps h.token
  rewards := by
    rw [h.books]
    exact hv.rewards
  strays := by
    rw [h.books]
    exact hv.strays

end StaticVault

namespace VaultCall

variable {v : StaticVault} {c : VaultCall} {token : String} {p : RewardProgram}

/-!
# Calls of a vault
-/

end VaultCall
end ReserveAccounting
