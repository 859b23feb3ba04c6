import ReserveAccounting.Proofs.Outcomes
import ReserveAccounting.Proofs.Rounding
import ReserveAccounting.Proofs.SmallLetters
import ReserveAccounting.Proofs.Tables
import ReserveAccounting.ShareLedger

/-!
# Changes of shares

A booked change does one of three things to the shares: it credits one holder,
debits one holder, or moves shares between two. A refused change does nothing.
All three keep a ledger sound: no holder is below zero, and the recorded total
is the sum of what the holders have.
-/

namespace ReserveAccounting

open FixedPoint

namespace ShareLedger

def held (l : ShareLedger) (name : String) : Int := l.shares.getD name 0

theorem sharesOf_eq_held (l : ShareLedger) (holder : String) :
    l.sharesOf holder = l.held (Text.lower holder) := rfl

/-- Nobody is below zero, the total is the sum, and names are stored in small letters. -/
structure Sound (l : ShareLedger) : Prop where
  nonneg : ∀ name, 0 ≤ l.held name
  total : l.shares.values.sum = l.totalShares
  small : ∀ name ∈ l.shares.keys, Text.lower name = name

theorem sound_empty : empty.Sound where
  nonneg name := Int.le_refl 0
  total := rfl
  small name hname := by cases hname

namespace Sound

variable {l : ShareLedger}

theorem held_le_totalShares (h : l.Sound) (x : String) : l.held x ≤ l.totalShares := by
  rw [← h.total]
  exact Table.getD_le_sum h.nonneg x

theorem totalShares_nonneg (h : l.Sound) : 0 ≤ l.totalShares :=
  (h.nonneg "").trans (h.held_le_totalShares "")

theorem sum_sharesOf {U : Finset String} (h : l.Sound) (hsmall : ∀ x ∈ U, Text.lower x = x)
    (hkeys : ∀ x ∈ l.shares.keys, x ∈ U) : ∑ x ∈ U, l.sharesOf x = l.totalShares := by
  have hheld : ∀ x ∈ U, l.sharesOf x = l.held x := by
    intro x hx
    rw [sharesOf_eq_held, hsmall x hx]
  rw [Finset.sum_congr rfl hheld, ← h.total]
  exact Table.sum_getD hkeys

end Sound

/-!
# The three changes
-/

def Credits (l : ShareLedger) (name : String) (n : Int) (l' : ShareLedger) : Prop :=
  0 < n ∧ l' = l.withDelta name n .mint

def Debits (l : ShareLedger) (name : String) (n : Int) (l' : ShareLedger) : Prop :=
  0 < n ∧ n ≤ l.held name ∧ l' = l.withDelta name (-n) .burn

def Moves (l : ShareLedger) (source target : String) (n : Int) (l' : ShareLedger) : Prop :=
  (n = 0 ∧ l' = { l with shares := l.shares.ensure target 0 }) ∨
    (0 < n ∧ n ≤ l.held source ∧
      l' = (l.withDelta source (-n) .transferOut).withDelta target n .transferIn)

theorem held_withDelta (l : ShareLedger) (name x : String) (n : Int) (reason : BalanceChange) :
    (l.withDelta name n reason).held x = if x = name then l.held name + n else l.held x := by
  unfold held withDelta
  rw [Table.getD_put]

theorem mem_keys_withDelta {l : ShareLedger} {name x : String} {n : Int} {reason : BalanceChange} :
    x ∈ (l.withDelta name n reason).shares.keys ↔ x = name ∨ x ∈ l.shares.keys :=
  Table.mem_keys_put

theorem sum_values_withDelta (l : ShareLedger) (name : String) (n : Int) (reason : BalanceChange) :
    (l.withDelta name n reason).shares.values.sum = l.shares.values.sum + n := by
  unfold withDelta
  rw [Table.sum_values_put]
  omega

namespace Credits

variable {l l' : ShareLedger} {name : String} {n : Int}

theorem held_eq (h : l.Credits name n l') (x : String) :
    l'.held x = if x = name then l.held name + n else l.held x := by
  rw [h.right, held_withDelta]

theorem totalShares_eq (h : l.Credits name n l') : l'.totalShares = l.totalShares + n := by
  rw [h.right]
  rfl

theorem held_nonneg (h : l.Credits name n l') (hl : ∀ x, 0 ≤ l.held x) (x : String) :
    0 ≤ l'.held x := by
  have hx := hl x
  have hn := hl name
  have hpos := h.left
  rw [h.held_eq]
  split <;> omega

theorem sound (h : l.Credits name n l') (hname : Text.lower name = name) (hl : l.Sound) :
    l'.Sound where
  nonneg := h.held_nonneg hl.nonneg
  total := by
    rw [h.totalShares_eq, h.right, sum_values_withDelta, hl.total]
  small x hx := by
    rw [h.right, mem_keys_withDelta] at hx
    rcases hx with rfl | hx
    · exact hname
    · exact hl.small x hx

end Credits

namespace Debits

variable {l l' : ShareLedger} {name : String} {n : Int}

theorem held_eq (h : l.Debits name n l') (x : String) :
    l'.held x = if x = name then l.held name - n else l.held x := by
  rw [h.right.right, held_withDelta]
  split <;> omega

theorem totalShares_eq (h : l.Debits name n l') : l'.totalShares = l.totalShares - n := by
  rw [h.right.right]
  rfl

theorem held_nonneg (h : l.Debits name n l') (hl : ∀ x, 0 ≤ l.held x) (x : String) :
    0 ≤ l'.held x := by
  have hx := hl x
  have hle := h.right.left
  rw [h.held_eq]
  split <;> omega

theorem sound (h : l.Debits name n l') (hname : Text.lower name = name) (hl : l.Sound) :
    l'.Sound where
  nonneg := h.held_nonneg hl.nonneg
  total := by
    rw [h.totalShares_eq, h.right.right, sum_values_withDelta, hl.total]
    omega
  small x hx := by
    rw [h.right.right, mem_keys_withDelta] at hx
    rcases hx with rfl | hx
    · exact hname
    · exact hl.small x hx

end Debits

namespace Moves

variable {l l' : ShareLedger} {source target : String} {n : Int}

theorem nonneg (h : l.Moves source target n l') : 0 ≤ n := by
  rcases h with ⟨rfl, _⟩ | ⟨hpos, _⟩
  · exact Int.le_refl 0
  · exact hpos.le

theorem held_eq (h : l.Moves source target n l') (x : String) :
    l'.held x = l.held x - (if x = source then n else 0) + (if x = target then n else 0) := by
  rcases h with ⟨rfl, rfl⟩ | ⟨_, _, rfl⟩
  · have hensure : (l.shares.ensure target 0).getD x 0 = l.shares.getD x 0 :=
      Table.getD_ensure l.shares target x 0
    simpa [held] using hensure
  · rw [held_withDelta, held_withDelta, held_withDelta]
    by_cases hs : x = source
    · by_cases ht : x = target
      · subst hs
        subst ht
        simp
      · subst hs
        simp [ht]
        omega
    · by_cases ht : x = target
      · subst ht
        simp [hs]
      · simp [hs, ht]

theorem held_of_ne (h : l.Moves source target n l') {x : String}
    (hs : x ≠ source) (ht : x ≠ target) : l'.held x = l.held x := by
  rw [h.held_eq, if_neg hs, if_neg ht]
  omega

theorem totalShares_eq (h : l.Moves source target n l') : l'.totalShares = l.totalShares := by
  rcases h with ⟨_, rfl⟩ | ⟨_, _, rfl⟩ <;> rfl

theorem held_nonneg (h : l.Moves source target n l') (hl : ∀ x, 0 ≤ l.held x) (x : String) :
    0 ≤ l'.held x := by
  have hx := hl x
  have hn := h.nonneg
  have hle : n ≤ l.held source := by
    rcases h with ⟨rfl, _⟩ | ⟨_, hle, _⟩
    · exact hl source
    · exact hle
  rw [h.held_eq]
  by_cases hs : x = source
  · subst hs
    rw [if_pos rfl]
    split <;> omega
  · rw [if_neg hs]
    split <;> omega

theorem sound (h : l.Moves source target n l') (hsource : Text.lower source = source)
    (htarget : Text.lower target = target) (hl : l.Sound) : l'.Sound where
  nonneg := h.held_nonneg hl.nonneg
  total := by
    rw [h.totalShares_eq]
    rcases h with ⟨_, rfl⟩ | ⟨_, _, rfl⟩
    · exact (Table.sum_values_ensure l.shares target).trans hl.total
    · rw [sum_values_withDelta, sum_values_withDelta, hl.total]
      omega
  small x hx := by
    rcases h with ⟨_, rfl⟩ | ⟨_, _, rfl⟩
    · rcases Table.mem_keys_ensure.mp hx with rfl | hx
      · exact htarget
      · exact hl.small x hx
    · rw [mem_keys_withDelta, mem_keys_withDelta] at hx
      rcases hx with rfl | rfl | hx
      · exact htarget
      · exact hsource
      · exact hl.small x hx

end Moves

/-!
# What the calls book
-/

/-- The shares that a burn of an amount, or of everything, asks for, and no more than there are. -/
def BurnOf (l : ShareLedger) (name : String) (amount index n : Int) : Prop :=
  ∃ value asked, rayMul (l.held name) index = .ok value ∧
    (if amount = everything then value else amount) ≤ value ∧
    rayDiv (if amount = everything then value else amount) index = .ok asked ∧
    n = min asked (l.held name)

def TransferOf (l : ShareLedger) (name : String) (amount index n : Int) : Prop :=
  ∃ value asked, rayMul (l.held name) index = .ok value ∧ amount ≤ value ∧
    rayDiv amount index = .ok asked ∧ n = min asked (l.held name)

theorem run_applyDelta {l : ShareLedger} {holder : String} {n : Int} {reason : BalanceChange}
    (hzero : n ≠ 0) (hsign : decide (0 < n) = reason.isCredit)
    (hheld : 0 ≤ l.held (Text.lower holder) + n) :
    Act.run (applyDelta holder n reason) l =
      (.ok (l.held (Text.lower holder) + n), l.withDelta (Text.lower holder) n reason) := by
  have hreason : ¬ (n = 0 ∨ decide (0 < n) ≠ reason.isCredit) := by
    intro hleft
    rcases hleft with h | h
    · exact hzero h
    · exact h hsign
  have hbelow : ¬ l.shares.getD (Text.lower holder) 0 + n < 0 := by
    unfold held at hheld
    omega
  unfold applyDelta
  rw [Act.run_bind_ok (Act.run_current l), if_neg hreason]
  dsimp only
  rw [if_neg hbelow]
  rfl

theorem leaves_applyDelta {l : ShareLedger} {holder : String} {n : Int} {reason : BalanceChange} :
    (applyDelta holder n reason).Leaves l
      (fun _ l' => n ≠ 0 ∧ decide (0 < n) = reason.isCredit ∧ 0 ≤ l.held (Text.lower holder) + n ∧
        l' = l.withDelta (Text.lower holder) n reason)
      (fun _ l' => l' = l) := by
  unfold applyDelta
  rw [Act.leaves_bind, Act.leaves_current, Act.leaves_ite]
  constructor
  · intro _
    exact rfl
  · intro hreason
    dsimp only
    rw [Act.leaves_ite]
    constructor
    · intro _
      exact rfl
    · intro hbelow
      rw [not_or, ne_eq, Decidable.not_not] at hreason
      rw [Act.leaves_bind, Act.leaves_replace, Act.leaves_bind, Act.leaves_note, Act.leaves_pure]
      refine ⟨hreason.left, hreason.right, ?_, rfl⟩
      unfold held
      omega

theorem leaves_mint {l : ShareLedger} {holder : String} {amount index : Int} :
    (mint holder amount index).Leaves l
      (fun _ l' => ∃ n, l.Credits (Text.lower holder) n l' ∧ rayDiv amount index = .ok n)
      (fun _ l' => l' = l) := by
  unfold mint
  rw [Act.leaves_ite]
  constructor
  · intro _
    exact rfl
  · intro _
    rw [Act.leaves_bind, Act.leaves_refusable]
    constructor
    · intro n hn
      rw [Act.leaves_ite]
      constructor
      · intro _
        exact rfl
      · intro _
        rw [Act.leaves_bind, Act.leaves_current, Act.leaves_bind]
        refine leaves_applyDelta.mono ?_ (fun _ _ h => h)
        intro _ l' hleft
        rcases hleft with ⟨_, hsign, _, rfl⟩
        rw [Act.leaves_pure]
        exact ⟨n, ⟨of_decide_eq_true hsign, rfl⟩, hn⟩
    · intro _ _
      exact rfl

theorem leaves_burn {l : ShareLedger} {holder : String} {amount index : Int} :
    (burn holder amount index).Leaves l
      (fun _ l' => ∃ n, l.Debits (Text.lower holder) n l' ∧
        l.BurnOf (Text.lower holder) amount index n)
      (fun _ l' => l' = l) := by
  unfold burn
  rw [Act.leaves_bind, Act.leaves_current, Act.leaves_bind, Act.leaves_refusable]
  constructor
  · intro value hvalue
    dsimp only
    rw [Act.leaves_ite]
    constructor
    · intro _
      exact rfl
    · intro _
      rw [Act.leaves_ite]
      constructor
      · intro _
        exact rfl
      · intro hle
        rw [Act.leaves_bind, Act.leaves_refusable]
        constructor
        · intro asked hasked
          rw [Act.leaves_ite]
          constructor
          · intro _
            exact rfl
          · intro _
            rw [Act.leaves_bind]
            refine leaves_applyDelta.mono ?_ (fun _ _ h => h)
            intro _ l' hleft
            rcases hleft with ⟨hzero, hsign, hheld, rfl⟩
            have hneg : ¬ 0 < -(min asked (l.sharesOf holder)) := of_decide_eq_false hsign
            exact ⟨_, ⟨by omega, by omega, rfl⟩, value, asked, hvalue, by omega, hasked, rfl⟩
        · intro _ _
          exact rfl
  · intro _ _
    exact rfl

theorem leaves_moveShares {l : ShareLedger} {sender recipient : String} {n : Int}
    (hl : ∀ name, 0 ≤ l.held name) :
    (moveShares sender recipient n).Leaves l
      (fun _ l' => l.Moves (Text.lower sender) (Text.lower recipient) n l')
      (fun _ l' => l' = l) := by
  unfold moveShares
  rw [Act.leaves_bind, Act.leaves_current, Act.leaves_ite]
  constructor
  · intro _
    exact rfl
  · intro hle
    rw [Act.leaves_ite]
    constructor
    · intro hzero
      exact Or.inl ⟨hzero, rfl⟩
    · intro _
      rw [Act.leaves_bind]
      refine leaves_applyDelta.mono ?_ (fun _ _ h => h)
      intro _ l₁ hleft
      rcases hleft with ⟨hzero, hsign, hheld, rfl⟩
      have hneg : ¬ 0 < -n := of_decide_eq_false hsign
      have hpos : 0 < n := by omega
      -- the credit cannot fail: the recipient has no less than nothing, also when it is the sender
      have hcredit : 0 ≤ (l.withDelta (Text.lower sender) (-n) .transferOut).held
          (Text.lower recipient) + n := by
        have hr := hl (Text.lower recipient)
        rw [held_withDelta]
        split <;> omega
      have hsign' : decide (0 < n) = BalanceChange.transferIn.isCredit := decide_eq_true hpos
      rw [Act.leaves_bind]
      apply Act.leaves_of_run
      · intro _ l₂ hrun
        rw [run_applyDelta hpos.ne' hsign' hcredit] at hrun
        cases hrun
        exact Or.inr ⟨hpos, by omega, rfl⟩
      · intro _ l₂ hrun
        rw [run_applyDelta hpos.ne' hsign' hcredit] at hrun
        cases hrun

theorem leaves_transfer {l : ShareLedger} {sender recipient : String} {amount index : Int}
    (hl : ∀ name, 0 ≤ l.held name) :
    (transfer sender recipient amount index).Leaves l
      (fun _ l' => ∃ n, l.Moves (Text.lower sender) (Text.lower recipient) n l' ∧
        l.TransferOf (Text.lower sender) amount index n)
      (fun _ l' => l' = l) := by
  unfold transfer
  rw [Act.leaves_ite]
  constructor
  · intro _
    exact rfl
  · intro _
    rw [Act.leaves_bind, Act.leaves_current, Act.leaves_bind, Act.leaves_refusable]
    constructor
    · intro value hvalue
      rw [Act.leaves_ite]
      constructor
      · intro _
        exact rfl
      · intro hle
        rw [Act.leaves_bind, Act.leaves_refusable]
        constructor
        · intro asked hasked
          rw [Act.leaves_bind]
          refine (leaves_moveShares hl).mono ?_ (fun _ _ h => h)
          intro _ l' hmoves
          exact ⟨_, hmoves, value, asked, hvalue, by omega, hasked, rfl⟩
        · intro _ _
          exact rfl
    · intro _ _
      exact rfl

/-!
# Shares for an amount
-/

section Amounts

variable {l : ShareLedger} {holder : String} {amount index burned n : Int}

def BurnValue (l : ShareLedger) (name : String) (amount index burned : Int) : Prop :=
  ∃ value, rayMul (l.held name) index = .ok value ∧
    burned = if amount = everything then value else amount

theorem answers_burn :
    (burn holder amount index).Leaves l
      (fun burned _ => l.BurnValue (Text.lower holder) amount index burned) (fun _ _ => True) := by
  unfold burn
  rw [Act.leaves_bind, Act.leaves_current, Act.leaves_bind, Act.leaves_refusable]
  refine ⟨fun value hvalue => ?_, fun _ _ => trivial⟩
  dsimp only
  rw [Act.leaves_ite]
  refine ⟨fun _ => trivial, fun _ => ?_⟩
  rw [Act.leaves_ite]
  refine ⟨fun _ => trivial, fun _ => ?_⟩
  rw [Act.leaves_bind, Act.leaves_refusable]
  refine ⟨fun asked _ => ?_, fun _ _ => trivial⟩
  rw [Act.leaves_ite]
  refine ⟨fun _ => trivial, fun _ => ?_⟩
  rw [Act.leaves_bind]
  exact Act.leaves_of_run (fun _ _ _ => ⟨value, hvalue, rfl⟩) (fun _ _ _ => trivial)

theorem BurnOf.rayDiv_eq (h : l.BurnOf holder amount index n)
    (hburned : l.BurnValue holder amount index burned) (hindex : ray ≤ index) :
    rayDiv burned index = .ok n := by
  rcases h with ⟨value, asked, hvalue, hle, hasked, rfl⟩
  rcases hburned with ⟨value', hvalue', rfl⟩
  cases hvalue.symm.trans hvalue'
  have henough : asked ≤ l.held holder := rayDiv_le_of_le_rayMul hindex hvalue hle hasked
  rw [min_eq_left henough]
  exact hasked

theorem TransferOf.rayDiv_eq (h : l.TransferOf holder amount index n) (hindex : ray ≤ index) :
    rayDiv amount index = .ok n := by
  rcases h with ⟨value, asked, hvalue, hle, hasked, rfl⟩
  have henough : asked ≤ l.held holder := rayDiv_le_of_le_rayMul hindex hvalue hle hasked
  rw [min_eq_left henough]
  exact hasked

end Amounts

end ShareLedger
end ReserveAccounting
