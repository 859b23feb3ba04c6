import Mathlib.Tactic.Ring
import ReserveAccounting.Proofs.Outcomes
import ReserveAccounting.Proofs.Rounding
import ReserveAccounting.Proofs.Tables
import ReserveAccounting.SharePool

/-!
# Share pools

What moves in the pool of a rebasing asset. While the pool has a rate, what a
holder has there can be moved in full: conversions round down in both
directions. An amount that is taken in buys shares at the price of the pool,
rounded down, so that the price of a share does not fall: nobody is diluted,
and whoever brought the amount has gained no more than it.
-/

namespace ReserveAccounting

open FixedPoint

namespace SharePool

variable {p p' : SharePool} {holder other sender recipient : String}
  {amount rate rate' held n value value' : Int}

def taken (p : SharePool) (holder : String) (amount : Int) : SharePool :=
  { p.withShares holder (p.sharesFor amount) with totalPooled := p.totalPooled + amount }

theorem sum_taken : (p.taken holder amount).shares.values.sum =
    p.shares.values.sum + p.sharesFor amount := by
  change (Table.put _ _ _).values.sum = _
  rw [Table.sum_values_put]
  omega

theorem leaves_submit :
    (submit holder amount).Leaves p (fun _ p' => 0 < amount ∧ p' = p.taken holder amount)
      (fun _ p' => ¬ 0 < amount ∧ p' = p) := by
  unfold submit
  rw [Act.leaves_bind, Act.leaves_current, Act.leaves_ite]
  exact ⟨fun h => ⟨not_lt.mpr h, rfl⟩, fun h => ⟨not_le.mp h, rfl⟩⟩

theorem run_submit (hamount : 0 < amount) :
    Act.run (submit holder amount) p = (.ok (p.sharesFor amount), p.taken holder amount) := by
  unfold submit
  rw [Act.run_bind_ok (Act.run_current p), if_neg (not_le.mpr hamount)]
  rfl

def moved (p : SharePool) (sender recipient : String) (n : Int) : SharePool :=
  let debited := p.shares.put (Text.lower sender) (p.sharesOf sender - n)
  { p with
    shares := debited.put (Text.lower recipient) (debited.getD (Text.lower recipient) 0 + n) }

theorem sum_moved : (p.moved sender recipient n).shares.values.sum = p.shares.values.sum := by
  change (Table.put _ _ _).values.sum = _
  rw [Table.sum_values_put, Table.sum_values_put]
  unfold sharesOf
  omega

theorem sharesOf_moved (p : SharePool) (sender recipient holder : String) (n : Int) :
    (p.moved sender recipient n).sharesOf holder = p.sharesOf holder +
      (if Text.lower holder = Text.lower recipient then n else 0) -
      (if Text.lower holder = Text.lower sender then n else 0) := by
  have hdebited : ∀ x, (p.shares.put (Text.lower sender) (p.sharesOf sender - n)).getD x 0 =
      p.shares.getD x 0 - if x = Text.lower sender then n else 0 := by
    intro x
    rw [Table.getD_put]
    split
    · next hsame => rw [hsame, sharesOf]
    · exact (Int.sub_zero _).symm
  change (Table.put _ _ _).getD (Text.lower holder) 0 = _
  rw [Table.getD_put, hdebited, hdebited]
  unfold sharesOf
  split
  · next hsame =>
      rw [hsame]
      omega
  · omega

theorem run_transferShares (recipient : String) (hheld : n ≤ p.sharesOf sender) :
    Act.run (transferShares sender recipient n) p = (.ok n, p.moved sender recipient n) := by
  unfold sharesOf at hheld
  unfold transferShares
  rw [Act.run_bind_ok (Act.run_current p)]
  dsimp only
  rw [if_neg (not_lt.mpr hheld)]
  rfl

theorem leaves_transferShares :
    (transferShares sender recipient n).Leaves p
      (fun m p' => n ≤ p.sharesOf sender ∧ m = n ∧ p' = p.moved sender recipient n)
      (fun _ p' => p' = p ∧ p.sharesOf sender < n) := by
  unfold transferShares
  rw [Act.leaves_bind, Act.leaves_current]
  dsimp only
  rw [Act.leaves_ite]
  exact ⟨fun h => ⟨rfl, h⟩, fun h => ⟨not_lt.mp h, rfl, rfl⟩⟩

theorem run_transfer_eq (sender recipient : String) (amount : Int) :
    Act.run (transfer sender recipient amount) p =
      Act.run (transferShares sender recipient (p.sharesFor amount)) p :=
  Act.run_bind_ok (Act.run_current p)

theorem run_transfer (recipient : String) (hheld : p.sharesFor amount ≤ p.sharesOf sender) :
    Act.run (transfer sender recipient amount) p =
      (.ok (p.sharesFor amount), p.moved sender recipient (p.sharesFor amount)) := by
  rw [run_transfer_eq, run_transferShares recipient hheld]

theorem leaves_transfer :
    (transfer sender recipient amount).Leaves p
      (fun n p' => n ≤ p.sharesOf sender ∧ n = p.sharesFor amount ∧ p' = p.moved sender recipient n)
      (fun _ p' => p' = p ∧ p.sharesOf sender < p.sharesFor amount) := by
  unfold transfer
  rw [Act.leaves_bind, Act.leaves_current]
  apply leaves_transferShares.mono _ fun _ _ h => h
  rintro n p' ⟨hheld, rfl, rfl⟩
  exact ⟨hheld, rfl, rfl⟩

theorem sharesFor_le_of_pooled (hissued : 0 < p.totalShares) (hpooled : 0 < p.totalPooled)
    (hle : amount ≤ p.amountFor held) : p.sharesFor amount ≤ held := by
  unfold amountFor at hle
  unfold sharesFor
  rw [if_neg hissued.ne', Int.fdiv_eq_ediv_of_nonneg _ hissued.le,
    Int.le_ediv_iff_mul_le hissued] at hle
  rw [if_neg fun h => h.elim hissued.ne' hpooled.ne', Int.fdiv_eq_ediv_of_nonneg _ hpooled.le]
  exact Int.ediv_le_of_le_mul hpooled hle

theorem sharesFor_le (hrate : p.exchangeRate = .ok rate) (hpos : 0 < rate)
    (hle : amount ≤ p.amountFor held) : p.sharesFor amount ≤ held := by
  by_cases hshares : p.totalShares = 0
  · rw [amountFor, if_pos hshares] at hle
    rw [sharesFor, if_pos (Or.inl hshares)]
    exact hle
  · unfold exchangeRate at hrate
    rw [if_neg hshares] at hrate
    rcases rayDiv_ok hrate with ⟨hpooled, hissued, hvalue⟩
    have hfull : p.totalPooled ≠ 0 := by
      intro hempty
      rw [hempty, Int.zero_mul, Int.zero_add, Int.ediv_eq_zero_of_lt (by omega) (by omega)] at hvalue
      omega
    exact sharesFor_le_of_pooled hissued (by omega) hle

theorem leaves_transfer_of_balance (hrate : p.exchangeRate = .ok rate) (hpos : 0 < rate)
    (hle : amount ≤ p.balanceOf sender) :
    (transfer sender recipient amount).Leaves p (fun _ _ => True) (fun _ _ => False) := by
  apply leaves_transfer.mono (fun _ _ _ => trivial)
  intro _ _ h
  exact absurd h.right (not_lt.mpr (sharesFor_le hrate hpos hle))

def HasRate (p : SharePool) (rate : Int) : Prop := p.exchangeRate = .ok rate ∧ 0 < rate

/-!
# Pools that are backed
-/

structure Sound (p : SharePool) : Prop where
  nonneg : ∀ name, 0 ≤ p.shares.getD name 0
  total : p.shares.values.sum = p.totalShares

theorem Sound.sharesOf_le (h : p.Sound) (holder : String) : p.sharesOf holder ≤ p.totalShares := by
  rw [← h.total]
  exact Table.getD_le_sum h.nonneg _

theorem Sound.totalShares_nonneg (h : p.Sound) : 0 ≤ p.totalShares :=
  (h.nonneg (Text.lower "")).trans (h.sharesOf_le "")

theorem Sound.sharesFor_nonneg (h : p.Sound) (hpooled : 0 ≤ p.totalPooled) (hamount : 0 ≤ amount) :
    0 ≤ p.sharesFor amount := by
  unfold sharesFor
  split
  · exact hamount
  · rw [Int.fdiv_eq_ediv_of_nonneg _ hpooled]
    exact Int.ediv_nonneg (Int.mul_nonneg hamount h.totalShares_nonneg) hpooled

/-- A sound pool whose total is not negative, and is nothing while there are no shares. -/
structure Backed (p : SharePool) : Prop extends Sound p where
  pooled_nonneg : 0 ≤ p.totalPooled
  pooled_of_empty : p.totalShares = 0 → p.totalPooled = 0

namespace Backed

theorem totalShares_nonneg (h : p.Backed) : 0 ≤ p.totalShares := h.toSound.totalShares_nonneg

theorem sharesFor_nonneg (h : p.Backed) (hamount : 0 ≤ amount) : 0 ≤ p.sharesFor amount :=
  h.toSound.sharesFor_nonneg h.pooled_nonneg hamount

theorem sharesFor_mul_le (h : p.Backed) (hamount : 0 < amount) :
    p.sharesFor amount * p.totalPooled ≤ amount * p.totalShares := by
  unfold sharesFor
  split
  · next hempty =>
      have hpooled : p.totalPooled = 0 := hempty.elim h.pooled_of_empty id
      rw [hpooled, Int.mul_zero]
      exact Int.mul_nonneg hamount.le h.totalShares_nonneg
  · next hfull =>
      rw [Int.fdiv_eq_ediv_of_nonneg _ h.pooled_nonneg]
      exact Int.ediv_mul_le _ fun hempty => hfull (Or.inr hempty)

end Backed

/-!
# What taking in an amount does to the price
-/

theorem totalShares_taken :
    (p.taken holder amount).totalShares = p.totalShares + p.sharesFor amount := rfl

theorem totalPooled_taken : (p.taken holder amount).totalPooled = p.totalPooled + amount := rfl

theorem sharesOf_taken : (p.taken holder amount).sharesOf other =
    if Text.lower other = Text.lower holder then p.sharesOf other + p.sharesFor amount
    else p.sharesOf other := by
  refine (Table.getD_put p.shares (Text.lower holder) (Text.lower other) _ 0).trans ?_
  split
  · next hsame => rw [sharesOf, hsame]
  · rfl

theorem Backed.price_le (h : p.Backed) (hamount : 0 < amount) :
    p.totalPooled * (p.taken holder amount).totalShares ≤
      (p.taken holder amount).totalPooled * p.totalShares := by
  rw [totalShares_taken, totalPooled_taken, Int.mul_add, Int.add_mul,
    Int.mul_comm p.totalPooled (p.sharesFor amount)]
  exact Int.add_le_add_left (h.sharesFor_mul_le hamount) _

theorem amountFor_eq_ediv (hissued : 0 < p.totalShares) :
    p.amountFor n = n * p.totalPooled / p.totalShares := by
  rw [amountFor, if_neg hissued.ne', Int.fdiv_eq_ediv_of_nonneg _ hissued.le]

theorem amountFor_nonneg (hissued : 0 ≤ p.totalShares) (hpooled : 0 ≤ p.totalPooled) (hn : 0 ≤ n) :
    0 ≤ p.amountFor n := by
  rcases hissued.eq_or_lt with hempty | hissued
  · rw [amountFor, if_pos hempty.symm]
    exact hn
  · rw [amountFor_eq_ediv hissued]
    exact Int.ediv_nonneg (Int.mul_nonneg hn hpooled) hissued.le

theorem amountFor_mono (hissued : 0 < p.totalShares) (hissued' : 0 < p'.totalShares)
    (hprice : p.totalPooled * p'.totalShares ≤ p'.totalPooled * p.totalShares) (hn : 0 ≤ n)
    (hle : n ≤ held) (hpooled' : 0 ≤ p'.totalPooled) : p.amountFor n ≤ p'.amountFor held := by
  rw [amountFor_eq_ediv hissued, amountFor_eq_ediv hissued', Int.le_ediv_iff_mul_le hissued']
  have hfloor := Int.ediv_mul_le (n * p.totalPooled) hissued.ne'
  have hscaled : n * p.totalPooled / p.totalShares * p'.totalShares * p.totalShares ≤
      held * p'.totalPooled * p.totalShares := by
    calc n * p.totalPooled / p.totalShares * p'.totalShares * p.totalShares
        = n * p.totalPooled / p.totalShares * p.totalShares * p'.totalShares := by ring
      _ ≤ n * p.totalPooled * p'.totalShares :=
          Int.mul_le_mul_of_nonneg_right hfloor hissued'.le
      _ = n * (p.totalPooled * p'.totalShares) := by ring
      _ ≤ n * (p'.totalPooled * p.totalShares) := Int.mul_le_mul_of_nonneg_left hprice hn
      _ = n * p'.totalPooled * p.totalShares := by ring
      _ ≤ held * p'.totalPooled * p.totalShares :=
          Int.mul_le_mul_of_nonneg_right (Int.mul_le_mul_of_nonneg_right hle hpooled') hissued.le
  exact Int.le_of_mul_le_mul_right hscaled hissued

theorem Backed.totalShares_taken_pos (h : p.Backed) (hamount : 0 < amount) (holder : String) :
    0 < (p.taken holder amount).totalShares := by
  rw [totalShares_taken]
  have hbought := h.sharesFor_nonneg hamount.le
  rcases h.totalShares_nonneg.eq_or_lt with hempty | hissued
  · rw [sharesFor, if_pos (Or.inl hempty.symm)]
    omega
  · omega

theorem Backed.amountFor_le_taken (h : p.Backed) (hamount : 0 < amount) (hn : 0 ≤ n)
    (htotal : n ≤ p.totalShares) (hle : n ≤ held) :
    p.amountFor n ≤ (p.taken holder amount).amountFor held := by
  have hpos := h.totalShares_taken_pos hamount holder
  have hpooled := h.pooled_nonneg
  have hpooled' : 0 ≤ (p.taken holder amount).totalPooled := by
    rw [totalPooled_taken]
    omega
  rcases h.totalShares_nonneg.eq_or_lt with hempty | hissued
  · rw [amountFor, if_pos hempty.symm]
    have hnothing : n = 0 := by omega
    rw [hnothing] at hle ⊢
    exact amountFor_nonneg hpos.le hpooled' hle
  · exact amountFor_mono hissued hpos (h.price_le hamount) hn hle hpooled'

/--
Some shares, out of all there are, with what an amount buys: all of them are worth
less than what the shares were worth, with the amount and one unit more.
-/
theorem redeem_lt {total pooled bought value : Int} (hpos : 0 < total) (hn : n ≤ total)
    (hbought : 0 ≤ bought) (hworth : bought * pooled ≤ amount * total)
    (hvalue : n * pooled < (value + 1) * total) :
    (n + bought) * (pooled + amount) < (value + amount + 1) * (total + bought) := by
  -- what the amount is worth beyond the shares it buys goes to the old shares at most in full
  have hgap : 0 ≤ amount * total - bought * pooled := by omega
  have hscaled : n * amount * total ≤
      ((value + 1) * bought + (amount * total - bought * pooled)) * total := by
    calc n * amount * total
        = n * (amount * total - bought * pooled) + bought * (n * pooled) := by ring
      _ ≤ total * (amount * total - bought * pooled) + bought * ((value + 1) * total) :=
          Int.add_le_add (Int.mul_le_mul_of_nonneg_right hn hgap)
            (Int.mul_le_mul_of_nonneg_left hvalue.le hbought)
      _ = ((value + 1) * bought + (amount * total - bought * pooled)) * total := by ring
  have hgain := Int.le_of_mul_le_mul_right hscaled hpos
  calc (n + bought) * (pooled + amount)
      = n * pooled + n * amount + (bought * pooled + bought * amount) := by ring
    _ < (value + 1) * total + ((value + 1) * bought + (amount * total - bought * pooled)) +
          (bought * pooled + bought * amount) :=
        Int.add_lt_add_right (Int.add_lt_add_of_lt_of_le hvalue hgain) _
    _ = (value + amount + 1) * (total + bought) := by ring

theorem Backed.amountFor_taken_le (h : p.Backed) (hamount : 0 < amount) (hn : 0 ≤ n)
    (htotal : n ≤ p.totalShares) :
    (p.taken holder amount).amountFor (n + p.sharesFor amount) ≤ p.amountFor n + amount := by
  have hpos := h.totalShares_taken_pos hamount holder
  rw [amountFor_eq_ediv hpos]
  apply Int.le_of_lt_add_one
  apply Int.ediv_lt_of_lt_mul hpos
  rcases h.totalShares_nonneg.eq_or_lt with hempty | hissued
  · -- the first shares are all there are, one for each unit
    have hnothing : n = 0 := by omega
    have hbought : p.sharesFor amount = amount := if_pos (Or.inl hempty.symm)
    rw [totalShares_taken, totalPooled_taken, hbought, h.pooled_of_empty hempty.symm, ← hempty,
      hnothing, amountFor, if_pos hempty.symm, Int.zero_add, Int.add_mul]
    omega
  · rw [totalShares_taken, totalPooled_taken]
    apply redeem_lt hissued htotal (h.sharesFor_nonneg hamount.le) (h.sharesFor_mul_le hamount)
    rw [amountFor_eq_ediv hissued]
    exact Int.lt_ediv_add_one_mul_self _ hissued

theorem Backed.exchangeRate_le_taken (h : p.Backed) (hamount : 0 < amount)
    (hrate : p.exchangeRate = .ok rate) (hrate' : (p.taken holder amount).exchangeRate = .ok rate') :
    rate ≤ rate' := by
  have hpos := h.totalShares_taken_pos hamount holder
  unfold exchangeRate at hrate hrate'
  rw [if_neg hpos.ne'] at hrate'
  rcases h.totalShares_nonneg.eq_or_lt with hempty | hissued
  · rw [if_pos hempty.symm] at hrate
    cases hrate
    rcases rayDiv_ok hrate' with ⟨_, _, rfl⟩
    have hbought : p.sharesFor amount = amount := if_pos (Or.inl hempty.symm)
    rw [totalShares_taken, totalPooled_taken, hbought, h.pooled_of_empty hempty.symm, ← hempty,
      Int.zero_add, Int.le_ediv_iff_mul_le hamount, Int.mul_comm]
    omega
  · rw [if_neg hissued.ne'] at hrate
    exact rayDiv_mono hrate hrate' (h.price_le hamount)

def valueOf (p : SharePool) (shares : Int) : Except Refusal Int :=
  p.exchangeRate.bind fun rate => rayMul shares rate

theorem valueOf_of_rate (hrate : p.exchangeRate = .ok rate) : p.valueOf n = rayMul n rate := by
  rw [valueOf, hrate]
  rfl

theorem valueOf_eq_ok (h : p.valueOf n = .ok value) :
    ∃ rate, p.exchangeRate = .ok rate ∧ rayMul n rate = .ok value :=
  Act.exists_of_bind_ok h

/--
An amount that is taken in dilutes nobody: every balance is at least what it was,
the one of the holder has gained no more than the amount, and neither the rate
falls nor what reserve shares are worth at it.
-/
theorem submit_dilutes_nobody (holder : String) (h : p.Backed) (hamount : 0 < amount) :
    ∃ minted p', Act.run (submit holder amount) p = (.ok minted, p') ∧
      (∀ other, p.balanceOf other ≤ p'.balanceOf other) ∧
      p'.balanceOf holder ≤ p.balanceOf holder + amount ∧
      (∀ rate rate', p.exchangeRate = .ok rate → p'.exchangeRate = .ok rate' → rate ≤ rate') ∧
      ∀ shares value value', p.valueOf shares = .ok value → p'.valueOf shares = .ok value' →
        value ≤ value' := by
  refine ⟨_, _, run_submit hamount, ?_, ?_, ?_, ?_⟩
  · intro other
    have hbought := h.sharesFor_nonneg hamount.le
    have hkept : p.sharesOf other ≤ (p.taken holder amount).sharesOf other := by
      rw [sharesOf_taken]
      split <;> omega
    exact h.amountFor_le_taken hamount (h.nonneg _) (h.sharesOf_le other) hkept
  · rw [balanceOf, sharesOf_taken, if_pos rfl]
    exact h.amountFor_taken_le hamount (h.nonneg _) (h.sharesOf_le holder)
  · intro rate rate' hrate hrate'
    exact h.exchangeRate_le_taken hamount hrate hrate'
  · intro shares value value' hvalue hvalue'
    rcases valueOf_eq_ok hvalue with ⟨rate, hrate, hproduct⟩
    rcases valueOf_eq_ok hvalue' with ⟨rate', hrate', hproduct'⟩
    exact rayMul_mono_right hproduct hproduct' (h.exchangeRate_le_taken hamount hrate hrate')

/-- At ten sevenths five units buy three shares, and their holder gains all five of them. -/
theorem submit_dilutes_nobody_at_ten_sevenths :
    let p : SharePool := { fresh "stETH" 18 with
      shares := .ofList [("alice", 3), ("bob", 4)], totalShares := 7, totalPooled := 10 }
    ∃ p', Act.run (submit "Alice" 5) p = (.ok 3, p') ∧
      p.balanceOf "alice" = 4 ∧ p'.balanceOf "alice" = 9 ∧
      p.balanceOf "bob" = 5 ∧ p'.balanceOf "bob" = 6 ∧
      p.balanceOf "bob" ≤ p'.balanceOf "bob" ∧
      p'.balanceOf "Alice" ≤ p.balanceOf "Alice" + 5 := by
  intro p
  have hbacked : p.Backed := by
    refine ⟨⟨?_, rfl⟩, by decide, by decide⟩
    intro name
    change 0 ≤ (((∅ : Table String Int).put "alice" 3).put "bob" 4).getD name 0
    rw [Table.getD_put, Table.getD_put]
    split_ifs
    · decide
    · decide
    · exact Int.le_refl 0
  rcases submit_dilutes_nobody "Alice" hbacked (by decide : (0 : Int) < 5) with
    ⟨minted, p', hrun, hothers, hholder, _⟩
  have hstate : p' = (Act.run (submit "Alice" 5) p).2 := by rw [hrun]
  have hminted : minted = 3 := by
    have houtcome : (Act.run (submit "Alice" 5) p).1 = .ok 3 :=
      Act.eq_ok_of_toOption (by decide +kernel)
    rw [hrun] at houtcome
    cases houtcome
    rfl
  rw [hminted] at hrun
  refine ⟨p', hrun, by decide +kernel, ?_, by decide +kernel, ?_, hothers "bob", hholder⟩
  · rw [hstate]
    decide +kernel
  · rw [hstate]
    decide +kernel

end SharePool

/-!
# Calls on a pool
-/

inductive PoolCall where
  | submit (holder : String) (amount : Int)
  | transfer (sender recipient : String) (amount : Int)
  | transferShares (sender recipient : String) (shares : Int)
  | rebase (fraction : Numeral)

def PoolCall.perform : PoolCall → Act SharePool Int
  | submit holder amount => SharePool.submit holder amount
  | transfer sender recipient amount => SharePool.transfer sender recipient amount
  | transferShares sender recipient shares => SharePool.transferShares sender recipient shares
  | rebase fraction => SharePool.rebase fraction

end ReserveAccounting
