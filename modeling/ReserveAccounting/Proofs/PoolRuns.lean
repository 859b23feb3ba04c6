import ReserveAccounting.Proofs.SolventScenarios

/-!
# Runs of a pool

The holders have all shares of a pool between them, whatever is asked of it. Moving
shares is refused only to a sender that has fewer. Nobody has fewer than a negative
number, so that is moved too, and what the sender gains by it the recipient loses.
As long as nobody asks for less than nothing, and no rebase leaves a total below
zero, nobody has less than no shares, and no transfer takes any from its recipient.
-/

namespace ReserveAccounting

namespace SharePool

variable {p : SharePool} {sender recipient : String} {n : Int}

structure Covered (p : SharePool) : Prop extends Sound p where
  pooled_nonneg : 0 ≤ p.totalPooled

theorem covered_fresh (symbol : String) (decimals : Int) : (fresh symbol decimals).Covered where
  nonneg _ := Int.le_refl 0
  total := rfl
  pooled_nonneg := Int.le_refl 0

theorem Covered.moved (h : p.Covered) (recipient : String) (hn : 0 ≤ n)
    (hheld : n ≤ p.sharesOf sender) : (p.moved sender recipient n).Covered where
  toSound := h.toSound.moved recipient hn hheld
  pooled_nonneg := h.pooled_nonneg

theorem totalPooled_rebase_nonneg (hpooled : 0 ≤ p.totalPooled) (hsmall : p.totalPooled < 10 ^ 28)
    (fraction : Numeral) : 0 ≤ (Act.run (rebase fraction) p).2.totalPooled := by
  by_cases haccepted : fraction.leNegOne = .ok false
  · rcases hpooled.eq_or_lt with hempty | hpool
    · exact (totalPooled_rebase_of_empty hempty.symm haccepted).ge
    · by_cases hnumber : ∃ x, fraction = .number x
      · rcases hnumber with ⟨x, rfl⟩
        exact (totalPooled_of_small hpool hsmall haccepted).left
      · rcases rebaseDelta_of_no_number (p := p) (not_exists.mp hnumber) with ⟨failure, herror⟩
        rw [totalPooled_rebase_of_error herror]
        exact hpooled
  · rw [state_rebase_of_refused haccepted]
    exact hpooled

theorem transferShares_moves (p : SharePool) (sender recipient : String) (n : Int) :
    (p.sharesOf sender < n →
      ∃ e, Act.run (transferShares sender recipient n) p = (.error e, p)) ∧
    (n ≤ p.sharesOf sender → ∃ p', Act.run (transferShares sender recipient n) p = (.ok n, p') ∧
      ∀ holder, p'.sharesOf holder = p.sharesOf holder +
        (if Text.lower holder = Text.lower recipient then n else 0) -
        (if Text.lower holder = Text.lower sender then n else 0)) := by
  constructor
  · intro hlacking
    have hleaves := @leaves_transferShares p sender recipient n
    cases hrun : Act.run (transferShares sender recipient n) p with
    | mk outcome p' =>
        cases outcome with
        | ok m => exact absurd (hleaves.of_ok hrun).left (not_le.mpr hlacking)
        | error e => exact ⟨e, by rw [(hleaves.of_error hrun).left]⟩
  · intro hheld
    exact ⟨_, run_transferShares recipient hheld, fun holder => p.sharesOf_moved _ _ holder n⟩

end SharePool

namespace PoolCall

variable {p : SharePool} {c : PoolCall}

def after (c : PoolCall) (p : SharePool) : SharePool := (Act.run c.perform p).2

def afterAll : List PoolCall → SharePool → SharePool
  | [], p => p
  | c :: rest, p => afterAll rest (c.after p)

/-!
# The sum of all shares
-/

theorem sum_after (h : p.shares.values.sum = p.totalShares) (c : PoolCall) :
    (c.after p).shares.values.sum = (c.after p).totalShares := by
  apply @Act.Leaves.state _ _ c.perform p fun p' => p'.shares.values.sum = p'.totalShares
  cases c with
  | submit holder amount =>
      apply SharePool.leaves_submit.mono
      · rintro _ p' ⟨_, rfl⟩
        rw [SharePool.sum_taken, h, SharePool.totalShares_taken]
      · rintro _ p' ⟨_, rfl⟩
        exact h
  | transfer sender recipient amount =>
      apply SharePool.leaves_transfer.mono
      · rintro n p' ⟨_, _, rfl⟩
        exact SharePool.sum_moved.trans h
      · rintro _ p' ⟨rfl, _⟩
        exact h
  | transferShares sender recipient shares =>
      apply SharePool.leaves_transferShares.mono
      · rintro n p' ⟨_, _, rfl⟩
        exact SharePool.sum_moved.trans h
      · rintro _ p' ⟨rfl, _⟩
        exact h
  | rebase fraction =>
      apply (SharePool.stable_rebase_shares.leaves ⟨rfl, rfl⟩).mono
      · rintro _ p' ⟨hshares, hissued⟩
        rw [hshares, hissued, h]
      · rintro _ p' ⟨hshares, hissued⟩
        rw [hshares, hissued, h]

theorem sum_afterAll (h : p.shares.values.sum = p.totalShares) (calls : List PoolCall) :
    (afterAll calls p).shares.values.sum = (afterAll calls p).totalShares := by
  induction calls generalizing p with
  | nil => exact h
  | cons c rest ih => exact ih (sum_after h c)

/-!
# The sign of all shares
-/

/-- A call that asks for no less than nothing, and leaves no total below zero. -/
def Fair (p : SharePool) : PoolCall → Prop
  | submit _ _ => True
  | transfer _ _ amount => 0 ≤ amount
  | transferShares _ _ shares => 0 ≤ shares
  | rebase fraction => 0 ≤ (Act.run (SharePool.rebase fraction) p).2.totalPooled

def AllFair : List PoolCall → SharePool → Prop
  | [], _ => True
  | c :: rest, p => c.Fair p ∧ AllFair rest (c.after p)

theorem covered_after (h : p.Covered) (hfair : c.Fair p) : (c.after p).Covered := by
  apply @Act.Leaves.state _ _ c.perform p SharePool.Covered
  cases c with
  | submit holder amount =>
      apply SharePool.leaves_submit.mono
      · rintro _ p' ⟨hamount, rfl⟩
        refine ⟨h.toSound.taken holder (h.toSound.sharesFor_nonneg h.pooled_nonneg hamount.le), ?_⟩
        rw [SharePool.totalPooled_taken]
        exact add_nonneg h.pooled_nonneg hamount.le
      · rintro _ p' ⟨_, rfl⟩
        exact h
  | transfer sender recipient amount =>
      apply SharePool.leaves_transfer.mono
      · rintro n p' ⟨hheld, rfl, rfl⟩
        exact h.moved recipient (h.toSound.sharesFor_nonneg h.pooled_nonneg hfair) hheld
      · rintro _ p' ⟨rfl, _⟩
        exact h
  | transferShares sender recipient shares =>
      apply SharePool.leaves_transferShares.mono
      · rintro n p' ⟨hheld, rfl, rfl⟩
        exact h.moved recipient hfair hheld
      · rintro _ p' ⟨rfl, _⟩
        exact h
  | rebase fraction =>
      rcases SharePool.stable_rebase_shares.after p ⟨rfl, rfl⟩ with ⟨hshares, hissued⟩
      apply Act.Leaves.of_state
      exact ⟨⟨fun name => hshares.symm ▸ h.nonneg name, hshares.symm ▸ hissued.symm ▸ h.total⟩,
        hfair⟩

theorem covered_afterAll {calls : List PoolCall} (h : p.Covered) (hfair : AllFair calls p) :
    (afterAll calls p).Covered := by
  induction calls generalizing p with
  | nil => exact h
  | cons c rest ih => exact ih (covered_after h hfair.left) hfair.right

/--
After any calls on a pool that started empty the shares of all holders add up to
the total. Moving shares is refused to a sender that has fewer, and otherwise gives
the recipient what it takes from the sender, so that the recipient loses by it just
if the number is negative; a transfer moves what its amount is worth. If no call
asked to move less than nothing and no rebase left a total below zero, nobody has
less than no shares and no amount from nothing on is worth less than none; totals
of up to 28 digits are never left below zero.
-/
theorem shares_kept_by_fair_calls (symbol : String) (decimals : Int) (calls : List PoolCall) :
    let start := SharePool.fresh symbol decimals
    let p := afterAll calls start
    p.shares.values.sum = p.totalShares ∧
    (∀ sender recipient n,
      (p.sharesOf sender < n →
        ∃ e, Act.run (SharePool.transferShares sender recipient n) p = (.error e, p)) ∧
      (n ≤ p.sharesOf sender →
        ∃ p', Act.run (SharePool.transferShares sender recipient n) p = (.ok n, p') ∧
          ∀ holder, p'.sharesOf holder = p.sharesOf holder +
            (if Text.lower holder = Text.lower recipient then n else 0) -
            (if Text.lower holder = Text.lower sender then n else 0))) ∧
    (∀ sender recipient amount, Act.run (SharePool.transfer sender recipient amount) p =
      Act.run (SharePool.transferShares sender recipient (p.sharesFor amount)) p) ∧
    (AllFair calls start →
      (∀ name, 0 ≤ p.shares.getD name 0) ∧ ∀ amount, 0 ≤ amount → 0 ≤ p.sharesFor amount) ∧
    (0 ≤ p.totalPooled → p.totalPooled < 10 ^ 28 → ∀ fraction, (rebase fraction).Fair p) := by
  intro start p
  refine ⟨sum_afterAll rfl calls, p.transferShares_moves, SharePool.run_transfer_eq, ?_, ?_⟩
  · intro hfair
    have hcovered : p.Covered := covered_afterAll (SharePool.covered_fresh symbol decimals) hfair
    exact ⟨hcovered.nonneg, fun amount =>
      hcovered.toSound.sharesFor_nonneg hcovered.pooled_nonneg⟩
  · intro hpooled hsmall fraction
    exact SharePool.totalPooled_rebase_nonneg hpooled hsmall fraction

/--
After fair calls everybody has shares or none; then fifteen shares less than none
are moved from somebody without shares, and bob, who had six, has less than none.
-/
theorem shares_kept_by_fair_calls_and_taken :
    let calls : List PoolCall :=
      [submit "Bob" 10, rebase (.number ⟨true, 1, -1⟩), transfer "bob" "alice" 4,
        transferShares "Alice" "carol" 0]
    let start := SharePool.fresh "stETH" 18
    let p := afterAll calls start
    AllFair calls start ∧ (∀ name, 0 ≤ p.shares.getD name 0) ∧ (rebase (.infinity false)).Fair p ∧
      p.sharesOf "bob" = 6 ∧ p.sharesOf "mallory" = 0 ∧
      ∃ p', Act.run (SharePool.transferShares "mallory" "BOB" (-15)) p = (.ok (-15), p') ∧
        p'.sharesOf "mallory" = 15 ∧ p'.sharesOf "bob" = -9 := by
  intro calls start p
  have hfair : AllFair calls start := by
    refine ⟨trivial, ?_, ?_, ?_, trivial⟩
    · change 0 ≤ (Act.run (SharePool.rebase (.number ⟨true, 1, -1⟩)) _).2.totalPooled
      decide +kernel
    · exact Int.le_of_lt (by decide)
    · exact Int.le_refl 0
  have hbob : p.sharesOf "bob" = 6 := by decide +kernel
  have hmallory : p.sharesOf "mallory" = 0 := by decide +kernel
  rcases shares_kept_by_fair_calls "stETH" 18 calls with ⟨_, hmoves, _, hkept, hrebased⟩
  have hheld : -15 ≤ p.sharesOf "mallory" := by
    rw [hmallory]
    decide
  rcases (hmoves "mallory" "BOB" (-15)).right hheld with ⟨p', hrun, hshares⟩
  refine ⟨hfair, (hkept hfair).left, hrebased (by decide +kernel) (by decide +kernel) _, hbob,
    hmallory, p', hrun, ?_, ?_⟩
  · rw [hshares, hmallory]
    decide +kernel
  · rw [hshares, hbob]
    decide +kernel

end PoolCall
end ReserveAccounting
