import ReserveAccounting.Proofs.DepositCredits
import ReserveAccounting.Proofs.LiveAsset

/-!
# Two valuations of reserve shares

A pool values shares by one division that is rounded down. Books over the pool
multiply the same shares with its rate, which is a rounded quotient, and round
the product to the nearest. The two values are near each other in proportion to
the shares, and stay so whatever is called on the books and on the pool.
-/

namespace ReserveAccounting

open FixedPoint
open DepositToken (Portion)

/-!
# One pool
-/

/--
The product with a rounded quotient against one division that is rounded down: the
rounding of the product and that of the division count for a ray and two, the
rounding of the quotient once for each share.
-/
theorem FixedPoint.two_mul_abs_valuation_le {n pooled rate total value : Int}
    (hrate : rayDiv pooled total = .ok rate) (hvalue : rayMul n rate = .ok value) :
    2 * ray * |value - n * pooled / total| ≤ n + 3 * ray := by
  have hn := (rayMul_ok hvalue).left
  have htotal := (rayDiv_ok hrate).right.left
  have hproduct := two_mul_abs_le (abs_rayMul_sub_le hvalue)
  have hquotient := two_mul_abs_le (abs_rayDiv_sub_le hrate)
  have hfloor := two_mul_abs_ediv_sub_le (a := n * pooled) htotal
  rw [abs_sub_comm] at hfloor
  generalize n * pooled / total = worth at hfloor ⊢
  have hexact := two_mul_abs_combination_le hn (show 0 ≤ ray by decide) hquotient hfloor
  have hsplit : total * (ray * (value - worth)) = total * (ray * value - n * rate) +
      1 * (n * (total * rate - pooled * ray) + ray * (n * pooled - total * worth)) := by
    ring
  have hscaled : total * (2 * ray * |value - worth|) ≤ total * (n + 3 * ray) := by
    calc total * (2 * ray * |value - worth|)
        = 2 * |total * (ray * (value - worth))| := by
          rw [abs_mul, abs_mul, abs_of_pos htotal, abs_of_pos (show 0 < ray by decide)]
          ring
      _ ≤ total * ray + 1 * (n * total + ray * (2 * total)) := by
          rw [hsplit]
          exact two_mul_abs_combination_le htotal.le (by decide) hproduct hexact
      _ = total * (n + 3 * ray) := by ring
  exact Int.le_of_mul_le_mul_left hscaled htotal

namespace SharePool

variable {p : SharePool} {n rate value : Int}

/-- A value no further from the pool's own valuation of shares than the roundings allow. -/
def IsNearValue (p : SharePool) (shares value : Int) : Prop :=
  2 * ray * |value - p.amountFor shares| ≤ shares + 3 * ray

theorem isNearValue_of_rate (hrate : p.exchangeRate = .ok rate) (hvalue : rayMul n rate = .ok value) :
    p.IsNearValue n value := by
  unfold IsNearValue
  unfold exchangeRate at hrate
  by_cases hempty : p.totalShares = 0
  · rw [if_pos hempty] at hrate
    cases hrate
    rw [rayMul_ray hvalue, amountFor, if_pos hempty, Int.sub_self, abs_zero, Int.mul_zero]
    exact Int.add_nonneg (rayMul_ok hvalue).left (by decide)
  · rw [if_neg hempty] at hrate
    rw [amountFor_eq_ediv (rayDiv_ok hrate).right.left]
    exact two_mul_abs_valuation_le hrate hvalue

theorem exchangeRate_nonneg (hrate : p.exchangeRate = .ok rate) : 0 ≤ rate := by
  unfold exchangeRate at hrate
  split at hrate
  · cases hrate
    decide
  · exact rayDiv_nonneg hrate

theorem valueOf_near (hissued : 0 ≤ p.totalShares) (hpooled : 0 ≤ p.totalPooled) (hn : 0 ≤ n) :
    (∃ r, p.valueOf n = .error r ∧ r.kind = .overflow) ∨
      ∃ value, p.valueOf n = .ok value ∧ p.IsNearValue n value := by
  cases hrate : p.exchangeRate with
  | error r =>
      left
      have hvalue : p.valueOf n = .error r := by
        rw [valueOf, hrate]
        rfl
      refine ⟨r, hvalue, ?_⟩
      unfold exchangeRate at hrate
      split at hrate
      · cases hrate
      · exact (rayDiv_error hpooled (by omega) hrate).left
  | ok rate =>
      rw [valueOf_of_rate hrate]
      cases hvalue : rayMul n rate with
      | error r => exact Or.inl ⟨r, rfl, (rayMul_error hn (exchangeRate_nonneg hrate) hvalue).left⟩
      | ok value => exact Or.inr ⟨value, rfl, isNearValue_of_rate hrate hvalue⟩

end SharePool

/-!
# Calls on the books and on the pool
-/

inductive BackedCall where
  | onBooks (c : BookCall)
  | onPool (c : PoolCall)

namespace BackedCall

def perform : BackedCall → Act RebasingLedger Document
  | onBooks c => c.onRebasing
  | onPool c => do return .int (← RebasingLedger.onAsset (ReserveAsset.onPool c.perform))

def after (c : BackedCall) (w : RebasingLedger) : RebasingLedger := (Act.run c.perform w).2

def afterAll : List BackedCall → RebasingLedger → RebasingLedger
  | [], w => w
  | c :: rest, w => afterAll rest (c.after w)

end BackedCall

namespace RebasingLedger

variable {w : RebasingLedger} {p : SharePool} {α : Type}

def RestsOnPool (w : RebasingLedger) : Prop := (∃ p, w.asset = .pool p) ∧ w.pinned = none

theorem stable_reading_pool :
    Act.Stable (fun a : ReserveAsset => ∃ p, a = .pool p) ReserveAsset.exchangeRate := by
  constructor
  rintro _ ⟨p, rfl⟩
  unfold Act.run ReserveAsset.exchangeRate
  dsimp only
  split <;> exact ⟨p, rfl⟩

theorem stable_unpinned {m : Int → Act RebasingLedger α} :
    Act.Stable (fun w => w.pinned = none) (withPinnedRate m) := by
  apply Act.Stable.of_leaves
  intro w hw
  unfold withPinnedRate
  rw [Act.leaves_bind]
  apply leaves_pinRate.mono
  · rintro ⟨rate, mine⟩ w' ⟨_, _, hnotMine, _⟩
    cases mine with
    | true =>
        exact Act.leaves_thenAlways.mpr (Act.leaves_of_run (fun _ _ _ => rfl) (fun _ _ _ => rfl))
    | false =>
        have hpinned := hnotMine rfl
        rw [hw] at hpinned
        cases hpinned
  · intro _ w' h
    exact h.right.trans hw

theorem stable_presented {sharesOf : RebasingLedger → Int} {index : Int} :
    Act.Stable RestsOnPool (do
      let scaled ← (do
        let rate ← snapshot
        let w ← Act.current
        rayMul (sharesOf w) rate : Act RebasingLedger Int)
      rayMul scaled index : Act RebasingLedger Int) := by
  apply Act.Stable.and
  · exact (stable_valued stable_reading_pool).bind fun _ => Act.Stable.refusable _
  · apply Act.Stable.of_leaves
    intro w hw
    exact leaves_valued.mono (fun _ _ h => h.right.trans hw) (fun _ _ h => h.right.trans hw)

theorem stable_onBooks (c : BookCall) : Act.Stable RestsOnPool c.onRebasing := by
  have hpool := stable_reading_pool
  cases c with
  | mint holder amount index =>
      have hpinned : Act.Stable (fun w => w.pinned = none) (deposit holder amount index) :=
        (Act.Stable.refuse _).ite
          (stable_unpinned.bind fun _ => (Act.Stable.note _).bind fun _ => Act.Stable.pure _)
      exact ((stable_deposit hpool).and hpinned).bind fun _ => Act.Stable.pure _
  | burn holder amount index =>
      have hpinned : Act.Stable (fun w => w.pinned = none) (withdraw holder amount index) :=
        stable_unpinned.bind fun _ => (Act.Stable.note _).bind fun _ => Act.Stable.pure _
      exact ((stable_withdraw hpool).and hpinned).bind fun _ => Act.Stable.pure _
  | transfer sender recipient amount index =>
      have hpinned : Act.Stable (fun w => w.pinned = none) (transfer sender recipient amount index) :=
        (Act.Stable.refuse _).ite stable_unpinned
      exact ((stable_transfer hpool).and hpinned).bind fun _ => Act.Stable.pure _
  | balanceOf holder index => exact stable_presented.bind fun _ => Act.Stable.pure _
  | totalSupply index => exact stable_presented.bind fun _ => Act.Stable.pure _

theorem stable_onPool {m : Act SharePool α} :
    Act.Stable RestsOnPool (onAsset (ReserveAsset.onPool m)) := by
  have hasset : Act.Stable (fun a : ReserveAsset => ∃ p, a = .pool p) (ReserveAsset.onPool m) := by
    constructor
    rintro _ ⟨p, rfl⟩
    exact ⟨(Act.run m p).2, rfl⟩
  exact Act.Stable.within (fun _ h => h.left) (fun _ _ h hpool => ⟨hpool, h.right⟩) hasset

theorem restsOnPool_afterAll (h : w.RestsOnPool) (calls : List BackedCall) :
    (BackedCall.afterAll calls w).RestsOnPool := by
  induction calls generalizing w with
  | nil => exact h
  | cons c rest ih =>
      apply ih
      cases c with
      | onBooks c => exact (stable_onBooks c).after w h
      | onPool c => exact (stable_onPool.bind fun _ => Act.Stable.pure _).after w h

/-!
# The views of books over a pool
-/

theorem outcome_snapshot_of_pool {rate : Int} (hpool : w.asset = .pool p) (hpinned : w.pinned = none)
    (hrate : p.HasRate rate) : (Act.run snapshot w).1 = .ok rate := by
  have hread := leaves_snapshot_of_pool hpool hpinned
  cases hrun : Act.run snapshot w with
  | mk outcome w' =>
      cases outcome with
      | error e => exact absurd hrate (hread.of_error hrun rate)
      | ok rate' =>
          have hread' := (hread.of_ok hrun).left.left
          cases hread'.symm.trans hrate.left
          rfl

theorem outcome_scaledIn_of_pool {rate : Int} (hpool : w.asset = .pool p) (hpinned : w.pinned = none)
    (hrate : p.HasRate rate) (portion : Portion) :
    (Act.run portion.scaledIn w).1 =
      (p.valueOf (portion.shares w.ledger)).mapError Fault.ofRefusal := by
  rw [portion.outcome_scaledIn, SharePool.valueOf_of_rate hrate.left]
  change (Act.run snapshot w).1.bind _ = _
  rw [outcome_snapshot_of_pool hpool hpinned hrate]
  rfl

theorem isNearValue_of_scaledIn {portion : Portion} {value : Int} (hpool : w.asset = .pool p)
    (hpinned : w.pinned = none) (hview : (Act.run portion.scaledIn w).1 = .ok value) :
    p.IsNearValue (portion.shares w.ledger) value := by
  have hscaled := portion.outcome_scaledIn.symm.trans hview
  rcases Act.exists_of_bind_ok hscaled with ⟨rate, hread, _⟩
  have hrun : Act.run snapshot w = (.ok rate, (Act.run snapshot w).2) := Prod.ext hread rfl
  have hrate := ((leaves_snapshot_of_pool hpool hpinned).of_ok hrun).left.left
  exact SharePool.isNearValue_of_rate hrate (rayMul_of_scaledIn hread hview)

/--
Any shares of a pool are worth at its rate what the pool makes of them, up to the
roundings, unless a number is too large. So whatever is called on books over a
pool and on the pool, each scaled view is the value of its shares at the rate
that the pool has by then, and near what the pool makes of them.
-/
theorem scaled_views_track_pool :
    (∀ (p : SharePool) (shares : Int), 0 ≤ p.totalShares → 0 ≤ p.totalPooled → 0 ≤ shares →
      (∃ r, p.valueOf shares = .error r ∧ r.kind = .overflow) ∨
        ∃ value, p.valueOf shares = .ok value ∧ p.IsNearValue shares value) ∧
    ∀ w : RebasingLedger, w.RestsOnPool → ∀ calls : List BackedCall,
      let w' := BackedCall.afterAll calls w
      ∃ p, w'.asset = .pool p ∧ ∀ portion : Portion,
        (∀ rate, p.HasRate rate → (Act.run portion.scaledIn w').1 =
          (p.valueOf (portion.shares w'.ledger)).mapError Fault.ofRefusal) ∧
        ∀ value, (Act.run portion.scaledIn w').1 = .ok value →
          p.IsNearValue (portion.shares w'.ledger) value := by
  constructor
  · intro p shares hissued hpooled hshares
    exact SharePool.valueOf_near hissued hpooled hshares
  · intro w h calls w'
    rcases restsOnPool_afterAll h calls with ⟨⟨p, hpool⟩, hpinned⟩
    refine ⟨p, hpool, fun portion => ⟨fun rate hrate => ?_, fun value hview => ?_⟩⟩
    · exact outcome_scaledIn_of_pool hpool hpinned hrate portion
    · exact isNearValue_of_scaledIn hpool hpinned hview

/-- At ten thirds two shares are seen as seven units, while the pool makes six of them. -/
theorem scaled_views_track_pool_at_ten_thirds :
    let start := fresh (.pool (SharePool.fresh "stETH" 18))
    let w := BackedCall.afterAll [.onPool (.submit "reserve" 3), .onBooks (.mint "Alice" 3 ray),
      .onPool (.rebase (.number ⟨false, 234, -2⟩)), .onBooks (.transfer "alice" "Bob" 3 ray)] start
    start.RestsOnPool ∧ ∃ p, w.asset = .pool p ∧ 0 ≤ p.totalShares ∧ 0 ≤ p.totalPooled ∧
      p.amountFor 2 = 6 ∧ p.valueOf 2 = .ok 7 ∧ p.IsNearValue 2 7 ∧
      (Act.run (scaledBalanceOf "Alice") w).1 = .ok 7 ∧
      p.IsNearValue ((Portion.ofHolder "Alice").shares w.ledger) 7 := by
  intro start w
  have hstart : start.RestsOnPool := ⟨⟨_, rfl⟩, rfl⟩
  rcases scaled_views_track_pool with ⟨hshares, hbooks⟩
  rcases hbooks start hstart [.onPool (.submit "reserve" 3), .onBooks (.mint "Alice" 3 ray),
    .onPool (.rebase (.number ⟨false, 234, -2⟩)), .onBooks (.transfer "alice" "Bob" 3 ray)] with
    ⟨p, hpool, hviews⟩
  have hfigures : w.asset.pool?.map (fun p => (decide (0 ≤ p.totalShares),
      decide (0 ≤ p.totalPooled), p.amountFor 2, (p.valueOf 2).toOption)) =
      some (true, true, 6, some 7) := by
    decide +kernel
  rw [show w.asset = .pool p from hpool] at hfigures
  simp only [ReserveAsset.pool?, Option.map_some, Option.some.injEq, Prod.mk.injEq,
    decide_eq_true_eq] at hfigures
  rcases hfigures with ⟨hissued, hpooled, hamount, houtcome⟩
  have hvalue : p.valueOf 2 = .ok 7 := Act.eq_ok_of_toOption houtcome
  have hview : (Act.run (scaledBalanceOf "Alice") w).1 = .ok 7 :=
    Act.eq_ok_of_toOption (by decide +kernel)
  refine ⟨hstart, p, hpool, hissued, hpooled, hamount, hvalue, ?_, hview,
    (hviews (.ofHolder "Alice")).right 7 hview⟩
  rcases hshares p 2 hissued hpooled (by decide) with ⟨r, hrefused, _⟩ | ⟨value, hok, hnear⟩
  · cases hvalue.symm.trans hrefused
  · cases hvalue.symm.trans hok
    exact hnear

end RebasingLedger
end ReserveAccounting
