import Mathlib.Algebra.Order.Ring.Abs
import ReserveAccounting.Proofs.RestoredTokens

/-!
# Presented balances

A balance is presented as shares times factors, rounded at every product. The
presented balances therefore do not sum to the presented supply, but what is
lost or gained is the rounding of the views alone: the shares behind them sum to
the total, and a run of whatever length adds nothing to the difference.
-/

namespace ReserveAccounting

open FixedPoint

/-!
# Rounded products in a sum
-/

namespace FixedPoint

variable {a b c r v : Int}

/-- Two roundings in a row: the error of the first one grows with the second factor. -/
theorem abs_rayMul_rayMul_sub_le (hr : rayMul a b = .ok r) (hv : rayMul r c = .ok v) :
    |ray * ray * v - a * (b * c)| ≤ (ray + c) * (ray / 2) := by
  have hinner := abs_rayMul_sub_le hr
  have houter := abs_rayMul_sub_le hv
  rcases rayMul_ok hv with ⟨_, _, hc, _⟩
  calc |ray * ray * v - a * (b * c)|
      = |ray * (ray * v - r * c) + c * (ray * r - a * b)| := by ring_nf
    _ ≤ |ray * (ray * v - r * c)| + |c * (ray * r - a * b)| := abs_add_le _ _
    _ = ray * |ray * v - r * c| + c * |ray * r - a * b| := by
        rw [abs_mul, abs_mul, abs_of_nonneg (show (0 : Int) ≤ ray by decide), abs_of_nonneg hc]
    _ ≤ ray * (ray / 2) + c * (ray / 2) := by
        gcongr
        decide
    _ = (ray + c) * (ray / 2) := by ring

end FixedPoint

/-- Values that each lie within a slack of a multiple of some weight. -/
def Estimates (unit factor slack : Int) (weight value : Int) : Prop :=
  |unit * value - weight * factor| ≤ slack

namespace Estimates

variable {unit factor slack : Int} {weights values : List Int} {total : Int}

theorem sum (h : List.Forall₂ (Estimates unit factor slack) weights values) :
    Estimates unit factor (weights.length * slack) weights.sum values.sum := by
  induction h with
  | nil => simp [Estimates]
  | @cons weight value weights values hhead _ ih =>
      unfold Estimates at *
      rw [List.sum_cons, List.sum_cons, List.length_cons]
      calc |unit * (value + values.sum) - (weight + weights.sum) * factor|
          = |(unit * value - weight * factor) + (unit * values.sum - weights.sum * factor)| := by
            ring_nf
        _ ≤ |unit * value - weight * factor| + |unit * values.sum - weights.sum * factor| :=
            abs_add_le _ _
        _ ≤ slack + weights.length * slack := add_le_add hhead ih
        _ = ((weights.length + 1 : Nat) : Int) * slack := by
            push_cast
            ring

theorem sum_near_total (h : List.Forall₂ (Estimates unit factor slack) weights values)
    (htotal : Estimates unit factor slack weights.sum total) (hunit : 0 ≤ unit) :
    unit * |values.sum - total| ≤ (weights.length + 1) * slack := by
  have hsum := sum h
  unfold Estimates at *
  calc unit * |values.sum - total|
      = |unit * (values.sum - total)| := by rw [abs_mul, abs_of_nonneg hunit]
    _ = |(unit * values.sum - weights.sum * factor) - (unit * total - weights.sum * factor)| := by
        ring_nf
    _ ≤ |unit * values.sum - weights.sum * factor| + |unit * total - weights.sum * factor| :=
        abs_sub _ _
    _ ≤ weights.length * slack + slack := add_le_add hsum htotal
    _ = (weights.length + 1) * slack := by ring

end Estimates

/-!
# What a view computes
-/

theorem ShareLedger.Sound.sum_held {l : ShareLedger} (h : l.Sound) :
    (l.holders.map l.sharesOf).sum = l.totalShares := by
  rw [← h.total]
  have hheld : l.holders.map l.sharesOf = l.shares.values := by
    rw [← show l.holders.map l.held = l.shares.values from Table.map_find?_fst l.shares.nodup]
    apply List.map_congr_left
    intro x hx
    rw [sharesOf_eq_held, h.small x hx]
  rw [hheld]

namespace RebasingLedger

variable {w : RebasingLedger} {index : Int}

theorem leaves_valued_at (sharesOf : ShareLedger → Int) :
    (do
      let scaled ← (do
        let rate ← snapshot
        let w ← Act.current
        rayMul (sharesOf w.ledger) rate : Act RebasingLedger Int)
      rayMul scaled index : Act RebasingLedger Int).Leaves w
      (fun value _ => ∃ rate scaled, (Act.run snapshot w).1 = .ok rate ∧
        rayMul (sharesOf w.ledger) rate = .ok scaled ∧ rayMul scaled index = .ok value)
      (fun _ _ => True) := by
  rw [Act.leaves_bind, Act.leaves_bind]
  have hread : snapshot.Leaves w
      (fun rate w' => w'.ledger = w.ledger ∧ (Act.run snapshot w).1 = .ok rate)
      (fun _ _ => True) := by
    apply Act.leaves_of_run
    · intro rate w' hrun
      rw [hrun]
      exact ⟨(leaves_snapshot.of_ok hrun).left, rfl⟩
    · intro _ _ _
      trivial
  apply hread.mono _ fun _ _ h => h
  intro rate w' h
  rcases h with ⟨hledger, hrate⟩
  rw [Act.leaves_bind, Act.leaves_current, Act.leaves_refusable]
  refine ⟨fun scaled hscaled => ?_, fun _ _ => trivial⟩
  rw [Act.leaves_refusable]
  rw [hledger] at hscaled
  exact ⟨fun value hvalue => ⟨rate, scaled, hrate, hscaled, hvalue⟩, fun _ _ => trivial⟩

end RebasingLedger

namespace DepositToken

variable {s : DepositToken}

def Measures (model : BalanceModel) (index shares value : Int) : Prop :=
  match model with
  | .plain _ => rayMul shares index = .ok value
  | .rebasing w => ∃ rate scaled, (Act.run RebasingLedger.snapshot w).1 = .ok rate ∧
      rayMul shares rate = .ok scaled ∧ rayMul scaled index = .ok value

theorem measures_balanceOf {holder : String} :
    (balanceOf holder).Leaves s
      (fun value _ => Measures s.model s.index (s.model.ledger.sharesOf holder) value)
      (fun _ _ => True) := by
  unfold balanceOf BalanceModel.balanceOf
  rw [Act.leaves_bind, Act.leaves_current, leaves_onModel]
  cases hmodel : s.model with
  | plain l =>
      rw [BalanceModel.leaves_dispatch_plain]
      exact BalanceModel.leaves_view.mono (fun _ _ h => h.left) (fun _ _ _ => trivial)
  | rebasing w =>
      rw [BalanceModel.leaves_dispatch_rebasing]
      exact RebasingLedger.leaves_valued_at fun l => l.sharesOf holder

theorem measures_totalSupply :
    totalSupply.Leaves s
      (fun value _ => Measures s.model s.index s.model.ledger.totalShares value)
      (fun _ _ => True) := by
  unfold totalSupply BalanceModel.totalSupply
  rw [Act.leaves_bind, Act.leaves_current, leaves_onModel]
  cases hmodel : s.model with
  | plain l =>
      rw [BalanceModel.leaves_dispatch_plain]
      exact BalanceModel.leaves_view.mono (fun _ _ h => h.left) (fun _ _ _ => trivial)
  | rebasing w =>
      rw [BalanceModel.leaves_dispatch_rebasing]
      exact RebasingLedger.leaves_valued_at ShareLedger.totalShares

structure Presents (s : DepositToken) (balances : List Int) (supply : Int) : Prop where
  balances : List.Forall₂ (fun holder balance => (Act.run (balanceOf holder) s).1 = .ok balance)
    s.holders balances
  supply : (Act.run totalSupply s).1 = .ok supply

theorem Presents.measures {balances : List Int} {supply : Int} (h : s.Presents balances supply) :
    List.Forall₂ (Measures s.model s.index) (s.holders.map s.model.ledger.sharesOf) balances ∧
      Measures s.model s.index s.model.ledger.totalShares supply := by
  constructor
  · rw [List.forall₂_map_left_iff]
    apply h.balances.imp
    intro holder balance hview
    exact measures_balanceOf.of_ok (Prod.ext hview rfl)
  · exact measures_totalSupply.of_ok (Prod.ext h.supply rfl)

theorem Presents.near_supply {unit factor slack : Int} {balances : List Int} {supply : Int}
    (h : s.Presents balances supply) (hsound : s.model.ledger.Sound) (hunit : 0 ≤ unit)
    (hmeasures : ∀ shares value, Measures s.model s.index shares value →
      Estimates unit factor slack shares value) :
    unit * |balances.sum - supply| ≤ (s.holders.length + 1) * slack := by
  rcases h.measures with ⟨hbalances, hsupply⟩
  have hestimates := hbalances.imp hmeasures
  have htotal := hmeasures _ _ hsupply
  rw [← hsound.sum_held] at htotal
  have hnear := Estimates.sum_near_total hestimates htotal hunit
  rw [List.length_map] at hnear
  exact hnear

theorem Presents.near_supply_plain {l : ShareLedger} {balances : List Int} {supply : Int}
    (h : s.Presents balances supply) (hsound : s.model.ledger.Sound) (hplain : s.model = .plain l) :
    2 * |balances.sum - supply| ≤ s.holders.length + 1 := by
  have hnear : ray * |balances.sum - supply| ≤ (s.holders.length + 1) * (ray / 2) := by
    apply h.near_supply hsound (by decide)
    intro shares value hvalue
    rw [hplain] at hvalue
    exact abs_rayMul_sub_le hvalue
  simp only [ray] at hnear
  omega

theorem Presents.near_supply_rebasing {w : RebasingLedger} {balances : List Int} {supply : Int}
    (h : s.Presents balances supply) (hsound : s.model.ledger.Sound)
    (hrebasing : s.model = .rebasing w) :
    2 * ray * |balances.sum - supply| ≤ (s.holders.length + 1) * (s.index + ray) := by
  -- all views of one state read the same rate
  have hsupply := h.measures.right
  rw [hrebasing] at hsupply
  rcases hsupply with ⟨rate, _, hrate, _, _⟩
  have hnear : ray * ray * |balances.sum - supply| ≤
      (s.holders.length + 1) * ((ray + s.index) * (ray / 2)) := by
    apply h.near_supply hsound (by decide)
    intro shares value hvalue
    rw [hrebasing] at hvalue
    rcases hvalue with ⟨rate', scaled, hrate', hscaled, hvalue⟩
    rw [hrate] at hrate'
    cases hrate'
    exact abs_rayMul_rayMul_sub_le hscaled hvalue
  have hpos : 0 < ray := by decide
  have heven : ray = 2 * (ray / 2) := by decide
  apply le_of_mul_le_mul_left _ hpos
  calc ray * (2 * ray * |balances.sum - supply|)
      = 2 * (ray * ray * |balances.sum - supply|) := by ring
    _ ≤ 2 * ((s.holders.length + 1) * ((ray + s.index) * (ray / 2))) := by gcongr
    _ = 2 * (ray / 2) * ((s.holders.length + 1) * (s.index + ray)) := by ring
    _ = ray * ((s.holders.length + 1) * (s.index + ray)) := by rw [← heven]

/--
However long the run that led to a token, the balances it presents sum to the
supply it presents, up to the rounding of the views: half a unit for each of
them on plain books, and half a unit for each factor of a view over an asset,
where the index amplifies the first rounding, at any rate of the asset.
-/
theorem presented_balances_near_supply (hs : TokenStep.Reachable s) {balances : List Int}
    {supply : Int} (h : s.Presents balances supply) :
    (s.isRebasing = false → 2 * |balances.sum - supply| ≤ s.holders.length + 1) ∧
      (s.isRebasing = true →
        2 * ray * |balances.sum - supply| ≤ (s.holders.length + 1) * (s.index + ray)) := by
  have hsound := (restores_of_reachable hs).kept.shares
  unfold isRebasing
  cases hmodel : s.model with
  | plain l => exact ⟨fun _ => h.near_supply_plain hsound hmodel, fun hkind => nomatch hkind⟩
  | rebasing w =>
      exact ⟨fun hkind => (nomatch hkind), fun _ => h.near_supply_rebasing hsound hmodel⟩

/-- Three equal holders, on plain books and over an asset, whose roundings all go one way. -/
theorem presented_balances_near_supply_three_holders :
    let half := ray / 2
    let plain : DepositToken := .atOne (.plain .empty) none
    let rebasing : DepositToken :=
      .atOne (.rebasing (.fresh (.feed ⟨"stETH", fun _ => ray + half, 0⟩))) none
    let reached (amount : Int) (start : DepositToken) : DepositToken :=
      [TokenCall.mint "pool" "alice" amount ray, .mint "pool" "Bob" amount ray,
        .mint "pool" "carol" amount ray, .raiseIndex (ray + half) "accrual"].foldl
          (fun s c => (Act.run (TokenStep.call c).answer s).2) start
    let s := reached 1 plain
    let w := reached 3 rebasing
    TokenStep.Reachable s ∧ s.Presents [2, 2, 2] 5 ∧ 2 * |([2, 2, 2] : List Int).sum - 5| ≤ 4 ∧
      TokenStep.Reachable w ∧ w.Presents [5, 5, 5] 14 ∧
      2 * ray * |([5, 5, 5] : List Int).sum - 14| ≤ 4 * (2 * ray + half) := by
  intro half plain rebasing reached s w
  have hreached : ∀ amount model, model.ledger = .empty → model.pinned? = none →
      TokenStep.Reachable (reached amount (.atOne model none)) := by
    intro amount model hempty hunpinned
    have hstart : TokenStep.Reachable (.atOne model none) :=
      reachable_atOne hempty hunpinned fun _ hp => nomatch hp
    exact (((hstart.after _).after _).after _).after _
  have hs : TokenStep.Reachable s := hreached 1 (.plain .empty) rfl rfl
  have hw : TokenStep.Reachable w := hreached 3 _ rfl rfl
  have hviews : s.Presents [2, 2, 2] 5 := by
    have hholders : s.holders = ["alice", "bob", "carol"] := by decide +kernel
    refine ⟨?_, Act.eq_ok_of_toOption (by decide +kernel)⟩
    rw [hholders]
    refine .cons ?_ (.cons ?_ (.cons ?_ .nil)) <;> exact Act.eq_ok_of_toOption (by decide +kernel)
  have hviews' : w.Presents [5, 5, 5] 14 := by
    have hholders : w.holders = ["alice", "bob", "carol"] := by decide +kernel
    refine ⟨?_, Act.eq_ok_of_toOption (by decide +kernel)⟩
    rw [hholders]
    refine .cons ?_ (.cons ?_ (.cons ?_ .nil)) <;> exact Act.eq_ok_of_toOption (by decide +kernel)
  have hplain := (presented_balances_near_supply hs hviews).left (by decide +kernel)
  have hrebasing := (presented_balances_near_supply hw hviews').right (by decide +kernel)
  have hcount : s.holders.length = 3 ∧ w.holders.length = 3 := by decide +kernel
  have hindex : w.index = ray + half := by decide +kernel
  rw [hcount.left] at hplain
  rw [hcount.right, hindex] at hrebasing
  refine ⟨hs, hviews, hplain, hw, hviews', ?_⟩
  calc 2 * ray * |([5, 5, 5] : List Int).sum - 14|
      ≤ ((3 : Nat) + 1) * (ray + half + ray) := hrebasing
    _ = 4 * (2 * ray + half) := by
        push_cast
        ring

end DepositToken
end ReserveAccounting
