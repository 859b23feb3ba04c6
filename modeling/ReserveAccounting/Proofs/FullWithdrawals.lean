import ReserveAccounting.Proofs.CheckpointRoom
import ReserveAccounting.Proofs.ViewValues

/-!
# Full withdrawals

What shares are worth is rounded, and so is the number of shares that an amount
asks for. From a factor of one on, the second rounding takes back the first: a
holder who withdraws everything is left with nothing, neither a share short nor
one over, through one conversion or through two. Only the size of the numbers
can prevent it.
-/

namespace ReserveAccounting

open FixedPoint

namespace FixedPoint

variable {n i v r : Int}

/-!
# There and back
-/

theorem le_of_rayMul (hi : ray ≤ i) (h : rayMul n i = .ok v) : n ≤ v := by
  rcases rayMul_ok h with ⟨hn, _, _, rfl⟩
  rw [Int.le_ediv_iff_mul_le (by decide)]
  have hproduct := Int.mul_le_mul_of_nonneg_left hi hn
  have hhalf : 0 ≤ ray / 2 := by decide
  omega

/--
From a factor of one on, the quotient of a value is the number of shares again:
the value lies within half a ray of the exact product, and that is at most half
of the divisor.
-/
theorem rayDiv_of_rayMul (hi : ray ≤ i) (hv : rayMul n i = .ok v) (hr : rayDiv v i = .ok r) :
    r = n := by
  apply le_antisymm (rayDiv_le_of_le_rayMul hi hv (Int.le_refl v) hr)
  have hnear := (abs_le.mp (abs_rayMul_sub_le hv)).left
  rcases rayDiv_ok hr with ⟨_, hpos, rfl⟩
  rw [Int.le_ediv_iff_mul_le hpos]
  rw [mul_comm v ray]
  simp only [ray] at *
  omega

theorem pos_of_rayMul_pos (h : rayMul n i = .ok v) (hv : 0 < v) : 0 < n := by
  rcases rayMul_ok h with ⟨hn, _, _, rfl⟩
  by_contra hle
  rcases (show n = 0 by omega) with rfl
  rw [Int.zero_mul] at hv
  exact absurd hv (by decide)

theorem rayMul_pos (hworth : ray ≤ 2 * (n * i)) (h : rayMul n i = .ok v) : 0 < v := by
  rcases rayMul_ok h with ⟨_, _, _, rfl⟩
  apply Int.lt_of_add_one_le
  rw [Int.le_ediv_iff_mul_le (by decide)]
  simp only [ray] at *
  omega

theorem rayDiv_rayMul_pos (hn : 0 < n) (hv : rayMul n i = .ok v) (hpos : 0 < v)
    (hr : rayDiv v i = .ok r) : 0 < r := by
  have hnear := (abs_le.mp (abs_rayMul_sub_le hv)).left
  rcases rayDiv_ok hr with ⟨_, hi, rfl⟩
  have hone : 1 * i ≤ n * i := Int.mul_le_mul_of_nonneg_right hn hi.le
  apply Int.lt_of_add_one_le
  rw [Int.le_ediv_iff_mul_le hi]
  simp only [ray] at *
  omega

theorem rayMul_isOverflow {e : Refusal} (hn : 0 ≤ n) (hi : 0 ≤ i) (h : rayMul n i = .error e) :
    (Fault.ofRefusal e).IsOverflow := by
  rcases rayMul_error hn hi h with ⟨hkind, hrefused⟩
  exact ⟨e, hrefused, hkind⟩

theorem rayDiv_isOverflow {e : Refusal} (hv : 0 ≤ v) (hi : 0 < i) (h : rayDiv v i = .error e) :
    (Fault.ofRefusal e).IsOverflow := by
  rcases rayDiv_error hv hi h with ⟨hkind, hrefused⟩
  exact ⟨e, hrefused, hkind⟩

end FixedPoint

/-!
# Plain books
-/

namespace ShareLedger

variable {l : ShareLedger} {holder : String} {index : Int}

theorem leaves_applyDelta_debit {n : Int} (hpos : 0 < n) (hle : n ≤ l.sharesOf holder) :
    (applyDelta holder (-n) .burn).Leaves l
      (fun _ l' => l.Debits (Text.lower holder) n l') (fun _ _ => False) := by
  have hsign : decide (0 < -n) = BalanceChange.burn.isCredit := by
    apply decide_eq_false
    omega
  have hrun : Act.run (applyDelta holder (-n) .burn) l =
      (.ok _, l.withDelta (Text.lower holder) (-n) .burn) :=
    run_applyDelta (by omega) hsign (by rw [← sharesOf_eq_held]; omega)
  unfold Act.Leaves
  rw [hrun]
  exact ⟨hpos, hle, rfl⟩

theorem leaves_burn_everything (hindex : ray ≤ index) (hheld : 0 < l.sharesOf holder) :
    (burn holder everything index).Leaves l
      (fun value l' => rayMul (l.sharesOf holder) index = .ok value ∧
        l.Debits (Text.lower holder) (l.sharesOf holder) l')
      (fun e l' => e.IsOverflow ∧ l' = l) := by
  have hpos : 0 < index := (show 0 < ray by decide).trans_le hindex
  unfold burn balanceOf
  rw [Act.leaves_bind, Act.leaves_current, Act.leaves_bind, Act.leaves_refusable]
  refine ⟨fun value hvalue => ?_, fun e he => ⟨rayMul_isOverflow hheld.le hpos.le he, rfl⟩⟩
  have hle := le_of_rayMul hindex hvalue
  dsimp only
  rw [if_pos rfl, if_neg (by omega), if_neg (by omega), Act.leaves_bind, Act.leaves_refusable]
  refine ⟨fun asked hasked => ?_, fun e he => ⟨rayDiv_isOverflow (by omega) hpos he, rfl⟩⟩
  rcases rayDiv_of_rayMul hindex hvalue hasked with rfl
  rw [if_neg hheld.ne', min_self, Act.leaves_bind]
  exact (leaves_applyDelta_debit hheld (Int.le_refl _)).mono (fun _ _ h => ⟨hvalue, h⟩)
    (fun _ _ h => h.elim)

end ShareLedger

/-!
# Books over an asset
-/

namespace RebasingLedger

variable {w : RebasingLedger} {holder : String} {index rate : Int}

/--
A withdrawal of everything at any rate. What the shares scale to asks for shares
again, but below a rate of one not always for all of them. A holder whose shares
scale to a unit is refused for the size of the numbers alone.
-/
theorem leaves_withdraw_rounded (hrate : (Act.run snapshot w).1 = .ok rate) (hpos : 0 < rate)
    (hindex : ray ≤ index) :
    (withdraw holder everything index).Leaves w
      (fun value w' => ∃ scaled asked, rayMul (w.ledger.sharesOf holder) rate = .ok scaled ∧
        rayMul scaled index = .ok value ∧ rayDiv scaled rate = .ok asked ∧
        w.ledger.Debits (Text.lower holder) (min asked (w.ledger.sharesOf holder)) w'.ledger)
      (fun e w' => w'.ledger = w.ledger ∧
        (ray ≤ 2 * (w.ledger.sharesOf holder * rate) → e.IsOverflow)) := by
  have hindex_pos : 0 < index := (show 0 < ray by decide).trans_le hindex
  have hunread : ∀ e l, (Act.run snapshot w).1 = .error e →
      l = w.ledger ∧ (ray ≤ 2 * (w.ledger.sharesOf holder * rate) → e.IsOverflow) := by
    intro e l h
    rw [hrate] at h
    cases h
  unfold withdraw
  rw [Act.leaves_bind]
  apply (reads_withPinnedRate
    (fun (p : Int × Int × Int) l =>
      ∃ scaled asked, rayMul (w.ledger.sharesOf holder) rate = .ok scaled ∧
        rayMul scaled index = .ok p.1 ∧ rayDiv scaled rate = .ok asked ∧
        w.ledger.Debits (Text.lower holder) (min asked (w.ledger.sharesOf holder)) l)
    (fun e l => l = w.ledger ∧
      (ray ≤ 2 * (w.ledger.sharesOf holder * rate) → e.IsOverflow)) ?_ hunread).mono
    (fun _ _ h => h) (fun _ _ h => h)
  intro rate' w' hread hledger
  cases hrate.symm.trans hread
  have hshares : w'.internalSharesOf holder = w.ledger.sharesOf holder := by
    unfold internalSharesOf
    rw [hledger]
  rw [Act.leaves_bind, Act.leaves_current, hshares, Act.leaves_bind, Act.leaves_refusable]
  have hheld : ray ≤ 2 * (w.ledger.sharesOf holder * rate) → 0 < w.ledger.sharesOf holder := by
    intro hworth
    have hray : 0 < ray := by decide
    exact pos_of_mul_pos_left (by omega) hpos.le
  refine ⟨fun scaled hscaled => ?_, fun e he =>
    ⟨hledger, fun hworth => rayMul_isOverflow (hheld hworth).le hpos.le he⟩⟩
  have hscaled_nonneg := rayMul_nonneg hscaled
  rw [Act.leaves_bind, Act.leaves_refusable]
  refine ⟨fun value hvalue => ?_, fun e he =>
    ⟨hledger, fun _ => rayMul_isOverflow hscaled_nonneg hindex_pos.le he⟩⟩
  have hvalue_le := le_of_rayMul hindex hvalue
  dsimp only
  rw [if_pos rfl, Act.leaves_ite]
  refine ⟨fun hnothing => ⟨hledger, fun hworth => ?_⟩, fun hsome => ?_⟩
  · have hscaled_pos := rayMul_pos hworth hscaled
    omega
  rw [if_neg (Int.lt_irrefl value), Act.leaves_bind, Act.leaves_refusable]
  -- the index was no less than one, so dividing by it takes its product back
  refine ⟨fun quotient hquotient => ?_, fun e he =>
    ⟨hledger, fun _ => rayDiv_isOverflow (by omega) hindex_pos he⟩⟩
  rcases rayDiv_of_rayMul hindex hvalue hquotient with rfl
  rw [Act.leaves_bind, Act.leaves_refusable]
  refine ⟨fun asked hasked => ?_, fun e he =>
    ⟨hledger, fun _ => rayDiv_isOverflow hscaled_nonneg hpos he⟩⟩
  rw [Act.leaves_ite]
  refine ⟨fun hnone => ⟨hledger, fun hworth => ?_⟩, fun hasked_ne => ?_⟩
  · have hasked_pos :=
      rayDiv_rayMul_pos (hheld hworth) hscaled (rayMul_pos hworth hscaled) hasked
    omega
  have hmin_pos : 0 < min asked (w.ledger.sharesOf holder) := by
    have hasked_nonneg := rayDiv_nonneg hasked
    have hheld_pos := pos_of_rayMul_pos hscaled (pos_of_rayMul_pos hvalue (not_le.mp hsome))
    omega
  rw [Act.leaves_bind, leaves_onLedger, hledger]
  exact (ShareLedger.leaves_applyDelta_debit hmin_pos (min_le_right _ _)).mono
    (fun _ _ h => ⟨quotient, asked, hscaled, hvalue, hasked, h⟩) (fun _ _ h => h.elim)

theorem leaves_withdraw_everything (hrate : (Act.run snapshot w).1 = .ok rate) (hone : ray ≤ rate)
    (hindex : ray ≤ index) (hheld : 0 < w.ledger.sharesOf holder) :
    (withdraw holder everything index).Leaves w
      (fun value w' => (∃ scaled, rayMul (w.ledger.sharesOf holder) rate = .ok scaled ∧
        rayMul scaled index = .ok value) ∧
        w.ledger.Debits (Text.lower holder) (w.ledger.sharesOf holder) w'.ledger)
      (fun e w' => e.IsOverflow ∧ w'.ledger = w.ledger) := by
  have hpos : 0 < rate := (show 0 < ray by decide).trans_le hone
  have hworth : ray ≤ 2 * (w.ledger.sharesOf holder * rate) := by
    have hproduct : 1 * rate ≤ w.ledger.sharesOf holder * rate :=
      Int.mul_le_mul_of_nonneg_right hheld hpos.le
    omega
  apply (leaves_withdraw_rounded hrate hpos hindex).mono _
    (fun e w' h => ⟨h.right hworth, h.left⟩)
  intro value w' h
  rcases h with ⟨scaled, asked, hscaled, hvalue, hasked, hdebits⟩
  rcases rayDiv_of_rayMul hone hscaled hasked with rfl
  rw [min_self] at hdebits
  exact ⟨⟨scaled, hscaled, hvalue⟩, hdebits⟩

end RebasingLedger

/-!
# Both kinds of books
-/

namespace BalanceModel

variable {m : BalanceModel} {holder : String} {index : Int}

def AtLeastPar (m : BalanceModel) : Prop :=
  ∀ reading, m.rate? = some reading → ∃ rate, reading = .ok rate ∧ ray ≤ rate

theorem leaves_burn_everything (hrate : m.AtLeastPar) (hindex : ray ≤ index)
    (hheld : 0 < m.ledger.sharesOf holder) :
    (burn holder everything index).Leaves m
      (fun value m' => m.presentedValue index (m.ledger.sharesOf holder) = .ok value ∧
        m.ledger.Debits (Text.lower holder) (m.ledger.sharesOf holder) m'.ledger)
      (fun e m' => e.IsOverflow ∧ m'.ledger = m.ledger) := by
  unfold burn
  cases m with
  | plain l =>
      rw [leaves_dispatch_plain]
      apply (ShareLedger.leaves_burn_everything hindex hheld).mono _ (fun _ _ h => ⟨h.left, h.right⟩)
      intro value l' h
      rcases h with ⟨hvalue, hdebits⟩
      exact ⟨presentedValue_of_scaledValue rfl hvalue, hdebits⟩
  | rebasing w =>
      rw [leaves_dispatch_rebasing]
      rcases hrate _ rfl with ⟨rate, hread, hone⟩
      apply (RebasingLedger.leaves_withdraw_everything hread hone hindex hheld).mono _
        (fun _ _ h => h)
      intro value w' h
      rcases h with ⟨⟨scaled, hscaled, hvalue⟩, hdebits⟩
      exact ⟨presentedValue_of_scaledValue (scaledValue_of_rate hread hscaled) hvalue, hdebits⟩

/--
A holder with shares can burn everything, and is empty afterwards: unless a
number is too large for a word, the call answers the whole balance as the view
shows it, cancels exactly the shares of the holder, and takes them off the total.
This is so in both kinds of books, at every index and every rate not below one.
-/
theorem burn_everything_drains (hrate : m.AtLeastPar) (hindex : ray ≤ index)
    (hheld : 0 < m.ledger.sharesOf holder) :
    (∃ e m', Act.run (burn holder everything index) m = (.error e, m') ∧ e.IsOverflow ∧
      m'.ledger = m.ledger) ∨
    ∃ balance m', Act.run (burn holder everything index) m = (.ok balance, m') ∧
      (Act.run (balanceOf holder index) m).1 = .ok balance ∧ m'.ledger.sharesOf holder = 0 ∧
      m'.ledger.totalShares = m.ledger.totalShares - m.ledger.sharesOf holder := by
  have hleaves := leaves_burn_everything hrate hindex hheld
  cases hrun : Act.run (burn holder everything index) m with
  | mk outcome m' =>
      cases outcome with
      | error e =>
          rcases hleaves.of_error hrun with ⟨hoverflow, hledger⟩
          exact Or.inl ⟨e, m', rfl, hoverflow, hledger⟩
      | ok balance =>
          rcases hleaves.of_ok hrun with ⟨hvalue, hdebits⟩
          refine Or.inr ⟨balance, m', rfl, outcome_balanceOf.trans hvalue, ?_,
            hdebits.totalShares_eq⟩
          rw [ShareLedger.sharesOf_eq_held, hdebits.held_eq, if_pos rfl,
            ShareLedger.sharesOf_eq_held, sub_self]

/-- Three shares at a rate and an index of one and a half: both products round up. -/
theorem burn_everything_drains_two_conversions :
    let half := ray / 2
    let m : BalanceModel := .rebasing { RebasingLedger.fresh
      (.feed ⟨"stETH", fun _ => ray + half, 0⟩) with
        ledger := ⟨.ofList [("alice", 3), ("bob", 2)], 5⟩ }
    m.AtLeastPar ∧ ray ≤ ray + half ∧ 0 < m.ledger.sharesOf "Alice" ∧
      ∃ balance m', Act.run (burn "Alice" everything (ray + half)) m = (.ok balance, m') ∧
        balance = 8 ∧ (Act.run (balanceOf "Alice" (ray + half)) m).1 = .ok balance ∧
        m'.ledger.sharesOf "Alice" = 0 ∧ m'.ledger.totalShares = 5 - 3 := by
  intro half m
  have hrate : m.AtLeastPar := by
    intro reading hreading
    cases hreading
    exact ⟨ray + half, rfl, by decide⟩
  have hheld : 0 < m.ledger.sharesOf "Alice" := by decide +kernel
  have hburned : (Act.run (burn "Alice" everything (ray + half)) m).1 = .ok 8 :=
    Act.eq_ok_of_toOption (by decide +kernel)
  refine ⟨hrate, by decide, hheld, ?_⟩
  rcases burn_everything_drains hrate (show ray ≤ ray + half by decide) hheld with
    ⟨e, m', hrun, _⟩ | ⟨balance, m', hrun, hbalance, hempty, htotal⟩
  · rw [hrun] at hburned
    cases hburned
  · rw [hrun] at hburned
    cases hburned
    refine ⟨8, m', hrun, rfl, hbalance, hempty, htotal.trans ?_⟩
    decide +kernel

/-- Below one the quotient need not come back: of six shares at two fifths one is left. -/
example : (Act.run (ShareLedger.burn "alice" everything (2 * ray / 5))
    ⟨.ofList [("alice", 6)], 6⟩).2.sharesOf "alice" = 1 := by decide +kernel

end BalanceModel
end ReserveAccounting
