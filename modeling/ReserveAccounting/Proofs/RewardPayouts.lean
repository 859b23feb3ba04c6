import ReserveAccounting.Proofs.PaidRewards
import ReserveAccounting.Proofs.RewardConservation

/-!
# What is paid out of what was spread

Roundings alone let holders earn more than was spread over them: half a ray for
each holder whose index is moved, and half the supply for each raise of the
lifetime index. What was paid out is no more than what was earned.
-/

namespace ReserveAccounting

open FixedPoint

namespace RewardTracker

variable {t t' : RewardTracker} {name x y : String} {basisOf : String → Int} {U : Finset String}
  {amount supply : Int} {s : RewardTokenState} {p : String → String → Prop}

/-!
# Moved holders
-/

/-- The holders whose index in a reward token has moved. -/
def movers (name : String) (t t' : RewardTracker) : Finset String :=
  ((t.statesOf name).keys ++ (t'.statesOf name).keys).toFinset.filter fun x =>
    (t'.stateOf name x).index ≠ (t.stateOf name x).index

theorem mem_movers :
    x ∈ movers name t t' ↔ (t'.stateOf name x).index ≠ (t.stateOf name x).index := by
  unfold movers
  rw [Finset.mem_filter, List.mem_toFinset, List.mem_append, and_iff_right_iff_imp]
  intro hmoved
  by_contra hnone
  rw [not_or] at hnone
  rw [stateOf_of_not_mem hnone.left, stateOf_of_not_mem hnone.right] at hmoved
  exact hmoved rfl

theorem movers_congr {t₁ t₁' : RewardTracker}
    (h : ∀ x, (t₁.stateOf name x).index = (t.stateOf name x).index)
    (h' : ∀ x, (t₁'.stateOf name x).index = (t'.stateOf name x).index) :
    movers name t₁ t₁' = movers name t t' := by
  ext x
  rw [mem_movers, mem_movers, h, h']

theorem earning_le_of_accrues (hstate : t'.stateOf name x = t.stateOf name x ∨
      (t.stateOf name x).Accrues (basisOf x) (t.tokenOf name).lifetimeIndex (t'.stateOf name x))
    (htoken : t'.tokenOf name = t.tokenOf name) :
    t'.earning name basisOf x ≤
      t.earning name basisOf x + if x ∈ movers name t t' then ray / 2 else 0 := by
  by_cases hmoved : x ∈ movers name t t'
  · rw [if_pos hmoved]
    rcases hstate with hsame | ⟨earned, hearned, haccrued⟩
    · rw [mem_movers, hsame] at hmoved
      exact absurd rfl hmoved
    · have hrounding := (abs_le.mp (abs_rayMul_sub_le hearned)).right
      unfold earning
      rw [haccrued, htoken]
      dsimp only
      rw [Int.sub_self, Int.mul_zero, mul_add]
      omega
  · rw [if_neg hmoved]
    rw [mem_movers, not_not] at hmoved
    have hsame : t'.stateOf name x = t.stateOf name x := by
      rcases hstate with hsame | haccrues
      · exact hsame
      · exact haccrues.eq_of_index_eq (hmoved.symm.trans haccrues.index_eq)
    unfold earning
    rw [hsame, htoken]
    omega

theorem gap_le_of_settles (h : t.Settles basisOf p t') :
    t'.gap name basisOf U ≤ t.gap name basisOf U + ray / 2 * (movers name t t').card := by
  have htoken := h.differs.tokenOf_eq name
  have hspread : t'.spread name = t.spread name := by
    unfold spread
    rw [htoken]
  have hsum : ∑ x ∈ U, t'.earning name basisOf x ≤
      ∑ x ∈ U, t.earning name basisOf x + ∑ x ∈ U, if x ∈ movers name t t' then ray / 2 else 0 := by
    rw [← Finset.sum_add_distrib]
    exact Finset.sum_le_sum fun x _ => earning_le_of_accrues (h.states name x) htoken
  have hmovers : (∑ x ∈ U, if x ∈ movers name t t' then ray / 2 else 0) ≤
      ray / 2 * (movers name t t').card := by
    have hcard : ((U ∩ movers name t t').card : Int) ≤ (movers name t t').card :=
      Int.ofNat_le.mpr (Finset.card_le_card Finset.inter_subset_right)
    have hhalf : 0 ≤ ray / 2 := by decide
    rw [Finset.sum_ite_mem, Finset.sum_const, nsmul_eq_mul, mul_comm]
    exact Int.mul_le_mul_of_nonneg_left hcard hhalf
  unfold gap
  omega

/-!
# Received amounts
-/

theorem gap_congr_of_states (htoken : t'.tokenOf name = t.tokenOf name)
    (hstates : ∀ x, t'.stateOf name x = t.stateOf name x) :
    t'.gap name basisOf U = t.gap name basisOf U := by
  unfold gap earning spread
  simp only [htoken, hstates]

theorem gap_le_of_spreads (hsupply : ∑ x ∈ U, basisOf x ≤ supply)
    (hspreads : (t.tokenOf name).Spreads amount supply s) :
    (t.withToken name s).gap name basisOf U ≤ t.gap name basisOf U +
      if (t.tokenOf name).lifetimeIndex < s.lifetimeIndex then supply / 2 else 0 := by
  rcases @gap_withToken_of_spreads t name basisOf U amount supply s hspreads with
    ⟨increment, hindex, hincrement, hgap⟩
  rw [hgap, hindex]
  by_cases hzero : increment = 0
  · subst hzero
    simp
  · rw [if_neg hzero]
    by_cases hpos : 0 < supply
    · rw [if_pos hpos] at hincrement
      have hnonneg := rayDiv_nonneg hincrement
      have hrounding := (abs_le.mp (abs_rayDiv_sub_le hincrement)).right
      have hearned := Int.mul_le_mul_of_nonneg_right hsupply hnonneg
      rw [if_pos (by omega), mul_comm ray]
      omega
    · rw [if_neg hpos] at hincrement
      cases hincrement
      exact absurd rfl hzero

theorem gap_le_of_counted (hamount : 0 ≤ amount)
    (hcounted : s = { t.tokenOf name with
      lifetimeRewards := (t.tokenOf name).lifetimeRewards + amount }) :
    (t.withToken name s).gap name basisOf U ≤ t.gap name basisOf U := by
  have hearnings : ∑ x ∈ U, (t.withToken name s).earning name basisOf x =
      ∑ x ∈ U, t.earning name basisOf x := by
    apply Finset.sum_congr rfl
    intro x _
    unfold earning
    rw [tokenOf_withToken, if_pos rfl, hcounted]
    rfl
  have hspread : (t.withToken name s).spread name = t.spread name + ray * amount := by
    unfold spread
    rw [tokenOf_withToken, if_pos rfl, hcounted]
    ring
  have hnonneg : 0 ≤ ray * amount := Int.mul_nonneg (by decide) hamount
  unfold gap
  omega

/-!
# Paid amounts
-/

def paidOut (t : RewardTracker) (name : String) : Int :=
  ∑ x ∈ (t.statesOf name).keys.toFinset, (t.stateOf name x).claimed

theorem paidOut_eq (h : ∀ x ∈ (t.statesOf name).keys, x ∈ U) :
    t.paidOut name = ∑ x ∈ U, (t.stateOf name x).claimed := by
  apply Finset.sum_subset
  · intro x hx
    exact h x (List.mem_toFinset.mp hx)
  · intro x _ hnone
    rw [stateOf_of_not_mem fun hx => hnone (List.mem_toFinset.mpr hx)]
    rfl

theorem paidOut_congr (h : ∀ x, (t'.stateOf name x).claimed = (t.stateOf name x).claimed) :
    t'.paidOut name = t.paidOut name := by
  let U := (t.statesOf name).keys.toFinset ∪ (t'.statesOf name).keys.toFinset
  have hleft : ∀ x ∈ (t.statesOf name).keys, x ∈ U := fun x hx =>
    Finset.mem_union_left _ (List.mem_toFinset.mpr hx)
  have hright : ∀ x ∈ (t'.statesOf name).keys, x ∈ U := fun x hx =>
    Finset.mem_union_right _ (List.mem_toFinset.mpr hx)
  rw [paidOut_eq hleft, paidOut_eq hright]
  exact Finset.sum_congr rfl fun x _ => h x

theorem paidOut_withHolder (s : HolderRewardState) :
    (t.withHolder y x s).paidOut name =
      t.paidOut name + if name = y then s.claimed - (t.stateOf y x).claimed else 0 := by
  let U := insert x ((t.statesOf name).keys.toFinset ∪
    ((t.withHolder y x s).statesOf name).keys.toFinset)
  have hx : x ∈ U := Finset.mem_insert_self x _
  have hleft : ∀ z ∈ (t.statesOf name).keys, z ∈ U := fun z hz =>
    Finset.mem_insert_of_mem (Finset.mem_union_left _ (List.mem_toFinset.mpr hz))
  have hright : ∀ z ∈ ((t.withHolder y x s).statesOf name).keys, z ∈ U := fun z hz =>
    Finset.mem_insert_of_mem (Finset.mem_union_right _ (List.mem_toFinset.mpr hz))
  have hclaimed : ∀ z ∈ U, ((t.withHolder y x s).stateOf name z).claimed =
      (t.stateOf name z).claimed +
        if z = x then (if name = y then s.claimed - (t.stateOf y x).claimed else 0) else 0 := by
    intro z _
    rw [stateOf_withHolder]
    by_cases hz : z = x
    · subst hz
      by_cases hname : name = y
      · subst hname
        rw [if_pos ⟨rfl, rfl⟩, if_pos rfl, if_pos rfl]
        omega
      · rw [if_neg fun h => hname h.left, if_pos rfl, if_neg hname]
        omega
    · rw [if_neg fun h => hz h.right, if_neg hz]
      omega
  rw [paidOut_eq hleft, paidOut_eq hright, Finset.sum_congr rfl hclaimed, Finset.sum_add_distrib,
    Finset.sum_ite_eq', if_pos hx]

/--
Where holders have earned no more than was spread, up to a slack, they were paid
no more than was received, up to that slack.
-/
theorem paidOut_le_of_gap {slack : Int} (ht : t.Sound) (hpaid : t.PaysWithin)
    (hbasis : ∀ x, 0 ≤ basisOf x)
    (hindex : ∀ x, (t.stateOf name x).index ≤ (t.tokenOf name).lifetimeIndex)
    (hgap : t.gap name basisOf (t.statesOf name).keys.toFinset ≤ slack) :
    ray * t.paidOut name ≤ ray * (t.tokenOf name).lifetimeRewards + slack := by
  have hearned : ∀ x ∈ (t.statesOf name).keys.toFinset,
      ray * (t.stateOf name x).claimed ≤ t.earning name basisOf x := by
    intro x _
    have hgrowth : 0 ≤ basisOf x * ((t.tokenOf name).lifetimeIndex - (t.stateOf name x).index) :=
      Int.mul_nonneg (hbasis x) (Int.sub_nonneg.mpr (hindex x))
    have hclaimed : ray * (t.stateOf name x).claimed ≤ ray * (t.stateOf name x).accrued :=
      Int.mul_le_mul_of_nonneg_left (hpaid name x) (by decide)
    unfold earning
    omega
  have hsum := Finset.sum_le_sum hearned
  have hwaiting : 0 ≤ ray * (t.tokenOf name).undistributed :=
    Int.mul_nonneg (by decide) (ht.waiting name)
  rw [← Finset.mul_sum] at hsum
  unfold gap spread at hgap
  rw [mul_sub] at hgap
  unfold paidOut
  omega

end RewardTracker
end ReserveAccounting
