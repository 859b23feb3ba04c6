import Mathlib.Tactic.Linarith
import ReserveAccounting.Proofs.RewardConservation

/-!
# Room for checkpoints

A checkpoint multiplies a basis by the growth of the lifetime index since the
last one, and the product has to fit a word. A basis is never larger than the
supply over which the index grew, so the product is at most twice what was
spread, in rays: while that fits, and the basis itself does, no checkpoint is
stopped.
-/

namespace ReserveAccounting

open FixedPoint

def Fault.IsOverflow (e : Fault) : Prop := ∃ r, e = .refused r ∧ r.kind = .overflow

theorem Act.exists_isOverflow_iff {α : Type} {outcome : Except Fault α} :
    (∃ e, outcome = .error e ∧ e.IsOverflow) ↔ ∃ r ∈ refusal? outcome, r.kind = .overflow := by
  constructor
  · intro h
    rcases h with ⟨_, herror, r, rfl, hkind⟩
    exact ⟨r, refusal?_eq_some.mpr herror, hkind⟩
  · intro h
    rcases h with ⟨r, hr, hkind⟩
    exact ⟨.refused r, refusal?_eq_some.mp hr, r, rfl, hkind⟩

namespace RewardTracker

variable {t t' : RewardTracker} {name x : String} {basisOf basisOf' : String → Int}
  {p : String → String → Prop}

/-!
# Growth within what was spread
-/

/-- Nobody stands to accrue more than twice what was spread, nor would one unit of basis. -/
structure Capped (t : RewardTracker) (basisOf : String → Int) : Prop where
  seen : ∀ name x, 0 ≤ (t.stateOf name x).index
  grown : ∀ name x, (t.stateOf name x).index ≤ (t.tokenOf name).lifetimeIndex
  spread : ∀ name, 0 ≤ t.spread name
  index : ∀ name, (t.tokenOf name).lifetimeIndex ≤ 2 * t.spread name
  growth : ∀ name x, Text.lower x = x →
    basisOf x * ((t.tokenOf name).lifetimeIndex - (t.stateOf name x).index) ≤ 2 * t.spread name

theorem capped_empty (capacity : Int) (basisOf : String → Int) :
    (empty capacity).Capped basisOf where
  seen _ _ := Int.le_refl 0
  grown _ _ := Int.le_refl 0
  spread _ := Int.le_refl 0
  index _ := Int.le_refl 0
  growth _ x _ := by
    change basisOf x * (0 - 0) ≤ 0
    rw [Int.sub_self, Int.mul_zero]

namespace Capped

theorem of_settling (h : t.Capped basisOf) (hindex : ∀ name,
      (t'.tokenOf name).lifetimeIndex = (t.tokenOf name).lifetimeIndex)
    (hspread : ∀ name, t'.spread name = t.spread name)
    (hstates : ∀ name x, (t'.stateOf name x).index = (t.stateOf name x).index ∨
      t'.Settled name x) : t'.Capped basisOf where
  seen name x := by
    rcases hstates name x with hsame | hsettled
    · rw [hsame]
      exact h.seen name x
    · rw [hsettled, hindex]
      exact (h.seen name x).trans (h.grown name x)
  grown name x := by
    rcases hstates name x with hsame | hsettled
    · rw [hsame, hindex]
      exact h.grown name x
    · exact hsettled.le
  spread name := by
    rw [hspread]
    exact h.spread name
  index name := by
    rw [hindex, hspread]
    exact h.index name
  growth name x hx := by
    rw [hspread]
    rcases hstates name x with hsame | hsettled
    · rw [hsame, hindex]
      exact h.growth name x hx
    · rw [hsettled, Int.sub_self, Int.mul_zero]
      have := h.spread name
      omega

theorem of_settles (h : t.Capped basisOf) (hsettles : t.Settles basisOf' p t') :
    t'.Capped basisOf := by
  have htoken := hsettles.differs.tokenOf_eq
  apply h.of_settling
  · intro name
    rw [htoken]
  · intro name
    unfold RewardTracker.spread
    rw [htoken]
  · intro name x
    rcases hsettles.states name x with hsame | haccrues
    · rw [hsame]
      exact Or.inl rfl
    · right
      unfold Settled
      rw [haccrues.index_eq, htoken]

theorem of_sameEarnings (h : t.Capped basisOf) (hsame : t.SameEarnings t') :
    t'.Capped basisOf := by
  apply h.of_settling hsame.index
  · intro name
    unfold RewardTracker.spread
    rw [hsame.received, hsame.waiting]
  · intro name x
    exact Or.inl (hsame.seen name x)

theorem of_basis (h : t.Capped basisOf)
    (hbasis : ∀ x, Text.lower x = x →
      basisOf' x = basisOf x ∨ ∀ name, t.Settled name x) : t.Capped basisOf' where
  seen := h.seen
  grown := h.grown
  spread := h.spread
  index := h.index
  growth name x hx := by
    rcases hbasis x hx with hsame | hsettled
    · rw [hsame]
      exact h.growth name x hx
    · rw [hsettled name, Int.sub_self, Int.mul_zero]
      have := h.spread name
      omega

theorem withToken (h : t.Capped basisOf) {s : RewardTokenState} (grown spread : Int)
    (hindex : s.lifetimeIndex = (t.tokenOf name).lifetimeIndex + grown)
    (hspread : ray * (s.lifetimeRewards - s.undistributed) = t.spread name + spread)
    (hnonneg : 0 ≤ grown) (hunit : grown ≤ 2 * spread)
    (hbasis : ∀ x, basisOf x * grown ≤ 2 * spread) : (t.withToken name s).Capped basisOf := by
  have htoken : (t.withToken name s).tokenOf name = s := by
    rw [tokenOf_withToken, if_pos rfl]
  have hspread' : (t.withToken name s).spread name = t.spread name + spread := by
    unfold RewardTracker.spread at hspread ⊢
    rw [htoken, hspread]
  have hother : ∀ y, y ≠ name → (t.withToken name s).tokenOf y = t.tokenOf y := by
    intro y hy
    rw [tokenOf_withToken, if_neg hy]
  have hspreadOther : ∀ y, y ≠ name → (t.withToken name s).spread y = t.spread y := by
    intro y hy
    unfold RewardTracker.spread
    rw [hother y hy]
  constructor
  · exact h.seen
  · intro y x
    have hgrown := h.grown y x
    by_cases hy : y = name
    · subst hy
      rw [htoken, hindex]
      change (t.stateOf y x).index ≤ _
      omega
    · rw [hother y hy]
      exact hgrown
  · intro y
    have hbefore := h.spread y
    by_cases hy : y = name
    · subst hy
      rw [hspread']
      omega
    · rw [hspreadOther y hy]
      exact hbefore
  · intro y
    have hbefore := h.index y
    by_cases hy : y = name
    · subst hy
      rw [htoken, hindex, hspread']
      omega
    · rw [hother y hy, hspreadOther y hy]
      exact hbefore
  · intro y x hx
    have hbefore := h.growth y x hx
    change basisOf x * (_ - (t.stateOf y x).index) ≤ _
    by_cases hy : y = name
    · subst hy
      rw [htoken, hindex, hspread']
      have hmore := hbasis x
      calc basisOf x * ((t.tokenOf y).lifetimeIndex + grown - (t.stateOf y x).index)
          = basisOf x * ((t.tokenOf y).lifetimeIndex - (t.stateOf y x).index) +
              basisOf x * grown := by ring
        _ ≤ 2 * (t.spread y + spread) := by omega
    · rw [hother y hy, hspreadOther y hy]
      exact hbefore

theorem received (h : t.Capped basisOf) {amount : Int} (hamount : 0 ≤ amount) :
    (t.withToken name { t.tokenOf name with
      lifetimeRewards := (t.tokenOf name).lifetimeRewards + amount }).Capped basisOf := by
  have hspread : 0 ≤ ray * amount := mul_nonneg (by decide) hamount
  apply h.withToken 0 (ray * amount)
  · exact (Int.add_zero _).symm
  · unfold RewardTracker.spread
    ring
  · exact Int.le_refl 0
  · omega
  · intro x
    rw [Int.mul_zero]
    omega

theorem spreads (h : t.Capped basisOf) {amount supply : Int} {s : RewardTokenState}
    (hbasis : ∀ x, basisOf x ≤ supply) (hspreads : (t.tokenOf name).Spreads amount supply s) :
    (t.withToken name s).Capped basisOf := by
  rcases hspreads with ⟨increment, hincrement, rfl⟩
  by_cases hzero : increment = 0
  · subst hzero
    apply h.withToken 0 0
    · rfl
    · rw [if_pos rfl]
      unfold RewardTracker.spread
      ring
    · exact Int.le_refl 0
    · exact Int.le_refl 0
    · intro x
      rw [Int.mul_zero]
      exact Int.le_refl 0
  · have hsupply : 0 < supply := by
      by_contra hsupply
      rw [if_neg hsupply] at hincrement
      cases hincrement
      exact hzero rfl
    rw [if_pos hsupply] at hincrement
    have hnonneg := rayDiv_nonneg hincrement
    have hrounding := abs_le.mp (abs_rayDiv_sub_le hincrement)
    generalize hpending : (amount + (t.tokenOf name).undistributed) * ray = pending at hrounding
    -- an index that grows at all makes half the supply smaller than what is spread
    have hsupplied : supply ≤ supply * increment :=
      le_mul_of_one_le_right hsupply.le (by omega)
    have hunit : increment ≤ supply * increment :=
      le_mul_of_one_le_left hnonneg (by omega)
    apply h.withToken increment pending
    · rfl
    · rw [if_neg hzero, ← hpending]
      unfold RewardTracker.spread
      ring
    · exact hnonneg
    · omega
    · intro x
      have hmore := Int.mul_le_mul_of_nonneg_right (hbasis x) hnonneg
      omega

end Capped

/-!
# What stops a checkpoint
-/

/-- A basis that does not fit a word, or a reward token of which twice what came may not. -/
def Crowded (t : RewardTracker) (name : String) (basis : Int) : Prop :=
  maxAmount < basis ∨ maxAmount < 2 * ray * (t.tokenOf name).lifetimeRewards + ray / 2

theorem Settles.crowded (h : t.Settles basisOf p t') {basis : Int} (hcrowded : t'.Crowded name basis) :
    t.Crowded name basis := by
  unfold Crowded at hcrowded ⊢
  rwa [h.differs.tokenOf_eq] at hcrowded

theorem Capped.crowded_of_error (h : t.Capped basisOf) (ht : t.Sound) (hx : Text.lower x = x)
    (hbasis : 0 ≤ basisOf x) {r : Refusal} (herror : rayMul (basisOf x)
      ((t.tokenOf name).lifetimeIndex - (t.stateOf name x).index) = .error r) :
    t.Crowded name (basisOf x) := by
  by_contra hroom
  unfold Crowded at hroom
  rw [not_or, Int.not_lt, Int.not_lt] at hroom
  rcases hroom with ⟨hbasis', hroom⟩
  have hspread : t.spread name ≤ ray * (t.tokenOf name).lifetimeRewards := by
    unfold RewardTracker.spread
    have hwaiting := mul_nonneg (show 0 ≤ ray by decide) (ht.waiting name)
    rw [mul_sub]
    omega
  have hgrown := h.grown name x
  have hseen := h.seen name x
  have hindex := h.index name
  have hgrowth := h.growth name x hx
  have hhalf : 0 ≤ ray / 2 := by decide
  have hdouble : 2 * ray * (t.tokenOf name).lifetimeRewards =
      2 * (ray * (t.tokenOf name).lifetimeRewards) := by ring
  have hfits : ∃ product, rayMul (basisOf x)
      ((t.tokenOf name).lifetimeIndex - (t.stateOf name x).index) = .ok product :=
    rayMul_of_room hbasis hbasis' (by omega) (by omega) (by omega)
  rcases hfits with ⟨product, hproduct⟩
  rw [hproduct] at herror
  cases herror

theorem stops_checkpoint (ht : t.Sound) (h : t.Capped basisOf) {token : String}
    (hmem : Text.lower token ∈ t.rewardTokens) (hx : Text.lower x = x) (hbasis : 0 ≤ basisOf x) :
    (checkpoint x token (basisOf x)).Leaves t (fun _ _ => True)
      (fun e _ => e.IsOverflow ∧ t.Crowded (Text.lower token) (basisOf x)) := by
  unfold checkpoint
  rw [Act.leaves_bind, Act.leaves_current, Act.leaves_bind, tokenState_of_mem ht hmem,
    Act.leaves_faulty]
  refine ⟨?_, fun _ h => by cases h⟩
  intro s hs
  cases hs
  rw [Act.leaves_bind]
  apply (leaves_openHolderState ht).mono
  · intro _ t₁ hleft
    rcases hleft with ⟨_, rfl, _⟩
    simp only [growthSince_of_sound ht, holderFigure_of_sound ht, tokenFigure_of_sound ht, hx]
    rw [Act.leaves_bind, Act.leaves_faulty]
    refine ⟨?_, fun _ h => by cases h⟩
    intro growth hgrowth
    cases hgrowth
    rw [Act.leaves_bind, Act.leaves_refusable]
    constructor
    · intro earned _
      rw [Act.leaves_bind, Act.leaves_faulty]
      refine ⟨fun _ _ => ?_, fun _ h => by cases h⟩
      rw [Act.leaves_bind, Act.leaves_faulty]
      exact ⟨fun _ _ => trivial, fun _ h => by cases h⟩
    · intro r hr
      have hgrown := h.grown (Text.lower token) x
      rcases rayMul_error hbasis (by omega) hr with ⟨hkind, hfault⟩
      exact ⟨⟨r, hfault, hkind⟩, h.crowded_of_error ht hx hbasis hr⟩
  · intro _ t₁ hleft
    exact absurd hmem hleft.left

theorem stops_checkpointEach (ht : t.Sound) (ht' : t'.Sound) (h : t'.Capped basisOf)
    (hx : Text.lower x = x) (hbasis : 0 ≤ basisOf x) {tokens : List String}
    (hsmall : ∀ name ∈ tokens, Text.lower name = name)
    (hmem : ∀ name ∈ tokens, name ∈ t'.rewardTokens) :
    (Act.forEach (t.checkpointListed x (basisOf x)) tokens).Leaves t' (fun _ _ => True)
      (fun e _ => e.IsOverflow ∧ ∃ name ∈ tokens, t'.Crowded name (basisOf x)) := by
  induction tokens generalizing t' with
  | nil =>
      rw [Act.leaves_forEach_nil]
      trivial
  | cons token rest ih =>
      have htoken : Text.lower token = token := hsmall token List.mem_cons_self
      have hregistered : Text.lower token ∈ t'.rewardTokens := by
        rw [htoken]
        exact hmem token List.mem_cons_self
      have hfirst : (t.checkpointListed x (basisOf x) token).Leaves t' (fun _ _ => True)
          (fun e _ => e.IsOverflow ∧ t'.Crowded token (basisOf x)) := by
        unfold checkpointListed
        rw [Act.leaves_bind, requireName_of_sound ht, Act.leaves_faulty]
        refine ⟨fun _ _ => ?_, fun _ h => by cases h⟩
        rw [Act.leaves_bind]
        have hstops := stops_checkpoint ht' h hregistered hx hbasis
        rw [htoken] at hstops
        exact hstops
      rw [Act.leaves_forEach_cons]
      apply ((settles_checkpointListed ht ht' hx (p := fun _ _ => True)
        fun _ _ => trivial).and hfirst).mono
      · intro _ t₁ hleft
        have hsettles := hleft.left.left
        apply (ih hsettles.sound (h.of_settles hsettles)
          (fun name hname => hsmall name (List.mem_cons_of_mem token hname)) ?_).mono
        · intro _ _ _
          trivial
        · intro e _ hstop
          rcases hstop with ⟨he, name, hname, hcrowded⟩
          exact ⟨he, name, List.mem_cons_of_mem token hname, hsettles.crowded hcrowded⟩
        · intro name hname
          rw [hsettles.differs.rewardTokens]
          exact hmem name (List.mem_cons_of_mem token hname)
      · intro e _ hleft
        rcases hleft.right with ⟨he, hcrowded⟩
        exact ⟨he, token, List.mem_cons_self, hcrowded⟩

theorem stops_saveAndCheckpoint (ht : t.Sound) (h : t.Capped basisOf) (hx : Text.lower x = x)
    (hbasis : 0 ≤ basisOf x) :
    (saveAndCheckpoint basisOf x).Leaves t (fun _ _ => True)
      (fun e _ => e.IsOverflow ∧ ∃ name ∈ t.rewardTokens, t.Crowded name (basisOf x)) := by
  unfold saveAndCheckpoint
  rw [Act.leaves_bind, Act.leaves_current, Act.leaves_bind, saveStates_of_sound ht fun _ h => h,
    Act.leaves_faulty]
  refine ⟨fun _ _ => ?_, fun _ h => by cases h⟩
  rw [Act.leaves_bind, checkpointAll_eq, Act.leaves_bind, Act.leaves_current]
  exact stops_checkpointEach ht ht h hx hbasis ht.small fun _ h => h

theorem stops_checkpointEachOnce (ht : t.Sound) (h : t.Capped basisOf) {accounts : List String}
    (hsmall : ∀ x ∈ accounts, Text.lower x = x) (hbasis : ∀ x ∈ accounts, 0 ≤ basisOf x) :
    (Act.mapEach (saveAndCheckpoint basisOf) accounts).Leaves t (fun _ _ => True)
      (fun e _ => e.IsOverflow ∧
        ∃ x ∈ accounts, ∃ name ∈ t.rewardTokens, t.Crowded name (basisOf x)) := by
  induction accounts generalizing t with
  | nil =>
      rw [Act.leaves_mapEach_nil]
      trivial
  | cons x rest ih =>
      have hfirst := hsmall x List.mem_cons_self
      rw [Act.leaves_mapEach_cons]
      apply ((settles_saveAndCheckpoint ht hfirst).and
        (stops_saveAndCheckpoint ht h hfirst (hbasis x List.mem_cons_self))).mono
      · intro _ t₁ hleft
        have hsettles := hleft.left.right.left
        apply (ih hsettles.sound (h.of_settles hsettles)
          (fun y hy => hsmall y (List.mem_cons_of_mem x hy))
          (fun y hy => hbasis y (List.mem_cons_of_mem x hy))).mono
        · intro _ _ _
          trivial
        · intro e _ hstop
          rcases hstop with ⟨he, y, hy, name, hname, hcrowded⟩
          rw [hsettles.differs.rewardTokens] at hname
          exact ⟨he, y, List.mem_cons_of_mem x hy, name, hname, hsettles.crowded hcrowded⟩
      · intro e _ hleft
        rcases hleft.right with ⟨he, hcrowded⟩
        exact ⟨he, x, List.mem_cons_self, hcrowded⟩

theorem stops_checkpointHolders (ht : t.Sound) (h : t.Capped basisOf) {accounts : List String}
    (hsmall : ∀ x ∈ accounts, Text.lower x = x) (hbasis : ∀ x ∈ accounts, 0 ≤ basisOf x) :
    (checkpointHolders basisOf accounts).Leaves t (fun _ _ => True)
      (fun e _ => e.IsOverflow ∧
        ∃ x ∈ accounts, ∃ name ∈ t.rewardTokens, t.Crowded name (basisOf x)) := by
  rw [checkpointHolders_eq, Act.leaves_bind]
  apply (stops_checkpointEachOnce ht h (fun x hx => hsmall x (List.mem_eraseDups.mp hx))
    (fun x hx => hbasis x (List.mem_eraseDups.mp hx))).mono
  · intro _ _ _
    trivial
  · intro e _ hstop
    rcases hstop with ⟨he, x, hx, hcrowded⟩
    exact ⟨he, x, List.mem_eraseDups.mp hx, hcrowded⟩

end RewardTracker
end ReserveAccounting
