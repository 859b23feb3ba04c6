import Mathlib.Algebra.Order.BigOperators.Group.Finset
import ReserveAccounting.Proofs.RewardGap
import ReserveAccounting.Proofs.RewardRuns

/-!
# Conservation of rewards

What holders have earned in a reward token and what was spread over them differ
by roundings alone: half a ray for each checkpoint, and half the supply for each
distribution that raised the lifetime index.
-/

namespace ReserveAccounting

open FixedPoint

namespace RewardTracker

variable {t : RewardTracker} {name y : String} {basisOf : String → Int} {U : Finset String}
  {amount supply : Int} {s : RewardTokenState}

theorem gap_withToken_of_ne (h : name ≠ y) :
    (t.withToken y s).gap name basisOf U = t.gap name basisOf U := by
  unfold gap earning spread
  rw [tokenOf_withToken, if_neg h]
  rfl

theorem gap_withToken_of_spreads (hspreads : (t.tokenOf name).Spreads amount supply s) :
    ∃ increment, s.lifetimeIndex = (t.tokenOf name).lifetimeIndex + increment ∧
      (if 0 < supply then rayDiv (amount + (t.tokenOf name).undistributed) supply else .ok 0) =
        .ok increment ∧
      (t.withToken name s).gap name basisOf U = t.gap name basisOf U +
        ((∑ x ∈ U, basisOf x) * increment -
          if increment = 0 then 0 else ray * (amount + (t.tokenOf name).undistributed)) := by
  rcases hspreads with ⟨increment, hincrement, hstate⟩
  have hindex : s.lifetimeIndex = (t.tokenOf name).lifetimeIndex + increment := by rw [hstate]
  have hspread : s.lifetimeRewards - s.undistributed = (t.tokenOf name).lifetimeRewards + amount -
      if increment = 0 then amount + (t.tokenOf name).undistributed else 0 := by rw [hstate]
  have hearning : ∀ x ∈ U, (t.withToken name s).earning name basisOf x =
      t.earning name basisOf x + basisOf x * increment := by
    intro x _
    have hsame : (t.withToken name s).stateOf name x = t.stateOf name x := rfl
    unfold earning
    rw [tokenOf_withToken, if_pos rfl, hindex, hsame]
    ring
  refine ⟨increment, hindex, hincrement, ?_⟩
  unfold gap
  rw [Finset.sum_congr rfl hearning, Finset.sum_add_distrib, ← Finset.sum_mul]
  unfold spread
  rw [tokenOf_withToken, if_pos rfl, hspread]
  split <;> ring

theorem abs_gap_spreads_le (hsupply : ∑ x ∈ U, basisOf x = supply)
    (hspreads : (t.tokenOf name).Spreads amount supply s) :
    |(t.withToken name s).gap name basisOf U - t.gap name basisOf U| ≤
      if (t.tokenOf name).lifetimeIndex < s.lifetimeIndex then supply / 2 else 0 := by
  rcases @gap_withToken_of_spreads t name basisOf U amount supply s hspreads with
    ⟨increment, hindex, hincrement, hgap⟩
  rw [hgap, hindex, hsupply, add_sub_cancel_left]
  by_cases hzero : increment = 0
  · subst hzero
    simp
  · rw [if_neg hzero]
    by_cases hpos : 0 < supply
    · rw [if_pos hpos] at hincrement
      have hnonneg := rayDiv_nonneg hincrement
      rw [if_pos (by omega), mul_comm ray]
      exact abs_rayDiv_sub_le hincrement
    · rw [if_neg hpos] at hincrement
      cases hincrement
      exact absurd rfl hzero

theorem gap_holders {l : ShareLedger} (hsmall : ∀ x ∈ U, Text.lower x = x)
    (hsubset : (l.holders ++ (t.statesOf name).keys).toFinset ⊆ U) :
    t.gap name l.sharesOf U =
      t.gap name l.sharesOf (l.holders ++ (t.statesOf name).keys).toFinset := by
  unfold gap
  congr 1
  symm
  apply Finset.sum_subset hsubset
  intro x hx hnone
  rw [List.mem_toFinset, List.mem_append, not_or] at hnone
  have hheld : l.sharesOf x = 0 := by
    rw [ShareLedger.sharesOf_eq_held, hsmall x hx]
    unfold ShareLedger.held Table.getD
    rw [Table.get?_eq_none_iff.mpr hnone.left]
    rfl
  unfold earning
  rw [hheld, stateOf_of_not_mem hnone.right]
  simp [HolderRewardState.fresh]

end RewardTracker

namespace DepositToken

variable {s : DepositToken}

def lifetimeIndexOf (s : DepositToken) (name : String) : Int :=
  match s.rewards with
  | some program => (program.tracker.tokenOf name).lifetimeIndex
  | none => 0

def accounts (s : DepositToken) (t : RewardTracker) (name : String) : Finset String :=
  (s.model.holders ++ (t.statesOf name).keys).toFinset

theorem rewardBasisOf_of_small {x : String} (hx : Text.lower x = x) :
    s.model.rewardBasisOf x = s.model.ledger.held x := by
  unfold BalanceModel.rewardBasisOf
  rw [ShareLedger.sharesOf_eq_held, hx]

theorem sum_rewardBasisOf {U : Finset String} (hs : s.model.ledger.Sound)
    (hsmall : ∀ x ∈ U, Text.lower x = x) (hkeys : ∀ x ∈ s.model.ledger.shares.keys, x ∈ U) :
    ∑ x ∈ U, s.model.rewardBasisOf x = s.model.rewardBasisSupply :=
  hs.sum_sharesOf hsmall hkeys

end DepositToken

namespace TokenCall

variable {s : DepositToken} {t : RewardTracker} {name : String}

/-!
# The slack of a call
-/

/-- The checkpoints in a reward token that a call executes. -/
def checkpoints (name : String) (c : TokenCall) (s : DepositToken) : Nat :=
  match s.rewards with
  | none => 0
  | some program =>
      match c with
      | claim holder token =>
          RewardTracker.checkpointCount name (Text.lower holder) token
            (s.model.rewardBasisOf (Text.lower holder)) program.tracker
      | c =>
          RewardTracker.checkpointHoldersCount name s.model.rewardBasisOf (c.pass s) program.tracker

/-- Half the supply at a distribution that raises the lifetime index of a reward token. -/
def halfSupply (name : String) (c : TokenCall) (s : DepositToken) : Int :=
  match c with
  | distributeRewards token _ =>
      if Text.lower token = name ∧ s.lifetimeIndexOf name < (c.after s).lifetimeIndexOf name then
        s.model.rewardBasisSupply / 2
      else 0
  | _ => 0

theorem halfSupply_nonneg (c : TokenCall) (hs : s.model.ledger.Sound) :
    0 ≤ c.halfSupply name s := by
  have htotal : 0 ≤ s.model.rewardBasisSupply / 2 :=
    Int.ediv_nonneg hs.totalShares_nonneg (by decide)
  cases c with
  | distributeRewards token amount =>
      unfold halfSupply
      dsimp only
      split
      · exact htotal
      · exact Int.le_refl 0
  | _ => exact Int.le_refl 0

theorem slack_nonneg (c : TokenCall) (hs : s.model.ledger.Sound) :
    0 ≤ ray / 2 * c.checkpoints name s + c.halfSupply name s :=
  add_nonneg (mul_nonneg (by decide) (Int.natCast_nonneg _)) (halfSupply_nonneg c hs)

/-- A call keeps the gap, or moves it within a bound, as seen from a wider set of accounts. -/
def Bounded (name : String) (bound : Int) (s s' : DepositToken) (t t' : RewardTracker) : Prop :=
  ∀ U : Finset String, (∀ x ∈ U, Text.lower x = x) → (∀ x ∈ s.model.ledger.shares.keys, x ∈ U) →
    |t'.gap name s'.model.rewardBasisOf U - t.gap name s.model.rewardBasisOf U| ≤ bound

theorem bounded_of_eq {bound : Int} {s' : DepositToken} {t' : RewardTracker} (hbound : 0 ≤ bound)
    (hledger : s'.model.ledger = s.model.ledger) (h : t.SameEarnings t') :
    Bounded name bound s s' t t' := by
  intro U _ _
  have hbasis : s'.model.rewardBasisOf = s.model.rewardBasisOf := by
    unfold BalanceModel.rewardBasisOf
    rw [hledger]
  rw [hbasis, RewardTracker.gap_congr h, Int.sub_self]
  exact hbound

theorem bounded_after_of_books {c : TokenCall} (hc : c.isOfRewards = false)
    (hs : s.model.ledger.Sound) (hprogram : s.Tracks t) (ht : t.Sound) :
    ∃ t', (c.after s).Tracks t' ∧ t'.Sound ∧
      Bounded name (ray / 2 * c.checkpoints name s + c.halfSupply name s) s (c.after s) t t' := by
  rcases tracks_after_of_books hc hs hprogram ht with ⟨t', htracks, hpass, hheld⟩
  have hcount : c.checkpoints name s =
      t.checkpointHoldersCount name s.model.rewardBasisOf (c.pass s) := by
    rcases hprogram with ⟨program, hrewards, rfl⟩
    unfold checkpoints
    rw [hrewards]
    cases c with
    | claim holder token => cases hc
    | _ => rfl
  have hbound : ∀ U : Finset String,
      |t'.gap name s.model.rewardBasisOf U - t.gap name s.model.rewardBasisOf U| ≤
        ray / 2 * c.checkpoints name s := by
    intro U
    rcases hpass with rfl | rfl
    · rw [Int.sub_self]
      exact mul_nonneg (by decide) (Int.natCast_nonneg _)
    · rw [hcount]
      exact RewardTracker.within_checkpointHolders ht (c.pass_small s)
  refine ⟨t', htracks, ?_, ?_⟩
  · rcases hpass with rfl | rfl
    · exact ht
    · exact (DepositToken.settles_afterPass ht (c.pass_small s)).sound
  · intro U hsmall _
    have hbasis : t'.gap name (c.after s).model.rewardBasisOf U =
        t'.gap name s.model.rewardBasisOf U := by
      apply RewardTracker.gap_basis
      intro x hx
      rw [DepositToken.rewardBasisOf_of_small (hsmall x hx),
        DepositToken.rewardBasisOf_of_small (hsmall x hx)]
      rcases hheld x with hsame | hsettled
      · exact Or.inl hsame
      · exact Or.inr (hsettled name)
    have hhalf := @halfSupply_nonneg s name c hs
    have hgap := hbound U
    rw [hbasis]
    omega

theorem bounded_after_claim (holder token : String) (hs : s.model.ledger.Sound)
    (hprogram : s.Tracks t) (ht : t.Sound) :
    ∃ t', ((claim holder token).after s).Tracks t' ∧ t'.Sound ∧
      Bounded name (ray / 2 * (claim holder token).checkpoints name s +
        (claim holder token).halfSupply name s) s ((claim holder token).after s) t t' := by
  rcases tracks_after_claim holder token hprogram ht with ⟨t', htracks, hpreserves⟩
  have hledger := ledger_after_of_rewards (c := claim holder token) rfl hs
  refine ⟨t', htracks, hpreserves.sound, ?_⟩
  intro U _ _
  have hbasis : ((claim holder token).after s).model.rewardBasisOf = s.model.rewardBasisOf := by
    unfold BalanceModel.rewardBasisOf
    rw [hledger]
  have hcount : (claim holder token).checkpoints name s =
      t.checkpointCount name (Text.lower holder) token
        (s.model.rewardBasisOf (Text.lower holder)) := by
    rcases hprogram with ⟨program, hrewards, rfl⟩
    unfold checkpoints
    rw [hrewards]
  have hcheckpoint := @RewardTracker.abs_gap_checkpoint_le t name (Text.lower holder)
    s.model.rewardBasisOf U ht token (Text.lower_lower holder)
  rw [hbasis, RewardTracker.gap_congr hpreserves.earnings, hcount]
  change _ ≤ _ + (0 : Int)
  rw [Int.add_zero]
  exact hcheckpoint

theorem bounded_after_distributeRewards (token : String) (amount : Int) (hs : s.model.ledger.Sound)
    (hprogram : s.Tracks t) (ht : t.Sound)
    (hsize : ¬ (distributeRewards token amount).Overflows s) :
    ∃ t', ((distributeRewards token amount).after s).Tracks t' ∧ t'.Sound ∧
      Bounded name (ray / 2 * (distributeRewards token amount).checkpoints name s +
        (distributeRewards token amount).halfSupply name s) s
        ((distributeRewards token amount).after s) t t' := by
  have hslack := @slack_nonneg s name (distributeRewards token amount) hs
  have hledger := ledger_after_of_rewards (c := distributeRewards token amount) rfl hs
  rcases tracks_after_distributeRewards token amount hprogram ht with
    ⟨t', htracks, rfl | ⟨hamount, hmem, state, rfl, hspreads | ⟨hover, _⟩⟩⟩
  · exact ⟨t', htracks, ht, bounded_of_eq hslack hledger (RewardTracker.SameEarnings.refl t')⟩
  · have hwaiting := waiting_of_spreads hspreads hamount (ht.waiting _)
    refine ⟨_, htracks, RewardTracker.sound_withToken ht hmem hwaiting, ?_⟩
    intro U hsmall hkeys
    have hbasis : ((distributeRewards token amount).after s).model.rewardBasisOf =
        s.model.rewardBasisOf := by
      unfold BalanceModel.rewardBasisOf
      rw [hledger]
    rw [hbasis]
    by_cases hname : name = Text.lower token
    · subst hname
      have hgap := RewardTracker.abs_gap_spreads_le
        (DepositToken.sum_rewardBasisOf hs hsmall hkeys) hspreads
      have hbefore : s.lifetimeIndexOf (Text.lower token) =
          (t.tokenOf (Text.lower token)).lifetimeIndex := by
        rcases hprogram with ⟨program, hrewards, rfl⟩
        unfold DepositToken.lifetimeIndexOf
        rw [hrewards]
      have hafter : ((distributeRewards token amount).after s).lifetimeIndexOf (Text.lower token) =
          state.lifetimeIndex := by
        rcases htracks with ⟨program, hrewards, htracker⟩
        unfold DepositToken.lifetimeIndexOf
        rw [hrewards]
        dsimp only
        rw [htracker, RewardTracker.tokenOf_withToken, if_pos rfl]
      have hhalf : (distributeRewards token amount).halfSupply (Text.lower token) s =
          if (t.tokenOf (Text.lower token)).lifetimeIndex < state.lifetimeIndex then
            s.model.rewardBasisSupply / 2 else 0 := by
        unfold halfSupply
        dsimp only
        rw [hbefore, hafter]
        simp only [true_and]
      have hcount : 0 ≤ ray / 2 *
          ((distributeRewards token amount).checkpoints (Text.lower token) s : Int) :=
        mul_nonneg (by decide) (Int.natCast_nonneg _)
      rw [← hhalf] at hgap
      omega
    · rw [RewardTracker.gap_withToken_of_ne hname, Int.sub_self]
      exact hslack
  · exact absurd hover hsize

theorem bounded_after (c : TokenCall) (hs : s.model.ledger.Sound) (hprogram : s.Tracks t)
    (ht : t.Sound) (hsize : ¬ c.Overflows s) :
    ∃ t', (c.after s).Tracks t' ∧ t'.Sound ∧
      Bounded name (ray / 2 * c.checkpoints name s + c.halfSupply name s) s (c.after s) t t' := by
  cases c with
  | registerRewardToken token =>
      rcases tracks_after_registerRewardToken token hprogram ht with ⟨t', htracks, hpreserves⟩
      exact ⟨t', htracks, hpreserves.sound,
        bounded_of_eq (slack_nonneg _ hs) (ledger_after_of_rewards rfl hs) hpreserves.earnings⟩
  | setReserveFactor caller factor =>
      exact ⟨t, tracks_after_setReserveFactor caller factor hprogram, ht,
        bounded_of_eq (slack_nonneg _ hs) (ledger_after_of_rewards rfl hs)
          (RewardTracker.SameEarnings.refl t)⟩
  | claim holder token => exact bounded_after_claim holder token hs hprogram ht
  | distributeRewards token amount =>
      exact bounded_after_distributeRewards token amount hs hprogram ht hsize
  | _ => exact bounded_after_of_books rfl hs hprogram ht

/-!
# Whole runs
-/

def checkpointsIn (name : String) : List TokenCall → DepositToken → Nat
  | [], _ => 0
  | c :: rest, s => c.checkpoints name s + checkpointsIn name rest (c.after s)

def halfSuppliesIn (name : String) : List TokenCall → DepositToken → Int
  | [], _ => 0
  | c :: rest, s => c.halfSupply name s + halfSuppliesIn name rest (c.after s)

/-- No distribution of a run is refused for the size of its amounts. -/
def NeverOverflows : List TokenCall → DepositToken → Prop
  | [], _ => True
  | c :: rest, s => ¬ c.Overflows s ∧ NeverOverflows rest (c.after s)

theorem abs_gap_afterAll_le (name : String) (calls : List TokenCall) (hs : s.model.ledger.Sound)
    (hprogram : s.Tracks t) (ht : t.Sound) (hsizes : NeverOverflows calls s) :
    ∃ t', (afterAll calls s).Tracks t' ∧ t'.Sound ∧ ∃ V : Finset String,
      (∀ x ∈ V, Text.lower x = x) ∧
      ∀ U : Finset String, (∀ x ∈ U, Text.lower x = x) → V ⊆ U →
        |t'.gap name (afterAll calls s).model.rewardBasisOf U -
            t.gap name s.model.rewardBasisOf U| ≤
          ray / 2 * checkpointsIn name calls s + halfSuppliesIn name calls s := by
  induction calls generalizing s t with
  | nil =>
      refine ⟨t, hprogram, ht, ∅, fun x hx => absurd hx (Finset.notMem_empty x), ?_⟩
      intro U _ _
      simp [afterAll, checkpointsIn, halfSuppliesIn]
  | cons c rest ih =>
      rcases hsizes with ⟨hsize, hsizes⟩
      rcases @bounded_after s t name c hs hprogram ht hsize with ⟨t₁, htracks, ht₁, hfirst⟩
      rcases ih (sound_after c hs) htracks ht₁ hsizes with ⟨t', htracks', ht', V, hV, hrest⟩
      refine ⟨t', htracks', ht', s.model.ledger.shares.keys.toFinset ∪ V, ?_, ?_⟩
      · intro x hx
        rcases Finset.mem_union.mp hx with hx | hx
        · exact hs.small x (List.mem_toFinset.mp hx)
        · exact hV x hx
      · intro U hU hsubset
        have hkeys : ∀ x ∈ s.model.ledger.shares.keys, x ∈ U := fun x hx =>
          hsubset (Finset.mem_union_left V (List.mem_toFinset.mpr hx))
        have hstep := hfirst U hU hkeys
        have hlater := hrest U hU (Finset.union_subset_right hsubset)
        have htriangle := abs_sub_le (t'.gap name (afterAll rest (c.after s)).model.rewardBasisOf U)
          (t₁.gap name (c.after s).model.rewardBasisOf U) (t.gap name s.model.rewardBasisOf U)
        rw [checkpointsIn, halfSuppliesIn, Nat.cast_add, mul_add]
        change |t'.gap name (afterAll rest (c.after s)).model.rewardBasisOf U - _| ≤ _
        omega

theorem gap_accounts {U : Finset String}
    (hsmall : ∀ x ∈ U, Text.lower x = x) (hsubset : s.accounts t name ⊆ U) :
    t.gap name s.model.rewardBasisOf U = t.gap name s.model.rewardBasisOf (s.accounts t name) :=
  RewardTracker.gap_holders hsmall hsubset

/--
In every run from empty books and an empty tracker, in which no distribution is
refused for the size of its amounts: what holders have accrued in a reward token
and stand to accrue differs from what was spread by half a ray for each
checkpoint and half the supply for each raise of the lifetime index, at most.
-/
theorem rewards_conserved {start : DepositToken} {program : RewardProgram}
    (hbooks : start.model.ledger = .empty) (hprogram : start.rewards = some program)
    (htracker : program.tracker = .empty program.tracker.capacity) (calls : List TokenCall)
    (hsizes : NeverOverflows calls start) :
    ∃ p, (afterAll calls start).rewards = some p ∧ ∀ token ∈ p.tracker.rewardTokens,
      let s := afterAll calls start
      let accounts := s.accounts p.tracker token
      let state := p.tracker.tokenOf token
      |ray * ∑ h ∈ accounts, (p.tracker.stateOf token h).accrued +
          ∑ h ∈ accounts, s.model.rewardBasisOf h *
            (state.lifetimeIndex - (p.tracker.stateOf token h).index) -
          ray * (state.lifetimeRewards - state.undistributed)| ≤
        ray / 2 * checkpointsIn token calls start + halfSuppliesIn token calls start := by
  have hs : start.model.ledger.Sound := by
    rw [hbooks]
    exact ShareLedger.sound_empty
  have ht : program.tracker.Sound := by
    rw [htracker]
    exact RewardTracker.sound_empty _
  have htracks : start.Tracks program.tracker := ⟨program, hprogram, rfl⟩
  have hsound : (afterAll calls start).model.ledger.Sound :=
    afterAll_induction (p := fun s => s.model.ledger.Sound) (fun c _ h => sound_after c h) hs calls
  rcases abs_gap_afterAll_le "" calls hs htracks ht hsizes with ⟨_, ⟨p, hp, rfl⟩, ht', _⟩
  refine ⟨p, hp, ?_⟩
  intro token _ s accounts state
  rcases abs_gap_afterAll_le token calls hs htracks ht hsizes with ⟨t', htracks', _, V, hV, hgap⟩
  cases htracks'.unique ⟨p, hp, rfl⟩
  have haccounts : ∀ x ∈ accounts, Text.lower x = x := by
    intro x hx
    rcases List.mem_append.mp (List.mem_toFinset.mp hx) with hx | hx
    · exact hsound.small x hx
    · exact ht'.accounts token x hx
  have hsmall : ∀ x ∈ V ∪ accounts, Text.lower x = x := by
    intro x hx
    rcases Finset.mem_union.mp hx with hx | hx
    · exact hV x hx
    · exact haccounts x hx
  have hstart : program.tracker.gap token start.model.rewardBasisOf (V ∪ accounts) = 0 := by
    rw [htracker]
    unfold RewardTracker.gap RewardTracker.earning RewardTracker.spread
    have htoken : (RewardTracker.empty program.tracker.capacity).tokenOf token = ⟨0, 0, 0, 0⟩ := rfl
    have hstate : ∀ x, (RewardTracker.empty program.tracker.capacity).stateOf token x = .fresh :=
      fun _ => rfl
    simp [htoken, hstate, HolderRewardState.fresh]
  have hbound := hgap (V ∪ accounts) hsmall Finset.subset_union_left
  rw [hstart, Int.sub_zero, gap_accounts hsmall Finset.subset_union_right] at hbound
  unfold RewardTracker.gap RewardTracker.earning RewardTracker.spread at hbound
  rw [Finset.sum_add_distrib, ← Finset.mul_sum] at hbound
  exact hbound

/-- A run in which a holder joins between two distributions. -/
theorem rewards_conserved_two_distributions :
    let program : RewardProgram := .empty 0
    let start : DepositToken := .atOne (.plain .empty) (some program)
    let calls := [registerRewardToken "REW", mint "pool" "Alice" 3 ray, distributeRewards "rew" 10,
      mint "pool" "Bob" 4 ray, distributeRewards "rew" 5]
    start.model.ledger = .empty ∧ start.rewards = some program ∧
      program.tracker = .empty program.tracker.capacity ∧ NeverOverflows calls start ∧
      ∃ p, (afterAll calls start).rewards = some p ∧ ∀ token ∈ p.tracker.rewardTokens,
        let s := afterAll calls start
        let accounts := s.accounts p.tracker token
        let state := p.tracker.tokenOf token
        |ray * ∑ h ∈ accounts, (p.tracker.stateOf token h).accrued +
            ∑ h ∈ accounts, s.model.rewardBasisOf h *
              (state.lifetimeIndex - (p.tracker.stateOf token h).index) -
            ray * (state.lifetimeRewards - state.undistributed)| ≤
          ray / 2 * checkpointsIn token calls start + halfSuppliesIn token calls start := by
  intro program start calls
  have hbooks : start.model.ledger = .empty := rfl
  have hprogram : start.rewards = some program := rfl
  have htracker : program.tracker = .empty program.tracker.capacity := rfl
  have hsizes : NeverOverflows calls start := by
    refine ⟨id, id, ?_, id, ?_, trivial⟩
    · exact not_overflows_of_isOk (by decide +kernel)
    · exact not_overflows_of_isOk (by decide +kernel)
  exact ⟨hbooks, hprogram, htracker, hsizes,
    rewards_conserved hbooks hprogram htracker calls hsizes⟩

end TokenCall
end ReserveAccounting
