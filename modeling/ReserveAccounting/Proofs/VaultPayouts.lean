import ReserveAccounting.Proofs.RewardPayouts
import ReserveAccounting.Proofs.VaultCollections

/-!
# Payouts of a vault

What a vault has received of a reward token it holds or has paid out. Every call
goes through the same stages: rewards are collected, holders are checkpointed,
and units move or a holder is paid. The stages let holders earn more than was
spread by roundings alone.
-/

namespace ReserveAccounting

open FixedPoint

namespace StaticVault

variable {v v' v'' : StaticVault} {name token holder x : String} {U : Finset String}
  {accounts : List String}

/-!
# Accounted vaults
-/

/-- What was received is held or was paid, and holders are paid within what they have accrued. -/
structure Accounted (v : StaticVault) : Prop where
  orderly : v.Orderly
  units : v.books.balances.Sound
  paid : v.books.rewards.PaysWithin
  grown : ∀ name x,
    (v.books.rewards.stateOf name x).index ≤ (v.books.rewards.tokenOf name).lifetimeIndex
  covered : ∀ name, (v.books.rewards.tokenOf name).lifetimeRewards ≤
    v.heldOf name + v.books.rewards.paidOut name

/-- How much more some accounts have earned by their units than was spread over the units. -/
def gap (v : StaticVault) (name : String) (U : Finset String) : Int :=
  v.books.rewards.gap name v.unitsOf U

theorem unitsOf_of_small (hx : Text.lower x = x) : v.unitsOf x = v.books.balances.held x := by
  unfold unitsOf
  rw [ShareLedger.sharesOf_eq_held, hx]

theorem sum_unitsOf_le (hv : v.Accounted) (hU : ∀ x ∈ U, Text.lower x = x) :
    ∑ x ∈ U, v.unitsOf x ≤ v.totalUnits := by
  let W := U ∪ v.books.balances.shares.keys.toFinset
  have hkeys : ∀ k ∈ v.books.balances.shares.keys, k ∈ W := fun k hk =>
    Finset.mem_union_right U (List.mem_toFinset.mpr hk)
  calc ∑ x ∈ U, v.unitsOf x
      = ∑ x ∈ U, v.books.balances.held x :=
        Finset.sum_congr rfl fun x hx => unitsOf_of_small (hU x hx)
    _ ≤ ∑ x ∈ W, v.books.balances.held x :=
        Finset.sum_le_sum_of_subset_of_nonneg Finset.subset_union_left
          fun x _ _ => hv.units.nonneg x
    _ = v.totalUnits := (Table.sum_getD hkeys).trans hv.units.total

/-!
# Collecting
-/

theorem Gathered.index_le (h : Gathered name v v') :
    (v.books.rewards.tokenOf name).lifetimeIndex ≤ (v'.books.rewards.tokenOf name).lifetimeIndex := by
  rcases h with ⟨htoken, _⟩ | ⟨received, _, _, ⟨increment, hincrement, htoken⟩ | htoken⟩
  · rw [htoken]
  · have hnonneg : 0 ≤ increment := by
      split at hincrement
      · exact rayDiv_nonneg hincrement
      · cases hincrement
        exact Int.le_refl 0
    rw [htoken]
    dsimp only
    omega
  · rw [htoken]

theorem Gathered.lifetimeRewards_eq (h : Gathered name v v') :
    (v'.books.rewards.tokenOf name).lifetimeRewards - v'.heldOf name =
      (v.books.rewards.tokenOf name).lifetimeRewards - v.heldOf name := by
  rcases h with ⟨htoken, hheld⟩ | ⟨received, _, hheld, ⟨increment, _, htoken⟩ | htoken⟩
  · rw [htoken, hheld]
  · rw [htoken, hheld]
    dsimp only
    omega
  · rw [htoken, hheld]
    dsimp only
    omega

theorem Gathers.accounted (h : v.Gathers v') (hv : v.Accounted) : v'.Accounted where
  orderly := h.orderly
  units := h.quiet.balances ▸ hv.units
  paid := hv.paid.of_states h.states
  grown name x := by
    rw [h.states]
    exact (hv.grown name x).trans (h.amounts name).index_le
  covered name := by
    have hcovered := hv.covered name
    have hreceived := (h.amounts name).lifetimeRewards_eq
    rw [RewardTracker.paidOut_congr fun x => congrArg HolderRewardState.claimed (h.states name x)]
    omega

theorem Gathers.gap_eq (h : v.Gathers v') :
    v'.gap name U = (v.books.rewards.withToken name
      (v'.books.rewards.tokenOf name)).gap name v.unitsOf U := by
  have hunits : v'.unitsOf = v.unitsOf := by
    unfold unitsOf
    rw [h.quiet.balances]
  unfold gap
  rw [hunits]
  apply RewardTracker.gap_congr_of_states
  · rw [RewardTracker.tokenOf_withToken, if_pos rfl]
  · exact h.states name

theorem Gathers.gap_eq_of_token (h : v.Gathers v')
    (htoken : v'.books.rewards.tokenOf name = v.books.rewards.tokenOf name) :
    v'.gap name U = v.gap name U := by
  rw [h.gap_eq]
  unfold gap
  apply RewardTracker.gap_congr_of_states
  · rw [RewardTracker.tokenOf_withToken, if_pos rfl]
    exact htoken
  · exact fun _ => rfl

theorem Gathers.gap_le (h : v.Gathers v') (hv : v.Accounted) (hU : ∀ x ∈ U, Text.lower x = x) :
    v'.gap name U ≤ v.gap name U +
      if (v.books.rewards.tokenOf name).lifetimeIndex <
        (v'.books.rewards.tokenOf name).lifetimeIndex then v.totalUnits / 2 else 0 := by
  have hhalf : 0 ≤ v.totalUnits / 2 := Int.ediv_nonneg hv.units.totalShares_nonneg (by decide)
  rcases h.amounts name with ⟨htoken, _⟩ | ⟨received, hreceived, _, hspreads | hcounted⟩
  · rw [h.gap_eq_of_token htoken, htoken, if_neg (Int.lt_irrefl _), Int.add_zero]
  · rw [h.gap_eq]
    exact RewardTracker.gap_le_of_spreads (sum_unitsOf_le hv hU) hspreads
  · rw [h.gap_eq]
    have hless := @RewardTracker.gap_le_of_counted v.books.rewards name v.unitsOf U received _
      hreceived hcounted
    unfold gap
    split <;> omega

/-!
# Checkpoints
-/

structure Settling (v v' : StaticVault) : Prop where
  accounted : v'.Accounted
  index : ∀ name, (v'.books.rewards.tokenOf name).lifetimeIndex =
    (v.books.rewards.tokenOf name).lifetimeIndex
  gap : ∀ name U, (∀ x ∈ U, Text.lower x = x) → v'.gap name U ≤ v.gap name U +
    ray / 2 * (RewardTracker.movers name v.books.rewards v'.books.rewards).card

/-- An accounted vault with all holders at the same index, who stand to earn what they stood to. -/
structure Retains (v v' : StaticVault) : Prop where
  accounted : v'.Accounted
  index : ∀ name, (v'.books.rewards.tokenOf name).lifetimeIndex =
    (v.books.rewards.tokenOf name).lifetimeIndex
  seen : ∀ name x,
    (v'.books.rewards.stateOf name x).index = (v.books.rewards.stateOf name x).index
  gap : ∀ name U, (∀ x ∈ U, Text.lower x = x) → v'.gap name U = v.gap name U

theorem Retains.refl (hv : v.Accounted) : Retains v v where
  accounted := hv
  index _ := rfl
  seen _ _ := rfl
  gap _ _ _ := rfl

theorem Settling.retains (h : Settling v v') (h' : Retains v' v'') : Settling v v'' where
  accounted := h'.accounted
  index name := (h'.index name).trans (h.index name)
  gap name U hU := by
    rw [RewardTracker.movers_congr (fun _ => rfl) (h'.seen name)]
    exact (h'.gap name U hU).le.trans (h.gap name U hU)

theorem Retains.settling (h : Retains v v') : Settling v v' where
  accounted := h.accounted
  index := h.index
  gap name U hU := by
    have hnonneg : 0 ≤ ray / 2 *
        ((RewardTracker.movers name v.books.rewards v'.books.rewards).card : Int) :=
      Int.mul_nonneg (by decide) (Int.natCast_nonneg _)
    have hgap := h.gap name U hU
    omega

theorem settling_of_settles {p : String → String → Prop} {t : RewardTracker} (hv : v.Accounted)
    (h : v.books.rewards.Settles v.unitsOf p t) :
    Settling v { v with books := { v.books with rewards := t } } where
  accounted := by
    have htoken := h.differs.tokenOf_eq
    refine ⟨⟨hv.orderly.token, h.sound, hv.orderly.strays⟩, hv.units, hv.paid.of_settles h, ?_, ?_⟩
    · intro name x
      dsimp only
      rw [htoken]
      rcases h.states name x with hsame | haccrues
      · rw [hsame]
        exact hv.grown name x
      · exact haccrues.index_eq.le
    · intro name
      dsimp only
      rw [htoken, RewardTracker.paidOut_congr]
      · exact hv.covered name
      · intro x
        rcases h.states name x with hsame | ⟨_, _, hstate⟩
        · rw [hsame]
        · rw [hstate]
  index name := by
    dsimp only
    rw [h.differs.tokenOf_eq]
  gap _ _ _ := RewardTracker.gap_le_of_settles h

theorem retains_of_rebooked {s : DepositToken} {l : ShareLedger} (hv : v.Accounted) (hs : s.Honest)
    (hl : l.Sound) (hheld : ∀ x ∉ accounts, l.held x = v.books.balances.held x)
    (hsettled : ∀ x ∈ accounts, ∀ name, v.books.rewards.Settled name x) :
    Retains v { token := s, books := { v.books with balances := l } } where
  accounted := ⟨⟨hs, hv.orderly.rewards, hv.orderly.strays⟩, hl, hv.paid, hv.grown, hv.covered⟩
  index _ := rfl
  seen _ _ := rfl
  gap name U hU := by
    apply RewardTracker.gap_basis
    intro x hx
    by_cases hmem : x ∈ accounts
    · exact Or.inr (hsettled x hmem name)
    · left
      rw [unitsOf_of_small (hU x hx), unitsOf_of_small (hU x hx)]
      exact hheld x hmem

theorem retains_of_token {s : DepositToken} (hv : v.Accounted) (hs : s.Honest) :
    Retains v { v with token := s } :=
  @retains_of_rebooked v [] s v.books.balances hv hs hv.units (fun _ _ => rfl)
    fun _ hx => absurd hx List.not_mem_nil

theorem Retains.withEvents {events : List TokenEvent} (h : Retains v v') :
    Retains v { v' with books := { v'.books with events := events } } where
  accounted := by
    have ha := h.accounted
    exact ⟨⟨ha.orderly.token, ha.orderly.rewards, ha.orderly.strays⟩, ha.units, ha.paid, ha.grown,
      ha.covered⟩
  index := h.index
  seen := h.seen
  gap := h.gap

/-!
# Paying a holder
-/

theorem retains_of_paid {balances : Table String Int} {strays : Strays String}
    (hv : v.Accounted) (hmem : name ∈ v.books.rewards.rewardTokens) (hx : Text.lower x = x)
    (hstrays : strays = [])
    (hheld : ∀ y, v.heldOf y - (if y = name then
      (v.books.rewards.stateOf name x).claimable else 0) ≤ balances.getD y 0) :
    Retains v { v with
      books := { v.books with
        rewards := v.books.rewards.withHolder name x { v.books.rewards.stateOf name x with
          claimed := (v.books.rewards.stateOf name x).accrued }
        rewardBalances := balances
        strayBalances := strays } } where
  accounted := by
    have hsame := @RewardTracker.SameEarnings.of_claimed v.books.rewards name x
      (v.books.rewards.stateOf name x).accrued
    refine ⟨⟨hv.orderly.token, RewardTracker.sound_withHolder hv.orderly.rewards hmem hx _, hstrays⟩,
      hv.units, hv.paid.withHolder (Int.le_refl _), ?_, ?_⟩
    · intro y z
      dsimp only
      rw [hsame.seen, hsame.index]
      exact hv.grown y z
    · intro y
      have hcovered := hv.covered y
      have hbalance := hheld y
      dsimp only
      rw [RewardTracker.paidOut_withHolder, RewardTracker.tokenOf_withHolder]
      unfold heldOf HolderRewardState.claimable at *
      dsimp only
      split at hbalance
      · next hsame =>
          subst hsame
          rw [if_pos rfl]
          omega
      · next hother =>
          rw [if_neg hother]
          omega
  index _ := rfl
  seen := (RewardTracker.SameEarnings.of_claimed _).seen
  gap name' U _ := RewardTracker.gap_congr (RewardTracker.SameEarnings.of_claimed _)

theorem leaves_payOut (hv : v.Orderly) :
    (payOut holder token).Leaves v
      (fun c v' => Text.lower token ∈ v.books.rewards.rewardTokens ∧ ∃ s events,
        (v.books.rewards.stateOf (Text.lower token) (Text.lower holder)).Accrues
          (v.unitsOf (Text.lower holder))
          (v.books.rewards.tokenOf (Text.lower token)).lifetimeIndex s ∧
        c.claimable = s.claimable ∧
        v' = { v with
          books := { v.books with
            rewards := v.books.rewards.withHolder (Text.lower token) (Text.lower holder)
              { s with claimed := s.accrued }
            rewardBalances := v.books.rewardBalances.put (Text.lower token)
              (v.heldOf (Text.lower token) - c.claimable)
            strayBalances := []
            events := events } })
      (fun _ v' => v' = v ∨ Text.lower token ∈ v.books.rewards.rewardTokens ∧ ∃ s,
        (s = v.books.rewards.stateOf (Text.lower token) (Text.lower holder) ∨
          (v.books.rewards.stateOf (Text.lower token) (Text.lower holder)).Accrues
            (v.unitsOf (Text.lower holder))
            (v.books.rewards.tokenOf (Text.lower token)).lifetimeIndex s) ∧
        ∃ s', (s' = s ∨ s' = { s with claimed := s.accrued }) ∧
          v' = { v with
            books := { v.books with
              rewards := v.books.rewards.withHolder (Text.lower token) (Text.lower holder) s' } }) := by
  unfold payOut
  rw [Act.leaves_bind, Act.leaves_current, Act.leaves_bind, leaves_onRewards]
  have hcheckpoint := @RewardTracker.leaves_checkpoint v.books.rewards hv.rewards
    (Text.lower holder) token (v.unitsOf (Text.lower holder))
  rw [Text.lower_lower] at hcheckpoint
  apply hcheckpoint.mono
  · intro _ t₁ h
    rcases h with ⟨hmem, s, haccrues, rfl⟩
    have ht₁ := RewardTracker.sound_withHolder hv.rewards hmem (Text.lower_lower holder) s
    have hstate : (v.books.rewards.withHolder (Text.lower token) (Text.lower holder) s).stateOf
        (Text.lower token) (Text.lower holder) = s := by
      rw [RewardTracker.stateOf_withHolder, if_pos ⟨rfl, rfl⟩]
    have hclaim := @RewardTracker.leaves_claim _ ht₁ (Text.lower holder) token 0
    rw [Text.lower_lower, hstate, RewardTracker.withHolder_withHolder] at hclaim
    rw [Act.leaves_bind, leaves_onRewards]
    apply hclaim.mono
    · intro c t₂ h
      rcases h with ⟨_, hclaimable, rfl⟩
      have hpaid : Orderly { v with
          books := { v.books with
            rewards := v.books.rewards.withHolder (Text.lower token) (Text.lower holder)
              { s with claimed := s.accrued } } } :=
        ⟨hv.token, RewardTracker.sound_withHolder hv.rewards hmem (Text.lower_lower holder) _,
          hv.strays⟩
      rw [Act.leaves_bind, leaves_addRewardBalance hpaid, Act.leaves_bind, leaves_emit,
        Act.leaves_bind, leaves_noteInfo, Act.leaves_pure]
      refine ⟨hmem, s, v.books.events ++ [⟨.rewardsClaimed, Text.lower holder, Text.lower token,
        c.claimable, v.token.index⟩], haccrues, hclaimable, ?_⟩
      unfold heldOf
      dsimp only
      rw [hv.strays, Strays.without_nil]
      rfl
    · intro _ t₂ h
      right
      rcases h with rfl | ⟨_, rfl⟩
      · exact ⟨hmem, s, Or.inr haccrues, s, Or.inl rfl, rfl⟩
      · exact ⟨hmem, s, Or.inr haccrues, _, Or.inr rfl, rfl⟩
  · intro _ t₁ h
    rcases h with rfl | ⟨hmem, rfl⟩
    · exact Or.inl rfl
    · exact Or.inr ⟨hmem, _, Or.inl rfl, _, Or.inl rfl, rfl⟩

theorem settling_of_paid {s : HolderRewardState} {balances : Table String Int}
    {events : List TokenEvent} (hv : v.Accounted) (hmem : name ∈ v.books.rewards.rewardTokens)
    (hx : Text.lower x = x)
    (hs : s = v.books.rewards.stateOf name x ∨ (v.books.rewards.stateOf name x).Accrues
      (v.unitsOf x) (v.books.rewards.tokenOf name).lifetimeIndex s)
    (hheld : ∀ y, v.heldOf y - (if y = name then s.claimable else 0) ≤ balances.getD y 0) :
    Settling v { v with
      books := { v.books with
        rewards := v.books.rewards.withHolder name x { s with claimed := s.accrued }
        rewardBalances := balances
        strayBalances := []
        events := events } } := by
  have hsettles : v.books.rewards.Settles v.unitsOf (fun _ _ => True)
      (v.books.rewards.withHolder name x s) :=
    RewardTracker.Settles.of_withHolder hv.orderly.rewards hmem hx trivial hs
  have hsettling := settling_of_settles hv hsettles
  have hstate : (v.books.rewards.withHolder name x s).stateOf name x = s := by
    rw [RewardTracker.stateOf_withHolder, if_pos ⟨rfl, rfl⟩]
  have hpaid := @retains_of_paid _ name x balances [] hsettling.accounted hmem hx rfl (by
    dsimp only
    rw [hstate]
    exact hheld)
  dsimp only at hpaid
  rw [hstate, RewardTracker.withHolder_withHolder] at hpaid
  exact hsettling.retains hpaid.withEvents

theorem settling_payOut (hv : v.Accounted) :
    (payOut holder token).Leaves v (fun _ v' => Settling v v') (fun _ v' => Settling v v') := by
  apply (leaves_payOut hv.orderly).mono
  · intro c v' h
    rcases h with ⟨hmem, s, events, haccrues, hclaimable, rfl⟩
    apply settling_of_paid hv hmem (Text.lower_lower holder) (Or.inr haccrues)
    intro y
    rw [Table.getD_put, hclaimable]
    split
    · next hsame =>
        rw [hsame]
    · exact (Int.sub_zero _).le
  · intro _ v' h
    rcases h with rfl | ⟨hmem, s, hs, s', hs', rfl⟩
    · exact (Retains.refl hv).settling
    · rcases hs' with rfl | rfl
      · exact settling_of_settles hv (RewardTracker.Settles.of_withHolder (p := fun _ _ => True)
          hv.orderly.rewards hmem (Text.lower_lower holder) trivial hs)
      · have hnonneg : 0 ≤ s.claimable := by
          have hpaid := hv.paid (Text.lower token) (Text.lower holder)
          have hle : s.claimed ≤ s.accrued := by
            rcases hs with rfl | haccrues
            · exact hpaid
            · exact RewardTracker.claimed_le_of_accrues hpaid haccrues
          unfold HolderRewardState.claimable
          omega
        have hsettling := @settling_of_paid v _ _ s v.books.rewardBalances v.books.events hv hmem
          (Text.lower_lower holder) hs (by
            intro y
            unfold heldOf
            split <;> omega)
        rw [← hv.orderly.strays] at hsettling
        exact hsettling

/-!
# Calls of a vault
-/

def slack (v : StaticVault) (name : String) (v' : StaticVault) : Int :=
  ray / 2 * (RewardTracker.movers name v.books.rewards v'.books.rewards).card +
    if (v.books.rewards.tokenOf name).lifetimeIndex <
      (v'.books.rewards.tokenOf name).lifetimeIndex then v.totalUnits / 2 else 0

structure Advances (v v' : StaticVault) : Prop where
  accounted : v'.Accounted
  gap : ∀ name U, (∀ x ∈ U, Text.lower x = x) → v'.gap name U ≤ v.gap name U + v.slack name v'

theorem Gathers.advances (h : v.Gathers v') (hv : v.Accounted) (h' : Settling v' v'') :
    Advances v v'' where
  accounted := h'.accounted
  gap name U hU := by
    have hgathered := @Gathers.gap_le v v' name U h hv hU
    have hsettled := h'.gap name U hU
    unfold slack
    rw [h'.index, RewardTracker.movers_congr (t := v'.books.rewards)
      (fun x => congrArg HolderRewardState.index (h.states name x).symm) fun _ => rfl]
    omega

theorem Settling.advances (h : Settling v v') (hv : v.Accounted) : Advances v v' :=
  (Gathers.refl hv.orderly).advances hv h

theorem Advances.withEvents {events : List TokenEvent} (h : Advances v v') :
    Advances v { v' with books := { v'.books with events := events } } where
  accounted := (Retains.refl h.accounted).withEvents.accounted
  gap := h.gap

theorem Advances.of_books (hbooks : v'.books = v.books) (h : Advances v' v'') : Advances v v'' where
  accounted := h.accounted
  gap name U hU := by
    have hgap := h.gap name U hU
    unfold StaticVault.gap slack unitsOf totalUnits at *
    rw [hbooks] at hgap
    exact hgap

theorem advances_collect {asked : Option String} (hv : v.Accounted) :
    (collect asked).Leaves v (fun _ v' => Advances v v') (fun _ v' => Advances v v') := by
  apply (leaves_collect hv.orderly).mono
  · intro _ v' h
    exact h.left.advances hv (Retains.refl (h.left.accounted hv)).settling
  · intro _ v' h
    exact h.advances hv (Retains.refl (h.accounted hv)).settling

theorem advances_claimRewards {forceUpdate : Bool} (hv : v.Accounted) :
    (claimRewards holder token forceUpdate).Leaves v
      (fun _ v' => Advances v v') (fun _ v' => Advances v v') := by
  cases forceUpdate with
  | false =>
      rw [claimRewards_false]
      exact (settling_payOut hv).mono (fun _ _ h => h.advances hv) (fun _ _ h => h.advances hv)
  | true =>
      rw [claimRewards_true, Act.leaves_bind]
      apply (leaves_collect hv.orderly).mono
      · intro _ v₁ h
        have hgathers := h.left
        exact (settling_payOut (hgathers.accounted hv)).mono
          (fun _ _ h => hgathers.advances hv h) (fun _ _ h => hgathers.advances hv h)
      · intro _ v₁ h
        exact h.advances hv (Retains.refl (h.accounted hv)).settling

structure SameBooks (v v' : StaticVault) : Prop where
  token : v'.token.Honest
  books : v'.books = v.books

theorem SameBooks.retains (h : SameBooks v v') (hv : v.Accounted) : Retains v v' := by
  have hretains := retains_of_token hv h.token
  rw [← h.books] at hretains
  exact hretains

theorem advances_applyChange {change : Act StaticVault Unit} (hv : v.Accounted)
    (hsmall : ∀ x ∈ accounts, Text.lower x = x)
    (hchange : ∀ v₁, v₁.Accounted → v₁.books.balances = v.books.balances →
      (∀ x ∈ accounts, ∀ name, v₁.books.rewards.Settled name x) →
      change.Leaves v₁ (fun _ v₂ => Retains v₁ v₂) (fun _ v₂ => SameBooks v₁ v₂)) :
    (applyChange accounts change).Leaves v (fun _ v' => Advances v v') (fun _ v' => Advances v v') := by
  unfold applyChange
  rw [Act.leaves_bind]
  apply (leaves_collect hv.orderly).mono _ fun _ _ h =>
    h.advances hv (Retains.refl (h.accounted hv)).settling
  intro _ v₁ h
  have hgathers := h.left
  have hv₁ := hgathers.accounted hv
  rw [Act.leaves_bind, Act.leaves_current, Act.leaves_bind, leaves_onRewards]
  apply (RewardTracker.settles_checkpointHolders hv₁.orderly.rewards hsmall).mono
  · intro saved t h
    rcases h with ⟨hsaves, hsettles, hsettled⟩
    have hsettling := settling_of_settles hv₁ hsettles
    have hall : ∀ x ∈ accounts, ∀ name, t.Settled name x := by
      intro x hx name
      by_cases hname : name ∈ v₁.books.rewards.rewardTokens
      · exact hsettled x hx name hname
      · apply RewardTracker.settled_of_not_mem hsettles.sound
        rw [hsettles.differs.rewardTokens]
        exact hname
    rw [Act.leaves_onRefusal]
    apply (hchange _ hsettling.accounted hgathers.quiet.balances hall).mono
    · intro _ v₃ h
      exact hgathers.advances hv (hsettling.retains h)
    · intro e v₃ h
      cases e with
      | refused r =>
          -- the checkpoints are undone, and what is left is what was collected
          have hback : withRestored saved v₃ = { v₁ with token := v₃.token } := by
            unfold withRestored
            rw [h.books]
            dsimp only
            rw [hsaves.restore_eq hv₁.orderly.rewards hsettles.differs]
          dsimp only
          rw [hback]
          exact hgathers.advances hv (retains_of_token hv₁ h.token).settling
      | _ => exact hgathers.advances hv (hsettling.retains (h.retains hsettling.accounted))
  · intro _ t hsettles
    exact hgathers.advances hv (settling_of_settles hv₁ hsettles)

/-!
# Deposits, withdrawals and transfers
-/

theorem sameBooks_onToken {α : Type} {m : Act DepositToken α} (c : TokenCall)
    (hc : c.perform = Act.ending m) (hv : v.token.Honest) :
    (onToken m).Leaves v (fun _ v' => SameBooks v v') (fun _ v' => SameBooks v v') := by
  have hhonest : (Act.run m v.token).2.Honest := by
    have hafter := TokenCall.honest_after c hv
    unfold TokenCall.after at hafter
    rw [hc, Act.run_ending] at hafter
    exact hafter
  rw [leaves_onToken]
  exact (Act.Leaves.of_state hhonest).mono (fun _ _ h => ⟨h, rfl⟩) (fun _ _ h => ⟨h, rfl⟩)

theorem sameBooks_takeTokens {depositor : String} {amount : Int} {fromUnderlying : Bool}
    (hv : v.token.Honest) :
    (takeTokens depositor amount fromUnderlying).Leaves v
      (fun _ v' => SameBooks v v') (fun _ v' => SameBooks v v') := by
  unfold takeTokens
  rw [Act.leaves_bind, Act.leaves_current]
  cases fromUnderlying with
  | true => exact Act.leaves_bind.mpr (sameBooks_onToken (.mint _ _ _ _) rfl hv)
  | false => exact Act.leaves_bind.mpr (sameBooks_onToken (.transfer _ _ _) rfl hv)

theorem sameBooks_releaseTokens {recipient : String} {amount : Int} {toUnderlying : Bool}
    (hv : v.token.Honest) :
    (releaseTokens recipient amount toUnderlying).Leaves v
      (fun _ v' => SameBooks v v') (fun _ v' => SameBooks v v') := by
  unfold releaseTokens
  rw [Act.leaves_bind, Act.leaves_current]
  cases toUnderlying with
  | true => exact Act.leaves_bind.mpr (sameBooks_onToken (.burn _ _ _ _ _) rfl hv)
  | false => exact Act.leaves_bind.mpr (sameBooks_onToken (.transfer _ _ _) rfl hv)

def Rebooks (accounts : List String) (l l' : ShareLedger) : Prop :=
  l'.Sound ∧ ∀ x ∉ accounts, l'.held x = l.held x

theorem retains_onBalances {α : Type} {m : Act ShareLedger α} (hv : v.Accounted)
    (hsettled : ∀ x ∈ accounts, ∀ name, v.books.rewards.Settled name x)
    (hm : m.Leaves v.books.balances (fun _ l => Rebooks accounts v.books.balances l)
      (fun _ l => l = v.books.balances)) :
    (onBalances m).Leaves v (fun _ v' => Retains v v') (fun _ v' => SameBooks v v') := by
  unfold onBalances
  rw [Act.leaves_within]
  apply hm.mono
  · intro _ l h
    exact retains_of_rebooked hv hv.orderly.token h.left h.right hsettled
  · intro _ l hsame
    rw [hsame]
    exact ⟨hv.orderly.token, rfl⟩

theorem retains_legs {α : Type} {leg : Act StaticVault Unit} {m : Act ShareLedger α}
    (hv : v.Accounted) (hsettled : ∀ x ∈ accounts, ∀ name, v.books.rewards.Settled name x)
    (hleg : leg.Leaves v (fun _ v' => SameBooks v v') (fun _ v' => SameBooks v v'))
    (hm : m.Leaves v.books.balances (fun _ l => Rebooks accounts v.books.balances l)
      (fun _ l => l = v.books.balances)) :
    (do
      leg
      let _ ← onBalances m : Act StaticVault Unit).Leaves v
      (fun _ v' => Retains v v') (fun _ v' => SameBooks v v') := by
  rw [Act.leaves_bind]
  apply hleg.mono _ (fun _ _ h => h)
  intro _ v₁ h
  have hretains := h.retains hv
  rw [Act.leaves_bind]
  rw [← h.books] at hm hsettled
  apply (retains_onBalances hretains.accounted hsettled hm).mono
  · intro _ v₂ h₂
    exact ⟨h₂.accounted, fun name => (h₂.index name).trans (hretains.index name),
      fun name x => (h₂.seen name x).trans (hretains.seen name x),
      fun name U hU => (h₂.gap name U hU).trans (hretains.gap name U hU)⟩
  · intro _ v₂ h₂
    exact ⟨h₂.token, h₂.books.trans h.books⟩

theorem rebooks_mint {l : ShareLedger} {units : Int} (hl : l.Sound) :
    (ShareLedger.applyDelta (Text.lower holder) units .mint).Leaves l
      (fun _ l' => Rebooks [Text.lower holder] l l') (fun _ l' => l' = l) := by
  apply ShareLedger.leaves_applyDelta.mono _ (fun _ _ h => h)
  intro _ l' h
  rw [Text.lower_lower] at h
  rcases h with ⟨_, hsign, _, rfl⟩
  have hcredits : l.Credits (Text.lower holder) units
      (l.withDelta (Text.lower holder) units .mint) := ⟨of_decide_eq_true hsign, rfl⟩
  exact ⟨hcredits.sound (Text.lower_lower holder) hl,
    TokenCall.held_of_not_mem_singleton hcredits.held_eq⟩

theorem rebooks_burn {l : ShareLedger} {units : Int} (hl : l.Sound) :
    (ShareLedger.applyDelta (Text.lower holder) (-units) .burn).Leaves l
      (fun _ l' => Rebooks [Text.lower holder] l l') (fun _ l' => l' = l) := by
  apply ShareLedger.leaves_applyDelta.mono _ (fun _ _ h => h)
  intro _ l' h
  rw [Text.lower_lower] at h
  rcases h with ⟨hzero, hsign, hheld, rfl⟩
  have hneg : ¬ 0 < -units := of_decide_eq_false hsign
  have hdebits : l.Debits (Text.lower holder) units
      (l.withDelta (Text.lower holder) (-units) .burn) := ⟨by omega, by omega, rfl⟩
  exact ⟨hdebits.sound (Text.lower_lower holder) hl,
    TokenCall.held_of_not_mem_singleton hdebits.held_eq⟩

theorem rebooks_moveShares {l : ShareLedger} {sender recipient : String} {units : Int}
    (hl : l.Sound) :
    (ShareLedger.moveShares (Text.lower sender) (Text.lower recipient) units).Leaves l
      (fun _ l' => Rebooks [Text.lower sender, Text.lower recipient] l l') (fun _ l' => l' = l) := by
  apply (ShareLedger.leaves_moveShares hl.nonneg).mono _ (fun _ _ h => h)
  intro _ l' h
  rw [Text.lower_lower, Text.lower_lower] at h
  exact ⟨h.sound (Text.lower_lower sender) (Text.lower_lower recipient) hl,
    TokenCall.held_of_not_mem_pair h⟩

end StaticVault
end ReserveAccounting
