import ReserveAccounting.Proofs.RefusedCalls
import ReserveAccounting.Proofs.VaultPayoutRuns

/-!
# Roundings of a vault

A vault that is accounted to the last unit holds, or has paid out, all that it
has received. Checkpoints and payouts keep it so, and move what its holders have
earned by roundings alone: half a ray for each checkpoint that is executed.
-/

namespace ReserveAccounting

open FixedPoint

namespace StaticVault

variable {v v' v'' : StaticVault} {name token holder x : String} {accounts : List String}
  {U : Finset String} {n : Nat}

/-!
# Vaults accounted to the last unit
-/

def Received (v : StaticVault) : Prop :=
  ∀ name, (v.books.rewards.tokenOf name).lifetimeRewards =
    v.heldOf name + v.books.rewards.paidOut name

/-- An accounted vault in which nothing was received that is not held or paid. -/
structure Exact (v : StaticVault) : Prop where
  accounted : v.Accounted
  received : v.Received

theorem Exact.rebooked {l : ShareLedger} (hv : v.Exact) (h : v'.Accounted)
    (hbooks : v'.books = { v.books with balances := l }) : v'.Exact where
  accounted := h
  received name := by
    have hreceived := hv.received name
    unfold heldOf at *
    rw [hbooks]
    exact hreceived

theorem Exact.sameBooks (hv : v.Exact) (h : SameBooks v v') : v'.Exact :=
  hv.rebooked (h.accounted hv.accounted) h.books

theorem Exact.withEvents (hv : v.Exact) (events : List TokenEvent) :
    Exact { v with books := { v.books with events := events } } where
  accounted := (Retains.refl hv.accounted).withEvents.accounted
  received := hv.received

theorem Exact.settles {p : String → String → Prop} {t : RewardTracker} (hv : v.Exact)
    (h : v.books.rewards.Settles v.unitsOf p t) :
    Exact { v with books := { v.books with rewards := t } } where
  accounted := (settling_of_settles hv.accounted h).accounted
  received name := by
    have hclaimed : ∀ x, (t.stateOf name x).claimed = (v.books.rewards.stateOf name x).claimed := by
      intro x
      rcases h.states name x with hsame | ⟨_, _, hstate⟩
      · rw [hsame]
      · rw [hstate]
    dsimp only
    rw [h.differs.tokenOf_eq, RewardTracker.paidOut_congr hclaimed]
    exact hv.received name

theorem Gathers.exact (h : v.Gathers v') (hv : v.Exact) : v'.Exact where
  accounted := h.accounted hv.accounted
  received name := by
    have hreceived := hv.received name
    have hgathered := (h.amounts name).lifetimeRewards_eq
    rw [RewardTracker.paidOut_congr fun x => congrArg HolderRewardState.claimed (h.states name x)]
    omega

theorem Exact.paid {balances : Table String Int} (hv : v.Exact)
    (hmem : name ∈ v.books.rewards.rewardTokens) (hx : Text.lower x = x)
    (hheld : ∀ y, balances.getD y 0 = v.heldOf y - if y = name then
      (v.books.rewards.stateOf name x).claimable else 0)
    (hpaid : v' = { v with
      books := { v.books with
        rewards := v.books.rewards.withHolder name x { v.books.rewards.stateOf name x with
          claimed := (v.books.rewards.stateOf name x).accrued }
        rewardBalances := balances
        strayBalances := [] } }) : Retains v v' ∧ v'.Exact := by
  subst hpaid
  have hretains := @retains_of_paid v name x balances [] hv.accounted hmem hx rfl
    fun y => (hheld y).ge
  refine ⟨hretains, hretains.accounted, ?_⟩
  intro y
  have hreceived := hv.received y
  have hbalance := hheld y
  unfold heldOf at *
  dsimp only
  rw [RewardTracker.paidOut_withHolder, RewardTracker.tokenOf_withHolder, hbalance]
  unfold HolderRewardState.claimable
  dsimp only
  split
  · next hsame =>
      rw [hsame] at hreceived ⊢
      omega
  · omega

/-!
# Rounding
-/

/-- An exact vault at the same index, after checkpoints that round and nothing else that does. -/
structure Rounds (name : String) (n : Nat) (v v' : StaticVault) : Prop where
  kept : v'.Exact
  index : (v'.books.rewards.tokenOf name).lifetimeIndex =
    (v.books.rewards.tokenOf name).lifetimeIndex
  gap : ∀ U : Finset String, (∀ x ∈ U, Text.lower x = x) →
    |v'.gap name U - v.gap name U| ≤ ray / 2 * n

theorem Retains.rounds (h : Retains v v') (hv : v'.Exact) : Rounds name n v v' where
  kept := hv
  index := h.index name
  gap U hU := by
    rw [h.gap name U hU, Int.sub_self, abs_zero]
    exact Int.mul_nonneg (by decide) (Int.natCast_nonneg n)

theorem Rounds.refl (hv : v.Exact) : Rounds name n v v := (Retains.refl hv.accounted).rounds hv

theorem SameBooks.rounds (h : SameBooks v v') (hv : v.Exact) : Rounds name n v v' :=
  (h.retains hv.accounted).rounds (hv.sameBooks h)

theorem Rounds.retains (h : Rounds name n v v') (h' : Retains v' v'') (hv : v''.Exact) :
    Rounds name n v v'' where
  kept := hv
  index := (h'.index name).trans h.index
  gap U hU := by
    rw [h'.gap name U hU]
    exact h.gap U hU

theorem Rounds.withEvents (h : Rounds name n v v') (events : List TokenEvent) :
    Rounds name n v { v' with books := { v'.books with events := events } } where
  kept := h.kept.withEvents events
  index := h.index
  gap := h.gap

theorem rounds_of_settles {p : String → String → Prop} {t : RewardTracker} (hv : v.Exact)
    (h : v.books.rewards.Settles v.unitsOf p t)
    (hgap : ∀ U : Finset String, |t.gap name v.unitsOf U -
      v.books.rewards.gap name v.unitsOf U| ≤ ray / 2 * n) :
    Rounds name n v { v with books := { v.books with rewards := t } } where
  kept := hv.settles h
  index := by
    dsimp only
    rw [h.differs.tokenOf_eq]
  gap U _ := hgap U

theorem rounds_checkpointHolders (hv : v.Exact) (hsmall : ∀ x ∈ accounts, Text.lower x = x) :
    (RewardTracker.checkpointHolders v.unitsOf accounts).Leaves v.books.rewards
      (fun saved t => Rounds name
          (RewardTracker.checkpointHoldersCount name v.unitsOf accounts v.books.rewards) v
          { v with books := { v.books with rewards := t } } ∧
        t.restore saved = v.books.rewards ∧ ∀ x ∈ accounts, ∀ y, t.Settled y x)
      (fun _ t => Rounds name
        (RewardTracker.checkpointHoldersCount name v.unitsOf accounts v.books.rewards) v
        { v with books := { v.books with rewards := t } }) := by
  have hrewards := hv.accounted.orderly.rewards
  have hgaps := Act.Leaves.of_state (p := fun t : RewardTracker => ∀ U : Finset String,
    |t.gap name v.unitsOf U - v.books.rewards.gap name v.unitsOf U| ≤
      ray / 2 * RewardTracker.checkpointHoldersCount name v.unitsOf accounts v.books.rewards)
    fun _ => RewardTracker.within_checkpointHolders hrewards hsmall
  apply ((RewardTracker.settles_checkpointHolders hrewards hsmall).and hgaps).mono
  · intro saved t h
    rcases h with ⟨⟨hsaves, hsettles, hsettled⟩, hgap⟩
    refine ⟨rounds_of_settles hv hsettles hgap, hsaves.restore_eq hrewards hsettles.differs, ?_⟩
    intro x hx y
    by_cases hy : y ∈ v.books.rewards.rewardTokens
    · exact hsettled x hx y hy
    · apply RewardTracker.settled_of_not_mem hsettles.sound
      rw [hsettles.differs.rewardTokens]
      exact hy
  · intro _ t h
    exact rounds_of_settles hv h.left h.right

/-!
# Payouts
-/

def pay (holder token : String) : Act StaticVault RewardClaim := do
  let result ← onRewards (RewardTracker.claim (Text.lower holder) token 0)
  addRewardBalance (Text.lower token) (-result.claimable)
  emit .rewardsClaimed (Text.lower holder) (Text.lower token) result.claimable
  noteInfo "Static rewards claimed"
    [("event", .text "static.rewards_claimed"), ("token", .text (Text.lower token)),
      ("holder", Record.brief (Text.lower holder)), ("claimable", .int result.claimable)]
  return result

theorem payOut_eq (holder token : String) :
    payOut holder token = (do
      let v ← Act.current
      let _ ← onRewards (RewardTracker.checkpoint (Text.lower holder) token
        (v.unitsOf (Text.lower holder)))
      pay holder token) := rfl

theorem retains_pay (hv : v.Exact) (hmem : Text.lower token ∈ v.books.rewards.rewardTokens) :
    (pay holder token).Leaves v (fun _ v' => Retains v v' ∧ v'.Exact)
      (fun e _ => e.IsOverflow) := by
  have horderly := hv.accounted.orderly
  have hclaim := (@RewardTracker.leaves_claim _ horderly.rewards (Text.lower holder) token 0).and
    (@RewardTracker.stops_claim _ (Text.lower holder) token horderly.rewards hv.accounted.paid
      hmem 0 (by decide))
  rw [Text.lower_lower] at hclaim
  unfold pay
  rw [Act.leaves_bind, leaves_onRewards]
  apply hclaim.mono _ (fun _ _ h => h.right)
  intro c t h
  rcases h with ⟨⟨_, hclaimable, rfl⟩, _⟩
  have hheld : ∀ y, (v.books.rewardBalances.put (Text.lower token)
      (v.heldOf (Text.lower token) + -c.claimable)).getD y 0 =
      v.heldOf y - if y = Text.lower token then
        (v.books.rewards.stateOf (Text.lower token) (Text.lower holder)).claimable else 0 := by
    intro y
    rw [Table.getD_put, hclaimable]
    unfold heldOf
    split
    · next hsame =>
        rw [hsame, ← Int.sub_eq_add_neg]
    · exact (Int.sub_zero _).symm
  have hpaid := hv.paid hmem (Text.lower_lower holder) hheld rfl
  have hwritten : Orderly { v with
      books := { v.books with
        rewards := v.books.rewards.withHolder (Text.lower token) (Text.lower holder)
          { v.books.rewards.stateOf (Text.lower token) (Text.lower holder) with
            claimed := (v.books.rewards.stateOf (Text.lower token)
              (Text.lower holder)).accrued } } } :=
    ⟨horderly.token, hpaid.right.accounted.orderly.rewards, horderly.strays⟩
  rw [Act.leaves_bind, leaves_addRewardBalance hwritten, Act.leaves_bind, leaves_emit,
    Act.leaves_bind, leaves_noteInfo, Act.leaves_pure]
  dsimp only
  rw [horderly.strays, Strays.without_nil]
  exact ⟨hpaid.left.withEvents, hpaid.right.withEvents _⟩

def payOutCheckpoints (name holder token : String) (v : StaticVault) : Nat :=
  RewardTracker.checkpointCount name (Text.lower holder) token (v.unitsOf (Text.lower holder))
    v.books.rewards

theorem rounds_payOut (hv : v.Exact) :
    (payOut holder token).Leaves v
      (fun _ v' => Rounds name (payOutCheckpoints name holder token v) v v')
      (fun e v' => ¬ e.IsOverflow → Rounds name (payOutCheckpoints name holder token v) v v') := by
  have hrewards := hv.accounted.orderly.rewards
  have hsettles := @RewardTracker.settles_checkpoint v.books.rewards v.unitsOf (fun _ _ => True)
    (Text.lower holder) hrewards token fun _ _ => trivial
  rw [Text.lower_lower] at hsettles
  have hgaps := Act.Leaves.of_state (p := fun t : RewardTracker => ∀ U : Finset String,
    |t.gap name v.unitsOf U - v.books.rewards.gap name v.unitsOf U| ≤
      ray / 2 * payOutCheckpoints name holder token v)
    fun _ => RewardTracker.abs_gap_checkpoint_le hrewards (Text.lower_lower holder)
  rw [payOut_eq, Act.leaves_bind, Act.leaves_current, Act.leaves_bind, leaves_onRewards]
  apply ((RewardTracker.leaves_checkpoint hrewards).and (hsettles.and hgaps)).mono
  · intro _ t h
    rcases h with ⟨⟨hmem, _⟩, ⟨hsettles, _⟩, hgap⟩
    have hrounds := rounds_of_settles hv hsettles hgap
    have hregistered : Text.lower token ∈ t.rewardTokens := by
      rw [hsettles.differs.rewardTokens]
      exact hmem
    apply (retains_pay hrounds.kept hregistered).mono
    · intro _ v' h
      exact hrounds.retains h.left h.right
    · intro e _ hover hsize
      exact absurd hover hsize
  · intro _ t h _
    exact rounds_of_settles hv h.right.left h.right.right

end StaticVault
end ReserveAccounting
