import ReserveAccounting.Proofs.VaultPlans
import ReserveAccounting.Proofs.VaultRoundings

/-!
# Conservation of forwarded rewards

As long as no call fails for the size of an amount, what a vault has received of
a reward token it holds or has paid out, to the last unit. What its holders have
earned and what was spread over them differ by roundings alone: half a ray for
each checkpoint, and half the units for each raise of the lifetime index.
-/

namespace ReserveAccounting

open FixedPoint

namespace StaticVault

variable {v v' v'' : StaticVault} {name token holder : String} {U : Finset String} {n : Nat}

/-!
# Forwarding
-/

def raised (name : String) (v v' : StaticVault) : Int :=
  if (v.books.rewards.tokenOf name).lifetimeIndex <
    (v'.books.rewards.tokenOf name).lifetimeIndex then v.totalUnits / 2 else 0

theorem Gathers.abs_gap_le (h : v.Gathers v') (hforwarded : Forwarded name v v')
    (hv : v.Accounted) (hU : ∀ x ∈ U, Text.lower x = x)
    (hkeys : ∀ x ∈ v.books.balances.shares.keys, x ∈ U) :
    |v'.gap name U - v.gap name U| ≤ raised name v v' := by
  rcases hforwarded with ⟨htoken, _⟩ | ⟨received, _, _, hspreads⟩
  · unfold raised
    rw [h.gap_eq_of_token htoken, htoken, Int.sub_self, if_neg (Int.lt_irrefl _)]
    exact Int.le_refl 0
  · rw [h.gap_eq]
    exact RewardTracker.abs_gap_spreads_le (hv.units.sum_sharesOf hU hkeys) hspreads

/-- An exact vault after a call, whose holders have earned what was spread, up to roundings. -/
structure Drifts (name : String) (n : Nat) (v v' : StaticVault) : Prop where
  kept : v'.Exact
  gap : ∀ U : Finset String, (∀ x ∈ U, Text.lower x = x) →
    (∀ x ∈ v.books.balances.shares.keys, x ∈ U) →
    |v'.gap name U - v.gap name U| ≤ ray / 2 * n + raised name v v'

theorem Gathers.drifts (h : v.Gathers v') (hforwarded : Forwarded name v v') (hv : v.Accounted)
    (h' : Rounds name n v' v'') : Drifts name n v v'' where
  kept := h'.kept
  gap U hU hkeys := by
    have hgathered := h.abs_gap_le hforwarded hv hU hkeys
    have hrounded := h'.gap U hU
    have htriangle := abs_sub_le (v''.gap name U) (v'.gap name U) (v.gap name U)
    have hraised : raised name v v'' = raised name v v' := by
      unfold raised
      rw [h'.index]
    omega

theorem Rounds.drifts (h : Rounds name n v v') (hv : v.Accounted) : Drifts name n v v' :=
  (Gathers.refl hv.orderly).drifts (Or.inl ⟨rfl, rfl⟩) hv h

theorem Drifts.of_books (hbooks : v'.books = v.books) (h : Drifts name n v' v'') :
    Drifts name n v v'' where
  kept := h.kept
  gap U hU hkeys := by
    have hgap := h.gap U hU
    unfold StaticVault.gap raised unitsOf totalUnits at *
    rw [hbooks] at hgap
    exact hgap hkeys

theorem drifts_collect {asked : Option String} (hv : v.Exact) :
    (collect asked).Leaves v
      (fun _ v' => v'.Exact ∧ ∀ n v'', Rounds name n v' v'' → Drifts name n v v'')
      (fun e v' => ¬ e.IsOverflow → ∀ n, Drifts name n v v') := by
  have horderly := hv.accounted.orderly
  apply ((leaves_collect horderly).and (forwarded_collect horderly)).mono
  · intro _ v' h
    rcases h with ⟨⟨hgathers, _⟩, hforwarded⟩
    exact ⟨hgathers.exact hv, fun _ _ h => hgathers.drifts (hforwarded name) hv.accounted h⟩
  · intro e v' h hsize n
    rcases h with ⟨hgathers, hforwarded | hover⟩
    · exact hgathers.drifts (hforwarded name) hv.accounted (Rounds.refl (hgathers.exact hv))
    · exact absurd hover hsize

theorem drifts_after_collect {α : Type} {m : Act StaticVault α} {asked : Option String}
    {count : StaticVault → Nat} (hv : v.Exact)
    (hm : ∀ v', v'.Exact → m.Leaves v' (fun _ v'' => Rounds name (count v') v' v'')
      (fun e v'' => ¬ e.IsOverflow → Rounds name (count v') v' v'')) :
    (collect asked).Leaves v
      (fun _ v' => m.Leaves v'
        (fun _ v'' => Drifts name ((collect asked).countAfter (fun _ => count) v) v v'')
        (fun e v'' => ¬ e.IsOverflow →
          Drifts name ((collect asked).countAfter (fun _ => count) v) v v''))
      (fun e v' => ¬ e.IsOverflow →
        Drifts name ((collect asked).countAfter (fun _ => count) v) v v') := by
  apply ((drifts_collect hv).counted fun _ => count).mono
  · intro _ v' h
    rcases h with ⟨⟨hv', hdrifts⟩, hcount⟩
    rw [hcount]
    exact (hm v' hv').mono (fun _ v'' h => hdrifts _ v'' h)
      (fun _ v'' h hsize => hdrifts _ v'' (h hsize))
  · intro e v' h hsize
    exact h hsize _

/-!
# Plans
-/

theorem received_planLegs (plan : Plan) : Act.Stable Received plan.legs := by
  have htoken : ∀ {α : Type} (m : Act DepositToken α), Act.Stable Received (onToken m) :=
    fun _ => Act.Stable.within_aside fun _ _ h => h
  have hunits : ∀ {α : Type} (m : Act ShareLedger α), Act.Stable Received (onBalances m) :=
    fun _ => Act.Stable.within_aside fun _ _ h => h
  have hquiet : ∀ {α : Type} {m : Act StaticVault α}, Act.Stable Received m →
      Act.Stable Received (do let _ ← m) := fun h => h.bind fun _ => Act.Stable.pure _
  cases plan with
  | take depositor recipient amount units fromUnderlying =>
      apply Act.Stable.bind _ fun _ => hquiet (hunits _)
      unfold takeTokens
      exact Act.Stable.of_current fun _ _ =>
        Act.Stable.ite (hquiet (htoken _)) (hquiet (htoken _))
  | release owner recipient units value toUnderlying =>
      apply Act.Stable.bind _ fun _ => hquiet (hunits _)
      unfold releaseTokens
      exact Act.Stable.of_current fun _ _ =>
        Act.Stable.ite (hquiet (htoken _)) (hquiet (htoken _))
  | move sender recipient units => exact hunits _

def Plan.settle (plan : Plan) : Act StaticVault Unit := do
  let v ← Act.current
  let saved ← onRewards (RewardTracker.checkpointHolders v.unitsOf plan.accounts)
  plan.legs.onRefusal (withRestored saved)
  plan.report

theorem Plan.leaves_carryOut_iff {plan : Plan} {answered : Unit → StaticVault → Prop}
    {failed : Fault → StaticVault → Prop} :
    plan.carryOut.Leaves v answered failed ↔
      (collect none).Leaves v (fun _ v' => plan.settle.Leaves v' answered failed) failed := by
  unfold Plan.carryOut applyChange Plan.settle
  simp only [Act.leaves_bind, Act.leaves_current]

def Plan.settleCheckpoints (name : String) (plan : Plan) (v : StaticVault) : Nat :=
  RewardTracker.checkpointHoldersCount name v.unitsOf plan.accounts v.books.rewards

theorem rounds_settle (plan : Plan) (hv : v.Exact) :
    plan.settle.Leaves v (fun _ v' => Rounds name (plan.settleCheckpoints name v) v v')
      (fun _ v' => Rounds name (plan.settleCheckpoints name v) v v') := by
  unfold Plan.settle
  rw [Act.leaves_bind, Act.leaves_current, Act.leaves_bind, leaves_onRewards]
  apply (rounds_checkpointHolders hv plan.accounts_small).mono _ (fun _ _ h => h)
  intro saved t h
  rcases h with ⟨hrounds, hback, hsettled⟩
  have hlegs := (retains_planLegs plan hrounds.kept.accounted hsettled).and
    ((received_planLegs plan).leaves hrounds.kept.received)
  rw [Act.leaves_bind, Act.leaves_onRefusal]
  apply hlegs.mono
  · intro _ v₂ h
    have hretains := hrounds.retains h.left ⟨h.left.accounted, h.right⟩
    cases plan <;> exact hretains.withEvents _
  · intro e v₂ h
    have hsame := h.left
    have hkept := hrounds.retains (hsame.retains hrounds.kept.accounted)
      (hrounds.kept.sameBooks hsame)
    cases e with
    | refused r =>
        have hbooks : SameBooks v (withRestored saved v₂) := by
          refine ⟨hsame.token, ?_⟩
          unfold withRestored
          rw [hsame.books]
          dsimp only
          rw [hback]
        exact hbooks.rounds hv
    | _ => exact hkept

def Plan.checkpoints (name : String) (plan : Plan) (v : StaticVault) : Nat :=
  (collect none).countAfter (fun _ => plan.settleCheckpoints name) v

theorem drifts_carryOut (plan : Plan) (hv : v.Exact) :
    plan.carryOut.Leaves v (fun _ v' => Drifts name (plan.checkpoints name v) v v')
      (fun e v' => ¬ e.IsOverflow → Drifts name (plan.checkpoints name v) v v') := by
  rw [Plan.leaves_carryOut_iff]
  exact drifts_after_collect hv fun v' hv' =>
    (rounds_settle plan hv').mono (fun _ _ h => h) (fun _ _ h _ => h)

/-!
# Claims
-/

def claimCheckpoints (name holder token : String) (forceUpdate : Bool) (v : StaticVault) : Nat :=
  if forceUpdate then
    (collect (some token)).countAfter (fun _ => payOutCheckpoints name holder token) v
  else payOutCheckpoints name holder token v

theorem drifts_claimRewards {forceUpdate : Bool} (hv : v.Exact) :
    (claimRewards holder token forceUpdate).Leaves v
      (fun _ v' => Drifts name (claimCheckpoints name holder token forceUpdate v) v v')
      (fun e v' => ¬ e.IsOverflow →
        Drifts name (claimCheckpoints name holder token forceUpdate v) v v') := by
  cases forceUpdate with
  | false =>
      rw [claimRewards_false]
      exact (rounds_payOut hv).mono (fun _ _ h => h.drifts hv.accounted)
        (fun _ _ h hsize => (h hsize).drifts hv.accounted)
  | true =>
      rw [claimRewards_true, Act.leaves_bind]
      exact drifts_after_collect hv fun v' hv' => rounds_payOut hv'

def accounts (v : StaticVault) (name : String) : Finset String :=
  (v.holders ++ (v.books.rewards.statesOf name).keys).toFinset

end StaticVault

namespace VaultCall

variable {v : StaticVault} {name : String} {c : VaultCall} {m : Act StaticVault StaticVault.Plan}

/-!
# Whole runs
-/

def checkpoints (name : String) (c : VaultCall) (v : StaticVault) : Nat :=
  match c with
  | claimRewards holder token forceUpdate =>
      StaticVault.claimCheckpoints name holder token forceUpdate v
  | c =>
      match c.plan? with
      | some m => m.countAfter (fun plan => plan.checkpoints name) v
      | none => 0

def Overflows (c : VaultCall) (v : StaticVault) : Prop :=
  ∃ e, (Act.run c.perform v).1 = .error e ∧ e.IsOverflow

instance (c : VaultCall) (v : StaticVault) : Decidable (c.Overflows v) :=
  decidable_of_iff (∃ r ∈ Act.refusal? (Act.run c.perform v).1, r.kind = .overflow)
    Act.exists_isOverflow_iff.symm

theorem drifts_of_plan (h : c.plan? = some m) (hv : v.Exact) :
    c.perform.Leaves v
      (fun _ v' => v.Drifts name (m.countAfter (fun plan => plan.checkpoints name) v) v')
      (fun e v' => ¬ e.IsOverflow →
        v.Drifts name (m.countAfter (fun plan => plan.checkpoints name) v) v') := by
  rw [leaves_perform_iff h]
  apply ((reads_plan h).counted fun plan => plan.checkpoints name).mono
  · intro plan v₁ h
    rcases h with ⟨⟨hreads, _⟩, hcount⟩
    have hsame := hreads.sameBooks hv.accounted.orderly.token
    rw [hcount]
    apply (StaticVault.drifts_carryOut plan (hv.sameBooks hsame)).mono
    · intro _ v' h
      exact h.of_books hsame.books
    · intro e v' h hsize
      exact (h hsize).of_books hsame.books
  · intro e v' h _
    exact ((h.sameBooks hv.accounted.orderly.token).rounds hv).drifts hv.accounted

theorem drifts_perform (c : VaultCall) (hv : v.Exact) :
    c.perform.Leaves v (fun _ v' => v.Drifts name (c.checkpoints name v) v')
      (fun e v' => ¬ e.IsOverflow → v.Drifts name (c.checkpoints name v) v') := by
  cases c with
  | claimRewards holder token forceUpdate =>
      exact Act.leaves_ending.mpr (StaticVault.drifts_claimRewards hv)
  | collect token =>
      apply Act.leaves_ending.mpr
      apply (StaticVault.drifts_collect hv).mono
      · intro _ v' h
        exact h.right 0 v' (StaticVault.Rounds.refl h.left)
      · intro e v' h hsize
        exact h hsize 0
  | onToken c =>
      have hsame : v.SameBooks { v with token := c.after v.token } :=
        ⟨TokenCall.honest_after c hv.accounted.orderly.token, rfl⟩
      have hdrifts : v.Drifts name 0 { v with token := c.after v.token } :=
        (hsame.rounds hv).drifts hv.accounted
      unfold perform
      rw [StaticVault.leaves_onToken]
      exact (Act.Leaves.of_state (p := fun s => v.Drifts name 0 { v with token := s }) hdrifts).mono
        (fun _ _ h => h) (fun _ _ h _ => h)
  | _ => exact drifts_of_plan rfl hv

theorem drifts_after (c : VaultCall) (hv : v.Exact) (hsize : ¬ c.Overflows v) :
    v.Drifts name (c.checkpoints name v) (c.after v) := by
  have hperform := @drifts_perform v name c hv
  unfold after
  rcases hrun : Act.run c.perform v with ⟨outcome, v'⟩
  cases outcome with
  | ok a => exact hperform.of_ok hrun
  | error e =>
      apply hperform.of_error hrun
      intro hover
      apply hsize
      refine ⟨e, ?_, hover⟩
      rw [hrun]

def checkpointsIn (name : String) : List VaultCall → StaticVault → Nat
  | [], _ => 0
  | c :: rest, v => c.checkpoints name v + checkpointsIn name rest (c.after v)

def NeverOverflows : List VaultCall → StaticVault → Prop
  | [], _ => True
  | c :: rest, v => ¬ c.Overflows v ∧ NeverOverflows rest (c.after v)

instance decidableNeverOverflows : (calls : List VaultCall) → (v : StaticVault) →
    Decidable (NeverOverflows calls v)
  | [], _ => inferInstanceAs (Decidable True)
  | c :: rest, v =>
      have := decidableNeverOverflows rest (c.after v)
      inferInstanceAs (Decidable (¬ c.Overflows v ∧ NeverOverflows rest (c.after v)))

theorem drifts_afterAll (name : String) (calls : List VaultCall) (hv : v.Exact)
    (hsizes : NeverOverflows calls v) :
    (afterAll calls v).Exact ∧ ∃ V : Finset String, (∀ x ∈ V, Text.lower x = x) ∧
      ∀ U : Finset String, (∀ x ∈ U, Text.lower x = x) → V ⊆ U →
        |(afterAll calls v).gap name U - v.gap name U| ≤
          ray / 2 * checkpointsIn name calls v + halfUnitsIn name calls v := by
  induction calls generalizing v with
  | nil =>
      refine ⟨hv, ∅, fun x hx => absurd hx (Finset.notMem_empty x), ?_⟩
      intro U _ _
      simp [afterAll, checkpointsIn, halfUnitsIn]
  | cons c rest ih =>
      rcases hsizes with ⟨hsize, hsizes⟩
      have hfirst := @drifts_after v name c hv hsize
      rcases ih hfirst.kept hsizes with ⟨hkept, V, hV, hrest⟩
      refine ⟨hkept, v.books.balances.shares.keys.toFinset ∪ V, ?_, ?_⟩
      · intro x hx
        rcases Finset.mem_union.mp hx with hx | hx
        · exact hv.accounted.units.small x (List.mem_toFinset.mp hx)
        · exact hV x hx
      · intro U hU hsubset
        have hkeys : ∀ x ∈ v.books.balances.shares.keys, x ∈ U := fun x hx =>
          hsubset (Finset.mem_union_left V (List.mem_toFinset.mpr hx))
        have hstep : |(c.after v).gap name U - v.gap name U| ≤
            ray / 2 * c.checkpoints name v + c.halfUnits name v := hfirst.gap U hU hkeys
        have hlater := hrest U hU (Finset.union_subset_right hsubset)
        have htriangle := abs_sub_le ((afterAll rest (c.after v)).gap name U)
          ((c.after v).gap name U) (v.gap name U)
        rw [checkpointsIn, halfUnitsIn, Nat.cast_add, mul_add]
        change |(afterAll rest (c.after v)).gap name U - _| ≤ _
        omega

/-!
# A vault from its opening on
-/

theorem exact_opened {s : DepositToken} {books opened : VaultBooks} (hs : s.Honest)
    (hbooks : IsUnused books) (hopen : StaticVault.open? s books = .ok opened) :
    StaticVault.Exact { token := s, books := opened } where
  accounted := (accounted_opened hs hbooks hopen).left
  received := by
    unfold StaticVault.open? at hopen
    dsimp only at hopen
    split at hopen
    · cases hopen
    · cases hopen
      intro name
      unfold StaticVault.heldOf RewardTracker.paidOut
      dsimp only
      rw [hbooks.rewards, hbooks.rewardBalances]
      rfl

/--
From a fresh token and an unused vault, after any calls of both, none of which
fails for the size of an amount: what the vault holds of a reward token and what
its holders were paid is what it has received, exactly. What they have accrued
and stand to accrue differs from what was spread by half a ray for each
checkpoint and half the units for each raise of the lifetime index, at most.
-/
theorem forwarded_rewards_conserved {origin : DepositToken} {books opened : VaultBooks}
    (horigin : IsFresh origin) (hbooks : IsUnused books) (earlier : List TokenCall)
    (hopen : StaticVault.open? (TokenCall.afterAll earlier origin) books = .ok opened)
    (calls : List VaultCall)
    (hsizes : NeverOverflows calls { token := TokenCall.afterAll earlier origin, books := opened }) :
    let start : StaticVault := { token := TokenCall.afterAll earlier origin, books := opened }
    let v := afterAll calls start
    ∀ token ∈ v.books.rewards.rewardTokens,
      let accounts := v.accounts token
      let state := v.books.rewards.tokenOf token
      (∃ held, v.rewardBalance token = .ok held ∧
        held + ∑ h ∈ accounts, (v.books.rewards.stateOf token h).claimed = state.lifetimeRewards) ∧
      |ray * ∑ h ∈ accounts, (v.books.rewards.stateOf token h).accrued +
          ∑ h ∈ accounts, v.unitsOf h *
            (state.lifetimeIndex - (v.books.rewards.stateOf token h).index) -
          ray * (state.lifetimeRewards - state.undistributed)| ≤
        ray / 2 * checkpointsIn token calls start + halfUnitsIn token calls start := by
  intro start v token _ accounts state
  have hs : start.token.Honest :=
    TokenCall.afterAll_induction (fun c _ hs => TokenCall.honest_after c hs)
      (honest_of_isFresh horigin) earlier
  rcases drifts_afterAll token calls (exact_opened hs hbooks hopen) hsizes with ⟨hv, V, hV, hgap⟩
  change v.Exact at hv
  have haccounts : ∀ x ∈ accounts, Text.lower x = x := by
    intro x hx
    rcases List.mem_append.mp (List.mem_toFinset.mp hx) with hx | hx
    · exact hv.accounted.units.small x hx
    · exact hv.accounted.orderly.rewards.accounts token x hx
  constructor
  · refine ⟨v.heldOf token, StaticVault.rewardBalance_of_orderly hv.accounted.orderly token, ?_⟩
    have hkeys : ∀ x ∈ (v.books.rewards.statesOf token).keys, x ∈ accounts := fun x hx =>
      List.mem_toFinset.mpr (List.mem_append_right _ hx)
    rw [← RewardTracker.paidOut_eq hkeys]
    exact (hv.received token).symm
  · have hsmall : ∀ x ∈ V ∪ accounts, Text.lower x = x := by
      intro x hx
      rcases Finset.mem_union.mp hx with hx | hx
      · exact hV x hx
      · exact haccounts x hx
    have hzero : start.gap token (V ∪ accounts) = 0 :=
      (accounted_opened hs hbooks hopen).right token (V ∪ accounts)
    have hholders : v.gap token (V ∪ accounts) = v.gap token accounts :=
      RewardTracker.gap_holders hsmall Finset.subset_union_right
    have hbound := hgap (V ∪ accounts) hsmall Finset.subset_union_left
    rw [hzero, Int.sub_zero] at hbound
    change |v.gap token (V ∪ accounts)| ≤ _ at hbound
    rw [hholders] at hbound
    unfold StaticVault.gap RewardTracker.gap RewardTracker.earning RewardTracker.spread at hbound
    rw [Finset.sum_add_distrib, ← Finset.mul_sum] at hbound
    exact hbound

/-- Two holders are paid a whole reward each, of the one that came in. -/
theorem forwarded_rewards_conserved_two_holders :
    let origin : DepositToken := .atOne (.plain .empty) (some (.empty 0))
    let earlier := [TokenCall.mint "pool" "alice" 1 ray, TokenCall.mint "pool" "bob" 1 ray]
    let books := VaultBooks.unused "vault"
    let calls := [deposit "alice" "alice" 1 false, deposit "bob" "bob" 1 false,
      transfer "bob" "alice" 2, onToken (.registerRewardToken "rwd"),
      onToken (.distributeRewards "rwd" 1), claimRewards "alice" "rwd" true,
      claimRewards "bob" "rwd" false]
    let start : StaticVault := { token := TokenCall.afterAll earlier origin, books := books }
    let v := afterAll calls start
    IsFresh origin ∧ IsUnused books ∧
      StaticVault.open? (TokenCall.afterAll earlier origin) books = .ok books ∧
      NeverOverflows calls start ∧ v.books.rewards.rewardTokens = ["rwd"] ∧
      checkpointsIn "rwd" calls start = 2 ∧ halfUnitsIn "rwd" calls start = 1 ∧
      ∀ token ∈ v.books.rewards.rewardTokens,
        let accounts := v.accounts token
        let state := v.books.rewards.tokenOf token
        (∃ held, v.rewardBalance token = .ok held ∧
          held + ∑ h ∈ accounts, (v.books.rewards.stateOf token h).claimed =
            state.lifetimeRewards) ∧
        |ray * ∑ h ∈ accounts, (v.books.rewards.stateOf token h).accrued +
            ∑ h ∈ accounts, v.unitsOf h *
              (state.lifetimeIndex - (v.books.rewards.stateOf token h).index) -
            ray * (state.lifetimeRewards - state.undistributed)| ≤
          ray / 2 * checkpointsIn token calls start + halfUnitsIn token calls start := by
  intro origin earlier books calls
  have horigin : IsFresh origin := ⟨rfl, _, rfl, rfl, rfl, rfl⟩
  have hbooks : IsUnused books := ⟨rfl, rfl, rfl, rfl⟩
  have hopen : StaticVault.open? (TokenCall.afterAll earlier origin) books = .ok books :=
    VaultBooks.open?_unused (by decide +kernel) (by decide)
  have hsizes : NeverOverflows calls
      { token := TokenCall.afterAll earlier origin, books := books } := by decide +kernel
  have hconserved := forwarded_rewards_conserved horigin hbooks earlier hopen calls hsizes
  refine ⟨horigin, hbooks, hopen, hsizes, ?_, ?_, ?_, hconserved⟩
  · decide +kernel
  · decide +kernel
  · decide +kernel

end VaultCall
end ReserveAccounting
