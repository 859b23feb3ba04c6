import ReserveAccounting.Proofs.VaultPayoutRuns

/-!
# What a claim pays and what the view shows

A claim collects, spreads and checkpoints; the view computes the outcome
without doing so. Where the claim has something to collect, in a reward token
that the vault has registered, the two differ by one rounding.
-/

namespace ReserveAccounting

open FixedPoint

namespace StaticVault

variable {v v' : StaticVault} {holder token name : String} {p : RewardProgram}

/-!
# The view
-/

def growth (v : StaticVault) (name x : String) : Int :=
  (v.books.rewards.tokenOf name).lifetimeIndex - (v.books.rewards.stateOf name x).index

def partOf (v : StaticVault) (holder : String) (amount : Int) : Except Fault Int := do
  let increment ← (rayDiv amount v.totalUnits).mapError Fault.ofRefusal
  (rayMul (v.unitsOf holder) increment).mapError Fault.ofRefusal

theorem partOf_eq_ok {amount part : Int} :
    v.partOf holder amount = .ok part ↔ ∃ increment,
      rayDiv amount v.totalUnits = .ok increment ∧
        rayMul (v.unitsOf holder) increment = .ok part := by
  unfold partOf
  cases hincrement : rayDiv amount v.totalUnits with
  | error e => simp [Except.mapError, bind, Except.bind]
  | ok increment =>
      cases hpart : rayMul (v.unitsOf holder) increment <;>
        simp [Except.mapError, bind, Except.bind, hpart]

theorem claimableRewards_of_not_mem (hv : v.Orderly)
    (h : Text.lower token ∉ v.books.rewards.rewardTokens) :
    v.claimableRewards holder token = .ok 0 := by
  unfold claimableRewards
  simp only [Table.contains_iff_mem_keys, hv.rewards.tokens]
  rw [if_neg h]

theorem claimableRewards_of_mem {earned : Int} (hv : v.Orderly)
    (h : Text.lower token ∈ v.books.rewards.rewardTokens)
    (hearned : rayMul (v.unitsOf holder) (v.growth (Text.lower token) (Text.lower holder)) =
      .ok earned) :
    v.claimableRewards holder token =
      let settled := (v.books.rewards.stateOf (Text.lower token) (Text.lower holder)).claimable
      if v.totalUnits = 0 then .ok (settled + earned)
      else (do
        let waiting ← v.uncollected (Text.lower token)
        let part ← v.partOf holder
          (waiting + (v.books.rewards.tokenOf (Text.lower token)).undistributed)
        .ok (settled + earned + part)) := by
  have hname : Text.lower (Text.lower token) ∈ v.books.rewards.rewardTokens := by
    rw [Text.lower_lower]
    exact h
  have hparked : v.books.rewards.undistributed (Text.lower token) =
      .ok (v.books.rewards.tokenOf (Text.lower token)).undistributed := by
    unfold RewardTracker.undistributed
    rw [RewardTracker.tokenState_of_mem hv.rewards hname, Text.lower_lower]
    exact RewardTracker.tokenFigure_of_sound hv.rewards _ _ .undistributed
  unfold claimableRewards
  simp only [Table.contains_iff_mem_keys, hv.rewards.tokens]
  rw [if_pos h, RewardTracker.claimableOf_of_mem hv.rewards hname,
    RewardTracker.previewAccrual_of_mem hv.rewards _ hname, Text.lower_lower, hparked]
  unfold growth at hearned
  rw [hearned]
  unfold partOf
  simp only [bind_assoc]
  rfl

/-!
# The claim
-/

/-- What a holder is paid if its lifetime index has been raised by an increment. -/
def PaysAt (v : StaticVault) (holder name : String) (increment paid : Int) : Prop :=
  ∃ earned, rayMul (v.unitsOf holder) (v.growth name (Text.lower holder) + increment) = .ok earned ∧
    paid = (v.books.rewards.stateOf name (Text.lower holder)).claimable + earned

theorem claimableRewards_of_uncollected {received : Int} (hprogram : v.token.rewards = some p)
    (hp : p.Honest) (hmem : name ∈ p.tracker.rewardTokens)
    (hreceived : v.uncollected name = .ok received) :
    ∃ pending, v.token.claimableRewards v.books.address name = .ok pending := by
  rw [uncollected_eq hprogram hp, if_pos hmem] at hreceived
  cases hpending : v.token.claimableRewards v.books.address name with
  | ok pending => exact ⟨pending, rfl⟩
  | error e =>
      rw [hpending] at hreceived
      cases hreceived

theorem uncollected_of_nothing (hprogram : v.token.rewards = some p) (hp : p.Honest)
    (hmem : name ∈ p.tracker.rewardTokens)
    (hpending : v.token.claimableRewards v.books.address name = .ok 0) :
    v.uncollected name = .ok 0 := by
  have hcut : percentMul 0 p.reserveFactor = .ok 0 :=
    percentMul_zero hp.factor.left (hp.factor.right.trans (by decide))
  rw [uncollected_eq hprogram hp, if_pos hmem, hpending]
  change (do
    let cut ← (percentMul 0 p.reserveFactor).mapError Fault.ofRefusal
    .ok (0 - cut) : Except Fault Int) = _
  rw [hcut]
  rfl

/--
A claim that collects first pays at the index as it is, if the deposit token
has nothing for the vault, and else at the index that the amount received raises.
-/
theorem leaves_claimRewards_true (hv : v.Orderly) (hprogram : v.token.rewards = some p)
    (hmem : Text.lower token ∈ p.tracker.rewardTokens) :
    (claimRewards holder token true).Leaves v
      (fun c _ => ∃ pending,
        v.token.claimableRewards v.books.address (Text.lower token) = .ok pending ∧
        (pending = 0 ∧ v.PaysAt holder (Text.lower token) 0 c.claimable ∨
          pending ≠ 0 ∧ ∃ received increment, v.uncollected (Text.lower token) = .ok received ∧
            (if 0 < v.totalUnits then
              rayDiv (received + (v.books.rewards.tokenOf (Text.lower token)).undistributed)
                v.totalUnits else .ok 0) = .ok increment ∧
            v.PaysAt holder (Text.lower token) increment c.claimable))
      (fun _ _ => True) := by
  rcases hv.token.program with ⟨p', hprogram', hp⟩
  rw [hprogram] at hprogram'
  cases hprogram'
  rw [claimRewards_true, Act.leaves_bind]
  apply (leaves_collect hv).mono _ (fun _ _ _ => trivial)
  intro _ v₁ h
  rcases h with ⟨hgathers, hcollected⟩
  have hunits : v₁.unitsOf (Text.lower holder) = v.unitsOf holder := by
    unfold unitsOf
    rw [hgathers.quiet.balances, ShareLedger.sharesOf_eq_held, ShareLedger.sharesOf_eq_held,
      Text.lower_lower]
  apply (leaves_payOut hgathers.orderly).mono _ (fun _ _ _ => trivial)
  intro c _ h
  rcases h with ⟨_, s, _, ⟨earned, hearned, rfl⟩, hclaimable, _⟩
  rw [hunits, hgathers.states] at hearned
  rw [hgathers.states] at hclaimable
  have hpays : ∀ increment, (v₁.books.rewards.tokenOf (Text.lower token)).lifetimeIndex =
      (v.books.rewards.tokenOf (Text.lower token)).lifetimeIndex + increment →
      v.PaysAt holder (Text.lower token) increment c.claimable := by
    intro increment hindex
    rw [hindex, add_sub_right_comm] at hearned
    refine ⟨earned, hearned, ?_⟩
    rw [hclaimable]
    unfold HolderRewardState.claimable
    dsimp only
    omega
  rcases hcollected token p rfl hprogram hmem with
    ⟨hnothing, hindex, _⟩ | ⟨hsome, received, _, hreceived, _, increment, hincrement, hstate⟩
  · refine ⟨0, hnothing, Or.inl ⟨rfl, hpays 0 ?_⟩⟩
    rw [hindex, Int.add_zero]
  · rcases claimableRewards_of_uncollected hprogram hp hmem hreceived with ⟨pending, hpending⟩
    refine ⟨pending, hpending, Or.inr ⟨?_, received, increment, hreceived, hincrement, hpays _ ?_⟩⟩
    · rintro rfl
      exact hsome hpending
    · rw [hstate]

/-!
# The view and the claim
-/

theorem abs_view_sub_le {received increment paid : Int} (hv : v.Accounted)
    (hmem : name ∈ v.books.rewards.rewardTokens) (hreceived : v.uncollected name = .ok received)
    (hincrement : (if 0 < v.totalUnits then
      rayDiv (received + (v.books.rewards.tokenOf name).undistributed) v.totalUnits
      else .ok 0) = .ok increment)
    (hpays : v.PaysAt holder name increment paid) (hname : Text.lower token = name) :
    ∃ shown, v.claimableRewards holder token = .ok shown ∧ |paid - shown| ≤ 1 := by
  subst hname
  rcases hpays with ⟨earned, hearned, rfl⟩
  have hgrowth : 0 ≤ v.growth (Text.lower token) (Text.lower holder) := by
    have hgrown := hv.grown (Text.lower token) (Text.lower holder)
    unfold growth
    omega
  have hnonneg : 0 ≤ increment := by
    split at hincrement
    · exact rayDiv_nonneg hincrement
    · cases hincrement
      exact Int.le_refl 0
  rcases rayMul_of_le_right hearned hgrowth (by omega) with ⟨accrued, haccrued⟩
  rcases rayMul_of_le_right hearned hnonneg (by omega) with ⟨part, hpart⟩
  have hclose := abs_rayMul_add_sub_le hearned haccrued hpart
  rw [claimableRewards_of_mem hv.orderly hmem haccrued]
  dsimp only
  by_cases hunits : v.totalUnits = 0
  · rw [if_neg (by omega)] at hincrement
    cases hincrement
    rw [Int.add_zero, haccrued] at hearned
    cases hearned
    rw [if_pos hunits]
    exact ⟨_, rfl, by simp⟩
  · have htotal : 0 ≤ v.totalUnits := hv.units.totalShares_nonneg
    rw [if_pos (by omega)] at hincrement
    have hpartOf := (@partOf_eq_ok v holder _ part).mpr ⟨increment, hincrement, hpart⟩
    rw [if_neg hunits, hreceived]
    change ∃ shown, (do
      let part ← v.partOf holder _
      .ok (_ + part) : Except Fault Int) = _ ∧ _
    rw [hpartOf]
    refine ⟨_, rfl, ?_⟩
    rw [abs_le] at hclose ⊢
    omega

/-- With nothing to collect, the view adds the part in what is parked, which the claim leaves. -/
theorem view_of_nothing {paid : Int} (hv : v.Orderly) (hprogram : v.token.rewards = some p)
    (hp : p.Honest) (hmem : Text.lower token ∈ p.tracker.rewardTokens)
    (hregistered : Text.lower token ∈ v.books.rewards.rewardTokens)
    (hpending : v.token.claimableRewards v.books.address (Text.lower token) = .ok 0)
    (hpays : v.PaysAt holder (Text.lower token) 0 paid) :
    v.claimableRewards holder token =
      if v.totalUnits = 0 then .ok paid
      else (do
        let part ← v.partOf holder (v.books.rewards.tokenOf (Text.lower token)).undistributed
        .ok (paid + part)) := by
  rcases hpays with ⟨earned, hearned, rfl⟩
  rw [Int.add_zero] at hearned
  rw [claimableRewards_of_mem hv hregistered hearned, uncollected_of_nothing hprogram hp hmem hpending]
  change (if v.totalUnits = 0 then _ else (do
    let part ← v.partOf holder (0 + _)
    .ok (_ + part) : Except Fault Int)) = _
  rw [Int.zero_add]

theorem partOf_nothing {increment earned : Int} (hunits : 0 < v.totalUnits)
    (hmax : v.totalUnits ≤ maxAmount) (h : rayMul (v.unitsOf holder) increment = .ok earned) :
    v.partOf holder 0 = .ok 0 :=
  partOf_eq_ok.mpr ⟨0, rayDiv_zero hunits hmax, rayMul_zero_of_ok h⟩

theorem paysAt_of_not_mem {increment paid : Int} (hv : v.Orderly)
    (h : name ∉ v.books.rewards.rewardTokens) :
    v.PaysAt holder name increment paid ↔ rayMul (v.unitsOf holder) increment = .ok paid := by
  have hstate : ∀ x, v.books.rewards.stateOf name x = .fresh := by
    intro x
    unfold RewardTracker.stateOf
    rw [RewardTracker.statesOf_of_not_mem hv.rewards h]
    rfl
  unfold PaysAt growth
  rw [RewardTracker.tokenOf_of_not_mem hv.rewards h, hstate]
  constructor
  · intro hpays
    rcases hpays with ⟨earned, hearned, rfl⟩
    simpa [HolderRewardState.fresh, HolderRewardState.claimable] using hearned
  · intro hearned
    refine ⟨paid, ?_, ?_⟩
    · simpa [HolderRewardState.fresh] using hearned
    · simp [HolderRewardState.fresh, HolderRewardState.claimable]

end StaticVault

namespace VaultCall

variable {v : StaticVault} {holder token : String} {p : RewardProgram}

def Reachable (v : StaticVault) : Prop :=
  ∃ origin books opened earlier calls, IsFresh origin ∧ IsUnused books ∧
    StaticVault.open? (TokenCall.afterAll earlier origin) books = .ok opened ∧
    v = afterAll calls { token := TokenCall.afterAll earlier origin, books := opened }

theorem accounted_of_reachable (h : Reachable v) : v.Accounted := by
  rcases h with ⟨origin, books, opened, earlier, calls, horigin, hbooks, hopen, rfl⟩
  exact (accounted_afterAll horigin hbooks earlier hopen calls).left

/--
In a vault that has registered the token, a claim is one unit off the view at
most, unless nothing is to be collected while an earlier amount is parked: the
view then adds a part of it. In a vault that has not, the view shows nothing,
and a claim pays a part of what is to be collected.
-/
theorem claim_against_view {c : RewardClaim} {v' : StaticVault} (hv : Reachable v)
    (hprogram : v.token.rewards = some p) (hmem : Text.lower token ∈ p.tracker.rewardTokens)
    (hrun : Act.run (StaticVault.claimRewards holder token true) v = (.ok c, v')) :
    let name := Text.lower token
    let parked := (v.books.rewards.tokenOf name).undistributed
    ∃ pending, v.token.claimableRewards v.books.address name = .ok pending ∧
      (name ∈ v.books.rewards.rewardTokens →
        (pending ≠ 0 ∨ v.totalUnits = 0 → ∃ shown,
          v.claimableRewards holder token = .ok shown ∧ |c.claimable - shown| ≤ 1) ∧
        (pending = 0 → parked = 0 → v.totalUnits ≤ maxAmount →
          v.claimableRewards holder token = .ok c.claimable) ∧
        (pending = 0 → v.totalUnits ≠ 0 →
          v.claimableRewards holder token = (do
            let part ← v.partOf holder parked
            .ok (c.claimable + part)))) ∧
      (name ∉ v.books.rewards.rewardTokens →
        v.claimableRewards holder token = .ok 0 ∧
        (pending = 0 ∨ v.totalUnits = 0 → c.claimable = 0) ∧
        (pending ≠ 0 → v.totalUnits ≠ 0 → ∃ received,
          v.uncollected name = .ok received ∧ v.partOf holder received = .ok c.claimable)) := by
  intro name parked
  have haccounted := accounted_of_reachable hv
  have horderly := haccounted.orderly
  have htotal : 0 ≤ v.totalUnits := haccounted.units.totalShares_nonneg
  rcases horderly.token.program with ⟨p', hprogram', hp⟩
  rw [hprogram] at hprogram'
  cases hprogram'
  rcases (StaticVault.leaves_claimRewards_true horderly hprogram hmem).of_ok hrun with
    ⟨pending, hpending, hpays⟩
  refine ⟨pending, hpending, fun hregistered => ?_, fun hunknown => ?_⟩
  · rcases hpays with ⟨rfl, hpays⟩ | ⟨hsome, received, increment, hreceived, hincrement, hpays⟩
    · have hview := StaticVault.view_of_nothing horderly hprogram hp hmem hregistered hpending hpays
      refine ⟨?_, ?_, ?_⟩
      · intro h
        have hunits : v.totalUnits = 0 := h.resolve_left fun hne => hne rfl
        rw [if_pos hunits] at hview
        exact ⟨_, hview, by simp⟩
      · intro _ hparked hmax
        by_cases hunits : v.totalUnits = 0
        · rw [hview, if_pos hunits]
        · rcases hpays with ⟨earned, hearned, _⟩
          have hpart := StaticVault.partOf_nothing (by omega) hmax hearned
          change (v.books.rewards.tokenOf name).undistributed = 0 at hparked
          rw [hview, if_neg hunits, hparked, hpart]
          change Except.ok _ = Except.ok _
          rw [Int.add_zero]
      · intro _ hunits
        rw [hview, if_neg hunits]
    · refine ⟨fun _ => ?_, fun hzero => absurd hzero hsome, fun hzero => absurd hzero hsome⟩
      exact StaticVault.abs_view_sub_le haccounted hregistered hreceived hincrement hpays rfl
  · refine ⟨StaticVault.claimableRewards_of_not_mem horderly hunknown, ?_, ?_⟩
    · intro h
      have hzero : v.PaysAt holder name 0 c.claimable := by
        rcases hpays with ⟨_, hpays⟩ | ⟨hsome, _, increment, _, hincrement, hpays⟩
        · exact hpays
        · have hunits : v.totalUnits = 0 := h.resolve_left hsome
          rw [if_neg (by omega)] at hincrement
          cases hincrement
          exact hpays
      rw [StaticVault.paysAt_of_not_mem horderly hunknown] at hzero
      exact eq_zero_of_rayMul_zero hzero
    · intro hsome hunits
      rcases hpays with ⟨hzero, _⟩ | ⟨_, received, increment, hreceived, hincrement, hpays⟩
      · exact absurd hzero hsome
      · rw [if_pos (by omega), RewardTracker.tokenOf_of_not_mem horderly.rewards hunknown,
          Int.add_zero] at hincrement
        rw [StaticVault.paysAt_of_not_mem horderly hunknown] at hpays
        exact ⟨received, hreceived, StaticVault.partOf_eq_ok.mpr ⟨increment, hincrement, hpays⟩⟩

/-- The first reward of all is shown to nobody and paid in full; the next one is shown as it is paid. -/
theorem claim_against_view_first_rewards :
    let origin : DepositToken := .atOne (.plain .empty) (some (.empty 0))
    let earlier := [TokenCall.mint "pool" "alice" 100 ray]
    let books := VaultBooks.unused "vault"
    let calls := [deposit "alice" "alice" 100 false, onToken (.registerRewardToken "rwd"),
      onToken (.distributeRewards "rwd" 100)]
    let later := [claimRewards "alice" "rwd" true, onToken (.distributeRewards "rwd" 50)]
    let v := afterAll calls { token := TokenCall.afterAll earlier origin, books := books }
    let w := afterAll (calls ++ later)
      { token := TokenCall.afterAll earlier origin, books := books }
    (Reachable v ∧ (∃ p, v.token.rewards = some p ∧ Text.lower "rwd" ∈ p.tracker.rewardTokens) ∧
      ∃ c v', Act.run (StaticVault.claimRewards "alice" "rwd" true) v = (.ok c, v') ∧
        c.claimable = 100 ∧ v.claimableRewards "alice" "rwd" = .ok 0 ∧ ∃ received,
          v.uncollected (Text.lower "rwd") = .ok received ∧
            v.partOf "alice" received = .ok c.claimable) ∧
    Reachable w ∧ (∃ p, w.token.rewards = some p ∧ Text.lower "rwd" ∈ p.tracker.rewardTokens) ∧
      ∃ c w', Act.run (StaticVault.claimRewards "alice" "rwd" true) w = (.ok c, w') ∧
        c.claimable = 50 ∧ ∃ shown, w.claimableRewards "alice" "rwd" = .ok shown ∧
          |c.claimable - shown| ≤ 1 := by
  intro origin earlier books calls later v w
  have horigin : IsFresh origin := ⟨rfl, _, rfl, rfl, rfl, rfl⟩
  have hbooks : IsUnused books := ⟨rfl, rfl, rfl, rfl⟩
  have hopen : StaticVault.open? (TokenCall.afterAll earlier origin) books = .ok books :=
    VaultBooks.open?_unused (by decide +kernel) (by decide)
  have hv : Reachable v := ⟨origin, books, books, earlier, calls, horigin, hbooks, hopen, rfl⟩
  have hw : Reachable w :=
    ⟨origin, books, books, earlier, calls ++ later, horigin, hbooks, hopen, rfl⟩
  have hname : Text.lower "rwd" = "rwd" := by decide +kernel
  have hlisted : ∀ s : DepositToken,
      (s.rewards.map fun p => p.tracker.rewardTokens) = some ["rwd"] →
      ∃ p, s.rewards = some p ∧ Text.lower "rwd" ∈ p.tracker.rewardTokens := by
    intro s h
    rcases Option.map_eq_some_iff.mp h with ⟨p, hprogram, htokens⟩
    refine ⟨p, hprogram, ?_⟩
    rw [htokens, hname]
    exact List.mem_singleton.mpr rfl
  have hfirst := hlisted v.token (by decide +kernel)
  have hlater := hlisted w.token (by decide +kernel)
  have hclaim : ∃ v', Act.run (StaticVault.claimRewards "alice" "rwd" true) v =
      (.ok ⟨"alice", "rwd", 100, 0⟩, v') := Act.exists_run_of_toOption (by decide +kernel)
  have hclaim' : ∃ w', Act.run (StaticVault.claimRewards "alice" "rwd" true) w =
      (.ok ⟨"alice", "rwd", 50, 0⟩, w') := Act.exists_run_of_toOption (by decide +kernel)
  have hpending : v.token.claimableRewards v.books.address (Text.lower "rwd") = .ok 100 :=
    Act.eq_ok_of_toOption (by decide +kernel)
  have hpending' : w.token.claimableRewards w.books.address (Text.lower "rwd") = .ok 50 :=
    Act.eq_ok_of_toOption (by decide +kernel)
  have hunknown : Text.lower "rwd" ∉ v.books.rewards.rewardTokens := by decide +kernel
  have hregistered : Text.lower "rwd" ∈ w.books.rewards.rewardTokens := by decide +kernel
  have hunits : v.totalUnits ≠ 0 := by decide +kernel
  clear_value v w
  constructor
  · refine ⟨hv, hfirst, ?_⟩
    rcases hfirst with ⟨p, hprogram, hmem⟩
    rcases hclaim with ⟨v', hrun⟩
    rcases claim_against_view hv hprogram hmem hrun with ⟨pending, hsame, _, hfresh⟩
    rw [hpending] at hsame
    cases hsame
    rcases hfresh hunknown with ⟨hview, _, hpart⟩
    exact ⟨_, _, hrun, rfl, hview, hpart (by decide) hunits⟩
  · refine ⟨hw, hlater, ?_⟩
    rcases hlater with ⟨p, hprogram, hmem⟩
    rcases hclaim' with ⟨w', hrun⟩
    rcases claim_against_view hw hprogram hmem hrun with ⟨pending, hsame, hknown, _⟩
    rw [hpending'] at hsame
    cases hsame
    exact ⟨_, _, hrun, rfl, (hknown hregistered).left (Or.inl (by decide))⟩

end VaultCall
end ReserveAccounting
