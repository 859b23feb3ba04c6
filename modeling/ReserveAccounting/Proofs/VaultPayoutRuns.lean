import ReserveAccounting.Proofs.VaultPayouts
import ReserveAccounting.Proofs.VaultPlans

/-!
# Payouts along a run

In every run of a vault and its token, what holders were paid of a reward token
exceeds what was collected by roundings alone: half a unit for each holder whose
index was moved, and half the supply, in rays, for each raise of the index.
-/

namespace ReserveAccounting

open FixedPoint

namespace StaticVault

variable {v v' : StaticVault}

/-!
# Readings
-/

theorem SameBooks.accounted (h : SameBooks v v') (hv : v.Accounted) : v'.Accounted :=
  (h.retains hv).accounted

theorem SameBooks.advances (h : SameBooks v v') (hv : v.Accounted) : Advances v v' :=
  (h.retains hv).settling.advances hv

theorem Reads.sameBooks (h : Reads v v') (hv : v.token.Honest) : SameBooks v v' where
  token := hv.of_keeps h.token
  books := h.books

/-!
# Plans
-/

theorem retains_planLegs (plan : Plan) (hv : v.Accounted)
    (hsettled : ∀ x ∈ plan.accounts, ∀ name, v.books.rewards.Settled name x) :
    plan.legs.Leaves v (fun _ v' => Retains v v') (fun _ v' => SameBooks v v') := by
  cases plan with
  | take depositor recipient amount units fromUnderlying =>
      exact retains_legs hv hsettled (sameBooks_takeTokens hv.orderly.token)
        (rebooks_mint hv.units)
  | release owner recipient units value toUnderlying =>
      exact retains_legs hv hsettled (sameBooks_releaseTokens hv.orderly.token)
        (rebooks_burn hv.units)
  | move sender recipient units =>
      exact retains_onBalances hv hsettled (rebooks_moveShares hv.units)

theorem advances_carryOut (plan : Plan) (hv : v.Accounted) :
    plan.carryOut.Leaves v (fun _ v' => Advances v v') (fun _ v' => Advances v v') := by
  have hchange := @advances_applyChange v plan.accounts plan.legs hv plan.accounts_small
    fun _ hv₁ _ hsettled => retains_planLegs plan hv₁ hsettled
  unfold Plan.carryOut
  rw [Act.leaves_bind]
  apply hchange.mono _ (fun _ _ h => h)
  intro _ v' h
  cases plan <;> exact h.withEvents

end StaticVault
namespace VaultCall

variable {v : StaticVault} {c : VaultCall} {m : Act StaticVault StaticVault.Plan}

/-!
# Whole runs
-/

theorem advances_of_plan (h : c.plan? = some m) (hv : v.Accounted) :
    c.perform.Leaves v (fun _ v' => v.Advances v') (fun _ v' => v.Advances v') := by
  rw [leaves_perform_iff h]
  apply (reads_plan h).mono
  · intro plan v₁ h
    have hsame := h.left.sameBooks hv.orderly.token
    exact (StaticVault.advances_carryOut plan (hsame.accounted hv)).mono
      (fun _ _ h => h.of_books hsame.books) (fun _ _ h => h.of_books hsame.books)
  · intro _ v' h
    exact (h.sameBooks hv.orderly.token).advances hv

theorem advances_after (c : VaultCall) (hv : v.Accounted) : v.Advances (c.after v) := by
  apply @Act.Leaves.state _ _ c.perform v v.Advances
  cases c with
  | claimRewards holder token forceUpdate =>
      exact Act.leaves_ending.mpr (StaticVault.advances_claimRewards hv)
  | collect token => exact Act.leaves_ending.mpr (StaticVault.advances_collect hv)
  | onToken c =>
      have hadvances : v.Advances { v with token := c.after v.token } :=
        (StaticVault.retains_of_token hv
          (TokenCall.honest_after c hv.orderly.token)).settling.advances hv
      unfold perform
      rw [StaticVault.leaves_onToken]
      exact Act.Leaves.of_state (p := fun s => v.Advances { v with token := s }) hadvances
  | _ => exact advances_of_plan rfl hv

/-- The holders whose index in a reward token a call moves. -/
def moved (name : String) (c : VaultCall) (v : StaticVault) : Nat :=
  (RewardTracker.movers name v.books.rewards (c.after v).books.rewards).card

/-- Half the units at a call that raises the lifetime index of a reward token. -/
def halfUnits (name : String) (c : VaultCall) (v : StaticVault) : Int :=
  if (v.books.rewards.tokenOf name).lifetimeIndex <
    ((c.after v).books.rewards.tokenOf name).lifetimeIndex then v.totalUnits / 2 else 0

def movedIn (name : String) : List VaultCall → StaticVault → Nat
  | [], _ => 0
  | c :: rest, v => c.moved name v + movedIn name rest (c.after v)

def halfUnitsIn (name : String) : List VaultCall → StaticVault → Int
  | [], _ => 0
  | c :: rest, v => c.halfUnits name v + halfUnitsIn name rest (c.after v)

theorem gap_afterAll_le (calls : List VaultCall) (hv : v.Accounted) :
    (afterAll calls v).Accounted ∧ ∀ name U, (∀ x ∈ U, Text.lower x = x) →
      (afterAll calls v).gap name U ≤
        v.gap name U + (ray / 2 * movedIn name calls v + halfUnitsIn name calls v) := by
  induction calls generalizing v with
  | nil =>
      refine ⟨hv, fun name U _ => ?_⟩
      simp [afterAll, movedIn, halfUnitsIn]
  | cons c rest ih =>
      have hfirst := advances_after c hv
      rcases ih hfirst.accounted with ⟨haccounted, hrest⟩
      refine ⟨haccounted, fun name U hU => ?_⟩
      have hstep : (c.after v).gap name U ≤
          v.gap name U + (ray / 2 * c.moved name v + c.halfUnits name v) := hfirst.gap name U hU
      have hlater := hrest name U hU
      rw [movedIn, halfUnitsIn, Nat.cast_add, mul_add]
      change (afterAll rest (c.after v)).gap name U ≤ _
      omega

/-!
# A vault from its opening on
-/

structure IsFresh (s : DepositToken) : Prop where
  shares : s.model.ledger = .empty
  program : ∃ p, s.rewards = some p ∧ p.tracker = .empty p.tracker.capacity ∧
    p.strayFactor = none ∧ DepositToken.requireProgram p = .ok ()

structure IsUnused (b : VaultBooks) : Prop where
  units : b.balances = .empty
  rewards : b.rewards = .empty b.rewards.capacity
  rewardBalances : b.rewardBalances = ∅
  strayBalances : b.strayBalances = []

theorem honest_of_isFresh {s : DepositToken} (h : IsFresh s) : s.Honest := by
  rcases h.program with ⟨p, hprogram, htracker, hstray, hfactor⟩
  refine ⟨?_, p, hprogram, ?_, ?_, hstray, ?_⟩
  · rw [h.shares]
    exact ShareLedger.sound_empty
  · rw [htracker]
    exact RewardTracker.sound_empty _
  · rw [htracker]
    exact RewardTracker.paysWithin_empty _
  · exact DepositToken.factor_of_requireProgram hstray hfactor

theorem accounted_opened {s : DepositToken} {books opened : VaultBooks} (hs : s.Honest)
    (hbooks : IsUnused books) (hopen : StaticVault.open? s books = .ok opened) :
    StaticVault.Accounted { token := s, books := opened } ∧ ∀ name U,
      StaticVault.gap { token := s, books := opened } name U = 0 := by
  unfold StaticVault.open? at hopen
  dsimp only at hopen
  split at hopen
  · cases hopen
  · cases hopen
    have hstate : ∀ name x, books.rewards.stateOf name x = .fresh := by
      intro name x
      rw [hbooks.rewards]
      rfl
    have htoken : ∀ name, books.rewards.tokenOf name = ⟨0, 0, 0, 0⟩ := by
      intro name
      rw [hbooks.rewards]
      rfl
    constructor
    · refine ⟨⟨hs, ?_, hbooks.strayBalances⟩, ?_, ?_, ?_, ?_⟩
      · dsimp only
        rw [hbooks.rewards]
        exact RewardTracker.sound_empty _
      · dsimp only
        rw [hbooks.units]
        exact ShareLedger.sound_empty
      · intro name x
        dsimp only
        rw [hstate]
        exact Int.le_refl 0
      · intro name x
        dsimp only
        rw [hstate, htoken]
        exact Int.le_refl 0
      · intro name
        unfold StaticVault.heldOf RewardTracker.paidOut
        dsimp only
        rw [htoken, hbooks.rewardBalances]
        simp only [hstate, HolderRewardState.fresh, Finset.sum_const_zero]
        exact Int.le_refl 0
    · intro name U
      unfold StaticVault.gap RewardTracker.gap RewardTracker.earning RewardTracker.spread
      dsimp only
      simp only [hstate, htoken, HolderRewardState.fresh]
      simp

theorem accounted_afterAll {origin : DepositToken} {books opened : VaultBooks}
    (horigin : IsFresh origin) (hbooks : IsUnused books) (earlier : List TokenCall)
    (hopen : StaticVault.open? (TokenCall.afterAll earlier origin) books = .ok opened)
    (calls : List VaultCall) :
    let start : StaticVault := { token := TokenCall.afterAll earlier origin, books := opened }
    (afterAll calls start).Accounted ∧ ∀ name U, (∀ x ∈ U, Text.lower x = x) →
      (afterAll calls start).gap name U ≤
        ray / 2 * movedIn name calls start + halfUnitsIn name calls start := by
  intro start
  have hs : (TokenCall.afterAll earlier origin).Honest :=
    TokenCall.afterAll_induction (p := DepositToken.Honest) (fun c _ hs => TokenCall.honest_after c hs)
      (honest_of_isFresh horigin) earlier
  have hopened : start.Accounted ∧ ∀ name U, start.gap name U = 0 :=
    accounted_opened hs hbooks hopen
  rcases gap_afterAll_le calls hopened.left with ⟨hv, hgaps⟩
  refine ⟨hv, fun name U hU => ?_⟩
  have hgap := hgaps name U hU
  rw [hopened.right, Int.zero_add] at hgap
  exact hgap

/--
From a fresh token and an unused vault, after any calls of both: what the vault
holds of a reward token falls below nothing by roundings alone, by half a unit
at most for each holder whose index was moved and by half the units, in rays,
for each raise of the lifetime index.
-/
theorem payouts_covered {origin : DepositToken} {books opened : VaultBooks} (horigin : IsFresh origin)
    (hbooks : IsUnused books) (earlier : List TokenCall)
    (hopen : StaticVault.open? (TokenCall.afterAll earlier origin) books = .ok opened)
    (calls : List VaultCall) (token : String) :
    let start : StaticVault := { token := TokenCall.afterAll earlier origin, books := opened }
    ∃ held, (afterAll calls start).rewardBalance token = .ok held ∧
      0 ≤ ray * held + ray / 2 * movedIn token calls start + halfUnitsIn token calls start := by
  intro start
  rcases accounted_afterAll horigin hbooks earlier hopen calls with ⟨hv, hgaps⟩
  generalize hrun : afterAll calls start = v at hv hgaps ⊢
  let U := (v.books.rewards.statesOf token).keys.toFinset
  have hU : ∀ x ∈ U, Text.lower x = x := fun x hx =>
    hv.orderly.rewards.accounts token x (List.mem_toFinset.mp hx)
  have hgap : v.gap token U ≤ ray / 2 * movedIn token calls start + halfUnitsIn token calls start :=
    hgaps token U hU
  have hpaid := RewardTracker.paidOut_le_of_gap hv.orderly.rewards hv.paid
    (fun x => hv.units.nonneg (Text.lower x)) (hv.grown token) hgap
  have hcovered : ray * (v.books.rewards.tokenOf token).lifetimeRewards ≤
      ray * (v.heldOf token + v.books.rewards.paidOut token) :=
    Int.mul_le_mul_of_nonneg_left (hv.covered token) (by decide)
  refine ⟨v.heldOf token, StaticVault.rewardBalance_of_orderly hv.orderly token, ?_⟩
  rw [mul_add] at hcovered
  omega

/-- Two holders of one unit each are paid a whole reward each, of the one that was collected. -/
theorem payouts_covered_two_holders :
    let origin : DepositToken := .atOne (.plain .empty) (some (.empty 0))
    let earlier := [TokenCall.mint "pool" "alice" 1 ray, TokenCall.mint "pool" "bob" 1 ray]
    let books := VaultBooks.unused "vault"
    let calls := [deposit "alice" "alice" 1 false, deposit "bob" "bob" 1 false,
      onToken (.registerRewardToken "rwd"), onToken (.distributeRewards "rwd" 1),
      claimRewards "alice" "rwd" true, claimRewards "bob" "rwd" true]
    let start : StaticVault := { token := TokenCall.afterAll earlier origin, books := books }
    IsFresh origin ∧ IsUnused books ∧
      StaticVault.open? (TokenCall.afterAll earlier origin) books = .ok books ∧
      movedIn "rwd" calls start = 2 ∧ halfUnitsIn "rwd" calls start = 1 ∧
      ∃ held, (afterAll calls start).rewardBalance "rwd" = .ok held ∧ held = -1 ∧
        0 ≤ ray * held + ray / 2 * movedIn "rwd" calls start + halfUnitsIn "rwd" calls start := by
  intro origin earlier books calls start
  have horigin : IsFresh origin := ⟨rfl, _, rfl, rfl, rfl, rfl⟩
  have hbooks : IsUnused books := ⟨rfl, rfl, rfl, rfl⟩
  have hopen : StaticVault.open? (TokenCall.afterAll earlier origin) books = .ok books :=
    VaultBooks.open?_unused (by decide +kernel) (by decide)
  have hmoved : movedIn "rwd" calls start = 2 := by decide +kernel
  have hhalves : halfUnitsIn "rwd" calls start = 1 := by decide +kernel
  have hbalance : (afterAll calls start).rewardBalance "rwd" = .ok (-1) :=
    Act.eq_ok_of_toOption (by decide +kernel)
  rcases payouts_covered horigin hbooks earlier hopen calls "rwd" with ⟨held, hheld, hbound⟩
  have hheldEq : held = -1 := by
    have heq := hheld.symm.trans hbalance
    cases heq
    rfl
  exact ⟨horigin, hbooks, hopen, hmoved, hhalves, held, hheld, hheldEq, hbound⟩

/-- The vault has paid one unit more of a reward token than it has collected. -/
theorem payouts_exceed_collected :
    let origin : DepositToken := .atOne (.plain .empty) (some (.empty 0))
    let earlier := [TokenCall.mint "pool" "alice" 1 ray, TokenCall.mint "pool" "bob" 1 ray]
    let books := VaultBooks.unused "vault"
    let calls := [deposit "alice" "alice" 1 false, deposit "bob" "bob" 1 false,
      onToken (.registerRewardToken "rwd"), onToken (.distributeRewards "rwd" 1),
      claimRewards "alice" "rwd" true, claimRewards "bob" "rwd" true]
    let start : StaticVault := { token := TokenCall.afterAll earlier origin, books := books }
    IsFresh origin ∧ IsUnused books ∧
      StaticVault.open? (TokenCall.afterAll earlier origin) books = .ok books ∧
      ∃ held, (afterAll calls start).rewardBalance "rwd" = .ok held ∧ ¬ 0 ≤ held := by
  intro origin earlier books calls start
  have hopen : StaticVault.open? (TokenCall.afterAll earlier origin) books = .ok books :=
    VaultBooks.open?_unused (by decide +kernel) (by decide)
  refine ⟨⟨rfl, _, rfl, rfl, rfl, rfl⟩, ⟨rfl, rfl, rfl, rfl⟩, hopen, -1, ?_, by decide⟩
  exact Act.eq_ok_of_toOption (by decide +kernel)

end VaultCall
end ReserveAccounting
