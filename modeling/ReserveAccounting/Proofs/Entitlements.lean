import ReserveAccounting.Proofs.RewardConservation

/-!
# Entitlements

A holder is entitled to its basis times every raise of a lifetime index, credited
at the distribution itself. The tracker credits it later, at checkpoints, and
rounds each time. What a holder has accrued and stands to accrue keeps within
half a ray of the entitlement for each checkpoint of that holder.
-/

namespace ReserveAccounting

open FixedPoint

namespace RewardTracker

variable {t t' : RewardTracker} {name x y : String} {basisOf basisOf' : String → Int}

/-!
# What one holder earns
-/

theorem earning_withToken (s : RewardTokenState) :
    (t.withToken y s).earning name basisOf x = t.earning name basisOf x +
      if name = y then basisOf x * (s.lifetimeIndex - (t.tokenOf name).lifetimeIndex) else 0 := by
  have hstate : (t.withToken y s).stateOf name x = t.stateOf name x := rfl
  unfold earning
  rw [tokenOf_withToken, hstate]
  split
  · ring
  · omega

theorem earning_basis (h : basisOf' x = basisOf x ∨ t.Settled name x) :
    t.earning name basisOf' x = t.earning name basisOf x := by
  unfold earning
  rcases h with hsame | hsettled
  · rw [hsame]
  · rw [hsettled, Int.sub_self, Int.mul_zero, Int.mul_zero]

theorem earning_of_differsAt {p : String → String → Prop} (h : t.DiffersAt p t') (hx : ¬ p name x) :
    t'.earning name basisOf x = t.earning name basisOf x := by
  have hstate : t'.stateOf name x = t.stateOf name x := by
    unfold stateOf Table.getD
    rw [(h.states name).get x hx]
  unfold earning
  rw [h.tokenOf_eq, hstate]

theorem abs_earning_checkpoint_le (ht : t.Sound) {token : String} (hx : Text.lower x = x) :
    |(Act.run (checkpoint x token (basisOf x)) t).2.earning name basisOf x -
        t.earning name basisOf x| ≤ ray / 2 * checkpointCount name x token (basisOf x) t := by
  unfold checkpointCount
  rcases hrun : Act.run (checkpoint x token (basisOf x)) t with ⟨outcome, t'⟩
  cases outcome with
  | ok _ =>
      rcases (leaves_checkpoint ht).of_ok hrun with ⟨hmem, s, ⟨earned, hearned, rfl⟩, rfl⟩
      rw [hx] at hearned ⊢
      dsimp only
      rw [earning_withHolder]
      by_cases hname : name = Text.lower token
      · subst hname
        have hrounding := abs_rayMul_sub_le hearned
        rw [if_pos ⟨rfl, rfl⟩, if_pos rfl, Int.sub_self, Int.mul_zero]
        unfold earning
        rw [mul_add, Nat.cast_one, mul_one]
        convert hrounding using 2
        omega
      · rw [if_neg fun h => hname h.left, if_neg (Ne.symm hname)]
        simp
  | error _ =>
      have hearning : t'.earning name basisOf x = t.earning name basisOf x := by
        rcases (leaves_checkpoint ht).of_error hrun with rfl | ⟨_, rfl⟩
        · rfl
        · rw [earning_withHolder, hx]
          split
          · next h =>
              rw [← h.left]
              rfl
          · rfl
      rw [hearning]
      simp

def checkpointAllCountOf (name x y : String) (basis : Int) (t : RewardTracker) : Nat :=
  if y = x then checkpointAllCount name y basis t else 0

def checkpointHoldersCountOf (name x : String) (basisOf : String → Int) (accounts : List String)
    (t : RewardTracker) : Nat :=
  Act.tally (saveAndCheckpoint basisOf)
    (fun y => checkpointAllCountOf name x y (basisOf y)) accounts.eraseDups t

theorem abs_earning_checkpointAll_le (ht : t.Sound) (hy : Text.lower y = y) :
    |(Act.run (checkpointAll y (basisOf y)) t).2.earning name basisOf x -
        t.earning name basisOf x| ≤ ray / 2 * checkpointAllCountOf name x y (basisOf y) t := by
  unfold checkpointAllCountOf
  by_cases hxy : y = x
  · subst hxy
    rw [if_pos rfl]
    apply @Act.Leaves.state _ _ (checkpointAll y (basisOf y)) t fun t' =>
      |t'.earning name basisOf y - t.earning name basisOf y| ≤
        ray / 2 * checkpointAllCount name y (basisOf y) t
    rw [checkpointAll_eq, Act.leaves_bind, Act.leaves_current]
    apply Act.leaves_forEach
    apply @Act.leaves_mapEach_tally _ _ _ _ (t.checkpointListed y (basisOf y))
      (fun token => checkpointCount name y token (basisOf y)) Sound
      (fun t => t.earning name basisOf y) (ray / 2) t.rewardTokens
    · intro token _ t' ht'
      rw [state_checkpointListed ht]
      exact ⟨sound_checkpoint ht', abs_earning_checkpoint_le ht' hy⟩
    · exact ht
  · have hsettles : t.Settles basisOf (fun _ z => z = y)
        (Act.run (checkpointAll y (basisOf y)) t).2 := by
      apply @Act.Leaves.state _ _ (checkpointAll y (basisOf y)) t (t.Settles basisOf fun _ z => z = y)
      have hsettles := @settles_checkpointAll t basisOf (fun _ z => z = y) y ht hy fun _ _ => rfl
      exact hsettles.mono (fun _ _ h => h.left) (fun _ _ h => h)
    rw [earning_of_differsAt hsettles.differs (Ne.symm hxy), if_neg hxy]
    simp

theorem abs_earning_checkpointHolders_le (ht : t.Sound) {accounts : List String}
    (hsmall : ∀ y ∈ accounts, Text.lower y = y) :
    |(Act.run (checkpointHolders basisOf accounts) t).2.earning name basisOf x -
        t.earning name basisOf x| ≤
      ray / 2 * checkpointHoldersCountOf name x basisOf accounts t := by
  apply @Act.Leaves.state _ _ (checkpointHolders basisOf accounts) t fun t' =>
    |t'.earning name basisOf x - t.earning name basisOf x| ≤
      ray / 2 * checkpointHoldersCountOf name x basisOf accounts t
  rw [checkpointHolders_eq, Act.leaves_bind]
  apply @Act.leaves_mapEach_tally _ _ _ _ (saveAndCheckpoint basisOf)
    (fun y => checkpointAllCountOf name x y (basisOf y)) Sound
    (fun t => t.earning name basisOf x) (ray / 2) accounts.eraseDups
  · intro y hy t' ht'
    have hsmally := hsmall y (List.mem_eraseDups.mp hy)
    rw [state_saveAndCheckpoint ht']
    refine ⟨?_, abs_earning_checkpointAll_le ht' hsmally⟩
    apply @Act.Leaves.state _ _ (checkpointAll y (basisOf y)) t' Sound
    have hsettles := @settles_checkpointAll t' basisOf (fun _ _ => True) y ht' hsmally
      fun _ _ => trivial
    exact hsettles.mono (fun _ _ h => h.left.sound) (fun _ _ h => h.sound)
  · exact ht

end RewardTracker

namespace TokenCall

variable {s : DepositToken} {t : RewardTracker} {name x : String}

/-!
# What one call adds
-/

/-- The checkpoints of a holder in a reward token that a call executes. -/
def checkpointsOf (name x : String) (c : TokenCall) (s : DepositToken) : Nat :=
  match s.rewards with
  | none => 0
  | some program =>
      match c with
      | claim holder token =>
          if Text.lower holder = x then
            RewardTracker.checkpointCount name x token (s.model.rewardBasisOf x) program.tracker
          else 0
      | c =>
          RewardTracker.checkpointHoldersCountOf name x s.model.rewardBasisOf (c.pass s)
            program.tracker

/-- What a distribution that raises the lifetime index entitles a holder to, in rays. -/
def entitlement (name x : String) (c : TokenCall) (s : DepositToken) : Int :=
  match c with
  | distributeRewards token _ =>
      if Text.lower token = name ∧ s.lifetimeIndexOf name < (c.after s).lifetimeIndexOf name then
        s.model.rewardBasisOf x * ((c.after s).lifetimeIndexOf name - s.lifetimeIndexOf name)
      else 0
  | _ => 0

/-- A call moves what a holder earns by its entitlement, within half a ray for each checkpoint. -/
def Credits (name x : String) (c : TokenCall) (s : DepositToken) (t t' : RewardTracker) : Prop :=
  |t'.earning name (c.after s).model.rewardBasisOf x -
      (t.earning name s.model.rewardBasisOf x + c.entitlement name x s)| ≤
    ray / 2 * c.checkpointsOf name x s

theorem rewardBasisOf_after {c : TokenCall} (hc : c.isOfRewards = true)
    (hs : s.model.ledger.Sound) :
    (c.after s).model.rewardBasisOf = s.model.rewardBasisOf := by
  unfold BalanceModel.rewardBasisOf
  rw [ledger_after_of_rewards hc hs]

theorem credits_of_eq {c : TokenCall} {t' : RewardTracker}
    (h : t'.earning name (c.after s).model.rewardBasisOf x =
      t.earning name s.model.rewardBasisOf x + c.entitlement name x s) : c.Credits name x s t t' := by
  unfold Credits
  rw [h, Int.sub_self, abs_zero]
  exact mul_nonneg (by decide) (Int.natCast_nonneg _)

theorem credits_after_of_books {c : TokenCall} (hc : c.isOfRewards = false)
    (hs : s.model.ledger.Sound) (hprogram : s.Tracks t) (ht : t.Sound) (hx : Text.lower x = x) :
    ∃ t', (c.after s).Tracks t' ∧ t'.Sound ∧ c.Credits name x s t t' := by
  rcases tracks_after_of_books hc hs hprogram ht with ⟨t', htracks, hpass, hheld⟩
  have hcount : c.checkpointsOf name x s =
      t.checkpointHoldersCountOf name x s.model.rewardBasisOf (c.pass s) := by
    rcases hprogram with ⟨program, hrewards, rfl⟩
    unfold checkpointsOf
    rw [hrewards]
    cases c with
    | claim holder token => cases hc
    | _ => rfl
  have hentitlement : c.entitlement name x s = 0 := by
    cases c with
    | distributeRewards token amount => cases hc
    | _ => rfl
  have hbasis : t'.earning name (c.after s).model.rewardBasisOf x =
      t'.earning name s.model.rewardBasisOf x := by
    apply RewardTracker.earning_basis
    rw [DepositToken.rewardBasisOf_of_small hx, DepositToken.rewardBasisOf_of_small hx]
    exact (hheld x).imp id fun hsettled => hsettled name
  have hcredits : |t'.earning name s.model.rewardBasisOf x -
      t.earning name s.model.rewardBasisOf x| ≤ ray / 2 * c.checkpointsOf name x s := by
    rcases hpass with rfl | rfl
    · rw [Int.sub_self, abs_zero]
      exact mul_nonneg (by decide) (Int.natCast_nonneg _)
    · rw [hcount]
      exact RewardTracker.abs_earning_checkpointHolders_le ht (c.pass_small s)
  refine ⟨t', htracks, ?_, ?_⟩
  · rcases hpass with rfl | rfl
    · exact ht
    · exact (DepositToken.settles_afterPass ht (c.pass_small s)).sound
  · unfold Credits
    rw [hbasis, hentitlement, Int.add_zero]
    exact hcredits

theorem credits_after_claim (holder token : String) (hs : s.model.ledger.Sound)
    (hprogram : s.Tracks t) (ht : t.Sound) :
    ∃ t', ((claim holder token).after s).Tracks t' ∧ t'.Sound ∧
      (claim holder token).Credits name x s t t' := by
  rcases tracks_after_claim holder token hprogram ht with ⟨t', htracks, hpreserves⟩
  refine ⟨t', htracks, hpreserves.sound, ?_⟩
  have hcount : (claim holder token).checkpointsOf name x s =
      if Text.lower holder = x then
        t.checkpointCount name x token (s.model.rewardBasisOf x) else 0 := by
    rcases hprogram with ⟨program, hrewards, rfl⟩
    unfold checkpointsOf
    rw [hrewards]
  unfold Credits
  rw [rewardBasisOf_after rfl hs, RewardTracker.earning_congr hpreserves.earnings, hcount]
  change |_ - (_ + (0 : Int))| ≤ _
  rw [Int.add_zero]
  by_cases hholder : Text.lower holder = x
  · subst hholder
    rw [if_pos rfl]
    exact RewardTracker.abs_earning_checkpoint_le ht (Text.lower_lower holder)
  · -- the checkpoint of another holder leaves the state of this one alone
    have hsame : (s.checkpointedFor t holder token).earning name s.model.rewardBasisOf x =
        t.earning name s.model.rewardBasisOf x := by
      apply @Act.Leaves.state _ _ (RewardTracker.checkpoint (Text.lower holder) token
        (s.model.rewardBasisOf (Text.lower holder))) t fun t' =>
          t'.earning name s.model.rewardBasisOf x = t.earning name s.model.rewardBasisOf x
      have hother : ∀ state : HolderRewardState, (t.withHolder (Text.lower token)
          (Text.lower (Text.lower holder)) state).earning name s.model.rewardBasisOf x =
            t.earning name s.model.rewardBasisOf x := by
        intro state
        rw [RewardTracker.earning_withHolder, Text.lower_lower,
          if_neg fun h => hholder h.right.symm]
      apply (RewardTracker.leaves_checkpoint ht).mono
      · intro _ t' h
        rcases h with ⟨_, state, _, rfl⟩
        exact hother state
      · intro _ t' h
        rcases h with rfl | ⟨_, rfl⟩
        · rfl
        · exact hother _
    rw [hsame, if_neg hholder, Int.sub_self]
    simp

theorem lifetimeIndexOf_of_tracks (h : s.Tracks t) :
    s.lifetimeIndexOf name = (t.tokenOf name).lifetimeIndex := by
  rcases h with ⟨program, hrewards, rfl⟩
  unfold DepositToken.lifetimeIndexOf
  rw [hrewards]

theorem lifetimeIndex_le_of_spreads {amount supply : Int} {state state' : RewardTokenState}
    (h : state.Spreads amount supply state') : state.lifetimeIndex ≤ state'.lifetimeIndex := by
  rcases h with ⟨increment, hincrement, rfl⟩
  have hnonneg : 0 ≤ increment := by
    split at hincrement
    · exact rayDiv_nonneg hincrement
    · cases hincrement
      exact Int.le_refl 0
  dsimp only
  omega

theorem credits_after_distributeRewards (token : String) (amount : Int) (hs : s.model.ledger.Sound)
    (hprogram : s.Tracks t) (ht : t.Sound) :
    ∃ t', ((distributeRewards token amount).after s).Tracks t' ∧ t'.Sound ∧
      (distributeRewards token amount).Credits name x s t t' := by
  have hbasis := @rewardBasisOf_after s (distributeRewards token amount) rfl hs
  rcases tracks_after_distributeRewards token amount hprogram ht with
    ⟨t', htracks, rfl | ⟨hamount, hmem, state, rfl, hstate⟩⟩
  · refine ⟨t', htracks, ht, credits_of_eq ?_⟩
    have hnothing : (distributeRewards token amount).entitlement name x s = 0 := by
      unfold entitlement
      dsimp only
      rw [lifetimeIndexOf_of_tracks hprogram, lifetimeIndexOf_of_tracks htracks,
        if_neg fun h => Int.lt_irrefl _ h.right]
    rw [hbasis, hnothing, Int.add_zero]
  · have hgrown : (t.tokenOf (Text.lower token)).lifetimeIndex ≤ state.lifetimeIndex := by
      rcases hstate with hspreads | ⟨_, rfl⟩
      · exact lifetimeIndex_le_of_spreads hspreads
      · exact Int.le_refl _
    have hwaiting : 0 ≤ state.undistributed := by
      rcases hstate with hspreads | ⟨_, rfl⟩
      · exact waiting_of_spreads hspreads hamount (ht.waiting _)
      · exact ht.waiting _
    refine ⟨_, htracks, RewardTracker.sound_withToken ht hmem hwaiting, credits_of_eq ?_⟩
    rw [hbasis, RewardTracker.earning_withToken]
    unfold entitlement
    dsimp only
    rw [lifetimeIndexOf_of_tracks hprogram, lifetimeIndexOf_of_tracks htracks,
      RewardTracker.tokenOf_withToken]
    by_cases hname : name = Text.lower token
    · subst hname
      rw [if_pos rfl, if_pos rfl]
      split
      · rfl
      · next hkept =>
          have hsame : state.lifetimeIndex = (t.tokenOf (Text.lower token)).lifetimeIndex := by
            have hnotless : ¬ (t.tokenOf (Text.lower token)).lifetimeIndex < state.lifetimeIndex :=
              fun h => hkept ⟨rfl, h⟩
            omega
          rw [hsame, Int.sub_self, Int.mul_zero]
    · rw [if_neg hname, if_neg fun h => hname h.left.symm]

theorem credits_after (c : TokenCall) (hs : s.model.ledger.Sound) (hprogram : s.Tracks t)
    (ht : t.Sound) (hx : Text.lower x = x) :
    ∃ t', (c.after s).Tracks t' ∧ t'.Sound ∧ c.Credits name x s t t' := by
  cases c with
  | registerRewardToken token =>
      rcases tracks_after_registerRewardToken token hprogram ht with ⟨t', htracks, hpreserves⟩
      refine ⟨t', htracks, hpreserves.sound, credits_of_eq ?_⟩
      rw [rewardBasisOf_after rfl hs, RewardTracker.earning_congr hpreserves.earnings]
      exact (Int.add_zero _).symm
  | setReserveFactor caller factor =>
      refine ⟨t, tracks_after_setReserveFactor caller factor hprogram, ht, credits_of_eq ?_⟩
      rw [rewardBasisOf_after rfl hs]
      exact (Int.add_zero _).symm
  | claim holder token => exact credits_after_claim holder token hs hprogram ht
  | distributeRewards token amount =>
      exact credits_after_distributeRewards token amount hs hprogram ht
  | _ => exact credits_after_of_books rfl hs hprogram ht hx

/-!
# Whole runs
-/

def checkpointsOfIn (name x : String) : List TokenCall → DepositToken → Nat
  | [], _ => 0
  | c :: rest, s => c.checkpointsOf name x s + checkpointsOfIn name x rest (c.after s)

def entitlementIn (name x : String) : List TokenCall → DepositToken → Int
  | [], _ => 0
  | c :: rest, s => c.entitlement name x s + entitlementIn name x rest (c.after s)

theorem abs_earning_afterAll_le (name : String) (calls : List TokenCall)
    (hs : s.model.ledger.Sound) (hprogram : s.Tracks t) (ht : t.Sound) (hx : Text.lower x = x) :
    ∃ t', (afterAll calls s).Tracks t' ∧
      |t'.earning name (afterAll calls s).model.rewardBasisOf x -
          (t.earning name s.model.rewardBasisOf x + entitlementIn name x calls s)| ≤
        ray / 2 * checkpointsOfIn name x calls s := by
  induction calls generalizing s t with
  | nil =>
      refine ⟨t, hprogram, ?_⟩
      simp [afterAll, entitlementIn, checkpointsOfIn]
  | cons c rest ih =>
      rcases @credits_after s t name x c hs hprogram ht hx with ⟨t₁, htracks, ht₁, hfirst⟩
      rcases ih (sound_after c hs) htracks ht₁ with ⟨t', htracks', hrest⟩
      refine ⟨t', htracks', ?_⟩
      unfold Credits at hfirst
      have hcons : entitlementIn name x (c :: rest) s =
          c.entitlement name x s + entitlementIn name x rest (c.after s) := rfl
      -- the entitlement to come is the same before and after the first call's rounding
      have hshift : t₁.earning name (c.after s).model.rewardBasisOf x +
            entitlementIn name x rest (c.after s) -
          (t.earning name s.model.rewardBasisOf x + entitlementIn name x (c :: rest) s) =
          t₁.earning name (c.after s).model.rewardBasisOf x -
            (t.earning name s.model.rewardBasisOf x + c.entitlement name x s) := by
        rw [hcons]
        ring
      have htriangle := abs_sub_le
        (t'.earning name (afterAll rest (c.after s)).model.rewardBasisOf x)
        (t₁.earning name (c.after s).model.rewardBasisOf x + entitlementIn name x rest (c.after s))
        (t.earning name s.model.rewardBasisOf x + entitlementIn name x (c :: rest) s)
      rw [hshift] at htriangle
      rw [checkpointsOfIn, Nat.cast_add, mul_add]
      change |t'.earning name (afterAll rest (c.after s)).model.rewardBasisOf x - _| ≤ _
      exact htriangle.trans (by omega)

/--
In every run from empty books and an empty tracker, what a holder has accrued in
a reward token and stands to accrue is its basis times the raise of the lifetime
index, summed over the distributions of the run, within half a ray for each
checkpoint of that holder.
-/
theorem entitlement_pro_rata {start : DepositToken} {program : RewardProgram}
    (hbooks : start.model.ledger = .empty) (hprogram : start.rewards = some program)
    (htracker : program.tracker = .empty program.tracker.capacity) (calls : List TokenCall) :
    ∃ p, (afterAll calls start).rewards = some p ∧
      ∀ token ∈ p.tracker.rewardTokens, ∀ holder : String,
        let s := afterAll calls start
        let x := Text.lower holder
        let state := p.tracker.stateOf token x
        |ray * state.accrued + s.model.rewardBasisOf x *
              ((p.tracker.tokenOf token).lifetimeIndex - state.index) -
            entitlementIn token x calls start| ≤
          ray / 2 * checkpointsOfIn token x calls start := by
  have hs : start.model.ledger.Sound := by
    rw [hbooks]
    exact ShareLedger.sound_empty
  have ht : program.tracker.Sound := by
    rw [htracker]
    exact RewardTracker.sound_empty _
  have htracks : start.Tracks program.tracker := ⟨program, hprogram, rfl⟩
  rcases (tracks_afterAll hs htracks ht calls).right with ⟨_, ⟨p, hp, rfl⟩, _⟩
  refine ⟨p, hp, ?_⟩
  intro token _ holder s x state
  rcases abs_earning_afterAll_le token calls hs htracks ht (Text.lower_lower holder) with
    ⟨t', htracks', hbound⟩
  cases htracks'.unique ⟨p, hp, rfl⟩
  have hstart : program.tracker.earning token start.model.rewardBasisOf (Text.lower holder) = 0 := by
    have htoken : (RewardTracker.empty program.tracker.capacity).tokenOf token = ⟨0, 0, 0, 0⟩ := rfl
    have hstate : ∀ y, (RewardTracker.empty program.tracker.capacity).stateOf token y = .fresh :=
      fun _ => rfl
    rw [htracker]
    unfold RewardTracker.earning
    simp [htoken, hstate, HolderRewardState.fresh]
  rw [hstart, Int.zero_add] at hbound
  exact hbound

/-- Two distributions with a holder that joins in between, a claim and a transfer. -/
theorem entitlement_pro_rata_late_holder :
    let program : RewardProgram := .empty 0
    let start : DepositToken := .atOne (.plain .empty) (some program)
    let calls := [registerRewardToken "REW", mint "pool" "Alice" 3 ray, distributeRewards "rew" 10,
      mint "pool" "Bob" 4 ray, claim "alice" "rew", distributeRewards "rew" 5, transfer "alice" "Bob" 2]
    start.model.ledger = .empty ∧ start.rewards = some program ∧
      program.tracker = .empty program.tracker.capacity ∧
      ∃ p, (afterAll calls start).rewards = some p ∧
        ∀ token ∈ p.tracker.rewardTokens, ∀ holder : String,
          let s := afterAll calls start
          let x := Text.lower holder
          let state := p.tracker.stateOf token x
          |ray * state.accrued + s.model.rewardBasisOf x *
                ((p.tracker.tokenOf token).lifetimeIndex - state.index) -
              entitlementIn token x calls start| ≤
            ray / 2 * checkpointsOfIn token x calls start := by
  intro program start calls
  have hbooks : start.model.ledger = .empty := rfl
  have hprogram : start.rewards = some program := rfl
  have htracker : program.tracker = .empty program.tracker.capacity := rfl
  exact ⟨hbooks, hprogram, htracker, entitlement_pro_rata hbooks hprogram htracker calls⟩

end TokenCall
end ReserveAccounting
