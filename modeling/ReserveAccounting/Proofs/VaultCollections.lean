import ReserveAccounting.Proofs.ClaimableRewards
import ReserveAccounting.Proofs.VaultQuiet

/-!
# Collecting rewards into a vault

A collection in one reward token leaves alone all that concerns the others. In
its own it finds nothing, or spreads over the units what a claim has brought;
one that fails may have counted an amount that it could not spread.
-/

namespace ReserveAccounting

open FixedPoint

namespace StaticVault

variable {v v' v'' : StaticVault} {name token : String} {tokens tokens' : List String}
  {p : RewardProgram}

/-!
# One reward token at a time
-/

structure Orderly (v : StaticVault) : Prop where
  token : v.token.Honest
  rewards : v.books.rewards.Sound
  strays : v.books.strayBalances = []

def heldOf (v : StaticVault) (name : String) : Int := v.books.rewardBalances.getD name 0

theorem rewardBalance_of_strays (h : v.books.strayBalances = []) (name : String) :
    v.rewardBalance name = .ok (v.heldOf name) := by
  unfold rewardBalance
  rw [h, Strays.figure_nil]
  rfl

theorem rewardBalance_of_orderly (hv : v.Orderly) (name : String) :
    v.rewardBalance name = .ok (v.heldOf name) :=
  rewardBalance_of_strays hv.strays name

structure Aside (name : String) (v v' : StaticVault) : Prop where
  quiet : v.Quiet v'
  rewards : v.books.rewards.SameAt name v'.books.rewards
  held : v'.heldOf name = v.heldOf name
  program : ∀ p, v.token.rewards = some p → ∃ t,
    v'.token.rewards = some { p with tracker := t } ∧ p.tracker.SameAt name t

namespace Aside

theorem refl (name : String) (v : StaticVault) : Aside name v v where
  quiet := Quiet.refl v
  rewards := RewardTracker.SameAt.refl name _
  held := rfl
  program p hp := ⟨p.tracker, hp, RewardTracker.SameAt.refl name _⟩

theorem trans (h : Aside name v v') (h' : Aside name v' v'') : Aside name v v'' where
  quiet := h.quiet.trans h'.quiet
  rewards := h.rewards.trans h'.rewards
  held := h'.held.trans h.held
  program p hp := by
    rcases h.program p hp with ⟨t, hrewards, hsame⟩
    rcases h'.program _ hrewards with ⟨t', hrewards', hsame'⟩
    exact ⟨t', hrewards', hsame.trans hsame'⟩

theorem claimable_eq (h : Aside name v v') (hv : v.Orderly) (hv' : v'.Orderly)
    (hname : Text.lower name = name) :
    v'.token.claimableRewards v'.books.address name =
      v.token.claimableRewards v.books.address name := by
  rcases hv.token.program with ⟨p, hprogram, hp⟩
  rcases hv'.token.program with ⟨p', hprogram', hp'⟩
  rcases h.program p hprogram with ⟨t, hrewards, hsame⟩
  rw [hprogram'] at hrewards
  cases hrewards
  rw [h.quiet.address]
  exact DepositToken.claimableRewards_congr hprogram hp.sound hprogram' hp'.sound
    h.quiet.token.ledger (hname.symm ▸ hsame)

end Aside

theorem uncollected_eq (hprogram : v.token.rewards = some p) (hp : p.Honest) :
    v.uncollected name =
      if name ∈ p.tracker.rewardTokens then do
        let pending ← v.token.claimableRewards v.books.address name
        let cut ← (percentMul pending p.reserveFactor).mapError Fault.ofRefusal
        .ok (pending - cut)
      else .ok 0 := by
  unfold uncollected
  rw [hprogram]
  dsimp only
  rw [hp.factor_eq]
  simp only [Table.contains_iff_mem_keys, hp.sound.tokens]
  rfl

theorem Aside.uncollected_eq (h : Aside name v v') (hv : v.Orderly) (hv' : v'.Orderly)
    (hname : Text.lower name = name) : v'.uncollected name = v.uncollected name := by
  have hclaimable := h.claimable_eq hv hv' hname
  rcases hv.token.program with ⟨p, hprogram, hp⟩
  rcases hv'.token.program with ⟨p', hprogram', hp'⟩
  rcases h.program p hprogram with ⟨t, hrewards, hsame⟩
  rw [hprogram'] at hrewards
  cases hrewards
  rw [StaticVault.uncollected_eq hprogram hp, StaticVault.uncollected_eq hprogram' hp', hclaimable]
  simp only [hsame.tokens]

/-- An orderly vault in which only some reward tokens were collected, and no holder checkpointed. -/
structure Tends (tokens : List String) (v v' : StaticVault) : Prop where
  quiet : v.Quiet v'
  orderly : v'.Orderly
  others : ∀ name, name ∉ tokens → Aside name v v'
  states : ∀ name x, v'.books.rewards.stateOf name x = v.books.rewards.stateOf name x

namespace Tends

theorem refl (tokens : List String) (hv : v.Orderly) : Tends tokens v v where
  quiet := Quiet.refl v
  orderly := hv
  others name _ := Aside.refl name v
  states _ _ := rfl

theorem mono (h : Tends tokens v v') (hsubset : ∀ name ∈ tokens, name ∈ tokens') :
    Tends tokens' v v' where
  quiet := h.quiet
  orderly := h.orderly
  others name hname := h.others name fun hmem => hname (hsubset name hmem)
  states := h.states

theorem trans (h : Tends tokens v v') (h' : Tends tokens v' v'') : Tends tokens v v'' where
  quiet := h.quiet.trans h'.quiet
  orderly := h'.orderly
  others name hname := (h.others name hname).trans (h'.others name hname)
  states name x := (h'.states name x).trans (h.states name x)

theorem of_rewards {t : RewardTracker} (hv : v.Orderly) (ht : t.Sound)
    (hoff : v.books.rewards.AgreesOff token t)
    (hstates : ∀ name x, t.stateOf name x = v.books.rewards.stateOf name x) :
    Tends [token] v { v with books := { v.books with rewards := t } } where
  quiet := ⟨(Quiet.refl v).token, rfl, rfl⟩
  orderly := ⟨hv.token, ht, hv.strays⟩
  others name hname := by
    have hoffName := hoff name fun h => hname (List.mem_singleton.mpr h)
    exact ⟨⟨(Quiet.refl v).token, rfl, rfl⟩, hoffName, rfl,
      fun p hp => ⟨p.tracker, hp, RewardTracker.SameAt.refl name _⟩⟩
  states := hstates

theorem of_token {s : DepositToken} (hv : v.Orderly) (hs : s.Honest)
    (hprogram : v.token.rewards = some p) (hkeeps : v.token.Keeps (fun _ => True) s)
    (htouches : DepositToken.TouchesRewards p token s) : Tends [token] v { v with token := s } where
  quiet := Quiet.of_keeps hkeeps
  orderly := ⟨hs, hv.rewards, hv.strays⟩
  others name hname := by
    refine ⟨Quiet.of_keeps hkeeps, RewardTracker.SameAt.refl name _, rfl, ?_⟩
    intro p' hp'
    rw [hprogram] at hp'
    cases hp'
    rcases htouches with ⟨t, hrewards, htouches⟩
    exact ⟨t, hrewards, htouches.off name fun h => hname (List.mem_singleton.mpr h)⟩
  states _ _ := rfl

theorem of_held (hv : v.Orderly) (amount : Int) :
    Tends [token] v { v with
      books := { v.books with
        rewardBalances := v.books.rewardBalances.put token amount
        strayBalances := v.books.strayBalances.without (· = token) } } where
  quiet := ⟨(Quiet.refl v).token, rfl, rfl⟩
  orderly := by
    refine ⟨hv.token, hv.rewards, ?_⟩
    dsimp only
    rw [hv.strays, Strays.without_nil]
  others name hname := by
    refine ⟨⟨(Quiet.refl v).token, rfl, rfl⟩, RewardTracker.SameAt.refl name _, ?_,
      fun p hp => ⟨p.tracker, hp, RewardTracker.SameAt.refl name _⟩⟩
    unfold heldOf
    dsimp only
    rw [Table.getD_put, if_neg fun h => hname (List.mem_singleton.mpr h)]
  states _ _ := rfl

end Tends

/-!
# What comes in
-/

def Gathered (name : String) (v v' : StaticVault) : Prop :=
  (v'.books.rewards.tokenOf name = v.books.rewards.tokenOf name ∧ v'.heldOf name = v.heldOf name) ∨
  ∃ received, 0 ≤ received ∧ v'.heldOf name = v.heldOf name + received ∧
    ((v.books.rewards.tokenOf name).Spreads received v.totalUnits
        (v'.books.rewards.tokenOf name) ∨
      v'.books.rewards.tokenOf name = { v.books.rewards.tokenOf name with
        lifetimeRewards := (v.books.rewards.tokenOf name).lifetimeRewards + received })

def Forwarded (name : String) (v v' : StaticVault) : Prop :=
  (v'.books.rewards.tokenOf name = v.books.rewards.tokenOf name ∧ v'.heldOf name = v.heldOf name) ∨
  ∃ received, 0 ≤ received ∧ v'.heldOf name = v.heldOf name + received ∧
    (v.books.rewards.tokenOf name).Spreads received v.totalUnits (v'.books.rewards.tokenOf name)

/-- A collection found nothing in a reward token, or spread over the units what was to be collected. -/
def Collected (name : String) (v v' : StaticVault) : Prop :=
  (v.token.claimableRewards v.books.address name = .ok 0 ∧
    v'.books.rewards.tokenOf name = v.books.rewards.tokenOf name ∧
    v'.heldOf name = v.heldOf name) ∨
  v.token.claimableRewards v.books.address name ≠ .ok 0 ∧
  ∃ received, 0 ≤ received ∧ v.uncollected name = .ok received ∧
    v'.heldOf name = v.heldOf name + received ∧
    (v.books.rewards.tokenOf name).Spreads received v.totalUnits (v'.books.rewards.tokenOf name)

theorem Collected.forwarded (h : Collected name v v') : Forwarded name v v' := by
  rcases h with ⟨_, htoken, hheld⟩ | ⟨_, received, hreceived, _, hheld, hspreads⟩
  · exact Or.inl ⟨htoken, hheld⟩
  · exact Or.inr ⟨received, hreceived, hheld, hspreads⟩

theorem Forwarded.gathered (h : Forwarded name v v') : Gathered name v v' := by
  rcases h with hsame | ⟨received, hreceived, hheld, hspreads⟩
  · exact Or.inl hsame
  · exact Or.inr ⟨received, hreceived, hheld, Or.inl hspreads⟩

theorem Collected.gathered (h : Collected name v v') : Gathered name v v' := h.forwarded.gathered

theorem Aside.forwarded (h : Aside name v v') : Forwarded name v v' :=
  Or.inl ⟨h.rewards.token, h.held⟩

theorem Aside.totalUnits_eq (h : Aside name v v') : v'.totalUnits = v.totalUnits := by
  unfold totalUnits
  rw [h.quiet.balances]

theorem Aside.gathered (h : Aside name v v') (h' : Gathered name v' v'') : Gathered name v v'' := by
  unfold Gathered at h' ⊢
  rw [h.rewards.token, h.held, h.totalUnits_eq] at h'
  exact h'

theorem Aside.trans_forwarded (h : Aside name v v') (h' : Forwarded name v' v'') :
    Forwarded name v v'' := by
  unfold Forwarded at h' ⊢
  rw [h.rewards.token, h.held, h.totalUnits_eq] at h'
  exact h'

theorem Forwarded.aside (h : Forwarded name v v') (h' : Aside name v' v'') :
    Forwarded name v v'' := by
  unfold Forwarded
  rw [h'.rewards.token, h'.held]
  exact h

theorem Gathered.aside (h : Gathered name v v') (h' : Aside name v' v'') : Gathered name v v'' := by
  unfold Gathered
  rw [h'.rewards.token, h'.held]
  exact h

theorem Aside.collected (h : Aside name v v') (hv : v.Orderly) (hv' : v'.Orderly)
    (hname : Text.lower name = name) (h' : Collected name v' v'') : Collected name v v'' := by
  unfold Collected at h' ⊢
  rw [h.claimable_eq hv hv' hname, h.uncollected_eq hv hv' hname, h.rewards.token, h.held,
    h.totalUnits_eq] at h'
  exact h'

theorem Collected.aside (h : Collected name v v') (h' : Aside name v' v'') :
    Collected name v v'' := by
  unfold Collected
  rw [h'.rewards.token, h'.held]
  exact h

/-!
# One collection
-/

theorem leaves_addRewardBalance {amount : Int} (hv : v.Orderly)
    {answered : Unit → StaticVault → Prop} {failed : Fault → StaticVault → Prop} :
    (addRewardBalance token amount).Leaves v answered failed ↔
      answered () { v with
        books := { v.books with
          rewardBalances := v.books.rewardBalances.put token (v.heldOf token + amount)
          strayBalances := v.books.strayBalances.without (· = token) } } := by
  unfold addRewardBalance
  rw [Act.leaves_bind, Act.leaves_current, Act.leaves_bind, Act.leaves_faulty,
    rewardBalance_of_orderly hv]
  constructor
  · intro h
    exact h.left _ rfl
  · intro h
    refine ⟨?_, fun _ hfault => by cases hfault⟩
    intro _ hleft
    cases hleft
    exact h

theorem leaves_registerInVault (hv : v.Orderly) (htoken : Text.lower token = token) :
    (onRewards (RewardTracker.register token)).Leaves v
      (fun _ v' => Tends [token] v v' ∧ token ∈ v'.books.rewards.rewardTokens ∧
        v'.token = v.token ∧ v'.heldOf token = v.heldOf token ∧
        v'.books.rewards.tokenOf token = v.books.rewards.tokenOf token)
      (fun _ v' => v' = v) := by
  rw [leaves_onRewards]
  apply (RewardTracker.leaves_register hv.rewards).mono
  · intro _ t h
    rw [htoken] at h
    rcases h with ⟨hmem, rfl | ⟨hnew, rfl⟩⟩
    · exact ⟨Tends.refl [token] hv, hmem, rfl, rfl, rfl⟩
    · have hstates : ∀ name x, (v.books.rewards.withRegistered token).stateOf name x =
          v.books.rewards.stateOf name x := by
        intro name x
        unfold RewardTracker.stateOf
        rw [RewardTracker.statesOf_withRegistered hv.rewards hnew]
      refine ⟨Tends.of_rewards hv (RewardTracker.sound_withRegistered hv.rewards htoken hnew)
        (RewardTracker.AgreesOff.of_withRegistered hv.rewards hnew) hstates, hmem, rfl, rfl, ?_⟩
      exact RewardTracker.tokenOf_withRegistered hv.rewards hnew
  · intro _ t hsame
    rw [hsame]

theorem leaves_claimForVault (hv : v.Orderly) (htoken : Text.lower token = token) :
    (onToken (DepositToken.claim v.books.address token)).Leaves v
      (fun c v' => Tends [token] v v' ∧ v'.books = v.books ∧
        v.token.claimableRewards v.books.address token = .ok c.claimable ∧
        v.uncollected token = .ok c.toHolder ∧ 0 ≤ c.toHolder)
      (fun _ v' => Tends [token] v v' ∧ v'.books = v.books) := by
  rcases hv.token.program with ⟨p, hprogram, hp⟩
  have htends : ∀ s, v.token.Keeps (fun _ => True) s → DepositToken.TouchesRewards p token s →
      Tends [token] v { v with token := s } := by
    intro s hkeeps htouches
    have hhonest : s.Honest := by
      refine ⟨?_, TokenCall.honest_of_touches hp htouches⟩
      rw [hkeeps.ledger]
      exact hv.token.shares
    exact Tends.of_token hv hhonest hprogram hkeeps htouches
  have htouches := @DepositToken.touches_claim v.token p v.books.address token hprogram
    hp.sound hp.paid
  rw [htoken] at htouches
  rw [leaves_onToken]
  apply Act.leaves_of_run
  · intro c s hrun
    have hkeeps := DepositToken.keeps_claim.of_ok hrun
    rcases (DepositToken.leaves_claim hprogram hp.sound).of_ok hrun with ⟨_, hmem, _, _⟩
    rcases (DepositToken.leaves_claim_cut hprogram).of_ok hrun with ⟨factor, hfactor, _, hcut⟩
    have hview := (TokenCall.claimableRewards_claim ⟨p, hprogram, rfl⟩ hp.sound hrun).left
    have hfactorEq : factor = p.reserveFactor := by
      rw [hp.factor_eq] at hfactor
      cases hfactor
      rfl
    refine ⟨htends s hkeeps (htouches.of_ok hrun), rfl, hview, ?_, ?_⟩
    · rw [htoken] at hmem
      rw [uncollected_eq hprogram hp, if_pos hmem, hview, ← hfactorEq]
      change (do
        let cut ← (percentMul c.claimable factor).mapError Fault.ofRefusal
        .ok (c.claimable - cut) : Except Fault Int) = _
      rw [hcut]
      rfl
    · exact Int.sub_nonneg_of_le ((DepositToken.cutsWithin_claim hv.token).of_ok hrun).right
  · intro e s hrun
    exact ⟨htends s (DepositToken.keeps_claim.of_error hrun) (htouches.of_error hrun), rfl⟩

theorem leaves_distributeInVault {received : Int} (hv : v.Orderly)
    (htoken : Text.lower token = token) (hmem : token ∈ v.books.rewards.rewardTokens)
    (hreceived : 0 ≤ received) :
    (onRewards (RewardTracker.distribute token received v.totalUnits)).Leaves v
      (fun _ v' => Tends [token] v v' ∧ v'.heldOf token = v.heldOf token ∧
        (v.books.rewards.tokenOf token).Spreads received v.totalUnits
          (v'.books.rewards.tokenOf token))
      (fun e v' => Tends [token] v v' ∧ v'.heldOf token = v.heldOf token ∧
        v'.books.rewards.tokenOf token = { v.books.rewards.tokenOf token with
          lifetimeRewards := (v.books.rewards.tokenOf token).lifetimeRewards + received } ∧
        e.IsOverflow) := by
  have hwritten : ∀ s : RewardTokenState, 0 ≤ s.undistributed →
      Tends [token] v { v with
        books := { v.books with rewards := v.books.rewards.withToken token s } } := by
    intro s hwaiting
    exact Tends.of_rewards hv (RewardTracker.sound_withToken hv.rewards hmem hwaiting)
      (RewardTracker.AgreesOff.of_withToken s) fun _ _ => rfl
  have htokenOf : ∀ s : RewardTokenState,
      (v.books.rewards.withToken token s).tokenOf token = s := by
    intro s
    rw [RewardTracker.tokenOf_withToken, if_pos rfl]
  rw [leaves_onRewards]
  apply (RewardTracker.leaves_distribute hv.rewards).mono
  · intro _ t h
    rw [htoken] at h
    rcases h with ⟨_, _, s, hspreads, rfl⟩
    have hwaiting := TokenCall.waiting_of_spreads hspreads hreceived (hv.rewards.waiting token)
    refine ⟨hwritten s hwaiting, rfl, ?_⟩
    dsimp only
    rw [htokenOf]
    exact hspreads
  · intro _ t h
    rw [htoken] at h
    rcases h with ⟨hunknown, _⟩ | ⟨_, _, rfl, hover⟩
    · exact absurd ⟨hreceived, hmem⟩ hunknown
    · exact ⟨hwritten _ (hv.rewards.waiting token), rfl, htokenOf _, hover⟩

theorem leaves_bookReceived {received : Int} (hv : v.Orderly) (htoken : Text.lower token = token)
    (hmem : token ∈ v.books.rewards.rewardTokens) (hreceived : 0 ≤ received) :
    (do
      addRewardBalance token received
      let v ← Act.current
      let _ ← onRewards (RewardTracker.distribute token received v.totalUnits)
      return some (token, received) : Act StaticVault (Option (String × Int))).Leaves v
      (fun _ v' => Tends [token] v v' ∧ v'.heldOf token = v.heldOf token + received ∧
        (v.books.rewards.tokenOf token).Spreads received v.totalUnits
          (v'.books.rewards.tokenOf token))
      (fun e v' => Tends [token] v v' ∧ v'.heldOf token = v.heldOf token + received ∧
        v'.books.rewards.tokenOf token = { v.books.rewards.tokenOf token with
          lifetimeRewards := (v.books.rewards.tokenOf token).lifetimeRewards + received } ∧
        e.IsOverflow) := by
  rw [Act.leaves_bind, leaves_addRewardBalance hv, Act.leaves_bind, Act.leaves_current,
    Act.leaves_bind]
  have htends := @Tends.of_held v token hv (v.heldOf token + received)
  have hheld : StaticVault.heldOf { v with
      books := { v.books with
        rewardBalances := v.books.rewardBalances.put token (v.heldOf token + received)
        strayBalances := v.books.strayBalances.without (· = token) } } token =
      v.heldOf token + received := by
    unfold heldOf
    dsimp only
    rw [Table.getD_put, if_pos rfl]
  have hspread := leaves_distributeInVault htends.orderly htoken hmem hreceived
  rw [hheld] at hspread
  apply hspread.mono
  · intro _ v' h
    rcases h with ⟨htends', hheld', hspreads⟩
    exact ⟨htends.trans htends', hheld', hspreads⟩
  · intro _ v' h
    rcases h with ⟨htends', hheld', hcounted, hover⟩
    exact ⟨htends.trans htends', hheld', hcounted, hover⟩

/--
A collection finds nothing or spreads what it has claimed. What it may leave
when it fails is a claim that was not counted or, if it fails for size, an
amount that was not spread.
-/
theorem leaves_collectOne (hv : v.Orderly) (htoken : Text.lower token = token) :
    (collectOne token).Leaves v (fun _ v' => Tends [token] v v' ∧ Collected token v v')
      (fun e v' => Tends [token] v v' ∧ Gathered token v v' ∧
        (Forwarded token v v' ∨ e.IsOverflow)) := by
  have hnothing : ∀ {v' e}, Tends [token] v v' →
      v'.books.rewards.tokenOf token = v.books.rewards.tokenOf token ∧
        v'.heldOf token = v.heldOf token →
      Tends [token] v v' ∧ Gathered token v v' ∧ (Forwarded token v v' ∨ Fault.IsOverflow e) :=
    fun h hsame => ⟨h, Or.inl hsame, Or.inl (Or.inl hsame)⟩
  unfold collectOne
  rw [Act.leaves_bind, Act.leaves_current, Act.leaves_bind, Act.leaves_faulty]
  refine ⟨fun pending hpending => ?_, fun _ _ => hnothing (Tends.refl [token] hv) ⟨rfl, rfl⟩⟩
  rw [Act.leaves_bind]
  apply (leaves_registerInVault hv htoken).mono
  · intro _ v₁ h
    rcases h with ⟨htends₁, hmem, htoken₁, hheld₁, htokenOf₁⟩
    rw [Act.leaves_ite]
    constructor
    · intro hzero
      rw [hzero] at hpending
      exact ⟨htends₁, Or.inl ⟨hpending, htokenOf₁, hheld₁⟩⟩
    · intro hzero
      have haddress : v.books.address = v₁.books.address := htends₁.quiet.address.symm
      have huncollected : v₁.uncollected token = v.uncollected token := by
        unfold uncollected
        rw [htoken₁, ← haddress]
      rw [Act.leaves_bind, haddress]
      apply (leaves_claimForVault htends₁.orderly htoken).mono
      · intro c v₂ h
        rcases h with ⟨htends₂, hbooks₂, _, hreceived, hnonneg⟩
        have htends := htends₁.trans htends₂
        have hheld₂ : v₂.heldOf token = v.heldOf token := by
          unfold heldOf
          rw [hbooks₂]
          exact hheld₁
        have hunits₂ : v₂.totalUnits = v.totalUnits := by
          unfold totalUnits
          rw [htends.quiet.balances]
        have hbook := @leaves_bookReceived v₂ token c.toHolder htends.orderly htoken
          (hbooks₂ ▸ hmem) hnonneg
        rw [huncollected] at hreceived
        rw [hheld₂, hunits₂, hbooks₂, htokenOf₁] at hbook
        apply hbook.mono
        · intro _ v₃ h
          rcases h with ⟨htends₃, hheld₃, hspreads⟩
          refine ⟨htends.trans htends₃, Or.inr ⟨?_, c.toHolder, hnonneg, hreceived, hheld₃, hspreads⟩⟩
          rw [hpending]
          intro hsame
          cases hsame
          exact hzero rfl
        · intro _ v₃ h
          rcases h with ⟨htends₃, hheld₃, hcounted, hover⟩
          exact ⟨htends.trans htends₃,
            Or.inr ⟨c.toHolder, hnonneg, hheld₃, Or.inr hcounted⟩, Or.inr hover⟩
      · intro _ v₂ h
        rcases h with ⟨htends₂, hbooks₂⟩
        refine hnothing (htends₁.trans htends₂) ⟨?_, ?_⟩
        · rw [hbooks₂, htokenOf₁]
        · unfold heldOf
          rw [hbooks₂]
          exact hheld₁
  · intro _ v₁ hsame
    rw [hsame]
    exact hnothing (Tends.refl [token] hv) ⟨rfl, rfl⟩

/-!
# All collections
-/

def collectListed (p : RewardProgram) (token : String) :
    Act StaticVault (Option (String × Int)) := do
  p.tracker.requireName token
  collectOne token

theorem leaves_collectListed (hp : p.Honest) {answered : Option (String × Int) → StaticVault → Prop}
    {failed : Fault → StaticVault → Prop} :
    (collectListed p token).Leaves v answered failed ↔
      (collectOne token).Leaves v answered failed := by
  unfold collectListed
  rw [Act.leaves_bind, RewardTracker.requireName_of_sound hp.sound, Act.leaves_faulty]
  constructor
  · intro h
    exact h.left () rfl
  · intro h
    exact ⟨fun _ _ => h, fun _ hfault => by cases hfault⟩

theorem leaves_collectEach (hv : v.Orderly) (hp : p.Honest) (hnodup : tokens.Nodup)
    (hsmall : ∀ token ∈ tokens, Text.lower token = token) :
    (Act.mapEach (collectListed p) tokens).Leaves v
      (fun _ v' => Tends tokens v v' ∧ ∀ name ∈ tokens, Collected name v v')
      (fun e v' => Tends tokens v v' ∧ (∀ name ∈ tokens, Gathered name v v') ∧
        ((∀ name ∈ tokens, Forwarded name v v') ∨ e.IsOverflow)) := by
  induction tokens generalizing v with
  | nil =>
      rw [Act.leaves_mapEach_nil]
      exact ⟨Tends.refl [] hv, fun _ h => absurd h List.not_mem_nil⟩
  | cons token rest ih =>
      rw [List.nodup_cons] at hnodup
      have hfirst : ∀ {v'}, Tends [token] v v' → Tends (token :: rest) v v' := by
        intro v' h
        apply h.mono
        intro name hname
        rw [List.mem_singleton.mp hname]
        exact List.mem_cons_self
      have hothers : ∀ name ∈ rest, name ∉ [token] := by
        intro name hname hsame
        exact hnodup.left (List.mem_singleton.mp hsame ▸ hname)
      rw [Act.leaves_mapEach_cons, leaves_collectListed hp]
      apply (leaves_collectOne hv (hsmall token List.mem_cons_self)).mono
      · intro _ v₁ h
        rcases h with ⟨htends₁, hcollected₁⟩
        have hrest := fun name hname => hsmall name (List.mem_cons_of_mem token hname)
        apply (ih htends₁.orderly hnodup.right hrest).mono
        · intro _ v₂ h
          rcases h with ⟨htends₂, hcollected₂⟩
          refine ⟨(hfirst htends₁).trans (htends₂.mono fun _ h => List.mem_cons_of_mem token h), ?_⟩
          intro name hname
          rcases List.mem_cons.mp hname with rfl | hname
          · exact hcollected₁.aside (htends₂.others name hnodup.left)
          · exact (htends₁.others name (hothers name hname)).collected hv htends₁.orderly
              (hrest name hname) (hcollected₂ name hname)
        · intro _ v₂ h
          rcases h with ⟨htends₂, hgathered₂, hforwarded₂⟩
          refine ⟨(hfirst htends₁).trans (htends₂.mono fun _ h => List.mem_cons_of_mem token h),
            ?_, hforwarded₂.imp_left ?_⟩
          · intro name hname
            rcases List.mem_cons.mp hname with rfl | hname
            · exact hcollected₁.gathered.aside (htends₂.others name hnodup.left)
            · exact (htends₁.others name (hothers name hname)).gathered (hgathered₂ name hname)
          · intro hforwarded₂ name hname
            rcases List.mem_cons.mp hname with rfl | hname
            · exact hcollected₁.forwarded.aside (htends₂.others name hnodup.left)
            · exact (htends₁.others name (hothers name hname)).trans_forwarded
                (hforwarded₂ name hname)
      · intro _ v₁ h
        rcases h with ⟨htends₁, hgathered₁, hforwarded₁⟩
        refine ⟨hfirst htends₁, ?_, hforwarded₁.imp_left ?_⟩
        · intro name hname
          rcases List.mem_cons.mp hname with rfl | hname
          · exact hgathered₁
          · exact (htends₁.others name (hothers name hname)).forwarded.gathered
        · intro hforwarded₁ name hname
          rcases List.mem_cons.mp hname with rfl | hname
          · exact hforwarded₁
          · exact (htends₁.others name (hothers name hname)).forwarded

structure Gathers (v v' : StaticVault) : Prop where
  quiet : v.Quiet v'
  orderly : v'.Orderly
  states : ∀ name x, v'.books.rewards.stateOf name x = v.books.rewards.stateOf name x
  amounts : ∀ name, Gathered name v v'

theorem Gathers.refl (hv : v.Orderly) : Gathers v v where
  quiet := Quiet.refl v
  orderly := hv
  states _ _ := rfl
  amounts _ := Or.inl ⟨rfl, rfl⟩

theorem Tends.gathers (h : Tends tokens v v') (hamounts : ∀ name ∈ tokens, Gathered name v v') :
    Gathers v v' where
  quiet := h.quiet
  orderly := h.orderly
  states := h.states
  amounts name := by
    by_cases hname : name ∈ tokens
    · exact hamounts name hname
    · exact (h.others name hname).forwarded.gathered

def tokensAsked (p : RewardProgram) (asked : Option String) : List String :=
  match asked with
  | some token => if token.isEmpty then p.tracker.rewardTokens else [Text.lower token]
  | none => p.tracker.rewardTokens

theorem nodup_tokensAsked {p : RewardProgram} (hp : p.tracker.Sound) (asked : Option String) :
    (tokensAsked p asked).Nodup := by
  unfold tokensAsked
  split
  · split
    · exact hp.nodup
    · exact List.nodup_singleton _
  · exact hp.nodup

theorem small_of_mem_tokensAsked {p : RewardProgram} {asked : Option String} {name : String}
    (hp : p.tracker.Sound) (hname : name ∈ tokensAsked p asked) : Text.lower name = name := by
  unfold tokensAsked at hname
  split at hname
  · split at hname
    · exact hp.small name hname
    · rw [List.mem_singleton.mp hname, Text.lower_lower]
  · exact hp.small name hname

theorem mem_tokensAsked {p : RewardProgram} {token : String}
    (hmem : Text.lower token ∈ p.tracker.rewardTokens) :
    Text.lower token ∈ tokensAsked p (some token) := by
  unfold tokensAsked
  dsimp only
  split
  · exact hmem
  · exact List.mem_singleton.mpr rfl

theorem leaves_collect_of_each {asked : Option String} (hprogram : v.token.rewards = some p)
    {answered : StaticVault → Prop} {failed : Fault → StaticVault → Prop}
    (h : (Act.mapEach (collectListed p) (tokensAsked p asked)).Leaves v
      (fun _ v' => answered v') failed) :
    (collect asked).Leaves v (fun _ v' => answered v') failed := by
  unfold collect
  rw [Act.leaves_bind, Act.leaves_current, hprogram]
  dsimp only
  rw [Act.leaves_bind]
  change (Act.mapEach (collectListed p) (tokensAsked p asked)).Leaves v _ _
  apply h.mono _ (fun _ _ h => h)
  intro _ v' hdone
  rw [Act.leaves_ite]
  exact ⟨fun _ => hdone, fun _ => hdone⟩

theorem forwarded_collect {asked : Option String} (hv : v.Orderly) :
    (collect asked).Leaves v (fun _ v' => ∀ name, Forwarded name v v')
      (fun e v' => (∀ name, Forwarded name v v') ∨ e.IsOverflow) := by
  rcases hv.token.program with ⟨p, hprogram, hp⟩
  have hall : ∀ {v'}, Tends (tokensAsked p asked) v v' →
      (∀ name ∈ tokensAsked p asked, Forwarded name v v') → ∀ name, Forwarded name v v' := by
    intro v' htends hforwarded name
    by_cases hname : name ∈ tokensAsked p asked
    · exact hforwarded name hname
    · exact (htends.others name hname).forwarded
  apply leaves_collect_of_each hprogram
  apply (leaves_collectEach hv hp (nodup_tokensAsked hp.sound asked)
    fun _ hname => small_of_mem_tokensAsked hp.sound hname).mono
  · intro _ v' h
    exact hall h.left fun name hname => (h.right name hname).forwarded
  · intro _ v' h
    exact h.right.right.imp_left (hall h.left)

theorem leaves_collect {asked : Option String} (hv : v.Orderly) :
    (collect asked).Leaves v
      (fun _ v' => Gathers v v' ∧ ∀ token p, asked = some token → v.token.rewards = some p →
        Text.lower token ∈ p.tracker.rewardTokens → Collected (Text.lower token) v v')
      (fun _ v' => Gathers v v') := by
  rcases hv.token.program with ⟨p, hprogram, hp⟩
  apply leaves_collect_of_each hprogram
  apply (leaves_collectEach hv hp (nodup_tokensAsked hp.sound asked)
    fun _ hname => small_of_mem_tokensAsked hp.sound hname).mono
  · intro results v' h
    rcases h with ⟨htends, hcollected⟩
    refine ⟨htends.gathers fun name hname => (hcollected name hname).gathered, ?_⟩
    intro token p' hsome hprogram' hmem
    rw [hprogram] at hprogram'
    cases hprogram'
    cases hsome
    exact hcollected _ (mem_tokensAsked hmem)
  · intro _ v' h
    exact h.left.gathers h.right.left

end StaticVault
end ReserveAccounting
