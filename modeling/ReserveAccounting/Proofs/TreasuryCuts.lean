import ReserveAccounting.Proofs.RefusedCalls
import ReserveAccounting.Proofs.RewardPayouts

/-!
# Treasury cuts

A claim marks everything that its holder has accrued as claimed. The treasury
keeps a part of it by the factor of the moment, and the holder is paid the rest:
the two add up to what was marked, whatever the factors of a run.
-/

namespace ReserveAccounting

open FixedPoint

namespace RewardTracker

variable {t t' : RewardTracker} {name x token : String}

/-!
# Payments of a tracker
-/

def paidToHolders (t : RewardTracker) (name : String) : Int :=
  t.paidOut name - (t.tokenOf name).treasuryClaimed

theorem treasuryClaimed_of_mem (ht : t.Sound) (h : name ∈ t.rewardTokens) :
    t.treasuryClaimed name = .ok (t.tokenOf name).treasuryClaimed := by
  have hname : Text.lower name = name := ht.small name h
  have hstate := @tokenState_of_mem t ht name
  rw [hname] at hstate
  unfold treasuryClaimed
  rw [hstate h]
  exact tokenFigure_of_sound ht name _ .treasuryClaimed

structure SamePayments (t t' : RewardTracker) : Prop where
  claimed : ∀ name x, (t'.stateOf name x).claimed = (t.stateOf name x).claimed
  treasury : ∀ name, (t'.tokenOf name).treasuryClaimed = (t.tokenOf name).treasuryClaimed

namespace SamePayments

theorem refl (t : RewardTracker) : SamePayments t t where
  claimed _ _ := rfl
  treasury _ := rfl

theorem paidToHolders_eq (h : t.SamePayments t') (name : String) :
    t'.paidToHolders name = t.paidToHolders name := by
  unfold paidToHolders
  rw [paidOut_congr fun x => h.claimed name x, h.treasury]

theorem of_settles {basisOf : String → Int} {p : String → String → Prop}
    (h : t.Settles basisOf p t') : t.SamePayments t' where
  claimed name x := by
    rcases h.states name x with hsame | ⟨earned, _, haccrues⟩
    · rw [hsame]
    · rw [haccrues]
  treasury name := by
    rw [h.differs.tokenOf_eq]

theorem of_withHolder {s : HolderRewardState} (h : s.claimed = (t.stateOf name x).claimed) :
    t.SamePayments (t.withHolder name x s) where
  claimed name' x' := by
    rw [stateOf_withHolder]
    split
    · next heq =>
        rw [heq.left, heq.right]
        exact h
    · rfl
  treasury _ := rfl

theorem of_withToken {s : RewardTokenState}
    (h : s.treasuryClaimed = (t.tokenOf name).treasuryClaimed) :
    t.SamePayments (t.withToken name s) where
  claimed _ _ := rfl
  treasury name' := by
    rw [tokenOf_withToken]
    split
    · next heq =>
        rw [heq]
        exact h
    · rfl

theorem of_withRegistered (ht : t.Sound) (h : name ∉ t.rewardTokens) :
    t.SamePayments (t.withRegistered name) where
  claimed name' x' := by
    unfold stateOf
    rw [statesOf_withRegistered ht h]
  treasury name' := by
    rw [tokenOf_withRegistered ht h]

end SamePayments

theorem paidToHolders_withHolder (s : HolderRewardState) (y : String) :
    (t.withHolder name x s).paidToHolders y =
      t.paidToHolders y + if y = name then s.claimed - (t.stateOf name x).claimed else 0 := by
  unfold paidToHolders
  rw [paidOut_withHolder, tokenOf_withHolder]
  omega

theorem paidToHolders_withToken (s : RewardTokenState) (y : String) :
    (t.withToken name s).paidToHolders y = t.paidToHolders y -
      if y = name then s.treasuryClaimed - (t.tokenOf name).treasuryClaimed else 0 := by
  have hpaid : (t.withToken name s).paidOut y = t.paidOut y := rfl
  unfold paidToHolders
  rw [hpaid, tokenOf_withToken]
  split
  · next hy =>
      subst hy
      omega
  · omega

theorem samePayments_checkpoint (ht : t.Sound) {basis : Int} :
    (checkpoint x token basis).Leaves t (fun _ t' => t.SamePayments t')
      (fun _ t' => t.SamePayments t') := by
  apply (leaves_checkpoint ht).mono
  · intro _ t' h
    rcases h with ⟨_, s, ⟨earned, _, rfl⟩, rfl⟩
    exact SamePayments.of_withHolder rfl
  · intro _ t' h
    rcases h with rfl | ⟨_, rfl⟩
    · exact SamePayments.refl t'
    · exact SamePayments.of_withHolder rfl

theorem samePayments_register (ht : t.Sound) :
    (register token).Leaves t (fun _ t' => t.SamePayments t') (fun _ t' => t.SamePayments t') := by
  apply (leaves_register ht).mono
  · intro _ t' h
    rcases h with ⟨_, rfl | ⟨hnew, rfl⟩⟩
    · exact SamePayments.refl t'
    · exact SamePayments.of_withRegistered ht hnew
  · intro _ t' h
    rcases h with rfl
    exact SamePayments.refl t'

theorem samePayments_distribute (ht : t.Sound) {amount supply : Int} :
    (distribute token amount supply).Leaves t (fun _ t' => t.SamePayments t')
      (fun _ t' => t.SamePayments t') := by
  apply (leaves_distribute ht).mono
  · intro _ t' h
    rcases h with ⟨_, _, s, ⟨increment, _, rfl⟩, rfl⟩
    exact SamePayments.of_withToken rfl
  · intro _ t' h
    rcases h with ⟨_, rfl⟩ | ⟨_, _, rfl, _⟩
    · exact SamePayments.refl t'
    · exact SamePayments.of_withToken rfl

end RewardTracker

/-!
# Payments of a token
-/

namespace DepositToken

variable {s s' : DepositToken} {program : RewardProgram} {t : RewardTracker}
  {holder token : String} {paid : String → Int}

/-- Since some tracker, the holders of each reward token were paid some more of it. -/
def PaysOut (t : RewardTracker) (paid : String → Int) (s' : DepositToken) : Prop :=
  ∃ t', s'.Tracks t' ∧ ∀ name, t'.paidToHolders name = t.paidToHolders name + paid name

theorem PaysOut.of_same {t' : RewardTracker} (htracks : s'.Tracks t') (h : t.SamePayments t')
    (hpaid : ∀ name, paid name = 0) : PaysOut t paid s' := by
  refine ⟨t', htracks, ?_⟩
  intro name
  rw [h.paidToHolders_eq, hpaid, Int.add_zero]

theorem paysOut_onRewards {α : Type} {m : Act RewardTracker α} (hprogram : s.rewards = some program)
    (hm : m.Leaves program.tracker (fun _ t' => program.tracker.SamePayments t')
      (fun _ t' => program.tracker.SamePayments t')) (hpaid : ∀ name, paid name = 0) :
    (onRewards m).Leaves s (fun _ s' => PaysOut program.tracker paid s')
      (fun _ s' => PaysOut program.tracker paid s') := by
  rw [leaves_onRewards hprogram]
  exact hm.mono (fun _ _ h => PaysOut.of_same ⟨_, rfl, rfl⟩ h hpaid)
    (fun _ _ h => PaysOut.of_same ⟨_, rfl, rfl⟩ h hpaid)

/--
A claim pays its holder what is left past the cut of the treasury. One that
fails pays nothing, unless the cut itself is too large to be computed.
-/
theorem paysOut_claim (hprogram : s.rewards = some program) (hp : program.Honest) :
    (claim holder token).Leaves s
      (fun c s' => PaysOut program.tracker
        (fun name => if name = Text.lower token then c.toHolder else 0) s')
      (fun e s' => ¬ e.IsOverflow → PaysOut program.tracker (fun _ => 0) s') := by
  apply leaves_claim_of_steps hprogram
  rw [hp.factor_eq]
  apply ((RewardTracker.leaves_checkpoint hp.sound).and
    ((RewardTracker.touches_checkpoint hp.sound hp.paid).and
      (RewardTracker.samePayments_checkpoint hp.sound))).mono
  · intro _ t₁ hleft
    rcases hleft with ⟨⟨hmem, state, _, hsettled⟩, htouches, hsame⟩
    have ht₁ := htouches.sound
    have hmem₁ : Text.lower token ∈ t₁.rewardTokens := by
      rw [hsettled]
      exact hmem
    refine ⟨fun _ h => (nomatch h), ?_⟩
    intro _ hleft
    cases hleft
    apply ((RewardTracker.leaves_claim ht₁).and
      (RewardTracker.stops_claim ht₁ htouches.paid hmem₁ hp.factor)).mono
    · intro c t₂ hleft
      rcases hleft with ⟨⟨_, hclaimable, hmarked⟩, _⟩
      have ht₂ : t₂.Sound := by
        rw [hmarked]
        exact RewardTracker.sound_withHolder ht₁ hmem₁ (Text.lower_lower _) _
      have hpaid₂ : ∀ name, t₂.paidToHolders name = program.tracker.paidToHolders name +
          if name = Text.lower token then c.claimable else 0 := by
        intro name
        rw [hmarked, RewardTracker.paidToHolders_withHolder, hsame.paidToHolders_eq, hclaimable]
        rfl
      constructor
      · intro _
        apply (RewardTracker.leaves_recordTreasuryCut ht₂).mono
        · intro _ t₃ hleft events
          rcases hleft with ⟨_, rfl⟩
          refine ⟨_, ⟨_, rfl, rfl⟩, fun name => ?_⟩
          rw [RewardTracker.paidToHolders_withToken, hpaid₂]
          unfold RewardClaim.toHolder
          dsimp only
          split <;> omega
        · intro _ _ hleft
          rw [hmarked] at hleft
          exact absurd hmem₁ hleft.left
      · intro hzero events
        refine ⟨_, ⟨_, rfl, rfl⟩, fun name => ?_⟩
        rw [hpaid₂]
        unfold RewardClaim.toHolder
        rw [hzero, Int.sub_zero]
    · intro e _ hleft hsize
      exact absurd hleft.right hsize
  · intro e t₁ hleft _
    exact PaysOut.of_same ⟨_, rfl, rfl⟩ hleft.right.right fun _ => rfl

end DepositToken

structure Payout where
  before : DepositToken
  holder : String
  token : String
  claim : RewardClaim

def Payout.KeepsEarnings (m : Payout) : Prop :=
  ∃ p p', m.before.rewards = some p ∧
    ((TokenCall.claim m.holder m.token).after m.before).rewards = some p' ∧
    ∀ name, (p'.tracker.tokenOf name).lifetimeRewards = (p.tracker.tokenOf name).lifetimeRewards ∧
      ∀ x, (p'.tracker.stateOf name x).accrued =
        ((m.before.checkpointedFor p.tracker m.holder m.token).stateOf name x).accrued

namespace TokenCall

variable {s start : DepositToken} {t : RewardTracker} {name : String}

def RaisesOverflow (c : TokenCall) (s : DepositToken) : Prop :=
  ∃ e, (Act.run c.perform s).1 = .error e ∧ e.IsOverflow

def payout? (c : TokenCall) (s : DepositToken) : Option Payout :=
  match c with
  | claim holder token =>
      match (Act.run (DepositToken.claim holder token) s).1 with
      | .ok answer => some ⟨s, holder, token, answer⟩
      | .error _ => none
  | _ => none

def paidBy (payouts : List Payout) (name : String) : Int :=
  ((payouts.filter fun m => name = Text.lower m.token).map fun m => m.claim.toHolder).sum

theorem paidBy_append (payouts payouts' : List Payout) (name : String) :
    paidBy (payouts ++ payouts') name = paidBy payouts name + paidBy payouts' name := by
  unfold paidBy
  rw [List.filter_append, List.map_append, List.sum_append]

theorem paidBy_singleton (m : Payout) (name : String) :
    paidBy [m] name = if name = Text.lower m.token then m.claim.toHolder else 0 := by
  unfold paidBy
  by_cases hname : name = Text.lower m.token <;> simp [hname]

theorem paysOut_after (c : TokenCall) (hs : s.Honest) (hprogram : s.Tracks t)
    (hsize : ¬ c.RaisesOverflow s) :
    DepositToken.PaysOut t (paidBy (c.payout? s).toList) (c.after s) := by
  rcases hprogram with ⟨p, hrewards, rfl⟩
  have hp : p.Honest := by
    rcases hs.program with ⟨p', hrewards', hp⟩
    rw [hrewards] at hrewards'
    cases hrewards'
    exact hp
  have hnothing : ∀ name, paidBy [] name = 0 := fun _ => rfl
  have hbooks : c.isOfRewards = false → DepositToken.PaysOut p.tracker (paidBy []) (c.after s) := by
    intro hc
    rcases tracks_after_of_books hc hs.shares ⟨p, hrewards, rfl⟩ hp.sound with
      ⟨t', htracks, rfl | rfl, _⟩
    · exact DepositToken.PaysOut.of_same htracks (RewardTracker.SamePayments.refl _) hnothing
    · exact DepositToken.PaysOut.of_same htracks (RewardTracker.SamePayments.of_settles
        (DepositToken.settles_afterPass hp.sound (c.pass_small s))) hnothing
  cases c with
  | claim holder token =>
      have hpays := @DepositToken.paysOut_claim s p holder token hrewards hp
      unfold RaisesOverflow at hsize
      unfold after payout?
      rw [perform, Act.run_ending] at hsize ⊢
      dsimp only
      rcases hrun : Act.run (DepositToken.claim holder token) s with ⟨outcome, s'⟩
      cases outcome with
      | ok answer =>
          rcases hpays.of_ok hrun with ⟨t', htracks, hpaid⟩
          refine ⟨t', htracks, fun name => ?_⟩
          rw [hpaid]
          exact congrArg _ (paidBy_singleton ⟨s, holder, token, answer⟩ name).symm
      | error e =>
          apply hpays.of_error hrun
          intro hover
          apply hsize
          exact ⟨e, by rw [hrun]; rfl, hover⟩
  | registerRewardToken token =>
      apply @Act.Leaves.state _ _ (registerRewardToken token).perform s
      rw [perform, Act.leaves_ending]
      exact DepositToken.paysOut_onRewards hrewards (RewardTracker.samePayments_register hp.sound)
        hnothing
  | distributeRewards token amount =>
      apply @Act.Leaves.state _ _ (distributeRewards token amount).perform s
      rw [perform, Act.leaves_ending, DepositToken.distributeRewards, Act.leaves_bind,
        Act.leaves_current]
      exact DepositToken.paysOut_onRewards hrewards
        (RewardTracker.samePayments_distribute hp.sound) hnothing
  | setReserveFactor caller factor =>
      exact DepositToken.PaysOut.of_same (tracks_after_setReserveFactor caller factor
        ⟨p, hrewards, rfl⟩) (RewardTracker.SamePayments.refl _) hnothing
  | _ => exact hbooks rfl

/-!
# Whole runs
-/

instance (c : TokenCall) (s : DepositToken) : Decidable (c.RaisesOverflow s) :=
  decidable_of_iff (∃ r ∈ Act.refusal? (Act.run c.perform s).1, r.kind = .overflow)
    Act.exists_isOverflow_iff.symm

def NeverRaisesOverflow : List TokenCall → DepositToken → Prop
  | [], _ => True
  | c :: rest, s => ¬ c.RaisesOverflow s ∧ NeverRaisesOverflow rest (c.after s)

instance decidableNeverRaisesOverflow : (calls : List TokenCall) → (s : DepositToken) →
    Decidable (NeverRaisesOverflow calls s)
  | [], _ => inferInstanceAs (Decidable True)
  | c :: rest, s =>
      have := decidableNeverRaisesOverflow rest (c.after s)
      inferInstanceAs (Decidable (¬ c.RaisesOverflow s ∧ NeverRaisesOverflow rest (c.after s)))

def payoutsIn : List TokenCall → DepositToken → List Payout
  | [], _ => []
  | c :: rest, s => (c.payout? s).toList ++ payoutsIn rest (c.after s)

theorem paysOut_afterAll (calls : List TokenCall) (hs : start.Honest) (hprogram : start.Tracks t)
    (hsizes : NeverRaisesOverflow calls start) :
    DepositToken.PaysOut t (paidBy (payoutsIn calls start)) (afterAll calls start) := by
  induction calls generalizing start t with
  | nil =>
      exact DepositToken.PaysOut.of_same hprogram (RewardTracker.SamePayments.refl t) fun _ => rfl
  | cons c rest ih =>
      rcases hsizes with ⟨hsize, hsizes⟩
      rcases paysOut_after c hs hprogram hsize with ⟨t₁, htracks₁, hfirst⟩
      rcases ih (honest_after c hs) htracks₁ hsizes with ⟨t₂, htracks₂, hrest⟩
      refine ⟨t₂, htracks₂, fun name => ?_⟩
      rw [hrest, hfirst, payoutsIn, paidBy_append, Int.add_assoc]

theorem answered_of_payout? {c : TokenCall} {m : Payout} (h : c.payout? s = some m) :
    m.before = s ∧ c = claim m.holder m.token ∧
      (Act.run (DepositToken.claim m.holder m.token) s).1 = .ok m.claim := by
  unfold payout? at h
  split at h
  · next holder token =>
      split at h
      · next answer hrun =>
          cases h
          exact ⟨rfl, rfl, hrun⟩
      · cases h
  · cases h

theorem answered_of_mem_payoutsIn {calls : List TokenCall} {m : Payout} (hs : start.Honest)
    (hm : m ∈ payoutsIn calls start) : m.before.Honest ∧
      (Act.run (DepositToken.claim m.holder m.token) m.before).1 = .ok m.claim := by
  induction calls generalizing start with
  | nil => cases hm
  | cons c rest ih =>
      rcases List.mem_append.mp hm with hm | hm
      · rw [Option.mem_toList] at hm
        rcases answered_of_payout? hm with ⟨rfl, _, hrun⟩
        exact ⟨hs, hrun⟩
      · exact ih (honest_after c hs) hm

theorem keepsEarnings_of_honest {m : Payout} (hs : m.before.Honest) : m.KeepsEarnings := by
  rcases hs.program with ⟨p, hprogram, hp⟩
  rcases tracks_after_claim m.holder m.token ⟨p, hprogram, rfl⟩ hp.sound with
    ⟨_, ⟨p', hprogram', rfl⟩, hpreserves⟩
  refine ⟨p, p', hprogram, hprogram', fun name => ⟨?_, hpreserves.earnings.accrued name⟩⟩
  rw [hpreserves.earnings.received, (settles_checkpointedFor hp.sound).differs.tokenOf_eq]

/--
In every run from empty books and an empty tracker in which no call fails for
the size of an amount, whatever factors it sets: what claims have paid to the
holders of a reward token and what the treasury has kept of it add up to what
the holders have claimed. Each cut is a part of what was claimable, and takes
nothing from what anybody has accrued or from what was received.
-/
theorem claimed_divided {program : RewardProgram} (hbooks : start.model.ledger = .empty)
    (hprogram : start.rewards = some program)
    (htracker : program.tracker = .empty program.tracker.capacity)
    (hstray : program.strayFactor = none) (hfactor : DepositToken.requireProgram program = .ok ())
    (calls : List TokenCall) (hsizes : NeverRaisesOverflow calls start) :
    let s := afterAll calls start
    (∃ p, s.rewards = some p ∧ ∀ token ∈ p.tracker.rewardTokens, ∃ treasury,
      s.ofTracker (fun t => t.treasuryClaimed token) = .ok treasury ∧
      paidBy (payoutsIn calls start) token + treasury =
        ∑ x ∈ s.accounts p.tracker token, (p.tracker.stateOf token x).claimed) ∧
    ∀ m ∈ payoutsIn calls start,
      (0 ≤ m.claim.treasuryCut ∧ m.claim.treasuryCut ≤ m.claim.claimable) ∧ m.KeepsEarnings := by
  intro s
  have hstart : start.Honest := by
    refine ⟨?_, program, hprogram, ?_, ?_, hstray, ?_⟩
    · rw [hbooks]
      exact ShareLedger.sound_empty
    · rw [htracker]
      exact RewardTracker.sound_empty _
    · rw [htracker]
      exact RewardTracker.paysWithin_empty _
    · exact DepositToken.factor_of_requireProgram hstray hfactor
  constructor
  · have hs : s.Honest := afterAll_induction (fun c _ hs => honest_after c hs) hstart calls
    rcases hs.program with ⟨p, hp, hhonest⟩
    refine ⟨p, hp, ?_⟩
    intro token htoken
    rcases paysOut_afterAll calls hstart ⟨program, hprogram, rfl⟩ hsizes with ⟨t, htracks, hpaid⟩
    cases htracks.unique ⟨p, hp, rfl⟩
    have hnone : program.tracker.paidToHolders token = 0 := by
      rw [htracker]
      rfl
    have haccounts : ∀ x ∈ (p.tracker.statesOf token).keys, x ∈ s.accounts p.tracker token :=
      fun x hx => List.mem_toFinset.mpr (List.mem_append_right _ hx)
    refine ⟨(p.tracker.tokenOf token).treasuryClaimed, ?_, ?_⟩
    · unfold DepositToken.ofTracker
      rw [DepositToken.program_eq_ok.mpr hp]
      exact RewardTracker.treasuryClaimed_of_mem hhonest.sound htoken
    · rw [← RewardTracker.paidOut_eq haccounts]
      have hall := hpaid token
      rw [hnone] at hall
      unfold RewardTracker.paidToHolders at hall
      omega
  · intro m hm
    rcases answered_of_mem_payoutsIn hstart hm with ⟨hs, hrun⟩
    refine ⟨?_, keepsEarnings_of_honest hs⟩
    exact (DepositToken.cutsWithin_claim hs).of_ok (Prod.ext hrun rfl)

/-- Half of a first claim goes to the treasury, a quarter of the later ones, rounded. -/
theorem claimed_divided_two_factors :
    let program : RewardProgram := .empty 5000
    let start : DepositToken := .atOne (.plain .empty) (some program)
    let calls := [registerRewardToken "REW", mint "pool" "Alice" 2 ray, mint "pool" "Bob" 1 ray,
      distributeRewards "rew" 9, claim "alice" "rew", setReserveFactor "pool" 2500,
      distributeRewards "rew" 6, claim "Bob" "REW", claim "ALICE" "rew", claim "bob" "rew"]
    let s := afterAll calls start
    start.model.ledger = .empty ∧ start.rewards = some program ∧
      program.tracker = .empty program.tracker.capacity ∧ program.strayFactor = none ∧
      DepositToken.requireProgram program = .ok () ∧ NeverRaisesOverflow calls start ∧
      (payoutsIn calls start).map (fun m => (m.claim.claimable, m.claim.treasuryCut)) =
        [(6, 3), (5, 1), (4, 1), (0, 0)] ∧
      s.ofTracker (fun t => t.treasuryClaimed "rew") = .ok 5 ∧
      (∃ p, s.rewards = some p ∧ ∀ token ∈ p.tracker.rewardTokens, ∃ treasury,
        s.ofTracker (fun t => t.treasuryClaimed token) = .ok treasury ∧
        paidBy (payoutsIn calls start) token + treasury =
          ∑ x ∈ s.accounts p.tracker token, (p.tracker.stateOf token x).claimed) ∧
      ∀ m ∈ payoutsIn calls start,
        (0 ≤ m.claim.treasuryCut ∧ m.claim.treasuryCut ≤ m.claim.claimable) ∧
          m.KeepsEarnings := by
  intro program start calls s
  have hbooks : start.model.ledger = .empty := rfl
  have hprogram : start.rewards = some program := rfl
  have htracker : program.tracker = .empty program.tracker.capacity := rfl
  have hstray : program.strayFactor = none := rfl
  have hfactor : DepositToken.requireProgram program = .ok () := rfl
  have hsizes : NeverRaisesOverflow calls start := by decide +kernel
  refine ⟨hbooks, hprogram, htracker, hstray, hfactor, hsizes, ?_, ?_,
    claimed_divided hbooks hprogram htracker hstray hfactor calls hsizes⟩
  · decide +kernel
  · exact Act.eq_ok_of_toOption (by decide +kernel)

end TokenCall
end ReserveAccounting
