import ReserveAccounting.Proofs.RewardTransparency

/-!
# Runs with and without rewards

A run of a token with rewards and the run of the same token without them, less
the calls of the rewards, go through the same books and give the same answers,
as long as no checkpoint is stopped.
-/

namespace ReserveAccounting

open FixedPoint

namespace DepositToken

variable {s s' : DepositToken} {α β : Type} {accounts : List String} {t : RewardTracker}

/-!
# Calls that are stopped at a checkpoint
-/

def StopsForSize (s : DepositToken) (accounts : List String) : Prop :=
  ¬ s.Completes accounts ∧ ∀ program, s.rewards = some program →
    (RewardTracker.checkpointHolders s.model.rewardBasisOf accounts).Leaves program.tracker
      (fun _ _ => True) (fun e _ => e.IsOverflow)

/-- Twice what has come in of any reward token fits a word, in rays. -/
def RewardsFit (s : DepositToken) : Prop :=
  ∀ q, s.rewards = some q → ∀ token ∈ q.tracker.rewardTokens,
    2 * ray * (q.tracker.tokenOf token).lifetimeRewards + ray / 2 ≤ maxAmount

theorem completes_nil : s.Completes [] := fun program _ => ⟨[], program.tracker, rfl⟩

theorem StopsForSize.leaves_checkpointHolders (h : s.StopsForSize accounts) :
    (checkpointHolders accounts).Leaves s (fun _ _ => False) (fun e _ => e.IsOverflow) := by
  rcases h with ⟨hstop, hsize⟩
  unfold checkpointHolders
  rw [Act.leaves_bind, Act.leaves_current]
  cases hrewards : s.rewards with
  | none =>
      exfalso
      apply hstop
      intro program hprogram
      rw [hrewards] at hprogram
      cases hprogram
  | some program =>
      dsimp only
      rw [leaves_onRewards hrewards]
      apply Act.leaves_of_run
      · intro saved t' hrun
        apply hstop
        intro program' hprogram
        rw [hrewards] at hprogram
        cases hprogram
        exact ⟨saved, t', hrun⟩
      · intro e t' hrun
        exact (hsize program hrewards).of_error hrun

theorem StopsForSize.of_ledger {model : BalanceModel} (hledger : model.ledger = s.model.ledger)
    (h : s.StopsForSize accounts) : StopsForSize { s with model := model } accounts := by
  have hbasis : model.rewardBasisOf = s.model.rewardBasisOf := by
    unfold BalanceModel.rewardBasisOf
    rw [hledger]
  unfold StopsForSize Completes
  rw [hbasis]
  exact h

theorem StopsForSize.leaves_applyChange {change : Act BalanceModel α} (hpins : s.pins = true)
    (h : s.StopsForSize accounts) :
    (applyChange accounts change).Leaves s (fun _ _ => False) (fun e _ => e.IsOverflow) := by
  unfold applyChange withPinnedRate
  rw [Act.leaves_bind, leaves_onModel]
  apply Act.leaves_of_run
  · intro mine model hrun
    have hstops := h.of_ledger (BalanceModel.leaves_pinRate.of_ok hrun).left
    have hinner : (checkpointHolders accounts >>= fun saved =>
        (onModel change).onRefusal (withRestored saved)).Leaves { s with model := model }
        (fun _ _ => False) (fun e _ => e.IsOverflow) := by
      rw [Act.leaves_bind]
      exact hstops.leaves_checkpointHolders.mono (fun _ _ h => h.elim) (fun _ _ h => h)
    rw [Act.leaves_ite, Act.leaves_thenAlways]
    exact ⟨fun _ => hinner, fun _ => hinner⟩
  · intro e model hrun
    unfold pins at hpins
    rw [hrun] at hpins
    cases hpins

theorem StopsForSize.leaves_bookAtIndex {caller holder : String} {index : Int} {reason : String}
    {change : Act BalanceModel α} {next : α → Act DepositToken β}
    (h : s.StopsForSize (s.poolPass caller holder index)) :
    (do
      s.reserve.admits index
      let a ← applyChange [Text.lower holder] change
      let _ ← onReserve (ReserveIndex.raise index reason)
      next a : Act DepositToken β).Leaves s (fun _ _ => False) (fun e _ => e.IsOverflow) := by
  by_cases hreached : Text.lower caller = s.pool ∧ (s.reserve.admits index).isOk ∧ s.pins
  · unfold poolPass at h
    rw [if_pos hreached] at h
    rw [Act.leaves_bind, Act.leaves_refusable]
    constructor
    · intro _ _
      rw [Act.leaves_bind]
      exact (h.leaves_applyChange hreached.right.right).mono (fun _ _ h => h.elim) (fun _ _ h => h)
    · intro r hr
      have hadmits := hreached.right.left
      rw [hr] at hadmits
      cases hadmits
  · unfold poolPass at h
    rw [if_neg hreached] at h
    exact absurd completes_nil h.left

theorem StopsForSize.caller_eq {caller holder : String} {index : Int}
    (h : s.StopsForSize (s.poolPass caller holder index)) : Text.lower caller = s.pool := by
  by_contra hcaller
  unfold poolPass at h
  rw [if_neg fun hreached => hcaller hreached.left] at h
  exact h.left completes_nil

theorem StopsForSize.leaves_mint {caller holder : String} {amount index : Int}
    (h : s.StopsForSize (s.poolPass caller holder index)) :
    (mint caller holder amount index).Leaves s (fun _ _ => False) (fun e _ => e.IsOverflow) := by
  unfold mint
  rw [Act.leaves_bind]
  apply leaves_requirePool.mono
  · intro _ s₀ hleft
    rcases hleft with ⟨rfl, _⟩
    rw [Act.leaves_bind, Act.leaves_current]
    exact h.leaves_bookAtIndex
  · intro _ s₀ hleft
    exact absurd h.caller_eq hleft.right

theorem StopsForSize.leaves_burn {caller holder receiver : String} {amount index : Int}
    (h : s.StopsForSize (s.poolPass caller holder index)) :
    (burn caller holder receiver amount index).Leaves s (fun _ _ => False)
      (fun e _ => e.IsOverflow) := by
  unfold burn
  rw [Act.leaves_bind]
  apply leaves_requirePool.mono
  · intro _ s₀ hleft
    rcases hleft with ⟨rfl, _⟩
    rw [Act.leaves_bind, Act.leaves_current]
    exact h.leaves_bookAtIndex
  · intro _ s₀ hleft
    exact absurd h.caller_eq hleft.right

theorem StopsForSize.leaves_mintToTreasury {caller : String} {amount index : Int}
    (hamount : amount ≠ 0) (h : s.StopsForSize (s.poolPass caller s.treasury index)) :
    (mintToTreasury caller amount index).Leaves s (fun _ _ => False)
      (fun e _ => e.IsOverflow) := by
  unfold mintToTreasury
  rw [Act.leaves_bind]
  apply leaves_requirePool.mono
  · intro _ s₀ hleft
    rcases hleft with ⟨rfl, _⟩
    rw [if_neg hamount, Act.leaves_bind, Act.leaves_current]
    exact h.leaves_mint
  · intro _ s₀ hleft
    exact absurd h.caller_eq hleft.right

theorem StopsForSize.leaves_move {event sender recipient : String} {amount : Int}
    (h : s.StopsForSize (s.movePass sender recipient)) :
    (move event sender recipient amount).Leaves s (fun _ _ => False)
      (fun e _ => e.IsOverflow) := by
  by_cases hunreached : (Text.lower recipient = "" ∨ Text.lower recipient = zeroAccount) ∨ ¬ s.pins
  · unfold movePass at h
    rw [if_pos hunreached] at h
    exact absurd completes_nil h.left
  · unfold movePass at h
    rw [if_neg hunreached] at h
    rw [not_or, not_not] at hunreached
    unfold move
    rw [Act.leaves_bind, Act.leaves_current, if_neg hunreached.left, Act.leaves_bind]
    exact (h.leaves_applyChange hunreached.right).mono (fun _ _ h => h.elim) (fun _ _ h => h)

theorem StopsForSize.leaves_transfer {sender recipient : String} {amount : Int}
    (h : s.StopsForSize (s.movePass sender recipient)) :
    (transfer sender recipient amount).Leaves s (fun _ _ => False) (fun e _ => e.IsOverflow) := by
  unfold transfer
  rw [Act.leaves_bind]
  exact h.leaves_move.mono (fun _ _ h => h.elim) (fun _ _ h => h)

theorem StopsForSize.leaves_transferOnLiquidation {caller sender recipient : String} {amount : Int}
    (h : s.StopsForSize (s.seizurePass caller sender recipient)) :
    (transferOnLiquidation caller sender recipient amount).Leaves s (fun _ _ => False)
      (fun e _ => e.IsOverflow) := by
  by_cases hcaller : Text.lower caller = s.pool
  · unfold seizurePass at h
    rw [if_pos hcaller] at h
    unfold transferOnLiquidation
    rw [Act.leaves_bind]
    apply leaves_requirePool.mono
    · intro _ s₀ hleft
      rcases hleft with ⟨rfl, _⟩
      rw [Act.leaves_bind]
      exact h.leaves_move.mono (fun _ _ h => h.elim) (fun _ _ h => h)
    · intro _ s₀ hleft
      exact absurd hcaller hleft.right
  · unfold seizurePass at h
    rw [if_neg hcaller] at h
    exact absurd completes_nil h.left

/-!
# Calls of the rewards
-/

def SameBooks (s s' : DepositToken) : Prop := s'.withoutRewards [] = s.withoutRewards []

theorem SameBooks.withoutRewards_eq (h : s.SameBooks s') (events : List TokenEvent) :
    s'.withoutRewards events = s.withoutRewards events :=
  congrArg (fun p : DepositToken => { p with events := events }) h

theorem stable_sameBooks_onRewards {m : Act RewardTracker α} :
    Act.Stable s.SameBooks (onRewards m) := stable_onRewards_of fun _ _ h => h

theorem sameBooks_onRewards {m : Act RewardTracker α} :
    (onRewards m).Leaves s (fun _ s' => s.SameBooks s') (fun _ s' => s.SameBooks s') :=
  stable_sameBooks_onRewards.leaves rfl

theorem sameBooks_claim {holder token : String} :
    (claim holder token).Leaves s (fun _ s' => s.SameBooks s') (fun _ s' => s.SameBooks s') := by
  have hstable : Act.Stable s.SameBooks (claim holder token) :=
    stable_claim_of_rewards (fun _ => stable_sameBooks_onRewards) fun _ _ h => h
  exact hstable.leaves rfl

theorem sameBooks_setReserveFactor {caller : String} {factor : Int} :
    (setReserveFactor caller factor).Leaves s (fun _ s' => s.SameBooks s')
      (fun _ s' => s.SameBooks s') := by
  unfold setReserveFactor
  rw [Act.leaves_bind, Act.leaves_current, Act.leaves_bind, Act.leaves_faulty]
  refine ⟨fun program _ => ?_, fun _ _ => rfl⟩
  rw [Act.leaves_bind]
  apply leaves_requirePool.mono
  · intro _ s₀ hleft
    rcases hleft with ⟨rfl, _⟩
    rw [Act.leaves_bind, Act.leaves_refusable]
    exact ⟨fun _ _ => rfl, fun _ _ => rfl⟩
  · intro _ s₀ hleft
    rcases hleft with ⟨rfl, _⟩
    rfl

end DepositToken

namespace TokenCall

variable {s : DepositToken} {t : RewardTracker} {events : List TokenEvent}

/-!
# The answer of a call
-/

def answer : TokenCall → Act DepositToken Document
  | mint caller holder amount index => do
      return .bool (← DepositToken.mint caller holder amount index)
  | burn caller holder receiver amount index => do
      return .int (← DepositToken.burn caller holder receiver amount index)
  | mintToTreasury caller amount index => do
      return .bool (← DepositToken.mintToTreasury caller amount index)
  | transfer sender recipient amount => do
      return .bool (← DepositToken.transfer sender recipient amount)
  | transferOnLiquidation caller sender recipient amount => do
      return .bool (← DepositToken.transferOnLiquidation caller sender recipient amount)
  | injectFlashLoanPremium caller premium => do
      return .int (← DepositToken.injectFlashLoanPremium caller premium)
  | raiseIndex index reason => do
      return .int (← DepositToken.onReserve (ReserveIndex.raise index reason))
  | moveAsset asset => do
      Act.update fun t => { t with model := t.model.withAsset asset }
      return .null
  | registerRewardToken token => do
      return .bool (← DepositToken.registerRewardToken token)
  | distributeRewards token amount => DepositToken.distributeRewards token amount
  | claim holder token => do
      let c ← DepositToken.claim holder token
      return c.toDocument
  | setReserveFactor caller factor => do
      DepositToken.setReserveFactor caller factor
      return .null

theorem run_ending_answering {α β : Type} (m : Act DepositToken α) (f : α → β) :
    Act.run (Act.ending m) s = Act.run (Act.ending (do return f (← m))) s := by
  rw [Act.run_ending, Act.run_ending, Act.run_bind]
  rcases Act.run m s with ⟨outcome, s'⟩
  cases outcome <;> rfl

theorem run_perform (c : TokenCall) (s : DepositToken) :
    Act.run c.perform s =
      ((Act.run c.answer s).1.map fun _ => (), (Act.run c.answer s).2) := by
  rw [← Act.run_ending]
  cases c with
  | moveAsset asset => rfl
  | distributeRewards token amount => rfl
  | setReserveFactor caller factor =>
      unfold perform answer
      dsimp only
      rw [Act.run_ending, Act.run_bind]
      rcases Act.run (DepositToken.setReserveFactor caller factor) s with ⟨outcome, s'⟩
      cases outcome <;> rfl
  | _ => exact run_ending_answering _ _

theorem after_eq (c : TokenCall) (s : DepositToken) : c.after s = (Act.run c.answer s).2 := by
  unfold after
  rw [run_perform]

/-- Whether a checkpoint of a call is stopped. -/
def isStopped (c : TokenCall) (s : DepositToken) : Bool :=
  match s.rewards with
  | none => false
  | some program =>
      !(Act.run (RewardTracker.checkpointHolders s.model.rewardBasisOf (c.pass s))
        program.tracker).1.isOk

theorem isStopped_eq_false_iff {c : TokenCall} :
    c.isStopped s = false ↔ s.Completes (c.pass s) := by
  unfold isStopped DepositToken.Completes
  cases s.rewards with
  | none => simp
  | some program =>
      rcases hrun : Act.run (RewardTracker.checkpointHolders s.model.rewardBasisOf (c.pass s))
        program.tracker with ⟨outcome, t'⟩
      cases outcome <;> simp [hrun, Except.isOk, Except.toBool]

theorem mirrors_answering {α β : Type} {m : Act DepositToken α} (f : α → β)
    (h : DepositToken.Mirrors m m s events) :
    DepositToken.Mirrors (do return f (← m)) (do return f (← m)) s events :=
  h.bind fun _ _ _ _ => DepositToken.mirrors_pure _

theorem mirrors_answer {c : TokenCall} (events : List TokenEvent) (hc : c.isOfRewards = false)
    (h : s.Completes (c.pass s)) : DepositToken.Mirrors c.answer c.answer s events := by
  cases c with
  | mint caller holder amount index =>
      exact mirrors_answering _ (DepositToken.mirrors_mint h)
  | burn caller holder receiver amount index =>
      exact mirrors_answering _ (DepositToken.mirrors_burn h)
  | mintToTreasury caller amount index =>
      apply mirrors_answering
      apply DepositToken.mirrors_mintToTreasury
      intro hamount
      unfold pass at h
      dsimp only at h
      rw [if_neg hamount] at h
      exact h
  | transfer sender recipient amount =>
      exact mirrors_answering _ (DepositToken.mirrors_transfer h)
  | transferOnLiquidation caller sender recipient amount =>
      exact mirrors_answering _ (DepositToken.mirrors_transferOnLiquidation h)
  | injectFlashLoanPremium caller premium =>
      exact mirrors_answering _ DepositToken.mirrors_injectFlashLoanPremium
  | raiseIndex index reason => exact mirrors_answering _ (DepositToken.mirrors_onReserve _)
  | moveAsset asset => exact ⟨events, rfl⟩
  | _ => cases hc

theorem leaves_answering {α β : Type} {m : Act DepositToken α} (f : α → β)
    (h : m.Leaves s (fun _ _ => False) (fun e _ => e.IsOverflow)) :
    (do return f (← m) : Act DepositToken β).Leaves s (fun _ _ => False)
      (fun e _ => e.IsOverflow) := by
  rw [Act.leaves_bind]
  exact h.mono (fun _ _ h => h.elim) (fun _ _ h => h)

theorem leaves_answer_of_stops {c : TokenCall} (h : s.StopsForSize (c.pass s)) :
    c.answer.Leaves s (fun _ _ => False) (fun e _ => e.IsOverflow) := by
  cases c with
  | mint caller holder amount index =>
      exact leaves_answering _ (DepositToken.StopsForSize.leaves_mint h)
  | burn caller holder receiver amount index =>
      exact leaves_answering _ (DepositToken.StopsForSize.leaves_burn h)
  | mintToTreasury caller amount index =>
      apply leaves_answering
      by_cases hamount : amount = 0
      · unfold pass at h
        dsimp only at h
        rw [if_pos hamount] at h
        exact absurd DepositToken.completes_nil h.left
      · unfold pass at h
        dsimp only at h
        rw [if_neg hamount] at h
        exact h.leaves_mintToTreasury hamount
  | transfer sender recipient amount =>
      exact leaves_answering _ (DepositToken.StopsForSize.leaves_transfer h)
  | transferOnLiquidation caller sender recipient amount =>
      exact leaves_answering _ (DepositToken.StopsForSize.leaves_transferOnLiquidation h)
  | _ => exact absurd DepositToken.completes_nil h.left

theorem sameBooks_after {c : TokenCall} (hc : c.isOfRewards = true) :
    s.SameBooks (c.after s) := by
  apply @Act.Leaves.state _ _ c.perform s s.SameBooks
  cases c with
  | registerRewardToken token =>
      rw [perform, Act.leaves_ending]
      exact DepositToken.sameBooks_onRewards
  | distributeRewards token amount =>
      rw [perform, Act.leaves_ending, DepositToken.distributeRewards, Act.leaves_bind,
        Act.leaves_current]
      exact DepositToken.sameBooks_onRewards
  | claim holder token =>
      rw [perform, Act.leaves_ending]
      exact DepositToken.sameBooks_claim
  | setReserveFactor caller factor => exact DepositToken.sameBooks_setReserveFactor
  | _ => cases hc

/-!
# Room along a run
-/

theorem capped_after_of_books {c : TokenCall} (hc : c.isOfRewards = false)
    (hs : s.model.ledger.Sound) (hprogram : s.Tracks t) (ht : t.Sound)
    (hcapped : t.Capped s.model.ledger.held) :
    ∃ t', (c.after s).Tracks t' ∧ t'.Sound ∧ t'.Capped (c.after s).model.ledger.held := by
  rcases tracks_after_of_books hc hs hprogram ht with ⟨t', htracks, hpass, hheld⟩
  have hcapped' : t'.Sound ∧ t'.Capped s.model.ledger.held := by
    rcases hpass with rfl | rfl
    · exact ⟨ht, hcapped⟩
    · have hsettles := @DepositToken.settles_afterPass s t (c.pass s) ht (c.pass_small s)
      exact ⟨hsettles.sound, hcapped.of_settles hsettles⟩
  exact ⟨t', htracks, hcapped'.left, hcapped'.right.of_basis fun x _ => hheld x⟩

theorem capped_after (c : TokenCall) (hs : s.model.ledger.Sound) (hprogram : s.Tracks t)
    (ht : t.Sound) (hcapped : t.Capped s.model.ledger.held) :
    ∃ t', (c.after s).Tracks t' ∧ t'.Sound ∧ t'.Capped (c.after s).model.ledger.held := by
  cases c with
  | registerRewardToken token =>
      rcases tracks_after_registerRewardToken token hprogram ht with ⟨t', htracks, hpreserves⟩
      rw [ledger_after_of_rewards rfl hs]
      exact ⟨t', htracks, hpreserves.sound, hcapped.of_sameEarnings hpreserves.earnings⟩
  | claim holder token =>
      rcases tracks_after_claim holder token hprogram ht with ⟨t', htracks, hpreserves⟩
      have hsettled := hcapped.of_settles (@settles_checkpointedFor s t holder token ht)
      rw [ledger_after_of_rewards rfl hs]
      exact ⟨t', htracks, hpreserves.sound, hsettled.of_sameEarnings hpreserves.earnings⟩
  | setReserveFactor caller factor =>
      rw [ledger_after_of_rewards rfl hs]
      exact ⟨t, tracks_after_setReserveFactor caller factor hprogram, ht, hcapped⟩
  | distributeRewards token amount =>
      rw [ledger_after_of_rewards rfl hs]
      rcases tracks_after_distributeRewards token amount hprogram ht with
        ⟨t', htracks, rfl | ⟨hamount, hmem, state, rfl, hspreads | ⟨_, rfl⟩⟩⟩
      · exact ⟨t', htracks, ht, hcapped⟩
      · have hwaiting := waiting_of_spreads hspreads hamount (ht.waiting _)
        exact ⟨_, htracks, RewardTracker.sound_withToken ht hmem hwaiting,
          hcapped.spreads hs.held_le_totalShares hspreads⟩
      · exact ⟨_, htracks, RewardTracker.sound_withToken ht hmem (ht.waiting _),
          hcapped.received hamount⟩
  | _ => exact capped_after_of_books rfl hs hprogram ht hcapped

theorem stopsForSize_of_isStopped {c : TokenCall} (hs : s.model.ledger.Sound)
    (hprogram : s.Tracks t) (ht : t.Sound) (hcapped : t.Capped s.model.ledger.held)
    (hstop : c.isStopped s = true) :
    s.StopsForSize (c.pass s) ∧ ∃ x ∈ c.pass s, ∃ name ∈ t.rewardTokens,
      t.Crowded name (s.model.ledger.held x) := by
  have hincomplete : ¬ s.Completes (c.pass s) := by
    rw [← isStopped_eq_false_iff, hstop]
    decide
  have hbasis : ∀ x, Text.lower x = x → s.model.rewardBasisOf x = s.model.ledger.held x :=
    fun x hx => DepositToken.rewardBasisOf_of_small hx
  rcases hprogram with ⟨program, hrewards, rfl⟩
  have hstops := RewardTracker.stops_checkpointHolders ht
    (hcapped.of_basis fun x hx => Or.inl (hbasis x hx)) (c.pass_small s)
    (fun x _ => hs.nonneg (Text.lower x))
  refine ⟨⟨hincomplete, ?_⟩, ?_⟩
  · intro program' hprogram
    rw [hrewards] at hprogram
    cases hprogram
    exact hstops.mono (fun _ _ h => h) (fun _ _ h => h.left)
  · by_contra hnone
    apply hincomplete
    intro program' hprogram
    rw [hrewards] at hprogram
    cases hprogram
    rcases hrun : Act.run (RewardTracker.checkpointHolders s.model.rewardBasisOf (c.pass s))
      program.tracker with ⟨outcome, t'⟩
    cases outcome with
    | ok saved => exact ⟨saved, t', rfl⟩
    | error e =>
        rcases (hstops.of_error hrun).right with ⟨x, hx, name, hname, hcrowded⟩
        rw [hbasis x (c.pass_small s x hx)] at hcrowded
        exact absurd ⟨x, hx, name, hname, hcrowded⟩ hnone

/-!
# Two runs
-/

def NeverStopped : List TokenCall → DepositToken → Prop
  | [], _ => True
  | c :: rest, s => c.isStopped s = false ∧ NeverStopped rest (c.after s)

def ofBooks (calls : List TokenCall) : List TokenCall := calls.filter fun c => !c.isOfRewards

theorem afterAll_ofBooks {calls : List TokenCall} (events : List TokenEvent) (h : NeverStopped calls s) :
    ∃ events', afterAll (ofBooks calls) (s.withoutRewards events) =
      (afterAll calls s).withoutRewards events' := by
  induction calls generalizing s events with
  | nil => exact ⟨events, rfl⟩
  | cons c rest ih =>
      rcases h with ⟨hstop, hrest⟩
      unfold ofBooks
      cases hc : c.isOfRewards with
      | true =>
          rw [List.filter_cons_of_neg (by rw [hc]; decide),
            ← (sameBooks_after hc).withoutRewards_eq]
          exact ih events hrest
      | false =>
          rcases mirrors_answer events hc (isStopped_eq_false_iff.mp hstop) with
            ⟨events', hrun⟩
          have hafter : c.after (s.withoutRewards events) = (c.after s).withoutRewards events' := by
            rw [after_eq, after_eq, hrun]
          rw [List.filter_cons_of_pos (by rw [hc]; rfl), afterAll, hafter]
          exact ih events' hrest

/-- A call that is refused for the size of the amounts, of which one is too large. -/
structure StoppedAtCheckpoint (c : TokenCall) (s : DepositToken) : Prop where
  refused : ∃ r, (Act.run c.answer s).1 = .error (.refused r) ∧ r.kind = .overflow
  ledger : (c.after s).model.ledger = s.model.ledger
  reserve : (c.after s).reserve = s.reserve
  crowded : ∃ q, s.rewards = some q ∧ ∃ x ∈ c.pass s, ∃ token ∈ q.tracker.rewardTokens,
    maxAmount < s.model.ledger.held x ∨
      maxAmount < 2 * ray * (q.tracker.tokenOf token).lifetimeRewards + ray / 2

theorem stoppedAtCheckpoint {c : TokenCall} (hs : s.model.ledger.Sound) (hprogram : s.Tracks t)
    (ht : t.Sound) (hcapped : t.Capped s.model.ledger.held) (hstop : c.isStopped s = true) :
    c.StoppedAtCheckpoint s := by
  rcases stopsForSize_of_isStopped hs hprogram ht hcapped hstop with ⟨hstops, hcrowded⟩
  have hanswer := leaves_answer_of_stops hstops
  rcases hrun : Act.run c.answer s with ⟨outcome, s'⟩
  cases outcome with
  | ok document => exact (hanswer.of_ok hrun).elim
  | error e =>
      rcases hanswer.of_error hrun with ⟨r, rfl, hkind⟩
      have hperform : Act.run c.perform s = (.error (.refused r), c.after s) := by
        rw [after_eq, run_perform, hrun]
        rfl
      have hfails := (leaves_perform c hs.nonneg).of_error hperform
      rcases hprogram with ⟨program, hrewards, rfl⟩
      constructor
      · exact ⟨r, by rw [hrun], hkind⟩
      · exact hfails.ledger
      · exact hfails.reserve
      · exact ⟨program, hrewards, hcrowded⟩

theorem run_burn_of_rewardsFit {caller holder receiver : String} {amount index burned : Int}
    (hs : s.model.ledger.Sound) (hprogram : s.Tracks t) (ht : t.Sound)
    (hcapped : t.Capped s.model.ledger.held) (hfit : s.RewardsFit)
    (hplain : (Act.run (DepositToken.burn caller holder receiver amount index)
      (s.withoutRewards events)).1 = .ok burned) :
    (Act.run (DepositToken.burn caller holder receiver amount index) s).1 = .ok burned := by
  have hcompletes : s.Completes (s.poolPass caller holder index) := by
    change s.Completes ((burn caller holder receiver amount index).pass s)
    rw [← isStopped_eq_false_iff]
    by_contra hstop
    rw [Bool.not_eq_false] at hstop
    have hstopped := stoppedAtCheckpoint hs hprogram ht hcapped hstop
    rcases hstopped.crowded with ⟨q, hq, x, hx, token, htoken, hbasis | hroom⟩
    · have hfits : (s.withoutRewards events).model.ledger.held (Text.lower holder) ≤ maxAmount :=
        DepositToken.held_le_of_burn hplain
      change s.model.ledger.held (Text.lower holder) ≤ maxAmount at hfits
      have hpass : x ∈ s.poolPass caller holder index := hx
      unfold DepositToken.poolPass at hpass
      split at hpass
      · rw [List.mem_singleton.mp hpass] at hbasis
        omega
      · exact absurd hpass List.not_mem_nil
    · have := hfit q hq token htoken
      omega
  have hmirrors : DepositToken.Mirrors (DepositToken.burn caller holder receiver amount index)
      (DepositToken.burn caller holder receiver amount index) s events :=
    DepositToken.mirrors_burn hcompletes
  rcases hmirrors with ⟨events', hrun⟩
  rw [hrun] at hplain
  exact hplain

theorem tracked_afterAll {start : DepositToken} {program : RewardProgram}
    (hbooks : start.model.ledger = .empty) (hprogram : start.rewards = some program)
    (htracker : program.tracker = .empty program.tracker.capacity) (calls : List TokenCall) :
    (afterAll calls start).model.ledger.Sound ∧ ∃ t, (afterAll calls start).Tracks t ∧ t.Sound ∧
      t.Capped (afterAll calls start).model.ledger.held := by
  apply afterAll_induction (p := fun s => s.model.ledger.Sound ∧ ∃ t, s.Tracks t ∧ t.Sound ∧
    t.Capped s.model.ledger.held)
  · intro c s h
    rcases h with ⟨hs, t, htracks, ht, hcapped⟩
    exact ⟨sound_after c hs, capped_after c hs htracks ht hcapped⟩
  · rw [hbooks]
    refine ⟨ShareLedger.sound_empty, program.tracker, ⟨program, hprogram, rfl⟩, ?_⟩
    rw [htracker]
    exact ⟨RewardTracker.sound_empty _, RewardTracker.capped_empty _ _⟩

/--
From empty books and an empty tracker, after any run: the run without the
rewards, less their calls, goes through the same books and answers alike, as
long as no checkpoint is stopped. A checkpoint is stopped for the size of the
amounts alone, and then nothing is booked. What can be withdrawn without the
rewards can be withdrawn, while what has come in of them fits.
-/
theorem rewards_transparent {start : DepositToken} {program : RewardProgram}
    (hbooks : start.model.ledger = .empty) (hprogram : start.rewards = some program)
    (htracker : program.tracker = .empty program.tracker.capacity) (calls : List TokenCall) :
    let s := afterAll calls start
    (NeverStopped calls start →
      let p := afterAll (ofBooks calls) (start.withoutRewards start.events)
      p.model = s.model ∧ p.reserve = s.reserve ∧
      ∀ c : TokenCall, c.isOfRewards = false → c.isStopped s = false →
        (Act.run c.answer p).1 = (Act.run c.answer s).1) ∧
    (∀ c : TokenCall, c.isOfRewards = false →
      if c.isStopped s then c.StoppedAtCheckpoint s
      else
        let p := s.withoutRewards s.events
        (Act.run c.answer p).1 = (Act.run c.answer s).1 ∧
          (c.after p).model = (c.after s).model ∧ (c.after p).reserve = (c.after s).reserve) ∧
    ∀ caller holder receiver amount index burned,
      (Act.run (DepositToken.burn caller holder receiver amount index)
        (s.withoutRewards s.events)).1 = .ok burned →
      s.RewardsFit →
      (Act.run (DepositToken.burn caller holder receiver amount index) s).1 = .ok burned := by
  intro s
  rcases tracked_afterAll hbooks hprogram htracker calls with ⟨hs, t, htracks, ht, hcapped⟩
  refine ⟨?_, ?_, ?_⟩
  · intro hnever p
    rcases afterAll_ofBooks start.events hnever with ⟨events, hp⟩
    change p = s.withoutRewards events at hp
    rw [hp]
    refine ⟨rfl, rfl, ?_⟩
    intro c hc hstop
    rcases mirrors_answer events hc (isStopped_eq_false_iff.mp hstop) with
      ⟨events', hrun⟩
    rw [hrun]
  · intro c hc
    split
    · next hstop => exact stoppedAtCheckpoint hs htracks ht hcapped hstop
    · next hstop =>
        rw [Bool.not_eq_true] at hstop
        rcases mirrors_answer s.events hc (isStopped_eq_false_iff.mp hstop) with
          ⟨events', hrun⟩
        dsimp only
        rw [after_eq, after_eq, hrun]
        exact ⟨rfl, rfl, rfl⟩
  · intro caller holder receiver amount index burned hplain hfit
    exact run_burn_of_rewardsFit hs htracks ht hcapped hfit hplain

/-- A holder withdraws everything, with rewards and without, after a claim and a transfer. -/
theorem rewards_transparent_full_withdrawal :
    let program : RewardProgram := .empty 0
    let start : DepositToken := .atOne (.plain .empty) (some program)
    let calls := [mint "pool" "Alice" 3 ray, registerRewardToken "REW", distributeRewards "rew" 10,
      claim "alice" "rew", transfer "alice" "Bob" 1]
    let p := afterAll (ofBooks calls) (start.withoutRewards start.events)
    let c := burn "pool" "alice" "alice" everything ray
    start.model.ledger = .empty ∧ start.rewards = some program ∧
      program.tracker = .empty program.tracker.capacity ∧ NeverStopped calls start ∧
      (Act.run c.answer p).1 = (Act.run c.answer (afterAll calls start)).1 ∧
      (Act.run c.answer p).1.isOk = true := by
  intro program start calls p c
  have hbooks : start.model.ledger = .empty := rfl
  have hprogram : start.rewards = some program := rfl
  have htracker : program.tracker = .empty program.tracker.capacity := rfl
  have hnever : NeverStopped calls start := by
    refine ⟨?_, ?_, ?_, ?_, ?_, trivial⟩ <;> decide +kernel
  have hnext : c.isStopped (afterAll calls start) = false := by decide +kernel
  have htwo := (rewards_transparent hbooks hprogram htracker calls).left hnever
  exact ⟨hbooks, hprogram, htracker, hnever, htwo.right.right c rfl hnext, by decide +kernel⟩

/-- Rewards beyond all measure stop a withdrawal that goes through without them. -/
theorem withdrawal_stopped_by_rewards :
    let start : DepositToken := .atOne (.plain .empty) (some (.empty 0))
    let calls := [mint "pool" "alice" 1 ray, registerRewardToken "rwd",
      distributeRewards "rwd" (maxAmount / ray), distributeRewards "rwd" (maxAmount / ray)]
    let withdrawal := DepositToken.burn "pool" "alice" "alice" everything ray
    (Act.run withdrawal
        (afterAll (ofBooks calls) (start.withoutRewards start.events))).1.toOption = some 1 ∧
      (match (Act.run withdrawal (afterAll calls start)).1 with
        | .error (.refused r) => r.kind == .overflow
        | _ => false) = true ∧
      (afterAll calls start).model.ledger.sharesOf "alice" = 1 := by
  decide +kernel

end TokenCall
end ReserveAccounting
