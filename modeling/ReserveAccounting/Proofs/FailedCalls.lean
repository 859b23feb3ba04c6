import ReserveAccounting.Proofs.TokenRuns

/-!
# Failed calls of a token

A call of a token writes its events last, after the index is committed, and
nothing that comes after the first event can fail. Together with the books and
the reserve, which a failed call keeps, the events are therefore as they were,
and no rate stays pinned.
-/

namespace ReserveAccounting

open FixedPoint

/-!
# Steps beside the events
-/

namespace DepositToken

variable {p : DepositToken → Prop} {α β : Type} {s : DepositToken}

/-- A property of tokens that looks neither at the books nor at the rewards. -/
structure BesideBooks (p : DepositToken → Prop) : Prop where
  model : ∀ s model, p s → p { s with model := model }
  rewards : ∀ s rewards, p s → p { s with rewards := rewards }

/-- A property of tokens that looks neither at the books nor at the reserve nor at the rewards. -/
structure Aside (p : DepositToken → Prop) : Prop extends BesideBooks p where
  reserve : ∀ s reserve, p s → p { s with reserve := reserve }

theorem aside_events (events : List TokenEvent) : Aside fun s => s.events = events where
  model _ _ h := h
  reserve _ _ h := h
  rewards _ _ h := h

theorem unfailing_emit (kind : EventKind) (source target : String) (value index : Int) :
    Act.Unfailing (emit kind source target value index) := Act.unfailing_update _

theorem unfailing_noteInfo (message : String) (fields : List (String × Document)) :
    Act.Unfailing (noteInfo message fields) := Act.unfailing_note _

theorem unfailing_reports {kind kind' : EventKind} {source target source' target' : String}
    {value value' index index' : Int} {rest : Act DepositToken α} (hrest : Act.Unfailing rest) :
    Act.Unfailing (do
      emit kind source target value index
      emit kind' source' target' value' index'
      rest : Act DepositToken α) := by
  apply (unfailing_emit _ _ _ _ _).bind
  intro _
  apply (unfailing_emit _ _ _ _ _).bind
  intro _
  exact hrest

theorem Aside.onReserve (hp : Aside p) (m : Act ReserveIndex α) : Act.Stable p (onReserve m) :=
  Act.Stable.within_aside fun s r h => hp.reserve s r h

namespace BesideBooks

theorem onModel (hp : BesideBooks p) (m : Act BalanceModel α) : Act.Stable p (onModel m) :=
  Act.Stable.within_aside fun s b h => hp.model s b h

theorem onRewards (hp : BesideBooks p) (m : Act RewardTracker α) : Act.Stable p (onRewards m) :=
  stable_onRewards_of hp.rewards

theorem checkpointHolders (hp : BesideBooks p) (accounts : List String) :
    Act.Stable p (checkpointHolders accounts) :=
  stable_checkpointHolders_of hp.rewards

theorem withPinnedRate (hp : BesideBooks p) {m : Act DepositToken α} (hm : Act.Stable p m) :
    Act.Stable p (withPinnedRate m) := by
  unfold DepositToken.withPinnedRate
  apply Act.Stable.bind (hp.onModel _)
  intro mine
  exact Act.Stable.ite (hm.thenAlways fun s h => hp.model s _ h) hm

theorem applyChange (hp : BesideBooks p) (accounts : List String) (change : Act BalanceModel α) :
    Act.Stable p (applyChange accounts change) := by
  apply hp.withPinnedRate
  apply Act.Stable.bind (hp.checkpointHolders accounts)
  intro saved
  exact (hp.onModel change).onRefusal fun s h => hp.rewards s _ h

end BesideBooks

theorem stable_requirePool_of (caller : String) : Act.Stable p (requirePool caller) := by
  unfold requirePool
  apply Act.Stable.bind Act.Stable.current
  intro s
  exact Act.Stable.ite (Act.Stable.pure ()) (Act.Stable.refuse _)

/-!
# Calls that fail
-/

theorem Aside.bookAtIndex (hp : Aside p) {caller : String} {accounts : List String} {index : Int}
    {reason : String} {change : Act BalanceModel α} {next : DepositToken → α → Act DepositToken β}
    (hnext : ∀ t a, Act.Unfailing (next t a)) :
    Act.KeptOnFault p (do
      requirePool caller
      let t ← Act.current
      t.reserve.admits index
      let a ← DepositToken.applyChange accounts change
      let _ ← DepositToken.onReserve (ReserveIndex.raise index reason)
      next t a : Act DepositToken β) := by
  apply Act.KeptOnFault.bind (stable_requirePool_of caller)
  intro _
  apply Act.KeptOnFault.bind Act.Stable.current
  intro t
  apply Act.KeptOnFault.bind (Act.Stable.refusable _)
  intro _
  apply Act.KeptOnFault.bind (hp.applyChange accounts change)
  intro a
  apply Act.KeptOnFault.bind (hp.onReserve _)
  intro _
  exact Act.KeptOnFault.of_unfailing (hnext t a)

theorem Aside.mint (hp : Aside p) (caller holder : String) (amount index : Int) :
    Act.KeptOnFault p (mint caller holder amount index) := by
  apply hp.bookAtIndex
  intro t first
  exact unfailing_reports ((unfailing_noteInfo _ _).bind fun _ => Act.unfailing_pure _)

theorem Aside.burn (hp : Aside p) (caller holder receiver : String) (amount index : Int) :
    Act.KeptOnFault p (burn caller holder receiver amount index) := by
  apply hp.bookAtIndex
  intro t burned
  exact unfailing_reports ((unfailing_noteInfo _ _).bind fun _ => Act.unfailing_pure _)

theorem Aside.mintToTreasury (hp : Aside p) (caller : String) (amount index : Int) :
    Act.KeptOnFault p (mintToTreasury caller amount index) := by
  unfold DepositToken.mintToTreasury
  apply Act.KeptOnFault.bind (stable_requirePool_of caller)
  intro _
  apply Act.KeptOnFault.ite (Act.KeptOnFault.of_unfailing (Act.unfailing_pure false))
  apply Act.KeptOnFault.bind Act.Stable.current
  intro t
  exact hp.mint caller t.treasury amount index

theorem Aside.move (hp : Aside p) (event sender recipient : String) (amount : Int) :
    Act.KeptOnFault p (move event sender recipient amount) := by
  unfold DepositToken.move
  apply Act.KeptOnFault.bind Act.Stable.current
  intro t
  apply Act.KeptOnFault.ite (Act.KeptOnFault.of_stable (Act.Stable.refuse _))
  apply Act.KeptOnFault.bind (hp.applyChange _ _)
  intro _
  exact Act.KeptOnFault.of_unfailing (unfailing_reports (Act.unfailing_note _))

theorem Aside.transfer (hp : Aside p) (sender recipient : String) (amount : Int) :
    Act.KeptOnFault p (transfer sender recipient amount) :=
  (hp.move _ _ _ _).bind_unfailing fun _ => Act.unfailing_pure true

theorem Aside.transferOnLiquidation (hp : Aside p) (caller sender recipient : String)
    (amount : Int) : Act.KeptOnFault p (transferOnLiquidation caller sender recipient amount) :=
  Act.KeptOnFault.bind (stable_requirePool_of caller) fun _ =>
    (hp.move _ _ _ _).bind_unfailing fun _ => Act.unfailing_pure true

theorem Aside.injectFlashLoanPremium (hp : Aside p) (caller : String) (premium : Int) :
    Act.KeptOnFault p (injectFlashLoanPremium caller premium) := by
  unfold DepositToken.injectFlashLoanPremium
  apply Act.KeptOnFault.bind (stable_requirePool_of caller)
  intro _
  apply Act.KeptOnFault.bind
  · exact Act.Stable.bind Act.Stable.current fun _ => hp.onModel _
  · intro liquidity
    apply Act.KeptOnFault.bind (hp.onReserve _)
    intro index
    apply Act.KeptOnFault.bind Act.Stable.current
    intro t
    apply Act.KeptOnFault.of_unfailing
    apply (unfailing_emit _ _ _ _ _).bind
    intro _
    exact (unfailing_noteInfo _ _).bind fun _ => Act.unfailing_pure index

theorem Aside.claim (hp : Aside p) (holder token : String) :
    Act.KeptOnFault p (claim holder token) := by
  have hreport : ∀ (value index : Int) (fields : List (String × Document)) (c : RewardClaim),
      Act.KeptOnFault p (do
        emit .rewardsClaimed (Text.lower holder) (Text.lower token) value index
        noteInfo "Rewards claimed" fields
        return c : Act DepositToken RewardClaim) := by
    intro value index fields c
    apply Act.KeptOnFault.of_unfailing
    apply (unfailing_emit _ _ _ _ _).bind
    intro _
    exact (unfailing_noteInfo _ _).bind fun _ => Act.unfailing_pure c
  unfold DepositToken.claim
  apply Act.KeptOnFault.bind Act.Stable.current
  intro s
  apply Act.KeptOnFault.bind (Act.Stable.faulty _)
  intro program
  apply Act.KeptOnFault.bind (hp.onRewards _)
  intro _
  apply Act.KeptOnFault.bind (Act.Stable.faulty _)
  intro factor
  apply Act.KeptOnFault.bind (hp.onRewards _)
  intro c
  apply Act.KeptOnFault.ite
  · apply Act.KeptOnFault.bind (hp.onRewards _)
    intro _
    exact hreport _ _ _ c
  · exact hreport _ _ _ c

theorem keptOnFault_setReserveFactor (caller : String) (factor : Int) :
    Act.KeptOnFault p (setReserveFactor caller factor) := by
  unfold setReserveFactor
  apply Act.KeptOnFault.bind Act.Stable.current
  intro s
  apply Act.KeptOnFault.bind (Act.Stable.faulty _)
  intro program
  apply Act.KeptOnFault.bind (stable_requirePool_of caller)
  intro _
  apply Act.KeptOnFault.bind (Act.Stable.refusable _)
  intro _
  exact Act.KeptOnFault.of_unfailing (Act.unfailing_update _)

/-!
# Tokens between two calls
-/

/-- A token between two calls: nobody is below zero, and no rate is pinned. -/
structure AtRest (s : DepositToken) : Prop where
  nonneg : ∀ name, 0 ≤ s.model.ledger.held name
  unpinned : s.model.pinned? = none

end DepositToken

namespace TokenCall

variable {s s' : DepositToken} {p : DepositToken → Prop}

theorem keptOnFault_perform (hp : DepositToken.Aside p) (c : TokenCall) :
    Act.KeptOnFault p c.perform := by
  cases c with
  | mint caller holder amount index => exact (hp.mint caller holder amount index).ending
  | burn caller holder receiver amount index =>
      exact (hp.burn caller holder receiver amount index).ending
  | mintToTreasury caller amount index => exact (hp.mintToTreasury caller amount index).ending
  | transfer sender recipient amount => exact (hp.transfer sender recipient amount).ending
  | transferOnLiquidation caller sender recipient amount =>
      exact (hp.transferOnLiquidation caller sender recipient amount).ending
  | injectFlashLoanPremium caller premium =>
      exact (hp.injectFlashLoanPremium caller premium).ending
  | raiseIndex index reason => exact (Act.KeptOnFault.of_stable (hp.onReserve _)).ending
  | moveAsset asset => exact Act.KeptOnFault.of_unfailing (Act.unfailing_update _)
  | registerRewardToken token => exact (Act.KeptOnFault.of_stable (hp.onRewards _)).ending
  | distributeRewards token amount =>
      exact (Act.KeptOnFault.of_stable (Act.Stable.current.bind fun _ => hp.onRewards _)).ending
  | claim holder token => exact (hp.claim holder token).ending
  | setReserveFactor caller factor => exact DepositToken.keptOnFault_setReserveFactor caller factor

theorem events_of_error (c : TokenCall) {e : Fault} (hrun : Act.run c.perform s = (.error e, s')) :
    s'.events = s.events :=
  ((keptOnFault_perform (DepositToken.aside_events s.events) c).after s rfl).of_error hrun

theorem Booked.nonneg {c : TokenCall} {l : ShareLedger} (h : c.Booked s l)
    (hs : ∀ name, 0 ≤ s.model.ledger.held name) : ∀ name, 0 ≤ l.held name := by
  cases c with
  | mint caller holder amount index =>
      rcases h with ⟨n, h⟩
      exact h.held_nonneg hs
  | burn caller holder receiver amount index =>
      rcases h with ⟨n, h⟩
      exact h.held_nonneg hs
  | mintToTreasury caller amount index =>
      unfold Booked at h
      dsimp only at h
      split at h
      · rw [h]
        exact hs
      · rcases h with ⟨n, h⟩
        exact h.held_nonneg hs
  | transfer sender recipient amount =>
      rcases h with ⟨n, h⟩
      exact h.held_nonneg hs
  | transferOnLiquidation caller sender recipient amount =>
      rcases h with ⟨n, h⟩
      exact h.held_nonneg hs
  | _ =>
      have hsame : l = s.model.ledger := h
      rw [hsame]
      exact hs

theorem nonneg_after (c : TokenCall) (hs : ∀ name, 0 ≤ s.model.ledger.held name) :
    ∀ name, 0 ≤ (c.after s).model.ledger.held name := by
  apply @Act.Leaves.state _ _ c.perform s fun s' => ∀ name, 0 ≤ s'.model.ledger.held name
  apply (leaves_perform c hs).mono
  · intro _ s' h
    exact h.ledger.left.nonneg hs
  · intro _ s' h
    rw [h.ledger]
    exact hs

theorem atRest_after (c : TokenCall) (hs : s.AtRest) : (c.after s).AtRest := by
  refine ⟨nonneg_after c hs.nonneg, ?_⟩
  have halike : s.model.Alike (c.after s).model := by
    apply @Act.Leaves.state _ _ c.perform s fun s' => s.model.Alike s'.model
    exact (leaves_perform c hs.nonneg).mono (fun _ _ h => h.alike) (fun _ _ h => h.alike)
  exact halike.right.trans hs.unpinned

/--
After any run from books in which nobody is below zero, whatever then fails
leaves the shares, the index with its history and the events as they were, and
no rate pinned.
-/
theorem failed_call_changes_nothing {start : DepositToken}
    (hshares : ∀ name, 0 ≤ start.model.ledger.held name) (hpin : start.model.pinned? = none)
    (calls : List TokenCall) (c : TokenCall) {e : Fault} {s' : DepositToken}
    (hrun : Act.run c.perform (afterAll calls start) = (.error e, s')) :
    let s := afterAll calls start
    s'.model.ledger = s.model.ledger ∧ s'.reserve = s.reserve ∧ s'.events = s.events ∧
      s'.model.pinned? = none := by
  intro s
  have hrest : s.AtRest :=
    afterAll_induction (fun c _ hs => atRest_after c hs) ⟨hshares, hpin⟩ calls
  have hfails := (leaves_perform c hrest.nonneg).of_error hrun
  exact ⟨hfails.ledger, hfails.reserve, events_of_error c hrun,
    hfails.alike.right.trans hrest.unpinned⟩

/-- A transfer over a rebasing asset that asks for more than the sender has. -/
theorem failed_call_changes_nothing_transfer_above_balance :
    let start : DepositToken := .atOne (.rebasing (.fresh (.feed ⟨"stETH", fun _ => ray, 0⟩))) none
    let s := afterAll [mint "pool" "Alice" 3 ray] start
    let c := transfer "alice" "bob" 5
    let s' := (Act.run c.perform s).2
    ∃ r, (∀ name, 0 ≤ start.model.ledger.held name) ∧ start.model.pinned? = none ∧
      Act.run c.perform s = (.error (.refused r), s') ∧ r.kind = .insufficientBalance ∧
      s.events.length = 2 ∧ s'.model.ledger = s.model.ledger ∧ s'.reserve = s.reserve ∧
      s'.events = s.events ∧ s'.model.pinned? = none := by
  intro start s c s'
  have hshares : ∀ name, 0 ≤ start.model.ledger.held name := fun _ => Int.le_refl 0
  have hrefused : (Act.refusal? (Act.run c.perform s).1).isSome = true := by decide +kernel
  let r := (Act.refusal? (Act.run c.perform s).1).getD default
  have hrun : Act.run c.perform s = (.error (.refused r), s') :=
    Act.run_eq_refused hrefused
  exact ⟨r, hshares, rfl, hrun, by decide +kernel, by decide +kernel,
    failed_call_changes_nothing hshares rfl [mint "pool" "Alice" 3 ray] c hrun⟩

end TokenCall
end ReserveAccounting
