import ReserveAccounting.Proofs.DepositRoundings
import ReserveAccounting.Proofs.LiveAsset
import ReserveAccounting.Proofs.MatchedUnits
import ReserveAccounting.Proofs.SuppliedTokens

/-!
# Units that drift from shares

Over an asset a deposit is divided twice, once for the units that a vault issues
and once for the shares that come in, and the two divisions do not round alike.
Units and shares drift apart, but only by what the roundings allow: each deposit
adds a slack that is read off its rate, its index and its units, and a deposit at
a rate of one adds none. Nothing that happens between deposits adds anything,
whatever it does to the rate and the index.
-/

namespace ReserveAccounting

open FixedPoint

/-!
# Rates that hold still
-/

theorem RebasingLedger.outcome_snapshot_congr {w w' : RebasingLedger} (hasset : w'.asset = w.asset)
    (hpinned : w'.pinned = w.pinned) : (Act.run snapshot w').1 = (Act.run snapshot w).1 := by
  rcases w with ⟨asset, ledger, pinned, reads⟩
  rcases w' with ⟨asset', ledger', pinned', reads'⟩
  cases hasset
  cases hpinned
  cases pinned with
  | some rate => rfl
  | none =>
      unfold snapshot
      rw [Act.run_bind_ok (Act.run_current _), Act.run_bind_ok (Act.run_current _)]
      dsimp only
      rw [Act.run_bind, Act.run_bind, onAsset, Act.run_within, Act.run_within]
      dsimp only
      rcases Act.run ReserveAsset.exchangeRate asset with ⟨outcome, asset'⟩
      cases outcome with
      | error e => rfl
      | ok rate =>
          dsimp only
          rw [Act.run_bind_ok (Act.run_update _ _), Act.run_bind_ok (Act.run_update _ _)]
          split <;> rfl

namespace BalanceModel

variable {m : BalanceModel}

def afterReading : BalanceModel → BalanceModel
  | plain l => plain l
  | rebasing w => rebasing (Act.run RebasingLedger.snapshot w).2

def HoldsRate (m : BalanceModel) : Prop := m.afterReading.rate? = m.rate?

theorem holdsRate_of_pool (hpool : (m.asset?.bind ReserveAsset.pool?).isSome = true) :
    m.HoldsRate := by
  cases m with
  | plain l => rfl
  | rebasing w =>
      have hlive : (Act.run RebasingLedger.snapshot w).2.asset.pool? = w.asset.pool? :=
        (RebasingLedger.stable_snapshot RebasingLedger.stable_exchangeRate).after w rfl
      have hsame : (Act.run RebasingLedger.snapshot w).2.asset = w.asset := by
        change w.asset.pool?.isSome = true at hpool
        revert hlive hpool
        cases (Act.run RebasingLedger.snapshot w).2.asset <;> cases w.asset <;>
          simp [ReserveAsset.pool?]
      have hpinned : (Act.run RebasingLedger.snapshot w).2.pinned = w.pinned :=
        (RebasingLedger.leaves_snapshot.mono (fun _ _ h => h.right) (fun _ _ h => h.right)).state
      exact congrArg some (RebasingLedger.outcome_snapshot_congr hsame hpinned)

end BalanceModel

theorem DepositToken.exists_rebasing {s : DepositToken} (hrebasing : s.isRebasing = true) :
    ∃ w, s.model = .rebasing w := by
  unfold isRebasing at hrebasing
  cases hmodel : s.model with
  | plain l =>
      rw [hmodel] at hrebasing
      cases hrebasing
  | rebasing w => exact ⟨w, rfl⟩

namespace StaticVault

variable {v v' : StaticVault} {depositor recipient : String} {amount units rate n : Int}
  {fromUnderlying : Bool}

/-!
# The two legs of a deposit
-/

def Prices (v : StaticVault) (rate amount units : Int) : Prop :=
  v.token.model.rate? = some (.ok rate) ∧
    ∃ product, rayMul rate v.token.index = .ok product ∧ rayDiv amount product = .ok units

theorem Prices.abs_sub_brings_le (hprices : v.Prices rate amount units)
    (hbrings : v.Brings depositor amount fromUnderlying n) (hindex : ray ≤ v.token.index) :
    |units - n| ≤ unitSlack rate v.token.index units := by
  rcases hprices with ⟨hrate, product, hproduct, hunits⟩
  unfold Brings at hbrings
  split at hbrings
  · unfold BalanceModel.Buys BalanceModel.Converts at hbrings
    rw [hrate] at hbrings
    rcases hbrings with ⟨rate', quotient, hsame, hquotient, hn⟩
    cases hsame
    exact abs_units_sub_minted_le hindex hproduct hunits hquotient hn
  · rcases hbrings with ⟨value, asked, hvalue, hle, hasked, rfl⟩
    rcases BalanceModel.presentedValue_eq_ok hvalue with ⟨scaled, hscaled, hvalue⟩
    unfold BalanceModel.Converts at hasked
    rw [hrate] at hasked
    rcases hasked with ⟨rate', quotient, hsame, hquotient, hasked⟩
    cases hsame
    exact abs_units_sub_handed_le hindex hproduct hunits
      (BalanceModel.rayMul_of_scaledValue hrate hscaled) hvalue hle hquotient hasked

structure Exchanges (v : StaticVault) (depositor : String) (amount : Int) (fromUnderlying : Bool)
    (rate units n : Int) (v' : StaticVault) : Prop
    extends Takes v depositor amount fromUnderlying units n v' where
  prices : v.Prices rate amount units

theorem Exchanges.abs_drift_le {v' : StaticVault}
    (h : v.Exchanges depositor amount fromUnderlying rate units n v')
    (hindex : ray ≤ v.token.index) :
    |v'.unbacked - v.unbacked| ≤ unitSlack rate v.token.index units := by
  have hdrift : v'.unbacked - v.unbacked = units - n := by
    unfold unbacked
    rw [h.totalUnits, h.backing]
    omega
  rw [hdrift]
  exact h.prices.abs_sub_brings_le h.brings hindex

/-- A vault as it was, whose token reads the rate that it would have read. -/
structure Rereads (v v' : StaticVault) : Prop where
  quiet : Quiet v v'
  rate : v'.token.model.rate? = v.token.model.rate?

theorem Rereads.takes {v'' : StaticVault} (h : v.Rereads v')
    (htakes : v'.Takes (Text.lower depositor) amount fromUnderlying units n v'') :
    v.Takes depositor amount fromUnderlying units n v'' where
  brings := by
    have hbrings := htakes.brings
    unfold Brings at hbrings ⊢
    rw [h.quiet.index_eq, h.quiet.token.ledger, Text.lower_lower] at hbrings
    cases fromUnderlying with
    | true => exact BalanceModel.Buys.of_rate hbrings h.rate
    | false => exact BalanceModel.Hands.of_rate hbrings h.rate
  totalUnits := by rw [htakes.totalUnits, totalUnits, h.quiet.balances, totalUnits]
  backing := by rw [htakes.backing, h.quiet.backing_eq]
  address := htakes.address.trans h.quiet.address
  kind := htakes.kind.trans h.quiet.token.alike.left

theorem answers_rate {w : RebasingLedger} (hmodel : v.token.model = .rebasing w) :
    StaticVault.rate.Leaves v
      (fun product v' => (∃ rate, v.token.model.rate? = some (.ok rate) ∧
        rayMul rate v.token.index = .ok product) ∧ v'.token.model = v.token.model.afterReading)
      (fun _ _ => True) := by
  unfold StaticVault.rate
  rw [Act.leaves_bind, Act.leaves_current]
  simp only [hmodel]
  rw [Act.leaves_bind, leaves_onToken, DepositToken.leaves_onModel, hmodel,
    BalanceModel.leaves_dispatch_rebasing]
  apply Act.leaves_of_run _ fun _ _ _ => trivial
  intro rate w' hread
  rw [Act.leaves_refusable]
  refine ⟨fun product hproduct => ⟨⟨rate, ?_, hproduct⟩, ?_⟩, fun _ _ => trivial⟩
  · exact congrArg (fun p => some p.1) hread
  · exact congrArg (fun p => BalanceModel.rebasing p.2) hread.symm

theorem answers_unitsFor (hrebasing : v.token.isRebasing = true)
    (hholds : v.token.model.HoldsRate) :
    (unitsFor amount).Leaves v (fun units v' => (∃ rate, v.Prices rate amount units) ∧ v.Rereads v')
      (fun _ _ => True) := by
  rcases DepositToken.exists_rebasing hrebasing with ⟨w, hmodel⟩
  unfold unitsFor
  rw [Act.leaves_bind]
  apply Act.leaves_of_run _ fun _ _ _ => trivial
  intro product v' hrun
  rcases (answers_rate hmodel).of_ok hrun with ⟨⟨rate, hrate, hproduct⟩, hafter⟩
  have hreads : Reads v v' := reads_rate.of_ok hrun
  rw [Act.leaves_refusable]
  refine ⟨fun units hunits => ⟨⟨rate, hrate, product, hproduct, hunits⟩, hreads.quiet, ?_⟩,
    fun _ _ => trivial⟩
  rw [hafter]
  exact hholds

theorem answers_exchange {account : String} (h : v.Rereads v')
    (hprices : v.Prices rate amount units)
    (haddress : Text.lower v.books.address = v.books.address)
    (hother : Text.lower depositor ≠ v.books.address) :
    (do
      takeTokens (Text.lower depositor) amount fromUnderlying
      let _ ← onBalances (ShareLedger.applyDelta account units .mint)
      return () : Act StaticVault Unit).Leaves v'
      (fun _ v'' => ∃ n, v.Exchanges depositor amount fromUnderlying rate units n v'')
      (fun _ _ => True) := by
  have haddress' : Text.lower v'.books.address = v'.books.address := by
    rw [h.quiet.address]
    exact haddress
  have hother' : Text.lower (Text.lower depositor) ≠ v'.books.address := by
    rw [h.quiet.address, Text.lower_lower]
    exact hother
  apply (answers_takeAndIssue haddress' hother').mono _ fun _ _ _ => trivial
  intro _ v'' htakes
  rcases htakes with ⟨n, htakes⟩
  exact ⟨n, h.takes htakes, hprices⟩

theorem answers_deposit (hrebasing : v.token.isRebasing = true) (hholds : v.token.model.HoldsRate)
    (haddress : Text.lower v.books.address = v.books.address)
    (hother : Text.lower depositor ≠ v.books.address) :
    (deposit depositor recipient amount fromUnderlying).Leaves v
      (fun units v' => ∃ rate n, v.Exchanges depositor amount fromUnderlying rate units n v')
      (fun _ _ => True) := by
  unfold deposit
  rw [Act.leaves_bind]
  apply leaves_requireRecipient.mono _ fun _ _ _ => trivial
  intro account v₀ h
  rcases h with ⟨_, rfl⟩
  rw [Act.leaves_ite]
  refine ⟨fun _ => trivial, fun _ => ?_⟩
  rw [Act.leaves_bind]
  apply (answers_unitsFor hrebasing hholds).mono _ fun _ _ _ => trivial
  intro units v₁ h
  rcases h with ⟨⟨rate, hprices⟩, hrereads⟩
  rw [Act.leaves_ite]
  constructor
  · intro _
    rw [Act.leaves_bind]
    exact Act.leaves_of_run (fun _ _ _ => trivial) (fun _ _ _ => trivial)
  · intro _
    rw [Act.leaves_bind]
    have hsince : ∀ v₂, Quiet v₁ v₂ → v₂.token.model = v₁.token.model → v₀.Rereads v₂ :=
      fun v₂ hquiet hmodel => ⟨hrereads.quiet.trans hquiet,
        (congrArg BalanceModel.rate? hmodel).trans hrereads.rate⟩
    apply (answers_applyChange _ fun v₂ hquiet hmodel =>
      answers_exchange (hsince v₂ hquiet hmodel) hprices haddress hother).mono _ fun _ _ _ => trivial
    intro _ v₂ h
    rcases h with ⟨n, h⟩
    exact ⟨rate, n, ⟨h.brings, h.totalUnits, h.backing, h.address, h.kind⟩, h.prices⟩

theorem answers_transfer {sender : String} :
    (transfer sender recipient units).Leaves v (fun _ v' => v'.unbacked = v.unbacked)
      (fun _ _ => True) := by
  unfold transfer
  rw [Act.leaves_bind]
  apply leaves_requireRecipient.mono _ fun _ _ _ => trivial
  intro account v₀ h
  rcases h with ⟨_, rfl⟩
  rw [Act.leaves_bind]
  apply (answers_applyChange (fun v' => v'.unbacked = v₀.unbacked) ?_).mono _
    fun _ _ _ => trivial
  · intro v₁ hquiet _
    rw [leaves_onBalances]
    apply ShareLedger.answers_moveShares.mono _ fun _ _ _ => trivial
    intro _ l hmoves
    change l.totalShares - v₁.backing = v₀.unbacked
    rw [hmoves.totalShares_eq, ← hquiet.unbacked_eq]
    rfl
  · intro _ v₁ h
    exact h

end StaticVault

namespace VaultCall

open DepositToken (Grounded)

variable {v : StaticVault} {address : String}

/-!
# Calls that add to a vault
-/

/--
A deposit by somebody else while the rate holds still, or a call that neither
pays out units nor touches the shares of the vault.
-/
def Accumulates (c : VaultCall) (v : StaticVault) : Prop :=
  match c with
  | deposit depositor _ _ _ => Text.lower depositor ≠ v.books.address ∧ v.token.model.HoldsRate
  | withdraw _ _ _ _ => False
  | withdrawValue _ _ _ _ => False
  | onToken c => v.books.address ∉ c.pass v.token
  | _ => True

def AllAccumulate : List VaultCall → StaticVault → Prop
  | [], _ => True
  | c :: rest, v => c.Accumulates v ∧ AllAccumulate rest (c.after v)

/-- What the roundings of a call allow units and shares to drift apart. -/
def allowance (c : VaultCall) (v : StaticVault) : Int :=
  match c with
  | deposit depositor recipient amount fromUnderlying =>
      match (Act.run (StaticVault.deposit depositor recipient amount fromUnderlying) v).1,
        v.token.model.rate? with
      | .ok units, some (.ok rate) => unitSlack rate v.token.index units
      | _, _ => 0
  | _ => 0

def allowances : List VaultCall → StaticVault → Int
  | [], _ => 0
  | c :: rest, v => c.allowance v + allowances rest (c.after v)

/-!
# One call
-/

theorem quiet_of_failure {α : Type} {m : Act StaticVault α} (c : VaultCall)
    (hc : c.perform = Act.ending m) (hv : v.Over address (Grounded true)) :
    m.Leaves v (fun _ _ => True) (fun _ v' => v.Quiet v') := by
  have huntouched := untouched_perform c hv.token.sound.nonneg hv.units
  rw [hc, Act.leaves_ending] at huntouched
  exact huntouched.mono (fun _ _ h => h) (fun _ _ h => h.left)

theorem abs_drift_deposit {depositor recipient : String} {amount : Int} {fromUnderlying : Bool}
    (hv : v.Over address (Grounded true)) (haddress : Text.lower address = address)
    (hc : (deposit depositor recipient amount fromUnderlying).Accumulates v) :
    |((deposit depositor recipient amount fromUnderlying).after v).unbacked - v.unbacked| ≤
      (deposit depositor recipient amount fromUnderlying).allowance v := by
  have hsmall : Text.lower v.books.address = v.books.address := by
    rw [hv.address]
    exact haddress
  have hquiet := quiet_of_failure (deposit depositor recipient amount fromUnderlying) rfl hv
  have hbooked := @StaticVault.answers_deposit v depositor recipient amount fromUnderlying
    hv.token.kind hc.right hsmall hc.left
  unfold allowance after perform
  dsimp only
  rw [Act.run_ending]
  rcases hrun : Act.run (StaticVault.deposit depositor recipient amount fromUnderlying) v with
    ⟨outcome, v'⟩
  dsimp only
  cases outcome with
  | ok units =>
      rcases hbooked.of_ok hrun with ⟨rate, n, h⟩
      rw [h.prices.left]
      exact h.abs_drift_le hv.token.index
  | error e =>
      rw [(hquiet.of_error hrun).unbacked_eq, sub_self, abs_zero]

theorem unbacked_onToken {c : TokenCall} (hv : v.Over address (Grounded true))
    (hc : v.books.address ∉ c.pass v.token) : ((onToken c).after v).unbacked = v.unbacked := by
  apply @Act.Leaves.state _ _ (StaticVault.onToken c.perform) v fun v' => v'.unbacked = v.unbacked
  rw [StaticVault.leaves_onToken]
  apply (TokenCall.leaves_perform c hv.token.sound.nonneg).mono
  · intro _ s h
    change v.totalUnits - s.model.ledger.held v.books.address = v.totalUnits - v.backing
    rw [h.ledger.right _ hc]
    rfl
  · intro _ s h
    exact (StaticVault.Quiet.of_keeps h).unbacked_eq

theorem abs_drift_after (c : VaultCall) (hv : v.Over address (Grounded true))
    (haddress : Text.lower address = address) (hc : c.Accumulates v) :
    |(c.after v).unbacked - v.unbacked| ≤ c.allowance v := by
  have hnone : (c.after v).unbacked = v.unbacked → |(c.after v).unbacked - v.unbacked| ≤ 0 := by
    intro h
    rw [h, sub_self, abs_zero]
  have hending : ∀ {α : Type} {m : Act StaticVault α},
      m.Leaves v (fun _ v' => v'.unbacked = v.unbacked) (fun _ v' => v.Quiet v') →
      (Act.run (Act.ending m) v).2.unbacked = v.unbacked := by
    intro α m hm
    rw [Act.run_ending]
    apply @Act.Leaves.state _ _ m v fun v' => v'.unbacked = v.unbacked
    exact hm.mono (fun _ _ h => h) (fun _ _ h => h.unbacked_eq)
  cases c with
  | deposit depositor recipient amount fromUnderlying => exact abs_drift_deposit hv haddress hc
  | withdraw owner recipient units toUnderlying => exact hc.elim
  | withdrawValue owner recipient value toUnderlying => exact hc.elim
  | transfer sender recipient units =>
      have hquiet := quiet_of_failure (transfer sender recipient units) rfl hv
      apply hnone (hending _)
      exact (StaticVault.answers_transfer.and hquiet).mono (fun _ _ h => h.left)
        (fun _ _ h => h.right)
  | claimRewards holder token forceUpdate =>
      apply hnone (hending _)
      exact (StaticVault.quiet_claimRewards holder token forceUpdate v).mono
        (fun _ _ h => h.unbacked_eq) (fun _ _ h => h)
  | collect token =>
      apply hnone (hending _)
      exact (StaticVault.quiet_collect token v).mono (fun _ _ h => h.unbacked_eq) (fun _ _ h => h)
  | onToken c => exact hnone (unbacked_onToken hv hc)

/-!
# All calls
-/

theorem grounded_after (c : VaultCall) (hv : v.Over address (Grounded true)) :
    (c.after v).Over address (Grounded true) :=
  over_after (fun c _ hs => hs.after c) (fun _ _ hs h => hs.of_keeps h) c hv

theorem abs_drift_afterAll (calls : List VaultCall) (hv : v.Over address (Grounded true))
    (haddress : Text.lower address = address) (hcalls : AllAccumulate calls v) :
    |(afterAll calls v).unbacked - v.unbacked| ≤ allowances calls v := by
  induction calls generalizing v with
  | nil =>
      change |v.unbacked - v.unbacked| ≤ 0
      rw [sub_self, abs_zero]
  | cons c rest ih =>
      have hfirst := abs_drift_after c hv haddress hcalls.left
      have hrest := ih (grounded_after c hv) hcalls.right
      have hthrough := abs_sub_le (afterAll rest (c.after v)).unbacked (c.after v).unbacked v.unbacked
      change |(afterAll rest (c.after v)).unbacked - v.unbacked| ≤
        c.allowance v + allowances rest (c.after v)
      omega

theorem lower_address_of_open? {s : DepositToken} {books opened : VaultBooks}
    (h : StaticVault.open? s books = .ok opened) : Text.lower opened.address = opened.address := by
  unfold StaticVault.open? at h
  dsimp only at h
  split at h
  · cases h
  · cases h
    exact Text.lower_lower books.address

/--
A vault is opened without units over a reserve asset, at any rate and any index
from one on, and others deposit into it, from the pool or by transfer, while the
rate and the index change in between. Its units need not be as many as the
shares that have come to its address, but they differ by no more than the
roundings of the deposits allow, and not at all as long as the rate is one. A
deposit issues the quotient of its amount by the rounded product of rate and
index, and brings what a mint or a transfer of the amount books.
-/
theorem units_drift_within_roundings {s : DepositToken} {books opened : VaultBooks}
    (hs : TokenStep.Reachable s) (hrebasing : s.isRebasing = true) (hindex : ray ≤ s.index)
    (hunits : books.balances = .empty) (hopen : StaticVault.open? s books = .ok opened)
    (calls : List VaultCall) (hcalls : AllAccumulate calls ⟨s, opened⟩) :
    let start : StaticVault := ⟨s, opened⟩
    let v := afterAll calls start
    let basis (v : StaticVault) : Int := v.token.model.rewardBasisOf opened.address
    |v.totalUnits - (basis v - basis start)| ≤ allowances calls start ∧
      ∀ depositor recipient amount fromUnderlying units v',
        Text.lower depositor ≠ opened.address → v.token.model.HoldsRate →
        Act.run (StaticVault.deposit depositor recipient amount fromUnderlying) v =
          (.ok units, v') →
        ∃ rate n, v.Exchanges depositor amount fromUnderlying rate units n v' ∧
          basis v' = basis v + n ∧ |units - n| ≤ unitSlack rate v.token.index units := by
  intro start v basis
  have hempty : opened.balances = .empty := (StaticVault.balances_of_open? hopen).trans hunits
  have haddress : Text.lower opened.address = opened.address := lower_address_of_open? hopen
  have hstart : start.Over opened.address (Grounded true) := by
    refine ⟨rfl, ⟨hrebasing, (DepositToken.restores_of_reachable hs).kept.shares, hindex⟩, ?_⟩
    change opened.balances.Sound
    rw [hempty]
    exact ShareLedger.sound_empty
  have hv : v.Over opened.address (Grounded true) :=
    afterAll_induction (fun c _ hv => grounded_after c hv) hstart calls
  have hbasis : ∀ v : StaticVault, v.books.address = opened.address → basis v = v.backing := by
    intro v hsame
    change v.token.model.ledger.sharesOf opened.address = _
    rw [ShareLedger.sharesOf_eq_held, haddress, ← hsame]
    rfl
  constructor
  · have hdrift := abs_drift_afterAll calls hstart haddress hcalls
    have hunused : start.totalUnits = 0 := congrArg ShareLedger.totalShares hempty
    have hsame : v.totalUnits - (basis v - basis start) = v.unbacked - start.unbacked := by
      rw [hbasis v hv.address, hbasis start rfl, StaticVault.unbacked, StaticVault.unbacked, hunused]
      omega
    rw [hsame]
    exact hdrift
  · intro depositor recipient amount fromUnderlying units v' hother hholds hrun
    have hsmall : Text.lower v.books.address = v.books.address := by
      rw [hv.address]
      exact haddress
    rcases (StaticVault.answers_deposit hv.token.kind hholds hsmall (hv.address ▸ hother)).of_ok hrun
      with ⟨rate, n, h⟩
    refine ⟨rate, n, h, ?_, h.prices.abs_sub_brings_le h.brings hv.token.index⟩
    rw [hbasis v' (h.address.trans hv.address), hbasis v hv.address]
    exact h.backing

/-- At a rate of two, three bought from the pool are two units and one share. -/
theorem units_drift_within_roundings_three_at_two :
    let s : DepositToken :=
      .atOne (.rebasing (.fresh (.pool ⟨"stETH", 18, ∅, 1000, 2000, 0⟩))) none
    let books := VaultBooks.unused "vault"
    let calls := [onToken (.mint "pool" "alice" 10 ray), deposit "bob" "bob" 3 true,
      onToken (.moveAsset (.pool ⟨"stETH", 18, ∅, 1000, 3000, 1⟩)),
      onToken (.raiseIndex (2 * ray) "accrual"), deposit "alice" "bob" 9 false]
    let start : StaticVault := ⟨s, books⟩
    let v := afterAll calls start
    TokenStep.Reachable s ∧ s.isRebasing = true ∧ ray ≤ s.index ∧ books.balances = .empty ∧
      StaticVault.open? s books = .ok books ∧ AllAccumulate calls start ∧
      v.totalUnits = 4 ∧ v.token.model.rewardBasisOf "vault" = 3 ∧
      s.model.rewardBasisOf "vault" = 0 ∧ allowances calls start = 3 ∧
      |v.totalUnits - (v.token.model.rewardBasisOf "vault" - s.model.rewardBasisOf "vault")| ≤
        allowances calls start := by
  intro s books calls start v
  have hs : TokenStep.Reachable s := DepositToken.reachable_atOne rfl rfl nofun
  have hopen : StaticVault.open? s books = .ok books :=
    VaultBooks.open?_unused (by decide +kernel) (by decide)
  have hcalls : AllAccumulate calls start := by
    have hmint : "vault" ∉ (TokenCall.mint "pool" "alice" 10 ray).pass s := by decide +kernel
    refine ⟨hmint, ⟨?_, BalanceModel.holdsRate_of_pool ?_⟩, List.not_mem_nil, List.not_mem_nil,
      ⟨?_, BalanceModel.holdsRate_of_pool ?_⟩, trivial⟩ <;> decide +kernel
  have hnear := (units_drift_within_roundings hs rfl (by decide) rfl hopen calls hcalls).left
  -- the run is named, so that it is not carried out to see that both sides are the same
  have hv : afterAll calls ⟨s, books⟩ = v := rfl
  rw [hv] at hnear
  exact ⟨hs, rfl, by decide, rfl, hopen, hcalls, by decide +kernel, by decide +kernel,
    by decide +kernel, by decide +kernel, hnear⟩

end VaultCall
end ReserveAccounting
