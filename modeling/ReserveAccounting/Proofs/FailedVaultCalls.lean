import ReserveAccounting.Proofs.VaultInvariants

/-!
# Failed calls of a vault

A deposit or a withdrawal has two legs: tokens move, then units are booked. All
that a call has to check is checked before the first leg, so the second one
cannot fail, and a first leg that fails leaves the token as it was. What the
call did before its legs is collecting rewards and checkpointing holders, which
touch neither shares nor units.
-/

namespace ReserveAccounting

open FixedPoint

namespace StaticVault

variable {v v' v'' : StaticVault} {α β : Type}

/-!
# Readings
-/

structure Reads (v v' : StaticVault) : Prop where
  token : v.token.Keeps (· = v.token.rewards) v'.token
  books : v'.books = v.books

theorem Reads.refl (v : StaticVault) : Reads v v where
  token := DepositToken.Changes.refl rfl rfl rfl
  books := rfl

theorem Reads.quiet (h : Reads v v') : Quiet v v' where
  token := h.token.mono (fun _ h => h) (fun _ h => h) (fun _ _ => trivial)
  address := by rw [h.books]
  balances := by rw [h.books]

theorem reads_onToken {m : Act DepositToken α}
    (h : m.Leaves v.token (fun _ s => v.token.Keeps (· = v.token.rewards) s)
      (fun _ s => v.token.Keeps (· = v.token.rewards) s)) :
    (onToken m).Leaves v (fun _ v' => Reads v v') (fun _ v' => Reads v v') := by
  rw [leaves_onToken]
  exact h.mono (fun _ _ h => ⟨h, rfl⟩) (fun _ _ h => ⟨h, rfl⟩)

theorem reads_rate : rate.Leaves v (fun _ v' => Reads v v') (fun _ v' => Reads v v') := by
  unfold rate
  rw [Act.leaves_bind, Act.leaves_current]
  split
  · exact Reads.refl v
  · rw [Act.leaves_bind]
    apply (reads_onToken DepositToken.keeps_readRate).mono _ (fun _ _ h => h)
    intro exchangeRate v₁ h
    rw [Act.leaves_refusable]
    exact ⟨fun _ _ => h, fun _ _ => h⟩

theorem reads_atRate {convert : Int → Except Refusal Int} :
    (do
      let r ← rate
      convert r : Act StaticVault Int).Leaves v
      (fun result v' => Reads v v' ∧ ∃ r, convert r = .ok result) (fun _ v' => Reads v v') := by
  rw [Act.leaves_bind]
  apply reads_rate.mono _ (fun _ _ h => h)
  intro r v₁ h
  rw [Act.leaves_refusable]
  exact ⟨fun _ hresult => ⟨h, r, hresult⟩, fun _ _ => h⟩

/-!
# What is kept until the legs
-/

/--
A property that a vault keeps until the legs of a call, and what stands of it
when the call fails there.
-/
structure Guards (units : ShareLedger) (kept : StaticVault → Prop)
    (failed : Fault → StaticVault → Prop) : Prop where
  units : ∀ v, kept v → v.books.balances = units
  stands : ∀ e v, kept v → failed e v
  reads : ∀ v v', kept v → Reads v v' → kept v'
  bystander : Bystander kept
  restored : ∀ r v saved, failed (.refused r) v → failed (.refused r) (withRestored saved v)
  mint : ∀ v, kept v → ∀ caller holder amount index,
    (DepositToken.mint caller holder amount index).Leaves v.token (fun _ _ => True)
      (fun e s => failed e { v with token := s })
  burn : ∀ v, kept v → ∀ caller holder receiver amount index,
    (DepositToken.burn caller holder receiver amount index).Leaves v.token (fun _ _ => True)
      (fun e s => failed e { v with token := s })
  transfer : ∀ v, kept v → ∀ sender recipient amount,
    (DepositToken.transfer sender recipient amount).Leaves v.token (fun _ _ => True)
      (fun e s => failed e { v with token := s })

theorem leaves_rebook {holder : String} {n : Int} {reason : BalanceChange} (hzero : n ≠ 0)
    (hsign : decide (0 < n) = reason.isCredit)
    (hheld : 0 ≤ v.books.balances.held (Text.lower holder) + n) :
    (do
      let _ ← onBalances (ShareLedger.applyDelta holder n reason)
      return : Act StaticVault Unit).Leaves v (fun _ _ => True) (fun _ _ => False) := by
  rw [Act.leaves_bind, leaves_onBalances]
  unfold Act.Leaves
  rw [ShareLedger.run_applyDelta hzero hsign hheld]
  trivial

namespace Guards

variable {units : ShareLedger} {kept : StaticVault → Prop} {failed : Fault → StaticVault → Prop}

theorem bind_reading (hg : Guards units kept failed) (hv : kept v) {m : Act StaticVault α}
    {f : α → Act StaticVault β} {read : α → Prop}
    (hm : m.Leaves v (fun a v' => Reads v v' ∧ read a) (fun _ v' => Reads v v'))
    (hf : ∀ a, read a → ∀ v', kept v' → (f a).Leaves v' (fun _ _ => True) failed) :
    (m >>= f).Leaves v (fun _ _ => True) failed := by
  rw [Act.leaves_bind]
  apply hm.mono
  · intro a v' h
    exact hf a h.right v' (hg.reads v v' hv h.left)
  · intro e v' h
    exact hg.stands e v' (hg.reads v v' hv h)

theorem bind_requireRecipient (hg : Guards units kept failed) (hv : kept v) {recipient : String}
    {f : String → Act StaticVault β}
    (hf : ∀ account, (f account).Leaves v (fun _ _ => True) failed) :
    (requireRecipient recipient >>= f).Leaves v (fun _ _ => True) failed := by
  rw [Act.leaves_bind]
  apply leaves_requireRecipient.mono
  · intro account v' h
    rw [h.right]
    exact hf account
  · intro e v' h
    rw [h]
    exact hg.stands e v hv

theorem takeTokens (hg : Guards units kept failed) (hv : kept v) {depositor : String}
    {amount : Int} {fromUnderlying : Bool} :
    (takeTokens depositor amount fromUnderlying).Leaves v (fun _ v' => v'.books = v.books)
      failed := by
  unfold StaticVault.takeTokens
  rw [Act.leaves_bind, Act.leaves_current, Act.leaves_ite]
  constructor
  · intro _
    rw [Act.leaves_bind, leaves_onToken]
    exact (hg.mint v hv _ _ _ _).mono (fun _ _ _ => rfl) (fun _ _ h => h)
  · intro _
    rw [Act.leaves_bind, leaves_onToken]
    exact (hg.transfer v hv _ _ _).mono (fun _ _ _ => rfl) (fun _ _ h => h)

theorem releaseTokens (hg : Guards units kept failed) (hv : kept v) {recipient : String}
    {amount : Int} {toUnderlying : Bool} :
    (releaseTokens recipient amount toUnderlying).Leaves v (fun _ v' => v'.books = v.books)
      failed := by
  unfold StaticVault.releaseTokens
  rw [Act.leaves_bind, Act.leaves_current, Act.leaves_ite]
  constructor
  · intro _
    rw [Act.leaves_bind, leaves_onToken]
    exact (hg.burn v hv _ _ _ _ _).mono (fun _ _ _ => rfl) (fun _ _ h => h)
  · intro _
    rw [Act.leaves_bind, leaves_onToken]
    exact (hg.transfer v hv _ _ _).mono (fun _ _ _ => rfl) (fun _ _ h => h)

/-- The second leg of a call books units for which everything has been checked. -/
theorem thenRebook (hg : Guards units kept failed) (hv : kept v) {leg : Act StaticVault Unit}
    (hleg : leg.Leaves v (fun _ v' => v'.books = v.books) failed) {holder : String} {n : Int}
    {reason : BalanceChange} (hzero : n ≠ 0) (hsign : decide (0 < n) = reason.isCredit)
    (hheld : 0 ≤ units.held (Text.lower holder) + n) :
    (do
      leg
      let _ ← onBalances (ShareLedger.applyDelta holder n reason) :
        Act StaticVault Unit).Leaves v (fun _ _ => True) failed := by
  rw [Act.leaves_bind]
  apply hleg.mono _ (fun _ _ h => h)
  intro _ v' hbooks
  rw [← hg.units v hv, ← hbooks] at hheld
  exact (leaves_rebook hzero hsign hheld).mono (fun _ _ h => h) (fun _ _ h => h.elim)

theorem applyChange (hg : Guards units kept failed) (hv : kept v) {accounts : List String}
    {change : Act StaticVault Unit}
    (hchange : ∀ v', kept v' → change.Leaves v' (fun _ _ => True) failed) :
    (applyChange accounts change).Leaves v (fun _ _ => True) failed := by
  unfold StaticVault.applyChange
  rw [Act.leaves_bind]
  apply ((hg.bystander.collect none).leaves hv).mono _ (fun e v' h => hg.stands e v' h)
  intro _ v₁ h₁
  rw [Act.leaves_bind, Act.leaves_current, Act.leaves_bind]
  apply ((hg.bystander.onRewards _).leaves h₁).mono _ (fun e v' h => hg.stands e v' h)
  intro saved v₂ h₂
  rw [Act.leaves_onRefusal]
  apply (hchange v₂ h₂).mono (fun _ _ h => h)
  intro e v₃ h₃
  cases e with
  | refused r => exact hg.restored r v₃ saved h₃
  | _ => exact h₃

theorem deposit (hg : Guards units kept failed) (hunits : units.Sound) (hv : kept v)
    {depositor recipient : String} {amount : Int} {fromUnderlying : Bool} :
    (deposit depositor recipient amount fromUnderlying).Leaves v (fun _ _ => True) failed := by
  unfold StaticVault.deposit
  apply hg.bind_requireRecipient hv
  intro account
  rw [Act.leaves_ite]
  refine ⟨fun _ => hg.stands _ v hv, fun _ => ?_⟩
  apply hg.bind_reading hv reads_atRate
  intro issued hissued v₁ h₁
  rcases hissued with ⟨r, hissued⟩
  have hnonneg := rayDiv_nonneg hissued
  rw [Act.leaves_ite]
  constructor
  · intro _
    rw [Act.leaves_bind]
    apply reads_rate.mono
    · intro r v₂ h
      exact hg.stands _ v₂ (hg.reads v₁ v₂ h₁ h)
    · intro e v₂ h
      exact hg.stands e v₂ (hg.reads v₁ v₂ h₁ h)
  · intro hzero
    rw [Act.leaves_bind]
    apply (hg.applyChange h₁ _).mono (fun _ _ _ => trivial) (fun _ _ h => h)
    intro v₂ h₂
    have hheld := hunits.nonneg (Text.lower account)
    exact hg.thenRebook h₂ (hg.takeTokens h₂) hzero (decide_eq_true (by omega)) (by omega)

theorem release (hg : Guards units kept failed) (hv : kept v) {owner recipient : String}
    {cancelled value : Int} {toUnderlying : Bool} (hnonneg : 0 ≤ cancelled) :
    (release owner recipient cancelled value toUnderlying).Leaves v (fun _ _ => True) failed := by
  unfold StaticVault.release
  apply hg.bind_requireRecipient hv
  intro account
  rw [Act.leaves_ite]
  refine ⟨fun _ => hg.stands _ v hv, fun _ => ?_⟩
  rw [Act.leaves_bind, Act.leaves_current]
  dsimp only
  rw [Act.leaves_ite]
  refine ⟨fun _ => hg.stands _ v hv, fun howned => ?_⟩
  apply hg.bind_reading hv ((reads_onToken DepositToken.keeps_balanceOf).mono
    (fun _ _ h => ⟨h, trivial⟩) (fun _ _ h => h))
  intro held _ v₁ h₁
  rw [Act.leaves_ite]
  refine ⟨fun _ => hg.stands _ v₁ h₁, fun hsome => ?_⟩
  rw [Act.leaves_bind]
  apply (hg.applyChange h₁ _).mono (fun _ _ _ => trivial) (fun _ _ h => h)
  intro v₂ h₂
  have hheld : cancelled ≤ units.held (Text.lower owner) := by
    rw [← hg.units v hv]
    exact not_lt.mp howned
  exact hg.thenRebook h₂ (hg.releaseTokens h₂) (by omega) (decide_eq_false (by omega)) (by omega)

theorem withdraw (hg : Guards units kept failed) (hv : kept v) {owner recipient : String}
    {cancelled : Int} {toUnderlying : Bool} :
    (withdraw owner recipient cancelled toUnderlying).Leaves v (fun _ _ => True) failed := by
  unfold StaticVault.withdraw
  rw [Act.leaves_bind, Act.leaves_current]
  apply hg.bind_reading hv reads_atRate
  intro value hvalue v₁ h₁
  rcases hvalue with ⟨r, hvalue⟩
  exact hg.release h₁ (rayMul_ok hvalue).left

theorem withdrawValue (hg : Guards units kept failed) (hv : kept v) {owner recipient : String}
    {value : Int} {toUnderlying : Bool} :
    (withdrawValue owner recipient value toUnderlying).Leaves v (fun _ _ => True) failed := by
  unfold StaticVault.withdrawValue
  apply hg.bind_reading hv reads_atRate
  intro cancelled hcancelled v₁ h₁
  rcases hcancelled with ⟨r, hcancelled⟩
  exact hg.release h₁ (rayDiv_nonneg hcancelled)

theorem moveUnits (hg : Guards units kept failed) (hunits : units.Sound) (hv : kept v)
    {sender recipient : String} {moved : Int} :
    (StaticVault.transfer sender recipient moved).Leaves v (fun _ _ => True) failed := by
  unfold StaticVault.transfer
  apply hg.bind_requireRecipient hv
  intro account
  rw [Act.leaves_bind]
  apply (hg.applyChange hv _).mono (fun _ _ _ => trivial) (fun _ _ h => h)
  intro v₁ h₁
  rw [leaves_onBalances]
  apply (ShareLedger.leaves_moveShares (hg.units v₁ h₁ ▸ hunits.nonneg)).mono
  · intro _ _ _
    trivial
  · intro e l hsame
    rw [hsame]
    exact hg.stands e v₁ h₁

end Guards

theorem balances_of_open? {s : DepositToken} {books opened : VaultBooks}
    (h : open? s books = .ok opened) : opened.balances = books.balances := by
  unfold open? at h
  dsimp only at h
  split at h
  · cases h
  · cases h
    rfl

/-!
# Calls that change nothing when they fail
-/

def Untouched (v v' : StaticVault) : Prop := Quiet v v' ∧ v'.books.events = v.books.events

theorem Untouched.refl (v : StaticVault) : Untouched v v := ⟨Quiet.refl v, rfl⟩

theorem Untouched.withToken {rewarded : Option RewardProgram → Prop} {s : DepositToken}
    (h : Untouched v v') (hs : v'.token.Keeps rewarded s) : Untouched v { v' with token := s } :=
  ⟨h.left.trans (Quiet.of_keeps hs), h.right⟩

theorem bystander_events (events : List TokenEvent) :
    Bystander fun v => v.books.events = events where
  claim _ _ _ := Act.Stable.within_aside fun _ _ h => h
  rewards _ _ h := h
  collected _ _ _ h := h

theorem bystander_untouched (v : StaticVault) : Bystander (Untouched v) :=
  (bystander_quiet v).and (bystander_events v.books.events)

theorem guards_untouched (hs : ∀ name, 0 ≤ v.token.model.ledger.held name) :
    Guards v.books.balances (Untouched v) (fun _ => Untouched v) where
  units _ h := h.left.balances
  stands _ _ h := h
  reads _ _ h hreads := by
    refine ⟨h.left.trans hreads.quiet, ?_⟩
    rw [hreads.books]
    exact h.right
  bystander := bystander_untouched v
  restored _ _ saved h := ⟨h.left.withRestored saved, h.right⟩
  mint _ h _ _ _ _ :=
    DepositToken.leaves_mint.mono (fun _ _ _ => trivial) (fun _ _ hkeeps => h.withToken hkeeps)
  burn _ h _ _ _ _ _ :=
    DepositToken.leaves_burn.mono (fun _ _ _ => trivial) (fun _ _ hkeeps => h.withToken hkeeps)
  transfer v₁ h _ _ _ := by
    have hs₁ : ∀ name, 0 ≤ v₁.token.model.ledger.held name := by
      rw [h.left.token.ledger]
      exact hs
    exact (DepositToken.leaves_transfer hs₁).mono (fun _ _ _ => trivial)
      (fun _ _ hkeeps => h.withToken hkeeps)

end StaticVault

namespace VaultCall

variable {v : StaticVault}

theorem untouched_perform (c : VaultCall) (hs : ∀ name, 0 ≤ v.token.model.ledger.held name)
    (hunits : v.books.balances.Sound) :
    c.perform.Leaves v (fun _ _ => True) (fun _ v' => v.Untouched v') := by
  have hg := StaticVault.guards_untouched hs
  have hv := StaticVault.Untouched.refl v
  cases c with
  | deposit depositor recipient amount fromUnderlying =>
      exact Act.leaves_ending.mpr (hg.deposit hunits hv)
  | withdraw owner recipient units toUnderlying => exact Act.leaves_ending.mpr (hg.withdraw hv)
  | withdrawValue owner recipient value toUnderlying =>
      exact Act.leaves_ending.mpr (hg.withdrawValue hv)
  | transfer sender recipient units => exact Act.leaves_ending.mpr (hg.moveUnits hunits hv)
  | claimRewards holder token forceUpdate =>
      exact Act.leaves_ending.mpr
        ((hg.bystander.claimRewards_onFault holder token forceUpdate).after v hv)
  | collect token =>
      exact Act.leaves_ending.mpr
        ((Act.KeptOnFault.of_stable (hg.bystander.collect token)).after v hv)
  | onToken c =>
      rw [perform, StaticVault.leaves_onToken]
      exact (TokenCall.leaves_perform c hs).mono (fun _ _ _ => trivial)
        (fun _ _ hkeeps => hv.withToken hkeeps)

/--
A vault is opened on a token after any calls of it, and runs with calls of the
token in between. Whatever then fails leaves the units, the events, the shares
of the token and its index as they were: no call completes one of its legs
without the other.
-/
theorem failed_call_leaves_untouched {origin : DepositToken} {books opened : VaultBooks}
    (hshares : ∀ name, 0 ≤ origin.model.ledger.held name) (earlier : List TokenCall)
    (hunits : books.balances.Sound)
    (hopen : StaticVault.open? (TokenCall.afterAll earlier origin) books = .ok opened)
    (calls : List VaultCall) (c : VaultCall) {e : Fault} {v' : StaticVault}
    (hrun : Act.run c.perform
      (afterAll calls { token := TokenCall.afterAll earlier origin, books := opened }) =
        (.error e, v')) :
    let v := afterAll calls { token := TokenCall.afterAll earlier origin, books := opened }
    v'.books.balances = v.books.balances ∧ v'.books.events = v.books.events ∧
      v'.token.model.ledger = v.token.model.ledger ∧ v'.token.reserve = v.token.reserve := by
  intro v
  let nonneg (s : DepositToken) : Prop := ∀ name, 0 ≤ s.model.ledger.held name
  have hcalls : ∀ (c : TokenCall) s, nonneg s → nonneg (c.after s) := fun c _ hs =>
    c.nonneg_after hs
  have hreading : ∀ s s' : DepositToken, nonneg s → s.Keeps (· = s.rewards) s' → nonneg s' := by
    intro s s' hs h name
    rw [h.ledger]
    exact hs name
  have hover : v.Over opened.address nonneg := by
    apply afterAll_induction (fun c _ hv => over_after hcalls hreading c hv)
    refine ⟨rfl, TokenCall.afterAll_induction hcalls hshares earlier, ?_⟩
    rw [StaticVault.balances_of_open? hopen]
    exact hunits
  have huntouched := (untouched_perform c hover.token hover.units).of_error hrun
  exact ⟨huntouched.left.balances, huntouched.right, huntouched.left.token.ledger,
    huntouched.left.token.reserve⟩

/-- A deposit of more than the depositor has left is refused in its first leg. -/
theorem failed_call_leaves_untouched_deposit_above_balance :
    let origin : DepositToken :=
      .atOne (.rebasing (.fresh (.feed ⟨"stETH", fun _ => ray, 0⟩))) (some (.empty 0))
    let earlier := [TokenCall.mint "pool" "alice" 10 ray]
    let books := VaultBooks.unused "vault"
    let start : StaticVault := { token := TokenCall.afterAll earlier origin, books := books }
    let v := afterAll [deposit "alice" "bob" 4 false] start
    let c := deposit "alice" "bob" 7 false
    let v' := (Act.run c.perform v).2
    ∃ r, (∀ name, 0 ≤ origin.model.ledger.held name) ∧ books.balances.Sound ∧
      StaticVault.open? (TokenCall.afterAll earlier origin) books = .ok books ∧
      Act.run c.perform v = (.error (.refused r), v') ∧ r.kind = .insufficientBalance ∧
      v.totalUnits = 4 ∧ v'.books.balances = v.books.balances ∧
      v'.books.events = v.books.events ∧ v'.token.model.ledger = v.token.model.ledger ∧
      v'.token.reserve = v.token.reserve := by
  intro origin earlier books start v c v'
  have hshares : ∀ name, 0 ≤ origin.model.ledger.held name := fun _ => Int.le_refl 0
  have hunits : books.balances.Sound := ShareLedger.sound_empty
  have hopen : StaticVault.open? (TokenCall.afterAll earlier origin) books = .ok books :=
    VaultBooks.open?_unused (by decide +kernel) (by decide)
  have hrefused : (Act.refusal? (Act.run c.perform v).1).isSome = true := by decide +kernel
  let r := (Act.refusal? (Act.run c.perform v).1).getD default
  have hrun : Act.run c.perform v = (.error (.refused r), v') := Act.run_eq_refused hrefused
  have huntouched := failed_call_leaves_untouched hshares earlier hunits hopen
    [deposit "alice" "bob" 4 false] c hrun
  -- the run is named, so that it is not carried out to see that both sides are the same
  have hv : afterAll [deposit "alice" "bob" 4 false]
      { token := TokenCall.afterAll earlier origin, books := books } = v := rfl
  rw [hv] at huntouched
  exact ⟨r, hshares, hunits, hopen, hrun, by decide +kernel, by decide +kernel, huntouched⟩

end VaultCall
end ReserveAccounting
