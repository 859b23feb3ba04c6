import ReserveAccounting.Proofs.FailedCalls
import ReserveAccounting.Proofs.VaultRuns

/-!
# Properties that the calls of a vault keep

A vault makes a few calls on its token. What all of these keep of the token is
kept by every call of the vault, with the address of the vault and the soundness
of its units, and so along every run.
-/

namespace ReserveAccounting

open FixedPoint

/-!
# Properties of the token
-/

namespace DepositToken

variable {s s' : DepositToken}

/-- A property of tokens that the calls keep with which a vault moves tokens and looks at them. -/
structure Standing (q : DepositToken → Prop) : Prop where
  transfer : ∀ sender recipient amount, Act.Stable q (transfer sender recipient amount)
  claim : ∀ holder token, Act.Stable q (claim holder token)
  balanceOf : ∀ holder, Act.Stable q (balanceOf holder)
  readRate : Act.Stable q (onModel (BalanceModel.dispatch
    (BalanceModel.view fun _ => .ok ray) RebasingLedger.snapshot))

structure Lasting (q : DepositToken → Prop) : Prop extends Standing q where
  mint : ∀ caller holder amount index, Act.Stable q (mint caller holder amount index)
  burn : ∀ caller holder receiver amount index,
    Act.Stable q (burn caller holder receiver amount index)

theorem Standing.and {q q' : DepositToken → Prop} (h : Standing q) (h' : Standing q') :
    Standing fun s => q s ∧ q' s where
  transfer sender recipient amount :=
    (h.transfer sender recipient amount).and (h'.transfer sender recipient amount)
  claim holder token := (h.claim holder token).and (h'.claim holder token)
  balanceOf holder := (h.balanceOf holder).and (h'.balanceOf holder)
  readRate := h.readRate.and h'.readRate

theorem keeps_readRate :
    (onModel (BalanceModel.dispatch (BalanceModel.view fun _ => .ok ray)
      RebasingLedger.snapshot)).Leaves s (fun _ s' => s.Keeps (· = s.rewards) s')
      (fun _ s' => s.Keeps (· = s.rewards) s') :=
  keeps_onModel (BalanceModel.leaves_reading fun _ => RebasingLedger.leaves_snapshot)

theorem Lasting.of_calls {q : DepositToken → Prop}
    (hcalls : ∀ (c : TokenCall) s, q s → q (c.after s))
    (hreading : ∀ s s', q s → s.Keeps (· = s.rewards) s' → q s') : Lasting q where
  mint caller holder amount index := stable_of_call hcalls (.mint caller holder amount index) rfl
  burn caller holder receiver amount index :=
    stable_of_call hcalls (.burn caller holder receiver amount index) rfl
  transfer sender recipient amount :=
    stable_of_call hcalls (.transfer sender recipient amount) rfl
  claim holder token := stable_of_call hcalls (.claim holder token) rfl
  balanceOf _ := stable_of_reading hreading fun _ => keeps_balanceOf
  readRate := stable_of_reading hreading fun _ => keeps_readRate

end DepositToken

/-!
# Calls of a vault
-/

namespace ShareLedger

theorem stable_issue {holder : String} {n : Int} :
    Act.Stable Sound (applyDelta holder n .mint) := by
  apply Act.Stable.of_leaves
  intro l hl
  apply leaves_applyDelta.mono
  · intro _ l' h
    rcases h with ⟨_, hsign, _, rfl⟩
    have hcredits : l.Credits (Text.lower holder) n (l.withDelta (Text.lower holder) n .mint) :=
      ⟨of_decide_eq_true hsign, rfl⟩
    exact hcredits.sound (Text.lower_lower holder) hl
  · intro _ l' h
    rw [h]
    exact hl

theorem stable_cancel {holder : String} {n : Int} :
    Act.Stable Sound (applyDelta holder (-n) .burn) := by
  apply Act.Stable.of_leaves
  intro l hl
  apply leaves_applyDelta.mono
  · intro _ l' h
    rcases h with ⟨hzero, hsign, hheld, rfl⟩
    have hneg : ¬ 0 < -n := of_decide_eq_false hsign
    have hdebits : l.Debits (Text.lower holder) n (l.withDelta (Text.lower holder) (-n) .burn) :=
      ⟨by omega, by omega, rfl⟩
    exact hdebits.sound (Text.lower_lower holder) hl
  · intro _ l' h
    rw [h]
    exact hl

theorem stable_move {sender recipient : String} {n : Int} :
    Act.Stable Sound (moveShares sender recipient n) := by
  apply Act.Stable.of_leaves
  intro l hl
  apply (leaves_moveShares hl.nonneg).mono
  · intro _ l' h
    exact h.sound (Text.lower_lower sender) (Text.lower_lower recipient) hl
  · intro _ l' h
    rw [h]
    exact hl

end ShareLedger

namespace StaticVault

variable {v v' v'' : StaticVault} {address : String} {q : DepositToken → Prop} {α : Type}

structure Over (address : String) (q : DepositToken → Prop) (v : StaticVault) : Prop where
  address : v.books.address = address
  token : q v.token
  units : v.books.balances.Sound

theorem stable_onToken {m : Act DepositToken α} (h : Act.Stable q m) :
    Act.Stable (Over address q) (onToken m) :=
  Act.Stable.within (fun _ h => h.token) (fun _ _ h ht => ⟨h.address, ht, h.units⟩) h

theorem stable_onRewards {m : Act RewardTracker α} : Act.Stable (Over address q) (onRewards m) :=
  Act.Stable.within_aside fun _ _ h => ⟨h.address, h.token, h.units⟩

theorem stable_onBalances {m : Act ShareLedger α} (h : Act.Stable ShareLedger.Sound m) :
    Act.Stable (Over address q) (onBalances m) :=
  Act.Stable.within (fun _ h => h.units) (fun _ _ h hl => ⟨h.address, h.token, hl⟩) h

theorem stable_emit {kind : EventKind} {source target : String} {value : Int} :
    Act.Stable (Over address q) (emit kind source target value) :=
  Act.Stable.update fun _ h => ⟨h.address, h.token, h.units⟩

theorem stable_requireRecipient {recipient : String} :
    Act.Stable (Over address q) (requireRecipient recipient) := by
  unfold requireRecipient
  apply Act.Stable.bind Act.Stable.current
  intro v
  exact Act.Stable.ite (Act.Stable.refuse _) (Act.Stable.pure _)

theorem bystander_over (hclaim : ∀ token, Act.Stable q (DepositToken.claim address token)) :
    Bystander (Over address q) where
  claim v hv token := by
    rw [hv.address]
    exact stable_onToken (hclaim token)
  rewards _ _ h := ⟨h.address, h.token, h.units⟩
  collected _ _ _ h := ⟨h.address, h.token, h.units⟩

theorem stable_claimRewards (hclaim : ∀ token, Act.Stable q (DepositToken.claim address token))
    {holder token : String} {forceUpdate : Bool} :
    Act.Stable (Over address q) (claimRewards holder token forceUpdate) :=
  (bystander_over hclaim).claimRewards holder token forceUpdate
    fun _ _ h => ⟨h.address, h.token, h.units⟩

theorem stable_applyChange (hclaim : ∀ token, Act.Stable q (DepositToken.claim address token))
    {accounts : List String} {change : Act StaticVault Unit}
    (hchange : Act.Stable (Over address q) change) :
    Act.Stable (Over address q) (applyChange accounts change) := by
  unfold applyChange
  apply Act.Stable.bind ((bystander_over hclaim).collect none)
  intro _
  apply Act.Stable.bind Act.Stable.current
  intro v
  apply Act.Stable.bind stable_onRewards
  intro saved
  exact hchange.onRefusal fun _ h => ⟨h.address, h.token, h.units⟩

theorem stable_rate (hq : DepositToken.Standing q) : Act.Stable (Over address q) rate := by
  unfold rate
  apply Act.Stable.bind Act.Stable.current
  intro v
  split
  · exact Act.Stable.pure _
  · apply Act.Stable.bind (stable_onToken hq.readRate)
    intro exchangeRate
    exact Act.Stable.refusable _

theorem stable_unitsFor (hq : DepositToken.Standing q) {value : Int} :
    Act.Stable (Over address q) (unitsFor value) :=
  (stable_rate hq).bind fun _ => Act.Stable.refusable _

theorem stable_valueOf (hq : DepositToken.Standing q) {units : Int} :
    Act.Stable (Over address q) (valueOf units) :=
  (stable_rate hq).bind fun _ => Act.Stable.refusable _

theorem stable_takeTokens (hq : DepositToken.Standing q) {depositor : String} {amount : Int}
    {fromUnderlying : Bool} (hmint : fromUnderlying = true → ∀ caller holder amount index,
      Act.Stable q (DepositToken.mint caller holder amount index)) :
    Act.Stable (Over address q) (takeTokens depositor amount fromUnderlying) := by
  unfold takeTokens
  apply Act.Stable.bind Act.Stable.current
  intro v
  split
  · next hflag => exact (stable_onToken (hmint hflag _ _ _ _)).bind fun _ => Act.Stable.pure ()
  · exact (stable_onToken (hq.transfer _ _ _)).bind fun _ => Act.Stable.pure ()

theorem stable_releaseTokens (hq : DepositToken.Standing q) {recipient : String} {amount : Int}
    {toUnderlying : Bool} (hburn : toUnderlying = true → ∀ caller holder receiver amount index,
      Act.Stable q (DepositToken.burn caller holder receiver amount index)) :
    Act.Stable (Over address q) (releaseTokens recipient amount toUnderlying) := by
  unfold releaseTokens
  apply Act.Stable.bind Act.Stable.current
  intro v
  split
  · next hflag => exact (stable_onToken (hburn hflag _ _ _ _ _)).bind fun _ => Act.Stable.pure ()
  · exact (stable_onToken (hq.transfer _ _ _)).bind fun _ => Act.Stable.pure ()

theorem stable_deposit_of (hq : DepositToken.Standing q) {depositor recipient : String}
    {amount : Int} {fromUnderlying : Bool}
    (hmint : fromUnderlying = true → ∀ caller holder amount index,
      Act.Stable q (DepositToken.mint caller holder amount index)) :
    Act.Stable (Over address q) (deposit depositor recipient amount fromUnderlying) := by
  unfold deposit
  apply Act.Stable.bind stable_requireRecipient
  intro account
  apply Act.Stable.ite (Act.Stable.refuse _)
  apply Act.Stable.bind (stable_unitsFor hq)
  intro units
  apply Act.Stable.ite
  · exact (stable_rate hq).bind fun _ => Act.Stable.refuse _
  · apply Act.Stable.bind
    · apply stable_applyChange (hq.claim address)
      apply Act.Stable.bind (stable_takeTokens hq hmint)
      intro _
      apply Act.Stable.bind (stable_onBalances ShareLedger.stable_issue)
      intro _
      exact Act.Stable.pure ()
    · intro _
      apply Act.Stable.bind stable_emit
      intro _
      apply Act.Stable.bind Act.Stable.current
      intro v
      apply Act.Stable.bind (Act.Stable.note _)
      intro _
      exact Act.Stable.pure units

theorem stable_deposit (hq : DepositToken.Lasting q) {depositor recipient : String} {amount : Int}
    {fromUnderlying : Bool} :
    Act.Stable (Over address q) (deposit depositor recipient amount fromUnderlying) :=
  stable_deposit_of hq.toStanding fun _ => hq.mint

theorem stable_release (hq : DepositToken.Standing q) {owner recipient : String}
    {units value : Int} {toUnderlying : Bool}
    (hburn : toUnderlying = true → ∀ caller holder receiver amount index,
      Act.Stable q (DepositToken.burn caller holder receiver amount index)) :
    Act.Stable (Over address q) (release owner recipient units value toUnderlying) := by
  unfold release
  apply Act.Stable.bind stable_requireRecipient
  intro account
  apply Act.Stable.ite (Act.Stable.refuse _)
  apply Act.Stable.bind Act.Stable.current
  intro v
  apply Act.Stable.ite (Act.Stable.refuse _)
  apply Act.Stable.bind (stable_onToken (hq.balanceOf _))
  intro held
  apply Act.Stable.ite (Act.Stable.refuse _)
  apply Act.Stable.bind
  · apply stable_applyChange (hq.claim address)
    apply Act.Stable.bind (stable_releaseTokens hq hburn)
    intro _
    apply Act.Stable.bind (stable_onBalances ShareLedger.stable_cancel)
    intro _
    exact Act.Stable.pure ()
  · intro _
    apply Act.Stable.bind stable_emit
    intro _
    apply Act.Stable.bind (Act.Stable.note _)
    intro _
    exact Act.Stable.pure _

theorem stable_withdraw_of (hq : DepositToken.Standing q) {owner recipient : String} {units : Int}
    {toUnderlying : Bool} (hburn : toUnderlying = true → ∀ caller holder receiver amount index,
      Act.Stable q (DepositToken.burn caller holder receiver amount index)) :
    Act.Stable (Over address q) (withdraw owner recipient units toUnderlying) := by
  unfold withdraw
  apply Act.Stable.bind Act.Stable.current
  intro v
  apply Act.Stable.bind (stable_valueOf hq)
  intro value
  exact stable_release hq hburn

theorem stable_withdraw (hq : DepositToken.Lasting q) {owner recipient : String} {units : Int}
    {toUnderlying : Bool} :
    Act.Stable (Over address q) (withdraw owner recipient units toUnderlying) :=
  stable_withdraw_of hq.toStanding fun _ => hq.burn

theorem stable_withdrawValue_of (hq : DepositToken.Standing q) {owner recipient : String}
    {value : Int} {toUnderlying : Bool}
    (hburn : toUnderlying = true → ∀ caller holder receiver amount index,
      Act.Stable q (DepositToken.burn caller holder receiver amount index)) :
    Act.Stable (Over address q) (withdrawValue owner recipient value toUnderlying) := by
  unfold withdrawValue
  apply Act.Stable.bind (stable_unitsFor hq)
  intro units
  exact stable_release hq hburn

theorem stable_withdrawValue (hq : DepositToken.Lasting q) {owner recipient : String} {value : Int}
    {toUnderlying : Bool} :
    Act.Stable (Over address q) (withdrawValue owner recipient value toUnderlying) :=
  stable_withdrawValue_of hq.toStanding fun _ => hq.burn

theorem stable_transfer (hq : DepositToken.Lasting q) {sender recipient : String} {units : Int} :
    Act.Stable (Over address q) (transfer sender recipient units) := by
  unfold transfer
  apply Act.Stable.bind stable_requireRecipient
  intro account
  apply Act.Stable.bind
  · exact stable_applyChange (hq.claim address) (stable_onBalances ShareLedger.stable_move)
  · intro _
    apply Act.Stable.bind stable_emit
    intro _
    exact Act.Stable.pure true

end StaticVault

/-!
# Runs of a vault
-/

namespace VaultCall

variable {p : StaticVault → Prop} {q : DepositToken → Prop} {address : String}

theorem afterAll_induction (hstep : ∀ c v, p v → p (after c v)) {start : StaticVault}
    (hstart : p start) (calls : List VaultCall) : p (afterAll calls start) := by
  induction calls generalizing start with
  | nil => exact hstart
  | cons c rest ih => exact ih (hstep c start hstart)

theorem over_after_of (hq : DepositToken.Lasting q)
    (hcalls : ∀ c : TokenCall, Act.Stable q c.perform) (c : VaultCall) {v : StaticVault}
    (hv : v.Over address q) : (c.after v).Over address q := by
  have hending : ∀ {α : Type} {m : Act StaticVault α},
      Act.Stable (StaticVault.Over address q) m → (Act.run (Act.ending m) v).2.Over address q := by
    intro α m hm
    rw [Act.run_ending]
    exact hm.after v hv
  cases c with
  | deposit depositor recipient amount fromUnderlying =>
      exact hending (StaticVault.stable_deposit hq)
  | withdraw owner recipient units toUnderlying => exact hending (StaticVault.stable_withdraw hq)
  | withdrawValue owner recipient value toUnderlying =>
      exact hending (StaticVault.stable_withdrawValue hq)
  | transfer sender recipient units => exact hending (StaticVault.stable_transfer hq)
  | claimRewards holder token forceUpdate =>
      exact hending (StaticVault.stable_claimRewards (hq.claim address))
  | collect token => exact hending ((StaticVault.bystander_over (hq.claim address)).collect token)
  | onToken c => exact (StaticVault.stable_onToken (hcalls c)).after v hv

theorem over_after (hcalls : ∀ (c : TokenCall) s, q s → q (c.after s))
    (hreading : ∀ s s', q s → s.Keeps (· = s.rewards) s' → q s') (c : VaultCall)
    {v : StaticVault} (hv : v.Over address q) : (c.after v).Over address q :=
  over_after_of (DepositToken.Lasting.of_calls hcalls hreading)
    (fun c => ⟨fun s hs => hcalls c s hs⟩) c hv

end VaultCall
end ReserveAccounting
