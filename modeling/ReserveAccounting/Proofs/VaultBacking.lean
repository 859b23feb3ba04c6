import ReserveAccounting.Proofs.VaultLegs

/-!
# Backing of units

On a plain reserve every unit of a vault has a share of the deposit token
behind it. There is one way around it: a deposit that the vault makes from its
own address moves shares from it to itself and still issues units.
-/

namespace ReserveAccounting

open FixedPoint

namespace StaticVault

variable {v v' : StaticVault}

/-!
# Values and units on a plain reserve
-/

theorem leaves_bind_of_reading {α β : Type} {m : Act StaticVault α} {f : α → Act StaticVault β}
    {read : α → Prop} {answered : β → StaticVault → Prop}
    (hm : m.Leaves v (fun a v' => read a ∧ v' = v) (fun _ v' => v' = v))
    (hf : ∀ a, read a → (f a).Leaves v answered (fun _ v' => Quiet v v')) :
    (m >>= f).Leaves v answered (fun _ v' => Quiet v v') := by
  rw [Act.leaves_bind]
  apply hm.mono
  · intro a v₁ h
    rcases h with ⟨hread, rfl⟩
    exact hf a hread
  · intro _ v₁ hsame
    exact Quiet.of_eq hsame

theorem leaves_rate (hplain : v.token.isRebasing = false) :
    rate.Leaves v (fun r v' => r = v.token.index ∧ v' = v) (fun _ v' => v' = v) := by
  rcases DepositToken.exists_plain hplain with ⟨l, hmodel⟩
  unfold rate
  rw [Act.leaves_bind, Act.leaves_current, hmodel]
  exact ⟨rfl, rfl⟩

theorem leaves_atRate {convert : Int → Except Refusal Int} (hplain : v.token.isRebasing = false) :
    (do
      let r ← rate
      convert r : Act StaticVault Int).Leaves v
      (fun result v' => convert v.token.index = .ok result ∧ v' = v) (fun _ v' => v' = v) := by
  rw [Act.leaves_bind]
  apply (leaves_rate hplain).mono _ (fun _ _ h => h)
  intro r v₁ h
  rcases h with ⟨rfl, hsame⟩
  subst v₁
  rw [Act.leaves_refusable]
  exact ⟨fun _ h => ⟨h, rfl⟩, fun _ _ => rfl⟩

theorem leaves_valueOf {units : Int} (hplain : v.token.isRebasing = false) :
    (valueOf units).Leaves v
      (fun value v' => rayMul units v.token.index = .ok value ∧ v' = v) (fun _ v' => v' = v) :=
  leaves_atRate hplain

theorem leaves_unitsFor {value : Int} (hplain : v.token.isRebasing = false) :
    (unitsFor value).Leaves v
      (fun units v' => rayDiv value v.token.index = .ok units ∧ v' = v) (fun _ v' => v' = v) :=
  leaves_atRate hplain

theorem leaves_requireRecipient {recipient : String} :
    (requireRecipient recipient).Leaves v
      (fun account v' => account = Text.lower recipient ∧ v' = v) (fun _ v' => v' = v) := by
  unfold requireRecipient
  rw [Act.leaves_bind, Act.leaves_current]
  dsimp only
  rw [Act.leaves_ite]
  exact ⟨fun _ => rfl, fun _ => ⟨rfl, rfl⟩⟩

theorem leaves_balanceOf {holder : String} (hplain : v.token.isRebasing = false) :
    (onToken (DepositToken.balanceOf holder)).Leaves v
      (fun _ v' => True ∧ v' = v) (fun _ v' => v' = v) := by
  rcases DepositToken.exists_plain hplain with ⟨l, hmodel⟩
  have hsame : { v with token := { v.token with model := .plain l } } = v := by
    rw [← hmodel]
  unfold onToken DepositToken.balanceOf
  rw [Act.leaves_within, Act.leaves_bind, Act.leaves_current, DepositToken.leaves_onModel, hmodel,
    Act.leaves_embed (show BalanceModel.balanceOf holder v.token.index (.plain l) =
      Act.embed BalanceModel.plain _ l from rfl)]
  apply BalanceModel.leaves_view.mono
  · intro _ l' h
    rcases h with ⟨_, rfl⟩
    exact ⟨trivial, hsame⟩
  · intro _ l' heq
    rcases heq with rfl
    exact hsame

/-!
# Changes of units
-/

theorem leaves_onBalances {α : Type} {m : Act ShareLedger α}
    {answered : α → StaticVault → Prop} {failed : Fault → StaticVault → Prop} :
    (onBalances m).Leaves v answered failed ↔
      m.Leaves v.books.balances
        (fun a l => answered a { v with books := { v.books with balances := l } })
        (fun e l => failed e { v with books := { v.books with balances := l } }) :=
  Act.leaves_within

theorem Sound.withBalances {l : ShareLedger} (hv : v.Sound) (hl : l.Sound) :
    Sound { v with books := { v.books with balances := l } } where
  plain := hv.plain
  shares := hv.shares
  index := hv.index
  units := hl
  address := hv.address

structure Issues (v : StaticVault) (units gained : Int) (v' : StaticVault) : Prop where
  sound : v'.Sound
  address : v'.books.address = v.books.address
  totalUnits : v'.totalUnits = v.totalUnits + units
  backing : v'.backing = v.backing + gained

theorem Quiet.issues {v'' : StaticVault} {units gained : Int} (h : Quiet v v')
    (h' : v'.Issues units gained v'') : v.Issues units gained v'' where
  sound := h'.sound
  address := h'.address.trans h.address
  totalUnits := by
    rw [h'.totalUnits, StaticVault.totalUnits, h.balances]
    rfl
  backing := by rw [h'.backing, h.backing_eq]

theorem Issues.withEvents {units gained : Int} {events : List TokenEvent}
    (h : v.Issues units gained v') :
    v.Issues units gained { v' with books := { v'.books with events := events } } where
  sound := ⟨h.sound.plain, h.sound.shares, h.sound.index, h.sound.units, h.sound.address⟩
  address := h.address
  totalUnits := h.totalUnits
  backing := h.backing

/-- The shares that a deposit brings: as many as units, or none if the vault pays itself. -/
def gain (v : StaticVault) (depositor : String) (fromUnderlying : Bool) (units : Int) : Int :=
  if v.PaysItself depositor fromUnderlying then 0 else units

theorem leaves_takeAndIssue {depositor recipient : String} {amount units : Int}
    {fromUnderlying : Bool} (hv : v.Sound) (hunits : rayDiv amount v.token.index = .ok units)
    (hzero : units ≠ 0) :
    (do
      takeTokens depositor amount fromUnderlying
      let _ ← onBalances (ShareLedger.applyDelta recipient units .mint) :
        Act StaticVault Unit).Leaves v
      (fun _ v' => v.Issues units (v.gain depositor fromUnderlying units) v')
      (fun _ v' => Quiet v v') := by
  have hnonneg := rayDiv_nonneg hunits
  rw [Act.leaves_bind]
  apply (leaves_takeTokens hv hunits).mono _ (fun _ _ h => h)
  intro _ v₁ hleft
  rcases hleft with ⟨hmoved, hbacking⟩
  have hheld := hmoved.sound.units.nonneg (Text.lower recipient)
  have hrun := @ShareLedger.run_applyDelta v₁.books.balances recipient units .mint hzero
    (decide_eq_true (by omega)) (by omega)
  rw [Act.leaves_bind, leaves_onBalances]
  apply Act.leaves_of_run
  · intro _ l hissued
    rw [hrun] at hissued
    cases hissued
    have hcredits : v₁.books.balances.Credits (Text.lower recipient) units
        (v₁.books.balances.withDelta (Text.lower recipient) units .mint) := ⟨by omega, rfl⟩
    have hsound := hcredits.sound (Text.lower_lower recipient) hmoved.sound.units
    refine ⟨hmoved.sound.withBalances hsound, ?_, ?_, hbacking⟩
    · change v₁.books.address = v.books.address
      rw [hmoved.books]
    · change v₁.totalUnits + units = _
      unfold StaticVault.totalUnits
      rw [hmoved.books]
  · intro _ l hissued
    rw [hrun] at hissued
    cases hissued

theorem Quiet.gain_eq {depositor : String} {fromUnderlying : Bool} {units : Int}
    (h : Quiet v v') :
    v'.gain (Text.lower depositor) fromUnderlying units = v.gain depositor fromUnderlying units := by
  have hself : v'.PaysItself (Text.lower depositor) fromUnderlying ↔
      v.PaysItself depositor fromUnderlying := by
    unfold PaysItself
    rw [h.address, Text.lower_lower]
  unfold gain
  by_cases hpays : v.PaysItself depositor fromUnderlying
  · rw [if_pos hpays, if_pos (hself.mpr hpays)]
  · rw [if_neg hpays, if_neg fun h => hpays (hself.mp h)]

/--
A deposit issues units for as many shares; those that the vault pays itself for
are issued for none.
-/
theorem leaves_deposit {depositor recipient : String} {amount : Int} {fromUnderlying : Bool}
    (hv : v.Sound) :
    (deposit depositor recipient amount fromUnderlying).Leaves v
      (fun units v' => 0 < units ∧ v.Issues units (v.gain depositor fromUnderlying units) v')
      (fun _ v' => Quiet v v') := by
  unfold deposit
  dsimp only
  apply leaves_bind_of_reading leaves_requireRecipient
  intro account haccount
  rcases haccount with rfl
  rw [Act.leaves_ite]
  refine ⟨fun _ => Quiet.refl v, fun _ => ?_⟩
  apply leaves_bind_of_reading (leaves_unitsFor hv.plain)
  intro units hunits
  rw [Act.leaves_ite]
  constructor
  · intro _
    exact leaves_bind_of_reading (leaves_rate hv.plain) fun _ _ => Quiet.refl v
  · intro hzero
    have hnonneg := rayDiv_nonneg hunits
    have hlegs : ∀ v₁, Quiet v v₁ → (do
        takeTokens (Text.lower depositor) amount fromUnderlying
        let _ ← onBalances (ShareLedger.applyDelta (Text.lower recipient) units .mint) :
          Act StaticVault Unit).Leaves v₁
        (fun _ v' => v.Issues units (v.gain depositor fromUnderlying units) v')
        (fun _ v' => Quiet v v') := by
      intro v₁ hquiet
      apply (leaves_takeAndIssue (hquiet.sound hv) (hquiet.index_eq ▸ hunits) hzero).mono
      · intro _ v' h
        rw [hquiet.gain_eq] at h
        exact hquiet.issues h
      · intro _ v' h
        exact hquiet.trans h
    rw [Act.leaves_bind]
    apply (leaves_applyChange hlegs).mono
    · intro _ v₁ h
      exact ⟨by omega, h.withEvents⟩
    · intro _ v₁ h
      exact h

structure Releases (v v' : StaticVault) : Prop where
  sound : v'.Sound
  address : v'.books.address = v.books.address
  unbacked : v'.unbacked ≤ v.unbacked

theorem Quiet.releases (h : Quiet v v') (hv : v.Sound) : Releases v v' where
  sound := h.sound hv
  address := h.address
  unbacked := h.unbacked_eq.le

theorem Quiet.releases_trans {v'' : StaticVault} (h : Quiet v v') (h' : Releases v' v'') :
    Releases v v'' where
  sound := h'.sound
  address := h'.address.trans h.address
  unbacked := h.unbacked_eq ▸ h'.unbacked

theorem Releases.withEvents {events : List TokenEvent} (h : Releases v v') :
    Releases v { v' with books := { v'.books with events := events } } where
  sound := ⟨h.sound.plain, h.sound.shares, h.sound.index, h.sound.units, h.sound.address⟩
  address := h.address
  unbacked := h.unbacked

theorem leaves_releaseAndCancel {owner recipient : String} {units value : Int}
    {toUnderlying : Bool} (hv : v.Sound) (hpos : 0 < units) (howned : units ≤ v.unitsOf owner)
    (hunits : ∀ value' asked, value' ≤ value → rayDiv value' v.token.index = .ok asked →
      asked ≤ units) :
    (do
      releaseTokens recipient value toUnderlying
      let _ ← onBalances (ShareLedger.applyDelta owner (-units) .burn) :
        Act StaticVault Unit).Leaves v
      (fun _ v' => Releases v v') (fun _ v' => Quiet v v') := by
  rw [Act.leaves_bind]
  apply (leaves_releaseTokens hv hunits).mono _ (fun _ _ h => h)
  intro _ v₁ hleft
  rcases hleft with ⟨hmoved, hbacking⟩
  have howned₁ : units ≤ v₁.books.balances.held (Text.lower owner) := by
    rw [hmoved.books]
    exact howned
  have hrun := @ShareLedger.run_applyDelta v₁.books.balances owner (-units) .burn (by omega)
    (decide_eq_false (by omega)) (by omega)
  rw [Act.leaves_bind, leaves_onBalances]
  apply Act.leaves_of_run
  · intro _ l hcancelled
    rw [hrun] at hcancelled
    cases hcancelled
    have hdebits : v₁.books.balances.Debits (Text.lower owner) units
        (v₁.books.balances.withDelta (Text.lower owner) (-units) .burn) := ⟨hpos, howned₁, rfl⟩
    have hsound := hdebits.sound (Text.lower_lower owner) hmoved.sound.units
    refine ⟨hmoved.sound.withBalances hsound, ?_, ?_⟩
    · change v₁.books.address = v.books.address
      rw [hmoved.books]
    · change v₁.totalUnits + -units - v₁.backing ≤ v.totalUnits - v.backing
      have htotal : v₁.totalUnits = v.totalUnits := by
        unfold StaticVault.totalUnits
        rw [hmoved.books]
      omega
  · intro _ l hcancelled
    rw [hrun] at hcancelled
    cases hcancelled

theorem leaves_release {owner recipient : String} {units value : Int} {toUnderlying : Bool}
    (hv : v.Sound) (hnonneg : 0 ≤ units)
    (hunits : ∀ value' asked, value' ≤ value → rayDiv value' v.token.index = .ok asked →
      asked ≤ units) :
    (release owner recipient units value toUnderlying).Leaves v
      (fun _ v' => Releases v v') (fun _ v' => Quiet v v') := by
  unfold release
  apply leaves_bind_of_reading leaves_requireRecipient
  intro account haccount
  rcases haccount with rfl
  rw [Act.leaves_ite]
  refine ⟨fun _ => Quiet.refl v, fun _ => ?_⟩
  rw [Act.leaves_bind, Act.leaves_current]
  dsimp only
  rw [Act.leaves_ite]
  refine ⟨fun _ => Quiet.refl v, fun howned => ?_⟩
  apply leaves_bind_of_reading (leaves_balanceOf hv.plain)
  intro held _
  rw [Act.leaves_ite]
  refine ⟨fun _ => Quiet.refl v, fun hsome => ?_⟩
  have hpos : 0 < units := by omega
  have hlegs : ∀ v₁, Quiet v v₁ → (do
      releaseTokens (Text.lower recipient) (min value held) toUnderlying
      let _ ← onBalances (ShareLedger.applyDelta owner (-units) .burn) :
        Act StaticVault Unit).Leaves v₁
      (fun _ v' => Releases v v') (fun _ v' => Quiet v v') := by
    intro v₁ hquiet
    have howned₁ : units ≤ v₁.unitsOf owner := by
      unfold unitsOf at howned ⊢
      rw [hquiet.balances]
      omega
    have hunits₁ : ∀ value' asked, value' ≤ min value held →
        rayDiv value' v₁.token.index = .ok asked → asked ≤ units := by
      intro value' asked hle hasked
      rw [hquiet.index_eq] at hasked
      exact hunits value' asked (by omega) hasked
    exact (leaves_releaseAndCancel (hquiet.sound hv) hpos howned₁ hunits₁).mono
      (fun _ _ h => hquiet.releases_trans h) (fun _ _ h => hquiet.trans h)
  rw [Act.leaves_bind]
  apply (leaves_applyChange hlegs).mono
  · intro _ v₁ h
    exact h.withEvents
  · intro _ v₁ h
    exact h

theorem leaves_withdraw {owner recipient : String} {units : Int} {toUnderlying : Bool}
    (hv : v.Sound) :
    (withdraw owner recipient units toUnderlying).Leaves v
      (fun _ v' => Releases v v') (fun _ v' => Quiet v v') := by
  unfold withdraw
  dsimp only
  rw [Act.leaves_bind, Act.leaves_current]
  apply leaves_bind_of_reading (leaves_valueOf hv.plain)
  intro value hvalue
  apply leaves_release hv (rayMul_ok hvalue).left
  intro value' asked hle hasked
  exact rayDiv_le_of_le_rayMul hv.index hvalue hle hasked

theorem leaves_withdrawValue {owner recipient : String} {value : Int} {toUnderlying : Bool}
    (hv : v.Sound) :
    (withdrawValue owner recipient value toUnderlying).Leaves v
      (fun _ v' => Releases v v') (fun _ v' => Quiet v v') := by
  unfold withdrawValue
  apply leaves_bind_of_reading (leaves_unitsFor hv.plain)
  intro units hunits
  apply leaves_release hv (rayDiv_nonneg hunits)
  intro value' asked hle hasked
  exact rayDiv_mono_left hasked hunits hle

theorem leaves_transfer {sender recipient : String} {units : Int} (hv : v.Sound) :
    (transfer sender recipient units).Leaves v
      (fun _ v' => Releases v v') (fun _ v' => Quiet v v') := by
  unfold transfer
  dsimp only
  apply leaves_bind_of_reading leaves_requireRecipient
  intro account haccount
  rcases haccount with rfl
  have hmove : ∀ v₁, Quiet v v₁ → (onBalances (ShareLedger.moveShares (Text.lower sender)
      (Text.lower recipient) units)).Leaves v₁
      (fun _ v' => Releases v v') (fun _ v' => Quiet v v') := by
    intro v₁ hquiet
    have hv₁ := hquiet.sound hv
    rw [leaves_onBalances]
    apply (ShareLedger.leaves_moveShares hv₁.units.nonneg).mono
    · intro _ l hmoves
      apply hquiet.releases_trans
      have hsound := hmoves.sound (Text.lower_lower _) (Text.lower_lower _) hv₁.units
      refine ⟨hv₁.withBalances hsound, rfl, ?_⟩
      change l.totalShares - v₁.backing ≤ v₁.totalUnits - v₁.backing
      rw [hmoves.totalShares_eq]
      exact Int.le_refl _
    · intro _ l hsame
      rw [hsame]
      exact hquiet
  rw [Act.leaves_bind]
  apply (leaves_applyChange hmove).mono
  · intro _ v₁ h
    exact h.withEvents
  · intro _ v₁ h
    exact h

end StaticVault
end ReserveAccounting
