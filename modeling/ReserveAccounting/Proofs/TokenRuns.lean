import ReserveAccounting.Proofs.RewardSpecs

/-!
# Runs of a token

A run makes calls of a token one after another, with any arguments and whatever
comes of them. Between the calls the index may be raised and the asset behind
the books may move.
-/

namespace ReserveAccounting

def DepositToken.atOne (model : BalanceModel) (rewards : Option RewardProgram) : DepositToken where
  name := .text "Deposit of ETH"
  symbol := .text "dETH"
  underlying := .text "ETH"
  pool := "pool"
  treasury := defaultTreasury
  reserve := .fresh "ETH" ReserveIndex.defaultMaxHistory
  model := model
  decimals := .int 18
  events := []
  rewards := rewards

def RewardProgram.empty (factor : Int) : RewardProgram where
  tracker := .empty RewardTracker.defaultCapacity
  reserveFactor := factor
  strayFactor := none

inductive TokenCall where
  | mint (caller holder : String) (amount index : Int)
  | burn (caller holder receiver : String) (amount index : Int)
  | mintToTreasury (caller : String) (amount index : Int)
  | transfer (sender recipient : String) (amount : Int)
  | transferOnLiquidation (caller sender recipient : String) (amount : Int)
  | injectFlashLoanPremium (caller : String) (premium : Int)
  | raiseIndex (index : Int) (reason : String)
  /-- The asset behind the books comes to another state, with another rate. -/
  | moveAsset (asset : ReserveAsset)
  | registerRewardToken (token : String)
  | distributeRewards (token : String) (amount : Int)
  | claim (holder token : String)
  | setReserveFactor (caller : String) (factor : Int)

namespace TokenCall

variable {s s' : DepositToken}

def perform : TokenCall → Act DepositToken Unit
  | mint caller holder amount index => Act.ending (DepositToken.mint caller holder amount index)
  | burn caller holder receiver amount index =>
      Act.ending (DepositToken.burn caller holder receiver amount index)
  | mintToTreasury caller amount index =>
      Act.ending (DepositToken.mintToTreasury caller amount index)
  | transfer sender recipient amount => Act.ending (DepositToken.transfer sender recipient amount)
  | transferOnLiquidation caller sender recipient amount =>
      Act.ending (DepositToken.transferOnLiquidation caller sender recipient amount)
  | injectFlashLoanPremium caller premium =>
      Act.ending (DepositToken.injectFlashLoanPremium caller premium)
  | raiseIndex index reason => Act.ending (DepositToken.onReserve (ReserveIndex.raise index reason))
  | moveAsset asset => Act.update fun t => { t with model := t.model.withAsset asset }
  | registerRewardToken token => Act.ending (DepositToken.registerRewardToken token)
  | distributeRewards token amount => Act.ending (DepositToken.distributeRewards token amount)
  | claim holder token => Act.ending (DepositToken.claim holder token)
  | setReserveFactor caller factor => DepositToken.setReserveFactor caller factor

def after (c : TokenCall) (s : DepositToken) : DepositToken := (Act.run c.perform s).2

def afterAll : List TokenCall → DepositToken → DepositToken
  | [], s => s
  | c :: rest, s => afterAll rest (c.after s)

theorem afterAll_induction {p : DepositToken → Prop} (hstep : ∀ c s, p s → p (after c s))
    {start : DepositToken} (hstart : p start) (calls : List TokenCall) :
    p (afterAll calls start) := by
  induction calls generalizing start with
  | nil => exact hstart
  | cons c rest ih => exact ih (hstep c start hstart)

/-!
# What every call changes
-/

def Booked (c : TokenCall) (s : DepositToken) (l : ShareLedger) : Prop :=
  match c with
  | mint _ holder _ _ => ∃ n, s.model.ledger.Credits (Text.lower holder) n l
  | burn _ holder _ _ _ => ∃ n, s.model.ledger.Debits (Text.lower holder) n l
  | mintToTreasury _ amount _ =>
      if amount = 0 then l = s.model.ledger
      else ∃ n, s.model.ledger.Credits (Text.lower s.treasury) n l
  | transfer sender recipient _ =>
      ∃ n, s.model.ledger.Moves (Text.lower sender) (Text.lower recipient) n l
  | transferOnLiquidation _ sender recipient _ =>
      ∃ n, s.model.ledger.Moves (Text.lower sender) (Text.lower recipient) n l
  | _ => l = s.model.ledger

/-- The accounts whose checkpoints a change of the books gets to. -/
def pass (c : TokenCall) (s : DepositToken) : List String :=
  match c with
  | mint caller holder _ index => s.poolPass caller holder index
  | burn caller holder _ _ index => s.poolPass caller holder index
  | mintToTreasury caller amount index =>
      if amount = 0 then [] else s.poolPass caller s.treasury index
  | transfer sender recipient _ => s.movePass sender recipient
  | transferOnLiquidation caller sender recipient _ => s.seizurePass caller sender recipient
  | _ => []

def isOfRewards : TokenCall → Bool
  | registerRewardToken _ => true
  | distributeRewards _ _ => true
  | claim _ _ => true
  | setReserveFactor _ _ => true
  | _ => false

def Settles (c : TokenCall) (s s' : DepositToken) : Prop :=
  s.Changes
    (fun l => c.Booked s l ∧ ∀ x ∉ c.pass s, l.held x = s.model.ledger.held x)
    (fun r => s.index ≤ r.liquidityIndex)
    (fun rewards => c.isOfRewards = false → s.Passes (c.pass s) rewards) s'

def Fails (c : TokenCall) (s s' : DepositToken) : Prop :=
  s.Keeps (fun rewards => c.isOfRewards = false → s.Abandons (c.pass s) rewards) s'

theorem passes_nil (s : DepositToken) : s.Passes [] s.rewards := by
  constructor
  · unfold DepositToken.passed
    cases s.rewards <;> rfl
  · intro program _
    exact ⟨[], program.tracker, rfl⟩

theorem Settles.of_books {c : TokenCall} {accounts : List String} {booked : ShareLedger → Prop}
    (h : s.Books accounts booked s') (hpass : c.pass s = accounts)
    (hbooked : ∀ l, booked l → c.Booked s l)
    (hothers : ∀ l, booked l → ∀ x ∉ accounts, l.held x = s.model.ledger.held x) :
    c.Settles s s' := by
  apply h.mono
  · intro l hl
    rw [hpass]
    exact ⟨hbooked l hl, hothers l hl⟩
  · intro _ hraised
    exact hraised
  · intro _ hrewards _
    rw [hpass]
    exact hrewards

theorem Settles.of_same {c : TokenCall} {rewarded : Option RewardProgram → Prop}
    (h : s.Changes (· = s.model.ledger) (fun r => s.index ≤ r.liquidityIndex) rewarded s')
    (hbooked : c.Booked s s.model.ledger) (hpass : c.pass s = [])
    (hrewarded : ∀ p, rewarded p → c.isOfRewards = false → p = s.rewards) : c.Settles s s' := by
  apply h.mono
  · intro l hsame
    rcases hsame with rfl
    exact ⟨hbooked, fun _ _ => rfl⟩
  · intro _ hraised
    exact hraised
  · intro p hp hkind
    rw [hpass, hrewarded p hp hkind]
    exact passes_nil s

theorem Fails.of_keeps {c : TokenCall} {rewarded : Option RewardProgram → Prop}
    (h : s.Keeps rewarded s')
    (hrewarded : ∀ p, rewarded p → c.isOfRewards = false → s.Abandons (c.pass s) p) :
    c.Fails s s' :=
  h.mono (fun _ h => h) (fun _ h => h) hrewarded

theorem held_of_not_mem_singleton {l l' : ShareLedger} {name : String} {n : Int}
    (h : ∀ x, l'.held x = if x = name then l.held name + n else l.held x) :
    ∀ x ∉ [name], l'.held x = l.held x := by
  intro x hx
  rw [h, if_neg fun heq => hx (List.mem_singleton.mpr heq)]

theorem held_of_not_mem_pair {l l' : ShareLedger} {source target : String} {n : Int}
    (h : l.Moves source target n l') : ∀ x ∉ [source, target], l'.held x = l.held x := by
  intro x hx
  rw [List.mem_cons, List.mem_singleton, not_or] at hx
  exact h.held_of_ne hx.left hx.right

theorem leaves_perform (c : TokenCall) (hs : ∀ name, 0 ≤ s.model.ledger.held name) :
    c.perform.Leaves s (fun _ s' => c.Settles s s') (fun _ s' => c.Fails s s') := by
  cases c with
  | mint caller holder amount index =>
      rw [perform, Act.leaves_ending]
      apply DepositToken.leaves_mint.mono
      · intro _ s' hleft
        rcases hleft with ⟨hbooks, hpass⟩
        refine Settles.of_books hbooks hpass (fun _ ⟨n, h, _⟩ => ⟨n, h⟩) ?_
        intro l hleft
        rcases hleft with ⟨n, h, _⟩
        exact held_of_not_mem_singleton h.held_eq
      · intro _ s' h
        exact Fails.of_keeps h fun _ h _ => h
  | burn caller holder receiver amount index =>
      rw [perform, Act.leaves_ending]
      apply DepositToken.leaves_burn.mono
      · intro _ s' hleft
        rcases hleft with ⟨hbooks, hpass⟩
        refine Settles.of_books hbooks hpass (fun _ ⟨n, h, _⟩ => ⟨n, h⟩) ?_
        intro l hleft
        rcases hleft with ⟨n, h, _⟩
        exact held_of_not_mem_singleton h.held_eq
      · intro _ s' h
        exact Fails.of_keeps h fun _ h _ => h
  | mintToTreasury caller amount index =>
      rw [perform, Act.leaves_ending]
      apply DepositToken.leaves_mintToTreasury.mono
      · intro _ s' hleft
        rcases hleft with ⟨hzero, rfl⟩ | ⟨hzero, hbooks, hpass⟩
        · have hsame : s'.Keeps (· = s'.rewards) s' := DepositToken.Changes.refl rfl rfl rfl
          refine Settles.of_same hsame.raises ?_ (if_pos hzero) (fun _ h _ => h)
          unfold Booked
          dsimp only
          rw [if_pos hzero]
        · refine Settles.of_books hbooks ((if_neg hzero).trans hpass) ?_ ?_
          · intro l h
            unfold Booked
            dsimp only
            rw [if_neg hzero]
            rcases h with ⟨n, h, _⟩
            exact ⟨n, h⟩
          · intro l hleft
            rcases hleft with ⟨n, h, _⟩
            exact held_of_not_mem_singleton h.held_eq
      · intro _ s' hleft
        rcases hleft with ⟨_, rfl⟩ | ⟨hzero, h⟩
        · exact DepositToken.Changes.refl rfl rfl fun _ => Or.inl rfl
        · refine Fails.of_keeps h fun _ h _ => ?_
          unfold pass
          dsimp only
          rw [if_neg hzero]
          exact h
  | transfer sender recipient amount =>
      rw [perform, Act.leaves_ending]
      apply (DepositToken.leaves_transfer hs).mono
      · intro _ s' hleft
        rcases hleft with ⟨hbooks, hpass⟩
        refine Settles.of_books hbooks hpass (fun _ ⟨n, h, _⟩ => ⟨n, h⟩) ?_
        intro l hleft
        rcases hleft with ⟨n, h, _⟩
        exact held_of_not_mem_pair h
      · intro _ s' h
        exact Fails.of_keeps h fun _ h _ => h
  | transferOnLiquidation caller sender recipient amount =>
      rw [perform, Act.leaves_ending]
      apply (DepositToken.leaves_transferOnLiquidation hs).mono
      · intro _ s' hleft
        rcases hleft with ⟨hbooks, hpass⟩
        refine Settles.of_books hbooks hpass (fun _ ⟨n, h, _⟩ => ⟨n, h⟩) ?_
        intro l hleft
        rcases hleft with ⟨n, h, _⟩
        exact held_of_not_mem_pair h
      · intro _ s' h
        exact Fails.of_keeps h fun _ h _ => h
  | injectFlashLoanPremium caller premium =>
      rw [perform, Act.leaves_ending]
      exact DepositToken.leaves_injectFlashLoanPremium.mono
        (fun _ _ h => Settles.of_same h rfl rfl fun _ h _ => h)
        (fun _ _ h => Fails.of_keeps h fun _ h _ => Or.inl h)
  | raiseIndex index reason =>
      rw [perform, Act.leaves_ending]
      exact DepositToken.leaves_raiseIndex.mono
        (fun _ _ h => Settles.of_same h rfl rfl fun _ h _ => h)
        (fun _ _ h => Fails.of_keeps h fun _ h _ => Or.inl h)
  | moveAsset asset =>
      rw [perform, Act.leaves_update]
      exact Settles.of_same (DepositToken.changes_withAsset s asset).raises rfl rfl
        fun _ h _ => h
  | registerRewardToken token =>
      rw [perform, Act.leaves_ending]
      exact DepositToken.keeps_onRewards.mono
        (fun _ _ h => Settles.of_same h.raises rfl rfl fun _ _ h => nomatch h)
        (fun _ _ h => Fails.of_keeps h fun _ _ h => nomatch h)
  | distributeRewards token amount =>
      rw [perform, Act.leaves_ending, DepositToken.distributeRewards, Act.leaves_bind,
        Act.leaves_current]
      exact DepositToken.keeps_onRewards.mono
        (fun _ _ h => Settles.of_same h.raises rfl rfl fun _ _ h => nomatch h)
        (fun _ _ h => Fails.of_keeps h fun _ _ h => nomatch h)
  | claim holder token =>
      rw [perform, Act.leaves_ending]
      exact DepositToken.keeps_claim.mono
        (fun _ _ h => Settles.of_same h.raises rfl rfl fun _ _ h => nomatch h)
        (fun _ _ h => Fails.of_keeps h fun _ _ h => nomatch h)
  | setReserveFactor caller factor =>
      rw [perform]
      apply DepositToken.leaves_setReserveFactor.mono
      · intro _ s' hleft
        rcases hleft with ⟨_, _, _, h⟩
        exact Settles.of_same h.raises rfl rfl fun _ _ h => nomatch h
      · intro _ s' heq
        rcases heq with rfl
        exact DepositToken.Changes.refl rfl rfl fun h => nomatch h

/-!
# Sound shares
-/

theorem Booked.sound {c : TokenCall} {l : ShareLedger} (h : c.Booked s l)
    (hs : s.model.ledger.Sound) : l.Sound := by
  cases c with
  | mint caller holder amount index =>
      rcases h with ⟨n, h⟩
      exact h.sound (Text.lower_lower holder) hs
  | burn caller holder receiver amount index =>
      rcases h with ⟨n, h⟩
      exact h.sound (Text.lower_lower holder) hs
  | mintToTreasury caller amount index =>
      unfold Booked at h
      dsimp only at h
      split at h
      · rw [h]
        exact hs
      · rcases h with ⟨n, h⟩
        exact h.sound (Text.lower_lower s.treasury) hs
  | transfer sender recipient amount =>
      rcases h with ⟨n, h⟩
      exact h.sound (Text.lower_lower sender) (Text.lower_lower recipient) hs
  | transferOnLiquidation caller sender recipient amount =>
      rcases h with ⟨n, h⟩
      exact h.sound (Text.lower_lower sender) (Text.lower_lower recipient) hs
  | _ =>
      have hsame : l = s.model.ledger := h
      rw [hsame]
      exact hs

theorem sound_after (c : TokenCall) (hs : s.model.ledger.Sound) :
    (c.after s).model.ledger.Sound := by
  apply @Act.Leaves.state _ _ c.perform s fun s' => s'.model.ledger.Sound
  apply (leaves_perform c hs.nonneg).mono
  · intro _ s' h
    exact h.ledger.left.sound hs
  · intro _ s' h
    rw [h.ledger]
    exact hs

theorem index_le_after (c : TokenCall) (hs : s.model.ledger.Sound) :
    s.index ≤ (c.after s).index := by
  apply @Act.Leaves.state _ _ c.perform s fun s' => s.index ≤ s'.index
  apply (leaves_perform c hs.nonneg).mono
  · intro _ s' h
    exact h.reserve
  · intro _ s' h
    unfold DepositToken.index
    rw [h.reserve]

end TokenCall

/-!
# What every call keeps
-/

namespace DepositToken

variable {q : DepositToken → Prop} {α : Type}

theorem stable_of_call (hq : ∀ (c : TokenCall) s, q s → q (c.after s)) {m : Act DepositToken α}
    (c : TokenCall) (hc : c.perform = Act.ending m) : Act.Stable q m := by
  constructor
  intro s hs
  have hafter := hq c s hs
  unfold TokenCall.after at hafter
  rw [hc, Act.run_ending] at hafter
  exact hafter

theorem stable_of_reading (hq : ∀ s s', q s → s.Keeps (· = s.rewards) s' → q s')
    {m : Act DepositToken α} (h : ∀ s, m.Leaves s (fun _ s' => s.Keeps (· = s.rewards) s')
      (fun _ s' => s.Keeps (· = s.rewards) s')) : Act.Stable q m :=
  Act.Stable.of_leaves fun s hs =>
    (h s).mono (fun _ s' h => hq s s' hs h) (fun _ s' h => hq s s' hs h)

end DepositToken
end ReserveAccounting
