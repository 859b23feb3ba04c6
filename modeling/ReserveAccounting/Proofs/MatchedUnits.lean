import ReserveAccounting.Proofs.BookedShares
import ReserveAccounting.Proofs.FullWithdrawals
import ReserveAccounting.Proofs.RestoredVaults
import ReserveAccounting.Proofs.SparedHolders
import ReserveAccounting.Proofs.VaultPlans

/-!
# Units that move with shares

On a plain reserve, what a vault does to its units it does to its shares in the
deposit token. Each leg rounds on its own, and a withdrawal is cut down to what
the vault holds; as long as there are no more units than shares, all of these
give one number. The exception is a vault that trades with itself.
-/

namespace ReserveAccounting

open FixedPoint

namespace BalanceModel

variable {m : BalanceModel} {held index amount n : Int}

theorem rate?_of_plain (hplain : m.isRebasing = false) : m.rate? = none := by
  cases m with
  | plain l => rfl
  | rebasing w => cases hplain

theorem Buys.of_plain (h : m.Buys index amount n) (hplain : m.isRebasing = false) :
    rayDiv amount index = .ok n := by
  unfold Buys Converts at h
  rw [rate?_of_plain hplain] at h
  exact h

theorem Hands.of_plain (h : m.Hands held index amount n) (hplain : m.isRebasing = false) :
    ∃ value asked, rayMul held index = .ok value ∧ amount ≤ value ∧
      rayDiv amount index = .ok asked ∧ n = min asked held := by
  rcases h with ⟨value, asked, hvalue, hle, hasked, hn⟩
  rcases presentedValue_eq_ok hvalue with ⟨scaled, hscaled, hvalue⟩
  unfold scaledValue at hscaled
  unfold Converts at hasked
  rw [rate?_of_plain hplain] at hscaled hasked
  cases hscaled
  exact ⟨value, asked, hvalue, hle, hasked, hn⟩

end BalanceModel

namespace FixedPoint

variable {backing units held wanted asked i : Int}

/--
A withdrawal is cut down to what is held. What is left of it asks for the units
themselves: uncut it is their value, or they are its quotient; cut it is the
value of all shares, of which the units are then no fewer.
-/
theorem min_asked_eq_units (hi : ray ≤ i) (hheld : rayMul backing i = .ok held)
    (hunits : units ≤ backing)
    (hwanted : rayMul units i = .ok wanted ∨ rayDiv wanted i = .ok units)
    (hasked : rayDiv (min wanted held) i = .ok asked) : min asked backing = units := by
  rcases hwanted with hvalue | hquotient
  · have hle : wanted ≤ held := rayMul_mono hvalue hheld hunits (Int.le_refl i)
    rw [min_eq_left hle] at hasked
    rw [rayDiv_of_rayMul hi hvalue hasked, min_eq_left hunits]
  · by_cases hcut : wanted ≤ held
    · rw [min_eq_left hcut, hquotient] at hasked
      cases hasked
      exact min_eq_left hunits
    · have hcut' : held ≤ wanted := (not_le.mp hcut).le
      rw [min_eq_right hcut'] at hasked
      have hall : asked = backing := rayDiv_of_rayMul hi hheld hasked
      have hfewer : asked ≤ units := rayDiv_mono_left hasked hquotient hcut'
      rw [hall, min_self]
      omega

end FixedPoint

namespace StaticVault

variable {v v' : StaticVault} {depositor recipient : String} {amount units value : Int}
  {fromUnderlying toUnderlying : Bool}

/-!
# Changes that answer
-/

theorem bystander_sameModel (model : BalanceModel) : Bystander fun v => v.token.model = model where
  claim v _ token := by
    have hclaim : Act.Stable (fun s : DepositToken => s.model = model)
        (DepositToken.claim v.books.address token) :=
      DepositToken.stable_claim_of_rewards
        (fun _ => DepositToken.stable_onRewards_of fun _ _ h => h) fun _ _ h => h
    exact Act.Stable.within (fun _ h => h) (fun _ _ _ h => h) hclaim
  rewards _ _ h := h
  collected _ _ _ h := h

theorem answers_applyChange {accounts : List String} {change : Act StaticVault Unit}
    (answered : StaticVault → Prop)
    (hchange : ∀ v', Quiet v v' → v'.token.model = v.token.model →
      change.Leaves v' (fun _ v'' => answered v'') (fun _ _ => True)) :
    (applyChange accounts change).Leaves v (fun _ v' => answered v') (fun _ _ => True) := by
  have hbeside := (bystander_quiet v).and (bystander_sameModel v.token.model)
  unfold applyChange
  rw [Act.leaves_bind]
  apply ((hbeside.collect none).leaves ⟨Quiet.refl v, rfl⟩).mono _ fun _ _ _ => trivial
  intro _ v₁ h₁
  rw [Act.leaves_bind, Act.leaves_current, Act.leaves_bind]
  apply ((hbeside.onRewards _).leaves h₁).mono _ fun _ _ _ => trivial
  intro saved v₂ h₂
  rw [Act.leaves_onRefusal]
  apply (hchange v₂ h₂.left h₂.right).mono fun _ _ h => h
  intro e _ _
  cases e <;> trivial

/-!
# The token leg of a deposit
-/

def Brings (v : StaticVault) (depositor : String) (amount : Int) (fromUnderlying : Bool) (n : Int) :
    Prop :=
  if fromUnderlying then v.token.model.Buys v.token.index amount n
  else v.token.model.Hands (v.token.model.ledger.held (Text.lower depositor)) v.token.index amount n

theorem answers_takeTokens (haddress : Text.lower v.books.address = v.books.address)
    (hother : Text.lower depositor ≠ v.books.address) :
    (takeTokens depositor amount fromUnderlying).Leaves v
      (fun _ v' => v'.books = v.books ∧ v'.token.isRebasing = v.token.isRebasing ∧
        ∃ n, v.Brings depositor amount fromUnderlying n ∧ v'.backing = v.backing + n)
      (fun _ _ => True) := by
  unfold takeTokens
  rw [Act.leaves_bind, Act.leaves_current]
  cases fromUnderlying with
  | true =>
      rw [if_pos rfl, Act.leaves_bind, leaves_onToken]
      apply DepositToken.answers_mint.mono _ fun _ _ _ => trivial
      intro _ s h
      rcases h with ⟨⟨n, hbuys, hcredits⟩, hkind⟩
      refine ⟨rfl, hkind, n, hbuys, ?_⟩
      change s.model.ledger.held v.books.address = _
      rw [haddress] at hcredits
      rw [hcredits.held_eq, if_pos rfl]
      rfl
  | false =>
      rw [if_neg Bool.false_ne_true, Act.leaves_bind, leaves_onToken]
      apply DepositToken.answers_transfer.mono _ fun _ _ _ => trivial
      intro _ s h
      rcases h with ⟨⟨n, hhands, hmoves⟩, hkind⟩
      refine ⟨rfl, hkind, n, hhands, ?_⟩
      change s.model.ledger.held v.books.address = v.token.model.ledger.held v.books.address + n
      rw [haddress] at hmoves
      rw [hmoves.held_eq, if_neg hother.symm, if_pos rfl]
      omega

structure Takes (v : StaticVault) (depositor : String) (amount : Int) (fromUnderlying : Bool)
    (units n : Int) (v' : StaticVault) : Prop where
  brings : v.Brings depositor amount fromUnderlying n
  totalUnits : v'.totalUnits = v.totalUnits + units
  backing : v'.backing = v.backing + n
  address : v'.books.address = v.books.address
  kind : v'.token.isRebasing = v.token.isRebasing

theorem answers_takeAndIssue (haddress : Text.lower v.books.address = v.books.address)
    (hother : Text.lower depositor ≠ v.books.address) :
    (do
      takeTokens depositor amount fromUnderlying
      let _ ← onBalances (ShareLedger.applyDelta recipient units .mint)
      return () : Act StaticVault Unit).Leaves v
      (fun _ v' => ∃ n, v.Takes depositor amount fromUnderlying units n v') (fun _ _ => True) := by
  rw [Act.leaves_bind]
  apply (answers_takeTokens haddress hother).mono _ fun _ _ _ => trivial
  intro _ v₁ h
  rcases h with ⟨hbooks, hkind, n, hbrings, hbacking⟩
  rw [Act.leaves_bind, leaves_onBalances]
  apply ShareLedger.leaves_applyDelta.mono _ fun _ _ _ => trivial
  intro _ l h
  rcases h with ⟨_, _, _, rfl⟩
  have hplace : v₁.books.address = v.books.address := congrArg VaultBooks.address hbooks
  refine ⟨n, hbrings, ?_, hbacking, hplace, hkind⟩
  change v₁.books.balances.totalShares + units = v.books.balances.totalShares + units
  rw [hbooks]

/-!
# Vaults over plain books
-/

/-- A vault over plain books from index one on; of the entries in them nothing is asked. -/
structure OverPlain (v : StaticVault) : Prop where
  plain : v.token.isRebasing = false
  index : ray ≤ v.token.index
  address : Text.lower v.books.address = v.books.address

/-- Afterwards there are as many shares to as many units, and the vault is where it was. -/
structure Matches (v v' : StaticVault) : Prop where
  plain : v'.token.isRebasing = false
  address : v'.books.address = v.books.address
  unbacked : v'.unbacked = v.unbacked

theorem Matches.withEvents {events : List TokenEvent} (h : Matches v v') :
    Matches v { v' with books := { v'.books with events := events } } :=
  ⟨h.plain, h.address, h.unbacked⟩

theorem Quiet.overPlain (h : Quiet v v') (hv : v.OverPlain) : v'.OverPlain where
  plain := h.token.alike.left.trans hv.plain
  index := by
    rw [h.index_eq]
    exact hv.index
  address := by
    rw [h.address]
    exact hv.address

theorem Quiet.matches_trans {v'' : StaticVault} (h : Quiet v v') (h' : Matches v' v'') :
    Matches v v'' where
  plain := h'.plain
  address := h'.address.trans h.address
  unbacked := h'.unbacked.trans h.unbacked_eq

theorem Brings.eq_units {n : Int} (h : v.Brings depositor amount fromUnderlying n)
    (hv : v.OverPlain) (hunits : rayDiv amount v.token.index = .ok units) : n = units := by
  unfold Brings at h
  split at h
  · cases hunits.symm.trans (h.of_plain hv.plain)
    rfl
  · rcases h.of_plain hv.plain with ⟨worth, asked, hworth, hle, hasked, rfl⟩
    cases hunits.symm.trans hasked
    exact min_eq_left (rayDiv_le_of_le_rayMul hv.index hworth hle hunits)

theorem Takes.matches {n : Int} (h : v.Takes depositor amount fromUnderlying units n v')
    (hv : v.OverPlain) (hunits : rayDiv amount v.token.index = .ok units) : Matches v v' where
  plain := h.kind.trans hv.plain
  address := h.address
  unbacked := by
    have hn := h.brings.eq_units hv hunits
    unfold unbacked
    rw [h.totalUnits, h.backing, hn]
    omega

theorem answers_releaseTokens {wanted held : Int} (hv : v.OverPlain)
    (hother : Text.lower recipient ≠ v.books.address) (hunits : units ≤ v.backing)
    (hheld : rayMul v.backing v.token.index = .ok held)
    (hwanted : rayMul units v.token.index = .ok wanted ∨ rayDiv wanted v.token.index = .ok units) :
    (releaseTokens recipient (min wanted held) toUnderlying).Leaves v
      (fun _ v' => v'.books = v.books ∧ v'.token.isRebasing = false ∧
        v'.backing = v.backing - units)
      (fun _ _ => True) := by
  have hplain : v.token.isRebasing = false := hv.plain
  unfold releaseTokens
  rw [Act.leaves_bind, Act.leaves_current]
  cases toUnderlying with
  | true =>
      rw [if_pos rfl, Act.leaves_bind, leaves_onToken]
      apply DepositToken.leaves_burn.mono _ fun _ _ _ => trivial
      intro _ s h
      rcases h.left.ledger with ⟨n, hdebits, hburn⟩
      rw [hv.address] at hdebits hburn
      rcases hburn hplain with ⟨held', asked, hheld', _, hasked, hn⟩
      cases hheld.symm.trans hheld'
      -- a balance burned in place of the sentinel fits a word, and so is the sentinel itself
      have hburned : (if min wanted held = everything then held else min wanted held) =
          min wanted held := by
        split
        · next heverything =>
            rw [if_pos heverything] at hasked
            have hfits : held ≤ everything := (divHalfUp_eq_ok.mp hasked).left.right
            omega
        · rfl
      rw [hburned] at hasked
      have hcancelled : n = units :=
        hn.trans (min_asked_eq_units hv.index hheld hunits hwanted hasked)
      refine ⟨rfl, h.left.alike.left.trans hplain, ?_⟩
      change s.model.ledger.held v.books.address = _
      rw [hdebits.held_eq, if_pos rfl, hcancelled]
      rfl
  | false =>
      rw [if_neg Bool.false_ne_true, Act.leaves_bind, leaves_onToken]
      apply DepositToken.answers_transfer.mono _ fun _ _ _ => trivial
      intro _ s h
      rcases h with ⟨⟨n, hhands, hmoves⟩, hkind⟩
      rw [hv.address] at hhands hmoves
      rcases hhands.of_plain hplain with ⟨held', asked, _, _, hasked, hn⟩
      have hmoved : n = units :=
        hn.trans (min_asked_eq_units hv.index hheld hunits hwanted hasked)
      refine ⟨rfl, hkind.trans hplain, ?_⟩
      change s.model.ledger.held v.books.address = v.token.model.ledger.held v.books.address - units
      rw [hmoves.held_eq, if_pos rfl, if_neg hother.symm, hmoved]
      omega

/-!
# Plans at their price
-/

/-- A plan whose figures fit together at the index of the vault. -/
def Plan.Priced (v : StaticVault) : Plan → Prop
  | .take _ _ amount units _ => rayDiv amount v.token.index = .ok units
  | .release owner _ units value _ => units ≤ v.unitsOf (Text.lower owner) ∧
      ∃ wanted held, rayMul v.backing v.token.index = .ok held ∧ value = min wanted held ∧
        (rayMul units v.token.index = .ok wanted ∨ rayDiv wanted v.token.index = .ok units)
  | .move _ _ _ => False

def Plan.WithOthers (address : String) : Plan → Prop
  | .take depositor _ _ _ _ => Text.lower depositor ≠ address
  | .release _ recipient _ _ _ => Text.lower recipient ≠ address
  | .move _ _ _ => False

variable {p : Plan}

theorem Quiet.priced (h : Quiet v v') (hp : p.Priced v) : p.Priced v' := by
  cases p with
  | take depositor recipient amount units fromUnderlying =>
      unfold Plan.Priced at hp ⊢
      rw [h.index_eq]
      exact hp
  | release owner recipient units value toUnderlying =>
      unfold Plan.Priced at hp ⊢
      unfold unitsOf at hp ⊢
      rw [h.index_eq, h.backing_eq, h.balances]
      exact hp
  | move sender recipient units => exact hp

theorem answers_legs (hv : v.OverPlain) (hunits : v.books.balances.Sound)
    (hbacked : v.totalUnits ≤ v.backing) (hp : p.Priced v)
    (hothers : p.WithOthers v.books.address) :
    p.legs.Leaves v (fun _ v' => Matches v v') (fun _ _ => True) := by
  cases p with
  | take depositor recipient amount units fromUnderlying =>
      have hother : Text.lower (Text.lower depositor) ≠ v.books.address := by
        rw [Text.lower_lower]
        exact hothers
      apply (answers_takeAndIssue hv.address hother).mono _ fun _ _ _ => trivial
      intro _ v' h
      rcases h with ⟨n, h⟩
      exact h.matches hv hp
  | release owner recipient units value toUnderlying =>
      rcases hp with ⟨howned, wanted, held, hheld, rfl, hwanted⟩
      have hother : Text.lower (Text.lower recipient) ≠ v.books.address := by
        rw [Text.lower_lower]
        exact hothers
      have howner := hunits.held_le_totalShares (Text.lower (Text.lower owner))
      have hstands : units ≤ v.backing := (howned.trans howner).trans hbacked
      unfold Plan.legs
      rw [Act.leaves_bind]
      apply (answers_releaseTokens hv hother hstands hheld hwanted).mono _ fun _ _ _ => trivial
      intro _ v₁ h
      rcases h with ⟨hbooks, hplain, hbacking⟩
      rw [Act.leaves_bind, leaves_onBalances]
      apply ShareLedger.leaves_applyDelta.mono _ fun _ _ _ => trivial
      intro _ l h
      rcases h with ⟨_, _, _, rfl⟩
      have hplace : v₁.books.address = v.books.address := congrArg VaultBooks.address hbooks
      refine ⟨hplain, hplace, ?_⟩
      change v₁.books.balances.totalShares + -units - v₁.backing = v.unbacked
      rw [hbooks, hbacking]
      unfold unbacked totalUnits
      omega
  | move sender recipient units => exact hp.elim

theorem answers_carryOut (hv : v.OverPlain) (hunits : v.books.balances.Sound)
    (hbacked : v.totalUnits ≤ v.backing) (hp : p.Priced v)
    (hothers : p.WithOthers v.books.address) :
    p.carryOut.Leaves v (fun _ v' => Matches v v') (fun _ _ => True) := by
  have hlegs : ∀ v₁, Quiet v v₁ → v₁.token.model = v.token.model →
      p.legs.Leaves v₁ (fun _ v' => Matches v v') (fun _ _ => True) := by
    intro v₁ hquiet _
    have hbacked₁ : v₁.totalUnits ≤ v₁.backing := by
      rw [totalUnits, hquiet.balances, hquiet.backing_eq]
      exact hbacked
    apply (answers_legs (hquiet.overPlain hv) (hquiet.balances ▸ hunits) hbacked₁
      (hquiet.priced hp) (hquiet.address ▸ hothers)).mono _ fun _ _ _ => trivial
    intro _ v' h
    exact hquiet.matches_trans h
  unfold Plan.carryOut
  rw [Act.leaves_bind]
  apply (answers_applyChange _ hlegs).mono _ fun _ _ _ => trivial
  intro _ v₁ h
  cases p <;> exact h.withEvents

/-!
# What a call settles on
-/

theorem leaves_balance (hv : v.OverPlain) :
    (onToken (DepositToken.balanceOf v.books.address)).Leaves v
      (fun held v' => rayMul v.backing v.token.index = .ok held ∧ v' = v) (fun _ v' => v' = v) := by
  apply Act.leaves_of_run
  · intro held v' hrun
    refine ⟨?_, ((leaves_balanceOf hv.plain).of_ok hrun).right⟩
    have hview := DepositToken.rayMul_of_balanceOf hv.plain (congrArg Prod.fst hrun)
    rw [ShareLedger.sharesOf_eq_held, hv.address] at hview
    exact hview
  · intro _ v' hrun
    exact (leaves_balanceOf hv.plain).of_error hrun

theorem priced_depositPlan (hv : v.OverPlain) {depositor recipient : String}
    (hother : Text.lower depositor ≠ v.books.address) :
    (depositPlan depositor recipient amount fromUnderlying).Leaves v
      (fun p v' => (p.Priced v ∧ p.WithOthers v.books.address) ∧ v' = v)
      (fun _ v' => Quiet v v') := by
  unfold depositPlan
  apply leaves_bind_of_reading leaves_requireRecipient
  intro _ _
  rw [Act.leaves_ite]
  refine ⟨fun _ => Quiet.refl v, fun _ => ?_⟩
  apply leaves_bind_of_reading (leaves_unitsFor hv.plain)
  intro units hunits
  rw [Act.leaves_ite]
  constructor
  · intro _
    exact leaves_bind_of_reading (leaves_rate hv.plain) fun _ _ => Quiet.refl v
  · intro _
    exact ⟨⟨hunits, hother⟩, rfl⟩

theorem priced_releasePlan (hv : v.OverPlain) {owner recipient : String}
    (hother : Text.lower recipient ≠ v.books.address)
    (hvalue : rayMul units v.token.index = .ok value ∨ rayDiv value v.token.index = .ok units) :
    (releasePlan owner recipient units value toUnderlying).Leaves v
      (fun p v' => (p.Priced v ∧ p.WithOthers v.books.address) ∧ v' = v)
      (fun _ v' => Quiet v v') := by
  unfold releasePlan
  apply leaves_bind_of_reading leaves_requireRecipient
  intro _ _
  rw [Act.leaves_ite]
  refine ⟨fun _ => Quiet.refl v, fun _ => ?_⟩
  rw [Act.leaves_bind, Act.leaves_current]
  dsimp only
  rw [Act.leaves_ite]
  refine ⟨fun _ => Quiet.refl v, fun howned => ?_⟩
  apply leaves_bind_of_reading (leaves_balance hv)
  intro held hheld
  rw [Act.leaves_ite]
  refine ⟨fun _ => Quiet.refl v, fun _ => ?_⟩
  exact ⟨⟨⟨not_lt.mp howned, value, held, hheld, rfl, hvalue⟩, hother⟩, rfl⟩

end StaticVault

namespace VaultCall

variable {v v' : StaticVault} {c : VaultCall}

/-- A deposit by somebody else than the vault, or a withdrawal to somebody else. -/
def TradesWithOthers (address : String) : VaultCall → Prop
  | deposit depositor _ _ _ => Text.lower depositor ≠ address
  | withdraw _ recipient _ _ => Text.lower recipient ≠ address
  | withdrawValue _ recipient _ _ => Text.lower recipient ≠ address
  | _ => False

theorem priced_plan (hv : v.OverPlain) (hc : c.TradesWithOthers v.books.address) :
    ∃ m, c.plan? = some m ∧ m.Leaves v
      (fun p v' => (p.Priced v ∧ p.WithOthers v.books.address) ∧ v' = v)
      (fun _ v' => v.Quiet v') := by
  cases c with
  | deposit depositor recipient amount fromUnderlying =>
      exact ⟨_, rfl, StaticVault.priced_depositPlan hv hc⟩
  | withdraw owner recipient units toUnderlying =>
      refine ⟨_, rfl, ?_⟩
      unfold StaticVault.withdrawPlan
      rw [Act.leaves_bind, Act.leaves_current]
      apply StaticVault.leaves_bind_of_reading (StaticVault.leaves_valueOf hv.plain)
      intro value hvalue
      exact StaticVault.priced_releasePlan hv hc (Or.inl hvalue)
  | withdrawValue owner recipient value toUnderlying =>
      refine ⟨_, rfl, ?_⟩
      unfold StaticVault.withdrawValuePlan
      apply StaticVault.leaves_bind_of_reading (StaticVault.leaves_unitsFor hv.plain)
      intro units hunits
      exact StaticVault.priced_releasePlan hv hc (Or.inr hunits)
  | _ => exact hc.elim

theorem matches_perform (hv : v.OverPlain) (hunits : v.books.balances.Sound)
    (hbacked : v.totalUnits ≤ v.backing) (hc : c.TradesWithOthers v.books.address) :
    c.perform.Leaves v (fun _ v' => v.Matches v') (fun _ _ => True) := by
  rcases priced_plan hv hc with ⟨m, hplan, hpriced⟩
  rw [leaves_perform_iff hplan]
  apply hpriced.mono _ fun _ _ _ => trivial
  intro p v₁ h
  rcases h with ⟨⟨hp, hothers⟩, rfl⟩
  exact StaticVault.answers_carryOut hv hunits hbacked hp hothers

/--
On a plain reserve the units of a vault move with its shares: while there are no
more units than shares, every accepted deposit by somebody else, and every
accepted withdrawal to somebody else, in units or by value, of any amount or of
everything, through the pool or by transfer, changes the number of units by
exactly as many as it changes the shares at the address of the vault. Of the
other entries of the token nothing is asked.
-/
theorem units_move_with_shares {held : Int} (hv : VaultStep.Reachable v)
    (hplain : v.token.isRebasing = false) (hindex : ray ≤ v.token.index)
    (hheld : (Act.run (DepositToken.scaledBalanceOf v.books.address) v.token).1 = .ok held)
    (hbacked : v.totalUnits ≤ held) (hc : c.TradesWithOthers v.books.address)
    (hrun : Act.run c.perform v = (.ok (), v')) :
    ∃ held', (Act.run (DepositToken.scaledBalanceOf v.books.address) v'.token).1 = .ok held' ∧
      v'.totalUnits - v.totalUnits = held' - held := by
  have hkept := StaticVault.wellKept_of_reachable hv
  have haddress : Text.lower v.books.address = v.books.address := hkept.books.address
  rw [DepositToken.run_scaledBalanceOf_plain hplain, ShareLedger.sharesOf_eq_held, haddress] at hheld
  cases hheld
  have hmatches := (matches_perform ⟨hplain, hindex, haddress⟩ hkept.units hbacked hc).of_ok hrun
  refine ⟨v'.backing, ?_, ?_⟩
  · rw [DepositToken.run_scaledBalanceOf_plain hmatches.plain, ShareLedger.sharesOf_eq_held, haddress,
      StaticVault.backing, hmatches.address]
  · have hunbacked := hmatches.unbacked
    unfold StaticVault.unbacked at hunbacked
    change _ = v'.backing - v.backing
    omega

/-- Four and thirty asked of a vault that holds thirty, at an index of ten: the cut binds. -/
theorem units_move_with_shares_cut_withdrawal :
    let s := (TokenCall.mint "pool" "alice" 100 (10 * ray)).after (.atOne (.plain .empty) none)
    let v := (Act.run (VaultStep.call (.deposit "alice" "alice" 30 false)).answer
      ⟨s, .unused "vault"⟩).2
    let c := withdrawValue "Alice" "bob" 34 true
    let v' := c.after v
    VaultStep.Reachable v ∧ v.token.isRebasing = false ∧ ray ≤ v.token.index ∧
      (Act.run (DepositToken.scaledBalanceOf v.books.address) v.token).1 = .ok 3 ∧
      v.totalUnits ≤ 3 ∧ c.TradesWithOthers v.books.address ∧
      Act.run c.perform v = (.ok (), v') ∧
      ∃ held', (Act.run (DepositToken.scaledBalanceOf v.books.address) v'.token).1 = .ok held' ∧
        held' = 0 ∧ v'.totalUnits - v.totalUnits = held' - 3 := by
  intro s v c v'
  have hopen : StaticVault.open? s (VaultBooks.unused "vault") = .ok (VaultBooks.unused "vault") :=
    VaultBooks.open?_unused (by decide +kernel) (by decide)
  have hv : VaultStep.Reachable v := (VaultStep.Reachable.opened ⟨rfl, rfl, rfl, rfl⟩ hopen).after _
  have hplain : v.token.isRebasing = false := by decide +kernel
  have hindex : ray ≤ v.token.index := by decide +kernel
  have hheld : (Act.run (DepositToken.scaledBalanceOf v.books.address) v.token).1 = .ok 3 :=
    Act.eq_ok_of_toOption (by decide +kernel)
  have hbacked : v.totalUnits ≤ 3 := by decide +kernel
  have hc : c.TradesWithOthers v.books.address :=
    show Text.lower "bob" ≠ v.books.address by decide +kernel
  have hrun : Act.run c.perform v = (.ok (), v') :=
    Act.run_of_outcome (Act.eq_ok_of_toOption (by decide +kernel))
  have hafter : (Act.run (DepositToken.scaledBalanceOf v.books.address) v'.token).1 = .ok 0 :=
    Act.eq_ok_of_toOption (by decide +kernel)
  rcases units_move_with_shares hv hplain hindex hheld hbacked hc hrun with ⟨held', hheld', hmoved⟩
  cases hafter.symm.trans hheld'
  exact ⟨hv, hplain, hindex, hheld, hbacked, hc, hrun, 0, hafter, rfl, hmoved⟩

end VaultCall
end ReserveAccounting
