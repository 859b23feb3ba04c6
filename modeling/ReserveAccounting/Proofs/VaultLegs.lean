import ReserveAccounting.Proofs.TokenRuns
import ReserveAccounting.Proofs.VaultQuiet

/-!
# The two legs of a vault

A deposit takes deposit tokens and issues units, a withdrawal releases deposit
tokens and cancels units. On a plain reserve both legs round alike: the token
leg of a deposit brings as many shares as units are issued, unless the vault
pays itself, and that of a withdrawal takes no more than are cancelled.
-/

namespace ReserveAccounting

open FixedPoint

namespace StaticVault

variable {v v' v'' : StaticVault}

structure Sound (v : StaticVault) : Prop where
  plain : v.token.isRebasing = false
  shares : v.token.model.ledger.Sound
  index : ray ≤ v.token.index
  units : v.books.balances.Sound
  address : Text.lower v.books.address = v.books.address

def backing (v : StaticVault) : Int := v.token.model.ledger.held v.books.address

/-- The units that no share stands behind; negative if there are more shares. -/
def unbacked (v : StaticVault) : Int := v.totalUnits - v.backing

theorem Quiet.sound (h : Quiet v v') (hv : v.Sound) : v'.Sound where
  plain := h.token.alike.left.trans hv.plain
  shares := by
    rw [h.token.ledger]
    exact hv.shares
  index := by
    unfold DepositToken.index
    rw [h.token.reserve]
    exact hv.index
  units := by
    rw [h.balances]
    exact hv.units
  address := by
    rw [h.address]
    exact hv.address

theorem Quiet.index_eq (h : Quiet v v') : v'.token.index = v.token.index := by
  unfold DepositToken.index
  rw [h.token.reserve]

theorem Quiet.backing_eq (h : Quiet v v') : v'.backing = v.backing := by
  unfold backing
  rw [h.token.ledger, h.address]

theorem Quiet.unbacked_eq (h : Quiet v v') : v'.unbacked = v.unbacked := by
  unfold unbacked totalUnits
  rw [h.backing_eq, h.balances]

/-!
# The token leg
-/

structure TokenMoved (v v' : StaticVault) : Prop where
  books : v'.books = v.books
  sound : v'.Sound

theorem tokenMoved_of_changes {s : DepositToken} {booked : ShareLedger → Prop}
    {rewarded : Option RewardProgram → Prop} (hv : v.Sound)
    (h : v.token.Changes booked (fun r => v.token.index ≤ r.liquidityIndex) rewarded s)
    (hsound : s.model.ledger.Sound) : TokenMoved v { v with token := s } where
  books := rfl
  sound := {
    plain := h.alike.left.trans hv.plain
    shares := hsound
    index := hv.index.trans h.reserve
    units := hv.units
    address := hv.address }

/-- A deposit of the vault into itself: the shares that it takes come from where they go. -/
def PaysItself (v : StaticVault) (depositor : String) (fromUnderlying : Bool) : Prop :=
  fromUnderlying = false ∧ Text.lower depositor = v.books.address

instance (v : StaticVault) (depositor : String) (fromUnderlying : Bool) :
    Decidable (v.PaysItself depositor fromUnderlying) :=
  inferInstanceAs (Decidable (_ ∧ _))

theorem leaves_takeTokens {depositor : String} {amount units : Int} {fromUnderlying : Bool}
    (hv : v.Sound) (hunits : rayDiv amount v.token.index = .ok units) :
    (takeTokens depositor amount fromUnderlying).Leaves v
      (fun _ v' => TokenMoved v v' ∧ v'.backing =
        v.backing + if v.PaysItself depositor fromUnderlying then 0 else units)
      (fun _ v' => Quiet v v') := by
  have hplain : v.token.isRebasing = false := hv.plain
  unfold takeTokens
  rw [Act.leaves_bind, Act.leaves_current]
  cases fromUnderlying with
  | true =>
      rw [if_pos rfl, Act.leaves_bind, onToken, Act.leaves_within]
      apply DepositToken.leaves_mint.mono
      · intro _ s hleft
        rcases hleft with ⟨hbooks, _⟩
        rcases hbooks.ledger with ⟨n, hcredits, hprice⟩
        rw [hv.address] at hcredits
        have hn := hprice hplain
        rw [hunits] at hn
        cases hn
        refine ⟨tokenMoved_of_changes hv hbooks (hcredits.sound hv.address hv.shares), ?_⟩
        rw [if_neg fun h => nomatch h.left]
        change s.model.ledger.held v.books.address = _
        rw [hcredits.held_eq, if_pos rfl]
        rfl
      · intro _ s h
        exact Quiet.of_keeps h
  | false =>
      rw [if_neg Bool.false_ne_true, Act.leaves_bind, onToken, Act.leaves_within]
      apply (DepositToken.leaves_transfer hv.shares.nonneg).mono
      · intro _ s hleft
        rcases hleft with ⟨hbooks, _⟩
        rcases hbooks.ledger with ⟨n, hmoves, hprice⟩
        rw [hv.address] at hmoves
        rcases hprice hplain with ⟨value, asked, hvalue, hle, hasked, hn⟩
        rw [hunits] at hasked
        cases hasked
        -- from index one on the depositor has all the shares that the amount asks for
        have henough : units ≤ v.token.model.ledger.held (Text.lower depositor) :=
          rayDiv_le_of_le_rayMul hv.index hvalue hle hunits
        rw [min_eq_left henough] at hn
        refine ⟨tokenMoved_of_changes hv hbooks
          (hmoves.sound (Text.lower_lower depositor) hv.address hv.shares), ?_⟩
        change s.model.ledger.held v.books.address = v.token.model.ledger.held v.books.address + _
        rw [hmoves.held_eq, if_pos rfl]
        by_cases hself : Text.lower depositor = v.books.address
        · rw [if_pos hself.symm, if_pos ⟨rfl, hself⟩]
          omega
        · rw [if_neg fun h => hself h.symm, if_neg fun h => hself h.right]
          omega
      · intro _ s h
        exact Quiet.of_keeps h

theorem leaves_releaseTokens {recipient : String} {value units : Int} {toUnderlying : Bool}
    (hv : v.Sound)
    (hunits : ∀ value' asked, value' ≤ value → rayDiv value' v.token.index = .ok asked →
      asked ≤ units) :
    (releaseTokens recipient value toUnderlying).Leaves v
      (fun _ v' => TokenMoved v v' ∧ v.backing - units ≤ v'.backing)
      (fun _ v' => Quiet v v') := by
  have hplain : v.token.isRebasing = false := hv.plain
  unfold releaseTokens
  rw [Act.leaves_bind, Act.leaves_current]
  cases toUnderlying with
  | true =>
      rw [if_pos rfl, Act.leaves_bind, onToken, Act.leaves_within]
      apply DepositToken.leaves_burn.mono
      · intro _ s hleft
        rcases hleft with ⟨hbooks, _⟩
        rcases hbooks.ledger with ⟨n, hdebits, hprice⟩
        rw [hv.address] at hdebits hprice
        rcases hprice hplain with ⟨held, asked, _, _, hasked, hn⟩
        -- a balance burned in place of the sentinel fits a word, so it is no more than the sentinel
        have hburned : (if value = everything then held else value) ≤ value := by
          split
          · next heverything =>
              rw [if_pos heverything] at hasked
              rw [heverything]
              exact (divHalfUp_eq_ok.mp hasked).left.right
          · exact Int.le_refl value
        have hle := hunits _ asked hburned hasked
        refine ⟨tokenMoved_of_changes hv hbooks (hdebits.sound hv.address hv.shares), ?_⟩
        change v.token.model.ledger.held v.books.address - units ≤
          s.model.ledger.held v.books.address
        rw [hdebits.held_eq, if_pos rfl]
        omega
      · intro _ s h
        exact Quiet.of_keeps h
  | false =>
      rw [if_neg Bool.false_ne_true, Act.leaves_bind, onToken, Act.leaves_within]
      apply (DepositToken.leaves_transfer hv.shares.nonneg).mono
      · intro _ s hleft
        rcases hleft with ⟨hbooks, _⟩
        rcases hbooks.ledger with ⟨n, hmoves, hprice⟩
        rw [hv.address] at hmoves hprice
        rcases hprice hplain with ⟨held, asked, _, _, hasked, hn⟩
        have hle := hunits value asked (Int.le_refl value) hasked
        have hnonneg := hmoves.nonneg
        refine ⟨tokenMoved_of_changes hv hbooks
          (hmoves.sound hv.address (Text.lower_lower recipient) hv.shares), ?_⟩
        change v.token.model.ledger.held v.books.address - units ≤
          s.model.ledger.held v.books.address
        rw [hmoves.held_eq, if_pos rfl]
        split <;> omega
      · intro _ s h
        exact Quiet.of_keeps h

end StaticVault
end ReserveAccounting
