import ReserveAccounting.Proofs.VaultBacking

/-!
# Runs of a vault

Calls of a vault and calls of its token take turns in any order. As long as no
call of the token takes shares from the address of the vault, the units without
a share behind them are no more than those that the vault issued to deposits
from its own address.
-/

namespace ReserveAccounting

open FixedPoint

def TokenCall.Spares (address : String) : TokenCall → Prop
  | burn _ holder _ _ _ => Text.lower holder ≠ address
  | transfer sender _ _ => Text.lower sender ≠ address
  | transferOnLiquidation _ sender _ _ => Text.lower sender ≠ address
  | _ => True

theorem TokenCall.Booked.held_le {c : TokenCall} {s : DepositToken} {l : ShareLedger}
    {address : String} (h : c.Booked s l) (hspares : c.Spares address) :
    s.model.ledger.held address ≤ l.held address := by
  have hcredited : ∀ {holder n}, s.model.ledger.Credits holder n l →
      s.model.ledger.held address ≤ l.held address := by
    intro holder n h
    have hpos := h.left
    rw [h.held_eq]
    split
    · next heq =>
        rw [heq]
        omega
    · exact Int.le_refl _
  have hmoved : ∀ {sender recipient n}, sender ≠ address →
      s.model.ledger.Moves sender recipient n l →
      s.model.ledger.held address ≤ l.held address := by
    intro sender recipient n hother h
    have hnonneg := h.nonneg
    rw [h.held_eq, if_neg hother.symm]
    split <;> omega
  cases c with
  | mint caller holder amount index =>
      rcases h with ⟨n, h⟩
      exact hcredited h
  | burn caller holder receiver amount index =>
      rcases h with ⟨n, h⟩
      rw [h.held_eq, if_neg fun heq => hspares heq.symm]
  | mintToTreasury caller amount index =>
      unfold Booked at h
      dsimp only at h
      split at h
      · rw [h]
      · rcases h with ⟨n, h⟩
        exact hcredited h
  | transfer sender recipient amount =>
      rcases h with ⟨n, h⟩
      exact hmoved hspares h
  | transferOnLiquidation caller sender recipient amount =>
      rcases h with ⟨n, h⟩
      exact hmoved hspares h
  | _ =>
      have hsame : l = s.model.ledger := h
      rw [hsame]

def VaultBooks.unused (address : String) : VaultBooks where
  address := address
  name := .text "Static deposit of ETH"
  symbol := .text "statdETH"
  balances := .empty
  rewards := .empty RewardTracker.defaultCapacity
  rewardBalances := ∅
  strayBalances := []
  events := []

theorem VaultBooks.open?_unused {s : DepositToken} {address : String}
    (hsmall : Text.lower address = address) (haccount : ¬ (address = "" ∨ address = zeroAccount)) :
    StaticVault.open? s (VaultBooks.unused address) = .ok (VaultBooks.unused address) := by
  unfold StaticVault.open?
  dsimp only [VaultBooks.unused]
  rw [hsmall, if_neg haccount]
  rfl

inductive VaultCall where
  | deposit (depositor recipient : String) (amount : Int) (fromUnderlying : Bool)
  | withdraw (owner recipient : String) (units : Int) (toUnderlying : Bool)
  | withdrawValue (owner recipient : String) (value : Int) (toUnderlying : Bool)
  | transfer (sender recipient : String) (units : Int)
  | claimRewards (holder token : String) (forceUpdate : Bool)
  | collect (token : Option String)
  | onToken (c : TokenCall)

namespace VaultCall

variable {v v' : StaticVault}

def perform : VaultCall → Act StaticVault Unit
  | deposit depositor recipient amount fromUnderlying =>
      Act.ending (StaticVault.deposit depositor recipient amount fromUnderlying)
  | withdraw owner recipient units toUnderlying =>
      Act.ending (StaticVault.withdraw owner recipient units toUnderlying)
  | withdrawValue owner recipient value toUnderlying =>
      Act.ending (StaticVault.withdrawValue owner recipient value toUnderlying)
  | transfer sender recipient units => Act.ending (StaticVault.transfer sender recipient units)
  | claimRewards holder token forceUpdate =>
      Act.ending (StaticVault.claimRewards holder token forceUpdate)
  | collect token => Act.ending (StaticVault.collect token)
  | onToken c => StaticVault.onToken c.perform

def after (c : VaultCall) (v : StaticVault) : StaticVault := (Act.run c.perform v).2

def afterAll : List VaultCall → StaticVault → StaticVault
  | [], v => v
  | c :: rest, v => afterAll rest (c.after v)

def Spares (address : String) : VaultCall → Prop
  | onToken c => c.Spares address
  | _ => True

def IsFromItself (address : String) : VaultCall → Prop
  | deposit depositor _ _ fromUnderlying => fromUnderlying = false ∧ Text.lower depositor = address
  | _ => False

/-- The units that a call issues to a deposit of the vault into itself. -/
def issuedToItself (c : VaultCall) (v : StaticVault) : Int :=
  match c with
  | deposit depositor recipient amount fromUnderlying =>
      if v.PaysItself depositor fromUnderlying then
        match (Act.run (StaticVault.deposit depositor recipient amount fromUnderlying) v).1 with
        | .ok units => units
        | .error _ => 0
      else 0
  | _ => 0

def allIssuedToItself : List VaultCall → StaticVault → Int
  | [], _ => 0
  | c :: rest, v => c.issuedToItself v + allIssuedToItself rest (c.after v)

/-!
# One call
-/

/-- What a call leaves: a sound vault at its address, and hardly more units without a share. -/
structure Follows (v : StaticVault) (issued : Int) (v' : StaticVault) : Prop where
  sound : v'.Sound
  address : v'.books.address = v.books.address
  unbacked : v'.unbacked ≤ v.unbacked + issued

theorem follows_of_releases (h : v.Releases v') : Follows v 0 v' where
  sound := h.sound
  address := h.address
  unbacked := by
    rw [Int.add_zero]
    exact h.unbacked

theorem follows_of_quiet (h : v.Quiet v') (hv : v.Sound) : Follows v 0 v' :=
  follows_of_releases (h.releases hv)

theorem follows_ending {α : Type} {m : Act StaticVault α} (hv : v.Sound)
    (h : m.Leaves v (fun _ v' => v.Releases v') (fun _ v' => v.Quiet v')) :
    Follows v 0 (Act.run (Act.ending m) v).2 := by
  rw [Act.run_ending]
  apply @Act.Leaves.state _ _ m v (Follows v 0)
  exact h.mono (fun _ _ h => follows_of_releases h) (fun _ _ h => follows_of_quiet h hv)

theorem follows_deposit {depositor recipient : String} {amount : Int} {fromUnderlying : Bool}
    (hv : v.Sound) :
    Follows v ((deposit depositor recipient amount fromUnderlying).issuedToItself v)
      ((deposit depositor recipient amount fromUnderlying).after v) := by
  have hcall := @StaticVault.leaves_deposit v depositor recipient amount fromUnderlying hv
  unfold issuedToItself after perform
  dsimp only
  rw [Act.run_ending]
  rcases hrun : Act.run (StaticVault.deposit depositor recipient amount fromUnderlying) v with
    ⟨outcome, v'⟩
  dsimp only
  cases outcome with
  | ok units =>
      rcases hcall.of_ok hrun with ⟨_, hissues⟩
      refine ⟨hissues.sound, hissues.address, ?_⟩
      have htotal := hissues.totalUnits
      have hbacking := hissues.backing
      unfold StaticVault.gain at hbacking
      unfold StaticVault.unbacked
      split at hbacking
      · next hself =>
          rw [if_pos hself]
          change v'.totalUnits - v'.backing ≤ v.totalUnits - v.backing + units
          omega
      · next hself =>
          rw [if_neg hself]
          omega
  | error e =>
      have hquiet := follows_of_quiet (hcall.of_error hrun) hv
      split
      · exact hquiet
      · exact hquiet

theorem follows_onToken {c : TokenCall} (hv : v.Sound) (hspares : c.Spares v.books.address) :
    Follows v 0 ((onToken c).after v) := by
  apply @Act.Leaves.state _ _ (StaticVault.onToken c.perform) v (Follows v 0)
  unfold StaticVault.onToken
  rw [Act.leaves_within]
  apply (TokenCall.leaves_perform c hv.shares.nonneg).mono
  · intro _ s h
    have hmoved := StaticVault.tokenMoved_of_changes hv h (h.ledger.left.sound hv.shares)
    have hheld := h.ledger.left.held_le hspares
    refine ⟨hmoved.sound, rfl, ?_⟩
    change v.totalUnits - s.model.ledger.held v.books.address ≤
      v.totalUnits - v.token.model.ledger.held v.books.address + 0
    omega
  · intro _ s h
    exact follows_of_quiet (StaticVault.Quiet.of_keeps h) hv

theorem follows_after (c : VaultCall) (hv : v.Sound) (hspares : c.Spares v.books.address) :
    Follows v (c.issuedToItself v) (c.after v) := by
  cases c with
  | deposit depositor recipient amount fromUnderlying => exact follows_deposit hv
  | withdraw owner recipient units toUnderlying =>
      exact follows_ending hv (StaticVault.leaves_withdraw hv)
  | withdrawValue owner recipient value toUnderlying =>
      exact follows_ending hv (StaticVault.leaves_withdrawValue hv)
  | transfer sender recipient units => exact follows_ending hv (StaticVault.leaves_transfer hv)
  | claimRewards holder token forceUpdate =>
      apply follows_ending hv
      exact (StaticVault.quiet_claimRewards holder token forceUpdate v).mono
        (fun _ _ h => h.releases hv) (fun _ _ h => h)
  | collect token =>
      apply follows_ending hv
      exact (StaticVault.quiet_collect token v).mono
        (fun _ _ h => h.releases hv) (fun _ _ h => h)
  | onToken c => exact follows_onToken hv hspares

/-!
# All calls
-/

theorem follows_afterAll (calls : List VaultCall) (hv : v.Sound)
    (hspares : ∀ c ∈ calls, c.Spares v.books.address) :
    Follows v (allIssuedToItself calls v) (afterAll calls v) := by
  induction calls generalizing v with
  | nil =>
      refine ⟨hv, rfl, ?_⟩
      change v.unbacked ≤ v.unbacked + 0
      omega
  | cons c rest ih =>
      have hfirst := follows_after c hv (hspares c List.mem_cons_self)
      have hrest : Follows (c.after v) (allIssuedToItself rest (c.after v))
          (afterAll rest (c.after v)) := by
        apply ih hfirst.sound
        intro c' hc'
        rw [hfirst.address]
        exact hspares c' (List.mem_cons_of_mem c hc')
      refine ⟨hrest.sound, hrest.address.trans hfirst.address, ?_⟩
      have hfirstUnbacked := hfirst.unbacked
      have hrestUnbacked := hrest.unbacked
      change (afterAll rest (c.after v)).unbacked ≤
        v.unbacked + (c.issuedToItself v + allIssuedToItself rest (c.after v))
      omega

theorem allIssuedToItself_eq_zero (calls : List VaultCall) (hv : v.Sound)
    (hspares : ∀ c ∈ calls, c.Spares v.books.address)
    (hothers : ∀ c ∈ calls, ¬ c.IsFromItself v.books.address) : allIssuedToItself calls v = 0 := by
  induction calls generalizing v with
  | nil => rfl
  | cons c rest ih =>
      have hfirst := follows_after c hv (hspares c List.mem_cons_self)
      have hrest : allIssuedToItself rest (c.after v) = 0 := by
        apply ih hfirst.sound
        · intro c' hc'
          rw [hfirst.address]
          exact hspares c' (List.mem_cons_of_mem c hc')
        · intro c' hc'
          rw [hfirst.address]
          exact hothers c' (List.mem_cons_of_mem c hc')
      have hnone : c.issuedToItself v = 0 := by
        have hother := hothers c List.mem_cons_self
        cases c with
        | deposit depositor recipient amount fromUnderlying => exact if_neg hother
        | _ => rfl
      change c.issuedToItself v + allIssuedToItself rest (c.after v) = 0
      omega

/-!
# A vault from its opening on
-/

theorem run_scaledBalanceOf (hv : v.Sound) :
    (Act.run (DepositToken.scaledBalanceOf v.books.address) v.token).1 = .ok v.backing := by
  have hplain : v.token.isRebasing = false := hv.plain
  have hbacking : v.backing = v.token.model.ledger.sharesOf v.books.address := by
    rw [ShareLedger.sharesOf_eq_held, hv.address]
    rfl
  rw [hbacking]
  rcases DepositToken.exists_plain hplain with ⟨l, hmodel⟩
  unfold DepositToken.scaledBalanceOf DepositToken.onModel
  rw [Act.run_within, hmodel]
  rfl

theorem plain_afterAll {origin : DepositToken} (hplain : origin.isRebasing = false)
    (hshares : origin.model.ledger.Sound) (hindex : ray ≤ origin.index) (earlier : List TokenCall) :
    let s := TokenCall.afterAll earlier origin
    s.isRebasing = false ∧ s.model.ledger.Sound ∧ ray ≤ s.index := by
  apply TokenCall.afterAll_induction
    (p := fun s => s.isRebasing = false ∧ s.model.ledger.Sound ∧ ray ≤ s.index)
  · intro c s hleft
    rcases hleft with ⟨hplain, hshares, hindex⟩
    refine ⟨?_, TokenCall.sound_after c hshares, hindex.trans (TokenCall.index_le_after c hshares)⟩
    apply @Act.Leaves.state _ _ c.perform s fun s' => s'.isRebasing = false
    exact (TokenCall.leaves_perform c hshares.nonneg).mono
      (fun _ _ h => h.alike.left.trans hplain) (fun _ _ h => h.alike.left.trans hplain)
  · exact ⟨hplain, hshares, hindex⟩

theorem sound_opened {s : DepositToken} {books opened : VaultBooks} (hplain : s.isRebasing = false)
    (hshares : s.model.ledger.Sound) (hindex : ray ≤ s.index) (hunits : books.balances = .empty)
    (hopen : StaticVault.open? s books = .ok opened) :
    StaticVault.Sound { token := s, books := opened } ∧ opened.balances = .empty := by
  unfold StaticVault.open? at hopen
  dsimp only at hopen
  split at hopen
  · cases hopen
  · cases hopen
    refine ⟨⟨hplain, hshares, hindex, ?_, Text.lower_lower books.address⟩, hunits⟩
    change books.balances.Sound
    rw [hunits]
    exact ShareLedger.sound_empty

/--
A vault is opened without units on a plain token whose index started at one or
above, and runs with calls of the token that spare its address. Then its units
exceed its shares by no more than it issued to deposits from its own address;
without such deposits they never exceed them, and each one that succeeds issues
units for which no share comes in.
-/
theorem units_backed {origin : DepositToken} {books opened : VaultBooks}
    (hplain : origin.isRebasing = false) (hempty : origin.model.ledger = .empty)
    (hindex : ray ≤ origin.index) (earlier : List TokenCall) (hunits : books.balances = .empty)
    (hopen : StaticVault.open? (TokenCall.afterAll earlier origin) books = .ok opened)
    (calls : List VaultCall) (hspares : ∀ c ∈ calls, c.Spares opened.address) :
    let start : StaticVault := { token := TokenCall.afterAll earlier origin, books := opened }
    let v := afterAll calls start
    ∃ shares,
      (Act.run (DepositToken.scaledBalanceOf opened.address) v.token).1 = .ok shares ∧
      v.totalUnits ≤ shares + allIssuedToItself calls start ∧
      ((∀ c ∈ calls, ¬ c.IsFromItself opened.address) → v.totalUnits ≤ shares) ∧
      ∀ depositor recipient amount units v', Text.lower depositor = opened.address →
        Act.run (StaticVault.deposit depositor recipient amount false) v = (.ok units, v') →
        0 < units ∧ v'.totalUnits = v.totalUnits + units ∧
          (Act.run (DepositToken.scaledBalanceOf opened.address) v'.token).1 = .ok shares := by
  intro start v
  have hshares : origin.model.ledger.Sound := by
    rw [hempty]
    exact ShareLedger.sound_empty
  rcases plain_afterAll hplain hshares hindex earlier with ⟨hplain, hshares, hindex⟩
  rcases sound_opened hplain hshares hindex hunits hopen with ⟨hstart, hnone⟩
  have hrun := follows_afterAll calls hstart hspares
  have haddress : v.books.address = opened.address := hrun.address
  have hbalance := run_scaledBalanceOf hrun.sound
  have hunbacked : v.totalUnits ≤ v.backing + allIssuedToItself calls start := by
    have hstep : v.totalUnits - v.backing ≤
        start.totalUnits - start.backing + allIssuedToItself calls start := hrun.unbacked
    have hzero : start.totalUnits = 0 := congrArg ShareLedger.totalShares hnone
    have hnonneg : 0 ≤ start.backing := hstart.shares.nonneg _
    omega
  rw [← haddress]
  refine ⟨v.backing, hbalance, hunbacked, ?_, ?_⟩
  · intro hothers
    rw [haddress] at hothers
    rw [allIssuedToItself_eq_zero calls hstart hspares hothers, Int.add_zero] at hunbacked
    exact hunbacked
  · intro depositor recipient amount units v' hself hdeposit
    rcases (StaticVault.leaves_deposit hrun.sound).of_ok hdeposit with ⟨hpos, hissues⟩
    have hbacking := hissues.backing
    unfold StaticVault.gain at hbacking
    rw [if_pos ⟨rfl, hself⟩, Int.add_zero] at hbacking
    refine ⟨hpos, hissues.totalUnits, ?_⟩
    rw [← hbacking, ← hissues.address]
    exact run_scaledBalanceOf hissues.sound

/--
One share goes into a vault for one unit. The vault then deposits it again, from
its own address, and has two units over the one share.
-/
theorem units_backed_deposit_from_itself :
    let origin : DepositToken := .atOne (.plain .empty) none
    let earlier := [TokenCall.mint "pool" "Alice" 1 ray]
    let books := VaultBooks.unused "vault"
    let calls := [deposit "alice" "alice" 1 false, deposit "vault" "bob" 1 false]
    let start : StaticVault := { token := TokenCall.afterAll earlier origin, books := books }
    let v := afterAll calls start
    origin.isRebasing = false ∧ origin.model.ledger = .empty ∧ ray ≤ origin.index ∧
      books.balances = .empty ∧
      StaticVault.open? (TokenCall.afterAll earlier origin) books = .ok books ∧
      (∀ c ∈ calls, c.Spares books.address) ∧ allIssuedToItself calls start = 1 ∧
      v.totalUnits = 2 ∧
      ∃ shares, (Act.run (DepositToken.scaledBalanceOf books.address) v.token).1 = .ok shares ∧
        shares = 1 ∧ v.totalUnits ≤ shares + allIssuedToItself calls start := by
  intro origin earlier books calls start v
  have hplain : origin.isRebasing = false := rfl
  have hempty : origin.model.ledger = .empty := rfl
  have hindex : ray ≤ origin.index := by decide
  have hunits : books.balances = .empty := rfl
  have hopen : StaticVault.open? (TokenCall.afterAll earlier origin) books = .ok books :=
    VaultBooks.open?_unused (by decide +kernel) (by decide)
  have hspares : ∀ c ∈ calls, c.Spares books.address := by
    intro c hc
    rcases List.mem_cons.mp hc with rfl | hc
    · trivial
    · rcases List.mem_singleton.mp hc with rfl
      trivial
  have hissued : allIssuedToItself calls start = 1 := by decide +kernel
  have htotal : v.totalUnits = 2 := by decide +kernel
  have hone : (Act.run (DepositToken.scaledBalanceOf books.address) v.token).1 = .ok 1 :=
    Act.eq_ok_of_toOption (by decide +kernel)
  rcases units_backed hplain hempty hindex earlier hunits hopen calls hspares with
    ⟨shares, hshares, hbound, _⟩
  have hsharesEq : shares = 1 := by
    have heq := hshares.symm.trans hone
    cases heq
    rfl
  exact ⟨hplain, hempty, hindex, hunits, hopen, hspares, hissued, htotal,
    shares, hshares, hsharesEq, hbound⟩

end VaultCall
end ReserveAccounting
