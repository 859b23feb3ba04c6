import Mathlib.Logic.Function.Iterate
import ReserveAccounting.Proofs.BookChanges
import ReserveAccounting.Proofs.PairedRuns

/-!
# Rebasing ledgers at par

At a rate of one a reserve share is worth a unit of the reserve, and the books
in reserve shares are those of a plain ledger. From an index of one on, the
conversions at the rate neither round nor run out of room where the conversion
at the index does not, so that calls also fail alike.
-/

namespace ReserveAccounting

open FixedPoint

namespace ReserveAsset

def afterReadings (n : Nat) (a : ReserveAsset) : ReserveAsset :=
  (fun a => (Act.run exchangeRate a).2)^[n] a

/-- Every reading of the rate, now or later, answers one. -/
def IsAtPar (a : ReserveAsset) : Prop :=
  ∀ n, (Act.run exchangeRate (a.afterReadings n)).1 = .ok ray

variable {a : ReserveAsset}

theorem IsAtPar.run_exchangeRate (h : a.IsAtPar) :
    Act.run exchangeRate a = (.ok ray, (Act.run exchangeRate a).2) :=
  Prod.ext (h 0) rfl

theorem IsAtPar.after_reading (h : a.IsAtPar) : (Act.run exchangeRate a).2.IsAtPar :=
  fun n => h (n + 1)

theorem isAtPar_feed {f : RateFeed} (h : ∀ n, f.rates n = ray) : (feed f).IsAtPar := by
  have hfeed : ∀ n, ∃ f' : RateFeed, (feed f).afterReadings n = feed f' ∧ f'.rates = f.rates := by
    intro n
    induction n with
    | zero => exact ⟨f, rfl, rfl⟩
    | succ n ih =>
        rcases ih with ⟨f', hf', hrates⟩
        refine ⟨{ f' with reads := f'.reads + 1 }, ?_, hrates⟩
        unfold afterReadings at hf' ⊢
        rw [Function.iterate_succ_apply', hf']
        rfl
  intro n
  rcases hfeed n with ⟨f', hf', hrates⟩
  rw [hf']
  change Except.ok (f'.rates f'.reads) = Except.ok ray
  rw [hrates, h]

end ReserveAsset

/-!
# Conversions at par
-/

namespace FixedPoint

variable {a i n r : Int}

theorem rayMul_ray (h : rayMul a ray = .ok r) : r = a := by
  rcases rayMul_ok h with ⟨_, _, _, rfl⟩
  simp only [ray]
  omega

theorem rayDiv_le (hi : ray ≤ i) (h : rayDiv a i = .ok n) : n ≤ a := by
  rcases rayDiv_ok h with ⟨ha, hpos, rfl⟩
  have hgrown : a * ray ≤ a * i := Int.mul_le_mul_of_nonneg_left hi ha
  apply Int.le_of_lt_add_one
  apply Int.ediv_lt_of_lt_mul hpos
  rw [Int.add_mul]
  omega

theorem le_room_of_rayDiv (hi : ray ≤ i) (h : rayDiv a i = .ok n) :
    0 ≤ n ∧ n ≤ maxAmount ∧ n ≤ (maxAmount - ray / 2) / ray := by
  have hle := rayDiv_le hi h
  rcases divHalfUp_eq_ok.mp h with ⟨⟨_, hmax⟩, _, _, hroom, _⟩
  have hless : (maxAmount - i / 2) / ray ≤ (maxAmount - ray / 2) / ray :=
    Int.ediv_le_ediv (by decide) (by omega)
  exact ⟨rayDiv_nonneg h, by omega, by omega⟩

theorem rayDiv_ray_of_rayDiv (hi : ray ≤ i) (h : rayDiv a i = .ok n) : rayDiv n ray = .ok n := by
  rcases le_room_of_rayDiv hi h with ⟨hnonneg, hmax, hroom⟩
  refine divHalfUp_eq_ok.mpr ⟨⟨hnonneg, hmax⟩, by decide, by decide, by omega, ?_⟩
  simp only [ray]
  omega

theorem rayDiv_bind_rayDiv_ray (hi : ray ≤ i) :
    (rayDiv a i >>= fun quotient => rayDiv quotient ray) = rayDiv a i := by
  cases h : rayDiv a i with
  | ok n => exact rayDiv_ray_of_rayDiv hi h
  | error e => rfl

theorem rayDivFloor_ray_of_rayDiv (hi : ray ≤ i) (h : rayDiv a i = .ok n) :
    rayDivFloor n ray = .ok n := by
  rcases le_room_of_rayDiv hi h with ⟨hnonneg, hmax, hroom⟩
  have hfloor : (maxAmount - ray / 2) / ray ≤ maxAmount / ray :=
    Int.ediv_le_ediv (by decide) (by decide)
  unfold rayDivFloor
  rw [requireOperand_eq_ok.mpr ⟨hnonneg, hmax⟩, requireOperand_eq_ok.mpr (by decide)]
  simp only [bind, Except.bind]
  rw [if_neg (by decide), if_neg (by omega), Int.mul_ediv_cancel n (by decide)]

theorem alike_rayMul_ray (ha : 0 ≤ a) (hi : ray ≤ i) :
    Act.AlikeValues Eq (rayMul a i) (rayMul a ray >>= fun scaled => rayMul scaled i) := by
  have hzero : 0 ≤ ray := by decide
  cases hvalue : rayMul a i with
  | ok r =>
      rcases rayMul_of_le_right hvalue hzero hi with ⟨scaled, hscaled⟩
      rw [hscaled]
      cases rayMul_ray hscaled
      change Act.AlikeValues Eq _ (rayMul a i)
      rw [hvalue]
      rfl
  | error e =>
      rcases rayMul_error ha (hzero.trans hi) hvalue with ⟨hkind, hsaid⟩
      cases hscaled : rayMul a ray with
      | ok scaled =>
          cases rayMul_ray hscaled
          change Act.AlikeValues Eq _ (rayMul a i)
          rw [hvalue]
          exact Fault.Alike.same _
      | error e' =>
          rcases rayMul_error ha hzero hscaled with ⟨hkind', hsaid'⟩
          change (Fault.ofRefusal e).Alike (Fault.ofRefusal e')
          rw [hsaid, hsaid']
          exact .refused (hkind.trans hkind'.symm)

theorem isWritable_of_le_maxAmount (ha : 0 ≤ a) (hmax : a ≤ maxAmount) :
    Text.isWritable a = true := by
  have hdigits : maxAmount < 10 ^ 78 := by decide
  have hbound : ∀ digits, 78 ≤ digits → 10 ^ 78 ≤ Nat.pow 10 digits :=
    fun digits h => Nat.pow_le_pow_right (by decide) h
  have hroom := hbound Text.maxIntegerDigits (by decide)
  unfold Text.isWritable Text.integerBound
  rw [decide_eq_true_iff]
  omega

theorem isWritable_of_rayDiv (h : rayDiv a i = .ok n) :
    Text.isWritable a = true ∧ Text.isWritable i = true := by
  rcases divHalfUp_eq_ok.mp h with ⟨⟨ha, hmax⟩, ⟨hi, hmax'⟩, _, _, _⟩
  exact ⟨isWritable_of_le_maxAmount ha hmax, isWritable_of_le_maxAmount hi hmax'⟩

end FixedPoint

namespace RebasingLedger

open Act (Pairs pairs_current_left pairs_current_right pairs_value_right pairs_values_right)

variable {α β γ : Type} {l : ShareLedger} {w : RebasingLedger}

/-- The books of a ledger, over an asset at par and with no rate pinned. -/
structure MirrorsAtPar (l : ShareLedger) (w : RebasingLedger) : Prop where
  ledger : w.ledger = l
  pinned : w.pinned = none
  asset : w.asset.IsAtPar

abbrev PairsAtPar (m : Act ShareLedger α) (n : Act RebasingLedger α) (l : ShareLedger)
    (w : RebasingLedger) : Prop :=
  m.Pairs n l w (fun a b l' w' => a = b ∧ MirrorsAtPar l' w')
    (fun e e' l' w' => e.Alike e' ∧ MirrorsAtPar l' w')

theorem MirrorsAtPar.run_snapshot (h : MirrorsAtPar l w) :
    ∃ w', Act.run snapshot w = (.ok ray, w') ∧ MirrorsAtPar l w' := by
  rcases w with ⟨asset, ledger, pinned, reads⟩
  rcases h with ⟨rfl, hpinned, hasset⟩
  cases hpinned
  refine ⟨⟨(Act.run ReserveAsset.exchangeRate asset).2, ledger, none, reads + 1⟩, ?_,
    rfl, rfl, hasset.after_reading⟩
  unfold snapshot
  rw [Act.run_bind_ok (Act.run_current _)]
  dsimp only
  rw [Act.run_bind, onAsset, Act.run_within, hasset.run_exchangeRate]
  rfl

theorem pairs_withPinnedRate {m : Act ShareLedger α} {n : Int → Act RebasingLedger β}
    (answered : α → β → Prop) (h : MirrorsAtPar l w)
    (hn : ∀ w', w'.ledger = l → m.Pairs (n ray) l w'
      (fun a b l' w'' => answered a b ∧ w'' = { w' with ledger := l' })
      (fun e e' l' w'' => e.Alike e' ∧ w'' = { w' with ledger := l' })) :
    m.Pairs (withPinnedRate n) l w (fun a b l' w' => answered a b ∧ MirrorsAtPar l' w')
      (fun e e' l' w' => e.Alike e' ∧ MirrorsAtPar l' w') := by
  rcases h.run_snapshot with ⟨w₁, hsnapshot, hw₁⟩
  have hpin : Act.run pinRate w = (.ok (ray, true), { w₁ with pinned := some ray }) := by
    unfold pinRate
    rw [Act.run_bind_ok (Act.run_current w), h.pinned]
    dsimp only
    rw [Act.run_bind_ok hsnapshot]
    rfl
  have hunpinned : ∀ l' : ShareLedger,
      MirrorsAtPar l' (unpinned { w₁ with pinned := some ray, ledger := l' }) :=
    fun l' => ⟨rfl, rfl, hw₁.asset⟩
  have hcall := hn { w₁ with pinned := some ray } hw₁.ledger
  unfold Act.Pairs withPinnedRate at *
  rw [Act.run_bind_ok hpin]
  dsimp only
  rw [if_pos rfl, Act.run_thenAlways]
  generalize Act.run m l = left at hcall ⊢
  generalize Act.run (n ray) { w₁ with pinned := some ray } = right at hcall ⊢
  rcases left with ⟨outcome, l'⟩
  rcases right with ⟨outcome', w'⟩
  cases outcome with
  | ok a =>
      cases outcome' with
      | ok b =>
          rcases hcall with ⟨hanswered, rfl⟩
          exact ⟨hanswered, hunpinned l'⟩
      | error e' => exact hcall.elim
  | error e =>
      cases outcome' with
      | ok b => exact hcall.elim
      | error e' =>
          rcases hcall with ⟨hfailed, rfl⟩
          exact ⟨hfailed, hunpinned l'⟩

theorem pairs_onLedger {m : Act ShareLedger α} (h : w.ledger = l) :
    m.Pairs (onLedger m) l w (fun a b l' w' => a = b ∧ w' = { w with ledger := l' })
      (fun e e' l' w' => e.Alike e' ∧ w' = { w with ledger := l' }) := by
  subst h
  unfold Act.Pairs onLedger
  rw [Act.run_within]
  rcases Act.run m w.ledger with ⟨outcome, l'⟩
  cases outcome with
  | ok a => exact ⟨rfl, rfl⟩
  | error e => exact ⟨.same e, rfl⟩

/-!
# The calls of a ledger at par
-/

variable {holder sender recipient : String} {amount index : Int}

theorem run_valued {sharesOf : RebasingLedger → Int} {w' : RebasingLedger}
    (h : Act.run snapshot w = (.ok ray, w')) :
    Act.run (do
      let scaled ← (do
        let rate ← snapshot
        let w ← Act.current
        rayMul (sharesOf w) rate : Act RebasingLedger Int)
      rayMul scaled index : Act RebasingLedger Int) w =
      Act.run (liftM (rayMul (sharesOf w') ray >>= fun scaled => rayMul scaled index)) w' := by
  rw [Act.run_bind, Act.run_bind_ok h, Act.run_bind_ok (Act.run_current w')]
  cases rayMul (sharesOf w') ray <;> rfl

theorem pairs_valued {f : ShareLedger → Except Refusal Int} {sharesOf : RebasingLedger → Int}
    (h : MirrorsAtPar l w) (hshares : ∀ w', w'.ledger = l → f l = rayMul (sharesOf w') index)
    (hnonneg : ∀ w', w'.ledger = l → 0 ≤ sharesOf w') (hindex : ray ≤ index) :
    PairsAtPar (BalanceModel.view f)
      (do
        let scaled ← (do
          let rate ← snapshot
          let w ← Act.current
          rayMul (sharesOf w) rate : Act RebasingLedger Int)
        rayMul scaled index) l w := by
  rcases h.run_snapshot with ⟨w', hrun, hw'⟩
  have halike := alike_rayMul_ray (hnonneg w' hw'.ledger) hindex
  have hvalues : PairsAtPar (liftM (f l)) (liftM (rayMul (sharesOf w') ray >>=
      fun scaled => rayMul scaled index)) l w' := by
    rw [hshares w' hw'.ledger]
    exact Act.Pairs.of_values halike (fun _ _ _ hvalue => ⟨hvalue, hw'⟩)
      (fun _ _ hfault => ⟨hfault, hw'⟩)
  unfold PairsAtPar Act.Pairs BalanceModel.view at *
  rw [Act.run_bind_ok (Act.run_current l), run_valued hrun]
  exact hvalues

theorem pairs_deposit (h : MirrorsAtPar l w) (hindex : ray ≤ index) :
    PairsAtPar (ShareLedger.mint holder amount index) (deposit holder amount index) l w := by
  unfold ShareLedger.mint deposit
  apply Act.Pairs.ite Iff.rfl
  · intro _
    exact ⟨Fault.alike_of_figures rfl rfl, h⟩
  · intro _
    apply Act.Pairs.bind_right
    refine (pairs_withPinnedRate (fun first (p : Bool × Int × Int) => first = p.1) h ?_).mono ?_
      (fun _ _ _ _ hfailed => hfailed)
    · intro w' hledger
      have hsame : w' = { w' with ledger := l } := by rw [← hledger]
      apply Act.Pairs.bind_value
      · intro n hn
        apply Act.Pairs.ite Iff.rfl
        · intro _
          exact ⟨Fault.alike_of_figures rfl rfl, hsame⟩
        · intro hsome
          rw [rayDivFloor_ray_of_rayDiv hindex hn, pairs_value_right, if_neg hsome,
            pairs_current_left, pairs_current_right]
          apply Act.Pairs.bind
          apply (pairs_onLedger hledger).mono
          · intro a b l' w'' hcall
            refine ⟨?_, hcall.right⟩
            unfold internalSharesOf
            rw [hledger]
          · intro _ _ _ _ hcall
            exact hcall
      · intro e
        exact ⟨.same e, hsame⟩
    · intro first p l' w' hanswered
      rcases p with ⟨first', shares, rate⟩
      exact hanswered

theorem pairs_balance {m : Int → Act ShareLedger α} {n : Int → Act RebasingLedger β}
    {answered : α → β → ShareLedger → RebasingLedger → Prop}
    {failed : Fault → Fault → ShareLedger → RebasingLedger → Prop}
    (hledger : w.ledger = l) (hl : l.Sound) (hindex : ray ≤ index)
    (hn : ∀ balance, (m balance).Pairs (n balance) l w answered failed)
    (hfail : ∀ e e' : Fault, e.Alike e' → failed e e' l w) :
    ((liftM (l.balanceOf holder index) : Act ShareLedger Int) >>= m).Pairs
      ((liftM (rayMul (w.internalSharesOf holder) ray) : Act RebasingLedger Int) >>= fun scaled =>
        (liftM (rayMul scaled index) : Act RebasingLedger Int) >>= n) l w answered failed := by
  subst hledger
  rw [pairs_values_right]
  apply Act.Pairs.bind_values (alike_rayMul_ray (hl.nonneg (Text.lower holder)) hindex)
  · intro balance balance' _ hsame
    subst hsame
    exact hn balance
  · exact hfail

theorem pairs_withdraw (h : MirrorsAtPar l w) (hl : l.Sound) (hindex : ray ≤ index) :
    PairsAtPar (ShareLedger.burn holder amount index) (withdraw holder amount index) l w := by
  unfold ShareLedger.burn withdraw
  rw [PairsAtPar, pairs_current_left]
  apply Act.Pairs.bind_right
  refine (pairs_withPinnedRate (fun burned (p : Int × Int × Int) => burned = p.1) h ?_).mono ?_
    (fun _ _ _ _ hfailed => hfailed)
  · intro w' hledger
    have hsame : w' = { w' with ledger := l } := by rw [← hledger]
    have hheld : w'.internalSharesOf holder = l.sharesOf holder := by rw [← hledger]; rfl
    rw [pairs_current_right]
    apply pairs_balance hledger hl hindex
    · intro balance
      dsimp only
      generalize (if amount = everything then balance else amount) = burned
      apply Act.Pairs.ite Iff.rfl
      · intro _
        exact ⟨Fault.alike_of_figures rfl rfl, hsame⟩
      · intro _
        apply Act.Pairs.ite Iff.rfl
        · intro _
          exact ⟨Fault.alike_of_figures rfl rfl, hsame⟩
        · intro _
          rw [pairs_values_right, rayDiv_bind_rayDiv_ray hindex, hheld]
          apply Act.Pairs.bind_value
          · intro n hn
            apply Act.Pairs.ite Iff.rfl
            · intro _
              -- the texts tell the index or the rate, which can both be written out
              rcases isWritable_of_rayDiv hn with ⟨hburned, hwritten⟩
              have hpar : Text.isWritable ray = true :=
                isWritable_of_le_maxAmount (by decide) (by decide)
              refine ⟨Fault.alike_ofRefusal rfl ?_, hsame⟩
              simp [Refusal.isSayable, Refusal.figures, hburned, hwritten, hpar]
            · intro _
              apply Act.Pairs.bind
              apply (pairs_onLedger hledger).mono
              · intro _ _ _ _ hcall
                exact ⟨rfl, hcall.right⟩
              · intro _ _ _ _ hcall
                exact hcall
          · intro e
            exact ⟨.same e, hsame⟩
    · intro e e' halike
      exact ⟨halike, hsame⟩
  · intro burned p l' w' hanswered
    rcases p with ⟨amount', shares, rate⟩
    exact hanswered

theorem pairs_transfer (h : MirrorsAtPar l w) (hl : l.Sound) (hindex : ray ≤ index) :
    PairsAtPar (ShareLedger.transfer sender recipient amount index)
      (transfer sender recipient amount index) l w := by
  unfold ShareLedger.transfer transfer
  apply Act.Pairs.ite Iff.rfl
  · intro _
    exact ⟨.same _, h⟩
  · intro _
    rw [pairs_current_left]
    apply pairs_withPinnedRate Eq h
    intro w' hledger
    have hsame : w' = { w' with ledger := l } := by rw [← hledger]
    have hheld : w'.internalSharesOf sender = l.sharesOf sender := by rw [← hledger]; rfl
    rw [pairs_current_right]
    apply pairs_balance hledger hl hindex
    · intro balance
      apply Act.Pairs.ite Iff.rfl
      · intro _
        exact ⟨.same _, hsame⟩
      · intro _
        rw [pairs_values_right, rayDiv_bind_rayDiv_ray hindex, hheld]
        apply Act.Pairs.bind_value
        · intro n _
          apply Act.Pairs.bind
          apply (pairs_onLedger hledger).mono
          · intro _ _ _ _ hcall
            exact ⟨rfl, hcall.right⟩
          · intro _ _ _ _ hcall
            exact hcall
        · intro e
          exact ⟨.same e, hsame⟩
    · intro e e' halike
      exact ⟨halike, hsame⟩

end RebasingLedger

inductive BookCall where
  | mint (holder : String) (amount index : Int)
  | burn (holder : String) (amount index : Int)
  | transfer (sender recipient : String) (amount index : Int)
  | balanceOf (holder : String) (index : Int)
  | totalSupply (index : Int)

namespace BookCall

def index : BookCall → Int
  | mint _ _ index => index
  | burn _ _ index => index
  | transfer _ _ _ index => index
  | balanceOf _ index => index
  | totalSupply index => index

def onLedger : BookCall → Act ShareLedger Document
  | mint holder amount index => do return .bool (← ShareLedger.mint holder amount index)
  | burn holder amount index => do return .int (← ShareLedger.burn holder amount index)
  | transfer sender recipient amount index => do
      return .int (← ShareLedger.transfer sender recipient amount index)
  | balanceOf holder index => do return .int (← BalanceModel.view (·.balanceOf holder index))
  | totalSupply index => do return .int (← BalanceModel.view (·.totalSupply index))

def onRebasing : BookCall → Act RebasingLedger Document
  | mint holder amount index => do return .bool (← RebasingLedger.deposit holder amount index)
  | burn holder amount index => do return .int (← RebasingLedger.withdraw holder amount index)
  | transfer sender recipient amount index => do
      return .int (← RebasingLedger.transfer sender recipient amount index)
  | balanceOf holder index => do return .int (← RebasingLedger.balanceOf holder index)
  | totalSupply index => do return .int (← RebasingLedger.totalSupply index)

open RebasingLedger (MirrorsAtPar PairsAtPar)

variable {α β : Type} {l : ShareLedger} {w : RebasingLedger}

theorem leaves_answering {m : Act ShareLedger α} {p : ShareLedger → Prop} (f : α → β)
    (h : m.Leaves l (fun _ => p) (fun _ => p)) :
    (do return f (← m) : Act ShareLedger β).Leaves l (fun _ => p) (fun _ => p) :=
  Act.leaves_bind.mpr h

theorem leaves_sound (c : BookCall) (hl : l.Sound) :
    c.onLedger.Leaves l (fun _ l' => l'.Sound) (fun _ l' => l'.Sound) := by
  have hview : ∀ f : ShareLedger → Except Refusal Int, (BalanceModel.view f).Leaves l
      (fun _ l' => l'.Sound) (fun _ l' => l'.Sound) := by
    intro f
    unfold BalanceModel.view
    rw [Act.leaves_bind, Act.leaves_current, Act.leaves_refusable]
    exact ⟨fun _ _ => hl, fun _ _ => hl⟩
  cases c with
  | mint holder amount index =>
      apply leaves_answering
      apply ShareLedger.leaves_mint.mono
      · intro _ l' hbooked
        rcases hbooked with ⟨n, hcredits, _⟩
        exact hcredits.sound (Text.lower_lower holder) hl
      · intro _ l' hsame
        exact hsame ▸ hl
  | burn holder amount index =>
      apply leaves_answering
      apply ShareLedger.leaves_burn.mono
      · intro _ l' hbooked
        rcases hbooked with ⟨n, hdebits, _⟩
        exact hdebits.sound (Text.lower_lower holder) hl
      · intro _ l' hsame
        exact hsame ▸ hl
  | transfer sender recipient amount index =>
      apply leaves_answering
      apply (ShareLedger.leaves_transfer hl.nonneg).mono
      · intro _ l' hbooked
        rcases hbooked with ⟨n, hmoves, _⟩
        exact hmoves.sound (Text.lower_lower sender) (Text.lower_lower recipient) hl
      · intro _ l' hsame
        exact hsame ▸ hl
  | balanceOf holder index => exact leaves_answering _ (hview _)
  | totalSupply index => exact leaves_answering _ (hview _)

theorem pairs_answering {m : Act ShareLedger α} {n : Act RebasingLedger α} (f : α → β)
    (h : PairsAtPar m n l w) : PairsAtPar (do return f (← m)) (do return f (← n)) l w := by
  apply Act.Pairs.bind
  apply h.mono
  · intro a b l' w' hanswered
    exact ⟨congrArg f hanswered.left, hanswered.right⟩
  · intro _ _ _ _ hfailed
    exact hfailed

theorem pairs_call (c : BookCall) (h : MirrorsAtPar l w) (hl : l.Sound) (hindex : ray ≤ c.index) :
    PairsAtPar c.onLedger c.onRebasing l w := by
  cases c with
  | mint holder amount index =>
      exact pairs_answering _ (RebasingLedger.pairs_deposit h hindex)
  | burn holder amount index =>
      exact pairs_answering _ (RebasingLedger.pairs_withdraw h hl hindex)
  | transfer sender recipient amount index =>
      exact pairs_answering _ (RebasingLedger.pairs_transfer h hl hindex)
  | balanceOf holder index =>
      apply pairs_answering
      apply RebasingLedger.pairs_valued h _ _ hindex
      · intro w' hledger
        rw [← hledger]
        rfl
      · intro w' hledger
        rw [← hledger] at hl
        exact hl.nonneg (Text.lower holder)
  | totalSupply index =>
      apply pairs_answering
      apply RebasingLedger.pairs_valued h _ _ hindex
      · intro w' hledger
        rw [← hledger]
        rfl
      · intro w' hledger
        rw [← hledger] at hl
        exact hl.totalShares_nonneg

/--
Books in the shares of an asset at par answer every call as a plain ledger does,
or fail with the same kind of fault, and hold the same shares all along.
-/
theorem same_endings_at_par {asset : ReserveAsset} (hasset : asset.IsAtPar)
    {calls : List BookCall} (hindices : ∀ c ∈ calls, ray ≤ c.index) :
    List.Forall₂ (fun x y => Act.SameEnding Fault.Alike x.1 y.1 ∧ y.2.ledger = x.2)
      (Act.trace onLedger calls .empty) (Act.trace onRebasing calls (.fresh asset)) := by
  have hstart : MirrorsAtPar .empty (.fresh asset) ∧ ShareLedger.empty.Sound :=
    ⟨⟨rfl, rfl, hasset⟩, ShareLedger.sound_empty⟩
  apply (Act.forall₂_trace Fault.Alike (fun l w => MirrorsAtPar l w ∧ l.Sound) _ hstart).imp
  · intro x y hends
    exact ⟨hends.left, hends.right.left.ledger⟩
  · intro c hc l w h
    rcases h with ⟨hmirrors, hl⟩
    apply ((pairs_call c hmirrors hl (hindices c hc)).and_left (leaves_sound c hl)).mono
    · intro _ _ l' w' hanswered
      exact ⟨hanswered.left.left, hanswered.left.right, hanswered.right⟩
    · intro _ _ l' w' hfailed
      exact ⟨hfailed.left.left, hfailed.left.right, hfailed.right⟩

/-- Rounding at an index above one, a call for everything and one for too much. -/
theorem same_endings_at_par_constant_rate :
    let asset : ReserveAsset := .feed ⟨"par", fun _ => ray, 0⟩
    let calls := [mint "Alice" 7 (2 * ray), mint "bob" 1 (3 * ray), transfer "alice" "Bob" 3 (2 * ray),
      burn "bob" everything (2 * ray), burn "alice" (maxAmount - 1) (2 * ray), totalSupply maxAmount]
    asset.IsAtPar ∧ (∀ c ∈ calls, ray ≤ c.index) ∧
      List.Forall₂ (fun x y => Act.SameEnding Fault.Alike x.1 y.1 ∧ y.2.ledger = x.2)
        (Act.trace onLedger calls .empty) (Act.trace onRebasing calls (.fresh asset)) := by
  intro asset calls
  have hasset : asset.IsAtPar := ReserveAsset.isAtPar_feed fun _ => rfl
  have hindices : ∀ c ∈ calls, ray ≤ c.index := by decide
  exact ⟨hasset, hindices, same_endings_at_par hasset hindices⟩

end BookCall
end ReserveAccounting
