import ReserveAccounting.Proofs.TokenChanges

/-!
# What views answer

A view of balances is a computation on shares: over an asset they are multiplied
with the rate that is read, and then, in every kind of books, with the index. Of
the books a view needs the shares and the outcome of a reading, and nothing else.
-/

namespace ReserveAccounting

open FixedPoint

namespace RebasingLedger

variable {w : RebasingLedger}

theorem outcome_scaled (sharesOf : ShareLedger → Int) :
    (Act.run (do
      let rate ← snapshot
      let w ← Act.current
      rayMul (sharesOf w.ledger) rate : Act RebasingLedger Int) w).1 =
      (Act.run snapshot w).1.bind fun rate =>
        (rayMul (sharesOf w.ledger) rate).mapError Fault.ofRefusal := by
  rw [Act.run_bind]
  cases hread : Act.run snapshot w with
  | mk outcome w' =>
      cases outcome with
      | error e => rfl
      | ok rate =>
          have hledger : w'.ledger = w.ledger := (leaves_snapshot.of_ok hread).left
          dsimp only
          rw [Act.run_bind_ok (Act.run_current w'), hledger]
          exact congrArg Prod.fst (Act.run_ofRefusable (rayMul (sharesOf w.ledger) rate) w')

/-!
# Pinned rates

The rate that a call pins is the one that a view would have read, and while it is
pinned a view reads it again.
-/

theorem outcome_snapshot_of_pinned {rate : Int} (hpinned : w.pinned = some rate) :
    (Act.run snapshot w).1 = .ok rate := by
  unfold snapshot
  rw [Act.run_bind_ok (Act.run_current w), hpinned]
  rfl

theorem reads_pinRate :
    pinRate.Leaves w
      (fun p w' => (Act.run snapshot w).1 = .ok p.1 ∧ (Act.run snapshot w').1 = .ok p.1 ∧
        w'.ledger = w.ledger)
      (fun e _ => (Act.run snapshot w).1 = .error e) := by
  unfold pinRate
  rw [Act.leaves_bind, Act.leaves_current]
  cases hpin : w.pinned with
  | some rate => exact ⟨outcome_snapshot_of_pinned hpin, outcome_snapshot_of_pinned hpin, rfl⟩
  | none =>
      dsimp only
      rw [Act.leaves_bind]
      apply Act.leaves_of_run
      · intro rate w' hread
        rw [hread]
        exact ⟨rfl, outcome_snapshot_of_pinned rfl, (leaves_snapshot.of_ok hread).left⟩
      · intro e w' hread
        rw [hread]

theorem reads_withPinnedRate {α : Type} {m : Int → Act RebasingLedger α}
    (answered : α → ShareLedger → Prop) (failed : Fault → ShareLedger → Prop)
    (hm : ∀ rate w', (Act.run snapshot w).1 = .ok rate → w'.ledger = w.ledger →
      (m rate).Leaves w' (fun a w'' => answered a w''.ledger) (fun e w'' => failed e w''.ledger))
    (hfail : ∀ e l, (Act.run snapshot w).1 = .error e → failed e l) :
    (withPinnedRate m).Leaves w (fun a w' => answered a w'.ledger)
      (fun e w' => failed e w'.ledger) := by
  unfold withPinnedRate
  rw [Act.leaves_bind]
  apply reads_pinRate.mono _ fun e w' h => hfail e w'.ledger h
  intro p w' h
  rcases p with ⟨rate, mine⟩
  rcases h with ⟨hrate, _, hledger⟩
  cases mine with
  | true => exact Act.leaves_thenAlways.mpr (hm rate w' hrate hledger)
  | false => exact hm rate w' hrate hledger

end RebasingLedger

namespace BalanceModel

variable {m : BalanceModel} {holder : String} {index : Int}

def rate? : BalanceModel → Option (Except Fault Int)
  | plain _ => none
  | rebasing w => some (Act.run RebasingLedger.snapshot w).1

/-- What shares scale to: themselves, or over an asset their product with the rate. -/
def scaledValue (m : BalanceModel) (shares : Int) : Except Fault Int :=
  match m.rate? with
  | none => .ok shares
  | some reading => reading.bind fun rate => (rayMul shares rate).mapError Fault.ofRefusal

theorem scaledValue_of_rate {w : RebasingLedger} {rate shares scaled : Int}
    (hrate : (Act.run RebasingLedger.snapshot w).1 = .ok rate)
    (hscaled : rayMul shares rate = .ok scaled) :
    (rebasing w).scaledValue shares = .ok scaled := by
  change (Act.run RebasingLedger.snapshot w).1.bind _ = _
  rw [hrate]
  change (rayMul shares rate).mapError Fault.ofRefusal = _
  rw [hscaled]
  rfl

theorem eq_ok_of_mapError {x : Except Refusal Int} {n : Int}
    (h : x.mapError Fault.ofRefusal = .ok n) : x = .ok n := by
  cases x with
  | ok n' =>
      cases h
      rfl
  | error r => cases h

theorem rayMul_of_scaledValue {rate shares scaled : Int} (hrate : m.rate? = some (.ok rate))
    (hscaled : m.scaledValue shares = .ok scaled) : rayMul shares rate = .ok scaled := by
  unfold scaledValue at hscaled
  rw [hrate] at hscaled
  exact eq_ok_of_mapError hscaled

def presentedValue (m : BalanceModel) (index shares : Int) : Except Fault Int :=
  (m.scaledValue shares).bind fun scaled => (rayMul scaled index).mapError Fault.ofRefusal

theorem presentedValue_of_scaledValue {shares scaled value : Int}
    (hscaled : m.scaledValue shares = .ok scaled) (hvalue : rayMul scaled index = .ok value) :
    m.presentedValue index shares = .ok value := by
  unfold presentedValue
  rw [hscaled]
  change (rayMul scaled index).mapError Fault.ofRefusal = _
  rw [hvalue]
  rfl

theorem presentedValue_eq_ok {shares value : Int} (h : m.presentedValue index shares = .ok value) :
    ∃ scaled, m.scaledValue shares = .ok scaled ∧ rayMul scaled index = .ok value := by
  rcases Act.exists_of_bind_ok h with ⟨scaled, hscaled, hvalue⟩
  exact ⟨scaled, hscaled, eq_ok_of_mapError hvalue⟩

theorem scaledValue_congr {m' : BalanceModel} (h : m'.rate? = m.rate?) :
    m'.scaledValue = m.scaledValue := by
  unfold scaledValue
  rw [h]

theorem reads_pinRate :
    pinRate.Leaves m
      (fun _ m' => m'.rate? = m.rate? ∧ m'.ledger = m.ledger ∧ m'.isRebasing = m.isRebasing)
      (fun _ _ => True) := by
  unfold pinRate
  cases m with
  | plain l =>
      rw [leaves_dispatch_plain]
      apply leaves_view.mono _ fun _ _ _ => trivial
      intro _ l' h
      rw [h.right]
      exact ⟨rfl, rfl, rfl⟩
  | rebasing w =>
      rw [leaves_dispatch_rebasing, Act.leaves_bind]
      apply RebasingLedger.reads_pinRate.mono _ fun _ _ _ => trivial
      intro p w' h
      rcases h with ⟨hrate, hpinned, hledger⟩
      exact ⟨congrArg some (hpinned.trans hrate.symm), hledger, rfl⟩

theorem outcome_scaledBalanceOf :
    (Act.run (scaledBalanceOf holder) m).1 = m.scaledValue (m.ledger.sharesOf holder) := by
  cases m with
  | plain l => rfl
  | rebasing w => exact RebasingLedger.outcome_scaled fun l => l.sharesOf holder

theorem outcome_scaledTotalSupply :
    (Act.run scaledTotalSupply m).1 = m.scaledValue m.ledger.totalShares := by
  cases m with
  | plain l => rfl
  | rebasing w => exact RebasingLedger.outcome_scaled ShareLedger.totalShares

theorem outcome_presented {scaled : Act RebasingLedger Int} {w : RebasingLedger} :
    (Act.run (do
      let value ← scaled
      rayMul value index : Act RebasingLedger Int) w).1 =
      (Act.run scaled w).1.bind fun value => (rayMul value index).mapError Fault.ofRefusal := by
  rw [Act.run_bind]
  rcases Act.run scaled w with ⟨outcome, w'⟩
  cases outcome with
  | error e => rfl
  | ok value => exact congrArg Prod.fst (Act.run_ofRefusable (rayMul value index) w')

theorem outcome_view {f : ShareLedger → Except Refusal Int} {l : ShareLedger} :
    (Act.run (view f) l).1 = (f l).mapError Fault.ofRefusal := by
  unfold view
  rw [Act.run_bind_ok (Act.run_current l)]
  exact congrArg Prod.fst (Act.run_ofRefusable (f l) l)

theorem outcome_balanceOf :
    (Act.run (balanceOf holder index) m).1 = m.presentedValue index (m.ledger.sharesOf holder) := by
  cases m with
  | plain l => exact outcome_view (f := fun l => l.balanceOf holder index)
  | rebasing w =>
      refine outcome_presented.trans ?_
      exact congrArg (Except.bind · _) (RebasingLedger.outcome_scaled fun l => l.sharesOf holder)

theorem outcome_totalSupply :
    (Act.run (totalSupply index) m).1 = m.presentedValue index m.ledger.totalShares := by
  cases m with
  | plain l => exact outcome_view (f := fun l => l.totalSupply index)
  | rebasing w =>
      refine outcome_presented.trans ?_
      exact congrArg (Except.bind · _) (RebasingLedger.outcome_scaled ShareLedger.totalShares)

end BalanceModel

namespace DepositToken

/-- What a view looks at: what one holder has, or what there is. -/
inductive Portion where
  | ofHolder (holder : String)
  | whole
deriving DecidableEq, Repr

namespace Portion

def shares (l : ShareLedger) : Portion → Int
  | ofHolder holder => l.sharesOf holder
  | whole => l.totalShares

def scaled : Portion → Act DepositToken Int
  | ofHolder holder => scaledBalanceOf holder
  | whole => scaledTotalSupply

def presented : Portion → Act DepositToken Int
  | ofHolder holder => balanceOf holder
  | whole => totalSupply

def scaledIn : Portion → Act RebasingLedger Int
  | ofHolder holder => RebasingLedger.scaledBalanceOf holder
  | whole => RebasingLedger.scaledTotalSupply

theorem outcome_scaledIn {w : RebasingLedger} (p : Portion) :
    (Act.run p.scaledIn w).1 = (BalanceModel.rebasing w).scaledValue (p.shares w.ledger) := by
  cases p with
  | ofHolder holder => exact RebasingLedger.outcome_scaled fun l => l.sharesOf holder
  | whole => exact RebasingLedger.outcome_scaled ShareLedger.totalShares

variable {s : DepositToken}

theorem outcome_scaled (p : Portion) :
    (Act.run p.scaled s).1 = s.model.scaledValue (p.shares s.model.ledger) := by
  cases p with
  | ofHolder holder => exact BalanceModel.outcome_scaledBalanceOf
  | whole => exact BalanceModel.outcome_scaledTotalSupply

theorem outcome_presented (p : Portion) :
    (Act.run p.presented s).1 = s.model.presentedValue s.index (p.shares s.model.ledger) := by
  cases p with
  | ofHolder holder =>
      change (Act.run (do let t ← Act.current; onModel (BalanceModel.balanceOf holder t.index)) s).1 = _
      rw [Act.run_bind_ok (Act.run_current s)]
      exact BalanceModel.outcome_balanceOf
  | whole =>
      change (Act.run (do let t ← Act.current; onModel (BalanceModel.totalSupply t.index)) s).1 = _
      rw [Act.run_bind_ok (Act.run_current s)]
      exact BalanceModel.outcome_totalSupply

end Portion
end DepositToken
end ReserveAccounting
