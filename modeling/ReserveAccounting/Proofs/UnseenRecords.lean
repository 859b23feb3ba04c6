import ReserveAccounting.Proofs.PairedRuns
import ReserveAccounting.BalanceModel
import ReserveAccounting.ReserveIndex

/-!
# Records that no call looks at

Books keep a history of the index and a count of the rates they have read. No
call and no view looks at them: with other records in their place every call
answers the same and leaves the same books, but for its records.
-/

namespace ReserveAccounting
namespace Act

variable {σ τ ρ π α β : Type}

def inspect (f : σ → Except Fault α) : Act σ α := do
  let s ← current
  f s

/-- With other records put in, a call ends the same, but for the records it leaves. -/
def Overlooks (put : ρ → σ → σ) (m : Act σ α) : Prop :=
  ∀ s r, ∃ r', run m (put r s) = ((run m s).1, put r' (run m s).2)

namespace Overlooks

variable {put : ρ → σ → σ} {put' : π → τ → τ} {m n : Act σ α}

theorem pure (a : α) : Overlooks put (pure a : Act σ α) := fun _ r => ⟨r, rfl⟩

theorem refuse (r : Refusal) : Overlooks put (refuse r : Act σ α) := fun _ r => ⟨r, rfl⟩

theorem note (r : Record) : Overlooks put (note r : Act σ Unit) := fun _ r => ⟨r, rfl⟩

theorem faulty (x : Except Fault α) : Overlooks put (liftM x : Act σ α) := by
  cases x <;> exact fun _ r => ⟨r, rfl⟩

theorem refusable (x : Except Refusal α) : Overlooks put (liftM x : Act σ α) := by
  cases x <;> exact fun _ r => ⟨r, rfl⟩

theorem update {f : σ → σ} (h : ∀ s r, ∃ r', f (put r s) = put r' (f s)) :
    Overlooks put (update f) := by
  intro s r
  rcases h s r with ⟨r', hf⟩
  exact ⟨r', congrArg (Prod.mk _) hf⟩

theorem bind {f : α → Act σ β} (hm : Overlooks put m) (hf : ∀ a, Overlooks put (f a)) :
    Overlooks put (m >>= f) := by
  intro s r
  rcases hm s r with ⟨r', hrun⟩
  rw [run_bind, run_bind, hrun]
  rcases run m s with ⟨outcome, s'⟩
  cases outcome with
  | ok a => exact hf a s' r'
  | error e => exact ⟨r', rfl⟩

theorem of_current {f : σ → Act σ β} (hf : ∀ s r, f (put r s) = f s)
    (h : ∀ s, Overlooks put (f s)) : Overlooks put (current >>= f) := by
  intro s r
  rw [run_bind_ok (run_current _), run_bind_ok (run_current _), hf]
  exact h s s r

theorem ite {c : Prop} [Decidable c] (hm : Overlooks put m) (hn : Overlooks put n) :
    Overlooks put (if c then m else n) := by
  split
  · exact hm
  · exact hn

theorem within {part : σ → τ} {set : τ → σ → σ} {m : Act τ α}
    (hpart : ∀ s r, ∃ q, part (put r s) = put' q (part s))
    (hset : ∀ s t r q, ∃ r', set (put' q t) (put r s) = put r' (set t s))
    (hm : Overlooks put' m) : Overlooks put (within part set m) := by
  intro s r
  rcases hpart s r with ⟨q, hq⟩
  rcases hm (part s) q with ⟨q', hrun⟩
  rcases hset s (run m (part s)).2 r q' with ⟨r', hr'⟩
  refine ⟨r', ?_⟩
  rw [run_within, run_within, hq, hrun]
  exact congrArg (Prod.mk _) hr'

theorem within_aside {part : σ → τ} {set : τ → σ → σ} (m : Act τ α)
    (hpart : ∀ s r, part (put r s) = part s)
    (hset : ∀ s t r, ∃ r', set t (put r s) = put r' (set t s)) :
    Overlooks put (Act.within part set m) := by
  have hm : Overlooks (fun (_ : Unit) t => t) m := by
    intro t _
    exact ⟨(), rfl⟩
  apply within _ _ hm
  · intro s r
    exact ⟨(), hpart s r⟩
  · intro s t r _
    exact hset s t r

theorem thenAlways {last : σ → σ} (hm : Overlooks put m)
    (hlast : ∀ s r, ∃ r', last (put r s) = put r' (last s)) :
    Overlooks put (m.thenAlways last) := by
  intro s r
  rcases hm s r with ⟨r', hrun⟩
  rcases hlast (run m s).2 r' with ⟨r'', hr''⟩
  refine ⟨r'', ?_⟩
  rw [run_thenAlways, run_thenAlways, hrun]
  exact congrArg (Prod.mk _) hr''

theorem onRefusal {undo : σ → σ} (hm : Overlooks put m)
    (hundo : ∀ s r, ∃ r', undo (put r s) = put r' (undo s)) :
    Overlooks put (m.onRefusal undo) := by
  intro s r
  rcases hm s r with ⟨r', hrun⟩
  rw [run_onRefusal, run_onRefusal, hrun]
  rcases run m s with ⟨outcome, s'⟩
  cases outcome with
  | ok a => exact ⟨r', rfl⟩
  | error e =>
      cases e with
      | refused reason =>
          rcases hundo s' r' with ⟨r'', hr''⟩
          exact ⟨r'', congrArg (Prod.mk _) hr''⟩
      | _ => exact ⟨r', rfl⟩

theorem forall₂_trace {perform : β → Act σ α} (hperform : ∀ c, Overlooks put (perform c))
    (calls : List β) (s : σ) (r : ρ) :
    List.Forall₂ (fun x y => x.1 = y.1 ∧ ∃ r', y.2 = put r' x.2)
      (trace perform calls s) (trace perform calls (put r s)) := by
  induction calls generalizing s r with
  | nil => exact List.Forall₂.nil
  | cons c rest ih =>
      rcases hperform c s r with ⟨r', hrun⟩
      unfold trace
      rw [hrun]
      exact List.Forall₂.cons ⟨rfl, r', rfl⟩ (ih _ r')

end Overlooks
end Act

open FixedPoint

/-!
# Calls of the books
-/

namespace ReserveIndex

def withHistory (h : List IndexCommit × Int) (r : ReserveIndex) : ReserveIndex :=
  { r with history := h.1, maxHistory := h.2 }

theorem overlooks_raise (index : Int) (reason : String) :
    Act.Overlooks withHistory (raise index reason) := by
  intro r h
  unfold raise
  rw [Act.run_bind_ok (Act.run_current _), Act.run_bind_ok (Act.run_current _)]
  change ∃ h', Act.run ((liftM (r.admits index) : Act ReserveIndex Unit) >>= _) _ = _
  cases r.admits index with
  | error e => exact ⟨h, rfl⟩
  | ok u =>
      change ∃ h', Act.run (if index = r.liquidityIndex then _ else _) _ =
        ((Act.run (if index = r.liquidityIndex then _ else _) r).1,
          withHistory h' (Act.run (if index = r.liquidityIndex then _ else _) r).2)
      by_cases hsame : index = r.liquidityIndex
      · refine ⟨h, ?_⟩
        rw [if_pos hsame, if_pos hsame]
        rfl
      · refine ⟨(window h.2 (h.1 ++ [⟨index, reason⟩]), h.2), ?_⟩
        rw [if_neg hsame, if_neg hsame]
        rfl

theorem overlooks_cumulate (liquidity amount : Int) :
    Act.Overlooks withHistory (cumulate liquidity amount) := by
  refine Act.Overlooks.of_current (fun _ _ => rfl) ?_
  intro r
  apply (Act.Overlooks.refusable _).bind
  intro index
  exact overlooks_raise index "premium"

end ReserveIndex

namespace RebasingLedger

variable {α : Type}

def withReads (n : Nat) (w : RebasingLedger) : RebasingLedger := { w with rateReads := n }

theorem overlooks_onLedger (m : Act ShareLedger α) : Act.Overlooks withReads (onLedger m) :=
  Act.Overlooks.within_aside m (fun _ _ => rfl) fun _ _ n => ⟨n, rfl⟩

theorem overlooks_onAsset (m : Act ReserveAsset α) : Act.Overlooks withReads (onAsset m) :=
  Act.Overlooks.within_aside m (fun _ _ => rfl) fun _ _ n => ⟨n, rfl⟩

theorem overlooks_snapshot : Act.Overlooks withReads snapshot := by
  refine Act.Overlooks.of_current (fun _ _ => rfl) ?_
  intro w
  cases w.pinned with
  | some rate => exact Act.Overlooks.pure rate
  | none =>
      apply (overlooks_onAsset _).bind
      intro rate
      refine Act.Overlooks.bind (Act.Overlooks.update fun _ n => ⟨n + 1, rfl⟩) ?_
      intro _
      exact (Act.Overlooks.refuse _).ite (Act.Overlooks.pure rate)

theorem overlooks_pinRate : Act.Overlooks withReads pinRate := by
  refine Act.Overlooks.of_current (fun _ _ => rfl) ?_
  intro w
  cases w.pinned with
  | some rate => exact Act.Overlooks.pure _
  | none =>
      apply overlooks_snapshot.bind
      intro rate
      refine Act.Overlooks.bind (Act.Overlooks.update fun _ n => ⟨n, rfl⟩) ?_
      intro _
      exact Act.Overlooks.pure _

theorem overlooks_withPinnedRate {m : Int → Act RebasingLedger α}
    (hm : ∀ rate, Act.Overlooks withReads (m rate)) :
    Act.Overlooks withReads (withPinnedRate m) := by
  apply overlooks_pinRate.bind
  intro p
  rcases p with ⟨rate, mine⟩
  exact ((hm rate).thenAlways fun _ n => ⟨n, rfl⟩).ite (hm rate)

theorem overlooks_scaledBalanceOf (holder : String) :
    Act.Overlooks withReads (scaledBalanceOf holder) := by
  apply overlooks_snapshot.bind
  intro rate
  exact Act.Overlooks.of_current (fun _ _ => rfl) fun _ => Act.Overlooks.refusable _

theorem overlooks_scaledTotalSupply : Act.Overlooks withReads scaledTotalSupply := by
  apply overlooks_snapshot.bind
  intro rate
  exact Act.Overlooks.of_current (fun _ _ => rfl) fun _ => Act.Overlooks.refusable _

theorem overlooks_balanceOf (holder : String) (index : Int) :
    Act.Overlooks withReads (balanceOf holder index) :=
  (overlooks_scaledBalanceOf holder).bind fun _ => Act.Overlooks.refusable _

theorem overlooks_totalSupply (index : Int) : Act.Overlooks withReads (totalSupply index) :=
  overlooks_scaledTotalSupply.bind fun _ => Act.Overlooks.refusable _

theorem overlooks_deposit (holder : String) (amount index : Int) :
    Act.Overlooks withReads (deposit holder amount index) := by
  apply (Act.Overlooks.refuse _).ite
  apply Act.Overlooks.bind
  · apply overlooks_withPinnedRate
    intro rate
    apply (Act.Overlooks.refusable _).bind
    intro scaled
    apply (Act.Overlooks.refuse _).ite
    apply (Act.Overlooks.refusable _).bind
    intro shares
    apply (Act.Overlooks.refuse _).ite
    refine Act.Overlooks.of_current (fun _ _ => rfl) ?_
    intro w
    exact (overlooks_onLedger _).bind fun _ => Act.Overlooks.pure _
  · intro p
    rcases p with ⟨first, shares, rate⟩
    exact (Act.Overlooks.note _).bind fun _ => Act.Overlooks.pure first

theorem overlooks_withdraw (holder : String) (amount index : Int) :
    Act.Overlooks withReads (withdraw holder amount index) := by
  apply Act.Overlooks.bind
  · apply overlooks_withPinnedRate
    intro rate
    refine Act.Overlooks.of_current (fun _ _ => rfl) ?_
    intro w
    apply (Act.Overlooks.refusable _).bind
    intro scaled
    apply (Act.Overlooks.refusable _).bind
    intro balance
    apply (Act.Overlooks.refuse _).ite
    apply (Act.Overlooks.refuse _).ite
    apply (Act.Overlooks.refusable _).bind
    intro quotient
    apply (Act.Overlooks.refusable _).bind
    intro shares
    apply (Act.Overlooks.refuse _).ite
    exact (overlooks_onLedger _).bind fun _ => Act.Overlooks.pure _
  · intro p
    rcases p with ⟨burned, shares, rate⟩
    exact (Act.Overlooks.note _).bind fun _ => Act.Overlooks.pure burned

theorem overlooks_transfer (sender recipient : String) (amount index : Int) :
    Act.Overlooks withReads (transfer sender recipient amount index) := by
  apply (Act.Overlooks.refuse _).ite
  apply overlooks_withPinnedRate
  intro rate
  refine Act.Overlooks.of_current (fun _ _ => rfl) ?_
  intro w
  apply (Act.Overlooks.refusable _).bind
  intro scaled
  apply (Act.Overlooks.refusable _).bind
  intro balance
  apply (Act.Overlooks.refuse _).ite
  apply (Act.Overlooks.refusable _).bind
  intro quotient
  apply (Act.Overlooks.refusable _).bind
  intro shares
  exact (overlooks_onLedger _).bind fun _ => Act.Overlooks.pure _

end RebasingLedger

namespace BalanceModel

variable {α : Type}

def withReads (n : Nat) : BalanceModel → BalanceModel
  | plain l => plain l
  | rebasing w => rebasing (w.withReads n)

theorem overlooks_dispatch {onPlain : Act ShareLedger α} {onRebasing : Act RebasingLedger α}
    (h : Act.Overlooks RebasingLedger.withReads onRebasing) :
    Act.Overlooks withReads (dispatch onPlain onRebasing) := by
  intro m n
  cases m with
  | plain l => exact ⟨n, rfl⟩
  | rebasing w =>
      rcases h w n with ⟨n', hrun⟩
      refine ⟨n', ?_⟩
      change ((Act.run onRebasing (w.withReads n)).1,
        rebasing (Act.run onRebasing (w.withReads n)).2) = _
      rw [hrun]
      rfl

theorem rewardBasisOf_withReads (n : Nat) (m : BalanceModel) :
    (m.withReads n).rewardBasisOf = m.rewardBasisOf := by
  cases m <;> rfl

theorem ledger_withReads (n : Nat) (m : BalanceModel) : (m.withReads n).ledger = m.ledger := by
  cases m <;> rfl

theorem isRebasing_withReads (n : Nat) (m : BalanceModel) :
    (m.withReads n).isRebasing = m.isRebasing := by
  cases m <;> rfl

theorem toDocument_withReads (n : Nat) (m : BalanceModel) :
    (m.withReads n).toDocument = m.toDocument := by
  cases m <;> rfl

theorem unpinned_withReads (n : Nat) (m : BalanceModel) :
    (m.withReads n).unpinned = m.unpinned.withReads n := by
  cases m <;> rfl

theorem withAsset_withReads (n : Nat) (m : BalanceModel) (a : ReserveAsset) :
    (m.withReads n).withAsset a = (m.withAsset a).withReads n := by
  cases m <;> rfl

end BalanceModel

end ReserveAccounting
