import ReserveAccounting.Proofs.LiveAsset

/-!
# Burned amounts

A burn that answers has burned something: balances of nothing are refused. The
property is one of the answer alone, so it is put together from the calls that
the burn is made of, whatever they do to the books.
-/

namespace ReserveAccounting

namespace Act

variable {σ τ α β : Type} {p : α → Prop} {q : β → Prop} {m : Act σ α}

/-- What a call answers, if it answers, has a property. -/
def Answers (p : α → Prop) (m : Act σ α) : Prop :=
  ∀ s, m.Leaves s (fun a _ => p a) (fun _ _ => True)

theorem answers_pure {a : α} (ha : p a) : Answers p (pure a : Act σ α) := fun _ => ha

theorem answers_refuse (r : Refusal) : Answers p (refuse r : Act σ α) := fun _ => trivial

theorem Answers.bind_of {n : Act σ β} {f : β → Act σ α} (hn : Answers q n)
    (hf : ∀ b, q b → Answers p (f b)) : Answers p (n >>= f) := by
  intro s
  rw [leaves_bind]
  exact (hn s).mono (fun b s' hb => hf b hb s') (fun _ _ h => h)

theorem answers_bind {n : Act σ β} {f : β → Act σ α} (hf : ∀ b, Answers p (f b)) :
    Answers p (n >>= f) := by
  intro s
  rw [leaves_bind]
  exact leaves_of_run (fun b s' _ => hf b s') (fun _ _ _ => trivial)

theorem answers_ite {c : Prop} [Decidable c] {n : Act σ α} (hm : c → Answers p m)
    (hn : ¬ c → Answers p n) : Answers p (if c then m else n) := by
  split
  · next h => exact hm h
  · next h => exact hn h

theorem Answers.within {part : σ → τ} {put : τ → σ → σ} {m : Act τ α} (hm : Answers p m) :
    Answers p (Act.within part put m) := by
  intro s
  rw [leaves_within]
  exact (hm (part s)).mono (fun _ _ h => h) (fun _ _ h => h)

theorem Answers.thenAlways (hm : Answers p m) (last : σ → σ) : Answers p (m.thenAlways last) := by
  intro s
  rw [leaves_thenAlways]
  exact (hm s).mono (fun _ _ h => h) (fun _ _ h => h)

theorem Answers.onRefusal (hm : Answers p m) (undo : σ → σ) : Answers p (m.onRefusal undo) := by
  intro s
  rw [leaves_onRefusal]
  apply (hm s).mono (fun _ _ h => h)
  intro e _ _
  cases e <;> trivial

end Act

/-!
# What a burn answers
-/

theorem ShareLedger.answers_burn_pos {holder : String} {amount index : Int} :
    Act.Answers (fun burned : Int => 0 < burned) (burn holder amount index) := by
  unfold burn
  apply Act.answers_bind
  intro l
  apply Act.answers_bind
  intro balance
  dsimp only
  refine Act.answers_ite (fun _ => Act.answers_refuse _) fun hpositive => ?_
  refine Act.answers_ite (fun _ => Act.answers_refuse _) fun _ => ?_
  apply Act.answers_bind
  intro delta
  refine Act.answers_ite (fun _ => Act.answers_refuse _) fun _ => ?_
  apply Act.answers_bind
  intro _
  exact Act.answers_pure (not_le.mp hpositive)

theorem RebasingLedger.answers_withPinnedRate {α : Type} {p : α → Prop}
    {m : Int → Act RebasingLedger α} (hm : ∀ rate, Act.Answers p (m rate)) :
    Act.Answers p (withPinnedRate m) := by
  unfold withPinnedRate
  apply Act.answers_bind
  intro pin
  exact Act.answers_ite (fun _ => (hm _).thenAlways _) fun _ => hm _

theorem RebasingLedger.answers_withdraw_pos {holder : String} {amount index : Int} :
    Act.Answers (fun burned : Int => 0 < burned) (withdraw holder amount index) := by
  unfold withdraw
  apply (RebasingLedger.answers_withPinnedRate (p := fun t : Int × Int × Int => 0 < t.1) ?_).bind_of
  · intro t ht
    apply Act.answers_bind
    intro _
    exact Act.answers_pure ht
  · intro rate
    apply Act.answers_bind
    intro w
    dsimp only
    apply Act.answers_bind
    intro scaled
    apply Act.answers_bind
    intro balance
    refine Act.answers_ite (fun _ => Act.answers_refuse _) fun hpositive => ?_
    refine Act.answers_ite (fun _ => Act.answers_refuse _) fun _ => ?_
    apply Act.answers_bind
    intro quotient
    apply Act.answers_bind
    intro shares
    refine Act.answers_ite (fun _ => Act.answers_refuse _) fun _ => ?_
    apply Act.answers_bind
    intro _
    exact Act.answers_pure (not_le.mp hpositive)

theorem BalanceModel.answers_burn_pos {holder : String} {amount index : Int} :
    Act.Answers (fun burned : Int => 0 < burned) (burn holder amount index) := by
  intro m
  unfold burn
  cases m with
  | plain l =>
      rw [leaves_dispatch_plain]
      exact (ShareLedger.answers_burn_pos l).mono (fun _ _ h => h) (fun _ _ h => h)
  | rebasing w =>
      rw [leaves_dispatch_rebasing]
      exact (RebasingLedger.answers_withdraw_pos w).mono (fun _ _ h => h) (fun _ _ h => h)

theorem DepositToken.answers_applyChange_of {α : Type} {p : α → Prop} {accounts : List String}
    {change : Act BalanceModel α} (hchange : Act.Answers p change) :
    Act.Answers p (applyChange accounts change) := by
  have hbooked : Act.Answers p (do
      let saved ← checkpointHolders accounts
      (onModel change).onRefusal (withRestored saved) : Act DepositToken α) := by
    apply Act.answers_bind
    intro saved
    exact hchange.within.onRefusal _
  unfold applyChange withPinnedRate
  apply Act.answers_bind
  intro mine
  exact Act.answers_ite (fun _ => hbooked.thenAlways _) fun _ => hbooked

theorem DepositToken.answers_burn_pos {caller holder receiver : String} {amount index : Int} :
    Act.Answers (fun burned : Int => 0 < burned) (burn caller holder receiver amount index) := by
  unfold burn
  apply Act.answers_bind
  intro _
  dsimp only
  apply Act.answers_bind
  intro t
  apply Act.answers_bind
  intro _
  apply (answers_applyChange_of BalanceModel.answers_burn_pos).bind_of
  intro burned hburned
  repeat
    apply Act.answers_bind
    intro _
  exact Act.answers_pure hburned

end ReserveAccounting
