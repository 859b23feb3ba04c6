import ReserveAccounting.DepositToken
import ReserveAccounting.Proofs.BookChanges
import ReserveAccounting.Proofs.Checkpoints

/-!
# Changes of a token

A change of the books runs a pass of checkpoints first, with the balances from
before. If it is booked, the pass stays; if it is refused, the pass is taken
back; and a call that stops midway may leave as much of the pass as was done.
-/

namespace ReserveAccounting
namespace DepositToken

variable {s s' s'' : DepositToken} {α : Type} {accounts : List String}

/-!
# Rewards after a pass
-/

def passed (s : DepositToken) (accounts : List String) : Option RewardProgram :=
  s.rewards.map fun program =>
    { program with
      tracker := (Act.run (RewardTracker.checkpointHolders s.model.rewardBasisOf accounts)
        program.tracker).2 }

def Completes (s : DepositToken) (accounts : List String) : Prop :=
  ∀ program, s.rewards = some program → ∃ saved t',
    Act.run (RewardTracker.checkpointHolders s.model.rewardBasisOf accounts) program.tracker =
      (.ok saved, t')

def Passes (s : DepositToken) (accounts : List String) (rewards : Option RewardProgram) : Prop :=
  rewards = s.passed accounts ∧ s.Completes accounts

/-- A pass that went through, after which a refusal has put the saved states back. -/
def TakenBack (s : DepositToken) (accounts : List String) (rewards : Option RewardProgram) : Prop :=
  ∃ program saved t', s.rewards = some program ∧
    Act.run (RewardTracker.checkpointHolders s.model.rewardBasisOf accounts) program.tracker =
      (.ok saved, t') ∧
    rewards = some { program with tracker := t'.restore saved }

/-- What a call that fails may leave of the rewards. -/
def Abandons (s : DepositToken) (accounts : List String) (rewards : Option RewardProgram) : Prop :=
  rewards = s.rewards ∨ rewards = s.passed accounts ∨ s.TakenBack accounts rewards

theorem leaves_onRewards {m : Act RewardTracker α} {program : RewardProgram}
    (hprogram : s.rewards = some program)
    {answered : α → DepositToken → Prop} {failed : Fault → DepositToken → Prop} :
    (onRewards m).Leaves s answered failed ↔
      m.Leaves program.tracker
        (fun a t => answered a { s with rewards := some { program with tracker := t } })
        (fun e t => failed e { s with rewards := some { program with tracker := t } }) := by
  apply Act.leaves_embed
  unfold onRewards
  rw [hprogram]

theorem program_eq_ok {p : RewardProgram} : s.program = .ok p ↔ s.rewards = some p := by
  unfold DepositToken.program
  cases s.rewards with
  | none => exact ⟨nofun, nofun⟩
  | some q => rw [Except.ok.injEq, Option.some.injEq]

theorem exists_plain (hplain : s.isRebasing = false) : ∃ l, s.model = .plain l := by
  unfold isRebasing at hplain
  cases hmodel : s.model with
  | plain l => exact ⟨l, rfl⟩
  | rebasing w =>
      rw [hmodel] at hplain
      cases hplain

theorem run_onRewards (m : Act RewardTracker α) {program : RewardProgram}
    (hprogram : s.rewards = some program) :
    Act.run (onRewards m) s =
      ((Act.run m program.tracker).1,
        { s with rewards := some { program with tracker := (Act.run m program.tracker).2 } }) := by
  unfold Act.run onRewards
  dsimp only
  rw [hprogram]
  rfl

theorem run_onRewards_none (m : Act RewardTracker α) (hnone : s.rewards = none) :
    Act.run (onRewards m) s = (.error .notSupported, s) := by
  unfold Act.run onRewards
  rw [hnone]

theorem leaves_onRewards_none {m : Act RewardTracker α} (hnone : s.rewards = none)
    {answered : α → DepositToken → Prop} {failed : Fault → DepositToken → Prop} :
    (onRewards m).Leaves s answered failed ↔ failed .notSupported s := by
  unfold Act.Leaves Act.run onRewards
  rw [hnone]

theorem stable_onRewards_of {q : DepositToken → Prop} {m : Act RewardTracker α}
    (hrewards : ∀ s rewards, q s → q { s with rewards := rewards }) :
    Act.Stable q (onRewards m) := by
  constructor
  intro s hs
  cases hprogram : s.rewards with
  | none =>
      rw [run_onRewards_none m hprogram]
      exact hs
  | some program =>
      rw [run_onRewards m hprogram]
      exact hrewards s _ hs

theorem stable_checkpointHolders_of {q : DepositToken → Prop} {accounts : List String}
    (hrewards : ∀ s rewards, q s → q { s with rewards := rewards }) :
    Act.Stable q (checkpointHolders accounts) := by
  unfold checkpointHolders
  apply Act.Stable.bind Act.Stable.current
  intro s
  cases s.rewards with
  | none => exact Act.Stable.pure _
  | some program => exact stable_onRewards_of hrewards

theorem leaves_onModel {m : Act BalanceModel α}
    {answered : α → DepositToken → Prop} {failed : Fault → DepositToken → Prop} :
    (onModel m).Leaves s answered failed ↔
      m.Leaves s.model (fun a b => answered a { s with model := b })
        (fun e b => failed e { s with model := b }) :=
  Act.leaves_within

theorem leaves_onReserve {m : Act ReserveIndex α}
    {answered : α → DepositToken → Prop} {failed : Fault → DepositToken → Prop} :
    (onReserve m).Leaves s answered failed ↔
      m.Leaves s.reserve (fun a r => answered a { s with reserve := r })
        (fun e r => failed e { s with reserve := r }) :=
  Act.leaves_within

theorem leaves_checkpointHolders :
    (checkpointHolders accounts).Leaves s
      (fun saved s' => s' = { s with rewards := s.passed accounts } ∧
        ∀ program, s.rewards = some program →
          ∃ t', Act.run (RewardTracker.checkpointHolders s.model.rewardBasisOf accounts)
            program.tracker = (.ok saved, t'))
      (fun _ s' => s' = { s with rewards := s.passed accounts }) := by
  unfold checkpointHolders passed
  rw [Act.leaves_bind, Act.leaves_current]
  cases hrewards : s.rewards with
  | none =>
      dsimp only
      rw [Act.leaves_pure, Option.map_none, ← hrewards]
      refine ⟨rfl, ?_⟩
      intro program hprogram
      rw [hrewards] at hprogram
      cases hprogram
  | some program =>
      dsimp only
      rw [leaves_onRewards hrewards, Option.map_some]
      apply Act.leaves_of_run
      · intro saved t' hrun
        rw [hrun]
        refine ⟨rfl, ?_⟩
        intro program' hprogram'
        cases hprogram'
        exact ⟨t', hrun⟩
      · intro _ t' hrun
        rw [hrun]

/-!
# Changes at one rate
-/

def pins (s : DepositToken) : Bool :=
  match Act.run BalanceModel.pinRate s.model with
  | (.ok _, _) => true
  | (.error _, _) => false

structure Frame (s s' : DepositToken) : Prop where
  alike : s.model.Alike s'.model
  rest : s' = { s with model := s'.model, rewards := s'.rewards }

theorem leaves_withPinnedRate {m : Act DepositToken α}
    (answered : α → ShareLedger → Option RewardProgram → Prop)
    (failed : Fault → ShareLedger → Option RewardProgram → Prop)
    (hm : ∀ model, model.ledger = s.model.ledger → model.isRebasing = s.model.isRebasing →
      s.pins = true → m.Leaves { s with model := model }
        (fun a s' => Frame { s with model := model } s' ∧ answered a s'.model.ledger s'.rewards)
        (fun e s' => Frame { s with model := model } s' ∧ failed e s'.model.ledger s'.rewards))
    (hfail : ∀ e, failed e s.model.ledger s.rewards) :
    (withPinnedRate m).Leaves s
      (fun a s' => s.Frame s' ∧ answered a s'.model.ledger s'.rewards)
      (fun e s' => s.Frame s' ∧ failed e s'.model.ledger s'.rewards) := by
  unfold withPinnedRate
  rw [Act.leaves_bind, leaves_onModel]
  apply Act.leaves_of_run
  · intro mine model hrun
    have hpins : s.pins = true := by
      unfold pins
      rw [hrun]
    rcases BalanceModel.leaves_pinRate.of_ok hrun with ⟨hledger, hkind, hmine, hnotMine⟩
    have hcall := hm model hledger hkind hpins
    cases mine with
    | true =>
        rw [if_pos rfl, Act.leaves_thenAlways]
        have hframe : ∀ s', Frame { s with model := model } s' →
            s.Frame { s' with model := s'.model.unpinned } := by
          intro s' h
          constructor
          · constructor
            · change s'.model.unpinned.isRebasing = _
              rw [BalanceModel.isRebasing_unpinned, h.alike.left]
              exact hkind
            · change s'.model.unpinned.pinned? = _
              rw [BalanceModel.pinned?_unpinned, hmine rfl]
          · rw [h.rest]
        apply hcall.mono
        · intro a s' hleft
          rcases hleft with ⟨h, ha⟩
          refine ⟨hframe s' h, ?_⟩
          rw [← BalanceModel.ledger_unpinned] at ha
          exact ha
        · intro e s' hleft
          rcases hleft with ⟨h, he⟩
          refine ⟨hframe s' h, ?_⟩
          rw [← BalanceModel.ledger_unpinned] at he
          exact he
    | false =>
        rw [if_neg Bool.false_ne_true]
        have hframe : ∀ s', Frame { s with model := model } s' → s.Frame s' := by
          intro s' h
          constructor
          · exact ⟨h.alike.left.trans hkind, h.alike.right.trans (hnotMine rfl)⟩
          · exact h.rest
        apply hcall.mono
        · intro a s' hleft
          rcases hleft with ⟨h, ha⟩
          exact ⟨hframe s' h, ha⟩
        · intro e s' hleft
          rcases hleft with ⟨h, he⟩
          exact ⟨hframe s' h, he⟩
  · intro e model hrun
    rcases BalanceModel.leaves_pinRate.of_error hrun with ⟨hledger, halike⟩
    exact ⟨⟨halike, rfl⟩, hledger ▸ hfail e⟩

/--
A change of the books either is booked after its pass of checkpoints, or leaves
the shares alone; no pass is run before the rate is pinned.
-/
theorem leaves_applyChange {change : Act BalanceModel α} (booked : α → ShareLedger → Prop)
    (hchange : ∀ model : BalanceModel, model.ledger = s.model.ledger →
      model.isRebasing = s.model.isRebasing → change.Leaves model
        (fun a model' => booked a model'.ledger ∧ model.Alike model')
        (fun _ model' => model'.ledger = model.ledger ∧ model.Alike model')) :
    (applyChange accounts change).Leaves s
      (fun a s' => s.Frame s' ∧ booked a s'.model.ledger ∧ s.Passes accounts s'.rewards ∧
        s.pins = true)
      (fun _ s' => s.Frame s' ∧ s'.model.ledger = s.model.ledger ∧
        (s'.rewards = s.rewards ∨ s.pins = true ∧ s.Abandons accounts s'.rewards)) := by
  unfold applyChange
  apply leaves_withPinnedRate
    (fun a l rewards => booked a l ∧ s.Passes accounts rewards ∧ s.pins = true)
    (fun _ l rewards => l = s.model.ledger ∧
      (rewards = s.rewards ∨ s.pins = true ∧ s.Abandons accounts rewards))
  · intro model hledger hkind hpins
    have hbasis : model.rewardBasisOf = s.model.rewardBasisOf := by
      unfold BalanceModel.rewardBasisOf
      rw [hledger]
    have hpassed : passed { s with model := model } accounts = s.passed accounts := by
      unfold passed
      rw [hbasis]
    rw [Act.leaves_bind]
    apply leaves_checkpointHolders.mono
    · intro saved s₁ h
      rcases h with ⟨rfl, hsaved⟩
      rw [hpassed, Act.leaves_onRefusal, leaves_onModel]
      apply (hchange model hledger hkind).mono
      · intro a model' h
        rcases h with ⟨hbooked, halike⟩
        refine ⟨⟨halike, rfl⟩, hbooked, ⟨rfl, ?_⟩, hpins⟩
        intro program hprogram
        rcases hsaved program hprogram with ⟨t', hrun⟩
        rw [hbasis] at hrun
        exact ⟨saved, t', hrun⟩
      · intro e model' h
        rcases h with ⟨hsame, halike⟩
        cases e with
        | refused r =>
            refine ⟨⟨halike, rfl⟩, hsame.trans hledger, ?_⟩
            cases hrewards : s.rewards with
            | none =>
                left
                unfold withRestored passed
                rw [hrewards]
                rfl
            | some program =>
                rcases hsaved program hrewards with ⟨t', hrun⟩
                rw [hbasis] at hrun
                refine Or.inr ⟨hpins, Or.inr (Or.inr ⟨program, saved, t', hrewards, hrun, ?_⟩)⟩
                unfold withRestored passed
                rw [hrewards, Option.map_some, hrun, Option.map_some]
        | _ => exact ⟨⟨halike, rfl⟩, hsame.trans hledger, Or.inr ⟨hpins, Or.inr (Or.inl rfl)⟩⟩
    · intro e s₁ heq
      rcases heq with rfl
      rw [hpassed]
      exact ⟨⟨⟨rfl, rfl⟩, rfl⟩, hledger, Or.inr ⟨hpins, Or.inr (Or.inl rfl)⟩⟩
  · intro e
    exact ⟨rfl, Or.inl rfl⟩

end DepositToken
end ReserveAccounting
