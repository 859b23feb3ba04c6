import ReserveAccounting.Proofs.RestoredTokens
import ReserveAccounting.Proofs.VaultPayoutRuns
import ReserveAccounting.Proofs.VaultWalks

/-!
# Restored vaults

Whatever was done with a vault, the books that are read back from its snapshot
have lost their events and nothing else. From then on the vault does and tells
the same, as a restored token does.
-/

namespace ReserveAccounting

open FixedPoint

namespace StaticVault

variable {v : StaticVault}

/-!
# Vaults between two steps
-/

structure WellKept (v : StaticVault) : Prop where
  books : v.books.Legible
  units : v.books.balances.Sound

theorem stable_checkpointed {change : Act StaticVault Unit} {basisOf : String → Int}
    {accounts : List String} (hsmall : ∀ x ∈ accounts, Text.lower x = x)
    (hrewards : LeavesRewards change) (hchange : Act.Stable WellKept change) :
    Act.Stable WellKept (do
      let saved ← onRewards (RewardTracker.checkpointHolders basisOf accounts)
      change.onRefusal (withRestored saved)) := by
  apply Act.Stable.of_leaves
  intro v hv
  have hbooks := hv.books
  have hwritten : ∀ t : RewardTracker, t.Sound →
      WellKept { v with books := { v.books with rewards := t } } := fun t ht =>
    ⟨⟨hbooks.address, hbooks.placed, hbooks.name, hbooks.symbol, hbooks.shares, ht, hbooks.strays⟩,
      hv.units⟩
  rw [Act.leaves_bind, leaves_onRewards]
  apply (RewardTracker.settles_checkpointHolders hbooks.rewards hsmall).mono
  · intro saved t h
    rcases h with ⟨hsaves, hsettles, _⟩
    rw [Act.leaves_onRefusal]
    apply ((hchange.and (hrewards t)).leaves ⟨hwritten t hsettles.sound, rfl⟩).mono
    · intro _ v' h
      exact h.left
    · intro e v' h
      cases e with
      | refused r =>
          have hkept := h.left.books
          have hback : (v'.books.rewards.restore saved).Sound := by
            rw [h.right, hsaves.restore_eq hbooks.rewards hsettles.differs]
            exact hbooks.rewards
          exact ⟨⟨hkept.address, hkept.placed, hkept.name, hkept.symbol, hkept.shares, hback,
            hkept.strays⟩, h.left.units⟩
      | _ => exact h.left
  · intro _ t hsettles
    exact hwritten t hsettles.sound

theorem walk_wellKept : Walk fun m => Act.Stable WellKept m where
  pure := Act.Stable.pure
  refuse := Act.Stable.refuse
  faulty := Act.Stable.faulty
  refusable := Act.Stable.refusable
  note := Act.Stable.note
  bind := Act.Stable.bind
  current _ hf := Act.Stable.current.bind hf
  emit _ _ _ _ := Act.Stable.update fun _ h => ⟨h.books.withEvents _, h.units⟩
  token _ := Act.Stable.within_aside fun _ _ h => ⟨h.books, h.units⟩
  units hm := Act.Stable.within (fun _ h => h.units) (fun _ l h hl => ⟨⟨h.books.address,
    h.books.placed, h.books.name, h.books.symbol, hl.small, h.books.rewards, h.books.strays⟩, hl⟩) hm
  rewards hm := Act.Stable.within (fun _ h => h.books.rewards) (fun _ t h ht => ⟨⟨h.books.address,
    h.books.placed, h.books.name, h.books.symbol, h.books.shares, ht, h.books.strays⟩, h.units⟩) hm
  held token delta := by
    apply Act.Stable.of_current
    intro v h
    apply (Act.Stable.faulty _).bind
    intro held
    have hstrays : v.books.strayBalances.without (· = token) = [] := by
      rw [h.books.strays, Strays.without_nil]
    exact ⟨fun _ _ => ⟨⟨h.books.address, h.books.placed, h.books.name, h.books.symbol,
      h.books.shares, h.books.rewards, hstrays⟩, h.units⟩⟩
  checkpointed _ _ hsmall hrewards hchange := stable_checkpointed hsmall hrewards hchange

end StaticVault

/-!
# Vaults that can be reached
-/

/-- A vault after it was opened on any token, and any steps and restorations onto any token. -/
inductive VaultStep.Reachable : StaticVault → Prop where
  | opened {token : DepositToken} {books opened : VaultBooks} (hbooks : VaultCall.IsUnused books)
      (hopen : StaticVault.open? token books = .ok opened) : Reachable ⟨token, opened⟩
  | after {v : StaticVault} (hv : Reachable v) (step : VaultStep) :
      Reachable (Act.run step.answer v).2
  | restored {v : StaticVault} {token : DepositToken} {books : VaultBooks} (hv : Reachable v)
      (hread : VaultBooks.ofDocument v.books.toDocument token = .ok books) :
      Reachable ⟨token, books⟩

namespace StaticVault

variable {v : StaticVault}

theorem isGiven_append {s : String} (hs : s ≠ "") (t : String) :
    (Document.text (s ++ t)).isGiven = true := by
  simp [Document.isGiven, hs]

theorem wellKept_opened {token : DepositToken} {books opened : VaultBooks}
    (hbooks : VaultCall.IsUnused books) (hopen : open? token books = .ok opened) :
    WellKept ⟨token, opened⟩ := by
  unfold open? at hopen
  dsimp only at hopen
  split at hopen
  · cases hopen
  · next hplaced =>
      cases hopen
      refine ⟨⟨Text.lower_lower _, hplaced, ?_, ?_, ?_, ?_, hbooks.strayBalances⟩, ?_⟩
      · dsimp only
        split
        · next h => exact h
        · exact isGiven_append (by decide) _
      · dsimp only
        split
        · next h => exact h
        · exact isGiven_append (by decide) _
      · dsimp only
        rw [hbooks.units]
        exact ShareLedger.sound_empty.small
      · dsimp only
        rw [hbooks.rewards]
        exact RewardTracker.sound_empty _
      · dsimp only
        rw [hbooks.units]
        exact ShareLedger.sound_empty

theorem wellKept_of_reachable (hv : VaultStep.Reachable v) : v.WellKept := by
  induction hv with
  | opened hbooks hopen => exact wellKept_opened hbooks hopen
  | after _ step ih => exact (walk_wellKept.step step).after _ ih
  | @restored v token books _ hread ih =>
      rw [VaultBooks.ofDocument_toDocument ih.books token] at hread
      cases hread
      exact ⟨ih.books.withEvents [], ih.units⟩

end StaticVault

/--
Restoring a snapshot is transparent. A token is read back from its snapshot as
one that answers all further calls and views alike, and tells the same after
each of them, whatever came of it; so is a vault, onto the token that it wraps.
-/
theorem snapshots_transparent {s : DepositToken} {v : StaticVault} (hs : TokenStep.Reachable s)
    (hv : VaultStep.Reachable v) :
    (∃ s', DepositToken.ofDocument s.rewards.isSome s.toDocument s.model.asset? = .ok s' ∧
      ∀ steps : List TokenStep, List.Forall₂
        (fun x y => x.1 = y.1 ∧ x.2.toDocument = y.2.toDocument ∧ x.2.holders = y.2.holders)
        (Act.trace TokenStep.answer steps s) (Act.trace TokenStep.answer steps s')) ∧
    ∃ books, VaultBooks.ofDocument v.books.toDocument v.token = .ok books ∧
      ∀ steps : List VaultStep, List.Forall₂
        (fun x y => x.1 = y.1 ∧ x.2.token = y.2.token ∧
          x.2.books.toDocument = y.2.books.toDocument ∧ x.2.holders = y.2.holders)
        (Act.trace VaultStep.answer steps v)
        (Act.trace VaultStep.answer steps { v with books := books }) := by
  refine ⟨DepositToken.restored_alike hs, _, VaultBooks.ofDocument_toDocument
    (StaticVault.wellKept_of_reachable hv).books v.token, fun steps => ?_⟩
  apply (Act.Overlooks.forall₂_trace StaticVault.walk_overlooks.step steps v []).imp
  rintro ⟨answer, v₁⟩ ⟨answer', v₂⟩ ⟨hanswer, events, rfl⟩
  exact ⟨hanswer, rfl, rfl, rfl⟩

/-- A token over a rebasing asset with a reward to be claimed, and a vault that has claimed it. -/
theorem snapshots_transparent_collected_reward :
    let start : DepositToken :=
      .atOne (.rebasing (.fresh (.feed ⟨"stETH", fun _ => ray, 0⟩))) (some (.empty 0))
    let s := [TokenStep.call (.mint "pool" "Alice" 100 ray), .call (.registerRewardToken "rwd"),
      .call (.distributeRewards "rwd" 10), .view (.balanceOf "alice")].foldl
        (fun s step => (Act.run step.answer s).2) start
    let v := [VaultStep.call (.deposit "alice" "alice" 60 false),
      .token (.call (.distributeRewards "rwd" 10)), .call (.claimRewards "alice" "rwd" true)].foldl
        (fun v step => (Act.run step.answer v).2) ⟨s, VaultBooks.unused "vault"⟩
    TokenStep.Reachable s ∧ VaultStep.Reachable v ∧ s.events.length = 2 ∧
      v.books.events.length = 2 ∧
      (∃ s', DepositToken.ofDocument s.rewards.isSome s.toDocument s.model.asset? = .ok s' ∧
        ∀ steps : List TokenStep, List.Forall₂
          (fun x y => x.1 = y.1 ∧ x.2.toDocument = y.2.toDocument ∧ x.2.holders = y.2.holders)
          (Act.trace TokenStep.answer steps s) (Act.trace TokenStep.answer steps s')) ∧
      ∃ books, VaultBooks.ofDocument v.books.toDocument v.token = .ok books ∧
        ∀ steps : List VaultStep, List.Forall₂
          (fun x y => x.1 = y.1 ∧ x.2.token = y.2.token ∧
            x.2.books.toDocument = y.2.books.toDocument ∧ x.2.holders = y.2.holders)
          (Act.trace VaultStep.answer steps v)
          (Act.trace VaultStep.answer steps { v with books := books }) := by
  intro start s v
  have hpool : Text.lower "pool" = "pool" := by decide +kernel
  have htreasury : Text.lower defaultTreasury = defaultTreasury := by decide +kernel
  have hmake : start.make = .ok start := by
    change Except.ok { start with pool := Text.lower "pool", treasury := Text.lower defaultTreasury } = _
    rw [hpool, htreasury]
    rfl
  have hunused : start.IsUnused := ⟨rfl, rfl, by decide, fun _ hp => by cases hp; exact ⟨rfl, rfl⟩⟩
  have hs : TokenStep.Reachable s := ((((TokenStep.Reachable.made hunused hmake).after _).after
    _).after _).after _
  have hopen : StaticVault.open? s (VaultBooks.unused "vault") = .ok (VaultBooks.unused "vault") :=
    VaultBooks.open?_unused (by decide +kernel) (by decide)
  have hv : VaultStep.Reachable v := (((VaultStep.Reachable.opened ⟨rfl, rfl, rfl, rfl⟩ hopen).after
    _).after _).after _
  exact ⟨hs, hv, by decide +kernel, by decide +kernel, snapshots_transparent hs hv⟩

end ReserveAccounting
