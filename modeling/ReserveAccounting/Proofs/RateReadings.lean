import ReserveAccounting.Proofs.ParRates

/-!
# Readings of a rate

The books of a rebasing asset read its rate through a source: the asset, the
rate that is pinned, and the count of the rates read. A call takes so many rates
if the first readings settle how it ends: what it answers and leaves is the same
for every asset that gives them, and the source has moved on by the readings
made. With a rate pinned, the calls of the books take none, and without one they
take one.
-/

namespace ReserveAccounting

/-!
# Readings of an asset
-/

namespace ReserveAsset

def rateAt (i : Nat) (a : ReserveAsset) : Except Fault Int :=
  (Act.run exchangeRate (a.afterReadings i)).1

theorem afterReadings_add (a : ReserveAsset) (i k : Nat) :
    (a.afterReadings k).afterReadings i = a.afterReadings (i + k) := by
  unfold afterReadings
  exact (Function.iterate_add_apply _ i k a).symm

theorem rateAt_afterReadings (a : ReserveAsset) (i k : Nat) :
    (a.afterReadings k).rateAt i = a.rateAt (i + k) := by
  unfold rateAt
  rw [afterReadings_add]

theorem symbol_after_reading (a : ReserveAsset) :
    (Act.run exchangeRate a).2.symbol = a.symbol := by
  cases a with
  | pool p =>
      unfold Act.run exchangeRate
      dsimp only
      cases p.exchangeRate <;> rfl
  | feed f => rfl

theorem symbol_afterReadings (a : ReserveAsset) (n : Nat) :
    (a.afterReadings n).symbol = a.symbol := by
  induction n with
  | zero => rfl
  | succ n ih =>
      unfold afterReadings at ih ⊢
      rw [Function.iterate_succ_apply', symbol_after_reading, ih]

theorem run_exchangeRate_of_rateAt {a : ReserveAsset} {r : Int} (h : a.rateAt 0 = .ok r) :
    Act.run exchangeRate a = (.ok r, a.afterReadings 1) :=
  Prod.ext h rfl

theorem afterReadings_feed (f : RateFeed) (n : Nat) :
    (feed f).afterReadings n = feed { f with reads := f.reads + n } := by
  induction n with
  | zero => rfl
  | succ n ih =>
      unfold afterReadings at ih ⊢
      rw [Function.iterate_succ_apply', ih]
      rfl

theorem rateAt_feed (f : RateFeed) (i : Nat) : (feed f).rateAt i = .ok (f.rates (f.reads + i)) := by
  unfold rateAt
  rw [afterReadings_feed]
  rfl

end ReserveAsset

structure RateSource where
  asset : ReserveAsset
  pinned : Option Int
  reads : Nat
deriving Inhabited

namespace RateSource

def after (n : Nat) (q : RateSource) : RateSource :=
  { q with asset := q.asset.afterReadings n, reads := q.reads + n }

/-- Whether the asset goes by a symbol and gives certain rates at the next readings. -/
def Gives (symbol : String) (rates : Nat → Int) (limit : Nat) (q : RateSource) : Prop :=
  q.asset.symbol = symbol ∧ ∀ i < limit, q.asset.rateAt i = .ok (rates i)

variable {q : RateSource} {symbol : String} {rates : Nat → Int}

theorem after_add (q : RateSource) (i k : Nat) : (q.after k).after i = q.after (k + i) := by
  unfold after
  dsimp only
  rw [ReserveAsset.afterReadings_add, Nat.add_comm i k, Nat.add_assoc]

theorem Gives.mono {limit limit' : Nat} (h : q.Gives symbol rates limit') (hle : limit ≤ limit') :
    q.Gives symbol rates limit :=
  ⟨h.left, fun i hi => h.right i (hi.trans_le hle)⟩

theorem Gives.after {k limit : Nat} (h : q.Gives symbol rates (k + limit)) :
    (q.after k).Gives symbol (fun i => rates (i + k)) limit := by
  constructor
  · exact (ReserveAsset.symbol_afterReadings _ _).trans h.left
  · intro i hi
    exact (ReserveAsset.rateAt_afterReadings _ _ _).trans (h.right (i + k) (by omega))

def perCall : Option Int → Nat
  | none => 1
  | some _ => 0

end RateSource

def checkedRate (symbol : String) (rate : Int) : Except Fault Int :=
  if rate ≤ 0 then .error (.ofRefusal (.rateNotPositive symbol rate)) else .ok rate

theorem checkedRate_eq_ok {symbol : String} {rate r : Int} (h : checkedRate symbol rate = .ok r) :
    r = rate := by
  unfold checkedRate at h
  split at h
  · cases h
  · cases h
    rfl

/-!
# Calls that take so many rates
-/

namespace Act

variable {σ τ ρ π α β : Type}

/-- The first readings of a source with this pin settle how a call ends, and no more are made. -/
def TakesRates (put : RateSource → ρ → σ) (pinned : Option Int) (limit : Nat) (m : Act σ α) : Prop :=
  ∀ (r : ρ) (symbol : String) (rates : Nat → Int), ∃ k ≤ limit, ∃ outcome r',
    ∀ q : RateSource, q.pinned = pinned → q.Gives symbol rates limit →
      run m (put q r) = (outcome, put (q.after k) r')

namespace TakesRates

variable {put : RateSource → ρ → σ} {put' : RateSource → π → τ} {pinned : Option Int}
  {limit limit' : Nat} {m n : Act σ α}

theorem mono (h : TakesRates put pinned limit m) (hle : limit ≤ limit') :
    TakesRates put pinned limit' m := by
  intro r symbol rates
  rcases h r symbol rates with ⟨k, hk, outcome, r', hrun⟩
  exact ⟨k, hk.trans hle, outcome, r', fun q hpinned hgives => hrun q hpinned (hgives.mono hle)⟩

theorem of_blind (h : ∀ r, ∃ outcome r', ∀ q, run m (put q r) = (outcome, put q r')) :
    TakesRates put pinned 0 m := by
  intro r symbol rates
  rcases h r with ⟨outcome, r', hrun⟩
  exact ⟨0, Nat.le_refl 0, outcome, r', fun q _ _ => hrun q⟩

theorem pure (a : α) : TakesRates put pinned 0 (pure a : Act σ α) :=
  of_blind fun r => ⟨.ok a, r, fun _ => rfl⟩

theorem refuse (e : Refusal) : TakesRates put pinned 0 (refuse e : Act σ α) :=
  of_blind fun r => ⟨.error (.ofRefusal e), r, fun _ => rfl⟩

theorem note (e : Record) : TakesRates put pinned 0 (note e : Act σ Unit) :=
  of_blind fun r => ⟨.ok (), r, fun _ => rfl⟩

theorem faulty (x : Except Fault α) : TakesRates put pinned 0 (liftM x : Act σ α) := by
  cases x <;> exact of_blind fun r => ⟨_, r, fun _ => rfl⟩

theorem refusable (x : Except Refusal α) : TakesRates put pinned 0 (liftM x : Act σ α) := by
  cases x <;> exact of_blind fun r => ⟨_, r, fun _ => rfl⟩

theorem update {f : σ → σ} (h : ∀ r, ∃ r', ∀ q, f (put q r) = put q r') :
    TakesRates put pinned 0 (update f) := by
  apply of_blind
  intro r
  rcases h r with ⟨r', hf⟩
  exact ⟨.ok (), r', fun q => congrArg (Prod.mk _) (hf q)⟩

theorem bind {f : α → Act σ β} (hm : TakesRates put pinned limit m)
    (hf : ∀ a, TakesRates put pinned limit' (f a)) :
    TakesRates put pinned (limit + limit') (m >>= f) := by
  intro r symbol rates
  rcases hm r symbol rates with ⟨k, hk, outcome, r', hrun⟩
  cases outcome with
  | error e =>
      refine ⟨k, hk.trans (Nat.le_add_right _ _), .error e, r', ?_⟩
      intro q hpinned hgives
      exact run_bind_error (hrun q hpinned (hgives.mono (Nat.le_add_right _ _)))
  | ok a =>
      rcases hf a r' symbol (fun i => rates (i + k)) with ⟨k', hk', outcome', r'', hrun'⟩
      refine ⟨k + k', Nat.add_le_add hk hk', outcome', r'', ?_⟩
      intro q hpinned hgives
      rw [run_bind_ok (hrun q hpinned (hgives.mono (Nat.le_add_right _ _))), ← q.after_add]
      exact hrun' (q.after k) hpinned (hgives.mono (Nat.add_le_add_right hk limit')).after

theorem bind_quiet {f : α → Act σ β} (hm : TakesRates put pinned 0 m)
    (hf : ∀ a, TakesRates put pinned limit (f a)) : TakesRates put pinned limit (m >>= f) := by
  have hbind := hm.bind hf
  rwa [Nat.zero_add] at hbind

theorem then_quiet {f : α → Act σ β} (hm : TakesRates put pinned limit m)
    (hf : ∀ a, TakesRates put pinned 0 (f a)) : TakesRates put pinned limit (m >>= f) :=
  hm.bind hf

theorem of_refuse (e : Refusal) : TakesRates put pinned limit (Act.refuse e : Act σ α) :=
  (refuse e).mono (Nat.zero_le _)

theorem of_current {f : σ → Act σ β} (hf : ∀ q q' r, f (put q r) = f (put q' r))
    (h : ∀ q r, TakesRates put pinned limit (f (put q r))) :
    TakesRates put pinned limit (current >>= f) := by
  intro r symbol rates
  rcases h default r r symbol rates with ⟨k, hk, outcome, r', hrun⟩
  refine ⟨k, hk, outcome, r', ?_⟩
  intro q hpinned hgives
  rw [run_bind_ok (run_current _), hf q default]
  exact hrun q hpinned hgives

theorem ite {c : Prop} [Decidable c] (hm : TakesRates put pinned limit m)
    (hn : TakesRates put pinned limit n) : TakesRates put pinned limit (if c then m else n) := by
  split
  · exact hm
  · exact hn

theorem within {part : σ → τ} {set : τ → σ → σ} {m : Act τ α} (rest : ρ → π) (fill : π → ρ → ρ)
    (hpart : ∀ q r, part (put q r) = put' q (rest r))
    (hset : ∀ q q' p r, set (put' q' p) (put q r) = put q' (fill p r))
    (hm : TakesRates put' pinned limit m) : TakesRates put pinned limit (within part set m) := by
  intro r symbol rates
  rcases hm (rest r) symbol rates with ⟨k, hk, outcome, p, hrun⟩
  refine ⟨k, hk, outcome, fill p r, ?_⟩
  intro q hpinned hgives
  rw [run_within, hpart, hrun q hpinned hgives]
  exact congrArg (Prod.mk _) (hset q (q.after k) p r)

theorem within_aside {part : σ → τ} {set : τ → σ → σ} (fill : τ → ρ → ρ) (m : Act τ α)
    (hpart : ∀ q q' r, part (put q r) = part (put q' r))
    (hset : ∀ q t r, set t (put q r) = put q (fill t r)) :
    TakesRates put pinned 0 (Act.within part set m) := by
  apply of_blind
  intro r
  refine ⟨(run m (part (put default r))).1, fill (run m (part (put default r))).2 r, ?_⟩
  intro q
  rw [run_within, hpart q default, hset]

theorem onRefusal {undo : σ → σ} (hm : TakesRates put pinned limit m)
    (hundo : ∀ r, ∃ r', ∀ q, undo (put q r) = put q r') :
    TakesRates put pinned limit (m.onRefusal undo) := by
  intro r symbol rates
  rcases hm r symbol rates with ⟨k, hk, outcome, r', hrun⟩
  rcases hundo r' with ⟨r'', hundone⟩
  -- only a refusal runs the change
  by_cases hrefused : ∃ reason, outcome = .error (.refused reason)
  · rcases hrefused with ⟨reason, rfl⟩
    refine ⟨k, hk, .error (.refused reason), r'', fun q hpinned hgives => ?_⟩
    rw [run_onRefusal, hrun q hpinned hgives]
    exact congrArg (Prod.mk _) (hundone _)
  · refine ⟨k, hk, outcome, r', fun q hpinned hgives => ?_⟩
    rw [run_onRefusal, hrun q hpinned hgives]
    cases outcome with
    | ok a => rfl
    | error e =>
        cases e with
        | refused reason => exact absurd ⟨reason, rfl⟩ hrefused
        | _ => rfl

theorem mapEach {f : β → Act σ α} (hf : ∀ b, TakesRates put pinned 0 (f b)) (items : List β) :
    TakesRates put pinned 0 (Act.mapEach f items) := by
  induction items with
  | nil => exact pure []
  | cons b rest ih => exact (hf b).bind_quiet fun a => ih.bind_quiet fun as => pure (a :: as)

end TakesRates

/-- A call that runs another at one rate: the pinned one, or one that it reads, pins and unpins. -/
structure PinsRate (put : RateSource → ρ → σ) (unpin : σ → σ) (m : Int → Act σ α) (n : Act σ α) :
    Prop where
  kept : ∀ q r rate, q.pinned = some rate → run n (put q r) = run (m rate) (put q r)
  refused : ∀ q r rate e, q.pinned = none → q.asset.rateAt 0 = .ok rate →
    checkedRate q.asset.symbol rate = .error e → run n (put q r) = (.error e, put (q.after 1) r)
  read : ∀ q r rate, q.pinned = none → q.asset.rateAt 0 = .ok rate →
    checkedRate q.asset.symbol rate = .ok rate →
    run n (put q r) =
      run ((m rate).thenAlways unpin) (put { q.after 1 with pinned := some rate } r)
  unpins : ∀ q r, unpin (put q r) = put { q with pinned := none } r

theorem PinsRate.takesRates {put : RateSource → ρ → σ} {unpin : σ → σ} {m : Int → Act σ α}
    {n : Act σ α} {pinned : Option Int} (h : PinsRate put unpin m n)
    (hm : ∀ rate, TakesRates put (some rate) 0 (m rate)) :
    TakesRates put pinned (RateSource.perCall pinned) n := by
  intro r symbol rates
  cases pinned with
  | some rate =>
      rcases hm rate r symbol rates with ⟨k, hk, outcome, r', hrun⟩
      refine ⟨k, hk, outcome, r', fun q hpinned hgives => ?_⟩
      rw [h.kept q r rate hpinned]
      exact hrun q hpinned hgives
  | none =>
      rcases hm (rates 0) r symbol rates with ⟨k, hk, outcome, r', hrun⟩
      cases Nat.le_zero.mp hk
      cases hchecked : checkedRate symbol (rates 0) with
      | error e =>
          refine ⟨1, Nat.le_refl 1, .error e, r, fun q hpinned hgives => ?_⟩
          rw [← hgives.left] at hchecked
          exact h.refused q r (rates 0) e hpinned (hgives.right 0 Nat.one_pos) hchecked
      | ok rate =>
          cases checkedRate_eq_ok hchecked
          refine ⟨1, Nat.le_refl 1, outcome, r', fun q hpinned hgives => ?_⟩
          rw [← hgives.left] at hchecked
          have hcall := hrun { q.after 1 with pinned := some (rates 0) } rfl
            ⟨(ReserveAsset.symbol_afterReadings _ _).trans hgives.left,
              fun i hi => absurd hi (Nat.not_lt_zero i)⟩
          rw [h.read q r (rates 0) hpinned (hgives.right 0 Nat.one_pos) hchecked, run_thenAlways,
            hcall, h.unpins]
          rcases q with ⟨asset, pinned, reads⟩
          cases hpinned
          rfl

end Act

open FixedPoint

/-!
# Calls of the books
-/

namespace RateSource

def books (q : RateSource) (l : ShareLedger) : RebasingLedger := ⟨q.asset, l, q.pinned, q.reads⟩

def model (q : RateSource) (l : ShareLedger) : BalanceModel := .rebasing (q.books l)

end RateSource

namespace RebasingLedger

variable {α : Type} {pinned : Option Int} {q : RateSource} {l : ShareLedger} {rate : Int}

theorem run_snapshot_unpinned (hpinned : q.pinned = none) (hrate : q.asset.rateAt 0 = .ok rate) :
    Act.run snapshot (q.books l) = (checkedRate q.asset.symbol rate, (q.after 1).books l) := by
  have hbooks : (q.books l).pinned = none := hpinned
  have hasset : (q.books l).asset.rateAt 0 = .ok rate := hrate
  unfold snapshot
  rw [Act.run_bind_ok (Act.run_current _), hbooks]
  dsimp only
  rw [Act.run_bind, onAsset, Act.run_within, ReserveAsset.run_exchangeRate_of_rateAt hasset]
  dsimp only
  rw [Act.run_bind_ok (Act.run_update _ _)]
  unfold checkedRate
  split <;> rfl

theorem run_snapshot_pinned (hpinned : q.pinned = some rate) :
    Act.run snapshot (q.books l) = (.ok rate, q.books l) := by
  rcases q with ⟨asset, pinned, reads⟩
  cases hpinned
  rfl

theorem takesRates_snapshot :
    Act.TakesRates RateSource.books pinned (RateSource.perCall pinned) snapshot := by
  intro l symbol rates
  cases pinned with
  | some rate =>
      refine ⟨0, Nat.le_refl 0, .ok rate, l, fun q hpinned _ => ?_⟩
      exact run_snapshot_pinned hpinned
  | none =>
      refine ⟨1, Nat.le_refl 1, checkedRate symbol (rates 0), l, fun q hpinned hgives => ?_⟩
      rw [run_snapshot_unpinned hpinned (hgives.right 0 Nat.one_pos), hgives.left]

theorem run_pinRate_refused {e : Fault} (hpinned : q.pinned = none)
    (hrate : q.asset.rateAt 0 = .ok rate) (hrefused : checkedRate q.asset.symbol rate = .error e) :
    Act.run pinRate (q.books l) = (.error e, (q.after 1).books l) := by
  have hread := run_snapshot_unpinned (l := l) hpinned hrate
  rw [hrefused] at hread
  have hbooks : (q.books l).pinned = none := hpinned
  unfold pinRate
  rw [Act.run_bind_ok (Act.run_current _), hbooks]
  exact Act.run_bind_error hread

theorem run_pinRate (hpinned : q.pinned = none) (hrate : q.asset.rateAt 0 = .ok rate)
    (hchecked : checkedRate q.asset.symbol rate = .ok rate) :
    Act.run pinRate (q.books l) =
      (.ok (rate, true), RateSource.books { q.after 1 with pinned := some rate } l) := by
  have hread := run_snapshot_unpinned (l := l) hpinned hrate
  rw [hchecked] at hread
  have hbooks : (q.books l).pinned = none := hpinned
  unfold pinRate
  rw [Act.run_bind_ok (Act.run_current _), hbooks]
  exact Act.run_bind_ok hread

theorem pinsRate_withPinnedRate (m : Int → Act RebasingLedger α) :
    Act.PinsRate RateSource.books unpinned m (withPinnedRate m) where
  kept q l rate hpinned := by
    rcases q with ⟨asset, pinned, reads⟩
    cases hpinned
    rfl
  refused q l rate e hpinned hrate hrefused :=
    Act.run_bind_error (run_pinRate_refused hpinned hrate hrefused)
  read q l rate hpinned hrate hchecked := Act.run_bind_ok (run_pinRate hpinned hrate hchecked)
  unpins _ _ := rfl

theorem takesRates_withPinnedRate {m : Int → Act RebasingLedger α}
    (hm : ∀ rate, Act.TakesRates RateSource.books (some rate) 0 (m rate)) :
    Act.TakesRates RateSource.books pinned (RateSource.perCall pinned) (withPinnedRate m) :=
  (pinsRate_withPinnedRate m).takesRates hm

theorem takesRates_onLedger (m : Act ShareLedger α) :
    Act.TakesRates RateSource.books pinned 0 (onLedger m) :=
  Act.TakesRates.within_aside (fun l _ => l) m (fun _ _ _ => rfl) fun _ _ _ => rfl

theorem takesRates_scaledBalanceOf (holder : String) :
    Act.TakesRates RateSource.books pinned (RateSource.perCall pinned) (scaledBalanceOf holder) := by
  apply takesRates_snapshot.then_quiet
  intro rate
  exact Act.TakesRates.of_current (fun _ _ _ => rfl) fun _ _ => Act.TakesRates.refusable _

theorem takesRates_scaledTotalSupply :
    Act.TakesRates RateSource.books pinned (RateSource.perCall pinned) scaledTotalSupply := by
  apply takesRates_snapshot.then_quiet
  intro rate
  exact Act.TakesRates.of_current (fun _ _ _ => rfl) fun _ _ => Act.TakesRates.refusable _

theorem takesRates_balanceOf (holder : String) (index : Int) :
    Act.TakesRates RateSource.books pinned (RateSource.perCall pinned) (balanceOf holder index) :=
  (takesRates_scaledBalanceOf holder).then_quiet fun _ => Act.TakesRates.refusable _

theorem takesRates_totalSupply (index : Int) :
    Act.TakesRates RateSource.books pinned (RateSource.perCall pinned) (totalSupply index) :=
  takesRates_scaledTotalSupply.then_quiet fun _ => Act.TakesRates.refusable _

theorem takesRates_deposit (holder : String) (amount index : Int) :
    Act.TakesRates RateSource.books pinned (RateSource.perCall pinned)
      (deposit holder amount index) := by
  apply (Act.TakesRates.of_refuse _).ite
  apply Act.TakesRates.then_quiet
  · apply takesRates_withPinnedRate
    intro rate
    apply (Act.TakesRates.refusable _).bind_quiet
    intro scaled
    apply (Act.TakesRates.refuse _).ite
    apply (Act.TakesRates.refusable _).bind_quiet
    intro shares
    apply (Act.TakesRates.refuse _).ite
    refine Act.TakesRates.of_current (fun _ _ _ => rfl) fun _ _ => ?_
    exact (takesRates_onLedger _).bind_quiet fun _ => Act.TakesRates.pure _
  · intro p
    rcases p with ⟨first, shares, rate⟩
    exact (Act.TakesRates.note _).bind_quiet fun _ => Act.TakesRates.pure first

theorem takesRates_withdraw (holder : String) (amount index : Int) :
    Act.TakesRates RateSource.books pinned (RateSource.perCall pinned)
      (withdraw holder amount index) := by
  apply Act.TakesRates.then_quiet
  · apply takesRates_withPinnedRate
    intro rate
    refine Act.TakesRates.of_current (fun _ _ _ => rfl) fun _ _ => ?_
    apply (Act.TakesRates.refusable _).bind_quiet
    intro scaled
    apply (Act.TakesRates.refusable _).bind_quiet
    intro balance
    apply (Act.TakesRates.refuse _).ite
    apply (Act.TakesRates.refuse _).ite
    apply (Act.TakesRates.refusable _).bind_quiet
    intro quotient
    apply (Act.TakesRates.refusable _).bind_quiet
    intro shares
    apply (Act.TakesRates.refuse _).ite
    exact (takesRates_onLedger _).bind_quiet fun _ => Act.TakesRates.pure _
  · intro p
    rcases p with ⟨burned, shares, rate⟩
    exact (Act.TakesRates.note _).bind_quiet fun _ => Act.TakesRates.pure burned

theorem takesRates_transfer (sender recipient : String) (amount index : Int) :
    Act.TakesRates RateSource.books pinned (RateSource.perCall pinned)
      (transfer sender recipient amount index) := by
  apply (Act.TakesRates.of_refuse _).ite
  apply takesRates_withPinnedRate
  intro rate
  refine Act.TakesRates.of_current (fun _ _ _ => rfl) fun _ _ => ?_
  apply (Act.TakesRates.refusable _).bind_quiet
  intro scaled
  apply (Act.TakesRates.refusable _).bind_quiet
  intro balance
  apply (Act.TakesRates.refuse _).ite
  apply (Act.TakesRates.refusable _).bind_quiet
  intro quotient
  apply (Act.TakesRates.refusable _).bind_quiet
  intro shares
  exact (takesRates_onLedger _).bind_quiet fun _ => Act.TakesRates.pure _

end RebasingLedger

theorem BookCall.takesRates_onRebasing {pinned : Option Int} (c : BookCall) :
    Act.TakesRates RateSource.books pinned (RateSource.perCall pinned) c.onRebasing := by
  cases c with
  | mint holder amount index =>
      exact (RebasingLedger.takesRates_deposit holder amount index).then_quiet
        fun _ => Act.TakesRates.pure _
  | burn holder amount index =>
      exact (RebasingLedger.takesRates_withdraw holder amount index).then_quiet
        fun _ => Act.TakesRates.pure _
  | transfer sender recipient amount index =>
      exact (RebasingLedger.takesRates_transfer sender recipient amount index).then_quiet
        fun _ => Act.TakesRates.pure _
  | balanceOf holder index =>
      exact (RebasingLedger.takesRates_balanceOf holder index).then_quiet
        fun _ => Act.TakesRates.pure _
  | totalSupply index =>
      exact (RebasingLedger.takesRates_totalSupply index).then_quiet
        fun _ => Act.TakesRates.pure _

namespace BalanceModel

variable {α : Type} {pinned : Option Int} {limit : Nat} {q : RateSource} {l : ShareLedger}
  {rate : Int}

theorem run_dispatch_model {onPlain : Act ShareLedger α} {onRebasing : Act RebasingLedger α} :
    Act.run (dispatch onPlain onRebasing) (q.model l) =
      ((Act.run onRebasing (q.books l)).1, rebasing (Act.run onRebasing (q.books l)).2) := rfl

theorem takesRates_dispatch {onPlain : Act ShareLedger α} {onRebasing : Act RebasingLedger α}
    (h : Act.TakesRates RateSource.books pinned limit onRebasing) :
    Act.TakesRates RateSource.model pinned limit (dispatch onPlain onRebasing) := by
  intro l symbol rates
  rcases h l symbol rates with ⟨k, hk, outcome, l', hrun⟩
  refine ⟨k, hk, outcome, l', fun q hpinned hgives => ?_⟩
  rw [run_dispatch_model, hrun q hpinned hgives]
  rfl

theorem run_pinRate_refused {e : Fault} (hpinned : q.pinned = none)
    (hrate : q.asset.rateAt 0 = .ok rate) (hrefused : checkedRate q.asset.symbol rate = .error e) :
    Act.run pinRate (q.model l) = (.error e, (q.after 1).model l) := by
  unfold pinRate
  rw [run_dispatch_model, Act.run_bind_error
    (RebasingLedger.run_pinRate_refused hpinned hrate hrefused)]
  rfl

theorem run_pinRate (hpinned : q.pinned = none) (hrate : q.asset.rateAt 0 = .ok rate)
    (hchecked : checkedRate q.asset.symbol rate = .ok rate) :
    Act.run pinRate (q.model l) =
      (.ok true, RateSource.model { q.after 1 with pinned := some rate } l) := by
  unfold pinRate
  rw [run_dispatch_model, Act.run_bind_ok (RebasingLedger.run_pinRate hpinned hrate hchecked)]
  rfl

theorem run_pinRate_pinned (hpinned : q.pinned = some rate) :
    Act.run pinRate (q.model l) = (.ok false, q.model l) := by
  rcases q with ⟨asset, pinned, reads⟩
  cases hpinned
  rfl

end BalanceModel
end ReserveAccounting
