import ReserveAccounting.Proofs.IndependentCalls
import ReserveAccounting.Proofs.RefusedSteps
import ReserveAccounting.Proofs.RoundTrips

/-!
# Surplus after a sweep

A sweep mints the surplus above a retained buffer. The shares that are minted are
worth the quotient of that excess, which may be rounded up by half of the index:
a buffer of at least half of the index in units keeps a surplus from becoming a
deficit.
-/

namespace ReserveAccounting

open FixedPoint

namespace FixedPoint

variable {i q s s' v v' : Int}

/-!
# Shares on top of others
-/

theorem rayMul_growth_lt (hv : rayMul s i = .ok v) (hv' : rayMul s' i = .ok v') (hle : s' ≤ s + q) :
    ray * (v' - v) < q * i + ray := by
  rcases rayMul_ok hv with ⟨_, _, hi, rfl⟩
  rcases rayMul_ok hv' with ⟨_, _, _, rfl⟩
  have hproduct : s' * i ≤ (s + q) * i := Int.mul_le_mul_of_nonneg_right hle hi
  rw [add_mul] at hproduct
  simp only [ray]
  omega

end FixedPoint

namespace BalanceModel

variable {m m' : BalanceModel} {index amount n shares shares' scaled scaled' value : Int}
  {p : String → Prop} {d : Int}

theorem Buys.scaledValue_add_le (hbuys : m.Buys index amount n)
    (hscaled : m.scaledValue shares = .ok scaled)
    (hscaled' : m.scaledValue (shares + n) = .ok scaled') :
    ∃ quotient, rayDiv amount index = .ok quotient ∧ scaled' ≤ scaled + quotient := by
  cases m with
  | plain l =>
      cases hscaled
      cases hscaled'
      exact ⟨n, hbuys, Int.le_refl _⟩
  | rebasing w =>
      rcases hbuys with ⟨rate, quotient, hrate, hquotient, hshares⟩
      have hread : (rebasing w).rate? = some (.ok rate) := congrArg some hrate
      exact ⟨quotient, hquotient, rayMul_add_rayDivFloor_le hshares
        (rayMul_of_scaledValue hread hscaled) (rayMul_of_scaledValue hread hscaled')⟩

theorem scaledValue_of_le (hle : shares ≤ shares') (hscaled : m.scaledValue shares = .ok scaled)
    (hnonneg : 0 ≤ scaled) :
    (∃ scaled', m.scaledValue shares' = .ok scaled' ∧ 0 ≤ scaled') ∨
      ∃ e, m.scaledValue shares' = .error e ∧ e.IsOverflow := by
  cases m with
  | plain l =>
      cases hscaled
      exact Or.inl ⟨shares', rfl, hnonneg.trans hle⟩
  | rebasing w =>
      rcases Act.exists_of_bind_ok hscaled with ⟨rate, hrate, hproduct⟩
      rcases rayMul_ok (eq_ok_of_mapError hproduct) with ⟨hshares, _, hrate_nonneg, _⟩
      have hmore : (rebasing w).scaledValue shares' =
          (rayMul shares' rate).mapError Fault.ofRefusal := by
        change (Act.run RebasingLedger.snapshot w).1.bind _ = _
        rw [hrate]
        rfl
      rw [hmore]
      cases hproduct' : rayMul shares' rate with
      | ok scaled' => exact Or.inl ⟨scaled', rfl, rayMul_nonneg hproduct'⟩
      | error r =>
          exact Or.inr ⟨_, rfl, rayMul_isOverflow (hshares.trans hle) hrate_nonneg hproduct'⟩

theorem presentedValue_isOverflow {e : Fault} (hle : shares ≤ shares')
    (h : m.presentedValue index shares = .ok value)
    (h' : m.presentedValue index shares' = .error e) : e.IsOverflow := by
  rcases presentedValue_eq_ok h with ⟨scaled, hscaled, hvalue⟩
  rcases rayMul_ok hvalue with ⟨hnonneg, _, hindex, _⟩
  unfold presentedValue at h'
  rcases scaledValue_of_le hle hscaled hnonneg with ⟨scaled', hscaled', hnonneg'⟩ | ⟨e', he', hover⟩
  · rw [hscaled'] at h'
    change (rayMul scaled' index).mapError Fault.ofRefusal = .error e at h'
    cases hvalue' : rayMul scaled' index with
    | ok value' =>
        rw [hvalue'] at h'
        cases h'
    | error r =>
        rw [hvalue'] at h'
        cases h'
        exact rayMul_isOverflow hnonneg' hindex hvalue'
  · rw [he'] at h'
    cases h'
    exact hover

theorem MatchesOn.rate?_eq (h : m.MatchesOn p d m') : m'.rate? = m.rate? := by
  cases h with
  | plain h => rfl
  | rebasing h => exact congrArg some (RebasingLedger.respects_snapshot.outcome_eq h)

end BalanceModel

/-!
# Readings that stay
-/

namespace DepositToken

variable {s s' s'' : DepositToken} {caller : String} {amount : Int}

/-- A token whose views answer for shares what those of another answer, now and later. -/
structure ReadsAs (s s' : DepositToken) : Prop where
  rate : s'.model.rate? = s.model.rate?
  fixed : s'.model.HasFixedRate
  index : s'.index = s.index

theorem ReadsAs.trans (h : s.ReadsAs s') (h' : s'.ReadsAs s'') : s.ReadsAs s'' where
  rate := h'.rate.trans h.rate
  fixed := h'.fixed
  index := h'.index.trans h.index

theorem ReadsAs.presentedValue_eq (h : s.ReadsAs s') :
    s'.model.presentedValue s'.index = s.model.presentedValue s.index := by
  unfold BalanceModel.presentedValue
  rw [BalanceModel.scaledValue_congr h.rate, h.index]

theorem Resembles.readsAs (h : s.Resembles s') (halike : s.model.Alike s'.model)
    (hfixed : s.model.HasFixedRate) : s.ReadsAs s' := by
  have hmatches : s.model.MatchesOn (fun _ => False)
      (s'.model.ledger.totalShares - s.model.ledger.totalShares) s'.model :=
    .of_alike halike h.rates ⟨nofun, by omega⟩
  exact ⟨hmatches.rate?_eq, hmatches.hasFixedRate hfixed, h.setting.index_eq⟩

theorem stable_resembles_totalSupply (hfixed : s.model.HasFixedRate) :
    Act.Stable s.Resembles totalSupply := by
  unfold totalSupply
  apply Act.Stable.bind Act.Stable.current
  intro t
  apply stable_resembles_onModel
  apply BalanceModel.stable_assetIs_dispatch
  apply Act.Stable.bind (RebasingLedger.stable_valued (BalanceModel.stable_sameRates hfixed))
  intro scaled
  exact Act.Stable.refusable _

theorem reads_totalSupply (hfixed : s.model.HasFixedRate) :
    totalSupply.Leaves s
      (fun supply s' => s.model.presentedValue s.index s.model.ledger.totalShares = .ok supply ∧
        s.ReadsAs s' ∧ s'.model.ledger = s.model.ledger)
      (fun e s' => s.model.presentedValue s.index s.model.ledger.totalShares = .error e ∧
        s.ReadsAs s' ∧ s'.model.ledger = s.model.ledger) := by
  have hstays : totalSupply.Leaves s
      (fun _ s' => s.ReadsAs s' ∧ s'.model.ledger = s.model.ledger)
      (fun _ s' => s.ReadsAs s' ∧ s'.model.ledger = s.model.ledger) :=
    (keeps_totalSupply.and ((stable_resembles_totalSupply hfixed).leaves (.refl s))).mono
      (fun _ _ h => ⟨h.right.readsAs h.left.alike hfixed, h.left.ledger⟩)
      (fun _ _ h => ⟨h.right.readsAs h.left.alike hfixed, h.left.ledger⟩)
  have hsupply := Portion.outcome_presented (s := s) .whole
  apply Act.leaves_of_run
  · intro supply s' hrun
    rw [show Portion.whole.presented = totalSupply from rfl, hrun] at hsupply
    exact ⟨hsupply.symm, hstays.of_ok hrun⟩
  · intro e s' hrun
    rw [show Portion.whole.presented = totalSupply from rfl, hrun] at hsupply
    exact ⟨hsupply.symm, hstays.of_error hrun⟩

theorem reads_mintToTreasury (hfixed : s.model.HasFixedRate) (hamount : amount ≠ 0) :
    (mintToTreasury caller amount s.index).Leaves s
      (fun _ s' => s.ReadsAs s' ∧ ∃ n, 0 < n ∧ s.model.Buys s.index amount n ∧
        s'.model.ledger.totalShares = s.model.ledger.totalShares + n)
      (fun _ s' => s.ReadsAs s' ∧ s'.model.ledger = s.model.ledger) := by
  have hresembles : s.Resembles (Act.run (mintToTreasury caller amount s.index) s).2 :=
    (((pairedWalk_resembles hfixed).respects_mintToTreasury trivial).after ⟨rfl, .refl s⟩).right
  apply ((leaves_mintToTreasury.and (answers_mintToTreasury hamount)).and
    (Act.Leaves.of_state hresembles)).mono
  · intro _ s' h
    rcases h with ⟨⟨hbooks, n, hbuys, hcredits⟩, hresembles⟩
    rcases hbooks with ⟨hzero, _⟩ | ⟨_, hbooks, _⟩
    · exact absurd hzero hamount
    · exact ⟨hresembles.readsAs hbooks.alike hfixed, n, hcredits.left, hbuys,
        hcredits.totalShares_eq⟩
  · intro _ s' h
    rcases h with ⟨⟨hkeeps, _⟩, hresembles⟩
    rcases hkeeps with ⟨hzero, _⟩ | ⟨_, hkeeps⟩
    · exact absurd hzero hamount
    · exact ⟨hresembles.readsAs hkeeps.alike hfixed, hkeeps.ledger⟩

end DepositToken

/-!
# Sweeps
-/

namespace DustSweeper

variable {sweeper : DustSweeper} {s s' : DepositToken} {caller : String}
  {backing surplus surplus' : Int}

theorem reads_measure (hfixed : s.model.HasFixedRate) :
    (sweeper.measure backing).Leaves s
      (fun r s' => (s.model.presentedValue s.index s.model.ledger.totalShares =
          .ok (backing - r.surplus)) ∧ s.ReadsAs s' ∧ s'.model.ledger = s.model.ledger)
      (fun e s' => s.model.presentedValue s.index s.model.ledger.totalShares = .error e ∧
        s.ReadsAs s' ∧ s'.model.ledger = s.model.ledger) := by
  unfold measure
  rw [Act.leaves_bind]
  apply (DepositToken.reads_totalSupply hfixed).mono _ fun _ _ h => h
  intro supply s' h
  rcases h with ⟨hsupply, hstays⟩
  have hreport : s.model.presentedValue s.index s.model.ledger.totalShares =
      .ok (backing - (backing - supply)) := by
    rw [hsupply]
    congr 1
    omega
  rw [Act.leaves_bind, Act.leaves_current]
  dsimp only
  rw [Act.leaves_ite]
  exact ⟨fun _ => ⟨hreport, hstays⟩, fun _ => ⟨hreport, hstays⟩⟩

def MayIssue (sweeper : DustSweeper) (backing : Int) (s s' : DepositToken) : Prop :=
  s'.model.ledger.totalShares = s.model.ledger.totalShares ∨
    ∃ surplus n, s.model.presentedValue s.index s.model.ledger.totalShares =
      .ok (backing - surplus) ∧ 0 < n ∧ s.model.Buys s.index (surplus - sweeper.threshold) n ∧
      s'.model.ledger.totalShares = s.model.ledger.totalShares + n

theorem reads_sweep (hfixed : s.model.HasFixedRate) :
    (sweeper.sweep caller backing).Leaves s
      (fun _ s' => s.ReadsAs s' ∧ sweeper.MayIssue backing s s')
      (fun _ s' => s.ReadsAs s' ∧ sweeper.MayIssue backing s s') := by
  unfold sweep
  rw [Act.leaves_bind]
  apply (reads_measure hfixed).mono _
    fun _ _ h => ⟨h.right.left, Or.inl (congrArg _ h.right.right)⟩
  intro r s₁ h
  rcases h with ⟨hmeasured, hreads, hledger⟩
  have hunissued : ∀ s₂ : DepositToken, s₁.ReadsAs s₂ → s₂.model.ledger = s₁.model.ledger →
      s.ReadsAs s₂ ∧ sweeper.MayIssue backing s s₂ := fun s₂ h hkept =>
    ⟨hreads.trans h, Or.inl (congrArg _ (hkept.trans hledger))⟩
  rw [Act.leaves_ite]
  refine ⟨fun _ => ⟨hreads, Or.inl (congrArg _ hledger)⟩, fun hexcess => ?_⟩
  rw [Act.leaves_bind, Act.leaves_current, Act.leaves_bind]
  apply (leaves_orTooSmall (DepositToken.reads_mintToTreasury hreads.fixed (by omega))).mono
  · intro minted s₂ h
    cases minted with
    | error refusal => exact hunissued s₂ h.left h.right
    | ok first =>
        rcases h with ⟨hreads', n, hn, hbuys, htotal⟩
        rw [hreads.index] at hbuys
        rw [hledger] at htotal
        have hissued : sweeper.MayIssue backing s s₂ :=
          Or.inr ⟨r.surplus, n, hmeasured, hn, hbuys.of_rate hreads.rate, htotal⟩
        exact ⟨hreads.trans hreads', hissued⟩
  · intro e s₂ h
    exact hunissued s₂ h.left h.right

/-!
# Surpluses before and after
-/

/--
The supply grows by less than what the quotient of the excess is worth and a unit:
besides that unit, the buffer loses only what the quotient was rounded up by.
-/
theorem surplus_of_mayIssue (hbefore : s.model.presentedValue s.index s.model.ledger.totalShares =
      .ok (backing - surplus))
    (hissued : sweeper.MayIssue backing s s')
    (hafter : s.model.presentedValue s.index s'.model.ledger.totalShares =
      .ok (backing - surplus')) :
    surplus' = surplus ∨ ∃ n, rayDiv (surplus - sweeper.threshold) s.index = .ok n ∧
      ray * (sweeper.threshold - surplus') <
        n * s.index - (surplus - sweeper.threshold) * ray + ray := by
  rcases hissued with htotal | ⟨surplus₀, n, hmeasured, _, hbuys, htotal⟩
  · rw [htotal, hbefore] at hafter
    injection hafter with hsupply
    exact Or.inl (by omega)
  · rw [hbefore] at hmeasured
    injection hmeasured with hsupply
    rcases (show surplus₀ = surplus by omega) with rfl
    rw [htotal] at hafter
    rcases BalanceModel.presentedValue_eq_ok hbefore with ⟨scaled, hscaled, hvalue⟩
    rcases BalanceModel.presentedValue_eq_ok hafter with ⟨scaled', hscaled', hvalue'⟩
    rcases hbuys.scaledValue_add_le hscaled hscaled' with ⟨quotient, hquotient, hle⟩
    have hgrowth := rayMul_growth_lt hvalue hvalue' hle
    refine Or.inr ⟨quotient, hquotient, ?_⟩
    simp only [ray] at *
    omega

/-- A buffer of half of the index, in units, takes what rounding can add to the supply. -/
theorem surplus_nonneg_of_buffer {n : Int} (hbuffer : s.index ≤ 2 * ray * sweeper.threshold)
    (hn : rayDiv (surplus - sweeper.threshold) s.index = .ok n)
    (hsurplus : ray * (sweeper.threshold - surplus') <
      n * s.index - (surplus - sweeper.threshold) * ray + ray) : 0 ≤ surplus' := by
  have hrounded := (abs_le.mp (abs_rayDiv_sub_le hn)).right
  rw [mul_comm s.index n] at hrounded
  simp only [ray] at *
  omega

/--
A surplus that is measured, swept above the threshold and measured again, at a
rate that does not change. Unless the supply has become too large to be read, the
surplus is what it was, or falls short of the buffer by less than a unit and what
the quotient of the excess was rounded up by; it cannot become a deficit if the
buffer is at least half of the index.
-/
theorem surplus_after_sweep {r : DustReport} (hfixed : s.model.HasFixedRate)
    (hmeasured : Act.run (sweeper.measure backing) s = (.ok r, s')) :
    let swept := (Act.run (sweeper.sweep caller backing) s').2
    (∃ e, (Act.run (sweeper.measure backing) swept).1 = .error e ∧ e.IsOverflow) ∨
      ∃ r', (Act.run (sweeper.measure backing) swept).1 = .ok r' ∧
        (r'.surplus = r.surplus ∨
          ∃ n, rayDiv (r.surplus - sweeper.threshold) s.index = .ok n ∧
            ray * (sweeper.threshold - r'.surplus) <
              n * s.index - (r.surplus - sweeper.threshold) * ray + ray) ∧
        (0 ≤ r.surplus → s.index ≤ 2 * ray * sweeper.threshold → 0 ≤ r'.surplus) := by
  intro swept
  rcases (reads_measure hfixed).of_ok hmeasured with ⟨hbefore, hreads, hledger⟩
  have hswept : s'.ReadsAs swept ∧ sweeper.MayIssue backing s' swept :=
    Act.Leaves.state (p := fun t => s'.ReadsAs t ∧ sweeper.MayIssue backing s' t)
      (reads_sweep hreads.fixed)
  rcases hswept with ⟨hreads', hissued⟩
  rw [← hledger, ← hreads.presentedValue_eq] at hbefore
  rw [← hreads.index]
  have hagain := @reads_measure sweeper swept backing hreads'.fixed
  rw [hreads'.presentedValue_eq] at hagain
  cases hrun : Act.run (sweeper.measure backing) swept with
  | mk outcome t =>
      cases outcome with
      | error e =>
          refine Or.inl ⟨e, rfl, ?_⟩
          apply BalanceModel.presentedValue_isOverflow _ hbefore (hagain.of_error hrun).left
          rcases hissued with htotal | ⟨_, n, _, hn, _, htotal⟩ <;> omega
      | ok r' =>
          have hsurplus := surplus_of_mayIssue hbefore hissued (hagain.of_ok hrun).left
          refine Or.inr ⟨r', rfl, hsurplus, fun hnonneg hbuffer => ?_⟩
          rcases hsurplus with hsame | ⟨n, hn, hlacks⟩
          · rwa [hsame]
          · exact surplus_nonneg_of_buffer hbuffer hn hlacks

/--
At an index of ten the excess over a buffer of two, fifteen units, buys two
shares; they are worth twenty, and the surplus of seventeen becomes a deficit.
-/
theorem surplus_after_sweep_at_ten :
    let pool : SharePool := { SharePool.fresh "stETH" 18 with totalShares := 1, totalPooled := 1 }
    let books : RebasingLedger :=
      { RebasingLedger.fresh (.pool pool) with ledger := ⟨.ofList [("alice", 10)], 10⟩ }
    let s : DepositToken :=
      { DepositToken.atOne (.rebasing books) none with reserve := ⟨.text "stETH", 10 * ray, [], 1⟩ }
    let sweeper : DustSweeper := ⟨DustSweeper.defaultThreshold⟩
    s.model.HasFixedRate ∧
      ∃ r s', Act.run (sweeper.measure 117) s = (.ok r, s') ∧ r.surplus = 17 ∧
        ∃ r' n, (Act.run (sweeper.measure 117) (Act.run (sweeper.sweep "pool" 117) s').2).1 =
          .ok r' ∧ r'.surplus = -3 ∧ rayDiv (r.surplus - sweeper.threshold) s.index = .ok n ∧
          ray * (sweeper.threshold - r'.surplus) <
            n * s.index - (r.surplus - sweeper.threshold) * ray + ray := by
  intro pool books s sweeper
  have hfixed : s.model.HasFixedRate := by
    intro a ha
    cases ha
    exact ReserveAsset.hasFixedRate_pool pool
  let measured := Act.run (sweeper.measure 117) s
  let swept := (Act.run (sweeper.sweep "pool" 117) measured.2).2
  have hmeasured : Act.run (sweeper.measure 117) s =
      (.ok (measured.1.toOption.getD default), measured.2) :=
    Prod.ext (Act.eq_ok_getD (by decide +kernel)) rfl
  have hbefore : (measured.1.toOption.getD default).surplus = 17 := by decide +kernel
  have hagain : (Act.run (sweeper.measure 117) swept).1.toOption.map DustReport.surplus =
      some (-3) := by decide +kernel
  refine ⟨hfixed, _, _, hmeasured, hbefore, ?_⟩
  rcases @surplus_after_sweep sweeper s _ "pool" 117 _ hfixed hmeasured with
    ⟨e, hfailed, _⟩ | ⟨r', hreport, hsurplus, _⟩
  · rw [hfailed] at hagain
    cases hagain
  · rw [hreport] at hagain
    have hdeficit : r'.surplus = -3 := Option.some.inj hagain
    rcases hsurplus with hsame | ⟨n, hn, hlacks⟩
    · omega
    · exact ⟨r', n, hreport, hdeficit, hn, hlacks⟩

end DustSweeper
end ReserveAccounting
