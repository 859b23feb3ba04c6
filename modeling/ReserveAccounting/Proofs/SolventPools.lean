import ReserveAccounting.Proofs.ReadyScenarios
import ReserveAccounting.Proofs.SharePools

/-!
# Solvent pools

A pool is solvent if something is behind its shares as soon as there are any.
What was taken into such a pool can be handed on at once, and what a holder has
there can be moved, although both conversions round down and the second is made
at another price. So a deposit does not stop between its two legs, and a
withdrawal pays out once the deposit tokens are burned.
-/

namespace ReserveAccounting

open FixedPoint

namespace SharePool

variable {p : SharePool} {holder sender recipient : String} {amount held n : Int}

structure Solvent (p : SharePool) : Prop extends Backed p where
  pooled_pos : 0 < p.totalShares → 0 < p.totalPooled

/-!
# Moving shares
-/

theorem Sound.moved (h : p.Sound) (recipient : String) (hn : 0 ≤ n)
    (hheld : n ≤ p.sharesOf sender) : (p.moved sender recipient n).Sound where
  nonneg name := by
    have hdebited : ∀ name,
        0 ≤ (p.shares.put (Text.lower sender) (p.sharesOf sender - n)).getD name 0 := by
      intro name
      rw [Table.getD_put]
      split
      · omega
      · exact h.nonneg name
    change 0 ≤ (Table.put _ _ _).getD name 0
    rw [Table.getD_put]
    split
    · exact add_nonneg (hdebited _) hn
    · exact hdebited name
  total := sum_moved.trans h.total

theorem Solvent.moved (h : p.Solvent) (recipient : String) (hn : 0 ≤ n)
    (hheld : n ≤ p.sharesOf sender) : (p.moved sender recipient n).Solvent where
  toSound := h.toSound.moved recipient hn hheld
  pooled_nonneg := h.pooled_nonneg
  pooled_of_empty := h.pooled_of_empty
  pooled_pos := h.pooled_pos

/-!
# Conversions
-/

theorem Solvent.sharesFor_le (h : p.Solvent) (hle : amount ≤ p.amountFor held) :
    p.sharesFor amount ≤ held := by
  rcases h.totalShares_nonneg.eq_or_lt with hempty | hissued
  · rw [amountFor, if_pos hempty.symm] at hle
    rw [sharesFor, if_pos (Or.inl hempty.symm)]
    exact hle
  · exact sharesFor_le_of_pooled hissued (h.pooled_pos hissued) hle

theorem Solvent.mul_lt_sharesFor_succ (h : p.Solvent) (amount : Int)
    (hissued : 0 < p.totalShares) :
    amount * p.totalShares < (p.sharesFor amount + 1) * p.totalPooled := by
  have hpooled := h.pooled_pos hissued
  rw [sharesFor, if_neg (by omega), Int.fdiv_eq_ediv_of_nonneg _ hpooled.le]
  exact Int.lt_ediv_add_one_mul_self _ hpooled

theorem Solvent.sharesFor_taken_le (h : p.Solvent) (hamount : 0 < amount) :
    (p.taken holder amount).sharesFor amount ≤ p.sharesFor amount := by
  have hpooled := h.pooled_nonneg
  have hissued' := h.totalShares_taken_pos hamount holder
  have hpooled' : 0 < (p.taken holder amount).totalPooled := by
    rw [totalPooled_taken]
    omega
  rw [sharesFor, if_neg (by omega), Int.fdiv_eq_ediv_of_nonneg _ hpooled'.le]
  apply Int.le_of_lt_add_one
  apply Int.ediv_lt_of_lt_mul hpooled'
  rw [totalShares_taken, totalPooled_taken]
  rcases h.totalShares_nonneg.eq_or_lt with hempty | hissued
  · have hbought : p.sharesFor amount = amount := if_pos (Or.inl hempty.symm)
    rw [hbought, ← hempty, h.pooled_of_empty hempty.symm, Int.zero_add, Int.add_mul]
    omega
  · calc amount * (p.totalShares + p.sharesFor amount)
        = amount * p.totalShares + p.sharesFor amount * amount := by ring
      _ < (p.sharesFor amount + 1) * p.totalPooled + (p.sharesFor amount + 1) * amount := by
          have hworth := h.mul_lt_sharesFor_succ amount hissued
          rw [Int.add_mul _ 1 amount]
          omega
      _ = (p.sharesFor amount + 1) * (p.totalPooled + amount) := by ring

/-!
# Calls on a solvent pool
-/

theorem Sound.taken (h : p.Sound) (holder : String) (hbought : 0 ≤ p.sharesFor amount) :
    (p.taken holder amount).Sound where
  nonneg name := by
    change 0 ≤ (Table.put _ _ _).getD name 0
    rw [Table.getD_put]
    split
    · exact add_nonneg (h.nonneg _) hbought
    · exact h.nonneg name
  total := by rw [sum_taken, h.total, totalShares_taken]

theorem Solvent.taken (h : p.Solvent) (holder : String) (hamount : 0 < amount) :
    (p.taken holder amount).Solvent := by
  have hpooled := h.pooled_nonneg
  have hissued := h.totalShares_taken_pos hamount holder
  refine ⟨⟨h.toSound.taken holder (h.sharesFor_nonneg hamount.le), ?_, fun hempty => ?_⟩, fun _ => ?_⟩
  · rw [totalPooled_taken]
    omega
  · exact absurd hempty hissued.ne'
  · rw [totalPooled_taken]
    omega

theorem Solvent.run_submit_transfer (h : p.Solvent) (holder recipient : String)
    (hamount : 0 < amount) :
    ∃ moved p',
      Act.run (submit holder amount) p = (.ok (p.sharesFor amount), p.taken holder amount) ∧
      Act.run (transfer holder recipient amount) (p.taken holder amount) = (.ok moved, p') ∧
      p'.Solvent := by
  have hsolvent := h.taken holder hamount
  have hheld : (p.taken holder amount).sharesFor amount ≤
      (p.taken holder amount).sharesOf holder := by
    refine (h.sharesFor_taken_le hamount).trans ?_
    rw [sharesOf_taken, if_pos rfl]
    exact le_add_of_nonneg_left (h.nonneg _)
  exact ⟨_, _, run_submit hamount, run_transfer recipient hheld,
    hsolvent.moved recipient (hsolvent.sharesFor_nonneg hamount.le) hheld⟩

theorem Solvent.run_transfer_of_balance (h : p.Solvent) (recipient : String) (hamount : 0 ≤ amount)
    (hle : amount ≤ p.balanceOf sender) :
    ∃ moved p', Act.run (transfer sender recipient amount) p = (.ok moved, p') ∧ p'.Solvent := by
  have hheld : p.sharesFor amount ≤ p.sharesOf sender := h.sharesFor_le hle
  exact ⟨_, _, run_transfer recipient hheld,
    h.moved recipient (h.sharesFor_nonneg hamount) hheld⟩

end SharePool

/-!
# Steps over a solvent pool
-/

namespace Scenario

variable {s s₁ : Scenario} {p : SharePool} {step : Document} {holder receiver : String}
  {amount burned : Int} {α : Type}

theorem asset?_of_onToken {m : Act DepositToken α} {outcome : Except Fault α}
    (hover : ∀ c, Act.Stable (DepositToken.IsOver c) m)
    (hrun : Act.run (onToken m) s = (outcome, s₁)) : s₁.asset? = s.asset? := by
  have hpool := (hover s.token.model.livePool).after s.token rfl
  unfold onToken at hrun
  rw [Act.run_within] at hrun
  cases hrun
  exact asset?_congr hpool

theorem run_withdraw_of_burn (hasset : s.asset? = some p) (hp : p.Solvent)
    (hholder : fieldText step "holder" = .ok holder)
    (hreceiver : fieldTextOr step "receiver" holder = .ok receiver)
    (hamount : amountOrAll step s.decimals = .ok amount)
    (hburn : Act.run (onToken (DepositToken.burn s.pool holder receiver amount s.token.index)) s =
      (.ok burned, s₁)) :
    ∃ p', Act.run (withdraw step) s = (.ok burned, s₁.withPool p') := by
  have hasset₁ : s₁.asset? = some p :=
    (asset?_of_onToken (fun _ => DepositToken.stable_burn) hburn).trans hasset
  have hpaid := SharePool.run_transfer receiver
    (hp.sharesFor_le (min_le_right burned (p.balanceOf s₁.pool)))
  unfold withdraw
  rw [Act.run_bind_ok (Act.run_current s), hholder, Act.bind_value, hreceiver, Act.bind_value,
    hamount, Act.bind_value, Act.run_bind_ok hburn, Act.run_bind_ok (Act.run_current s₁), hasset₁]
  dsimp only
  rw [Act.run_bind_ok ((run_onAsset hasset₁ _).trans (by rw [hpaid]))]
  exact ⟨_, rfl⟩

/-- What a deposit takes in is handed on, so that the mint decides what comes of the deposit. -/
theorem run_deposit_of_solvent (hasset : s.asset? = some p) (hp : p.Solvent)
    (hholder : fieldText step "holder" = .ok holder)
    (hamount : fieldAmount step "amount" s.decimals = .ok amount) (hpositive : 0 < amount) :
    ∃ p₁ p₂ minted moved,
      Act.run (onAsset (SharePool.submit holder amount)) s = (.ok minted, s.withPool p₁) ∧
      Act.run (onAsset (SharePool.transfer holder s.pool amount)) (s.withPool p₁) =
        (.ok moved, s.withPool p₂) ∧
      Act.run (deposit step) s =
        Act.run (onToken (DepositToken.mint s.pool holder amount s.token.index))
          (s.withPool p₂) := by
  obtain ⟨moved, p₂, hsubmit, htransfer, -⟩ := hp.run_submit_transfer holder s.pool hpositive
  have htaken : Act.run (onAsset (SharePool.submit holder amount)) s =
      (.ok (p.sharesFor amount), s.withPool (p.taken holder amount)) := by
    rw [run_onAsset hasset, hsubmit]
  have hhanded : Act.run (onAsset (SharePool.transfer holder s.pool amount))
      (s.withPool (p.taken holder amount)) = (.ok moved, s.withPool p₂) := by
    rw [run_onAsset (asset?_withPool hasset _), htransfer, withPool_withPool]
  refine ⟨_, p₂, _, moved, htaken, hhanded, ?_⟩
  unfold deposit
  rw [Act.run_bind_ok (Act.run_current s), hholder, Act.bind_value, hamount, Act.bind_value,
    hasset]
  dsimp only
  rw [if_pos (show (some p).isSome = true from rfl), Act.run_bind_ok htaken,
    Act.run_bind_ok hhanded, Act.run_bind]
  rcases Act.run (onToken (DepositToken.mint s.pool holder amount s.token.index)) (s.withPool p₂)
    with ⟨e | first, s'⟩
  · rfl
  · rfl

/--
Over a solvent pool no leg of the asset fails. What was taken in can be handed on,
and what a holder has can be moved, which leaves nobody with less than no shares.
So a withdrawal answers once the deposit tokens are burned, and what comes of a
deposit is what comes of its mint, after both legs.
-/
theorem asset_legs_answer (hp : p.Solvent) :
    (∀ holder recipient amount, 0 < amount → ∃ minted p₁ moved p₂,
      Act.run (SharePool.submit holder amount) p = (.ok minted, p₁) ∧
      Act.run (SharePool.transfer holder recipient amount) p₁ = (.ok moved, p₂) ∧ p₂.Solvent) ∧
    (∀ sender recipient amount, 0 ≤ amount → amount ≤ p.balanceOf sender → ∃ moved p',
      Act.run (SharePool.transfer sender recipient amount) p = (.ok moved, p') ∧ p'.Solvent) ∧
    ∀ s : Scenario, s.asset? = some p → ∀ step holder, fieldText step "holder" = .ok holder →
      (∀ receiver amount burned s₁, fieldTextOr step "receiver" holder = .ok receiver →
        amountOrAll step s.decimals = .ok amount →
        Act.run (onToken (DepositToken.burn s.pool holder receiver amount s.token.index)) s =
          (.ok burned, s₁) →
        ∃ p', Act.run (withdraw step) s = (.ok burned, s₁.withPool p')) ∧
      ∀ amount, fieldAmount step "amount" s.decimals = .ok amount → 0 < amount →
        ∃ p₁ p₂ minted moved,
          Act.run (onAsset (SharePool.submit holder amount)) s = (.ok minted, s.withPool p₁) ∧
          Act.run (onAsset (SharePool.transfer holder s.pool amount)) (s.withPool p₁) =
            (.ok moved, s.withPool p₂) ∧
          Act.run (deposit step) s =
            Act.run (onToken (DepositToken.mint s.pool holder amount s.token.index))
              (s.withPool p₂) := by
  refine ⟨fun holder recipient amount hamount => ?_, fun sender recipient amount hamount hle =>
    hp.run_transfer_of_balance recipient hamount hle, fun s hasset step holder hholder => ⟨?_, ?_⟩⟩
  · obtain ⟨moved, p₂, hsubmit, htransfer, hsolvent⟩ :=
      hp.run_submit_transfer holder recipient hamount
    exact ⟨_, _, moved, p₂, hsubmit, htransfer, hsolvent⟩
  · intro receiver amount burned s₁ hreceiver hamount hburn
    exact run_withdraw_of_burn hasset hp hholder hreceiver hamount hburn
  · intro amount hamount hpositive
    exact run_deposit_of_solvent hasset hp hholder hamount hpositive

/--
At ten sevenths the pool has four of the five units that are burned, and pays them
out; of the five that are brought in, the three shares they buy are handed on.
-/
theorem asset_legs_answer_at_ten_sevenths :
    let p : SharePool := { SharePool.fresh "stETH" 18 with
      shares := .ofList [("pool", 3), ("bob", 4)], totalShares := 7, totalPooled := 10 }
    let description : Document :=
      .record [("reserve", .record [("asset", .text "stETH"), ("rebasing", .bool true)])]
    let five (action : String) : Document :=
      .record [("action", .text action), ("holder", .text "alice"),
        ("amount", .text "0.000000000000000005")]
    ∃ start s, (setUp .defaults "legs" description).outcome = .ok start ∧
      s = ((Act.run (deposit (five "deposit")) start).2).withPool p ∧ p.balanceOf "pool" = 4 ∧
      (∃ moved p', Act.run (SharePool.transfer "Bob" "carol" 5) p = (.ok moved, p') ∧ p'.Solvent) ∧
      (∃ s', Act.run (withdraw (five "withdraw")) s = (.ok 5, s') ∧
        s'.asset?.map (SharePool.sharesOf · "alice") = some 2) ∧
      ∃ p₁ p₂ minted, Act.run (onAsset (SharePool.submit "alice" 5)) s = (.ok minted, s.withPool p₁) ∧
        Act.run (onAsset (SharePool.transfer "alice" s.pool 5)) (s.withPool p₁) =
          (.ok 3, s.withPool p₂) := by
  intro p description five
  let start := (setUp .defaults "legs" description).outcome.toOption.getD default
  let opened := (Act.run (deposit (five "deposit")) start).2
  let s := opened.withPool p
  let burning := onToken (DepositToken.burn s.pool "alice" "alice" 5 s.token.index)
  have hstart : (setUp .defaults "legs" description).outcome = .ok start :=
    Act.eq_ok_getD (by decide +kernel)
  have hopened : opened.asset?.isSome = true := by decide +kernel
  obtain ⟨p₀, hp₀⟩ := Option.isSome_iff_exists.mp hopened
  have hasset : s.asset? = some p := asset?_withPool hp₀ p
  have hp : p.Solvent := by
    refine ⟨⟨⟨?_, rfl⟩, by decide, by decide⟩, by decide⟩
    intro name
    change 0 ≤ (((∅ : Table String Int).put "pool" 3).put "bob" 4).getD name 0
    rw [Table.getD_put, Table.getD_put]
    split_ifs
    · decide
    · decide
    · exact Int.le_refl 0
  have hburn : Act.run burning s = (.ok 5, (Act.run burning s).2) :=
    Prod.ext (Act.eq_ok_of_toOption (by decide +kernel)) rfl
  have hasked : amountOrAll (five "withdraw") s.decimals = .ok 5 :=
    Act.eq_ok_of_toOption (by decide +kernel)
  have hbrought : fieldAmount (five "deposit") "amount" s.decimals = .ok 5 :=
    Act.eq_ok_of_toOption (by decide +kernel)
  have hreceiver : fieldTextOr (five "withdraw") "receiver" "alice" = .ok "alice" :=
    Act.eq_ok_of_toOption (by decide +kernel)
  have hleaving : fieldText (five "withdraw") "holder" = .ok "alice" :=
    Act.eq_ok_of_toOption (by decide +kernel)
  have hbringing : fieldText (five "deposit") "holder" = .ok "alice" :=
    Act.eq_ok_of_toOption (by decide +kernel)
  obtain ⟨-, hmove, hsteps⟩ := asset_legs_answer hp
  obtain ⟨p', hpaid⟩ :=
    (hsteps s hasset _ _ hleaving).left "alice" 5 5 _ hreceiver hasked hburn
  obtain ⟨p₁, p₂, minted, moved, hsubmit, htransfer, -⟩ :=
    (hsteps s hasset _ _ hbringing).right 5 hbrought (by decide)
  refine ⟨start, s, hstart, rfl, by decide +kernel,
    hmove "Bob" "carol" 5 (by decide) (by decide +kernel), ⟨_, hpaid, ?_⟩, p₁, p₂, minted,
    hsubmit, ?_⟩
  · have hstate := congrArg Prod.snd hpaid
    dsimp only at hstate
    rw [← hstate]
    decide +kernel
  · have hmoved : (Act.run (onAsset (SharePool.transfer "alice" s.pool 5))
        (Act.run (onAsset (SharePool.submit "alice" 5)) s).2).1 = .ok 3 :=
      Act.eq_ok_of_toOption (by decide +kernel)
    rw [hsubmit, htransfer] at hmoved
    cases hmoved
    exact htransfer

end Scenario
end ReserveAccounting
