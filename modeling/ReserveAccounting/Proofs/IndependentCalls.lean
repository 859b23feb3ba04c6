import ReserveAccounting.Proofs.RestoredTokens
import ReserveAccounting.Proofs.TokenFootprints

/-!
# Independent calls

Two calls that concern different holders do not notice each other: in either
order each of them ends as it would without the other, and they leave the same
records. A call keeps within its footprint, which is the entries of its holders,
the total and the tallies of the treasury; it reads of its footprint only the
entries; and what it adds to the total and to the tallies can be added in any
order.
-/

namespace ReserveAccounting

open FixedPoint

/-!
# The same records
-/

/-- Ledgers with the same entries, in whatever order, and the same total. -/
structure ShareLedger.SameRecords (l l' : ShareLedger) : Prop where
  shares : ∀ x, l'.shares.get? x = l.shares.get? x
  totalShares : l'.totalShares = l.totalShares

structure RewardTracker.SameRecords (t t' : RewardTracker) : Prop where
  rewardTokens : t'.rewardTokens = t.rewardTokens
  tokenStates : ∀ name, t'.tokenStates.get? name = t.tokenStates.get? name
  holderStates : ∀ name x,
    (t'.holderStates.get? name).map (·.get? x) = (t.holderStates.get? name).map (·.get? x)

structure RewardProgram.SameRecords (q q' : RewardProgram) : Prop where
  tracker : q.tracker.SameRecords q'.tracker
  reserveFactor : q'.reserveFactor = q.reserveFactor
  strayFactor : q'.strayFactor = q.strayFactor

structure DepositToken.SameRecords (s s' : DepositToken) : Prop where
  ledger : s.model.ledger.SameRecords s'.model.ledger
  index : s'.index = s.index
  rewards : Option.Rel RewardProgram.SameRecords s.rewards s'.rewards

/-!
# Changes that commute

A first change keeps what is at the names with a property, and so does a second
one for another property, on its own and after the first; every name is kept by
one of the two. Each of them adds as much to the totals whether it is made first
or last. Then it does not matter which of them is made first.
-/

section Commuting

variable {p q : String → Prop} {m m' n n' : Int} {e e' f f' : String → Int}

theorem ShareLedger.MatchesOn.commute {l l₁ l₂ l₁₂ l₂₁ : ShareLedger}
    (hfirst : l.MatchesOn p m l₁) (hsecond : l.MatchesOn q n l₂)
    (hfirst' : l₂.MatchesOn p m l₁₂) (hsecond' : l₁.MatchesOn q n l₂₁)
    (hlast : l₁.MatchesOn q n' l₁₂) (hlast' : l₂.MatchesOn p m' l₂₁)
    (hpq : ∀ x, p x ∨ q x) : l₁₂.SameRecords l₂₁ where
  shares x := by
    cases hpq x with
    | inl hp => rw [hlast'.shares x hp, hfirst'.shares x hp]
    | inr hq => rw [hsecond'.shares x hq, hlast.shares x hq]
  totalShares := by
    have hleft := hfirst'.total
    have hright := hsecond'.total
    rw [hsecond.total] at hleft
    rw [hfirst.total] at hright
    omega

namespace RewardTracker

theorem SameRecords.of_sound {t t' : RewardTracker} (ht : t.Sound) (ht' : t'.Sound)
    (hlisted : t'.rewardTokens = t.rewardTokens)
    (htokens : ∀ name, t'.tokenOf name = t.tokenOf name)
    (hstates : ∀ name x, (t'.statesOf name).get? x = (t.statesOf name).get? x) :
    t.SameRecords t' where
  rewardTokens := hlisted
  tokenStates name := by
    by_cases hname : name ∈ t.rewardTokens
    · rw [get?_tokenStates ht hname, get?_tokenStates ht' (hlisted ▸ hname), htokens]
    · rw [Table.get?_eq_none_iff.mpr (ht'.tokens ▸ hlisted ▸ hname),
        Table.get?_eq_none_iff.mpr (ht.tokens ▸ hname)]
  holderStates name x := by
    by_cases hname : name ∈ t.rewardTokens
    · rw [get?_holderStates ht hname, get?_holderStates ht' (hlisted ▸ hname), Option.map_some,
        Option.map_some, hstates]
    · rw [Table.get?_eq_none_iff.mpr (ht'.holders ▸ hlisted ▸ hname),
        Table.get?_eq_none_iff.mpr (ht.holders ▸ hname)]

theorem MatchesOn.commute {t t₁ t₂ t₁₂ t₂₁ : RewardTracker}
    (hfirst : t.MatchesOn p e t₁) (hsecond : t.MatchesOn q f t₂)
    (hfirst' : t₂.MatchesOn p e t₁₂) (hsecond' : t₁.MatchesOn q f t₂₁)
    (hlast : t₁.MatchesOn q f' t₁₂) (hlast' : t₂.MatchesOn p e' t₂₁)
    (hpq : ∀ x, p x ∨ q x) : t₁₂.SameRecords t₂₁ := by
  apply SameRecords.of_sound hfirst'.right hsecond'.right
  · rw [hsecond'.rewardTokens, hlast.rewardTokens]
  · intro name
    rw [hsecond'.tokens, hfirst.tokens, hfirst'.tokens, hsecond.tokens,
      RewardTokenState.tallied_tallied, RewardTokenState.tallied_tallied, Int.add_comm]
  · intro name x
    cases hpq x with
    | inl hp => rw [hlast'.states name x hp, hfirst'.states name x hp]
    | inr hq => rw [hsecond'.states name x hq, hlast.states name x hq]

end RewardTracker

theorem RewardProgram.sameRecords_commute {r r₁ r₂ r₁₂ r₂₁ : Option RewardProgram}
    (hfirst : Option.Rel (MatchesOn p e) r r₁) (hsecond : Option.Rel (MatchesOn q f) r r₂)
    (hfirst' : Option.Rel (MatchesOn p e) r₂ r₁₂) (hsecond' : Option.Rel (MatchesOn q f) r₁ r₂₁)
    (hlast : Option.Rel (MatchesOn q f') r₁ r₁₂) (hlast' : Option.Rel (MatchesOn p e') r₂ r₂₁)
    (hpq : ∀ x, p x ∨ q x) : Option.Rel SameRecords r₁₂ r₂₁ := by
  cases hfirst with
  | none =>
      cases hsecond
      cases hfirst'
      cases hsecond'
      exact .none
  | some hfirst =>
      cases hsecond with
      | some hsecond =>
          cases hfirst' with
          | some hfirst' =>
              cases hsecond' with
              | some hsecond' =>
                  cases hlast with
                  | some hlast =>
                      cases hlast' with
                      | some hlast' =>
                          have htracker := hfirst.tracker.commute hsecond.tracker
                            hfirst'.tracker hsecond'.tracker hlast.tracker hlast'.tracker hpq
                          refine .some ⟨htracker, ?_, ?_⟩
                          · rw [hsecond'.reserveFactor, hlast.reserveFactor]
                          · rw [hsecond'.strayFactor, hlast.strayFactor]

theorem DepositToken.MatchesOn.commute {base base' base'' s s₁ s₂ s₁₂ s₂₁ : DepositToken}
    (hfirst : MatchesOn base p m e s s₁) (hsecond : MatchesOn base q n f s s₂)
    (hfirst' : MatchesOn base p m e s₂ s₁₂) (hsecond' : MatchesOn base q n f s₁ s₂₁)
    (hlast : MatchesOn base' q n' f' s₁ s₁₂) (hlast' : MatchesOn base'' p m' e' s₂ s₂₁)
    (hpq : ∀ x, p x ∨ q x) : s₁₂.SameRecords s₂₁ where
  ledger := hfirst.model.ledger.commute hsecond.model.ledger hfirst'.model.ledger
    hsecond'.model.ledger hlast.model.ledger hlast'.model.ledger hpq
  index := by rw [hsecond'.right.index_eq, hfirst'.right.index_eq]
  rewards := RewardProgram.sameRecords_commute hfirst.rewards hsecond.rewards hfirst'.rewards
    hsecond'.rewards hlast.rewards hlast'.rewards hpq

end Commuting

namespace DepositToken

variable {s s' : DepositToken} {accounts : List String} {p q : String → Prop} {e : String → Int}

/-!
# What a call leaves alone
-/

theorem WellKept.matchesOn_of_abandons {rewards : Option RewardProgram} (hs : s.WellKept)
    (hsmall : ∀ x ∈ accounts, Text.lower x = x) (h : s.Abandons accounts rewards) :
    Option.Rel (RewardProgram.MatchesOn (· ∉ accounts) fun _ => 0) s.rewards rewards := by
  cases hrewards : s.rewards with
  | none =>
      rcases h with hsame | hpassed | ⟨program, _, _, hprogram, _⟩
      · rw [hsame, hrewards]
        exact .none
      · unfold passed at hpassed
        rw [hpassed, hrewards]
        exact .none
      · rw [hrewards] at hprogram
        cases hprogram
  | some program =>
      have ht := (hs.program program hrewards).sound
      rcases h.rewards_eq hrewards ht hsmall with rfl | rfl
      · exact .some ⟨RewardTracker.MatchesOn.refl ht, rfl, rfl⟩
      · exact .some ⟨(settles_afterPass ht hsmall).matchesOn ht, rfl, rfl⟩

/-- What rewards match aside of one holder, with whatever tallies. -/
def RewardsAside (x : String) (rewards : Option RewardProgram) (s : DepositToken) : Prop :=
  ∃ e, Option.Rel (RewardProgram.MatchesOn (· ≠ x) e) rewards s.rewards

theorem stable_rewardsAside_onRewards {x : String} {rewards : Option RewardProgram} {α : Type}
    {m : Act RewardTracker α} (hm : ∀ t : RewardTracker, Act.Stable (t.MatchesAside x) m) :
    Act.Stable (RewardsAside x rewards) (onRewards m) := by
  constructor
  intro s hs
  rcases hs with ⟨e, hrel⟩
  cases hrewards : s.rewards with
  | none =>
      rw [run_onRewards_none m hrewards]
      exact ⟨e, hrel⟩
  | some q' =>
      rw [hrewards] at hrel
      rw [run_onRewards m hrewards]
      cases hrel with
      | some hq =>
          rcases (hm _).after q'.tracker ⟨e, hq.tracker⟩ with ⟨e', htracker⟩
          exact ⟨e', .some ⟨htracker, hq.reserveFactor, hq.strayFactor⟩⟩

theorem WellKept.rewardsAside_self (hs : s.WellKept) (x : String) : s.RewardsAside x s.rewards := by
  refine ⟨fun _ => 0, ?_⟩
  cases hrewards : s.rewards with
  | none => exact .none
  | some q =>
      exact .some ⟨RewardTracker.MatchesOn.refl (hs.program q hrewards).sound, rfl, rfl⟩

theorem stable_rewardsAside_claim {holder token : String} {rewards : Option RewardProgram} :
    Act.Stable (RewardsAside (Text.lower holder) rewards) (claim holder token) := by
  have hsmall := Text.lower_lower holder
  apply stable_claim_of_parts
  · intro basis
    apply stable_rewardsAside_onRewards
    intro t
    have hcheckpoint := @RewardTracker.stable_aside_checkpoint t (Text.lower holder) token basis
    rw [hsmall] at hcheckpoint
    exact hcheckpoint
  · intro factor
    apply stable_rewardsAside_onRewards
    intro t
    have hclaim := @RewardTracker.stable_aside_claim t (Text.lower holder) token factor
    rw [hsmall] at hclaim
    exact hclaim
  · intro amount
    exact stable_rewardsAside_onRewards fun _ => RewardTracker.stable_aside_recordTreasuryCut
  · intro s events hs
    exact hs

end DepositToken

namespace TokenCall

variable {s s' : DepositToken} {c d : TokenCall} {R : DepositToken → DepositToken → Prop}
  {p : String → Prop} {base : DepositToken}

/-- The calls that concern holders, at a certain index if they are given one. -/
def ActsAt (c : TokenCall) (index : Int) : Prop :=
  match c with
  | mint _ _ _ i => i = index
  | burn _ _ _ _ i => i = index
  | mintToTreasury _ _ i => i = index
  | transfer _ _ _ => True
  | transferOnLiquidation _ _ _ _ => True
  | claim _ _ => True
  | _ => False

def affects (c : TokenCall) (s : DepositToken) : List String :=
  match c with
  | mint _ holder _ _ => [Text.lower holder]
  | burn _ holder _ _ _ => [Text.lower holder]
  | mintToTreasury _ _ _ => [Text.lower s.treasury]
  | transfer sender recipient _ => [Text.lower sender, Text.lower recipient]
  | transferOnLiquidation _ sender recipient _ => [Text.lower sender, Text.lower recipient]
  | claim holder _ => [Text.lower holder]
  | _ => []

theorem respects_answer (w : DepositToken.PairedWalk R p base)
    (hclaim : ∀ holder token, p (Text.lower holder) →
      Act.Respects R (DepositToken.claim holder token))
    (hc : c.ActsAt base.index) (hp : ∀ x ∈ c.affects base, p x) : Act.Respects R c.answer := by
  cases c with
  | mint caller holder amount index =>
      cases hc
      exact Act.Respects.bind (w.respects_mint (hp _ List.mem_cons_self))
        fun _ => Act.Respects.pure _
  | burn caller holder receiver amount index =>
      cases hc
      exact Act.Respects.bind (w.respects_burn (hp _ List.mem_cons_self))
        fun _ => Act.Respects.pure _
  | mintToTreasury caller amount index =>
      cases hc
      exact Act.Respects.bind (w.respects_mintToTreasury (hp _ List.mem_cons_self))
        fun _ => Act.Respects.pure _
  | transfer sender recipient amount =>
      have hrecipient := hp (Text.lower recipient) (by simp [affects])
      exact Act.Respects.bind (w.respects_transfer (hp _ List.mem_cons_self) hrecipient)
        fun _ => Act.Respects.pure _
  | transferOnLiquidation caller sender recipient amount =>
      have hrecipient := hp (Text.lower recipient) (by simp [affects])
      exact Act.Respects.bind
        (w.respects_transferOnLiquidation (hp _ List.mem_cons_self) hrecipient)
        fun _ => Act.Respects.pure _
  | claim holder token =>
      exact Act.Respects.bind (hclaim holder token (hp _ List.mem_cons_self))
        fun _ => Act.Respects.pure _
  | _ => exact hc.elim

theorem resembles_after (hrate : s.model.HasFixedRate) (hc : c.ActsAt s.index) :
    s.Resembles (c.after s) := by
  have hclaim : ∀ holder token, True → Act.Respects (fun s₁ s₂ => s₁ = s₂ ∧ s.Resembles s₁)
      (DepositToken.claim holder token) := by
    intro holder token _
    apply Act.Respects.of_stable
    exact DepositToken.stable_claim_of_rewards
      (fun _ => DepositToken.stable_onRewards_of fun _ _ h => ⟨h.setting.within, h.rates⟩)
      fun _ _ h => ⟨h.setting.within, h.rates⟩
  rw [after_eq]
  have hrespects := respects_answer (DepositToken.pairedWalk_resembles hrate) hclaim hc
    fun _ _ => trivial
  exact (hrespects.after ⟨rfl, .refl s⟩).right

theorem Booked.matchesOn {l : ShareLedger} (hc : c.ActsAt s.index) (h : c.Booked s l) :
    ∃ m, s.model.ledger.MatchesOn (· ∉ c.affects s) m l := by
  cases c with
  | mint caller holder amount index =>
      rcases h with ⟨n, h⟩
      exact ⟨n, h.matchesOn.mono fun x hx => List.ne_of_not_mem_cons hx⟩
  | burn caller holder receiver amount index =>
      rcases h with ⟨n, h⟩
      exact ⟨-n, h.matchesOn.mono fun x hx => List.ne_of_not_mem_cons hx⟩
  | mintToTreasury caller amount index =>
      unfold Booked at h
      dsimp only at h
      split at h
      · rw [h]
        exact ⟨0, ShareLedger.MatchesOn.refl _⟩
      · rcases h with ⟨n, h⟩
        exact ⟨n, h.matchesOn.mono fun x hx => List.ne_of_not_mem_cons hx⟩
  | transfer sender recipient amount =>
      rcases h with ⟨n, h⟩
      exact ⟨0, h.matchesOn.mono fun x hx => by simpa [affects] using hx⟩
  | transferOnLiquidation caller sender recipient amount =>
      rcases h with ⟨n, h⟩
      exact ⟨0, h.matchesOn.mono fun x hx => by simpa [affects] using hx⟩
  | claim holder token =>
      have hsame : l = s.model.ledger := h
      rw [hsame]
      exact ⟨0, ShareLedger.MatchesOn.refl _⟩
  | _ => exact hc.elim

theorem mem_affects_of_mem_pass {x : String} (hx : x ∈ c.pass s) : x ∈ c.affects s := by
  cases c with
  | mint caller holder amount index =>
      exact List.mem_singleton.mpr (DepositToken.eq_of_mem_poolPass hx)
  | burn caller holder receiver amount index =>
      exact List.mem_singleton.mpr (DepositToken.eq_of_mem_poolPass hx)
  | mintToTreasury caller amount index =>
      unfold pass at hx
      dsimp only at hx
      split at hx
      · cases hx
      · exact List.mem_singleton.mpr (DepositToken.eq_of_mem_poolPass hx)
  | transfer sender recipient amount => exact DepositToken.mem_pair_of_mem_movePass hx
  | transferOnLiquidation caller sender recipient amount =>
      exact DepositToken.mem_pair_of_mem_seizurePass hx
  | _ => cases hx

theorem rewards_after (hs : s.WellKept) (hc : c.ActsAt s.index) :
    ∃ e, Option.Rel (RewardProgram.MatchesOn (· ∉ c.affects s) e) s.rewards
      (c.after s).rewards := by
  cases hkind : c.isOfRewards with
  | false =>
      have habandons : s.Abandons (c.pass s) (c.after s).rewards := by
        apply @Act.Leaves.state _ _ c.perform s fun s' => s.Abandons (c.pass s) s'.rewards
        exact (leaves_perform c hs.shares.nonneg).mono
          (fun _ _ h => Or.inr (Or.inl (h.rewards hkind).left)) fun _ _ h => h.rewards hkind
      refine ⟨_, RewardProgram.MatchesOn.rel_mono
        (hs.matchesOn_of_abandons (c.pass_small s) habandons) ?_⟩
      intro x hx hpass
      exact hx (mem_affects_of_mem_pass hpass)
  | true =>
      cases c with
      | claim holder token =>
          have hafter : DepositToken.RewardsAside (Text.lower holder) s.rewards
              ((claim holder token).after s) := by
            unfold after perform
            dsimp only
            rw [Act.run_ending]
            exact DepositToken.stable_rewardsAside_claim.after s (hs.rewardsAside_self _)
          rcases hafter with ⟨e, hafter⟩
          exact ⟨e, RewardProgram.MatchesOn.rel_mono hafter fun x hx => List.ne_of_not_mem_cons hx⟩
      | registerRewardToken token => exact hc.elim
      | distributeRewards token amount => exact hc.elim
      | setReserveFactor caller factor => exact hc.elim
      | _ => cases hkind

theorem matchesOn_after (hs : s.WellKept) (hrate : s.model.HasFixedRate)
    (hc : c.ActsAt s.index) :
    ∃ m e, DepositToken.MatchesOn s (· ∉ c.affects s) m e s (c.after s) := by
  have hbooks : s.model.Alike (c.after s).model ∧
      ∃ m, s.model.ledger.MatchesOn (· ∉ c.affects s) m (c.after s).model.ledger := by
    apply @Act.Leaves.state _ _ c.perform s fun s' => s.model.Alike s'.model ∧
      ∃ m, s.model.ledger.MatchesOn (· ∉ c.affects s) m s'.model.ledger
    apply (leaves_perform c hs.shares.nonneg).mono
    · intro _ s' h
      exact ⟨h.alike, Booked.matchesOn hc h.ledger.left⟩
    · intro _ s' h
      rw [h.ledger]
      exact ⟨h.alike, 0, ShareLedger.MatchesOn.refl _⟩
  rcases hbooks with ⟨halike, m, hledger⟩
  rcases rewards_after hs hc with ⟨e, hrewards⟩
  have hresembles := resembles_after hrate hc
  exact ⟨m, e, .refl s, hresembles.setting, .of_alike halike hresembles.rates hledger, hrewards⟩

theorem hasFixedRate_after (hs : s.WellKept) (hrate : s.model.HasFixedRate)
    (hc : c.ActsAt s.index ∨ c.isOfRewards = true) : (c.after s).model.HasFixedRate := by
  cases hc with
  | inl hc =>
      rcases matchesOn_after hs hrate hc with ⟨m, e, hafter⟩
      exact hafter.model.hasFixedRate hrate
  | inr hc =>
      have hbooks : (c.after s).withoutRewards [] = s.withoutRewards [] := sameBooks_after hc
      have hmodel := congrArg DepositToken.model hbooks
      change (c.after s).model = s.model at hmodel
      rw [hmodel]
      exact hrate

/-!
# Calls about different holders
-/

theorem affects_of_sameSetting (h : s.SameSetting s') (c : TokenCall) :
    c.affects s' = c.affects s := by
  cases c with
  | mintToTreasury caller amount index => simp [affects, h.treasury]
  | _ => rfl

theorem respects_matchesOn {m : Int} {e : String → Int} (hc : c.ActsAt s.index)
    (hp : ∀ x ∈ c.affects s, p x) :
    Act.Respects (DepositToken.MatchesOn s p m e) c.answer :=
  respects_answer DepositToken.pairedWalk_matchesOn
    (fun _ _ hp => DepositToken.respects_claim hp) hc hp

/--
Calls that concern different holders, at the present index and with a fixed
exchange rate, may be made in any order: each ends as it would without the
other, and they leave the same records.
-/
theorem commute_of_disjoint (hs : TokenStep.Reachable s) (hrate : s.model.HasFixedRate)
    (hc : c.ActsAt s.index) (hd : d.ActsAt s.index)
    (hdisjoint : ∀ x ∈ c.affects s, x ∉ d.affects s) :
    (Act.run c.answer (d.after s)).1 = (Act.run c.answer s).1 ∧
      (Act.run d.answer (c.after s)).1 = (Act.run d.answer s).1 ∧
      (d.after (c.after s)).SameRecords (c.after (d.after s)) := by
  have hkept := (DepositToken.restores_of_reachable hs).kept
  rcases matchesOn_after hkept hrate hc with ⟨m, e, hafter⟩
  rcases matchesOn_after hkept hrate hd with ⟨n, f, hafter'⟩
  have hrespects : Act.Respects (DepositToken.MatchesOn s (· ∉ d.affects s) n f) c.answer :=
    respects_matchesOn hc hdisjoint
  have hrespects' : Act.Respects (DepositToken.MatchesOn s (· ∉ c.affects s) m e) d.answer :=
    respects_matchesOn hd fun x hx hxc => hdisjoint x hxc hx
  have hsecond := hrespects.after hafter'
  have hfirst := hrespects'.after hafter
  rw [← after_eq, ← after_eq] at hsecond hfirst
  have hlast : ∃ m' e', DepositToken.MatchesOn (c.after s) (· ∉ d.affects s) m' e' (c.after s)
      (d.after (c.after s)) := by
    rw [← affects_of_sameSetting hafter.right d]
    exact matchesOn_after (DepositToken.wellKept_after c hkept)
      (hasFixedRate_after hkept hrate (Or.inl hc)) (hafter.right.index_eq.symm ▸ hd)
  have hlast' : ∃ m' e', DepositToken.MatchesOn (d.after s) (· ∉ c.affects s) m' e' (d.after s)
      (c.after (d.after s)) := by
    rw [← affects_of_sameSetting hafter'.right c]
    exact matchesOn_after (DepositToken.wellKept_after d hkept)
      (hasFixedRate_after hkept hrate (Or.inl hd)) (hafter'.right.index_eq.symm ▸ hc)
  rcases hlast with ⟨_, _, hlast⟩
  rcases hlast' with ⟨_, _, hlast'⟩
  refine ⟨hrespects.outcome_eq hafter', hrespects'.outcome_eq hafter, ?_⟩
  exact hafter.commute hafter' hfirst hsecond hlast hlast' fun x => by
    by_cases hx : x ∈ c.affects s
    · exact Or.inr (hdisjoint x hx)
    · exact Or.inl hx

/-- On a rebasing reserve, a claim of one holder and a burn of everything that another has. -/
theorem commute_of_disjoint_claim_and_burn :
    let feed : RateFeed := ⟨"wrapped", fun _ => 2 * ray, 0⟩
    let start : DepositToken := .atOne (.rebasing (.fresh (.feed feed))) (some (.empty 5000))
    let s := afterAll [registerRewardToken "REW", mint "pool" "Alice" 4 ray,
      mint "pool" "Bob" 2 ray, distributeRewards "rew" 9] start
    let c := claim "ALICE" "rew"
    let d := burn "pool" "BOB" "bob" everything ray
    TokenStep.Reachable s ∧ s.model.HasFixedRate ∧ c.ActsAt s.index ∧ d.ActsAt s.index ∧
      (∀ x ∈ c.affects s, x ∉ d.affects s) ∧
      (Act.run c.answer s).1.isOk = true ∧ (Act.run d.answer s).1.isOk = true ∧
      (Act.run c.answer (d.after s)).1 = (Act.run c.answer s).1 ∧
      (Act.run d.answer (c.after s)).1 = (Act.run d.answer s).1 ∧
      (d.after (c.after s)).SameRecords (c.after (d.after s)) := by
  intro feed start s c d
  have hmade : TokenStep.Reachable start :=
    DepositToken.reachable_atOne rfl rfl fun _ hp => by cases hp; exact ⟨⟨rfl, rfl⟩, rfl⟩
  have hstart : start.model.HasFixedRate := by
    intro a ha
    cases ha
    intro k
    exact (ReserveAsset.rateAt_feed feed k).trans (ReserveAsset.rateAt_feed feed 0).symm
  have hstep : ∀ {s : DepositToken} (c : TokenCall),
      TokenStep.Reachable s ∧ s.model.HasFixedRate → c.ActsAt s.index ∨ c.isOfRewards = true →
      TokenStep.Reachable (c.after s) ∧ (c.after s).model.HasFixedRate := by
    intro s c h hc
    exact ⟨DepositToken.reachable_after c h.left,
      hasFixedRate_after (DepositToken.restores_of_reachable h.left).kept h.right hc⟩
  have hs : TokenStep.Reachable s ∧ s.model.HasFixedRate := by
    apply hstep (distributeRewards "rew" 9) _ (Or.inr rfl)
    apply hstep (mint "pool" "Bob" 2 ray) _ (Or.inl (show ray = _ by decide +kernel))
    apply hstep (mint "pool" "Alice" 4 ray) _ (Or.inl (show ray = _ by decide +kernel))
    exact hstep (registerRewardToken "REW") ⟨hmade, hstart⟩ (Or.inr rfl)
  have hindex : ray = s.index := by decide +kernel
  have hdisjoint : ∀ x ∈ c.affects s, x ∉ d.affects s := by decide +kernel
  exact ⟨hs.left, hs.right, trivial, hindex, hdisjoint, by decide +kernel, by decide +kernel,
    commute_of_disjoint hs.left hs.right trivial hindex hdisjoint⟩

end TokenCall
end ReserveAccounting
