import ReserveAccounting.Proofs.RewardStates

/-!
# Checkpoints around a change

A pass over some accounts settles them in every reward token: each state of
theirs accrues what its basis has earned, and nothing else changes. The states
that the pass saves take the tracker back to what it was before.
-/

namespace ReserveAccounting

open FixedPoint

namespace HolderRewardState

variable {basis index : Int} {s s' s'' : HolderRewardState}

theorem Accrues.index_eq (h : s.Accrues basis index s') : s'.index = index := by
  rcases h with ⟨_, _, rfl⟩
  rfl

theorem Accrues.eq_of_index_eq (h : s.Accrues basis index s') (hindex : s.index = index) :
    s' = s := by
  rcases h with ⟨earned, hearned, rfl⟩
  rw [hindex, Int.sub_self] at hearned
  rw [eq_zero_of_rayMul_zero hearned, Int.add_zero, ← hindex]

end HolderRewardState

namespace RewardTracker

variable {t t' t'' : RewardTracker} {basisOf : String → Int} {p q : String → String → Prop}
  {name x : String}

/-!
# Trackers that differ in some states
-/

/-- A tracker that differs from another in the states of some holders alone. -/
structure DiffersAt (p : String → String → Prop) (t t' : RewardTracker) : Prop where
  capacity : t'.capacity = t.capacity
  rewardTokens : t'.rewardTokens = t.rewardTokens
  tokenStates : t'.tokenStates = t.tokenStates
  strays : t'.strays = t.strays
  names : t'.holderStates.keys = t.holderStates.keys
  states : ∀ name, (t.statesOf name).DiffersAt (p name) (t'.statesOf name)

namespace DiffersAt

theorem refl (p : String → String → Prop) (t : RewardTracker) : DiffersAt p t t where
  capacity := rfl
  rewardTokens := rfl
  tokenStates := rfl
  strays := rfl
  names := rfl
  states _ := Table.DiffersAt.refl _ _

theorem mono (h : DiffersAt p t t') (hpq : ∀ name x, p name x → q name x) : DiffersAt q t t' where
  capacity := h.capacity
  rewardTokens := h.rewardTokens
  tokenStates := h.tokenStates
  strays := h.strays
  names := h.names
  states name := (h.states name).mono (hpq name)

theorem trans (h : DiffersAt p t t') (h' : DiffersAt p t' t'') : DiffersAt p t t'' where
  capacity := h'.capacity.trans h.capacity
  rewardTokens := h'.rewardTokens.trans h.rewardTokens
  tokenStates := h'.tokenStates.trans h.tokenStates
  strays := h'.strays.trans h.strays
  names := h'.names.trans h.names
  states name := (h.states name).trans (h'.states name)

theorem tokenOf_eq (h : DiffersAt p t t') (name : String) : t'.tokenOf name = t.tokenOf name := by
  unfold tokenOf
  rw [h.tokenStates]

theorem of_withHolder (ht : t.Sound) (h : name ∈ t.rewardTokens) (hp : p name x)
    (s : HolderRewardState) : DiffersAt p t (t.withHolder name x s) where
  capacity := rfl
  rewardTokens := rfl
  tokenStates := rfl
  strays := rfl
  names := by
    unfold withHolder
    rw [Table.keys_put, if_pos (ht.holders ▸ h)]
  states name' := by
    rw [statesOf_withHolder]
    split
    · next heq =>
        subst heq
        exact Table.DiffersAt.of_put hp s
    · exact Table.DiffersAt.refl _ _

theorem eq_of_forall_not (h : DiffersAt p t t') (hp : ∀ name x, ¬ p name x) : t' = t := by
  have hstates : t'.holderStates = t.holderStates := by
    apply Table.ext_get? h.names
    intro name
    have hsame : t'.statesOf name = t.statesOf name := (h.states name).eq_of_forall_not (hp name)
    unfold statesOf Table.getD at hsame
    cases hget : t.holderStates.get? name with
    | none =>
        rw [Table.get?_eq_none_iff] at hget ⊢
        rwa [h.names]
    | some hs =>
        rcases Table.get?_of_mem_keys (h.names ▸ Table.mem_keys_of_get? hget) with ⟨hs', hget'⟩
        rw [hget, hget', Option.getD_some, Option.getD_some] at hsame
        rw [hget', hsame]
  rcases t with ⟨capacity, tokens, tokenStates, holderStates, strays⟩
  rcases t' with ⟨capacity', tokens', tokenStates', holderStates', strays'⟩
  have hcapacity : capacity' = capacity := h.capacity
  have htokens : tokens' = tokens := h.rewardTokens
  have htokenStates : tokenStates' = tokenStates := h.tokenStates
  have hstrays : strays' = strays := h.strays
  subst hcapacity htokens htokenStates hstrays hstates
  rfl

end DiffersAt

/-!
# Settling
-/

def Settled (t : RewardTracker) (name x : String) : Prop :=
  (t.stateOf name x).index = (t.tokenOf name).lifetimeIndex

/-- Some states, each of which stays or accrues, and nothing else changes. -/
structure Settles (basisOf : String → Int) (p : String → String → Prop) (t t' : RewardTracker) :
    Prop where
  sound : t'.Sound
  differs : t.DiffersAt p t'
  states : ∀ name x, t'.stateOf name x = t.stateOf name x ∨
    (t.stateOf name x).Accrues (basisOf x) (t.tokenOf name).lifetimeIndex (t'.stateOf name x)

namespace Settles

theorem refl (ht : t.Sound) : Settles basisOf p t t where
  sound := ht
  differs := DiffersAt.refl p t
  states _ _ := Or.inl rfl

theorem mono (h : Settles basisOf p t t') (hpq : ∀ name x, p name x → q name x) :
    Settles basisOf q t t' where
  sound := h.sound
  differs := h.differs.mono hpq
  states := h.states

theorem settled (h : Settles basisOf p t t') (hx : t.Settled name x) : t'.Settled name x := by
  unfold Settled
  rw [h.differs.tokenOf_eq]
  rcases h.states name x with hsame | haccrues
  · rw [hsame]
    exact hx
  · exact haccrues.index_eq

theorem trans (h : Settles basisOf p t t') (h' : Settles basisOf p t' t'') :
    Settles basisOf p t t'' where
  sound := h'.sound
  differs := h.differs.trans h'.differs
  states name x := by
    have hsecond := h'.states name x
    rw [h.differs.tokenOf_eq] at hsecond
    rcases h.states name x with hsame | haccrues
    · rw [hsame] at hsecond
      exact hsecond
    · rcases hsecond with hsame' | haccrues'
      · rw [hsame']
        exact Or.inr haccrues
      · rw [haccrues'.eq_of_index_eq haccrues.index_eq]
        exact Or.inr haccrues

theorem of_withHolder (ht : t.Sound) (h : name ∈ t.rewardTokens) (hx : Text.lower x = x)
    (hp : p name x) {s : HolderRewardState}
    (hs : s = t.stateOf name x ∨
      (t.stateOf name x).Accrues (basisOf x) (t.tokenOf name).lifetimeIndex s) :
    Settles basisOf p t (t.withHolder name x s) where
  sound := sound_withHolder ht h hx s
  differs := DiffersAt.of_withHolder ht h hp s
  states name' x' := by
    rw [stateOf_withHolder]
    split
    · next heq =>
        rcases heq with ⟨rfl, rfl⟩
        exact hs
    · exact Or.inl rfl

end Settles

theorem settles_checkpoint (ht : t.Sound) {token : String}
    (hp : ∀ name ∈ t.rewardTokens, p name (Text.lower x)) :
    (checkpoint x token (basisOf (Text.lower x))).Leaves t
      (fun _ t' => Settles basisOf p t t' ∧ t'.Settled (Text.lower token) (Text.lower x))
      (fun _ t' => Settles basisOf p t t') := by
  apply (leaves_checkpoint ht).mono
  · intro _ t' h
    rcases h with ⟨hmem, s, haccrues, rfl⟩
    refine ⟨Settles.of_withHolder ht hmem (Text.lower_lower x) (hp _ hmem) (Or.inr haccrues), ?_⟩
    unfold Settled
    rw [stateOf_withHolder, if_pos ⟨rfl, rfl⟩, tokenOf_withHolder]
    exact haccrues.index_eq
  · intro _ t' h
    rcases h with rfl | ⟨hmem, rfl⟩
    · exact Settles.refl ht
    · exact Settles.of_withHolder ht hmem (Text.lower_lower x) (hp _ hmem) (Or.inl rfl)

theorem requireName_of_sound (ht : t.Sound) (token : String) : t.requireName token = .ok () := by
  unfold requireName
  rw [ht.strays]
  rfl

def checkpointListed (t : RewardTracker) (x : String) (basis : Int) (token : String) :
    Act RewardTracker Unit := do
  t.requireName token
  let _ ← checkpoint x token basis

theorem checkpointAll_eq (x : String) (basis : Int) :
    checkpointAll x basis = (do
      let t ← Act.current
      Act.forEach (t.checkpointListed x basis) t.rewardTokens) := rfl

theorem settles_checkpointListed (ht : t.Sound) (ht' : t'.Sound) (hx : Text.lower x = x)
    (hp : ∀ name ∈ t'.rewardTokens, p name x) :
    (t.checkpointListed x (basisOf x) name).Leaves t'
      (fun _ t'' => Settles basisOf p t' t'' ∧ t''.Settled (Text.lower name) x)
      (fun _ t'' => Settles basisOf p t' t'') := by
  unfold checkpointListed
  rw [Act.leaves_bind, requireName_of_sound ht, Act.leaves_faulty]
  refine ⟨fun _ _ => ?_, fun _ h => by cases h⟩
  rw [Act.leaves_bind]
  have hcheckpoint := @settles_checkpoint t' basisOf p x ht' name
    (fun name hname => hx.symm ▸ hp name hname)
  rw [hx] at hcheckpoint
  exact hcheckpoint

theorem settles_checkpointEach (ht : t.Sound) (ht' : t'.Sound) (hx : Text.lower x = x)
    {tokens : List String} (htokens : ∀ name ∈ tokens, Text.lower name = name)
    (hp : ∀ name ∈ t'.rewardTokens, p name x) :
    (Act.forEach (t.checkpointListed x (basisOf x)) tokens).Leaves t'
      (fun _ t'' => Settles basisOf p t' t'' ∧ ∀ name ∈ tokens, t''.Settled name x)
      (fun _ t'' => Settles basisOf p t' t'') := by
  induction tokens generalizing t' with
  | nil =>
      rw [Act.leaves_forEach_nil]
      exact ⟨Settles.refl ht', fun _ h => absurd h List.not_mem_nil⟩
  | cons token rest ih =>
      rw [Act.leaves_forEach_cons]
      apply (settles_checkpointListed ht ht' hx hp).mono
      · intro _ t₁ hleft
        rcases hleft with ⟨hsettles, hsettled⟩
        rw [htokens token List.mem_cons_self] at hsettled
        have hp₁ : ∀ name ∈ t₁.rewardTokens, p name x := by
          rw [hsettles.differs.rewardTokens]
          exact hp
        apply (ih hsettles.sound (fun n hn => htokens n (List.mem_cons_of_mem token hn)) hp₁).mono
        · intro _ t₂ hleft
          rcases hleft with ⟨hrest, hall⟩
          refine ⟨hsettles.trans hrest, ?_⟩
          intro name hname
          rcases List.mem_cons.mp hname with rfl | hname
          · exact hrest.settled hsettled
          · exact hall name hname
        · intro _ t₂ hrest
          exact hsettles.trans hrest
      · intro _ t₁ hsettles
        exact hsettles

theorem settles_checkpointAll (ht : t.Sound) (hx : Text.lower x = x)
    (hp : ∀ name ∈ t.rewardTokens, p name x) :
    (checkpointAll x (basisOf x)).Leaves t
      (fun _ t' => Settles basisOf p t t' ∧ ∀ name ∈ t.rewardTokens, t'.Settled name x)
      (fun _ t' => Settles basisOf p t t') := by
  rw [checkpointAll_eq, Act.leaves_bind, Act.leaves_current]
  exact settles_checkpointEach ht ht hx ht.small hp

/-!
# Saving and restoring
-/

def Faithful (t : RewardTracker) (e : Saved) : Prop :=
  e.token ∈ t.rewardTokens ∧ e.state = (t.statesOf e.token).get? e.holder ∧ e.strays = []

def savedAt (t : RewardTracker) (x name : String) : Saved :=
  ⟨name, x, (t.statesOf name).get? x, []⟩

theorem saveStates_of_sound (ht : t.Sound) {tokens : List String}
    (htokens : ∀ name ∈ tokens, name ∈ t.rewardTokens) :
    t.saveStates x tokens = .ok (tokens.map (t.savedAt x)) := by
  induction tokens with
  | nil => rfl
  | cons name rest ih =>
      have hrest := ih fun n hn => htokens n (List.mem_cons_of_mem name hn)
      unfold saveStates
      rw [holdersOf_of_mem ht (htokens name List.mem_cons_self), hrest, ht.strays]
      rfl

theorem statesOf_restoreOne (e : Saved) (name : String) :
    (t.restoreOne e).statesOf name =
      if name = e.token then (t.statesOf e.token).putBack e.holder e.state
      else t.statesOf name := by
  unfold restoreOne statesOf
  rw [Table.getD_put]
  cases e.state <;> rfl

theorem DiffersAt.restoreOne {e : Saved} (ht : t.Sound) (h : DiffersAt p t t')
    (he : t.Faithful e) :
    DiffersAt (fun name x => p name x ∧ ¬ (name = e.token ∧ x = e.holder)) t (t'.restoreOne e) where
  capacity := h.capacity
  rewardTokens := h.rewardTokens
  tokenStates := h.tokenStates
  strays := by
    change e.strays ++ t'.strays.without _ = _
    rw [he.right.right, h.strays, ht.strays]
    rfl
  names := by
    change (t'.holderStates.put e.token _).keys = _
    rw [Table.keys_put, if_pos (h.names ▸ ht.holders ▸ he.left), h.names]
  states name := by
    rw [statesOf_restoreOne]
    split
    · next heq =>
        subst heq
        have hback := (h.states e.token).putBack e.holder
        rw [← he.right.left] at hback
        apply hback.mono
        intro k hleft
        rcases hleft with ⟨hp, hne⟩
        exact ⟨hp, fun hsame => hne hsame.right⟩
    · next hne =>
        exact (h.states name).mono fun k hk => ⟨hk, fun hsame => hne hsame.left⟩

theorem DiffersAt.restore {saved : List Saved} (ht : t.Sound) (h : DiffersAt p t t')
    (hsaved : ∀ e ∈ saved, t.Faithful e) :
    DiffersAt (fun name x => p name x ∧ ∀ e ∈ saved, ¬ (name = e.token ∧ x = e.holder)) t
      (t'.restore saved) := by
  induction saved generalizing p t' with
  | nil => exact h.mono fun name x hp => ⟨hp, fun _ he => absurd he List.not_mem_nil⟩
  | cons e rest ih =>
      have hone := h.restoreOne ht (hsaved e List.mem_cons_self)
      have hrest := ih hone fun e' he' => hsaved e' (List.mem_cons_of_mem e he')
      apply hrest.mono
      intro name x hleft
      rcases hleft with ⟨⟨hp, hne⟩, hothers⟩
      refine ⟨hp, fun e' he' => ?_⟩
      rcases List.mem_cons.mp he' with rfl | he'
      · exact hne
      · exact hothers e' he'

def StatesOf (t : RewardTracker) (accounts : List String) (name x : String) : Prop :=
  name ∈ t.rewardTokens ∧ x ∈ accounts

/-- Saved states that take a tracker back wherever only states of the accounts have changed. -/
structure Saves (t : RewardTracker) (accounts : List String) (saved : List Saved) : Prop where
  faithful : ∀ e ∈ saved, t.Faithful e ∧ e.holder ∈ accounts
  complete : ∀ name x, t.StatesOf accounts name x → ∃ e ∈ saved, name = e.token ∧ x = e.holder

theorem Saves.restore_eq {accounts : List String} {saved : List Saved} (ht : t.Sound)
    (h : t.Saves accounts saved) (hdiffers : DiffersAt (t.StatesOf accounts) t t') :
    t'.restore saved = t := by
  apply (hdiffers.restore ht fun e he => (h.faithful e he).left).eq_of_forall_not
  intro name x hleft
  rcases hleft with ⟨hstates, hnone⟩
  rcases h.complete name x hstates with ⟨e, he, hsame⟩
  exact hnone e he hsame

/-!
# A pass over accounts
-/

def saveAndCheckpoint (basisOf : String → Int) (x : String) : Act RewardTracker (List Saved) := do
  let t ← Act.current
  let saved ← t.saveStates x t.rewardTokens
  checkpointAll x (basisOf x)
  return saved

theorem checkpointHolders_eq (basisOf : String → Int) (accounts : List String) :
    checkpointHolders basisOf accounts = (do
      let saved ← Act.mapEach (saveAndCheckpoint basisOf) accounts.eraseDups
      return saved.flatten) := rfl

theorem settles_saveAndCheckpoint (ht : t.Sound) (hx : Text.lower x = x) :
    (saveAndCheckpoint basisOf x).Leaves t
      (fun saved t' => saved = t.rewardTokens.map (t.savedAt x) ∧
        Settles basisOf (t.StatesOf [x]) t t' ∧ ∀ name ∈ t.rewardTokens, t'.Settled name x)
      (fun _ t' => Settles basisOf (t.StatesOf [x]) t t') := by
  unfold saveAndCheckpoint
  rw [Act.leaves_bind, Act.leaves_current, Act.leaves_bind, Act.leaves_faulty,
    saveStates_of_sound ht fun _ h => h]
  refine ⟨?_, fun _ h => by cases h⟩
  intro _ hleft
  rcases hleft with ⟨⟩
  rw [Act.leaves_bind]
  have hp : ∀ name ∈ t.rewardTokens, t.StatesOf [x] name x :=
    fun name hname => ⟨hname, List.mem_singleton.mpr rfl⟩
  apply (settles_checkpointAll ht hx hp).mono
  · intro _ t' hleft
    rcases hleft with ⟨hsettles, hsettled⟩
    exact ⟨rfl, hsettles, hsettled⟩
  · intro _ t' hsettles
    exact hsettles

theorem nodup_eraseDups (xs : List String) : xs.eraseDups.Nodup := by
  match xs with
  | [] => exact List.nodup_nil
  | x :: rest =>
      have hshorter : (rest.filter fun y => !y == x).length < (x :: rest).length :=
        Nat.lt_succ_of_le (List.length_filter_le _ rest)
      rw [List.eraseDups_cons, List.nodup_cons]
      refine ⟨?_, nodup_eraseDups _⟩
      rw [List.mem_eraseDups, List.mem_filter]
      simp
termination_by xs.length
decreasing_by exact hshorter

theorem settles_checkpointEachOnce (ht : t.Sound) {accounts : List String}
    (hnodup : accounts.Nodup) (hsmall : ∀ x ∈ accounts, Text.lower x = x) :
    (Act.mapEach (saveAndCheckpoint basisOf) accounts).Leaves t
      (fun saved t' => t.Saves accounts saved.flatten ∧
        Settles basisOf (t.StatesOf accounts) t t' ∧
        ∀ x ∈ accounts, ∀ name ∈ t.rewardTokens, t'.Settled name x)
      (fun _ t' => Settles basisOf (t.StatesOf accounts) t t') := by
  induction accounts generalizing t with
  | nil =>
      rw [Act.leaves_mapEach_nil]
      refine ⟨⟨fun _ h => absurd h List.not_mem_nil, ?_⟩, Settles.refl ht,
        fun _ h => absurd h List.not_mem_nil⟩
      intro name x hleft
      rcases hleft with ⟨_, h⟩
      exact absurd h List.not_mem_nil
  | cons x rest ih =>
      rw [List.nodup_cons] at hnodup
      have hfirst : ∀ name y, t.StatesOf [x] name y → t.StatesOf (x :: rest) name y := by
        intro name y hleft
        rcases hleft with ⟨hname, hy⟩
        rw [List.mem_singleton] at hy
        exact ⟨hname, hy ▸ List.mem_cons_self⟩
      rw [Act.leaves_mapEach_cons]
      apply (settles_saveAndCheckpoint ht (hsmall x List.mem_cons_self)).mono
      · intro first t₁ hleft
        rcases hleft with ⟨rfl, hsettles, hsettled⟩
        have htokens : t₁.rewardTokens = t.rewardTokens := hsettles.differs.rewardTokens
        have hlater : ∀ name y, t₁.StatesOf rest name y → t.StatesOf (x :: rest) name y := by
          intro name y hleft
          rcases hleft with ⟨hname, hy⟩
          exact ⟨htokens ▸ hname, List.mem_cons_of_mem x hy⟩
        apply (ih hsettles.sound hnodup.right
          fun y hy => hsmall y (List.mem_cons_of_mem x hy)).mono
        · intro later t₂ hleft
          rcases hleft with ⟨hsaves, hrest, hall⟩
          refine ⟨⟨?_, ?_⟩, (hsettles.mono hfirst).trans (hrest.mono hlater), ?_⟩
          · intro e he
            rw [List.flatten_cons, List.mem_append, List.mem_map] at he
            rcases he with ⟨name, hname, rfl⟩ | he
            · exact ⟨⟨hname, rfl, rfl⟩, List.mem_cons_self⟩
            · -- what is saved later is still as it was at first, as the account is another one
              rcases hsaves.faithful e he with ⟨⟨htoken, hstate, hstrays⟩, hholder⟩
              have hother : ¬ t.StatesOf [x] e.token e.holder := by
                intro hleft
                rcases hleft with ⟨_, hsame⟩
                exact hnodup.left (List.mem_singleton.mp hsame ▸ hholder)
              rw [(hsettles.differs.states e.token).get e.holder hother] at hstate
              exact ⟨⟨htokens ▸ htoken, hstate, hstrays⟩, List.mem_cons_of_mem x hholder⟩
          · intro name y hleft
            rcases hleft with ⟨hname, hy⟩
            rw [List.flatten_cons]
            rcases List.mem_cons.mp hy with rfl | hy
            · exact ⟨t.savedAt y name,
                List.mem_append_left _ (List.mem_map_of_mem hname), rfl, rfl⟩
            · rcases hsaves.complete name y ⟨htokens.symm ▸ hname, hy⟩ with ⟨e, he, hsame⟩
              exact ⟨e, List.mem_append_right _ he, hsame⟩
          · intro y hy name hname
            rcases List.mem_cons.mp hy with rfl | hy
            · exact hrest.settled (hsettled name hname)
            · exact hall y hy name (htokens.symm ▸ hname)
        · intro _ t₂ hrest
          exact (hsettles.mono hfirst).trans (hrest.mono hlater)
      · intro _ t₁ hsettles
        exact hsettles.mono hfirst

theorem settles_checkpointHolders (ht : t.Sound) {accounts : List String}
    (hsmall : ∀ x ∈ accounts, Text.lower x = x) :
    (checkpointHolders basisOf accounts).Leaves t
      (fun saved t' => t.Saves accounts saved ∧ Settles basisOf (t.StatesOf accounts) t t' ∧
        ∀ x ∈ accounts, ∀ name ∈ t.rewardTokens, t'.Settled name x)
      (fun _ t' => Settles basisOf (t.StatesOf accounts) t t') := by
  have hmem : ∀ name x, t.StatesOf accounts.eraseDups name x ↔ t.StatesOf accounts name x := by
    intro name x
    unfold StatesOf
    rw [List.mem_eraseDups]
  rw [checkpointHolders_eq, Act.leaves_bind]
  apply (settles_checkpointEachOnce ht (nodup_eraseDups accounts)
    fun x hx => hsmall x (List.mem_eraseDups.mp hx)).mono
  · intro saved t' h
    rcases h with ⟨hsaves, hsettles, hsettled⟩
    rw [Act.leaves_pure]
    refine ⟨⟨?_, ?_⟩, hsettles.mono fun name x => (hmem name x).mp, ?_⟩
    · intro e he
      rcases hsaves.faithful e he with ⟨hfaithful, hholder⟩
      exact ⟨hfaithful, List.mem_eraseDups.mp hholder⟩
    · intro name x hstates
      exact hsaves.complete name x ((hmem name x).mpr hstates)
    · intro x hx
      exact hsettled x (List.mem_eraseDups.mpr hx)
  · intro _ t' hsettles
    exact hsettles.mono fun name x => (hmem name x).mp

end RewardTracker
end ReserveAccounting
