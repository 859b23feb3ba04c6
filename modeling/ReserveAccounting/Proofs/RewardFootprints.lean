import ReserveAccounting.Proofs.Checkpoints
import ReserveAccounting.Proofs.PairedRuns
import ReserveAccounting.Proofs.RewardCalls

/-!
# Footprints of calls on rewards

Checkpoints and claims read the states of reward tokens, and they read and write
the states of the holders that they are about. A cut is added to the tally of
the treasury, which no call reads. So on trackers that agree on these holders
they end the same and do the same, whatever the other holders have and however
far apart the tallies are.
-/

namespace ReserveAccounting

open FixedPoint

def RewardTokenState.tallied (s : RewardTokenState) (amount : Int) : RewardTokenState :=
  { s with treasuryClaimed := s.treasuryClaimed + amount }

theorem RewardTokenState.tallied_tallied (s : RewardTokenState) (m n : Int) :
    (s.tallied m).tallied n = s.tallied (m + n) := by
  simp [tallied, Int.add_assoc]

namespace RewardTracker

variable {p : String → Prop} {e e' : String → Int} {t t' t'' : RewardTracker}
  {name x holder token : String} {basis amount factor : Int}

/-!
# Calls as they run
-/

theorem run_writeHolder (ht : t.Sound) (s : HolderRewardState)
    {settle : Strays RewardPlace → Strays RewardPlace} (hsettle : settle [] = []) :
    Act.run (writeHolder name x s settle) t = (.ok (), t.withHolder name x s) := by
  have hwritten : (writeHolder name x s settle).Leaves t
      (fun _ t' => t' = t.withHolder name x s) (fun _ _ => False) := by
    rw [leaves_writeHolder ht hsettle]
  exact Prod.ext rfl (hwritten.of_ok rfl)

theorem run_writeToken (ht : t.Sound) (s : RewardTokenState) {figures : List TokenFigure} :
    Act.run (writeToken name s figures) t = (.ok (), t.withToken name s) := by
  have hwritten : (writeToken name s figures).Leaves t
      (fun _ t' => t' = t.withToken name s) (fun _ _ => False) := by
    rw [leaves_writeToken ht]
  exact Prod.ext rfl (hwritten.of_ok rfl)

theorem run_openHolderState (ht : t.Sound) (h : Text.lower token ∈ t.rewardTokens) :
    Act.run (openHolderState holder token) t =
      (.ok (t.stateOf (Text.lower token) (Text.lower holder)),
        t.withHolder (Text.lower token) (Text.lower holder)
          (t.stateOf (Text.lower token) (Text.lower holder))) := by
  unfold openHolderState
  rw [Act.run_bind_ok (Act.run_current t), holderState_of_mem ht h, Act.bind_value,
    Act.run_bind_ok (run_writeHolder ht _ rfl)]
  rfl

theorem run_checkpoint_of_not_mem (ht : t.Sound) (h : Text.lower token ∉ t.rewardTokens) :
    Act.run (checkpoint holder token basis) t =
      (.error (.ofRefusal (.unknownRewardToken token)), t) := by
  unfold checkpoint
  rw [Act.run_bind_ok (Act.run_current t), tokenState_of_not_mem ht h]
  rfl

theorem run_checkpoint (ht : t.Sound) (h : Text.lower token ∈ t.rewardTokens) :
    Act.run (checkpoint holder token basis) t =
      match rayMul basis ((t.tokenOf (Text.lower token)).lifetimeIndex -
          (t.stateOf (Text.lower token) (Text.lower holder)).index) with
      | .ok earned => (.ok earned, t.withHolder (Text.lower token) (Text.lower holder)
          { t.stateOf (Text.lower token) (Text.lower holder) with
            accrued := (t.stateOf (Text.lower token) (Text.lower holder)).accrued + earned
            index := (t.tokenOf (Text.lower token)).lifetimeIndex })
      | .error r => (.error (.ofRefusal r), t.withHolder (Text.lower token) (Text.lower holder)
          (t.stateOf (Text.lower token) (Text.lower holder))) := by
  have hopened := sound_withHolder ht h (Text.lower_lower holder)
    (t.stateOf (Text.lower token) (Text.lower holder))
  unfold checkpoint
  rw [Act.run_bind_ok (Act.run_current t), tokenState_of_mem ht h, Act.bind_value,
    Act.run_bind_ok (run_openHolderState ht h)]
  simp only [growthSince_of_sound ht, holderFigure_of_sound ht, tokenFigure_of_sound ht,
    Act.bind_value]
  cases hearned : rayMul basis ((t.tokenOf (Text.lower token)).lifetimeIndex -
      (t.stateOf (Text.lower token) (Text.lower holder)).index) with
  | ok earned =>
      rw [Act.bind_refusable, Act.run_bind_ok (run_writeHolder hopened _ rfl),
        withHolder_withHolder]
      rfl
  | error r => rfl

theorem run_claim (ht : t.Sound) (h : Text.lower token ∈ t.rewardTokens)
    (hfactor : 0 ≤ factor ∧ factor ≤ maxFactor) :
    Act.run (claim holder token factor) t =
      (((percentMul (t.stateOf (Text.lower token) (Text.lower holder)).claimable factor).mapError
          Fault.ofRefusal).map fun cut =>
          ⟨Text.lower holder, Text.lower token,
            (t.stateOf (Text.lower token) (Text.lower holder)).claimable, cut⟩,
        t.withHolder (Text.lower token) (Text.lower holder)
          { t.stateOf (Text.lower token) (Text.lower holder) with
            claimed := (t.stateOf (Text.lower token) (Text.lower holder)).accrued }) := by
  have hopened := sound_withHolder ht h (Text.lower_lower holder)
    (t.stateOf (Text.lower token) (Text.lower holder))
  unfold claim
  rw [if_neg (not_not.mpr hfactor), Act.run_bind_ok (Act.run_current t),
    Act.run_bind_ok (run_openHolderState ht h)]
  simp only [holderFigure_of_sound ht, Act.bind_value]
  rw [Act.run_bind_ok (run_writeHolder hopened _ rfl), withHolder_withHolder]
  change Act.run (liftM (percentMul
    (t.stateOf (Text.lower token) (Text.lower holder)).claimable factor) >>= _) _ = _
  cases percentMul (t.stateOf (Text.lower token) (Text.lower holder)).claimable factor with
  | ok cut => rfl
  | error r => rfl

theorem run_claim_of_not_mem (ht : t.Sound) (h : Text.lower token ∉ t.rewardTokens)
    (hfactor : 0 ≤ factor ∧ factor ≤ maxFactor) :
    Act.run (claim holder token factor) t =
      (.error (.ofRefusal (.unknownRewardToken token)), t) := by
  unfold claim openHolderState holderState
  rw [if_neg (not_not.mpr hfactor), Act.run_bind_ok (Act.run_current t), Act.run_bind]
  rw [Act.run_bind_ok (Act.run_current t), tokenState_of_not_mem ht h]
  rfl

theorem run_recordTreasuryCut (ht : t.Sound) :
    Act.run (recordTreasuryCut token amount) t =
      if Text.lower token ∈ t.rewardTokens then
        (.ok (), t.withToken (Text.lower token)
          ((t.tokenOf (Text.lower token)).tallied amount))
      else (.error (.ofRefusal (.unknownRewardToken token)), t) := by
  unfold recordTreasuryCut
  rw [Act.run_bind_ok (Act.run_current t)]
  split
  · next h =>
      rw [tokenState_of_mem ht h]
      simp only [tokenFigure_of_sound ht, Act.bind_value]
      exact run_writeToken ht _
  · next h =>
      rw [tokenState_of_not_mem ht h]
      rfl

/-!
# Trackers that match
-/

/-- A tracker that agrees with another on the states of some holders, with tallies that are off. -/
structure MatchesOn (p : String → Prop) (e : String → Int) (t t' : RewardTracker) : Prop where
  left : t.Sound
  right : t'.Sound
  rewardTokens : t'.rewardTokens = t.rewardTokens
  tokens : ∀ name, t'.tokenOf name = (t.tokenOf name).tallied (e name)
  states : ∀ name x, p x → (t'.statesOf name).get? x = (t.statesOf name).get? x

namespace MatchesOn

theorem refl (ht : t.Sound) : t.MatchesOn p (fun _ => 0) t where
  left := ht
  right := ht
  rewardTokens := rfl
  tokens name := by simp [RewardTokenState.tallied]
  states _ _ _ := rfl

theorem trans (h : t.MatchesOn p e t') (h' : t'.MatchesOn p e' t'') :
    t.MatchesOn p (fun name => e name + e' name) t'' where
  left := h.left
  right := h'.right
  rewardTokens := h'.rewardTokens.trans h.rewardTokens
  tokens name := by rw [h'.tokens, h.tokens, RewardTokenState.tallied_tallied]
  states name x hx := (h'.states name x hx).trans (h.states name x hx)

theorem mono {q : String → Prop} (h : t.MatchesOn p e t') (hpq : ∀ x, q x → p x) :
    t.MatchesOn q e t' where
  left := h.left
  right := h.right
  rewardTokens := h.rewardTokens
  tokens := h.tokens
  states name x hx := h.states name x (hpq x hx)

theorem stateOf_eq (h : t.MatchesOn p e t') (hx : p x) : t'.stateOf name x = t.stateOf name x := by
  simp [stateOf, Table.getD, h.states name x hx]

theorem lifetimeIndex_eq (h : t.MatchesOn p e t') (name : String) :
    (t'.tokenOf name).lifetimeIndex = (t.tokenOf name).lifetimeIndex := by
  rw [h.tokens]
  rfl

theorem savedAt_eq (h : t.MatchesOn p e t') (hx : p x) : t'.savedAt x = t.savedAt x := by
  funext name
  simp [savedAt, h.states name x hx]

theorem withHolder (h : t.MatchesOn p e t') (hname : name ∈ t.rewardTokens)
    (hx : Text.lower x = x) (s : HolderRewardState) :
    (t.withHolder name x s).MatchesOn p e (t'.withHolder name x s) where
  left := sound_withHolder h.left hname hx s
  right := sound_withHolder h.right (h.rewardTokens ▸ hname) hx s
  rewardTokens := h.rewardTokens
  tokens := h.tokens
  states name' y hy := by
    rw [statesOf_withHolder, statesOf_withHolder]
    split
    · rw [Table.get?_put, Table.get?_put, h.states name y hy]
    · exact h.states name' y hy

theorem withTally (h : t.MatchesOn p e t') (hname : name ∈ t.rewardTokens) (amount : Int) :
    (t.withToken name ((t.tokenOf name).tallied amount)).MatchesOn p e
      (t'.withToken name ((t'.tokenOf name).tallied amount)) where
  left := sound_withToken h.left hname (h.left.waiting name)
  right := sound_withToken h.right (h.rewardTokens ▸ hname) (h.right.waiting name)
  rewardTokens := h.rewardTokens
  tokens y := by
    rw [tokenOf_withToken, tokenOf_withToken]
    split
    · next heq =>
        rw [heq, h.tokens, RewardTokenState.tallied_tallied, RewardTokenState.tallied_tallied,
          Int.add_comm]
    · exact h.tokens y
  states := h.states

end MatchesOn

theorem respects_checkpoint (hp : p (Text.lower holder)) :
    Act.Respects (MatchesOn p e) (checkpoint holder token basis) := by
  apply Act.Respects.of_run
  intro t t' h
  by_cases hmem : Text.lower token ∈ t.rewardTokens
  · have hmem' : Text.lower token ∈ t'.rewardTokens := h.rewardTokens ▸ hmem
    rw [run_checkpoint h.left hmem, run_checkpoint h.right hmem', h.stateOf_eq hp,
      h.lifetimeIndex_eq]
    cases rayMul basis ((t.tokenOf (Text.lower token)).lifetimeIndex -
        (t.stateOf (Text.lower token) (Text.lower holder)).index) with
    | ok earned => exact ⟨rfl, h.withHolder hmem (Text.lower_lower holder) _⟩
    | error r => exact ⟨rfl, h.withHolder hmem (Text.lower_lower holder) _⟩
  · have hmem' : Text.lower token ∉ t'.rewardTokens := h.rewardTokens ▸ hmem
    rw [run_checkpoint_of_not_mem h.left hmem, run_checkpoint_of_not_mem h.right hmem']
    exact ⟨rfl, h⟩

theorem respects_claim (hp : p (Text.lower holder)) :
    Act.Respects (MatchesOn p e) (claim holder token factor) := by
  apply Act.Respects.of_run
  intro t t' h
  by_cases hfactor : 0 ≤ factor ∧ factor ≤ maxFactor
  · by_cases hmem : Text.lower token ∈ t.rewardTokens
    · have hmem' : Text.lower token ∈ t'.rewardTokens := h.rewardTokens ▸ hmem
      rw [run_claim h.left hmem hfactor, run_claim h.right hmem' hfactor, h.stateOf_eq hp]
      exact ⟨rfl, h.withHolder hmem (Text.lower_lower holder) _⟩
    · have hmem' : Text.lower token ∉ t'.rewardTokens := h.rewardTokens ▸ hmem
      rw [run_claim_of_not_mem h.left hmem hfactor, run_claim_of_not_mem h.right hmem' hfactor]
      exact ⟨rfl, h⟩
  · unfold claim
    rw [if_pos hfactor]
    exact ⟨rfl, h⟩

theorem respects_recordTreasuryCut :
    Act.Respects (MatchesOn p e) (recordTreasuryCut token amount) := by
  apply Act.Respects.of_run
  intro t t' h
  rw [run_recordTreasuryCut h.left, run_recordTreasuryCut h.right, h.rewardTokens]
  split
  · next hmem => exact ⟨rfl, h.withTally hmem amount⟩
  · exact ⟨rfl, h⟩

/-!
# Passes
-/

theorem respects_checkpointAll (hp : p (Text.lower holder)) :
    Act.Respects (MatchesOn p e) (checkpointAll holder basis) := by
  rw [checkpointAll_eq]
  apply Act.Respects.of_current
  · intro t t' h
    have hlisted : t'.checkpointListed holder basis = t.checkpointListed holder basis := by
      funext token
      simp only [checkpointListed, requireName_of_sound h.left, requireName_of_sound h.right]
    rw [hlisted, h.rewardTokens]
  · intro t t' _
    apply Act.Respects.forEach
    intro token _
    apply Act.Respects.bind (Act.Respects.faulty _)
    intro _
    exact Act.Respects.bind (respects_checkpoint hp) fun _ => Act.Respects.pure ()

theorem respects_saveAndCheckpoint {basisOf : String → Int} (hx : Text.lower x = x) (hp : p x) :
    Act.Respects (MatchesOn p e) (saveAndCheckpoint basisOf x) := by
  unfold saveAndCheckpoint
  apply Act.Respects.of_current
  · intro t t' h
    rw [saveStates_of_sound h.left fun _ h => h, saveStates_of_sound h.right fun _ h => h,
      h.rewardTokens, h.savedAt_eq hp]
  · intro t t' _
    apply Act.Respects.bind (Act.Respects.faulty _)
    intro saved
    exact Act.Respects.bind (respects_checkpointAll (hx.symm ▸ hp)) fun _ => Act.Respects.pure saved

theorem respects_checkpointHolders {basisOf : String → Int} {accounts : List String}
    (haccounts : ∀ x ∈ accounts, Text.lower x = x ∧ p x) :
    Act.Respects (MatchesOn p e) (checkpointHolders basisOf accounts) := by
  rw [checkpointHolders_eq]
  apply Act.Respects.bind
  · apply Act.Respects.mapEach
    intro x hx
    rcases haccounts x (List.mem_eraseDups.mp hx) with ⟨hsmall, hp⟩
    exact respects_saveAndCheckpoint hsmall hp
  · intro saved
    exact Act.Respects.pure _

theorem checkpointHolders_congr {basisOf basisOf' : String → Int} {accounts : List String}
    (h : ∀ x ∈ accounts, basisOf' x = basisOf x) :
    checkpointHolders basisOf' accounts = checkpointHolders basisOf accounts := by
  have heach : Act.mapEach (saveAndCheckpoint basisOf') accounts.eraseDups =
      Act.mapEach (saveAndCheckpoint basisOf) accounts.eraseDups := by
    apply Act.mapEach_congr
    intro x hx
    unfold saveAndCheckpoint
    rw [h x (List.mem_eraseDups.mp hx)]
  rw [checkpointHolders_eq, checkpointHolders_eq, heach]

/-!
# What a call leaves alone
-/

theorem matchesOn_withHolder (ht : t.Sound) (hname : name ∈ t.rewardTokens)
    (hx : Text.lower x = x) (s : HolderRewardState) :
    t.MatchesOn (· ≠ x) (fun _ => 0) (t.withHolder name x s) where
  left := ht
  right := sound_withHolder ht hname hx s
  rewardTokens := rfl
  tokens name := by simp [RewardTokenState.tallied]
  states name' y hy := by
    rw [statesOf_withHolder]
    split
    · next heq => rw [Table.get?_put_of_ne _ hy, heq]
    · rfl

theorem matchesOn_withTally (ht : t.Sound) (hname : name ∈ t.rewardTokens) (amount : Int) :
    t.MatchesOn p (fun y => if y = name then amount else 0)
      (t.withToken name ((t.tokenOf name).tallied amount)) where
  left := ht
  right := sound_withToken ht hname (ht.waiting name)
  rewardTokens := rfl
  tokens y := by
    rw [tokenOf_withToken]
    split
    · next heq => rw [heq]
    · simp [RewardTokenState.tallied]
  states _ _ _ := rfl

def MatchesAside (x : String) (t t' : RewardTracker) : Prop := ∃ e, t.MatchesOn (· ≠ x) e t'

theorem MatchesAside.withHolder (h : t.MatchesAside x t') (hname : name ∈ t'.rewardTokens)
    (hx : Text.lower x = x) (s : HolderRewardState) :
    t.MatchesAside x (t'.withHolder name x s) := by
  rcases h with ⟨e, h⟩
  exact ⟨_, h.trans (matchesOn_withHolder h.right hname hx s)⟩

theorem stable_aside_checkpoint :
    Act.Stable (t.MatchesAside (Text.lower holder)) (checkpoint holder token basis) := by
  apply Act.Stable.of_leaves
  intro t' h
  apply (leaves_checkpoint h.choose_spec.right).mono
  · intro _ t'' hleft
    rcases hleft with ⟨hmem, s, _, rfl⟩
    exact h.withHolder hmem (Text.lower_lower holder) s
  · intro _ t'' hleft
    rcases hleft with rfl | ⟨hmem, rfl⟩
    · exact h
    · exact h.withHolder hmem (Text.lower_lower holder) _

theorem stable_aside_claim :
    Act.Stable (t.MatchesAside (Text.lower holder)) (claim holder token factor) := by
  apply Act.Stable.of_leaves
  intro t' h
  apply (leaves_claim h.choose_spec.right).mono
  · intro _ t'' hleft
    rcases hleft with ⟨hmem, _, rfl⟩
    exact h.withHolder hmem (Text.lower_lower holder) _
  · intro _ t'' hleft
    rcases hleft with rfl | ⟨hmem, rfl⟩
    · exact h
    · exact h.withHolder hmem (Text.lower_lower holder) _

theorem stable_aside_recordTreasuryCut :
    Act.Stable (t.MatchesAside x) (recordTreasuryCut token amount) := by
  apply Act.Stable.of_leaves
  intro t' h
  apply (leaves_recordTreasuryCut h.choose_spec.right).mono
  · intro _ t'' hleft
    rcases hleft with ⟨hmem, rfl⟩
    rcases h with ⟨e, h⟩
    exact ⟨_, h.trans (matchesOn_withTally h.right hmem amount)⟩
  · intro _ t'' hleft
    rcases hleft with ⟨_, rfl⟩
    exact h

theorem Settles.matchesOn {basisOf : String → Int} {accounts : List String} (ht : t.Sound)
    (h : t.Settles basisOf (t.StatesOf accounts) t') :
    t.MatchesOn (· ∉ accounts) (fun _ => 0) t' where
  left := ht
  right := h.sound
  rewardTokens := h.differs.rewardTokens
  tokens name := by simp [h.differs.tokenOf_eq, RewardTokenState.tallied]
  states name x hx := (h.differs.states name).get x fun hstates => hx hstates.right

end RewardTracker
end ReserveAccounting
