import ReserveAccounting.Proofs.PaidRewards
import ReserveAccounting.Proofs.RefusedTrackerCalls
import ReserveAccounting.Proofs.RewardFootprints

/-!
# Runs of a tracker

Whatever is asked of a tracker, and whatever comes of it, its four collections
stay in order: one state and one place for holders under each reward token, no
more reward tokens than the capacity, no more rewards waiting than were received,
and holders that have seen an index of the past and were paid within what they
have accrued. Nothing that holders count on goes back: reward tokens stay in
their places, and the lifetime index and the rewards received only grow. So a
checkpoint finds the index where the holder has seen it, or above.
-/

namespace ReserveAccounting

open FixedPoint

/-!
# States of a holder
-/

namespace HolderRewardState

variable {basis index index' : Int} {s s' : HolderRewardState}

/-- A state that has seen no later index than the given one, and was paid within what it accrued. -/
structure Within (index : Int) (s : HolderRewardState) : Prop where
  seen : 0 ≤ s.index
  past : s.index ≤ index
  paid : 0 ≤ s.claimed
  earned : s.claimed ≤ s.accrued

theorem within_fresh (h : 0 ≤ index) : fresh.Within index where
  seen := Int.le_refl 0
  past := h
  paid := Int.le_refl 0
  earned := Int.le_refl 0

theorem Within.nonneg (h : s.Within index) : 0 ≤ index := h.seen.trans h.past

theorem Within.mono (h : s.Within index) (hle : index ≤ index') : s.Within index' where
  seen := h.seen
  past := h.past.trans hle
  paid := h.paid
  earned := h.earned

theorem Within.of_accrues (h : s.Within index) (haccrues : s.Accrues basis index s') :
    s'.Within index where
  seen := haccrues.index_eq.symm ▸ h.nonneg
  past := haccrues.index_eq.le
  paid := by
    rcases haccrues with ⟨earned, hearned, rfl⟩
    exact h.paid
  earned := RewardTracker.claimed_le_of_accrues h.earned haccrues

theorem Within.of_claimed (h : s.Within index) : { s with claimed := s.accrued }.Within index where
  seen := h.seen
  past := h.past
  paid := h.paid.trans h.earned
  earned := Int.le_refl _

end HolderRewardState

namespace RewardTracker

variable {t t' t'' t₀ : RewardTracker} {name x token holder : String}

/-!
# Trackers in order
-/

structure InOrder (t : RewardTracker) : Prop extends t.Sound where
  room : (t.rewardTokens.length : Int) ≤ max t.capacity 0
  parked : ∀ name, (t.tokenOf name).undistributed ≤ (t.tokenOf name).lifetimeRewards
  entries : ∀ name x, (t.stateOf name x).Within (t.tokenOf name).lifetimeIndex

theorem inOrder_empty (capacity : Int) : (empty capacity).InOrder where
  toSound := sound_empty capacity
  room := le_max_right capacity 0
  parked _ := Int.le_refl 0
  entries _ _ := HolderRewardState.within_fresh (Int.le_refl 0)

/-- A tracker in which nothing of another one has gone back. -/
structure Advances (t t' : RewardTracker) : Prop where
  capacity : t'.capacity = t.capacity
  listed : t.rewardTokens <+: t'.rewardTokens
  index : ∀ name, (t.tokenOf name).lifetimeIndex ≤ (t'.tokenOf name).lifetimeIndex
  received : ∀ name, (t.tokenOf name).lifetimeRewards ≤ (t'.tokenOf name).lifetimeRewards

structure Follows (t t' : RewardTracker) : Prop where
  inOrder : t'.InOrder
  advances : t.Advances t'

namespace Follows

theorem refl (ht : t.InOrder) : t.Follows t where
  inOrder := ht
  advances := ⟨rfl, List.prefix_refl _, fun _ => Int.le_refl _, fun _ => Int.le_refl _⟩

theorem trans (h : t.Follows t') (h' : t'.Follows t'') : t.Follows t'' where
  inOrder := h'.inOrder
  advances :=
    { capacity := h'.advances.capacity.trans h.advances.capacity
      listed := h.advances.listed.trans h'.advances.listed
      index := fun name => (h.advances.index name).trans (h'.advances.index name)
      received := fun name => (h.advances.received name).trans (h'.advances.received name) }

theorem stable {α : Type} {m : Act RewardTracker α}
    (hm : ∀ t : RewardTracker, t.InOrder →
      m.Leaves t (fun _ t' => t.Follows t') (fun _ t' => t.Follows t')) :
    Act.Stable t₀.Follows m := by
  apply Act.Stable.of_leaves
  intro t ht
  exact (hm t ht.inOrder).mono (fun _ _ h => ht.trans h) (fun _ _ h => ht.trans h)

theorem of_withHolder (ht : t.InOrder) (hmem : name ∈ t.rewardTokens) (hx : Text.lower x = x)
    {s : HolderRewardState} (hs : s.Within (t.tokenOf name).lifetimeIndex) :
    t.Follows (t.withHolder name x s) where
  inOrder :=
    { toSound := sound_withHolder ht.toSound hmem hx s
      room := ht.room
      parked := ht.parked
      entries := by
        intro name' x'
        rw [stateOf_withHolder, tokenOf_withHolder]
        split
        · next heq =>
            rw [heq.left]
            exact hs
        · exact ht.entries name' x' }
  advances := ⟨rfl, List.prefix_refl _, fun _ => Int.le_refl _, fun _ => Int.le_refl _⟩

theorem of_withToken (ht : t.InOrder) (hmem : name ∈ t.rewardTokens) {s : RewardTokenState}
    (hwaiting : 0 ≤ s.undistributed) (hparked : s.undistributed ≤ s.lifetimeRewards)
    (hindex : (t.tokenOf name).lifetimeIndex ≤ s.lifetimeIndex)
    (hreceived : (t.tokenOf name).lifetimeRewards ≤ s.lifetimeRewards) :
    t.Follows (t.withToken name s) := by
  have hlater : ∀ y, (t.tokenOf y).lifetimeIndex ≤ ((t.withToken name s).tokenOf y).lifetimeIndex ∧
      (t.tokenOf y).lifetimeRewards ≤ ((t.withToken name s).tokenOf y).lifetimeRewards := by
    intro y
    rw [tokenOf_withToken]
    split
    · next heq =>
        rw [heq]
        exact ⟨hindex, hreceived⟩
    · exact ⟨Int.le_refl _, Int.le_refl _⟩
  refine ⟨⟨sound_withToken ht.toSound hmem hwaiting, ht.room, ?_, ?_⟩, rfl, List.prefix_refl _,
    fun y => (hlater y).left, fun y => (hlater y).right⟩
  · intro y
    rw [tokenOf_withToken]
    split
    · exact hparked
    · exact ht.parked y
  · intro y x
    exact (ht.entries y x).mono (hlater y).left

theorem of_withRegistered (ht : t.InOrder) (hname : Text.lower name = name)
    (hnew : name ∉ t.rewardTokens) (hroom : (t.rewardTokens.length : Int) < t.capacity) :
    t.Follows (t.withRegistered name) where
  inOrder :=
    { toSound := sound_withRegistered ht.toSound hname hnew
      room := by
        change ((t.rewardTokens ++ [name]).length : Int) ≤ max t.capacity 0
        rw [List.length_append, List.length_singleton]
        omega
      parked := fun y => by
        rw [tokenOf_withRegistered ht.toSound hnew]
        exact ht.parked y
      entries := fun y x => by
        rw [stateOf, statesOf_withRegistered ht.toSound hnew,
          tokenOf_withRegistered ht.toSound hnew]
        exact ht.entries y x }
  advances :=
    { capacity := rfl
      listed := List.prefix_append _ _
      index := fun y => (tokenOf_withRegistered ht.toSound hnew).symm ▸ Int.le_refl _
      received := fun y => (tokenOf_withRegistered ht.toSound hnew).symm ▸ Int.le_refl _ }

end Follows

/-!
# Single calls
-/

theorem room_register (ht : t.Sound) :
    (register token).Leaves t
      (fun _ t' => t' = t ∨ (t.rewardTokens.length : Int) < t.capacity) (fun _ _ => True) := by
  have hfull : t.isFull = .ok (t.capacity ≤ t.rewardTokens.length) := by
    unfold isFull
    rw [ht.strays]
    rfl
  unfold register
  rw [Act.leaves_bind, Act.leaves_current, Act.leaves_ite]
  refine ⟨fun _ => Or.inl rfl, fun _ => ?_⟩
  rw [Act.leaves_bind, hfull, Act.leaves_faulty]
  refine ⟨?_, fun _ _ => trivial⟩
  rintro _ ⟨⟩
  rw [Act.leaves_ite]
  refine ⟨fun _ => trivial, fun hroom => Or.inr ?_⟩
  rw [decide_eq_true_eq] at hroom
  exact not_le.mp hroom

theorem follows_register (ht : t.InOrder) :
    (register token).Leaves t (fun _ t' => t.Follows t') (fun _ t' => t.Follows t') := by
  apply ((leaves_register ht.toSound).and (room_register ht.toSound)).mono
  · intro _ t' h
    rcases h with ⟨⟨_, rfl | ⟨hnew, rfl⟩⟩, hroom⟩
    · exact Follows.refl ht
    · rcases hroom with hsame | hroom
      · rw [hsame]
        exact Follows.refl ht
      · exact Follows.of_withRegistered ht (Text.lower_lower token) hnew hroom
  · intro _ t' h
    rcases h with ⟨rfl, _⟩
    exact Follows.refl ht

theorem follows_checkpoint (ht : t.InOrder) {basis : Int} :
    (checkpoint holder token basis).Leaves t (fun _ t' => t.Follows t')
      (fun _ t' => t.Follows t') := by
  have hstate := ht.entries (Text.lower token) (Text.lower holder)
  apply (leaves_checkpoint ht.toSound).mono
  · intro _ t' h
    rcases h with ⟨hmem, s, haccrues, rfl⟩
    exact Follows.of_withHolder ht hmem (Text.lower_lower holder) (hstate.of_accrues haccrues)
  · intro _ t' h
    rcases h with rfl | ⟨hmem, rfl⟩
    · exact Follows.refl ht
    · exact Follows.of_withHolder ht hmem (Text.lower_lower holder) hstate

theorem follows_distribute (ht : t.InOrder) {amount supply : Int} :
    (distribute token amount supply).Leaves t (fun _ t' => t.Follows t')
      (fun _ t' => t.Follows t') := by
  have hwaiting := ht.waiting (Text.lower token)
  have hparked := ht.parked (Text.lower token)
  apply (leaves_distribute ht.toSound).mono
  · intro _ t' h
    rcases h with ⟨hamount, hmem, s, ⟨increment, hincrement, rfl⟩, rfl⟩
    have hgrowth : 0 ≤ increment := by
      split at hincrement
      · exact rayDiv_nonneg hincrement
      · cases hincrement
        exact Int.le_refl 0
    apply Follows.of_withToken ht hmem <;> dsimp only
    · split <;> omega
    · split <;> omega
    · omega
    · omega
  · intro _ t' h
    rcases h with ⟨_, rfl⟩ | ⟨hamount, hmem, rfl, _⟩
    · exact Follows.refl ht
    · apply Follows.of_withToken ht hmem <;> dsimp only <;> omega

theorem follows_claim (ht : t.InOrder) {factor : Int} :
    (claim holder token factor).Leaves t (fun _ t' => t.Follows t') (fun _ t' => t.Follows t') := by
  have hstate := (ht.entries (Text.lower token) (Text.lower holder)).of_claimed
  apply (leaves_claim ht.toSound).mono
  · intro _ t' h
    rcases h with ⟨hmem, _, rfl⟩
    exact Follows.of_withHolder ht hmem (Text.lower_lower holder) hstate
  · intro _ t' h
    rcases h with rfl | ⟨hmem, rfl⟩
    · exact Follows.refl ht
    · exact Follows.of_withHolder ht hmem (Text.lower_lower holder) hstate

theorem follows_recordTreasuryCut (ht : t.InOrder) {amount : Int} :
    (recordTreasuryCut token amount).Leaves t (fun _ t' => t.Follows t')
      (fun _ t' => t.Follows t') := by
  apply (leaves_recordTreasuryCut ht.toSound).mono
  · intro _ t' h
    rcases h with ⟨hmem, rfl⟩
    exact Follows.of_withToken ht hmem (ht.waiting _) (ht.parked _) (Int.le_refl _) (Int.le_refl _)
  · intro _ t' h
    rcases h with ⟨_, rfl⟩
    exact Follows.refl ht

/-!
# What a checkpoint finds
-/

theorem accrual_of_mem (ht : t.Sound) (hmem : Text.lower token ∈ t.rewardTokens)
    (holder : String) (basis : Int) :
    let outcome := (rayMul basis ((t.tokenOf (Text.lower token)).lifetimeIndex -
      (t.stateOf (Text.lower token) (Text.lower holder)).index)).mapError Fault.ofRefusal
    t.previewAccrual holder token basis = outcome ∧
      (Act.run (checkpoint holder token basis) t).1 = outcome := by
  refine ⟨previewAccrual_of_mem ht basis hmem, ?_⟩
  rw [run_checkpoint ht hmem]
  cases rayMul basis _ <;> rfl

end RewardTracker

/-!
# Runs
-/

namespace TrackerCall

variable {t : RewardTracker}

def after (c : TrackerCall) (t : RewardTracker) : RewardTracker := (Act.run c.perform t).2

def afterAll : List TrackerCall → RewardTracker → RewardTracker
  | [], t => t
  | c :: rest, t => afterAll rest (c.after t)

theorem follows_perform (ht : t.InOrder) (c : TrackerCall) :
    c.perform.Leaves t (fun _ t' => t.Follows t') (fun _ t' => t.Follows t') := by
  cases c with
  | register token => exact Act.leaves_ending.mpr (RewardTracker.follows_register ht)
  | checkpoint holder token basis =>
      exact Act.leaves_ending.mpr (RewardTracker.follows_checkpoint ht)
  | checkpointAll holder basis =>
      have hstable : Act.Stable t.Follows (RewardTracker.checkpointAll holder basis) := by
        -- each checkpoint of the pass starts from what the one before it has left
        rw [RewardTracker.checkpointAll_eq]
        apply Act.Stable.of_current
        intro listed _
        apply Act.Stable.forEach
        intro token
        apply (Act.Stable.faulty _).bind
        intro _
        apply (RewardTracker.Follows.stable fun _ ht' => RewardTracker.follows_checkpoint ht').bind
        intro _
        exact Act.Stable.pure ()
      exact hstable.leaves (RewardTracker.Follows.refl ht)
  | distribute token amount supply =>
      exact Act.leaves_ending.mpr (RewardTracker.follows_distribute ht)
  | claim holder token factor => exact Act.leaves_ending.mpr (RewardTracker.follows_claim ht)
  | recordTreasuryCut token amount => exact RewardTracker.follows_recordTreasuryCut ht

theorem follows_after (ht : t.InOrder) (c : TrackerCall) : t.Follows (c.after t) :=
  (follows_perform ht c).state

theorem follows_afterAll (ht : t.InOrder) (calls : List TrackerCall) :
    t.Follows (afterAll calls t) := by
  induction calls generalizing t with
  | nil => exact RewardTracker.Follows.refl ht
  | cons c rest ih =>
      have hfirst := follows_after ht c
      exact hfirst.trans (ih hfirst.inOrder)

theorem run_checkpointAll (ht : t.Sound) (holder : String) (basis : Int) :
    Act.run (RewardTracker.checkpointAll holder basis) t =
      Act.run (Act.forEach (fun token => (checkpoint holder token basis).perform) t.rewardTokens)
        t := by
  have hlisted : t.checkpointListed holder basis =
      fun token => (checkpoint holder token basis).perform := by
    funext token
    unfold RewardTracker.checkpointListed
    rw [RewardTracker.requireName_of_sound ht, Act.bind_value]
    rfl
  rw [RewardTracker.checkpointAll_eq, Act.run_bind_ok (Act.run_current t), hlisted]

/--
After any calls on a tracker that started empty, accepted or refused, each reward
token is listed once and has one state and one place for holders, and no more are
listed than the capacity admits. Later calls only append to the list, and lower
neither the index of a token nor what it has received, of which no more waits than
there is. Each holder has seen an index between nothing and the present one and
was paid between nothing and what it has accrued. So previews and checkpoints,
those of a pass over the reward tokens included, multiply by a growth that is not
negative.
-/
theorem collections_in_order (capacity : Int) (calls more : List TrackerCall) :
    let t := afterAll calls (.empty capacity)
    let t' := afterAll more t
    t.rewardTokens.Nodup ∧ (t.rewardTokens.length : Int) ≤ max capacity 0 ∧
    t.tokenStates.keys = t.rewardTokens ∧ t.holderStates.keys = t.rewardTokens ∧
    t.rewardTokens <+: t'.rewardTokens ∧
    (∀ name s, t.tokenStates.get? name = some s →
      0 ≤ s.undistributed ∧ s.undistributed ≤ s.lifetimeRewards ∧
      (∃ s', t'.tokenStates.get? name = some s' ∧ s.lifetimeIndex ≤ s'.lifetimeIndex ∧
        s.lifetimeRewards ≤ s'.lifetimeRewards) ∧
      ∀ hs x h, t.holderStates.get? name = some hs → hs.get? x = some h →
        0 ≤ h.index ∧ h.index ≤ s.lifetimeIndex ∧ 0 ≤ h.claimed ∧ h.claimed ≤ h.accrued) ∧
    (∀ holder token s, t.tokenState token = .ok s →
      ∃ h, t.holderState holder token = .ok h ∧ 0 ≤ s.lifetimeIndex - h.index ∧
        ∀ basis,
          let outcome := (rayMul basis (s.lifetimeIndex - h.index)).mapError Fault.ofRefusal
          t.previewAccrual holder token basis = outcome ∧
            (Act.run (RewardTracker.checkpoint holder token basis) t).1 = outcome) ∧
    ∀ holder basis, Act.run (RewardTracker.checkpointAll holder basis) t =
      Act.run (Act.forEach (fun token => (checkpoint holder token basis).perform) t.rewardTokens)
        t := by
  intro t t'
  have hstart := follows_afterAll (RewardTracker.inOrder_empty capacity) calls
  have ht : t.InOrder := hstart.inOrder
  have hlater : t.Follows t' := follows_afterAll ht more
  have hstate : ∀ name s, t.tokenStates.get? name = some s →
      name ∈ t.rewardTokens ∧ s = t.tokenOf name := by
    intro name s hs
    exact ⟨ht.tokens ▸ Table.mem_keys_of_get? hs, (Table.getD_of_get? hs _).symm⟩
  refine ⟨ht.nodup, ?_, ht.tokens, ht.holders, hlater.advances.listed, ?_, ?_,
    run_checkpointAll ht.toSound⟩
  · have hcapacity : t.capacity = capacity := hstart.advances.capacity
    rw [← hcapacity]
    exact ht.room
  · intro name s hs
    rcases hstate name s hs with ⟨hmem, rfl⟩
    refine ⟨ht.waiting name, ht.parked name, ⟨t'.tokenOf name, ?_, hlater.advances.index name,
      hlater.advances.received name⟩, ?_⟩
    · exact RewardTracker.get?_tokenStates hlater.inOrder.toSound
        (hlater.advances.listed.subset hmem)
    · intro hs x h hholders hx
      have hentry : t.stateOf name x = h := by
        rw [RewardTracker.stateOf, RewardTracker.statesOf, Table.getD_of_get? hholders,
          Table.getD_of_get? hx]
      have hwithin := ht.entries name x
      rw [hentry] at hwithin
      exact ⟨hwithin.seen, hwithin.past, hwithin.paid, hwithin.earned⟩
  · intro holder token s hs
    have hmem := RewardTracker.mem_of_tokenState ht.toSound hs
    have hpast := (ht.entries (Text.lower token) (Text.lower holder)).past
    rw [RewardTracker.tokenState_of_mem ht.toSound hmem] at hs
    cases hs
    exact ⟨_, RewardTracker.holderState_of_mem ht.toSound hmem, Int.sub_nonneg_of_le hpast,
      RewardTracker.accrual_of_mem ht.toSound hmem holder⟩

/--
With room for two tokens a third is refused, and so are a factor above the whole
and a negative basis. The five units that came to no supply are spread with the
next hundred; what came after the checkpoint is a growth of one for its holder.
-/
theorem collections_in_order_two_slots :
    let calls : List TrackerCall :=
      [register "RWD", distribute "rwd" 5 0, register "second", register "third",
        distribute "rwd" 100 10, checkpoint "Bob" "rwd" 4, claim "bob" "RWD" 20000,
        claim "bob" "rwd" 1000, checkpoint "bob" "rwd" (-1), distribute "rwd" 7 7]
    let t := afterAll calls (.empty 2)
    let t' := afterAll [distribute "RWD" 3 1] t
    let index : Int := 10500000000000000000000000000
    let s : RewardTokenState := ⟨index + ray, 112, 0, 0⟩
    t.rewardTokens = ["rwd", "second"] ∧ t.rewardTokens <+: t'.rewardTokens ∧
    (∃ s', t'.tokenStates.get? "rwd" = some s' ∧ s.lifetimeIndex ≤ s'.lifetimeIndex) ∧
    (∃ h, t.holderState "Bob" "RWD" = .ok h ∧ h = ⟨index, 42, 42⟩ ∧
      0 ≤ s.lifetimeIndex - h.index) ∧
    (t.previewAccrual "Bob" "RWD" 4).toOption = some 4 := by
  intro calls t t' index s
  rcases collections_in_order 2 calls [distribute "RWD" 3 1] with
    ⟨_, _, _, _, hlisted, hstates, haccruals, _⟩
  rcases hstates "rwd" s (by decide +kernel) with ⟨_, _, ⟨s', hs', hindex, _⟩, _⟩
  rcases haccruals "Bob" "RWD" s (Act.eq_ok_of_toOption (by decide +kernel)) with
    ⟨h, hholder, hgrowth, haccrual⟩
  have hbob : t.holderState "Bob" "RWD" = .ok ⟨index, 42, 42⟩ :=
    Act.eq_ok_of_toOption (by decide +kernel)
  have hseen : h = ⟨index, 42, 42⟩ := by
    rw [hbob, Except.ok.injEq] at hholder
    exact hholder.symm
  refine ⟨by decide +kernel, hlisted, ⟨s', hs', hindex⟩, ⟨h, hholder, hseen, hgrowth⟩, ?_⟩
  rw [(haccrual 4).left, hseen]
  decide +kernel

end TrackerCall
end ReserveAccounting
