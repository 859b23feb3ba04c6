import ReserveAccounting.Proofs.Checkpoints
import ReserveAccounting.Proofs.RewardCalls

/-!
# Refused calls of a tracker

A call of a tracker is refused by a guard or by its arithmetic. The guards stand
before everything that a call writes. The arithmetic does not: by then a
checkpoint has opened the state of its holder, a distribution has counted its
amount, and a claim has marked everything accrued as claimed. A pass over the
reward tokens keeps the checkpoints that it made before the refused one. All of
this is said of any tracker, also of a restored one with stray values.
-/

namespace ReserveAccounting

open FixedPoint

/-!
# Reading figures
-/

theorem Document.neverRefused_asInt (d : Document) : NeverRefused d.asInt := by
  cases d <;> nofun

theorem Strays.neverRefused_figure {π : Type} [DecidableEq π] (strays : Strays π) (place : π)
    (n : Int) : NeverRefused (strays.figure place n) := by
  unfold Strays.figure
  split
  · exact neverRefused_ok n
  · exact Document.neverRefused_asInt _

namespace RewardTracker

variable {t t' : RewardTracker} {token holder : String}

theorem neverRefused_tokenFigure (s : RewardTokenState) (f : TokenFigure) :
    NeverRefused (t.tokenFigure token s f) := Strays.neverRefused_figure _ _ _

theorem neverRefused_holderFigure (s : HolderRewardState) (f : HolderFigure) :
    NeverRefused (t.holderFigure holder token s f) := Strays.neverRefused_figure _ _ _

theorem neverRefused_growthSince (s : RewardTokenState) (h : HolderRewardState) :
    NeverRefused (t.growthSince holder token s h) := by
  apply (neverRefused_tokenFigure s .lifetimeIndex).bind
  intro index
  apply (neverRefused_holderFigure h .index).bind
  intro seen
  exact neverRefused_ok _

theorem neverRefused_isFull : NeverRefused t.isFull := by
  unfold isFull
  split
  · exact neverRefused_ok _
  · exact neverRefused_ok _
  · exact (Document.neverRefused_asInt _).bind fun _ => neverRefused_ok _

theorem neverRefused_requireName : NeverRefused (t.requireName token) := by
  unfold requireName
  split <;> nofun

theorem tokenState_refused {r : Refusal} (h : t.tokenState token = .error (.refused r)) :
    t.tokenStates.get? (Text.lower token) = none ∧ r = .unknownRewardToken token := by
  unfold tokenState at h
  split at h
  · cases h
  · next hget =>
      rw [Except.error.injEq] at h
      exact ⟨hget, Fault.eq_of_ofRefusal h⟩

theorem holderState_refused {r : Refusal} (h : t.holderState holder token = .error (.refused r)) :
    t.tokenState token = .error (.refused r) := by
  unfold holderState at h
  cases hs : t.tokenState token with
  | error e =>
      rw [hs] at h
      cases h
      rfl
  | ok s =>
      rw [hs] at h
      unfold holdersOf at h
      cases hget : t.holderStates.get? (Text.lower token) with
      | none =>
          rw [hget] at h
          cases h
      | some hs =>
          rw [hget] at h
          cases h

/-!
# Writing before the arithmetic
-/

def HasState (t : RewardTracker) (name x : String) : Prop :=
  ∃ hs s, t.holderStates.get? name = some hs ∧ hs.get? x = some s

theorem withHolder_of_hasState {h : HolderRewardState} (hh : t.holderState holder token = .ok h)
    (hstate : t.HasState (Text.lower token) (Text.lower holder)) :
    t.withHolder (Text.lower token) (Text.lower holder) h = t := by
  rcases hstate with ⟨hs, s, hname, hx⟩
  have hsame : h = s := by
    unfold holderState holdersOf at hh
    rw [hname] at hh
    rcases Act.exists_of_bind_ok hh with ⟨_, _, hread⟩
    cases hread
    exact Table.getD_of_get? hx _
  unfold withHolder statesOf
  rw [hsame, Table.getD_of_get? hname, Table.put_of_get? hx, Table.put_of_get? hname]

def withReceived (t : RewardTracker) (name : String) (s : RewardTokenState) (received : Int) :
    RewardTracker :=
  { t with
    tokenStates := t.tokenStates.put name { s with lifetimeRewards := received }
    strays := t.strays.without [RewardPlace.ofToken name .lifetimeRewards].contains }

def withPaid (t : RewardTracker) (name x : String) (h : HolderRewardState) (accrued : Int) :
    RewardTracker :=
  { t.withHolder name x { h with claimed := accrued } with
    strays := t.strays.copied (.ofHolder name x .accrued) (.ofHolder name x .claimed) }

theorem leaves_markClaimed {name x : String} {h : HolderRewardState} {accrued : Int}
    {answered : Unit → RewardTracker → Prop} {failed : Fault → RewardTracker → Prop} :
    (writeHolder name x { h with claimed := accrued }
      (·.copied (.ofHolder name x .accrued) (.ofHolder name x .claimed))).Leaves
        (t.withHolder name x h) answered failed ↔ answered () (t.withPaid name x h accrued) := by
  have hwritten : { (t.withHolder name x h).withHolder name x { h with claimed := accrued } with
      strays := t.strays.copied (.ofHolder name x .accrued) (.ofHolder name x .claimed) } =
        t.withPaid name x h accrued := by
    rw [withHolder_withHolder]
    rfl
  rw [← hwritten]
  exact Act.leaves_update

end RewardTracker

/-!
# Calls and what refuses them
-/

inductive TrackerCall where
  | register (token : String)
  | checkpoint (holder token : String) (basis : Int)
  | checkpointAll (holder : String) (basis : Int)
  | distribute (token : String) (amount supply : Int)
  | claim (holder token : String) (factor : Int)
  | recordTreasuryCut (token : String) (amount : Int)

namespace TrackerCall

variable {t t' : RewardTracker} {c : TrackerCall} {r : Refusal}

def perform : TrackerCall → Act RewardTracker Unit
  | register token => Act.ending (RewardTracker.register token)
  | checkpoint holder token basis => Act.ending (RewardTracker.checkpoint holder token basis)
  | checkpointAll holder basis => RewardTracker.checkpointAll holder basis
  | distribute token amount supply => Act.ending (RewardTracker.distribute token amount supply)
  | claim holder token factor => Act.ending (RewardTracker.claim holder token factor)
  | recordTreasuryCut token amount => RewardTracker.recordTreasuryCut token amount

def token? : TrackerCall → Option String
  | checkpoint _ token _ => some token
  | distribute token _ _ => some token
  | claim _ token _ => some token
  | recordTreasuryCut token _ => some token
  | _ => none

/-- What the guards of a call refuse. -/
inductive Guarded (t : RewardTracker) : TrackerCall → Refusal → Prop where
  | slotsTaken {token : String} (hnew : t.tokenStates.contains (Text.lower token) = false)
      (hfull : t.isFull = .ok true) : Guarded t (.register token)
        (.rewardSlotsTaken (Text.lower token) (t.strays.shown .capacity t.capacity))
  | unknown {c : TrackerCall} {token : String} (hcall : c.token? = some token)
      (hnone : t.tokenStates.get? (Text.lower token) = none) :
      Guarded t c (.unknownRewardToken token)
  | negative {token : String} {amount supply : Int} (hamount : amount < 0) :
      Guarded t (.distribute token amount supply) (.negativeReward token amount)
  | factor {holder token : String} {factor : Int}
      (hfactor : ¬(0 ≤ factor ∧ factor ≤ RewardTracker.maxFactor)) :
      Guarded t (.claim holder token factor) (.claimFactorOutOfRange factor)

/-- What the arithmetic of a call refuses, and the tracker with what was written before. -/
inductive Overruns (t : RewardTracker) : TrackerCall → Refusal → RewardTracker → Prop where
  | checkpoint {holder token : String} {basis growth : Int} {s : RewardTokenState}
      {h : HolderRewardState} {r : Refusal} (htoken : t.tokenState token = .ok s)
      (hholder : t.holderState holder token = .ok h)
      (hgrowth : t.growthSince holder token s h = .ok growth)
      (hrefused : rayMul basis growth = .error r) :
      Overruns t (.checkpoint holder token basis) r
        (t.withHolder (Text.lower token) (Text.lower holder) h)
  | distribute {token : String} {amount supply received waiting : Int} {s : RewardTokenState}
      {r : Refusal} (hamount : 0 ≤ amount) (htoken : t.tokenState token = .ok s)
      (hreceived : t.tokenFigure token s .lifetimeRewards = .ok received)
      (hwaiting : t.tokenFigure token s .undistributed = .ok waiting) (hsupply : 0 < supply)
      (hrefused : rayDiv (amount + waiting) supply = .error r) :
      Overruns t (.distribute token amount supply) r
        (t.withReceived (Text.lower token) s (received + amount))
  | claim {holder token : String} {factor accrued claimed : Int} {h : HolderRewardState}
      {r : Refusal} (hholder : t.holderState holder token = .ok h)
      (haccrued : t.holderFigure holder token h .accrued = .ok accrued)
      (hclaimed : t.holderFigure holder token h .claimed = .ok claimed)
      (hrefused : percentMul (accrued - claimed) factor = .error r) :
      Overruns t (.claim holder token factor) r
        (t.withPaid (Text.lower token) (Text.lower holder) h accrued)

def Stops (c : TrackerCall) (t : RewardTracker) (r : Refusal) (t' : RewardTracker) : Prop :=
  c.Guarded t r ∧ t' = t ∨ c.Overruns t r t'

/-- A pass over reward tokens whose checkpoint in one of them is refused; the earlier ones stay. -/
inductive Interrupts (holder : String) (basis : Int) :
    List String → RewardTracker → Refusal → RewardTracker → Prop where
  | here {token : String} {rest : List String} {t t' : RewardTracker} {r : Refusal}
      (hstops : (TrackerCall.checkpoint holder token basis).Stops t r t') :
      Interrupts holder basis (token :: rest) t r t'
  | later {token : String} {rest : List String} {t t₁ t' : RewardTracker} {r : Refusal}
      {delta : Int}
      (hdone : Act.run (RewardTracker.checkpoint holder token basis) t = (.ok delta, t₁))
      (hrest : Interrupts holder basis rest t₁ r t') :
      Interrupts holder basis (token :: rest) t r t'

def EndsRefused (c : TrackerCall) (t : RewardTracker) (r : Refusal) (t' : RewardTracker) : Prop :=
  match c with
  | checkpointAll holder basis => Interrupts holder basis t.rewardTokens t r t'
  | c => c.Stops t r t'

/--
A call that shows nothing in the document when it is refused: one without
arithmetic, or a checkpoint of a holder that has a state.
-/
def IsClean (t : RewardTracker) : TrackerCall → Prop
  | register _ => True
  | checkpoint holder token _ => t.HasState (Text.lower token) (Text.lower holder)
  | recordTreasuryCut _ _ => True
  | _ => False

theorem Stops.eq_of_isClean (h : c.Stops t r t') (hclean : c.IsClean t) : t' = t := by
  rcases h with ⟨_, rfl⟩ | hoverruns
  · rfl
  · cases hoverruns with
    | checkpoint htoken hholder hgrowth hrefused =>
        exact RewardTracker.withHolder_of_hasState hholder hclean
    | distribute => exact hclean.elim
    | claim => exact hclean.elim

/-!
# One call
-/

theorem stops_guarded (h : c.Guarded t r) : WhenRefused (c.Stops t) (.ofRefusal r) t :=
  whenRefused_ofRefusal (Or.inl ⟨h, rfl⟩)

theorem stops_overrun (h : c.Overruns t r t') : WhenRefused (c.Stops t) (.ofRefusal r) t' :=
  whenRefused_ofRefusal (Or.inr h)

theorem stops_tokenState {α : Type} {token : String} {f : RewardTokenState → Act RewardTracker α}
    (hcall : c.token? = some token)
    (hf : ∀ s, t.tokenState token = .ok s →
      (f s).Leaves t (fun _ _ => True) (WhenRefused (c.Stops t))) :
    ((liftM (t.tokenState token) : Act RewardTracker RewardTokenState) >>= f).Leaves t
      (fun _ _ => True) (WhenRefused (c.Stops t)) := by
  rw [Act.leaves_bind, Act.leaves_faulty]
  refine ⟨hf, fun e he r hr => ?_⟩
  rw [hr] at he
  rcases RewardTracker.tokenState_refused he with ⟨hnone, rfl⟩
  exact Or.inl ⟨.unknown hcall hnone, rfl⟩

theorem stops_openHolderState {α : Type} {holder token : String}
    {f : HolderRewardState → Act RewardTracker α} (hcall : c.token? = some token)
    (hf : ∀ h, t.holderState holder token = .ok h →
      (f h).Leaves (t.withHolder (Text.lower token) (Text.lower holder) h) (fun _ _ => True)
        (WhenRefused (c.Stops t))) :
    (RewardTracker.openHolderState holder token >>= f).Leaves t (fun _ _ => True)
      (WhenRefused (c.Stops t)) := by
  unfold RewardTracker.openHolderState
  rw [Act.leaves_bind, Act.leaves_bind, Act.leaves_current, Act.leaves_bind, Act.leaves_faulty]
  constructor
  · intro h hh
    exact hf h hh
  · intro e he r hr
    rw [hr] at he
    rcases RewardTracker.tokenState_refused (RewardTracker.holderState_refused he) with
      ⟨hnone, rfl⟩
    exact Or.inl ⟨.unknown hcall hnone, rfl⟩

theorem stops_register {token : String} :
    (RewardTracker.register token).Leaves t (fun _ _ => True)
      (WhenRefused ((register token).Stops t)) := by
  unfold RewardTracker.register
  rw [Act.leaves_bind, Act.leaves_current, Act.leaves_ite]
  refine ⟨fun _ => trivial, fun hnew => ?_⟩
  apply leaves_bind_neverRefused RewardTracker.neverRefused_isFull
  intro full hfull
  rw [Act.leaves_ite]
  constructor
  · intro htrue
    rw [htrue] at hfull
    exact stops_guarded (.slotsTaken (Bool.not_eq_true _ ▸ hnew) hfull)
  · intro _
    trivial

theorem stops_checkpoint {holder token : String} {basis : Int} :
    (RewardTracker.checkpoint holder token basis).Leaves t (fun _ _ => True)
      (WhenRefused ((checkpoint holder token basis).Stops t)) := by
  unfold RewardTracker.checkpoint
  rw [Act.leaves_bind, Act.leaves_current]
  apply stops_tokenState rfl
  intro s htoken
  apply stops_openHolderState rfl
  intro h hholder
  apply leaves_bind_neverRefused (RewardTracker.neverRefused_growthSince s h)
  intro growth hgrowth
  rw [Act.leaves_bind, Act.leaves_refusable]
  constructor
  · intro delta _
    apply leaves_bind_neverRefused (RewardTracker.neverRefused_holderFigure h .accrued)
    intro accrued _
    apply leaves_bind_neverRefused (RewardTracker.neverRefused_tokenFigure s .lifetimeIndex)
    intro index _
    trivial
  · intro r hrefused
    exact stops_overrun (.checkpoint htoken hholder hgrowth hrefused)

theorem stops_distribute {token : String} {amount supply : Int} :
    (RewardTracker.distribute token amount supply).Leaves t (fun _ _ => True)
      (WhenRefused ((distribute token amount supply).Stops t)) := by
  unfold RewardTracker.distribute
  rw [Act.leaves_ite]
  refine ⟨fun hamount => stops_guarded (.negative hamount), fun hamount => ?_⟩
  rw [Act.leaves_bind, Act.leaves_current]
  apply stops_tokenState rfl
  intro s htoken
  apply leaves_bind_neverRefused (RewardTracker.neverRefused_tokenFigure s .lifetimeRewards)
  intro received hreceived
  rw [Act.leaves_bind]
  -- the amount is counted here, before the supply is divided into it
  change Act.Leaves _ (t.withReceived (Text.lower token) s (received + amount)) _ _
  apply leaves_bind_neverRefused (RewardTracker.neverRefused_tokenFigure _ .undistributed)
  intro waiting hwaiting
  rw [Act.leaves_bind, Act.leaves_ofRefusable]
  constructor
  · intro increment _
    rw [Act.leaves_ite]
    refine ⟨fun _ => trivial, fun _ => ?_⟩
    apply leaves_bind_neverRefused (RewardTracker.neverRefused_tokenFigure s .lifetimeIndex)
    intro before _
    trivial
  · intro r hr
    split at hr
    · next hsupply =>
        exact stops_overrun
          (.distribute (not_lt.mp hamount) htoken hreceived hwaiting hsupply hr)
    · cases hr

theorem stops_claim {holder token : String} {factor : Int} :
    (RewardTracker.claim holder token factor).Leaves t (fun _ _ => True)
      (WhenRefused ((claim holder token factor).Stops t)) := by
  unfold RewardTracker.claim
  rw [Act.leaves_ite]
  refine ⟨fun hfactor => stops_guarded (.factor hfactor), fun _ => ?_⟩
  rw [Act.leaves_bind, Act.leaves_current]
  apply stops_openHolderState rfl
  intro h hholder
  apply leaves_bind_neverRefused (RewardTracker.neverRefused_holderFigure h .accrued)
  intro accrued haccrued
  apply leaves_bind_neverRefused (RewardTracker.neverRefused_holderFigure h .claimed)
  intro claimed hclaimed
  rw [Act.leaves_bind, RewardTracker.leaves_markClaimed, Act.leaves_bind, Act.leaves_refusable]
  refine ⟨fun _ _ => trivial, fun r hrefused => ?_⟩
  exact stops_overrun (.claim hholder haccrued hclaimed hrefused)

theorem stops_recordTreasuryCut {token : String} {amount : Int} :
    (RewardTracker.recordTreasuryCut token amount).Leaves t (fun _ _ => True)
      (WhenRefused ((recordTreasuryCut token amount).Stops t)) := by
  unfold RewardTracker.recordTreasuryCut
  rw [Act.leaves_bind, Act.leaves_current]
  apply stops_tokenState rfl
  intro s _
  apply leaves_bind_neverRefused (RewardTracker.neverRefused_tokenFigure s .treasuryClaimed)
  intro claimed _
  trivial

/-!
# Passes over the reward tokens
-/

theorem interrupts_checkpointEach {t₀ : RewardTracker} {holder : String} {basis : Int}
    {tokens : List String} :
    (Act.forEach (t₀.checkpointListed holder basis) tokens).Leaves t (fun _ _ => True)
      (WhenRefused (Interrupts holder basis tokens t)) := by
  induction tokens generalizing t with
  | nil => trivial
  | cons token rest ih =>
      rw [Act.leaves_forEach_cons, RewardTracker.checkpointListed]
      apply leaves_bind_neverRefused RewardTracker.neverRefused_requireName
      intro _ _
      rw [Act.leaves_bind]
      apply Act.leaves_of_run
      · intro delta t₁ hdone
        apply ih.mono (fun _ _ h => h)
        intro e t' hrest r hr
        exact .later hdone (hrest r hr)
      · intro e t' hrun r hr
        exact .here (stops_checkpoint.of_error hrun r hr)

theorem endsRefused_perform (c : TrackerCall) :
    c.perform.Leaves t (fun _ _ => True) (WhenRefused (c.EndsRefused t)) := by
  cases c with
  | register token => exact Act.leaves_ending.mpr stops_register
  | checkpoint holder token basis => exact Act.leaves_ending.mpr stops_checkpoint
  | checkpointAll holder basis =>
      rw [perform, RewardTracker.checkpointAll_eq, Act.leaves_bind, Act.leaves_current]
      exact interrupts_checkpointEach
  | distribute token amount supply => exact Act.leaves_ending.mpr stops_distribute
  | claim holder token factor => exact Act.leaves_ending.mpr stops_claim
  | recordTreasuryCut token amount => exact stops_recordTreasuryCut

/--
A call that a guard refuses leaves the tracker as it was. One that is refused by
its arithmetic leaves what it had written by then, which shows in the document
unless the call is a checkpoint of a holder that has a state.
-/
theorem refused_call_leaves (hrun : Act.run c.perform t = (.error (.refused r), t')) :
    c.EndsRefused t r t' ∧ (c.IsClean t → t'.toDocument = t.toDocument) := by
  have hends := (endsRefused_perform c).of_error hrun r rfl
  refine ⟨hends, fun hclean => ?_⟩
  cases c with
  | checkpointAll holder basis => exact hclean.elim
  | _ => rw [Stops.eq_of_isClean hends hclean]

def receivedShown (token : String) (d : Document) : Option String := do
  let states ← d.get? "token_states"
  let state ← states.get? token
  let received ← state.get? "lifetime_rewards"
  return received.asText

/-- An amount that is too large to be spread over the supply has been counted as received. -/
theorem refused_call_leaves_counted_amount :
    let t := (Act.run (RewardTracker.register "rwd") (.empty RewardTracker.defaultCapacity)).2
    let c := distribute "rwd" maxAmount 1
    let t' := (Act.run c.perform t).2
    ∃ r, Act.run c.perform t = (.error (.refused r), t') ∧ c.EndsRefused t r t' ∧
      (t.lifetimeRewards "rwd").toOption = some 0 ∧
      (t'.lifetimeRewards "rwd").toOption = some maxAmount ∧ t'.toDocument ≠ t.toDocument := by
  intro t c t'
  have hrun : Act.run c.perform t = (.error (.refused (.dividendTooLarge "ray_div")), t') := rfl
  have hshown : receivedShown "rwd" t'.toDocument ≠ receivedShown "rwd" t.toDocument := by
    decide +kernel
  exact ⟨_, hrun, (refused_call_leaves hrun).left, by decide +kernel, by decide +kernel,
    fun hsame => hshown (congrArg (receivedShown "rwd") hsame)⟩

end TrackerCall
end ReserveAccounting
