import ReserveAccounting.Act
import ReserveAccounting.Document.Strays
import ReserveAccounting.FixedPoint
import ReserveAccounting.Table

/-!
# Reward tracking

Rewards reach all holders at once. Each reward token keeps a lifetime index, the
reward per unit of basis in ray; each holder remembers the index at its last
checkpoint and what it has accrued up to there. A checkpoint accrues the basis
times the growth of the index since, so it has to run before the basis changes.

A tracker that was restored from a snapshot may hold stray values among its
figures; a call that needs one of them fails there.
-/

namespace ReserveAccounting

open FixedPoint

structure RewardTokenState where
  lifetimeIndex : Int
  lifetimeRewards : Int
  /-- Rewards that came while nobody could take a share of them. -/
  undistributed : Int
  treasuryClaimed : Int
deriving DecidableEq, Repr, Inhabited

structure HolderRewardState where
  index : Int
  accrued : Int
  claimed : Int
deriving DecidableEq, Repr, Inhabited

def HolderRewardState.fresh : HolderRewardState := ⟨0, 0, 0⟩

def HolderRewardState.claimable (s : HolderRewardState) : Int := s.accrued - s.claimed

structure RewardClaim where
  holder : String
  token : String
  claimable : Int
  treasuryCut : Int
deriving DecidableEq, Repr, Inhabited

def RewardClaim.toHolder (c : RewardClaim) : Int := c.claimable - c.treasuryCut

def RewardClaim.toDocument (c : RewardClaim) : Document :=
  .record [("holder", .text c.holder), ("token", .text c.token), ("claimable", .int c.claimable),
    ("treasury_cut", .int c.treasuryCut), ("to_holder", .int c.toHolder)]

inductive TokenFigure where
  | lifetimeIndex
  | lifetimeRewards
  | undistributed
  | treasuryClaimed
deriving DecidableEq, Repr, Inhabited

namespace TokenFigure

def name : TokenFigure → String
  | lifetimeIndex => "lifetime_index"
  | lifetimeRewards => "lifetime_rewards"
  | undistributed => "undistributed"
  | treasuryClaimed => "treasury_claimed"

def ofState (s : RewardTokenState) : TokenFigure → Int
  | lifetimeIndex => s.lifetimeIndex
  | lifetimeRewards => s.lifetimeRewards
  | undistributed => s.undistributed
  | treasuryClaimed => s.treasuryClaimed

def all : List TokenFigure := [lifetimeIndex, lifetimeRewards, undistributed, treasuryClaimed]

end TokenFigure

inductive HolderFigure where
  | index
  | accrued
  | claimed
deriving DecidableEq, Repr, Inhabited

namespace HolderFigure

def name : HolderFigure → String
  | index => "index"
  | accrued => "accrued"
  | claimed => "claimed"

def ofState (s : HolderRewardState) : HolderFigure → Int
  | index => s.index
  | accrued => s.accrued
  | claimed => s.claimed

def all : List HolderFigure := [index, accrued, claimed]

end HolderFigure

/-- The places of a tracker that a stray value can take. -/
inductive RewardPlace where
  | capacity
  | listed (name : String)
  | ofToken (token : String) (figure : TokenFigure)
  | ofHolder (token holder : String) (figure : HolderFigure)
deriving DecidableEq, Repr, Inhabited

def RewardPlace.isOfHolders (token : String) : RewardPlace → Bool
  | .ofHolder t _ _ => t = token
  | _ => false

def RewardPlace.isOfHolder (token holder : String) : RewardPlace → Bool
  | .ofHolder t h _ => t = token && h = holder
  | _ => false

structure RewardTracker where
  capacity : Int
  rewardTokens : List String
  tokenStates : Table String RewardTokenState
  holderStates : Table String (Table String HolderRewardState)
  /-- Restored values that are no integers, or no names. -/
  strays : Strays RewardPlace
deriving Inhabited

namespace RewardTracker

def defaultCapacity : Int := 9

def empty (capacity : Int) : RewardTracker := ⟨capacity, [], ∅, ∅, []⟩

/-! ## Reading -/

def tokenState (t : RewardTracker) (token : String) : Except Fault RewardTokenState :=
  match t.tokenStates.get? (Text.lower token) with
  | some s => .ok s
  | none => .error (.ofRefusal (.unknownRewardToken token))

def holdersOf (t : RewardTracker) (name : String) : Except Fault (Table String HolderRewardState) :=
  match t.holderStates.get? name with
  | some hs => .ok hs
  | none => .error (.missingKey name)

/-- The state of a holder; one that has none is at the start. -/
def holderState (t : RewardTracker) (holder token : String) : Except Fault HolderRewardState := do
  let _ ← t.tokenState token
  let hs ← t.holdersOf (Text.lower token)
  .ok (hs.getD (Text.lower holder) .fresh)

def tokenFigure (t : RewardTracker) (token : String) (s : RewardTokenState) (f : TokenFigure) :
    Except Fault Int :=
  t.strays.figure (.ofToken (Text.lower token) f) (f.ofState s)

def holderFigure (t : RewardTracker) (holder token : String) (s : HolderRewardState)
    (f : HolderFigure) : Except Fault Int :=
  t.strays.figure (.ofHolder (Text.lower token) (Text.lower holder) f) (f.ofState s)

def lifetimeRewards (t : RewardTracker) (token : String) : Except Fault Int := do
  let s ← t.tokenState token
  t.tokenFigure token s .lifetimeRewards

def undistributed (t : RewardTracker) (token : String) : Except Fault Int := do
  let s ← t.tokenState token
  t.tokenFigure token s .undistributed

def treasuryClaimed (t : RewardTracker) (token : String) : Except Fault Int := do
  let s ← t.tokenState token
  t.tokenFigure token s .treasuryClaimed

def accruedOf (t : RewardTracker) (holder token : String) : Except Fault Int := do
  let s ← t.holderState holder token
  t.holderFigure holder token s .accrued

def claimedOf (t : RewardTracker) (holder token : String) : Except Fault Int := do
  let s ← t.holderState holder token
  t.holderFigure holder token s .claimed

def claimableIn (t : RewardTracker) (holder token : String) (s : HolderRewardState) :
    Except Fault Int := do
  let accrued ← t.holderFigure holder token s .accrued
  let claimed ← t.holderFigure holder token s .claimed
  .ok (accrued - claimed)

def claimableOf (t : RewardTracker) (holder token : String) : Except Fault Int := do
  let s ← t.holderState holder token
  t.claimableIn holder token s

def growthSince (t : RewardTracker) (holder token : String) (s : RewardTokenState)
    (h : HolderRewardState) : Except Fault Int := do
  let index ← t.tokenFigure token s .lifetimeIndex
  let seen ← t.holderFigure holder token h .index
  .ok (index - seen)

def previewAccrual (t : RewardTracker) (holder token : String) (basis : Int) : Except Fault Int := do
  let s ← t.tokenState token
  let h ← t.holderState holder token
  let growth ← t.growthSince holder token s h
  (rayMul basis growth).mapError Fault.ofRefusal

/-! ### Figures as they are shown -/

def tokenDocument (f : TokenFigure) (t : RewardTracker) (token : String) : Except Fault Document := do
  let s ← t.tokenState token
  .ok (t.strays.shown (.ofToken (Text.lower token) f) (f.ofState s))

def holderDocument (f : HolderFigure) (t : RewardTracker) (holder token : String) :
    Except Fault Document := do
  let s ← t.holderState holder token
  .ok (t.strays.shown (.ofHolder (Text.lower token) (Text.lower holder) f) (f.ofState s))

def listedTokens (t : RewardTracker) : List Document :=
  t.rewardTokens.map fun token => (t.strays.at? (.listed token)).getD (.text token)

def requireName (t : RewardTracker) (token : String) : Except Fault Unit :=
  match t.strays.at? (.listed token) with
  | none => .ok ()
  | some _ => .error .notSupported

/-! ## Changes -/

def isFull (t : RewardTracker) : Except Fault Bool :=
  match t.strays.at? .capacity with
  | none => .ok (t.capacity ≤ t.rewardTokens.length)
  | some (.float x) => .ok (x ≤ Float.ofNat t.rewardTokens.length)
  | some d => do
      let capacity ← d.asInt
      .ok (capacity ≤ t.rewardTokens.length)

def register (token : String) : Act RewardTracker Bool := do
  let t ← Act.current
  let name := Text.lower token
  if t.tokenStates.contains name then return false
  else
    let full ← t.isFull
    if full then Act.refuse (.rewardSlotsTaken name (t.strays.shown .capacity t.capacity))
    else
      Act.replace
        { t with
          rewardTokens := t.rewardTokens ++ [name]
          tokenStates := t.tokenStates.put name ⟨0, 0, 0, 0⟩
          holderStates := t.holderStates.put name ∅
          strays := t.strays.without (RewardPlace.isOfHolders name) }
      Act.note
        { level := .info, channel := .rewards, message := "Reward token registered"
          fields := [("event", .text "rewards.token_registered"), ("token", .text name),
            ("slot", .int t.rewardTokens.length)] }
      return true

def writeToken (name : String) (s : RewardTokenState) (figures : List TokenFigure) :
    Act RewardTracker Unit :=
  Act.update fun t =>
    { t with
      tokenStates := t.tokenStates.put name s
      strays := t.strays.without (figures.map (RewardPlace.ofToken name)).contains }

def writeHolder (name holder : String) (s : HolderRewardState)
    (settle : Strays RewardPlace → Strays RewardPlace) : Act RewardTracker Unit :=
  Act.update fun t =>
    { t with
      holderStates := t.holderStates.put name ((t.holderStates.getD name ∅).put holder s)
      strays := settle t.strays }

def openHolderState (holder token : String) : Act RewardTracker HolderRewardState := do
  let t ← Act.current
  let s ← t.holderState holder token
  writeHolder (Text.lower token) (Text.lower holder) s id
  return s

/--
Accrues the rewards of a holder up to the present index, and answers how much
came in. The basis is what the holder had before any pending change.
-/
def checkpoint (holder token : String) (basis : Int) : Act RewardTracker Int := do
  let t ← Act.current
  let s ← t.tokenState token
  let h ← openHolderState holder token
  let growth ← t.growthSince holder token s h
  let delta ← rayMul basis growth
  let accrued ← t.holderFigure holder token h .accrued
  let index ← t.tokenFigure token s .lifetimeIndex
  let name := Text.lower token
  let place := RewardPlace.ofHolder name (Text.lower holder)
  writeHolder name (Text.lower holder) { h with accrued := accrued + delta, index := index }
    fun strays =>
      (strays.without (· = place .accrued)).copied (.ofToken name .lifetimeIndex) (place .index)
  return delta

def checkpointAll (holder : String) (basis : Int) : Act RewardTracker Unit := do
  let t ← Act.current
  Act.forEach
    (fun token => do
      t.requireName token
      let _ ← checkpoint holder token basis)
    t.rewardTokens

/--
Spreads an amount over all units of basis, and answers the lifetime index. What
cannot raise the index waits for the next distribution.
-/
def distribute (token : String) (amount supply : Int) : Act RewardTracker Document := do
  if amount < 0 then Act.refuse (.negativeReward token amount)
  else
    let t ← Act.current
    let name := Text.lower token
    let s ← t.tokenState token
    let lifetimeRewards ← t.tokenFigure token s .lifetimeRewards
    let received := { s with lifetimeRewards := lifetimeRewards + amount }
    writeToken name received [.lifetimeRewards]
    let waiting ← t.tokenFigure token s .undistributed
    let pending := amount + waiting
    let increment ← Act.ofRefusable (if 0 < supply then rayDiv pending supply else .ok 0)
    if increment = 0 then
      writeToken name { received with undistributed := pending } [.undistributed]
      Act.note
        { level := .info, channel := .rewards, message := "Reward held undistributed"
          fields := [("event", .text "rewards.parked"), ("token", .text name),
            ("amount", .int amount), ("undistributed", .int pending)] }
      return t.strays.shown (.ofToken name .lifetimeIndex) s.lifetimeIndex
    else
      writeToken name { received with undistributed := 0 } [.undistributed]
      let before ← t.tokenFigure token s .lifetimeIndex
      let index := before + increment
      writeToken name { received with undistributed := 0, lifetimeIndex := index } [.lifetimeIndex]
      Act.note
        { level := .info, channel := .rewards, message := "Rewards distributed"
          fields := [("event", .text "rewards.distributed"), ("token", .text name),
            ("amount", .int pending), ("scaled_supply", .int supply), ("lifetime_index", .int index)] }
      return .int index

def maxFactor : Int := percentageFactor

/-- Marks everything accrued as claimed; a part in basis points is cut for the treasury. -/
def claim (holder token : String) (factor : Int) : Act RewardTracker RewardClaim := do
  if ¬(0 ≤ factor ∧ factor ≤ maxFactor) then Act.refuse (.claimFactorOutOfRange factor)
  else
    let t ← Act.current
    let h ← openHolderState holder token
    let accrued ← t.holderFigure holder token h .accrued
    let claimed ← t.holderFigure holder token h .claimed
    let place := RewardPlace.ofHolder (Text.lower token) (Text.lower holder)
    writeHolder (Text.lower token) (Text.lower holder) { h with claimed := accrued }
      (·.copied (place .accrued) (place .claimed))
    let cut ← percentMul (accrued - claimed) factor
    return ⟨Text.lower holder, Text.lower token, accrued - claimed, cut⟩

def recordTreasuryCut (token : String) (amount : Int) : Act RewardTracker Unit := do
  let t ← Act.current
  let s ← t.tokenState token
  let claimed ← t.tokenFigure token s .treasuryClaimed
  writeToken (Text.lower token) { s with treasuryClaimed := claimed + amount } [.treasuryClaimed]

/-! ## Checkpoints around a change -/

structure Saved where
  token : String
  holder : String
  state : Option HolderRewardState
  strays : Strays RewardPlace

def saveStates (t : RewardTracker) (holder : String) : List String → Except Fault (List Saved)
  | [] => .ok []
  | token :: rest => do
      let hs ← t.holdersOf token
      let more ← saveStates t holder rest
      let strays := t.strays.filter fun s => s.1.isOfHolder token holder
      .ok (⟨token, holder, hs.get? holder, strays⟩ :: more)

/-- Checkpoints some holders, each once, and answers their states from before. -/
def checkpointHolders (basisOf : String → Int) (holders : List String) : Act RewardTracker (List Saved) := do
  let saved ← Act.mapEach
    (fun holder => do
      let t ← Act.current
      let saved ← t.saveStates holder t.rewardTokens
      checkpointAll holder (basisOf holder)
      return saved)
    holders.eraseDups
  return saved.flatten

/-- Puts one state back, or removes what was not there. -/
def restoreOne (t : RewardTracker) (s : Saved) : RewardTracker :=
  let hs := t.holderStates.getD s.token ∅
  let hs := match s.state with
    | some h => hs.put s.holder h
    | none => hs.erase s.holder
  { t with
    holderStates := t.holderStates.put s.token hs
    strays := s.strays ++ t.strays.without (RewardPlace.isOfHolder s.token s.holder) }

def restore (saved : List Saved) (t : RewardTracker) : RewardTracker := saved.foldl restoreOne t

/-! ## Snapshots -/

def tokenStateDocument (t : RewardTracker) (token : String) (s : RewardTokenState) : Document :=
  .record (TokenFigure.all.map fun f => (f.name, t.strays.shown (.ofToken token f) (f.ofState s)))

def holderStateDocument (t : RewardTracker) (token holder : String) (s : HolderRewardState) :
    Document :=
  .record (HolderFigure.all.map fun f =>
    (f.name, t.strays.shown (.ofHolder token holder f) (f.ofState s)))

def toDocument (t : RewardTracker) : Document :=
  .record [("capacity", t.strays.shown .capacity t.capacity), ("reward_tokens", .list t.listedTokens),
    ("token_states", .record (t.tokenStates.toList.map fun e => (e.1, t.tokenStateDocument e.1 e.2))),
    ("holder_states", .record (t.holderStates.toList.map fun e =>
      (e.1, .record (e.2.toList.map fun h => (h.1, t.holderStateDocument e.1 h.1 h.2)))))]

def stateEntries (keys : List String) : Document → Except Fault (List (Document × Document))
  | .map es =>
      if es.all fun e => match e.1 with
        | .text k => keys.contains k
        | _ => false
      then .ok es else .error .wrongKind
  | _ => .error .wrongKind

def figureIn {φ : Type} (name : φ → String) (place : φ → RewardPlace) (es : List (Document × Document))
    (f : φ) : Int × Strays RewardPlace :=
  Strays.ofField (place f) 0 (Document.lookup (name f) es)

def tokenStateOfDocument (token : String) (d : Document) :
    Except Fault (RewardTokenState × Strays RewardPlace) := do
  let es ← stateEntries (TokenFigure.all.map (·.name)) d
  let read := figureIn TokenFigure.name (.ofToken token) es
  .ok (⟨(read .lifetimeIndex).1, (read .lifetimeRewards).1, (read .undistributed).1,
    (read .treasuryClaimed).1⟩, TokenFigure.all.flatMap fun f => (read f).2)

def holderStateOfDocument (token holder : String) (d : Document) :
    Except Fault (HolderRewardState × Strays RewardPlace) := do
  let es ← stateEntries (HolderFigure.all.map (·.name)) d
  let read := figureIn HolderFigure.name (.ofHolder token holder) es
  .ok (⟨(read .index).1, (read .accrued).1, (read .claimed).1⟩,
    HolderFigure.all.flatMap fun f => (read f).2)

def tableOfEntries {β : Type} (read : String → Document → Except Fault (β × Strays RewardPlace)) :
    List (Document × Document) → Table String β → Except Fault (Table String β × Strays RewardPlace)
  | [], t => .ok (t, [])
  | (k, v) :: rest, t => do
      let (b, strays) ← read k.asText v
      let (t, more) ← tableOfEntries read rest (t.put k.asText b)
      .ok (t, strays ++ more)

def holdersOfDocument (token : String) (d : Document) :
    Except Fault (Table String HolderRewardState × Strays RewardPlace) := do
  tableOfEntries (holderStateOfDocument token) (← d.entries) ∅

def strayTokens : List Document → Except Fault (Strays RewardPlace)
  | [] => .ok []
  | .text _ :: rest => strayTokens rest
  | item :: rest =>
      match item with
      | .list _ => .error .wrongKind
      | .map _ => .error .wrongKind
      | _ => do
          let more ← strayTokens rest
          .ok ((.listed item.asText, item) :: more)

/-- A tracker restored from a snapshot; every registered token has a place for holder states. -/
def ofDocument (d : Document) : Except Fault RewardTracker := do
  let (capacity, strayCapacity) := Strays.ofField .capacity defaultCapacity (← d.field? "capacity")
  let listed ← (← d.fieldOr "reward_tokens" (.list [])).items
  let tokens := listed.map Document.asText
  let tokenEntries ← (← d.fieldOr "token_states" (.map [])).entries
  let (tokenStates, ofTokens) ← tableOfEntries tokenStateOfDocument tokenEntries ∅
  let unnamed ← strayTokens listed
  let holderEntries ← (← d.fieldOr "holder_states" (.map [])).entries
  let start := tokens.foldl (fun t token => t.put token ∅) ∅
  let (holderStates, ofHolders) ← tableOfEntries holdersOfDocument holderEntries start
  .ok ⟨capacity, tokens, tokenStates, holderStates, strayCapacity ++ unnamed ++ ofTokens ++ ofHolders⟩

end RewardTracker
end ReserveAccounting
