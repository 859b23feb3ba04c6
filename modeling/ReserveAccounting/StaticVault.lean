import ReserveAccounting.DepositToken

/-!
# Static vaults

A static vault holds deposit tokens at an address of its own and issues units
that do not change when the index or the reserve asset moves; what moves is
their rate. The rewards of the held tokens are collected into the vault and
forwarded to the holders of units by a second tracker.
-/

namespace ReserveAccounting

open FixedPoint

structure VaultBooks where
  address : String
  name : Document
  symbol : Document
  balances : ShareLedger
  rewards : RewardTracker
  rewardBalances : Table String Int
  strayBalances : Strays String
  events : List TokenEvent
deriving Inhabited

structure StaticVault where
  token : DepositToken
  books : VaultBooks
deriving Inhabited

namespace StaticVault

/-- The books of a vault at an address; names that are empty are taken from the token. -/
def open? (token : DepositToken) (books : VaultBooks) : Except Refusal VaultBooks :=
  let address := Text.lower books.address
  if address = "" ∨ address = zeroAccount then .error .noHoldingAddress
  else
    .ok { books with
      address := address
      name := if books.name.isGiven then books.name else .text ("Static " ++ token.name.asText)
      symbol :=
        if books.symbol.isGiven then books.symbol else .text ("stat" ++ token.symbol.asText) }

def onToken {α : Type} (m : Act DepositToken α) : Act StaticVault α :=
  Act.within (·.token) (fun t v => { v with token := t }) m

def onBalances {α : Type} (m : Act ShareLedger α) : Act StaticVault α :=
  Act.within (·.books.balances) (fun l v => { v with books := { v.books with balances := l } }) m

def onRewards {α : Type} (m : Act RewardTracker α) : Act StaticVault α :=
  Act.within (·.books.rewards) (fun r v => { v with books := { v.books with rewards := r } }) m

/-! ## Conversions -/

def rate : Act StaticVault Int := do
  let v ← Act.current
  match v.token.model with
  | .plain _ => return v.token.index
  | .rebasing _ =>
      let exchangeRate ← onToken (DepositToken.onModel
        (BalanceModel.dispatch (BalanceModel.view fun _ => .ok ray) RebasingLedger.snapshot))
      rayMul exchangeRate v.token.index

def valueOf (units : Int) : Act StaticVault Int := do
  let rate ← rate
  rayMul units rate

def unitsFor (value : Int) : Act StaticVault Int := do
  let rate ← rate
  rayDiv value rate

/-! ## Views -/

def unitsOf (v : StaticVault) (holder : String) : Int := v.books.balances.sharesOf holder

def totalUnits (v : StaticVault) : Int := v.books.balances.totalShares

def holders (v : StaticVault) : List String := v.books.balances.holders

def balanceValueOf (holder : String) : Act StaticVault Int := do
  let v ← Act.current
  valueOf (v.unitsOf holder)

/-- What a reward token holds for the vault in the deposit token, less the treasury's part. -/
def uncollected (v : StaticVault) (token : String) : Except Fault Int :=
  match v.token.rewards with
  | none => .ok 0
  | some program =>
      if program.tracker.tokenStates.contains token then do
        let pending ← v.token.claimableRewards v.books.address token
        let factor ← program.factor
        let cut ← (percentMul pending factor).mapError Fault.ofRefusal
        .ok (pending - cut)
      else .ok 0

def rewardBalance (v : StaticVault) (token : String) : Except Fault Int :=
  v.books.strayBalances.figure token (v.books.rewardBalances.getD token 0)

def totalClaimableRewards (v : StaticVault) (token : String) : Except Fault Int := do
  let token := Text.lower token
  let waiting ← v.uncollected token
  let held ← v.rewardBalance token
  .ok (held + waiting)

def claimableRewards (v : StaticVault) (holder token : String) : Except Fault Int := do
  let token := Text.lower token
  if v.books.rewards.tokenStates.contains token then
    let units := v.unitsOf holder
    let settled ← v.books.rewards.claimableOf holder token
    let pending ← v.books.rewards.previewAccrual holder token units
    if v.totalUnits = 0 then .ok (settled + pending)
    else
      let waiting ← v.uncollected token
      let parked ← v.books.rewards.undistributed token
      let increment ← (rayDiv (waiting + parked) v.totalUnits).mapError Fault.ofRefusal
      let part ← (rayMul units increment).mapError Fault.ofRefusal
      .ok (settled + pending + part)
  else .ok 0

/-! ## Common steps -/

def emit (kind : EventKind) (source target : String) (value : Int) : Act StaticVault Unit :=
  Act.update fun v =>
    { v with
      books := { v.books with events := v.books.events ++ [⟨kind, source, target, value, v.token.index⟩] } }

def noteInfo (message : String) (fields : List (String × Document)) : Act StaticVault Unit :=
  Act.note { level := .info, channel := .staticVault, message := message, fields := fields }

def requireRecipient (recipient : String) : Act StaticVault String := do
  let v ← Act.current
  let account := Text.lower recipient
  if account = "" ∨ account = zeroAccount then
    Act.refuse (.zeroAddress v.books.symbol "recipient")
  else return account

def addRewardBalance (token : String) (delta : Int) : Act StaticVault Unit := do
  let v ← Act.current
  let held ← v.rewardBalance token
  Act.replace
    { v with
      books :=
        { v.books with
          rewardBalances := v.books.rewardBalances.put token (held + delta)
          strayBalances := v.books.strayBalances.without (· = token) } }

def collectOne (token : String) : Act StaticVault (Option (String × Int)) := do
  let v ← Act.current
  let pending ← v.token.claimableRewards v.books.address token
  let _ ← onRewards (RewardTracker.register token)
  if pending = 0 then return none
  else
    let claim ← onToken (DepositToken.claim v.books.address token)
    let received := claim.toHolder
    addRewardBalance token received
    let v ← Act.current
    let _ ← onRewards (RewardTracker.distribute token received v.totalUnits)
    return some (token, received)

def collect (token : Option String) : Act StaticVault (Table String Int) := do
  let v ← Act.current
  match v.token.rewards with
  | none => return ∅
  | some program =>
      let tokens := match token with
        | some token => if token.isEmpty then program.tracker.rewardTokens else [Text.lower token]
        | none => program.tracker.rewardTokens
      let results ← Act.mapEach
        (fun token => do
          program.tracker.requireName token
          collectOne token)
        tokens
      let collected := Table.ofList (results.filterMap id)
      if !collected.toList.isEmpty then
        Act.note
          { level := .debug, channel := .staticVault, message := "Static wrapper rewards collected"
            fields := [("event", .text "static.rewards_collected"), ("token", v.books.symbol),
              ("collected", .record (collected.toList.map fun e => (e.1, .int e.2)))] }
      return collected

def withRestored (saved : List RewardTracker.Saved) (v : StaticVault) : StaticVault :=
  { v with books := { v.books with rewards := v.books.rewards.restore saved } }

/-- Collects, checkpoints the holders concerned, and runs a change; a refusal takes the checkpoints back. -/
def applyChange (accounts : List String) (change : Act StaticVault Unit) : Act StaticVault Unit := do
  let _ ← collect none
  let v ← Act.current
  let saved ← onRewards (RewardTracker.checkpointHolders v.unitsOf accounts)
  change.onRefusal (withRestored saved)

/-! ## Deposits and withdrawals -/

/-- The deposit-token leg of a deposit: fresh tokens from the pool, or tokens of the depositor. -/
def takeTokens (depositor : String) (amount : Int) (fromUnderlying : Bool) : Act StaticVault Unit := do
  let v ← Act.current
  if fromUnderlying then
    let _ ← onToken (DepositToken.mint v.token.pool v.books.address amount v.token.index)
    return
  else
    let _ ← onToken (DepositToken.transfer depositor v.books.address amount)
    return

def deposit (depositor recipient : String) (amount : Int) (fromUnderlying : Bool) :
    Act StaticVault Int := do
  let depositor := Text.lower depositor
  let recipient ← requireRecipient recipient
  if amount ≤ 0 then Act.refuse (.depositNotPositive "depositor" depositor amount)
  else
    let units ← unitsFor amount
    if units = 0 then
      let rate ← rate
      Act.refuse (.staticDepositWithoutUnits depositor amount rate)
    else
      applyChange [recipient] do
        takeTokens depositor amount fromUnderlying
        let _ ← onBalances (ShareLedger.applyDelta recipient units .mint)
      emit .deposit depositor recipient units
      let v ← Act.current
      noteInfo "Static deposit"
        [("event", .text "static.deposit"), ("token", v.books.symbol),
          ("to", Record.brief recipient), ("dynamic", .int amount), ("static", .int units),
          ("from_underlying", .bool fromUnderlying)]
      return units

def releaseTokens (recipient : String) (amount : Int) (toUnderlying : Bool) : Act StaticVault Unit := do
  let v ← Act.current
  if toUnderlying then
    let _ ← onToken (DepositToken.burn v.token.pool v.books.address recipient amount v.token.index)
    return
  else
    let _ ← onToken (DepositToken.transfer v.books.address recipient amount)
    return

/-- Burns units and releases a value, at most what the vault holds; answers both. -/
def release (owner recipient : String) (units value : Int) (toUnderlying : Bool) :
    Act StaticVault (Int × Int) := do
  let recipient ← requireRecipient recipient
  if units ≤ 0 ∧ value ≤ 0 then Act.refuse (.staticWithdrawalNotPositive owner units value)
  else
    let v ← Act.current
    let balance := v.unitsOf owner
    if balance < units then Act.refuse (.staticWithdrawalAboveBalance owner units balance)
    else
      let held ← onToken (DepositToken.balanceOf v.books.address)
      let value := min value held
      if units = 0 ∨ value = 0 then Act.refuse (.staticWithdrawalToNothing owner units value)
      else
        applyChange [owner] do
          releaseTokens recipient value toUnderlying
          let _ ← onBalances (ShareLedger.applyDelta owner (-units) .burn)
        emit .withdraw owner recipient units
        noteInfo "Static withdrawal"
          [("event", .text "static.withdraw"), ("token", v.books.symbol),
            ("from", Record.brief owner), ("to", Record.brief recipient), ("static", .int units),
            ("dynamic", .int value), ("to_underlying", .bool toUnderlying)]
        return (units, value)

def withdraw (owner recipient : String) (units : Int) (toUnderlying : Bool) :
    Act StaticVault (Int × Int) := do
  let owner := Text.lower owner
  let v ← Act.current
  let units := if units = everything then v.unitsOf owner else units
  let value ← valueOf units
  release owner recipient units value toUnderlying

def withdrawValue (owner recipient : String) (value : Int) (toUnderlying : Bool) :
    Act StaticVault (Int × Int) := do
  let units ← unitsFor value
  release (Text.lower owner) recipient units value toUnderlying

def transfer (sender recipient : String) (units : Int) : Act StaticVault Bool := do
  let sender := Text.lower sender
  let recipient ← requireRecipient recipient
  applyChange [sender, recipient] (onBalances (ShareLedger.moveShares sender recipient units))
  emit .transfer sender recipient units
  return true

/-! ## Rewards -/

def claimRewards (holder token : String) (forceUpdate : Bool) : Act StaticVault RewardClaim := do
  let account := Text.lower holder
  if forceUpdate then
    let _ ← collect (some token)
  let v ← Act.current
  let _ ← onRewards (RewardTracker.checkpoint account token (v.unitsOf account))
  let result ← onRewards (RewardTracker.claim account token 0)
  let name := Text.lower token
  addRewardBalance name (-result.claimable)
  emit .rewardsClaimed account name result.claimable
  noteInfo "Static rewards claimed"
    [("event", .text "static.rewards_claimed"), ("token", .text name),
      ("holder", Record.brief account), ("claimable", .int result.claimable)]
  return result

end StaticVault

namespace VaultBooks

/-! ## Snapshots -/

def toDocument (b : VaultBooks) : Document :=
  .record [("name", b.name), ("symbol", b.symbol), ("address", .text b.address),
    ("balances", b.balances.toDocument), ("rewards", b.rewards.toDocument),
    ("reward_balances", .record (b.rewardBalances.toList.map fun e =>
      (e.1, b.strayBalances.shown e.1 e.2)))]

def entryOfItems : List Document → Except Fault (Document × Document)
  | [k, v] =>
      match k with
      | .list _ => .error .wrongKind
      | .map _ => .error .wrongKind
      | _ => .ok (k, v)
  | _ => .error .unreadable

def entriesOf (d : Document) : Except Fault (List (Document × Document)) :=
  match d with
  | .map es => .ok es
  | d => do
      let items ← d.items
      items.mapM fun item => do entryOfItems (← item.items)

def balancesOfEntries : List (Document × Document) → Table String Int × Strays String →
    Table String Int × Strays String
  | [], t => t
  | (k, v) :: rest, (balances, strays) =>
      let token := k.asText
      let (n, stray) := Strays.ofField token 0 (some v)
      balancesOfEntries rest (balances.put token n, stray ++ strays.filter fun s => s.1 ≠ token)

def ofDocument (d : Document) (token : DepositToken) : Except Fault VaultBooks := do
  let address ← d.require "address"
  let name ← d.fieldOr "name" (.text "")
  let symbol ← d.fieldOr "symbol" (.text "")
  let balances ← ShareLedger.ofDocument (← d.fieldOr "balances" (.map []))
  let rewards ← RewardTracker.ofDocument (← d.fieldOr "rewards" (.map []))
  let entries ← entriesOf (← d.fieldOr "reward_balances" (.map []))
  let (collected, strays) := balancesOfEntries entries (∅, [])
  let books : VaultBooks :=
    { address := ← address.asString, name := name, symbol := symbol, balances := balances
      rewards := rewards, rewardBalances := collected, strayBalances := strays, events := [] }
  (StaticVault.open? token books).mapError Fault.ofRefusal

end VaultBooks
end ReserveAccounting
