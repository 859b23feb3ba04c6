import ReserveAccounting.BalanceModel
import ReserveAccounting.ReserveIndex
import ReserveAccounting.RewardTracker

/-!
# Deposit tokens

A deposit token stands between a lending pool and the books of a reserve. The
pool mints, burns, seizes and injects premiums; holders transfer. Every call
checks its caller and the index before anything changes, runs reward
checkpoints with the balances from before the change, books the change at one
exchange rate, and then commits the index. A refused change takes the
checkpoints back.
-/

namespace ReserveAccounting

inductive EventKind where
  | mint
  | burn
  | transfer
  | balanceTransfer
  | flashLoanPremium
  | rewardsClaimed
  | deposit
  | withdraw
deriving DecidableEq, Repr, Inhabited

def EventKind.name : EventKind → String
  | mint => "Mint"
  | burn => "Burn"
  | transfer => "Transfer"
  | balanceTransfer => "BalanceTransfer"
  | flashLoanPremium => "FlashLoanPremium"
  | rewardsClaimed => "RewardsClaimed"
  | deposit => "Deposit"
  | withdraw => "Withdraw"

structure TokenEvent where
  kind : EventKind
  source : String
  target : String
  value : Int
  index : Int
deriving DecidableEq, Repr, Inhabited

def zeroAccount : String := "0x0000000000000000000000000000000000000000"

def defaultTreasury : String := "0x7e7e7e7e7e7e7e7e7e7e7e7e7e7e7e7e7e7e7e7e"

structure RewardProgram where
  tracker : RewardTracker
  reserveFactor : Int
  /-- A restored factor that is no integer. -/
  strayFactor : Option Document
deriving Inhabited

def RewardProgram.factorDocument (p : RewardProgram) : Document := p.strayFactor.getD (.int p.reserveFactor)

def RewardProgram.factor (p : RewardProgram) : Except Fault Int :=
  match p.strayFactor with
  | none => .ok p.reserveFactor
  | some d => d.asInt

/-- A deposit token. What it is called is never computed with, and a snapshot may give any values. -/
structure DepositToken where
  name : Document
  symbol : Document
  underlying : Document
  pool : String
  treasury : String
  reserve : ReserveIndex
  model : BalanceModel
  decimals : Document
  events : List TokenEvent
  rewards : Option RewardProgram
deriving Inhabited

namespace DepositToken

open FixedPoint

/-! ## Making a token -/

def requireFactor (factor : Int) : Except Refusal Unit :=
  if 0 ≤ factor ∧ factor ≤ RewardTracker.maxFactor then .ok ()
  else .error (.reserveFactorOutOfRange (.int factor))

def requireStrayFactor : Document → Except Fault Unit
  | .float x =>
      if 0 ≤ x && x ≤ Float.ofInt RewardTracker.maxFactor then .ok ()
      else .error (.ofRefusal (.reserveFactorOutOfRange (.float x)))
  | d => do let _ ← d.asInt

def requireProgram (program : RewardProgram) : Except Fault Unit :=
  match program.strayFactor with
  | none => (requireFactor program.reserveFactor).mapError Fault.ofRefusal
  | some d => requireStrayFactor d

/-- A token from its parts: accounts in small letters, a reserve that has a name, a factor in range. -/
def make (t : DepositToken) : Except Fault DepositToken := do
  match t.rewards with
  | some program => requireProgram program
  | none => .ok ()
  .ok { t with
    pool := Text.lower t.pool
    treasury := Text.lower t.treasury
    reserve := t.reserve.named t.underlying }

/-! ## Views -/

def onModel {α : Type} (m : Act BalanceModel α) : Act DepositToken α :=
  Act.within (·.model) (fun b t => { t with model := b }) m

def onReserve {α : Type} (m : Act ReserveIndex α) : Act DepositToken α :=
  Act.within (·.reserve) (fun r t => { t with reserve := r }) m

def index (t : DepositToken) : Int := t.reserve.liquidityIndex

def isRebasing (t : DepositToken) : Bool := t.model.isRebasing

def holders (t : DepositToken) : List String := t.model.holders

def balanceOf (holder : String) : Act DepositToken Int := do
  let t ← Act.current
  onModel (BalanceModel.balanceOf holder t.index)

def scaledBalanceOf (holder : String) : Act DepositToken Int :=
  onModel (BalanceModel.scaledBalanceOf holder)

def totalSupply : Act DepositToken Int := do
  let t ← Act.current
  onModel (BalanceModel.totalSupply t.index)

def scaledTotalSupply : Act DepositToken Int := onModel BalanceModel.scaledTotalSupply

/-- Runs a call with the exchange rate pinned; whoever pinned it unpins it. -/
def withPinnedRate {α : Type} (m : Act DepositToken α) : Act DepositToken α := do
  let mine ← onModel BalanceModel.pinRate
  if mine then m.thenAlways fun t => { t with model := t.model.unpinned } else m

def scaledBalanceAndSupply (holder : String) : Act DepositToken (Int × Int) :=
  withPinnedRate do
    let balance ← scaledBalanceOf holder
    let supply ← scaledTotalSupply
    return (balance, supply)

/-! ## Common steps -/

def requirePool (caller : String) : Act DepositToken Unit := do
  let t ← Act.current
  if Text.lower caller = t.pool then return else Act.refuse (.callerNotPool t.symbol caller)

def emit (kind : EventKind) (source target : String) (value index : Int) : Act DepositToken Unit :=
  Act.update fun t => { t with events := t.events ++ [⟨kind, source, target, value, index⟩] }

def noteInfo (message : String) (fields : List (String × Document)) : Act DepositToken Unit :=
  Act.note { level := .info, channel := .depositToken, message := message, fields := fields }

def onRewards {α : Type} (m : Act RewardTracker α) : Act DepositToken α := fun t =>
  match t.rewards with
  | some program =>
      Act.embed (fun tracker => { t with rewards := some { program with tracker := tracker } }) m
        program.tracker
  | none => ⟨.error .notSupported, t, []⟩

def withRestored (saved : List RewardTracker.Saved) (t : DepositToken) : DepositToken :=
  { t with rewards := t.rewards.map fun p => { p with tracker := p.tracker.restore saved } }

/-- Checkpoints holders in all rewards with their present basis, and answers their states before. -/
def checkpointHolders (accounts : List String) : Act DepositToken (List RewardTracker.Saved) := do
  let t ← Act.current
  match t.rewards with
  | none => return []
  | some _ => onRewards (RewardTracker.checkpointHolders t.model.rewardBasisOf accounts)

/-- Books a change at one exchange rate, after checkpoints that a refusal takes back. -/
def applyChange {α : Type} (accounts : List String) (change : Act BalanceModel α) : Act DepositToken α :=
  withPinnedRate do
    let saved ← checkpointHolders accounts
    (onModel change).onRefusal (withRestored saved)

/-! ## Calls of the pool -/

/-- Mints an amount to a holder, and answers whether the holder had no balance. -/
def mint (caller holder : String) (amount index : Int) : Act DepositToken Bool := do
  requirePool caller
  let account := Text.lower holder
  let t ← Act.current
  t.reserve.admits index
  let first ← applyChange [account] (BalanceModel.mint account amount index)
  let _ ← onReserve (ReserveIndex.raise index "mint")
  emit .transfer zeroAccount account amount index
  emit .mint t.pool account amount index
  noteInfo "Deposit token mint"
    [("event", .text "atoken.mint"), ("token", t.symbol), ("to", Record.brief account),
      ("amount", .int amount), ("index", .int index), ("first_balance", .bool first)]
  return first

def burn (caller holder receiver : String) (amount index : Int) : Act DepositToken Int := do
  requirePool caller
  let account := Text.lower holder
  let receiver := Text.lower receiver
  let t ← Act.current
  t.reserve.admits index
  let burned ← applyChange [account] (BalanceModel.burn account amount index)
  let _ ← onReserve (ReserveIndex.raise index "burn")
  emit .transfer account zeroAccount burned index
  emit .burn account receiver burned index
  noteInfo "Deposit token burn"
    [("event", .text "atoken.burn"), ("token", t.symbol), ("from", Record.brief account),
      ("receiver", Record.brief receiver), ("amount", .int burned), ("index", .int index)]
  return burned

def mintToTreasury (caller : String) (amount index : Int) : Act DepositToken Bool := do
  requirePool caller
  if amount = 0 then return false
  else
    let t ← Act.current
    mint caller t.treasury amount index

def move (event sender recipient : String) (amount : Int) : Act DepositToken Unit := do
  let sender := Text.lower sender
  let recipient := Text.lower recipient
  let t ← Act.current
  if recipient = "" ∨ recipient = zeroAccount then
    Act.refuse (.zeroAddress t.symbol "recipient")
  else
    let _ ← applyChange [sender, recipient] (BalanceModel.transfer sender recipient amount t.index)
    emit .transfer sender recipient amount t.index
    emit .balanceTransfer sender recipient amount t.index
    Act.note
      { level := .debug, channel := .depositToken, message := "Deposit token transfer"
        fields := [("event", .text event), ("token", t.symbol), ("from", Record.brief sender),
          ("to", Record.brief recipient), ("amount", .int amount), ("index", .int t.index)] }

def transferOnLiquidation (caller sender recipient : String) (amount : Int) : Act DepositToken Bool := do
  requirePool caller
  move "atoken.liquidation_transfer" sender recipient amount
  return true

def injectFlashLoanPremium (caller : String) (premium : Int) : Act DepositToken Int := do
  requirePool caller
  let liquidity ← totalSupply
  let index ← onReserve (ReserveIndex.cumulate liquidity premium)
  let t ← Act.current
  emit .flashLoanPremium t.pool zeroAccount premium index
  noteInfo "Flash loan premium injected"
    [("event", .text "atoken.flash_premium"), ("token", t.symbol), ("premium", .int premium),
      ("total_liquidity", .int liquidity), ("index", .int index)]
  return index

/-! ## Calls of holders -/

def transfer (sender recipient : String) (amount : Int) : Act DepositToken Bool := do
  move "atoken.transfer" sender recipient amount
  return true

/-! ## Rewards -/

def registerRewardToken (token : String) : Act DepositToken Bool :=
  onRewards (RewardTracker.register token)

def distributeRewards (token : String) (amount : Int) : Act DepositToken Document := do
  let t ← Act.current
  onRewards (RewardTracker.distribute token amount t.model.rewardBasisSupply)

def program (t : DepositToken) : Except Fault RewardProgram :=
  match t.rewards with
  | some program => .ok program
  | none => .error .notSupported

def claim (holder token : String) : Act DepositToken RewardClaim := do
  let t ← Act.current
  let program ← t.program
  let account := Text.lower holder
  let _ ← onRewards (RewardTracker.checkpoint account token (t.model.rewardBasisOf account))
  let factor ← program.factor
  let result ← onRewards (RewardTracker.claim account token factor)
  if result.treasuryCut ≠ 0 then
    onRewards (RewardTracker.recordTreasuryCut token result.treasuryCut)
  emit .rewardsClaimed account (Text.lower token) result.claimable t.index
  noteInfo "Rewards claimed"
    [("event", .text "rewards.claimed"), ("token", .text (Text.lower token)),
      ("holder", Record.brief account), ("claimable", .int result.claimable),
      ("treasury_cut", .int result.treasuryCut)]
  return result

def setReserveFactor (caller : String) (factor : Int) : Act DepositToken Unit := do
  let t ← Act.current
  let program ← t.program
  requirePool caller
  requireFactor factor
  Act.update fun t =>
    { t with rewards := some { program with reserveFactor := factor, strayFactor := none } }

/-- What a claim would pay: accrued and not claimed, and pending since the last checkpoint. -/
def claimableRewards (t : DepositToken) (holder token : String) : Except Fault Int := do
  let program ← t.program
  let pending ← program.tracker.previewAccrual holder token (t.model.rewardBasisOf holder)
  let settled ← program.tracker.claimableOf holder token
  .ok (settled + pending)

def ofTracker {α : Type} (t : DepositToken) (f : RewardTracker → Except Fault α) : Except Fault α := do
  let program ← t.program
  f program.tracker

/-! ## Snapshots -/

def toDocument (t : DepositToken) : Document :=
  .record <|
    [("name", t.name), ("symbol", t.symbol), ("underlying", t.underlying),
      ("pool", .text t.pool), ("treasury", .text t.treasury), ("decimals", t.decimals),
      ("reserve", t.reserve.toDocument),
      ("model_type", .text (if t.isRebasing then "rebasing" else "ledger")),
      ("model", t.model.toDocument)] ++
    (match t.rewards with
    | some program =>
        [("rewards", program.tracker.toDocument),
          ("rewards_reserve_factor_bps", program.factorDocument)]
    | none => [])

def modelOfDocument (d : Document) (asset : Option ReserveAsset) : Except Fault BalanceModel := do
  let isRebasing := match ← d.field? "model_type" with
    | some (.text kind) => kind == "rebasing"
    | _ => false
  if isRebasing then
    match asset with
    | none => .error (.ofRefusal (.assetMissing ((← d.field? "symbol").getD .null)))
    | some asset =>
        let book ← RebasingLedger.ofDocument (← d.require "model") asset
        .ok (.rebasing book)
  else
    let ledger ← ShareLedger.ofDocument (← d.fieldOr "model" (.map []))
    .ok (.plain ledger)

def ofDocument (rewardAware : Bool) (d : Document) (asset : Option ReserveAsset) :
    Except Fault DepositToken := do
  let model ← modelOfDocument d asset
  let name ← d.require "name"
  let symbol ← d.require "symbol"
  let underlying ← d.require "underlying"
  let pool ← d.require "pool"
  let treasury ← d.fieldOr "treasury" (.text defaultTreasury)
  let reserve ← ReserveIndex.ofDocument (← d.fieldOr "reserve" (.map []))
  let decimals ← d.fieldOr "decimals" (.int 18)
  let rewards ←
    if rewardAware then do
      let tracker ← RewardTracker.ofDocument (← d.fieldOr "rewards" (.map []))
      let factor ← d.fieldOr "rewards_reserve_factor_bps" (.int 0)
      pure (some (match factor with
        | .int n => ⟨tracker, n, none⟩
        | stray => ⟨tracker, 0, some stray⟩))
    else pure none
  let token : DepositToken :=
    { name := name, symbol := symbol, underlying := underlying, pool := ← pool.asString
      treasury := ← treasury.asString, reserve := reserve, model := model, decimals := decimals
      events := [], rewards := rewards }
  make token

end DepositToken
end ReserveAccounting
