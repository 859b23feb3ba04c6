import ReserveAccounting.BaseUnits
import ReserveAccounting.Settings
import ReserveAccounting.StaticVault
import ReserveAccounting.TokenTerms

/-!
# Scenarios

A scenario describes one reserve and a list of steps. This module holds the
state that the steps work on, how it is set up from the description, and how the
fields of a step are read.
-/

namespace ReserveAccounting

structure StepResult where
  number : Int
  action : String
  ok : Bool
  result : Option Document
  error : String
deriving Inhabited

def StepResult.toDocument (r : StepResult) : Document :=
  .record <|
    [("step", .int r.number), ("action", .text r.action), ("ok", .bool r.ok)] ++
    (match r.result with
    | some d => [("result", d)]
    | none => []) ++
    (if r.error.isEmpty then [] else [("error", .text r.error)])

structure Scenario where
  name : String
  steps : Document
  settings : Settings
  decimals : Int
  pool : String
  token : DepositToken
  /-- What backs a reserve that does not rebase. -/
  backing : Int
  vault : Option VaultBooks
  sweeper : DustSweeper
  results : List StepResult
deriving Inhabited

namespace Scenario

def defaultPool : String := "pool"

def defaultAsset : String := "USDC"

def asset? (s : Scenario) : Option SharePool := s.token.model.asset?.bind ReserveAsset.pool?

/-! ## Parts of the state -/

def onToken {α : Type} (m : Act DepositToken α) : Act Scenario α :=
  Act.within (·.token) (fun t s => { s with token := t }) m

def onAsset {α : Type} (m : Act SharePool α) : Act Scenario α :=
  onToken (DepositToken.onModel (BalanceModel.dispatch (Act.fail .notSupported)
    (RebasingLedger.onAsset (ReserveAsset.onPool m))))

/-- The books of the vault; a vault that is not open yet gets an address named for its token. -/
def vaultBooks (s : Scenario) : Except Refusal VaultBooks :=
  match s.vault with
  | some books => .ok books
  | none =>
      StaticVault.open? s.token
        { address := "stat" ++ s.token.symbol.asText, name := .text "", symbol := .text ""
          balances := .empty, rewards := .empty s.settings.maxRewardTokens, rewardBalances := ∅
          strayBalances := [], events := [] }

def openVault : Act Scenario Unit := do
  let s ← Act.current
  let books ← s.vaultBooks
  Act.replace { s with vault := some books }

def onVault {α : Type} (m : Act StaticVault α) : Act Scenario α := fun s =>
  match s.vault with
  | none => ⟨.error .notSupported, s, []⟩
  | some books =>
      Act.embed (fun v => { s with token := v.token, vault := some v.books }) m ⟨s.token, books⟩

/-- What backs the token: the pool's balance in a rebasing asset, or the amount booked. -/
def backingBalance (s : Scenario) : Int :=
  match s.asset? with
  | some pool => pool.balanceOf s.pool
  | none => s.backing

def addBacking (amount : Int) : Act Scenario Unit := do
  if amount ≤ 0 then return
  else
    let s ← Act.current
    if s.asset?.isSome then
      let _ ← onAsset (SharePool.submit s.pool amount)
      return
    else Act.replace { s with backing := s.backing + amount }

/-! ## Setting up -/

def orEmpty (d : Option Document) : Document :=
  match d with
  | some d => if d.isGiven then d else .map []
  | none => .map []

def reservePart (d : Document) : Document := orEmpty (d.get? "reserve")

def treasuryOf (settings : Settings) (d : Document) : Except Fault String :=
  match d.get? "treasury" with
  | some v => if v.isGiven then v.asString else .ok settings.treasury
  | none => .ok settings.treasury

/-- The state before reward tokens and the sweeper are known. -/
def prepare (settings : Settings) (name : String) (d : Document) : Except Fault Scenario := do
  if !d.isMap then .error (.ofRefusal (.scenarioNotMapping (.text name)))
  let reserve := reservePart d
  let decimals ← (← reserve.fieldOr "decimals" (.int 18)).toInt
  let pool := Text.lower (← ((d.get? "pool").getD (.text defaultPool)).written)
  let asset ← (← reserve.fieldOr "asset" (.text defaultAsset)).written
  let factor ←
    (← reserve.fieldOr "reserve_factor_bps" (.int settings.rewardsReserveFactor)).toInt
  let rebasing := (← reserve.fieldOr "rebasing" (.bool false)).isGiven
  let treasury ← treasuryOf settings d
  let terms : TokenTerms :=
    { name := TokenTerms.nameOver asset, symbol := TokenTerms.symbolOver asset, pool := pool
      treasury := treasury, decimals := decimals
      reserve := some (.fresh asset settings.indexHistorySize)
      rewards := some ⟨.empty settings.maxRewardTokens, factor, none⟩ }
  let token ← (if rebasing then terms.onAsset (.pool (.fresh asset decimals))
    else terms.onLedger asset)
  .ok
    { name := name, steps := (d.get? "steps").getD .null, settings := settings
      decimals := decimals, pool := pool, token := token, backing := 0, vault := none
      sweeper := ⟨settings.dustThreshold⟩, results := [] }

def rewardTokensOf (reserve : Document) : Except Fault (List Document) := do
  let listed ← reserve.fieldOr "reward_tokens" (.list [])
  if listed.isGiven then listed.items else .ok []

def equip (reserve : Document) : Act Scenario Unit := do
  let tokens ← rewardTokensOf reserve
  Act.forEach
    (fun token => do
      let name ← token.written
      let _ ← onToken (DepositToken.registerRewardToken name))
    tokens
  let s ← Act.current
  let threshold ←
    (← reserve.fieldOr "dust_threshold" (.int s.settings.dustThreshold)).toInt
  let sweeper ← DustSweeper.make threshold
  Act.replace { s with sweeper := sweeper }

structure Setup where
  outcome : Except Fault Scenario
  journal : List Record

def setUp (settings : Settings) (name : String) (d : Document) : Setup :=
  match prepare settings name d with
  | .error e => ⟨.error e, []⟩
  | .ok s =>
      let t := equip (reservePart d) s
      ⟨t.outcome.map fun _ => t.state, t.journal⟩

/-! ## Fields of a step -/

def actionOf (step : Document) : Document := (step.get? "action").getD .null

def fieldText (step : Document) (key : String) : Except Fault String :=
  match step.get? key with
  | some v => v.written.map Text.lower
  | none => .error (.ofRefusal (.fieldMissing (actionOf step) key))

def fieldTextOr (step : Document) (key fallback : String) : Except Fault String :=
  ((step.get? key).getD (.text fallback)).written.map Text.lower

def fieldNumeral (step : Document) (key : String) : Except Fault Numeral := do
  let raw ← fieldText step key
  match Numeral.ofText? raw with
  | some n => .ok n
  | none => .error (.ofRefusal (.fieldNotNumber (actionOf step) key raw))

def fieldAmount (step : Document) (key : String) (decimals : Int) : Except Fault Int := do
  let n ← fieldNumeral step key
  (BaseUnits.ofAmount n decimals).mapError Fault.decimal

def amountOrAll (step : Document) (decimals : Int) : Except Fault Int := do
  let asked ← fieldTextOr step "amount" ""
  if asked = "all" then .ok everything else fieldAmount step "amount" decimals

end Scenario
end ReserveAccounting
