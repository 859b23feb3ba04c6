import ReserveAccounting.Scenario.Step

/-!
# Scenario reports

The final state of a scenario: balances, rewards, the vault and the dust. A
report is read off the reserve; reading it changes nothing that steps depend on.
-/

namespace ReserveAccounting

structure HolderBalance where
  balance : Int
  scaled : Int
  internal : Option Int
deriving Repr, Inhabited

structure HolderRewards where
  accrued : Int
  claimed : Int
  claimable : Int
deriving Repr, Inhabited

structure RewardReport where
  state : RewardTokenState
  holders : List (String × HolderRewards)
deriving Repr, Inhabited

structure VaultRewardReport where
  totalClaimable : Int
  holders : List (String × Int)
deriving Repr, Inhabited

structure VaultBalance where
  units : Int
  value : Int
deriving Repr, Inhabited

structure VaultReport where
  symbol : Document
  rate : Int
  totalUnits : Int
  wrapped : Int
  balances : List (String × VaultBalance)
  rewards : List (String × VaultRewardReport)
deriving Inhabited

structure ScenarioReport where
  name : String
  token : Document
  decimals : Int
  liquidityIndex : Int
  exchangeRate : Option Int
  totalSupply : Int
  scaledTotalSupply : Int
  backing : Int
  balances : List (String × HolderBalance)
  rewards : List (String × RewardReport)
  vault : Option VaultReport
  steps : List StepResult
  dust : DustReport
deriving Inhabited

/-! ## Reading the state -/

namespace Scenario

def tabulate {σ α β : Type} (f : α → Act σ β) (items : List α) : Act σ (List (α × β)) :=
  Act.mapEach (fun a => do return (a, ← f a)) items

def holderBalance (holder : String) : Act Scenario HolderBalance := do
  let balance ← onToken (DepositToken.balanceOf holder)
  let scaled ← onToken (DepositToken.scaledBalanceOf holder)
  let s ← Act.current
  return ⟨balance, scaled, if s.token.isRebasing then some (s.token.model.rewardBasisOf holder) else none⟩

def holderRewards (token holder : String) : Act Scenario HolderRewards := do
  let s ← Act.current
  let accrued ← s.token.ofTracker (·.accruedOf holder token)
  let claimed ← s.token.ofTracker (·.claimedOf holder token)
  let claimable ← s.token.claimableRewards holder token
  return ⟨accrued, claimed, claimable⟩

def rewardReport (token : String) : Act Scenario RewardReport := do
  let s ← Act.current
  let state ← s.token.ofTracker (·.tokenState token)
  let known ← s.token.ofTracker (·.holdersOf token)
  let holders ← tabulate (holderRewards token) known.keys
  return ⟨state, holders⟩

def vaultRewardReport (token : String) : Act StaticVault VaultRewardReport := do
  let v ← Act.current
  let total ← v.totalClaimableRewards token
  let holders ← tabulate
    (fun holder => do
      let v ← Act.current
      v.claimableRewards holder token)
    v.holders
  return ⟨total, holders⟩

def vaultReport : Act StaticVault VaultReport := do
  let rate ← StaticVault.rate
  let v ← Act.current
  let wrapped ← StaticVault.onToken (DepositToken.balanceOf v.books.address)
  let balances ← tabulate
    (fun holder => do
      let value ← StaticVault.balanceValueOf holder
      return (⟨v.unitsOf holder, value⟩ : VaultBalance))
    v.holders
  let rewards ← tabulate vaultRewardReport v.books.rewards.rewardTokens
  return ⟨v.books.symbol, rate, v.totalUnits, wrapped, balances, rewards⟩

def vaultPart : Act Scenario (Option VaultReport) := do
  let s ← Act.current
  match s.vault with
  | none => return none
  | some _ => return some (← onVault vaultReport)

def exchangeRatePart : Act Scenario (Option Int) := do
  let s ← Act.current
  match s.asset? with
  | none => return none
  | some pool => return some (← Act.ofRefusable pool.exchangeRate)

def report : Act Scenario ScenarioReport := do
  let s ← Act.current
  let balances ← tabulate holderBalance s.token.holders
  let program ← s.token.program
  let rewards ← tabulate rewardReport program.tracker.rewardTokens
  let exchangeRate ← exchangeRatePart
  let totalSupply ← onToken DepositToken.totalSupply
  let scaledTotalSupply ← onToken DepositToken.scaledTotalSupply
  let vault ← vaultPart
  let dust ← onToken (s.sweeper.measure s.backingBalance)
  return {
    name := s.name, token := s.token.symbol, decimals := s.decimals
    liquidityIndex := s.token.index, exchangeRate := exchangeRate, totalSupply := totalSupply
    scaledTotalSupply := scaledTotalSupply, backing := s.backingBalance, balances := balances
    rewards := rewards, vault := vault, steps := s.results, dust := dust }

end Scenario

/-! ## The report as a document -/

def byName {α : Type} (f : α → Document) (entries : List (String × α)) : Document :=
  .record (entries.map fun e => (e.1, f e.2))

def HolderBalance.toDocument (b : HolderBalance) : Document :=
  .record <|
    [("balance", .int b.balance), ("scaled", .int b.scaled)] ++
    (match b.internal with
    | some n => [("internal", .int n)]
    | none => [])

def HolderRewards.toDocument (r : HolderRewards) : Document :=
  .record [("accrued", .int r.accrued), ("claimed", .int r.claimed), ("claimable", .int r.claimable)]

def RewardReport.toDocument (r : RewardReport) : Document :=
  .record [("lifetime_index", .int r.state.lifetimeIndex),
    ("lifetime_rewards", .int r.state.lifetimeRewards),
    ("undistributed", .int r.state.undistributed),
    ("treasury_claimed", .int r.state.treasuryClaimed),
    ("holders", byName HolderRewards.toDocument r.holders)]

def VaultBalance.toDocument (b : VaultBalance) : Document :=
  .record [("static", .int b.units), ("dynamic", .int b.value)]

def VaultRewardReport.toDocument (r : VaultRewardReport) : Document :=
  .record [("total_claimable", .int r.totalClaimable), ("holders", byName .int r.holders)]

def VaultReport.toDocument (r : VaultReport) : Document :=
  .record [("symbol", r.symbol), ("rate", .int r.rate), ("total_supply", .int r.totalUnits),
    ("wrapped", .int r.wrapped), ("balances", byName VaultBalance.toDocument r.balances),
    ("rewards", byName VaultRewardReport.toDocument r.rewards)]

def ScenarioReport.toDocument (r : ScenarioReport) : Document :=
  .record [("name", .text r.name), ("token", r.token), ("decimals", .int r.decimals),
    ("liquidity_index", .int r.liquidityIndex),
    ("exchange_rate", match r.exchangeRate with
      | some n => .int n
      | none => .null),
    ("total_supply", .int r.totalSupply), ("scaled_total_supply", .int r.scaledTotalSupply),
    ("backing", .int r.backing), ("balances", byName HolderBalance.toDocument r.balances),
    ("rewards", byName RewardReport.toDocument r.rewards),
    ("static", match r.vault with
      | some v => v.toDocument
      | none => .null),
    ("steps", .list (r.steps.map StepResult.toDocument)), ("dust", r.dust.toDocument)]

/-! ## Whole runs -/

namespace Scenario

def stepList (s : Scenario) : Except Fault (List Document) :=
  if s.steps.isGiven then s.steps.items else .ok []

/-- Executes steps in order and collects their results, up to the first that fails. -/
def executeAll (number : Int) : List Document → Act Scenario Unit
  | [] => Act.pure ()
  | step :: rest => do
      let result ← execute number step
      Act.update fun s => { s with results := s.results ++ [result] }
      executeAll (number + 1) rest

def run : Act Scenario ScenarioReport := do
  let s ← Act.current
  let steps ← s.stepList
  Act.note
    { level := .info, channel := .scenario, message := "Scenario started"
      fields := [("event", .text "scenario.start"), ("scenario", .text s.name),
        ("steps", .int steps.length)] }
  executeAll 1 steps
  let report ← report
  Act.note
    { level := .info, channel := .scenario, message := "Scenario finished"
      fields := [("event", .text "scenario.finish"), ("scenario", .text s.name),
        ("total_supply", .int report.totalSupply), ("backing", .int report.backing)] }
  return report

end Scenario
end ReserveAccounting
