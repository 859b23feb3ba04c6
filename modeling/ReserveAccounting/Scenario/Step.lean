import ReserveAccounting.Scenario.Basic

/-!
# Steps of a scenario

Each action of a step with what it does to the reserve. A step may name the kind
of refusal it expects; it then passes only if exactly that kind arises.
-/

namespace ReserveAccounting

open FixedPoint

inductive Action where
  | deposit
  | withdraw
  | transfer
  | liquidate
  | accrue
  | rebase
  | flashLoan
  | distribute
  | claim
  | wrap
  | unwrap
  | claimStatic
  | sweepDust
deriving DecidableEq, Repr, Inhabited

namespace Action

def name : Action → String
  | deposit => "deposit"
  | withdraw => "withdraw"
  | transfer => "transfer"
  | liquidate => "liquidate"
  | accrue => "accrue"
  | rebase => "rebase"
  | flashLoan => "flash_loan"
  | distribute => "distribute"
  | claim => "claim"
  | wrap => "wrap"
  | unwrap => "unwrap"
  | claimStatic => "claim_static"
  | sweepDust => "sweep_dust"

def all : List Action :=
  [deposit, withdraw, transfer, liquidate, accrue, rebase, flashLoan, distribute, claim, wrap,
    unwrap, claimStatic, sweepDust]

def ofName? (s : String) : Option Action := all.find? fun a => a.name == s

theorem ofName?_name (a : Action) : ofName? a.name = some a := by
  cases a <;> decide

end Action

namespace Scenario

/-! ## Actions -/

/-- A deposit of the underlying; a rebasing asset is taken in and handed to the pool first. -/
def deposit (step : Document) : Act Scenario Bool := do
  let s ← Act.current
  let holder ← fieldText step "holder"
  let amount ← fieldAmount step "amount" s.decimals
  if s.asset?.isSome then
    let _ ← onAsset (SharePool.submit holder amount)
    let _ ← onAsset (SharePool.transfer holder s.pool amount)
  let first ← onToken (DepositToken.mint s.pool holder amount s.token.index)
  if s.asset?.isNone then
    Act.update fun s => { s with backing := s.backing + amount }
  return first

/-- A withdrawal; the asset leaves the pool, as far as the pool has it. -/
def withdraw (step : Document) : Act Scenario Int := do
  let s ← Act.current
  let holder ← fieldText step "holder"
  let receiver ← fieldTextOr step "receiver" holder
  let amount ← amountOrAll step s.decimals
  let burned ← onToken (DepositToken.burn s.pool holder receiver amount s.token.index)
  let s ← Act.current
  match s.asset? with
  | some pool =>
      let _ ← onAsset (SharePool.transfer s.pool receiver (min burned (pool.balanceOf s.pool)))
      return burned
  | none =>
      Act.replace { s with backing := s.backing - burned }
      return burned

def transfer (step : Document) : Act Scenario Bool := do
  let s ← Act.current
  let sender ← fieldText step "from"
  let recipient ← fieldText step "to"
  let amount ← fieldAmount step "amount" s.decimals
  onToken (DepositToken.transfer sender recipient amount)

def liquidate (step : Document) : Act Scenario Bool := do
  let s ← Act.current
  let sender ← fieldText step "from"
  let recipient ← fieldText step "to"
  let amount ← fieldAmount step "amount" s.decimals
  onToken (DepositToken.transferOnLiquidation s.pool sender recipient amount)

/-- The ray that a multiplier denotes, cut to an integer. -/
def rayOf (multiplier : Numeral) : Except Decimal.Failure Int := do
  let scaled ← multiplier.mul .standard (Decimal.ofInt ray)
  scaled.truncate

/-- Raises the index; the interest that holders gain is paid in by borrowers. -/
def accrue (step : Document) : Act Scenario Int := do
  let multiplier ← fieldNumeral step "index"
  let index ← (rayOf multiplier).mapError Fault.decimal
  let before ← onToken DepositToken.totalSupply
  let index ← onToken (DepositToken.onReserve (ReserveIndex.raise index "accrual"))
  let after ← onToken DepositToken.totalSupply
  addBacking (after - before)
  return index

def rebase (step : Document) : Act Scenario Int := do
  let s ← Act.current
  if s.asset?.isNone then Act.refuse .noRebasingReserve
  else
    let fraction ← fieldNumeral step "fraction"
    onAsset (SharePool.rebase fraction)

def flashLoan (step : Document) : Act Scenario Int := do
  let s ← Act.current
  let premium ← fieldAmount step "premium" s.decimals
  let index ← onToken (DepositToken.injectFlashLoanPremium s.pool premium)
  addBacking premium
  return index

def distribute (step : Document) : Act Scenario Document := do
  let s ← Act.current
  let token ← fieldText step "token"
  let amount ← fieldAmount step "amount" s.decimals
  onToken (DepositToken.distributeRewards token amount)

def claim (step : Document) : Act Scenario RewardClaim := do
  let holder ← fieldText step "holder"
  let token ← fieldText step "token"
  onToken (DepositToken.claim holder token)

def wrap (step : Document) : Act Scenario Int := do
  let holder ← fieldText step "holder"
  openVault
  let s ← Act.current
  let amount ← fieldAmount step "amount" s.decimals
  onVault (StaticVault.deposit holder holder amount false)

def unwrap (step : Document) : Act Scenario (Int × Int) := do
  let holder ← fieldText step "holder"
  openVault
  let s ← Act.current
  let amount ← amountOrAll step s.decimals
  if amount = everything then onVault (StaticVault.withdraw holder holder everything false)
  else onVault (StaticVault.withdrawValue holder holder amount false)

def claimStatic (step : Document) : Act Scenario RewardClaim := do
  openVault
  let holder ← fieldText step "holder"
  let token ← fieldText step "token"
  onVault (StaticVault.claimRewards holder token true)

def sweepDust : Act Scenario DustReport := do
  let s ← Act.current
  onToken (s.sweeper.sweep s.pool s.backingBalance)

def perform (action : Action) (step : Document) : Act Scenario Document :=
  match action with
  | .deposit => do return .bool (← deposit step)
  | .withdraw => do return .int (← withdraw step)
  | .transfer => do return .bool (← transfer step)
  | .liquidate => do return .bool (← liquidate step)
  | .accrue => do return .int (← accrue step)
  | .rebase => do return .int (← rebase step)
  | .flashLoan => do return .int (← flashLoan step)
  | .distribute => distribute step
  | .claim => do
      let c ← claim step
      return c.toDocument
  | .wrap => do return .int (← wrap step)
  | .unwrap => do
      let (units, value) ← unwrap step
      return .record [("static", .int units), ("dynamic", .int value)]
  | .claimStatic => do
      let c ← claimStatic step
      return c.toDocument
  | .sweepDust => do
      let r ← sweepDust
      return r.toDocument

/-! ## Steps -/

def expectation (step : Document) : Option Document :=
  match step.get? "expect_error" with
  | some d => if d.isGiven then some d else none
  | none => none

def isExpected (expected : Option Document) (r : Refusal) : Bool :=
  match expected with
  | some (.text kind) => kind == r.kind.name
  | _ => false

/-- Why a step that passed does not do: it was expected to be refused. -/
def succeededFault (number : Int) (action : Action) (expected : Document) : Fault :=
  match expected.written with
  | .ok text => .ofRefusal (.stepSucceeded number action.name text)
  | .error f => f

def conclude (number : Int) (action : Action) (expected : Option Document) (m : Act Scenario Document) :
    Act Scenario StepResult := fun s =>
  let t := m s
  match t.outcome with
  | .ok d =>
      match expected with
      | none => ⟨.ok ⟨number, action.name, true, some d, ""⟩, t.state, t.journal⟩
      | some e => ⟨.error (succeededFault number action e), t.state, t.journal⟩
  | .error (.refused r) =>
      if isExpected expected r then
        ⟨.ok ⟨number, action.name, false, none, r.kind.name⟩, t.state, t.journal ++
          [{ level := .debug, channel := .scenario, message := "Expected step failure"
             fields := [("event", .text "scenario.expected_error"), ("step", .int number)] ++
              r.context }]⟩
      else ⟨.error (.ofRefusal (.stepFailed number action.name r)), t.state, t.journal⟩
  | .error e => ⟨.error e, t.state, t.journal⟩

def execute (number : Int) (step : Document) : Act Scenario StepResult :=
  match step.get? "action" with
  | none => Act.refuse (.stepNotMapping number)
  | some d => do
      let name ← d.written
      match Action.ofName? name with
      | none => Act.refuse (.unknownAction number name)
      | some action => conclude number action (expectation step) (perform action step)

end Scenario
end ReserveAccounting
