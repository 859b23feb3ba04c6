import ReserveAccounting.Decimal.Basic
import ReserveAccounting.Document.Basic
import ReserveAccounting.Text.Integer

/-!
# Refusals

The reasons for which an operation of the accounting is refused. Each reason has
a kind, a message and details; the kinds form a tree, and the refusals that come
from rounding may be retried with another amount.
-/

namespace ReserveAccounting

/-! ## Kinds -/

inductive RefusalKind where
  | accounting
  | precondition
  | insufficientBalance
  | indexRegression
  | divisionByZero
  | overflow
  | roundingUnderflow
  | invalidMint
  | invalidBurn
  | capacityExceeded
  | authorization
  | configuration
  | scenario
deriving DecidableEq, Repr, Inhabited

namespace RefusalKind

def name : RefusalKind → String
  | accounting => "AccountingError"
  | precondition => "PreconditionViolation"
  | insufficientBalance => "InsufficientBalanceError"
  | indexRegression => "IndexRegressionError"
  | divisionByZero => "DivisionByZeroError"
  | overflow => "MathOverflowError"
  | roundingUnderflow => "RoundingUnderflowError"
  | invalidMint => "InvalidMintAmountError"
  | invalidBurn => "InvalidBurnAmountError"
  | capacityExceeded => "CapacityExceededError"
  | authorization => "AuthorizationError"
  | configuration => "ConfigurationError"
  | scenario => "ScenarioError"

def all : List RefusalKind :=
  [accounting, precondition, insufficientBalance, indexRegression, divisionByZero, overflow,
    roundingUnderflow, invalidMint, invalidBurn, capacityExceeded, authorization, configuration,
    scenario]

def ofName? (s : String) : Option RefusalKind := all.find? fun k => k.name == s

/-- A kind with the more general kinds it belongs to, the most general one last. -/
def ancestors : RefusalKind → List RefusalKind
  | accounting => [accounting]
  | insufficientBalance => [insufficientBalance, precondition, accounting]
  | indexRegression => [indexRegression, precondition, accounting]
  | divisionByZero => [divisionByZero, precondition, accounting]
  | overflow => [overflow, precondition, accounting]
  | invalidMint => [invalidMint, roundingUnderflow, accounting]
  | invalidBurn => [invalidBurn, roundingUnderflow, accounting]
  | kind => [kind, accounting]

def isA (kind general : RefusalKind) : Bool := kind.ancestors.contains general

/-- Refusals that come from rounding may be retried with another amount. -/
def isRecoverable (kind : RefusalKind) : Bool := kind.isA roundingUnderflow

theorem ofName?_name (kind : RefusalKind) : ofName? kind.name = some kind := by
  cases kind <;> decide

theorem isA_accounting (kind : RefusalKind) : kind.isA accounting := by
  cases kind <;> decide

end RefusalKind

/-! ## Reasons -/

inductive Refusal where
  -- fixed-point arithmetic
  | negativeOperand (op : String) (operand : Int)
  | operandTooLarge (op : String)
  | productTooLarge (op : String)
  | dividendTooLarge (op : String)
  | resultTooLarge (op : String)
  | zeroDivisor (op : String) (dividend : Int)
  -- the liquidity index
  | indexNotPositive (asset : Document) (index : Int)
  | indexBelowCurrent (asset : Document) (index current : Int)
  | noLiquidity (asset : Document) (amount : Int)
  | negativePremium (asset : Document) (amount : Int)
  -- share ledgers
  | amountNotPositive (op : String) (amount : Int)
  | mintWithoutShares (holder : String) (amount index : Int)
  | burnWithoutShares (holder : String) (amount index : Int)
  | burnAboveBalance (holder : String) (amount balance : Int)
  | negativeTransfer (sender : String) (amount : Int)
  | transferAboveBalance (sender : String) (amount balance : Int)
  | transferAboveShares (sender : String) (shares available : Int)
  | deltaAgainstReason (holder : String) (delta : Int) (reason : String)
  | sharesBelowZero (holder : String) (current delta : Int)
  -- rebasing reserve assets
  | submitNotPositive (symbol holder : String) (amount : Int)
  | assetTransferAboveShares (symbol sender : String) (shares available : Int)
  | poolWipedOut (symbol fraction : String)
  | rateNotPositive (symbol : String) (rate : Int)
  -- ledgers in reserve shares
  | depositNotPositive (role holder : String) (amount : Int)
  | depositWithoutUnits (holder : String) (amount index : Int)
  | depositWithoutShares (holder : String) (amount rate : Int)
  | withdrawalNotPositive (holder : String) (amount : Int)
  | withdrawalAboveBalance (holder : String) (amount balance : Int)
  | withdrawalWithoutShares (holder : String) (amount rate : Int)
  -- rewards
  | rewardSlotsTaken (token : String) (capacity : Document)
  | negativeReward (token : String) (amount : Int)
  | claimFactorOutOfRange (factor : Int)
  | reserveFactorOutOfRange (factor : Document)
  | unknownRewardToken (token : String)
  -- deposit tokens
  | zeroAddress (symbol : Document) (field : String)
  | callerNotPool (symbol : Document) (caller : String)
  | assetMissing (symbol : Document)
  -- static vaults
  | noHoldingAddress
  | staticDepositWithoutUnits (depositor : String) (amount rate : Int)
  | staticWithdrawalNotPositive (owner : String) (units value : Int)
  | staticWithdrawalAboveBalance (owner : String) (units balance : Int)
  | staticWithdrawalToNothing (owner : String) (units value : Int)
  -- dust
  | negativeThreshold (threshold : Int)
  -- settings
  | unknownLevel (setting value : String)
  | settingNotInteger (setting value : String)
  | settingOutOfRange (setting : String) (value minimum : Int) (maximum : Option Int)
  -- scenarios
  | scenarioNotMapping (name : Document)
  | scenarioUnreadable (path : String)
  | scenarioFileNotMapping (path : String)
  | stepNotMapping (step : Int)
  | unknownAction (step : Int) (action : String)
  | stepFailed (step : Int) (action : String) (cause : Refusal)
  | stepSucceeded (step : Int) (action expected : String)
  | fieldMissing (action : Document) (field : String)
  | fieldNotNumber (action : Document) (field value : String)
  | noRebasingReserve
  | stated (kind : RefusalKind) (message : String) (details : List (Document × Document))
      (recoverable : Option Bool)
deriving Inhabited

namespace Refusal

def kind : Refusal → RefusalKind
  | negativeOperand .. => .precondition
  | operandTooLarge .. => .overflow
  | productTooLarge .. => .overflow
  | dividendTooLarge .. => .overflow
  | resultTooLarge .. => .overflow
  | zeroDivisor .. => .divisionByZero
  | indexNotPositive .. => .indexRegression
  | indexBelowCurrent .. => .indexRegression
  | noLiquidity .. => .precondition
  | negativePremium .. => .precondition
  | amountNotPositive .. => .precondition
  | mintWithoutShares .. => .invalidMint
  | burnWithoutShares .. => .invalidBurn
  | burnAboveBalance .. => .insufficientBalance
  | negativeTransfer .. => .precondition
  | transferAboveBalance .. => .insufficientBalance
  | transferAboveShares .. => .insufficientBalance
  | deltaAgainstReason .. => .precondition
  | sharesBelowZero .. => .insufficientBalance
  | submitNotPositive .. => .precondition
  | assetTransferAboveShares .. => .insufficientBalance
  | poolWipedOut .. => .precondition
  | rateNotPositive .. => .divisionByZero
  | depositNotPositive .. => .precondition
  | depositWithoutUnits .. => .invalidMint
  | depositWithoutShares .. => .invalidMint
  | withdrawalNotPositive .. => .precondition
  | withdrawalAboveBalance .. => .insufficientBalance
  | withdrawalWithoutShares .. => .invalidBurn
  | rewardSlotsTaken .. => .capacityExceeded
  | negativeReward .. => .precondition
  | claimFactorOutOfRange .. => .precondition
  | reserveFactorOutOfRange .. => .precondition
  | unknownRewardToken .. => .precondition
  | zeroAddress .. => .precondition
  | callerNotPool .. => .authorization
  | assetMissing .. => .precondition
  | noHoldingAddress => .precondition
  | staticDepositWithoutUnits .. => .invalidMint
  | staticWithdrawalNotPositive .. => .precondition
  | staticWithdrawalAboveBalance .. => .insufficientBalance
  | staticWithdrawalToNothing .. => .invalidBurn
  | negativeThreshold .. => .precondition
  | unknownLevel .. => .configuration
  | settingNotInteger .. => .configuration
  | settingOutOfRange .. => .configuration
  | scenarioNotMapping .. => .scenario
  | scenarioUnreadable .. => .scenario
  | scenarioFileNotMapping .. => .scenario
  | stepNotMapping .. => .scenario
  | unknownAction .. => .scenario
  | stepFailed .. => .scenario
  | stepSucceeded .. => .scenario
  | fieldMissing .. => .scenario
  | fieldNotNumber .. => .scenario
  | noRebasingReserve => .scenario
  | stated kind .. => kind

def recoverable : Refusal → Bool
  | stated kind _ _ recoverable => recoverable.getD kind.isRecoverable
  | r => r.kind.isRecoverable

def message : Refusal → String
  | negativeOperand op operand => s!"{op}: negative operand {operand}"
  | operandTooLarge op => s!"{op}: operand exceeds uint256"
  | productTooLarge op => s!"{op}: multiplication overflow"
  | dividendTooLarge op => s!"{op}: internal overflow"
  | resultTooLarge op => s!"{op}: result exceeds uint256"
  | zeroDivisor op _ => s!"{op}: division by zero"
  | indexNotPositive .. => "Liquidity index must be positive"
  | indexBelowCurrent _ index current => s!"Liquidity index regression ({index} < {current})"
  | noLiquidity .. => "Cannot cumulate into a reserve with no liquidity"
  | negativePremium .. => "Premium cannot be negative"
  | amountNotPositive op _ => s!"{op} amount must be positive"
  | mintWithoutShares _ amount index => s!"Mint amount {amount} rounds to zero shares at index {index}"
  | burnWithoutShares _ amount index => s!"Burn amount {amount} rounds to zero shares at index {index}"
  | burnAboveBalance _ amount balance => s!"Burn amount exceeds balance ({amount} > {balance})"
  | negativeTransfer .. => "Transfer amount cannot be negative"
  | transferAboveBalance _ amount balance => s!"Transfer amount exceeds balance ({amount} > {balance})"
  | transferAboveShares _ shares available => s!"Share transfer exceeds holdings ({shares} > {available})"
  | deltaAgainstReason _ delta reason => s!"Share delta {delta} does not match {reason}"
  | sharesBelowZero _ current delta => s!"Share balance would go negative ({current} + {delta})"
  | submitNotPositive symbol _ _ => s!"{symbol}: submit amount must be positive"
  | assetTransferAboveShares symbol _ shares available =>
      s!"{symbol}: transfer exceeds shares ({shares} > {available})"
  | poolWipedOut symbol _ => s!"{symbol}: rebase cannot wipe out the pool"
  | rateNotPositive symbol _ => s!"{symbol}: exchange rate must be positive"
  | depositNotPositive .. => "deposit amount must be positive"
  | depositWithoutUnits _ amount index => s!"Deposit {amount} rounds to zero at index {index}"
  | depositWithoutShares _ amount rate =>
      s!"Deposit {amount} rounds to zero reserve shares at rate {rate}"
  | withdrawalNotPositive .. => "withdraw amount must be positive"
  | withdrawalAboveBalance _ amount balance => s!"Withdraw amount exceeds balance ({amount} > {balance})"
  | withdrawalWithoutShares _ amount rate =>
      s!"Withdraw {amount} rounds to zero reserve shares at rate {rate}"
  | rewardSlotsTaken _ capacity => s!"Reward token capacity reached ({capacity.asText})"
  | negativeReward .. => "Reward amount cannot be negative"
  | claimFactorOutOfRange factor => s!"Reserve factor out of range: {factor}"
  | reserveFactorOutOfRange factor => s!"Reserve factor out of range: {factor.asText}"
  | unknownRewardToken token => s!"Unknown reward token {token}"
  | zeroAddress symbol field => s!"{symbol.asText}: {field} is zero address"
  | callerNotPool symbol _ => s!"{symbol.asText}: caller is not the pool"
  | assetMissing _ => "Rebasing token state needs its reserve asset"
  | noHoldingAddress => "Static token needs a holding address"
  | staticDepositWithoutUnits _ amount _ => s!"Deposit {amount} rounds to zero static units"
  | staticWithdrawalNotPositive .. => "withdraw amount must be positive"
  | staticWithdrawalAboveBalance _ units balance =>
      s!"Withdraw exceeds static balance ({units} > {balance})"
  | staticWithdrawalToNothing .. => "Withdraw rounds to zero"
  | negativeThreshold _ => "Dust threshold cannot be negative"
  | unknownLevel setting value =>
      s!"{setting} must be a standard level name, got {Text.quoted value}"
  | settingNotInteger setting value => s!"{setting} must be an integer, got {Text.quoted value}"
  | settingOutOfRange setting value minimum maximum =>
      let bound := match maximum with
        | some n => toString n
        | none => "inf"
      s!"{setting}={value} outside allowed range [{minimum}, {bound}]"
  | scenarioNotMapping _ => "Scenario must be a mapping"
  | scenarioUnreadable path => s!"Invalid YAML in {path}"
  | scenarioFileNotMapping path => s!"Scenario file {path} must contain a mapping."
  | stepNotMapping step => s!"Step {step} must be a mapping with an action"
  | unknownAction step action => s!"Step {step}: unknown action {Text.quoted action}"
  | stepFailed step action cause => s!"Step {step} ({action}) failed: {cause.message}"
  | stepSucceeded step action expected => s!"Step {step} ({action}) expected {expected} but succeeded"
  | fieldMissing action field => s!"{action.asText} step is missing {Text.quoted field}"
  | fieldNotNumber action field value =>
      s!"{action.asText} step: {field}={Text.quoted value} is not a number"
  | noRebasingReserve => "rebase step needs a rebasing reserve"
  | stated _ message _ _ => message

def figures : Refusal → List Int
  | negativeOperand _ operand => [operand]
  | indexBelowCurrent _ index current => [index, current]
  | mintWithoutShares _ amount index => [amount, index]
  | burnWithoutShares _ amount index => [amount, index]
  | burnAboveBalance _ amount balance => [amount, balance]
  | transferAboveBalance _ amount balance => [amount, balance]
  | transferAboveShares _ shares available => [shares, available]
  | deltaAgainstReason _ delta _ => [delta]
  | sharesBelowZero _ current delta => [current, delta]
  | assetTransferAboveShares _ _ shares available => [shares, available]
  | depositWithoutUnits _ amount index => [amount, index]
  | depositWithoutShares _ amount rate => [amount, rate]
  | withdrawalAboveBalance _ amount balance => [amount, balance]
  | withdrawalWithoutShares _ amount rate => [amount, rate]
  | claimFactorOutOfRange factor => [factor]
  | staticDepositWithoutUnits _ amount _ => [amount]
  | staticWithdrawalAboveBalance _ units balance => [units, balance]
  | settingOutOfRange _ value minimum maximum => value :: minimum :: maximum.toList
  | stepNotMapping step => [step]
  | unknownAction step _ => [step]
  | stepFailed step _ _ => [step]
  | stepSucceeded step _ _ => [step]
  | _ => []

/-- Whether all numbers in the wording of a reason are short enough to be written. -/
def isSayable (r : Refusal) : Bool := r.figures.all Text.isWritable

def details : Refusal → List (Document × Document)
  | negativeOperand op operand => fields [("op", .text op), ("operand", .int operand)]
  | operandTooLarge op => fields [("op", .text op)]
  | productTooLarge op => fields [("op", .text op)]
  | dividendTooLarge op => fields [("op", .text op)]
  | resultTooLarge op => fields [("op", .text op)]
  | zeroDivisor op dividend => fields [("op", .text op), ("a", .int dividend)]
  | indexNotPositive asset index => fields [("asset", asset), ("index", .int index)]
  | indexBelowCurrent asset index current =>
      fields [("asset", asset), ("index", .int index), ("current", .int current)]
  | noLiquidity asset amount => fields [("asset", asset), ("amount", .int amount)]
  | negativePremium asset amount => fields [("asset", asset), ("amount", .int amount)]
  | amountNotPositive op amount => fields [("op", .text op), ("amount", .int amount)]
  | mintWithoutShares holder amount index =>
      fields [("holder", .text holder), ("amount", .int amount), ("index", .int index)]
  | burnWithoutShares holder amount index =>
      fields [("holder", .text holder), ("amount", .int amount), ("index", .int index)]
  | burnAboveBalance holder amount balance =>
      fields [("holder", .text holder), ("amount", .int amount), ("balance", .int balance)]
  | negativeTransfer sender amount => fields [("sender", .text sender), ("amount", .int amount)]
  | transferAboveBalance sender amount balance =>
      fields [("sender", .text sender), ("amount", .int amount), ("balance", .int balance)]
  | transferAboveShares sender shares _ => fields [("sender", .text sender), ("shares", .int shares)]
  | deltaAgainstReason holder delta reason =>
      fields [("holder", .text holder), ("delta", .int delta), ("reason", .text reason)]
  | sharesBelowZero holder _ delta => fields [("holder", .text holder), ("delta", .int delta)]
  | submitNotPositive _ holder amount => fields [("holder", .text holder), ("amount", .int amount)]
  | assetTransferAboveShares _ sender shares _ =>
      fields [("sender", .text sender), ("shares", .int shares)]
  | poolWipedOut _ fraction => fields [("fraction", .text fraction)]
  | rateNotPositive _ rate => fields [("rate", .int rate)]
  | depositNotPositive role holder amount => fields [(role, .text holder), ("amount", .int amount)]
  | depositWithoutUnits holder amount index =>
      fields [("holder", .text holder), ("amount", .int amount), ("index", .int index)]
  | depositWithoutShares holder amount rate =>
      fields [("holder", .text holder), ("amount", .int amount), ("rate", .int rate)]
  | withdrawalNotPositive holder amount => fields [("holder", .text holder), ("amount", .int amount)]
  | withdrawalAboveBalance holder amount balance =>
      fields [("holder", .text holder), ("amount", .int amount), ("balance", .int balance)]
  | withdrawalWithoutShares holder amount rate =>
      fields [("holder", .text holder), ("amount", .int amount), ("rate", .int rate)]
  | rewardSlotsTaken token capacity => fields [("token", .text token), ("capacity", capacity)]
  | negativeReward token amount => fields [("token", .text token), ("amount", .int amount)]
  | claimFactorOutOfRange factor => fields [("reserve_factor_bps", .int factor)]
  | reserveFactorOutOfRange factor => fields [("bps", factor)]
  | unknownRewardToken token => fields [("token", .text token)]
  | zeroAddress _ field => fields [("field", .text field)]
  | callerNotPool symbol caller => fields [("caller", .text caller), ("token", symbol)]
  | assetMissing symbol => fields [("symbol", symbol)]
  | noHoldingAddress => []
  | staticDepositWithoutUnits depositor amount rate =>
      fields [("depositor", .text depositor), ("amount", .int amount), ("rate", .int rate)]
  | staticWithdrawalNotPositive owner units value =>
      fields [("owner", .text owner), ("static", .int units), ("dynamic", .int value)]
  | staticWithdrawalAboveBalance owner units balance =>
      fields [("owner", .text owner), ("static", .int units), ("balance", .int balance)]
  | staticWithdrawalToNothing owner units value =>
      fields [("owner", .text owner), ("static", .int units), ("dynamic", .int value)]
  | negativeThreshold threshold => fields [("threshold", .int threshold)]
  | unknownLevel setting value => fields [("env_var", .text setting), ("value", .text value)]
  | settingNotInteger setting value => fields [("env_var", .text setting), ("value", .text value)]
  | settingOutOfRange setting value _ _ => fields [("env_var", .text setting), ("value", .int value)]
  | scenarioNotMapping name => fields [("name", name)]
  | scenarioUnreadable path => fields [("path", .text path)]
  | scenarioFileNotMapping path => fields [("path", .text path)]
  | stepNotMapping step => fields [("step", .int step)]
  | unknownAction step _ => fields [("step", .int step)]
  | stepFailed step _ cause =>
      fields ([("step", .int step), ("error_type", .text cause.kind.name),
        ("error_message", .text cause.message), ("recoverable", .bool cause.recoverable)] ++
        (if cause.details.isEmpty then [] else [("details", .map cause.details)]))
  | stepSucceeded step _ _ => fields [("step", .int step)]
  | fieldMissing action field => fields [("action", action), ("field", .text field)]
  | fieldNotNumber _ field value => fields [("field", .text field), ("value", .text value)]
  | noRebasingReserve => fields [("action", .text "rebase")]
  | stated _ _ details _ => details
where
  fields (fs : List (String × Document)) : List (Document × Document) :=
    fs.map fun f => (.text f.1, f.2)

def context (r : Refusal) : List (String × Document) :=
  [("error_type", .text r.kind.name), ("error_message", .text r.message),
    ("recoverable", .bool r.recoverable)] ++
    (if r.details.isEmpty then [] else [("details", .map r.details)])

end Refusal

/-! ## Faults -/

inductive Fault where
  | refused (reason : Refusal)
  | notSupported
  | wrongKind
  | missingKey (key : String)
  /-- The text denotes no value of the kind asked for, or the value has no text. -/
  | unreadable
  | noSuchPlace
  | nestedTooDeep
  | numberTooLarge
  | noSuchTime
  | malformedTag
  | noRoom
  | decimal (failure : Decimal.Failure)
deriving Inhabited

namespace Fault

/-- A refusal stops a call with its wording; one that cannot be worded is a value without a text. -/
def ofRefusal (r : Refusal) : Fault := if r.isSayable then .refused r else .unreadable

theorem ofRefusal_eq_refused {r : Refusal} (h : r.isSayable = true) : ofRefusal r = .refused r :=
  if_pos h

theorem ofRefusal_of_figures_eq_nil {r : Refusal} (h : r.figures = []) : ofRefusal r = .refused r :=
  ofRefusal_eq_refused (by simp [Refusal.isSayable, h])

end Fault
end ReserveAccounting
