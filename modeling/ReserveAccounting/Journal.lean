import ReserveAccounting.Document.Basic

/-!
# Journal records

What an operation tells about itself: a level, the part of the accounting that
speaks, a message and named values.
-/

namespace ReserveAccounting

inductive Level where
  | debug
  | info
  | warning
  | error
  | critical
deriving DecidableEq, Repr, Inhabited

namespace Level

def name : Level → String
  | debug => "DEBUG"
  | info => "INFO"
  | warning => "WARNING"
  | error => "ERROR"
  | critical => "CRITICAL"

def severity : Level → Int
  | debug => 10
  | info => 20
  | warning => 30
  | error => 40
  | critical => 50

def all : List Level := [debug, info, warning, error, critical]

def ofName? (s : String) : Option Level := all.find? fun l => l.name == s

theorem severity_injective {a b : Level} (h : a.severity = b.severity) : a = b := by
  cases a <;> cases b <;> first | rfl | (exact absurd h (by decide))

end Level

inductive Channel where
  | ledger
  | reserve
  | reserveAsset
  | rebasingLedger
  | rewards
  | depositToken
  | staticVault
  | dust
  | scenario
  | settings
  | commandLine
deriving DecidableEq, Repr, Inhabited

/-- The dotted name under which a part appears in log output. -/
def Channel.name : Channel → String
  | ledger => "scaledpool.core.defi.scaled_balance"
  | reserve => "scaledpool.core.defi.reserve_index"
  | reserveAsset => "scaledpool.core.defi.rebasing_asset"
  | rebasingLedger => "scaledpool.core.defi.rebase_wrapper"
  | rewards => "scaledpool.core.defi.reward_index"
  | depositToken => "scaledpool.core.defi.interest_token"
  | staticVault => "scaledpool.core.defi.static_token"
  | dust => "scaledpool.core.defi.dust_sweeper"
  | scenario => "scaledpool.core.defi.simulation"
  | settings => "scaledpool.core.config"
  | commandLine => "scaledpool.cli.main"

structure Record where
  level : Level
  channel : Channel
  message : String
  fields : List (String × Document)
deriving Inhabited

/-- Account names are cut to this many characters in the journal. -/
def Record.nameWidth : Nat := 10

def Record.brief (name : String) : Document := .text (String.ofList (name.toList.take nameWidth))

end ReserveAccounting
