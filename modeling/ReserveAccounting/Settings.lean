import ReserveAccounting.DepositToken
import ReserveAccounting.DustSweeper
import ReserveAccounting.Text.Integer

/-!
# Settings

What an installation may choose: where it runs, how it logs, and the bounds and
defaults of the accounting. Settings are read from named texts; a text that is
empty or blank leaves the default in place.
-/

namespace ReserveAccounting

structure Settings where
  environment : String
  logLevel : Level
  logFile : String
  maxRewardTokens : Int
  rewardsReserveFactor : Int
  treasury : String
  dustThreshold : Int
  indexHistorySize : Int
deriving Inhabited

namespace Settings

def defaults : Settings :=
  { environment := "development"
    logLevel := .info
    logFile := ""
    maxRewardTokens := RewardTracker.defaultCapacity
    rewardsReserveFactor := 0
    treasury := defaultTreasury
    dustThreshold := DustSweeper.defaultThreshold
    indexHistorySize := ReserveIndex.defaultMaxHistory }

def fullName (name : String) : String := "SCALEDPOOL_" ++ name

def textOf (given : List (String × String)) (name : String) : String :=
  Text.strip ((given.lookup (fullName name)).getD "")

def textOr (given : List (String × String)) (name fallback : String) : String :=
  let s := textOf given name
  if s.isEmpty then fallback else s

/-- An integer setting between bounds; there may be no upper one. -/
def integerOr (given : List (String × String)) (name : String) (fallback minimum : Int)
    (maximum : Option Int) : Except Refusal Int :=
  let s := textOf given name
  if s.isEmpty then .ok fallback
  else
    match Text.integer? s with
    | none => .error (.settingNotInteger (fullName name) s)
    | some n =>
        if n < minimum ∨ (maximum.any fun most => decide (most < n)) then
          .error (.settingOutOfRange (fullName name) n minimum maximum)
        else .ok n

def levelOr (given : List (String × String)) (name : String) (fallback : Level) :
    Except Refusal Level :=
  let s := Text.upper (textOr given name fallback.name)
  match Level.ofName? s with
  | some level => .ok level
  | none => .error (.unknownLevel (fullName name) s)

/-- Reads the settings; the first text that cannot be used refuses them all. -/
def ofTexts (given : List (String × String)) : Except Refusal Settings := do
  let level ← levelOr given "LOG_LEVEL" defaults.logLevel
  let capacity ← integerOr given "MAX_REWARD_TOKENS" defaults.maxRewardTokens 1 none
  let factor ← integerOr given "REWARDS_RESERVE_FACTOR_BPS" defaults.rewardsReserveFactor 0
    (some RewardTracker.maxFactor)
  let threshold ← integerOr given "DUST_THRESHOLD" defaults.dustThreshold 0 none
  let history ← integerOr given "INDEX_HISTORY_SIZE" defaults.indexHistorySize 1 none
  .ok
    { environment := textOr given "ENVIRONMENT" defaults.environment
      logLevel := level
      logFile := textOr given "LOG_FILE" defaults.logFile
      maxRewardTokens := capacity
      rewardsReserveFactor := factor
      treasury := Text.lower (textOr given "TREASURY_ADDRESS" defaults.treasury)
      dustThreshold := threshold
      indexHistorySize := history }

def load (given : List (String × String)) : Act Unit Settings := do
  let s ← ofTexts given
  Act.note
    { level := .debug, channel := .settings, message := "Configuration loaded"
      fields := [("event", .text "config.loaded"), ("environment", .text s.environment),
        ("max_reward_tokens", .int s.maxRewardTokens),
        ("rewards_reserve_factor_bps", .int s.rewardsReserveFactor)] }
  return s

def toDocument (s : Settings) : Document :=
  .record [("environment", .text s.environment), ("log_level", .text s.logLevel.name),
    ("log_file", .text s.logFile), ("max_reward_tokens", .int s.maxRewardTokens),
    ("rewards_reserve_factor_bps", .int s.rewardsReserveFactor),
    ("treasury_address", .text s.treasury), ("dust_threshold", .int s.dustThreshold),
    ("index_history_size", .int s.indexHistorySize)]

end Settings
end ReserveAccounting
