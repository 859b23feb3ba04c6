import ReserveAccounting.CommandLine.Run

/-!
# The program

Reads the settings of the installation and the scenario file, and hands the
words of the command line on. All else happens in a run.
-/

open ReserveAccounting ReserveAccounting.CommandLine

def settingNames : List String :=
  ["ENVIRONMENT", "LOG_LEVEL", "LOG_FILE", "MAX_REWARD_TOKENS", "REWARDS_RESERVE_FACTOR_BPS",
    "TREASURY_ADDRESS", "DUST_THRESHOLD", "INDEX_HISTORY_SIZE"]

def givenSettings : IO (List (String × String)) := do
  let mut given := []
  for name in settingNames.map Settings.fullName do
    match (← IO.getEnv name) with
    | some text => given := given ++ [(name, text)]
    | none => pure ()
  return given

def contentOf (path : String) : IO (Option String) := do
  try
    return some (← IO.FS.readFile path)
  catch _ => return none

def neededFile : Request → Option String
  | .run _ _ (.simulate path) => some path
  | _ => none

def usualWidth : Nat := 80

def consoleWidth : IO Nat := do
  match (← IO.getEnv "COLUMNS") with
  | some text => return text.toNat?.getD usualWidth
  | none => return usualWidth

def appendTo (path : String) (lines : List String) : IO Unit := do
  try
    let directory := "/".intercalate ((path.splitOn "/").dropLast)
    if !directory.isEmpty then IO.FS.createDirAll directory
    IO.FS.withFile path .append fun file => lines.forM file.putStrLn
  catch e => IO.eprintln ("Could not write to " ++ path ++ ": " ++ toString e)

def main (words : List String) : IO UInt32 := do
  let request := Request.ofWords words
  match Settings.ofTexts (← givenSettings) with
  | .error r =>
      IO.eprintln r.message
      return UInt32.ofNat failure
  | .ok settings =>
      let content ← match neededFile request with
        | some path => contentOf path
        | none => pure none
      let around : Surroundings :=
        { settings := settings, width := ← consoleWidth, stamp := none, textAt := fun _ => content }
      let outcome := around.answer request
      outcome.shown.forM IO.println
      outcome.log.forM IO.eprintln
      if !settings.logFile.isEmpty && !outcome.log.isEmpty then appendTo settings.logFile outcome.log
      outcome.advice.forM (if outcome.exit = success then IO.println else IO.eprintln)
      return UInt32.ofNat outcome.exit
