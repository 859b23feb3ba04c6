import ReserveAccounting.LogFolder
import ReserveAccounting.LogLine
import ReserveAccounting.Settings
import ReserveAccounting.Table

/-!
# Loggers

Loggers have dotted names and are set up one by one: with a level and with
outputs, to the console or to a file. A logger without a level of its own uses
that of the nearest logger above it; the topmost one starts with warnings. What
a logger cannot do in its setup is told to the loggers above it.
-/

namespace ReserveAccounting

inductive LogTarget where
  | console
  | file (path : String)
deriving DecidableEq, Repr, Inhabited

inductive LogText where
  | line (fields : List (String × Document))
  | plain (text : String)
deriving Inhabited

structure LogOutput where
  target : LogTarget
  level : Int
  style : LineStyle
deriving Inhabited

structure Logger where
  /-- The least severity of the logger; zero leaves it to the loggers above. -/
  level : Int
  outputs : List LogOutput
deriving Inhabited

structure LogRouting where
  loggers : Table String Logger
  folder : LogFolder
  told : List (LogTarget × LogText)
deriving Inhabited

/--
How a logger is to be set up, in values that may be of any kind. What is not
given follows the settings.
-/
structure LoggerRequest where
  name : Document
  file : Document
  level : Document
  environment : Document
  console : Bool
deriving Inhabited

namespace LogRouting

def empty : LogRouting := ⟨∅, .empty, []⟩

def topName : String := "root"

def topLevel : Int := Level.warning.severity

/-- Both the empty name and the name of the topmost logger mean it. -/
def canonicalName (name : String) : String := if name.isEmpty then topName else name

def otherSeverities : List (String × Int) := [("WARN", 30), ("FATAL", 50), ("NOTSET", 0)]

def severityOf (name : String) : Except Fault Int :=
  let name := Text.upper name
  match Level.ofName? name with
  | some level => .ok level.severity
  | none =>
      match otherSeverities.lookup name with
      | some n => .ok n
      | none =>
          .error (if name = "BASIC_FORMAT" then .unreadable
            else if name = "_STYLES" then .wrongKind else .notSupported)

def severityName (severity : Int) : String :=
  match Level.all.find? fun level => level.severity = severity with
  | some level => level.name
  | none => if severity = 0 then "NOTSET" else "Level " ++ toString severity

def serviceOf (name : String) : String := (name.splitOn ".").headD ""

def orText (given : Document) (fallback : String) : Document :=
  if given.isGiven then given else .text fallback

def nameOf : Document → Except Fault String
  | .text name => .ok (canonicalName name)
  | d => if d.isGiven then .error .wrongKind else .ok topName

def lineage (name : String) : List String :=
  let parts := name.splitOn "."
  let names := (List.range parts.length).map fun i => ".".intercalate (parts.take (parts.length - i))
  names.filter (· ≠ topName) ++ [topName]

def effectiveLevel (r : LogRouting) (name : String) : Int :=
  let levels := (lineage (canonicalName name)).filterMap fun n => (r.loggers.get? n).map (·.level)
  (levels.find? (· ≠ 0)).getD ((r.loggers.get? topName).elim topLevel (·.level))

def outputsOf (r : LogRouting) (name : String) : List LogOutput :=
  ((r.loggers.get? (canonicalName name)).map (·.outputs)).getD []

def linesOf (outputs : List LogOutput) (severity : Int) (e : LogEvent) :
    Except Fault (List (LogTarget × LogText)) :=
  (outputs.filter fun o => o.level ≤ severity).mapM fun o => do
    let fields ← o.style.fields e
    .ok (o.target, .line fields)

/-! ## Setting up -/

def put (r : LogRouting) (name : String) (logger : Logger) : LogRouting :=
  { r with loggers := r.loggers.put name logger }

def openingFailed (name path : String) (fault : OpenFault) : LogEvent :=
  { name := name, level := Level.warning.name
    message := .text ("Could not create file handler for " ++ path ++ ": " ++ fault.message)
    arguments := [], function := .null, path := .null, line := .null
    extra := [("event", .text "logging.file_handler_failed")] }

def tellFailure (name path : String) (fault : OpenFault) : Act LogRouting Unit := do
  let r ← Act.current
  let severity := Level.warning.severity
  if r.effectiveLevel name ≤ severity then
    let outputs := (lineage name).flatMap r.outputsOf
    let lines ← linesOf outputs severity (openingFailed name path fault)
    Act.replace { r with told := r.told ++ lines.filter fun l => l.1 ≠ .console }

def openFor (settings : Settings) (q : LoggerRequest) (name : String) :
    Act LogRouting (Option String) := do
  let file := if q.file matches .null then .text settings.logFile else q.file
  if !file.isGiven then return none
  match file with
  | .text path =>
      let r ← Act.current
      let (outcome, folder) := r.folder.openFile path
      Act.replace { r with folder := folder }
      match outcome with
      | .ok place => return some place
      | .error .notPath => Act.fail .unreadable
      | .error fault =>
          tellFailure name path fault
          return none
  | _ => Act.fail .wrongKind

/--
Sets a logger up anew. A fault that comes up late leaves the logger with its new
level and without outputs.
-/
def setUp (settings : Settings) (stamp : Option LineStamp) (q : LoggerRequest) :
    Act LogRouting Logger := do
  let word ← (orText q.level settings.logLevel.name).asString
  let severity := severityOf word
  if severity matches .error .notSupported then Act.fail .notSupported
  let name ← nameOf q.name
  let level ← severity
  Act.update (·.put name ⟨level, []⟩)
  let service := serviceOf (← q.name.asString)
  let style := LineStyle.make (orText q.environment settings.environment) (.text service) stamp
  let file ← openFor settings q name
  let targets := (if q.console then [LogTarget.console] else []) ++ (file.map LogTarget.file).toList
  let logger : Logger := ⟨level, targets.map fun t => ⟨t, level, style⟩⟩
  Act.update (·.put name logger)
  return logger

def obtain (settings : Settings) (stamp : Option LineStamp) (q : LoggerRequest) :
    Act LogRouting Logger := do
  let name ← nameOf q.name
  let r ← Act.current
  match r.loggers.get? name with
  | some logger => if logger.outputs.isEmpty then setUp settings stamp q else return logger
  | none => setUp settings stamp q

/-! ## Writing -/

/--
What a logger writes for an event, behind what was written before it. An event
that is loud enough must not bring values in the names of its own attributes. A
logger without outputs writes plain warnings to the console.
-/
def emit (name : String) (severity : Int) (e : LogEvent) :
    Act LogRouting (List (LogTarget × LogText)) := do
  let r ← Act.current
  let written ←
    if severity ≤ 0 ∨ severity < r.effectiveLevel name then pure []
    else if let some f := e.extra.find? fun f => LogEvent.ownNames.contains f.1 then
      Act.fail (.missingKey f.1)
    else if (r.outputsOf name).isEmpty then
      pure (if severity < topLevel then [] else [(LogTarget.console, .plain e.message.asText)])
    else linesOf (r.outputsOf name) severity e
  Act.replace { r with told := [] }
  return r.told ++ written

end LogRouting
end ReserveAccounting
