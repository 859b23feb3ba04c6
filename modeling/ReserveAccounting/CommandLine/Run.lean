import ReserveAccounting.CommandLine.Pages
import ReserveAccounting.CommandLine.Request
import ReserveAccounting.LogRouting
import ReserveAccounting.Scenario.File

/-!
# Runs of the command line

A run answers a request: it exits with a number, shows lines on the console and
writes log lines. Files are read through a function, so that a run is a value.
-/

namespace ReserveAccounting
namespace CommandLine

structure Outcome where
  exit : Nat
  shown : List String
  log : List String
  advice : List String
  /-- What broke the run off, if anything did that the console does not explain. -/
  fault : Option Fault
deriving Inhabited

structure Surroundings where
  settings : Settings
  width : Nat
  stamp : Option LineStamp
  textAt : String → Option String

def programName : String := "scaledpool"

def versionText : String := programName ++ ", version 0.1.0"

def success : Nat := 0
def failure : Nat := 1
def misused : Nat := 2

def usage : List String :=
  ["Usage: " ++ programName ++ " [--json-output] [--log-level LEVEL] COMMAND",
    "  simulate SCENARIO",
    "  math ray-mul A B",
    "  math ray-div A B",
    "  math percent-mul VALUE BPS",
    "  config"]

def misuse : Outcome := ⟨misused, [], [], usage, none⟩

namespace Surroundings

def logLines (around : Surroundings) (level : Level) (journal : List Record) : List String :=
  let style := LineStyle.make (.text around.settings.environment) (.text programName) around.stamp
  (journal.filter fun r => level.severity ≤ r.level.severity).filterMap fun r =>
    (style.line r.event).toOption

def refusalRecord (r : Refusal) : Record :=
  { level := .error, channel := .commandLine, message := "CLI error: " ++ r.message, fields := [] }

/-- The outcome of pages; a page that cannot be shown breaks the run off. -/
def showing (around : Surroundings) (exit : Nat) (pages : List (Except Fault Page)) (log : List String) :
    Outcome :=
  let (lines, fault) := showAll around.width pages
  ⟨if fault.isNone then exit else failure, lines, log, [], fault⟩

def telling (d : Document) (text : Document → String) (log : List String) : Outcome :=
  if d.isWritable then ⟨success, [text d], log, [], none⟩
  else ⟨failure, [], log, [], some .unreadable⟩

def failing (around : Surroundings) (level : Level) (f : Fault) (journal : List Record) : Outcome :=
  match f with
  | .refused r =>
      around.showing failure (refusalPages r) (around.logLines level (journal ++ [refusalRecord r]))
  | _ => ⟨failure, [], around.logLines level journal, [], some f⟩

def simulate (around : Surroundings) (asJson : Bool) (level : Level) (path text : String) : Outcome :=
  let setup := Scenario.ofFile around.settings path text
  match setup.outcome with
  | .error f => around.failing level f setup.journal
  | .ok s =>
      let t := Scenario.run s
      let journal := setup.journal ++ t.journal
      match t.outcome with
      | .error f => around.failing level f journal
      | .ok report =>
          let log := around.logLines level journal
          if asJson then telling report.toDocument Document.toJsonPretty log
          else around.showing success (reportPages report) log

def calculate (around : Surroundings) (asJson : Bool) (level : Level) (operation : Operation)
    (a b : Int) : Outcome :=
  match operation.apply a b with
  | .error r => around.failing level (.ofRefusal r) []
  | .ok result =>
      let d := Document.record [("op", .text operation.name), ("a", .int a), ("b", .int b),
        ("result", .int result)]
      if asJson then telling d Document.toJsonLine []
      else
        around.showing success
          [.ok (.paragraph ("[cyan]" ++ operation.name ++ "[/](" ++ toString a ++ ", " ++
            toString b ++ ") = [bold green]" ++ toString result ++ "[/]"))] []

/-- Answers a request. A scenario that is not there is a misuse. -/
def answer (around : Surroundings) : Request → Outcome
  | .version => ⟨success, [versionText], [], [], none⟩
  | .help => ⟨success, [], [], usage, none⟩
  | .misuse => misuse
  | .run asJson level command =>
      match command with
      | .simulate path =>
          match around.textAt path with
          | some text => around.simulate asJson level path text
          | none => misuse
      | .calculate operation a b => around.calculate asJson level operation a b
      | .settings =>
          if asJson then telling around.settings.toDocument Document.toJsonPretty []
          else around.showing success [.ok (settingsPage around.settings)] []

def run (around : Surroundings) (words : List String) : Outcome := around.answer (.ofWords words)

end Surroundings
end CommandLine
end ReserveAccounting
