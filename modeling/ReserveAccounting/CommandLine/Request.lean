import ReserveAccounting.FixedPoint
import ReserveAccounting.Journal
import ReserveAccounting.Text.Case
import ReserveAccounting.Text.Integer

/-!
# Requests of the command line

What the words behind the program's name ask for. Options of the program stand
in front of the command; an option that is unknown, a value that is missing or
does not fit, or a word too many makes the whole a misuse. Asking for help or
for the version goes before everything but an unreadable option.
-/

namespace ReserveAccounting
namespace CommandLine

inductive Operation where
  | rayMul
  | rayDiv
  | percentMul
deriving DecidableEq, Repr, Inhabited

namespace Operation

def all : List Operation := [rayMul, rayDiv, percentMul]

def word : Operation → String
  | rayMul => "ray-mul"
  | rayDiv => "ray-div"
  | percentMul => "percent-mul"

def name : Operation → String
  | rayMul => "ray_mul"
  | rayDiv => "ray_div"
  | percentMul => "percent_mul"

def apply : Operation → Int → Int → Except Refusal Int
  | rayMul => FixedPoint.rayMul
  | rayDiv => FixedPoint.rayDiv
  | percentMul => FixedPoint.percentMul

def ofWord? (s : String) : Option Operation := all.find? fun op => op.word == s

end Operation

inductive Command where
  | simulate (path : String)
  | calculate (operation : Operation) (a b : Int)
  | settings
deriving DecidableEq, Repr, Inhabited

inductive Request where
  | run (asJson : Bool) (level : Level) (command : Command)
  | version
  | help
  | misuse
deriving DecidableEq, Repr, Inhabited

/-! ## Options -/

inductive ProgramOption where
  | help
  | version
  | json
  | level (name : String)
deriving DecidableEq, Repr

/-- Whether a word is an option; a single dash is none. -/
def isOption (word : String) : Bool := word.startsWith "-" && 1 < word.length

def levelOption : String := "--log-level"

def programOptions : List String → Option (List ProgramOption × List String)
  | [] => some ([], [])
  | "--" :: rest => some ([], rest)
  | "--help" :: rest => (programOptions rest).map fun r => (.help :: r.1, r.2)
  | "--version" :: rest => (programOptions rest).map fun r => (.version :: r.1, r.2)
  | "--json-output" :: rest => (programOptions rest).map fun r => (.json :: r.1, r.2)
  | "--log-level" :: value :: rest => (programOptions rest).map fun r => (.level value :: r.1, r.2)
  | word :: rest =>
      if !isOption word then some ([], word :: rest)
      else if word.startsWith (levelOption ++ "=") then
        (programOptions rest).map fun r =>
          (.level (String.ofList (word.toList.drop (levelOption.length + 1))) :: r.1, r.2)
      else none

def commandWords : List String → Option (Bool × List String)
  | [] => some (false, [])
  | "--" :: rest => some (false, rest)
  | "--help" :: rest => (commandWords rest).map fun r => (true, r.2)
  | word :: rest =>
      if isOption word then none else (commandWords rest).map fun r => (r.1, word :: r.2)

/-- The words behind a group of commands: help is its only option, and it stands in front. -/
def groupWords : List String → Option (Bool × List String)
  | [] => some (false, [])
  | "--" :: rest => some (false, rest)
  | "--help" :: rest => (groupWords rest).map fun r => (true, r.2)
  | word :: rest => if isOption word then none else some (false, word :: rest)

def levelOf? (word : String) : Option Level :=
  Level.all.find? fun level => Text.lower level.name == Text.lower word

def defaultLevel : Level := .warning

/-! ## Commands -/

/--
What becomes of a word that names no command: one that does not start like a
name makes the program tell how it is used.
-/
def unknownCommand (word : String) : Request :=
  match word.toList.head? with
  | some c => if c.isAlphanum || 127 < c.toNat then .misuse else .help
  | none => .misuse

def withWords (words : List String) (command? : List String → Option Command) (asJson : Bool)
    (level : Level) : Request :=
  match commandWords words with
  | none => .misuse
  | some (true, _) => .help
  | some (false, words) =>
      match command? words with
      | some command => .run asJson level command
      | none => .misuse

def calculation? (operation : Operation) : List String → Option Command
  | [a, b] => do
      let a ← Text.integer? a
      let b ← Text.integer? b
      some (.calculate operation a b)
  | _ => none

def simulation? : List String → Option Command
  | [path] => some (.simulate path)
  | _ => none

def settings? : List String → Option Command
  | [] => some .settings
  | _ => none

def ofGroup (words : List String) (asJson : Bool) (level : Level) : Request :=
  if words.isEmpty then .help
  else
    match groupWords words with
    | none => .misuse
    | some (true, _) => .help
    | some (false, []) => .misuse
    | some (false, word :: rest) =>
        match Operation.ofWord? word with
        | some operation => withWords rest (calculation? operation) asJson level
        | none => unknownCommand word

def ofCommand (word : String) (rest : List String) (asJson : Bool) (level : Level) : Request :=
  match word with
  | "simulate" => withWords rest simulation? asJson level
  | "math" => ofGroup rest asJson level
  | "config" => withWords rest settings? asJson level
  | _ => unknownCommand word

/-- The level that the options set: the last one counts. -/
def levelIn (options : List ProgramOption) : Option Level :=
  match options.reverse.findSome? fun o =>
      match o with
      | .level name => some name
      | _ => none with
  | some name => levelOf? name
  | none => some defaultLevel

def Request.ofWords (words : List String) : Request :=
  if words.isEmpty then .help
  else
    match programOptions words with
    | none => .misuse
    | some (options, rest) =>
        match options.find? fun o => o = .help || o = .version with
        | some .version => .version
        | some _ => .help
        | none =>
            match levelIn options, rest with
            | some level, word :: rest => ofCommand word rest (options.contains .json) level
            | _, _ => .misuse

end CommandLine
end ReserveAccounting
