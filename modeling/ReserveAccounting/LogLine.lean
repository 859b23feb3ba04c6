import ReserveAccounting.Calendar
import ReserveAccounting.Document.Json
import ReserveAccounting.Document.Template
import ReserveAccounting.Journal
import ReserveAccounting.Text.PathName

/-!
# Log lines

A log event becomes one JSON object: its name, level and message, the values
that came with it, and the environment, the service and the place it comes from.
The last three are always those of the log and not of the event.
-/

namespace ReserveAccounting

/-- What is handed to a log. Extra values may stand in for the event's own attributes. -/
structure LogEvent where
  name : String
  level : String
  message : Document
  arguments : List Document
  function : Document
  path : Document
  line : Document
  extra : List (String × Document)
deriving Inhabited

namespace LogEvent

def sourceModule (e : LogEvent) : String :=
  match e.path with
  | .text path => PathName.upToPoint (PathName.lastPart path)
  | _ => "Unknown module"

def own (e : LogEvent) (key : String) : Document :=
  match key with
  | "name" => .text e.name
  | "levelname" => .text e.level
  | "msg" => e.message
  | "funcName" => e.function
  | "module" => .text e.sourceModule
  | "lineno" => e.line
  | _ => .null

/-- An attribute of the event; an extra value of its name stands in for it. -/
def valueOf (e : LogEvent) (key : String) : Document := (e.extra.lookup key).getD (e.own key)

def ownNames : List String :=
  ["args", "asctime", "created", "exc_info", "exc_text", "filename", "funcName", "levelname",
    "levelno", "lineno", "module", "msecs", "message", "msg", "name", "pathname", "process",
    "processName", "relativeCreated", "stack_info", "thread", "threadName"]

def reserved : List String := ownNames ++ ["timestamp", "level"]

/-- Extra values that appear in a line; names that start with an underscore are private. -/
def visibleExtra (e : LogEvent) : List (String × Document) :=
  e.extra.filter fun f => !reserved.contains f.1 && !f.1.startsWith "_"

/--
What the message is filled with, if it is a template at all: a mapping that comes
alone gives its values by name.
-/
def supply? (e : LogEvent) : Option Document.Supply :=
  match e.extra.lookup "args" with
  | some d => if d.isGiven then some (.single d) else none
  | none =>
      match e.arguments with
      | [] => none
      | [d] => some (if d.isMap && d.isGiven then .single d else .row [d])
      | ds => some (.row ds)

def content (e : LogEvent) : Except Fault (String × List (String × Document)) :=
  match e.valueOf "msg" with
  | .map es => .ok ("", es.map fun f => (f.1.asText, f.2))
  | d =>
      match e.supply? with
      | none => .ok (d.asText, [])
      | some supply => do .ok (← Document.fillTemplate d.asText supply, [])

def causeless : String := "NoneType: None"

/-- The text of a failure, which is given in three parts; the first says nothing of its own. -/
def failureText : Document → Except Fault String
  | .list (_ :: cause :: place :: _) =>
      if cause matches .null && place matches .null then .ok causeless else .error .notSupported
  | .list _ => .error .noSuchPlace
  | .text s => .error (if s.length < 3 then .noSuchPlace else .notSupported)
  | .map _ => .error (.missingKey "2")
  | _ => .error .wrongKind

/--
Notes of a failure that the event brings with it. A message in the form of a
mapping may give them itself.
-/
def failureNotes (e : LogEvent) (given : List (String × Document)) :
    Except Fault (List (String × Document)) := do
  let isGiven (key : String) : Bool := (given.lookup key).any Document.isGiven
  let failure := e.valueOf "exc_info"
  let told ← if failure.isGiven && !isGiven "exc_info" then do
      let text ← failureText failure
      .ok [("exc_info", Document.text text)]
    else .ok []
  let kept :=
    if told.isEmpty && !isGiven "exc_info" then [("exc_info", e.valueOf "exc_text")] else []
  let stack := if isGiven "stack_info" then [] else [("stack_info", e.valueOf "stack_info")]
  .ok (told ++ (kept ++ stack).filter fun f => f.2.isGiven)

end LogEvent

/-! ## Times -/

def secondsBound : Int := 0x8000000000000000

def momentOf (seconds : Document) : Except Fault (CalendarDay × ClockTime) := do
  let (whole, part) ← split seconds
  if whole < -secondsBound ∨ secondsBound ≤ whole then .error .numberTooLarge
  else if whole < earliestYear ∨ latestYear < whole then .error .noSuchTime
  else if whole < firstMoment ∨ endOfTime ≤ whole then .error .unreadable
  else
    .ok (.ofNumber (whole.fdiv 86400 + epoch),
      .ofMicroseconds (whole.fmod 86400 * 1000000 + part).toNat)
where
  epoch : Int := CalendarDay.number ⟨1970, 1, 1⟩
  /-- The first and the last second whose years fit into a machine word. -/
  earliestYear : Int := -67768040609740800
  latestYear : Int := 67768036191676799
  firstMoment : Int := -62135596800
  endOfTime : Int := 253402300800
  split : Document → Except Fault (Int × Int)
    | .int n => .ok (n, 0)
    | .bool b => .ok (if b then 1 else 0, 0)
    | .float x =>
        match Document.truncateFloat x with
        | none => .error (if x.isNaN then .unreadable else .numberTooLarge)
        | some whole =>
            let part := Decimal.ofFiniteFloat ((x - (Decimal.ofInt whole).toFloat) * 1000000)
            let micros : Int := part.coefficientAt 0
            let micros := if part.negative then -micros else micros
            .ok (whole + micros.fdiv 1000000, micros.fmod 1000000)
    | _ => .error .wrongKind

/-! ## Lines -/

structure LineStamp where
  field : String
  time : String
deriving Inhabited

def LineStamp.usualField : String := "timestamp"

structure LineStyle where
  environment : Document
  service : Document
  stamp : Option LineStamp
deriving Inhabited

namespace LineStyle

def defaultEnvironment : String := "development"

def make (environment service : Document) (stamp : Option LineStamp) : LineStyle :=
  ⟨if environment.isGiven then environment else .text defaultEnvironment, service, stamp⟩

def writeAll (fields : List (String × Document)) : List (String × Document) :=
  (fields.foldl
    (fun (known : List (String × Document)) f =>
      if known.any fun k => k.1 == f.1 then known.map fun k => if k.1 == f.1 then f else k
      else known ++ [f]) [])

def levelOf (fields : List (String × Document)) (e : LogEvent) : Except Fault Document :=
  match fields.lookup "level" with
  | some d => if d.isGiven then .ok d else own
  | none => own
where
  own : Except Fault Document := do
    let name ← (e.valueOf "levelname").lowered
    .ok (.text name)

/-- Puts the time into the fields of a line: that of the event, if the event tells it. -/
def stamped (style : LineStyle) (e : LogEvent) (fields : List (String × Document)) :
    Except Fault (List (String × Document)) := do
  match style.stamp with
  | none => .ok fields
  | some stamp =>
      let time ← match e.extra.lookup "created" with
        | none => .ok stamp.time
        | some seconds => do
            let (day, time) ← momentOf seconds
            .ok (day.text ++ "T" ++ time.text)
      let fields := writeAll (fields ++ [(stamp.field, .text time)])
      if (fields.lookup LineStamp.usualField).any Document.isGiven then .ok fields
      else .ok (writeAll (fields ++ [(LineStamp.usualField, .text stamp.time)]))

def fields (style : LineStyle) (e : LogEvent) : Except Fault (List (String × Document)) := do
  let (message, given) ← e.content
  let notes ← e.failureNotes given
  let start ← style.stamped e <| writeAll <|
    [(LineStamp.usualField, e.valueOf LineStamp.usualField), ("level", e.valueOf "level"),
      ("name", e.valueOf "name"), ("message", .text message)] ++
    given ++ notes ++ e.visibleExtra
  let level ← levelOf start e
  .ok <| writeAll <|
    start ++
    [("level", level), ("environment", style.environment), ("service", style.service),
      ("source", .record [("function", e.valueOf "funcName"), ("module", e.valueOf "module"),
        ("line", e.valueOf "lineno")])]

def line (style : LineStyle) (e : LogEvent) : Except Fault String := do
  let fs ← style.fields e
  .ok (Document.record fs).toJsonLine

end LineStyle

def Record.event (r : Record) : LogEvent :=
  { name := r.channel.name, level := r.level.name, message := .text r.message, arguments := []
    function := .null, path := .text ((r.channel.name.splitOn ".").getLastD ""), line := .null
    extra := r.fields }

end ReserveAccounting
