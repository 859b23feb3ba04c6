import ReserveAccounting.Calendar
import ReserveAccounting.Decimal.Binary
import ReserveAccounting.Document.Basic
import ReserveAccounting.Text.Case
import ReserveAccounting.Text.Integer
import ReserveAccounting.Yaml.Cursor

/-!
# Types of nodes

The type of a node is given by a tag, or follows from the text of a plain
scalar. This module says which plain texts have which type, and what value a
text denotes under a type.
-/

namespace ReserveAccounting
namespace Yaml

inductive Tag where
  | null
  | bool
  | int
  | float
  | binary
  | timestamp
  | text
  | sequence
  | mapping
  | set
  | orderedMap
  | pairs
  | merge
  | defaultKey
  | unknown
deriving DecidableEq, Repr, Inhabited

namespace Tag

def home : String := "tag:yaml.org,2002:"

def named : List (String × Tag) :=
  [("null", null), ("bool", bool), ("int", int), ("float", float), ("binary", binary),
    ("timestamp", timestamp), ("str", text), ("seq", sequence), ("map", mapping), ("set", set),
    ("omap", orderedMap), ("pairs", pairs), ("merge", merge), ("value", defaultKey)]

def ofUri (uri : String) : Tag := ((named.find? fun e => home ++ e.1 == uri).map (·.2)).getD unknown

def isCollection : Tag → Bool
  | sequence => true
  | mapping => true
  | set => true
  | orderedMap => true
  | pairs => true
  | _ => false

/-! ## Plain texts -/

def isSign (c : Char) : Bool := c = '+' || c = '-'

def dropSign : List Char → List Char
  | c :: rest => if isSign c then rest else c :: rest
  | [] => []

def isGrouped (c : Char) : Bool := isDecimal c || c = '_'

def isSixtieth : List Char → Bool
  | [d] => isDecimal d
  | [t, d] => '0' ≤ t && t ≤ '5' && isDecimal d
  | _ => false

def splitAt (sep : Char) : List Char → List (List Char)
  | [] => [[]]
  | c :: rest =>
      match splitAt sep rest with
      | part :: parts => if c = sep then [] :: part :: parts else (c :: part) :: parts
      | [] => [[c]]

/-- A leading number and at least one sixtieth after colons. -/
def isSexagesimal (leads : Char → Bool) (cs : List Char) : Bool :=
  match splitAt ':' cs with
  | (d :: head) :: part :: parts => leads d && head.all isGrouped && (part :: parts).all isSixtieth
  | _ => false

def isIntText (cs : List Char) : Bool :=
  match dropSign cs with
  | '0' :: 'b' :: rest => !rest.isEmpty && rest.all fun c => c = '0' || c = '1' || c = '_'
  | '0' :: 'x' :: rest => !rest.isEmpty && rest.all fun c => (hexValue? c).isSome || c = '_'
  | '0' :: rest => rest.all fun c => ('0' ≤ c && c ≤ '7') || c = '_'
  | d :: rest =>
      isDecimal d && (rest.all isGrouped || isSexagesimal (fun c => isDecimal c && c ≠ '0') (d :: rest))
  | [] => false

def isExponent : List Char → Bool
  | [] => true
  | e :: s :: digits => (e = 'e' || e = 'E') && isSign s && !digits.isEmpty && digits.all isDecimal
  | _ => false

def isFloatText (cs : List Char) : Bool :=
  let body := dropSign cs
  let whole := body.takeWhile (· ≠ '.')
  match body.dropWhile (· ≠ '.') with
  | '.' :: fraction =>
      let tail := fraction.dropWhile isGrouped
      match whole with
      | [] =>
          (fraction = "inf".toList || fraction = "Inf".toList || fraction = "INF".toList) ||
            (body.length = cs.length &&
              (fraction = "nan".toList || fraction = "NaN".toList || fraction = "NAN".toList ||
                ((fraction.head?.any isDecimal) && isExponent tail)))
      | d :: rest =>
          (isDecimal d && rest.all isGrouped && isExponent tail) ||
            (isSexagesimal isDecimal whole && tail.isEmpty)
  | _ => false

/-! ## Days and times -/

def natOf (ds : List Char) : Nat := ds.foldl (fun n d => 10 * n + (d.toNat - '0'.toNat)) 0

def shortNumber? : List Char → Option (Nat × List Char)
  | a :: b :: rest =>
      if isDecimal a then
        if isDecimal b then some (natOf [a, b], rest) else some (natOf [a], b :: rest)
      else none
  | [a] => if isDecimal a then some (natOf [a], []) else none
  | [] => none

def twoDigits? : List Char → Option (Nat × List Char)
  | a :: b :: rest => if isDecimal a && isDecimal b then some (natOf [a, b], rest) else none
  | _ => none

def expect? (c : Char) : List Char → Option (List Char)
  | d :: rest => if c = d then some rest else none
  | [] => none

def offset? (cs : List Char) : Option (Option Int) :=
  match cs.dropWhile isGap with
  | [] => if cs.isEmpty then some none else none
  | ['Z'] => some (some 0)
  | s :: rest =>
      if isSign s then do
        let (hours, rest) ← shortNumber? rest
        let minutes ←
          match rest with
          | [] => some 0
          | ':' :: rest => do
              let (m, rest) ← twoDigits? rest
              if rest.isEmpty then some m else none
          | _ => none
        let total : Int := 60 * hours + minutes
        some (some (if s = '-' then -total else total))
      else none

def clock? (cs : List Char) : Option ClockTime := do
  let (hour, cs) ← shortNumber? cs
  let (minute, cs) ← twoDigits? (← expect? ':' cs)
  let (second, cs) ← twoDigits? (← expect? ':' cs)
  let (fraction, cs) :=
    match cs with
    | '.' :: rest => (rest.takeWhile isDecimal, rest.dropWhile isDecimal)
    | cs => ([], cs)
  let offset ← offset? cs
  let micro := (fraction ++ List.replicate 6 '0').take 6
  some ⟨hour, minute, second, natOf micro, offset⟩

def moment? (cs : List Char) : Option (CalendarDay × Option ClockTime) := do
  let (century, cs) ← twoDigits? cs
  let (year, cs) ← twoDigits? cs
  let (month, cs) ← shortNumber? (← expect? '-' cs)
  let (day, cs) ← shortNumber? (← expect? '-' cs)
  let d : CalendarDay := ⟨100 * century + year, month, day⟩
  match cs with
  | [] => some (d, none)
  | c :: rest =>
      if c = 'T' || c = 't' then (clock? rest).map fun t => (d, some t)
      else if isGap c then (clock? (rest.dropWhile isGap)).map fun t => (d, some t)
      else none

/-- A plain day has two digits for month and day; with a time one digit will do. -/
def isTimestampText (cs : List Char) : Bool :=
  match moment? cs with
  | some (_, none) => cs.length = 10
  | some (_, some _) => true
  | none => false

/-! ## The type of a plain scalar -/

def boolWords : List (String × Bool) :=
  [("yes", true), ("no", false), ("true", true), ("false", false), ("on", true), ("off", false)]

def isCasingOf (word : String) (s : String) : Bool :=
  s == word || s == word.toUpper || s == word.capitalize

def withoutLastBreak (s : String) : String :=
  match s.toList.reverse with
  | '\n' :: c :: rest => String.ofList (c :: rest).reverse
  | _ => s

/-- The type that a text has by its looks; a line feed at its end is not looked at. -/
def ofPlain (text : String) : Tag :=
  let s := withoutLastBreak text
  let cs := s.toList
  if boolWords.any fun w => isCasingOf w.1 s then bool
  else if isFloatText cs then float
  else if isIntText cs then int
  else if s = "<<" then merge
  else if s = "" || s = "~" || isCasingOf "null" s then null
  else if isTimestampText cs then timestamp
  else if s = "=" then defaultKey
  else if s = "!" || s = "&" || s = "*" then unknown
  else Tag.text

/-! ## Values -/

def sixties (places : List Int) : Int := places.foldl (fun n d => 60 * n + d) 0

def unreadable {α : Type} : Except Failure α := .error (.value .unreadable)

def orUnreadable {α : Type} : Option α → Except Failure α
  | some a => .ok a
  | none => unreadable

def splitFirst (cs : List Char) : Except Failure (Bool × List Char) :=
  match cs with
  | [] => .error (.value .noSuchPlace)
  | c :: rest => .ok (c = '-', if isSign c then rest else c :: rest)

def magnitudeOf (body : List Char) : Except Failure Int :=
  match body with
  | [] => .error (.value .noSuchPlace)
  | ['0'] => .ok 0
  | '0' :: 'b' :: rest => orUnreadable (Text.integerIn? 2 (String.ofList rest))
  | '0' :: 'x' :: rest => orUnreadable (Text.integerIn? 16 (String.ofList rest))
  | '0' :: rest => orUnreadable (Text.integerIn? 8 (String.ofList ('0' :: rest)))
  | body => do
      let places ← (splitAt ':' body).mapM fun p => orUnreadable (Text.integer? (String.ofList p))
      .ok (sixties places)

def intValue (s : String) : Except Failure Int := do
  let (negative, body) ← splitFirst (s.toList.filter (· ≠ '_'))
  let magnitude ← magnitudeOf body
  .ok (if negative then -magnitude else magnitude)

def maxFloatPlaces : Nat := 174

def sixtiesFloat (places : List Float) : Except Failure Float :=
  if maxFloatPlaces < places.length then .error (.value .numberTooLarge)
  else
    .ok (places.reverse.foldl
      (fun (r : Float × Nat) d => (r.1 + d * Float.ofNat r.2, 60 * r.2)) (0.0, 1)).1

def floatValue (s : String) : Except Failure Float := do
  let (negative, body) ← splitFirst ((Text.lower s).toList.filter (· ≠ '_'))
  let signed (x : Float) : Float := if negative then -x else x
  if body = ".inf".toList then .ok (signed (1.0 / 0.0))
  else if body = ".nan".toList then .ok (0.0 / 0.0)
  else
    let places ← (splitAt ':' body).mapM fun p =>
      orUnreadable (Numeral.floatOfText? (String.ofList p))
    match places with
    | [x] => .ok (signed x)
    | places => do .ok (signed (← sixtiesFloat places))

def timestampValue (s : String) : Except Failure Document :=
  match moment? (withoutLastBreak s).toList with
  | none => .error (.value .notSupported)
  | some (d, none) => if d.isValid then .ok (.day d) else unreadable
  | some (d, some t) => if d.isValid && t.isValid then .ok (.moment d t) else unreadable

def sextet? (c : Char) : Option Nat :=
  if 'A' ≤ c && c ≤ 'Z' then some (c.toNat - 'A'.toNat)
  else if 'a' ≤ c && c ≤ 'z' then some (c.toNat - 'a'.toNat + 26)
  else if isDecimal c then some (c.toNat - '0'.toNat + 52)
  else if c = '+' then some 62
  else if c = '/' then some 63
  else none

/-- The bytes of a text of sextets; `held` are those of the present group of four, newest first. -/
def bytesOf : List Nat → Nat → List Char → Except Failure (List Nat)
  | held, _, [] => if held.isEmpty then .ok [] else .error .malformed
  | held, pads, c :: rest =>
      if c = '=' then
        match held with
        | [b, a] => if pads + 1 ≥ 2 then .ok [a * 4 + b / 16] else bytesOf held (pads + 1) rest
        | [d, b, a] => .ok [a * 4 + b / 16, b % 16 * 16 + d / 4]
        | held => bytesOf held pads rest
      else
        match sextet? c with
        | none => bytesOf held pads rest
        | some n =>
            match held with
            | [d, b, a] => do
                let more ← bytesOf [] 0 rest
                .ok ((a * 4 + b / 16) :: (b % 16 * 16 + d / 4) :: (d % 4 * 64 + n) :: more)
            | held => bytesOf (n :: held) 0 rest

def valueOf (tag : Tag) (s : String) : Except Failure Document :=
  match tag with
  | null => .ok .null
  | bool =>
      match boolWords.lookup (Text.lower s) with
      | some b => .ok (.bool b)
      | none => .error (.value (.missingKey s))
  | int => (intValue s).map .int
  | float => (floatValue s).map .float
  | timestamp => timestampValue s
  | binary =>
      if s.toList.all fun c => c.toNat < 128 then (bytesOf [] 0 s.toList).map .bytes
      else .error .malformed
  | text => .ok (.text s)
  | _ => .error .malformed

end Tag
end Yaml
end ReserveAccounting
