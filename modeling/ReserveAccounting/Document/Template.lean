import ReserveAccounting.Decimal.Binary
import ReserveAccounting.Decimal.Places
import ReserveAccounting.Document.Fields

/-!
# Message templates

A template is a text with places for values, each marked by a percent sign and a
letter that says how the value is shown. Between the two there may be the name
of a value, a flag for the side on which blanks are put, zeros or a sign in
front, a width, and a precision; the last two may be values themselves.
-/

namespace ReserveAccounting
namespace Document

structure Placeholder where
  flags : List Char
  width : Nat
  precision : Option Nat
  kind : Char
deriving Repr

namespace Placeholder

def has (p : Placeholder) (flag : Char) : Bool := p.flags.contains flag

/-- Fills a text up to the width; zeros go between the sign and the digits. -/
def pad (p : Placeholder) (sign : String) (body : String) (isNumber : Bool) : String :=
  let missing := p.width - (sign.length + body.length)
  let fill (c : Char) := String.ofList (List.replicate missing c)
  if p.has '-' then sign ++ body ++ fill ' '
  else if p.has '0' && isNumber then sign ++ fill '0' ++ body
  else fill ' ' ++ sign ++ body

def sign (p : Placeholder) (negative : Bool) : String :=
  if negative then "-" else if p.has '+' then "+" else if p.has ' ' then " " else ""

def integerOf : Document → Except Fault Int
  | int n => .ok n
  | bool b => .ok (if b then 1 else 0)
  | float x => toInt (.float x)
  | _ => .error .wrongKind

def wholeOf : Document → Except Fault Int
  | int n => .ok n
  | bool b => .ok (if b then 1 else 0)
  | _ => .error .wrongKind

def digits (p : Placeholder) (base n : Nat) : String :=
  let ds := Nat.toDigits base n
  String.ofList (List.replicate (p.precision.getD 0 - ds.length) '0' ++ ds)

def integer (p : Placeholder) (mark : String) (base : Nat) (n : Int) : String :=
  p.pad (p.sign (n < 0) ++ (if p.has '#' then mark else "")) (p.digits base n.natAbs) true

def floatOf : Document → Except Fault Float
  | float x => .ok x
  | bool b => .ok (if b then 1 else 0)
  | int n =>
      let x := (Decimal.ofInt n).toFloat
      if x.isInf then .error .numberTooLarge else .ok x
  | _ => .error .wrongKind

def usualPrecision : Nat := 6

def floating (p : Placeholder) (write : Decimal → Bool → Nat → String) (x : Float) : String :=
  if x.isNaN then p.pad (p.sign false) "nan" true
  else
    let negative := x.toBits.toNat ≥ Shortest.signBit
    let body :=
      if x.isInf then "inf"
      else write (Decimal.ofFiniteFloat x) (p.has '#') (p.precision.getD usualPrecision)
    p.pad (p.sign negative) body true

def machineMax : Int := 0x7FFFFFFFFFFFFFFF

def characterOf : Document → Except Fault String
  | text s => if s.length = 1 then .ok s else .error .wrongKind
  | bool b => .ok (Char.ofNat (if b then 1 else 0)).toString
  | int n =>
      if 0 ≤ n ∧ n ≤ 0x10FFFF then .ok (Char.ofNat n.toNat).toString else .error .numberTooLarge
  | _ => .error .wrongKind

def asciiOnly (s : String) : String :=
  String.ofList (s.toList.flatMap fun c => if c.toNat < 128 then [c] else Text.escaped c)

def maxRoom : Nat := 0x10000000

/-- Whether the place asks for more characters than can be kept; a text is only cut by its precision. -/
def isTooWide (p : Placeholder) : Bool :=
  maxRoom < p.width || (p.kind ∉ ['s', 'r', 'a', 'c'] && maxRoom < p.precision.getD 0)

def render (p : Placeholder) (d : Document) : Except Fault String :=
  let cut (s : String) : String :=
    match p.precision with
    | some n => String.ofList (s.toList.take n)
    | none => s
  match p.kind with
  | 's' => .ok (p.pad "" (cut d.asText) false)
  | 'r' => .ok (p.pad "" (cut d.shown) false)
  | 'd' => do .ok (p.integer "" 10 (← integerOf d))
  | 'i' => do .ok (p.integer "" 10 (← integerOf d))
  | 'u' => do .ok (p.integer "" 10 (← integerOf d))
  | 'o' => do .ok (p.integer "0o" 8 (← wholeOf d))
  | 'x' => do .ok (p.integer "0x" 16 (← wholeOf d))
  | 'X' => do .ok (Text.upper (p.integer "0x" 16 (← wholeOf d)))
  | 'f' => do .ok (p.floating Decimal.withPlaces (← floatOf d))
  | 'F' => do .ok (Text.upper (p.floating Decimal.withPlaces (← floatOf d)))
  | 'e' => do .ok (p.floating Decimal.withExponent (← floatOf d))
  | 'E' => do .ok (Text.upper (p.floating Decimal.withExponent (← floatOf d)))
  | 'g' => do .ok (p.floating Decimal.general (← floatOf d))
  | 'G' => do .ok (Text.upper (p.floating Decimal.general (← floatOf d)))
  | 'c' => do .ok (p.pad "" (← characterOf d) false)
  | 'a' => .ok (p.pad "" (cut (asciiOnly d.shown)) false)
  | _ => .error .unreadable

end Placeholder

inductive Supply where
  | row (values : List Document)
  | single (value : Document)
deriving Inhabited

namespace Supply

def names? : Supply → Option Document
  | single (.text _) => none
  | single (.map es) => some (.map es)
  | single (.list items) => some (.list items)
  | _ => none

def values : Supply → List Document
  | row values => values
  | single value => [value]

end Supply

namespace Template

structure Filling where
  names : Option Document
  values : List Document
  rest : List Char

abbrev Step (α : Type) : Type := StateT Filling (Except Fault) α

def put (f : Filling) : Step Unit := fun _ => .ok ((), f)

def peek : Step Char := do
  match (← get).rest with
  | c :: _ => return c
  | [] => throw .unreadable

def skip : Step Unit := modify fun f => { f with rest := f.rest.tail }

def takeValue : Step Document := do
  match (← get).values with
  | v :: values =>
      modify fun f => { f with values := values }
      return v
  | [] => throw .wrongKind

def nameIn : Nat → List Char → Option (List Char × List Char)
  | _, [] => none
  | 0, ')' :: rest => some ([], rest)
  | depth, c :: rest =>
      let depth := if c = '(' then depth + 1 else if c = ')' then depth - 1 else depth
      (nameIn depth rest).map fun r => (c :: r.1, r.2)

def valueNamed (names : Document) (name : String) : Except Fault Document :=
  if names.isMap then names.require name else .error .wrongKind

/-- A name between round brackets, if one stands here; its value is then the only one left. -/
def takeName : Step Unit := do
  let f ← get
  match f.rest with
  | '(' :: rest =>
      match f.names with
      | none => throw .wrongKind
      | some names =>
          match nameIn 0 rest with
          | none => throw .unreadable
          | some (name, rest) =>
              let v ← valueNamed names (String.ofList name)
              put { f with values := [v], rest := rest }
  | _ => return

def takeFlags : Step (List Char) := do
  let isFlag (c : Char) : Bool := ['-', '+', ' ', '#', '0'].contains c
  let f ← get
  put { f with rest := f.rest.dropWhile isFlag }
  return f.rest.takeWhile isFlag

/-- A number, written in digits or, behind a star, given as the next value. -/
def takeNumber (bound : Int) : Step (Option Int) := do
  let f ← get
  match f.rest with
  | '*' :: rest =>
      put { f with rest := rest }
      let n ← (← takeValue).asInt
      if n ≤ bound ∧ -bound - 1 ≤ n then return some n else throw .numberTooLarge
  | cs =>
      let digits := cs.takeWhile Char.isDigit
      put { f with rest := cs.dropWhile Char.isDigit }
      if digits.isEmpty then return none
      else
        let n : Int := digits.foldl (fun n c => 10 * n + (c.toNat - '0'.toNat)) 0
        if n ≤ bound then return some n else throw .unreadable

def maxPrecision : Int := 0x7FFFFFFF

def takePrecision : Step (Option Nat) := do
  match ← get with
  | ⟨_, _, '.' :: _⟩ =>
      skip
      return some ((← takeNumber maxPrecision).getD 0).toNat
  | _ => return none

def sizes : List Char := ['h', 'l', 'L']

def takePlaceholder : Step Placeholder := do
  takeName
  let flags ← takeFlags
  let width := (← takeNumber Placeholder.machineMax).getD 0
  let precision ← takePrecision
  if sizes.contains (← peek) then skip
  let kind ← peek
  skip
  return ⟨if width < 0 then '-' :: flags else flags, width.natAbs, precision, kind⟩

/-- The text in a place; a percent sign right behind the first one stands for itself. -/
def fillPlace : Step String := do
  if (← peek) = '%' then
    skip
    return "%"
  else
    let p ← takePlaceholder
    let v ← takeValue
    let _ ← Placeholder.render { p with width := 0, precision := some 0 } v
    if p.isTooWide then throw .noRoom
    p.render v

def fill : Nat → Step (List String)
  | 0 => return []
  | fuel + 1 => do
      match (← get).rest with
      | [] => return []
      | '%' :: rest =>
          modify fun f => { f with rest := rest }
          let text ← fillPlace
          return text :: (← fill fuel)
      | c :: rest =>
          modify fun f => { f with rest := rest }
          return c.toString :: (← fill fuel)

end Template

/--
A template with its values put in. Every value must be used, except for one that
gives others by name.
-/
def fillTemplate (template : String) (supply : Supply) : Except Fault String := do
  let (parts, f) ← (Template.fill (template.length + 1)).run
    ⟨supply.names?, supply.values, template.toList⟩
  if f.values.isEmpty || f.names.isSome then .ok (String.join parts) else .error .wrongKind

end Document
end ReserveAccounting
