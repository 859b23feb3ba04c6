import ReserveAccounting.Decimal.Binary
import ReserveAccounting.Document.Basic

/-!
# JSON texts

Writing documents as JSON, and reading JSON back. A number with a point or an
exponent is a floating-point number; any other number is an integer of any
size. Where a key is repeated, the last value counts.
-/

namespace ReserveAccounting
namespace Document
namespace Json

/-! ## Writing -/

def unitEscape (n : Nat) : List Char := '\\' :: 'u' :: Text.hexDigits 4 n

/-- A character of a JSON string; all but printable ASCII is escaped. -/
def writeChar (c : Char) : List Char :=
  if c = '"' then ['\\', '"']
  else if c = '\\' then ['\\', '\\']
  else if c = '\n' then ['\\', 'n']
  else if c = '\r' then ['\\', 'r']
  else if c = '\t' then ['\\', 't']
  else if c.toNat = 8 then ['\\', 'b']
  else if c.toNat = 12 then ['\\', 'f']
  else if 32 ≤ c.toNat && c.toNat < 127 then [c]
  else if c.toNat < 0x10000 then unitEscape c.toNat
  else
    let n := c.toNat - 0x10000
    unitEscape (0xD800 + n / 0x400) ++ unitEscape (0xDC00 + n % 0x400)

def writeString (s : String) : String := String.ofList ('"' :: s.toList.flatMap writeChar ++ ['"'])

def writeFloat (x : Float) : String :=
  if x.isNaN then "NaN"
  else if x.isInf then (if x < 0 then "-Infinity" else "Infinity")
  else FloatStyle.standard.text x

inductive Layout where
  | oneLine
  | indented (step : Nat)
deriving DecidableEq, Repr

def Layout.break : Layout → Nat → String
  | oneLine, _ => ""
  | indented step, depth => "\n" ++ String.ofList (List.replicate (step * depth) ' ')

def Layout.comma : Layout → String
  | oneLine => ", "
  | indented _ => ","

def bracket (layout : Layout) (depth : Nat) (opening closing : String) (parts : List String) : String :=
  if parts.isEmpty then opening ++ closing
  else
    opening ++ layout.break (depth + 1) ++
      (layout.comma ++ layout.break (depth + 1)).intercalate parts ++ layout.break depth ++ closing

mutual

def write (layout : Layout) (depth : Nat) : Document → String
  | null => "null"
  | bool b => if b then "true" else "false"
  | int n => toString n
  | float x => writeFloat x
  | text s => writeString s
  | bytes bs => writeString (shownBytes bs)
  | day d => writeString d.text
  | moment d t => writeString (d.text ++ "T" ++ t.text)
  | list items => bracket layout depth "[" "]" (writeItems layout (depth + 1) items)
  | tuple items => bracket layout depth "[" "]" (writeItems layout (depth + 1) items)
  | set items => bracket layout depth "[" "]" (writeItems layout (depth + 1) items)
  | map entries => bracket layout depth "\x7b" "\x7d" (writeEntries layout (depth + 1) entries)
  | marked _ value => write layout depth value
  | again _ isMapping => writeString (shownAgain isMapping)

def writeItems (layout : Layout) (depth : Nat) : List Document → List String
  | [] => []
  | item :: rest => write layout depth item :: writeItems layout depth rest

def writeEntries (layout : Layout) (depth : Nat) : List (Document × Document) → List String
  | [] => []
  | (k, v) :: rest =>
      (writeString k.asText ++ ": " ++ write layout depth v) :: writeEntries layout depth rest

end

/-! ## Reading -/

def isSpace (c : Char) : Bool := c = ' ' || c = '\n' || c = '\r' || c = '\t'

def skipSpace (cs : List Char) : List Char := cs.dropWhile isSpace

def hexValue? (c : Char) : Option Nat :=
  if '0' ≤ c && c ≤ '9' then some (c.toNat - '0'.toNat)
  else if 'a' ≤ c && c ≤ 'f' then some (c.toNat - 'a'.toNat + 10)
  else if 'A' ≤ c && c ≤ 'F' then some (c.toNat - 'A'.toNat + 10)
  else none

def unit? : List Char → Option (Nat × List Char)
  | a :: b :: c :: d :: rest => do
      let a ← hexValue? a
      let b ← hexValue? b
      let c ← hexValue? c
      let d ← hexValue? d
      some (((a * 16 + b) * 16 + c) * 16 + d, rest)
  | _ => none

def pairedUnit? (high : Nat) : List Char → Option (Char × List Char)
  | '\\' :: 'u' :: rest => do
      let (low, tail) ← unit? rest
      if 0xDC00 ≤ low && low ≤ 0xDFFF then
        some (Char.ofNat (0x10000 + (high - 0xD800) * 0x400 + (low - 0xDC00)), tail)
      else none
  | _ => none

def escape? : List Char → Option (Char × List Char)
  | 'n' :: rest => some ('\n', rest)
  | 'r' :: rest => some ('\r', rest)
  | 't' :: rest => some ('\t', rest)
  | 'b' :: rest => some (Char.ofNat 8, rest)
  | 'f' :: rest => some (Char.ofNat 12, rest)
  | 'u' :: rest => do
      let (n, tail) ← unit? rest
      if 0xD800 ≤ n && n ≤ 0xDBFF then
        match pairedUnit? n tail with
        | some r => some r
        | none => some (Char.ofNat 0xFFFD, tail)
      else if 0xDC00 ≤ n && n ≤ 0xDFFF then some (Char.ofNat 0xFFFD, tail)
      else some (Char.ofNat n, tail)
  | c :: rest => if c = '"' || c = '\\' || c = '/' then some (c, rest) else none
  | [] => none

def readString : Nat → List Char → List Char → Option (String × List Char)
  | 0, _, _ => none
  | fuel + 1, seen, cs =>
      match cs with
      | [] => none
      | '"' :: rest => some (String.ofList seen.reverse, rest)
      | '\\' :: rest => do
          let (c, tail) ← escape? rest
          readString fuel (c :: seen) tail
      | c :: rest => readString fuel (c :: seen) rest

def isAsciiDigit (c : Char) : Bool := '0' ≤ c && c ≤ '9'

def natOf (ds : List Char) : Nat := ds.foldl (fun n d => 10 * n + (d.toNat - '0'.toNat)) 0

def readNumber (negative : Bool) (cs : List Char) : Option (Document × List Char) :=
  let whole := cs.takeWhile isAsciiDigit
  let rest := cs.dropWhile isAsciiDigit
  if whole.isEmpty then none
  else
    let (fraction, afterFraction) :=
      match rest with
      | '.' :: c :: tail =>
          if isAsciiDigit c then
            ((c :: tail).takeWhile isAsciiDigit, (c :: tail).dropWhile isAsciiDigit)
          else ([], rest)
      | _ => ([], rest)
    let exponent : Option (Int × List Char) :=
      match afterFraction with
      | e :: tail =>
          if e = 'e' || e = 'E' then
            let (minus, digits) :=
              match tail with
              | '-' :: t => (true, t)
              | '+' :: t => (false, t)
              | t => (false, t)
            let ds := digits.takeWhile isAsciiDigit
            if ds.isEmpty then none
            else
              let n : Int := natOf ds
              some (if minus then -n else n, digits.dropWhile isAsciiDigit)
          else none
      | [] => none
    match exponent with
    | some (power, tail) =>
        some (.float (Decimal.toFloat ⟨negative, natOf (whole ++ fraction), power - fraction.length⟩), tail)
    | none =>
        if fraction.isEmpty then
          let n : Int := natOf whole
          some (.int (if negative then -n else n), afterFraction)
        else
          some (.float (Decimal.toFloat ⟨negative, natOf (whole ++ fraction), -(fraction.length : Int)⟩),
            afterFraction)

/-- Writes an entry: a repeated key keeps its place and takes the new value. -/
def putEntry (key : String) (v : Document) : List (Document × Document) → List (Document × Document)
  | [] => [(.text key, v)]
  | (.text k, old) :: rest =>
      if k = key then (.text k, v) :: rest else (.text k, old) :: putEntry key v rest
  | e :: rest => e :: putEntry key v rest

def word? (w : String) (cs : List Char) : Option (List Char) :=
  if w.toList.isPrefixOf cs then some (cs.drop w.length) else none

mutual

/-- Reads one value; the fuel bounds the number of values and separators. -/
def readValue : Nat → List Char → Option (Document × List Char)
  | 0, _ => none
  | fuel + 1, cs =>
      match skipSpace cs with
      | '"' :: rest => (readString (rest.length + 1) [] rest).map fun r => (.text r.1, r.2)
      | '[' :: rest =>
          match skipSpace rest with
          | ']' :: tail => some (.list [], tail)
          | _ => readItems fuel [] rest
      | '\x7b' :: rest =>
          match skipSpace rest with
          | '\x7d' :: tail => some (.map [], tail)
          | _ => readEntries fuel [] rest
      | '-' :: rest =>
          match word? "Infinity" rest with
          | some tail => some (.float (-(1.0 / 0.0)), tail)
          | none => readNumber true rest
      | 't' :: rest => (word? "rue" rest).map fun t => (.bool true, t)
      | 'f' :: rest => (word? "alse" rest).map fun t => (.bool false, t)
      | 'n' :: rest => (word? "ull" rest).map fun t => (.null, t)
      | 'N' :: rest => (word? "aN" rest).map fun t => (.float (0.0 / 0.0), t)
      | 'I' :: rest => (word? "nfinity" rest).map fun t => (.float (1.0 / 0.0), t)
      | rest => readNumber false rest

def readItems : Nat → List Document → List Char → Option (Document × List Char)
  | 0, _, _ => none
  | fuel + 1, seen, cs => do
      let (item, rest) ← readValue fuel cs
      match skipSpace rest with
      | ',' :: tail => readItems fuel (item :: seen) tail
      | ']' :: tail => some (.list (item :: seen).reverse, tail)
      | _ => none

def readEntries : Nat → List (Document × Document) → List Char → Option (Document × List Char)
  | 0, _, _ => none
  | fuel + 1, seen, cs =>
      match skipSpace cs with
      | '"' :: rest => do
          let (key, afterKey) ← readString (rest.length + 1) [] rest
          match skipSpace afterKey with
          | ':' :: afterColon => do
              let (v, tail) ← readValue fuel afterColon
              match skipSpace tail with
              | ',' :: tail => readEntries fuel (putEntry key v seen) tail
              | '\x7d' :: tail => some (.map (putEntry key v seen), tail)
              | _ => none
          | _ => none
      | _ => none

end

def read? (s : String) : Option Document := do
  let cs := s.toList
  let (d, rest) ← readValue (cs.length + 2) cs
  if (skipSpace rest).isEmpty then some d else none

end Json

def toJsonLine (d : Document) : String := Json.write .oneLine 0 d

def toJsonPretty (d : Document) : String := Json.write (.indented 2) 0 d

end Document
end ReserveAccounting
