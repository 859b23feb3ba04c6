import ReserveAccounting.Text.Blank
import ReserveAccounting.Text.Digit

/-!
# Integers as people type them

Blanks around the number, a sign in front, single underscores between digits
and digits of any script are accepted; the number of digits is bounded, for
reading and for writing.
-/

namespace ReserveAccounting
namespace Text

/-- The information separators do not count as blanks around a number. -/
def isNumberBlank (c : Char) : Bool := isBlank c && !(0x1C ≤ c.toNat && c.toNat ≤ 0x1F)

/-- More digits than this are neither read nor written. -/
def maxIntegerDigits : Nat := 4300

def integerBound : Nat := Nat.pow 10 maxIntegerDigits

def isWritable (n : Int) : Bool := n.natAbs < integerBound

def digitIn? (base : Nat) (c : Char) : Option Nat := do
  let d ←
    match digit? c with
    | some d => some d
    | none =>
        if 'a' ≤ c && c ≤ 'z' then some (c.toNat - 'a'.toNat + 10)
        else if 'A' ≤ c && c ≤ 'Z' then some (c.toNat - 'A'.toNat + 10)
        else none
  if d < base then some d else none

def groupedDigits? (base : Nat) : List Char → Option (List Nat)
  | [] => none
  | [c] => (digitIn? base c).map ([·])
  | c :: '_' :: rest => do
      let d ← digitIn? base c
      let ds ← groupedDigits? base rest
      some (d :: ds)
  | c :: rest => do
      let d ← digitIn? base c
      let ds ← groupedDigits? base rest
      some (d :: ds)

def ofDigitsIn (base : Nat) (ds : List Nat) : Nat := ds.foldl (fun n d => base * n + d) 0

def splitSign : List Char → Bool × List Char
  | '-' :: rest => (true, rest)
  | '+' :: rest => (false, rest)
  | rest => (false, rest)

def radixMark? : Nat → Option Char
  | 2 => some 'b'
  | 8 => some 'o'
  | 16 => some 'x'
  | _ => none

def dropRadixMark (base : Nat) : List Char → List Char
  | '0' :: c :: rest =>
      if radixMark? base = some c.toLower then
        match rest with
        | '_' :: rest => rest
        | rest => rest
      else '0' :: c :: rest
  | cs => cs

/--
The integer that a text denotes in a base, if it is one. Only where the base is a
power of two may there be more digits than the bound.
-/
def integerIn? (base : Nat) (s : String) : Option Int := do
  let (negative, body) := splitSign (trimWhere isNumberBlank s.toList)
  let ds ← groupedDigits? base (dropRadixMark base body)
  if (radixMark? base).isSome || ds.length ≤ maxIntegerDigits then
    some (if negative then -(ofDigitsIn base ds : Int) else ofDigitsIn base ds)
  else none

def integer? (s : String) : Option Int := integerIn? 10 s

end Text
end ReserveAccounting
