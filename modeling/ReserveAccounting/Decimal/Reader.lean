import ReserveAccounting.Decimal.Basic
import ReserveAccounting.Text.Blank
import ReserveAccounting.Text.Digit

/-!
# Reading decimal texts

A numeral is a sign, digits with at most one point and an exponent, or the name
of an infinity or of a missing number. Blanks around it and underscores
anywhere are dropped, and digits of any script count. Reading is exact.
-/

namespace ReserveAccounting
namespace Numeral

open Text

def maxReadAdjusted : Int := 999999999999999999

def minReadExponent : Int := -1999999999999999997

/-- The characters of a numeral: digits become ASCII digits, letters small ones. -/
def canonicalChar (c : Char) : Char :=
  match digit? c with
  | some d => Char.ofNat ('0'.toNat + d)
  | none => c.toLower

def leadingDigits : List Char → List Nat × List Char
  | [] => ([], [])
  | c :: rest =>
      match digit? c with
      | some d => let (ds, tail) := leadingDigits rest; (d :: ds, tail)
      | none => ([], c :: rest)

/-- The exponent part that ends a numeral; nothing at all stands for zero. -/
def exponent? : List Char → Option Int
  | [] => some 0
  | 'e' :: rest =>
      let (negative, body) :=
        match rest with
        | '-' :: tail => (true, tail)
        | '+' :: tail => (false, tail)
        | tail => (false, tail)
      match leadingDigits body with
      | ([], _) => none
      | (ds, []) => some (if negative then -(ofDigits ds : Int) else ofDigits ds)
      | _ => none
  | _ => none

/-- Digits, a point, digits and an exponent; one of the two runs of digits may be empty. -/
def written? (negative : Bool) (cs : List Char) : Option Decimal := do
  let (whole, rest) := leadingDigits cs
  let (fraction, tail) :=
    match rest with
    | '.' :: rest => leadingDigits rest
    | rest => ([], rest)
  if whole.isEmpty && fraction.isEmpty then none
  let e ← exponent? tail
  some ⟨negative, ofDigits (whole ++ fraction), e - fraction.length⟩

def unsigned? (negative : Bool) (cs : List Char) : Option Decimal := do
  let value ← written? negative cs
  if value.adjusted ≤ maxReadAdjusted && minReadExponent ≤ value.exponent then some value else none

def body? (negative : Bool) (cs : List Char) : Option Numeral :=
  if cs = "inf".toList || cs = "infinity".toList then some (infinity negative)
  else
    match cs with
    | 'n' :: 'a' :: 'n' :: payload =>
        if payload.all isDigit then some (notANumber false) else none
    | 's' :: 'n' :: 'a' :: 'n' :: payload =>
        if payload.all isDigit then some (notANumber true) else none
    | cs => (unsigned? negative cs).map number

def ofText? (s : String) : Option Numeral :=
  match ((trimWhere isBlank s.toList).filter (· != '_')).map canonicalChar with
  | '-' :: rest => body? true rest
  | '+' :: rest => body? false rest
  | rest => body? false rest

def ofText (s : String) : Except Decimal.Failure Numeral :=
  match ofText? s with
  | some n => .ok n
  | none => .error .undefinedOperation

end Numeral
end ReserveAccounting
