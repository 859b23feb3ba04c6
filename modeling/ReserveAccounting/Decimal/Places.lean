import ReserveAccounting.Decimal.Printer
import ReserveAccounting.Decimal.Shortest

/-!
# Decimals to a number of places

The exact decimal of a binary floating-point number, and texts with a fixed
number of decimals or of significant digits. Rounding is to the nearest, a half
to the even neighbour.
-/

namespace ReserveAccounting
namespace Decimal

def ofFiniteFloat (x : Float) : Decimal :=
  let bits := x.toBits.toNat
  let b := Shortest.Binary.ofBits (bits % Shortest.signBit)
  ⟨bits ≥ Shortest.signBit, b.significand * Nat.pow 2 b.exponent.toNat * Nat.pow 5 (-b.exponent).toNat,
    min b.exponent 0⟩

def coefficientAt (x : Decimal) (exponent : Int) : Nat :=
  if exponent ≤ x.exponent then x.coefficient * Nat.pow 10 (x.exponent - exponent).toNat
  else roundDigits x.coefficient (exponent - x.exponent).toNat

/-- The magnitude with a fixed number of decimals; `full` writes the point also if there is none. -/
def withPlaces (x : Decimal) (full : Bool) (places : Nat) : String :=
  fixed ⟨false, x.coefficientAt (-places), -places⟩ ++ (if full && places = 0 then "." else "")

def significant (x : Decimal) (digits : Nat) : Nat × Int :=
  if x.coefficient = 0 then (0, 0)
  else
    let n := x.coefficientAt (x.adjusted - (digits - 1))
    if digits < digitCount n then (n / 10, x.adjusted + 1) else (n, x.adjusted)

def paddedDigits (n count : Nat) : List Char :=
  let ds := Nat.toDigits 10 n
  List.replicate (count - ds.length) '0' ++ ds

/-- Digits with a point behind the first; behind a single one only if that is asked for. -/
def pointedBehindFirst (full : Bool) : List Char → List Char
  | [] => []
  | [d] => if full then [d, '.'] else [d]
  | d :: rest => d :: '.' :: rest

def exponentText (e : Int) : String :=
  "e" ++ (if e < 0 then "-" else "+") ++ String.ofList (paddedDigits e.natAbs 2)

def withExponent (x : Decimal) (full : Bool) (places : Nat) : String :=
  let (n, e) := x.significant (places + 1)
  String.ofList (pointedBehindFirst full (paddedDigits n (places + 1))) ++ exponentText e

def withoutEndZeros (s : String) : String :=
  if s.toList.contains '.' then
    let kept := s.toList.reverse.dropWhile (· = '0')
    String.ofList (kept.dropWhile (· = '.')).reverse
  else s

def leastPlainExponent : Int := -4

/--
The magnitude to a number of significant digits, with an exponent if it is far
from one; `full` keeps the zeros at the end of the decimals.
-/
def general (x : Decimal) (full : Bool) (digits : Nat) : String :=
  let digits := max digits 1
  let (n, e) := x.significant digits
  let trim (s : String) : String := if full then s else withoutEndZeros s
  if leastPlainExponent ≤ e && e < digits then
    trim (x.withPlaces full (digits - 1 - e).toNat)
  else
    trim (String.ofList (pointedBehindFirst full (paddedDigits n digits))) ++ exponentText e

end Decimal
end ReserveAccounting
