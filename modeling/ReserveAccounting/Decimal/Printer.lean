import ReserveAccounting.Decimal.Basic

/-!
# Writing decimal numbers

The scientific form shows every digit of the coefficient and uses an exponent
when the point would stand outside the digits by too far; the fixed form never
uses an exponent.
-/

namespace ReserveAccounting
namespace Decimal

def signText (negative : Bool) : String := if negative then "-" else ""

def pointed (digits : List Char) (places : Nat) : List Char :=
  let padded := List.replicate (places + 1 - digits.length) '0' ++ digits
  padded.take (padded.length - places) ++ '.' :: padded.drop (padded.length - places)

def digitsOf (x : Decimal) : List Char := Nat.toDigits 10 x.coefficient

/-- The form with an exponent of ten where the plain form would hide digits or need many zeros. -/
def scientific (x : Decimal) : String :=
  let digits := x.digitsOf
  signText x.negative ++
    if x.exponent ≤ 0 && -6 ≤ x.adjusted then
      String.ofList (if x.exponent = 0 then digits else pointed digits (-x.exponent).toNat)
    else
      let mantissa :=
        match digits with
        | [d] => [d]
        | d :: rest => d :: '.' :: rest
        | [] => []
      let sign := if x.adjusted < 0 then '-' else '+'
      String.ofList (mantissa ++ 'E' :: sign :: Nat.toDigits 10 x.adjusted.natAbs)

def fixed (x : Decimal) : String :=
  let digits := x.digitsOf
  signText x.negative ++ String.ofList
    (if x.exponent < 0 then pointed digits (-x.exponent).toNat
    else if x.coefficient = 0 then ['0']
    else digits ++ List.replicate x.exponent.toNat '0')

end Decimal

def Numeral.text : Numeral → String
  | .number x => x.scientific
  | .infinity negative => Decimal.signText negative ++ "Infinity"
  | .notANumber signaling => if signaling then "sNaN" else "NaN"

end ReserveAccounting
