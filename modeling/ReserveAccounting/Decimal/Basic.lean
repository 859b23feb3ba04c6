/-!
# Decimal numbers

A decimal number is a sign, a coefficient and a power of ten; two of them may
denote the same value and differ in the zeros they show. Arithmetic keeps a
fixed number of digits, rounds half to even, and fails when the exponent leaves
its range.
-/

namespace ReserveAccounting

/-- A finite decimal number, `±coefficient · 10 ^ exponent`. -/
structure Decimal where
  negative : Bool
  coefficient : Nat
  exponent : Int
deriving DecidableEq, Repr, Inhabited

inductive Numeral where
  | number (value : Decimal)
  | infinity (negative : Bool)
  | notANumber (signaling : Bool)
deriving DecidableEq, Repr, Inhabited

namespace Decimal

inductive Failure where
  | undefinedOperation
  | divisionByZero
  | tooLarge
  | noInteger
  | infiniteInteger
deriving DecidableEq, Repr

/-- How many digits arithmetic keeps, and the largest exponent of a leading digit. -/
structure Precision where
  digits : Nat
  maxExponent : Int
deriving DecidableEq, Repr

def Precision.standard : Precision := ⟨28, 999999⟩

def Precision.leastExponent (p : Precision) : Int := -p.maxExponent - (p.digits - 1)

def Precision.fullExponent (p : Precision) : Int := p.maxExponent - (p.digits - 1)

def digitCount (n : Nat) : Nat := if n < 10 then 1 else digitCount (n / 10) + 1

def dropDigits (n k : Nat) : Nat := if digitCount n ≤ k then 0 else n / Nat.pow 10 k

/-- `n / 10 ^ k` rounded to the nearest integer, a half to the even neighbour. -/
def roundDigits (n k : Nat) : Nat :=
  if digitCount n < k then 0
  else
    let unit := Nat.pow 10 k
    let quotient := n / unit
    let twice := 2 * (n % unit)
    if unit < twice || (twice = unit && quotient % 2 = 1) then quotient + 1 else quotient

def ofInt (n : Int) : Decimal := ⟨n < 0, n.natAbs, 0⟩

def adjusted (x : Decimal) : Int := x.exponent + digitCount x.coefficient - 1

def round (p : Precision) (x : Decimal) : Except Failure Decimal :=
  if x.coefficient = 0 then
    .ok { x with exponent := min (max x.exponent p.leastExponent) p.maxExponent }
  else
    let whole := (digitCount x.coefficient : Int) + x.exponent - p.digits
    if p.fullExponent < whole then .error .tooLarge
    else
      let target := max whole p.leastExponent
      if x.exponent < target then
        let rounded := roundDigits x.coefficient (target - x.exponent).toNat
        if p.digits < digitCount rounded then
          if p.fullExponent < target + 1 then .error .tooLarge
          else .ok ⟨x.negative, rounded / 10, target + 1⟩
        else .ok ⟨x.negative, rounded, target⟩
      else .ok x

def mul (p : Precision) (x y : Decimal) : Except Failure Decimal :=
  round p ⟨x.negative ^^ y.negative, x.coefficient * y.coefficient, x.exponent + y.exponent⟩

/-- Takes zeros off the end of a coefficient, at most `fuel` of them, up to the exponent `ideal`. -/
def trimZeros (ideal : Int) : Nat → Nat → Int → Nat × Int
  | 0, c, e => (c, e)
  | fuel + 1, c, e =>
      if e < ideal && c % 10 = 0 then trimZeros ideal fuel (c / 10) (e + 1) else (c, e)

/--
The quotient, with as few zeros at the end as exactness allows. An inexact
quotient is computed to more digits than are kept, and a last digit zero or
five is raised by one, so that the rounding that follows sees no false tie.
-/
def div (p : Precision) (x y : Decimal) : Except Failure Decimal :=
  let ideal := x.exponent - y.exponent
  let negative := x.negative ^^ y.negative
  if y.coefficient = 0 then
    .error (if x.coefficient = 0 then .undefinedOperation else .divisionByZero)
  else if x.coefficient = 0 then round p ⟨negative, 0, ideal⟩
  else
    let shift : Int := digitCount y.coefficient - digitCount x.coefficient + p.digits + 1
    let dividend := x.coefficient * Nat.pow 10 shift.toNat
    let divisor := y.coefficient * Nat.pow 10 (-shift).toNat
    let quotient := dividend / divisor
    if dividend % divisor = 0 then
      let (c, e) := trimZeros ideal shift.toNat quotient (ideal - shift)
      round p ⟨negative, c, e⟩
    else
      round p ⟨negative, if quotient % 5 = 0 then quotient + 1 else quotient, ideal - shift⟩

/-- Ten to the power `n`; zeros are written out as far as the precision goes. -/
def tenPow (p : Precision) (n : Int) : Except Failure Decimal :=
  if p.maxExponent < n then .error .tooLarge
  else if n < p.leastExponent then .ok ⟨false, 0, p.leastExponent⟩
  else if n < 0 then .ok ⟨false, 1, n⟩
  else
    let written := min n.toNat (p.digits - 1)
    .ok ⟨false, Nat.pow 10 written, n - written⟩

def truncate (x : Decimal) : Int :=
  let magnitude : Nat :=
    if 0 ≤ x.exponent then x.coefficient * Nat.pow 10 x.exponent.toNat
    else dropDigits x.coefficient (-x.exponent).toNat
  if x.negative then -(magnitude : Int) else magnitude

def leNegOne (x : Decimal) : Bool := x.negative && x.coefficient ≠ 0 && 0 ≤ x.adjusted

end Decimal

namespace Numeral

open Decimal (Failure Precision)

def mul (p : Precision) : Numeral → Decimal → Except Failure Numeral
  | number x, y => (Decimal.mul p x y).map number
  | infinity negative, y =>
      if y.coefficient = 0 then .error .undefinedOperation
      else .ok (infinity (negative ^^ y.negative))
  | notANumber signaling, _ =>
      if signaling then .error .undefinedOperation else .ok (notANumber false)

def truncate : Numeral → Except Failure Int
  | number x => .ok x.truncate
  | infinity _ => .error .infiniteInteger
  | notANumber signaling => .error (if signaling then .undefinedOperation else .noInteger)

/-- Whether the value is at most minus one; without a number there is no answer. -/
def leNegOne : Numeral → Except Failure Bool
  | number x => .ok x.leNegOne
  | infinity negative => .ok negative
  | notANumber _ => .error .undefinedOperation

end Numeral
end ReserveAccounting
