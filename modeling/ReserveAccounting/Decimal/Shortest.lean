/-!
# The shortest decimal of a binary fraction

A binary floating-point number stands for an interval of reals, those that
round to it. Its text has the fewest significant digits that still lie in that
interval, and among those the digits nearest to the number itself.
-/

namespace ReserveAccounting
namespace Shortest

/-- A positive number `significand · 2 ^ exponent` and whether its interval is closed. -/
structure Binary where
  significand : Nat
  exponent : Int
  /-- The gap below the number is half the gap above. -/
  narrowBelow : Bool
deriving Repr

def signBit : Nat := 0x8000000000000000

def leadingBit : Nat := 0x10000000000000

def Binary.ofBits (bits : Nat) : Binary :=
  let fraction := bits % leadingBit
  let power := bits / leadingBit % 0x800
  if power = 0 then ⟨fraction, -1074, false⟩
  else ⟨fraction + leadingBit, (power : Nat) - (1075 : Int), fraction = 0 && power ≠ 1⟩

structure Interval where
  low : Nat
  value : Nat
  high : Nat
  divisor : Nat
  closed : Bool

def Binary.interval (b : Binary) : Interval :=
  let up := Nat.pow 2 b.exponent.toNat
  let divisor := 4 * Nat.pow 2 (-b.exponent).toNat
  { low := (4 * b.significand - if b.narrowBelow then 1 else 2) * up
    value := 4 * b.significand * up
    high := (4 * b.significand + 2) * up
    divisor := divisor
    closed := b.significand % 2 = 0 }

def Interval.scale (i : Interval) (e : Int) : Interval :=
  let up := Nat.pow 10 e.toNat
  { i with
    low := i.low * up, value := i.value * up, high := i.high * up
    divisor := i.divisor * Nat.pow 10 (-e).toNat }

def Interval.contains (i : Interval) (n : Nat) : Bool :=
  let point := n * i.divisor
  if i.closed then i.low ≤ point && point ≤ i.high else i.low < point && point < i.high

def Interval.gridPoint? (i : Interval) : Option Nat :=
  let below := i.value / i.divisor
  let distance := i.value % i.divisor
  match i.contains below, i.contains (below + 1) with
  | true, true =>
      if 2 * distance < i.divisor || (2 * distance = i.divisor && below % 2 = 0)
      then some below else some (below + 1)
  | true, false => some below
  | false, true => some (below + 1)
  | false, false => none

def Interval.reaches (i : Interval) (e : Int) : Bool :=
  i.divisor * Nat.pow 10 e.toNat ≤ i.value * Nat.pow 10 (-e).toNat

def Interval.leading (i : Interval) : Nat → Int → Int
  | 0, e => e
  | fuel + 1, e => if i.reaches e then e else i.leading fuel (e - 1)

/-- Tries one, two, three … digits; `count` is the number of digits tried first. -/
def Interval.digits (i : Interval) (leading : Int) : Nat → Nat → Nat × Int
  | 0, count =>
      let s := i.scale (count - 1 - leading)
      (s.value / s.divisor, leading - (count - 1))
  | fuel + 1, count =>
      match (i.scale (count - 1 - leading)).gridPoint? with
      | some n => (n, leading - (count - 1))
      | none => i.digits leading fuel (count + 1)

def normal : Nat → Nat × Int → Nat × Int
  | 0, r => r
  | fuel + 1, (n, e) => if n ≠ 0 && n % 10 = 0 then normal fuel (n / 10, e + 1) else (n, e)

/-- The shortest digits `n` and the exponent `e` with `n · 10 ^ e` in the interval. -/
def Binary.shortest (b : Binary) : Nat × Int :=
  let i := b.interval
  normal 20 (i.digits (i.leading 700 309) 17 1)

end Shortest

structure FloatStyle where
  maxPoint : Int
  minPoint : Int
  exponentDigits : Nat

/-- Positional from `0.0001` to below `10 ^ 16`; an exponent has a sign and two digits or more. -/
def FloatStyle.standard : FloatStyle := ⟨16, -3, 2⟩

namespace FloatStyle

def write (style : FloatStyle) (n : Nat) (e : Int) : List Char :=
  let digits := Nat.toDigits 10 n
  let point : Int := digits.length + e
  if style.minPoint ≤ point && point ≤ style.maxPoint then
    if point ≤ 0 then '0' :: '.' :: List.replicate (-point).toNat '0' ++ digits
    else
      let whole := digits.take point.toNat ++ List.replicate (point.toNat - digits.length) '0'
      let fraction := digits.drop point.toNat
      whole ++ '.' :: (if fraction.isEmpty then ['0'] else fraction)
  else
    let power := point - 1
    let powerDigits := Nat.toDigits 10 power.natAbs
    let mantissa :=
      match digits with
      | d :: rest => d :: (if rest.isEmpty then [] else '.' :: rest)
      | [] => []
    mantissa ++ 'e' :: (if power < 0 then '-' else '+') ::
      (List.replicate (style.exponentDigits - powerDigits.length) '0' ++ powerDigits)

def text (style : FloatStyle) (x : Float) : String :=
  if x.isNaN then "nan"
  else
    let bits := x.toBits.toNat
    let sign := if bits ≥ Shortest.signBit then "-" else ""
    let magnitude := bits % Shortest.signBit
    if x.isInf then sign ++ "inf"
    else if magnitude = 0 then sign ++ "0.0"
    else
      let (n, e) := (Shortest.Binary.ofBits magnitude).shortest
      sign ++ String.ofList (style.write n e)

end FloatStyle
end ReserveAccounting
