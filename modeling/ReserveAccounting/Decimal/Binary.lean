import ReserveAccounting.Decimal.Reader
import ReserveAccounting.Text.Integer

/-!
# From decimal to binary

The binary floating-point number nearest to a decimal, and the one that a text
denotes. Decimals beyond the range of binary numbers become an infinity or a
zero.
-/

namespace ReserveAccounting

/-- A decimal whose leading digit stands beyond this power of ten is out of range. -/
def floatReach : Int := 400

def Decimal.toFloat (x : Decimal) : Float :=
  let magnitude :=
    if x.coefficient = 0 then 0.0
    else if floatReach < x.adjusted then Float.ofScientific 1 false 400
    else if x.adjusted < -floatReach then 0.0
    else Float.ofScientific x.coefficient (x.exponent < 0) x.exponent.natAbs
  if x.negative then -magnitude else magnitude

/--
The binary floating-point number that a text denotes: a signed decimal of any
size, an infinity or no number, with blanks around it.
-/
def Numeral.floatOfText? (s : String) : Option Float := do
  let cs := (Text.trimWhere Text.isNumberBlank s.toList).map Numeral.canonicalChar
  let (negative, body) := Text.splitSign cs
  let signed (x : Float) : Float := if negative then -x else x
  if body = "inf".toList || body = "infinity".toList then some (signed (1.0 / 0.0))
  else if body = "nan".toList then some (0.0 / 0.0)
  else (Numeral.written? negative body).map Decimal.toFloat

end ReserveAccounting
