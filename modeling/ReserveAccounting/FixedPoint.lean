import ReserveAccounting.Refusal

/-!
# Fixed-point arithmetic

Amounts and rates are integers that count small units: a wad has eighteen
places, a ray twenty-seven, and a percentage is given in basis points. Products
and quotients are rounded to the nearest unit, a half upward, and every operand
and every numerator must fit an unsigned word of 256 bits.
-/

namespace ReserveAccounting
namespace FixedPoint

/-- The largest unsigned word of 256 bits. -/
def maxAmount : Int := 0xFFFFFFFFFFFFFFFFFFFFFFFFFFFFFFFFFFFFFFFFFFFFFFFFFFFFFFFFFFFFFFFF

def wad : Int := 1000000000000000000
def ray : Int := 1000000000000000000000000000
def wadRayRatio : Int := 1000000000
def percentageFactor : Int := 10000

/-- An operand is not negative and fits a word; a negative one is refused first. -/
def requireOperand (op : String) (value : Int) : Except Refusal Unit :=
  if value < 0 then .error (.negativeOperand op value)
  else if maxAmount < value then .error (.operandTooLarge op)
  else .ok ()

def mulHalfUp (op : String) (unit a b : Int) : Except Refusal Int := do
  requireOperand op a
  requireOperand op b
  if b ≠ 0 ∧ (maxAmount - unit / 2) / b < a then .error (.productTooLarge op)
  else .ok ((a * b + unit / 2) / unit)

def divHalfUp (op : String) (unit a b : Int) : Except Refusal Int := do
  requireOperand op a
  requireOperand op b
  if b = 0 then .error (.zeroDivisor op a)
  else if (maxAmount - b / 2) / unit < a then .error (.dividendTooLarge op)
  else .ok ((a * unit + b / 2) / b)

def rayMul : Int → Int → Except Refusal Int := mulHalfUp "ray_mul" ray

def rayDiv : Int → Int → Except Refusal Int := divHalfUp "ray_div" ray

/-- The quotient of two rays, rounded down: nobody is credited more than an amount covers. -/
def rayDivFloor (a b : Int) : Except Refusal Int := do
  requireOperand "ray_div_floor" a
  requireOperand "ray_div_floor" b
  if b = 0 then .error (.zeroDivisor "ray_div_floor" a)
  else if maxAmount / ray < a then .error (.dividendTooLarge "ray_div_floor")
  else .ok (a * ray / b)

def wadMul : Int → Int → Except Refusal Int := mulHalfUp "wad_mul" wad

def wadDiv : Int → Int → Except Refusal Int := divHalfUp "wad_div" wad

def wadToRay (a : Int) : Except Refusal Int := do
  requireOperand "wad_to_ray" a
  if maxAmount < a * wadRayRatio then .error (.resultTooLarge "wad_to_ray")
  else .ok (a * wadRayRatio)

def rayToWad (a : Int) : Except Refusal Int := do
  requireOperand "ray_to_wad" a
  .ok ((a + wadRayRatio / 2) / wadRayRatio)

def percentMul : Int → Int → Except Refusal Int := mulHalfUp "percent_mul" percentageFactor

end FixedPoint
end ReserveAccounting
