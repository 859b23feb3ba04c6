import ReserveAccounting.Decimal.Printer
import ReserveAccounting.Decimal.Reader

/-!
# Base units

Amounts are typed in whole units of an asset and kept in base units, of which a
whole unit has a power of ten. What does not fill a base unit is dropped.
-/

namespace ReserveAccounting
namespace BaseUnits

open Decimal (Failure Precision)

/-- The base units in an amount of whole units, rounded toward zero. -/
def ofAmount (amount : Numeral) (decimals : Int) : Except Failure Int := do
  let unit ← Decimal.tenPow .standard decimals
  let scaled ← amount.mul .standard unit
  scaled.truncate

def ofText (amount : String) (decimals : Int) : Except Failure Int := do
  ofAmount (← Numeral.ofText amount) decimals

def toAmount (units decimals : Int) : Except Failure Decimal := do
  let unit ← Decimal.tenPow .standard decimals
  Decimal.div .standard (Decimal.ofInt units) unit

end BaseUnits
end ReserveAccounting
