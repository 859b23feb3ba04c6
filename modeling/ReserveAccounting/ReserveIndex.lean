import ReserveAccounting.Act
import ReserveAccounting.Document.Fields
import ReserveAccounting.FixedPoint

/-!
# The liquidity index

The liquidity index of a reserve is the growth factor, in ray, that turns
shares into balances. It starts positive and only rises. Every committed value
is kept with its reason in a bounded history.
-/

namespace ReserveAccounting

open FixedPoint

structure IndexCommit where
  index : Int
  reason : String
deriving DecidableEq, Repr, Inhabited

structure ReserveIndex where
  /-- What the reserve holds; a snapshot may name it by any value. -/
  asset : Document
  liquidityIndex : Int
  history : List IndexCommit
  maxHistory : Int
deriving Inhabited

namespace ReserveIndex

def defaultMaxHistory : Int := 1000

def startAs (asset : Document) (index maxHistory : Int) : Except Refusal ReserveIndex :=
  if index ≤ 0 then .error (.indexNotPositive asset index)
  else .ok ⟨asset, index, [⟨index, "init"⟩], maxHistory⟩

def start (asset : String) (index maxHistory : Int) : Except Refusal ReserveIndex :=
  startAs (.text asset) index maxHistory

def fresh (asset : String) (maxHistory : Int) : ReserveIndex :=
  ⟨.text asset, ray, [⟨ray, "init"⟩], maxHistory⟩

/-- The reserve under another name, if it has none of its own. -/
def named (r : ReserveIndex) (asset : Document) : ReserveIndex :=
  if r.asset.isGiven then r else { r with asset := asset }

def admits (r : ReserveIndex) (index : Int) : Except Refusal Unit :=
  if index ≤ 0 then .error (.indexNotPositive r.asset index)
  else if index < r.liquidityIndex then .error (.indexBelowCurrent r.asset index r.liquidityIndex)
  else .ok ()

/-- The last entries of a list; a bound that is not positive drops entries from the front. -/
def window (bound : Int) (entries : List IndexCommit) : List IndexCommit :=
  if (entries.length : Int) ≤ bound then entries
  else if 0 < bound then entries.drop (entries.length - bound.toNat)
  else entries.drop bound.natAbs

def commit (r : ReserveIndex) (index : Int) (reason : String) : ReserveIndex :=
  { r with liquidityIndex := index, history := window r.maxHistory (r.history ++ [⟨index, reason⟩]) }

/-- Raises the index to a value; the present value is accepted and changes nothing. -/
def raise (index : Int) (reason : String) : Act ReserveIndex Int := do
  let r ← Act.current
  r.admits index
  if index = r.liquidityIndex then return index
  Act.replace (r.commit index reason)
  Act.note
    { level := .debug, channel := .reserve, message := "Liquidity index updated"
      fields := [("event", .text "reserve.index_updated"), ("asset", r.asset),
        ("previous", .int r.liquidityIndex), ("index", .int index), ("reason", .text reason)] }
  return index

def cumulated (r : ReserveIndex) (totalLiquidity amount : Int) : Except Refusal Int := do
  if totalLiquidity ≤ 0 then .error (.noLiquidity r.asset amount)
  else if amount < 0 then .error (.negativePremium r.asset amount)
  else
    let amountRay ← wadToRay amount
    let totalRay ← wadToRay totalLiquidity
    let ratio ← rayDiv amountRay totalRay
    rayMul (ratio + ray) r.liquidityIndex

def cumulate (totalLiquidity amount : Int) : Act ReserveIndex Int := do
  let r ← Act.current
  let index ← r.cumulated totalLiquidity amount
  raise index "premium"

/-! ## Snapshots -/

def toDocument (r : ReserveIndex) : Document :=
  .record [("asset", r.asset), ("liquidity_index", .int r.liquidityIndex)]

/-- A reserve restored from a snapshot; its history starts anew. -/
def ofDocument (d : Document) : Except Fault ReserveIndex := do
  let asset ← d.fieldOr "asset" (.text "")
  let index ← (← d.fieldOr "liquidity_index" (.int ray)).toInt
  (startAs asset index defaultMaxHistory).mapError Fault.ofRefusal

end ReserveIndex
end ReserveAccounting
