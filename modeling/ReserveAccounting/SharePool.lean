import ReserveAccounting.Act
import ReserveAccounting.Decimal.Printer
import ReserveAccounting.FixedPoint
import ReserveAccounting.Table
import ReserveAccounting.Text.Case

/-!
# Share pools

A rebasing asset that keeps shares per holder and a pooled total. A balance is
the pro rata part of the total, so a rebase changes every balance without a
transfer. Conversions between amounts and shares round down.
-/

namespace ReserveAccounting

open FixedPoint

structure SharePool where
  symbol : String
  decimals : Int
  shares : Table String Int
  totalShares : Int
  totalPooled : Int
  rebaseCount : Nat
deriving Inhabited

namespace SharePool

def fresh (symbol : String) (decimals : Int) : SharePool := ⟨symbol, decimals, ∅, 0, 0, 0⟩

/-- The value of one share in ray; one while there are no shares. -/
def exchangeRate (p : SharePool) : Except Refusal Int :=
  if p.totalShares = 0 then .ok ray else rayDiv p.totalPooled p.totalShares

/-- The shares an amount is worth, rounded down; in an empty pool a share is a unit. -/
def sharesFor (p : SharePool) (amount : Int) : Int :=
  if p.totalShares = 0 ∨ p.totalPooled = 0 then amount
  else (amount * p.totalShares).fdiv p.totalPooled

def amountFor (p : SharePool) (shares : Int) : Int :=
  if p.totalShares = 0 then shares else (shares * p.totalPooled).fdiv p.totalShares

def sharesOf (p : SharePool) (holder : String) : Int := p.shares.getD (Text.lower holder) 0

def balanceOf (p : SharePool) (holder : String) : Int := p.amountFor (p.sharesOf holder)

def withShares (p : SharePool) (holder : String) (shares : Int) : SharePool :=
  let name := Text.lower holder
  { p with
    shares := p.shares.put name (p.shares.getD name 0 + shares)
    totalShares := p.totalShares + shares }

def mintShares (holder : String) (shares : Int) : Act SharePool Unit :=
  Act.update (·.withShares holder shares)

def submit (holder : String) (amount : Int) : Act SharePool Int := do
  let p ← Act.current
  if amount ≤ 0 then Act.refuse (.submitNotPositive p.symbol holder amount)
  else
    let minted := p.sharesFor amount
    mintShares holder minted
    Act.update fun p => { p with totalPooled := p.totalPooled + amount }
    return minted

def transferShares (sender recipient : String) (shares : Int) : Act SharePool Int := do
  let p ← Act.current
  let source := Text.lower sender
  let target := Text.lower recipient
  let available := p.shares.getD source 0
  if available < shares then
    Act.refuse (.assetTransferAboveShares p.symbol source shares available)
  else
    let debited := p.shares.put source (available - shares)
    Act.replace { p with shares := debited.put target (debited.getD target 0 + shares) }
    return shares

def transfer (sender recipient : String) (amount : Int) : Act SharePool Int := do
  let p ← Act.current
  transferShares sender recipient (p.sharesFor amount)

/-- What a fraction of the pooled total comes to; the product is rounded, then cut to an integer. -/
def rebaseDelta (p : SharePool) (fraction : Numeral) : Except Decimal.Failure Int := do
  let product ← fraction.mul .standard (Decimal.ofInt p.totalPooled)
  product.truncate

/-- Scales the pooled total by one plus a fraction above minus one, and answers the new rate. -/
def rebase (fraction : Numeral) : Act SharePool Int := do
  let p ← Act.current
  let wipesOut ← fraction.leNegOne.mapError Fault.decimal
  if wipesOut then Act.refuse (.poolWipedOut p.symbol fraction.text)
  else
    let delta ← (p.rebaseDelta fraction).mapError Fault.decimal
    let p' : SharePool :=
      { p with totalPooled := p.totalPooled + delta, rebaseCount := p.rebaseCount + 1 }
    Act.replace p'
    let rate ← p'.exchangeRate
    Act.note
      { level := .info, channel := .reserveAsset, message := "Reserve asset rebased"
        fields := [("event", .text "asset.rebase"), ("symbol", .text p.symbol),
          ("fraction", .text fraction.text), ("total_pooled", .int p'.totalPooled),
          ("exchange_rate", .int rate)] }
    return rate

end SharePool
end ReserveAccounting
