import ReserveAccounting.ReserveAsset
import ReserveAccounting.ShareLedger

/-!
# Rebasing ledgers

Deposits of a rebasing asset are booked in reserve shares. Two growth factors
meet only when a value is read: a scaled balance is the reserve shares times the
exchange rate, and a balance is the scaled balance times the liquidity index.
An operation reads the rate once and uses that reading throughout; a pinned
rate is used instead of a reading.
-/

namespace ReserveAccounting

open FixedPoint

structure RebasingLedger where
  asset : ReserveAsset
  ledger : ShareLedger
  /-- The rate that stands in for readings, if one is pinned. -/
  pinned : Option Int
  rateReads : Nat
deriving Inhabited

namespace RebasingLedger

def fresh (asset : ReserveAsset) : RebasingLedger := ⟨asset, .empty, none, 0⟩

def internalSharesOf (w : RebasingLedger) (holder : String) : Int := w.ledger.sharesOf holder

def onAsset {α : Type} (m : Act ReserveAsset α) : Act RebasingLedger α :=
  Act.within (·.asset) (fun a w => { w with asset := a }) m

def onLedger {α : Type} (m : Act ShareLedger α) : Act RebasingLedger α :=
  Act.within (·.ledger) (fun l w => { w with ledger := l }) m

/-- The rate of the present operation: the pinned one, or else a reading, which must be positive. -/
def snapshot : Act RebasingLedger Int := do
  let w ← Act.current
  match w.pinned with
  | some rate => return rate
  | none =>
      let rate ← onAsset ReserveAsset.exchangeRate
      Act.update fun w => { w with rateReads := w.rateReads + 1 }
      if rate ≤ 0 then Act.refuse (.rateNotPositive w.asset.symbol rate) else return rate

def pinRate : Act RebasingLedger (Int × Bool) := do
  let w ← Act.current
  match w.pinned with
  | some rate => return (rate, false)
  | none =>
      let rate ← snapshot
      Act.update fun w => { w with pinned := some rate }
      return (rate, true)

def unpinned (w : RebasingLedger) : RebasingLedger := { w with pinned := none }

/-- Runs a call with one rate pinned; whoever pinned it unpins it, whatever came of the call. -/
def withPinnedRate {α : Type} (m : Int → Act RebasingLedger α) : Act RebasingLedger α := do
  let (rate, mine) ← pinRate
  if mine then (m rate).thenAlways unpinned else m rate

/-! ## Balances -/

def scaledBalanceOf (holder : String) : Act RebasingLedger Int := do
  let rate ← snapshot
  let w ← Act.current
  rayMul (w.internalSharesOf holder) rate

def scaledTotalSupply : Act RebasingLedger Int := do
  let rate ← snapshot
  let w ← Act.current
  rayMul w.ledger.totalShares rate

def balanceOf (holder : String) (index : Int) : Act RebasingLedger Int := do
  let scaled ← scaledBalanceOf holder
  rayMul scaled index

def totalSupply (index : Int) : Act RebasingLedger Int := do
  let scaled ← scaledTotalSupply
  rayMul scaled index

/-! ## Changes -/

def noteBooking (message event holder : String) (amount shares rate : Int) : Act RebasingLedger Unit :=
  Act.note
    { level := .debug, channel := .rebasingLedger, message := message
      fields := [("event", .text event), ("holder", Record.brief (Text.lower holder)),
        ("amount", .int amount), ("reserve_shares", .int shares), ("rate", .int rate)] }

/-- Books a deposit, and answers whether the holder had no shares. Shares are rounded down. -/
def deposit (holder : String) (amount index : Int) : Act RebasingLedger Bool := do
  if amount ≤ 0 then Act.refuse (.depositNotPositive "holder" holder amount)
  else
    let (first, shares, rate) ← withPinnedRate fun rate => do
      let scaled ← rayDiv amount index
      if scaled = 0 then Act.refuse (.depositWithoutUnits holder amount index)
      else
        let shares ← rayDivFloor scaled rate
        if shares = 0 then Act.refuse (.depositWithoutShares holder amount rate)
        else
          let w ← Act.current
          let _ ← onLedger (ShareLedger.applyDelta holder shares .mint)
          return (decide (w.internalSharesOf holder = 0), shares, rate)
    noteBooking "Rebasing deposit booked" "wrapper.deposit" holder amount shares rate
    return first

def withdraw (holder : String) (amount index : Int) : Act RebasingLedger Int := do
  let (amount, shares, rate) ← withPinnedRate fun rate => do
    let w ← Act.current
    let held := w.internalSharesOf holder
    let scaled ← rayMul held rate
    let balance ← rayMul scaled index
    let amount := if amount = everything then balance else amount
    if amount ≤ 0 then Act.refuse (.withdrawalNotPositive holder amount)
    else if balance < amount then Act.refuse (.withdrawalAboveBalance holder amount balance)
    else
      let quotient ← rayDiv amount index
      let shares ← rayDiv quotient rate
      if shares = 0 then Act.refuse (.withdrawalWithoutShares holder amount rate)
      else
        let _ ← onLedger (ShareLedger.applyDelta holder (-(min shares held)) .burn)
        return (amount, min shares held, rate)
  noteBooking "Rebasing withdrawal booked" "wrapper.withdraw" holder amount shares rate
  return amount

def transfer (sender recipient : String) (amount index : Int) : Act RebasingLedger Int := do
  if amount < 0 then Act.refuse (.negativeTransfer sender amount)
  else
    withPinnedRate fun rate => do
      let w ← Act.current
      let held := w.internalSharesOf sender
      let scaled ← rayMul held rate
      let balance ← rayMul scaled index
      if balance < amount then Act.refuse (.transferAboveBalance sender amount balance)
      else
        let quotient ← rayDiv amount index
        let shares ← rayDiv quotient rate
        onLedger (ShareLedger.moveShares sender recipient (min shares held))
        return min shares held

/-! ## Snapshots -/

def toDocument (w : RebasingLedger) : Document :=
  .record [("asset", .text w.asset.symbol), ("ledger", w.ledger.toDocument)]

def ofDocument (d : Document) (asset : ReserveAsset) : Except Fault RebasingLedger := do
  let ledger ← ShareLedger.ofDocument (← d.fieldOr "ledger" (.map []))
  .ok { fresh asset with ledger := ledger }

end RebasingLedger
end ReserveAccounting
