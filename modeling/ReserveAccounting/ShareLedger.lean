import ReserveAccounting.Act
import ReserveAccounting.Document.Fields
import ReserveAccounting.FixedPoint
import ReserveAccounting.Table

/-!
# Share ledgers

A ledger holds shares; a balance is the shares of a holder times the index that
the caller supplies, and it is never stored. Growth of the index reaches every
holder at once. All changes of shares go through one operation, `applyDelta`,
whose reason must agree with the sign of the change.
-/

namespace ReserveAccounting

open FixedPoint

inductive BalanceChange where
  | mint
  | burn
  | transferIn
  | transferOut
deriving DecidableEq, Repr, Inhabited

namespace BalanceChange

def name : BalanceChange → String
  | mint => "mint"
  | burn => "burn"
  | transferIn => "transfer_in"
  | transferOut => "transfer_out"

def ofName? (s : String) : Option BalanceChange :=
  [mint, burn, transferIn, transferOut].find? fun r => r.name == s

def isCredit : BalanceChange → Bool
  | mint => true
  | transferIn => true
  | burn => false
  | transferOut => false

def changesSupply : BalanceChange → Bool
  | mint => true
  | burn => true
  | transferIn => false
  | transferOut => false

end BalanceChange

def everything : Int := maxAmount

/-- Shares per holder, under small-letter names, and their recorded total. -/
structure ShareLedger where
  shares : Table String Int
  totalShares : Int
deriving Inhabited

namespace ShareLedger

def empty : ShareLedger := ⟨∅, 0⟩

/-- The names that have an entry, oldest first; an entry stays when it drops to zero. -/
def holders (l : ShareLedger) : List String := l.shares.keys

def sharesOf (l : ShareLedger) (holder : String) : Int := l.shares.getD (Text.lower holder) 0

def balanceOf (l : ShareLedger) (holder : String) (index : Int) : Except Refusal Int :=
  rayMul (l.sharesOf holder) index

def totalSupply (l : ShareLedger) (index : Int) : Except Refusal Int := rayMul l.totalShares index

/-- Writes the shares of a holder, and moves the total if the reason says so. -/
def withDelta (l : ShareLedger) (name : String) (delta : Int) (reason : BalanceChange) : ShareLedger :=
  { shares := l.shares.put name (l.shares.getD name 0 + delta)
    totalShares := if reason.changesSupply then l.totalShares + delta else l.totalShares }

def applyDelta (holder : String) (delta : Int) (reason : BalanceChange) : Act ShareLedger Int := do
  let l ← Act.current
  if delta = 0 ∨ (decide (0 < delta)) ≠ reason.isCredit then
    Act.refuse (.deltaAgainstReason holder delta reason.name)
  else
    let name := Text.lower holder
    let held := l.shares.getD name 0
    if held + delta < 0 then Act.refuse (.sharesBelowZero name held delta)
    else
      let l' := l.withDelta name delta reason
      Act.replace l'
      Act.note
        { level := .debug, channel := .ledger, message := "Balance delta applied"
          fields := [("event", .text "ledger.delta"), ("holder", Record.brief name),
            ("delta", .int delta), ("reason", .text reason.name),
            ("total_shares", .int l'.totalShares)] }
      return held + delta

def mint (holder : String) (amount index : Int) : Act ShareLedger Bool := do
  if amount ≤ 0 then Act.refuse (.amountNotPositive "mint" amount)
  else
    let delta ← rayDiv amount index
    if delta = 0 then Act.refuse (.mintWithoutShares holder amount index)
    else
      let l ← Act.current
      let _ ← applyDelta holder delta .mint
      return l.sharesOf holder = 0

/--
Debits an amount, or everything, from a holder, and answers the amount. Rounding
may ask for one share more than the holder has; no more than all shares go.
-/
def burn (holder : String) (amount index : Int) : Act ShareLedger Int := do
  let l ← Act.current
  let balance ← l.balanceOf holder index
  let amount := if amount = everything then balance else amount
  if amount ≤ 0 then Act.refuse (.amountNotPositive "burn" amount)
  else if balance < amount then Act.refuse (.burnAboveBalance holder amount balance)
  else
    let delta ← rayDiv amount index
    if delta = 0 then Act.refuse (.burnWithoutShares holder amount index)
    else
      let _ ← applyDelta holder (-(min delta (l.sharesOf holder))) .burn
      return amount

/-- Moves shares between holders; moving none gives the recipient an entry. -/
def moveShares (sender recipient : String) (delta : Int) : Act ShareLedger Unit := do
  let l ← Act.current
  if l.sharesOf sender < delta then
    Act.refuse (.transferAboveShares sender delta (l.sharesOf sender))
  else if delta = 0 then
    Act.replace { l with shares := l.shares.ensure (Text.lower recipient) 0 }
  else
    let _ ← applyDelta sender (-delta) .transferOut
    let _ ← applyDelta recipient delta .transferIn
    return

def transfer (sender recipient : String) (amount index : Int) : Act ShareLedger Int := do
  if amount < 0 then Act.refuse (.negativeTransfer sender amount)
  else
    let l ← Act.current
    let balance ← l.balanceOf sender index
    if balance < amount then Act.refuse (.transferAboveBalance sender amount balance)
    else
      let quotient ← rayDiv amount index
      let delta := min quotient (l.sharesOf sender)
      moveShares sender recipient delta
      return delta

/-! ## Snapshots -/

def toDocument (l : ShareLedger) : Document :=
  .record [("shares", .record (l.shares.toList.map fun e => (e.1, .int e.2))),
    ("total_shares", .int l.totalShares)]

def sharesOfDocument : List (Document × Document) → Table String Int → Except Fault (Table String Int)
  | [], t => .ok t
  | (k, v) :: rest, t => do
      let name ← k.lowered
      let n ← v.toInt
      sharesOfDocument rest (t.put name n)

/-- A ledger restored from a snapshot; a missing total is the sum of the shares. -/
def ofDocument (d : Document) : Except Fault ShareLedger := do
  let es ← (← d.fieldOr "shares" (.map [])).entries
  let shares ← sharesOfDocument es ∅
  let total ← (← d.fieldOr "total_shares" (.int (shares.values.foldr (· + ·) 0))).toInt
  .ok ⟨shares, total⟩

end ShareLedger
end ReserveAccounting
