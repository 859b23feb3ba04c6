import ReserveAccounting.RebasingLedger

/-!
# Balance models

A deposit token books its balances in one of two ways: in shares of the reserve
itself, or, for a rebasing reserve asset, in shares of that asset.
-/

namespace ReserveAccounting

inductive BalanceModel where
  | plain (ledger : ShareLedger)
  | rebasing (book : RebasingLedger)
deriving Inhabited

namespace BalanceModel

def ledger : BalanceModel → ShareLedger
  | plain l => l
  | rebasing w => w.ledger

def asset? : BalanceModel → Option ReserveAsset
  | plain _ => none
  | rebasing w => some w.asset

def withAsset (m : BalanceModel) (a : ReserveAsset) : BalanceModel :=
  match m with
  | plain l => plain l
  | rebasing w => rebasing { w with asset := a }

def isRebasing : BalanceModel → Bool
  | plain _ => false
  | rebasing _ => true

def holders (m : BalanceModel) : List String := m.ledger.holders

/-- The weight of a holder in rewards: its shares, which move only when a change is booked. -/
def rewardBasisOf (m : BalanceModel) (holder : String) : Int := m.ledger.sharesOf holder

def rewardBasisSupply (m : BalanceModel) : Int := m.ledger.totalShares

/-- A call that is made in one way on shares of the reserve and in another on shares of an asset. -/
def dispatch {α : Type} (onPlain : Act ShareLedger α) (onRebasing : Act RebasingLedger α) :
    Act BalanceModel α := fun m =>
  match m with
  | plain l => Act.embed plain onPlain l
  | rebasing w => Act.embed rebasing onRebasing w

def view {α : Type} (f : ShareLedger → Except Refusal α) : Act ShareLedger α := do
  let l ← Act.current
  f l

def scaledBalanceOf (holder : String) : Act BalanceModel Int :=
  dispatch (view fun l => .ok (l.sharesOf holder)) (RebasingLedger.scaledBalanceOf holder)

def scaledTotalSupply : Act BalanceModel Int :=
  dispatch (view fun l => .ok l.totalShares) RebasingLedger.scaledTotalSupply

def balanceOf (holder : String) (index : Int) : Act BalanceModel Int :=
  dispatch (view fun l => l.balanceOf holder index) (RebasingLedger.balanceOf holder index)

def totalSupply (index : Int) : Act BalanceModel Int :=
  dispatch (view fun l => l.totalSupply index) (RebasingLedger.totalSupply index)

def mint (holder : String) (amount index : Int) : Act BalanceModel Bool :=
  dispatch (ShareLedger.mint holder amount index) (RebasingLedger.deposit holder amount index)

def burn (holder : String) (amount index : Int) : Act BalanceModel Int :=
  dispatch (ShareLedger.burn holder amount index) (RebasingLedger.withdraw holder amount index)

def transfer (sender recipient : String) (amount index : Int) : Act BalanceModel Int :=
  dispatch (ShareLedger.transfer sender recipient amount index)
    (RebasingLedger.transfer sender recipient amount index)

/-- Pins the exchange rate, if there is one; answers whether this call pinned it. -/
def pinRate : Act BalanceModel Bool :=
  dispatch (view fun _ => .ok false) (do
    let (_, mine) ← RebasingLedger.pinRate
    return mine)

def unpinned : BalanceModel → BalanceModel
  | plain l => plain l
  | rebasing w => rebasing w.unpinned

def toDocument : BalanceModel → Document
  | plain l => l.toDocument
  | rebasing w => w.toDocument

end BalanceModel
end ReserveAccounting
