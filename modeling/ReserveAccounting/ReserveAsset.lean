import ReserveAccounting.SharePool

/-!
# Reserve assets

What the accounting needs of a rebasing asset is a symbol and an exchange rate
to read. A reading may have an effect: a rate feed answers the next of its
rates each time it is read.
-/

namespace ReserveAccounting

structure RateFeed where
  symbol : String
  rates : Nat → Int
  reads : Nat
deriving Inhabited

namespace RateFeed

/-- The rates of a list, the last of them for ever. -/
def repeatingLast (rates : List Int) (n : Nat) : Int := rates[n]?.getD (rates.getLastD 0)

def read : Act RateFeed Int := do
  let f ← Act.current
  Act.replace { f with reads := f.reads + 1 }
  return f.rates f.reads

end RateFeed

inductive ReserveAsset where
  | pool (pool : SharePool)
  | feed (feed : RateFeed)
deriving Inhabited

namespace ReserveAsset

def symbol : ReserveAsset → String
  | pool p => p.symbol
  | feed f => f.symbol

/-- Reads the value of one reserve share, in ray. -/
def exchangeRate : Act ReserveAsset Int := fun a =>
  match a with
  | pool p =>
      match p.exchangeRate with
      | .ok rate => ⟨.ok rate, a, []⟩
      | .error r => ⟨.error (.ofRefusal r), a, []⟩
  | feed f => Act.embed feed RateFeed.read f

def onPool {α : Type} (m : Act SharePool α) : Act ReserveAsset α := fun a =>
  match a with
  | pool p => Act.embed pool m p
  | feed _ => ⟨.error .notSupported, a, []⟩

def pool? : ReserveAsset → Option SharePool
  | pool p => some p
  | feed _ => none

end ReserveAsset
end ReserveAccounting
