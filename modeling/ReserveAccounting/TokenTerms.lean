import ReserveAccounting.DepositToken

/-!
# Token terms

What a new deposit token is to be. A token either books plain balances or stands
over a rebasing asset; over an asset, what is left empty is named for the asset.
-/

namespace ReserveAccounting

structure TokenTerms where
  name : String
  symbol : String
  pool : String
  /-- The treasury; the usual one if empty. -/
  treasury : String
  decimals : Int
  reserve : Option ReserveIndex
  rewards : Option RewardProgram
deriving Inhabited

namespace TokenTerms

def orElse (given fallback : String) : String := if given.isEmpty then fallback else given

def nameOver (asset : String) : String := "Interest bearing " ++ asset

def symbolOver (asset : String) : String := "a" ++ asset

def token (t : TokenTerms) (underlying : String) (model : BalanceModel) : DepositToken :=
  { name := .text t.name, symbol := .text t.symbol, underlying := .text underlying, pool := t.pool
    treasury := orElse t.treasury defaultTreasury
    reserve := t.reserve.getD (.fresh underlying ReserveIndex.defaultMaxHistory)
    model := model, decimals := .int t.decimals, events := [], rewards := t.rewards }

def onLedger (t : TokenTerms) (underlying : String) : Except Fault DepositToken :=
  DepositToken.make (t.token underlying (.plain .empty))

def onAsset (t : TokenTerms) (asset : ReserveAsset) : Except Fault DepositToken :=
  let named :=
    { t with
      name := orElse t.name (nameOver asset.symbol)
      symbol := orElse t.symbol (symbolOver asset.symbol) }
  DepositToken.make (named.token asset.symbol (.rebasing (.fresh asset)))

end TokenTerms
end ReserveAccounting
