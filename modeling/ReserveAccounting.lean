import ReserveAccounting.CommandLine.Run
import ReserveAccounting.Main
import ReserveAccounting.Desk
import ReserveAccounting.Proofs.OwedRewards
import ReserveAccounting.Proofs.RewardConservation
import ReserveAccounting.Proofs.ShareConservation
import ReserveAccounting.Proofs.TransparentRuns
import ReserveAccounting.Proofs.VaultRuns
import ReserveAccounting.Proofs.VaultViews
import ReserveAccounting.Proofs.RefusedSteps
import ReserveAccounting.Proofs.RefusedTrackerCalls
import ReserveAccounting.Proofs.ParRates
import ReserveAccounting.Proofs.RestoredVaults
import ReserveAccounting.Proofs.VaultConservation
import ReserveAccounting.Proofs.VaultTotals
import ReserveAccounting.Proofs.VaultRates
import ReserveAccounting.Proofs.Entitlements
import ReserveAccounting.Proofs.Surplus
import ReserveAccounting.Proofs.PresentedBalances
import ReserveAccounting.Proofs.SparedHolders
import ReserveAccounting.Proofs.TreasuryCuts
import ReserveAccounting.Proofs.Footprints
import ReserveAccounting.Proofs.RewardFootprints
import ReserveAccounting.Proofs.TokenFootprints
import ReserveAccounting.Proofs.IndependentCalls
import ReserveAccounting.Proofs.Premiums
import ReserveAccounting.Proofs.UnitDrift
import ReserveAccounting.Proofs.Rebases
import ReserveAccounting.Proofs.LeftOvers
import ReserveAccounting.Proofs.Sweeps
import ReserveAccounting.Proofs.BalanceMoves
import ReserveAccounting.Proofs.DepositCredits
import ReserveAccounting.Proofs.Valuations
import ReserveAccounting.Proofs.DecimalTexts
import ReserveAccounting.Proofs.IndexHistories
import ReserveAccounting.Proofs.NearestDecimals
import ReserveAccounting.Proofs.UnitConversions
import ReserveAccounting.Proofs.SolventPools
import ReserveAccounting.Proofs.SolventScenarios
import ReserveAccounting.Proofs.TrackerRuns
import ReserveAccounting.Proofs.PoolRuns
import ReserveAccounting.Proofs.WordArithmetic
