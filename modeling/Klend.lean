import Klend.Results.ObligationFreshness
import Klend.Results.BorrowLimit
import Klend.Results.BorrowValue
import Klend.Results.BorrowFunds
import Klend.Results.Solvency
import Klend.Results.LimitClocks
import Klend.Results.LiquidationBounds
import Klend.Results.WithdrawalCaps
import Klend.Results.CollateralCustody
import Klend.Results.ExchangeRate
import Klend.Results.ReferralFees
import Klend.Results.RefreshIdempotence
import Klend.Results.FlashLoans
import Klend.Results.CompoundInterest
import Klend.Results.MarketConfigSync
import Klend.Results.PriceFlags
import Klend.Positions.Contributions
import Klend.Accounting.ExchangeRate
import Klend.Lending.BorrowSpecs
import Klend.Lending.VaultChecks
import Klend.Machine.Rational
import Klend.Library.Buffer
import Klend.Library.Digits
import Klend.Machine.Bytes
import Klend.Lending.MarketUpdates
import Klend.Sdk.Encoding
import Klend.Sdk.MarketConfig
import Klend.Positions.Isolation
import Klend.Positions.IsolationSteps
import Klend.Results.Isolation
import Klend.Positions.LiquidationOrder
import Klend.Positions.LiquidationPairs
import Klend.Results.LiquidationPairs
import Klend.Lending.RepayAndWithdraw
import Klend.Positions.Refreshing
import Klend.Positions.RepayAndWithdraw
import Klend.Results.RepayAndWithdraw
import Klend.Library.Segments
import Klend.Results.BorrowRates
import Klend.Results.InterestGrowth
import Klend.Results.Repayments
import Klend.Results.BonusCaps
import Klend.Results.LiquidatedCollateral
import Klend.Lending.Withdrawals
import Klend.Results.Withdrawals
import Klend.Lending.Deposits
import Klend.Results.Deposits
import Klend.Lending.Repayments
import Klend.Results.RepaymentChecks
import Klend.Lending.ReserveConfigBytes
import Klend.Library.Settings
import Klend.Sdk.ReserveConfig
import Klend.Sdk.ReserveEncoding
import Klend.Lending.ReserveConfigSettings
import Klend.Results.ReserveConfigSync
import Klend.Results.ReserveConfigFrames
import Klend.Results.CurveSerialization
import Klend.Results.VaultBalances
import Klend.Lending.ScopePrices
import Klend.Results.OraclePrices
import Klend.Results.WithdrawalChecks
import Klend.Results.InterestEstimates
import Klend.Library.ExtendedRationals
import Klend.Sdk.VaultAllocations
import Klend.Library.CappedShares
import Klend.Results.VaultAllocations
import Klend.Sdk.VaultWithdrawals
import Klend.Results.VaultWithdrawals
import Klend.Sdk.ObligationPositions
import Klend.Sdk.ObligationSimulation
import Klend.Results.SimulatedDebts
import Klend.Results.RateDecoders
import Klend.Results.LeveragePlans
import Klend.Sdk.RepayWithCollateral
import Klend.Results.LoadedPositions
import Klend.Results.RepayEstimates
import Klend.Results.WithdrawableCollateral
import Klend.Results.ElevationGroups
import Klend.Results.RiskValues
import Klend.Positions.TrackerUpdates
import Klend.Positions.TrackerRefresh
import Klend.Positions.TrackerGroups
import Klend.Positions.CountedDebts
import Klend.Positions.TrackerSteps
import Klend.Results.DebtTrackers
import Klend.Results.CollateralLimits
import Klend.Positions.TrackerLimits
import Klend.Results.GroupPositions
import Klend.Results.GroupEntry
import Klend.Results.LiquidationSolvency
import Klend.Results.LiquidationAborts
